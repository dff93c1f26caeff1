import InterfaceAudit.Json.Value

/-!
Contract: what is logged, before anyone decides whether and how to show it.

Owns:
- levels and their order of verbosity;
- events with their fields and the spans they happen in.

Does not own: filters, or the text of an event.
-/

namespace InterfaceAudit.Log

/-- How much attention an event asks for, the most grave level first. -/
inductive Level where
  | error
  | warn
  | info
  | debug
  | trace
deriving DecidableEq, Repr, Inhabited

namespace Level

def rank : Level → Nat
  | .error => 1
  | .warn => 2
  | .info => 3
  | .debug => 4
  | .trace => 5

def name : Level → String
  | .error => "error"
  | .warn => "warn"
  | .info => "info"
  | .debug => "debug"
  | .trace => "trace"

/-- The name of a level in upper case. -/
def label : Level → String
  | .error => "ERROR"
  | .warn => "WARN"
  | .info => "INFO"
  | .debug => "DEBUG"
  | .trace => "TRACE"

def all : List Level := [.error, .warn, .info, .debug, .trace]

def moreVerbose (x y : Level) : Level :=
  if x.rank < y.rank then y else x

end Level

inductive FieldValue where
  | text (value : String)
  | number (value : Nat)
deriving DecidableEq, Repr

def FieldValue.shown : FieldValue → String
  | .text value => value
  | .number value => toString value

/-- A value as JSON: numbers stay numbers. -/
def FieldValue.toJson : FieldValue → Json.Value
  | .text value => .string value
  | .number value => .integer value

abbrev Fields := List (String × FieldValue)

/-- A stretch of work that events happen in. -/
structure Span where
  name : String
  target : String
  level : Level
  fields : Fields
deriving DecidableEq, Repr

/-- Something that happened. Spans are listed from the outside in. -/
structure Event where
  level : Level
  target : String
  message : String
  fields : Fields := []
  spans : List Span := []
deriving DecidableEq, Repr

/-- The event, inside one more span. -/
def Event.within (span : Span) (event : Event) : Event :=
  { event with spans := span :: event.spans }

def diagnosticTarget : String := "surface_probe::diagnostic"

end InterfaceAudit.Log
