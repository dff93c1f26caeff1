import InterfaceAudit.Script

/-!
Contract: the routines that a script's preamble defines, as syntax.

Owns:
- the fragment of the runtime's language that the preamble is written in;
- the three routines;
- the law that the preamble is their text behind the definition of the state.

Does not own: what the routines do when they are called.
-/

namespace InterfaceAudit.Script

/-! ## The fragment -/

inductive Variable where
  | state | constName | loc | const | recvName | methodName
  | singleton | allowMissing | separator | fallback
deriving DecidableEq, Repr

inductive RoutineName where
  | getConst | dispatchFallback | getMethod
deriving DecidableEq, Repr

/-- The classes of exceptions that the preamble and its statements tell apart. -/
inductive ExceptionClass where
  | root | scriptError | loadError | standardError | nameError
deriving DecidableEq, Repr

/-- A part of a string: fixed text, or the value of a variable. -/
inductive Part where
  | fixed (text : String)
  | inserted (name : Variable)
deriving DecidableEq, Repr

/-- An expression. Receivers and arguments are local variables throughout. -/
inductive Expression where
  | nil
  | boolean (value : Bool)
  | variable (name : Variable)
  | string (parts : List Part)
  | negation (operand : Expression)
  | conjunction (left right : Expression)
  | choice (condition positive negative : Expression)
  | call (routine : RoutineName) (arguments : List Variable)
  | constGet (name : Variable)
  | method (receiver name : Variable)
  | instanceMethod (receiver name : Variable)
  /-- Whether a receiver's instances have a `method_missing` of their own. -/
  | overridesMissing (receiver : Variable)
  | puts (text : Expression)
  | fail (receiver : Variable)
deriving DecidableEq, Repr

inductive Step where
  | evaluate (expression : Expression)
  | assign (name : Variable) (expression : Expression)
  | returnIf (condition : Expression)
  | returnUnless (condition : Expression)
  | branch (condition positive : Expression) (negative : Option Expression)
  /-- An empty line, which does nothing. -/
  | pause
deriving DecidableEq, Repr

/-- A routine: its parameters, the steps of its body, and the steps that take
over when the body raises one of the rescued classes. -/
structure Routine where
  name : RoutineName
  positional : List Variable
  keywords : List Variable
  body : List Step
  rescued : List ExceptionClass
  handler : List Step
deriving DecidableEq, Repr

/-! ## The text of the fragment -/

def Variable.code : Variable → String
  | .state => "state"
  | .constName => "const_name"
  | .loc => "loc"
  | .const => "const"
  | .recvName => "recv_name"
  | .methodName => "method_name"
  | .singleton => "singleton"
  | .allowMissing => "allow_missing"
  | .separator => "separator"
  | .fallback => "fallback"

def RoutineName.code : RoutineName → String
  | .getConst => "__probe_get_const"
  | .dispatchFallback => "__probe_dispatch_fallback?"
  | .getMethod => "__probe_get_method"

def ExceptionClass.code : ExceptionClass → String
  | .root => "Exception"
  | .scriptError => "ScriptError"
  | .loadError => "LoadError"
  | .standardError => "StandardError"
  | .nameError => "NameError"

/-- A part of a string as it is written between the quotes. -/
def Part.code : Part → String
  | .fixed text => text
  | .inserted name => "#\x7b" ++ name.code ++ "\x7d"

/-- Neighbours separated by a comma and a space. -/
def listCode (texts : List String) : String :=
  ", ".intercalate texts

def Expression.code : Expression → String
  | .nil => "nil"
  | .boolean value => if value then "true" else "false"
  | .variable name => name.code
  | .string parts => "\"" ++ String.join (parts.map Part.code) ++ "\""
  | .negation operand => "!" ++ operand.code
  | .conjunction left right => left.code ++ " && " ++ right.code
  | .choice condition positive negative =>
      condition.code ++ " ? " ++ positive.code ++ " : " ++ negative.code
  | .call routine arguments =>
      routine.code ++ "(" ++ listCode (arguments.map Variable.code) ++ ")"
  | .constGet name => "Kernel.const_get(" ++ name.code ++ ")"
  | .method receiver name => receiver.code ++ ".method(" ++ name.code ++ ")"
  | .instanceMethod receiver name => receiver.code ++ ".instance_method(" ++ name.code ++ ")"
  | .overridesMissing receiver =>
      receiver.code ++ ".instance_method(:method_missing).owner != BasicObject"
  | .puts text => "$stderr.puts(" ++ text.code ++ ")"
  | .fail receiver => receiver.code ++ ".fail!"

/-- A line inside a definition. Empty lines stay empty. -/
def indented (line : String) : String :=
  if line = "" then "" else "  " ++ line

def Step.lines : Step → List String
  | .evaluate expression => [expression.code]
  | .assign name expression => [name.code ++ " = " ++ expression.code]
  | .returnIf condition => ["return if " ++ condition.code]
  | .returnUnless condition => ["return unless " ++ condition.code]
  | .branch condition positive none =>
      ["if " ++ condition.code, indented positive.code, "end"]
  | .branch condition positive (some negative) =>
      ["if " ++ condition.code, indented positive.code, "else", indented negative.code, "end"]
  | .pause => [""]

def Routine.lines (routine : Routine) : List String :=
  ["def " ++ routine.name.code ++ "(" ++
    listCode (routine.positional.map Variable.code ++
      routine.keywords.map (fun name => name.code ++ ":")) ++ ")"] ++
  (routine.body.flatMap Step.lines).map indented ++
  ["rescue " ++ listCode (routine.rescued.map ExceptionClass.code)] ++
  (routine.handler.flatMap Step.lines).map indented ++
  ["end", ""]

/-! ## The routines -/

def missingConstantParts : List Part := [
  .fixed "Missing runtime constant ", .inserted .constName,
  .fixed " (defined at ", .inserted .loc, .fixed ")"]

def missingMethodParts : List Part := [
  .fixed "Missing runtime method ", .inserted .recvName, .inserted .separator,
  .inserted .methodName, .fixed " (defined at ", .inserted .loc, .fixed ")"]

def delegationParts : List Part := [
  .fixed "Note: ", .inserted .methodName,
  .fixed " could be delegated via dynamic dispatch but is not annotated to allow it."]

/-- Looks up a constant, and reports it if the lookup raises. -/
def getConstRoutine : Routine where
  name := .getConst
  positional := [.state, .constName, .loc]
  keywords := []
  body := [.evaluate (.constGet .constName)]
  rescued := [.nameError, .loadError]
  handler := [
    .evaluate (.puts (.string missingConstantParts)),
    .evaluate (.fail .state),
    .evaluate .nil]

/-- Whether dynamic dispatch could stand in for an absent instance method. -/
def dispatchFallbackRoutine : Routine where
  name := .dispatchFallback
  positional := [.const]
  keywords := []
  body := [.evaluate (.overridesMissing .const)]
  rescued := [.standardError]
  handler := [.evaluate (.boolean false)]

/-- Looks up a receiver and its method, and reports the method if the lookup
raises and nothing may stand in for it. -/
def getMethodRoutine : Routine where
  name := .getMethod
  positional := [.state, .recvName, .methodName, .loc]
  keywords := [.singleton, .allowMissing]
  body := [
    .assign .const (.call .getConst [.state, .recvName, .loc]),
    .returnUnless (.variable .const),
    .pause,
    .branch (.variable .singleton)
      (.method .const .methodName)
      (some (.instanceMethod .const .methodName))]
  rescued := [.nameError]
  handler := [
    .assign .separator
      (.choice (.variable .singleton) (.string [.fixed "."]) (.string [.fixed "#"])),
    .assign .fallback
      (.conjunction (.negation (.variable .singleton)) (.call .dispatchFallback [.const])),
    .returnIf (.conjunction (.variable .fallback) (.variable .allowMissing)),
    .pause,
    .evaluate (.puts (.string missingMethodParts)),
    .branch (.variable .fallback) (.puts (.string delegationParts)) none,
    .evaluate (.fail .state),
    .evaluate .nil]

/-- The routines, in the order of their definitions. -/
def routines : List Routine :=
  [getConstRoutine, dispatchFallbackRoutine, getMethodRoutine]

/-! ## The preamble -/

/-- What the preamble does before the first routine: it joins the two output
streams and defines the state, which starts as a success, is turned into a
failure for good, and can be asked which of the two it is. -/
def headLines : List String := [
  "# frozen_string_literal: true",
  "",
  "STDOUT.reopen(STDERR)",
  "STDERR.sync = true",
  "",
  "class SurfaceProbeState",
  "  def initialize",
  "    @success = true",
  "  end",
  "",
  "  def fail!",
  "    @success = false",
  "  end",
  "",
  "  def success?",
  "    @success",
  "  end",
  "end",
  ""]

def definingLines (routines : List Routine) : List String :=
  headLines ++ routines.flatMap Routine.lines ++ ["state = SurfaceProbeState.new"]

/-- The preamble defines the three routines, and nothing else behind the state. -/
theorem preambleLines_eq : preambleLines = definingLines routines := by
  decide +kernel

end InterfaceAudit.Script
