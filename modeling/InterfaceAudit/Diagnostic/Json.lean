import InterfaceAudit.Diagnostic
import InterfaceAudit.Json.Reader

/-!
Contract: severities and diagnostics as JSON.

Owns: the written forms, and their readers. A severity is written as its name;
it is also read from an object with that name as its only key.

Does not own: where diagnostics come from.
-/

namespace InterfaceAudit

open InterfaceAudit.Json (Value Draft Fault Ending Field Schema Reader)

namespace Severity

def name : Severity → String
  | .note => "note"
  | .error => "error"

/-- All severities, in the order in which faults list them. -/
def all : List Severity := [.note, .error]

def ofName (name : String) : Except Fault Severity :=
  match all.find? (fun severity => severity.name == name) with
  | some severity => .ok severity
  | none => .error (.unknownVariant name (all.map Severity.name))

def toJson (severity : Severity) : Value := .string severity.name

/-- Whether an object with one member stops properly. -/
def checkOnly (more : Bool) : Ending → Except Fault Unit
  | .closed => if more then .error .expectedValue else .ok ()
  | .cut => .error (if more then .expectedValue else .cutObject)
  | _ => .error .expectedValue

def reader : Reader Severity := fun room draft =>
  match draft with
  | .string text => do ofName (← text.read)
  | .object [] .cut => do
      discard (Draft.enter room)
      .error .cutObject
  | .object [] .badKey => do
      discard (Draft.enter room)
      .error .keyNotString
  | .object [] _ => do
      discard (Draft.enter room)
      .error .expectedValue
  | .object ((key, value) :: members) ending => do
      let room ← Draft.enter room
      let severity ← ofName (← key.read)
      Reader.unit room value
      checkOnly (!members.isEmpty) ending
      return severity
  | .broken .cut => .error .cutValue
  | _ => .error .expectedValue

end Severity

namespace Diagnostic

def toJson (diagnostic : Diagnostic) : Value :=
  .object [("severity", diagnostic.severity.toJson), ("text", .string diagnostic.text)]

def schema (room : Nat) : Schema Draft Diagnostic where
  title := "struct Diagnostic"
  fields := [
    .reading "severity" true (Severity.reader room)
      (fun severity diagnostic => { diagnostic with severity }),
    .reading "text" true (Reader.string room)
      (fun text diagnostic => { diagnostic with text })]
  blank := default

def reader : Reader Diagnostic := Reader.record schema

end Diagnostic

end InterfaceAudit
