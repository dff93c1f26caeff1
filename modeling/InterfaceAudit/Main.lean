import InterfaceAudit.CommandLine.Work
import InterfaceAudit.Machine

/-!
Contract: the program.

Owns: passing arguments, variables and the manifest to a machine, and passing on
what the machine printed, logged and left behind.

Does not own: any decision about arguments, tasks or lines.
-/

namespace InterfaceAudit.Program

open InterfaceAudit.CommandLine

def variableNames : List String :=
  "RUST_LOG" :: Verb.validate.switches.filterMap Switch.variableName

def readVariables : IO (List (String × String)) :=
  variableNames.filterMapM fun name => do
    return (← IO.getEnv name).map fun value => (name, value)

def readFile? (path : Path) : IO (Option Bytes) := do
  try
    return some (← IO.FS.readBinFile path.shown).toList
  catch _ => return none

def manifestPath : CommandLine.Task → Path
  | .validate validation => validation.manifest
  | .render rendering => rendering.manifest

def writeEntry (entry : Bytes × Option Bytes) : IO Unit := do
  let path := Utf8.toStringLossy entry.1
  match entry.2 with
  | none => IO.FS.createDirAll path
  | some content => IO.FS.writeBinFile path ⟨content.toArray⟩

/-- Carries out an order on a machine that holds the manifest. -/
def carryOut (environment : List (String × String)) (order : Order) : IO Nat := do
  let path := manifestPath order.task
  let machine := Machine.fresh "/work"
  let machine := { machine with environment := environment ++ machine.environment }
  let machine :=
    match ← readFile? path with
    | some content => machine.install path content
    | none => machine
  let here := Path.ofString "."
  let before := machine.listing here
  let (code, machine) := order.task.perform.runOn Machine.host machine
  for entry in machine.listing here do
    if !before.contains entry then writeEntry entry
  IO.print machine.printed
  for event in (order.filter (environment.lookup "RUST_LOG")).apply machine.events do
    IO.eprintln (order.line event)
  return code

/-- Reads the arguments, and does what they ask for. -/
def run (arguments : List String) : IO UInt32 := do
  let environment ← readVariables
  match Order.ofArguments (fun name => environment.lookup name) arguments with
  | .ok order => return UInt32.ofNat (← carryOut environment order)
  | .error halt =>
      let reply := halt.reply
      for line in reply.output do IO.println line
      for line in reply.errors do IO.eprintln line
      return UInt32.ofNat reply.code

end InterfaceAudit.Program

def main (arguments : List String) : IO UInt32 :=
  InterfaceAudit.Program.run arguments
