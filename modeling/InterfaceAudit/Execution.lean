import InterfaceAudit.Host.Attempt
import InterfaceAudit.Replay

/-!
Contract: running a probe inside a working directory.

Owns:
- running it as a command, which is given the file that holds the script;
- replaying it against a known runtime, with the same file left behind.

Does not own: what the output of a probe means.
-/

namespace InterfaceAudit

/-- A way to run a probe in a directory. -/
abbrev Executor := Probe → Path → Attempt Outcome

namespace Executor

def scriptName : String := "test.rb"

/-- The event of a probe that ended by itself. -/
def exitEvent (code : Int) (duration : Nat) : Log.Event where
  level := .debug
  target := "probe_harness::executor"
  message := "Probe process exited"
  fields := [
    ("exit_code", .text (Failure.optionalNumber (some code))),
    ("duration_ms", .number duration)]

/-- The outcome of a probe that ended; one that a signal ended has none. -/
def outcomeOf (status : ExitStatus) (captured : Captured) (duration : Nat) : Attempt Outcome :=
  match status with
  | .signalled signal => throw (.terminated (some signal))
  | .exited code => do
      Attempt.log (exitEvent code duration)
      return {
        succeeded := status.isSuccess
        exitCode := some code
        output := captured.text }

def command (line : List String) (limit : UInt64) : Executor := fun probe directory =>
  match line with
  | [] => throw .emptyCommand
  | program :: arguments => do
      Attempt.writeFile (directory.child scriptName) probe.bytes
      let start ← Attempt.clock
      let (status, captured) ← Command.finish {
        program
        arguments := arguments ++ [scriptName]
        directory } limit
      let now ← Attempt.clock
      outcomeOf status captured (now - start)

def replay (runtime : Runtime) : Executor := fun probe directory => do
  Attempt.writeFile (directory.child scriptName) probe.bytes
  return Replay.run probe.assertions runtime

end Executor

end InterfaceAudit
