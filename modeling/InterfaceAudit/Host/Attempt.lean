import InterfaceAudit.Host.Action

/-!
Contract: actions that may end in a failure.

Owns:
- the failing form of the requests that touch files;
- running a command to its end, where a command that cannot be started or runs
  too long is a failure of one and the same kind, whatever it was run for;
- work inside a directory that is removed afterwards on every path.

Does not own: what a finished command means.
-/

namespace InterfaceAudit

/-- An action that may end in a failure. -/
abbrev Attempt (α : Type) := ExceptT Failure Action α

namespace Attempt

/-- The result of an action, or the failure that a fault of it amounts to. -/
def orFail {α : Type} (toFailure : IoFault → Failure) (action : Action (Except IoFault α)) :
    Attempt α :=
  ExceptT.mk (action.andThen fun
    | .ok result => .done (.ok result)
    | .error fault => .done (.error (toFailure fault)))

def always {α : Type} (action : Action α) : Attempt α :=
  ExceptT.mk (action.andThen fun result => .done (.ok result))

def log (event : Log.Event) : Attempt Unit := always (.log event)

def clock : Attempt Nat := always .clock

def writeFile (path : Path) (content : Bytes) : Attempt Unit :=
  orFail .io (.writeFile path content)

/-- Does something after an attempt, whether it failed or not. -/
def thenAlways {α : Type} (attempt : Attempt α) (last : Action Unit) : Attempt α :=
  ExceptT.mk (attempt.run.andThen fun result => last.andThen fun _ => .done result)

end Attempt

def CommandEnd.result : CommandEnd → Except Failure (ExitStatus × Captured)
  | .finished status captured => .ok (status, captured)
  | .unread fault => .error (.io fault)

/-- Runs a command until it ends. `limit` is in seconds; with zero it may run
without end. -/
def Command.finish (command : Command) (limit : UInt64) : Attempt (ExitStatus × Captured) :=
  if 0 < limit then do
    match ← Attempt.orFail (.ofSpawn command.program) (.runWithin command limit) with
    | some ended => liftExcept ended.result
    | none => throw (.timedOut limit)
  else do
    let ended ← Attempt.orFail (.ofSpawn command.program) (.run command)
    liftExcept ended.result

end InterfaceAudit
