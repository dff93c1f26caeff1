import InterfaceAudit.Machine.Shell.Expansion

/-!
Contract: redirections.

Owns:
- what a redirection opens, and the wording when it cannot;
- saving handles before they are redirected, and putting them back.

Does not own: for how long a redirection holds.
-/

namespace InterfaceAudit.Shell

structure Redirecting where
  handle : Nat
  direction : Direction
  target : Octets

def Redirection.expand (capture : Capture) (fuel : Nat) : Redirection → Run Redirecting
  | ⟨handle, direction, target⟩ => do
      match direction with
      | .document isQuoted => do
          let number := match target with
            | .text number _ :: _ => (Octets.natOf? number).getD 0
            | _ => 0
          let body := ((← Run.scope).documents.lookup number).getD []
          let text ← if isQuoted then pure (body.flatMap literal) else do
            pure ((← partsOf capture fuel body).flatMap Part.toText)
          return { handle, direction, target := text }
      | direction =>
          let text ← expandText capture fuel target
          let isHandle (text : Octets) : Bool :=
            match text with
            | ['-'] => true
            | [digit] => digit.isDigit
            | _ => false
          if direction == .duplicate && !isHandle text then
            Run.fail (Octets.ofString "Syntax error: Bad fd number")
          return { handle, direction, target := text }
where
  literal : Piece → Octets
    | .text text _ => text
    | _ => []

def refuse {α : Type} (front : String) (file : Octets) (reason : String) : Run (Option α) := do
  Run.complain (Octets.ofString front ++ file ++ Octets.ofString (": " ++ reason))
  return none

/-- The reason why a file cannot be opened; where something is missing, it
depends on what the file was wanted for. -/
def openingReason (missing : String) : SystemError → String
  | .notFound | .notADirectory => missing
  | cause => cause.text

/-- Opens a file to be written to. One that is there is kept if that is asked
for. -/
def openToWrite (overrides : Bool) (file : Octets) : Run (Except SystemError Nat) := do
  let opening : Opening := { writes := true, creates := true, empties := true }
  if (← Run.hasOption 'C') && !overrides then
    match ← Task.status file with
    | .ok status =>
        if status.kind == .regular then return .error .exists
        else Task.openFile file { writes := true }
    | .error _ => Task.openFile file { opening with exclusive := true }
  else Task.openFile file opening

/-- Gives a text to read by a handle. A long one is written by a process of its
own. -/
def openText (text : Octets) : Run Nat := do
  let (readEnd, writeEnd) ← Task.pipe
  if text.length ≤ 4096 then
    discard (liftM (Task.write writeEnd text))
  else
    discard (liftM (Task.fork (do
      discard (Task.close readEnd)
      discard (Task.write writeEnd text)
      Task.exit 0)))
  discard (liftM (Task.close writeEnd))
  return readEnd

/-- Opens what a redirection leads to, unless it only copies or closes a
handle. -/
def Redirecting.open? (redirecting : Redirecting) : Run (Option Nat) := do
  let file := redirecting.target
  let given (front missing : String) (result : Except SystemError Nat) : Run (Option Nat) := do
    match result with
    | .ok handle => return some handle
    | .error cause => refuse front file (openingReason missing cause)
  match redirecting.direction with
  | .document _ => return some (← openText file)
  | .write overrides => given "cannot create " "Directory nonexistent" (← openToWrite overrides file)
  | .append =>
      given "cannot create " "Directory nonexistent"
        (← Task.openFile file { writes := true, creates := true, appends := true })
  | .readWrite =>
      given "cannot create " "Directory nonexistent"
        (← Task.openFile file { reads := true, writes := true, creates := true })
  | .read | .duplicate =>
      given "cannot open " "No such file" (← Task.openFile file { reads := true })

/-- Handles as they were: what each was saved as, if it was open. -/
abbrev SavedHandles := List (Nat × Option Nat)

def saveHandle (saved : SavedHandles) (handle : Nat) : Run SavedHandles := do
  if (saved.lookup handle).isSome then return saved
  else
    let copied : Except SystemError Nat ← Task.ask (.save handle 10)
    return (handle, copied.toOption) :: saved

def restoreHandles : SavedHandles → Run Unit
  | [] => return ()
  | (handle, some copied) :: saved => do
      discard (liftM (Task.copyHandle copied handle))
      discard (liftM (Task.close copied))
      restoreHandles saved
  | (handle, none) :: saved => do
      discard (liftM (Task.close handle))
      restoreHandles saved

/-- Carries out redirections in order, up to the first that cannot be done:
whether all could be, and what was saved before. -/
def redirectAll (saves : Bool) : List Redirecting → SavedHandles → Run (Bool × SavedHandles)
  | [], saved => return (true, saved)
  | redirecting :: others, saved => do
      let handle := redirecting.handle
      let save : Run SavedHandles := if saves then saveHandle saved handle else return saved
      if redirecting.direction == .duplicate then
        match Octets.natOf? redirecting.target with
        | none => do
            let saved ← save
            discard (liftM (Task.close handle))
            redirectAll saves others saved
        | some source =>
            let isOpen : Bool ← Task.ask (.isOpen source)
            if !isOpen then
              discard (refuse (α := Nat) "" (Octets.ofNat source) "Bad file descriptor")
              return (false, saved)
            else if source == handle then redirectAll saves others saved
            else
              let saved ← save
              discard (liftM (Task.copyHandle source handle))
              redirectAll saves others saved
      else
        match ← redirecting.open? with
        | none => return (false, saved)
        | some opened => do
            if opened == handle then
              redirectAll saves others (if saves then (handle, none) :: saved else saved)
            else
              let saved ← save
              discard (liftM (Task.copyHandle opened handle))
              discard (liftM (Task.close opened))
              redirectAll saves others saved

/-- Work under redirections that are undone afterwards. If one cannot be done,
the status tells so and the work is left out. -/
def redirected (redirections : List Redirecting) (work : Run Unit) : Run Unit := do
  if redirections.isEmpty then work
  else
    let (isDone, saved) ← redirectAll true redirections []
    Run.thenAlways (if isDone then work else Run.setStatus 2) (restoreHandles saved)

end InterfaceAudit.Shell
