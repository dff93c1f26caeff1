import InterfaceAudit.Outcome
import InterfaceAudit.Runtime
import InterfaceAudit.Script

/-!
Contract: running a list of assertions against a runtime without a script.

Owns:
- the tally of failures and printed lines that is threaded through the checks;
- the two phases: load every unit, and only then run every check;
- the wording of every line.

Does not own: the script that does the same inside the runtime.
-/

namespace InterfaceAudit

/-- What a run has printed so far, and whether nothing has failed yet. -/
structure Tally where
  succeeding : Bool := true
  lines : List String := []
deriving DecidableEq, Repr

namespace Tally

def fail (tally : Tally) (line : String) : Tally :=
  { succeeding := false, lines := tally.lines ++ [line] }

def note (tally : Tally) (line : String) : Tally :=
  { tally with lines := tally.lines ++ [line] }

@[simp] theorem succeeding_fail (tally : Tally) (line : String) :
    (tally.fail line).succeeding = false := rfl

@[simp] theorem lines_fail (tally : Tally) (line : String) :
    (tally.fail line).lines = tally.lines ++ [line] := rfl

@[simp] theorem succeeding_note (tally : Tally) (line : String) :
    (tally.note line).succeeding = tally.succeeding := rfl

@[simp] theorem lines_note (tally : Tally) (line : String) :
    (tally.note line).lines = tally.lines ++ [line] := rfl

/-- Everything printed, ended by a line break unless it is empty. -/
def output (tally : Tally) : String :=
  let text := "\n".intercalate tally.lines
  if text.isEmpty then text else text ++ "\n"

/-- The outcome of a run that ends here: exit code 0 or 1. -/
def outcome (tally : Tally) : Outcome where
  succeeded := tally.succeeding
  exitCode := some (if tally.succeeding then 0 else 1)
  output := tally.output

end Tally

namespace Replay

/-- The line for a constant that does not resolve. -/
def missingConstant (name location : String) : String :=
  "Missing runtime constant " ++ name ++ " (defined at " ++ location ++ ")"

/-- The line for a method that is absent. Instance methods are written with a
number sign, singleton methods with a full stop. -/
def missingMethod (check : MethodCheck) : String :=
  "Missing runtime method " ++ check.receiver ++ (if check.singleton then "." else "#") ++
    check.method ++ " (defined at " ++ check.location ++ ")"

/-- The line added when dynamic dispatch could stand in for a method. -/
def delegationNote (method : String) : String :=
  "Note: " ++ method ++ " could be delegated via dynamic dispatch but is not annotated to allow it."

/-- Checks a constant. The flag says whether it resolved. -/
def checkConstant
    (runtime : Runtime)
    (name location : String)
    (tally : Tally) :
    Bool × Tally :=
  if runtime.resolvesConstant name then (true, tally)
  else (false, tally.fail (missingConstant name location))

/-- Whether dynamic dispatch could stand in for an absent method. Singleton
methods have no such fallback. -/
def hasFallback (runtime : Runtime) (check : MethodCheck) : Bool :=
  !check.singleton && runtime.confirmsDelegation check.receiver

def checkPresence (runtime : Runtime) (check : MethodCheck) (tally : Tally) : Tally :=
  if runtime.resolvesMethod check.receiver check.method check.singleton then tally
  else if hasFallback runtime check then
    if check.allowMissing then tally
    else (tally.fail (missingMethod check)).note (delegationNote check.method)
  else tally.fail (missingMethod check)

/-- Checks a method: first its receiver as a constant, then the method. -/
def checkMethod (runtime : Runtime) (check : MethodCheck) (tally : Tally) : Tally :=
  match checkConstant runtime check.receiver check.location tally with
  | (false, tally) => tally
  | (true, tally) => checkPresence runtime check tally

def runCheck (runtime : Runtime) (tally : Tally) : Check → Tally
  | .constant check => (checkConstant runtime check.name check.location tally).2
  | .method check => checkMethod runtime check tally

def load (runtime : Runtime) (tally : Tally) (name : String) : Tally :=
  if runtime.loads name then tally else tally.fail (Script.loadFailure name)

/-- The tally of a whole run: every unit is tried, and the checks run only if
all of them loaded. -/
def tally (assertions : List Assertion) (runtime : Runtime) : Tally :=
  let loaded := (requires assertions).foldl (load runtime) {}
  if loaded.succeeding then (checks assertions).foldl (runCheck runtime) loaded else loaded

def run (assertions : List Assertion) (runtime : Runtime) : Outcome :=
  (tally assertions runtime).outcome

end Replay

end InterfaceAudit
