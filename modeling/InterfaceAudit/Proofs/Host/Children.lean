import InterfaceAudit.Proofs.Host.Exchanges

/-!
Contract: the commands that an action has run, and how they ended.

Owns:
- children, which are commands that were to be run, each with its end;
- the children among exchanges;
- the law that running a command to its end is one child, and that its result
  depends on nothing but how the child ended.

Does not own: what a command is run for.
-/

namespace InterfaceAudit

/-! ## Children -/

theorem ExitStatus.isSuccess_iff (status : ExitStatus) :
    status.isSuccess = true ↔ status = .exited 0 :=
  beq_iff_eq

/-- How a command ended that was to be run. -/
inductive ChildEnd where
  /-- It was never started. -/
  | unstarted (fault : IoFault)
  /-- It had not come to its end when its time was over. -/
  | overran
  | ended (waited : CommandEnd)
deriving DecidableEq, Repr

/-- A command that was to be run, the seconds it was given if they were limited,
and how it ended. -/
structure Child where
  command : Command
  limit : Option UInt64
  ending : ChildEnd
deriving DecidableEq, Repr

namespace ChildEnd

/-- The end of a command that may take its time. -/
def ofRun : Except IoFault CommandEnd → ChildEnd
  | .error fault => .unstarted fault
  | .ok waited => .ended waited

def ofRunWithin : Except IoFault (Option CommandEnd) → ChildEnd
  | .error fault => .unstarted fault
  | .ok none => .overran
  | .ok (some waited) => .ended waited

/-- What the end of a child amounts to, for whoever gave it a program and a limit. -/
def result (program : String) (limit : UInt64) : ChildEnd → Except Failure (ExitStatus × Captured)
  | .unstarted fault => .error (.ofSpawn program fault)
  | .overran => .error (.timedOut limit)
  | .ended waited => waited.result

/-- Only a child that ended with both its outputs closed has a result. -/
theorem result_eq_ok_iff
    {program : String}
    {limit : UInt64}
    {ending : ChildEnd}
    {status : ExitStatus}
    {captured : Captured} :
    ending.result program limit = .ok (status, captured) ↔
      ending = .ended (.finished status captured) := by
  constructor
  · intro isOk
    cases ending with
    | unstarted fault => cases isOk
    | overran => cases isOk
    | ended waited =>
        cases waited with
        | unread fault => cases isOk
        | finished status captured =>
            cases isOk
            rfl
  · rintro rfl
    rfl

/-- Only a child that ran too long has timed out. -/
theorem result_eq_timedOut_iff
    {program : String}
    {limit secs : UInt64}
    {ending : ChildEnd} :
    ending.result program limit = .error (.timedOut secs) ↔ ending = .overran ∧ secs = limit := by
  constructor
  · intro isTimedOut
    cases ending with
    | unstarted fault =>
        have isSpawn : Failure.ofSpawn program fault = .timedOut secs := by
          injection isTimedOut
        rw [Failure.ofSpawn] at isSpawn
        split at isSpawn <;> cases isSpawn
    | overran =>
        cases isTimedOut
        exact ⟨rfl, rfl⟩
    | ended waited => cases waited <;> cases isTimedOut
  · rintro ⟨rfl, rfl⟩
    rfl

end ChildEnd

/-- The child of an exchange, if a command was to be run. -/
def Exchange.child? : Exchange → Option Child
  | ⟨.run command, answer⟩ => some ⟨command, none, .ofRun answer⟩
  | ⟨.runWithin command secs, answer⟩ => some ⟨command, some secs, .ofRunWithin answer⟩
  | _ => none

/-- The children among exchanges, in order. -/
def children (exchanges : List Exchange) : List Child :=
  exchanges.filterMap Exchange.child?

/-- Whether a request has a command run. -/
def Request.IsRun : Request → Prop
  | .run _ | .runWithin _ _ => True
  | _ => False

theorem Exchange.child?_of_not_isRun
    {exchange : Exchange}
    (isOther : ¬exchange.request.IsRun) :
    exchange.child? = none := by
  obtain ⟨request, answer⟩ := exchange
  cases request with
  | run _ | runWithin _ _ => exact absurd trivial isOther
  | clock | makeDirectories _ | makeScoped _ _ | removeTree _ | readFile _ | writeFile _ _
  | log _ | collect _ | print _ => rfl

/-- Where no command is run there are no children. -/
theorem children_eq_nil
    {exchanges : List Exchange}
    (others : ∀ exchange ∈ exchanges, ¬exchange.request.IsRun) :
    children exchanges = [] :=
  List.filterMap_eq_nil_iff.mpr fun exchange member =>
    Exchange.child?_of_not_isRun (others exchange member)

theorem children_append (first second : List Exchange) :
    children (first ++ second) = children first ++ children second :=
  List.filterMap_append

/-- The limit that zero stands for is none. -/
def allowance (limit : UInt64) : Option UInt64 :=
  if 0 < limit then some limit else none

namespace Command

/-- Running a command to its end is one child, which has the result. A child whose
time is not limited never runs too long. -/
theorem leads_finish (command : Command) (limit : UInt64) :
    (command.finish limit).run.Leads fun exchanges result =>
      ∃ exchange ending,
        exchanges = [exchange] ∧
        exchange.child? = some ⟨command, allowance limit, ending⟩ ∧
        (ending = .overran → 0 < limit) ∧
        result = ending.result command.program limit := by
  unfold finish allowance
  split
  case isTrue limited =>
    intro answer
    cases answer with
    | error fault => exact ⟨_, .unstarted fault, rfl, rfl, fun _ => limited, rfl⟩
    -- Only a command that is limited can be given up.
    | ok waited =>
        cases waited with
        | none => exact ⟨_, .overran, rfl, rfl, fun _ => limited, rfl⟩
        | some waited =>
            cases waited with
            | finished status captured =>
                exact ⟨_, .ended (.finished status captured), rfl, rfl, fun _ => limited, rfl⟩
            | unread fault => exact ⟨_, .ended (.unread fault), rfl, rfl, fun _ => limited, rfl⟩
  case isFalse unlimited =>
    intro answer
    cases answer with
    | error fault => exact ⟨_, .unstarted fault, rfl, rfl, nofun, rfl⟩
    | ok waited =>
        cases waited with
        | finished status captured =>
            exact ⟨_, .ended (.finished status captured), rfl, rfl, nofun, rfl⟩
        | unread fault => exact ⟨_, .ended (.unread fault), rfl, rfl, nofun, rfl⟩

end Command

end InterfaceAudit
