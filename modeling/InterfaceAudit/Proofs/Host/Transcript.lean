import InterfaceAudit.Host.Attempt

/-!
Contract: what an action does on every host that answers it in a certain way.

Owns:
- the exchanges between an action and a host;
- the laws of actions that are put one behind the other or inside a span;
- assertions about the result of an action that hold whatever the answers are,
  as long as each of them is allowed;
- answers that grant directories and files, and a host that grants everything.

Does not own: what a session does with the answers.
-/

namespace InterfaceAudit

structure Exchange where
  request : Request
  answer : request.Answer

namespace Action

variable {α β γ σ : Type}

/-! ## Actions in sequence -/

/-- What an action asks of a host, and how it is answered, in order. -/
def exchanges (host : Host σ) : Action α → σ → List Exchange
  | .done _, _ => []
  | .ask request next, state =>
      let (answer, state) := host.answer request state
      ⟨request, answer⟩ :: (next answer).exchanges host state

theorem andThen_assoc
    (action : Action α)
    (next : α → Action β)
    (last : β → Action γ) :
    (action.andThen next).andThen last =
      action.andThen fun result => (next result).andThen last := by
  induction action with
  | done result => rfl
  | ask request resume inductionHypothesis =>
      simp only [andThen]
      congr 1
      funext answer
      exact inductionHypothesis answer

/-- The span of an action is the span of its parts. -/
theorem within_andThen (span : Log.Span) (action : Action α) (next : α → Action β) :
    (action.andThen next).within span =
      (action.within span).andThen fun result => (next result).within span := by
  induction action with
  | done result => rfl
  | ask request resume inductionHypothesis =>
      have resumed : (fun answer => ((resume answer).andThen next).within span) =
          fun answer => ((resume answer).within span).andThen fun result =>
            (next result).within span := by
        funext answer
        exact inductionHypothesis answer
      simp only [andThen, within, resumed]
      cases request <;> rfl

/-! ## Results under allowed answers -/

/-- Whatever the answers are, if each of them is allowed then the result
satisfies the assertion. -/
def Yields (allowed : Exchange → Prop) (post : α → Prop) : Action α → Prop
  | .done result => post result
  | .ask request next =>
      ∀ answer, allowed ⟨request, answer⟩ → (next answer).Yields allowed post

variable {allowed : Exchange → Prop} {post : α → Prop}

theorem yields_andThen {action : Action β} {next : β → Action α} :
    (action.andThen next).Yields allowed post ↔
      action.Yields allowed fun result => (next result).Yields allowed post := by
  induction action with
  | done result => exact Iff.rfl
  | ask request resume inductionHypothesis =>
      constructor
      · intro yields answer isAllowed
        exact (inductionHypothesis answer).mp (yields answer isAllowed)
      · intro yields answer isAllowed
        exact (inductionHypothesis answer).mpr (yields answer isAllowed)

theorem Yields.mono
    {weaker : α → Prop}
    {action : Action α}
    (yields : action.Yields allowed post)
    (weaken : ∀ result, post result → weaker result) :
    action.Yields allowed weaker := by
  induction action with
  | done result => exact weaken result yields
  | ask request resume inductionHypothesis =>
      intro answer isAllowed
      exact inductionHypothesis answer (yields answer isAllowed)

theorem yields_of_forall (action : Action α) (all : ∀ result, post result) :
    action.Yields allowed post := by
  induction action with
  | done result => exact all result
  | ask request resume inductionHypothesis =>
      intro answer _
      exact inductionHypothesis answer

/-- A span changes nothing where all answers to logged events are allowed. -/
theorem Yields.within
    {action : Action α}
    (logs : ∀ event answer, allowed ⟨.log event, answer⟩)
    (yields : action.Yields allowed post)
    (span : Log.Span) :
    (action.within span).Yields allowed post := by
  induction action with
  | done result => exact yields
  | ask request resume inductionHypothesis =>
      cases request with
      | log event =>
          intro answer _
          exact inductionHypothesis answer (yields answer (logs event answer))
      | clock | makeDirectories _ | makeScoped _ _ | removeTree _ | readFile _ | writeFile _ _
      | run _ | runWithin _ _ | collect _ | print _ =>
          intro answer isAllowed
          exact inductionHypothesis answer (yields answer isAllowed)

/-- What an action yields is what it comes to on a host that gives allowed
answers to what the action asks. -/
theorem Yields.runOn
    {action : Action α}
    (yields : action.Yields allowed post)
    (host : Host σ)
    (state : σ)
    (answers : ∀ exchange ∈ action.exchanges host state, allowed exchange) :
    post (action.runOn host state).1 := by
  induction action generalizing state with
  | done result => exact yields
  | ask request resume inductionHypothesis =>
      have first := answers ⟨request, (host.answer request state).1⟩ List.mem_cons_self
      refine inductionHypothesis _ (yields _ first) _ ?_
      intro exchange member
      exact answers exchange (List.mem_cons_of_mem _ member)

end Action

namespace Attempt

variable {α β : Type} {allowed : Exchange → Prop} {post : Except Failure α → Prop}

/-- An attempt that follows another one is made only if that one succeeds. -/
theorem run_bind (attempt : Attempt β) (next : β → Attempt α) :
    (attempt >>= next).run = attempt.run.andThen fun
      | .ok result => (next result).run
      | .error failure => .done (.error failure) := by
  show attempt.run.andThen _ = attempt.run.andThen _
  congr 1
  funext result
  cases result <;> rfl

theorem yields_bind {attempt : Attempt β} {next : β → Attempt α} :
    (attempt >>= next).run.Yields allowed post ↔
      attempt.run.Yields allowed fun
        | .ok result => (next result).run.Yields allowed post
        | .error failure => post (.error failure) := by
  rw [run_bind, Action.yields_andThen]
  constructor
  · intro yields
    refine yields.mono fun result holds => ?_
    cases result with
    | ok result => exact holds
    | error failure => exact holds
  · intro yields
    refine yields.mono fun result holds => ?_
    cases result with
    | ok result => exact holds
    | error failure => exact holds

theorem yields_always {action : Action α} :
    (always action).run.Yields allowed post ↔
      action.Yields allowed fun result => post (.ok result) := by
  exact Action.yields_andThen

theorem yields_orFail {toFailure : IoFault → Failure} {action : Action (Except IoFault α)} :
    (orFail toFailure action).run.Yields allowed post ↔
      action.Yields allowed fun
        | .ok result => post (.ok result)
        | .error fault => post (.error (toFailure fault)) := by
  refine Action.yields_andThen.trans ⟨fun yields => ?_, fun yields => ?_⟩
  · refine yields.mono fun result holds => ?_
    cases result with
    | ok result => exact holds
    | error fault => exact holds
  · refine yields.mono fun result holds => ?_
    cases result with
    | ok result => exact holds
    | error fault => exact holds

theorem yields_thenAlways {attempt : Attempt α} {last : Action Unit} :
    (attempt.thenAlways last).run.Yields allowed post ↔
      attempt.run.Yields allowed fun result => last.Yields allowed fun _ => post result := by
  refine Action.yields_andThen.trans ⟨fun yields => ?_, fun yields => ?_⟩
  · exact yields.mono fun result holds => Action.yields_andThen.mp holds
  · exact yields.mono fun result holds => Action.yields_andThen.mpr holds

end Attempt

/-! ## Hosts that grant -/

/-- Directories of fresh names can be made, and files can be written. -/
def Exchange.IsGranted : Exchange → Prop
  | ⟨.makeScoped _ _, answer⟩ => ∃ path, answer = .ok path
  | ⟨.writeFile _ _, answer⟩ => answer = .ok ()
  | _ => True

/-- A host that grants whatever it is asked for, and keeps no time. -/
def Host.obliging : Host Unit where
  answer request state :=
    match request with
    | .clock => ((0 : Nat), state)
    | .makeDirectories _ => ((.ok () : Except IoFault Unit), state)
    | .makeScoped _ stem => ((.ok (Path.ofString stem) : Except IoFault Path), state)
    | .removeTree _ => ((), state)
    | .readFile _ => ((.ok [] : Except IoFault Bytes), state)
    | .writeFile _ _ => ((.ok () : Except IoFault Unit), state)
    | .run _ =>
        ((.ok (.finished (.exited 0) ⟨[], []⟩) : Except IoFault CommandEnd), state)
    | .runWithin _ _ =>
        ((.ok (some (.finished (.exited 0) ⟨[], []⟩)) : Except IoFault (Option CommandEnd)), state)
    | .log _ => ((), state)
    | .collect _ => ((), state)
    | .print _ => ((), state)

theorem Host.obliging_grants {α : Type} (action : Action α) (state : Unit) :
    ∀ exchange ∈ action.exchanges .obliging state, exchange.IsGranted := by
  induction action generalizing state with
  | done result =>
      intro exchange member
      cases member
  | ask request next inductionHypothesis =>
      intro exchange member
      rcases List.mem_cons.mp member with rfl | member
      · cases request with
        | makeScoped parent stem => exact ⟨_, rfl⟩
        | writeFile path content => exact rfl
        | clock | makeDirectories _ | removeTree _ | readFile _ | run _ | runWithin _ _
        | log _ | collect _ | print _ => trivial
      · exact inductionHypothesis _ _ exchange member

end InterfaceAudit
