import InterfaceAudit.Proofs.Session.Course
import InterfaceAudit.Proofs.Session.Recording

/-!
Contract: a session runs once, whatever is done with it.

Owns:
- series of operations on a session, with what each of them does;
- the law of single use, for every series of operations in every surroundings.

Does not own: the course of one run.
-/

namespace InterfaceAudit

/-! ## Operations -/

/-- Something that is done with a session. -/
inductive Operation where
  | record (recording : Recording)
  | applyManifest (manifest : Manifest)
  | run
deriving DecidableEq, Repr

namespace Operation

def isRun (operation : Operation) : Bool :=
  operation = .run

def assertions : Operation → List Assertion
  | .record recording => [recording.assertion]
  | .applyManifest manifest => manifest.assertions
  | .run => []

end Operation

def recorded (operations : List Operation) : List Assertion :=
  operations.flatMap Operation.assertions

/-- An operation that has been carried out: the session and the world before and
after it, its contacts, and the result if it was a run. -/
structure Turn (σ : Type) where
  operation : Operation
  before : Session × σ
  contacts : List Contact := []
  result : Option (Except Failure Report) := none
  after : Session × σ

section Series

variable {σ : Type} (surroundings : Surroundings σ)

def Operation.perform (operation : Operation) (before : Session × σ) : Turn σ :=
  match operation with
  | .record recording => { operation, before, after := (before.1.record recording, before.2) }
  | .applyManifest manifest =>
      { operation, before, after := (before.1.applyManifest manifest, before.2) }
  | .run =>
      let plan := Session.stepwise.run.run before.1
      let ended := plan.carryOut surroundings before.2
      { operation
        before
        contacts := plan.contacts surroundings before.2
        result := some ended.1.1
        after := (ended.1.2, ended.2) }

/-- Carries out operations, one after the other. -/
def history : List Operation → Session × σ → List (Turn σ)
  | [], _ => []
  | operation :: operations, state =>
      let turn := operation.perform surroundings state
      turn :: history operations turn.after

/-- The session and the world behind a series of operations. -/
def stateBehind (operations : List Operation) (state : Session × σ) : Session × σ :=
  operations.foldl (fun state operation => (operation.perform surroundings state).after) state

/-! ## One operation -/

variable {surroundings}

theorem perform_operation (operation : Operation) (state : Session × σ) :
    (operation.perform surroundings state).operation = operation := by
  cases operation <;> rfl

/-- An operation that is no run records its assertions, and does nothing else. -/
theorem perform_of_recording
    {operation : Operation}
    (noRun : operation.isRun = false)
    (state : Session × σ) :
    (operation.perform surroundings state).contacts = [] ∧
      (operation.perform surroundings state).after =
        (state.1.extended operation.assertions, state.2) := by
  cases operation with
  | record recording =>
      refine ⟨rfl, ?_⟩
      show (state.1.record recording, state.2) = _
      rw [Session.record_eq]
      rfl
  | applyManifest manifest =>
      refine ⟨rfl, ?_⟩
      show (state.1.applyManifest manifest, state.2) = _
      rw [Session.applyManifest_eq]
      rfl
  | run => cases noRun

/-- A run of a session that has run already fails, and does nothing. -/
theorem perform_run_of_consumed
    {state : Session × σ}
    (consumed : state.1.consumed = true) :
    (Operation.run.perform surroundings state).contacts = [] ∧
      (Operation.run.perform surroundings state).result =
        some (.error (.consumed state.1.subject)) ∧
      (Operation.run.perform surroundings state).after = state := by
  simp only [Operation.perform, Session.stepwise_of_consumed consumed, Plan.contacts,
    Plan.carryOut, and_self]

/-- A run takes its course, and leaves the session as it is after a run. -/
theorem perform_run (state : Session × σ) :
    IsCourse state.1.subject state.1.probe
        (visits (Operation.run.perform surroundings state).contacts) ∧
      (Operation.run.perform surroundings state).after.1 = state.1.afterRun := by
  have course := (Session.leads_stepwise state.1).carryOut surroundings state.2
  exact ⟨course.2, course.1⟩

theorem eq_run_of_isRun {operation : Operation} (isRun : operation.isRun = true) :
    operation = .run :=
  of_decide_eq_true isRun

/-- No operation changes the subject. -/
theorem perform_subject (operation : Operation) (state : Session × σ) :
    (operation.perform surroundings state).after.1.subject = state.1.subject := by
  cases isRun : operation.isRun with
  | false =>
      rw [(perform_of_recording isRun state).2]
      rfl
  | true =>
      rw [eq_run_of_isRun isRun, (perform_run state).2, Session.afterRun]
      split <;> rfl

/-- A session that has run stays so. -/
theorem perform_consumed
    (operation : Operation)
    {state : Session × σ}
    (consumed : state.1.consumed = true) :
    (operation.perform surroundings state).after.1.consumed = true := by
  cases isRun : operation.isRun with
  | false =>
      rw [(perform_of_recording isRun state).2]
      exact consumed
  | true =>
      rw [eq_run_of_isRun isRun, (perform_run_of_consumed consumed).2.2]
      exact consumed

/-- A session that is run has run. -/
theorem perform_run_consumes (state : Session × σ) :
    (Operation.run.perform surroundings state).after.1.consumed = true := by
  cases consumed : state.1.consumed with
  | true => exact perform_consumed .run consumed
  | false =>
      rw [(perform_run state).2, Session.afterRun, consumed]
      rfl

/-! ## Series -/

theorem history_append (first second : List Operation) (state : Session × σ) :
    history surroundings (first ++ second) state =
      history surroundings first state ++
        history surroundings second (stateBehind surroundings first state) := by
  induction first generalizing state with
  | nil => rfl
  | cons operation first inductionHypothesis =>
      rw [List.cons_append, history, history, List.cons_append, inductionHypothesis]
      rfl

theorem stateBehind_append (first second : List Operation) (state : Session × σ) :
    stateBehind surroundings (first ++ second) state =
      stateBehind surroundings second (stateBehind surroundings first state) :=
  List.foldl_append

theorem map_operation_history (operations : List Operation) (state : Session × σ) :
    (history surroundings operations state).map Turn.operation = operations := by
  induction operations generalizing state with
  | nil => rfl
  | cons operation operations inductionHypothesis =>
      rw [history, List.map_cons, inductionHypothesis, perform_operation]

/-- Every turn of a series is its operation, carried out behind those before it. -/
theorem history_split
    {operations : List Operation}
    {state : Session × σ}
    {earlier later : List (Turn σ)}
    {turn : Turn σ}
    (split : history surroundings operations state = earlier ++ turn :: later) :
    ∃ first operation second, operations = first ++ operation :: second ∧
      earlier = history surroundings first state ∧
      turn = operation.perform surroundings (stateBehind surroundings first state) := by
  induction earlier generalizing operations state with
  | nil =>
      cases operations with
      | nil => cases split
      | cons operation operations =>
          rw [history, List.nil_append, List.cons.injEq] at split
          exact ⟨[], operation, operations, rfl, rfl, split.1.symm⟩
  | cons other earlier inductionHypothesis =>
      cases operations with
      | nil => cases split
      | cons operation operations =>
          rw [history, List.cons_append, List.cons.injEq] at split
          obtain ⟨first, next, second, shape, isEarlier, isTurn⟩ := inductionHypothesis split.2
          refine ⟨operation :: first, next, second, ?_, ?_, isTurn⟩
          · rw [shape, List.cons_append]
          · rw [history, ← isEarlier, split.1]

theorem stateBehind_subject (operations : List Operation) (state : Session × σ) :
    (stateBehind surroundings operations state).1.subject = state.1.subject := by
  induction operations generalizing state with
  | nil => rfl
  | cons operation operations inductionHypothesis =>
      exact (inductionHypothesis _).trans (perform_subject operation state)

theorem stateBehind_consumed
    (operations : List Operation)
    {state : Session × σ}
    (hasRun : state.1.consumed = true ∨ .run ∈ operations) :
    (stateBehind surroundings operations state).1.consumed = true := by
  induction operations generalizing state with
  | nil =>
      rcases hasRun with consumed | member
      · exact consumed
      · cases member
  | cons operation operations inductionHypothesis =>
      apply inductionHypothesis
      rcases hasRun with consumed | member
      · exact .inl (perform_consumed operation consumed)
      · rcases List.mem_cons.mp member with rfl | member
        · exact .inl (perform_run_consumes state)
        · exact .inr member

variable (surroundings)

/-- A series that only records, or that finds the session consumed, records its
assertions and does nothing else. -/
theorem history_of_inert
    (operations : List Operation)
    (state : Session × σ)
    (inert : state.1.consumed = true ∨ ∀ operation ∈ operations, operation.isRun = false) :
    (history surroundings operations state).flatMap Turn.contacts = [] ∧
      stateBehind surroundings operations state =
        (state.1.extended (recorded operations), state.2) := by
  induction operations generalizing state with
  | nil =>
      refine ⟨rfl, ?_⟩
      rw [recorded, List.flatMap_nil, Session.extended_nil]
      rfl
  | cons operation operations inductionHypothesis =>
      have performed : (operation.perform surroundings state).contacts = [] ∧
          (operation.perform surroundings state).after =
            (state.1.extended operation.assertions, state.2) := by
        cases isRun : operation.isRun with
        | false => exact perform_of_recording isRun state
        | true =>
            have isOperation := eq_run_of_isRun isRun
            subst isOperation
            rcases inert with consumed | recording
            · refine ⟨(perform_run_of_consumed consumed).1, ?_⟩
              rw [(perform_run_of_consumed consumed).2.2, Operation.assertions,
                Session.extended_nil]
            · exact absurd isRun (by rw [recording _ List.mem_cons_self]; exact Bool.false_ne_true)
      have rest := inductionHypothesis (operation.perform surroundings state).after (by
        rw [performed.2]
        exact inert.imp id fun recording other member =>
          recording other (List.mem_cons_of_mem _ member))
      refine ⟨?_, ?_⟩
      · rw [history, List.flatMap_cons, performed.1, rest.1]
        rfl
      · have later : stateBehind surroundings operations
            (operation.perform surroundings state).after =
              (state.1.extended (recorded (operation :: operations)), state.2) := by
          rw [rest.2, performed.2, Session.extended_extended]
          rfl
        exact later

theorem exists_first_run (operations : List Operation) :
    (∀ operation ∈ operations, operation.isRun = false) ∨
      ∃ early late, operations = early ++ .run :: late ∧
        ∀ operation ∈ early, operation.isRun = false := by
  induction operations with
  | nil => exact .inl fun _ member => by cases member
  | cons operation operations inductionHypothesis =>
      cases isRun : operation.isRun with
      | true =>
          rw [eq_run_of_isRun isRun]
          exact .inr ⟨[], operations, rfl, fun _ member => by cases member⟩
      | false =>
          rcases inductionHypothesis with recording | ⟨early, late, shape, recording⟩
          · exact .inl (List.forall_mem_cons.mpr ⟨isRun, recording⟩)
          · refine .inr ⟨operation :: early, late, ?_, List.forall_mem_cons.mpr ⟨isRun, recording⟩⟩
            rw [shape, List.cons_append]

/-- The contacts of a series are those of its first run, which takes its course
with what has been recorded by then. -/
theorem first_run
    {session : Session}
    (fresh : session.consumed = false)
    (world : σ)
    {early : List Operation}
    (recording : ∀ operation ∈ early, operation.isRun = false)
    (late : List Operation) :
    IsCourse session.subject
        { assertions := .require session.subject :: (session.assertions ++ recorded early) }
        (visits ((history surroundings (early ++ .run :: late) (session, world)).flatMap
          Turn.contacts)) ∧
      (stateBehind surroundings (early ++ .run :: late) (session, world)).1.assertions =
        recorded late := by
  have recordingOnly := history_of_inert surroundings early (session, world) (.inr recording)
  let state : Session × σ := (session.extended (recorded early), world)
  let turn : Turn σ := Operation.run.perform surroundings state
  have behind : stateBehind surroundings early (session, world) = state := recordingOnly.2
  have stillFresh : state.1.consumed = false := fresh
  have course : IsCourse state.1.subject state.1.probe (visits turn.contacts) ∧
      turn.after.1 = state.1.afterRun := perform_run state
  have after : turn.after.1 = { state.1 with consumed := true, assertions := [] } := by
    rw [course.2, Session.afterRun, stillFresh]
    rfl
  have inert := history_of_inert surroundings late turn.after (.inl (by rw [after]))
  constructor
  · have contacts : (history surroundings (early ++ .run :: late) (session, world)).flatMap
        Turn.contacts = turn.contacts := by
      rw [history_append, List.flatMap_append, recordingOnly.1, behind, history,
        List.flatMap_cons, List.nil_append]
      show turn.contacts ++ _ = turn.contacts
      rw [inert.1, List.append_nil]
    rw [contacts]
    exact course.1
  · have final : stateBehind surroundings (early ++ .run :: late) (session, world) =
        (turn.after.1.extended (recorded late), turn.after.2) := by
      rw [stateBehind_append, behind]
      exact inert.2
    rw [final, after]
    exact List.nil_append _

/-- A session is used once. Over every series of operations and in every
surroundings, there is at most one preparation and at most one execution, and
the execution comes behind a preparation that is ready. The first run passes on
the subject and what was recorded before it, and nothing of that is left behind
it, however it ends. Every later run fails, and neither asks nor changes
anything. The runs meant here are those of the session with its own parts. -/
theorem single_use
    (surroundings : Surroundings σ)
    (session : Session)
    (world : σ)
    (operations : List Operation)
    (fresh : session.consumed = false) :
    let turns := history surroundings operations (session, world)
    let contacts := turns.flatMap Turn.contacts
    let final := stateBehind surroundings operations (session, world)
    contacts.countP Contact.isPreparation ≤ 1 ∧
    contacts.countP Contact.isExecution ≤ 1 ∧
    (∀ before after probe directory answer,
      contacts = before ++ ⟨.execute probe directory, answer⟩ :: after →
        ⟨.prepare session.subject directory, (.ok .ready : Except Failure Readiness)⟩ ∈ before) ∧
    (∀ early late, operations = early ++ .run :: late →
      (∀ operation ∈ early, operation.isRun = false) →
        (∀ probe directory answer, ⟨.execute probe directory, answer⟩ ∈ contacts →
          probe.assertions =
            .require session.subject :: (session.assertions ++ recorded early)) ∧
        final.1.assertions = recorded late) ∧
    ((∀ operation ∈ operations, operation.isRun = false) →
      contacts = [] ∧ final.1.assertions = session.assertions ++ recorded operations) ∧
    (∀ earlier turn later, turns = earlier ++ turn :: later → turn.operation = .run →
      (∃ other ∈ earlier, other.operation = .run) →
        turn.result = some (.error (.consumed session.subject)) ∧
          turn.contacts = [] ∧ turn.after = turn.before) ∧
    (∀ current : Session,
      ((Session.stepwise.run.run current).servedBy current).within current.span =
        current.run.run.andThen fun result => .done (result, current.afterRun)) := by
  intro turns contacts final
  have course : ∃ probe, IsCourse session.subject probe (visits contacts) := by
    rcases exists_first_run operations with recording | ⟨early, late, rfl, recording⟩
    · have inert := history_of_inert surroundings operations (session, world) (.inr recording)
      refine ⟨session.probe, ?_⟩
      show IsCourse session.subject session.probe (visits (turns.flatMap Turn.contacts))
      rw [inert.1]
      exact .idle
    · exact ⟨_, (first_run surroundings fresh world recording late).1⟩
  obtain ⟨probe, course⟩ := course
  refine ⟨course.countP_isPreparation, course.countP_isExecution, ?_, ?_, ?_, ?_,
    Session.stepwise_servedBy⟩
  · intro before after executed directory answer split
    exact (course.ready_before split).2
  · rintro early late rfl recording
    have first := first_run surroundings fresh world recording late
    refine ⟨?_, first.2⟩
    intro executed directory answer member
    obtain ⟨before, after, split⟩ := List.append_of_mem member
    rw [(first.1.ready_before split).1]
  · intro recording
    have inert := history_of_inert surroundings operations (session, world) (.inr recording)
    refine ⟨inert.1, ?_⟩
    show (stateBehind surroundings operations (session, world)).1.assertions = _
    rw [inert.2]
    rfl
  · rintro earlier turn later split isRun ⟨other, member, otherIsRun⟩
    obtain ⟨first, operation, second, _, rfl, rfl⟩ := history_split split
    rw [perform_operation] at isRun
    subst isRun
    have hasRun : .run ∈ first := by
      rw [← map_operation_history first (session, world), ← otherIsRun]
      exact List.mem_map_of_mem member
    have consumed : (stateBehind surroundings first (session, world)).1.consumed = true :=
      stateBehind_consumed first (.inr hasRun)
    obtain ⟨silent, failed, same⟩ := perform_run_of_consumed consumed
    rw [stateBehind_subject] at failed
    exact ⟨failed, silent, same⟩

end Series

/-- Surroundings in which everything is granted and ready, and every execution
fails. -/
def Surroundings.failing : Surroundings Unit where
  answer call world :=
    match call with
    | .host request => Host.obliging.answer request world
    | .prepare _ _ => ((.ok .ready : Except Failure Readiness), world)
    | .execute _ _ => ((.error (.terminated none) : Except Failure Outcome), world)
    | .emit _ => ((), world)

/-- A failed run empties the session for good: a later run does not find what
was recorded before the first one, and does not take what is recorded since. -/
theorem single_use_of_failed_run :
    let session : Session := .start "core" {}
    let operations : List Operation :=
      [.record (.constant "Early" "early.rbi:1"), .run, .record (.require "late"), .run]
    session.consumed = false ∧
      (stateBehind .failing operations (session, ())).1.assertions = [.require "late"] ∧
      ((history .failing operations (session, ())).flatMap Turn.contacts).countP
        Contact.isExecution ≤ 1 := by
  intro session operations
  have law := single_use .failing session () operations rfl
  have split : operations = [.record (.constant "Early" "early.rbi:1")] ++
      .run :: [.record (.require "late"), .run] := rfl
  exact ⟨rfl, (law.2.2.2.1 _ _ split (by decide)).2, law.2.1⟩

end InterfaceAudit
