import InterfaceAudit.Proofs.Script.Simulation

/-!
Contract: what it says of a live runtime that a script exits with code 0.

Owns:
- what a check asserts of the operations of a live runtime;
- which checks a script skips: those of methods whose receiver is there with a
  value that counts as false;
- the law that a script exits with code 0 exactly if every unit loads and every
  check holds or is skipped.

Does not own: what is printed on the way.
-/

namespace InterfaceAudit.Script

section Assertions

variable {Object : Type} (live : LiveRuntime Object)

/-- A method is not there, dynamic dispatch stands in for it, and the check
allows that. -/
structure IsExcused (check : MethodCheck) (value : Value Object) : Prop where
  missed : ∃ thrown, lookup live check.singleton value check.method = .error thrown ∧
    thrown.isCaughtBy .nameError = true
  ofInstances : check.singleton = false
  overrides : live.overridesMissing value = .ok true
  allowed : check.allowMissing = true

/-- What a check asserts: the constant is there, and so is the method, unless
its absence is excused. -/
def Holds : Check → Prop
  | .constant check => ∃ value, live.constGet check.name = .ok value
  | .method check => ∃ value, live.constGet check.receiver = .ok value ∧
      ((∃ found, lookup live check.singleton value check.method = .ok found) ∨
        IsExcused live check value)

/-- A check of a method whose receiver is there with a value that counts as
false. The lookup takes such a receiver for one that was reported as missing. -/
def IsSkipped : Check → Prop
  | .constant _ => False
  | .method check => ∃ value, live.constGet check.receiver = .ok value ∧ value.isTruthy = false

/-- What a statement asserts, as far as the script finds out. -/
def IsMet : Statement → Prop
  | .load name _ => live.require name = .ok ()
  | .checkpoint => True
  | .getConst name location => Holds live (.constant { name, location })
  | .getMethod receiver method location singleton allowMissing =>
      let check : Check := .method { receiver, method, location, singleton, allowMissing }
      Holds live check ∨ IsSkipped live check

end Assertions

/-- The script goes on, and no failure is recorded. -/
def Standing.Succeeds : Standing → Prop
  | .running progress => progress.success = true
  | .exited _ _ => False
  | .escaped _ _ => False

def Standing.Clears (standing : Standing) : Prop :=
  ∃ progress, standing = .exited 0 progress

section Runs

variable {Object : Type} (live : LiveRuntime Object)

/-! ## Calls -/

section Calls

variable {check : MethodCheck} {value : Value Object} {progress after : Progress}

theorem getConst_succeeds_iff (name location : String) (progress : Progress) :
    (Standing.behind
        (called live .getConst [.state, .text name, .text location] progress)).Succeeds ↔
      progress.success = true ∧ ∃ value, live.constGet name = .ok value := by
  cases found : live.constGet name with
  | ok value =>
      rw [getConst_of_found live found]
      simp [Standing.behind, Standing.Succeeds]
  | error thrown =>
      cases caught : [.nameError, .loadError].any thrown.isCaughtBy with
      | true =>
          rw [getConst_of_missed live found caught]
          simp [Standing.behind, Standing.Succeeds, Progress.fail]
      | false =>
          rw [getConst_of_uncaught live found caught]
          simp [Standing.behind, Standing.Succeeds]

theorem Progress.success_reportMissing (progress : Progress) (check : MethodCheck)
    (fallback : Bool) : (progress.reportMissing check fallback).success = false := by
  cases fallback <;> rfl

/-- An absence that the lookup rescues is excused exactly if nothing is reported. -/
theorem isExcused_iff
    {thrown : ExceptionClass}
    (missed : lookup live check.singleton value check.method = .error thrown)
    (caught : thrown.isCaughtBy .nameError = true) :
    IsExcused live check value ↔ (couldStandIn live check value && check.allowMissing) = true := by
  have confirmed : standsIn live value = true ↔ live.overridesMissing value = .ok true := by
    unfold standsIn
    cases live.overridesMissing value <;> simp
  rw [couldStandIn, Bool.and_eq_true, Bool.and_eq_true, Bool.not_eq_true', confirmed]
  constructor
  · intro excused
    exact ⟨⟨excused.ofInstances, excused.overrides⟩, excused.allowed⟩
  · rintro ⟨⟨ofInstances, overrides⟩, allowed⟩
    exact ⟨⟨thrown, missed, caught⟩, ofInstances, overrides, allowed⟩

/-- A method that is not there leaves the script in success exactly if that is
excused. -/
theorem getMethod_of_missed_succeeds_iff
    {thrown : ExceptionClass}
    (receiver : called live .getConst [.state, .text check.receiver, .text check.location]
      progress = (.ok value, after))
    (truthy : value.isTruthy = true)
    (missed : lookup live check.singleton value check.method = .error thrown) :
    (Standing.behind (called live .getMethod (methodArguments check) progress)).Succeeds ↔
      after.success = true ∧ IsExcused live check value := by
  cases caught : thrown.isCaughtBy .nameError with
  | false =>
      rw [getMethod_of_uncaught live receiver truthy missed caught]
      refine iff_of_false id fun ⟨_, excused⟩ => ?_
      obtain ⟨other, raised, rescued⟩ := excused.missed
      cases missed.symm.trans raised
      cases caught.symm.trans rescued
  | true =>
      by_cases rescued : check.singleton = false → ∀ thrown,
          live.overridesMissing value = .error thrown → thrown.isCaughtBy .standardError = true
      · rw [getMethod_of_missed live receiver truthy missed caught rescued,
          isExcused_iff live missed caught]
        cases couldStandIn live check value && check.allowMissing with
        | false => simp [Standing.behind, Standing.Succeeds, Progress.success_reportMissing]
        | true => simp [Standing.behind, Standing.Succeeds]
      · -- The fallback test raises what nothing rescues, so it cannot hold either.
        simp only [Classical.not_imp, Classical.not_forall] at rescued
        obtain ⟨ofInstances, fault, raised, uncaught⟩ := rescued
        rw [getMethod_of_uncaught_fallback live receiver truthy missed caught ofInstances raised
          (Bool.not_eq_true _ ▸ uncaught)]
        refine iff_of_false id fun ⟨_, excused⟩ => ?_
        cases raised.symm.trans excused.overrides

/-- A receiver that is there, with a value that counts as true, has its method
looked up. -/
theorem getMethod_of_receiver_succeeds_iff
    (found : live.constGet check.receiver = .ok value)
    (truthy : value.isTruthy = true)
    (progress : Progress) :
    (Standing.behind (called live .getMethod (methodArguments check) progress)).Succeeds ↔
      progress.success = true ∧ Holds live (.method check) := by
  have receiver := getConst_of_found live found check.location progress
  have asserted : Holds live (.method check) ↔
      (∃ found, lookup live check.singleton value check.method = .ok found) ∨
        IsExcused live check value := by
    simp [Holds, found]
  rw [asserted]
  cases looked : lookup live check.singleton value check.method with
  | ok object =>
      rw [getMethod_of_found live receiver truthy looked]
      exact (and_iff_left (Or.inl ⟨object, rfl⟩)).symm
  | error thrown =>
      rw [getMethod_of_missed_succeeds_iff live receiver truthy looked]
      simp

/-- A receiver that is not there is a failure, whether its absence is rescued or
not. -/
theorem not_succeeds_getMethod_of_missing_receiver
    {thrown : ExceptionClass}
    (missed : live.constGet check.receiver = .error thrown)
    (progress : Progress) :
    ¬(Standing.behind (called live .getMethod (methodArguments check) progress)).Succeeds := by
  cases caught : [.nameError, .loadError].any thrown.isCaughtBy with
  | true =>
      have receiver := getConst_of_missed live missed caught check.location progress
      rw [getMethod_of_falsy_receiver live receiver rfl]
      exact Bool.false_ne_true
  | false =>
      have receiver := getConst_of_uncaught live missed caught check.location progress
      have uncaught : thrown.isCaughtBy .nameError = false := by
        simp_all
      rw [getMethod_of_uncaught_receiver live receiver uncaught]
      exact id

theorem getMethod_succeeds_iff (check : MethodCheck) (progress : Progress) :
    (Standing.behind (called live .getMethod (methodArguments check) progress)).Succeeds ↔
      progress.success = true ∧
        (Holds live (.method check) ∨ IsSkipped live (.method check)) := by
  cases found : live.constGet check.receiver with
  | error thrown =>
      have absent : ¬(Holds live (.method check) ∨ IsSkipped live (.method check)) := by
        simp [Holds, IsSkipped, found]
      exact iff_of_false (not_succeeds_getMethod_of_missing_receiver live found progress)
        fun met => absent met.2
  | ok value =>
      cases truthy : value.isTruthy with
      | false =>
          have receiver := getConst_of_found live found check.location progress
          have skipped : IsSkipped live (.method check) := ⟨value, found, truthy⟩
          rw [getMethod_of_falsy_receiver live receiver truthy]
          exact (and_iff_left (Or.inr skipped)).symm
      | true =>
          have notSkipped : ¬IsSkipped live (.method check) := by
            simp [IsSkipped, found, truthy]
          rw [getMethod_of_receiver_succeeds_iff live found truthy, or_iff_left notSkipped]

end Calls

/-! ## Statements -/

/-- A statement goes on in success exactly if it started so and finds what it
asserts. -/
theorem Statement.run_succeeds_iff (statement : Statement) (progress : Progress) :
    (statement.run live (defined live) progress).Succeeds ↔
      progress.success = true ∧ IsMet live statement := by
  cases statement with
  | load name notice =>
      rw [Statement.run, IsMet]
      cases loaded : live.require name with
      | ok _ => simp [Standing.Succeeds]
      | error thrown =>
          simp only [reduceCtorEq, and_false, iff_false]
          split
          · exact Bool.false_ne_true
          · exact id
  | checkpoint =>
      rw [Statement.run, IsMet]
      cases success : progress.success <;> simp [Standing.Succeeds, success]
  | getConst name location => exact getConst_succeeds_iff live name location progress
  | getMethod receiver method location singleton allowMissing =>
      exact getMethod_succeeds_iff live { receiver, method, location, singleton, allowMissing }
        progress

theorem Standing.not_clears_behind {α : Type} (result : Except ExceptionClass α × Progress) :
    ¬(Standing.behind result).Clears := by
  rintro ⟨after, exited⟩
  obtain ⟨_ | _, _⟩ := result <;> cases exited

/-- A statement that ends the script ends it with code 1. -/
theorem Statement.not_clears_run (statement : Statement) (progress : Progress) :
    ¬(statement.run live (defined live) progress).Clears := by
  cases statement with
  | load name notice =>
      rintro ⟨after, exited⟩
      rw [Statement.run] at exited
      split at exited
      · cases exited
      · split at exited <;> cases exited
  | checkpoint =>
      rintro ⟨after, exited⟩
      rw [Statement.run] at exited
      split at exited <;> cases exited
  | getConst name location => exact Standing.not_clears_behind _
  | getMethod receiver method location singleton allowMissing =>
      exact Standing.not_clears_behind _

/-! ## Runs -/

/-- Statements with a checkpoint behind them end in code 0 exactly if they start
in success and every one of them finds what it asserts. -/
theorem runStatements_clears_iff (statements : List Statement) (progress : Progress) :
    (runStatements live (defined live) (statements ++ [.checkpoint]) progress).Clears ↔
      progress.success = true ∧ ∀ statement ∈ statements, IsMet live statement := by
  induction statements generalizing progress with
  | nil =>
      rw [List.nil_append, runStatements_checkpoint, runStatements]
      cases success : progress.success <;> simp [Standing.Clears]
  | cons statement statements inductionHypothesis =>
      have step := statement.run_succeeds_iff live progress
      have goesOn := statement.not_clears_run live progress
      rw [List.cons_append, runStatements, List.forall_mem_cons, ← and_assoc, ← step]
      cases ran : statement.run live (defined live) progress with
      | running after => exact inductionHypothesis after
      | exited code after =>
          rw [ran] at goesOn
          exact iff_of_false goesOn fun met => met.1
      | escaped thrown after =>
          rw [ran] at goesOn
          exact iff_of_false goesOn fun met => met.1

theorem exitCode_eq_zero_iff (standing : Standing) :
    (∃ outcome, standing.outcome? = some outcome ∧ outcome.exitCode = some 0) ↔
      standing.Clears := by
  cases standing with
  | exited code progress =>
      simp [Standing.outcome?, Standing.Clears]
  | running progress => simp [Standing.outcome?, Standing.Clears]
  | escaped thrown progress => simp [Standing.outcome?, Standing.Clears]

theorem isMet_checkStatement_iff (check : Check) :
    IsMet live (checkStatement check) ↔ Holds live check ∨ IsSkipped live check := by
  cases check with
  | constant check => exact (or_false _).to_iff.symm
  | method check => exact Iff.rfl

theorem forall_statements_isMet_iff (assertions : List Assertion) :
    (∀ statement ∈ (requires assertions).map loadStatement ++
        .checkpoint :: (checks assertions).map checkStatement, IsMet live statement) ↔
      (∀ name ∈ requires assertions, live.require name = .ok ()) ∧
        ∀ check ∈ checks assertions, Holds live check ∨ IsSkipped live check := by
  simp only [List.forall_mem_append, List.forall_mem_cons, List.forall_mem_map,
    isMet_checkStatement_iff]
  simp only [loadStatement, IsMet, true_and]

/-- The script of any assertions exits with code 0 exactly if every unit loads
and every check holds, apart from the checks that it skips. -/
theorem exits_zero_iff_holds_or_skipped (assertions : List Assertion) :
    (∃ outcome, live.runText (Probe.mk assertions).text = some outcome ∧
        outcome.exitCode = some 0) ↔
      (∀ name ∈ requires assertions, live.require name = .ok ()) ∧
        ∀ check ∈ checks assertions, Holds live check ∨ IsSkipped live check := by
  have shape : statements assertions =
      ((requires assertions).map loadStatement ++
        .checkpoint :: (checks assertions).map checkStatement) ++ [.checkpoint] := by
    rw [statements, List.append_assoc, List.cons_append]
  rw [runText_text, exitCode_eq_zero_iff, shape, runStatements_clears_iff,
    forall_statements_isMet_iff]
  exact and_iff_right rfl

end Runs

/-- A runtime in which there is one constant, whose value is `nil`. -/
def flagged : LiveRuntime String where
  shown := id
  require _ := .error .loadError
  constGet name := if name = "FLAG" then .ok .nil else .error .nameError
  method _ _ := .error .nameError
  instanceMethod _ _ := .error .nameError
  overridesMissing _ := .error .nameError

/-- A method that no lookup finds is skipped without a word where its receiver
is `nil`. -/
theorem exits_zero_of_nil_receiver :
    let check : MethodCheck := { receiver := "FLAG", method := "bar", location := "x.rbi:1" }
    flagged.runText (Probe.mk [.method check]).text =
        some { succeeded := true, exitCode := some 0, output := "" } ∧
      ¬Holds flagged (.method check) := by
  intro check
  constructor
  · rw [runText_text]
    rfl
  · rintro ⟨value, _, ⟨found, looked⟩ | excused⟩
    · cases looked
    · cases excused.overrides

end InterfaceAudit.Script
