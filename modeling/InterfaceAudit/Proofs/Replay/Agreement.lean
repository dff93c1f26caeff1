import InterfaceAudit.Proofs.Replay.Findings

/-!
Contract: the flag of a replay and its output tell the same story.

Owns:
- calls of the checks one after another, each against a runtime of its own;
- the law that a tally is succeeding exactly while it has printed nothing, kept
  by every call, and that a call takes nothing back;
- the outcome and the verdict of a run, which agree on whether it succeeded.

Does not own: which diagnostics a verdict holds.
-/

namespace InterfaceAudit

/-- A tally whose flag and lines agree: nothing is printed while it succeeds,
and something is once it does not. -/
def Tally.Agrees (tally : Tally) : Prop :=
  tally.succeeding = tally.lines.isEmpty

namespace Replay

/-! ## Calls -/

/-- A call of a check, with the runtime that it asks. -/
structure Call where
  runtime : Runtime
  check : Check

def Call.apply (tally : Tally) (call : Call) : Tally :=
  runCheck call.runtime tally call.check

def Call.lines (call : Call) : List String :=
  checkLines call.runtime call.check

/-- The tally after calls in order, from a fresh one. -/
def afterCalls (calls : List Call) : Tally :=
  calls.foldl Call.apply {}

theorem agrees_extend {tally : Tally} (agrees : tally.Agrees) (lines : List String) :
    (extend tally lines).Agrees := by
  unfold Tally.Agrees at agrees ⊢
  rw [extend, agrees]
  cases tally.lines with
  | nil => simp
  | cons line others => rfl

/-- Whatever a call finds, it leaves a tally that agrees if it was given one. -/
theorem Call.agrees_apply {tally : Tally} (agrees : tally.Agrees) (call : Call) :
    (call.apply tally).Agrees := by
  rw [Call.apply, runCheck_eq_extend]
  exact agrees_extend agrees _

/-- Calls print all their lines, in order, and have no other effect. -/
theorem foldl_apply_eq_extend (calls : List Call) (tally : Tally) :
    calls.foldl Call.apply tally = extend tally (calls.flatMap Call.lines) :=
  foldl_eq_extend (fun current call => runCheck_eq_extend call.runtime current call.check)
    calls tally

theorem agrees_afterCalls (calls : List Call) : (afterCalls calls).Agrees := by
  -- A fresh tally agrees, and the induction needs the law for every other one.
  have kept : ∀ tally : Tally, tally.Agrees → (calls.foldl Call.apply tally).Agrees := by
    induction calls with
    | nil => exact fun _ agrees => agrees
    | cons call calls inductionHypothesis =>
        exact fun tally agrees => inductionHypothesis _ (call.agrees_apply agrees)
  exact kept {} rfl

/-- What later calls add to the tally of earlier ones. -/
theorem afterCalls_append (earlier later : List Call) :
    afterCalls (earlier ++ later) =
      extend (afterCalls earlier) (later.flatMap Call.lines) := by
  rw [afterCalls, List.foldl_append, foldl_apply_eq_extend later]
  rfl

/-! ## The end of a run -/

theorem succeeded_run (assertions : List Assertion) (runtime : Runtime) :
    (run assertions runtime).succeeded = (lines assertions runtime).isEmpty := by
  rw [run, Tally.outcome, tally_eq]

theorem classify_output_run (assertions : List Assertion) (runtime : Runtime) :
    Diagnostic.classify (run assertions runtime).output =
      (lines assertions runtime).flatMap Diagnostic.classify := by
  rw [run, Tally.outcome, Tally.classify_output, tally_eq]

/-- A run that prints anything prints something that is classified as an error,
whatever breaks the texts in it. -/
theorem exists_error_of_lines
    {assertions : List Assertion}
    {runtime : Runtime}
    (prints : lines assertions runtime ≠ []) :
    ∃ diagnostic ∈ Diagnostic.classify (run assertions runtime).output,
      diagnostic.isError = true := by
  obtain ⟨line, member, failure⟩ := exists_failure_of_lines runtime assertions prints
  obtain ⟨first, others, classified⟩ := failure.classify
  refine ⟨.error first, ?_, rfl⟩
  rw [classify_output_run]
  refine List.mem_flatMap.mpr ⟨line, member, ?_⟩
  rw [classified]
  exact List.mem_cons_self

/-- No line of a run is so empty that the output does not show it. -/
theorem output_run_eq_empty_iff (assertions : List Assertion) (runtime : Runtime) :
    (run assertions runtime).output = "" ↔ lines assertions runtime = [] := by
  constructor
  · intro empty
    by_contra prints
    obtain ⟨diagnostic, member, _⟩ := exists_error_of_lines prints
    rw [empty] at member
    exact List.not_mem_nil member
  · intro silent
    rw [run, Tally.outcome, tally_eq, silent]
    rfl

end Replay

theorem Tally.output_ends (tally : Tally) (prints : tally.output ≠ "") :
    ∃ text, tally.output = text ++ "\n" := by
  unfold output at prints ⊢
  dsimp only at prints ⊢
  split at prints
  next empty => exact absurd (String.isEmpty_iff.mp empty) prints
  next shown =>
    rw [if_neg shown]
    exact ⟨_, rfl⟩

namespace Replay

theorem outcome_agrees (assertions : List Assertion) (runtime : Runtime) :
    let outcome := run assertions runtime
    (outcome.succeeded = true ↔ outcome.output = "") ∧
    (outcome.output = "" ↔ outcome.exitCode = some 0) ∧
    (outcome.succeeded = false →
      outcome.exitCode = some 1 ∧ ∃ text, outcome.output = text ++ "\n") := by
  intro outcome
  have isEmpty : outcome.output = "" ↔ outcome.succeeded = true := by
    rw [output_run_eq_empty_iff, succeeded_run, List.isEmpty_iff]
  have code : outcome.exitCode = some (if outcome.succeeded then 0 else 1) := rfl
  refine ⟨isEmpty.symm, isEmpty.trans ?_, fun failed => ⟨?_, ?_⟩⟩
  · rw [code]
    cases outcome.succeeded <;> decide
  · rw [code, failed]
    rfl
  · apply Tally.output_ends
    intro empty
    rw [isEmpty.mp empty] at failed
    cases failed

/-- The diagnostics of a run are those of its lines: a run that passes has none. -/
theorem diagnostics_run (assertions : List Assertion) (runtime : Runtime) :
    (run assertions runtime).verdict.diagnostics =
      (lines assertions runtime).flatMap Diagnostic.classify := by
  rw [Outcome.verdict, succeeded_run, ← classify_output_run]
  cases silent : (lines assertions runtime).isEmpty with
  | false => rfl
  | true =>
      rw [if_pos rfl, (output_run_eq_empty_iff assertions runtime).mpr (List.isEmpty_iff.mp silent)]
      rfl

theorem passed_run (assertions : List Assertion) (runtime : Runtime) :
    (run assertions runtime).verdict.passed = (lines assertions runtime).isEmpty := by
  rw [Outcome.verdict, succeeded_run]
  cases (lines assertions runtime).isEmpty <;> rfl

/-- The verdict on a run: it passes exactly where it has no diagnostics, and has
an error among them otherwise. -/
theorem verdict_agrees (assertions : List Assertion) (runtime : Runtime) :
    let verdict := (run assertions runtime).verdict
    (verdict.passed = true ↔ verdict.diagnostics = []) ∧
    (verdict.passed = false → ∃ diagnostic ∈ verdict.diagnostics, diagnostic.isError = true) := by
  intro verdict
  have reports : verdict.passed = false →
      ∃ diagnostic ∈ verdict.diagnostics, diagnostic.isError = true := by
    intro failed
    have prints : lines assertions runtime ≠ [] :=
      List.isEmpty_eq_false_iff.mp ((passed_run assertions runtime).symm.trans failed)
    obtain ⟨diagnostic, member, isError⟩ := exists_error_of_lines prints
    rw [classify_output_run, ← diagnostics_run] at member
    exact ⟨diagnostic, member, isError⟩
  refine ⟨⟨fun passed => ?_, fun none => ?_⟩, reports⟩
  · have silent := List.isEmpty_iff.mp ((passed_run assertions runtime).symm.trans passed)
    exact (diagnostics_run assertions runtime).trans (by rw [silent]; rfl)
  · by_contra failed
    obtain ⟨diagnostic, member, _⟩ := reports (Bool.eq_false_iff.mpr failed)
    rw [none] at member
    exact List.not_mem_nil member

/-- Success and output never disagree. After any calls of the checks a tally is
succeeding exactly if it has printed nothing; further calls never bring success
back, and only add lines behind those that are there. So a run of any assertions
succeeds exactly if it prints nothing and exits with 0, and otherwise exits with 1
and ends its output in a line break; and its verdict passes exactly if it reports
nothing, and otherwise reports an error. -/
theorem success_agrees_with_output :
    (∀ calls : List Call,
      ((afterCalls calls).succeeding = true ↔ (afterCalls calls).lines = [])) ∧
    (∀ earlier later : List Call,
      ((afterCalls earlier).succeeding = false →
        (afterCalls (earlier ++ later)).succeeding = false) ∧
      (afterCalls earlier).lines <+: (afterCalls (earlier ++ later)).lines) ∧
    (∀ (assertions : List Assertion) (runtime : Runtime),
      let outcome := run assertions runtime
      (outcome.succeeded = true ↔ outcome.output = "") ∧
      (outcome.output = "" ↔ outcome.exitCode = some 0) ∧
      (outcome.succeeded = false →
        outcome.exitCode = some 1 ∧ ∃ text, outcome.output = text ++ "\n") ∧
      (outcome.verdict.passed = true ↔ outcome.verdict.diagnostics = []) ∧
      (outcome.verdict.passed = false →
        ∃ diagnostic ∈ outcome.verdict.diagnostics, diagnostic.isError = true)) := by
  refine ⟨fun calls => ?_, fun earlier later => ⟨fun failed => ?_, ?_⟩,
    fun assertions runtime => ?_⟩
  · have agrees := agrees_afterCalls calls
    unfold Tally.Agrees at agrees
    rw [agrees, List.isEmpty_iff]
  · rw [afterCalls_append, extend, failed, Bool.false_and]
  · rw [afterCalls_append]
    exact List.prefix_append _ _
  · obtain ⟨succeeds, exits, fails⟩ := outcome_agrees assertions runtime
    exact ⟨succeeds, exits, fails, verdict_agrees assertions runtime⟩

/-- A name that is only a line break and a location that imitates a note break
neither the flag nor the verdict. -/
theorem verdict_of_broken_name :
    let runtime : Runtime := {
      loads := fun _ => true
      resolvesConstant := fun _ => false
      resolvesMethod := fun _ _ _ => false
      delegates := fun _ => .ok true }
    let outcome := run [.constant "\n" "\nNote: all is well"] runtime
    outcome.succeeded = false ∧ outcome.exitCode = some 1 ∧
      ∃ diagnostic ∈ outcome.verdict.diagnostics, diagnostic.isError = true := by
  intro runtime outcome
  obtain ⟨_, _, fails, _, reports⟩ := success_agrees_with_output.2.2
    [.constant "\n" "\nNote: all is well"] runtime
  exact ⟨rfl, (fails rfl).1, reports rfl⟩

end Replay

end InterfaceAudit
