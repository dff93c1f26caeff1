import InterfaceAudit.Proofs.Session.Fate

/-!
Contract: what the children of a run make of its report.

Owns: the law that a verdict needs a probe that ended by itself, that any other
end is a failure, and that the fields of a report agree with each other.

Does not own: where diagnostics go, or what is left in the directory.
-/

namespace InterfaceAudit

namespace Session

open Contact

variable {σ : Type}

/-! ## What follows from a fate -/

namespace Fate

variable
  {subject : String}
  {probe : Probe}
  {bundle : Option Bundle}
  {line : List String}
  {limit : UInt64}
  {visited : List Contact}
  {installs probes : List Child}
  {result : Except Failure Report}

/-- A probe that did not end by itself makes the run fail. -/
theorem fails
    (fate : Fate subject probe bundle line limit visited installs probes result) :
    ∀ child ∈ probes,
      child.Fails limit result ∧
      ∀ signal captured, child.ending = .ended (.finished (.signalled signal) captured) →
        result = .error (.terminated (some signal)) := by
  intro child member
  cases fate with
  | consumed | homeless _ | unprepared _ _ | unready _ _ _ => cases member
  | unexecuted directory installed upshot =>
      refine ⟨(upshot.fails child member).mono fun failure isFailure => ?_, ?_⟩
      · cases isFailure
        rfl
      · intro signal captured isEnding
        cases upshot.answer_of_finished member isEnding
        rfl
  | judged directory installed upshot duration =>
      refine ⟨(upshot.fails child member).mono nofun, ?_⟩
      intro signal captured isEnding
      cases upshot.answer_of_finished member isEnding

/-- Only a child that ran too long makes a run time out. -/
theorem overran_of_timedOut
    (fate : Fate subject probe bundle line limit visited installs probes result)
    {secs : UInt64}
    (isTimedOut : result = .error (.timedOut secs)) :
    0 < secs ∧
      ((secs = limit ∧ ∃ child ∈ probes, child.ending = .overran) ∨
        ∃ chosen, bundle = some chosen ∧ secs = chosen.timeoutSecs ∧
          ∃ child ∈ installs, child.ending = .overran) := by
  cases fate with
  | consumed | homeless _ | unready _ _ _ | judged _ _ _ _ => cases isTimedOut
  | unprepared directory installed =>
      cases isTimedOut
      obtain ⟨chosen, isBundle, positive, isLimit, overrun⟩ := installed.overran_of_timedOut
      exact ⟨positive, .inr ⟨chosen, isBundle, isLimit, overrun⟩⟩
  | unexecuted directory installed upshot =>
      cases isTimedOut
      have meant (status : ExitStatus) (captured : Captured) :
          (Executor.errand line limit probe directory).meaning status captured ≠
            .error (.timedOut secs) := by
        cases status <;> exact nofun
      obtain ⟨positive, isLimit, overrun⟩ := upshot.overran_of_timedOut rfl meant
      exact ⟨positive, .inl ⟨isLimit, overrun⟩⟩

end Fate

/-! ## The law of verdicts -/

/-- An installation that ended without success is a report that has not passed. -/
theorem Fate.unready_of_failed_install
    {subject : String}
    {probe : Probe}
    {bundle : Option Bundle}
    {line : List String}
    {limit : UInt64}
    {visited : List Contact}
    {installs probes : List Child}
    {result : Except Failure Report}
    (fate : Fate subject probe bundle line limit visited installs probes result)
    {child : Child}
    (member : child ∈ installs)
    {status : ExitStatus}
    {captured : Captured}
    (isEnding : child.ending = .ended (.finished status captured))
    (failed : status.isSuccess = false) :
    ∃ diagnostics duration, result = .ok (unreadyReport subject diagnostics duration) := by
  -- With this end the preparation finds the directory not ready, and nothing else.
  have found {directory : Path} {answer : Except Failure Readiness}
      (installed : Installed subject directory bundle installs answer) :
      ∃ diagnostics, answer = .ok (.failed diagnostics) := by
    cases installed with
    | nothing => cases member
    | bundle bundle upshot =>
        have isAnswer := upshot.answer_of_finished member isEnding
        change answer = if status.isSuccess then _ else _ at isAnswer
        rw [failed] at isAnswer
        exact ⟨_, isAnswer⟩
  cases fate with
  | consumed => cases member
  | homeless fault => cases member
  | unprepared directory installed =>
      obtain ⟨_, isFailed⟩ := found installed
      cases isFailed
  | unready directory installed duration => exact ⟨_, duration, rfl⟩
  | unexecuted directory installed upshot =>
      obtain ⟨_, isFailed⟩ := found installed
      cases isFailed
  | judged directory installed upshot duration =>
      obtain ⟨_, isFailed⟩ := found installed
      cases isFailed

end Session

end InterfaceAudit
