import InterfaceAudit.Proofs.Host.Transcript
import InterfaceAudit.Proofs.Replay.Findings
import InterfaceAudit.Proofs.Session.Recording

/-!
Contract: the report of a session that is run against a known runtime.

Owns:
- the stages of such a run, on any host that grants what they need;
- the report, in full.

Does not own: what the checks find, or sessions with other executors.
-/

namespace InterfaceAudit

namespace Session

/-- The report of a replay, up to its duration. -/
def replayReport
    (subject : String)
    (runtime : Runtime)
    (assertions : List Assertion)
    (duration : Nat) :
    Report :=
  let probe : Probe := { assertions := .require subject :: assertions }
  let found := findings (subject :: requires assertions) (checks assertions) runtime
  { subject := subject
    passed := found.isEmpty
    diagnostics := found
    environmentReady := true
    probeDigest := some probe.digest
    exitCode := some (if found.isEmpty then 0 else 1)
    durationMs := duration }

/-- The directory is made where the host grants it. -/
theorem makeDirectory_yields
    {post : Except Failure Path → Prop}
    (subject : String)
    (made : ∀ directory, post (.ok directory)) :
    (makeDirectory {} subject).run.Yields Exchange.IsGranted post := by
  unfold makeDirectory
  refine Attempt.yields_bind.mpr (Attempt.yields_orFail.mpr ?_)
  intro answer granted
  obtain ⟨directory, rfl⟩ := granted
  exact made directory

/-- A replay ends in its outcome where the host grants the writing of the script. -/
theorem replay_yields
    {post : Except Failure Outcome → Prop}
    (runtime : Runtime)
    (probe : Probe)
    (directory : Path)
    (ended : post (.ok (Replay.run probe.assertions runtime))) :
    (Executor.replay runtime probe directory).run.Yields Exchange.IsGranted post := by
  unfold Executor.replay Attempt.writeFile
  refine Attempt.yields_bind.mpr (Attempt.yields_orFail.mpr ?_)
  intro answer granted
  cases granted
  exact ended

/-- Work that cannot fail and has no result comes to nothing that matters. -/
theorem always_yields
    {post : Except Failure Unit → Prop}
    (action : Action Unit)
    (ended : post (.ok ())) :
    (Attempt.always action).run.Yields Exchange.IsGranted post :=
  Attempt.yields_always.mpr (action.yields_of_forall fun _ => ended)

/-- The probe of a session with a known runtime ends in the report on it. -/
theorem runProbe_yields
    (post : Except Failure Report → Prop)
    (subject : String)
    (runtime : Runtime)
    (assertions : List Assertion)
    (unbroken : ∀ assertion ∈ Assertion.require subject :: assertions,
      ∀ text ∈ assertion.texts, Unbroken text)
    (directory : Path)
    (start : Nat)
    (reported : ∀ duration, post (.ok (replayReport subject runtime assertions duration))) :
    let session := (withRuntime subject runtime).extended assertions
    (session.runProbe session.probe directory start).run.Yields Exchange.IsGranted post := by
  intro session
  have verdict := Replay.verdict_run runtime unbroken
  have exitCode := Replay.exitCode_run runtime unbroken
  have probed : session.probe.assertions = .require subject :: assertions := by
    show Assertion.require subject :: ([] ++ assertions) = _
    rw [List.nil_append]
  unfold runProbe
  refine Attempt.yields_bind.mpr (always_yields _ ?_)
  refine Attempt.yields_bind.mpr (replay_yields _ _ _ ?_)
  rw [probed]
  have ending (duration : Nat) :
      probeReport subject session.probe (Replay.run (.require subject :: assertions) runtime)
        (Replay.run (.require subject :: assertions) runtime).verdict duration =
          replayReport subject runtime assertions duration := by
    unfold probeReport
    rw [verdict, exitCode]
    rfl
  have closing : (do
      let now ← Attempt.clock
      return probeReport subject session.probe
        (Replay.run (.require subject :: assertions) runtime)
        (Replay.run (.require subject :: assertions) runtime).verdict (now - start) :
          Attempt Report).run.Yields Exchange.IsGranted post := by
    refine Attempt.yields_bind.mpr (Attempt.yields_always.mpr ?_)
    intro now _
    show post (.ok _)
    rw [ending]
    exact reported _
  dsimp only
  split
  · exact Attempt.yields_bind.mpr (always_yields _ closing)
  · refine Attempt.yields_bind.mpr (always_yields _ ?_)
    exact Attempt.yields_bind.mpr (always_yields _ closing)

/-- A session with a known runtime ends in the report on it. -/
theorem run_yields
    (subject : String)
    (runtime : Runtime)
    (assertions : List Assertion)
    (unbroken : ∀ assertion ∈ Assertion.require subject :: assertions,
      ∀ text ∈ assertion.texts, Unbroken text) :
    ((withRuntime subject runtime).extended assertions).run.run.Yields Exchange.IsGranted
      fun result => ∃ duration,
        result = .ok (replayReport subject runtime assertions duration) := by
  have inside (directory : Path) (start : Nat) := runProbe_yields
    (fun result => ∃ duration, result = .ok (replayReport subject runtime assertions duration))
    subject runtime assertions unbroken directory start fun duration => ⟨duration, rfl⟩
  have logs (event : Log.Event) (answer : Unit) : Exchange.IsGranted ⟨.log event, answer⟩ :=
    trivial
  refine Action.Yields.within logs ?_ _
  unfold attempt
  refine Attempt.yields_bind.mpr (Attempt.yields_always.mpr ?_)
  intro start _
  refine Attempt.yields_bind.mpr (makeDirectory_yields subject fun directory => ?_)
  refine Attempt.yields_thenAlways.mpr ?_
  refine Action.Yields.mono (inside directory start) fun result reported => ?_
  exact Action.yields_of_forall _ fun _ => reported

/-- The report of a session with a known runtime: whatever has been recorded in
it, and on any host that grants a directory and a script, its first run reports
exactly what there is to be found, in order. -/
theorem report_of_recordings
    {σ : Type}
    (subject : String)
    (runtime : Runtime)
    (recordings : List Recording)
    (host : Host σ)
    (state : σ)
    (subjectUnbroken : Unbroken subject)
    (unbroken : ∀ recording ∈ recordings, ∀ text ∈ recording.assertion.texts, Unbroken text)
    (granted : ∀ exchange ∈
      ((withRuntime subject runtime).recordAll recordings).run.run.exchanges host state,
        exchange.IsGranted) :
    let assertions := recordings.map Recording.assertion
    let found := findings (subject :: requires assertions) (checks assertions) runtime
    ∃ report : Report,
      (((withRuntime subject runtime).recordAll recordings).run.run.runOn host state).1 =
        .ok report ∧
      report.diagnostics = found ∧
      report.passed = found.isEmpty ∧
      report.exitCode = some (if found.isEmpty then 0 else 1) ∧
      report.environmentReady = true ∧
      report.subject = subject ∧
      report.probeDigest =
        some (Probe.mk (.require subject :: recordings.map Recording.assertion)).digest := by
  intro assertions found
  have allUnbroken : ∀ assertion ∈ Assertion.require subject :: assertions,
      ∀ text ∈ assertion.texts, Unbroken text := by
    intro assertion member text isText
    rcases List.mem_cons.mp member with rfl | member
    · have isSubject : text = subject := List.mem_singleton.mp isText
      rw [isSubject]
      exact subjectUnbroken
    · obtain ⟨recording, isMember, rfl⟩ := List.mem_map.mp member
      exact unbroken recording isMember text isText
  rw [recordAll_eq] at granted ⊢
  have yields := run_yields subject runtime assertions allUnbroken
  obtain ⟨duration, ended⟩ := yields.runOn host state granted
  exact ⟨_, ended, rfl, rfl, rfl, rfl, rfl, rfl⟩

/-- A unit that does not load hides a constant that does not resolve, although
the constant was recorded first. -/
theorem report_of_early_constant :
    let runtime : Runtime := {
      loads := fun name => name != "late  "
      resolvesConstant := fun _ => false
      resolvesMethod := fun _ _ _ => false
      delegates := fun _ => .ok false }
    let recordings : List Recording := [.constant "Early" "early.rbi:1", .require "late  "]
    ∃ report : Report,
      (((withRuntime "core" runtime).recordAll recordings).run.run.runOn .obliging ()).1 =
        .ok report ∧
      report.diagnostics = [.error "Can't require late"] ∧ report.passed = false := by
  intro runtime recordings
  obtain ⟨report, ended, diagnostics, passed, _⟩ := report_of_recordings "core" runtime recordings
    .obliging () (by decide) (by decide) (Host.obliging_grants _ _)
  refine ⟨report, ended, diagnostics.trans ?_, passed.trans ?_⟩
  · decide
  · decide

end Session

end InterfaceAudit
