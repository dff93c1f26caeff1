import InterfaceAudit.Proofs.Diagnostic.Seam
import InterfaceAudit.Proofs.Diagnostic.Severity
import InterfaceAudit.Proofs.Session.Errands

/-!
Contract: installations and probes side by side, by how their children ended.

Owns:
- the one child of an errand, and its program;
- hosts on which every command comes to the same end;
- what a child that failed makes of either errand, by its two outputs;
- what a child that did not exit makes of either errand, and where the two part.

Does not own: sessions, which run the one errand before the other.
-/

namespace InterfaceAudit

/-! ## How children end -/

/-- A child that ended by itself, with an exit code. -/
def ChildEnd.IsExit : ChildEnd → Prop
  | .ended (.finished (.exited _) _) => True
  | _ => False

/-- A child that a signal ended. -/
def ChildEnd.IsKilled : ChildEnd → Prop
  | .ended (.finished (.signalled _) _) => True
  | _ => False

theorem ChildEnd.IsKilled.exists_signal {ending : ChildEnd} (isKilled : ending.IsKilled) :
    ∃ signal captured, ending = .ended (.finished (.signalled signal) captured) := by
  cases ending with
  | unstarted fault => cases isKilled
  | overran => cases isKilled
  | ended waited =>
      cases waited with
      | unread fault => cases isKilled
      | finished status captured =>
          cases status with
          | exited code => cases isKilled
          | signalled signal => exact ⟨signal, captured, rfl⟩

/-- A child that neither exited nor was killed has no result, whoever it was run
for. -/
theorem ChildEnd.exists_result_eq_error
    (ending : ChildEnd)
    (notExited : ¬ending.IsExit)
    (notKilled : ¬ending.IsKilled)
    (program : String)
    (limit : UInt64) :
    ∃ failure, ending.result program limit = .error failure := by
  cases ending with
  | unstarted fault => exact ⟨_, rfl⟩
  | overran => exact ⟨_, rfl⟩
  | ended waited =>
      cases waited with
      | unread fault => exact ⟨_, rfl⟩
      | finished status captured =>
          cases status with
          | exited code => exact absurd trivial notExited
          | signalled signal => exact absurd trivial notKilled

/-- A host that grants whatever it is asked for, and on which every command comes to
the same end. -/
def Host.bringing (ending : Except IoFault CommandEnd) : Host Unit where
  answer request state :=
    match request with
    | .run _ => (ending, state)
    | .runWithin _ _ => (ending.map some, state)
    | request => Host.obliging.answer request state

namespace Errand

variable {α : Type} {errand : Errand α}

/-- An errand with a command tries it, once, where its file can be written. -/
theorem Course.exists_child
    {exchanges : List Exchange}
    {result : Except Failure α}
    (course : errand.Course exchanges result)
    (isErrand : errand.command? ≠ none)
    (granted : ∀ exchange ∈ exchanges, exchange.IsGranted) :
    ∃ child, children exchanges = [child] := by
  cases course with
  | idle isIdle => exact absurd isIdle isErrand
  | unwritten isCommand fault =>
      have refused : (.error fault : Except IoFault Unit) = .ok () :=
        granted _ (List.mem_singleton_self _)
      cases refused
  | ran isCommand isBefore isAfter isChild limited =>
      exact ⟨_, children_ran isBefore isAfter isChild⟩

/-- A child without a result makes its errand fail with it. -/
theorem Upshot.answer_of_error
    {children : List Child}
    {answer : Except Failure α}
    (upshot : errand.Upshot children answer)
    {child : Child}
    (member : child ∈ children)
    {failure : Failure}
    (isFailure : child.ending.result child.command.program errand.limit = .error failure) :
    answer = .error failure := by
  cases upshot with
  | kept _ _ => cases member
  | tried isCommand ending limited =>
      rename_i command
      cases List.mem_singleton.mp member
      change ending.result command.program errand.limit = .error failure at isFailure
      rw [Errand.answer, isFailure]

/-- The children of an errand are those of its command. -/
theorem Upshot.command?_eq
    {children : List Child}
    {answer : Except Failure α}
    (upshot : errand.Upshot children answer)
    {child : Child}
    (member : child ∈ children) :
    errand.command? = some child.command := by
  cases upshot with
  | kept _ _ => cases member
  | tried isCommand ending limited =>
      cases List.mem_singleton.mp member
      exact isCommand

end Errand

/-- An installation runs the program of its command line. -/
theorem Bundle.head?_of_errand
    {bundle : Bundle}
    {subject : String}
    {directory : Path}
    {command : Command}
    (isCommand : (bundle.errand subject directory).command? = some command) :
    bundle.installCommand.head? = some command.program := by
  unfold errand at isCommand
  dsimp only at isCommand
  split at isCommand
  next => cases isCommand
  next program arguments isLine =>
    cases isCommand
    rw [isLine, List.head?_cons]

/-- An installation has a command if it has a command line. -/
theorem Bundle.command?_errand_ne_none
    {bundle : Bundle}
    (isLine : bundle.installCommand ≠ [])
    (subject : String)
    (directory : Path) :
    (bundle.errand subject directory).command? ≠ none := by
  unfold errand
  dsimp only
  split
  next isEmpty => exact absurd isEmpty isLine
  next => exact nofun

/-- A probe runs the program of its command line. -/
theorem Executor.head?_of_errand
    {line : List String}
    {limit : UInt64}
    {probe : Probe}
    {directory : Path}
    {command : Command}
    (isCommand : (errand line limit probe directory).command? = some command) :
    line.head? = some command.program := by
  cases line with
  | nil => cases isCommand
  | cons program arguments =>
      cases isCommand
      rfl

/-- A probe has a command if it has a command line. -/
theorem Executor.command?_errand_ne_none
    {line : List String}
    (isLine : line ≠ [])
    (limit : UInt64)
    (probe : Probe)
    (directory : Path) :
    (errand line limit probe directory).command? ≠ none := by
  cases line with
  | nil => exact absurd rfl isLine
  | cons program arguments => exact nofun

/-! ## The two errands on a host -/

section Hosts

variable {σ : Type} (host : Host σ) (state : σ)

theorem Bundle.course_prepare (bundle : Bundle) (subject : String) (directory : Path) :
    let preparation := (bundle.prepare subject directory).run
    (bundle.errand subject directory).Course (preparation.exchanges host state)
      (preparation.runOn host state).1 :=
  (bundle.leads_prepare subject directory).runOn host state

theorem Executor.course_command
    (line : List String)
    (limit : UInt64)
    (probe : Probe)
    (directory : Path) :
    let execution := (Executor.command line limit probe directory).run
    (errand line limit probe directory).Course (execution.exchanges host state)
      (execution.runOn host state).1 :=
  (leads_command line limit probe directory).runOn host state

end Hosts

/-! ## Children that exit with a failure -/

/-- An installation that printed something visible is explained by what it printed. -/
theorem Bundle.diagnose_of_visible
    {captured : Captured}
    (visible : ∃ c ∈ captured.text.toList, Text.isBlank c = false)
    {line : List String}
    {status : ExitStatus} :
    diagnose line status captured = Diagnostic.classify captured.text := by
  unfold diagnose
  split
  next nothing => exact absurd nothing (Diagnostic.classify_ne_nil_of_visible visible)
  next => rfl

/-- The two outputs of a child that failed are kept apart unless they fuse. Where a
child exits with another code than zero and prints something visible, an
installation is found not ready and a probe has not passed, both with the
diagnostics of the two outputs in sequence, each decoded on its own. These are the
diagnostics of the standard output and then those of the error output exactly if
the standard output does not leave a line open that the error output goes on with. -/
theorem streams_of_failed_child
    {σ : Type}
    (captured : Captured)
    (code : Int)
    (failed : code ≠ 0)
    (visible : ∃ c ∈ captured.text.toList, Text.isBlank c = false)
    (bundle : Bundle)
    (subject : String)
    (line : List String)
    (limit : UInt64)
    (probe : Probe)
    (directory : Path)
    (host : Host σ)
    (state : σ) :
    let stdout := Utf8.toStringLossy captured.stdout
    let stderr := Utf8.toStringLossy captured.stderr
    let ending : ChildEnd := .ended (.finished (.exited code) captured)
    let preparation := (bundle.prepare subject directory).run
    let execution := (Executor.command line limit probe directory).run
    (∀ child ∈ children (preparation.exchanges host state), child.ending = ending →
      (preparation.runOn host state).1 =
        .ok (.failed (Diagnostic.classify (stdout ++ stderr)))) ∧
    (∀ child ∈ children (execution.exchanges host state), child.ending = ending →
      ∃ outcome,
        (execution.runOn host state).1 = .ok outcome ∧
        outcome.verdict = ⟨false, Diagnostic.classify (stdout ++ stderr)⟩) ∧
    (Diagnostic.classify (stdout ++ stderr) =
        Diagnostic.classify stdout ++ Diagnostic.classify stderr ↔
      ¬Diagnostic.Fuse stdout stderr) := by
  intro stdout stderr ending preparation execution
  have notSuccess : ExitStatus.isSuccess (.exited code) = false := by
    rw [Bool.eq_false_iff, Ne, ExitStatus.isSuccess_iff, ExitStatus.exited.injEq]
    exact failed
  refine ⟨?_, ?_, Diagnostic.classify_append_eq_iff stdout stderr⟩
  · intro child member isEnding
    have upshot := (bundle.course_prepare host state subject directory).upshot
    have isMeaning := upshot.answer_of_finished member isEnding
    change _ = if ExitStatus.isSuccess (.exited code) then _ else _ at isMeaning
    rw [notSuccess, Bundle.diagnose_of_visible visible] at isMeaning
    exact isMeaning
  · intro child member isEnding
    have upshot := (Executor.course_command host state line limit probe directory).upshot
    refine ⟨_, upshot.answer_of_finished member isEnding, ?_⟩
    show (if ExitStatus.isSuccess (.exited code) then _ else _) = _
    rw [notSuccess]
    rfl

/-- Outputs that are cut between the two characters of a line break, and whose second
ends in half a character, are kept apart. -/
theorem streams_of_failed_child_within_line_break :
    let captured : Captured :=
      ⟨Utf8.ofString "Note: seek\r", Utf8.ofString "\nNo gem rake" ++ [0xC3]⟩
    let host := Host.bringing (.ok (.finished (.exited 7) captured))
    let diagnostics : List Diagnostic := [.note "Note: seek", .error "No gem rake\ufffd"]
    ((Bundle.prepare {} "core" (.ofString "work")).run.runOn host ()).1 =
      .ok (.failed diagnostics) ∧
    ∃ outcome,
      ((Executor.command ["ruby"] 30 ⟨[]⟩ (.ofString "work")).run.runOn host ()).1 = .ok outcome ∧
      outcome.verdict = ⟨false, diagnostics⟩ := by
  intro captured host diagnostics
  have visible : ∃ c ∈ captured.text.toList, Text.isBlank c = false :=
    ⟨'N', by decide, by decide⟩
  obtain ⟨prepared, executed, keptApart⟩ := streams_of_failed_child captured 7 (by decide) visible
    {} "core" ["ruby"] 30 ⟨[]⟩ (.ofString "work") host ()
  have whole := keptApart.mpr (by decide)
  have isWhole : Diagnostic.classify (Utf8.toStringLossy captured.stdout) ++
      Diagnostic.classify (Utf8.toStringLossy captured.stderr) = diagnostics := by decide
  rw [whole, isWhole] at prepared executed
  exact ⟨prepared _ (List.mem_singleton_self _) rfl, executed _ (List.mem_singleton_self _) rfl⟩

/-- A note whose line is left open takes in the first line of the error output: the
error is no diagnostic of its own, neither of an installation nor of a probe. -/
theorem streams_of_open_note :
    let captured : Captured :=
      ⟨Utf8.ofString "Note: checking", Utf8.ofString "Could not find gem rake\n"⟩
    let host := Host.bringing (.ok (.finished (.exited 7) captured))
    let fused : List Diagnostic := [.note "Note: checkingCould not find gem rake"]
    Diagnostic.classify (Utf8.toStringLossy captured.stdout) ++
        Diagnostic.classify (Utf8.toStringLossy captured.stderr) =
      [.note "Note: checking", .error "Could not find gem rake"] ∧
    ((Bundle.prepare {} "core" (.ofString "work")).run.runOn host ()).1 = .ok (.failed fused) ∧
    ∃ outcome,
      ((Executor.command ["ruby"] 30 ⟨[]⟩ (.ofString "work")).run.runOn host ()).1 = .ok outcome ∧
      outcome.verdict = ⟨false, fused⟩ := by
  intro captured host fused
  have isFused : Diagnostic.classify captured.text = fused := by decide
  have isPrepared : ((Bundle.prepare {} "core" (.ofString "work")).run.runOn host ()).1 =
      .ok (.failed (Bundle.diagnose ["bundle", "install"] (.exited 7) captured)) := rfl
  refine ⟨by decide, ?_, ⟨false, some 7, captured.text⟩, rfl, ?_⟩
  · rw [isPrepared, Bundle.diagnose, isFused]
  · show Verdict.mk false (Diagnostic.classify captured.text) = ⟨false, fused⟩
    rw [isFused]

/-! ## Children that do not exit -/

/-- An installation and a probe of the same command line and the same limit treat a
child that does not exit alike, except one that is killed. Where its file can be
written, either of them tries its command once. If both children end in the same
way, and it is not an exit, then both fail, and for the same reason, exactly if the
end is not a signal: a command that cannot be started is not found or not to be
spawned, one that ran too long has timed out, and one whose outputs cannot be read
is a fault of input. A signal makes a probe fail as terminated, but an installation
is only found not ready. -/
theorem failure_of_unexited_child
    {σ τ : Type}
    (bundle : Bundle)
    (subject : String)
    (directory : Path)
    (host : Host σ)
    (state : σ)
    (probe : Probe)
    (place : Path)
    (another : Host τ)
    (start : τ) :
    let line := bundle.installCommand
    let limit := bundle.timeoutSecs
    let preparation := (bundle.prepare subject directory).run
    let execution := (Executor.command line limit probe place).run
    let installs := children (preparation.exchanges host state)
    let probes := children (execution.exchanges another start)
    let prepared := (preparation.runOn host state).1
    let executed := (execution.runOn another start).1
    -- Either command is tried.
    (line ≠ [] → (∀ exchange ∈ preparation.exchanges host state, exchange.IsGranted) →
      ∃ install, installs = [install]) ∧
    (line ≠ [] → (∀ exchange ∈ execution.exchanges another start, exchange.IsGranted) →
      ∃ trial, probes = [trial]) ∧
    -- What becomes of the errands by the end that their children share.
    ∀ install ∈ installs, ∀ trial ∈ probes, trial.ending = install.ending →
      ¬install.ending.IsExit →
      ((∃ failure, prepared = .error failure ∧ executed = .error failure) ↔
        ¬install.ending.IsKilled) ∧
      install.Fails limit prepared ∧
      trial.Fails limit executed ∧
      ∀ signal captured, install.ending = .ended (.finished (.signalled signal) captured) →
        executed = .error (.terminated (some signal)) ∧
        prepared = .ok (.failed (Bundle.diagnose line (.signalled signal) captured)) := by
  intro line limit preparation execution installs probes prepared executed
  have installCourse := bundle.course_prepare host state subject directory
  have probeCourse := Executor.course_command another start line limit probe place
  refine ⟨
    fun isLine => installCourse.exists_child (Bundle.command?_errand_ne_none isLine _ _),
    fun isLine => probeCourse.exists_child (Executor.command?_errand_ne_none isLine _ _ _), ?_⟩
  intro install isInstall trial isTrial sameEnding notExited
  have installUpshot := installCourse.upshot
  have probeUpshot := probeCourse.upshot
  have sameProgram : trial.command.program = install.command.program := by
    have isProgram := Bundle.head?_of_errand (installUpshot.command?_eq isInstall)
    have isProgramToo := Executor.head?_of_errand (probeUpshot.command?_eq isTrial)
    exact Option.some.inj (isProgramToo.symm.trans isProgram)
  have killed : ∀ signal captured,
      install.ending = .ended (.finished (.signalled signal) captured) →
      executed = .error (.terminated (some signal)) ∧
      prepared = .ok (.failed (Bundle.diagnose line (.signalled signal) captured)) := by
    intro signal captured isEnding
    exact ⟨probeUpshot.answer_of_finished isTrial (sameEnding.trans isEnding),
      installUpshot.answer_of_finished isInstall isEnding⟩
  refine ⟨⟨?_, ?_⟩, installUpshot.fails install isInstall, probeUpshot.fails trial isTrial, killed⟩
  · rintro ⟨failure, isFailure, _⟩ isKilled
    obtain ⟨signal, captured, isEnding⟩ := isKilled.exists_signal
    rw [(killed signal captured isEnding).2] at isFailure
    cases isFailure
  · intro notKilled
    obtain ⟨failure, isFailure⟩ :=
      install.ending.exists_result_eq_error notExited notKilled install.command.program limit
    refine ⟨failure, installUpshot.answer_of_error isInstall isFailure,
      probeUpshot.answer_of_error isTrial ?_⟩
    rw [sameEnding, sameProgram]
    exact isFailure

/-- A command that may not be started is the same failure for either of them. -/
theorem failure_of_unstarted_child :
    let host := Host.bringing (.error (.system .accessDenied))
    ((Bundle.prepare {} "core" (.ofString "work")).run.runOn host ()).1 =
      .error (.spawn "bundle" (.system .accessDenied)) ∧
    ((Executor.command ["bundle", "install"] 600 ⟨[]⟩ (.ofString "work")).run.runOn host ()).1 =
      .error (.spawn "bundle" (.system .accessDenied)) := by
  intro host
  obtain ⟨_, _, fate⟩ := failure_of_unexited_child {} "core" (.ofString "work") host () ⟨[]⟩
    (.ofString "work") host ()
  obtain ⟨_, preparedFails, executedFails, _⟩ :=
    fate _ (List.mem_singleton_self _) _ (List.mem_singleton_self _) rfl id
  exact ⟨preparedFails.unstarted _ rfl, executedFails.unstarted _ rfl⟩

/-- An installation that is killed is only found not ready, where a probe of the same
command line fails as terminated. -/
theorem readiness_of_killed_child :
    let host := Host.bringing (.ok (.finished (.signalled 9) ⟨[], []⟩))
    ((Bundle.prepare {} "core" (.ofString "work")).run.runOn host ()).1 =
      .ok (.failed [.error "`bundle install` exited with signal: 9 (SIGKILL)"]) ∧
    ((Executor.command ["bundle", "install"] 600 ⟨[]⟩ (.ofString "work")).run.runOn host ()).1 =
      .error (.terminated (some 9)) :=
  ⟨by decide, rfl⟩

end InterfaceAudit
