import InterfaceAudit.Proofs.Script.Calls

/-!
Contract: a replay does what the script does inside a live runtime.

Owns:
- what it means that a live runtime answers like a known one, and a live
  runtime that does so for any known one;
- the relation between the progress of a script and the tally of a replay;
- the law that both end alike, on every list of assertions.

Does not own: the laws of the single routines.
-/

namespace InterfaceAudit.Script

/-! ## Runtimes that answer alike -/

structure LiveRuntime.Answers {Object : Type} (live : LiveRuntime Object) (runtime : Runtime) :
    Prop where
  loaded : ∀ name, runtime.loads name = true → live.require name = .ok ()
  unloaded : ∀ name, runtime.loads name = false → ∃ thrown, live.require name = .error thrown ∧
    [.scriptError, .standardError].any thrown.isCaughtBy = true
  resolved : ∀ name, runtime.resolvesConstant name = true → ∃ value,
    live.constGet name = .ok value ∧ value.isTruthy = true
  unresolved : ∀ name, runtime.resolvesConstant name = false → ∃ thrown,
    live.constGet name = .error thrown ∧ [.nameError, .loadError].any thrown.isCaughtBy = true
  present : ∀ receiver value method singleton, live.constGet receiver = .ok value →
    runtime.resolvesMethod receiver method singleton = true →
      ∃ found, lookup live singleton value method = .ok found
  absent : ∀ receiver value method singleton, live.constGet receiver = .ok value →
    runtime.resolvesMethod receiver method singleton = false → ∃ thrown,
      lookup live singleton value method = .error thrown ∧ thrown.isCaughtBy .nameError = true
  /-- The fallback test holds exactly if introspection confirms the fallback. -/
  fallback : ∀ receiver value, live.constGet receiver = .ok value →
    (live.overridesMissing value = .ok true ↔ runtime.delegates receiver = .ok true)
  /-- Whatever the fallback test raises is rescued. -/
  faulty : ∀ receiver value thrown, live.constGet receiver = .ok value →
    live.overridesMissing value = .error thrown → thrown.isCaughtBy .standardError = true

/-- The outcome of an operation that either succeeds or raises. -/
def granted {α : Type} (answer : Bool) (value : α) (thrown : ExceptionClass) :
    Except ExceptionClass α :=
  if answer then .ok value else .error thrown

/-- The name that a value of the runtime below goes by. -/
def nameBehind : Value String → String
  | .object name => name
  | _ => ""

/-- A live runtime that answers like a known one. Its objects are names. -/
def LiveRuntime.ofRuntime (runtime : Runtime) : LiveRuntime String where
  shown := id
  require name := granted (runtime.loads name) () .loadError
  constGet name := granted (runtime.resolvesConstant name) (.object name) .nameError
  method receiver name :=
    granted (runtime.resolvesMethod (nameBehind receiver) name true) name .nameError
  instanceMethod receiver name :=
    granted (runtime.resolvesMethod (nameBehind receiver) name false) name .nameError
  overridesMissing receiver :=
    match runtime.delegates (nameBehind receiver) with
    | .ok answer => .ok answer
    | .error _ => .error .standardError

theorem granted_eq_ok_iff
    {α : Type}
    {answer : Bool}
    {value found : α}
    {thrown : ExceptionClass} :
    granted answer value thrown = .ok found ↔ answer = true ∧ value = found := by
  cases answer <;> simp [granted]

theorem lookup_ofRuntime (runtime : Runtime) (singleton : Bool) (receiver name : String) :
    lookup (.ofRuntime runtime) singleton (.object receiver) name =
      granted (runtime.resolvesMethod receiver name singleton) name .nameError := by
  cases singleton <;> rfl

/-- Every known runtime is borne out by a live one. -/
theorem LiveRuntime.ofRuntime_answers (runtime : Runtime) :
    (LiveRuntime.ofRuntime runtime).Answers runtime where
  loaded := by
    intro name loads
    show granted (runtime.loads name) () .loadError = _
    rw [loads]
    rfl
  unloaded := by
    intro name fails
    refine ⟨.loadError, ?_, by decide⟩
    show granted (runtime.loads name) () .loadError = _
    rw [fails]
    rfl
  resolved := by
    intro name resolves
    refine ⟨.object name, ?_, rfl⟩
    exact granted_eq_ok_iff.mpr ⟨resolves, rfl⟩
  unresolved := by
    intro name fails
    refine ⟨.nameError, ?_, by decide⟩
    show granted (runtime.resolvesConstant name) (Value.object name) .nameError = _
    rw [fails]
    rfl
  present := by
    intro receiver value method singleton found resolves
    obtain ⟨_, rfl⟩ := granted_eq_ok_iff.mp found
    refine ⟨method, ?_⟩
    rw [lookup_ofRuntime, resolves]
    rfl
  absent := by
    intro receiver value method singleton found fails
    obtain ⟨_, rfl⟩ := granted_eq_ok_iff.mp found
    refine ⟨.nameError, ?_, by decide⟩
    rw [lookup_ofRuntime, fails]
    rfl
  fallback := by
    intro receiver value found
    obtain ⟨_, rfl⟩ := granted_eq_ok_iff.mp found
    show (match runtime.delegates receiver with
      | .ok answer => Except.ok answer
      | .error _ => .error ExceptionClass.standardError) = .ok true ↔ _
    cases runtime.delegates receiver <;> simp
  faulty := by
    intro receiver value thrown found raises
    obtain ⟨_, rfl⟩ := granted_eq_ok_iff.mp found
    change (match runtime.delegates receiver with
      | .ok answer => Except.ok answer
      | .error _ => .error ExceptionClass.standardError) = .error thrown at raises
    split at raises
    next => cases raises
    next =>
      cases raises
      decide

/-! ## Progress and tally -/

/-- The progress of a script that has printed the lines of a tally. -/
structure Mirrors (progress : Progress) (tally : Tally) : Prop where
  verdict : progress.success = tally.succeeding
  output : progress.output = tally.lines.flatMap printed

/-- A script and a replay start alike. -/
theorem Mirrors.start : Mirrors {} {} :=
  ⟨rfl, rfl⟩

variable {progress : Progress} {tally : Tally}

theorem Mirrors.fail (mirrors : Mirrors progress tally) (line : String) :
    Mirrors (progress.puts line).fail (tally.fail line) := by
  refine ⟨rfl, ?_⟩
  show progress.output ++ printed line = _
  rw [mirrors.output, Tally.lines_fail, List.flatMap_append, List.flatMap_singleton]

theorem Mirrors.failWithNote (mirrors : Mirrors progress tally) (line note : String) :
    Mirrors ((progress.puts line).puts note).fail ((tally.fail line).note note) := by
  have failed := mirrors.fail line
  refine ⟨rfl, ?_⟩
  show (progress.puts line).fail.output ++ printed note = _
  rw [failed.output, Tally.lines_note, List.flatMap_append, List.flatMap_singleton]

/-- The outputs are classified alike where a script and a replay stand alike. -/
theorem Mirrors.classify_output (mirrors : Mirrors progress tally) :
    Diagnostic.classify (String.ofList progress.output) = Diagnostic.classify tally.output := by
  rw [Diagnostic.classify, String.toList_ofList, mirrors.output,
    Diagnostic.classifyChars_flatMap_printed, Tally.classify_output]

def Progress.outcome (progress : Progress) : Outcome where
  succeeded := progress.success
  exitCode := some (if progress.success then 0 else 1)
  output := String.ofList progress.output

theorem Mirrors.exitCode_eq (mirrors : Mirrors progress tally) :
    progress.outcome.exitCode = tally.outcome.exitCode := by
  rw [Progress.outcome, mirrors.verdict, Tally.outcome]

theorem Mirrors.verdict_eq (mirrors : Mirrors progress tally) :
    progress.outcome.verdict = tally.outcome.verdict := by
  simp only [Outcome.verdict, Progress.outcome, Tally.outcome, mirrors.verdict,
    mirrors.classify_output]
  rfl

/-! ## Steps -/

section Steps

variable {Object : Type} {live : LiveRuntime Object} {runtime : Runtime}

/-- The routines of the preamble, as they are called by the statements. -/
def defined (live : LiveRuntime Object) : Invocation Object :=
  definitions live routines

/-- A unit is loaded alike. -/
theorem loadStatement_mirrors
    (answers : live.Answers runtime)
    (mirrors : Mirrors progress tally)
    (name : String) :
    ∃ after, (loadStatement name).run live (defined live) progress = .running after ∧
      Mirrors after (Replay.load runtime tally name) := by
  unfold Replay.load
  split
  next loads =>
    refine ⟨progress, ?_, mirrors⟩
    rw [loadStatement, Statement.run, answers.loaded name loads]
  next fails =>
    obtain ⟨thrown, raises, caught⟩ := answers.unloaded name (Bool.not_eq_true _ ▸ fails)
    refine ⟨(progress.puts (loadFailure name)).fail, ?_, mirrors.fail _⟩
    rw [loadStatement, Statement.run, raises]
    exact if_pos caught

/-- A constant is looked up alike. -/
theorem getConst_mirrors
    (answers : live.Answers runtime)
    (mirrors : Mirrors progress tally)
    (name location : String) :
    ∃ value after,
      called live .getConst [.state, .text name, .text location] progress = (.ok value, after) ∧
      Mirrors after (Replay.checkConstant runtime name location tally).2 ∧
      value.isTruthy = (Replay.checkConstant runtime name location tally).1 ∧
      (value.isTruthy = true → live.constGet name = .ok value) := by
  unfold Replay.checkConstant
  split
  next resolves =>
    obtain ⟨value, found, truthy⟩ := answers.resolved name resolves
    exact ⟨value, progress, getConst_of_found live found location progress, mirrors, truthy,
      fun _ => found⟩
  next fails =>
    obtain ⟨thrown, raises, caught⟩ := answers.unresolved name (Bool.not_eq_true _ ▸ fails)
    refine ⟨.nil, (progress.puts (Replay.missingConstant name location)).fail,
      getConst_of_missed live raises caught location progress, mirrors.fail _, rfl, ?_⟩
    intro truthy
    cases truthy

theorem couldStandIn_eq
    (answers : live.Answers runtime)
    {check : MethodCheck}
    {value : Value Object}
    (found : live.constGet check.receiver = .ok value) :
    couldStandIn live check value = Replay.hasFallback runtime check := by
  have confirmed : standsIn live value = runtime.confirmsDelegation check.receiver := by
    have alike := answers.fallback check.receiver value found
    unfold standsIn Runtime.confirmsDelegation
    cases overrides : live.overridesMissing value with
    | ok answer =>
        cases delegates : runtime.delegates check.receiver with
        | ok other =>
            cases answer <;> cases other <;> simp [overrides, delegates] at alike ⊢
        | error fault =>
            cases answer <;> simp [overrides, delegates] at alike ⊢
    | error thrown =>
        cases delegates : runtime.delegates check.receiver with
        | ok other =>
            cases other <;> simp [overrides, delegates] at alike ⊢
        | error fault => rfl
  rw [couldStandIn, Replay.hasFallback, confirmed]

theorem reportMissing_mirrors
    (mirrors : Mirrors progress tally)
    (check : MethodCheck)
    (fallback : Bool) :
    Mirrors
      (if fallback && check.allowMissing then progress
        else progress.reportMissing check fallback)
      (if fallback then
        if check.allowMissing then tally
        else (tally.fail (Replay.missingMethod check)).note (Replay.delegationNote check.method)
      else tally.fail (Replay.missingMethod check)) := by
  cases fallback with
  | false => exact mirrors.fail _
  | true =>
      cases allowed : check.allowMissing with
      | false => exact mirrors.failWithNote _ _
      | true => exact mirrors

/-- A method is looked up alike. -/
theorem getMethod_mirrors
    (answers : live.Answers runtime)
    (mirrors : Mirrors progress tally)
    (check : MethodCheck) :
    ∃ value after,
      called live .getMethod (methodArguments check) progress = (.ok value, after) ∧
      Mirrors after (Replay.checkMethod runtime check tally) := by
  obtain ⟨value, received, called, mirrored, verdict, found⟩ :=
    getConst_mirrors answers mirrors check.receiver check.location
  unfold Replay.checkMethod
  split
  next missed =>
    rw [missed] at mirrored verdict
    exact ⟨.nil, received, getMethod_of_falsy_receiver live called verdict, mirrored⟩
  next resolved =>
    rw [resolved] at mirrored verdict
    have there := found verdict
    unfold Replay.checkPresence
    split
    next resolves =>
      obtain ⟨object, present⟩ := answers.present _ _ _ _ there resolves
      exact ⟨.object object, received, getMethod_of_found live called verdict present, mirrored⟩
    next fails =>
      obtain ⟨thrown, missed, caught⟩ :=
        answers.absent _ _ _ _ there (Bool.not_eq_true _ ▸ fails)
      refine ⟨.nil, _, getMethod_of_missed live called verdict missed caught
        (fun _ thrown => answers.faulty _ _ thrown there), ?_⟩
      rw [couldStandIn_eq answers there]
      exact reportMissing_mirrors mirrored check _

/-- A check is run alike. -/
theorem checkStatement_mirrors
    (answers : live.Answers runtime)
    (mirrors : Mirrors progress tally)
    (check : Check) :
    ∃ after, (checkStatement check).run live (defined live) progress = .running after ∧
      Mirrors after (Replay.runCheck runtime tally check) := by
  cases check with
  | constant check =>
      obtain ⟨value, after, called, mirrored, _⟩ :=
        getConst_mirrors answers mirrors check.name check.location
      exact ⟨after, congrArg Standing.behind called, mirrored⟩
  | method check =>
      obtain ⟨value, after, called, mirrored⟩ := getMethod_mirrors answers mirrors check
      exact ⟨after, congrArg Standing.behind called, mirrored⟩

/-! ## Runs -/

/-- A run of statements of one kind ends alike, from where it starts alike. -/
theorem runStatements_mirrors
    {α : Type}
    {statement : α → Statement}
    {replay : Tally → α → Tally}
    (step : ∀ {progress tally}, Mirrors progress tally → ∀ item, ∃ after,
      (statement item).run live (defined live) progress = .running after ∧
        Mirrors after (replay tally item))
    (items : List α)
    (rest : List Statement)
    (mirrors : Mirrors progress tally) :
    ∃ after,
      runStatements live (defined live) (items.map statement ++ rest) progress =
        runStatements live (defined live) rest after ∧
      Mirrors after (items.foldl replay tally) := by
  induction items generalizing progress tally with
  | nil => exact ⟨progress, rfl, mirrors⟩
  | cons item items inductionHypothesis =>
      obtain ⟨next, ran, nextMirrors⟩ := step mirrors item
      obtain ⟨after, others, afterMirrors⟩ := inductionHypothesis nextMirrors
      refine ⟨after, ?_, afterMirrors⟩
      rw [List.map_cons, List.cons_append, runStatements, ran]
      exact others

theorem runStatements_checkpoint (statements : List Statement) (progress : Progress) :
    runStatements live (defined live) (.checkpoint :: statements) progress =
      if progress.success then runStatements live (defined live) statements progress
      else .exited 1 progress := by
  rw [runStatements, Statement.run]
  cases progress.success <;> rfl

/-- The statements end where the replay ends. -/
theorem runStatements_statements
    (answers : live.Answers runtime)
    (assertions : List Assertion) :
    ∃ final : Progress,
      (runStatements live (defined live) (statements assertions) {}).outcome? =
        some final.outcome ∧
      Mirrors final (Replay.tally assertions runtime) := by
  obtain ⟨loaded, loadRun, loadMirrors⟩ := runStatements_mirrors
    (loadStatement_mirrors answers) (requires assertions)
    (.checkpoint :: ((checks assertions).map checkStatement ++ [.checkpoint])) Mirrors.start
  rw [statements, loadRun, runStatements_checkpoint]
  unfold Replay.tally
  cases success : loaded.success with
  | false =>
      have failed : ((requires assertions).foldl (Replay.load runtime) {}).succeeding = false :=
        loadMirrors.verdict ▸ success
      refine ⟨loaded, ?_, ?_⟩
      · rw [Progress.outcome, success]
        rfl
      · simp only [failed, Bool.false_eq_true, if_false]
        exact loadMirrors
  | true =>
      have passed : ((requires assertions).foldl (Replay.load runtime) {}).succeeding = true :=
        loadMirrors.verdict ▸ success
      obtain ⟨checked, checkRun, checkMirrors⟩ := runStatements_mirrors
        (checkStatement_mirrors answers) (checks assertions) [.checkpoint] loadMirrors
      refine ⟨checked, ?_, ?_⟩
      · rw [if_pos rfl, checkRun, runStatements_checkpoint, Progress.outcome]
        cases checked.success <;> rfl
      · simp only [passed, if_true]
        exact checkMirrors

/-- The text of a script defines the routines and holds the statements. -/
theorem runText_text (live : LiveRuntime Object) (assertions : List Assertion) :
    live.runText (Probe.mk assertions).text =
      (runStatements live (defined live) (statements assertions) {}).outcome? := by
  have read := read?_text assertions
  rw [read?, preamble, preambleLines_eq] at read
  obtain ⟨body, behind, inner⟩ := Option.bind_eq_some_iff.mp read
  simp only [LiveRuntime.runText, behind, inner, Option.bind_eq_bind, Option.bind_some]
  rfl

/-- The script of a list of assertions and its replay end alike: with one exit
code, one verdict and the same diagnostics. -/
theorem runText_agrees_with_replay
    (live : LiveRuntime Object)
    (runtime : Runtime)
    (answers : live.Answers runtime)
    (assertions : List Assertion) :
    ∃ outcome, live.runText (Probe.mk assertions).text = some outcome ∧
      outcome.exitCode = (Replay.run assertions runtime).exitCode ∧
      outcome.verdict = (Replay.run assertions runtime).verdict ∧
      Diagnostic.classify outcome.output =
        Diagnostic.classify (Replay.run assertions runtime).output := by
  obtain ⟨final, ran, mirrors⟩ := runStatements_statements answers assertions
  refine ⟨final.outcome, ?_, mirrors.exitCode_eq, mirrors.verdict_eq, mirrors.classify_output⟩
  rw [runText_text, ran]

/-- A unit whose name ends in a line break does not load: the script adds no
line feed of its own to the notice, and yet both runs end alike. -/
theorem runText_of_unit_ending_in_newline :
    let runtime : Runtime := {
      loads := fun name => name != "late\n"
      resolvesConstant := fun _ => true
      resolvesMethod := fun _ _ _ => false
      delegates := fun _ => .ok true }
    let assertions : List Assertion := [.require "late\n", .constant "Late" "late.rbi:1"]
    (LiveRuntime.ofRuntime runtime).Answers runtime ∧
      ∃ outcome, (LiveRuntime.ofRuntime runtime).runText (Probe.mk assertions).text = some outcome ∧
        outcome.exitCode = some 1 ∧
        outcome.verdict = (Replay.run assertions runtime).verdict := by
  intro runtime assertions
  have answers := LiveRuntime.ofRuntime_answers runtime
  obtain ⟨outcome, ran, code, verdict, _⟩ :=
    runText_agrees_with_replay (.ofRuntime runtime) runtime answers assertions
  have failed : (Replay.run assertions runtime).exitCode = some 1 := by decide
  exact ⟨answers, outcome, ran, code.trans failed, verdict⟩

end Steps

end InterfaceAudit.Script
