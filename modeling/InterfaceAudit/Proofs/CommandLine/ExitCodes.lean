import InterfaceAudit.Proofs.CommandLine.Silence
import InterfaceAudit.Proofs.Session.Verdict

/-!
Contract: the exit code of a task, and what is said beside it.

Owns:
- the steps of a validation, from the manifest to the exit code;
- the three ways in which a validation ends, each with its exchanges;
- the text of a report as far as the verdict;
- the law that the exit code, the standard output and the last message agree with
  the way in which a validation ends, and that a task whose manifest does not load
  touches nothing.

Does not own: arguments that are refused.
-/

namespace InterfaceAudit

variable {σ : Type}

/-! ## The text of a report -/

namespace Json.Value

theorem indented_boolean (depth : Nat) (value : Bool) :
    indented depth (.boolean value) = (if value then "true" else "false").toList := by
  cases value <;> simp [indented]

theorem indented_object (depth : Nat) (first : String × Value) (members : List (String × Value)) :
    indented depth (.object (first :: members)) =
      '{' :: (indentedMembers (depth + 1) (first :: members) ++ newline depth ++ ['}']) := by
  rw [indented]
  exact List.cons_ne_nil _ _

theorem indentedMembers_cons
    (depth : Nat)
    (key : String)
    (value : Value)
    (next : String × Value)
    (members : List (String × Value)) :
    indentedMembers depth ((key, value) :: next :: members) =
      (newline depth ++ quote key ++ [':', ' ']) ++ indented depth value ++
        ',' :: indentedMembers depth (next :: members) := by
  rw [indentedMembers]
  · simp only [List.append_assoc, List.cons_append, List.nil_append]
  · exact List.cons_ne_nil _ _

end Json.Value

/-- A report is printed as an object whose second member is the verdict. -/
theorem Report.pretty_toJson (report : Report) :
    ∃ rest, report.toJson.pretty.toList =
      "\x7b\n  \"subject\": ".toList ++ Json.Value.quote report.subject ++
        ",\n  \"passed\": ".toList ++ (if report.passed then "true" else "false").toList ++
          ',' :: rest := by
  have isFirst : "\x7b\n  \"subject\": ".toList =
      '{' :: (Json.Value.newline 1 ++ Json.Value.quote "subject" ++ [':', ' ']) := by decide
  have isSecond : ",\n  \"passed\": ".toList =
      ',' :: (Json.Value.newline 1 ++ Json.Value.quote "passed" ++ [':', ' ']) := by decide
  have isSubject : Json.Value.indented 1 (.string report.subject) =
      Json.Value.quote report.subject := by rw [Json.Value.indented]
  obtain ⟨others, isObject⟩ : ∃ others, report.toJson = .object (
      ("subject", .string report.subject) :: ("passed", .boolean report.passed) ::
        ("environment_ready", .boolean report.environmentReady) :: others) := ⟨_, rfl⟩
  rw [Json.Value.pretty, String.toList_ofList, isObject, Json.Value.indented_object,
    Json.Value.indentedMembers_cons, Json.Value.indentedMembers_cons, isSubject,
    Json.Value.indented_boolean, isFirst, isSecond]
  generalize Json.Value.indentedMembers (0 + 1) _ = later
  refine ⟨later ++ (Json.Value.newline 0 ++ ['}']), ?_⟩
  simp only [List.append_assoc, List.cons_append]

/-- The failures that are to be mended in the configuration, by name. -/
theorem Failure.isConfiguration_iff (failure : Failure) :
    failure.isConfiguration = true ↔
      (∃ command, failure = .commandNotFound command) ∨ failure = .emptyCommand ∨
        ∃ fault, failure = .workDirectory fault := by
  constructor
  · intro isConfiguration
    cases failure with
    | commandNotFound command => exact .inl ⟨command, rfl⟩
    | emptyCommand => exact .inr (.inl rfl)
    | workDirectory fault => exact .inr (.inr ⟨fault, rfl⟩)
    | spawn _ _ | timedOut _ | terminated _ | consumed _ | manifest _ | io _ =>
        cases isConfiguration
  · rintro (⟨command, rfl⟩ | rfl | ⟨fault, rfl⟩) <;> rfl

namespace CommandLine

/-! ## Troubles -/

def Trouble.giveUp (trouble : Trouble) : Action Nat :=
  (Action.log (event .error trouble.message)).andThen fun _ => .done 2

def Trouble.told (trouble : Trouble) : Exchange :=
  ⟨.log (event .error trouble.message), ()⟩

def Trouble.unloadable (path : Path) (failure : Failure) : Trouble where
  doing := "Failed to load manifest " ++ path.shown
  failure := .inl failure

def Trouble.undone (subject : String) (failure : Failure) : Trouble where
  doing := "Failed to validate " ++ subject
  failure := .inl failure

/-- What was being done is where a message begins, unless the configuration is to
blame, which is said first. -/
theorem Trouble.isPrefix_message_iff
    {trouble : Trouble}
    (failed : "Failed to ".toList <+: trouble.doing.toList) :
    "Configuration error: ".toList <+: trouble.message.toList ↔
      trouble.isConfiguration = true := by
  unfold message
  rw [String.toList_append]
  constructor
  · intro isBlamed
    refine (Bool.not_eq_false _).mp fun isOther => ?_
    rw [isOther] at isBlamed
    have isStart : trouble.doing.toList <+:
        (Text.joinWith ": " (trouble.doing :: trouble.texts)).toList := by
      unfold Text.joinWith
      rw [String.toList_intercalate, List.map_cons]
      cases trouble.texts.map String.toList with
      | nil => exact ⟨[], (List.append_nil _).trans List.intercalate_singleton.symm⟩
      | cons text texts =>
          rw [List.intercalate_cons_cons, List.append_assoc]
          exact List.prefix_append _ _
    -- Two beginnings of one text, with different first letters.
    have both := List.prefix_or_prefix_of_prefix isBlamed (failed.trans isStart)
    revert both
    decide
  · intro isConfiguration
    rw [isConfiguration]
    exact List.prefix_append _ _

/-! ## Steps -/

/-- What is done about the result of a task. -/
def settle : Except Trouble Bool → Action Nat
  | .ok passed => .done (if passed then 0 else 1)
  | .error trouble => trouble.giveUp

theorem perform_eq (task : Task) : task.perform = task.work.run.andThen settle := by
  unfold Task.perform
  congr 1
  funext result
  rcases result with trouble | _ | _ <;> rfl

/-- A task whose manifest does not load reads that and gives up. -/
theorem perform_of_unloads
    {task : Task}
    {path : Path}
    {next : Manifest → Work Bool}
    (isWork : task.work = (loadManifest path >>= next))
    (host : Host σ)
    (state : σ)
    {failure : Failure}
    (unloads : ((Manifest.load path).run.runOn host state).1 = .error failure) :
    (∃ answer, task.perform.exchanges host state =
      [⟨.readFile path, answer⟩, (Trouble.unloadable path failure).told]) ∧
    (task.perform.runOn host state).1 = 2 := by
  obtain ⟨answer, isRead⟩ := (leads_load path).runOn host state
  rw [perform_eq, isWork, run_loadManifest, Action.andThen_assoc, Action.exchanges_andThen,
    Action.runOn_andThen, unloads, isRead]
  exact ⟨⟨answer, rfl⟩, rfl⟩

/-- A task whose manifest does not load changes no file and runs no command. -/
theorem untouched_of_unloads
    {task : Task}
    {path : Path}
    {next : Manifest → Work Bool}
    (isWork : task.work = (loadManifest path >>= next))
    (host : Host σ)
    (state : σ)
    {failure : Failure}
    (unloads : ((Manifest.load path).run.runOn host state).1 = .error failure) :
    let exchanges := task.perform.exchanges host state
    (∀ exchange ∈ exchanges, exchange.request.LeavesFiles) ∧
    children exchanges = [] ∧
    ∀ filing : Filing host,
      filing.files (task.perform.runOn host state).2 = filing.files state := by
  intro exchanges
  obtain ⟨⟨answer, isExchanges⟩, _⟩ := perform_of_unloads isWork host state unloads
  have leaves : ∀ exchange ∈ exchanges, exchange.request.LeavesFiles := by
    show ∀ exchange ∈ task.perform.exchanges host state, _
    rw [isExchanges]
    exact List.forall_mem_cons.mpr ⟨trivial, List.forall_mem_singleton.mpr trivial⟩
  refine ⟨leaves, ?_, fun filing => ?_⟩
  · show children (task.perform.exchanges host state) = []
    rw [isExchanges]
    rfl
  · exact (filing.evolves_runOn task.perform state).eq_of_leavesFiles leaves

namespace Validation

def subjectOf (validation : Validation) (manifest : Manifest) : String :=
  validation.subject.getD manifest.subject

def announcement (validation : Validation) (manifest : Manifest) : Log.Event :=
  event .info "Validating" [
    ("subject", .text (validation.subjectOf manifest)),
    ("directives", .number manifest.assertions.length)]

def conclude (validation : Validation) (subject : String) (report : Report) : Action Nat :=
  (if validation.reportJson then Action.print (report.toJson.pretty ++ "\n")
    else .done ()).andThen fun _ =>
      (Action.log (verdictEvent subject report)).andThen fun _ =>
        .done (if report.passed then 0 else 1)

/-- A report is printed if that is asked for, and a word about it ends the work. -/
theorem run_conclude (validation : Validation) (subject : String) (report : Report) :
    (ExceptT.run (do
      if validation.reportJson then
        Work.always (.print (report.toJson.pretty ++ "\n"))
      Work.log (verdictEvent subject report)
      return report.passed : Work Bool)).andThen settle = validation.conclude subject report := by
  unfold conclude
  split
  case isTrue prints => rfl
  case isFalse silent => rfl

/-- The steps of a validation: it loads the manifest, says so, runs the session, and
settles what comes of it. -/
theorem perform_validate (validation : Validation) :
    (Task.validate validation).perform =
      (Manifest.load validation.manifest).run.andThen fun
        | .error failure => (Trouble.unloadable validation.manifest failure).giveUp
        | .ok manifest =>
            let subject := validation.subjectOf manifest
            (Action.log (validation.announcement manifest)).andThen fun _ =>
              (validation.session subject manifest).run.run.andThen fun
                | .error failure => (Trouble.undone subject failure).giveUp
                | .ok report => validation.conclude subject report := by
  rw [perform_eq]
  show validation.work.run.andThen _ = _
  unfold work
  rw [run_loadManifest, Action.andThen_assoc]
  congr 1
  funext loaded
  cases loaded with
  | error failure => rfl
  | ok manifest =>
      show Action.ask _ _ = Action.ask _ _
      congr 1
      funext _
      show Action.andThen (ExceptT.run (Work.doing _ _ >>= _)) settle = _
      rw [Work.run_bind, Work.doing, ExceptT.run_mk, Action.andThen_assoc, Action.andThen_assoc]
      congr 1
      funext result
      cases result with
      | error failure => rfl
      | ok report => exact run_conclude validation _ report

/-! ## Ways to end -/

def sessionOn (validation : Validation) (manifest : Manifest) : Session :=
  validation.session (validation.subjectOf manifest) manifest

def loaded (validation : Validation) (host : Host σ) (state : σ) : Except Failure Manifest :=
  ((Manifest.load validation.manifest).run.runOn host state).1

def announced (validation : Validation) (host : Host σ) (state : σ) (manifest : Manifest) : σ :=
  (host.answer (.log (validation.announcement manifest))
    ((Manifest.load validation.manifest).run.runOn host state).2).2

/-- What the run of a validation comes to on a host. -/
def returned
    (validation : Validation)
    (host : Host σ)
    (state : σ)
    (manifest : Manifest) :
    Except Failure Report :=
  ((validation.sessionOn manifest).run.run.runOn host
    (validation.announced host state manifest)).1

def bundle? (validation : Validation) : Option Bundle :=
  if validation.noBundle then none else some validation.bundle

/-- The session of a validation installs a bundle or nothing, executes its command,
and logs its diagnostics. -/
theorem sessionOn_commanded (validation : Validation) (manifest : Manifest) :
    validation.sessionOn manifest =
      (validation.sessionOn manifest).commanded validation.bundle?
        validation.settings.entryCommand validation.settings.timeoutSecs ∧
    (validation.sessionOn manifest).sink = Sink.logging := by
  unfold sessionOn session preparer bundle?
  rw [Session.applyManifest_eq]
  refine ⟨?_, rfl⟩
  cases validation.noBundle <;> rfl

def conclusion (validation : Validation) (subject : String) (report : Report) : List Exchange :=
  (if validation.reportJson then [⟨.print (report.toJson.pretty ++ "\n"), ()⟩] else []) ++
    [⟨.log (verdictEvent subject report), ()⟩]

theorem standardOutput_conclusion
    (validation : Validation)
    (subject : String)
    (report : Report) :
    standardOutput (validation.conclusion subject report) =
      if validation.reportJson then Utf8.ofString (report.toJson.pretty ++ "\n") else [] := by
  unfold conclusion
  split
  case isTrue prints => exact List.append_nil _
  case isFalse silent => rfl

theorem perform_conclude
    (validation : Validation)
    (subject : String)
    (report : Report)
    (host : Host σ)
    (state : σ) :
    (validation.conclude subject report).exchanges host state =
      validation.conclusion subject report ∧
    ((validation.conclude subject report).runOn host state).1 = if report.passed then 0 else 1 := by
  unfold conclude conclusion
  split
  case isTrue prints => exact ⟨rfl, rfl⟩
  case isFalse silent => exact ⟨rfl, rfl⟩

/-- The three ways in which a validation ends on a host, each with the last exchanges
and the exit code. Nothing is printed before. -/
inductive Ended (validation : Validation) (host : Host σ) (state : σ) :
    List Exchange → Nat → Prop where
  | unloaded {failure : Failure} {before : List Exchange}
      (unloads : validation.loaded host state = .error failure)
      (silent : standardOutput before = []) :
      Ended validation host state
        (before ++ [(Trouble.unloadable validation.manifest failure).told]) 2
  | undone {manifest : Manifest} {failure : Failure} {before : List Exchange}
      (loads : validation.loaded host state = .ok manifest)
      (fails : validation.returned host state manifest = .error failure)
      (silent : standardOutput before = []) :
      Ended validation host state
        (before ++ [(Trouble.undone (validation.subjectOf manifest) failure).told]) 2
  | judged {manifest : Manifest} {report : Report} {before : List Exchange}
      (loads : validation.loaded host state = .ok manifest)
      (reports : validation.returned host state manifest = .ok report)
      (silent : standardOutput before = []) :
      Ended validation host state
        (before ++ validation.conclusion (validation.subjectOf manifest) report)
        (if report.passed then 0 else 1)

theorem ended_perform (validation : Validation) (host : Host σ) (state : σ) :
    validation.Ended host state
      ((Task.validate validation).perform.exchanges host state)
      ((Task.validate validation).perform.runOn host state).1 := by
  obtain ⟨answer, isRead⟩ := (leads_load validation.manifest).runOn host state
  have silentRead : standardOutput [⟨.readFile validation.manifest, answer⟩] = [] := rfl
  rw [perform_validate, Action.exchanges_andThen, Action.runOn_andThen, isRead]
  cases loads : validation.loaded host state with
  | error failure =>
      have unloads := loads
      unfold loaded at unloads
      rw [unloads]
      exact .unloaded loads silentRead
  | ok manifest =>
      have isManifest := loads
      unfold loaded at isManifest
      rw [isManifest]
      let run := (validation.sessionOn manifest).run.run
      let current := validation.announced host state manifest
      have silentRun : standardOutput (run.exchanges host current) = [] := by
        obtain ⟨isCommanded, isSink⟩ := validation.sessionOn_commanded manifest
        show standardOutput ((validation.sessionOn manifest).run.run.exchanges host current) = []
        rw [isCommanded]
        exact Session.standardOutput_commanded _ isSink _ _ _ host current
      -- Behind the reading there is a word about the task, and then the run.
      have silent : standardOutput (⟨.readFile validation.manifest, answer⟩ ::
          ⟨.log (validation.announcement manifest), ()⟩ :: run.exchanges host current) = [] :=
        silentRun
      show validation.Ended host state
        (⟨.readFile validation.manifest, answer⟩ ::
          ⟨.log (validation.announcement manifest), ()⟩ ::
            (run.andThen _).exchanges host current)
        ((run.andThen _).runOn host current).1
      rw [Action.exchanges_andThen, Action.runOn_andThen]
      cases returns : validation.returned host state manifest with
      | error failure =>
          have isFailure : (run.runOn host current).1 = .error failure := returns
          rw [isFailure]
          exact .undone loads returns silent
      | ok report =>
          have isReport : (run.runOn host current).1 = .ok report := returns
          obtain ⟨isConclusion, isCode⟩ := validation.perform_conclude
            (validation.subjectOf manifest) report host (run.runOn host current).2
          rw [isReport]
          dsimp only
          rw [isConclusion, isCode]
          exact .judged loads returns silent

/-- A run whose installation ended without success reports that nothing has passed. -/
theorem returned_of_failed_install
    (validation : Validation)
    (host : Host σ)
    (state : σ)
    (manifest : Manifest)
    {child : Child}
    (member : child ∈ childrenOf Contact.isPreparation
      ((validation.sessionOn manifest).services host (validation.announced host state manifest)))
    {status : ExitStatus}
    {captured : Captured}
    (isEnding : child.ending = .ended (.finished status captured))
    (failed : status.isSuccess = false) :
    ∃ report, validation.returned host state manifest = .ok report ∧ report.passed = false := by
  have fate := (validation.sessionOn manifest).fate_services validation.bundle?
    validation.settings.entryCommand validation.settings.timeoutSecs host
    (validation.announced host state manifest)
  dsimp only at fate
  rw [← (validation.sessionOn_commanded manifest).1] at fate
  obtain ⟨diagnostics, duration, isReport⟩ := fate.unready_of_failed_install member isEnding failed
  exact ⟨_, isReport, rfl⟩

namespace Ended

variable {validation : Validation} {host : Host σ} {state : σ} {exchanges : List Exchange}
  {code : Nat}

/-- Each way to end has its exit code, and each exit code its ways to end. -/
theorem code_iff (ended : validation.Ended host state exchanges code) :
    (code = 0 ↔ ∃ manifest report, validation.loaded host state = .ok manifest ∧
      validation.returned host state manifest = .ok report ∧ report.passed = true) ∧
    (code = 1 ↔ ∃ manifest report, validation.loaded host state = .ok manifest ∧
      validation.returned host state manifest = .ok report ∧ report.passed = false) ∧
    (code = 2 ↔ (∃ failure, validation.loaded host state = .error failure) ∨
      ∃ manifest failure, validation.loaded host state = .ok manifest ∧
        validation.returned host state manifest = .error failure) := by
  cases ended with
  | unloaded unloads silent => simp [unloads]
  | undone loads fails silent => simp [loads, fails]
  | judged loads reports silent =>
      rename_i report _
      cases isPassed : report.passed <;> simp [loads, reports, isPassed]

/-- A report is printed behind everything else, if it is asked for, and nothing is
printed without one. -/
theorem printed (ended : validation.Ended host state exchanges code) :
    (∀ manifest report, validation.loaded host state = .ok manifest →
      validation.returned host state manifest = .ok report →
      standardOutput exchanges =
        if validation.reportJson then Utf8.ofString (report.toJson.pretty ++ "\n") else []) ∧
    (code = 2 → standardOutput exchanges = []) := by
  cases ended with
  | unloaded unloads silent =>
      rw [standardOutput_append, silent]
      refine ⟨fun manifest report loads => ?_, fun _ => rfl⟩
      rw [unloads] at loads
      cases loads
  | undone loads fails silent =>
      rw [standardOutput_append, silent]
      refine ⟨fun manifest report isManifest reports => ?_, fun _ => rfl⟩
      rw [loads] at isManifest
      cases isManifest
      rw [fails] at reports
      cases reports
  | judged loads reports silent =>
      rename_i report _
      rw [standardOutput_append, silent, standardOutput_conclusion]
      refine ⟨fun manifest other isManifest isOther => ?_, fun isTrouble => ?_⟩
      · rw [loads] at isManifest
        cases isManifest
        rw [reports] at isOther
        cases isOther
        rfl
      · cases isPassed : report.passed <;> simp [isPassed] at isTrouble

/-- What made a validation fail is what the last message is about. -/
theorem told
    (ended : validation.Ended host state exchanges code)
    {failure : Failure}
    (isCause : validation.loaded host state = .error failure ∨
      ∃ manifest, validation.loaded host state = .ok manifest ∧
        validation.returned host state manifest = .error failure) :
    ∃ before, ∃ trouble : Trouble,
      exchanges = before ++ [trouble.told] ∧
      trouble.failure = .inl failure ∧
      "Failed to ".toList <+: trouble.doing.toList := by
  have started (purpose object : String) (failed : "Failed to ".toList <+: purpose.toList) :
      "Failed to ".toList <+: (purpose ++ object).toList := by
    rw [String.toList_append]
    exact failed.trans (List.prefix_append _ _)
  cases ended with
  | unloaded unloads silent =>
      rename_i cause before
      have isFailure : cause = failure := by simpa [unloads] using isCause
      cases isFailure
      exact ⟨before, _, rfl, rfl, started "Failed to load manifest " _ (by decide)⟩
  | undone loads fails silent =>
      rename_i cause before
      have isFailure : cause = failure := by simpa [loads, fails] using isCause
      cases isFailure
      exact ⟨before, _, rfl, rfl, started "Failed to validate " _ (by decide)⟩
  | judged loads reports silent => simp [loads, reports] at isCause

end Ended

end Validation

/-! ## The law of exit codes -/

/-- The exit code tells how a validation ended. However a host answers, it is 0 if
the manifest loaded and the run returned a report that has passed, 1 if the report
has not passed, as after an installation without success, and 2 if the manifest did
not load or the run failed, and each of these only then. A report is printed with
the first two codes, if it is asked for, and its verdict agrees with the code;
otherwise nothing is printed. The last message of the third code blames the
configuration for a command that is not found, a command that is empty and a working
directory that cannot be made, and for nothing else. Where the manifest does not
load, neither task changes a file or runs a command. -/
theorem exit_code_of_outcome (validation : Validation) (host : Host σ) (state : σ) :
    let code := ((Task.validate validation).perform.runOn host state).1
    let exchanges := (Task.validate validation).perform.exchanges host state
    let loaded := validation.loaded host state
    let returned := validation.returned host state
    -- The three codes.
    (code = 0 ↔ ∃ manifest report, loaded = .ok manifest ∧ returned manifest = .ok report ∧
      report.passed = true) ∧
    (code = 1 ↔ ∃ manifest report, loaded = .ok manifest ∧ returned manifest = .ok report ∧
      report.passed = false) ∧
    (code = 2 ↔ (∃ failure, loaded = .error failure) ∨
      ∃ manifest failure, loaded = .ok manifest ∧ returned manifest = .error failure) ∧
    (∀ manifest, loaded = .ok manifest →
      ∀ child ∈ childrenOf Contact.isPreparation ((validation.sessionOn manifest).services
        host (validation.announced host state manifest)),
      ∀ status captured, child.ending = .ended (.finished status captured) →
        status.isSuccess = false → code = 1) ∧
    -- What is printed.
    (∀ manifest report, loaded = .ok manifest → returned manifest = .ok report →
      standardOutput exchanges =
        (if validation.reportJson then Utf8.ofString (report.toJson.pretty ++ "\n") else []) ∧
      ∃ rest, report.toJson.pretty.toList =
        "\x7b\n  \"subject\": ".toList ++ Json.Value.quote report.subject ++
          ",\n  \"passed\": ".toList ++ (if code = 0 then "true" else "false").toList ++
            ',' :: rest) ∧
    (code = 2 → standardOutput exchanges = []) ∧
    -- The last message.
    (∀ failure, (loaded = .error failure ∨
        ∃ manifest, loaded = .ok manifest ∧ returned manifest = .error failure) →
      ∃ before, ∃ trouble : Trouble,
        exchanges = before ++ [⟨.log (event .error trouble.message), ()⟩] ∧
        trouble.failure = .inl failure ∧
        ("Configuration error: ".toList <+: trouble.message.toList ↔
          (∃ command, failure = .commandNotFound command) ∨ failure = .emptyCommand ∨
            ∃ fault, failure = .workDirectory fault)) ∧
    -- Without a manifest.
    ((∃ failure, loaded = .error failure) →
      (∀ exchange ∈ exchanges, exchange.request.LeavesFiles) ∧
      children exchanges = [] ∧
      ∀ filing : Filing host,
        filing.files ((Task.validate validation).perform.runOn host state).2 =
          filing.files state) ∧
    ∀ rendering : Rendering, ∀ failure,
      ((Manifest.load rendering.manifest).run.runOn host state).1 = .error failure →
      let rendered := (Task.render rendering).perform.runOn host state
      let asked := (Task.render rendering).perform.exchanges host state
      rendered.1 = 2 ∧
      (∀ exchange ∈ asked, exchange.request.LeavesFiles) ∧
      children asked = [] ∧
      ∀ filing : Filing host, filing.files rendered.2 = filing.files state := by
  intro code exchanges loaded returned
  have ended : validation.Ended host state exchanges code := validation.ended_perform host state
  obtain ⟨passes, fails, breaks⟩ := ended.code_iff
  obtain ⟨printed, silent⟩ := ended.printed
  refine ⟨passes, fails, breaks, ?_, ?_, silent, ?_, ?_, ?_⟩
  · intro manifest loads child member status captured isEnding failed
    obtain ⟨report, returns, notPassed⟩ :=
      validation.returned_of_failed_install host state manifest member isEnding failed
    exact fails.mpr ⟨manifest, report, loads, returns, notPassed⟩
  · intro manifest report loads returns
    have agrees : report.passed = decide (code = 0) := by
      cases isPassed : report.passed with
      | true =>
          have isZero : code = 0 := passes.mpr ⟨manifest, report, loads, returns, isPassed⟩
          rw [isZero]
          rfl
      | false =>
          have isOne : code = 1 := fails.mpr ⟨manifest, report, loads, returns, isPassed⟩
          rw [isOne]
          rfl
    refine ⟨printed manifest report loads returns, ?_⟩
    have spelled := report.pretty_toJson
    rw [agrees] at spelled
    simpa only [decide_eq_true_eq] using spelled
  · intro failure isCause
    obtain ⟨before, trouble, isLast, isFailure, isDoing⟩ := ended.told isCause
    refine ⟨before, trouble, isLast, isFailure, ?_⟩
    rw [Trouble.isPrefix_message_iff isDoing, ← failure.isConfiguration_iff]
    unfold Trouble.isConfiguration
    rw [isFailure]
  · rintro ⟨failure, unloads⟩
    exact untouched_of_unloads rfl host state unloads
  · intro rendering failure unloads
    exact ⟨(perform_of_unloads rfl host state unloads).2,
      untouched_of_unloads rfl host state unloads⟩

end CommandLine

end InterfaceAudit
