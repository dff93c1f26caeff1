import InterfaceAudit.Proofs.Host.Lockstep
import InterfaceAudit.Proofs.Session.Parts
import InterfaceAudit.Session

/-!
Contract: sessions as tenants of the directories that they make.

Owns:
- parts that do the same in every directory that they are given, and nothing
  elsewhere, and the law that the parts of a session are such;
- reports without their durations;
- the law that the run of a session with such parts keeps in step with itself: it
  makes one directory, stays there, and removes it unless it is to be kept.

Does not own: the files of a run.
-/

namespace InterfaceAudit

namespace Alike

variable {α β γ δ : Type} {root? : Option Path} {footing later : Footing}
  {post : Footing → Except Failure α → Except Failure β → Prop}

/-! ## Attempts in step -/

/-- Attempts go on in step where what they go on from is in step. -/
theorem bind
    {attempt : Attempt γ}
    {other : Attempt δ}
    {next : γ → Attempt α}
    {goOn : δ → Attempt β}
    (alike : Alike root? (fun later result reply =>
      match result, reply with
      | .ok value, .ok same => Alike root? post later (next value).run (goOn same).run
      | .error failure, .error same => post later (.error failure) (.error same)
      | _, _ => False) footing attempt.run other.run) :
    Alike root? post footing (attempt >>= next).run (other >>= goOn).run := by
  rw [Attempt.run_bind, Attempt.run_bind]
  refine andThen (alike.mono fun later result reply holds => ?_)
  cases result with
  | ok value =>
      cases reply with
      | ok same => exact holds
      | error failure => exact holds.elim
  | error failure =>
      cases reply with
      | ok same => exact holds.elim
      | error same => exact .done holds

/-- Attempts that come to the same go on in step. -/
theorem bind_same
    {attempt other : Attempt γ}
    {next : γ → Attempt α}
    {goOn : γ → Attempt β}
    (alike : Alike root? (fun reached result reply => reached = later ∧ result = reply) footing
      attempt.run other.run)
    (further : ∀ value, Alike root? post later (next value).run (goOn value).run)
    (failing : ∀ failure, post later (.error failure) (.error failure)) :
    Alike root? post footing (attempt >>= next).run (other >>= goOn).run := by
  refine bind (alike.mono ?_)
  rintro _ result _ ⟨rfl, rfl⟩
  cases result with
  | ok value => exact further value
  | error failure => exact failing failure

theorem clock_bind
    {next : Nat → Attempt α}
    {goOn : Nat → Attempt β}
    (further : ∀ time other, Alike root? post footing (next time).run (goOn other).run) :
    Alike root? post footing (Attempt.clock >>= next).run (Attempt.clock >>= goOn).run := by
  refine .ask ⟨_, _, _, .clock footing 0 0⟩ fun time other later passes => ?_
  cases passes
  exact further time other

theorem log_bind
    {event other : Log.Event}
    (same : event.emission? = other.emission?)
    {next : Unit → Attempt α}
    {goOn : Unit → Attempt β}
    (further : Alike root? post footing (next ()).run (goOn ()).run) :
    Alike root? post footing (Attempt.log event >>= next).run
      (Attempt.log other >>= goOn).run := by
  refine .ask ⟨(), (), _, .log footing same⟩ fun time other later passes => ?_
  cases passes
  exact further

/-- What is said besides diagnostics may be anything. -/
theorem note_bind
    {event other : Log.Event}
    (isNote : event.target ≠ Log.diagnosticTarget)
    (isNoteToo : other.target ≠ Log.diagnosticTarget)
    {next : Unit → Attempt α}
    {goOn : Unit → Attempt β}
    (further : Alike root? post footing (next ()).run (goOn ()).run) :
    Alike root? post footing (Attempt.log event >>= next).run
      (Attempt.log other >>= goOn).run :=
  log_bind ((if_neg isNote).trans (if_neg isNoteToo).symm) further

variable {first second : Path}

theorem writeFile_bind
    {name : String}
    (isPlain : IsPlainName name)
    (content : Bytes)
    {next : Unit → Attempt α}
    {goOn : Unit → Attempt β}
    (further : Alike root? post (.lodged first second) (next ()).run (goOn ()).run)
    (failing : ∀ failure, post (.lodged first second) (.error failure) (.error failure)) :
    Alike root? post (.lodged first second)
      (Attempt.writeFile (first.child name) content >>= next).run
      (Attempt.writeFile (second.child name) content >>= goOn).run := by
  have opens : (Footing.lodged first second).Opens root?
      (.writeFile (first.child name) content) (.writeFile (second.child name) content) :=
    ⟨_, _, _, .stored first second isPlain content (.ok ())⟩
  refine .ask opens fun answer reply later passes => ?_
  generalize isFirst : first.child name = path at passes
  generalize isSecond : second.child name = other at passes
  cases passes
  cases answer with
  | ok done => exact further
  | error fault => exact .done (failing (.io fault))

/-- A command that is run in the directories of two runs comes to the same. -/
theorem finish (chore : Chore) (limit : UInt64) :
    Alike root? (fun later result reply => later = .lodged first second ∧ result = reply)
      (.lodged first second) ((chore.commandIn first).finish limit).run
      ((chore.commandIn second).finish limit).run := by
  have opensWithin : (Footing.lodged first second).Opens root?
      (.runWithin (chore.commandIn first) limit) (.runWithin (chore.commandIn second) limit) :=
    ⟨_, _, _, .ranWithin first second chore limit (.ok none)⟩
  have opens : (Footing.lodged first second).Opens root?
      (.run (chore.commandIn first)) (.run (chore.commandIn second)) :=
    ⟨_, _, _, .ran first second chore (.ok (.unread .notUtf8))⟩
  unfold Command.finish
  split
  case isTrue limited =>
    refine .ask opensWithin fun answer reply later passes => ?_
    generalize isFirst : chore.commandIn first = command at passes
    generalize isSecond : chore.commandIn second = other at passes
    cases passes
    rcases answer with fault | _ | ⟨status, captured⟩ | fault
    all_goals exact .done ⟨rfl, rfl⟩
  case isFalse unlimited =>
    refine .ask opens fun answer reply later passes => ?_
    generalize isFirst : chore.commandIn first = command at passes
    generalize isSecond : chore.commandIn second = other at passes
    cases passes
    rcases answer with fault | ⟨status, captured⟩ | fault
    all_goals exact .done ⟨rfl, rfl⟩

end Alike

/-! ## Parts of a session -/

/-- An attempt that does the same in every directory that it is given, and nothing
elsewhere. -/
def Homely {α : Type} (attempt : Path → Attempt α) : Prop :=
  ∀ root? first second,
    Alike root? (fun later result reply => later = .lodged first second ∧ result = reply)
      (.lodged first second) (attempt first).run (attempt second).run

/-- A sink that is the same wherever a run has come to. -/
def Sink.IsSteady (sink : Sink) : Prop :=
  ∀ root? footing diagnostic,
    Alike root? (fun later _ _ => later = footing) footing (sink diagnostic) (sink diagnostic)

/-- Sessions that are at home in any directory that they are given. -/
structure Session.IsHomely (session : Session) : Prop where
  preparer : ∀ subject, Homely (session.preparer subject)
  executor : ∀ probe, Homely (session.executor probe)
  sink : session.sink.IsSteady

theorem Preparer.homely_none (subject : String) : Homely (Preparer.none subject) :=
  fun _ _ _ => .done ⟨rfl, rfl⟩

theorem Bundle.homely_readinessOf
    (bundle : Bundle)
    (subject : String)
    (status : ExitStatus)
    (captured : Captured) :
    Homely fun _ => bundle.readinessOf subject status captured := by
  intro root? first second
  unfold readinessOf
  split
  · exact .log_bind rfl (.done ⟨rfl, rfl⟩)
  · exact .log_bind rfl (.done ⟨rfl, rfl⟩)

theorem Bundle.homely_prepare (bundle : Bundle) (subject : String) :
    Homely (bundle.prepare subject) := by
  have isPlain : IsPlainName fileName := by decide
  intro root? first second
  unfold prepare
  cases bundle.installCommand with
  | nil => exact .done ⟨rfl, rfl⟩
  | cons program arguments =>
      let chore : Chore := ⟨program, arguments, [("BUNDLE_GEMFILE", fileName)]⟩
      refine .writeFile_bind isPlain _ ?_ fun failure => ⟨rfl, rfl⟩
      refine .log_bind rfl ?_
      refine .bind_same (.finish chore bundle.timeoutSecs) ?_ fun failure => ⟨rfl, rfl⟩
      rintro ⟨status, captured⟩
      exact bundle.homely_readinessOf subject status captured root? first second

theorem Preparer.homely_installing (bundle : Option Bundle) (subject : String) :
    Homely (Preparer.installing bundle subject) := by
  cases bundle with
  | none => exact Preparer.homely_none subject
  | some bundle => exact bundle.homely_prepare subject

theorem Executor.homely_command (line : List String) (limit : UInt64) (probe : Probe) :
    Homely (Executor.command line limit probe) := by
  have isPlain : IsPlainName scriptName := by decide
  intro root? first second
  cases line with
  | nil => exact .done ⟨rfl, rfl⟩
  | cons program arguments =>
      let chore : Chore := ⟨program, arguments ++ [scriptName], []⟩
      refine .writeFile_bind isPlain _ ?_ fun failure => ⟨rfl, rfl⟩
      refine .clock_bind fun start startToo => ?_
      refine .bind_same (.finish chore limit) ?_ fun failure => ⟨rfl, rfl⟩
      rintro ⟨status, captured⟩
      refine .clock_bind fun now nowToo => ?_
      cases status with
      | signalled signal => exact .done ⟨rfl, rfl⟩
      | exited code =>
          have isNote : "probe_harness::executor" ≠ Log.diagnosticTarget := by decide
          refine .note_bind isNote isNote ?_
          exact .done ⟨rfl, rfl⟩

theorem Executor.homely_replay (runtime : Runtime) (probe : Probe) :
    Homely (Executor.replay runtime probe) := by
  have isPlain : IsPlainName scriptName := by decide
  intro root? first second
  refine .writeFile_bind isPlain _ ?_ fun failure => ⟨rfl, rfl⟩
  exact .done ⟨rfl, rfl⟩

theorem Executor.homely_executing
    (runtime? : Option Runtime)
    (line : List String)
    (limit : UInt64)
    (probe : Probe) :
    Homely (Executor.executing runtime? line limit probe) := by
  cases runtime? with
  | none => exact homely_command line limit probe
  | some runtime => exact homely_replay runtime probe

theorem Sink.isSteady_of_sink {sink : Sink} (isSink : sink = logging ∨ sink = collecting) :
    sink.IsSteady := by
  rintro root? footing ⟨severity, text⟩
  have logs (event : Log.Event) :
      Alike root? (fun later _ _ => later = footing) footing (Action.log event)
        (Action.log event) := by
    refine .ask ⟨(), (), _, .log footing rfl⟩ fun answer reply later passes => ?_
    cases passes
    exact .done rfl
  have collects (diagnostic : Diagnostic) :
      Alike root? (fun later _ _ => later = footing) footing (Action.collect diagnostic)
        (Action.collect diagnostic) := by
    refine .ask ⟨(), (), _, .collect footing diagnostic⟩ fun answer reply later passes => ?_
    cases passes
    exact .done rfl
  rcases isSink with rfl | rfl
  · cases severity <;> exact logs _
  · cases severity <;> exact collects _

/-- Every session of parts that are there is homely. -/
theorem Session.isHomely_of_parts
    {session : Session}
    {bundle : Option Bundle}
    {runtime? : Option Runtime}
    {line : List String}
    {limit : UInt64}
    (isPreparer : session.preparer = Preparer.installing bundle)
    (isExecutor : session.executor = Executor.executing runtime? line limit)
    (isSink : session.sink = Sink.logging ∨ session.sink = Sink.collecting) :
    session.IsHomely where
  preparer subject := by
    rw [isPreparer]
    exact Preparer.homely_installing bundle subject
  executor probe := by
    rw [isExecutor]
    exact Executor.homely_executing runtime? line limit probe
  sink := Sink.isSteady_of_sink isSink

theorem Sink.IsSteady.emitAll_bind
    {α : Type}
    {sink : Sink}
    (isSteady : sink.IsSteady)
    {root? : Option Path}
    {footing : Footing}
    {post : Footing → Except Failure α → Except Failure α → Prop}
    (diagnostics : List Diagnostic)
    {next goOn : Unit → Attempt α}
    (further : Alike root? post footing (next ()).run (goOn ()).run) :
    Alike root? post footing (Attempt.always (sink.emitAll diagnostics) >>= next).run
      (Attempt.always (sink.emitAll diagnostics) >>= goOn).run := by
  have emits : Alike root? (fun later _ _ => later = footing) footing
      (sink.emitAll diagnostics) (sink.emitAll diagnostics) := by
    induction diagnostics with
    | nil => exact .done rfl
    | cons diagnostic diagnostics inductionHypothesis =>
        refine .andThen ((isSteady root? footing diagnostic).mono ?_)
        rintro _ _ _ rfl
        exact inductionHypothesis
  refine .bind (.andThen (emits.mono ?_))
  rintro _ _ _ rfl
  exact .done further

/-! ## Whole runs -/

/-- A report without the time that it took. -/
def Report.undated (report : Report) : Report :=
  { report with durationMs := 0 }

namespace Session

/-- Results that differ in durations at most, of runs that have come to a certain
footing. -/
def StayedAlike (footing later : Footing) (result reply : Except Failure Report) : Prop :=
  later = footing ∧ result.map Report.undated = reply.map Report.undated

variable {session : Session} {root? : Option Path} {first second : Path}

theorem alike_reportUnready
    (isHomely : session.IsHomely)
    (diagnostics : List Diagnostic)
    (start startToo : Nat) :
    Alike root? (StayedAlike (.lodged first second)) (.lodged first second)
      (session.reportUnready diagnostics start).run
      (session.reportUnready diagnostics startToo).run := by
  unfold reportUnready
  refine .log_bind rfl (isHomely.sink.emitAll_bind diagnostics ?_)
  exact .clock_bind fun now nowToo => .done ⟨rfl, rfl⟩

theorem alike_runProbe
    (isHomely : session.IsHomely)
    (probe : Probe)
    (start startToo : Nat) :
    Alike root? (StayedAlike (.lodged first second)) (.lodged first second)
      (session.runProbe probe first start).run
      (session.runProbe probe second startToo).run := by
  unfold runProbe
  refine .log_bind rfl ?_
  refine .bind_same (isHomely.executor probe root? first second) (fun outcome => ?_)
    fun failure => ⟨rfl, rfl⟩
  dsimp only
  split
  · exact .log_bind rfl (.clock_bind fun now nowToo => .done ⟨rfl, rfl⟩)
  · refine .log_bind rfl (isHomely.sink.emitAll_bind _ ?_)
    exact .clock_bind fun now nowToo => .done ⟨rfl, rfl⟩

/-- What happens in the directory is the same in every directory. -/
theorem alike_runInside
    (isHomely : session.IsHomely)
    (probe : Probe)
    (start startToo : Nat) :
    Alike root? (StayedAlike (.lodged first second)) (.lodged first second)
      (session.runInside probe first start).run
      (session.runInside probe second startToo).run := by
  unfold runInside
  refine .bind_same (isHomely.preparer session.subject root? first second) (fun readiness => ?_)
    fun failure => ⟨rfl, rfl⟩
  cases readiness with
  | failed diagnostics => exact alike_reportUnready isHomely diagnostics start startToo
  | ready => exact alike_runProbe isHomely probe start startToo

/-- Two runs that have made a directory each, or have failed to in the same way. -/
def MadeAlike : Footing → Except Failure Path → Except Failure Path → Prop
  | later, .ok first, .ok second => later = .lodged first second
  | later, .error failure, .error same => later = .departed ∧ failure = same
  | _, _, _ => False

theorem alike_makeDirectory (settings : Settings) (subject : String) :
    Alike settings.workRoot MadeAlike (.start settings.workRoot)
      (makeDirectory settings subject).run (makeDirectory settings subject).run := by
  unfold makeDirectory
  generalize settings.workRoot = root?
  -- Behind the root, which may have to be made, a directory is made and mentioned.
  let making : Attempt Path := do
    let directory ← Attempt.orFail .workDirectory (.makeScoped root? (directoryStem subject))
    if settings.keepWorkdir then
      Attempt.log (event .info "Keeping probe working directory"
        [("path", .text directory.shown)])
    return directory
  have made : Alike root? MadeAlike .rooted making.run making.run := by
    have opens : Footing.rooted.Opens root? (.makeScoped root? (directoryStem subject))
        (.makeScoped root? (directoryStem subject)) :=
      ⟨_, _, _, .scopedRefused (directoryStem subject) .notUtf8⟩
    refine .ask opens fun answer reply later passes => ?_
    cases passes with
    | scopedRefused stem fault => exact .done ⟨rfl, rfl⟩
    | scopedMade stem first second =>
        show Alike root? MadeAlike (.lodged first second)
          (if settings.keepWorkdir then _ else _ : Attempt Path).run
          (if settings.keepWorkdir then _ else _ : Attempt Path).run
        split
        · have isNote : "probe_harness::session" ≠ Log.diagnosticTarget := by decide
          refine .note_bind isNote isNote ?_
          exact .done rfl
        · exact .done rfl
  cases root? with
  | none => exact made
  | some root =>
      have opens : Footing.arriving.Opens (some root) (.makeDirectories root)
          (.makeDirectories root) := ⟨_, _, _, .treeMade rfl⟩
      refine .ask opens fun answer reply later passes => ?_
      cases passes with
      | treeMade => exact made
      | treeRefused => exact .done ⟨rfl, rfl⟩

/-- Results of two runs that differ in durations at most. A run that is not to keep
its directory has none at its end. -/
def RanAlike (session : Session) (later : Footing) (result reply : Except Failure Report) :
    Prop :=
  result.map Report.undated = reply.map Report.undated ∧
    (session.settings.keepWorkdir = false → later.first = none)

theorem alike_attempt (isHomely : session.IsHomely) :
    Alike session.settings.workRoot session.RanAlike (.start session.settings.workRoot)
      session.attempt.run session.attempt.run := by
  unfold attempt
  refine .clock_bind fun start startToo => ?_
  refine .bind ((alike_makeDirectory session.settings session.subject).mono ?_)
  intro later result reply made
  cases result with
  | error failure =>
      cases reply with
      | ok second => exact made.elim
      | error same =>
          obtain ⟨rfl, rfl⟩ := made
          exact ⟨rfl, fun _ => rfl⟩
  | ok first =>
      cases reply with
      | error failure => exact made.elim
      | ok second =>
          cases (made : later = .lodged first second)
          have inside :
              Alike session.settings.workRoot (StayedAlike (.lodged first second))
                (.lodged first second) (session.runInside session.probe first start).run
                (session.runInside session.probe second startToo).run :=
            alike_runInside isHomely session.probe start startToo
          dsimp only
          split
          case isTrue keeps =>
            refine inside.mono fun reached result reply stayed => ⟨stayed.2, fun removes => ?_⟩
            rw [keeps] at removes
            cases removes
          case isFalse removes =>
            refine .andThen (inside.mono ?_)
            rintro _ result reply ⟨rfl, same⟩
            refine .ask ⟨(), (), _, .removed first second⟩ fun answer reply later passes => ?_
            cases passes with
            | removed => exact .done ⟨same, fun _ => rfl⟩

/-- The run of a homely session keeps in step with itself. -/
theorem alike_run (isHomely : session.IsHomely) :
    Alike session.settings.workRoot session.RanAlike (.start session.settings.workRoot)
      session.run.run session.run.run := by
  unfold run
  split
  case isTrue hasRun =>
    exact .done ⟨rfl, fun _ => Footing.first_start _⟩
  case isFalse isFresh => exact (alike_attempt isHomely).within session.span

end Session

end InterfaceAudit
