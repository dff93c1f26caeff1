import InterfaceAudit.Proofs.Host.Transcript
import InterfaceAudit.Session

/-!
Contract: the run of a session, stage by stage.

Owns:
- what a run asks of its surroundings: of the host, of the preparation, of the
  execution and of the sink;
- the run as a series of stages, each of which may change the session and may
  fail, where a change stays when a later stage fails;
- the law that the stages, served by the parts that a session is given, are its
  run, and leave the session that is left after its run.

Does not own: series of runs.
-/

namespace InterfaceAudit

/-! ## Plans -/

/-- Something that a run asks of its surroundings. -/
inductive Call where
  | host (request : Request)
  | prepare (subject : String) (directory : Path)
  | execute (probe : Probe) (directory : Path)
  | emit (diagnostic : Diagnostic)

def Call.Answer : Call → Type
  | .host request => request.Answer
  | .prepare _ _ => Except Failure Readiness
  | .execute _ _ => Except Failure Outcome
  | .emit _ => Unit

/-- Work that needs surroundings: a result, or a call and what to do with every
possible answer. -/
inductive Plan (α : Type) where
  | done (result : α)
  | ask (call : Call) (next : call.Answer → Plan α)

namespace Plan

variable {α β : Type}

def andThen : Plan α → (α → Plan β) → Plan β
  | .done result, next => next result
  | .ask call resume, next => .ask call fun answer => (resume answer).andThen next

instance : Monad Plan where
  pure := .done
  bind := andThen

end Plan

def Session.serve (session : Session) : (call : Call) → Action call.Answer
  | .host request => Action.request request
  | .prepare subject directory => (session.preparer subject directory).run
  | .execute probe directory => (session.executor probe directory).run
  | .emit diagnostic => session.sink diagnostic

def Plan.servedBy {α : Type} (session : Session) : Plan α → Action α
  | .done result => .done result
  | .ask call next =>
      (session.serve call).andThen fun answer => (next answer).servedBy session

/-! ## Stages -/

abbrev Stage (α : Type) := ExceptT Failure (StateT Session Plan) α

namespace Stage

variable {α β : Type}

/-- Makes a call, and fails where the answer amounts to a failure. -/
def calling (call : Call) (meaning : call.Answer → Except Failure α) : Stage α :=
  ExceptT.mk fun session => .ask call fun answer => .done (meaning answer, session)

def clock : Stage Nat := calling (.host .clock) .ok

def log (event : Log.Event) : Stage Unit := calling (.host (.log event)) .ok

def makeDirectories (path : Path) : Stage Unit :=
  calling (.host (.makeDirectories path)) (Except.mapError .workDirectory)

def makeScoped (parent : Option Path) (stem : String) : Stage Path :=
  calling (.host (.makeScoped parent stem)) (Except.mapError .workDirectory)

def prepare (subject : String) (directory : Path) : Stage Readiness :=
  calling (.prepare subject directory) id

def execute (probe : Probe) (directory : Path) : Stage Outcome :=
  calling (.execute probe directory) id

/-- Passes on diagnostics, in order. -/
def emitAll : List Diagnostic → Stage Unit
  | [] => pure ()
  | diagnostic :: diagnostics => do
      calling (.emit diagnostic) .ok
      emitAll diagnostics

/-- Makes a call after a stage, whether that failed or not. -/
def lastly (stage : Stage α) (last : Call) : Stage α :=
  ExceptT.mk fun session =>
    (stage.run.run session).andThen fun ended => .ask last fun _ => .done ended

end Stage

namespace Session

def directoryStage : Stage Path := do
  let session ← get
  match session.settings.workRoot with
  | none => pure ()
  | some root => Stage.makeDirectories root
  let directory ← Stage.makeScoped session.settings.workRoot (directoryStem session.subject)
  if session.settings.keepWorkdir then
    Stage.log (event .info "Keeping probe working directory"
      [("path", .text directory.shown)])
  return directory

/-- Passes on the diagnostics of a failed preparation. -/
def unreadyStage (diagnostics : List Diagnostic) (start : Nat) : Stage Report := do
  let session ← get
  Stage.log (event .warn "Environment preparation failed, skipping probe")
  Stage.emitAll diagnostics
  let now ← Stage.clock
  return unreadyReport session.subject diagnostics (now - start)

/-- Passes on what a probe reports that has been executed. -/
def judgeStage (probe : Probe) (outcome : Outcome) (start : Nat) : Stage Report := do
  let session ← get
  let verdict := outcome.verdict
  if verdict.passed then
    Stage.log (event .info "Probe passed")
  else
    Stage.log (event .warn "Probe failed" [
      ("exit_code", .text (Failure.optionalNumber outcome.exitCode)),
      ("diagnostics", .number verdict.diagnostics.length)])
    Stage.emitAll verdict.diagnostics
  let now ← Stage.clock
  return probeReport session.subject probe outcome verdict (now - start)

def probeStage (probe : Probe) (directory : Path) (start : Nat) : Stage Report := do
  Stage.log (event .info "Running probe" [
    ("directives", .number probe.assertions.length),
    ("digest", .text probe.shortDigest)])
  let outcome ← Stage.execute probe directory
  judgeStage probe outcome start

def insideStage (probe : Probe) (directory : Path) (start : Nat) : Stage Report := do
  let session ← get
  match ← Stage.prepare session.subject directory with
  | .failed diagnostics => unreadyStage diagnostics start
  | .ready => probeStage probe directory start

/-- Everything behind the taking of the assertions. -/
def directoryAndInside (probe : Probe) (start : Nat) : Stage Report := do
  let session ← get
  let directory ← directoryStage
  let inside := insideStage probe directory start
  if session.settings.keepWorkdir then inside
  else inside.lastly (.host (.removeTree directory))

/-- The run of a session, in the order in which it goes on: the session is
consumed, its assertions are taken, and only then is anything done that can
fail. -/
def stepwise : Stage Report := do
  let session ← get
  if session.consumed then throw (.consumed session.subject)
  modify fun session => { session with consumed := true }
  let start ← Stage.clock
  let taken := (← get).assertions
  modify fun session => { session with assertions := [] }
  directoryAndInside { assertions := .require session.subject :: taken } start

end Session

/-! ## Stages and attempts -/

namespace Stage

variable {α β : Type} {session current : Session}

/-- A stage that is served as an attempt goes, and leaves the session as it is. -/
def Serves (session current : Session) (stage : Stage α) (attempt : Attempt α) : Prop :=
  (stage.run.run current).servedBy session =
    attempt.run.andThen fun result => .done (result, current)

theorem servedBy_andThen (session : Session) (plan : Plan α) (next : α → Plan β) :
    (plan.andThen next).servedBy session =
      (plan.servedBy session).andThen fun result => (next result).servedBy session := by
  induction plan with
  | done result => rfl
  | ask call resume inductionHypothesis =>
      rw [Plan.andThen, Plan.servedBy, Plan.servedBy, Action.andThen_assoc]
      congr 1
      funext answer
      exact inductionHypothesis answer

theorem run_bind (stage : Stage α) (next : α → Stage β) (current : Session) :
    (stage >>= next).run.run current = (stage.run.run current).andThen fun
      | (.ok result, current) => (next result).run.run current
      | (.error failure, current) => .done (.error failure, current) := by
  show (stage.run.run current).andThen _ = (stage.run.run current).andThen _
  congr 1
  funext ⟨result, current⟩
  cases result <;> rfl

theorem serves_pure (result : α) : Serves session current (pure result) (pure result) := rfl

theorem serves_bind
    {stage : Stage α}
    {attempt : Attempt α}
    {next : α → Stage β}
    {follow : α → Attempt β}
    (first : Serves session current stage attempt)
    (second : ∀ result, Serves session current (next result) (follow result)) :
    Serves session current (stage >>= next) (attempt >>= follow) := by
  unfold Serves at first ⊢
  rw [run_bind, servedBy_andThen, first, Attempt.run_bind, Action.andThen_assoc,
    Action.andThen_assoc]
  congr 1
  funext result
  cases result with
  | ok result => exact second result
  | error failure => rfl

theorem serves_get
    {next : Session → Stage β}
    {attempt : Attempt β}
    (rest : Serves session current (next current) attempt) :
    Serves session current (get >>= next) attempt :=
  rest

theorem serves_always (request : Request) :
    Serves session current (calling (.host request) .ok)
      (Attempt.always (Action.request request)) :=
  rfl

theorem serves_makeDirectories (path : Path) :
    Serves session current (makeDirectories path)
      (Attempt.orFail .workDirectory (.makeDirectories path)) := by
  show Action.ask _ _ = Action.ask _ _
  congr 1
  funext answer
  cases answer <;> rfl

theorem serves_makeScoped (parent : Option Path) (stem : String) :
    Serves session current (makeScoped parent stem)
      (Attempt.orFail .workDirectory (.makeScoped parent stem)) := by
  show Action.ask _ _ = Action.ask _ _
  congr 1
  funext answer
  cases answer <;> rfl

theorem serves_prepare (subject : String) (directory : Path) :
    Serves session current (prepare subject directory) (session.preparer subject directory) :=
  rfl

theorem serves_execute (probe : Probe) (directory : Path) :
    Serves session current (execute probe directory) (session.executor probe directory) :=
  rfl

theorem serves_emitAll (diagnostics : List Diagnostic) :
    Serves session current (emitAll diagnostics)
      (Attempt.always (session.sink.emitAll diagnostics)) := by
  induction diagnostics with
  | nil => rfl
  | cons diagnostic diagnostics inductionHypothesis =>
      unfold Serves at inductionHypothesis ⊢
      rw [emitAll, run_bind, servedBy_andThen]
      show ((session.sink diagnostic).andThen fun _ => Action.done _).andThen _ =
        (((session.sink diagnostic).andThen fun _ =>
          Action.forEach diagnostics session.sink).andThen _).andThen _
      rw [Action.andThen_assoc, Action.andThen_assoc, Action.andThen_assoc]
      congr 1
      funext _
      exact inductionHypothesis.trans (Action.andThen_assoc _ _ _)

theorem serves_lastly
    {stage : Stage α}
    {attempt : Attempt α}
    (first : Serves session current stage attempt)
    (path : Path) :
    Serves session current (stage.lastly (.host (.removeTree path)))
      (attempt.thenAlways (.removeTree path)) := by
  unfold Serves at first ⊢
  show (((stage.run.run current).andThen _).servedBy session) =
    (attempt.run.andThen _).andThen _
  rw [servedBy_andThen, first, Action.andThen_assoc, Action.andThen_assoc]
  rfl

end Stage

namespace Session

variable {session current : Session}

/-! ## Stages and the run -/

theorem serves_directoryStage (session current : Session) :
    Stage.Serves session current directoryStage
      (makeDirectory current.settings current.subject) := by
  have made (parent : Option Path) :
      Stage.Serves session current (Stage.makeScoped parent (directoryStem current.subject))
        (Attempt.orFail .workDirectory (.makeScoped parent (directoryStem current.subject))) :=
    Stage.serves_makeScoped parent _
  unfold directoryStage makeDirectory
  refine Stage.serves_get ?_
  dsimp only
  cases current.settings.workRoot with
  | none =>
      refine Stage.serves_bind (made _) fun directory => ?_
      split
      · exact Stage.serves_bind (Stage.serves_always _) fun _ => Stage.serves_pure _
      · exact Stage.serves_pure _
  | some root =>
      refine Stage.serves_bind (Stage.serves_makeDirectories root) fun _ => ?_
      refine Stage.serves_bind (made _) fun directory => ?_
      split
      · exact Stage.serves_bind (Stage.serves_always _) fun _ => Stage.serves_pure _
      · exact Stage.serves_pure _

theorem serves_unreadyStage
    (sameSubject : current.subject = session.subject)
    (diagnostics : List Diagnostic)
    (start : Nat) :
    Stage.Serves session current (unreadyStage diagnostics start)
      (session.reportUnready diagnostics start) := by
  unfold unreadyStage reportUnready
  refine Stage.serves_get ?_
  rw [sameSubject]
  refine Stage.serves_bind (Stage.serves_always _) fun _ => ?_
  refine Stage.serves_bind (Stage.serves_emitAll _) fun _ => ?_
  exact Stage.serves_bind (Stage.serves_always _) fun _ => Stage.serves_pure _

theorem serves_probeStage
    (sameSubject : current.subject = session.subject)
    (probe : Probe)
    (directory : Path)
    (start : Nat) :
    Stage.Serves session current (probeStage probe directory start)
      (session.runProbe probe directory start) := by
  unfold probeStage runProbe
  refine Stage.serves_bind (Stage.serves_always _) fun _ => ?_
  refine Stage.serves_bind (Stage.serves_execute _ _) fun outcome => ?_
  unfold judgeStage
  refine Stage.serves_get ?_
  rw [sameSubject]
  dsimp only
  split
  · refine Stage.serves_bind (Stage.serves_always _) fun _ => ?_
    exact Stage.serves_bind (Stage.serves_always _) fun _ => Stage.serves_pure _
  · refine Stage.serves_bind (Stage.serves_always _) fun _ => ?_
    refine Stage.serves_bind (Stage.serves_emitAll _) fun _ => ?_
    exact Stage.serves_bind (Stage.serves_always _) fun _ => Stage.serves_pure _

theorem serves_insideStage
    (sameSubject : current.subject = session.subject)
    (probe : Probe)
    (directory : Path)
    (start : Nat) :
    Stage.Serves session current (insideStage probe directory start)
      (session.runInside probe directory start) := by
  unfold insideStage runInside
  refine Stage.serves_get ?_
  rw [sameSubject]
  refine Stage.serves_bind (Stage.serves_prepare _ _) fun readiness => ?_
  cases readiness with
  | ready => exact serves_probeStage sameSubject probe directory start
  | failed diagnostics => exact serves_unreadyStage sameSubject diagnostics start

theorem serves_directoryAndInside
    (sameSubject : current.subject = session.subject)
    (sameSettings : current.settings = session.settings)
    (probe : Probe)
    (start : Nat) :
    Stage.Serves session current (directoryAndInside probe start) (do
      let directory ← makeDirectory session.settings session.subject
      let inside := session.runInside probe directory start
      if session.settings.keepWorkdir then inside
      else inside.thenAlways (.removeTree directory)) := by
  unfold directoryAndInside
  refine Stage.serves_get ?_
  rw [← sameSettings, ← sameSubject]
  refine Stage.serves_bind (serves_directoryStage session current) fun directory => ?_
  have inside := serves_insideStage sameSubject probe directory start
  dsimp only
  split
  · exact inside
  · exact Stage.serves_lastly inside directory

/-- A session that has run already fails, with nothing asked and nothing changed. -/
theorem stepwise_of_consumed {session : Session} (consumed : session.consumed = true) :
    stepwise.run.run session = .done (.error (.consumed session.subject), session) := by
  obtain ⟨subject, assertions, settings, executor, preparer, sink, isConsumed⟩ := session
  cases consumed
  rfl

/-- A session that has not run yet is consumed and emptied before anything that
can fail. -/
theorem stepwise_of_fresh {session : Session} (fresh : session.consumed = false) :
    stepwise.run.run session = .ask (.host .clock) fun start =>
      (directoryAndInside session.probe start).run.run session.afterRun := by
  obtain ⟨subject, assertions, settings, executor, preparer, sink, isConsumed⟩ := session
  cases fresh
  rfl

/-- The stages of a run, served by the parts of the session, are the run, and
they leave the session that is left after it. -/
theorem stepwise_servedBy (session : Session) :
    ((stepwise.run.run session).servedBy session).within session.span =
      session.run.run.andThen fun result => .done (result, session.afterRun) := by
  cases consumed : session.consumed with
  | true =>
      rw [stepwise_of_consumed consumed, run, afterRun, if_pos consumed, if_pos consumed]
      rfl
  | false =>
      have isFresh : ¬session.consumed = true := by
        rw [consumed]
        exact Bool.false_ne_true
      have after : session.afterRun = { session with consumed := true, assertions := [] } := by
        rw [afterRun, if_neg isFresh]
      have sameSubject : session.afterRun.subject = session.subject := by rw [after]
      have sameSettings : session.afterRun.settings = session.settings := by rw [after]
      have attempted : ((stepwise.run.run session).servedBy session) =
          session.attempt.run.andThen fun result => .done (result, session.afterRun) := by
        rw [stepwise_of_fresh consumed]
        show Action.ask _ _ = Action.ask _ _
        congr 1
        funext start
        exact serves_directoryAndInside sameSubject sameSettings session.probe start
      rw [attempted, Action.within_andThen, run, if_neg isFresh]
      rfl

end Session

end InterfaceAudit
