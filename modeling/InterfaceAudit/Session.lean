import InterfaceAudit.Execution
import InterfaceAudit.Manifest
import InterfaceAudit.Preparation
import InterfaceAudit.Report
import InterfaceAudit.Settings
import InterfaceAudit.Sink

/-!
Contract: one subject, one probe, one run.

Owns:
- sessions, and the assertions recorded in them;
- the run: make a directory, prepare it, run the probe, judge the outcome;
- the rule that a session runs once, and that a run takes all that is recorded.

Does not own: the ways to prepare and to run, which a session is given.
-/

namespace InterfaceAudit

structure Session where
  subject : String
  assertions : List Assertion := []
  settings : Settings
  executor : Executor
  preparer : Preparer
  sink : Sink := Sink.logging
  consumed : Bool := false

namespace Session

def bundleOf (settings : Settings) : Bundle where
  installCommand := settings.installCommand
  timeoutSecs := settings.timeoutSecs

/-- A session that installs what the subject needs, and runs the probe as a
command, both as the settings say. -/
def start (subject : String) (settings : Settings) : Session where
  subject := subject
  settings := settings
  executor := Executor.command settings.entryCommand settings.timeoutSecs
  preparer := (bundleOf settings).prepare

/-- A session that replays the probe against a runtime. -/
def withRuntime (subject : String) (runtime : Runtime) : Session where
  subject := subject
  settings := {}
  executor := Executor.replay runtime
  preparer := Preparer.none

/-- Records an assertion behind those recorded before. -/
def push (session : Session) (assertion : Assertion) : Session :=
  { session with assertions := session.assertions ++ [assertion] }

def addRequire (session : Session) (name : String) : Session :=
  session.push (.require name)

def addConstant (session : Session) (name location : String) : Session :=
  session.push (.constant name location)

def addMethod (session : Session) (check : MethodCheck) : Session :=
  session.push (.method check)

/-- Records all assertions of a manifest, in order. Its subject is not looked
at. -/
def applyManifest (session : Session) (manifest : Manifest) : Session :=
  manifest.assertions.foldl push session

/-! ## The working directory -/

/-- A character of a subject as it appears in a directory name. -/
def nameChar (c : Char) : Char :=
  if c.isAlphanum || c == '_' then c else '-'

def directoryStem (subject : String) : String :=
  "surface-probe-" ++ String.ofList (subject.toList.map nameChar) ++ "-"

def event (level : Log.Level) (message : String) (fields : Log.Fields := []) : Log.Event where
  level := level
  target := "probe_harness::session"
  message := message
  fields := fields

def makeDirectory (settings : Settings) (subject : String) : Attempt Path := do
  match settings.workRoot with
  | none => pure ()
  | some root => Attempt.orFail .workDirectory (.makeDirectories root)
  let directory ← Attempt.orFail .workDirectory
    (.makeScoped settings.workRoot (directoryStem subject))
  if settings.keepWorkdir then
    Attempt.log (event .info "Keeping probe working directory"
      [("path", .text directory.shown)])
  return directory

/-! ## The run -/

def unreadyReport (subject : String) (diagnostics : List Diagnostic) (duration : Nat) :
    Report where
  subject := subject
  passed := false
  diagnostics := diagnostics
  environmentReady := false
  probeDigest := none
  exitCode := none
  durationMs := duration

def probeReport
    (subject : String)
    (probe : Probe)
    (outcome : Outcome)
    (verdict : Verdict)
    (duration : Nat) :
    Report where
  subject := subject
  passed := verdict.passed
  diagnostics := verdict.diagnostics
  environmentReady := true
  probeDigest := some probe.digest
  exitCode := outcome.exitCode
  durationMs := duration

/-- Passes on the diagnostics of a failed preparation. -/
def reportUnready (session : Session) (diagnostics : List Diagnostic) (start : Nat) :
    Attempt Report := do
  Attempt.log (event .warn "Environment preparation failed, skipping probe")
  Attempt.always (session.sink.emitAll diagnostics)
  let now ← Attempt.clock
  return unreadyReport session.subject diagnostics (now - start)

/-- Runs a probe in a prepared directory, and passes on what it reports. -/
def runProbe (session : Session) (probe : Probe) (directory : Path) (start : Nat) :
    Attempt Report := do
  Attempt.log (event .info "Running probe" [
    ("directives", .number probe.assertions.length),
    ("digest", .text probe.shortDigest)])
  let outcome ← session.executor probe directory
  let verdict := outcome.verdict
  if verdict.passed then
    Attempt.log (event .info "Probe passed")
  else
    Attempt.log (event .warn "Probe failed" [
      ("exit_code", .text (Failure.optionalNumber outcome.exitCode)),
      ("diagnostics", .number verdict.diagnostics.length)])
    Attempt.always (session.sink.emitAll verdict.diagnostics)
  let now ← Attempt.clock
  return probeReport session.subject probe outcome verdict (now - start)

def runInside (session : Session) (probe : Probe) (directory : Path) (start : Nat) :
    Attempt Report := do
  match ← session.preparer session.subject directory with
  | .failed diagnostics => session.reportUnready diagnostics start
  | .ready => session.runProbe probe directory start

/-- The probe of a session: its subject is loaded first. -/
def probe (session : Session) : Probe where
  assertions := .require session.subject :: session.assertions

/-- The one run of a session. The directory is removed at its end, unless the
settings keep it. -/
def attempt (session : Session) : Attempt Report := do
  let start ← Attempt.clock
  let directory ← makeDirectory session.settings session.subject
  let inside := session.runInside session.probe directory start
  if session.settings.keepWorkdir then inside
  else inside.thenAlways (.removeTree directory)

/-- The span that everything logged by a run happens in. -/
def span (session : Session) : Log.Span where
  name := "probe.session"
  target := "probe_harness::session"
  level := .info
  fields := [("subject", .text session.subject)]

/-- The session after a run: it has run, and holds no assertions. -/
def afterRun (session : Session) : Session :=
  if session.consumed then session else { session with consumed := true, assertions := [] }

/-- Runs a session. A second run fails and does nothing. -/
def run (session : Session) : Attempt Report :=
  if session.consumed then throw (.consumed session.subject)
  else ExceptT.mk (session.attempt.run.within session.span)

end Session

end InterfaceAudit
