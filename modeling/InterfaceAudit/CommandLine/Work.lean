import InterfaceAudit.CommandLine.Reading
import InterfaceAudit.Log.Filter
import InterfaceAudit.Log.Line
import InterfaceAudit.Manifest.Load
import InterfaceAudit.Session

/-!
Contract: carrying out tasks.

Owns:
- validation and rendering as actions;
- the wording of failures, each with what was being done;
- exit codes, and how events become lines.

Does not own: reading arguments, or any host.
-/

namespace InterfaceAudit.CommandLine

/-! ## Events -/

def event (level : Log.Level) (message : String) (fields : Log.Fields := []) : Log.Event where
  level := level
  target := "surface_probe"
  message := message
  fields := fields

/-- The filter of an order; `source` is the configured one. -/
def Order.filter (order : Order) (source : Option String) : Log.Filter :=
  Log.Filter.configured (if order.verbose then .debug else .info) source

def Order.line (order : Order) (event : Log.Event) : String :=
  if order.json then (Log.Line.json event).text else Log.Line.plain event

/-! ## Failures -/

/-- Why a task failed, and what was being done. -/
structure Trouble where
  doing : String
  failure : Failure ⊕ IoFault
deriving Repr

namespace Trouble

def texts (trouble : Trouble) : List String :=
  match trouble.failure with
  | .inl failure => failure.message :: failure.cause?.toList
  | .inr fault => [fault.message]

def isConfiguration (trouble : Trouble) : Bool :=
  match trouble.failure with
  | .inl failure => failure.isConfiguration
  | .inr _ => false

/-- The sentence about a trouble: what was being done, and every cause. -/
def message (trouble : Trouble) : String :=
  (if trouble.isConfiguration then "Configuration error: " else "") ++
    Text.joinWith ": " (trouble.doing :: trouble.texts)

end Trouble

abbrev Work (α : Type) := ExceptT Trouble Action α

namespace Work

/-- An attempt, with what it is for. -/
def doing {α : Type} (purpose : String) (attempt : Attempt α) : Work α :=
  ExceptT.mk (attempt.run.andThen fun
    | .ok result => .done (.ok result)
    | .error failure => .done (.error ⟨purpose, .inl failure⟩))

/-- A request that may fail, with what it is for. -/
def asking {α : Type} (purpose : String) (action : Action (Except IoFault α)) : Work α :=
  ExceptT.mk (action.andThen fun
    | .ok result => .done (.ok result)
    | .error fault => .done (.error ⟨purpose, .inr fault⟩))

def always {α : Type} (action : Action α) : Work α :=
  ExceptT.mk (action.andThen fun result => .done (.ok result))

def log (event : Log.Event) : Work Unit := always (.log event)

end Work

def loadManifest (path : Path) : Work Manifest :=
  Work.doing ("Failed to load manifest " ++ path.shown) (Manifest.load path)

/-! ## Validation -/

namespace Validation

def settings (validation : Validation) : Settings :=
  { (({} : Settings).withEntryCommandLine validation.entryCommand).withInstallCommandLine
      validation.installCommand with
    timeoutSecs := validation.timeout
    workRoot := validation.workRoot
    keepWorkdir := validation.keepWorkdir }

def bundle (validation : Validation) : Bundle :=
  { Session.bundleOf validation.settings with
    subjectPath := validation.subjectPath
    subjectVersion := validation.subjectVersion
    gems := validation.gems.map (fun name => { name := name }) }

def preparer (validation : Validation) : Preparer :=
  if validation.noBundle then Preparer.none else validation.bundle.prepare

def session (validation : Validation) (subject : String) (manifest : Manifest) : Session :=
  ({ Session.start subject validation.settings with preparer := validation.preparer } :
    Session).applyManifest manifest

def verdictEvent (subject : String) (report : Report) : Log.Event :=
  if report.passed then
    event .info "All checks passed" [
      ("subject", .text subject),
      ("duration_ms", .number report.durationMs)]
  else if !report.environmentReady then
    event .error "Environment preparation failed" [("subject", .text subject)]
  else
    event .error "Validation failed" [
      ("subject", .text subject),
      ("errors", .number report.errorCount),
      ("notes", .number report.noteCount)]

/-- Validates the subject of a manifest: whether all checks passed. -/
def work (validation : Validation) : Work Bool := do
  let manifest ← loadManifest validation.manifest
  let subject := validation.subject.getD manifest.subject
  Work.log (event .info "Validating" [
    ("subject", .text subject),
    ("directives", .number manifest.assertions.length)])
  let report ← Work.doing ("Failed to validate " ++ subject)
    (validation.session subject manifest).run
  if validation.reportJson then
    Work.always (.print (report.toJson.pretty ++ "\n"))
  Work.log (verdictEvent subject report)
  return report.passed

end Validation

/-! ## Rendering -/

namespace Rendering

/-- The probe of a manifest, as a session would run it. -/
def probe (manifest : Manifest) : Probe where
  assertions := .require manifest.subject :: manifest.assertions

/-- Prints a script, or writes it where it should go. -/
def deliver (rendering : Rendering) (probe : Probe) : Work Unit :=
  match rendering.output with
  | none => Work.always (.print probe.text)
  | some path => do
      Work.asking ("Failed to write " ++ path.shown) (.writeFile path probe.bytes)
      Work.log (event .info "Probe written" [
        ("path", .text path.shown),
        ("digest", .text probe.shortDigest)])

def work (rendering : Rendering) : Work Bool := do
  let manifest ← loadManifest rendering.manifest
  rendering.deliver (probe manifest)
  return true

end Rendering

/-! ## Exit codes -/

def Task.work : Task → Work Bool
  | .validate validation => validation.work
  | .render rendering => rendering.work

/-- Carries out a task. The exit code is 0 if all went well, 1 if a check did
not pass, and 2 if there was trouble, which is logged. -/
def Task.perform (task : Task) : Action Nat :=
  task.work.run.andThen fun
    | .ok true => .done 0
    | .ok false => .done 1
    | .error trouble =>
        (Action.log (event .error trouble.message)).andThen fun _ => .done 2

/-! ## Without a task -/

/-- What the program says when it has no task: the exit code, the standard
output and the standard error. -/
structure Reply where
  code : Nat
  output : List String := []
  errors : List String := []
deriving DecidableEq, Repr

/-- The reply to arguments that hold no task. -/
def Halt.reply : Halt → Reply
  | .help none => { code := 0, output := programPage }
  | .help (some verb) => { code := 0, output := verb.page }
  | .version => { code := 0, output := [programName ++ " " ++ programVersion] }
  | .nothing => { code := 2, errors := programPage }
  | .misuse wrong => {
      code := 2
      errors := [
        "error: " ++ wrong.message,
        "",
        "For more information, try '--help'."] }

end InterfaceAudit.CommandLine
