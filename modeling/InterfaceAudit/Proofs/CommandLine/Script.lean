import InterfaceAudit.CommandLine.Work
import InterfaceAudit.Proofs.Session.Course
import InterfaceAudit.Proofs.Session.Parts
import InterfaceAudit.Proofs.Session.Recording
import InterfaceAudit.Proofs.Session.Services

/-!
Contract: the script that a validation executes and the script that is rendered.

Owns:
- the session of a validation, with any preparation, and with its command or a
  runtime to execute the probe;
- the law that both tasks make the same script of a manifest, byte by byte, and
  that its digest is what is reported and logged.

Does not own: what the script does.
-/

namespace InterfaceAudit

/-- What a request prints, as bytes. -/
def Request.toOutput : Request → Bytes
  | .print text => Utf8.ofString text
  | _ => []

def standardOutput (exchanges : List Exchange) : Bytes :=
  exchanges.flatMap fun exchange => exchange.request.toOutput

theorem standardOutput_print (text : String) (answer : Unit) :
    standardOutput [⟨.print text, answer⟩] = Utf8.ofString text :=
  List.append_nil _

/-- The script as text and the script as it is stored are the same bytes. -/
theorem Probe.ofString_text (probe : Probe) : Utf8.ofString probe.text = probe.bytes := by
  rw [Utf8.ofString, text, String.toList_ofList, bytes]

theorem standardOutput_append (first second : List Exchange) :
    standardOutput (first ++ second) = standardOutput first ++ standardOutput second :=
  List.flatMap_append

/-- A run writes what its services write. -/
theorem writes_run {σ : Type} (session : Session) (host : Host σ) (state : σ) :
    writes (session.run.run.exchanges host state) =
      (session.services host state).flatMap fun service => writes service.exchanges := by
  rw [Session.exchanges_run, writes_map_within]
  exact List.filterMap_flatMap ..

namespace CommandLine

variable {σ : Type}

/-! ## Work in sequence -/

/-- Work that follows other work is done only if that succeeds. -/
theorem Work.run_bind {α β : Type} (work : Work β) (next : β → Work α) :
    (work >>= next).run = work.run.andThen fun
      | .ok result => (next result).run
      | .error trouble => .done (.error trouble) := by
  show work.run.andThen _ = work.run.andThen _
  congr 1
  funext result
  cases result <;> rfl

/-- Loading a manifest reads a file, and does nothing else. -/
theorem leads_load (path : Path) :
    (Manifest.load path).run.Leads fun exchanges _ =>
      ∃ answer, exchanges = [⟨.readFile path, answer⟩] := by
  refine Attempt.leads_bind fun answer => ?_
  cases answer with
  | error fault => exact ⟨_, rfl⟩
  | ok content => exact ⟨_, rfl⟩

/-- Work on a manifest goes on with it if it loads. -/
theorem run_loadManifest {α : Type} (path : Path) (next : Manifest → Work α) :
    (loadManifest path >>= next).run = (Manifest.load path).run.andThen fun
      | .ok manifest => (next manifest).run
      | .error failure =>
          .done (.error ⟨"Failed to load manifest " ++ path.shown, .inl failure⟩) := by
  rw [Work.run_bind]
  show ((Manifest.load path).run.andThen _).andThen _ = _
  rw [Action.andThen_assoc]
  congr 1
  funext result
  cases result <;> rfl

/-- Saying what an attempt is for adds nothing to what it asks. -/
theorem exchanges_doing
    {α : Type}
    (purpose : String)
    (attempt : Attempt α)
    (host : Host σ)
    (state : σ) :
    (Work.doing purpose attempt).run.exchanges host state = attempt.run.exchanges host state := by
  show (attempt.run.andThen _).exchanges host state = _
  rw [Action.exchanges_andThen]
  cases (attempt.run.runOn host state).1 <;> exact List.append_nil _

/-! ## The two tasks -/

/-- The session of a validation of a manifest, with a preparation, and with a
runtime in the place of the command if there is one. -/
def Validation.sessionWith
    (validation : Validation)
    (manifest : Manifest)
    (preparer : Preparer)
    (runtime? : Option Runtime) :
    Session :=
  let session := validation.session (validation.subject.getD manifest.subject) manifest
  { session with
    preparer
    executor := (runtime?.map Executor.replay).getD session.executor }

def Validation.subjected (validation : Validation) (manifest : Manifest) : Manifest :=
  { manifest with subject := validation.subject.getD manifest.subject }

/-- The probe that is executed is the one that is rendered: what a validation
records one by one behind an empty list, and puts the subject in front of, is what
rendering puts behind the subject. -/
theorem probe_sessionWith
    (validation : Validation)
    (manifest : Manifest)
    (preparer : Preparer)
    (runtime? : Option Runtime) :
    (validation.sessionWith manifest preparer runtime?).probe =
      Rendering.probe (validation.subjected manifest) := by
  unfold Validation.sessionWith Validation.session
  rw [Session.applyManifest_eq]
  rfl

/-- With its own preparation and command it is the session of the validation. -/
theorem sessionWith_own (validation : Validation) (manifest : Manifest) :
    validation.sessionWith manifest validation.preparer none =
      validation.session (validation.subject.getD manifest.subject) manifest := by
  unfold Validation.sessionWith Validation.session
  rw [Session.applyManifest_eq]
  rfl

/-- A validation of a manifest that loads runs its session. -/
theorem Validation.work_of_loads
    (validation : Validation)
    (host : Host σ)
    (state : σ)
    {manifest : Manifest}
    (loads : ((Manifest.load validation.manifest).run.runOn host state).1 = .ok manifest) :
    ∃ before current after,
      validation.work.run.exchanges host state = before ++
        ((validation.sessionWith manifest validation.preparer none).run.run.exchanges host current ++
          after) := by
  have doing {α β : Type} (purpose : String) (attempt : Attempt β) (next : β → Work α)
      (current : σ) :
      ∃ after, (Work.doing purpose attempt >>= next).run.exchanges host current =
        attempt.run.exchanges host current ++ after := by
    rw [Work.run_bind, Action.exchanges_andThen, exchanges_doing]
    exact ⟨_, rfl⟩
  have logging {α : Type} (event : Log.Event) (next : Unit → Work α) (current : σ) :
      ∃ later, (Work.log event >>= next).run.exchanges host current =
        [⟨.log event, (host.answer (.log event) current).1⟩] ++
          (next ()).run.exchanges host later :=
    ⟨_, rfl⟩
  -- Behind the loading there is a word about the task, then the run, then the report.
  rw [sessionWith_own]
  unfold Validation.work
  rw [run_loadManifest, Action.exchanges_andThen, loads]
  dsimp only
  obtain ⟨current, isLogged⟩ := logging _ _ _
  rw [isLogged]
  obtain ⟨after, isRun⟩ := doing _ _ _ _
  rw [isRun]
  exact ⟨_, current, after, (List.append_assoc _ _ _).symm⟩

/-- Whatever executes the probe of a validation writes the script, once, and
nothing else. -/
theorem writes_execution
    (validation : Validation)
    (manifest : Manifest)
    (preparer : Preparer)
    (runtime? : Option Runtime)
    (isExecuted : runtime? = none → validation.settings.entryCommand ≠ [])
    (probe : Probe)
    (directory : Path) :
    ((validation.sessionWith manifest preparer runtime?).executor probe directory).run.Leads
      fun exchanges _ => writes exchanges = [(directory.child Executor.scriptName, probe.bytes)] := by
  cases runtime? with
  | some runtime => exact Executor.writes_replay runtime probe directory
  | none =>
      have isCommand : (validation.sessionWith manifest preparer none).executor =
          Executor.command validation.settings.entryCommand validation.settings.timeoutSecs := by
        unfold Validation.sessionWith Validation.session
        rw [Session.applyManifest_eq]
        rfl
      rw [isCommand]
      refine (Executor.leads_command _ _ probe directory).mono fun exchanges result course => ?_
      refine course.writes ?_
      cases isLine : validation.settings.entryCommand with
      | nil => exact absurd isLine (isExecuted rfl)
      | cons program arguments => exact nofun

/-- A script is delivered to the standard output, or to a file. -/
theorem Rendering.leads_deliver (rendering : Rendering) (probe : Probe) :
    (do rendering.deliver probe; return true : Work Bool).run.Leads fun exchanges _ =>
      (rendering.output = none → standardOutput exchanges = probe.bytes ∧ writes exchanges = []) ∧
      (∀ path, rendering.output = some path →
        standardOutput exchanges = [] ∧ writes exchanges = [(path, probe.bytes)]) := by
  rw [Work.run_bind]
  refine Action.leads_andThen ?_
  unfold Rendering.deliver
  cases rendering.output with
  | none =>
      intro answer
      refine ⟨fun _ => ⟨?_, rfl⟩, nofun⟩
      exact (standardOutput_print probe.text answer).trans probe.ofString_text
  | some path =>
      intro answer
      cases answer with
      | error fault =>
          refine ⟨nofun, fun other isPath => ?_⟩
          cases isPath
          exact ⟨rfl, rfl⟩
      | ok done =>
          intro _
          refine ⟨nofun, fun other isPath => ?_⟩
          cases isPath
          exact ⟨rfl, rfl⟩

/-- Rendering prints the script of a manifest that loads, or writes it where it
is told to. -/
theorem Rendering.work_of_loads
    (rendering : Rendering)
    (host : Host σ)
    (state : σ)
    {manifest : Manifest}
    (loads : ((Manifest.load rendering.manifest).run.runOn host state).1 = .ok manifest) :
    let script := (Rendering.probe manifest).bytes
    let exchanges := rendering.work.run.exchanges host state
    (rendering.output = none → standardOutput exchanges = script ∧ writes exchanges = []) ∧
    (∀ path, rendering.output = some path →
      standardOutput exchanges = [] ∧ writes exchanges = [(path, script)]) := by
  obtain ⟨answer, isRead⟩ := (leads_load rendering.manifest).runOn host state
  have delivered := (rendering.leads_deliver (Rendering.probe manifest)).runOn host
    ((Manifest.load rendering.manifest).run.runOn host state).2
  unfold Rendering.work
  rw [run_loadManifest, Action.exchanges_andThen, loads]
  dsimp only
  rw [standardOutput_append, writes_append, isRead]
  exact delivered

/-! ## The law of agreement -/

/-- A validation and a rendering agree on the script. Whenever the working directory
of a validation is found ready, with its own preparation or another, the probe is
executed there, by its command or by replay, and what is written is the script that
is rendered of the same manifest with the subject of the validation, byte by byte.
The report holds the SHA-256 digest of these bytes in lower-case
hexadecimal, and what is logged for the run are its first twelve digits. -/
theorem script_agrees_with_rendering
    (validation : Validation)
    (manifest : Manifest)
    (preparer : Preparer)
    (runtime? : Option Runtime)
    (host : Host σ)
    (state : σ) :
    let session := validation.sessionWith manifest preparer runtime?
    let contacts := (session.services host state).map Service.contact
    let rendered := validation.subjected manifest
    let script := (Rendering.probe rendered).bytes
    let digits := Sha256.hexDigest script
    -- The session is the one that a validation runs.
    (∀ (τ : Type) (other : Host τ) (current : τ),
      ((Manifest.load validation.manifest).run.runOn other current).1 = .ok manifest →
      ∃ before middle after,
        validation.work.run.exchanges other current = before ++
          ((validation.sessionWith manifest validation.preparer none).run.run.exchanges other
            middle ++ after)) ∧
    -- What it writes, reports and logs.
    (∀ directory, Contact.prepared session.subject directory (.ok .ready) ∈ contacts →
      session.directoryContact (.ok directory) ∈ contacts ∧
      (∃ service ∈ session.services host state, ∃ answer,
        service.contact = Contact.executed session.probe directory answer ∧
        ((runtime? = none → validation.settings.entryCommand ≠ []) →
          writes service.exchanges = [(directory.child Executor.scriptName, script)] ∧
          (directory.child Executor.scriptName, script) ∈
            writes (session.run.run.exchanges host state))) ∧
      (∀ report, (session.run.run.runOn host state).1 = .ok report →
        report.probeDigest = some (String.ofList digits)) ∧
      ⟨.log ((Session.event .info "Running probe" [
          ("directives", .number (manifest.assertions.length + 1)),
          ("digest", .text (String.ofList (digits.take 12)))]).within session.span), ()⟩ ∈
        session.run.run.exchanges host state) ∧
    digits.length = 64 ∧
    (∀ digit ∈ digits, digit ∈ "0123456789abcdef".toList) ∧
    -- What a rendering prints or writes.
    (∀ (rendering : Rendering) (τ : Type) (other : Host τ) (current : τ),
      ((Manifest.load rendering.manifest).run.runOn other current).1 = .ok rendered →
      let exchanges := rendering.work.run.exchanges other current
      (rendering.output = none → standardOutput exchanges = script ∧ writes exchanges = []) ∧
      (∀ path, rendering.output = some path →
        standardOutput exchanges = [] ∧ writes exchanges = [(path, script)])) := by
  intro session contacts rendered script digits
  have isProbe : session.probe = Rendering.probe rendered :=
    probe_sessionWith validation manifest preparer runtime?
  have passage := session.passage_services host state
  refine ⟨fun τ other current => validation.work_of_loads other current,
    fun directory isReady => ?_, Sha256.length_hexDigest _, Sha256.hexDigest_digits _,
    fun rendering τ other current => rendering.work_of_loads other current⟩
  have visited : Contact.prepared session.subject directory (.ok .ready) ∈ visits contacts :=
    List.mem_filter.mpr ⟨isReady, rfl⟩
  obtain ⟨answer, isExecuted⟩ := passage.outline.executed_of_ready visited
  obtain ⟨isMade, isLogged⟩ := passage.announced (List.mem_filter.mp isExecuted).1
  refine ⟨isMade, ?_, ?_, ?_⟩
  · obtain ⟨service, member, isContact⟩ := List.mem_map.mp (List.mem_filter.mp isExecuted).1
    refine ⟨service, member, answer, isContact, fun executes => ?_⟩
    have served := (session.serving_run host state).mem service member
    have written := Session.leads_of_served served isContact
      (writes_execution validation manifest preparer runtime? executes session.probe directory)
    rw [isProbe] at written
    refine ⟨written, ?_⟩
    rw [writes_run]
    exact List.mem_flatMap.mpr ⟨service, member, written ▸ List.mem_singleton_self _⟩
  · intro report isOk
    have isDigest := passage.outline.digest_of_executed isOk isExecuted
    rw [isProbe] at isDigest
    exact isDigest
  · have isAnnounced := session.logged_mem_exchanges host state isLogged
    rw [isProbe] at isAnnounced
    exact isAnnounced

end CommandLine

end InterfaceAudit
