import InterfaceAudit.Proofs.Session.Contacts

/-!
Contract: one run of a session, told in full.

Owns:
- the contacts of a run with their order, for every way in which they are
  answered, and the result that belongs to them;
- the proof that the stages of a run make these contacts and no others.

Does not own: what follows from a passage, or the parts that serve it.
-/

namespace InterfaceAudit

namespace Contact

def clocked (time : Nat) : Contact := ⟨.host .clock, time⟩

def logged (event : Log.Event) : Contact := ⟨.host (.log event), ()⟩

def rootMade (root : Path) (answer : Except IoFault Unit) : Contact :=
  ⟨.host (.makeDirectories root), answer⟩

def directoryMade (parent : Option Path) (stem : String) (answer : Except IoFault Path) :
    Contact :=
  ⟨.host (.makeScoped parent stem), answer⟩

def directoryRemoved (directory : Path) : Contact := ⟨.host (.removeTree directory), ()⟩

def prepared (subject : String) (directory : Path) (answer : Except Failure Readiness) : Contact :=
  ⟨.prepare subject directory, answer⟩

def executed (probe : Probe) (directory : Path) (answer : Except Failure Outcome) : Contact :=
  ⟨.execute probe directory, answer⟩

def emitted (diagnostic : Diagnostic) : Contact := ⟨.emit diagnostic, ()⟩

end Contact

namespace Session

open Contact

/-! ## Passages -/

def startEvent (probe : Probe) : Log.Event :=
  event .info "Running probe" [
    ("directives", .number probe.assertions.length),
    ("digest", .text probe.shortDigest)]

def keepEvent (directory : Path) : Log.Event :=
  event .info "Keeping probe working directory" [("path", .text directory.shown)]

/-- What happens in a working directory, and how it ends. -/
inductive Stay (subject : String) (probe : Probe) (directory : Path) :
    List Contact → Except Failure Report → Prop where
  /-- The preparation fails to be carried out. -/
  | unprepared (failure : Failure) :
      Stay subject probe directory
        [prepared subject directory (.error failure)] (.error failure)
  /-- The preparation finds that the directory is not ready. -/
  | unready (diagnostics : List Diagnostic) (warning : Log.Event) (now duration : Nat) :
      Stay subject probe directory
        (prepared subject directory (.ok (.failed diagnostics)) :: logged warning ::
          (diagnostics.map emitted ++ [clocked now]))
        (.ok (unreadyReport subject diagnostics duration))
  /-- The execution of the probe fails to be carried out. -/
  | unexecuted (failure : Failure) :
      Stay subject probe directory
        [prepared subject directory (.ok .ready), logged (startEvent probe),
          executed probe directory (.error failure)]
        (.error failure)
  /-- The probe ends, and there is a verdict on it. -/
  | judged (outcome : Outcome) (remark : Log.Event) (now duration : Nat) :
      Stay subject probe directory
        (prepared subject directory (.ok .ready) :: logged (startEvent probe) ::
          executed probe directory (.ok outcome) :: logged remark ::
            (outcome.verdict.diagnostics.map emitted ++ [clocked now]))
        (.ok (probeReport subject probe outcome outcome.verdict duration))

/-- The making of the directory for working directories, if there is to be one. -/
def rootContacts (session : Session) : List Contact :=
  (session.settings.workRoot.map fun root => rootMade root (.ok ())).toList

def directoryContact (session : Session) (answer : Except IoFault Path) : Contact :=
  directoryMade session.settings.workRoot (directoryStem session.subject) answer

/-- What is said about a working directory before anything happens in it. -/
def keepContacts (session : Session) (directory : Path) : List Contact :=
  if session.settings.keepWorkdir then [logged (keepEvent directory)] else []

/-- What is done about a working directory after everything has happened in it. -/
def endContacts (session : Session) (directory : Path) : List Contact :=
  if session.settings.keepWorkdir then [] else [directoryRemoved directory]

/-- The contacts of a run, and how it ends. -/
inductive Passage (session : Session) : List Contact → Except Failure Report → Prop where
  | consumed (hasRun : session.consumed = true) :
      Passage session [] (.error (.consumed session.subject))
  /-- The directory for working directories cannot be made. -/
  | rootless (fresh : session.consumed = false) (time : Nat) (root : Path) (fault : IoFault)
      (isRoot : session.settings.workRoot = some root) :
      Passage session [clocked time, rootMade root (.error fault)]
        (.error (.workDirectory fault))
  /-- The working directory cannot be made. -/
  | homeless (fresh : session.consumed = false) (time : Nat) (fault : IoFault) :
      Passage session
        (clocked time :: (session.rootContacts ++ [session.directoryContact (.error fault)]))
        (.error (.workDirectory fault))
  /-- The working directory is made, used, and removed unless it is kept. -/
  | stayed (fresh : session.consumed = false) (time : Nat) (directory : Path)
      {inside : List Contact} {result : Except Failure Report}
      (stay : Stay session.subject session.probe directory inside result) :
      Passage session
        (clocked time :: (session.rootContacts ++ session.directoryContact (.ok directory) ::
          (session.keepContacts directory ++ inside ++ session.endContacts directory)))
        result

end Session

/-! ## The contacts of a stage -/

namespace Stage

variable {α β : Type} {current : Session}

/-- A stage that leaves the session as it is, and whose contacts and result
satisfy the assertion. -/
def Makes (current : Session) (stage : Stage α)
    (post : List Contact → Except Failure α → Prop) : Prop :=
  (stage.run.run current).Leads fun contacts ended => ended.2 = current ∧ post contacts ended.1

theorem Makes.mono
    {stage : Stage α}
    {post weaker : List Contact → Except Failure α → Prop}
    (makes : Makes current stage post)
    (weaken : ∀ contacts result, post contacts result → weaker contacts result) :
    Makes current stage weaker :=
  Plan.Leads.mono makes fun _ _ holds => ⟨holds.1, weaken _ _ holds.2⟩

theorem makes_pure
    {value : α}
    {post : List Contact → Except Failure α → Prop}
    (holds : post [] (.ok value)) :
    Makes current (pure value) post :=
  ⟨rfl, holds⟩

theorem makes_get
    {next : Session → Stage α}
    {post : List Contact → Except Failure α → Prop}
    (rest : Makes current (next current) post) :
    Makes current (get >>= next) post :=
  rest

theorem makes_bind
    {stage : Stage β}
    {next : β → Stage α}
    {post : List Contact → Except Failure α → Prop}
    (first : Makes current stage fun contacts result =>
      match result with
      | .ok value => Makes current (next value) fun more final => post (contacts ++ more) final
      | .error failure => post contacts (.error failure)) :
    Makes current (stage >>= next) post := by
  unfold Makes at first ⊢
  rw [run_bind]
  refine Plan.leads_andThen (first.mono fun contacts ended holds => ?_)
  obtain ⟨result, after⟩ := ended
  obtain ⟨rfl, holds⟩ := holds
  cases result with
  | error failure =>
      refine ⟨rfl, ?_⟩
      rw [List.append_nil]
      exact holds
  | ok value => exact holds

/-- A call whose answer is not looked at for a failure. -/
theorem makes_telling
    {request : Request}
    {next : request.Answer → Stage α}
    {post : List Contact → Except Failure α → Prop}
    (rest : ∀ answer, Makes current (next answer) fun more final =>
      post (⟨.host request, answer⟩ :: more) final) :
    Makes current (calling (.host request) .ok >>= next) post :=
  makes_bind fun answer => ⟨rfl, rest answer⟩

theorem makes_emitAll
    {diagnostics : List Diagnostic}
    {next : Unit → Stage α}
    {post : List Contact → Except Failure α → Prop}
    (rest : Makes current (next ()) fun more final =>
      post (diagnostics.map Contact.emitted ++ more) final) :
    Makes current (emitAll diagnostics >>= next) post := by
  have emits : Makes current (emitAll diagnostics) fun contacts result =>
      contacts = diagnostics.map Contact.emitted ∧ result = .ok () := by
    clear rest
    induction diagnostics with
    | nil => exact makes_pure ⟨rfl, rfl⟩
    | cons diagnostic diagnostics inductionHypothesis =>
        refine makes_bind fun _ => ⟨rfl, ?_⟩
        refine inductionHypothesis.mono fun contacts result ⟨isList, isDone⟩ => ?_
        exact ⟨congrArg (List.cons _) isList, isDone⟩
  refine makes_bind (emits.mono fun contacts result ⟨isList, isDone⟩ => ?_)
  rw [isList, isDone]
  exact rest

/-- A last request is made behind a stage, and leaves its result as it is. -/
theorem makes_lastly
    {stage : Stage α}
    {request : Request}
    {post : List Contact → Except Failure α → Prop}
    (first : Makes current stage fun contacts result =>
      ∀ answer, post (contacts ++ [⟨.host request, answer⟩]) result) :
    Makes current (stage.lastly (.host request)) post :=
  Plan.leads_andThen (Plan.Leads.mono first fun _ _ holds answer => ⟨holds.1, holds.2 answer⟩)

end Stage

/-! ## The passage of a run -/

namespace Session

open Contact Stage

variable {current : Session}

theorem makes_unreadyStage (directory : Path) (probe : Probe) (diagnostics : List Diagnostic)
    (start : Nat) :
    Makes current (unreadyStage diagnostics start) fun contacts result =>
      Stay current.subject probe directory
        (prepared current.subject directory (.ok (.failed diagnostics)) :: contacts) result := by
  refine makes_get (makes_telling fun _ => makes_emitAll (makes_telling fun now => ?_))
  exact makes_pure (.unready diagnostics _ now _)

theorem diagnostics_of_passed {outcome : Outcome} (passed : outcome.verdict.passed = true) :
    outcome.verdict.diagnostics = [] := by
  unfold Outcome.verdict at passed ⊢
  cases succeeded : outcome.succeeded with
  | true => rfl
  | false =>
      rw [succeeded] at passed
      cases passed

theorem makes_judgeStage (directory : Path) (probe : Probe) (outcome : Outcome) (start : Nat) :
    Makes current (judgeStage probe outcome start) fun contacts result =>
      Stay current.subject probe directory
        (prepared current.subject directory (.ok .ready) :: logged (startEvent probe) ::
          executed probe directory (.ok outcome) :: contacts) result := by
  refine makes_get ?_
  dsimp only
  split
  case isTrue passed =>
    refine makes_telling fun _ => makes_telling fun now => makes_pure ?_
    have stay (remark : Log.Event) (duration : Nat) :
        Stay current.subject probe directory _ _ :=
      .judged outcome remark now duration
    -- What has passed has no diagnostics, so no emission is missing here.
    rw [diagnostics_of_passed passed] at stay
    exact stay _ _
  case isFalse failed =>
    refine makes_telling fun _ => makes_emitAll (makes_telling fun now => makes_pure ?_)
    exact .judged outcome _ now _

theorem makes_probeStage (probe : Probe) (directory : Path) (start : Nat) :
    Makes current (probeStage probe directory start) fun contacts result =>
      Stay current.subject probe directory
        (prepared current.subject directory (.ok .ready) :: contacts) result := by
  refine makes_telling fun _ => makes_bind fun answer => ⟨rfl, ?_⟩
  cases answer with
  | error failure => exact .unexecuted failure
  | ok outcome => exact makes_judgeStage directory probe outcome start

/-- Everything that happens in the working directory is a stay. -/
theorem makes_insideStage (current : Session) (probe : Probe) (directory : Path) (start : Nat) :
    Makes current (insideStage probe directory start) fun contacts result =>
      Stay current.subject probe directory contacts result := by
  refine makes_get (makes_bind fun answer => ⟨rfl, ?_⟩)
  cases answer with
  | error failure => exact .unprepared failure
  | ok readiness =>
      cases readiness with
      | failed diagnostics => exact makes_unreadyStage directory probe diagnostics start
      | ready => exact makes_probeStage probe directory start

/-- The making of the working directory: its root first, then the directory, and
a word about it if it is to be kept. -/
theorem makes_directoryStage :
    Makes current directoryStage fun contacts result =>
      (∃ root fault, current.settings.workRoot = some root ∧
        contacts = [rootMade root (.error fault)] ∧ result = .error (.workDirectory fault)) ∨
      (∃ fault, contacts = current.rootContacts ++ [current.directoryContact (.error fault)] ∧
        result = .error (.workDirectory fault)) ∨
      (∃ directory, contacts = current.rootContacts ++
          current.directoryContact (.ok directory) :: current.keepContacts directory ∧
        result = .ok directory) := by
  have named : Makes current (do
      let directory ← Stage.makeScoped current.settings.workRoot (directoryStem current.subject)
      if current.settings.keepWorkdir then
        Stage.log (event .info "Keeping probe working directory"
          [("path", .text directory.shown)])
      return directory) fun contacts result =>
        (∃ fault, contacts = [current.directoryContact (.error fault)] ∧
          result = .error (.workDirectory fault)) ∨
        (∃ directory, contacts =
            current.directoryContact (.ok directory) :: current.keepContacts directory ∧
          result = .ok directory) := by
    refine makes_bind fun answer => ⟨rfl, ?_⟩
    cases answer with
    | error fault => exact .inl ⟨fault, rfl, rfl⟩
    | ok directory =>
        dsimp only [Except.mapError]
        unfold keepContacts
        split
        · exact makes_telling fun _ => makes_pure (.inr ⟨directory, rfl, rfl⟩)
        · exact makes_pure (.inr ⟨directory, rfl, rfl⟩)
  refine makes_get ?_
  unfold rootContacts
  dsimp only
  cases isRoot : current.settings.workRoot with
  | none =>
      rw [isRoot] at named
      exact named.mono fun contacts result ended => .inr ended
  | some root =>
      rw [isRoot] at named
      refine makes_bind fun answer => ⟨rfl, ?_⟩
      cases answer with
      | error fault => exact .inl ⟨root, fault, rfl, rfl, rfl⟩
      | ok _ =>
          refine named.mono fun contacts result ended => .inr ?_
          rcases ended with ⟨fault, isList, isResult⟩ | ⟨directory, isList, isResult⟩
          · exact .inl ⟨fault, congrArg (List.cons _) isList, isResult⟩
          · exact .inr ⟨directory, congrArg (List.cons _) isList, isResult⟩

theorem makes_directoryAndInside (current : Session) (probe : Probe) (start : Nat) :
    Makes current (directoryAndInside probe start) fun contacts result =>
      (∃ root fault, current.settings.workRoot = some root ∧
        contacts = [rootMade root (.error fault)] ∧ result = .error (.workDirectory fault)) ∨
      (∃ fault, contacts = current.rootContacts ++ [current.directoryContact (.error fault)] ∧
        result = .error (.workDirectory fault)) ∨
      (∃ directory inside, Stay current.subject probe directory inside result ∧
        contacts = current.rootContacts ++ current.directoryContact (.ok directory) ::
          (current.keepContacts directory ++ inside ++ current.endContacts directory)) := by
  refine makes_get (makes_bind (makes_directoryStage.mono fun contacts result made => ?_))
  rcases made with ⟨root, fault, isRoot, rfl, rfl⟩ | ⟨fault, rfl, rfl⟩ | ⟨directory, rfl, rfl⟩
  · exact .inl ⟨root, fault, isRoot, rfl, rfl⟩
  · exact .inr (.inl ⟨fault, rfl, rfl⟩)
  · have inside := makes_insideStage current probe directory start
    have whole (inside ending : List Contact) :
        (current.rootContacts ++ current.directoryContact (.ok directory) ::
          current.keepContacts directory) ++ (inside ++ ending) =
        current.rootContacts ++ current.directoryContact (.ok directory) ::
          (current.keepContacts directory ++ inside ++ ending) := by
      simp only [List.append_assoc, List.cons_append]
    dsimp only
    unfold endContacts
    split
    · refine inside.mono fun more final stay => .inr (.inr ⟨directory, more, stay, ?_⟩)
      rw [← whole, List.append_nil]
    · refine makes_lastly (inside.mono fun more final stay answer => ?_)
      exact .inr (.inr ⟨directory, more, stay, whole more _⟩)

/-- The contacts of a run and its result are a passage, however they are
answered, and the session is left consumed and empty. -/
theorem leads_passage (session : Session) :
    (stepwise.run.run session).Leads fun contacts ended =>
      ended.2 = session.afterRun ∧ session.Passage contacts ended.1 := by
  cases consumed : session.consumed with
  | true =>
      rw [stepwise_of_consumed consumed]
      refine ⟨?_, .consumed consumed⟩
      rw [afterRun, if_pos consumed]
  | false =>
      have after : session.afterRun = { session with consumed := true, assertions := [] } := by
        rw [afterRun, consumed]
        rfl
      rw [stepwise_of_fresh consumed]
      intro start
      have made := makes_directoryAndInside session.afterRun session.probe start
      rw [after] at made ⊢
      refine Plan.Leads.mono made fun contacts ended holds => ⟨holds.1, ?_⟩
      rcases holds.2 with ⟨root, fault, isRoot, isList, isResult⟩ | ⟨fault, isList, isResult⟩ |
        ⟨directory, inside, stay, isList⟩
      · rw [isList, isResult]
        exact .rootless consumed start root fault isRoot
      · rw [isList, isResult]
        exact .homeless consumed start fault
      · rw [isList]
        exact .stayed consumed start directory stay

end Session

/-! ## What is reported -/

namespace Session

theorem Stay.diagnostics_of_passed
    {subject : String}
    {probe : Probe}
    {directory : Path}
    {contacts : List Contact}
    {report : Report}
    (stay : Stay subject probe directory contacts (.ok report))
    (passed : report.passed = true) :
    report.diagnostics = [] := by
  cases stay with
  | unready diagnostics warning now duration => cases passed
  | judged outcome remark now duration => exact Session.diagnostics_of_passed passed

/-- A run that passes reports nothing. -/
theorem Passage.diagnostics_of_passed
    {session : Session}
    {contacts : List Contact}
    {report : Report}
    (passage : session.Passage contacts (.ok report))
    (passed : report.passed = true) :
    report.diagnostics = [] := by
  cases passage with
  | stayed fresh time directory stay => exact stay.diagnostics_of_passed passed

end Session

def Contact.delivered : Contact → List Diagnostic
  | ⟨.emit diagnostic, _⟩ => [diagnostic]
  | _ => []

def reported : Except Failure Report → List Diagnostic
  | .ok report => report.diagnostics
  | .error _ => []

namespace Session

open Contact

theorem flatMap_delivered_emitted (diagnostics : List Diagnostic) :
    (diagnostics.map emitted).flatMap delivered = diagnostics := by
  rw [List.flatMap_map]
  exact List.flatMap_singleton' diagnostics

theorem Stay.delivered
    {subject : String}
    {probe : Probe}
    {directory : Path}
    {contacts : List Contact}
    {result : Except Failure Report}
    (stay : Stay subject probe directory contacts result) :
    contacts.flatMap Contact.delivered = reported result := by
  have emissions (diagnostics : List Diagnostic) (now : Nat) :
      (diagnostics.map emitted ++ [clocked now]).flatMap Contact.delivered = diagnostics := by
    rw [List.flatMap_append, flatMap_delivered_emitted]
    exact List.append_nil _
  cases stay with
  | unprepared failure => rfl
  | unready diagnostics warning now duration => exact emissions diagnostics now
  | unexecuted failure => rfl
  | judged outcome remark now duration => exact emissions outcome.verdict.diagnostics now

/-- A run passes on what it reports, in order, and nothing if it fails. -/
theorem Passage.delivered
    {session : Session}
    {contacts : List Contact}
    {result : Except Failure Report}
    (passage : session.Passage contacts result) :
    contacts.flatMap Contact.delivered = reported result := by
  have noRoot : session.rootContacts.flatMap Contact.delivered = [] := by
    unfold rootContacts
    cases session.settings.workRoot <;> rfl
  cases passage with
  | consumed hasRun => rfl
  | rootless fresh time root fault isRoot => rfl
  | homeless fresh time fault =>
      rw [List.flatMap_cons, List.flatMap_append, noRoot]
      rfl
  | stayed fresh time directory stay =>
      have noWord : (session.keepContacts directory).flatMap Contact.delivered = [] := by
        unfold keepContacts
        split <;> rfl
      have noEnd : (session.endContacts directory).flatMap Contact.delivered = [] := by
        unfold endContacts
        split <;> rfl
      rw [List.flatMap_cons, List.flatMap_append, List.flatMap_cons, List.flatMap_append,
        List.flatMap_append, noRoot, noWord, noEnd, stay.delivered, List.append_nil]
      rfl

end Session

end InterfaceAudit
