import InterfaceAudit.Proofs.Session.Passage

/-!
Contract: the course of one run of a session, whatever happens around it.

Owns:
- the preparations and executions of one run, in all their possible courses, each
  with the end of the run that belongs to it;
- the order of a run, which passes nothing on before its last visit, and does
  nothing else but keep house.

Does not own: series of runs.
-/

namespace InterfaceAudit

/-- The visits of one run: none, a preparation, or a preparation that is ready
and one execution. -/
inductive IsCourse (subject : String) (probe : Probe) : List Contact → Prop where
  | idle : IsCourse subject probe []
  | prepared (directory : Path) (answer : Except Failure Readiness) :
      IsCourse subject probe [⟨.prepare subject directory, answer⟩]
  | executed (directory : Path) (answer : Except Failure Outcome) :
      IsCourse subject probe
        [⟨.prepare subject directory, (.ok .ready : Except Failure Readiness)⟩,
          ⟨.execute probe directory, answer⟩]

namespace Session

open Contact

/-- The visits of one run, and how it ends by them. -/
inductive Outline (subject : String) (probe : Probe) :
    List Contact → Except Failure Report → Prop where
  | consumed : Outline subject probe [] (.error (.consumed subject))
  | homeless (fault : IoFault) : Outline subject probe [] (.error (.workDirectory fault))
  | unprepared (directory : Path) (failure : Failure) :
      Outline subject probe [prepared subject directory (.error failure)] (.error failure)
  | unready (directory : Path) (diagnostics : List Diagnostic) (duration : Nat) :
      Outline subject probe [prepared subject directory (.ok (.failed diagnostics))]
        (.ok (unreadyReport subject diagnostics duration))
  | unexecuted (directory : Path) (failure : Failure) :
      Outline subject probe
        [prepared subject directory (.ok .ready), executed probe directory (.error failure)]
        (.error failure)
  | judged (directory : Path) (outcome : Outcome) (duration : Nat) :
      Outline subject probe
        [prepared subject directory (.ok .ready), executed probe directory (.ok outcome)]
        (.ok (probeReport subject probe outcome outcome.verdict duration))

theorem Outline.isCourse
    {subject : String}
    {probe : Probe}
    {visited : List Contact}
    {result : Except Failure Report}
    (outline : Outline subject probe visited result) :
    IsCourse subject probe visited := by
  cases outline with
  | consumed => exact .idle
  | homeless fault => exact .idle
  | unprepared directory failure => exact .prepared directory _
  | unready directory diagnostics duration => exact .prepared directory _
  | unexecuted directory failure => exact .executed directory _
  | judged directory outcome duration => exact .executed directory _

theorem visits_rootContacts (session : Session) : visits session.rootContacts = [] := by
  unfold rootContacts
  cases session.settings.workRoot <;> rfl

theorem visits_emitted (diagnostics : List Diagnostic) :
    visits (diagnostics.map emitted) = [] :=
  List.filter_eq_nil_iff.mpr fun contact member => by
    obtain ⟨diagnostic, _, rfl⟩ := List.mem_map.mp member
    exact Bool.false_ne_true

/-- Inside the directory there is a preparation first, and an execution only if
that is ready. -/
theorem Stay.outline
    {subject : String}
    {probe : Probe}
    {directory : Path}
    {contacts : List Contact}
    {result : Except Failure Report}
    (stay : Stay subject probe directory contacts result) :
    Outline subject probe (visits contacts) result ∧
      ((∃ answer, answer ≠ .ok .ready ∧
          visits contacts = [prepared subject directory answer]) ∨
        ∃ answer, visits contacts =
          [prepared subject directory (.ok .ready), executed probe directory answer]) := by
  have noVisit (diagnostics : List Diagnostic) (now : Nat) :
      visits (diagnostics.map emitted ++ [clocked now]) = [] := by
    rw [visits_append, visits_emitted]
    rfl
  cases stay with
  | unprepared failure => exact ⟨.unprepared directory failure, .inl ⟨.error failure, nofun, rfl⟩⟩
  | unready diagnostics warning now duration =>
      have visited : visits (prepared subject directory (.ok (.failed diagnostics)) ::
          logged warning :: (diagnostics.map emitted ++ [clocked now])) =
            [prepared subject directory (.ok (.failed diagnostics))] :=
        congrArg (List.cons _) (noVisit diagnostics now)
      rw [visited]
      exact ⟨.unready directory diagnostics duration, .inl ⟨.ok (.failed diagnostics), nofun, rfl⟩⟩
  | unexecuted failure => exact ⟨.unexecuted directory failure, .inr ⟨_, rfl⟩⟩
  | judged outcome remark now duration =>
      have visited : visits (prepared subject directory (.ok .ready) ::
          logged (startEvent probe) :: executed probe directory (.ok outcome) :: logged remark ::
            (outcome.verdict.diagnostics.map emitted ++ [clocked now])) =
            [prepared subject directory (.ok .ready), executed probe directory (.ok outcome)] :=
        congrArg (List.cons _) (congrArg (List.cons _) (noVisit outcome.verdict.diagnostics now))
      rw [visited]
      exact ⟨.judged directory outcome duration, .inr ⟨_, rfl⟩⟩

/-- The visits of a run are those that are made in its working directory. -/
theorem visits_stayed (session : Session) (time : Nat) (directory : Path) (inside : List Contact) :
    visits (clocked time :: (session.rootContacts ++
      session.directoryContact (.ok directory) ::
        (session.keepContacts directory ++ inside ++ session.endContacts directory))) =
      visits inside := by
  have noWord : visits (session.keepContacts directory) = [] := by
    unfold keepContacts
    split <;> rfl
  have noEnd : visits (session.endContacts directory) = [] := by
    unfold endContacts
    split <;> rfl
  show visits (session.rootContacts ++ ([session.directoryContact (.ok directory)] ++
    (session.keepContacts directory ++ inside ++ session.endContacts directory))) = _
  rw [visits_append, visits_append, visits_append, visits_append, visits_rootContacts, noWord,
    noEnd, List.append_nil]
  rfl

theorem Passage.outline
    {session : Session}
    {contacts : List Contact}
    {result : Except Failure Report}
    (passage : session.Passage contacts result) :
    Outline session.subject session.probe (visits contacts) result := by
  cases passage with
  | consumed hasRun => exact .consumed
  | rootless fresh time root fault isRoot => exact .homeless fault
  | homeless fresh time fault =>
      show Outline _ _ (visits (session.rootContacts ++ [_])) _
      rw [visits_append, visits_rootContacts]
      exact .homeless fault
  | stayed fresh time directory stay =>
      rw [visits_stayed]
      exact stay.outline.1

/-- A directory that is found ready is the one in which the probe is executed. -/
theorem Outline.executed_of_ready
    {subject : String}
    {probe : Probe}
    {visited : List Contact}
    {result : Except Failure Report}
    (outline : Outline subject probe visited result)
    {directory : Path}
    (isReady : prepared subject directory (.ok .ready) ∈ visited) :
    ∃ answer, executed probe directory answer ∈ visited := by
  cases outline with
  | consumed | homeless _ => cases isReady
  | unprepared _ _ | unready _ _ _ => cases List.mem_singleton.mp isReady
  | unexecuted other failure =>
      rcases List.mem_cons.mp isReady with isFirst | isSecond
      · cases isFirst
        exact ⟨_, List.mem_cons_of_mem _ List.mem_cons_self⟩
      · cases List.mem_singleton.mp isSecond
  | judged other outcome duration =>
      rcases List.mem_cons.mp isReady with isFirst | isSecond
      · cases isFirst
        exact ⟨_, List.mem_cons_of_mem _ List.mem_cons_self⟩
      · cases List.mem_singleton.mp isSecond

/-- The report of a probe that was executed holds its digest. -/
theorem Outline.digest_of_executed
    {subject : String}
    {probe : Probe}
    {visited : List Contact}
    {result : Except Failure Report}
    (outline : Outline subject probe visited result)
    {report : Report}
    (isOk : result = .ok report)
    {directory : Path}
    {answer : Except Failure Outcome}
    (isExecuted : executed probe directory answer ∈ visited) :
    report.probeDigest = some probe.digest := by
  cases outline with
  | consumed | homeless _ | unprepared _ _ | unexecuted _ _ => cases isOk
  | unready _ _ _ => cases List.mem_singleton.mp isExecuted
  | judged _ outcome duration =>
      cases isOk
      rfl

/-- A probe that is executed has been announced, with its digest. -/
theorem Stay.announced
    {subject : String}
    {probe : Probe}
    {directory : Path}
    {contacts : List Contact}
    {result : Except Failure Report}
    (stay : Stay subject probe directory contacts result)
    {other : Path}
    {answer : Except Failure Outcome}
    (isExecuted : executed probe other answer ∈ contacts) :
    other = directory ∧ logged (startEvent probe) ∈ contacts := by
  have notLate (diagnostics : List Diagnostic) (now : Nat) :
      executed probe other answer ∉ diagnostics.map emitted ++ [clocked now] := by
    intro isLate
    rcases List.mem_append.mp isLate with isEmission | isClock
    · obtain ⟨diagnostic, _, isEmission⟩ := List.mem_map.mp isEmission
      cases isEmission
    · cases List.mem_singleton.mp isClock
  have announcedAt (rest : List Contact) :
      logged (startEvent probe) ∈
        prepared subject directory (.ok .ready) :: logged (startEvent probe) :: rest :=
    List.mem_cons_of_mem _ List.mem_cons_self
  cases stay with
  | unprepared failure => cases List.mem_singleton.mp isExecuted
  | unready diagnostics warning now duration =>
      rcases List.mem_cons.mp isExecuted with isFirst | isExecuted
      · cases isFirst
      rcases List.mem_cons.mp isExecuted with isSecond | isLate
      · cases isSecond
      exact absurd isLate (notLate diagnostics now)
  | unexecuted failure =>
      refine ⟨?_, announcedAt _⟩
      rcases List.mem_cons.mp isExecuted with isFirst | isExecuted
      · cases isFirst
      rcases List.mem_cons.mp isExecuted with isSecond | isExecuted
      · cases isSecond
      cases List.mem_singleton.mp isExecuted
      rfl
  | judged outcome remark now duration =>
      refine ⟨?_, announcedAt _⟩
      rcases List.mem_cons.mp isExecuted with isFirst | isExecuted
      · cases isFirst
      rcases List.mem_cons.mp isExecuted with isSecond | isExecuted
      · cases isSecond
      rcases List.mem_cons.mp isExecuted with isThird | isExecuted
      · cases isThird
        rfl
      rcases List.mem_cons.mp isExecuted with isFourth | isLate
      · cases isFourth
      exact absurd isLate (notLate outcome.verdict.diagnostics now)

/-- A probe is executed in the working directory of the run, and has been
announced. -/
theorem Passage.announced
    {session : Session}
    {contacts : List Contact}
    {result : Except Failure Report}
    (passage : session.Passage contacts result)
    {directory : Path}
    {answer : Except Failure Outcome}
    (isExecuted : executed session.probe directory answer ∈ contacts) :
    session.directoryContact (.ok directory) ∈ contacts ∧
      logged (startEvent session.probe) ∈ contacts := by
  have isVisit : executed session.probe directory answer ∈ visits contacts :=
    List.mem_filter.mpr ⟨isExecuted, rfl⟩
  cases passage with
  | consumed hasRun => cases isExecuted
  | rootless fresh time root fault isRoot => cases isVisit
  | homeless fresh time fault =>
      have noVisit : visits (clocked time ::
          (session.rootContacts ++ [session.directoryContact (.error fault)])) = [] := by
        show visits (session.rootContacts ++ [_]) = []
        rw [visits_append, visits_rootContacts]
        rfl
      rw [noVisit] at isVisit
      cases isVisit
  | stayed fresh time other stay =>
      rw [visits_stayed] at isVisit
      obtain ⟨rfl, isLogged⟩ := stay.announced (List.mem_filter.mp isVisit).1
      refine ⟨?_, ?_⟩
      · exact List.mem_cons_of_mem _ (List.mem_append_right _ List.mem_cons_self)
      · refine List.mem_cons_of_mem _ (List.mem_append_right _ (List.mem_cons_of_mem _ ?_))
        exact List.mem_append_left _ (List.mem_append_right _ isLogged)

/-- The course of a run, however its calls are answered: the session is consumed
and emptied, and its probe holds the subject and what had been recorded. -/
theorem leads_stepwise (session : Session) :
    (stepwise.run.run session).Leads fun contacts ended =>
      ended.2 = session.afterRun ∧
        IsCourse session.subject session.probe (visits contacts) :=
  (leads_passage session).mono fun _ _ holds => ⟨holds.1, holds.2.outline.isCourse⟩

end Session

/-! ## The order of a run -/

/-- Whether a request only keeps the time, the log and the working directory. -/
def Request.IsHousekeeping : Request → Prop
  | .clock | .log _ | .makeDirectories _ | .makeScoped _ _ | .removeTree _ => True
  | _ => False

namespace Contact

/-- A request of the host that belongs to the keeping of time, log and directories. -/
def IsQuiet (contact : Contact) : Prop :=
  ∃ request answer, contact = ⟨.host request, answer⟩ ∧ request.IsHousekeeping

theorem quiet_clocked (time : Nat) : (clocked time).IsQuiet := ⟨_, _, rfl, trivial⟩

theorem quiet_logged (event : Log.Event) : (logged event).IsQuiet := ⟨_, _, rfl, trivial⟩

theorem IsQuiet.isVisit {contact : Contact} (quiet : contact.IsQuiet) :
    contact.isVisit = false := by
  obtain ⟨request, answer, rfl, _⟩ := quiet
  rfl

theorem IsQuiet.delivered {contact : Contact} (quiet : contact.IsQuiet) :
    contact.delivered = [] := by
  obtain ⟨request, answer, rfl, _⟩ := quiet
  rfl

theorem delivered_of_isVisit {contact : Contact} (isVisit : contact.isVisit = true) :
    contact.delivered = [] := by
  obtain ⟨call, answer⟩ := contact
  cases call with
  | prepare subject directory => rfl
  | execute probe directory => rfl
  | host request => rfl
  | emit diagnostic => cases isVisit

end Contact

namespace Session

open Contact

/-- Nothing is passed on before the last visit: a passage is made up of visits
and quiet contacts first, and of emissions and quiet contacts behind them. -/
structure IsStaged (contacts : List Contact) (early late : List Contact) : Prop where
  whole : contacts = early ++ late
  early : ∀ contact ∈ early, contact.isVisit = true ∨ contact.IsQuiet
  late : ∀ contact ∈ late, (∃ diagnostic, contact = emitted diagnostic) ∨ contact.IsQuiet

theorem late_emissions (diagnostics : List Diagnostic) (now : Nat) :
    ∀ contact ∈ diagnostics.map emitted ++ [clocked now],
      (∃ diagnostic, contact = emitted diagnostic) ∨ contact.IsQuiet := by
  intro contact member
  rcases List.mem_append.mp member with member | member
  · obtain ⟨diagnostic, _, rfl⟩ := List.mem_map.mp member
    exact .inl ⟨diagnostic, rfl⟩
  · rw [List.mem_singleton.mp member]
    exact .inr (quiet_clocked now)

theorem Stay.isStaged
    {subject : String}
    {probe : Probe}
    {directory : Path}
    {contacts : List Contact}
    {result : Except Failure Report}
    (stay : Stay subject probe directory contacts result) :
    ∃ early late, IsStaged contacts early late := by
  have visit (contact : Contact) (isVisit : contact.isVisit = true) :
      contact.isVisit = true ∨ contact.IsQuiet := .inl isVisit
  have note (event : Log.Event) : (logged event).isVisit = true ∨ (logged event).IsQuiet :=
    .inr (quiet_logged event)
  cases stay with
  | unprepared failure =>
      refine ⟨_, [], (List.append_nil _).symm, ?_, List.forall_mem_nil _⟩
      exact List.forall_mem_singleton.mpr (visit _ rfl)
  | unready diagnostics warning now duration =>
      refine ⟨[prepared subject directory (.ok (.failed diagnostics)), logged warning], _, rfl, ?_,
        late_emissions diagnostics now⟩
      exact List.forall_mem_cons.mpr ⟨visit _ rfl, List.forall_mem_singleton.mpr (note warning)⟩
  | unexecuted failure =>
      refine ⟨_, [], (List.append_nil _).symm, ?_, List.forall_mem_nil _⟩
      exact List.forall_mem_cons.mpr ⟨visit _ rfl, List.forall_mem_cons.mpr
        ⟨note _, List.forall_mem_singleton.mpr (visit _ rfl)⟩⟩
  | judged outcome remark now duration =>
      refine ⟨[prepared subject directory (.ok .ready), logged (startEvent probe),
        executed probe directory (.ok outcome), logged remark], _, rfl, ?_,
        late_emissions outcome.verdict.diagnostics now⟩
      exact List.forall_mem_cons.mpr ⟨visit _ rfl, List.forall_mem_cons.mpr
        ⟨note _, List.forall_mem_cons.mpr
          ⟨visit _ rfl, List.forall_mem_singleton.mpr (note remark)⟩⟩⟩

theorem Passage.isStaged
    {session : Session}
    {contacts : List Contact}
    {result : Except Failure Report}
    (passage : session.Passage contacts result) :
    ∃ early late, IsStaged contacts early late := by
  have quietRoot : ∀ contact ∈ session.rootContacts, contact.IsQuiet := by
    unfold rootContacts
    cases session.settings.workRoot with
    | none => exact List.forall_mem_nil _
    | some root => exact List.forall_mem_singleton.mpr ⟨_, _, rfl, trivial⟩
  have quietMaking (answer : Except IoFault Path) :
      (session.directoryContact answer).IsQuiet := ⟨_, _, rfl, trivial⟩
  cases passage with
  | consumed hasRun => exact ⟨[], [], rfl, List.forall_mem_nil _, List.forall_mem_nil _⟩
  | rootless fresh time root fault isRoot =>
      refine ⟨_, [], (List.append_nil _).symm, ?_, List.forall_mem_nil _⟩
      exact List.forall_mem_cons.mpr ⟨.inr (quiet_clocked time),
        List.forall_mem_singleton.mpr (.inr ⟨_, _, rfl, trivial⟩)⟩
  | homeless fresh time fault =>
      refine ⟨_, [], (List.append_nil _).symm, ?_, List.forall_mem_nil _⟩
      refine List.forall_mem_cons.mpr ⟨.inr (quiet_clocked time), ?_⟩
      exact List.forall_mem_append.mpr ⟨fun contact member => .inr (quietRoot contact member),
        List.forall_mem_singleton.mpr (.inr (quietMaking _))⟩
  | stayed fresh time directory stay =>
      obtain ⟨early, late, rfl, isEarly, isLate⟩ := stay.isStaged
      have quietWord : ∀ contact ∈ session.keepContacts directory, contact.IsQuiet := by
        unfold keepContacts
        split
        · exact List.forall_mem_singleton.mpr (quiet_logged _)
        · exact List.forall_mem_nil _
      have quietEnd : ∀ contact ∈ session.endContacts directory, contact.IsQuiet := by
        unfold endContacts
        split
        · exact List.forall_mem_nil _
        · exact List.forall_mem_singleton.mpr ⟨_, _, rfl, trivial⟩
      refine ⟨clocked time :: (session.rootContacts ++ session.directoryContact (.ok directory) ::
        (session.keepContacts directory ++ early)), late ++ session.endContacts directory,
        ?_, ?_, ?_⟩
      · simp only [List.append_assoc, List.cons_append]
      · refine List.forall_mem_cons.mpr ⟨.inr (quiet_clocked time), ?_⟩
        refine List.forall_mem_append.mpr
          ⟨fun contact member => .inr (quietRoot contact member), ?_⟩
        refine List.forall_mem_cons.mpr ⟨.inr (quietMaking _), ?_⟩
        exact List.forall_mem_append.mpr
          ⟨fun contact member => .inr (quietWord contact member), isEarly⟩
      · exact List.forall_mem_append.mpr
          ⟨isLate, fun contact member => .inr (quietEnd contact member)⟩

end Session

/-! ## What a course allows -/

theorem countP_visits
    {kind : Contact → Bool}
    (isVisit : ∀ contact, kind contact = true → contact.isVisit = true)
    (contacts : List Contact) :
    contacts.countP kind = (visits contacts).countP kind := by
  rw [visits, List.countP_filter]
  apply List.countP_congr
  intro contact _
  rw [Bool.and_eq_true]
  exact ⟨fun isKind => ⟨isKind, isVisit contact isKind⟩, fun both => both.1⟩

namespace IsCourse

variable {subject : String} {probe : Probe} {contacts : List Contact}

theorem countP_isPreparation (course : IsCourse subject probe (visits contacts)) :
    contacts.countP Contact.isPreparation ≤ 1 := by
  rw [countP_visits fun _ => Contact.isVisit_of_isPreparation]
  generalize visits contacts = visited at course
  cases course with
  | idle => exact Nat.zero_le 1
  | prepared directory answer => exact Nat.le_refl 1
  | executed directory answer => exact Nat.le_refl 1

theorem countP_isExecution (course : IsCourse subject probe (visits contacts)) :
    contacts.countP Contact.isExecution ≤ 1 := by
  rw [countP_visits fun _ => Contact.isVisit_of_isExecution]
  generalize visits contacts = visited at course
  cases course with
  | idle => exact Nat.zero_le 1
  | prepared directory answer => exact Nat.zero_le 1
  | executed directory answer => exact Nat.le_refl 1

/-- What is executed is the probe, in a directory that has been found ready. -/
theorem ready_before
    (course : IsCourse subject probe (visits contacts))
    {before after : List Contact}
    {executed : Probe}
    {directory : Path}
    {answer : Except Failure Outcome}
    (split : contacts = before ++ ⟨.execute executed directory, answer⟩ :: after) :
    executed = probe ∧
      ⟨.prepare subject directory, (.ok .ready : Except Failure Readiness)⟩ ∈ before := by
  have kept : visits contacts =
      visits before ++ ⟨.execute executed directory, answer⟩ :: visits after := by
    rw [split, visits_append]
    rfl
  have among : ∀ contact ∈ visits before, contact ∈ before := fun contact member =>
    (List.mem_filter.mp member).1
  rw [kept] at course
  generalize visits before = earlier at course among
  generalize visits after = later at course
  generalize whole : earlier ++ ⟨.execute executed directory, answer⟩ :: later = visited at course
  cases course with
  | idle => cases earlier <;> cases whole
  | prepared prepared readiness =>
      cases earlier with
      | nil => cases whole
      | cons first others => cases others <;> cases whole
  | executed prepared outcome =>
      cases earlier with
      | nil => cases whole
      | cons first others =>
          cases others with
          | nil =>
              cases whole
              exact ⟨rfl, among _ List.mem_cons_self⟩
          | cons second others => cases others <;> cases whole

end IsCourse

end InterfaceAudit
