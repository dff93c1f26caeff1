import InterfaceAudit.Proofs.Host.Files
import InterfaceAudit.Proofs.Session.Course
import InterfaceAudit.Proofs.Session.Parts
import InterfaceAudit.Proofs.Session.Services

/-!
Contract: what becomes of files before, in and behind the stay in a working directory.

Owns:
- the name of a working directory, which is one plain name for every subject;
- files along services, which evolve by what is exchanged;
- the opening of a directory, sessions that stay in theirs, and its end;
- what is written during a stay.

Does not own: how a host keeps files, or what a whole run leaves.
-/

namespace InterfaceAudit

def Exchange.contact (exchange : Exchange) : Contact :=
  ⟨.host exchange.request, exchange.answer⟩

namespace Session

open Contact

variable {σ : Type}

/-! ## Names of working directories -/

/-- The characters of a subject that a directory name keeps, spelled out. -/
theorem nameChar_eq (c : Char) :
    nameChar c =
      if ('A' ≤ c ∧ c ≤ 'Z') ∨ ('a' ≤ c ∧ c ≤ 'z') ∨ ('0' ≤ c ∧ c ≤ '9') ∨ c = '_' then c
      else '-' := by
  have kept : (c.isAlphanum || c == '_') = true ↔
      ('A' ≤ c ∧ c ≤ 'Z') ∨ ('a' ≤ c ∧ c ≤ 'z') ∨ ('0' ≤ c ∧ c ≤ '9') ∨ c = '_' := by
    rw [Bool.or_eq_true, beq_iff_eq, isAlphanum_iff]
    simp only [or_assoc]
  unfold nameChar
  simp only [kept]

/-- A subject becomes part of one plain name, whatever it holds. -/
theorem isPlainName_directoryStem
    (subject : String)
    {ending : String}
    (isRandom : ∀ c ∈ ending.toList, c.isAlphanum = true) :
    IsPlainName (directoryStem subject ++ ending) := by
  have isSpelled (front mark : String) (middle : List Char) :
      (front ++ String.ofList middle ++ mark ++ ending).toList =
        front.toList ++ middle ++ mark.toList ++ ending.toList := by
    rw [String.toList_append, String.toList_append, String.toList_append, String.toList_ofList]
  have isList : (directoryStem subject ++ ending).toList =
      "surface-probe-".toList ++ subject.toList.map nameChar ++ "-".toList ++ ending.toList :=
    isSpelled "surface-probe-" "-" (subject.toList.map nameChar)
  -- It is longer than the names that stand for another directory.
  have isLong (other : String) (isShort : other.toList.length < 14) :
      directoryStem subject ++ ending ≠ other := by
    rintro rfl
    rw [isList] at isShort
    simp only [List.length_append] at isShort
    have prefixLength : "surface-probe-".toList.length = 14 := by decide
    omega
  refine ⟨isLong "" (by decide), isLong "." (by decide), isLong ".." (by decide), ?_⟩
  have isPlain : IsPlainName "surface-probe-" := by decide
  have isPlainDash : IsPlainName "-" := by decide
  have mapped (c : Char) : (nameChar c).isAlphanum = true ∨ nameChar c = '_' ∨ nameChar c = '-' ∨
      nameChar c = '.' := by
    unfold nameChar
    split
    case isTrue isKept =>
      rcases Bool.or_eq_true_iff.mp isKept with isAlphanum | isMark
      · exact .inl isAlphanum
      · exact .inr (.inl (beq_iff_eq.mp isMark))
    case isFalse isReplaced => exact .inr (.inr (.inl rfl))
  intro c member
  rw [isList] at member
  rcases List.mem_append.mp member with member | isEnding
  · rcases List.mem_append.mp member with member | isDash
    · rcases List.mem_append.mp member with isFixed | isMapped
      · exact isPlain.2.2.2 c isFixed
      · obtain ⟨original, _, rfl⟩ := List.mem_map.mp isMapped
        exact mapped original
    · exact isPlainDash.2.2.2 c isDash
  · exact .inl (isRandom c isEnding)

/-! ## The files along services -/

/-- Services that follow each other make the files of a host evolve by their exchanges. -/
theorem Serving.evolves
    {session : Session}
    {host : Host σ}
    {state last : σ}
    {services : List Service}
    (serving : session.Serving host state services last)
    (filing : Filing host) :
    Evolves filing.locate (services.flatMap Service.exchanges) (filing.files state)
      (filing.files last) := by
  induction serving with
  | nil state => exact .nil _
  | cons call rest inductionHypothesis =>
      exact evolves_append.mpr ⟨_, filing.evolves_runOn _ _, inductionHypothesis⟩

theorem Serving.split
    {session : Session}
    {host : Host σ}
    {state last : σ}
    {early late : List Service}
    (serving : session.Serving host state (early ++ late) last) :
    ∃ current, session.Serving host state early current ∧ session.Serving host current late last := by
  induction early generalizing state with
  | nil => exact ⟨state, .nil state, serving⟩
  | cons service early inductionHypothesis =>
      cases serving with
      | cons call rest =>
          obtain ⟨current, first, second⟩ := inductionHypothesis rest
          exact ⟨current, .cons call first, second⟩

/-- Services that are requests of the session itself are just these exchanges. -/
theorem exchanges_of_hosts
    {session : Session}
    {host : Host σ}
    {services : List Service}
    (served : ∀ service ∈ services, ∃ state, service = session.servedOn host service.call state)
    {exchanges : List Exchange}
    (isContacts : services.map Service.contact = exchanges.map Exchange.contact) :
    services.flatMap Service.exchanges = exchanges := by
  induction services generalizing exchanges with
  | nil =>
      rw [List.map_eq_nil_iff.mp isContacts.symm]
      rfl
  | cons service services inductionHypothesis =>
      obtain ⟨exchange, others, rfl, isContact, isRest⟩ := List.map_eq_cons_iff.mp isContacts.symm
      obtain ⟨first, rest⟩ := List.forall_mem_cons.mp served
      rw [List.flatMap_cons, exchanges_of_host first isContact.symm,
        inductionHypothesis rest isRest.symm]
      rfl

/-! ## Before anything happens in the directory -/

/-- The exchanges up to the making of a working directory below a root, and the
word about it. -/
def openingExchanges (session : Session) (root : Path) (time : Nat) (directory : Path) :
    List Exchange :=
  [⟨.clock, time⟩, ⟨.makeDirectories root, (.ok () : Except IoFault Unit)⟩,
    ⟨.makeScoped (some root) (directoryStem session.subject),
      (.ok directory : Except IoFault Path)⟩] ++
    if session.settings.keepWorkdir then [⟨.log (keepEvent directory), ()⟩] else []

theorem map_contact_openingExchanges
    {session : Session}
    {root : Path}
    (isRoot : session.settings.workRoot = some root)
    (time : Nat)
    (directory : Path) :
    (session.openingExchanges root time directory).map Exchange.contact =
      clocked time :: (session.rootContacts ++
        session.directoryContact (.ok directory) :: session.keepContacts directory) := by
  unfold rootContacts directoryContact keepContacts openingExchanges
  rw [isRoot]
  split <;> rfl

/-- A working directory is made right below the root, under a fresh name. -/
theorem files_opened
    {session : Session}
    {locate : Path → Location}
    {root directory : Path}
    {time : Nat}
    {before opened : Files}
    (evolves : Evolves locate (session.openingExchanges root time directory) before opened) :
    ∃ ground, before.GrownTo (locate root) ground ∧
      (∃ ending : String, (∀ c ∈ ending.toList, c.isAlphanum = true) ∧
        locate directory = locate (root.child (directoryStem session.subject ++ ending))) ∧
      (∀ other, locate directory <+: other → ground other = none) ∧
      opened = ground.put (locate directory) .directory := by
  obtain ⟨behind, making, word⟩ := evolves_append.mp evolves
  have isSame : opened = behind := by
    refine word.eq_of_leavesFiles ?_
    split
    · exact List.forall_mem_singleton.mpr trivial
    · exact List.forall_mem_nil _
  obtain ⟨start, clock, rooting⟩ := evolves_cons.mp making
  obtain ⟨ground, rooted, scoping⟩ := evolves_cons.mp rooting
  obtain ⟨last, made, isEnd⟩ := evolves_cons.mp scoping
  rw [isSame, evolves_nil.mp isEnd]
  rw [clock.eq_of_leavesFiles trivial] at rooted
  cases rooted with
  | nothing _ leaves => cases leaves
  | directoriesMade grown =>
      cases made with
      | nothing _ leaves => cases leaves
      | scopedMade named fresh => exact ⟨ground, grown, named root rfl, fresh, rfl⟩

/-! ## Inside the directory -/

/-- Everything in a stay is a visit to the directory, something passed on, or a
request that changes no files. -/
theorem Stay.kinds
    {subject : String}
    {probe : Probe}
    {directory : Path}
    {contacts : List Contact}
    {result : Except Failure Report}
    (stay : Stay subject probe directory contacts result) :
    ∀ contact ∈ contacts,
      (∃ answer, contact = prepared subject directory answer) ∨
      (∃ answer, contact = executed probe directory answer) ∨
      (∃ diagnostic, contact = emitted diagnostic) ∨
      ∃ exchange : Exchange, contact = exchange.contact ∧ exchange.request.LeavesFiles := by
  have note (event : Log.Event) :
      ∃ exchange : Exchange, logged event = exchange.contact ∧ exchange.request.LeavesFiles :=
    ⟨⟨.log event, ()⟩, rfl, trivial⟩
  have late (diagnostics : List Diagnostic) (now : Nat) :
      ∀ contact ∈ diagnostics.map emitted ++ [clocked now],
        (∃ diagnostic, contact = emitted diagnostic) ∨
        ∃ exchange : Exchange, contact = exchange.contact ∧ exchange.request.LeavesFiles := by
    intro contact member
    rcases List.mem_append.mp member with isEmission | isClock
    · obtain ⟨diagnostic, _, rfl⟩ := List.mem_map.mp isEmission
      exact .inl ⟨diagnostic, rfl⟩
    · rw [List.mem_singleton.mp isClock]
      exact .inr ⟨⟨.clock, now⟩, rfl, trivial⟩
  cases stay with
  | unprepared failure => exact List.forall_mem_singleton.mpr (.inl ⟨_, rfl⟩)
  | unready diagnostics warning now duration =>
      refine List.forall_mem_cons.mpr ⟨.inl ⟨_, rfl⟩, List.forall_mem_cons.mpr
        ⟨.inr (.inr (.inr (note _))), fun contact member => ?_⟩⟩
      exact .inr (.inr (late diagnostics now contact member))
  | unexecuted failure =>
      exact List.forall_mem_cons.mpr ⟨.inl ⟨_, rfl⟩, List.forall_mem_cons.mpr
        ⟨.inr (.inr (.inr (note _))), List.forall_mem_singleton.mpr (.inr (.inl ⟨_, rfl⟩))⟩⟩
  | judged outcome remark now duration =>
      refine List.forall_mem_cons.mpr ⟨.inl ⟨_, rfl⟩, List.forall_mem_cons.mpr
        ⟨.inr (.inr (.inr (note _))), List.forall_mem_cons.mpr ⟨.inr (.inl ⟨_, rfl⟩),
          List.forall_mem_cons.mpr ⟨.inr (.inr (.inr (note _))), fun contact member => ?_⟩⟩⟩⟩
      exact .inr (.inr (late outcome.verdict.diagnostics now contact member))

/-- Sessions whose parts stay in the directory that they are given, and whose
sink changes no files. -/
structure KeepsIn (session : Session) : Prop where
  preparer : ∀ subject directory, (session.preparer subject directory).run.StaysIn directory
  executor : ∀ probe directory, (session.executor probe directory).run.StaysIn directory
  sink : ∀ diagnostic, (session.sink diagnostic).Asks Request.LeavesFiles

/-- A sink that logs or collects changes no files. -/
theorem leavesFiles_of_sink
    {sink : Sink}
    (isSink : sink = Sink.logging ∨ sink = Sink.collecting)
    (diagnostic : Diagnostic) :
    (sink diagnostic).Asks Request.LeavesFiles := by
  obtain ⟨severity, text⟩ := diagnostic
  rcases isSink with rfl | rfl
  · cases severity <;> exact ⟨trivial, fun _ => trivial⟩
  · cases severity <;> exact ⟨trivial, fun _ => trivial⟩

/-- Every session of parts that are there stays in its directory. -/
theorem keepsIn_of_parts
    {session : Session}
    {bundle : Option Bundle}
    {runtime? : Option Runtime}
    {line : List String}
    {limit : UInt64}
    (isPreparer : session.preparer = Preparer.installing bundle)
    (isExecutor : session.executor = Executor.executing runtime? line limit)
    (isSink : session.sink = Sink.logging ∨ session.sink = Sink.collecting) :
    session.KeepsIn where
  preparer subject directory := by
    rw [isPreparer]
    exact Preparer.staysIn_installing bundle subject directory
  executor probe directory := by
    rw [isExecutor]
    exact Executor.staysIn_executing runtime? line limit probe directory
  sink := leavesFiles_of_sink isSink

/-- What is exchanged during a stay stays in the directory, and only visits write. -/
theorem Stay.staysIn
    {session : Session}
    (keepsIn : session.KeepsIn)
    {subject : String}
    {probe : Probe}
    {directory : Path}
    {result : Except Failure Report}
    {host : Host σ}
    {services : List Service}
    (served : ∀ service ∈ services, ∃ state, service = session.servedOn host service.call state)
    (stay : Stay subject probe directory (services.map Service.contact) result) :
    ∀ service ∈ services,
      (∀ exchange ∈ service.exchanges, exchange.request.StaysIn directory) ∧
      (service.contact.isVisit = false → writes service.exchanges = []) := by
  intro service member
  have unwritten {exchanges : List Exchange}
      (leave : ∀ exchange ∈ exchanges, exchange.request.LeavesFiles) :
      (∀ exchange ∈ exchanges, exchange.request.StaysIn directory) ∧ writes exchanges = [] :=
    ⟨fun exchange among => (leave exchange among).staysIn directory, writes_of_leavesFiles leave⟩
  rcases stay.kinds _ (List.mem_map_of_mem member) with ⟨answer, isPrepared⟩ |
    ⟨answer, isExecuted⟩ | ⟨diagnostic, isEmission⟩ | ⟨exchange, isRequest, leaves⟩
  · refine ⟨leads_of_served (served service member) isPrepared
      (keepsIn.preparer subject directory), fun isOther => ?_⟩
    rw [isPrepared] at isOther
    cases isOther
  · refine ⟨leads_of_served (served service member) isExecuted
      (keepsIn.executor probe directory), fun isOther => ?_⟩
    rw [isExecuted] at isOther
    cases isOther
  · have leave := leads_of_served (served service member) isEmission (keepsIn.sink diagnostic).leads
    exact ⟨(unwritten leave).1, fun _ => (unwritten leave).2⟩
  · have isSingle := exchanges_of_host (served service member) isRequest
    have leave : ∀ other ∈ service.exchanges, other.request.LeavesFiles := by
      rw [isSingle]
      exact List.forall_mem_singleton.mpr leaves
    exact ⟨(unwritten leave).1, fun _ => (unwritten leave).2⟩

/-- What is written during a stay with the parts of a session: the dependency
file, and the script if the directory is found ready. -/
theorem Stay.writes
    {session : Session}
    {bundle : Option Bundle}
    {runtime? : Option Runtime}
    {line : List String}
    {limit : UInt64}
    (isPreparer : session.preparer = Preparer.installing bundle)
    (isExecutor : session.executor = Executor.executing runtime? line limit)
    {directory : Path}
    {result : Except Failure Report}
    {host : Host σ}
    {services : List Service}
    (served : ∀ service ∈ services, ∃ state, service = session.servedOn host service.call state)
    (unwritten : ∀ service ∈ services, service.contact.isVisit = false →
      InterfaceAudit.writes service.exchanges = [])
    (stay : Stay session.subject session.probe directory (services.map Service.contact) result) :
    ∃ script? : Option Bytes,
      (∀ text, script? = some text ↔
        prepared session.subject directory (.ok .ready) ∈ services.map Service.contact ∧
          Executor.text? runtime? line session.probe = some text) ∧
      InterfaceAudit.writes (services.flatMap Service.exchanges) =
        ((Preparer.text? bundle session.subject).map fun text =>
          (directory.child Bundle.fileName, text)).toList ++
        (script?.map fun text => (directory.child Executor.scriptName, text)).toList := by
  -- Only visits write, so a stay writes what its visits write.
  have isShares : InterfaceAudit.writes (services.flatMap Service.exchanges) =
      (visiting services).flatMap fun service => InterfaceAudit.writes service.exchanges := by
    rw [flatMap_visiting unwritten]
    exact List.filterMap_flatMap
  have preparation {service : Service} (member : service ∈ services)
      {answer : Except Failure Readiness}
      (isPrepared : service.contact = prepared session.subject directory answer) :
      InterfaceAudit.writes service.exchanges =
        ((Preparer.text? bundle session.subject).map fun text =>
          (directory.child Bundle.fileName, text)).toList := by
    have leads := Preparer.writes_installing bundle session.subject directory
    rw [← isPreparer] at leads
    exact leads_of_served (served service member) isPrepared leads
  have execution {service : Service} (member : service ∈ services)
      {answer : Except Failure Outcome}
      (isExecuted : service.contact = executed session.probe directory answer) :
      InterfaceAudit.writes service.exchanges =
        ((Executor.text? runtime? line session.probe).map fun text =>
          (directory.child Executor.scriptName, text)).toList := by
    have leads := Executor.writes_executing runtime? line limit session.probe directory
    rw [← isExecutor] at leads
    exact leads_of_served (served service member) isExecuted leads
  have within {service : Service} (member : service ∈ visiting services) : service ∈ services :=
    (List.mem_filter.mp member).1
  have isVisit : (prepared session.subject directory (.ok .ready)).isVisit = true := rfl
  rw [isShares, ← mem_visits isVisit]
  rcases stay.outline.2 with ⟨answer, notReady, isVisits⟩ | ⟨answer, isVisits⟩
  · have isContacts := (map_contact_visiting services).trans isVisits
    obtain ⟨service, isVisiting, isPrepared⟩ := List.map_eq_singleton_iff.mp isContacts
    rw [isVisits]
    refine ⟨none, fun text => ⟨nofun, fun ⟨isReady, _⟩ => ?_⟩, ?_⟩
    · cases List.mem_singleton.mp isReady
      exact absurd rfl notReady
    · rw [isVisiting, List.flatMap_singleton,
        preparation (within (isVisiting ▸ List.mem_singleton_self service)) isPrepared]
      exact (List.append_nil _).symm
  · have isContacts := (map_contact_visiting services).trans isVisits
    obtain ⟨first, rest, isVisiting, isPrepared, isRest⟩ := List.map_eq_cons_iff.mp isContacts
    obtain ⟨second, rfl, isExecuted⟩ := List.map_eq_singleton_iff.mp isRest
    rw [isVisits]
    refine ⟨_, fun text => ⟨fun isText => ⟨List.mem_cons_self, isText⟩, And.right⟩, ?_⟩
    rw [isVisiting, List.flatMap_cons, List.flatMap_singleton,
      preparation (within (isVisiting ▸ List.mem_cons_self)) isPrepared,
      execution (within (isVisiting ▸ List.mem_cons_of_mem _ List.mem_cons_self)) isExecuted]

/-! ## Behind the stay -/

def endExchanges (session : Session) (directory : Path) : List Exchange :=
  if session.settings.keepWorkdir then [] else [⟨.removeTree directory, ()⟩]

theorem map_contact_endExchanges (session : Session) (directory : Path) :
    (session.endExchanges directory).map Exchange.contact = session.endContacts directory := by
  unfold endContacts endExchanges
  split <;> rfl

/-- The directory is removed with all it holds, unless it is kept. -/
theorem files_ended
    {session : Session}
    {locate : Path → Location}
    {directory : Path}
    {current last : Files}
    (evolves : Evolves locate (session.endExchanges directory) current last) :
    last = if session.settings.keepWorkdir then current else current.without (locate directory) := by
  unfold endExchanges at evolves
  split
  case isTrue keeps =>
    rw [if_pos keeps] at evolves
    exact evolves_nil.mp evolves
  case isFalse removes =>
    rw [if_neg removes] at evolves
    obtain ⟨between, removed, isEnd⟩ := evolves_cons.mp evolves
    rw [evolves_nil.mp isEnd]
    cases removed with
    | treeRemoved => rfl
    | nothing _ leaves => cases leaves

end Session

end InterfaceAudit
