import InterfaceAudit.Proofs.Host.Memory
import InterfaceAudit.Proofs.Session.WorkingDirectory

/-!
Contract: what a run leaves in the file system.

Owns:
- the three parts of a run that has a working directory, and the files between them;
- the law that a run leaves nothing but the directory that it is told to keep, where
  that directory stands, and which files it holds.

Does not own: how a host keeps files.
-/

namespace InterfaceAudit

namespace Session

open Contact

variable {σ : Type}

/-! ## The parts of a run -/

/-- A run that has a working directory opens it, stays in it, and ends it. -/
theorem services_stayed
    {session : Session}
    {root directory : Path}
    (isRoot : session.settings.workRoot = some root)
    {time : Nat}
    {inside : List Contact}
    {services : List Service}
    (isContacts : services.map Service.contact =
      clocked time :: (session.rootContacts ++ session.directoryContact (.ok directory) ::
        (session.keepContacts directory ++ inside ++ session.endContacts directory))) :
    ∃ opening visited ending,
      services = opening ++ visited ++ ending ∧
      opening.map Service.contact =
        (session.openingExchanges root time directory).map Exchange.contact ∧
      visited.map Service.contact = inside ∧
      ending.map Service.contact = (session.endExchanges directory).map Exchange.contact := by
  have isParts : services.map Service.contact =
      ((session.openingExchanges root time directory).map Exchange.contact ++ inside) ++
        (session.endExchanges directory).map Exchange.contact := by
    rw [isContacts, map_contact_openingExchanges isRoot, map_contact_endExchanges]
    simp only [List.cons_append, List.append_assoc]
  obtain ⟨early, ending, rfl, isEarly, isLate⟩ := List.map_eq_append_iff.mp isParts
  obtain ⟨opening, visited, rfl, isFirst, isSecond⟩ := List.map_eq_append_iff.mp isEarly
  exact ⟨opening, visited, ending, rfl, isFirst, isSecond, isLate⟩

/-- The working directory of a run on a host, where what happens up to the end
of the stay leads from a first state to a current one, and from there to a last. -/
structure Lodging
    (session : Session)
    {host : Host σ}
    (filing : Filing host)
    (root directory : Path)
    (first current last : σ) : Prop where
  /-- It stands right below the root, under a name that tells the subject. -/
  named : ∃ ending : String, (∀ c ∈ ending.toList, c.isAlphanum = true) ∧
    filing.locate directory = filing.locate root ++ [Utf8.ofString ("surface-probe-" ++
      String.ofList (session.subject.toList.map fun c =>
        if ('A' ≤ c ∧ c ≤ 'Z') ∨ ('a' ≤ c ∧ c ≤ 'z') ∨ ('0' ≤ c ∧ c ≤ '9') ∨ c = '_' then c
        else '-') ++ "-" ++ ending)]
  fresh : ∀ other, filing.locate directory <+: other → filing.files first other = none
  /-- It is there at the end of the stay. -/
  made : filing.files current (filing.locate directory) = some .directory
  /-- But for it, only directories on the way to the root have been made. -/
  grown : (filing.files first).GrownTo (filing.locate root)
    ((filing.files current).without (filing.locate directory))
  /-- Behind the stay it is removed with all it holds, unless it is kept. -/
  ended : filing.files last =
    if session.settings.keepWorkdir then filing.files current
    else (filing.files current).without (filing.locate directory)

/-- What a working directory holds at the end of the stay: the dependency file
if one is installed from, and the script if the directory was found ready and there
is something to run it. -/
structure Furnished
    (session : Session)
    (place : Location)
    (held : Files)
    (bundle : Option Bundle)
    (runtime? : Option Runtime)
    (line : List String)
    (wasReady : Prop) : Prop where
  gemfile : ∀ entry, held (place ++ [Utf8.ofString "Gemfile"]) = some entry ↔
    ∃ chosen, bundle = some chosen ∧ chosen.installCommand ≠ [] ∧
      entry = .file (Utf8.encode (chosen.gemfile session.subject).chars)
  script : ∀ entry, held (place ++ [Utf8.ofString "test.rb"]) = some entry ↔
    wasReady ∧ (runtime? ≠ none ∨ line ≠ []) ∧ entry = .file session.probe.bytes
  nothingElse : ∀ other, place <+: other → other ≠ place →
    other ≠ place ++ [Utf8.ofString "Gemfile"] → other ≠ place ++ [Utf8.ofString "test.rb"] →
      held other = none

/-- Where a stay wrote at most a dependency file and a script into an empty
directory, the directory holds these. -/
theorem furnished_of_written
    {session : Session}
    {locate : Path → Location}
    {directory : Path}
    (locate_child : ∀ name, IsPlainName name →
      locate (directory.child name) = locate directory ++ [Utf8.ofString name])
    {opened : Files}
    (isEmpty : ∀ other, locate directory <+: other → other ≠ locate directory →
      opened other = none)
    {bundle : Option Bundle}
    {runtime? : Option Runtime}
    {line : List String}
    {wasReady : Prop}
    {script? : Option Bytes}
    (isScript : ∀ text, script? = some text ↔
      wasReady ∧ Executor.text? runtime? line session.probe = some text) :
    session.Furnished (locate directory)
      (opened.after locate
        (((Preparer.text? bundle session.subject).map fun text =>
          (directory.child Bundle.fileName, text)).toList ++
        (script?.map fun text => (directory.child Executor.scriptName, text)).toList))
      bundle runtime? line wasReady := by
  have gemfileAt : locate (directory.child Bundle.fileName) =
      locate directory ++ [Utf8.ofString "Gemfile"] :=
    locate_child _ (by decide)
  have scriptAt : locate (directory.child Executor.scriptName) =
      locate directory ++ [Utf8.ofString "test.rb"] :=
    locate_child _ (by decide)
  have differ : locate directory ++ [Utf8.ofString "Gemfile"] ≠
      locate directory ++ [Utf8.ofString "test.rb"] := by
    intro same
    exact absurd (List.append_cancel_left same) (by decide)
  have isInside (name : Bytes) : opened (locate directory ++ [name]) = none :=
    isEmpty _ (List.prefix_append _ _) (by simp)
  refine ⟨fun entry => ?_, fun entry => ?_, fun other isBelow notIt notGemfile notScript => ?_⟩
  · rw [Files.after_append, Files.after_toList, Files.after_toList, gemfileAt, scriptAt,
      if_neg differ, if_pos rfl, isInside, Option.or_none, Option.map_eq_some_iff]
    simp only [Preparer.text?_eq_some_iff]
    constructor
    · rintro ⟨text, ⟨chosen, isBundle, installs, rfl⟩, rfl⟩
      exact ⟨chosen, isBundle, installs, rfl⟩
    · rintro ⟨chosen, isBundle, installs, rfl⟩
      exact ⟨_, ⟨chosen, isBundle, installs, rfl⟩, rfl⟩
  · rw [Files.after_append, Files.after_toList, Files.after_toList, gemfileAt, scriptAt,
      if_pos rfl, if_neg differ.symm, isInside, Option.or_none, Option.map_eq_some_iff]
    simp only [isScript, Executor.text?_eq_some_iff]
    constructor
    · rintro ⟨text, ⟨isReady, writes, rfl⟩, rfl⟩
      exact ⟨isReady, writes, rfl⟩
    · rintro ⟨isReady, writes, rfl⟩
      exact ⟨_, ⟨isReady, writes, rfl⟩, rfl⟩
  · rw [Files.after_append, Files.after_toList, Files.after_toList, gemfileAt, scriptAt,
      if_neg notScript, if_neg notGemfile]
    exact isEmpty other isBelow notIt

/-- A directory that is opened, worked in and ended is the working directory of
a run, and it is empty when the work in it begins. -/
theorem lodging_of_evolves
    {session : Session}
    {host : Host σ}
    (filing : Filing host)
    {root directory : Path}
    {time : Nat}
    {exchanges : List Exchange}
    {first between current last : σ}
    (opening : Evolves filing.locate (session.openingExchanges root time directory)
      (filing.files first) (filing.files between))
    (stay : Evolves filing.locate exchanges (filing.files between) (filing.files current))
    (staysIn : ∀ exchange ∈ exchanges, exchange.request.StaysIn directory)
    (ending : Evolves filing.locate (session.endExchanges directory) (filing.files current)
      (filing.files last)) :
    session.Lodging filing root directory first current last ∧
      ∀ other, filing.locate directory <+: other → other ≠ filing.locate directory →
        filing.files between other = none := by
  obtain ⟨ground, grown, ⟨random, isRandom, isPlace⟩, freshGround, isOpened⟩ :=
    files_opened opening
  have kept {other : Location}
      (isElsewhere : filing.locate directory <+: other → other = filing.locate directory) :
      filing.files current other = ground.put (filing.locate directory) .directory other := by
    rw [← isOpened]
    exact stay.eq_of_staysIn filing.locate_child staysIn isElsewhere
  have outside (other : Location) (isElsewhere : ¬filing.locate directory <+: other) :
      filing.files current other = ground other := by
    rw [kept fun isBelow => absurd isBelow isElsewhere]
    refine ground.put_of_ne ?_ _
    rintro rfl
    exact isElsewhere List.prefix_rfl
  refine ⟨⟨⟨random, isRandom, ?_⟩, fun other isBelow => grown.eq_none (freshGround other isBelow),
    ?_, grown.without freshGround outside, files_ended ending⟩, fun other isBelow notIt => ?_⟩
  · -- The name is plain whatever the subject is, so it cannot lead away from the root.
    rw [isPlace, filing.locate_child _ _ (isPlainName_directoryStem _ isRandom),
      ← funext nameChar_eq]
    rfl
  · rw [kept fun _ => rfl]
    exact ground.put_self _ _
  · rw [isOpened, ground.put_of_ne notIt]
    exact freshGround other isBelow

/-- A run that has a working directory makes it, works in it and ends it, and
leaves everything else alone. -/
theorem Stay.lodging
    {session : Session}
    {directory : Path}
    {inside : List Contact}
    {result : Except Failure Report}
    (stay : Stay session.subject session.probe directory inside result)
    (keepsIn : session.KeepsIn)
    {host : Host σ}
    (filing : Filing host)
    {root : Path}
    (isRoot : session.settings.workRoot = some root)
    {first last : σ}
    {services : List Service}
    (serving : session.Serving host first services last)
    {time : Nat}
    (isContacts : services.map Service.contact =
      clocked time :: (session.rootContacts ++ session.directoryContact (.ok directory) ::
        (session.keepContacts directory ++ inside ++ session.endContacts directory))) :
    ∃ early late current,
      services = early ++ late ∧
      late.map Service.contact = session.endContacts directory ∧
      session.Serving host first early current ∧
      session.Lodging filing root directory first current last ∧
      ∀ bundle runtime? line limit,
        session.preparer = Preparer.installing bundle →
        session.executor = Executor.executing runtime? line limit →
        (∀ service ∈ services, ∀ exchange ∈ service.exchanges, exchange.IsStored) →
        session.Furnished (filing.locate directory) (filing.files current) bundle runtime? line
          (prepared session.subject directory (.ok .ready) ∈ services.map Service.contact) := by
  obtain ⟨opening, visited, ending, rfl, isOpening, rfl, isEnding⟩ :=
    services_stayed isRoot isContacts
  obtain ⟨current, servingEarly, servingLate⟩ := serving.split
  obtain ⟨between, servingOpening, servingStay⟩ := servingEarly.split
  have stays := Stay.staysIn keepsIn servingStay.mem stay
  have staysIn : ∀ exchange ∈ visited.flatMap Service.exchanges,
      exchange.request.StaysIn directory :=
    List.forall_mem_flatMap.mpr fun service among => (stays service among).1
  have evolvesOpening := servingOpening.evolves filing
  rw [exchanges_of_hosts servingOpening.mem isOpening] at evolvesOpening
  have evolvesStay := servingStay.evolves filing
  have evolvesEnding := servingLate.evolves filing
  rw [exchanges_of_hosts servingLate.mem isEnding] at evolvesEnding
  obtain ⟨lodged, isEmpty⟩ := lodging_of_evolves filing evolvesOpening evolvesStay staysIn
    evolvesEnding
  refine ⟨opening ++ visited, ending, current, rfl, ?_, servingEarly, lodged,
    fun bundle runtime? line limit isPreparer isExecutor stored => ?_⟩
  · rw [isEnding, map_contact_endExchanges]
  · have storedStay : ∀ exchange ∈ visited.flatMap Service.exchanges, exchange.IsStored :=
      List.forall_mem_flatMap.mpr fun service among =>
        stored service (List.mem_append_left _ (List.mem_append_right _ among))
    obtain ⟨script?, isScript, isWrites⟩ := Stay.writes isPreparer isExecutor servingStay.mem
      (fun service among => (stays service among).2) stay
    -- Whether the directory was found ready shows in the visits, and these are made in the stay.
    have isReady : prepared session.subject directory (.ok .ready) ∈
        (opening ++ visited ++ ending).map Service.contact ↔
          prepared session.subject directory (.ok .ready) ∈ visited.map Service.contact := by
      have isVisit : (prepared session.subject directory (.ok .ready)).isVisit = true := rfl
      rw [← mem_visits isVisit, isContacts, visits_stayed, mem_visits isVisit]
    rw [evolvesStay.eq_after staysIn storedStay, isWrites, isReady]
    exact furnished_of_written (filing.locate_child directory) isEmpty isScript

/-! ## What a run leaves -/

/-- In the course of a stay no directory is made. -/
theorem Stay.directoryContact_not_mem
    {session : Session}
    {directory : Path}
    {contacts : List Contact}
    {result : Except Failure Report}
    (stay : Stay session.subject session.probe directory contacts result)
    (answer : Except IoFault Path) :
    session.directoryContact answer ∉ contacts := by
  intro member
  rcases stay.kinds _ member with ⟨_, isVisit⟩ | ⟨_, isVisit⟩ | ⟨_, isEmission⟩ |
    ⟨exchange, isRequest, leaves⟩
  · cases isVisit
  · cases isVisit
  · cases isEmission
  · obtain ⟨request, reply⟩ := exchange
    cases isRequest
    cases leaves

/-- A working directory that a run makes is the one that it stays in. -/
theorem Passage.stay_of_made
    {session : Session}
    {contacts : List Contact}
    {result : Except Failure Report}
    (passage : session.Passage contacts result)
    {directory : Path}
    (made : session.directoryContact (.ok directory) ∈ contacts) :
    ∃ time inside,
      Stay session.subject session.probe directory inside result ∧
      contacts = clocked time :: (session.rootContacts ++
        session.directoryContact (.ok directory) ::
          (session.keepContacts directory ++ inside ++ session.endContacts directory)) := by
  have notRoot : session.directoryContact (.ok directory) ∉ session.rootContacts := by
    unfold rootContacts
    cases session.settings.workRoot with
    | none => exact List.not_mem_nil
    | some root =>
        intro member
        cases List.mem_singleton.mp member
  cases passage with
  | consumed hasRun => cases made
  | rootless fresh time root fault isRoot =>
      rcases List.mem_cons.mp made with isClock | isRooting
      · cases isClock
      · cases List.mem_singleton.mp isRooting
  | homeless fresh time fault =>
      rcases List.mem_cons.mp made with isClock | made
      · cases isClock
      · rcases List.mem_append.mp made with isRooting | isRefusal
        · exact absurd isRooting notRoot
        · cases List.mem_singleton.mp isRefusal
  | stayed fresh time other stay =>
      rename_i inside
      have notKeeping : session.directoryContact (.ok directory) ∉ session.keepContacts other := by
        unfold keepContacts
        split
        · intro member
          cases List.mem_singleton.mp member
        · exact List.not_mem_nil
      have notEnding : session.directoryContact (.ok directory) ∉ session.endContacts other := by
        unfold endContacts
        split
        · exact List.not_mem_nil
        · intro member
          cases List.mem_singleton.mp member
      rcases List.mem_cons.mp made with isClock | made
      · cases isClock
      · rcases List.mem_append.mp made with isRooting | made
        · exact absurd isRooting notRoot
        · rcases List.mem_cons.mp made with isMaking | made
          · cases isMaking
            exact ⟨time, inside, stay, rfl⟩
          · rcases List.mem_append.mp made with made | isEnding
            · rcases List.mem_append.mp made with isKeeping | isInside
              · exact absurd isKeeping notKeeping
              · exact absurd isInside (stay.directoryContact_not_mem _)
            · exact absurd isEnding notEnding

/-- A run that makes no working directory leaves nothing but directories on the
way to its root. -/
theorem Passage.grownTo_of_unmade
    {session : Session}
    {contacts : List Contact}
    {result : Except Failure Report}
    (passage : session.Passage contacts result)
    {host : Host σ}
    (filing : Filing host)
    {root : Path}
    (isRoot : session.settings.workRoot = some root)
    {first last : σ}
    {services : List Service}
    (serving : session.Serving host first services last)
    (isContacts : services.map Service.contact = contacts)
    (unmade : ∀ directory, session.directoryContact (.ok directory) ∉ contacts) :
    (filing.files first).GrownTo (filing.locate root) (filing.files last) := by
  have evolves {exchanges : List Exchange} (isExchanges : contacts = exchanges.map Exchange.contact) :
      Evolves filing.locate exchanges (filing.files first) (filing.files last) := by
    rw [← exchanges_of_hosts serving.mem (isContacts.trans isExchanges)]
    exact serving.evolves filing
  have rooted {time : Nat} {answer : Except IoFault Unit} {between : Files}
      (evolves : Evolves filing.locate [⟨.clock, time⟩, ⟨.makeDirectories root, answer⟩]
        (filing.files first) between) :
      (filing.files first).GrownTo (filing.locate root) between := by
    obtain ⟨start, clock, rooting⟩ := evolves_cons.mp evolves
    obtain ⟨ground, rooted, isEnd⟩ := evolves_cons.mp rooting
    rw [clock.eq_of_leavesFiles trivial] at rooted
    rw [evolves_nil.mp isEnd]
    cases rooted with
    | directoriesMade grown => exact grown
    | nothing _ leaves => cases leaves
  cases passage with
  | consumed hasRun =>
      have isExchanges : [] = ([] : List Exchange).map Exchange.contact := rfl
      rw [evolves_nil.mp (evolves isExchanges)]
      exact .refl _ _
  | rootless fresh time other fault isOther =>
      obtain rfl : root = other := Option.some.inj (isRoot.symm.trans isOther)
      have isExchanges : [clocked time, rootMade root (.error fault)] =
          List.map Exchange.contact
            [⟨.clock, time⟩, ⟨.makeDirectories root, (.error fault : Except IoFault Unit)⟩] := rfl
      exact rooted (evolves isExchanges)
  | homeless fresh time fault =>
      have isExchanges : clocked time ::
          (session.rootContacts ++ [session.directoryContact (.error fault)]) =
            List.map Exchange.contact
              ([⟨.clock, time⟩, ⟨.makeDirectories root, (.ok () : Except IoFault Unit)⟩] ++
                [⟨.makeScoped (some root) (directoryStem session.subject),
                  (.error fault : Except IoFault Path)⟩]) := by
        unfold rootContacts directoryContact
        rw [isRoot]
        rfl
      obtain ⟨ground, rooting, refusing⟩ := evolves_append.mp (evolves isExchanges)
      obtain ⟨between, refused, isEnd⟩ := evolves_cons.mp refusing
      rw [evolves_nil.mp isEnd]
      cases refused with
      | scopedRefused => exact rooted rooting
      | nothing _ leaves => cases leaves
  | stayed fresh time directory stay =>
      refine absurd ?_ (unmade directory)
      exact List.mem_cons_of_mem _ (List.mem_append_right _ List.mem_cons_self)

/-- A run leaves nothing in the file system but the working directory that it is
told to keep. Its root and what is missing above that may have been made, and
every directory that it makes stands right below the root, whatever the subject
is and however the run ends. -/
theorem working_directory_of_run
    (session : Session)
    (host : Host σ)
    (filing : Filing host)
    (state : σ)
    {root : Path}
    (isRoot : session.settings.workRoot = some root)
    (keepsIn : session.KeepsIn) :
    let last := (session.run.run.runOn host state).2
    let services := session.services host state
    let contacts := services.map Service.contact
    let before := filing.files state
    let after := filing.files last
    -- Where nothing is to be kept, or no directory was made.
    (session.settings.keepWorkdir = false → before.GrownTo (filing.locate root) after) ∧
    ((∀ directory, session.directoryContact (.ok directory) ∉ contacts) →
      before.GrownTo (filing.locate root) after) ∧
    -- Where a directory was made.
    ∀ directory, session.directoryContact (.ok directory) ∈ contacts →
      ∃ early late current,
        services = early ++ late ∧
        late.map Service.contact = session.endContacts directory ∧
        session.Serving (host.inside session.span) state early current ∧
        session.Lodging (filing.inside session.span) root directory state current last ∧
        (session.settings.keepWorkdir = true →
          after (filing.locate directory) = some .directory ∧
          before.GrownTo (filing.locate root) (after.without (filing.locate directory))) ∧
        -- What it holds in the end, if all that is written is stored.
        ∀ bundle runtime? line limit,
          session.preparer = Preparer.installing bundle →
          session.executor = Executor.executing runtime? line limit →
          (∀ exchange ∈ session.run.run.exchanges host state, exchange.IsStored) →
          session.Furnished (filing.locate directory) (filing.files current) bundle runtime? line
            (prepared session.subject directory (.ok .ready) ∈ contacts) := by
  intro last services contacts before after
  have serving : session.Serving (host.inside session.span) state services last :=
    session.serving_run host state
  have passage : session.Passage contacts (session.run.run.runOn host state).1 :=
    session.passage_services host state
  have storing (stored : ∀ exchange ∈ session.run.run.exchanges host state, exchange.IsStored) :
      ∀ service ∈ services, ∀ exchange ∈ service.exchanges, exchange.IsStored := by
    intro service member exchange among
    refine Exchange.isStored_within.mp (stored (exchange.within session.span) ?_)
    rw [exchanges_run]
    exact List.mem_map_of_mem (List.mem_flatMap.mpr ⟨service, member, among⟩)
  have unmade := passage.grownTo_of_unmade (filing.inside session.span) isRoot serving rfl
  refine ⟨fun removes => ?_, unmade, fun directory made => ?_⟩
  · by_cases made : ∃ directory, session.directoryContact (.ok directory) ∈ contacts
    · obtain ⟨directory, made⟩ := made
      obtain ⟨time, inside, stay, isContacts⟩ := passage.stay_of_made made
      obtain ⟨_, _, current, _, _, _, lodged, _⟩ :=
        stay.lodging keepsIn (filing.inside session.span) isRoot serving isContacts
      have isEnd := lodged.ended
      rw [removes] at isEnd
      show before.GrownTo _ (filing.files last)
      rw [show filing.files last = _ from isEnd]
      exact lodged.grown
    · exact unmade fun directory among => made ⟨directory, among⟩
  · obtain ⟨time, inside, stay, isContacts⟩ := passage.stay_of_made made
    obtain ⟨early, late, current, isWhole, isLate, isEarly, lodged, furnished⟩ :=
      stay.lodging keepsIn (filing.inside session.span) isRoot serving isContacts
    refine ⟨early, late, current, isWhole, isLate, isEarly, lodged, fun keeps => ?_,
      fun bundle runtime? line limit isPreparer isExecutor stored =>
        furnished bundle runtime? line limit isPreparer isExecutor (storing stored)⟩
    have isEnd : after = filing.files current := by
      have isEnd := lodged.ended
      rw [keeps] at isEnd
      exact isEnd
    rw [isEnd]
    exact ⟨lodged.made, lodged.grown⟩

/-- A session about a subject that steps up, which keeps its directory. -/
def steppingUp : Session :=
  .start "a/../b" { workRoot := some (.ofString "/w"), keepWorkdir := true }

/-- A run whose installation cannot be started fails, and leaves the directory
that it is told to keep, with a dependency file and without a script. A subject
that steps up stays where it is. -/
theorem working_directory_of_refused_installation :
    let place : Location := ["w", "surface-probe-a----b-000000"].map Utf8.ofString
    let ended := steppingUp.run.run.runOn Memory.host []
    let after := Memory.files ended.2
    steppingUp.settings.workRoot = some (.ofString "/w") ∧
      steppingUp.KeepsIn ∧
      ended.1 = .error (.commandNotFound "bundle") ∧
      after place = some .directory ∧
      (∃ text, after (place ++ [Utf8.ofString "Gemfile"]) = some (.file text)) ∧
      ∀ entry, after (place ++ [Utf8.ofString "test.rb"]) ≠ some entry := by
  intro place ended after
  have isPreparer : steppingUp.preparer =
      Preparer.installing (some (bundleOf steppingUp.settings)) := rfl
  have isExecutor : steppingUp.executor =
      Executor.executing none steppingUp.settings.entryCommand steppingUp.settings.timeoutSecs := rfl
  have keepsIn : steppingUp.KeepsIn := keepsIn_of_parts isPreparer isExecutor (.inl rfl)
  let directory := Memory.scopedPath (some (.ofString "/w")) (directoryStem "a/../b")
  have isPlace : Memory.filing.locate directory = place := by decide +kernel
  have isContacts : (steppingUp.services Memory.host []).map Service.contact =
      [clocked 0, rootMade (.ofString "/w") (.ok ()), steppingUp.directoryContact (.ok directory),
        logged (keepEvent directory),
        prepared "a/../b" directory (.error (.commandNotFound "bundle"))] := by rfl
  have made : steppingUp.directoryContact (.ok directory) ∈
      (steppingUp.services Memory.host []).map Service.contact := by
    rw [isContacts]
    exact .tail _ (.tail _ (.head _))
  have law := working_directory_of_run steppingUp Memory.host Memory.filing [] rfl keepsIn
  obtain ⟨_, _, current, _, _, _, lodged, kept, furnished⟩ := law.2.2 directory made
  have isAfter : after = Memory.files current := lodged.ended
  have stored : ∀ exchange ∈ steppingUp.run.run.exchanges Memory.host [], exchange.IsStored := by
    decide +kernel
  have holds := furnished _ _ _ _ isPreparer isExecutor stored
  rw [isPlace] at holds kept
  have hasGemfile := (holds.gemfile _).mpr ⟨_, rfl, by decide, rfl⟩
  have noScript (entry : Entry) :
      Memory.filing.files current (place ++ [Utf8.ofString "test.rb"]) ≠ some entry := by
    intro isScript
    have wasReady := ((holds.script entry).mp isScript).1
    rw [isContacts] at wasReady
    simp only [List.mem_cons, List.not_mem_nil] at wasReady
    rcases wasReady with isClock | isRooting | isMaking | isKeeping | isOther | isMore
    · cases isClock
    · cases isRooting
    · cases isMaking
    · cases isKeeping
    · cases isOther
    · exact isMore
  refine ⟨rfl, keepsIn, ?_, (kept rfl).1, ?_, ?_⟩
  · rfl
  · rw [isAfter]
    exact ⟨_, hasGemfile⟩
  · rw [isAfter]
    exact noScript

end Session

end InterfaceAudit
