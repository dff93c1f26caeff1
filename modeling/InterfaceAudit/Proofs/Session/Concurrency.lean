import InterfaceAudit.Proofs.Host.Interleaving
import InterfaceAudit.Proofs.Host.Memory
import InterfaceAudit.Proofs.Session.Tenancy

/-!
Contract: sessions that run at the same time and make their directories in the same
place.

Owns: the law that they do not interfere: whatever the order of their steps, none
changes what is in the directory of another, and each comes to what it comes to alone.

Does not own: sessions that make their directories in different places.
-/

namespace InterfaceAudit

namespace Session

variable {ι : Type} [DecidableEq ι] {ground : Ground} {own : ι → Circumstances}
  {sessions : ι → Session} {root? : Option Path} {initial files : Files}
  {trace : List (ι × Exchange)} {actions : ι → Action (Except Failure Report)}

/-- A step by which a session leaves the others in peace. -/
structure InPeace (ground : Ground) (root? : Option Path) (trace : List (ι × Exchange))
    (files : Files) (step : ι × Exchange) (after : Files) : Prop where
  /-- Nothing is removed, made or overwritten in the directory of another. -/
  spared : ∀ other, other ≠ step.1 → ∀ home, homeOf (exchangesOf other trace) = some home →
    ∀ place, ground.locate home <+: place → after place = files place
  /-- Outside its own directory a session makes missing directories on the way to the
  root, and nothing else. -/
  stayed : ∀ place,
    (∀ home, homeOf (exchangesOf step.1 trace) = some home ∨
        step.2.home (homeOf (exchangesOf step.1 trace)) = some home →
      ¬ground.locate home <+: place) →
    after place = files place ∨ Paved ground root? files after place
  /-- Where a session makes its directory, nothing stood. -/
  unspoilt : ∀ home, homeOf (exchangesOf step.1 trace) = none →
    step.2.home none = some home → ∀ place, ground.locate home <+: place → files place = none

/-- A session has come to what it comes to alone. -/
structure EndsAsAlone (ground : Ground) (own : Circumstances) (session : Session)
    (initial : Files) (exchanges : List Exchange) (result : Except Failure Report)
    (files : Files) : Prop where
  /-- With the same answers it ends in the same way alone. -/
  happens : ∃ after, Alone ground own session.run.run initial exchanges (.done result) after ∧
    kept ground exchanges after = kept ground exchanges files
  /-- However it runs alone, whatever the time is and whatever its directory is called,
  nothing but durations and that name differs. -/
  whenever : ∀ replies reply after,
    Alone ground own session.run.run initial replies (.done reply) after →
    (∀ first ∈ madeBy exchanges, ∀ second ∈ madeBy replies, own.TreatsAlike first second) →
    reply.map Report.undated = result.map Report.undated ∧
      sunk replies = sunk exchanges ∧
      kept ground replies after = kept ground exchanges files
  cleared : session.settings.keepWorkdir = false → homeOf exchanges = none

theorem inPeace_of_together
    {post : ι → Footing → Except Failure Report → Except Failure Report → Prop}
    {start further : ι → Action (Except Failure Report)}
    {footings : ι → Footing}
    {alones : ι → Files}
    {step : ι × Exchange}
    {after : Files}
    (together : Together ground own root? post start initial trace actions files footings alones)
    (moves : Moves ground own actions files step further after) :
    InPeace ground root? trace files step after := by
  cases moves with
  | goesOn isNext takes =>
      rename_i one request next answer
      have pair := together.paired one
      rw [isNext] at pair
      obtain ⟨later, _, passes, _, _⟩ := pair.moved takes
      have isFirst := pair.first
      have isLater : later.first = Exchange.home (homeOf (exchangesOf one trace))
          ⟨request, answer⟩ := by
        rw [passes.first, isFirst]
      refine ⟨fun other differs home isHome place isBelow => ?_, fun place isOutside => ?_,
        fun home isHomeless isNew place isBelow => ?_⟩
      · have isOther := (together.paired other).first.trans isHome
        exact together.untouched passes takes differs isOther isBelow
      · refine passes.frame takes fun directory isTheirs => isOutside directory ?_
        rwa [isFirst, isLater] at isTheirs
      · rw [isHomeless] at isFirst isLater
        rcases passes.home takes (isLater.trans isNew) with ⟨isHad, _⟩ | ⟨_, fresh, _⟩
        · rw [isFirst] at isHad
          cases isHad
        · exact fresh place isBelow

theorem endsAsAlone_of_paired
    {own : Circumstances}
    {session : Session}
    {exchanges : List Exchange}
    {result : Except Failure Report}
    {footing : Footing}
    {alone : Files}
    (isHomely : session.IsHomely)
    (paired : Paired ground own session.settings.workRoot session.RanAlike session.run.run initial
      exchanges (.done result) files footing alone) :
    EndsAsAlone ground own session initial exchanges result files := by
  obtain ⟨isAlone, alike, isFirst, isSecond, tallies, _⟩ := paired
  have sameKept : kept ground exchanges alone = kept ground exchanges files := by
    have inside := tallies.inside
    rw [isFirst, isSecond] at inside
    exact inside.symm
  refine ⟨⟨alone, isAlone, sameKept⟩, fun replies reply after aloneToo treats => ?_,
    fun removes => ?_⟩
  · have notLodged (first second : Path)
        (isLodged : Footing.start session.settings.workRoot = .lodged first second) :
        own.TreatsAlike first second := by
      have isHomeless := Footing.first_start session.settings.workRoot
      rw [isLodged] at isHomeless
      cases isHomeless
    obtain ⟨last, same, talliesLast, sameSunk, isHome, isHomeToo⟩ :=
      (alike_run isHomely).alone isAlone aloneToo (Footing.tallies_start initial) notLodged treats
    rw [Footing.first_start] at isHome
    rw [Footing.second_start] at isHomeToo
    have inside := talliesLast.inside
    rw [isHome, isHomeToo] at inside
    exact ⟨same.1.symm, sameSunk.symm, Eq.trans inside.symm sameKept⟩
  · cases alike with
    | done holds => exact isFirst.symm.trans (holds.2 removes)

/-- Sessions that make their directories in the same place do not interfere. Whatever
the order of their steps, each step leaves the others in peace, and every session that
has ended has come to what it comes to alone. -/
theorem sessions_do_not_interfere
    (isHomely : ∀ one, (sessions one).IsHomely)
    (sameRoot : ∀ one, (sessions one).settings.workRoot = root?)
    (interleaves : Interleaves ground own (fun one => (sessions one).run.run) initial trace actions
      files) :
    (∀ step further after, Moves ground own actions files step further after →
      InPeace ground root? trace files step after) ∧
    ∀ one result, actions one = .done result →
      EndsAsAlone ground (own one) (sessions one) initial (exchangesOf one trace) result files := by
  have alike (one : ι) : Alike root? (sessions one).RanAlike (.start root?)
      (sessions one).run.run (sessions one).run.run := by
    rw [← sameRoot one]
    exact alike_run (isHomely one)
  obtain ⟨footings, alones, together⟩ := interleaves.together alike
  refine ⟨fun step further after moves => inPeace_of_together together moves,
    fun one result hasEnded => ?_⟩
  have pair := together.paired one
  rw [hasEnded, ← sameRoot one] at pair
  exact endsAsAlone_of_paired (isHomely one) pair

/-! ## Two sessions about one subject -/

def plainGround : Ground where
  locate path := namesOf path.bytes
  locate_child path _ isPlain := namesOf_child path isPlain
  temporary := [Utf8.ofString "tmp"]

/-- Circumstances in which all is granted, and commands succeed without a word. -/
def calm : Circumstances where
  fault? _ := none
  blocked _ := .notUtf8
  store _ content _ := (.ok (), some (.file content))
  stored _ _ _ _ := rfl
  run _ files := (.ok (.finished (.exited 0) ⟨[], []⟩), files)
  runWithin _ _ files := (.ok (some (.finished (.exited 0) ⟨[], []⟩)), files)

def twinRoot : Path := .ofString "/w"

/-- Sessions about one subject, below one root that is still missing: one is to keep its
directory, the other is not. -/
def twin (keeps : Bool) : Session :=
  .start "json" { workRoot := some twinRoot, keepWorkdir := keeps }

def twinEnding (keeps : Bool) : String :=
  if keeps then "aaaaaa" else "bbbbbb"

def twinHome (keeps : Bool) : Path :=
  twinRoot.child (directoryStem "json" ++ twinEnding keeps)

theorem isAlphanum_twinEnding (keeps : Bool) :
    ∀ c ∈ (twinEnding keeps).toList, c.isAlphanum = true := by
  have areAlphanum : (twinEnding keeps).toList.all Char.isAlphanum = true := by
    cases keeps <;> decide
  exact List.all_eq_true.mp areAlphanum

theorem locate_twinHome (keeps : Bool) :
    plainGround.locate (twinHome keeps) =
      plainGround.locate twinRoot ++
        [Utf8.ofString (directoryStem "json" ++ twinEnding keeps)] := by
  cases keeps <;> decide +kernel

/-- Nothing but the top of a file system. -/
def bareFiles : Files := fun place =>
  if place = [] then some .directory else none

theorem isOpen_bareFiles (place : Location) : bareFiles.IsOpen place := by
  intro way _ content isFile
  unfold bareFiles at isFile
  split at isFile <;> cases isFile

/-- The files when both twins have made their root. -/
def rootedFiles : Files :=
  (bareFiles.grown (plainGround.locate twinRoot)).grown (plainGround.locate twinRoot)

theorem rootedFiles_root : rootedFiles (plainGround.locate twinRoot) = some .directory :=
  Files.grown_self (isOpen_bareFiles _).grown

theorem rootedFiles_below
    {keeps : Bool}
    {place : Location}
    (isBelow : plainGround.locate (twinHome keeps) <+: place) :
    rootedFiles place = none := by
  have isOff := Location.IsChild.not_isPrefix_base ⟨_, locate_twinHome keeps⟩ isBelow
  have isNotTop : place ≠ [] := by
    rintro rfl
    exact isOff List.nil_prefix
  unfold rootedFiles Files.grown
  rw [if_neg isOff, if_neg isOff]
  exact if_neg isNotTop

/-- The twins take turns, make directories of different names, and both pass. -/
theorem twins_interleave :
    ∃ trace actions files,
      Interleaves plainGround (fun _ => calm) (fun keeps => (twin keeps).run.run) bareFiles trace
        actions files ∧
      ∃ keeping removing, actions true = .done (.ok keeping) ∧
        actions false = .done (.ok removing) ∧
        keeping.passed = true ∧ removing.passed = true := by
  have areApart : plainGround.locate (twinHome true) ≠ plainGround.locate (twinHome false) := by
    decide +kernel
  let lodged := rootedFiles.put (plainGround.locate (twinHome true)) .directory
  have first : Takes plainGround calm
      ⟨.makeScoped (some twinRoot) (directoryStem "json"),
        (.ok (twinHome true) : Except IoFault Path)⟩ rootedFiles lodged :=
    .scopedMade ⟨rfl, rootedFiles_root⟩
      ⟨twinEnding true, isAlphanum_twinEnding true, locate_twinHome true⟩
      fun _ isBelow => rootedFiles_below isBelow
  have second : Takes plainGround calm
      ⟨.makeScoped (some twinRoot) (directoryStem "json"),
        (.ok (twinHome false) : Except IoFault Path)⟩
      lodged (lodged.put (plainGround.locate (twinHome false)) .directory) := by
    refine .scopedMade ⟨rfl, ?_⟩
      ⟨twinEnding false, isAlphanum_twinEnding false, locate_twinHome false⟩
      fun place isBelow => ?_
    · exact (Files.put_of_ne _ (by decide +kernel) _).trans rootedFiles_root
    · have differs : place ≠ plainGround.locate (twinHome true) := by
        rintro rfl
        exact areApart (Location.IsChild.eq_of_isPrefix ⟨_, locate_twinHome true⟩
          ⟨_, locate_twinHome false⟩ (List.prefix_refl _) isBelow)
      exact (Files.put_of_ne _ differs _).trans (rootedFiles_below isBelow)
  have run : Interleaves plainGround (fun _ => calm) (fun keeps => (twin keeps).run.run) bareFiles
    [] _ bareFiles := .begun
  -- The root is made twice, and two directories in it, of which one is mentioned.
  have run := run.next true rfl (.clocked 0 _)
  have run := run.next false rfl (.clocked 0 _)
  have run := run.next true rfl (.treeMade ⟨rfl, isOpen_bareFiles _⟩)
  have run := run.next false rfl (.treeMade ⟨rfl, (isOpen_bareFiles _).grown⟩)
  have run := run.next true rfl first
  have run := run.next false rfl second
  have run := run.next true rfl (.logged _ _)
  -- Both write their dependencies and install them.
  have run := run.next true rfl (.stored rfl)
  have run := run.next false rfl (.stored rfl)
  have run := run.next true rfl (.logged _ _)
  have run := run.next false rfl (.logged _ _)
  have run := run.next true rfl (.ranWithin rfl)
  have run := run.next false rfl (.ranWithin rfl)
  have run := run.next true rfl (.logged _ _)
  have run := run.next false rfl (.logged _ _)
  have run := run.next true rfl (.logged _ _)
  have run := run.next false rfl (.logged _ _)
  -- Both write their scripts and run them.
  have run := run.next true rfl (.stored rfl)
  have run := run.next false rfl (.stored rfl)
  have run := run.next true rfl (.clocked 0 _)
  have run := run.next false rfl (.clocked 0 _)
  have run := run.next true rfl (.ranWithin rfl)
  have run := run.next false rfl (.ranWithin rfl)
  have run := run.next true rfl (.clocked 0 _)
  have run := run.next false rfl (.clocked 0 _)
  -- Both conclude, and one directory is removed.
  have run := run.next true rfl (.logged _ _)
  have run := run.next false rfl (.logged _ _)
  have run := run.next true rfl (.logged _ _)
  have run := run.next false rfl (.logged _ _)
  have run := run.next true rfl (.clocked 0 _)
  have run := run.next false rfl (.clocked 0 _)
  have run := run.next false rfl (.removed _ _)
  exact ⟨_, _, _, run, _, _, rfl, rfl, rfl, rfl⟩

/-- Two sessions about one subject, of which one keeps its directory, come to what they
come to alone. -/
theorem sessions_do_not_interfere_of_twins :
    (∀ keeps, (twin keeps).IsHomely) ∧
      (∀ keeps, (twin keeps).settings.workRoot = some twinRoot) ∧
      ∃ trace actions files,
        Interleaves plainGround (fun _ => calm) (fun keeps => (twin keeps).run.run) bareFiles trace
          actions files ∧
        ∃ keeping removing, keeping.passed = true ∧ removing.passed = true ∧
          EndsAsAlone plainGround calm (twin true) bareFiles (exchangesOf true trace) (.ok keeping)
            files ∧
          EndsAsAlone plainGround calm (twin false) bareFiles (exchangesOf false trace)
            (.ok removing) files := by
  have isHomely (keeps : Bool) : (twin keeps).IsHomely := by
    have isPreparer : (twin keeps).preparer =
        Preparer.installing (some (bundleOf (twin keeps).settings)) := rfl
    have isExecutor : (twin keeps).executor =
        Executor.executing none (twin keeps).settings.entryCommand
          (twin keeps).settings.timeoutSecs := rfl
    exact isHomely_of_parts isPreparer isExecutor (.inl rfl)
  have sameRoot (keeps : Bool) : (twin keeps).settings.workRoot = some twinRoot := rfl
  obtain ⟨trace, actions, files, interleaves, keeping, removing, isKeeping, isRemoving, passes,
    passesToo⟩ := twins_interleave
  have law := sessions_do_not_interfere isHomely sameRoot interleaves
  exact ⟨isHomely, sameRoot, trace, actions, files, interleaves, keeping, removing, passes,
    passesToo, law.2 true _ isKeeping, law.2 false _ isRemoving⟩

end Session

end InterfaceAudit
