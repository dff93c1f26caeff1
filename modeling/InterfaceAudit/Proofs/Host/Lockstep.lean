import InterfaceAudit.Proofs.Host.Tandem

/-!
Contract: alike actions come to the same where files tally.

Owns:
- files that tally for two runs, which make no difference to what these still do;
- the law of one step, by which answers agree and files tally again;
- runs of an action alone, and the law that two of them come to the same.

Does not own: runs with others in between.
-/

namespace InterfaceAudit

variable {ground : Ground} {own : Circumstances} {root? : Option Path}

/-! ## Files that tally -/

/-- Files that make no difference to what two runs still do: before the root is made
the same files are in the way of it, before a directory is made it can be made in
both, and then it holds the same. -/
def Footing.Tallies (ground : Ground) (root? : Option Path) : Footing → Files → Files → Prop
  | .arriving, files, others => ∀ way, way <+: ground.base root? → ∀ content,
      files way = some (.file content) ↔ others way = some (.file content)
  | .rooted, files, others =>
      (files (ground.base root?) = some .directory ↔
        others (ground.base root?) = some .directory) ∧
      (root? ≠ none → files (ground.base root?) = some .directory)
  | .lodged first second, files, others =>
      files.inside (ground.locate first) = others.inside (ground.locate second)
  | .departed, _, _ => True

theorem Footing.tallies_start (files : Files) :
    (Footing.start root?).Tallies ground root? files files := by
  cases root? with
  | none => exact ⟨Iff.rfl, fun isRoot => absurd rfl isRoot⟩
  | some root => exact fun _ _ _ => Iff.rfl

namespace Files

theorem inside_put_fresh
    {files : Files}
    {place : Location}
    (fresh : ∀ other, place <+: other → files other = none) :
    (files.put place .directory).inside place = fun below =>
      if below = [] then some .directory else none := by
  funext below
  unfold inside
  by_cases isPlace : below = []
  · rw [isPlace, List.append_nil, put_self, if_pos rfl]
  · have differs : place ++ below ≠ place := by simpa using isPlace
    rw [put_of_ne _ differs, fresh _ (List.prefix_append place below), if_neg isPlace]

theorem inside_set
    (files : Files)
    (place : Location)
    (name : Bytes)
    (there? : Option Entry) :
    (files.set (place ++ [name]) there?).inside place = (files.inside place).set [name] there? := by
  funext below
  unfold inside set
  simp only [List.append_cancel_left_eq]

theorem inside_refurnished (files : Files) (place : Location) (content : Files) :
    (files.refurnished place content).inside place = fun below =>
      if below = [] then files place else content below := by
  funext below
  unfold inside
  by_cases isPlace : below = []
  · rw [isPlace, List.append_nil, refurnished_self, if_pos rfl]
  · rw [refurnished_below _ _ isPlace, if_neg isPlace]

end Files

namespace Footing

variable {files files' others others' : Files} {later footing : Footing}

theorem isOpen_iff (tallies : arriving.Tallies ground root? files others) :
    files.IsOpen (ground.base root?) ↔ others.IsOpen (ground.base root?) :=
  forall_congr' fun way => forall_congr' fun onTheWay => forall_congr' fun content =>
    not_congr (tallies way onTheWay content)

/-! ## One step -/

theorem lockstep_makeDirectories
    {root : Path}
    {answer reply : Except IoFault Unit}
    (isRoot : root? = some root)
    (takes : Takes ground own ⟨.makeDirectories root, answer⟩ files files')
    (alongside : Takes ground own ⟨.makeDirectories root, reply⟩ others others')
    (tallies : arriving.Tallies ground root? files others) :
    ∃ later, arriving.Passes root? ⟨.makeDirectories root, answer⟩
        ⟨.makeDirectories root, reply⟩ later ∧
      later.Tallies ground root? files' others' := by
  subst isRoot
  have sameOpen : files.IsOpen (ground.locate root) ↔ others.IsOpen (ground.locate root) :=
    isOpen_iff tallies
  rcases takes.makeDirectories with ⟨rfl, grants, rfl⟩ | ⟨fault, rfl, refuses, grown⟩
  · rcases alongside.makeDirectories with ⟨rfl, grantsToo, rfl⟩ | ⟨other, rfl, refusesToo, _⟩
    · have isRooted := Files.grown_self grants.2
      have isRootedToo := Files.grown_self grantsToo.2
      exact ⟨.rooted, .treeMade rfl, ⟨fun _ => isRootedToo, fun _ => isRooted⟩, fun _ => isRooted⟩
    · rw [← propext sameOpen] at refusesToo
      exact absurd refusesToo grants.not_refuses
  · rcases alongside.makeDirectories with ⟨rfl, grantsToo, rfl⟩ | ⟨other, rfl, refusesToo, _⟩
    · rw [propext sameOpen] at refuses
      exact absurd refuses grantsToo.not_refuses
    · rw [← propext sameOpen] at refusesToo
      cases refuses.eq refusesToo
      exact ⟨.departed, .treeRefused rfl fault, trivial⟩

theorem lockstep_makeScoped
    {stem : String}
    {answer reply : Except IoFault Path}
    (takes : Takes ground own ⟨.makeScoped root? stem, answer⟩ files files')
    (alongside : Takes ground own ⟨.makeScoped root? stem, reply⟩ others others')
    (tallies : rooted.Tallies ground root? files others) :
    ∃ later, rooted.Passes root? ⟨.makeScoped root? stem, answer⟩
        ⟨.makeScoped root? stem, reply⟩ later ∧
      later.Tallies ground root? files' others' := by
  have sameRoot := propext tallies.1
  rcases takes.makeScoped with ⟨first, rfl, grants, _, fresh, rfl⟩ | ⟨fault, rfl, refuses, _⟩
  · rcases alongside.makeScoped with
      ⟨second, rfl, _, _, freshToo, rfl⟩ | ⟨other, rfl, refusesToo, _⟩
    · refine ⟨.lodged first second, .scopedMade stem first second, ?_⟩
      show Files.inside _ _ = Files.inside _ _
      rw [Files.inside_put_fresh fresh, Files.inside_put_fresh freshToo]
    · rw [← sameRoot] at refusesToo
      exact absurd refusesToo grants.not_refuses
  · rcases alongside.makeScoped with ⟨second, rfl, grantsToo, _⟩ | ⟨other, rfl, refusesToo, _⟩
    · rw [sameRoot] at refuses
      exact absurd refuses grantsToo.not_refuses
    · rw [← sameRoot] at refusesToo
      cases refuses.eq refusesToo
      exact ⟨.departed, .scopedRefused stem fault, trivial⟩

/-- What happens in the directories of two runs is answered in the same way, and
leaves the same there. -/
theorem lockstep_lodged
    {first second : Path}
    {request other : Request}
    {answer : request.Answer}
    {reply : other.Answer}
    (opens : (lodged first second).Opens root? request other)
    (takes : Takes ground own ⟨request, answer⟩ files files')
    (alongside : Takes ground own ⟨other, reply⟩ others others')
    (tallies : files.inside (ground.locate first) = others.inside (ground.locate second))
    (treats : own.TreatsAlike first second) :
    ∃ later, (lodged first second).Passes root? ⟨request, answer⟩ ⟨other, reply⟩ later ∧
      later.Tallies ground root? files' others' := by
  have top : files (ground.locate first) = others (ground.locate second) := by
    simpa [Files.inside] using congrFun tallies []
  obtain ⟨_, _, _, passes⟩ := opens
  cases passes with
  | clock _ _ _ =>
      rw [takes.eq_of_isRemark trivial, alongside.eq_of_isRemark trivial]
      exact ⟨_, .clock _ answer reply, tallies⟩
  | log _ same =>
      rw [takes.eq_of_isRemark trivial, alongside.eq_of_isRemark trivial]
      exact ⟨_, .log _ same, tallies⟩
  | collect _ diagnostic =>
      rw [takes.eq_of_isRemark trivial, alongside.eq_of_isRemark trivial]
      exact ⟨_, .collect _ diagnostic, tallies⟩
  | stored _ _ isPlain content _ =>
      obtain ⟨there?, comes, rfl⟩ := takes.writeFile
      obtain ⟨thereToo?, comesToo, rfl⟩ := alongside.writeFile
      rename_i name _
      have sameEntry : files (ground.locate (first.child name)) =
          others (ground.locate (second.child name)) := by
        rw [ground.locate_child _ _ isPlain, ground.locate_child _ _ isPlain]
        exact congrFun tallies [Utf8.ofString name]
      rw [sameEntry, treats.store, comesToo] at comes
      cases comes
      refine ⟨_, .stored first second isPlain content answer, ?_⟩
      show Files.inside _ _ = Files.inside _ _
      rw [ground.locate_child _ _ isPlain, ground.locate_child _ _ isPlain, Files.inside_set,
        Files.inside_set, tallies]
  | ran _ _ chore _ =>
      obtain ⟨below, comes, rfl⟩ := takes.run
      obtain ⟨belowToo, comesToo, rfl⟩ := alongside.run
      have isComes : own.run (chore.commandIn first) (files.inside (ground.locate first)) =
        (answer, below) := comes
      have isComesToo : own.run (chore.commandIn second) (others.inside (ground.locate second)) =
        (reply, belowToo) := comesToo
      rw [treats.run, tallies, isComesToo] at isComes
      cases isComes
      refine ⟨_, .ran first second chore answer, ?_⟩
      show Files.inside _ (ground.locate first) = Files.inside _ (ground.locate second)
      rw [Chore.commandIn, Chore.commandIn, Files.inside_refurnished, Files.inside_refurnished, top]
  | ranWithin _ _ chore secs _ =>
      obtain ⟨below, comes, rfl⟩ := takes.runWithin
      obtain ⟨belowToo, comesToo, rfl⟩ := alongside.runWithin
      have isComes : own.runWithin (chore.commandIn first) secs
        (files.inside (ground.locate first)) = (answer, below) := comes
      have isComesToo : own.runWithin (chore.commandIn second) secs
        (others.inside (ground.locate second)) = (reply, belowToo) := comesToo
      rw [treats.runWithin, tallies, isComesToo] at isComes
      cases isComes
      refine ⟨_, .ranWithin first second chore secs answer, ?_⟩
      show Files.inside _ (ground.locate first) = Files.inside _ (ground.locate second)
      rw [Chore.commandIn, Chore.commandIn, Files.inside_refurnished, Files.inside_refurnished, top]
  | removed _ _ => exact ⟨.departed, .removed first second, trivial⟩

/-- Where files tally, two runs that keep in step are answered alike, and files tally
again. -/
theorem lockstep
    {request other : Request}
    {answer : request.Answer}
    {reply : other.Answer}
    (opens : footing.Opens root? request other)
    (takes : Takes ground own ⟨request, answer⟩ files files')
    (alongside : Takes ground own ⟨other, reply⟩ others others')
    (tallies : footing.Tallies ground root? files others)
    (treats : ∀ first second, footing = .lodged first second → own.TreatsAlike first second) :
    ∃ later, footing.Passes root? ⟨request, answer⟩ ⟨other, reply⟩ later ∧
      later.Tallies ground root? files' others' := by
  have remark (isRemark : request.IsRemark) (isRemarkToo : other.IsRemark)
      (passes : footing.Passes root? ⟨request, answer⟩ ⟨other, reply⟩ footing) :
      ∃ later, footing.Passes root? ⟨request, answer⟩ ⟨other, reply⟩ later ∧
        later.Tallies ground root? files' others' := by
    rw [takes.eq_of_isRemark isRemark, alongside.eq_of_isRemark isRemarkToo]
    exact ⟨footing, passes, tallies⟩
  have opened := opens
  obtain ⟨_, _, _, passes⟩ := opens
  cases passes with
  | clock _ _ _ => exact remark trivial trivial (.clock _ answer reply)
  | log _ same => exact remark trivial trivial (.log _ same)
  | collect _ diagnostic => exact remark trivial trivial (.collect _ diagnostic)
  | treeMade isRoot => exact lockstep_makeDirectories isRoot takes alongside tallies
  | treeRefused isRoot _ => exact lockstep_makeDirectories isRoot takes alongside tallies
  | scopedMade stem _ _ => exact lockstep_makeScoped takes alongside tallies
  | scopedRefused stem _ => exact lockstep_makeScoped takes alongside tallies
  | stored first second | ran first second | ranWithin first second | removed first second =>
      exact lockstep_lodged opened takes alongside tallies (treats first second rfl)

/-- Two runs have directories together only if they had them before or make them. -/
theorem Passes.lodged
    {exchange other : Exchange}
    {first second : Path}
    (passes : footing.Passes root? exchange other later)
    (isLodged : later = .lodged first second) :
    footing = .lodged first second ∨
      exchange.home none = some first ∧ other.home none = some second := by
  cases passes with
  | clock | log | collect => exact .inl isLodged
  | treeMade | treeRefused | scopedRefused | removed => cases isLodged
  | scopedMade =>
      cases isLodged
      exact .inr ⟨rfl, rfl⟩
  | stored | ran | ranWithin => exact .inl isLodged

end Footing

/-! ## Runs alone -/

/-- What an action does alone: what it exchanges, what is left of it then, and what the
files are. -/
inductive Alone {α : Type} (ground : Ground) (own : Circumstances) :
    Action α → Files → List Exchange → Action α → Files → Prop where
  | rest (action : Action α) (files : Files) : Alone ground own action files [] action files
  | step {request : Request} {next : request.Answer → Action α} {answer : request.Answer}
      {exchanges : List Exchange} {action : Action α} {before between after : Files}
      (takes : Takes ground own ⟨request, answer⟩ before between)
      (further : Alone ground own (next answer) between exchanges action after) :
      Alone ground own (.ask request next) before (⟨request, answer⟩ :: exchanges) action after

theorem Alone.snoc
    {α : Type}
    {action : Action α}
    {request : Request}
    {next : request.Answer → Action α}
    {answer : request.Answer}
    {exchanges : List Exchange}
    {before between after : Files}
    (alone : Alone ground own action before exchanges (.ask request next) between)
    (takes : Takes ground own ⟨request, answer⟩ between after) :
    Alone ground own action before (exchanges ++ [⟨request, answer⟩]) (next answer) after := by
  generalize isLeft : Action.ask request next = left at alone
  induction alone with
  | rest action files =>
      subst isLeft
      exact .step takes (.rest _ _)
  | step earlier further inductionHypothesis =>
      exact .step earlier (inductionHypothesis takes isLeft)

def madeBy (exchanges : List Exchange) : List Path :=
  exchanges.filterMap (Exchange.home none)

/-- Alike actions that are run alone, where files tally, satisfy their assertion,
put the same into their sinks and leave files that tally. -/
theorem Alike.alone
    {α β : Type}
    {post : Footing → α → β → Prop}
    {footing : Footing}
    {action : Action α}
    {other : Action β}
    (alike : Alike root? post footing action other)
    {files others after afterToo : Files}
    {exchanges replies : List Exchange}
    {result : α}
    {reply : β}
    (alone : Alone ground own action files exchanges (.done result) after)
    (aloneToo : Alone ground own other others replies (.done reply) afterToo)
    (tallies : footing.Tallies ground root? files others)
    (treats : ∀ first second, footing = .lodged first second → own.TreatsAlike first second)
    (treatsMade : ∀ first ∈ madeBy exchanges, ∀ second ∈ madeBy replies,
      own.TreatsAlike first second) :
    ∃ later, post later result reply ∧
      later.Tallies ground root? after afterToo ∧
      sunk exchanges = sunk replies ∧
      later.first = exchanges.foldl Exchange.home footing.first ∧
      later.second = replies.foldl Exchange.home footing.second := by
  induction alike generalizing files others exchanges replies with
  | done holds =>
      cases alone
      cases aloneToo
      exact ⟨_, holds, tallies, rfl, rfl, rfl⟩
  | ask opens further inductionHypothesis =>
      cases alone with
      | step takes rest =>
          cases aloneToo with
          | step takesToo restToo =>
              obtain ⟨later, passes, talliesLater⟩ :=
                Footing.lockstep opens takes takesToo tallies treats
              -- Directories that both have now they had before, or have just made.
              have treatsLater : ∀ first second, later = .lodged first second →
                  own.TreatsAlike first second := by
                intro first second isLodged
                rcases passes.lodged isLodged with wasLodged | ⟨isMade, isMadeToo⟩
                · exact treats first second wasLodged
                · exact treatsMade first
                    (List.mem_filterMap.mpr ⟨_, List.mem_cons_self, isMade⟩) second
                    (List.mem_filterMap.mpr ⟨_, List.mem_cons_self, isMadeToo⟩)
              have among {exchange : Exchange} {exchanges : List Exchange} {path : Path}
                  (member : path ∈ madeBy exchanges) : path ∈ madeBy (exchange :: exchanges) := by
                obtain ⟨made, isMember, isPath⟩ := List.mem_filterMap.mp member
                exact List.mem_filterMap.mpr ⟨made, List.mem_cons_of_mem _ isMember, isPath⟩
              obtain ⟨last, holds, talliesLast, sameSunk, isFirst, isSecond⟩ :=
                inductionHypothesis _ _ later passes rest restToo talliesLater treatsLater
                  fun first member second memberToo =>
                    treatsMade first (among member) second (among memberToo)
              refine ⟨last, holds, talliesLast, ?_, ?_, ?_⟩
              · rw [sunk, List.flatMap_cons, sunk, List.flatMap_cons, passes.sunk]
                exact congrArg _ sameSunk
              · rw [isFirst, passes.first, List.foldl_cons]
              · rw [isSecond, passes.second, List.foldl_cons]

end InterfaceAudit
