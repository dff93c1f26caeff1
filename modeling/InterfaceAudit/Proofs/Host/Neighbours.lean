import InterfaceAudit.Proofs.Host.Lockstep

/-!
Contract: what an action that keeps in step is to others in the same file system.

Owns:
- the frame of a step: outside the directory of the action that takes it, directories
  are made at most, on the way to the root;
- the law that an action is answered alone as it is among others, where nothing but
  its directory makes a difference to it.

Does not own: the order in which several actions take their steps.
-/

namespace InterfaceAudit

variable {ground : Ground} {own : Circumstances} {root? : Option Path}

/-! ## Places for directories -/

/-- A place right below another one. -/
def Location.IsChild (base place : Location) : Prop :=
  ∃ name, place = base ++ [name]

namespace Location.IsChild

variable {base first second place : Location}

theorem eq_of_isPrefix
    (isFirst : IsChild base first)
    (isSecond : IsChild base second)
    (firstAbove : first <+: place)
    (secondAbove : second <+: place) :
    first = second := by
  obtain ⟨name, rfl⟩ := isFirst
  obtain ⟨other, rfl⟩ := isSecond
  have sameLength : (base ++ [name]).length = (base ++ [other]).length := by
    rw [List.length_append, List.length_append]
    rfl
  have isPrefix :=
    List.prefix_of_prefix_length_le firstAbove secondAbove (Nat.le_of_eq sameLength)
  exact isPrefix.eq_of_length sameLength

theorem not_isPrefix_base (isChild : IsChild base first) (above : first <+: place) :
    ¬place <+: base := by
  obtain ⟨_, rfl⟩ := isChild
  intro onTheWay
  have longer := (above.trans onTheWay).length_le
  rw [List.length_append] at longer
  exact Nat.not_succ_le_self _ longer

end Location.IsChild

/-! ## The frame of a step -/

/-- A directory has been made where nothing stood, on the way to the root. -/
def Paved (ground : Ground) (root? : Option Path) (before after : Files) (place : Location) :
    Prop :=
  root? ≠ none ∧ place <+: ground.base root? ∧ before place = none ∧
    after place = some .directory

namespace Footing.Passes

variable {footing later : Footing} {exchange other : Exchange} {before after : Files}

theorem paved_of_grownTo
    {root : Path}
    (grown : before.GrownTo (ground.locate root) after)
    (place : Location) :
    after place = before place ∨ Paved ground (some root) before after place := by
  rcases grown place with same | ⟨onTheWay, wasNone, isMade⟩
  · exact .inl same
  · exact .inr ⟨Option.some_ne_none root, onTheWay, wasNone, isMade⟩

/-- Outside the directory that an action has or had, a step makes directories on the
way to the root at most. -/
theorem frame
    (passes : footing.Passes root? exchange other later)
    (takes : Takes ground own exchange before after)
    {place : Location}
    (isOutside : ∀ directory, footing.first = some directory ∨ later.first = some directory →
      ¬ground.locate directory <+: place) :
    after place = before place ∨ Paved ground root? before after place := by
  cases passes with
  | clock | log | collect =>
      rw [takes.eq_of_isRemark trivial]
      exact .inl rfl
  | treeMade isRoot =>
      subst isRoot
      exact paved_of_grownTo takes.grownTo_of_makeDirectories place
  | treeRefused isRoot =>
      subst isRoot
      exact paved_of_grownTo takes.grownTo_of_makeDirectories place
  | scopedMade stem first second =>
      rcases takes.makeScoped with ⟨path, isMade, _, _, _, rfl⟩ | ⟨_, isRefused, _⟩
      · cases isMade
        have differs : place ≠ ground.locate first := by
          rintro rfl
          exact isOutside first (.inr rfl) (List.prefix_refl _)
        exact .inl (Files.put_of_ne before differs _)
      · cases isRefused
  | scopedRefused stem fault =>
      rcases takes.makeScoped with ⟨path, isMade, _⟩ | ⟨_, _, _, rfl⟩
      · cases isMade
      · exact .inl rfl
  | stored first second isPlain content answer =>
      obtain ⟨there?, _, rfl⟩ := takes.writeFile
      refine .inl (Files.set_of_ne before ?_ there?)
      rintro rfl
      rw [ground.locate_child _ _ isPlain] at isOutside
      exact isOutside first (.inl rfl) (List.prefix_append _ _)
  | ran first second chore answer =>
      obtain ⟨below, _, rfl⟩ := takes.run
      exact .inl (Files.refurnished_elsewhere before (isOutside first (.inl rfl)) below)
  | ranWithin first second chore secs answer =>
      obtain ⟨below, _, rfl⟩ := takes.runWithin
      exact .inl (Files.refurnished_elsewhere before (isOutside first (.inl rfl)) below)
  | removed first second =>
      rw [takes.removeTree]
      exact .inl (before.without_elsewhere (isOutside first (.inl rfl)))

/-- A directory that an action has behind a step has stayed, or is made where nothing
stood. -/
theorem home
    (passes : footing.Passes root? exchange other later)
    (takes : Takes ground own exchange before after)
    {directory : Path}
    (isHome : later.first = some directory) :
    (footing.first = some directory ∧
      after (ground.locate directory) = before (ground.locate directory)) ∨
    ((ground.base root?).IsChild (ground.locate directory) ∧
      (∀ place, ground.locate directory <+: place → before place = none) ∧
      after (ground.locate directory) = some .directory) := by
  cases passes with
  | clock | log | collect =>
      rw [takes.eq_of_isRemark trivial]
      exact .inl ⟨isHome, rfl⟩
  | treeMade | treeRefused | scopedRefused | removed => cases isHome
  | scopedMade stem first second =>
      cases isHome
      rcases takes.makeScoped with ⟨path, isMade, _, isChild, fresh, rfl⟩ | ⟨_, isRefused, _⟩
      · cases isMade
        exact .inr ⟨isChild, fresh, before.put_self _ _⟩
      · cases isRefused
  | stored first second isPlain content answer =>
      cases isHome
      obtain ⟨there?, _, rfl⟩ := takes.writeFile
      refine .inl ⟨rfl, Files.set_of_ne before ?_ there?⟩
      rw [ground.locate_child _ _ isPlain]
      simp
  | ran first second chore answer =>
      cases isHome
      obtain ⟨below, _, rfl⟩ := takes.run
      exact .inl ⟨rfl, before.refurnished_self _ below⟩
  | ranWithin first second chore secs answer =>
      cases isHome
      obtain ⟨below, _, rfl⟩ := takes.runWithin
      exact .inl ⟨rfl, before.refurnished_self _ below⟩

end Footing.Passes

/-! ## One action beside itself alone -/

/-- Outside the directory that an action has, nothing stands for it alone but what stands
among others. -/
def Beside (ground : Ground) (home? : Option Path) (files alone : Files) : Prop :=
  ∀ place, (∀ home, home? = some home → ¬ground.locate home <+: place) →
    files place = none → alone place = none

section Mirrored

variable {footing : Footing} {files after alone : Files}

theorem Beside.of_outside
    {home? : Option Path}
    {aloneAfter : Files}
    (beside : Beside ground home? files alone)
    (outside : ∀ place, (∀ home, home? = some home → ¬ground.locate home <+: place) →
      after place = files place ∧ aloneAfter place = alone place) :
    Beside ground home? after aloneAfter := by
  intro place isOutside isNone
  obtain ⟨same, sameAlone⟩ := outside place isOutside
  rw [sameAlone]
  exact beside place isOutside (same.symm.trans isNone)

theorem mirrored_remark
    {home? : Option Path}
    {request : Request}
    {answer : request.Answer}
    (takes : Takes ground own ⟨request, answer⟩ files after)
    (isRemark : request.IsRemark)
    (beside : Beside ground home? files alone) :
    ∃ aloneAfter, Takes ground own ⟨request, answer⟩ alone aloneAfter ∧
      Beside ground home? after aloneAfter := by
  rw [takes.eq_of_isRemark isRemark]
  exact ⟨alone, .told answer isRemark alone, beside⟩

/-- Where its directory holds the same, an action is answered alone as among others. -/
theorem mirrored_lodged
    {directory : Path}
    {request other : Request}
    {answer : request.Answer}
    (opens : (Footing.lodged directory directory).Opens root? request other)
    (takes : Takes ground own ⟨request, answer⟩ files after)
    (tallies : files.inside (ground.locate directory) = alone.inside (ground.locate directory))
    (beside : Beside ground (some directory) files alone) :
    ∃ aloneAfter, Takes ground own ⟨request, answer⟩ alone aloneAfter ∧
      Beside ground (Exchange.home (some directory) ⟨request, answer⟩) after aloneAfter := by
  obtain ⟨_, _, _, passes⟩ := opens
  cases passes with
  | clock | log | collect => exact mirrored_remark takes trivial beside
  | stored _ _ isPlain content _ =>
      rename_i name _
      obtain ⟨there?, comes, rfl⟩ := takes.writeFile
      have sameEntry : files (ground.locate (directory.child name)) =
          alone (ground.locate (directory.child name)) := by
        rw [ground.locate_child _ _ isPlain]
        exact congrFun tallies [Utf8.ofString name]
      rw [sameEntry] at comes
      refine ⟨_, .stored comes, beside.of_outside fun place isOutside => ?_⟩
      have differs : place ≠ ground.locate (directory.child name) := by
        rintro rfl
        rw [ground.locate_child _ _ isPlain] at isOutside
        exact isOutside directory rfl (List.prefix_append _ _)
      exact ⟨files.set_of_ne differs there?, alone.set_of_ne differs there?⟩
  | ran _ _ chore _ =>
      obtain ⟨below, comes, rfl⟩ := takes.run
      have isComes : own.run (chore.commandIn directory)
        (files.inside (ground.locate directory)) = (answer, below) := comes
      rw [tallies] at isComes
      refine ⟨_, .ran isComes, beside.of_outside fun place isOutside => ?_⟩
      exact ⟨files.refurnished_elsewhere (isOutside directory rfl) below,
        alone.refurnished_elsewhere (isOutside directory rfl) below⟩
  | ranWithin _ _ chore secs _ =>
      obtain ⟨below, comes, rfl⟩ := takes.runWithin
      have isComes : own.runWithin (chore.commandIn directory) secs
        (files.inside (ground.locate directory)) = (answer, below) := comes
      rw [tallies] at isComes
      refine ⟨_, .ranWithin isComes, beside.of_outside fun place isOutside => ?_⟩
      exact ⟨files.refurnished_elsewhere (isOutside directory rfl) below,
        alone.refurnished_elsewhere (isOutside directory rfl) below⟩
  | removed _ _ =>
      rw [takes.removeTree]
      refine ⟨_, .removed directory alone, fun place _ isNone => ?_⟩
      by_cases isBelow : ground.locate directory <+: place
      · exact alone.without_below isBelow
      · rw [files.without_elsewhere isBelow] at isNone
        rw [alone.without_elsewhere isBelow]
        refine beside place (fun home isHome => ?_) isNone
        cases isHome
        exact isBelow

theorem mirrored_makeDirectories
    {root : Path}
    {answer : Except IoFault Unit}
    (isRoot : root? = some root)
    (takes : Takes ground own ⟨.makeDirectories root, answer⟩ files after)
    (tallies : Footing.arriving.Tallies ground root? files alone)
    (beside : Beside ground none files alone) :
    ∃ aloneAfter, Takes ground own ⟨.makeDirectories root, answer⟩ alone aloneAfter ∧
      Beside ground none after aloneAfter := by
  subst isRoot
  have sameOpen : files.IsOpen (ground.locate root) ↔ alone.IsOpen (ground.locate root) :=
    Footing.isOpen_iff tallies
  rcases takes.makeDirectories with ⟨rfl, grants, rfl⟩ | ⟨fault, rfl, refuses, grown⟩
  · rw [propext sameOpen] at grants
    refine ⟨_, .treeMade grants, fun place isOutside isNone => ?_⟩
    unfold Files.grown at isNone ⊢
    split at isNone
    case isTrue onTheWay => cases stood : files place <;> simp [stood] at isNone
    case isFalse elsewhere =>
      rw [if_neg elsewhere]
      exact beside place isOutside isNone
  · -- How far it came before it was refused is of no account: alone it may not have begun.
    rw [propext sameOpen] at refuses
    refine ⟨_, .treeRefused refuses (.refl _ alone), fun place isOutside isNone => ?_⟩
    exact beside place isOutside (grown.eq_none isNone)

theorem mirrored_makeScoped
    {stem : String}
    {answer : Except IoFault Path}
    (takes : Takes ground own ⟨.makeScoped root? stem, answer⟩ files after)
    (tallies : Footing.rooted.Tallies ground root? files alone)
    (beside : Beside ground none files alone) :
    ∃ aloneAfter, Takes ground own ⟨.makeScoped root? stem, answer⟩ alone aloneAfter ∧
      Beside ground (Exchange.home none ⟨.makeScoped root? stem, answer⟩) after aloneAfter := by
  have sameRoot := propext tallies.1
  have noHome : ∀ place home, (none : Option Path) = some home →
      ¬ground.locate home <+: place := fun _ _ isHome => nomatch isHome
  cases takes with
  | told _ isRemark => cases isRemark
  | @scopedMade _ _ path _ grants named fresh =>
      rw [sameRoot] at grants
      have freshAlone place above := beside place (noHome place) (fresh place above)
      refine ⟨_, .scopedMade grants named freshAlone, fun place isOutside isNone => ?_⟩
      have differs : place ≠ ground.locate path := by
        rintro rfl
        exact isOutside path rfl (List.prefix_refl _)
      rw [files.put_of_ne differs] at isNone
      rw [alone.put_of_ne differs]
      exact beside place (noHome place) isNone
  | scopedRefused refuses =>
      rw [sameRoot] at refuses
      exact ⟨_, .scopedRefused refuses, beside⟩

/-- Where files tally, an action can be answered alone as it is among others. -/
theorem Footing.Opens.mirrored
    {request other : Request}
    {answer : request.Answer}
    (opens : footing.Opens root? request other)
    (takes : Takes ground own ⟨request, answer⟩ files after)
    (tallies : footing.Tallies ground root? files alone)
    (isSame : footing.first = footing.second)
    (beside : Beside ground footing.first files alone) :
    ∃ aloneAfter, Takes ground own ⟨request, answer⟩ alone aloneAfter ∧
      Beside ground (Exchange.home footing.first ⟨request, answer⟩) after aloneAfter := by
  have opened := opens
  obtain ⟨_, _, _, passes⟩ := opens
  cases passes with
  | clock | log | collect => exact mirrored_remark takes trivial beside
  | treeMade isRoot => exact mirrored_makeDirectories isRoot takes tallies beside
  | treeRefused isRoot => exact mirrored_makeDirectories isRoot takes tallies beside
  | scopedMade | scopedRefused => exact mirrored_makeScoped takes tallies beside
  | stored | ran | ranWithin | removed =>
      cases isSame
      exact mirrored_lodged opened takes tallies beside

end Mirrored

end InterfaceAudit
