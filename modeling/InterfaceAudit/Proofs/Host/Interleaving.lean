import Mathlib.Logic.Function.Basic
import InterfaceAudit.Proofs.Host.Neighbours

/-!
Contract: several actions that share a ground and its files, step by step in any order.

Owns:
- interleavings: in each step one action goes on from an answer, in circumstances of
  its own, and the others stay where they are;
- what one action has exchanged in an interleaving, and the files that it has kept;
- the law that each action of an interleaving has a run alone beside it, with the same
  exchanges and with files that tally, and that the directories of two actions are
  apart.

Does not own: which actions these are, or what they come to.
-/

namespace InterfaceAudit

variable {ι α : Type} [DecidableEq ι] {ground : Ground} {own : ι → Circumstances}
  {root? : Option Path}

/-! ## Interleavings -/

/-- A step of one action among several. -/
inductive Moves (ground : Ground) (own : ι → Circumstances) :
    (ι → Action α) → Files → ι × Exchange → (ι → Action α) → Files → Prop where
  | goesOn {actions : ι → Action α} {one : ι} {request : Request}
      {next : request.Answer → Action α} {answer : request.Answer} {before after : Files}
      (isNext : actions one = .ask request next)
      (takes : Takes ground (own one) ⟨request, answer⟩ before after) :
      Moves ground own actions before (one, ⟨request, answer⟩)
        (Function.update actions one (next answer)) after

/-- What several actions do that take their steps in any order: who has exchanged what,
what is left of the actions then, and what the files are. -/
inductive Interleaves (ground : Ground) (own : ι → Circumstances) (start : ι → Action α)
    (initial : Files) : List (ι × Exchange) → (ι → Action α) → Files → Prop where
  | begun : Interleaves ground own start initial [] start initial
  | moved {trace : List (ι × Exchange)} {actions later : ι → Action α} {before after : Files}
      {step : ι × Exchange}
      (earlier : Interleaves ground own start initial trace actions before)
      (moves : Moves ground own actions before step later after) :
      Interleaves ground own start initial (trace ++ [step]) later after

theorem Interleaves.next
    {start actions : ι → Action α}
    {initial before after : Files}
    {trace : List (ι × Exchange)}
    (interleaves : Interleaves ground own start initial trace actions before)
    (one : ι)
    {request : Request}
    {next : request.Answer → Action α}
    {answer : request.Answer}
    (isNext : actions one = .ask request next)
    (takes : Takes ground (own one) ⟨request, answer⟩ before after) :
    Interleaves ground own start initial (trace ++ [(one, ⟨request, answer⟩)])
      (Function.update actions one (next answer)) after :=
  interleaves.moved (.goesOn isNext takes)

/-- What one of several actions has exchanged. -/
def exchangesOf (one : ι) (trace : List (ι × Exchange)) : List Exchange :=
  trace.filterMap fun step => if step.1 = one then some step.2 else none

theorem exchangesOf_snoc_self (one : ι) (trace : List (ι × Exchange)) (exchange : Exchange) :
    exchangesOf one (trace ++ [(one, exchange)]) = exchangesOf one trace ++ [exchange] := by
  simp [exchangesOf]

theorem exchangesOf_snoc_of_ne
    {one other : ι}
    (differs : other ≠ one)
    (trace : List (ι × Exchange))
    (exchange : Exchange) :
    exchangesOf other (trace ++ [(one, exchange)]) = exchangesOf other trace := by
  simp [exchangesOf, differs.symm]

theorem homeOf_snoc (exchanges : List Exchange) (exchange : Exchange) :
    homeOf (exchanges ++ [exchange]) = exchange.home (homeOf exchanges) :=
  List.foldl_append ..

/-- What stands in the directory that exchanges leave an action. -/
def kept (ground : Ground) (exchanges : List Exchange) (files : Files) : Option Files :=
  (homeOf exchanges).map fun home => files.inside (ground.locate home)

/-- Files that tally hold the same in the directories of two runs. -/
theorem Footing.Tallies.inside
    {footing : Footing}
    {files others : Files}
    (tallies : footing.Tallies ground root? files others) :
    footing.first.map (fun home => files.inside (ground.locate home)) =
      footing.second.map fun home => others.inside (ground.locate home) := by
  cases footing with
  | lodged first second => exact congrArg some tallies
  | arriving | rooted | departed => rfl

/-! ## An action and its run alone -/

/-- An action among others and alone: it has exchanged the same in both, and goes on in
step from files that tally. -/
structure Paired (ground : Ground) (own : Circumstances) (root? : Option Path)
    (post : Footing → α → α → Prop) (start : Action α) (initial : Files)
    (exchanges : List Exchange) (action : Action α) (files : Files)
    (footing : Footing) (alone : Files) : Prop where
  isAlone : Alone ground own start initial exchanges action alone
  alike : Alike root? post footing action action
  first : footing.first = homeOf exchanges
  second : footing.second = homeOf exchanges
  tallies : footing.Tallies ground root? files alone
  beside : Beside ground (homeOf exchanges) files alone

namespace Paired

variable {own : Circumstances} {post : Footing → α → α → Prop} {start action : Action α}
  {initial files after alone : Files} {exchanges : List Exchange} {footing : Footing}

theorem begun (alike : Alike root? post (.start root?) start start) :
    Paired ground own root? post start initial [] start initial (.start root?) initial where
  isAlone := .rest start initial
  alike := alike
  first := Footing.first_start root?
  second := Footing.second_start root?
  tallies := Footing.tallies_start initial
  beside := fun _ _ isNone => isNone

/-- A step of the action itself is one of its run alone as well. -/
theorem moved
    {request : Request}
    {next : request.Answer → Action α}
    {answer : request.Answer}
    (paired : Paired ground own root? post start initial exchanges (.ask request next) files
      footing alone)
    (takes : Takes ground own ⟨request, answer⟩ files after) :
    ∃ later aloneAfter, footing.Passes root? ⟨request, answer⟩ ⟨request, answer⟩ later ∧
      Takes ground own ⟨request, answer⟩ alone aloneAfter ∧
      Paired ground own root? post start initial (exchanges ++ [⟨request, answer⟩])
        (next answer) after later aloneAfter := by
  obtain ⟨isAlone, alike, isFirst, isSecond, tallies, beside⟩ := paired
  have isSame := isFirst.trans isSecond.symm
  rw [← isFirst] at beside
  cases alike with
  | ask opens further =>
      obtain ⟨aloneAfter, takesAlone, besideAfter⟩ := opens.mirrored takes tallies isSame beside
      -- With the same exchanges, both have one directory.
      have treats : ∀ first second, footing = .lodged first second →
          own.TreatsAlike first second := by
        rintro first second rfl
        cases isSame
        exact own.treatsAlike_self first
      obtain ⟨later, passes, talliesAfter⟩ :=
        Footing.lockstep opens takes takesAlone tallies treats
      refine ⟨later, aloneAfter, passes, takesAlone, isAlone.snoc takesAlone,
        further answer answer later passes, ?_, ?_, talliesAfter, ?_⟩
      · rw [passes.first, isFirst, homeOf_snoc]
      · rw [passes.second, isSecond, homeOf_snoc]
      · rw [homeOf_snoc, ← isFirst]
        exact besideAfter

/-- What others change makes no difference to an action: they make directories on the
way to the root, and change else only what is neither on that way nor in its
directory, where nothing stands for it alone. -/
theorem aside
    (paired : Paired ground own root? post start initial exchanges action files footing alone)
    (placed : ∀ home, homeOf exchanges = some home →
      (ground.base root?).IsChild (ground.locate home))
    (changes : ∀ place, after place = files place ∨ Paved ground root? files after place ∨
      (alone place = none ∧ ¬place <+: ground.base root? ∧
        ∀ home, homeOf exchanges = some home → ¬ground.locate home <+: place)) :
    Paired ground own root? post start initial exchanges action after footing alone := by
  obtain ⟨isAlone, alike, isFirst, isSecond, tallies, beside⟩ := paired
  refine ⟨isAlone, alike, isFirst, isSecond, ?_, ?_⟩
  · cases footing with
    | arriving =>
        -- A directory that was made on the way is no more a file than nothing was.
        intro way onTheWay content
        rw [← tallies way onTheWay content]
        rcases changes way with same | ⟨_, _, wasNone, isMade⟩ | ⟨_, isOff, _⟩
        · rw [same]
        · simp [wasNone, isMade]
        · exact absurd onTheWay isOff
    | rooted =>
        -- Whoever needs a root has made it, so that nobody makes it now.
        have sameBase : after (ground.base root?) = files (ground.base root?) := by
          rcases changes (ground.base root?) with same | ⟨isRoot, _, wasNone, _⟩ | ⟨_, isOff, _⟩
          · exact same
          · rw [tallies.2 isRoot] at wasNone
            cases wasNone
          · exact absurd (List.prefix_refl _) isOff
        show (after _ = _ ↔ _) ∧ (_ → after _ = _)
        rw [sameBase]
        exact tallies
    | lodged first second =>
        refine Eq.trans (funext fun below => ?_) tallies
        have isBelow := List.prefix_append (ground.locate first) below
        rcases changes (ground.locate first ++ below) with same | ⟨_, onTheWay, _⟩ | ⟨_, _, isOff⟩
        · exact same
        · exact absurd onTheWay ((placed first isFirst.symm).not_isPrefix_base isBelow)
        · exact absurd isBelow (isOff first isFirst.symm)
    | departed => trivial
  · intro place isOutside isNone
    rcases changes place with same | ⟨_, _, _, isMade⟩ | ⟨isNoneAlone, _⟩
    · exact beside place isOutside (same.symm.trans isNone)
    · rw [isMade] at isNone
      cases isNone
    · exact isNoneAlone

end Paired

/-! ## All of them together -/

/-- The directories of several actions: each is right below the root, and no two are the
same. -/
structure Settled (ground : Ground) (root? : Option Path) (footings : ι → Footing)
    (files : Files) : Prop where
  placed : ∀ one home, (footings one).first = some home →
    (ground.base root?).IsChild (ground.locate home)
  stands : ∀ one home, (footings one).first = some home →
    files (ground.locate home) = some .directory
  apart : ∀ one other, one ≠ other → ∀ home, (footings one).first = some home →
    ∀ next, (footings other).first = some next → ground.locate home ≠ ground.locate next

/-- Every action of an interleaving is paired with a run alone, in which nothing stands
in the directories of the others. -/
structure Together (ground : Ground) (own : ι → Circumstances) (root? : Option Path)
    (post : ι → Footing → α → α → Prop) (start : ι → Action α) (initial : Files)
    (trace : List (ι × Exchange)) (actions : ι → Action α) (files : Files)
    (footings : ι → Footing) (alones : ι → Files) : Prop where
  paired : ∀ one, Paired ground (own one) root? (post one) (start one) initial
    (exchangesOf one trace) (actions one) files (footings one) (alones one)
  settled : Settled ground root? footings files
  vacant : ∀ one other, one ≠ other → ∀ home, (footings other).first = some home →
    ∀ place, ground.locate home <+: place → alones one place = none

namespace Together

variable {post : ι → Footing → α → α → Prop} {start actions : ι → Action α}
  {initial files after : Files} {trace : List (ι × Exchange)} {footings : ι → Footing}
  {alones : ι → Files}

theorem begun (alike : ∀ one, Alike root? (post one) (.start root?) (start one) (start one)) :
    Together ground own root? post start initial [] start initial
      (fun _ => .start root?) (fun _ => initial) := by
  have noHome (home : Path) : (Footing.start root?).first ≠ some home := by
    rw [Footing.first_start]
    exact nofun
  exact {
    paired := fun one => .begun (alike one)
    settled := {
      placed := fun _ home isHome => absurd isHome (noHome home)
      stands := fun _ home isHome => absurd isHome (noHome home)
      apart := fun _ _ _ home isHome => absurd isHome (noHome home) }
    vacant := fun _ _ _ home isHome => absurd isHome (noHome home) }

section Step

variable {one other : ι} {exchange alongside : Exchange} {later : Footing}

/-- The directories that an action has before and behind its step are apart from those
of the others. -/
theorem parted
    (together : Together ground own root? post start initial trace actions files footings alones)
    (passes : (footings one).Passes root? exchange alongside later)
    (takes : Takes ground (own one) exchange files after)
    (differs : other ≠ one)
    {directory : Path}
    (isTheirs : (footings one).first = some directory ∨ later.first = some directory) :
    (ground.base root?).IsChild (ground.locate directory) ∧
      (∀ place, ground.locate directory <+: place → alones other place = none) ∧
      ∀ home, (footings other).first = some home →
        ground.locate home ≠ ground.locate directory := by
  have had (isHad : (footings one).first = some directory) :=
    And.intro (together.settled.placed one directory isHad) (And.intro
      (together.vacant other one differs directory isHad)
      fun home isHome => together.settled.apart other one differs home isHome directory isHad)
  rcases isTheirs with isHad | isNew
  · exact had isHad
  · rcases passes.home takes isNew with ⟨isHad, _⟩ | ⟨isChild, fresh, _⟩
    · exact had isHad
    · -- Where it is made nothing stood, and the directory of the other does stand.
      have fallsApart : ∀ home, (footings other).first = some home →
          ground.locate home ≠ ground.locate directory := by
        intro home isHome isSame
        have stands := together.settled.stands other home isHome
        rw [isSame, fresh _ (List.prefix_refl _)] at stands
        cases stands
      refine ⟨isChild, fun place isBelow => ?_, fallsApart⟩
      refine (together.paired other).beside place (fun home isHome isAbove => ?_)
        (fresh place isBelow)
      rw [← (together.paired other).first] at isHome
      have isOther := together.settled.placed other home isHome
      exact fallsApart home isHome (isOther.eq_of_isPrefix isChild isAbove isBelow)

theorem outside
    (together : Together ground own root? post start initial trace actions files footings alones)
    (passes : (footings one).Passes root? exchange alongside later)
    (takes : Takes ground (own one) exchange files after)
    (differs : other ≠ one)
    {home : Path}
    (isHome : (footings other).first = some home)
    {place : Location}
    (isBelow : ground.locate home <+: place)
    (directory : Path)
    (isTheirs : (footings one).first = some directory ∨ later.first = some directory) :
    ¬ground.locate directory <+: place := by
  intro isAbove
  obtain ⟨isChild, _, isApart⟩ := together.parted passes takes differs isTheirs
  have isOther := together.settled.placed other home isHome
  exact isApart home isHome (isOther.eq_of_isPrefix isChild isBelow isAbove)

/-- A step changes nothing in the directories of the others. -/
theorem untouched
    (together : Together ground own root? post start initial trace actions files footings alones)
    (passes : (footings one).Passes root? exchange alongside later)
    (takes : Takes ground (own one) exchange files after)
    (differs : other ≠ one)
    {home : Path}
    (isHome : (footings other).first = some home)
    {place : Location}
    (isBelow : ground.locate home <+: place) :
    after place = files place := by
  rcases passes.frame takes (together.outside passes takes differs isHome isBelow) with
    same | ⟨_, onTheWay, _⟩
  · exact same
  · exact absurd onTheWay ((together.settled.placed other home isHome).not_isPrefix_base isBelow)

/-- To another action a step is aside. -/
theorem paired_aside
    (together : Together ground own root? post start initial trace actions files footings alones)
    (passes : (footings one).Passes root? exchange alongside later)
    (takes : Takes ground (own one) exchange files after)
    (differs : other ≠ one) :
    Paired ground (own other) root? (post other) (start other) initial (exchangesOf other trace)
      (actions other) after (footings other) (alones other) := by
  have pair := together.paired other
  refine pair.aside (fun home isHome => ?_) fun place => ?_
  · exact together.settled.placed other home (pair.first.trans isHome)
  · by_cases isTheirs : ∃ directory, ((footings one).first = some directory ∨
        later.first = some directory) ∧ ground.locate directory <+: place
    · obtain ⟨directory, isTheirs, isBelow⟩ := isTheirs
      obtain ⟨isChild, isVacant, isApart⟩ := together.parted passes takes differs isTheirs
      refine .inr (.inr ⟨isVacant place isBelow, isChild.not_isPrefix_base isBelow, ?_⟩)
      intro home isHome isAbove
      have isOwn := pair.first.trans isHome
      exact together.outside passes takes differs isOwn isAbove directory isTheirs isBelow
    · have isOutside directory (isOne : (footings one).first = some directory ∨
          later.first = some directory) (isBelow : ground.locate directory <+: place) : False :=
        isTheirs ⟨directory, isOne, isBelow⟩
      exact (passes.frame takes isOutside).imp_right .inl

theorem settled_moved
    (together : Together ground own root? post start initial trace actions files footings alones)
    (passes : (footings one).Passes root? exchange alongside later)
    (takes : Takes ground (own one) exchange files after) :
    Settled ground root? (Function.update footings one later) after := by
  constructor
  case placed =>
    intro other home isHome
    by_cases isOne : other = one
    · subst isOne
      rw [Function.update_self] at isHome
      rcases passes.home takes isHome with ⟨isHad, _⟩ | ⟨isChild, _⟩
      · exact together.settled.placed other home isHad
      · exact isChild
    · rw [Function.update_of_ne isOne] at isHome
      exact together.settled.placed other home isHome
  case stands =>
    intro other home isHome
    by_cases isOne : other = one
    · subst isOne
      rw [Function.update_self] at isHome
      rcases passes.home takes isHome with ⟨isHad, same⟩ | ⟨_, _, isMade⟩
      · exact same.trans (together.settled.stands other home isHad)
      · exact isMade
    · rw [Function.update_of_ne isOne] at isHome
      exact (together.untouched passes takes isOne isHome (List.prefix_refl _)).trans
        (together.settled.stands other home isHome)
  case apart =>
    intro first second differ home isHome next isNext
    by_cases isOne : first = one
    · subst isOne
      rw [Function.update_self] at isHome
      rw [Function.update_of_ne differ.symm] at isNext
      exact ((together.parted passes takes differ.symm (.inr isHome)).2.2 next isNext).symm
    · rw [Function.update_of_ne isOne] at isHome
      by_cases isOneToo : second = one
      · subst isOneToo
        rw [Function.update_self] at isNext
        exact (together.parted passes takes differ (.inr isNext)).2.2 home isHome
      · rw [Function.update_of_ne isOneToo] at isNext
        exact together.settled.apart first second differ home isHome next isNext

theorem vacant_moved
    {aloneAfter : Files}
    (together : Together ground own root? post start initial trace actions files footings alones)
    (passes : (footings one).Passes root? exchange alongside later)
    (takes : Takes ground (own one) exchange files after)
    (takesAlone : Takes ground (own one) exchange (alones one) aloneAfter)
    {first second : ι}
    (differ : first ≠ second)
    {home : Path}
    (isHome : (Function.update footings one later second).first = some home)
    {place : Location}
    (isBelow : ground.locate home <+: place) :
    Function.update alones one aloneAfter first place = none := by
  by_cases isOne : first = one
  · subst isOne
    rw [Function.update_of_ne differ.symm] at isHome
    rw [Function.update_self]
    have isOutside := together.outside passes takes differ.symm isHome isBelow
    rcases passes.frame takesAlone isOutside with same | ⟨_, onTheWay, _⟩
    · exact same.trans (together.vacant first second differ home isHome place isBelow)
    · have isChild := together.settled.placed second home isHome
      exact absurd onTheWay (isChild.not_isPrefix_base isBelow)
  · rw [Function.update_of_ne isOne]
    by_cases isOneToo : second = one
    · subst isOneToo
      rw [Function.update_self] at isHome
      exact (together.parted passes takes differ (.inr isHome)).2.1 place isBelow
    · rw [Function.update_of_ne isOneToo] at isHome
      exact together.vacant first second differ home isHome place isBelow

end Step

/-- Any step of any action keeps them together. -/
theorem moved
    {step : ι × Exchange}
    {further : ι → Action α}
    (together : Together ground own root? post start initial trace actions files footings alones)
    (moves : Moves ground own actions files step further after) :
    ∃ footings alones, Together ground own root? post start initial (trace ++ [step]) further
      after footings alones := by
  cases moves with
  | goesOn isNext takes =>
      rename_i one request next answer
      have pair := together.paired one
      rw [isNext] at pair
      obtain ⟨later, aloneAfter, passes, takesAlone, paired⟩ := pair.moved takes
      refine ⟨Function.update footings one later, Function.update alones one aloneAfter, ?_,
        together.settled_moved passes takes,
        fun first second differ home isHome place isBelow =>
          together.vacant_moved passes takes takesAlone differ isHome isBelow⟩
      intro other
      by_cases isOne : other = one
      · subst isOne
        rw [exchangesOf_snoc_self, Function.update_self, Function.update_self,
          Function.update_self]
        exact paired
      · rw [exchangesOf_snoc_of_ne isOne, Function.update_of_ne isOne,
          Function.update_of_ne isOne, Function.update_of_ne isOne]
        exact together.paired_aside passes takes isOne

end Together

/-- The actions of an interleaving stay together if each keeps in step with itself. -/
theorem Interleaves.together
    {post : ι → Footing → α → α → Prop}
    {start actions : ι → Action α}
    {initial files : Files}
    {trace : List (ι × Exchange)}
    (interleaves : Interleaves ground own start initial trace actions files)
    (alike : ∀ one, Alike root? (post one) (.start root?) (start one) (start one)) :
    ∃ footings alones, Together ground own root? post start initial trace actions files footings
      alones := by
  induction interleaves with
  | begun => exact ⟨_, _, .begun alike⟩
  | moved earlier moves inductionHypothesis =>
      obtain ⟨footings, alones, together⟩ := inductionHypothesis
      exact together.moved moves

end InterfaceAudit
