import InterfaceAudit.Text.Blank

/-!
Contract: regular expressions, and what it means for one to end a text.

Owns:
- sets of characters as lists of ranges, with their complement and meet, and
  what these hold;
- expressions whose choices have an order of preference;
- the search for the first place from which an expression fits, which follows
  all choices at once, the preferred ones in front, and drops every choice behind
  one that has come to its end.

Does not own: the written form of expressions.
-/

namespace InterfaceAudit

/-- A set of characters: ranges of code points, ends included. -/
abbrev CharSet := List (Nat × Nat)

namespace CharSet

def last : Nat := 0x10FFFF

def has (set : CharSet) (c : Char) : Bool :=
  set.any fun range => range.1 ≤ c.toNat && c.toNat ≤ range.2

def meet (left right : CharSet) : CharSet :=
  left.flatMap fun x => right.filterMap fun y =>
    let low := max x.1 y.1
    let high := min x.2 y.2
    if low ≤ high then some (low, high) else none

def outside (range : Nat × Nat) : CharSet :=
  (if range.1 == 0 then [] else [(0, range.1 - 1)]) ++
    (if range.2 < last then [(range.2 + 1, last)] else [])

def complement (set : CharSet) : CharSet :=
  set.foldl (fun rest range => meet rest (outside range)) [(0, last)]

/-- The ASCII letters of a set in the other case as well. -/
def bothCases (set : CharSet) : CharSet :=
  set ++
    (meet set [(0x41, 0x5A)]).map (fun range => (range.1 + 32, range.2 + 32)) ++
    (meet set [(0x61, 0x7A)]).map (fun range => (range.1 - 32, range.2 - 32))

/-- Letters, digits and the underscore of ASCII. -/
def word : CharSet := [(0x30, 0x39), (0x41, 0x5A), (0x5F, 0x5F), (0x61, 0x7A)]

/-! ## What sets hold -/

/-- Sets one behind the other hold what one of them holds. -/
@[simp] theorem has_append (left right : CharSet) (c : Char) :
    has (left ++ right) c = (has left c || has right c) := by
  simp [has]

/-- A meet holds what both sets hold. -/
@[simp] theorem has_meet (left right : CharSet) (c : Char) :
    has (meet left right) c = (has left c && has right c) := by
  rw [Bool.eq_iff_iff]
  simp only [has, meet, List.any_eq_true, List.mem_flatMap, List.mem_filterMap,
    Bool.and_eq_true, decide_eq_true_eq]
  constructor
  · rintro ⟨range, ⟨x, inLeft, y, inRight, found⟩, low, high⟩
    split at found
    · cases found
      exact ⟨⟨x, inLeft, by omega⟩, ⟨y, inRight, by omega⟩⟩
    · contradiction
  · rintro ⟨⟨x, inLeft, _, _⟩, ⟨y, inRight, _, _⟩⟩
    refine ⟨(max x.1 y.1, min x.2 y.2), ⟨x, inLeft, y, inRight, ?_⟩, ?_⟩
    · rw [if_pos (by omega)]
    · constructor <;> dsimp only <;> omega

/-- No code point of a character is beyond the last one. -/
theorem toNat_le_last (c : Char) : c.toNat ≤ last := by
  have := c.valid
  simp only [last, Char.toNat]
  rcases c.valid with h | h
  · have h' : c.val.toNat < 0xD800 := h
    omega
  · have h' : c.val.toNat < 0x110000 := h.2
    omega

/-- What is outside a range holds all characters but those of the range. -/
@[simp] theorem has_outside (range : Nat × Nat) (c : Char) :
    has (outside range) c = !(range.1 ≤ c.toNat && c.toNat ≤ range.2) := by
  have := toNat_le_last c
  rw [Bool.eq_iff_iff]
  simp only [outside, has_append, Bool.or_eq_true, Bool.not_eq_true', Bool.and_eq_false_iff,
    decide_eq_false_iff_not]
  constructor
  · rintro (h | h)
    · split at h
      · simp [has] at h
      · rename_i nonzero
        simp [has] at h nonzero
        omega
    · split at h
      · simp [has] at h
        omega
      · simp [has] at h
  · rintro (h | h)
    · refine Or.inl ?_
      rw [if_neg (by simp; omega)]
      simp [has]
      omega
    · refine Or.inr ?_
      rw [if_pos (by omega)]
      simp [has]
      omega

/-- A complement holds what the set does not hold. -/
@[simp] theorem has_complement (set : CharSet) (c : Char) :
    has set.complement c = !has set c := by
  suffices ∀ rest : CharSet,
      has (set.foldl (fun rest range => meet rest (outside range)) rest) c =
        (has rest c && !has set c) by
    rw [complement, this]
    simp [has, toNat_le_last]
  induction set with
  | nil => simp [has]
  | cons range set ih =>
      intro rest
      rw [List.foldl_cons, ih, has_meet, has_outside, Bool.and_assoc, ← Bool.not_or]
      rfl

end CharSet

/-- A condition on a place in a text. -/
inductive Border where
  | textStart
  | textEnd
  | lineStart
  | lineEnd
  /-- Lines may also end in a carriage return, alone or in front of a line
  feed. -/
  | eitherLineStart
  | eitherLineEnd
  /-- A word is on one side alone. -/
  | word
  | notWord
  | wordStart
  | wordEnd
deriving DecidableEq, Repr

inductive Regex where
  | nothing
  | one (set : CharSet)
  | border (kind : Border)
  | both (first second : Regex)
  /-- The first choice is preferred. -/
  | either (first second : Regex)
  /-- Once or more; as often as possible if `greedy`. -/
  | repeated (body : Regex) (greedy : Bool)
  /-- More times, perhaps none, behind as many as there were. -/
  | again (body : Regex) (greedy : Bool)
deriving DecidableEq, Repr, Inhabited

namespace Regex

def optional (body : Regex) (greedy : Bool) : Regex :=
  if greedy then .either body .nothing else .either .nothing body

/-- Whether an expression fits where there are no characters, given that the
places that it asks for are there. -/
def fitsNothing : Regex → Bool
  | .nothing | .border _ | .again _ _ => true
  | .one _ => false
  | .both first second => first.fitsNothing && second.fitsNothing
  | .either first second => first.fitsNothing || second.fitsNothing
  | .repeated body _ => body.fitsNothing

/-- Any number of times. A body that fits nothing is tried once even so, which
keeps its choices in their order. -/
def many (body : Regex) (greedy : Bool) : Regex :=
  if body.fitsNothing then optional (.repeated body greedy) greedy else .again body greedy

/-- How many nodes an expression has. -/
def size : Regex → Nat
  | .nothing | .one _ | .border _ => 1
  | .both first second | .either first second => first.size + second.size + 1
  | .repeated body _ | .again body _ => body.size + 1

/-! ## Places -/

/-- A place between two characters of a text. -/
structure Gap where
  before : Option Char
  after : Option Char

namespace Gap

def isBehindWord (gap : Gap) : Bool := gap.before.any CharSet.word.has

def isBeforeWord (gap : Gap) : Bool := gap.after.any CharSet.word.has

def meets (gap : Gap) : Border → Bool
  | .textStart => gap.before.isNone
  | .textEnd => gap.after.isNone
  | .lineStart => gap.before.isNone || gap.before == some '\n'
  | .lineEnd => gap.after.isNone || gap.after == some '\n'
  | .eitherLineStart =>
      gap.before.isNone || gap.before == some '\n' ||
        (gap.before == some '\r' && gap.after != some '\n')
  | .eitherLineEnd =>
      gap.after.isNone || gap.after == some '\r' ||
        (gap.after == some '\n' && gap.before != some '\r')
  | .word => gap.isBehindWord != gap.isBeforeWord
  | .notWord => gap.isBehindWord == gap.isBeforeWord
  | .wordStart => !gap.isBehindWord && gap.isBeforeWord
  | .wordEnd => gap.isBehindWord && !gap.isBeforeWord

end Gap

/-! ## Search -/

/-- What is left of a choice: expressions to come, in order. -/
abbrev Pending := List Regex

/-- Choices under way: those met before, and those that wait for a character or
have come to their end, in reverse. -/
structure Frontier where
  met : List Pending := []
  waiting : List Pending := []

/-- Whether a choice has come to its end. -/
def Frontier.isDone (frontier : Frontier) : Bool :=
  frontier.waiting.any List.isEmpty

/-- Follows a choice as far as no character is needed. -/
def advance (gap : Gap) : Nat → Pending → Frontier → Frontier
  | 0, _, frontier => frontier
  | fuel + 1, pending, frontier =>
      if frontier.isDone || frontier.met.contains pending then frontier
      else
        let frontier := { frontier with met := pending :: frontier.met }
        match pending with
        | [] | .one _ :: _ => { frontier with waiting := pending :: frontier.waiting }
        | .nothing :: rest => advance gap fuel rest frontier
        | .border kind :: rest =>
            if gap.meets kind then advance gap fuel rest frontier else frontier
        | .both first second :: rest => advance gap fuel (first :: second :: rest) frontier
        | .either first second :: rest =>
            advance gap fuel (second :: rest) (advance gap fuel (first :: rest) frontier)
        | .repeated body greedy :: rest =>
            advance gap fuel (body :: .again body greedy :: rest) frontier
        | .again body greedy :: rest =>
            let more := body :: .again body greedy :: rest
            if greedy then advance gap fuel rest (advance gap fuel more frontier)
            else advance gap fuel more (advance gap fuel rest frontier)

/-- Follows several choices in their order. -/
def advanceAll (gap : Gap) (fuel : Nat) (choices : List Pending) : Frontier :=
  choices.foldl (fun frontier pending => advance gap fuel pending frontier) {}

/-- What is left of a choice behind a character. -/
def taking (c : Char) : Pending → Option Pending
  | .one set :: rest => if set.has c then some rest else none
  | _ => none

/-- Whether the choice that wins ends where the text does. A fresh start is the
last choice at every place, also between the bytes of a character, until one of
the choices has come to its end. -/
def search (regex : Regex) (fuel : Nat) :
    Bool → Option Char → List Pending → List Char → Bool
  | isFresh, before, choices, text =>
      let choices := choices ++ (if isFresh then [[regex]] else [])
      let frontier := advanceAll ⟨before, text.head?⟩ fuel choices
      match text with
      | [] => frontier.isDone
      | c :: rest =>
          let endsWithin := 1 < c.utf8Size && (advanceAll ⟨some c, some c⟩ fuel [[regex]]).isDone
          let isFresh := isFresh && !frontier.isDone && !endsWithin
          search regex fuel isFresh (some c) (frontier.waiting.reverse.filterMap (taking c)) rest

/-- Whether the first place from which an expression fits leads to the end of a
text. Of two ways to read on from there the preferred one counts, even if only
the other would have reached the end. -/
def endsText (regex : Regex) (text : List Char) : Bool :=
  search regex ((regex.size + 2) * (regex.size + 2)) true none [] text

end Regex

end InterfaceAudit
