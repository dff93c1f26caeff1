import InterfaceAudit.Json.Value

/-!
Contract: the grammar of JSON, as a relation between trees and texts.

Owns:
- the texts of words, numerals and strings;
- lists and objects of texts, with blanks wherever the grammar allows them;
- the relation itself, which bounds how deep lists and objects are nested.

Does not own: the machine that reads texts. Nothing here mentions tokens.

Trees of the relation are whole: every list and object is closed, and nothing is
missing. What follows a string in a larger text is no matter of the string, so
every string of such a tree is one with a single byte behind it.
-/

namespace InterfaceAudit.Json

/-! ## Leaves -/

def Word.letters : Word → List Char
  | .null => ['n', 'u', 'l', 'l']
  | .yes => ['t', 'r', 'u', 'e']
  | .no => ['f', 'a', 'l', 's', 'e']

/-- One or more decimal digits. -/
structure AreDigits (text : List Char) : Prop where
  isDigit : ∀ c ∈ text, c.isDigit = true
  ne_nil : text ≠ []

/-- The digits before the point: a zero stands alone. -/
inductive IsWhole : List Char → Prop where
  | zero : IsWhole ['0']
  | digits {first : Char} {others : List Char}
      (isDigit : first.isDigit = true)
      (notZero : first ≠ '0')
      (areDigits : ∀ c ∈ others, c.isDigit = true) :
      IsWhole (first :: others)

/-- The text of the part of a numeral behind the point, with the point. -/
inductive SpellsFraction : Option (List Char) → List Char → Prop where
  | none : SpellsFraction none []
  | some {digits : List Char} (areDigits : AreDigits digits) :
      SpellsFraction (some digits) ('.' :: digits)

/-- The text of an exponent with its mark. The sign of one that is not negative
may be left out. -/
inductive SpellsExponent : Option ExponentPart → List Char → Prop where
  | none : SpellsExponent none []
  | unsigned {mark : Char} {digits : List Char}
      (isMark : mark = 'e' ∨ mark = 'E')
      (areDigits : AreDigits digits) :
      SpellsExponent (some ⟨false, digits⟩) (mark :: digits)
  | positive {mark : Char} {digits : List Char}
      (isMark : mark = 'e' ∨ mark = 'E')
      (areDigits : AreDigits digits) :
      SpellsExponent (some ⟨false, digits⟩) (mark :: '+' :: digits)
  | negative {mark : Char} {digits : List Char}
      (isMark : mark = 'e' ∨ mark = 'E')
      (areDigits : AreDigits digits) :
      SpellsExponent (some ⟨true, digits⟩) (mark :: '-' :: digits)

def signText (negative : Bool) : List Char :=
  if negative then ['-'] else []

/-- The text of a numeral. -/
structure SpellsNumeral (numeral : Numeral) (text : List Char) : Prop where
  isWhole : IsWhole numeral.whole
  isSpelled : ∃ fraction exponent,
    SpellsFraction numeral.fraction? fraction ∧
    SpellsExponent numeral.exponent? exponent ∧
    text = signText numeral.negative ++ (numeral.whole ++ (fraction ++ exponent))

/-- The letters that may follow a backslash alone. -/
def escapeLetters : List Char := ['"', '\\', '/', 'b', 'f', 'n', 'r', 't']

/-- The hexadecimal digits of either case. -/
def hexDigits : List Char := "0123456789abcdefABCDEF".toList

/-- What may stand between the quotes of a string. Four digits behind a `u` may
also be half of a surrogate pair. -/
inductive IsBody : List Char → Prop where
  | nil : IsBody []
  | plain {c : Char} {rest : List Char}
      (printable : 0x20 ≤ c.toNat)
      (notQuote : c ≠ '"')
      (notBackslash : c ≠ '\\')
      (others : IsBody rest) :
      IsBody (c :: rest)
  | letter {c : Char} {rest : List Char}
      (known : c ∈ escapeLetters)
      (others : IsBody rest) :
      IsBody ('\\' :: c :: rest)
  | unit {a b c d : Char} {rest : List Char}
      (areHex : ∀ digit ∈ [a, b, c, d], digit ∈ hexDigits)
      (others : IsBody rest) :
      IsBody ('\\' :: 'u' :: a :: b :: c :: d :: rest)

def inQuotes (body : List Char) : List Char :=
  '"' :: (body ++ ['"'])

/-! ## Lists and objects -/

/-- Blanks between tokens. -/
def IsSpaced (text : List Char) : Prop :=
  ∀ c ∈ text, Token.isSpace c = true

theorem isSpaced_nil : IsSpaced [] :=
  fun _ member => absurd member List.not_mem_nil

/-- Texts with commas between them, and blanks around each. -/
inductive Joined : List (List Char) → List Char → Prop where
  | empty {inner : List Char} (spaced : IsSpaced inner) : Joined [] inner
  | last {text before behind : List Char}
      (spacedBefore : IsSpaced before)
      (spacedBehind : IsSpaced behind) :
      Joined [text] (before ++ (text ++ behind))
  | more {text next before behind inner : List Char} {others : List (List Char)}
      (spacedBefore : IsSpaced before)
      (spacedBehind : IsSpaced behind)
      (joined : Joined (next :: others) inner) :
      Joined (text :: next :: others) (before ++ (text ++ (behind ++ ',' :: inner)))

/-- A key and the text of a value, with a colon between them and blanks around
the colon. -/
def IsMember (key value text : List Char) : Prop :=
  ∃ before behind, IsSpaced before ∧ IsSpaced behind ∧
    text = inQuotes key ++ (before ++ ':' :: (behind ++ value))

/-- A member of an object: the body of its key, its value as a tree and as a
text, and the text of the whole. -/
structure Entry where
  key : List Char
  tree : Draft
  value : List Char
  text : List Char

def Entry.member (entry : Entry) : Enclosed × Draft :=
  (⟨entry.key, 1⟩, entry.tree)

/-- A text spells a tree whose lists and objects are nested at most so deep. -/
inductive Spells : Nat → Draft → List Char → Prop where
  | word {depth : Nat} (word : Word) : Spells depth (.word word) word.letters
  | number {depth : Nat} {numeral : Numeral} {text : List Char}
      (spelled : SpellsNumeral numeral text) :
      Spells depth (.number numeral) text
  | string {depth : Nat} {body : List Char} (isBody : IsBody body) :
      Spells depth (.string ⟨body, 1⟩) (inQuotes body)
  | list {depth : Nat} {items : List (Draft × List Char)} {inner : List Char}
      (each : ∀ item ∈ items, Spells depth item.1 item.2)
      (joined : Joined (items.map Prod.snd) inner) :
      Spells (depth + 1) (.list (items.map Prod.fst) .closed) ('[' :: (inner ++ [']']))
  | object {depth : Nat} {entries : List Entry} {inner : List Char}
      (keys : ∀ entry ∈ entries, IsBody entry.key)
      (members : ∀ entry ∈ entries, IsMember entry.key entry.value entry.text)
      (each : ∀ entry ∈ entries, Spells depth entry.tree entry.value)
      (joined : Joined (entries.map Entry.text) inner) :
      Spells (depth + 1) (.object (entries.map Entry.member) .closed) ('{' :: (inner ++ ['}']))

/-- A well-formed JSON value, nested at most so deep. -/
def IsJson (depth : Nat) (text : List Char) : Prop :=
  ∃ tree, Spells depth tree text

end InterfaceAudit.Json
