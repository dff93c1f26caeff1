/-!
Contract: the Unicode class White_Space, and the cutting of text that depends
on it.

Owns:
- the class itself, as a Boolean test on characters;
- removal of trailing blanks and the blank-line test;
- splitting at separators and into blank-separated words.

Does not own: the narrower notions of space used by JSON or by the command
interpreter.
-/

namespace InterfaceAudit.Text

/-- The members of the Unicode class White_Space. -/
def isBlank (c : Char) : Bool :=
  let code := c.toNat
  (0x9 ≤ code && code ≤ 0xD) || code == 0x20 || code == 0x85 || code == 0xA0 ||
    code == 0x1680 || (0x2000 ≤ code && code ≤ 0x200A) || code == 0x2028 ||
    code == 0x2029 || code == 0x202F || code == 0x205F || code == 0x3000

/-- The Unicode category Cc: the C0 and C1 controls and DEL. -/
def isControl (c : Char) : Bool :=
  c.toNat < 0x20 || (0x7F ≤ c.toNat && c.toNat ≤ 0x9F)

def trimEnd (text : List Char) : List Char :=
  (text.reverse.dropWhile isBlank).reverse

/-- Adds one character in front of a text that is already split. -/
def prependField
    (separates : Char → Bool)
    (c : Char)
    (fields : List (List Char)) :
    List (List Char) :=
  if separates c then
    [] :: fields
  else
    match fields with
    | [] => [[c]]
    | field :: others => (c :: field) :: others

/-- The stretches between separators: one more than there are separators. -/
def splitFields (separates : Char → Bool) (text : List Char) : List (List Char) :=
  text.foldr (prependField separates) [[]]

@[simp] theorem splitFields_nil (separates : Char → Bool) :
    splitFields separates [] = [[]] := rfl

theorem splitFields_cons (separates : Char → Bool) (c : Char) (text : List Char) :
    splitFields separates (c :: text) =
      prependField separates c (splitFields separates text) := rfl

theorem splitFields_ne_nil (separates : Char → Bool) (text : List Char) :
    splitFields separates text ≠ [] := by
  induction text with
  | nil => simp
  | cons c text _ =>
      simp only [splitFields_cons, prependField]
      split
      · simp
      · split <;> simp

/-- A text without separators is one field. -/
theorem splitFields_of_forall_not
    {separates : Char → Bool}
    {text : List Char}
    (free : ∀ c ∈ text, separates c = false) :
    splitFields separates text = [text] := by
  induction text with
  | nil => rfl
  | cons c text ih =>
      have head : separates c = false := free c (by simp)
      have tail : splitFields separates text = [text] :=
        ih fun d member => free d (by simp [member])
      simp [splitFields_cons, prependField, head, tail]

/-- The first separator ends the first field. -/
theorem splitFields_append_cons
    {separates : Char → Bool}
    {field : List Char}
    {c : Char}
    (free : ∀ d ∈ field, separates d = false)
    (ends : separates c = true)
    (rest : List Char) :
    splitFields separates (field ++ c :: rest) = field :: splitFields separates rest := by
  induction field with
  | nil => simp [splitFields_cons, prependField, ends]
  | cons d field ih =>
      have head : separates d = false := free d (by simp)
      have tail := ih fun e member => free e (by simp [member])
      simp [splitFields_cons, prependField, head, tail]

/-- The maximal runs of characters that are not blank. -/
def words (text : List Char) : List (List Char) :=
  (splitFields isBlank text).filter (fun word => !word.isEmpty)

def wordList (line : String) : List String :=
  (words line.toList).map String.ofList

def joinWith (separator : String) (texts : List String) : String :=
  separator.intercalate texts

end InterfaceAudit.Text
