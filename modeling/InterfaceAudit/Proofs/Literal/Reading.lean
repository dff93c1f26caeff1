import InterfaceAudit.Text.Literal

/-!
Contract: reading a double-quoted literal back, whatever text follows it.

Owns:
- the grammar of a literal: the quotes, the escapes, and the openings of an
  interpolation, at which reading ends without a value;
- the law that reading undoes writing and stops right behind the closing quote.

Does not own: the statements and the files that hold literals.
-/

namespace InterfaceAudit.Literal

/-! ## The grammar -/

/-- The value of a hexadecimal digit of either case. -/
def hexDigit? (c : Char) : Option Nat :=
  if '0' ≤ c ∧ c ≤ '9' then some (c.toNat - 48)
  else if 'a' ≤ c ∧ c ≤ 'f' then some (c.toNat - 87)
  else if 'A' ≤ c ∧ c ≤ 'F' then some (c.toNat - 55)
  else none

def hexNumber? (digits : List Char) : Option Nat :=
  digits.foldlM (fun number c => (hexDigit? c).map (16 * number + ·)) 0

/-- The character with a code point, if there is one. -/
def codePoint? (code : Nat) : Option Char :=
  if code.isValidChar then some (Char.ofNat code) else none

def written? (digits : List Char) : Option Char :=
  if 1 ≤ digits.length ∧ digits.length ≤ 6 then (hexNumber? digits).bind codePoint? else none

/-- A code point in braces, with what follows them. -/
def braced? : List Char → Option (Char × List Char)
  | '{' :: text =>
      match text.dropWhile (· != '}') with
      | _ :: rest => (written? (text.takeWhile (· != '}'))).map (·, rest)
      | [] => none
  | _ => none

/-- The character that a letter stands for behind a backslash. -/
def letterEscape? : Char → Option Char
  | '\\' => some '\\'
  | '"' => some '"'
  | '#' => some '#'
  | 'n' => some '\n'
  | 'r' => some '\r'
  | 't' => some '\t'
  | _ => none

/-- What stands behind a backslash, with what follows it. Escapes that are not
known have no value. -/
def escaped? : List Char → Option (Char × List Char)
  | 'u' :: rest => braced? rest
  | c :: rest => (letterEscape? c).map (·, rest)
  | [] => none

/-- Whether a number sign in front of a text opens an interpolation. -/
def opensInterpolation : List Char → Bool
  | '{' :: _ => true
  | '$' :: _ => true
  | '@' :: _ => true
  | _ => false

/-- What comes next inside a literal: a character of its value, or its end. -/
inductive Element where
  | character (c : Char) (rest : List Char)
  | close (rest : List Char)
deriving DecidableEq, Repr

/-- Reads the next element. There is none at the end of the text, at an escape
that is not known, and where an interpolation opens. -/
def element? : List Char → Option Element
  | [] => none
  | c :: rest =>
      if c = '"' then some (.close rest)
      else if c = '\\' then (escaped? rest).map fun read => .character read.1 read.2
      else if c = '#' ∧ opensInterpolation rest then none
      else some (.character c rest)

theorem braced?_shorter
    {text rest : List Char}
    {c : Char}
    (read : braced? text = some (c, rest)) :
    rest.length < text.length := by
  unfold braced? at read
  split at read
  next text =>
    have dropped : (text.dropWhile (· != '}')).length ≤ text.length :=
      (List.dropWhile_suffix _).length_le
    split at read
    next brace after same =>
      obtain ⟨_, _, pair⟩ := Option.map_eq_some_iff.mp read
      have atRest : after = rest := congrArg Prod.snd pair
      rw [same, List.length_cons, atRest] at dropped
      rw [List.length_cons]
      omega
    next => contradiction
  next => contradiction

theorem escaped?_shorter
    {text rest : List Char}
    {c : Char}
    (read : escaped? text = some (c, rest)) :
    rest.length < text.length := by
  unfold escaped? at read
  split at read
  · have shorter := braced?_shorter read
    rw [List.length_cons]
    omega
  next letter tail _ =>
    obtain ⟨_, _, pair⟩ := Option.map_eq_some_iff.mp read
    have atRest : tail = rest := congrArg Prod.snd pair
    rw [← atRest, List.length_cons]
    omega
  · contradiction

/-- Reading a character uses up some of the text. -/
theorem element?_shorter
    {text rest : List Char}
    {c : Char}
    (read : element? text = some (.character c rest)) :
    rest.length < text.length := by
  unfold element? at read
  split at read
  · contradiction
  next first tail =>
    split at read
    · simp at read
    · split at read
      · obtain ⟨⟨_, after⟩, escaped, same⟩ := Option.map_eq_some_iff.mp read
        have shorter := escaped?_shorter escaped
        simp only [Element.character.injEq] at same
        rw [← same.2, List.length_cons]
        omega
      · split at read
        · contradiction
        · simp only [Option.some.injEq, Element.character.injEq] at read
          rw [← read.2, List.length_cons]
          omega

/-- Reads the value of a literal behind its opening quote. -/
def readBody (text : List Char) : Option (List Char × List Char) :=
  match _next : element? text with
  | none => none
  | some (.close rest) => some ([], rest)
  | some (.character c rest) => (readBody rest).map fun body => (c :: body.1, body.2)
termination_by text.length
decreasing_by exact element?_shorter ‹_›

/-- Reads a literal: its value, and what follows the closing quote. -/
def read : List Char → Option (List Char × List Char)
  | '"' :: text => readBody text
  | _ => none

theorem readBody_of_close
    {text rest : List Char}
    (next : element? text = some (.close rest)) :
    readBody text = some ([], rest) := by
  rw [readBody]
  split <;> simp_all

theorem readBody_of_character
    {text rest : List Char}
    {c : Char}
    (next : element? text = some (.character c rest)) :
    readBody text = (readBody rest).map fun body => (c :: body.1, body.2) := by
  rw [readBody]
  split <;> simp_all

/-! ## Code points in hexadecimal -/

/-- The sixteen digits are read as what they stand for. -/
theorem hexDigit?_digitChar : ∀ digit < 16, hexDigit? (Nat.digitChar digit) = some digit := by
  decide

theorem digitChar_ne_brace : ∀ digit < 16, Nat.digitChar digit ≠ '}' := by
  decide

theorem hexNumber?_append_digit (digits : List Char) {number digit : Nat}
    (before : hexNumber? digits = some number) (small : digit < 16) :
    hexNumber? (digits ++ [Nat.digitChar digit]) = some (16 * number + digit) := by
  unfold hexNumber? at before ⊢
  rw [List.foldlM_append, before]
  simp [hexDigit?_digitChar digit small]

theorem hexNumber?_hexDigits (code : Nat) : hexNumber? (hexDigits code) = some code := by
  unfold hexDigits
  induction code using Nat.strongRecOn with
  | ind code inductionHypothesis =>
      by_cases small : code < 16
      · rw [Nat.toDigits_of_lt_base small]
        simp [hexNumber?, hexDigit?_digitChar code small]
      · have leading := inductionHypothesis (code / 16) (by omega)
        have last : code % 16 < 16 := Nat.mod_lt code (by decide)
        rw [Nat.toDigits_of_base_le (by decide) (by omega),
          hexNumber?_append_digit _ leading last, Nat.div_add_mod]

theorem exists_digit_of_mem_hexDigits {code : Nat} {c : Char} (member : c ∈ hexDigits code) :
    ∃ digit < 16, c = Nat.digitChar digit := by
  unfold hexDigits at member
  induction code using Nat.strongRecOn with
  | ind code inductionHypothesis =>
      by_cases small : code < 16
      · rw [Nat.toDigits_of_lt_base small, List.mem_singleton] at member
        exact ⟨code, small, member⟩
      · rw [Nat.toDigits_of_base_le (by decide) (by omega), List.mem_append,
          List.mem_singleton] at member
        rcases member with leading | last
        · exact inductionHypothesis (code / 16) (by omega) leading
        · exact ⟨code % 16, Nat.mod_lt code (by decide), last⟩

theorem hexDigits_ne_brace (code : Nat) : ∀ c ∈ hexDigits code, c ≠ '}' := by
  intro c member
  obtain ⟨digit, small, rfl⟩ := exists_digit_of_mem_hexDigits member
  exact digitChar_ne_brace digit small

/-- A code point needs one to six digits. -/
theorem hexDigits_length (c : Char) :
    1 ≤ (hexDigits c.toNat).length ∧ (hexDigits c.toNat).length ≤ 6 := by
  unfold hexDigits
  have bound : c.toNat < 16 ^ 6 := by
    have valid := c.valid
    simp only [UInt32.isValidChar, Nat.isValidChar] at valid
    simp only [Char.toNat]
    omega
  exact ⟨Nat.length_toDigits_pos,
    (Nat.length_toDigits_le_iff (by decide) (by decide)).mpr bound⟩

theorem codePoint?_toNat (c : Char) : codePoint? c.toNat = some c := by
  have valid : c.toNat.isValidChar := c.valid
  rw [codePoint?, if_pos valid, Char.ofNat_toNat]

theorem written?_hexDigits (c : Char) : written? (hexDigits c.toNat) = some c := by
  rw [written?, if_pos (hexDigits_length c), hexNumber?_hexDigits, Option.bind_some,
    codePoint?_toNat]

/-- A code point in braces is read back as its character. -/
theorem braced?_hexDigits (c : Char) (rest : List Char) :
    braced? ('{' :: (hexDigits c.toNat ++ '}' :: rest)) = some (c, rest) := by
  have inside : ∀ d ∈ hexDigits c.toNat, (d != '}') = true := fun d member =>
    bne_iff_ne.mpr (hexDigits_ne_brace c.toNat d member)
  have taken : (hexDigits c.toNat ++ '}' :: rest).takeWhile (· != '}') = hexDigits c.toNat := by
    rw [List.takeWhile_append_of_pos inside]
    simp
  have dropped : (hexDigits c.toNat ++ '}' :: rest).dropWhile (· != '}') = '}' :: rest := by
    rw [List.dropWhile_append_of_pos inside]
    simp
  simp only [braced?, taken, dropped, written?_hexDigits, Option.map_some]

/-! ## Reading undoes writing -/

/-- A character that is written as an escape of its code point is read back. -/
theorem element?_codePointEscape (c : Char) (rest : List Char) :
    element? (codePointEscape c ++ rest) = some (.character c rest) := by
  have shape : codePointEscape c ++ rest =
      '\\' :: 'u' :: '{' :: (hexDigits c.toNat ++ '}' :: rest) := by
    simp [codePointEscape]
  rw [shape]
  simp [element?, escaped?, braced?_hexDigits]

theorem element?_plain
    {c : Char}
    (rest : List Char)
    (notBackslash : c ≠ '\\')
    (notQuote : c ≠ '"')
    (notSign : c ≠ '#') :
    element? ([c] ++ rest) = some (.character c rest) := by
  rw [List.singleton_append, element?, if_neg notQuote, if_neg notBackslash,
    if_neg fun opens => notSign opens.1]

/-- The one fact that carries the round trip: whatever follows, a written
character is read as itself, and nothing more of the text is used up. -/
theorem element?_escape (c : Char) (rest : List Char) :
    element? (escape c ++ rest) = some (.character c rest) := by
  unfold escape
  split
  · simp [element?, escaped?, letterEscape?]
  · simp [element?, escaped?, letterEscape?]
  · simp [element?, escaped?, letterEscape?]
  · simp [element?, escaped?, letterEscape?]
  · simp [element?, escaped?, letterEscape?]
  · simp [element?, escaped?, letterEscape?]
  next notBackslash notQuote notSign _ _ _ =>
    split
    · exact element?_codePointEscape c rest
    · exact element?_plain rest notBackslash notQuote notSign

theorem readBody_flatMap_escape (value rest : List Char) :
    readBody (value.flatMap escape ++ '"' :: rest) = some (value, rest) := by
  induction value with
  | nil => exact readBody_of_close (by simp [element?])
  | cons c value inductionHypothesis =>
      rw [List.flatMap_cons, List.append_assoc, readBody_of_character (element?_escape c _),
        inductionHypothesis, Option.map_some]

/-- Reading a written literal gives its value and stops behind it. -/
theorem read_quoteChars (value rest : List Char) :
    read (quoteChars value ++ rest) = some (value, rest) := by
  have shape : quoteChars value ++ rest = '"' :: (value.flatMap escape ++ '"' :: rest) := by
    simp [quoteChars]
  rw [shape]
  exact readBody_flatMap_escape value rest

end InterfaceAudit.Literal
