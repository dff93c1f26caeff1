import InterfaceAudit.Proofs.Literal.Reading

/-!
Contract: what a literal lets through to the text around it, which is nothing.

Owns:
- the characters of a written literal, none of which is a control;
- where reading ends without a value: at an interpolation, at an escape that is
  not known, and where the text ends;
- the law that a literal holds its value and nothing else, whatever follows it.

Does not own: the statements and the files that hold literals.
-/

namespace InterfaceAudit.Literal

/-! ## The characters of a literal -/

theorem not_isControl_digitChar : ∀ digit < 16, Text.isControl (Nat.digitChar digit) = false := by
  decide

theorem not_isControl_of_all
    {chars : List Char}
    (isPlain : chars.all (fun c => !Text.isControl c) = true) :
    ∀ c ∈ chars, Text.isControl c = false := by
  simpa using isPlain

theorem not_isControl_codePointEscape (c : Char) :
    ∀ d ∈ codePointEscape c, Text.isControl d = false := by
  intro d member
  rw [codePointEscape, List.append_assoc, List.mem_append, List.mem_append] at member
  rcases member with opening | digit | closing
  · exact not_isControl_of_all (by decide) d opening
  · obtain ⟨value, small, rfl⟩ := exists_digit_of_mem_hexDigits digit
    exact not_isControl_digitChar value small
  · rw [List.mem_singleton.mp closing]
    rfl

/-- Controls are written by a letter or by their code point, and nothing else that
is written is a control. -/
theorem not_isControl_escape (c : Char) : ∀ d ∈ escape c, Text.isControl d = false := by
  unfold escape
  split
  · exact not_isControl_of_all (by decide)
  · exact not_isControl_of_all (by decide)
  · exact not_isControl_of_all (by decide)
  · exact not_isControl_of_all (by decide)
  · exact not_isControl_of_all (by decide)
  · exact not_isControl_of_all (by decide)
  next =>
    split
    case isTrue => exact not_isControl_codePointEscape c
    case isFalse isPlain =>
      intro d member
      rw [List.mem_singleton.mp member]
      exact Bool.eq_false_iff.mpr isPlain

theorem not_isControl_quoteChars (value : List Char) :
    ∀ c ∈ quoteChars value, Text.isControl c = false := by
  intro c member
  simp only [quoteChars, List.mem_cons, List.mem_append, List.not_mem_nil, or_false] at member
  rcases member with rfl | inside | rfl
  · rfl
  · obtain ⟨original, _, written⟩ := List.mem_flatMap.mp inside
    exact not_isControl_escape original c written
  · rfl

theorem isControl_eq_false_iff (c : Char) :
    Text.isControl c = false ↔ ¬(c.toNat < 0x20 ∨ (0x7F ≤ c.toNat ∧ c.toNat ≤ 0x9F)) := by
  simp [Text.isControl]

/-! ## Where reading ends without a value -/

theorem readBody_of_none {text : List Char} (stuck : element? text = none) :
    readBody text = none := by
  rw [readBody]
  split <;> simp_all

/-- What is written in front of it never helps reading over a place without a next
element. -/
theorem readBody_flatMap_escape_of_none
    {text : List Char}
    (stuck : element? text = none)
    (value : List Char) :
    readBody (value.flatMap escape ++ text) = none := by
  induction value with
  | nil => exact readBody_of_none stuck
  | cons c value inductionHypothesis =>
      rw [List.flatMap_cons, List.append_assoc, readBody_of_character (element?_escape c _),
        inductionHypothesis, Option.map_none]

theorem element?_of_interpolation
    {after : List Char}
    (opens : opensInterpolation after = true) :
    element? ('#' :: after) = none := by
  simp [element?, opens]

theorem element?_of_unknown {after : List Char} (unknown : escaped? after = none) :
    element? ('\\' :: after) = none := by
  simp [element?, unknown]

/-! ## The law of containment -/

/-- A literal holds its value and nothing else. Whatever text follows it, it is read
as its value, and reading stops right behind it, though reading would end without a
value at an interpolation, at an escape that is not known, and without a closing
quote. So no literal is the beginning of another one. It holds no control, and with
that no line break. -/
theorem literal_contains_value (value : String) (rest : List Char) :
    let body := value.toList.flatMap escape
    let literal := (quote value).toList
    literal = '"' :: (body ++ ['"']) ∧
    read (literal ++ rest) = some (value.toList, rest) ∧
    (∀ (other : String) (behind : List Char),
      literal ++ rest = (quote other).toList ++ behind → other = value ∧ behind = rest) ∧
    (∀ c ∈ literal, ¬(c.toNat < 0x20 ∨ (0x7F ≤ c.toNat ∧ c.toNat ≤ 0x9F))) ∧
    -- What reading does not get past.
    (∀ after, opensInterpolation after = true → read ('"' :: (body ++ '#' :: after)) = none) ∧
    (∀ after, escaped? after = none → read ('"' :: (body ++ '\\' :: after)) = none) ∧
    read ('"' :: body) = none := by
  intro body literal
  have isLiteral (text : String) : (quote text).toList = quoteChars text.toList :=
    String.toList_ofList
  have isRead (text : String) (behind : List Char) :
      read ((quote text).toList ++ behind) = some (text.toList, behind) := by
    rw [isLiteral]
    exact read_quoteChars text.toList behind
  refine ⟨isLiteral value, isRead value rest, ?_, ?_, ?_, ?_, ?_⟩
  · intro other behind same
    have twice : some (value.toList, rest) = some (other.toList, behind) := by
      rw [← isRead value rest, ← isRead other behind, ← same]
    simp only [Option.some.injEq, Prod.mk.injEq] at twice
    exact ⟨(String.toList_inj.mp twice.1).symm, twice.2.symm⟩
  · intro c member
    rw [← isControl_eq_false_iff]
    refine not_isControl_quoteChars value.toList c ?_
    rw [← isLiteral]
    exact member
  · intro after opens
    exact readBody_flatMap_escape_of_none (element?_of_interpolation opens) value.toList
  · intro after unknown
    exact readBody_flatMap_escape_of_none (element?_of_unknown unknown) value.toList
  · have atEnd : element? [] = none := rfl
    have unfinished := readBody_flatMap_escape_of_none atEnd value.toList
    rw [List.append_nil] at unfinished
    exact unfinished

/-- A value that tries to close its literal, to open an interpolation and to break
the line, in front of a text that would go on with all of that. -/
theorem literal_contains_value_of_forgery :
    let value := "\\\" + `id` #\x7bx\x7d\n\x07\x85"
    let rest := "0#\x7bx\x7d\"".toList
    (quote value).toList = "\"\\\\\\\" + `id` \\#\x7bx\x7d\\n\\u\x7b7\x7d\\u\x7b85\x7d\"".toList ∧
    read ((quote value).toList ++ rest) = some (value.toList, rest) ∧
    'u' ∈ (quote value).toList ∧ ¬('u'.toNat < 0x20 ∨ (0x7F ≤ 'u'.toNat ∧ 'u'.toNat ≤ 0x9F)) ∧
    opensInterpolation "\x7bx\x7d\"".toList = true ∧
    read ('"' :: (value.toList.flatMap escape ++ '#' :: "\x7bx\x7d\"".toList)) = none ∧
    escaped? "q\"".toList = none ∧
    read ('"' :: (value.toList.flatMap escape ++ '\\' :: "q\"".toList)) = none := by
  intro value rest
  obtain ⟨_, isRead, _, noControl, stopsAtInterpolation, stopsAtUnknown, _⟩ :=
    literal_contains_value value rest
  have member : 'u' ∈ (quote value).toList := by decide
  exact ⟨by decide, isRead, member, noControl 'u' member, rfl, stopsAtInterpolation _ rfl, rfl,
    stopsAtUnknown _ rfl⟩

end InterfaceAudit.Literal
