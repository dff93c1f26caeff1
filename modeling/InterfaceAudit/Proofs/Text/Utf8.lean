import InterfaceAudit.Path

/-!
Contract: decoding of texts that were encoded.

Owns:
- the law that both decoders give an encoded text back, one character after the
  other;
- the paths that are text, which are what they are shown as.

Does not own: bytes that are no UTF-8.
-/

namespace InterfaceAudit.Utf8

/-! ## Bytes -/

theorem toNat_ofNat_of_lt {n : Nat} (isByte : n < 256) : (UInt8.ofNat n).toNat = n :=
  UInt8.toNat_ofNat_of_lt' isByte

/-- The first of two bytes. -/
theorem start_two {lead : Nat} (atLeast : 0xC2 ≤ lead) (below : lead < 0xE0) :
    start lead = (none, .inside 0 0x80 0xBF (lead - 0xC0)) := by
  rw [start, if_neg (by omega), if_neg (by omega), if_pos below]

/-- The first of three bytes. Two of them narrow what may come second, against
texts that are too long and against surrogates. -/
theorem start_three {lead : Nat} (atLeast : 0xE0 ≤ lead) (below : lead < 0xF0) :
    start lead = (none, .inside 1 (if lead = 0xE0 then 0xA0 else 0x80)
      (if lead = 0xED then 0x9F else 0xBF) (lead - 0xE0)) := by
  rw [start, if_neg (by omega), if_neg (by omega), if_neg (by omega)]
  by_cases isFirst : lead = 0xE0
  · subst isFirst; rfl
  · by_cases isSurrogate : lead = 0xED
    · subst isSurrogate; rfl
    · simp [isFirst, isSurrogate, below]

/-- The first of four bytes. Two of them narrow what may come second, against
texts that are too long and against numbers that are no characters. -/
theorem start_four {lead : Nat} (atLeast : 0xF0 ≤ lead) (atMost : lead ≤ 0xF4) :
    start lead = (none, .inside 2 (if lead = 0xF0 then 0x90 else 0x80)
      (if lead = 0xF4 then 0x8F else 0xBF) (lead - 0xF0)) := by
  rw [start, if_neg (by omega), if_neg (by omega), if_neg (by omega)]
  by_cases isFirst : lead = 0xF0
  · subst isFirst; rfl
  · by_cases isLast : lead = 0xF4
    · subst isLast; rfl
    · have notThree : ¬lead < 0xF0 ∧ lead ≠ 0xE0 ∧ lead ≠ 0xED := by omega
      have below : lead < 0xF4 := by omega
      simp [isFirst, isLast, below, notThree]

section Steps

variable {state : State} {owed low high value byte : Nat} {collected : List Char} {rest : Bytes}

/-- A byte that starts a sequence. -/
theorem decodeFrom_start (isByte : byte < 256) (starts : start byte = (none, state)) :
    decodeFrom .boundary collected (UInt8.ofNat byte :: rest) =
      decodeFrom state collected rest := by
  rw [decodeFrom, step, toNat_ofNat_of_lt isByte, starts]
  rfl

/-- A byte that continues a sequence which owes more. -/
theorem decodeFrom_more (isByte : byte < 256) (atLeast : low ≤ byte) (atMost : byte ≤ high) :
    decodeFrom (.inside (owed + 1) low high value) collected (UInt8.ofNat byte :: rest) =
      decodeFrom (.inside owed 0x80 0xBF (value * 64 + (byte - 0x80))) collected rest := by
  rw [decodeFrom, step, toNat_ofNat_of_lt isByte, if_pos (by simp [atLeast, atMost])]
  rfl

/-- The last byte of a sequence. -/
theorem decodeFrom_last (isByte : byte < 256) (atLeast : low ≤ byte) (atMost : byte ≤ high) :
    decodeFrom (.inside 0 low high value) collected (UInt8.ofNat byte :: rest) =
      decodeFrom .boundary (Char.ofNat (value * 64 + (byte - 0x80)) :: collected) rest := by
  rw [decodeFrom, step, toNat_ofNat_of_lt isByte, if_pos (by simp [atLeast, atMost])]
  rfl

end Steps

/-! ## Characters -/

/-- An encoded character is decoded, wherever it stands. -/
theorem decodeFrom_utf8EncodeChar (c : Char) (collected : List Char) (rest : Bytes) :
    decodeFrom .boundary collected (String.utf8EncodeChar c ++ rest) =
      decodeFrom .boundary (c :: collected) rest := by
  have isScalar : c.val.toNat < 0xD800 ∨ 0xDFFF < c.val.toNat ∧ c.val.toNat < 0x110000 := c.valid
  have isChar {n : Nat} (same : n = c.val.toNat) : Char.ofNat n = c := by
    rw [same]
    exact Char.ofNat_toNat c
  -- One case for each length. Surrogates are no characters, hence `isScalar` for three bytes.
  fun_cases String.utf8EncodeChar c
  case case1 v one =>
    have small : start v = (some (Char.ofNat v), .boundary) := if_pos (by omega)
    rw [List.singleton_append, decodeFrom, step, toNat_ofNat_of_lt (by omega), small, isChar rfl]
    rfl
  case case2 v notOne two =>
    simp only [List.cons_append, List.nil_append]
    rw [decodeFrom_start (by omega) (start_two (by omega) (by omega)),
      decodeFrom_last (by omega) (by omega) (by omega), isChar (by omega)]
  case case3 v notOne notTwo three =>
    simp only [List.cons_append, List.nil_append]
    rw [decodeFrom_start (by omega) (start_three (by omega) (by omega)),
      decodeFrom_more (by omega) (by split <;> omega) (by split <;> omega),
      decodeFrom_last (by omega) (by omega) (by omega), isChar (by omega)]
  case case4 v notOne notTwo notThree =>
    simp only [List.cons_append, List.nil_append]
    rw [decodeFrom_start (by omega) (start_four (by omega) (by omega)),
      decodeFrom_more (by omega) (by split <;> omega) (by split <;> omega),
      decodeFrom_more (by omega) (by omega) (by omega),
      decodeFrom_last (by omega) (by omega) (by omega), isChar (by omega)]

/-- An encoded text is decoded, wherever it stands. -/
theorem decodeFrom_encode (text collected : List Char) (rest : Bytes) :
    decodeFrom .boundary collected (encode text ++ rest) =
      decodeFrom .boundary (text.reverse ++ collected) rest := by
  induction text generalizing collected with
  | nil => rfl
  | cons c text inductionHypothesis =>
      rw [encode, List.flatMap_cons, List.append_assoc, decodeFrom_utf8EncodeChar, ← encode,
        inductionHypothesis, List.reverse_cons, List.append_assoc, List.singleton_append]

theorem decodeLossy_encode (text : List Char) : decodeLossy (encode text) = text := by
  have decoded := decodeFrom_encode text [] []
  rw [List.append_nil, List.append_nil, decodeFrom, List.reverse_reverse] at decoded
  exact decoded.trans (List.append_nil text)

theorem toStringLossy_ofString (text : String) : toStringLossy (ofString text) = text := by
  rw [toStringLossy, ofString, decodeLossy_encode, String.ofList_toList]

end InterfaceAudit.Utf8

namespace InterfaceAudit.Path

/-- A path that is text. Other paths are shown with marks in them. -/
def IsUtf8 (path : Path) : Prop :=
  ∃ text : String, path.bytes = Utf8.ofString text

theorem isUtf8_ofString (text : String) : (ofString text).IsUtf8 :=
  ⟨text, rfl⟩

theorem ofString_shown {path : Path} (isUtf8 : path.IsUtf8) : ofString path.shown = path := by
  obtain ⟨text, isText⟩ := isUtf8
  rw [ofString, shown, isText, Utf8.toStringLossy_ofString, ← isText]

end InterfaceAudit.Path
