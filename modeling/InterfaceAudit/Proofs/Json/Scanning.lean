import InterfaceAudit.Proofs.Json.Spelling

/-!
Contract: the tokens that a spelled text starts with.

Owns:
- the law that tokens already found do not matter to those still to come;
- the token of every mark, word, string and numeral, in front of any text that
  does not go on with a numeral.

Does not own: what is built from the tokens.
-/

namespace InterfaceAudit.Json

namespace Token

/-! ## Tokens already found -/

theorem reverse_push (tokens : List Token) (token? : Option Token) :
    (push tokens token?).reverse = tokens.reverse ++ token?.toList := by
  cases token? with
  | none => exact (List.append_nil _).symm
  | some token => exact List.reverse_cons

/-- Tokens already found stand in front of those that are still to come. -/
theorem scanFrom_eq_append (state : LexState) (tokens : List Token) (text : List Char) :
    scanFrom state tokens text = tokens.reverse ++ scanFrom state [] text := by
  induction text generalizing state tokens with
  | nil =>
      cases state with
      | between => simp [scanFrom]
      | inWord spelled left => simp [scanFrom]
      | inNumber n => cases ended : n.finish? <;> simp [scanFrom, ended]
      | inString body escaped => simp [scanFrom]
  | cons c text inductionHypothesis =>
      cases state with
      | between =>
          -- Both sides take the same step, and only then does the hypothesis apply, twice.
          show scanFrom (start c).2 (push tokens (start c).1) text =
            tokens.reverse ++ scanFrom (start c).2 (push [] (start c).1) text
          rw [inductionHypothesis, inductionHypothesis _ (push [] _), reverse_push, reverse_push,
            List.append_assoc]
          rfl
      | inWord spelled left =>
          match left with
          | [] => simp [scanFrom]
          | [last] =>
              rw [scanFrom, scanFrom]
              split
              · rw [inductionHypothesis, inductionHypothesis _ [_]]
                simp
              · simp
          | next :: other :: left =>
              rw [scanFrom, scanFrom]
              split
              · exact inductionHypothesis _ _
              · simp
              · exact List.cons_ne_nil _ _
              · exact List.cons_ne_nil _ _
      | inNumber n =>
          rw [scanFrom, scanFrom]
          split
          · exact inductionHypothesis _ _
          · split
            · simp
            · split
              · simp
              next numeral _ =>
                show scanFrom (start c).2 (push (.number numeral :: tokens) (start c).1) text =
                  tokens.reverse ++ scanFrom (start c).2 (push [.number numeral] (start c).1) text
                rw [inductionHypothesis, inductionHypothesis _ (push [_] _), reverse_push,
                  reverse_push]
                simp
      | inString body escaped =>
          rw [scanFrom, scanFrom]
          split
          · exact inductionHypothesis _ _
          · split
            · rw [inductionHypothesis, inductionHypothesis _ [_]]
              simp
            · exact inductionHypothesis _ _

/-- A token that was just completed comes first. -/
theorem scanFrom_singleton (token : Token) (text : List Char) :
    scanFrom .between [token] text = token :: scan text :=
  scanFrom_eq_append .between [token] text

/-! ## Blanks, marks and words -/

theorem scan_append_of_spaced {blanks : List Char} (spaced : IsSpaced blanks) (rest : List Char) :
    scan (blanks ++ rest) = scan rest := by
  induction blanks with
  | nil => rfl
  | cons c blanks inductionHypothesis =>
      have isSpace : start c = (none, .between) := if_pos (spaced c List.mem_cons_self)
      rw [← inductionHypothesis fun d member => spaced d (List.mem_cons_of_mem _ member)]
      show scanFrom (start c).2 (push [] (start c).1) (blanks ++ rest) = _
      rw [isSpace]
      rfl

/-- A mark is a token by itself. -/
theorem scan_cons_of_mark
    {c : Char}
    {token : Token}
    (isMark : start c = (some token, .between))
    (rest : List Char) :
    scan (c :: rest) = token :: scan rest := by
  show scanFrom (start c).2 (push [] (start c).1) rest = _
  rw [isMark]
  exact scanFrom_singleton token rest

theorem scan_word (word : Word) (rest : List Char) :
    scan (word.letters ++ rest) = .word word :: scan rest := by
  cases word <;> exact scanFrom_singleton _ rest

/-! ## Strings -/

theorem one_le_bytesBeyond (rest : List Char) : 1 ≤ bytesBeyond rest := by
  rw [bytesBeyond]
  omega

theorem hexDigits_visible : ∀ c ∈ hexDigits, c ≠ '"' ∧ c ≠ '\\' := by
  have visible : hexDigits.all (fun c => c != '"' && c != '\\') = true := by decide
  simpa using List.all_eq_true.mp visible

/-- A character that is neither a quote nor a backslash is put to the body. -/
theorem scanFrom_inString_cons
    {c : Char}
    (notQuote : c ≠ '"')
    (notBackslash : c ≠ '\\')
    (reversed rest : List Char) :
    scanFrom (.inString reversed false) [] (c :: rest) =
      scanFrom (.inString (c :: reversed) false) [] rest := by
  rw [scanFrom, if_neg Bool.false_ne_true, if_neg (by simpa using notQuote),
    beq_eq_false_iff_ne.mpr notBackslash]

/-- A backslash puts itself and the next character to the body. -/
theorem scanFrom_inString_escape (c : Char) (reversed rest : List Char) :
    scanFrom (.inString reversed false) [] ('\\' :: c :: rest) =
      scanFrom (.inString (c :: '\\' :: reversed) false) [] rest := rfl

/-- A body is read up to the quote behind it. -/
theorem scanFrom_inString
    {body : List Char}
    (isBody : IsBody body)
    (reversed rest : List Char) :
    scanFrom (.inString reversed false) [] (body ++ '"' :: rest) =
      .string ⟨reversed.reverse ++ body, bytesBeyond rest⟩ :: scan rest := by
  induction isBody generalizing reversed with
  | nil =>
      rw [List.append_nil]
      exact scanFrom_singleton _ rest
  | plain printable notQuote notBackslash others inductionHypothesis =>
      rw [List.cons_append, scanFrom_inString_cons notQuote notBackslash, inductionHypothesis]
      simp
  | letter known others inductionHypothesis =>
      rw [List.cons_append, List.cons_append, scanFrom_inString_escape, inductionHypothesis]
      simp
  | @unit a b c d body areHex others inductionHypothesis =>
      have visible (digit : Char) (member : digit ∈ [a, b, c, d]) :
          digit ≠ '"' ∧ digit ≠ '\\' :=
        hexDigits_visible digit (areHex digit member)
      obtain ⟨aQuote, aBackslash⟩ := visible a (by simp)
      obtain ⟨bQuote, bBackslash⟩ := visible b (by simp)
      obtain ⟨cQuote, cBackslash⟩ := visible c (by simp)
      obtain ⟨dQuote, dBackslash⟩ := visible d (by simp)
      simp only [List.cons_append]
      rw [scanFrom_inString_escape, scanFrom_inString_cons aQuote aBackslash,
        scanFrom_inString_cons bQuote bBackslash, scanFrom_inString_cons cQuote cBackslash,
        scanFrom_inString_cons dQuote dBackslash, inductionHypothesis]
      simp

theorem scan_string {body : List Char} (isBody : IsBody body) (rest : List Char) :
    scan (inQuotes body ++ rest) = .string ⟨body, bytesBeyond rest⟩ :: scan rest := by
  have read := scanFrom_inString isBody [] rest
  rw [inQuotes, List.cons_append, List.append_assoc]
  exact read

end Token

/-! ## Numerals -/

/-- What follows a value: nothing, a blank, or a mark that no numeral holds. -/
def Delimits (rest : List Char) : Prop :=
  ∀ c ∈ rest.head?, Token.isSpace c = true ∨ c ∈ [',', ':', ']', '}']

theorem Delimits.append {blanks rest : List Char} (spaced : IsSpaced blanks)
    (delimits : Delimits rest) : Delimits (blanks ++ rest) := by
  cases blanks with
  | nil => exact delimits
  | cons d blanks =>
      intro c isHead
      cases isHead
      exact .inl (spaced d List.mem_cons_self)

/-- A character that delimits has no place in a numeral. -/
theorem Delimits.foreign {rest : List Char} (delimits : Delimits rest) :
    ∀ c ∈ rest.head?, c.isDigit = false ∧ c ≠ '.' ∧ c ≠ 'e' ∧ c ≠ 'E' := by
  intro c isHead
  rcases delimits c isHead with isSpace | isMark
  · simp only [Token.isSpace, Bool.or_eq_true, beq_iff_eq] at isSpace
    rcases isSpace with ((rfl | rfl) | rfl) | rfl <;> decide
  · simp only [List.mem_cons, List.not_mem_nil, or_false] at isMark
    rcases isMark with rfl | rfl | rfl | rfl <;> decide

namespace Token

/-- A numeral that may end is a token as soon as something follows that does not
belong to it. -/
theorem scanFrom_inNumber
    {n : PartialNumeral}
    {numeral : Numeral}
    {rest : List Char}
    (mayEnd : n.finish? = some numeral)
    (foreign : ∀ c ∈ rest.head?, n.push? c = none ∧ c.isDigit = false) :
    scanFrom (.inNumber n) [] rest = .number numeral :: scan rest := by
  rw [← scanFrom_singleton]
  cases rest with
  | nil => simp [scanFrom, mayEnd]
  | cons c rest =>
      obtain ⟨notPushed, notDigit⟩ := foreign c rfl
      have unspoiled : n.spoiledBy c = false := by
        simp [PartialNumeral.spoiledBy, mayEnd, notDigit]
      simp [scanFrom, notPushed, unspoiled, mayEnd]

/-- A character that belongs to a numeral is put to it. -/
theorem scanFrom_inNumber_cons
    {n next : PartialNumeral}
    {c : Char}
    (pushed : n.push? c = some next)
    (rest : List Char) :
    scanFrom (.inNumber n) [] (c :: rest) = scanFrom (.inNumber next) [] rest := by
  simp [scanFrom, pushed]

/-! ### The parts of a numeral

`n` is a numeral of which some part is read; the lemmas tell what the next part
makes of it. -/

/-- A digit is no mark of a numeral. -/
theorem notMark_of_isDigit {c : Char} (isDigit : c.isDigit = true) :
    c ≠ '.' ∧ c ≠ 'e' ∧ c ≠ 'E' ∧ c ≠ '+' ∧ c ≠ '-' := by
  refine ⟨?_, ?_, ?_, ?_, ?_⟩ <;> rintro rfl <;> exact absurd isDigit (by decide)

theorem isSpace_of_isDigit {c : Char} (isDigit : c.isDigit = true) : isSpace c = false := by
  apply Bool.eq_false_iff.mpr
  intro isSpace
  simp only [Token.isSpace, Bool.or_eq_true, beq_iff_eq] at isSpace
  rcases isSpace with ((rfl | rfl) | rfl) | rfl <;> exact absurd isDigit (by decide)

/-- The digits behind the first one before the point. -/
theorem scanFrom_whole
    {n : PartialNumeral}
    (isWhole : n.part = .whole)
    {digits : List Char}
    (areDigits : ∀ c ∈ digits, c.isDigit = true)
    (rest : List Char) :
    scanFrom (.inNumber n) [] (digits ++ rest) =
      scanFrom (.inNumber { n with whole := digits.reverse ++ n.whole }) [] rest := by
  induction digits generalizing n with
  | nil => rfl
  | cons c digits inductionHypothesis =>
      have pushed : n.push? c = some { n with whole := c :: n.whole } := by
        simp [PartialNumeral.push?, isWhole, areDigits c List.mem_cons_self]
      rw [List.cons_append, scanFrom_inNumber_cons pushed,
        inductionHypothesis (n := { n with whole := c :: n.whole }) isWhole
          fun d member => areDigits d (List.mem_cons_of_mem _ member)]
      simp

/-- The digits behind the point. -/
theorem scanFrom_fraction
    {n : PartialNumeral}
    (isFraction : n.part = .point ∨ n.part = .fraction)
    {digits : List Char}
    (areDigits : AreDigits digits)
    (rest : List Char) :
    scanFrom (.inNumber n) [] (digits ++ rest) =
      scanFrom (.inNumber { n with
        part := .fraction
        fraction? := n.fraction?.map (digits.reverse ++ ·) }) [] rest := by
  obtain ⟨areDigits, notEmpty⟩ := areDigits
  induction digits generalizing n with
  | nil => exact absurd rfl notEmpty
  | cons c digits inductionHypothesis =>
      have pushed : n.push? c = some { n with
          part := .fraction
          fraction? := n.fraction?.map (c :: ·) } := by
        rcases isFraction with isPart | isPart <;>
          simp [PartialNumeral.push?, isPart, areDigits c List.mem_cons_self]
      rw [List.cons_append, scanFrom_inNumber_cons pushed]
      cases digits with
      | nil => rfl
      | cons d digits =>
          rw [inductionHypothesis (.inr rfl)
            (fun e member => areDigits e (List.mem_cons_of_mem _ member)) (List.cons_ne_nil _ _)]
          simp [Option.map_map, Function.comp_def]

/-- The digits of an exponent. -/
theorem scanFrom_exponent
    {n : PartialNumeral}
    (isExponent : n.part = .mark ∨ n.part = .markSign ∨ n.part = .exponent)
    {digits : List Char}
    (areDigits : AreDigits digits)
    (rest : List Char) :
    scanFrom (.inNumber n) [] (digits ++ rest) =
      scanFrom (.inNumber { n with
        part := .exponent
        exponent? := n.exponent?.map fun e => { e with digits := digits.reverse ++ e.digits } })
        [] rest := by
  obtain ⟨areDigits, notEmpty⟩ := areDigits
  induction digits generalizing n with
  | nil => exact absurd rfl notEmpty
  | cons c digits inductionHypothesis =>
      have isDigit := areDigits c List.mem_cons_self
      obtain ⟨_, _, _, notPlus, notMinus⟩ := notMark_of_isDigit isDigit
      have pushed : n.push? c = some (n.pushExponent c) := by
        rcases isExponent with isPart | isPart | isPart <;>
          simp [PartialNumeral.push?, isPart, isDigit, notPlus, notMinus]
      rw [List.cons_append, scanFrom_inNumber_cons pushed]
      cases digits with
      | nil => rfl
      | cons d digits =>
          rw [inductionHypothesis (.inr (.inr rfl))
            (fun e member => areDigits e (List.mem_cons_of_mem _ member)) (List.cons_ne_nil _ _)]
          simp [PartialNumeral.pushExponent, Option.map_map, Function.comp_def]

/-- The sign and everything before the point. -/
theorem scan_whole
    {whole : List Char}
    (isWhole : IsWhole whole)
    (negative : Bool)
    (rest : List Char) :
    ∃ part, (part = .leadingZero ∨ part = .whole) ∧
      scan (signText negative ++ (whole ++ rest)) =
        scanFrom (.inNumber { part, negative, whole := whole.reverse }) [] rest := by
  cases isWhole with
  | zero => exact ⟨.leadingZero, .inl rfl, by cases negative <;> rfl⟩
  | @digits first others isDigit notZero areDigits =>
      refine ⟨.whole, .inr rfl, ?_⟩
      have started : scan (signText negative ++ (first :: others ++ rest)) =
          scanFrom (.inNumber { part := .whole, negative, whole := [first] }) []
            (others ++ rest) := by
        cases negative with
        | false =>
            have notSpace : isSpace first = false := isSpace_of_isDigit isDigit
            have begun : start first =
                (none, .inNumber { part := .whole, whole := [first] }) := by
              simp [start, notSpace, isDigit, notZero]
            show scanFrom (start first).2 (push [] (start first).1) (others ++ rest) = _
            rw [begun]
            rfl
        | true =>
            have pushed :
                PartialNumeral.push? { part := .sign, negative := true } first =
                  some { part := .whole, negative := true, whole := [first] } := by
              simp [PartialNumeral.push?, isDigit, notZero]
            exact scanFrom_inNumber_cons pushed (others ++ rest)
      rw [started, scanFrom_whole rfl areDigits]
      simp

/-- The point and what follows it. -/
theorem scanFrom_point
    {n : PartialNumeral}
    (isWhole : n.part = .leadingZero ∨ n.part = .whole)
    (pointless : n.fraction? = none)
    {fraction? : Option (List Char)}
    {text : List Char}
    (spelled : SpellsFraction fraction? text)
    (rest : List Char) :
    ∃ part, (part = .leadingZero ∨ part = .whole ∨ part = .fraction) ∧
      scanFrom (.inNumber n) [] (text ++ rest) =
        scanFrom (.inNumber { n with part, fraction? := fraction?.map List.reverse }) [] rest := by
  cases spelled with
  | none =>
      refine ⟨n.part, isWhole.imp_right .inl, ?_⟩
      rw [Option.map_none, ← pointless]
      rfl
  | @some digits areDigits =>
      refine ⟨.fraction, .inr (.inr rfl), ?_⟩
      have pushed : n.push? '.' = some { n with part := .point, fraction? := some [] } := by
        rcases isWhole with isPart | isPart <;> simp [PartialNumeral.push?, isPart]
      rw [List.cons_append, scanFrom_inNumber_cons pushed, scanFrom_fraction (.inl rfl) areDigits]
      simp

/-- The mark of an exponent and what follows it. -/
theorem scanFrom_mark
    {n : PartialNumeral}
    (isMantissa : n.part = .leadingZero ∨ n.part = .whole ∨ n.part = .fraction)
    (markless : n.exponent? = none)
    {exponent? : Option ExponentPart}
    {text : List Char}
    (spelled : SpellsExponent exponent? text)
    (rest : List Char) :
    ∃ part, (part = .leadingZero ∨ part = .whole ∨ part = .fraction ∨ part = .exponent) ∧
      scanFrom (.inNumber n) [] (text ++ rest) =
        scanFrom (.inNumber { n with
          part
          exponent? := exponent?.map fun e => { e with digits := e.digits.reverse } })
          [] rest := by
  have marked {mark : Char} (isMark : mark = 'e' ∨ mark = 'E') :
      n.push? mark = some { n with part := .mark, exponent? := some ⟨false, []⟩ } := by
    rcases isMark with rfl | rfl <;> rcases isMantissa with isPart | isPart | isPart <;>
      simp [PartialNumeral.push?, isPart]
  cases spelled with
  | none =>
      refine ⟨n.part, isMantissa.imp_right (.imp_right .inl), ?_⟩
      rw [Option.map_none, ← markless]
      rfl
  | unsigned isMark areDigits =>
      refine ⟨.exponent, .inr (.inr (.inr rfl)), ?_⟩
      rw [List.cons_append, scanFrom_inNumber_cons (marked isMark),
        scanFrom_exponent (.inl rfl) areDigits]
      simp
  | positive isMark areDigits =>
      refine ⟨.exponent, .inr (.inr (.inr rfl)), ?_⟩
      rw [List.cons_append, scanFrom_inNumber_cons (marked isMark), List.cons_append,
        scanFrom_inNumber_cons rfl, scanFrom_exponent (.inr (.inl rfl)) areDigits]
      simp
  | negative isMark areDigits =>
      refine ⟨.exponent, .inr (.inr (.inr rfl)), ?_⟩
      rw [List.cons_append, scanFrom_inNumber_cons (marked isMark), List.cons_append,
        scanFrom_inNumber_cons rfl, scanFrom_exponent (.inr (.inl rfl)) areDigits]
      simp

/-- A numeral whose last part is complete takes nothing that is foreign to
numerals. -/
theorem push?_eq_none
    {n : PartialNumeral}
    (isPart : n.part = .leadingZero ∨ n.part = .whole ∨ n.part = .fraction ∨ n.part = .exponent)
    {c : Char}
    (foreign : c.isDigit = false ∧ c ≠ '.' ∧ c ≠ 'e' ∧ c ≠ 'E') :
    n.push? c = none := by
  obtain ⟨notDigit, notPoint, notSmall, notLarge⟩ := foreign
  rcases isPart with isPart | isPart | isPart | isPart <;>
    simp [PartialNumeral.push?, isPart, notDigit, notPoint, notSmall, notLarge]

/-- A numeral is one token, in front of anything that delimits it. -/
theorem scan_number
    {numeral : Numeral}
    {text : List Char}
    (spelled : SpellsNumeral numeral text)
    {rest : List Char}
    (delimits : Delimits rest) :
    scan (text ++ rest) = .number numeral :: scan rest := by
  obtain ⟨isWhole, fraction, exponent, isFraction, isExponent, rfl⟩ := spelled
  obtain ⟨first, isFirst, whole⟩ :=
    scan_whole isWhole numeral.negative (fraction ++ (exponent ++ rest))
  obtain ⟨second, isSecond, point⟩ := scanFrom_point
    (n := { part := first, negative := numeral.negative, whole := numeral.whole.reverse })
    isFirst rfl isFraction (exponent ++ rest)
  obtain ⟨third, isThird, mark⟩ := scanFrom_mark
    (n := {
      part := second
      negative := numeral.negative
      whole := numeral.whole.reverse
      fraction? := numeral.fraction?.map List.reverse })
    isSecond rfl isExponent rest
  simp only [List.append_assoc]
  rw [whole, point, mark]
  apply scanFrom_inNumber
  · rcases isThird with rfl | rfl | rfl | rfl <;>
      simp [PartialNumeral.finish?, Option.map_map, Function.comp_def]
  · intro c isHead
    have foreign := delimits.foreign c isHead
    exact ⟨push?_eq_none isThird foreign, foreign.1⟩

end Token

end InterfaceAudit.Json
