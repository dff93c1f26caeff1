import InterfaceAudit.Proofs.Json.Valuing

/-!
Contract: the compact text of a value denotes the value.

Owns:
- the law that reading a written string gives the string back, character by
  character;
- the digits of a natural number, as a numeral and back;
- the values that can be written and read: those without numbers other than
  unsigned ones of sixty-four bits, nested no deeper than is allowed;
- the law that such a value is denoted by its text.

Does not own: values of any particular type.
-/

namespace InterfaceAudit.Json

/-! ## Strings -/

namespace Value

open Enclosed (readBody)

theorem hexValue_digitChar : ∀ digit < 16,
    Enclosed.hexValue? (Nat.digitChar digit) = some digit ∧
      Nat.digitChar digit ∈ hexDigits := by
  decide

/-- The four digits of the escape of a control make up the control. -/
theorem hexUnit_control {code : Nat} (isControl : code < 0x20) :
    Enclosed.hexUnit? '0' '0' (Nat.digitChar (code / 16)) (Nat.digitChar (code % 16)) =
      some code := by
  have high := (hexValue_digitChar (code / 16) (by omega)).1
  have low := (hexValue_digitChar (code % 16) (by omega)).1
  have zero : Enclosed.hexValue? '0' = some 0 := rfl
  simp only [Enclosed.hexUnit?, zero, high, low, bind, Option.bind, pure]
  congr 1
  omega

/-- A written character is read as itself. -/
theorem readBody_escape (beyond : Nat) (c : Char) (rest : List Char) :
    readBody beyond (escape c ++ rest) = (readBody beyond rest).map (c :: ·) := by
  unfold escape
  split
  case h_1 => exact Enclosed.readBody_letter beyond (by decide) rfl rest
  case h_2 => exact Enclosed.readBody_letter beyond (by decide) rfl rest
  case h_3 => exact Enclosed.readBody_letter beyond (by decide) rfl rest
  case h_4 => exact Enclosed.readBody_letter beyond (by decide) rfl rest
  case h_5 => exact Enclosed.readBody_letter beyond (by decide) rfl rest
  case h_6 => exact Enclosed.readBody_letter beyond (by decide) rfl rest
  case h_7 => exact Enclosed.readBody_letter beyond (by decide) rfl rest
  case h_8 notQuote notBackslash _ _ _ _ _ =>
    split
    next isControl =>
      have notLow : Enclosed.isLowSurrogate c.toNat = false := by
        simp only [Enclosed.isLowSurrogate, Bool.and_eq_false_iff, decide_eq_false_iff_not]
        omega
      have notHigh : Enclosed.isHighSurrogate c.toNat = false := by
        simp only [Enclosed.isHighSurrogate, Bool.and_eq_false_iff, decide_eq_false_iff_not]
        omega
      simp [controlEscape, readBody, hexUnit_control isControl, notLow, notHigh, Char.ofNat_toNat]
    next printable =>
      rw [List.singleton_append, Enclosed.readBody_plain beyond notBackslash, if_neg printable]

/-- A written string is read as itself, if anything follows it. -/
theorem readBody_flatMap_escape (beyond : Nat) (text : List Char) :
    readBody (beyond + 1) (text.flatMap escape) = .ok text := by
  induction text with
  | nil => rfl
  | cons c text inductionHypothesis =>
      rw [List.flatMap_cons, readBody_escape, inductionHypothesis]
      rfl

theorem isBody_escape (c : Char) {rest : List Char} (others : IsBody rest) :
    IsBody (escape c ++ rest) := by
  unfold escape
  split
  case h_1 => exact .letter (by decide) others
  case h_2 => exact .letter (by decide) others
  case h_3 => exact .letter (by decide) others
  case h_4 => exact .letter (by decide) others
  case h_5 => exact .letter (by decide) others
  case h_6 => exact .letter (by decide) others
  case h_7 => exact .letter (by decide) others
  case h_8 notQuote notBackslash _ _ _ _ _ =>
    split
    next isControl =>
      refine .unit ?_ others
      have high := (hexValue_digitChar (c.toNat / 16) (by omega)).2
      have low := (hexValue_digitChar (c.toNat % 16) (by omega)).2
      have zero : '0' ∈ hexDigits := by decide
      simp [zero, high, low]
    next printable => exact .plain (Nat.le_of_not_lt printable) notQuote notBackslash others

/-- A written string is well formed. -/
theorem isBody_flatMap_escape (text : List Char) : IsBody (text.flatMap escape) := by
  induction text with
  | nil => exact .nil
  | cons c text inductionHypothesis =>
      rw [List.flatMap_cons]
      exact isBody_escape c inductionHypothesis

theorem read_escaped (text : String) :
    Enclosed.read ⟨text.toList.flatMap escape, 1⟩ = .ok text := by
  rw [Enclosed.read, readBody_flatMap_escape]
  exact congrArg Except.ok (String.ofList_toList)

end Value

/-! ## Natural numbers -/

namespace Numeral

theorem ne_zero_of_digitChar : ∀ digit < 10, 0 < digit → Nat.digitChar digit ≠ '0' := by
  decide

/-- Only zero is written with a leading zero. -/
theorem isWhole_toDigits (n : Nat) : IsWhole (Nat.toDigits 10 n) := by
  have areDigits : ∀ c ∈ Nat.toDigits 10 n, c.isDigit = true :=
    fun c => Nat.isDigit_of_mem_toDigits (by decide) (by decide)
  cases n with
  | zero => exact .zero
  | succ n =>
      have leading : ∀ m : Nat, 0 < m → ∀ c ∈ (Nat.toDigits 10 m).head?, c ≠ '0' := by
        intro m
        -- Division by ten takes away the last digit and leaves the leading one.
        induction m using Nat.strongRecOn with
        | ind m inductionHypothesis =>
            intro positive c isHead
            by_cases small : m < 10
            · rw [Nat.toDigits_of_lt_base small] at isHead
              cases isHead
              exact ne_zero_of_digitChar m small positive
            · have nonempty : (Nat.toDigits 10 (m / 10)).head?.isSome :=
                List.isSome_head?.mpr Nat.toDigits_ne_nil
              rw [Nat.toDigits_of_base_le (by decide) (by omega), List.head?_append,
                Option.or_of_isSome nonempty] at isHead
              exact inductionHypothesis (m / 10) (by omega) (by omega) c isHead
      obtain ⟨first, others, shape⟩ := List.exists_cons_of_ne_nil
        (Nat.toDigits_ne_nil (n := n + 1) (b := 10))
      rw [shape] at areDigits ⊢
      refine .digits (areDigits first List.mem_cons_self) ?_
        fun c member => areDigits c (List.mem_cons_of_mem _ member)
      exact leading (n + 1) (Nat.succ_pos n) first (by rw [shape]; rfl)

def digitsValue (value : Nat) (digits : List Char) : Nat :=
  digits.foldl (fun value c => value * 10 + digitValue c) value

theorem le_digitsValue (value : Nat) (digits : List Char) :
    value ≤ digitsValue value digits := by
  induction digits generalizing value with
  | nil => exact Nat.le_refl value
  | cons c digits inductionHypothesis =>
      have more := inductionHypothesis (value * 10 + digitValue c)
      rw [digitsValue, List.foldl_cons]
      unfold digitsValue at more
      omega

/-- Digits whose value fits in a word are all taken. -/
theorem gather_eq_of_le
    (digits : List Char)
    (value taken : Nat)
    (fits : digitsValue value digits ≤ maxWord) :
    digits.foldl Gathered.push { value, taken } =
      { value := digitsValue value digits, taken := taken + digits.length } := by
  induction digits generalizing value taken with
  | nil => rfl
  | cons c digits inductionHypothesis =>
      have step : digitsValue value (c :: digits) =
          digitsValue (value * 10 + digitValue c) digits := rfl
      have atMost := le_digitsValue (value * 10 + digitValue c) digits
      rw [step] at fits ⊢
      have pushed : Gathered.push { value, taken } c =
          { value := value * 10 + digitValue c, taken := taken + 1 } := by
        have small : value * 10 + digitValue c ≤ maxWord := Nat.le_trans atMost fits
        simp [Gathered.push, small]
      rw [List.foldl_cons, pushed, inductionHypothesis _ _ fits, List.length_cons]
      congr 1
      omega

theorem digitsValue_toDigits (n : Nat) : digitsValue 0 (Nat.toDigits 10 n) = n := by
  have read := Nat.ofDigitChars_toDigits (b := 10) (n := n) (by decide) (by decide)
  simp only [Nat.ofDigitChars, Nat.mul_comm 10] at read
  exact read

def ofNat (n : Nat) : Numeral := ⟨false, Nat.toDigits 10 n, none, none⟩

theorem spells_ofNat (n : Nat) : SpellsNumeral (ofNat n) (toString (n : Int)).toList where
  isWhole := isWhole_toDigits n
  isSpelled := by
    refine ⟨[], [], .none, .none, ?_⟩
    show (Nat.repr n).toList = _
    rw [Nat.toList_repr]
    exact (List.append_nil _).symm

/-- A natural number of at most sixty-four bits is read as itself. -/
theorem value_ofNat {n : Nat} (fits : n ≤ maxWord) : (ofNat n).value = .ok (.integer n) := by
  have gathered : gather 0 (Nat.toDigits 10 n) =
      { value := n, taken := 0 + (Nat.toDigits 10 n).length } := by
    have all := gather_eq_of_le (Nat.toDigits 10 n) 0 0
      (by rw [digitsValue_toDigits]; exact fits)
    rw [digitsValue_toDigits] at all
    exact all
  rw [value, ofNat]
  simp only [gathered]
  rfl

end Numeral

/-! ## Values -/

/-- A value that can be written and read: its numbers are unsigned and of at most
sixty-four bits, and its lists and objects are nested at most so deep. -/
inductive Writable : Nat → Value → Prop where
  | null {depth : Nat} : Writable depth .null
  | boolean {depth : Nat} (flag : Bool) : Writable depth (.boolean flag)
  | count {depth n : Nat} (fits : n ≤ Numeral.maxWord) : Writable depth (.integer n)
  | string {depth : Nat} (text : String) : Writable depth (.string text)
  | list {depth : Nat} {items : List Value}
      (each : ∀ item ∈ items, Writable depth item) :
      Writable (depth + 1) (.list items)
  | object {depth : Nat} {members : List (String × Value)}
      (each : ∀ member ∈ members, Writable depth member.2) :
      Writable (depth + 1) (.object members)

/-- A text spells a tree that has a value wherever there is room for it. -/
def Conveys (depth : Nat) (tree : Draft) (text : List Char) (value : Value) : Prop :=
  Spells depth tree text ∧ ∀ room, depth < room → tree.readValue room = .ok value

namespace Value

theorem joined_compactItems (items : List Value) :
    Joined (items.map compact) (compactItems items) := by
  induction items with
  | nil => exact .empty isSpaced_nil
  | cons item items inductionHypothesis =>
      cases items with
      | nil =>
          have last : Joined [item.compact] ([] ++ (item.compact ++ [])) :=
            .last isSpaced_nil isSpaced_nil
          rw [List.append_nil] at last
          exact last
      | cons next items => exact .more isSpaced_nil isSpaced_nil inductionHypothesis

def compactMember (member : String × Value) : List Char :=
  quote member.1 ++ ':' :: compact member.2

theorem joined_compactMembers (members : List (String × Value)) :
    Joined (members.map compactMember) (compactMembers members) := by
  induction members with
  | nil => exact .empty isSpaced_nil
  | cons member members inductionHypothesis =>
      obtain ⟨key, value⟩ := member
      cases members with
      | nil =>
          have last : Joined [compactMember (key, value)]
              ([] ++ (compactMember (key, value) ++ [])) :=
            .last isSpaced_nil isSpaced_nil
          rw [List.append_nil] at last
          exact last
      | cons next members =>
          have more : Joined (compactMember (key, value) :: (next :: members).map compactMember)
              ([] ++ (compactMember (key, value) ++
                ([] ++ ',' :: compactMembers (next :: members)))) :=
            .more isSpaced_nil isSpaced_nil inductionHypothesis
          rw [compactMember, List.nil_append, List.append_assoc] at more
          exact more

theorem conveys_items
    {depth : Nat}
    {values : List Value}
    (each : ∀ value ∈ values, ∃ tree, Conveys depth tree value.compact value) :
    ∃ items : List (Draft × List Char), items.map Prod.snd = values.map compact ∧
      (∀ item ∈ items, Spells depth item.1 item.2) ∧
      ∀ room, depth < room → Draft.readItems room (items.map Prod.fst) = .ok values := by
  induction values with
  | nil => exact ⟨[], rfl, fun _ member => (by cases member), fun _ _ => rfl⟩
  | cons value values inductionHypothesis =>
      obtain ⟨tree, spelled, reads⟩ := each value List.mem_cons_self
      obtain ⟨items, texts, spellOthers, readOthers⟩ := inductionHypothesis
        fun other member => each other (List.mem_cons_of_mem _ member)
      refine ⟨(tree, value.compact) :: items, by rw [List.map_cons, texts]; rfl, ?_, ?_⟩
      · exact List.forall_mem_cons.mpr ⟨spelled, spellOthers⟩
      · intro room fits
        rw [List.map_cons, Draft.readItems, reads room fits, readOthers room fits]
        rfl

theorem conveys_members
    {depth : Nat}
    {members : List (String × Value)}
    (each : ∀ member ∈ members, ∃ tree, Conveys depth tree member.2.compact member.2) :
    ∃ entries : List Entry, entries.map Entry.text = members.map compactMember ∧
      (∀ entry ∈ entries, IsBody entry.key) ∧
      (∀ entry ∈ entries, IsMember entry.key entry.value entry.text) ∧
      (∀ entry ∈ entries, Spells depth entry.tree entry.value) ∧
      ∀ room, depth < room →
        Draft.readMembers room (entries.map Entry.member) = .ok members := by
  induction members with
  | nil =>
      refine ⟨[], rfl, ?_, ?_, ?_, fun _ _ => rfl⟩ <;> exact fun _ member => (by cases member)
  | cons member members inductionHypothesis =>
      obtain ⟨key, value⟩ := member
      obtain ⟨tree, spelled, reads⟩ := each _ List.mem_cons_self
      obtain ⟨entries, texts, keys, areMembers, spellOthers, readOthers⟩ := inductionHypothesis
        fun other isOther => each other (List.mem_cons_of_mem _ isOther)
      let entry : Entry := {
        key := key.toList.flatMap escape
        tree
        value := value.compact
        text := compactMember (key, value) }
      have isMember : IsMember entry.key entry.value entry.text :=
        ⟨[], [], isSpaced_nil, isSpaced_nil, rfl⟩
      refine ⟨entry :: entries, by rw [List.map_cons, texts]; rfl, ?_, ?_, ?_, ?_⟩
      · exact List.forall_mem_cons.mpr ⟨isBody_flatMap_escape key.toList, keys⟩
      · exact List.forall_mem_cons.mpr ⟨isMember, areMembers⟩
      · exact List.forall_mem_cons.mpr ⟨spelled, spellOthers⟩
      · intro room fits
        rw [List.map_cons, Entry.member, Draft.readMembers, read_escaped, reads room fits,
          readOthers room fits]
        rfl

end Value

/-- A writable value is what its compact text spells. -/
theorem Writable.conveys {depth : Nat} {value : Value} (writable : Writable depth value) :
    ∃ tree, Conveys depth tree value.compact value := by
  induction writable with
  | null => exact ⟨.word .null, .word .null, fun _ _ => rfl⟩
  | boolean flag =>
      cases flag with
      | true => exact ⟨.word .yes, .word .yes, fun _ _ => rfl⟩
      | false => exact ⟨.word .no, .word .no, fun _ _ => rfl⟩
  | @count _ n fits =>
      refine ⟨.number (Numeral.ofNat n), .number (Numeral.spells_ofNat n), fun _ _ => ?_⟩
      rw [Draft.readValue, Numeral.value_ofNat fits]
      rfl
  | string text =>
      refine ⟨.string ⟨text.toList.flatMap Value.escape, 1⟩,
        .string (Value.isBody_flatMap_escape text.toList), fun _ _ => ?_⟩
      rw [Draft.readValue, Value.read_escaped]
      rfl
  | @list depth values each inductionHypothesis =>
      obtain ⟨items, texts, spelled, reads⟩ := Value.conveys_items inductionHypothesis
      have joined := Value.joined_compactItems values
      rw [← texts] at joined
      refine ⟨.list (items.map Prod.fst) .closed, ?_, fun room fits => ?_⟩
      · rw [Value.compact]
        exact .list spelled joined
      · rw [Draft.readValue, Draft.enter_of_one_lt (by omega)]
        simp only [bind, Except.bind, reads (room - 1) (by omega)]
        rfl
  | @object depth members each inductionHypothesis =>
      obtain ⟨entries, texts, keys, areMembers, spelled, reads⟩ :=
        Value.conveys_members inductionHypothesis
      have joined := Value.joined_compactMembers members
      rw [← texts] at joined
      refine ⟨.object (entries.map Entry.member) .closed, ?_, fun room fits => ?_⟩
      · rw [Value.compact]
        exact .object keys areMembers spelled joined
      · rw [Draft.readValue, Draft.enter_of_one_lt (by omega)]
        simp only [bind, Except.bind, reads (room - 1) (by omega)]
        rfl

/-- The text of a value denotes it. -/
theorem Writable.denotes {depth : Nat} {value : Value} (writable : Writable depth value)
    (fits : depth < Draft.nestingLimit) : Denotes value.compact value := by
  obtain ⟨tree, spelled, isValue⟩ := writable.conveys
  exact ⟨depth, tree, fits, spelled, isValue _ fits⟩

theorem Writable.isJson {depth : Nat} {value : Value} (writable : Writable depth value) :
    IsJson depth value.compact := by
  obtain ⟨tree, spelled, _⟩ := writable.conveys
  exact ⟨tree, spelled⟩

end InterfaceAudit.Json
