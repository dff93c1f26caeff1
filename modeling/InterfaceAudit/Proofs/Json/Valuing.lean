import InterfaceAudit.Json.Reader
import InterfaceAudit.Proofs.Json.Building

/-!
Contract: the value of a tree, wherever the tree stands.

Owns:
- the law that a string has one text whatever follows it;
- the law that a tree has one value in every place that leaves room for it;
- the values that well-formed texts denote.

Does not own: readers for other types than values.
-/

namespace InterfaceAudit.Json

/-! ## Results that may be faults -/

section Results

variable {α β : Type} {result : Except Fault α}

theorem bind_eq_ok_iff {next : α → Except Fault β} {value : β} :
    (result >>= next) = .ok value ↔ ∃ first, result = .ok first ∧ next first = .ok value := by
  cases result with
  | error fault =>
      constructor
      · intro isOk
        cases isOk
      · rintro ⟨_, isOk, _⟩
        cases isOk
  | ok first =>
      constructor
      · exact fun isOk => ⟨first, rfl, isOk⟩
      · rintro ⟨other, isFirst, isOk⟩
        cases isFirst
        exact isOk

theorem map_eq_ok_iff {change : α → β} {value : β} :
    result.map change = .ok value ↔ ∃ first, result = .ok first ∧ change first = value := by
  cases result with
  | error fault =>
      constructor
      · intro isOk
        cases isOk
      · rintro ⟨_, isOk, _⟩
        cases isOk
  | ok first =>
      constructor
      · exact fun isOk => ⟨first, rfl, Except.ok.inj isOk⟩
      · rintro ⟨other, isFirst, rfl⟩
        cases isFirst
        rfl

end Results

/-! ## What stands behind a string -/

namespace Enclosed

/-- An escape of one letter. -/
theorem readBody_letter
    (beyond : Nat)
    {letter c : Char}
    (notUnit : letter ≠ 'u')
    (isEscape : letterEscape? letter = some c)
    (rest : List Char) :
    readBody beyond ('\\' :: letter :: rest) = (readBody beyond rest).map (c :: ·) := by
  rw [readBody, isEscape]
  · exact fun _ _ _ _ _ isUnit => absurd isUnit notUnit
  · exact notUnit

/-- A character that starts no escape. -/
theorem readBody_plain (beyond : Nat) {c : Char} (notEscape : c ≠ '\\') (rest : List Char) :
    readBody beyond (c :: rest) =
      if c.toNat < 0x20 then .error .controlCharacter
      else (readBody beyond rest).map (c :: ·) := by
  rw [readBody]
  -- The other goals say that no escape starts here.
  all_goals
    intros
    contradiction

/-- What stands behind a body decides how it fails, and not what it says. -/
theorem readBody_of_ne_zero
    {beyond other : Nat}
    (something : other ≠ 0)
    {body text : List Char}
    (read : readBody beyond body = .ok text) :
    readBody other body = .ok text := by
  fun_induction readBody beyond body generalizing text
  case case2 =>
    rw [readBody, if_neg (by simpa using something)]
    exact read
  case case8 isUnit notLow isHigh _ _ _ _ _ _ isLowUnit isLow inductionHypothesis =>
    obtain ⟨first, isRead, rfl⟩ := map_eq_ok_iff.mp read
    simp [readBody, isUnit, notLow, isHigh, isLowUnit, isLow, inductionHypothesis isRead,
      Except.map]
  case case12 isUnit notLow notHigh inductionHypothesis =>
    obtain ⟨first, isRead, rfl⟩ := map_eq_ok_iff.mp read
    simp [readBody, isUnit, notLow, notHigh, inductionHypothesis isRead, Except.map]
  case case16 letter rest _ notUnit c isEscape inductionHypothesis =>
    obtain ⟨first, isRead, rfl⟩ := map_eq_ok_iff.mp read
    rw [readBody_letter other notUnit isEscape, inductionHypothesis isRead]
    rfl
  case case18 c rest _ _ notLast notEscape printable inductionHypothesis =>
    obtain ⟨first, isRead, rfl⟩ := map_eq_ok_iff.mp read
    have notBackslash : c ≠ '\\' := by
      intro isBackslash
      cases rest with
      | nil => exact notLast isBackslash rfl
      | cons letter rest => exact notEscape letter rest isBackslash rfl
    rw [readBody_plain other notBackslash, if_neg printable, inductionHypothesis isRead]
    rfl
  all_goals cases read

theorem read_plain (text : Enclosed) (value : String) :
    text.plain.read = .ok value ↔ text.read = .ok value := by
  obtain ⟨body, beyond⟩ := text
  cases beyond with
  | zero => exact Iff.rfl
  | succ beyond =>
      have plainly : plain ⟨body, beyond + 1⟩ = ⟨body, 1⟩ := by
        rw [plain, Nat.min_eq_left (Nat.le_add_left 1 beyond)]
      rw [plainly, read, read, map_eq_ok_iff, map_eq_ok_iff]
      constructor
      · rintro ⟨chars, isRead, rfl⟩
        exact ⟨chars, readBody_of_ne_zero (Nat.succ_ne_zero beyond) isRead, rfl⟩
      · rintro ⟨chars, isRead, rfl⟩
        exact ⟨chars, readBody_of_ne_zero Nat.one_ne_zero isRead, rfl⟩

end Enclosed

/-! ## Values of plain trees -/

namespace Draft

mutual

/-- A tree and its plain form have the same value, if any. -/
theorem readValue_plain (room : Nat) (draft : Draft) (value : Value) :
    readValue room draft.plain = .ok value ↔ readValue room draft = .ok value := by
  match draft with
  | .word w => rw [plain]
  | .number n => rw [plain]
  | .string s =>
      rw [plain, readValue, readValue, map_eq_ok_iff, map_eq_ok_iff]
      simp only [Enclosed.read_plain]
  | .list items ending =>
      rw [plain, readValue, readValue]
      simp only [bind_eq_ok_iff, readItems_plain]
  | .object members ending =>
      rw [plain, readValue, readValue]
      simp only [bind_eq_ok_iff, readMembers_plain]
  | .broken breach => rw [plain]

/-- Items and their plain forms have the same values. -/
theorem readItems_plain (room : Nat) (items : List Draft) (values : List Value) :
    readItems room (plainItems items) = .ok values ↔ readItems room items = .ok values := by
  match items with
  | [] => rw [plainItems]
  | item :: items =>
      rw [plainItems, readItems, readItems]
      simp only [bind_eq_ok_iff, readValue_plain room item, readItems_plain room items]

/-- Members and their plain forms have the same values. -/
theorem readMembers_plain
    (room : Nat)
    (members : List (Enclosed × Draft))
    (values : List (String × Value)) :
    readMembers room (plainMembers members) = .ok values ↔
      readMembers room members = .ok values := by
  match members with
  | [] => rw [plainMembers]
  | (key, member) :: members =>
      rw [plainMembers, readMembers, readMembers]
      simp only [bind_eq_ok_iff, Enclosed.read_plain, readValue_plain room member,
        readMembers_plain room members]

end

/-! ## Room -/

theorem enter_of_one_lt {room : Nat} (isRoom : 1 < room) : enter room = .ok (room - 1) :=
  if_neg (by omega)

theorem readItems_congr
    (room other : Nat)
    (items : List Draft)
    (same : ∀ item ∈ items, readValue room item = readValue other item) :
    readItems room items = readItems other items := by
  induction items with
  | nil => rfl
  | cons item items inductionHypothesis =>
      rw [readItems, readItems, same item List.mem_cons_self,
        inductionHypothesis fun other member => same other (List.mem_cons_of_mem _ member)]

theorem readMembers_congr
    (room other : Nat)
    (members : List (Enclosed × Draft))
    (same : ∀ member ∈ members, readValue room member.2 = readValue other member.2) :
    readMembers room members = readMembers other members := by
  induction members with
  | nil => rfl
  | cons member members inductionHypothesis =>
      rw [readMembers, readMembers, same member List.mem_cons_self,
        inductionHypothesis fun other isMember => same other (List.mem_cons_of_mem _ isMember)]

end Draft

/-- A spelled tree has one value wherever there is room for it. -/
theorem Spells.readValue_eq
    {depth : Nat}
    {tree : Draft}
    {text : List Char}
    (spelled : Spells depth tree text)
    {room other : Nat}
    (fits : depth < room)
    (fitsOther : depth < other) :
    tree.readValue room = tree.readValue other := by
  induction spelled generalizing room other with
  | word word => cases word <;> rfl
  | number spelled => rfl
  | string isBody => rfl
  | @list depth items inner each joined inductionHypothesis =>
      have same := Draft.readItems_congr (room - 1) (other - 1) (items.map Prod.fst)
        fun tree member => by
          obtain ⟨item, isItem, rfl⟩ := List.mem_map.mp member
          exact inductionHypothesis item isItem (by omega) (by omega)
      rw [Draft.readValue, Draft.readValue, Draft.enter_of_one_lt (by omega),
        Draft.enter_of_one_lt (by omega)]
      simp only [bind, Except.bind, same]
  | @object depth entries inner keys members each joined inductionHypothesis =>
      have same := Draft.readMembers_congr (room - 1) (other - 1) (entries.map Entry.member)
        fun tree member => by
          obtain ⟨entry, isEntry, rfl⟩ := List.mem_map.mp member
          exact inductionHypothesis entry isEntry (by omega) (by omega)
      rw [Draft.readValue, Draft.readValue, Draft.enter_of_one_lt (by omega),
        Draft.enter_of_one_lt (by omega)]
      simp only [bind, Except.bind, same]

/-! ## What texts denote -/

/-- A text denotes a value: it spells a tree that has this value. -/
def Denotes (text : List Char) (value : Value) : Prop :=
  ∃ depth tree, depth < Draft.nestingLimit ∧ Spells depth tree text ∧
    tree.readValue Draft.nestingLimit = .ok value

/-- A tree that stands anywhere for a spelled one has its value. -/
theorem Spells.readValue_iff
    {depth : Nat}
    {tree draft : Draft}
    {text : List Char}
    (spelled : Spells depth tree text)
    (isPlain : draft.plain = tree)
    {room other : Nat}
    (fits : depth < room)
    (fitsOther : depth < other)
    (value : Value) :
    draft.readValue room = .ok value ↔ tree.readValue other = .ok value := by
  rw [← Draft.readValue_plain, isPlain, spelled.readValue_eq fits fitsOther]

/-- A reader is given the tree of a spelled document, and nothing is left. -/
theorem Spells.document
    {depth : Nat}
    {tree : Draft}
    {text before behind : List Char}
    (spelled : Spells depth tree text)
    (spacedBefore : IsSpaced before)
    (spacedBehind : IsSpaced behind) :
    ∃ draft : Draft, draft.plain = tree ∧
      ∀ {α : Type} (reader : Reader α),
        reader.document (String.ofList (before ++ (text ++ behind))) =
          reader Draft.nestingLimit draft := by
  obtain ⟨draft, isPlain, isTree⟩ := spelled.ofText spacedBefore spacedBehind
  refine ⟨draft, isPlain, fun reader => ?_⟩
  rw [Reader.document, String.toList_ofList, isTree]
  show (reader Draft.nestingLimit draft >>= fun value => .ok value) = _
  cases reader Draft.nestingLimit draft <;> rfl

/-- A text that denotes a value is given to readers as a tree with this value,
with blanks around it or without. -/
theorem Denotes.spacedDocument
    {text before behind : List Char}
    {value : Value}
    (denotes : Denotes text value)
    (spacedBefore : IsSpaced before)
    (spacedBehind : IsSpaced behind) :
    ∃ draft : Draft, draft.readValue Draft.nestingLimit = .ok value ∧
      ∀ {α : Type} (reader : Reader α),
        reader.document (String.ofList (before ++ (text ++ behind))) =
          reader Draft.nestingLimit draft := by
  obtain ⟨depth, tree, fits, spelled, isValue⟩ := denotes
  obtain ⟨draft, isPlain, isDocument⟩ := spelled.document spacedBefore spacedBehind
  exact ⟨draft, (spelled.readValue_iff isPlain fits fits value).mpr isValue, isDocument⟩

theorem Denotes.document {text : List Char} {value : Value} (denotes : Denotes text value) :
    ∃ draft : Draft, draft.readValue Draft.nestingLimit = .ok value ∧
      ∀ {α : Type} (reader : Reader α),
        reader.document (String.ofList text) = reader Draft.nestingLimit draft := by
  have alone := denotes.spacedDocument isSpaced_nil isSpaced_nil
  rwa [List.append_nil, List.nil_append] at alone

end InterfaceAudit.Json
