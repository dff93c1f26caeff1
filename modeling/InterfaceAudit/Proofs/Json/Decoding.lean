import InterfaceAudit.Proofs.Json.Writing
import Mathlib.Data.List.Forall2

/-!
Contract: readers that read a value as what it was written for.

Owns:
- the trees that have a value, one kind of tree for each kind of value;
- readers of strings, flags, counts, optional values and lists, each on the
  values that it is meant for;
- the law that such a reader reads the text of its value.

Does not own: records, or readers on values that are meant for others.
-/

namespace InterfaceAudit.Json

/-! ## Trees of values -/

theorem Ending.checkList_eq_ok_iff {ending : Ending} {done : Unit} :
    ending.checkList = .ok done ↔ ending = .closed := by
  cases ending <;> simp [Ending.checkList]

theorem Ending.checkObject_eq_ok_iff {ending : Ending} {done : Unit} :
    ending.checkObject = .ok done ↔ ending = .closed := by
  cases ending <;> simp [Ending.checkObject]

theorem exists_forall₂_iff {α β : Type} {related : α → β → Prop} {items : List α} :
    (∃ values, List.Forall₂ related items values) ↔
      ∀ item ∈ items, ∃ value, related item value := by
  induction items with
  | nil => simp
  | cons item items inductionHypothesis =>
      rw [List.forall_mem_cons, ← inductionHypothesis]
      constructor
      · rintro ⟨_, isValue | ⟨isValue, areValues⟩⟩
        exact ⟨⟨_, isValue⟩, _, areValues⟩
      · rintro ⟨⟨value, isValue⟩, values, areValues⟩
        exact ⟨value :: values, .cons isValue areValues⟩

theorem forall₂_compose
    {α β γ : Type}
    {first : α → β → Prop}
    {second : β → γ → Prop}
    {both : α → γ → Prop}
    (compose : ∀ {x y z}, first x y → second y z → both x z)
    {xs : List α}
    {ys : List β}
    {zs : List γ}
    (areFirst : List.Forall₂ first xs ys)
    (areSecond : List.Forall₂ second ys zs) :
    List.Forall₂ both xs zs := by
  induction areFirst generalizing zs with
  | nil =>
      cases areSecond
      exact .nil
  | cons isFirst _ inductionHypothesis =>
      cases areSecond with
      | cons isSecond areSecond =>
          exact .cons (compose isFirst isSecond) (inductionHypothesis areSecond)

theorem mapM_eq_ok_iff {α β : Type} {f : α → Except Fault β} {items : List α} {values : List β} :
    items.mapM f = .ok values ↔
      List.Forall₂ (fun item value => f item = .ok value) items values := by
  induction items generalizing values with
  | nil =>
      rw [List.mapM_nil, List.forall₂_nil_left_iff]
      exact ⟨fun isOk => (Except.ok.inj isOk).symm, fun isEmpty => by rw [isEmpty]; rfl⟩
  | cons item items inductionHypothesis =>
      rw [List.mapM_cons, List.forall₂_cons_left_iff]
      simp only [bind_eq_ok_iff, inductionHypothesis]
      constructor
      · rintro ⟨value, isFirst, others, areOthers, isOk⟩
        exact ⟨value, others, isFirst, areOthers, (Except.ok.inj isOk).symm⟩
      · rintro ⟨value, others, isFirst, areOthers, rfl⟩
        exact ⟨value, isFirst, others, areOthers, rfl⟩

namespace Draft

theorem readItems_eq_mapM (room : Nat) (items : List Draft) :
    readItems room items = items.mapM (readValue room) := by
  induction items with
  | nil => rfl
  | cons item items inductionHypothesis =>
      rw [readItems, List.mapM_cons, inductionHypothesis]

theorem readItems_eq_ok_iff {room : Nat} {items : List Draft} {values : List Value} :
    readItems room items = .ok values ↔
      List.Forall₂ (fun item value => readValue room item = .ok value) items values := by
  rw [readItems_eq_mapM, mapM_eq_ok_iff]

theorem readMembers_eq_ok_iff
    {room : Nat}
    {members : List (Enclosed × Draft)}
    {values : List (String × Value)} :
    readMembers room members = .ok values ↔
      List.Forall₂ (fun member value =>
        member.1.read = .ok value.1 ∧ readValue room member.2 = .ok value.2) members values := by
  induction members generalizing values with
  | nil =>
      rw [readMembers, List.forall₂_nil_left_iff]
      exact ⟨fun isOk => (Except.ok.inj isOk).symm, fun isEmpty => by rw [isEmpty]⟩
  | cons member members inductionHypothesis =>
      rw [readMembers, List.forall₂_cons_left_iff]
      simp only [bind_eq_ok_iff, inductionHypothesis]
      constructor
      · rintro ⟨name, isName, value, isValue, others, areOthers, isOk⟩
        exact ⟨(name, value), others, ⟨isName, isValue⟩, areOthers, (Except.ok.inj isOk).symm⟩
      · rintro ⟨⟨name, value⟩, others, ⟨isName, isValue⟩, areOthers, rfl⟩
        exact ⟨name, isName, value, isValue, others, areOthers, rfl⟩

theorem readValue_list_eq_ok_iff
    {room : Nat}
    {items : List Draft}
    {ending : Ending}
    {value : Value} :
    readValue room (.list items ending) = .ok value ↔
      ∃ inside values, enter room = .ok inside ∧ readItems inside items = .ok values ∧
        ending = .closed ∧ value = .list values := by
  rw [readValue]
  simp only [bind_eq_ok_iff, Ending.checkList_eq_ok_iff]
  constructor
  · rintro ⟨inside, enters, values, areItems, _, isClosed, isOk⟩
    exact ⟨inside, values, enters, areItems, isClosed, (Except.ok.inj isOk).symm⟩
  · rintro ⟨inside, values, enters, areItems, isClosed, rfl⟩
    exact ⟨inside, enters, values, areItems, (), isClosed, rfl⟩

theorem readValue_object_eq_ok_iff
    {room : Nat}
    {members : List (Enclosed × Draft)}
    {ending : Ending}
    {value : Value} :
    readValue room (.object members ending) = .ok value ↔
      ∃ inside values, enter room = .ok inside ∧ readMembers inside members = .ok values ∧
        ending = .closed ∧ value = .object values := by
  rw [readValue]
  simp only [bind_eq_ok_iff, Ending.checkObject_eq_ok_iff]
  constructor
  · rintro ⟨inside, enters, values, areMembers, _, isClosed, isOk⟩
    exact ⟨inside, values, enters, areMembers, isClosed, (Except.ok.inj isOk).symm⟩
  · rintro ⟨inside, values, enters, areMembers, isClosed, rfl⟩
    exact ⟨inside, enters, values, areMembers, (), isClosed, rfl⟩

/-- A tree has a value: each kind of value has trees of one kind. -/
inductive HasValue (room : Nat) : Draft → Value → Prop where
  | null : HasValue room (.word .null) .null
  | yes : HasValue room (.word .yes) (.boolean true)
  | no : HasValue room (.word .no) (.boolean false)
  | number {numeral : Numeral} {number : Number} (isNumber : numeral.value = .ok number) :
      HasValue room (.number numeral) (.number number)
  | string {enclosed : Enclosed} {text : String} (isText : enclosed.read = .ok text) :
      HasValue room (.string enclosed) (.string text)
  | list {inside : Nat} {items : List Draft} {values : List Value}
      (enters : enter room = .ok inside)
      (areItems : readItems inside items = .ok values) :
      HasValue room (.list items .closed) (.list values)
  | object {inside : Nat} {members : List (Enclosed × Draft)} {values : List (String × Value)}
      (enters : enter room = .ok inside)
      (areMembers : readMembers inside members = .ok values) :
      HasValue room (.object members .closed) (.object values)

theorem hasValue_of_readValue {room : Nat} {draft : Draft} {value : Value}
    (read : draft.readValue room = .ok value) : HasValue room draft value := by
  cases draft with
  | word w =>
      cases w with
      | null => cases read; exact .null
      | yes => cases read; exact .yes
      | no => cases read; exact .no
  | number n =>
      obtain ⟨number, isNumber, rfl⟩ := map_eq_ok_iff.mp read
      exact .number isNumber
  | string s =>
      obtain ⟨text, isText, rfl⟩ := map_eq_ok_iff.mp read
      exact .string isText
  | list items ending =>
      obtain ⟨inside, values, enters, areItems, rfl, rfl⟩ := readValue_list_eq_ok_iff.mp read
      exact .list enters areItems
  | object members ending =>
      obtain ⟨inside, values, enters, areMembers, rfl, rfl⟩ := readValue_object_eq_ok_iff.mp read
      exact .object enters areMembers
  | broken breach => cases read

end Draft

/-! ## Readers of values -/

/-- A string is read exactly from the trees that have it as their value. -/
theorem Reader.text_eq_ok_iff {expected text : String} {room : Nat} {draft : Draft} :
    Reader.text expected room draft = .ok text ↔ draft.readValue room = .ok (.string text) := by
  constructor
  · intro isText
    unfold Reader.text at isText
    split at isText
    next => exact map_eq_ok_iff.mpr ⟨text, isText, rfl⟩
    next => cases isText
  · intro isValue
    cases Draft.hasValue_of_readValue isValue with
    | string isText => exact isText

theorem Reader.list_closed {α : Type} (reader : Reader α) (room : Nat) (items : List Draft) :
    Reader.list reader room (.list items .closed) =
      Draft.enter room >>= fun inside => items.mapM (reader inside) := by
  show (Draft.enter room >>= fun inside => items.mapM (reader inside) >>= pure) = _
  simp only [bind_pure]

/-- A reader reads every tree of a value as one thing. -/
def Reads {α : Type} (reader : Reader α) (value : Value) (x : α) : Prop :=
  ∀ (room : Nat) (draft : Draft),
    draft.readValue room = .ok value → reader room draft = .ok x

namespace Reads

open Draft (hasValue_of_readValue)

variable {α : Type}

theorem text (expected text : String) : Reads (Reader.text expected) (.string text) text :=
  fun _ _ => Reader.text_eq_ok_iff.mpr

theorem string (text : String) : Reads Reader.string (.string text) text :=
  Reads.text "a string" text

theorem flag (flag : Bool) : Reads Reader.flag (.boolean flag) flag := by
  intro room draft read
  cases hasValue_of_readValue read <;> rfl

theorem count (n : UInt64) : Reads Reader.count (.integer n.toNat) n := by
  intro room draft read
  cases hasValue_of_readValue read with
  | number isNumber =>
      simp only [Reader.count, isNumber, bind, Except.bind]
      rw [if_neg (Int.not_lt.mpr (Int.natCast_nonneg _)), Int.toNat_natCast, UInt64.ofNat_toNat]

theorem absent (reader : Reader α) : Reads (Reader.optional reader) .null none := by
  intro room draft read
  cases hasValue_of_readValue read with
  | null => rfl

theorem present
    {reader : Reader α}
    {value : Value}
    {x : α}
    (reads : Reads reader value x)
    (notNull : value ≠ .null) :
    Reads (Reader.optional reader) value (some x) := by
  intro room draft read
  have isRead := reads room draft read
  unfold Reader.optional
  split
  next =>
    cases hasValue_of_readValue read
    exact absurd rfl notNull
  next =>
    rw [isRead]
    rfl

theorem list
    {reader : Reader α}
    {values : List Value}
    {xs : List α}
    (reads : List.Forall₂ (fun value x => Reads reader value x) values xs) :
    Reads (Reader.list reader) (.list values) xs := by
  intro room draft read
  cases hasValue_of_readValue read with
  | @list inside items _ enters areItems =>
      rw [Reader.list_closed, enters]
      exact mapM_eq_ok_iff.mpr (forall₂_compose (fun isItem isRead => isRead _ _ isItem)
        (Draft.readItems_eq_ok_iff.mp areItems) reads)

/-- A reader reads the text of a value that it reads. -/
theorem document
    {reader : Reader α}
    {value : Value}
    {x : α}
    (reads : Reads reader value x)
    {depth : Nat}
    (writable : Writable depth value)
    (fits : depth < Draft.nestingLimit) :
    reader.document value.text = .ok x := by
  obtain ⟨draft, isValue, isDocument⟩ := (writable.denotes fits).document
  rw [Value.text, isDocument]
  exact reads _ _ isValue

end Reads

end InterfaceAudit.Json
