import InterfaceAudit.Proofs.Json.Members
import Mathlib.Data.List.Perm.Basic

/-!
Contract: records that are read from the members of an object.

Owns:
- the law that whatever has a value can be passed over;
- slots: what reading a member makes of a record;
- the law that a record is read from the members of its slots, whatever other
  members stand between them;
- the law that slots whose steps commute give one record in any order.

Does not own: the records of this library.
-/

namespace InterfaceAudit.Json

/-! ## Passing over -/

namespace Enclosed

theorem skipBody_letter
    (beyond : Nat)
    {letter c : Char}
    (notUnit : letter ≠ 'u')
    (isEscape : letterEscape? letter = some c)
    (rest : List Char) :
    skipBody beyond ('\\' :: letter :: rest) = skipBody beyond rest := by
  rw [skipBody, isEscape]
  · exact fun _ _ _ _ _ isUnit => absurd isUnit notUnit
  · exact notUnit

theorem skipBody_plain (beyond : Nat) {c : Char} (notEscape : c ≠ '\\') (rest : List Char) :
    skipBody beyond (c :: rest) =
      if c.toNat < 0x20 then .error .controlCharacter else skipBody beyond rest := by
  rw [skipBody]
  -- The other goals say that no escape starts here.
  all_goals
    intros
    contradiction

/-- Whatever can be read can be passed over. -/
theorem skipBody_of_readBody
    {beyond : Nat}
    {body text : List Char}
    (read : readBody beyond body = .ok text) :
    skipBody beyond body = .ok () := by
  fun_induction readBody beyond body generalizing text
  case case2 something => rw [skipBody, if_neg something]
  case case8 isUnit _ _ _ _ _ _ _ _ isLowUnit _ inductionHypothesis =>
    obtain ⟨first, isRead, rfl⟩ := map_eq_ok_iff.mp read
    simp [skipBody, isUnit, isLowUnit, inductionHypothesis isRead]
  case case12 isUnit _ _ inductionHypothesis =>
    obtain ⟨first, isRead, rfl⟩ := map_eq_ok_iff.mp read
    simp [skipBody, isUnit, inductionHypothesis isRead]
  case case16 letter rest _ notUnit c isEscape inductionHypothesis =>
    obtain ⟨first, isRead, rfl⟩ := map_eq_ok_iff.mp read
    rw [skipBody_letter beyond notUnit isEscape, inductionHypothesis isRead]
  case case18 c rest _ _ notLast notEscape printable inductionHypothesis =>
    obtain ⟨first, isRead, rfl⟩ := map_eq_ok_iff.mp read
    have notBackslash : c ≠ '\\' := by
      intro isBackslash
      cases rest with
      | nil => exact notLast isBackslash rfl
      | cons letter rest => exact notEscape letter rest isBackslash rfl
    rw [skipBody_plain beyond notBackslash, if_neg printable, inductionHypothesis isRead]
  all_goals cases read

theorem skip_of_read {text : Enclosed} {value : String} (read : text.read = .ok value) :
    text.skip = .ok () := by
  obtain ⟨_, isRead, _⟩ := map_eq_ok_iff.mp read
  exact skipBody_of_readBody isRead

end Enclosed

namespace Draft

mutual

/-- A tree that has a value can be passed over. -/
theorem skip_of_readValue {room : Nat} {draft : Draft} {value : Value}
    (read : readValue room draft = .ok value) : skip draft = .ok () := by
  match draft with
  | .word _ => rfl
  | .number _ => rfl
  | .string text =>
      obtain ⟨_, isText, _⟩ := map_eq_ok_iff.mp read
      exact Enclosed.skip_of_read isText
  | .list items ending =>
      obtain ⟨_, _, _, areItems, rfl, _⟩ := readValue_list_eq_ok_iff.mp read
      rw [skip, skipItems_of_readItems areItems]
      rfl
  | .object members ending =>
      obtain ⟨_, _, _, areMembers, rfl, _⟩ := readValue_object_eq_ok_iff.mp read
      rw [skip, skipMembers_of_readMembers areMembers]
      rfl
  | .broken _ => cases read

theorem skipItems_of_readItems {room : Nat} {items : List Draft} {values : List Value}
    (read : readItems room items = .ok values) : skipItems items = .ok () := by
  match items with
  | [] => rfl
  | item :: items =>
      obtain ⟨_, isItem, _, areItems, _⟩ := by
        simpa only [readItems, bind_eq_ok_iff] using read
      rw [skipItems, skip_of_readValue isItem]
      exact skipItems_of_readItems areItems

theorem skipMembers_of_readMembers
    {room : Nat}
    {members : List (Enclosed × Draft)}
    {values : List (String × Value)}
    (read : readMembers room members = .ok values) :
    skipMembers members = .ok () := by
  match members with
  | [] => rfl
  | (key, member) :: members =>
      obtain ⟨_, isName, _, isValue, _, areMembers, _⟩ := by
        simpa only [readMembers, bind_eq_ok_iff] using read
      rw [skipMembers, Enclosed.skip_of_read isName]
      show (skip member >>= fun _ => skipMembers members) = _
      rw [skip_of_readValue isValue]
      exact skipMembers_of_readMembers areMembers

end

end Draft

/-! ## Slots -/

def Field.Sets
    {record : Type}
    (field : Field Draft record)
    (room : Nat)
    (value : Value)
    (step : record → record) :
    Prop :=
  ∀ draft : Draft, draft.readValue room = .ok value →
    ∀ target, field.set draft target = .ok (step target)

theorem Field.sets_reading
    {α record : Type}
    {reader : Reader α}
    {value : Value}
    {x : α}
    (reads : Reads reader value x)
    (name : String)
    (required : Bool)
    (room : Nat)
    (update : α → record → record) :
    (Field.reading name required (reader room) update).Sets room value (update x) := by
  intro draft read target
  show (reader room draft).map _ = _
  rw [reads room draft read]
  rfl

/-- A member of a written record: its name, its value, and what reading it makes
of a record. -/
structure Slot (record : Type) where
  name : String
  value : Value
  step : record → record

def Slot.member {record : Type} (slot : Slot record) : String × Value :=
  (slot.name, slot.value)

def Slot.IsOf {record : Type} (slot : Slot record) (room : Nat) (field : Field Draft record) :
    Prop :=
  field.name = slot.name ∧ field.Sets room slot.value slot.step

/-- What reading the members of slots makes of a record, one after the other. -/
def Slot.assemble {record : Type} (slots : List (Slot record)) (target : record) : record :=
  slots.foldl (fun target slot => slot.step target) target

def Schema.names {source record : Type} (schema : Schema source record) : List String :=
  schema.fields.map Field.name

section Slots

variable {α : Type} {schema : Nat → Schema Draft α} {slots : List (Slot α)}

/-- Slots are those of a record, in the order of its fields. -/
def Slot.AreOf (slots : List (Slot α)) (schema : Nat → Schema Draft α) : Prop :=
  ∀ room, List.Forall₂ (fun slot field => slot.IsOf room field) slots (schema room).fields

theorem Slot.AreOf.names_eq (areOf : Slot.AreOf slots schema) (room : Nat) :
    (schema room).names = slots.map Slot.name := by
  have areSlots := areOf room
  clear areOf
  unfold Schema.names
  generalize (schema room).fields = fields at areSlots
  induction areSlots with
  | nil => rfl
  | cons isOf _ inductionHypothesis =>
      rw [List.map_cons, List.map_cons, isOf.1, inductionHypothesis]

theorem Slot.AreOf.exists_field
    (areOf : Slot.AreOf slots schema)
    (room : Nat)
    {slot : Slot α}
    (member : slot ∈ slots) :
    ∃ field ∈ (schema room).fields, slot.IsOf room field := by
  have areSlots := areOf room
  clear areOf
  generalize (schema room).fields = fields at areSlots
  induction areSlots with
  | nil => cases member
  | cons isOf _ inductionHypothesis =>
      rcases List.mem_cons.mp member with rfl | member
      · exact ⟨_, List.mem_cons_self, isOf⟩
      · obtain ⟨field, isField, isOf⟩ := inductionHypothesis member
        exact ⟨field, List.mem_cons_of_mem _ isField, isOf⟩

theorem Slot.filter_members {some : List (Slot α)} (areSlots : ∀ slot ∈ some, slot ∈ slots) :
    (some.map Slot.member).filter (fun member => member.1 ∈ slots.map Slot.name) =
      some.map Slot.member := by
  rw [List.filter_eq_self]
  intro member isMember
  obtain ⟨slot, isSome, rfl⟩ := List.mem_map.mp isMember
  exact decide_eq_true (List.mem_map_of_mem (areSlots slot isSome))

/-- The order of slots does not matter if their steps commute. -/
theorem Slot.assemble_perm
    {others : List (Slot α)}
    (perm : others.Perm slots)
    (commute : ∀ first ∈ slots, ∀ second ∈ slots, ∀ target,
      second.step (first.step target) = first.step (second.step target))
    (target : α) :
    Slot.assemble others target = Slot.assemble slots target :=
  perm.foldl_eq' (fun first isFirst second isSecond target =>
    commute first (perm.mem_iff.mp isFirst) second (perm.mem_iff.mp isSecond) target) target

/-- Members that are those of slots up to their order are those of the slots in
some order. -/
theorem Slot.exists_perm_of_members
    {members : List (String × Value)}
    (perm : members.Perm (slots.map Slot.member)) :
    ∃ others : List (Slot α), members = others.map Slot.member ∧ others.Perm slots := by
  have same : List.Forall₂ (fun member slot => member = Slot.member slot)
      (slots.map Slot.member) slots :=
    List.forall₂_map_left_iff.mpr (List.forall₂_same.mpr fun _ _ => rfl)
  obtain ⟨others, areMembers, isPerm⟩ := List.perm_comp_forall₂ perm same
  refine ⟨others, ?_, isPerm⟩
  rwa [← List.forall₂_map_right_iff, List.forall₂_eq_eq_eq] at areMembers

end Slots

/-! ## Setting fields -/

namespace Schema

theorem find?_name
    {source record : Type}
    {fields : List (Field source record)}
    (distinct : (fields.map Field.name).Nodup)
    {field : Field source record}
    (member : field ∈ fields) :
    fields.find? (fun other => other.name == field.name) = some field := by
  induction fields with
  | nil => cases member
  | cons first fields inductionHypothesis =>
      rw [List.map_cons, List.nodup_cons] at distinct
      rcases List.mem_cons.mp member with rfl | member
      · exact List.find?_cons_of_pos (beq_self_eq_true _)
      · have differs : first.name ≠ field.name := by
          intro same
          exact distinct.1 (same ▸ List.mem_map_of_mem member)
        rw [List.find?_cons_of_neg (by simpa using differs)]
        exact inductionHypothesis distinct.2 member

section Members

variable {record : Type} {schema : Schema Draft record} {room : Nat} {slots : List (Slot record)}

theorem setMember_slot
    (distinct : schema.names.Nodup)
    {slot : Slot record}
    {field : Field Draft record}
    (member : field ∈ schema.fields)
    (isOf : slot.IsOf room field)
    {draft : Draft}
    (isValue : draft.readValue room = .ok slot.value)
    {progress : Progress record}
    (unseen : slot.name ∉ progress.seen) :
    schema.setMember Draft.skip progress slot.name draft =
      .ok ⟨slot.step progress.record, slot.name :: progress.seen⟩ := by
  have isNew : progress.seen.contains slot.name = false := by
    simpa using unseen
  have isFound := find?_name distinct member
  rw [isOf.1] at isFound
  rw [setMember, isFound]
  simp only [isNew, Bool.false_eq_true, if_false, bind, Except.bind, pure, Except.pure,
    isOf.2 _ isValue]

/-- A member of another name is passed over, if it has a value. -/
theorem setMember_foreign
    {name : String}
    (foreign : name ∉ schema.names)
    {draft : Draft}
    {value : Value}
    (isValue : draft.readValue room = .ok value)
    (progress : Progress record) :
    schema.setMember Draft.skip progress name draft = .ok progress := by
  have unknown : schema.fields.find? (fun field => field.name == name) = none := by
    rw [List.find?_eq_none]
    intro field member
    have differs : field.name ≠ name := fun same => foreign (same ▸ List.mem_map_of_mem member)
    simpa using differs
  rw [setMember, unknown]
  show (draft.skip >>= fun _ => pure progress) = _
  rw [Draft.skip_of_readValue isValue]
  rfl

/-- Members make the steps of the slots that stand among them, in that order. -/
theorem foldlM_setMember
    (distinct : schema.names.Nodup)
    {members : List (Enclosed × Draft)}
    {values : List (String × Value)}
    (areMembers : Draft.readMembers room members = .ok values)
    (areFields : ∀ slot ∈ slots, ∃ field ∈ schema.fields, slot.IsOf room field)
    (apart : (slots.map Slot.name).Nodup)
    (known : values.filter (fun member => member.1 ∈ schema.names) = slots.map Slot.member)
    (progress : Progress record)
    (unseen : ∀ slot ∈ slots, slot.name ∉ progress.seen) :
    members.foldlM (m := Except Fault) (fun progress member => do
        let name ← member.1.read
        schema.setMember Draft.skip progress name member.2) progress =
      .ok {
        record := Slot.assemble slots progress.record
        seen := (slots.map Slot.name).reverse ++ progress.seen } := by
  induction members generalizing values slots progress with
  | nil =>
      cases areMembers
      rw [List.filter_nil, eq_comm, List.map_eq_nil_iff] at known
      rw [known]
      rfl
  | cons member members inductionHypothesis =>
      rw [Draft.readMembers_eq_ok_iff, List.forall₂_cons_left_iff] at areMembers
      obtain ⟨⟨name, value⟩, others, ⟨isName, isValue⟩, areOthers, rfl⟩ := areMembers
      rw [← Draft.readMembers_eq_ok_iff] at areOthers
      rw [List.foldlM_cons]
      simp only [isName, bind, Except.bind] at inductionHypothesis ⊢
      by_cases isKnown : name ∈ schema.names
      · rw [List.filter_cons_of_pos (by simpa using isKnown), eq_comm, List.map_eq_cons_iff]
          at known
        obtain ⟨slot, slots, rfl, isSlot, known⟩ := known
        cases isSlot
        rw [List.map_cons, List.nodup_cons] at apart
        obtain ⟨field, isField, isOf⟩ := areFields slot List.mem_cons_self
        rw [setMember_slot distinct isField isOf isValue (unseen slot List.mem_cons_self)]
        -- The slot just set is among those seen, so the others must be apart from it.
        have goesOn := inductionHypothesis areOthers
          (fun other isOther => areFields other (List.mem_cons_of_mem _ isOther)) apart.2
          known.symm ⟨slot.step progress.record, slot.name :: progress.seen⟩
          fun other isOther => by
            rw [List.mem_cons, not_or]
            refine ⟨fun same => apart.1 (same ▸ List.mem_map_of_mem isOther), ?_⟩
            exact unseen other (List.mem_cons_of_mem _ isOther)
        simp only [goesOn]
        simp [Slot.assemble]
      · rw [List.filter_cons_of_neg (by simpa using isKnown)] at known
        rw [setMember_foreign isKnown isValue]
        exact inductionHypothesis areOthers areFields apart known progress unseen

end Members

end Schema

/-! ## Records -/

namespace Reads

section Records

variable {α : Type} {schema : Nat → Schema Draft α} {slots : List (Slot α)} {x : α}
variable {members : List (String × Value)}

/-- A record is read from an object among whose members those of its slots stand
in order, if none is missing that is required. -/
theorem recordAmong
    (distinct : ∀ room, (schema room).names.Nodup)
    (areFields : ∀ room, ∀ slot ∈ slots, ∃ field ∈ (schema room).fields, slot.IsOf room field)
    (apart : (slots.map Slot.name).Nodup)
    (known : ∀ room,
      members.filter (fun member => member.1 ∈ (schema room).names) = slots.map Slot.member)
    (required : ∀ room, ∀ field ∈ (schema room).fields,
      field.required = true → field.name ∈ slots.map Slot.name)
    (assembled : ∀ room, Slot.assemble slots (schema room).blank = x) :
    Reads (Reader.record schema) (.object members) x := by
  intro room draft read
  cases Draft.hasValue_of_readValue read with
  | @object inside drafts _ enters areMembers =>
      have isSet := Schema.foldlM_setMember (distinct inside) areMembers (areFields inside) apart
        (known inside) ⟨(schema inside).blank, []⟩ fun _ _ => List.not_mem_nil
      have isComplete : (schema inside).complete ⟨x, (slots.map Slot.name).reverse ++ []⟩ = .ok x :=
        Schema.complete_of_required fun field isField isRequired => by
          simpa using required inside field isField isRequired
      simp only [Reader.record, enters, bind, Except.bind, Schema.readObject]
      simp only [bind, Except.bind, assembled inside] at isSet
      rw [isSet]
      exact isComplete

/-- A record is read from an object with all its fields in their order. -/
theorem record
    (areOf : Slot.AreOf slots schema)
    (apart : (slots.map Slot.name).Nodup)
    (assembled : ∀ room, Slot.assemble slots (schema room).blank = x) :
    Reads (Reader.record schema) (.object (slots.map Slot.member)) x := by
  refine recordAmong (fun room => areOf.names_eq room ▸ apart)
    (fun room slot member => areOf.exists_field room member) apart
    (fun room => areOf.names_eq room ▸ Slot.filter_members fun _ member => member)
    (fun room field isField _ => ?_) assembled
  rw [← areOf.names_eq room]
  exact List.mem_map_of_mem isField

/-- A record is read from any of its members in any order, among members of other
names, if none is missing that is required and the steps of its slots commute.
What is missing keeps its default. -/
theorem overlay
    (areOf : Slot.AreOf slots schema)
    (apart : (slots.map Slot.name).Nodup)
    (commute : ∀ first ∈ slots, ∀ second ∈ slots, ∀ target,
      second.step (first.step target) = first.step (second.step target))
    {isKept : String → Bool}
    (required : ∀ room, ∀ field ∈ (schema room).fields,
      field.required = true → isKept field.name = true)
    {foreign : List (String × Value)}
    (isForeign : ∀ member ∈ foreign, member.1 ∉ slots.map Slot.name)
    (perm : members.Perm ((slots.filter fun slot => isKept slot.name).map Slot.member ++ foreign))
    (assembled : ∀ room,
      Slot.assemble (slots.filter fun slot => isKept slot.name) (schema room).blank = x) :
    Reads (Reader.record schema) (.object members) x := by
  let kept := slots.filter fun slot => isKept slot.name
  have isSlot : ∀ slot ∈ kept, slot ∈ slots := fun _ member => List.mem_of_mem_filter member
  have knownPerm : (members.filter fun member => member.1 ∈ slots.map Slot.name).Perm
      (kept.map Slot.member) := by
    have none : foreign.filter (fun member => member.1 ∈ slots.map Slot.name) = [] := by
      rw [List.filter_eq_nil_iff]
      intro member isMember
      simpa using isForeign member isMember
    have filtered := perm.filter fun member => member.1 ∈ slots.map Slot.name
    rwa [List.filter_append, Slot.filter_members isSlot, none, List.append_nil] at filtered
  -- The kept slots stand among the members in some order of their own.
  obtain ⟨others, known, isPerm⟩ := Slot.exists_perm_of_members knownPerm
  have othersApart : (others.map Slot.name).Nodup :=
    (isPerm.map Slot.name).nodup_iff.mpr (apart.sublist (List.filter_sublist.map Slot.name))
  refine recordAmong (fun room => areOf.names_eq room ▸ apart)
    (fun room slot member => areOf.exists_field room (isSlot slot (isPerm.mem_iff.mp member)))
    othersApart (fun room => areOf.names_eq room ▸ known) (fun room field isField isRequired => ?_)
    (fun room => ?_)
  · have isName : field.name ∈ slots.map Slot.name :=
      areOf.names_eq room ▸ List.mem_map_of_mem isField
    obtain ⟨slot, member, isName⟩ := List.mem_map.mp isName
    have keeps : isKept slot.name = true := isName ▸ required room field isField isRequired
    rw [(isPerm.map Slot.name).mem_iff, ← isName]
    exact List.mem_map_of_mem (List.mem_filter.mpr ⟨member, keeps⟩)
  · rw [Slot.assemble_perm isPerm fun first isFirst second isSecond =>
      commute first (isSlot first isFirst) second (isSlot second isSecond)]
    exact assembled room

end Records

end Reads

end InterfaceAudit.Json
