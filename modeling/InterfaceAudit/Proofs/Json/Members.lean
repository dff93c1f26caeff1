import InterfaceAudit.Proofs.Json.Decoding

/-!
Contract: records that are read from members in any order.

Owns:
- all values of a name among the members of an object;
- records whose fields can be read off them again;
- the law that such a record is read exactly from the members that show every
  field once, or not at all where it may be left out.

Does not own: the records of this library.
-/

namespace InterfaceAudit.Json

/-! ## Values of a name -/

/-- The values of all members of a name, in order. -/
def valuesOf (name : String) (members : List (String × Value)) : List Value :=
  (members.filter fun member => member.1 == name).map Prod.snd

@[simp] theorem valuesOf_nil (name : String) : valuesOf name [] = [] := rfl

@[simp] theorem valuesOf_cons_self (name : String) (value : Value)
    (members : List (String × Value)) :
    valuesOf name ((name, value) :: members) = value :: valuesOf name members := by
  simp [valuesOf]

theorem valuesOf_cons_of_ne
    {name other : String}
    (differs : other ≠ name)
    (value : Value)
    (members : List (String × Value)) :
    valuesOf name ((other, value) :: members) = valuesOf name members := by
  rw [valuesOf, List.filter_cons_of_neg (by simpa using differs)]
  rfl

theorem valuesOf_append (name : String) (first second : List (String × Value)) :
    valuesOf name (first ++ second) = valuesOf name first ++ valuesOf name second := by
  rw [valuesOf, List.filter_append, List.map_append]
  rfl

theorem mem_of_valuesOf
    {name : String}
    {value : Value}
    {members : List (String × Value)}
    (once : valuesOf name members = [value]) :
    (name, value) ∈ members := by
  have member : value ∈ valuesOf name members := once ▸ List.mem_singleton_self value
  obtain ⟨⟨other, _⟩, isMember, rfl⟩ := List.mem_map.mp member
  obtain ⟨isOwn, isName⟩ := List.mem_filter.mp isMember
  exact beq_iff_eq.mp isName ▸ isOwn

theorem valuesOf_perm
    {first second : List (String × Value)}
    (perm : first.Perm second)
    (name : String) :
    (valuesOf name first).Perm (valuesOf name second) :=
  (perm.filter _).map _

theorem valuesOf_eq_nil
    {name : String}
    {members : List (String × Value)}
    (absent : ∀ member ∈ members, member.1 ≠ name) :
    valuesOf name members = [] := by
  rw [valuesOf, List.map_eq_nil_iff, List.filter_eq_nil_iff]
  intro member isMember
  simpa using absent member isMember

/-- Members that are chosen by their names leave all values of a name or none. -/
theorem valuesOf_filter
    (name : String)
    (isKept : String → Bool)
    (members : List (String × Value)) :
    valuesOf name (members.filter fun member => isKept member.1) =
      if isKept name then valuesOf name members else [] := by
  unfold valuesOf
  rw [List.filter_filter]
  split
  next keeps =>
    congr 1
    apply List.filter_congr
    intro member _
    by_cases isName : member.1 = name <;> simp [isName, keeps]
  next drops =>
    rw [List.map_eq_nil_iff, List.filter_eq_nil_iff]
    intro member _
    by_cases isName : member.1 = name <;> simp [isName, drops]

/-! ## Fields that can be read off -/

/-- What a field of a record shows: one that is set shows the value that it was
set from while other names show what they did, and it can be set from whatever it
shows. -/
structure Field.IsShownBy
    {record : Type}
    (field : Field Value record)
    (shows : String → record → Value) :
    Prop where
  own : ∀ {value target result},
    field.set value target = .ok result → shows field.name result = value
  others : ∀ {value target result}, field.set value target = .ok result →
    ∀ other, other ≠ field.name → shows other result = shows other target
  settable : ∀ shown target, ∃ result, field.set (shows field.name shown) target = .ok result

namespace Schema

/-- A record is complete if its required fields were set. -/
theorem complete_of_required
    {source record : Type}
    {schema : Schema source record}
    {progress : Progress record}
    (required : ∀ field ∈ schema.fields, field.required = true → field.name ∈ progress.seen) :
    schema.complete progress = .ok progress.record := by
  have nothing : schema.fields.find?
      (fun field => field.required && !progress.seen.contains field.name) = none := by
    rw [List.find?_eq_none]
    intro field member
    cases isRequired : field.required with
    | false => simp
    | true => simpa using required field member isRequired
  rw [complete, nothing]

variable {record : Type}

/-- What the fields of a record show: each its own value, and together the whole
record. -/
structure IsShownBy (schema : Schema Value record) (shows : String → record → Value) : Prop where
  each : ∀ field ∈ schema.fields, field.IsShownBy shows
  ext : ∀ {first second}, (∀ field ∈ schema.fields,
    shows field.name first = shows field.name second) → first = second

/-- Members fit a record: every field stands among them once, with the value that
the record shows, or it is left out and shows its default. -/
def Fits
    (schema : Schema Value record)
    (shows : String → record → Value)
    (members : List (String × Value))
    (result : record) :
    Prop :=
  ∀ field ∈ schema.fields,
    valuesOf field.name members = [shows field.name result] ∨
      field.required = false ∧ valuesOf field.name members = [] ∧
        shows field.name result = shows field.name schema.blank

/-- What is known of a record while members are read: a field shows the one value
that was read for it, or else its default. -/
structure Reflects
    (schema : Schema Value record)
    (shows : String → record → Value)
    (read : List (String × Value))
    (progress : Progress record) :
    Prop where
  seen : ∀ field ∈ schema.fields, field.name ∈ progress.seen →
    valuesOf field.name read = [shows field.name progress.record]
  unseen : ∀ field ∈ schema.fields, field.name ∉ progress.seen →
    valuesOf field.name read = [] ∧
      shows field.name progress.record = shows field.name schema.blank

section Reading

variable {schema : Schema Value record} {shows : String → record → Value}
  {skip : Value → Except Fault Unit}

/-- One more member keeps what is known. -/
theorem Reflects.step
    (isShown : schema.IsShownBy shows)
    {read : List (String × Value)}
    {progress next : Progress record}
    (reflects : schema.Reflects shows read progress)
    {name : String}
    {value : Value}
    (isSet : schema.setMember skip progress name value = .ok next) :
    schema.Reflects shows (read ++ [(name, value)]) next := by
  unfold setMember at isSet
  split at isSet
  next unknown =>
    obtain ⟨_, _, isNext⟩ := bind_eq_ok_iff.mp isSet
    cases isNext
    have foreign : ∀ field ∈ schema.fields, name ≠ field.name := by
      intro field member same
      have notFound := List.find?_eq_none.mp unknown field member
      exact notFound (by simp [same])
    -- A foreign member is passed over, and no field has its name.
    refine ⟨fun field member isSeen => ?_, fun field member isUnseen => ?_⟩
    · rw [valuesOf_append, valuesOf_cons_of_ne (foreign field member), valuesOf_nil,
        List.append_nil]
      exact reflects.seen field member isSeen
    · rw [valuesOf_append, valuesOf_cons_of_ne (foreign field member), valuesOf_nil,
        List.append_nil]
      exact reflects.unseen field member isUnseen
  next own isOwn =>
    have isField := List.mem_of_find?_eq_some isOwn
    have isName : own.name = name := by simpa using List.find?_some isOwn
    subst isName
    split at isSet
    next => cases isSet
    next isNew =>
      obtain ⟨result, isResult, isNext⟩ := bind_eq_ok_iff.mp isSet
      cases isNext
      have notSeen : own.name ∉ progress.seen := by simpa using isNew
      -- The field that was set has its only value now, and the others are as before.
      refine ⟨fun field member isSeen => ?_, fun field member isUnseen => ?_⟩
      · by_cases same : field.name = own.name
        · rw [same, valuesOf_append, valuesOf_cons_self, (reflects.unseen own isField notSeen).1,
            (isShown.each own isField).own isResult]
          rfl
        · rw [valuesOf_append, valuesOf_cons_of_ne (Ne.symm same), valuesOf_nil, List.append_nil,
            (isShown.each own isField).others isResult field.name same]
          exact reflects.seen field member ((List.mem_cons.mp isSeen).resolve_left same)
      · rw [List.mem_cons, not_or] at isUnseen
        rw [valuesOf_append, valuesOf_cons_of_ne (Ne.symm isUnseen.1), valuesOf_nil,
          List.append_nil, (isShown.each own isField).others isResult field.name isUnseen.1]
        exact reflects.unseen field member isUnseen.2

/-- A member that fits a record can be set. -/
theorem exists_setMember
    (isShown : schema.IsShownBy shows)
    (skips : ∀ value, skip value = .ok ())
    {read rest : List (String × Value)}
    {progress : Progress record}
    (reflects : schema.Reflects shows read progress)
    {name : String}
    {value : Value}
    {result : record}
    (fits : schema.Fits shows (read ++ (name, value) :: rest) result) :
    ∃ next, schema.setMember skip progress name value = .ok next := by
  unfold setMember
  split
  next =>
    rw [skips]
    exact ⟨_, rfl⟩
  next own isOwn =>
    have isField := List.mem_of_find?_eq_some isOwn
    have isName : own.name = name := by simpa using List.find?_some isOwn
    subst isName
    have once := fits own isField
    rw [valuesOf_append, valuesOf_cons_self] at once
    have isSingle : valuesOf own.name read ++ value :: valuesOf own.name rest =
        [shows own.name result] := by
      rcases once with once | ⟨_, none, _⟩
      · exact once
      · exact absurd none (List.append_ne_nil_of_right_ne_nil _ (List.cons_ne_nil _ _))
    rw [List.append_eq_singleton_iff] at isSingle
    rcases isSingle with ⟨noneBefore, isValue⟩ | ⟨_, impossible⟩
    · have notSeen : own.name ∉ progress.seen := by
        intro isSeen
        rw [reflects.seen own isField isSeen] at noneBefore
        exact absurd noneBefore (List.cons_ne_nil _ _)
      rw [(List.cons.inj isValue).1, if_neg (by simpa using notSeen)]
      obtain ⟨set, isSet⟩ := (isShown.each own isField).settable result progress.record
      exact ⟨_, by rw [isSet]; rfl⟩
    · cases impossible

def setMembers
    (schema : Schema Value record)
    (skip : Value → Except Fault Unit)
    (progress : Progress record)
    (members : List (String × Value)) :
    Except Fault (Progress record) :=
  members.foldlM (fun progress member => schema.setMember skip progress member.1 member.2) progress

/-- What is known at the start is known of everything at the end. -/
theorem Reflects.setMembers
    (isShown : schema.IsShownBy shows)
    {read rest : List (String × Value)}
    {progress final : Progress record}
    (reflects : schema.Reflects shows read progress)
    (isFinal : schema.setMembers skip progress rest = .ok final) :
    schema.Reflects shows (read ++ rest) final := by
  induction rest generalizing read progress with
  | nil =>
      cases isFinal
      rw [List.append_nil]
      exact reflects
  | cons member rest inductionHypothesis =>
      rw [Schema.setMembers, List.foldlM_cons] at isFinal
      obtain ⟨next, isNext, isFinal⟩ := bind_eq_ok_iff.mp isFinal
      have goesOn := inductionHypothesis (reflects.step isShown isNext) isFinal
      rw [List.append_assoc] at goesOn
      exact goesOn

/-- Members that fit a record are all set. -/
theorem exists_setMembers
    (isShown : schema.IsShownBy shows)
    (skips : ∀ value, skip value = .ok ())
    {read rest : List (String × Value)}
    {progress : Progress record}
    {result : record}
    (reflects : schema.Reflects shows read progress)
    (fits : schema.Fits shows (read ++ rest) result) :
    ∃ final, schema.setMembers skip progress rest = .ok final := by
  induction rest generalizing read progress with
  | nil => exact ⟨progress, rfl⟩
  | cons member rest inductionHypothesis =>
      obtain ⟨next, isNext⟩ := exists_setMember isShown skips reflects fits
      have fitsOn : schema.Fits shows ((read ++ [member]) ++ rest) result := by
        rw [List.append_assoc]
        exact fits
      obtain ⟨final, isFinal⟩ := inductionHypothesis (reflects.step isShown isNext) fitsOn
      refine ⟨final, ?_⟩
      rw [setMembers, List.foldlM_cons]
      exact bind_eq_ok_iff.mpr ⟨next, isNext, isFinal⟩

/-- A record that is complete fits all members that were read. -/
theorem fits_of_complete
    {members : List (String × Value)}
    {final : Progress record}
    {result : record}
    (reflects : schema.Reflects shows members final)
    (isComplete : schema.complete final = .ok result) :
    schema.Fits shows members result := by
  unfold complete at isComplete
  split at isComplete
  next => cases isComplete
  next nothing =>
    cases isComplete
    intro field member
    by_cases isSeen : field.name ∈ final.seen
    · exact .inl (reflects.seen field member isSeen)
    · have optional := List.find?_eq_none.mp nothing field member
      obtain ⟨none, isBlank⟩ := reflects.unseen field member isSeen
      exact .inr ⟨by simpa [isSeen] using optional, none, isBlank⟩

/-- Members that fit a record complete it. -/
theorem complete_of_fits
    (isShown : schema.IsShownBy shows)
    {members : List (String × Value)}
    {final : Progress record}
    {result : record}
    (reflects : schema.Reflects shows members final)
    (fits : schema.Fits shows members result) :
    schema.complete final = .ok result := by
  have isUnseen {field : Field Value record} (member : field ∈ schema.fields)
      (unseen : field.name ∉ final.seen) :
      field.required = false ∧ shows field.name final.record = shows field.name result := by
    obtain ⟨none, isBlank⟩ := reflects.unseen field member unseen
    rcases fits field member with once | ⟨optional, _, isDefault⟩
    · rw [none] at once
      cases once
    · exact ⟨optional, isBlank.trans isDefault.symm⟩
  have required : ∀ field ∈ schema.fields, field.required = true → field.name ∈ final.seen := by
    intro field member isRequired
    by_contra unseen
    rw [(isUnseen member unseen).1] at isRequired
    cases isRequired
  have same : final.record = result := by
    apply isShown.ext
    intro field member
    by_cases isSeen : field.name ∈ final.seen
    · have once := reflects.seen field member isSeen
      rcases fits field member with fitting | ⟨_, none, _⟩
      · rw [once] at fitting
        exact (List.cons.inj fitting).1
      · rw [once] at none
        cases none
    · exact (isUnseen member isSeen).2
  rw [complete_of_required required, same]

/-- Members are read into a record exactly if they fit it. -/
theorem readNamed_eq_ok_iff
    (isShown : schema.IsShownBy shows)
    (skips : ∀ value, skip value = .ok ())
    {members : List (String × Value)}
    {result : record} :
    schema.readNamed skip members = .ok result ↔ schema.Fits shows members result := by
  have start : schema.Reflects shows [] ⟨schema.blank, []⟩ :=
    ⟨fun _ _ isSeen => absurd isSeen List.not_mem_nil, fun _ _ _ => ⟨rfl, rfl⟩⟩
  constructor
  · intro isRead
    obtain ⟨final, isFinal, isComplete⟩ := bind_eq_ok_iff.mp isRead
    exact fits_of_complete (start.setMembers isShown isFinal) isComplete
  · intro fits
    obtain ⟨final, isFinal⟩ := exists_setMembers isShown skips start fits
    exact bind_eq_ok_iff.mpr
      ⟨final, isFinal, complete_of_fits isShown (start.setMembers isShown isFinal) fits⟩

end Reading

end Schema

end InterfaceAudit.Json
