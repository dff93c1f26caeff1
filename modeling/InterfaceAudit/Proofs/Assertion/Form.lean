import InterfaceAudit.Assertion.Json
import InterfaceAudit.Proofs.Json.Members

/-!
Contract: which JSON values are assertions, and of which.

Owns:
- what the members of an object must say to describe an assertion;
- the law that the reader accepts these values and no others, wherever they
  stand;
- what is wrong with members that describe nothing.

Does not own: texts of values, or lists of assertions.
-/

namespace InterfaceAudit.Assertion

open InterfaceAudit.Json (Value Draft Fault Enclosed Field Schema bind_eq_ok_iff map_eq_ok_iff
  valuesOf valuesOf_nil valuesOf_cons_self valuesOf_cons_of_ne)

/-! ## Kinds -/

def kind : Assertion → Kind
  | .require _ => .require
  | .check (.constant _) => .constant
  | .check (.method _) => .method

namespace Kind

theorem ofName_eq_ok_iff {name : String} {kind : Kind} :
    ofName name = .ok kind ↔ name = kind.name := by
  constructor
  · intro isOk
    unfold ofName at isOk
    split at isOk
    next found isFound =>
      have same : found.name = name := by simpa using List.find?_some isFound
      rw [← same, Except.ok.inj isOk]
    next => cases isOk
  · rintro rfl
    cases kind <;> rfl

theorem name_injective {first second : Kind} (same : first.name = second.name) :
    first = second := by
  have isFirst := ofName_eq_ok_iff.mpr same
  rw [ofName_eq_ok_iff.mpr rfl] at isFirst
  exact Except.ok.inj isFirst

theorem reader_eq_ok_iff {room : Nat} {draft : Draft} {kind : Kind} :
    reader room draft = .ok kind ↔ draft.readValue room = .ok (.string kind.name) := by
  unfold reader
  simp only [bind_eq_ok_iff, Json.Reader.text_eq_ok_iff, ofName_eq_ok_iff]
  constructor
  · rintro ⟨_, isText, rfl⟩
    exact isText
  · exact fun isText => ⟨_, isText, rfl⟩

/-- The names of the fields that hold strings. None of them may be left out. -/
def textFields : Kind → List String
  | .require => ["name"]
  | .constant => ["name", "location"]
  | .method => ["receiver", "method", "location"]

def flagFields : Kind → List String
  | .require | .constant => []
  | .method => ["singleton", "allow_missing"]

def fields (kind : Kind) : List String :=
  kind.textFields ++ kind.flagFields

end Kind

/-! ## What members describe -/

/-- The only member of a name is a string. -/
def HoldsText (name text : String) (members : List (String × Value)) : Prop :=
  valuesOf name members = [.string text]

/-- The only member of a name is a flag. One that is not set may be left out. -/
def HoldsFlag (name : String) (flag : Bool) (members : List (String × Value)) : Prop :=
  valuesOf name members = [.boolean flag] ∨ valuesOf name members = [] ∧ flag = false

/-- Members hold the fields of an assertion. -/
def HasFields (members : List (String × Value)) : Assertion → Prop
  | .require name => HoldsText "name" name members
  | .check (.constant wanted) =>
      HoldsText "name" wanted.name members ∧ HoldsText "location" wanted.location members
  | .check (.method wanted) =>
      HoldsText "receiver" wanted.receiver members ∧
      HoldsText "method" wanted.method members ∧
      HoldsText "location" wanted.location members ∧
      HoldsFlag "singleton" wanted.singleton members ∧
      HoldsFlag "allow_missing" wanted.allowMissing members

/-- Members describe an assertion: they hold its kind and its fields. Members of
other names say nothing. -/
def Describes (members : List (String × Value)) (assertion : Assertion) : Prop :=
  HoldsText "kind" assertion.kind.name members ∧ HasFields members assertion

/-- A value is the form of an assertion: an object that describes it, or a list
that holds its kind and then its fields in order. -/
inductive IsForm : Value → Assertion → Prop where
  | object {members : List (String × Value)} {assertion : Assertion}
      (describes : Describes members assertion) :
      IsForm (.object members) assertion
  | list {kind : Kind} {fields : List Value} {assertion : Assertion}
      (positional : ofPayload (.items fields) kind = .ok assertion) :
      IsForm (.list (.string kind.name :: fields)) assertion

/-! ## Fields -/

section Fields

variable {record : Type}

@[simp] theorem stringField_name (name : String) (update : String → record → record) :
    (stringField name update).name = name := rfl

@[simp] theorem stringField_required (name : String) (update : String → record → record) :
    (stringField name update).required = true := rfl

@[simp] theorem flagField_name (name : String) (update : Bool → record → record) :
    (flagField name update).name = name := rfl

@[simp] theorem flagField_required (name : String) (update : Bool → record → record) :
    (flagField name update).required = false := rfl

theorem stringField_set_eq_ok_iff
    {name : String}
    {update : String → record → record}
    {value : Value}
    {target result : record} :
    (stringField name update).set value target = .ok result ↔
      ∃ text, value = .string text ∧ update text target = result := by
  cases value <;> simp [stringField]

theorem flagField_set_eq_ok_iff
    {name : String}
    {update : Bool → record → record}
    {value : Value}
    {target result : record} :
    (flagField name update).set value target = .ok result ↔
      ∃ flag, value = .boolean flag ∧ update flag target = result := by
  cases value <;> simp [flagField]

variable {name : String} {shows : String → record → Value}

theorem stringField_isShownBy
    {update : String → record → record}
    (own : ∀ text target, shows name (update text target) = .string text)
    (others : ∀ other, other ≠ name → ∀ text target,
      shows other (update text target) = shows other target)
    (isText : ∀ shown, ∃ text, shows name shown = .string text) :
    (stringField name update).IsShownBy shows where
  own isSet := by
    obtain ⟨text, rfl, rfl⟩ := stringField_set_eq_ok_iff.mp isSet
    exact own text _
  others isSet other differs := by
    obtain ⟨text, rfl, rfl⟩ := stringField_set_eq_ok_iff.mp isSet
    exact others other differs text _
  settable shown target := by
    obtain ⟨text, isText⟩ := isText shown
    exact ⟨update text target, stringField_set_eq_ok_iff.mpr ⟨text, isText, rfl⟩⟩

theorem flagField_isShownBy
    {update : Bool → record → record}
    (own : ∀ flag target, shows name (update flag target) = .boolean flag)
    (others : ∀ other, other ≠ name → ∀ flag target,
      shows other (update flag target) = shows other target)
    (isFlag : ∀ shown, ∃ flag, shows name shown = .boolean flag) :
    (flagField name update).IsShownBy shows where
  own isSet := by
    obtain ⟨flag, rfl, rfl⟩ := flagField_set_eq_ok_iff.mp isSet
    exact own flag _
  others isSet other differs := by
    obtain ⟨flag, rfl, rfl⟩ := flagField_set_eq_ok_iff.mp isSet
    exact others other differs flag _
  settable shown target := by
    obtain ⟨flag, isFlag⟩ := isFlag shown
    exact ⟨update flag target, flagField_set_eq_ok_iff.mpr ⟨flag, isFlag, rfl⟩⟩

end Fields

/-! ## What fields show

Each name shows the field of that name, and other names show nothing.
-/

def showRequire (field name : String) : Value :=
  if field = "name" then .string name else .null

def showConstant (field : String) (wanted : ConstantCheck) : Value :=
  if field = "name" then .string wanted.name
  else if field = "location" then .string wanted.location
  else .null

def showMethod (field : String) (wanted : MethodCheck) : Value :=
  if field = "receiver" then .string wanted.receiver
  else if field = "method" then .string wanted.method
  else if field = "location" then .string wanted.location
  else if field = "singleton" then .boolean wanted.singleton
  else if field = "allow_missing" then .boolean wanted.allowMissing
  else .null

theorem requireSchema_isShownBy : requireSchema.IsShownBy showRequire where
  each := by
    refine List.forall_mem_singleton.mpr (stringField_isShownBy ?_ ?_ ?_)
    all_goals simp +contextual [showRequire]
  ext := by simp [requireSchema, showRequire]

theorem constantSchema_isShownBy : constantSchema.IsShownBy showConstant where
  each := by
    simp only [constantSchema, List.forall_mem_cons, List.not_mem_nil, false_implies, implies_true,
      and_true]
    refine ⟨stringField_isShownBy ?_ ?_ ?_, stringField_isShownBy ?_ ?_ ?_⟩
    all_goals simp +contextual [showConstant]
  ext := by
    intro first second same
    cases first
    cases second
    simpa [constantSchema, showConstant] using same

theorem methodSchema_isShownBy : methodSchema.IsShownBy showMethod where
  each := by
    simp only [methodSchema, List.forall_mem_cons, List.not_mem_nil, false_implies, implies_true,
      and_true]
    refine ⟨stringField_isShownBy ?_ ?_ ?_, stringField_isShownBy ?_ ?_ ?_,
      stringField_isShownBy ?_ ?_ ?_, flagField_isShownBy ?_ ?_ ?_, flagField_isShownBy ?_ ?_ ?_⟩
    all_goals simp +contextual [showMethod]
  ext := by
    intro first second same
    cases first
    cases second
    simpa [methodSchema, showMethod] using same

/-! ## Reading members -/

section Members

variable {members : List (String × Value)}

theorem requireSchema_fits_iff {name : String} :
    requireSchema.Fits showRequire members name ↔ HasFields members (.require name) := by
  simp [Schema.Fits, requireSchema, showRequire, HasFields, HoldsText]

theorem constantSchema_fits_iff {wanted : ConstantCheck} :
    constantSchema.Fits showConstant members wanted ↔
      HasFields members (.check (.constant wanted)) := by
  simp [Schema.Fits, constantSchema, showConstant, HasFields, HoldsText]

theorem methodSchema_fits_iff {wanted : MethodCheck} :
    methodSchema.Fits showMethod members wanted ↔
      HasFields members (.check (.method wanted)) := by
  have noSingleton : (default : MethodCheck).singleton = false := rfl
  have noAllowMissing : (default : MethodCheck).allowMissing = false := rfl
  simp [Schema.Fits, methodSchema, showMethod, HasFields, HoldsText, HoldsFlag, noSingleton,
    noAllowMissing]

/-- Members of a kind are read as the assertion of that kind whose fields they hold. -/
theorem ofPayload_members_eq_ok_iff {kind : Kind} {assertion : Assertion} :
    ofPayload (.members members) kind = .ok assertion ↔
      assertion.kind = kind ∧ HasFields members assertion := by
  have passes (value : Value) : (fun _ => .ok () : Value → Except Fault Unit) value = .ok () := rfl
  cases kind with
  | require =>
      simp only [ofPayload, Payload.read, map_eq_ok_iff,
        Schema.readNamed_eq_ok_iff requireSchema_isShownBy passes, requireSchema_fits_iff]
      rcases assertion with name | wanted | wanted <;> simp [Assertion.kind]
  | constant =>
      simp only [ofPayload, Payload.read, map_eq_ok_iff,
        Schema.readNamed_eq_ok_iff constantSchema_isShownBy passes, constantSchema_fits_iff]
      rcases assertion with name | wanted | wanted <;> simp [Assertion.kind]
  | method =>
      simp only [ofPayload, Payload.read, map_eq_ok_iff,
        Schema.readNamed_eq_ok_iff methodSchema_isShownBy passes, methodSchema_fits_iff]
      rcases assertion with name | wanted | wanted <;> simp [Assertion.kind]

/-- The members of an object without its kind. -/
def untagged (members : List (String × Value)) : List (String × Value) :=
  members.filter fun member => member.1 != "kind"

theorem untagged_kind (value : Value) : untagged (("kind", value) :: members) = untagged members :=
  List.filter_cons_of_neg (by simp)

theorem untagged_field {name : String} (notKind : name ≠ "kind") (value : Value) :
    untagged ((name, value) :: members) = (name, value) :: untagged members :=
  List.filter_cons_of_pos (by simpa using notKind)

theorem valuesOf_untagged {name : String} (notKind : name ≠ "kind") :
    valuesOf name (untagged members) = valuesOf name members :=
  (Json.valuesOf_filter name (· != "kind") members).trans (if_pos (by simpa using notKind))

theorem hasFields_untagged_iff {assertion : Assertion} :
    HasFields (untagged members) assertion ↔ HasFields members assertion := by
  rcases assertion with name | wanted | wanted <;>
    simp [HasFields, HoldsText, HoldsFlag, valuesOf_untagged]

/-- The kind that is known, as the values that it was read from. -/
def tags (kind? : Option Kind) : List Value :=
  kind?.toList.map fun kind => .string kind.name

theorem tags_injective {first second : Option Kind} (same : tags first = tags second) :
    first = second := by
  cases first <;> cases second <;> simp [tags] at same ⊢
  exact Kind.name_injective same

section Tagged

variable {room : Nat} {key : Enclosed} {draft : Draft} {drafts : List (Enclosed × Draft)}
  {kind? found? : Option Kind} {values : List (String × Value)}

/-- The first kind is read at once, and no second one may follow. -/
theorem readTagged_kind (isKind : key.read = .ok "kind") :
    readTagged room ((key, draft) :: drafts) kind? = .ok (found?, values) ↔
      kind? = none ∧ ∃ kind, draft.readValue room = .ok (.string kind.name) ∧
        readTagged room drafts (some kind) = .ok (found?, values) := by
  rw [readTagged]
  simp only [isKind, bind, Except.bind, beq_self_eq_true, if_true]
  cases kind? with
  | none =>
      simp only [← Kind.reader_eq_ok_iff]
      cases Kind.reader room draft <;> simp
  | some kind =>
      constructor
      · intro isOk
        cases isOk
      · rintro ⟨impossible, _⟩
        cases impossible

theorem readTagged_field {name : String} (isName : key.read = .ok name) (notKind : name ≠ "kind") :
    readTagged room ((key, draft) :: drafts) kind? = .ok (found?, values) ↔
      ∃ value others, draft.readValue room = .ok value ∧
        readTagged room drafts kind? = .ok (found?, others) ∧ values = (name, value) :: others := by
  simp only [readTagged, isName, bind_eq_ok_iff, Except.ok.injEq, exists_eq_left',
    beq_eq_false_iff_ne.mpr notKind, Bool.false_eq_true, if_false]
  constructor
  · rintro ⟨value, isValue, ⟨found?, others⟩, areOthers, isOk⟩
    cases isOk
    exact ⟨value, others, isValue, areOthers, rfl⟩
  · rintro ⟨value, others, isValue, areOthers, rfl⟩
    exact ⟨value, isValue, (found?, others), areOthers, rfl⟩

theorem tags_append_cons
    {value : Value}
    {others : List Value}
    (same : tags kind? ++ value :: others = tags found?) :
    kind? = none ∧ ∃ kind : Kind, value = .string kind.name ∧
      tags (some kind) ++ others = tags found? := by
  cases kind? with
  | some kind => cases found? <;> simp [tags] at same
  | none =>
      cases found? with
      | none => cases same
      | some kind =>
          obtain ⟨isValue, noOthers⟩ := List.cons.inj same
          exact ⟨rfl, kind, isValue, by rw [noOthers]; rfl⟩

/-- Members are read with the kind set apart exactly if they can be read at all
and at most one of them is a kind, which is a known one. -/
theorem readTagged_eq_ok_iff :
    readTagged room drafts kind? = .ok (found?, values) ↔
      ∃ members, Draft.readMembers room drafts = .ok members ∧
        values = untagged members ∧ tags kind? ++ valuesOf "kind" members = tags found? := by
  -- By induction on the members, for every kind that may be known already.
  induction drafts generalizing kind? found? values with
  | nil =>
      rw [readTagged, Draft.readMembers]
      constructor
      · intro isOk
        cases isOk
        exact ⟨[], rfl, rfl, List.append_nil _⟩
      · rintro ⟨_, isOk, rfl, same⟩
        cases isOk
        rw [valuesOf_nil, List.append_nil] at same
        rw [tags_injective same]
        rfl
  | cons draft drafts inductionHypothesis =>
      obtain ⟨key, draft⟩ := draft
      constructor
      · intro isRead
        have isNamed := isRead
        rw [readTagged] at isNamed
        obtain ⟨name, isName, _⟩ := bind_eq_ok_iff.mp isNamed
        by_cases isKind : name = "kind"
        · subst isKind
          obtain ⟨rfl, kind, isValue, isRest⟩ := (readTagged_kind isName).mp isRead
          obtain ⟨members, areMembers, rfl, same⟩ := inductionHypothesis.mp isRest
          rw [Draft.readMembers_eq_ok_iff] at areMembers
          refine ⟨("kind", .string kind.name) :: members,
            Draft.readMembers_eq_ok_iff.mpr (.cons ⟨isName, isValue⟩ areMembers), ?_, ?_⟩
          · rw [untagged_kind]
          · rw [valuesOf_cons_self]
            exact same
        · obtain ⟨value, others, isValue, isRest, rfl⟩ := (readTagged_field isName isKind).mp isRead
          obtain ⟨members, areMembers, rfl, same⟩ := inductionHypothesis.mp isRest
          rw [Draft.readMembers_eq_ok_iff] at areMembers
          refine ⟨(name, value) :: members,
            Draft.readMembers_eq_ok_iff.mpr (.cons ⟨isName, isValue⟩ areMembers), ?_, ?_⟩
          · rw [untagged_field isKind]
          · rw [valuesOf_cons_of_ne isKind]
            exact same
      · rintro ⟨members, areMembers, rfl, same⟩
        rw [Draft.readMembers_eq_ok_iff, List.forall₂_cons_left_iff] at areMembers
        obtain ⟨⟨name, value⟩, others, ⟨isName, isValue⟩, areOthers, rfl⟩ := areMembers
        rw [← Draft.readMembers_eq_ok_iff] at areOthers
        by_cases isKind : name = "kind"
        · subst isKind
          rw [valuesOf_cons_self] at same
          obtain ⟨rfl, kind, rfl, isSame⟩ := tags_append_cons same
          rw [readTagged_kind isName, untagged_kind]
          exact ⟨rfl, kind, isValue, inductionHypothesis.mpr ⟨others, areOthers, rfl, isSame⟩⟩
        · rw [valuesOf_cons_of_ne isKind] at same
          rw [readTagged_field isName isKind, untagged_field isKind]
          exact ⟨value, _, isValue, inductionHypothesis.mpr ⟨others, areOthers, rfl, same⟩, rfl⟩

end Tagged

/-- An object is read as what its members describe. -/
theorem exists_payload_iff {assertion : Assertion} :
    (∃ kind, tags none ++ valuesOf "kind" members = tags (some kind) ∧
      ofPayload (.members (untagged members)) kind = .ok assertion) ↔
      Describes members assertion := by
  simp only [ofPayload_members_eq_ok_iff, hasFields_untagged_iff]
  constructor
  · rintro ⟨_, isKind, rfl, hasFields⟩
    exact ⟨isKind, hasFields⟩
  · rintro ⟨isKind, hasFields⟩
    exact ⟨assertion.kind, isKind, rfl, hasFields⟩

end Members

/-! ## The reader -/

section Trees

variable {room : Nat} {ending : Json.Ending} {assertion : Assertion}

theorem reader_object_eq_ok_iff {drafts : List (Enclosed × Draft)} :
    reader room (.object drafts ending) = .ok assertion ↔
      ∃ members, (Draft.object drafts ending).readValue room = .ok (.object members) ∧
        Describes members assertion := by
  simp only [reader, bind_eq_ok_iff, Json.Ending.checkObject_eq_ok_iff,
    Draft.readValue_object_eq_ok_iff]
  constructor
  · rintro ⟨inside, enters, ⟨kind?, values⟩, isTagged, _, isClosed, isRead⟩
    obtain ⟨members, areMembers, rfl, same⟩ := readTagged_eq_ok_iff.mp isTagged
    cases kind? with
    | none => cases isRead
    | some kind =>
        exact ⟨members, ⟨inside, members, enters, areMembers, isClosed, rfl⟩,
          exists_payload_iff.mp ⟨kind, same, isRead⟩⟩
  · rintro ⟨members, ⟨inside, _, enters, areMembers, isClosed, isSame⟩, describes⟩
    cases isSame
    obtain ⟨kind, same, isRead⟩ := exists_payload_iff.mpr describes
    exact ⟨inside, enters, (some kind, untagged members),
      readTagged_eq_ok_iff.mpr ⟨members, areMembers, rfl, same⟩, (), isClosed, isRead⟩

theorem reader_list_eq_ok_iff {drafts : List Draft} :
    reader room (.list drafts ending) = .ok assertion ↔
      ∃ (kind : Kind) (fields : List Value),
        (Draft.list drafts ending).readValue room = .ok (.list (.string kind.name :: fields)) ∧
        ofPayload (.items fields) kind = .ok assertion := by
  cases drafts with
  | nil =>
      simp only [reader, bind_eq_ok_iff, Draft.readValue_list_eq_ok_iff]
      constructor
      · rintro ⟨_, _, _, _, isOk⟩
        cases isOk
      · rintro ⟨kind, fields, ⟨inside, values, _, areItems, _, isSame⟩, _⟩
        cases isSame
        cases areItems
  | cons first rest =>
      simp only [reader, bind_eq_ok_iff, Json.Ending.checkList_eq_ok_iff,
        Draft.readValue_list_eq_ok_iff, Kind.reader_eq_ok_iff, Draft.readItems]
      constructor
      · rintro ⟨inside, enters, kind, isKind, fields, areFields, _, isClosed, positional⟩
        exact ⟨kind, fields, ⟨inside, _, enters, ⟨_, isKind, fields, areFields, rfl⟩, isClosed,
          rfl⟩, positional⟩
      · rintro ⟨kind, fields, ⟨inside, values, enters, ⟨value, isValue, others, areOthers, isOk⟩,
          isClosed, isSame⟩, positional⟩
        cases isSame
        cases isOk
        exact ⟨inside, enters, kind, isValue, fields, areOthers, (), isClosed, positional⟩

/-- An assertion is read from a tree exactly if the tree has a value, and that is
a form of the assertion. -/
theorem reader_eq_ok_iff {draft : Draft} :
    reader room draft = .ok assertion ↔
      ∃ value, draft.readValue room = .ok value ∧ IsForm value assertion := by
  constructor
  · intro isRead
    cases draft with
    | object drafts ending =>
        obtain ⟨members, isValue, describes⟩ := reader_object_eq_ok_iff.mp isRead
        exact ⟨_, isValue, .object describes⟩
    | list drafts ending =>
        obtain ⟨kind, fields, isValue, positional⟩ := reader_list_eq_ok_iff.mp isRead
        exact ⟨_, isValue, .list positional⟩
    | word | number | string | broken => cases isRead
  · rintro ⟨value, isValue, isForm⟩
    cases isForm with
    | object describes =>
        cases draft with
        | object => exact reader_object_eq_ok_iff.mpr ⟨_, isValue, describes⟩
        | word | number | string | list | broken => cases Draft.hasValue_of_readValue isValue
    | list positional =>
        cases draft with
        | list => exact reader_list_eq_ok_iff.mpr ⟨_, _, isValue, positional⟩
        | word | number | string | object | broken => cases Draft.hasValue_of_readValue isValue

end Trees

/-! ## Members that describe nothing -/

/-- What is wrong with members: their kind is missing, unknown or repeated, or a
field of their kind is missing, repeated or of another type. -/
inductive Flawed (members : List (String × Value)) : Prop where
  | noKind (absent : valuesOf "kind" members = [])
  | unknownKind {value : Value}
      (stands : value ∈ valuesOf "kind" members)
      (unknown : ∀ kind : Kind, value ≠ .string kind.name)
  | repeatedKind (repeats : 1 < (valuesOf "kind" members).length)
  | missingField {kind : Kind} {name : String}
      (isKind : .string kind.name ∈ valuesOf "kind" members)
      (isField : name ∈ kind.textFields)
      (absent : valuesOf name members = [])
  | repeatedField {kind : Kind} {name : String}
      (isKind : .string kind.name ∈ valuesOf "kind" members)
      (isField : name ∈ kind.fields)
      (repeats : 1 < (valuesOf name members).length)
  | notText {kind : Kind} {name : String} {value : Value}
      (isKind : .string kind.name ∈ valuesOf "kind" members)
      (isField : name ∈ kind.textFields)
      (stands : value ∈ valuesOf name members)
      (otherType : ∀ text, value ≠ .string text)
  | notFlag {kind : Kind} {name : String} {value : Value}
      (isKind : .string kind.name ∈ valuesOf "kind" members)
      (isField : name ∈ kind.flagFields)
      (stands : value ∈ valuesOf name members)
      (otherType : ∀ flag, value ≠ .boolean flag)

section Flaws

variable {members : List (String × Value)} {name : String}

theorem exists_eq_singleton {values : List Value} (some : values ≠ [])
    (once : ¬1 < values.length) : ∃ value, values = [value] := by
  have positive := List.length_pos_iff.mpr some
  exact List.length_eq_one_iff.mp (by omega)

theorem exists_holdsText_iff :
    (∃ text, HoldsText name text members) ↔
      valuesOf name members ≠ [] ∧ ¬1 < (valuesOf name members).length ∧
        ∀ value ∈ valuesOf name members, ∃ text, value = .string text := by
  constructor
  · rintro ⟨text, holds⟩
    rw [HoldsText] at holds
    simp [holds]
  · rintro ⟨some, once, areTexts⟩
    obtain ⟨value, isValue⟩ := exists_eq_singleton some once
    obtain ⟨text, rfl⟩ := areTexts value (isValue ▸ List.mem_singleton_self value)
    exact ⟨text, isValue⟩

theorem exists_holdsFlag_iff :
    (∃ flag, HoldsFlag name flag members) ↔
      ¬1 < (valuesOf name members).length ∧
        ∀ value ∈ valuesOf name members, ∃ flag, value = .boolean flag := by
  constructor
  · rintro ⟨flag, holds | ⟨absent, -⟩⟩
    · simp [holds]
    · simp [absent]
  · rintro ⟨once, areFlags⟩
    by_cases absent : valuesOf name members = []
    · exact ⟨false, .inr ⟨absent, rfl⟩⟩
    · obtain ⟨value, isValue⟩ := exists_eq_singleton absent once
      obtain ⟨flag, rfl⟩ := areFlags value (isValue ▸ List.mem_singleton_self value)
      exact ⟨flag, .inl isValue⟩

/-- Members hold the fields of an assertion of a kind if they hold a string or a
flag for each field of that kind. -/
theorem exists_hasFields_iff {kind : Kind} :
    (∃ assertion : Assertion, assertion.kind = kind ∧ HasFields members assertion) ↔
      (∀ name ∈ kind.textFields, ∃ text, HoldsText name text members) ∧
      (∀ name ∈ kind.flagFields, ∃ flag, HoldsFlag name flag members) := by
  constructor
  · rintro ⟨assertion, rfl, hasFields⟩
    rcases assertion with name | wanted | wanted
    all_goals simp only [Assertion.kind, Kind.textFields, Kind.flagFields, List.forall_mem_cons,
      List.not_mem_nil, false_implies, implies_true, and_true]
    · exact ⟨name, hasFields⟩
    · obtain ⟨holdsName, holdsLocation⟩ := hasFields
      exact ⟨⟨_, holdsName⟩, _, holdsLocation⟩
    · obtain ⟨holdsReceiver, holdsMethod, holdsLocation, holdsSingleton, holdsAllowMissing⟩ :=
        hasFields
      exact ⟨⟨⟨_, holdsReceiver⟩, ⟨_, holdsMethod⟩, _, holdsLocation⟩, ⟨_, holdsSingleton⟩, _,
        holdsAllowMissing⟩
  · rintro ⟨texts, flags⟩
    cases kind with
    | require =>
        obtain ⟨name, holds⟩ := texts "name" (by simp [Kind.textFields])
        exact ⟨.require name, rfl, holds⟩
    | constant =>
        obtain ⟨name, holdsName⟩ := texts "name" (by simp [Kind.textFields])
        obtain ⟨location, holdsLocation⟩ := texts "location" (by simp [Kind.textFields])
        exact ⟨.constant name location, rfl, holdsName, holdsLocation⟩
    | method =>
        obtain ⟨receiver, holdsReceiver⟩ := texts "receiver" (by simp [Kind.textFields])
        obtain ⟨method, holdsMethod⟩ := texts "method" (by simp [Kind.textFields])
        obtain ⟨location, holdsLocation⟩ := texts "location" (by simp [Kind.textFields])
        obtain ⟨singleton, holdsSingleton⟩ := flags "singleton" (by simp [Kind.flagFields])
        obtain ⟨allowMissing, holdsAllowMissing⟩ :=
          flags "allow_missing" (by simp [Kind.flagFields])
        exact ⟨.method { receiver, method, location, singleton, allowMissing }, rfl, holdsReceiver,
          holdsMethod, holdsLocation, holdsSingleton, holdsAllowMissing⟩

/-- Members describe an assertion exactly if nothing is wrong with them. -/
theorem exists_describes_iff :
    (∃ assertion, Describes members assertion) ↔ ¬Flawed members := by
  constructor
  · rintro ⟨assertion, isKind, hasFields⟩ flawed
    obtain ⟨texts, flags⟩ := exists_hasFields_iff.mp ⟨assertion, rfl, hasFields⟩
    rw [HoldsText] at isKind
    have known {kind : Kind} (stands : .string kind.name ∈ valuesOf "kind" members) :
        kind = assertion.kind := by
      rw [isKind, List.mem_singleton, Value.string.injEq] at stands
      exact Kind.name_injective stands
    cases flawed with
    | noKind absent => simp [isKind] at absent
    | unknownKind stands unknown =>
        rw [isKind, List.mem_singleton] at stands
        exact unknown _ stands
    | repeatedKind repeats => simp [isKind] at repeats
    | missingField stands isField absent =>
        obtain rfl := known stands
        exact (exists_holdsText_iff.mp (texts _ isField)).1 absent
    | repeatedField stands isField repeats =>
        obtain rfl := known stands
        rcases List.mem_append.mp isField with isField | isField
        · exact (exists_holdsText_iff.mp (texts _ isField)).2.1 repeats
        · exact (exists_holdsFlag_iff.mp (flags _ isField)).1 repeats
    | notText stands isField isValue otherType =>
        obtain rfl := known stands
        obtain ⟨text, isText⟩ := (exists_holdsText_iff.mp (texts _ isField)).2.2 _ isValue
        exact otherType text isText
    | notFlag stands isField isValue otherType =>
        obtain rfl := known stands
        obtain ⟨flag, isFlag⟩ := (exists_holdsFlag_iff.mp (flags _ isField)).2 _ isValue
        exact otherType flag isFlag
  · intro sound
    obtain ⟨value, isValue⟩ := exists_eq_singleton (fun absent => sound (.noKind absent))
      fun repeats => sound (.repeatedKind repeats)
    have stands : value ∈ valuesOf "kind" members := isValue ▸ List.mem_singleton_self value
    obtain ⟨kind, rfl⟩ : ∃ kind : Kind, value = .string kind.name := by
      by_contra unknown
      exact sound (.unknownKind stands (not_exists.mp unknown))
    obtain ⟨assertion, rfl, hasFields⟩ := exists_hasFields_iff.mpr
      ⟨fun name isField => exists_holdsText_iff.mpr
        ⟨fun absent => sound (.missingField stands isField absent),
          fun repeats => sound (.repeatedField stands (List.mem_append_left _ isField) repeats),
          fun value isValue => by
            by_contra otherType
            exact sound (.notText stands isField isValue (not_exists.mp otherType))⟩,
        fun name isField => exists_holdsFlag_iff.mpr
        ⟨fun repeats => sound (.repeatedField stands (List.mem_append_right _ isField) repeats),
          fun value isValue => by
            by_contra otherType
            exact sound (.notFlag stands isField isValue (not_exists.mp otherType))⟩⟩
    exact ⟨assertion, isValue, hasFields⟩

end Flaws

end InterfaceAudit.Assertion
