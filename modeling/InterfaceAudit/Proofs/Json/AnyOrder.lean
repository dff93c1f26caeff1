import InterfaceAudit.Proofs.Json.RoundTrip

/-!
Contract: objects whose members stand in any order.

Owns:
- the members of an object, some of them left out, mingled with others of
  foreign names;
- the law that settings are read from any of their members, and that what is
  left out keeps its default;
- the law that an assertion is read from its members, of which flags that are
  not set may be left out.

Does not own: lists in the place of objects, or members that repeat a name.
-/

namespace InterfaceAudit

open InterfaceAudit.Json (Value Reads Slot Denotes IsSpaced valuesOf)

namespace Json

def Value.members : Value → List (String × Value)
  | .object members => members
  | _ => []

/-- Members are those of an object that are kept, in any order, and others among
them whose names are none of the object's. -/
def Mingles (isKept : String → Bool) (own members : List (String × Value)) : Prop :=
  ∃ foreign : List (String × Value),
    (∀ member ∈ foreign, member.1 ∉ own.map Prod.fst) ∧
      members.Perm ((own.filter fun member => isKept member.1) ++ foreign)

section Mingling

variable {isKept : String → Bool} {own members : List (String × Value)} {name : String}

/-- A name of the object has the values that it has there, if it is kept. -/
theorem Mingles.valuesOf_perm
    (mingles : Mingles isKept own members)
    (isOwn : name ∈ own.map Prod.fst) :
    (valuesOf name members).Perm (if isKept name then valuesOf name own else []) := by
  obtain ⟨foreign, isForeign, perm⟩ := mingles
  have none : valuesOf name foreign = [] :=
    valuesOf_eq_nil fun member isMember isName => isForeign member isMember (isName ▸ isOwn)
  have all : (valuesOf name members).Perm (valuesOf name (_ ++ foreign)) :=
    Json.valuesOf_perm perm name
  rwa [valuesOf_append, none, List.append_nil, valuesOf_filter] at all

theorem Mingles.valuesOf_of_kept
    (mingles : Mingles isKept own members)
    {value : Value}
    (once : valuesOf name own = [value])
    (keeps : isKept name = true) :
    valuesOf name members = [value] := by
  have perm := mingles.valuesOf_perm (List.mem_map_of_mem (f := Prod.fst) (mem_of_valuesOf once))
  rw [if_pos keeps, once] at perm
  exact List.perm_singleton.mp perm

theorem Mingles.valuesOf_of_dropped
    (mingles : Mingles isKept own members)
    (isOwn : name ∈ own.map Prod.fst)
    (drops : isKept name = false) :
    valuesOf name members = [] := by
  have perm := mingles.valuesOf_perm isOwn
  rw [if_neg (by simp [drops])] at perm
  exact perm.eq_nil

end Mingling

end Json

/-! ## Settings -/

namespace Settings

/-- The defaults, with the parts of the kept names as in other settings. -/
def overlaid (settings : Settings) (isKept : String → Bool) : Settings :=
  let defaults : Settings := {}
  { entryCommand :=
      if isKept "entry_command" then settings.entryCommand else defaults.entryCommand
    installCommand :=
      if isKept "install_command" then settings.installCommand else defaults.installCommand
    timeoutSecs := if isKept "timeout_secs" then settings.timeoutSecs else defaults.timeoutSecs
    workRoot := if isKept "work_root" then settings.workRoot else defaults.workRoot
    keepWorkdir := if isKept "keep_workdir" then settings.keepWorkdir else defaults.keepWorkdir }

theorem assemble_kept_slots (settings : Settings) (isKept : String → Bool) :
    Slot.assemble (settings.slots.filter fun slot => isKept slot.name) {} =
      settings.overlaid isKept := by
  rw [Slot.assemble, List.foldl_filter]
  simp only [slots, List.foldl_cons, List.foldl_nil, overlaid]
  cases isKept "entry_command" <;> cases isKept "install_command" <;>
    cases isKept "timeout_secs" <;> cases isKept "work_root" <;> cases isKept "keep_workdir" <;> rfl

theorem slots_commute (settings : Settings) :
    ∀ first ∈ settings.slots, ∀ second ∈ settings.slots, ∀ target,
      second.step (first.step target) = first.step (second.step target) := by
  simp [slots]

variable {isKept : String → Bool} {members : List (String × Value)}

theorem reads_overlaid_of_isUtf8
    {settings : Settings}
    (isUtf8 : ∀ path ∈ settings.workRoot, path.IsUtf8)
    (mingles : Json.Mingles isKept settings.toJson.members members) :
    Reads reader (.object members) (settings.overlaid isKept) := by
  obtain ⟨foreign, isForeign, perm⟩ := mingles
  have own : settings.toJson.members = settings.slots.map Slot.member := rfl
  rw [own, List.map_map] at isForeign
  rw [own, List.filter_map] at perm
  have required (room : Nat) : ∀ field ∈ (schema room).fields,
      field.required = true → isKept field.name = true := by
    simp [schema, Json.Field.reading]
  exact Reads.overlay (settings.slots_areOf isUtf8) settings.names_nodup settings.slots_commute
    required isForeign perm fun _ => settings.assemble_kept_slots isKept

/-- Settings are read from those of their members that are kept. A directory that
is left out need not be text. -/
theorem reads_overlaid
    {settings : Settings}
    (isUtf8 : isKept "work_root" = true → ∀ path ∈ settings.workRoot, path.IsUtf8)
    (mingles : Json.Mingles isKept settings.toJson.members members) :
    Reads reader (.object members) (settings.overlaid isKept) := by
  cases keeps : isKept "work_root" with
  | true => exact reads_overlaid_of_isUtf8 (isUtf8 keeps) mingles
  | false =>
      let rootless : Settings := { settings with workRoot := none }
      have same : rootless.overlaid isKept = settings.overlaid isKept := by
        simp [overlaid, rootless, keeps]
      obtain ⟨foreign, isForeign, perm⟩ := mingles
      have own : (rootless.toJson.members.filter fun member => isKept member.1) =
          settings.toJson.members.filter fun member => isKept member.1 := by
        simp [toJson, Value.members, List.filter_cons, keeps, rootless]
      rw [← same]
      exact reads_overlaid_of_isUtf8 (by simp [rootless]) ⟨foreign, isForeign, own ▸ perm⟩

end Settings

/-! ## Assertions -/

namespace Assertion

variable {isKept : String → Bool} {own members : List (String × Value)} {name : String}

/-- Only flags that are not set are left out. -/
def OmitsFlags (isKept : String → Bool) (own : List (String × Value)) : Prop :=
  ∀ member ∈ own, isKept member.1 = false → member.2 = .boolean false

theorem holdsText_of_mingles
    (mingles : Json.Mingles isKept own members)
    (omits : OmitsFlags isKept own)
    {text : String}
    (holds : HoldsText name text own) :
    HoldsText name text members := by
  refine mingles.valuesOf_of_kept holds ?_
  by_contra drops
  cases omits _ (Json.mem_of_valuesOf holds) (Bool.not_eq_true _ ▸ drops)

theorem holdsFlag_of_mingles
    (mingles : Json.Mingles isKept own members)
    (omits : OmitsFlags isKept own)
    {flag : Bool}
    (once : valuesOf name own = [.boolean flag]) :
    HoldsFlag name flag members := by
  cases keeps : isKept name with
  | true => exact .inl (mingles.valuesOf_of_kept once keeps)
  | false =>
      have member := Json.mem_of_valuesOf once
      cases omits _ member keeps
      exact .inr ⟨mingles.valuesOf_of_dropped (List.mem_map_of_mem member) keeps, rfl⟩

theorem describes_of_mingles
    {assertion : Assertion}
    (mingles : Json.Mingles isKept assertion.toJson.members members)
    (omits : OmitsFlags isKept assertion.toJson.members) :
    Describes members assertion := by
  have text {name text : String} : HoldsText name text _ → HoldsText name text members :=
    holdsText_of_mingles mingles omits
  have flag {name : String} {flag : Bool} : _ → HoldsFlag name flag members :=
    holdsFlag_of_mingles mingles omits
  rcases assertion with name | wanted | wanted
  · exact ⟨text rfl, text rfl⟩
  · exact ⟨text rfl, text rfl, text rfl⟩
  · exact ⟨text rfl, text rfl, text rfl, text rfl, flag rfl, flag rfl⟩

end Assertion

/-! ## Texts -/

/-- Members are read in any order, with blanks and members of foreign names
anywhere. Settings are the defaults with the members that are there in their
place, if a directory among them is text. An assertion is what its members say,
and a flag that is not set may be left out. -/
theorem document_of_mingled_members
    {isKept : String → Bool}
    {members : List (String × Value)}
    {text before behind : List Char}
    (denotes : Denotes text (.object members))
    (spacedBefore : IsSpaced before)
    (spacedBehind : IsSpaced behind) :
    (∀ settings : Settings,
      (isKept "work_root" = true → ∀ path ∈ settings.workRoot, path.IsUtf8) →
      Json.Mingles isKept settings.toJson.members members →
      Settings.reader.document (String.ofList (before ++ (text ++ behind))) =
        .ok (settings.overlaid isKept)) ∧
    (∀ assertion : Assertion,
      Assertion.OmitsFlags isKept assertion.toJson.members →
      Json.Mingles isKept assertion.toJson.members members →
      Assertion.reader.document (String.ofList (before ++ (text ++ behind))) = .ok assertion) := by
  obtain ⟨draft, isValue, isDocument⟩ := denotes.spacedDocument spacedBefore spacedBehind
  refine ⟨fun settings isUtf8 mingles => ?_, fun assertion omits mingles => ?_⟩
  · rw [isDocument]
    exact Settings.reads_overlaid isUtf8 mingles _ _ isValue
  · rw [isDocument]
    exact Assertion.reader_eq_ok_iff.mpr
      ⟨_, isValue, .object (Assertion.describes_of_mingles mingles omits)⟩

def shortSettings : List (String × Value) := [
  ("kind", .null),
  ("timeout_secs", .integer 5)]

/-- An assertion whose kind comes last and whose flags are left out. -/
def tailedAssertion : List (String × Value) := [
  ("weight", .integer 7),
  ("location", .string "a.rbi:1"),
  ("method", .string "b"),
  ("receiver", .string "A"),
  ("kind", .string "method")]

theorem document_of_tailed_assertion :
    (Value.object shortSettings).text = "\x7b\"kind\":null,\"timeout_secs\":5\x7d" ∧
    Settings.reader.document (Value.object shortSettings).text = .ok { timeoutSecs := 5 } ∧
    (Value.object tailedAssertion).text =
      "\x7b\"weight\":7,\"location\":\"a.rbi:1\",\"method\":\"b\"," ++
        "\"receiver\":\"A\",\"kind\":\"method\"\x7d" ∧
    Assertion.reader.document (Value.object tailedAssertion).text =
      .ok (.method { receiver := "A", method := "b", location := "a.rbi:1" }) := by
  have writesFive : Json.Writable 0 (.integer 5) := .count (n := 5) (by decide)
  have writesSeven : Json.Writable 0 (.integer 7) := .count (n := 7) (by decide)
  have writesShort : Json.Writable 1 (.object shortSettings) := by
    refine .object ?_
    simp [shortSettings, Json.Writable.null, writesFive]
  have writesTailed : Json.Writable 1 (.object tailedAssertion) := by
    refine .object ?_
    simp [tailedAssertion, Json.Writable.string, writesSeven]
  let settings : Settings := { timeoutSecs := 5 }
  let check : MethodCheck := { receiver := "A", method := "b", location := "a.rbi:1" }
  have minglesShort : Json.Mingles (· == "timeout_secs") settings.toJson.members shortSettings :=
    ⟨[("kind", .null)], by simp [settings, Settings.toJson, Value.members], .swap _ _ _⟩
  have minglesTailed : Json.Mingles (fun name => name != "singleton" && name != "allow_missing")
      (Assertion.method check).toJson.members tailedAssertion := by
    refine ⟨[("weight", .integer 7)], by simp [Assertion.toJson, Value.members], ?_⟩
    exact tailedAssertion.reverse_perm.symm
  have readsSettings := (document_of_mingled_members (writesShort.denotes (by decide))
    Json.isSpaced_nil Json.isSpaced_nil).1 settings (by simp [settings]) minglesShort
  have readsAssertion := (document_of_mingled_members (writesTailed.denotes (by decide))
    Json.isSpaced_nil Json.isSpaced_nil).2 (.method check)
    (by simp [Assertion.OmitsFlags, Assertion.toJson, Value.members, check]) minglesTailed
  rw [List.append_nil, List.nil_append] at readsSettings readsAssertion
  exact ⟨by decide, readsSettings, by decide, readsAssertion⟩

end InterfaceAudit
