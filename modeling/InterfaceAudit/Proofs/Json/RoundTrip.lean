import InterfaceAudit.Diagnostic.Json
import InterfaceAudit.Gemfile
import InterfaceAudit.Manifest
import InterfaceAudit.Proofs.Assertion.Form
import InterfaceAudit.Proofs.Json.Records
import InterfaceAudit.Proofs.Text.Utf8
import InterfaceAudit.Settings

/-!
Contract: everything that is written as JSON is read back.

Owns: for each type with a JSON form, that its values can be written and that
the reader reads them; and with these, that the text of a value gives it back.

Does not own: texts that were written by somebody else.
-/

namespace InterfaceAudit

open InterfaceAudit.Json (Value Reader Reads Writable Slot Field)

/-! ## Slots of records -/

theorem Path.reads_toJson {path : Path} (isUtf8 : path.IsUtf8) :
    Reads Path.reader path.toJson path := by
  intro room draft isValue
  rw [Path.reader, Reader.text_eq_ok_iff.mpr isValue, Except.map, Path.ofString_shown isUtf8]

theorem Severity.reads_toJson (severity : Severity) :
    Reads Severity.reader severity.toJson severity := by
  intro room draft isValue
  cases Json.Draft.hasValue_of_readValue isValue with
  | string isText =>
      simp only [Severity.reader, isText, bind, Except.bind]
      cases severity <;> rfl

/-- A list of strings is read. -/
theorem reads_strings (texts : List String) :
    Reads (Reader.list Reader.string) (.strings texts) texts :=
  Reads.list (List.forall₂_map_left_iff.mpr (List.forall₂_same.mpr fun text _ => Reads.string text))

/-- A value that may be missing is read, if it is not null when it is there. -/
theorem reads_option
    {α : Type}
    {reader : Reader α}
    {toJson : α → Value}
    {x? : Option α}
    (notNull : ∀ x, toJson x ≠ .null)
    (reads : ∀ x ∈ x?, Reads reader (toJson x) x) :
    Reads (Reader.optional reader) ((x?.map toJson).getD .null) x? := by
  cases x? with
  | none => exact Reads.absent reader
  | some x => exact Reads.present (reads x rfl) (notNull x)

theorem writable_strings {depth : Nat} (texts : List String) :
    Writable (depth + 1) (.strings texts) := by
  refine .list fun item member => ?_
  obtain ⟨text, _, rfl⟩ := List.mem_map.mp member
  exact .string text

theorem writable_option
    {α : Type}
    {toJson : α → Value}
    {depth : Nat}
    (writable : ∀ x, Writable depth (toJson x))
    (x? : Option α) :
    Writable depth ((x?.map toJson).getD .null) := by
  cases x? with
  | none => exact .null
  | some x => exact writable x

theorem Path.reads_option {path? : Option Path} (isUtf8 : ∀ path ∈ path?, path.IsUtf8) :
    Reads (Reader.optional Path.reader) ((path?.map Path.toJson).getD .null) path? :=
  InterfaceAudit.reads_option (by simp [Path.toJson]) fun path member =>
    Path.reads_toJson (isUtf8 path member)

theorem Path.writable_toJson {depth : Nat} (path : Path) : Writable depth path.toJson :=
  .string path.shown

/-- A record can be written if its slots can. -/
theorem writable_slots
    {record : Type}
    {depth : Nat}
    (slots : List (Slot record))
    (each : ∀ slot ∈ slots, Writable depth slot.value) :
    Writable (depth + 1) (.object (slots.map Slot.member)) := by
  refine .object fun member isMember => ?_
  obtain ⟨slot, isSlot, rfl⟩ := List.mem_map.mp isMember
  exact each slot isSlot

/-! ## Assertions -/

namespace Assertion

theorem isForm_toJson (assertion : Assertion) : IsForm assertion.toJson assertion := by
  rcases assertion with name | wanted | wanted
  all_goals
    refine .object ⟨rfl, ?_⟩
    simp [HasFields, HoldsText, HoldsFlag, Json.valuesOf]

theorem reads_toJson (assertion : Assertion) : Reads reader assertion.toJson assertion :=
  fun _ _ isValue => reader_eq_ok_iff.mpr ⟨_, isValue, assertion.isForm_toJson⟩

theorem writable_toJson (depth : Nat) (assertion : Assertion) :
    Writable (depth + 1) assertion.toJson := by
  rcases assertion with name | wanted | wanted
  all_goals
    refine .object ?_
    simp [Writable.string, Writable.boolean]

theorem reads_listToJson (assertions : List Assertion) :
    Reads (Reader.list reader) (listToJson assertions) assertions :=
  Reads.list (List.forall₂_map_left_iff.mpr
    (List.forall₂_same.mpr fun assertion _ => assertion.reads_toJson))

theorem writable_listToJson (depth : Nat) (assertions : List Assertion) :
    Writable (depth + 2) (listToJson assertions) := by
  refine .list fun item member => ?_
  obtain ⟨assertion, _, rfl⟩ := List.mem_map.mp member
  exact assertion.writable_toJson depth

end Assertion

/-! ## Records -/

namespace Manifest

def slots (manifest : Manifest) : List (Slot Manifest) := [
  ⟨"subject", .string manifest.subject, fun target => { target with subject := manifest.subject }⟩,
  ⟨"directives", Assertion.listToJson manifest.assertions,
    fun target => { target with assertions := manifest.assertions }⟩]

theorem slots_areOf (manifest : Manifest) : Slot.AreOf manifest.slots schema := fun room =>
  .cons ⟨rfl, Field.sets_reading (Reads.string _) _ _ room _⟩
    (.cons ⟨rfl, Field.sets_reading (Assertion.reads_listToJson _) _ _ room _⟩ .nil)

theorem reads_toJson (manifest : Manifest) : Reads reader manifest.toJson manifest :=
  Reads.record manifest.slots_areOf (by simp [slots]) fun _ => rfl

theorem writable_toJson (manifest : Manifest) : Writable 3 manifest.toJson := by
  refine writable_slots manifest.slots ?_
  simp [slots, Writable.string, Assertion.writable_listToJson]

end Manifest

namespace Diagnostic

def slots (diagnostic : Diagnostic) : List (Slot Diagnostic) := [
  ⟨"severity", diagnostic.severity.toJson,
    fun target => { target with severity := diagnostic.severity }⟩,
  ⟨"text", .string diagnostic.text, fun target => { target with text := diagnostic.text }⟩]

theorem slots_areOf (diagnostic : Diagnostic) : Slot.AreOf diagnostic.slots schema := fun room =>
  .cons ⟨rfl, Field.sets_reading (Severity.reads_toJson _) _ _ room _⟩
    (.cons ⟨rfl, Field.sets_reading (Reads.string _) _ _ room _⟩ .nil)

theorem reads_toJson (diagnostic : Diagnostic) : Reads reader diagnostic.toJson diagnostic :=
  Reads.record diagnostic.slots_areOf (by simp [slots]) fun _ => rfl

theorem writable_toJson (diagnostic : Diagnostic) : Writable 1 diagnostic.toJson := by
  refine writable_slots diagnostic.slots ?_
  simp [slots, Writable.string, Severity.toJson]

end Diagnostic

namespace Gem

def slots (gem : Gem) : List (Slot Gem) := [
  ⟨"name", .string gem.name, fun target => { target with name := gem.name }⟩,
  ⟨"version", (gem.version.map Value.string).getD .null,
    fun target => { target with version := gem.version }⟩,
  ⟨"path", (gem.path.map Path.toJson).getD .null, fun target => { target with path := gem.path }⟩]

theorem toJson_eq (gem : Gem) : gem.toJson = .object (gem.slots.map Slot.member) := by
  obtain ⟨name, version, path⟩ := gem
  cases version <;> rfl

theorem slots_areOf (gem : Gem) (isUtf8 : ∀ path ∈ gem.path, path.IsUtf8) :
    Slot.AreOf gem.slots schema := by
  intro room
  have readsVersion : Reads (Reader.optional Reader.string)
      ((gem.version.map Value.string).getD .null) gem.version :=
    reads_option (by simp) fun version _ => Reads.string version
  exact .cons ⟨rfl, Field.sets_reading (Reads.string _) _ _ room _⟩
    (.cons ⟨rfl, Field.sets_reading readsVersion _ _ room _⟩
      (.cons ⟨rfl, Field.sets_reading (Path.reads_option isUtf8) _ _ room _⟩ .nil))

theorem reads_toJson (gem : Gem) (isUtf8 : ∀ path ∈ gem.path, path.IsUtf8) :
    Reads reader gem.toJson gem := by
  rw [toJson_eq]
  exact Reads.record (gem.slots_areOf isUtf8) (by simp [slots]) fun _ => rfl

theorem writable_toJson (gem : Gem) : Writable 1 gem.toJson := by
  rw [toJson_eq]
  refine writable_slots gem.slots ?_
  simp [slots, Writable.string, writable_option, Path.writable_toJson]

end Gem

namespace Settings

def slots (settings : Settings) : List (Slot Settings) := [
  ⟨"entry_command", .strings settings.entryCommand,
    fun target => { target with entryCommand := settings.entryCommand }⟩,
  ⟨"install_command", .strings settings.installCommand,
    fun target => { target with installCommand := settings.installCommand }⟩,
  ⟨"timeout_secs", .integer settings.timeoutSecs.toNat,
    fun target => { target with timeoutSecs := settings.timeoutSecs }⟩,
  ⟨"work_root", (settings.workRoot.map Path.toJson).getD .null,
    fun target => { target with workRoot := settings.workRoot }⟩,
  ⟨"keep_workdir", .boolean settings.keepWorkdir,
    fun target => { target with keepWorkdir := settings.keepWorkdir }⟩]

theorem slots_areOf (settings : Settings) (isUtf8 : ∀ path ∈ settings.workRoot, path.IsUtf8) :
    Slot.AreOf settings.slots schema := fun room =>
  .cons ⟨rfl, Field.sets_reading (reads_strings _) _ _ room _⟩
    (.cons ⟨rfl, Field.sets_reading (reads_strings _) _ _ room _⟩
      (.cons ⟨rfl, Field.sets_reading (Reads.count _) _ _ room _⟩
        (.cons ⟨rfl, Field.sets_reading (Path.reads_option isUtf8) _ _ room _⟩
          (.cons ⟨rfl, Field.sets_reading (Reads.flag _) _ _ room _⟩ .nil))))

theorem names_nodup (settings : Settings) : (settings.slots.map Slot.name).Nodup := by
  simp [slots]

theorem reads_toJson (settings : Settings) (isUtf8 : ∀ path ∈ settings.workRoot, path.IsUtf8) :
    Reads reader settings.toJson settings :=
  Reads.record (settings.slots_areOf isUtf8) settings.names_nodup fun _ => rfl

theorem writable_toJson (settings : Settings) : Writable 2 settings.toJson := by
  have fits : settings.timeoutSecs.toNat ≤ Json.Numeral.maxWord :=
    Nat.le_of_lt_succ settings.timeoutSecs.toNat_lt
  refine writable_slots settings.slots ?_
  simp [slots, writable_strings, Writable.count fits, writable_option, Path.writable_toJson,
    Writable.boolean]

end Settings

/-! ## Texts -/

/-- The text of every manifest, assertion, list of assertions and diagnostic is
read as what it was written for, and so is that of settings and of a gem whose
path is text. -/
theorem document_toJson_text :
    (∀ manifest : Manifest, Manifest.ofText manifest.toJson.text = .ok manifest) ∧
    (∀ assertion : Assertion,
      Assertion.reader.document assertion.toJson.text = .ok assertion) ∧
    (∀ assertions : List Assertion,
      (Reader.list Assertion.reader).document (Assertion.listToJson assertions).text =
        .ok assertions) ∧
    (∀ settings : Settings, (∀ path ∈ settings.workRoot, path.IsUtf8) →
      Settings.reader.document settings.toJson.text = .ok settings) ∧
    (∀ gem : Gem, (∀ path ∈ gem.path, path.IsUtf8) →
      Gem.reader.document gem.toJson.text = .ok gem) ∧
    (∀ diagnostic : Diagnostic,
      Diagnostic.reader.document diagnostic.toJson.text = .ok diagnostic) := by
  refine ⟨fun manifest => ?_, fun assertion => ?_, fun assertions => ?_, fun settings isUtf8 => ?_,
    fun gem isUtf8 => ?_, fun diagnostic => ?_⟩
  · exact manifest.reads_toJson.document manifest.writable_toJson (by decide)
  · exact assertion.reads_toJson.document (assertion.writable_toJson 0) (by decide)
  · exact (Assertion.reads_listToJson assertions).document
      (Assertion.writable_listToJson 0 assertions) (by decide)
  · exact (settings.reads_toJson isUtf8).document settings.writable_toJson (by decide)
  · exact (gem.reads_toJson isUtf8).document gem.writable_toJson (by decide)
  · exact diagnostic.reads_toJson.document diagnostic.writable_toJson (by decide)

/-- A gem from a local checkout whose name and path need care. -/
def localGem : Gem where
  name := "a\"\\\n"
  path := some (Path.ofString "../é")

/-- Settings for a session without a time limit, below a given directory. -/
def rootedSettings : Settings where
  timeoutSecs := 0
  workRoot := some (Path.ofString "/tmp/é")

theorem document_toJson_text_of_local_gem :
    localGem.toJson.text =
      "\x7b\"name\":\"a\\\"\\\\\\n\",\"version\":null,\"path\":\"../é\"\x7d" ∧
    Gem.reader.document localGem.toJson.text = .ok localGem ∧
    Settings.reader.document rootedSettings.toJson.text = .ok rootedSettings := by
  have isUtf8 (text : String) : ∀ path ∈ some (Path.ofString text), path.IsUtf8 := by
    rintro _ ⟨⟩
    exact Path.isUtf8_ofString text
  obtain ⟨_, _, _, readsSettings, readsGem, _⟩ := document_toJson_text
  exact ⟨by decide, readsGem localGem (isUtf8 _), readsSettings rootedSettings (isUtf8 _)⟩

end InterfaceAudit
