import InterfaceAudit.Json.Value

/-!
Contract: reading trees as values of a wanted type.

Owns:
- readers for strings, flags, counts, optional values and lists, each of which
  says what it expected;
- records with named fields, read from an object in any order of members or
  from a list in the order of the fields;
- reading a whole document.

Does not own: the records of this library.
-/

namespace InterfaceAudit.Json

/-- A way to read a tree with some levels of nesting left. -/
abbrev Reader (α : Type) := Nat → Draft → Except Fault α

namespace Draft

/-- What stands here, for a reader that expected something else. -/
def found : Draft → Except Fault Found
  | .word .null => .ok .null
  | .word .yes => .ok (.boolean true)
  | .word .no => .ok (.boolean false)
  | .number numeral =>
      numeral.value.map fun
        | .integer value => .integer value
        | .real value => .real value
  | .string text => text.read.map .string
  | .list _ _ => .ok .sequence
  | .object _ _ => .ok .map
  | .broken breach => .error breach.fault

def mismatch (expected : String) (draft : Draft) : Fault :=
  match draft.found with
  | .ok found => .wrongType found expected
  | .error fault => fault

end Draft

namespace Reader

/-- Reads a string, called by the given name in faults. -/
def text (expected : String) : Reader String := fun _ draft =>
  match draft with
  | .string text => text.read
  | draft => .error (draft.mismatch expected)

def string : Reader String := text "a string"

def flag : Reader Bool := fun _ draft =>
  match draft with
  | .word .yes => .ok true
  | .word .no => .ok false
  | draft => .error (draft.mismatch "a boolean")

def unit : Reader Unit := fun _ draft =>
  match draft with
  | .word .null => .ok ()
  | draft => .error (draft.mismatch "unit")

def count : Reader UInt64 := fun _ draft =>
  match draft with
  | .number numeral => do
      match ← numeral.value with
      | .integer value =>
          if value < 0 then .error (.wrongValue (.integer value) "u64")
          else .ok (UInt64.ofNat value.toNat)
      | .real value => .error (.wrongType (.real value) "u64")
  | draft => .error (draft.mismatch "u64")

/-- Reads null as nothing, and anything else with a reader. -/
def optional {α : Type} (reader : Reader α) : Reader (Option α) := fun room draft =>
  match draft with
  | .word .null => .ok none
  | draft => (reader room draft).map some

def list {α : Type} (reader : Reader α) : Reader (List α) := fun room draft =>
  match draft with
  | .list items ending => do
      let room ← Draft.enter room
      let values ← items.mapM (reader room)
      ending.checkList
      return values
  | draft => .error (draft.mismatch "a sequence")

/-- Reads a document: one value, and nothing behind it. -/
def document {α : Type} (reader : Reader α) (source : String) : Except Fault α := do
  let (draft, trailing) := Draft.ofText source.toList
  let value ← reader Draft.nestingLimit draft
  if trailing then .error .trailingCharacters else .ok value

end Reader

/-! ## Records -/

/-- A field of a record: its name, whether it may be left out, and how a
source sets it. -/
structure Field (source record : Type) where
  name : String
  required : Bool
  set : source → record → Except Fault record

/-- A record: what it is called in faults, its fields in order, and the record
whose fields all have their defaults. -/
structure Schema (source record : Type) where
  title : String
  fields : List (Field source record)
  blank : record

namespace Schema

variable {source record : Type}

/-- The number of fields, as a fault tells it. -/
def lengthText (schema : Schema source record) : String :=
  let count := schema.fields.length
  schema.title ++ " with " ++ toString count ++ (if count == 1 then " element" else " elements")

/-- A record under construction, and the names of the fields set so far. -/
structure Progress (record : Type) where
  record : record
  seen : List String

/-- Sets one field by name. A name that is no field is passed over. -/
def setMember
    (schema : Schema source record)
    (skip : source → Except Fault Unit)
    (progress : Progress record)
    (name : String)
    (value : source) :
    Except Fault (Progress record) :=
  match schema.fields.find? (fun field => field.name == name) with
  | none => do
      skip value
      return progress
  | some field => do
      if progress.seen.contains name then throw (.duplicateField name)
      let record ← field.set value progress.record
      return ⟨record, name :: progress.seen⟩

/-- The record, unless a required field was never set. -/
def complete (schema : Schema source record) (progress : Progress record) :
    Except Fault record :=
  match schema.fields.find? (fun field => field.required && !progress.seen.contains field.name) with
  | some field => .error (.missingField field.name)
  | none => .ok progress.record

/-- Reads named values in the order in which they stand. -/
def readNamed
    (schema : Schema source record)
    (skip : source → Except Fault Unit)
    (members : List (String × source)) :
    Except Fault record := do
  let progress ← members.foldlM
    (fun progress member => schema.setMember skip progress member.1 member.2)
    ⟨schema.blank, []⟩
  schema.complete progress

end Schema

def Schema.readObject
    {record : Type}
    (schema : Schema Draft record)
    (members : List (Enclosed × Draft))
    (ending : Ending) :
    Except Fault record := do
  let progress ← members.foldlM
    (fun progress member => do
      let name ← member.1.read
      schema.setMember Draft.skip progress name member.2)
    ⟨schema.blank, []⟩
  ending.checkObject
  schema.complete progress

/-- Whether a list stops properly when every field has been read from it. -/
def Schema.checkRest (items : List Draft) (ending : Ending) : Except Fault Unit :=
  match items, ending with
  | [], .closed => .ok ()
  | [], .cut => .error .cutList
  | [], .commaClosed => .error .trailingComma
  | _, _ => .error .trailingCharacters

/-- Reads fields from the items of a list, in order. A field beyond the end of
the list keeps its default, if it may. -/
def Schema.readFields
    {record : Type}
    (schema : Schema Draft record)
    (ending : Ending) :
    List (Field Draft record) → List Draft → Nat → record → Except Fault record
  | [], items, _, value => do
      Schema.checkRest items ending
      return value
  | field :: fields, [], count, value => do
      ending.checkList
      if field.required then throw (.wrongLength count schema.lengthText)
      schema.readFields ending fields [] count value
  | field :: fields, item :: items, count, value => do
      let value ← field.set item value
      schema.readFields ending fields items (count + 1) value

/-- Reads a record from an object or from a list. -/
def Reader.record
    {record : Type}
    (schema : Nat → Schema Draft record) :
    Reader record := fun room draft =>
  match draft with
  | .object members ending => do
      let room ← Draft.enter room
      (schema room).readObject members ending
  | .list items ending => do
      let room ← Draft.enter room
      (schema room).readFields ending (schema room).fields items 0 (schema room).blank
  | draft => .error (draft.mismatch (schema room).title)

def Field.reading
    {α record : Type}
    (name : String)
    (required : Bool)
    (reader : Draft → Except Fault α)
    (update : α → record → record) :
    Field Draft record where
  name := name
  required := required
  set draft value := (reader draft).map (fun part => update part value)

end InterfaceAudit.Json
