import InterfaceAudit.Assertion
import InterfaceAudit.Json.Reader

/-!
Contract: assertions as JSON.

Owns:
- the written form: an object whose first member names the kind;
- reading: the kind may stand anywhere among the members and is read at once,
  while the fields are looked at only when the whole object has been read;
- the list form, whose first item is the kind.

Does not own: manifests, which hold lists of assertions.
-/

namespace InterfaceAudit.Assertion

open InterfaceAudit.Json (Value Draft Fault Found Enclosed Ending Field Schema Reader)

inductive Kind where
  | require
  | constant
  | method
deriving DecidableEq, Repr

namespace Kind

def name : Kind → String
  | .require => "require"
  | .constant => "constant"
  | .method => "method"

/-- All kinds, in the order in which faults list them. -/
def all : List Kind := [.require, .constant, .method]

def ofName (name : String) : Except Fault Kind :=
  match all.find? (fun kind => kind.name == name) with
  | some kind => .ok kind
  | none => .error (.unknownVariant name (all.map Kind.name))

def reader : Reader Kind := fun room draft => do
  ofName (← Reader.text "variant identifier" room draft)

end Kind

/-! ## Writing -/

/-- The JSON value of an assertion, with all its fields. -/
def toJson : Assertion → Value
  | .require name => .object [("kind", .string "require"), ("name", .string name)]
  | .check (.constant wanted) =>
      .object [
        ("kind", .string "constant"),
        ("name", .string wanted.name),
        ("location", .string wanted.location)]
  | .check (.method wanted) =>
      .object [
        ("kind", .string "method"),
        ("receiver", .string wanted.receiver),
        ("method", .string wanted.method),
        ("location", .string wanted.location),
        ("singleton", .boolean wanted.singleton),
        ("allow_missing", .boolean wanted.allowMissing)]

def listToJson (assertions : List Assertion) : Value :=
  .list (assertions.map toJson)

/-! ## Reading -/

def stringField
    {record : Type}
    (name : String)
    (update : String → record → record) :
    Field Value record where
  name := name
  required := true
  set value target :=
    match value with
    | .string text => .ok (update text target)
    | value => .error (.wrongType value.found "a string")

/-- A field that holds a flag and may be left out. -/
def flagField
    {record : Type}
    (name : String)
    (update : Bool → record → record) :
    Field Value record where
  name := name
  required := false
  set value target :=
    match value with
    | .boolean flag => .ok (update flag target)
    | value => .error (.wrongType value.found "a boolean")

def requireSchema : Schema Value String where
  title := "struct variant Directive::Require"
  fields := [stringField "name" (fun name _ => name)]
  blank := ""

def constantSchema : Schema Value ConstantCheck where
  title := "struct variant Directive::Constant"
  fields := [
    stringField "name" (fun name check => { check with name }),
    stringField "location" (fun location check => { check with location })]
  blank := default

def methodSchema : Schema Value MethodCheck where
  title := "struct variant Directive::Method"
  fields := [
    stringField "receiver" (fun receiver check => { check with receiver }),
    stringField "method" (fun method check => { check with method }),
    stringField "location" (fun location check => { check with location }),
    flagField "singleton" (fun singleton check => { check with singleton }),
    flagField "allow_missing" (fun allowMissing check => { check with allowMissing })]
  blank := default

/-- How a fault tells the number of items that were expected. -/
def itemCount (count : Nat) : String :=
  toString count ++ (if count == 1 then " element in sequence" else " elements in sequence")

def readPositional
    {record : Type}
    (schema : Schema Value record) :
    List (Field Value record) → List Value → Nat → record → Except Fault record
  | [], [], _, target => .ok target
  | [], values, count, _ =>
      .error (.wrongLength (count + values.length) (itemCount count))
  | field :: fields, [], count, target =>
      if field.required then .error (.wrongLength count schema.lengthText)
      else readPositional schema fields [] count target
  | field :: fields, value :: values, count, target => do
      let target ← field.set value target
      readPositional schema fields values (count + 1) target

/-- What is left of an assertion once its kind is known. -/
inductive Payload where
  | members (members : List (String × Value))
  | items (items : List Value)

def Payload.read
    {record : Type}
    (schema : Schema Value record) :
    Payload → Except Fault record
  | .members named => schema.readNamed (fun _ => .ok ()) named
  | .items values => readPositional schema schema.fields values 0 schema.blank

/-- Reads the fields of an assertion of a known kind. -/
def ofPayload (payload : Payload) : Kind → Except Fault Assertion
  | .require => (payload.read requireSchema).map .require
  | .constant => (payload.read constantSchema).map (fun check => .check (.constant check))
  | .method => (payload.read methodSchema).map (fun check => .check (.method check))

/-- The members of an object read as values, with the kind set apart. It is
read where it stands, and a second one is refused where that stands. -/
def readTagged
    (room : Nat) :
    List (Enclosed × Draft) → Option Kind → Except Fault (Option Kind × List (String × Value))
  | [], kind => .ok (kind, [])
  | (key, draft) :: members, kind => do
      let name ← key.read
      if name == "kind" then
        if kind.isSome then throw (.duplicateField "kind")
        readTagged room members (some (← Kind.reader room draft))
      else
        let value ← draft.readValue room
        let (kind, values) ← readTagged room members kind
        return (kind, (name, value) :: values)

def reader : Reader Assertion := fun room draft =>
  match draft with
  | .object members ending => do
      let room ← Draft.enter room
      let (kind?, values) ← readTagged room members none
      ending.checkObject
      match kind? with
      | none => .error (.missingField "kind")
      | some kind => ofPayload (.members values) kind
  | .list [] ending => do
      discard (Draft.enter room)
      ending.checkList
      .error (.missingField "kind")
  | .list (first :: rest) ending => do
      let room ← Draft.enter room
      let kind ← Kind.reader room first
      let values ← Draft.readItems room rest
      ending.checkList
      ofPayload (.items values) kind
  | draft => .error (draft.mismatch "internally tagged enum Directive")

end InterfaceAudit.Assertion
