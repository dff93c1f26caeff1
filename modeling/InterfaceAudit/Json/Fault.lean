import InterfaceAudit.Json.Binary64
import InterfaceAudit.Text.Quoted

/-!
Contract: why a JSON text cannot be read as a value of some type.

Owns:
- the causes, each a constructor with the data that its message shows;
- the three categories of causes;
- the message of every cause.

Does not own: positions in the text, or the reading itself.
-/

namespace InterfaceAudit.Json

/-- What stood where something else was expected. -/
inductive Found where
  | null
  | boolean (value : Bool)
  | integer (value : Int)
  | real (value : Binary64)
  | string (text : String)
  | sequence
  | map
deriving DecidableEq, Repr

/-- A value as messages name it. -/
def Found.describe : Found → String
  | .null => "null"
  | .boolean true => "boolean `true`"
  | .boolean false => "boolean `false`"
  | .integer value => "integer `" ++ toString value ++ "`"
  | .real value => "floating point `" ++ value.text ++ "`"
  | .string text => "string " ++ Text.quoted text
  | .sequence => "sequence"
  | .map => "map"

/-- Why reading failed. -/
inductive Fault where
  /-- The text ends where a value must come. -/
  | cutValue
  /-- The text ends inside an object. -/
  | cutObject
  /-- The text ends inside a list. -/
  | cutList
  /-- The text ends inside a string. -/
  | cutString
  | expectedValue
  | expectedColon
  | expectedCommaOrBrace
  | expectedCommaOrBracket
  | expectedWord
  | keyNotString
  | trailingComma
  | trailingCharacters
  | invalidNumber
  | numberOutOfRange
  | invalidEscape
  | controlCharacter
  | loneSurrogate
  | unfinishedSurrogate
  | nestedTooDeep
  | missingField (name : String)
  | duplicateField (name : String)
  | unknownVariant (name : String) (known : List String)
  | wrongType (found : Found) (expected : String)
  | wrongValue (found : Found) (expected : String)
  | wrongLength (count : Nat) (expected : String)
deriving DecidableEq, Repr

/-- The kind of a fault: the text is no JSON, the JSON does not fit the type,
or the text ends too early. -/
inductive Category where
  | grammar
  | data
  | ending
deriving DecidableEq, Repr

namespace Fault

def category : Fault → Category
  | .cutValue | .cutObject | .cutList | .cutString => .ending
  | .missingField _ | .duplicateField _ | .unknownVariant .. | .wrongType ..
  | .wrongValue .. | .wrongLength .. => .data
  | _ => .grammar

/-- The names that a variant may have, as a message lists them. -/
def listKnown (known : List String) : String :=
  match known.map (fun name => "`" ++ name ++ "`") with
  | [first, second] => first ++ " or " ++ second
  | [only] => only
  | names => "one of " ++ Text.joinWith ", " names

/-- The message of a fault, without a position. -/
def message : Fault → String
  | .cutValue => "EOF while parsing a value"
  | .cutObject => "EOF while parsing an object"
  | .cutList => "EOF while parsing a list"
  | .cutString => "EOF while parsing a string"
  | .expectedValue => "expected value"
  | .expectedColon => "expected `:`"
  | .expectedCommaOrBrace => "expected `,` or `\x7d`"
  | .expectedCommaOrBracket => "expected `,` or `]`"
  | .expectedWord => "expected ident"
  | .keyNotString => "key must be a string"
  | .trailingComma => "trailing comma"
  | .trailingCharacters => "trailing characters"
  | .invalidNumber => "invalid number"
  | .numberOutOfRange => "number out of range"
  | .invalidEscape => "invalid escape"
  | .controlCharacter =>
      "control character (\\u0000-\\u001F) found while parsing a string"
  | .loneSurrogate => "lone leading surrogate in hex escape"
  | .unfinishedSurrogate => "unexpected end of hex escape"
  | .nestedTooDeep => "recursion limit exceeded"
  | .missingField name => "missing field `" ++ name ++ "`"
  | .duplicateField name => "duplicate field `" ++ name ++ "`"
  | .unknownVariant name known =>
      "unknown variant `" ++ name ++ "`, expected " ++ listKnown known
  | .wrongType found expected =>
      "invalid type: " ++ found.describe ++ ", expected " ++ expected
  | .wrongValue found expected =>
      "invalid value: " ++ found.describe ++ ", expected " ++ expected
  | .wrongLength count expected =>
      "invalid length " ++ toString count ++ ", expected " ++ expected

end Fault

end InterfaceAudit.Json
