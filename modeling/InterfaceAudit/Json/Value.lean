import InterfaceAudit.Json.Draft

/-!
Contract: complete JSON values, and their text.

Owns:
- the value type, whose objects keep the order of their members;
- the compact text and the indented text of a value;
- reading a whole tree into a value, within a limit on nesting.

Does not own: conversion between values and the types of this library.
-/

namespace InterfaceAudit.Json

inductive Value where
  | null
  | boolean (value : Bool)
  | number (number : Number)
  | string (text : String)
  | list (items : List Value)
  | object (members : List (String × Value))
deriving Repr

namespace Value

def integer (value : Int) : Value := .number (.integer value)

def strings (texts : List String) : Value := .list (texts.map .string)

def optional : Option String → Value
  | none => .null
  | some text => .string text

/-! ## Text -/

/-- The escape of a control without a letter. -/
def controlEscape (c : Char) : List Char :=
  ['\\', 'u', '0', '0', Nat.digitChar (c.toNat / 16), Nat.digitChar (c.toNat % 16)]

def escape (c : Char) : List Char :=
  match c with
  | '"' => ['\\', '"']
  | '\\' => ['\\', '\\']
  | '\x08' => ['\\', 'b']
  | '\x0c' => ['\\', 'f']
  | '\n' => ['\\', 'n']
  | '\r' => ['\\', 'r']
  | '\t' => ['\\', 't']
  | c => if c.toNat < 0x20 then controlEscape c else [c]

def quoteChars (text : List Char) : List Char :=
  '"' :: (text.flatMap escape ++ ['"'])

def quote (text : String) : List Char :=
  quoteChars text.toList

def numberText : Number → List Char
  | .integer value => (toString value).toList
  | .real value => value.text.toList

mutual

/-- The text of a value without any blanks. -/
def compact : Value → List Char
  | .null => ['n', 'u', 'l', 'l']
  | .boolean true => ['t', 'r', 'u', 'e']
  | .boolean false => ['f', 'a', 'l', 's', 'e']
  | .number n => numberText n
  | .string text => quote text
  | .list items => '[' :: (compactItems items ++ [']'])
  | .object members => '{' :: (compactMembers members ++ ['}'])

def compactItems : List Value → List Char
  | [] => []
  | [item] => compact item
  | item :: items => compact item ++ ',' :: compactItems items

def compactMembers : List (String × Value) → List Char
  | [] => []
  | [(key, value)] => quote key ++ ':' :: compact value
  | (key, value) :: members =>
      quote key ++ ':' :: (compact value ++ ',' :: compactMembers members)

end

/-- The text of a value without any blanks. -/
def text (value : Value) : String :=
  String.ofList value.compact

/-- A line break and the indentation of a nesting depth. -/
def newline (depth : Nat) : List Char :=
  '\n' :: List.replicate (2 * depth) ' '

mutual

/-- The text of a value with one item or member on each line. -/
def indented (depth : Nat) : Value → List Char
  | .list [] => ['[', ']']
  | .list items =>
      '[' :: (indentedItems (depth + 1) items ++ newline depth ++ [']'])
  | .object [] => ['{', '}']
  | .object members =>
      '{' :: (indentedMembers (depth + 1) members ++ newline depth ++ ['}'])
  | .null => ['n', 'u', 'l', 'l']
  | .boolean true => ['t', 'r', 'u', 'e']
  | .boolean false => ['f', 'a', 'l', 's', 'e']
  | .number n => numberText n
  | .string text => quote text

def indentedItems (depth : Nat) : List Value → List Char
  | [] => []
  | [item] => newline depth ++ indented depth item
  | item :: items =>
      newline depth ++ indented depth item ++ ',' :: indentedItems depth items

def indentedMembers (depth : Nat) : List (String × Value) → List Char
  | [] => []
  | [(key, value)] =>
      newline depth ++ quote key ++ ':' :: ' ' :: indented depth value
  | (key, value) :: members =>
      newline depth ++ quote key ++ ':' :: ' ' :: (indented depth value ++
        ',' :: indentedMembers depth members)

end

/-- The text of a value with an indentation of two blanks. -/
def pretty (value : Value) : String :=
  String.ofList (value.indented 0)

/-- What a value is called where another type was expected. -/
def found : Value → Found
  | .null => .null
  | .boolean value => .boolean value
  | .number (.integer value) => .integer value
  | .number (.real value) => .real value
  | .string text => .string text
  | .list _ => .sequence
  | .object _ => .map

end Value

namespace Draft

/-- How many lists and objects may enclose one another, the innermost one
excluded. -/
def nestingLimit : Nat := 128

/-- Enters a list or an object with `room` levels left. -/
def enter (room : Nat) : Except Fault Nat :=
  if room ≤ 1 then .error .nestedTooDeep else .ok (room - 1)

mutual

def readValue (room : Nat) : Draft → Except Fault Value
  | .word .null => .ok .null
  | .word .yes => .ok (.boolean true)
  | .word .no => .ok (.boolean false)
  | .number numeral => numeral.value.map .number
  | .string text => text.read.map .string
  | .list items ending => do
      let values ← readItems (← enter room) items
      ending.checkList
      return .list values
  | .object members ending => do
      let values ← readMembers (← enter room) members
      ending.checkObject
      return .object values
  | .broken breach => .error breach.fault

def readItems (room : Nat) : List Draft → Except Fault (List Value)
  | [] => .ok []
  | item :: items => do
      let value ← readValue room item
      let values ← readItems room items
      return value :: values

def readMembers (room : Nat) : List (Enclosed × Draft) → Except Fault (List (String × Value))
  | [] => .ok []
  | (key, member) :: members => do
      let name ← key.read
      let value ← readValue room member
      let values ← readMembers room members
      return (name, value) :: values

end

end Draft

end InterfaceAudit.Json
