import InterfaceAudit.Json.Token

/-!
Contract: a JSON text as the tree that it is, as far as it is one.

Owns:
- the tree, which keeps the first breach of the grammar where it stands;
- the stack machine that builds it from tokens;
- passing over a tree that nobody wants to read.

Does not own: conversion of a tree to a value of some type. A reader walks the
tree in the order of the text, so whichever comes first is reported: a breach
of the grammar, or a value that does not fit.
-/

namespace InterfaceAudit.Json

/-- Why a value is missing where it should stand. -/
inductive Breach where
  /-- Something stands there that starts no value. -/
  | noValue
  /-- The text ends there. -/
  | cut
  /-- A word is misspelt, or cut short. -/
  | word (atEnd : Bool)
  /-- A numeral is malformed, or cut short. -/
  | number (atEnd : Bool)
  /-- Something other than a colon follows the key. -/
  | noColon
  /-- The text ends behind the key. -/
  | cutColon
deriving DecidableEq, Repr

/-- How a list or an object stops. -/
inductive Ending where
  | closed
  /-- The text ends before or behind an item. -/
  | cut
  /-- Neither a comma nor the closing bracket follows an item. -/
  | stray
  | commaClosed
  /-- The text ends behind a comma. -/
  | commaCut
  /-- What stands in the place of a key is no string. -/
  | badKey
deriving DecidableEq, Repr

/-- A JSON text as a tree. -/
inductive Draft where
  | word (word : Word)
  | number (numeral : Numeral)
  | string (text : Enclosed)
  | list (items : List Draft) (ending : Ending)
  | object (members : List (Enclosed × Draft)) (ending : Ending)
  | broken (breach : Breach)
deriving Repr

namespace Breach

/-- The fault of a reader that wants the missing value. -/
def fault : Breach → Fault
  | .noValue => .expectedValue
  | .cut => .cutValue
  | .word true => .cutValue
  | .word false => .expectedWord
  | .number true => .cutValue
  | .number false => .invalidNumber
  | .noColon => .expectedColon
  | .cutColon => .cutObject

/-- The fault of a reader that only passes over the missing value. -/
def skipFault : Breach → Fault
  | .number _ => .invalidNumber
  | breach => breach.fault

end Breach

namespace Ending

/-- Whether a list that is read to its end stops properly. -/
def checkList : Ending → Except Fault Unit
  | .closed => .ok ()
  | .cut => .error .cutList
  | .commaClosed => .error .trailingComma
  | .commaCut => .error .cutValue
  | .stray | .badKey => .error .expectedCommaOrBracket

/-- Whether an object that is read to its end stops properly. -/
def checkObject : Ending → Except Fault Unit
  | .closed => .ok ()
  | .cut => .error .cutObject
  | .commaClosed => .error .trailingComma
  | .commaCut => .error .cutValue
  | .badKey => .error .keyNotString
  | .stray => .error .expectedCommaOrBrace

/-- Whether a list that is passed over stops properly. -/
def skipList : Ending → Except Fault Unit
  | .commaClosed => .error .expectedValue
  | ending => ending.checkList

/-- Whether an object that is passed over stops properly. -/
def skipObject : Ending → Except Fault Unit
  | .commaClosed => .error .keyNotString
  | .commaCut => .error .cutObject
  | ending => ending.checkObject

end Ending

/-! ## Building the tree -/

/-- A list or an object whose end is not reached; contents are reversed. -/
inductive Frame where
  | list (items : List Draft)
  | object (members : List (Enclosed × Draft))
  | member (members : List (Enclosed × Draft)) (key : Enclosed)
deriving Repr

/-- Puts a tree into the frame around it, which then stops there. -/
def Frame.stopAround (draft : Draft) : Frame → Draft
  | .list items => .list (draft :: items).reverse .cut
  | .object members => .object members.reverse .cut
  | .member members key => .object ((key, draft) :: members).reverse .cut

/-- What the next token should be. -/
inductive Place where
  | value
  | firstItem
  | firstKey
  | nextKey
  | colon
  | next
deriving DecidableEq, Repr

/-- The machine: at work inside open frames, or done with a tree and perhaps
with more text behind it. -/
inductive Builder where
  | open (stack : List Frame) (place : Place)
  | done (draft : Draft) (trailing : Bool)
deriving Repr

namespace Builder

/-- Ends at a breach: every open frame stops there. -/
def stop (stack : List Frame) (draft : Draft) : Builder :=
  .done (stack.foldl Frame.stopAround draft) false

/-- Goes on behind a complete value. -/
def complete (draft : Draft) : List Frame → Builder
  | [] => .done draft false
  | .list items :: stack => .open (.list (draft :: items) :: stack) .next
  | .member members key :: stack => .open (.object ((key, draft) :: members) :: stack) .next
  | .object members :: stack => .open (.object members :: stack) .next

/-- A token where a value should stand. -/
def takeValue (stack : List Frame) : Token → Builder
  | .openList => .open (.list [] :: stack) .firstItem
  | .openObject => .open (.object [] :: stack) .firstKey
  | .word w => complete (.word w) stack
  | .number n => complete (.number n) stack
  | .string s => complete (.string s) stack
  | .brokenWord atEnd => stop stack (.broken (.word atEnd))
  | .brokenNumber atEnd => stop stack (.broken (.number atEnd))
  | .closeList =>
      match stack with
      | .list items :: stack => stop stack (.list items.reverse .commaClosed)
      | stack => stop stack (.broken .noValue)
  | _ => stop stack (.broken .noValue)

/-- A token where a key should stand. -/
def takeKey
    (members : List (Enclosed × Draft))
    (stack : List Frame)
    (onClose : List Frame → Builder) :
    Token → Builder
  | .string key => .open (.member members key :: stack) .colon
  | .closeObject => onClose stack
  | _ => stop stack (.object members.reverse .badKey)

def takeNext : List Frame → Token → Builder
  | .list items :: stack, .comma => .open (.list items :: stack) .value
  | .list items :: stack, .closeList => complete (.list items.reverse .closed) stack
  | .list items :: stack, _ => stop stack (.list items.reverse .stray)
  | .object members :: stack, .comma => .open (.object members :: stack) .nextKey
  | .object members :: stack, .closeObject => complete (.object members.reverse .closed) stack
  | .object members :: stack, _ => stop stack (.object members.reverse .stray)
  | stack, _ => stop stack (.broken .noValue)

def step : Builder → Token → Builder
  | .done draft _, _ => .done draft true
  | .open stack .value, token => takeValue stack token
  | .open (.list items :: stack) .firstItem, .closeList =>
      complete (.list items.reverse .closed) stack
  | .open stack .firstItem, token => takeValue stack token
  | .open (.object members :: stack) .firstKey, token =>
      takeKey members stack (complete (.object members.reverse .closed)) token
  | .open (.object members :: stack) .nextKey, token =>
      takeKey members stack (fun stack => stop stack (.object members.reverse .commaClosed)) token
  | .open stack .colon, .colon => .open stack .value
  | .open stack .colon, _ => stop stack (.broken .noColon)
  | .open stack .next, token => takeNext stack token
  | .open stack _, _ => stop stack (.broken .noValue)

/-- The innermost tree when the text ends, and the frames around it. -/
def cutAt : List Frame → Place → Draft × List Frame
  | .list items :: stack, .value => (.list items.reverse .commaCut, stack)
  | .list items :: stack, _ => (.list items.reverse .cut, stack)
  | .object members :: stack, .nextKey => (.object members.reverse .commaCut, stack)
  | .object members :: stack, _ => (.object members.reverse .cut, stack)
  | stack, .colon => (.broken .cutColon, stack)
  | stack, _ => (.broken .cut, stack)

/-- The tree when the text ends, and whether text followed the first value. -/
def finish : Builder → Draft × Bool
  | .done draft trailing => (draft, trailing)
  | .open stack place =>
      let (draft, stack) := cutAt stack place
      (stack.foldl Frame.stopAround draft, false)

end Builder

namespace Draft

/-- The tree of a text, and whether more text follows its first value. -/
def ofText (text : List Char) : Draft × Bool :=
  ((Token.scan text).foldl Builder.step (.open [] .value)).finish

mutual

/-- Passes over a tree: only the grammar matters, and neither the size of
numbers nor the depth of nesting does. -/
def skip : Draft → Except Fault Unit
  | .word _ => .ok ()
  | .number _ => .ok ()
  | .string text => text.skip
  | .list items ending => do
      skipItems items
      ending.skipList
  | .object members ending => do
      skipMembers members
      ending.skipObject
  | .broken breach => .error breach.skipFault

def skipItems : List Draft → Except Fault Unit
  | [] => .ok ()
  | item :: items => do
      skip item
      skipItems items

def skipMembers : List (Enclosed × Draft) → Except Fault Unit
  | [] => .ok ()
  | (key, value) :: members => do
      key.skip
      skip value
      skipMembers members

end

end Draft

end InterfaceAudit.Json
