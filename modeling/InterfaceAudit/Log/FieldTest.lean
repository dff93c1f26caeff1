import InterfaceAudit.Json.Binary64
import InterfaceAudit.Log.Event
import InterfaceAudit.Text.Regex.Reader

/-!
Contract: what a rule may ask of the value of a field.

Owns:
- tests for flags, numbers and texts, and how their written form decides which
  of them is meant;
- which values pass a test.

Does not own: the rules that tests belong to.
-/

namespace InterfaceAudit.Log

open InterfaceAudit.Json (Binary64)

inductive FieldTest where
  | flag (wanted : Bool)
  | unsigned (wanted : Nat)
  | signed (wanted : Int)
  | real (wanted : Binary64)
  | infinite (negative : Bool)
  | notANumber
  /-- The value as text is ended by what a regular expression first fits. -/
  | pattern (source : String) (regex : Regex)
deriving DecidableEq, Repr

namespace FieldTest

/-! ## Numerals -/

/-- The value of decimal digits, at least one of them. -/
def digits? (text : List Char) : Option Nat :=
  if text.isEmpty || !text.all Char.isDigit then none
  else some (text.foldl (fun value c => value * 10 + (c.toNat - '0'.toNat)) 0)

def signed? : List Char → Bool × List Char
  | '-' :: text => (true, text)
  | '+' :: text => (false, text)
  | text => (false, text)

/-- The value of a numeral without a minus sign that fits into 64 bits. -/
def unsigned? (text : List Char) : Option Nat := do
  if text.head? == some '-' then none
  let value ← digits? (signed? text).2
  if value < 0x10000000000000000 then return value else none

/-- The value of a numeral that fits into 64 bits with a sign. -/
def integer? (text : List Char) : Option Int := do
  let (negative, text) := signed? text
  let value ← digits? text
  let value := if negative then -Int.ofNat value else Int.ofNat value
  if -0x8000000000000000 ≤ value && value < 0x8000000000000000 then return value else none

/-- The exponent behind a mantissa; nothing there means zero. -/
def exponent? : List Char → Option Int
  | [] => some 0
  | mark :: text =>
      if mark == 'e' || mark == 'E' then
        let (negative, text) := signed? text
        (digits? text).map fun value => if negative then -Int.ofNat value else Int.ofNat value
      else none

/-- A number of digits times a power of ten, rounded; beyond the largest one it
is infinite. -/
def rounded (negative : Bool) (value : Nat) (place : Int) : FieldTest :=
  let magnitude := Int.ofNat (Nat.toDigits 10 value).length + place
  if value == 0 || magnitude < -400 then .real (Binary64.zero negative)
  else if 400 < magnitude then .infinite negative
  else
    let ratio :=
      if place < 0 then Binary64.ofRatio? negative value (Nat.pow 10 place.natAbs)
      else Binary64.ofRatio? negative (value * Nat.pow 10 place.natAbs) 1
    match ratio with
    | some number => .real number
    | none => .infinite negative

/-- A decimal numeral with a point or an exponent, or the name of a number that
is none. -/
def decimal? (text : List Char) : Option FieldTest := do
  let (negative, text) := signed? text
  match String.ofList (text.map Char.toLower) with
  | "inf" | "infinity" => return .infinite negative
  | "nan" => return .notANumber
  | _ =>
      let whole := text.takeWhile Char.isDigit
      let rest := text.drop whole.length
      let (part, rest) :=
        match rest with
        | '.' :: rest =>
            let part := rest.takeWhile Char.isDigit
            (part, rest.drop part.length)
        | rest => ([], rest)
      let value ← digits? (whole ++ part)
      let exponent ← exponent? rest
      return rounded negative value (exponent - Int.ofNat part.length)

/-! ## Written form -/

/-- The test that a text stands for: the first kind of value that it can be
read as. A text that is neither a value nor a regular expression is refused. -/
def ofText? (text : List Char) : Option FieldTest :=
  match String.ofList text with
  | "true" => some (.flag true)
  | "false" => some (.flag false)
  | source =>
      match unsigned? text, integer? text, decimal? text with
      | some value, _, _ => some (.unsigned value)
      | none, some value, _ => some (.signed value)
      | none, none, some test => some test
      | none, none, none => (Regex.ofText? text).map (.pattern source)

def text : FieldTest → String
  | .flag wanted => if wanted then "true" else "false"
  | .unsigned wanted => toString wanted
  | .signed wanted => toString wanted
  | .real wanted => wanted.positional
  | .infinite negative => if negative then "-inf" else "inf"
  | .notANumber => "NaN"
  | .pattern source _ => source

/-- Whether two tests ask for the same. Zero is the same with either sign. -/
def asksSame : FieldTest → FieldTest → Bool
  | .real left, .real right => left == right || (left.isZero && right.isZero)
  | .pattern left _, .pattern right _ => left == right
  | left, right => left == right

/-- Whether a value passes. A text passes only a test for texts, whatever it
may look like. -/
def passes : FieldTest → FieldValue → Bool
  | .pattern _ regex, .text value => regex.endsText value.toList
  | .unsigned wanted, .number value => wanted == value
  | .signed wanted, .number value => wanted == Int.ofNat value
  | _, _ => false

end FieldTest

end InterfaceAudit.Log
