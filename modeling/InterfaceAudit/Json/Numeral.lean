import InterfaceAudit.Json.Fault

/-!
Contract: JSON numerals and the numbers that they denote.

Owns:
- the parts of a numeral;
- exact integers of up to sixty-four bits;
- the binary64 number of any other numeral: its first digits as a 64-bit
  integer, scaled by one rounded power of ten at a time.

Does not own: finding a numeral in a text.
-/

namespace InterfaceAudit.Json

structure ExponentPart where
  negative : Bool
  digits : List Char
deriving DecidableEq, Repr

/-- A numeral by its parts. The whole part has at least one digit; `fraction`
and `exponent?`, where they are present, have at least one digit too. -/
structure Numeral where
  negative : Bool
  whole : List Char
  fraction? : Option (List Char)
  exponent? : Option ExponentPart
deriving DecidableEq, Repr

inductive Number where
  | integer (value : Int)
  | real (value : Binary64)
deriving DecidableEq, Repr

namespace Numeral

def digitValue (c : Char) : Nat := c.toNat - '0'.toNat

/-- Largest unsigned 64-bit integer. -/
def maxWord : Nat := 0xffffffffffffffff

/-- Digits gathered into a 64-bit integer, and how many did not fit. -/
structure Gathered where
  value : Nat
  taken : Nat := 0
  skipped : Nat := 0
deriving DecidableEq, Repr

/-- Takes one more digit, unless it or an earlier one did not fit. -/
def Gathered.push (gathered : Gathered) (c : Char) : Gathered :=
  if gathered.skipped == 0 && gathered.value * 10 + digitValue c ≤ maxWord then
    { gathered with value := gathered.value * 10 + digitValue c, taken := gathered.taken + 1 }
  else { gathered with skipped := gathered.skipped + 1 }

/-- Gathers digits behind those of `value`. -/
def gather (value : Nat) (digits : List Char) : Gathered :=
  digits.foldl Gathered.push { value }

/-- The power of ten as a number, for exponents up to 308. -/
def powerOfTen (exponent : Nat) : Binary64 :=
  (Binary64.ofRatio? false (Nat.pow 10 exponent) 1).getD (Binary64.zero)

/-- Divides by a power of ten, in steps of at most `10 ^ 308`. -/
def scaleDown (x : Binary64) (exponent : Nat) : Binary64 :=
  if exponent ≤ 308 then (x.div? (powerOfTen exponent)).getD x
  else if x.isZero then x
  else scaleDown ((x.div? (powerOfTen 308)).getD x) (exponent - 308)
termination_by exponent

/-- A 64-bit integer scaled by a power of ten. -/
def scale (significand : Nat) (exponent : Int) : Except Fault Binary64 :=
  let x := (Binary64.ofRatio? false significand 1).getD Binary64.zero
  if exponent < 0 then .ok (scaleDown x exponent.natAbs)
  else if exponent ≤ 308 then
    match x.mul? (powerOfTen exponent.natAbs) with
    | some product => .ok product
    | none => .error .numberOutOfRange
  else if x.isZero then .ok x
  else .error .numberOutOfRange

/-- Largest exponent that is taken at its value. -/
def maxExponent : Nat := 0x7fffffff

/-- The number of a numeral that is no integer of at most sixty-four bits. -/
def realValue (numeral : Numeral) (significand : Nat) (place : Int) : Except Fault Binary64 :=
  match numeral.exponent? with
  | none => (scale significand place).map (Binary64.withSign numeral.negative)
  | some part =>
      let written := part.digits.foldl (fun value c => value * 10 + digitValue c) 0
      if maxExponent < written then
        if significand != 0 && !part.negative then .error .numberOutOfRange
        else .ok (Binary64.zero numeral.negative)
      else
        let exponent := if part.negative then place - written else place + written
        (scale significand exponent).map (Binary64.withSign numeral.negative)

/-- The number of a numeral without fraction and exponent whose digits fit in
sixty-four bits. Negative zero and integers below the signed range are real. -/
def integerValue (negative : Bool) (value : Nat) : Number :=
  if !negative then .integer value
  else if value == 0 || 0x8000000000000000 < value then
    .real (((Binary64.ofRatio? false value 1).getD Binary64.zero).withSign true)
  else .integer (-(value : Int))

def value (numeral : Numeral) : Except Fault Number :=
  let whole := gather 0 numeral.whole
  match numeral.fraction?, numeral.exponent? with
  | none, none =>
      if whole.skipped == 0 then .ok (integerValue numeral.negative whole.value)
      else (numeral.realValue whole.value whole.skipped).map .real
  | fraction?, _ =>
      let all := gather whole.value (fraction?.getD [])
      (numeral.realValue all.value ((whole.skipped : Int) - all.taken)).map .real

end Numeral

end InterfaceAudit.Json
