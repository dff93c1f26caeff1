import InterfaceAudit.Machine.Tool.Format

/-!
Contract: numbers as programs compute with them.

Owns:
- the four operations, remainders and powers, each rounded to the bits of a
  machine number;
- comparison;
- the functions of analysis, by way of machine numbers;
- whole parts, and the text of whole numbers.

Does not own: reading and formatting numbers.
-/

namespace InterfaceAudit.Tool.Measure

def ofInt (value : Int) : Measure where
  isNegative := value < 0
  magnitude := .finite value.natAbs 1

def ofNat (value : Nat) : Measure where
  magnitude := .finite value 1

def ofBool (value : Bool) : Measure := ofNat value.toNat

/-- What comes of an operation without a result. -/
def invalid : Measure where
  isNegative := true
  magnitude := .undefined

def isZero (x : Measure) : Bool :=
  match x.magnitude with
  | .finite top _ => top == 0
  | _ => false

/-- A number with its sign turned around; zero has none. -/
def negated (x : Measure) : Measure :=
  if x.isZero then x else { x with isNegative := !x.isNegative }

def machineBits : Nat := 53

/-- The number of the power of two below which a machine number is zero. -/
def leastExponent : Nat := 1075

/-- The quotient of two integers as a machine number. -/
def ofQuotient (top : Int) (bottom : Nat) : Measure :=
  let isNegative := top < 0
  let top := top.natAbs
  if top % bottom == 0 && top / bottom ≤ Nat.pow 2 machineBits then
    { isNegative, magnitude := .finite (top / bottom) 1 }
  else if top * Nat.pow 2 leastExponent ≤ bottom then { magnitude := .finite 0 1 }
  else
    let result := rounded machineBits { isNegative, magnitude := .finite top bottom }
    match result.magnitude with
    | .finite top bottom =>
        if top % bottom == 0 then { result with magnitude := .finite (top / bottom) 1 } else result
    | _ => result

/-- The dividend of a finite number with its sign. -/
def signed (isNegative : Bool) (top : Nat) : Int := if isNegative then -(top : Int) else top

def add (x y : Measure) : Measure :=
  match x.magnitude, y.magnitude with
  | .finite a b, .finite c d =>
      let x := signed x.isNegative a
      let y := signed y.isNegative c
      if b == d then ofQuotient (x + y) b else ofQuotient (x * d + y * b) (b * d)
  | .undefined, _ => x
  | _, .undefined => y
  | .infinite, .infinite => if x.isNegative == y.isNegative then x else invalid
  | .infinite, _ => x
  | _, .infinite => y

def subtract (x y : Measure) : Measure := add x y.negated

def multiply (x y : Measure) : Measure :=
  let isNegative := x.isNegative != y.isNegative
  match x.magnitude, y.magnitude with
  | .finite a b, .finite c d => ofQuotient (signed isNegative (a * c)) (b * d)
  | .undefined, _ => x
  | _, .undefined => y
  | _, _ => if x.isZero || y.isZero then invalid else { isNegative, magnitude := .infinite }

def divide (x y : Measure) : Measure :=
  let isNegative := x.isNegative != y.isNegative
  match x.magnitude, y.magnitude with
  | .finite a b, .finite c d =>
      if c == 0 then if a == 0 then invalid else { isNegative, magnitude := .infinite }
      else ofQuotient (signed isNegative (a * d)) (b * c)
  | .undefined, _ => x
  | _, .undefined => y
  | .infinite, .infinite => invalid
  | .infinite, _ => { isNegative, magnitude := .infinite }
  | _, .infinite => ofInt 0

/-- What a division leaves, with the sign of the dividend. -/
def remainder (x y : Measure) : Measure :=
  match x.magnitude, y.magnitude with
  | .finite a b, .finite c d =>
      if c == 0 then invalid else ofQuotient (signed x.isNegative ((a * d) % (c * b))) (b * d)
  | .undefined, _ => x
  | _, .undefined => y
  | .infinite, _ => invalid
  | _, .infinite => x

/-- How two numbers compare; none if one of them is undefined. -/
def compare? (x y : Measure) : Option Ordering :=
  let rank (x : Measure) : Int := if x.isNegative then -1 else 1
  match x.magnitude, y.magnitude with
  | .undefined, _ | _, .undefined => none
  | .finite a b, .finite c d =>
      some (compare (signed x.isNegative a * d) (signed y.isNegative c * b))
  | .infinite, .infinite => some (compare (rank x) (rank y))
  | .infinite, _ => some (compare (rank x) 0)
  | _, .infinite => some (compare 0 (rank y))

/-- The whole part of a number; none if it has none. -/
def whole? (x : Measure) : Option Int :=
  match x.magnitude with
  | .finite top bottom => some (signed x.isNegative (top / bottom))
  | _ => none

/-- A number without what stands behind its point. -/
def truncated (x : Measure) : Measure :=
  match x.whole? with
  | some value => ofInt value
  | none => x

/-! ## Functions of analysis -/

def toFloat (x : Measure) : Float :=
  let size : Float :=
    match (rounded machineBits x).magnitude with
    | .finite top bottom => (Float.ofNat top).scaleB (-(bottom.log2 : Int))
    | .infinite => 1.0 / 0.0
    | .undefined => 0.0 / 0.0
  if x.isNegative then -size else size

def ofFloat (value : Float) : Measure :=
  if value.isNaN then invalid
  else
    let isNegative := value < 0.0
    if value.isInf then { isNegative, magnitude := .infinite }
    else
      let (part, exponent) := value.abs.frExp
      let digits := (part.scaleB machineBits).toUInt64.toNat
      let (top, bottom) := scaled 2 (exponent - machineBits) digits 1
      ofQuotient (signed isNegative top) bottom

def through (function : Float → Float) (x : Measure) : Measure := ofFloat (function x.toFloat)

def power (x y : Measure) : Measure :=
  match x.magnitude, y.magnitude with
  | .finite a b, .finite c 1 =>
      if c ≤ 256 then
        let isNegative := x.isNegative && c % 2 == 1
        let result := ofQuotient (signed isNegative (Nat.pow a c)) (Nat.pow b c)
        if y.isNegative then divide (ofInt 1) result else result
      else ofFloat (Float.pow x.toFloat y.toFloat)
  | _, _ => ofFloat (Float.pow x.toFloat y.toFloat)

/-! ## Text -/

/-- The text of a number that is whole and not too large. -/
def wholeText? (x : Measure) : Option Octets :=
  match x.magnitude with
  | .finite top bottom =>
      if top % bottom != 0 then none
      else
        let value := top / bottom
        if x.isNegative then
          if value ≤ 0x8000000000000000 then some (Octets.ofInt (-(value : Int))) else none
        else if value ≤ 0x10000000000000000 then some (Octets.ofNat (min value 0xffffffffffffffff))
        else none
  | _ => none

end InterfaceAudit.Tool.Measure
