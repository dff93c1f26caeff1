/-!
Contract: finite binary floating-point numbers of 53 significant bits, and
their shortest decimal text.

Owns:
- rounding of a ratio to the nearest representable number, ties to even;
- multiplication and division, each rounded once;
- the fewest decimal digits that read back, and their layout.

Does not own: the grammar of numerals.
-/

namespace InterfaceAudit.Json

/-- A finite number: `mantissa * 2 ^ exponent`, negated if `negative`. The
mantissa has at most 53 bits, and 53 unless the number is subnormal. -/
structure Binary64 where
  negative : Bool
  mantissa : Nat
  exponent : Int
deriving DecidableEq, Repr

namespace Binary64

def zero (negative : Bool := false) : Binary64 := ⟨negative, 0, -1074⟩

def isZero (x : Binary64) : Bool := x.mantissa == 0

/-- Scales a ratio by a power of two, as numerator and denominator. -/
def scale (numerator denominator : Nat) (exponent : Int) : Nat × Nat :=
  if exponent < 0 then (numerator * Nat.pow 2 exponent.natAbs, denominator)
  else (numerator, denominator * Nat.pow 2 exponent.natAbs)

/-- The quotient of a ratio to the nearest integer, ties to even. -/
def roundQuotient (numerator denominator : Nat) : Nat :=
  let quotient := numerator / denominator
  let rest := 2 * (numerator % denominator)
  if rest < denominator then quotient
  else if denominator < rest then quotient + 1
  else quotient + quotient % 2

/-- The exponent at which a ratio has 53 bits before the point, or the least
exponent of all. -/
def exponentFor (numerator denominator : Nat) : Int :=
  let guess : Int := Int.ofNat numerator.log2 - Int.ofNat denominator.log2 - 52
  let (n, d) := scale numerator denominator guess
  let exponent := if n / d < 0x10000000000000 then guess - 1 else guess
  max exponent (-1074)

/-- The nearest number to a positive ratio, or `none` beyond the largest. -/
def ofRatio? (negative : Bool) (numerator denominator : Nat) : Option Binary64 :=
  if numerator == 0 then some (zero negative)
  else
    let exponent := exponentFor numerator denominator
    let (n, d) := scale numerator denominator exponent
    let mantissa := roundQuotient n d
    let (mantissa, exponent) :=
      if mantissa == 0x20000000000000 then (0x10000000000000, exponent + 1) else (mantissa, exponent)
    if 971 < exponent then none else some ⟨negative, mantissa, exponent⟩

def ratio (x : Binary64) : Nat × Nat :=
  if x.exponent < 0 then (x.mantissa, Nat.pow 2 x.exponent.natAbs)
  else (x.mantissa * Nat.pow 2 x.exponent.natAbs, 1)

/-- The product, rounded, or `none` beyond the largest number. -/
def mul? (x y : Binary64) : Option Binary64 :=
  let (a, b) := x.ratio
  let (c, d) := y.ratio
  ofRatio? (x.negative != y.negative) (a * c) (b * d)

/-- The quotient by a number other than zero, rounded. -/
def div? (x y : Binary64) : Option Binary64 :=
  let (a, b) := x.ratio
  let (c, d) := y.ratio
  ofRatio? (x.negative != y.negative) (a * d) (b * c)

/-- The same magnitude with the sign set. -/
def withSign (negative : Bool) (x : Binary64) : Binary64 :=
  { x with negative }

/-! ## Shortest text -/

/-- Twice the distances to the numbers that bound what rounds to `x`, as a
ratio interval: lower numerator, upper numerator, denominator. -/
def interval (x : Binary64) : Nat × Nat × Nat :=
  let (lowNumerator, highNumerator, shift) : Nat × Nat × Int :=
    if x.mantissa == 0x10000000000000 && -1074 < x.exponent then
      (4 * x.mantissa - 1, 4 * x.mantissa + 2, x.exponent - 2)
    else
      (4 * x.mantissa - 2, 4 * x.mantissa + 2, x.exponent - 2)
  if shift < 0 then (lowNumerator, highNumerator, Nat.pow 2 shift.natAbs)
  else (lowNumerator * Nat.pow 2 shift.natAbs, highNumerator * Nat.pow 2 shift.natAbs, 1)

/-- Whether `digits * 10 ^ place` rounds to `x`; the ends of the interval count
for an even mantissa. -/
def readsBack (x : Binary64) (digits : Nat) (place : Int) : Bool :=
  let (low, high, denominator) := x.interval
  let (value, unit) :=
    if place < 0 then (digits * denominator, Nat.pow 10 place.natAbs)
    else (digits * Nat.pow 10 place.natAbs * denominator, 1)
  if x.mantissa % 2 == 0 then low * unit ≤ value && value ≤ high * unit
  else low * unit < value && value < high * unit

/-- The integers on either side of `x / 10 ^ place`, and whether the upper one
is nearer. -/
def neighbours (x : Binary64) (place : Int) : Nat × Bool :=
  let (a, b) := x.ratio
  let (n, d) := if place < 0 then (a * Nat.pow 10 place.natAbs, b) else (a, b * Nat.pow 10 place.natAbs)
  let rest := 2 * (n % d)
  (n / d, d < rest || (d == rest && n / d % 2 == 1))

/-- A multiple of `10 ^ place` that reads back as `x`, the nearer of two. -/
def pointOn? (x : Binary64) (place : Int) : Option Nat :=
  let (lower, upperNearer) := x.neighbours place
  let candidates := if upperNearer then [lower + 1, lower] else [lower, lower + 1]
  candidates.find? (fun digits => x.readsBack digits place)

/-- The decimal place of the leading digit of a number that is not zero. -/
def leadingPlace (x : Binary64) : Int :=
  let (a, b) := x.ratio
  if b ≤ a then Int.ofNat ((Nat.toDigits 10 (a / b)).length - 1)
  else
    let ceiling := (b + a - 1) / a
    Int.neg (Int.ofNat (Nat.toDigits 10 (ceiling - 1)).length)

/-- The first decimal grid, from coarse to fine, that holds a point reading
back as `x`, with that point. -/
def shortest (x : Binary64) : Nat × Int :=
  let leading := x.leadingPlace
  let grids := (List.range 18).map (fun count => leading - Int.ofNat count)
  match grids.findSome? (fun place => (x.pointOn? place).map (fun digits => (digits, place))) with
  | some found => found
  | none => (x.ratio.1, 0)

def dropTrailingZeros (digits : List Char) : List Char :=
  (digits.reverse.dropWhile (· == '0')).reverse

/-- Lays digits out around the point: positional when the leading digit stands
between the fifth place after the point and the sixteenth before it, otherwise
with a signed exponent. -/
def layout (digits : List Char) (leading : Int) : List Char :=
  if -5 ≤ leading && leading ≤ 15 then
    if leading < 0 then
      ['0', '.'] ++ List.replicate (leading.natAbs - 1) '0' ++ digits
    else
      let whole := leading.natAbs + 1
      let padded := digits ++ List.replicate (whole - digits.length) '0'
      let fraction := padded.drop whole
      padded.take whole ++ ['.'] ++ (if fraction.isEmpty then ['0'] else fraction)
  else
    let exponent := Nat.toDigits 10 leading.natAbs
    let fraction := digits.drop 1
    digits.take 1 ++ (if fraction.isEmpty then [] else '.' :: fraction) ++
      ['e', if leading < 0 then '-' else '+'] ++ exponent

/-- The shortest digits that read back, laid out around the point without an
exponent and without a point that nothing would follow. -/
def positional (x : Binary64) : String :=
  let sign := if x.negative then ['-'] else []
  if x.isZero then String.ofList (sign ++ ['0'])
  else
    let (value, place) := x.shortest
    let all := Nat.toDigits 10 value
    let digits := dropTrailingZeros all
    let leading := Int.ofNat (all.length - 1) + place
    let laid :=
      if leading < 0 then ['0', '.'] ++ List.replicate (leading.natAbs - 1) '0' ++ digits
      else
        let whole := leading.natAbs + 1
        let padded := digits ++ List.replicate (whole - digits.length) '0'
        let fraction := padded.drop whole
        padded.take whole ++ (if fraction.isEmpty then [] else '.' :: fraction)
    String.ofList (sign ++ laid)

/-- The shortest text that reads back, always marked as no integer. -/
def text (x : Binary64) : String :=
  let sign := if x.negative then ['-'] else []
  if x.isZero then String.ofList (sign ++ ['0', '.', '0'])
  else
    let (value, place) := x.shortest
    let digits := Nat.toDigits 10 value
    let leading := Int.ofNat (digits.length - 1) + place
    String.ofList (sign ++ layout (dropTrailingZeros digits) leading)

end Binary64

end InterfaceAudit.Json
