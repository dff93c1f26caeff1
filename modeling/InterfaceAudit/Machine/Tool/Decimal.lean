import InterfaceAudit.Machine.Octets

/-!
Contract: numbers that are not whole, and their text.

Owns:
- reading numerals with a fraction and an exponent as exact quotients;
- rounding a quotient to a number of significant bits, as a machine number is;
- writing a quotient with a number of places, half going to the even neighbour,
  with or without an exponent.

Does not own: arithmetic on such numbers.
-/

namespace InterfaceAudit.Tool

/-- A number that may be too large, or none at all. -/
inductive Magnitude where
  | finite (top bottom : Nat)
  | infinite
  | undefined
deriving DecidableEq, Repr

structure Measure where
  isNegative : Bool := false
  magnitude : Magnitude
deriving DecidableEq, Repr

namespace Measure

/-- A quotient rounded to a whole number; half goes to the even neighbour. -/
def roundedQuotient (top bottom : Nat) : Nat :=
  let whole := top / bottom
  let twice := 2 * (top % bottom)
  if bottom < twice || (twice == bottom && whole % 2 == 1) then whole + 1 else whole

/-- The exponent of the power of a base that a quotient lies at or above, and
below the next. -/
def exponentOf (base top bottom : Nat) : Int :=
  let rec up (base : Nat) : Nat → Nat → Nat → Nat
    | 0, _, _ => 0
    | fuel + 1, top, bottom =>
        if top < bottom * base then 0 else up base fuel top (bottom * base) + 1
  let rec down (base : Nat) : Nat → Nat → Nat → Nat
    | 0, _, _ => 0
    | fuel + 1, top, bottom =>
        if bottom ≤ top then 0 else down base fuel (top * base) bottom + 1
  if top == 0 then 0
  else if bottom ≤ top then (up base (top.log2 + 1) top bottom : Nat)
  else -(down base (bottom.log2 + 1) top bottom : Nat)

def scaled (base : Nat) (exponent : Int) (top bottom : Nat) : Nat × Nat :=
  if 0 ≤ exponent then (top * Nat.pow base exponent.toNat, bottom)
  else (top, bottom * Nat.pow base (-exponent).toNat)

def rounded (bits : Nat) (measure : Measure) : Measure :=
  match measure.magnitude with
  | .finite top bottom =>
      if top == 0 then { measure with magnitude := .finite 0 1 }
      else
        let shift : Int := (bits : Int) - 1 - exponentOf 2 top bottom
        let (up, down) := scaled 2 shift top bottom
        let whole := roundedQuotient up down
        if bits ≤ 53 && shift < -971 then { measure with magnitude := .infinite }
        else
          let (top, bottom) := scaled 2 (-shift) whole 1
          { measure with magnitude := .finite top bottom }
  | _ => measure

/-! ## Reading -/

/-- Blanks, and a sign. -/
def signOf (text : Octets) : Bool × Octets :=
  match text.dropWhile Octets.isSpace with
  | '-' :: rest => (true, rest)
  | '+' :: rest => (false, rest)
  | rest => (false, rest)

/-- A number behind a mark of an exponent, and what follows it; none if there
are no digits. -/
def exponentAfter? (marks : List Char) (text : Octets) : Option (Int × Octets) :=
  match text with
  | mark :: rest =>
      if !marks.contains mark then none
      else
        let (negative, digits) :=
          match rest with
          | '-' :: digits => (true, digits)
          | '+' :: digits => (false, digits)
          | digits => (false, digits)
        let used := digits.takeWhile Char.isDigit
        (Octets.natOf? used).map fun value =>
          (if negative then -(min value 5000 : Nat) else (min value 5000 : Nat), digits.drop used.length)
  | [] => none

/-- The start of a text that is a numeral, and what follows it; none if there is
no numeral. Words for what is no finite number count. -/
def read? (text : Octets) : Option (Measure × Octets) :=
  let (isNegative, start) := signOf text
  let lower := start.map Char.toLower
  let isWord (word : String) : Bool := word.toList.isPrefixOf lower
  if isWord "infinity" then some ({ isNegative, magnitude := .infinite }, start.drop 8)
  else if isWord "inf" then some ({ isNegative, magnitude := .infinite }, start.drop 3)
  else if isWord "nan" then some ({ isNegative, magnitude := .undefined }, start.drop 3)
  else
    let isHex := isWord "0x" && ((start.drop 2).headD ' ' |> fun c => (Octets.digitOf? 16 c).isSome || c == '.')
    let base := if isHex then 16 else 10
    let body := if isHex then start.drop 2 else start
    let isOne (c : Char) : Bool := (Octets.digitOf? base c).isSome
    let whole := body.takeWhile isOne
    let behind := body.drop whole.length
    let (part, rest) :=
      match behind with
      | '.' :: more =>
          let part := more.takeWhile isOne
          if whole.isEmpty && part.isEmpty then ([], behind) else (part, more.drop part.length)
      | behind => ([], behind)
    if whole.isEmpty && part.isEmpty then none
    else
      let value := Octets.valueOf base (whole ++ part)
      let bottom := Nat.pow base part.length
      let (exponent, rest) := (exponentAfter? (if isHex then ['p', 'P'] else ['e', 'E']) rest).getD (0, rest)
      let (top, bottom) := scaled (if isHex then 2 else 10) exponent value bottom
      some ({ isNegative, magnitude := .finite top bottom }, rest)

/-! ## Writing -/

/-- A whole number as digits, with a point in front of its last places. -/
def pointed (keepsPoint : Bool) (places value : Nat) : Octets :=
  let digits := Octets.padZeros (places + 1) (Octets.ofNat value)
  let whole := digits.take (digits.length - places)
  let part := digits.drop (digits.length - places)
  whole ++ (if part.isEmpty && !keepsPoint then [] else '.' :: part)

def fixedText (keepsPoint : Bool) (places top bottom : Nat) : Octets :=
  pointed keepsPoint places (roundedQuotient (top * Nat.pow 10 places) bottom)

/-- The digits of a quotient in front of and behind the point when one stands in
front, and the exponent that belongs to them. -/
def significant (places top bottom : Nat) : Nat × Int :=
  if top == 0 then (0, 0)
  else
    let exponent := exponentOf 10 top bottom
    let (up, down) := scaled 10 ((places : Int) - exponent) top bottom
    let value := roundedQuotient up down
    if Nat.pow 10 (places + 1) ≤ value then (value / 10, exponent + 1) else (value, exponent)

/-- An exponent of at least two digits behind its mark. -/
def exponentText (mark : Char) (exponent : Int) : Octets :=
  mark :: (if exponent < 0 then '-' else '+') :: Octets.padZeros 2 (Octets.ofNat exponent.natAbs)

/-- Without the zeros behind a point, and without a point at the end. -/
def withoutZeros (text : Octets) : Octets :=
  if text.contains '.' then
    Octets.dropRightWhile (· == '.') (Octets.dropRightWhile (· == '0') text)
  else text

/-- A quotient by the letter of a format: a fixed number of places, one digit in
front of the point with an exponent, or whichever is shorter. -/
def quotientText (letter : Char) (marked : Bool) (precision : Nat) (top bottom : Nat) : Octets :=
  match letter.toLower with
  | 'f' => fixedText marked precision top bottom
  | 'e' =>
      let (value, exponent) := significant precision top bottom
      pointed marked precision value ++ exponentText 'e' exponent
  | _ =>
      let digits := max precision 1
      let (value, exponent) := significant (digits - 1) top bottom
      if exponent < -4 || (digits : Int) ≤ exponent then
        let body := pointed marked (digits - 1) value
        (if marked then body else withoutZeros body) ++ exponentText 'e' exponent
      else
        let body := fixedText marked ((digits : Int) - 1 - exponent).toNat top bottom
        if marked then body else withoutZeros body

/-- The text of a number without its sign. -/
def text (letter : Char) (marked : Bool) (precision : Nat) (measure : Measure) : Octets :=
  let body :=
    match measure.magnitude with
    | .infinite => ['i', 'n', 'f']
    | .undefined => ['n', 'a', 'n']
    | .finite top bottom => quotientText letter marked precision top bottom
  if letter.isUpper then body.map Char.toUpper else body

/-- Whether a number has digits. -/
def isFinite (measure : Measure) : Bool :=
  match measure.magnitude with
  | .finite _ _ => true
  | _ => false

end Measure

end InterfaceAudit.Tool
