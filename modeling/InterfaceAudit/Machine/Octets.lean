import InterfaceAudit.Text.Utf8

/-!
Contract: byte strings that are looked at character by character.

Owns:
- the form in which the machine holds bytes, each as the character of the same
  number, so that they can be compared with character literals;
- the passage from and to bytes and texts;
- splitting, joining, ordering and numbers.

Does not own: UTF-8. Nothing that the machine does depends on it.
-/

namespace InterfaceAudit

/-- A byte string, with every byte as the character of the same number. -/
abbrev Octets := List Char

namespace Octets

def ofBytes (bytes : Bytes) : Octets :=
  bytes.map (fun byte => Char.ofNat byte.toNat)

def toBytes (octets : Octets) : Bytes :=
  octets.map (fun c => UInt8.ofNat c.toNat)

def ofString (text : String) : Octets :=
  ofBytes (Utf8.ofString text)

/-- Octets as a text, with a mark for what is no UTF-8. -/
def shown (octets : Octets) : String :=
  Utf8.toStringLossy (toBytes octets)

def ofNat (value : Nat) : Octets :=
  (toString value).toList

def ofInt (value : Int) : Octets :=
  (toString value).toList

/-- The lines of a text: what stands before each line feed, and what stands
behind the last one if anything does. -/
def lines (text : Octets) : List Octets :=
  text.foldr
    (fun c (parts : List Octets) =>
      if c == '\n' then [] :: parts
      else
        match parts with
        | [] => [[c]]
        | part :: others => (c :: part) :: others)
    []

def unlines (lines : List Octets) : Octets :=
  lines.flatMap (fun line => line ++ ['\n'])

def join (separator : Octets) (parts : List Octets) : Octets :=
  separator.intercalate parts

def natOf? (text : Octets) : Option Nat :=
  if text.isEmpty || !text.all Char.isDigit then none
  else some (text.foldl (fun value c => value * 10 + (c.toNat - 48)) 0)

/-- The value of a decimal number with an optional sign. -/
def intOf? (text : Octets) : Option Int :=
  match text with
  | '-' :: digits => (natOf? digits).map (fun value => -(value : Int))
  | '+' :: digits => (natOf? digits).map Int.ofNat
  | digits => (natOf? digits).map Int.ofNat

/-- The value of a digit in a base up to thirty-six. -/
def digitOf? (base : Nat) (c : Char) : Option Nat :=
  let value :=
    if c.isDigit then c.toNat - 48
    else if 'a' ≤ c && c ≤ 'z' then c.toNat - 87
    else if 'A' ≤ c && c ≤ 'Z' then c.toNat - 55
    else base
  if value < base then some value else none

/-- The value of digits in a base; what is no digit counts as zero. -/
def valueOf (base : Nat) (digits : Octets) : Nat :=
  digits.foldl (fun value c => value * base + (digitOf? base c).getD 0) 0

def splitAt (separator : Char) (text : Octets) : List Octets :=
  text.foldr
    (fun c (parts : List Octets) =>
      if c == separator then [] :: parts
      else
        match parts with
        | [] => [[c]]
        | part :: others => (c :: part) :: others)
    [[]]

/-- Order by the numbers of the characters; a text comes before its
continuations. -/
def before : Octets → Octets → Bool
  | [], _ :: _ => true
  | _, [] => false
  | x :: xs, y :: ys => if x == y then before xs ys else x.toNat < y.toNat

/-- Texts in ascending order. -/
def sorted (texts : List Octets) : List Octets :=
  texts.mergeSort (fun x y => !before y x)

/-- A text without the characters of a kind at its end. -/
def dropRightWhile (test : Char → Bool) (text : Octets) : Octets :=
  (text.reverse.dropWhile test).reverse

/-- A text without the characters of a kind at both ends. -/
def trim (test : Char → Bool) (text : Octets) : Octets :=
  dropRightWhile test (text.dropWhile test)

/-- A text with blanks in front of it up to a width. -/
def padLeft (width : Nat) (text : Octets) : Octets :=
  List.replicate (width - text.length) ' ' ++ text

def padRight (width : Nat) (text : Octets) : Octets :=
  text ++ List.replicate (width - text.length) ' '

/-- A number with zeros in front of it up to a width. -/
def padZeros (width : Nat) (digits : Octets) : Octets :=
  List.replicate (width - digits.length) '0' ++ digits

/-- Whether a character is a space or a tab. -/
def isBlank (c : Char) : Bool := c == ' ' || c == '\t'

def isSpace (c : Char) : Bool :=
  [' ', '\t', '\n', '\r', '\x0b', '\x0c'].contains c

end Octets

end InterfaceAudit
