import InterfaceAudit.Text.Blank
import InterfaceAudit.Text.Regex

/-!
Contract: the written form of single characters and of sets of them.

Owns:
- the flags under which expressions are read;
- blanks and comments that mean nothing under a flag;
- escapes;
- bracketed classes with their operators, and how deep they are nested.

Outside ASCII mode nothing is known about the kinds and cases of characters, so
whatever depends on them is refused. In ASCII mode a set must not hold anything
but ASCII, and so no set can be negated.

Does not own: how expressions are made of sets.
-/

namespace InterfaceAudit.Regex

/-- Flags that change what is read and what it means. -/
structure Flags where
  ignoreCase : Bool := false
  /-- Lines have starts and ends of their own. -/
  lines : Bool := false
  /-- A dot also fits the end of a line. -/
  dotAll : Bool := false
  swapGreed : Bool := false
  /-- Blanks and comments mean nothing. -/
  spaced : Bool := false
  /-- A carriage return also ends a line. -/
  eitherEnd : Bool := false
  ascii : Bool := false
deriving DecidableEq, Repr

/-- A text from behind its blanks and comments on. -/
def behindSpace : (inComment : Bool) → List Char → List Char
  | _, [] => []
  | true, c :: rest => behindSpace (c != '\n') rest
  | false, c :: rest =>
      if Text.isBlank c then behindSpace false rest
      else if c == '#' then behindSpace true rest
      else c :: rest

/-- Skips what means nothing. -/
def Flags.skip (flags : Flags) (text : List Char) : List Char :=
  if flags.spaced then behindSpace false text else text

/-- The character that stands next once blanks are passed over. A comment is
taken for what it says. -/
def peekedBehindSpace : (inComment : Bool) → List Char → Option Char
  | _, [] => none
  | inComment, c :: rest =>
      if Text.isBlank c then peekedBehindSpace inComment rest
      else if !inComment && c == '#' then peekedBehindSpace true rest
      else some c

def Flags.peek (flags : Flags) (text : List Char) : Option Char :=
  if flags.spaced then peekedBehindSpace false text else text.head?

/-! ## Escapes -/

inductive Escape where
  | char (c : Char)
  /-- A byte by its two hexadecimal digits. -/
  | byte (c : Char)
  | set (set : CharSet)
  | border (kind : Border)
deriving Repr

def hexValue? (c : Char) : Option Nat :=
  if c.isDigit then some (c.toNat - 0x30)
  else if 'a' ≤ c && c ≤ 'f' then some (c.toNat - 0x57)
  else if 'A' ≤ c && c ≤ 'F' then some (c.toNat - 0x37)
  else none

/-- The value of a number of hexadecimal digits, with what follows them. -/
def hexDigits? (flags : Flags) : Nat → Nat → List Char → Option (Nat × List Char)
  | 0, value, text => some (value, text)
  | count + 1, value, text =>
      match flags.skip text with
      | [] => none
      | c :: rest => do hexDigits? flags count (value * 16 + (← hexValue? c)) rest

/-- The character that a number of hexadecimal digits stands for, with what
follows them. -/
def hexChar? (flags : Flags) (count : Nat) (text : List Char) : Option (Char × List Char) := do
  let (value, rest) ← hexDigits? flags count 0 text
  if h : value.isValidChar then return (Char.ofNatAux value h, rest) else none

def controlOfLetter? : Char → Option Char
  | 'a' => some '\x07'
  | 'f' => some '\x0c'
  | 't' => some '\t'
  | 'n' => some '\n'
  | 'r' => some '\r'
  | 'v' => some '\x0b'
  | _ => none

/-- The set that a letter stands for in ASCII mode. -/
def setOfLetter? : Char → Option CharSet
  | 'd' => some [(0x30, 0x39)]
  | 's' => some [(0x9, 0xD), (0x20, 0x20)]
  | 'w' => some CharSet.word
  | _ => none

/-- The border that a letter or angle stands for. Those of words are known in
ASCII mode alone. -/
def borderOf? (flags : Flags) : Char → Option Border
  | 'A' => some .textStart
  | 'z' => some .textEnd
  | 'b' => if flags.ascii then some .word else none
  | 'B' => if flags.ascii then some .notWord else none
  | '<' => if flags.ascii then some .wordStart else none
  | '>' => if flags.ascii then some .wordEnd else none
  | _ => none

/-- Whether a character stands for itself behind a backslash. -/
def isEscapable (c : Char) : Bool :=
  c.toNat < 0x80 && !c.isAlphanum && c != '<' && c != '>'

/-- What stands behind a backslash, with what follows it. -/
def escape? (flags : Flags) : List Char → Option (Escape × List Char)
  | [] => none
  | 'x' :: rest => (hexChar? flags 2 rest).map fun (c, rest) => (.byte c, rest)
  | 'u' :: rest => (hexChar? flags 4 rest).map fun (c, rest) => (.char c, rest)
  | 'U' :: rest => (hexChar? flags 8 rest).map fun (c, rest) => (.char c, rest)
  | c :: rest =>
      if isEscapable c then some (.char c, rest)
      else
        match controlOfLetter? c, borderOf? flags c with
        | some control, _ => some (.char control, rest)
        | none, some kind => some (.border kind, rest)
        | none, none =>
            if flags.ascii then (setOfLetter? c).map fun set => (.set set, rest) else none

/-! ## Bracketed classes -/

def classOfName? : String → Option CharSet
  | "alnum" => some [(0x30, 0x39), (0x41, 0x5A), (0x61, 0x7A)]
  | "alpha" => some [(0x41, 0x5A), (0x61, 0x7A)]
  | "ascii" => some [(0, 0x7F)]
  | "blank" => some [(0x9, 0x9), (0x20, 0x20)]
  | "cntrl" => some [(0, 0x1F), (0x7F, 0x7F)]
  | "digit" => some [(0x30, 0x39)]
  | "graph" => some [(0x21, 0x7E)]
  | "lower" => some [(0x61, 0x7A)]
  | "print" => some [(0x20, 0x7E)]
  | "punct" => some [(0x21, 0x2F), (0x3A, 0x40), (0x5B, 0x60), (0x7B, 0x7E)]
  | "space" => some [(0x9, 0xD), (0x20, 0x20)]
  | "upper" => some [(0x41, 0x5A)]
  | "word" => some CharSet.word
  | "xdigit" => some [(0x30, 0x39), (0x41, 0x46), (0x61, 0x66)]
  | _ => none

/-- A named class behind its opening bracket and colon: its name, whether it is
negated, and what follows it. -/
def named? (text : List Char) : Option (CharSet × Bool × List Char) := do
  let (negated, text) :=
    match text with
    | '^' :: text => (true, text)
    | text => (false, text)
  let name := text.takeWhile (· != ':')
  match text.drop name.length with
  | ':' :: ']' :: rest => do
      return (← classOfName? (String.ofList name), negated, rest)
  | _ => none

def Flags.folded (flags : Flags) (set : CharSet) : CharSet :=
  if flags.ignoreCase then set.bothCases else set

def Flags.negated? (flags : Flags) (set : CharSet) : Option CharSet :=
  if flags.ascii then none else some set.complement

def Flags.range? (flags : Flags) (low high : Char) : Option CharSet :=
  if high < low || (flags.ascii && 0x7F < high.toNat) || (!flags.ascii && flags.ignoreCase) then none
  else some [(low.toNat, high.toNat)]

/-- A set, and how deep brackets and operators are nested in its written form. -/
structure Nested where
  set : CharSet
  depth : Nat

/-- What has been read of a bracketed class. -/
structure Bracket where
  negated : Bool
  /-- What stands in front of the last operator, and that operator. -/
  left : Option (Nested × Char) := none
  set : CharSet := []
  /-- How many items were read behind the last operator. -/
  count : Nat := 0
  /-- How deep the deepest of them is. -/
  depth : Nat := 0

namespace Bracket

def add (bracket : Bracket) (item : Nested) : Bracket :=
  { bracket with
    set := bracket.set ++ item.set
    count := bracket.count + 1
    depth := max bracket.depth item.depth }

/-- The items behind the last operator. -/
def tail (bracket : Bracket) : Nested where
  set := bracket.set
  depth := if bracket.count ≤ 1 then bracket.depth else bracket.depth + 1

def combine (left : CharSet) (operator : Char) (right : CharSet) : CharSet :=
  match operator with
  | '&' => left.meet right
  | '-' => left.meet right.complement
  | _ => left.meet right.complement ++ right.meet left.complement

/-- The set so far, in front of an operator or at the end. -/
def settle (flags : Flags) (bracket : Bracket) : Nested :=
  match bracket.left with
  | none => bracket.tail
  | some (left, operator) =>
      { set := combine (flags.folded left.set) operator (flags.folded bracket.tail.set)
        depth := max left.depth bracket.tail.depth + 1 }

/-- The set of a bracket that ends. -/
def close? (flags : Flags) (bracket : Bracket) : Option Nested := do
  let inner := bracket.settle flags
  let set := flags.folded inner.set
  return { set := ← if bracket.negated then flags.negated? set else some set
           depth := inner.depth + 1 }

def operate (flags : Flags) (operator : Char) (bracket : Bracket) : Bracket where
  negated := bracket.negated
  left := some (bracket.settle flags, operator)

/-- A bracket at its start: a circumflex negates it, and hyphens and a closing
bracket that stand first are themselves. -/
def open? (flags : Flags) (text : List Char) : Option (Bracket × List Char) := do
  let text := flags.skip text
  let (negated, text) :=
    match text with
    | '^' :: text => (true, flags.skip text)
    | text => (false, text)
  let (bracket, text) ← hyphens? text.length { negated } text
  match bracket.count, text with
  | 0, ']' :: rest => return (bracket.add ⟨← flags.range? ']' ']', 0⟩, flags.skip rest)
  | _, text => return (bracket, text)
where
  /-- Takes hyphens for themselves. -/
  hyphens? : Nat → Bracket → List Char → Option (Bracket × List Char)
    | fuel + 1, bracket, '-' :: rest => do
        hyphens? fuel (bracket.add ⟨← flags.range? '-' '-', 0⟩) (flags.skip rest)
    | _, bracket, text => some (bracket, text)

end Bracket

/-- One character or class inside a bracket, with what follows it. -/
def bracketItem? (flags : Flags) : List Char → Option (Escape × List Char)
  | [] => none
  | '\\' :: rest => escape? flags rest
  | c :: rest => some (.char c, rest)

/-- A character that may be an end of a range. -/
def Escape.char? (flags : Flags) : Escape → Option Char
  | .char c => some c
  | .byte c => if flags.ascii && 0x7F < c.toNat then none else some c
  | .set _ | .border _ => none

/-- What an item adds to a bracket. -/
def Escape.set? (flags : Flags) (item : Escape) : Option CharSet :=
  match item with
  | .set held => some held
  | item => do
      let c ← item.char? flags
      flags.range? c c

/-- Reads an item or a range inside a bracket, with what follows it. -/
def bracketRange? (flags : Flags) (text : List Char) : Option (CharSet × List Char) := do
  let (item, rest) ← bracketItem? flags text
  match flags.skip rest with
  | '-' :: rest =>
      let next := flags.peek rest
      if next == some ']' || next == some '-' then return (← item.set? flags, '-' :: rest)
      else
        let (other, rest) ← bracketItem? flags (flags.skip rest)
        return (← flags.range? (← item.char? flags) (← other.char? flags), rest)
  | rest => return (← item.set? flags, rest)

/-- Reads what stands inside brackets, the innermost bracket first, up to the
end of the outermost one. -/
def brackets? (flags : Flags) : Nat → List Bracket → List Char → Option (Nested × List Char)
  | 0, _, _ => none
  | _, [], _ => none
  | fuel + 1, bracket :: outer, text =>
      match flags.skip text with
      | [] => none
      | ']' :: rest => do
          let set ← bracket.close? flags
          match outer with
          | [] => return (set, rest)
          | next :: outer => brackets? flags fuel (next.add set :: outer) rest
      | '[' :: rest => do
          let known :=
            match rest with
            | ':' :: rest => named? rest
            | _ => none
          match known with
          | some (set, negated, rest) =>
              if !flags.ascii && flags.ignoreCase then none
              else
                let set := flags.folded set
                let set ← if negated then flags.negated? set else some set
                brackets? flags fuel (bracket.add ⟨set, 0⟩ :: outer) rest
          | none =>
              let (inner, rest) ← Bracket.open? flags rest
              brackets? flags fuel (inner :: bracket :: outer) rest
      | '&' :: '&' :: rest => brackets? flags fuel (bracket.operate flags '&' :: outer) rest
      | '-' :: '-' :: rest => brackets? flags fuel (bracket.operate flags '-' :: outer) rest
      | '~' :: '~' :: rest => brackets? flags fuel (bracket.operate flags '~' :: outer) rest
      | text => do
          let (set, rest) ← bracketRange? flags text
          brackets? flags fuel (bracket.add ⟨set, 0⟩ :: outer) rest

def class? (flags : Flags) (text : List Char) : Option (Nested × List Char) := do
  let (bracket, rest) ← Bracket.open? flags text
  brackets? flags (text.length + 1) [bracket] rest

end InterfaceAudit.Regex
