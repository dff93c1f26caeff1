import InterfaceAudit.Json.Numeral
import InterfaceAudit.Text.Utf8

/-!
Contract: the tokens of a JSON text.

Owns:
- the lexical grammar as a machine that takes one character at a time;
- the two readings of a string between its quotes: its text, which must be
  well formed, and the mere check that it can be passed over.

Does not own: how tokens are nested. Tokens say what stands in the text; where
the lexical grammar breaks, the last token says how, and no token follows.
-/

namespace InterfaceAudit.Json

inductive Word where
  | null
  | yes
  | no
deriving DecidableEq, Repr

/-- What stands between two quotes, still escaped. `beyond` counts the bytes
from the closing quote to the end of the text, up to four, and is zero if the
text ends inside the string. -/
structure Enclosed where
  body : List Char
  beyond : Nat
deriving DecidableEq, Repr

/-- A token. A broken word or numeral tells whether the text ended inside it. -/
inductive Token where
  | openList
  | closeList
  | openObject
  | closeObject
  | comma
  | colon
  | word (word : Word)
  | brokenWord (atEnd : Bool)
  | number (numeral : Numeral)
  | brokenNumber (atEnd : Bool)
  | string (text : Enclosed)
  | stray
deriving DecidableEq, Repr

/-! ## Strings -/

namespace Enclosed

/-- The value of a hexadecimal digit of either case. -/
def hexValue? (c : Char) : Option Nat :=
  if '0' ≤ c ∧ c ≤ '9' then some (c.toNat - 48)
  else if 'a' ≤ c ∧ c ≤ 'f' then some (c.toNat - 87)
  else if 'A' ≤ c ∧ c ≤ 'F' then some (c.toNat - 55)
  else none

def hexUnit? (a b c d : Char) : Option Nat := do
  let a ← hexValue? a
  let b ← hexValue? b
  let c ← hexValue? c
  let d ← hexValue? d
  return ((a * 16 + b) * 16 + c) * 16 + d

/-- The first half of a surrogate pair. -/
def isHighSurrogate (unit : Nat) : Bool := 0xD800 ≤ unit && unit ≤ 0xDBFF

/-- The second half of a surrogate pair. -/
def isLowSurrogate (unit : Nat) : Bool := 0xDC00 ≤ unit && unit ≤ 0xDFFF

def pairChar (high low : Nat) : Char :=
  Char.ofNat ((high - 0xD800) * 0x400 + (low - 0xDC00) + 0x10000)

def letterEscape? : Char → Option Char
  | '"' => some '"'
  | '\\' => some '\\'
  | '/' => some '/'
  | 'b' => some '\x08'
  | 'f' => some '\x0c'
  | 'n' => some '\n'
  | 'r' => some '\r'
  | 't' => some '\t'
  | _ => none

/-- An escape of a code unit that has not four digits in the string: the text
may end too early for it, or something else may stand there. -/
def shortEscape (beyond : Nat) (rest : List Char) : Fault :=
  if (Utf8.encode rest).length + beyond < 4 then .cutString else .invalidEscape

def readBody (beyond : Nat) : List Char → Except Fault (List Char)
  | [] => if beyond == 0 then .error .cutString else .ok []
  | '\\' :: 'u' :: a :: b :: c :: d :: rest =>
      match hexUnit? a b c d with
      | none => .error .invalidEscape
      | some unit =>
          if isLowSurrogate unit then .error .loneSurrogate
          else if isHighSurrogate unit then
            match rest with
            | [] => .error (if beyond == 0 then .cutString else .unfinishedSurrogate)
            | ['\\'] => .error .cutString
            | '\\' :: 'u' :: e :: f :: g :: h :: rest =>
                match hexUnit? e f g h with
                | none => .error .invalidEscape
                | some low =>
                    if isLowSurrogate low then
                      (readBody beyond rest).map (pairChar unit low :: ·)
                    else .error .loneSurrogate
            | '\\' :: 'u' :: short => .error (shortEscape beyond short)
            | _ => .error .unfinishedSurrogate
          else (readBody beyond rest).map (Char.ofNat unit :: ·)
  | '\\' :: 'u' :: short => .error (shortEscape beyond short)
  | ['\\'] => .error .cutString
  | '\\' :: letter :: rest =>
      match letterEscape? letter with
      | none => .error .invalidEscape
      | some c => (readBody beyond rest).map (c :: ·)
  | c :: rest =>
      if c.toNat < 0x20 then .error .controlCharacter
      else (readBody beyond rest).map (c :: ·)

/-- Passes over an enclosed body: as `readBody`, but surrogates need no
partner. -/
def skipBody (beyond : Nat) : List Char → Except Fault Unit
  | [] => if beyond == 0 then .error .cutString else .ok ()
  | '\\' :: 'u' :: a :: b :: c :: d :: rest =>
      match hexUnit? a b c d with
      | none => .error .invalidEscape
      | some _ => skipBody beyond rest
  | '\\' :: 'u' :: short => .error (shortEscape beyond short)
  | ['\\'] => .error .cutString
  | '\\' :: letter :: rest =>
      match letterEscape? letter with
      | none => .error .invalidEscape
      | some _ => skipBody beyond rest
  | c :: rest =>
      if c.toNat < 0x20 then .error .controlCharacter else skipBody beyond rest

def read (text : Enclosed) : Except Fault String :=
  (readBody text.beyond text.body).map String.ofList

def skip (text : Enclosed) : Except Fault Unit :=
  skipBody text.beyond text.body

end Enclosed

/-! ## The lexical machine -/

/-- The part of a numeral that the last character belongs to. -/
inductive NumeralPart where
  | sign
  | leadingZero
  | whole
  | point
  | fraction
  | mark
  | markSign
  | exponent
deriving DecidableEq, Repr

/-- A numeral read so far; digit lists are reversed. -/
structure PartialNumeral where
  part : NumeralPart
  negative : Bool := false
  whole : List Char := []
  fraction? : Option (List Char) := none
  exponent? : Option ExponentPart := none
deriving DecidableEq, Repr

namespace PartialNumeral

/-- The numeral, if it may end here. -/
def finish? (n : PartialNumeral) : Option Numeral :=
  match n.part with
  | .sign | .point | .mark | .markSign => none
  | _ =>
      some {
        negative := n.negative
        whole := n.whole.reverse
        fraction? := n.fraction?.map List.reverse
        exponent? := n.exponent?.map (fun e => { e with digits := e.digits.reverse }) }

def pushExponent (n : PartialNumeral) (c : Char) : PartialNumeral :=
  { n with
    part := .exponent
    exponent? := n.exponent?.map (fun e => { e with digits := c :: e.digits }) }

/-- What a character does to a numeral: `some` if it belongs to it. -/
def push? (n : PartialNumeral) (c : Char) : Option PartialNumeral :=
  let startsFraction := c == '.'
  let startsExponent := c == 'e' || c == 'E'
  let withFraction : PartialNumeral := { n with part := .point, fraction? := some [] }
  let withExponent : PartialNumeral := { n with part := .mark, exponent? := some ⟨false, []⟩ }
  match n.part with
  | .sign =>
      if c == '0' then some { n with part := .leadingZero, whole := [c] }
      else if c.isDigit then some { n with part := .whole, whole := [c] }
      else none
  | .leadingZero =>
      if startsFraction then some withFraction
      else if startsExponent then some withExponent
      else none
  | .whole =>
      if c.isDigit then some { n with whole := c :: n.whole }
      else if startsFraction then some withFraction
      else if startsExponent then some withExponent
      else none
  | .point | .fraction =>
      if c.isDigit then
        some { n with part := .fraction, fraction? := n.fraction?.map (c :: ·) }
      else if startsExponent && n.part == .fraction then some withExponent
      else none
  | .mark =>
      if c == '+' then some { n with part := .markSign }
      else if c == '-' then
        some { n with part := .markSign, exponent? := some ⟨true, []⟩ }
      else if c.isDigit then some (n.pushExponent c)
      else none
  | .markSign | .exponent => if c.isDigit then some (n.pushExponent c) else none

/-- Whether a character that does not belong to a numeral spoils it: one that
may not end here, or a digit after a leading zero. -/
def spoiledBy (n : PartialNumeral) (c : Char) : Bool :=
  n.finish?.isNone || (n.part == .leadingZero && c.isDigit)

end PartialNumeral

/-- Where the lexical machine stands. -/
inductive LexState where
  | between
  | inWord (word : Word) (left : List Char)
  | inNumber (numeral : PartialNumeral)
  | inString (reversed : List Char) (escaped : Bool)
deriving DecidableEq, Repr

namespace Token

def isSpace (c : Char) : Bool :=
  c == ' ' || c == '\t' || c == '\n' || c == '\r'

/-- What a character between tokens gives: perhaps a token, and a state. -/
def start (c : Char) : Option Token × LexState :=
  if isSpace c then (none, .between)
  else if c.isDigit then
    (none, .inNumber { part := if c == '0' then .leadingZero else .whole, whole := [c] })
  else
    match c with
    | '"' => (none, .inString [] false)
    | '-' => (none, .inNumber { part := .sign, negative := true })
    | 'n' => (none, .inWord .null ['u', 'l', 'l'])
    | 't' => (none, .inWord .yes ['r', 'u', 'e'])
    | 'f' => (none, .inWord .no ['a', 'l', 's', 'e'])
    | '[' => (some .openList, .between)
    | ']' => (some .closeList, .between)
    | '{' => (some .openObject, .between)
    | '}' => (some .closeObject, .between)
    | ',' => (some .comma, .between)
    | ':' => (some .colon, .between)
    | _ => (some .stray, .between)

/-- Adds the token that a character between tokens gives. -/
def push (tokens : List Token) (token? : Option Token) : List Token :=
  match token? with
  | none => tokens
  | some token => token :: tokens

/-- The bytes from a closing quote on, counted up to four. -/
def bytesBeyond (rest : List Char) : Nat :=
  min 4 (1 + (Utf8.encode (rest.take 3)).length)

/-- Tokens from a state on, behind the reversed tokens already found. -/
def scanFrom : LexState → List Token → List Char → List Token
  | .between, tokens, [] => tokens.reverse
  | .inWord _ _, tokens, [] => (.brokenWord true :: tokens).reverse
  | .inNumber n, tokens, [] =>
      match n.finish? with
      | some numeral => (.number numeral :: tokens).reverse
      | none => (.brokenNumber true :: tokens).reverse
  | .inString body _, tokens, [] => (.string ⟨body.reverse, 0⟩ :: tokens).reverse
  | .between, tokens, c :: rest =>
      let (token?, state) := start c
      scanFrom state (push tokens token?) rest
  | .inWord spelled left, tokens, c :: rest =>
      match left with
      | [] => (.brokenWord false :: tokens).reverse
      | [last] =>
          if c == last then scanFrom .between (.word spelled :: tokens) rest
          else (.brokenWord false :: tokens).reverse
      | next :: left =>
          if c == next then scanFrom (.inWord spelled left) tokens rest
          else (.brokenWord false :: tokens).reverse
  | .inNumber n, tokens, c :: rest =>
      match n.push? c with
      | some n => scanFrom (.inNumber n) tokens rest
      | none =>
          if n.spoiledBy c then (.brokenNumber false :: tokens).reverse
          else
            match n.finish? with
            | none => (.brokenNumber false :: tokens).reverse
            | some numeral =>
                let (token?, state) := start c
                scanFrom state (push (.number numeral :: tokens) token?) rest
  | .inString body escaped, tokens, c :: rest =>
      if escaped then scanFrom (.inString (c :: body) false) tokens rest
      else if c == '"' then
        scanFrom .between (.string ⟨body.reverse, bytesBeyond rest⟩ :: tokens) rest
      else scanFrom (.inString (c :: body) (c == '\\')) tokens rest

def scan (text : List Char) : List Token :=
  scanFrom .between [] text

end Token

end InterfaceAudit.Json
