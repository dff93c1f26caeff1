/-!
Contract: UTF-8 between byte strings and text.

Owns:
- encoding of text;
- lossy decoding, which puts U+FFFD for every maximal ill-formed stretch;
- strict decoding, which refuses any ill-formed byte.

Does not own: files, or any choice of which decoding applies where.
-/

namespace InterfaceAudit

/-- A byte string: file contents, captured output or an unchecked file name. -/
abbrev Bytes := List UInt8

namespace Utf8

def encode (text : List Char) : Bytes :=
  text.flatMap String.utf8EncodeChar

def ofString (text : String) : Bytes :=
  encode text.toList

/-- Where a decoder stands between two bytes: at a boundary, or inside a
sequence that owes `owed + 1` bytes, the next of them in `low … high`. -/
inductive State where
  | boundary
  | inside (owed : Nat) (low high : Nat) (value : Nat)
deriving DecidableEq, Repr

/-- The mark put for bytes that are no UTF-8. -/
def replacement : Char := Char.ofNat 0xFFFD

/-- What a byte at a boundary gives: a character, or the start of a sequence. -/
def start (byte : Nat) : Option Char × State :=
  if byte < 0x80 then (some (Char.ofNat byte), .boundary)
  else if byte < 0xC2 then (some replacement, .boundary)
  else if byte < 0xE0 then (none, .inside 0 0x80 0xBF (byte - 0xC0))
  else if byte == 0xE0 then (none, .inside 1 0xA0 0xBF 0)
  else if byte == 0xED then (none, .inside 1 0x80 0x9F 0xD)
  else if byte < 0xF0 then (none, .inside 1 0x80 0xBF (byte - 0xE0))
  else if byte == 0xF0 then (none, .inside 2 0x90 0xBF 0)
  else if byte < 0xF4 then (none, .inside 2 0x80 0xBF (byte - 0xF0))
  else if byte == 0xF4 then (none, .inside 2 0x80 0x8F 4)
  else (some replacement, .boundary)

/-- One byte: the characters it completes, and the state after it. A byte that
cannot continue a sequence ends it with a mark and is then read afresh. -/
def step : State → UInt8 → List Char × State
  | .boundary, byte =>
      let (completed, state) := start byte.toNat
      (completed.toList, state)
  | .inside owed low high value, byte =>
      if low ≤ byte.toNat && byte.toNat ≤ high then
        let value := value * 64 + (byte.toNat - 0x80)
        match owed with
        | 0 => ([Char.ofNat value], .boundary)
        | owed + 1 => ([], .inside owed 0x80 0xBF value)
      else
        let (completed, state) := start byte.toNat
        (replacement :: completed.toList, state)

/-- What the end of input adds: a mark for a sequence cut short. -/
def State.finish : State → List Char
  | .boundary => []
  | .inside .. => [replacement]

/-- Decodes from a state, collecting characters in reverse. -/
def decodeFrom : State → List Char → Bytes → List Char
  | state, collected, [] => collected.reverse ++ state.finish
  | state, collected, byte :: rest =>
      let (completed, next) := step state byte
      decodeFrom next (completed.reverse ++ collected) rest

/-- Lossy decoding: total, with one U+FFFD per maximal ill-formed stretch. -/
def decodeLossy (bytes : Bytes) : List Char :=
  decodeFrom .boundary [] bytes

def toStringLossy (bytes : Bytes) : String :=
  String.ofList (decodeLossy bytes)

/-- Strict decoding: `none` unless the bytes are the UTF-8 form of a text. -/
def decode? (bytes : Bytes) : Option (List Char) :=
  let text := decodeLossy bytes
  if encode text = bytes then some text else none

end Utf8

end InterfaceAudit
