import InterfaceAudit.Text.Utf8

/-!
Contract: text for a terminal, reduced to what can be read.

Owns: the removal of control characters and escape sequences, where a sequence
that is never ended takes the rest of the text with it. White space inside a
sequence is kept, and so is whatever follows it up to the next character that
cannot be read; there the sequence goes on.

Does not own: which texts are reduced.
-/

namespace InterfaceAudit.Terminal

/-- Where a text is inside an escape sequence. -/
inductive Mode where
  | plain
  | escape
  /-- Behind the escape character and signs that announce one more. -/
  | announced
  /-- Among the parameters of a control sequence. -/
  | control
  /-- Inside a string that a bell may end. -/
  | title
  /-- At the head of a string for a device. -/
  | device
  | deviceNumbers
  | deviceMarks
  /-- Inside a string that is not shown. -/
  | hidden
deriving DecidableEq, Repr

/-- White space that is kept wherever it is not part of a string. -/
def isKeptSpace (c : Char) : Bool :=
  c == '\t' || c == '\n' || c == '\x0c' || c == '\r'

def isReadable (mode : Mode) (c : Char) : Bool :=
  match mode with
  | .plain => isKeptSpace c || (' ' ≤ c && c < '\x7f')
  | .escape | .announced | .control => isKeptSpace c
  | _ => false

/-- The mode behind an ASCII character, if it is another one. -/
def changed? (mode : Mode) (c : Char) : Option Mode :=
  if c == '\x1b' then some .escape
  else if c == '\x18' || c == '\x1a' then some .plain
  else
    match mode with
    | .plain | .hidden => none
    | .title => if c == '\x07' then some .plain else none
    | .escape =>
        if c == '[' then some .control
        else if c == ']' then some .title
        else if c == 'P' then some .device
        else if c == 'X' || c == '^' || c == '_' then some .hidden
        else if ' ' ≤ c && c ≤ '/' then some .announced
        else if '0' ≤ c && c ≤ '~' then some .plain
        else none
    | .announced => if '0' ≤ c && c ≤ '~' then some .plain else none
    | .control => if '@' ≤ c && c ≤ '~' then some .plain else none
    | .device =>
        if ' ' ≤ c && c ≤ '/' then some .deviceMarks
        else if '0' ≤ c && c ≤ '?' then some .deviceNumbers
        else if '@' ≤ c && c ≤ '~' then some .hidden
        else none
    | .deviceNumbers =>
        if ' ' ≤ c && c ≤ '/' then some .deviceMarks
        else if '<' ≤ c && c ≤ '~' then some .hidden
        else none
    | .deviceMarks => if '0' ≤ c && c ≤ '~' then some .hidden else none

/-- The byte that ends a string, also as part of a character. -/
def terminator : UInt8 := 0x9c

/-- Takes one character: the mode behind it, and whether it can be read. While
characters are read the mode rests. -/
def step (mode : Mode) (isReading : Bool) (c : Char) : Mode × Bool :=
  if 0x80 ≤ c.toNat then
    if isReading || mode == .plain then (.plain, true)
    else if mode == .hidden && (Utf8.ofString (String.singleton c)).contains terminator then
      (.plain, false)
    else (mode, false)
  else if isReading && isReadable .plain c then (mode, true)
  else
    let mode := if isReading then (changed? .plain c).getD mode else mode
    ((changed? mode c).getD mode, isReadable mode c)

def readable : Mode → Bool → List Char → List Char
  | _, _, [] => []
  | mode, isReading, c :: rest =>
      let (mode, isReading) := step mode isReading c
      if isReading then c :: readable mode isReading rest else readable mode isReading rest

/-- A text without control characters and escape sequences. -/
def reduce (text : String) : String :=
  String.ofList (readable .plain false text.toList)

end InterfaceAudit.Terminal
