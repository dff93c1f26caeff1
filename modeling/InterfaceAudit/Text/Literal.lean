import InterfaceAudit.Text.Blank

/-!
Contract: double-quoted literals of the script and dependency-file language.

Owns:
- the escape of one character and the literal of a text;
- the fact that a literal is printable on one line rests on `escape` alone.

Does not own: what the literals are used for.
-/

namespace InterfaceAudit.Literal

/-- Lower-case hexadecimal digits of a code point, without leading zeros. -/
def hexDigits (code : Nat) : List Char :=
  Nat.toDigits 16 code

/-- The escape that names a code point, for controls without a letter. -/
def codePointEscape (c : Char) : List Char :=
  ['\\', 'u', '{'] ++ hexDigits c.toNat ++ ['}']

/-- A character as it is written inside a literal. The backslash and the quote
would end or bend the literal, the number sign could open an interpolation,
and controls would break the line. -/
def escape (c : Char) : List Char :=
  match c with
  | '\\' => ['\\', '\\']
  | '"' => ['\\', '"']
  | '#' => ['\\', '#']
  | '\n' => ['\\', 'n']
  | '\r' => ['\\', 'r']
  | '\t' => ['\\', 't']
  | c => if Text.isControl c then codePointEscape c else [c]

def quoteChars (text : List Char) : List Char :=
  '"' :: (text.flatMap escape ++ ['"'])

def quote (text : String) : String :=
  String.ofList (quoteChars text.toList)

end InterfaceAudit.Literal
