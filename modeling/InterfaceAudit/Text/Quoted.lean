import InterfaceAudit.Text.Literal
import InterfaceAudit.Text.Printable

/-!
Contract: a text shown between double quotes inside a message.

Owns: the choice of characters that are escaped, and their escapes.

Does not own: literals that are read back by another program.
-/

namespace InterfaceAudit.Text

def quotedChar (c : Char) : List Char :=
  match c with
  | '\x00' => ['\\', '0']
  | '\t' => ['\\', 't']
  | '\r' => ['\\', 'r']
  | '\n' => ['\\', 'n']
  | '"' => ['\\', '"']
  | '\\' => ['\\', '\\']
  | c => if isPrintable c then [c] else Literal.codePointEscape c

/-- A text between double quotes, with unprintable characters escaped. -/
def quoted (text : String) : String :=
  String.ofList ('"' :: (text.toList.flatMap quotedChar ++ ['"']))

end InterfaceAudit.Text
