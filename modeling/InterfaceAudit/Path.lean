import InterfaceAudit.Json.Reader

/-!
Contract: file system paths.

Owns:
- paths as byte strings, which need not be UTF-8;
- the text in which a path is shown and stored;
- joining of paths.

Does not own: which files exist.
-/

namespace InterfaceAudit

/-- A path: any bytes. -/
structure Path where
  bytes : Bytes
deriving DecidableEq, Repr, Inhabited

namespace Path

def ofString (text : String) : Path := ⟨Utf8.ofString text⟩

/-- The path as text, with a mark for what is no UTF-8. -/
def shown (path : Path) : String := Utf8.toStringLossy path.bytes

def isAbsolute (path : Path) : Bool :=
  match path.bytes with
  | first :: _ => first == 0x2F
  | [] => false

/-- A path below another, or the second alone if that starts at the root. -/
def join (base path : Path) : Path :=
  if path.isAbsolute then path
  else if base.bytes.isEmpty then path
  else if base.bytes.getLast? == some 0x2F then ⟨base.bytes ++ path.bytes⟩
  else ⟨base.bytes ++ 0x2F :: path.bytes⟩

def child (base : Path) (name : String) : Path :=
  base.join (ofString name)

def toJson (path : Path) : Json.Value := .string path.shown

def reader : Json.Reader Path := fun room draft =>
  (Json.Reader.text "path string" room draft).map ofString

end Path

end InterfaceAudit
