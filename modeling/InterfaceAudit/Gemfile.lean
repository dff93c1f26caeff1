import InterfaceAudit.Path
import InterfaceAudit.Text.Literal

/-!
Contract: the file that lists the gems a probe needs.

Owns:
- gem requirements, as JSON and as lines of the file;
- the file as a value, and its text.

Does not own: installing the gems.
-/

namespace InterfaceAudit

/-- A gem, with an optional version constraint and an optional local checkout. -/
structure Gem where
  name : String
  version : Option String := none
  path : Option Path := none
deriving DecidableEq, Repr, Inhabited

namespace Gem

open InterfaceAudit.Json (Value Draft Schema Reader)

def literal (text : String) : List Char :=
  Literal.quoteChars text.toList

def line (gem : Gem) : List Char :=
  "gem ".toList ++ literal gem.name ++
    (match gem.version with
      | none => []
      | some version => [',', ' '] ++ literal version) ++
    (match gem.path with
      | none => []
      | some path => ", path: ".toList ++ literal path.shown) ++
    ['\n']

/-- The JSON value of a gem, with all its fields. -/
def toJson (gem : Gem) : Value :=
  .object [
    ("name", .string gem.name),
    ("version", .optional gem.version),
    ("path", (gem.path.map Path.toJson).getD .null)]

def schema (room : Nat) : Schema Draft Gem where
  title := "struct GemRequirement"
  fields := [
    .reading "name" true (Reader.string room) (fun name gem => { gem with name }),
    .reading "version" false (Reader.optional Reader.string room)
      (fun version gem => { gem with version }),
    .reading "path" false (Reader.optional Path.reader room)
      (fun path gem => { gem with path })]
  blank := default

def reader : Reader Gem := Reader.record schema

end Gem

/-- The file: where gems come from, and which are needed. -/
structure Gemfile where
  source : String
  gems : List Gem
deriving DecidableEq, Repr

namespace Gemfile

def chars (file : Gemfile) : List Char :=
  "source ".toList ++ Gem.literal file.source ++ ['\n', '\n'] ++ file.gems.flatMap Gem.line

def text (file : Gemfile) : String :=
  String.ofList file.chars

end Gemfile

end InterfaceAudit
