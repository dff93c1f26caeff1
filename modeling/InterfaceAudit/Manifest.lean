import InterfaceAudit.Assertion.Json

/-!
Contract: a manifest, which names a subject and lists assertions about it.

Owns: manifests, and their JSON form.

Does not own: the files that hold them.
-/

namespace InterfaceAudit

structure Manifest where
  subject : String
  assertions : List Assertion := []
deriving DecidableEq, Repr, Inhabited

namespace Manifest

open InterfaceAudit.Json (Value Draft Fault Schema Reader)

def toJson (manifest : Manifest) : Value :=
  .object [
    ("subject", .string manifest.subject),
    ("directives", Assertion.listToJson manifest.assertions)]

def schema (room : Nat) : Schema Draft Manifest where
  title := "struct AssertionManifest"
  fields := [
    .reading "subject" true (Reader.string room)
      (fun subject manifest => { manifest with subject }),
    .reading "directives" false (Reader.list Assertion.reader room)
      (fun assertions manifest => { manifest with assertions })]
  blank := default

def reader : Reader Manifest := Reader.record schema

def ofText (text : String) : Except Fault Manifest :=
  reader.document text

end Manifest

end InterfaceAudit
