import InterfaceAudit.Host.Attempt
import InterfaceAudit.Manifest

/-!
Contract: manifests in files.

Owns: reading a manifest from a file, and which of two failures it ends in.

Does not own: the form of a manifest.
-/

namespace InterfaceAudit.Manifest

/-- The text of bytes that must be UTF-8. -/
def textOf (content : Bytes) : Except IoFault String :=
  match Utf8.decode? content with
  | some text => .ok (String.ofList text)
  | none => .error .notUtf8

def ofContent (content : Bytes) : Except Failure Manifest := do
  let text ← (textOf content).mapError Failure.io
  (ofText text).mapError Failure.manifest

def load (path : Path) : Attempt Manifest := do
  let content ← Attempt.orFail .io (.readFile path)
  ExceptT.mk (pure (ofContent content))

end InterfaceAudit.Manifest
