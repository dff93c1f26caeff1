import InterfaceAudit.Diagnostic.Json

/-!
Contract: the result of a session.

Owns: the report, the counts it gives, and its JSON form.

Does not own: the session.
-/

namespace InterfaceAudit

/-- What a session found out about its subject. -/
structure Report where
  subject : String
  passed : Bool
  diagnostics : List Diagnostic
  /-- False if preparation failed, and no probe was run. -/
  environmentReady : Bool
  /-- The digest of the script, if one was made. -/
  probeDigest : Option String
  /-- The exit code of the probe, if it ran and ended by itself. -/
  exitCode : Option Int
  durationMs : Nat
deriving DecidableEq, Repr

namespace Report

def errorCount (report : Report) : Nat := Diagnostic.errorCount report.diagnostics

def noteCount (report : Report) : Nat := Diagnostic.noteCount report.diagnostics

def toJson (report : Report) : Json.Value :=
  .object [
    ("subject", .string report.subject),
    ("passed", .boolean report.passed),
    ("environment_ready", .boolean report.environmentReady),
    ("exit_code", (report.exitCode.map Json.Value.integer).getD .null),
    ("duration_ms", .integer report.durationMs),
    ("probe_digest", .optional report.probeDigest),
    ("diagnostics", .list (report.diagnostics.map Diagnostic.toJson))]

end Report

end InterfaceAudit
