import InterfaceAudit.Path

/-!
Contract: the settings of a session.

Owns:
- the settings and their defaults;
- command lines given as text, which are split at blanks and at nothing else;
- settings as JSON, where every field may be left out.

Does not own: the command line of the program.
-/

namespace InterfaceAudit

/-- How a session prepares and runs a probe. -/
structure Settings where
  /-- The command that runs a script, whose file name is appended. -/
  entryCommand : List String := ["bundle", "exec", "ruby"]
  installCommand : List String := ["bundle", "install"]
  /-- How long a command may run; zero means without end. -/
  timeoutSecs : UInt64 := 300
  /-- The directory that working directories are made in. -/
  workRoot : Option Path := none
  /-- Whether the working directory outlives the run. -/
  keepWorkdir : Bool := false
deriving DecidableEq, Repr, Inhabited

namespace Settings

open InterfaceAudit.Json (Value Draft Schema Reader)

def withEntryCommandLine (settings : Settings) (line : String) : Settings :=
  { settings with entryCommand := Text.wordList line }

def withInstallCommandLine (settings : Settings) (line : String) : Settings :=
  { settings with installCommand := Text.wordList line }

/-- The JSON value of settings, with all their fields. -/
def toJson (settings : Settings) : Value :=
  .object [
    ("entry_command", .strings settings.entryCommand),
    ("install_command", .strings settings.installCommand),
    ("timeout_secs", .integer settings.timeoutSecs.toNat),
    ("work_root", (settings.workRoot.map Path.toJson).getD .null),
    ("keep_workdir", .boolean settings.keepWorkdir)]

def schema (room : Nat) : Schema Draft Settings where
  title := "struct HarnessConfig"
  fields := [
    .reading "entry_command" false (Reader.list Reader.string room)
      (fun entryCommand settings => { settings with entryCommand }),
    .reading "install_command" false (Reader.list Reader.string room)
      (fun installCommand settings => { settings with installCommand }),
    .reading "timeout_secs" false (Reader.count room)
      (fun timeoutSecs settings => { settings with timeoutSecs }),
    .reading "work_root" false (Reader.optional Path.reader room)
      (fun workRoot settings => { settings with workRoot }),
    .reading "keep_workdir" false (Reader.flag room)
      (fun keepWorkdir settings => { settings with keepWorkdir })]
  blank := {}

def reader : Reader Settings := Reader.record schema

end Settings

end InterfaceAudit
