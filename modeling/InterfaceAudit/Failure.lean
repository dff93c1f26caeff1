import InterfaceAudit.Json.Fault

/-!
Contract: why a session could not be carried out.

Owns:
- the faults of the operating system that matter here;
- the failures of a session, apart from failed checks, which are no failure;
- the wording of each, and which of them blame the configuration.

Does not own: diagnostics of a probe that ran.
-/

namespace InterfaceAudit

/-- The causes that the operating system names by number. -/
inductive SystemError where
  | notPermitted
  | notFound
  | noSuchProcess
  | interrupted
  | argumentsTooLong
  | notExecutableFormat
  | badDescriptor
  | noChildren
  | accessDenied
  | busy
  | exists
  | notADirectory
  | isADirectory
  | invalidArgument
  | noSpace
  | notSeekable
  | brokenPipe
  | nameTooLong
  | notEmpty
  | tooManyLinks
deriving DecidableEq, Repr

namespace SystemError

/-- The number of a cause. -/
def code : SystemError → Nat
  | .notPermitted => 1
  | .notFound => 2
  | .noSuchProcess => 3
  | .interrupted => 4
  | .argumentsTooLong => 7
  | .notExecutableFormat => 8
  | .badDescriptor => 9
  | .noChildren => 10
  | .accessDenied => 13
  | .busy => 16
  | .exists => 17
  | .notADirectory => 20
  | .isADirectory => 21
  | .invalidArgument => 22
  | .noSpace => 28
  | .notSeekable => 29
  | .brokenPipe => 32
  | .nameTooLong => 36
  | .notEmpty => 39
  | .tooManyLinks => 40

/-- The name of a cause. -/
def text : SystemError → String
  | .notPermitted => "Operation not permitted"
  | .notFound => "No such file or directory"
  | .noSuchProcess => "No such process"
  | .interrupted => "Interrupted system call"
  | .argumentsTooLong => "Argument list too long"
  | .notExecutableFormat => "Exec format error"
  | .badDescriptor => "Bad file descriptor"
  | .noChildren => "No child processes"
  | .accessDenied => "Permission denied"
  | .busy => "Device or resource busy"
  | .exists => "File exists"
  | .notADirectory => "Not a directory"
  | .isADirectory => "Is a directory"
  | .invalidArgument => "Invalid argument"
  | .noSpace => "No space left on device"
  | .notSeekable => "Illegal seek"
  | .brokenPipe => "Broken pipe"
  | .nameTooLong => "File name too long"
  | .notEmpty => "Directory not empty"
  | .tooManyLinks => "Too many levels of symbolic links"

end SystemError

/-- Why an operation on files or programs did not succeed. -/
inductive IoFault where
  | system (cause : SystemError)
  /-- A file that should be text is no UTF-8. -/
  | notUtf8
  | nulInCommand
  | nulInPath
  /-- Any other cause, by its text. -/
  | other (text : String)
deriving DecidableEq, Repr

def IoFault.message : IoFault → String
  | .system cause => cause.text ++ " (os error " ++ toString cause.code ++ ")"
  | .notUtf8 => "stream did not contain valid UTF-8"
  | .nulInCommand => "nul byte found in provided data"
  | .nulInPath => "file name contained an unexpected NUL byte"
  | .other text => text

/-- Why a session could not be carried out. -/
inductive Failure where
  /-- The program of a command is nowhere to be found. -/
  | commandNotFound (command : String)
  /-- A command without a program. -/
  | emptyCommand
  | workDirectory (cause : IoFault)
  /-- A program is there but cannot be started. -/
  | spawn (command : String) (cause : IoFault)
  /-- A command ran longer than it may. -/
  | timedOut (secs : UInt64)
  /-- A probe did not end by itself. -/
  | terminated (signal : Option Int)
  /-- A session was run for a second time. -/
  | consumed (subject : String)
  /-- A manifest cannot be read. -/
  | manifest (cause : Json.Fault)
  /-- A file cannot be read or written. -/
  | io (cause : IoFault)
deriving DecidableEq, Repr

namespace Failure

/-- A number that may be missing, as it is shown. -/
def optionalNumber : Option Int → String
  | none => "None"
  | some number => "Some(" ++ toString number ++ ")"

def message : Failure → String
  | .commandNotFound command => "command `" ++ command ++ "` not found in PATH"
  | .emptyCommand => "entry command is empty"
  | .workDirectory cause => "cannot create probe working directory: " ++ cause.message
  | .spawn command cause => "failed to spawn `" ++ command ++ "`: " ++ cause.message
  | .timedOut secs => "probe timed out after " ++ toString secs.toNat ++ " seconds"
  | .terminated signal => "probe terminated abnormally (signal " ++ optionalNumber signal ++ ")"
  | .consumed subject => "validation session for `" ++ subject ++ "` has already been run"
  | .manifest cause => "invalid assertion manifest: " ++ cause.message
  | .io cause => "IO error: " ++ cause.message

/-- The text of the cause underneath a failure, if it has one. -/
def cause? : Failure → Option String
  | .workDirectory cause | .spawn _ cause | .io cause => some cause.message
  | .manifest cause => some cause.message
  | _ => none

def isConfiguration : Failure → Bool
  | .commandNotFound _ | .emptyCommand | .workDirectory _ => true
  | _ => false

/-- The failure of a command that could not be started. -/
def ofSpawn (command : String) (cause : IoFault) : Failure :=
  if cause == .system .notFound then .commandNotFound command else .spawn command cause

end Failure

end InterfaceAudit
