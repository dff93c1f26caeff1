import InterfaceAudit.Host.Action
import InterfaceAudit.Machine.Tool.Catalogue

/-!
Contract: starting a command and running it to its end.

Owns:
- the causes that prevent a start, in the order in which they are found;
- the process that a command starts as, with its outputs and its input;
- the time limit of a command, and what becomes of one that runs too long.

Does not own: the requests of a host.
-/

namespace InterfaceAudit.Spawn

/-- What a command starts from. -/
structure Site where
  kernel : Kernel
  /-- The directory that relative paths start from. -/
  directory : Nat
  environment : List (Octets × Octets)
  /-- Whether a limited command that waits at all runs too long. -/
  impatient : Bool

def second : Nat := 1000000

/-- How long an impatient host lets a limited command go on. -/
def patience : Nat := second / 50

/-- The words of a command: the program and its arguments. -/
def words (command : Command) : List Octets :=
  (command.program :: command.arguments).map Octets.ofString

def holdsNul (command : Command) : Bool :=
  let texts := words command ++ [Octets.ofBytes command.directory.bytes] ++
    command.environment.map fun (name, value) => Octets.ofString name ++ Octets.ofBytes value.bytes
  texts.any (·.contains '\x00')

def environment (site : Site) (command : Command) : List (Octets × Octets) :=
  let own := command.environment.map fun (name, value) =>
    (Octets.ofString name, Octets.ofBytes value.bytes)
  own ++ site.environment.filter (fun held => (own.lookup held.1).isNone)

/-- The paths at which a program is looked for. -/
def candidates (environment : List (Octets × Octets)) (program : Octets) :
    Except SystemError (List Octets) :=
  if program.isEmpty then .error .notFound
  else if program.contains '/' then .ok [program]
  else if Disk.maxName < program.length then .error .nameTooLong
  else
    let folders := (environment.lookup (Octets.ofString "PATH")).getD Tool.standardPath
    .ok ((Octets.splitAt ':' folders).map fun folder =>
      if folder.isEmpty then program else Tool.below folder program)

/-- The program that the first of some paths leads to, with its arguments. If none
does, a path that must not be used counts most, and then the last one. -/
def findAmong (disk : Disk) (directory : Nat) (arguments : List Octets) :
    List Octets → SystemError → Except SystemError (String × List Octets)
  | [], cause => .error cause
  | path :: paths, found =>
      match Kernel.programOf disk directory Kernel.maxInterpreters path arguments with
      | .ok program => .ok program
      | .error .accessDenied => findAmong disk directory arguments paths .accessDenied
      | .error cause =>
          if cause == .notFound || cause == .notADirectory then
            findAmong disk directory arguments paths
              (if found == .accessDenied then found else cause)
          else .error cause

/-- The program that a path alone leads to. -/
def findAt (disk : Disk) (directory : Nat) (arguments : List Octets) (path : Octets) :
    Except SystemError (String × List Octets) :=
  Kernel.programOf disk directory Kernel.maxInterpreters path arguments

/-- The program that a command starts with its arguments, and the directory that
it runs in. -/
def find (site : Site) (command : Command) :
    Except IoFault ((String × List Octets) × Nat) :=
  if holdsNul command then .error .nulInCommand
  else
    Except.mapError IoFault.system do
      let disk := site.kernel.disk
      let directory ← disk.findDirectory site.directory (Octets.ofBytes command.directory.bytes)
      let arguments := words command
      let program ←
        match ← candidates (environment site command) (Octets.ofString command.program) with
        | [path] => findAt disk directory arguments path
        | paths => findAmong disk directory arguments paths .notFound
      if Kernel.isTooLong arguments then throw .argumentsTooLong
      return (program, directory)

/-- The time by which a command that may run for so many seconds must have ended. -/
def deadline (site : Site) (secs : UInt64) : Nat :=
  site.kernel.now + (if site.impatient then patience else secs.toNat * second)

def start (site : Site) (command : Command) (program : String × List Octets) (directory : Nat) :
    Kernel :=
  let kernel := { site.kernel with
    command := site.kernel.command + 1
    first := site.kernel.nextProcess
    nextProcess := site.kernel.nextProcess + 1
    firstEnding := none
    written := [] }
  let null := (kernel.disk.find true Disk.root (Octets.ofString "/dev/null")).toOption.getD Disk.root
  let (input, kernel) := kernel.addFile { channel := .node null, reads := true, writes := false }
  let (out, kernel) := kernel.addFile
    { channel := .output kernel.command .out, reads := false, writes := true }
  let (err, kernel) := kernel.addFile
    { channel := .output kernel.command .err, reads := false, writes := true }
  let member : Member := {
    number := kernel.first
    parent := Kernel.host
    group := kernel.first
    process := Tool.load program.1 program.2 (environment site command)
    due := kernel.now
    directory
    handles := [(0, { file := input }), (1, { file := out }), (2, { file := err })] }
  { kernel with members := kernel.members ++ [member] }

def outputOf (kernel : Kernel) (stream : Stream) : Bytes :=
  Octets.toBytes ((kernel.written.reverse.filter (fun part => part.1 == stream)).flatMap Prod.snd)

/-- The kernel after a command that ran too long was given up. -/
def giveUp (kernel : Kernel) (time : Nat) : Kernel :=
  let kernel := ({ kernel with now := max kernel.now time }).signal kernel.first 9
  { kernel with command := kernel.command + 1, written := [] }

/-- Runs a command up to a time, if one is given: how it ended, unless it was
given up, and the kernel after it. -/
def runUntil (site : Site) (command : Command) (deadline : Option Nat) :
    Except IoFault (Option CommandEnd) × Kernel :=
  match find site command with
  | .error fault => (.error fault, site.kernel)
  | .ok (program, directory) =>
      let (isFinished, kernel) :=
        (start site command program directory).run Tool.load deadline Task.endless
      match isFinished, kernel.firstEnding with
      | true, some ending =>
          let captured : Captured := {
            stdout := outputOf kernel .out
            stderr := outputOf kernel .err }
          let status : ExitStatus :=
            match ending with
            | .exited status => .exited status
            | .killed signal => .signalled signal
          (.ok (some (.finished status captured)), kernel)
      | _, _ => (.ok none, giveUp kernel (deadline.getD kernel.now))

/-- Runs a command for so many seconds at most. -/
def runWithin (site : Site) (command : Command) (secs : UInt64) :
    Except IoFault (Option CommandEnd) × Kernel :=
  runUntil site command (some (deadline site secs))

/-- Runs a command. One that has no end in sight is not waited for. -/
def run (site : Site) (command : Command) : Except IoFault CommandEnd × Kernel :=
  let (ended, kernel) := runUntil site command none
  (ended.map (·.getD (.unread (.other "no end in sight"))), kernel)

end InterfaceAudit.Spawn
