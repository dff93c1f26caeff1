import InterfaceAudit.Host.Attempt
import InterfaceAudit.Machine.Spawn

/-!
Contract: a host that is a value.

Owns:
- the state of a machine: its files and processes, and all that was logged,
  collected and printed on it;
- the answers to every request;
- the files that every machine has.

Does not own: time in the world. Its clock goes on only while commands run.
-/

namespace InterfaceAudit

structure Machine where
  kernel : Kernel
  /-- The directory that relative paths start from. -/
  directory : Nat
  /-- Where temporary directories are made. -/
  scratch : Path
  environment : List (String × String)
  /-- Whether a limited command that waits at all runs too long. -/
  impatient : Bool := false
  /-- How many fresh names were given out. -/
  serial : Nat := 0
  events : List Log.Event := []
  collected : List Diagnostic := []
  printed : String := ""

namespace Machine

/-! ## Files that every machine has -/

/-- Puts a node at a path, with the directories above it. What cannot be put is
left out. -/
def place (disk : Disk) (path : String) (node : Node) : Disk :=
  let path := Octets.ofString path
  let disk := ((disk.makeDirectories Disk.root (path.length + 1) (Tool.pathAbove path)).toOption).getD disk
  match disk.make Disk.root path node with
  | .ok (_, disk) => disk
  | .error _ => disk

/-- A file that anyone may read. -/
def textFile (text : String) : Node where
  content := .file (Octets.ofString text)
  mode := 0o644

/-- A device that anyone may use. -/
def deviceNode (device : Device) : Node where
  content := .device device
  mode := 0o666

def linkNode (target : String) : Node where
  content := .link (Octets.ofString target)
  mode := 0o777

/-- Directories, devices and texts that every machine has. -/
def systemNodes : List (String × Node) := [
  ("/usr/bin", Disk.emptyDirectory 0o755),
  ("/usr/sbin", Disk.emptyDirectory 0o755),
  ("/usr/local/bin", Disk.emptyDirectory 0o755),
  ("/usr/local/sbin", Disk.emptyDirectory 0o755),
  ("/usr/lib", Disk.emptyDirectory 0o755),
  ("/usr/share", Disk.emptyDirectory 0o755),
  ("/bin", linkNode "usr/bin"),
  ("/sbin", linkNode "usr/sbin"),
  ("/lib", linkNode "usr/lib"),
  ("/root", Disk.emptyDirectory 0o700),
  ("/home", Disk.emptyDirectory 0o755),
  ("/mnt", Disk.emptyDirectory 0o755),
  ("/opt", Disk.emptyDirectory 0o755),
  ("/srv", Disk.emptyDirectory 0o755),
  ("/run", Disk.emptyDirectory 0o755),
  ("/sys", Disk.emptyDirectory 0o555),
  ("/tmp", Disk.emptyDirectory 0o1777),
  ("/var/tmp", Disk.emptyDirectory 0o1777),
  ("/var/lib", Disk.emptyDirectory 0o755),
  ("/var/log", Disk.emptyDirectory 0o755),
  ("/proc/self/fd", Disk.emptyDirectory 0o555),
  ("/dev/fd", linkNode "/proc/self/fd"),
  ("/dev/null", deviceNode .null),
  ("/dev/zero", deviceNode .zero),
  ("/dev/full", deviceNode .full),
  ("/dev/random", deviceNode .random),
  ("/dev/urandom", deviceNode .random),
  ("/etc/passwd", textFile "root:x:0:0:root:/root:/bin/bash\n"),
  ("/etc/group", textFile "root:x:0:\n"),
  ("/etc/hostname", textFile "localhost\n"),
  ("/etc/hosts", textFile "127.0.0.1\tlocalhost\n")]

/-- The directories, devices and programs that every machine has. -/
def system : Disk :=
  let empty : Disk := { nodes := [(Disk.root, Disk.emptyDirectory 0o755)], next := 1 }
  let disk := systemNodes.foldl (fun disk (path, node) => place disk path node) empty
  Tool.programNames.foldl
    (fun disk name => place disk ("/usr/bin/" ++ name) { content := .program name, mode := 0o755 })
    disk

def systemVariables : List (String × String) := [
  ("PATH", "/usr/local/sbin:/usr/local/bin:/usr/sbin:/usr/bin:/sbin:/bin"),
  ("HOME", "/root")]

/-! ## Files -/

def disk (machine : Machine) : Disk := machine.kernel.disk

def withDisk (machine : Machine) (disk : Disk) : Machine :=
  { machine with kernel := { machine.kernel with disk } }

/-- The result of work on files, or the fault that it ends in. -/
def onDisk {α : Type} (path : Path) (work : Octets → Except SystemError α) : Except IoFault α :=
  if path.bytes.contains 0 then .error .nulInPath
  else (work (Octets.ofBytes path.bytes)).mapError IoFault.system

/-- Changes the files unless the work fails. -/
def changeDisk (machine : Machine) (result : Except IoFault Disk) : Except IoFault Unit × Machine :=
  match result with
  | .ok disk => (.ok (), machine.withDisk disk)
  | .error fault => (.error fault, machine)

/-- Puts a file on a machine, with the directories above it. A path that cannot
be written is left alone. -/
def install (machine : Machine) (path : Path) (content : Bytes) : Machine :=
  let path := Octets.ofBytes path.bytes
  let disk :=
    (machine.disk.makeDirectories machine.directory (path.length + 1) (Tool.pathAbove path)).toOption.getD
      machine.disk
  match disk.write machine.directory path (Octets.ofBytes content) machine.kernel.now with
  | .ok disk => machine.withDisk disk
  | .error _ => machine

/-- Makes a directory on a machine; one that cannot be made is left out. -/
def addDirectory (machine : Machine) (path : Path) : Machine :=
  match machine.disk.makeDirectory machine.directory (Octets.ofBytes path.bytes) with
  | .ok disk => machine.withDisk disk
  | .error _ => machine

def content? (machine : Machine) (path : Path) : Option Bytes :=
  (machine.disk.read machine.directory (Octets.ofBytes path.bytes)).toOption.map Octets.toBytes

def remove (machine : Machine) (path : Path) : Machine :=
  match machine.disk.removeTree machine.directory (Octets.ofBytes path.bytes) with
  | .ok disk => machine.withDisk disk
  | .error _ => machine

/-- The files below a path; none if it leads to no directory. -/
def listing (machine : Machine) (path : Path) : List (Bytes × Option Bytes) :=
  let found := machine.disk.listing machine.directory (Octets.ofBytes path.bytes) 64 []
  found.map fun (path, content) => (Octets.toBytes path, content.map Octets.toBytes)

/-! ## Fresh names -/

/-- How many characters end a fresh name. -/
def freshLength : Nat := 6

def freshAlphabet : List Char :=
  "0123456789abcdefghijklmnopqrstuvwxyzABCDEFGHIJKLMNOPQRSTUVWXYZ".toList

/-- The end of the fresh name of a number: its digits to the base of the
alphabet. -/
def freshEnding (number : Nat) : List Char :=
  (List.range freshLength).reverse.map fun place =>
    let base := freshAlphabet.length
    freshAlphabet.getD (number / Nat.pow base place % base) '0'

def absolute (machine : Machine) (path : Path) : Path :=
  (Path.mk (Octets.toBytes ((machine.disk.path? machine.directory).getD []))).join path

/-- Makes a directory of a fresh name. A name that is taken is passed over. -/
def makeScoped (machine : Machine) (parent : Path) (stem : String) :
    Nat → Except IoFault (Path × Machine)
  | 0 => .error (.system .exists)
  | tries + 1 =>
      let name := stem ++ String.ofList (freshEnding machine.serial)
      let path := (machine.absolute parent).child name
      let machine := { machine with serial := machine.serial + 1 }
      let made := onDisk path fun path =>
        machine.disk.make machine.directory path (Disk.emptyDirectory 0o700)
      match made with
      | .ok (_, disk) => .ok (path, machine.withDisk disk)
      | .error (.system .exists) => machine.makeScoped parent stem tries
      | .error fault => .error fault

/-! ## Answers -/

/-- What a command starts from on a machine. -/
def site (machine : Machine) : Spawn.Site where
  kernel := machine.kernel
  directory := machine.directory
  environment := machine.environment.map fun (name, value) =>
    (Octets.ofString name, Octets.ofString value)
  impatient := machine.impatient

/-- The answer to a request, and the machine after it. -/
def answer : (request : Request) → Machine → request.Answer × Machine
  | .clock, machine => ((machine.kernel.now / 1000 : Nat), machine)
  | .makeDirectories path, machine =>
      machine.changeDisk (onDisk path fun path =>
        machine.disk.makeDirectories machine.directory (path.length + 1) path)
  | .makeScoped parent stem, machine =>
      match machine.makeScoped (parent.getD machine.scratch) stem
          (machine.disk.nodes.length + 1) with
      | .ok (path, machine) => (.ok path, machine)
      | .error fault => (.error fault, machine)
  | .removeTree path, machine => ((), machine.remove path)
  | .readFile path, machine =>
      ((onDisk path fun path => machine.disk.read machine.directory path).map Octets.toBytes, machine)
  | .writeFile path content, machine =>
      machine.changeDisk (onDisk path fun path =>
        machine.disk.write machine.directory path (Octets.ofBytes content) machine.kernel.now)
  | .run command, machine =>
      let (ended, kernel) := Spawn.run machine.site command
      (ended, { machine with kernel })
  | .runWithin command secs, machine =>
      let (ended, kernel) := Spawn.runWithin machine.site command secs
      (ended, { machine with kernel })
  | .log event, machine => ((), { machine with events := machine.events ++ [event] })
  | .collect diagnostic, machine =>
      ((), { machine with collected := machine.collected ++ [diagnostic] })
  | .print text, machine => ((), { machine with printed := machine.printed ++ text })

def host : Host Machine where
  answer := answer

def perform {α : Type} (machine : Machine) (attempt : Attempt α) : Except Failure α × Machine :=
  attempt.run.runOn host machine

/-- A machine with only the files that every machine has, which works in one
empty directory. -/
def fresh (directory : String) : Machine :=
  let disk := place system directory (Disk.emptyDirectory 0o700)
  { kernel := { disk }
    directory := (disk.find true Disk.root (Octets.ofString directory)).toOption.getD Disk.root
    scratch := Path.ofString "/tmp"
    environment := systemVariables }

end Machine

end InterfaceAudit
