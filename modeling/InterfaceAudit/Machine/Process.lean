import InterfaceAudit.Machine.Disk.Change

/-!
Contract: what a process does, as a value.

Owns:
- the calls that a process makes of the machine, each with the type of its
  answer;
- processes: trees of calls that branch on the answers, and that may split in
  two;
- tasks, which are parts of a process that lead to a value.

Does not own: the answers.
-/

namespace InterfaceAudit

inductive Ending where
  | exited (status : Nat)
  | killed (signal : Nat)
deriving DecidableEq, Repr

/-- What becomes of a signal that a process gets. -/
inductive Disposition where
  | standard
  | ignored
  /-- It is kept until the process asks for it. -/
  | caught
deriving DecidableEq, Repr

structure Opening where
  reads : Bool := false
  writes : Bool := false
  /-- A file that is missing is made. -/
  creates : Bool := false
  empties : Bool := false
  /-- All is written to the end. -/
  appends : Bool := false
  /-- A file that is there is refused. -/
  exclusive : Bool := false
deriving DecidableEq, Repr

/-- The kinds of what a path can name. -/
inductive FileKind where
  | regular
  | directory
  | link
  | characters
  | fifo
deriving DecidableEq, Repr

/-- What is known about a file without reading it. -/
structure FileStatus where
  kind : FileKind
  number : Nat
  size : Nat
  mode : Nat
  links : Nat
  changed : Nat
deriving DecidableEq, Repr

/-- Where the position in an open file is moved to. -/
inductive Whence where
  | start (position : Nat)
  | back (count : Nat)
deriving DecidableEq, Repr

/-- A call that a process makes of the machine. Handles are numbers of open
files; times are in microseconds. -/
inductive SystemCall where
  /-- Works for a while. -/
  | spend (duration : Nat)
  /-- Waits for a while. -/
  | sleep (duration : Nat)
  | clock
  /-- The number of the process and that of its parent. -/
  | identity
  | open (path : Octets) (opening : Opening)
  | close (handle : Nat)
  /-- Lets a handle lead where another one leads. -/
  | copy (source target : Nat)
  /-- Lets the first free handle from `least` on lead where another one leads,
  until another program is executed. -/
  | save (source least : Nat)
  | isOpen (handle : Nat)
  | pipe
  | read (handle count : Nat)
  | write (handle : Nat) (text : Octets)
  | seek (handle : Nat) (whence : Whence)
  /-- Goes on as another program. -/
  | execute (path : Octets) (arguments : List Octets) (environment : List (Octets × Octets))
  /-- Waits until a child ends, or a given time comes. -/
  | wait (child : Option Nat) (latest : Option Nat) (interruptible : Bool)
  | kill (target : Int) (signal : Nat)
  | dispose (signal : Nat) (disposition : Disposition)
  | disposition (signal : Nat)
  /-- The signals that were caught since the last call. -/
  | takeSignals
  /-- Becomes the first of a group of processes. -/
  | lead
  | changeDirectory (path : Octets)
  | directory
  | setMask (mask : Option Nat)
  | status (follow : Bool) (path : Octets)
  | handleStatus (handle : Nat)
  | names (path : Octets)
  | readLink (path : Octets)
  | makeDirectory (path : Octets) (mode : Nat)
  | makeFifo (path : Octets)
  | removeDirectory (path : Octets)
  | unlink (path : Octets)
  | rename (source target : Octets)
  | link (follow : Bool) (source target : Octets)
  | symlink (target path : Octets)
  | changeMode (path : Octets) (mode : Nat)
  | resize (path : Octets) (size : Nat)
  | setTime (path : Octets) (time : Nat)

def SystemCall.Answer : SystemCall → Type
  | .spend _ | .sleep _ | .dispose _ _ | .lead => Unit
  | .clock | .setMask _ => Nat
  | .identity | .pipe => Nat × Nat
  | .isOpen _ => Bool
  | .disposition _ => Disposition
  | .takeSignals => List Nat
  | .open _ _ | .save _ _ => Except SystemError Nat
  | .close _ | .copy _ _ | .write _ _ | .seek _ _ | .kill _ _ | .changeDirectory _
  | .makeDirectory _ _ | .makeFifo _ | .removeDirectory _ | .unlink _ | .rename _ _
  | .link _ _ _ | .symlink _ _ | .changeMode _ _ | .resize _ _ | .setTime _ _ =>
      Except SystemError Unit
  | .read _ _ | .directory | .readLink _ => Except SystemError Octets
  | .execute _ _ _ => SystemError
  | .wait _ _ _ => Except SystemError (Option (Nat × Ending))
  | .status _ _ | .handleStatus _ => Except SystemError FileStatus
  | .names _ => Except SystemError (List Octets)

/-- A process: it ends, makes a call and goes on with the answer, or starts a
child that is a copy of it but for what it does. -/
inductive Process where
  | exit (status : Nat)
  | ask (call : SystemCall) (next : call.Answer → Process)
  | fork (child : Process) (next : Nat → Process)

/-- A part of a process that leads to a value, given what is done with that. -/
def Task (α : Type) : Type := (α → Process) → Process

namespace Task

instance : Monad Task where
  pure value := fun next => next value
  bind task continuation := fun next => task (fun value => continuation value next)

instance : LawfulMonad Task :=
  LawfulMonad.mk' Task (fun _ => rfl) (fun _ _ => rfl) (fun _ _ _ => rfl)

def ask (call : SystemCall) : Task call.Answer := fun next => .ask call next

def exit {α : Type} (status : Nat) : Task α := fun _ => .exit (status % 256)

/-- Starts a child, and gives its number. -/
def fork (child : Task Unit) : Task Nat :=
  fun next => .fork (child (fun _ => .exit 0)) next

/-! ## Calls -/

/-- Works for a while. -/
def spend (duration : Nat) : Task Unit := ask (.spend duration)

/-- Opens what a path names, and gives the handle. -/
def openFile (path : Octets) (opening : Opening) : Task (Except SystemError Nat) :=
  ask (.open path opening)

def close (handle : Nat) : Task (Except SystemError Unit) := ask (.close handle)

/-- Lets a handle lead where another one leads. -/
def copyHandle (source target : Nat) : Task (Except SystemError Unit) := ask (.copy source target)

/-- Makes a pipe, and gives the handles to read it and to write to it. -/
def pipe : Task (Nat × Nat) := ask .pipe

/-- Reads some characters from a handle; none at the end. -/
def read (handle count : Nat) : Task (Except SystemError Octets) := ask (.read handle count)

def write (handle : Nat) (text : Octets) : Task (Except SystemError Unit) :=
  ask (.write handle text)

/-- Goes on as another program; what comes back is why that could not be done. -/
def execute (path : Octets) (arguments : List Octets) (environment : List (Octets × Octets)) :
    Task SystemError :=
  ask (.execute path arguments environment)

def wait (child : Option Nat) (latest : Option Nat := none) (interruptible : Bool := false) :
    Task (Except SystemError (Option (Nat × Ending))) :=
  ask (.wait child latest interruptible)

def kill (target : Int) (signal : Nat) : Task (Except SystemError Unit) := ask (.kill target signal)

/-- The number of the process and that of its parent. -/
def identity : Task (Nat × Nat) := ask .identity

/-- What is known about what a path names. -/
def status (path : Octets) : Task (Except SystemError FileStatus) := ask (.status true path)

/-- What is known about what a path names, where a link at the end is not
followed. -/
def linkStatus (path : Octets) : Task (Except SystemError FileStatus) := ask (.status false path)

/-- The names in a directory in ascending order. -/
def names (path : Octets) : Task (Except SystemError (List Octets)) := do
  let names : Except SystemError (List Octets) ← ask (.names path)
  return names.map Octets.sorted

def directory : Task (Except SystemError Octets) := ask .directory

/-! ## Work made of calls -/

/-- How many characters are read at once. -/
def blockSize : Nat := 65536

/-- A bound for work that is ended by something else. -/
def endless : Nat := 0x4000000000000000

/-- Reads from a handle to its end; the blocks read so far are given in
reverse. -/
def readBlocks (handle : Nat) : Nat → List Octets → Task (Except SystemError Octets)
  | 0, blocks => pure (.ok blocks.reverse.flatten)
  | fuel + 1, blocks => do
      match ← read handle blockSize with
      | .error .interrupted => readBlocks handle fuel blocks
      | .error cause => return .error cause
      | .ok [] => return .ok blocks.reverse.flatten
      | .ok block => readBlocks handle fuel (block :: blocks)

def readAll (handle : Nat) : Task (Except SystemError Octets) :=
  readBlocks handle endless []

def readFile (path : Octets) : Task (Except SystemError Octets) := do
  match ← openFile path { reads := true } with
  | .error cause => return .error cause
  | .ok handle =>
      let result ← readAll handle
      discard (close handle)
      return result

def isDirectory (path : Octets) : Task Bool := do
  match ← status path with
  | .ok found => return found.kind == .directory
  | .error _ => return false

def exists? (path : Octets) : Task Bool := return (← status path).toOption.isSome

end Task

end InterfaceAudit
