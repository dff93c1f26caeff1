import InterfaceAudit.Machine.Process

/-!
Contract: the state that all processes of a machine share.

Owns:
- open files, pipes, and the table of processes;
- the handles of a process and what they lead to;
- who reads and who writes a pipe;
- waking the processes that wait for something.

Does not own: the answers to calls, or which process goes on next.
-/

namespace InterfaceAudit

/-- One of the two outputs of a command. -/
inductive Stream where
  | out
  | err
deriving DecidableEq, Repr

/-- Where an open file leads. -/
inductive Channel where
  | node (number : Nat)
  | pipe (number : Nat)
  /-- An output of a command, which its host collects. Commands are numbered. -/
  | output (command : Nat) (stream : Stream)
deriving DecidableEq, Repr

/-- An open file. Handles that were copied from each other share it, with its
position. -/
structure OpenFile where
  channel : Channel
  reads : Bool
  writes : Bool
  appends : Bool := false
  position : Nat := 0
deriving Repr

/-- What a pipe holds: the blocks to be read next, and in reverse those written
behind them. -/
structure Pipe where
  front : List Octets := []
  back : List Octets := []
  size : Nat := 0
deriving Repr

structure Handle where
  /-- The number of the open file. -/
  file : Nat
  /-- Whether it is closed when another program is executed. -/
  transient : Bool := false
deriving Repr

/-- What a process waits for. -/
inductive Cause where
  | readable (pipe : Nat)
  | writable (pipe : Nat)
  | child
  /-- The other end of a named pipe. -/
  | opened (node : Nat) (writes : Bool)
deriving DecidableEq, Repr

structure Member where
  number : Nat
  parent : Nat
  group : Nat
  /-- What it does from now on. -/
  process : Process
  /-- When it goes on. -/
  due : Nat
  /-- What it waits for; it goes on at `due` all the same if `isTimed`. -/
  waiting : Option Cause := none
  isTimed : Bool := false
  isStopped : Bool := false
  ending : Option Ending := none
  /-- The number of its working directory. -/
  directory : Nat
  handles : List (Nat × Handle) := []
  /-- What becomes of signals, where it is not the standard. -/
  dispositions : List (Nat × Disposition) := []
  /-- Signals that were caught and not yet asked for. -/
  caught : List Nat := []
  /-- Permissions that new files do not get. -/
  mask : Nat := 0o022

/-- The state that all processes share. -/
structure Kernel where
  disk : Disk
  /-- Microseconds since the start. -/
  now : Nat := 0
  members : List Member := []
  files : List (Nat × OpenFile) := []
  pipes : List (Nat × Pipe) := []
  /-- The pipes of named pipes. -/
  fifos : List (Nat × Nat) := []
  /-- The next number of an open file or a pipe. -/
  next : Nat := 0
  nextProcess : Nat := 4242
  /-- The number of the command at work. -/
  command : Nat := 0
  /-- The process that the command started with. -/
  first : Nat := 0
  firstEnding : Option Ending := none
  /-- What was written to the outputs of the command, the last part first. -/
  written : List (Stream × Octets) := []

namespace Kernel

/-- The number of the process that started everything. -/
def host : Nat := 4000

def pipeRoom : Nat := 65536

/-- Length up to which a text is written to a pipe as a whole. -/
def wholeRoom : Nat := 4096

/-! ## Members -/

def member? (kernel : Kernel) (number : Nat) : Option Member :=
  kernel.members.find? (fun member => member.number == number)

def change (kernel : Kernel) (number : Nat) (change : Member → Member) : Kernel :=
  { kernel with
    members := kernel.members.map fun member =>
      if member.number == number then change member else member }

/-- Lets members that wait for one of some causes go on. -/
def wake (kernel : Kernel) (isCause : Cause → Bool) : Kernel :=
  { kernel with
    members := kernel.members.map fun member =>
      match member.waiting with
      | none => member
      | some cause =>
          if isCause cause then { member with waiting := none, due := kernel.now + 5 }
          else member }

/-- Lets all members go on that wait for a pipe. -/
def wakePipes (kernel : Kernel) : Kernel :=
  kernel.wake fun
    | .child => false
    | _ => true

/-! ## Open files -/

def file? (kernel : Kernel) (number : Nat) : Option OpenFile :=
  kernel.files.lookup number

def changeFile (kernel : Kernel) (number : Nat) (change : OpenFile → OpenFile) : Kernel :=
  { kernel with
    files := kernel.files.map fun held =>
      if held.1 == number then (held.1, change held.2) else held }

/-- The number of the open file that a handle of a member leads to, and that
file. -/
def handle? (kernel : Kernel) (member : Member) (handle : Nat) : Option (Nat × OpenFile) := do
  let held ← member.handles.lookup handle
  let file ← kernel.file? held.file
  return (held.file, file)

/-- The first number from `least` on that is no handle. -/
def freeHandle (handles : List (Nat × Handle)) (least : Nat) : Nat :=
  ((List.range (handles.length + 1)).find?
    (fun offset => (handles.lookup (least + offset)).isNone)).getD 0 + least

def addFile (kernel : Kernel) (file : OpenFile) : Nat × Kernel :=
  (kernel.next,
    { kernel with next := kernel.next + 1, files := (kernel.next, file) :: kernel.files })

def setHandle (kernel : Kernel) (member number : Nat) (handle : Handle) : Kernel :=
  kernel.change member fun member =>
    { member with
      handles := (number, handle) :: member.handles.filter (fun held => held.1 != number) }

/-! ## Pipes -/

/-- Whether any handle leads to a channel in a given way. -/
def hasHandle (kernel : Kernel) (test : OpenFile → Bool) : Bool :=
  kernel.members.any fun member =>
    member.handles.any fun held => ((kernel.file? held.2.file).map test).getD false

/-- Whether anything can still read a pipe. -/
def hasReader (kernel : Kernel) (pipe : Nat) : Bool :=
  kernel.hasHandle (fun file => file.channel == .pipe pipe && file.reads)

/-- Whether anything can still write to a pipe. -/
def hasWriter (kernel : Kernel) (pipe : Nat) : Bool :=
  kernel.hasHandle (fun file => file.channel == .pipe pipe && file.writes)

/-- Whether anything can still write to an output of the command at work. -/
def isOutputOpen (kernel : Kernel) : Bool :=
  kernel.hasHandle fun file =>
    match file.channel with
    | .output command _ => command == kernel.command
    | _ => false

def pipe (kernel : Kernel) (number : Nat) : Pipe :=
  (kernel.pipes.lookup number).getD {}

def setPipe (kernel : Kernel) (number : Nat) (pipe : Pipe) : Kernel :=
  { kernel with
    pipes := (number, pipe) :: kernel.pipes.filter (fun held => held.1 != number) }

/-! ## Closing -/

def isHeld (kernel : Kernel) (file : Nat) : Bool :=
  kernel.members.any fun member => member.handles.any (fun held => held.2.file == file)

/-- Forgets an open file that no member has a handle on. -/
def release (kernel : Kernel) (file : Nat) : Kernel :=
  if kernel.isHeld file then kernel
  else
    let channel := (kernel.file? file).map OpenFile.channel
    let kernel := { kernel with files := kernel.files.filter (fun held => held.1 != file) }
    match channel with
    | some (.pipe number) =>
        if kernel.hasReader number || kernel.hasWriter number then kernel.wakePipes
        else { kernel with pipes := kernel.pipes.filter (fun held => held.1 != number) }
    | _ => kernel

def dropHandles (kernel : Kernel) (number : Nat) (isDropped : Nat → Handle → Bool) : Kernel :=
  match kernel.member? number with
  | none => kernel
  | some member =>
      let (dropped, kept) := member.handles.partition (fun held => isDropped held.1 held.2)
      let kernel := kernel.change number (fun member => { member with handles := kept })
      dropped.foldl (fun kernel held => kernel.release held.2.file) kernel

end Kernel

namespace Pipe

def add (pipe : Pipe) (text : Octets) : Pipe :=
  { pipe with back := text :: pipe.back, size := pipe.size + text.length }

/-- Takes up to so many characters of the first block of a pipe. -/
def take (pipe : Pipe) (count : Nat) : Octets × Pipe :=
  match (if pipe.front.isEmpty then (pipe.back.reverse, []) else (pipe.front, pipe.back)) with
  | ([], back) => ([], { pipe with front := [], back })
  | (block :: front, back) =>
      let taken := block.take count
      let left := block.drop count
      (taken,
        { front := if left.isEmpty then front else left :: front
          back
          size := pipe.size - taken.length })

end Pipe

end InterfaceAudit
