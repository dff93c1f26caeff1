import InterfaceAudit.Machine.Kernel

/-!
Contract: the calls of processes that concern files.

Owns:
- opening, reading, writing and closing, with the causes for which a process
  has to wait;
- paths that name the handles of the process itself;
- what is known about files.

Does not own: processes and signals.
-/

namespace InterfaceAudit

inductive Reply (α : Type) where
  | answer (value : α)
  /-- The call is made again when the cause is gone, or the time has come. -/
  | wait (cause : Cause) (latest : Option Nat := none)
  /-- A part of the text was written; the rest is written next. -/
  | rest (text : Octets)
  /-- The caller gets a signal, and the answer if it lives on. -/
  | signal (number : Nat) (value : α)
  /-- The caller goes on as another process. -/
  | become (process : Process)

namespace Kernel

/-- The result of a call on files that fails or changes the file system. -/
def changing (kernel : Kernel) (result : Except SystemError Disk) :
    Reply (Except SystemError Unit) × Kernel :=
  match result with
  | .ok disk => (.answer (.ok ()), { kernel with disk })
  | .error cause => (.answer (.error cause), kernel)

def handleOfPath? (path : Octets) : Option Nat :=
  match String.ofList path with
  | "/dev/stdin" => some 0
  | "/dev/stdout" => some 1
  | "/dev/stderr" => some 2
  | text =>
      if text.startsWith "/dev/fd/" then Octets.natOf? (path.drop 8)
      else if text.startsWith "/proc/self/fd/" then Octets.natOf? (path.drop 14)
      else none

/-! ## Opening and closing -/

/-- Gives the caller the lowest free handle on an open file. -/
def grant (kernel : Kernel) (member : Member) (file : OpenFile) :
    Reply (Except SystemError Nat) × Kernel :=
  let (number, kernel) := kernel.addFile file
  let handle := freeHandle member.handles 0
  (.answer (.ok handle), kernel.setHandle member.number handle { file := number })

/-- Whether the other end of a named pipe is open, or about to be. -/
def isMet (kernel : Kernel) (node pipe : Nat) (opening : Opening) : Bool :=
  let isWanted (member : Member) : Bool := member.waiting == some (.opened node (!opening.writes))
  (opening.reads && opening.writes) || kernel.members.any isWanted ||
    (if opening.writes then kernel.hasReader pipe else kernel.hasWriter pipe)

/-- Opens a named pipe, once its other end is opened too. -/
def openFifo (kernel : Kernel) (member : Member) (node : Nat) (opening : Opening) :
    Reply (Except SystemError Nat) × Kernel :=
  let (pipe, kernel) :=
    match kernel.fifos.lookup node with
    | some pipe => (pipe, kernel)
    | none =>
        (kernel.next,
          { kernel with next := kernel.next + 1, fifos := (node, kernel.next) :: kernel.fifos })
  if kernel.isMet node pipe opening then
    let (reply, kernel) := kernel.grant member
      { channel := .pipe pipe, reads := opening.reads, writes := opening.writes }
    (reply, kernel.wake (fun cause => cause == .opened node (!opening.writes)))
  else (.wait (.opened node opening.writes), kernel)

def openPath (kernel : Kernel) (member : Member) (path : Octets) (opening : Opening) :
    Reply (Except SystemError Nat) × Kernel :=
  let refuse (cause : SystemError) : Reply (Except SystemError Nat) × Kernel :=
    (.answer (.error cause), kernel)
  let openNode (kernel : Kernel) (number : Nat) : Reply (Except SystemError Nat) × Kernel :=
    if kernel.disk.isDirectory number && opening.writes then
      (.answer (.error .isADirectory), kernel)
    else
      match kernel.disk.content? number with
      | some .fifo => kernel.openFifo member number opening
      | _ =>
          let kernel :=
            if opening.empties then
              { kernel with disk := kernel.disk.setText number kernel.now [] }
            else kernel
          kernel.grant member {
            channel := .node number
            reads := opening.reads
            writes := opening.writes
            appends := opening.appends }
  match handleOfPath? path with
  | some handle =>
      match kernel.handle? member handle with
      | none => refuse .notFound
      | some (_, file) =>
          match file.channel with
          | .node number => openNode kernel number
          | channel =>
              kernel.grant member { channel, reads := opening.reads, writes := opening.writes }
  | none =>
      let locate := if opening.creates then kernel.disk.locateFile else kernel.disk.locate
      match locate (!opening.exclusive) member.directory path with
      | .error cause => refuse cause
      | .ok spot =>
          match spot.node? with
          | some number =>
              if opening.creates && opening.exclusive then refuse .exists
              else openNode kernel number
          | none =>
              if !opening.creates then refuse .notFound
              else
                match kernel.disk.enter spot {
                    content := .file []
                    mode := 0o666 &&& (0o777 ^^^ member.mask)
                    changed := kernel.now } with
                | .error cause => refuse cause
                | .ok (number, disk) => openNode { kernel with disk } number

def close (kernel : Kernel) (member : Member) (handle : Nat) :
    Reply (Except SystemError Unit) × Kernel :=
  if (member.handles.lookup handle).isNone then (.answer (.error .badDescriptor), kernel)
  else (.answer (.ok ()), kernel.dropHandles member.number (fun number _ => number == handle))

/-- Lets one handle lead where another one leads. -/
def copyHandle (kernel : Kernel) (member : Member) (source target : Nat) :
    Reply (Except SystemError Unit) × Kernel :=
  match member.handles.lookup source with
  | none => (.answer (.error .badDescriptor), kernel)
  | some held =>
      if source == target then (.answer (.ok ()), kernel)
      else
        let old := member.handles.lookup target
        let kernel := kernel.setHandle member.number target { file := held.file }
        (.answer (.ok ()), (old.map fun old => kernel.release old.file).getD kernel)

/-- Lets the first free handle from one on lead where another one leads. -/
def saveHandle (kernel : Kernel) (member : Member) (source least : Nat) :
    Reply (Except SystemError Nat) × Kernel :=
  match member.handles.lookup source with
  | none => (.answer (.error .badDescriptor), kernel)
  | some held =>
      let handle := freeHandle member.handles least
      (.answer (.ok handle),
        kernel.setHandle member.number handle { file := held.file, transient := true })

/-- Makes a pipe, with a handle for each end. -/
def makePipe (kernel : Kernel) (member : Member) : Reply (Nat × Nat) × Kernel :=
  let number := kernel.next
  let kernel := { kernel with next := number + 1 }
  let (readEnd, kernel) := kernel.addFile { channel := .pipe number, reads := true, writes := false }
  let (writeEnd, kernel) := kernel.addFile { channel := .pipe number, reads := false, writes := true }
  let first := freeHandle member.handles 0
  let handles := (first, { file := readEnd }) :: member.handles
  let second := freeHandle handles 0
  (.answer (first, second),
    kernel.change member.number fun member =>
      { member with handles := (second, { file := writeEnd }) :: handles })

/-! ## Reading and writing -/

/-- Bytes without order. -/
def disorder (seed count : Nat) : Octets :=
  (List.range count).map fun index =>
    Char.ofNat (((seed + index) * 2654435761 / 65536 + (seed + index) * 40503) % 256)

def read (kernel : Kernel) (member : Member) (handle count : Nat) :
    Reply (Except SystemError Octets) × Kernel :=
  match kernel.handle? member handle with
  | none => (.answer (.error .badDescriptor), kernel)
  | some (number, file) =>
      if !file.reads then (.answer (.error .badDescriptor), kernel)
      else
        match file.channel with
        | .output _ _ => (.answer (.error .badDescriptor), kernel)
        | .pipe pipe =>
            let held := kernel.pipe pipe
            if held.size == 0 then
              if kernel.hasWriter pipe then
                if member.caught.isEmpty then (.wait (.readable pipe), kernel)
                else (.answer (.error .interrupted), kernel)
              else (.answer (.ok []), kernel)
            else
              let (text, held) := held.take count
              (.answer (.ok text),
                (kernel.setPipe pipe held).wake (fun cause => cause == .writable pipe))
        | .node node =>
            let advance (text : Octets) : Reply (Except SystemError Octets) × Kernel :=
              (.answer (.ok text),
                kernel.changeFile number fun file =>
                  { file with position := file.position + text.length })
            match kernel.disk.content? node with
            | some (.directory _) => (.answer (.error .isADirectory), kernel)
            | some (.device .null) => (.answer (.ok []), kernel)
            | some (.device .random) => advance (disorder (kernel.now + file.position) count)
            | some (.device _) => advance (List.replicate count '\x00')
            | _ => advance (((kernel.disk.textOf node).drop file.position).take count)

def overwrite (old : Octets) (position : Nat) (text : Octets) : Octets :=
  let length := old.length
  if length ≤ position then old ++ List.replicate (position - length) '\x00' ++ text
  else old.take position ++ text ++ old.drop (position + text.length)

/-- Writes to a pipe. A short text is written as a whole. -/
def writePipe (kernel : Kernel) (pipe : Nat) (text : Octets) :
    Reply (Except SystemError Unit) × Kernel :=
  if !kernel.hasReader pipe then (.signal 13 (.error .brokenPipe), kernel)
  else
    let held := kernel.pipe pipe
    let room := pipeRoom - held.size
    let put (part : Octets) : Kernel :=
      (kernel.setPipe pipe (held.add part)).wake (fun cause => cause == .readable pipe)
    let length := text.length
    if length ≤ room then (.answer (.ok ()), put text)
    else if length ≤ wholeRoom || room == 0 then (.wait (.writable pipe), kernel)
    else (.rest (text.drop room), put (text.take room))

def write (kernel : Kernel) (member : Member) (handle : Nat) (text : Octets) :
    Reply (Except SystemError Unit) × Kernel :=
  match kernel.handle? member handle with
  | none => (.answer (.error .badDescriptor), kernel)
  | some (number, file) =>
      if !file.writes then (.answer (.error .badDescriptor), kernel)
      else if text.isEmpty then (.answer (.ok ()), kernel)
      else
        match file.channel with
        | .output command stream =>
            if command == kernel.command then
              (.answer (.ok ()), { kernel with written := (stream, text) :: kernel.written })
            else (.signal 13 (.error .brokenPipe), kernel)
        | .pipe pipe => kernel.writePipe pipe text
        | .node node =>
            match kernel.disk.content? node with
            | some (.device .full) => (.answer (.error .noSpace), kernel)
            | some (.file old) =>
                let position := if file.appends then old.length else file.position
                let new := overwrite old position text
                let kernel := { kernel with disk := kernel.disk.setText node kernel.now new }
                (.answer (.ok ()),
                  kernel.changeFile number fun file =>
                    { file with position := position + text.length })
            | _ => (.answer (.ok ()), kernel)

/-- Moves the position in an open file. -/
def seek (kernel : Kernel) (member : Member) (handle : Nat) (whence : Whence) :
    Reply (Except SystemError Unit) × Kernel :=
  match kernel.handle? member handle with
  | none => (.answer (.error .badDescriptor), kernel)
  | some (number, file) =>
      match file.channel with
      | .node _ =>
          let position :=
            match whence with
            | .start position => position
            | .back count => file.position - count
          (.answer (.ok ()), kernel.changeFile number fun file => { file with position })
      | _ => (.answer (.error .notSeekable), kernel)

/-! ## What is known about files -/

def nodeStatus (disk : Disk) (number : Nat) : Except SystemError FileStatus :=
  match disk.node? number with
  | none => .error .notFound
  | some node =>
      let (kind, size) : FileKind × Nat :=
        match node.content with
        | .directory _ => (.directory, 4096)
        | .file text => (.regular, text.length)
        | .link target => (.link, target.length)
        | .device _ => (.characters, 0)
        | .program _ => (.regular, (disk.textOf number).length)
        | .fifo => (.fifo, 0)
      .ok {
        kind, number, size
        mode := node.mode
        links := disk.linkCount number
        changed := node.changed }

/-- What is known about where a handle leads. -/
def handleStatus (kernel : Kernel) (member : Member) (handle : Nat) :
    Except SystemError FileStatus :=
  match kernel.handle? member handle with
  | none => .error .badDescriptor
  | some (number, file) =>
      match file.channel with
      | .node node => nodeStatus kernel.disk node
      | _ => .ok { kind := .fifo, number := 100000 + number, size := 0, mode := 0o600, links := 1, changed := 0 }

/-- What is known about what a path names. -/
def pathStatus (kernel : Kernel) (member : Member) (follow : Bool) (path : Octets) :
    Except SystemError FileStatus :=
  match handleOfPath? path with
  | some handle =>
      if follow then
        (kernel.handleStatus member handle).mapError fun _ => .notFound
      else
        .ok { kind := .link, number := 200000 + handle, size := 64, mode := 0o777, links := 1, changed := 0 }
  | none => do
      nodeStatus kernel.disk (← kernel.disk.find follow member.directory path)

def pathOfNode (disk : Disk) (number : Nat) : Octets :=
  if disk.isDirectory number then (disk.path? number).getD []
  else
    let found := disk.nodes.findSome? fun held =>
      match held.2.content with
      | .directory names =>
          (names.find? (fun entry => entry.2 == number)).map (fun entry => (held.1, entry.1))
      | _ => none
    match found with
    | none => Octets.ofString "(deleted)"
    | some (folder, name) =>
        let path := (disk.path? folder).getD []
        (if path == ['/'] then [] else path) ++ '/' :: name

def readLink (kernel : Kernel) (member : Member) (path : Octets) : Except SystemError Octets :=
  match handleOfPath? path with
  | some handle =>
      if !(Octets.ofString "/proc/").isPrefixOf path && !(Octets.ofString "/dev/fd/").isPrefixOf path then
        .ok (Octets.ofString "/proc/self/fd/" ++ Octets.ofNat handle)
      else
        match kernel.handle? member handle with
        | none => .error .notFound
        | some (number, file) =>
            match file.channel with
            | .node node => .ok (pathOfNode kernel.disk node)
            | .pipe pipe => .ok (Octets.ofString "pipe:[" ++ Octets.ofNat (100000 + pipe) ++ [']'])
            | .output _ _ => .ok (Octets.ofString "pipe:[" ++ Octets.ofNat (100000 + number) ++ [']'])
  | none => do
      let number ← kernel.disk.find false member.directory path
      match kernel.disk.content? number with
      | some (.link target) => return target
      | _ => throw .invalidArgument

def names (kernel : Kernel) (member : Member) (path : Octets) : Except SystemError (List Octets) := do
  return (kernel.disk.entries (← kernel.disk.findDirectory member.directory path)).map Prod.fst

/-! ## Changing files -/

def makeNode (kernel : Kernel) (member : Member) (path : Octets) (node : Node) :
    Reply (Except SystemError Unit) × Kernel :=
  kernel.changing
    ((kernel.disk.make member.directory path { node with changed := kernel.now }).map Prod.snd)

def changeNode (kernel : Kernel) (member : Member) (path : Octets) (change : Node → Node) :
    Reply (Except SystemError Unit) × Kernel :=
  kernel.changing do
    return kernel.disk.changeNode (← kernel.disk.find true member.directory path) change

/-- Cuts off a file or fills it up. -/
def resize (kernel : Kernel) (member : Member) (path : Octets) (size : Nat) :
    Reply (Except SystemError Unit) × Kernel :=
  kernel.changing do
    let number ← kernel.disk.find true member.directory path
    if kernel.disk.isDirectory number then throw .isADirectory
    let text := kernel.disk.textOf number
    return kernel.disk.setText number kernel.now
      (text.take size ++ List.replicate (size - text.length) '\x00')

end Kernel

end InterfaceAudit
