import InterfaceAudit.Machine.Kernel.Processes

/-!
Contract: which process goes on next, and what its next call does.

Owns:
- the answer to every call, and the time it takes;
- the order in which processes go on: the one whose time comes first;
- running a command until it has ended and nothing can write to its outputs, or
  until its time is up.

Processes take their time side by side, as if each had a processor of its own.

Does not own: what a host makes of an ended command.
-/

namespace InterfaceAudit.Kernel

/-- The time that a call takes, in microseconds. -/
def duration : SystemCall → Nat
  | .spend duration | .sleep duration => duration
  | .execute _ _ _ => 500
  | .open _ _ | .read _ _ | .write _ _ => 2
  | _ => 1

def moved : (call : SystemCall) → call.Answer → Nat
  | .read _ _, .ok text => text.length
  | .write _ text, .ok _ => text.length
  | _, _ => 0

/-- How many characters are moved in a microsecond. -/
def pace : Nat := 16

/-- The time that it takes to start a child. -/
def forkDuration : Nat := 100

def reply (load : Loader) (kernel : Kernel) (member : Member) :
    (call : SystemCall) → Reply call.Answer × Kernel
  | .spend _ | .sleep _ => (.answer (), kernel)
  | .clock => (.answer (kernel.now : Nat), kernel)
  | .identity => (.answer ((member.number, member.parent) : Nat × Nat), kernel)
  | .open path opening => kernel.openPath member path opening
  | .close handle => kernel.close member handle
  | .copy source target => kernel.copyHandle member source target
  | .save source least => kernel.saveHandle member source least
  | .isOpen handle => (.answer ((member.handles.lookup handle).isSome : Bool), kernel)
  | .pipe => kernel.makePipe member
  | .read handle count => kernel.read member handle count
  | .write handle text => kernel.write member handle text
  | .seek handle whence => kernel.seek member handle whence
  | .execute path arguments environment => execute load kernel member path arguments environment
  | .wait child latest interruptible => kernel.wait member child latest interruptible
  | .kill target signal => kernel.kill member target signal
  | .dispose signal disposition =>
      (.answer (), kernel.change member.number fun member =>
        { member with
          dispositions := (signal, disposition) ::
            member.dispositions.filter (fun held => held.1 != signal) })
  | .disposition signal => (.answer (dispositionOf member signal : Disposition), kernel)
  | .takeSignals =>
      (.answer (member.caught : List Nat),
        if member.caught.isEmpty then kernel
        else kernel.change member.number fun member => { member with caught := [] })
  | .lead =>
      (.answer (), kernel.change member.number fun member => { member with group := member.number })
  | .changeDirectory path =>
      match kernel.disk.findDirectory member.directory path with
      | .error cause => (.answer (.error cause), kernel)
      | .ok directory =>
          (.answer (.ok ()), kernel.change member.number fun member => { member with directory })
  | .directory =>
      (.answer (match kernel.disk.path? member.directory with
        | some path => .ok path
        | none => .error .notFound), kernel)
  | .setMask mask? =>
      (.answer (member.mask : Nat),
        match mask? with
        | none => kernel
        | some mask => kernel.change member.number fun member => { member with mask })
  | .status follow path => (.answer (kernel.pathStatus member follow path), kernel)
  | .handleStatus handle => (.answer (kernel.handleStatus member handle), kernel)
  | .names path => (.answer (kernel.names member path), kernel)
  | .readLink path => (.answer (kernel.readLink member path), kernel)
  | .makeDirectory path mode =>
      kernel.makeNode member path (Disk.emptyDirectory (mode &&& (0o777 ^^^ member.mask)))
  | .makeFifo path =>
      kernel.makeNode member path { content := .fifo, mode := 0o666 &&& (0o777 ^^^ member.mask) }
  | .removeDirectory path => kernel.changing (kernel.disk.removeDirectory member.directory path)
  | .unlink path => kernel.changing (kernel.disk.unlink member.directory path)
  | .rename source target => kernel.changing (kernel.disk.rename member.directory source target)
  | .link follow source target =>
      kernel.changing (kernel.disk.link member.directory follow source target)
  | .symlink target path =>
      if target.isEmpty then (.answer (.error .notFound), kernel)
      else kernel.makeNode member path { content := .link target, mode := 0o777 }
  | .changeMode path mode => kernel.changeNode member path fun node => { node with mode }
  | .resize path size => kernel.resize member path size
  | .setTime path time => kernel.changeNode member path fun node => { node with changed := time }

def proceed (kernel : Kernel) (number : Nat) (process : Process) (due : Nat) : Kernel :=
  kernel.change number fun member =>
    { member with process, due, waiting := none, isTimed := false }

def startChild (kernel : Kernel) (member : Member) (process : Process) : Nat × Kernel :=
  let number := kernel.nextProcess
  let child := { member with
    number
    parent := member.number
    process
    due := kernel.now + 2 * forkDuration + forkDuration / 2
    caught := [] }
  (number, { kernel with nextProcess := number + 1, members := kernel.members ++ [child] })

/-- Lets a member make its next call. -/
def step (load : Loader) (kernel : Kernel) (member : Member) : Kernel :=
  let kernel := { kernel with now := max kernel.now member.due }
  match member.process with
  | .exit status => kernel.finish member.number (.exited status)
  | .fork child next =>
      let (number, kernel) := kernel.startChild member child
      kernel.proceed member.number (next number) (kernel.now + forkDuration)
  | .ask call next =>
      let due := kernel.now + duration call
      match kernel.reply load member call with
      | (.answer value, kernel) =>
          kernel.proceed member.number (next value) (due + moved call value / pace)
      | (.become process, kernel) => kernel.proceed member.number process due
      | (.signal signal value, kernel) =>
          (kernel.proceed member.number (next value) due).signal member.number signal
      | (.rest text, kernel) =>
          match call, next with
          | .write handle _, next =>
              kernel.proceed member.number (.ask (.write handle text) next) due
          | call, next => kernel.proceed member.number (.ask call next) due
      | (.wait cause latest, kernel) =>
          kernel.change member.number fun member =>
            { member with
              due := latest.getD member.due
              waiting := some cause
              isTimed := latest.isSome }

def isReady (member : Member) : Bool :=
  member.ending.isNone && !member.isStopped && (member.waiting.isNone || member.isTimed)

def next? (kernel : Kernel) : Option Member :=
  kernel.members.foldl
    (fun best member =>
      if !isReady member then best
      else
        match best with
        | none => some member
        | some other => if member.due < other.due then some member else best)
    none

/-- Whether the command at work has ended and nothing can write to its outputs
any more. -/
def isFinished (kernel : Kernel) : Bool :=
  kernel.firstEnding.isSome && !kernel.isOutputOpen

/-- Runs the command at work; whether it ended before its time was up. -/
def run (load : Loader) (deadline : Option Nat) : Nat → Kernel → Bool × Kernel
  | 0, kernel => (false, kernel)
  | fuel + 1, kernel =>
      if kernel.isFinished then (true, kernel)
      else
        match kernel.next? with
        | none => (false, kernel)
        | some member =>
            if deadline.any (· < member.due) then (false, kernel)
            else kernel.step load member |>.run load deadline fuel

end InterfaceAudit.Kernel
