import InterfaceAudit.Machine.Kernel.Files

/-!
Contract: the calls of processes that concern processes.

Owns:
- the end of a process, and what becomes of its children;
- signals;
- waiting for children;
- executing another program, with the causes that prevent it.

Does not own: what programs do. They are given by name.
-/

namespace InterfaceAudit

/-- What the programs of a machine do: a name, the arguments and the variables
lead to a process. -/
abbrev Loader := String → List Octets → List (Octets × Octets) → Process

namespace Kernel

/-! ## Ends -/

/-- Ends a member. Its children go to the host, which forgets those that have
ended. -/
def finish (kernel : Kernel) (number : Nat) (ending : Ending) : Kernel :=
  let kernel := kernel.dropHandles number (fun _ _ => true)
  let members := kernel.members.filterMap fun member =>
    if member.number == number then
      if member.parent == host then none
      else some { member with ending := some ending, process := .exit 0, waiting := none }
    else if member.parent == number then
      if member.ending.isSome then none else some { member with parent := host }
    else some member
  let kernel := { kernel with
    members
    firstEnding := if number == kernel.first then some ending else kernel.firstEnding }
  kernel.wake (fun cause => cause == .child)

/-! ## Signals -/

/-- Signals that do not end a process. -/
def harmlessSignals : List Nat := [17, 18, 23, 28]

def stoppingSignals : List Nat := [19, 20, 21, 22]

/-- Signals that are neither ignored nor caught. -/
def finalSignals : List Nat := [9, 19]

def dispositionOf (member : Member) (signal : Nat) : Disposition :=
  if finalSignals.contains signal then .standard
  else (member.dispositions.lookup signal).getD .standard

def signal (kernel : Kernel) (number signal : Nat) : Kernel :=
  match kernel.member? number with
  | none => kernel
  | some member =>
      if member.ending.isSome || signal == 0 then kernel
      else
        let kernel :=
          if signal == 18 then kernel.change number fun member => { member with isStopped := false }
          else kernel
        match dispositionOf member signal with
        | .ignored => kernel
        | .caught =>
            kernel.change number fun member =>
              { member with
                caught := if member.caught.contains signal then member.caught
                  else member.caught ++ [signal]
                due := if member.waiting.isSome then kernel.now + 5 else member.due
                waiting := none }
        | .standard =>
            if harmlessSignals.contains signal then kernel
            else if stoppingSignals.contains signal then
              kernel.change number fun member => { member with isStopped := true }
            else kernel.finish number (.killed signal)

/-- The members that a target of a signal stands for: one by its number, or a
group by its negated number. -/
def targets (kernel : Kernel) (member : Member) (target : Int) : List Nat :=
  let group (number : Nat) : List Nat :=
    (kernel.members.filter (fun member => member.group == number)).map Member.number
  if target == 0 then group member.group
  else if target == -1 then
    (kernel.members.filter (fun other => other.number != member.number)).map Member.number
  else if target < 0 then group target.natAbs
  else (kernel.members.filter (fun member => member.number == target.natAbs)).map Member.number

def kill (kernel : Kernel) (member : Member) (target : Int) (signal : Nat) :
    Reply (Except SystemError Unit) × Kernel :=
  match kernel.targets member target with
  | [] =>
      if target == host then (.answer (.ok ()), kernel)
      else (.answer (.error .noSuchProcess), kernel)
  | numbers => (.answer (.ok ()), numbers.foldl (fun kernel number => kernel.signal number signal) kernel)

/-! ## Waiting -/

/-- Waits for a child. One that has ended is told of once. -/
def wait
    (kernel : Kernel)
    (member : Member)
    (child latest : Option Nat)
    (interruptible : Bool) :
    Reply (Except SystemError (Option (Nat × Ending))) × Kernel :=
  let isMeant (other : Member) : Bool :=
    other.parent == member.number && (child.getD other.number) == other.number
  match kernel.members.filter isMeant with
  | [] => (.answer (.error .noChildren), kernel)
  | children =>
      match children.findSome? (fun child => child.ending.map fun ending => (child.number, ending)) with
      | some (number, ending) =>
          (.answer (.ok (some (number, ending))),
            { kernel with members := kernel.members.filter (fun other => other.number != number) })
      | none =>
          if interruptible && !member.caught.isEmpty then (.answer (.error .interrupted), kernel)
          else
            match latest with
            | some time =>
                if time ≤ kernel.now then (.answer (.ok none), kernel)
                else (.wait .child latest, kernel)
            | none => (.wait .child, kernel)

/-! ## Executing -/

/-- Length from which on a single argument is refused. -/
def maxArgument : Nat := 131072

/-- Length from which on all arguments together are refused. -/
def maxArguments : Nat := 2097152

/-- How many interpreters may stand behind each other. -/
def maxInterpreters : Nat := 5

def isTooLong (arguments : List Octets) : Bool :=
  let lengths := arguments.map List.length
  lengths.any (maxArgument ≤ ·) || maxArguments ≤ lengths.foldl (· + · + 9) 0

/-- The interpreter that a script names in its first line, with what it is to be
given in front of the script. -/
def interpreterOf? (text : Octets) : Option (Octets × List Octets) :=
  match text with
  | '#' :: '!' :: rest =>
      let line := Octets.trim Octets.isBlank (rest.takeWhile (· != '\n'))
      let path := line.takeWhile (fun c => !Octets.isBlank c)
      let argument := (line.drop path.length).dropWhile Octets.isBlank
      if path.isEmpty then none
      else some (path, if argument.isEmpty then [] else [argument])
  | _ => none

/-- The name of the program whose copy a text is. -/
def programOfText? (text : Octets) : Option String :=
  let front := Octets.ofString Disk.programMark
  if front.isPrefixOf text then some (String.ofList (text.drop front.length)) else none

/-- The program that a path leads to, with the arguments that it gets. A script
leads to its interpreter. -/
def programOf (disk : Disk) (directory : Nat) :
    Nat → Octets → List Octets → Except SystemError (String × List Octets)
  | 0, _, _ => .error .tooManyLinks
  | fuel + 1, path, arguments => do
      let number ← disk.find true directory path
      match disk.node? number with
      | none => throw .notFound
      | some node =>
          let isExecutable := node.mode &&& 0o111 != 0
          match node.content with
          | .program name => if isExecutable then return (name, arguments) else throw .accessDenied
          | .file text =>
              if !isExecutable then throw .accessDenied
              match programOfText? text, interpreterOf? text with
              | some name, _ => return (name, arguments)
              | none, none => throw .notExecutableFormat
              | none, some (interpreter, options) =>
                  programOf disk directory fuel interpreter
                    (interpreter :: options ++ path :: arguments.drop 1)
          | _ => throw .accessDenied

/-- Lets the caller go on as another program. -/
def execute
    (load : Loader)
    (kernel : Kernel)
    (member : Member)
    (path : Octets)
    (arguments : List Octets)
    (environment : List (Octets × Octets)) :
    Reply SystemError × Kernel :=
  match programOf kernel.disk member.directory maxInterpreters path arguments with
  | .error cause => (.answer cause, kernel)
  | .ok (name, given) =>
      if isTooLong arguments then (.answer .argumentsTooLong, kernel)
      else
        let kernel := kernel.dropHandles member.number (fun _ handle => handle.transient)
        let kernel := kernel.change member.number fun member =>
          { member with
            dispositions := member.dispositions.filter (fun held => held.2 == .ignored)
            caught := [] }
        (.become (load name given environment), kernel)

end Kernel

end InterfaceAudit
