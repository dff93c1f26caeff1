import InterfaceAudit.Machine.Process

/-!
Contract: what all programs of the machine have in common.

Owns:
- calls of programs, and the output that a program holds back;
- reading of options;
- reading of files and lines;
- the wording of complaints about arguments and files.

Does not own: any program.
-/

namespace InterfaceAudit

/-- Output that is held back until there is enough of it, or the program
ends. -/
structure Output where
  /-- The parts, the last one first. -/
  held : List Octets := []
  size : Nat := 0
  /-- Why something could not be written. -/
  failure : Option SystemError := none

abbrev Tool := StateT Output Task

namespace Tool

structure Call where
  name : Octets
  arguments : List Octets
  /-- The variables that the program sees. -/
  environment : List (Octets × Octets)

/-- A program: a call leads to an exit code. -/
abbrev Program := Call → Tool Nat

/-! ## Output -/

/-- Length from which on output is no longer held back. -/
def heldRoom : Nat := 4096

/-- Writes what is held back. -/
def flush : Tool Unit := do
  let output ← get
  if output.size == 0 then return
  let result ← Task.write 1 output.held.reverse.flatten
  match result with
  | .ok _ => set { output with held := [], size := 0 }
  | .error cause => set { output with held := [], size := 0, failure := some cause }

def print (text : Octets) : Tool Unit := do
  modify fun output =>
    { output with held := text :: output.held, size := output.size + text.length }
  if heldRoom ≤ (← get).size then flush

def printLine (line : Octets) : Tool Unit := print (line ++ ['\n'])

def warn (text : Octets) : Tool Unit := discard (liftM (Task.write 2 text))

/-- Complains, with the name of the program in front. What was printed stays held
back. -/
def Call.remark (call : Call) (text : String) : Tool Unit :=
  warn (call.name ++ Octets.ofString (": " ++ text ++ "\n"))

/-- Complains behind what was printed, with the name of the program in front. -/
def Call.complain (call : Call) (text : String) : Tool Unit := do
  flush
  call.remark text

/-- Tells where help is found. -/
def Call.hint (call : Call) : Tool Unit :=
  warn (Octets.ofString "Try '" ++ call.name ++ Octets.ofString " --help' for more information.\n")

/-- Complains about the arguments, with a hint where help is found. -/
def Call.misuse (call : Call) (text : String) (status : Nat := 1) : Tool Nat := do
  call.complain text
  call.hint
  return status

/-- Complains and ends with an exit code. -/
def Call.fail (call : Call) (text : String) (status : Nat := 1) : Tool Nat := do
  call.complain text
  return status

def Call.missingOperand (call : Call) (text : String := "missing operand") : Tool Nat :=
  call.misuse text

def Call.extraOperand (call : Call) (operand : Octets) : Tool Nat :=
  call.misuse ("extra operand '" ++ operand.shown ++ "'")

/-- Does work for every item; the largest exit code counts. -/
def forEach {α : Type} (work : α → Tool Nat) : List α → Tool Nat
  | [] => return 0
  | item :: items => do
      let first ← work item
      let others ← forEach work items
      return max first others

/-- The process of a program. What could not be written is complained about at
the end. -/
def Program.process (program : Program) (call : Call) : Process :=
  let work : Tool Nat := do
    liftM (Task.spend 300)
    let status ← program call
    flush
    match (← get).failure with
    | none => return status
    | some cause =>
        call.complain ("write error: " ++ cause.text)
        return max status 1
  (work.run {} : Task (Nat × Output)) (fun result => .exit (result.1 % 256))

/-! ## Options -/

/-- The options that a program takes. -/
structure OptionForm where
  /-- Letters without a value. -/
  flags : String := ""
  valued : String := ""
  /-- Letters with a value that may be left out. -/
  optional : String := ""
  /-- Long names, with the letters that they stand for. -/
  long : List (String × Char) := []
  /-- Whether options may stand behind operands. -/
  isMixed : Bool := true
  /-- The exit code of a malformed option. -/
  status : Nat := 1

/-- Options that were read, in order, and the operands. -/
structure Options where
  given : List (Char × Octets) := []
  operands : List Octets := []
deriving Repr

/-- Why an option cannot be read. -/
inductive OptionTrouble where
  | unknown (letter : Char)
  | unknownLong (argument : Octets)
  | valueMissing (letter : Char)
  | valueMissingLong (name : String)
  | valueRefused (name : String)

def OptionTrouble.text : OptionTrouble → String
  | .unknown letter => "invalid option -- '" ++ Octets.shown [letter] ++ "'"
  | .unknownLong argument => "unrecognized option '" ++ argument.shown ++ "'"
  | .valueMissing letter => "option requires an argument -- '" ++ Octets.shown [letter] ++ "'"
  | .valueMissingLong name => "option '--" ++ name ++ "' requires an argument"
  | .valueRefused name => "option '--" ++ name ++ "' doesn't allow an argument"

namespace Options

def has (options : Options) (letter : Char) : Bool :=
  options.given.any (fun option => option.1 == letter)

def value? (options : Options) (letter : Char) : Option Octets :=
  (options.given.reverse.find? (fun option => option.1 == letter)).map Prod.snd

def values (options : Options) (letter : Char) : List Octets :=
  (options.given.filter (fun option => option.1 == letter)).map Prod.snd

def last? (options : Options) (letters : List Char) : Option Char :=
  (options.given.reverse.find? (fun option => letters.contains option.1)).map Prod.fst

/-- The files of the operands, or the standard input if there are none. -/
def files (options : Options) : List Octets :=
  if options.operands.isEmpty then [['-']] else options.operands

/-- Letters behind a hyphen. The value of a letter is the rest of the argument or
the next one. -/
def letters (form : OptionForm) :
    Octets → List Octets → Except OptionTrouble (List (Char × Octets) × List Octets)
  | [], arguments => .ok ([], arguments)
  | letter :: rest, arguments =>
      if form.valued.toList.contains letter then
        if rest.isEmpty then
          match arguments with
          | [] => .error (.valueMissing letter)
          | value :: arguments => .ok ([(letter, value)], arguments)
        else .ok ([(letter, rest)], arguments)
      else if form.optional.toList.contains letter then .ok ([(letter, rest)], arguments)
      else if form.flags.toList.contains letter then do
        let (others, arguments) ← letters form rest arguments
        return ((letter, []) :: others, arguments)
      else .error (.unknown letter)

/-- The long names that a text stands for: the one that it is, or those that it
is the start of. -/
def longNames (form : OptionForm) (text : Octets) : List (String × Char) :=
  match form.long.filter (fun entry => entry.1.toList == text) with
  | [] => form.long.filter (fun entry => text.isPrefixOf entry.1.toList)
  | exact => exact

def long (form : OptionForm) (argument : Octets) (arguments : List Octets) :
    Except OptionTrouble ((Char × Octets) × List Octets) :=
  let name := argument.takeWhile (· != '=')
  let value? := if name.length < argument.length then some (argument.drop (name.length + 1)) else none
  match longNames form name with
  | (full, letter) :: others =>
      if others.any (fun other => other.2 != letter) then
        .error (.unknownLong ('-' :: '-' :: argument))
      else if form.valued.toList.contains letter then
        match value?, arguments with
        | some value, arguments => .ok ((letter, value), arguments)
        | none, value :: arguments => .ok ((letter, value), arguments)
        | none, [] => .error (.valueMissingLong full)
      else if form.optional.toList.contains letter then .ok ((letter, value?.getD []), arguments)
      else if value?.isSome then .error (.valueRefused full)
      else .ok ((letter, []), arguments)
  | [] => .error (.unknownLong ('-' :: '-' :: argument))

/-- Reads options up to a double hyphen; the operands are given in reverse. -/
def read (form : OptionForm) : Nat → List Octets → Options → Except OptionTrouble Options
  | 0, _, options => .ok options
  | _, [], options => .ok { options with operands := options.operands.reverse }
  | fuel + 1, argument :: arguments, options =>
      match argument with
      | ['-', '-'] => .ok { options with operands := options.operands.reverse ++ arguments }
      | '-' :: '-' :: name => do
          let (option, arguments) ← long form name arguments
          read form fuel arguments { options with given := options.given ++ [option] }
      | '-' :: letter :: rest => do
          let (given, arguments) ← letters form (letter :: rest) arguments
          read form fuel arguments { options with given := options.given ++ given }
      | operand =>
          if form.isMixed then
            read form fuel arguments { options with operands := operand :: options.operands }
          else .ok { options with operands := options.operands.reverse ++ operand :: arguments }

end Options

/-- Works with the options of the call, or complains about one. -/
def Call.withOptions (call : Call) (form : OptionForm) (body : Options → Tool Nat) : Tool Nat :=
  match Options.read form (call.arguments.length + 1) call.arguments {} with
  | .ok options => body options
  | .error trouble => call.misuse trouble.text form.status

/-! ## Files -/

/-- Opens a file to read it, where a hyphen stands for the standard input. -/
def openInput (file : Octets) : Tool (Except SystemError Nat) :=
  if file == ['-'] then return .ok 0 else Task.openFile file { reads := true }

/-- Reads a file, where a hyphen stands for the standard input. -/
def readInput (file : Octets) : Tool (Except SystemError Octets) :=
  if file == ['-'] then Task.readAll 0 else Task.readFile file

/-- Reads a file and goes on with its text, or complains. -/
def Call.withText (call : Call) (file : Octets) (body : Octets → Tool Nat) : Tool Nat := do
  match ← readInput file with
  | .ok text => body text
  | .error cause => call.fail (file.shown ++ ": " ++ cause.text)

/-- Reads files one after the other: the texts of those that can be read joined,
and whether all could be. -/
def Call.readJoined (call : Call) (files : List Octets) : Tool (Octets × Bool) := do
  let mut texts : List Octets := []
  let mut isWhole := true
  for file in files do
    match ← readInput file with
    | .ok text => texts := text :: texts
    | .error cause =>
        call.complain (file.shown ++ ": " ++ cause.text)
        isWhole := false
  return (texts.reverse.flatten, isWhole)

/-- Writes a whole file; one that is missing is made. -/
def writeFile (file text : Octets) (appends : Bool := false) : Task (Except SystemError Unit) := do
  match ← Task.openFile file { writes := true, creates := true, empties := !appends, appends } with
  | .error cause => return .error cause
  | .ok handle =>
      let result ← Task.write handle text
      discard (Task.close handle)
      return result

/-! ## Lines -/

structure LineSource where
  handle : Nat
  /-- What ends a line. -/
  mark : Char := '\n'
  /-- What was read and not yet used. -/
  unread : Octets := []
  isEnded : Bool := false

namespace LineSource

/-- Reads until the end of a line has been found, or that of the file. -/
def fill : Nat → LineSource → Task LineSource
  | 0, source => pure source
  | fuel + 1, source => do
      if source.isEnded || source.unread.contains source.mark then return source
      else
        match ← Task.read source.handle Task.blockSize with
        | .ok [] | .error _ => return { source with isEnded := true }
        | .ok text => fill fuel { source with unread := source.unread ++ text }

/-- The next line, if there is one, with whether its mark ends it. -/
def next (source : LineSource) : Task (Option (Octets × Bool) × LineSource) := do
  let source ← fill Task.endless source
  if source.unread.isEmpty then return (none, source)
  let line := source.unread.takeWhile (· != source.mark)
  match source.unread.drop line.length with
  | [] => return (some (line, false), { source with unread := [] })
  | _ :: unread => return (some (line, true), { source with unread })

/-- Gives back what was read and not used, where that is possible. -/
def giveBack (source : LineSource) : Task Unit := do
  if !source.unread.isEmpty then
    discard (Task.ask (.seek source.handle (.back source.unread.length)))

end LineSource

end Tool

end InterfaceAudit
