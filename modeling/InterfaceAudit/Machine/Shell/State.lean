import InterfaceAudit.Machine.Process
import InterfaceAudit.Machine.Shell.Grammar

/-!
Contract: what a running command interpreter holds.

Owns:
- the scope of one interpreter: variables, arguments, functions, traps and jobs;
- the ways in which the flow of commands is broken off;
- output that a builtin holds back until it ends;
- complaints.

Does not own: handles, the working directory and signals, which belong to the
process, or what any command does.
-/

namespace InterfaceAudit.Shell

/-- A variable. One without a value is marked, but not set. -/
structure Variable where
  name : Octets
  value : Option Octets
  isExported : Bool := false
  isFixed : Bool := false
deriving Repr

/-- Processes in the background that were started together, with how those ended
that did. -/
structure Job where
  number : Nat
  processes : List (Nat × Option Ending)
deriving Repr

structure Scope where
  name : Octets
  /-- Whether echo leaves escapes alone and complaints say what their numbers
  are. -/
  isPlain : Bool := false
  process : Nat
  parent : Nat
  /-- The path of the working directory as it was reached. -/
  directory : Octets
  environment : List Variable := []
  arguments : List Octets := []
  functions : List (Octets × Command) := []
  /-- Commands to be run on signals; number zero is the end. -/
  traps : List (Nat × Octets) := []
  jobs : List Job := []
  /-- The process started last in the background. -/
  background : Option Nat := none
  status : Nat := 0
  line : Nat := 1
  /-- The letters of the options that are set. -/
  options : Octets := []
  /-- The builtin or the sourced file at work, which complaints name. -/
  within : Octets := []
  /-- How many loops are being run. -/
  loops : Nat := 0
  /-- The status that an exit without a number gives while traps are run. -/
  lastStatus : Option Nat := none
  /-- The status of the command whose output was last put into a word. -/
  captured : Option Nat := none
  /-- Variables to be put back when a function ends. -/
  saved : List (List (Octets × Option Variable)) := []
  /-- How far letters of options were read in the argument at work. -/
  letters : Nat := 0
  documents : List (Nat × Word) := []
  nextDocument : Nat := 0
  /-- What the builtin at work printed, the last part first. -/
  held : List Octets := []

/-- Why the flow of commands is broken off. -/
inductive Stop where
  /-- The interpreter ends. -/
  | exited (status : Nat)
  /-- An error ends the interpreter, unless a command guards against it. -/
  | failed (status : Nat)
  /-- A number of loops is left; the last of them perhaps goes on. -/
  | left (loops : Nat) (again : Bool)
  | returned
deriving Repr

abbrev Run := ExceptT Stop (StateT Scope Task)

/-- The number that stands for an ending in the status. -/
def statusOf : Ending → Nat
  | .exited status => status
  | .killed signal => 128 + signal

namespace Run

/-! ## Scope -/

def scope : Run Scope := get

def changeScope (change : Scope → Scope) : Run Unit := modify change

def setStatus (status : Nat) : Run Unit := modify fun scope => { scope with status }

def hasOption (letter : Char) : Run Bool := return (← get).options.contains letter

/-- Work after which part of the scope is put back, however the work ends. -/
def keeping {α : Type} (putBack : Scope → Scope → Scope) (work : Run α) : Run α :=
  ExceptT.mk do
    let old ← get
    let result ← work.run
    modify (putBack old)
    return result

/-- Work, and then more work that is done however the first one ended. -/
def thenAlways {α : Type} (work : Run α) (last : Run Unit) : Run α :=
  ExceptT.mk do
    let result ← work.run
    let ended ← last.run
    match ended with
    | .ok _ => return result
    | .error stop => return .error stop

/-! ## Output -/

/-- Writes to a handle. What cannot be written is lost. -/
def write (handle : Nat) (text : Octets) : Run Unit := do
  if !text.isEmpty then discard (liftM (Task.write handle text))

def print (text : Octets) : Run Unit := modify fun scope => { scope with held := text :: scope.held }

/-- Complains, with the name of the interpreter, the line, and what is at
work. -/
def complain (text : Octets) : Run Unit := do
  let scope ← get
  let within := if scope.within.isEmpty then [] else scope.within ++ [':', ' ']
  let line := (if scope.isPlain then Octets.ofString "line " else []) ++ Octets.ofNat scope.line
  write 2 (scope.name ++ [':', ' '] ++ line ++ [':', ' '] ++ within ++ text ++ ['\n'])

/-- Writes what a builtin printed, and tells whether that could be done. -/
def flush : Run Bool := do
  let held := (← get).held
  modify fun scope => { scope with held := [] }
  match held.reverse.flatten with
  | [] => return true
  | text =>
      match ← Task.write 1 text with
      | .ok _ => return true
      | .error _ => return false

def fail {α : Type} (text : Octets) (status : Nat := 2) : Run α := do
  complain text
  throw (.failed status)

/-! ## Variables -/

/-- A variable that is marked or set. -/
def find? (name : Octets) : Run (Option Variable) :=
  return (← get).environment.find? (fun held => held.name == name)

def value? (name : Octets) : Run (Option Octets) :=
  return (← find? name).bind Variable.value

def searchPath : Run Octets :=
  return (← value? (Octets.ofString "PATH")).getD
    (Octets.ofString "/usr/local/sbin:/usr/local/bin:/usr/sbin:/usr/bin:/sbin:/bin")

/-- Puts a variable in the place of the one with the same name. -/
def setVariable (new : Variable) : Run Unit :=
  modify fun scope =>
    { scope with
      environment :=
        if scope.environment.any (fun held => held.name == new.name) then
          scope.environment.map fun held => if held.name == new.name then new else held
        else scope.environment ++ [new] }

def dropVariable (name : Octets) : Run Unit :=
  modify fun scope =>
    { scope with environment := scope.environment.filter (fun held => held.name != name) }

/-- How many characters of a value are kept in a microsecond. -/
def pace : Nat := 16

/-- Sets the value of a variable. A long value takes its time. -/
def assign (name value : Octets) : Run Unit := do
  if 256 * pace ≤ value.length then liftM (Task.spend (value.length / pace))
  let old ← find? name
  if (old.map Variable.isFixed).getD false then
    fail (name ++ Octets.ofString ": is read only")
  if name == Octets.ofString "OPTIND" then
    modify fun scope => { scope with letters := 0 }
  let isExported := (old.map Variable.isExported).getD false || (← hasOption 'a')
  setVariable { name, value := some value, isExported }

def unassign (name : Octets) : Run Unit := do
  if ((← find? name).map Variable.isFixed).getD false then
    fail (name ++ Octets.ofString ": is read only")
  dropVariable name

def putBack (name : Octets) (old : Option Variable) : Run Unit :=
  match old with
  | none => dropVariable name
  | some held => setVariable held

/-- Marks a variable to be seen by programs. -/
def exportVariable (name : Octets) : Run Unit := do
  let old := (← find? name).getD { name, value := none }
  setVariable { old with isExported := true }

def exported : Run (List (Octets × Octets)) :=
  return (← get).environment.filterMap fun held =>
    if held.isExported then held.value.map fun value => (held.name, value) else none

def separators : Run Octets :=
  return (← value? ['I', 'F', 'S']).getD [' ', '\t', '\n']

/-- The letters of options in the order in which they are shown. -/
def optionLetters : List Char := "efIimnsxvVECabup".toList

/-- The value of a parameter, if it is set. -/
def parameter? (name : Octets) : Run (Option Octets) := do
  let scope ← get
  match name with
  | ['?'] => return some (Octets.ofNat scope.status)
  | ['$'] => return some (Octets.ofNat scope.process)
  | ['#'] => return some (Octets.ofNat scope.arguments.length)
  | ['-'] => return some (optionLetters.filter (fun letter => scope.options.contains letter))
  | ['!'] => return scope.background.map Octets.ofNat
  | ['0'] => return some scope.name
  | ['@'] =>
      return if scope.arguments.isEmpty then none else some (Octets.join [' '] scope.arguments)
  | ['*'] =>
      let separator := (← separators).take 1
      return if scope.arguments.isEmpty then none
        else some (Octets.join separator scope.arguments)
  | name =>
      match Octets.natOf? name with
      | some number => return scope.arguments[number - 1]?
      | none => value? name

end Run

end InterfaceAudit.Shell
