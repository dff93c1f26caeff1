import InterfaceAudit.Machine.Shell.State
import InterfaceAudit.Machine.Tool.Condition
import InterfaceAudit.Machine.Tool.Format
import InterfaceAudit.Machine.Tool.Processes

/-!
Contract: commands that the interpreter carries out itself.

Owns: the commands that act on the scope, the directory, signals and jobs, or
only print, with their complaints.

Does not own: commands that run other commands.
-/

namespace InterfaceAudit.Shell

/-- A command of the interpreter: its arguments lead to a status. -/
abbrev Builtin := List Octets → Run Nat

namespace Builtin

def say (text : Octets) : Run Nat := do
  Run.print text
  return 0

def echo (arguments : List Octets) : Run Nat := do
  say (if (← Run.scope).isPlain then Tool.echoPlain arguments else Tool.echoBuiltin arguments)

def complain (text : Octets) (status : Nat := 2) : Run Nat := do
  Run.complain text
  return status

/-- Options of single letters, up to the first argument that is none; others are
refused. -/
def letterOptions (known : String) : List Octets → Run (Octets × List Octets)
  | ['-', '-'] :: arguments => return ([], arguments)
  | ('-' :: letter :: letters) :: arguments => do
      match (letter :: letters).find? (fun c => !known.toList.contains c) with
      | some unknown => Run.fail (Octets.ofString "Illegal option -" ++ [unknown])
      | none =>
          let (others, arguments) ← letterOptions known arguments
          return (letter :: letters ++ others, arguments)
  | arguments => return ([], arguments)

/-- A text in single quotes, as the interpreter would read it. -/
def quoted (text : Octets) : Octets :=
  let parts := Octets.splitAt '\'' text
  Octets.join ['"', '\'', '"'] (parts.map fun part => '\'' :: part ++ ['\''])

def numberOf (text : Octets) : Run Nat := do
  match (Octets.natOf? text).filter (· < 0x80000000) with
  | some number => return number
  | none => Run.fail (Octets.ofString "Illegal number: " ++ text)

/-! ## Signals -/

/-- The number of a signal given by number or by the letters that are its own;
the end of the interpreter counts if `hasEnd` is set. -/
def signalOf? (hasEnd : Bool) (text : Octets) : Option Nat :=
  match Octets.natOf? text with
  | some number => if number ≤ 64 then some number else none
  | none =>
      let name := (String.ofList text).toUpper
      if name == "EXIT" then if hasEnd then some 0 else none
      else (ExitStatus.signalNames.idxOf? ("SIG" ++ name)).map (· + 1)

def signalTitle (number : Nat) : Octets :=
  if number == 0 then Octets.ofString "EXIT" else Tool.signalName number

/-- Lets a signal have its effect again, be ignored or be kept for a command. A
signal that was ignored from the start stays ignored. -/
def setTrap (number : Nat) (action? : Option Octets) : Run Unit := do
  let old? := (← Run.scope).traps.lookup number
  let isSettled ← do
    if number == 0 || old?.isSome then pure false
    else
      let now : Disposition ← Task.ask (.disposition number)
      pure (now == .ignored)
  Run.changeScope fun scope =>
    let others := scope.traps.filter (fun held => held.1 != number)
    { scope with
      traps := match action? with
        | none => others
        | some action => (others ++ [(number, action)]).mergeSort (fun x y => x.1 ≤ y.1) }
  if number != 0 && !isSettled then
    liftM (Task.ask (.dispose number (match action? with
      | none => .standard
      | some [] => .ignored
      | some _ => .caught)))

/-- Sets, clears or shows the commands that are run on signals. -/
def trap : Builtin := fun arguments => do
  let (_, arguments) ← letterOptions "" arguments
  match arguments with
  | [] => do
      for (number, action) in (← Run.scope).traps do
        Run.print (Octets.ofString "trap -- " ++ quoted action ++ ' ' :: signalTitle number ++ ['\n'])
      return 0
  | action :: names =>
      let (action?, names) :=
        if names.isEmpty || (signalOf? true action).isSome && (Octets.natOf? action).isSome then
          (none, action :: names)
        else if action == ['-'] then (none, names)
        else (some action, names)
      let mut status := 0
      for name in names do
        match signalOf? true name with
        | none =>
            Run.write 2 (Octets.ofString "trap: " ++ name ++ Octets.ofString ": bad trap\n")
            status := 1
        | some number => setTrap number action?
      return status

/-! ## Jobs -/

def jobOf (text : Octets) : Run Job := do
  let jobs := (← Run.scope).jobs
  let found? :=
    match text with
    | ['%'] | ['%', '%'] | ['%', '+'] => jobs.getLast?
    | '%' :: number => (Octets.natOf? number).bind fun number =>
        jobs.find? (fun job => job.number == number)
    | _ => none
  match found? with
  | some job => return job
  | none =>
      if jobs.isEmpty && text.length < 3 then Run.fail (Octets.ofString "No current job")
      else Run.fail (Octets.ofString "No such job: " ++ text)

/-- Sends a signal to a process, a group or a job. -/
def sendSignal (signal : Nat) (target : Octets) : Run Nat := do
  let number : Int ←
    match target with
    | '%' :: _ => do
        let job ← jobOf target
        pure (-(((job.processes.head?.map Prod.fst).getD 0 : Nat) : Int))
    | '-' :: digits => do pure (-((← numberOf digits : Nat) : Int))
    | digits => do pure ((← numberOf digits : Nat) : Int)
  match ← Task.kill number signal with
  | .ok _ => return 0
  | .error cause => complain (Octets.ofString (cause.text ++ "\n")) 1

def kill : Builtin := fun arguments => do
  let misuse : Run Nat := Run.fail (Octets.ofString
    "Usage: kill [-s sigspec | -signum | -sigspec] [pid | job]... or\nkill -l [exitstatus]")
  let send (signal : Nat) (targets : List Octets) : Run Nat := do
    if targets.isEmpty then misuse
    else
      let statuses ← targets.mapM (sendSignal signal)
      return statuses.foldl max 0
  let refuse (name : Octets) : Run Nat :=
    Run.fail (Octets.ofString "invalid signal number or name: " ++ name)
  match arguments with
  | [] => misuse
  | ['-', '-'] :: targets => send 15 targets
  | ['-', 'l'] :: names =>
      match names with
      | [] =>
          say ('0' :: '\n' :: Octets.unlines ((List.range 64).map fun index => Tool.signalName (index + 1)))
      | name :: _ => do
          let number ← numberOf name
          let number := if 128 < number then number - 128 else number
          if 0 < number && number ≤ 64 then say (Tool.signalName number ++ ['\n'])
          else Run.fail (Octets.ofString "invalid signal number or exit status: " ++ name)
  | [['-', 's']] => Run.fail (Octets.ofString "No arg for -s option")
  | ['-', 's'] :: name :: targets =>
      match signalOf? false name with
      | some signal => send signal (if targets.head? == some ['-', '-'] then targets.drop 1 else targets)
      | none => refuse name
  | ('-' :: letter :: letters) :: targets =>
      match signalOf? false (letter :: letters) with
      | some signal => send signal targets
      | none =>
          if letter == 's' then
            match signalOf? false letters with
            | some signal => send signal targets
            | none => refuse letters
          else Run.fail (Octets.ofString "Illegal option -" ++ [letter])
  | targets => send 15 targets

/-- What is said about a process that a signal ended while it was waited for. -/
def noticeOf : Ending → Octets
  | .exited _ => []
  | .killed signal =>
      if signal == 2 || signal == 13 then []
      else Octets.ofString (signalSentence signal) ++ ['\n']
where
  signalSentence : Nat → String
    | 1 => "Hangup"
    | 3 => "Quit"
    | 4 => "Illegal instruction"
    | 5 => "Trace/breakpoint trap"
    | 6 => "Aborted"
    | 7 => "Bus error"
    | 8 => "Floating point exception"
    | 9 => "Killed"
    | 10 => "User defined signal 1"
    | 11 => "Segmentation fault"
    | 12 => "User defined signal 2"
    | 14 => "Alarm clock"
    | 15 => "Terminated"
    | 16 => "Stack fault"
    | 24 => "CPU time limit exceeded"
    | 25 => "File size limit exceeded"
    | 26 => "Virtual timer expired"
    | 27 => "Profiling timer expired"
    | 29 => "I/O possible"
    | 30 => "Power failure"
    | 31 => "Bad system call"
    | signal => "Real-time signal " ++ toString (signal - 34)

def noteEnding (process : Nat) (ending : Ending) : Run Unit :=
  Run.changeScope fun scope =>
    { scope with
      jobs := scope.jobs.map fun job =>
        { job with
          processes := job.processes.map fun held =>
            if held.1 == process then (process, some ending) else held } }

/-- Waits for processes in order. What is said of those that signals ended is
said if `isTold` is set. The result tells whether a signal broke off. -/
def waitFor (isTold interruptible : Bool) : List (Nat × Option Ending) → Run Bool
  | [] => return true
  | (process, known?) :: others => do
      let goesOn ←
        match known? with
        | some _ => pure true
        | none => do
            match ← Task.wait (some process) none interruptible with
            | .ok (some (_, ending)) => do
                noteEnding process ending
                if isTold then Run.write 2 (noticeOf ending)
                pure true
            | .error .interrupted => pure false
            | _ => do
                noteEnding process (.exited 127)
                pure true
      if goesOn then waitFor isTold interruptible others else return false

/-- The status of a job whose processes have ended: that of the last one. -/
def jobStatus (number : Nat) : Run Nat := do
  let job? := (← Run.scope).jobs.find? (fun job => job.number == number)
  return ((job?.bind (fun job => job.processes.getLast?)).bind Prod.snd).elim 127 statusOf

/-- Waits for jobs to end; a signal that is caught breaks off. -/
def wait : Builtin := fun arguments => do
  let interrupted : Run Nat := return 128 + 15
  let (_, arguments) ← letterOptions "" arguments
  match arguments with
  | [] => do
      let jobs := (← Run.scope).jobs
      if ← waitFor false true (jobs.flatMap Job.processes) then return 0 else interrupted
  | targets => do
      let mut status := 127
      for target in targets do
        let job? : Option Job ←
          match target with
          | '%' :: _ => do pure (some (← jobOf target))
          | digits => do
              let number ← numberOf digits
              pure ((← Run.scope).jobs.find? fun job =>
                job.processes.getLast?.map Prod.fst == some number)
        match job? with
        | none => status := 127
        | some job => do
            if ← waitFor true true job.processes then status ← jobStatus job.number
            else return ← interrupted
      return status

def jobs : Builtin := fun arguments => do
  let (_, _) ← letterOptions "lp" arguments
  for job in (← Run.scope).jobs do
    for (process, known?) in job.processes do
      if known?.isNone then
        match ← Task.wait (some process) (some 0) with
        | .ok (some (_, ending)) => noteEnding process ending
        | _ => pure ()
  let jobs := (← Run.scope).jobs
  for (job, index) in jobs.zipIdx do
    let mark := if index + 1 == jobs.length then '+' else if index + 2 == jobs.length then '-' else ' '
    let isRunning := job.processes.any (fun held => held.2.isNone)
    let state : Octets :=
      if isRunning then Octets.ofString "Running"
      else
        match job.processes.getLast?.bind Prod.snd with
        | some (.exited 0) | none => Octets.ofString "Done"
        | some (.exited status) => Octets.ofString "Done(" ++ Octets.ofNat status ++ [')']
        | some ending => (noticeOf ending).dropLast
    Run.print (Octets.padRight 33
      ('[' :: Octets.ofNat job.number ++ [']', ' ', mark, ' '] ++ state) ++ ['\n'])
  Run.changeScope fun scope =>
    { scope with jobs := scope.jobs.filter fun job => job.processes.any (fun held => held.2.isNone) }
  return 0

/-- Refuses to move a job, as there is none to be moved. -/
def moveJob : Builtin := fun arguments => do
  discard (jobOf (arguments.headD ['%', '%']))
  Run.fail (Octets.ofString "job not created under job control")

/-! ## The flow of commands -/

/-- The number given to a command that ends something. -/
def countArgument (standard : Nat) (arguments : List Octets) : Run Nat :=
  match arguments with
  | [] => return standard
  | text :: _ => numberOf text

/-- Ends the interpreter. While traps are run, the status before them stands. -/
def exit : Builtin := fun arguments => do
  let scope ← Run.scope
  let status ← countArgument (scope.lastStatus.getD scope.status) arguments
  throw (.exited (status % 256))

/-- Ends a function or a sourced script. -/
def «return» : Builtin := fun arguments => do
  let status ← countArgument (← Run.scope).status arguments
  Run.setStatus status
  throw .returned

/-- Leaves loops, as far as there are any. -/
def leave (again : Bool) : Builtin := fun arguments => do
  let count ← countArgument 1 arguments
  if count == 0 then Run.fail (Octets.ofString "Illegal number: " ++ arguments.headD [])
  let loops := min count (← Run.scope).loops
  if loops == 0 then return 0
  Run.setStatus 0
  throw (.left loops again)

/-! ## Variables and options -/

def forNames (work : Octets → Option Octets → Run Unit) (arguments : List Octets) : Run Nat := do
  for argument in arguments do
    let (name, value?) :=
      match Tool.assignmentOf? argument with
      | some (name, value) => (name, some value)
      | none => (argument, none)
    if !Parser.isName name then
      Run.fail (argument ++ Octets.ofString ": bad variable name")
    work name value?
  return 0

def assignGiven (name : Octets) (value? : Option Octets) : Run Unit := do
  match value? with
  | some value => Run.assign name value
  | none => return

/-- Shows marked variables, in the order of their names. -/
def showVariables (front : String) (isShown : Variable → Bool) : Run Nat := do
  let shown := (← Run.scope).environment.filter isShown
  for held in shown.mergeSort (fun x y => !Octets.before y.name x.name) do
    let value := (held.value.map fun value => '=' :: quoted value).getD []
    Run.print (Octets.ofString front ++ held.name ++ value ++ ['\n'])
  return 0

/-- Marks variables to be seen by programs, or shows those that are. -/
def «export» : Builtin := fun arguments => do
  let (letters, names) ← letterOptions "p" arguments
  if names.isEmpty || letters.contains 'p' then showVariables "export " Variable.isExported
  else
    forNames (fun name value? => do
      assignGiven name value?
      Run.exportVariable name) names

/-- Assigns variables that are not to change, or shows those. -/
def readonly : Builtin := fun arguments => do
  let (letters, names) ← letterOptions "p" arguments
  if names.isEmpty || letters.contains 'p' then showVariables "readonly " Variable.isFixed
  else
    forNames (fun name value? => do
      assignGiven name value?
      let held := (← Run.find? name).getD { name, value := none }
      Run.setVariable { held with isFixed := true }) names

/-- Makes variables of a function. -/
def «local» : Builtin := fun arguments => do
  if (← Run.scope).saved.isEmpty then Run.fail (Octets.ofString "not in a function")
  forNames (fun name value? => do
    let old ← Run.find? name
    Run.changeScope fun scope =>
      match scope.saved with
      | [] => scope
      | names :: others =>
          if (names.lookup name).isSome then scope
          else { scope with saved := ((name, old) :: names) :: others }
    assignGiven name value?) arguments

def unset : Builtin := fun arguments => do
  let (letters, names) ← letterOptions "vf" arguments
  for name in names do
    if letters.getLast? != some 'v' && (letters.contains 'f' || (← Run.find? name).isNone) then
      Run.changeScope fun scope =>
        { scope with functions := scope.functions.filter (fun held => held.1 != name) }
    else Run.unassign name
  return 0

def optionNames : List (String × Char) := [
  ("errexit", 'e'), ("noglob", 'f'), ("ignoreeof", 'I'), ("interactive", 'i'), ("monitor", 'm'),
  ("noexec", 'n'), ("stdin", 's'), ("xtrace", 'x'), ("verbose", 'v'), ("vi", 'V'), ("emacs", 'E'),
  ("noclobber", 'C'), ("allexport", 'a'), ("notify", 'b'), ("nounset", 'u'), ("privileged", 'p'),
  ("nolog", '\x01'), ("debug", '\x02')]

def setOption (on : Bool) (letter : Char) : Run Unit :=
  Run.changeScope fun scope =>
    let others := scope.options.filter (· != letter)
    { scope with options := if on then letter :: others else others }

def showOptions (asCommands : Bool) : Run Unit := do
  if !asCommands then Run.print (Octets.ofString "Current option settings\n")
  for (name, letter) in optionNames do
    let isOn ← Run.hasOption letter
    Run.print (Octets.ofString
      (if asCommands then "set " ++ (if isOn then "-o " else "+o ") ++ name ++ "\n"
      else name ++ String.ofList (List.replicate (16 - name.length) ' ') ++
        (if isOn then "on\n" else "off\n")))

/-- Reads options, and gives what is left of the arguments, if a double hyphen
or an operand was found. -/
def readOptions : Nat → List Octets → Run (Option (List Octets))
  | 0, _ => return none
  | _, [] => return none
  | _, ['-', '-'] :: arguments => return some arguments
  | _, ['-'] :: arguments => do
      setOption false 'x'
      setOption false 'v'
      return if arguments.isEmpty then none else some arguments
  | _, [[sign, 'o']] => do
      if sign == '-' || sign == '+' then
        showOptions (sign == '+')
        return none
      else return some [[sign, 'o']]
  | fuel + 1, [sign, 'o'] :: name :: arguments => do
      if sign == '-' || sign == '+' then
        match optionNames.lookup (String.ofList name) with
        | some letter => setOption (sign == '-') letter
        | none => Run.fail (Octets.ofString "Illegal option " ++ sign :: 'o' :: ' ' :: name)
        readOptions fuel arguments
      else return some ([sign, 'o'] :: name :: arguments)
  | fuel + 1, (sign :: letter :: letters) :: arguments => do
      if sign == '-' || sign == '+' then
        let (letters, named, arguments) : Octets × Option Octets × List Octets :=
          if (letter :: letters).getLast? == some 'o' then
            ((letter :: letters).dropLast, some (arguments.headD []), arguments.drop 1)
          else (letter :: letters, none, arguments)
        for letter in letters do
          if !Run.optionLetters.contains letter then
            Run.fail (Octets.ofString "Illegal option " ++ [sign, letter])
          setOption (sign == '-') letter
        match named with
        | none => pure ()
        | some name =>
            match optionNames.lookup (String.ofList name) with
            | some letter => setOption (sign == '-') letter
            | none => Run.fail (Octets.ofString "Illegal option " ++ sign :: 'o' :: ' ' :: name)
        readOptions fuel arguments
      else return some ((sign :: letter :: letters) :: arguments)
  | _, arguments => return some arguments

/-- Sets options and arguments, or shows all variables. -/
def set : Builtin := fun arguments => do
  if arguments.isEmpty then showVariables "" (fun held => held.value.isSome)
  else
    match ← readOptions (arguments.length + 1) arguments with
    | some arguments => Run.changeScope fun scope => { scope with arguments }
    | none => pure ()
    return 0

def shift : Builtin := fun arguments => do
  let count ← countArgument 1 arguments
  let scope ← Run.scope
  if scope.arguments.length < count then
    Run.fail (Octets.ofString "can't shift that many")
  Run.changeScope fun scope => { scope with arguments := scope.arguments.drop count }
  return 0

/-- Reads the next option of the arguments. -/
def getopts : Builtin := fun arguments => do
  match arguments with
  | form :: name :: given => do
      let scope ← Run.scope
      let words := if given.isEmpty then scope.arguments else given
      let index := (((← Run.value? (Octets.ofString "OPTIND")).bind Octets.natOf?).getD 1) - 1
      let isSilent := form.head? == some ':'
      let finish (value : Octets) (argument? : Option Octets) (index letters status : Nat) : Run Nat := do
        Run.assign name value
        match argument? with
        | some argument => Run.assign (Octets.ofString "OPTARG") argument
        | none => Run.dropVariable (Octets.ofString "OPTARG")
        Run.assign (Octets.ofString "OPTIND") (Octets.ofNat (index + 1))
        Run.changeScope fun scope => { scope with letters }
        return status
      let word := words.getD index []
      let start := if scope.letters == 0 || word.length ≤ scope.letters then 1 else scope.letters
      if scope.letters == 0 && (word.length < 2 || word.head? != some '-' || word == ['-', '-']) then
        finish ['?'] none (if word == ['-', '-'] then index + 1 else index) 0 1
      else
        let letter := word.getD start '?'
        let isLast := word.length ≤ start + 1
        let next := if isLast then index + 1 else index
        let letters := if isLast then 0 else start + 1
        match (form.filter (· != ':')).contains letter, form.dropWhile (· != letter) with
        | true, _ :: ':' :: _ =>
            if !isLast then finish [letter] (some (word.drop (start + 1))) (index + 1) 0 0
            else
              match words[index + 1]? with
              | some value => finish [letter] (some value) (index + 2) 0 0
              | none =>
                  if isSilent then finish [':'] (some [letter]) (index + 1) 0 0
                  else do
                    Run.write 2 (Octets.ofString "No arg for -" ++ letter :: Octets.ofString " option\n")
                    finish ['?'] none (index + 1) 0 0
        | true, _ => finish [letter] none next letters 0
        | false, _ =>
            if isSilent then finish ['?'] (some [letter]) next letters 0
            else do
              Run.write 2 (Octets.ofString "Illegal option -" ++ [letter, '\n'])
              finish ['?'] none next letters 0
  | _ => Run.fail (Octets.ofString "Usage: getopts optstring var [arg...]")

/-! ## Input -/

/-- Reads a line character by character: its characters in reverse with a mark
whether they were escaped, and whether a line feed ends it. -/
def takeLine (raw : Bool) : Nat → List (Char × Bool) → Run (List (Char × Bool) × Bool)
  | 0, line => return (line, false)
  | fuel + 1, line => do
      match ← Task.read 0 1 with
      | .ok [c] =>
          if c == '\\' && !raw then
            match ← Task.read 0 1 with
            | .ok ['\n'] => takeLine raw fuel line
            | .ok [c] => takeLine raw fuel ((c, true) :: line)
            | _ => return (line, false)
          else if c == '\n' then return (line, true)
          else if c == '\x00' then takeLine raw fuel line
          else takeLine raw fuel ((c, false) :: line)
      | .error .interrupted => takeLine raw fuel line
      | _ => return (line, false)

/-- Gives every name a field of a line; the last one gets all that is left. -/
def fieldsFor (separators : Octets) : List Octets → List (Char × Bool) → List (Octets × Octets)
  | [], _ => []
  | name :: names, line =>
      let isSeparator (mark : Char × Bool) : Bool := separators.contains mark.1 && !mark.2
      let isBlank (mark : Char × Bool) : Bool :=
        isSeparator mark && [' ', '\t', '\n'].contains mark.1
      let line := line.dropWhile isBlank
      let field := line.takeWhile (fun mark => !isSeparator mark)
      let rest := (line.drop field.length).dropWhile isBlank
      let rest :=
        match rest with
        | mark :: others => if isSeparator mark then others.dropWhile isBlank else rest
        | [] => []
      if names.isEmpty then
        let whole := (line.reverse.dropWhile isBlank).reverse
        [(name, (if rest.isEmpty then field else whole).map Prod.fst)]
      else (name, field.map Prod.fst) :: fieldsFor separators names rest

def read : Builtin := fun arguments => do
  let (raw, arguments) := (arguments.contains ['-', 'r'], arguments.filter (· != ['-', 'r']))
  let names :=
    match arguments with
    | ['-', 'p'] :: _ :: names => names
    | arguments => arguments
  match names.find? (fun name => name.head? == some '-') with
  | some option => Run.fail (Octets.ofString "Illegal option " ++ option.take 2)
  | none => pure ()
  if names.isEmpty then Run.fail (Octets.ofString "arg count")
  else
    let (line, isWhole) ← takeLine raw Task.endless []
    for (name, value) in fieldsFor (← Run.separators) names line.reverse do
      if !Parser.isName name then
        Run.fail (name ++ Octets.ofString ": bad variable name")
      Run.assign name value
    return if isWhole then 0 else 1

/-! ## Directories -/

/-- A path seen from a directory, with single dots left out and double dots taken
off. -/
def lexicalPath (directory path : Octets) : Octets :=
  let start := if path.head? == some '/' then [] else Disk.pathNames directory
  let names := (Disk.pathNames path).foldl
    (fun (names : List Octets) name =>
      if name == ['.'] then names
      else if name == ['.', '.'] then names.drop 1
      else name :: names)
    start.reverse
  '/' :: Octets.join ['/'] names.reverse

/-- Moves to a directory, and tells whether that could be done. -/
def moveTo (isPhysical : Bool) (target : Octets) : Run Bool := do
  let scope ← Run.scope
  let path := if isPhysical then target else lexicalPath scope.directory target
  let moved : Except SystemError Unit ← Task.ask (.changeDirectory path)
  match moved with
  | .error _ => return false
  | .ok _ => do
      let directory ←
        if isPhysical then do
          let found : Except SystemError Octets ← Task.directory
          pure (found.toOption.getD path)
        else pure path
      Run.changeScope fun scope => { scope with directory }
      Run.assign (Octets.ofString "OLDPWD") scope.directory
      Run.assign (Octets.ofString "PWD") directory
      return true

/-- Moves to the first directory of a name in some directories; gives whether it
was found, and whether its path is to be told. -/
def moveAmong (isPhysical : Bool) (target : Octets) : List Octets → Run (Bool × Bool)
  | [] => return (← moveTo isPhysical target, false)
  | folder :: folders => do
      let path := if folder.isEmpty then target else Tool.below folder target
      if ← Task.isDirectory path then return (← moveTo isPhysical path, !folder.isEmpty)
      else moveAmong isPhysical target folders

def cd : Builtin := fun arguments => do
  let (letters, arguments) ←
    if arguments.head? == some ['-'] then pure ([], arguments) else letterOptions "LP" arguments
  let isPhysical := letters.getLast? == some 'P'
  let isBack := arguments.head? == some ['-']
  let target ←
    match arguments with
    | [] => pure ((← Run.value? (Octets.ofString "HOME")).getD [])
    | target :: _ =>
        if isBack then pure ((← Run.value? (Octets.ofString "OLDPWD")).getD []) else pure target
  let isRooted := target.head? == some '/' || target.isEmpty ||
    [['.'], ['.', '.']].contains (target.takeWhile (· != '/'))
  let folders ←
    if isRooted then pure []
    else pure (((← Run.value? (Octets.ofString "CDPATH")).map (Octets.splitAt ':')).getD [])
  let (isDone, isTold) ← moveAmong isPhysical (if target.isEmpty then ['.'] else target) folders
  if !isDone then Run.fail (Octets.ofString "can't cd to " ++ target)
  else if isBack || isTold then say ((← Run.scope).directory ++ ['\n'])
  else return 0

def pwd : Builtin := fun arguments => do
  let (letters, _) ← letterOptions "LP" arguments
  if letters.getLast? == some 'P' then
    let found : Except SystemError Octets ← Task.directory
    match found with
    | .ok path => say (path ++ ['\n'])
    | .error cause => Run.fail (Octets.ofString ("getcwd() failed: " ++ cause.text))
  else say ((← Run.scope).directory ++ ['\n'])

/-- Sets or shows the permissions that new files do not get. -/
def umask : Builtin := fun arguments => do
  let (letters, arguments) ← letterOptions "S" arguments
  let old : Nat ← Task.ask (.setMask none)
  match arguments with
  | [] =>
      if letters.contains 'S' then
        let given := 0o777 &&& (0o777 ^^^ old)
        let part (bits : Nat) : Octets := (Tool.modeLetters bits).filter (· != '-')
        say (Octets.ofString "u=" ++ part (given / 64) ++ Octets.ofString ",g=" ++
          part (given / 8 % 8) ++ Octets.ofString ",o=" ++ part (given % 8) ++ ['\n'])
      else say (Octets.padZeros 4 (Nat.toDigits 8 old) ++ ['\n'])
  | text :: _ => do
      let isNumber := (text.head?.map Char.isDigit).getD false
      if isNumber && !text.all (fun c => '0' ≤ c && c ≤ '7') then
        Run.fail (Octets.ofString "Illegal number: " ++ text)
      match Tool.modeChange? text with
      | none => Run.fail (Octets.ofString "Illegal mode: " ++ text)
      | some change => do
          let mask :=
            if isNumber then Octets.valueOf 8 text
            else 0o777 ^^^ (change true 0 (0o777 ^^^ old) &&& 0o777)
          let _ : Nat ← Task.ask (.setMask (some (mask &&& 0o777)))
          return 0

/-- Shows limits, none of which is in force. -/
def ulimit : Builtin := fun arguments => do
  let (letters, arguments) ← letterOptions "HSatfdscmlpnvwr" arguments
  if arguments.isEmpty then
    say (Octets.ofString (if letters.contains 'c' then "0\n" else if letters.contains 'n' then "1048576\n"
      else "unlimited\n"))
  else return 0

/-! ## Conditions and output -/

def condition (words : List Octets) : Run Nat := do
  match ← Tool.Condition.holds words with
  | .ok value => return if value then 0 else 1
  | .error trouble => complain trouble.text

def bracket : Builtin := fun arguments => do
  if arguments.getLast? == some [']'] then condition arguments.dropLast
  else complain (Octets.ofString "missing ]")

def printFormatted (format : Octets) (arguments : List Octets) : Run Nat := do
  let formatted := Tool.format false format arguments
  Run.print formatted.output
  for misfit in formatted.misfits do
    Run.complain misfit.text
  return formatted.status

def printf : Builtin := fun arguments => do
  match arguments with
  | ['-', '-'] :: format :: arguments => printFormatted format arguments
  | [] | [['-', '-']] => Run.fail (Octets.ofString "usage: printf format [arg ...]")
  | ('-' :: letter :: _) :: _ => Run.fail (Octets.ofString "Illegal option -" ++ [letter])
  | format :: arguments => printFormatted format arguments

/-- Complains about names that stand for no abbreviation; there are none. -/
def abbreviations (front : String) : Builtin := fun arguments => do
  let names := arguments.filter (fun name => !name.contains '=' && name.head? != some '-')
  for name in names do
    Run.write 2 (Octets.ofString front ++ name ++ Octets.ofString " not found\n")
  return if names.isEmpty then 0 else 1

/-! ## The table -/

/-- Builtins whose failures end a script. -/
def special : List (String × Builtin) := [
  (":", fun _ => return 0),
  ("break", leave false),
  ("continue", leave true),
  ("exit", exit),
  ("export", «export»),
  ("readonly", readonly),
  ("return", «return»),
  ("set", set),
  ("shift", shift),
  ("times", fun _ => say (Octets.ofString "0m0.000000s 0m0.000000s\n0m0.000000s 0m0.000000s\n")),
  ("trap", trap),
  ("unset", unset)]

def regular : List (String × Builtin) := [
  ("true", fun _ => return 0),
  ("false", fun _ => return 1),
  ("cd", cd),
  ("chdir", cd),
  ("pwd", pwd),
  ("echo", echo),
  ("printf", printf),
  ("test", condition),
  ("[", bracket),
  ("read", read),
  ("local", «local»),
  ("umask", umask),
  ("getopts", getopts),
  ("kill", kill),
  ("wait", wait),
  ("jobs", jobs),
  ("fg", moveJob),
  ("bg", moveJob),
  ("alias", abbreviations "alias: "),
  ("unalias", abbreviations "unalias: "),
  ("ulimit", ulimit)]

/-- Names of builtins that run other commands or look for them. -/
def running : List String := [".", "eval", "exec", "command", "type", "hash"]

def find? (name : Octets) : Option Builtin :=
  (special ++ regular).lookup (String.ofList name)

def isBuiltin (name : Octets) : Bool :=
  (find? name).isSome || running.contains (String.ofList name)

/-! ## What names stand for -/

/-- The path of a program along the search path, or why there is none. -/
def locate (name : Octets) (paths : Octets) : Task (Except SystemError Octets) :=
  let rec among : List Octets → SystemError → Task (Except SystemError Octets)
    | [], cause => return .error cause
    | folder :: folders, cause => do
        let path := if folder.isEmpty then name else Tool.below folder name
        match ← Task.status path with
        | .ok status =>
            if status.kind == .regular && status.mode &&& 0o111 != 0 then return .ok path
            else among folders .accessDenied
        | .error .notFound | .error .notADirectory => among folders cause
        | .error other => among folders other
  if name.contains '/' then return .ok name
  else among (Octets.splitAt ':' paths) .notFound

/-- What a command name stands for, in one line. -/
def describe (verbose : Bool) (name : Octets) : Run (Option Octets) := do
  let scope ← Run.scope
  let told (what : String) : Octets :=
    if verbose then name ++ Octets.ofString what else name
  if Parser.reserved.contains (String.ofList name) then
    return some (told " is a shell keyword")
  else if (scope.functions.lookup name).isSome then return some (told " is a shell function")
  else if Parser.specialNames.contains (String.ofList name) then
    return some (told " is a special shell builtin")
  else if isBuiltin name then return some (told " is a shell builtin")
  else
    let found ←
      if name.contains '/' then
        match ← Tool.programPath? [] name with
        | some path => pure (.ok path)
        | none => pure (.error .notFound)
      else liftM (locate name (← Run.searchPath))
    match found with
    | .error _ => return none
    | .ok path => return some (if verbose then name ++ Octets.ofString " is " ++ path else path)

/-- Describes names, or complains about those that stand for nothing. -/
def describeAll (verbose : Bool) : List Octets → Run Nat
  | [] => return 0
  | name :: names => do
      let status ←
        match ← describe verbose name with
        | some text => say (text ++ ['\n'])
        | none =>
            if verbose then Run.print (name ++ Octets.ofString ": not found\n")
            pure 127
      let others ← describeAll verbose names
      return if status == 0 then others else status

/-- Looks for programs in advance. -/
def hash : Builtin := fun arguments => do
  let (_, names) ← letterOptions "rv" arguments
  let mut status := 0
  for name in names do
    if !isBuiltin name && ((← Run.scope).functions.lookup name).isNone then
      match ← locate name (← Run.searchPath) with
      | .ok _ => pure ()
      | .error _ =>
          Run.complain (name ++ Octets.ofString ": not found")
          status := 1
  return status

end Builtin

end InterfaceAudit.Shell
