import InterfaceAudit.Host.Action
import InterfaceAudit.Machine.Tool.Decimal
import InterfaceAudit.Machine.Tool.Paths

/-!
Contract: programs that run others, wait, or send signals.

Owns:
- finding a program along a search path and going on as it;
- names of signals, and durations;
- sleep, env, timeout, nice, nohup, setsid, stdbuf, xargs, kill, which and
  printenv.

Does not own: the command interpreter.
-/

namespace InterfaceAudit.Tool

/-! ## Executing -/

/-- The directories that are searched if no variable names any. -/
def standardPath : Octets := Octets.ofString "/bin:/usr/bin"

/-- The interpreter of files that are no programs. -/
def interpreterPath : Octets := Octets.ofString "/bin/sh"

/-- Goes on as a program at a path; a file without a format is a script. What
comes back is why that could not be done. -/
def executeAt (path : Octets) (arguments : List Octets) (environment : List (Octets × Octets)) :
    Task SystemError := do
  match ← Task.execute path arguments environment with
  | .notExecutableFormat =>
      Task.execute interpreterPath (interpreterPath :: path :: arguments.drop 1) environment
  | cause => return cause

/-- Goes on as the first program of a name in some directories. -/
def executeAmong (name : Octets) (arguments : List Octets) (environment : List (Octets × Octets)) :
    List Octets → SystemError → Task SystemError
  | [], cause => return cause
  | folder :: folders, found => do
      match ← executeAt (if folder.isEmpty then name else below folder name) arguments environment with
      | .notFound | .notADirectory => executeAmong name arguments environment folders found
      | .accessDenied => executeAmong name arguments environment folders .accessDenied
      | cause => return cause

/-- Goes on as a program that is looked for along the search path. -/
def executeAlong (name : Octets) (arguments : List Octets) (environment : List (Octets × Octets)) :
    Task SystemError :=
  if name.isEmpty then return .notFound
  else if name.contains '/' then executeAt name arguments environment
  else
    let folders := (environment.lookup (Octets.ofString "PATH")).getD standardPath
    executeAmong name arguments environment (Octets.splitAt ':' folders) .notFound

/-- The exit code of a command that cannot be executed. -/
def causeStatus (cause : SystemError) : Nat := if cause == .notFound then 127 else 126

/-- Goes on as a command, or complains. -/
def Call.become
    (call : Call)
    (front : String)
    (words : List Octets)
    (environment : List (Octets × Octets) := call.environment) :
    Tool Nat := do
  flush
  match words with
  | [] => return 0
  | name :: _ => do
      let cause ← executeAlong name words environment
      call.complain (front ++ ": " ++ cause.text)
      return causeStatus cause

/-! ## Signals and durations -/

def signalNumber? (text : Octets) : Option Nat :=
  match Octets.natOf? text with
  | some number => if number ≤ 64 then some number else none
  | none =>
      let name := (String.ofList text).toUpper
      let name := if name.startsWith "SIG" then name else "SIG" ++ name
      if name == "SIGEXIT" then some 0
      else (ExitStatus.signalNames.idxOf? name).map (· + 1)

/-- The name of a signal without the letters that all share. -/
def signalName (number : Nat) : Octets :=
  match ExitStatus.signalNames[number - 1]? with
  | some name => (Octets.ofString name).drop 3
  | none => Octets.ofNat number

/-- A duration in microseconds: a number of seconds, or of the unit that a letter
names. -/
def durationOf? (text : Octets) : Option Nat := do
  let (measure, rest) ← Measure.read? text
  let factor ← match rest with
    | [] | ['s'] => some 1
    | ['m'] => some 60
    | ['h'] => some 3600
    | ['d'] => some 86400
    | _ => none
  match measure.magnitude with
  | .finite top bottom =>
      if measure.isNegative && top != 0 then none
      else some ((top * factor * 1000000 + bottom - 1) / bottom)
  | .infinite => if measure.isNegative then none else some 0x4000000000000000
  | .undefined => none

def sleep : Program := fun call =>
  call.withOptions {} fun options => do
    if options.operands.isEmpty then call.missingOperand
    else
      match options.operands.filter (fun operand => (durationOf? operand).isNone) with
      | [] =>
          let total := (options.operands.filterMap durationOf?).foldl (· + ·) 0
          liftM (Task.ask (.sleep total))
          return 0
      | refused =>
          for operand in refused do
            call.complain ("invalid time interval " ++ named operand)
          call.hint
          return 1

/-! ## Variables -/

/-- The name and the value of an assignment. -/
def assignmentOf? (text : Octets) : Option (Octets × Octets) :=
  let name := text.takeWhile (· != '=')
  match text.drop name.length with
  | [] => none
  | _ :: value => some (name, value)

def withVariable (environment : List (Octets × Octets)) (name value : Octets) : List (Octets × Octets) :=
  if (environment.lookup name).isSome then
    environment.map fun held => if held.1 == name then (name, value) else held
  else environment ++ [(name, value)]

/-- The assignments that arguments start with, and the others. -/
def splitAssignments : List Octets → List (Octets × Octets) × List Octets
  | [] => ([], [])
  | argument :: arguments =>
      match assignmentOf? argument with
      | none => ([], argument :: arguments)
      | some assignment =>
          let (others, rest) := splitAssignments arguments
          (assignment :: others, rest)

/-- Puts the words of an argument for a script's first line in its place. -/
def spreadWords : List Octets → List Octets
  | ['-', 'S'] :: text :: arguments =>
      (Octets.splitAt ' ' text).filter (fun word => !word.isEmpty) ++ arguments
  | ('-' :: 'S' :: text) :: arguments =>
      (Octets.splitAt ' ' text).filter (fun word => !word.isEmpty) ++ arguments
  | arguments => arguments

/-- Runs a program with other variables, or prints the variables. -/
def env : Program := fun call =>
  { call with arguments := spreadWords call.arguments }.withOptions {
      flags := "i0v"
      valued := "uCS"
      long := [("ignore-environment", 'i'), ("null", '0'), ("unset", 'u'), ("chdir", 'C')]
      isMixed := false
      status := 125 } fun options => do
    let (isBare, operands) :=
      match options.operands with
      | ['-'] :: operands => (true, operands)
      | operands => (options.has 'i', operands)
    let environment := if isBare then [] else call.environment
    let environment := environment.filter fun (held : Octets × Octets) =>
      !(options.values 'u').contains held.1
    let (assignments, command) := splitAssignments operands
    let environment := assignments.foldl
      (fun environment (name, value) => withVariable environment name value) environment
    let moved : Except SystemError Unit ← match options.value? 'C' with
      | none => pure (.ok ())
      | some folder => Task.ask (.changeDirectory folder)
    match moved, command with
    | .error cause, _ =>
        call.fail ("cannot change directory to " ++ named ((options.value? 'C').getD []) ++ ": " ++ cause.text) 125
    | .ok _, [] =>
        let ending := if options.has '0' then ['\x00'] else ['\n']
        print (environment.flatMap fun (name, value) => name ++ '=' :: value ++ ending)
        return 0
    | .ok _, name :: _ => do
        let status ← call.become (named name) command environment
        if status == 127 && name.contains ' ' then
          call.complain "use -[v]S to pass options in shebang lines"
        return status

def printenv : Program := fun call =>
  call.withOptions { flags := "0", long := [("null", '0')], isMixed := false, status := 2 } fun options => do
    let ending := if options.has '0' then ['\x00'] else ['\n']
    if options.operands.isEmpty then
      print (call.environment.flatMap fun (name, value) => name ++ '=' :: value ++ ending)
      return 0
    else
      let values := options.operands.map (fun name => call.environment.lookup name)
      print (values.flatMap fun value => (value.map (· ++ ending)).getD [])
      return if values.all Option.isSome then 0 else 1

/-! ## Other ways to run programs -/

def Call.missingCommand (call : Call) (status : Nat) : Tool Nat :=
  call.misuse "missing operand" status

/-- Runs a program with another priority, or prints the own one. -/
def nice : Program := fun call =>
  let arguments := call.arguments.map fun argument =>
    match argument with
    | '-' :: c :: rest => if c.isDigit then '-' :: 'n' :: c :: rest else argument
    | argument => argument
  { call with arguments }.withOptions {
      valued := "n"
      long := [("adjustment", 'n')]
      isMixed := false
      status := 125 } fun options => do
    let given := (call.environment.lookup (Octets.ofString "NICENESS")).getD ['0']
    let old := (Octets.intOf? given).getD 0
    match (options.value? 'n').map Octets.intOf? with
    | some none => call.fail ("invalid adjustment " ++ named ((options.value? 'n').getD [])) 125
    | adjustment =>
        match options.operands with
        | [] =>
            if adjustment.isSome then call.misuse "a command must be given with an adjustment" 125
            else
              printLine (Octets.ofInt old)
              return 0
        | name :: arguments =>
            let new := min 19 (max (-20) (old + ((adjustment.bind id).getD 10)))
            if name == Octets.ofString "nice" && arguments.isEmpty then
              printLine (Octets.ofInt new)
              return 0
            else call.become (named name) (name :: arguments)

/-- Runs a program that does not end when its terminal does. -/
def nohup : Program := fun call =>
  call.withOptions { isMixed := false, status := 125 } fun options => do
    match options.operands with
    | [] => call.missingCommand 125
    | name :: arguments =>
        liftM (Task.ask (.dispose 1 .ignored))
        call.become ("failed to run command " ++ named name) (name :: arguments)

/-- Runs a program as the first one of a group. -/
def setsid : Program := fun call =>
  call.withOptions {
      flags := "cfw"
      long := [("ctty", 'c'), ("fork", 'f'), ("wait", 'w')]
      isMixed := false } fun options => do
    match options.operands with
    | [] => call.misuse "no command specified"
    | name :: arguments =>
        let work : Tool Nat := do
          liftM (Task.ask .lead)
          call.become ("failed to execute " ++ name.shown) (name :: arguments)
        if options.has 'f' then
          discard (liftM (Task.fork (do
            let (status, _) ← work.run {}
            Task.exit status)))
          return 0
        else work

/-- Runs a program whose output is held back differently. -/
def stdbuf : Program := fun call =>
  call.withOptions {
      valued := "ioe"
      long := [("input", 'i'), ("output", 'o'), ("error", 'e')]
      isMixed := false
      status := 125 } fun options => do
    match options.operands with
    | [] => call.missingCommand 125
    | name :: arguments => call.become ("failed to run command " ++ named name) (name :: arguments)

/-! ## A limit of time -/

/-- How a command with a limit is ended. -/
structure Limit where
  name : Octets
  signal : Nat
  /-- How long the command may go on after that. -/
  grace : Option Nat
  isForeground : Bool
  isTold : Bool

/-- Sends a signal to a command and the group of the caller, which ignores it
from now on. -/
def sendAll (call : Call) (limit : Limit) (child signal : Nat) : Tool Unit := do
  if limit.isTold then
    call.complain ("sending signal " ++ (signalName signal).shown ++ " to command " ++ named limit.name)
  discard (liftM (Task.kill child signal))
  if !limit.isForeground then
    liftM (Task.ask (.dispose signal .ignored))
    discard (liftM (Task.kill 0 signal))
    if signal != 9 && signal != 18 then
      discard (liftM (Task.kill child 18))
      discard (liftM (Task.kill 0 18))

/-- Waits for a command, and signals it each time one of its times is up; also
tells whether any was. -/
def waitWithin (call : Call) (limit : Limit) (child : Nat) :
    Nat → Option Nat → Bool → Tool (Bool × Ending)
  | 0, _, overran => return (overran, .exited 125)
  | fuel + 1, latest, overran => do
      match ← Task.wait (some child) latest with
      | .ok (some (_, ending)) => return (overran, ending)
      | .ok none => do
          sendAll call limit child (if overran then 9 else limit.signal)
          let now : Nat ← Task.ask .clock
          waitWithin call limit child fuel
            (if overran then none else limit.grace.map (now + ·)) true
      | .error _ => return (overran, .exited 125)

/-- Runs a program that must end within a time. -/
def timeout : Program := fun call =>
  call.withOptions {
      flags := "vfp"
      valued := "ks"
      long := [("kill-after", 'k'), ("signal", 's'), ("foreground", 'f'), ("preserve-status", 'p'),
        ("verbose", 'v')]
      isMixed := false
      status := 125 } fun options => do
    let refused (text : Octets) : Tool Nat :=
      call.misuse ("invalid time interval " ++ named text) 125
    match (options.value? 'k').map durationOf?, (options.value? 's').map signalNumber? with
    | some none, _ => refused ((options.value? 'k').getD [])
    | _, some none => call.misuse (named ((options.value? 's').getD []) ++ ": invalid signal") 125
    | grace, signal =>
        match options.operands with
        | duration :: name :: arguments =>
            match durationOf? duration with
            | none => refused duration
            | some time => do
                let limit : Limit := {
                  name
                  signal := (signal.bind id).getD 15
                  grace := grace.bind id
                  isForeground := options.has 'f'
                  isTold := options.has 'v' }
                if !limit.isForeground then liftM (Task.ask .lead)
                let child ← liftM (Task.fork (do
                  let (status, _) ←
                    (call.become ("failed to run command " ++ named name) (name :: arguments)).run {}
                  Task.exit status))
                let now : Nat ← Task.ask .clock
                let (overran, ending) ←
                  waitWithin call limit child 4 (if time == 0 then none else some (now + time)) false
                match ending with
                | .exited status =>
                    return if overran && !options.has 'p' then 124 else status
                | .killed signal => do
                    if !overran then
                      let (own, _) ← Task.identity
                      liftM (Task.ask (.dispose signal .standard))
                      discard (liftM (Task.kill own signal))
                    return if overran && !options.has 'p' && signal != 9 then 124 else 128 + signal
        | _ => do
            call.hint
            return 125

/-! ## Words of the input as arguments -/

/-- A word that is read, how quotes are open in it, and whether it exists. -/
structure WordReading where
  words : List Octets := []
  current : Octets := []
  isOpen : Bool := false

namespace WordReading

def close (reading : WordReading) : WordReading :=
  if reading.isOpen then { words := reading.current.reverse :: reading.words } else reading

def add (reading : WordReading) (c : Char) : WordReading :=
  { reading with current := c :: reading.current, isOpen := true }

/-- Reads words between blanks, or lines if `byLine` is set; quotes and
backslashes hide blanks. The error is the quote that is not closed. -/
def read (byLine : Bool) : Octets → WordReading → Except Char WordReading
  | [], reading => .ok reading.close
  | '\\' :: c :: rest, reading => read byLine rest (reading.add c)
  | c :: rest, reading =>
      if c == '\n' then read byLine rest reading.close
      else if Octets.isBlank c && (!byLine || !reading.isOpen) then
        read byLine rest (if byLine then reading else reading.close)
      else if c == '\'' || c == '"' then
        let inside := rest.takeWhile (fun d => d != c && d != '\n')
        match h : rest.drop inside.length with
        | d :: after =>
            if d == c then
              have : after.length < rest.length + 1 := by
                have := congrArg List.length h
                simp at this
                omega
              read byLine after
                (inside.foldl add { reading with isOpen := true })
            else .error c
        | [] => .error c
      else read byLine rest (reading.add c)
termination_by text => text.length

end WordReading

def inputWords (options : Options) (byLine : Bool) (text : Octets) : Except Char (List Octets) :=
  let separator? : Option Char :=
    if options.has '0' then some '\x00'
    else (options.value? 'd').map fun value =>
      match value with
      | '\\' :: c :: _ => (letterEscape c).getD '\x00'
      | value => value.headD '\n'
  match separator? with
  | some separator =>
      let parts := Octets.splitAt separator text
      .ok (if parts.getLast? == some [] then parts.dropLast else parts)
  | none => (WordReading.read byLine text {}).map fun reading => reading.words.reverse
where
  letterEscape : Char → Option Char
    | 'n' => some '\n'
    | 't' => some '\t'
    | '0' => some '\x00'
    | c => some c

def replaceAll (old new : Octets) : Nat → Octets → Octets
  | 0, text => text
  | _, [] => []
  | fuel + 1, c :: rest =>
      if !old.isEmpty && old.isPrefixOf (c :: rest) then
        new ++ replaceAll old new fuel ((c :: rest).drop old.length)
      else c :: replaceAll old new fuel rest

/-- Runs commands one after the other. The exit code tells how the worst of them
ended; some endings prevent the rest. -/
def Call.runEach (call : Call) (isTraced : Bool) : List (List Octets) → Nat → Tool Nat
  | [], status => return status
  | command :: commands, status => do
      if isTraced then warn (Octets.join [' '] command ++ ['\n'])
      let child ← liftM (Task.fork (do
        match ← Task.openFile (Octets.ofString "/dev/null") { reads := true } with
        | .ok handle =>
            discard (Task.copyHandle handle 0)
            if handle != 0 then discard (Task.close handle)
        | .error _ => discard (Task.close 0)
        let (status, _) ← (call.become (command.headD []).shown command).run {}
        Task.exit status))
      let name := (command.headD []).shown
      match ← Task.wait (some child) with
      | .ok (some (_, .exited 0)) => call.runEach isTraced commands status
      | .ok (some (_, .exited 126)) => return 126
      | .ok (some (_, .exited 127)) => return 127
      | .ok (some (_, .exited 255)) =>
          call.fail (name ++ ": exited with status 255; aborting") 124
      | .ok (some (_, .exited _)) => call.runEach isTraced commands 123
      | .ok (some (_, .killed signal)) =>
          call.fail (name ++ ": terminated by signal " ++ toString signal) 125
      | _ => return 1

/-- Runs a program with the words of the input as further arguments. -/
def xargs : Program := fun call =>
  call.withOptions {
      flags := "0rtpxo"
      valued := "nILdPsaE"
      optional := "iel"
      long := [("null", '0'), ("no-run-if-empty", 'r'), ("verbose", 't'), ("max-args", 'n'),
        ("max-lines", 'L'), ("delimiter", 'd'), ("max-procs", 'P'), ("arg-file", 'a'),
        ("replace", 'i'), ("max-chars", 's')]
      isMixed := false } fun options => do
    let marker? :=
      if options.has 'I' then options.value? 'I'
      else (options.value? 'i').map fun value => if value.isEmpty then ['\x7b', '\x7d'] else value
    match ← readInput ((options.value? 'a').getD ['-']) with
    | .error cause =>
        call.fail ("Cannot open input file '" ++ ((options.value? 'a').getD []).shown ++ "': " ++ cause.text)
    | .ok text =>
        match inputWords options (marker?.isSome || options.has 'L') text with
        | .error quote =>
            call.fail ("unmatched " ++ (if quote == '"' then "double" else "single") ++
              " quote; by default quotes are special to xargs unless you use the -0 option")
        | .ok words =>
            let base := if options.operands.isEmpty then [Octets.ofString "echo"] else options.operands
            let isTraced := options.has 't'
            match marker? with
            | some marker =>
                call.runEach isTraced
                  (words.map fun word => base.map fun part => replaceAll marker word (part.length + 1) part) 0
            | none =>
                if words.isEmpty then
                  if options.has 'r' then return 0 else call.runEach isTraced [base] 0
                else
                  let lines := options.has 'L'
                  let size := ((options.value? (if lines then 'L' else 'n')).bind Octets.natOf?).getD 5000
                  let words :=
                    if lines then
                      words.map fun line =>
                        (Octets.splitAt ' ' line).filter (fun word => !word.isEmpty)
                    else words.map fun word => [word]
                  let parts := partsOf size (words.length + 1) words
                  call.runEach isTraced (parts.map fun part => base ++ part) 0
where
  partsOf (size : Nat) : Nat → List (List Octets) → List (List Octets)
    | 0, _ => []
    | _, [] => []
    | fuel + 1, words =>
        let size := max size 1
        (words.take size).flatten :: partsOf size fuel (words.drop size)

/-! ## Signals and searching -/

def killProgram : Program := fun call => do
  let (signal?, targets) : Option Nat × List Octets :=
    match call.arguments with
    | ['-', 's'] :: name :: targets => (signalNumber? name, targets)
    | ['-', '-'] :: targets => (some 15, targets)
    | ('-' :: name) :: targets => (signalNumber? name, targets)
    | targets => (some 15, targets)
  match call.arguments with
  | [['-', 'l'], given] =>
      match Octets.natOf? given with
      | some number => printLine (signalName (number % 128))
      | none => printLine (Octets.ofNat ((signalNumber? given).getD 0))
      return 0
  | _ =>
      match signal?, targets with
      | none, _ => call.fail ("invalid argument " ++ Octets.shown ((call.arguments.headD []).drop 1))
      | _, [] => call.fail "not enough arguments"
      | some signal, targets =>
          forEach (fun target => do
            match Octets.intOf? target with
            | none => call.fail ("failed to parse argument: " ++ named target)
            | some number =>
                match ← Task.kill number signal with
                | .ok _ => return 0
                | .error cause => call.fail ("(" ++ toString number ++ "): " ++ cause.text))
            (targets.filter (fun target => target != ['-', '-']))

def programPath? (environment : List (Octets × Octets)) (name : Octets) : Task (Option Octets) :=
  let isProgram (path : Octets) : Task Bool := do
    match ← Task.status path with
    | .ok status => return status.kind == .regular && status.mode &&& 0o111 != 0
    | .error _ => return false
  let rec among : List Octets → Task (Option Octets)
    | [] => return none
    | folder :: folders => do
        let path := below (if folder.isEmpty then ['.'] else folder) name
        if ← isProgram path then return some path else among folders
  if name.contains '/' then do
    return if ← isProgram name then some name else none
  else among (Octets.splitAt ':' ((environment.lookup (Octets.ofString "PATH")).getD standardPath))

def which : Program := fun call =>
  call.withOptions { flags := "as" } fun options => do
    if options.operands.isEmpty then return 1
    else
      forEach (fun name => do
        match ← programPath? call.environment name with
        | none => return 1
        | some path =>
            if !options.has 's' then printLine path
            return 0) options.operands

end InterfaceAudit.Tool
