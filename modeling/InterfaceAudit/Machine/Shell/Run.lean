import InterfaceAudit.Machine.Shell.Builtin
import InterfaceAudit.Machine.Shell.Handles

/-!
Contract: running commands.

Owns:
- what every form of command does to the scope, and which of them run in
  processes of their own;
- scripts, which are read and run line by line;
- commands that are run on signals and at the end;
- the interpreter as a program.

All functions take fuel, of which there is more than any process uses.

Does not own: which program a host was asked to start.
-/

namespace InterfaceAudit.Shell

/-- How a command is run. -/
structure Flags where
  /-- Whether its failure is looked at by another command. -/
  isGuarded : Bool := false
  /-- Whether the process ends with it. -/
  isLast : Bool := false

/-- The flags for a part of a command that is not its last one. -/
def Flags.within (flags : Flags) : Flags := { flags with isLast := false }

/-- The flags of a command whose failure is looked at. -/
def guarded : Flags := { isGuarded := true }

/-- The flags of the body of a compound command, which is not the last one if
redirections have to be undone after it. -/
def innerFlags (flags : Flags) (redirections : List Redirection) : Flags :=
  if redirections.isEmpty then flags else flags.within

/-! ## Parts of running -/

/-- Whether any command is to be run on a signal or at the end. -/
def hasTraps : Run Bool := return !(← Run.scope).traps.isEmpty

/-- Work inside a loop: whether the loop goes on. Leaving more loops than one
leaves this one too. -/
def insideLoop (work : Run Bool) : Run Bool :=
  let counted := Run.keeping (fun old scope => { scope with loops := old.loops }) do
    Run.changeScope fun scope => { scope with loops := scope.loops + 1 }
    work
  tryCatch counted fun
    | .left loops again =>
        if 1 < loops then throw (.left (loops - 1) again) else return again
    | stop => throw stop

/-- Work of a builtin or a sourced file, which complaints name. -/
def naming {α : Type} (within : Octets) (work : Run α) : Run α :=
  Run.keeping (fun old scope => { scope with within := old.within }) do
    Run.changeScope fun scope => { scope with within }
    work

/-- Work of a function or a sourced script, which may return early. -/
def untilReturn (work : Run Unit) : Run Unit :=
  tryCatch work fun
    | .returned => return ()
    | stop => throw stop

/-- Work whose errors end only itself. -/
def guardingErrors (work : Run Unit) : Run Unit :=
  tryCatch work fun
    | .failed status => do
        discard Run.flush
        Run.setStatus status
    | stop => throw stop

/-- Gives up what a process of its own does not take over from the one that it
was split from. -/
def detach : Run Unit := do
  for (number, action) in (← Run.scope).traps do
    if number != 0 && !action.isEmpty then
      liftM (Task.ask (.dispose number .standard))
  Run.changeScope fun scope =>
    { scope with
      traps := scope.traps.filter (fun held => held.1 != 0 && held.2.isEmpty)
      jobs := []
      held := [] }

/-- Lets a process go on in the background: it does not heed the keyboard, and
reads nothing if it is the first one of its job. -/
def leaveForeground (isFirst : Bool) : Run Unit := do
  liftM (Task.ask (.dispose 2 .ignored))
  liftM (Task.ask (.dispose 3 .ignored))
  if isFirst then
    discard (liftM (Task.close 0))
    discard (liftM (Task.openFile (Octets.ofString "/dev/null") { reads := true }))

/-- Notes processes that were started in the background. -/
def addJob (processes : List Nat) : Run Unit :=
  Run.changeScope fun scope =>
    let number := (scope.jobs.map Job.number).foldl max 0 + 1
    { scope with
      jobs := scope.jobs ++ [{ number, processes := processes.map fun process => (process, none) }]
      background := processes.getLast? }

/-- Waits for processes to end, and takes over the status of the last one. -/
def awaitAll : List Nat → Run Unit
  | [] => return ()
  | process :: others => do
      match ← Task.wait (some process) with
      | .ok (some (_, ending)) => do
          Run.write 2 (Builtin.noticeOf ending)
          Run.setStatus (statusOf ending)
      | _ => Run.setStatus 127
      awaitAll others

/-- Lets a handle lead where another one leads, which is then closed. -/
def moveHandle (source target : Nat) : Run Unit := do
  if source != target then
    discard (liftM (Task.copyHandle source target))
    discard (liftM (Task.close source))

/-- The status of a command whose program cannot be executed. -/
def startStatus : SystemError → Nat
  | .notFound | .notADirectory | .nameTooLong | .tooManyLinks => 127
  | _ => 126

/-- The text about a program that cannot be executed. -/
def startText (cause : SystemError) : Run String := do
  match cause with
  | .notFound | .notADirectory =>
      return if (← Run.scope).isPlain then "command not found" else "not found"
  | cause => return cause.text

/-- Complains about a program that cannot be executed. -/
def complainOfStart (name : Octets) (cause : SystemError) : Run Unit := do
  Run.complain (name ++ Octets.ofString (": " ++ (← startText cause)))

/-- Goes on as a program; if that cannot be done, complains and ends. -/
def become (path : Octets) (words : List Octets) : Run Unit := do
  let cause ← Tool.executeAt path words (← Run.exported)
  complainOfStart (words.headD []) cause
  throw (.exited (startStatus cause))

/-- The path of a program by its name; complains if there is none. -/
def pathOf? (name : Octets) : Run (Option Octets) := do
  match ← Builtin.locate name (← Run.searchPath) with
  | .ok path => return some path
  | .error cause =>
      complainOfStart name cause
      return none

def trace (fields : List Octets) : Run Unit := do
  if (← Run.hasOption 'x') && !fields.isEmpty then
    let front := (← Run.value? ['P', 'S', '4']).getD ['+', ' ']
    Run.write 2 (front ++ Octets.join [' '] fields ++ ['\n'])

/-- How deep functions may call each other; a process that goes deeper is ended
for want of memory. -/
def maxDepth : Nat := 10000

/-- What is left of a script that is read from a file. -/
def fileToSource (file : Octets) : Run (Option Octets) := do
  let named? : Option Octets ←
    if file.contains '/' then pure (some file)
    else
      let folders := Octets.splitAt ':' (← Run.searchPath)
      let rec among : List Octets → Task (Option Octets)
        | [] => return none
        | folder :: folders => do
            let path := if folder.isEmpty then file else Tool.below folder file
            match ← Task.status path with
            | .ok status => if status.kind == .regular then return some path else among folders
            | .error _ => among folders
      liftM (among folders)
  match named? with
  | none => Run.fail (file ++ Octets.ofString ": not found")
  | some path =>
      match ← Task.openFile path { reads := true } with
      | .error cause =>
          Run.fail (Octets.ofString "cannot open " ++ file ++
            Octets.ofString (": " ++ openingReason "No such file" cause))
      | .ok handle => do
          let text ← Task.readAll handle
          discard (liftM (Task.close handle))
          return some (text.toOption.getD [])

/-- Splits the command that is run without regard to functions off its options,
if it is to be run at all. -/
def plainCommand? : List Octets → Option (List Octets)
  | ['-', '-'] :: words => some words
  | ['-', 'p'] :: words => plainCommand? words
  | ('-' :: _) :: _ => none
  | words => some words

/-- The words of a command without those that switch functions off, and whether
there were any. -/
def withoutPlain : Nat → List Octets → List Octets × Bool
  | 0, words => (words, false)
  | fuel + 1, words =>
      match words with
      | name :: arguments =>
          if name == Octets.ofString "command" then
            match plainCommand? arguments with
            | some (first :: others) => ((withoutPlain fuel (first :: others)).1, true)
            | _ => (words, false)
          else (words, false)
      | [] => ([], false)

/-- Whether words name a builtin that takes assignments as arguments. -/
def takesAssignments (words : List Octets) : Bool :=
  ["export", "readonly", "local"].contains (String.ofList (words.headD []))

mutual

def run : Nat → Flags → Command → Run Unit
  | 0, _, _ => throw (.exited 2)
  | fuel + 1, flags, command => do
      if ← Run.hasOption 'n' then return
      let capture : Capture := captureOutput fuel
      match command with
      | .simple line assignments words redirections => do
          Run.changeScope fun scope => { scope with line }
          runSimple fuel flags assignments words redirections
          checkFailure fuel flags
      | .pipeline negated stages => do
          if negated then
            match stages with
            | [only] => run fuel guarded only
            | stages => runPipeline fuel stages
            let status := (← Run.scope).status
            Run.setStatus (if status == 0 then 1 else 0)
            runTraps fuel
          else
            runPipeline fuel stages
            checkFailure fuel flags
      | .andThen first second => do
          run fuel guarded first
          if (← Run.scope).status == 0 then run fuel flags second
      | .orElse first second => do
          run fuel guarded first
          if (← Run.scope).status != 0 then run fuel flags second
      | .sequence commands => runSequence fuel flags commands
      | .group body redirections => under fuel redirections (run fuel flags.within body)
      | .subshell line body redirections => do
          Run.changeScope fun scope => { scope with line }
          let redirecting ← redirections.mapM (Redirection.expand capture fuel)
          let inside : Run Unit := do
            detach
            let (isDone, _) ← redirectAll false redirecting []
            if isDone then run fuel { flags with isLast := true } body
            else throw (.exited 2)
          if flags.isLast && !(← hasTraps) then
            inside
            throw (.exited (← Run.scope).status)
          else
            let child ← split fuel inside
            awaitAll [child]
            checkFailure fuel flags
      | .branch condition body otherwise redirections =>
          under fuel redirections do
            run fuel guarded condition
            if (← Run.scope).status == 0 then run fuel (innerFlags flags redirections) body
            else
              match otherwise with
              | some otherwise => run fuel (innerFlags flags redirections) otherwise
              | none => Run.setStatus 0
      | .repeat untilTrue condition body redirections =>
          under fuel redirections (runLoop fuel flags.within untilTrue condition body 0)
      | .forEach line name words body redirections =>
          under fuel redirections do
            Run.changeScope fun scope => { scope with line }
            let values ←
              match words with
              | some words => expandWords capture fuel words
              | none => pure (← Run.scope).arguments
            Run.setStatus 0
            runEach fuel flags.within name values body
      | .select line subject cases redirections =>
          under fuel redirections do
            Run.changeScope fun scope => { scope with line }
            let text ← expandText capture fuel subject
            Run.setStatus 0
            runCases fuel (innerFlags flags redirections) text cases
      | .define name body => do
          Run.changeScope fun scope =>
            { scope with
              functions := (name, body) :: scope.functions.filter (fun held => held.1 != name) }
          Run.setStatus 0

def under : Nat → List Redirection → Run Unit → Run Unit
  | 0, _, _ => throw (.exited 2)
  | fuel + 1, redirections, work => do
      if redirections.isEmpty then work
      else
        let redirecting ← redirections.mapM (Redirection.expand (captureOutput fuel) fuel)
        redirected redirecting work

/-- Runs what signals have called for, and ends the interpreter if the last
command failed and that is to end it. -/
def checkFailure : Nat → Flags → Run Unit
  | 0, _ => throw (.exited 2)
  | fuel + 1, flags => do
      runTraps fuel
      let scope ← Run.scope
      if scope.status != 0 && !flags.isGuarded && scope.options.contains 'e' then
        throw (.exited scope.status)

/-- Runs the commands for the signals that have come. -/
def runTraps : Nat → Run Unit
  | 0 => throw (.exited 2)
  | fuel + 1 => do
      if (← Run.scope).traps.any (fun held => held.1 != 0 && !held.2.isEmpty) then
        let signals : List Nat ← Task.ask .takeSignals
        runActions fuel signals

/-- Runs the commands for signals; the status stays as it was. -/
def runActions : Nat → List Nat → Run Unit
  | 0, _ => throw (.exited 2)
  | _, [] => return ()
  | fuel + 1, signal :: signals => do
      match (← Run.scope).traps.lookup signal with
      | none | some [] => pure ()
      | some action => do
          Run.keeping
            (fun old scope => { scope with lastStatus := old.lastStatus })
            (do
              let status := (← Run.scope).status
              Run.changeScope fun scope => { scope with lastStatus := some status }
              runScript fuel {} action
              Run.setStatus status)
      runActions fuel signals

def runSequence : Nat → Flags → List (Command × Bool) → Run Unit
  | 0, _, _ => throw (.exited 2)
  | _, _, [] => return ()
  | fuel + 1, flags, (command, isBackground) :: others => do
      let own := if others.isEmpty then flags else flags.within
      if isBackground then
        match command with
        | .pipeline false stages => startStages fuel true none stages []
        | command =>
            let child ← split fuel (do
              detach
              leaveForeground true
              run fuel { isLast := true } command)
            addJob [child]
        Run.setStatus 0
        runTraps fuel
      else run fuel own command
      runSequence fuel flags others

def runPipeline : Nat → List Command → Run Unit
  | 0, _ => throw (.exited 2)
  | fuel + 1, stages => startStages fuel false none stages []

/-- Starts the stages of a pipeline, each reading what the one before writes; then
waits for them, unless they are to run in the background. The processes started
so far are given in reverse. -/
def startStages : Nat → Bool → Option Nat → List Command → List Nat → Run Unit
  | 0, _, _, _, _ => throw (.exited 2)
  | _, isBackground, input, [], started => do
      match input with
      | some handle => discard (liftM (Task.close handle))
      | none => pure ()
      if isBackground then addJob started.reverse else awaitAll started.reverse
  | fuel + 1, isBackground, input, stage :: stages, started => do
      let pipe? ← if stages.isEmpty then pure none else do pure (some (← Task.pipe))
      let child ← split fuel (do
        detach
        if isBackground then leaveForeground started.isEmpty
        match pipe? with
        | some (readEnd, _) => discard (liftM (Task.close readEnd))
        | none => pure ()
        match input with
        | some handle => moveHandle handle 0
        | none => pure ()
        match pipe? with
        | some (_, writeEnd) => moveHandle writeEnd 1
        | none => pure ()
        run fuel { isLast := true } stage)
      match input with
      | some handle => discard (liftM (Task.close handle))
      | none => pure ()
      match pipe? with
      | some (_, writeEnd) => discard (liftM (Task.close writeEnd))
      | none => pure ()
      startStages fuel isBackground (pipe?.map Prod.fst) stages (child :: started)

/-- Runs a loop with a condition; `last` is the status of the round before. -/
def runLoop : Nat → Flags → Bool → Command → Command → Nat → Run Unit
  | 0, _, _, _, _, _ => throw (.exited 2)
  | fuel + 1, flags, untilTrue, condition, body, last => do
      let enters ← insideLoop do
        run fuel guarded condition
        return ((← Run.scope).status == 0) != untilTrue
      if !enters then Run.setStatus last
      else
        let goesOn ← insideLoop do
          run fuel flags body
          return true
        if goesOn then runLoop fuel flags untilTrue condition body (← Run.scope).status

def runEach : Nat → Flags → Octets → List Octets → Command → Run Unit
  | 0, _, _, _, _ => throw (.exited 2)
  | _, _, _, [], _ => return ()
  | fuel + 1, flags, name, value :: values, body => do
      Run.assign name value
      let goesOn ← insideLoop do
        run fuel flags body
        return true
      if goesOn then runEach fuel flags name values body

/-- Runs the first case that has a pattern for a text. -/
def runCases : Nat → Flags → Octets → List (List Word × Command) → Run Unit
  | 0, _, _, _ => throw (.exited 2)
  | _, _, _, [] => return ()
  | fuel + 1, flags, text, (patterns, body) :: cases => do
      if ← coveredBy fuel text patterns then run fuel flags body
      else runCases fuel flags text cases

/-- Whether one of several patterns covers a text. -/
def coveredBy : Nat → Octets → List Word → Run Bool
  | 0, _, _ => throw (.exited 2)
  | _, _, [] => return false
  | fuel + 1, text, word :: words => do
      let pattern ← expandPattern (captureOutput fuel) fuel word
      if pattern.covers text then return true else coveredBy fuel text words

/-- Starts a process that does work in a copy of the scope. -/
def split : Nat → Run Unit → Run Nat
  | 0, _ => throw (.exited 2)
  | fuel + 1, work => do
      let scope ← Run.scope
      Task.fork (finished fuel scope work)

/-- Work of a process to its end. -/
def finished : Nat → Scope → Run Unit → Task Unit
  | 0, _, _ => Task.exit 2
  | fuel + 1, scope, work => do
      let (result, scope) ← work.run scope
      let status :=
        match result with
        | .error (.exited status) | .error (.failed status) => status
        | _ => scope.status
      let (_, scope) ← (Run.flush).run scope
      match scope.traps.lookup 0 with
      | none | some [] => Task.exit status
      | some action => do
          let scope := { scope with
            traps := scope.traps.filter (fun held => held.1 != 0)
            status
            loops := 0
            lastStatus := some status }
          let (result, scope) ← (runScript fuel {} action).run scope
          let (_, _) ← (Run.flush).run scope
          match result with
          | .error (.exited status) | .error (.failed status) => Task.exit status
          | _ => Task.exit status

def captureOutput : Nat → Command → Run Octets
  | 0, _ => throw (.exited 2)
  | fuel + 1, command => do
      let (readEnd, writeEnd) ← Task.pipe
      let child ← split fuel (do
        detach
        discard (liftM (Task.close readEnd))
        moveHandle writeEnd 1
        run fuel { isLast := true } command)
      discard (liftM (Task.close writeEnd))
      let text ← Task.readAll readEnd
      discard (liftM (Task.close readEnd))
      let before := (← Run.scope).status
      awaitAll [child]
      let status := (← Run.scope).status
      Run.changeScope fun scope => { scope with status := before, captured := some status }
      return (text.toOption.getD []).filter (· != '\x00')

/-- Runs a command with its words, assignments and redirections. -/
def runSimple : Nat → Flags → List (Octets × Word) → List Word → List Redirection → Run Unit
  | 0, _, _, _, _ => throw (.exited 2)
  | fuel + 1, flags, assignments, words, redirections => do
      let capture : Capture := captureOutput fuel
      liftM (Task.spend 4)
      Run.changeScope fun scope => { scope with captured := none }
      let fields ← expandCommand fuel words
      let redirecting ← redirections.mapM (Redirection.expand capture fuel)
      match fields with
      | [] =>
          redirected redirecting do
            let values ← assignAll fuel none assignments
            trace values
            Run.setStatus ((← Run.scope).captured.getD 0)
      | name :: _ =>
          let (plain, isPlain) := withoutPlain (fields.length + 1) fields
          let isSpecial := Parser.specialNames.contains (String.ofList name)
          let isExecuting := plain.headD [] == Octets.ofString "exec"
          let (isDone, saved) ← redirectAll (!isExecuting) redirecting []
          if !isDone then
            restoreHandles saved
            if isSpecial then throw (.failed 2) else Run.setStatus 2
          else
            let work : Run Unit := do
              let start (values : List Octets) : Run Unit := do
                trace (values ++ fields)
                runWords fuel flags isPlain plain
              if isSpecial then
                let values ← assignAll fuel (if isExecuting && 1 < plain.length then some true else none)
                  assignments
                start values
              else withAssignments fuel assignments start
            Run.thenAlways
              (if isSpecial then work else guardingErrors work)
              (if isExecuting then pure () else restoreHandles saved)

/-- The words of a command as fields. Assignments among the arguments of some
builtins are not split. -/
def expandCommand : Nat → List Word → Run (List Octets)
  | 0, _ => throw (.exited 2)
  | _, [] => return []
  | fuel + 1, word :: words => do
      let capture : Capture := captureOutput fuel
      match ← expandFields capture fuel word with
      | [] => expandCommand fuel words
      | fields => do
          let others ←
            if takesAssignments fields then
              let parts ← words.mapM fun word => do
                if (Parser.assignment? word).isSome then
                  return [← expandText capture fuel word]
                else expandFields capture fuel word
              pure parts.flatten
            else expandWords capture fuel words
          return fields ++ others

/-- Assigns values one after the other, and gives the assignments as text. -/
def assignAll : Nat → Option Bool → List (Octets × Word) → Run (List Octets)
  | 0, _, _ => throw (.exited 2)
  | _, _, [] => return []
  | fuel + 1, isExported, (name, word) :: assignments => do
      let value ← expandText (captureOutput fuel) fuel word
      Run.assign name value
      if isExported.isSome then Run.exportVariable name
      let others ← assignAll fuel isExported assignments
      return (name ++ '=' :: value) :: others

/-- Work with variables that are assigned before it and put back after it. -/
def withAssignments : Nat → List (Octets × Word) → (List Octets → Run Unit) → Run Unit
  | 0, _, _ => throw (.exited 2)
  | fuel + 1, assignments, work => do
      if assignments.isEmpty then work []
      else
        let old ← assignments.mapM fun (name, _) => do return (name, ← Run.find? name)
        Run.thenAlways
          (do
            let values ← assignAll fuel (some true) assignments
            work values)
          (old.reverse.forM fun (name, held) => Run.putBack name held)

/-- Runs what a name stands for: a function, unless `isPlain` is set, a builtin
or a program. -/
def runWords : Nat → Flags → Bool → List Octets → Run Unit
  | 0, _, _, _ => throw (.exited 2)
  | fuel + 1, flags, isPlain, words => do
      match words with
      | [] => Run.setStatus 0
      | name :: arguments =>
          let defined := (← Run.scope).functions
          match if isPlain then none else defined.lookup name with
          | some body => callFunction fuel flags body arguments
          | none =>
              if Builtin.isBuiltin name then
                naming name (runBuiltin fuel flags name arguments)
              else runProgram fuel flags name arguments

/-- Runs a builtin. What it printed is written at its end. -/
def runBuiltin : Nat → Flags → Octets → List Octets → Run Unit
  | 0, _, _, _ => throw (.exited 2)
  | fuel + 1, flags, name, arguments => do
      let outer := (← Run.scope).held
      Run.changeScope fun scope => { scope with held := [] }
      match String.ofList name with
      | "." => runSourced fuel arguments
      | "eval" => do
          Run.setStatus 0
          runScript fuel flags.within (Octets.join [' '] arguments)
      | "exec" => runExec fuel arguments
      | "command" => do
          match arguments with
          | [] => Run.setStatus 0
          | ['-', 'v'] :: names => Run.setStatus (← Builtin.describeAll false (names.take 1))
          | ['-', 'V'] :: names => Run.setStatus (← Builtin.describeAll true (names.take 1))
          | option :: _ => Run.fail (Octets.ofString "Illegal option " ++ option.take 2)
      | "type" => Run.setStatus (← Builtin.describeAll true arguments)
      | "hash" => Run.setStatus (← Builtin.hash arguments)
      | _ =>
          match Builtin.find? name with
          | some builtin => Run.setStatus (← builtin arguments)
          | none => Run.setStatus 127
      if !(← Run.flush) then
        Run.complain (name ++ Octets.ofString ": I/O error")
        Run.changeScope fun scope => { scope with status := scope.status ||| 1 }
      Run.changeScope fun scope => { scope with held := outer }

def callFunction : Nat → Flags → Command → List Octets → Run Unit
  | 0, _, _, _ => throw (.exited 2)
  | fuel + 1, flags, body, arguments => do
      let old ← Run.scope
      if maxDepth < old.saved.length then
        discard (liftM (Task.kill (← Task.identity).1 11))
      Run.changeScope fun scope =>
        { scope with arguments, saved := [] :: scope.saved, loops := 0, letters := 0 }
      Run.thenAlways
        (untilReturn (run fuel flags.within body))
        (do
          let names := (← Run.scope).saved.head?.getD []
          names.forM fun (name, held) => Run.putBack name held
          Run.changeScope fun scope =>
            { scope with
              arguments := old.arguments
              saved := scope.saved.drop 1
              loops := old.loops
              letters := old.letters })

/-- Runs the script in a file within the same scope. -/
def runSourced : Nat → List Octets → Run Unit
  | 0, _ => throw (.exited 2)
  | fuel + 1, arguments => do
      match arguments with
      | [] => Run.setStatus 2
      | file :: _ =>
          match ← fileToSource file with
          | none => pure ()
          | some text => naming file do
              Run.setStatus 0
              untilReturn (runScript fuel {} text)

/-- Replaces the interpreter by a program. -/
def runExec : Nat → List Octets → Run Unit
  | 0, _ => throw (.exited 2)
  | _ + 1, arguments => do
      match arguments with
      | [] => Run.setStatus 0
      | ['-', '-'] :: [] => Run.setStatus 0
      | name :: rest => do
          let words := if name == ['-', '-'] then rest else arguments
          let name := words.headD []
          match ← Builtin.locate name (← Run.searchPath) with
          | .ok path => become path words
          | .error cause => do
              complainOfStart name cause
              throw (.exited (startStatus cause))

/-- Runs a program: in place of the interpreter if that ends with it, otherwise
in a process of its own. -/
def runProgram : Nat → Flags → Octets → List Octets → Run Unit
  | 0, _, _, _ => throw (.exited 2)
  | fuel + 1, flags, name, arguments => do
      match ← pathOf? name with
      | none => Run.setStatus 127
      | some path =>
          if flags.isLast && !(← hasTraps) then become path (name :: arguments)
          else
            let child ← split fuel (do
              detach
              become path (name :: arguments))
            awaitAll [child]

def runScript : Nat → Flags → Octets → Run Unit
  | 0, _, _ => throw (.exited 2)
  | fuel + 1, flags, script => do
      let first := (← Run.scope).nextDocument
      Run.keeping (fun old scope => { scope with line := old.line })
        (runLines fuel flags { rest := script, nextDocument := first })

/-- Runs what is left of a script, line by line. -/
def runLines : Nat → Flags → Source → Run Unit
  | 0, _, _ => throw (.exited 2)
  | fuel + 1, flags, source => do
      match (Parser.line (16 * source.rest.length + 32)).run source with
      | .error complaint =>
          Run.changeScope fun scope => { scope with line := complaint.line }
          Run.fail (Octets.ofString complaint.message)
      | .ok (none, _) => return ()
      | .ok (some (command, isEnd), source) =>
          Run.changeScope fun scope =>
            { scope with
              documents := source.bodies ++ scope.documents
              nextDocument := source.nextDocument }
          run fuel { flags with isLast := flags.isLast && isEnd } command
          runLines fuel flags { source with bodies := [] }

end

/-! ## The interpreter as a program -/

/-- What the interpreter is asked to run. -/
structure Invocation where
  options : Octets := []
  script : Option Octets := none
  operands : List Octets := []
deriving Repr

/-- The script and the operands behind the options; `none` if the script is
missing. -/
def Invocation.finish (invocation : Invocation) (arguments : List Octets) : Option Invocation :=
  if invocation.options.contains 'c' then
    match arguments with
    | [] => none
    | script :: operands => some { invocation with script := some script, operands }
  else some { invocation with operands := arguments }

/-- Reads the arguments of the interpreter; `none` if the script is missing. -/
def Invocation.read : List Octets → Invocation → Option Invocation
  | [], invocation => invocation.finish []
  | ['-', '-'] :: arguments, invocation | ['-'] :: arguments, invocation =>
      invocation.finish arguments
  | ['-', 'o'] :: name :: arguments, invocation =>
      Invocation.read arguments { invocation with
        options := invocation.options ++ (Builtin.optionNames.lookup (String.ofList name)).toList }
  | ('-' :: letters) :: arguments, invocation =>
      Invocation.read arguments { invocation with options := invocation.options ++ letters }
  | arguments, invocation => invocation.finish arguments

/-- The first letter among options that is none. -/
def Invocation.unknown? (invocation : Invocation) : Option Char :=
  invocation.options.find? fun letter => !(letter == 'c' || letter == 'l' || letter == 'p' ||
    Run.optionLetters.contains letter)

def startVariables (call : Tool.Call) (parent : Nat) (directory : Octets) : List Variable :=
  let given := call.environment.filter fun (name, _) => Parser.isName name
  let set (held : List Variable) (name : String) (value : Octets) (isExported : Bool) : List Variable :=
    held.filter (fun other => other.name != Octets.ofString name) ++
      [{ name := Octets.ofString name, value := some value, isExported }]
  let held := given.map fun (name, value) =>
    ({ name, value := some value, isExported := true } : Variable)
  let held :=
    if held.any (fun other => other.name == Octets.ofString "PATH") then held
    else set held "PATH" (Octets.ofString
      "/usr/local/sbin:/usr/local/bin:/usr/sbin:/usr/bin:/sbin:/bin") false
  let held := set held "PPID" (Octets.ofNat parent) false
  let held := set held "OPTIND" ['1'] false
  let held := set held "IFS" [' ', '\t', '\n'] false
  let held := set held "PS4" ['+', ' '] false
  set held "PWD" directory true

/-- The working directory as an interpreter sees it: as it was reached, if that is
known, or complains that it has no path. -/
def startDirectory (call : Tool.Call) : Task Octets := do
  let given := (call.environment.lookup (Octets.ofString "PWD")).getD []
  let here ← Task.status ['.']
  let there ← if given.head? == some '/' then Task.status given else pure (.error .notFound)
  let isSame :=
    match here, there with
    | .ok here, .ok there => here.number == there.number
    | _, _ => false
  if isSame then return given
  else
    match ← Task.directory with
    | .ok path => return path
    | .error cause => do
        discard (Task.write 2 (Octets.ofString ("sh: 0: getcwd() failed: " ++ cause.text ++ "\n")))
        return []

def interpret (isPlain : Bool) (call : Tool.Call) : Task Unit := do
  Task.spend 600
  let (process, parent) ← Task.identity
  let directory ← startDirectory call
  let scope : Scope := {
    name := call.name
    isPlain, process, parent, directory
    environment := startVariables call parent directory }
  let complainEarly (text : Octets) : Task Unit := do
    discard (Task.write 2 (call.name ++ Octets.ofString ": 0: " ++ text ++ ['\n']))
    Task.exit 2
  match Invocation.read call.arguments {} with
  | none => complainEarly (Octets.ofString "-c requires an argument")
  | some invocation =>
      match invocation.unknown? with
      | some letter => complainEarly (Octets.ofString "Illegal option -" ++ [letter])
      | none => do
          let options := invocation.options.filter (fun letter => letter != 'c' && letter != 'l')
          let scope := { scope with options }
          let start (scope : Scope) (isLast : Bool) (script : Octets) : Task Unit :=
            finished Task.endless scope
              (untilReturn (runScript Task.endless { isLast } script))
          let startFromInput (scope : Scope) : Task Unit := do
            let script ← Task.readAll 0
            start { scope with options := 's' :: scope.options } false (script.toOption.getD [])
          match invocation.script, invocation.operands with
          | some script, name :: arguments => start { scope with name, arguments } true script
          | some script, [] => start scope true script
          | none, [] => startFromInput scope
          | none, file :: operands =>
              if invocation.options.contains 's' then
                startFromInput { scope with arguments := file :: operands }
              else
                match ← Task.openFile file { reads := true } with
                | .ok handle => do
                    let script ← Task.readAll handle
                    discard (Task.close handle)
                    start { scope with name := file, arguments := operands } false
                      (script.toOption.getD [])
                | .error cause =>
                    complainEarly (Octets.ofString "cannot open " ++ file ++
                      Octets.ofString (": " ++ openingReason "No such file" cause))

end InterfaceAudit.Shell
