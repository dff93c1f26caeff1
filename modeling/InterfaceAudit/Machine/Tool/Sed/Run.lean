import InterfaceAudit.Machine.Tool.Sed.Script

/-!
Contract: editing lines by a script.

Owns:
- the lines of several files as one stream, or each file on its own;
- what every command of a script does;
- editing files where they stand;
- the exit codes of sed.

Does not own: the reading of scripts.
-/

namespace InterfaceAudit.Tool.Sed

structure Editing where
  /-- Files that are still to be opened. -/
  files : List Octets
  /-- Whether every file is edited on its own. -/
  separate : Bool
  /-- Whether files are edited where they stand, and the ending of the names
  under which they are kept. -/
  inPlace : Option Octets
  quiet : Bool
  source : Option (Octets × LineSource) := none
  /-- The line to come, if it was read already. -/
  ahead : Option (Octets × Bool) := none
  number : Nat := 0
  pattern : Octets := []
  /-- Whether a line feed ended the line. -/
  isWhole : Bool := true
  held : Octets := []
  /-- Rules whose range goes on, with the number of the line that ends it if that
  is known. -/
  ranges : List (Nat × Option Nat) := []
  /-- What is printed when the line is done: texts, and files. -/
  queue : List (Octets ⊕ Octets) := []
  wasReplaced : Bool := false
  lastPattern : Option Pattern := none
  /-- Handles of files that are written to. -/
  targets : List (Octets × Nat) := []
  /-- What was written in place of the file at work, in reverse. -/
  edited : List Octets := []
  /-- Whether the output ends without a line feed. -/
  isCut : Bool := false
  status : Nat := 0

abbrev Work := StateT Editing Tool

/-! ## Input -/

/-- Puts an edited file in its place. -/
def storeEdited : Work Unit := do
  let state ← get
  match state.inPlace, state.source with
  | some ending, some (file, _) =>
      if !ending.isEmpty then
        let old ← (Task.readFile file : Task (Except SystemError Octets))
        discard (liftM (writeFile (file ++ ending) (old.toOption.getD []) : Task _))
      discard (liftM (writeFile file state.edited.reverse.flatten : Task _))
      set { state with edited := [], isCut := false }
  | _, _ => return

/-- Opens the next file that can be read; whether there is one. -/
def openNext (call : Call) : List Octets → Work Bool
  | [] => do
      storeEdited
      modify fun state => { state with files := [], source := none }
      return false
  | file :: files => do
      storeEdited
      let state ← get
      let refuse (text : String) : Work Unit := do
        (call.remark text : Tool Unit)
        modify fun state => { state with status := 4 }
      let isFolder ← if file == ['-'] then pure false else liftM (Task.isDirectory file)
      if isFolder && state.inPlace.isNone then
        (call.remark ("read error on " ++ file.shown ++ ": Is a directory") : Tool Unit)
        modify fun state => { state with status := 4, files := [], source := none }
        return false
      else if isFolder then
        refuse ("couldn't edit " ++ file.shown ++ ": not a regular file")
        openNext call files
      else
        match ← (openInput file : Tool (Except SystemError Nat)) with
        | .error cause =>
            (call.remark ("can't read " ++ file.shown ++ ": " ++ cause.text) : Tool Unit)
            modify fun state => { state with status := 2 }
            openNext call files
        | .ok handle =>
            modify fun state =>
              { state with
                files
                source := some (file, { handle })
                number := if state.separate then 0 else state.number }
            return true

def nextOfFile : Work (Option (Octets × Bool)) := do
  let state ← get
  match state.source with
  | none => return none
  | some (file, source) =>
      let (line, source) ← (source.next : Task (Option (Octets × Bool) × LineSource))
      set { state with source := some (file, source) }
      return line

def nextOfFiles (call : Call) : Nat → Work (Option (Octets × Bool))
  | 0 => return none
  | fuel + 1 => do
      match ← nextOfFile with
      | some line => return some line
      | none =>
          if ← openNext call (← get).files then nextOfFiles call fuel else return none

/-- Looks at the line to come without taking it. Where files are edited on their
own, the line must be of the same file. -/
def peek (call : Call) : Work (Option (Octets × Bool)) := do
  let state ← get
  match state.ahead with
  | some line => return some line
  | none =>
      let line ←
        if state.separate then nextOfFile else nextOfFiles call (state.files.length + 2)
      modify fun state => { state with ahead := line }
      return line

/-- Whether no line is to come. -/
def isLast (call : Call) : Work Bool := return (← peek call).isNone

/-- Takes the next line; whether there was one. -/
def take (call : Call) : Work (Option (Octets × Bool)) := do
  let line ←
    match (← get).ahead with
    | some line => pure (some line)
    | none => nextOfFiles call ((← get).files.length + 2)
  modify fun state =>
    { state with ahead := none, number := if line.isSome then state.number + 1 else state.number }
  return line

/-! ## Output -/

/-- Writes to the output, or to the file that is edited. A line feed that is
still missing comes first. -/
def put (text : Octets) : Work Unit := do
  let state ← get
  let text := if state.isCut then '\n' :: text else text
  if state.inPlace.isSome then set { state with edited := text :: state.edited, isCut := false }
  else
    set { state with isCut := false }
    (print text : Tool Unit)

/-- Writes a line, which may lack its line feed. -/
def putLine (line : Octets) (isWhole : Bool) : Work Unit := do
  put (if isWhole then line ++ ['\n'] else line)
  modify fun state => { state with isCut := !isWhole }

/-- Writes to a file of the script. -/
def putTo (file line : Octets) : Work Unit := do
  match String.ofList file with
  | "/dev/stdout" => put (line ++ ['\n'])
  | "/dev/stderr" => (warn (line ++ ['\n']) : Tool Unit)
  | _ =>
      match (← get).targets.lookup file with
      | some handle => discard (liftM (Task.write handle (line ++ ['\n']) : Task _))
      | none => return

/-- Prints what was left for the end of the line. -/
def putQueue : Work Unit := do
  let state ← get
  set { state with queue := [] }
  for item in state.queue do
    match item with
    | .inl text => put text
    | .inr file =>
        match ← (readInput file : Tool (Except SystemError Octets)) with
        | .ok text => put text
        | .error _ => pure ()

/-- A line with all that cannot be seen written as escapes, cut into pieces. -/
def listed (line : Octets) : Octets :=
  let item (c : Char) : Octets :=
    match c with
    | '\\' => ['\\', '\\']
    | '\x07' => ['\\', 'a']
    | '\x08' => ['\\', 'b']
    | '\x0c' => ['\\', 'f']
    | '\n' => ['\\', 'n']
    | '\r' => ['\\', 'r']
    | '\t' => ['\\', 't']
    | '\x0b' => ['\\', 'v']
    | c =>
        if 32 ≤ c.toNat && c.toNat < 127 then [c]
        else '\\' :: Octets.padZeros 3 (Nat.toDigits 8 c.toNat)
  let (done, current) := line.foldl
    (fun (done, current) c =>
      let shown := item c
      if 69 < current.length + shown.length then (done ++ current ++ ['\\', '\n'], shown)
      else (done, current ++ shown))
    (([], []) : Octets × Octets)
  done ++ current ++ ['$', '\n']

/-! ## Substitution -/

/-- How the letters of a replacement are changed. -/
structure Casing where
  /-- For all that follows: `U` or `L`. -/
  all : Option Char := none
  /-- For the next letter only. -/
  one : Option Char := none

/-- A text with its letters changed, and how those that follow are. -/
def Casing.apply (casing : Casing) (text : Octets) : Octets × Casing :=
  let change (letter : Option Char) (c : Char) : Char :=
    match letter with
    | some 'U' | some 'u' => c.toUpper
    | some 'L' | some 'l' => c.toLower
    | _ => c
  match text with
  | [] => ([], casing)
  | c :: rest =>
      let first := change (casing.one.or casing.all) c
      (first :: rest.map (change casing.all), { casing with one := none })

/-- A replacement with the matched text and the captures put in. -/
def replaced (found : Pattern.Match) : Casing → Octets → Octets
  | _, [] => []
  | casing, '&' :: text =>
      let (shown, casing) := casing.apply found.text
      shown ++ replaced found casing text
  | casing, '\\' :: c :: text =>
      if c.isDigit then
        let value := if c == '0' then found.text else (found.captures.lookup (c.toNat - 48)).getD []
        let (shown, casing) := casing.apply value
        shown ++ replaced found casing text
      else
        match c with
        | 'U' | 'L' => replaced found { all := some c } text
        | 'u' | 'l' => replaced found { casing with one := some c } text
        | 'E' => replaced found {} text
        | 'n' => '\n' :: replaced found casing text
        | c =>
            match letterEscape? c with
            | some escaped =>
                if c == 'b' then c :: replaced found casing text
                else escaped :: replaced found casing text
            | none => c :: replaced found casing text
  | casing, c :: text =>
      let (shown, casing) := casing.apply [c]
      shown ++ replaced found casing text

/-- A line with matches replaced from an occurrence on, and whether there were
any. A match of nothing right behind another match is passed over. -/
def substituteIn
    (pattern : Pattern)
    (substitution : Substitution) :
    Nat → Nat → Bool → Octets → Octets → Octets × Bool
  | 0, _, _, _, ahead => (ahead, false)
  | fuel + 1, occurrence, afterMatch, behind, ahead =>
      match pattern.search substitution.ignoreCase behind ahead with
      | none => (ahead, false)
      | some found =>
          let front := found.before.drop behind.length
          if found.text.isEmpty && front.isEmpty && afterMatch then
            match ahead with
            | [] => ([], false)
            | c :: ahead =>
                let (rest, changed) :=
                  substituteIn pattern substitution fuel occurrence false (c :: behind) ahead
                (c :: rest, changed)
          else
            let piece := if occurrence ≤ 1 then replaced found {} substitution.replacement else found.text
            let isChanged := occurrence ≤ 1
            let behind := found.text.reverse ++ found.before.reverse
            if isChanged && !substitution.everywhere then (front ++ piece ++ found.after, true)
            else if found.text.isEmpty then
              match found.after with
              | [] => (front ++ piece, isChanged)
              | c :: after =>
                  let (rest, more) :=
                    substituteIn pattern substitution fuel (occurrence - 1) false (c :: behind) after
                  (front ++ piece ++ c :: rest, isChanged || more)
            else
              let (rest, more) :=
                substituteIn pattern substitution fuel (occurrence - 1) true behind found.after
              (front ++ piece ++ rest, isChanged || more)

/-- The pattern that is used: the one used last if there is none. -/
def usedPattern (pattern : Option Pattern) : Work (Option Pattern) := do
  match pattern with
  | some pattern =>
      modify fun state => { state with lastPattern := some pattern }
      return some pattern
  | none => return (← get).lastPattern

/-! ## Addresses -/

def fits (call : Call) : Address → Work Bool
  | .line number => return (← get).number == number
  | .step first period => do
      let number := (← get).number
      return if period == 0 then number == first
        else first ≤ number && (number - first) % period == 0
  | .last => isLast call
  | .found pattern ignoreCase => do
      match ← usedPattern pattern with
      | none => return false
      | some pattern => return (pattern.search ignoreCase [] (← get).pattern).isSome

def applies (call : Call) (index : Nat) (rule : Rule) : Work Bool := do
  let setRange (range : Option (Option Nat)) : Work Unit :=
    modify fun state =>
      let others := state.ranges.filter (fun held => held.1 != index)
      { state with ranges := (range.map fun range => (index, range)).toList ++ others }
  match rule.first, rule.second with
  | none, _ => return true
  | some first, none => fits call first
  | some first, some second => do
      let number := (← get).number
      let isStart : Bool := match first with | .line 0 => number == 1 | _ => false
      let current :=
        match (← get).ranges.lookup index with
        | some range => some range
        | none => if isStart then some none else none
      match current with
      | some (some last) =>
          if last ≤ number then setRange none
          return number ≤ last
      | some none =>
          let ends : Bool ←
            match second with
            | .address (.line last) => pure (last ≤ number)
            | .address address => fits call address
            | _ => pure false
          setRange (if ends then none else some none)
          -- A line number that has been passed ends the range before this line.
          match second with
          | .address (.line last) => return number ≤ last
          | _ => return true
      | none =>
          if ← fits call first then
            match second with
            | .address (.line last) => if number < last then setRange (some (some last))
            | .address .last => if !(← isLast call) then setRange (some none)
            | .address _ => setRange (some none)
            | .count lines => if 0 < lines then setRange (some (some (number + lines)))
            | .multiple period =>
                if period != 0 && number % period != 0 then
                  setRange (some (some ((number / period + 1) * period)))
            return true
          else return false

/-! ## Commands -/

/-- What is done when a command is done. -/
inductive Flow where
  | goOn
  | jump (place : Nat)
  /-- The line is done; it is printed unless that is off. -/
  | done (prints : Bool)
  /-- The rules start again on what is left of the line. -/
  | again
  | quit (status : Nat) (prints : Bool)

def firstLine (text : Octets) : Octets := text.takeWhile (· != '\n')

/-- Carries out the command of a rule; a text that takes the place of a range of
lines is printed at its end. -/
def perform (call : Call) (index : Nat) (rule : Rule) : Work Flow := do
  let state ← get
  match rule.command with
  | .nothing | .block _ => return .goOn
  | .append text =>
      set { state with queue := state.queue ++ [Sum.inl text] }
      return .goOn
  | .insert text =>
      put text
      return .goOn
  | .change text =>
      if (state.ranges.lookup index).isNone then put text
      return .done false
  | .branch place => return .jump place
  | .branchIf place =>
      set { state with wasReplaced := false }
      return if state.wasReplaced then .jump place else .goOn
  | .branchUnless place =>
      set { state with wasReplaced := false }
      return if state.wasReplaced then .goOn else .jump place
  | .delete => return .done false
  | .deleteFirst =>
      if state.pattern.contains '\n' then
        set { state with pattern := state.pattern.drop ((firstLine state.pattern).length + 1) }
        return .again
      else return .done false
  | .next =>
      if (← isLast call) && !state.separate then return .quit 0 true
      else
        if !state.quiet then putLine state.pattern state.isWhole
        putQueue
        match ← take call with
        | none => return .quit 0 false
        | some (line, isWhole) =>
            modify fun state => { state with pattern := line, isWhole }
            return .goOn
  | .nextAppend =>
      if ← isLast call then return .quit 0 true
      else
        putQueue
        match ← take call with
        | none => return .quit 0 true
        | some (line, isWhole) =>
            modify fun state => { state with pattern := state.pattern ++ '\n' :: line, isWhole }
            return .goOn
  | .print =>
      putLine state.pattern state.isWhole
      return .goOn
  | .printFirst =>
      put (firstLine state.pattern ++ ['\n'])
      return .goOn
  | .quit status quiet => return .quit status (!quiet)
  | .hold =>
      set { state with held := state.pattern }
      return .goOn
  | .holdAppend =>
      set { state with held := state.held ++ '\n' :: state.pattern }
      return .goOn
  | .get =>
      set { state with pattern := state.held }
      return .goOn
  | .getAppend =>
      set { state with pattern := state.pattern ++ '\n' :: state.held }
      return .goOn
  | .exchange =>
      set { state with pattern := state.held, held := state.pattern }
      return .goOn
  | .number =>
      put (Octets.ofNat state.number ++ ['\n'])
      return .goOn
  | .list =>
      put (listed state.pattern)
      return .goOn
  | .read file =>
      set { state with queue := state.queue ++ [Sum.inr file] }
      return .goOn
  | .write file =>
      putTo file state.pattern
      return .goOn
  | .writeFirst file =>
      putTo file (firstLine state.pattern)
      return .goOn
  | .empty =>
      set { state with pattern := [] }
      return .goOn
  | .transliterate source target =>
      let change (c : Char) : Char :=
        match source.idxOf? c with
        | some index => target.getD index c
        | none => c
      set { state with pattern := state.pattern.map change }
      return .goOn
  | .substitute substitution => do
      match ← usedPattern substitution.pattern with
      | none => return .goOn
      | some pattern =>
          let (line, isChanged) := substituteIn pattern substitution (state.pattern.length + 2)
            substitution.occurrence false [] state.pattern
          if isChanged then
            modify fun state => { state with pattern := line, wasReplaced := true }
            if 0 < substitution.prints then putLine line state.isWhole
            match substitution.target with
            | some file => putTo file line
            | none => pure ()
          return .goOn

/-- Runs the rules on the line at work, from a place on. -/
def runRules (call : Call) (rules : Array Rule) : Nat → Nat → Work Flow
  | 0, _ => return .done true
  | fuel + 1, place => do
      match rules[place]? with
      | none => return .done true
      | some rule =>
          if (← applies call place rule) != rule.negated then
            match ← perform call place rule with
            | .goOn => runRules call rules fuel (place + 1)
            | .jump place => runRules call rules fuel place
            | flow => return flow
          else
            match rule.command with
            | .block close => runRules call rules fuel (close + 1)
            | _ => runRules call rules fuel (place + 1)

def endLine (prints : Bool) : Work Unit := do
  let state ← get
  if prints && !state.quiet then putLine state.pattern state.isWhole
  putQueue

def runLines (call : Call) (rules : Array Rule) : Nat → Bool → Work Nat
  | 0, _ => return 0
  | fuel + 1, keeps => do
      if ((← (MonadState.get : Tool Output)).failure).isSome then return 4
      let isThere ←
        if keeps then pure true
        else
          match ← take call with
          | none => pure false
          | some (line, isWhole) =>
              modify fun state => { state with pattern := line, isWhole, wasReplaced := false }
              pure true
      if !isThere then return (← get).status
      else
        match ← runRules call rules Task.endless 0 with
        | .quit status prints =>
            endLine prints
            -- The rest of a file that is edited in its place stays.
            if (← get).inPlace.isSome then
              match (← get).ahead with
              | some (line, isWhole) => putLine line isWhole
              | none => pure ()
              match (← get).source with
              | some (_, source) =>
                  let rest ← (Task.readAll source.handle : Task (Except SystemError Octets))
                  put (source.unread ++ rest.toOption.getD [])
                  storeEdited
              | none => pure ()
            else
              match (← get).source with
              | some (_, source) => (source.giveBack : Task Unit)
              | none => pure ()
            return max status (← get).status
        | .again =>
            putQueue
            runLines call rules fuel true
        | .done prints =>
            endLine prints
            runLines call rules fuel false
        | _ => runLines call rules fuel false

/-- Files that a script writes to. -/
def targetsOf (rules : List Rule) : List Octets :=
  rules.filterMap fun rule =>
    match rule.command with
    | .write file | .writeFirst file => some file
    | .substitute substitution => substitution.target
    | _ => none

/-- The usage of sed, for arguments without a script. -/
def usage : Octets := Octets.ofString "Usage: sed [OPTION]... \x7bscript-only-if-no-other-script\x7d [input-file]...\n\n"

end InterfaceAudit.Tool.Sed

namespace InterfaceAudit.Tool

def sed : Program := fun call =>
  call.withOptions {
      flags := "nErszu"
      valued := "efl"
      optional := "i"
      long := [("quiet", 'n'), ("silent", 'n'), ("regexp-extended", 'E'), ("expression", 'e'),
        ("file", 'f'), ("in-place", 'i'), ("separate", 's'), ("null-data", 'z'), ("unbuffered", 'u'),
        ("posix", 'u')] } fun options => do
    let mut parts : List Octets := []
    for (letter, value) in options.given do
      if letter == 'e' then parts := parts ++ [value]
      if letter == 'f' then
        match ← readInput value with
        | .ok text => parts := parts ++ [if text.getLast? == some '\n' then text.dropLast else text]
        | .error cause =>
            return ← call.fail ("couldn't open file " ++ value.shown ++ ": " ++ cause.text)
    let isGiven := !parts.isEmpty
    match isGiven, options.operands with
    | false, [] =>
        warn Sed.usage
        return 1
    | _, operands =>
        let (script, files) :=
          if isGiven then (Octets.join ['\n'] parts, operands)
          else (operands.headD [], operands.drop 1)
        let (script, quiet) :=
          match script with
          | '#' :: 'n' :: '\n' :: rest => (rest, true)
          | ['#', 'n'] => ([], true)
          | script => (script, options.has 'n')
        match Sed.rulesOf (options.has 'E' || options.has 'r') script with
        | .error complaint => call.fail complaint
        | .ok rules =>
            let mut targets : List (Octets × Nat) := []
            for file in Sed.targetsOf rules do
              if (targets.lookup file).isNone && !(Octets.ofString "/dev/std").isPrefixOf file then
                match ← Task.openFile file { writes := true, creates := true, empties := true } with
                | .ok handle => targets := (file, handle) :: targets
                | .error cause =>
                    return ← call.fail ("couldn't open file " ++ file.shown ++ ": " ++ cause.text) 4
            let inPlace := options.value? 'i'
            let (status, _) ← (Sed.runLines call rules.toArray Task.endless false).run {
              files := if files.isEmpty then [['-']] else files
              separate := inPlace.isSome || options.has 's'
              inPlace
              quiet
              targets }
            return status

end InterfaceAudit.Tool
