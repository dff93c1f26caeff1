import InterfaceAudit.Machine.Shell.Wildcard
import InterfaceAudit.Machine.Tool.Files
import InterfaceAudit.Machine.Tool.Pattern
import InterfaceAudit.Machine.Tool.Processes

/-!
Contract: looking for files below directories.

Owns:
- criteria and what is done with files that meet them;
- their notation with its operators;
- the way through directories.

Does not own: patterns and the running of programs.
-/

namespace InterfaceAudit.Tool

/-! ## Criteria -/

/-- How a number is compared with a given one. -/
inductive Bound where
  | exactly
  | more
  | less
deriving DecidableEq, Repr, Inhabited

/-- Whether a number is as a bound says. -/
def Bound.holds (bound : Bound) (value given : Nat) : Bool :=
  match bound with
  | .exactly => value == given
  | .more => given < value
  | .less => value < given

/-- What files may have to meet, and what may be done with them. -/
inductive Criterion where
  | constant (value : Bool)
  | name (ignoreCase : Bool) (pattern : Octets)
  | path (ignoreCase : Bool) (pattern : Octets)
  | expression (pattern : Pattern)
  | kind (kinds : List FileKind)
  | empty
  | size (bound : Bound) (count unit : Nat)
  | newer (changed : Nat)
  | mode (bound : Bound) (bits : Nat)
  | links (bound : Bound) (count : Nat)
  | print
  | printEnded
  | format (text : Octets)
  | list
  | delete
  | prune
  | quit
  | execute (words : List Octets)
  /-- Files are collected under a number; the words are executed in the end. -/
  | collect (number : Nat)
  | not (operand : Criterion)
  | both (first second : Criterion)
  | either (first second : Criterion)
  /-- Both are looked at; the second one counts. -/
  | series (first second : Criterion)
deriving Inhabited

def Criterion.acts : Criterion → Bool
  | .print | .printEnded | .format _ | .list | .delete | .execute _ | .collect _ | .quit => true
  | .not operand => operand.acts
  | .both first second | .either first second | .series first second => first.acts || second.acts
  | _ => false

/-! ## Notation -/

/-- What is asked for as a whole. -/
structure Lookup where
  least : Nat := 0
  most : Option Nat := none
  /-- Whether what is in a directory comes before the directory. -/
  isDeepFirst : Bool := false
  /-- Words that are executed for all files collected under a number. -/
  collected : List (List Octets) := []

/-- What the reader of criteria carries along. -/
structure LookupReading where
  words : List Octets
  search : Lookup := {}

/-- Reads criteria, or gives the complaint about them. -/
abbrev LookupReader := StateT LookupReading (ExceptT String Task)

/-- A whole number behind an optional sign. -/
def boundOf? (text : Octets) : Option (Bound × Octets) :=
  match text with
  | '+' :: rest => some (.more, rest)
  | '-' :: rest => some (.less, rest)
  | rest => some (.exactly, rest)

def kindLetters : List (Char × FileKind) :=
  [('f', .regular), ('d', .directory), ('l', .link), ('p', .fifo), ('c', .characters)]

namespace LookupReader

def complain {α : Type} (text : String) : LookupReader α := liftM (m := ExceptT String Task) (throw text)

def peek? : LookupReader (Option Octets) := do return (← get).words.head?

def advance : LookupReader Unit := modify fun reading => { reading with words := reading.words.drop 1 }

/-- Whether the next word is one of some; it is passed over then. -/
def accept (words : List String) : LookupReader Bool := do
  match ← peek? with
  | some word =>
      if words.any (fun known => known.toList == word) then
        advance
        return true
      else return false
  | none => return false

def argument (word : Octets) : LookupReader Octets := do
  match ← peek? with
  | some value =>
      advance
      return value
  | none => complain ("missing argument to `" ++ word.shown ++ "'")

def change (alter : Lookup → Lookup) : LookupReader Criterion := do
  modify fun reading => { reading with search := alter reading.search }
  return .constant true

/-- The words up to a semicolon, or to a plus sign behind a place for files. -/
def command (word : Octets) : Nat → List Octets → LookupReader Criterion
  | 0, _ => complain ""
  | fuel + 1, passed => do
      match ← peek? with
      | none => complain ("missing argument to `" ++ word.shown ++ "'")
      | some [';'] =>
          advance
          if passed.isEmpty then complain ("missing argument to `" ++ word.shown ++ "'")
          else return .execute passed.reverse
      | some ['+'] =>
          advance
          match passed with
          | ['\x7b', '\x7d'] :: words =>
              let number := (← get).search.collected.length
              discard (change fun search => { search with collected := search.collected ++ [words.reverse] })
              return .collect number
          | _ => command word fuel (['+'] :: passed)
      | some next =>
          advance
          command word fuel (next :: passed)

/-- Where links are not followed, what is known about a file. -/
def statusOf (path : Octets) : LookupReader FileStatus := do
  match ← liftM (m := ExceptT String Task) (liftM (Task.status path) : ExceptT String Task _) with
  | .ok status => return status
  | .error cause => complain (named path ++ ": " ++ cause.text)

def criterion (word : Octets) : LookupReader Criterion := do
  let number (use : Bound → Nat → Criterion) : LookupReader Criterion := do
    let value ← argument word
    match boundOf? value with
    | some (bound, digits) =>
        match Octets.natOf? digits with
        | some count => return use bound count
        | none => complain ("invalid argument `" ++ value.shown ++ "' to `" ++ word.shown ++ "'")
    | none => complain ("invalid argument `" ++ value.shown ++ "' to `" ++ word.shown ++ "'")
  let depth (use : Nat → Lookup → Lookup) : LookupReader Criterion := do
    let value ← argument word
    match Octets.natOf? value with
    | some depth => change (use depth)
    | none =>
        complain ("Expected a positive decimal integer argument to " ++ word.shown ++ ", but got " ++
          named value)
  match String.ofList word with
  | "-name" => return .name false (← argument word)
  | "-iname" => return .name true (← argument word)
  | "-path" | "-wholename" => return .path false (← argument word)
  | "-ipath" | "-iwholename" => return .path true (← argument word)
  | "-regex" =>
      match Pattern.ofText false (← argument word) with
      | .ok pattern => return .expression pattern
      | .error flaw => complain flaw.text
  | "-type" =>
      let value ← argument word
      let letters := Octets.splitAt ',' value
      match letters.find? (fun letter => letter.length != 1 || (kindLetters.lookup (letter.headD ' ')).isNone) with
      | some letter =>
          if ['b', 's', 'D'].contains (letter.headD ' ') && letter.length == 1 then return .constant false
          else if letter.length == 1 then complain ("Unknown argument to -type: " ++ letter.shown)
          else complain "Must separate multiple arguments to -type using: ','"
      | none => return .kind (letters.filterMap fun letter => kindLetters.lookup (letter.headD ' '))
  | "-empty" => return .empty
  | "-size" =>
      let value ← argument word
      match boundOf? value with
      | some (bound, rest) =>
          let digits := rest.takeWhile Char.isDigit
          let unit? : Option Nat :=
            match rest.drop digits.length with
            | [] | ['b'] => some 512
            | ['c'] => some 1
            | ['w'] => some 2
            | ['k'] => some 1024
            | ['M'] => some 1048576
            | ['G'] => some 1073741824
            | _ => none
          match Octets.natOf? digits, unit? with
          | some count, some unit => return .size bound count unit
          | _, _ => complain ("invalid -size type `" ++ Octets.shown (value.drop (value.length - 1)) ++ "'")
      | none => complain ""
  | "-newer" => return .newer (← statusOf (← argument word)).changed
  | "-perm" =>
      let value ← argument word
      let (bound, text) : Bound × Octets :=
        match value with
        | '-' :: text => (.more, text)
        | '/' :: text => (.less, text)
        | text => (.exactly, text)
      match modeChange? text with
      | some change => return .mode bound (change false 0 0)
      | none => complain ("invalid mode " ++ named value)
  | "-links" => number .links
  | "-mtime" | "-atime" | "-ctime" | "-mmin" | "-amin" | "-cmin" =>
      number fun bound count => .constant (match bound with
        | .exactly => count == 0
        | .more => false
        | .less => 0 < count)
  | "-user" | "-group" | "-uid" | "-gid" =>
      let value ← argument word
      return .constant (value == "root".toList || value == ['0'])
  | "-maxdepth" => depth fun depth search => { search with most := some depth }
  | "-mindepth" => depth fun depth search => { search with least := depth }
  | "-depth" | "-d" => change fun search => { search with isDeepFirst := true }
  | "-xdev" | "-mount" | "-noleaf" | "-warn" | "-nowarn" | "-daystart" | "-follow" | "-ignore_readdir_race" =>
      return .constant true
  | "-true" | "-readable" | "-writable" => return .constant true
  | "-false" => return .constant false
  | "-executable" => return .mode .less 0o111
  | "-print" => return .print
  | "-print0" => return .printEnded
  | "-printf" => return .format (← argument word)
  | "-ls" => return .list
  | "-delete" =>
      discard (change fun search => { search with isDeepFirst := true })
      return .delete
  | "-prune" => return .prune
  | "-quit" => return .quit
  | "-exec" | "-execdir" | "-ok" =>
      command word ((← get).words.length + 1) []
  | _ => complain ("unknown predicate `" ++ word.shown ++ "'")

mutual

/-- Criteria with commas between them. -/
def seriesLevel : Nat → LookupReader Criterion
  | 0 => complain ""
  | fuel + 1 => do
      let mut left ← eitherLevel fuel
      for _ in (← get).words do
        if ← accept [","] then left := .series left (← eitherLevel fuel) else break
      return left

/-- Criteria with an or between them. -/
def eitherLevel : Nat → LookupReader Criterion
  | 0 => complain ""
  | fuel + 1 => do
      let mut left ← bothLevel fuel
      for _ in (← get).words do
        match ← peek? with
        | some word =>
            if word == "-o".toList || word == "-or".toList then
              advance
              if (← peek?).isNone then complain ("expected an expression after " ++ named word)
              else left := .either left (← bothLevel fuel)
            else break
        | none => break
      return left

/-- Criteria that follow each other. -/
def bothLevel : Nat → LookupReader Criterion
  | 0 => complain ""
  | fuel + 1 => do
      let mut left ← single fuel
      for _ in (← get).words do
        match ← peek? with
        | none | some [')'] | some [','] => break
        | some word =>
            if ["-o", "-or"].any (fun known => known.toList == word) then break
            else
              discard (accept ["-a", "-and"])
              if (← peek?).isNone then complain ("expected an expression after " ++ named word)
              else left := .both left (← single fuel)
      return left

def single : Nat → LookupReader Criterion
  | 0 => complain ""
  | fuel + 1 => do
      match ← peek? with
      | none => complain ""
      | some word =>
          if word == ['!'] || word == "-not".toList then
            advance
            if (← peek?).isNone then complain ("expected an expression after " ++ named word)
            else return .not (← single fuel)
          else if word == ['('] then
            advance
            match ← peek? with
            | none =>
                complain ("invalid expression; expected to find a ')' but didn't see one. " ++
                  "Perhaps you need an extra predicate after '('")
            | some [')'] => complain "invalid expression; empty parentheses are not allowed."
            | some _ =>
                let inner ← seriesLevel fuel
                if ← accept [")"] then return inner
                else
                  complain ("invalid expression; I was expecting to find a ')' somewhere but did not see one.")
          else if word == [')'] then
            complain "invalid expression; you have too many ')'"
          else if ["-o", "-or", "-a", "-and", ","].any (fun known => known.toList == word) then
            complain ("invalid expression; you have used a binary operator " ++ named word ++
              " with nothing before it.")
          else
            advance
            criterion word

end

/-- All criteria. -/
def whole : LookupReader Criterion := do
  if (← peek?).isNone then return .print
  else
    let result ← seriesLevel (10 * (← get).words.length + 10)
    match ← peek? with
    | some word =>
        if word == [')'] then complain "invalid expression; you have too many ')'"
        else complain ("paths must precede expression: `" ++ word.shown ++ "'")
    | none => return if result.acts then result else .both result .print

end LookupReader

/-! ## Looking -/

/-- A file that is looked at. -/
structure Found where
  path : Octets
  /-- The operand that it was found below. -/
  start : Octets
  depth : Nat
  status : FileStatus

structure Gathering where
  /-- Files collected under numbers, in reverse. -/
  collected : List (Nat × Octets) := []
  isPruned : Bool := false
  isOver : Bool := false
  result : Nat := 0

abbrev Finder := StateT Gathering Tool

/-- Complains, which makes the search a failure. -/
def Call.note (call : Call) (text : String) : Finder Unit := do
  liftM (call.complain text)
  modify fun gathering => { gathering with result := 1 }

def Call.runProgram (call : Call) (words : List Octets) : Tool (Option Ending) := do
  flush
  let child ← liftM (Task.fork (do
    let cause ← executeAlong (words.headD []) words call.environment
    let (_, _) ← (call.complain (named (words.headD []) ++ ": " ++ cause.text)).run {}
    Task.exit 1))
  match ← Task.wait (some child) with
  | .ok (some (_, ending)) => return some ending
  | _ => return none

/-- A text with directives replaced by what is known about a file. -/
def foundText (found : Found) : Nat → Octets → Octets
  | 0, text => text
  | _, [] => []
  | fuel + 1, '%' :: c :: rest =>
      let relative := (found.path.drop found.start.length).dropWhile (· == '/')
      let shown : Octets :=
        match c with
        | 'p' => found.path
        | 'f' => lastName found.path
        | 'h' => pathAbove found.path
        | 'P' => relative
        | 'H' => found.start
        | 'd' => Octets.ofNat found.depth
        | 's' => Octets.ofNat found.status.size
        | 'm' => Nat.toDigits 8 found.status.mode
        | 'M' => modeText found.status.kind found.status.mode
        | 'n' => Octets.ofNat found.status.links
        | 'i' => Octets.ofNat (1000000 + found.status.number)
        | 'u' | 'g' => "root".toList
        | 'U' | 'G' => ['0']
        | 'y' | 'Y' => ((kindLetters.find? fun held => held.2 == found.status.kind).map fun held => [held.1]).getD []
        | '%' => ['%']
        | c => ['%', c]
      shown ++ foundText found fuel rest
  | fuel + 1, '\\' :: c :: rest =>
      if c == '0' then '\x00' :: foundText found fuel rest
      else ((letterEscape? c).map fun escaped => [escaped]).getD ['\\', c] ++ foundText found fuel rest
  | fuel + 1, c :: rest => c :: foundText found fuel rest

def coversText (ignoreCase : Bool) (pattern text : Octets) : Bool :=
  let fold (text : Octets) : Octets := if ignoreCase then text.map Char.toLower else text
  let rec marked : Octets → Shell.Wildcard
    | '\\' :: c :: rest => (c, true) :: marked rest
    | c :: rest => (c, false) :: marked rest
    | [] => []
  Shell.Wildcard.covers (marked (fold pattern)) (fold text)

/-- Whether a file meets a criterion; what is to be done with it is done. -/
def Criterion.meets (call : Call) (found : Found) : Criterion → Finder Bool
  | .constant value => return value
  | .name ignoreCase pattern => return coversText ignoreCase pattern (lastName found.path)
  | .path ignoreCase pattern => return coversText ignoreCase pattern found.path
  | .expression pattern =>
      return match pattern.longestAt false { behind := [], ahead := found.path } with
        | some place => place.ahead.isEmpty
        | none => false
  | .kind kinds => return kinds.contains found.status.kind
  | .empty => do
      match found.status.kind with
      | .regular => return found.status.size == 0
      | .directory => return ((← Task.names found.path).toOption).any List.isEmpty
      | _ => return false
  | .size bound count unit => return bound.holds ((found.status.size + unit - 1) / unit) count
  | .newer changed => return changed < found.status.changed
  | .mode bound bits =>
      return match bound with
        | .exactly => found.status.mode == bits
        | .more => found.status.mode &&& bits == bits
        | .less => bits == 0 || found.status.mode &&& bits != 0
  | .links bound count => return bound.holds found.status.links count
  | .print => do
      liftM (printLine found.path)
      return true
  | .printEnded => do
      liftM (Tool.print (found.path ++ ['\x00']))
      return true
  | .format form => do
      liftM (Tool.print (foundText found (form.length + 1) form))
      return true
  | .list => do
      let line := Octets.padLeft 9 (Octets.ofNat (1000000 + found.status.number)) ++
        Octets.padLeft 7 (Octets.ofNat (blockCount found.status)) ++ ' ' ::
        modeText found.status.kind found.status.mode ++ Octets.padLeft 4 (Octets.ofNat found.status.links) ++
        " root     root     ".toList ++ Octets.padLeft 8 (Octets.ofNat found.status.size) ++
        " Jan  1 00:00 ".toList ++ found.path
      liftM (printLine line)
      return true
  | .delete => do
      let isFolder := found.status.kind == .directory
      if isFolder && lastName found.path == ['.'] then return true
      else
        let result : Except SystemError Unit ←
          if isFolder then liftM (m := Tool) (liftM (Task.ask (.removeDirectory found.path) : Task _))
          else liftM (m := Tool) (liftM (Task.ask (.unlink found.path) : Task _))
        match result with
        | .ok _ => return true
        | .error cause =>
            call.note ("cannot delete " ++ named found.path ++ ": " ++ cause.text)
            return false
  | .prune => do
      modify fun gathering => { gathering with isPruned := true }
      return true
  | .quit => do
      modify fun gathering => { gathering with isOver := true }
      return true
  | .execute words => do
      let marker := ['\x7b', '\x7d']
      let words := words.map fun word => replaceAll marker found.path (word.length + 1) word
      let ending ← call.runProgram words
      return ending == some (.exited 0)
  | .collect number => do
      modify fun gathering => { gathering with collected := (number, found.path) :: gathering.collected }
      return true
  | .not operand => do return !(← operand.meets call found)
  | .both first second => do
      if ← first.meets call found then
        if (← get).isOver then return true else second.meets call found
      else return false
  | .either first second => do
      if ← first.meets call found then return true else second.meets call found
  | .series first second => do
      discard (first.meets call found)
      second.meets call found

/-- Looks at a file, and at what lies below it. -/
def visit (call : Call) (search : Lookup) (follows : Bool) (criterion : Criterion) (start : Octets) :
    Nat → Nat → Octets → Finder Unit
  | 0, _, _ => return
  | fuel + 1, depth, path => do
      if (← get).isOver then return
      let found ← liftM (m := Tool) (liftM (if follows then Task.status path else Task.linkStatus path))
      let found ← match follows, found with
        | true, .error _ => liftM (m := Tool) (liftM (Task.linkStatus path))
        | _, found => pure found
      match found with
      | .error cause => call.note (named path ++ ": " ++ cause.text)
      | .ok status =>
          let look : Finder Unit := do
            if search.least ≤ depth then discard (criterion.meets call { path, start, depth, status })
          modify fun gathering => { gathering with isPruned := false }
          if !search.isDeepFirst then look
          let isClosed := !search.isDeepFirst && (← get).isPruned
          if status.kind == .directory && !isClosed && search.most.all (depth < ·) then
            match ← Task.names path with
            | .error cause => call.note (named path ++ ": " ++ cause.text)
            | .ok names =>
                for name in names do
                  visit call search follows criterion start fuel (depth + 1) (below path name)
          if search.isDeepFirst && !(← get).isOver then look

/-- Whether a word belongs to the criteria rather than to the operands. -/
def startsCriteria (word : Octets) : Bool :=
  match word with
  | '-' :: _ :: _ => true
  | ['!'] | ['('] | [','] => true
  | _ => false

def find : Program := fun call => do
  let options := call.arguments.takeWhile fun word => [['-', 'L'], ['-', 'H'], ['-', 'P']].contains word
  let rest := call.arguments.drop options.length
  let starts := rest.takeWhile (fun word => !startsCriteria word)
  let words := rest.drop starts.length
  let starts := if starts.isEmpty then [['.']] else starts
  match words with
  | [word] =>
      if word == "--version".toList || word == "-version".toList then
        print (Octets.ofString "find (GNU findutils) 4.9.0\n")
        return 0
  | _ => pure ()
  match ← (LookupReader.whole.run { words }).run with
  | .error text => call.fail text
  | .ok (criterion, reading) =>
      let search := reading.search
      let follows := options.getLast? == some ['-', 'L']
      let work : Finder Unit := do
        for start in starts do
          visit call search follows criterion start 200 0 start
      let (_, gathering) ← work.run {}
      let mut result := gathering.result
      for (words, number) in search.collected.zip (List.range search.collected.length) do
        let paths := (gathering.collected.filter (fun held => held.1 == number)).map Prod.snd
        if !paths.isEmpty then
          let ending ← call.runProgram (words ++ paths.reverse)
          if ending != some (.exited 0) then result := 1
      return result

end InterfaceAudit.Tool
