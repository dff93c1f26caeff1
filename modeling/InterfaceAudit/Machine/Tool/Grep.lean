import InterfaceAudit.Machine.Tool.Pattern

/-!
Contract: the program that searches lines.

Owns:
- which lines are selected, and which stand around them;
- how found lines, names and counts are printed;
- the exit codes of grep.

Does not own: the expressions that are searched for.
-/

namespace InterfaceAudit.Tool

structure Search where
  patterns : List Pattern
  ignoreCase : Bool
  inverted : Bool
  wholeLine : Bool
  wholeWord : Bool

namespace Search

def bounded (search : Search) (pattern : Pattern) : Pattern :=
  if search.wholeLine then .sequence .lineStart (.sequence pattern .lineEnd)
  else if search.wholeWord then
    .sequence (.either .lineStart (.either (.wordEdge true) (.anyEdge true)))
      (.sequence pattern (.either .lineEnd (.either (.wordEdge false) (.anyEdge true))))
  else pattern

/-- The leftmost match of any pattern in a line, the longest if several start
there. -/
def first (search : Search) (behind line : Octets) : Option Pattern.Match :=
  (search.patterns.filterMap fun pattern =>
    (search.bounded pattern).search search.ignoreCase behind line).foldl
      (fun best next =>
        match best with
        | none => some next
        | some other =>
            let (x, y) := (next.before.length, other.before.length)
            if x < y || (x == y && other.text.length < next.text.length) then some next
            else some other)
      none

def selects (search : Search) (line : Octets) : Bool :=
  (search.first [] line).isSome != search.inverted

/-- All matches in a line that are not empty, with what stands before each. -/
def all (search : Search) : Nat → Octets → Octets → List (Nat × Octets)
  | 0, _, _ => []
  | fuel + 1, behind, line =>
      match search.first behind line with
      | none => []
      | some found =>
          if found.text.isEmpty then
            match found.after with
            | [] => []
            | c :: after => search.all fuel (c :: found.before.reverse) after
          else
            (found.before.length, found.text) ::
              search.all fuel (found.text.reverse ++ found.before.reverse) found.after

end Search

/-- How found lines are printed. -/
structure FoundForm where
  options : Options
  isNamed : Bool
  /-- Lines to be printed in front of and behind a selected one. -/
  before : Nat
  after : Nat
  limit : Option Nat

namespace FoundForm

def front (form : FoundForm) (name : Octets) (number offset : Nat) (mark : Char) : Octets :=
  (if form.isNamed then name ++ [mark] else []) ++
    (if form.options.has 'n' then Octets.ofNat number ++ [mark] else []) ++
    (if form.options.has 'b' then Octets.ofNat offset ++ [mark] else [])

def ending (form : FoundForm) : Char := if form.options.has 'z' then '\x00' else '\n'

def printsLines (form : FoundForm) : Bool :=
  !(['q', 'l', 'L', 'c'].any form.options.has)

def selected (form : FoundForm) (search : Search) (name : Octets) (number offset : Nat)
    (line : Octets) : Octets :=
  if form.options.has 'o' then
    if search.inverted then []
    else (search.all (line.length + 1) [] line).flatMap fun (start, text) =>
      form.front name number (offset + start) ':' ++ text ++ [form.ending]
  else form.front name number offset ':' ++ line ++ [form.ending]

end FoundForm

/-- A search on its way through a file. -/
structure Searching where
  number : Nat := 0
  offset : Nat := 0
  count : Nat := 0
  /-- The lines just passed, the last one first, with numbers and offsets. -/
  passed : List (Nat × Nat × Octets) := []
  /-- How many lines are still to be printed behind a selected one. -/
  behind : Nat := 0
  /-- The number of the line printed last. -/
  printed : Nat := 0
  hasNul : Bool := false
  isDone : Bool := false

def Searching.line (form : FoundForm) (search : Search) (name : Octets) (state : Searching)
    (line : Octets) : Tool Searching := do
  let state := { state with number := state.number + 1 }
  let next := state.offset + line.length + 1
  let hasNul := state.hasNul || line.contains '\x00'
  let context := form.printsLines && !form.options.has 'o'
  if search.selects line && form.limit.all (state.count < ·) then
    let state := { state with count := state.count + 1 }
    if !form.printsLines then
      let isDone := ['q', 'l', 'L'].any form.options.has || form.limit == some state.count
      return { state with offset := next, isDone }
    else if hasNul && !form.options.has 'a' then
      printLine (Octets.ofString "grep: " ++ name ++ Octets.ofString ": binary file matches")
      return { state with isDone := true }
    else
      let around := if context then state.passed.reverse else []
      let start := (around.head?.map Prod.fst).getD state.number
      if context && 0 < form.before + form.after && state.printed != 0 && state.printed + 1 < start then
        printLine ['-', '-']
      for (number, offset, text) in around do
        print (form.front name number offset '-' ++ text ++ [form.ending])
      print (form.selected search name state.number state.offset line)
      return { state with
        offset := next
        hasNul := hasNul
        passed := []
        behind := form.after
        printed := state.number
        isDone := form.after == 0 && form.limit == some state.count }
  else if context && 0 < state.behind then
    print (form.front name state.number state.offset '-' ++ line ++ [form.ending])
    return { state with
      offset := next
      hasNul := hasNul
      behind := state.behind - 1
      printed := state.number
      isDone := state.behind == 1 && form.limit == some state.count }
  else
    return { state with
      offset := next
      hasNul := hasNul
      passed := ((state.number, state.offset, line) :: state.passed).take form.before
      isDone := form.limit == some state.count }

/-- Looks at lines until the search is done. -/
def searchLines (form : FoundForm) (search : Search) (name : Octets) :
    Nat → LineSource → Searching → Tool Searching
  | 0, _, state => return state
  | fuel + 1, source, state => do
      if state.isDone || (← get).failure.isSome then
        liftM source.giveBack
        return state
      else
        match ← source.next with
        | (none, _) => return state
        | (some (line, _), source) =>
            searchLines form search name fuel source (← state.line form search name line)

/-- Searches a file: whether a line was selected, or `none` if it cannot be
read. -/
def Call.searchFile (call : Call) (form : FoundForm) (search : Search) (file : Octets) :
    Tool (Option Bool) := do
  let refuse (cause : SystemError) : Tool (Option Bool) := do
    if !form.options.has 's' then call.complain (file.shown ++ ": " ++ cause.text)
    return none
  match ← openInput file with
  | .error cause => refuse cause
  | .ok handle =>
      if file != ['-'] && (← Task.isDirectory file) then
        discard (liftM (Task.close handle))
        refuse .isADirectory
      else
        let name := if file == ['-'] then Octets.ofString "(standard input)" else file
        let state ← searchLines form search name Task.endless { handle, mark := form.ending } {
          isDone := form.limit == some 0 }
        if file != ['-'] then discard (liftM (Task.close handle))
        let options := form.options
        if options.has 'q' then pure ()
        else if options.has 'l' then if 0 < state.count then printLine name
        else if options.has 'L' then if state.count == 0 then printLine name
        else if options.has 'c' then
          printLine ((if form.isNamed then name ++ [':'] else []) ++ Octets.ofNat state.count)
        return some (0 < state.count)

/-- The files of a tree, by their paths. -/
def filesBelow : Nat → Octets → Task (List Octets)
  | 0, _ => return []
  | fuel + 1, path => do
      if path.isEmpty || (← Task.isDirectory path) then
        match ← Task.names (if path.isEmpty then ['.'] else path) with
        | .error _ => return []
        | .ok names => do
            let mut files : List Octets := []
            for name in names do
              let below :=
                if path.isEmpty then name
                else if path.getLast? == some '/' then path ++ name
                else path ++ '/' :: name
              files := files ++ (← filesBelow fuel below)
            return files
      else return [path]

/-- The patterns that the arguments ask for, as they are written. -/
def Call.searchSources (call : Call) (options : Options) : Tool (Option (List Octets × List Octets)) := do
  let mut sources := options.values 'e'
  for file in options.values 'f' do
    match ← readInput file with
    | .ok text => sources := sources ++ Octets.lines text
    | .error cause =>
        call.complain (file.shown ++ ": " ++ cause.text)
        return none
  if options.has 'e' || options.has 'f' then return some (sources, options.operands)
  else return some (options.operands.take 1, options.operands.drop 1)

/-- The usage of grep, for arguments without a pattern. -/
def grepUsage : Octets :=
  Octets.ofString "Usage: grep [OPTION]... PATTERNS [FILE]...\nTry 'grep --help' for more information.\n"

/-- An expression of the notation of Perl in the extended notation, as far as
both have the same. -/
def withoutPerl : Octets → Octets
  | '\\' :: 'd' :: rest => "[0-9]".toList ++ withoutPerl rest
  | '\\' :: 'D' :: rest => "[^0-9]".toList ++ withoutPerl rest
  | '\\' :: 't' :: rest => '\t' :: withoutPerl rest
  | '\\' :: c :: rest => '\\' :: c :: withoutPerl rest
  | c :: rest => c :: withoutPerl rest
  | [] => []

/-- The patterns of sources, each of which holds one on every line. -/
def compilePatterns (kind : Char) (sources : List Octets) : Except Pattern.Flaw (List Pattern) :=
  (sources.flatMap fun source => if source.isEmpty then [[]] else Octets.lines source).mapM fun text =>
    match kind with
    | 'F' => .ok (Pattern.literal text)
    | 'P' => Pattern.ofText true (withoutPerl text)
    | kind => Pattern.ofText (kind == 'E') text

/-- Searches files, and trees if that is asked for. -/
def Call.searchFiles (call : Call) (options : Options) (search : Search) (files : List Octets) :
    Tool Nat := do
  let number (letter : Char) : Option Nat := (options.value? letter).bind Octets.natOf?
  let recursive := options.has 'r' || options.has 'R'
  let mut searched : List Octets := []
  if recursive then
    for file in (if files.isEmpty then [[]] else files) do
      searched := searched ++ (← filesBelow 64 file)
  else searched := if files.isEmpty then [['-']] else files
  let isNamed :=
    match options.last? ['h', 'H'] with
    | some letter => letter == 'H'
    | none => recursive || 1 < files.length
  let form : FoundForm := {
    options, isNamed
    before := ((number 'B').or (number 'C')).getD 0
    after := ((number 'A').or (number 'C')).getD 0
    limit := number 'm' }
  let mut found := false
  let mut failed := false
  for file in searched do
    if !(found && options.has 'q') then
      match ← call.searchFile form search file with
      | none => failed := true
      | some result => found := found || result
  return if failed && !(found && options.has 'q') then 2 else if found then 0 else 1

/-- A number behind a hyphen as the option for context. -/
def contextOption (argument : Octets) : Octets :=
  match argument with
  | '-' :: c :: rest => if (c :: rest).all Char.isDigit then '-' :: 'C' :: c :: rest else argument
  | _ => argument

def grep : Program := fun call =>
  let given : Char := match String.ofList call.name with
    | "egrep" => 'E'
    | "fgrep" => 'F'
    | _ => 'G'
  { call with arguments := call.arguments.map contextOption }.withOptions {
      flags := "cvnqiyEFGPolLhHsxwarRbzTUI"
      valued := "emABCfd"
      optional := "K"
      long := [("count", 'c'), ("invert-match", 'v'), ("line-number", 'n'), ("quiet", 'q'),
        ("silent", 'q'), ("ignore-case", 'i'), ("extended-regexp", 'E'), ("fixed-strings", 'F'),
        ("basic-regexp", 'G'), ("only-matching", 'o'), ("files-with-matches", 'l'),
        ("files-without-match", 'L'), ("no-filename", 'h'), ("with-filename", 'H'),
        ("no-messages", 's'), ("line-regexp", 'x'), ("word-regexp", 'w'), ("text", 'a'),
        ("recursive", 'r'), ("byte-offset", 'b'), ("regexp", 'e'), ("max-count", 'm'),
        ("after-context", 'A'), ("before-context", 'B'), ("context", 'C'), ("file", 'f'),
        ("null-data", 'z'), ("color", 'K'), ("colour", 'K'), ("perl-regexp", 'P')]
      status := 2 } fun options => do
    match ← call.searchSources options with
    | none => return 2
    | some ([], []) =>
        if options.has 'e' || options.has 'f' then return 1
        warn grepUsage
        return 2
    | some (sources, files) =>
        match compilePatterns ((options.last? ['E', 'F', 'G', 'P']).getD given) sources with
        | .error flaw => call.fail flaw.text 2
        | .ok patterns =>
            let number (letter : Char) : Option Nat := (options.value? letter).bind Octets.natOf?
            match ['A', 'B', 'C'].find? (fun letter => options.has letter && (number letter).isNone) with
            | some letter =>
                call.fail (((options.value? letter).getD []).shown ++ ": invalid context length argument") 2
            | none =>
                let search : Search := {
                  patterns
                  ignoreCase := options.has 'i' || options.has 'y'
                  inverted := options.has 'v'
                  wholeLine := options.has 'x'
                  wholeWord := options.has 'w' }
                call.searchFiles options search files

end InterfaceAudit.Tool
