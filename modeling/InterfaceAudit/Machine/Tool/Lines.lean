import InterfaceAudit.Machine.Tool.Text

/-!
Contract: programs that cut, sort and compare lines.

Owns: cut, uniq, sort, comm, join, cmp and diff.

Does not own: programs that search for patterns.
-/

namespace InterfaceAudit.Tool

/-! ## Cutting -/

/-- A range of positions, counted from one on. -/
structure PositionRange where
  first : Nat
  last : Option Nat
deriving Repr

def rangesOf? (text : Octets) : Option (List PositionRange) :=
  ((Octets.splitAt ',' (text.map fun c => if Octets.isBlank c then ',' else c)).mapM fun range =>
    match Octets.splitAt '-' range with
    | [only] => (Octets.natOf? only).map fun value => ⟨value, some value⟩
    | [[], []] => none
    | [first, last] => do
        let first ← if first.isEmpty then some 1 else Octets.natOf? first
        let last ← if last.isEmpty then some none else (Octets.natOf? last).map some
        return ⟨first, last⟩
    | _ => none)

def isSelected (ranges : List PositionRange) (position : Nat) : Bool :=
  ranges.any fun range => range.first ≤ position && range.last.all (position ≤ ·)

def selectItems {α : Type} (test : Nat → Bool) (items : List α) : List α :=
  ((List.range items.length).zip items).filterMap fun (index, item) =>
    if test (index + 1) then some item else none

def cut : Program := fun call =>
  call.withOptions {
      flags := "snzC"
      valued := "dfcbO"
      long := [("delimiter", 'd'), ("fields", 'f'), ("characters", 'c'), ("bytes", 'b'),
        ("only-delimited", 's'), ("complement", 'C'), ("output-delimiter", 'O')] } fun options => do
    let listed := options.given.filter (fun option => ['f', 'c', 'b'].contains option.1)
    let delimiter := (options.value? 'd').getD ['\t']
    let isFields := options.has 'f'
    match listed with
    | [] => call.misuse "you must specify a list of bytes, characters, or fields"
    | _ :: _ :: _ => call.misuse "only one type of list may be specified"
    | [(_, list)] =>
        if 1 < delimiter.length then call.misuse "the delimiter must be a single character"
        else if !isFields && (options.value? 'd').isSome then
          call.misuse "an input delimiter may be specified only when operating on fields"
        else
          let noun := if isFields then "field" else "byte/character"
          match rangesOf? list with
          | none =>
              if list.all (fun c => c.isDigit || c == '-' || c == ',') then
                call.misuse "invalid range with no endpoint: -"
              else call.misuse ("invalid " ++ (if isFields then "field value '" else
                "byte or character position '") ++ list.shown ++ "'")
          | some ranges =>
              if ranges.any (fun range => range.first == 0) then
                call.misuse (noun ++ (if isFields then "s" else " positions") ++ " are numbered from 1")
              else if ranges.any (fun range => range.last.any (· < range.first)) then
                call.misuse "invalid decreasing range"
              else
                let test (position : Nat) : Bool := isSelected ranges position != options.has 'C'
                let mark := delimiter.headD '\x00'
                let glue := (options.value? 'O').getD [mark]
                let ofLine (line : Octets) : Option Octets :=
                  if isFields then
                    let fields := Octets.splitAt mark line
                    if fields.length < 2 then if options.has 's' then none else some line
                    else some (Octets.join glue (selectItems test fields))
                  else some (selectItems test line)
                forEach (fun file => call.withText file fun text => do
                  print (Octets.unlines ((Octets.lines text).filterMap ofLine))
                  return 0) options.files

/-! ## Repeated lines -/

/-- Runs of lines that are alike, each with its length and its first line. -/
def runs (isAlike : Octets → Octets → Bool) (lines : List Octets) : List (Nat × List Octets) :=
  lines.foldr
    (fun line groups =>
      match groups with
      | (count, first :: others) :: rest =>
          if isAlike line first then (count + 1, line :: first :: others) :: rest
          else (1, [line]) :: groups
      | _ => [(1, [line])])
    []

/-- Drops a number of fields, each with the blanks in front of it. -/
def dropFields : Nat → Octets → Octets
  | 0, line => line
  | count + 1, line =>
      dropFields count ((line.dropWhile Octets.isBlank).dropWhile (fun c => !Octets.isBlank c))

/-- Drops repeated lines, or tells how often lines are repeated. -/
def uniq : Program := fun call =>
  call.withOptions {
      flags := "cdDuiz"
      valued := "fsw"
      long := [("count", 'c'), ("repeated", 'd'), ("unique", 'u'), ("ignore-case", 'i'),
        ("skip-fields", 'f'), ("skip-chars", 's'), ("check-chars", 'w')] } fun options => do
    let number (letter : Char) : Option Nat := (options.value? letter).bind Octets.natOf?
    let key (line : Octets) : Octets :=
      let line := (dropFields ((number 'f').getD 0) line).drop ((number 's').getD 0)
      let line := match number 'w' with | some width => line.take width | none => line
      if options.has 'i' then line.map Char.toLower else line
    match options.operands with
    | _ :: _ :: extra :: _ => call.extraOperand extra
    | operands =>
        match ← readInput (operands.headD ['-']) with
        | .error cause => call.fail ((operands.headD []).shown ++ ": " ++ cause.text)
        | .ok text =>
            let groups := (runs (fun x y => key x == key y) (Octets.lines text)).filter
              fun (count, _) => (!(options.has 'd' || options.has 'D') || 1 < count) &&
                (!options.has 'u' || count == 1)
            let output := Octets.unlines (groups.flatMap fun (count, lines) =>
              if options.has 'c' then
                [Octets.padLeft 7 (Octets.ofNat count) ++ ' ' :: lines.headD []]
              else if options.has 'D' then lines
              else [lines.headD []])
            match operands with
            | [_, target] =>
                match ← writeFile target output with
                | .ok _ => return 0
                | .error cause => call.fail (target.shown ++ ": " ++ cause.text)
            | _ =>
                print output
                return 0

/-! ## Sorting -/

/-- A place in a line: a field, and a character in it. -/
structure KeyPlace where
  field : Nat
  char : Nat := 0
  letters : Octets := []

/-- A part of a line by which lines are sorted, with the letters of its order. -/
structure SortKey where
  first : KeyPlace := { field := 1 }
  last : Option KeyPlace := none

def keyPlace? (text : Octets) : Option KeyPlace := do
  let field := text.takeWhile Char.isDigit
  let rest := text.drop field.length
  let value ← Octets.natOf? field
  match rest with
  | '.' :: rest =>
      let char := rest.takeWhile Char.isDigit
      return { field := value, char := ← Octets.natOf? char, letters := rest.drop char.length }
  | letters => return { field := value, letters }

def sortKey? (text : Octets) : Option SortKey := do
  match Octets.splitAt ',' text with
  | [first] => return { first := ← keyPlace? first }
  | [first, last] => return { first := ← keyPlace? first, last := some (← keyPlace? last) }
  | _ => none

def SortKey.letters (key : SortKey) : Octets :=
  key.first.letters ++ (key.last.map KeyPlace.letters).getD []

/-- The fields of a line with the number of characters in front of each; without
a separator a field starts with the blanks in front of it. -/
def fieldStarts (separator : Option Char) (line : Octets) : List (Nat × Nat) :=
  match separator with
  | some c =>
      ((Octets.splitAt c line).foldl
        (fun (done, start) field => (done ++ [(start, start + field.length)], start + field.length + 1))
        (([], 0) : List (Nat × Nat) × Nat)).1
  | none =>
      let rec go : Nat → Nat → Octets → List (Nat × Nat)
        | 0, _, _ => []
        | _, _, [] => []
        | fuel + 1, start, line =>
            let blanks := (line.takeWhile Octets.isBlank).length
            let word := ((line.drop blanks).takeWhile (fun c => !Octets.isBlank c)).length
            (start, start + blanks + word) :: go fuel (start + blanks + word) (line.drop (blanks + word))
      go (line.length + 1) 0 line

def SortKey.part (key : SortKey) (separator : Option Char) (skipsBlanks : Bool) (line : Octets) :
    Octets :=
  let fields := fieldStarts separator line
  let place (spot : KeyPlace) (atEnd skips : Bool) : Nat :=
    match fields[spot.field - 1]? with
    | none => line.length
    | some (start, stop) =>
        if atEnd && spot.char == 0 then stop
        else
          let start :=
            if skips then start + ((line.drop start).takeWhile Octets.isBlank).length else start
          min line.length (start + (if atEnd then spot.char else spot.char - 1))
  let start := place key.first false (skipsBlanks || key.first.letters.contains 'b')
  let stop :=
    match key.last with
    | none => line.length
    | some last => place last true (skipsBlanks || last.letters.contains 'b')
  (line.take stop).drop start

/-- A decimal number that a text starts with, as a whole number of units of ten
to the power of minus `places`. -/
def leadingNumber (places : Nat) (text : Octets) : Int :=
  let text := text.dropWhile Octets.isBlank
  let (negative, digits) :=
    match text with
    | '-' :: digits => (true, digits)
    | digits => (false, digits)
  let whole := digits.takeWhile Char.isDigit
  let part :=
    match digits.drop whole.length with
    | '.' :: rest => rest.takeWhile Char.isDigit
    | _ => []
  let part := (part ++ List.replicate (places - part.length) '0').take places
  let value : Int := Octets.valueOf 10 (whole ++ part)
  if negative then -value else value

/-- The size that a number with a letter stands for, such as `2K`. -/
def humanNumber (text : Octets) : Int :=
  let text := text.dropWhile Octets.isBlank
  let digits := text.takeWhile (fun c => c.isDigit || c == '.' || c == '-')
  let power := match (text.drop digits.length).head? with
    | some c => (("KMGTPEZY".toList.idxOf? c.toUpper).map (· + 1)).getD 0
    | none => 0
  leadingNumber 3 digits * (Nat.pow 1024 power : Nat)

/-- Parts of a version, in which numbers are compared as such. -/
def versionParts : Nat → Octets → List (Octets × Nat)
  | 0, _ => []
  | _, [] => []
  | fuel + 1, text =>
      let word := text.takeWhile (fun c => !c.isDigit)
      let digits := (text.drop word.length).takeWhile Char.isDigit
      (word, Octets.valueOf 10 digits) ::
        versionParts fuel (text.drop (word.length + digits.length))

def versionOrder : List (Octets × Nat) → List (Octets × Nat) → Ordering
  | [], [] => .eq
  | [], _ :: _ => .lt
  | _ :: _, [] => .gt
  | (word, number) :: xs, (other, value) :: ys =>
      if word != other then if Octets.before word other then .lt else .gt
      else (compare number value).then (versionOrder xs ys)

/-- The number of a month by the first three letters of its name; zero if it is
none. -/
def monthNumber (text : Octets) : Nat :=
  let name := ((text.dropWhile Octets.isBlank).take 3).map Char.toUpper
  (((["JAN", "FEB", "MAR", "APR", "MAY", "JUN", "JUL", "AUG", "SEP", "OCT", "NOV", "DEC"].map
    String.toList).idxOf? name).map (· + 1)).getD 0

def textOrder (letters : Octets) (x y : Octets) : Ordering :=
  let byText (x y : Octets) : Ordering :=
    if x == y then .eq else if Octets.before x y then .lt else .gt
  if letters.contains 'n' || letters.contains 'g' then
    compare (leadingNumber 9 x) (leadingNumber 9 y)
  else if letters.contains 'h' then compare (humanNumber x) (humanNumber y)
  else if letters.contains 'M' then compare (monthNumber x) (monthNumber y)
  else if letters.contains 'V' then
    versionOrder (versionParts (x.length + 1) x) (versionParts (y.length + 1) y)
  else
    let seen (text : Octets) : Octets :=
      let text := if letters.contains 'd' then
        text.filter (fun c => c.isAlphanum || Octets.isBlank c) else text
      let text := if letters.contains 'i' then
        text.filter (fun c => 0x20 ≤ c.toNat && c.toNat < 0x7F) else text
      if letters.contains 'f' then text.map Char.toUpper else text
    byText (seen x) (seen y)

/-- The order of two lines by keys, without regard to anything else. -/
def keyOrder (separator : Option Char) (letters : Octets) (keys : List SortKey) (x y : Octets) :
    Ordering :=
  keys.foldl
    (fun done key =>
      let own := key.letters
      let used := if own.isEmpty then letters else own
      let part := key.part separator (own.isEmpty && letters.contains 'b')
      let order := textOrder used (part x) (part y)
      done.then (if used.contains 'r' then order.swap else order))
    .eq

def sort : Program := fun call =>
  call.withOptions {
      flags := "rnubfsdghiMVcCmz"
      valued := "tkoST"
      long := [("reverse", 'r'), ("numeric-sort", 'n'), ("unique", 'u'), ("ignore-case", 'f'),
        ("stable", 's'), ("key", 'k'), ("field-separator", 't'), ("output", 'o'),
        ("ignore-leading-blanks", 'b'), ("version-sort", 'V'), ("human-numeric-sort", 'h'),
        ("month-sort", 'M'), ("dictionary-order", 'd'), ("general-numeric-sort", 'g'),
        ("check", 'c'), ("merge", 'm')]
      status := 2 } fun options => do
    let letters := options.given.map Prod.fst
    let separator := (options.value? 't').bind fun text =>
      if text == ['\\', '0'] then some '\x00' else text.head?
    let given := options.values 'k'
    match given.find? (fun key => (sortKey? key).isNone) with
    | some key => call.fail ("invalid number at field start: invalid count at start of '" ++ key.shown ++ "'") 2
    | none =>
        let keys := given.filterMap sortKey?
        let keys := if keys.isEmpty then [{ : SortKey }] else keys
        let mut lines : List Octets := []
        for file in options.files do
          match ← readInput file with
          | .ok text => lines := lines ++ Octets.lines text
          | .error .isADirectory =>
              return ← call.fail ("read failed: " ++ file.shown ++ ": Is a directory") 2
          | .error cause => return ← call.fail ("cannot read: " ++ file.shown ++ ": " ++ cause.text) 2
        let byKeys := keyOrder separator letters keys
        let order (x y : Octets) : Ordering :=
          let last :=
            if options.has 'u' || options.has 's' then .eq
            else if x == y then .eq
            else if Octets.before x y != options.has 'r' then .lt else .gt
          (byKeys x y).then last
        if options.has 'c' || options.has 'C' then
          let pairs := (List.range lines.length).zip (lines.zip lines.tail)
          match pairs.find? (fun pair =>
            let order := order pair.2.1 pair.2.2
            order == .gt || (options.has 'u' && order == .eq)) with
          | none => return 0
          | some (index, _, line) =>
              if options.has 'c' then
                warn (call.name ++ Octets.ofString ": " ++ options.files.headD [] ++
                  Octets.ofString (":" ++ toString (index + 2) ++ ": disorder: ") ++ line ++ ['\n'])
              return 1
        else
          let ordered := lines.mergeSort (fun x y => order x y != .gt)
          let ordered :=
            if options.has 'u' then
              (runs (fun x y => byKeys x y == .eq) ordered).map (fun group => group.2.headD [])
            else ordered
          match options.value? 'o' with
          | none =>
              print (Octets.unlines ordered)
              return 0
          | some target =>
              match ← writeFile target (Octets.unlines ordered) with
              | .ok _ => return 0
              | .error cause => call.fail ("open failed: " ++ target.shown ++ ": " ++ cause.text) 2

/-! ## Comparing -/

/-- The lines of two sorted texts in order, each with the column it goes to:
first, second or both. -/
def commonLines : Nat → List Octets → List Octets → List (Nat × Octets)
  | 0, _, _ => []
  | _, [], [] => []
  | _, xs, [] => xs.map fun line => (1, line)
  | _, [], ys => ys.map fun line => (2, line)
  | fuel + 1, x :: xs, y :: ys =>
      if x == y then (3, x) :: commonLines fuel xs ys
      else if Octets.before x y then (1, x) :: commonLines fuel xs (y :: ys)
      else (2, y) :: commonLines fuel (x :: xs) ys

/-- Tells which lines two sorted files have in common. -/
def comm : Program := fun call =>
  call.withOptions { flags := "123z" } fun options => do
    match options.operands with
    | [] => call.missingOperand
    | [only] => call.misuse ("missing operand after '" ++ only.shown ++ "'")
    | _ :: _ :: extra :: _ => call.extraOperand extra
    | [first, second] =>
        call.withText first fun x => call.withText second fun y => do
          let isShown (column : Nat) : Bool :=
            !options.has (match column with | 1 => '1' | 2 => '2' | _ => '3')
          let (xs, ys) := (Octets.lines x, Octets.lines y)
          for (column, line) in commonLines (xs.length + ys.length + 1) xs ys do
            if isShown column then
              let front := ((List.range (column - 1)).filter (fun index => isShown (index + 1))).length
              printLine (List.replicate front '\t' ++ line)
          return 0

/-- Joins lines of two files that have a field in common. -/
def join : Program := fun call =>
  call.withOptions { valued := "t12a" } fun options => do
    match options.operands with
    | [first, second] =>
        call.withText first fun x => call.withText second fun y => do
          let separator := (options.value? 't').bind List.head?
          let fields (line : Octets) : List Octets :=
            match separator with
            | some c => Octets.splitAt c line
            | none => (Octets.splitAt ' ' (line.map fun c => if c == '\t' then ' ' else c)).filter (!·.isEmpty)
          let glue := [separator.getD ' ']
          let at? (letter : Char) (line : List Octets) : Octets :=
            line.getD ((((options.value? letter).bind Octets.natOf?).getD 1) - 1) []
          let rest (letter : Char) (line : List Octets) : List Octets :=
            line.eraseIdx ((((options.value? letter).bind Octets.natOf?).getD 1) - 1)
          let ys := (Octets.lines y).map fields
          for line in (Octets.lines x).map fields do
            let key := at? '1' line
            for other in ys.filter (fun other => at? '2' other == key) do
              printLine (Octets.join glue (key :: rest '1' line ++ rest '2' other))
          return 0
    | operands =>
        match operands with
        | [] => call.missingOperand
        | [only] => call.misuse ("missing operand after '" ++ only.shown ++ "'")
        | _ => call.extraOperand (operands.getD 2 [])

/-- How many characters two texts have in common at their start. -/
def commonLength : Octets → Octets → Nat
  | x :: xs, y :: ys => if x == y then commonLength xs ys + 1 else 0
  | _, _ => 0

/-- Tells where two files differ first. -/
def cmp : Program := fun call =>
  call.withOptions { flags := "sbl", long := [("silent", 's'), ("quiet", 's')], status := 2 }
      fun options => do
    match options.operands with
    | [] => call.misuse ("missing operand after '" ++ call.name.shown ++ "'") 2
    | first :: others =>
        let second := others.headD ['-']
        match ← readInput first with
        | .error cause => call.fail (first.shown ++ ": " ++ cause.text) 2
        | .ok x =>
            match ← readInput second with
            | .error cause => call.fail (second.shown ++ ": " ++ cause.text) 2
            | .ok y =>
                if x == y then return 0
                else
                  let length := commonLength x y
                  let passed := x.take length
                  let line := (passed.filter (· == '\n')).length + 1
                  if !options.has 's' then
                    if length < x.length && length < y.length then
                      printLine (first ++ ' ' :: second ++ Octets.ofString
                        (" differ: byte " ++ toString (length + 1) ++ ", line " ++ toString line))
                    else
                      let shorter := if length == x.length then first else second
                      if length == 0 then
                        warn (Octets.ofString "cmp: EOF on " ++ shorter ++ Octets.ofString " which is empty\n")
                      else
                        let place := if passed.getLast? == some '\n' then
                            "line " ++ toString (line - 1)
                          else "in line " ++ toString line
                        warn (Octets.ofString "cmp: EOF on " ++ shorter ++ Octets.ofString
                          (" after byte " ++ toString length ++ ", " ++ place ++ "\n"))
                  return 1

/-- A step from one list of lines to another. -/
inductive LineChange where
  | keep (line : Octets)
  | drop (line : Octets)
  | add (line : Octets)

/-- The row of a table of common subsequences that stands in front of the row of
one more line. -/
def commonRow (line : Octets) (others : List Octets) (below : List Nat) : List Nat :=
  ((others.zip (below.zip below.tail)).foldr
    (fun (other, here, diagonal) row =>
      (if line == other then diagonal + 1 else max here (row.headD 0)) :: row)
    [0])

/-- The rows of a table of common subsequences, the one of all lines first. -/
def commonRows (lines others : List Octets) : List (List Nat) :=
  lines.foldr (fun line rows => commonRow line others (rows.headD []) :: rows)
    [List.replicate (others.length + 1) 0]

/-- The steps from one list of lines to another along a longest common
subsequence. -/
def lineChanges : Nat → List Octets → List Octets → List (List Nat) → List LineChange
  | 0, _, _, _ => []
  | _, [], [], _ => []
  | fuel + 1, x :: xs, [], rows => .drop x :: lineChanges fuel xs [] rows.tail
  | fuel + 1, [], y :: ys, rows => .add y :: lineChanges fuel [] ys rows
  | fuel + 1, x :: xs, y :: ys, rows =>
      let here := rows.headD []
      let below := (rows.drop 1).headD []
      if x == y then .keep x :: lineChanges fuel xs ys (rows.tail.map List.tail)
      else if (here.drop 1).headD 0 ≤ below.headD 0 then .drop x :: lineChanges fuel xs (y :: ys) rows.tail
      else .add y :: lineChanges fuel (x :: xs) ys (rows.map List.tail)

/-- A place where two lists of lines differ: how many lines stand in front of it
in each, and the lines that differ. -/
structure Hunk where
  first : Nat
  second : Nat
  dropped : List Octets := []
  added : List Octets := []

/-- The places where steps change anything. -/
def hunksOf (changes : List LineChange) : List Hunk :=
  let close (done : List Hunk) (current : Option Hunk) : List Hunk :=
    match current with
    | some hunk => { hunk with dropped := hunk.dropped.reverse, added := hunk.added.reverse } :: done
    | none => done
  let (done, current, _, _) := changes.foldl
    (fun (done, current, x, y) change =>
      let here : Hunk := current.getD { first := x, second := y }
      match change with
      | .keep _ => (close done current, none, x + 1, y + 1)
      | .drop line => (done, some { here with dropped := line :: here.dropped }, x + 1, y)
      | .add line => (done, some { here with added := line :: here.added }, x, y + 1))
    (([], none, 0, 0) : List Hunk × Option Hunk × Nat × Nat)
  (close done current).reverse

/-- A range of lines as it is written; an empty one by the line in front of
it. -/
def rangeText (first count : Nat) : String :=
  if count == 0 then toString first
  else if count == 1 then toString (first + 1)
  else toString (first + 1) ++ "," ++ toString (first + count)

/-- A difference as it is written without context. -/
def Hunk.text (hunk : Hunk) : Octets :=
  let (dropped, added) := (hunk.dropped.length, hunk.added.length)
  let letter := if dropped == 0 then "a" else if added == 0 then "d" else "c"
  Octets.ofString (rangeText hunk.first dropped ++ letter ++ rangeText hunk.second added ++ "\n") ++
    hunk.dropped.flatMap (fun line => '<' :: ' ' :: line ++ ['\n']) ++
    (if dropped == 0 || added == 0 then [] else ['-', '-', '-', '\n']) ++
    hunk.added.flatMap (fun line => '>' :: ' ' :: line ++ ['\n'])

/-- Steps grouped with the lines around them; each group starts behind so many
lines of either side. -/
def contextGroups (context : Nat) (changes : List LineChange) :
    List (Nat × Nat × List LineChange) :=
  let isKept : LineChange → Bool
    | .keep _ => true
    | _ => false
  let indexed := (List.range changes.length).zip changes
  let near := indexed.filter fun (index, _) =>
    indexed.any fun (other, change) =>
      !isKept change && other ≤ index + context && index ≤ other + context
  let groups := near.foldr
    (fun (index, change) (groups : List (Nat × List LineChange)) =>
      match groups with
      | (start, items) :: others =>
          if start == index + 1 then (index, change :: items) :: others
          else (index, [change]) :: groups
      | [] => [(index, [change])])
    []
  groups.map fun (start, items) =>
    let passed := changes.take start
    let count (test : LineChange → Bool) : Nat := (passed.filter test).length
    (count (fun | .add _ => false | _ => true), count (fun | .drop _ => false | _ => true), items)

def headingRange (first count : Nat) : String :=
  if count == 1 then toString (first + 1)
  else toString (if count == 0 then first else first + 1) ++ "," ++ toString count

/-- Differences as they are written with context. -/
def unifiedText (context : Nat) (changes : List LineChange) : Octets :=
  (contextGroups context changes).flatMap fun (first, second, items) =>
    let count (test : LineChange → Bool) : Nat := (items.filter test).length
    Octets.ofString ("@@ -" ++ headingRange first (count fun | .add _ => false | _ => true) ++ " +" ++
      headingRange second (count fun | .drop _ => false | _ => true) ++ " @@\n") ++
      items.flatMap fun
        | .keep line => ' ' :: line ++ ['\n']
        | .drop line => '-' :: line ++ ['\n']
        | .add line => '+' :: line ++ ['\n']

/-- Tells in which lines two files differ. -/
def diff : Program := fun call =>
  call.withOptions {
      flags := "qsuwbBiNra"
      valued := "UL"
      long := [("brief", 'q'), ("unified", 'u'), ("label", 'L'), ("report-identical-files", 's'),
        ("ignore-all-space", 'w'), ("ignore-case", 'i')]
      status := 2 } fun options => do
    match options.operands with
    | [first, second] =>
        match ← readInput first with
        | .error cause => call.fail (first.shown ++ ": " ++ cause.text) 2
        | .ok x =>
            match ← readInput second with
            | .error cause => call.fail (second.shown ++ ": " ++ cause.text) 2
            | .ok y =>
                let (xs, ys) := (Octets.lines x, Octets.lines y)
                if x == y then
                  if options.has 's' then
                    printLine (Octets.ofString "Files " ++ first ++ Octets.ofString " and " ++ second ++
                      Octets.ofString " are identical")
                  return 0
                else if options.has 'q' then
                  printLine (Octets.ofString "Files " ++ first ++ Octets.ofString " and " ++ second ++
                    Octets.ofString " differ")
                  return 1
                else
                  let changes := lineChanges (xs.length + ys.length + 1) xs ys (commonRows xs ys)
                  if options.has 'u' || options.has 'U' then
                    let labels := options.values 'L'
                    printLine (Octets.ofString "--- " ++ labels.getD 0 first)
                    printLine (Octets.ofString "+++ " ++ labels.getD 1 second)
                    print (unifiedText (((options.value? 'U').bind Octets.natOf?).getD 3) changes)
                  else
                    for hunk in hunksOf changes do
                      print hunk.text
                  return 1
    | [] => call.misuse ("missing operand after '" ++ call.name.shown ++ "'") 2
    | [only] => call.misuse ("missing operand after '" ++ only.shown ++ "'") 2
    | operands => do
        let status ← call.extraOperand (operands.getD 2 [])
        return max status 2

end InterfaceAudit.Tool
