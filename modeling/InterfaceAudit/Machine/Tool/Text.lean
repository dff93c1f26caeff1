import InterfaceAudit.Machine.Tool

/-!
Contract: programs that copy text, whole or in part.

Owns: cat, head, tail, tac, rev, nl, tee, yes, wc, fold and paste.

Does not own: programs that look at what lines hold.
-/

namespace InterfaceAudit.Tool

/-! ## Whole files -/

/-- How a text is made visible. -/
structure VisibleForm where
  numbersAll : Bool
  numbersFilled : Bool
  squeezes : Bool
  marksEnds : Bool
  marksTabs : Bool
  marksControls : Bool

/-- A character below 128 with its controls made visible. -/
def visibleLow (code : Nat) : Octets :=
  if code < 32 then ['^', Char.ofNat (code + 64)]
  else if code == 127 then ['^', '?']
  else [Char.ofNat code]

def VisibleForm.char (form : VisibleForm) (c : Char) : Octets :=
  if c == '\t' then if form.marksTabs then ['^', 'I'] else [c]
  else if !form.marksControls then [c]
  else if 128 ≤ c.toNat then 'M' :: '-' :: visibleLow (c.toNat - 128)
  else visibleLow c.toNat

/-- The lines of a text, numbered from one on and made visible. -/
def VisibleForm.lines (form : VisibleForm) : Nat → Bool → List Octets → List Octets
  | _, _, [] => []
  | number, afterEmpty, line :: lines =>
      if form.squeezes && line.isEmpty && afterEmpty then form.lines number true lines
      else
        let isNumbered := if form.numbersFilled then !line.isEmpty else form.numbersAll
        let front := if isNumbered then Octets.padLeft 6 (Octets.ofNat number) ++ ['\t'] else []
        (front ++ line.flatMap form.char) ::
          form.lines (if isNumbered then number + 1 else number) line.isEmpty lines

def VisibleForm.text (form : VisibleForm) (text : Octets) : Octets :=
  let ending := if form.marksEnds then ['$', '\n'] else ['\n']
  let shown := form.lines 1 false (Octets.lines text)
  if text.getLast? == some '\n' then shown.flatMap (· ++ ending)
  else Octets.join ending shown

/-- Copies from a handle to the output as it comes. -/
def copyThrough (handle : Nat) : Nat → Tool (Except SystemError Unit)
  | 0 => return .ok ()
  | fuel + 1 => do
      let block ← Task.read handle Task.blockSize
      match block with
      | .error cause => return .error cause
      | .ok [] => return .ok ()
      | .ok text =>
          print text
          flush
          if (← get).failure.isSome then return .ok () else copyThrough handle fuel

/-- Whether a handle leads to the file that the output goes to. -/
def isOutput (handle : Nat) : Tool Bool := do
  let input : Except SystemError FileStatus ← Task.ask (.handleStatus handle)
  let output : Except SystemError FileStatus ← Task.ask (.handleStatus 1)
  match input, output with
  | .ok input, .ok output =>
      return input.kind == .regular && input.number == output.number && 0 < input.size
  | _, _ => return false

def Call.copyOut (call : Call) (file : Octets) : Tool Nat := do
  match ← openInput file with
  | .error cause => call.fail (file.shown ++ ": " ++ cause.text)
  | .ok handle =>
      let status ←
        if ← isOutput handle then call.fail (file.shown ++ ": input file is output file")
        else
          match ← copyThrough handle Task.endless with
          | .ok _ => pure 0
          | .error cause => call.fail (file.shown ++ ": " ++ cause.text)
      if file != ['-'] then discard (liftM (Task.close handle))
      return status

/-- Copies files to the output, made visible if that is asked for. -/
def cat : Program := fun call =>
  call.withOptions {
      flags := "AbeEnstTuv"
      long := [("show-all", 'A'), ("number-nonblank", 'b'), ("show-ends", 'E'), ("number", 'n'),
        ("squeeze-blank", 's'), ("show-tabs", 'T'), ("show-nonprinting", 'v')] } fun options => do
    let given (letters : List Char) : Bool := letters.any options.has
    let form : VisibleForm := {
      numbersAll := given ['n']
      numbersFilled := given ['b']
      squeezes := given ['s']
      marksEnds := given ['A', 'e', 'E']
      marksTabs := given ['A', 't', 'T']
      marksControls := given ['A', 'e', 't', 'v'] }
    if given ['A', 'b', 'e', 'E', 'n', 's', 't', 'T', 'v'] then
      let (text, isWhole) ← call.readJoined options.files
      print (form.text text)
      return if isWhole then 0 else 1
    else forEach call.copyOut options.files

/-- Copies files with the order of their lines reversed. -/
def tac : Program := fun call =>
  call.withOptions {} fun options =>
    forEach (fun file => do
      match ← readInput file with
      | .error cause =>
          call.remark (if cause == .isADirectory then file.shown ++ ": read error: " ++ cause.text
            else "failed to open '" ++ file.shown ++ "' for reading: " ++ cause.text)
          return 1
      | .ok text =>
          let lines := Octets.lines text
          let isWhole := text.getLast? == some '\n' || text.isEmpty
          match lines.reverse with
          | [] => return 0
          | last :: others =>
              print (if isWhole then Octets.unlines (last :: others) else last ++ Octets.unlines others)
              return 0) options.files

def rev : Program := fun call =>
  call.withOptions {} fun options =>
    forEach (fun file => do
      match ← readInput file with
      | .error cause =>
          call.remark ("cannot open " ++ file.shown ++ ": " ++ cause.text)
          return 1
      | .ok text =>
          let lines := (Octets.lines text).map List.reverse
          print (if text.getLast? == some '\n' then Octets.unlines lines else Octets.join ['\n'] lines)
          return 0) options.files

/-! ## The first and the last part -/

/-- The letters that multiply a count, with their factors. -/
def multipliers : List (String × Nat) := [
  ("", 1), ("b", 512), ("kB", 1000), ("k", 1024), ("K", 1024), ("KiB", 1024), ("MB", 1000000),
  ("M", 1048576), ("m", 1048576), ("MiB", 1048576), ("GB", 1000000000), ("G", 1073741824)]

def countOf? (text : Octets) : Option Nat := do
  let digits := text.takeWhile Char.isDigit
  let factor ← multipliers.lookup (String.ofList (text.drop digits.length))
  return (← Octets.natOf? digits) * factor

/-- An option of the form of a hyphen and a number, as a count. -/
def modernCount (arguments : List Octets) : List Octets :=
  match arguments with
  | ('-' :: c :: rest) :: others =>
      let digits := (c :: rest).takeWhile Char.isDigit
      match digits, (c :: rest).drop digits.length with
      | [], _ => arguments
      | digits, [] => ['-', 'n'] :: digits :: others
      | digits, ['c'] => ['-', 'c'] :: digits :: others
      | digits, letters =>
          if letters.all (['q', 'v', 'f', 'l'].contains ·) then
            ['-', 'n'] :: digits :: ('-' :: letters) :: others
          else arguments
  | arguments => arguments

/-- The number of characters up to a number of line feeds, if there are so
many. -/
def lengthOfLines : Nat → Nat → Octets → Option Nat
  | 0, passed, _ => some passed
  | _, _, [] => none
  | count + 1, passed, c :: text =>
      if c == '\n' then lengthOfLines count (passed + 1) text
      else lengthOfLines (count + 1) (passed + 1) text

/-- Copies a number of lines from a handle. What was read beyond them is given
back. -/
def copyLines (handle : Nat) : Nat → Nat → Tool (Except SystemError Unit)
  | 0, _ => return .ok ()
  | _, 0 => return .ok ()
  | fuel + 1, count => do
      let block ← Task.read handle 8192
      match block with
      | .error cause => return .error cause
      | .ok [] => return .ok ()
      | .ok text =>
          match lengthOfLines count 0 text with
          | some length =>
              print (text.take length)
              discard (liftM (Task.ask (.seek handle (.back (text.length - length)))))
              return .ok ()
          | none =>
              print text
              copyLines handle fuel (count - (text.filter (· == '\n')).length)

def copyCount (handle : Nat) : Nat → Nat → Tool (Except SystemError Unit)
  | 0, _ => return .ok ()
  | _, 0 => return .ok ()
  | fuel + 1, count => do
      let block ← Task.read handle (min count 8192)
      match block with
      | .error cause => return .error cause
      | .ok [] => return .ok ()
      | .ok text =>
          print text
          copyCount handle fuel (count - text.length)

/-- Copies all that can be read but a number of lines or characters at the
end. -/
def copyAllBut (handle : Nat) (bytes : Bool) (count : Nat) : Tool (Except SystemError Unit) := do
  let text ← Task.readAll handle
  match text with
  | .error cause => return .error cause
  | .ok text =>
      if bytes then print (text.take (text.length - count))
      else
        let lines := Octets.lines text
        let kept := Octets.unlines (lines.take (lines.length - count))
        print (if count == 0 then text else kept)
      return .ok ()

/-- Copies the last lines or characters that can be read from a handle. -/
def copyLast (handle : Nat) (bytes : Bool) (amount : Octets) : Tool (Except SystemError Unit) := do
  let text ← Task.readAll handle
  match text with
  | .error cause => return .error cause
  | .ok text =>
      match amount with
      | '+' :: count =>
          let count := (countOf? count).getD 0 - 1
          print (if bytes then text.drop count
            else (lengthOfLines count 0 text).elim [] text.drop)
      | amount =>
          let count := (countOf? (amount.dropWhile (· == '-'))).getD 0
          if bytes then print (text.drop (text.length - count))
          else
            let lines := Octets.lines text
            print ((lengthOfLines (lines.length - count) 0 text).elim [] text.drop)
      return .ok ()

/-- Copies a part of files, with headings if there are several. -/
def cutFiles
    (copy : Nat → Bool → Octets → Tool (Except SystemError Unit))
    (isFollowed : Options → Bool) :
    Program :=
  fun call =>
  { call with arguments := modernCount call.arguments }.withOptions {
      flags := "qvfFz"
      valued := "ncs"
      long := [("lines", 'n'), ("bytes", 'c'), ("quiet", 'q'), ("silent", 'q'), ("verbose", 'v'),
        ("follow", 'f')] } fun options => do
    let isBytes := options.last? ['n', 'c'] == some 'c'
    let amount := (options.value? (if isBytes then 'c' else 'n')).getD ['1', '0']
    if (countOf? (amount.dropWhile (fun c => c == '-' || c == '+'))).isNone then
      call.fail ("invalid number of " ++ (if isBytes then "bytes" else "lines") ++ ": '" ++
        amount.shown ++ "'")
    else
      let headed := options.last? ['q', 'v']
      let isHeaded := headed == some 'v' || (headed.isNone && 1 < options.files.length)
      let mut status := 0
      let mut isFirst := true
      for file in options.files do
        match ← openInput file with
        | .error cause =>
            call.complain ("cannot open '" ++ file.shown ++ "' for reading: " ++ cause.text)
            status := 1
        | .ok handle =>
            if isHeaded then
              let shown := if file == ['-'] then Octets.ofString "standard input" else file
              print ((if isFirst then [] else ['\n']) ++ Octets.ofString "==> " ++ shown ++
                Octets.ofString " <==\n")
              isFirst := false
            match ← copy handle isBytes amount with
            | .ok _ => pure ()
            | .error cause =>
                call.complain ("error reading '" ++ file.shown ++ "': " ++ cause.text)
                status := 1
            if file != ['-'] then discard (liftM (Task.close handle))
      if isFollowed options then
        flush
        liftM (Task.ask (.sleep Task.endless))
      return status

/-- Copies the first part of files. -/
def head : Program :=
  cutFiles
    (fun handle bytes amount =>
      match amount with
      | '-' :: count => copyAllBut handle bytes ((countOf? count).getD 0)
      | amount =>
          let count := (countOf? (amount.dropWhile (· == '+'))).getD 0
          if bytes then copyCount handle Task.endless count else copyLines handle Task.endless count)
    (fun _ => false)

def tail : Program :=
  cutFiles copyLast (fun options => options.has 'f' || options.has 'F')

/-! ## Counting -/

structure TextCount where
  lines : Nat := 0
  words : Nat := 0
  bytes : Nat := 0
  /-- The width of the widest line. -/
  width : Nat := 0
  /-- The width of the line that goes on. -/
  column : Nat := 0
  insideWord : Bool := false

def TextCount.add (count : TextCount) (c : Char) : TextCount :=
  let count := { count with bytes := count.bytes + 1 }
  let ended := { count with
    words := if count.insideWord then count.words + 1 else count.words
    insideWord := false }
  let closed := { ended with width := max count.width count.column, column := 0 }
  if c == '\n' then { closed with lines := count.lines + 1 }
  else if c == '\r' || c == '\x0c' then closed
  else if c == '\t' then { ended with column := count.column + 8 - count.column % 8 }
  else if c == ' ' then { ended with column := count.column + 1 }
  else if c == '\x0b' then ended
  else if 0x20 < c.toNat && c.toNat < 0x7F then
    { count with column := count.column + 1, insideWord := true }
  else count

def TextCount.ofText (text : Octets) : TextCount :=
  let count := text.foldl TextCount.add {}
  { count with
    words := if count.insideWord then count.words + 1 else count.words
    width := max count.width count.column }

def TextCount.sum (x y : TextCount) : TextCount where
  lines := x.lines + y.lines
  words := x.words + y.words
  bytes := x.bytes + y.bytes
  width := max x.width y.width

/-- The width of the columns of counts: that of the size of all files, but seven
if one of them is no regular file. -/
def countWidth (statuses : List (Except SystemError FileStatus)) : Nat :=
  let known := statuses.filterMap Except.toOption
  let regular := known.filter (fun status => status.kind == .regular)
  let digits := (Octets.ofNat ((regular.map FileStatus.size).foldl (· + ·) 0)).length
  if regular.length < known.length then max 7 digits else digits

def wc : Program := fun call =>
  call.withOptions {
      flags := "lwcmL"
      long := [("lines", 'l'), ("words", 'w'), ("bytes", 'c'), ("chars", 'm'),
        ("max-line-length", 'L')] } fun options => do
    let all := options.given.isEmpty
    let columns (count : TextCount) : List Nat :=
      (if all || options.has 'l' then [count.lines] else []) ++
        (if all || options.has 'w' then [count.words] else []) ++
        (if options.has 'm' then [count.bytes] else []) ++
        (if all || options.has 'c' then [count.bytes] else []) ++
        (if options.has 'L' then [count.width] else [])
    let files := options.files
    let mut statuses : List (Except SystemError FileStatus) := []
    for file in files do
      let status : Except SystemError FileStatus ←
        if file == ['-'] then liftM (Task.ask (.handleStatus 0)) else liftM (Task.status file)
      statuses := statuses ++ [status]
    let width :=
      if (columns {}).length == 1 && files.length == 1 then 1 else countWidth statuses
    let row (count : TextCount) (name : List Octets) : Octets :=
      Octets.join [' '] ((columns count).map (fun number => Octets.padLeft width (Octets.ofNat number)) ++
        name) ++ ['\n']
    let mut total : TextCount := {}
    let mut result := 0
    for file in files do
      let name := if options.operands.isEmpty then [] else [file]
      match ← readInput file with
      | .error cause =>
          call.complain (file.shown ++ ": " ++ cause.text)
          if cause == .isADirectory then print (row {} name)
          result := 1
      | .ok text =>
          let count := TextCount.ofText text
          total := total.sum count
          print (row count name)
    if 1 < files.length then print (row total [Octets.ofString "total"])
    return result

/-! ## Other ways of copying -/

/-- Copies the input to the output and to handles, as it comes. -/
def copyToAll (handles : List Nat) : Nat → Tool Unit
  | 0 => return
  | fuel + 1 => do
      let block ← Task.read 0 Task.blockSize
      match block with
      | .error _ | .ok [] => return
      | .ok text =>
          print text
          flush
          for handle in handles do
            discard (liftM (Task.write handle text))
          copyToAll handles fuel

/-- Copies the input to the output and to files. -/
def tee : Program := fun call =>
  call.withOptions { flags := "aip", long := [("append", 'a'), ("ignore-interrupts", 'i')] }
      fun options => do
    let appends := options.has 'a'
    let mut handles : List Nat := []
    let mut status := 0
    for file in options.operands do
      match ← Task.openFile file { writes := true, creates := true, empties := !appends, appends } with
      | .ok handle => handles := handles ++ [handle]
      | .error cause =>
          call.complain (file.shown ++ ": " ++ cause.text)
          status := 1
    copyToAll handles Task.endless
    return status

def repeatLine (block : Octets) : Nat → Tool Unit
  | 0 => return
  | fuel + 1 => do
      print block
      if (← get).failure.isSome then return else repeatLine block fuel

def yes : Program := fun call => do
  let arguments := if call.arguments.head? == some ['-', '-'] then call.arguments.drop 1 else call.arguments
  let line := (if arguments.isEmpty then ['y'] else Octets.join [' '] arguments) ++ ['\n']
  let count := 8192 / line.length + 1
  repeatLine (List.replicate count line).flatten Task.endless
  return 0

/-- Numbers lines: all of them, those that hold anything, or none. -/
def nl : Program := fun call =>
  call.withOptions {
      flags := "p"
      valued := "bvwsnifhdl"
      long := [("body-numbering", 'b'), ("starting-line-number", 'v'), ("number-width", 'w'),
        ("number-separator", 's'), ("number-format", 'n'), ("line-increment", 'i')] } fun options => do
    let style := (options.value? 'b').getD ['t']
    let number (letter : Char) (standard : Nat) : Nat :=
      ((options.value? letter).bind Octets.natOf?).getD standard
    let width := number 'w' 6
    let separator := (options.value? 's').getD ['\t']
    let form := (options.value? 'n').getD ['r', 'n']
    let (text, isWhole) ← call.readJoined options.files
    let mut next := number 'v' 1
    for line in Octets.lines text do
      let isNumbered := style == ['a'] || (style == ['t'] && !line.isEmpty)
      if isNumbered then
        let digits := Octets.ofNat next
        let shown :=
          if form == ['l', 'n'] then Octets.padRight width digits
          else if form == ['r', 'z'] then Octets.padZeros width digits
          else Octets.padLeft width digits
        printLine (shown ++ separator ++ line)
        next := next + number 'i' 1
      else printLine (List.replicate (width + separator.length) ' ' ++ line)
    return if isWhole then 0 else 1

/-- A line cut into pieces of a width; with `atBlanks` a piece ends behind its
last blank if it has one. -/
def foldLine (width : Nat) (atBlanks : Bool) : Nat → Octets → List Octets
  | 0, line => [line]
  | fuel + 1, line =>
      if line.length ≤ width || width == 0 then [line]
      else
        let piece := line.take width
        let kept := (piece.reverse.dropWhile (fun c => !Octets.isBlank c)).length
        let length := if atBlanks && 0 < kept then kept else width
        line.take length :: foldLine width atBlanks fuel (line.drop length)

def fold : Program := fun call =>
  call.withOptions {
      flags := "bs"
      valued := "w"
      long := [("width", 'w'), ("spaces", 's'), ("bytes", 'b')] } fun options => do
    let width := ((options.value? 'w').bind Octets.natOf?).getD 80
    let (text, isWhole) ← call.readJoined options.files
    let lines := (Octets.lines text).flatMap fun line =>
      foldLine width (options.has 's') (line.length + 1) line
    print (if text.getLast? == some '\n' then Octets.unlines lines else Octets.join ['\n'] lines)
    return if isWhole then 0 else 1

/-- Lines with tabs replaced by blanks up to the next stop. -/
def expandLine (stop : Nat) (line : Octets) : Octets :=
  (line.foldl
    (fun (passed, column) c =>
      if c == '\t' then
        let fill := stop - column % stop
        (List.replicate fill ' ' ++ passed, column + fill)
      else (c :: passed, column + 1))
    (([], 0) : Octets × Nat)).1.reverse

def expand : Program := fun call =>
  call.withOptions { flags := "i", valued := "t", long := [("tabs", 't'), ("initial", 'i')] }
      fun options => do
    let stop := max 1 (((options.value? 't').bind Octets.natOf?).getD 8)
    let (text, isWhole) ← call.readJoined options.files
    let lines := (Octets.splitAt '\n' text).map (expandLine stop)
    print (Octets.join ['\n'] lines)
    return if isWhole then 0 else 1

def sideBySide (delimiters : Octets) (texts : List (List Octets)) : List Octets :=
  let count := (texts.map List.length).foldl max 0
  (List.range count).map fun row =>
    ((List.range texts.length).zip texts).flatMap fun (index, lines) =>
      (if index == 0 then [] else [delimiters.getD ((index - 1) % delimiters.length) '\t']) ++
        lines.getD row []

/-- Every so many-th item, from one on. -/
def everyNth {α : Type} (period first : Nat) (items : List α) : List α :=
  (((List.range items.length).zip items).filter
    (fun entry => entry.1 % max 1 period == first)).map Prod.snd

/-- Puts the lines of files side by side, or the lines of each file in one. -/
def paste : Program := fun call =>
  call.withOptions {
      flags := "s"
      valued := "d"
      long := [("delimiters", 'd'), ("serial", 's')] } fun options => do
    let rec delimiters : Octets → Octets
      | '\\' :: 'n' :: rest => '\n' :: delimiters rest
      | '\\' :: 't' :: rest => '\t' :: delimiters rest
      | '\\' :: c :: rest => c :: delimiters rest
      | c :: rest => c :: delimiters rest
      | [] => []
    let marks := delimiters ((options.value? 'd').getD ['\t'])
    let marks := if marks.isEmpty then ['\t'] else marks
    let files := options.files
    let fromInput := files.filter (fun file => file == ['-'])
    let input : Except SystemError Octets ←
      if fromInput.isEmpty then pure (.ok []) else liftM (Task.readAll 0)
    let input := Octets.lines (input.toOption.getD [])
    let mut texts : List (List Octets) := []
    let mut used := 0
    for file in files do
      if file == ['-'] then
        texts := texts ++ [everyNth fromInput.length used input]
        used := used + 1
      else
        match ← readInput file with
        | .ok text => texts := texts ++ [Octets.lines text]
        | .error cause => return ← call.fail (file.shown ++ ": " ++ cause.text)
    if options.has 's' then
      for lines in texts do
        printLine ((sideBySide marks (lines.map (fun line => [line]))).headD [])
    else print (Octets.unlines (sideBySide marks texts))
    return 0

end InterfaceAudit.Tool
