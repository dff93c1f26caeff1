import InterfaceAudit.Machine.Tool.Characters
import InterfaceAudit.Machine.Tool.Paths
import InterfaceAudit.Machine.Tool.Text

/-!
Contract: programs that look at files and make them.

Owns: ls, stat, touch, mkdir, rmdir, mkfifo, mktemp, truncate, chmod, readlink,
realpath, basename, dirname and pwd.

Does not own: programs that copy, move and remove.
-/

namespace InterfaceAudit.Tool

/-! ## Listing -/

/-- What a listing knows about an entry. -/
structure Listed where
  name : Octets
  path : Octets
  status : FileStatus
  /-- Where a link leads. -/
  target : Option Octets := none

def listed (follow : Bool) (name path : Octets) : Task (Except SystemError Listed) := do
  let status : Except SystemError FileStatus ←
    if follow then Task.status path else Task.linkStatus path
  match status with
  | .error cause => return .error cause
  | .ok status =>
      let target : Except SystemError Octets ←
        if status.kind == .link then Task.ask (.readLink path) else pure (.error .notFound)
      return .ok { name, path, status, target := target.toOption }

/-- The mark behind a name that tells its kind. -/
def Listed.mark (entry : Listed) (options : Options) : Octets :=
  let all := options.has 'F'
  if entry.status.kind == .directory && (all || options.has 'p') then ['/']
  else if !all then []
  else
    match entry.status.kind with
    | .link => ['@']
    | .fifo => ['|']
    | .regular => if entry.status.mode &&& 0o111 != 0 then ['*'] else []
    | _ => []

/-- A size with a letter for its unit. -/
def humanSize (size : Nat) : Octets :=
  if size < 1024 then Octets.ofNat size
  else
    let unit := if size < 1048576 then 1024 else if size < 1073741824 then 1048576 else 1073741824
    let letter := if unit == 1024 then 'K' else if unit == 1048576 then 'M' else 'G'
    let tenths := (size * 10 + unit - 1) / unit
    if tenths < 100 then Octets.ofNat (tenths / 10) ++ '.' :: Octets.ofNat (tenths % 10) ++ [letter]
    else Octets.ofNat ((size + unit - 1) / unit) ++ [letter]

/-- The blocks of 1024 that a file takes up. -/
def blockCount (status : FileStatus) : Nat :=
  match status.kind with
  | .regular => (status.size + 4095) / 4096 * 4
  | .directory => 4
  | _ => 0

/-- Lines of a long listing, in columns. -/
def longLines (options : Options) (entries : List Listed) : List Octets :=
  let rows := entries.map fun entry =>
    let size := if options.has 'h' then humanSize entry.status.size else Octets.ofNat entry.status.size
    (entry, Octets.ofNat entry.status.links, size)
  let widest (column : Listed × Octets × Octets → Octets) : Nat :=
    (rows.map (fun row => (column row).length)).foldl max 0
  let links := widest (fun row => row.2.1)
  let sizes := widest (fun row => row.2.2)
  let owner : Octets := Octets.ofString (if options.has 'n' then "0 " else "root ")
  rows.map fun (entry, count, size) =>
    modeText entry.status.kind entry.status.mode ++ ' ' :: Octets.padLeft links count ++ ' ' ::
      (if options.has 'g' then [] else owner) ++
      (if options.has 'o' || options.has 'G' then [] else owner) ++
      Octets.padLeft sizes size ++ Octets.ofString " Jan  1 00:00 " ++ entry.name ++
      (match entry.target with
        | some target => Octets.ofString " -> " ++ target
        | none => []) ++
      (if entry.target.isSome then [] else entry.mark options)

def inListedOrder (options : Options) (entries : List Listed) : List Listed :=
  let entries :=
    if options.has 'S' then entries.mergeSort (fun x y => y.status.size ≤ x.status.size)
    else if options.has 't' then entries.mergeSort (fun x y => y.status.changed ≤ x.status.changed)
    else entries
  if options.has 'r' && !options.has 'U' then entries.reverse else entries

def listingLines (options : Options) (entries : List Listed) : List Octets :=
  let front (entry : Listed) : Octets :=
    (if options.has 'i' then Octets.ofNat (1000000 + entry.status.number) ++ [' '] else []) ++
      (if options.has 's' then Octets.ofNat (blockCount entry.status) ++ [' '] else [])
  let lines :=
    if ['l', 'g', 'o', 'n'].any options.has then longLines options entries
    else entries.map fun entry =>
      (if options.has 'Q' then '"' :: entry.name ++ ['"'] else entry.name) ++ entry.mark options
  let lines := (entries.zip lines).map fun (entry, line) => front entry ++ line
  if options.has 'm' then [Octets.join [',', ' '] lines] else lines

def directoryEntries (options : Options) (path : Octets) : Task (Except SystemError (List Listed)) := do
  match ← Task.names path with
  | .error cause => return .error cause
  | .ok names => do
      let all := options.has 'a'
      let names :=
        (if all then [['.'], ['.', '.']] else []) ++
          names.filter (fun name => all || options.has 'A' || name.head? != some '.')
      let mut entries : List Listed := []
      for name in names do
        match ← listed (options.has 'L') name (below path name) with
        | .ok entry => entries := entries ++ [entry]
        | .error _ => pure ()
      return .ok (inListedOrder options entries)

/-- Lists a directory, and those below it if that is asked for. -/
def listDirectory (call : Call) (options : Options) (headed : Bool) :
    Nat → Bool → Octets → Tool Nat
  | 0, _, _ => return 0
  | fuel + 1, isFirst, path => do
      match ← directoryEntries options path with
      | .error cause =>
          call.complain ("cannot open directory " ++ named path ++ ": " ++ cause.text)
          return 2
      | .ok entries =>
          if !isFirst then print ['\n']
          if headed then print (path ++ [':', '\n'])
          if ['l', 'g', 'o', 'n', 's'].any options.has then
            printLine (Octets.ofString "total " ++
              Octets.ofNat (entries.foldl (fun total entry => total + blockCount entry.status) 0))
          print (Octets.unlines (listingLines options entries))
          if options.has 'R' then
            let folders := entries.filter fun entry =>
              entry.status.kind == .directory && entry.name != ['.'] && entry.name != ['.', '.']
            forEach (fun entry => listDirectory call options headed fuel false entry.path) folders
          else return 0

def ls : Program := fun call =>
  call.withOptions {
      flags := "aAbBcCdfFgGhHiklLmnNopqQrRsStuUvxXZ1"
      valued := "wTI"
      optional := "K"
      long := [("all", 'a'), ("almost-all", 'A'), ("directory", 'd'), ("classify", 'F'),
        ("human-readable", 'h'), ("inode", 'i'), ("no-group", 'G'), ("numeric-uid-gid", 'n'),
        ("reverse", 'r'), ("recursive", 'R'), ("size", 's'), ("color", 'K'), ("dereference", 'L'),
        ("quote-name", 'Q')]
      status := 2 } fun options => do
    let operands := if options.operands.isEmpty then [['.']] else options.operands
    let isLong := ['l', 'g', 'o', 'n', 'd', 'F'].any options.has
    let mut status := 0
    let mut files : List Listed := []
    let mut folders : List Listed := []
    for operand in Octets.sorted operands do
      let followed ← listed (options.has 'L' || !isLong) operand operand
      let found ← match followed with
        | .ok entry => pure (.ok entry)
        | .error _ => liftM (listed false operand operand)
      match found with
      | .error cause =>
          call.complain ("cannot access " ++ named operand ++ ": " ++ cause.text)
          status := 2
      | .ok entry =>
          if entry.status.kind == .directory && !options.has 'd' then folders := folders ++ [entry]
          else files := files ++ [entry]
    print (Octets.unlines (listingLines options (inListedOrder options files)))
    let headed := 1 < operands.length || options.has 'R'
    let mut isFirst := files.isEmpty
    for folder in inListedOrder options folders do
      status := max status (← listDirectory call options headed 64 isFirst folder.path)
      isFirst := false
    return status

/-! ## What is known about files -/

def kindName (status : FileStatus) : String :=
  match status.kind with
  | .regular => if status.size == 0 then "regular empty file" else "regular file"
  | .directory => "directory"
  | .link => "symbolic link"
  | .characters => "character special file"
  | .fifo => "fifo"

/-- What a letter of a format for files stands for. -/
def statusItem (file : Octets) (entry : Listed) (letter : Char) : Octets :=
  let status := entry.status
  match letter with
  | 'n' => file
  | 'N' =>
      Octets.ofString (named file) ++
        (match entry.target with
          | some target => Octets.ofString (" -> " ++ named target)
          | none => [])
  | 's' => Octets.ofNat status.size
  | 'F' => Octets.ofString (kindName status)
  | 'a' => Nat.toDigits 8 status.mode
  | 'A' => modeText status.kind status.mode
  | 'f' =>
      let kind := match status.kind with
        | .regular => 0o100000 | .directory => 0o040000 | .link => 0o120000
        | .characters => 0o020000 | .fifo => 0o010000
      Nat.toDigits 16 (kind + status.mode)
  | 'h' => Octets.ofNat status.links
  | 'i' => Octets.ofNat (1000000 + status.number)
  | 'u' | 'g' => ['0']
  | 'U' | 'G' => Octets.ofString "root"
  | 'b' => Octets.ofNat (2 * blockCount status)
  | 'B' => Octets.ofNat 512
  | 'o' => Octets.ofNat 4096
  | 'X' | 'Y' | 'Z' => Octets.ofNat (status.changed / 1000000)
  | 'm' => ['/']
  | '%' => ['%']
  | _ => ['?']

def statusText (escapes : Bool) (file : Octets) (entry : Listed) : Nat → Octets → Octets
  | 0, _ => []
  | _, [] => []
  | fuel + 1, c :: text =>
      match c, text with
      | '%', text =>
          let flags := text.takeWhile (fun c => c.isDigit || c == '-' || c == '#')
          match text.drop flags.length with
          | [] => ['%']
          | letter :: text =>
              let item := statusItem file entry letter
              let width := Octets.valueOf 10 (flags.filter Char.isDigit)
              let item :=
                if flags.contains '-' then Octets.padRight width item
                else if flags.head? == some '0' then Octets.padZeros width item
                else Octets.padLeft width item
              item ++ statusText escapes file entry fuel text
      | '\\', next :: text =>
          if escapes then
            (match letterEscape? next with | some escaped => [escaped] | none => [next]) ++
              statusText escapes file entry fuel text
          else '\\' :: statusText escapes file entry fuel (next :: text)
      | c, text => c :: statusText escapes file entry fuel text

/-- Tells what is known about files. -/
def stat : Program := fun call =>
  call.withOptions {
      flags := "Lft"
      valued := "cP"
      long := [("format", 'c'), ("printf", 'P'), ("dereference", 'L'), ("terse", 't')] } fun options => do
    if options.operands.isEmpty then call.missingOperand
    else
      forEach (fun file => do
        match ← listed (options.has 'L') file file with
        | .error cause => call.fail ("cannot statx " ++ named file ++ ": " ++ cause.text)
        | .ok entry =>
            match options.value? 'c', options.value? 'P' with
            | some format, _ => printLine (statusText false file entry (format.length + 1) format)
            | none, some format => print (statusText true file entry (format.length + 1) format)
            | none, none =>
                let format := Octets.ofString ("  File: %N\n  Size: %-10s\tBlocks: %-10b IO Block: %-6o %F\n" ++
                  "Device: 0,1\tInode: %-10i  Links: %h\nAccess: (%04a/%A)  Uid: (    0/    root)" ++
                  "   Gid: (    0/    root)")
                printLine (statusText false file entry (format.length + 1) format)
            return 0) options.operands

/-! ## Making files -/

def touch : Program := fun call =>
  call.withOptions {
      flags := "camhf"
      valued := "drt"
      long := [("no-create", 'c'), ("date", 'd'), ("reference", 'r')] } fun options => do
    if options.operands.isEmpty then call.missingOperand "missing file operand"
    else
      let now : Nat ← Task.ask .clock
      forEach (fun file => do
        if ← Task.exists? file then
          discard (liftM (Task.ask (.setTime file now) : Task (Except SystemError Unit)))
          return 0
        else if options.has 'c' then return 0
        else
          match ← Task.openFile file { writes := true, creates := true } with
          | .ok handle =>
              discard (liftM (Task.close handle))
              return 0
          | .error cause => call.fail ("cannot touch " ++ named file ++ ": " ++ cause.text))
        options.operands

def makeOne (call : Call) (verbose : Bool) (path : Octets) (mode : Nat) : Tool (Except SystemError Unit) := do
  let result : Except SystemError Unit ← Task.ask (.makeDirectory path mode)
  match result with
  | .ok _ =>
      if verbose then printLine (call.name ++ Octets.ofString (": created directory " ++ named path))
      return .ok ()
  | .error cause => return .error cause

/-- Makes a directory with those that are missing above it. -/
def makeAll (call : Call) (verbose : Bool) : Nat → Octets → Tool (Except (Octets × SystemError) Unit)
  | 0, path => return .error (path, .nameTooLong)
  | fuel + 1, path => do
      if ← Task.isDirectory path then return .ok ()
      else
        let above := pathAbove path
        let result ←
          if above == path || above == ['.'] then pure (.ok ()) else makeAll call verbose fuel above
        match result with
        | .error cause => return .error cause
        | .ok _ =>
            match ← makeOne call verbose path 0o777 with
            | .ok _ => return .ok ()
            | .error cause =>
                if ← Task.isDirectory path then return .ok () else return .error (path, cause)

def mkdir : Program := fun call =>
  call.withOptions {
      flags := "pv"
      valued := "mZ"
      long := [("parents", 'p'), ("verbose", 'v'), ("mode", 'm')] } fun options => do
    if options.operands.isEmpty then call.missingOperand
    else
      match (options.value? 'm').map modeChange? with
      | some none => call.fail ("invalid mode " ++ named ((options.value? 'm').getD []))
      | mode => do
          let verbose := options.has 'v'
          forEach (fun path => do
            let failed (path : Octets) (cause : SystemError) : Tool Nat :=
              call.fail ("cannot create directory " ++ named path ++ ": " ++ cause.text)
            let made : Except (Octets × SystemError) Unit ←
              if options.has 'p' then makeAll call verbose (path.length + 2) path
              else
                return ← (do
                  match ← makeOne call verbose path 0o777 with
                  | .ok _ =>
                      match mode with
                      | some (some change) =>
                          discard (liftM (Task.ask (.changeMode path (change true 0 0o777)) :
                            Task (Except SystemError Unit)))
                      | _ => pure ()
                      return 0
                  | .error cause => failed path cause)
            match made with
            | .ok _ => return 0
            | .error (path, cause) => failed path cause) options.operands

/-- Removes a directory, and then those above it along its path if `above` is
set. -/
def removeUpward (call : Call) (verbose above lenient : Bool) : Nat → Octets → Tool Nat
  | 0, _ => return 0
  | fuel + 1, path => do
      if verbose then printLine (call.name ++ Octets.ofString (": removing directory, " ++ named path))
      let result : Except SystemError Unit ← Task.ask (.removeDirectory path)
      match result with
      | .error cause =>
          if cause == .notEmpty && lenient then return 0
          else call.fail ("failed to remove " ++ named path ++ ": " ++ cause.text)
      | .ok _ =>
          let next := pathAbove path
          if above && next != ['.'] && next != ['/'] then
            removeUpward call verbose above lenient fuel next
          else return 0

def rmdir : Program := fun call =>
  call.withOptions {
      flags := "pvi"
      long := [("parents", 'p'), ("verbose", 'v'), ("ignore-fail-on-non-empty", 'i')] } fun options => do
    if options.operands.isEmpty then call.missingOperand
    else
      forEach (fun path =>
        removeUpward call (options.has 'v') (options.has 'p') (options.has 'i') (path.length + 1) path)
        options.operands

def mkfifo : Program := fun call =>
  call.withOptions { valued := "m", long := [("mode", 'm')] } fun options => do
    if options.operands.isEmpty then call.missingOperand
    else
      forEach (fun path => do
        let result : Except SystemError Unit ← Task.ask (.makeFifo path)
        match result with
        | .ok _ => return 0
        | .error cause => call.fail ("cannot create fifo " ++ named path ++ ": " ++ cause.text))
        options.operands

/-- Letters of names that nobody else has. -/
def freshLetters : Octets := "abcdefghijklmnopqrstuvwxyzABCDEFGHIJKLMNOPQRSTUVWXYZ0123456789".toList

def lettersOf (seed : Nat) : Nat → Octets
  | 0 => []
  | count + 1 =>
      freshLetters.getD (seed % freshLetters.length) 'a' ::
        lettersOf (seed * 1103515245 / 7 + 12345) count

/-- Makes a file or a directory of a fresh name. -/
def mktemp : Program := fun call =>
  call.withOptions {
      flags := "dqtu"
      valued := "ps"
      long := [("directory", 'd'), ("quiet", 'q'), ("tmpdir", 'p'), ("dry-run", 'u')] } fun options => do
    let template := options.operands.headD (Octets.ofString "tmp.XXXXXXXXXX")
    let count := (template.reverse.takeWhile (· == 'X')).length
    if count < 3 then call.fail ("too few X's in template " ++ named template)
    else
      let (number, _) ← Task.identity
      let now : Nat ← Task.ask .clock
      let name := template.take (template.length - count) ++ lettersOf (number * 7919 + now) count
      let folder := (options.value? 'p').getD
        (((call.environment.lookup (Octets.ofString "TMPDIR")).getD (Octets.ofString "/tmp")))
      let path :=
        if options.operands.isEmpty || options.has 't' || options.has 'p' then below folder name else name
      let result : Except SystemError Unit ←
        if options.has 'u' then pure (.ok ())
        else if options.has 'd' then liftM (Task.ask (.makeDirectory path 0o700) : Task (Except SystemError Unit))
        else
          match ← Task.openFile path { writes := true, creates := true, exclusive := true } with
          | .error cause => pure (.error cause)
          | .ok handle =>
              discard (liftM (Task.close handle))
              discard (liftM (Task.ask (.changeMode path 0o600) : Task (Except SystemError Unit)))
              pure (.ok ())
      match result with
      | .ok _ =>
          printLine path
          return 0
      | .error cause =>
          call.fail ("failed to create " ++ (if options.has 'd' then "directory" else "file") ++
            " via template " ++ named template ++ ": " ++ cause.text)

/-- The size that a text asks for, given the size now. -/
def sizeOf? (current : Nat) (text : Octets) : Option Nat :=
  match text with
  | '+' :: count => (countOf? count).map (current + ·)
  | '-' :: count => (countOf? count).map (current - ·)
  | '<' :: count => (countOf? count).map (min current)
  | '>' :: count => (countOf? count).map (max current)
  | '/' :: count => (countOf? count).map (fun unit => current / max 1 unit * unit)
  | '%' :: count => (countOf? count).map (fun unit => (current + unit - 1) / max 1 unit * unit)
  | count => countOf? count

def truncate : Program := fun call =>
  call.withOptions {
      flags := "co"
      valued := "sr"
      long := [("size", 's'), ("no-create", 'c'), ("reference", 'r')] } fun options => do
    match options.value? 's', options.value? 'r' with
    | none, none => call.misuse "you must specify either '--size' or '--reference'"
    | size?, reference? =>
        if options.operands.isEmpty then call.misuse "missing file operand"
        else if size?.any (fun size => (sizeOf? 0 size).isNone) then
          call.fail ("Invalid number: " ++ named (size?.getD []))
        else
          let base : Nat ← match reference? with
            | none => pure 0
            | some file => do pure ((((← Task.status file).toOption).map FileStatus.size).getD 0)
          forEach (fun file => do
            let status ← Task.status file
            let current := (status.toOption.map FileStatus.size).getD 0
            let opened : Except SystemError Unit ←
              if status.toOption.isSome then pure (.ok ())
              else if options.has 'c' then pure (.error .interrupted)
              else
                match ← Task.openFile file { writes := true, creates := true } with
                | .error cause => pure (.error cause)
                | .ok handle =>
                    discard (liftM (Task.close handle))
                    pure (.ok ())
            match opened with
            | .error .interrupted => return 0
            | .error cause =>
                call.fail ("cannot open " ++ named file ++ " for writing: " ++ cause.text)
            | .ok _ =>
                let size := match size? with
                  | some size => (sizeOf? (if reference?.isSome then base else current) size).getD 0
                  | none => base
                let result : Except SystemError Unit ← Task.ask (.resize file size)
                match result with
                | .ok _ => return 0
                | .error cause =>
                    call.fail ("cannot open " ++ named file ++ " for writing: " ++ cause.text))
            options.operands

/-! ## Modes -/

/-- Changes the mode of what a path names, and of what lies below it if that is
asked for. -/
def changeModes (call : Call) (recursive : Bool) (change : Bool → Nat → Nat → Nat) :
    Nat → Octets → Tool Nat
  | 0, _ => return 0
  | fuel + 1, path => do
      match ← Task.status path with
      | .error cause =>
          match ← Task.linkStatus path with
          | .ok _ => call.fail ("cannot operate on dangling symlink " ++ named path)
          | .error _ => call.fail ("cannot access " ++ named path ++ ": " ++ cause.text)
      | .ok status =>
          let mask : Nat ← Task.ask (.setMask none)
          let isFolder := status.kind == .directory
          discard (liftM (Task.ask (.changeMode path (change isFolder mask status.mode)) :
            Task (Except SystemError Unit)))
          if recursive && isFolder then
            match ← Task.names path with
            | .error _ => return 0
            | .ok names =>
                forEach (fun name => changeModes call recursive change fuel (below path name)) names
          else return 0

def chmod : Program := fun call => do
  let isMode (argument : Octets) : Bool :=
    match argument with
    | '-' :: c :: _ => ['r', 'w', 'x', 'X', 's', 't'].contains c
    | _ => true
  let (modes, others) := call.arguments.partition (fun argument =>
    argument.head? == some '-' && isMode argument)
  { call with arguments := others }.withOptions {
      flags := "Rvcf"
      valued := "r"
      long := [("recursive", 'R'), ("verbose", 'v'), ("changes", 'c'), ("silent", 'f'), ("quiet", 'f'),
        ("reference", 'r')] } fun options => do
    let operands := modes.take 1 ++ options.operands
    match operands with
    | [] => call.missingOperand
    | [mode] => call.misuse ("missing operand after '" ++ mode.shown ++ "'")
    | mode :: files =>
        match modeChange? mode with
        | none => call.misuse ("invalid mode: " ++ named mode)
        | some change => forEach (changeModes call (options.has 'R') change 64) files

/-! ## Paths -/

def readlink : Program := fun call =>
  call.withOptions {
      flags := "femnqsvz"
      long := [("canonicalize", 'f'), ("canonicalize-existing", 'e'), ("canonicalize-missing", 'm'),
        ("no-newline", 'n')] } fun options => do
    if options.operands.isEmpty then call.missingOperand
    else
      forEach (fun path => do
        let result : Except SystemError Octets ←
          if options.has 'f' || options.has 'e' || options.has 'm' then
            solidPath (options.has 'm') (options.has 'f') path
          else liftM (Task.ask (.readLink path) : Task (Except SystemError Octets))
        match result with
        | .ok target =>
            print (target ++ (if options.has 'n' && options.operands.length == 1 then [] else ['\n']))
            return 0
        | .error cause =>
            if options.has 'v' then call.complain (path.shown ++ ": " ++ cause.text)
            return 1) options.operands

def realpath : Program := fun call =>
  call.withOptions {
      flags := "emLPsqz"
      valued := "RB"
      long := [("canonicalize-existing", 'e'), ("canonicalize-missing", 'm'), ("relative-to", 'R'),
        ("strip", 's'), ("no-symlinks", 's'), ("quiet", 'q')] } fun options => do
    if options.operands.isEmpty then call.missingOperand
    else
      forEach (fun path => do
        match ← solidPath (options.has 'm') (!options.has 'e') path with
        | .error cause =>
            if !options.has 'q' then call.complain (path.shown ++ ": " ++ cause.text)
            return 1
        | .ok target =>
            match options.value? 'R' with
            | none => printLine target
            | some base =>
                let base := ((← solidPath true true base).toOption).getD []
                printLine (pathFrom base target)
            return 0) options.operands

/-- Prints the last name of paths, without an ending. -/
def basename : Program := fun call =>
  call.withOptions {
      flags := "az"
      valued := "s"
      long := [("multiple", 'a'), ("suffix", 's')]
      isMixed := false } fun options => do
    let many := options.has 'a' || options.has 's'
    match options.operands with
    | [] => call.missingOperand
    | path :: others =>
        if many then
          print (Octets.unlines ((path :: others).map fun path =>
            dropEnding ((options.value? 's').getD []) (lastName path)))
          return 0
        else
          match others with
          | _ :: extra :: _ => call.extraOperand extra
          | others =>
              printLine (dropEnding (others.headD []) (lastName path))
              return 0

def dirname : Program := fun call =>
  call.withOptions { flags := "z" } fun options => do
    if options.operands.isEmpty then call.missingOperand
    else
      print (Octets.unlines (options.operands.map pathAbove))
      return 0

def pwd : Program := fun call =>
  call.withOptions { flags := "LP", long := [("logical", 'L'), ("physical", 'P')] } fun options => do
    if !options.operands.isEmpty then call.complain "ignoring non-option arguments"
    match ← Task.directory with
    | .ok path =>
        printLine path
        return 0
    | .error _ =>
        call.fail "couldn't find directory entry in '..' with matching i-node"

end InterfaceAudit.Tool
