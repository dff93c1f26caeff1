import InterfaceAudit.Machine.Tool.Files

/-!
Contract: programs that copy, move, link and remove files.

Owns:
- the operands that name where something is put;
- cp, mv, ln, link, install, rm and unlink.

Does not own: programs that look at files and make them.
-/

namespace InterfaceAudit.Tool

/-! ## Calls that change names -/

/-- Removes a name that is no directory's. -/
def unlinkPath (path : Octets) : Task (Except SystemError Unit) := Task.ask (.unlink path)

def renamePath (source target : Octets) : Task (Except SystemError Unit) :=
  Task.ask (.rename source target)

def linkTo (held path : Octets) : Task (Except SystemError Unit) := Task.ask (.symlink held path)

/-- Sets a mode, whatever comes of it. -/
def setMode (path : Octets) (mode : Nat) : Task Unit :=
  discard (Task.ask (.changeMode path mode) : Task (Except SystemError Unit))

/-! ## Questions -/

/-- Reads a line from the standard input, character by character; what was read
is given in reverse. -/
def readAnswer : Nat → Octets → Task Octets
  | 0, line => return line.reverse
  | fuel + 1, line => do
      match ← Task.read 0 1 with
      | .ok [c] => if c == '\n' then return line.reverse else readAnswer fuel (c :: line)
      | _ => return line.reverse

/-- Asks a question on the error output; an answer that starts with a y agrees. -/
def Call.confirmed (call : Call) (question : String) : Tool Bool := do
  flush
  warn (call.name ++ Octets.ofString (": " ++ question ++ "? "))
  let answer ← readAnswer Task.endless []
  return (answer.headD ' ').toLower == 'y'

/-- Whether something may be done, which is asked only if `asks` is set. -/
def Call.allows (call : Call) (asks : Bool) (question : String) : Tool Bool :=
  if asks then call.confirmed question else return true

/-! ## Where something is put -/

/-- What the operands say: each source with the path that it is put at. -/
structure Placement where
  pairs : List (Octets × Octets)
  /-- The directory that all of it is put in. -/
  folder : Option Octets := none

def pathInside (folder source : Octets) : Octets :=
  let name := lastName source
  if name == ['.', '.'] then folder else below folder name

def Placement.inside (folder : Octets) (sources : List Octets) : Placement where
  pairs := sources.map fun source => (source, pathInside folder source)
  folder := some folder

/-- Reads operands and goes on with what they say, or complains. `folderOf?` tells
whether an operand names a directory, and why not. -/
def Call.withPlacement
    (call : Call)
    (options : Options)
    (folderOf? : Octets → Task (Except SystemError Unit))
    (alone : Octets → Tool Nat)
    (body : Placement → Tool Nat) :
    Tool Nat := do
  let operands := options.operands
  let missingTarget (operand : Octets) : Tool Nat :=
    call.misuse ("missing destination file operand after " ++ named operand)
  match operands, options.value? 't' with
  | [], _ => call.misuse "missing file operand"
  | sources, some folder =>
      match ← folderOf? folder with
      | .ok _ => body (.inside folder sources)
      | .error cause => call.fail ("target directory " ++ named folder ++ ": " ++ cause.text)
  | [operand], none => if options.has 'T' then missingTarget operand else alone operand
  | [source, target], none =>
      if options.has 'T' then body { pairs := [(source, target)] }
      else
        match ← folderOf? target with
        | .ok _ => body (.inside target [source])
        | .error _ => body { pairs := [(source, target)] }
  | operands, none =>
      if options.has 'T' then call.extraOperand (operands.getD 2 [])
      else
        let target := operands.getLastD []
        match ← folderOf? target with
        | .ok _ => body (.inside target operands.dropLast)
        | .error cause => call.fail ("target " ++ named target ++ ": " ++ cause.text)

/-- Whether a path names a directory, and why not. -/
def folderAt (path : Octets) : Task (Except SystemError Unit) := do
  match ← Task.status path with
  | .ok status => return if status.kind == .directory then .ok () else .error .notADirectory
  | .error cause => return .error cause

/-- Moves a file out of the way before it is replaced. -/
def keepOld (options : Options) (path : Octets) : Task Unit := do
  if options.has 'b' then
    discard (renamePath path (path ++ (options.value? 'S').getD ['~']))

/-! ## Removing -/

structure Removal where
  isRecursive : Bool
  isForced : Bool
  removesEmpty : Bool
  asks : Bool
  isTold : Bool

/-- What a file is, in words. -/
def kindWords (status : FileStatus) : String :=
  match status.kind with
  | .regular => if status.size == 0 then "regular empty file" else "regular file"
  | .directory => "directory"
  | .link => "symbolic link"
  | .characters => "character special file"
  | .fifo => "fifo"

/-- Removes what a path names with all that lies below it; tells the exit code and
whether it is gone. -/
def removeTree (call : Call) (how : Removal) : Nat → Bool → Octets → Tool (Nat × Bool)
  | 0, _, _ => return (1, false)
  | fuel + 1, isTop, path => do
      let refuse (cause : SystemError) : Tool (Nat × Bool) := do
        call.complain ("cannot remove " ++ named path ++ ": " ++ cause.text)
        return (1, false)
      let finish (result : Except SystemError Unit) (words : String) : Tool (Nat × Bool) := do
        match result with
        | .error cause => refuse cause
        | .ok _ =>
            if how.isTold then printLine (Octets.ofString (words ++ named path))
            return (0, true)
      let allowed (isAsked : Bool) (question : String) : Tool Bool :=
        call.allows (how.asks && isAsked) (question ++ named path)
      match ← Task.linkStatus path with
      | .error cause =>
          if how.isForced && (cause == .notFound || cause == .notADirectory) then return (0, true)
          else refuse cause
      | .ok status =>
          if status.kind != .directory then
            if ← allowed true ("remove " ++ kindWords status ++ " ") then
              finish (← unlinkPath path) "removed "
            else return (0, false)
          else if !how.isRecursive && !how.removesEmpty then refuse .isADirectory
          else if isTop && [['.'], ['.', '.']].contains (lastName path) then
            call.complain ("refusing to remove '.' or '..' directory: skipping " ++ named path)
            return (1, false)
          else if isTop && how.isRecursive && status.number == Disk.root then
            call.complain ("it is dangerous to operate recursively on " ++
              (if path == ['/'] then "'/'" else named path ++ " (same as '/')"))
            call.complain "use --no-preserve-root to override this failsafe"
            return (1, false)
          else
            let names := ((← Task.names path).toOption).getD []
            if !how.isRecursive && !names.isEmpty then refuse .notEmpty
            else if !(← allowed (!names.isEmpty) "descend into directory ") then return (0, false)
            else
              let mut result := 0
              let mut isEmpty := true
              for name in names do
                let (status, isGone) ← removeTree call how fuel false (below path name)
                result := max result status
                isEmpty := isEmpty && isGone
              if !isEmpty then return (result, false)
              else if ← allowed true "remove directory " then
                let removed : Except SystemError Unit ← Task.ask (.removeDirectory path)
                finish removed "removed directory "
              else return (0, false)

def rm : Program := fun call =>
  call.withOptions {
      flags := "frRdviI\x00"
      optional := "\x01"
      long := [("force", 'f'), ("recursive", 'r'), ("dir", 'd'), ("verbose", 'v'), ("interactive", 'I'),
        ("one-file-system", '\x00'), ("preserve-root", '\x01'), ("no-preserve-root", '\x00')] } fun options => do
    let how : Removal := {
      isRecursive := options.has 'r' || options.has 'R'
      isForced := options.last? ['f', 'i', 'I'] == some 'f'
      removesEmpty := options.has 'd'
      asks := options.last? ['f', 'i', 'I'] == some 'i'
      isTold := options.has 'v' }
    let operands := options.operands
    let count := operands.length
    if operands.isEmpty then
      if options.has 'f' then return 0 else call.missingOperand
    else
      let asksOnce := options.last? ['f', 'i', 'I'] == some 'I' && (how.isRecursive || 3 < count)
      let question := "remove " ++ toString count ++ (if count == 1 then " argument" else " arguments") ++
        (if how.isRecursive then " recursively" else "")
      if !(← call.allows asksOnce question) then return 0
      else
        forEach (fun path => do
          let (status, _) ← removeTree call how 400 true path
          return status) operands

def unlink : Program := fun call =>
  call.withOptions {} fun options => do
    match options.operands with
    | [] => call.missingOperand
    | [path] =>
        match ← unlinkPath path with
        | .ok _ => return 0
        | .error cause => call.fail ("cannot unlink " ++ named path ++ ": " ++ cause.text)
    | _ :: extra :: _ => call.extraOperand extra

/-! ## Moving -/

def moveOne (call : Call) (options : Options) (source target : Octets) : Tool Nat := do
  let move (isThere : Bool) : Tool Nat := do
    if isThere then liftM (keepOld options target)
    match ← renamePath source target with
    | .ok _ =>
        if options.has 'v' then
          printLine (Octets.ofString ("renamed " ++ named source ++ " -> " ++ named target))
        return 0
    | .error .invalidArgument =>
        call.fail ("cannot move " ++ named source ++ " to a subdirectory of itself, " ++ named target)
    | .error .notEmpty =>
        call.fail ("cannot overwrite " ++ named target ++ ": " ++ SystemError.notEmpty.text)
    | .error cause =>
        call.fail ("cannot move " ++ named source ++ " to " ++ named target ++ ": " ++ cause.text)
  match ← Task.linkStatus source, ← Task.linkStatus target with
  | .error cause, _ => call.fail ("cannot stat " ++ named source ++ ": " ++ cause.text)
  | _, .error .notFound => move false
  | _, .error cause => call.fail ("cannot stat " ++ named target ++ ": " ++ cause.text)
  | .ok old, .ok new =>
      if old.number == new.number then
        call.fail (named source ++ " and " ++ named target ++ " are the same file")
      else if options.last? ['f', 'i', 'n'] == some 'n' then
        call.fail ("not replacing " ++ named target)
      else if options.has 'u' && old.changed ≤ new.changed then return 0
      else if old.kind != .directory && new.kind == .directory then
        call.fail ("cannot overwrite directory " ++ named target ++ " with non-directory")
      else if old.kind == .directory && new.kind != .directory && !options.has 'b' then
        call.fail ("cannot overwrite non-directory " ++ named target ++ " with directory " ++ named source)
      else if !(← call.allows (options.last? ['f', 'i', 'n'] == some 'i') ("overwrite " ++ named target)) then
        return 1
      else move true

/-- Complains that the place where something is to be put is missing. -/
def Call.missingTarget (call : Call) (operand : Octets) : Tool Nat :=
  call.misuse ("missing destination file operand after " ++ named operand)

def mv : Program := fun call =>
  call.withOptions {
      flags := "bfinTvZ"
      valued := "tS"
      optional := "uB"
      long := [("backup", 'B'), ("force", 'f'), ("interactive", 'i'), ("no-clobber", 'n'), ("suffix", 'S'),
        ("target-directory", 't'), ("no-target-directory", 'T'), ("update", 'u'), ("verbose", 'v')] }
      fun options =>
    call.withPlacement options folderAt call.missingTarget fun placement =>
      forEach (fun pair => moveOne call options pair.1 pair.2) placement.pairs

/-! ## Copying -/

/-- How files are copied. -/
structure Copying where
  isRecursive : Bool
  follows : Bool
  keepsMode : Bool
  keepsTime : Bool
  isHardLink : Bool
  isSymbolicLink : Bool
  options : Options

/-- What came of copying: the exit code, the first directory that was made, and
whether that directory was come across. -/
structure Copied where
  status : Nat := 0
  first : Option Nat := none
  isLooped : Bool := false

/-- Copies from one handle to another one. The flag tells whether it was reading
that failed. -/
def copyBetween (source target : Nat) : Nat → Task (Except (Bool × SystemError) Unit)
  | 0 => return .ok ()
  | fuel + 1 => do
      match ← Task.read source Task.blockSize with
      | .error cause => return .error (true, cause)
      | .ok [] => return .ok ()
      | .ok text =>
          match ← Task.write target text with
          | .error cause => return .error (false, cause)
          | .ok _ => copyBetween source target fuel

def copyContent
    (call : Call)
    (how : Copying)
    (source target : Octets)
    (status : FileStatus)
    (isThere : Bool) :
    Tool Nat := do
  match ← Task.openFile source { reads := true } with
  | .error cause => call.fail ("cannot open " ++ named source ++ " for reading: " ++ cause.text)
  | .ok input =>
      let opened ← Task.openFile target
        { writes := true, creates := !isThere, exclusive := !isThere, empties := isThere }
      match opened with
      | .error cause => do
          discard (liftM (Task.close input))
          if cause == .exists then
            call.fail ("not writing through dangling symlink " ++ named target)
          else
            let cause :=
              if cause == .isADirectory && target.getLast? == some '/' then .notADirectory else cause
            call.fail ("cannot create regular file " ++ named target ++ ": " ++ cause.text)
      | .ok output =>
          let result ← copyBetween input output Task.endless
          discard (liftM (Task.close input))
          discard (liftM (Task.close output))
          let mask : Nat ← Task.ask (.setMask none)
          if how.keepsMode then liftM (setMode target status.mode)
          else if !isThere then liftM (setMode target (status.mode &&& (0o777 ^^^ (mask &&& 0o777))))
          if how.keepsTime then
            discard (liftM (Task.ask (.setTime target status.changed) : Task (Except SystemError Unit)))
          match result with
          | .ok _ => return 0
          | .error (true, cause) => call.fail ("error reading " ++ named source ++ ": " ++ cause.text)
          | .error (false, cause) => call.fail ("error writing " ++ named target ++ ": " ++ cause.text)

/-- Copies something that is no directory. -/
def copyLeaf
    (call : Call)
    (how : Copying)
    (source target : Octets)
    (status : FileStatus)
    (isThere : Bool) :
    Tool Nat := do
  let forced := how.options.has 'f'
  let tell : Tool Unit := do
    if how.options.has 'v' then
      printLine (Octets.ofString (named source ++ " -> " ++ named target))
  let made (result : Except SystemError Unit) (words : String) : Tool Nat := do
    match result with
    | .ok _ => return 0
    | .error cause => call.fail ("cannot create " ++ words ++ ": " ++ cause.text)
  tell
  if how.isHardLink then
    if forced && isThere then discard (liftM (unlinkPath target))
    let result : Except SystemError Unit ← Task.ask (.link how.follows source target)
    made result ("hard link " ++ named target ++ " to " ++ named source)
  else if how.isSymbolicLink then
    if forced && isThere then discard (liftM (unlinkPath target))
    made (← linkTo source target) ("symbolic link " ++ named target ++ " to " ++ named source)
  else if status.kind == .link then
    if isThere then discard (liftM (unlinkPath target))
    let held : Except SystemError Octets ← Task.ask (.readLink source)
    made (← linkTo (held.toOption.getD []) target) ("symbolic link " ++ named target)
  else if status.kind == .fifo && how.isRecursive then
    if isThere then discard (liftM (unlinkPath target))
    let result : Except SystemError Unit ← Task.ask (.makeFifo target)
    made result ("fifo " ++ named target)
  else copyContent call how source target status isThere

/-- What is known about the place where a file is put. -/
def placeStatus (how : Copying) (status : FileStatus) (target : Octets) :
    Task (Except SystemError FileStatus) :=
  if status.kind == .regular && !how.isHardLink && !how.isSymbolicLink && !how.options.has 'b' then
    Task.status target
  else Task.linkStatus target

/-- Copies what a path names, with what lies below it. `top` are the operands that
this comes from. -/
def copyTree (call : Call) (how : Copying) (top : Octets × Octets) :
    Nat → Option Nat → Octets → Octets → Tool Copied
  | 0, first, _, _ => return { status := 1, first }
  | fuel + 1, first, source, target => do
      let fail (text : String) : Tool Copied := do
        call.complain text
        return { status := 1, first }
      let found ← liftM (if how.follows then Task.status source else Task.linkStatus source)
      match found with
      | .error cause => fail ("cannot stat " ++ named source ++ ": " ++ cause.text)
      | .ok status =>
          let isFolder := status.kind == .directory
          if isFolder && !how.isRecursive then
            fail ("-r not specified; omitting directory " ++ named source)
          else
            let present ← liftM (placeStatus how status target)
            match present with
            | .ok old =>
                let choice := how.options.last? ['f', 'i', 'n']
                if old.number == status.number && first.isNone then
                  if how.isHardLink then return { first }
                  else fail (named source ++ " and " ++ named target ++ " are the same file")
                else if choice == some 'n' && !isFolder then return { first }
                else if how.options.has 'u' && !isFolder &&
                    (status.changed ≤ old.changed || how.options.value? 'u' == some (Octets.ofString "none")) then
                  return { first }
                else if !isFolder && old.kind == .directory then
                  fail ("cannot overwrite directory " ++ named target ++ " with non-directory")
                else if isFolder && old.kind != .directory then
                  fail ("cannot overwrite non-directory " ++ named target ++ " with directory " ++ named source)
                else if !(← call.allows (choice == some 'i' && !isFolder) ("overwrite " ++ named target)) then
                  return { status := 1, first }
                else if isFolder then copyInto fuel first source target status true
                else
                  liftM (keepOld how.options target)
                  let status ← copyLeaf call how source target status (!how.options.has 'b')
                  return { status, first }
            | .error .notFound =>
                if isFolder then copyInto fuel first source target status false
                else
                  let status ← copyLeaf call how source target status false
                  return { status, first }
            | .error cause => fail ("cannot stat " ++ named target ++ ": " ++ cause.text)
where
  /-- Copies what lies in a directory. -/
  copyInto (fuel : Nat) (first : Option Nat) (source target : Octets) (status : FileStatus)
      (isThere : Bool) : Tool Copied := do
    if first == some status.number then
      call.complain ("cannot copy a directory, " ++ named top.1 ++ ", into itself, " ++ named top.2)
      return { status := 1, first, isLooped := true }
    else
      let made : Except SystemError Unit ←
        if isThere then pure (.ok ()) else liftM (Task.ask (.makeDirectory target 0o777) : Task _)
      match made with
      | .error cause =>
          call.complain ("cannot create directory " ++ named target ++ ": " ++ cause.text)
          return { status := 1, first }
      | .ok _ =>
          if !isThere && how.options.has 'v' then
            printLine (Octets.ofString (named source ++ " -> " ++ named target))
          let number := ((← Task.linkStatus target).toOption).map FileStatus.number
          let mut result : Copied := { first := if isThere then first else first.orElse fun _ => number }
          for name in ((← Task.names source).toOption).getD [] do
            if !result.isLooped then
              let next ← copyTree call how top fuel result.first (below source name) (below target name)
              result := { next with status := max result.status next.status }
          let mask : Nat ← Task.ask (.setMask none)
          if how.keepsMode then liftM (setMode target status.mode)
          else if !isThere then liftM (setMode target (status.mode &&& (0o777 ^^^ (mask &&& 0o777))))
          return result

/-- Makes the directories below a folder that a path goes through. -/
def makeParents (folder : Octets) : Nat → Octets → Task Unit
  | 0, _ => return
  | fuel + 1, path => do
      let above := pathAbove path
      if above != ['.'] && above != ['/'] then
        makeParents folder fuel above
        discard (Task.ask (.makeDirectory (below folder above) 0o777) : Task (Except SystemError Unit))

def cp : Program := fun call =>
  call.withOptions {
      flags := "abdfiHlLnPprRsTvxZ"
      valued := "tSN"
      optional := "uKB"
      long := [("archive", 'a'), ("backup", 'B'), ("dereference", 'L'), ("force", 'f'), ("interactive", 'i'),
        ("link", 'l'), ("no-clobber", 'n'), ("no-dereference", 'P'), ("no-target-directory", 'T'),
        ("parents", 'x'), ("preserve", 'K'), ("no-preserve", 'N'), ("recursive", 'r'),
        ("suffix", 'S'), ("symbolic-link", 's'), ("target-directory", 't'), ("update", 'u'),
        ("verbose", 'v')] } fun options => do
    let isRecursive := ['a', 'r', 'R'].any options.has
    let how : Copying := {
      isRecursive
      follows := match options.last? ['a', 'd', 'H', 'L', 'P'] with
        | some letter => letter == 'L'
        | none => !isRecursive
      keepsMode := ['a', 'p', 'K'].any options.has
      keepsTime := ['a', 'p', 'K'].any options.has
      isHardLink := options.has 'l'
      isSymbolicLink := options.has 's'
      options }
    call.withPlacement options folderAt call.missingTarget fun placement => do
      if options.has 'n' then
        call.complain
          "warning: behavior of -n is non-portable and may change in future; use --update=none instead"
      let mut result := 0
      let mut seen : List (Nat × Octets) := []
      for (source, target) in placement.pairs do
        let status ← Task.status source
        let mark := status.toOption.map fun status => (status.number, lastName source)
        if mark.any seen.contains then
          let kind := if status.toOption.any (fun status => status.kind == .directory) then "directory" else "file"
          call.complain ("warning: source " ++ kind ++ " " ++ named source ++ " specified more than once")
        else if seen.any (fun held => held.2 == lastName source) &&
            status.toOption.any (fun status => status.kind != .directory) then
          call.complain ("will not overwrite just-created " ++ named target ++ " with " ++ named source)
          result := 1
        else
          let target := match placement.folder with
            | some folder => if options.has 'x' then below folder source else target
            | none => target
          if options.has 'x' then
            liftM (makeParents (placement.folder.getD ['.']) (source.length + 1) source)
          let copied ← copyTree call how (source, target) 400 none source target
          result := max result copied.status
        seen := mark.toList ++ seen
      return result

/-- Copies files and sets their modes, or makes directories. -/
def install : Program := fun call =>
  call.withOptions {
      flags := "bcCDdpsTv"
      valued := "gmotS"
      long := [("directory", 'd'), ("mode", 'm'), ("target-directory", 't'), ("verbose", 'v'),
        ("no-target-directory", 'T')] } fun options => do
    let modeText := (options.value? 'm').getD (Octets.ofString "755")
    match modeChange? modeText with
    | none => call.fail ("invalid mode " ++ named modeText)
    | some change =>
        let mode := change false 0 0
        if options.has 'd' then
          if options.operands.isEmpty then call.misuse "missing file operand"
          else
            forEach (fun path => do
              match ← makeAll call (options.has 'v') (path.length + 2) path with
              | .ok _ =>
                  liftM (setMode path mode)
                  return 0
              | .error (path, cause) =>
                  call.fail ("cannot create directory " ++ named path ++ ": " ++ cause.text)) options.operands
        else
          let how : Copying := {
            isRecursive := false, follows := true, keepsMode := false, keepsTime := options.has 'p'
            isHardLink := false, isSymbolicLink := false, options }
          call.withPlacement options folderAt call.missingTarget fun placement =>
            forEach (fun (source, target) => do
              if options.has 'D' then
                discard (makeAll call false (target.length + 2) (pathAbove target))
              match ← Task.status source with
              | .error cause => call.fail ("cannot stat " ++ named source ++ ": " ++ cause.text)
              | .ok status =>
                  if status.kind == .directory then call.fail ("omitting directory " ++ named source)
                  else
                    discard (liftM (unlinkPath target))
                    let result ← copyLeaf call how source target status false
                    if result == 0 then liftM (setMode target mode)
                    return result) placement.pairs

/-! ## Linking -/

def linkOne (call : Call) (options : Options) (source target : Octets) : Tool Nat := do
  let isSymbolic := options.has 's'
  let follows := options.last? ['L', 'P'] == some 'L'
  let kind := if isSymbolic then "symbolic link " else "hard link "
  let found ← liftM (if follows then Task.status source else Task.linkStatus source)
  let place ← Task.linkStatus target
  match isSymbolic, found with
  | false, .error cause => call.fail ("failed to access " ++ named source ++ ": " ++ cause.text)
  | isSymbolic, found =>
      if !isSymbolic && found.toOption.any (fun status => status.kind == .directory) then
        call.fail (source.shown ++ ": hard link not allowed for directory")
      else
        let held ←
          if isSymbolic && options.has 'r' then
            let folder ← liftM (solidPath true true (pathAbove target))
            let path ← liftM (solidPath true true source)
            pure (pathFrom (folder.toOption.getD []) (path.toOption.getD source))
          else pure source
        let isForced := options.has 'f' || options.has 'b' || options.has 'i'
        let make : Tool Nat := do
          let result : Except SystemError Unit ← liftM (
            if isSymbolic then linkTo held target else Task.ask (.link follows source target) : Task _)
          match result with
          | .ok _ =>
              if options.has 'v' then
                printLine (Octets.ofString
                  (named target ++ (if isSymbolic then " -> " else " => ") ++ named held))
              return 0
          | .error cause =>
              let rest :=
                if isSymbolic then if held.isEmpty then " -> ''" else ""
                else if cause == .exists then "" else " => " ++ named source
              call.fail ("failed to create " ++ kind ++ named target ++ rest ++ ": " ++ cause.text)
        match place with
        | .error _ => make
        | .ok old =>
            if !isForced then make
            else if old.kind == .directory then
              call.fail (target.shown ++ ": cannot overwrite directory")
            else if found.toOption.any (fun status => status.number == old.number) &&
                !(isSymbolic && old.kind == .link) then
              call.fail (named source ++ " and " ++ named target ++ " are the same file")
            else if !(← call.allows (options.last? ['f', 'i'] == some 'i') ("replace " ++ named target)) then
              return 1
            else
              liftM (keepOld options target)
              discard (liftM (unlinkPath target))
              make

def ln : Program := fun call =>
  call.withOptions {
      flags := "bdFfiLnPrsTv"
      valued := "tS"
      optional := "B"
      long := [("backup", 'B'), ("force", 'f'), ("interactive", 'i'), ("logical", 'L'),
        ("no-dereference", 'n'), ("physical", 'P'), ("relative", 'r'), ("symbolic", 's'), ("suffix", 'S'),
        ("target-directory", 't'), ("no-target-directory", 'T'), ("verbose", 'v')] } fun options => do
    let folderOf? (path : Octets) : Task (Except SystemError Unit) := do
      let status ← if options.has 'n' then Task.linkStatus path else Task.status path
      match status with
      | .ok status => return if status.kind == .directory then .ok () else .error .notADirectory
      | .error cause => return .error cause
    match options.value? 't' with
    | some folder =>
        match ← folderAt folder with
        | .ok _ => place call options folderOf?
        | .error .notADirectory => call.fail ("target " ++ named folder ++ " is not a directory")
        | .error cause => call.fail ("failed to access " ++ named folder ++ ": " ++ cause.text)
    | none => place call options folderOf?
where
  /-- Makes the links that the operands ask for. -/
  place (call : Call) (options : Options) (folderOf? : Octets → Task (Except SystemError Unit)) : Tool Nat :=
    call.withPlacement options folderOf?
      (fun source => linkOne call options source (pathInside ['.'] source))
      fun placement => forEach (fun pair => linkOne call options pair.1 pair.2) placement.pairs

def link : Program := fun call =>
  call.withOptions {} fun options => do
    match options.operands with
    | [] => call.missingOperand
    | [source] => call.misuse ("missing operand after " ++ named source)
    | [source, target] =>
        let result : Except SystemError Unit ← Task.ask (.link false source target)
        match result with
        | .ok _ => return 0
        | .error cause =>
            call.fail ("cannot create link " ++ named target ++ " to " ++ named source ++ ": " ++ cause.text)
    | _ :: _ :: extra :: _ => call.extraOperand extra

end InterfaceAudit.Tool
