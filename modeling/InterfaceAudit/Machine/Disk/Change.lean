import InterfaceAudit.Machine.Disk

/-!
Contract: changes of a file system.

Owns:
- entering, linking, renaming and removing the entries of directories;
- the content and the mode of files;
- making whole paths of directories, removing trees and listing them.

Does not own: open files.
-/

namespace InterfaceAudit.Disk

def changeEntries
    (disk : Disk)
    (folder : Nat)
    (change : List (Octets × Nat) → List (Octets × Nat)) :
    Disk :=
  match disk.node? folder with
  | some node =>
      match node.content with
      | .directory names => disk.put folder { node with content := .directory (change names) }
      | _ => disk
  | none => disk

def leave (disk : Disk) (folder : Nat) (name : Octets) : Disk :=
  disk.changeEntries folder (fun names => names.filter (fun entry => entry.1 != name))

/-- Gives a node a name in a directory, in place of what had the name. -/
def attach (disk : Disk) (folder : Nat) (name : Octets) (number : Nat) : Disk :=
  (disk.leave folder name).changeEntries folder (fun names => (name, number) :: names)

/-- Makes a node at a spot where nothing stands. -/
def enter (disk : Disk) (spot : Spot) (node : Node) : Except SystemError (Nat × Disk) :=
  if spot.node?.isSome then .error .exists
  else if !disk.isAttached spot.folder then .error .notFound
  else
    let number := disk.next
    let disk := { disk with next := number + 1 }.put number { node with parent := spot.folder }
    .ok (number, disk.attach spot.folder spot.name number)

/-- Makes a node under a path. Only a directory may be named with a slash at the
end. -/
def make (disk : Disk) (directory : Nat) (path : Octets) (node : Node) :
    Except SystemError (Nat × Disk) := do
  let spot ← disk.locate false directory path
  match node.content with
  | .directory _ => disk.enter spot node
  | _ =>
      if path.getLast? == some '/' && spot.node?.isNone then throw .notFound
      disk.enter spot node

def emptyDirectory (mode : Nat) : Node where
  content := .directory []
  mode := mode

/-- Gives the node of one path a second name. -/
def link (disk : Disk) (directory : Nat) (follow : Bool) (source target : Octets) :
    Except SystemError Disk := do
  let number ← disk.find follow directory source
  let spot ← disk.locate false directory target
  if spot.node?.isSome then throw .exists
  if disk.isDirectory number then throw .notPermitted
  if target.getLast? == some '/' || !disk.isAttached spot.folder then throw .notFound
  return disk.attach spot.folder spot.name number

def Spot.isDotted (spot : Spot) : Bool :=
  spot.name == ['.'] || spot.name == ['.', '.']

/-- Removes a name that is no directory's. -/
def unlink (disk : Disk) (directory : Nat) (path : Octets) : Except SystemError Disk := do
  let spot ← disk.locate false directory path
  match spot.node? with
  | none => throw .notFound
  | some number =>
      if disk.isDirectory number then throw .isADirectory
      return disk.leave spot.folder spot.name

def removeDirectory (disk : Disk) (directory : Nat) (path : Octets) : Except SystemError Disk := do
  let spot ← disk.locate false directory path
  match spot.node? with
  | none => throw .notFound
  | some number =>
      if number == root then throw .busy
      if spot.name == ['.'] then throw .invalidArgument
      if spot.name == ['.', '.'] then throw .notEmpty
      if !disk.isDirectory number then throw .notADirectory
      if !(disk.entries number).isEmpty then throw .notEmpty
      return disk.leave spot.folder spot.name

/-- Whether a directory is another one or lies below it. -/
def isWithin (disk : Disk) (top : Nat) : Nat → Nat → Bool
  | 0, _ => false
  | fuel + 1, number =>
      number == top || (number != root && disk.isWithin top fuel (disk.parentOf number))

/-- Gives what stands under one path another path, in place of what stands
there. -/
def rename (disk : Disk) (directory : Nat) (source target : Octets) : Except SystemError Disk := do
  let old ← disk.locate false directory source
  match old.node? with
  | none => throw .notFound
  | some number =>
      let new ← disk.locate false directory target
      if old.isDotted || new.isDotted then throw .busy
      if !disk.isAttached new.folder then throw .notFound
      let isFolder := disk.isDirectory number
      if isFolder && disk.isWithin number (disk.nodes.length + 1) new.folder then
        throw .invalidArgument
      if !isFolder && target.getLast? == some '/' then throw .notADirectory
      match new.node? with
      | some other =>
          if other == number then return disk
          if isFolder && !disk.isDirectory other then throw .notADirectory
          if !isFolder && disk.isDirectory other then throw .isADirectory
          if isFolder && !(disk.entries other).isEmpty then throw .notEmpty
      | none => pure ()
      let disk := (disk.leave old.folder old.name).attach new.folder new.name number
      match disk.node? number with
      | some node => return if isFolder then disk.put number { node with parent := new.folder } else disk
      | none => return disk

/-! ## Content -/

/-- How the text of a program starts. -/
def programMark : String :=
  "\x7fELF\x02\x01\x01\x00\x00\x00\x00\x00\x00\x00\x00\x00\x03\x00>\x00\x01\x00\x00\x00"

def textOf (disk : Disk) (number : Nat) : Octets :=
  match disk.content? number with
  | some (.file text) => text
  | some (.program name) => Octets.ofString (programMark ++ name)
  | _ => []

/-- Sets the text of a file. What is no file stays as it is. -/
def setText (disk : Disk) (number : Nat) (now : Nat) (text : Octets) : Disk :=
  match disk.node? number with
  | some node =>
      match node.content with
      | .file _ | .program _ => disk.put number { node with content := .file text, changed := now }
      | _ => disk
  | none => disk

def changeNode (disk : Disk) (number : Nat) (change : Node → Node) : Disk :=
  match disk.node? number with
  | some node => disk.put number (change node)
  | none => disk

def read (disk : Disk) (directory : Nat) (path : Octets) : Except SystemError Octets := do
  let number ← disk.find true directory path
  if disk.isDirectory number then throw .isADirectory
  return disk.textOf number

/-- The node that a path is to be written to; a new file is made if there is
none. -/
def openToWrite (disk : Disk) (directory : Nat) (path : Octets) (mode now : Nat) :
    Except SystemError (Nat × Disk) := do
  let spot ← disk.locateFile true directory path
  match spot.node? with
  | some number =>
      if disk.isDirectory number then throw .isADirectory
      return (number, disk)
  | none => disk.enter spot { content := .file [], mode, changed := now }

def write (disk : Disk) (directory : Nat) (path text : Octets) (now : Nat) :
    Except SystemError Disk := do
  let (number, disk) ← disk.openToWrite directory path 0o644 now
  match disk.content? number with
  | some (.device .full) => if text.isEmpty then return disk else throw .noSpace
  | _ => return disk.setText number now text

/-! ## Trees -/

def makeDirectory (disk : Disk) (directory : Nat) (path : Octets) : Except SystemError Disk :=
  (disk.make directory path (emptyDirectory 0o755)).map Prod.snd

/-- The path above a path: without its last name, and without the slashes and
single dots around that. -/
def pathAbove? (path : Octets) : Option Octets :=
  let trimmed (reversed : Octets) : Octets :=
    let rec go : Nat → Octets → Octets
      | 0, text => text
      | fuel + 1, text =>
          match text with
          | '/' :: rest => if rest.isEmpty then text else go fuel rest
          | '.' :: '/' :: rest => go fuel ('/' :: rest)
          | text => text
    go (reversed.length + 1) reversed
  match trimmed path.reverse with
  | [] | ['/'] => none
  | reversed => some (trimmed (reversed.dropWhile (· != '/'))).reverse

/-- Makes a directory and whatever is missing above it. -/
def makeDirectories (disk : Disk) (directory : Nat) : Nat → Octets → Except SystemError Disk
  | 0, _ => .error .nameTooLong
  | fuel + 1, path =>
      let make (disk : Disk) : Except SystemError Disk :=
        match disk.makeDirectory directory path with
        | .ok disk => .ok disk
        | .error cause =>
            match disk.findDirectory directory path with
            | .ok _ => .ok disk
            | .error _ => .error cause
      if path.isEmpty then .ok disk
      else
        match make disk with
        | .error .notFound =>
            match pathAbove? path with
            | none => .error .notFound
            | some above => do make (← disk.makeDirectories directory fuel above)
        | result => result

/-- The numbers of a directory and all those below it. -/
def foldersBelow (disk : Disk) : Nat → Nat → List Nat
  | 0, _ => []
  | fuel + 1, number =>
      if disk.isDirectory number then
        number :: (disk.entries number).flatMap (fun entry => disk.foldersBelow fuel entry.2)
      else []

/-- Removes what a path names with all below it. A link is not followed. -/
def removeTree (disk : Disk) (directory : Nat) (path : Octets) : Except SystemError Disk := do
  let spot ← disk.locate false directory path
  match spot.node? with
  | none => throw .notFound
  | some number =>
      let folders := disk.foldersBelow (disk.nodes.length + 1) number
      let disk := folders.foldl (fun disk folder => disk.changeEntries folder (fun _ => [])) disk
      return disk.leave spot.folder spot.name

/-- All entries below a directory with their paths from there: directories,
marked by a slash, without content, and anything else with the text found under
its path. Links are followed as far as paths may be. -/
def listing (disk : Disk) (directory : Nat) (top : Octets) : Nat → Octets → List (Octets × Option Octets)
  | 0, _ => []
  | fuel + 1, passed =>
      match disk.findDirectory directory (top ++ passed) with
      | .error _ => []
      | .ok number =>
          (disk.entries number).flatMap fun (name, _) =>
            let path := passed ++ '/' :: name
            match disk.findDirectory directory (top ++ path) with
            | .ok _ => (path.drop 1 ++ ['/'], none) :: disk.listing directory top fuel path
            | .error _ =>
                [(path.drop 1, some (((disk.read directory (top ++ path)).toOption).getD []))]

end InterfaceAudit.Disk
