import InterfaceAudit.Failure
import InterfaceAudit.Machine.Octets

/-!
Contract: a file system held in memory.

Owns:
- nodes: directories, files, links, devices and programs, each known by a
  number;
- finding what a path names, with the causes that can prevent it;
- the path of a node.

Does not own: changes of directories, open files, or who may do what.
-/

namespace InterfaceAudit

inductive Device where
  /-- A source of nothing, and a place where anything vanishes. -/
  | null
  /-- An endless source of zero bytes. -/
  | zero
  /-- A source of zero bytes that is too full to be written to. -/
  | full
  /-- An endless source of bytes without order. -/
  | random
deriving DecidableEq, Repr

/-- What a node holds. -/
inductive Content where
  | directory (names : List (Octets × Nat))
  | file (text : Octets)
  /-- A path that is followed in place of the node. -/
  | link (target : Octets)
  | device (device : Device)
  /-- A program that the machine provides. -/
  | program (name : String)
  /-- A pipe that has a name. -/
  | fifo
deriving DecidableEq, Repr

structure Node where
  content : Content
  /-- Nine bits: who may read, write and execute it. -/
  mode : Nat
  /-- The directory that a directory stands in. -/
  parent : Nat := 0
  /-- When it was last changed, in microseconds. -/
  changed : Nat := 0
deriving DecidableEq, Repr

/-- A file system: its nodes with their numbers. A number is given out once. -/
structure Disk where
  nodes : List (Nat × Node)
  next : Nat
deriving DecidableEq, Repr

namespace Disk

/-- The number of the directory that everything stands in. -/
def root : Nat := 0

def maxName : Nat := 255

/-- Length from which on a path is refused. -/
def maxPath : Nat := 4096

/-- How many links may be followed on the way along one path. -/
def maxLinks : Nat := 40

def node? (disk : Disk) (number : Nat) : Option Node :=
  disk.nodes.lookup number

def put (disk : Disk) (number : Nat) (node : Node) : Disk :=
  { disk with nodes := (number, node) :: disk.nodes.filter (fun held => held.1 != number) }

def content? (disk : Disk) (number : Nat) : Option Content :=
  (disk.node? number).map Node.content

/-- The entries of a directory, the last one made first; none if it is no
directory. -/
def entries (disk : Disk) (number : Nat) : List (Octets × Nat) :=
  match disk.content? number with
  | some (.directory names) => names
  | _ => []

def isDirectory (disk : Disk) (number : Nat) : Bool :=
  match disk.content? number with
  | some (.directory _) => true
  | _ => false

def parentOf (disk : Disk) (number : Nat) : Nat :=
  ((disk.node? number).map Node.parent).getD root

/-- Whether a directory is still to be found in the one above it. -/
def isAttached (disk : Disk) (number : Nat) : Bool :=
  number == root || (disk.entries (disk.parentOf number)).any (fun entry => entry.2 == number)

/-! ## Paths -/

def pathNames (path : Octets) : List Octets :=
  (Octets.splitAt '/' path).filter (fun name => !name.isEmpty)

/-- Where a path leads: a directory, a name in it, and the node of that name if
there is one. A path that ends in dots leads to a node that is there. -/
structure Spot where
  folder : Nat
  name : Octets
  node? : Option Nat
deriving DecidableEq, Repr

/-- Goes along names from a node. All but the last must be directories. A link
at the end is followed only if `follow` is set. -/
def walk (disk : Disk) (follow : Bool) (links : Nat) (here : Nat) (names : List Octets) :
    Except SystemError Spot :=
  match names with
  | [] => .ok ⟨here, ['.'], some here⟩
  | name :: rest =>
      match disk.content? here with
      | none => .error .notFound
      | some (.directory entries) =>
          if maxName < name.length then .error .nameTooLong
          else if name == ['.'] then
            if rest.isEmpty then .ok ⟨here, name, some here⟩ else disk.walk follow links here rest
          else if name == ['.', '.'] then
            let above := disk.parentOf here
            if rest.isEmpty then .ok ⟨here, name, some above⟩
            else disk.walk follow links above rest
          else
            match entries.lookup name with
            | none => if rest.isEmpty then .ok ⟨here, name, none⟩ else .error .notFound
            | some next =>
                match disk.content? next with
                | some (.link target) =>
                    if rest.isEmpty && !follow then .ok ⟨here, name, some next⟩
                    else
                      match links with
                      | 0 => .error .tooManyLinks
                      | links + 1 =>
                          let start := if target.head? == some '/' then root else here
                          disk.walk follow links start (pathNames target ++ rest)
                | _ =>
                    if rest.isEmpty then .ok ⟨here, name, some next⟩
                    else disk.walk follow links next rest
      | some _ => .error .notADirectory
termination_by (links, names.length)

def locate (disk : Disk) (follow : Bool) (directory : Nat) (path : Octets) :
    Except SystemError Spot := do
  if path.isEmpty then throw .notFound
  if maxPath ≤ path.length then throw .nameTooLong
  let start := if path.head? == some '/' then root else directory
  let isSlashed := path.getLast? == some '/'
  let spot ← disk.walk (follow || isSlashed) maxLinks start (pathNames path)
  match spot.node? with
  | some number => if isSlashed && !disk.isDirectory number then throw .notADirectory
  | none => pure ()
  return spot

/-- Where a path leads that may be made a file. What ends in a slash is taken for
a directory, whatever it is. -/
def locateFile (disk : Disk) (follow : Bool) (directory : Nat) (path : Octets) :
    Except SystemError Spot := do
  let names := pathNames path
  if path.getLast? == some '/' && !names.isEmpty then
    let start := if path.head? == some '/' then root else directory
    match (← disk.walk true maxLinks start names.dropLast).node? with
    | some above => throw (if disk.isDirectory above then .isADirectory else .notADirectory)
    | none => throw .notFound
  disk.locate follow directory path

def find (disk : Disk) (follow : Bool) (directory : Nat) (path : Octets) :
    Except SystemError Nat := do
  match (← disk.locate follow directory path).node? with
  | some number => return number
  | none => throw .notFound

def findDirectory (disk : Disk) (directory : Nat) (path : Octets) : Except SystemError Nat := do
  let number ← disk.find true directory path
  if disk.isDirectory number then return number else throw .notADirectory

/-- The path of a directory in front of a text, unless the directory or one
above it was removed. -/
def pathBefore (disk : Disk) : Nat → Nat → Octets → Option Octets
  | 0, _, _ => none
  | fuel + 1, number, passed =>
      if number == root then some (if passed.isEmpty then ['/'] else passed)
      else
        let above := disk.parentOf number
        match (disk.entries above).find? (fun entry => entry.2 == number) with
        | none => none
        | some (name, _) => disk.pathBefore fuel above ('/' :: name ++ passed)

/-- The path of a directory, unless it was removed. -/
def path? (disk : Disk) (number : Nat) : Option Octets :=
  disk.pathBefore (disk.nodes.length + 1) number []

/-- How many names a node has; a directory is named by those in it as well. -/
def linkCount (disk : Disk) (number : Nat) : Nat :=
  if disk.isDirectory number then
    2 + ((disk.entries number).filter (fun entry => disk.isDirectory entry.2)).length
  else
    let count (content : Content) : Nat :=
      match content with
      | .directory names => (names.filter (fun entry => entry.2 == number)).length
      | _ => 0
    disk.nodes.foldl (fun total held => total + count held.2.content) 0

end Disk

end InterfaceAudit
