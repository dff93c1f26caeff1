import InterfaceAudit.Proofs.Host.Files

/-!
Contract: one file system that several actions work in, each in circumstances of
its own.

Owns:
- the ground that is shared: where paths lead, and where directories are made;
- the circumstances of one action: what it is refused, and what comes of the files
  that it writes and the commands that it runs;
- what each exchange makes of the files: a directory of a fresh name is made where
  nothing stands, and a command touches only what stands below its directory.

Does not own: what is asked for, or in which order.
-/

namespace InterfaceAudit

/-! ## Files -/

namespace Files

/-- Files with a place left in a certain state. -/
def set (files : Files) (place : Location) (there? : Option Entry) : Files := fun other =>
  if other = place then there? else files other

/-- Files with a directory wherever nothing stood on the way to a place. -/
def grown (files : Files) (place : Location) : Files := fun other =>
  if other <+: place then (files other).or (some .directory) else files other

def inside (files : Files) (place : Location) : Files := fun below => files (place ++ below)

/-- Files with other things below a place, which itself stays as it is. -/
def refurnished (files : Files) (place : Location) (content : Files) : Files := fun other =>
  if place <+: other ∧ other ≠ place then content (other.drop place.length) else files other

/-- No file stands on the way to a place. -/
def IsOpen (files : Files) (place : Location) : Prop :=
  ∀ way, way <+: place → ∀ content, files way ≠ some (.file content)

theorem set_of_ne
    (files : Files)
    {place other : Location}
    (differs : other ≠ place)
    (there? : Option Entry) :
    files.set place there? other = files other :=
  if_neg differs

theorem grownTo_grown (files : Files) (place : Location) :
    files.GrownTo place (files.grown place) := by
  intro other
  unfold grown
  split
  case isTrue onTheWay =>
    cases stands : files other with
    | none => exact .inr ⟨onTheWay, rfl, rfl⟩
    | some entry => exact .inl rfl
  case isFalse => exact .inl rfl

/-- Where no file stands on the way, a directory stands at the end of it. -/
theorem grown_self {files : Files} {place : Location} (isOpen : files.IsOpen place) :
    files.grown place place = some .directory := by
  unfold grown
  rw [if_pos (List.prefix_refl place)]
  cases stands : files place with
  | none => rfl
  | some entry =>
      cases entry with
      | directory => rfl
      | file content => exact absurd stands (isOpen place (List.prefix_refl place) content)

theorem IsOpen.grown {files : Files} {place : Location} (isOpen : files.IsOpen place) :
    (files.grown place).IsOpen place := by
  intro way onTheWay content isFile
  rcases files.grownTo_grown place way with same | ⟨_, _, isMade⟩
  · exact isOpen way onTheWay content (same.symm.trans isFile)
  · rw [isMade] at isFile
    cases isFile

theorem refurnished_self (files : Files) (place : Location) (content : Files) :
    files.refurnished place content place = files place :=
  if_neg fun below => below.2 rfl

theorem refurnished_elsewhere
    (files : Files)
    {place other : Location}
    (isElsewhere : ¬place <+: other)
    (content : Files) :
    files.refurnished place content other = files other :=
  if_neg fun below => isElsewhere below.1

theorem refurnished_below
    (files : Files)
    (place : Location)
    {below : Location}
    (isBelow : below ≠ [])
    (content : Files) :
    files.refurnished place content (place ++ below) = content below := by
  have differs : place ++ below ≠ place := by simpa using isBelow
  unfold refurnished
  rw [if_pos ⟨List.prefix_append place below, differs⟩, List.drop_left]

end Files

/-! ## Ground and circumstances -/

/-- Where the paths of a file system lead, and where directories are made for those
who name no place for them. -/
structure Ground where
  locate : Path → Location
  locate_child : ∀ (path : Path) (name : String), IsPlainName name →
    locate (path.child name) = locate path ++ [Utf8.ofString name]
  temporary : Location

/-- Where directories of fresh names are made. -/
def Ground.base (ground : Ground) : Option Path → Location
  | none => ground.temporary
  | some root => ground.locate root

/-- What one action meets with, apart from the files. Whatever it is, it depends on
nothing that others do: a write on what stood at its place, a command on what stands
at and below its directory. -/
structure Circumstances where
  /-- What is refused, whatever stands where. -/
  fault? : Request → Option IoFault
  /-- The fault of what the files do not permit. -/
  blocked : Request → IoFault
  /-- What comes of writing a file, and what stands at its place then. -/
  store : Path → Bytes → Option Entry → Except IoFault Unit × Option Entry
  stored : ∀ path content there?, (store path content there?).1 = .ok () →
    (store path content there?).2 = some (.file content)
  /-- What comes of a command, and what stands below its directory then. -/
  run : Command → Files → Except IoFault CommandEnd × Files
  runWithin : Command → UInt64 → Files → Except IoFault (Option CommandEnd) × Files

namespace Circumstances

variable {own : Circumstances} {request : Request} {possible other : Prop} {fault : IoFault}

def Grants (own : Circumstances) (request : Request) (possible : Prop) : Prop :=
  own.fault? request = none ∧ possible

def Refuses (own : Circumstances) (request : Request) (possible : Prop) (fault : IoFault) : Prop :=
  own.fault? request = some fault ∨
    own.fault? request = none ∧ ¬possible ∧ fault = own.blocked request

theorem Grants.not_refuses (grants : own.Grants request possible) :
    ¬own.Refuses request possible fault := by
  rintro (refused | ⟨_, impossible, _⟩)
  · rw [grants.1] at refused
    cases refused
  · exact impossible grants.2

theorem Refuses.eq
    {second : IoFault}
    (refuses : own.Refuses request possible fault)
    (again : own.Refuses request possible second) :
    fault = second := by
  rcases refuses with refused | ⟨permitted, _, rfl⟩
  · rcases again with twice | ⟨permitted, _, _⟩
    · exact Option.some.inj (refused.symm.trans twice)
    · rw [permitted] at refused
      cases refused
  · rcases again with refused | ⟨_, _, rfl⟩
    · rw [permitted] at refused
      cases refused
    · rfl

end Circumstances

/-! ## What an exchange makes of the files -/

/-- Whether a request only asks for the time, or says something. -/
def Request.IsRemark : Request → Prop
  | .clock | .log _ | .collect _ => True
  | _ => False

/-- What an exchange is in the circumstances of one action: how files permit it, and
what they are behind it. -/
inductive Takes (ground : Ground) (own : Circumstances) : Exchange → Files → Files → Prop where
  | told {request : Request} (answer : request.Answer) (isRemark : request.IsRemark)
      (files : Files) :
      Takes ground own ⟨request, answer⟩ files files
  | treeMade {path : Path} {files : Files}
      (grants : own.Grants (.makeDirectories path) (files.IsOpen (ground.locate path))) :
      Takes ground own ⟨.makeDirectories path, (.ok () : Except IoFault Unit)⟩ files
        (files.grown (ground.locate path))
  /-- Some of the missing directories may have been made before it was refused. -/
  | treeRefused {path : Path} {fault : IoFault} {before after : Files}
      (refuses : own.Refuses (.makeDirectories path) (before.IsOpen (ground.locate path)) fault)
      (grown : before.GrownTo (ground.locate path) after) :
      Takes ground own ⟨.makeDirectories path, (.error fault : Except IoFault Unit)⟩ before after
  /-- A directory is made whose name is the stem with letters and digits behind it,
  where nothing stood. -/
  | scopedMade {parent : Option Path} {stem : String} {path : Path} {files : Files}
      (grants : own.Grants (.makeScoped parent stem)
        (files (ground.base parent) = some .directory))
      (named : ∃ ending : String, (∀ c ∈ ending.toList, c.isAlphanum = true) ∧
        ground.locate path = ground.base parent ++ [Utf8.ofString (stem ++ ending)])
      (fresh : ∀ other, ground.locate path <+: other → files other = none) :
      Takes ground own ⟨.makeScoped parent stem, (.ok path : Except IoFault Path)⟩ files
        (files.put (ground.locate path) .directory)
  | scopedRefused {parent : Option Path} {stem : String} {fault : IoFault} {files : Files}
      (refuses : own.Refuses (.makeScoped parent stem)
        (files (ground.base parent) = some .directory) fault) :
      Takes ground own ⟨.makeScoped parent stem, (.error fault : Except IoFault Path)⟩ files files
  | stored {path : Path} {content : Bytes} {files : Files} {answer : Except IoFault Unit}
      {there? : Option Entry}
      (comes : own.store path content (files (ground.locate path)) = (answer, there?)) :
      Takes ground own ⟨.writeFile path content, answer⟩ files
        (files.set (ground.locate path) there?)
  | ran {command : Command} {files below : Files} {answer : Except IoFault CommandEnd}
      (comes : own.run command (files.inside (ground.locate command.directory)) =
        (answer, below)) :
      Takes ground own ⟨.run command, answer⟩ files
        (files.refurnished (ground.locate command.directory) below)
  | ranWithin {command : Command} {secs : UInt64} {files below : Files}
      {answer : Except IoFault (Option CommandEnd)}
      (comes : own.runWithin command secs (files.inside (ground.locate command.directory)) =
        (answer, below)) :
      Takes ground own ⟨.runWithin command secs, answer⟩ files
        (files.refurnished (ground.locate command.directory) below)
  | removed (path : Path) (files : Files) :
      Takes ground own ⟨.removeTree path, ()⟩ files (files.without (ground.locate path))

namespace Takes

variable {ground : Ground} {own : Circumstances} {before after : Files}

theorem clocked (time : Nat) (files : Files) : Takes ground own ⟨.clock, time⟩ files files :=
  .told (show Request.Answer .clock from time) trivial files

theorem logged (event : Log.Event) (files : Files) :
    Takes ground own ⟨.log event, ()⟩ files files :=
  .told (show Request.Answer (.log event) from ()) trivial files

/-! ## What each request comes to -/

theorem eq_of_isRemark
    {request : Request}
    {answer : request.Answer}
    (takes : Takes ground own ⟨request, answer⟩ before after)
    (isRemark : request.IsRemark) :
    after = before := by
  cases takes with
  | told => rfl
  | treeMade | treeRefused | scopedMade | scopedRefused | stored | ran | ranWithin | removed =>
      cases isRemark

theorem makeDirectories
    {path : Path}
    {answer : Except IoFault Unit}
    (takes : Takes ground own ⟨.makeDirectories path, answer⟩ before after) :
    (answer = .ok () ∧
      own.Grants (.makeDirectories path) (before.IsOpen (ground.locate path)) ∧
      after = before.grown (ground.locate path)) ∨
    ∃ fault, answer = .error fault ∧
      own.Refuses (.makeDirectories path) (before.IsOpen (ground.locate path)) fault ∧
      before.GrownTo (ground.locate path) after := by
  cases takes with
  | told _ isRemark => cases isRemark
  | treeMade grants => exact .inl ⟨rfl, grants, rfl⟩
  | treeRefused refuses grown => exact .inr ⟨_, rfl, refuses, grown⟩

/-- Whether it is refused or not, making a directory makes missing ones at most. -/
theorem grownTo_of_makeDirectories
    {path : Path}
    {answer : Except IoFault Unit}
    (takes : Takes ground own ⟨.makeDirectories path, answer⟩ before after) :
    before.GrownTo (ground.locate path) after := by
  rcases takes.makeDirectories with ⟨_, _, rfl⟩ | ⟨_, _, _, grown⟩
  · exact before.grownTo_grown _
  · exact grown

theorem makeScoped
    {parent : Option Path}
    {stem : String}
    {answer : Except IoFault Path}
    (takes : Takes ground own ⟨.makeScoped parent stem, answer⟩ before after) :
    (∃ path, answer = .ok path ∧
      own.Grants (.makeScoped parent stem) (before (ground.base parent) = some .directory) ∧
      (∃ name, ground.locate path = ground.base parent ++ [name]) ∧
      (∀ other, ground.locate path <+: other → before other = none) ∧
      after = before.put (ground.locate path) .directory) ∨
    ∃ fault, answer = .error fault ∧
      own.Refuses (.makeScoped parent stem) (before (ground.base parent) = some .directory) fault ∧
      after = before := by
  cases takes with
  | told _ isRemark => cases isRemark
  | scopedMade grants named fresh =>
      obtain ⟨ending, _, isName⟩ := named
      exact .inl ⟨_, rfl, grants, ⟨_, isName⟩, fresh, rfl⟩
  | scopedRefused refuses => exact .inr ⟨_, rfl, refuses, rfl⟩

theorem writeFile
    {path : Path}
    {content : Bytes}
    {answer : Except IoFault Unit}
    (takes : Takes ground own ⟨.writeFile path content, answer⟩ before after) :
    ∃ there?, own.store path content (before (ground.locate path)) = (answer, there?) ∧
      after = before.set (ground.locate path) there? := by
  cases takes with
  | told _ isRemark => cases isRemark
  | stored comes => exact ⟨_, comes, rfl⟩

theorem run
    {command : Command}
    {answer : Except IoFault CommandEnd}
    (takes : Takes ground own ⟨.run command, answer⟩ before after) :
    ∃ below, own.run command (before.inside (ground.locate command.directory)) = (answer, below) ∧
      after = before.refurnished (ground.locate command.directory) below := by
  cases takes with
  | told _ isRemark => cases isRemark
  | ran comes => exact ⟨_, comes, rfl⟩

theorem runWithin
    {command : Command}
    {secs : UInt64}
    {answer : Except IoFault (Option CommandEnd)}
    (takes : Takes ground own ⟨.runWithin command secs, answer⟩ before after) :
    ∃ below,
      own.runWithin command secs (before.inside (ground.locate command.directory)) =
        (answer, below) ∧
      after = before.refurnished (ground.locate command.directory) below := by
  cases takes with
  | told _ isRemark => cases isRemark
  | ranWithin comes => exact ⟨_, comes, rfl⟩

theorem removeTree
    {path : Path}
    {answer : Unit}
    (takes : Takes ground own ⟨.removeTree path, answer⟩ before after) :
    after = before.without (ground.locate path) := by
  cases takes with
  | told _ isRemark => cases isRemark
  | removed => rfl

end Takes

end InterfaceAudit
