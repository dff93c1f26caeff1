import InterfaceAudit.Proofs.Host.Exchanges

/-!
Contract: the files of a host, and what becomes of them by what is asked of it.

Owns:
- files by their places, and the places that are found by plain names below a path;
- what each exchange changes, where directories of fresh names are fresh and empty,
  removal removes, and a command that is run changes nothing;
- hosts that keep files by these laws, and how exchanges make files evolve;
- requests that stay in a directory, with the law that nothing changes outside it.

Does not own: which requests are made.
-/

namespace InterfaceAudit

/-! ## Files -/

/-- Where something stands in a file system: the names on the way to it. -/
abbrev Location := List Bytes

/-- What stands at a place. -/
inductive Entry where
  | directory
  | file (content : Bytes)
deriving DecidableEq, Repr

/-- All that stands in a file system. -/
abbrev Files := Location → Option Entry

namespace Files

def put (files : Files) (place : Location) (entry : Entry) : Files := fun other =>
  if other = place then some entry else files other

/-- Files without a place and all below it. -/
def without (files : Files) (place : Location) : Files := fun other =>
  if place <+: other then none else files other

@[simp] theorem put_self (files : Files) (place : Location) (entry : Entry) :
    files.put place entry place = some entry :=
  if_pos rfl

theorem put_of_ne
    (files : Files)
    {place other : Location}
    (differs : other ≠ place)
    (entry : Entry) :
    files.put place entry other = files other :=
  if_neg differs

theorem without_below (files : Files) {place other : Location} (isBelow : place <+: other) :
    files.without place other = none :=
  if_pos isBelow

theorem without_elsewhere
    (files : Files)
    {place other : Location}
    (isElsewhere : ¬place <+: other) :
    files.without place other = files other :=
  if_neg isElsewhere

/-- The same files, but for directories made on the way to a place. -/
def GrownTo (place : Location) (before after : Files) : Prop :=
  ∀ other, after other = before other ∨
    (other <+: place ∧ before other = none ∧ after other = some .directory)

theorem GrownTo.refl (place : Location) (files : Files) : files.GrownTo place files :=
  fun _ => .inl rfl

/-- What is not there after files have grown was not there before. -/
theorem GrownTo.eq_none
    {place : Location}
    {before after : Files}
    (grown : before.GrownTo place after)
    {other : Location}
    (isNone : after other = none) :
    before other = none := by
  rcases grown other with same | ⟨_, wasNone, _⟩
  · exact same.symm.trans isNone
  · exact wasNone

/-- Files that have grown, and were then changed only below a place where nothing
stood, have only grown but for that place. -/
theorem GrownTo.without
    {base place : Location}
    {before ground current : Files}
    (grown : before.GrownTo base ground)
    (fresh : ∀ other, place <+: other → ground other = none)
    (elsewhere : ∀ other, ¬place <+: other → current other = ground other) :
    before.GrownTo base (current.without place) := by
  intro other
  by_cases isBelow : place <+: other
  · exact .inl ((current.without_below isBelow).trans (grown.eq_none (fresh other isBelow)).symm)
  · rw [current.without_elsewhere isBelow, elsewhere other isBelow]
    exact grown other

end Files

/-- Letters and digits are those of the ASCII ranges. -/
theorem isAlphanum_iff (c : Char) :
    c.isAlphanum = true ↔
      ('A' ≤ c ∧ c ≤ 'Z') ∨ ('a' ≤ c ∧ c ≤ 'z') ∨ ('0' ≤ c ∧ c ≤ '9') := by
  have isRanges : c.isAlphanum =
      ((decide (c.val ≥ 'A'.val ∧ c.val ≤ 'Z'.val) ||
        (decide (c.val ≥ 'a'.val) && decide (c.val ≤ 'z'.val))) ||
          (decide (c.val ≥ '0'.val) && decide (c.val ≤ '9'.val))) := rfl
  rw [isRanges]
  simp only [Bool.or_eq_true, Bool.and_eq_true, decide_eq_true_eq, or_assoc]
  exact Iff.rfl

/-- A name of one part: letters, digits and a few marks, but no step up or in place. -/
def IsPlainName (name : String) : Prop :=
  name ≠ "" ∧ name ≠ "." ∧ name ≠ ".." ∧
    ∀ c ∈ name.toList, c.isAlphanum = true ∨ c = '_' ∨ c = '-' ∨ c = '.'

instance (name : String) : Decidable (IsPlainName name) :=
  decidable_of_iff
    (name ≠ "" ∧ name ≠ "." ∧ name ≠ ".." ∧
      (name.toList.all fun c => c.isAlphanum || c == '_' || c == '-' || c == '.') = true) (by
    simp only [IsPlainName, List.all_eq_true, Bool.or_eq_true, beq_iff_eq, or_assoc])

/-! ## What an exchange changes -/

/-- Whether a request changes no files. The commands that are run change none. -/
def Request.LeavesFiles : Request → Prop
  | .makeDirectories _ | .makeScoped _ _ | .removeTree _ | .writeFile _ _ => False
  | _ => True

/-- What an exchange makes of files, where paths lead to places. -/
inductive Exchange.Changes (locate : Path → Location) : Exchange → Files → Files → Prop where
  /-- Missing directories are made on the way to the path, perhaps not all of them. -/
  | directoriesMade {path : Path} {answer : Except IoFault Unit} {before after : Files}
      (grown : before.GrownTo (locate path) after) :
      Changes locate ⟨.makeDirectories path, answer⟩ before after
  /-- A directory is made whose name is the stem with letters and digits behind it,
  at a place where nothing stood. -/
  | scopedMade {parent : Option Path} {stem : String} {path : Path} {files : Files}
      (named : ∀ root, parent = some root → ∃ ending : String,
        (∀ c ∈ ending.toList, c.isAlphanum = true) ∧
        locate path = locate (root.child (stem ++ ending)))
      (fresh : ∀ other, locate path <+: other → files other = none) :
      Changes locate ⟨.makeScoped parent stem, (.ok path : Except IoFault Path)⟩ files
        (files.put (locate path) .directory)
  | scopedRefused {parent : Option Path} {stem : String} (fault : IoFault) (files : Files) :
      Changes locate ⟨.makeScoped parent stem, (.error fault : Except IoFault Path)⟩ files files
  | treeRemoved (path : Path) (files : Files) :
      Changes locate ⟨.removeTree path, ()⟩ files (files.without (locate path))
  | written (path : Path) (content : Bytes) (files : Files) :
      Changes locate ⟨.writeFile path content, (.ok () : Except IoFault Unit)⟩ files
        (files.put (locate path) (.file content))
  /-- A file that cannot be written may be left in any state. -/
  | unwritten {path : Path} {content : Bytes} (fault : IoFault) {before after : Files}
      (elsewhere : ∀ other, other ≠ locate path → after other = before other) :
      Changes locate ⟨.writeFile path content, (.error fault : Except IoFault Unit)⟩ before after
  | nothing {request : Request} (answer : request.Answer) (leaves : request.LeavesFiles)
      (files : Files) :
      Changes locate ⟨request, answer⟩ files files

/-- Where a request leaves files as they are, they are the same after it. -/
theorem Exchange.Changes.eq_of_leavesFiles
    {locate : Path → Location}
    {exchange : Exchange}
    {before after : Files}
    (changes : exchange.Changes locate before after)
    (leaves : exchange.request.LeavesFiles) :
    after = before := by
  cases changes with
  | directoriesMade grown => cases leaves
  | scopedMade named fresh => cases leaves
  | scopedRefused fault => cases leaves
  | treeRemoved path => cases leaves
  | written path content => cases leaves
  | unwritten fault elsewhere => cases leaves
  | nothing answer leaves => rfl

/-- What exchanges make of files, one after the other. -/
inductive Evolves (locate : Path → Location) : List Exchange → Files → Files → Prop where
  | nil (files : Files) : Evolves locate [] files files
  | cons {exchange : Exchange} {exchanges : List Exchange} {before between after : Files}
      (changes : exchange.Changes locate before between)
      (rest : Evolves locate exchanges between after) :
      Evolves locate (exchange :: exchanges) before after

theorem evolves_nil {locate : Path → Location} {before after : Files} :
    Evolves locate [] before after ↔ after = before := by
  constructor
  · intro evolves
    cases evolves
    rfl
  · rintro rfl
    exact .nil after

theorem evolves_cons
    {locate : Path → Location}
    {exchange : Exchange}
    {exchanges : List Exchange}
    {before after : Files} :
    Evolves locate (exchange :: exchanges) before after ↔
      ∃ between, exchange.Changes locate before between ∧
        Evolves locate exchanges between after := by
  constructor
  · intro evolves
    cases evolves with
    | cons changes rest => exact ⟨_, changes, rest⟩
  · rintro ⟨between, changes, rest⟩
    exact .cons changes rest

theorem evolves_append
    {locate : Path → Location}
    {first second : List Exchange}
    {before after : Files} :
    Evolves locate (first ++ second) before after ↔
      ∃ between, Evolves locate first before between ∧ Evolves locate second between after := by
  induction first generalizing before with
  | nil =>
      rw [List.nil_append]
      constructor
      · intro evolves
        exact ⟨before, .nil before, evolves⟩
      · rintro ⟨between, isStart, evolves⟩
        rw [evolves_nil.mp isStart] at evolves
        exact evolves
  | cons exchange exchanges inductionHypothesis =>
      rw [List.cons_append, evolves_cons]
      constructor
      · rintro ⟨first, changes, rest⟩
        obtain ⟨between, early, late⟩ := inductionHypothesis.mp rest
        exact ⟨between, .cons changes early, late⟩
      · rintro ⟨between, early, late⟩
        obtain ⟨first, changes, rest⟩ := evolves_cons.mp early
        exact ⟨first, changes, inductionHypothesis.mpr ⟨between, rest, late⟩⟩

/-! ## Staying in a directory -/

/-- Whether a request changes at most files of plain names right below a directory. -/
def Request.StaysIn (directory : Path) : Request → Prop
  | .writeFile path _ => ∃ name, IsPlainName name ∧ path = directory.child name
  | request => request.LeavesFiles

/-- Whether an action, however it is answered, changes at most files of plain
names right below a directory. -/
def Action.StaysIn {α : Type} (directory : Path) (action : Action α) : Prop :=
  action.Leads fun exchanges _ => ∀ exchange ∈ exchanges, exchange.request.StaysIn directory

/-- Whether what was to be written has been written. -/
def Exchange.IsStored : Exchange → Prop
  | ⟨.writeFile _ _, answer⟩ => answer = .ok ()
  | _ => True

instance : DecidablePred Exchange.IsStored
  | ⟨.writeFile _ _, .ok ()⟩ => .isTrue rfl
  | ⟨.writeFile _ _, .error _⟩ => .isFalse nofun
  | ⟨.clock, _⟩ | ⟨.makeDirectories _, _⟩ | ⟨.makeScoped _ _, _⟩ | ⟨.removeTree _, _⟩
  | ⟨.readFile _, _⟩ | ⟨.run _, _⟩ | ⟨.runWithin _ _, _⟩ | ⟨.log _, _⟩ | ⟨.collect _, _⟩
  | ⟨.print _, _⟩ => .isTrue trivial

theorem Request.LeavesFiles.staysIn
    {request : Request}
    (leaves : request.LeavesFiles)
    (directory : Path) :
    request.StaysIn directory := by
  cases request with
  | writeFile _ _ => cases leaves
  | clock | makeDirectories _ | makeScoped _ _ | removeTree _ | readFile _ | run _
  | runWithin _ _ | log _ | collect _ | print _ => exact leaves

theorem Exchange.Changes.eq_of_staysIn
    {locate : Path → Location}
    (locate_child : ∀ (path : Path) (name : String), IsPlainName name →
      locate (path.child name) = locate path ++ [Utf8.ofString name])
    {exchange : Exchange}
    {before after : Files}
    (changes : exchange.Changes locate before after)
    {directory : Path}
    (stays : exchange.request.StaysIn directory)
    {other : Location}
    (isElsewhere : locate directory <+: other → other = locate directory) :
    after other = before other := by
  -- What stands right below the directory is neither the directory nor outside it.
  have differs {path : Path} (named : ∃ name, IsPlainName name ∧ path = directory.child name) :
      other ≠ locate path := by
    obtain ⟨name, isPlain, rfl⟩ := named
    rintro rfl
    rw [locate_child directory name isPlain] at isElsewhere
    have longer := congrArg List.length (isElsewhere (List.prefix_append _ _))
    simp only [List.length_append, List.length_singleton] at longer
    omega
  cases changes with
  | directoriesMade grown => cases stays
  | scopedMade named fresh => cases stays
  | scopedRefused fault => cases stays
  | treeRemoved path => cases stays
  | written path content => exact before.put_of_ne (differs stays) _
  | unwritten fault elsewhere => exact elsewhere other (differs stays)
  | nothing answer leaves => rfl

theorem Evolves.eq_of_leavesFiles
    {locate : Path → Location}
    {exchanges : List Exchange}
    {before after : Files}
    (evolves : Evolves locate exchanges before after)
    (leave : ∀ exchange ∈ exchanges, exchange.request.LeavesFiles) :
    after = before := by
  induction evolves with
  | nil files => rfl
  | cons changes rest inductionHypothesis =>
      obtain ⟨first, others⟩ := List.forall_mem_cons.mp leave
      exact (inductionHypothesis others).trans (changes.eq_of_leavesFiles first)

/-- What stays in a directory changes nothing outside it, and not the directory. -/
theorem Evolves.eq_of_staysIn
    {locate : Path → Location}
    (locate_child : ∀ (path : Path) (name : String), IsPlainName name →
      locate (path.child name) = locate path ++ [Utf8.ofString name])
    {exchanges : List Exchange}
    {before after : Files}
    (evolves : Evolves locate exchanges before after)
    {directory : Path}
    (stays : ∀ exchange ∈ exchanges, exchange.request.StaysIn directory)
    {other : Location}
    (isElsewhere : locate directory <+: other → other = locate directory) :
    after other = before other := by
  induction evolves with
  | nil files => rfl
  | cons changes rest inductionHypothesis =>
      obtain ⟨first, others⟩ := List.forall_mem_cons.mp stays
      exact (inductionHypothesis others).trans
        (changes.eq_of_staysIn locate_child first isElsewhere)

/-! ## What is written -/

def Request.write? : Request → Option (Path × Bytes)
  | .writeFile path content => some (path, content)
  | _ => none

/-- What is written to files, in order. -/
def writes (exchanges : List Exchange) : List (Path × Bytes) :=
  exchanges.filterMap fun exchange => exchange.request.write?

theorem writes_append (first second : List Exchange) :
    writes (first ++ second) = writes first ++ writes second :=
  List.filterMap_append

theorem writes_map_within (span : Log.Span) (exchanges : List Exchange) :
    writes (exchanges.map (Exchange.within span)) = writes exchanges := by
  unfold writes
  rw [List.filterMap_map]
  congr 1
  funext ⟨request, answer⟩
  cases request <;> rfl

theorem writes_of_leavesFiles
    {exchanges : List Exchange}
    (leave : ∀ exchange ∈ exchanges, exchange.request.LeavesFiles) :
    writes exchanges = [] :=
  List.filterMap_eq_nil_iff.mpr fun exchange member => by
    obtain ⟨request, answer⟩ := exchange
    have leaves := leave _ member
    cases request with
    | writeFile _ _ => cases leaves
    | clock | makeDirectories _ | makeScoped _ _ | removeTree _ | readFile _ | run _
    | runWithin _ _ | log _ | collect _ | print _ => rfl

/-- Files after something was written, each where its path leads to. -/
def Files.after (files : Files) (locate : Path → Location) (written : List (Path × Bytes)) :
    Files :=
  written.foldl (fun files write => files.put (locate write.1) (.file write.2)) files

theorem Files.after_append
    (files : Files)
    (locate : Path → Location)
    (first second : List (Path × Bytes)) :
    files.after locate (first ++ second) = (files.after locate first).after locate second :=
  List.foldl_append

/-- What stands at a place after one file was written, or none. -/
theorem Files.after_toList
    (files : Files)
    (locate : Path → Location)
    (path : Path)
    (text? : Option Bytes)
    (place : Location) :
    files.after locate (text?.map fun text => (path, text)).toList place =
      if place = locate path then (text?.map Entry.file).or (files place) else files place := by
  cases text? with
  | none => exact (ite_self _).symm
  | some text => rfl

/-- A span around what is logged has nothing to do with what is stored. -/
theorem Exchange.isStored_within {span : Log.Span} {exchange : Exchange} :
    (exchange.within span).IsStored ↔ exchange.IsStored := by
  obtain ⟨request, answer⟩ := exchange
  cases request <;> rfl

theorem Exchange.Changes.eq_after
    {locate : Path → Location}
    {exchange : Exchange}
    {before after : Files}
    (changes : exchange.Changes locate before after)
    {directory : Path}
    (stays : exchange.request.StaysIn directory)
    (stored : exchange.IsStored) :
    after = before.after locate (writes [exchange]) := by
  cases changes with
  | directoriesMade grown => cases stays
  | scopedMade named fresh => cases stays
  | scopedRefused fault => cases stays
  | treeRemoved path => cases stays
  | written path content => rfl
  | unwritten fault elsewhere => cases stored
  | nothing answer leaves =>
      rename_i request
      cases request with
      | writeFile path content => cases leaves
      | clock | makeDirectories _ | makeScoped _ _ | removeTree _ | readFile _ | run _
      | runWithin _ _ | log _ | collect _ | print _ => rfl

/-- Where all that was to be written has been written, that is all that has changed. -/
theorem Evolves.eq_after
    {locate : Path → Location}
    {exchanges : List Exchange}
    {before after : Files}
    (evolves : Evolves locate exchanges before after)
    {directory : Path}
    (stays : ∀ exchange ∈ exchanges, exchange.request.StaysIn directory)
    (stored : ∀ exchange ∈ exchanges, exchange.IsStored) :
    after = before.after locate (writes exchanges) := by
  induction evolves with
  | nil files => rfl
  | cons changes rest inductionHypothesis =>
      rename_i exchange exchanges before between after
      obtain ⟨firstStays, othersStay⟩ := List.forall_mem_cons.mp stays
      obtain ⟨firstStored, othersStored⟩ := List.forall_mem_cons.mp stored
      rw [inductionHypothesis othersStay othersStored, changes.eq_after firstStays firstStored]
      have whole : writes (exchange :: exchanges) = writes [exchange] ++ writes exchanges :=
        writes_append [exchange] exchanges
      rw [whole]
      exact List.foldl_append.symm

/-! ## Hosts that keep files -/

/-- How a host keeps files: where its paths lead to, what stands there in each of
its states, and that every answer it gives changes this by the laws. -/
structure Filing {σ : Type} (host : Host σ) where
  locate : Path → Location
  locate_child : ∀ (path : Path) (name : String), IsPlainName name →
    locate (path.child name) = locate path ++ [Utf8.ofString name]
  files : σ → Files
  changes : ∀ (request : Request) (state : σ),
    Exchange.Changes locate ⟨request, (host.answer request state).1⟩ (files state)
      (files (host.answer request state).2)

namespace Filing

variable {σ : Type} {host : Host σ}

def inside (filing : Filing host) (span : Log.Span) : Filing (host.inside span) where
  locate := filing.locate
  locate_child := filing.locate_child
  files := filing.files
  changes request state := by
    cases request with
    | log event =>
        have same := (filing.changes (.log (event.within span)) state).eq_of_leavesFiles trivial
        show Exchange.Changes filing.locate _ (filing.files state)
          (filing.files (host.answer (.log (event.within span)) state).2)
        rw [same]
        have leaves : (Request.log event).LeavesFiles := trivial
        exact .nothing _ leaves _
    | clock | makeDirectories _ | makeScoped _ _ | removeTree _ | readFile _ | writeFile _ _
    | run _ | runWithin _ _ | collect _ | print _ => exact filing.changes _ state

/-- Carrying out an action makes the files of a host evolve by its exchanges. -/
theorem evolves_runOn {α : Type} (filing : Filing host) (action : Action α) (state : σ) :
    Evolves filing.locate (action.exchanges host state) (filing.files state)
      (filing.files (action.runOn host state).2) := by
  induction action generalizing state with
  | done result => exact .nil _
  | ask request next inductionHypothesis =>
      exact .cons (filing.changes request state) (inductionHypothesis _ _)

end Filing

end InterfaceAudit
