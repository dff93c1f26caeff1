import Mathlib.Data.List.Infix
import InterfaceAudit.Proofs.Host.Files

/-!
Contract: a host that keeps files in memory, and has no programs.

Owns:
- paths read as the names between their slashes;
- the host, which grants what is asked about files where a directory is there for it;
- the law that it keeps files.

Does not own: links, rights, or time.
-/

namespace InterfaceAudit

/-! ## Places of paths -/

/-- The names between the slashes of a path. -/
def namesOf (bytes : Bytes) : Location :=
  (bytes.splitOnP (· == 0x2F)).filter fun name => !name.isEmpty

theorem namesOf_append_slash (first second : Bytes) :
    namesOf (first ++ 0x2F :: second) = namesOf first ++ namesOf second := by
  unfold namesOf
  rw [List.splitOnP_append_cons first second (by decide), List.filter_append]

/-- Every character of a plain name is one byte, and that is no slash. -/
theorem utf8EncodeChar_mark
    {c : Char}
    (isMark : c.isAlphanum = true ∨ c = '_' ∨ c = '-' ∨ c = '.') :
    ∃ byte : UInt8, String.utf8EncodeChar c = [byte] ∧ byte ≠ 0x2F := by
  have isSmall : c.val.toNat ≤ 127 ∧ c.val.toNat ≠ 0x2F := by
    rcases isMark with isAlphanum | rfl | rfl | rfl
    · rw [isAlphanum_iff] at isAlphanum
      simp only [Char.le_def, UInt32.le_iff_toNat_le] at isAlphanum
      have zero : '0'.val.toNat = 48 := rfl
      have nine : '9'.val.toNat = 57 := rfl
      have upperFirst : 'A'.val.toNat = 65 := rfl
      have upperLast : 'Z'.val.toNat = 90 := rfl
      have lowerFirst : 'a'.val.toNat = 97 := rfl
      have lowerLast : 'z'.val.toNat = 122 := rfl
      omega
    all_goals decide
  refine ⟨UInt8.ofNat c.val.toNat, if_pos isSmall.1, fun same => isSmall.2 ?_⟩
  have isByte : (UInt8.ofNat c.val.toNat).toNat = c.val.toNat := by
    rw [UInt8.toNat_ofNat']
    omega
  rw [← isByte, same]
  rfl

/-- A plain name is written without slashes, and not with nothing. -/
theorem ofString_plainName {name : String} (isPlain : IsPlainName name) :
    Utf8.ofString name ≠ [] ∧ ∀ byte ∈ Utf8.ofString name, byte ≠ 0x2F := by
  obtain ⟨isSome, _, _, areMarks⟩ := isPlain
  constructor
  · intro isEmpty
    cases isList : name.toList with
    | nil => exact isSome (String.toList_eq_nil_iff.mp isList)
    | cons c rest =>
        obtain ⟨byte, isByte, _⟩ := utf8EncodeChar_mark (areMarks c (isList ▸ List.mem_cons_self))
        rw [Utf8.ofString, Utf8.encode, isList, List.flatMap_cons, isByte] at isEmpty
        cases isEmpty
  · intro byte member
    obtain ⟨c, isChar, isByte⟩ := List.mem_flatMap.mp member
    obtain ⟨only, isOnly, noSlash⟩ := utf8EncodeChar_mark (areMarks c isChar)
    rw [isOnly] at isByte
    rw [List.mem_singleton.mp isByte]
    exact noSlash

/-- A plain name is one name. -/
theorem namesOf_plainName {name : String} (isPlain : IsPlainName name) :
    namesOf (Utf8.ofString name) = [Utf8.ofString name] := by
  obtain ⟨isSome, noSlash⟩ := ofString_plainName isPlain
  unfold namesOf
  rw [List.splitOnP_eq_singleton fun byte member => beq_false_of_ne (noSlash byte member)]
  exact List.filter_cons_of_pos (by simpa using isSome)

/-- A plain name below a path is one name more. -/
theorem namesOf_child (path : Path) {name : String} (isPlain : IsPlainName name) :
    namesOf (path.child name).bytes = namesOf path.bytes ++ [Utf8.ofString name] := by
  have isName := namesOf_plainName isPlain
  obtain ⟨isSome, noSlash⟩ := ofString_plainName isPlain
  have isRelative : (Path.ofString name).isAbsolute = false := by
    unfold Path.isAbsolute Path.ofString
    cases isBytes : Utf8.ofString name with
    | nil => rfl
    | cons first rest =>
        exact beq_false_of_ne (noSlash first (isBytes ▸ List.mem_cons_self))
  -- A path that is empty, one that ends in a slash, and any other.
  unfold Path.child Path.join
  rw [if_neg (by rw [isRelative]; exact Bool.false_ne_true)]
  split
  case isTrue isEmpty =>
    rw [List.isEmpty_iff.mp isEmpty]
    exact isName
  case isFalse =>
    split
    case isTrue isSlashed =>
      obtain ⟨above, isAbove⟩ := List.getLast?_eq_some_iff.mp (beq_iff_eq.mp isSlashed)
      have isWhole : path.bytes ++ (Path.ofString name).bytes =
          above ++ 0x2F :: Utf8.ofString name := by
        rw [isAbove, List.append_assoc]
        rfl
      have isBase : namesOf path.bytes = namesOf above := by
        rw [isAbove, namesOf_append_slash]
        exact List.append_nil _
      rw [isWhole, namesOf_append_slash, isName, isBase]
    case isFalse =>
      show namesOf (path.bytes ++ 0x2F :: Utf8.ofString name) = _
      rw [namesOf_append_slash, isName]

/-! ## The host -/

/-- Files held in memory, the last one put first. -/
abbrev Memory := List (Location × Entry)

namespace Memory

def files (memory : Memory) : Files := fun place => memory.lookup place

/-- Makes the directories that are missing on the way to a place. -/
def growTo (memory : Memory) (place : Location) : Memory :=
  (place.inits.filter fun way => (memory.lookup way).isNone).map (·, .directory) ++ memory

def remove (memory : Memory) (place : Location) : Memory :=
  memory.filter fun held => !place.isPrefixOf held.1

def holdsBelow (memory : Memory) (place : Location) : Bool :=
  memory.any fun held => place.isPrefixOf held.1

def read (memory : Memory) (place : Location) : Except IoFault Bytes :=
  match memory.files place with
  | some (.file content) => .ok content
  | some .directory => .error (.system .isADirectory)
  | none => .error (.system .notFound)

/-- The path of a directory to be made, which always ends in the same way. -/
def scopedPath (parent : Option Path) (stem : String) : Path :=
  (parent.getD (Path.ofString "/tmp")).child (stem ++ "000000")

def host : Host Memory where
  answer
    | .clock, memory => ((0 : Nat), memory)
    | .makeDirectories path, memory => (.ok (), memory.growTo (namesOf path.bytes))
    | .makeScoped parent stem, memory =>
        let path := scopedPath parent stem
        if memory.holdsBelow (namesOf path.bytes) then (.error (.system .exists), memory)
        else (.ok path, (namesOf path.bytes, .directory) :: memory)
    | .removeTree path, memory => ((), memory.remove (namesOf path.bytes))
    | .readFile path, memory => (memory.read (namesOf path.bytes), memory)
    | .writeFile path content, memory =>
        let place := namesOf path.bytes
        if memory.files place.dropLast = some .directory then
          (.ok (), (place, .file content) :: memory)
        else (.error (.system .notFound), memory)
    | .run _, memory => (.error (.system .notFound), memory)
    | .runWithin _ _, memory => (.error (.system .notFound), memory)
    | .log _, memory => ((), memory)
    | .collect _, memory => ((), memory)
    | .print _, memory => ((), memory)

/-! ## The laws of the host -/

theorem files_put (memory : Memory) (place : Location) (entry : Entry) :
    files ((place, entry) :: memory) = memory.files.put place entry := by
  funext other
  unfold files Files.put
  rw [List.lookup_cons]
  by_cases same : other = place
  · rw [beq_iff_eq.mpr same, if_pos same]
  · rw [beq_false_of_ne same, if_neg same]

theorem files_remove (memory : Memory) (place : Location) :
    (memory.remove place).files = memory.files.without place := by
  induction memory with
  | nil =>
      funext other
      exact (ite_self none).symm
  | cons held memory inductionHypothesis =>
      obtain ⟨spot, entry⟩ := held
      funext other
      unfold remove at inductionHypothesis ⊢
      rw [files_put]
      by_cases isBelow : place <+: spot
      · have isPrefix := List.isPrefixOf_iff_prefix.mpr isBelow
        rw [List.filter_cons_of_neg (by simp [isPrefix]), inductionHypothesis]
        unfold Files.without
        split
        case isTrue => rfl
        case isFalse isElsewhere =>
          refine (Files.put_of_ne (files memory) ?_ entry).symm
          rintro rfl
          exact isElsewhere isBelow
      · have noPrefix := Bool.eq_false_iff.mpr (mt List.isPrefixOf_iff_prefix.mp isBelow)
        rw [List.filter_cons_of_pos (by simp [noPrefix]), files_put, inductionHypothesis]
        unfold Files.without Files.put
        by_cases same : other = spot
        · rw [if_pos same, if_pos same, same, if_neg isBelow]
        · rw [if_neg same, if_neg same]

theorem files_directories (ways : List Location) (memory : Memory) (other : Location) :
    files (ways.map (·, .directory) ++ memory) other =
      if other ∈ ways then some .directory else memory.files other := by
  induction ways with
  | nil => rfl
  | cons way ways inductionHypothesis =>
      rw [List.map_cons, List.cons_append, files_put]
      unfold Files.put
      rw [inductionHypothesis]
      by_cases same : other = way
      · rw [if_pos same, if_pos (same ▸ List.mem_cons_self)]
      · rw [if_neg same]
        simp only [List.mem_cons, same, false_or]

theorem grownTo_growTo (memory : Memory) (place : Location) :
    memory.files.GrownTo place (memory.growTo place).files := by
  intro other
  unfold growTo
  rw [files_directories]
  split
  case isTrue member =>
    obtain ⟨isWay, isMissing⟩ := List.mem_filter.mp member
    exact .inr ⟨(List.mem_inits _ _).mp isWay, Option.isNone_iff_eq_none.mp isMissing, rfl⟩
  case isFalse => exact .inl rfl

theorem fresh_of_holdsBelow
    {memory : Memory}
    {place : Location}
    (isFree : memory.holdsBelow place = false) :
    ∀ other, place <+: other → memory.files other = none := by
  intro other isBelow
  refine List.lookup_eq_none_iff.mpr fun held member => ?_
  have notBelow := List.any_eq_false.mp isFree held member
  refine bne_iff_ne.mpr ?_
  rintro rfl
  exact notBelow (List.isPrefixOf_iff_prefix.mpr isBelow)

/-- The host keeps files, at the places that the names of paths lead to. -/
def filing : Filing host where
  locate path := namesOf path.bytes
  locate_child path _ := namesOf_child path
  files := files
  changes request memory := by
    cases request with
    | makeDirectories path => exact .directoriesMade (memory.grownTo_growTo _)
    | makeScoped parent stem =>
        unfold host
        dsimp only
        split
        case isTrue isTaken => exact .scopedRefused _ _
        case isFalse isFree =>
          rw [files_put]
          refine .scopedMade ?_ (fresh_of_holdsBelow (Bool.eq_false_iff.mpr isFree))
          rintro root rfl
          exact ⟨"000000", List.all_eq_true.mp (by decide), rfl⟩
    | removeTree path =>
        show Exchange.Changes _ _ memory.files (memory.remove (namesOf path.bytes)).files
        rw [files_remove]
        exact .treeRemoved _ _
    | writeFile path content =>
        unfold host
        dsimp only
        split
        case isTrue =>
          rw [files_put]
          exact .written _ _ _
        case isFalse => exact .unwritten _ fun _ _ => rfl
    | clock | readFile _ | run _ | runWithin _ _ | log _ | collect _ | print _ =>
        exact .nothing _ (by trivial) _

end Memory

end InterfaceAudit
