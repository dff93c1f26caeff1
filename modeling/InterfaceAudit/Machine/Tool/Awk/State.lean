import Std.Data.HashMap
import InterfaceAudit.Machine.Tool.Awk.Scanner
import InterfaceAudit.Machine.Tool.Processes

/-!
Contract: what rules hold while they are run.

Owns:
- values, which are texts and numbers at once, and tables of them;
- variables, the record and its fields;
- separators of fields and of records;
- the order in which the names of a table are gone through.

Does not own: expressions and statements.
-/

namespace InterfaceAudit.Tool.Awk

/-! ## Values -/

inductive Value where
  | unset
  | number (value : Measure)
  | text (text : Octets)
  /-- A text from outside, which counts as a number if it looks like one. -/
  | input (text : Octets)
deriving DecidableEq, Repr, Inhabited

def numberOfText (text : Octets) : Measure :=
  match Measure.read? text with
  | some (measure, _) => machineNumber measure
  | none => .ofInt 0

/-- The number that a text looks like as a whole. -/
def numberOfInput? (text : Octets) : Option Measure :=
  let trimmed := Octets.trim Octets.isSpace text
  let isDigital (c : Char) : Bool := c.isDigit || c == '.'
  let first := trimmed.headD ' '
  if !(isDigital first || first == '-' || first == '+') || !isDigital (trimmed.getLastD ' ') then none
  else
    match Measure.read? trimmed with
    | some (measure, []) => some (machineNumber measure)
    | _ => none

namespace Value

def ofBool (value : Bool) : Value := .number (.ofBool value)

def ofNat (value : Nat) : Value := .number (.ofNat value)

def toNumber : Value → Measure
  | .unset => .ofInt 0
  | .number value => value
  | .text held | .input held => numberOfText held

/-- The number that a value is compared as, if it is. -/
def comparedNumber? : Value → Option Measure
  | .unset => some (.ofInt 0)
  | .number value => some value
  | .text _ => none
  | .input held => numberOfInput? held

def isTrue : Value → Bool
  | .unset => false
  | .number value => !value.isZero
  | .text held => !held.isEmpty
  | .input held =>
      match numberOfInput? held with
      | some value => !value.isZero
      | none => !held.isEmpty

end Value

/-! ## Formats -/

/-- Why output under a format breaks off. -/
inductive Shortage where
  | noArgument
  /-- The directive of this number has no letter that is known. -/
  | badDirective (number : Nat)

/-- A number as one without a sign, bounded by what the machine holds. -/
def unsignedOf (value : Int) : Nat :=
  if value < 0 then
    (0x10000000000000000 - min value.natAbs 0x8000000000000000) % 0x10000000000000000
  else min value.toNat 0xffffffffffffffff

/-- A whole number as far as the machine holds it. -/
def wholeOf (number : Measure) : Int :=
  match number.whole? with
  | some value => max value (-0x8000000000000000)
  | none => if number.isNegative then -0x8000000000000000 else 0xffffffffffffffff

def numberText (format : Octets) (number : Measure) : Octets :=
  match number.wholeText? with
  | some digits => digits
  | none =>
      let front := format.takeWhile (· != '%')
      let directive := format.drop (front.length + 1)
      let flags := directive.takeWhile (['-', '+', ' ', '0', '#'].contains ·)
      let rest := directive.drop flags.length
      let width := rest.takeWhile Char.isDigit
      let rest := rest.drop width.length
      let (precision, rest) :=
        match rest with
        | '.' :: more =>
            let digits := more.takeWhile Char.isDigit
            (some (Octets.valueOf 10 digits), more.drop digits.length)
        | rest => (none, rest)
      match rest with
      | letter :: behind =>
          let form : Directive := { flags, width := Octets.natOf? width, precision, letter }
          let body :=
            if Directive.measureLetters.contains letter then form.measureText number
            else form.signedText (wholeOf number)
          front ++ body ++ behind
      | [] => format

/-- The text of a value, with a format for numbers that are not whole. -/
def Value.toText (format : Octets) : Value → Octets
  | .unset => []
  | .number value => numberText format value
  | .text held | .input held => held

def directiveText (convert : Octets) (directive : Directive) (value : Value) : Option Octets :=
  let letter := directive.letter
  if letter == 's' then
    let text := value.toText convert
    some (directive.pad (match directive.precision with
      | some precision => text.take precision
      | none => text))
  else if letter == 'c' then
    let char : Octets :=
      match value.comparedNumber?, value with
      | some number, _ => [charOf (unsignedOf (wholeOf number))]
      | none, value => [(value.toText convert).headD '\x00']
    some (directive.pad char)
  else if letter == 'd' || letter == 'i' then
    some (directive.signedText (min (wholeOf value.toNumber) 0xffffffffffffffff))
  else if Directive.unsignedLetters.contains letter then
    some (directive.unsignedText (unsignedOf (wholeOf value.toNumber)))
  else if Directive.measureLetters.contains letter then some (directive.measureText value.toNumber)
  else none

/-- Output under a format: the parts in reverse, and why it breaks off. -/
def formatted (convert : Octets) :
    Nat → Nat → Octets → List Value → List Octets → List Octets × Option Shortage
  | 0, _, _, _, parts => (parts, none)
  | fuel + 1, number, text, values, parts =>
      match text with
      | [] => (parts, none)
      | '%' :: '%' :: rest => formatted convert fuel number rest values (['%'] :: parts)
      | '%' :: rest =>
          let amount (text : Octets) (values : List Value) : Option Int × Octets × List Value :=
            match text, values with
            | '*' :: rest, value :: values => (value.toNumber.whole?, rest, values)
            | text, values =>
                let digits := text.takeWhile Char.isDigit
                ((Octets.natOf? digits).map Int.ofNat, text.drop digits.length, values)
          let flags := rest.takeWhile (['-', '+', ' ', '0', '#'].contains ·)
          let (width, rest, values) := amount (rest.drop flags.length) values
          let (precision, rest, values) :=
            match rest with
            | '.' :: rest =>
                let (precision, rest, values) := amount rest values
                (some (precision.getD 0), rest, values)
            | rest => (none, rest, values)
          let rest := rest.dropWhile (['l', 'L', 'h', 'q', 'j', 't', 'z'].contains ·)
          match values, rest with
          | [], _ => (parts, some .noArgument)
          | _, [] => (parts, some (.badDirective number))
          | value :: values, letter :: rest =>
              let directive : Directive := {
                flags := if width.any (· < 0) then '-' :: flags else flags
                width := width.map Int.natAbs
                precision := precision.bind fun value => if value < 0 then none else some value.toNat
                letter }
              match directiveText convert directive value with
              | some part => formatted convert fuel (number + 1) rest values (part :: parts)
              | none => (parts, some (.badDirective number))
      | text =>
          let plain := text.takeWhile (· != '%')
          formatted convert fuel number (text.drop plain.length) values (plain :: parts)

/-! ## Tables -/

/-- A number that spreads names over the lists of a table. -/
def spread (name : Octets) : Nat :=
  (name.foldl (fun (value : UInt32) c => (value ^^^ UInt32.ofNat c.toNat) * 16777619) 2166136261).toNat

structure Identifier where
  name : Octets
deriving DecidableEq, Repr

instance : Hashable Identifier where
  hash identifier := UInt64.ofNat (spread identifier.name)

structure Entry where
  value : Value
  /-- How many entries were made before it. -/
  serial : Nat
  number? : Option Nat

structure Table where
  entries : Std.HashMap Identifier Entry := {}
  next : Nat := 0

namespace Table

def set (table : Table) (name : Octets) (number? : Option Nat) (value : Value) : Table :=
  match table.entries[Identifier.mk name]? with
  | some entry => { table with entries := table.entries.insert ⟨name⟩ { entry with value } }
  | none =>
      { entries := table.entries.insert ⟨name⟩ { value, serial := table.next, number? }
        next := table.next + 1 }

/-- How many lists a table of a size has: enough for each to stay short. -/
def listCount (size : Nat) : Nat :=
  let rec grow : Nat → Nat → Nat
    | 0, count => count
    | fuel + 1, count => if 12 * count < size then grow fuel (2 * count) else count
  grow 40 64

/-- The names of a table in the order in which they are gone through: list by list;
those given as numbers come first in their list, as they are moved there in one
go, and of the others the latest comes first. -/
def names (table : Table) : List Octets :=
  let lists := listCount table.entries.size
  let marked := table.entries.toList.map fun (identifier, entry) =>
    (spread identifier.name % lists, entry, identifier.name)
  let before (x y : Nat × Entry × Octets) : Bool :=
    let (list, entry, _) := x
    let (otherList, other, _) := y
    if list != otherList then list < otherList
    else
      match entry.number?, other.number? with
      | some number, some otherNumber =>
          let place := number % lists
          let otherPlace := otherNumber % lists
          if place != otherPlace then otherPlace < place else entry.serial < other.serial
      | some _, none => true
      | none, some _ => false
      | none, none => other.serial < entry.serial
  (marked.mergeSort before).map fun mark => mark.2.2

end Table

/-! ## The state -/

/-- What a variable stands for. -/
inductive Cell where
  | value (value : Value)
  /-- The table of a number; it is shared by all that name the number. -/
  | table (number : Nat)
deriving Repr, Inhabited

/-- A file or command that is written to or read from. -/
structure Stream where
  name : Octets
  isRead : Bool
  handle : Nat
  /-- The process of the command. -/
  child : Option Nat := none
  source : LineSource

/-- What rules hold. -/
structure State where
  call : Call
  rules : Rules
  globals : Std.HashMap Identifier Cell := {}
  locals : List (Octets × Cell) := []
  tables : Std.HashMap Nat Table := {}
  nextTable : Nat := 0
  record : Octets := []
  /-- The fields, once they have been asked for. -/
  fields : Option (Array Value) := none
  /-- The separator of fields when the record was set. -/
  separator : Octets := [' ']
  streams : List Stream := []
  /-- The operand that is read. -/
  main : Option LineSource := none
  operand : Nat := 1
  /-- Whether any operand named a file. -/
  wasRead : Bool := false
  /-- How much room functions at work inside each other take up. -/
  depth : Nat := 0
  /-- The rules that are on their way to their last record. -/
  active : List Nat := []
  /-- Steps for which no time was spent yet. -/
  steps : Nat := 0
  seed : Nat := 0
  status : Nat := 0
  /-- Patterns that were read before. -/
  patterns : List (Octets × Pattern) := []

/-- Why the flow of statements is broken off. -/
inductive Stop where
  | next
  | nextFile
  | leftLoop
  | nextRound
  | returned (value : Value)
  | exited
  /-- An error ends all. -/
  | failed

abbrev Work := ExceptT Stop (StateT State Tool)

namespace Work

def act {α : Type} (task : Task α) : Work α := liftM (m := Tool) task

def tool {α : Type} (work : Tool α) : Work α := liftM work

def change (change : State → State) : Work Unit := modify change

def fail {α : Type} (text : String) : Work α := do
  let state ← get
  tool (state.call.remark text)
  set { state with status := 2 }
  throw .failed

/-- Text of a variable that all rules share, in the format for numbers that is
usual. -/
def shownOf (name : String) : Work String := do
  match (← get).globals[Identifier.mk name.toList]? with
  | some (.value value) => return (value.toText "%.6g".toList).shown
  | _ => return ""

/-- Ends all with a complaint that tells which record was at work. -/
def failHere {α : Type} (text : String) : Work α := do
  let state ← get
  tool (state.call.remark ("run time error: " ++ text))
  tool (warn (Octets.ofString
    ("\tFILENAME=\"" ++ (← shownOf "FILENAME") ++ "\" FNR=" ++ (← shownOf "FNR") ++ " NR=" ++
      (← shownOf "NR") ++ "\n")))
  set { state with status := 2 }
  throw .failed

/-- Counts a step, so that time passes. -/
def tick : Work Unit := do
  let state ← get
  if 64 ≤ state.steps then
    set { state with steps := 0 }
    act (Task.spend 64)
  else set { state with steps := state.steps + 1 }

/-! ## Variables -/

/-- What a variable stands for. -/
def cell? (name : Octets) : Work (Option Cell) := do
  let state ← get
  match state.locals.lookup name with
  | some cell => return some cell
  | none => return state.globals[Identifier.mk name]?

/-- Lets a variable stand for something. -/
def setCell (name : Octets) (cell : Cell) : Work Unit := change fun state =>
  if (state.locals.lookup name).isSome then
    { state with locals := state.locals.map fun held => if held.1 == name then (name, cell) else held }
  else { state with globals := state.globals.insert ⟨name⟩ cell }

def valueOf (name : Octets) : Work Value := do
  match ← cell? name with
  | some (.value value) => return value
  | _ => return .unset

def setValue (name : Octets) (value : Value) : Work Unit := setCell name (.value value)

/-- The format for numbers in texts. -/
def conversion : Work Octets := do
  match (← get).globals[Identifier.mk "CONVFMT".toList]? with
  | some (.value (.text held)) => return held
  | some (.value value) => return value.toText []
  | _ => return "%.6g".toList

/-- The text of a variable that all rules share. -/
def textOf (name : String) : Work Octets := do
  match (← get).globals[Identifier.mk name.toList]? with
  | some (.value value) => return value.toText (← conversion)
  | _ => return []

def setGlobal (name : String) (value : Value) : Work Unit := change fun state =>
  { state with globals := state.globals.insert ⟨name.toList⟩ (.value value) }

/-- Adds one to a variable that all rules share. -/
def countUp (name : String) : Work Unit := do
  match (← get).globals[Identifier.mk name.toList]? with
  | some (.value value) => setGlobal name (.number (value.toNumber.add (.ofInt 1)))
  | _ => setGlobal name (.ofNat 1)

def text (value : Value) : Work Octets := do
  match value with
  | .text held | .input held => return held
  | value => return value.toText (← conversion)

/-! ## Tables -/

/-- The number of the table that a name stands for; there is one from now on. -/
def tableNumber (name : Octets) : Work Nat := do
  match ← cell? name with
  | some (.table number) => return number
  | _ =>
      let number := (← get).nextTable
      change fun state => { state with nextTable := number + 1 }
      setCell name (.table number)
      return number

def tableAt (number : Nat) : Work Table := do return ((← get).tables[number]?).getD {}

def changeTable (number : Nat) (alter : Table → Table) : Work Unit := change fun state =>
  let table := (state.tables[number]?).getD {}
  let tables := state.tables.erase number
  { state with tables := tables.insert number (alter table) }

/-! ## Separators -/

def patternOfText (source : Octets) : Work Pattern := do
  let state ← get
  match state.patterns.lookup source with
  | some pattern => return pattern
  | none =>
      match patternOf source with
      | .error text => fail ("line " ++ toString state.rules.lines ++ ": " ++ text)
      | .ok pattern =>
          change fun state => { state with patterns := (source, pattern) :: state.patterns.take 31 }
          return pattern

def betweenBlanks (isBlank : Char → Bool) (text : Octets) : List Octets :=
  (text.foldr
    (fun c (parts : List Octets × Bool) =>
      if isBlank c then (parts.1, false)
      else
        match parts with
        | (part :: others, true) => ((c :: part) :: others, true)
        | (parts, _) => ([c] :: parts, true))
    ([], false)).1

def betweenMatches (pattern : Pattern) : Nat → Octets → Octets → List Octets
  | 0, _, text => [text]
  | fuel + 1, passed, text =>
      match pattern.search false passed text with
      | none => [text]
      | some found =>
          let front := found.before.drop passed.length
          if found.text.isEmpty then
            match found.after with
            | [] => [text]
            | c :: after =>
                match betweenMatches pattern fuel (c :: found.before.reverse) after with
                | part :: parts => (front ++ c :: part) :: parts
                | [] => [text]
          else
            front :: betweenMatches pattern fuel (found.text.reverse ++ found.before.reverse) found.after

def separated (separator text : Octets) : Work (List Octets) := do
  if text.isEmpty then return []
  else
    match separator with
    | [' '] => return betweenBlanks Octets.isSpace text
    | [] => return text.map fun c => [c]
    | [c] => return Octets.splitAt c text
    | source =>
        let pattern ← patternOfText source
        return betweenMatches pattern (text.length + 1) [] text

/-! ## The record -/

def setRecord (record : Octets) : Work Unit := do
  let separator ← textOf "FS"
  change fun state => { state with record, fields := none, separator }

def fields : Work (Array Value) := do
  let state ← get
  match state.fields with
  | some fields => return fields
  | none =>
      let isParagraph := (← textOf "RS").isEmpty
      let separator :=
        match state.separator with
        | [c] => if isParagraph && c != ' ' then setText false [] [c, '\n'] else [c]
        | separator => separator
      let parts ← separated separator state.record
      let fields := (parts.map Value.input).toArray
      change fun state => { state with fields := some fields }
      return fields

/-- Sets the fields, and the record with them. -/
def setFields (fields : Array Value) : Work Unit := do
  let separator ← textOf "OFS"
  let convert ← conversion
  let record := Octets.join separator (fields.toList.map fun value => value.toText convert)
  change fun state => { state with record, fields := some fields }

def fieldValue (number : Int) : Work Value := do
  if number < 0 then failHere ("negative field index $" ++ toString number)
  else if number == 0 then return .input (← get).record
  else return ((← fields)[number.toNat - 1]?).getD .unset

def setField (number : Int) (value : Value) : Work Unit := do
  if number < 1 then
    discard (fieldValue number)
    setRecord (← text value)
  else
    let index := number.toNat - 1
    let fields ← fields
    let filled := fields ++ (List.replicate (index + 1 - fields.size) (Value.text [])).toArray
    setFields (filled.setIfInBounds index value)

def setFieldCount (count : Nat) : Work Unit := do
  let fields ← fields
  setFields ((fields.extract 0 count) ++
    (List.replicate (count - fields.size) (Value.text [])).toArray)

end Work

/-! ## Records -/

/-- Reads all that is left. -/
def remaining (source : LineSource) : Task LineSource := do
  if source.isEnded then return source
  else
    let text := ((← Task.readAll source.handle).toOption).getD []
    return { source with unread := source.unread ++ text, isEnded := true }

/-- The next record, where records end at a character, at empty lines, or at a
match of a pattern. -/
def nextRecord (mark : Octets) (pattern? : Option Pattern) (source : LineSource) :
    Task (Option Octets × LineSource) := do
  match mark, pattern? with
  | [c], _ =>
      let (line?, source) ← ({ source with mark := c } : LineSource).next
      return (line?.map Prod.fst, source)
  | _, none =>
      let source ← remaining source
      let text := source.unread.dropWhile (· == '\n')
      if text.isEmpty then return (none, { source with unread := [] })
      else
        let rec paragraph : Octets → Octets → Octets × Octets
          | '\n' :: '\n' :: rest, passed => (passed.reverse, rest.dropWhile (· == '\n'))
          | ['\n'], passed => (passed.reverse, [])
          | c :: rest, passed => paragraph rest (c :: passed)
          | [], passed => (passed.reverse, [])
        let (record, rest) := paragraph text []
        return (some record, { source with unread := rest })
  | _, some pattern =>
      let source ← remaining source
      if source.unread.isEmpty then return (none, source)
      else
        match pattern.search false [] source.unread with
        | some found =>
            if found.text.isEmpty then return (some source.unread, { source with unread := [] })
            else return (some found.before, { source with unread := found.after })
        | none =>
            let text := source.unread
            let text := if text.getLast? == some '\n' then text.dropLast else text
            return (some text, { source with unread := [] })

end InterfaceAudit.Tool.Awk
