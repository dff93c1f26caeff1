import InterfaceAudit.Machine.Tool.Awk.Parser
import InterfaceAudit.Machine.Tool.Awk.State

/-!
Contract: what rules do.

Owns:
- the values of expressions, and what statements do;
- files and commands that rules read from and write to;
- the way through the operands, record by record;
- the program that runs rules.

Does not own: the language of rules.
-/

namespace InterfaceAudit.Tool.Awk

namespace Work

/-! ## Files and commands -/

def stream? (isRead : Bool) (name : Octets) : Work (Option Stream) := do
  return (← get).streams.find? fun stream => stream.isRead == isRead && stream.name == name

/-- Adds a stream, or puts it in the place of the one of the same name. -/
def setStream (stream : Stream) : Work Unit := change fun state =>
  { state with
    streams := stream :: state.streams.filter fun other =>
      other.isRead != stream.isRead || other.name != stream.name }

def interpret (shown command : Octets) (environment : List (Octets × Octets)) : Task Unit := do
  discard (Task.execute interpreterPath [shown, ['-', 'c'], command] environment)
  Task.exit 127

def startCommand (isRead : Bool) (command : Octets) : Work Stream := do
  tool flush
  let state ← get
  let (readEnd, writeEnd) ← act Task.pipe
  let (own, others) := if isRead then (readEnd, writeEnd) else (writeEnd, readEnd)
  let child ← act (Task.fork (do
    for stream in state.streams do
      discard (Task.close stream.handle)
    discard (Task.close own)
    let place := if isRead then 1 else 0
    if others != place then
      discard (Task.copyHandle others place)
      discard (Task.close others)
    interpret interpreterPath command state.call.environment))
  discard (act (Task.close others))
  let stream : Stream :=
    { name := command, isRead, handle := own, child := some child, source := { handle := own } }
  setStream stream
  return stream

/-- The status of a process that ended. -/
def waited (child : Nat) (shift : Nat) : Work Nat := do
  match ← act (Task.wait (some child)) with
  | .ok (some (_, .exited status)) => return status
  | .ok (some (_, .killed signal)) => return shift + signal
  | _ => return 0

def closeStream (stream : Stream) : Work Nat := do
  if 2 < stream.handle then discard (act (Task.close stream.handle))
  match stream.child with
  | some child => waited child 256
  | none => return 0

def closeNamed (name : Octets) : Work Int := do
  let (closed, others) := (← get).streams.partition (fun stream => stream.name == name)
  change fun state => { state with streams := others }
  let mut status : Int := -1
  for stream in closed do
    status := ((← closeStream stream : Nat) : Int)
  return status

def runCommand (command : Octets) : Work Nat := do
  tool flush
  let state ← get
  let child ← act (Task.fork (do
    for stream in state.streams do
      if 2 < stream.handle then discard (Task.close stream.handle)
    interpret ['s', 'h'] command state.call.environment))
  waited child 256

/-- Prints a text to where output is said to go. -/
def printTo (redirect : Option (Redirect × Octets)) (text : Octets) : Work Unit := do
  match redirect with
  | none => tool (print text)
  | some (kind, name) =>
      if kind != .command && (name == ['-'] || name == "/dev/stdout".toList) then tool (print text)
      else
        let stream ← match ← stream? false name with
          | some stream => pure stream
          | none =>
              if kind == .command then startCommand false name
              else
                let handle ←
                  if name == "/dev/stderr".toList then pure 2
                  else
                    let opened ← act (Task.openFile name {
                      writes := true, creates := true
                      empties := kind == .file, appends := kind == .appended })
                    match opened with
                    | .ok handle => pure handle
                    | .error cause =>
                        fail ("cannot open \"" ++ name.shown ++ "\" for output (" ++ cause.text ++ ")")
                let stream : Stream := { name, isRead := false, handle, source := { handle } }
                setStream stream
                pure stream
        discard (act (Task.write stream.handle text))

/-! ## Records -/

def recordEnd : Work (Octets × Option Pattern) := do
  let mark ← textOf "RS"
  if mark.length < 2 then return (mark, none) else return (mark, some (← patternOfText mark))

/-- Opens a file to be read record by record; none if that cannot be done. -/
def openRecords (name : Octets) : Work (Except SystemError LineSource) := do
  match ← act (Task.openFile name { reads := true }) with
  | .error cause => return .error cause
  | .ok handle =>
      let status : Except SystemError FileStatus ← act (Task.ask (.handleStatus handle))
      if status.toOption.any (fun status => status.kind == .directory) then
        fail "read error (Is a directory)"
      else return .ok { handle }

/-- Sets a variable as an operand with an equals sign says; tells whether it is such
an operand. -/
def assignOperand (operand : Octets) : Work Bool := do
  match assignmentOf? operand with
  | some (name, value) =>
      let isName := name.all Pattern.isWordChar && !(name.headD '0').isDigit
      if isName then
        let value := withoutEscapes (value.length + 1) value
        if name == ['N', 'F'] then setFieldCount (unsignedOf (wholeOf (numberOfText value)))
        else setGlobal (String.ofList name) (.input value)
      return isName
  | none => return false

/-- Opens the next operand that names a file; none if there is no more. -/
def nextOperand : Nat → Work (Option LineSource)
  | 0 => return none
  | fuel + 1 => do
      let state ← get
      let count := (wholeOf (match state.globals[Identifier.mk "ARGC".toList]? with
        | some (.value value) => value.toNumber
        | _ => .ofInt 0)).toNat
      if state.operand < count then
        let table ← tableAt (← tableNumber "ARGV".toList)
        let entry := table.entries[Identifier.mk (Octets.ofNat state.operand)]?
        change fun state => { state with operand := state.operand + 1 }
        let operand ← text ((entry.map Entry.value).getD .unset)
        if operand.isEmpty then nextOperand fuel
        else if ← assignOperand operand then nextOperand fuel
        else
          setGlobal "FILENAME" (.text operand)
          setGlobal "FNR" (.ofNat 0)
          change fun state => { state with wasRead := true }
          if operand == ['-'] || operand == "/dev/stdin".toList then return some { handle := 0 }
          else
            match ← openRecords operand with
            | .ok source => return some source
            | .error cause => fail ("cannot open \"" ++ operand.shown ++ "\" (" ++ cause.text ++ ")")
      else if state.wasRead then return none
      else
        change fun state => { state with wasRead := true }
        return some { handle := 0 }

def leaveOperand : Work Unit := do
  match (← get).main with
  | some source =>
      if source.handle != 0 then discard (act (Task.close source.handle))
      change fun state => { state with main := none }
  | none => return

def mainRecord : Nat → Work (Option Octets)
  | 0 => return none
  | fuel + 1 => do
      tick
      match (← get).main with
      | none =>
          match ← nextOperand fuel with
          | none => return none
          | some source =>
              change fun state => { state with main := some source }
              mainRecord fuel
      | some source =>
          let (mark, pattern?) ← recordEnd
          let (record, source) ← act (nextRecord mark pattern? source)
          change fun state => { state with main := some source }
          match record with
          | some record =>
              countUp "NR"
              countUp "FNR"
              return some record
          | none =>
              leaveOperand
              mainRecord fuel

/-- The next record of a file or command, and whether it could be opened. -/
def streamRecord (kind : RecordSource) (name : Octets) : Work (Option (Option Octets)) := do
  let stream? : Option Stream ← match ← stream? true name with
    | some stream => pure (some stream)
    | none =>
        if kind == .command then pure (some (← startCommand true name))
        else if name == ['-'] || name == "/dev/stdin".toList then
          pure (some { name, isRead := true, handle := 0, source := { handle := 0 } })
        else
          match ← openRecords name with
          | .ok source => pure (some { name, isRead := true, handle := source.handle, source })
          | .error _ => pure none
  match stream? with
  | none => return none
  | some stream =>
      let (mark, pattern?) ← recordEnd
      let (record, source) ← act (nextRecord mark pattern? stream.source)
      setStream { stream with source }
      return some record

/-! ## Places -/

/-- A place with its parts evaluated. -/
inductive Location where
  | variable (name : Octets)
  | element (table : Nat) (name : Octets) (number? : Option Nat)
  | field (number : Int)
  | fieldCount

/-- The value at a place. An element is there once it has been looked at. -/
def Location.read : Location → Work Value
  | .variable name => valueOf name
  | .element number name number? => do
      match (← tableAt number).entries[Identifier.mk name]? with
      | some entry => return entry.value
      | none =>
          changeTable number fun table => table.set name number? .unset
          return .unset
  | .field number => fieldValue number
  | .fieldCount => do return .ofNat (← fields).size

def Location.write (location : Location) (value : Value) : Work Unit := do
  match location with
  | .variable name => setValue name value
  | .element number name number? => changeTable number fun table => table.set name number? value
  | .field number => setField number value
  | .fieldCount => setFieldCount (max 0 (wholeOf value.toNumber)).toNat

/-- The name of an element, with the number that it was given as. -/
def elementName (subscripts : List Value) : Work (Octets × Option Nat) := do
  match subscripts with
  | [.number value] =>
      let name ← text (.number value)
      return (name, Octets.natOf? name)
  | [value] => return (← text value, none)
  | values =>
      let mut parts : List Octets := []
      for value in values do
        parts := parts ++ [← text value]
      return (Octets.join (← textOf "SUBSEP") parts, none)

end Work

/-! ## Values -/

/-- The number that an operator makes of two numbers. -/
def Arithmetic.apply : Arithmetic → Measure → Measure → Measure
  | .add => Measure.add
  | .subtract => Measure.subtract
  | .multiply => Measure.multiply
  | .divide => Measure.divide
  | .remainder => Measure.remainder
  | .power => Measure.power

def Comparison.holds : Comparison → Ordering → Bool
  | .less, order => order == .lt
  | .lessEqual, order => order != .gt
  | .equal, order => order == .eq
  | .notEqual, order => order != .eq
  | .greater, order => order == .gt
  | .greaterEqual, order => order != .lt

def textOrder (x y : Octets) : Ordering :=
  if x == y then .eq else if Octets.before x y then .lt else .gt

/-- A replacement with the matched text put in. -/
def replacementFor (found : Octets) : Octets → Octets
  | '\\' :: '&' :: rest => '&' :: replacementFor found rest
  | '\\' :: '\\' :: '&' :: rest => '\\' :: found ++ replacementFor found rest
  | '&' :: rest => found ++ replacementFor found rest
  | c :: rest => c :: replacementFor found rest
  | [] => []

/-- A text with matches replaced: the first one, or all. The parts found so far are
given in reverse; right behind a match none that is empty counts. -/
def replaced (everywhere : Bool) (pattern : Pattern) (replacement : Octets) :
    Nat → Bool → Octets → Octets → List Octets → Nat → List Octets × Nat
  | 0, _, _, text, parts, count => (text :: parts, count)
  | fuel + 1, afterMatch, passed, text, parts, count =>
      if !everywhere && 0 < count then (text :: parts, count)
      else
        match pattern.search false passed text with
        | none => (text :: parts, count)
        | some found =>
            let front := found.before.drop passed.length
            if found.text.isEmpty then
              let isNew := !(afterMatch && front.isEmpty)
              let parts := if isNew then replacementFor [] replacement :: front :: parts else front :: parts
              let count := if isNew then count + 1 else count
              match found.after with
              | [] => (parts, count)
              | c :: after =>
                  if !everywhere then (found.after :: parts, count)
                  else
                    replaced everywhere pattern replacement fuel false (c :: found.before.reverse) after
                      ([c] :: parts) count
            else
              replaced everywhere pattern replacement fuel true
                (found.text.reverse ++ found.before.reverse) found.after
                (replacementFor found.text replacement :: front :: parts) (count + 1)

/-- A part of a text by the position of its first character, counted from one, and
its length. -/
def substring (text : Octets) (start : Measure) (length? : Option Measure) : Octets :=
  let size : Int := text.length
  let first := match start.magnitude with
    | .undefined => 1
    | .infinite => if start.isNegative then -size else size + 1
    | .finite _ _ => (start.whole?).getD 1
  let rest := text.drop (first - 1).toNat
  match length? with
  | none => rest
  | some length =>
      let length := (length.whole?).getD (if length.isNegative then 0 else 2 * size + 2)
      rest.take (if first < 1 then length - first else length).toNat

/-- The position of a text in another one, counted from one; zero if it is not
there. -/
def position (part : Octets) : Nat → Octets → Nat
  | number, text =>
      if part.isPrefixOf text then number
      else
        match text with
        | [] => 0
        | _ :: rest => position part (number + 1) rest

/-! ## Running -/

namespace Work

/-- How much room functions have that call each other. -/
def maxDepth : Nat := 1024

def untilLeft (work : Work Bool) : Work Bool := ExceptT.mk do
  match ← work.run with
  | .error .leftLoop => return .ok false
  | .error .nextRound => return .ok true
  | result => return result

/-- Work of a function, and the value that it gives. -/
def untilReturned (work : Work Unit) : Work Value := ExceptT.mk do
  match ← work.run with
  | .error (.returned value) => return .ok value
  | .error stop => return .error stop
  | .ok _ => return .ok .unset

/-- Puts a record that was read where it belongs. -/
def keep (location? : Option Location) (record : Octets) : Work Value := do
  match location? with
  | some location => location.write (.input record)
  | none => setRecord record
  return .ofNat 1

/-- Complains about a format that has not enough arguments or is malformed. -/
def shortOf {α : Type} (function : String) (format : Octets) (shortage : Shortage) : Work α :=
  let shown := function ++ "(\"" ++ format.shown ++ "\")"
  match shortage with
  | .noArgument => failHere ("not enough arguments passed to " ++ shown)
  | .badDirective number =>
      failHere ("improper conversion(number " ++ toString number ++ ") in " ++ shown)

def formatText (function : String) (format : Octets) (values : List Value) : Work Octets := do
  match formatted (← conversion) (format.length + 1) 1 format values [] with
  | (parts, none) => return parts.reverse.flatten
  | (_, some shortage) => shortOf function format shortage

mutual

def evaluate : Nat → Expression → Work Value
  | 0, _ => throw .failed
  | fuel + 1, expression => do
      let numberOf (operand : Expression) : Work Measure := do
        return (← evaluate fuel operand).toNumber
      match expression with
      | .number value => return .number value
      | .text held => return .text held
      | .pattern pattern => return .ofBool (pattern.isFoundIn (← get).record)
      | .read place => (← locate fuel place).read
      | .assign operator? target value =>
          let location ← locate fuel target
          let value ← evaluate fuel value
          let result ← match operator? with
            | none => pure value
            | some operator => do
                let old ← location.read
                pure (.number (operator.apply old.toNumber value.toNumber))
          location.write result
          return result
      | .step isNew isUp target =>
          let location ← locate fuel target
          let old := (← location.read).toNumber
          let new := old.add (.ofInt (if isUp then 1 else -1))
          location.write (.number new)
          return .number (if isNew then new else old)
      | .choice condition yes no =>
          if (← evaluate fuel condition).isTrue then evaluate fuel yes else evaluate fuel no
      | .both first second =>
          if (← evaluate fuel first).isTrue then return .ofBool (← evaluate fuel second).isTrue
          else return .ofBool false
      | .either first second =>
          if (← evaluate fuel first).isTrue then return .ofBool true
          else return .ofBool (← evaluate fuel second).isTrue
      | .not operand => return .ofBool (!(← evaluate fuel operand).isTrue)
      | .minus operand => return .number (← numberOf operand).negated
      | .plus operand => return .number (← numberOf operand)
      | .arithmetic operator first second =>
          let x ← numberOf first
          let y ← numberOf second
          return .number (operator.apply x y)
      | .comparison operator first second =>
          let x ← evaluate fuel first
          let y ← evaluate fuel second
          match x.comparedNumber?, y.comparedNumber? with
          | some x, some y => return .ofBool ((x.compare? y).any operator.holds)
          | _, _ => return .ofBool (operator.holds (textOrder (← text x) (← text y)))
      | .concatenation first second =>
          let x ← text (← evaluate fuel first)
          let y ← text (← evaluate fuel second)
          return .text (x ++ y)
      | .isMatch negated held pattern =>
          let held ← text (← evaluate fuel held)
          let pattern ← patternFor fuel pattern
          return .ofBool (pattern.isFoundIn held != negated)
      | .isMember subscripts array =>
          let (name, _) ← elementName (← evaluateAll fuel subscripts)
          let table ← tableAt (← tableNumber array)
          return .ofBool (table.entries.contains ⟨name⟩)
      | .call name given => callFunction fuel name given
      | .provided function given => callProvided fuel function given
      | .substitute everywhere pattern replacement target =>
          let pattern ← patternFor fuel pattern
          let replacement ← text (← evaluate fuel replacement)
          let location ← locate fuel target
          let old ← text (← location.read)
          let (parts, count) := replaced everywhere pattern replacement (old.length + 2) false [] old [] 0
          if 0 < count then location.write (.text parts.reverse.flatten)
          return .ofNat count
      | .nextRecord source name target =>
          let location? ← match target with
            | some target => do pure (some (← locate fuel target))
            | none => pure none
          match source, name with
          | .operands, _ | _, none =>
              match ← mainRecord Task.endless with
              | none => return .ofNat 0
              | some record => keep location? record
          | kind, some name =>
              let name ← text (← evaluate fuel name)
              match ← streamRecord kind name with
              | none => return .number (.ofInt (-1))
              | some none => return .ofNat 0
              | some (some record) => keep location? record
      | .group items =>
          let (name, _) ← elementName (← evaluateAll fuel items)
          return .text name

def evaluateAll : Nat → List Expression → Work (List Value)
  | 0, _ => throw .failed
  | _, [] => return []
  | fuel + 1, expression :: expressions => do
      let value ← evaluate fuel expression
      return value :: (← evaluateAll fuel expressions)

def locate : Nat → Place → Work Location
  | 0, _ => throw .failed
  | fuel + 1, place => do
      match place with
      | .variable name => return .variable name
      | .element array subscripts =>
          let (name, number?) ← elementName (← evaluateAll fuel subscripts)
          return .element (← tableNumber array) name number?
      | .field number => return .field (wholeOf (← evaluate fuel number).toNumber)
      | .fieldCount => return .fieldCount

def patternFor : Nat → Expression → Work Pattern
  | 0, _ => throw .failed
  | fuel + 1, expression => do
      match expression with
      | .pattern pattern => return pattern
      | expression => patternOfText (← text (← evaluate fuel expression))

/-- What arguments stand for: tables are shared, and what may become a table as
well. -/
def argumentCells : Nat → List Expression → Work (List Cell)
  | 0, _ => throw .failed
  | _, [] => return []
  | fuel + 1, argument :: arguments => do
      let cell ← match argument with
        | .read (.variable name) =>
            match ← cell? name with
            | some (.value .unset) | none => do pure (.table (← tableNumber name))
            | some cell => pure cell
        | argument => do pure (.value (← evaluate fuel argument))
      return cell :: (← argumentCells fuel arguments)

def callFunction : Nat → Octets → List Expression → Work Value
  | 0, _, _ => throw .failed
  | fuel + 1, name, given => do
      tick
      match (← get).rules.functions.lookup name with
      | none => fail ("function " ++ name.shown ++ " never defined")
      | some function =>
          let cells ← argumentCells fuel given
          let old := (← get).locals
          let empty := List.replicate (function.parameters.length - cells.length) (Cell.value .unset)
          if maxDepth ≤ (← get).depth then fail "program limit exceeded: eval stack size=1024"
          else
            change fun state => { state with
              locals := function.parameters.zip (cells ++ empty)
              depth := state.depth + function.parameters.length + 1 }
            let result ← untilReturned (perform fuel function.body)
            change fun state => { state with locals := old, depth := state.depth - function.parameters.length - 1 }
            return result

def callProvided : Nat → Provided → List Expression → Work Value
  | 0, _, _ => throw .failed
  | fuel + 1, function, given => do
      match function, given with
      | .length, [] => return .ofNat (← get).record.length
      | .length, [.read (.variable name)] =>
          match ← cell? name with
          | some (.table number) => return .ofNat (← tableAt number).entries.size
          | _ => return .ofNat (← text (← valueOf name)).length
      | .split, held :: .read (.variable name) :: rest =>
          let held ← text (← evaluate fuel held)
          let parts ← match rest with
            | [.pattern pattern] =>
                pure (if held.isEmpty then [] else betweenMatches pattern (held.length + 1) [] held)
            | [separator] => separated (← text (← evaluate fuel separator)) held
            | _ => separated (← textOf "FS") held
          let number ← tableNumber name
          let table := parts.foldl
            (fun (table : Table) part =>
              let index := table.next + 1
              table.set (Octets.ofNat index) (some index) (.input part))
            {}
          changeTable number fun _ => table
          return .ofNat parts.length
      | .find, [held, pattern] =>
          let held ← text (← evaluate fuel held)
          let pattern ← patternFor fuel pattern
          let (start, length) : Int × Int :=
            match pattern.search false [] held with
            | some found => (found.before.length + 1, found.text.length)
            | none => (0, -1)
          setGlobal "RSTART" (.number (.ofInt start))
          setGlobal "RLENGTH" (.number (.ofInt length))
          return .number (.ofInt start)
      | function, given =>
          let values ← evaluateAll fuel given
          let number := (values.headD .unset).toNumber
          let first ← text (values.headD .unset)
          match function, values with
          | .length, _ => return .ofNat first.length
          | .substring, _ :: start :: rest =>
              return .text (substring first start.toNumber (rest.head?.map Value.toNumber))
          | .index, [_, part] => return .ofNat (position (← text part) 1 first)
          | .format, _ :: values => return .text (← formatText "sprintf" first values)
          | .lower, _ => return .text (first.map Char.toLower)
          | .upper, _ => return .text (first.map Char.toUpper)
          | .system, _ => return .ofNat (← runCommand first)
          | .close, _ => return .number (.ofInt (← closeNamed first))
          | .flush, _ =>
              tool flush
              return .ofNat 0
          | .sine, _ => return .number (Measure.through Float.sin number)
          | .cosine, _ => return .number (Measure.through Float.cos number)
          | .arcTangent, [y, x] =>
              return .number (Measure.ofFloat (Float.atan2 y.toNumber.toFloat x.toNumber.toFloat))
          | .exponential, _ => return .number (Measure.through Float.exp number)
          | .logarithm, _ => return .number (Measure.through Float.log number)
          | .squareRoot, _ => return .number (Measure.through Float.sqrt number)
          | .whole, _ => return .number number.truncated
          | .random, _ =>
              let seed := ((← get).seed * 6364136223846793005 + 1442695040888963407) % 0x10000000000000000
              change fun state => { state with seed }
              return .number (Measure.ofQuotient (seed / 0x1000 : Nat) 0x10000000000000)
          | .seed, values =>
              let old := (← get).seed
              let now : Nat ← act (Task.ask .clock)
              let seed := match values with
                | value :: _ => unsignedOf (wholeOf value.toNumber)
                | [] => now / 1000000
              change fun state => { state with seed }
              return .ofNat old
          | .clock, _ =>
              let now : Nat ← act (Task.ask .clock)
              return .ofNat (now / 1000000)
          | _, _ => return .unset

def perform : Nat → Statement → Work Unit
  | 0, _ => throw .failed
  | fuel + 1, statement => do
      match statement with
      | .evaluate expression => discard (evaluate fuel expression)
      | .print items redirect =>
          let values ← evaluateAll fuel items
          let convert ← textOf "OFMT"
          let separator ← textOf "OFS"
          let record := (← get).record
          let line :=
            if items.isEmpty then record
            else Octets.join separator (values.map fun value => value.toText convert)
          let ending ← textOf "ORS"
          printTo (← redirectOf fuel redirect) (line ++ ending)
      | .format items redirect =>
          let values ← evaluateAll fuel items
          let format ← text (values.headD .unset)
          let redirect ← redirectOf fuel redirect
          match formatted (← conversion) (format.length + 1) 1 format (values.drop 1) [] with
          | (parts, none) => printTo redirect parts.reverse.flatten
          | (parts, some shortage) =>
              printTo redirect parts.reverse.flatten
              shortOf "printf" format shortage
      | .branch condition yes no =>
          if (← evaluate fuel condition).isTrue then perform fuel yes else perform fuel no
      | .loop isChecked condition step body => rounds fuel isChecked condition step body
      | .forEach name array body =>
          let table ← tableAt (← tableNumber array)
          overNames fuel name body table.names
      | .block statements => runAll fuel statements
      | .delete array none => changeTable (← tableNumber array) fun _ => {}
      | .delete array (some subscripts) =>
          let (name, _) ← elementName (← evaluateAll fuel subscripts)
          changeTable (← tableNumber array) fun table =>
            { table with entries := table.entries.erase ⟨name⟩ }
      | .next => throw .next
      | .nextFile => throw .nextFile
      | .exit none => throw .exited
      | .exit (some status) =>
          let status := unsignedOf (wholeOf (← evaluate fuel status).toNumber)
          change fun state => { state with status := status % 256 }
          throw .exited
      | .result none => throw (.returned .unset)
      | .result (some value) => do
          let value ← evaluate fuel value
          throw (.returned value)
      | .leaveLoop => throw .leftLoop
      | .nextRound => throw .nextRound

/-- Where output is said to go. -/
def redirectOf : Nat → Option (Redirect × Expression) → Work (Option (Redirect × Octets))
  | 0, _ => throw .failed
  | _, none => return none
  | fuel + 1, some (kind, name) => do return some (kind, ← text (← evaluate fuel name))

def runAll : Nat → List Statement → Work Unit
  | 0, _ => throw .failed
  | _, [] => return
  | fuel + 1, statement :: statements => do
      perform fuel statement
      runAll fuel statements

def rounds : Nat → Bool → Option Expression → Statement → Statement → Work Unit
  | 0, _, _, _, _ => throw .failed
  | fuel + 1, isChecked, condition, step, body => do
      tick
      let goesOn ←
        if isChecked then
          match condition with
          | some condition => do pure (← evaluate fuel condition).isTrue
          | none => pure true
        else pure true
      if goesOn then
        let goesOn ← untilLeft do
          perform fuel body
          return true
        if goesOn then
          perform fuel step
          rounds fuel true condition step body

/-- The rounds of a loop over names. -/
def overNames : Nat → Octets → Statement → List Octets → Work Unit
  | 0, _, _, _ => throw .failed
  | _, _, _, [] => return
  | fuel + 1, name, body, next :: names => do
      tick
      setValue name (.input next)
      let goesOn ← untilLeft do
        perform fuel body
        return true
      if goesOn then overNames fuel name body names


end

/-! ## The rules -/

/-- Whether a rule applies to the record. -/
def applies (condition : Condition) : Work Bool := do
  let holds (expression : Expression) : Work Bool := do
    return (← evaluate Task.endless expression).isTrue
  match condition with
  | .always => return true
  | .when expression => holds expression
  | .between number first last =>
      let isActive := (← get).active.contains number
      if isActive then
        if ← holds last then
          change fun state => { state with active := state.active.erase number }
        return true
      else if ← holds first then
        if !(← holds last) then change fun state => { state with active := number :: state.active }
        return true
      else return false

def applyRules : List Rule → Work Unit
  | [] => return
  | rule :: rules => do
      if ← applies rule.condition then perform Task.endless rule.action
      applyRules rules

def eachRecord (rules : List Rule) : Nat → Work Unit
  | 0 => return
  | fuel + 1 => do
      match ← mainRecord Task.endless with
      | none => return
      | some record =>
          setRecord record
          let isLeft ← ExceptT.mk do
            match ← (applyRules rules).run with
            | .error .next => return .ok false
            | .error .nextFile => return .ok true
            | .error stop => return .error stop
            | .ok _ => return .ok false
          if isLeft then leaveOperand
          eachRecord rules fuel

def runRules (rules : Rules) : Work Unit := do
  let exits (work : Work Unit) : Work Bool := ExceptT.mk do
    match ← work.run with
    | .error .exited => return .ok true
    | .error stop => return .error stop
    | .ok _ => return .ok false
  let body : Work Unit := do
    runAll Task.endless rules.first
    if !rules.each.isEmpty || !rules.last.isEmpty then eachRecord rules.each Task.endless
  discard (exits body)
  change fun state => { state with locals := [] }
  discard (exits (runAll Task.endless rules.last))

/-- Closes what rules opened. -/
def closeAll : Work Unit := do
  let streams := (← get).streams
  change fun state => { state with streams := [] }
  for stream in streams do
    if stream.isRead then discard (act (Task.close stream.handle)) else discard (closeStream stream)

end Work

/-! ## The program -/

def tableOf (entries : List (Octets × Octets)) : Table :=
  entries.foldl (fun table (name, held) => table.set name none (.input held)) {}

def startState (call : Call) (rules : Rules) (operands : List Octets) : State :=
  let operands := call.name :: operands
  let numbered := operands.foldl
    (fun (table : Table) operand =>
      table.set (Octets.ofNat table.next) (some table.next) (.input operand))
    {}
  let held : List (String × Value) := [
    ("FS", .text [' ']), ("OFS", .text [' ']), ("ORS", .text ['\n']), ("RS", .text ['\n']),
    ("SUBSEP", .text ['\x1c']), ("CONVFMT", .text "%.6g".toList), ("OFMT", .text "%.6g".toList),
    ("NR", .ofNat 0), ("FNR", .ofNat 0), ("RSTART", .ofNat 0), ("RLENGTH", .number (.ofInt (-1))),
    ("FILENAME", .text []), ("ARGC", .ofNat operands.length)]
  let globals := held.foldl
    (fun (globals : Std.HashMap Identifier Cell) (name, value) =>
      globals.insert ⟨name.toList⟩ (.value value))
    {}
  let globals := (globals.insert ⟨"ENVIRON".toList⟩ (.table 0)).insert ⟨"ARGV".toList⟩ (.table 1)
  let tables := (({} : Std.HashMap Nat Table).insert 0 (tableOf call.environment)).insert 1 numbered
  { call, rules, globals, tables, nextTable := 2 }

/-- Options as they are written: separators, assignments, files with rules, and what
is left. -/
structure Given where
  separator : Option Octets := none
  assignments : List Octets := []
  files : List Octets := []
  rest : List Octets := []

/-- Reads options, or gives the complaint about one. -/
def givenBy : Nat → List Octets → Given → Except String Given
  | 0, _, given => .ok given
  | _, [], given => .ok given
  | fuel + 1, argument :: arguments, given =>
      let valued (letter : Char) (rest : Octets) (use : Octets → Given) : Except String Given :=
        match rest, arguments with
        | [], value :: arguments => givenBy fuel arguments (use value)
        | [], [] => .error ("option -" ++ String.singleton letter ++ " lacks argument")
        | value, arguments => givenBy fuel arguments (use value)
      match argument with
      | ['-', '-'] => .ok { given with rest := arguments }
      | '-' :: 'F' :: rest => valued 'F' rest fun value => { given with separator := some value }
      | '-' :: 'v' :: rest =>
          valued 'v' rest fun value => { given with assignments := given.assignments ++ [value] }
      | '-' :: 'f' :: rest => valued 'f' rest fun value => { given with files := given.files ++ [value] }
      | '-' :: 'W' :: rest => valued 'W' rest fun _ => given
      | '-' :: c :: rest => .error ("not an option: -" ++ Octets.shown (c :: rest))
      | _ => .ok { given with rest := argument :: arguments }

def usage : String := "Usage: mawk [Options] [Program] [file ...]

Program:
    The -f option value is the name of a file containing program text.
    If no -f option is given, a \"--\" ends option processing; the following
    parameters are the program text.

Options:
    -f program-file  Program  text is read from file instead of from the
                     command-line.  Multiple -f options are accepted.
    -F value         sets the field separator, FS, to value.
    -v var=value     assigns value to program variable var.
    --               unambiguous end of options.

    Implementation-specific options are prefixed with \"-W\".  They can be
    abbreviated:

    -W version       show version information and exit.
    -W compat        pre-POSIX 2001.
    -W dump          show assembler-like listing of program and exit.
    -W help          show this message and exit.
    -W interactive   set unbuffered output, line-buffered input.
    -W exec file     use file as program as well as last option.
    -W posix         stricter POSIX checking.
    -W random=number set initial random seed.
    -W sprintf=number adjust size of sprintf buffer.
    -W usage         show this message and exit.
"

end Awk

/-- Runs rules for the records of its operands. -/
def awk : Program := fun call => do
  match Awk.givenBy (call.arguments.length + 1) call.arguments {} with
  | .error text => call.fail text 2
  | .ok given =>
      let mut texts : List Octets := []
      for file in given.files do
        match ← readInput file with
        | .ok text => texts := texts ++ [text]
        | .error cause =>
            return ← call.fail ("cannot open \"" ++ file.shown ++ "\" (" ++ cause.text ++ ")") 2
      let (text?, operands) :=
        match given.files, given.rest with
        | [], text :: operands => (some text, operands)
        | [], [] => (none, [])
        | _, operands => (some (Octets.join ['\n'] texts), operands)
      match text? with
      | none =>
          warn (Octets.ofString Awk.usage)
          return 0
      | some text =>
          match Awk.rulesOf text with
          | .error complaints =>
              for complaint in complaints do
                call.complain complaint.message
              return 2
          | .ok rules =>
              let work : Awk.Work Unit := do
                match given.separator with
                | some separator =>
                    Awk.Work.setGlobal "FS" (.text (Awk.withoutEscapes (separator.length + 1) separator))
                | none => pure ()
                for assignment in given.assignments do
                  if !(← Awk.Work.assignOperand assignment) then
                    Awk.Work.fail ("improper assignment: -v " ++ assignment.shown)
                Awk.Work.runRules rules
              let (_, state) ← work.run.run (Awk.startState call rules operands)
              let (_, state) ← (Awk.Work.closeAll).run.run state
              return state.status

end InterfaceAudit.Tool
