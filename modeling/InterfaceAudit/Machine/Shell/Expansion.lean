import InterfaceAudit.Machine.Shell.Arithmetic
import InterfaceAudit.Machine.Shell.State
import InterfaceAudit.Machine.Shell.Wildcard

/-!
Contract: what words stand for.

Owns:
- the values of the pieces of a word;
- splitting values into fields, and matching fields against file names;
- words taken as one text.

Does not own: running the commands whose output is part of a word. It is given a
way to do so.
-/

namespace InterfaceAudit.Shell

abbrev Capture := Command → Run Octets

inductive Part where
  /-- What stood in the script. It is not split. -/
  | text (text : Octets) (quoted : Bool)
  /-- What came from a value, and is split. -/
  | value (text : Octets)
  | boundary
deriving Repr

namespace Part

/-- A value, which is split unless it was quoted. -/
def give (quoted : Bool) (octets : Octets) : Part :=
  if quoted then .text octets true else .value octets

/-- Text of an operand, which counts as a value unless it was quoted. -/
def asValue : Part → Part
  | .text octets false => .value octets
  | part => part

def toText : Part → Octets
  | .text octets _ | .value octets => octets
  | .boundary => [' ']

def toWildcard : Part → Wildcard
  | .text octets quoted => octets.map (fun c => (c, quoted))
  | .value octets => octets.map (fun c => (c, false))
  | .boundary => [(' ', true)]

def ofArguments (quoted : Bool) (arguments : List Octets) : List Part :=
  (arguments.map (fun argument => [give quoted argument])).intersperse [.boundary] |>.flatten

end Part

/-! ## Fields -/

/-- Splitting: the fields so far and the current one, all reversed. -/
structure Splitting where
  fields : List Wildcard := []
  current : Wildcard := []
  /-- Whether the current field exists, be it empty. -/
  isOpen : Bool := false
  afterBlank : Bool := false

namespace Splitting

def close (state : Splitting) : Splitting :=
  if state.isOpen then
    { fields := state.current.reverse :: state.fields }
  else state

def add (quoted : Bool) (state : Splitting) (c : Char) : Splitting :=
  { state with current := (c, quoted) :: state.current, isOpen := true, afterBlank := false }

/-- Takes in a character of a value. Blank separators count once in a row;
others end a field each. -/
def addValue (separators : Octets) (state : Splitting) (c : Char) : Splitting :=
  if !separators.contains c then state.add false c
  else if c == ' ' || c == '\t' || c == '\n' then
    if state.isOpen then { state.close with afterBlank := true } else state
  else if state.isOpen then state.close
  else if state.afterBlank then { state with afterBlank := false }
  else { state with fields := [] :: state.fields }

def addPart (separators : Octets) (state : Splitting) : Part → Splitting
  | .boundary => state.close
  | .value text => text.foldl (addValue separators) state
  | .text text quoted =>
      let state := text.foldl (add quoted) state
      if quoted then { state with isOpen := true, afterBlank := false } else state

end Splitting

def fieldsOf (separators : Octets) (parts : List Part) : List Wildcard :=
  (parts.foldl (Splitting.addPart separators) {}).close.fields.reverse

/-! ## Pieces -/

/-- Without the line feeds at the end. -/
def trimLines (text : Octets) : Octets :=
  Octets.dropRightWhile (· == '\n') text

/-- The value of an arithmetic expression, after its assignments. -/
def evaluateArithmetic (text : Octets) : Run Octets := do
  match Arithmetic.ofText text with
  | .error reason => Run.fail (Arithmetic.complaint text reason).toList
  | .ok expression =>
      let bindings := (← Run.scope).environment.filterMap fun held =>
        held.value.map fun value => (held.name, value)
      match expression.value bindings with
      | .error trouble => Run.fail (trouble.message text).toList
      | .ok (value, changed) =>
          for (name, text) in changed do
            if bindings.lookup name != some text then Run.assign name text
          return Arithmetic.decimal value

mutual

def partsOf (capture : Capture) : Nat → List Piece → Run (List Part)
  | 0, _ => throw (.exited 2)
  | _, [] => return []
  | fuel + 1, piece :: pieces => do
      let first ← partsOfPiece capture fuel piece
      let others ← partsOf capture fuel pieces
      return first ++ others

def partsOfPiece (capture : Capture) : Nat → Piece → Run (List Part)
  | 0, _ => throw (.exited 2)
  | fuel + 1, piece => do
      match piece with
      | .text text quoted => return [.text text quoted]
      | .length name quoted =>
          let value := (← Run.parameter? name).getD []
          return [.give quoted (Octets.ofNat value.length)]
      | .output command quoted => return [.give quoted (trimLines (← capture command))]
      | .arithmetic pieces quoted =>
          let text := (← partsOf capture fuel pieces).flatMap Part.toText
          return [.give quoted (← evaluateArithmetic text)]
      | .parameter [] _ _ _ => Run.fail (Octets.ofString "Bad substitution")
      | .parameter ['@'] [] _ quoted =>
          return Part.ofArguments quoted (← Run.scope).arguments
      | .parameter ['*'] [] _ false =>
          return Part.ofArguments false (← Run.scope).arguments
      | .parameter name operator operand quoted =>
          let value? ← Run.parameter? name
          let isMissing :=
            match value? with
            | none => true
            | some value => operator.head? == some ':' && value.isEmpty
          let value := value?.getD []
          let operandParts : Run (List Part) := partsOf capture fuel operand
          match operator.getLast? with
          | none =>
              if value?.isNone && (← Run.hasOption 'u') && name != ['!'] then
                Run.fail (name ++ Octets.ofString ": parameter not set")
              else return [.give quoted value]
          | some '-' =>
              if isMissing then return (← operandParts).map Part.asValue
              else return [.give quoted value]
          | some '+' =>
              if isMissing then return [.give quoted []]
              else return (← operandParts).map Part.asValue
          | some '=' =>
              if isMissing then
                let text := (← operandParts).flatMap Part.toText
                Run.assign name text
                return [.give quoted text]
              else return [.give quoted value]
          | some '?' =>
              if isMissing then
                let text := (← operandParts).flatMap Part.toText
                let standard :=
                  if operator.head? == some ':' then "parameter not set or null"
                  else "parameter not set"
                let text := if text.isEmpty then Octets.ofString standard else text
                Run.fail (name ++ [':', ' '] ++ text)
              else return [.give quoted value]
          | some '%' =>
              let pattern := (← operandParts).flatMap Part.toWildcard
              return [.give quoted (Wildcard.dropEnd (operator.length == 2) pattern value)]
          | some _ =>
              let pattern := (← operandParts).flatMap Part.toWildcard
              return [.give quoted (Wildcard.dropStart (operator.length == 2) pattern value)]

end

/-! ## Words -/

/-- A word whose leading tilde is replaced by the home directory. -/
def withHome (word : Word) : Run Word := do
  match word with
  | .text ('~' :: rest) false :: others =>
      if rest.head? == some '/' || (rest.isEmpty && others.isEmpty) then
        match ← Run.parameter? (Octets.ofString "HOME") with
        | some home => return .text home true :: .text rest false :: others
        | none => return word
      else return word
  | word => return word

def expandText (capture : Capture) (fuel : Nat) (word : Word) : Run Octets :=
  return (← partsOf capture fuel (← withHome word)).flatMap Part.toText

def expandPattern (capture : Capture) (fuel : Nat) (word : Word) : Run Wildcard :=
  return (← partsOf capture fuel (← withHome word)).flatMap Part.toWildcard

/-- A word as fields, matched against file names. -/
def expandFields (capture : Capture) (fuel : Nat) (word : Word) : Run (List Octets) := do
  let parts ← partsOf capture fuel (← withHome word)
  let fields := fieldsOf (← Run.separators) parts
  if ← Run.hasOption 'f' then return fields.map Wildcard.text
  else
    let found ← fields.mapM fun field => liftM (Wildcard.paths field)
    return found.flatten

/-- Words as fields, in order. -/
def expandWords (capture : Capture) (fuel : Nat) : List Word → Run (List Octets)
  | [] => return []
  | word :: words => do
      let first ← expandFields capture fuel word
      let others ← expandWords capture fuel words
      return first ++ others

end InterfaceAudit.Shell
