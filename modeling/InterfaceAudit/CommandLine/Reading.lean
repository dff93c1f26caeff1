import InterfaceAudit.CommandLine.Misuse
import InterfaceAudit.Path

/-!
Contract: reading arguments.

Owns:
- the forms in which switches and their values can be written;
- environment variables that stand in for switches;
- which of several misuses is reported: the first one met, and only then what
  excludes each other, and only then what is missing;
- the tasks that arguments describe.

Does not own: carrying out a task.
-/

namespace InterfaceAudit.CommandLine

/-- Why no task came out of arguments. -/
inductive Halt where
  /-- Help was asked for, about a command or the program. -/
  | help (topic : Option Verb)
  | version
  /-- There are no arguments at all. -/
  | nothing
  | misuse (misuse : Misuse)
deriving DecidableEq, Repr

/-! ## Values -/

/-- One digit more of a number of 64 bits. -/
def addDigit (value : Nat) (c : Char) : Except String Nat :=
  let limit := 0x10000000000000000
  if !c.isDigit then .error "invalid digit found in string"
  else if limit ≤ value * 10 then .error "number too large to fit in target type"
  else
    let next := value * 10 + (c.toNat - 48)
    if limit ≤ next then .error "number too large to fit in target type" else .ok next

/-- The number of a numeral with an optional plus sign. -/
def countOf (text : String) : Except String Nat :=
  match text.toList with
  | [] => .error "cannot parse integer from empty string"
  | ['+'] => .error "invalid digit found in string"
  | '+' :: digits => digits.foldlM addDigit 0
  | digits => digits.foldlM addDigit 0

def checkValue (switch : Switch) (value : String) : Except Halt Unit :=
  match switch.value with
  | some (_, .path) =>
      if value.isEmpty then .error (.misuse (.missingValue switch)) else .ok ()
  | some (_, .count) =>
      match countOf value with
      | .ok _ => .ok ()
      | .error reason => .error (.misuse (.badValue switch value reason))
  | _ => .ok ()

/-! ## Switches that were given -/

/-- Switches in the order in which they were given, with their values. -/
abbrev Given := List (Switch × String)

namespace Given

def values (given : Given) (key : Key) : List String :=
  (given.filter (fun entry => entry.1.key == key)).map Prod.snd

def has (given : Given) (key : Key) : Bool :=
  !(given.values key).isEmpty

def value? (given : Given) (key : Key) : Option String :=
  (given.values key).getLast?

/-- The switches that were given, each once. -/
def switches (given : Given) : List Switch :=
  (given.map Prod.fst).eraseDups

def add (given : Given) (switch : Switch) (value : Option String) : Except Halt Given := do
  if switch.key == .help then throw (.help none)
  if switch.key == .version then throw .version
  if switch.value.isSome && value.isNone then throw (.misuse (.missingValue switch))
  if !switch.repeatable && given.has switch.key then throw (.misuse (.repeated switch))
  let value := value.getD ""
  checkValue switch value
  return given ++ [(switch, value)]

end Given

/-! ## Arguments -/

/-- Where the reading of arguments stands. A switch with a value is taken in
only when the next one is met, so that what is unknown is reported first. -/
structure Progress where
  given : Given := []
  /-- A switch that is still to be taken in, with its value once that is read. -/
  pending : Option (Switch × Option String) := none
  /-- Whether a double hyphen has ended the switches. -/
  ended : Bool := false

namespace Progress

/-- Takes in the pending switch. -/
def settle (progress : Progress) : Except Halt Progress := do
  match progress.pending with
  | none => return progress
  | some (switch, value) =>
      return { progress with given := ← progress.given.add switch value, pending := none }

/-- Takes in a switch behind the pending one. -/
def add (progress : Progress) (switch : Switch) (value : Option String) :
    Except Halt Progress := do
  let progress ← progress.settle
  return { progress with given := ← progress.given.add switch value }

/-- Waits for the value of a switch. -/
def await (progress : Progress) (switch : Switch) : Except Halt Progress := do
  let progress ← progress.settle
  return { progress with pending := some (switch, none) }

/-- Whether the next word is the value of a switch. -/
def isWaiting (progress : Progress) : Bool :=
  match progress.pending with
  | some (_, none) => true
  | _ => false

def takeValue (progress : Progress) (value : String) : Progress :=
  { progress with pending := progress.pending.map fun (switch, _) => (switch, some value) }

/-- Reads letters behind a single hyphen. A letter whose switch has a value
takes the rest as that value, behind an optional equals sign. -/
def readLetters (switches : List Switch) : List Char → Progress → Except Halt Progress
  | [], progress => .ok progress
  | letter :: rest, progress =>
      match switches.find? (fun switch => switch.letter == some letter) with
      | none => .error (.misuse (.unknownArgument ("-" ++ String.singleton letter)))
      | some switch =>
          if switch.value.isNone then do
            readLetters switches rest (← progress.add switch none)
          else
            match rest with
            | [] => progress.await switch
            | '=' :: value => progress.add switch (some (String.ofList value))
            | value => progress.add switch (some (String.ofList value))

/-- Reads what stands behind two hyphens: a name, perhaps with a value behind
an equals sign. -/
def readName (switches : List Switch) (text : List Char) (progress : Progress) :
    Except Halt Progress :=
  let name := String.ofList (text.takeWhile (· != '='))
  let value :=
    match text.dropWhile (· != '=') with
    | [] => none
    | _ :: value => some (String.ofList value)
  match switches.find? (fun switch => switch.name == name) with
  | none => .error (.misuse (.unknownArgument ("--" ++ name)))
  | some switch =>
      match switch.value, value with
      | none, some value => .error (.misuse (.unexpectedValue switch value))
      | none, none => progress.add switch none
      | some _, some value => progress.add switch (some value)
      | some _, none => progress.await switch

end Progress

def isEnd (word : String) : Bool := word == "--"

/-- The misuse of a word that is neither a switch nor a value. -/
def strayWord (commands : List String) (progress : Progress) (word : String) : Misuse :=
  if commands.isEmpty || (progress.ended && commands.contains word) then .unknownArgument word
  else .unknownCommand word

/-- Reads arguments up to the word that names a command, and gives that word
with the arguments behind it. -/
def readWords (switches : List Switch) (commands : List String) :
    List String → Progress → Except Halt (Progress × Option (String × List String))
  | [], progress => .ok (progress, none)
  | word :: words, progress => do
      if progress.ended then throw (.misuse (strayWord commands progress word))
      else if !progress.isWaiting && commands.contains word then
        return (progress, some (word, words))
      else if isEnd word then readWords switches commands words { progress with ended := true }
      else
        match word.toList with
        | '-' :: '-' :: text =>
            readWords switches commands words (← progress.readName switches text)
        | '-' :: letter :: letters =>
            readWords switches commands words (← progress.readLetters switches (letter :: letters))
        | _ =>
            if progress.isWaiting then
              readWords switches commands words (progress.takeValue word)
            else throw (.misuse (strayWord commands progress word))

/-! ## What belongs together -/

/-- Lets environment variables stand in for switches that were not given. -/
def addVariables (environment : String → Option String) : List Switch → Given → Except Halt Given
  | [], given => .ok given
  | switch :: switches, given => do
      match switch.variableName.bind environment with
      | some value =>
          if given.has switch.key then addVariables environment switches given
          else addVariables environment switches (← given.add switch (some value))
      | none => addVariables environment switches given

def exclusions (given : Given) (switch : Switch) : List Switch :=
  given.switches.filter (fun other => excludes switch.key other.key)

def checkExclusions (given : Given) : Except Halt Unit :=
  match given.switches.find? (fun switch => !(exclusions given switch).isEmpty) with
  | none => .ok ()
  | some switch => .error (.misuse (.excluded switch (exclusions given switch)))

def checkRequired (switches : List Switch) (given : Given) : Except Halt Unit :=
  match switches.filter (fun switch => switch.required && !given.has switch.key) with
  | [] => .ok ()
  | missing => .error (.misuse (.missingSwitches missing))

/-! ## Tasks -/

structure Validation where
  manifest : Path
  subject : Option String := none
  entryCommand : String := "bundle exec ruby"
  timeout : UInt64 := 300
  workRoot : Option Path := none
  keepWorkdir : Bool := false
  noBundle : Bool := false
  installCommand : String := "bundle install"
  subjectPath : Option Path := none
  subjectVersion : Option String := none
  gems : List String := []
  reportJson : Bool := false
deriving DecidableEq, Repr

structure Rendering where
  manifest : Path
  output : Option Path := none
deriving DecidableEq, Repr

inductive Task where
  | validate (validation : Validation)
  | render (rendering : Rendering)
deriving DecidableEq, Repr

/-- A task, and how its events are logged. -/
structure Order where
  verbose : Bool
  json : Bool
  task : Task
deriving DecidableEq, Repr

def Given.path? (given : Given) (key : Key) : Option Path :=
  (given.value? key).map Path.ofString

def Given.count? (given : Given) (key : Key) : Option UInt64 :=
  (given.value? key).bind fun text => (countOf text).toOption.map UInt64.ofNat

def taskOf (given : Given) : Verb → Task
  | .validate =>
      let standard : Validation := { manifest := (given.path? .manifest).getD default }
      .validate { standard with
        subject := given.value? .subject
        entryCommand := (given.value? .entryCommand).getD standard.entryCommand
        timeout := (given.count? .timeout).getD standard.timeout
        workRoot := given.path? .workRoot
        keepWorkdir := given.has .keepWorkdir
        noBundle := given.has .noBundle
        installCommand := (given.value? .installCommand).getD standard.installCommand
        subjectPath := given.path? .subjectPath
        subjectVersion := given.value? .subjectVersion
        gems := given.values .gem
        reportJson := given.has .reportJson }
  | .render =>
      .render {
        manifest := (given.path? .manifest).getD default
        output := given.path? .output }

/-- Help asked for by name: about the program, or about a command. -/
def helpAbout : List String → Halt
  | [] => .help none
  | word :: words =>
      let verb? := Verb.all.find? (fun verb => verb.name == word)
      if verb?.isNone && word != helpName then .misuse (.unknownCommand word)
      else
        match words with
        | [] => .help verb?
        | word :: _ => .misuse (.unknownCommand word)

def aboutVerb {α : Type} (verb : Verb) (result : Except Halt α) : Except Halt α :=
  result.mapError fun
    | .help _ => .help (some verb)
    | halt => halt

def readVerb (environment : String → Option String) (verb : Verb) (words : List String) :
    Except Halt Given :=
  aboutVerb verb do
    let (progress, _) ← readWords verb.switches [] words {}
    let progress ← progress.settle
    let given ← addVariables environment verb.switches progress.given
    checkExclusions given
    checkRequired verb.switches given
    return given

def Order.ofArguments (environment : String → Option String) (words : List String) :
    Except Halt Order := do
  let (progress, command?) ← readWords topSwitches commandNames words {}
  match command? with
  | none =>
      if progress.given.isEmpty then throw .nothing else throw (.misuse .missingCommand)
  | some (word, words) =>
      match Verb.all.find? (fun verb => verb.name == word) with
      | none => throw (helpAbout words)
      | some verb =>
          let given ← readVerb environment verb words
          return {
            verbose := progress.given.has .verbose || given.has .verbose
            json := progress.given.has .json || given.has .json
            task := taskOf given verb }

end InterfaceAudit.CommandLine
