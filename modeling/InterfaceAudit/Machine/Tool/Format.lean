import InterfaceAudit.Machine.Tool.Characters
import InterfaceAudit.Machine.Tool.Decimal
import InterfaceAudit.Machine.Tool.Paths

/-!
Contract: formatted output.

Owns:
- escapes in their dialects;
- directives of formats, and why arguments do not fit them;
- echo in its two dialects, and printf.

Does not own: which dialect a caller gets.
-/

namespace InterfaceAudit.Tool

/-! ## Escapes -/

structure EscapeForm where
  /-- Whether a zero may be followed by three octal digits. -/
  hasLongOctal : Bool
  /-- Whether hexadecimal digits count. -/
  hasHex : Bool
  /-- Whether a double quote may be escaped. -/
  hasQuote : Bool
  /-- Whether an escape ends all output. -/
  hasEnd : Bool

inductive EscapeEnd where
  | whole
  /-- An escape ends all output. -/
  | ended
  /-- Hexadecimal digits are missing. -/
  | noDigits
deriving DecidableEq, Repr

/-- One escape behind its backslash: what it stands for, and what follows it. -/
def escapeAt (form : EscapeForm) (text : Octets) : Octets × Octets × EscapeEnd :=
  match text with
  | [] => (['\\'], [], .whole)
  | c :: rest =>
      match letterEscape? c with
      | some escaped => ([escaped], rest, .whole)
      | none =>
          if c == 'e' then (['\x1b'], rest, .whole)
          else if c == 'c' && form.hasEnd then ([], [], .ended)
          else if c == '"' && form.hasQuote then (['"'], rest, .whole)
          else if c == 'x' && form.hasHex then
            let digits := (rest.take 2).takeWhile (fun c => (Octets.digitOf? 16 c).isSome)
            if digits.isEmpty then
              if form.hasQuote then ([], rest, .noDigits) else (['\\', 'x'], rest, .whole)
            else ([charOf (Octets.valueOf 16 digits)], rest.drop digits.length, .whole)
          else if (c == 'u' || c == 'U') && form.hasHex && form.hasQuote then
            let room := if c == 'u' then 4 else 8
            let digits := (rest.take room).takeWhile (fun c => (Octets.digitOf? 16 c).isSome)
            if digits.length < room then ([], rest, .noDigits)
            else
              (Octets.ofString (String.singleton (Char.ofNat (Octets.valueOf 16 digits))),
                rest.drop room, .whole)
          else if '0' ≤ c && c ≤ '7' then
            let text := if c == '0' && form.hasLongOctal then rest else text
            let (digits, rest) := octalDigits 3 text
            ([octalChar digits], rest, .whole)
          else (['\\', c], rest, .whole)

/-- A text with its escapes resolved, and how it ends. -/
def unescape (form : EscapeForm) : Nat → Octets → List Octets → Octets × EscapeEnd
  | 0, _, done => (done.reverse.flatten, .whole)
  | fuel + 1, text, done =>
      match text with
      | [] => (done.reverse.flatten, .whole)
      | '\\' :: rest =>
          let (part, rest, ending) := escapeAt form rest
          if ending == .whole then unescape form fuel rest (part :: done)
          else (done.reverse.flatten, ending)
      | _ =>
          let plain := text.takeWhile (· != '\\')
          unescape form fuel (text.drop plain.length) (plain :: done)

/-- Escapes of echo as a command of the interpreter. -/
def builtinEscapes : EscapeForm := ⟨true, false, false, true⟩

/-- The output of echo as a command of the interpreter: escapes are always
resolved, and only `-n` is an option. -/
def echoBuiltin (arguments : List Octets) : Octets :=
  let (newline, arguments) :=
    match arguments with
    | ['-', 'n'] :: rest => (false, rest)
    | arguments => (true, arguments)
  let text := Octets.join [' '] arguments
  let (text, ending) := unescape builtinEscapes (text.length + 1) text []
  text ++ (if newline && ending == .whole then ['\n'] else [])

/-- Splits off the options of echo as a program. -/
def echoOptions : List Octets → Octets × List Octets
  | ('-' :: c :: letters) :: rest =>
      if (c :: letters).all (fun c => ['n', 'e', 'E'].contains c) then
        let (others, rest) := echoOptions rest
        (c :: letters ++ others, rest)
      else ([], ('-' :: c :: letters) :: rest)
  | arguments => ([], arguments)

/-- What echo writes if escapes are resolved only when asked for. -/
def echoPlain (arguments : List Octets) : Octets :=
  let (options, arguments) := echoOptions arguments
  let text := Octets.join [' '] arguments
  let (text, ending) :=
    if (options.filter (· != 'n')).getLast? == some 'e' then
      unescape ⟨true, true, false, true⟩ (text.length + 1) text []
    else (text, .whole)
  text ++ (if options.contains 'n' || ending != .whole then [] else ['\n'])

def echo : Program := fun call => do
  print (echoPlain call.arguments)
  return 0

/-! ## Misfits -/

/-- Why a format and its arguments do not fit. -/
inductive Misfit where
  /-- An argument that should be a number is none. -/
  | notNumber (argument : Octets)
  /-- An argument starts with a number, but goes on. -/
  | partlyNumber (argument : Octets)
  | outOfRange (argument : Octets)
  /-- More follows a character that stands for its number. -/
  | longCharacter (rest : Octets)
  | badDirective (directive : Octets)
  | noLetter
  | noDigits
deriving Repr

namespace Misfit

/-- The complaint of the interpreter about a misfit. -/
def text : Misfit → Octets
  | .notNumber argument => argument ++ Octets.ofString ": expected numeric value"
  | .partlyNumber argument => argument ++ Octets.ofString ": not completely converted"
  | .outOfRange argument => argument ++ Octets.ofString ": Numerical result out of range"
  | .longCharacter _ | .noDigits => []
  | .badDirective directive => directive ++ Octets.ofString ": invalid directive"
  | .noLetter => Octets.ofString "missing format character"

def programText : Misfit → String
  | .notNumber argument => named argument ++ ": expected a numeric value"
  | .partlyNumber argument => named argument ++ ": value not completely converted"
  | .outOfRange argument => named argument ++ ": Numerical result out of range"
  | .longCharacter rest =>
      "warning: " ++ rest.shown ++ ": character(s) following character constant have been ignored"
  | .badDirective directive => directive.shown ++ ": invalid conversion specification"
  | .noLetter => "%: invalid conversion specification"
  | .noDigits => "missing hexadecimal number in escape"

/-- Whether a misfit ends all output. -/
def isFinal : Misfit → Bool
  | .badDirective _ | .noLetter | .noDigits => true
  | _ => false

def isFailure : Misfit → Bool
  | .longCharacter _ => false
  | _ => true

end Misfit

/-! ## Numbers among the arguments -/

def quotedNumber? (isProgram : Bool) (argument : Octets) : Option (Nat × Option Misfit) :=
  match argument with
  | quote :: rest =>
      if quote != '\'' && quote != '"' then none
      else
        match rest with
        | [] => if isProgram then some (0, some (.notNumber argument)) else some (0, none)
        | c :: more =>
            some (c.toNat, if isProgram && !more.isEmpty then some (.longCharacter more) else none)
  | [] => none

/-- What does not fit about an argument of which a part was read as a number. -/
def numberMisfit (argument rest : Octets) (isEmpty isOut : Bool) : Option Misfit :=
  if !rest.isEmpty || isEmpty then
    if argument.isEmpty then none
    else if isEmpty then some (.notNumber argument) else some (.partlyNumber argument)
  else if isOut then some (.outOfRange argument)
  else none

/-- The whole number that an argument stands for, within its bounds, and why it
does not fit. -/
def argumentNumber (isProgram signed : Bool) (argument : Octets) : Int × Option Misfit :=
  match quotedNumber? isProgram argument with
  | some (value, misfit) => ((value : Nat), misfit)
  | none =>
      let (negative, digits) := Measure.signOf argument
      let isHexDigit (c : Char) : Bool := (Octets.digitOf? 16 c).isSome
      let (base, body) :=
        match digits with
        | '0' :: 'x' :: c :: rest | '0' :: 'X' :: c :: rest =>
            if isHexDigit c then (16, c :: rest) else (8, digits)
        | '0' :: _ => (8, digits)
        | digits => (10, digits)
      let used := body.takeWhile (fun c => (Octets.digitOf? base c).isSome)
      let value := Octets.valueOf base used
      let most : Nat :=
        if !signed then 0xffffffffffffffff
        else if negative then 0x8000000000000000
        else 0x7fffffffffffffff
      let bounded := min value most
      let result : Int :=
        if !negative then bounded
        else if signed || most < value then (if signed then -(bounded : Int) else bounded)
        else if bounded == 0 then 0
        else 0x10000000000000000 - (bounded : Int)
      (result, numberMisfit argument (body.drop used.length) used.isEmpty (most < value))

/-- The number with a fraction that an argument stands for, and why it does not
fit. The interpreter and the program differ in how exact it is. -/
def argumentMeasure (isProgram : Bool) (argument : Octets) : Measure × Option Misfit :=
  match quotedNumber? isProgram argument with
  | some (value, misfit) => ({ magnitude := .finite value 1 }, misfit)
  | none =>
      match Measure.read? argument with
      | none =>
          ({ magnitude := .finite 0 1 },
            numberMisfit argument argument true false)
      | some (measure, rest) =>
          let rounded := measure.rounded (if isProgram then 64 else 53)
          let isOut :=
            match measure.magnitude with
            | .finite top bottom =>
                !isProgram &&
                  (rounded.magnitude == .infinite || (top != 0 && top * Nat.pow 2 1022 < bottom))
            | _ => false
          (rounded, numberMisfit argument rest false isOut)

/-! ## Directives -/

structure Directive where
  flags : Octets := []
  width : Option Nat := none
  precision : Option Nat := none
  letter : Char

namespace Directive

def pad (directive : Directive) (text : Octets) : Octets :=
  let width := directive.width.getD 0
  if directive.flags.contains '-' then Octets.padRight width text else Octets.padLeft width text

def isZeroPadded (directive : Directive) : Bool :=
  directive.flags.contains '0' && !directive.flags.contains '-'

/-- Pads digits with zeros, behind their sign. -/
def padNumber (directive : Directive) (sign digits : Octets) : Octets :=
  let digits :=
    match directive.precision with
    | some precision =>
        if precision == 0 && digits == ['0'] then [] else Octets.padZeros precision digits
    | none =>
        if directive.isZeroPadded then
          Octets.padZeros (directive.width.getD 0 - sign.length) digits
        else digits
  directive.pad (sign ++ digits)

def sign (directive : Directive) (isNegative : Bool) : Octets :=
  if isNegative then ['-']
  else if directive.flags.contains '+' then ['+']
  else if directive.flags.contains ' ' then [' ']
  else []

/-- The text of a number that is taken as one without a sign. -/
def unsignedText (directive : Directive) (value : Nat) : Octets :=
  let marked := directive.flags.contains '#' && value != 0
  match directive.letter with
  | 'o' =>
      let digits := Nat.toDigits 8 value
      directive.padNumber [] (if marked then '0' :: digits else digits)
  | 'x' => directive.padNumber (if marked then ['0', 'x'] else []) (Nat.toDigits 16 value)
  | 'X' =>
      directive.padNumber (if marked then ['0', 'X'] else [])
        ((Nat.toDigits 16 value).map Char.toUpper)
  | _ => directive.padNumber [] (Octets.ofNat value)

def signedText (directive : Directive) (value : Int) : Octets :=
  directive.padNumber (directive.sign (value < 0)) (Octets.ofNat value.natAbs)

/-- The text of a number with a fraction. -/
def measureText (directive : Directive) (measure : Measure) : Octets :=
  let sign := directive.sign measure.isNegative
  let body := measure.text directive.letter (directive.flags.contains '#') (directive.precision.getD 6)
  if directive.isZeroPadded && measure.isFinite then
    sign ++ Octets.padZeros (directive.width.getD 0 - sign.length) body
  else directive.pad (sign ++ body)

def measureLetters : List Char := ['e', 'E', 'f', 'F', 'g', 'G']

/-- Letters for numbers without a sign. -/
def unsignedLetters : List Char := ['o', 'u', 'x', 'X']

def letters : List Char := ['s', 'c', 'd', 'i'] ++ unsignedLetters ++ measureLetters

/-- Whether the program takes a directive with its flags. -/
def isAllowed (directive : Directive) : Bool :=
  letters.contains directive.letter && directive.flags.all fun flag =>
    match flag with
    | '#' => !(['c', 'd', 'i', 's', 'u'].contains directive.letter)
    | '0' => !(['c', 's'].contains directive.letter)
    | _ => true

/-- The text of an argument under a directive, and why it does not fit. -/
def apply (isProgram : Bool) (directive : Directive) (argument : Octets) : Octets × Option Misfit :=
  let letter := directive.letter
  if letter == 's' then
    (directive.pad (match directive.precision with
      | some precision => argument.take precision
      | none => argument), none)
  else if letter == 'c' then (directive.pad [argument.headD '\x00'], none)
  else if measureLetters.contains letter then
    let (measure, misfit) := argumentMeasure isProgram argument
    (directive.measureText measure, misfit)
  else if unsignedLetters.contains letter then
    let (value, misfit) := argumentNumber isProgram false argument
    (directive.unsignedText value.toNat, misfit)
  else
    let (value, misfit) := argumentNumber isProgram true argument
    (directive.signedText value, misfit)

end Directive

/-! ## Formats -/

/-- The state of formatting: arguments to come, parts of the output in reverse,
misfits, and whether any argument was used in this round. -/
structure Formatting where
  isProgram : Bool
  arguments : List Octets
  parts : List Octets := []
  misfits : List Misfit := []
  used : Bool := false
  ended : Bool := false

namespace Formatting

def output (state : Formatting) : Octets := state.parts.reverse.flatten

/-- Takes the next argument; a missing one is empty. -/
def next (state : Formatting) : Octets × Formatting :=
  (state.arguments.headD [], { state with arguments := state.arguments.drop 1, used := true })

def say (state : Formatting) (text : Octets) : Formatting :=
  { state with parts := text :: state.parts }

def note (state : Formatting) (misfit? : Option Misfit) : Formatting :=
  { state with misfits := state.misfits ++ misfit?.toList }

/-- Ends all output because of a misfit. -/
def stop (state : Formatting) (misfit : Misfit) : Formatting :=
  { state.note misfit with ended := true }

/-- The exit code of the interpreter: 2 if a directive was malformed, 1 if an
argument did not fit. -/
def status (state : Formatting) : Nat :=
  if state.misfits.any Misfit.isFinal then 2
  else if state.misfits.any Misfit.isFailure then 1
  else 0

def sayEscaped (state : Formatting) (form : EscapeForm) (text : Octets) (pad : Octets → Octets) :
    Formatting :=
  match unescape form (text.length + 1) text [] with
  | (text, .whole) => state.say (pad text)
  | (text, .ended) => { state.say (pad text) with ended := true }
  | (text, .noDigits) => (state.say (pad text)).stop .noDigits

end Formatting

/-- A number in a directive, which an asterisk takes from the arguments. -/
def directiveNumber (text : Octets) (state : Formatting) : Option Int × Octets × Formatting :=
  match text with
  | '*' :: rest =>
      let (argument, state) := state.next
      let (value, misfit) := argumentNumber state.isProgram true argument
      (some value, rest, state.note misfit)
  | text =>
      let digits := text.takeWhile Char.isDigit
      ((Octets.natOf? digits).map Int.ofNat, text.drop digits.length, state)

/-- A text in quotes, if the interpreter needs them to read it as one word. -/
def quotedWord (text : Octets) : Octets :=
  let isPlain (c : Char) : Bool := c.isAlphanum || "_-./:,@%+=".toList.contains c
  if text.isEmpty then ['\'', '\'']
  else if text.all isPlain then text
  else '\'' :: (text.flatMap fun c => if c == '\'' then ['\'', '\\', '\'', '\''] else [c]) ++ ['\'']

/-- One directive behind its percent sign: the state after it, and what follows
it in the format. -/
def directiveAt (start : Octets) (state : Formatting) : Octets × Formatting :=
  let isProgram := state.isProgram
  match start with
  | '%' :: rest => (rest, state.say ['%'])
  | start =>
      let flags := start.takeWhile (fun c => ['-', '+', ' ', '0', '#'].contains c)
      let (width?, rest, state) := directiveNumber (start.drop flags.length) state
      let (precision?, rest, state) :=
        match rest with
        | '.' :: rest =>
            let (precision?, rest, state) := directiveNumber rest state
            (some (precision?.getD 0), rest, state)
        | rest => (none, rest, state)
      let rest := if isProgram then rest.dropWhile (['l', 'L', 'h', 'j', 't', 'z'].contains ·) else rest
      match rest with
      | [] =>
          ([], state.stop (if isProgram then .badDirective ('%' :: start) else .noLetter))
      | letter :: rest =>
          let directive : Directive := {
            flags := if width?.any (· < 0) then '-' :: flags else flags
            width := width?.map Int.natAbs
            precision := precision?.bind (fun value => if value < 0 then none else some value.toNat)
            letter }
          let written := '%' :: start.take (start.length - rest.length)
          if letter == 'b' && (!isProgram || written.length == 2) then
            let (argument, state) := state.next
            let form : EscapeForm := if isProgram then ⟨true, true, true, true⟩ else builtinEscapes
            (rest, state.sayEscaped form argument directive.pad)
          else if letter == 'q' && isProgram && written.length == 2 then
            let (argument, state) := state.next
            (rest, state.say (quotedWord argument))
          else if !Directive.letters.contains letter || (isProgram && !directive.isAllowed) then
            ([], state.stop (.badDirective written))
          else
            let (argument, state) := state.next
            let (text, misfit) := directive.apply isProgram argument
            (rest, (state.note misfit).say text)

/-- One round of a format over its arguments. -/
def formatOnce : Nat → Octets → Formatting → Formatting
  | 0, _, state => state
  | fuel + 1, text, state =>
      if state.ended then state
      else
        match text with
        | [] => state
        | '%' :: start =>
            let (rest, state) := directiveAt start state
            formatOnce fuel rest state
        | '\\' :: rest =>
            let isProgram := state.isProgram
            let (part, rest, ending) := escapeAt ⟨false, isProgram, isProgram, isProgram⟩ rest
            let state := state.say part
            match ending with
            | .whole => formatOnce fuel rest state
            | .ended => { state with ended := true }
            | .noDigits => state.stop .noDigits
        | text =>
            let plain := text.takeWhile (fun c => c != '%' && c != '\\')
            formatOnce fuel (text.drop plain.length) (state.say plain)

/-- Rounds of a format until the arguments are used up. -/
def formatRounds (format : Octets) : Nat → Formatting → Formatting
  | 0, state => state
  | fuel + 1, state =>
      let state := formatOnce (format.length + 1) format { state with used := false }
      if state.ended || !state.used || state.arguments.isEmpty then state
      else formatRounds format fuel state

def format (isProgram : Bool) (format : Octets) (arguments : List Octets) : Formatting :=
  formatRounds format (arguments.length + 1) { isProgram, arguments }

def printf : Program := fun call => do
  let arguments :=
    match call.arguments with
    | ['-', '-'] :: rest => rest
    | arguments => arguments
  match arguments with
  | [] => call.missingOperand
  | text :: arguments =>
      let formatted := format true text arguments
      print formatted.output
      flush
      for misfit in formatted.misfits do
        call.complain misfit.programText
      match formatted.arguments with
      | extra :: _ =>
          if !formatted.ended then
            call.complain ("warning: ignoring excess arguments, starting with " ++ named extra)
      | [] => pure ()
      return min formatted.status 1

end InterfaceAudit.Tool
