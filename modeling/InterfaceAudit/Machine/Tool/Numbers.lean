import InterfaceAudit.Machine.Tool.Format
import InterfaceAudit.Machine.Tool.Pattern

/-!
Contract: programs that count and compute.

Owns:
- seq, with all numbers held exactly;
- expr: its operators by precedence, and its complaints;
- factor.

Does not own: numbers with a fraction and their text.
-/

namespace InterfaceAudit.Tool

/-! ## Sequences -/

/-- A number of a sequence: a whole number of parts, and how many places its
numeral has behind the point; none if it has an exponent or is hexadecimal. -/
structure SequenceNumber where
  top : Int
  bottom : Nat
  places : Option Nat

/-- Why a number of a sequence is refused. -/
inductive SequenceFlaw where
  | malformed
  | undefined

/-- A number of a sequence; an end that is infinite has no value. -/
def sequenceNumber (text : Octets) : Except SequenceFlaw (Option SequenceNumber) :=
  match Measure.read? text with
  | some (measure, []) =>
      match measure.magnitude with
      | .undefined => .error .undefined
      | .infinite => .ok none
      | .finite top bottom =>
          let isPlain := text.all fun c => c.isDigit || ['.', '-', '+', ' '].contains c
          let part := (text.dropWhile (· != '.')).drop 1
          .ok (some {
            top := if measure.isNegative then -(top : Int) else top
            bottom
            places := if isPlain then some part.length else none })
  | _ => .error .malformed

/-- The text of a quotient with a number of places. -/
def placedText (places : Nat) (top : Int) (bottom : Nat) : Octets :=
  (if top < 0 then ['-'] else []) ++ Measure.fixedText false places top.natAbs bottom

/-- How the numbers of a sequence are written. -/
inductive SequenceForm where
  | places (count width : Nat)
  | format (front : Octets) (directive : Directive) (behind : Octets)

def SequenceForm.text (form : SequenceForm) (top : Int) (bottom : Nat) : Octets :=
  match form with
  | .places count width =>
      let digits := Measure.fixedText false count top.natAbs bottom
      if top < 0 then '-' :: Octets.padZeros (width - 1) digits else Octets.padZeros width digits
  | .format front directive behind =>
      front ++ directive.measureText { isNegative := top < 0, magnitude := .finite top.natAbs bottom } ++ behind

def halvedPercents : Octets → Octets
  | '%' :: '%' :: rest => '%' :: halvedPercents rest
  | c :: rest => c :: halvedPercents rest
  | [] => []

/-- The length of a text up to its first percent sign that is not doubled. -/
def lengthToPercent : Octets → Nat
  | '%' :: '%' :: rest => lengthToPercent rest + 2
  | '%' :: _ => 0
  | _ :: rest => lengthToPercent rest + 1
  | [] => 0

/-- The form that a format stands for, or the complaint about it. -/
def sequenceFormat (text : Octets) : Except String SequenceForm :=
  let wrong (words : String) : Except String SequenceForm :=
    .error ("format '" ++ text.shown ++ "' " ++ words)
  let front := text.take (lengthToPercent text)
  match text.drop front.length with
  | [] => wrong "has no % directive"
  | _ :: rest =>
      let flags := rest.takeWhile (['-', '+', ' ', '0', '#', '\''].contains ·)
      let rest := rest.drop flags.length
      let width := rest.takeWhile Char.isDigit
      let rest := rest.drop width.length
      let (precision, rest) :=
        match rest with
        | '.' :: more =>
            let digits := more.takeWhile Char.isDigit
            (some (Octets.valueOf 10 digits), more.drop digits.length)
        | rest => (none, rest)
      let rest := if rest.head? == some 'L' then rest.drop 1 else rest
      match rest with
      | [] => wrong "ends in %"
      | letter :: behind =>
          if !Directive.measureLetters.contains letter then
            wrong ("has unknown %" ++ Octets.shown [letter] ++ " directive")
          else if lengthToPercent behind < behind.length then wrong "has too many % directives"
          else
            .ok (.format (halvedPercents front) { flags, width := Octets.natOf? width, precision, letter }
              (halvedPercents behind))

/-- Prints a sequence: the number at hand, the step, the end, and how many are still
to come before a bound. -/
def printSequence (form : SequenceForm) (separator : Octets) (step : Int) (last? : Option Int) (bottom : Nat) :
    Nat → Bool → Int → Tool Unit
  | 0, _, _ => return
  | fuel + 1, isFirst, top => do
      let isOver := last?.any fun last => if 0 < step then last < top else top < last
      if isOver || (← get).failure.isSome then return
      else
        print ((if isFirst then [] else separator) ++ form.text top bottom)
        printSequence form separator step last? bottom fuel false (top + step)

/-- Whether an argument is a negative number rather than an option. -/
def isNegativeNumber (argument : Octets) : Bool :=
  match argument with
  | '-' :: c :: _ => c.isDigit || c == '.'
  | _ => false

/-- Options and operands, where what is no option is the first operand. -/
def sequenceArguments : List Octets → List Octets
  | [] => []
  | argument :: arguments =>
      if isNegativeNumber argument || argument.head? != some '-' then ['-', '-'] :: argument :: arguments
      else if argument == ['-', '-'] then argument :: arguments
      else if argument == ['-', 's'] || argument == ['-', 'f'] then
        match arguments with
        | value :: arguments => argument :: value :: sequenceArguments arguments
        | [] => [argument]
      else argument :: sequenceArguments arguments

def seq : Program := fun call =>
  { call with arguments := sequenceArguments call.arguments }.withOptions {
      flags := "w"
      valued := "fs"
      long := [("equal-width", 'w'), ("format", 'f'), ("separator", 's')]
      isMixed := false } fun options => do
    let operands := options.operands
    let flaw? := operands.findSome? fun operand =>
      match sequenceNumber operand with
      | .error flaw => some (operand, flaw)
      | .ok _ => none
    match operands.drop 3, flaw? with
    | extra :: _, _ => call.extraOperand extra
    | [], some (operand, .malformed) => call.misuse ("invalid floating point argument: " ++ named operand)
    | [], some (operand, .undefined) => call.misuse ("invalid 'not-a-number' argument: " ++ named operand)
    | [], none =>
        let number (operand : Octets) : Option SequenceNumber :=
          match sequenceNumber operand with
          | .ok number => number
          | .error _ => none
        let one : SequenceNumber := { top := 1, bottom := 1, places := some 0 }
        let (firstText, stepText, lastText) : Octets × Octets × Octets :=
          match operands with
          | [last] => (['1'], ['1'], last)
          | [first, last] => (first, ['1'], last)
          | first :: step :: last :: _ => (first, step, last)
          | [] => ([], [], [])
        if operands.isEmpty then call.missingOperand
        else
          let first := (number firstText).getD one
          let step := (number stepText).getD one
          let last? := number lastText
          if step.top == 0 then call.misuse ("invalid Zero increment value: " ++ named stepText)
          else if options.has 'w' && options.has 'f' then
            call.misuse "format string may not be specified when printing equal width strings"
          else
            let bottom := first.bottom * step.bottom * (last?.map SequenceNumber.bottom).getD 1
            let top (number : SequenceNumber) : Int := number.top * (bottom / number.bottom : Nat)
            let places := max (first.places.getD 0) (step.places.getD 0)
            let widthOf (number : SequenceNumber) : Nat :=
              (placedText places number.top number.bottom).length
            let width := if options.has 'w' then max (widthOf first) ((last?.map widthOf).getD 0) else 0
            match ((options.value? 'f').map sequenceFormat).getD (.ok (.places places width)) with
            | .error text => call.fail text
            | .ok form =>
                let last := last?.map top
                let isNone := last.any fun last =>
                  if 0 < step.top then last < top first else top first < last
                let separator := (options.value? 's').getD ['\n']
                printSequence form separator (top step) last bottom Task.endless true (top first)
                if !isNone then print ['\n']
                return 0

/-! ## Expressions -/

/-- Why an expression has no value. -/
inductive ExpressionFlaw where
  | missingAfter (word : Octets)
  | unexpected (word : Octets)
  | unexpectedClosing
  | noClosingAfter (word : Octets)
  | noClosingAt (word : Octets)
  | notNumber
  | dividedByZero
  | pattern (flaw : Pattern.Flaw)

def ExpressionFlaw.text : ExpressionFlaw → String
  | .missingAfter word => "syntax error: missing argument after " ++ named word
  | .unexpected word => "syntax error: unexpected argument " ++ named word
  | .unexpectedClosing => "syntax error: unexpected ')'"
  | .noClosingAfter word => "syntax error: expecting ')' after " ++ named word
  | .noClosingAt word => "syntax error: expecting ')' instead of " ++ named word
  | .notNumber => "non-integer argument"
  | .dividedByZero => "division by zero"
  | .pattern flaw => flaw.text

/-- What the reader of an expression carries along: the words to come, and the one
passed last. -/
structure ExpressionReading where
  words : List Octets
  passed : Octets := []

/-- Reads a part of an expression. With `isIdle` its value is of no interest. -/
abbrev ExpressionReader := StateT ExpressionReading (Except ExpressionFlaw)

namespace ExpressionReader

/-- Takes the next word, which must be there. -/
def take : ExpressionReader Octets := do
  let reading ← get
  match reading.words with
  | [] => throw (.missingAfter reading.passed)
  | word :: words =>
      set { words, passed := word : ExpressionReading }
      return word

/-- Takes the next word if it is one of some. -/
def among? (words : List String) : ExpressionReader (Option String) := do
  match (← get).words with
  | word :: _ =>
      match words.find? (fun known => known.toList == word) with
      | some known =>
          discard take
          return some known
      | none => return none
  | [] => return none

def isNull (value : Octets) : Bool :=
  value.isEmpty || (let digits := if value.head? == some '-' then value.drop 1 else value
    !digits.isEmpty && digits.all (· == '0'))

def integerOf? (value : Octets) : Option Int :=
  match value with
  | '-' :: digits => (Octets.natOf? digits).map fun number => -(number : Int)
  | digits => (Octets.natOf? digits).map Int.ofNat

/-- The integer that a value must be, unless it is of no interest. -/
def integer (isIdle : Bool) (value : Octets) : ExpressionReader Int :=
  match integerOf? value with
  | some number => return number
  | none => if isIdle then return 1 else throw .notNumber

/-- What a pattern matches at the start of a text: the part in its group, or the
length. -/
def matched (isIdle : Bool) (text source : Octets) : ExpressionReader Octets := do
  if isIdle then return []
  else
    match Pattern.ofText false source with
    | .error flaw => throw (.pattern flaw)
    | .ok pattern =>
        let hasGroup := (source.zip (source.drop 1)).contains ('\\', '(')
        match pattern.longestAt false { behind := [], ahead := text } with
        | some place =>
            if hasGroup then return (place.captures.lookup 1).getD []
            else return Octets.ofNat (text.length - place.ahead.length)
        | none => return if hasGroup then [] else ['0']

def compared (sign : String) (x y : Octets) : Bool :=
  let order : Ordering :=
    match integerOf? x, integerOf? y with
    | some x, some y => compare x y
    | _, _ => if x == y then .eq else if Octets.before x y then .lt else .gt
  match sign with
  | "<" => order == .lt
  | "<=" => order != .gt
  | ">" => order == .gt
  | ">=" => order != .lt
  | "!=" => order != .eq
  | _ => order == .eq

def truth (value : Bool) : Octets := if value then ['1'] else ['0']

mutual

/-- Operands with an or between them. -/
def eitherLevel : Nat → Bool → ExpressionReader Octets
  | 0, _ => throw .notNumber
  | fuel + 1, isIdle => do
      let mut left ← bothLevel fuel isIdle
      for _ in (← get).words do
        match ← among? ["|"] with
        | none => break
        | some _ =>
            let right ← bothLevel fuel (isIdle || !isNull left)
            if isNull left then left := if isNull right then ['0'] else right
      return left

/-- Operands with an and between them. -/
def bothLevel : Nat → Bool → ExpressionReader Octets
  | 0, _ => throw .notNumber
  | fuel + 1, isIdle => do
      let mut left ← comparisonLevel fuel isIdle
      for _ in (← get).words do
        match ← among? ["&"] with
        | none => break
        | some _ =>
            let right ← comparisonLevel fuel (isIdle || isNull left)
            if isNull left || isNull right then left := ['0']
      return left

def comparisonLevel : Nat → Bool → ExpressionReader Octets
  | 0, _ => throw .notNumber
  | fuel + 1, isIdle => do
      let mut left ← sumLevel fuel isIdle
      for _ in (← get).words do
        match ← among? ["<", "<=", "=", "==", "!=", ">=", ">"] with
        | none => break
        | some sign => left := truth (compared sign left (← sumLevel fuel isIdle))
      return left

/-- Operands that are added and subtracted. -/
def sumLevel : Nat → Bool → ExpressionReader Octets
  | 0, _ => throw .notNumber
  | fuel + 1, isIdle => do
      let mut left ← productLevel fuel isIdle
      for _ in (← get).words do
        match ← among? ["+", "-"] with
        | none => break
        | some sign =>
            let right ← productLevel fuel isIdle
            let x ← integer isIdle left
            let y ← integer isIdle right
            left := Octets.ofInt (if sign == "+" then x + y else x - y)
      return left

/-- Operands that are multiplied and divided. -/
def productLevel : Nat → Bool → ExpressionReader Octets
  | 0, _ => throw .notNumber
  | fuel + 1, isIdle => do
      let mut left ← matchLevel fuel isIdle
      for _ in (← get).words do
        match ← among? ["*", "/", "%"] with
        | none => break
        | some sign =>
            let right ← matchLevel fuel isIdle
            let x ← integer isIdle left
            let y ← integer isIdle right
            if sign != "*" && y == 0 && !isIdle then throw .dividedByZero
            else
              left := Octets.ofInt (if sign == "*" then x * y else if sign == "/" then x.tdiv y else x.tmod y)
      return left

def matchLevel : Nat → Bool → ExpressionReader Octets
  | 0, _ => throw .notNumber
  | fuel + 1, isIdle => do
      let mut left ← operand fuel isIdle
      for _ in (← get).words do
        match ← among? [":"] with
        | none => break
        | some _ =>
            let right ← operand fuel isIdle
            left ← matched isIdle left right
      return left

/-- A word, a call of a function, or an expression in parentheses. -/
def operand : Nat → Bool → ExpressionReader Octets
  | 0, _ => throw .notNumber
  | fuel + 1, isIdle => do
      match ← among? ["(", ")", "+", "length", "match", "substr", "index"] with
      | some "(" =>
          let value ← eitherLevel fuel isIdle
          match (← get).words with
          | [')'] :: _ =>
              discard take
              return value
          | [] => throw (.noClosingAfter (← get).passed)
          | word :: _ => throw (.noClosingAt word)
      | some ")" => throw .unexpectedClosing
      | some "+" => take
      | some "length" => return Octets.ofNat (← operand fuel isIdle).length
      | some "match" =>
          let text ← operand fuel isIdle
          let pattern ← operand fuel isIdle
          matched isIdle text pattern
      | some "index" =>
          let text ← operand fuel isIdle
          let chars ← operand fuel isIdle
          let position := (text.takeWhile (fun c => !chars.contains c)).length
          return Octets.ofNat (if position < text.length then position + 1 else 0)
      | some _ =>
          let text ← operand fuel isIdle
          let start ← operand fuel isIdle
          let length ← operand fuel isIdle
          match integerOf? start, integerOf? length with
          | some start, some length =>
              if start ≤ 0 || length ≤ 0 then return []
              else return (text.drop (start.toNat - 1)).take length.toNat
          | _, _ => return []
      | none => take

end

def whole : ExpressionReader Octets := do
  let value ← eitherLevel (20 * (← get).words.length + 20) false
  match (← get).words with
  | [] => return value
  | word :: _ => throw (.unexpected word)

end ExpressionReader

def expr : Program := fun call => do
  let words := if call.arguments.head? == some ['-', '-'] then call.arguments.drop 1 else call.arguments
  if words.isEmpty then call.misuse "missing operand" 2
  else
    match ExpressionReader.whole.run { words } with
    | .error flaw => call.fail flaw.text 2
    | .ok (value, _) =>
        printLine value
        return if ExpressionReader.isNull value then 1 else 0

/-! ## Factors -/

/-- The prime factors of a number from one on, in ascending order. -/
def factorsFrom : Nat → Nat → Nat → List Nat
  | 0, _, value => [value]
  | fuel + 1, least, value =>
      if value < 2 then []
      else if value < least * least then [value]
      else if value % least == 0 then least :: factorsFrom fuel least (value / least)
      else factorsFrom fuel (least + 1) value

def factor : Program := fun call =>
  call.withOptions { flags := "h" } fun options => do
    let words ←
      if options.operands.isEmpty then do
        let text ← liftM (Task.readAll 0)
        pure ((Octets.splitAt '\n' (text.toOption.getD [])).flatMap (Octets.splitAt ' '))
      else pure options.operands
    forEach (fun word => do
      match Octets.natOf? word with
      | none => call.fail (named word ++ " is not a valid positive integer")
      | some value =>
          let factors := factorsFrom 10000000 2 value
          printLine (Octets.ofNat value ++ ':' :: factors.flatMap fun factor => ' ' :: Octets.ofNat factor)
          return 0) (words.filter (fun word => !word.isEmpty))

end InterfaceAudit.Tool
