import InterfaceAudit.Machine.Tool.Awk.Scanner

/-!
Contract: the grammar of the language of rules.

Owns:
- expressions by their precedence, statements, rules and functions;
- where names may stand for arrays and where statements may stand;
- the complaints about what does not fit.

Does not own: the meaning of rules.
-/

namespace InterfaceAudit.Tool.Awk

structure Parsing where
  tokens : List (Token × Nat)
  functions : List Octets
  called : List Octets := []
  /-- The names that stand for arrays, and those that do not. -/
  arrays : List Octets := []
  scalars : List Octets := []
  /-- The parameters of the function that is read. -/
  parameters : Option (List Octets) := none
  parentheses : Nat := 0
  braces : Nat := 0
  loops : Nat := 0
  isRule : Bool := false
  /-- How many rules reach from a record to another one. -/
  ranges : Nat := 0

abbrev Parser := StateT Parsing (Except (List Complaint))

namespace Parser

def peek : Parser Token := do return ((← get).tokens.head?.map Prod.fst).getD .ending

def line : Parser Nat := do return ((← get).tokens.head?.map Prod.snd).getD 0

def advance : Parser Unit := modify fun state =>
  let state' := { state with tokens := state.tokens.drop 1 }
  match state.tokens.head?.map Prod.fst with
  | some (.symbol "(") => { state' with parentheses := state.parentheses + 1 }
  | some (.symbol ")") => { state' with parentheses := state.parentheses - 1 }
  | some (.symbol "\x7b") => { state' with braces := state.braces + 1 }
  | some (.symbol "\x7d") => { state' with braces := state.braces - 1 }
  | _ => state'

def complain {α : Type} (text : String) : Parser α := do throw [⟨some (← line), text⟩]

/-- Complains about the next token. -/
def unexpected {α : Type} : Parser α := do
  let state ← get
  let line ← line
  let extra (sign : String) : Parser α :=
    throw [⟨some line, "extra '" ++ sign ++ "'"⟩, ⟨some line, "syntax error at or near end of line"⟩]
  match ← peek with
  | .ending =>
      if state.braces == 0 then throw [⟨some (line - 1), "syntax error at or near end of line"⟩]
      else complain "missing \x7d near end of file"
  | .symbol "\x7d" =>
      if state.braces == 0 then extra "\x7d"
      else if 0 < state.parentheses then complain "missing ) near \x7d"
      else complain "syntax error at or near \x7d"
  | .symbol ")" =>
      if state.parentheses == 0 then extra ")" else complain "syntax error at or near )"
  | token => complain ("syntax error at or near " ++ token.shown)

def isNext (sign : String) : Parser Bool := do return (← peek) == .symbol sign

/-- Passes over a sign if it is next. -/
def accept (sign : String) : Parser Bool := do
  if ← isNext sign then
    advance
    return true
  else return false

/-- Passes over a sign that must be next. -/
def expect (sign : String) : Parser Unit := do
  if !(← accept sign) then unexpected

def skipLines : Nat → Parser Unit
  | 0 => return
  | fuel + 1 => do
      if (← peek) == .newline then
        advance
        skipLines fuel

/-- Passes over all ends of lines that are next. -/
def skipAllLines : Parser Unit := do skipLines ((← get).tokens.length + 1)

def noteArray (name : Octets) : Parser Unit := do
  let state ← get
  if !(state.parameters.getD []).contains name then
    if state.scalars.contains name then complain ("illegal reference to variable " ++ name.shown)
    else set { state with arrays := name :: state.arrays }

/-- Notes that a name does not stand for an array. -/
def noteScalar (name : Octets) : Parser Unit := do
  let state ← get
  if !(state.parameters.getD []).contains name then
    if state.arrays.contains name then complain ("illegal reference to array " ++ name.shown)
    else set { state with scalars := name :: state.scalars }

def placeOf (name : Octets) : Place :=
  if name == ['N', 'F'] then .fieldCount else .variable name

/-- The signs that assign, with the operators that they apply first. -/
def assignments : List (String × Option Arithmetic) := [
  ("=", none), ("+=", some .add), ("-=", some .subtract), ("*=", some .multiply), ("/=", some .divide),
  ("%=", some .remainder), ("^=", some .power)]

def comparisons : List (String × Comparison) := [
  ("<", .less), ("<=", .lessEqual), ("==", .equal), ("!=", .notEqual), (">", .greater), (">=", .greaterEqual)]

/-- The functions that the language provides, with how many arguments they take. -/
def provided : List (String × Provided × Nat × Nat) := [
  ("length", .length, 0, 1), ("substr", .substring, 2, 3), ("index", .index, 2, 2), ("split", .split, 2, 3),
  ("match", .find, 2, 2), ("sprintf", .format, 1, 1000), ("tolower", .lower, 1, 1),
  ("toupper", .upper, 1, 1), ("system", .system, 1, 1), ("close", .close, 1, 1), ("fflush", .flush, 0, 1),
  ("sin", .sine, 1, 1), ("cos", .cosine, 1, 1), ("atan2", .arcTangent, 2, 2), ("exp", .exponential, 1, 1),
  ("log", .logarithm, 1, 1), ("sqrt", .squareRoot, 1, 1), ("int", .whole, 1, 1), ("rand", .random, 0, 0),
  ("srand", .seed, 0, 1), ("systime", .clock, 0, 0)]

def operator? {α : Type} (table : List (String × α)) : Parser (Option α) := do
  match ← peek with
  | .symbol sign => return table.lookup sign
  | _ => return none

/-- Whether the next token starts an operand that may stand right behind another
one. -/
def startsOperand : Parser Bool := do
  match ← peek with
  | .number _ | .text _ | .pattern _ | .name _ | .call _ => return true
  | .symbol sign =>
      return ["(", "$", "!", "++", "--", "sub", "gsub"].contains sign || (provided.lookup sign).isSome
  | _ => return false

def isStatementEnd : Parser Bool := do
  match ← peek with
  | .newline | .ending => return true
  | .symbol sign => return [";", "\x7d", ">", ">>", "|"].contains sign
  | _ => return false

def pattern (source : Octets) : Parser Pattern := do
  match patternOf source with
  | .ok pattern => return pattern
  | .error text => complain text

mutual

/-- An expression. With `isBare` a larger-than sign is not part of it. -/
def expression : Nat → Bool → Parser Expression
  | 0, _ => unexpected
  | fuel + 1, isBare => do
      let condition ← eitherLevel fuel isBare
      if ← accept "?" then
        let yes ← expression fuel isBare
        skipAllLines
        expect ":"
        let no ← expression fuel isBare
        return .choice condition yes no
      else return condition

/-- Operands with an or between them. -/
def eitherLevel : Nat → Bool → Parser Expression
  | 0, _ => unexpected
  | fuel + 1, isBare => do
      let mut left ← bothLevel fuel isBare
      for _ in (← get).tokens do
        if ← accept "||" then
          skipAllLines
          left := .either left (← bothLevel fuel isBare)
        else break
      return left

/-- Operands with an and between them. -/
def bothLevel : Nat → Bool → Parser Expression
  | 0, _ => unexpected
  | fuel + 1, isBare => do
      let mut left ← memberLevel fuel isBare
      for _ in (← get).tokens do
        if ← accept "&&" then
          skipAllLines
          left := .both left (← memberLevel fuel isBare)
        else break
      return left

/-- An operand that is looked for in arrays. -/
def memberLevel : Nat → Bool → Parser Expression
  | 0, _ => unexpected
  | fuel + 1, isBare => do
      let mut left ← matchLevel fuel isBare
      for _ in (← get).tokens do
        if ← accept "in" then
          match ← peek with
          | .name name =>
              advance
              noteArray name
              left := .isMember (match left with | .group items => items | item => [item]) name
          | _ => unexpected
        else break
      return left

def matchLevel : Nat → Bool → Parser Expression
  | 0, _ => unexpected
  | fuel + 1, isBare => do
      let mut left ← comparisonLevel fuel isBare
      for _ in (← get).tokens do
        if ← accept "~" then left := .isMatch false left (← comparisonLevel fuel isBare)
        else if ← accept "!~" then left := .isMatch true left (← comparisonLevel fuel isBare)
        else break
      return left

def comparisonLevel : Nat → Bool → Parser Expression
  | 0, _ => unexpected
  | fuel + 1, isBare => do
      let mut left ← concatenationLevel fuel
      for _ in (← get).tokens do
        match ← operator? comparisons with
        | some operator =>
            if isBare && operator == .greater then break
            advance
            left := .comparison operator left (← concatenationLevel fuel)
        | none => break
      return left

/-- Operands that stand side by side. -/
def concatenationLevel : Nat → Parser Expression
  | 0 => unexpected
  | fuel + 1 => do
      let mut left ← sumLevel fuel
      for _ in (← get).tokens do
        if ← startsOperand then left := .concatenation left (← sumLevel fuel) else break
      return left

/-- Operands that are added and subtracted. -/
def sumLevel : Nat → Parser Expression
  | 0 => unexpected
  | fuel + 1 => do
      let mut left ← productLevel fuel
      for _ in (← get).tokens do
        match ← operator? [("+", Arithmetic.add), ("-", .subtract)] with
        | some operator =>
            advance
            left := .arithmetic operator left (← productLevel fuel)
        | none => break
      return left

/-- Operands that are multiplied and divided. -/
def productLevel : Nat → Parser Expression
  | 0 => unexpected
  | fuel + 1 => do
      let mut left ← signLevel fuel
      for _ in (← get).tokens do
        match ← operator? [("*", Arithmetic.multiply), ("/", .divide), ("%", .remainder)] with
        | some operator =>
            advance
            left := .arithmetic operator left (← signLevel fuel)
        | none => break
      return left

def signLevel : Nat → Parser Expression
  | 0 => unexpected
  | fuel + 1 => do
      if ← accept "!" then return .not (← signLevel fuel)
      else if ← accept "-" then return .minus (← signLevel fuel)
      else if ← accept "+" then return .plus (← signLevel fuel)
      else
        let mut left ← powerLevel fuel
        for _ in (← get).tokens do
          match (← get).tokens with
          | (.symbol "|", _) :: (.symbol "getline", _) :: _ =>
              advance
              advance
              left := .nextRecord .command (some left) (← target? fuel)
          | _ => break
        return left

def powerLevel : Nat → Parser Expression
  | 0 => unexpected
  | fuel + 1 => do
      let base ← operand fuel
      if ← accept "^" then
        let exponent ←
          if (← isNext "-") || (← isNext "+") || (← isNext "!") then signLevel fuel else powerLevel fuel
        return .arithmetic .power base exponent
      else return base

/-- A place that may follow. -/
def target? : Nat → Parser (Option Place)
  | 0 => unexpected
  | fuel + 1 => do
      match ← peek with
      | .name _ | .symbol "$" => return some (← place fuel)
      | _ => return none

def place : Nat → Parser Place
  | 0 => unexpected
  | fuel + 1 => do
      match ← peek with
      | .name name =>
          advance
          if ← accept "[" then
            noteArray name
            let subscripts ← listed fuel
            expect "]"
            return .element name subscripts
          else
            noteScalar name
            return placeOf name
      | .symbol "$" =>
          advance
          if ← accept "++" then return .field (.step true true (← place fuel))
          else if ← accept "--" then return .field (.step true false (← place fuel))
          else if ← accept "-" then return .field (.minus (← operand fuel))
          else
            match ← peek with
            | .name _ | .symbol "$" => return .field (.read (← place fuel))
            | _ => return .field (← operand fuel)
      | _ => unexpected

/-- What may follow a place: an assignment, or a step. -/
def behindPlace : Nat → Place → Parser Expression
  | 0, _ => unexpected
  | fuel + 1, target => do
      match ← operator? assignments with
      | some operator =>
          advance
          skipAllLines
          return .assign operator target (← expression fuel false)
      | none =>
          if ← accept "++" then return .step false true target
          else if ← accept "--" then return .step false false target
          else return .read target

def listed : Nat → Parser (List Expression)
  | 0 => unexpected
  | fuel + 1 => do
      let first ← expression fuel false
      if ← accept "," then
        skipAllLines
        return first :: (← listed fuel)
      else return [first]

/-- Arguments behind the opening parenthesis. Names that stand alone may be
arrays. -/
def arguments : Nat → Parser (List Expression)
  | 0 => unexpected
  | fuel + 1 => do
      skipAllLines
      if ← accept ")" then return []
      else
        let argument ← match (← get).tokens with
          | (.name name, _) :: (.symbol sign, _) :: _ =>
              if sign == "," || sign == ")" then do
                advance
                pure (.read (placeOf name))
              else expression fuel false
          | _ => expression fuel false
        skipAllLines
        if ← accept "," then
          skipAllLines
          if ← isNext ")" then unexpected
          else return argument :: (← arguments fuel)
        else
          expect ")"
          return [argument]

/-- A call of a function of the rules behind its opening parenthesis. -/
def callOf : Nat → Octets → Parser Expression
  | 0, _ => unexpected
  | fuel + 1, name => do
      let given ← arguments fuel
      modify fun state => { state with called := name :: state.called }
      return .call name given

def operand : Nat → Parser Expression
  | 0 => unexpected
  | fuel + 1 => do
      match ← peek with
      | .number value =>
          advance
          return .number value
      | .text held =>
          advance
          return .text held
      | .pattern source =>
          let pattern ← pattern source
          advance
          return .pattern pattern
      | .call name =>
          advance
          advance
          callOf fuel name
      | .name name =>
          if (← get).functions.contains name then
            advance
            expect "("
            callOf fuel name
          else behindPlace fuel (← place fuel)
      | .symbol sign =>
          if sign == "(" then
            advance
            let items ← listed fuel
            skipAllLines
            expect ")"
            match items with
            | [item] => return item
            | items => if ← isNext "in" then return .group items else unexpected
          else if sign == "$" then behindPlace fuel (← place fuel)
          else if sign == "++" || sign == "--" then
            advance
            return .step true (sign == "++") (← place fuel)
          else if sign == "-" || sign == "+" || sign == "!" then signLevel fuel
          else if sign == "getline" then
            advance
            let target ← target? fuel
            if ← accept "<" then return .nextRecord .file (some (← powerLevel fuel)) target
            else return .nextRecord .operands none target
          else if sign == "sub" || sign == "gsub" then
            advance
            expect "("
            match ← arguments fuel with
            | [pattern, replacement] =>
                return .substitute (sign == "gsub") pattern replacement (.field (.number (.ofInt 0)))
            | [pattern, replacement, .read target] =>
                return .substitute (sign == "gsub") pattern replacement target
            | _ => complain ("wrong number of arguments in call to " ++ sign)
          else
            match provided.lookup sign with
            | none => unexpected
            | some (function, least, most) =>
                advance
                if sign == "length" && !(← isNext "(") then return .provided function []
                else
                  expect "("
                  let given ← arguments fuel
                  if given.length < least || most < given.length then
                    complain ("wrong number of arguments in call to " ++ sign)
                  else
                    match function, given with
                    | .split, _ :: .read (.variable name) :: _ => noteArray name
                    | .split, _ => unexpected
                    | _, _ => pure ()
                    return .provided function given
      | .newline | .ending => unexpected

end

/-- How deep the parser may go: far enough for all tokens. -/
def depth : Parser Nat := do return 20 * ((← get).tokens.length + 1)

def wholeExpression (isBare : Bool := false) : Parser Expression := do expression (← depth) isBare

/-- Expressions with commas between them, where a larger-than sign is not part of
them. -/
def bareList : Nat → Parser (List Expression)
  | 0 => unexpected
  | fuel + 1 => do
      let first ← wholeExpression true
      if ← accept "," then
        skipAllLines
        return first :: (← bareList fuel)
      else return [first]

/-- What is printed: expressions, perhaps in parentheses. -/
def printed : Parser (List Expression) := do
  if ← isStatementEnd then return []
  let saved ← get
  let inParentheses : Parser (Option (List Expression)) := do
    if ← accept "(" then
      let items ← listed (← depth)
      if ← accept ")" then
        if ← isStatementEnd then return some items
      return none
    else return none
  match ← inParentheses with
  | some items => return items
  | none =>
      set saved
      bareList (← depth)

/-- Where output is said to go. -/
def redirect? : Parser (Option (Redirect × Expression)) := do
  match ← operator? [(">", Redirect.file), (">>", .appended), ("|", .command)] with
  | none => return none
  | some kind =>
      advance
      return some (kind, ← wholeExpression)

def statementEnd : Parser Unit := do
  match ← peek with
  | .newline => skipAllLines
  | .symbol ";" =>
      advance
      skipAllLines
  | .symbol "\x7d" => return
  | _ => unexpected

def inParentheses : Parser Expression := do
  expect "("
  let condition ← wholeExpression
  skipAllLines
  expect ")"
  return condition

def simpleStatement : Parser Statement := do
  let state ← get
  let misplaced (word : String) : Parser Unit := do
    if !state.isRule then complain ("improper use of " ++ word)
  let outside (word : String) : Parser Unit := do
    if state.loops == 0 then complain (word ++ " statement outside of loop")
  match ← peek with
  | .symbol "print" =>
      advance
      let items ← printed
      return .print items (← redirect?)
  | .symbol "printf" =>
      advance
      let items ← printed
      if items.isEmpty then complain "no arguments in call to printf"
      else return .format items (← redirect?)
  | .symbol "next" =>
      misplaced "next"
      advance
      return .next
  | .symbol "nextfile" =>
      misplaced "nextfile"
      advance
      return .nextFile
  | .symbol "exit" =>
      advance
      if ← isStatementEnd then return .exit none
      else return .exit (some (← wholeExpression))
  | .symbol "return" =>
      if state.parameters.isNone then complain "return outside function body"
      else
        advance
        if ← isStatementEnd then return .result none
        else return .result (some (← wholeExpression))
  | .symbol "break" =>
      outside "break"
      advance
      return .leaveLoop
  | .symbol "continue" =>
      outside "continue"
      advance
      return .nextRound
  | .symbol "delete" =>
      advance
      match ← peek with
      | .name name =>
          advance
          noteArray name
          if ← accept "[" then
            let subscripts ← listed (← depth)
            expect "]"
            return .delete name (some subscripts)
          else return .delete name none
      | _ => unexpected
  | _ => return .evaluate (← wholeExpression)

def looping (body : Parser Statement) : Parser Statement := do
  modify fun state => { state with loops := state.loops + 1 }
  let result ← body
  modify fun state => { state with loops := state.loops - 1 }
  return result

mutual

def statements : Nat → Parser (List Statement)
  | 0 => unexpected
  | fuel + 1 => do
      skipAllLines
      if ← accept "\x7d" then return []
      else
        let first ← statement fuel
        return first :: (← statements fuel)

def statement : Nat → Parser Statement
  | 0 => unexpected
  | fuel + 1 => do
      if ← accept "\x7b" then return .block (← statements fuel)
      else if ← accept ";" then return .block []
      else if ← accept "if" then
        let condition ← inParentheses
        skipAllLines
        let yes ← statement fuel
        let saved ← get
        skipAllLines
        if ← accept ";" then skipAllLines
        if ← accept "else" then
          skipAllLines
          return .branch condition yes (← statement fuel)
        else
          set saved
          return .branch condition yes (.block [])
      else if ← accept "while" then
        let condition ← inParentheses
        if ← accept ";" then return .loop true (some condition) (.block []) (.block [])
        else
          skipAllLines
          return .loop true (some condition) (.block []) (← looping (statement fuel))
      else if ← accept "do" then
        skipAllLines
        let body ← looping (statement fuel)
        skipAllLines
        if ← accept ";" then skipAllLines
        expect "while"
        let condition ← inParentheses
        statementEnd
        return .loop false (some condition) (.block []) body
      else if ← accept "for" then
        expect "("
        match (← get).tokens with
        | (.name name, _) :: (.symbol "in", _) :: (.name array, _) :: (.symbol ")", _) :: _ =>
            noteScalar name
            noteArray array
            advance
            advance
            advance
            advance
            skipAllLines
            return .forEach name array (← looping (statement fuel))
        | _ =>
            let first : Statement ←
              if ← isNext ";" then pure (.block []) else pure (.evaluate (← wholeExpression))
            expect ";"
            skipAllLines
            let condition ← if ← isNext ";" then pure none else pure (some (← wholeExpression))
            expect ";"
            skipAllLines
            let step : Statement ←
              if ← isNext ")" then pure (.block []) else pure (.evaluate (← wholeExpression))
            expect ")"
            if ← accept ";" then return .block [first, .loop true condition step (.block [])]
            else
              skipAllLines
              return .block [first, .loop true condition step (← looping (statement fuel))]
      else
        let result ← simpleStatement
        statementEnd
        return result

end

def block : Parser Statement := do
  expect "\x7b"
  return .block (← statements (← depth))

/-- The names between the parentheses of a function. -/
def parameterNames : Nat → List Octets → Parser (List Octets)
  | 0, names => return names.reverse
  | fuel + 1, names => do
      skipAllLines
      match ← peek with
      | .name name =>
          if names.contains name then complain (name.shown ++ " is duplicated in argument list")
          else
            advance
            if ← accept "," then parameterNames fuel (name :: names)
            else
              expect ")"
              return (name :: names).reverse
      | .symbol ")" =>
          if names.isEmpty then
            advance
            return []
          else unexpected
      | _ => unexpected

/-- The action behind a condition; without one the record is printed. -/
def action? : Parser Statement := do
  if ← isNext "\x7b" then
    modify fun state => { state with isRule := true }
    let body ← block
    modify fun state => { state with isRule := false }
    return body
  else return .print [] none

def item (rules : Rules) : Parser Rules := do
  match ← peek with
  | .symbol "BEGIN" =>
      advance
      let body ← block
      return { rules with first := rules.first ++ [body] }
  | .symbol "END" =>
      advance
      let body ← block
      return { rules with last := rules.last ++ [body] }
  | .symbol "function" =>
      advance
      let name ← match ← peek with
        | .name name | .call name => pure name
        | _ => unexpected
      advance
      expect "("
      let names ← parameterNames (← depth) []
      skipAllLines
      modify fun state => { state with parameters := some names }
      let body ← block
      modify fun state => { state with parameters := none }
      return { rules with functions := rules.functions ++ [(name, { parameters := names, body })] }
  | .symbol "\x7b" =>
      let body ← action?
      return { rules with each := rules.each ++ [{ condition := .always, action := body }] }
  | .symbol "\x7d" => unexpected
  | _ =>
      let first ← wholeExpression
      let condition ←
        if ← accept "," then
          skipAllLines
          let last ← wholeExpression
          let number := (← get).ranges
          modify fun state => { state with ranges := number + 1 }
          pure (.between number first last)
        else pure (.when first)
      let hasAction ← isNext "\x7b"
      let body ← action?
      if !hasAction then
        match ← peek with
        | .newline | .ending | .symbol ";" => pure ()
        | _ => unexpected
      return { rules with each := rules.each ++ [{ condition, action := body }] }

def items : Nat → Rules → Parser Rules
  | 0, rules => return rules
  | fuel + 1, rules => do
      skipAllLines
      if (← peek) == .ending then return rules
      else
        let rules ← item rules
        skipAllLines
        if ← accept ";" then skipAllLines
        items fuel rules

def functionNames : List (Token × Nat) → List Octets
  | (.symbol "function", _) :: (.name name, line) :: rest
  | (.symbol "function", _) :: (.call name, line) :: rest => name :: functionNames ((.name name, line) :: rest)
  | _ :: rest => functionNames rest
  | [] => []

end Parser

def rulesOf (text : Octets) : Except (List Complaint) Rules := do
  let tokens ← (tokens (text.length + 1) 1 text []).mapError fun complaint => [complaint]
  let tokens := tokens.reverse
  let functions := Parser.functionNames tokens
  let (rules, state) ← (Parser.items (2 * tokens.length + 1) {}).run { tokens, functions }
  match state.called.reverse.find? (fun name => !functions.contains name) with
  | some name => throw [⟨tokens.getLast?.map Prod.snd, "function " ++ name.shown ++ " never defined"⟩]
  | none => return { rules with lines := (text.filter (· == '\n')).length + 1 }

end InterfaceAudit.Tool.Awk
