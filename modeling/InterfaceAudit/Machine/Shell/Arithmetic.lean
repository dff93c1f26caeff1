import InterfaceAudit.Machine.Octets

/-!
Contract: arithmetic of the command language.

Owns:
- expressions over whole numbers of 64 bits;
- their reader;
- their value, with the variables that they assign.

Does not own: where variables are kept.
-/

namespace InterfaceAudit.Shell

inductive Arithmetic where
  | number (value : Int)
  | named (name : Octets)
  | unary (operator : String) (operand : Arithmetic)
  | binary (operator : String) (left right : Arithmetic)
  | choice (condition yes no : Arithmetic)
  /-- An assignment; an operator combines the old value with the new one. -/
  | assign (name : Octets) (operator : String) (value : Arithmetic)
deriving Repr, Inhabited

namespace Arithmetic

/-! ## Tokens -/

inductive Token where
  | number (value : Int)
  | name (name : Octets)
  | operator (text : String)
deriving DecidableEq, Repr

def operators : List String := [
  "<<=", ">>=", "<<", ">>", "<=", ">=", "==", "!=", "&&", "||", "+=", "-=", "*=", "/=", "%=",
  "&=", "|=", "^=", "+", "-", "*", "/", "%", "<", ">", "&", "|", "^", "~", "!", "(", ")", "?",
  ":", "="]

def wrap (value : Int) : Int := value.bmod 0x10000000000000000

def digitValue (c : Char) : Nat :=
  if c.isDigit then c.toNat - 48 else c.toLower.toNat - 87

/-- The base of a numeral and its digits: hexadecimal, octal or decimal by how
it starts. -/
def numeralParts (text : Octets) : Nat × Octets × Octets :=
  let digitsOf (base : Nat) (text : Octets) : Octets :=
    text.takeWhile (fun c => c.isAlphanum && digitValue c < base)
  match text with
  | '0' :: 'x' :: rest | '0' :: 'X' :: rest =>
      let digits := digitsOf 16 rest
      if digits.isEmpty then (10, ['0'], text.drop 1)
      else (16, digits, rest.drop digits.length)
  | '0' :: rest =>
      let digits := digitsOf 8 rest
      (8, '0' :: digits, rest.drop digits.length)
  | text =>
      let digits := digitsOf 10 text
      (10, digits, text.drop digits.length)

def digitsValue (base : Nat) (digits : Octets) : Int :=
  wrap (digits.foldl (fun (value : Int) c => value * base + digitValue c) 0)

def numeralValue? (text : Octets) : Option Int :=
  let (base, digits, rest) := numeralParts text
  if digits.isEmpty || !rest.isEmpty then none else some (digitsValue base digits)

/-- The tokens of an expression, up to a character that belongs to none. That
character is an operator without meaning. -/
def tokens : Nat → Octets → List Token
  | 0, _ => []
  | fuel + 1, text =>
      match text with
      | [] => []
      | c :: rest =>
          if c == ' ' || c == '\t' || c == '\n' then tokens fuel rest
          else if c.isDigit then
            let (base, digits, rest) := numeralParts text
            .number (digitsValue base digits) :: tokens fuel rest
          else if c.isAlpha || c == '_' then
            let name := text.takeWhile (fun c => c.isAlphanum || c == '_')
            .name name :: tokens fuel (text.drop name.length)
          else
            match operators.find? (fun operator => operator.toList.isPrefixOf text) with
            | some operator => .operator operator :: tokens fuel (text.drop operator.length)
            | none => [.operator (String.singleton c)]

/-! ## Reader -/

/-- Operators between two operands with how tightly they bind. -/
def binding? : String → Option Nat
  | "||" => some 1
  | "&&" => some 2
  | "|" => some 3
  | "^" => some 4
  | "&" => some 5
  | "==" | "!=" => some 6
  | "<" | "<=" | ">" | ">=" => some 7
  | "<<" | ">>" => some 8
  | "+" | "-" => some 9
  | "*" | "/" | "%" => some 10
  | _ => none

/-- The operator that an assignment combines with, if a token is one. -/
def assignment? : Token → Option String
  | .operator "=" => some ""
  | .operator text =>
      if ["<<=", ">>=", "+=", "-=", "*=", "/=", "%=", "&=", "|=", "^="].contains text then
        some (String.ofList (text.toList.dropLast))
      else none
  | _ => none

mutual

/-- Reads an assignment or a choice. -/
def whole : Nat → List Token → Except String (Arithmetic × List Token)
  | 0, _ => .error "expecting primary"
  | fuel + 1, tokens => do
      match tokens with
      | .name name :: operator :: rest =>
          match assignment? operator with
          | some operator =>
              let (value, rest) ← whole fuel rest
              return (.assign name operator value, rest)
          | none => choiceOf fuel tokens
      | tokens => choiceOf fuel tokens

/-- Reads a choice, or an expression without one. -/
def choiceOf : Nat → List Token → Except String (Arithmetic × List Token)
  | 0, _ => .error "expecting primary"
  | fuel + 1, tokens => do
      let (condition, rest) ← joined fuel 1 tokens
      match rest with
      | .operator "?" :: rest =>
          let (yes, rest) ← whole fuel rest
          match rest with
          | .operator ":" :: rest =>
              let (no, rest) ← choiceOf fuel rest
              return (.choice condition yes no, rest)
          | _ => .error "expecting ':'"
      | rest => return (condition, rest)

/-- Reads operands joined by operators that bind at least as tightly as given. -/
def joined : Nat → Nat → List Token → Except String (Arithmetic × List Token)
  | 0, _, _ => .error "expecting primary"
  | fuel + 1, level, tokens => do
      let (first, rest) ← operand fuel tokens
      joinedTo fuel level first rest

/-- Reads operators with their right operands behind a left one. -/
def joinedTo : Nat → Nat → Arithmetic → List Token → Except String (Arithmetic × List Token)
  | 0, _, _, _ => .error "expecting primary"
  | fuel + 1, level, left, tokens => do
      match tokens with
      | .operator operator :: rest =>
          match binding? operator with
          | none => return (left, tokens)
          | some tightness =>
              if tightness < level then return (left, tokens)
              else
                let (right, rest) ← joined fuel (tightness + 1) rest
                joinedTo fuel level (.binary operator left right) rest
      | tokens => return (left, tokens)

def operand : Nat → List Token → Except String (Arithmetic × List Token)
  | 0, _ => .error "expecting primary"
  | fuel + 1, tokens => do
      match tokens with
      | .number value :: rest => return (.number value, rest)
      | .name name :: rest => return (.named name, rest)
      | .operator "(" :: rest =>
          let (inside, rest) ← whole fuel rest
          match rest with
          | .operator ")" :: rest => return (inside, rest)
          | _ => .error "expecting ')'"
      | .operator text :: rest =>
          if ["+", "-", "~", "!"].contains text then
            let (inside, rest) ← operand fuel rest
            return (.unary text inside, rest)
          else .error "expecting primary"
      | [] => .error "expecting primary"

end

def complaint (text : Octets) (reason : String) : String :=
  "arithmetic expression: " ++ reason ++ ": \"" ++ String.ofList text ++ "\""

def ofText (text : Octets) : Except String Arithmetic :=
  let tokens := tokens (text.length + 1) text
  match whole (8 * tokens.length + 8) tokens with
  | .error reason => .error reason
  | .ok (expression, []) => .ok expression
  | .ok _ => .error "expecting EOF"

/-! ## Value -/

def truth (value : Bool) : Int := if value then 1 else 0

/-- Two numbers taken as words of 64 bits. -/
def onWords (combine : BitVec 64 → BitVec 64 → BitVec 64) (left right : Int) : Int :=
  (combine (BitVec.ofInt 64 left) (BitVec.ofInt 64 right)).toInt

/-- The value of an operator, if it has one. -/
def combine? (operator : String) (left right : Int) : Option Int :=
  match operator with
  | "||" => some (truth (left != 0 || right != 0))
  | "&&" => some (truth (left != 0 && right != 0))
  | "|" => some (onWords (· ||| ·) left right)
  | "^" => some (onWords (· ^^^ ·) left right)
  | "&" => some (onWords (· &&& ·) left right)
  | "==" => some (truth (left == right))
  | "!=" => some (truth (left != right))
  | "<" => some (truth (left < right))
  | "<=" => some (truth (left ≤ right))
  | ">" => some (truth (right < left))
  | ">=" => some (truth (right ≤ left))
  | "<<" => some (onWords (fun x y => x <<< (y.toNat % 64)) left right)
  | ">>" => some (onWords (fun x y => x.sshiftRight (y.toNat % 64)) left right)
  | "+" => some (wrap (left + right))
  | "-" => some (wrap (left - right))
  | "*" => some (wrap (left * right))
  | "/" => if right == 0 then none else some (wrap (left.tdiv right))
  | "%" => if right == 0 then none else some (wrap (left.tmod right))
  | _ => some right

/-- Why an expression has no value. -/
inductive Trouble where
  | divisionByZero
  /-- A variable holds no number. -/
  | illegalNumber (text : Octets)

abbrev Bindings := List (Octets × Octets)

/-- The number that a variable holds; one that is not set holds zero. -/
def lookup (bindings : Bindings) (name : Octets) : Except Trouble Int :=
  match bindings.lookup name with
  | none | some [] => .ok 0
  | some text =>
      let (negative, digits) :=
        match text with
        | '-' :: digits => (true, digits)
        | '+' :: digits => (false, digits)
        | digits => (false, digits)
      match numeralValue? digits with
      | some value => .ok (if negative then wrap (-value) else value)
      | none => .error (.illegalNumber text)

def decimal (value : Int) : Octets := (toString value).toList

/-- The complaint about an expression without a value. -/
def Trouble.message (text : Octets) : Trouble → String
  | .divisionByZero => complaint text "division by zero"
  | .illegalNumber held => "Illegal number: " ++ String.ofList held

/-- The value of an expression, with the variables as it leaves them. What a
condition excludes is not evaluated. -/
def value (bindings : Bindings) : Arithmetic → Except Trouble (Int × Bindings)
  | .number value => .ok (value, bindings)
  | .named name => (lookup bindings name).map (fun value => (value, bindings))
  | .unary operator operand => do
      let (value, bindings) ← operand.value bindings
      return (match operator with
        | "-" => wrap (-value)
        | "~" => -value - 1
        | "!" => truth (value == 0)
        | _ => value, bindings)
  | .binary operator left right => do
      let (x, bindings) ← left.value bindings
      if operator == "&&" && x == 0 then return (0, bindings)
      else if operator == "||" && x != 0 then return (1, bindings)
      else
        let (y, bindings) ← right.value bindings
        match combine? operator x y with
        | some value => return (value, bindings)
        | none => .error .divisionByZero
  | .choice condition yes no => do
      let (test, bindings) ← condition.value bindings
      if test != 0 then yes.value bindings else no.value bindings
  | .assign name operator value => do
      let (given, bindings) ← value.value bindings
      let old ← if operator.isEmpty then pure 0 else lookup bindings name
      match combine? operator old given with
      | some value => return (value, (name, decimal value) :: bindings.filter (·.1 != name))
      | none => .error .divisionByZero

end Arithmetic

end InterfaceAudit.Shell
