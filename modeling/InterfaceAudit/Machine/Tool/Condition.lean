import InterfaceAudit.Machine.Tool.Paths

/-!
Contract: conditions on strings, numbers and files.

Owns:
- the expressions of test, and their truth;
- the wording of complaints about them.

Does not own: the exit codes of the command interpreter.
-/

namespace InterfaceAudit.Tool

namespace Condition

inductive Trouble where
  | badNumber (text : Octets)
  | unexpectedOperator (text : Octets)
  | argumentExpected (operator : Octets)
  | closingExpected

/-- The complaint about a condition without truth. -/
def Trouble.text : Trouble → Octets
  | .badNumber text => Octets.ofString "Illegal number: " ++ text
  | .unexpectedOperator text =>
      if text.isEmpty then Octets.ofString "unexpected operator"
      else text ++ Octets.ofString ": unexpected operator"
  | .argumentExpected operator => operator ++ Octets.ofString ": argument expected"
  | .closingExpected => Octets.ofString "closing paren expected"

/-- The complaint of the program about a condition without truth. -/
def Trouble.programText : Trouble → String
  | .badNumber text => "invalid integer " ++ named text
  | .unexpectedOperator text =>
      if text.head? == some '-' then named text ++ ": binary operator expected"
      else "extra argument " ++ named text
  | .argumentExpected operator => "missing argument after " ++ named operator
  | .closingExpected => "')' expected"

/-- Work that may find a condition to have no truth. -/
abbrev Judging := ExceptT Trouble Task

def unaryNames : List String :=
  ["-n", "-z", "-e", "-f", "-d", "-s", "-r", "-w", "-x", "-L", "-h", "-p", "-S", "-b", "-c", "-t",
    "-u", "-g", "-k", "-O", "-G"]

def binaryNames : List String :=
  ["=", "!=", "<", ">", "-eq", "-ne", "-lt", "-le", "-gt", "-ge", "-nt", "-ot", "-ef"]

/-- The number of a text, which may stand between blanks. -/
def number (text : Octets) : Judging Int :=
  match Octets.intOf? (Octets.trim Octets.isSpace text) with
  | some value =>
      if value < -0x8000000000000000 || 0x8000000000000000 ≤ value then throw (.badNumber text)
      else return value
  | none => throw (.badNumber text)

def fileTest (name : String) (status : FileStatus) : Bool :=
  match name with
  | "-f" => status.kind == .regular
  | "-d" => status.kind == .directory
  | "-c" => status.kind == .characters
  | "-p" => status.kind == .fifo
  | "-L" | "-h" => status.kind == .link
  | "-s" => status.size != 0
  | "-x" => status.kind == .directory || status.mode &&& 0o111 != 0
  | "-u" => status.mode &&& 0o4000 != 0
  | "-g" => status.mode &&& 0o2000 != 0
  | "-k" => status.mode &&& 0o1000 != 0
  | "-S" | "-b" => false
  | _ => true

/-- The truth of an operator with one operand. -/
def unary (name : String) (operand : Octets) : Judging Bool := do
  match name with
  | "-n" => return !operand.isEmpty
  | "-z" => return operand.isEmpty
  | "-t" => do
      discard (number operand)
      return false
  | name =>
      let status : Except SystemError FileStatus ←
        if name == "-L" || name == "-h" then Task.linkStatus operand else Task.status operand
      return (status.toOption.map (fileTest name)).getD false

/-- The truth of an operator between two operands. -/
def binary (name : String) (left right : Octets) : Judging Bool := do
  let compare (holds : Int → Int → Bool) : Judging Bool := do
    return holds (← number left) (← number right)
  let compareFiles (holds : FileStatus → FileStatus → Bool) : Judging Bool := do
    let first : Except SystemError FileStatus ← Task.status left
    let second : Except SystemError FileStatus ← Task.status right
    match first, second with
    | .ok first, .ok second => return holds first second
    | _, _ => return false
  match name with
  | "=" => return left == right
  | "!=" => return left != right
  | "<" => return Octets.before left right
  | ">" => return Octets.before right left
  | "-eq" => compare (fun x y => x == y)
  | "-ne" => compare (fun x y => x != y)
  | "-lt" => compare (fun x y => x < y)
  | "-le" => compare (fun x y => x ≤ y)
  | "-gt" => compare (fun x y => y < x)
  | "-ge" => compare (fun x y => y ≤ x)
  | "-nt" => compareFiles (fun x y => y.changed < x.changed)
  | "-ot" => compareFiles (fun x y => x.changed < y.changed)
  | "-ef" => compareFiles (fun x y => x.number == y.number)
  | _ => return false


/-- What a word is, seen with the words behind it. -/
inductive Role where
  | ending
  | operand
  | unary
  | binary
  | negation
  | both
  | oneOf
  | opening
  | closing
deriving DecidableEq, Repr

/-- Whether a word is an operator of one of the two kinds. -/
def isNamed (names : List String) (word : Octets) : Bool :=
  names.any (fun name => name.toList == word)

/-- Whether a word stands between two operands as an operator. -/
def isBetween (word : Octets) : Bool :=
  isNamed binaryNames word

/-- The role of the first of some words. An operator with one operand is an
operand itself if nothing follows it, or an operator between two does. -/
def role : List Octets → Role
  | [] => .ending
  | word :: rest =>
      if word == ['!'] then .negation
      else if word == ['-', 'a'] then .both
      else if word == ['-', 'o'] then .oneOf
      else if word == ['('] then if rest.isEmpty then .operand else .opening
      else if word == [')'] then .closing
      else if isBetween word then .binary
      else if isNamed unaryNames word then
        match rest with
        | [] => .operand
        | [_] => .unary
        | next :: _ => if isBetween next then .operand else .unary
      else .operand

/-- The truth of the first condition of some words, and the words from the last
one on that it used. -/
abbrev Reading := Judging (Bool × List Octets)

mutual

/-- Reads alternatives, whose first word has a given role. -/
def alternatives : Nat → Role → List Octets → Reading
  | 0, _, words => return (false, words)
  | fuel + 1, first, words => do
      let (left, words) ← conjunction fuel first words
      if role words.tail == .oneOf then
        let words := words.drop 2
        let (right, words) ← alternatives fuel (role words) words
        return (left || right, words)
      else return (left, words)

/-- Reads conditions that must all hold. -/
def conjunction : Nat → Role → List Octets → Reading
  | 0, _, words => return (false, words)
  | fuel + 1, first, words => do
      let (left, words) ← negation fuel first words
      if role words.tail == .both then
        let words := words.drop 2
        let (right, words) ← conjunction fuel (role words) words
        return (left && right, words)
      else return (left, words)

/-- Reads a condition that may be negated. -/
def negation : Nat → Role → List Octets → Reading
  | 0, _, words => return (false, words)
  | fuel + 1, first, words => do
      if first != .negation then primary fuel first words
      else
        let next := role words.tail
        let (value, words) ←
          negation fuel next (if next == .ending then words else words.tail)
        return (!value, words)

def primary : Nat → Role → List Octets → Reading
  | 0, _, words => return (false, words)
  | fuel + 1, first, words => do
      match first, words with
      | .ending, words => return (false, words)
      | _, [] => return (false, [])
      | .opening, _ :: words =>
          if role words == .closing then return (false, words)
          let (value, words) ← alternatives fuel (role words) words
          let words := words.tail
          if role words == .closing then return (value, words) else throw .closingExpected
      | .unary, operator :: words =>
          match words with
          | [] => throw (.argumentExpected operator)
          | operand :: _ => return (← unary (String.ofList operator) operand, words)
      | _, left :: rest =>
          match rest with
          | operator :: rest =>
              if isBetween operator then
                match rest with
                | [] => throw (.argumentExpected operator)
                | right :: _ => return (← binary (String.ofList operator) left right, rest)
              else return (!left.isEmpty, left :: operator :: rest)
          | [] => return (!left.isEmpty, [left])

end

/-- The truth of words that start in a given role. Words left over are one too
many. -/
def readAll (first : Role) (words : List Octets) : Judging Bool := do
  let (value, words) ← alternatives (8 * words.length + 8) first words
  match words with
  | last :: _ :: _ => throw (.unexpectedOperator last)
  | _ => return value

/-- The truth of a whole condition; none at all is false. Three and four words
are first tried as an operator between operands, a negation or a condition in
parentheses. -/
def holdsWithin : Nat → List Octets → Judging Bool
  | 0, _ => return false
  | _, [] => return false
  | fuel + 1, words => do
      let count := words.length
      let second := (words.drop 1).headD []
      if count == 3 && isBetween second then readAll .operand words
      else if count == 3 || count == 4 then
        if words.head? == some ['('] && words.getLast? == some [')'] then
          let inside := words.tail.dropLast
          readAll (role inside) inside
        else if words.head? == some ['!'] then return !(← holdsWithin fuel words.tail)
        else readAll (role words) words
      else readAll (role words) words

def holds (words : List Octets) : Task (Except Trouble Bool) :=
  (holdsWithin (words.length + 1) words).run

end Condition

def test : Program := fun call => do
  let isBracket := lastName call.name == ['[']
  if isBracket && call.arguments.getLast? != some [']'] then call.fail "missing ']'" 2
  else
    match ← Condition.holds (if isBracket then call.arguments.dropLast else call.arguments) with
    | .ok value => return if value then 0 else 1
    | .error trouble => call.fail trouble.programText 2

end InterfaceAudit.Tool
