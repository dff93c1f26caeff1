import InterfaceAudit.Machine.Tool.Awk.Syntax

/-!
Contract: the tokens of the language of rules.

Owns:
- numbers, texts, patterns, names and symbols, each with its line;
- escapes in texts and patterns;
- the complaints about tokens that do not end.

Does not own: how tokens form rules.
-/

namespace InterfaceAudit.Tool.Awk

inductive Token where
  | number (value : Measure)
  | text (text : Octets)
  | pattern (source : Octets)
  | name (name : Octets)
  /-- A name with an opening parenthesis right behind it. -/
  | call (name : Octets)
  /-- A word or sign of the language. -/
  | symbol (text : String)
  | newline
  | ending
deriving DecidableEq, Repr, Inhabited

def Token.shown : Token → String
  | .number value => ((value.wholeText?).getD (value.text 'g' false 6)).shown
  | .text held => "\"" ++ held.shown ++ "\""
  | .pattern source => "/" ++ source.shown ++ "/"
  | .name held | .call held => held.shown
  | .symbol sign => sign
  | .newline => "end of line"
  | .ending => "end of file"

def words : List String := [
  "BEGIN", "END", "function", "if", "else", "while", "for", "do", "break", "continue", "next",
  "nextfile", "exit", "return", "delete", "in", "getline", "print", "printf", "length", "substr",
  "index", "split", "sub", "gsub", "match", "sprintf", "sin", "cos", "atan2", "exp", "log", "sqrt",
  "int", "rand", "srand", "tolower", "toupper", "system", "close", "fflush", "systime"]

/-- Signs, longer ones first. -/
def signs : List String := [
  "&&", "||", "==", "<=", ">=", "!=", "!~", "++", "--", "+=", "-=", "*=", "/=", "%=", "^=", ">>",
  "\x7b", "\x7d", "(", ")", "[", "]", ";", ",", "+", "-", "*", "/", "%", "^", "!", ">", "<", "|", "?", ":",
  "~", "$", "="]

structure Complaint where
  /-- The line that is complained about, if it is any in particular. -/
  line : Option Nat
  text : String

def Complaint.message (complaint : Complaint) : String :=
  match complaint.line with
  | some line => "line " ++ toString line ++ ": " ++ complaint.text
  | none => complaint.text

/-- The character that an escape stands for, and what follows it; none if it is no
escape. -/
def escapeOf? (text : Octets) : Option (Char × Octets) :=
  match text with
  | [] => none
  | c :: rest =>
      if c == '"' || c == '\\' || c == '/' then some (c, rest)
      else if '0' ≤ c && c ≤ '7' then
        let (digits, rest) := octalDigits 3 text
        some (octalChar digits, rest)
      else if c == 'x' then
        let digits := (rest.take 2).takeWhile (fun c => (Octets.digitOf? 16 c).isSome)
        if digits.isEmpty then none
        else some (charOf (Octets.valueOf 16 digits), rest.drop digits.length)
      else (letterEscape? c).map fun escaped => (escaped, rest)

/-- A text with its escapes resolved. What is no escape stays as it is. -/
def withoutEscapes : Nat → Octets → Octets
  | 0, text => text
  | _, [] => []
  | fuel + 1, '\\' :: '\n' :: rest => withoutEscapes fuel rest
  | fuel + 1, '\\' :: rest =>
      match escapeOf? rest with
      | some (c, rest) => c :: withoutEscapes fuel rest
      | none => '\\' :: withoutEscapes fuel rest
  | fuel + 1, c :: rest => c :: withoutEscapes fuel rest

/-! ## Patterns -/

/-- Characters with a meaning of their own in patterns. -/
def isSpecial (c : Char) : Bool := "^$.[]|()*+?\x7b\x7d\\".toList.contains c

/-- The members of a set behind its bracket, with escapes resolved: those that
were escaped, the others, and what follows the set. -/
def setMembers : Nat → Bool → Octets → Option (Octets × Octets × Octets)
  | 0, _, _ => none
  | fuel + 1, isFirst, text =>
      match text with
      | [] => none
      | '\\' :: c :: rest => do
          let (escaped, rest) := (escapeOf? (c :: rest)).getD (c, rest)
          let (special, plain, rest) ← setMembers fuel false rest
          return if ['^', ']', '-', '[', '\\'].contains escaped then (escaped :: special, plain, rest)
            else (special, escaped :: plain, rest)
      | '[' :: ':' :: rest =>
          let name := rest.takeWhile Char.isAlpha
          match rest.drop name.length with
          | ':' :: ']' :: behind => do
              let (special, plain, rest) ← setMembers fuel false behind
              return (special, '[' :: ':' :: name ++ ':' :: ']' :: plain, rest)
          | _ => do
              let (special, plain, rest) ← setMembers fuel false (':' :: rest)
              return (special, '[' :: plain, rest)
      | c :: rest =>
          if c == ']' && !isFirst then some ([], [], rest)
          else do
            let (special, plain, rest) ← setMembers fuel false rest
            return if c == ']' then (c :: special, plain, rest) else (special, c :: plain, rest)

/-- A set as the extended notation writes it. -/
def setText (isNegated : Bool) (special plain : Octets) : Octets :=
  let chosen (c : Char) : Octets := if special.contains c then [c] else []
  let front := chosen ']' ++ plain ++ chosen '[' ++ chosen '\\'
  if front.isEmpty && special == ['^'] && !isNegated then ['\\', '^']
  else
    let body := if front.isEmpty && !isNegated then chosen '-' ++ chosen '^' else front ++ chosen '^' ++ chosen '-'
    '[' :: (if isNegated then ['^'] else []) ++ body ++ [']']

/-- A notation with its escapes resolved, so that only those for special
characters are left. -/
def plainNotation : Nat → Octets → Octets
  | 0, text => text
  | _, [] => []
  | _, ['\\'] => ['\\', '\\']
  | fuel + 1, '\\' :: c :: rest =>
      if isSpecial c then '\\' :: c :: plainNotation fuel rest
      else
        let (c, rest) := (escapeOf? (c :: rest)).getD (c, rest)
        (if isSpecial c then ['\\', c] else [c]) ++ plainNotation fuel rest
  | fuel + 1, '[' :: rest =>
      let (isNegated, members) :=
        match rest with
        | '^' :: members => (true, members)
        | members => (false, members)
      match setMembers (members.length + 1) true members with
      | some (special, plain, rest) => setText isNegated special plain ++ plainNotation fuel rest
      | none => '[' :: rest
  | fuel + 1, c :: rest => c :: plainNotation fuel rest

/-- The pattern of a notation, or the complaint about it. -/
def patternOf (text : Octets) : Except String Pattern :=
  let failed (cause : String) : String :=
    "regular expression compile failed (" ++ cause ++ ")\n" ++ text.shown
  match text with
  | '*' :: _ | '+' :: _ | '?' :: _ => .error (failed "missing operand")
  | text =>
      match Pattern.ofText true (plainNotation (text.length + 1) text) with
      | .ok pattern => .ok pattern
      | .error flaw =>
          .error (failed (match flaw with
            | .unmatchedOpening => "missing ')'"
            | .unmatchedBracket => "bad class -- [], [^] or ["
            | _ => "syntax error ^* or ^+"))

/-! ## Scanning -/

/-- Whether a slash behind a token divides. -/
def Token.endsOperand : Token → Bool
  | .number _ | .text _ | .pattern _ | .name _ => true
  | .symbol sign => [")", "]", "$", "++", "--", "length"].contains sign
  | _ => false

/-- The text up to a mark that is not escaped, and what follows the mark; none if
there is no such mark on the line. Sets between brackets hide the mark of a
pattern. -/
def upTo (mark : Char) : Nat → Bool → Octets → Octets → Option (Octets × Octets)
  | 0, _, _, _ => none
  | fuel + 1, insideSet, text, passed =>
      match text with
      | [] => none
      | '\\' :: c :: rest => upTo mark fuel insideSet rest (c :: '\\' :: passed)
      | c :: rest =>
          if c == '\n' then none
          else if c == mark && !insideSet then some (passed.reverse, rest)
          else if mark == '/' && c == '[' && !insideSet then
            let skipped :=
              match rest with
              | '^' :: ']' :: _ => 2
              | ']' :: _ => 1
              | _ => 0
            upTo mark fuel true (rest.drop skipped) ((rest.take skipped).reverse ++ c :: passed)
          else upTo mark fuel (insideSet && c != ']') rest (c :: passed)

/-- A numeral that a text starts with, and what follows it. -/
def numeral? (text : Octets) : Option (Measure × Octets) :=
  let whole := text.takeWhile Char.isDigit
  let behind := text.drop whole.length
  let (part, rest) :=
    match behind with
    | '.' :: more =>
        let part := more.takeWhile Char.isDigit
        ('.' :: part, more.drop part.length)
    | behind => ([], behind)
  if whole.isEmpty && part.length ≤ 1 then none
  else
    let rest := ((Measure.exponentAfter? ['e', 'E'] rest).map Prod.snd).getD rest
    (Measure.read? (text.take (text.length - rest.length))).map fun (measure, _) => (measure, rest)

/-- The number of a numeral as the machine holds it. -/
def machineNumber (measure : Measure) : Measure :=
  match measure.magnitude with
  | .finite top bottom => Measure.ofQuotient (Measure.signed measure.isNegative top) bottom
  | _ => measure

/-- The tokens of a text of rules, in reverse behind those found so far. -/
def tokens : Nat → Nat → Octets → List (Token × Nat) → Except Complaint (List (Token × Nat))
  | 0, _, _, found => .ok found
  | fuel + 1, line, text, found =>
      let add (token : Token) (rest : Octets) : Except Complaint (List (Token × Nat)) :=
        tokens fuel line rest ((token, line) :: found)
      match text with
      | [] => .ok ((.ending, line + 1) :: found)
      | '\n' :: rest => tokens fuel (line + 1) rest ((.newline, line) :: found)
      | '\\' :: '\n' :: rest => tokens fuel (line + 1) rest found
      | '#' :: rest => tokens fuel line (rest.dropWhile (· != '\n')) found
      | '"' :: rest =>
          match upTo '"' (rest.length + 1) false rest [] with
          | some (body, rest) => add (.text (withoutEscapes (body.length + 1) body)) rest
          | none =>
              .error ⟨some line, "runaway string constant \"" ++
                Octets.shown ((rest.takeWhile (· != '\n')).take 20) ++ " ..."⟩
      | c :: rest =>
          if Octets.isSpace c then tokens fuel line rest found
          else if c == '/' && !(found.head?.any fun held => held.1.endsOperand) then
            match upTo '/' (rest.length + 1) false rest [] with
            | some (body, rest) => add (.pattern body) rest
            | none =>
                .error ⟨some line, "runaway regular expression /" ++
                  Octets.shown ((rest.takeWhile (· != '\n')).take 20) ++ " ..."⟩
          else
            match numeral? text with
            | some (measure, rest) => add (.number (machineNumber measure)) rest
            | none =>
                if c.isAlpha || c == '_' then
                  let name := text.takeWhile Pattern.isWordChar
                  let rest := text.drop name.length
                  let word := String.ofList name
                  if words.contains word then add (.symbol word) rest
                  else if rest.head? == some '(' then add (.call name) rest
                  else add (.name name) rest
                else
                  match signs.find? (fun sign => sign.toList.isPrefixOf text) with
                  | some sign => add (.symbol sign) (text.drop sign.length)
                  | none =>
                      .error ⟨none, toString line ++ ": unexpected character '" ++ Octets.shown [c] ++ "'"⟩

end InterfaceAudit.Tool.Awk
