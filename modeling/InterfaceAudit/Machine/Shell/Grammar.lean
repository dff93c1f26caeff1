import InterfaceAudit.Machine.Octets

/-!
Contract: the command language of the machine, as syntax trees.

Owns:
- words with their expansions, redirections and commands;
- the parser, which reads one line of complete commands at a time, so that a
  script runs up to the line that is malformed;
- the wording of its complaints.

Does not own: what commands do.
-/

namespace InterfaceAudit.Shell

inductive Direction where
  | read
  /-- Writes to a file, which is emptied first; with `overrides` even if files
  that are there are to be kept. -/
  | write (overrides : Bool)
  | append
  | readWrite
  | duplicate
  | document (quoted : Bool)
deriving DecidableEq, Repr, Inhabited

mutual

/-- A part of a word. What is quoted is neither split nor matched against file
names. -/
inductive Piece where
  | text (text : Octets) (quoted : Bool)
  /-- The value of a parameter, changed by an operator with its operand. No name
  stands for an expansion that is malformed. -/
  | parameter (name : Octets) (operator : Octets) (operand : List Piece) (quoted : Bool)
  /-- The length of the value of a parameter. -/
  | length (name : Octets) (quoted : Bool)
  | output (command : Command) (quoted : Bool)
  | arithmetic (expression : List Piece) (quoted : Bool)

/-- A redirection. The target of a document is its number. -/
inductive Redirection where
  | mk (handle : Nat) (direction : Direction) (target : List Piece)

inductive Command where
  | simple (line : Nat) (assignments : List (Octets × List Piece)) (words : List (List Piece))
      (redirections : List Redirection)
  | pipeline (negated : Bool) (stages : List Command)
  | andThen (first second : Command)
  | orElse (first second : Command)
  /-- Commands in order; a flag marks one that runs in the background. -/
  | sequence (commands : List (Command × Bool))
  | group (body : Command) (redirections : List Redirection)
  | subshell (line : Nat) (body : Command) (redirections : List Redirection)
  | branch (condition body : Command) (otherwise : Option Command)
      (redirections : List Redirection)
  | repeat (untilTrue : Bool) (condition body : Command) (redirections : List Redirection)
  | forEach (line : Nat) (name : Octets) (words : Option (List (List Piece))) (body : Command)
      (redirections : List Redirection)
  | select (line : Nat) (subject : List Piece) (cases : List (List (List Piece) × Command))
      (redirections : List Redirection)
  | define (name : Octets) (body : Command)

end

abbrev Word := List Piece

instance : Inhabited Command := ⟨.sequence []⟩

instance : Inhabited Piece := ⟨.text [] false⟩

/-- A document whose body starts on the next line. -/
structure PendingDocument where
  number : Nat
  isQuoted : Bool
  delimiter : Octets
  stripTabs : Bool
deriving Repr

/-- What is left of a script, the number of the line, and the documents whose
bodies are still to come or have been read. -/
structure Source where
  rest : Octets
  line : Nat := 1
  pending : List PendingDocument := []
  bodies : List (Nat × Word) := []
  nextDocument : Nat := 0

/-- A complaint about a script, with the line it is about. -/
structure Complaint where
  line : Nat
  message : String
deriving Repr

abbrev Parser := StateT Source (Except Complaint)

namespace Parser

/-! ## Characters -/

def complain {α : Type} (message : String) : Parser α := do
  throw ⟨(← get).line, message⟩

def rest : Parser Octets := return (← get).rest

/-- Drops characters, counting lines. -/
def drop (count : Nat) : Parser Unit := modify fun s =>
  { s with
    rest := s.rest.drop count
    line := s.line + ((s.rest.take count).filter (· == '\n')).length }

/-- Characters that end a word unless they are quoted. -/
def isMeta (c : Char) : Bool :=
  [' ', '\t', '\n', ';', '&', '|', '<', '>', '(', ')'].contains c

def isNameChar (c : Char) : Bool := c.isAlphanum || c == '_'

def isName (text : Octets) : Bool :=
  match text with
  | [] => false
  | first :: others => (first.isAlpha || first == '_') && others.all isNameChar

/-- Blanks, joined lines and a comment in front of a text, dropped with the
number of line feeds among them. -/
def dropBlanks : Octets → Nat → Octets × Nat
  | ' ' :: text, lines => dropBlanks text lines
  | '\t' :: text, lines => dropBlanks text lines
  | '\\' :: '\n' :: text, lines => dropBlanks text (lines + 1)
  | '#' :: text, lines => (text.dropWhile (· != '\n'), lines)
  | text, lines => (text, lines)

def skipBlanks : Parser Unit := modify fun s =>
  let (rest, lines) := dropBlanks s.rest 0
  { s with rest, line := s.line + lines }

/-! ## Tokens -/

/-- What stands next, without reading it. -/
inductive Next where
  | ending
  | newline
  | operator (text : String)
  | redirection
  | word
deriving DecidableEq, Repr

/-- Whether a text starts with an angle bracket, perhaps behind one digit. -/
def startsRedirection (text : Octets) : Bool :=
  match text with
  | '<' :: _ | '>' :: _ => true
  | digit :: '<' :: _ | digit :: '>' :: _ => digit.isDigit
  | _ => false

def classify (text : Octets) : Next :=
  match text with
  | [] => .ending
  | '\n' :: _ => .newline
  | ';' :: ';' :: _ => .operator ";;"
  | ';' :: _ => .operator ";"
  | '&' :: '&' :: _ => .operator "&&"
  | '&' :: _ => .operator "&"
  | '|' :: '|' :: _ => .operator "||"
  | '|' :: _ => .operator "|"
  | '(' :: _ => .operator "("
  | ')' :: _ => .operator ")"
  | text => if startsRedirection text then .redirection else .word

def peek : Parser Next := do
  skipBlanks
  return classify (← rest)

def reserved : List String :=
  ["!", "\x7b", "\x7d", "case", "do", "done", "elif", "else", "esac", "fi", "for", "if", "in", "then",
    "until", "while"]

/-- The unquoted run of characters that a text starts with. -/
def plainWord (text : Octets) : Octets :=
  text.takeWhile (fun c => !isMeta c)

/-- The reserved word that stands next, if one does. -/
def peekReserved : Parser (Option String) := do
  match ← peek with
  | .word =>
      let word := String.ofList (plainWord (← rest))
      return if reserved.contains word then some word else none
  | _ => return none

/-- What stands next, as complaints name it. -/
def nameNext : Parser String := do
  match ← peek with
  | .ending => return "end of file"
  | .newline => return "newline"
  | .operator text => return "\"" ++ text ++ "\""
  | .redirection => return "redirection"
  | .word =>
      match ← peekReserved with
      | some word => return "\"" ++ word ++ "\""
      | none => return "word"

def unexpected {α : Type} (expected : Option String := none) : Parser α := do
  let found ← nameNext
  if found == "newline" then drop 1
  match expected with
  | none => complain ("Syntax error: " ++ found ++ " unexpected")
  | some expected =>
      complain ("Syntax error: " ++ found ++ " unexpected (expecting " ++ expected ++ ")")

def takeOperator (text : String) : Parser Bool := do
  if (← peek) == .operator text then
    drop text.length
    return true
  else return false

/-- Reads a reserved word that must stand next. -/
def expectReserved (word : String) : Parser Unit := do
  if (← peekReserved) == some word then drop word.length
  else unexpected (some ("\"" ++ word ++ "\""))

/-! ## Documents -/

/-- A line at the start of a text, and what follows its line feed. -/
def cutLine (text : Octets) : Octets × Octets :=
  (text.takeWhile (· != '\n'), (text.dropWhile (· != '\n')).drop 1)

/-- The lines of a document up to its delimiter, what follows it, and how many
lines were read. The end of a script ends a document as well. -/
def documentBody (document : PendingDocument) : Nat → Octets → List Octets → Octets × Octets × Nat
  | 0, text, lines => (lines.reverse.flatten, text, lines.length)
  | fuel + 1, text, lines =>
      if text.isEmpty then (lines.reverse.flatten, [], lines.length)
      else
        let (line, rest) := cutLine text
        let ending := if line.length < text.length then ['\n'] else []
        let line := if document.stripTabs then line.dropWhile (· == '\t') else line
        if line == document.delimiter then (lines.reverse.flatten, rest, lines.length + 1)
        else documentBody document fuel rest ((line ++ ending) :: lines)

/-! ## Words -/

/-- Where pieces are read: in a word, between double quotes, in the operand of
a parameter, or in a text without any quotes. -/
inductive Mode where
  | word
  | doubleQuoted
  | operand (quoted : Bool)
  | document
deriving DecidableEq, Repr

def Mode.isQuoted : Mode → Bool
  | .word => false
  | .doubleQuoted => true
  | .operand quoted => quoted
  | .document => true

/-- Adds a character to the last piece, if that is text quoted alike. -/
def addChar (quoted : Bool) (c : Char) : List Piece → List Piece
  | .text text same :: pieces =>
      if same == quoted then .text (c :: text) same :: pieces
      else .text [c] quoted :: .text text same :: pieces
  | pieces => .text [c] quoted :: pieces

/-- Pieces in order, from reversed pieces whose texts are reversed. -/
def finishPieces (pieces : List Piece) : List Piece :=
  (pieces.map fun
    | .text text quoted => .text text.reverse quoted
    | piece => piece).reverse

def singleQuoted (text : Octets) : Option (Octets × Octets) :=
  let inside := text.takeWhile (· != '\'')
  match text.dropWhile (· != '\'') with
  | [] => none
  | _ :: rest => some (inside, rest)

/-- The expression up to the parenthesis that closes it; quotes hide parentheses. -/
def enclosedText : Nat → Nat → Octets → Octets → Option (Octets × Octets)
  | 0, _, _, _ => none
  | fuel + 1, depth, collected, text =>
      match text with
      | [] => none
      | ')' :: text =>
          if depth == 0 then some (collected.reverse, text)
          else enclosedText fuel (depth - 1) (')' :: collected) text
      | '(' :: text => enclosedText fuel (depth + 1) ('(' :: collected) text
      | '\\' :: c :: text => enclosedText fuel depth (c :: '\\' :: collected) text
      | '\'' :: text =>
          match singleQuoted text with
          | none => none
          | some (inside, text) =>
              enclosedText fuel depth ('\'' :: (inside.reverse ++ '\'' :: collected)) text
      | '"' :: text =>
          let inside := text.takeWhile (· != '"')
          match text.dropWhile (· != '"') with
          | [] => none
          | _ :: text => enclosedText fuel depth ('"' :: (inside.reverse ++ '"' :: collected)) text
      | c :: text => enclosedText fuel depth (c :: collected) text

def backQuoted (quoted : Bool) : Octets → Octets → Option (Octets × Octets)
  | _, [] => none
  | collected, '`' :: text => some (collected.reverse, text)
  | collected, '\\' :: c :: text =>
      if c == '`' || c == '\\' || c == '$' || (quoted && c == '"') then
        backQuoted quoted (c :: collected) text
      else backQuoted quoted (c :: '\\' :: collected) text
  | collected, c :: text => backQuoted quoted (c :: collected) text

/-- The name of a parameter that a text starts with: a name, digits or a single
special character. -/
def parameterName (braced : Bool) (text : Octets) : Octets :=
  match text with
  | [] => []
  | c :: _ =>
      if c.isAlpha || c == '_' then text.takeWhile isNameChar
      else if c.isDigit then if braced then text.takeWhile Char.isDigit else [c]
      else if ['@', '*', '#', '?', '-', '$', '!'].contains c then [c]
      else []

def parameterOperator (text : Octets) : Octets :=
  match text with
  | ':' :: c :: _ => if ['-', '=', '?', '+'].contains c then [':', c] else []
  | '%' :: '%' :: _ => ['%', '%']
  | '#' :: '#' :: _ => ['#', '#']
  | c :: _ => if ['-', '=', '?', '+', '%', '#'].contains c then [c] else []
  | [] => []

def literalText? (word : Word) : Option Octets :=
  word.foldr
    (fun piece text? =>
      match piece, text? with
      | .text text _, some others => some (text ++ others)
      | _, _ => none)
    (some [])

def hasQuotes (word : Word) : Bool :=
  word.any fun
    | .text _ quoted => quoted
    | _ => false

/-! ## Redirections -/

def redirectionOperator (text : Octets) : Octets × Nat × Direction × Bool :=
  match text with
  | '<' :: '<' :: '-' :: _ => (['<', '<', '-'], 0, .document false, true)
  | '<' :: '<' :: _ => (['<', '<'], 0, .document false, false)
  | '<' :: '&' :: _ => (['<', '&'], 0, .duplicate, false)
  | '<' :: '>' :: _ => (['<', '>'], 0, .readWrite, false)
  | '<' :: _ => (['<'], 0, .read, false)
  | '>' :: '>' :: _ => (['>', '>'], 1, .append, false)
  | '>' :: '&' :: _ => (['>', '&'], 1, .duplicate, false)
  | '>' :: '|' :: _ => (['>', '|'], 1, .write true, false)
  | _ => (['>'], 1, .write false, false)

/-! ## Commands -/

/-- A simple command while its parts are read; the parts are reversed. -/
structure SimpleParts where
  assignments : List (Octets × Word) := []
  words : List Word := []
  redirections : List Redirection := []

def assignment? (word : Word) : Option (Octets × Word) :=
  match word with
  | .text text false :: others =>
      let name := text.takeWhile (· != '=')
      match text.dropWhile (· != '=') with
      | [] => none
      | _ :: value =>
          if isName name then
            some (name, if value.isEmpty then others else .text value false :: others)
          else none
  | _ => none

/-- Names of commands that no function may take. -/
def specialNames : List String :=
  [".", ":", "break", "continue", "eval", "exec", "exit", "export", "readonly", "return", "set",
    "shift", "times", "trap", "unset"]

def finishSimple (line : Nat) (parts : SimpleParts) : Parser Command :=
  return .simple line parts.assignments.reverse parts.words.reverse parts.redirections.reverse

/-- Whether what stands next cannot start a command but may end a sequence. -/
def atSequenceEnd : Parser Bool := do
  match ← peek with
  | .ending => return true
  | .operator ")" | .operator ";;" => return true
  | .word =>
      match ← peekReserved with
      | some word =>
          return ["\x7d", "do", "done", "elif", "else", "esac", "fi", "then"].contains word
      | none => return false
  | _ => return false

/-- Complains about a lack of commands, unless the script ends here, where what
must follow is missed first. -/
def refuseEmpty (commands : List (Command × Bool)) : Parser Unit := do
  if commands.isEmpty && (← peek) != .ending then unexpected

mutual

def pieces : Nat → Mode → List Piece → Parser (List Piece)
  | 0, _, _ => complain "Syntax error: Bad substitution"
  | fuel + 1, mode, done => do
      let quoted := mode.isQuoted
      match ← rest with
      | [] =>
          match mode with
          | .word | .document => return finishPieces done
          | .doubleQuoted => complain "Syntax error: Unterminated quoted string"
          | .operand _ => complain "Syntax error: Missing '\x7d'"
      | c :: text =>
          if mode == .word && isMeta c then return finishPieces done
          else if c == '"' && mode == .doubleQuoted then
            drop 1
            return finishPieces done
          else if c == '}' && (mode == .operand true || mode == .operand false) then
            drop 1
            return finishPieces done
          else if c == '\'' && !quoted then
            match singleQuoted text with
            | none => complain "Syntax error: Unterminated quoted string"
            | some (inside, _) =>
                drop (inside.length + 2)
                pieces fuel mode (.text inside.reverse true :: done)
          else if c == '"' && mode != .document then
            drop 1
            let inside ← pieces fuel .doubleQuoted []
            let inside := if inside.isEmpty then [.text [] true] else inside
            let inside := inside.map fun
              | .text text same => .text text.reverse same
              | piece => piece
            pieces fuel mode (inside.reverse ++ done)
          else if c == '\\' then
            match text with
            | [] =>
                drop 1
                pieces fuel mode (addChar quoted '\\' done)
            | '\n' :: _ =>
                drop 2
                pieces fuel mode done
            | next :: _ =>
                let special := ['$', '`', '\\'].contains next ||
                  (next == '"' && mode != .document) || (next == '}' && mode == .operand true)
                if quoted && !special then
                  drop 1
                  pieces fuel mode (addChar quoted '\\' done)
                else
                  drop 2
                  pieces fuel mode (addChar true next done)
          else if c == '$' then
            let piece ← expansion fuel quoted
            match piece with
            | some piece => pieces fuel mode (piece :: done)
            | none => pieces fuel mode (addChar quoted '$' done)
          else if c == '`' then
            match backQuoted quoted [] text with
            | none => complain "Syntax error: EOF in backquote substitution"
            | some (script, after) =>
                drop ((c :: text).length - after.length)
                let saved ← get
                set { saved with rest := script, line := 1 }
                let commands ← sequence fuel
                if (← peek) != .ending then unexpected
                modify fun inner => { inner with rest := saved.rest, line := saved.line }
                pieces fuel mode (.output (.sequence commands) quoted :: done)
          else
            drop 1
            pieces fuel mode (addChar quoted c done)

/-- Reads what a dollar sign starts; a dollar sign that starts nothing is read
and stands for itself. -/
def expansion : Nat → Bool → Parser (Option Piece)
  | 0, _ => complain "Syntax error: Bad substitution"
  | fuel + 1, quoted => do
      drop 1
      match ← rest with
      | '(' :: '(' :: text =>
          match enclosedText (text.length + 1) 1 [] text with
          | none => complain "Syntax error: Missing '))'"
          | some (inside, after) =>
              drop (text.length + 2 - after.length)
              let saved ← get
              set { saved with rest := inside.dropLast }
              let parts ← pieces fuel .document []
              modify fun inner => { inner with rest := saved.rest, line := saved.line }
              return some (.arithmetic parts quoted)
      | '(' :: _ =>
          drop 1
          let commands ← sequence fuel
          if !(← takeOperator ")") then unexpected (some "\")\"")
          return some (.output (.sequence commands) quoted)
      | '{' :: '#' :: '}' :: _ =>
          drop 3
          return some (.parameter ['#'] [] [] quoted)
      | '{' :: '#' :: text =>
          let name := parameterName true text
          if name.isEmpty || (text.drop name.length).head? != some '}' then
            drop 2
            let operand ← pieces fuel (.operand quoted) []
            return some (.parameter [] [] operand quoted)
          else
            drop (3 + name.length)
            return some (.length name quoted)
      | '{' :: text =>
          let name := parameterName true text
          drop (1 + name.length)
          match ← rest with
          | '}' :: _ =>
              drop 1
              return some (.parameter name [] [] quoted)
          | after =>
              let operator := parameterOperator after
              drop operator.length
              let trims := ['%', '#'].contains (operator.headD ' ')
              let operand ← pieces fuel (.operand (quoted && !trims)) []
              return some (.parameter (if operator.isEmpty then [] else name) operator operand quoted)
      | text =>
          let name := parameterName false text
          if name.isEmpty then return none
          else
            drop name.length
            return some (.parameter name [] [] quoted)

def word : Nat → Parser Word
  | 0 => complain "Syntax error: Bad substitution"
  | fuel + 1 => do
      skipBlanks
      pieces fuel .word []

def redirection : Nat → Parser Redirection
  | 0 => complain "Syntax error: Bad substitution"
  | fuel + 1 => do
      skipBlanks
      let digits := (← rest).takeWhile Char.isDigit
      drop digits.length
      let (operator, standard, direction, stripTabs) := redirectionOperator (← rest)
      drop operator.length
      if (← peek) != .word then unexpected
      let target ← word fuel
      let handle := (Octets.natOf? digits).getD standard
      match direction with
      | .document _ =>
          let number := (← get).nextDocument
          let delimiter := (literalText? target).getD []
          let isQuoted := hasQuotes target
          modify fun s =>
            { s with
              nextDocument := number + 1
              pending := s.pending ++ [⟨number, isQuoted, delimiter, stripTabs⟩] }
          return ⟨handle, .document isQuoted, [.text (Octets.ofNat number) true]⟩
      | direction => return ⟨handle, direction, target⟩

def redirections : Nat → Parser (List Redirection)
  | 0 => return []
  | fuel + 1 => do
      if (← peek) == .redirection then
        let first ← redirection fuel
        let others ← redirections fuel
        return first :: others
      else return []

def forWords : Nat → Parser (List Word)
  | 0 => return []
  | fuel + 1 => do
      if (← peek) == .word then
        let first ← word fuel
        let others ← forWords fuel
        return first :: others
      else return []

def patterns : Nat → Parser (List Word)
  | 0 => return []
  | fuel + 1 => do
      if (← peek) != .word then unexpected
      let first ← word fuel
      if ← takeOperator "|" then
        let others ← patterns fuel
        return first :: others
      else return [first]

def documents : Nat → List PendingDocument → Parser Unit
  | 0, _ => return ()
  | _, [] => return ()
  | fuel + 1, document :: others => do
      let text ← rest
      let (body, text, lines) := documentBody document (text.length + 1) text []
      modify fun s => { s with rest := text, line := s.line + lines }
      let parts ←
        if document.isQuoted then pure [.text body true]
        else do
          let saved ← get
          set { saved with rest := body }
          let parts ← pieces fuel .document []
          modify fun inner => { inner with rest := saved.rest, line := saved.line }
          pure parts
      modify fun s => { s with bodies := (document.number, parts) :: s.bodies }
      documents fuel others

/-- Reads a line feed, and the bodies of the documents announced before it. -/
def takeNewline : Nat → Parser Unit
  | 0 => return ()
  | fuel + 1 => do
      drop 1
      let pending := (← get).pending
      modify fun s => { s with pending := [] }
      documents fuel pending

def skipNewlines : Nat → Parser Unit
  | 0 => return ()
  | fuel + 1 => do
      if (← peek) == .newline then
        takeNewline fuel
        skipNewlines fuel

/-- Reads the parts of a simple command, or a function definition. -/
def simple : Nat → Nat → SimpleParts → Parser Command
  | 0, _, _ => complain "Syntax error: Bad substitution"
  | fuel + 1, line, parts => do
      match ← peek with
      | .redirection =>
          let redirection ← redirection fuel
          simple fuel line { parts with redirections := redirection :: parts.redirections }
      | .word =>
          let word ← word fuel
          let assignment := if parts.words.isEmpty then assignment? word else none
          match assignment with
          | some assignment =>
              simple fuel line { parts with assignments := assignment :: parts.assignments }
          | none => simple fuel line { parts with words := word :: parts.words }
      | .operator "(" =>
          match parts.words, parts.assignments, parts.redirections with
          | [name], [], [] =>
              drop 1
              if !(← takeOperator ")") then
                if (← peek) == .word then
                  complain "Syntax error: word unexpected (expecting \")\")"
                unexpected (some "\")\"")
              let text := (literalText? name).getD []
              if !isName text || specialNames.contains (String.ofList text) then
                complain "Syntax error: Bad function name"
              skipNewlines fuel
              let body ← command fuel
              return .define text body
          | _, _, _ => finishSimple line parts
      | _ => finishSimple line parts

def command : Nat → Parser Command
  | 0 => complain "Syntax error: Bad substitution"
  | fuel + 1 => do
      match ← peek with
      | .operator "(" =>
          let line := (← get).line
          drop 1
          let body ← sequence fuel
          refuseEmpty body
          if !(← takeOperator ")") then unexpected (some "\")\"")
          return .subshell line (.sequence body) (← redirections fuel)
      | .redirection => simple fuel (← get).line {}
      | .word =>
          match ← peekReserved with
          | some "\x7b" =>
              drop 1
              let body ← sequence fuel
              refuseEmpty body
              expectReserved "\x7d"
              return .group (.sequence body) (← redirections fuel)
          | some "if" =>
              drop 2
              let command ← conditional fuel
              expectReserved "fi"
              match command with
              | .branch condition body otherwise _ =>
                  return .branch condition body otherwise (← redirections fuel)
              | command => return command
          | some "while" =>
              drop 5
              loop fuel false
          | some "until" =>
              drop 5
              loop fuel true
          | some "for" =>
              drop 3
              forLoop fuel
          | some "case" =>
              drop 4
              selection fuel
          | some "in" | none => simple fuel (← get).line {}
          | some _ => unexpected
      | _ => unexpected

/-- Reads a conditional behind its first word, up to its last one. -/
def conditional : Nat → Parser Command
  | 0 => complain "Syntax error: Bad substitution"
  | fuel + 1 => do
      let condition ← nonEmpty fuel
      expectReserved "then"
      let body ← nonEmpty fuel
      match ← peekReserved with
      | some "elif" =>
          drop 4
          let otherwise ← conditional fuel
          return .branch condition body (some otherwise) []
      | some "else" =>
          drop 4
          let otherwise ← nonEmpty fuel
          return .branch condition body (some otherwise) []
      | some "fi" => return .branch condition body none []
      | _ => unexpected (some "\"fi\"")

/-- Reads the condition and the body of a loop. -/
def loop : Nat → Bool → Parser Command
  | 0, _ => complain "Syntax error: Bad substitution"
  | fuel + 1, untilTrue => do
      let condition ← nonEmpty fuel
      expectReserved "do"
      let body ← nonEmpty fuel
      expectReserved "done"
      return .repeat untilTrue condition body (← redirections fuel)

/-- Reads a loop over words behind its first word. -/
def forLoop : Nat → Parser Command
  | 0 => complain "Syntax error: Bad substitution"
  | fuel + 1 => do
      let line := (← get).line
      if (← peek) != .word then complain "Syntax error: Bad for loop variable"
      let name := (literalText? (← word fuel)).getD []
      if !isName name then complain "Syntax error: Bad for loop variable"
      skipNewlines fuel
      let words ←
        if (← peekReserved) == some "in" then do
          drop 2
          let words ← forWords fuel
          pure (some words)
        else pure none
      if !(← takeOperator ";") then
        if words.isSome && (← peek) != .newline then unexpected
      skipNewlines fuel
      expectReserved "do"
      let body ← nonEmpty fuel
      expectReserved "done"
      return .forEach line name words body (← redirections fuel)

def cases : Nat → Parser (List (List Word × Command))
  | 0 => return []
  | fuel + 1 => do
      skipNewlines fuel
      if (← peekReserved) == some "esac" then return []
      if (← peek) == .ending then unexpected (some "\")\"")
      discard (takeOperator "(")
      let names ← patterns fuel
      if !(← takeOperator ")") then unexpected (some "\")\"")
      let body ← sequence fuel
      if ← takeOperator ";;" then
        let others ← cases fuel
        return (names, .sequence body) :: others
      else return [(names, .sequence body)]

def selection : Nat → Parser Command
  | 0 => complain "Syntax error: Bad substitution"
  | fuel + 1 => do
      let line := (← get).line
      if (← peek) != .word then unexpected (some "word")
      let subject ← word fuel
      skipNewlines fuel
      expectReserved "in"
      let cases ← cases fuel
      skipNewlines fuel
      if (← peekReserved) != some "esac" then unexpected (some "\";;\"")
      drop 4
      return .select line subject cases (← redirections fuel)

def stages : Nat → Parser (List Command)
  | 0 => return []
  | fuel + 1 => do
      let first ← command fuel
      if ← takeOperator "|" then
        skipNewlines fuel
        let others ← stages fuel
        return first :: others
      else return [first]

def pipeline : Nat → Parser Command
  | 0 => complain "Syntax error: Bad substitution"
  | fuel + 1 => do
      if (← peekReserved) == some "!" then
        drop 1
        return .pipeline true (← stages fuel)
      else
        match ← stages fuel with
        | [only] => return only
        | stages => return .pipeline false stages

/-- Reads pipelines joined by conditions behind a first one. -/
def conditions : Nat → Command → Parser Command
  | 0, first => return first
  | fuel + 1, first => do
      if ← takeOperator "&&" then
        skipNewlines fuel
        conditions fuel (.andThen first (← pipeline fuel))
      else if ← takeOperator "||" then
        skipNewlines fuel
        conditions fuel (.orElse first (← pipeline fuel))
      else return first

def sequence : Nat → Parser (List (Command × Bool))
  | 0 => return []
  | fuel + 1 => do
      skipNewlines fuel
      if ← atSequenceEnd then return []
      let first ← conditions fuel (← pipeline fuel)
      if ← takeOperator "&" then
        let others ← sequence fuel
        return (first, true) :: others
      else if ← takeOperator ";" then
        let others ← sequence fuel
        return (first, false) :: others
      else if (← peek) == .newline then
        let others ← sequence fuel
        return (first, false) :: others
      else return [(first, false)]

/-- Reads commands, of which there must be one. -/
def nonEmpty : Nat → Parser Command
  | 0 => complain "Syntax error: Bad substitution"
  | fuel + 1 => do
      let commands ← sequence fuel
      refuseEmpty commands
      return .sequence commands

end

/-- Reads the commands of one line, and tells whether the script ends behind
them. -/
def lineCommands : Nat → Parser (List (Command × Bool) × Bool)
  | 0 => return ([], true)
  | fuel + 1 => do
      match ← peek with
      | .ending => return ([], true)
      | .newline =>
          takeNewline fuel
          return ([], false)
      | _ =>
          let first ← conditions fuel (← pipeline fuel)
          let background ← takeOperator "&"
          let separated ← if background then pure true else takeOperator ";"
          match ← peek with
          | .ending =>
              documents fuel (← get).pending
              return ([(first, background)], true)
          | .newline =>
              takeNewline fuel
              return ([(first, background)], false)
          | _ =>
              if separated then
                let (others, isLast) ← lineCommands fuel
                return ((first, background) :: others, isLast)
              else unexpected

/-- Reads the next line that holds commands, or nothing at the end; also tells
whether the script ends behind it. -/
def line : Nat → Parser (Option (Command × Bool))
  | 0 => return none
  | fuel + 1 => do
      skipNewlines fuel
      if (← peek) == .ending then return none
      let (commands, isLast) ← lineCommands fuel
      return some (.sequence commands, isLast)

end Parser

end InterfaceAudit.Shell
