import InterfaceAudit.Machine.Tool.Pattern

/-!
Contract: scripts that edit lines.

Owns:
- the commands of a script, each with the lines that it applies to;
- the reader of scripts, with its complaints and the places they are about.

Does not own: what commands do.
-/

namespace InterfaceAudit.Tool.Sed

/-- A line, or some lines, that a command is for. -/
inductive Address where
  | line (number : Nat)
  /-- Every so many-th line from one on. -/
  | step (first period : Nat)
  | last
  /-- Lines in which a pattern is found: the one used last if there is none. -/
  | found (pattern : Option Pattern) (ignoreCase : Bool)

inductive RangeEnd where
  | address (address : Address)
  | count (lines : Nat)
  /-- The next line whose number is a multiple. -/
  | multiple (period : Nat)

structure Substitution where
  pattern : Option Pattern
  replacement : Octets
  everywhere : Bool := false
  occurrence : Nat := 1
  prints : Nat := 0
  ignoreCase : Bool := false
  target : Option Octets := none

/-- A command. Places that it may go on at are numbers of rules. -/
inductive Command where
  | block (close : Nat)
  | nothing
  | append (text : Octets)
  | insert (text : Octets)
  | change (text : Octets)
  | branch (place : Nat)
  | branchIf (place : Nat)
  | branchUnless (place : Nat)
  | delete
  | deleteFirst
  | next
  | nextAppend
  | print
  | printFirst
  | quit (status : Nat) (quiet : Bool)
  | hold
  | holdAppend
  | get
  | getAppend
  | exchange
  | number
  | list
  | read (file : Octets)
  | write (file : Octets)
  | writeFirst (file : Octets)
  | substitute (substitution : Substitution)
  | transliterate (source target : Octets)
  | empty

/-- A command with the lines that it applies to. -/
structure Rule where
  first : Option Address := none
  second : Option RangeEnd := none
  negated : Bool := false
  command : Command

/-- A rule whose jumps are still named by labels. -/
structure DraftRule where
  rule : Rule
  label : Option Octets := none
  jump : Option (Char × Octets) := none
  opens : Bool := false
  closes : Bool := false

/-- What is left of a script, and how long it was. -/
structure Source where
  extended : Bool
  length : Nat
  rest : Octets

/-- A complaint, with the number of characters read. -/
structure Complaint where
  place : Nat
  text : String

abbrev Reader := StateT Source (Except Complaint)

namespace Reader

/-- Ends with a complaint about the place that was reached. -/
def complain {α : Type} (text : String) : Reader α := do
  let source ← get
  throw ⟨source.length - source.rest.length, text⟩

def rest : Reader Octets := return (← get).rest

def drop (count : Nat) : Reader Unit :=
  modify fun source => { source with rest := source.rest.drop count }

def takeWhile (test : Char → Bool) : Reader Octets := do
  let taken := (← rest).takeWhile test
  drop taken.length
  return taken

/-- The text up to a delimiter. A backslash hides a delimiter, and `keep` says
whether it stays; brackets hide one as well if `brackets` is set. -/
def delimited (delimiter : Char) (brackets : Bool) :
    Nat → Bool → Octets → Octets → Option (Octets × Octets)
  | 0, _, _, _ => none
  | _, _, _, [] => none
  | fuel + 1, inside, collected, c :: text =>
      if c == '\\' && !inside then
        match text with
        | [] => none
        | next :: text =>
            if next == delimiter then delimited delimiter brackets fuel inside (next :: collected) text
            else if next == 'n' && brackets then
              delimited delimiter brackets fuel inside ('n' :: '\\' :: collected) text
            else delimited delimiter brackets fuel inside (next :: '\\' :: collected) text
      else if c == delimiter && !inside then some (collected.reverse, text)
      else if c == '\n' && brackets then none
      else
        let inside :=
          if !brackets then false
          else if inside then !(c == ']' && collected.head? != some '[' &&
            !(collected.head? == some '^' && (collected.drop 1).head? == some '['))
          else c == '['
        delimited delimiter brackets fuel inside (c :: collected) text

/-- Reads the text up to a delimiter, or complains. -/
def takeDelimited (delimiter : Char) (brackets : Bool) (complaint : String) : Reader Octets := do
  let text ← rest
  match delimited delimiter brackets (text.length + 1) false [] text with
  | some (inside, after) =>
      drop (text.length - after.length)
      return inside
  | none =>
      drop text.length
      complain complaint

/-- A notation with the escapes of single characters resolved; a character that
would have a meaning of its own stays escaped. -/
def withoutEscapes : Octets → Octets
  | '\\' :: 'n' :: rest => '\n' :: withoutEscapes rest
  | '\\' :: 't' :: rest => '\t' :: withoutEscapes rest
  | '\\' :: 'f' :: rest => '\x0c' :: withoutEscapes rest
  | '\\' :: 'v' :: rest => '\x0b' :: withoutEscapes rest
  | '\\' :: 'a' :: rest => '\x07' :: withoutEscapes rest
  | '\\' :: 'x' :: x :: y :: rest =>
      match Octets.digitOf? 16 x, Octets.digitOf? 16 y with
      | some high, some low =>
          let c := charOf (16 * high + low)
          (if c.isAlphanum || Octets.isSpace c then [c] else ['\\', c]) ++ withoutEscapes rest
      | _, _ => '\\' :: 'x' :: withoutEscapes (x :: y :: rest)
  | '\\' :: c :: rest => '\\' :: c :: withoutEscapes rest
  | c :: rest => c :: withoutEscapes rest
  | [] => []

/-- The pattern of a notation; an empty one stands for the pattern used last. -/
def patternOf (text : Octets) : Reader (Option Pattern) := do
  if text.isEmpty then return none
  match Pattern.ofText (← get).extended (withoutEscapes text) with
  | .ok pattern => return some pattern
  | .error flaw => complain flaw.text

def address? : Reader (Option Address) := do
  let matching (delimiter : Char) : Reader (Option Address) := do
    let text ← takeDelimited delimiter true "unterminated address regex"
    let flags ← takeWhile (fun c => c == 'I' || c == 'M')
    return some (.found (← patternOf text) (flags.contains 'I'))
  match ← rest with
  | '$' :: _ =>
      drop 1
      return some .last
  | '/' :: _ =>
      drop 1
      matching '/'
  | '\\' :: delimiter :: _ =>
      drop 2
      matching delimiter
  | c :: _ =>
      if !c.isDigit then return none
      let first := Octets.valueOf 10 (← takeWhile Char.isDigit)
      match ← rest with
      | '~' :: _ =>
          drop 1
          return some (.step first (Octets.valueOf 10 (← takeWhile Char.isDigit)))
      | _ => return some (.line first)
  | [] => return none

def rangeEnd : Reader RangeEnd := do
  let _ ← takeWhile Octets.isBlank
  match ← rest with
  | '+' :: _ =>
      drop 1
      return .count (Octets.valueOf 10 (← takeWhile Char.isDigit))
  | '~' :: _ =>
      drop 1
      return .multiple (Octets.valueOf 10 (← takeWhile Char.isDigit))
  | _ =>
      match ← address? with
      | some address => return .address address
      | none => complain "unexpected `,'"

def endCommand : Reader Unit := do
  let _ ← takeWhile Octets.isBlank
  match ← rest with
  | [] | '}' :: _ | '#' :: _ => return
  | ';' :: _ | '\n' :: _ => drop 1
  | _ =>
      drop 1
      complain "extra characters after command"

/-- Reads the name of a file, which goes on to the end of the line. -/
def fileName : Reader Octets := do
  let _ ← takeWhile Octets.isBlank
  let name ← takeWhile (· != '\n')
  if name.isEmpty then complain "missing filename in r/R/w/W commands"
  return name

def label (stops : Char → Bool) : Reader Octets := do
  let _ ← takeWhile Octets.isBlank
  return Octets.dropRightWhile Octets.isBlank (← takeWhile (fun c => !stops c))

/-- The lines of a text up to one that no backslash ends. -/
def textLines : Nat → Octets → Octets → Octets × Octets
  | 0, collected, text => (collected.reverse, text)
  | _, collected, [] => (collected.reverse, [])
  | fuel + 1, collected, c :: text =>
      if c == '\\' then
        match text with
        | [] => (collected.reverse, [])
        | next :: text => textLines fuel (next :: collected) text
      else if c == '\n' then (collected.reverse, text)
      else textLines fuel (c :: collected) text

def addedText : Reader Octets := do
  let _ ← takeWhile Octets.isBlank
  if (← rest).isEmpty then complain "expected \\ after `a', `c' or `i'"
  match ← rest with
  | '\\' :: after =>
      let blanks := after.takeWhile Octets.isBlank
      match after.drop blanks.length with
      | '\n' :: _ => drop (blanks.length + 2)
      | _ => drop 1
  | _ => pure ()
  let text ← rest
  let (added, after) := textLines (text.length + 1) [] text
  drop (text.length - after.length)
  return added ++ ['\n']

def substitutionFlags : Nat → Substitution → Reader Substitution
  | 0, substitution => return substitution
  | fuel + 1, substitution => do
      match ← rest with
      | 'g' :: _ =>
          drop 1
          if substitution.everywhere then complain "multiple `g' options to `s' command"
          substitutionFlags fuel { substitution with everywhere := true }
      | 'p' :: _ =>
          drop 1
          if 0 < substitution.prints then complain "multiple `p' options to `s' command"
          substitutionFlags fuel { substitution with prints := substitution.prints + 1 }
      | 'i' :: _ | 'I' :: _ =>
          drop 1
          substitutionFlags fuel { substitution with ignoreCase := true }
      | 'm' :: _ | 'M' :: _ | 'e' :: _ =>
          drop 1
          substitutionFlags fuel substitution
      | 'w' :: _ =>
          drop 1
          return { substitution with target := some (← fileName) }
      | [] | '\n' :: _ | ';' :: _ | '}' :: _ | '#' :: _ | ' ' :: _ | '\t' :: _ => return substitution
      | c :: _ =>
          if c.isDigit then
            let occurrence := Octets.valueOf 10 (← takeWhile Char.isDigit)
            if occurrence == 0 then complain "number option to `s' command may not be zero"
            substitutionFlags fuel { substitution with occurrence }
          else
            drop 1
            complain "unknown option to `s'"

/-- The largest number of a group that a replacement refers to. -/
def largestReference : Octets → Nat
  | '\\' :: c :: text =>
      max (if '1' ≤ c && c ≤ '9' then c.toNat - 48 else 0) (largestReference text)
  | _ :: text => largestReference text
  | [] => 0

def groupCount : Pattern → Nat
  | .capture number body => max number (groupCount body)
  | .sequence first second | .either first second => max (groupCount first) (groupCount second)
  | .repeat _ _ body => groupCount body
  | _ => 0

def substitution : Reader Substitution := do
  match ← rest with
  | [] => complain "unterminated `s' command"
  | delimiter :: _ =>
      drop 1
      let source ← takeDelimited delimiter true "unterminated `s' command"
      let replacement ← takeDelimited delimiter false "unterminated `s' command"
      let flags ← substitutionFlags 64 { pattern := none, replacement }
      let pattern ← patternOf source
      match pattern with
      | some found =>
          let largest := largestReference replacement
          if groupCount found < largest then
            complain ("invalid reference \\" ++ toString largest ++ " on `s' command's RHS")
      | none => pure ()
      endCommand
      return { flags with pattern }

/-- A text of an exchange of characters without its escapes. -/
def exchanged : Octets → Octets
  | '\\' :: 'n' :: text => '\n' :: exchanged text
  | '\\' :: '\\' :: text => '\\' :: exchanged text
  | c :: text => c :: exchanged text
  | [] => []

/-- Reads an exchange of characters behind its letter. -/
def transliteration : Reader Command := do
  match ← rest with
  | [] => complain "unterminated `y' command"
  | delimiter :: _ =>
      drop 1
      let source ← takeDelimited delimiter false "unterminated `y' command"
      let target ← takeDelimited delimiter false "unterminated `y' command"
      let (source, target) := (exchanged source, exchanged target)
      if source.length != target.length then
        complain "strings for `y' command are different lengths"
      endCommand
      return .transliterate source target

/-- Commands of one letter without anything behind it. -/
def plainCommands : List (Char × Command) := [
  ('d', .delete), ('D', .deleteFirst), ('n', .next), ('N', .nextAppend), ('p', .print),
  ('P', .printFirst), ('h', .hold), ('H', .holdAppend), ('g', .get), ('G', .getAppend),
  ('x', .exchange), ('=', .number), ('l', .list), ('z', .empty), ('F', .nothing)]

def command (rule : Command → Rule) (count : Nat) : Reader DraftRule := do
  let plain (command : Command) : DraftRule := { rule := rule command }
  match ← rest with
  | [] => complain "missing command"
  | c :: _ =>
      drop 1
      match c with
      | '{' => return { plain .nothing with opens := true }
      | '}' =>
          if 0 < count then complain "\x7d doesn't want any addresses"
          endCommand
          return { plain .nothing with closes := true }
      | ':' =>
          if 0 < count then complain ": doesn't want any addresses"
          let name ← label (fun c => c == '\n' || c == ';')
          if name.isEmpty then complain "\":\" lacks a label"
          return { plain .nothing with label := some name }
      | 'b' | 't' | 'T' =>
          let name ← label (fun c => c == '\n' || c == ';' || c == '}')
          endCommand
          return { plain .nothing with jump := some (c, name) }
      | 'a' => return plain (.append (← addedText))
      | 'i' => return plain (.insert (← addedText))
      | 'c' => return plain (.change (← addedText))
      | 'q' | 'Q' =>
          if 1 < count then complain "command only uses one address"
          let _ ← takeWhile Octets.isBlank
          let status := Octets.valueOf 10 (← takeWhile Char.isDigit)
          endCommand
          return plain (.quit status (c == 'Q'))
      | 'r' => return plain (.read (← fileName))
      | 'w' => return plain (.write (← fileName))
      | 'W' => return plain (.writeFirst (← fileName))
      | 's' => return plain (.substitute (← substitution))
      | 'y' => return plain (← transliteration)
      | c =>
          match plainCommands.lookup c with
          | some command =>
              if c == 'l' then
                let _ ← takeWhile Octets.isBlank
                let _ ← takeWhile Char.isDigit
              if c == '=' && 2 < count then complain "command only uses one address"
              endCommand
              return plain command
          | none => complain ("unknown command: `" ++ Octets.shown [c] ++ "'")

def draftRules : Nat → Nat → Reader (List DraftRule)
  | 0, _ => return []
  | fuel + 1, depth => do
      let _ ← takeWhile (fun c => Octets.isSpace c || c == ';')
      match ← rest with
      | [] =>
          if 0 < depth then throw ⟨0, "unmatched `\x7b'"⟩
          return []
      | '#' :: _ =>
          let _ ← takeWhile (· != '\n')
          draftRules fuel depth
      | _ =>
          let first ← address?
          let _ ← takeWhile Octets.isBlank
          let second ←
            match first, ← rest with
            | some _, ',' :: _ => do
                drop 1
                pure (some (← rangeEnd))
            | none, ',' :: _ => do
                drop 1
                complain "unexpected `,'"
            | _, _ => pure none
          let _ ← takeWhile Octets.isBlank
          let marks ← takeWhile (· == '!')
          let _ ← takeWhile Octets.isBlank
          if 1 < marks.length then complain "multiple `!'s"
          match first, second with
          | some (.line 0), some (.address (.found _ _)) => pure ()
          | some (.line 0), _ => complain "invalid usage of line address 0"
          | _, _ => pure ()
          let count := if second.isSome then 2 else if first.isSome then 1 else 0
          let draft ← command (fun command => { first, second, negated := !marks.isEmpty, command }) count
          if draft.closes && depth == 0 then complain "unexpected `\x7d'"
          let depth := if draft.opens then depth + 1 else if draft.closes then depth - 1 else depth
          return draft :: (← draftRules fuel depth)

end Reader

/-- The number of the rule that closes a block, from one on. -/
def closing (drafts : List DraftRule) : Nat → Nat → Nat
  | 0, place => place
  | depth + 1, place =>
      let rec go : Nat → Nat → List DraftRule → Nat
        | _, place, [] => place
        | depth, place, draft :: others =>
            if draft.opens then go (depth + 1) (place + 1) others
            else if draft.closes then if depth == 0 then place else go (depth - 1) (place + 1) others
            else go depth (place + 1) others
      go depth place (drafts.drop place)

/-- The rules of a script with all jumps found, or the label that is missing. -/
def resolve (drafts : List DraftRule) : Except Octets (List Rule) :=
  ((List.range drafts.length).zip drafts).mapM fun (index, draft) =>
    if draft.opens then
      .ok { draft.rule with command := .block (closing drafts 1 (index + 1)) }
    else
      match draft.jump with
      | none => .ok draft.rule
      | some (letter, name) =>
          let place? :=
            if name.isEmpty then some drafts.length
            else drafts.findIdx? (fun other => other.label == some name)
          match place? with
          | none => .error name
          | some place =>
              .ok { draft.rule with
                command := match letter with
                  | 'b' => .branch place
                  | 't' => .branchIf place
                  | _ => .branchUnless place }

/-- Reads a script; the texts of complaints are whole. -/
def rulesOf (extended : Bool) (script : Octets) : Except String (List Rule) :=
  let start : Source := { extended, length := script.length, rest := script }
  match (Reader.draftRules (script.length + 2) 0).run start with
  | .error complaint =>
      .error ("-e expression #1, char " ++ toString complaint.place ++ ": " ++ complaint.text)
  | .ok (drafts, _) =>
      match resolve drafts with
      | .error name => .error ("can't find label for jump to `" ++ name.shown ++ "'")
      | .ok rules => .ok rules

end InterfaceAudit.Tool.Sed
