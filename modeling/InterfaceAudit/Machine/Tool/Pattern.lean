import InterfaceAudit.Machine.Tool.Characters

/-!
Contract: regular expressions over lines.

Owns:
- expressions, in the basic and the extended notation;
- all ways in which an expression matches at a place, the longest repetitions
  first;
- the first match in a line, which is the longest of those that start there.

Does not own: the programs that search.
-/

namespace InterfaceAudit.Tool

inductive Pattern where
  | empty
  | char (c : Char)
  | any
  | set (negated : Bool) (members : Octets)
  | lineStart
  | lineEnd
  | wordEdge (start : Bool)
  /-- An edge of a word of either kind, or no edge. -/
  | anyEdge (negated : Bool)
  | sequence (first second : Pattern)
  | either (first second : Pattern)
  | repeat (least : Nat) (most : Option Nat) (body : Pattern)
  | capture (number : Nat) (body : Pattern)
  | again (number : Nat)
deriving Repr, Inhabited

namespace Pattern

/-! ## Matching -/

/-- Where a match stands: the octets passed over in reverse, those to come, and
the captured texts. -/
structure Place where
  behind : Octets
  ahead : Octets
  captures : List (Nat × Octets) := []

def isWordChar (c : Char) : Bool := c.isAlphanum || c == '_'

/-- Characters compared, perhaps without regard to case. -/
def sameChar (ignoreCase : Bool) (x y : Char) : Bool :=
  x == y || (ignoreCase && x.toLower == y.toLower)

/-- Passes over one character if it satisfies a test. -/
def step (test : Char → Bool) (place : Place) : List Place :=
  match place.ahead with
  | [] => []
  | c :: ahead => if test c then [{ place with behind := c :: place.behind, ahead }] else []

def stepText (ignoreCase : Bool) : Octets → Place → List Place
  | [], place => [place]
  | c :: text, place => (step (sameChar ignoreCase c) place).flatMap (stepText ignoreCase text)

/-- Repeats a match between two bounds, as often as possible first. A round that
passes over nothing ends the repetition. -/
def iterate (round : Place → List Place) : Nat → Nat → Option Nat → Place → List Place
  | 0, least, _, place => if least == 0 then [place] else []
  | fuel + 1, least, most, place =>
      let more :=
        if most == some 0 then []
        else (round place).flatMap fun next =>
          if next.ahead.length == place.ahead.length && least == 0 then []
          else iterate round fuel (least - 1) (most.map (· - 1)) next
      if least == 0 then more ++ [place] else more

/-- Passes over characters that satisfy a test, as many as possible first. -/
def stepMany (test : Char → Bool) : Octets → Octets → List (Octets × Octets) → List (Octets × Octets)
  | behind, [], done => (behind, []) :: done
  | behind, c :: ahead, done =>
      if test c then stepMany test (c :: behind) ahead ((behind, c :: ahead) :: done)
      else (behind, c :: ahead) :: done

/-- The test of an expression that covers just one character. -/
def single? (ignoreCase : Bool) : Pattern → Option (Char → Bool)
  | .char c => some (sameChar ignoreCase c)
  | .any => some (fun _ => true)
  | .set negated members =>
      some (fun c => (if ignoreCase then members.any (sameChar true c) else members.contains c) != negated)
  | _ => none

/-- All ways in which an expression matches at a place. -/
def matchesAt (ignoreCase : Bool) : Pattern → Place → List Place
  | .empty, place => [place]
  | .char c, place => step (sameChar ignoreCase c) place
  | .any, place => step (fun _ => true) place
  | .set negated members, place =>
      step (fun c => (members.any (sameChar ignoreCase c)) != negated) place
  | .lineStart, place => if place.behind.isEmpty then [place] else []
  | .lineEnd, place => if place.ahead.isEmpty then [place] else []
  | .wordEdge start, place =>
      let before := (place.behind.head?.map isWordChar).getD false
      let after := (place.ahead.head?.map isWordChar).getD false
      if (if start then !before && after else before && !after) then [place] else []
  | .anyEdge negated, place =>
      let before := (place.behind.head?.map isWordChar).getD false
      let after := (place.ahead.head?.map isWordChar).getD false
      if (before != after) != negated then [place] else []
  | .sequence first second, place =>
      (matchesAt ignoreCase first place).flatMap (matchesAt ignoreCase second)
  | .either first second, place =>
      matchesAt ignoreCase first place ++ matchesAt ignoreCase second place
  | .repeat least most body, place =>
      match single? ignoreCase body, least, most with
      | some test, 0, none =>
          (stepMany test place.behind place.ahead []).map fun (behind, ahead) =>
            { place with behind, ahead }
      | _, _, _ =>
          iterate (matchesAt ignoreCase body) (place.ahead.length + least + 1) least most place
  | .capture number body, place =>
      (matchesAt ignoreCase body place).map fun next =>
        let text := place.ahead.take (place.ahead.length - next.ahead.length)
        { next with captures := (number, text) :: next.captures.filter (·.1 != number) }
  | .again number, place =>
      match place.captures.lookup number with
      | none => []
      | some text => stepText ignoreCase text place

def longestAt (ignoreCase : Bool) (pattern : Pattern) (place : Place) : Option Place :=
  (pattern.matchesAt ignoreCase place).foldl
    (fun best next =>
      match best with
      | none => some next
      | some other => if next.ahead.length < other.ahead.length then some next else some other)
    none

/-- A match in a line: what stands before it, what it covers, what follows. -/
structure Match where
  before : Octets
  text : Octets
  after : Octets
  captures : List (Nat × Octets)

def search (ignoreCase : Bool) (pattern : Pattern) : Octets → Octets → Option Match
  | behind, ahead =>
      match pattern.longestAt ignoreCase { behind, ahead } with
      | some place =>
          some {
            before := behind.reverse
            text := ahead.take (ahead.length - place.ahead.length)
            after := place.ahead
            captures := place.captures }
      | none =>
          match ahead with
          | [] => none
          | c :: ahead => search ignoreCase pattern (c :: behind) ahead

/-- Whether an expression matches anywhere in a line. -/
def isFoundIn (pattern : Pattern) (line : Octets) : Bool :=
  (pattern.search false [] line).isSome

/-! ## Notation -/

/-- What is wrong with a notation. -/
inductive Flaw where
  | unmatchedOpening
  | unmatchedClosing
  | unmatchedBracket
  | loneBracket
  /-- A class is named where there are no brackets around it. -/
  | misplacedClass
  | unmatchedBrace
  | unknownClass
  | reversedRange
  | trailingBackslash
  | badReference
  | badBounds
  | nothingToRepeat
  | tooBig
deriving DecidableEq, Repr

/-- The complaint about a notation. -/
def Flaw.text : Flaw → String
  | .unmatchedOpening => "Unmatched ( or \\("
  | .unmatchedClosing => "Unmatched ) or \\)"
  | .unmatchedBracket => "Unmatched [, [^, [:, [., or [="
  | .loneBracket => "Invalid regular expression"
  | .misplacedClass => "character class syntax is [[:space:]], not [:space:]"
  | .unmatchedBrace => "Unmatched \\\x7b"
  | .unknownClass => "Invalid character class name"
  | .reversedRange => "Invalid range end"
  | .trailingBackslash => "Trailing backslash"
  | .badReference => "Invalid back reference"
  | .badBounds => "Invalid content of \\\x7b\\\x7d"
  | .nothingToRepeat => "Invalid preceding regular expression"
  | .tooBig => "Regular expression too big"

/-- What the reader of an expression carries along. -/
structure Reading where
  extended : Bool
  rest : Octets
  groups : Nat := 0

/-- The members of a bracket expression, and what follows its bracket. -/
def bracketMembers : Nat → Bool → Octets → Octets → Except Flaw (Octets × Octets)
  | 0, _, _, _ => .error .unmatchedBracket
  | _, _, _, [] => .error .unmatchedBracket
  | fuel + 1, first, collected, text =>
      match text with
      | ']' :: rest =>
          if first then bracketMembers fuel false (']' :: collected) rest
          else .ok (collected, rest)
      | '[' :: ':' :: rest =>
          let name := rest.takeWhile (fun c => c != ':' && c != ']')
          match rest.drop name.length with
          | ':' :: ']' :: rest =>
              match classTest? (String.ofList name) with
              | some _ =>
                  bracketMembers fuel false (classMembers (String.ofList name) ++ collected) rest
              | none => .error .unknownClass
          | _ => .error .unmatchedBracket
      | '[' :: '.' :: c :: '.' :: ']' :: rest | '[' :: '=' :: c :: '=' :: ']' :: rest =>
          bracketMembers fuel false (c :: collected) rest
      | c :: '-' :: ']' :: rest =>
          bracketMembers fuel false ('-' :: c :: collected) (']' :: rest)
      | c :: '-' :: last :: rest =>
          if last < c then .error .reversedRange
          else
            bracketMembers fuel false
              (octetsWhere (fun x => c.toNat ≤ x.toNat && x.toNat ≤ last.toNat) ++ collected) rest
      | c :: rest => bracketMembers fuel false (c :: collected) rest
      | [] => .error .unmatchedBracket

def bracket (text : Octets) : Except Flaw (Pattern × Octets) :=
  match text with
  | [] => .error .loneBracket
  | '^' :: rest =>
      (bracketMembers (rest.length + 1) true [] rest).map (fun (m, r) => (.set true m, r))
  | rest =>
      let inside := rest.takeWhile (· != ']')
      if rest.head? == some ':' && 1 < inside.length && inside.getLast? == some ':' &&
          inside.length < rest.length then .error .misplacedClass
      else (bracketMembers (rest.length + 1) true [] rest).map (fun (m, r) => (.set false m, r))

/-- The bounds between braces, and what follows them; `none` if it is no such
thing. -/
def bounds? (extended : Bool) (text : Octets) : Except Flaw (Option (Nat × Option Nat × Octets)) :=
  let inside := text.takeWhile (fun c => c.isDigit || c == ',')
  let after := text.drop inside.length
  let after? :=
    match extended, after with
    | true, '}' :: rest => some rest
    | false, '\\' :: '}' :: rest => some rest
    | _, _ => none
  match after? with
  | none =>
      if extended then .ok none
      else if after.isEmpty then .error .unmatchedBrace else .error .badBounds
  | some rest =>
      match Octets.splitAt ',' inside with
      | [count] =>
          match Octets.natOf? count with
          | some count =>
              if 32767 < count then .error .tooBig else .ok (some (count, some count, rest))
          | none => if extended then .ok none else .error .badBounds
      | [least, most] =>
          let least := (Octets.natOf? least).getD 0
          let most := Octets.natOf? most
          if most.any (· < least) then .error .badBounds else .ok (some (least, most, rest))
      | _ => .error .badBounds

def repetition? (extended : Bool) (text : Octets) :
    Except Flaw (Option (Nat × Option Nat × Octets)) :=
  match extended, text with
  | _, '*' :: rest => .ok (some (0, none, rest))
  | true, '+' :: rest => .ok (some (1, none, rest))
  | true, '?' :: rest => .ok (some (0, some 1, rest))
  | true, '{' :: rest => bounds? true rest
  | false, '\\' :: '+' :: rest => .ok (some (1, none, rest))
  | false, '\\' :: '?' :: rest => .ok (some (0, some 1, rest))
  | false, '\\' :: '{' :: rest => bounds? false rest
  | _, _ => .ok none

/-- Applies the repetition operators that follow an expression. -/
def repeated (extended : Bool) : Nat → Pattern → Octets → Except Flaw (Pattern × Octets)
  | 0, pattern, text => .ok (pattern, text)
  | fuel + 1, pattern, text => do
      match ← repetition? extended text with
      | none => return (pattern, text)
      | some (least, most, rest) => repeated extended fuel (.repeat least most pattern) rest

/-- What a character behind a backslash stands for, if not for itself. -/
def escapeClass? : Char → Option Pattern
  | 'w' => some (.set false (octetsWhere isWordChar))
  | 'W' => some (.set true (octetsWhere isWordChar))
  | 's' => some (.set false (classMembers "space"))
  | 'S' => some (.set true (classMembers "space"))
  | '<' => some (.wordEdge true)
  | '>' => some (.wordEdge false)
  | 'b' => some (.anyEdge false)
  | 'B' => some (.anyEdge true)
  | '`' => some .lineStart
  | '\'' => some .lineEnd
  | _ => none

def endsBranch (extended : Bool) (groups : Bool) (text : Octets) : Bool :=
  match extended, text with
  | _, [] => true
  | true, '|' :: _ => true
  | true, ')' :: _ => groups
  | false, '\\' :: '|' :: _ | false, '\\' :: ')' :: _ => true
  | _, _ => false

mutual

/-- Reads alternatives; `depth` is the number of groups that are open. -/
def readEither : Nat → Nat → Reading → Except Flaw (Pattern × Reading)
  | 0, _, _ => .error .unmatchedOpening
  | fuel + 1, depth, n => do
      let (first, n) ← readSequence fuel depth true .empty n
      match n.extended, n.rest with
      | true, '|' :: rest =>
          let (second, n) ← readEither fuel depth { n with rest }
          return (.either first second, n)
      | false, '\\' :: '|' :: rest =>
          let (second, n) ← readEither fuel depth { n with rest }
          return (.either first second, n)
      | _, _ => return (first, n)

def readSequence : Nat → Nat → Bool → Pattern → Reading → Except Flaw (Pattern × Reading)
  | 0, _, _, _, _ => .error .unmatchedOpening
  | fuel + 1, depth, atStart, done, n =>
      if endsBranch n.extended true n.rest then .ok (done, n)
      else do
        let (atom, n) ← readAtom fuel depth atStart n
        let anchored :=
          match atom with
          | .lineStart => !n.extended
          | _ => false
        let (atom, rest) ←
          if anchored then pure (atom, n.rest)
          else repeated n.extended (n.rest.length + 1) atom n.rest
        readSequence fuel depth anchored (.sequence done atom) { n with rest }

def readAtom : Nat → Nat → Bool → Reading → Except Flaw (Pattern × Reading)
  | 0, _, _, _ => .error .unmatchedOpening
  | fuel + 1, depth, atStart, n =>
      match n.rest with
      | [] => .ok (.empty, n)
      | '.' :: rest => .ok (.any, { n with rest })
      | '[' :: rest => (bracket rest).map (fun (pattern, rest) => (pattern, { n with rest }))
      | '^' :: rest =>
          if n.extended || atStart then .ok (.lineStart, { n with rest })
          else .ok (.char '^', { n with rest })
      | '$' :: rest =>
          if n.extended || endsBranch false true rest then .ok (.lineEnd, { n with rest })
          else .ok (.char '$', { n with rest })
      | '(' :: rest =>
          if n.extended then readGroup fuel depth { n with rest }
          else .ok (.char '(', { n with rest })
      | ['\\'] => .error .trailingBackslash
      | '\\' :: '(' :: rest =>
          if n.extended then .ok (.char '(', { n with rest })
          else readGroup fuel depth { n with rest }
      | '\\' :: c :: rest =>
          if '1' ≤ c && c ≤ '9' then
            let number := c.toNat - 48
            if n.groups < number then .error .badReference
            else .ok (.again number, { n with rest })
          else .ok ((escapeClass? c).getD (.char c), { n with rest })
      | c :: rest => .ok (.char c, { n with rest })

def readGroup : Nat → Nat → Reading → Except Flaw (Pattern × Reading)
  | 0, _, _ => .error .unmatchedOpening
  | fuel + 1, depth, n => do
      let number := n.groups + 1
      let (body, n) ← readEither fuel (depth + 1) { n with groups := number }
      match n.extended, n.rest with
      | true, ')' :: rest => return (.capture number body, { n with rest })
      | false, '\\' :: ')' :: rest => return (.capture number body, { n with rest })
      | _, _ => throw .unmatchedOpening

end

def ofText (extended : Bool) (text : Octets) : Except Flaw Pattern := do
  let (pattern, n) ← readEither (4 * text.length + 8) 0 { extended, rest := text }
  if n.rest.isEmpty then return pattern else throw .unmatchedClosing

def literal (text : Octets) : Pattern :=
  text.foldr (fun c pattern => .sequence (.char c) pattern) .empty

end Pattern

end InterfaceAudit.Tool
