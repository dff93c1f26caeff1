import InterfaceAudit.Text.Alphanumeric
import InterfaceAudit.Text.Regex.Class

/-!
Contract: the written form of regular expressions.

Owns:
- groups with their names and flags, alternatives and repetition;
- the limit on how deep expressions are nested;
- refusal of whatever is no expression.

Counted repetition needs braces and is refused.

Does not own: what an expression fits.
-/

namespace InterfaceAudit.Regex

/-- How deep an expression may be nested. -/
def maxDepth : Nat := 250

/-- A part of an expression under construction. -/
structure Part where
  regex : Regex
  /-- How deep it is nested. -/
  depth : Nat := 0
  /-- Whether it can be repeated. -/
  isWhole : Bool := true

namespace Part

/-- Parts that follow each other, the last one first. -/
def joined : List Part → Part
  | [] => { regex := .nothing }
  | [part] => part
  | parts => {
      regex := parts.foldl
        (fun rest part => if rest = .nothing then part.regex else .both part.regex rest) .nothing
      depth := (parts.map Part.depth).foldl max 0 + 1 }

/-- Parts one of which is chosen, the last one first. -/
def chosen : List Part → Part
  | [] => { regex := .nothing }
  | [part] => part
  | last :: others => {
      regex := others.foldl (fun rest part => .either part.regex rest) last.regex
      depth := ((last :: others).map Part.depth).foldl max 0 + 1 }

end Part

/-- A group under construction: alternatives that are complete, and the parts of
the one at work, both in reverse. -/
structure Group where
  flags : Flags
  alternatives : List Part := []
  parts : List Part := []

namespace Group

def add (group : Group) (part : Part) : Group :=
  { group with parts := part :: group.parts }

def branch (group : Group) : Group :=
  { group with alternatives := Part.joined group.parts :: group.alternatives, parts := [] }

def content (group : Group) : Part :=
  Part.chosen (Part.joined group.parts :: group.alternatives)

/-- A group that ends as a part of another one. -/
def close (group : Group) : Part :=
  { regex := group.content.regex, depth := group.content.depth + 1 }

def repeatLast? (group : Group) (change : Regex → Regex) : Option Group :=
  match group.parts with
  | { regex, depth, isWhole := true } :: parts =>
      some { group with parts := { regex := change regex, depth := depth + 1 } :: parts }
  | _ => none

end Group

def literal? (flags : Flags) (c : Char) : Option Regex :=
  if flags.ignoreCase && !flags.ascii then none
  else some (.one (flags.folded [(c.toNat, c.toNat)]))

/-- Any character, but for the ends of lines unless the flags allow them. -/
def dot? (flags : Flags) : Option Regex :=
  if flags.ascii then none
  else if flags.dotAll then some (.one [(0, CharSet.last)])
  else if flags.eitherEnd then some (.one (CharSet.complement [(0xA, 0xA), (0xD, 0xD)]))
  else some (.one (CharSet.complement [(0xA, 0xA)]))

/-- The start of the text, or of a line. -/
def startUnder (flags : Flags) : Regex :=
  .border (if !flags.lines then .textStart else if flags.eitherEnd then .eitherLineStart else .lineStart)

/-- The end of the text, or of a line. -/
def endUnder (flags : Flags) : Regex :=
  .border (if !flags.lines then .textEnd else if flags.eitherEnd then .eitherLineEnd else .lineEnd)

def Escape.regex? (flags : Flags) (item : Escape) : Option Regex :=
  match item with
  | .set held => some (.one held)
  | .border kind => some (.border kind)
  | item => do literal? flags (← item.char? flags)

def Flags.set? (flags : Flags) (value : Bool) : Char → Option Flags
  | 'i' => some { flags with ignoreCase := value }
  | 'm' => some { flags with lines := value }
  | 's' => some { flags with dotAll := value }
  | 'U' => some { flags with swapGreed := value }
  | 'u' => some { flags with ascii := !value }
  | 'R' => some { flags with eitherEnd := value }
  | 'x' => some { flags with spaced := value }
  | _ => none

/-- Reads the letters of flags up to a colon or a closing parenthesis, which is
given back too. No sign may stand twice, and a hyphen not last. -/
def flags? : (seen : List Char) → Flags → List Char → Option (Flags × Char × List Char)
  | _, _, [] => none
  | seen, flags, c :: rest =>
      if c == ':' || c == ')' then
        if seen.head? == some '-' || (seen.isEmpty && c == ')') then none
        else some (flags, c, rest)
      else if seen.contains c then none
      else if c == '-' then flags? (c :: seen) flags rest
      else do flags? (c :: seen) (← flags.set? (!seen.contains '-') c) rest

/-- The name of a group, with what follows it. -/
def groupName? (text : List Char) : Option (List Char × List Char) :=
  let isLater (c : Char) : Bool := ['_', '.', '[', ']'].contains c || Text.isAlphanumeric c
  let name := text.takeWhile isLater
  match name, text.drop name.length with
  | first :: _, '>' :: rest =>
      if first == '_' || Text.isAlphabetic first then some (name, rest) else none
  | _, _ => none

/-- Reads an expression, with the names of groups so far and the groups that are
open, the innermost first. -/
def parse? : Nat → List (List Char) → List Group → List Char → Option Part
  | 0, _, _, _ => none
  | _, _, [], _ => none
  | fuel + 1, names, group :: outer, text =>
      let flags := group.flags
      let goOn (regex : Regex) (rest : List Char) : Option Part :=
        parse? fuel names (group.add { regex } :: outer) rest
      let repeated (change : Regex → Bool → Regex) (rest : List Char) : Option Part := do
        let (greedy, rest) :=
          match rest with
          | '?' :: rest => (false, rest)
          | rest => (true, rest)
        let group ← group.repeatLast? (change · (greedy != flags.swapGreed))
        parse? fuel names (group :: outer) rest
      match flags.skip text with
      | [] =>
          match outer with
          | [] => some group.content
          | _ => none
      | '|' :: rest => parse? fuel names (group.branch :: outer) rest
      | ')' :: rest =>
          match outer with
          | [] => none
          | next :: outer => parse? fuel names (next.add group.close :: outer) rest
      | '(' :: rest =>
          match flags.skip rest with
          | '?' :: 'P' :: '<' :: rest | '?' :: '<' :: rest => do
              let (name, rest) ← groupName? rest
              if names.contains name then none
              else parse? fuel (name :: names) ({ flags } :: group :: outer) rest
          | '?' :: rest => do
              match ← flags? [] flags rest with
              | (flags, ':', rest) => parse? fuel names ({ flags } :: group :: outer) rest
              | (flags, _, rest) =>
                  let part : Part := { regex := .nothing, isWhole := false }
                  parse? fuel names ({ group with flags, parts := part :: group.parts } :: outer) rest
          | rest => parse? fuel names ({ flags } :: group :: outer) rest
      | '*' :: rest => repeated .many rest
      | '+' :: rest => repeated .repeated rest
      | '?' :: rest => repeated .optional rest
      | '{' :: _ => none
      | '.' :: rest => do goOn (← dot? flags) rest
      | '^' :: rest => goOn (startUnder flags) rest
      | '$' :: rest => goOn (endUnder flags) rest
      | '\\' :: rest => do
          let (item, rest) ← escape? flags rest
          goOn (← item.regex? flags) rest
      | '[' :: rest => do
          let (set, rest) ← class? flags rest
          let part : Part := { regex := .one set.set, depth := set.depth }
          parse? fuel names (group.add part :: outer) rest
      | c :: rest => do goOn (← literal? flags c) rest

def ofText? (text : List Char) : Option Regex := do
  let part ← parse? (text.length + 1) [] [{ flags := {} }] text
  if part.depth ≤ maxDepth then return part.regex else none

end InterfaceAudit.Regex
