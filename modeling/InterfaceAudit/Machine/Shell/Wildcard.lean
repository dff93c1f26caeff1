import InterfaceAudit.Machine.Tool.Characters

/-!
Contract: patterns for names.

Owns:
- patterns in which some characters are quoted and stand for themselves;
- whether a pattern covers a text;
- the parts of a text that a pattern covers at its start or its end.

Does not own: the files that names belong to.
-/

namespace InterfaceAudit.Shell

/-- A pattern: characters, each with a mark whether it is quoted. -/
abbrev Wildcard := List (Char × Bool)

namespace Wildcard

/-- A pattern that covers one text only. -/
def literal (text : Octets) : Wildcard :=
  text.map (fun c => (c, true))

def text (pattern : Wildcard) : Octets :=
  pattern.map Prod.fst

/-- Whether any character has a meaning of its own. -/
def isActive (pattern : Wildcard) : Bool :=
  pattern.any (fun (c, quoted) => !quoted && ['*', '?', '['].contains c)

/-- The characters listed between brackets, and what follows the closing one. A
closing bracket that stands first is listed. -/
def members : Nat → Bool → Wildcard → Option (Octets × Wildcard)
  | 0, _, _ => none
  | fuel + 1, isFirst, pattern =>
      match pattern with
      | [] => none
      | (']', false) :: rest =>
          if isFirst then
            (members fuel false rest).map fun (others, rest) => (']' :: others, rest)
          else some ([], rest)
      | ('[', false) :: (':', false) :: rest =>
          let name := (rest.map Prod.fst).takeWhile Char.isAlpha
          match rest.drop name.length with
          | (':', _) :: (']', _) :: rest =>
              (members fuel false rest).map fun (others, rest) =>
                (Tool.classMembers (String.ofList name) ++ others, rest)
          | _ => (members fuel false rest).map fun (others, rest) => ('[' :: ':' :: others, rest)
      | (low, _) :: ('-', false) :: (high, quoted) :: rest =>
          if high == ']' && !quoted then
            (members fuel false (('-', true) :: (high, quoted) :: rest)).map
              fun (others, rest) => (low :: others, rest)
          else
            (members fuel false rest).map fun (others, rest) =>
              (Tool.octetsWhere (fun c => low ≤ c && c ≤ high) ++ others, rest)
      | (c, _) :: rest =>
          (members fuel false rest).map fun (others, rest) => (c :: others, rest)

/-- A test of one character in brackets, and what follows it. -/
def bracket? (pattern : Wildcard) : Option ((Char → Bool) × Wildcard) :=
  let (negated, inside) :=
    match pattern with
    | ('!', false) :: rest | ('^', false) :: rest => (true, rest)
    | pattern => (false, pattern)
  (members (inside.length + 1) true inside).map fun (members, rest) =>
    (fun c => members.contains c != negated, rest)

/-- Whether a pattern covers the whole of a text. -/
def coversWithin : Nat → Wildcard → Octets → Bool
  | 0, _, _ => false
  | fuel + 1, pattern, text =>
      let exact (c : Char) (rest : Wildcard) : Bool :=
        match text with
        | first :: others => first == c && coversWithin fuel rest others
        | [] => false
      match pattern with
      | [] => text.isEmpty
      | ('*', false) :: rest =>
          coversWithin fuel rest text ||
            (match text with
              | [] => false
              | _ :: others => coversWithin fuel pattern others)
      | ('?', false) :: rest =>
          match text with
          | [] => false
          | _ :: others => coversWithin fuel rest others
      | ('[', false) :: rest =>
          match bracket? rest with
          | none => exact '[' rest
          | some (test, rest) =>
              match text with
              | [] => false
              | first :: others => test first && coversWithin fuel rest others
      | (c, _) :: rest => exact c rest

def covers (pattern : Wildcard) (text : Octets) : Bool :=
  coversWithin (pattern.length + text.length + 1) pattern text

/-- A text without its shortest or longest start that a pattern covers. -/
def dropStart (longest : Bool) (pattern : Wildcard) (text : Octets) : Octets :=
  let counts := List.range (text.length + 1)
  let counts := if longest then counts.reverse else counts
  match counts.find? (fun count => pattern.covers (text.take count)) with
  | some count => text.drop count
  | none => text

/-- A text without its shortest or longest end that a pattern covers. -/
def dropEnd (longest : Bool) (pattern : Wildcard) (text : Octets) : Octets :=
  let counts := List.range (text.length + 1)
  let counts := if longest then counts else counts.reverse
  match counts.find? (fun count => pattern.covers (text.drop count)) with
  | some count => text.take count
  | none => text

/-! ## Names of files -/

def segments (pattern : Wildcard) : List Wildcard :=
  pattern.foldr
    (fun mark (parts : List Wildcard) =>
      if mark.1 == '/' then [] :: parts
      else
        match parts with
        | [] => [[mark]]
        | part :: others => (mark :: part) :: others)
    [[]]

/-- The paths that segments of a pattern lead to behind the text that has been
passed. -/
def pathsFrom : List Wildcard → Octets → Task (List Octets)
  | [], passed => return [passed]
  | segment :: rest, passed => do
      let separator := if rest.isEmpty then [] else ['/']
      if segment.isEmpty && rest.isEmpty && !passed.isEmpty then
        match ← Task.status passed with
        | .ok _ => return [passed]
        | .error _ => return []
      else if segment.isEmpty then pathsFrom rest (passed ++ separator)
      else if !segment.isActive then
        let path := passed ++ segment.text
        match ← Task.linkStatus path with
        | .ok _ => pathsFrom rest (path ++ separator)
        | .error _ => return []
      else
        match ← Task.names (if passed.isEmpty then ['.'] else passed) with
        | .error _ => return []
        | .ok names =>
            let dotted := segment.head?.map Prod.fst == some '.'
            let names := (if dotted then [['.'], ['.', '.']] else []) ++ names
            let fitting := names.filter fun name =>
              segment.covers name && (name.head? != some '.' || dotted)
            let found ← fitting.mapM fun name => pathsFrom rest (passed ++ name ++ separator)
            return found.flatten

/-- The files whose paths a pattern covers in ascending order, or the pattern
itself as text if there are none. -/
def paths (pattern : Wildcard) : Task (List Octets) := do
  if !pattern.isActive then return [pattern.text]
  else
    match ← pathsFrom pattern.segments [] with
    | [] => return [pattern.text]
    | found => return Octets.sorted found

end Wildcard

end InterfaceAudit.Shell
