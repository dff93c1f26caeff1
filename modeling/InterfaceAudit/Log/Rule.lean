import InterfaceAudit.Log.FieldTest
import InterfaceAudit.Text.Alphanumeric

/-!
Contract: rules that set how much is shown.

Owns:
- a rule: a limit on levels for what matches a target, a span and fields;
- the text of a rule and reading it, one character at a time;
- the order of rules from the most specific one down.

Does not own: what several rules decide together.
-/

namespace InterfaceAudit.Log

/-- The most verbose level that is shown; nothing is shown without one. -/
abbrev Limit := Option Level

namespace Limit

def rank (limit : Limit) : Nat :=
  (limit.map Level.rank).getD 0

def name : Limit → String
  | none => "off"
  | some level => level.name

def admits (limit : Limit) (level : Level) : Bool :=
  level.rank ≤ limit.rank

def wider (left right : Limit) : Limit :=
  if left.rank < right.rank then right else left

/-- The value of an unsigned numeral of ASCII digits with an optional plus. -/
def numeral? (text : List Char) : Option Nat :=
  FieldTest.unsigned? text

/-- The limit of a text: a number up to five, or a name in any case. -/
def ofText? (text : List Char) : Option Limit :=
  match numeral? text with
  | some 0 => some none
  | some number => (Level.all.find? (fun level => level.rank == number)).map some
  | none =>
      let name := String.ofList (text.map Char.toLower)
      if name == "off" then some none
      else (Level.all.find? (fun level => level.name == name)).map some

end Limit

/-- A field that a rule names, with a test of its value if the rule has one. -/
structure FieldWish where
  name : String
  test : Option FieldTest := none
deriving DecidableEq, Repr

namespace FieldWish

def text (wish : FieldWish) : String :=
  wish.name ++ (wish.test.map (fun test => "=" ++ test.text)).getD ""

def asksSame (left right : FieldWish) : Bool :=
  left.name == right.name &&
    match left.test, right.test with
    | some left, some right => left.asksSame right
    | none, none => true
    | _, _ => false

/-- Reads a wish: a name and, behind an equals sign, a test. What a second
equals sign sets off is passed over. -/
def ofText? (text : List Char) : Option FieldWish :=
  match Text.splitFields (· == '=') text with
  | name :: value :: _ =>
      (FieldTest.ofText? value).map fun test => { name := String.ofList name, test := some test }
  | _ => some { name := String.ofList text }

end FieldWish

/-- A rule: what matches its target, its span and its fields is shown up to a
limit. What a rule does not name it leaves open. -/
structure Rule where
  target : Option String := none
  span : Option String := none
  fields : List FieldWish := []
  limit : Limit := some .trace
deriving DecidableEq, Repr

namespace Rule

def text (rule : Rule) : String :=
  let fields :=
    if rule.fields.isEmpty then ""
    else "\x7b" ++ Text.joinWith "," (rule.fields.map FieldWish.text) ++ "\x7d"
  let scope :=
    if rule.span.isNone && rule.fields.isEmpty then ""
    else "[" ++ rule.span.getD "" ++ fields ++ "]"
  let subject := rule.target.getD "" ++ scope
  let unnamed := rule.target.isNone && scope.isEmpty
  (if unnamed then "" else subject ++ "=") ++ Limit.name rule.limit

/-! ## Reading -/

/-- Where a reader is inside a rule; numbers say at which byte the part at work
started. -/
inductive Stage where
  | start
  | subject (first : Nat)
  | span (first : Nat)
  | field (first : Nat)
  | behindField
  | behindScope
  | limit (first : Nat)
deriving DecidableEq, Repr

/-- Whether a rule may start with a character. -/
def mayStart (c : Char) : Bool :=
  ['-', ':', '_'].contains c || Text.isAlphanumeric c

/-- Cuts a stretch of bytes out of a text, unless it would cut a character. -/
def cut? (source : Bytes) (first last : Nat) : Option (List Char) :=
  (Utf8.decode? ((source.take last).drop first))

/-- Takes one character, which stands at byte `place`. -/
def step?
    (cut? : Nat → Nat → Option (List Char))
    (rule : Rule)
    (stage : Stage)
    (place : Nat)
    (c : Char) :
    Option (Rule × Stage) :=
  let next := place + 1
  match stage, c with
  | .start, '[' => some (rule, .span next)
  | .start, c => if mayStart c then some (rule, .subject place) else none
  | .subject first, '=' => do
      return ({ rule with target := some (String.ofList (← cut? first place)) }, .limit next)
  | .subject first, '[' => do
      return ({ rule with target := some (String.ofList (← cut? first place)) }, .span next)
  | .span first, ']' => do
      return ({ rule with span := some (String.ofList (← cut? first place)) }, .behindScope)
  | .span first, '{' => do
      let name ← cut? first place
      let span := if name.isEmpty then none else some (String.ofList name)
      return ({ rule with span }, .field next)
  | .field first, '}' => do
      let text ← cut? first place
      if text.isEmpty then none
      else return ({ rule with fields := rule.fields ++ [← FieldWish.ofText? text] }, .behindField)
  | .behindField, ']' => some (rule, .behindScope)
  | .behindScope, '=' => some (rule, .limit next)
  | .behindField, _ | .behindScope, _ => none
  | stage, _ => some (rule, stage)

/-- Takes all characters in order. -/
def steps?
    (cut? : Nat → Nat → Option (List Char)) :
    List Char → Nat → Rule × Stage → Option (Rule × Stage)
  | [], _, state => some state
  | c :: rest, place, (rule, stage) => do
      steps? cut? rest (place + c.utf8Size) (← step? cut? rule stage place c)

/-- A rule that is a limit for everything, or a target that is shown whole. -/
def bare (text : List Char) : Rule :=
  match Limit.ofText? text with
  | some limit => { limit }
  | none => { target := some (String.ofList text) }

/-- Reads a rule, or refuses it. Characters are taken from the text without the
blanks around it, while parts are cut, at the same places, out of the text with
them. -/
def ofText? (source : String) : Option Rule := do
  let bytes := Utf8.ofString source
  let trimmed := Text.trimEnd (source.toList.dropWhile Text.isBlank)
  match ← steps? (cut? bytes) trimmed 0 ({}, .start) with
  | (_, .subject first) => return bare (← cut? bytes first bytes.length)
  | (rule, .limit first) =>
      let text ← cut? bytes first bytes.length
      if text.isEmpty then return rule
      else return { rule with limit := ← Limit.ofText? text }
  | (rule, .behindScope) => return rule
  | _ => none

/-! ## Matching -/

def coversTarget (rule : Rule) (target : String) : Bool :=
  match rule.target with
  | none => true
  | some start => start.toList.isPrefixOf target.toList

def coversFields (rule : Rule) (names : List String) : Bool :=
  rule.fields.all fun wish => names.contains wish.name

/-- Whether a rule needs to know the span that something happens in. -/
def isBound (rule : Rule) : Bool :=
  rule.span.isSome || !rule.fields.isEmpty

def testsValues (rule : Rule) : Bool :=
  rule.fields.any fun wish => wish.test.isSome

/-- Whether a rule can be applied to an event without its spans. -/
def isPlain (rule : Rule) : Bool :=
  rule.span.isNone && !rule.testsValues

def sameSubject (left right : Rule) : Bool :=
  left.target == right.target && left.span == right.span &&
    left.fields.length == right.fields.length &&
    (left.fields.zip right.fields).all fun (left, right) => left.asksSame right

def textBefore (left right : String) : Bool :=
  left < right

/-- Whether a rule is more specific than another: by the length of the target,
then by the number of fields, then by the texts of both. -/
def precedes (left right : Rule) : Bool :=
  let reach (rule : Rule) : Nat := (rule.target.map (fun target => target.utf8ByteSize + 1)).getD 0
  let names (rule : Rule) : List String := rule.fields.map FieldWish.name
  if reach left != reach right then reach right < reach left
  else if left.fields.length != right.fields.length then right.fields.length < left.fields.length
  else if left.target != right.target then textBefore (right.target.getD "") (left.target.getD "")
  else decide (names right < names left)

end Rule

end InterfaceAudit.Log
