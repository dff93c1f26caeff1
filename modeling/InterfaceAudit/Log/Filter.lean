import InterfaceAudit.Log.Rule

/-!
Contract: which events are shown.

Owns:
- filters: plain rules, of which the most specific one that fits decides, and
  rules bound to spans, which can show more inside a span;
- reading a filter from text;
- the filter that applies when none is configured, under which diagnostics are
  always shown.

Does not own: the form of a single rule, or how events are written.
-/

namespace InterfaceAudit.Log

structure Filter where
  /-- Rules that need no span, the most specific one first. -/
  plain : List Rule := []
  /-- Rules that need a span. -/
  bound : List Rule := []
  /-- The widest limit that any plain rule ever had. -/
  plainLimit : Limit := none
  /-- The widest limit that any bound rule ever had. -/
  boundLimit : Limit := none
deriving DecidableEq, Repr

namespace Filter

/-- Puts a rule into a list from the most specific one down. It takes the place
of a rule about the same. -/
def insert (rule : Rule) : List Rule → List Rule
  | [] => [rule]
  | other :: rest =>
      if rule.sameSubject other then rule :: rest
      else if rule.precedes other then rule :: other :: rest
      else other :: insert rule rest

def addPlain (filter : Filter) (rule : Rule) : Filter :=
  { filter with
    plain := insert rule filter.plain
    plainLimit := Limit.wider filter.plainLimit rule.limit }

def addBound (filter : Filter) (rule : Rule) : Filter :=
  { filter with
    bound := insert rule filter.bound
    boundLimit := Limit.wider filter.boundLimit rule.limit }

/-- A filter of rules. A rule that names fields without testing their values is
both bound and plain, and counts as plain after all rules that are only that. -/
def ofRules (rules : List Rule) : Filter :=
  let bound := rules.filter Rule.isBound
  let plain := rules.filter (fun rule => !rule.isBound) ++ bound.filter Rule.isPlain
  plain.foldl addPlain (bound.foldl addBound {})

/-- Reads a filter from text: rules with commas between them. -/
def ofText? (source : String) : Option Filter := do
  let parts := (Text.splitFields (· == ',') source.toList).filter (!·.isEmpty)
  let rules ← parts.mapM (fun part => Rule.ofText? (String.ofList part))
  return ofRules rules

/-- The filter for a level: everything up to that level, and diagnostics at
least up to informational ones. -/
def standard (level : Level) : Filter :=
  ofRules [
    { limit := some level },
    { target := some diagnosticTarget, limit := some (level.moreVerbose .info) }]

/-- The configured filter, or the standard one if there is none that can be
read. -/
def configured (level : Level) (source : Option String) : Filter :=
  (source.bind ofText?).getD (standard level)

/-- The text of a filter: its rules with commas between them. -/
def text (filter : Filter) : String :=
  Text.joinWith "," ((filter.plain ++ filter.bound).map Rule.text)

/-- The level beyond which nothing is shown whatever it is. While values are
tested every span must be looked at. -/
def limit (filter : Filter) : Limit :=
  if filter.bound.any Rule.testsValues then some .trace
  else Limit.wider filter.plainLimit filter.boundLimit

/-- Whether the plain rules let something of a target through: an event with
named fields, or a span, whose fields do not matter. -/
def allows (filter : Filter) (level : Level) (target : String) (fields : Option (List String)) :
    Bool :=
  let fits (rule : Rule) : Bool :=
    rule.coversTarget target && (fields.all rule.coversFields)
  match filter.plain.find? fits with
  | none => false
  | some rule => rule.limit.admits level

def about (filter : Filter) (span : Span) : List Rule :=
  filter.bound.filter fun rule =>
    rule.coversTarget span.target && rule.span.all (· == span.name) &&
      rule.coversFields (span.fields.map Prod.fst)

def accepts (rule : Rule) (span : Span) : Bool :=
  rule.fields.all fun wish =>
    match wish.test, span.fields.lookup wish.name with
    | none, _ => true
    | some test, some value => test.passes value
    | some _, none => false

def limitInside (filter : Filter) (span : Span) : Limit :=
  ((filter.about span).filter (accepts · span)).foldl
    (fun limit rule => Limit.wider limit rule.limit) none

def showsSpan (filter : Filter) (span : Span) : Bool :=
  filter.limit.admits span.level &&
    (!(filter.about span).isEmpty || filter.allows span.level span.target none)

/-- Whether an event is shown: by the plain rules, or inside a recorded span
that a bound rule opens up. -/
def shows (filter : Filter) (event : Event) : Bool :=
  let fields := "message" :: event.fields.map Prod.fst
  filter.limit.admits event.level &&
    (filter.allows event.level event.target (some fields) ||
      (event.spans.filter filter.showsSpan).any
        (fun span => (filter.limitInside span).admits event.level))

/-- The events that are shown, each with the spans that are recorded. -/
def apply (filter : Filter) (events : List Event) : List Event :=
  (events.filter filter.shows).map fun event =>
    { event with spans := event.spans.filter filter.showsSpan }

end Filter

end InterfaceAudit.Log
