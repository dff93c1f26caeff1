import InterfaceAudit.Log.Filter
import InterfaceAudit.Proofs.Host.Exchanges
import InterfaceAudit.Sink

/-!
Contract: what is shown under the filter that applies when none is configured.

Owns:
- the two rules of the filter for a level, and the text that it can be read from;
- the law that the more specific rule decides on a target that both of them cover;
- the events that the logging sink gives off, inside any spans;
- the law that the filter shows each of them once, whatever its level is.

Does not own: filters that are configured, or how events are written.
-/

namespace InterfaceAudit

namespace Log

/-! ## Levels -/

theorem Level.rank_moreVerbose (x y : Level) : (x.moreVerbose y).rank = max x.rank y.rank := by
  cases x <;> cases y <;> rfl

theorem Level.rank_pos (level : Level) : 0 < level.rank := by
  cases level <;> decide

/-- The level at which diagnostics of a severity are logged. -/
def levelOf : Severity → Level
  | .note => .info
  | .error => .error

/-- Diagnostics of either severity are within the limit for informational events. -/
theorem rank_levelOf_le (severity : Severity) : (levelOf severity).rank ≤ Level.info.rank := by
  cases severity <;> decide

/-! ## The two rules -/

namespace Filter

/-- The text of the filter for a level: the level for everything, and a level that is
at least informational for diagnostics. -/
def standardText (level : Level) : String :=
  level.name ++ "," ++ diagnosticTarget ++ "=" ++ (level.moreVerbose .info).name

/-- The filter for a level is what its text reads as. -/
theorem ofText?_standardText (level : Level) :
    ofText? (standardText level) = some (standard level) := by
  cases level <;> decide

/-- The rule about diagnostics stands first, since it is the more specific one. -/
theorem standard_eq (level : Level) :
    standard level = {
      plain := [
        { target := some diagnosticTarget, limit := some (level.moreVerbose .info) },
        { limit := some level }]
      plainLimit := some (level.moreVerbose .info) } := by
  cases level <;> decide

/-- The level up to which a target is shown: for diagnostics, and for whatever goes
by a name that starts with theirs, the rule about diagnostics decides. -/
def levelFor (level : Level) (target : String) : Level :=
  if diagnosticTarget.toList.isPrefixOf target.toList then level.moreVerbose .info else level

theorem rank_levelFor_le (level : Level) (target : String) :
    (levelFor level target).rank ≤ (level.moreVerbose .info).rank := by
  unfold levelFor
  split
  · exact Nat.le_refl _
  · rw [Level.rank_moreVerbose]
    exact Nat.le_max_left _ _

theorem allows_standard
    (level asked : Level)
    (target : String)
    (fields : Option (List String)) :
    (standard level).allows asked target fields =
      decide (asked.rank ≤ (levelFor level target).rank) := by
  -- Neither rule names a field, so the target alone decides which of them fits.
  have bothCover (rule : Rule) (noFields : rule.fields = []) :
      fields.all rule.coversFields = true := by
    cases fields with
    | none => rfl
    | some names =>
        show rule.coversFields names = true
        rw [Rule.coversFields, noFields]
        rfl
  rw [standard_eq, allows, levelFor]
  by_cases isDiagnostic : diagnosticTarget.toList.isPrefixOf target.toList = true
  · rw [if_pos isDiagnostic, List.find?_cons_of_pos]
    · rfl
    · simp only [Rule.coversTarget, isDiagnostic, bothCover, Bool.and_self]
  · rw [if_neg isDiagnostic, List.find?_cons_of_neg, List.find?_cons_of_pos]
    · rfl
    · simp only [Rule.coversTarget, bothCover, Bool.and_self]
    · simp [Rule.coversTarget, isDiagnostic]

theorem limit_standard (level : Level) :
    (standard level).limit = some (level.moreVerbose .info) := by
  cases level <;> rfl

/-- No rule opens up inside a span. -/
theorem limitInside_standard (level : Level) (span : Span) :
    (standard level).limitInside span = none := by
  rw [standard_eq]
  rfl

/-- An event is shown by its level and its target alone. -/
theorem shows_standard (level : Level) (event : Event) :
    (standard level).shows event =
      decide (event.level.rank ≤ (levelFor level event.target).rank) := by
  have noSpan (spans : List Span) : spans.any (fun span =>
      ((standard level).limitInside span).admits event.level) = false := by
    rw [List.any_eq_false]
    intro span _
    rw [limitInside_standard]
    simp [Limit.admits, Limit.rank, Nat.ne_of_gt event.level.rank_pos]
  have within := rank_levelFor_le level event.target
  rw [shows, limit_standard, allows_standard, noSpan, Bool.or_false, Limit.admits,
    ← Bool.decide_and]
  exact decide_eq_decide.mpr ⟨And.right, fun fits => ⟨Nat.le_trans fits within, fits⟩⟩

/-- What cannot be read counts as not configured. -/
theorem configured_of_unusable
    {source : Option String}
    (unusable : ∀ text ∈ source, ofText? text = none)
    (level : Level) :
    configured level source = standard level := by
  cases source with
  | none => rfl
  | some text => rw [configured, Option.bind_some, unusable text rfl, Option.getD_none]

end Filter

/-! ## Events of the sink -/

def diagnosticEvent (spans : List Span) (diagnostic : Diagnostic) : Event where
  level := levelOf diagnostic.severity
  target := diagnosticTarget
  message := diagnostic.text
  spans := spans

/-- The event that a request logs, if it is of that kind. -/
def logged? : Request → Option Event
  | .log event => some event
  | _ => none

/-- The events that exchanges log, in order. -/
def logged (exchanges : List Exchange) : List Event :=
  exchanges.filterMap fun exchange => logged? exchange.request

theorem logged_append (first second : List Exchange) :
    logged (first ++ second) = logged first ++ logged second :=
  List.filterMap_append

theorem logged_map_within (span : Span) (exchanges : List Exchange) :
    logged (exchanges.map (Exchange.within span)) = (logged exchanges).map (Event.within span) := by
  unfold logged
  rw [List.filterMap_map, List.map_filterMap]
  congr 1
  funext ⟨request, answer⟩
  cases request <;> rfl

/-- An action inside spans, which are listed from the outside in. -/
def inside {α : Type} (spans : List Span) (action : Action α) : Action α :=
  spans.foldr (fun span action => action.within span) action

section Sink

variable {σ : Type}

theorem logged_logging (host : Host σ) (diagnostic : Diagnostic) (state : σ) :
    logged ((Sink.logging diagnostic).exchanges host state) = [diagnosticEvent [] diagnostic] := by
  obtain ⟨severity, text⟩ := diagnostic
  cases severity <;> rfl

/-- The sink logs one event for each diagnostic, in order. -/
theorem logged_emitAll (host : Host σ) (diagnostics : List Diagnostic) (state : σ) :
    logged ((Sink.emitAll Sink.logging diagnostics).exchanges host state) =
      diagnostics.map (diagnosticEvent []) := by
  induction diagnostics generalizing state with
  | nil => rfl
  | cons diagnostic diagnostics inductionHypothesis =>
      rw [Sink.emitAll, Action.forEach, Action.exchanges_andThen, logged_append, logged_logging,
        ← Sink.emitAll, inductionHypothesis]
      rfl

theorem logged_inside_emitAll
    (host : Host σ)
    (spans : List Span)
    (diagnostics : List Diagnostic)
    (state : σ) :
    logged ((inside spans (Sink.emitAll Sink.logging diagnostics)).exchanges host state) =
      diagnostics.map (diagnosticEvent spans) := by
  induction spans generalizing host with
  | nil => exact logged_emitAll host diagnostics state
  | cons span spans inductionHypothesis =>
      rw [inside, List.foldr_cons, Action.exchanges_within, logged_map_within, ← inside,
        inductionHypothesis, List.map_map]
      rfl

end Sink

/-! ## What is shown -/

namespace Filter

theorem shows_diagnosticEvent (level : Level) (spans : List Span) (diagnostic : Diagnostic) :
    (standard level).shows (diagnosticEvent spans diagnostic) = true := by
  have isDiagnostic : levelFor level diagnosticTarget = level.moreVerbose .info :=
    if_pos (List.isPrefixOf_iff_prefix.mpr List.prefix_rfl)
  have fits := Nat.le_trans (rank_levelOf_le diagnostic.severity)
    (Nat.le_max_right level.rank Level.info.rank)
  rw [shows_standard, diagnosticEvent, isDiagnostic, Level.rank_moreVerbose]
  exact decide_eq_true fits

/-- Where no filter is configured, or none that can be read, diagnostics are shown
whatever the level is: the sink's events are shown one for each diagnostic, in order,
with its text, notes as information and errors as errors, and with the spans that are
recorded. An event of another target is shown exactly if it is no more verbose than
the level. -/
theorem diagnostics_are_always_shown
    (level : Level)
    (source : Option String)
    (unusable : ∀ text ∈ source, ofText? text = none) :
    let filter := configured level source
    ofText? (standardText level) = some filter ∧
    (∀ {σ : Type} (host : Host σ) (state : σ) (spans : List Span) (diagnostics : List Diagnostic),
      filter.apply (logged
          ((inside spans (Sink.emitAll Sink.logging diagnostics)).exchanges host state)) =
        diagnostics.map (diagnosticEvent (spans.filter filter.showsSpan))) ∧
    ∀ event : Event, ¬diagnosticTarget.toList <+: event.target.toList →
      filter.apply [event] =
        if event.level.rank ≤ level.rank then
          [{ event with spans := event.spans.filter filter.showsSpan }]
        else [] := by
  rw [configured_of_unusable unusable level]
  refine ⟨ofText?_standardText level, fun host state spans diagnostics => ?_, ?_⟩
  · have all : ∀ event ∈ diagnostics.map (diagnosticEvent spans),
        (standard level).shows event = true := by
      intro event member
      obtain ⟨diagnostic, _, rfl⟩ := List.mem_map.mp member
      exact shows_diagnosticEvent level spans diagnostic
    rw [logged_inside_emitAll, apply, List.filter_eq_self.mpr all, List.map_map]
    rfl
  · intro event isOther
    have others : levelFor level event.target = level :=
      if_neg fun starts => isOther (List.isPrefixOf_iff_prefix.mp starts)
    rw [apply, List.filter_cons, shows_standard, others]
    by_cases fits : event.level.rank ≤ level.rank <;> simp [fits]

def sessionSpan : Span where
  name := "probe.session"
  target := "probe_harness::session"
  level := .info
  fields := [("subject", .text "foo")]

/-- An event that is no diagnostic, though its target starts like one. -/
def neighbourEvent (level : Level) : Event where
  level := level
  target := "surface_probe::diagnose"
  message := "done"

/-- With a filter that cannot be read and at the level of errors, a note is shown
without the span that it happened in, and a warning of a neighbour is not shown. -/
theorem diagnostics_are_always_shown_of_quiet_level :
    let filter := configured .error (some "a=b=c")
    let sent := logged ((inside [sessionSpan] (Sink.emitAll Sink.logging
      [.note "Note: fyi", .error "Can't require foo"])).exchanges .obliging ())
    ofText? "a=b=c" = none ∧
    ofText? "error,surface_probe::diagnostic=info" = some filter ∧
    filter.apply sent = [
      { level := .info, target := diagnosticTarget, message := "Note: fyi" },
      { level := .error, target := diagnosticTarget, message := "Can't require foo" }] ∧
    ¬diagnosticTarget.toList <+: (neighbourEvent .warn).target.toList ∧
    filter.apply [neighbourEvent .warn] = [] ∧
    filter.apply [neighbourEvent .error] = [neighbourEvent .error] := by
  intro filter sent
  have unreadable : ofText? "a=b=c" = none := by decide
  have unusable : ∀ text ∈ some "a=b=c", ofText? text = none := by
    rintro _ ⟨⟩
    exact unreadable
  have apart : diagnosticTarget.toList.isPrefixOf "surface_probe::diagnose".toList = false := by
    decide
  have isOther (level : Level) :
      ¬diagnosticTarget.toList <+: (neighbourEvent level).target.toList :=
    fun starts => Bool.false_ne_true (apart.symm.trans (List.isPrefixOf_iff_prefix.mpr starts))
  obtain ⟨isText, shown, others⟩ := diagnostics_are_always_shown .error (some "a=b=c") unusable
  exact ⟨unreadable, isText, shown .obliging () [sessionSpan] _, isOther .warn,
    others _ (isOther .warn), others _ (isOther .error)⟩

end Filter

end Log

end InterfaceAudit
