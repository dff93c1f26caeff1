import InterfaceAudit.Proofs.Diagnostic.Severity
import InterfaceAudit.Proofs.Replay.Agreement

/-!
Contract: what a replay reports of what is missing, whatever its texts hold.

Owns:
- which checks fail, which of these come with a note, and what they echo;
- what is missing: the units that do not load, or if there is none the checks that
  fail;
- the law that a replay reports the missing items one by one and in order, each with
  an error first, so that no text hides an item;
- the exact report, and the counts of its errors and notes, where no echoed text
  holds a line break.

Does not own: the texts of the diagnostics.

A text with a line break is echoed as it is and starts another diagnostic there,
so the exact counts do need texts that are on one line.
-/

namespace InterfaceAudit

/-! ## Counting item by item -/

section Counting

variable {α β : Type} {p : β → Bool} {q : α → Bool} {f : α → List β}

/-- Parts that each hold one hit exactly for a marked item hold as many hits as
there are marked items. -/
theorem countP_flatMap_eq
    {items : List α}
    (each : ∀ item ∈ items, (f item).countP p = if q item then 1 else 0) :
    (items.flatMap f).countP p = items.countP q := by
  induction items with
  | nil => rfl
  | cons item items inductionHypothesis =>
      rw [List.flatMap_cons, List.countP_append, List.countP_cons, each item List.mem_cons_self,
        inductionHypothesis fun other member => each other (List.mem_cons_of_mem _ member),
        Nat.add_comm]

/-- Parts that each hold a hit for a marked item hold at least as many hits as
there are marked items. -/
theorem countP_le_countP_flatMap
    {items : List α}
    (each : ∀ item ∈ items, q item = true → 0 < (f item).countP p) :
    items.countP q ≤ (items.flatMap f).countP p := by
  induction items with
  | nil => exact Nat.le_refl 0
  | cons item items inductionHypothesis =>
      have others := inductionHypothesis fun other member =>
        each other (List.mem_cons_of_mem _ member)
      have first := each item List.mem_cons_self
      rw [List.flatMap_cons, List.countP_append, List.countP_cons]
      split
      next marked =>
        have hit := first marked
        omega
      next => omega

/-- Items that are passed over contribute nothing to the whole. -/
theorem flatMap_ite_nil (items : List α) :
    (items.flatMap fun item => if q item then f item else []) = (items.filter q).flatMap f := by
  induction items with
  | nil => rfl
  | cons item items inductionHypothesis =>
      rw [List.flatMap_cons, inductionHypothesis, List.filter_cons]
      split
      · rw [List.flatMap_cons]
      · rfl

end Counting

def Diagnostic.isNote (diagnostic : Diagnostic) : Bool :=
  diagnostic.severity == .note

/-! ## What fails -/

namespace Check

/-- Whether a check fails against a runtime. A method that its receiver lacks is
excused if dynamic dispatch stands in for it and may do so. -/
def fails (runtime : Runtime) : Check → Bool
  | .constant check => !runtime.resolvesConstant check.name
  | .method check =>
      !runtime.resolvesConstant check.receiver ||
        (!runtime.resolvesMethod check.receiver check.method check.singleton &&
          !(Replay.hasFallback runtime check && check.allowMissing))

/-- Whether a check reports a missing method for which dynamic dispatch could
stand in but may not. -/
def isNoted (runtime : Runtime) : Check → Bool
  | .constant _ => false
  | .method check =>
      runtime.resolvesConstant check.receiver &&
        (!runtime.resolvesMethod check.receiver check.method check.singleton &&
          (Replay.hasFallback runtime check && !check.allowMissing))

/-- The texts of a check that its report echoes, if it fails. The method is not
looked at where the receiver is missing. -/
def echoes (runtime : Runtime) : Check → List String
  | .constant check => [check.name, check.location]
  | .method check =>
      if runtime.resolvesConstant check.receiver then
        [check.receiver, check.method, check.location]
      else [check.receiver, check.location]

/-- The line of a check that fails. -/
def complaint (runtime : Runtime) : Check → String
  | .constant check => Replay.missingConstant check.name check.location
  | .method check =>
      if runtime.resolvesConstant check.receiver then Replay.missingMethod check
      else Replay.missingConstant check.receiver check.location

/-- The further line of a check that is noted. -/
def notice : Check → String
  | .constant _ => ""
  | .method check => Replay.delegationNote check.method

end Check

namespace Replay

/-- The units that do not load. -/
def unloaded (assertions : List Assertion) (runtime : Runtime) : List String :=
  (requires assertions).filter fun name => !runtime.loads name

/-- What is missing: the units that do not load, or if there is none the checks that
fail. -/
def missing (assertions : List Assertion) (runtime : Runtime) : List Assertion :=
  if (unloaded assertions runtime).isEmpty then
    ((checks assertions).filter (Check.fails runtime)).map .check
  else (unloaded assertions runtime).map .require

end Replay

namespace Assertion

/-- The line that reports an assertion as missing. -/
def complaint (runtime : Runtime) : Assertion → String
  | .require name => Script.loadFailure name
  | .check wanted => wanted.complaint runtime

/-- Units are never noted. -/
def isNoted (runtime : Runtime) : Assertion → Bool
  | .require _ => false
  | .check wanted => wanted.isNoted runtime

def notice : Assertion → String
  | .require _ => ""
  | .check wanted => wanted.notice

/-- The texts of a missing assertion that its report echoes. -/
def echoes (runtime : Runtime) : Assertion → List String
  | .require name => [name]
  | .check wanted => wanted.echoes runtime

/-- What is reported of a missing assertion: its complaint, then its notice if it is
noted. -/
def report (runtime : Runtime) (item : Assertion) : List Diagnostic :=
  Diagnostic.classify (item.complaint runtime) ++
    if item.isNoted runtime then Diagnostic.classify item.notice else []

end Assertion

namespace Replay

/-! ## The lines of a check -/

/-- A check prints its complaint if it fails, and then its notice if it is
noted. -/
theorem checkLines_eq (runtime : Runtime) (check : Check) :
    checkLines runtime check =
      (if check.fails runtime then [check.complaint runtime] else []) ++
        if check.isNoted runtime then [check.notice] else [] := by
  cases check with
  | constant check =>
      cases resolves : runtime.resolvesConstant check.name <;>
        simp [checkLines, constantLines, Check.fails, Check.isNoted, Check.complaint, resolves]
  | method check =>
      cases resolves : runtime.resolvesConstant check.receiver with
      | false =>
          simp [checkLines, constantLines, Check.fails, Check.isNoted, Check.complaint, resolves]
      | true =>
          cases found : runtime.resolvesMethod check.receiver check.method check.singleton with
          | true => simp [checkLines, Check.fails, Check.isNoted, resolves, found]
          | false =>
              cases fallback : hasFallback runtime check <;> cases allowed : check.allowMissing <;>
                simp [checkLines, absenceLines, Check.fails, Check.isNoted, Check.complaint,
                  Check.notice, resolves, found, fallback, allowed]

theorem isFailure_complaint (runtime : Runtime) (check : Check) :
    IsFailure (check.complaint runtime) := by
  cases check with
  | constant check => exact .constant check.name check.location
  | method check =>
      rw [Check.complaint]
      split
      · exact .method check
      · exact .constant check.receiver check.location

/-- A check that is noted fails, and echoes the method that it asks for. -/
theorem fails_of_isNoted {runtime : Runtime} {check : Check} (noted : check.isNoted runtime) :
    check.fails runtime = true ∧
      ∃ method ∈ check.echoes runtime, check.notice = delegationNote method := by
  cases check with
  | constant check => cases noted
  | method check =>
      simp only [Check.isNoted, Bool.and_eq_true, Bool.not_eq_true'] at noted
      obtain ⟨resolves, missing, fallback, refused⟩ := noted
      refine ⟨by simp [Check.fails, missing, refused], check.method, ?_, rfl⟩
      simp [Check.echoes, resolves]

theorem not_isNoted_of_not_fails
    {runtime : Runtime}
    {check : Check}
    (holds : check.fails runtime = false) :
    check.isNoted runtime = false := by
  by_contra noted
  have fails := (fails_of_isNoted (Bool.of_not_eq_false noted)).1
  rw [holds] at fails
  cases fails

theorem lines_eq (assertions : List Assertion) (runtime : Runtime) :
    lines assertions runtime =
      if (unloaded assertions runtime).isEmpty then
        (checks assertions).flatMap (checkLines runtime)
      else (unloaded assertions runtime).map Script.loadFailure := by
  unfold lines unloaded
  dsimp only
  rw [flatMap_loadLines, List.isEmpty_map]

/-! ## Whatever the texts hold -/

theorem classify_checkLines_eq_report (runtime : Runtime) (check : Check) :
    (checkLines runtime check).flatMap Diagnostic.classify =
      if check.fails runtime then (Assertion.check check).report runtime else [] := by
  rw [checkLines_eq, List.flatMap_append, Assertion.report, Assertion.isNoted]
  cases fails : check.fails runtime with
  | true =>
      rw [if_pos rfl, if_pos rfl, List.flatMap_singleton]
      cases check.isNoted runtime with
      | true => exact congrArg _ (List.flatMap_singleton _ _)
      | false => rfl
  | false =>
      rw [not_isNoted_of_not_fails fails]
      rfl

/-- A run reports what is missing item by item. -/
theorem diagnostics_eq_report (assertions : List Assertion) (runtime : Runtime) :
    (run assertions runtime).verdict.diagnostics =
      (missing assertions runtime).flatMap (Assertion.report runtime) := by
  rw [diagnostics_run, lines_eq, missing]
  split
  next loaded =>
    rw [List.flatMap_assoc, List.flatMap_map, ← flatMap_ite_nil]
    apply List.flatMap_congr
    intro check _
    exact classify_checkLines_eq_report runtime check
  next notLoaded =>
    rw [List.flatMap_map, List.flatMap_map]
    apply List.flatMap_congr
    intro name _
    exact (List.append_nil _).symm

theorem isFailure_of_assertion (runtime : Runtime) (item : Assertion) :
    IsFailure (item.complaint runtime) := by
  cases item with
  | require name => exact .load name
  | check wanted => exact isFailure_complaint runtime wanted

theorem classify_delegationNote_ne_nil (method : String) :
    Diagnostic.classify (delegationNote method) ≠ [] := by
  have opening : "Note: ".toList.head? = some 'N' := by decide
  have starts : (delegationNote method).toList.head? = some 'N' :=
    head?_append (head?_append opening _) _
  exact Diagnostic.classify_ne_nil_of_visible ⟨'N', List.mem_of_head? starts, by decide⟩

theorem classify_notice_ne_nil
    {runtime : Runtime}
    {item : Assertion}
    (noted : item.isNoted runtime = true) :
    Diagnostic.classify item.notice ≠ [] := by
  cases item with
  | require name => cases noted
  | check wanted =>
      obtain ⟨_, method, _, isNotice⟩ := fails_of_isNoted noted
      rw [Assertion.notice, isNotice]
      exact classify_delegationNote_ne_nil method

/-- Whatever breaks the texts of a missing item, its report holds an error. -/
theorem errors_of_report (runtime : Runtime) (item : Assertion) :
    0 < (item.report runtime).countP Diagnostic.isError := by
  obtain ⟨text, others, classified⟩ := (isFailure_of_assertion runtime item).classify
  rw [Assertion.report, classified]
  exact List.countP_pos_iff.mpr ⟨_, List.mem_cons_self, rfl⟩

/-! ## Texts on one line -/

theorem classify_complaint
    {runtime : Runtime}
    {check : Check}
    (unbroken : ∀ text ∈ check.echoes runtime, Unbroken text) :
    Diagnostic.classify (check.complaint runtime) = [.error (check.complaint runtime)] := by
  cases check with
  | constant check =>
      simp only [Check.echoes, List.forall_mem_cons] at unbroken
      exact classify_missingConstant unbroken.1 unbroken.2.1
  | method check =>
      rw [Check.echoes] at unbroken
      rw [Check.complaint]
      split at unbroken
      next resolves =>
        rw [if_pos resolves]
        simp only [List.forall_mem_cons] at unbroken
        exact classify_missingMethod unbroken.1 unbroken.2.1 unbroken.2.2.1
      next missing =>
        rw [if_neg missing]
        simp only [List.forall_mem_cons] at unbroken
        exact classify_missingConstant unbroken.1 unbroken.2.1

theorem trimmed_complaint (runtime : Runtime) (check : Check) :
    trimmed (check.complaint runtime) = check.complaint runtime := by
  cases check with
  | constant check =>
      exact trimmed_eq_self (missingConstant_ends check.name check.location) (by decide)
  | method check =>
      rw [Check.complaint]
      split
      · exact trimmed_eq_self (missingMethod_ends check) (by decide)
      · exact trimmed_eq_self (missingConstant_ends check.receiver check.location) (by decide)

/-- An item that echoes no line break is reported as one error, and as one note behind
it if it is noted. -/
theorem report_of_echoes
    {runtime : Runtime}
    {item : Assertion}
    (unbroken : ∀ text ∈ item.echoes runtime, Unbroken text) :
    item.report runtime = .error (trimmed (item.complaint runtime)) ::
      if item.isNoted runtime then [.note item.notice] else [] := by
  cases item with
  | require name =>
      rw [Assertion.report, Assertion.complaint,
        classify_loadFailure (unbroken name (List.mem_singleton_self name))]
      rfl
  | check wanted =>
      have notice : wanted.isNoted runtime = true →
          Diagnostic.classify wanted.notice = [.note wanted.notice] := by
        intro noted
        obtain ⟨_, method, echoed, isNotice⟩ := fails_of_isNoted noted
        rw [isNotice]
        exact classify_delegationNote (unbroken method echoed)
      rw [Assertion.report, Assertion.complaint, Assertion.isNoted, classify_complaint unbroken,
        trimmed_complaint, List.singleton_append]
      congr 1
      split
      next noted => exact notice noted
      next => rfl

/-- Where no echoed text holds a line break, the report of a run is exact. -/
theorem diagnostics_of_echoes
    {assertions : List Assertion}
    {runtime : Runtime}
    (unbroken : ∀ text ∈ (missing assertions runtime).flatMap (Assertion.echoes runtime),
      Unbroken text) :
    (run assertions runtime).verdict.diagnostics =
      (missing assertions runtime).flatMap fun item =>
        .error (trimmed (item.complaint runtime)) ::
          if item.isNoted runtime then [.note item.notice] else [] := by
  rw [diagnostics_eq_report]
  apply List.flatMap_congr
  intro item member
  apply report_of_echoes
  intro text echoed
  exact unbroken text (List.mem_flatMap.mpr ⟨item, member, echoed⟩)

/-- Where no echoed text holds a line break, there is one error for every missing item
and one note for every noted one. -/
theorem counts_of_echoes
    {assertions : List Assertion}
    {runtime : Runtime}
    (unbroken : ∀ text ∈ (missing assertions runtime).flatMap (Assertion.echoes runtime),
      Unbroken text) :
    let diagnostics := (run assertions runtime).verdict.diagnostics
    diagnostics.countP Diagnostic.isError = (missing assertions runtime).length ∧
      diagnostics.countP Diagnostic.isNote =
        (missing assertions runtime).countP (Assertion.isNoted runtime) := by
  dsimp only
  rw [diagnostics_of_echoes unbroken, ← List.countP_true]
  constructor
  · apply countP_flatMap_eq
    intro item _
    split <;> rfl
  · apply countP_flatMap_eq
    intro item _
    split <;> rfl

/-- A run reports everything that is missing, item by item and in order, and nothing
else. Whatever the texts hold, an item is reported by its own complaint, which starts
with an error, and then by its own notice if it is noted, so there are at least as many
errors as missing items. Where none of the texts that are echoed holds a line break,
each item is one error, with one note behind it if it is noted. -/
theorem missing_items_are_reported (assertions : List Assertion) (runtime : Runtime) :
    let missing := missing assertions runtime
    let diagnostics := (run assertions runtime).verdict.diagnostics
    let errors := diagnostics.countP fun diagnostic => diagnostic.severity = .error
    let notes := diagnostics.countP fun diagnostic => diagnostic.severity = .note
    diagnostics = missing.flatMap (fun item =>
      Diagnostic.classify (item.complaint runtime) ++
        if item.isNoted runtime then Diagnostic.classify item.notice else []) ∧
    (∀ item ∈ missing,
      (∃ text others, Diagnostic.classify (item.complaint runtime) = .error text :: others) ∧
      (item.isNoted runtime = true → Diagnostic.classify item.notice ≠ [])) ∧
    missing.length ≤ errors ∧
    ((∀ text ∈ missing.flatMap (Assertion.echoes runtime), Unbroken text) →
      diagnostics = missing.flatMap (fun item =>
        .error (trimmed (item.complaint runtime)) ::
          if item.isNoted runtime then [.note item.notice] else []) ∧
      errors = missing.length ∧
      notes = missing.countP (Assertion.isNoted runtime)) := by
  intro missing diagnostics errors notes
  have reported : diagnostics = missing.flatMap (Assertion.report runtime) :=
    diagnostics_eq_report assertions runtime
  refine ⟨reported, fun item _ => ?_, ?_, fun unbroken => ?_⟩
  · exact ⟨(isFailure_of_assertion runtime item).classify, classify_notice_ne_nil⟩
  · have atLeast : missing.countP (fun _ => true) ≤
        (missing.flatMap (Assertion.report runtime)).countP Diagnostic.isError :=
      countP_le_countP_flatMap fun item _ _ => errors_of_report runtime item
    rw [List.countP_true, ← reported] at atLeast
    exact atLeast
  · exact ⟨diagnostics_of_echoes unbroken, counts_of_echoes unbroken⟩

/-- A missing method with a fallback that may not be used, and a missing receiver:
two errors and one note. The method of a missing receiver is not echoed. -/
theorem missing_items_are_reported_with_note :
    let runtime : Runtime := {
      loads := fun _ => true
      resolvesConstant := fun name => name == "Known"
      resolvesMethod := fun _ _ _ => false
      delegates := fun _ => .ok true }
    let seek : MethodCheck := { receiver := "Known", method := "seek", location := "known.rbi:1" }
    let assertions : List Assertion := [
      .method seek,
      .method { receiver := "Unknown", method := "seek\n", location := "unknown.rbi:2" }]
    let diagnostics := (run assertions runtime).verdict.diagnostics
    .method seek ∈ missing assertions runtime ∧
    (Assertion.method seek).isNoted runtime = true ∧
    Diagnostic.classify (Assertion.method seek).notice ≠ [] ∧
    (∀ text ∈ (missing assertions runtime).flatMap (Assertion.echoes runtime), Unbroken text) ∧
    (diagnostics.countP fun diagnostic => diagnostic.severity = .error) = 2 ∧
    (diagnostics.countP fun diagnostic => diagnostic.severity = .note) = 1 := by
  intro runtime seek assertions diagnostics
  have isMissing : .method seek ∈ missing assertions runtime := by decide
  have isNoted : (Assertion.method seek).isNoted runtime = true := by decide
  have unbroken : ∀ text ∈ (missing assertions runtime).flatMap (Assertion.echoes runtime),
      Unbroken text := by
    decide
  obtain ⟨_, each, _, counted⟩ := missing_items_are_reported assertions runtime
  exact ⟨isMissing, isNoted, (each _ isMissing).2 isNoted, unbroken, (counted unbroken).2⟩

/-- Line breaks do forge diagnostics. One missing constant with a line break in its
name is two errors, and one whose location holds a line that starts like a note is an
error and a note, although nothing is noted. -/
theorem counts_of_broken_texts :
    let runtime : Runtime := {
      loads := fun _ => true
      resolvesConstant := fun _ => false
      resolvesMethod := fun _ _ _ => false
      delegates := fun _ => .ok false }
    let named : List Assertion := [.constant "A\nB" "x.rbi:1"]
    let placed : List Assertion := [.constant "A" "x.rbi:1\nNote: forged"]
    (missing named runtime).length = 1 ∧
      ((run named runtime).verdict.diagnostics.countP
        fun diagnostic => diagnostic.severity = .error) = 2 ∧
      (missing placed runtime).countP (Assertion.isNoted runtime) = 0 ∧
      ((run placed runtime).verdict.diagnostics.countP
        fun diagnostic => diagnostic.severity = .note) = 1 := by
  decide

end Replay

end InterfaceAudit
