import InterfaceAudit.Proofs.Diagnostic.Lines
import Mathlib.Data.List.Basic

/-!
Contract: the lines of a replay, without the tally that they pass through.

Owns:
- the lines of one check, and those of a whole list of assertions;
- the law that a replay prints these lines, and succeeds if there are none;
- the diagnostics of a list of assertions whose texts hold no line break.

Does not own: sessions, which replay one particular list.
-/

namespace InterfaceAudit

namespace Replay

/-! ## Lines -/

/-- The line of a constant that does not resolve. -/
def constantLines (runtime : Runtime) (name location : String) : List String :=
  if runtime.resolvesConstant name then [] else [missingConstant name location]

def absenceLines (runtime : Runtime) (check : MethodCheck) : List String :=
  if hasFallback runtime check then
    if check.allowMissing then [] else [missingMethod check, delegationNote check.method]
  else [missingMethod check]

def checkLines (runtime : Runtime) : Check → List String
  | .constant check => constantLines runtime check.name check.location
  | .method check =>
      if runtime.resolvesConstant check.receiver then
        if runtime.resolvesMethod check.receiver check.method check.singleton then []
        else absenceLines runtime check
      else constantLines runtime check.receiver check.location

/-- The line of a unit that does not load. -/
def loadLines (runtime : Runtime) (name : String) : List String :=
  if runtime.loads name then [] else [Script.loadFailure name]

/-- A tally with more lines printed. Any line at all is a failure. -/
def extend (tally : Tally) (lines : List String) : Tally where
  succeeding := tally.succeeding && lines.isEmpty
  lines := tally.lines ++ lines

theorem extend_nil (tally : Tally) : extend tally [] = tally := by
  simp [extend]

theorem extend_append (tally : Tally) (first second : List String) :
    extend (extend tally first) second = extend tally (first ++ second) := by
  cases first <;> simp [extend]

theorem fail_eq_extend (tally : Tally) (line : String) : tally.fail line = extend tally [line] := by
  simp [extend, Tally.fail]

theorem load_eq_extend (runtime : Runtime) (tally : Tally) (name : String) :
    load runtime tally name = extend tally (loadLines runtime name) := by
  unfold load loadLines
  split
  · rw [extend_nil]
  · rw [fail_eq_extend]

theorem checkPresence_eq_extend (runtime : Runtime) (check : MethodCheck) (tally : Tally) :
    checkPresence runtime check tally =
      extend tally
        (if runtime.resolvesMethod check.receiver check.method check.singleton then []
          else absenceLines runtime check) := by
  unfold checkPresence absenceLines
  split
  · rw [extend_nil]
  · split
    · split
      · rw [extend_nil]
      · simp [extend, Tally.fail, Tally.note]
    · rw [fail_eq_extend]

theorem checkConstant_eq_extend
    (runtime : Runtime)
    (name location : String)
    (tally : Tally) :
    checkConstant runtime name location tally =
      (runtime.resolvesConstant name, extend tally (constantLines runtime name location)) := by
  unfold checkConstant constantLines
  cases runtime.resolvesConstant name with
  | true => rw [if_pos rfl, if_pos rfl, extend_nil]
  | false => rw [if_neg Bool.false_ne_true, if_neg Bool.false_ne_true, fail_eq_extend]

/-- A check prints its lines, and has no other effect. -/
theorem runCheck_eq_extend (runtime : Runtime) (tally : Tally) (check : Check) :
    runCheck runtime tally check = extend tally (checkLines runtime check) := by
  cases check with
  | constant check =>
      rw [runCheck, checkConstant_eq_extend]
      rfl
  | method check =>
      rw [runCheck, checkMethod, checkConstant_eq_extend, checkLines]
      cases resolves : runtime.resolvesConstant check.receiver with
      | false => rfl
      | true =>
          have silent : constantLines runtime check.receiver check.location = [] := by
            rw [constantLines, if_pos resolves]
          rw [silent, extend_nil, if_pos rfl]
          exact checkPresence_eq_extend runtime check tally

/-- Steps that each print lines print all of them, in order. -/
theorem foldl_eq_extend
    {α : Type}
    {step : Tally → α → Tally}
    {lines : α → List String}
    (prints : ∀ tally item, step tally item = extend tally (lines item))
    (items : List α)
    (tally : Tally) :
    items.foldl step tally = extend tally (items.flatMap lines) := by
  induction items generalizing tally with
  | nil => rw [List.foldl_nil, List.flatMap_nil, extend_nil]
  | cons item items inductionHypothesis =>
      rw [List.foldl_cons, inductionHypothesis, prints, extend_append, List.flatMap_cons]

/-- The lines of a list of assertions: those of its units, or if there are none
those of its checks. -/
def lines (assertions : List Assertion) (runtime : Runtime) : List String :=
  let unloaded := (requires assertions).flatMap (loadLines runtime)
  if unloaded.isEmpty then (checks assertions).flatMap (checkLines runtime) else unloaded

/-- A replay prints the lines of its assertions, and succeeds if there are none. -/
theorem tally_eq (assertions : List Assertion) (runtime : Runtime) :
    tally assertions runtime =
      { succeeding := (lines assertions runtime).isEmpty, lines := lines assertions runtime } := by
  have loaded := foldl_eq_extend (load_eq_extend runtime) (requires assertions) {}
  have checked := foldl_eq_extend (runCheck_eq_extend runtime) (checks assertions)
  unfold tally lines
  simp only [loaded, checked]
  cases unloaded : (requires assertions).flatMap (loadLines runtime) with
  | nil => simp [extend]
  | cons line others => simp [extend]

/-! ## Diagnostics -/

theorem loadFailure_starts (name : String) :
    (Script.loadFailure name).toList.head? = some 'C' := by
  have opening : "Can't require ".toList.head? = some 'C' := by decide
  exact head?_append opening name

theorem missingConstant_starts (name location : String) :
    (missingConstant name location).toList.head? = some 'M' := by
  have opening : "Missing runtime constant ".toList.head? = some 'M' := by decide
  exact head?_append (head?_append (head?_append (head?_append opening _) _) _) _

theorem missingMethod_starts (check : MethodCheck) :
    (missingMethod check).toList.head? = some 'M' := by
  have opening : "Missing runtime method ".toList.head? = some 'M' := by decide
  exact head?_append (head?_append (head?_append (head?_append (head?_append (head?_append
    opening _) _) _) _) _) _

theorem missingConstant_ends (name location : String) :
    (missingConstant name location).toList.getLast? = some ')' := by
  have closing : ")".toList.getLast? = some ')' := by decide
  exact getLast?_append closing _

theorem missingMethod_ends (check : MethodCheck) :
    (missingMethod check).toList.getLast? = some ')' := by
  have closing : ")".toList.getLast? = some ')' := by decide
  exact getLast?_append closing _

theorem classify_loadFailure {name : String} (unbroken : Unbroken name) :
    Diagnostic.classify (Script.loadFailure name) =
      [.error (trimmed ("Can't require " ++ name))] := by
  have opening : Unbroken "Can't require " := by decide
  exact Diagnostic.classify_of_error (opening.append unbroken) (loadFailure_starts name)
    (by decide) (by decide)

theorem classify_missingConstant
    {name location : String}
    (nameUnbroken : Unbroken name)
    (locationUnbroken : Unbroken location) :
    Diagnostic.classify (missingConstant name location) =
      [.error (missingConstant name location)] := by
  have opening : Unbroken "Missing runtime constant " := by decide
  have middle : Unbroken " (defined at " := by decide
  have closing : Unbroken ")" := by decide
  have unbroken : Unbroken (missingConstant name location) :=
    (((opening.append nameUnbroken).append middle).append locationUnbroken).append closing
  rw [Diagnostic.classify_of_error unbroken (missingConstant_starts name location) (by decide)
    (by decide), trimmed_eq_self (missingConstant_ends name location) (by decide)]

theorem classify_missingMethod
    {check : MethodCheck}
    (receiverUnbroken : Unbroken check.receiver)
    (methodUnbroken : Unbroken check.method)
    (locationUnbroken : Unbroken check.location) :
    Diagnostic.classify (missingMethod check) = [.error (missingMethod check)] := by
  have opening : Unbroken "Missing runtime method " := by decide
  have separator : Unbroken (if check.singleton then "." else "#") := by
    cases check.singleton <;> decide
  have middle : Unbroken " (defined at " := by decide
  have closing : Unbroken ")" := by decide
  have unbroken : Unbroken (missingMethod check) :=
    (((((opening.append receiverUnbroken).append separator).append methodUnbroken).append
      middle).append locationUnbroken).append closing
  rw [Diagnostic.classify_of_error unbroken (missingMethod_starts check) (by decide) (by decide),
    trimmed_eq_self (missingMethod_ends check) (by decide)]

theorem classify_delegationNote {method : String} (unbroken : Unbroken method) :
    Diagnostic.classify (delegationNote method) = [.note (delegationNote method)] := by
  have opening : Unbroken "Note: " := by decide
  have closing : Unbroken
      " could be delegated via dynamic dispatch but is not annotated to allow it." := by
    decide
  have ends : (delegationNote method).toList.getLast? = some '.' := by
    have last : (" could be delegated via dynamic dispatch but is not annotated to allow it."
        ).toList.getLast? = some '.' := by
      decide
    exact getLast?_append last _
  have marked : Diagnostic.noteMark.isPrefixOf (delegationNote method).toList = true := by
    have mark : "Note: ".toList = Diagnostic.noteMark := by decide
    rw [delegationNote, String.toList_append, String.toList_append, mark, List.append_assoc,
      List.isPrefixOf_iff_prefix]
    exact List.prefix_append _ _
  exact Diagnostic.classify_of_note ((opening.append unbroken).append closing) ends (by decide)
    marked

end Replay

/-! ## What is to be found -/

def Assertion.texts : Assertion → List String
  | .require name => [name]
  | .check (.constant wanted) => [wanted.name, wanted.location]
  | .check (.method wanted) => [wanted.receiver, wanted.method, wanted.location]

/-- What a check is to report against a runtime: nothing if it holds. A method
is asked for only if its receiver resolves. An absent instance method may be
excused by dynamic dispatch, or else comes with a note about it. -/
def Check.findings (runtime : Runtime) : Check → List Diagnostic
  | .constant check =>
      if runtime.resolvesConstant check.name then []
      else [.error ("Missing runtime constant " ++ check.name ++
        " (defined at " ++ check.location ++ ")")]
  | .method check =>
      if !runtime.resolvesConstant check.receiver then
        [.error ("Missing runtime constant " ++ check.receiver ++
          " (defined at " ++ check.location ++ ")")]
      else if runtime.resolvesMethod check.receiver check.method check.singleton then []
      else
        let separator := if check.singleton then "." else "#"
        let absent := Diagnostic.error ("Missing runtime method " ++ check.receiver ++ separator ++
          check.method ++ " (defined at " ++ check.location ++ ")")
        match check.singleton, runtime.delegates check.receiver with
        | false, .ok true =>
            if check.allowMissing then []
            else [absent, .note ("Note: " ++ check.method ++
              " could be delegated via dynamic dispatch but is not annotated to allow it.")]
        | _, _ => [absent]

/-- What a run is to report: every unit that does not load, or if there is none
what the checks report, in the order of the checks. -/
def findings (units : List String) (checks : List Check) (runtime : Runtime) : List Diagnostic :=
  let unloaded := units.filter fun name => !runtime.loads name
  if unloaded.isEmpty then checks.flatMap (Check.findings runtime)
  else unloaded.map fun name => .error (trimmed ("Can't require " ++ name))

namespace Replay

theorem classify_constantLines
    (runtime : Runtime)
    {name location : String}
    (nameUnbroken : Unbroken name)
    (locationUnbroken : Unbroken location) :
    (constantLines runtime name location).flatMap Diagnostic.classify =
      if runtime.resolvesConstant name then [] else [.error (missingConstant name location)] := by
  unfold constantLines
  split
  · rfl
  · rw [List.flatMap_singleton, classify_missingConstant nameUnbroken locationUnbroken]

theorem classify_absenceLines
    (runtime : Runtime)
    {check : MethodCheck}
    (receiverUnbroken : Unbroken check.receiver)
    (methodUnbroken : Unbroken check.method)
    (locationUnbroken : Unbroken check.location) :
    (absenceLines runtime check).flatMap Diagnostic.classify =
      if hasFallback runtime check then
        if check.allowMissing then []
        else [.error (missingMethod check), .note (delegationNote check.method)]
      else [.error (missingMethod check)] := by
  have absent := classify_missingMethod receiverUnbroken methodUnbroken locationUnbroken
  have noted := classify_delegationNote methodUnbroken
  unfold absenceLines
  split
  · split
    · rfl
    · rw [List.flatMap_cons, List.flatMap_singleton, absent, noted]
      rfl
  · rw [List.flatMap_singleton, absent]

/-- The lines of a check are classified as what it is to report. -/
theorem classify_checkLines
    (runtime : Runtime)
    {check : Check}
    (unbroken : ∀ text ∈ (Assertion.check check).texts, Unbroken text) :
    (checkLines runtime check).flatMap Diagnostic.classify = check.findings runtime := by
  cases check with
  | constant check =>
      have nameUnbroken : Unbroken check.name := unbroken _ (by simp [Assertion.texts])
      have locationUnbroken : Unbroken check.location := unbroken _ (by simp [Assertion.texts])
      exact classify_constantLines runtime nameUnbroken locationUnbroken
  | method check =>
      have receiverUnbroken : Unbroken check.receiver := unbroken _ (by simp [Assertion.texts])
      have methodUnbroken : Unbroken check.method := unbroken _ (by simp [Assertion.texts])
      have locationUnbroken : Unbroken check.location := unbroken _ (by simp [Assertion.texts])
      have unresolved := classify_constantLines runtime receiverUnbroken locationUnbroken
      have absent := classify_absenceLines runtime receiverUnbroken methodUnbroken locationUnbroken
      rw [checkLines, Check.findings]
      cases resolves : runtime.resolvesConstant check.receiver with
      | false =>
          rw [resolves] at unresolved
          exact unresolved
      | true =>
          rw [if_pos rfl, Bool.not_true, if_neg Bool.false_ne_true]
          cases found : runtime.resolvesMethod check.receiver check.method check.singleton with
          | true => rfl
          | false =>
              rw [if_neg Bool.false_ne_true, if_neg Bool.false_ne_true, absent, hasFallback,
                Runtime.confirmsDelegation]
              -- The texts are the same on both sides and play no part in the case analysis.
              change _ = match check.singleton, runtime.delegates check.receiver with
                | false, .ok true =>
                    if check.allowMissing then []
                    else
                      [Diagnostic.error (missingMethod check),
                        Diagnostic.note (delegationNote check.method)]
                | _, _ => [Diagnostic.error (missingMethod check)]
              generalize missingMethod check = absence, delegationNote check.method = note
              cases check.singleton with
              | true => rfl
              | false =>
                  cases runtime.delegates check.receiver with
                  | error fault => rfl
                  | ok answer => cases answer <;> rfl

/-- The lines of the units are those of the units that do not load. -/
theorem flatMap_loadLines (runtime : Runtime) (units : List String) :
    units.flatMap (loadLines runtime) =
      (units.filter fun name => !runtime.loads name).map Script.loadFailure := by
  induction units with
  | nil => rfl
  | cons name units inductionHypothesis =>
      rw [List.flatMap_cons, inductionHypothesis, loadLines]
      cases loads : runtime.loads name <;> simp [loads]

theorem classify_loadFailures {units : List String} (unbroken : ∀ name ∈ units, Unbroken name) :
    (units.map Script.loadFailure).flatMap Diagnostic.classify =
      units.map fun name => .error (trimmed ("Can't require " ++ name)) := by
  rw [List.flatMap_map, List.map_eq_flatMap]
  apply List.flatMap_congr
  intro name member
  exact classify_loadFailure (unbroken name member)

theorem classify_checks
    (runtime : Runtime)
    {checks : List Check}
    (unbroken : ∀ check ∈ checks, ∀ text ∈ (Assertion.check check).texts, Unbroken text) :
    (checks.flatMap (checkLines runtime)).flatMap Diagnostic.classify =
      checks.flatMap (Check.findings runtime) := by
  rw [List.flatMap_assoc]
  apply List.flatMap_congr
  intro check member
  exact classify_checkLines runtime (unbroken check member)

/-- The lines of a list of assertions are classified as what is to be found. -/
theorem classify_lines
    (runtime : Runtime)
    {assertions : List Assertion}
    (unbroken : ∀ assertion ∈ assertions, ∀ text ∈ assertion.texts, Unbroken text) :
    (lines assertions runtime).flatMap Diagnostic.classify =
      findings (requires assertions) (checks assertions) runtime := by
  have unitsUnbroken : ∀ name ∈ requires assertions, Unbroken name := by
    intro name member
    exact unbroken _ (mem_requires.mp member) name (by simp [Assertion.texts])
  have checksUnbroken : ∀ check ∈ checks assertions, ∀ text ∈ (Assertion.check check).texts,
      Unbroken text := by
    intro check member
    exact unbroken _ (mem_checks.mp member)
  unfold lines findings
  dsimp only
  rw [flatMap_loadLines, List.isEmpty_map]
  split
  · exact classify_checks runtime checksUnbroken
  · apply classify_loadFailures
    intro name member
    exact unitsUnbroken name (List.mem_filter.mp member).1

/-! ## Nothing is lost -/

/-- A line that reports a failure, of whichever kind. -/
inductive IsFailure : String → Prop where
  | load (name : String) : IsFailure (Script.loadFailure name)
  | constant (name location : String) : IsFailure (missingConstant name location)
  | method (check : MethodCheck) : IsFailure (missingMethod check)

/-- The first diagnostic of a line that reports a failure is an error, whatever
breaks the texts in it. -/
theorem IsFailure.classify {line : String} (failure : IsFailure line) :
    ∃ first others, Diagnostic.classify line = .error first :: others := by
  cases failure with
  | load name =>
      exact Diagnostic.classify_of_error_start (loadFailure_starts name) (by decide) (by decide)
  | constant name location =>
      exact Diagnostic.classify_of_error_start (missingConstant_starts name location) (by decide)
        (by decide)
  | method check =>
      exact Diagnostic.classify_of_error_start (missingMethod_starts check) (by decide) (by decide)

/-- The first line of a check, if it prints any, reports a failure. -/
theorem checkLines_starts (runtime : Runtime) (check : Check) :
    ∀ line ∈ (checkLines runtime check).head?, IsFailure line := by
  have constant (name location : String) :
      ∀ line ∈ (constantLines runtime name location).head?, IsFailure line := by
    intro line first
    unfold constantLines at first
    split at first
    · cases first
    · cases first
      exact .constant name location
  cases check with
  | constant check => exact constant check.name check.location
  | method check =>
      intro line first
      rw [checkLines] at first
      split at first
      · split at first
        · cases first
        · unfold absenceLines at first
          split at first
          · split at first
            · cases first
            · cases first
              exact .method check
          · cases first
            exact .method check
      · exact constant check.receiver check.location line first

/-- A run that prints anything reports a failure. -/
theorem exists_failure_of_lines
    (runtime : Runtime)
    (assertions : List Assertion)
    (prints : lines assertions runtime ≠ []) :
    ∃ line ∈ lines assertions runtime, IsFailure line := by
  unfold lines at prints ⊢
  dsimp only at prints ⊢
  split at prints
  next loaded =>
    rw [if_pos loaded]
    obtain ⟨line, member⟩ := List.exists_mem_of_ne_nil _ prints
    obtain ⟨check, isMember, isLine⟩ := List.mem_flatMap.mp member
    obtain ⟨first, others, shape⟩ := List.exists_cons_of_ne_nil (List.ne_nil_of_mem isLine)
    have starts := checkLines_starts runtime check first (by rw [shape]; rfl)
    refine ⟨first, List.mem_flatMap.mpr ⟨check, isMember, ?_⟩, starts⟩
    rw [shape]
    exact List.mem_cons_self
  next unloaded =>
    rw [if_neg unloaded]
    obtain ⟨line, member⟩ := List.exists_mem_of_ne_nil _ prints
    refine ⟨line, member, ?_⟩
    rw [flatMap_loadLines] at member
    obtain ⟨name, _, rfl⟩ := List.mem_map.mp member
    exact .load name

/-- There is nothing to be found exactly where nothing is printed. -/
theorem findings_isEmpty
    (runtime : Runtime)
    {assertions : List Assertion}
    (unbroken : ∀ assertion ∈ assertions, ∀ text ∈ assertion.texts, Unbroken text) :
    (findings (requires assertions) (checks assertions) runtime).isEmpty =
      (lines assertions runtime).isEmpty := by
  rw [← classify_lines runtime unbroken]
  by_cases silent : lines assertions runtime = []
  · rw [silent]
    rfl
  · obtain ⟨line, member, failure⟩ := exists_failure_of_lines runtime assertions silent
    obtain ⟨first, others, classified⟩ := failure.classify
    have found : Diagnostic.error first ∈
        (lines assertions runtime).flatMap Diagnostic.classify := by
      refine List.mem_flatMap.mpr ⟨line, member, ?_⟩
      rw [classified]
      exact List.mem_cons_self
    rw [List.isEmpty_eq_false_iff.mpr (List.ne_nil_of_mem found),
      List.isEmpty_eq_false_iff.mpr silent]

/-- The verdict on a replay: it passes where there is nothing to be found, and
otherwise reports just that. -/
theorem verdict_run
    (runtime : Runtime)
    {assertions : List Assertion}
    (unbroken : ∀ assertion ∈ assertions, ∀ text ∈ assertion.texts, Unbroken text) :
    (run assertions runtime).verdict =
      { passed := (findings (requires assertions) (checks assertions) runtime).isEmpty
        diagnostics := findings (requires assertions) (checks assertions) runtime } := by
  have isEmpty := findings_isEmpty runtime unbroken
  have classified : Diagnostic.classify (run assertions runtime).output =
      findings (requires assertions) (checks assertions) runtime := by
    rw [← classify_lines runtime unbroken, run, Tally.outcome, Tally.classify_output, tally_eq]
  have succeeded : (run assertions runtime).succeeded = (lines assertions runtime).isEmpty := by
    rw [run, Tally.outcome, tally_eq]
  rw [Outcome.verdict, succeeded, classified, isEmpty]
  cases silent : (lines assertions runtime).isEmpty with
  | false => rfl
  | true =>
      rw [silent, List.isEmpty_iff] at isEmpty
      rw [isEmpty]
      rfl

theorem exitCode_run
    (runtime : Runtime)
    {assertions : List Assertion}
    (unbroken : ∀ assertion ∈ assertions, ∀ text ∈ assertion.texts, Unbroken text) :
    (run assertions runtime).exitCode =
      some (if (findings (requires assertions) (checks assertions) runtime).isEmpty then 0
        else 1) := by
  rw [findings_isEmpty runtime unbroken, run, Tally.outcome, tally_eq]

end Replay

end InterfaceAudit
