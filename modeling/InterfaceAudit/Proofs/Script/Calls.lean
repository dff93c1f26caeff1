import InterfaceAudit.Proofs.Script.Execution
import InterfaceAudit.Replay

/-!
Contract: what the three routines do when a script calls them.

Owns:
- the laws by which a routine is run step by step;
- for each routine, its value and its effect on the progress, by what the
  runtime's operations do.

Does not own: runtimes that answer in a particular way.
-/

namespace InterfaceAudit.Script

section Calls

variable {Object : Type} (live : LiveRuntime Object)
variable {known : Invocation Object} {frame changed : Frame Object}
variable {progress after : Progress}

/-! ## Expressions -/

theorem attempt_run {α : Type} (answer : Except ExceptionClass α) (progress : Progress) :
    (attempt answer).run.run progress = (answer, progress) := by
  cases answer <;> rfl

theorem attempt_map_run
    {α β : Type}
    (answer : Except ExceptionClass α)
    (meaning : α → β)
    (progress : Progress) :
    (attempt answer >>= fun found => pure (meaning found)).run.run progress =
      (answer.map meaning, progress) := by
  cases answer <;> rfl

theorem eval_constGet
    {place : Variable}
    {name : String}
    (named : frame place = .text name) :
    ((Expression.constGet place).eval live known frame).run.run progress =
      (live.constGet name, progress) := by
  rw [Expression.eval, named]
  exact attempt_run _ _

theorem eval_overridesMissing (receiver : Variable) :
    ((Expression.overridesMissing receiver).eval live known frame).run.run progress =
      ((live.overridesMissing (frame receiver)).map Value.boolean, progress) := by
  rw [Expression.eval]
  exact attempt_map_run _ _ _

/-- What is found by looking up a method, of a receiver itself or of its
instances. -/
def lookup
    (live : LiveRuntime Object)
    (singleton : Bool)
    (receiver : Value Object)
    (name : String) : Except ExceptionClass Object :=
  if singleton then live.method receiver name else live.instanceMethod receiver name

theorem eval_lookup
    {condition receiver place : Variable}
    {singleton : Bool}
    {name : String}
    (asked : frame condition = .boolean singleton)
    (named : frame place = .text name) :
    ((Expression.choice (.variable condition) (.method receiver place)
      (.instanceMethod receiver place)).eval live known frame).run.run progress =
      ((lookup live singleton (frame receiver) name).map Value.object, progress) := by
  cases singleton with
  | false =>
      rw [Expression.eval, Expression.eval, asked, lookup, if_neg Bool.false_ne_true]
      show ((Expression.instanceMethod receiver place).eval live known frame).run.run progress = _
      rw [Expression.eval, named]
      exact attempt_map_run _ _ _
  | true =>
      rw [Expression.eval, Expression.eval, asked, lookup, if_pos rfl]
      show ((Expression.method receiver place).eval live known frame).run.run progress = _
      rw [Expression.eval, named]
      exact attempt_map_run _ _ _

/-- Joined texts, without the empty text that joining starts from. -/
theorem join_cons (first : String) (texts : List String) :
    String.join (first :: texts) = texts.foldl (· ++ ·) first := by
  rw [String.join, List.foldl_cons, String.empty_append]

theorem eval_fixed (known : Invocation Object) (text : String) :
    ((Expression.string [.fixed text]).eval live known frame).run.run progress =
      (.ok (.text text), progress) := by
  have joined : String.join [text] = text := join_cons text []
  rw [Expression.eval, List.map_singleton, Part.value, joined]
  rfl

theorem eval_puts (parts : List Part) :
    ((Expression.puts (.string parts)).eval live known frame).run.run progress =
      (.ok .nil, progress.puts (String.join (parts.map (Part.value live frame)))) := rfl

theorem eval_fail {place : Variable} (isState : frame place = .state) :
    ((Expression.fail place).eval live known frame).run.run progress =
      (.ok (.boolean false), progress.fail) := by
  rw [Expression.eval, isState]
  rfl

/-! ## Steps -/

section Steps

variable {expression condition positive negative : Expression}
variable {last value : Value Object} {thrown : ExceptionClass}

theorem runSteps_evaluate
    (evaluated : (expression.eval live known frame).run.run progress = (.ok value, after))
    (steps : List Step) :
    runSteps live known (.evaluate expression :: steps) frame last progress =
      runSteps live known steps frame value after := by
  rw [runSteps, Step.run, goOn, evaluated]

theorem runSteps_evaluate_of_error
    (evaluated : (expression.eval live known frame).run.run progress = (.error thrown, after))
    (steps : List Step) :
    runSteps live known (.evaluate expression :: steps) frame last progress =
      (.raised thrown, frame, after) := by
  rw [runSteps, Step.run, goOn, evaluated]

theorem runSteps_assign
    (evaluated : (expression.eval live known frame).run.run progress = (.ok value, after))
    (place : Variable)
    (steps : List Step) :
    runSteps live known (.assign place expression :: steps) frame last progress =
      runSteps live known steps (frame.assign place value) value after := by
  rw [runSteps, Step.run, goOn, evaluated]

theorem runSteps_assign_of_error
    (evaluated : (expression.eval live known frame).run.run progress = (.error thrown, after))
    (place : Variable)
    (steps : List Step) :
    runSteps live known (.assign place expression :: steps) frame last progress =
      (.raised thrown, frame, after) := by
  rw [runSteps, Step.run, goOn, evaluated]

theorem runSteps_returnIf_of_truthy
    (evaluated : (condition.eval live known frame).run.run progress = (.ok value, after))
    (truthy : value.isTruthy = true)
    (steps : List Step) :
    runSteps live known (.returnIf condition :: steps) frame last progress =
      (.returned .nil, frame, after) := by
  rw [runSteps, Step.run, goOn, evaluated]
  simp only [truthy, if_true]

theorem runSteps_returnIf_of_falsy
    (evaluated : (condition.eval live known frame).run.run progress = (.ok value, after))
    (falsy : value.isTruthy = false)
    (steps : List Step) :
    runSteps live known (.returnIf condition :: steps) frame last progress =
      runSteps live known steps frame .nil after := by
  rw [runSteps, Step.run, goOn, evaluated]
  simp only [falsy, Bool.false_eq_true, if_false]

theorem runSteps_returnUnless_of_truthy
    (evaluated : (condition.eval live known frame).run.run progress = (.ok value, after))
    (truthy : value.isTruthy = true)
    (steps : List Step) :
    runSteps live known (.returnUnless condition :: steps) frame last progress =
      runSteps live known steps frame .nil after := by
  rw [runSteps, Step.run, goOn, evaluated]
  simp only [truthy, if_true]

theorem runSteps_returnUnless_of_falsy
    (evaluated : (condition.eval live known frame).run.run progress = (.ok value, after))
    (falsy : value.isTruthy = false)
    (steps : List Step) :
    runSteps live known (.returnUnless condition :: steps) frame last progress =
      (.returned .nil, frame, after) := by
  rw [runSteps, Step.run, goOn, evaluated]
  simp only [falsy, Bool.false_eq_true, if_false]

/-- The last steps of a handler record the failure and give nothing back. -/
theorem runSteps_failing
    {place : Variable}
    (isState : frame place = .state) :
    runSteps live known [.evaluate (.fail place), .evaluate .nil] frame last progress =
      (.finished .nil, frame, progress.fail) := by
  rw [runSteps_evaluate live (eval_fail live isState)]
  rfl

theorem runSteps_branch
    (evaluated : ((Expression.choice condition positive negative).eval live known frame).run.run
      progress = (.ok value, after))
    (steps : List Step) :
    runSteps live known (.branch condition positive (some negative) :: steps) frame last progress =
      runSteps live known steps frame value after := by
  rw [runSteps, Step.run, Option.getD_some, goOn, evaluated]

theorem runSteps_branch_of_error
    (evaluated : ((Expression.choice condition positive negative).eval live known frame).run.run
      progress = (.error thrown, after))
    (steps : List Step) :
    runSteps live known (.branch condition positive (some negative) :: steps) frame last progress =
      (.raised thrown, frame, after) := by
  rw [runSteps, Step.run, Option.getD_some, goOn, evaluated]

/-- A branch that is not there has the value `nil`. -/
theorem runSteps_branch_of_none
    (evaluated : ((Expression.choice condition positive .nil).eval live known frame).run.run
      progress = (.ok value, after))
    (steps : List Step) :
    runSteps live known (.branch condition positive none :: steps) frame last progress =
      runSteps live known steps frame value after := by
  rw [runSteps, Step.run, Option.getD_none, goOn, evaluated]

end Steps

/-! ## Routines -/

section Run

variable {routine : Routine} {arguments : List (Value Object)}

theorem Routine.run_of_finished
    {value : Value Object}
    (body : runSteps live known routine.body (routine.entry arguments) .nil progress =
      (.finished value, changed, after)) :
    (routine.run live known arguments).run.run progress = (.ok value, after) := by
  have entered : (routine.run live known arguments).run.run progress =
      routine.conclude live known
        (runSteps live known routine.body (routine.entry arguments) .nil progress) := rfl
  rw [entered, body]
  rfl

theorem Routine.run_of_returned
    {value : Value Object}
    (body : runSteps live known routine.body (routine.entry arguments) .nil progress =
      (.returned value, changed, after)) :
    (routine.run live known arguments).run.run progress = (.ok value, after) := by
  have entered : (routine.run live known arguments).run.run progress =
      routine.conclude live known
        (runSteps live known routine.body (routine.entry arguments) .nil progress) := rfl
  rw [entered, body]
  rfl

/-- The handler takes over from a body that raises a rescued class. -/
theorem Routine.run_of_rescued
    {thrown : ExceptionClass}
    {handled : Frame Object}
    {ending : Ending Object}
    {final : Progress}
    {result : Except ExceptionClass (Value Object)}
    (body : runSteps live known routine.body (routine.entry arguments) .nil progress =
      (.raised thrown, changed, after))
    (rescued : routine.rescued.any thrown.isCaughtBy = true)
    (handler : runSteps live known routine.handler changed .nil after = (ending, handled, final))
    (concluded : ending.result = result) :
    (routine.run live known arguments).run.run progress = (result, final) := by
  have entered : (routine.run live known arguments).run.run progress =
      routine.conclude live known
        (runSteps live known routine.body (routine.entry arguments) .nil progress) := rfl
  rw [entered, body, Routine.conclude, if_pos rescued, handler, ← concluded]

/-- A class that is not rescued leaves the routine. -/
theorem Routine.run_of_uncaught
    {thrown : ExceptionClass}
    (body : runSteps live known routine.body (routine.entry arguments) .nil progress =
      (.raised thrown, changed, after))
    (uncaught : routine.rescued.any thrown.isCaughtBy = false) :
    (routine.run live known arguments).run.run progress = (.error thrown, after) := by
  have entered : (routine.run live known arguments).run.run progress =
      routine.conclude live known
        (runSteps live known routine.body (routine.entry arguments) .nil progress) := rfl
  rw [entered, body, Routine.conclude, uncaught, if_neg Bool.false_ne_true]

end Run

/-- A call, run from a given progress. -/
def called
    (live : LiveRuntime Object)
    (name : RoutineName)
    (arguments : List (Value Object))
    (progress : Progress) : Except ExceptionClass (Value Object) × Progress :=
  (definitions live routines name arguments).run.run progress

/-! ## Looking up a constant -/

def looking (name location : String) : Frame Object :=
  getConstRoutine.entry [.state, .text name, .text location]

/-- The lookup evaluates to what the runtime answers. -/
theorem eval_looking
    {name : String}
    {answer : Except ExceptionClass (Value Object)}
    (answers : live.constGet name = answer)
    (location : String)
    (progress : Progress) :
    ((Expression.constGet .constName).eval live known (looking name location)).run.run progress =
      (answer, progress) := by
  rw [eval_constGet live rfl, answers]

/-- A constant that is found is the value of the call, which does nothing else. -/
theorem getConst_of_found
    {name : String}
    {value : Value Object}
    (found : live.constGet name = .ok value)
    (location : String)
    (progress : Progress) :
    called live .getConst [.state, .text name, .text location] progress =
      (.ok value, progress) :=
  Routine.run_of_finished live
    (runSteps_evaluate live (eval_looking live found location progress) [])

/-- A constant that is missed is reported, and the value is `nil`. -/
theorem getConst_of_missed
    {name : String}
    {thrown : ExceptionClass}
    (missed : live.constGet name = .error thrown)
    (caught : [.nameError, .loadError].any thrown.isCaughtBy = true)
    (location : String)
    (progress : Progress) :
    called live .getConst [.state, .text name, .text location] progress =
      (.ok .nil, (progress.puts (Replay.missingConstant name location)).fail) := by
  let frame : Frame Object := looking name location
  have notice : String.join (missingConstantParts.map (Part.value live frame)) =
      Replay.missingConstant name location := by
    rw [missingConstantParts, List.map_cons, join_cons]
    rfl
  have handled (known : Invocation Object) :
      runSteps live known getConstRoutine.handler frame .nil progress =
        (.finished .nil, frame,
          (progress.puts (Replay.missingConstant name location)).fail) := by
    rw [← notice]
    exact (runSteps_evaluate live (eval_puts live _) _).trans (runSteps_failing live rfl)
  exact Routine.run_of_rescued live
    (runSteps_evaluate_of_error live (eval_looking live missed location progress) []) caught
    (handled _) rfl

/-- A class that is not rescued leaves the lookup. -/
theorem getConst_of_uncaught
    {name : String}
    {thrown : ExceptionClass}
    (missed : live.constGet name = .error thrown)
    (uncaught : [.nameError, .loadError].any thrown.isCaughtBy = false)
    (location : String)
    (progress : Progress) :
    called live .getConst [.state, .text name, .text location] progress =
      (.error thrown, progress) :=
  Routine.run_of_uncaught live
    (runSteps_evaluate_of_error live (eval_looking live missed location progress) []) uncaught

/-! ## The fallback test -/

/-- Whether dynamic dispatch stands in for the absent methods of a receiver's
instances. A test that raises is a test that fails. -/
def standsIn (live : LiveRuntime Object) (receiver : Value Object) : Bool :=
  match live.overridesMissing receiver with
  | .ok answer => answer
  | .error _ => false

/-- The test evaluates to what the runtime answers. -/
theorem eval_testing
    {receiver : Value Object}
    {answer : Except ExceptionClass Bool}
    (answers : live.overridesMissing receiver = answer)
    (progress : Progress) :
    ((Expression.overridesMissing .const).eval live known
      (dispatchFallbackRoutine.entry [receiver])).run.run progress =
      (answer.map Value.boolean, progress) := by
  rw [eval_overridesMissing, ← answers]
  rfl

theorem dispatchFallback_value
    {receiver : Value Object}
    (rescued : ∀ thrown, live.overridesMissing receiver = .error thrown →
      thrown.isCaughtBy .standardError = true)
    (progress : Progress) :
    called live .dispatchFallback [receiver] progress =
      (.ok (.boolean (standsIn live receiver)), progress) := by
  cases answer : live.overridesMissing receiver with
  | ok overrides =>
      rw [standsIn, answer]
      exact Routine.run_of_finished live
        (runSteps_evaluate live (eval_testing live answer progress) [])
  | error thrown =>
      have caught : [.standardError].any thrown.isCaughtBy = true := by
        simp [rescued thrown answer]
      rw [standsIn, answer]
      exact Routine.run_of_rescued live
        (runSteps_evaluate_of_error live (eval_testing live answer progress) []) caught rfl rfl

theorem dispatchFallback_of_uncaught
    {receiver : Value Object}
    {thrown : ExceptionClass}
    (raised : live.overridesMissing receiver = .error thrown)
    (uncaught : thrown.isCaughtBy .standardError = false)
    (progress : Progress) :
    called live .dispatchFallback [receiver] progress = (.error thrown, progress) := by
  have notRescued : [.standardError].any thrown.isCaughtBy = false := by
    simp [uncaught]
  exact Routine.run_of_uncaught live
    (runSteps_evaluate_of_error live (eval_testing live raised progress) []) notRescued

/-! ## Looking up a method -/

def methodArguments (check : MethodCheck) : List (Value Object) :=
  [.state, .text check.receiver, .text check.method, .text check.location,
    .boolean check.singleton, .boolean check.allowMissing]

/-- What the lookup of a method may call. -/
def earlier (live : LiveRuntime Object) : Invocation Object :=
  definitions live [getConstRoutine, dispatchFallbackRoutine]

/-- The call for a method is a run of the last routine over the other two. -/
theorem called_getMethod (arguments : List (Value Object)) (progress : Progress) :
    called live .getMethod arguments progress =
      (getMethodRoutine.run live (earlier live) arguments).run.run progress := by
  rfl

/-- The variables of the lookup behind that of the receiver. -/
def received (check : MethodCheck) (value : Value Object) : Frame Object :=
  (getMethodRoutine.entry (methodArguments check)).assign .const value

/-- What is left to do once the receiver is there. -/
def lookupStep : Step :=
  .branch (.variable .singleton) (.method .const .methodName)
    (some (.instanceMethod .const .methodName))

variable {check : MethodCheck} {value : Value Object}

/-- The receiver is looked up by the call for a constant. -/
theorem eval_receiver
    {answer : Except ExceptionClass (Value Object)}
    (receiver : called live .getConst [.state, .text check.receiver, .text check.location]
      progress = (answer, after)) :
    ((Expression.call .getConst [.state, .recvName, .loc]).eval live (earlier live)
      (getMethodRoutine.entry (methodArguments check))).run.run progress = (answer, after) :=
  receiver

theorem eval_received :
    ((Expression.variable .const).eval live (earlier live) (received check value)).run.run after =
      (.ok value, after) := rfl

/-- A receiver that is there is kept, and the lookup goes on. -/
theorem getMethod_body_of_receiver
    (receiver : called live .getConst [.state, .text check.receiver, .text check.location]
      progress = (.ok value, after))
    (truthy : value.isTruthy = true) :
    runSteps live (earlier live) getMethodRoutine.body
        (getMethodRoutine.entry (methodArguments check)) .nil progress =
      runSteps live (earlier live) [lookupStep] (received check value) .nil after := by
  calc runSteps live (earlier live) getMethodRoutine.body
        (getMethodRoutine.entry (methodArguments check)) .nil progress
      = runSteps live (earlier live) [.returnUnless (.variable .const), .pause, lookupStep]
          (received check value) value after :=
        runSteps_assign live (eval_receiver live receiver) _ _
    _ = runSteps live (earlier live) [.pause, lookupStep] (received check value) .nil after :=
        runSteps_returnUnless_of_truthy live (eval_received live) truthy _
    _ = runSteps live (earlier live) [lookupStep] (received check value) .nil after := rfl

/-- Nothing is looked up in a receiver that is `nil` or `false`, and nothing is
reported beyond what the lookup of the receiver reports. -/
theorem getMethod_of_falsy_receiver
    (receiver : called live .getConst [.state, .text check.receiver, .text check.location]
      progress = (.ok value, after))
    (falsy : value.isTruthy = false) :
    called live .getMethod (methodArguments check) progress = (.ok .nil, after) := by
  have body : runSteps live (earlier live) getMethodRoutine.body
      (getMethodRoutine.entry (methodArguments check)) .nil progress =
      (.returned .nil, received check value, after) :=
    (runSteps_assign live (eval_receiver live receiver) _ _).trans
      (runSteps_returnUnless_of_falsy live (eval_received live) falsy _)
  rw [called_getMethod]
  exact Routine.run_of_returned live body

theorem eval_lookupStep (check : MethodCheck) (value : Value Object) (progress : Progress) :
    ((Expression.choice (.variable .singleton) (.method .const .methodName)
      (.instanceMethod .const .methodName)).eval live (earlier live)
        (received check value)).run.run progress =
      ((lookup live check.singleton value check.method).map Value.object, progress) :=
  eval_lookup live rfl rfl

/-- A method that is found is the value of the call, which does nothing else. -/
theorem getMethod_of_found
    {found : Object}
    (receiver : called live .getConst [.state, .text check.receiver, .text check.location]
      progress = (.ok value, after))
    (truthy : value.isTruthy = true)
    (present : lookup live check.singleton value check.method = .ok found) :
    called live .getMethod (methodArguments check) progress = (.ok (.object found), after) := by
  have looked := eval_lookupStep live check value after
  rw [present] at looked
  have body : runSteps live (earlier live) getMethodRoutine.body
      (getMethodRoutine.entry (methodArguments check)) .nil progress =
      (.finished (.object found), received check value, after) := by
    rw [getMethod_body_of_receiver live receiver truthy]
    exact runSteps_branch live looked []
  rw [called_getMethod]
  exact Routine.run_of_finished live body

/-- The body raises what the lookup of the method raises. -/
theorem getMethod_body_of_missed
    {thrown : ExceptionClass}
    (receiver : called live .getConst [.state, .text check.receiver, .text check.location]
      progress = (.ok value, after))
    (truthy : value.isTruthy = true)
    (missed : lookup live check.singleton value check.method = .error thrown) :
    runSteps live (earlier live) getMethodRoutine.body
        (getMethodRoutine.entry (methodArguments check)) .nil progress =
      (.raised thrown, received check value, after) := by
  have looked := eval_lookupStep live check value after
  rw [missed] at looked
  rw [getMethod_body_of_receiver live receiver truthy]
  exact runSteps_branch_of_error live looked []

def couldStandIn (live : LiveRuntime Object) (check : MethodCheck) (value : Value Object) : Bool :=
  !check.singleton && standsIn live value

/-- The report on an absent method, and the note that goes with it if dynamic
dispatch could stand in for the method. -/
def Progress.reportMissing (progress : Progress) (check : MethodCheck) (fallback : Bool) :
    Progress :=
  let reported := progress.puts (Replay.missingMethod check)
  if fallback then (reported.puts (Replay.delegationNote check.method)).fail else reported.fail

/-- The variables of the lookup once it is known how to report its failure. -/
def prepared (check : MethodCheck) (value : Value Object) (fallback : Bool) : Frame Object :=
  ((received check value).assign .separator
    (.text (if check.singleton then "." else "#"))).assign .fallback (.boolean fallback)

/-- The steps that decide on a failed lookup once its report is prepared. -/
def decision : List Step :=
  getMethodRoutine.handler.drop 2

def report : List Step :=
  decision.drop 2

theorem runSteps_report
    (check : MethodCheck)
    (value last : Value Object)
    (fallback : Bool)
    (progress : Progress) :
    runSteps live (earlier live) report (prepared check value fallback) last progress =
      (.finished .nil, prepared check value fallback, progress.reportMissing check fallback) := by
  have missing : String.join
      (missingMethodParts.map (Part.value live (prepared check value fallback))) =
      Replay.missingMethod check := by
    rw [missingMethodParts, List.map_cons, join_cons]
    rfl
  have note : String.join
      (delegationParts.map (Part.value live (prepared check value fallback))) =
      Replay.delegationNote check.method := by
    rw [delegationParts, List.map_cons, join_cons]
    rfl
  have shape : report = [
      .evaluate (.puts (.string missingMethodParts)),
      .branch (.variable .fallback) (.puts (.string delegationParts)) none,
      .evaluate (.fail .state),
      .evaluate .nil] := rfl
  rw [shape, runSteps_evaluate live (eval_puts live _), missing]
  cases fallback with
  | false =>
      have skipped (progress : Progress) :
          ((Expression.choice (.variable .fallback) (.puts (.string delegationParts)) .nil).eval
            live (earlier live) (prepared check value false)).run.run progress =
              (.ok .nil, progress) :=
        rfl
      rw [runSteps_branch_of_none live (skipped _)]
      exact runSteps_failing live rfl
  | true =>
      have noted (progress : Progress) :
          ((Expression.choice (.variable .fallback) (.puts (.string delegationParts)) .nil).eval
            live (earlier live) (prepared check value true)).run.run progress =
              (.ok .nil, progress.puts (String.join
                (delegationParts.map (Part.value live (prepared check value true))))) :=
        rfl
      rw [runSteps_branch_of_none live (noted _), note]
      exact runSteps_failing live rfl

theorem runSteps_decision
    (check : MethodCheck)
    (value last : Value Object)
    (fallback : Bool)
    (progress : Progress) :
    ∃ ending : Ending Object, ending.result = .ok .nil ∧
      runSteps live (earlier live) decision (prepared check value fallback) last progress =
        (ending, prepared check value fallback,
          if fallback && check.allowMissing then progress
          else progress.reportMissing check fallback) := by
  have excused : ((Expression.conjunction (.variable .fallback) (.variable .allowMissing)).eval live
      (earlier live) (prepared check value fallback)).run.run progress =
        (.ok (.boolean (fallback && check.allowMissing)), progress) := by
    cases fallback <;> rfl
  cases verdict : fallback && check.allowMissing with
  | true =>
      rw [verdict] at excused
      exact ⟨.returned .nil, rfl, runSteps_returnIf_of_truthy live excused rfl _⟩
  | false =>
      rw [verdict] at excused
      refine ⟨.finished .nil, rfl, (runSteps_returnIf_of_falsy live excused rfl _).trans ?_⟩
      exact runSteps_report live check value .nil fallback progress

theorem eval_separator (check : MethodCheck) (value : Value Object) (progress : Progress) :
    ((Expression.choice (.variable .singleton) (.string [.fixed "."])
      (.string [.fixed "#"])).eval live (earlier live) (received check value)).run.run progress =
      (.ok (.text (if check.singleton then "." else "#")), progress) := by
  obtain ⟨receiver, method, location, singleton, allowMissing⟩ := check
  cases singleton with
  | false => exact eval_fixed live (earlier live) "#"
  | true => exact eval_fixed live (earlier live) "."

/-- The question whether dynamic dispatch could stand in for a method. -/
def fallbackQuestion : Expression :=
  .conjunction (.negation (.variable .singleton)) (.call .dispatchFallback [.const])

/-- The variables of the lookup when that question is asked. -/
def questioned (check : MethodCheck) (value : Value Object) : Frame Object :=
  (received check value).assign .separator (.text (if check.singleton then "." else "#"))

/-- The fallback test is made for methods of instances only. -/
theorem eval_fallback
    (rescued : check.singleton = false → ∀ thrown, live.overridesMissing value = .error thrown →
      thrown.isCaughtBy .standardError = true)
    (progress : Progress) :
    (fallbackQuestion.eval live (earlier live) (questioned check value)).run.run progress =
      (.ok (.boolean (couldStandIn live check value)), progress) := by
  obtain ⟨receiver, method, location, singleton, allowMissing⟩ := check
  cases singleton with
  | false => exact dispatchFallback_value live (rescued rfl) progress
  | true => rfl

theorem eval_fallback_of_uncaught
    {thrown : ExceptionClass}
    (ofInstances : check.singleton = false)
    (raised : live.overridesMissing value = .error thrown)
    (uncaught : thrown.isCaughtBy .standardError = false)
    (progress : Progress) :
    (fallbackQuestion.eval live (earlier live) (questioned check value)).run.run progress =
      (.error thrown, progress) := by
  obtain ⟨receiver, method, location, singleton, allowMissing⟩ := check
  cases ofInstances
  exact dispatchFallback_of_uncaught live raised uncaught progress

/-- A method that is missed is reported, unless dynamic dispatch could stand in
for it and the check allows that. -/
theorem getMethod_of_missed
    {thrown : ExceptionClass}
    (receiver : called live .getConst [.state, .text check.receiver, .text check.location]
      progress = (.ok value, after))
    (truthy : value.isTruthy = true)
    (missed : lookup live check.singleton value check.method = .error thrown)
    (caught : thrown.isCaughtBy .nameError = true)
    (rescued : check.singleton = false → ∀ thrown, live.overridesMissing value = .error thrown →
      thrown.isCaughtBy .standardError = true) :
    called live .getMethod (methodArguments check) progress =
      (.ok .nil,
        if couldStandIn live check value && check.allowMissing then after
        else after.reportMissing check (couldStandIn live check value)) := by
  obtain ⟨ending, concluded, decided⟩ := runSteps_decision live check value
    (.boolean (couldStandIn live check value)) (couldStandIn live check value) after
  have handled : runSteps live (earlier live) getMethodRoutine.handler (received check value) .nil
      after = (ending, prepared check value (couldStandIn live check value),
        if couldStandIn live check value && check.allowMissing then after
        else after.reportMissing check (couldStandIn live check value)) := by
    rw [← decided]
    exact (runSteps_assign live (eval_separator live check value after) _ _).trans
      (runSteps_assign live (eval_fallback live rescued after) _ _)
  have isRescued : [.nameError].any thrown.isCaughtBy = true := by
    simp [caught]
  rw [called_getMethod]
  exact Routine.run_of_rescued live (getMethod_body_of_missed live receiver truthy missed) isRescued
    handled concluded

/-- A class that the lookup of the receiver leaves with is none that is rescued here. -/
theorem getMethod_of_uncaught_receiver
    {thrown : ExceptionClass}
    (receiver : called live .getConst [.state, .text check.receiver, .text check.location]
      progress = (.error thrown, after))
    (uncaught : thrown.isCaughtBy .nameError = false) :
    called live .getMethod (methodArguments check) progress = (.error thrown, after) := by
  have notRescued : [.nameError].any thrown.isCaughtBy = false := by
    simp [uncaught]
  rw [called_getMethod]
  exact Routine.run_of_uncaught live
    (runSteps_assign_of_error live (eval_receiver live receiver) _ _) notRescued

theorem getMethod_of_uncaught
    {thrown : ExceptionClass}
    (receiver : called live .getConst [.state, .text check.receiver, .text check.location]
      progress = (.ok value, after))
    (truthy : value.isTruthy = true)
    (missed : lookup live check.singleton value check.method = .error thrown)
    (uncaught : thrown.isCaughtBy .nameError = false) :
    called live .getMethod (methodArguments check) progress = (.error thrown, after) := by
  have notRescued : [.nameError].any thrown.isCaughtBy = false := by
    simp [uncaught]
  rw [called_getMethod]
  exact Routine.run_of_uncaught live (getMethod_body_of_missed live receiver truthy missed)
    notRescued

/-- A class that leaves the fallback test leaves the handler that asks for it. -/
theorem getMethod_of_uncaught_fallback
    {thrown fault : ExceptionClass}
    (receiver : called live .getConst [.state, .text check.receiver, .text check.location]
      progress = (.ok value, after))
    (truthy : value.isTruthy = true)
    (missed : lookup live check.singleton value check.method = .error thrown)
    (caught : thrown.isCaughtBy .nameError = true)
    (ofInstances : check.singleton = false)
    (raised : live.overridesMissing value = .error fault)
    (uncaught : fault.isCaughtBy .standardError = false) :
    called live .getMethod (methodArguments check) progress = (.error fault, after) := by
  have handled : runSteps live (earlier live) getMethodRoutine.handler (received check value) .nil
      after = (.raised fault, questioned check value, after) :=
    (runSteps_assign live (eval_separator live check value after) _ _).trans
      (runSteps_assign_of_error live
        (eval_fallback_of_uncaught live ofInstances raised uncaught after) _ _)
  have isRescued : [.nameError].any thrown.isCaughtBy = true := by
    simp [caught]
  rw [called_getMethod]
  exact Routine.run_of_rescued live (getMethod_body_of_missed live receiver truthy missed) isRescued
    handled rfl

end Calls

end InterfaceAudit.Script
