import InterfaceAudit.Outcome
import InterfaceAudit.Proofs.Diagnostic.Lines
import InterfaceAudit.Proofs.Script.Routine
import InterfaceAudit.Proofs.Script.Statement

/-!
Contract: running a script inside a live runtime.

Owns:
- a live runtime, known by what its own operations do;
- the evaluation of the preamble's language, with raised exceptions, rescue
  clauses and early returns;
- the run of a script, from its text to its outcome.

Does not own: what the answers of a runtime must look like from outside.
-/

namespace InterfaceAudit.Script

/-! ## Values and the runtime -/

/-- A value of a live runtime. -/
inductive Value (Object : Type) where
  | nil
  | boolean (value : Bool)
  | text (value : String)
  | state
  | object (value : Object)
deriving DecidableEq, Repr

/-- Everything counts as true except `nil` and `false`. -/
def Value.isTruthy {Object : Type} : Value Object → Bool
  | .nil => false
  | .boolean value => value
  | _ => true

/-- The superclass of a class of exceptions, among those told apart. -/
def ExceptionClass.parent? : ExceptionClass → Option ExceptionClass
  | .root => none
  | .scriptError => some .root
  | .loadError => some .scriptError
  | .standardError => some .root
  | .nameError => some .standardError

/-- Whether a raised class is caught by a clause that names the other one: the
same class, its parent, or the parent of that. -/
def ExceptionClass.isCaughtBy (raised named : ExceptionClass) : Bool :=
  raised = named || raised.parent? = some named ||
    raised.parent?.bind ExceptionClass.parent? = some named

/-- A live runtime. Every operation either gives a value or raises. -/
structure LiveRuntime (Object : Type) where
  shown : Object → String
  require : String → Except ExceptionClass Unit
  constGet : String → Except ExceptionClass (Value Object)
  method : Value Object → String → Except ExceptionClass Object
  instanceMethod : Value Object → String → Except ExceptionClass Object
  overridesMissing : Value Object → Except ExceptionClass Bool

/-- What a script has done so far: its verdict, and the printed characters. -/
structure Progress where
  success : Bool := true
  output : List Char := []
deriving DecidableEq, Repr

def Progress.puts (progress : Progress) (text : String) : Progress :=
  { progress with output := progress.output ++ printed text }

def Progress.fail (progress : Progress) : Progress :=
  { progress with success := false }

/-- A computation inside the runtime. What it has done stays done when it raises. -/
abbrev Evaluation (α : Type) :=
  ExceptT ExceptionClass (StateM Progress) α

/-- The local variables of a routine. One that was never assigned is `nil`. -/
abbrev Frame (Object : Type) :=
  Variable → Value Object

def Frame.assign {Object : Type} (frame : Frame Object) (name : Variable) (value : Value Object) :
    Frame Object :=
  fun asked => if asked = name then value else frame asked

/-- Binds parameters to arguments, from left to right. -/
def Frame.bind {Object : Type} : List Variable → List (Value Object) → Frame Object
  | name :: names, value :: values => (Frame.bind names values).assign name value
  | _, _ => fun _ => .nil

/-- What the known routines do with their arguments. -/
abbrev Invocation (Object : Type) :=
  RoutineName → List (Value Object) → Evaluation (Value Object)

/-! ## Evaluation -/

section Evaluation

variable {Object : Type} (live : LiveRuntime Object)

/-- The outcome of an operation of the runtime. -/
def attempt {α : Type} : Except ExceptionClass α → Evaluation α
  | .ok value => pure value
  | .error thrown => throw thrown

def shownValue : Value Object → String
  | .nil => ""
  | .boolean value => if value then "true" else "false"
  | .text value => value
  | .state => "#<SurfaceProbeState>"
  | .object value => live.shown value

/-- A value where the runtime wants a name. Other values raise a kind of
standard error there. -/
def nameOf : Value Object → Evaluation String
  | .text value => pure value
  | _ => throw .standardError

/-- A part of a string, with the variable's value in place. -/
def Part.value (frame : Frame Object) : Part → String
  | .fixed text => text
  | .inserted name => shownValue live (frame name)

def Expression.eval (known : Invocation Object) (frame : Frame Object) :
    Expression → Evaluation (Value Object)
  | .nil => pure .nil
  | .boolean value => pure (.boolean value)
  | .variable name => pure (frame name)
  | .string parts => pure (.text (String.join (parts.map (Part.value live frame))))
  | .negation operand => do
      let value ← operand.eval known frame
      return .boolean !value.isTruthy
  | .conjunction left right => do
      let value ← left.eval known frame
      if value.isTruthy then right.eval known frame else return value
  | .choice condition positive negative => do
      let value ← condition.eval known frame
      if value.isTruthy then positive.eval known frame else negative.eval known frame
  | .call routine arguments => known routine (arguments.map frame)
  | .constGet name => do
      attempt (live.constGet (← nameOf (frame name)))
  | .method receiver name => do
      let found ← attempt (live.method (frame receiver) (← nameOf (frame name)))
      return .object found
  | .instanceMethod receiver name => do
      let found ← attempt (live.instanceMethod (frame receiver) (← nameOf (frame name)))
      return .object found
  | .overridesMissing receiver => do
      let answer ← attempt (live.overridesMissing (frame receiver))
      return .boolean answer
  | .puts text => do
      let value ← text.eval known frame
      modify (Progress.puts · (shownValue live value))
      return .nil
  | .fail receiver =>
      match frame receiver with
      | .state => do
          modify Progress.fail
          return .boolean false
      | _ => throw .nameError

/-- How steps end: behind the last one, by a return, or by an exception. -/
inductive Ending (Object : Type) where
  | finished (value : Value Object)
  | returned (value : Value Object)
  | raised (thrown : ExceptionClass)

def goOn
    (known : Invocation Object)
    (frame : Frame Object)
    (expression : Expression)
    (next : Value Object → Ending Object × Frame Object)
    (progress : Progress) : Ending Object × Frame Object × Progress :=
  match (expression.eval live known frame).run.run progress with
  | (.ok value, progress) => ((next value).1, (next value).2, progress)
  | (.error thrown, progress) => (.raised thrown, frame, progress)

/-- Runs one step. It gives its ending, the local variables and the progress. -/
def Step.run (known : Invocation Object) (frame : Frame Object) (last : Value Object) :
    Step → Progress → Ending Object × Frame Object × Progress
  | .evaluate expression =>
      goOn live known frame expression fun value => (.finished value, frame)
  | .assign name expression =>
      goOn live known frame expression fun value => (.finished value, frame.assign name value)
  | .returnIf condition =>
      goOn live known frame condition fun value =>
        (if value.isTruthy then .returned .nil else .finished .nil, frame)
  | .returnUnless condition =>
      goOn live known frame condition fun value =>
        (if value.isTruthy then .finished .nil else .returned .nil, frame)
  | .branch condition positive negative =>
      goOn live known frame (.choice condition positive (negative.getD .nil)) fun value =>
        (.finished value, frame)
  | .pause => fun progress => (.finished last, frame, progress)

/-- Runs steps until one of them returns or raises. -/
def runSteps (known : Invocation Object) :
    List Step → Frame Object → Value Object → Progress →
      Ending Object × Frame Object × Progress
  | [], frame, last, progress => (.finished last, frame, progress)
  | step :: steps, frame, last, progress =>
      match step.run live known frame last progress with
      | (.finished value, frame, progress) => runSteps known steps frame value progress
      | stopped => stopped

def Ending.result : Ending Object → Except ExceptionClass (Value Object)
  | .finished value => .ok value
  | .returned value => .ok value
  | .raised thrown => .error thrown

/-- The variables of a routine when it is entered. -/
def Routine.entry (routine : Routine) (arguments : List (Value Object)) : Frame Object :=
  Frame.bind (routine.positional ++ routine.keywords) arguments

/-- The end of a routine behind its body. The handler takes over if the body has
raised a class that is rescued, and sees the variables that it has assigned. -/
def Routine.conclude (known : Invocation Object) (routine : Routine) :
    Ending Object × Frame Object × Progress → Except ExceptionClass (Value Object) × Progress
  | (.raised thrown, frame, progress) =>
      if routine.rescued.any thrown.isCaughtBy then
        let (ending, _, progress) := runSteps live known routine.handler frame .nil progress
        (ending.result, progress)
      else (.error thrown, progress)
  | (ending, _, progress) => (ending.result, progress)

def Routine.run (known : Invocation Object) (routine : Routine) (arguments : List (Value Object)) :
    Evaluation (Value Object) :=
  ExceptT.mk fun progress =>
    routine.conclude live known
      (runSteps live known routine.body (routine.entry arguments) .nil progress)

/-- Defines a routine over those that are known already. -/
def define (known : Invocation Object) (routine : Routine) : Invocation Object :=
  fun name arguments =>
    if routine.name = name then routine.run live known arguments else known name arguments

/-- What routines do that are defined one after the other. Calling one that is
not defined raises. -/
def definitions (routines : List Routine) : Invocation Object :=
  routines.foldl (define live) fun _ _ => throw .nameError

/-! ## Statements -/

/-- Where a script stands behind a statement: it goes on, it has exited, or an
exception has escaped that nothing in the script rescues. -/
inductive Standing where
  | running (progress : Progress)
  | exited (code : Int) (progress : Progress)
  | escaped (thrown : ExceptionClass) (progress : Progress)

/-- Where a script stands behind an evaluation whose value it ignores. -/
def Standing.behind {α : Type} : Except ExceptionClass α × Progress → Standing
  | (.ok _, progress) => .running progress
  | (.error thrown, progress) => .escaped thrown progress

def Statement.run (known : Invocation Object) (progress : Progress) : Statement → Standing
  | .load name notice =>
      match live.require name with
      | .ok _ => .running progress
      | .error thrown =>
          if [.scriptError, .standardError].any thrown.isCaughtBy then
            .running (progress.puts notice).fail
          else .escaped thrown progress
  | .checkpoint => if progress.success then .running progress else .exited 1 progress
  | .getConst name location =>
      .behind ((known .getConst [.state, .text name, .text location]).run.run progress)
  | .getMethod receiver method location singleton allowMissing =>
      .behind ((known .getMethod [.state, .text receiver, .text method, .text location,
        .boolean singleton, .boolean allowMissing]).run.run progress)

/-- Runs statements until one of them ends the script. A script that reaches its
end exits with code 0. -/
def runStatements (known : Invocation Object) : List Statement → Progress → Standing
  | [], progress => .exited 0 progress
  | statement :: statements, progress =>
      match statement.run live known progress with
      | .running progress => runStatements known statements progress
      | stopped => stopped

def Standing.outcome? : Standing → Option Outcome
  | .exited code progress =>
      some {
        succeeded := code = 0
        exitCode := some code
        output := String.ofList progress.output }
  | _ => none

/-- Runs the text of a script: the routines that its preamble defines, and the
statements behind them. There is no outcome unless the text can be read to its
end and the script exits. -/
def LiveRuntime.runText (text : String) : Option Outcome := do
  let body ← behind? (String.ofList ((definingLines routines).flatMap line)) text.toList
  let statements ← statements? body
  (runStatements live (definitions live routines) statements {}).outcome?

end Evaluation

end InterfaceAudit.Script
