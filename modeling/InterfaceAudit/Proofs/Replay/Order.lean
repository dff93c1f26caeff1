import InterfaceAudit.Proofs.Replay.Missing
import Mathlib.Data.List.Forall2
import Mathlib.Order.Defs.PartialOrder

/-!
Contract: which runs succeed, and which runs succeed if another one does.

Owns:
- when an assertion holds, and the law that a run succeeds exactly if all do;
- the order of runtimes by what they offer, in which a fault counts as a refusal;
- assertions that ask for less than others;
- the law that success is kept where less is asked of a runtime that offers more.

Does not own: the output of a run. That can grow where more is on offer: units that
load now let checks fail, and a fallback adds a note.
-/

namespace InterfaceAudit

/-! ## Assertions that hold -/

/-- An assertion holds against a runtime that offers what it asks for. A method is
asked for together with its receiver, and dynamic dispatch stands in for an instance
method that may be missing. -/
def Assertion.Holds (runtime : Runtime) : Assertion → Prop
  | .require name => runtime.loads name = true
  | .check (.constant wanted) => runtime.resolvesConstant wanted.name = true
  | .check (.method wanted) =>
      runtime.resolvesConstant wanted.receiver = true ∧
        (runtime.resolvesMethod wanted.receiver wanted.method wanted.singleton = true ∨
          wanted.singleton = false ∧
            runtime.delegates wanted.receiver = .ok true ∧ wanted.allowMissing = true)

theorem Runtime.confirmsDelegation_iff (runtime : Runtime) (receiver : String) :
    runtime.confirmsDelegation receiver = true ↔ runtime.delegates receiver = .ok true := by
  unfold confirmsDelegation
  cases runtime.delegates receiver with
  | ok answer => simp
  | error fault => simp

/-- A check fails exactly if its assertion does not hold. -/
theorem Check.fails_eq_false_iff (runtime : Runtime) (wanted : Check) :
    wanted.fails runtime = false ↔ (Assertion.check wanted).Holds runtime := by
  cases wanted with
  | constant wanted => simp [fails, Assertion.Holds]
  | method wanted =>
      have fallback : Replay.hasFallback runtime wanted = true ↔
          wanted.singleton = false ∧ runtime.delegates wanted.receiver = .ok true := by
        rw [Replay.hasFallback, Bool.and_eq_true, Bool.not_eq_true',
          Runtime.confirmsDelegation_iff]
      simp only [fails, Assertion.Holds, Bool.or_eq_false_iff, Bool.and_eq_false_iff,
        Bool.not_eq_false', Bool.and_eq_true, fallback, and_assoc]

namespace Replay

theorem checkLines_eq_nil_iff (runtime : Runtime) (wanted : Check) :
    checkLines runtime wanted = [] ↔ (Assertion.check wanted).Holds runtime := by
  rw [checkLines_eq, ← Check.fails_eq_false_iff]
  constructor
  · intro silent
    by_contra fails
    rw [if_pos (Bool.of_not_eq_false fails)] at silent
    cases silent
  · intro holds
    rw [holds, not_isNoted_of_not_fails holds]
    rfl

/-- A run prints nothing exactly if all that is asserted holds. Checks are run only
once every unit loads, but a unit that does not load is itself asserted. -/
theorem lines_eq_nil_iff (assertions : List Assertion) (runtime : Runtime) :
    lines assertions runtime = [] ↔ ∀ assertion ∈ assertions, assertion.Holds runtime := by
  have unitsHold : unloaded assertions runtime = [] ↔
      ∀ name, .require name ∈ assertions → runtime.loads name = true := by
    simp only [unloaded, List.filter_eq_nil_iff, mem_requires, Bool.not_eq_true', Bool.not_eq_false]
  have checksHold : (checks assertions).flatMap (checkLines runtime) = [] ↔
      ∀ wanted, .check wanted ∈ assertions → (Assertion.check wanted).Holds runtime := by
    simp only [List.flatMap_eq_nil_iff, mem_checks, checkLines_eq_nil_iff]
  rw [lines_eq]
  constructor
  · intro silent
    split at silent
    next loaded =>
      intro assertion member
      cases assertion with
      | require name => exact unitsHold.mp (List.isEmpty_iff.mp loaded) name member
      | check wanted => exact checksHold.mp silent wanted member
    next notLoaded =>
      rw [List.map_eq_nil_iff] at silent
      exact absurd (List.isEmpty_iff.mpr silent) notLoaded
  · intro holds
    have loaded := unitsHold.mpr fun name member => holds (.require name) member
    rw [if_pos (List.isEmpty_iff.mpr loaded)]
    exact checksHold.mpr fun wanted member => holds (.check wanted) member

/-- A run succeeds exactly if all that is asserted holds. -/
theorem succeeded_run_iff (assertions : List Assertion) (runtime : Runtime) :
    (run assertions runtime).succeeded = true ↔
      ∀ assertion ∈ assertions, assertion.Holds runtime := by
  rw [succeeded_run, List.isEmpty_iff, lines_eq_nil_iff]

end Replay

/-! ## Runtimes by what they offer -/

/-- The first runtime offers nothing that the second does not. A fault about dynamic
dispatch offers as little as a refusal. -/
structure Runtime.OffersNoMore (less more : Runtime) : Prop where
  loads : ∀ name, less.loads name = true → more.loads name = true
  resolvesConstant : ∀ name, less.resolvesConstant name = true → more.resolvesConstant name = true
  resolvesMethod : ∀ receiver method singleton,
    less.resolvesMethod receiver method singleton = true →
      more.resolvesMethod receiver method singleton = true
  delegates : ∀ receiver, less.delegates receiver = .ok true → more.delegates receiver = .ok true

instance : LE Runtime := ⟨Runtime.OffersNoMore⟩

instance : Preorder Runtime where
  le_refl _ := ⟨fun _ => id, fun _ => id, fun _ _ _ => id, fun _ => id⟩
  le_trans _ _ _ first second := {
    loads := fun name loads => second.loads name (first.loads name loads)
    resolvesConstant := fun name resolves =>
      second.resolvesConstant name (first.resolvesConstant name resolves)
    resolvesMethod := fun receiver method singleton resolves =>
      second.resolvesMethod receiver method singleton
        (first.resolvesMethod receiver method singleton resolves)
    delegates := fun receiver delegates =>
      second.delegates receiver (first.delegates receiver delegates) }

/-- The runtime that refuses wherever introspection does not confirm. -/
def Runtime.settled (runtime : Runtime) : Runtime :=
  { runtime with delegates := fun receiver => .ok (runtime.confirmsDelegation receiver) }

/-- Refusals in place of faults change nothing about a run, its output included. -/
theorem Replay.run_settled (assertions : List Assertion) (runtime : Runtime) :
    run assertions runtime.settled = run assertions runtime :=
  rfl

/-- Of what a runtime answers about dynamic dispatch only the confirmations count. -/
theorem Replay.run_eq_of_confirms
    {runtime : Runtime}
    {delegates : String → Except IntrospectionFault Bool}
    (confirms : ∀ receiver, delegates receiver = .ok true ↔ runtime.delegates receiver = .ok true)
    (assertions : List Assertion) :
    run assertions { runtime with delegates } = run assertions runtime := by
  have settled : Runtime.settled { runtime with delegates } = runtime.settled := by
    unfold Runtime.settled
    congr 1
    funext receiver
    congr 1
    rw [Bool.eq_iff_iff, Runtime.confirmsDelegation_iff, Runtime.confirmsDelegation_iff]
    exact confirms receiver
  rw [← run_settled, settled, run_settled]

/-! ## Assertions that ask for less -/

/-- One assertion is another, or the same method that may now be missing. -/
inductive Assertion.Relaxes : Assertion → Assertion → Prop where
  | same (assertion : Assertion) : Relaxes assertion assertion
  | allowed (wanted : MethodCheck) :
      Relaxes (.method { wanted with allowMissing := true }) (.method wanted)

namespace Assertion.Holds

theorem of_le
    {less more : Runtime}
    (offered : less ≤ more)
    {assertion : Assertion}
    (holds : assertion.Holds less) :
    assertion.Holds more := by
  match assertion with
  | .require name => exact offered.loads name holds
  | .check (.constant wanted) => exact offered.resolvesConstant wanted.name holds
  | .check (.method wanted) =>
      obtain ⟨resolves, found | ⟨isInstance, delegates, allowed⟩⟩ := holds
      · exact ⟨offered.resolvesConstant _ resolves, .inl (offered.resolvesMethod _ _ _ found)⟩
      · exact ⟨offered.resolvesConstant _ resolves,
          .inr ⟨isInstance, offered.delegates _ delegates, allowed⟩⟩

theorem relaxed
    {runtime : Runtime}
    {laxer stricter : Assertion}
    (relaxes : laxer.Relaxes stricter)
    (holds : stricter.Holds runtime) :
    laxer.Holds runtime := by
  cases relaxes with
  | same => exact holds
  | allowed wanted =>
      obtain ⟨resolves, found | ⟨isInstance, delegates, _⟩⟩ := holds
      · exact ⟨resolves, .inl found⟩
      · exact ⟨resolves, .inr ⟨isInstance, delegates, rfl⟩⟩

end Assertion.Holds

/-- Assertions that all hold still do if some are left out and others relaxed. -/
theorem Assertion.forall_holds_of_sublist
    {runtime : Runtime}
    {laxer stricter : List Assertion}
    (asksLess : List.SublistForall₂ Relaxes laxer stricter)
    (hold : ∀ assertion ∈ stricter, assertion.Holds runtime) :
    ∀ assertion ∈ laxer, assertion.Holds runtime := by
  induction asksLess with
  | nil => exact List.forall_mem_nil _
  | cons relaxes _ inductionHypothesis =>
      obtain ⟨first, others⟩ := List.forall_mem_cons.mp hold
      exact List.forall_mem_cons.mpr ⟨first.relaxed relaxes, inductionHypothesis others⟩
  | cons_right _ inductionHypothesis =>
      exact inductionHypothesis (List.forall_mem_cons.mp hold).2

namespace Replay

theorem succeeded_run_of_le
    {less more : Runtime}
    (offered : less ≤ more)
    {laxer stricter : List Assertion}
    (asksLess : List.SublistForall₂ Assertion.Relaxes laxer stricter)
    (succeeded : (run stricter less).succeeded = true) :
    (run laxer more).succeeded = true := by
  rw [succeeded_run_iff] at succeeded ⊢
  have stillHold := Assertion.forall_holds_of_sublist asksLess succeeded
  intro assertion member
  exact (stillHold assertion member).of_le offered

/-- A run succeeds exactly if all that is asserted holds, so it keeps its success where
less is asked of a runtime that offers more: some assertions are left out, and methods
that were demanded may now be missing. A fault is never more than a refusal: runtimes
that differ only in which of the two they answer have the same runs, output and all. -/
theorem success_is_monotone :
    (∀ (assertions : List Assertion) (runtime : Runtime),
      (run assertions runtime).succeeded = true ↔
        ∀ assertion ∈ assertions, assertion.Holds runtime) ∧
    (∀ less more : Runtime, less ≤ more →
      ∀ laxer stricter : List Assertion, List.SublistForall₂ Assertion.Relaxes laxer stricter →
        (run stricter less).succeeded = true → (run laxer more).succeeded = true) ∧
    ∀ (runtime : Runtime) (delegates : String → Except IntrospectionFault Bool),
      (∀ receiver, delegates receiver = .ok true ↔ runtime.delegates receiver = .ok true) →
      ∀ assertions, run assertions { runtime with delegates } = run assertions runtime :=
  ⟨succeeded_run_iff, fun _ _ offered _ _ asksLess => succeeded_run_of_le offered asksLess,
    fun _ _ confirms => run_eq_of_confirms confirms⟩

/-- A method that was found may now be missing, and a unit and a constant are asked
for no longer; the runtime refuses where it was faulty. -/
theorem success_is_monotone_for_allowed_method :
    let less : Runtime := {
      loads := fun name => name == "core"
      resolvesConstant := fun name => name == "Known"
      resolvesMethod := fun _ method _ => method == "seek"
      delegates := fun name => if name == "Known" then .ok true else .error ⟨"uninitialized"⟩ }
    let more : Runtime := {
      loads := fun _ => true
      resolvesConstant := fun _ => true
      resolvesMethod := fun _ method _ => method == "seek"
      delegates := fun name => .ok (name == "Known") }
    let seek : MethodCheck := { receiver := "Known", method := "seek", location := "known.rbi:1" }
    let find : MethodCheck := {
      receiver := "Known", method := "find", location := "known.rbi:2", allowMissing := true }
    let stricter : List Assertion :=
      [.require "core", .method seek, .constant "Known" "known.rbi:3", .method find]
    (run [.method { seek with allowMissing := true }, .method find] more).succeeded = true ∧
      run stricter { less with delegates := more.delegates } = run stricter less := by
  intro less more seek find stricter
  have confirms : ∀ name, more.delegates name = .ok true ↔ less.delegates name = .ok true := by
    intro name
    by_cases isKnown : name = "Known" <;> simp [less, more, isKnown]
  have offered : less ≤ more := {
    loads := fun _ _ => rfl
    resolvesConstant := fun _ _ => rfl
    resolvesMethod := fun _ _ _ => id
    delegates := fun name => (confirms name).mpr }
  have asksLess : List.SublistForall₂ Assertion.Relaxes
      [.method { seek with allowMissing := true }, .method find] stricter :=
    .cons_right (.cons (.allowed seek) (.cons_right (.cons (.same (.method find)) .nil)))
  obtain ⟨_, kept, exchanged⟩ := success_is_monotone
  exact ⟨kept less more offered _ stricter asksLess (by decide),
    exchanged less more.delegates confirms stricter⟩

end Replay

end InterfaceAudit
