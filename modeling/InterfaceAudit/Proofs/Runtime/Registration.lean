import InterfaceAudit.Replay
import InterfaceAudit.Runtime.Registry
import Mathlib.Data.List.Induction

/-!
Contract: what a runtime answers that is known by registrations.

Owns:
- what a list of registrations says, read off the list alone;
- what one registration changes about each answer, and what it leaves alone;
- the law that the runtime of a list answers exactly what the list says;
- the law that the order of registrations counts only among those that tell one
  receiver what to answer about dynamic dispatch.

Does not own: what a run concludes from the answers.
-/

namespace InterfaceAudit

/-! ## What registrations say -/

/-- What a receiver answers about dynamic dispatch if it was told so. -/
def Delegation.reply (receiver : String) : Delegation → Except IntrospectionFault Bool
  | .absent => .ok false
  | .present => .ok true
  | .faulty => .error ⟨receiver ++ ".instance_method(:method_missing) raised"⟩

namespace Registration

def receiver? : Registration → Option String
  | .unit _ => none
  | .constant _ => none
  | .instanceMethod receiver _ => some receiver
  | .singletonMethod receiver _ => some receiver
  | .delegation receiver _ => some receiver

def method (receiver method : String) (singleton : Bool) : Registration :=
  if singleton then .singletonMethod receiver method else .instanceMethod receiver method

/-- What a registration tells a receiver to answer about dynamic dispatch. -/
def delegation? (receiver : String) : Registration → Option Delegation
  | .delegation other answer => if other = receiver then some answer else none
  | _ => none

@[simp] theorem receiver?_method (receiver name : String) (singleton : Bool) :
    (method receiver name singleton).receiver? = some receiver := by
  cases singleton <;> rfl

/-- All that a receiver was told to answer about dynamic dispatch, in order. -/
def delegations (receiver : String) (registrations : List Registration) : List Delegation :=
  registrations.filterMap (delegation? receiver)

end Registration

/-! ## Records -/

def Receiver.methods (record : Receiver) (singleton : Bool) : List String :=
  if singleton then record.singletonMethods else record.instanceMethods

namespace Registry

variable (registry : Registry)

/-- The record of a receiver, which is empty if nothing was told about it. -/
def record (name : String) : Receiver :=
  (registry.receiver? name).getD {}

theorem record_changeReceiver
    (name other : String)
    (change : Receiver → Receiver) :
    (registry.changeReceiver name change).record other =
      if name = other then change (registry.record other) else registry.record other := by
  split
  next same =>
    subst same
    simp only [record, receiver?, changeReceiver, lookup_changeIn_self, Option.getD_some]
  next differs =>
    simp only [record, receiver?, changeReceiver, lookup_changeIn_of_ne (Ne.symm differs)]

theorem hasMethod_iff (receiver method : String) (singleton : Bool) :
    registry.hasMethod receiver method singleton = true ↔
      method ∈ (registry.record receiver).methods singleton := by
  unfold hasMethod record
  cases registry.receiver? receiver <;> cases singleton <;> simp [Receiver.methods]

theorem delegates_eq (receiver : String) :
    registry.delegates receiver = (registry.record receiver).delegation.reply receiver := by
  unfold delegates record
  cases registry.receiver? receiver with
  | none => rfl
  | some record =>
      obtain ⟨_, _, delegation⟩ := record
      cases delegation <;> rfl

/-! ## One registration -/

theorem mem_units_register (registration : Registration) (name : String) :
    name ∈ (registry.register registration).units ↔
      registration = .unit name ∨ name ∈ registry.units := by
  cases registration <;> simp [register, changeReceiver, eq_comm]

theorem mem_constants_register (registration : Registration) (name : String) :
    name ∈ (registry.register registration).constants ↔
      (registration = .constant name ∨ registration.receiver? = some name) ∨
        name ∈ registry.constants := by
  cases registration <;>
    simp [register, changeReceiver, Registration.receiver?, eq_comm]

theorem mem_methods_register
    (registration : Registration)
    (receiver method : String)
    (singleton : Bool) :
    method ∈ ((registry.register registration).record receiver).methods singleton ↔
      registration = .method receiver method singleton ∨
        method ∈ (registry.record receiver).methods singleton := by
  cases registration with
  | unit name | constant name =>
      -- neither of them touches a record
      exact (or_iff_right (by cases singleton <;> nofun)).symm
  | instanceMethod other added | singletonMethod other added | delegation other answer =>
      rw [register, record_changeReceiver]
      obtain same | differs := eq_or_ne other receiver
      · cases singleton <;> simp [same, Registration.method, Receiver.methods, eq_comm]
      · cases singleton <;> simp [differs, Registration.method]

theorem delegation_register (registration : Registration) (receiver : String) :
    ((registry.register registration).record receiver).delegation =
      (registration.delegation? receiver).getD (registry.record receiver).delegation := by
  cases registration with
  | unit name | constant name => rfl
  | instanceMethod other method | singletonMethod other method | delegation other answer =>
      rw [register, record_changeReceiver]
      obtain same | differs := eq_or_ne other receiver
      · simp [same, Registration.delegation?]
      · simp [differs, Registration.delegation?]

/-! ## Any number of registrations -/

theorem ofRegistrations_concat (registrations : List Registration) (last : Registration) :
    ofRegistrations (registrations ++ [last]) = (ofRegistrations registrations).register last := by
  rw [ofRegistrations, List.foldl_append]
  rfl

/-- Something that no registration takes away holds of the registry of a list exactly
if some registration of the list brings it. -/
theorem ofRegistrations_iff
    (holds : Registry → Prop)
    (brings : Registration → Prop)
    (start : ¬holds {})
    (step : ∀ registry registration,
      holds (registry.register registration) ↔ brings registration ∨ holds registry)
    (registrations : List Registration) :
    holds (ofRegistrations registrations) ↔
      ∃ registration ∈ registrations, brings registration := by
  induction registrations using List.reverseRecOn with
  | nil => simpa [ofRegistrations] using start
  | append_singleton registrations last inductionHypothesis =>
      rw [ofRegistrations_concat, step, inductionHypothesis]
      simp only [List.mem_append, List.mem_singleton]
      constructor
      · rintro (brings | ⟨registration, member, brings⟩)
        · exact ⟨last, .inr rfl, brings⟩
        · exact ⟨registration, .inl member, brings⟩
      · rintro ⟨registration, member | rfl, brings⟩
        · exact .inr ⟨registration, member, brings⟩
        · exact .inl brings

theorem mem_units_ofRegistrations (registrations : List Registration) (name : String) :
    name ∈ (ofRegistrations registrations).units ↔ .unit name ∈ registrations := by
  have brought := ofRegistrations_iff (name ∈ ·.units) (· = .unit name) List.not_mem_nil
    (fun registry registration => registry.mem_units_register registration name) registrations
  rw [brought]
  exact exists_eq_right

theorem mem_constants_ofRegistrations (registrations : List Registration) (name : String) :
    name ∈ (ofRegistrations registrations).constants ↔
      .constant name ∈ registrations ∨
        ∃ registration ∈ registrations, registration.receiver? = some name := by
  have brought := ofRegistrations_iff (name ∈ ·.constants)
    (fun registration => registration = .constant name ∨ registration.receiver? = some name)
    List.not_mem_nil
    (fun registry registration => registry.mem_constants_register registration name) registrations
  rw [brought]
  simp only [and_or_left, exists_or, exists_eq_right]

theorem hasMethod_ofRegistrations
    (registrations : List Registration)
    (receiver method : String)
    (singleton : Bool) :
    (ofRegistrations registrations).hasMethod receiver method singleton = true ↔
      .method receiver method singleton ∈ registrations := by
  have unknown : method ∉ (({} : Registry).record receiver).methods singleton := by
    cases singleton <;> exact List.not_mem_nil
  have brought := ofRegistrations_iff
    (fun registry => method ∈ (registry.record receiver).methods singleton)
    (· = .method receiver method singleton) unknown
    (fun registry registration =>
      registry.mem_methods_register registration receiver method singleton) registrations
  rw [hasMethod_iff, brought]
  exact exists_eq_right

/-- Of what a receiver was told about dynamic dispatch its record keeps the last. -/
theorem delegation_ofRegistrations (registrations : List Registration) (receiver : String) :
    ((ofRegistrations registrations).record receiver).delegation =
      (Registration.delegations receiver registrations).getLast?.getD .absent := by
  induction registrations using List.reverseRecOn with
  | nil => rfl
  | append_singleton registrations last inductionHypothesis =>
      -- from the end, since what was told last replaces what was told before
      rw [ofRegistrations_concat, delegation_register, inductionHypothesis,
        Registration.delegations, Registration.delegations, List.filterMap_append]
      cases told : last.delegation? receiver <;> simp [told]

end Registry

/-! ## Runtimes that answer what registrations say -/

/-- A runtime answers what a list of registrations says, and nothing else. -/
structure Runtime.AnswersTo (runtime : Runtime) (registrations : List Registration) : Prop where
  loads : ∀ name, runtime.loads name = true ↔ .unit name ∈ registrations
  /-- A constant resolves if it was registered, or anything about a receiver of its name. -/
  resolvesConstant : ∀ name, runtime.resolvesConstant name = true ↔
    .constant name ∈ registrations ∨
      ∃ registration ∈ registrations, registration.receiver? = some name
  resolvesMethod : ∀ receiver method singleton,
    runtime.resolvesMethod receiver method singleton = true ↔
      .method receiver method singleton ∈ registrations
  /-- The last word about dynamic dispatch counts; without one there is none. -/
  delegates : ∀ receiver, runtime.delegates receiver =
    (Registration.delegations receiver registrations).getLast?.elim (.ok false)
      (Delegation.reply receiver)

theorem Registry.runtime_ofRegistrations_answersTo (registrations : List Registration) :
    (ofRegistrations registrations).runtime.AnswersTo registrations where
  loads name := List.contains_iff_mem.trans (mem_units_ofRegistrations registrations name)
  resolvesConstant name :=
    List.contains_iff_mem.trans (mem_constants_ofRegistrations registrations name)
  resolvesMethod := hasMethod_ofRegistrations registrations
  delegates receiver := by
    refine (delegates_eq _ receiver).trans ?_
    rw [delegation_ofRegistrations]
    cases (Registration.delegations receiver registrations).getLast? <;> rfl

attribute [ext] Runtime

namespace Runtime.AnswersTo

variable {runtime other : Runtime} {registrations others : List Registration}

/-- Registrations determine the runtime by what they are and by the last word about
dynamic dispatch that each receiver was told. -/
theorem runtime_eq
    (answers : runtime.AnswersTo registrations)
    (otherAnswers : other.AnswersTo others)
    (same : ∀ registration, registration ∈ registrations ↔ registration ∈ others)
    (last : ∀ receiver, (Registration.delegations receiver registrations).getLast? =
      (Registration.delegations receiver others).getLast?) :
    runtime = other := by
  ext1
  · funext name
    rw [Bool.eq_iff_iff, answers.loads, otherAnswers.loads, same]
  · funext name
    simp only [Bool.eq_iff_iff, answers.resolvesConstant, otherAnswers.resolvesConstant, same]
  · funext receiver method singleton
    rw [Bool.eq_iff_iff, answers.resolvesMethod, otherAnswers.resolvesMethod, same]
  · funext receiver
    rw [answers.delegates, otherAnswers.delegates, last]

theorem resolvesConstant_of_receiver
    (answers : runtime.AnswersTo registrations)
    {registration : Registration}
    (member : registration ∈ registrations)
    {receiver : String}
    (isAbout : registration.receiver? = some receiver) :
    runtime.resolvesConstant receiver = true :=
  (answers.resolvesConstant receiver).mpr (.inr ⟨registration, member, isAbout⟩)

end Runtime.AnswersTo

namespace Registry

theorem runtime_eq_of_perm
    {registrations others : List Registration}
    (shuffled : registrations.Perm others)
    (kept : ∀ receiver, Registration.delegations receiver registrations =
      Registration.delegations receiver others) :
    (ofRegistrations registrations).runtime = (ofRegistrations others).runtime :=
  (runtime_ofRegistrations_answersTo registrations).runtime_eq
    (runtime_ofRegistrations_answersTo others) (fun _ => shuffled.mem_iff)
    fun receiver => congrArg List.getLast? (kept receiver)

/-- The runtime of a list of registrations answers exactly what the list says, so a
receiver that has a method or was told about dynamic dispatch is also a constant.
The order of the list does not count: a list of the same registrations, in which each
receiver is told the same about dynamic dispatch in the same order, gives every run
the same outcome. -/
theorem runtime_says_what_was_registered :
    (∀ registrations : List Registration,
      let runtime := (ofRegistrations registrations).runtime
      runtime.AnswersTo registrations ∧
      (∀ receiver method singleton, runtime.resolvesMethod receiver method singleton = true →
        runtime.resolvesConstant receiver = true) ∧
      ∀ receiver answer, .delegation receiver answer ∈ registrations →
        runtime.resolvesConstant receiver = true) ∧
    ∀ registrations others : List Registration, registrations.Perm others →
      (∀ receiver, Registration.delegations receiver registrations =
        Registration.delegations receiver others) →
      ∀ assertions, Replay.run assertions (ofRegistrations registrations).runtime =
        Replay.run assertions (ofRegistrations others).runtime := by
  refine ⟨fun registrations => ?_, fun registrations others shuffled kept assertions => ?_⟩
  · have answers := runtime_ofRegistrations_answersTo registrations
    refine ⟨answers, fun receiver method singleton found => ?_, fun receiver answer member => ?_⟩
    · exact answers.resolvesConstant_of_receiver ((answers.resolvesMethod _ _ _).mp found)
        (Registration.receiver?_method receiver method singleton)
    · exact answers.resolvesConstant_of_receiver member rfl
  · rw [runtime_eq_of_perm shuffled kept]

/-- Registrations of two receivers that take turns, one of which is told about dynamic
dispatch twice. -/
def scattered : List Registration := [
  .delegation "Known" .faulty,
  .instanceMethod "Known" "seek",
  .unit "core",
  .delegation "Other" .absent,
  .singletonMethod "Other" "open",
  .delegation "Known" .present,
  .constant "Limit"]

/-- The same registrations, sorted by what they are about. -/
def sorted : List Registration := [
  .unit "core",
  .constant "Limit",
  .delegation "Other" .absent,
  .singletonMethod "Other" "open",
  .delegation "Known" .faulty,
  .delegation "Known" .present,
  .instanceMethod "Known" "seek"]

theorem runtime_says_what_was_registered_of_scattered :
    let find : MethodCheck := { receiver := "Known", method := "find", location := "known.rbi:1" }
    let assertions : List Assertion := [.require "core", .method find, .constant "Limit" "a.rbi:2"]
    let runtime := (ofRegistrations scattered).runtime
    scattered.Perm sorted ∧
    (∀ receiver, Registration.delegations receiver scattered =
      Registration.delegations receiver sorted) ∧
    Replay.run assertions runtime = Replay.run assertions (ofRegistrations sorted).runtime ∧
    .delegation "Known" .faulty ∈ scattered ∧
    runtime.resolvesConstant "Known" = true ∧
    runtime.resolvesMethod "Other" "open" true = true ∧
    runtime.resolvesConstant "Other" = true := by
  intro find assertions runtime
  have shuffled : scattered.Perm sorted := by decide
  have kept (receiver : String) : Registration.delegations receiver scattered =
      Registration.delegations receiver sorted := by
    obtain rfl | differs := eq_or_ne "Known" receiver
    · rfl
    · simp [Registration.delegations, List.filterMap_cons, Registration.delegation?, scattered,
        sorted, differs]
  have told : .delegation "Known" .faulty ∈ scattered := by decide
  have found : runtime.resolvesMethod "Other" "open" true = true := by decide
  obtain ⟨answered, agree⟩ := runtime_says_what_was_registered
  obtain ⟨_, ofMethod, ofDelegation⟩ := answered scattered
  exact ⟨shuffled, kept, agree scattered sorted shuffled kept assertions, told,
    ofDelegation "Known" .faulty told, found, ofMethod "Other" "open" true found⟩

/-- What one receiver is told about dynamic dispatch does not commute. -/
example :
    let find : MethodCheck := {
      receiver := "Known", method := "find", location := "known.rbi:1", allowMissing := true }
    let told (first second : Delegation) : Runtime :=
      (ofRegistrations [.delegation "Known" first, .delegation "Known" second]).runtime
    (Replay.run [.method find] (told .absent .present)).succeeded = true ∧
      (Replay.run [.method find] (told .present .absent)).succeeded = false := by
  decide

end Registry

end InterfaceAudit
