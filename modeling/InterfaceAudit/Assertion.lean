/-!
Contract: assertions about a library's public interface, in the order in which
they were made.

Owns:
- the three things that can be asserted: a unit loads, a constant resolves, a
  method is present;
- the split of a list of assertions into the units to load and the checks to
  run, each in the order of the list.

Does not own: how assertions are run, rendered or read from JSON.
-/

namespace InterfaceAudit

/-- Asserts that a constant resolves. `location` is where it is declared. -/
structure ConstantCheck where
  name : String
  location : String
deriving DecidableEq, Repr, Inhabited

/-- Asserts that a receiver has a method. A `singleton` method belongs to the
receiver itself, any other to its instances. With `allowMissing` an instance
method may be absent if the receiver answers unknown messages dynamically. -/
structure MethodCheck where
  receiver : String
  method : String
  location : String
  singleton : Bool := false
  allowMissing : Bool := false
deriving DecidableEq, Repr, Inhabited

/-- Something to be checked once every unit is loaded. -/
inductive Check where
  | constant (check : ConstantCheck)
  | method (check : MethodCheck)
deriving DecidableEq, Repr, Inhabited

/-- One assertion: a unit can be loaded, or a check holds. -/
inductive Assertion where
  | require (name : String)
  | check (check : Check)
deriving DecidableEq, Repr, Inhabited

namespace Assertion

abbrev constant (name location : String) : Assertion :=
  .check (.constant { name, location })

abbrev method (check : MethodCheck) : Assertion :=
  .check (.method check)

/-- The unit an assertion wants loaded, if it is of that kind. -/
def requireName? : Assertion → Option String
  | .require name => some name
  | .check _ => none

/-- The check of an assertion, if it is of that kind. -/
def check? : Assertion → Option Check
  | .require _ => none
  | .check wanted => some wanted

/-- Whether an assertion is about loading a unit. -/
def isRequire (assertion : Assertion) : Bool :=
  assertion.requireName?.isSome

end Assertion

/-- The units to load, in order. -/
def requires (assertions : List Assertion) : List String :=
  assertions.filterMap Assertion.requireName?

/-- The checks to run, in order. -/
def checks (assertions : List Assertion) : List Check :=
  assertions.filterMap Assertion.check?

theorem mem_requires {name : String} {assertions : List Assertion} :
    name ∈ requires assertions ↔ .require name ∈ assertions := by
  rw [requires, List.mem_filterMap]
  constructor
  · rintro ⟨assertion, member, isName⟩
    cases assertion with
    | require other =>
        cases isName
        exact member
    | check wanted => cases isName
  · intro member
    exact ⟨.require name, member, rfl⟩

theorem mem_checks {wanted : Check} {assertions : List Assertion} :
    wanted ∈ checks assertions ↔ .check wanted ∈ assertions := by
  rw [checks, List.mem_filterMap]
  constructor
  · rintro ⟨assertion, member, isWanted⟩
    cases assertion with
    | require name => cases isWanted
    | check other =>
        cases isWanted
        exact member
  · intro member
    exact ⟨.check wanted, member, rfl⟩

end InterfaceAudit
