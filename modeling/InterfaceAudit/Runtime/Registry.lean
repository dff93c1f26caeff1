import InterfaceAudit.Runtime

/-!
Contract: a runtime given by a list of registrations.

Owns:
- the registrations, and the records that they build up;
- the runtime that answers from those records.

Does not own: evaluation of assertions.
-/

namespace InterfaceAudit

/-- How a registered receiver answers the question about dynamic dispatch. -/
inductive Delegation where
  | absent
  | present
  | faulty
deriving DecidableEq, Repr, Inhabited

/-- One fact told about a runtime. -/
inductive Registration where
  | unit (name : String)
  | constant (name : String)
  | instanceMethod (receiver method : String)
  | singletonMethod (receiver method : String)
  | delegation (receiver : String) (answer : Delegation)
deriving DecidableEq, Repr

structure Receiver where
  instanceMethods : List String := []
  singletonMethods : List String := []
  delegation : Delegation := .absent
deriving DecidableEq, Repr

/-- Everything known of a runtime. -/
structure Registry where
  units : List String := []
  constants : List String := []
  receivers : List (String × Receiver) := []
deriving DecidableEq, Repr

namespace Registry

/-- The record of a receiver, if it has one. -/
def receiver? (registry : Registry) (name : String) : Option Receiver :=
  registry.receivers.lookup name

/-- Changes the record of a receiver in a list, starting an empty one at the
end if there is none. -/
def changeIn (name : String) (change : Receiver → Receiver) :
    List (String × Receiver) → List (String × Receiver)
  | [] => [(name, change {})]
  | (key, record) :: rest =>
      if key = name then (key, change record) :: rest
      else (key, record) :: changeIn name change rest

theorem lookup_changeIn_self
    (name : String)
    (change : Receiver → Receiver)
    (records : List (String × Receiver)) :
    (changeIn name change records).lookup name =
      some (change ((records.lookup name).getD {})) := by
  induction records with
  | nil => simp [changeIn]
  | cons record records ih =>
      obtain ⟨key, value⟩ := record
      by_cases same : key = name
      · subst same
        simp [changeIn]
      · have other : (name == key) = false := by simpa using Ne.symm same
        simp [changeIn, List.lookup_cons, same, other, ih]

theorem lookup_changeIn_of_ne
    {name other : String}
    (differs : other ≠ name)
    (change : Receiver → Receiver)
    (records : List (String × Receiver)) :
    (changeIn name change records).lookup other = records.lookup other := by
  have skipped : (other == name) = false := by simpa using differs
  induction records with
  | nil => simp [changeIn, List.lookup_cons, skipped]
  | cons record records ih =>
      obtain ⟨key, value⟩ := record
      by_cases same : key = name
      · subst same
        simp [changeIn, List.lookup_cons, skipped]
      · by_cases found : other = key
        · subst found
          simp [changeIn, same]
        · have passed : (other == key) = false := by simpa using found
          simp [changeIn, List.lookup_cons, same, passed, ih]

/-- Changes the record of a receiver. A receiver is also a constant. -/
def changeReceiver
    (registry : Registry)
    (name : String)
    (change : Receiver → Receiver) :
    Registry :=
  { registry with
    constants := name :: registry.constants
    receivers := changeIn name change registry.receivers }

def register (registry : Registry) : Registration → Registry
  | .unit name => { registry with units := name :: registry.units }
  | .constant name => { registry with constants := name :: registry.constants }
  | .instanceMethod receiver method =>
      registry.changeReceiver receiver fun record =>
        { record with instanceMethods := method :: record.instanceMethods }
  | .singletonMethod receiver method =>
      registry.changeReceiver receiver fun record =>
        { record with singletonMethods := method :: record.singletonMethods }
  | .delegation receiver answer =>
      registry.changeReceiver receiver fun record => { record with delegation := answer }

/-- The registry of a list of registrations, applied in order. -/
def ofRegistrations (registrations : List Registration) : Registry :=
  registrations.foldl register {}

def hasMethod (registry : Registry) (receiver method : String) (singleton : Bool) : Bool :=
  match registry.receiver? receiver with
  | none => false
  | some record =>
      if singleton then record.singletonMethods.contains method
      else record.instanceMethods.contains method

/-- What a receiver answers to the question about dynamic dispatch. -/
def delegates (registry : Registry) (receiver : String) : Except IntrospectionFault Bool :=
  match (registry.receiver? receiver).map Receiver.delegation with
  | some .present => .ok true
  | some .faulty => .error ⟨receiver ++ ".instance_method(:method_missing) raised"⟩
  | some .absent => .ok false
  | none => .ok false

/-- The runtime that answers from the records. -/
def runtime (registry : Registry) : Runtime where
  loads name := registry.units.contains name
  resolvesConstant name := registry.constants.contains name
  resolvesMethod := registry.hasMethod
  delegates := registry.delegates

end Registry

end InterfaceAudit
