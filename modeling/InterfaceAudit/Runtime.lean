import InterfaceAudit.Assertion

/-!
Contract: what a live runtime answers about itself.

Owns:
- the four questions that decide every assertion;
- the fault that the question about dynamic dispatch may end in.

Does not own: any particular runtime, or what is concluded from the answers.
-/

namespace InterfaceAudit

/-- Introspection failed; `detail` says how. -/
structure IntrospectionFault where
  detail : String
deriving DecidableEq, Repr

def IntrospectionFault.message (fault : IntrospectionFault) : String :=
  "introspection fault: " ++ fault.detail

structure Runtime where
  loads : String → Bool
  resolvesConstant : String → Bool
  /-- Whether a receiver has a method; the flag asks for a singleton method. -/
  resolvesMethod : String → String → Bool → Bool
  /-- Whether a receiver answers unknown messages dynamically. -/
  delegates : String → Except IntrospectionFault Bool

namespace Runtime

/-- Dynamic dispatch counts only if introspection confirms it. -/
def confirmsDelegation (runtime : Runtime) (receiver : String) : Bool :=
  match runtime.delegates receiver with
  | .ok answer => answer
  | .error _ => false

end Runtime

end InterfaceAudit
