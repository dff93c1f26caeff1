/-!
Contract: what a finished probe leaves behind.

Owns: the outcome of a run, before anything is concluded from its output.

Does not own: classification of the output.
-/

namespace InterfaceAudit

/-- The end of a probe: whether it succeeded, its exit code when it ended by
itself, and everything it printed. -/
structure Outcome where
  succeeded : Bool
  exitCode : Option Int
  output : String
deriving DecidableEq, Repr

end InterfaceAudit
