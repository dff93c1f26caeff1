import InterfaceAudit.Session

/-!
Contract: what a session holds after a series of calls that record assertions.

Owns:
- the calls, and the assertion that each of them records;
- the law that recorded assertions add up in the order of the calls, and that
  nothing else changes.

Does not own: runs.
-/

namespace InterfaceAudit

/-- A call that records one assertion in a session. -/
inductive Recording where
  | require (name : String)
  | constant (name location : String)
  | method (receiver method location : String) (allowMissing : Bool)
  | singletonMethod (receiver method location : String) (allowMissing : Bool)
  | push (assertion : Assertion)
deriving DecidableEq, Repr

def Recording.assertion : Recording → Assertion
  | .require name => .require name
  | .constant name location => .constant name location
  | .method receiver name location allowMissing =>
      .method { receiver, method := name, location, singleton := false, allowMissing }
  | .singletonMethod receiver name location allowMissing =>
      .method { receiver, method := name, location, singleton := true, allowMissing }
  | .push wanted => wanted

namespace Session

/-- Makes a call. -/
def record (session : Session) : Recording → Session
  | .require name => session.addRequire name
  | .constant name location => session.addConstant name location
  | .method receiver name location allowMissing =>
      session.addMethod { receiver, method := name, location, singleton := false, allowMissing }
  | .singletonMethod receiver name location allowMissing =>
      session.addMethod { receiver, method := name, location, singleton := true, allowMissing }
  | .push wanted => session.push wanted

/-- Makes calls, one after the other. -/
def recordAll (session : Session) (recordings : List Recording) : Session :=
  recordings.foldl record session

def extended (session : Session) (assertions : List Assertion) : Session :=
  { session with assertions := session.assertions ++ assertions }

theorem extended_nil (session : Session) : session.extended [] = session := by
  rw [extended, List.append_nil]

theorem extended_extended (session : Session) (first second : List Assertion) :
    (session.extended first).extended second = session.extended (first ++ second) := by
  simp only [extended, List.append_assoc]

/-- A call records its assertion, and changes nothing else. -/
theorem record_eq (session : Session) (recording : Recording) :
    session.record recording = session.extended [recording.assertion] := by
  cases recording <;> rfl

/-- Calls record their assertions in order. -/
theorem recordAll_eq (session : Session) (recordings : List Recording) :
    session.recordAll recordings = session.extended (recordings.map Recording.assertion) := by
  unfold recordAll
  induction recordings generalizing session with
  | nil => exact (extended_nil session).symm
  | cons recording recordings inductionHypothesis =>
      rw [List.foldl_cons, inductionHypothesis, record_eq, extended_extended]
      rfl

/-- A manifest is recorded assertion by assertion. -/
theorem applyManifest_eq (session : Session) (manifest : Manifest) :
    session.applyManifest manifest = session.extended manifest.assertions := by
  have pushed := recordAll_eq session (manifest.assertions.map .push)
  rw [recordAll, List.foldl_map, List.map_map] at pushed
  exact pushed.trans (congrArg session.extended (List.map_id _))

end Session

end InterfaceAudit
