import InterfaceAudit.Proofs.Script.Statement
import InterfaceAudit.Replay

/-!
Contract: what the text of a script says about the assertions behind it.

Owns:
- the units and the checks of a script, recovered from its statements;
- the law that two lists have one text exactly when they load the same units
  and run the same checks, in the same orders.

Does not own: the reading of the text.
-/

namespace InterfaceAudit.Script

/-- The unit that a statement loads, if it is of that kind. -/
def Statement.unit? : Statement → Option String
  | .load name _ => some name
  | _ => none

/-- The check that a statement runs, if it is of that kind. -/
def Statement.check? : Statement → Option Check
  | .getConst name location => some (.constant { name, location })
  | .getMethod receiver method location singleton allowMissing =>
      some (.method { receiver, method, location, singleton, allowMissing })
  | _ => none

@[simp] theorem unit?_loadStatement (name : String) :
    (loadStatement name).unit? = some name := rfl

@[simp] theorem check?_loadStatement (name : String) :
    (loadStatement name).check? = none := rfl

@[simp] theorem unit?_checkStatement (check : Check) : (checkStatement check).unit? = none := by
  cases check <;> rfl

@[simp] theorem check?_checkStatement (check : Check) :
    (checkStatement check).check? = some check := by
  cases check <;> rfl

theorem filterMap_unit?_statements (assertions : List Assertion) :
    (statements assertions).filterMap Statement.unit? = requires assertions := by
  have loads : ((requires assertions).map loadStatement).filterMap Statement.unit? =
      requires assertions := by
    have known : Statement.unit? ∘ loadStatement = some := funext unit?_loadStatement
    rw [List.filterMap_map, known, List.filterMap_some]
  have calls : ((checks assertions).map checkStatement).filterMap Statement.unit? = [] := by
    simp [List.filterMap_map]
  rw [statements, List.filterMap_append, loads, List.filterMap_cons_none rfl,
    List.filterMap_append, calls]
  simp [Statement.unit?]

theorem filterMap_check?_statements (assertions : List Assertion) :
    (statements assertions).filterMap Statement.check? = checks assertions := by
  have loads : ((requires assertions).map loadStatement).filterMap Statement.check? = [] := by
    simp [List.filterMap_map]
  have calls : ((checks assertions).map checkStatement).filterMap Statement.check? =
      checks assertions := by
    have known : Statement.check? ∘ checkStatement = some := funext check?_checkStatement
    rw [List.filterMap_map, known, List.filterMap_some]
  rw [statements, List.filterMap_append, loads, List.filterMap_cons_none rfl,
    List.filterMap_append, calls]
  simp [Statement.check?]

/-- The statements know the units and the checks, and nothing else. -/
theorem statements_eq_iff (left right : List Assertion) :
    statements left = statements right ↔
      requires left = requires right ∧ checks left = checks right := by
  constructor
  · intro same
    rw [← filterMap_unit?_statements left, ← filterMap_unit?_statements right,
      ← filterMap_check?_statements left, ← filterMap_check?_statements right, same]
    exact ⟨rfl, rfl⟩
  · rintro ⟨sameUnits, sameChecks⟩
    rw [statements, statements, sameUnits, sameChecks]

/-- Two lists that have one text have the same statements, since either is
read back from it. -/
theorem statements_eq_of_text_eq
    {left right : List Assertion}
    (same : (Probe.mk left).text = (Probe.mk right).text) :
    statements left = statements right := by
  have leftRead := read?_text left
  rw [same, read?_text right] at leftRead
  exact (Option.some.inj leftRead).symm

theorem text_eq_of_demands_eq
    {left right : List Assertion}
    (sameUnits : requires left = requires right)
    (sameChecks : checks left = checks right) :
    (Probe.mk left).text = (Probe.mk right).text := by
  simp only [Probe.text, Probe.chars, body, sameUnits, sameChecks]

theorem run_eq_of_demands_eq
    {left right : List Assertion}
    (sameUnits : requires left = requires right)
    (sameChecks : checks left = checks right)
    (runtime : Runtime) :
    Replay.run left runtime = Replay.run right runtime := by
  simp only [Replay.run, Replay.tally, sameUnits, sameChecks]

/-- The text of a script identifies what is checked: two lists have one text
exactly when they load the same units and run the same checks in the same
orders, and then they are replayed alike against every runtime. -/
theorem text_eq_iff_demands_eq (left right : List Assertion) :
    ((Probe.mk left).text = (Probe.mk right).text ↔
      requires left = requires right ∧ checks left = checks right) ∧
    (requires left = requires right → checks left = checks right →
      ∀ runtime, Replay.run left runtime = Replay.run right runtime) := by
  refine ⟨⟨fun same => ?_, fun same => ?_⟩, run_eq_of_demands_eq⟩
  · exact (statements_eq_iff left right).mp (statements_eq_of_text_eq same)
  · exact text_eq_of_demands_eq same.1 same.2

/-- A check that was recorded ahead of a unit is rendered and run behind it. -/
theorem text_of_swapped_pair :
    let early : List Assertion := [.constant "Early" "e.rbi:1", .require "late"]
    let late : List Assertion := [.require "late", .constant "Early" "e.rbi:1"]
    (Probe.mk early).text = (Probe.mk late).text ∧
      ∀ runtime, Replay.run early runtime = Replay.run late runtime :=
  ⟨(text_eq_iff_demands_eq _ _).1.mpr ⟨rfl, rfl⟩, (text_eq_iff_demands_eq _ _).2 rfl rfl⟩

end InterfaceAudit.Script
