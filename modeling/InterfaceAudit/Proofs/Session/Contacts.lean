import InterfaceAudit.Proofs.Session.Stages

/-!
Contract: the contacts of a plan with its surroundings.

Owns:
- surroundings, and the contacts that a plan has with them;
- assertions about the contacts and the result of a plan that hold however its
  calls are answered.

Does not own: the stages of a run.
-/

namespace InterfaceAudit

/-! ## Contacts -/

/-- Surroundings that keep a state: how they answer every call. -/
structure Surroundings (σ : Type) where
  answer : (call : Call) → σ → call.Answer × σ

structure Contact where
  call : Call
  answer : call.Answer

namespace Contact

def isPreparation (contact : Contact) : Bool :=
  match contact.call with
  | .prepare _ _ => true
  | _ => false

def isExecution (contact : Contact) : Bool :=
  match contact.call with
  | .execute _ _ => true
  | _ => false

def isVisit (contact : Contact) : Bool :=
  contact.isPreparation || contact.isExecution

theorem isVisit_of_isPreparation
    {contact : Contact}
    (isPreparation : contact.isPreparation = true) :
    contact.isVisit = true := by
  rw [isVisit, isPreparation, Bool.true_or]

theorem isVisit_of_isExecution
    {contact : Contact}
    (isExecution : contact.isExecution = true) :
    contact.isVisit = true := by
  rw [isVisit, isExecution, Bool.or_true]

end Contact

def visits (contacts : List Contact) : List Contact :=
  contacts.filter Contact.isVisit

theorem visits_append (first second : List Contact) :
    visits (first ++ second) = visits first ++ visits second :=
  List.filter_append _ _

theorem mem_visits {contact : Contact} (isVisit : contact.isVisit = true) {contacts : List Contact} :
    contact ∈ visits contacts ↔ contact ∈ contacts := by
  rw [visits, List.mem_filter, isVisit, and_iff_left rfl]

namespace Plan

variable {α β σ : Type}

def carryOut (surroundings : Surroundings σ) : Plan α → σ → α × σ
  | .done result, world => (result, world)
  | .ask call next, world =>
      let (answer, world) := surroundings.answer call world
      (next answer).carryOut surroundings world

/-- The contacts that carrying out a plan comes to, in order. -/
def contacts (surroundings : Surroundings σ) : Plan α → σ → List Contact
  | .done _, _ => []
  | .ask call next, world =>
      let (answer, world) := surroundings.answer call world
      ⟨call, answer⟩ :: (next answer).contacts surroundings world

/-- However the calls of a plan are answered, its contacts and its result
satisfy the assertion. -/
def Leads : Plan α → (List Contact → α → Prop) → Prop
  | .done result, post => post [] result
  | .ask call next, post =>
      ∀ answer, (next answer).Leads fun contacts result => post (⟨call, answer⟩ :: contacts) result

theorem Leads.mono
    {plan : Plan α}
    {post weaker : List Contact → α → Prop}
    (leads : plan.Leads post)
    (weaken : ∀ contacts result, post contacts result → weaker contacts result) :
    plan.Leads weaker := by
  induction plan generalizing post weaker with
  | done result => exact weaken [] result leads
  | ask call next inductionHypothesis =>
      intro answer
      exact inductionHypothesis answer (leads answer) fun contacts result =>
        weaken (⟨call, answer⟩ :: contacts) result

theorem leads_andThen
    {plan : Plan β}
    {next : β → Plan α}
    {post : List Contact → α → Prop}
    (leads : plan.Leads fun first result =>
      (next result).Leads fun second final => post (first ++ second) final) :
    (plan.andThen next).Leads post := by
  induction plan generalizing post with
  | done result => exact leads
  | ask call resume inductionHypothesis =>
      intro answer
      exact inductionHypothesis answer (leads answer)

/-- What a plan leads to is what it comes to in any surroundings. -/
theorem Leads.carryOut
    {plan : Plan α}
    {post : List Contact → α → Prop}
    (leads : plan.Leads post)
    (surroundings : Surroundings σ)
    (world : σ) :
    post (plan.contacts surroundings world) (plan.carryOut surroundings world).1 := by
  induction plan generalizing post world with
  | done result => exact leads
  | ask call next inductionHypothesis =>
      exact inductionHypothesis _ (leads _) _

end Plan

end InterfaceAudit
