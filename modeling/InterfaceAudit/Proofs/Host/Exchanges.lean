import InterfaceAudit.Proofs.Host.Transcript

/-!
Contract: all that an action exchanges with a host, in order.

Owns:
- the exchanges of actions that are put one behind the other or inside a span;
- assertions about the exchanges and the result of an action that hold however
  its requests are answered;
- actions that keep to certain requests.

Does not own: what becomes of a host by its answers.
-/

namespace InterfaceAudit

/-- The same exchange, with a logged event put inside a span. -/
def Exchange.within (span : Log.Span) : Exchange → Exchange
  | ⟨.log event, answer⟩ => ⟨.log (event.within span), answer⟩
  | exchange => exchange

/-- A host that is told of every logged event as one inside a span. -/
def Host.inside {σ : Type} (host : Host σ) (span : Log.Span) : Host σ where
  answer request state :=
    match request with
    | .log event => host.answer (.log (event.within span)) state
    | request => host.answer request state

namespace Action

variable {α β σ : Type}

/-! ## Runs in sequence -/

theorem runOn_andThen
    (host : Host σ)
    (action : Action β)
    (next : β → Action α)
    (state : σ) :
    (action.andThen next).runOn host state =
      (next (action.runOn host state).1).runOn host (action.runOn host state).2 := by
  induction action generalizing state with
  | done result => rfl
  | ask request resume inductionHypothesis => exact inductionHypothesis _ _

theorem exchanges_andThen
    (host : Host σ)
    (action : Action β)
    (next : β → Action α)
    (state : σ) :
    (action.andThen next).exchanges host state =
      action.exchanges host state ++
        (next (action.runOn host state).1).exchanges host (action.runOn host state).2 := by
  induction action generalizing state with
  | done result => rfl
  | ask request resume inductionHypothesis =>
      exact congrArg (List.cons _) (inductionHypothesis _ _)

/-- Inside a span an action goes on as it does on a host that is told of the span. -/
theorem runOn_within
    (host : Host σ)
    (span : Log.Span)
    (action : Action α)
    (state : σ) :
    (action.within span).runOn host state = action.runOn (host.inside span) state := by
  induction action generalizing state with
  | done result => rfl
  | ask request resume inductionHypothesis =>
      cases request <;> exact inductionHypothesis _ _

theorem exchanges_within
    (host : Host σ)
    (span : Log.Span)
    (action : Action α)
    (state : σ) :
    (action.within span).exchanges host state =
      (action.exchanges (host.inside span) state).map (Exchange.within span) := by
  induction action generalizing state with
  | done result => rfl
  | ask request resume inductionHypothesis =>
      cases request <;> exact congrArg (List.cons _) (inductionHypothesis _ _)

/-! ## Every course of an action -/

/-- However the requests of an action are answered, its exchanges and its result
satisfy the assertion. -/
def Leads : Action α → (List Exchange → α → Prop) → Prop
  | .done result, post => post [] result
  | .ask request next, post =>
      ∀ answer, (next answer).Leads fun exchanges result =>
        post (⟨request, answer⟩ :: exchanges) result

theorem Leads.mono
    {action : Action α}
    {post weaker : List Exchange → α → Prop}
    (leads : action.Leads post)
    (weaken : ∀ exchanges result, post exchanges result → weaker exchanges result) :
    action.Leads weaker := by
  induction action generalizing post weaker with
  | done result => exact weaken [] result leads
  | ask request next inductionHypothesis =>
      intro answer
      exact inductionHypothesis answer (leads answer) fun exchanges result =>
        weaken (⟨request, answer⟩ :: exchanges) result

theorem leads_andThen
    {action : Action β}
    {next : β → Action α}
    {post : List Exchange → α → Prop}
    (leads : action.Leads fun first result =>
      (next result).Leads fun second final => post (first ++ second) final) :
    (action.andThen next).Leads post := by
  induction action generalizing post with
  | done result => exact leads
  | ask request resume inductionHypothesis =>
      intro answer
      exact inductionHypothesis answer (leads answer)

/-- What an action leads to is what it comes to on any host. -/
theorem Leads.runOn
    {action : Action α}
    {post : List Exchange → α → Prop}
    (leads : action.Leads post)
    (host : Host σ)
    (state : σ) :
    post (action.exchanges host state) (action.runOn host state).1 := by
  induction action generalizing post state with
  | done result => exact leads
  | ask request next inductionHypothesis => exact inductionHypothesis _ (leads _) _

/-! ## What an action asks for -/

/-- Every request of an action, however those before it are answered, is of a
certain kind. -/
def Asks (kind : Request → Prop) : Action α → Prop
  | .done _ => True
  | .ask request next => kind request ∧ ∀ answer, (next answer).Asks kind

theorem Asks.leads
    {kind : Request → Prop}
    {action : Action α}
    (asks : action.Asks kind) :
    action.Leads fun exchanges _ => ∀ exchange ∈ exchanges, kind exchange.request := by
  induction action with
  | done result => exact List.forall_mem_nil _
  | ask request next inductionHypothesis =>
      intro answer
      refine (inductionHypothesis answer (asks.2 answer)).mono fun exchanges result rest => ?_
      exact List.forall_mem_cons.mpr ⟨asks.1, rest⟩

end Action

namespace Attempt

variable {α β : Type} {post : List Exchange → Except Failure α → Prop}

theorem leads_bind
    {attempt : Attempt β}
    {next : β → Attempt α}
    (leads : attempt.run.Leads fun first result =>
      match result with
      | .ok value => (next value).run.Leads fun second final => post (first ++ second) final
      | .error failure => post first (.error failure)) :
    (attempt >>= next).run.Leads post := by
  rw [run_bind]
  refine Action.leads_andThen (leads.mono fun first result holds => ?_)
  cases result with
  | ok value => exact holds
  | error failure =>
      show post (first ++ []) (.error failure)
      rw [List.append_nil]
      exact holds

/-- A request that cannot fail. -/
theorem leads_always
    {request : Request}
    {post : List Exchange → Except Failure request.Answer → Prop}
    (leads : ∀ answer, post [⟨request, answer⟩] (.ok answer)) :
    (always (Action.request request)).run.Leads post :=
  leads

end Attempt

end InterfaceAudit
