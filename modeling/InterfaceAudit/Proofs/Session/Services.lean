import InterfaceAudit.Proofs.Host.Exchanges
import InterfaceAudit.Proofs.Session.Passage

/-!
Contract: what the parts of a session exchange with a host while it runs.

Owns:
- services, which are the calls of a run, each with the exchanges that serve it;
- the services of a run on a host, which make up all of its exchanges;
- the passage of the host from one service to the next.

Does not own: which calls a run makes.
-/

namespace InterfaceAudit

/-- A call, what was exchanged with a host to serve it, and its answer. -/
structure Service where
  call : Call
  exchanges : List Exchange
  answer : call.Answer

/-- A service, without what it took. -/
def Service.contact (service : Service) : Contact :=
  ⟨service.call, service.answer⟩

def visiting (services : List Service) : List Service :=
  services.filter fun service => service.contact.isVisit

theorem map_contact_visiting (services : List Service) :
    (visiting services).map Service.contact = visits (services.map Service.contact) := by
  rw [visits, List.filter_map]
  rfl

/-- Where only visits come to something, all services come to what the visits do. -/
theorem flatMap_visiting
    {α : Type}
    {share : Service → List α}
    {services : List Service}
    (nothing : ∀ service ∈ services, service.contact.isVisit = false → share service = []) :
    (visiting services).flatMap share = services.flatMap share := by
  unfold visiting
  induction services with
  | nil => rfl
  | cons service services inductionHypothesis =>
      have rest := inductionHypothesis fun other member =>
        nothing other (List.mem_cons_of_mem _ member)
      rw [List.filter_cons, List.flatMap_cons, ← rest]
      cases isVisit : service.contact.isVisit with
      | true => exact List.flatMap_cons
      | false =>
          rw [nothing service List.mem_cons_self isVisit]
          rfl

namespace Session

variable {σ : Type}

/-- A call, served by a session on a host that is in a certain state. -/
def servedOn (session : Session) (host : Host σ) (call : Call) (state : σ) : Service where
  call := call
  exchanges := (session.serve call).exchanges host state
  answer := ((session.serve call).runOn host state).1

def surroundings (session : Session) (host : Host σ) : Surroundings σ where
  answer call state := (session.serve call).runOn host state

/-- Services that follow each other on a host. -/
inductive Serving (session : Session) (host : Host σ) : σ → List Service → σ → Prop where
  | nil (state : σ) : Serving session host state [] state
  | cons {state last : σ} {services : List Service} (call : Call) :
      Serving session host ((session.serve call).runOn host state).2 services last →
        Serving session host state (session.servedOn host call state :: services) last

end Session

namespace Plan

variable {α σ : Type} (session : Session) (host : Host σ)

/-- The services of a plan that a session carries out on a host. -/
def services : Plan α → σ → List Service
  | .done _, _ => []
  | .ask call next, state =>
      let (answer, after) := (session.serve call).runOn host state
      session.servedOn host call state :: (next answer).services after

variable {session host}

theorem contacts_services (plan : Plan α) (state : σ) :
    (plan.services session host state).map Service.contact =
      plan.contacts (session.surroundings host) state := by
  induction plan generalizing state with
  | done result => rfl
  | ask call next inductionHypothesis => exact congrArg (List.cons _) (inductionHypothesis _ _)

theorem runOn_servedBy (plan : Plan α) (state : σ) :
    (plan.servedBy session).runOn host state =
      plan.carryOut (session.surroundings host) state := by
  induction plan generalizing state with
  | done result => rfl
  | ask call next inductionHypothesis =>
      rw [servedBy, Action.runOn_andThen, inductionHypothesis]
      rfl

theorem exchanges_servedBy (plan : Plan α) (state : σ) :
    (plan.servedBy session).exchanges host state =
      (plan.services session host state).flatMap Service.exchanges := by
  induction plan generalizing state with
  | done result => rfl
  | ask call next inductionHypothesis =>
      rw [servedBy, Action.exchanges_andThen, inductionHypothesis]
      rfl

theorem serving_services (plan : Plan α) (state : σ) :
    session.Serving host state (plan.services session host state)
      (plan.carryOut (session.surroundings host) state).2 := by
  induction plan generalizing state with
  | done result => exact .nil state
  | ask call next inductionHypothesis => exact .cons call (inductionHypothesis _ _)

end Plan

namespace Session

variable {σ : Type} (session : Session) (host : Host σ) (state : σ)

/-! ## The services of a run -/

/-- The services of the run of a session on a host, in order. -/
def services : List Service :=
  (stepwise.run.run session).services session (host.inside session.span) state

/-- A run ends as its stages do, carried out by the parts of the session. -/
theorem runOn_run :
    session.run.run.runOn host state =
      let ended := (stepwise.run.run session).carryOut
        (session.surroundings (host.inside session.span)) state
      (ended.1.1, ended.2) := by
  have served := congrArg (fun action => action.runOn host state) (stepwise_servedBy session)
  simp only [Action.runOn_within, Plan.runOn_servedBy, Action.runOn_andThen, Action.runOn]
    at served
  rw [served]

/-- The exchanges of a run are those of its services, inside the span of the session. -/
theorem exchanges_run :
    session.run.run.exchanges host state =
      ((session.services host state).flatMap Service.exchanges).map
        (Exchange.within session.span) := by
  have served := congrArg (fun action => action.exchanges host state) (stepwise_servedBy session)
  simp only [Action.exchanges_within, Plan.exchanges_servedBy, Action.exchanges_andThen,
    Action.exchanges, List.append_nil] at served
  exact served.symm

theorem serving_run :
    session.Serving (host.inside session.span) state (session.services host state)
      (session.run.run.runOn host state).2 := by
  rw [runOn_run]
  exact Plan.serving_services _ _

/-- The services of a run, without what they took, are its passage. -/
theorem passage_services :
    session.Passage ((session.services host state).map Service.contact)
      (session.run.run.runOn host state).1 := by
  have leads := (leads_passage session).carryOut
    (session.surroundings (host.inside session.span)) state
  rw [services, Plan.contacts_services, runOn_run]
  exact leads.2

/-! ## Single services -/

variable {session host state}

/-- Every service was served by the session in some state of the host. -/
theorem Serving.mem
    {last : σ}
    {services : List Service}
    (serving : session.Serving host state services last) :
    ∀ service ∈ services, ∃ current, service = session.servedOn host service.call current := by
  induction serving with
  | nil state =>
      intro service member
      cases member
  | cons call _ inductionHypothesis =>
      intro service member
      rcases List.mem_cons.mp member with rfl | member
      · exact ⟨_, rfl⟩
      · exact inductionHypothesis service member

/-- What a call always leads to holds of every service of it. -/
theorem leads_of_served
    {service : Service}
    (served : ∃ state, service = session.servedOn host service.call state)
    {call : Call}
    {answer : call.Answer}
    (isContact : service.contact = ⟨call, answer⟩)
    {post : List Exchange → call.Answer → Prop}
    (leads : (session.serve call).Leads post) :
    post service.exchanges answer := by
  obtain ⟨state, served⟩ := served
  obtain ⟨asked, exchanges, reply⟩ := service
  cases isContact
  dsimp only at served
  cases served
  exact leads.runOn host state

/-- A request of the session itself is one exchange. -/
theorem exchanges_of_host
    {service : Service}
    (served : ∃ state, service = session.servedOn host service.call state)
    {request : Request}
    {answer : request.Answer}
    (isContact : service.contact = ⟨.host request, answer⟩) :
    service.exchanges = [⟨request, answer⟩] := by
  have leads : (session.serve (.host request)).Leads fun exchanges answer =>
      exchanges = [⟨request, answer⟩] := fun _ => rfl
  exact leads_of_served served isContact leads

/-- What a session logs is logged on the host, inside the span of the session. -/
theorem logged_mem_exchanges
    (session : Session)
    (host : Host σ)
    (state : σ)
    {event : Log.Event}
    (isLogged : Contact.logged event ∈ (session.services host state).map Service.contact) :
    ⟨.log (event.within session.span), ()⟩ ∈ session.run.run.exchanges host state := by
  obtain ⟨service, member, isContact⟩ := List.mem_map.mp isLogged
  have isExchange := exchanges_of_host ((session.serving_run host state).mem service member)
    isContact
  rw [exchanges_run]
  refine List.mem_map.mpr ⟨⟨.log event, ()⟩, List.mem_flatMap.mpr ⟨service, member, ?_⟩, rfl⟩
  rw [isExchange]
  exact List.mem_singleton_self _

end Session

end InterfaceAudit
