import InterfaceAudit.Proofs.Session.Course
import InterfaceAudit.Proofs.Session.Services

/-!
Contract: what a collection of diagnostics holds after a run.

Owns:
- hosts that keep a collection beside their state, and what actions add to it;
- the law that a run adds to its sink what it reports, and nothing if it fails.

Does not own: what is reported.
-/

namespace InterfaceAudit

/-! ## Collections -/

def Request.collected : Request → List Diagnostic
  | .collect diagnostic => [diagnostic]
  | _ => []

def collected (exchanges : List Exchange) : List Diagnostic :=
  exchanges.flatMap fun exchange => exchange.request.collected

def Host.keeping {σ : Type} (host : Host σ) : Host (σ × List Diagnostic) where
  answer request state :=
    match request with
    | .collect diagnostic => ((), (state.1, state.2 ++ [diagnostic]))
    | request =>
        let (answer, rest) := host.answer request state.1
        (answer, (rest, state.2))

theorem Request.IsHousekeeping.collected
    {request : Request}
    (keepsHouse : request.IsHousekeeping) :
    request.collected = [] := by
  cases request with
  | collect diagnostic => cases keepsHouse
  | clock | makeDirectories _ | makeScoped _ _ | removeTree _ | readFile _ | writeFile _ _
  | run _ | runWithin _ _ | log _ | print _ => rfl

theorem collected_map_within (span : Log.Span) (exchanges : List Exchange) :
    collected (exchanges.map (Exchange.within span)) = collected exchanges := by
  unfold collected
  rw [List.flatMap_map]
  congr 1
  funext ⟨request, answer⟩
  cases request <;> rfl

/-- A collection grows by what an action puts there. -/
theorem Action.collection_runOn
    {α σ : Type}
    (host : Host σ)
    (action : Action α)
    (state : σ × List Diagnostic) :
    (action.runOn host.keeping state).2.2 =
      state.2 ++ collected (action.exchanges host.keeping state) := by
  induction action generalizing state with
  | done result => exact (List.append_nil _).symm
  | ask request next inductionHypothesis =>
      refine (inductionHypothesis _ _).trans ?_
      show _ = state.2 ++ (request.collected ++ collected _)
      rw [← List.append_assoc]
      congr 1
      cases request with
      | collect diagnostic => rfl
      | clock | makeDirectories _ | makeScoped _ _ | removeTree _ | readFile _ | writeFile _ _
      | run _ | runWithin _ _ | log _ | print _ => exact (List.append_nil _).symm

/-! ## Counts -/

namespace Diagnostic

theorem errorCount_eq_countP (diagnostics : List Diagnostic) :
    errorCount diagnostics =
      diagnostics.countP fun diagnostic => diagnostic.severity = .error := by
  rw [errorCount, List.countP_eq_length_filter]
  rfl

theorem noteCount_eq_countP (diagnostics : List Diagnostic) :
    noteCount diagnostics =
      diagnostics.countP fun diagnostic => diagnostic.severity = .note := by
  have both := diagnostics.length_eq_countP_add_countP isError
  have others : diagnostics.countP (fun diagnostic => !isError diagnostic) =
      diagnostics.countP fun diagnostic => diagnostic.severity = .note := by
    congr 1
    funext ⟨severity, text⟩
    cases severity <;> rfl
  rw [noteCount, errorCount, ← List.countP_eq_length_filter, both, ← others]
  simp only [Bool.not_eq_true, Bool.decide_eq_false, Nat.add_sub_cancel_left]

end Diagnostic

/-! ## Services and collections -/

def Service.added (service : Service) : List Diagnostic :=
  collected service.exchanges

/-- What preparations and executions put into a collection by themselves. -/
def addedByVisits (services : List Service) : List Diagnostic :=
  (visiting services).flatMap Service.added

theorem collected_flatMap_exchanges (services : List Service) :
    collected (services.flatMap Service.exchanges) = services.flatMap Service.added :=
  List.flatMap_assoc

theorem addedByVisits_append (first second : List Service) :
    addedByVisits (first ++ second) = addedByVisits first ++ addedByVisits second := by
  unfold addedByVisits visiting
  rw [List.filter_append, List.flatMap_append]

namespace Session

open Contact

variable {σ : Type}

/-- A quiet contact adds nothing, whatever serves it. -/
theorem added_of_quiet
    {session : Session}
    {host : Host σ}
    {service : Service}
    (served : ∃ state, service = session.servedOn host service.call state)
    (quiet : service.contact.IsQuiet) :
    service.added = [] := by
  obtain ⟨state, served⟩ := served
  obtain ⟨call, exchanges, answer⟩ := service
  obtain ⟨request, reply, isContact, keepsHouse⟩ := quiet
  cases isContact
  rw [served]
  show request.collected ++ [] = []
  rw [keepsHouse.collected, List.append_nil]

/-- An emission adds its diagnostic, where the sink is a collection. -/
theorem added_of_emitted
    {session : Session}
    (isCollecting : session.sink = Sink.collecting)
    {host : Host σ}
    {service : Service}
    (served : ∃ state, service = session.servedOn host service.call state)
    {diagnostic : Diagnostic}
    (isEmission : service.contact = emitted diagnostic) :
    service.added = [diagnostic] := by
  obtain ⟨state, served⟩ := served
  obtain ⟨call, exchanges, answer⟩ := service
  cases isEmission
  rw [served]
  show collected ((session.sink diagnostic).exchanges host state) = [diagnostic]
  rw [isCollecting, Sink.collecting_eq_collect]
  rfl

/-- Emissions and quiet services add what is passed on. -/
theorem added_late
    {services : List Service}
    (late : ∀ service ∈ services, service.added = service.contact.delivered) :
    services.flatMap Service.added = (services.map Service.contact).flatMap delivered := by
  rw [List.flatMap_map]
  induction services with
  | nil => rfl
  | cons service services inductionHypothesis =>
      have rest := inductionHypothesis fun other member => late other (List.mem_cons_of_mem _ member)
      rw [List.flatMap_cons, List.flatMap_cons, rest, late service List.mem_cons_self]

/-- The services of a run add what the preparation and the execution put into
the collection by themselves, and then what the run reports. -/
theorem added_services
    (session : Session)
    (isCollecting : session.sink = Sink.collecting)
    (host : Host σ)
    (state : σ) :
    (session.services host state).flatMap Service.added =
      addedByVisits (session.services host state) ++
        reported (session.run.run.runOn host state).1 := by
  have served := (session.serving_run host state).mem
  have passage := session.passage_services host state
  obtain ⟨early, late, whole, isEarly, isLate⟩ := passage.isStaged
  have isReported := passage.delivered
  obtain ⟨first, last, isServices, rfl, rfl⟩ := List.map_eq_append_iff.mp whole
  rw [isServices] at served isReported ⊢
  -- Nothing is passed on before the last visit, so each half adds in one way only.
  have addedFirst : addedByVisits first = first.flatMap Service.added := by
    refine flatMap_visiting fun service member isOther => ?_
    rcases isEarly _ (List.mem_map_of_mem member) with isVisit | quiet
    · rw [isVisit] at isOther
      cases isOther
    · exact added_of_quiet (served service (List.mem_append_left _ member)) quiet
  have silentFirst : (first.map Service.contact).flatMap delivered = [] :=
    List.flatMap_eq_nil_iff.mpr fun contact member =>
      (isEarly contact member).elim delivered_of_isVisit IsQuiet.delivered
  have addedLast : last.flatMap Service.added = (last.map Service.contact).flatMap delivered := by
    refine added_late fun service member => ?_
    have servedLast := served service (List.mem_append_right _ member)
    rcases isLate _ (List.mem_map_of_mem member) with ⟨diagnostic, isEmission⟩ | quiet
    · rw [added_of_emitted isCollecting servedLast isEmission, isEmission]
      rfl
    · rw [added_of_quiet servedLast quiet, quiet.delivered]
  have noVisit : addedByVisits last = [] := by
    have none : visiting last = [] :=
      List.filter_eq_nil_iff.mpr fun service member => by
        rcases isLate _ (List.mem_map_of_mem member) with ⟨diagnostic, isEmission⟩ | quiet
        · rw [isEmission]
          exact Bool.false_ne_true
        · rw [quiet.isVisit]
          exact Bool.false_ne_true
    rw [addedByVisits, none]
    rfl
  rw [List.map_append, List.flatMap_append, silentFirst, List.nil_append] at isReported
  rw [List.flatMap_append, addedByVisits_append, addedFirst, noVisit, addedLast, isReported,
    List.append_nil]

/-- Preparations and executions that keep off the collection add nothing to it. -/
theorem addedByVisits_eq_nil
    (session : Session)
    (preparerKeepsOff : ∀ subject directory,
      (session.preparer subject directory).run.Asks fun request => request.collected = [])
    (executorKeepsOff : ∀ probe directory,
      (session.executor probe directory).run.Asks fun request => request.collected = [])
    {host : Host σ}
    {services : List Service}
    (served : ∀ service ∈ services, ∃ state, service = session.servedOn host service.call state) :
    addedByVisits services = [] := by
  refine List.flatMap_eq_nil_iff.mpr fun service member => ?_
  obtain ⟨isMember, isVisit⟩ := List.mem_filter.mp member
  have isServed := served service isMember
  obtain ⟨call, exchanges, answer⟩ := service
  refine List.flatMap_eq_nil_iff.mpr ?_
  cases call with
  | prepare subject directory =>
      exact leads_of_served isServed rfl (preparerKeepsOff subject directory).leads
  | execute probe directory =>
      exact leads_of_served isServed rfl (executorKeepsOff probe directory).leads
  | host request => cases isVisit
  | emit diagnostic => cases isVisit

/-! ## The law of delivery -/

/-- A collection that is the sink of a session agrees with the report. However
a run goes, it leaves what the collection held before, then what the preparation
and the execution put there on their own account, which is nothing if they keep
off it, and then exactly what is reported; a run that fails adds nothing, and one
that passes reports nothing. The counts of a report are those of the lines that
it added. -/
theorem collection_agrees_with_report
    (host : Host σ)
    (session : Session)
    (state : σ)
    (held : List Diagnostic) :
    let collecting := { session with sink := Sink.collecting }
    let ended := collecting.run.run.runOn host.keeping (state, held)
    let own := addedByVisits (collecting.services host.keeping (state, held))
    let added := ended.2.2.drop (held ++ own).length
    ((∀ subject directory,
        (session.preparer subject directory).run.Asks fun request => request.collected = []) →
      (∀ probe directory,
        (session.executor probe directory).run.Asks fun request => request.collected = []) →
      own = []) ∧
    (∀ report, ended.1 = .ok report →
      ended.2.2 = held ++ own ++ report.diagnostics ∧
      (report.passed = true → report.diagnostics = []) ∧
      report.errorCount = added.countP (fun diagnostic => diagnostic.severity = .error) ∧
      report.noteCount = added.countP (fun diagnostic => diagnostic.severity = .note)) ∧
    (∀ failure, ended.1 = .error failure → ended.2.2 = held ++ own) := by
  intro collecting ended own added
  have passage := collecting.passage_services host.keeping (state, held)
  have whole : ended.2.2 = held ++ own ++ reported ended.1 := by
    have grown := collecting.run.run.collection_runOn host (state, held)
    rw [exchanges_run, collected_map_within, collected_flatMap_exchanges,
      added_services collecting rfl] at grown
    exact grown.trans (List.append_assoc _ _ _).symm
  refine ⟨?_, ?_, ?_⟩
  · intro preparerKeepsOff executorKeepsOff
    exact addedByVisits_eq_nil collecting preparerKeepsOff executorKeepsOff
      (collecting.serving_run host.keeping (state, held)).mem
  · intro report isReport
    have isWhole : ended.2.2 = held ++ own ++ report.diagnostics := by
      rw [whole, isReport]
      rfl
    have isAdded : added = report.diagnostics := by
      show ended.2.2.drop _ = _
      rw [isWhole, List.drop_left]
    refine ⟨isWhole, ?_, ?_, ?_⟩
    · exact (show collecting.Passage _ (.ok report) from isReport ▸ passage).diagnostics_of_passed
    · rw [isAdded]
      exact Diagnostic.errorCount_eq_countP _
    · rw [isAdded]
      exact Diagnostic.noteCount_eq_countP _
  · intro failure isFailure
    rw [whole, isFailure]
    exact List.append_nil _

end Session

end InterfaceAudit
