import InterfaceAudit.Proofs.CommandLine.Script
import InterfaceAudit.Proofs.Session.Fate

/-!
Contract: what the run of a session prints, which is nothing.

Owns:
- the law that all requests of a run are of a kind, if those of its parts are and
  those by which it keeps house;
- the law that a run with commands prints nothing by itself.

Does not own: what is printed behind a run.
-/

namespace InterfaceAudit

variable {σ : Type}

/-! ## What a run asks for -/

/-- What the parts of a session ask for, and what keeps house, is all that a run
asks for. -/
theorem Session.forall_exchanges_run
    (session : Session)
    {kind : Request → Prop}
    (keepsHouse : ∀ request : Request, request.IsHousekeeping → kind request)
    (prepares : ∀ subject directory, (session.preparer subject directory).run.Leads
      fun exchanges _ => ∀ exchange ∈ exchanges, kind exchange.request)
    (executes : ∀ probe directory, (session.executor probe directory).run.Leads
      fun exchanges _ => ∀ exchange ∈ exchanges, kind exchange.request)
    (emits : ∀ diagnostic, (session.sink diagnostic).Asks kind)
    (host : Host σ)
    (state : σ) :
    ∀ exchange ∈ session.run.run.exchanges host state, kind exchange.request := by
  have passage := session.passage_services host state
  have served := (session.serving_run host state).mem
  obtain ⟨early, late, whole, isEarly, isLate⟩ := passage.isStaged
  have each : ∀ service ∈ session.services host state, ∀ exchange ∈ service.exchanges,
      kind exchange.request := by
    intro service member
    have kinds : service.contact.isVisit = true ∨ service.contact.IsQuiet ∨
        ∃ diagnostic, service.contact = .emitted diagnostic := by
      have among : service.contact ∈ early ++ late := whole ▸ List.mem_map_of_mem member
      rcases List.mem_append.mp among with isEarlier | isLater
      · exact (isEarly _ isEarlier).imp_right .inl
      · exact .inr (isLate _ isLater).symm
    have isServed := served service member
    rcases kinds with isVisit | ⟨request, answer, isContact, isHousekeeping⟩ |
      ⟨diagnostic, isEmission⟩
    · obtain ⟨call, exchanges, answer⟩ := service
      cases call with
      | prepare subject directory => exact leads_of_served isServed rfl (prepares subject directory)
      | execute probe directory => exact leads_of_served isServed rfl (executes probe directory)
      | host request => cases isVisit
      | emit diagnostic => cases isVisit
    · rw [exchanges_of_host isServed isContact]
      exact List.forall_mem_singleton.mpr (keepsHouse request isHousekeeping)
    · exact leads_of_served isServed isEmission (emits diagnostic).leads
  intro exchange member
  rw [exchanges_run] at member
  obtain ⟨⟨request, answer⟩, among, rfl⟩ := List.mem_map.mp member
  obtain ⟨service, isService, isExchange⟩ := List.mem_flatMap.mp among
  have holds := each service isService _ isExchange
  cases request with
  | log event => exact keepsHouse _ trivial
  | clock | makeDirectories _ | makeScoped _ _ | removeTree _ | readFile _ | writeFile _ _
  | run _ | runWithin _ _ | collect _ | print _ => exact holds

/-! ## What is printed -/

theorem Request.toOutput_of_ne_print
    {request : Request}
    (isSilent : ∀ text, request ≠ .print text) :
    request.toOutput = [] := by
  cases request with
  | print text => exact absurd rfl (isSilent text)
  | clock | makeDirectories _ | makeScoped _ _ | removeTree _ | readFile _ | writeFile _ _
  | run _ | runWithin _ _ | log _ | collect _ => rfl

theorem Request.IsHousekeeping.toOutput
    {request : Request}
    (keepsHouse : request.IsHousekeeping) :
    request.toOutput = [] := by
  refine toOutput_of_ne_print ?_
  rintro text rfl
  cases keepsHouse

theorem Exchange.IsNote.toOutput {exchange : Exchange} (isNote : exchange.IsNote) :
    exchange.request.toOutput = [] := by
  obtain ⟨request, answer⟩ := exchange
  refine Request.toOutput_of_ne_print ?_
  rintro text rfl
  cases isNote

theorem Exchange.toOutput_of_child
    {exchange : Exchange}
    {child : Child}
    (isChild : exchange.child? = some child) :
    exchange.request.toOutput = [] := by
  obtain ⟨request, answer⟩ := exchange
  refine Request.toOutput_of_ne_print ?_
  rintro text rfl
  cases isChild

theorem Errand.Course.toOutput
    {α : Type}
    {errand : Errand α}
    {exchanges : List Exchange}
    {result : Except Failure α}
    (course : errand.Course exchanges result) :
    ∀ exchange ∈ exchanges, exchange.request.toOutput = [] := by
  cases course with
  | idle isIdle => exact List.forall_mem_nil _
  | unwritten isCommand fault => exact List.forall_mem_singleton.mpr rfl
  | ran isCommand isBefore isAfter isChild limited =>
      refine List.forall_mem_cons.mpr ⟨rfl, List.forall_mem_append.mpr ⟨?_, ?_⟩⟩
      · exact fun note member => (isBefore note member).toOutput
      · exact List.forall_mem_cons.mpr ⟨Exchange.toOutput_of_child isChild,
          fun note member => (isAfter note member).toOutput⟩

/-- A run with commands prints nothing. -/
theorem Session.standardOutput_commanded
    (session : Session)
    (isSink : session.sink = Sink.logging)
    (bundle : Option Bundle)
    (line : List String)
    (limit : UInt64)
    (host : Host σ)
    (state : σ) :
    standardOutput ((session.commanded bundle line limit).run.run.exchanges host state) = [] := by
  refine List.flatMap_eq_nil_iff.mpr ?_
  have prepares (subject : String) (directory : Path) :
      (Preparer.installing bundle subject directory).run.Leads fun exchanges _ =>
        ∀ exchange ∈ exchanges, exchange.request.toOutput = [] := by
    cases bundle with
    | none => exact List.forall_mem_nil _
    | some bundle =>
        exact (bundle.leads_prepare subject directory).mono fun _ _ course => course.toOutput
  have executes (probe : Probe) (directory : Path) :
      (Executor.command line limit probe directory).run.Leads fun exchanges _ =>
        ∀ exchange ∈ exchanges, exchange.request.toOutput = [] :=
    (Executor.leads_command line limit probe directory).mono fun _ _ course => course.toOutput
  have emits (diagnostic : Diagnostic) :
      (session.sink diagnostic).Asks fun request => request.toOutput = [] := by
    rw [isSink]
    obtain ⟨severity, text⟩ := diagnostic
    cases severity <;> exact ⟨rfl, fun _ => trivial⟩
  exact forall_exchanges_run (session.commanded bundle line limit)
    (fun _ keepsHouse => keepsHouse.toOutput) prepares executes emits host state

end InterfaceAudit
