import InterfaceAudit.Proofs.Session.Course
import InterfaceAudit.Proofs.Session.Parts
import InterfaceAudit.Proofs.Session.Services

/-!
Contract: the children of a run, and how it ends by them.

Owns:
- sessions that execute their probe with a command, and prepare a bundle or
  nothing;
- the children of the preparation and of the execution;
- fates, which are the outlines of runs together with these children.

Does not own: what follows from a fate for the report.
-/

namespace InterfaceAudit

/-! ## The children of visits -/

def childrenOf (kind : Contact → Bool) (services : List Service) : List Child :=
  (services.filter fun service => kind service.contact).flatMap fun service =>
    children service.exchanges

theorem childrenOf_cons (kind : Contact → Bool) (service : Service) (services : List Service) :
    childrenOf kind (service :: services) =
      (if kind service.contact then children service.exchanges else []) ++
        childrenOf kind services := by
  unfold childrenOf
  rw [List.filter_cons]
  split
  · exact List.flatMap_cons
  · rfl

theorem childrenOf_visiting
    {kind : Contact → Bool}
    (isVisit : ∀ contact, kind contact = true → contact.isVisit = true)
    (services : List Service) :
    childrenOf kind (visiting services) = childrenOf kind services := by
  unfold childrenOf visiting
  rw [List.filter_filter]
  congr 2
  funext service
  cases isKind : kind service.contact with
  | false => rfl
  | true =>
      rw [isVisit _ isKind]
      rfl

theorem childrenOf_prepared
    {service : Service}
    {subject : String}
    {directory : Path}
    {answer : Except Failure Readiness}
    (isPrepared : service.contact = ⟨.prepare subject directory, answer⟩) :
    childrenOf Contact.isPreparation [service] = children service.exchanges ∧
      childrenOf Contact.isExecution [service] = [] := by
  rw [childrenOf_cons, childrenOf_cons, isPrepared]
  exact ⟨List.append_nil _, rfl⟩

theorem childrenOf_executed
    {first second : Service}
    {subject : String}
    {probe : Probe}
    {directory : Path}
    {readiness : Except Failure Readiness}
    {answer : Except Failure Outcome}
    (isPrepared : first.contact = ⟨.prepare subject directory, readiness⟩)
    (isExecuted : second.contact = ⟨.execute probe directory, answer⟩) :
    childrenOf Contact.isPreparation [first, second] = children first.exchanges ∧
      childrenOf Contact.isExecution [first, second] = children second.exchanges := by
  rw [childrenOf_cons, childrenOf_cons, childrenOf_cons, childrenOf_cons, isPrepared, isExecuted]
  exact ⟨List.append_nil _, List.append_nil _⟩

/-- A session that installs a bundle or nothing, and executes its probe with a
command line. -/
def Session.commanded
    (session : Session)
    (bundle : Option Bundle)
    (line : List String)
    (limit : UInt64) :
    Session :=
  { session with
    preparer := Preparer.installing bundle
    executor := Executor.command line limit }

/-- The children of a preparation, and what it comes to by them. -/
inductive Installed (subject : String) (directory : Path) :
    Option Bundle → List Child → Except Failure Readiness → Prop where
  | nothing : Installed subject directory none [] (.ok .ready)
  | bundle (bundle : Bundle) {installs : List Child} {answer : Except Failure Readiness}
      (upshot : (bundle.errand subject directory).Upshot installs answer) :
      Installed subject directory (some bundle) installs answer

namespace Installed

variable {subject : String} {directory : Path} {installs : List Child}

/-- A bundle is found not ready if its installation ended without success, and the
diagnostics are those of its output. -/
theorem failed
    {bundle : Option Bundle}
    {diagnostics : List Diagnostic}
    (installed : Installed subject directory bundle installs (.ok (.failed diagnostics))) :
    ∃ chosen child status captured,
      bundle = some chosen ∧
      installs = [child] ∧
      child.ending = .ended (.finished status captured) ∧
      status.isSuccess = false ∧
      diagnostics = Bundle.diagnose chosen.installCommand status captured := by
  cases installed with
  | bundle bundle upshot =>
      obtain ⟨child, status, captured, isSingle, isEnding, isMeaning⟩ := upshot.finished_of_ok rfl
      change (if status.isSuccess then _ else _) = _ at isMeaning
      split at isMeaning
      case isTrue succeeded => cases isMeaning
      case isFalse failed =>
        cases isMeaning
        exact ⟨bundle, child, status, captured, rfl, isSingle, isEnding,
          Bool.eq_false_iff.mpr failed, rfl⟩

theorem fails
    {bundle : Bundle}
    {answer : Except Failure Readiness}
    (installed : Installed subject directory (some bundle) installs answer) :
    ∀ child ∈ installs, child.Fails bundle.timeoutSecs answer := by
  cases installed with
  | bundle _ upshot => exact upshot.fails

theorem overran_of_timedOut
    {bundle : Option Bundle}
    {secs : UInt64}
    (installed : Installed subject directory bundle installs (.error (.timedOut secs))) :
    ∃ chosen, bundle = some chosen ∧ 0 < secs ∧ secs = chosen.timeoutSecs ∧
      ∃ child ∈ installs, child.ending = .overran := by
  cases installed with
  | bundle bundle upshot =>
      refine ⟨bundle, rfl, upshot.overran_of_timedOut rfl fun status captured => ?_⟩
      show (if status.isSuccess then _ else _) ≠ _
      split <;> exact nofun

end Installed

namespace Session

open Contact

/-- The visits of a run, the children of its preparation and of its execution,
and how it ends by them. -/
inductive Fate
    (subject : String)
    (probe : Probe)
    (bundle : Option Bundle)
    (line : List String)
    (limit : UInt64) :
    List Contact → List Child → List Child → Except Failure Report → Prop where
  | consumed : Fate subject probe bundle line limit [] [] [] (.error (.consumed subject))
  | homeless (fault : IoFault) :
      Fate subject probe bundle line limit [] [] [] (.error (.workDirectory fault))
  | unprepared (directory : Path) {installs : List Child} {failure : Failure}
      (installed : Installed subject directory bundle installs (.error failure)) :
      Fate subject probe bundle line limit [prepared subject directory (.error failure)]
        installs [] (.error failure)
  | unready (directory : Path) {installs : List Child} {diagnostics : List Diagnostic}
      (installed : Installed subject directory bundle installs (.ok (.failed diagnostics)))
      (duration : Nat) :
      Fate subject probe bundle line limit [prepared subject directory (.ok (.failed diagnostics))]
        installs [] (.ok (unreadyReport subject diagnostics duration))
  | unexecuted (directory : Path) {installs probes : List Child} {failure : Failure}
      (installed : Installed subject directory bundle installs (.ok .ready))
      (upshot : (Executor.errand line limit probe directory).Upshot probes (.error failure)) :
      Fate subject probe bundle line limit
        [prepared subject directory (.ok .ready), executed probe directory (.error failure)]
        installs probes (.error failure)
  | judged (directory : Path) {installs probes : List Child} {outcome : Outcome}
      (installed : Installed subject directory bundle installs (.ok .ready))
      (upshot : (Executor.errand line limit probe directory).Upshot probes (.ok outcome))
      (duration : Nat) :
      Fate subject probe bundle line limit
        [prepared subject directory (.ok .ready), executed probe directory (.ok outcome)]
        installs probes (.ok (probeReport subject probe outcome outcome.verdict duration))

variable {σ : Type}

theorem installed_of_service
    {session : Session}
    {bundle : Option Bundle}
    (isInstalling : session.preparer = Preparer.installing bundle)
    {host : Host σ}
    {service : Service}
    (served : ∃ state, service = session.servedOn host service.call state)
    {subject : String}
    {directory : Path}
    {answer : Except Failure Readiness}
    (isPrepared : service.contact = prepared subject directory answer) :
    Installed subject directory bundle (children service.exchanges) answer := by
  have leads : (session.preparer subject directory).run.Leads fun exchanges answer =>
      Installed subject directory bundle (children exchanges) answer := by
    rw [isInstalling]
    cases bundle with
    | none => exact .nothing
    | some bundle =>
        exact (bundle.leads_prepare subject directory).mono fun _ _ course =>
          .bundle bundle course.upshot
  exact leads_of_served served isPrepared leads

theorem upshot_of_service
    {session : Session}
    {line : List String}
    {limit : UInt64}
    (isCommand : session.executor = Executor.command line limit)
    {host : Host σ}
    {service : Service}
    (served : ∃ state, service = session.servedOn host service.call state)
    {probe : Probe}
    {directory : Path}
    {answer : Except Failure Outcome}
    (isExecuted : service.contact = executed probe directory answer) :
    (Executor.errand line limit probe directory).Upshot (children service.exchanges) answer := by
  have leads : (session.executor probe directory).run.Leads fun exchanges answer =>
      (Executor.errand line limit probe directory).Upshot (children exchanges) answer := by
    rw [isCommand]
    exact (Executor.leads_command line limit probe directory).mono fun _ _ course => course.upshot
  exact leads_of_served served isExecuted leads

/-- A fate is an outline together with what the visits come to by their children. -/
theorem Outline.fate
    {subject : String}
    {probe : Probe}
    {bundle : Option Bundle}
    {line : List String}
    {limit : UInt64}
    {visited : List Service}
    {result : Except Failure Report}
    (outline : Outline subject probe (visited.map Service.contact) result)
    (installed : ∀ service ∈ visited, ∀ directory answer,
      service.contact = prepared subject directory answer →
        Installed subject directory bundle (children service.exchanges) answer)
    (upshot : ∀ service ∈ visited, ∀ directory answer,
      service.contact = executed probe directory answer →
        (Executor.errand line limit probe directory).Upshot (children service.exchanges) answer) :
    Fate subject probe bundle line limit (visited.map Service.contact)
      (childrenOf isPreparation visited) (childrenOf isExecution visited) result := by
  generalize isVisited : visited.map Service.contact = contacts at outline ⊢
  cases outline with
  | consumed =>
      rw [List.map_eq_nil_iff.mp isVisited]
      exact .consumed
  | homeless fault =>
      rw [List.map_eq_nil_iff.mp isVisited]
      exact .homeless fault
  | unprepared directory failure =>
      obtain ⟨service, rfl, isPrepared⟩ := List.map_eq_singleton_iff.mp isVisited
      rw [(childrenOf_prepared isPrepared).1, (childrenOf_prepared isPrepared).2]
      exact .unprepared directory (installed service List.mem_cons_self _ _ isPrepared)
  | unready directory diagnostics duration =>
      obtain ⟨service, rfl, isPrepared⟩ := List.map_eq_singleton_iff.mp isVisited
      rw [(childrenOf_prepared isPrepared).1, (childrenOf_prepared isPrepared).2]
      exact .unready directory (installed service List.mem_cons_self _ _ isPrepared) duration
  | unexecuted directory failure =>
      obtain ⟨first, rest, rfl, isPrepared, isRest⟩ := List.map_eq_cons_iff.mp isVisited
      obtain ⟨second, rfl, isExecuted⟩ := List.map_eq_singleton_iff.mp isRest
      rw [(childrenOf_executed isPrepared isExecuted).1,
        (childrenOf_executed isPrepared isExecuted).2]
      exact .unexecuted directory (installed first List.mem_cons_self _ _ isPrepared)
        (upshot second (List.mem_cons_of_mem _ List.mem_cons_self) _ _ isExecuted)
  | judged directory outcome duration =>
      obtain ⟨first, rest, rfl, isPrepared, isRest⟩ := List.map_eq_cons_iff.mp isVisited
      obtain ⟨second, rfl, isExecuted⟩ := List.map_eq_singleton_iff.mp isRest
      rw [(childrenOf_executed isPrepared isExecuted).1,
        (childrenOf_executed isPrepared isExecuted).2]
      exact .judged directory (installed first List.mem_cons_self _ _ isPrepared)
        (upshot second (List.mem_cons_of_mem _ List.mem_cons_self) _ _ isExecuted) duration

/-- The services of a run with commands, and its result, are a fate. -/
theorem fate_services
    (session : Session)
    (bundle : Option Bundle)
    (line : List String)
    (limit : UInt64)
    (host : Host σ)
    (state : σ) :
    let run := session.commanded bundle line limit
    let services := run.services host state
    Fate session.subject session.probe bundle line limit
      (visits (services.map Service.contact))
      (childrenOf isPreparation services) (childrenOf isExecution services)
      (run.run.run.runOn host state).1 := by
  intro run services
  have served : ∀ service ∈ visiting services, ∃ current, service =
      run.servedOn (host.inside run.span) service.call current := fun service member =>
    (run.serving_run host state).mem service (List.mem_filter.mp member).1
  have outline := (run.passage_services host state).outline
  rw [← map_contact_visiting] at outline
  rw [← map_contact_visiting, ← childrenOf_visiting fun _ => isVisit_of_isPreparation,
    ← childrenOf_visiting fun _ => isVisit_of_isExecution]
  refine Outline.fate outline ?_ ?_
  · intro service member directory answer isPrepared
    exact installed_of_service rfl (served service member) isPrepared
  · intro service member directory answer isExecuted
    exact upshot_of_service rfl (served service member) isExecuted

end Session

end InterfaceAudit
