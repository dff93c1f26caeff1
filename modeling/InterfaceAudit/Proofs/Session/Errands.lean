import InterfaceAudit.Execution
import InterfaceAudit.Preparation
import InterfaceAudit.Proofs.Host.Children
import InterfaceAudit.Proofs.Host.Files

/-!
Contract: what preparing a bundle and executing a script have in common.

Owns:
- errands: a file is written, and then a command is run to its end;
- the course of an errand on any host, and the result that belongs to it;
- the law that a bundle is prepared, and that a script is executed by a command,
  in the course of an errand.

Does not own: how often, or in which directory, an errand is run.
-/

namespace InterfaceAudit

/-- Whether an exchange only tells the time, or what is going on. -/
def Exchange.IsNote (exchange : Exchange) : Prop :=
  match exchange.request with
  | .clock | .log _ => True
  | _ => False

/-- A file to be written, and a command to be run then, if there is one. -/
structure Errand (α : Type) where
  path : Path
  content : Bytes
  command? : Option Command
  limit : UInt64
  /-- What a command that ended amounts to. -/
  meaning : ExitStatus → Captured → Except Failure α

namespace Errand

variable {α : Type}

def written (errand : Errand α) (answer : Except IoFault Unit) : Exchange :=
  ⟨.writeFile errand.path errand.content, answer⟩

def answer (errand : Errand α) (command : Command) (ending : ChildEnd) : Except Failure α :=
  match ending.result command.program errand.limit with
  | .ok (status, captured) => errand.meaning status captured
  | .error failure => .error failure

/-- The child of an errand, ended in some way. -/
def child (errand : Errand α) (command : Command) (ending : ChildEnd) : Child where
  command := command
  limit := allowance errand.limit
  ending := ending

/-- The course of an errand, and what it comes to. -/
inductive Course (errand : Errand α) : List Exchange → Except Failure α → Prop where
  /-- There is no command, and nothing is done. -/
  | idle (isIdle : errand.command? = none) : Course errand [] (.error .emptyCommand)
  /-- The file cannot be written. -/
  | unwritten {command : Command} (isCommand : errand.command? = some command)
      (fault : IoFault) :
      Course errand [errand.written (.error fault)] (.error (.io fault))
  | ran {command : Command} (isCommand : errand.command? = some command)
      {before after : List Exchange} {exchange : Exchange} {ending : ChildEnd}
      (isBefore : ∀ note ∈ before, note.IsNote)
      (isAfter : ∀ note ∈ after, note.IsNote)
      (isChild : exchange.child? = some (errand.child command ending))
      (limited : ending = .overran → 0 < errand.limit) :
      Course errand (errand.written (.ok ()) :: (before ++ exchange :: after))
        (errand.answer command ending)

/-- The children of an errand, and what it comes to by them. -/
inductive Upshot (errand : Errand α) : List Child → Except Failure α → Prop where
  /-- The command is not even tried. -/
  | kept (failure : Failure) (isFailure : failure = .emptyCommand ∨ ∃ fault, failure = .io fault) :
      Upshot errand [] (.error failure)
  | tried {command : Command} (isCommand : errand.command? = some command) (ending : ChildEnd)
      (limited : ending = .overran → 0 < errand.limit) :
      Upshot errand [errand.child command ending] (errand.answer command ending)

theorem children_notes {exchanges : List Exchange} (notes : ∀ note ∈ exchanges, note.IsNote) :
    children exchanges = [] :=
  children_eq_nil fun exchange member => by
    obtain ⟨request, answer⟩ := exchange
    have isNote := notes _ member
    cases request with
    | run _ | runWithin _ _ => cases isNote
    | clock | makeDirectories _ | makeScoped _ _ | removeTree _ | readFile _ | writeFile _ _
    | log _ | collect _ | print _ => exact id

/-- The only child of an errand that is run is that of its command. -/
theorem children_ran
    {errand : Errand α}
    {command : Command}
    {before after : List Exchange}
    {exchange : Exchange}
    {ending : ChildEnd}
    (isBefore : ∀ note ∈ before, note.IsNote)
    (isAfter : ∀ note ∈ after, note.IsNote)
    (isChild : exchange.child? = some (errand.child command ending)) :
    children (errand.written (.ok ()) :: (before ++ exchange :: after)) =
      [errand.child command ending] := by
  show children (before ++ exchange :: after) = _
  have single : children (exchange :: after) = errand.child command ending :: children after :=
    List.filterMap_cons_some isChild
  rw [children_append, children_notes isBefore, single, children_notes isAfter, List.nil_append]

theorem Course.upshot
    {errand : Errand α}
    {exchanges : List Exchange}
    {result : Except Failure α}
    (course : errand.Course exchanges result) :
    errand.Upshot (children exchanges) result := by
  cases course with
  | idle isIdle => exact .kept _ (.inl rfl)
  | unwritten isCommand fault => exact .kept _ (.inr ⟨fault, rfl⟩)
  | ran isCommand isBefore isAfter isChild limited =>
      rw [children_ran isBefore isAfter isChild]
      exact .tried isCommand _ limited

theorem leavesFiles_of_isNote {exchange : Exchange} (isNote : exchange.IsNote) :
    exchange.request.LeavesFiles := by
  obtain ⟨request, answer⟩ := exchange
  cases request with
  | clock | log _ => trivial
  | makeDirectories _ | makeScoped _ _ | removeTree _ | readFile _ | writeFile _ _ | run _
  | runWithin _ _ | collect _ | print _ => cases isNote

theorem leavesFiles_of_child
    {exchange : Exchange}
    {child : Child}
    (isChild : exchange.child? = some child) :
    exchange.request.LeavesFiles := by
  obtain ⟨request, answer⟩ := exchange
  cases request with
  | run _ | runWithin _ _ => trivial
  | clock | makeDirectories _ | makeScoped _ _ | removeTree _ | readFile _ | writeFile _ _
  | log _ | collect _ | print _ => cases isChild

/-- An errand with a command writes its file, once, and no other. -/
theorem Course.writes
    {errand : Errand α}
    {exchanges : List Exchange}
    {result : Except Failure α}
    (course : errand.Course exchanges result)
    (isErrand : errand.command? ≠ none) :
    InterfaceAudit.writes exchanges = [(errand.path, errand.content)] := by
  cases course with
  | idle isIdle => exact absurd isIdle isErrand
  | unwritten isCommand fault => rfl
  | ran isCommand isBefore isAfter isChild limited =>
      rename_i command before after exchange ending
      have rest : InterfaceAudit.writes (before ++ exchange :: after) = [] :=
        writes_of_leavesFiles (List.forall_mem_append.mpr
          ⟨fun note member => leavesFiles_of_isNote (isBefore note member),
            List.forall_mem_cons.mpr ⟨leavesFiles_of_child isChild,
              fun note member => leavesFiles_of_isNote (isAfter note member)⟩⟩)
      exact congrArg (List.cons _) rest

end Errand

namespace Errand

variable {α : Type}

/-- An errand without a command writes nothing. -/
theorem Course.writes_of_idle
    {errand : Errand α}
    {exchanges : List Exchange}
    {result : Except Failure α}
    (course : errand.Course exchanges result)
    (isIdle : errand.command? = none) :
    InterfaceAudit.writes exchanges = [] := by
  cases course with
  | idle isIdle => rfl
  | unwritten isCommand fault =>
      rw [isIdle] at isCommand
      cases isCommand
  | ran isCommand isBefore isAfter isChild limited =>
      rw [isIdle] at isCommand
      cases isCommand

/-- An errand stays in the directory that its file is right below. -/
theorem Course.staysIn
    {errand : Errand α}
    {exchanges : List Exchange}
    {result : Except Failure α}
    (course : errand.Course exchanges result)
    {directory : Path}
    {name : String}
    (isPlain : IsPlainName name)
    (isBelow : errand.path = directory.child name) :
    ∀ exchange ∈ exchanges, exchange.request.StaysIn directory := by
  have file (answer : Except IoFault Unit) :
      (errand.written answer).request.StaysIn directory := ⟨name, isPlain, isBelow⟩
  cases course with
  | idle isIdle => exact List.forall_mem_nil _
  | unwritten isCommand fault => exact List.forall_mem_singleton.mpr (file _)
  | ran isCommand isBefore isAfter isChild limited =>
      refine List.forall_mem_cons.mpr ⟨file _, List.forall_mem_append.mpr ⟨?_, ?_⟩⟩
      · exact fun note member => (leavesFiles_of_isNote (isBefore note member)).staysIn directory
      · refine List.forall_mem_cons.mpr ⟨(leavesFiles_of_child isChild).staysIn directory, ?_⟩
        exact fun note member => (leavesFiles_of_isNote (isAfter note member)).staysIn directory

end Errand

/-! ## Children that make an errand fail -/

/-- A child that was never started, ran too long or could not be read out makes
what it was run for fail, each in its own way. -/
structure Child.Fails {α : Type} (child : Child) (limit : UInt64) (result : Except Failure α) :
    Prop where
  unstarted : ∀ fault, child.ending = .unstarted fault →
    result = .error (if fault = .system .notFound then .commandNotFound child.command.program
      else .spawn child.command.program fault)
  overran : child.ending = .overran → 0 < limit ∧ result = .error (.timedOut limit)
  unread : ∀ fault, child.ending = .ended (.unread fault) → result = .error (.io fault)

theorem Child.Fails.mono
    {α β : Type}
    {child : Child}
    {limit : UInt64}
    {first : Except Failure α}
    {second : Except Failure β}
    (fails : child.Fails limit first)
    (further : ∀ failure, first = .error failure → second = .error failure) :
    child.Fails limit second where
  unstarted fault isEnding := further _ (fails.unstarted fault isEnding)
  overran isEnding := ⟨(fails.overran isEnding).1, further _ (fails.overran isEnding).2⟩
  unread fault isEnding := further _ (fails.unread fault isEnding)

namespace Errand.Upshot

variable {α : Type} {errand : Errand α} {children : List Child}

theorem fails
    {answer : Except Failure α}
    (upshot : errand.Upshot children answer) :
    ∀ child ∈ children, child.Fails errand.limit answer := by
  intro child member
  cases upshot with
  | kept failure isFailure => cases member
  | tried isCommand ending limited =>
      rename_i command
      cases List.mem_singleton.mp member
      refine ⟨?_, ?_, ?_⟩
      · rintro fault rfl
        show Except.error (Failure.ofSpawn command.program fault) = _
        simp only [Failure.ofSpawn, beq_iff_eq]
        rfl
      · rintro rfl
        exact ⟨limited rfl, rfl⟩
      · rintro fault rfl
        rfl

/-- An errand is timed out only if its child ran too long. -/
theorem overran_of_timedOut
    {answer : Except Failure α}
    (upshot : errand.Upshot children answer)
    {secs : UInt64}
    (isTimedOut : answer = .error (.timedOut secs))
    (meant : ∀ status captured, errand.meaning status captured ≠ .error (.timedOut secs)) :
    0 < secs ∧ secs = errand.limit ∧ ∃ child ∈ children, child.ending = .overran := by
  cases upshot with
  | kept failure isFailure =>
      cases isTimedOut
      rcases isFailure with isEmpty | ⟨fault, isIo⟩
      · cases isEmpty
      · cases isIo
  | tried isCommand ending limited =>
      rename_i command
      unfold Errand.answer at isTimedOut
      split at isTimedOut
      case h_1 status captured ended => exact absurd isTimedOut (meant status captured)
      case h_2 failure ended =>
        cases isTimedOut
        obtain ⟨rfl, rfl⟩ := ChildEnd.result_eq_timedOut_iff.mp ended
        exact ⟨limited rfl, rfl, _, List.mem_singleton_self _, rfl⟩

/-- An errand that comes to something has had a child that ended, with its
outputs closed. -/
theorem finished_of_ok
    {answer : Except Failure α}
    (upshot : errand.Upshot children answer)
    {value : α}
    (isOk : answer = .ok value) :
    ∃ child status captured,
      children = [child] ∧
      child.ending = .ended (.finished status captured) ∧
      errand.meaning status captured = .ok value := by
  cases upshot with
  | kept failure isFailure => cases isOk
  | tried isCommand ending limited =>
      unfold Errand.answer at isOk
      split at isOk
      case h_1 status captured ended =>
        exact ⟨_, status, captured, rfl, ChildEnd.result_eq_ok_iff.mp ended, isOk⟩
      case h_2 failure ended => cases isOk

/-- A child that ended, with its outputs closed, is all that counts. -/
theorem answer_of_finished
    {answer : Except Failure α}
    (upshot : errand.Upshot children answer)
    {child : Child}
    (member : child ∈ children)
    {status : ExitStatus}
    {captured : Captured}
    (isEnding : child.ending = .ended (.finished status captured)) :
    answer = errand.meaning status captured := by
  cases upshot with
  | kept failure isFailure => cases member
  | tried isCommand ending limited =>
      cases List.mem_singleton.mp member
      cases isEnding
      rfl

end Errand.Upshot

/-! ## The errands of a session -/

def Executor.errand
    (line : List String)
    (limit : UInt64)
    (probe : Probe)
    (directory : Path) :
    Errand Outcome where
  path := directory.child scriptName
  content := probe.bytes
  command? :=
    match line with
    | [] => none
    | program :: arguments => some { program, arguments := arguments ++ [scriptName], directory }
  limit := limit
  meaning status captured :=
    match status with
    | .signalled signal => .error (.terminated (some signal))
    | .exited code => .ok {
        succeeded := status.isSuccess
        exitCode := some code
        output := captured.text }

def Bundle.errand (bundle : Bundle) (subject : String) (directory : Path) : Errand Readiness where
  path := directory.child fileName
  content := Utf8.encode (bundle.gemfile subject).chars
  command? :=
    match bundle.installCommand with
    | [] => none
    | program :: arguments => some {
        program
        arguments
        directory
        environment := [("BUNDLE_GEMFILE", directory.child fileName)] }
  limit := bundle.timeoutSecs
  meaning status captured :=
    if status.isSuccess then .ok .ready
    else .ok (.failed (Bundle.diagnose bundle.installCommand status captured))

namespace Errand

variable {α : Type}

theorem leads_written
    (errand : Errand α)
    {next : Unit → Attempt α}
    {command : Command}
    (isCommand : errand.command? = some command)
    (rest : (next ()).run.Leads fun exchanges result =>
      errand.Course (errand.written (.ok ()) :: exchanges) result) :
    (Attempt.writeFile errand.path errand.content >>= next).run.Leads errand.Course := by
  refine Attempt.leads_bind fun answer => ?_
  cases answer with
  | error fault => exact .unwritten isCommand fault
  | ok done => exact rest

/-- Behind the writing of its file, an errand runs its command, and only notes
surround that. -/
theorem leads_ran
    (errand : Errand α)
    {next : ExitStatus × Captured → Attempt α}
    {command : Command}
    (isCommand : errand.command? = some command)
    {before : List Exchange}
    (isBefore : ∀ note ∈ before, note.IsNote)
    (meant : ∀ status captured, (next (status, captured)).run.Leads fun after result =>
      (∀ note ∈ after, note.IsNote) ∧ result = errand.meaning status captured) :
    (command.finish errand.limit >>= next).run.Leads fun exchanges result =>
      errand.Course (errand.written (.ok ()) :: (before ++ exchanges)) result := by
  refine Attempt.leads_bind ((command.leads_finish errand.limit).mono ?_)
  rintro exchanges result ⟨exchange, ending, rfl, isChild, limited, rfl⟩
  have course (after : List Exchange) (isAfter : ∀ note ∈ after, note.IsNote) :=
    Course.ran isCommand isBefore isAfter isChild limited
  unfold answer at course
  cases ended : ending.result command.program errand.limit with
  | error failure =>
      rw [ended] at course
      exact course [] (List.forall_mem_nil _)
  | ok finished =>
      rw [ended] at course
      refine (meant finished.1 finished.2).mono fun after result ⟨isAfter, isResult⟩ => ?_
      rw [isResult]
      exact course after isAfter

end Errand

/-- A script that a command line executes goes the course of its errand. -/
theorem Executor.leads_command
    (line : List String)
    (limit : UInt64)
    (probe : Probe)
    (directory : Path) :
    (Executor.command line limit probe directory).run.Leads
      (Executor.errand line limit probe directory).Course := by
  cases line with
  | nil => exact .idle rfl
  | cons program arguments =>
      refine Errand.leads_written (errand (program :: arguments) limit probe directory) rfl ?_
      refine Attempt.leads_bind (Attempt.leads_always fun start => ?_)
      have isNote : ∀ note ∈ [(⟨.clock, start⟩ : Exchange)], note.IsNote :=
        List.forall_mem_singleton.mpr trivial
      refine Errand.leads_ran (errand (program :: arguments) limit probe directory) rfl isNote ?_
      intro status captured
      refine Attempt.leads_bind (Attempt.leads_always fun now => ?_)
      cases status with
      | signalled signal => exact ⟨List.forall_mem_singleton.mpr trivial, rfl⟩
      | exited code =>
          refine Attempt.leads_bind (Attempt.leads_always fun _ => ?_)
          exact ⟨List.forall_mem_cons.mpr ⟨trivial, List.forall_mem_singleton.mpr trivial⟩, rfl⟩

/-- A bundle is prepared in the course of its errand. -/
theorem Bundle.leads_prepare (bundle : Bundle) (subject : String) (directory : Path) :
    (bundle.prepare subject directory).run.Leads (bundle.errand subject directory).Course := by
  unfold prepare
  cases isLine : bundle.installCommand with
  | nil =>
      refine .idle ?_
      unfold errand
      rw [isLine]
  | cons program arguments =>
      have isCommand : (bundle.errand subject directory).command? = some {
          program
          arguments
          directory
          environment := [("BUNDLE_GEMFILE", directory.child fileName)] } := by
        unfold errand
        rw [isLine]
      refine Errand.leads_written (bundle.errand subject directory) isCommand ?_
      refine Attempt.leads_bind (Attempt.leads_always fun _ => ?_)
      have isNote : ∀ note ∈ [(⟨.log (event .info "Installing bundle" subject), ()⟩ : Exchange)],
          note.IsNote := List.forall_mem_singleton.mpr trivial
      refine Errand.leads_ran (bundle.errand subject directory) isCommand isNote ?_
      intro status captured
      unfold readinessOf errand
      dsimp only
      split
      · refine Attempt.leads_bind (Attempt.leads_always fun _ => ?_)
        exact ⟨List.forall_mem_singleton.mpr trivial, rfl⟩
      · refine Attempt.leads_bind (Attempt.leads_always fun _ => ?_)
        exact ⟨List.forall_mem_singleton.mpr trivial, rfl⟩

end InterfaceAudit
