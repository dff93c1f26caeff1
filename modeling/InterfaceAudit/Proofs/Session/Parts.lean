import InterfaceAudit.Proofs.Session.Errands

/-!
Contract: the parts that a session is given, as far as files are concerned.

Owns:
- preparation by a bundle or by nothing, and execution by a command or by replay;
- the law that each of them stays in the directory that it is given;
- the one file that each of them writes, if it writes one.

Does not own: when a session calls for its parts.
-/

namespace InterfaceAudit

/-- Prepares a bundle, or nothing. -/
def Preparer.installing : Option Bundle → Preparer
  | some bundle => bundle.prepare
  | .none => Preparer.none

/-- Executes a probe by replay against a runtime, if there is one, and else by a
command line. -/
def Executor.executing
    (runtime? : Option Runtime)
    (line : List String)
    (limit : UInt64) :
    Executor :=
  (runtime?.map Executor.replay).getD (Executor.command line limit)

/-- The dependency file that a preparation writes, if it writes one. -/
def Preparer.text? (bundle : Option Bundle) (subject : String) : Option Bytes :=
  (bundle.filter fun chosen => chosen.installCommand ≠ []).map fun chosen =>
    Utf8.encode (chosen.gemfile subject).chars

/-- The script that an execution writes, if it writes one. -/
def Executor.text?
    (runtime? : Option Runtime)
    (line : List String)
    (probe : Probe) :
    Option Bytes :=
  if runtime? ≠ none ∨ line ≠ [] then some probe.bytes else none

theorem Preparer.text?_eq_some_iff {bundle : Option Bundle} {subject : String} {text : Bytes} :
    text? bundle subject = some text ↔
      ∃ chosen, bundle = some chosen ∧ chosen.installCommand ≠ [] ∧
        text = Utf8.encode (chosen.gemfile subject).chars := by
  unfold text?
  rw [Option.map_eq_some_iff]
  constructor
  · rintro ⟨chosen, isChosen, rfl⟩
    obtain ⟨isBundle, installs⟩ := Option.filter_eq_some_iff.mp isChosen
    exact ⟨chosen, isBundle, of_decide_eq_true installs, rfl⟩
  · rintro ⟨chosen, isBundle, installs, rfl⟩
    exact ⟨chosen, Option.filter_eq_some_iff.mpr ⟨isBundle, decide_eq_true installs⟩, rfl⟩

theorem Executor.text?_eq_some_iff
    {runtime? : Option Runtime}
    {line : List String}
    {probe : Probe}
    {text : Bytes} :
    text? runtime? line probe = some text ↔
      (runtime? ≠ none ∨ line ≠ []) ∧ text = probe.bytes := by
  unfold text?
  split
  case isTrue writes => exact ⟨fun isText => ⟨writes, (Option.some.inj isText).symm⟩,
    fun ⟨_, isText⟩ => congrArg some isText.symm⟩
  case isFalse idle => exact ⟨nofun, fun ⟨writes, _⟩ => absurd writes idle⟩

theorem Preparer.staysIn_none (subject : String) (directory : Path) :
    (Preparer.none subject directory).run.StaysIn directory :=
  List.forall_mem_nil _

theorem Bundle.staysIn_prepare (bundle : Bundle) (subject : String) (directory : Path) :
    (bundle.prepare subject directory).run.StaysIn directory := by
  have isPlain : IsPlainName fileName := by decide
  exact (bundle.leads_prepare subject directory).mono fun _ _ course => course.staysIn isPlain rfl

theorem Executor.staysIn_command
    (line : List String)
    (limit : UInt64)
    (probe : Probe)
    (directory : Path) :
    (Executor.command line limit probe directory).run.StaysIn directory := by
  have isPlain : IsPlainName scriptName := by decide
  exact (leads_command line limit probe directory).mono fun _ _ course =>
    course.staysIn isPlain rfl

theorem Executor.staysIn_replay (runtime : Runtime) (probe : Probe) (directory : Path) :
    (Executor.replay runtime probe directory).run.StaysIn directory := by
  have isPlain : IsPlainName scriptName := by decide
  refine Attempt.leads_bind fun answer => ?_
  cases answer with
  | error fault => exact List.forall_mem_singleton.mpr ⟨scriptName, isPlain, rfl⟩
  | ok done => exact List.forall_mem_singleton.mpr ⟨scriptName, isPlain, rfl⟩

theorem Preparer.staysIn_installing
    (bundle : Option Bundle)
    (subject : String)
    (directory : Path) :
    (Preparer.installing bundle subject directory).run.StaysIn directory := by
  cases bundle with
  | none => exact Preparer.staysIn_none subject directory
  | some bundle => exact bundle.staysIn_prepare subject directory

theorem Executor.staysIn_executing
    (runtime? : Option Runtime)
    (line : List String)
    (limit : UInt64)
    (probe : Probe)
    (directory : Path) :
    (Executor.executing runtime? line limit probe directory).run.StaysIn directory := by
  cases runtime? with
  | none => exact Executor.staysIn_command line limit probe directory
  | some runtime => exact Executor.staysIn_replay runtime probe directory

/-! ## What the parts of a session write -/

/-- A script that is replayed is written, and nothing else is done. -/
theorem Executor.writes_replay (runtime : Runtime) (probe : Probe) (directory : Path) :
    (Executor.replay runtime probe directory).run.Leads fun exchanges _ =>
      writes exchanges = [(directory.child scriptName, probe.bytes)] := by
  refine Attempt.leads_bind fun answer => ?_
  cases answer with
  | error fault => rfl
  | ok done => rfl

/-- A preparation writes its dependency file, and nothing else. -/
theorem Preparer.writes_installing
    (bundle : Option Bundle)
    (subject : String)
    (directory : Path) :
    (Preparer.installing bundle subject directory).run.Leads fun exchanges _ =>
      writes exchanges =
        ((text? bundle subject).map fun text => (directory.child Bundle.fileName, text)).toList := by
  cases bundle with
  | none => exact rfl
  | some bundle =>
      refine (bundle.leads_prepare subject directory).mono fun exchanges result course => ?_
      cases isLine : bundle.installCommand with
      | nil =>
          have isIdle : (bundle.errand subject directory).command? = .none := by
            unfold Bundle.errand
            rw [isLine]
          rw [course.writes_of_idle isIdle]
          unfold text?
          rw [Option.filter_some, isLine]
          rfl
      | cons program arguments =>
          have isErrand : (bundle.errand subject directory).command? ≠ .none := by
            unfold Bundle.errand
            rw [isLine]
            exact nofun
          rw [course.writes isErrand]
          unfold text?
          rw [Option.filter_some, isLine]
          rfl

/-- An execution writes its script, and nothing else. -/
theorem Executor.writes_executing
    (runtime? : Option Runtime)
    (line : List String)
    (limit : UInt64)
    (probe : Probe)
    (directory : Path) :
    (Executor.executing runtime? line limit probe directory).run.Leads fun exchanges _ =>
      writes exchanges =
        ((text? runtime? line probe).map fun text => (directory.child scriptName, text)).toList := by
  cases runtime? with
  | some runtime => exact writes_replay runtime probe directory
  | none =>
      refine (leads_command line limit probe directory).mono fun exchanges result course => ?_
      cases line with
      | nil => exact course.writes_of_idle rfl
      | cons program arguments => exact course.writes nofun

end InterfaceAudit
