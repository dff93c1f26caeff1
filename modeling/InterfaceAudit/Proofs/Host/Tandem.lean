import InterfaceAudit.Proofs.Host.Sharing

/-!
Contract: two runs of one action, in one ground and in the same circumstances.

Owns:
- the footing of two runs, and the exchanges by which they keep in step: a root is
  made first, then one directory, which all else happens in, and which is removed
  at the end or not at all;
- actions that are alike, which keep in step whatever the time is and whatever
  their directories are called;
- files that tally for two runs;
- the law that alike actions come to the same on files that tally.

Does not own: which actions are alike, or runs with others in between.
-/

namespace InterfaceAudit

/-! ## What is passed on and where it is done -/

/-- The event, if it is about a diagnostic. -/
def Log.Event.emission? (event : Log.Event) : Option Log.Event :=
  if event.target = Log.diagnosticTarget then some event else none

/-- What a request puts into a sink: a diagnostic into the collection, or the event of
one into the log. -/
def Request.sunk : Request → List (Diagnostic ⊕ Log.Event)
  | .collect diagnostic => [.inl diagnostic]
  | .log event => event.emission?.toList.map .inr
  | _ => []

/-- What exchanges put into a sink, in order. -/
def sunk (exchanges : List Exchange) : List (Diagnostic ⊕ Log.Event) :=
  exchanges.flatMap fun exchange => exchange.request.sunk

/-- The directory of an action behind an exchange, where it had another one before
or none. -/
def Exchange.home (home? : Option Path) : Exchange → Option Path
  | ⟨.makeScoped _ _, .ok directory⟩ => some directory
  | ⟨.removeTree _, _⟩ => none
  | _ => home?

/-- The directory that exchanges leave an action. -/
def homeOf (exchanges : List Exchange) : Option Path :=
  exchanges.foldl Exchange.home none

/-- A command without the directory that it is to be run in, whose variables name
files there. -/
structure Chore where
  program : String
  arguments : List String
  fileVariables : List (String × String) := []

def Chore.commandIn (chore : Chore) (directory : Path) : Command where
  program := chore.program
  arguments := chore.arguments
  directory := directory
  environment := chore.fileVariables.map fun named => (named.1, directory.child named.2)

/-- Two directories that make no difference to what is done there but for their
names. -/
structure Circumstances.TreatsAlike (own : Circumstances) (first second : Path) : Prop where
  store : ∀ name content there?,
    own.store (first.child name) content there? = own.store (second.child name) content there?
  run : ∀ (chore : Chore) files,
    own.run (chore.commandIn first) files = own.run (chore.commandIn second) files
  runWithin : ∀ (chore : Chore) secs files,
    own.runWithin (chore.commandIn first) secs files =
      own.runWithin (chore.commandIn second) secs files

theorem Circumstances.treatsAlike_self (own : Circumstances) (directory : Path) :
    own.TreatsAlike directory directory :=
  ⟨fun _ _ _ => rfl, fun _ _ => rfl, fun _ _ _ => rfl⟩

/-! ## Keeping in step -/

/-- How far two runs have come, and the directories that they have. -/
inductive Footing where
  /-- The root is still to be made. -/
  | arriving
  | rooted
  | lodged (first second : Path)
  | departed
deriving DecidableEq, Repr

namespace Footing

def first : Footing → Option Path
  | .lodged directory _ => some directory
  | _ => none

def second : Footing → Option Path
  | .lodged _ directory => some directory
  | _ => none

/-- Where an action starts that makes its directory below a root or elsewhere. -/
def start : Option Path → Footing
  | some _ => .arriving
  | none => .rooted

theorem first_start (root? : Option Path) : (start root?).first = none := by
  cases root? <;> rfl

theorem second_start (root? : Option Path) : (start root?).second = none := by
  cases root? <;> rfl

/-- Exchanges by which two runs keep in step. Times and the names of directories may
differ, but nothing else that is answered. -/
inductive Passes (root? : Option Path) : Footing → Exchange → Exchange → Footing → Prop where
  | clock (footing : Footing) (time other : Nat) :
      Passes root? footing ⟨.clock, time⟩ ⟨.clock, other⟩ footing
  | log (footing : Footing) {event other : Log.Event}
      (same : event.emission? = other.emission?) :
      Passes root? footing ⟨.log event, ()⟩ ⟨.log other, ()⟩ footing
  | collect (footing : Footing) (diagnostic : Diagnostic) :
      Passes root? footing ⟨.collect diagnostic, ()⟩ ⟨.collect diagnostic, ()⟩ footing
  | treeMade {root : Path} (isRoot : root? = some root) :
      Passes root? .arriving ⟨.makeDirectories root, (.ok () : Except IoFault Unit)⟩
        ⟨.makeDirectories root, (.ok () : Except IoFault Unit)⟩ .rooted
  | treeRefused {root : Path} (isRoot : root? = some root) (fault : IoFault) :
      Passes root? .arriving ⟨.makeDirectories root, (.error fault : Except IoFault Unit)⟩
        ⟨.makeDirectories root, (.error fault : Except IoFault Unit)⟩ .departed
  | scopedMade (stem : String) (first second : Path) :
      Passes root? .rooted ⟨.makeScoped root? stem, (.ok first : Except IoFault Path)⟩
        ⟨.makeScoped root? stem, (.ok second : Except IoFault Path)⟩ (.lodged first second)
  | scopedRefused (stem : String) (fault : IoFault) :
      Passes root? .rooted ⟨.makeScoped root? stem, (.error fault : Except IoFault Path)⟩
        ⟨.makeScoped root? stem, (.error fault : Except IoFault Path)⟩ .departed
  | stored (first second : Path) {name : String} (isPlain : IsPlainName name)
      (content : Bytes) (answer : Except IoFault Unit) :
      Passes root? (.lodged first second) ⟨.writeFile (first.child name) content, answer⟩
        ⟨.writeFile (second.child name) content, answer⟩ (.lodged first second)
  | ran (first second : Path) (chore : Chore) (answer : Except IoFault CommandEnd) :
      Passes root? (.lodged first second) ⟨.run (chore.commandIn first), answer⟩
        ⟨.run (chore.commandIn second), answer⟩ (.lodged first second)
  | ranWithin (first second : Path) (chore : Chore) (secs : UInt64)
      (answer : Except IoFault (Option CommandEnd)) :
      Passes root? (.lodged first second) ⟨.runWithin (chore.commandIn first) secs, answer⟩
        ⟨.runWithin (chore.commandIn second) secs, answer⟩ (.lodged first second)
  | removed (first second : Path) :
      Passes root? (.lodged first second) ⟨.removeTree first, ()⟩ ⟨.removeTree second, ()⟩
        .departed

variable {root? : Option Path} {footing later : Footing} {exchange other : Exchange}

theorem Passes.first (passes : footing.Passes root? exchange other later) :
    later.first = exchange.home footing.first := by
  cases passes <;> rfl

theorem Passes.second (passes : footing.Passes root? exchange other later) :
    later.second = other.home footing.second := by
  cases passes <;> rfl

theorem Passes.sunk (passes : footing.Passes root? exchange other later) :
    exchange.request.sunk = other.request.sunk := by
  cases passes with
  | log _ same =>
      show List.map Sum.inr (Option.toList _) = List.map Sum.inr (Option.toList _)
      rw [same]
  | clock | collect | treeMade | treeRefused | scopedMade | scopedRefused | stored | ran
  | ranWithin | removed => rfl

/-- Two requests by which runs keep in step, if they are answered in some ways. -/
def Opens (root? : Option Path) (footing : Footing) (request other : Request) : Prop :=
  ∃ answer reply later, footing.Passes root? ⟨request, answer⟩ ⟨other, reply⟩ later

end Footing

/-- Actions that keep in step, whatever the time is and whatever their directories are
called, and the results of which satisfy an assertion. -/
inductive Alike {α β : Type} (root? : Option Path) (post : Footing → α → β → Prop) :
    Footing → Action α → Action β → Prop where
  | done {footing : Footing} {result : α} {other : β} (holds : post footing result other) :
      Alike root? post footing (.done result) (.done other)
  | ask {footing : Footing} {request other : Request} {next : request.Answer → Action α}
      {goOn : other.Answer → Action β}
      (opens : footing.Opens root? request other)
      (further : ∀ answer reply later,
        footing.Passes root? ⟨request, answer⟩ ⟨other, reply⟩ later →
          Alike root? post later (next answer) (goOn reply)) :
      Alike root? post footing (.ask request next) (.ask other goOn)

namespace Alike

variable {α β γ δ : Type} {root? : Option Path} {footing : Footing}
  {post weaker : Footing → α → β → Prop}

theorem mono
    {action : Action α}
    {other : Action β}
    (alike : Alike root? post footing action other)
    (weaken : ∀ later result reply, post later result reply → weaker later result reply) :
    Alike root? weaker footing action other := by
  induction alike with
  | done holds => exact .done (weaken _ _ _ holds)
  | ask opens further inductionHypothesis => exact .ask opens inductionHypothesis

theorem andThen
    {action : Action γ}
    {other : Action δ}
    {next : γ → Action α}
    {goOn : δ → Action β}
    (alike : Alike root? (fun later result reply =>
      Alike root? post later (next result) (goOn reply)) footing action other) :
    Alike root? post footing (action.andThen next) (other.andThen goOn) := by
  induction alike with
  | done holds => exact holds
  | ask opens further inductionHypothesis => exact .ask opens inductionHypothesis

theorem emission?_within (span : Log.Span) (event : Log.Event) :
    (event.within span).emission? = event.emission?.map (Log.Event.within span) := by
  unfold Log.Event.emission? Log.Event.within
  split <;> rfl

/-- Inside a span actions keep in step as they do outside. -/
theorem within
    {action : Action α}
    {other : Action β}
    (alike : Alike root? post footing action other)
    (span : Log.Span) :
    Alike root? post footing (action.within span) (other.within span) := by
  induction alike with
  | done holds => exact .done holds
  | ask opens further inductionHypothesis =>
      have opened := opens
      obtain ⟨answer, reply, later, passes⟩ := opens
      cases passes with
      | log _ same =>
          have spanned := congrArg (Option.map (Log.Event.within span)) same
          rw [← emission?_within, ← emission?_within] at spanned
          refine .ask ⟨(), (), _, .log _ spanned⟩ fun answer reply later passes => ?_
          cases passes
          exact inductionHypothesis () () _ (.log _ same)
      | clock | collect | treeMade | treeRefused | scopedMade | scopedRefused | stored | ran
      | ranWithin | removed => exact .ask opened inductionHypothesis

end Alike

end InterfaceAudit
