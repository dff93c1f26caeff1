import InterfaceAudit.Diagnostic
import InterfaceAudit.Failure
import InterfaceAudit.Log.Event
import InterfaceAudit.Path

/-!
Contract: work that needs a host, as a value.

Owns:
- the requests that can be made of a host, each with the type of its answer;
- actions, which are trees of requests that branch on the answers;
- running an action on a host, one request at a time.

Does not own: any host. What an action does is therefore known for every
behaviour of the file system, the clock and the commands that are run.
-/

namespace InterfaceAudit

structure Command where
  program : String
  arguments : List String
  directory : Path
  environment : List (String × Path) := []
deriving DecidableEq, Repr

/-- What a command wrote to its two outputs. -/
structure Captured where
  stdout : Bytes
  stderr : Bytes
deriving DecidableEq, Repr

/-- How a process ended. -/
inductive ExitStatus where
  /-- By itself, with an exit code. -/
  | exited (code : Int)
  | signalled (signal : Int)
deriving DecidableEq, Repr

/-- What waiting for a command that was started came to. -/
inductive CommandEnd where
  /-- It ended, and both its outputs were closed. -/
  | finished (status : ExitStatus) (captured : Captured)
  /-- Its outputs could not be read to their end. -/
  | unread (fault : IoFault)
deriving DecidableEq, Repr

/-- Both outputs as text, one after the other, each decoded on its own. -/
def Captured.text (captured : Captured) : String :=
  Utf8.toStringLossy captured.stdout ++ Utf8.toStringLossy captured.stderr

namespace ExitStatus

def isSuccess (status : ExitStatus) : Bool :=
  status == .exited 0

/-- The names of the signals, from number one on. -/
def signalNames : List String := [
  "SIGHUP", "SIGINT", "SIGQUIT", "SIGILL", "SIGTRAP", "SIGABRT", "SIGBUS", "SIGFPE", "SIGKILL",
  "SIGUSR1", "SIGSEGV", "SIGUSR2", "SIGPIPE", "SIGALRM", "SIGTERM", "SIGSTKFLT", "SIGCHLD",
  "SIGCONT", "SIGSTOP", "SIGTSTP", "SIGTTIN", "SIGTTOU", "SIGURG", "SIGXCPU", "SIGXFSZ",
  "SIGVTALRM", "SIGPROF", "SIGWINCH", "SIGIO", "SIGPWR", "SIGSYS"]

/-- The name of a signal in parentheses, if it has one. -/
def signalName (signal : Int) : String :=
  if signal ≤ 0 then ""
  else
    match signalNames[signal.toNat - 1]? with
    | some name => " (" ++ name ++ ")"
    | none => ""

/-- How a process ended, as text. -/
def describe : ExitStatus → String
  | .exited code => "exit status: " ++ toString code
  | .signalled signal => "signal: " ++ toString signal ++ signalName signal

end ExitStatus

inductive Request where
  /-- The time in milliseconds. -/
  | clock
  /-- Makes a directory and whatever is missing above it. -/
  | makeDirectories (path : Path)
  /-- Makes a directory of a fresh name that starts with `stem`, below `parent`
  or where temporary directories are made. -/
  | makeScoped (parent : Option Path) (stem : String)
  /-- Removes a directory with all it holds. -/
  | removeTree (path : Path)
  | readFile (path : Path)
  | writeFile (path : Path) (content : Bytes)
  /-- Runs a command, however long it takes. -/
  | run (command : Command)
  /-- Runs a command, and gives it up if it has not come to its end after so many
  seconds. -/
  | runWithin (command : Command) (secs : UInt64)
  | log (event : Log.Event)
  | collect (diagnostic : Diagnostic)
  /-- Writes text to the standard output. -/
  | print (text : String)

def Request.Answer : Request → Type
  | .clock => Nat
  | .makeDirectories _ => Except IoFault Unit
  | .makeScoped _ _ => Except IoFault Path
  | .removeTree _ => Unit
  | .readFile _ => Except IoFault Bytes
  | .writeFile _ _ => Except IoFault Unit
  | .run _ => Except IoFault CommandEnd
  | .runWithin _ _ => Except IoFault (Option CommandEnd)
  | .log _ => Unit
  | .collect _ => Unit
  | .print _ => Unit

/-- Work that needs a host: a result, or a request and what to do with every
possible answer. -/
inductive Action (α : Type) where
  | done (result : α)
  | ask (request : Request) (next : request.Answer → Action α)

namespace Action

def andThen {α β : Type} : Action α → (α → Action β) → Action β
  | .done result, next => next result
  | .ask request resume, next => .ask request (fun answer => (resume answer).andThen next)

instance : Monad Action where
  pure := .done
  bind := andThen

def request (request : Request) : Action request.Answer :=
  .ask request .done

def clock : Action Nat := request .clock

/-- Makes a directory and whatever is missing above it. -/
def makeDirectories (path : Path) : Action (Except IoFault Unit) :=
  request (.makeDirectories path)

/-- Makes a directory of a fresh name. -/
def makeScoped (parent : Option Path) (stem : String) : Action (Except IoFault Path) :=
  request (.makeScoped parent stem)

def removeTree (path : Path) : Action Unit := request (.removeTree path)

def readFile (path : Path) : Action (Except IoFault Bytes) := request (.readFile path)

def writeFile (path : Path) (content : Bytes) : Action (Except IoFault Unit) :=
  request (.writeFile path content)

def run (command : Command) : Action (Except IoFault CommandEnd) := request (.run command)

/-- Runs a command for a limited time; nothing is left of one that is given up. -/
def runWithin (command : Command) (secs : UInt64) : Action (Except IoFault (Option CommandEnd)) :=
  request (.runWithin command secs)

def log (event : Log.Event) : Action Unit := request (.log event)

def collect (diagnostic : Diagnostic) : Action Unit := request (.collect diagnostic)

def print (text : String) : Action Unit := request (.print text)

/-- The same request, with a logged event put inside a span. -/
def spanned (span : Log.Span) {α : Type} :
    (request : Request) → (request.Answer → Action α) → Action α
  | .log event, next => .ask (.log (event.within span)) next
  | request, next => .ask request next

/-- The same action, with every logged event put inside a span. -/
def within (span : Log.Span) {α : Type} : Action α → Action α
  | .done result => .done result
  | .ask request next => spanned span request (fun answer => (next answer).within span)

/-- Does something for every item of a list, in order. -/
def forEach {α : Type} (items : List α) (work : α → Action Unit) : Action Unit :=
  match items with
  | [] => .done ()
  | item :: items => (work item).andThen (fun _ => forEach items work)

end Action

/-- A host that keeps a state: how it answers every request. -/
structure Host (σ : Type) where
  answer : (request : Request) → σ → request.Answer × σ

def Action.runOn {α σ : Type} (host : Host σ) : Action α → σ → α × σ
  | .done result, state => (result, state)
  | .ask request next, state =>
      let (answer, state) := host.answer request state
      (next answer).runOn host state

end InterfaceAudit
