import InterfaceAudit.Host.Action

/-!
Contract: where the diagnostics of a failed run go.

Owns: the sink that logs them and the sink that collects them.

Does not own: filters on what is logged.
-/

namespace InterfaceAudit

abbrev Sink := Diagnostic → Action Unit

namespace Sink

/-- Passes on the text of a diagnostic, one way for notes and one for errors. -/
def routing (note error : String → Action Unit) : Sink := fun diagnostic =>
  match diagnostic.severity with
  | .note => note diagnostic.text
  | .error => error diagnostic.text

def event (level : Log.Level) (text : String) : Log.Event where
  level := level
  target := Log.diagnosticTarget
  message := text

/-- Logs every line, notes as information and errors as errors. -/
def logging : Sink :=
  routing (fun text => .log (event .info text)) (fun text => .log (event .error text))

def collecting : Sink :=
  routing (fun text => .collect (.note text)) (fun text => .collect (.error text))

/-- A line that is collected by its severity is the diagnostic again. -/
theorem collecting_eq_collect (diagnostic : Diagnostic) :
    collecting diagnostic = .collect diagnostic := by
  obtain ⟨severity, text⟩ := diagnostic
  cases severity <;> rfl

/-- Passes on a list of diagnostics, in order. -/
def emitAll (sink : Sink) (diagnostics : List Diagnostic) : Action Unit :=
  Action.forEach diagnostics sink

end Sink

end InterfaceAudit
