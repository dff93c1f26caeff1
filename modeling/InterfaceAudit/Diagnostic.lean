import InterfaceAudit.Outcome
import InterfaceAudit.Text.Blank

/-!
Contract: diagnostics, and how printed output becomes a list of them.

Owns:
- severities and diagnostics;
- classification of output, line by line;
- the verdict on a finished probe.

Does not own: where diagnostics are sent.
-/

namespace InterfaceAudit

/-- How grave a diagnostic is. -/
inductive Severity where
  | note
  | error
deriving DecidableEq, Repr, Inhabited

/-- One line of a failed run, with its severity. -/
structure Diagnostic where
  severity : Severity
  text : String
deriving DecidableEq, Repr, Inhabited

namespace Diagnostic

abbrev note (text : String) : Diagnostic := ⟨.note, text⟩

abbrev error (text : String) : Diagnostic := ⟨.error, text⟩

def isError (diagnostic : Diagnostic) : Bool :=
  diagnostic.severity == .error

def errorCount (diagnostics : List Diagnostic) : Nat :=
  (diagnostics.filter isError).length

def noteCount (diagnostics : List Diagnostic) : Nat :=
  diagnostics.length - errorCount diagnostics

/-- What an informational line begins with. -/
def noteMark : List Char :=
  ['N', 'o', 't', 'e', ':', ' ']

def endsLine (c : Char) : Bool :=
  c == '\n' || c == '\r'

/-- A printed line without its trailing blanks, as a diagnostic. -/
def ofLine (line : List Char) : Diagnostic where
  severity := if noteMark.isPrefixOf line then .note else .error
  text := String.ofList line

/-- Printed characters with every line break of two characters written as one. What
this puts side by side is not looked at again. -/
def unifyBreaks : List Char → List Char
  | '\r' :: '\n' :: output => '\n' :: unifyBreaks output
  | c :: output => c :: unifyBreaks output
  | [] => []

/-- The diagnostics of printed characters, with blank lines dropped. -/
def classifyChars (output : List Char) : List Diagnostic :=
  (((Text.splitFields endsLine (unifyBreaks output)).map Text.trimEnd).filter
    (fun line => !line.isEmpty)).map ofLine

/-- The diagnostics of printed output, one for each line that is not blank. -/
def classify (output : String) : List Diagnostic :=
  classifyChars output.toList

end Diagnostic

/-- Whether a probe passed, and what it reported if it did not. -/
structure Verdict where
  passed : Bool
  diagnostics : List Diagnostic
deriving DecidableEq, Repr

/-- A probe that succeeded passes, whatever it printed; any other fails with
the diagnostics of its output. -/
def Outcome.verdict (outcome : Outcome) : Verdict :=
  if outcome.succeeded then ⟨true, []⟩ else ⟨false, Diagnostic.classify outcome.output⟩

end InterfaceAudit
