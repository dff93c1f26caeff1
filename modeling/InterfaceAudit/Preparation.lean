import InterfaceAudit.Gemfile
import InterfaceAudit.Host.Attempt

/-!
Contract: making a directory ready for a probe.

Owns:
- the two outcomes of preparation, ready or failed with diagnostics;
- preparation that does nothing;
- preparation that writes a dependency file and installs what it lists.

Does not own: the probe.
-/

namespace InterfaceAudit

/-- Whether a probe can be run, or why not. -/
inductive Readiness where
  | ready
  | failed (diagnostics : List Diagnostic)
deriving DecidableEq, Repr

/-- A way to make a directory ready for a probe of a subject. -/
abbrev Preparer := String → Path → Attempt Readiness

/-- Takes every directory as ready. -/
def Preparer.none : Preparer := fun _ _ => return .ready

/-- What is installed before a probe, and how. -/
structure Bundle where
  source : String := "https://rubygems.org"
  subjectVersion : Option String := none
  subjectPath : Option Path := none
  gems : List Gem := []
  installCommand : List String := ["bundle", "install"]
  timeoutSecs : UInt64 := 600
deriving DecidableEq, Repr

/-- A choice about a bundle. Gems add up; any other choice replaces an earlier
one of its kind. -/
inductive BundleChoice where
  | source (source : String)
  | subjectVersion (version : String)
  | subjectPath (path : Path)
  | gem (gem : Gem)
  | installCommand (line : List String)
  | timeoutSecs (secs : UInt64)
deriving DecidableEq, Repr

namespace Bundle

def choose (bundle : Bundle) : BundleChoice → Bundle
  | .source source => { bundle with source }
  | .subjectVersion version => { bundle with subjectVersion := some version }
  | .subjectPath path => { bundle with subjectPath := some path }
  | .gem gem => { bundle with gems := bundle.gems ++ [gem] }
  | .installCommand installCommand => { bundle with installCommand }
  | .timeoutSecs timeoutSecs => { bundle with timeoutSecs }

/-- The bundle of a list of choices, made in order. -/
def ofChoices (choices : List BundleChoice) : Bundle :=
  choices.foldl choose {}

/-- The dependency file for a subject: the subject first, then the gems. -/
def gemfile (bundle : Bundle) (subject : String) : Gemfile where
  source := bundle.source
  gems :=
    { name := subject, version := bundle.subjectVersion, path := bundle.subjectPath } ::
      bundle.gems

def fileName : String := "Gemfile"

def event (level : Log.Level) (message subject : String) (fields : Log.Fields := []) :
    Log.Event where
  level := level
  target := "probe_harness::environment"
  message := message
  fields := ("subject", .text subject) :: fields

/-- The diagnostics of an installation that failed. One that printed nothing is
explained by its exit. -/
def diagnose (line : List String) (status : ExitStatus) (captured : Captured) :
    List Diagnostic :=
  match Diagnostic.classify captured.text with
  | [] => [.error ("`" ++ Text.joinWith " " line ++ "` exited with " ++ status.describe)]
  | diagnostics => diagnostics

/-- What an installation that ended amounts to. -/
def readinessOf
    (bundle : Bundle)
    (subject : String)
    (status : ExitStatus)
    (captured : Captured) :
    Attempt Readiness :=
  if status.isSuccess then do
    Attempt.log (event .debug "Bundle installed" subject)
    return .ready
  else do
    let diagnostics := diagnose bundle.installCommand status captured
    Attempt.log (event .warn "Bundle install failed" subject [("lines", .number diagnostics.length)])
    return .failed diagnostics

/-- Writes the dependency file and runs the install command. -/
def prepare (bundle : Bundle) : Preparer := fun subject directory =>
  match bundle.installCommand with
  | [] => throw .emptyCommand
  | program :: arguments => do
      let file := directory.child fileName
      Attempt.writeFile file (Utf8.encode (bundle.gemfile subject).chars)
      Attempt.log (event .info "Installing bundle" subject)
      let (status, captured) ← Command.finish {
        program
        arguments
        directory
        environment := [("BUNDLE_GEMFILE", file)] } bundle.timeoutSecs
      bundle.readinessOf subject status captured

end Bundle

end InterfaceAudit
