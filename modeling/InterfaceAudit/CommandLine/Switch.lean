import InterfaceAudit.Text.Blank

/-!
Contract: the switches of the command line.

Owns:
- every switch, with its names, its value and the variable that stands in for
  it;
- which switches exclude each other;
- the commands, and the help pages.

Does not own: how arguments are read.
-/

namespace InterfaceAudit.CommandLine

inductive Key where
  | verbose
  | json
  | help
  | version
  | manifest
  | subject
  | entryCommand
  | timeout
  | workRoot
  | keepWorkdir
  | noBundle
  | installCommand
  | subjectPath
  | subjectVersion
  | gem
  | reportJson
  | output
deriving DecidableEq, Repr

/-- What the value of a switch must be. -/
inductive ValueKind where
  | text
  /-- Any text but the empty one. -/
  | path
  /-- A whole number of 64 bits without a sign. -/
  | count
deriving DecidableEq, Repr

/-- A switch. One with a value has a placeholder for it. -/
structure Switch where
  key : Key
  name : String
  purpose : String
  letter : Option Char := none
  value : Option (String × ValueKind) := none
  repeatable : Bool := false
  required : Bool := false
  /-- The environment variable that is used if the switch is not given. -/
  variableName : Option String := none
deriving DecidableEq, Repr

namespace Switch

def shown (switch : Switch) : String :=
  "--" ++ switch.name ++
    match switch.value with
    | none => ""
    | some (placeholder, _) => " <" ++ placeholder ++ ">"

/-! ## The switches -/

def verbose : Switch where
  key := .verbose
  name := "verbose"
  purpose := "Enable verbose output"
  letter := some 'v'

def json : Switch where
  key := .json
  name := "json"
  purpose := "Emit JSON-formatted log lines"

def help : Switch where
  key := .help
  name := "help"
  purpose := "Print help"
  letter := some 'h'

def version : Switch where
  key := .version
  name := "version"
  purpose := "Print version"
  letter := some 'V'

def manifest : Switch where
  key := .manifest
  name := "manifest"
  purpose := "Assertion manifest (JSON)"
  letter := some 'm'
  value := some ("MANIFEST", .path)
  required := true

def subject : Switch where
  key := .subject
  name := "subject"
  purpose := "Override the manifest's subject name"
  value := some ("SUBJECT", .text)

def entryCommand : Switch where
  key := .entryCommand
  name := "entry-command"
  purpose := "Command that runs the probe; the probe file name is appended"
  value := some ("ENTRY_COMMAND", .text)
  variableName := some "SURFACE_PROBE_ENTRY"

def timeout : Switch where
  key := .timeout
  name := "timeout"
  purpose := "Probe timeout in seconds (0 disables it)"
  value := some ("TIMEOUT", .count)
  variableName := some "SURFACE_PROBE_TIMEOUT"

def workRoot : Switch where
  key := .workRoot
  name := "work-root"
  purpose := "Parent directory for the scoped working directory"
  value := some ("WORK_ROOT", .path)

def keepWorkdir : Switch where
  key := .keepWorkdir
  name := "keep-workdir"
  purpose := "Keep the working directory after the run"

def noBundle : Switch where
  key := .noBundle
  name := "no-bundle"
  purpose := "Skip the Gemfile and `bundle install`; the environment must already be usable"

def installCommand : Switch where
  key := .installCommand
  name := "install-command"
  purpose := "Command that installs the generated Gemfile"
  value := some ("INSTALL_COMMAND", .text)
  variableName := some "SURFACE_PROBE_INSTALL"

def subjectPath : Switch where
  key := .subjectPath
  name := "subject-path"
  purpose := "Use a local checkout of the subject gem"
  value := some ("SUBJECT_PATH", .path)

def subjectVersion : Switch where
  key := .subjectVersion
  name := "subject-version"
  purpose := "Version constraint for the subject gem"
  value := some ("SUBJECT_VERSION", .text)

def gem : Switch where
  key := .gem
  name := "gem"
  purpose := "Additional gem to install alongside the subject (repeatable)"
  value := some ("GEMS", .text)
  repeatable := true

def reportJson : Switch where
  key := .reportJson
  name := "report-json"
  purpose := "Print the report as JSON on stdout"

def output : Switch where
  key := .output
  name := "output"
  purpose := "Write to a file instead of stdout"
  letter := some 'o'
  value := some ("OUTPUT", .path)

end Switch

def excludedBy : Key → List Key
  | .noBundle => [.installCommand, .subjectPath, .subjectVersion, .gem]
  | _ => []

def excludes (x y : Key) : Bool :=
  (excludedBy x).contains y || (excludedBy y).contains x

/-! ## The commands -/

inductive Verb where
  | validate
  | render
deriving DecidableEq, Repr

namespace Verb

def all : List Verb := [.validate, .render]

def name : Verb → String
  | .validate => "validate"
  | .render => "render"

def about : Verb → String
  | .validate => "Run every assertion in a manifest against the subject library"
  | .render => "Print the rendered probe for a manifest"

def switches : Verb → List Switch
  | .validate => [
      .manifest, .subject, .entryCommand, .timeout, .workRoot, .keepWorkdir, .noBundle,
      .installCommand, .subjectPath, .subjectVersion, .gem, .reportJson, .verbose, .json, .help]
  | .render => [.manifest, .output, .verbose, .json, .help]

end Verb

def programName : String := "surface-probe"

def programVersion : String := "0.1.0"

def helpName : String := "help"

def topSwitches : List Switch := [.verbose, .json, .help, .version]

def commandNames : List String := Verb.all.map Verb.name ++ [helpName]

/-! ## Pages -/

/-- Lines of two columns; the first is as wide as its widest entry. -/
def columns (rows : List (String × String)) : List String :=
  let width := (rows.map (fun row => row.1.length)).foldl max 0
  rows.map fun (left, right) =>
    "  " ++ left ++ String.ofList (List.replicate (width - left.length + 2) ' ') ++ right

def Switch.listed (switch : Switch) : String :=
  match switch.letter with
  | some letter => "-" ++ String.singleton letter ++ ", " ++ switch.shown
  | none => "    " ++ switch.shown

def switchLines (switches : List Switch) : List String :=
  "Options:" :: columns (switches.map (fun switch => (switch.listed, switch.purpose)))

def programPage : List String :=
  ["Validate declared constants and methods against a live runtime",
    "",
    "Usage: " ++ programName ++ " [OPTIONS] <COMMAND>",
    "",
    "Commands:"] ++
  columns (Verb.all.map (fun verb => (verb.name, verb.about)) ++
    [(helpName, "Print this message or the help of the given subcommand(s)")]) ++
  "" :: switchLines topSwitches

def Verb.page (verb : Verb) : List String :=
  let required := (verb.switches.filter Switch.required).map Switch.shown
  [verb.about,
    "",
    Text.joinWith " " (["Usage: " ++ programName, verb.name, "[OPTIONS]"] ++ required),
    ""] ++ switchLines verb.switches

end InterfaceAudit.CommandLine
