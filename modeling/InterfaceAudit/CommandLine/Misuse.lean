import InterfaceAudit.CommandLine.Switch
import InterfaceAudit.Text.Terminal

/-!
Contract: arguments that cannot be used.

Owns: every way in which arguments are wrong, and the sentence about it.

Does not own: which of several is reported.
-/

namespace InterfaceAudit.CommandLine

/-- A way in which arguments are wrong. -/
inductive Misuse where
  | unknownArgument (argument : String)
  | unknownCommand (word : String)
  | missingValue (switch : Switch)
  | unexpectedValue (switch : Switch) (value : String)
  | badValue (switch : Switch) (value reason : String)
  | repeated (switch : Switch)
  | excluded (switch : Switch) (others : List Switch)
  | missingSwitches (switches : List Switch)
  | missingCommand
deriving DecidableEq, Repr

namespace Misuse

def quoted (text : String) : String :=
  "'" ++ text ++ "'"

/-- A given argument or value between single quotes, safe to be shown. -/
def quotedGiven (text : String) : String :=
  quoted (Terminal.reduce text)

def listed (switches : List Switch) : String :=
  String.join (switches.map (fun switch => "\n  " ++ switch.shown))

def message : Misuse → String
  | .unknownArgument argument => "unexpected argument " ++ quotedGiven argument ++ " found"
  | .unknownCommand word => "unrecognized subcommand " ++ quotedGiven word
  | .missingValue switch =>
      "a value is required for " ++ quoted switch.shown ++ " but none was supplied"
  | .unexpectedValue switch value =>
      "unexpected value " ++ quotedGiven value ++ " for " ++ quoted switch.shown ++
        " found; no more were expected"
  | .badValue switch value reason =>
      "invalid value " ++ quotedGiven value ++ " for " ++ quoted switch.shown ++ ": " ++ reason
  | .repeated switch =>
      "the argument " ++ quoted switch.shown ++ " cannot be used multiple times"
  | .excluded switch [other] =>
      "the argument " ++ quoted switch.shown ++ " cannot be used with " ++ quoted other.shown
  | .excluded switch others =>
      "the argument " ++ quoted switch.shown ++ " cannot be used with:" ++ listed others
  | .missingSwitches switches =>
      "the following required arguments were not provided:" ++ listed switches
  | .missingCommand =>
      quoted programName ++ " requires a subcommand but one was not provided"

end Misuse

end InterfaceAudit.CommandLine
