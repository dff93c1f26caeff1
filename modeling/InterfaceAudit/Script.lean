import InterfaceAudit.Assertion
import InterfaceAudit.Digest.Sha256
import InterfaceAudit.Text.Literal

/-!
Contract: the script that runs a list of assertions inside a live runtime.

Owns:
- the preamble, which defines the state object and the two checking routines;
- the text of every statement, and of the whole script;
- the digest that identifies a script.

Does not own: running the script, or reading what it prints.
-/

namespace InterfaceAudit

namespace Script

/-- The lines that every script starts with: one output stream, the state that
records a failure, the checking routines and the fresh state. -/
def preambleLines : List String := [
  "# frozen_string_literal: true",
  "",
  "STDOUT.reopen(STDERR)",
  "STDERR.sync = true",
  "",
  "class SurfaceProbeState",
  "  def initialize",
  "    @success = true",
  "  end",
  "",
  "  def fail!",
  "    @success = false",
  "  end",
  "",
  "  def success?",
  "    @success",
  "  end",
  "end",
  "",
  "def __probe_get_const(state, const_name, loc)",
  "  Kernel.const_get(const_name)",
  "rescue NameError, LoadError",
  "  $stderr.puts(\"Missing runtime constant #\x7bconst_name\x7d (defined at #\x7bloc\x7d)\")",
  "  state.fail!",
  "  nil",
  "end",
  "",
  "def __probe_dispatch_fallback?(const)",
  "  const.instance_method(:method_missing).owner != BasicObject",
  "rescue StandardError",
  "  false",
  "end",
  "",
  "def __probe_get_method(state, recv_name, method_name, loc, singleton:, allow_missing:)",
  "  const = __probe_get_const(state, recv_name, loc)",
  "  return unless const",
  "",
  "  if singleton",
  "    const.method(method_name)",
  "  else",
  "    const.instance_method(method_name)",
  "  end",
  "rescue NameError",
  "  separator = singleton ? \".\" : \"#\"",
  "  fallback = !singleton && __probe_dispatch_fallback?(const)",
  "  return if fallback && allow_missing",
  "",
  "  $stderr.puts(\"Missing runtime method #\x7brecv_name\x7d#\x7bseparator\x7d#\x7bmethod_name\x7d (defined at #\x7bloc\x7d)\")",
  "  if fallback",
  "    $stderr.puts(\"Note: #\x7bmethod_name\x7d could be delegated via dynamic dispatch but is not annotated to allow it.\")",
  "  end",
  "  state.fail!",
  "  nil",
  "end",
  "",
  "state = SurfaceProbeState.new"]

def line (text : String) : List Char :=
  text.toList ++ ['\n']

def preamble : List Char :=
  preambleLines.flatMap line

/-- What a script prints, and a replay reports, when a unit does not load. -/
def loadFailure (name : String) : String :=
  "Can't require " ++ name

/-- The literal of a string, as characters of the script. -/
def literal (text : String) : List Char :=
  Literal.quoteChars text.toList

/-- The guarded statement that loads a unit and records a failure. -/
def requireBlock (name : String) : List Char :=
  line "begin" ++
  ("  require ".toList ++ literal name ++ ['\n']) ++
  line "rescue ScriptError, StandardError" ++
  ("  $stderr.puts(".toList ++ literal (loadFailure name) ++ [')', '\n']) ++
  line "  state.fail!" ++
  line "end"

def flag (value : Bool) : List Char :=
  if value then "true".toList else "false".toList

/-- Arguments separated by a comma and a space. -/
def arguments (texts : List (List Char)) : List Char :=
  [',', ' '].intercalate texts

def checkCall : Check → List Char
  | .constant check =>
      "__probe_get_const(".toList ++
        arguments ["state".toList, literal check.name, literal check.location] ++
        [')', '\n']
  | .method check =>
      "__probe_get_method(".toList ++
        arguments [
          "state".toList,
          literal check.receiver,
          literal check.method,
          literal check.location,
          "singleton: ".toList ++ flag check.singleton,
          "allow_missing: ".toList ++ flag check.allowMissing] ++
        [')', '\n']

/-- The statement that ends the script with a failure if one was recorded. -/
def checkpoint : List Char :=
  '\n' :: line "exit(1) unless state.success?"

/-- What follows the preamble: load everything, stop on failure, check
everything, and end with the verdict. -/
def body (assertions : List Assertion) : List Char :=
  (requires assertions).flatMap requireBlock ++
    checkpoint ++ ['\n'] ++
    (checks assertions).flatMap checkCall ++
    checkpoint

end Script

structure Probe where
  assertions : List Assertion
deriving DecidableEq, Repr

namespace Probe

def chars (probe : Probe) : List Char :=
  Script.preamble ++ Script.body probe.assertions

def text (probe : Probe) : String :=
  String.ofList probe.chars

/-- The script as it is stored. -/
def bytes (probe : Probe) : Bytes :=
  Utf8.encode probe.chars

/-- The SHA-256 digest of the stored script, in lower-case hexadecimal. -/
def digest (probe : Probe) : String :=
  String.ofList (Sha256.hexDigest probe.bytes)

def shortDigest (probe : Probe) : String :=
  String.ofList ((Sha256.hexDigest probe.bytes).take 12)

end Probe

end InterfaceAudit
