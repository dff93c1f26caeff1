import InterfaceAudit.Machine.Kernel.Schedule
import InterfaceAudit.Machine.Shell.Run
import InterfaceAudit.Machine.Tool.Awk.Run
import InterfaceAudit.Machine.Tool.Blocks
import InterfaceAudit.Machine.Tool.Codes
import InterfaceAudit.Machine.Tool.Files
import InterfaceAudit.Machine.Tool.Find
import InterfaceAudit.Machine.Tool.Grep
import InterfaceAudit.Machine.Tool.Identity
import InterfaceAudit.Machine.Tool.Lines
import InterfaceAudit.Machine.Tool.Numbers
import InterfaceAudit.Machine.Tool.Sed.Run
import InterfaceAudit.Machine.Tool.Transfer

/-!
Contract: the programs of the machine by name.

Owns:
- the table of all programs;
- the process that a program starts as.

Does not own: where programs stand in the file system.
-/

namespace InterfaceAudit.Tool

/-- A program that does nothing but end. -/
def ending (status : Nat) : Program := fun _ => return status

def catalogue : List (String × Program) := [
  ("true", ending 0),
  ("false", ending 1),
  ("sync", ending 0),
  ("chown", ending 0),
  ("chgrp", ending 0),
  ("sleep", sleep),
  ("env", env),
  ("printenv", printenv),
  ("nice", nice),
  ("nohup", nohup),
  ("setsid", setsid),
  ("stdbuf", stdbuf),
  ("timeout", timeout),
  ("xargs", xargs),
  ("kill", killProgram),
  ("which", which),
  ("test", test),
  ("[", test),
  ("echo", echo),
  ("printf", printf),
  ("cat", cat),
  ("tac", tac),
  ("rev", rev),
  ("head", head),
  ("tail", tail),
  ("wc", wc),
  ("tee", tee),
  ("yes", yes),
  ("nl", nl),
  ("fold", fold),
  ("expand", expand),
  ("paste", paste),
  ("tr", tr),
  ("cut", cut),
  ("uniq", uniq),
  ("sort", sort),
  ("comm", comm),
  ("join", join),
  ("cmp", cmp),
  ("diff", diff),
  ("od", od),
  ("base64", base64),
  ("md5sum", digestSum md5),
  ("sha1sum", digestSum sha1),
  ("sha256sum", digestSum fun text => Sha256.hexDigest (Octets.toBytes text)),
  ("cksum", cksum),
  ("grep", grep),
  ("egrep", grep),
  ("fgrep", grep),
  ("sed", sed),
  ("cp", cp),
  ("mv", mv),
  ("ln", ln),
  ("link", link),
  ("install", install),
  ("rm", rm),
  ("unlink", unlink),
  ("seq", seq),
  ("expr", expr),
  ("factor", factor),
  ("dd", dd),
  ("find", find),
  ("awk", awk),
  ("mawk", awk),
  ("ls", ls),
  ("dir", ls),
  ("stat", stat),
  ("touch", touch),
  ("mkdir", mkdir),
  ("rmdir", rmdir),
  ("mkfifo", mkfifo),
  ("mktemp", mktemp),
  ("truncate", truncate),
  ("chmod", chmod),
  ("readlink", readlink),
  ("realpath", realpath),
  ("basename", basename),
  ("dirname", dirname),
  ("pwd", pwd),
  ("id", identify),
  ("whoami", telling "root"),
  ("groups", telling "root"),
  ("hostname", telling "localhost"),
  ("arch", telling "x86_64"),
  ("nproc", telling "1"),
  ("uname", describeMachine),
  ("logname", fun call => call.fail "no login name"),
  ("tty", tty)]

/-- The names of the command interpreter. Under the last one it is plain in its
output. -/
def interpreters : List String := ["sh", "dash", "bash"]

def programNames : List String := interpreters ++ catalogue.map Prod.fst

/-- The process that a program starts as. The first argument is the name by which
it is called. -/
def load : Loader := fun name arguments environment =>
  let call : Call := { name := arguments.headD [], arguments := arguments.drop 1, environment }
  if interpreters.contains name then Shell.interpret (name == "bash") call (fun _ => .exit 0)
  else (((catalogue.lookup name).getD (ending 127)).process call)

end InterfaceAudit.Tool
