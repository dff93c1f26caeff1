import InterfaceAudit.Machine.Tool

/-!
Contract: programs that tell who and where the caller is.

Owns: id, whoami, groups, logname, tty, hostname, uname, arch and nproc.

Does not own: users. There is only one, who may do anything.
-/

namespace InterfaceAudit.Tool

/-- Prints a text that does not depend on the call. -/
def telling (text : String) : Program := fun call =>
  call.withOptions {} fun options =>
    match options.operands with
    | [] => do
        printLine (Octets.ofString text)
        return 0
    | operand :: _ => call.extraOperand operand

def identify : Program := fun call =>
  call.withOptions { flags := "ugGnraz" } fun options => do
    match options.operands with
    | user :: _ =>
        if user != Octets.ofString "root" then
          return ← call.fail ("'" ++ user.shown ++ "': no such user")
    | [] => pure ()
    let isNamed := options.has 'n'
    if ['u', 'g', 'G'].any options.has then printLine (Octets.ofString (if isNamed then "root" else "0"))
    else if isNamed then return ← call.fail "cannot print only names or real IDs in default format"
    else printLine (Octets.ofString "uid=0(root) gid=0(root) groups=0(root)")
    return 0

def describeMachine : Program := fun call =>
  call.withOptions {
      flags := "asnrvmpio"
      long := [("all", 'a'), ("kernel-name", 's'), ("nodename", 'n'), ("kernel-release", 'r'),
        ("machine", 'm'), ("operating-system", 'o')] } fun options => do
    match options.operands with
    | operand :: _ => call.extraOperand operand
    | [] => do
        let all := options.has 'a'
        let parts : List (Char × String) := [('s', "Linux"), ('n', "localhost"), ('r', "6.1.0"),
          ('v', "#1 SMP"), ('m', "x86_64"), ('o', "GNU/Linux")]
        let chosen := parts.filter fun part =>
          all || options.has part.1 || (options.given.isEmpty && part.1 == 's')
        printLine (Octets.ofString (" ".intercalate (chosen.map Prod.snd)))
        return 0

/-- Prints the name of the terminal, of which there is none. -/
def tty : Program := fun call =>
  call.withOptions { flags := "s" } fun options => do
    if !options.has 's' then printLine (Octets.ofString "not a tty")
    return 1

end InterfaceAudit.Tool
