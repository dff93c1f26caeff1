import InterfaceAudit.Machine.Tool

/-!
Contract: paths as texts, and modes.

Owns:
- the parts of a path;
- paths without links and dots;
- modes as they are written and changed.

Does not own: the file system.
-/

namespace InterfaceAudit.Tool

/-! ## Parts of paths -/

def lastName (path : Octets) : Octets :=
  let trimmed := Octets.dropRightWhile (· == '/') path
  if trimmed.isEmpty then path.take 1 else (trimmed.reverse.takeWhile (· != '/')).reverse

def pathAbove (path : Octets) : Octets :=
  let trimmed := path.reverse.dropWhile (· == '/')
  let above := (trimmed.dropWhile (· != '/')).dropWhile (· == '/')
  if !above.isEmpty then above.reverse
  else if path.head? == some '/' then ['/']
  else ['.']

def below (path name : Octets) : Octets :=
  if path.getLast? == some '/' then path ++ name else path ++ '/' :: name

def dropEnding (ending name : Octets) : Octets :=
  if ending.reverse.isPrefixOf name.reverse && ending.length < name.length then
    name.take (name.length - ending.length)
  else name

/-- A path that leads from a directory to another path. -/
def pathFrom (folder path : Octets) : Octets :=
  let rec climb : List Octets → List Octets → List Octets
    | x :: xs, y :: ys => if x == y then climb xs ys else (x :: xs).map (fun _ => ['.', '.']) ++ y :: ys
    | xs, ys => xs.map (fun _ => ['.', '.']) ++ ys
  let names := climb (Disk.pathNames folder) (Disk.pathNames path)
  if names.isEmpty then ['.'] else Octets.join ['/'] names

/-- A path in quotes, as complaints show it. -/
def named (path : Octets) : String := "'" ++ path.shown ++ "'"

/-- Goes along names from a path that holds neither links nor dots. With `lenient`
the last name need not be there, with `loose` none need be. -/
def solidFrom (loose lenient : Bool) : Nat → Octets → List Octets → Task (Except SystemError Octets)
  | 0, _, _ => return .error .tooManyLinks
  | _, here, [] => return .ok (if here.isEmpty then ['/'] else here)
  | fuel + 1, here, name :: names => do
      if name.isEmpty || name == ['.'] then solidFrom loose lenient fuel here names
      else if name == ['.', '.'] then
        solidFrom loose lenient fuel
          ((here.reverse.dropWhile (· != '/')).drop 1).reverse names
      else
        let path := here ++ '/' :: name
        match ← Task.linkStatus path with
        | .error cause =>
            if loose || (cause == .notFound && lenient && names.all List.isEmpty) then
              solidFrom loose lenient fuel path names
            else return .error cause
        | .ok status =>
            if status.kind == .link then
              match ← (Task.ask (.readLink path) : Task (Except SystemError Octets)) with
              | .error cause => return .error cause
              | .ok target =>
                  solidFrom loose lenient fuel (if target.head? == some '/' then [] else here)
                    (Octets.splitAt '/' target ++ names)
            else if status.kind != .directory && !names.isEmpty then
              if loose then solidFrom loose lenient fuel path names
              else return .error .notADirectory
            else solidFrom loose lenient fuel path names

/-- A path from the root, without links and dots. -/
def solidPath (loose lenient : Bool) (path : Octets) : Task (Except SystemError Octets) := do
  if path.isEmpty then return .error .notFound
  let start : Except SystemError Octets ←
    if path.head? == some '/' then pure (.ok []) else Task.directory
  match start with
  | .error cause => return .error cause
  | .ok start =>
      solidFrom loose lenient 400 (if start == ['/'] then [] else start) (Octets.splitAt '/' path)

/-! ## Modes -/

def modeLetters (bits : Nat) : Octets :=
  [if bits &&& 4 != 0 then 'r' else '-', if bits &&& 2 != 0 then 'w' else '-',
    if bits &&& 1 != 0 then 'x' else '-']

/-- A mode as letters, with the kind of file in front. -/
def modeText (kind : FileKind) (mode : Nat) : Octets :=
  let mark :=
    match kind with
    | .regular => '-'
    | .directory => 'd'
    | .link => 'l'
    | .characters => 'c'
    | .fifo => 'p'
  mark :: modeLetters (mode / 64 % 8) ++ modeLetters (mode / 8 % 8) ++ modeLetters (mode % 8)

/-- A part of a mode that is written with letters: whom it is for as bits, the
sign, and the letters. -/
structure ModeStep where
  whom : Nat
  isNamed : Bool
  sign : Char
  letters : Octets

def modeSteps? (text : Octets) : Option (List ModeStep) :=
  (Octets.splitAt ',' text).foldr
    (fun clause steps? => do
      let steps ← steps?
      let whom := clause.takeWhile (['u', 'g', 'o', 'a'].contains ·)
      let bits := whom.foldl
        (fun bits c => bits ||| (match c with | 'u' => 0o700 | 'g' => 0o070 | 'o' => 0o007 | _ => 0o777)) 0
      let rec actions : Nat → Octets → Option (List ModeStep)
        | 0, _ => none
        | _, [] => some []
        | fuel + 1, sign :: rest => do
            if !(['+', '-', '='].contains sign) then none
            let letters := rest.takeWhile (['r', 'w', 'x', 'X', 's', 't', 'u', 'g', 'o'].contains ·)
            let others ← actions fuel (rest.drop letters.length)
            return {
              whom := if whom.isEmpty then 0o777 else bits
              isNamed := !whom.isEmpty
              sign, letters } :: others
      let own := clause.drop whom.length
      if own.isEmpty then none else return (← actions (own.length + 1) own) ++ steps)
    (some [])

def ModeStep.apply (step : ModeStep) (isDirectory : Bool) (mask mode : Nat) : Nat :=
  let spread (bits : Nat) : Nat := bits * 0o111
  let bits := step.letters.foldl
    (fun bits c =>
      bits ||| (match c with
        | 'r' => spread 4
        | 'w' => spread 2
        | 'x' => spread 1
        | 'X' => if isDirectory || mode &&& 0o111 != 0 then spread 1 else 0
        | 'u' => spread (mode / 64 % 8)
        | 'g' => spread (mode / 8 % 8)
        | 'o' => spread (mode % 8)
        | _ => 0))
    0
  let allowed := if step.isNamed then 0o777 else 0o777 ^^^ (mask &&& 0o777)
  let bits := bits &&& step.whom &&& allowed
  match step.sign with
  | '+' => mode ||| bits
  | '-' => mode &&& (0o7777 ^^^ bits)
  | _ => (mode &&& (0o7777 ^^^ step.whom)) ||| bits

/-- The change of modes that a text stands for: octal digits or letters. -/
def modeChange? (text : Octets) : Option (Bool → Nat → Nat → Nat) :=
  if !text.isEmpty && text.all (fun c => '0' ≤ c && c ≤ '7') then
    let mode := Octets.valueOf 8 text
    if mode ≤ 0o7777 then some fun _ _ _ => mode else none
  else
    (modeSteps? text).map fun steps isDirectory mask mode =>
      steps.foldl (fun mode step => step.apply isDirectory mask mode) mode

end InterfaceAudit.Tool
