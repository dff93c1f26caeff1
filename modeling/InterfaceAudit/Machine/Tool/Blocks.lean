import InterfaceAudit.Machine.Tool.Text

/-!
Contract: copying block by block.

Owns: dd, with its operands, conversions and report.

Does not own: other ways of copying.
-/

namespace InterfaceAudit.Tool

structure BlockCopy where
  source : Option Octets := none
  target : Option Octets := none
  inputSize : Nat := 512
  outputSize : Nat := 512
  count : Option Nat := none
  skipped : Nat := 0
  passed : Nat := 0
  conversions : List Octets := []
  report : Octets := []

/-- Why an operand is refused, and whether help is pointed at. -/
structure BlockFlaw where
  text : String
  isMisuse : Bool

/-- A count made of factors with an x between them. -/
def productOf? (text : Octets) : Option Nat :=
  (Octets.splitAt 'x' text).foldl
    (fun product part => do
      let digits := part.takeWhile Char.isDigit
      let factor ← match part.drop digits.length with
        | ['c'] => some 1
        | ['w'] => some 2
        | letters => multipliers.lookup (String.ofList letters)
      return (← product) * (← Octets.natOf? digits) * factor)
    (some 1)

def conversionNames : List String :=
  ["ucase", "lcase", "notrunc", "sync", "noerror", "fsync", "fdatasync", "swab", "excl", "nocreat", "sparse"]

def BlockCopy.read : List Octets → BlockCopy → Except BlockFlaw BlockCopy
  | [], copy => .ok copy
  | operand :: operands, copy => do
      let name := String.ofList (operand.takeWhile (· != '='))
      let value : Octets := operand.drop (name.length + 1)
      let refused : Except BlockFlaw BlockCopy :=
        .error ⟨"unrecognized operand '" ++ operand.shown ++ "'", true⟩
      let number (isSize : Bool) (use : Nat → BlockCopy) : Except BlockFlaw BlockCopy :=
        match productOf? value with
        | some number =>
            if isSize && number == 0 then .error ⟨"invalid number: '" ++ value.shown ++ "'", false⟩
            else .ok (use number)
        | none => .error ⟨"invalid number: '" ++ value.shown ++ "'", false⟩
      if !operand.contains '=' then refused
      else
        let next ← match name with
          | "if" => .ok { copy with source := some value }
          | "of" => .ok { copy with target := some value }
          | "bs" => number true fun size => { copy with inputSize := size, outputSize := size }
          | "ibs" => number true fun size => { copy with inputSize := size }
          | "obs" => number true fun size => { copy with outputSize := size }
          | "count" => number false fun count => { copy with count := some count }
          | "skip" | "iseek" => number false fun count => { copy with skipped := count }
          | "seek" | "oseek" => number false fun count => { copy with passed := count }
          | "conv" =>
              let names : List Octets := Octets.splitAt ',' value
              match names.find? (fun name => !conversionNames.contains (String.ofList name)) with
              | some name => .error ⟨"invalid conversion: '" ++ Octets.shown name ++ "'", true⟩
              | none => .ok { copy with conversions := copy.conversions ++ names }
          | "status" =>
              if ["none", "noxfer", "progress"].contains (String.ofList value) then
                .ok { copy with report := value }
              else .error ⟨"invalid status level: '" ++ value.shown ++ "'", true⟩
          | "iflag" | "oflag" | "cbs" => .ok copy
          | _ => refused
        BlockCopy.read operands next

/-- Whole and partial blocks, and bytes. -/
structure BlockTally where
  whole : Nat := 0
  partly : Nat := 0
  bytes : Nat := 0

def BlockTally.add (tally : BlockTally) (size length : Nat) : BlockTally where
  whole := if length == size then tally.whole + 1 else tally.whole
  partly := if length == size then tally.partly else tally.partly + 1
  bytes := tally.bytes + length

def copyBlocks (copy : BlockCopy) (input output : Nat) :
    Nat → Nat → BlockTally → Tool (BlockTally × Option SystemError)
  | 0, _, tally => return (tally, none)
  | fuel + 1, done, tally => do
      if copy.count.any (· ≤ done) then return (tally, none)
      else
        let block ← Task.read input copy.inputSize
        match block with
        | .error cause => return (tally, some cause)
        | .ok [] => return (tally, none)
        | .ok text =>
            let has (name : String) : Bool := copy.conversions.contains name.toList
            let shown :=
              if has "ucase" then text.map Char.toUpper
              else if has "lcase" then text.map Char.toLower
              else text
            match ← Task.write output shown with
            | .error cause => return (tally, some cause)
            | .ok _ => copyBlocks copy input output fuel (done + 1) (tally.add copy.inputSize text.length)

/-- Copies a file block by block. -/
def dd : Program := fun call => do
  match BlockCopy.read call.arguments {} with
  | .error flaw => if flaw.isMisuse then call.misuse flaw.text else call.fail flaw.text
  | .ok copy =>
      let opened (path? : Option Octets) (handle : Nat) (opening : Opening) :
          Tool (Except (Octets × SystemError) Nat) := do
        match path? with
        | none => return .ok handle
        | some path =>
            match ← Task.openFile path opening with
            | .ok handle => return .ok handle
            | .error cause => return .error (path, cause)
      let failed (path : Octets) (cause : SystemError) : Tool Nat :=
        call.fail ("failed to open '" ++ path.shown ++ "': " ++ cause.text)
      match ← opened copy.source 0 { reads := true } with
      | .error (path, cause) => failed path cause
      | .ok input =>
          let keeps := copy.conversions.contains "notrunc".toList || 0 < copy.passed
          match ← opened copy.target 1 { writes := true, creates := true, empties := !keeps } with
          | .error (path, cause) => failed path cause
          | .ok output =>
              if 0 < copy.passed then
                let position := copy.passed * copy.outputSize
                match copy.target with
                | some path =>
                    if !copy.conversions.contains "notrunc".toList then
                      discard (liftM (Task.ask (.resize path position) : Task (Except SystemError Unit)))
                | none => pure ()
                discard (liftM (Task.ask (.seek output (.start position)) : Task (Except SystemError Unit)))
              for _ in List.range copy.skipped do
                discard (liftM (Task.read input copy.inputSize))
              let start : Nat ← Task.ask .clock
              let (tally, failure?) ← copyBlocks copy input output Task.endless 0 {}
              let finish : Nat ← Task.ask .clock
              match failure? with
              | some cause =>
                  call.complain ("error reading '" ++ ((copy.source.map Octets.shown).getD "standard input") ++
                    "': " ++ cause.text)
              | none => pure ()
              let counts := toString tally.whole ++ "+" ++ toString tally.partly
              if copy.report != "none".toList then
                warn (Octets.ofString (counts ++ " records in\n" ++ counts ++ " records out\n"))
                if copy.report != "noxfer".toList then
                  let seconds := toString ((finish - start) / 1000000) ++ "." ++
                    String.ofList (Octets.padZeros 6 (Octets.ofNat ((finish - start) % 1000000)))
                  warn (Octets.ofString
                    (toString tally.bytes ++ (if tally.bytes == 1 then " byte" else " bytes") ++ " copied, " ++
                      seconds ++ " s\n"))
              return if failure?.isSome then 1 else 0

end InterfaceAudit.Tool
