import InterfaceAudit.Machine.Tool

/-!
Contract: sets of characters.

Owns:
- escapes of single characters;
- named classes, and sets that list characters, ranges and classes;
- tr, which replaces, deletes or squeezes the members of sets.

Does not own: patterns.
-/

namespace InterfaceAudit.Tool

/-! ## Escapes -/

/-- The character of a number; only eight bits count. -/
def charOf (code : Nat) : Char := Char.ofNat (code % 256)

/-- Octal digits that a text starts with, at most so many, and what follows
them. -/
def octalDigits (most : Nat) (text : Octets) : Octets × Octets :=
  let digits := (text.take most).takeWhile (fun c => '0' ≤ c && c ≤ '7')
  (digits, text.drop digits.length)

def octalChar (digits : Octets) : Char := charOf (Octets.valueOf 8 digits)

def letterEscape? : Char → Option Char
  | 'a' => some '\x07'
  | 'b' => some '\x08'
  | 'f' => some '\x0c'
  | 'n' => some '\n'
  | 'r' => some '\r'
  | 't' => some '\t'
  | 'v' => some '\x0b'
  | '\\' => some '\\'
  | _ => none

/-! ## Classes -/

def octetsWhere (test : Char → Bool) : Octets :=
  ((List.range 256).map Char.ofNat).filter test

/-- Whether a character belongs to a named class; `none` if there is no such
class. -/
def classTest? (name : String) : Option (Char → Bool) :=
  match name with
  | "upper" => some Char.isUpper
  | "lower" => some Char.isLower
  | "alpha" => some Char.isAlpha
  | "digit" => some Char.isDigit
  | "alnum" => some Char.isAlphanum
  | "space" => some Octets.isSpace
  | "blank" => some Octets.isBlank
  | "punct" => some (fun c => 0x21 ≤ c.toNat && c.toNat ≤ 0x7E && !c.isAlphanum)
  | "cntrl" => some (fun c => c.toNat < 0x20 || c.toNat == 0x7F)
  | "print" => some (fun c => 0x20 ≤ c.toNat && c.toNat ≤ 0x7E)
  | "graph" => some (fun c => 0x21 ≤ c.toNat && c.toNat ≤ 0x7E)
  | "xdigit" => some (fun c => c.isDigit || ('a' ≤ c && c ≤ 'f') || ('A' ≤ c && c ≤ 'F'))
  | _ => none

def classMembers (name : String) : Octets :=
  octetsWhere ((classTest? name).getD (fun _ => false))

/-! ## Sets -/

/-- A character of a set with its escapes resolved, and what follows it. -/
def setChar : Octets → Option (Char × Octets)
  | [] => none
  | '\\' :: c :: rest =>
      match letterEscape? c with
      | some escaped => some (escaped, rest)
      | none =>
          let (digits, after) := octalDigits 3 (c :: rest)
          if digits.isEmpty then some (c, rest) else some (octalChar digits, after)
  | c :: rest => some (c, rest)

/-- The members of a set in order: characters, ranges, named classes and
repetitions. A repetition without a count fills up to `room`. -/
def setMembers (room : Nat) : Nat → Octets → Octets
  | 0, _ => []
  | fuel + 1, text =>
      let plain : Octets :=
        match setChar text with
        | none => []
        | some (first, '-' :: rest) =>
            match setChar rest with
            | none => first :: ['-']
            | some (last, rest) =>
                ((List.range (last.toNat + 1 - first.toNat)).map
                  (fun offset => Char.ofNat (first.toNat + offset))) ++ setMembers room fuel rest
        | some (c, rest) => c :: setMembers room fuel rest
      match text with
      | '[' :: ':' :: rest =>
          let name := rest.takeWhile (· != ':')
          match rest.drop name.length with
          | ':' :: ']' :: rest => classMembers (String.ofList name) ++ setMembers room fuel rest
          | _ => plain
      | '[' :: '=' :: c :: '=' :: ']' :: rest => c :: setMembers room fuel rest
      | '[' :: inside =>
          match setChar inside with
          | some (c, '*' :: rest) =>
              let digits := rest.takeWhile Char.isDigit
              match rest.drop digits.length with
              | ']' :: rest =>
                  let others := setMembers room fuel rest
                  let base := if digits.head? == some '0' then 8 else 10
                  let count := Octets.valueOf base digits
                  List.replicate (if count == 0 then room - others.length else count) c ++ others
              | _ => plain
          | _ => plain
      | _ => plain

/-- The range in a set whose ends are in reverse order, if there is one. -/
def reversedRange? : Nat → Octets → Option (Char × Char)
  | 0, _ => none
  | fuel + 1, text =>
      match text with
      | '[' :: ':' :: rest => reversedRange? fuel (rest.dropWhile (· != ']') |>.drop 1)
      | text =>
          match setChar text with
          | none => none
          | some (first, '-' :: rest) =>
              match setChar rest with
              | none => none
              | some (last, rest) =>
                  if last < first then some (first, last) else reversedRange? fuel rest
          | some (_, rest) => reversedRange? fuel rest

/-- Drops characters of a kind that equal the one before them. -/
def squeeze (test : Char → Bool) : Option Char → Octets → Octets
  | _, [] => []
  | before, c :: text =>
      if before == some c && test c then squeeze test before text
      else c :: squeeze test (some c) text

/-- Reads the input block by block and prints what becomes of each; the last
character printed is passed on. -/
def mapInput (change : Option Char → Octets → Octets) : Nat → Option Char → Tool Unit
  | 0, _ => return
  | fuel + 1, before => do
      let block ← Task.read 0 Task.blockSize
      match block with
      | .error _ | .ok [] => return
      | .ok text =>
          let changed := change before text
          print changed
          flush
          if (← get).failure.isSome then return
          mapInput change fuel (changed.getLast?.or before)

def tr : Program := fun call =>
  call.withOptions {
      flags := "dscCt"
      long := [("delete", 'd'), ("squeeze-repeats", 's'), ("complement", 'c'),
        ("truncate-set1", 't')]
      isMixed := false } fun options => do
    let deletes := options.has 'd'
    let squeezes := options.has 's'
    match options.operands with
    | [] => call.misuse "missing operand"
    | _ :: _ :: extra :: _ => call.extraOperand extra
    | first :: others =>
        let source := setMembers 0 (first.length + 1) first
        let source :=
          if options.has 'c' || options.has 'C' then octetsWhere (fun c => !source.contains c)
          else source
        let second := others.headD []
        let target := setMembers source.length (second.length + 1) second
        match (reversedRange? (first.length + 1) first).or (reversedRange? (second.length + 1) second) with
        | some (low, high) =>
            call.fail ("range-endpoints of '" ++ Octets.shown [low] ++ "-" ++ Octets.shown [high] ++
              "' are in reverse collating sequence order")
        | none =>
        if others.isEmpty && !deletes && !squeezes then
          call.complain ("missing operand after '" ++ first.shown ++ "'")
          warn (Octets.ofString "Two strings must be given when translating.\n")
          call.hint
          return 1
        else if others.isEmpty && deletes && squeezes then
          call.complain ("missing operand after '" ++ first.shown ++ "'")
          warn (Octets.ofString "Two strings must be given when both deleting and squeezing repeats.\n")
          call.hint
          return 1
        else if !others.isEmpty && deletes && !squeezes then
          call.complain ("extra operand '" ++ second.shown ++ "'")
          warn (Octets.ofString "Only one string may be given when deleting without squeezing repeats.\n")
          call.hint
          return 1
        else if !others.isEmpty && !deletes && target.isEmpty then
          call.fail "when not truncating set1, string2 must be non-empty"
        else
          let translates := !deletes && !others.isEmpty
          let source := if options.has 't' && translates then source.take target.length else source
          let table : List (Char × Char) :=
            ((List.range source.length).zip source).reverse.map fun (index, c) =>
              (c, target.getD index (target.getLastD c))
          let squeezed := if others.isEmpty then source else target
          let change (before : Option Char) (text : Octets) : Octets :=
            let text :=
              if deletes then text.filter (fun c => !source.contains c)
              else if translates then text.map (fun c => (table.lookup c).getD c)
              else text
            if squeezes then squeeze squeezed.contains before text else text
          mapInput change Task.endless none
          return 0

end InterfaceAudit.Tool
