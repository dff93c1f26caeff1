import InterfaceAudit.Digest.Sha256
import InterfaceAudit.Machine.Tool.Characters
import InterfaceAudit.Machine.Tool.Text

/-!
Contract: programs that show bytes in other forms.

Owns: od, base64, and the digests sha256sum, sha1sum, md5sum and cksum.

Does not own: the digest that a probe is known by.
-/

namespace InterfaceAudit.Tool

/-! ## Digests -/

/-- A text padded to whole blocks of 64, with its length in bits at the end. -/
def paddedBlocks (bigEndian : Bool) (text : Octets) : List Nat :=
  let length := text.length
  let zeros := (119 - length % 64) % 64
  let bits := 8 * length
  let lengthBytes := (List.range 8).map fun index => bits / Nat.pow 256 index % 256
  text.map Char.toNat ++ 128 :: List.replicate zeros 0 ++
    (if bigEndian then lengthBytes.reverse else lengthBytes)

def inGroups {α : Type} (size : Nat) : Nat → List α → List (List α)
  | 0, _ => []
  | _, [] => []
  | fuel + 1, items => items.take size :: inGroups size fuel (items.drop size)

def blockWords (bigEndian : Bool) (block : List Nat) : List UInt32 :=
  (inGroups 4 (block.length + 1) block).map fun bytes =>
    UInt32.ofNat ((if bigEndian then bytes else bytes.reverse).foldl (fun value byte => value * 256 + byte) 0)

def turnLeft (word : UInt32) (count : Nat) : UInt32 :=
  let count := UInt32.ofNat count
  (word <<< count) ||| (word >>> (32 - count))

def hexWord (bigEndian : Bool) (word : UInt32) : Octets :=
  let bytes := (List.range 4).map fun index => word.toNat / Nat.pow 256 index % 256
  (if bigEndian then bytes.reverse else bytes).flatMap fun byte =>
    Octets.padZeros 2 (Nat.toDigits 16 byte)

def md5Constants : List UInt32 := [
  0xd76aa478, 0xe8c7b756, 0x242070db, 0xc1bdceee, 0xf57c0faf, 0x4787c62a, 0xa8304613, 0xfd469501,
  0x698098d8, 0x8b44f7af, 0xffff5bb1, 0x895cd7be, 0x6b901122, 0xfd987193, 0xa679438e, 0x49b40821,
  0xf61e2562, 0xc040b340, 0x265e5a51, 0xe9b6c7aa, 0xd62f105d, 0x02441453, 0xd8a1e681, 0xe7d3fbc8,
  0x21e1cde6, 0xc33707d6, 0xf4d50d87, 0x455a14ed, 0xa9e3e905, 0xfcefa3f8, 0x676f02d9, 0x8d2a4c8a,
  0xfffa3942, 0x8771f681, 0x6d9d6122, 0xfde5380c, 0xa4beea44, 0x4bdecfa9, 0xf6bb4b60, 0xbebfbc70,
  0x289b7ec6, 0xeaa127fa, 0xd4ef3085, 0x04881d05, 0xd9d4d039, 0xe6db99e5, 0x1fa27cf8, 0xc4ac5665,
  0xf4292244, 0x432aff97, 0xab9423a7, 0xfc93a039, 0x655b59c3, 0x8f0ccc92, 0xffeff47d, 0x85845dd1,
  0x6fa87e4f, 0xfe2ce6e0, 0xa3014314, 0x4e0811a1, 0xf7537e82, 0xbd3af235, 0x2ad7d2bb, 0xeb86d391]

/-- How far the rounds of MD5 turn. -/
def md5Turns : List (List Nat) := [[7, 12, 17, 22], [5, 9, 14, 20], [4, 11, 16, 23], [6, 10, 15, 21]]

def md5Round (words : List UInt32) (state : UInt32 × UInt32 × UInt32 × UInt32) (index : Nat) :
    UInt32 × UInt32 × UInt32 × UInt32 :=
  let (a, b, c, d) := state
  let (mixed, place) : UInt32 × Nat :=
    match index / 16 with
    | 0 => ((b &&& c) ||| (~~~b &&& d), index)
    | 1 => ((d &&& b) ||| (~~~d &&& c), (5 * index + 1) % 16)
    | 2 => (b ^^^ c ^^^ d, (3 * index + 5) % 16)
    | _ => (c ^^^ (b ||| ~~~d), 7 * index % 16)
  let turn := ((md5Turns.getD (index / 16) []).getD (index % 4) 0)
  let sum := a + mixed + md5Constants.getD index 0 + words.getD place 0
  (d, b + turnLeft sum turn, b, c)

def md5 (text : Octets) : Octets :=
  let bytes := paddedBlocks false text
  let blocks := inGroups 64 (bytes.length + 1) bytes
  let (a, b, c, d) := blocks.foldl
    (fun state block =>
      let words := blockWords false block
      let next := (List.range 64).foldl (md5Round words) state
      (state.1 + next.1, state.2.1 + next.2.1, state.2.2.1 + next.2.2.1, state.2.2.2 + next.2.2.2))
    ((0x67452301, 0xefcdab89, 0x98badcfe, 0x10325476) : UInt32 × UInt32 × UInt32 × UInt32)
  [a, b, c, d].flatMap (hexWord false)

/-- The words of a block with those that SHA-1 derives from them. -/
def sha1Words (block : List Nat) : List UInt32 :=
  ((List.range 64).foldl
    (fun (words : List UInt32) _ =>
      turnLeft (words.getD 2 0 ^^^ words.getD 7 0 ^^^ words.getD 13 0 ^^^ words.getD 15 0) 1 :: words)
    (blockWords true block).reverse).reverse

def sha1 (text : Octets) : Octets :=
  let bytes := paddedBlocks true text
  let blocks := inGroups 64 (bytes.length + 1) bytes
  let start : List UInt32 := [0x67452301, 0xefcdab89, 0x98badcfe, 0x10325476, 0xc3d2e1f0]
  let final := blocks.foldl
    (fun (state : List UInt32) block =>
      let next := ((List.range 80).zip (sha1Words block)).foldl
        (fun (state : List UInt32) (index, word) =>
          match state with
          | [a, b, c, d, e] =>
              let (mixed, constant) : UInt32 × UInt32 :=
                match index / 20 with
                | 0 => ((b &&& c) ||| (~~~b &&& d), 0x5a827999)
                | 1 => (b ^^^ c ^^^ d, 0x6ed9eba1)
                | 2 => ((b &&& c) ||| (b &&& d) ||| (c &&& d), 0x8f1bbcdc)
                | _ => (b ^^^ c ^^^ d, 0xca62c1d6)
              [turnLeft a 5 + mixed + e + constant + word, a, turnLeft b 30, c, d]
          | state => state)
        state
      (state.zip next).map fun (x, y) => x + y)
    start
  final.flatMap (hexWord true)

def digestSum (digest : Octets → Octets) : Program := fun call =>
  call.withOptions {
      flags := "btczT"
      long := [("binary", 'b'), ("text", 't'), ("check", 'c'), ("tag", 'T')] } fun options =>
    forEach (fun file => call.withText file fun text => do
      printLine (digest text ++ [' ', if options.last? ['b', 't'] == some 'b' then '*' else ' '] ++ file)
      return 0) options.files

/-- The remainder of a byte string under the polynomial of cksum. -/
def remainder (bytes : List Nat) : UInt32 :=
  bytes.foldl
    (fun (value : UInt32) byte =>
      (List.range 8).foldl
        (fun (value : UInt32) _ =>
          if value &&& 0x80000000 != 0 then (value <<< 1) ^^^ 0x04c11db7 else value <<< 1)
        (value ^^^ (UInt32.ofNat byte <<< 24)))
    0

/-- Prints remainders and sizes of files. -/
def cksum : Program := fun call =>
  call.withOptions {} fun options =>
    forEach (fun file => call.withText file fun text => do
      let length := text.length
      let digits := (Nat.toDigits 256 length).length
      let lengthBytes := if length == 0 then [] else
        (List.range digits).map fun index => length / Nat.pow 256 index % 256
      let value := ~~~ remainder (text.map Char.toNat ++ lengthBytes)
      printLine (Octets.ofString (toString value.toNat ++ " " ++ toString length) ++
        (if options.operands.isEmpty then [] else ' ' :: file))
      return 0) options.files

/-! ## Base 64 -/

def base64Digits : Octets :=
  "ABCDEFGHIJKLMNOPQRSTUVWXYZabcdefghijklmnopqrstuvwxyz0123456789+/".toList

def base64Encode (text : Octets) : Octets :=
  (inGroups 3 (text.length + 1) text).flatMap fun group =>
    let value := group.foldl (fun value c => value * 256 + c.toNat) 0 * Nat.pow 256 (3 - group.length)
    let digits := [value / 262144 % 64, value / 4096 % 64, value / 64 % 64, value % 64].map
      fun digit => base64Digits.getD digit '='
    digits.take (group.length + 1) ++ List.replicate (3 - group.length) '='

/-- The text that digits of base 64 stand for. -/
def base64Decode (digits : Octets) : Octets :=
  (inGroups 4 (digits.length + 1) digits).flatMap fun group =>
    let kept := group.filter (· != '=')
    let value := kept.foldl
      (fun value c => value * 64 + (base64Digits.idxOf? c).getD 0) 0 * Nat.pow 64 (4 - kept.length)
    ([value / 65536, value / 256, value].map charOf).take (kept.length - 1)

def base64 : Program := fun call =>
  call.withOptions {
      flags := "di"
      valued := "w"
      long := [("decode", 'd'), ("wrap", 'w'), ("ignore-garbage", 'i')] } fun options =>
    match options.operands with
    | _ :: extra :: _ => call.extraOperand extra
    | operands =>
        call.withText (operands.headD ['-']) fun text => do
          if options.has 'd' then
            let digits := text.filter (fun c => c != '\n')
            let isClean := digits.all (fun c => base64Digits.contains c || c == '=')
            print (base64Decode (digits.takeWhile (fun c => base64Digits.contains c || c == '=')))
            if isClean && digits.length % 4 == 0 then return 0 else call.fail "invalid input"
          else
            let width := ((options.value? 'w').bind Octets.natOf?).getD 76
            let digits := base64Encode text
            if width == 0 then print digits
            else print (Octets.unlines (inGroups width (digits.length + 1) digits))
            return 0

/-! ## Dumps -/

/-- A way in which bytes are shown. -/
structure DumpForm where
  /-- `a`, `c`, or the base of a number: `d`, `o`, `u` or `x`. -/
  kind : Char
  size : Nat := 1
  /-- Whether the characters are shown behind a line. -/
  trailing : Bool := false

def DumpForm.width (form : DumpForm) : Nat :=
  match form.kind with
  | 'a' | 'c' => 3
  | 'o' => (8 * form.size + 2) / 3
  | 'x' => 2 * form.size
  | 'u' => match form.size with | 1 => 3 | 2 => 5 | 4 => 10 | _ => 20
  | _ => match form.size with | 1 => 4 | 2 => 6 | 4 => 11 | _ => 20

/-- The names of the first characters and of the last one. -/
def controlNames : List String := [
  "nul", "soh", "stx", "etx", "eot", "enq", "ack", "bel", "bs", "ht", "nl", "vt", "ff", "cr", "so",
  "si", "dle", "dc1", "dc2", "dc3", "dc4", "nak", "syn", "etb", "can", "em", "sub", "esc", "fs", "gs",
  "rs", "us", "sp"]

def escapedChar (code : Nat) : Octets :=
  match code with
  | 0 => ['\\', '0']
  | 7 => ['\\', 'a']
  | 8 => ['\\', 'b']
  | 9 => ['\\', 't']
  | 10 => ['\\', 'n']
  | 11 => ['\\', 'v']
  | 12 => ['\\', 'f']
  | 13 => ['\\', 'r']
  | code =>
      if 32 ≤ code && code < 127 then [Char.ofNat code] else Octets.padZeros 3 (Nat.toDigits 8 code)

def DumpForm.item (form : DumpForm) (bytes : List Nat) : Octets :=
  let value := bytes.reverse.foldl (fun value byte => value * 256 + byte) 0
  match form.kind with
  | 'a' =>
      let code := value % 128
      if code == 127 then Octets.ofString "del"
      else match controlNames[code]? with
        | some name => Octets.ofString name
        | none => [Char.ofNat code]
  | 'c' => escapedChar value
  | 'o' => Octets.padZeros form.width (Nat.toDigits 8 value)
  | 'x' => Octets.padZeros form.width (Nat.toDigits 16 value)
  | 'u' => Octets.ofNat value
  | _ =>
      let half := Nat.pow 256 form.size / 2
      Octets.ofInt (if value < half then value else (value : Int) - 2 * half)

/-- One line of a dump under a form; `span` is the width of the smallest piece of
a line that holds whole items of all forms. -/
def DumpForm.line (form : DumpForm) (perItem : Nat) (bytes : List Nat) (full : Nat) : Octets :=
  let groups := inGroups form.size (bytes.length + 1) bytes
  let shown := groups.flatMap fun group =>
    Octets.padLeft perItem (form.item (group ++ List.replicate (form.size - group.length) 0))
  if !form.trailing then shown
  else
    Octets.padRight (full / form.size * perItem) shown ++ [' ', ' ', '>'] ++
      bytes.map (fun byte => if 32 ≤ byte && byte < 127 then Char.ofNat byte else '.') ++ ['<']

/-- Reads the forms of a type string. -/
def dumpForms? : Nat → Octets → Option (List DumpForm)
  | 0, _ => none
  | _, [] => some []
  | fuel + 1, kind :: rest => do
      let digits := rest.takeWhile Char.isDigit
      let rest := rest.drop digits.length
      let (size, rest) :=
        match Octets.natOf? digits, rest with
        | some size, rest => (size, rest)
        | none, 'C' :: rest => (1, rest)
        | none, 'S' :: rest => (2, rest)
        | none, 'I' :: rest => (4, rest)
        | none, 'L' :: rest => (8, rest)
        | none, rest => (4, rest)
      let (trailing, rest) :=
        match rest with
        | 'z' :: rest => (true, rest)
        | rest => (false, rest)
      if !(['a', 'c', 'd', 'o', 'u', 'x'].contains kind) || !([1, 2, 4, 8].contains size) then none
      else
        let size := if kind == 'a' || kind == 'c' then 1 else size
        return { kind, size, trailing } :: (← dumpForms? fuel rest)

def dumpLetters : List (Char × DumpForm) := [
  ('a', { kind := 'a' }), ('b', { kind := 'o' }), ('c', { kind := 'c' }), ('d', { kind := 'u', size := 2 }),
  ('o', { kind := 'o', size := 2 }), ('s', { kind := 'd', size := 2 }), ('x', { kind := 'x', size := 2 }),
  ('i', { kind := 'd', size := 4 })]

/-- An address in front of a line. -/
def dumpAddress (base : Char) (position : Nat) : Octets :=
  match base with
  | 'n' => []
  | 'd' => Octets.padZeros 7 (Octets.ofNat position)
  | 'x' => Octets.padZeros 6 (Nat.toDigits 16 position)
  | _ => Octets.padZeros 7 (Nat.toDigits 8 position)

def od : Program := fun call =>
  call.withOptions {
      flags := "abcdosxiv"
      valued := "AjNtS"
      optional := "w"
      long := [("address-radix", 'A'), ("skip-bytes", 'j'), ("read-bytes", 'N'), ("format", 't'),
        ("width", 'w'), ("output-duplicates", 'v')] } fun options => do
    let forms? := options.given.mapM fun (letter, value) =>
      if letter == 't' then dumpForms? (value.length + 1) value
      else some ((dumpLetters.lookup letter).toList)
    match forms? with
    | none => call.fail ("invalid type string '" ++ ((options.value? 't').getD []).shown ++ "'")
    | some forms =>
        let forms := forms.flatten
        let forms := if forms.isEmpty then [{ kind := 'o', size := 2 : DumpForm }] else forms
        let (text, isWhole) ← call.readJoined options.files
        let skipped := ((options.value? 'j').bind countOf?).getD 0
        let text := text.drop skipped
        let text := match (options.value? 'N').bind countOf? with
          | some count => text.take count
          | none => text
        let width := match options.value? 'w' with
          | none => 16
          | some value => (Octets.natOf? value).getD 32
        let base := ((options.value? 'A').getD ['o']).headD 'o'
        -- Items of all forms line up, so the widest ones set the width of a byte.
        let perByte := (forms.map fun form => (form.width + 1) * (8 / form.size)).foldl max 0
        let front := (dumpAddress base 0).length
        let mut position := skipped
        let mut last : List Nat := []
        let mut isStarred := false
        for bytes in inGroups width (text.length + 1) (text.map Char.toNat) do
          if bytes == last && bytes.length == width && !options.has 'v' then
            if !isStarred then printLine ['*']
            isStarred := true
          else
            isStarred := false
            let mut isFirst := true
            for form in forms do
              let address := if isFirst then dumpAddress base position else List.replicate front ' '
              printLine (address ++ form.line (perByte * form.size / 8) bytes width)
              isFirst := false
          last := bytes
          position := position + bytes.length
        if base != 'n' then printLine (dumpAddress base position)
        return if isWhole then 0 else 1

end InterfaceAudit.Tool
