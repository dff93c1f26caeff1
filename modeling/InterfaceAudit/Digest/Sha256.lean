import InterfaceAudit.Text.Utf8

/-!
Contract: the SHA-256 digest of a byte string, in lower-case hexadecimal.

Owns:
- padding, message schedule and compression over 32-bit words;
- the digest text, always sixty-four hexadecimal digits.

Does not own: what is digested.
-/

namespace InterfaceAudit.Sha256

/-- Fractional parts of the cube roots of the first sixty-four primes. -/
def roundConstants : List UInt32 := [
  0x428a2f98, 0x71374491, 0xb5c0fbcf, 0xe9b5dba5, 0x3956c25b, 0x59f111f1, 0x923f82a4, 0xab1c5ed5,
  0xd807aa98, 0x12835b01, 0x243185be, 0x550c7dc3, 0x72be5d74, 0x80deb1fe, 0x9bdc06a7, 0xc19bf174,
  0xe49b69c1, 0xefbe4786, 0x0fc19dc6, 0x240ca1cc, 0x2de92c6f, 0x4a7484aa, 0x5cb0a9dc, 0x76f988da,
  0x983e5152, 0xa831c66d, 0xb00327c8, 0xbf597fc7, 0xc6e00bf3, 0xd5a79147, 0x06ca6351, 0x14292967,
  0x27b70a85, 0x2e1b2138, 0x4d2c6dfc, 0x53380d13, 0x650a7354, 0x766a0abb, 0x81c2c92e, 0x92722c85,
  0xa2bfe8a1, 0xa81a664b, 0xc24b8b70, 0xc76c51a3, 0xd192e819, 0xd6990624, 0xf40e3585, 0x106aa070,
  0x19a4c116, 0x1e376c08, 0x2748774c, 0x34b0bcb5, 0x391c0cb3, 0x4ed8aa4a, 0x5b9cca4f, 0x682e6ff3,
  0x748f82ee, 0x78a5636f, 0x84c87814, 0x8cc70208, 0x90befffa, 0xa4506ceb, 0xbef9a3f7, 0xc67178f2]

/-- The eight chaining words. -/
structure Chain where
  a : UInt32
  b : UInt32
  c : UInt32
  d : UInt32
  e : UInt32
  f : UInt32
  g : UInt32
  h : UInt32
deriving DecidableEq, Repr

/-- Fractional parts of the square roots of the first eight primes. -/
def Chain.initial : Chain :=
  ⟨0x6a09e667, 0xbb67ae85, 0x3c6ef372, 0xa54ff53a, 0x510e527f, 0x9b05688c, 0x1f83d9ab, 0x5be0cd19⟩

def Chain.add (x y : Chain) : Chain :=
  ⟨x.a + y.a, x.b + y.b, x.c + y.c, x.d + y.d, x.e + y.e, x.f + y.f, x.g + y.g, x.h + y.h⟩

/-- Rotation to the right by less than a word. -/
def rotate (word : UInt32) (amount : UInt32) : UInt32 :=
  (word >>> amount) ||| (word <<< (32 - amount))

/-- The message mixing function of the word fifteen places back. -/
def smallSigmaZero (x : UInt32) : UInt32 := rotate x 7 ^^^ rotate x 18 ^^^ (x >>> 3)

/-- The message mixing function of the word two places back. -/
def smallSigmaOne (x : UInt32) : UInt32 := rotate x 17 ^^^ rotate x 19 ^^^ (x >>> 10)

/-- The next schedule word, from the latest sixteen in reverse order. -/
def nextWord (latest : List UInt32) : UInt32 :=
  smallSigmaOne (latest.getD 1 0) + latest.getD 6 0 +
    smallSigmaZero (latest.getD 14 0) + latest.getD 15 0

def schedule (block : List UInt32) : List UInt32 :=
  ((List.range 48).foldl (fun words _ => nextWord words :: words) block.reverse).reverse

def round (s : Chain) (constant word : UInt32) : Chain :=
  let mixE := rotate s.e 6 ^^^ rotate s.e 11 ^^^ rotate s.e 25
  let choice := (s.e &&& s.f) ^^^ ((s.e ^^^ 0xffffffff) &&& s.g)
  let first := s.h + mixE + choice + constant + word
  let mixA := rotate s.a 2 ^^^ rotate s.a 13 ^^^ rotate s.a 22
  let majority := (s.a &&& s.b) ^^^ (s.a &&& s.c) ^^^ (s.b &&& s.c)
  ⟨first + mixA + majority, s.a, s.b, s.c, s.d + first, s.e, s.f, s.g⟩

def compress (chain : Chain) (block : List UInt32) : Chain :=
  let mixed := (roundConstants.zip (schedule block)).foldl
    (fun s pair => round s pair.1 pair.2) chain
  chain.add mixed

/-- The bytes of a number, most significant first, in a fixed width. -/
def bigEndian : Nat → Nat → Bytes
  | 0, _ => []
  | width + 1, value => bigEndian width (value / 256) ++ [UInt8.ofNat (value % 256)]

/-- The message, a one bit, zeros up to eight bytes short of a block, and the
length in bits. -/
def pad (message : Bytes) : Bytes :=
  let size := message.length
  message ++ 0x80 :: (List.replicate ((119 - size % 64) % 64) 0 ++ bigEndian 8 (size * 8))

/-- Big-endian words of a byte string whose length is a multiple of four. -/
def wordsOf (bytes : Bytes) : List UInt32 :=
  (bytes.foldl
    (fun (done, word, count) byte =>
      let word := (word <<< 8) ||| byte.toUInt32
      if count == 3 then (word :: done, (0 : UInt32), 0) else (done, word, count + 1))
    (([] : List UInt32), (0 : UInt32), 0)).1.reverse

def absorb (words : List UInt32) : Chain :=
  let (chain, rest, _) := words.foldl
    (fun (chain, block, count) word =>
      if count == 15 then (compress chain (word :: block).reverse, [], 0)
      else (chain, word :: block, count + 1))
    (Chain.initial, ([] : List UInt32), 0)
  if rest.isEmpty then chain else compress chain rest.reverse

def hexWord (word : UInt32) : List Char :=
  (bigEndian 4 word.toNat).flatMap
    (fun byte => [Nat.digitChar (byte.toNat / 16), Nat.digitChar (byte.toNat % 16)])

/-- The digest of a byte string in lower-case hexadecimal. -/
def hexDigest (message : Bytes) : List Char :=
  let c := absorb (wordsOf (pad message))
  [c.a, c.b, c.c, c.d, c.e, c.f, c.g, c.h].flatMap hexWord

/-! ## The digest text -/

theorem length_bigEndian (width value : Nat) : (bigEndian width value).length = width := by
  induction width generalizing value with
  | zero => rfl
  | succ width inductionHypothesis =>
      rw [bigEndian, List.length_append, inductionHypothesis, List.length_singleton]

theorem length_hexWord (word : UInt32) : (hexWord word).length = 8 := by
  rw [hexWord, List.length_flatMap]
  simp only [List.length_cons, List.length_nil, List.map_const', List.sum_replicate_nat,
    length_bigEndian]

/-- A digest has sixty-four digits. -/
theorem length_hexDigest (message : Bytes) : (hexDigest message).length = 64 := by
  simp only [hexDigest, List.length_flatMap, List.map_cons, List.map_nil, length_hexWord,
    List.sum_cons, List.sum_nil, Nat.reduceAdd]

/-- The digits of a digest are decimal or lower-case hexadecimal ones. -/
theorem hexDigest_digits (message : Bytes) :
    ∀ digit ∈ hexDigest message, digit ∈ "0123456789abcdef".toList := by
  have digits : ∀ value < 16, Nat.digitChar value ∈ "0123456789abcdef".toList := by decide
  intro digit member
  obtain ⟨word, _, inWord⟩ := List.mem_flatMap.mp member
  obtain ⟨byte, _, inByte⟩ := List.mem_flatMap.mp inWord
  rcases List.mem_cons.mp inByte with rfl | inRest
  · exact digits _ (Nat.div_lt_of_lt_mul byte.toNat_lt)
  · rw [List.mem_singleton.mp inRest]
    exact digits _ (Nat.mod_lt _ (by decide))

/-- The published digest of a message of three letters. -/
example : String.ofList (hexDigest [97, 98, 99]) =
    "ba7816bf8f01cfea414140de5dae2223b00361a396177a9cb410ff61f20015ad" := by
  decide +kernel

end InterfaceAudit.Sha256
