import Mathlib

/-!
# SHA-256 and its hexadecimal digest

The standard's compression function over 32-bit words (natural numbers below `2 ^ 32`), its padding and
its iteration over the blocks of a message, and the digest written out as sixty-four hexadecimal digits,
as `hashlib.sha256(text.encode("utf-8")).hexdigest()` returns it.

What the proofs use is `length_sha256Hex`: a digest has exactly sixty-four characters, so every cut of it
has a known length.
-/

namespace ComputeMesh.Sha256

/-- The 32-bit words, as naturals. -/
abbrev Word := ℕ

def add (x y : Word) : Word := (x + y) % 2 ^ 32

/-- Rotate a word right by `n`. -/
def rotr (n : ℕ) (x : Word) : Word := ((x >>> n) ||| (x <<< (32 - n))) % 2 ^ 32

def smallSigma0 (x : Word) : Word := rotr 7 x ^^^ rotr 18 x ^^^ (x >>> 3)

def smallSigma1 (x : Word) : Word := rotr 17 x ^^^ rotr 19 x ^^^ (x >>> 10)

def bigSigma0 (x : Word) : Word := rotr 2 x ^^^ rotr 13 x ^^^ rotr 22 x

def bigSigma1 (x : Word) : Word := rotr 6 x ^^^ rotr 11 x ^^^ rotr 25 x

def choose (x y z : Word) : Word := (x &&& y) ^^^ ((2 ^ 32 - 1 - x) &&& z)

def majority (x y z : Word) : Word := (x &&& y) ^^^ (x &&& z) ^^^ (y &&& z)

def roundConstants : List Word :=
  [0x428a2f98, 0x71374491, 0xb5c0fbcf, 0xe9b5dba5, 0x3956c25b, 0x59f111f1, 0x923f82a4, 0xab1c5ed5,
   0xd807aa98, 0x12835b01, 0x243185be, 0x550c7dc3, 0x72be5d74, 0x80deb1fe, 0x9bdc06a7, 0xc19bf174,
   0xe49b69c1, 0xefbe4786, 0x0fc19dc6, 0x240ca1cc, 0x2de92c6f, 0x4a7484aa, 0x5cb0a9dc, 0x76f988da,
   0x983e5152, 0xa831c66d, 0xb00327c8, 0xbf597fc7, 0xc6e00bf3, 0xd5a79147, 0x06ca6351, 0x14292967,
   0x27b70a85, 0x2e1b2138, 0x4d2c6dfc, 0x53380d13, 0x650a7354, 0x766a0abb, 0x81c2c92e, 0x92722c85,
   0xa2bfe8a1, 0xa81a664b, 0xc24b8b70, 0xc76c51a3, 0xd192e819, 0xd6990624, 0xf40e3585, 0x106aa070,
   0x19a4c116, 0x1e376c08, 0x2748774c, 0x34b0bcb5, 0x391c0cb3, 0x4ed8aa4a, 0x5b9cca4f, 0x682e6ff3,
   0x748f82ee, 0x78a5636f, 0x84c87814, 0x8cc70208, 0x90befffa, 0xa4506ceb, 0xbef9a3f7, 0xc67178f2]

/-- The eight working words. -/
structure State where
  a : Word
  b : Word
  c : Word
  d : Word
  e : Word
  f : Word
  g : Word
  h : Word

def start : State :=
  ⟨0x6a09e667, 0xbb67ae85, 0x3c6ef372, 0xa54ff53a, 0x510e527f, 0x9b05688c, 0x1f83d9ab, 0x5be0cd19⟩

/-- One round, with its constant and its word of the message schedule. -/
def round (s : State) (kw : Word × Word) : State :=
  let t1 := add s.h (add (bigSigma1 s.e) (add (choose s.e s.f s.g) (add kw.1 kw.2)))
  let t2 := add (bigSigma0 s.a) (majority s.a s.b s.c)
  ⟨add t1 t2, s.a, s.b, s.c, add s.d t1, s.e, s.f, s.g⟩

/-- Extend a message schedule, kept newest first, by `n` words. -/
def extend : ℕ → List Word → List Word
  | 0, ws => ws
  | n + 1, ws =>
    extend n (add (smallSigma1 (ws.getD 1 0)) (add (ws.getD 6 0)
      (add (smallSigma0 (ws.getD 14 0)) (ws.getD 15 0))) :: ws)

/-- Absorb one block of sixteen words. -/
def compress (s : State) (block : List Word) : State :=
  let t := (roundConstants.zip (extend 48 block.reverse).reverse).foldl round s
  ⟨add s.a t.a, add s.b t.b, add s.c t.c, add s.d t.d, add s.e t.e, add s.f t.f, add s.g t.g,
    add s.h t.h⟩

/-- The big-endian bytes of `n`, `k` of them. -/
def bytesOf (k n : ℕ) : List ℕ := (List.range k).map fun i => (n >>> (8 * (k - 1 - i))) % 256

/-- The message with its padding: a one bit, zeros, and the length in bits. -/
def pad (msg : List ℕ) : List ℕ :=
  msg ++ [0x80] ++ List.replicate ((119 - msg.length % 64) % 64) 0 ++ bytesOf 8 (8 * msg.length)

/-- The big-endian words of a list of bytes. -/
def wordsOf : List ℕ → List Word
  | b0 :: b1 :: b2 :: b3 :: rest =>
    (b0 * 2 ^ 24 + b1 * 2 ^ 16 + b2 * 2 ^ 8 + b3) :: wordsOf rest
  | _ => []

/-- Absorb `n` blocks of sixteen words, one after the other. -/
def absorb : ℕ → State → List Word → State
  | 0, s, _ => s
  | n + 1, s, ws => absorb n (compress s (ws.take 16)) (ws.drop 16)

def digest (msg : List ℕ) : State :=
  let ws := wordsOf (pad msg)
  absorb (ws.length / 16) start ws

def hexDigit (n : ℕ) : Char := "0123456789abcdef".toList.getD n '0'

/-- A word in eight hexadecimal digits. -/
def hexWord (w : Word) : List Char := (List.range 8).map fun i => hexDigit ((w >>> (4 * (7 - i))) % 16)

theorem length_hexWord (w : Word) : (hexWord w).length = 8 := by simp [hexWord]

theorem mem_hexWord {w : Word} {c : Char} (h : c ∈ hexWord w) : c ∈ "0123456789abcdef".toList := by
  obtain ⟨i, -, rfl⟩ := List.mem_map.mp h
  unfold hexDigit
  rw [List.getD_eq_getElem?_getD]
  cases hget : "0123456789abcdef".toList[(w >>> (4 * (7 - i))) % 16]? with
  | none => decide
  | some d => exact List.mem_of_getElem? hget

/-- `hashlib.sha256(data).hexdigest()`. -/
def hexDigest (data : List UInt8) : String :=
  let s := digest (data.map UInt8.toNat)
  String.ofList ([s.a, s.b, s.c, s.d, s.e, s.f, s.g, s.h].flatMap hexWord)

/-- `hashlib.sha256(text.encode("utf-8")).hexdigest()`. -/
def sha256Hex (text : String) : String := hexDigest (text.toList.flatMap String.utf8EncodeChar)

theorem length_hexDigest (data : List UInt8) : (hexDigest data).toList.length = 64 := by
  simp [hexDigest, length_hexWord]

/-- A digest has exactly sixty-four characters. -/
theorem length_sha256Hex (text : String) : (sha256Hex text).toList.length = 64 := length_hexDigest _

theorem mem_sha256Hex {text : String} {c : Char} (h : c ∈ (sha256Hex text).toList) :
    c ∈ "0123456789abcdef".toList := by
  simp only [sha256Hex, hexDigest, String.toList_ofList] at h
  obtain ⟨w, -, hc⟩ := List.mem_flatMap.mp h
  exact mem_hexWord hc

end ComputeMesh.Sha256
