import ComputeMesh.Lib.Sha256

/-!
# MD5 and its hexadecimal digest

The message digest over 32-bit words, as `hashlib.md5(text.encode()).hexdigest()` returns it.  The
code uses it to make names; nothing is proved about it.
-/

namespace ComputeMesh.Md5

open Sha256 (Word add)

/-- Rotate a word left by `n`. -/
def rotl (n : ℕ) (x : Word) : Word := ((x <<< n) ||| (x >>> (32 - n))) % 2 ^ 32

def complement (x : Word) : Word := 2 ^ 32 - 1 - x

def roundConstants : List Word :=
  [0xd76aa478, 0xe8c7b756, 0x242070db, 0xc1bdceee, 0xf57c0faf, 0x4787c62a, 0xa8304613, 0xfd469501,
   0x698098d8, 0x8b44f7af, 0xffff5bb1, 0x895cd7be, 0x6b901122, 0xfd987193, 0xa679438e, 0x49b40821,
   0xf61e2562, 0xc040b340, 0x265e5a51, 0xe9b6c7aa, 0xd62f105d, 0x02441453, 0xd8a1e681, 0xe7d3fbc8,
   0x21e1cde6, 0xc33707d6, 0xf4d50d87, 0x455a14ed, 0xa9e3e905, 0xfcefa3f8, 0x676f02d9, 0x8d2a4c8a,
   0xfffa3942, 0x8771f681, 0x6d9d6122, 0xfde5380c, 0xa4beea44, 0x4bdecfa9, 0xf6bb4b60, 0xbebfbc70,
   0x289b7ec6, 0xeaa127fa, 0xd4ef3085, 0x04881d05, 0xd9d4d039, 0xe6db99e5, 0x1fa27cf8, 0xc4ac5665,
   0xf4292244, 0x432aff97, 0xab9423a7, 0xfc93a039, 0x655b59c3, 0x8f0ccc92, 0xffeff47d, 0x85845dd1,
   0x6fa87e4f, 0xfe2ce6e0, 0xa3014314, 0x4e0811a1, 0xf7537e82, 0xbd3af235, 0x2ad7d2bb, 0xeb86d391]

/-- The four working words. -/
structure State where
  a : Word
  b : Word
  c : Word
  d : Word

def start : State := ⟨0x67452301, 0xefcdab89, 0x98badcfe, 0x10325476⟩

/-- The mixing function of round `i`, the message word it takes and its rotation. -/
def mix (i : ℕ) (s : State) : Word × ℕ × ℕ :=
  if i < 16 then ((s.b &&& s.c) ||| (complement s.b &&& s.d), i, [7, 12, 17, 22].getD (i % 4) 0)
  else if i < 32 then
    ((s.d &&& s.b) ||| (complement s.d &&& s.c), (5 * i + 1) % 16, [5, 9, 14, 20].getD (i % 4) 0)
  else if i < 48 then (s.b ^^^ s.c ^^^ s.d, (3 * i + 5) % 16, [4, 11, 16, 23].getD (i % 4) 0)
  else (s.c ^^^ (s.b ||| complement s.d), 7 * i % 16, [6, 10, 15, 21].getD (i % 4) 0)

/-- Round `i` with its constant. -/
def round (block : List Word) (s : State) (ki : Word × ℕ) : State :=
  let (f, g, r) := mix ki.2 s
  ⟨s.d, add s.b (rotl r (add f (add s.a (add ki.1 (block.getD g 0))))), s.b, s.c⟩

/-- Absorb one block of sixteen words. -/
def compress (s : State) (block : List Word) : State :=
  let t := roundConstants.zipIdx.foldl (round block) s
  ⟨add s.a t.a, add s.b t.b, add s.c t.c, add s.d t.d⟩

/-- The little-endian bytes of `n`, `k` of them. -/
def bytesOf (k n : ℕ) : List ℕ := (List.range k).map fun i => (n >>> (8 * i)) % 256

/-- The message with its padding. -/
def pad (msg : List ℕ) : List ℕ :=
  msg ++ [0x80] ++ List.replicate ((119 - msg.length % 64) % 64) 0 ++ bytesOf 8 (8 * msg.length)

/-- The little-endian words of a list of bytes. -/
def wordsOf : List ℕ → List Word
  | b0 :: b1 :: b2 :: b3 :: rest =>
    (b3 * 2 ^ 24 + b2 * 2 ^ 16 + b1 * 2 ^ 8 + b0) :: wordsOf rest
  | _ => []

/-- Absorb `n` blocks of sixteen words, one after the other. -/
def absorb : ℕ → State → List Word → State
  | 0, s, _ => s
  | n + 1, s, ws => absorb n (compress s (ws.take 16)) (ws.drop 16)

/-- A word in eight hexadecimal digits, low byte first. -/
def hexWord (w : Word) : List Char :=
  (bytesOf 4 w).flatMap fun b => [Sha256.hexDigit (b / 16), Sha256.hexDigit (b % 16)]

/-- `hashlib.md5(text.encode()).hexdigest()`. -/
def md5Hex (text : String) : String :=
  let ws := wordsOf (pad ((text.toList.flatMap String.utf8EncodeChar).map UInt8.toNat))
  let s := absorb (ws.length / 16) start ws
  String.ofList ([s.a, s.b, s.c, s.d].flatMap hexWord)

end ComputeMesh.Md5
