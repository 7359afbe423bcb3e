import Mathlib

/-!
# Base64 for URLs

`base64.urlsafe_b64encode` without its padding, and `urlsafe_b64decode` of a text that is padded.

* `decode_encode` — **bytes are read back from their padded text.**
-/

namespace ComputeMesh.Base64

def alphabet : List Char :=
  ['A', 'B', 'C', 'D', 'E', 'F', 'G', 'H', 'I', 'J', 'K', 'L', 'M', 'N', 'O', 'P', 'Q', 'R', 'S', 'T', 'U', 'V', 'W', 'X', 'Y',
    'Z', 'a', 'b', 'c', 'd', 'e', 'f', 'g', 'h', 'i', 'j', 'k', 'l', 'm', 'n', 'o', 'p', 'q', 'r', 's', 't', 'u', 'v', 'w', 'x',
    'y', 'z', '0', '1', '2', '3', '4', '5', '6', '7', '8', '9', '-', '_']

/-- The digit of six bits. -/
def digit (n : ℕ) : Char := alphabet.getD n '='

/-- Six bits, of a digit. -/
def value (c : Char) : Option ℕ := if alphabet.idxOf c < 64 then some (alphabet.idxOf c) else none

/-- The text of bytes, without padding. -/
def encode : List UInt8 → List Char
  | a :: b :: c :: rest =>
    let n := a.toNat * 65536 + b.toNat * 256 + c.toNat
    digit (n / 262144) :: digit (n / 4096 % 64) :: digit (n / 64 % 64) :: digit (n % 64) :: encode rest
  | [a, b] =>
    let n := a.toNat * 1024 + b.toNat * 4
    [digit (n / 4096), digit (n / 64 % 64), digit (n % 64)]
  | [a] => [digit (a.toNat / 4), digit (a.toNat * 16 % 64)]
  | [] => []

def padding (length : ℕ) : List Char := List.replicate ((4 - length % 4) % 4) '='

/-- The bytes of a padded text. -/
def decode : List Char → Option (List UInt8)
  | [] => some []
  | a :: b :: c :: d :: rest =>
    match value a, value b, value c, value d with
    | some a, some b, some c, some d =>
      let n := ((a * 64 + b) * 64 + c) * 64 + d
      (decode rest).map fun bytes => UInt8.ofNat (n / 65536) :: UInt8.ofNat (n / 256) :: UInt8.ofNat n :: bytes
    | some a, some b, some c, none =>
      let n := (a * 64 + b) * 64 + c
      if d = '=' ∧ rest = [] then some [UInt8.ofNat (n / 1024), UInt8.ofNat (n / 4)] else none
    | some a, some b, none, none =>
      if c = '=' ∧ d = '=' ∧ rest = [] then some [UInt8.ofNat ((a * 64 + b) / 16)] else none
    | _, _, _, _ => none
  | _ => none

theorem value_digit : ∀ n < 64, value (digit n) = some n := by decide

theorem value_padding : value '=' = none := by decide

theorem ofNat_of_mod {n : ℕ} {a : UInt8} (h : n % 256 = a.toNat) : UInt8.ofNat n = a := by
  apply UInt8.toNat_inj.mp
  rw [UInt8.toNat_ofNat', h]

theorem padding_add_four (length : ℕ) : padding (length + 4) = padding length := by
  unfold padding
  rw [Nat.add_mod_right]

/-- **Bytes are read back from their padded text.** -/
theorem decode_encode (raw : List UInt8) : decode (encode raw ++ padding (encode raw).length) = some raw := by
  induction raw using encode.induct with
  | case1 a b c rest ih =>
    have ha := a.toNat_lt
    have hb := b.toNat_lt
    have hc := c.toNat_lt
    rw [encode]
    simp only [List.length_cons, padding_add_four, List.cons_append]
    rw [decode, value_digit _ (by omega), value_digit _ (by omega), value_digit _ (by omega), value_digit _ (by omega)]
    dsimp only
    rw [ih, Option.map_some, ofNat_of_mod (a := a) (by omega), ofNat_of_mod (a := b) (by omega),
      ofNat_of_mod (a := c) (by omega)]
  | case2 a b =>
    have ha := a.toNat_lt
    have hb := b.toNat_lt
    rw [encode]
    show decode [_, _, _, '='] = _
    rw [decode, value_digit _ (by omega), value_digit _ (by omega), value_digit _ (by omega), value_padding]
    dsimp only
    rw [if_pos ⟨rfl, rfl⟩, ofNat_of_mod (a := a) (by omega), ofNat_of_mod (a := b) (by omega)]
  | case3 a =>
    have ha := a.toNat_lt
    rw [encode]
    show decode [_, _, '=', '='] = _
    rw [decode, value_digit _ (by omega), value_digit _ (by omega), value_padding]
    dsimp only
    rw [if_pos ⟨rfl, rfl, rfl⟩, ofNat_of_mod (a := a) (by omega)]
  | case4 => rfl

end ComputeMesh.Base64
