import Mathlib

/-!
# Hexadecimal texts

* `bytesFromHex` — the bytes that a text spells out, two digits each.
-/

namespace ComputeMesh

/-- The value of a hexadecimal digit. -/
def hexDigit (c : Char) : Option ℕ :=
  if '0' ≤ c ∧ c ≤ '9' then some (c.toNat - 48)
  else if 'a' ≤ c ∧ c ≤ 'f' then some (c.toNat - 87)
  else if 'A' ≤ c ∧ c ≤ 'F' then some (c.toNat - 55)
  else none

/-- The bytes of a list of digits, with white space between the bytes. -/
def hexBytes : List Char → Option (List UInt8)
  | [] => some []
  | [c] => if c ∈ [' ', '\t', '\n', '\r', '\x0b', '\x0c'] then some [] else none
  | c :: d :: rest =>
    if c ∈ [' ', '\t', '\n', '\r', '\x0b', '\x0c'] then hexBytes (d :: rest)
    else do
      let high ← hexDigit c
      let low ← hexDigit d
      let bytes ← hexBytes rest
      return UInt8.ofNat (16 * high + low) :: bytes

/-- `bytes.fromhex`: two digits a byte, with white space between the bytes only; `none` is a `ValueError`. -/
def bytesFromHex (s : String) : Option ByteArray := (hexBytes s.toList).map fun bytes => ⟨bytes.toArray⟩

end ComputeMesh
