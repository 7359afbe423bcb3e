import ComputeMesh.Lib.Sha256

/-!
# HMAC-SHA-256

`hmac.new(key, message, hashlib.sha256).hexdigest()` of texts.

* `hmacHex` — the digest;
* `hmacHex_ne_empty` — it is not the empty text.
-/

namespace ComputeMesh.Sha256

def digestBytes (msg : List ℕ) : List ℕ :=
  let s := digest msg
  [s.a, s.b, s.c, s.d, s.e, s.f, s.g, s.h].flatMap (bytesOf 4)

/-- The key, hashed where it is longer than a block, and padded to one. -/
def blockKey (key : List ℕ) : List ℕ :=
  let short := if 64 < key.length then digestBytes key else key
  short ++ List.replicate (64 - short.length) 0

/-- `hmac.new(key, message, hashlib.sha256).hexdigest()`. -/
def hmacHex (key message : String) : String :=
  let keyBytes := blockKey ((key.toList.flatMap String.utf8EncodeChar).map UInt8.toNat)
  let inner := digestBytes (keyBytes.map (· ^^^ 0x36) ++ (message.toList.flatMap String.utf8EncodeChar).map UInt8.toNat)
  hexDigest ((keyBytes.map (· ^^^ 0x5c) ++ inner).map UInt8.ofNat)

theorem hmacHex_ne_empty (key message : String) : hmacHex key message ≠ "" := by
  intro h
  have hlen := length_hexDigest
    ((((blockKey ((key.toList.flatMap String.utf8EncodeChar).map UInt8.toNat)).map (· ^^^ 0x5c)) ++ digestBytes
      ((blockKey ((key.toList.flatMap String.utf8EncodeChar).map UInt8.toNat)).map (· ^^^ 0x36) ++
        (message.toList.flatMap String.utf8EncodeChar).map UInt8.toNat)).map UInt8.ofNat)
  rw [show hexDigest _ = "" from h] at hlen
  cases hlen

end ComputeMesh.Sha256
