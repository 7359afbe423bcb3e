import ComputeMesh.Lib.Checks
import ComputeMesh.Lib.Hex
import ComputeMesh.Lib.JsonAscii

/-!
# Envelopes of protected jobs

`ConfidentialBinding` and `ConfidentialEnvelope` of `protocol/confidential_envelope.py`: what they hold, their checks and
the texts that are authenticated with them.
-/

namespace ComputeMesh.Protocol

open ComputeMesh.Text

def envelopeSchemaVersion : ℤ := 2

def requestAlgorithm : String := "X25519-HKDF-SHA256-AES-256-GCM"

def responseAlgorithm : String := "X25519-HKDF-SHA256-AES-256-GCM-RESPONSE"

def maxCiphertextBytes : ℕ := 8 * 1024 * 1024

/-- A check of an envelope; the error is the message of a `ConfidentialEnvelopeError`. -/
abbrev EnvelopeCheck (α : Type) : Type := Except String α

structure ConfidentialBinding where
  accountId : String
  jobId : String
  nodeId : String
  attestationNonce : String
  runtimeDigest : String
  dataPlaneTlsSha256 : String
  privacyClass : String
  operation : String
  deriving DecidableEq

/-- A text that is not blank and not too long. -/
def checkText (name value : String) (limit : ℕ) : EnvelopeCheck Unit :=
  if strip value = "" ∨ limit < value.length then .error ("invalid " ++ name) else .ok ()

/-- `_validate_sha256_label`. -/
def checkSha256Label (value label : String) : EnvelopeCheck Unit :=
  if ¬value.toList.take 7 = "sha256:".toList ∨ value.length ≠ 71 then .error ("invalid " ++ label)
  else if ((value.toList.drop 7).any fun c => decide (c ∉ "0123456789abcdef".toList)) = true then
    .error ("invalid " ++ label)
  else .ok ()

/-- `_validate_hex_id`. -/
def checkHexId (value label : String) : EnvelopeCheck Unit :=
  if value.length ≠ 32 ∨ (bytesFromHex value).isNone then .error ("invalid " ++ label) else .ok ()

/-- `ConfidentialBinding.validate`. -/
def ConfidentialBinding.validate (b : ConfidentialBinding) : EnvelopeCheck Unit := do
  checkText "account_id" b.accountId 256
  checkText "job_id" b.jobId 256
  checkText "node_id" b.nodeId 256
  checkText "attestation_nonce" b.attestationNonce 512
  checkText "runtime_digest" b.runtimeDigest 512
  checkText "data_plane_tls_sha256" b.dataPlaneTlsSha256 128
  checkText "privacy_class" b.privacyClass 64
  checkText "operation" b.operation 64
  if b.privacyClass ∉ ["CONFIDENTIAL", "CRYPTO_PRIVATE"] then .error "invalid protected privacy_class"
  else if b.operation ∉ ["chat_completion", "ollama_chat", "ollama_generate"] then
    .error "invalid confidential operation"
  else checkSha256Label b.dataPlaneTlsSha256 "data_plane_tls_sha256"

structure ConfidentialEnvelope where
  schemaVersion : ℤ
  algorithm : String
  envelopeId : String
  binding : ConfidentialBinding
  senderEphemeralPublicKey : String
  salt : String
  nonce : String
  ciphertext : String
  deriving DecidableEq

/-- `_decode_b64url`, with `base64.urlsafe_b64decode` of a padded text. -/
def decodeB64url (urlsafeB64decode : String → Option (List UInt8)) (value : String) (expectedLen : Option ℕ)
    (label : String) : EnvelopeCheck (List UInt8) :=
  if value = "" ∨ maxCiphertextBytes * 2 < value.length then .error ("invalid " ++ label)
  else
    match urlsafeB64decode (value ++ String.ofList (List.replicate ((4 - value.length % 4) % 4) '=')) with
    | none => .error ("invalid " ++ label)
    | some raw =>
      if (expectedLen.any fun len => decide (raw.length ≠ len)) = true then .error ("invalid " ++ label ++ " length")
      else .ok raw

/-- `ConfidentialEnvelope.validate`. -/
def ConfidentialEnvelope.validate (urlsafeB64decode : String → Option (List UInt8)) (e : ConfidentialEnvelope) :
    EnvelopeCheck Unit :=
  if e.schemaVersion ≠ envelopeSchemaVersion then .error "unsupported confidential envelope version"
  else if e.algorithm ≠ requestAlgorithm then .error "unsupported confidential envelope algorithm"
  else do
    checkHexId e.envelopeId "envelope_id"
    e.binding.validate
    let _ ← decodeB64url urlsafeB64decode e.senderEphemeralPublicKey (some 32) "sender key"
    let _ ← decodeB64url urlsafeB64decode e.salt (some 32) "salt"
    let _ ← decodeB64url urlsafeB64decode e.nonce (some 12) "nonce"
    let ciphertext ← decodeB64url urlsafeB64decode e.ciphertext none "ciphertext"
    if ciphertext.length < 16 ∨ maxCiphertextBytes < ciphertext.length then .error "invalid ciphertext size"
    else .ok ()

/-! ### Texts of documents -/

/-- `json.dumps` of an object whose keys are given in their order, from the texts of its values. -/
def objectOf (members : List (String × List Char)) : List Char :=
  '\x7b' :: (List.intercalate [','] (members.map fun m => JsonAscii.asciiText m.1 ++ ':' :: m.2) ++ ['\x7d'])

/-- `as_dict` of a binding, as its text. -/
def ConfidentialBinding.dumps (b : ConfidentialBinding) : List Char :=
  objectOf [("account_id", JsonAscii.asciiText b.accountId), ("attestation_nonce", JsonAscii.asciiText b.attestationNonce),
    ("data_plane_tls_sha256", JsonAscii.asciiText b.dataPlaneTlsSha256), ("job_id", JsonAscii.asciiText b.jobId),
    ("node_id", JsonAscii.asciiText b.nodeId), ("operation", JsonAscii.asciiText b.operation),
    ("privacy_class", JsonAscii.asciiText b.privacyClass), ("runtime_digest", JsonAscii.asciiText b.runtimeDigest)]

end ComputeMesh.Protocol
