import ComputeMesh.Lib.Checks
import ComputeMesh.Lib.Datetime
import ComputeMesh.Lib.Hex
import ComputeMesh.Lib.Text

/-!
# Metering receipts of confidential jobs

`ConfidentialUsageReceipt` and `verify_confidential_usage_receipt` of `protocol/confidential_metering.py`.

* `ConfidentialUsageReceipt.validate` — what every receipt has to be;
* `verifyConfidentialUsageReceipt` — what a receipt has to say for a session, and its signature.
-/

namespace ComputeMesh.Protocol

open ComputeMesh.Text

/-- A `ConfidentialMeteringError`, or the overflow of a time near the ends of the calendar. -/
inductive MeteringError
  | metering (message : String)
  | overflow
  deriving DecidableEq

def receiptSchemaVersion : ℤ := 1

def maxTokensPerSide : ℤ := 10000000

structure ConfidentialUsageReceipt where
  schemaVersion : ℤ
  receiptId : String
  accountId : String
  jobId : String
  requestEnvelopeId : String
  responseId : String
  nodeId : String
  runtimeDigest : String
  privacyClass : String
  operation : String
  modelId : String
  promptTokens : ℤ
  completionTokens : ℤ
  finishedAt : String
  signature : String
  deriving DecidableEq

/-- What the verification calls: `datetime.fromisoformat`, `base64.urlsafe_b64decode` of a padded text, and the
Ed25519 verification of a signature over the canonical JSON of the unsigned part of a receipt. -/
structure MeteringLibrary where
  fromisoformat : String → Option Datetime
  urlsafeB64decode : String → Option (List UInt8)
  ed25519Verifies : List UInt8 → List UInt8 → ConfidentialUsageReceipt → Bool

def meteringError {α : Type} (message : String) : Except MeteringError α := .error (.metering message)

def validateHexId (value label : String) : Except MeteringError Unit :=
  if value.length ≠ 32 then meteringError ("invalid " ++ label)
  else if (bytesFromHex value).isNone then meteringError ("invalid " ++ label)
  else .ok ()

/-- The text checks of `validate`. -/
def validateText (name value : String) (limit : ℕ) : Except MeteringError Unit :=
  if strip value = "" ∨ limit < value.length then meteringError ("invalid " ++ name) else .ok ()

/-- The token checks of `validate`. -/
def validateTokens (name : String) (value : ℤ) : Except MeteringError Unit :=
  if value < 0 ∨ maxTokensPerSide < value then meteringError ("invalid " ++ name) else .ok ()

def parseTimestamp (lib : MeteringLibrary) (value : String) : Except MeteringError UtcTime :=
  match lib.fromisoformat value with
  | none => meteringError "invalid metering timestamp"
  | some (.naive _) => meteringError "metering timestamp must be timezone-aware"
  | some (.aware d) =>
    match d.astimezone with
    | none => .error .overflow
    | some t => .ok t

def decodeB64 (lib : MeteringLibrary) (value : String) (expectedLen : ℕ) (label : String) :
    Except MeteringError (List UInt8) :=
  if value = "" ∨ 1024 < value.length then meteringError ("invalid " ++ label)
  else
    match lib.urlsafeB64decode (value ++ String.ofList (List.replicate ((4 - value.length % 4) % 4) '=')) with
    | none => meteringError ("invalid " ++ label)
    | some raw => if raw.length ≠ expectedLen then meteringError ("invalid " ++ label ++ " length") else .ok raw

namespace ConfidentialUsageReceipt

def validate (lib : MeteringLibrary) (r : ConfidentialUsageReceipt) : Except MeteringError Unit := do
  if r.schemaVersion ≠ receiptSchemaVersion then
    meteringError "unsupported confidential metering receipt version"
  else do
    validateHexId r.receiptId "receipt_id"
    validateHexId r.requestEnvelopeId "request_envelope_id"
    validateHexId r.responseId "response_id"
    validateText "account_id" r.accountId 256
    validateText "job_id" r.jobId 256
    validateText "node_id" r.nodeId 256
    validateText "runtime_digest" r.runtimeDigest 512
    validateText "privacy_class" r.privacyClass 64
    validateText "operation" r.operation 64
    validateText "model_id" r.modelId 512
    if r.privacyClass ∉ ["CONFIDENTIAL", "CRYPTO_PRIVATE"] then
      meteringError "invalid confidential metering privacy class"
    else if r.operation ∉ ["chat_completion", "ollama_chat", "ollama_generate"] then
      meteringError "invalid confidential metering operation"
    else do
      validateTokens "prompt_tokens" r.promptTokens
      validateTokens "completion_tokens" r.completionTokens
      let _ ← parseTimestamp lib r.finishedAt
      let _ ← decodeB64 lib r.signature 64 "metering signature"
      return ()

end ConfidentialUsageReceipt

/-- What a receipt is expected to say. -/
structure ReceiptExpectation where
  accountId : String
  jobId : String
  requestEnvelopeId : String
  responseId : String
  nodeId : String
  runtimeDigest : String
  privacyClass : String
  operation : String
  modelId : String

def checkBinding (name value expected : String) : Except MeteringError Unit :=
  if value ≠ expected then meteringError ("confidential metering " ++ name ++ " binding mismatch") else .ok ()

/-- The binding checks of `verify_confidential_usage_receipt`. -/
def checkBindings (r : ConfidentialUsageReceipt) (expected : ReceiptExpectation) : Except MeteringError Unit := do
  checkBinding "account_id" r.accountId expected.accountId
  checkBinding "job_id" r.jobId expected.jobId
  checkBinding "request_envelope_id" r.requestEnvelopeId expected.requestEnvelopeId
  checkBinding "response_id" r.responseId expected.responseId
  checkBinding "node_id" r.nodeId expected.nodeId
  checkBinding "runtime_digest" r.runtimeDigest expected.runtimeDigest
  checkBinding "privacy_class" r.privacyClass expected.privacyClass
  checkBinding "operation" r.operation expected.operation
  checkBinding "model_id" r.modelId expected.modelId

/-- `verify_confidential_usage_receipt`, with a `not_after` in UTC. -/
def verifyConfidentialUsageReceipt (lib : MeteringLibrary) (r : ConfidentialUsageReceipt)
    (attestedMeteringPublicKey : String) (expected : ReceiptExpectation) (maxPromptTokens maxCompletionTokens : ℤ)
    (notAfter : UtcTime) : Except MeteringError ConfidentialUsageReceipt := do
  r.validate lib
  checkBindings r expected
  if maxPromptTokens < r.promptTokens then
    meteringError "confidential prompt token count exceeds reserved maximum"
  else if maxCompletionTokens < r.completionTokens then
    meteringError "confidential completion token count exceeds reserved maximum"
  else do
    let finished ← parseTimestamp lib r.finishedAt
    if notAfter.micros < finished.micros then
      meteringError "confidential metering receipt exceeds session lifetime"
    else do
      let publicRaw ← decodeB64 lib attestedMeteringPublicKey 32 "attested metering key"
      let signature ← decodeB64 lib r.signature 64 "metering signature"
      if lib.ed25519Verifies publicRaw signature r then return r
      else meteringError "confidential metering signature verification failed"

end ComputeMesh.Protocol
