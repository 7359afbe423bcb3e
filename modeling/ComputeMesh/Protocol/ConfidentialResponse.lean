import ComputeMesh.Lib.JsonRead
import ComputeMesh.Protocol.ConfidentialEnvelope

/-!
# Keys and responses of protected jobs

The encryption of requests and of their responses in `protocol/confidential_envelope.py`.  X25519, HKDF, SHA-256 and
AES-GCM are parameters; what a call draws at random is given to it.

* `requestAad_inj` — the authenticated text of a request tells its id;
* `responseKey_not_foreign` — **the response key of a request is the key of nothing else.**
-/

namespace ComputeMesh.Protocol

open ComputeMesh.Text List

def requestKdfInfo : List UInt8 := Json.utf8 "ComputeMesh.ConfidentialEnvelope.request.v2".toList

def responseKdfInfo : List UInt8 := Json.utf8 "ComputeMesh.ConfidentialEnvelope.response.v2".toList

/-- What `cryptography` and `base64` compute. -/
structure EnvelopeCrypto (PrivateKey Key : Type) where
  /-- `base64.urlsafe_b64encode` without its padding, and `urlsafe_b64decode` of a padded text. -/
  b64url : List UInt8 → String
  urlsafeB64decode : String → Option (List UInt8)
  publicBytes : PrivateKey → List UInt8
  exchange : PrivateKey → List UInt8 → Option (List UInt8)
  sha256 : List UInt8 → List UInt8
  hkdf : List UInt8 → List UInt8 → List UInt8 → Key
  aesGcmEncrypt : Key → List UInt8 → List UInt8 → List UInt8 → List UInt8
  aesGcmDecrypt : Key → List UInt8 → List UInt8 → List UInt8 → Option (List UInt8)

/-- What these calls raise. -/
inductive CryptoExn
  | envelope (message : String)
  | value
  deriving DecidableEq

/-- A check, in a call that raises other errors too. -/
def checked {α : Type} : EnvelopeCheck α → Except CryptoExn α
  | .ok a => .ok a
  | .error message => .error (.envelope message)

structure ConfidentialResponseEnvelope where
  schemaVersion : ℤ
  algorithm : String
  responseId : String
  requestEnvelopeId : String
  binding : ConfidentialBinding
  nonce : String
  ciphertext : String
  deriving DecidableEq

/-- A message that was encrypted. -/
structure Sealing (Key : Type) where
  key : Key
  nonce : List UInt8
  aad : List UInt8
  plaintext : List UInt8
  ciphertext : List UInt8
  deriving DecidableEq

structure ConfidentialClientContext (Key : Type) where
  requestEnvelopeId : String
  binding : ConfidentialBinding
  responseKey : Key
  closed : Bool
  deriving DecidableEq

variable {PrivateKey Key : Type} (crypto : EnvelopeCrypto PrivateKey Key)

/-- `ConfidentialResponseEnvelope.validate`. -/
def ConfidentialResponseEnvelope.validate (r : ConfidentialResponseEnvelope) : EnvelopeCheck Unit :=
  if r.schemaVersion ≠ envelopeSchemaVersion then .error "unsupported confidential response version"
  else if r.algorithm ≠ responseAlgorithm then .error "unsupported confidential response algorithm"
  else do
    checkHexId r.responseId "response_id"
    checkHexId r.requestEnvelopeId "request_envelope_id"
    r.binding.validate
    let _ ← decodeB64url crypto.urlsafeB64decode r.nonce (some 12) "response nonce"
    let ciphertext ← decodeB64url crypto.urlsafeB64decode r.ciphertext none "response ciphertext"
    if ciphertext.length < 16 ∨ maxCiphertextBytes < ciphertext.length then .error "invalid response ciphertext size"
    else .ok ()

/-! ### Responses as documents -/

/-- The text of a field.  Every check refuses the empty text with the error it has for a value that is no text. -/
def textOf : Json → String
  | .str text => text
  | _ => ""

/-- `value.get(key)`. -/
def fieldOf (fields : List (String × Json)) (key : String) : Json := (Dict.find key fields).getD .null

/-- `set(value) != keys`. -/
def keysDiffer (fields : List (String × Json)) (keys : List String) : Bool :=
  !(fields.all fun field => decide (field.1 ∈ keys)) || !(keys.all fun key => (Dict.find key fields).isSome)

/-- `ConfidentialBinding.from_dict`. -/
def ConfidentialBinding.fromDict : Json → EnvelopeCheck ConfidentialBinding
  | .obj fields =>
    if keysDiffer fields ["account_id", "job_id", "node_id", "attestation_nonce", "runtime_digest",
        "data_plane_tls_sha256", "privacy_class", "operation"] = true then .error "invalid envelope binding"
    else
      let binding : ConfidentialBinding :=
        { accountId := textOf (fieldOf fields "account_id")
          jobId := textOf (fieldOf fields "job_id")
          nodeId := textOf (fieldOf fields "node_id")
          attestationNonce := textOf (fieldOf fields "attestation_nonce")
          runtimeDigest := textOf (fieldOf fields "runtime_digest")
          dataPlaneTlsSha256 := textOf (fieldOf fields "data_plane_tls_sha256")
          privacyClass := textOf (fieldOf fields "privacy_class")
          operation := textOf (fieldOf fields "operation") }
      binding.validate.map fun _ => binding
  | _ => .error "invalid envelope binding"

/-- `ConfidentialResponseEnvelope.from_dict`. -/
def ConfidentialResponseEnvelope.fromDict : Json → EnvelopeCheck ConfidentialResponseEnvelope
  | .obj fields =>
    if keysDiffer fields ["schema_version", "algorithm", "response_id", "request_envelope_id", "binding", "nonce",
        "ciphertext"] = true then .error "unexpected or missing confidential response fields"
    else
      match fieldOf fields "binding" with
      | .obj bindingFields => do
        let binding ← ConfidentialBinding.fromDict (.obj bindingFields)
        let response : ConfidentialResponseEnvelope :=
          { schemaVersion :=
              if (fieldOf fields "schema_version").eqInt envelopeSchemaVersion = true then envelopeSchemaVersion else 0
            algorithm := textOf (fieldOf fields "algorithm")
            responseId := textOf (fieldOf fields "response_id")
            requestEnvelopeId := textOf (fieldOf fields "request_envelope_id")
            binding
            nonce := textOf (fieldOf fields "nonce")
            ciphertext := textOf (fieldOf fields "ciphertext") }
        response.validate crypto
        return response
      | _ => .error "invalid confidential response binding"
  | _ => .error "unexpected or missing confidential response fields"

/-! ### Authenticated texts and keys -/

def requestAad (envelopeId : String) (binding : ConfidentialBinding) : List UInt8 :=
  Json.utf8 (objectOf [("algorithm", JsonAscii.asciiText requestAlgorithm), ("binding", binding.dumps),
    ("envelope_id", JsonAscii.asciiText envelopeId), ("schema_version", (toString envelopeSchemaVersion).toList)])

def responseAad (responseId requestEnvelopeId : String) (binding : ConfidentialBinding) : List UInt8 :=
  Json.utf8 (objectOf [("algorithm", JsonAscii.asciiText responseAlgorithm), ("binding", binding.dumps),
    ("request_envelope_id", JsonAscii.asciiText requestEnvelopeId), ("response_id", JsonAscii.asciiText responseId),
    ("schema_version", (toString envelopeSchemaVersion).toList)])

def deriveKey (sharedSecret salt requestAad info : List UInt8) : Key :=
  crypto.hkdf salt (info ++ crypto.sha256 requestAad) sharedSecret

/-- The response key that `_derive_tee_keys` returns. -/
def deriveResponseKey (e : ConfidentialEnvelope) (recipientPrivateKey : PrivateKey) : Except CryptoExn Key := do
  let sender ← checked (decodeB64url crypto.urlsafeB64decode e.senderEphemeralPublicKey (some 32) "sender key")
  let salt ← checked (decodeB64url crypto.urlsafeB64decode e.salt (some 32) "salt")
  match crypto.exchange recipientPrivateKey sender with
  | none => .error .value
  | some sharedSecret => .ok (deriveKey crypto sharedSecret salt (requestAad e.envelopeId e.binding) responseKdfInfo)

/-- What `create_confidential_request` draws. -/
structure RequestEntropy (PrivateKey : Type) where
  senderPrivate : PrivateKey
  salt : List UInt8
  nonce : List UInt8
  envelopeId : String

def createConfidentialRequest (entropy : RequestEntropy PrivateKey) (plaintext : List UInt8) (recipientPublicKey : String)
    (binding : ConfidentialBinding) : Except CryptoExn (ConfidentialEnvelope × ConfidentialClientContext Key) :=
  if maxCiphertextBytes - 16 < plaintext.length then .error (.envelope "plaintext exceeds confidential envelope limit")
  else do
    checked binding.validate
    let recipient ← checked (decodeB64url crypto.urlsafeB64decode recipientPublicKey (some 32) "recipient key")
    match crypto.exchange entropy.senderPrivate recipient with
    | none => .error .value
    | some sharedSecret =>
      let aad := requestAad entropy.envelopeId binding
      let envelope : ConfidentialEnvelope :=
        { schemaVersion := envelopeSchemaVersion
          algorithm := requestAlgorithm
          envelopeId := entropy.envelopeId
          binding
          senderEphemeralPublicKey := crypto.b64url (crypto.publicBytes entropy.senderPrivate)
          salt := crypto.b64url entropy.salt
          nonce := crypto.b64url entropy.nonce
          ciphertext := crypto.b64url
            (crypto.aesGcmEncrypt (deriveKey crypto sharedSecret entropy.salt aad requestKdfInfo) entropy.nonce aad plaintext) }
      checked (envelope.validate crypto.urlsafeB64decode)
      return (envelope, ⟨entropy.envelopeId, binding, deriveKey crypto sharedSecret entropy.salt aad responseKdfInfo, false⟩)

/-- What a response draws: its id and its nonce. -/
structure ResponseEntropy where
  responseId : String
  nonce : List UInt8

/-- `encrypt_response_in_attested_recipient`: the response, and what was encrypted for it. -/
def encryptResponse (entropy : ResponseEntropy) (e : ConfidentialEnvelope) (recipientPrivateKey : PrivateKey)
    (plaintext : List UInt8) : Except CryptoExn (ConfidentialResponseEnvelope × Sealing Key) := do
  checked (e.validate crypto.urlsafeB64decode)
  if maxCiphertextBytes - 16 < plaintext.length then
    .error (.envelope "response plaintext exceeds confidential envelope limit")
  else
    let key ← deriveResponseKey crypto e recipientPrivateKey
    let aad := responseAad entropy.responseId e.envelopeId e.binding
    let ciphertext := crypto.aesGcmEncrypt key entropy.nonce aad plaintext
    let response : ConfidentialResponseEnvelope :=
      { schemaVersion := envelopeSchemaVersion
        algorithm := responseAlgorithm
        responseId := entropy.responseId
        requestEnvelopeId := e.envelopeId
        binding := e.binding
        nonce := crypto.b64url entropy.nonce
        ciphertext := crypto.b64url ciphertext }
    checked (response.validate crypto)
    return (response, ⟨key, entropy.nonce, aad, plaintext, ciphertext⟩)

/-- `decrypt_confidential_response`. -/
def decryptResponse (ctx : ConfidentialClientContext Key) (r : ConfidentialResponseEnvelope) : EnvelopeCheck (List UInt8) := do
  r.validate crypto
  if r.requestEnvelopeId ≠ ctx.requestEnvelopeId then .error "confidential response request binding mismatch"
  else if r.binding ≠ ctx.binding then .error "confidential response binding mismatch"
  else
    let nonce ← decodeB64url crypto.urlsafeB64decode r.nonce (some 12) "response nonce"
    let ciphertext ← decodeB64url crypto.urlsafeB64decode r.ciphertext none "response ciphertext"
    if ctx.closed = true then .error "confidential client context is closed"
    else
      match crypto.aesGcmDecrypt ctx.responseKey nonce (responseAad r.responseId r.requestEnvelopeId r.binding) ciphertext with
      | none => .error "confidential envelope authentication failed"
      | some plaintext => .ok plaintext

/-! ### Whose key a response key is -/

/-- The text of a value can be told from what follows it. -/
def Delimited (v v' : List Char) : Prop := ∀ x y, v ++ x = v' ++ y → v = v' ∧ x = y

theorem delimited_text (s t : String) : Delimited (JsonAscii.asciiText s) (JsonAscii.asciiText t) := by
  intro x y h
  obtain ⟨rfl, hxy⟩ := JsonAscii.asciiText_append_inj h
  exact ⟨rfl, hxy⟩

theorem delimited_self (v : List Char) : Delimited v v := fun _ _ h => ⟨rfl, append_cancel_left h⟩

theorem objectOf_cons_cons (first next : String × List Char) (rest : List (String × List Char)) :
    ∃ tail, objectOf (first :: next :: rest) = '\x7b' :: (JsonAscii.asciiText first.1 ++ ':' :: (first.2 ++ ',' :: tail)) ∧
      objectOf (next :: rest) = '\x7b' :: tail := by
  refine ⟨intercalate [','] ((next :: rest).map fun m => JsonAscii.asciiText m.1 ++ ':' :: m.2) ++ ['\x7d'], ?_, rfl⟩
  unfold objectOf
  rw [map_cons, map_cons, intercalate_cons_cons]
  simp only [append_assoc, cons_append, nil_append]

/-- Two objects whose first members have one key agree on its value and on the other members. -/
theorem objectOf_cons_append_inj {key : String} {v v' : List Char} {next next' : String × List Char}
    {rest rest' : List (String × List Char)} {x y : List Char} (hv : Delimited v v')
    (h : objectOf ((key, v) :: next :: rest) ++ x = objectOf ((key, v') :: next' :: rest') ++ y) :
    v = v' ∧ objectOf (next :: rest) ++ x = objectOf (next' :: rest') ++ y := by
  obtain ⟨tail, htail, hrest⟩ := objectOf_cons_cons (key, v) next rest
  obtain ⟨tail', htail', hrest'⟩ := objectOf_cons_cons (key, v') next' rest'
  rw [htail, htail'] at h
  simp only [cons_append, append_assoc, cons.injEq, true_and] at h
  obtain ⟨-, hvalue⟩ := cons.inj (append_cancel_left h)
  obtain ⟨rfl, hafter⟩ := hv _ _ hvalue
  refine ⟨rfl, ?_⟩
  rw [hrest, hrest', cons_append, cons_append, (cons.inj hafter).2]

theorem objectOf_singleton_append_inj {key : String} {v v' : List Char} {x y : List Char} (hv : Delimited v v')
    (h : objectOf [(key, v)] ++ x = objectOf [(key, v')] ++ y) : v = v' ∧ x = y := by
  have hobject : ∀ w z : List Char,
      objectOf [(key, w)] ++ z = '\x7b' :: (JsonAscii.asciiText key ++ ':' :: (w ++ '\x7d' :: z)) := by
    intro w z
    unfold objectOf
    simp only [map_cons, map_nil, intercalate_singleton, cons_append, append_assoc, nil_append]
  rw [hobject, hobject] at h
  obtain ⟨-, hvalue⟩ := cons.inj (append_cancel_left (cons.inj h).2)
  obtain ⟨rfl, hafter⟩ := hv _ _ hvalue
  exact ⟨rfl, (cons.inj hafter).2⟩

theorem delimited_dumps (b b' : ConfidentialBinding) : Delimited b.dumps b'.dumps := by
  intro x y h
  unfold ConfidentialBinding.dumps at h ⊢
  obtain ⟨h1, h⟩ := objectOf_cons_append_inj (delimited_text _ _) h
  obtain ⟨h2, h⟩ := objectOf_cons_append_inj (delimited_text _ _) h
  obtain ⟨h3, h⟩ := objectOf_cons_append_inj (delimited_text _ _) h
  obtain ⟨h4, h⟩ := objectOf_cons_append_inj (delimited_text _ _) h
  obtain ⟨h5, h⟩ := objectOf_cons_append_inj (delimited_text _ _) h
  obtain ⟨h6, h⟩ := objectOf_cons_append_inj (delimited_text _ _) h
  obtain ⟨h7, h⟩ := objectOf_cons_append_inj (delimited_text _ _) h
  obtain ⟨h8, h⟩ := objectOf_singleton_append_inj (delimited_text _ _) h
  rw [h1, h2, h3, h4, h5, h6, h7, h8]
  exact ⟨rfl, h⟩

/-- **The authenticated text of a request tells its id.** -/
theorem requestAad_inj {id id' : String} {b b' : ConfidentialBinding} (h : requestAad id b = requestAad id' b') : id = id' := by
  unfold requestAad at h
  have htext := congrArg (· ++ []) (Json.utf8_injective h)
  obtain ⟨-, hbinding⟩ := objectOf_cons_append_inj (delimited_self _) htext
  obtain ⟨-, hid⟩ := objectOf_cons_append_inj (delimited_dumps b b') hbinding
  obtain ⟨heq, -⟩ := objectOf_cons_append_inj (delimited_text id id') hid
  rw [← append_nil (JsonAscii.asciiText id), ← append_nil (JsonAscii.asciiText id')] at heq
  exact (JsonAscii.asciiText_append_inj heq).1

/-- **Ideal derivation of keys**: SHA-256 has no collisions, and keys that are derived from different inputs differ. -/
structure IdealKdf : Prop where
  sha256 : Function.Injective crypto.sha256
  hkdf : ∀ salt info secret salt' info' secret', crypto.hkdf salt info secret = crypto.hkdf salt' info' secret' →
    salt = salt' ∧ info = info' ∧ secret = secret'

/-- A key of another request than `envelopeId`, or of a request itself. -/
def ForeignKey (envelopeId : String) (key : Key) : Prop :=
  ∃ sharedSecret salt id binding info, key = deriveKey crypto sharedSecret salt (requestAad id binding) info ∧
    (info = requestKdfInfo ∨ info = responseKdfInfo ∧ id ≠ envelopeId)

variable {crypto}

theorem kdfInfo_ne (d d' : List UInt8) : requestKdfInfo ++ d ≠ responseKdfInfo ++ d' := by
  intro h
  have htake := congrArg (take 36) h
  rw [take_append_of_le_length (by decide), take_append_of_le_length (by decide)] at htake
  exact absurd htake (by decide)

variable {binding : ConfidentialBinding}

/-- **The response key of a request is the key of nothing else.** -/
theorem responseKey_not_foreign (hkdf : IdealKdf crypto) {sharedSecret salt : List UInt8} {id : String} :
    ¬ForeignKey crypto id (deriveKey crypto sharedSecret salt (requestAad id binding) responseKdfInfo) := by
  rintro ⟨secret', salt', id', binding', info, hkey, hinfo⟩
  obtain ⟨-, htext, -⟩ := hkdf.hkdf _ _ _ _ _ _ hkey
  rcases hinfo with rfl | ⟨rfl, hne⟩
  · exact kdfInfo_ne _ _ htext.symm
  · exact hne (requestAad_inj (hkdf.sha256 (append_cancel_left htext))).symm

/-! ### What a call leaves behind -/

theorem checked_eq_ok {α : Type} {x : EnvelopeCheck α} {a : α} (h : checked x = .ok a) : x = .ok a := by
  cases x with
  | error message => cases h
  | ok b =>
    cases h
    rfl

variable {plaintext : List UInt8} {e : ConfidentialEnvelope} {ctx : ConfidentialClientContext Key}

theorem createConfidentialRequest_ok {entropy : RequestEntropy PrivateKey} {recipient : String}

    (h : createConfidentialRequest crypto entropy plaintext recipient binding = .ok (e, ctx)) :
    ∃ sender sharedSecret, decodeB64url crypto.urlsafeB64decode recipient (some 32) "recipient key" = .ok sender ∧
      crypto.exchange entropy.senderPrivate sender = some sharedSecret ∧ e.validate crypto.urlsafeB64decode = .ok () ∧
      e.senderEphemeralPublicKey = crypto.b64url (crypto.publicBytes entropy.senderPrivate) ∧
      e.salt = crypto.b64url entropy.salt ∧ ctx = ⟨e.envelopeId, e.binding,
        deriveKey crypto sharedSecret entropy.salt (requestAad e.envelopeId e.binding) responseKdfInfo, false⟩ := by
  unfold createConfidentialRequest at h
  rw [ite_error_eq_ok_iff] at h
  obtain ⟨-, h⟩ := h
  obtain ⟨-, -, h⟩ := bind_eq_ok_iff.mp h
  obtain ⟨sender, hsender, h⟩ := bind_eq_ok_iff.mp h
  split at h
  · cases h
  · rename_i sharedSecret hshared
    obtain ⟨⟨⟩, hvalid, h⟩ := bind_eq_ok_iff.mp h
    cases h
    exact ⟨sender, sharedSecret, checked_eq_ok hsender, hshared, checked_eq_ok hvalid, rfl, rfl, rfl⟩

variable {draw : ResponseEntropy} {worker : PrivateKey} {r : ConfidentialResponseEnvelope} {s : Sealing Key}

theorem encryptResponse_ok

    (h : encryptResponse crypto draw e worker plaintext = .ok (r, s)) :
    ∃ key, deriveResponseKey crypto e worker = .ok key ∧ r.validate crypto = .ok () ∧
      s = ⟨key, draw.nonce, responseAad draw.responseId e.envelopeId e.binding, plaintext,
        crypto.aesGcmEncrypt key draw.nonce (responseAad draw.responseId e.envelopeId e.binding) plaintext⟩ ∧
      r = ⟨envelopeSchemaVersion, responseAlgorithm, draw.responseId, e.envelopeId, e.binding, crypto.b64url s.nonce,
        crypto.b64url s.ciphertext⟩ := by
  unfold encryptResponse at h
  obtain ⟨-, -, h⟩ := bind_eq_ok_iff.mp h
  rw [ite_error_eq_ok_iff] at h
  obtain ⟨-, h⟩ := h
  obtain ⟨key, hkey, h⟩ := bind_eq_ok_iff.mp h
  obtain ⟨⟨⟩, hvalid, h⟩ := bind_eq_ok_iff.mp h
  cases h
  exact ⟨key, hkey, checked_eq_ok hvalid, rfl, rfl⟩

/-- **A response that is decrypted was opened under the key of the client**, with its own nonce and authenticated text. -/
theorem decryptResponse_ok (h : decryptResponse crypto ctx r = .ok plaintext) : ∃ nonce ciphertext,
      decodeB64url crypto.urlsafeB64decode r.nonce (some 12) "response nonce" = .ok nonce ∧
      decodeB64url crypto.urlsafeB64decode r.ciphertext none "response ciphertext" = .ok ciphertext ∧
      crypto.aesGcmDecrypt ctx.responseKey nonce (responseAad r.responseId r.requestEnvelopeId r.binding) ciphertext =
        some plaintext := by
  unfold decryptResponse at h
  obtain ⟨-, -, h⟩ := bind_eq_ok_iff.mp h
  rw [ite_error_eq_ok_iff, ite_error_eq_ok_iff] at h
  obtain ⟨-, -, h⟩ := h
  obtain ⟨nonce, hnonce, h⟩ := bind_eq_ok_iff.mp h
  obtain ⟨ciphertext, hciphertext, h⟩ := bind_eq_ok_iff.mp h
  rw [ite_error_eq_ok_iff] at h
  obtain ⟨-, h⟩ := h
  refine ⟨nonce, ciphertext, hnonce, hciphertext, ?_⟩
  split at h
  · cases h
  · rename_i opened hopened
    cases h
    exact hopened

/-! ### Responses on their own way -/

/-- **What the libraries document**: texts of bytes are read back, the two sides of an exchange agree, and what was encrypted
is decrypted. -/
structure LawfulCrypto (crypto : EnvelopeCrypto PrivateKey Key) : Prop where
  b64 : ∀ raw, crypto.urlsafeB64decode (crypto.b64url raw ++
    String.ofList (List.replicate ((4 - (crypto.b64url raw).length % 4) % 4) '=')) = some raw
  exchange : ∀ key key', crypto.exchange key (crypto.publicBytes key') = crypto.exchange key' (crypto.publicBytes key)
  aesGcm : ∀ key nonce aad plaintext,
    crypto.aesGcmDecrypt key nonce aad (crypto.aesGcmEncrypt key nonce aad plaintext) = some plaintext

theorem decodeB64url_b64url (hlaw : LawfulCrypto crypto) {raw read : List UInt8} {len : Option ℕ} {label : String}
    (h : decodeB64url crypto.urlsafeB64decode (crypto.b64url raw) len label = .ok read) : read = raw := by
  unfold decodeB64url at h
  rw [ite_error_eq_ok_iff, hlaw.b64] at h
  obtain ⟨-, h⟩ := h
  dsimp only at h
  rw [ite_error_eq_ok_iff] at h
  exact (Except.ok.inj h.2).symm

theorem ConfidentialEnvelope.validate_ok {decode : String → Option (List UInt8)} (h : e.validate decode = .ok ()) :
    (∃ sender, decodeB64url decode e.senderEphemeralPublicKey (some 32) "sender key" = .ok sender) ∧
      ∃ salt, decodeB64url decode e.salt (some 32) "salt" = .ok salt := by
  unfold ConfidentialEnvelope.validate at h
  rw [ite_error_eq_ok_iff, ite_error_eq_ok_iff] at h
  obtain ⟨-, -, h⟩ := h
  obtain ⟨-, -, h⟩ := bind_eq_ok_iff.mp h
  obtain ⟨-, -, h⟩ := bind_eq_ok_iff.mp h
  obtain ⟨sender, hsender, h⟩ := bind_eq_ok_iff.mp h
  obtain ⟨salt, hsalt, -⟩ := bind_eq_ok_iff.mp h
  exact ⟨⟨sender, hsender⟩, salt, hsalt⟩

theorem ConfidentialResponseEnvelope.validate_ok (h : r.validate crypto = .ok ()) :
    (∃ nonce, decodeB64url crypto.urlsafeB64decode r.nonce (some 12) "response nonce" = .ok nonce) ∧
      ∃ ciphertext, decodeB64url crypto.urlsafeB64decode r.ciphertext none "response ciphertext" = .ok ciphertext := by
  unfold ConfidentialResponseEnvelope.validate at h
  rw [ite_error_eq_ok_iff, ite_error_eq_ok_iff] at h
  obtain ⟨-, -, h⟩ := h
  obtain ⟨-, -, h⟩ := bind_eq_ok_iff.mp h
  obtain ⟨-, -, h⟩ := bind_eq_ok_iff.mp h
  obtain ⟨-, -, h⟩ := bind_eq_ok_iff.mp h
  obtain ⟨nonce, hnonce, h⟩ := bind_eq_ok_iff.mp h
  obtain ⟨ciphertext, hciphertext, -⟩ := bind_eq_ok_iff.mp h
  exact ⟨⟨nonce, hnonce⟩, ciphertext, hciphertext⟩

/-- **The two sides derive one response key.** -/
theorem deriveResponseKey_of_create (hlaw : LawfulCrypto crypto) {entropy : RequestEntropy PrivateKey}

    (h : createConfidentialRequest crypto entropy plaintext (crypto.b64url (crypto.publicBytes worker)) binding =
      .ok (e, ctx)) : deriveResponseKey crypto e worker = .ok ctx.responseKey := by
  obtain ⟨recipient, sharedSecret, hrecipient, hshared, hvalid, hsender, hsalt, rfl⟩ := createConfidentialRequest_ok h
  obtain rfl := decodeB64url_b64url hlaw hrecipient
  obtain ⟨⟨sender, hsenderRaw⟩, salt, hsaltRaw⟩ := ConfidentialEnvelope.validate_ok hvalid
  unfold deriveResponseKey
  rw [hsenderRaw, hsaltRaw]
  rw [hsender] at hsenderRaw
  rw [hsalt] at hsaltRaw
  obtain rfl := decodeB64url_b64url hlaw hsenderRaw
  obtain rfl := decodeB64url_b64url hlaw hsaltRaw
  show (match crypto.exchange worker (crypto.publicBytes entropy.senderPrivate) with
    | none => Except.error CryptoExn.value
    | some sharedSecret => _) = _
  rw [hlaw.exchange, hshared]

theorem encryptResponse_decoded (hlaw : LawfulCrypto crypto)

    (h : encryptResponse crypto draw e worker plaintext = .ok (r, s)) :
    decodeB64url crypto.urlsafeB64decode r.nonce (some 12) "response nonce" = .ok s.nonce ∧
      decodeB64url crypto.urlsafeB64decode r.ciphertext none "response ciphertext" = .ok s.ciphertext ∧
      responseAad r.responseId r.requestEnvelopeId r.binding = s.aad ∧
      crypto.aesGcmDecrypt s.key s.nonce s.aad s.ciphertext = some plaintext ∧ s.plaintext = plaintext := by
  obtain ⟨key, -, hvalid, rfl, rfl⟩ := encryptResponse_ok h
  obtain ⟨⟨nonce, hnonce⟩, ciphertext, hciphertext⟩ := ConfidentialResponseEnvelope.validate_ok hvalid
  obtain rfl := decodeB64url_b64url hlaw hnonce
  obtain rfl := decodeB64url_b64url hlaw hciphertext
  exact ⟨hnonce, hciphertext, rfl, hlaw.aesGcm _ _ _ _, rfl⟩

end ComputeMesh.Protocol
