import ComputeMesh.Protocol.ConfidentialResponse

/-!
# Encrypted streams

`protocol/confidential_stream.py`: a frame is a response whose plaintext wraps one chunk with its sequence number, and the
last frame carries the done flag in place of a chunk.

* `openPayload_payload` — **what was wrapped is read back**, under the sequence number it was wrapped with and no other;
* `decryptStreamEvent_ok` — an event comes from a plaintext that the key of the client opened.
-/

namespace ComputeMesh.Protocol

def streamSchemaVersion : ℤ := 1

def maxStreamSequence : ℕ := 10000000

/-- What these calls raise. -/
inductive StreamExn
  | stream (message : String)
  | crypto (exn : CryptoExn)
  deriving DecidableEq

/-- `ConfidentialStreamEvent`; `done` and the chunk are one field, for an event has the one or the other. -/
structure ConfidentialStreamEvent where
  sequence : ℕ
  chunk : Option Json
  responseId : String

def ConfidentialStreamEvent.done (event : ConfidentialStreamEvent) : Bool := event.chunk.isNone

/-- `_validate_sequence` of a number. -/
def checkSequence (sequence : ℕ) : Except StreamExn Unit :=
  if maxStreamSequence < sequence then .error (.stream "invalid protected stream sequence") else .ok ()

/-- `isinstance(value, str) and value`. -/
def isFilledText : Json → Bool
  | .str text => text != ""
  | _ => false

/-- `isinstance(value, int)`, of which a `bool` is one. -/
def isInstanceInt : Json → Bool
  | .int _ => true
  | .bool _ => true
  | _ => false

def checkStreamChoice : Json → Except StreamExn Unit
  | .obj fields =>
    if isInstanceInt (fieldOf fields "index") = false then .error (.stream "protected OpenAI stream choice is invalid")
    else
      match fieldOf fields "delta" with
      | .null => .ok ()
      | .obj _ => .ok ()
      | _ => .error (.stream "protected OpenAI stream delta is invalid")
  | _ => .error (.stream "protected OpenAI stream choice is invalid")

/-- `_validate_openai_chunk`. -/
def checkOpenaiChunk : Json → Except StreamExn Unit
  | .obj fields =>
    if isFilledText (fieldOf fields "id") = false then .error (.stream "protected OpenAI chunk id is invalid")
    else if textOf (fieldOf fields "object") ≠ "chat.completion.chunk" then
      .error (.stream "protected OpenAI chunk object is invalid")
    else if isInstanceInt (fieldOf fields "created") = false then
      .error (.stream "protected OpenAI chunk created field is invalid")
    else if isFilledText (fieldOf fields "model") = false then .error (.stream "protected OpenAI chunk model is invalid")
    else
      match fieldOf fields "choices" with
      | .arr choices => checkEach checkStreamChoice choices
      | _ => .error (.stream "protected OpenAI chunk choices are invalid")
  | _ => .error (.stream "protected stream chunk must be an object")

/-- The plaintext of a frame: of a chunk, or of the end. -/
def streamPayload (sequence : ℕ) (chunk : Option Json) : Json :=
  .obj [("schema_version", .int streamSchemaVersion), ("sequence", .int sequence), ("done", .bool chunk.isNone),
    ("chunk", chunk.getD .null)]

variable {PrivateKey Key : Type} (crypto : EnvelopeCrypto PrivateKey Key) (float : String → String × Option ℚ)

def checkFrameChunk : Option Json → Except StreamExn Unit
  | some value => checkOpenaiChunk value
  | none => .ok ()

/-- `encrypt_stream_event_in_attested_recipient`. -/
def encryptStreamEvent (entropy : ResponseEntropy) (e : ConfidentialEnvelope) (recipientPrivateKey : PrivateKey)
    (sequence : ℕ) (chunk : Option Json) : Except StreamExn (ConfidentialResponseEnvelope × Sealing Key) := do
  checkSequence sequence
  checkFrameChunk chunk
  (encryptResponse crypto entropy e recipientPrivateKey (Json.dumpsBytes (streamPayload sequence chunk))).mapError .crypto

/-- What `decrypt_stream_event` makes of a plaintext. -/
def openPayload (expectedSequence : ℕ) (plaintext : List UInt8) : Except StreamExn (Option Json) :=
  match Json.loadsBytes float plaintext with
  | none => .error (.stream "protected stream frame is malformed")
  | some (.obj fields) =>
    if keysDiffer fields ["schema_version", "sequence", "done", "chunk"] = true then
      .error (.stream "protected stream frame contract is invalid")
    else if (fieldOf fields "schema_version").eqInt streamSchemaVersion = false then
      .error (.stream "unsupported protected stream frame version")
    else
      match fieldOf fields "sequence" with
      | .int sequence =>
        if sequence < 0 ∨ (maxStreamSequence : ℤ) < sequence then .error (.stream "invalid protected stream sequence")
        else if sequence ≠ expectedSequence then .error (.stream "protected stream frame sequence mismatch")
        else
          match fieldOf fields "done", fieldOf fields "chunk" with
          | .bool true, .null => .ok none
          | .bool true, _ => .error (.stream "final protected stream frame contains unexpected content")
          | .bool false, chunk => (checkOpenaiChunk chunk).map fun _ => some chunk
          | _, _ => .error (.stream "protected stream frame done flag is invalid")
      | _ => .error (.stream "invalid protected stream sequence")
  | some _ => .error (.stream "protected stream frame contract is invalid")

/-- What a gateway delivers: an envelope, or a document that is to be one. -/
inductive DeliveredFrame
  | envelope (response : ConfidentialResponseEnvelope)
  | mapping (value : Json)

def DeliveredFrame.parse : DeliveredFrame → EnvelopeCheck ConfidentialResponseEnvelope
  | .envelope response => .ok response
  | .mapping value => ConfidentialResponseEnvelope.fromDict crypto value

def decryptStreamEvent (ctx : ConfidentialClientContext Key) (expectedSequence : ℕ) (frame : DeliveredFrame) :
    Except StreamExn ConfidentialStreamEvent := do
  checkSequence expectedSequence
  let parsed ← (checked (frame.parse crypto)).mapError .crypto
  match decryptResponse crypto ctx parsed with
  | .error _ => .error (.stream "protected stream frame authentication failed")
  | .ok plaintext =>
    let chunk ← openPayload float expectedSequence plaintext
    return ⟨expectedSequence, chunk, parsed.responseId⟩

/-- **The client**: it decrypts frame after frame with the next sequence number, up to the first error or the end. -/
def clientEvents (ctx : ConfidentialClientContext Key) : ℕ → List DeliveredFrame → List ConfidentialStreamEvent
  | _, [] => []
  | expectedSequence, frame :: frames =>
    match decryptStreamEvent crypto float ctx expectedSequence frame with
    | .error _ => []
    | .ok event => if event.done = true then [event] else event :: clientEvents ctx (expectedSequence + 1) frames

variable {float}

variable {sequence : ℕ}

theorem openPayload_streamPayload {chunk : Option Json} (hchunk : ∀ value ∈ chunk, value.Readable float)
    (expectedSequence : ℕ) : openPayload float expectedSequence (Json.dumpsBytes (streamPayload sequence chunk)) =
      if (sequence : ℤ) < 0 ∨ (maxStreamSequence : ℤ) < sequence then
        .error (.stream "invalid protected stream sequence")
      else if (sequence : ℤ) ≠ expectedSequence then .error (.stream "protected stream frame sequence mismatch")
      else (checkFrameChunk chunk).map fun _ => chunk := by
  have hreadable : (streamPayload sequence chunk).Readable float := by
    refine ⟨(show ["schema_version", "sequence", "done", "chunk"].Nodup by decide), trivial, trivial, trivial, ?_, trivial⟩
    cases chunk with
    | none => trivial
    | some value => exact hchunk value rfl
  unfold openPayload
  rw [Json.loadsBytes_dumpsBytes hreadable]
  cases chunk <;> rfl

theorem map_const_eq_ok {ε α β : Type} {x : Except ε α} {b c : β} (h : (x.map fun _ => b) = .ok c) : b = c := by
  cases x with
  | error exn => cases h
  | ok a => exact Except.ok.inj h

/-- **What was wrapped is read back**, under the sequence number it was wrapped with and no other. -/
theorem openPayload_payload {expectedSequence : ℕ} {chunk opened : Option Json}
    (hchunk : ∀ value ∈ chunk, value.Readable float)
    (h : openPayload float expectedSequence (Json.dumpsBytes (streamPayload sequence chunk)) = .ok opened) :
    sequence = expectedSequence ∧ opened = chunk := by
  rw [openPayload_streamPayload hchunk, ite_error_eq_ok_iff, ite_error_eq_ok_iff] at h
  obtain ⟨-, hsequence, hopened⟩ := h
  exact ⟨Nat.cast_injective (not_not.mp hsequence), (map_const_eq_ok hopened).symm⟩

variable {crypto}

theorem decryptStreamEvent_ok {ctx : ConfidentialClientContext Key} {expectedSequence : ℕ} {frame : DeliveredFrame}
    {event : ConfidentialStreamEvent} (h : decryptStreamEvent crypto float ctx expectedSequence frame = .ok event) :
    ∃ response plaintext, frame.parse crypto = .ok response ∧ decryptResponse crypto ctx response = .ok plaintext ∧
      openPayload float expectedSequence plaintext = .ok event.chunk ∧ event.sequence = expectedSequence := by
  unfold decryptStreamEvent at h
  obtain ⟨-, -, h⟩ := bind_eq_ok_iff.mp h
  obtain ⟨response, hparse, h⟩ := bind_eq_ok_iff.mp h
  split at h
  · cases h
  · rename_i plaintext hplain
    obtain ⟨chunk, hchunk, h⟩ := bind_eq_ok_iff.mp h
    cases h
    refine ⟨response, plaintext, ?_, hplain, hchunk, rfl⟩
    cases hframe : frame.parse crypto with
    | error message =>
      rw [hframe] at hparse
      cases hparse
    | ok parsed =>
      rw [hframe] at hparse
      cases hparse
      rfl

end ComputeMesh.Protocol
