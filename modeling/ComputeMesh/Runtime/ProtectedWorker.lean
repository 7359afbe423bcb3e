import ComputeMesh.Runtime.ReplayStore

/-!
# The protected worker's sessions

`ProtectedWorkerSessionManager` of `runtime/confidential/protected_worker.py`.  `SessionManager` holds what the lock
protects, and its operations are the lock sections; `ProtectedWorker` adds the replay store and the calls of
`provision`, `execute` and `stream` that are under way, each between two of its sections.

What an issuer or a backend does is outside: a call may fail wherever the code can raise, and an instant that a section
reads or is given is an input of its move.  `execute` and `stream` take the same sections; a stream that is closed at a
chunk leaves as one that ends.  The private keys are left out, nothing here reads them.
-/

namespace ComputeMesh.Runtime

open ComputeMesh.Text ComputeMesh.Protocol

/-! ### Contracts and sessions -/

/-- The arguments of the constructor, as it accepts them. -/
structure ProtectedWorkerConfig where
  nodeId : String
  runtimeDigest : String
  dataPlaneTlsSha256 : String
  sessionTtlSeconds : ℕ
  maxActiveSessions : ℕ
  ttl_range : 1 ≤ sessionTtlSeconds ∧ sessionTtlSeconds ≤ 300
  capacity_range : 1 ≤ maxActiveSessions ∧ maxActiveSessions ≤ 64

/-- A provision request with the keys that are expected. -/
structure ProvisionRequest where
  accountId : String
  jobId : String
  modelId : String
  privacyClass : String
  operation : String
  maxPromptTokens : ℤ
  maxCompletionTokens : ℤ

/-- `_text`. -/
def protectedText (value name : String) (limit : ℕ) : Except String String :=
  let result := strip value
  if result = "" ∨ limit < result.length then .error ("invalid " ++ name) else .ok result

def tokenLimit (value : ℤ) (name : String) : Except String ℤ :=
  if 1 ≤ value ∧ value ≤ 1000000 then .ok value else .error ("invalid " ++ name)

/-- The checks of `provision` on the request. -/
def ProvisionRequest.check (r : ProvisionRequest) : Except String ProvisionRequest := do
  let accountId ← protectedText r.accountId "account_id" 256
  let jobId ← protectedText r.jobId "job_id" 256
  let modelId ← protectedText r.modelId "model_id" 512
  let privacyClass ← protectedText r.privacyClass "privacy_class" 64
  let operation ← protectedText r.operation "operation" 64
  if privacyClass ≠ "CONFIDENTIAL" then .error "protected TEE worker accepts CONFIDENTIAL only"
  else if operation ≠ "chat_completion" then .error "protected worker supports chat_completion only"
  else
    let maxPromptTokens ← tokenLimit r.maxPromptTokens "max_prompt_tokens"
    let maxCompletionTokens ← tokenLimit r.maxCompletionTokens "max_completion_tokens"
    .ok ⟨accountId, jobId, modelId, privacyClass, operation, maxPromptTokens, maxCompletionTokens⟩

/-- `_ProtectedSession`.  The serial number stands for the identity of the object. -/
structure ProtectedSession where
  serial : ℕ
  accountId : String
  jobId : String
  modelId : String
  privacyClass : String
  operation : String
  maxPromptTokens : ℤ
  maxCompletionTokens : ℤ
  nodeId : String
  runtimeDigest : String
  attestationNonce : String
  dataPlaneTlsSha256 : String
  expiresAt : ℤ
  claimedEnvelopeId : Option String
  deriving DecidableEq

/-- `_ProtectedSession.binding`. -/
def ProtectedSession.binding (s : ProtectedSession) : ConfidentialBinding where
  accountId := s.accountId
  jobId := s.jobId
  nodeId := s.nodeId
  attestationNonce := s.attestationNonce
  runtimeDigest := s.runtimeDigest
  dataPlaneTlsSha256 := s.dataPlaneTlsSha256
  privacyClass := s.privacyClass
  operation := s.operation

/-- The session that `provision` builds; instants are in microseconds. -/
def newProtectedSession (config : ProtectedWorkerConfig) (serial : ℕ) (r : ProvisionRequest) (instant : ℤ)
    (nonce : String) : ProtectedSession where
  serial := serial
  accountId := r.accountId
  jobId := r.jobId
  modelId := r.modelId
  privacyClass := r.privacyClass
  operation := r.operation
  maxPromptTokens := r.maxPromptTokens
  maxCompletionTokens := r.maxCompletionTokens
  nodeId := config.nodeId
  runtimeDigest := config.runtimeDigest
  attestationNonce := nonce
  dataPlaneTlsSha256 := config.dataPlaneTlsSha256
  expiresAt := instant + config.sessionTtlSeconds * 1000000
  claimedEnvelopeId := none

/-! ### The lock sections -/

/-- What the lock protects. -/
structure SessionManager where
  sessions : Dict String ProtectedSession
  provisioning : List String
  closed : Bool

namespace SessionManager

def purgeExpiredLocked (m : SessionManager) (now : ℤ) : ℕ × SessionManager :=
  let kept := m.sessions.filter fun _ s => decide ¬s.expiresAt ≤ now
  (m.sessions.entries.length - kept.entries.length, { m with sessions := kept })

def activeSessionCount (m : SessionManager) (now : ℤ) : ℕ × SessionManager :=
  let purged := (m.purgeExpiredLocked now).2
  (purged.sessions.entries.length + purged.provisioning.length, purged)

def close (_ : SessionManager) : SessionManager := ⟨Dict.empty, [], true⟩

def reserveProvisionSlot (m : SessionManager) (config : ProtectedWorkerConfig) (jobId : String) (now : ℤ) :
    Except String Unit × SessionManager :=
  if m.closed then (.error "protected worker session manager is closed", m)
  else
    let purged := (m.purgeExpiredLocked now).2
    if purged.sessions.contains jobId ∨ jobId ∈ purged.provisioning then
      (.error "confidential job_id already provisioned", purged)
    else if config.maxActiveSessions ≤ purged.sessions.entries.length + purged.provisioning.length then
      (.error "protected worker confidential capacity is exhausted", purged)
    else (.ok (), { purged with provisioning := purged.provisioning ++ [jobId] })

def releaseProvisionSlot (m : SessionManager) (jobId : String) : SessionManager :=
  { m with provisioning := m.provisioning.erase jobId }

def installSession (m : SessionManager) (state : ProtectedSession) : Except String Unit × SessionManager :=
  if m.closed then (.error "protected worker session manager is closed", m)
  else if state.jobId ∉ m.provisioning then (.error "protected worker provision slot was lost", m)
  else
    (.ok (), { m with
      provisioning := m.provisioning.erase state.jobId
      sessions := m.sessions.set state.jobId state })

/-- `_retire`: the session goes if it is still the one under its job. -/
def retire (m : SessionManager) (state : ProtectedSession) : SessionManager :=
  if (m.sessions.get? state.jobId).map ProtectedSession.serial = some state.serial then
    { m with sessions := m.sessions.erase state.jobId }
  else m

/-- The first part of `_claim`, up to the end of its lock section. -/
def claimSession (lib : ReplayLibrary) (m : SessionManager) (envelope : ConfidentialEnvelope) (now : ℤ) :
    Except String ProtectedSession × SessionManager :=
  match envelope.validate lib.urlsafeB64decode with
  | .error _ => (.error "invalid confidential envelope", m)
  | .ok _ =>
    if m.closed then (.error "protected worker session manager is closed", m)
    else
      match m.sessions.get? envelope.binding.jobId with
      | none => (.error "protected session not found or already consumed", m)
      | some state =>
        if state.expiresAt ≤ now then
          (.error "protected session expired", { m with sessions := m.sessions.erase envelope.binding.jobId })
        else if envelope.binding ≠ state.binding then
          (.error "protected envelope does not match attested session", m)
        else if state.claimedEnvelopeId ≠ none then (.error "protected session is already consumed", m)
        else
          let claimed := { state with claimedEnvelopeId := some envelope.envelopeId }
          (.ok claimed, { m with sessions := m.sessions.set envelope.binding.jobId claimed })

end SessionManager

/-! ### Calls under way -/

/-- Where a call is between two of its sections. -/
inductive WorkerCall
  | provisioning (request : ProvisionRequest) (instant : ℤ)
  | releasing (jobId : String)
  | claimed (session : ProtectedSession) (envelope : ConfidentialEnvelope)
  | admitted (session : ProtectedSession) (envelope : ConfidentialEnvelope)
  | executing (session : ProtectedSession)
  | retiring (session : ProtectedSession)

/-- A call of the backend. -/
structure Invocation where
  session : ProtectedSession
  envelope : ConfidentialEnvelope
  instant : ℤ

/-- The manager with its replay store, the calls under way, and what has happened: the backend's calls, and the
sessions whose `execute` or `stream` has ended. -/
structure ProtectedWorker (κ : Type) where
  manager : SessionManager
  replay : ReplayRows
  calls : Dict κ WorkerCall
  nextSerial : ℕ
  invocations : List Invocation
  ended : List ℕ

/-- One section of a call, or of a call of its own.  `consume` is the claim of the replay store, which may also fail;
`invoke` is everything from there to the backend; `leave` is the end of an execution that was admitted, whatever
ends it. -/
inductive WorkerMove (κ : Type)
  | provision (c : κ) (request : ProvisionRequest) (now : ℤ)
  | issuerFails (c : κ)
  | install (c : κ) (nonce : String)
  | release (c : κ)
  | purgeExpired (now : ℤ)
  | activeSessionCount (now : ℤ)
  | close
  | claim (c : κ) (envelope : ConfidentialEnvelope) (now : ℤ)
  | consume (c : κ) (instant : AwareDatetime) (storeFails : Bool)
  | invoke (c : κ) (now : ℤ)
  | leave (c : κ)
  | retire (c : κ)

namespace ProtectedWorker

variable {κ : Type} [DecidableEq κ]

/-- A worker that was just constructed, over a replay store. -/
def start (rows : ReplayRows) : ProtectedWorker κ := ⟨⟨Dict.empty, [], false⟩, rows, Dict.empty, 0, [], []⟩

/-- The claim of the replay store, on the way to the backend or to the end of the call. -/
def consume (lib : ReplayLibrary) (w : ProtectedWorker κ) (c : κ) (session : ProtectedSession)
    (envelope : ConfidentialEnvelope) (instant : AwareDatetime) : ProtectedWorker κ :=
  match Runtime.claim lib envelope session.accountId session.privacyClass session.operation (.aware instant)
      w.replay with
  | (.ok _, rows) => { w with replay := rows, calls := w.calls.set c (.admitted session envelope) }
  | (.error _, rows) => { w with replay := rows, calls := w.calls.set c (.retiring session) }

/-- One move; one that does not belong to where its call is does nothing. -/
def next (lib : ReplayLibrary) (config : ProtectedWorkerConfig) (w : ProtectedWorker κ) :
    WorkerMove κ → ProtectedWorker κ
  | .provision c request now =>
    match w.calls.get? c, request.check with
    | none, .ok request =>
      match w.manager.reserveProvisionSlot config request.jobId now with
      | (.ok (), m) => { w with manager := m, calls := w.calls.set c (.provisioning request now) }
      | (.error _, m) => { w with manager := m }
    | _, _ => w
  | .issuerFails c =>
    match w.calls.get? c with
    | some (.provisioning request _) => { w with calls := w.calls.set c (.releasing request.jobId) }
    | _ => w
  | .install c nonce =>
    match w.calls.get? c with
    | some (.provisioning request instant) =>
      match w.manager.installSession (newProtectedSession config w.nextSerial request instant nonce) with
      | (.ok (), m) => { w with manager := m, calls := w.calls.erase c, nextSerial := w.nextSerial + 1 }
      | (.error _, m) => { w with manager := m, calls := w.calls.set c (.releasing request.jobId) }
    | _ => w
  | .release c =>
    match w.calls.get? c with
    | some (.releasing jobId) =>
      { w with manager := w.manager.releaseProvisionSlot jobId, calls := w.calls.erase c }
    | _ => w
  | .purgeExpired now => { w with manager := (w.manager.purgeExpiredLocked now).2 }
  | .activeSessionCount now => { w with manager := (w.manager.activeSessionCount now).2 }
  | .close => { w with manager := w.manager.close }
  | .claim c envelope now =>
    match w.calls.get? c with
    | none =>
      match w.manager.claimSession lib envelope now with
      | (.ok session, m) => { w with manager := m, calls := w.calls.set c (.claimed session envelope) }
      | (.error _, m) => { w with manager := m }
    | some _ => w
  | .consume c instant storeFails =>
    match w.calls.get? c with
    | some (.claimed session envelope) =>
      if storeFails then { w with calls := w.calls.set c (.retiring session) }
      else w.consume lib c session envelope instant
    | _ => w
  | .invoke c now =>
    match w.calls.get? c with
    | some (.admitted session envelope) =>
      { w with
        calls := w.calls.set c (.executing session)
        invocations := w.invocations ++ [⟨session, envelope, now⟩] }
    | _ => w
  | .leave c =>
    match w.calls.get? c with
    | some (.admitted session _) | some (.executing session) =>
      { w with calls := w.calls.set c (.retiring session) }
    | _ => w
  | .retire c =>
    match w.calls.get? c with
    | some (.retiring session) =>
      { w with
        manager := w.manager.retire session
        calls := w.calls.erase c
        ended := session.serial :: w.ended }
    | _ => w

end ProtectedWorker

end ComputeMesh.Runtime
