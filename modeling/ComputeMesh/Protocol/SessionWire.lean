import ComputeMesh.Lib.Sha256
import ComputeMesh.Protocol.NodeSession

/-!
# Control envelopes to a node session

`protocol/session_contracts.py` and `protocol/session_wire.py`: the handler that checks the payload of an
envelope against the contract of its message, answers a repeated request from its replay map, and performs the
session operation the message stands for.

* `SessionPayload` / `readPayload` — the fields the handler reads of a payload;
* `SessionMessageContractValidator` — the schema validation, which only lets readable payloads through;
* `NodeSessionWireHandler` — what the handler is constructed with, and `Wire`, what it changes;
* `handle` — **one message.**
-/

namespace ComputeMesh.Protocol

open ComputeMesh.Text

/-! ### Payloads and their contracts -/

/-- The messages with a contract, in the order of `_SCHEMA_BY_MESSAGE`. -/
def supportedMessages : List String :=
  ["NodeHello", "NodeAuthenticate", "CapabilityNegotiation", "NodeProfileUpdate", "ModelCatalogueUpdate",
    "RuntimeAdvertisement", "BenchmarkReport", "DrainRequest", "ExecutionAttestationRequest",
    "ExecutionAttestationResponse", "GpuPromoChallengeRequest", "GpuPromoChallengeResponse",
    "CapacityReserveRequest", "CapacityReleaseRequest", "InferenceRequest", "InferenceResponse",
    "InferenceStreamChunk", "ModelPreparationRequest", "ModelPreparationResponse", "EnvironmentRequest",
    "EnvironmentResponse"]

/-- What the handler reads of a payload, by message; `unhandled` are the messages it has no branch for.  A
JSON integer may be written as a float, so that version numbers and revisions stay values. -/
inductive SessionPayload
  | nodeHello (protocolMajor protocolMinor : Json) (agentVersion platform : String)
      (supportedAuthMethods capabilities : List String) (nodeId : Option String)
  | nodeAuthenticate (method credential : String)
  | capabilityNegotiation (acceptedCapabilities : List String)
  | nodeProfileUpdate (nodeId : String) (profileRevision : Json)
  | modelCatalogueUpdate (nodeId : String) (profileRevision : Json)
  | benchmarkReport (profileRevision : Json)
  | drainRequest (reason : String)
  | unhandled

namespace SessionPayload

/-- A property of type `string`. -/
def text (payload : Dict String Json) (name : String) : Option String :=
  match payload.get? name with
  | some (.str value) => some value
  | _ => none

/-- A property of type `string` that may be absent. -/
def optionalText (payload : Dict String Json) (name : String) : Option (Option String) :=
  match payload.get? name with
  | none => some none
  | some (.str value) => some (some value)
  | some _ => none

/-- A property of type `integer`. -/
def integer (payload : Dict String Json) (name : String) : Option Json :=
  match payload.get? name with
  | some (.int n) => some (.int n)
  | some (.float repr (some q)) => if q.isInt then some (.float repr (some q)) else none
  | _ => none

/-- A property that is an `array` of strings. -/
def texts (payload : Dict String Json) (name : String) : Option (List String) :=
  match payload.get? name with
  | some (.arr items) => items.mapM fun
    | .str value => some value
    | _ => none
  | _ => none

end SessionPayload

open SessionPayload in
/-- The fields of a payload that has the types its schema demands. -/
def readPayload (messageType : String) (payload : Dict String Json) : Option SessionPayload :=
  if messageType = "NodeHello" then do
    return .nodeHello (← integer payload "protocol_major") (← integer payload "protocol_minor")
      (← text payload "agent_version") (← text payload "platform")
      (← texts payload "supported_auth_methods") (← texts payload "capabilities")
      (← optionalText payload "node_id")
  else if messageType = "NodeAuthenticate" then do
    return .nodeAuthenticate (← text payload "method") (← text payload "credential")
  else if messageType = "CapabilityNegotiation" then do
    return .capabilityNegotiation (← texts payload "accepted_capabilities")
  else if messageType = "NodeProfileUpdate" then do
    return .nodeProfileUpdate (← text payload "node_id") (← integer payload "profile_revision")
  else if messageType = "ModelCatalogueUpdate" then do
    return .modelCatalogueUpdate (← text payload "node_id") (← integer payload "profile_revision")
  else if messageType = "BenchmarkReport" then do
    return .benchmarkReport (← integer payload "profile_revision")
  else if messageType = "DrainRequest" then do
    return .drainRequest (← text payload "reason")
  else some .unhandled

/-- `SessionMessageContractValidator`, with the schema library's verdict on a payload: the text of its
violations, if there are any.  The schemas demand at least the types that the handler relies on. -/
structure SessionMessageContractValidator where
  violation : String → Dict String Json → Option String
  readable : ∀ messageType payload, violation messageType payload = none → (readPayload messageType payload).isSome

/-! ### The handler -/

/-- `BenchmarkAcceptanceDecision`; a decision that is ready is also accepted. -/
inductive BenchmarkAcceptanceDecision
  | rejected (reason : Option String)
  | accepted (ready : Bool)
  deriving DecidableEq

/-- `BenchmarkAcceptancePolicy`: `evaluate` from the policy's own state, which may raise. -/
abbrev BenchmarkAcceptancePolicy (ω : Type) :=
  (report : Dict String Json) → SessionSnapshot → (now : UtcTime) → ω → Except String BenchmarkAcceptanceDecision × ω

/-- What a `NodeSessionWireHandler` is constructed with.  The verifier and the policy belong to the deployment;
`ω` is the state they keep. -/
structure NodeSessionWireHandler (ω : Type) where
  verifier : AuthenticationVerifier ω
  benchmarkPolicy : BenchmarkAcceptancePolicy ω
  controlPlaneCapabilities : Finset String
  requiredCapabilities : Finset String
  contracts : SessionMessageContractValidator
  control_count : controlPlaneCapabilities.card ≤ 256
  required_count : requiredCapabilities.card ≤ 256
  capabilities_length : ∀ value ∈ controlPlaneCapabilities ∪ requiredCapabilities, LengthWithin 1 128 value

structure ReplayRecord where
  fingerprint : String
  snapshot : SessionSnapshot
  deriving DecidableEq

/-- What a message can change: the session, the replay map, and the state of verifier and policy. -/
structure Wire (ω : Type) where
  session : NodeSession
  replays : Dict String ReplayRecord
  deployment : ω

namespace NodeSessionWireHandler

variable {ω : Type}

def canonical (env : ControlEnvelope) : String :=
  (Json.obj [("protocol_major", .int env.protocolMajor), ("protocol_minor", .int env.protocolMinor),
      ("message_type", .str env.messageType),
      ("actor_id", .str env.actorId),
      ("target_id", .str env.targetId),
      ("expected_revision", .int env.expectedRevision),
      ("payload", .ofDict env.payload)]).dumps

def fingerprint (env : ControlEnvelope) : String := Sha256.sha256Hex (canonical env)

def checkReplay (replays : Dict String ReplayRecord) (env : ControlEnvelope) :
    Except SessionExn (Option SessionSnapshot) :=
  match replays.get? env.requestId with
  | none => .ok none
  | some prior =>
    if prior.fingerprint ≠ fingerprint env then
      raise .sessionMessageIdempotencyConflict
        ("request_id " ++ env.requestId ++ " was already used with different session semantics")
    else .ok (some prior.snapshot)

def requireRevision (s : NodeSession) (env : ControlEnvelope) : Except SessionExn Unit :=
  if env.expectedRevision ≠ s.revision then
    raise .sessionRevisionMismatch ("expected session revision " ++ toString env.expectedRevision ++
      "; current revision is " ++ toString s.revision)
  else .ok ()

def requireNegotiatedProtocol (s : NodeSession) (env : ControlEnvelope) : Except SessionExn Unit :=
  match s.protocolMajor, s.protocolMinor with
  | some major, some minor =>
    if env.protocolMajor ≠ major ∨ env.protocolMinor ≠ minor then
      raise .sessionProtocolMismatch "control envelope protocol version does not match negotiated session version"
    else .ok ()
  | _, _ => raise .sessionProtocolMismatch "session protocol has not been negotiated"

def requireAuthenticatedActor (s : NodeSession) (env : ControlEnvelope) : Except SessionExn Unit :=
  match s.nodeId with
  | none => raise .sessionActorMismatch "session has no authenticated node actor"
  | some nodeId =>
    if env.actorId ≠ nodeId then
      raise .sessionActorMismatch
        ("control actor_id " ++ quoted env.actorId ++ " does not match authenticated node_id")
    else .ok ()

/-- The checks every message after the authentication starts with. -/
def requireNode (s : NodeSession) (env : ControlEnvelope) : Except SessionExn Unit := do
  requireNegotiatedProtocol s env
  requireAuthenticatedActor s env

/-- The checks of `CapabilityNegotiation` before the session's own. -/
def offeredByBoth (h : NodeSessionWireHandler ω) (s : NodeSession) (accepted : Finset String) :
    Except SessionExn Unit :=
  match s.helloInfo with
  | none => raise .assertionError ""
  | some hello =>
    let unexpected := accepted \ (hello.capabilities ∩ h.controlPlaneCapabilities)
    if unexpected ≠ ∅ then
      raise .capabilityMismatch ("node accepted capabilities not offered by both peers: " ++
        NodeSession.sortedNames unexpected)
    else .ok ()

/-- `payload["node_id"] == self.session.node_id`. -/
def requireOwnNode (s : NodeSession) (messageType nodeId : String) : Except SessionExn Unit :=
  if some nodeId ≠ s.nodeId then
    raise .sessionMessageBindingError (messageType ++ " node_id does not match authenticated node")
  else .ok ()

/-- The states in which a `ModelCatalogueUpdate` is taken. -/
def requireSynced (s : NodeSession) : Except SessionExn Unit :=
  if s.state ≠ .profileSynced ∧ s.state ≠ .ready then
    .error (s.wrongState (NodeSessionState.value .profileSynced ++ " or " ++ NodeSessionState.value .ready))
  else .ok ()

/-- The checks of `ModelCatalogueUpdate`. -/
def catalogueFits (s : NodeSession) (now : UtcTime) (nodeId : String) (profileRevision : Json) :
    Except SessionExn Unit := do
  requireSynced s
  s.ensureAuthValid now
  requireOwnNode s "ModelCatalogueUpdate" nodeId
  if s.hasProfile profileRevision then .ok () else .error (s.wrongProfile "model catalogue" profileRevision)

/-- The checks of `BenchmarkReport` before the policy is asked. -/
def benchmarkFits (s : NodeSession) (now : UtcTime) (profileRevision : Json) : Except SessionExn Unit := do
  s.require .profileSynced
  s.ensureAuthValid now
  if s.hasProfile profileRevision then .ok () else .error (s.wrongProfile "benchmark" profileRevision)

/-- The branches of `handle` after the replay and revision checks. -/
def perform (h : NodeSessionWireHandler ω) (s : NodeSession) (env : ControlEnvelope) (now : UtcTime) (e : ω) :
    SessionPayload → NodeSession.Outcome × ω
  | .nodeHello major minor agentVersion platform methods capabilities nodeId =>
    (s.guarded (do
      if ¬ (major.eqInt env.protocolMajor ∧ minor.eqInt env.protocolMinor) then
        raise .sessionProtocolMismatch "NodeHello payload protocol version does not match its control envelope"
      else NodeHelloInfo.make agentVersion platform methods capabilities.toFinset nodeId major minor)
      fun hello => s.receiveHello hello, e)
  | .nodeAuthenticate method credential =>
    match (do requireNegotiatedProtocol s env; AuthenticationAttempt.make method credential) with
    | .error exn => ((.error exn, s), e)
    | .ok attempt => s.authenticate attempt h.verifier env.actorId now e
  | .capabilityNegotiation accepted =>
    (s.guarded (do requireNode s env; h.offeredByBoth s accepted.toFinset)
      fun _ => s.negotiateCapabilities accepted.toFinset h.requiredCapabilities now, e)
  | .nodeProfileUpdate nodeId profileRevision =>
    (s.guarded (do requireNode s env; requireOwnNode s "NodeProfileUpdate" nodeId)
      fun _ => s.syncProfile profileRevision now, e)
  | .modelCatalogueUpdate nodeId profileRevision =>
    (s.guarded (do requireNode s env; catalogueFits s now nodeId profileRevision) fun _ => (.ok s.snapshot, s), e)
  | .benchmarkReport profileRevision =>
    match (do requireNode s env; benchmarkFits s now profileRevision) with
    | .error exn => ((.error exn, s), e)
    | .ok () =>
      match h.benchmarkPolicy env.payload s.snapshot now e with
      | (.error message, e') => ((.error ⟨.injected, message⟩, s), e')
      | (.ok (.rejected reason), e') =>
        ((raise .benchmarkRejected (textOr (reason.getD "") "benchmark report was rejected"), s), e')
      | (.ok (.accepted true), e') => (s.acceptBenchmarkStatus profileRevision now, e')
      | (.ok (.accepted false), e') => ((.ok s.snapshot, s), e')
  | .drainRequest reason => (s.guarded (requireNode s env) fun _ => s.drain reason now, e)
  | .unhandled => ((raise .unsupportedSessionMessage env.messageType, s), e)

/-- What precedes the branches: the contract, the replay map and the revision.  A repeated request is answered
here; any other comes out as the payload to perform. -/
def admission (h : NodeSessionWireHandler ω) (w : Wire ω) (env : ControlEnvelope) :
    Except SessionExn (SessionSnapshot ⊕ SessionPayload) :=
  if env.messageType ∉ supportedMessages then raise .unsupportedSessionMessage env.messageType
  else
    match hv : h.contracts.violation env.messageType env.payload with
    | some text => raise .sessionMessageContractError text
    | none => do
      match ← checkReplay w.replays env with
      | some snapshot => .ok (.inl snapshot)
      | none =>
        requireRevision w.session env
        .ok (.inr ((readPayload env.messageType env.payload).get (h.contracts.readable _ _ hv)))

/-- `handle`; `now` is the time it is given, or the one it reads from the clock. -/
def handle (h : NodeSessionWireHandler ω) (w : Wire ω) (env : ControlEnvelope) (now : AwareDatetime) :
    Except SessionExn SessionSnapshot × Wire ω :=
  match h.admission w env with
  | .error exn => (.error exn, w)
  | .ok (.inl snapshot) => (.ok snapshot, w)
  | .ok (.inr payload) =>
    match now.astimezone with
    | none => (raise .overflowError "date value out of range", w)
    | some nowUtc =>
      match h.perform w.session env nowUtc w.deployment payload with
      | ((.error exn, session), e) => (.error exn, { w with session, deployment := e })
      | ((.ok snapshot, session), e) =>
        (.ok snapshot,
          { session, deployment := e
            replays := w.replays.set env.requestId ⟨fingerprint env, snapshot⟩ })

end NodeSessionWireHandler

end ComputeMesh.Protocol
