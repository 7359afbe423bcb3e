import ComputeMesh.Protocol.Control

/-!
# The session of a node

`protocol/node_session.py`: the machine a node goes through after it connects (hello, authentication,
capabilities, profile, readiness, drain), with the values its dataclasses accept.

* `NodeHelloInfo`, `AuthenticationAttempt`, `AuthenticationDecision` — dataclasses whose `__post_init__` checks
  are fields here;
* `AuthenticationVerifier` — the verifier a deployment brings along: it may keep a state of its own, and raise;
* `NodeSession` and its operations, each with the session it leaves behind, also where it raises.
-/

namespace ComputeMesh.Protocol

/-! ### Exceptions -/

/-- The classes of the exceptions a session message can end in. -/
inductive SessionExnKind
  | sessionTransitionError
  | authenticationFailed
  | authenticationExpired
  | capabilityMismatch
  | profileMismatch
  | protocolVersionMismatch
  | unsupportedSessionMessage
  | sessionRevisionMismatch
  | sessionActorMismatch
  | sessionProtocolMismatch
  | sessionMessageIdempotencyConflict
  | sessionMessageBindingError
  | sessionMessageContractError
  | benchmarkRejected
  | valueError
  | assertionError
  | overflowError
  | injected
  deriving DecidableEq

/-- An exception; `injected` is one that the verifier or the benchmark policy of the deployment raised. -/
structure SessionExn where
  kind : SessionExnKind
  message : String
  deriving DecidableEq

/-- `raise kind(message)`. -/
def raise {α : Type} (kind : SessionExnKind) (message : String) : Except SessionExn α := .error ⟨kind, message⟩

/-! ### The checked dataclasses -/

/-- `lo <= len(text) <= hi`. -/
def LengthWithin (lo hi : ℕ) (text : String) : Prop := lo ≤ text.length ∧ text.length ≤ hi

instance (lo hi : ℕ) (text : String) : Decidable (LengthWithin lo hi text) :=
  inferInstanceAs (Decidable (_ ∧ _))

/-- An `int` that is no `bool` and not negative. -/
def nonNegativeInt : Json → Option ℕ
  | .int (.ofNat n) => some n
  | _ => none

structure NodeHelloInfo where
  agentVersion : String
  platform : String
  supportedAuthMethods : List String
  capabilities : Finset String
  nodeId : Option String
  protocolMajor : ℕ
  protocolMinor : ℕ
  agentVersion_length : LengthWithin 1 128 agentVersion
  platform_length : LengthWithin 1 128 platform
  methods_ne_nil : supportedAuthMethods ≠ []
  methods_count : supportedAuthMethods.length ≤ 16
  methods_length : ∀ method ∈ supportedAuthMethods, LengthWithin 1 64 method
  capabilities_count : capabilities.card ≤ 256
  capabilities_length : ∀ capability ∈ capabilities, LengthWithin 1 128 capability
  nodeId_length : ∀ n ∈ nodeId, LengthWithin 1 128 n

/-- `NodeHelloInfo(...)`, with the checks in the order of `__post_init__`. -/
def NodeHelloInfo.make (agentVersion platform : String) (supportedAuthMethods : List String)
    (capabilities : Finset String) (nodeId : Option String) (protocolMajor protocolMinor : Json) :
    Except SessionExn NodeHelloInfo :=
  match nonNegativeInt protocolMajor, nonNegativeInt protocolMinor with
  | none, _ => raise .valueError "protocol_major must be a non-negative integer"
  | some _, none => raise .valueError "protocol_minor must be a non-negative integer"
  | some major, some minor =>
    if hagent : LengthWithin 1 128 agentVersion then
      if hplatform : LengthWithin 1 128 platform then
        if hnil : supportedAuthMethods ≠ [] then
          if hmany : supportedAuthMethods.length ≤ 16 then
            if hmethods : ∀ method ∈ supportedAuthMethods, LengthWithin 1 64 method then
              if hcount : capabilities.card ≤ 256 then
                if hcaps : ∀ capability ∈ capabilities, LengthWithin 1 128 capability then
                  if hnode : ∀ n ∈ nodeId, LengthWithin 1 128 n then
                    .ok { agentVersion, platform, supportedAuthMethods, capabilities, nodeId
                          protocolMajor := major
                          protocolMinor := minor
                          agentVersion_length := hagent
                          platform_length := hplatform
                          methods_ne_nil := hnil
                          methods_count := hmany
                          methods_length := hmethods
                          capabilities_count := hcount
                          capabilities_length := hcaps
                          nodeId_length := hnode }
                  else raise .valueError "invalid node_id"
                else raise .valueError "invalid capability"
              else raise .valueError "too many capabilities"
            else raise .valueError "invalid auth method"
          else raise .valueError "too many supported_auth_methods"
        else raise .valueError "supported_auth_methods must not be empty"
      else raise .valueError "platform must be 1..128 characters"
    else raise .valueError "agent_version must be 1..128 characters"

structure AuthenticationAttempt where
  method : String
  credential : String
  method_length : LengthWithin 1 64 method
  credential_length : LengthWithin 1 16384 credential

/-- `AuthenticationAttempt(method, credential)`. -/
def AuthenticationAttempt.make (method credential : String) : Except SessionExn AuthenticationAttempt :=
  if hmethod : LengthWithin 1 64 method then
    if hcredential : LengthWithin 1 16384 credential then
      .ok ⟨method, credential, hmethod, hcredential⟩
    else raise .valueError "credential must be bounded and non-empty"
  else raise .valueError "invalid authentication method"

/-- What an `AuthenticationDecision` has to say about a node that it lets in. -/
structure Credential where
  nodeId : String
  principalId : String
  credentialExpiresAt : AwareDatetime
  keyId : Option String
  nodeId_ne : nodeId ≠ ""
  principalId_ne : principalId ≠ ""

/-- `AuthenticationDecision`: `__post_init__` refuses an authenticated one without node, principal and
expiry, and of one that is not authenticated only the reason is read. -/
inductive AuthenticationDecision
  | authenticated (credential : Credential)
  | refused (reason : Option String)

/-- `AuthenticationVerifier`: `verify` from the verifier's own state, which may raise. -/
abbrev AuthenticationVerifier (ω : Type) :=
  (sessionId challenge : String) → NodeHelloInfo → AuthenticationAttempt → (now : UtcTime) → ω →
    Except String AuthenticationDecision × ω

/-! ### The session -/

inductive NodeSessionState
  | connected
  | helloReceived
  | authenticated
  | capabilitiesNegotiated
  | profileSynced
  | ready
  | draining
  | closed
  deriving DecidableEq

/-- `state.value`. -/
def NodeSessionState.value : NodeSessionState → String
  | connected => "CONNECTED"
  | helloReceived => "HELLO_RECEIVED"
  | authenticated => "AUTHENTICATED"
  | capabilitiesNegotiated => "CAPABILITIES_NEGOTIATED"
  | profileSynced => "PROFILE_SYNCED"
  | ready => "READY"
  | draining => "DRAINING"
  | closed => "CLOSED"

structure SessionSnapshot where
  sessionId : String
  state : NodeSessionState
  revision : ℕ
  protocolMajor : Option ℕ
  protocolMinor : Option ℕ
  nodeId : Option String
  principalId : Option String
  authMethod : Option String
  credentialExpiresAt : Option UtcTime
  negotiatedCapabilities : Finset String
  profileRevision : Option ℕ
  drainReason : Option String
  closeReason : Option String
  keyId : Option String
  deriving DecidableEq

structure NodeSession where
  sessionId : String
  challenge : String
  state : NodeSessionState := .connected
  revision : ℕ := 0
  helloInfo : Option NodeHelloInfo := none
  protocolMajor : Option ℕ := none
  protocolMinor : Option ℕ := none
  nodeId : Option String := none
  principalId : Option String := none
  authMethod : Option String := none
  credentialExpiresAt : Option UtcTime := none
  negotiatedCapabilities : Finset String := ∅
  profileRevision : Option ℕ := none
  drainReason : Option String := none
  closeReason : Option String := none
  keyId : Option String := none

namespace NodeSession

def snapshot (s : NodeSession) : SessionSnapshot where
  sessionId := s.sessionId
  state := s.state
  revision := s.revision
  protocolMajor := s.protocolMajor
  protocolMinor := s.protocolMinor
  nodeId := s.nodeId
  principalId := s.principalId
  authMethod := s.authMethod
  credentialExpiresAt := s.credentialExpiresAt
  negotiatedCapabilities := s.negotiatedCapabilities
  profileRevision := s.profileRevision
  drainReason := s.drainReason
  closeReason := s.closeReason
  keyId := s.keyId

/-- A call on the session: what it returns or raises, and the session after it. -/
abbrev Outcome := Except SessionExn SessionSnapshot × NodeSession

/-- The text of a session in another state than the expected ones. -/
def wrongState (s : NodeSession) (expected : String) : SessionExn :=
  ⟨.sessionTransitionError, "session " ++ s.sessionId ++ " is " ++ s.state.value ++ "; expected " ++ expected⟩

def require (s : NodeSession) (expected : NodeSessionState) : Except SessionExn Unit :=
  if s.state ≠ expected then .error (s.wrongState expected.value) else .ok ()

def advance (s : NodeSession) (target : NodeSessionState) : Outcome :=
  let moved := { s with state := target, revision := s.revision + 1 }
  (.ok moved.snapshot, moved)

def ensureAuthValid (s : NodeSession) (now : UtcTime) : Except SessionExn Unit :=
  if s.state = .connected ∨ s.state = .helloReceived ∨ s.state = .closed then
    raise .authenticationFailed "session is not authenticated"
  else
    match s.credentialExpiresAt with
    | none => raise .authenticationFailed "session has no authenticated credential"
    | some expiresAt =>
      if expiresAt.micros ≤ now.micros then raise .authenticationExpired "session credential has expired"
      else .ok ()

/-- The checks of an operation, and the assignments it makes once they have passed. -/
def guarded {α : Type} (s : NodeSession) (checks : Except SessionExn α) (assign : α → Outcome) : Outcome :=
  match checks with
  | .error e => (.error e, s)
  | .ok a => assign a

def receiveHello (s : NodeSession) (hello : NodeHelloInfo) : Outcome :=
  s.guarded (do
    s.require .connected
    if hello.protocolMajor ≠ supportedProtocolMajor then
      raise .protocolVersionMismatch ("unsupported protocol major " ++ toString hello.protocolMajor ++
        "; supported major is " ++ toString supportedProtocolMajor)
    else .ok ()) fun _ =>
  { s with
    helloInfo := some hello
    protocolMajor := some supportedProtocolMajor
    protocolMinor := some (min hello.protocolMinor currentProtocolMinor) }.advance .helloReceived

/-- What `authenticate` checks before it asks the verifier. -/
def advertised (s : NodeSession) (attempt : AuthenticationAttempt) : Except SessionExn NodeHelloInfo := do
  s.require .helloReceived
  match s.helloInfo with
  | none => raise .assertionError ""
  | some hello =>
    if attempt.method ∉ hello.supportedAuthMethods then
      raise .authenticationFailed "authentication method was not advertised by node"
    else .ok hello

/-- What `authenticate` checks of the verifier's decision: the credential, and its expiry in UTC. -/
def admitted (hello : NodeHelloInfo) (actorId : String) (now : UtcTime) :
    AuthenticationDecision → Except SessionExn (Credential × UtcTime)
  | .refused reason => raise .authenticationFailed (Text.textOr (reason.getD "") "authentication failed")
  | .authenticated credential =>
    match credential.credentialExpiresAt.astimezone with
    | none => raise .overflowError "date value out of range"
    | some expiresAt =>
      if expiresAt.micros ≤ now.micros then raise .authenticationExpired "credential is already expired"
      else if hello.nodeId ≠ none ∧ some credential.nodeId ≠ hello.nodeId then
        raise .authenticationFailed "authenticated node_id does not match NodeHello"
      else if credential.nodeId ≠ actorId then
        raise .authenticationFailed "authenticated node_id does not match control actor_id"
      else .ok (credential, expiresAt)

/-- `authenticate`, with an actor and a time, as the wire handler calls it. -/
def authenticate {ω : Type} (s : NodeSession) (attempt : AuthenticationAttempt)
    (verifier : AuthenticationVerifier ω) (actorId : String) (now : UtcTime) (e : ω) : Outcome × ω :=
  match s.advertised attempt with
  | .error exn => ((.error exn, s), e)
  | .ok hello =>
    match verifier s.sessionId s.challenge hello attempt now e with
    | (.error message, e') => ((.error ⟨.injected, message⟩, s), e')
    | (.ok decision, e') =>
      (s.guarded (admitted hello actorId now decision) fun c =>
        { s with
          nodeId := some c.1.nodeId
          principalId := some c.1.principalId
          authMethod := some attempt.method
          credentialExpiresAt := some c.2
          keyId := c.1.keyId }.advance .authenticated, e')

/-- `", ".join(sorted(names))`. -/
def sortedNames (names : Finset String) : String := ", ".intercalate (names.sort (· ≤ ·))

def negotiateCapabilities (s : NodeSession) (server required : Finset String) (now : UtcTime) : Outcome :=
  s.guarded (do
    s.require .authenticated
    s.ensureAuthValid now
    match s.helloInfo with
    | none => raise .assertionError ""
    | some hello =>
      if 256 < server.card ∨ 256 < required.card then
        raise .valueError "capability sets are bounded to 256 entries"
      else if ∃ value ∈ server ∪ required, ¬ LengthWithin 1 128 value then
        raise .valueError "invalid capability"
      else
        let negotiated := hello.capabilities ∩ server
        if required \ negotiated ≠ ∅ then
          raise .capabilityMismatch ("required capabilities not negotiated: " ++
            sortedNames (required \ negotiated))
        else .ok negotiated) fun negotiated =>
  { s with negotiatedCapabilities := negotiated }.advance .capabilitiesNegotiated

def syncProfile (s : NodeSession) (profileRevision : Json) (now : UtcTime) : Outcome :=
  s.guarded (do
    s.require .capabilitiesNegotiated
    s.ensureAuthValid now
    match nonNegativeInt profileRevision with
    | none => raise .valueError "profile_revision must be a non-negative integer"
    | some n => .ok n) fun n =>
  { s with profileRevision := some n }.advance .profileSynced

/-- `profile_revision == self.profile_revision`. -/
def hasProfile (s : NodeSession) (profileRevision : Json) : Bool :=
  match s.profileRevision with
  | none => false
  | some n => profileRevision.eqInt n

def wrongProfile (s : NodeSession) (what : String) (profileRevision : Json) : SessionExn :=
  ⟨.profileMismatch, what ++ " profile revision " ++ profileRevision.dumps ++ " does not match synced profile " ++
    match s.profileRevision with
    | none => "None"
    | some n => toString n⟩

/-- `accept_benchmark_status`, for an accepted status. -/
def acceptBenchmarkStatus (s : NodeSession) (profileRevision : Json) (now : UtcTime) : Outcome :=
  s.guarded (do
    s.require .profileSynced
    s.ensureAuthValid now
    if s.hasProfile profileRevision then .ok () else .error (s.wrongProfile "benchmark" profileRevision))
    fun _ => s.advance .ready

def drain (s : NodeSession) (reason : String) (now : UtcTime) : Outcome :=
  s.guarded (do
    s.require .ready
    s.ensureAuthValid now
    if LengthWithin 1 512 reason then .ok () else raise .valueError "drain reason must be 1..512 characters")
    fun _ => { s with drainReason := some reason }.advance .draining

end NodeSession

end ComputeMesh.Protocol
