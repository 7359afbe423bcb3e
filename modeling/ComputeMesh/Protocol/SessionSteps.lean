import ComputeMesh.Lib.Checks
import ComputeMesh.Protocol.SessionWire

/-!
# What one session message can do

The outcome of `handle`, said once.  A message that raises leaves the session as it was; one that is performed
is the hello of a session that has just connected, the authentication of one that has said hello, or a message
of the authenticated node that keeps what the authentication decided.

* `Leaves` — the rule for calls on the session: raise and change nothing, or return;
* `Performed` / `perform_leaves` — the branches of the handler;
* `Handled` / `handle_cases` — **the three outcomes of a message**: refused, answered from the replay map, or
  performed and recorded there.
-/

namespace ComputeMesh.Protocol

/-! ### Peeling checks apart -/

theorem ite_raise_eq_ok_iff {α : Type} {p : Prop} [Decidable p] {kind : SessionExnKind} {message : String}
    {x : Except SessionExn α} {a : α} : (if p then raise kind message else x) = .ok a ↔ ¬ p ∧ x = .ok a := by
  by_cases hp : p
  · rw [if_pos hp]
    exact ⟨nofun, fun h => absurd hp h.1⟩
  · rw [if_neg hp]
    exact ⟨fun h => ⟨hp, h⟩, fun h => h.2⟩

namespace NodeSession

/-- A call that raises and leaves the session `s` as it was, or returns and leaves one that satisfies `P`. -/
inductive Leaves (s : NodeSession) (P : NodeSession → Prop) : Outcome → Prop
  | raised (exn : SessionExn) : Leaves s P (.error exn, s)
  | returned {snapshot : SessionSnapshot} {s' : NodeSession} : P s' → Leaves s P (.ok snapshot, s')

variable {s : NodeSession} {P : NodeSession → Prop}

theorem Leaves.guarded {α : Type} {checks : Except SessionExn α} {assign : α → Outcome}
    (h : ∀ a, checks = .ok a → Leaves s P (assign a)) : Leaves s P (s.guarded checks assign) := by
  cases checks with
  | error exn => exact .raised exn
  | ok a => exact h a rfl

theorem Leaves.mono {Q : NodeSession → Prop} {o : Outcome} (h : Leaves s P o) (hPQ : ∀ s', P s' → Q s') :
    Leaves s Q o := by
  cases h with
  | raised exn => exact .raised exn
  | returned hP => exact .returned (hPQ _ hP)

theorem leaves_advance {target : NodeSessionState} {moved : NodeSession}
    (h : P { moved with state := target, revision := moved.revision + 1 }) :
    Leaves s P (moved.advance target) := .returned h

theorem state_of_require {expected : NodeSessionState} (h : s.require expected = .ok ()) : s.state = expected := by
  unfold require at h
  split at h
  · cases h
  · next hne => exact not_not.mp hne

/-! ### What the operations keep -/

/-- The session has not authenticated a node yet. -/
def Anonymous (s : NodeSession) : Prop := s.state = .connected ∨ s.state = .helloReceived

instance (s : NodeSession) : Decidable s.Anonymous := inferInstanceAs (Decidable (_ ∨ _))

/-- What the authentication of a session decided. -/
structure SameNode (s s' : NodeSession) : Prop where
  sessionId : s'.sessionId = s.sessionId
  challenge : s'.challenge = s.challenge
  helloInfo : s'.helloInfo = s.helloInfo
  nodeId : s'.nodeId = s.nodeId
  principalId : s'.principalId = s.principalId
  authMethod : s'.authMethod = s.authMethod
  credentialExpiresAt : s'.credentialExpiresAt = s.credentialExpiresAt
  keyId : s'.keyId = s.keyId

theorem SameNode.refl (s : NodeSession) : SameNode s s := ⟨rfl, rfl, rfl, rfl, rfl, rfl, rfl, rfl⟩

/-- The authenticated node has taken a step. -/
structure Continues (s s' : NodeSession) : Prop where
  before : ¬ s.Anonymous
  after : ¬ s'.Anonymous
  same : SameNode s s'
  revision : s.revision ≤ s'.revision

theorem not_anonymous_of_state {state : NodeSessionState} (h : s.state = state)
    (hstate : ¬ (state = .connected ∨ state = .helloReceived)) : ¬ s.Anonymous := by
  subst h
  exact hstate

/-- An operation that checks for a state after the authentication and moves on to another one. -/
theorem Continues.of_require {s' : NodeSession} {expected : NodeSessionState} (target : NodeSessionState)
    (hstate : s.require expected = .ok ()) (hbefore : ¬ (expected = .connected ∨ expected = .helloReceived))
    (hstate' : s'.state = target) (hafter : ¬ (target = .connected ∨ target = .helloReceived))
    (hsame : SameNode s s') (hrevision : s.revision ≤ s'.revision) : Continues s s' :=
  ⟨not_anonymous_of_state (state_of_require hstate) hbefore, not_anonymous_of_state hstate' hafter, hsame, hrevision⟩

theorem negotiateCapabilities_leaves (server required : Finset String) (now : UtcTime) :
    Leaves s (Continues s) (s.negotiateCapabilities server required now) := by
  refine .guarded fun negotiated hchecks => leaves_advance ?_
  obtain ⟨_, hstate, -⟩ := bind_eq_ok_iff.mp hchecks
  exact .of_require .capabilitiesNegotiated hstate (by decide) rfl (by decide) ⟨rfl, rfl, rfl, rfl, rfl, rfl, rfl, rfl⟩
    (Nat.le_succ _)

theorem syncProfile_leaves (profileRevision : Json) (now : UtcTime) :
    Leaves s (Continues s) (s.syncProfile profileRevision now) := by
  refine .guarded fun n hchecks => leaves_advance ?_
  obtain ⟨_, hstate, -⟩ := bind_eq_ok_iff.mp hchecks
  exact .of_require .profileSynced hstate (by decide) rfl (by decide) ⟨rfl, rfl, rfl, rfl, rfl, rfl, rfl, rfl⟩
    (Nat.le_succ _)

theorem acceptBenchmarkStatus_leaves (profileRevision : Json) (now : UtcTime) :
    Leaves s (Continues s) (s.acceptBenchmarkStatus profileRevision now) := by
  refine .guarded fun _ hchecks => leaves_advance ?_
  obtain ⟨_, hstate, -⟩ := bind_eq_ok_iff.mp hchecks
  exact .of_require .ready hstate (by decide) rfl (by decide) ⟨rfl, rfl, rfl, rfl, rfl, rfl, rfl, rfl⟩ (Nat.le_succ _)

theorem drain_leaves (reason : String) (now : UtcTime) : Leaves s (Continues s) (s.drain reason now) := by
  refine .guarded fun _ hchecks => leaves_advance ?_
  obtain ⟨_, hstate, -⟩ := bind_eq_ok_iff.mp hchecks
  exact .of_require .draining hstate (by decide) rfl (by decide) ⟨rfl, rfl, rfl, rfl, rfl, rfl, rfl, rfl⟩
    (Nat.le_succ _)

/-- A session that has received its hello. -/
structure Greeted (s s' : NodeSession) : Prop where
  before : s.state = .connected
  after : s'.state = .helloReceived
  nodeId : s'.nodeId = s.nodeId
  revision : s.revision ≤ s'.revision

theorem receiveHello_leaves (hello : NodeHelloInfo) : Leaves s (Greeted s) (s.receiveHello hello) := by
  refine .guarded fun _ hchecks => leaves_advance ?_
  obtain ⟨_, hstate, -⟩ := bind_eq_ok_iff.mp hchecks
  exact ⟨state_of_require hstate, rfl, rfl, Nat.le_succ _⟩

/-- What the verifier said about the node of a session. -/
structure Vouched {ω : Type} (verifier : AuthenticationVerifier ω) (attempt : AuthenticationAttempt)
    (now : UtcTime) (e : ω) (s : NodeSession) : Prop where
  decided : ∃ hello credential expiresAt, s.helloInfo = some hello ∧
    (verifier s.sessionId s.challenge hello attempt now e).1 = .ok (.authenticated credential) ∧
    credential.credentialExpiresAt.astimezone = some expiresAt ∧ now.micros < expiresAt.micros ∧
    s.nodeId = some credential.nodeId ∧ s.principalId = some credential.principalId ∧
    s.credentialExpiresAt = some expiresAt ∧ s.keyId = credential.keyId
  authMethod : s.authMethod = some attempt.method

/-- A session that has authenticated its node. -/
structure Admitted {ω : Type} (verifier : AuthenticationVerifier ω) (attempt : AuthenticationAttempt)
    (actorId : String) (now : UtcTime) (e : ω) (s s' : NodeSession) : Prop where
  before : s.state = .helloReceived
  after : s'.state = .authenticated
  vouched : Vouched verifier attempt now e s'
  actor : s'.nodeId = some actorId
  revision : s.revision ≤ s'.revision

theorem advertised_eq_ok {attempt : AuthenticationAttempt} {hello : NodeHelloInfo}
    (h : s.advertised attempt = .ok hello) : s.state = .helloReceived ∧ s.helloInfo = some hello := by
  obtain ⟨_, hstate, h⟩ := bind_eq_ok_iff.mp h
  refine ⟨state_of_require hstate, ?_⟩
  split at h
  · cases h
  · next hhello =>
    obtain ⟨-, h⟩ := ite_raise_eq_ok_iff.mp h
    cases h
    exact hhello

theorem admitted_eq_ok {hello : NodeHelloInfo} {actorId : String} {now : UtcTime}
    {decision : AuthenticationDecision} {c : Credential × UtcTime}
    (h : admitted hello actorId now decision = .ok c) :
    decision = .authenticated c.1 ∧ c.1.credentialExpiresAt.astimezone = some c.2 ∧
      now.micros < c.2.micros ∧ c.1.nodeId = actorId := by
  cases decision with
  | refused reason => cases h
  | authenticated credential =>
    rw [admitted] at h
    split at h
    · cases h
    · next expiresAt hexpires =>
      obtain ⟨hlive, h⟩ := ite_raise_eq_ok_iff.mp h
      obtain ⟨-, h⟩ := ite_raise_eq_ok_iff.mp h
      obtain ⟨hactor, h⟩ := ite_raise_eq_ok_iff.mp h
      cases h
      exact ⟨rfl, hexpires, not_le.mp hlive, not_not.mp hactor⟩

theorem authenticate_leaves {ω : Type} (attempt : AuthenticationAttempt) (verifier : AuthenticationVerifier ω)
    (actorId : String) (now : UtcTime) (e : ω) :
    Leaves s (Admitted verifier attempt actorId now e s) (s.authenticate attempt verifier actorId now e).1 := by
  unfold authenticate
  split
  · exact .raised _
  · next hello hadvertised =>
    obtain ⟨hstate, hhello⟩ := advertised_eq_ok hadvertised
    split
    · exact .raised _
    · next decision e' hverify =>
      refine .guarded fun c hc => leaves_advance ?_
      obtain ⟨rfl, hexpires, hlive, hactor⟩ := admitted_eq_ok hc
      refine ⟨hstate, rfl, ⟨⟨hello, c.1, c.2, hhello, ?_, hexpires, hlive, rfl, rfl, rfl, rfl⟩, rfl⟩, ?_,
        Nat.le_succ _⟩
      · exact congrArg Prod.fst hverify
      · exact congrArg some hactor

end NodeSession

namespace NodeSessionWireHandler

open NodeSession

variable {ω : Type} {h : NodeSessionWireHandler ω}

/-! ### The branches of the handler -/

variable {env : ControlEnvelope}

theorem actor_of_requireNode {s : NodeSession} (hchecks : requireNode s env = .ok ()) :
    s.nodeId = some env.actorId := by
  obtain ⟨_, -, hactor⟩ := bind_eq_ok_iff.mp hchecks
  unfold requireAuthenticatedActor at hactor
  split at hactor
  · cases hactor
  · next nodeId hnode =>
    obtain ⟨hne, -⟩ := ite_raise_eq_ok_iff.mp hactor
    rw [hnode, not_not.mp hne]

/-- A performed message: a hello, an authentication, or a step of the authenticated node. -/
inductive Performed (h : NodeSessionWireHandler ω) (s : NodeSession) (env : ControlEnvelope) (now : UtcTime)
    (e : ω) : SessionPayload → NodeSession → Prop
  | hello {major minor : Json} {agentVersion platform : String} {methods capabilities : List String}
      {nodeId : Option String} {s' : NodeSession} : Greeted s s' →
      Performed h s env now e (.nodeHello major minor agentVersion platform methods capabilities nodeId) s'
  | authentication {attempt : AuthenticationAttempt} {s' : NodeSession} :
      Admitted h.verifier attempt env.actorId now e s s' →
      Performed h s env now e (.nodeAuthenticate attempt.method attempt.credential) s'
  | step {payload : SessionPayload} {s' : NodeSession} : s.nodeId = some env.actorId → Continues s s' →
      Performed h s env now e payload s'

theorem attempt_make_eq_ok {method credential : String} {attempt : AuthenticationAttempt}
    (hmake : AuthenticationAttempt.make method credential = .ok attempt) :
    attempt.method = method ∧ attempt.credential = credential := by
  unfold AuthenticationAttempt.make at hmake
  split at hmake
  · split at hmake
    · cases hmake
      exact ⟨rfl, rfl⟩
    · cases hmake
  · cases hmake

theorem state_of_catalogueFits {s : NodeSession} {now : UtcTime} {nodeId : String} {profileRevision : Json}
    (hfits : catalogueFits s now nodeId profileRevision = .ok ()) : ¬ s.Anonymous := by
  obtain ⟨_, hsynced, -⟩ := bind_eq_ok_iff.mp hfits
  unfold requireSynced at hsynced
  split at hsynced
  · cases hsynced
  · next hstate =>
    intro hanonymous
    apply hstate
    rcases hanonymous with hs | hs <;> rw [hs] <;> decide

/-- **What the branches of the handler do.** -/
theorem perform_leaves (s : NodeSession) (env : ControlEnvelope) (now : UtcTime) (e : ω) (payload : SessionPayload) :
    Leaves s (Performed h s env now e payload) (h.perform s env now e payload).1 := by
  cases payload with
  | nodeHello major minor agentVersion platform methods capabilities nodeId =>
    exact .guarded fun hello _ => (receiveHello_leaves hello).mono fun _ => .hello
  | nodeAuthenticate method credential =>
    unfold perform
    dsimp only
    split
    · exact .raised _
    · next attempt hattempt =>
      obtain ⟨_, -, hmake⟩ := bind_eq_ok_iff.mp hattempt
      obtain ⟨rfl, rfl⟩ := attempt_make_eq_ok hmake
      exact (authenticate_leaves attempt h.verifier env.actorId now e).mono fun _ => .authentication
  | capabilityNegotiation accepted =>
    refine .guarded fun _ hchecks => ?_
    obtain ⟨_, hnode, -⟩ := bind_eq_ok_iff.mp hchecks
    exact (negotiateCapabilities_leaves _ _ now).mono fun _ => .step (actor_of_requireNode hnode)
  | nodeProfileUpdate nodeId profileRevision =>
    refine .guarded fun _ hchecks => ?_
    obtain ⟨_, hnode, -⟩ := bind_eq_ok_iff.mp hchecks
    exact (syncProfile_leaves profileRevision now).mono fun _ => .step (actor_of_requireNode hnode)
  | modelCatalogueUpdate nodeId profileRevision =>
    refine .guarded fun _ hchecks => ?_
    obtain ⟨_, hnode, hfits⟩ := bind_eq_ok_iff.mp hchecks
    have hs := state_of_catalogueFits hfits
    exact .returned (.step (actor_of_requireNode hnode) ⟨hs, hs, .refl s, le_rfl⟩)
  | benchmarkReport profileRevision =>
    unfold perform
    dsimp only
    split
    · exact .raised _
    · next hchecks =>
      obtain ⟨_, hnode, hfits⟩ := bind_eq_ok_iff.mp hchecks
      split
      · exact .raised _
      · exact .raised _
      · exact (acceptBenchmarkStatus_leaves profileRevision now).mono fun _ => .step (actor_of_requireNode hnode)
      · obtain ⟨_, hstate, -⟩ := bind_eq_ok_iff.mp hfits
        have hs := not_anonymous_of_state (state_of_require hstate) (by decide)
        exact .returned (.step (actor_of_requireNode hnode) ⟨hs, hs, .refl s, le_rfl⟩)
  | drainRequest reason =>
    refine .guarded fun _ hnode => ?_
    exact (drain_leaves reason now).mono fun _ => .step (actor_of_requireNode hnode)
  | unhandled => exact .raised _

/-! ### One message -/

/-- The message has a contract and conforms to it. -/
def Conforms (h : NodeSessionWireHandler ω) (env : ControlEnvelope) : Prop :=
  env.messageType ∈ supportedMessages ∧ h.contracts.violation env.messageType env.payload = none

/-- The outcomes of `handle`. -/
inductive Handled (h : NodeSessionWireHandler ω) (w : Wire ω) (env : ControlEnvelope) (now : AwareDatetime) :
    Except SessionExn SessionSnapshot × Wire ω → Prop
  | refused (exn : SessionExn) (e : ω) : Handled h w env now (.error exn, { w with deployment := e })
  | replayed {snapshot : SessionSnapshot} : h.Conforms env →
      w.replays.get? env.requestId = some ⟨fingerprint env, snapshot⟩ → Handled h w env now (.ok snapshot, w)
  | performed {payload : SessionPayload} {nowUtc : UtcTime} {snapshot : SessionSnapshot}
      {session : NodeSession} {e : ω} : h.Conforms env → w.replays.get? env.requestId = none →
      readPayload env.messageType env.payload = some payload → now.astimezone = some nowUtc →
      Performed h w.session env nowUtc w.deployment payload session →
      Handled h w env now (.ok snapshot, ⟨session, w.replays.set env.requestId ⟨fingerprint env, snapshot⟩, e⟩)

theorem checkReplay_eq_ok {replays : Dict String ReplayRecord}
    {answer : Option SessionSnapshot} (hcheck : checkReplay replays env = .ok answer) :
    replays.get? env.requestId = answer.map fun snapshot => ⟨fingerprint env, snapshot⟩ := by
  unfold checkReplay at hcheck
  split at hcheck
  · next hnone =>
    cases hcheck
    exact hnone
  · next prior hprior =>
    obtain ⟨hsame, hcheck⟩ := ite_raise_eq_ok_iff.mp hcheck
    cases hcheck
    rw [hprior, ← not_not.mp hsame]
    rfl

theorem admission_eq_ok {w : Wire ω} {verdict : SessionSnapshot ⊕ SessionPayload}
    (hadmission : h.admission w env = .ok verdict) :
    h.Conforms env ∧ ((∃ snapshot, verdict = .inl snapshot ∧
        w.replays.get? env.requestId = some ⟨fingerprint env, snapshot⟩) ∨
      ∃ payload, verdict = .inr payload ∧ w.replays.get? env.requestId = none ∧
        readPayload env.messageType env.payload = some payload) := by
  unfold admission at hadmission
  obtain ⟨hsupported, hadmission⟩ := ite_raise_eq_ok_iff.mp hadmission
  split at hadmission
  · cases hadmission
  · next hviolation =>
    refine ⟨⟨not_not.mp hsupported, hviolation⟩, ?_⟩
    obtain ⟨answer, hcheck, hadmission⟩ := bind_eq_ok_iff.mp hadmission
    have hfound := checkReplay_eq_ok hcheck
    cases answer with
    | some snapshot =>
      cases hadmission
      exact .inl ⟨snapshot, rfl, hfound⟩
    | none =>
      obtain ⟨_, -, hadmission⟩ := bind_eq_ok_iff.mp hadmission
      cases hadmission
      exact .inr ⟨_, rfl, hfound, (Option.some_get _).symm⟩

/-- **The three outcomes of a message.** -/
theorem handle_cases (w : Wire ω) (env : ControlEnvelope) (now : AwareDatetime) :
    Handled h w env now (h.handle w env now) := by
  unfold handle
  split
  · exact .refused _ w.deployment
  · next snapshot hadmission =>
    obtain ⟨hconforms, ⟨_, heq, hfound⟩ | ⟨_, heq, -⟩⟩ := admission_eq_ok hadmission
    · cases heq
      exact .replayed hconforms hfound
    · cases heq
  · next payload hadmission =>
    obtain ⟨hconforms, ⟨_, heq, -⟩ | ⟨_, heq, hnew, hread⟩⟩ := admission_eq_ok hadmission
    · cases heq
    · cases heq
      split
      · exact .refused _ w.deployment
      · next nowUtc hnow =>
        have hleaves := perform_leaves (h := h) w.session env nowUtc w.deployment payload
        generalize h.perform w.session env nowUtc w.deployment payload = result at hleaves
        obtain ⟨outcome, e⟩ := result
        cases hleaves with
        | raised exn => exact .refused exn e
        | returned hperformed => exact .performed hconforms hnew hread hnow hperformed

/-- A message that is in the replay map is answered from it, and changes nothing. -/
theorem handle_replay {w : Wire ω} {snapshot : SessionSnapshot} (hconforms : h.Conforms env)
    (hfound : w.replays.get? env.requestId = some ⟨fingerprint env, snapshot⟩) (now : AwareDatetime) :
    h.handle w env now = (.ok snapshot, w) := by
  have hcheck : checkReplay w.replays env = .ok (some snapshot) := by
    unfold checkReplay
    rw [hfound]
    exact if_neg (not_not.mpr rfl)
  have hadmission : h.admission w env = .ok (.inl snapshot) := by
    unfold admission
    rw [if_neg (not_not.mpr hconforms.1)]
    split
    · next text hviolation => cases hconforms.2.symm.trans hviolation
    · rw [hcheck]
      rfl
  unfold handle
  rw [hadmission]

end NodeSessionWireHandler

end ComputeMesh.Protocol
