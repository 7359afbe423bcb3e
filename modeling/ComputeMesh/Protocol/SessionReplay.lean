import ComputeMesh.Protocol.SessionSteps

/-!
# Replayed session messages have no effect

Runs of one handler: any list of envelopes, valid or not, each with the time it is handled at.  The log of a
run keeps for every envelope the answer it got and the handler before and after it.

* `withoutDuplicates` — the log without the exact duplicates of envelopes accepted earlier;
* `Answered` / `run_withoutDuplicates` — the remaining envelopes alone lead to the remaining log and to the same
  handler;
* `actor_of_canonical` — envelopes with one canonical text have one actor and one message;
* `Sound` — after the authentication the session holds what the verifier vouched for, and its node sent
  everything that was accepted after the hello;
* `node_session_replay_safety` — **the guarantees of a run.**
-/

namespace ComputeMesh.Protocol

open List

/-- One envelope of a run: what was handled, when, and with which effect. -/
structure SessionLogEntry (ω : Type) where
  before : Wire ω
  envelope : ControlEnvelope
  now : AwareDatetime
  response : Except SessionExn SessionSnapshot
  after : Wire ω

namespace SessionLogEntry

variable {ω : Type}

/-- `handle` returned. -/
def Accepted (entry : SessionLogEntry ω) : Prop := ∃ snapshot, entry.response = .ok snapshot

def input (entry : SessionLogEntry ω) : ControlEnvelope × AwareDatetime := (entry.envelope, entry.now)

end SessionLogEntry

/-- A handler on a session that has just been created. -/
def Wire.connected {ω : Type} (sessionId challenge : String) (e : ω) : Wire ω :=
  ⟨{ sessionId, challenge }, .empty, e⟩

open Classical in
/-- The entries of a log that are no exact duplicates of an envelope accepted earlier. -/
noncomputable def withoutDuplicates {ω : Type} (earlier : List (SessionLogEntry ω)) :
    List (SessionLogEntry ω) → List (SessionLogEntry ω)
  | [] => []
  | entry :: rest =>
    if ∃ e ∈ earlier, e.Accepted ∧ e.envelope = entry.envelope then
      withoutDuplicates (earlier ++ [entry]) rest
    else entry :: withoutDuplicates (earlier ++ [entry]) rest

namespace NodeSessionWireHandler

open ComputeMesh.Text ComputeMesh.Json NodeSession

variable {ω : Type} {h : NodeSessionWireHandler ω}

/-- What handling one envelope leaves in the log. -/
def entryOf (h : NodeSessionWireHandler ω) (w : Wire ω) (input : ControlEnvelope × AwareDatetime) :
    SessionLogEntry ω where
  before := w
  envelope := input.1
  now := input.2
  response := (h.handle w input.1 input.2).1
  after := (h.handle w input.1 input.2).2

/-- The log of a run, and the handler after it. -/
def run (h : NodeSessionWireHandler ω) (w : Wire ω) :
    List (ControlEnvelope × AwareDatetime) → List (SessionLogEntry ω) × Wire ω
  | [] => ([], w)
  | input :: rest =>
    let entry := h.entryOf w input
    (entry :: (h.run entry.after rest).1, (h.run entry.after rest).2)

/-! ### Deleting duplicates -/

/-- Every accepted envelope is in the replay map. -/
def Answered (h : NodeSessionWireHandler ω) (log : List (SessionLogEntry ω)) (w : Wire ω) : Prop :=
  ∀ entry ∈ log, ∀ snapshot, entry.response = .ok snapshot → h.Conforms entry.envelope ∧
      w.replays.get? entry.envelope.requestId = some ⟨fingerprint entry.envelope, snapshot⟩

theorem answered_nil (w : Wire ω) : h.Answered [] w := fun _ hmem => (nomatch hmem)

theorem Answered.handle {log : List (SessionLogEntry ω)} {w : Wire ω} (ha : h.Answered log w)
    (input : ControlEnvelope × AwareDatetime) :
    h.Answered (log ++ [h.entryOf w input]) (h.entryOf w input).after := by
  have hcases := handle_cases (h := h) w input.1 input.2
  intro entry hmem snapshot hok
  rcases mem_append.mp hmem with hold | hnew
  · obtain ⟨hconforms, hfound⟩ := ha entry hold snapshot hok
    refine ⟨hconforms, ?_⟩
    show (h.handle w input.1 input.2).2.replays.get? _ = _
    generalize h.handle w input.1 input.2 = r at hcases
    cases hcases with
    | refused exn e | replayed _ _ => exact hfound
    | performed _ hfresh _ _ _ =>
      have hne : entry.envelope.requestId ≠ input.1.requestId := by
        intro heq
        rw [heq, hfresh] at hfound
        cases hfound
      rw [Dict.get?_set_of_ne _ hne]
      exact hfound
  · obtain rfl := mem_singleton.mp hnew
    change (h.handle w input.1 input.2).1 = .ok snapshot at hok
    show h.Conforms input.1 ∧ (h.handle w input.1 input.2).2.replays.get? input.1.requestId = _
    generalize h.handle w input.1 input.2 = r at hcases hok
    cases hcases with
    | refused exn e => cases hok
    | replayed hconforms hfound =>
      cases hok
      exact ⟨hconforms, hfound⟩
    | performed hconforms _ _ _ _ =>
      cases hok
      exact ⟨hconforms, Dict.get?_set_self _ _ _⟩

theorem Answered.after_duplicate {log : List (SessionLogEntry ω)} {w : Wire ω} (ha : h.Answered log w)
    {input : ControlEnvelope × AwareDatetime}
    (hdup : ∃ e ∈ log, e.Accepted ∧ e.envelope = input.1) : (h.entryOf w input).after = w := by
  obtain ⟨e, hmem, ⟨snapshot, hok⟩, heq⟩ := hdup
  obtain ⟨hconforms, hfound⟩ := ha e hmem snapshot hok
  rw [heq] at hconforms hfound
  show (h.handle w input.1 input.2).2 = w
  rw [handle_replay hconforms hfound]

/-- **Without its duplicates a run has the same log, less the duplicates, and the same end.** -/
theorem run_withoutDuplicates (inputs : List (ControlEnvelope × AwareDatetime)) :
    ∀ {earlier : List (SessionLogEntry ω)} {w : Wire ω}, h.Answered earlier w →
      h.run w ((withoutDuplicates earlier (h.run w inputs).1).map SessionLogEntry.input) =
        (withoutDuplicates earlier (h.run w inputs).1, (h.run w inputs).2) := by
  induction inputs with
  | nil =>
    intro earlier w _
    rfl
  | cons input rest ih =>
    intro earlier w ha
    have hrest := ih (ha.handle input)
    simp only [run, withoutDuplicates]
    split
    · next hdup =>
      rw [ha.after_duplicate hdup] at hrest ⊢
      exact hrest
    · rw [map_cons]
      show (h.entryOf w input :: (h.run (h.entryOf w input).after _).1, (h.run (h.entryOf w input).after _).2) = _
      rw [hrest]

/-! ### What the canonical text fixes -/

theorem sorted_fields (major minor messageType actorId targetId revision payload : String) :
    ([("protocol_major", major), ("protocol_minor", minor), ("message_type", messageType), ("actor_id", actorId),
      ("target_id", targetId), ("expected_revision", revision), ("payload", payload)].insertionSort
        fun a b => a.1 ≤ b.1) =
      [("actor_id", actorId), ("expected_revision", revision), ("message_type", messageType),
        ("payload", payload), ("protocol_major", major), ("protocol_minor", minor), ("target_id", targetId)] := by
  simp [insertionSort, orderedInsert]

theorem canonical_eq (env : ControlEnvelope) : ∃ rest, canonical env =
    "\x7b" ++ jsonText "actor_id" ++ ":" ++ (jsonText env.actorId ++
      ("," ++ jsonText "expected_revision" ++ ":" ++ (toString env.expectedRevision ++
        ("," ++ (jsonText "message_type" ++ ":" ++ (jsonText env.messageType ++ rest)))))) := by
  simp only [canonical, dumps, dumpsFields, dumpsObject, sorted_fields, map_cons, map_nil, dumpsField]
  refine ⟨"," ++ jsonText "payload" ++ ":" ++ (ofDict env.payload).dumps ++
    "," ++ jsonText "protocol_major" ++ ":" ++ toString (env.protocolMajor : ℤ) ++
    "," ++ jsonText "protocol_minor" ++ ":" ++ toString (env.protocolMinor : ℤ) ++
    "," ++ jsonText "target_id" ++ ":" ++ jsonText env.targetId ++ "\x7d", ?_⟩
  simp only [String.intercalate_cons_cons, String.intercalate_singleton, String.append_assoc]
  rfl

/-- **Equal canonical texts have the same actor and message.** -/
theorem actor_of_canonical {e e' : ControlEnvelope} (h : canonical e = canonical e') :
    e.actorId = e'.actorId ∧ e.messageType = e'.messageType := by
  obtain ⟨rest, he⟩ := canonical_eq e
  obtain ⟨rest', he'⟩ := canonical_eq e'
  rw [he, he'] at h
  obtain ⟨hactor, h⟩ := jsonText_append_inj (append_left_cancel h)
  obtain ⟨-, h⟩ := natText_append_inj (append_left_cancel h)
  obtain ⟨hmessage, -⟩ := jsonText_append_inj (append_left_cancel h)
  exact ⟨hactor, hmessage⟩

/-! ### The authenticated node -/

/-- The message is a hello, or comes from the node of the session. -/
def Bound (s : NodeSession) (env : ControlEnvelope) : Prop :=
  env.messageType = "NodeHello" ∨ s.nodeId = some env.actorId

theorem Bound.mono {s s' : NodeSession} {env : ControlEnvelope} (hb : Bound s env)
    (hnode : s.nodeId = none ∨ s'.nodeId = s.nodeId) : Bound s' env := by
  rcases hb with hhello | hactor
  · exact .inl hhello
  · rcases hnode with hnone | hsame
    · rw [hnone] at hactor
      cases hactor
    · exact .inr (hsame.trans hactor)

theorem Bound.of_canonical {s : NodeSession} {e e' : ControlEnvelope} (hb : Bound s e)
    (hcanonical : canonical e = canonical e') : Bound s e' := by
  obtain ⟨hactor, hmessage⟩ := actor_of_canonical hcanonical
  unfold Bound
  rw [← hactor, ← hmessage]
  exact hb

/-- Another accepted envelope has a different canonical text with the same SHA-256 digest. -/
def Collides (log : List (SessionLogEntry ω)) (env : ControlEnvelope) : Prop :=
  ∃ e ∈ log, e.Accepted ∧ canonical e.envelope ≠ canonical env ∧ fingerprint e.envelope = fingerprint env

/-- The session holds the credential of an accepted `NodeAuthenticate`, as the verifier vouched for it. -/
def Verified (h : NodeSessionWireHandler ω) (log : List (SessionLogEntry ω)) (s : NodeSession) : Prop :=
  ∃ e ∈ log, e.Accepted ∧ ∃ attempt nowUtc, readPayload e.envelope.messageType e.envelope.payload =
      some (.nodeAuthenticate attempt.method attempt.credential) ∧
    e.now.astimezone = some nowUtc ∧ Vouched h.verifier attempt nowUtc e.before.deployment s

variable {e : ω}

theorem vouched_of_sameNode {verifier : AuthenticationVerifier ω} {attempt : AuthenticationAttempt}
    {now : UtcTime} {s s' : NodeSession} (hv : Vouched verifier attempt now e s)
    (hsame : SameNode s s') : Vouched verifier attempt now e s' := by
  obtain ⟨⟨hello, credential, expiresAt, hhello, hverify, hutc, hlive, hnode, hprincipal, hexpires, hkey⟩,
    hmethod⟩ := hv
  refine ⟨⟨hello, credential, expiresAt, hsame.helloInfo.trans hhello, ?_, hutc, hlive,
    hsame.nodeId.trans hnode, hsame.principalId.trans hprincipal, hsame.credentialExpiresAt.trans hexpires,
    hsame.keyId.trans hkey⟩, hsame.authMethod.trans hmethod⟩
  rw [hsame.sessionId, hsame.challenge]
  exact hverify

/-- What holds of the log and the handler of every run. -/
structure Sound (h : NodeSessionWireHandler ω) (log : List (SessionLogEntry ω)) (w : Wire ω) : Prop where
  anonymous : w.session.Anonymous → w.session.nodeId = none
  verified : ¬ w.session.Anonymous → h.Verified log w.session
  recorded : ∀ requestId record, w.replays.get? requestId = some record →
    ∃ e ∈ log, e.Accepted ∧ record.fingerprint = fingerprint e.envelope ∧ Bound w.session e.envelope
  accepted : ∀ e ∈ log, e.Accepted → Bound w.session e.envelope ∨ Collides log e.envelope

theorem readPayload_nodeHello {messageType : String} {payload : Dict String Json} {major minor : Json}
    {agentVersion platform : String} {methods capabilities : List String} {nodeId : Option String}
    (hread : readPayload messageType payload =
      some (.nodeHello major minor agentVersion platform methods capabilities nodeId)) :
    messageType = "NodeHello" := by
  by_contra hne
  unfold readPayload at hread
  rw [if_neg hne] at hread
  split_ifs at hread <;> simp [Option.bind_eq_some_iff] at hread

variable {env : ControlEnvelope} {nowUtc : UtcTime} {payload : SessionPayload}

theorem bound_of_performed {s s' : NodeSession} (hread : readPayload env.messageType env.payload = some payload)
    (hp : Performed h s env nowUtc e payload s') : Bound s' env := by
  cases hp with
  | hello _ => exact .inl (readPayload_nodeHello hread)
  | authentication hadmitted => exact .inr hadmitted.actor
  | step hactor hcontinues => exact .inr (hcontinues.same.nodeId.trans hactor)

section

variable {s s' : NodeSession} (hanonymous : s.Anonymous → s.nodeId = none)
  (hp : Performed h s env nowUtc e payload s')
include hanonymous hp

theorem nodeId_of_performed : s.nodeId = none ∨ s'.nodeId = s.nodeId := by
  cases hp with
  | hello hgreeted => exact .inr hgreeted.nodeId
  | authentication hadmitted => exact .inl (hanonymous (.inr hadmitted.before))
  | step _ hcontinues => exact .inr hcontinues.same.nodeId

theorem anonymous_of_performed (hs' : s'.Anonymous) : s'.nodeId = none := by
  cases hp with
  | hello hgreeted => exact hgreeted.nodeId.trans (hanonymous (.inl hgreeted.before))
  | authentication hadmitted =>
    rcases hs' with hs' | hs' <;> cases hadmitted.after.symm.trans hs'
  | step _ hcontinues => exact absurd hs' hcontinues.after

end

section Log

variable {log : List (SessionLogEntry ω)} {w : Wire ω} {entry : SessionLogEntry ω}

theorem Collides.append (hc : Collides log env) : Collides (log ++ [entry]) env := by
  obtain ⟨e, hmem, he⟩ := hc
  exact ⟨e, mem_append_left _ hmem, he⟩

theorem Verified.append {s s' : NodeSession} (hv : h.Verified log s) (hsame : SameNode s s') :
    h.Verified (log ++ [entry]) s' := by
  obtain ⟨e, hmem, haccepted, attempt, nowUtc, hread, hnow, hvouched⟩ := hv
  exact ⟨e, mem_append_left _ hmem, haccepted, attempt, nowUtc, hread, hnow, vouched_of_sameNode hvouched hsame⟩

theorem verified_of_performed (hs : h.Sound log entry.before)
    (haccepted : entry.Accepted) (hread : readPayload entry.envelope.messageType entry.envelope.payload = some payload)
    (hnow : entry.now.astimezone = some nowUtc)
    (hp : Performed h entry.before.session entry.envelope nowUtc entry.before.deployment payload
      entry.after.session) (hpast : ¬ entry.after.session.Anonymous) :
    h.Verified (log ++ [entry]) entry.after.session := by
  generalize entry.after.session = s' at hp hpast
  cases hp with
  | hello hgreeted => exact absurd (.inr hgreeted.after) hpast
  | authentication hadmitted =>
    exact ⟨entry, mem_append_right _ (mem_singleton_self _), haccepted, _, nowUtc, hread, hnow, hadmitted.vouched⟩
  | step _ hcontinues => exact (hs.verified hcontinues.before).append hcontinues.same

theorem Sound.replayed {snapshot : SessionSnapshot} (hs : h.Sound log w) (hafter : entry.after = w)
    (hfound : w.replays.get? entry.envelope.requestId = some ⟨fingerprint entry.envelope, snapshot⟩) :
    h.Sound (log ++ [entry]) entry.after := by
  rw [hafter]
  refine ⟨hs.anonymous, fun hpast => (hs.verified hpast).append (.refl _), ?_, ?_⟩
  · intro requestId record hrecord
    obtain ⟨e, hmem, he⟩ := hs.recorded requestId record hrecord
    exact ⟨e, mem_append_left _ hmem, he⟩
  · intro e hmem haccepted
    rcases mem_append.mp hmem with hold | hnew
    · exact (hs.accepted e hold haccepted).imp_right .append
    · obtain rfl := mem_singleton.mp hnew
      obtain ⟨e', hmem', haccepted', hfingerprint, hbound⟩ := hs.recorded _ _ hfound
      by_cases hcanonical : canonical e'.envelope = canonical e.envelope
      · exact .inl (hbound.of_canonical hcanonical)
      · exact .inr ⟨e', mem_append_left _ hmem', haccepted', hcanonical, hfingerprint.symm⟩

theorem Sound.refused (hs : h.Sound log w) (hsession : entry.after.session = w.session)
    (hreplays : entry.after.replays = w.replays) (hrefused : ¬ entry.Accepted) :
    h.Sound (log ++ [entry]) entry.after := by
  refine ⟨?_, ?_, ?_, ?_⟩
  · rw [hsession]
    exact hs.anonymous
  · rw [hsession]
    exact fun hpast => (hs.verified hpast).append (.refl _)
  · intro requestId record hrecord
    rw [hreplays] at hrecord
    obtain ⟨e, hmem, he⟩ := hs.recorded requestId record hrecord
    rw [hsession]
    exact ⟨e, mem_append_left _ hmem, he⟩
  · intro e hmem haccepted
    rw [hsession]
    rcases mem_append.mp hmem with hold | hnew
    · exact (hs.accepted e hold haccepted).imp_right .append
    · exact absurd (mem_singleton.mp hnew ▸ haccepted) hrefused

theorem Sound.performed {snapshot : SessionSnapshot} (hs : h.Sound log entry.before) (haccepted : entry.Accepted)
    (hread : readPayload entry.envelope.messageType entry.envelope.payload = some payload)
    (hnow : entry.now.astimezone = some nowUtc)
    (hp : Performed h entry.before.session entry.envelope nowUtc entry.before.deployment payload
      entry.after.session)
    (hreplays : entry.after.replays =
      entry.before.replays.set entry.envelope.requestId ⟨fingerprint entry.envelope, snapshot⟩) :
    h.Sound (log ++ [entry]) entry.after := by
  have hnode := nodeId_of_performed hs.anonymous hp
  have hself : entry ∈ log ++ [entry] := mem_append_right _ (mem_singleton_self _)
  refine ⟨anonymous_of_performed hs.anonymous hp, verified_of_performed hs haccepted hread hnow hp, ?_, ?_⟩
  · intro requestId record hrecord
    rw [hreplays] at hrecord
    rcases Dict.get?_set_eq_some.mp hrecord with ⟨-, rfl⟩ | ⟨-, hrecord⟩
    · exact ⟨entry, hself, haccepted, rfl, bound_of_performed hread hp⟩
    · obtain ⟨e, hmem, he, hfingerprint, hbound⟩ := hs.recorded requestId record hrecord
      exact ⟨e, mem_append_left _ hmem, he, hfingerprint, hbound.mono hnode⟩
  · intro e hmem he
    rcases mem_append.mp hmem with hold | hnew
    · exact (hs.accepted e hold he).imp (fun hbound => hbound.mono hnode) .append
    · obtain rfl := mem_singleton.mp hnew
      exact .inl (bound_of_performed hread hp)

end Log

theorem sound_connected (sessionId challenge : String) (e : ω) : h.Sound [] (.connected sessionId challenge e) where
  anonymous _ := rfl
  verified hpast := absurd (.inl rfl) hpast
  recorded _ _ hrecord := by cases hrecord
  accepted _ hmem := (nomatch hmem)

theorem Sound.handle {log : List (SessionLogEntry ω)} {w : Wire ω} (hs : h.Sound log w)
    (input : ControlEnvelope × AwareDatetime) :
    h.Sound (log ++ [h.entryOf w input]) (h.entryOf w input).after := by
  have hcases := handle_cases (h := h) w input.1 input.2
  unfold entryOf
  generalize h.handle w input.1 input.2 = r at hcases
  cases hcases with
  | refused exn e => exact hs.refused rfl rfl fun ⟨_, hok⟩ => (nomatch hok)
  | replayed _ hfound => exact hs.replayed rfl hfound
  | performed _ _ hread hnow hp => exact Sound.performed hs ⟨_, rfl⟩ hread hnow hp rfl

theorem Sound.run {log : List (SessionLogEntry ω)} {w : Wire ω} (hs : h.Sound log w)
    (inputs : List (ControlEnvelope × AwareDatetime)) :
    h.Sound (log ++ (h.run w inputs).1) (h.run w inputs).2 := by
  induction inputs generalizing log w with
  | nil =>
    rw [show (h.run w []).1 = [] from rfl, append_nil]
    exact hs
  | cons input rest ih =>
    have hrest := ih (hs.handle input)
    rw [append_assoc] at hrest
    exact hrest

/-! ### The guarantees of a run -/

theorem revision_le_of_performed {s s' : NodeSession}
    (hp : Performed h s env nowUtc e payload s') : s.revision ≤ s'.revision := by
  cases hp with
  | hello hgreeted => exact hgreeted.revision
  | authentication hadmitted => exact hadmitted.revision
  | step _ hcontinues => exact hcontinues.revision

/-- A raising call changes neither session nor replay map, and no call lowers the revision. -/
structure Safe (entry : SessionLogEntry ω) : Prop where
  raised : ∀ exn, entry.response = .error exn →
    entry.after.session = entry.before.session ∧ entry.after.replays = entry.before.replays
  revision : entry.before.session.revision ≤ entry.after.session.revision

theorem safe_entryOf (w : Wire ω) (input : ControlEnvelope × AwareDatetime) : Safe (h.entryOf w input) := by
  have hcases := handle_cases (h := h) w input.1 input.2
  unfold entryOf
  generalize h.handle w input.1 input.2 = r at hcases
  cases hcases with
  | refused exn e => exact ⟨fun _ _ => ⟨rfl, rfl⟩, le_rfl⟩
  | replayed _ _ => exact ⟨nofun, le_rfl⟩
  | performed _ _ _ _ hp => exact ⟨nofun, revision_le_of_performed hp⟩

theorem safe_of_mem_run {w : Wire ω} {inputs : List (ControlEnvelope × AwareDatetime)}
    {entry : SessionLogEntry ω} (hmem : entry ∈ (h.run w inputs).1) : Safe entry := by
  induction inputs generalizing w with
  | nil => cases hmem
  | cons input rest ih =>
    rcases mem_cons.mp hmem with rfl | hrest
    · exact safe_entryOf w input
    · exact ih hrest

/-- **The guarantees of a run.**  Without the exact duplicates of envelopes accepted earlier the run has the
same answers and the same end; a call that raises changes neither session nor replay map; the revision never
decreases; and a session at or after `AUTHENTICATED` holds a credential that the verifier vouched for, whose
node is the actor of every accepted message after the hello. -/
theorem node_session_replay_safety (h : NodeSessionWireHandler ω) (sessionId challenge : String) (e : ω)
    (inputs : List (ControlEnvelope × AwareDatetime)) :
    let w := Wire.connected sessionId challenge e
    let log := (h.run w inputs).1
    let final := (h.run w inputs).2
    h.run w ((withoutDuplicates [] log).map SessionLogEntry.input) = (withoutDuplicates [] log, final) ∧
      (∀ entry ∈ log, ∀ exn, entry.response = .error exn →
        entry.after.session = entry.before.session ∧ entry.after.replays = entry.before.replays) ∧
      (∀ entry ∈ log, entry.before.session.revision ≤ entry.after.session.revision) ∧
      (¬ final.session.Anonymous → h.Verified log final.session ∧
        ∀ entry ∈ log, entry.Accepted → entry.envelope.messageType = "NodeHello" ∨
          final.session.nodeId = some entry.envelope.actorId ∨ Collides log entry.envelope) := by
  intro w log final
  have hsound : h.Sound log final := (@Sound.run _ _ ([])) (sound_connected sessionId challenge e) inputs
  refine ⟨run_withoutDuplicates inputs (answered_nil w), fun _ hmem => (safe_of_mem_run hmem).raised,
    fun _ hmem => (safe_of_mem_run hmem).revision, fun hpast => ⟨hsound.verified hpast, ?_⟩⟩
  intro entry hmem haccepted
  exact or_assoc.mp (hsound.accepted entry hmem haccepted)

/-! ### A hello under another name -/

/-- A verifier that vouches for the node `n`, and contracts that demand no more than readable payloads. -/
def vouchingHandler : NodeSessionWireHandler Unit where
  verifier _ _ _ _ _ e :=
    (.ok (.authenticated ⟨"n", "p", ⟨1, 0, by decide, by decide⟩, none, by decide, by decide⟩), e)
  benchmarkPolicy _ _ _ e := (.ok (.rejected none), e)
  controlPlaneCapabilities := ∅
  requiredCapabilities := ∅
  contracts :=
    { violation := fun messageType payload =>
        if (readPayload messageType payload).isSome then none else some "$: invalid"
      readable := fun messageType payload hnone => by
        by_contra hread
        rw [if_neg hread] at hnone
        cases hnone }
  control_count := by decide
  required_count := by decide
  capabilities_length := by decide

/-- A `NodeHello` with the actor `x`, and a `NodeAuthenticate` of the node `n`. -/
def helloOfAnother : List (ControlEnvelope × AwareDatetime) :=
  let start : UtcTime := ⟨0, by decide, by decide⟩
  let hello : Dict String Json :=
    ⟨[("protocol_major", .int 0), ("protocol_minor", .int 2), ("agent_version", .str "1"),
      ("platform", .str "linux"), ("supported_auth_methods", .arr [.str "key"]), ("capabilities", .arr [])],
      by decide⟩
  let authenticate : Dict String Json := ⟨[("method", .str "key"), ("credential", .str "c")], by decide⟩
  [(⟨0, 2, "NodeHello", "r1", "c1", "x", "t", start, start, 0, hello⟩, start.aware),
    (⟨0, 2, "NodeAuthenticate", "r2", "c2", "n", "t", start, start, 1, authenticate⟩, start.aware)]

/-- The actor of a hello is not compared with the node that is authenticated after it. -/
theorem hello_actor_unchecked : let r := vouchingHandler.run (.connected "s" "0123456789abcdef" ()) helloOfAnother
    r.2.session.state = .authenticated ∧
      ¬ ∀ entry ∈ r.1, entry.Accepted → r.2.session.nodeId = some entry.envelope.actorId := by
  intro r
  refine ⟨rfl, fun hall => ?_⟩
  have hnode := hall _ (mem_cons_self) ⟨_, rfl⟩
  revert hnode
  decide

end NodeSessionWireHandler

end ComputeMesh.Protocol
