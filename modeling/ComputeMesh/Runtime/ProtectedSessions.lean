import ComputeMesh.Runtime.ProtectedWorker

/-!
# Protected sessions are one-shot, and how many are in use

What a session may do over a whole run of the manager.  A session is counted where it is: waiting in the map, held by a
call, or ended; these counts never exceed one for one session, whatever the moves are, and so the backend runs once.

The map is also what capacity is counted by, and a purge takes a session out of it while its execution still runs.  The
laws of capacity and of expiry hold along the runs in which no execution outlasts its session (`Timely`).

* `next_effect` — what one move can do;
* `fits_exec` — the sessions in use fit the limit, in every timely run;
* `protected_sessions_one_shot` — **so all the laws hold in every timely run**;
* `purge_frees_an_executing_session` — without that, two sessions are in use where one is allowed.
-/

namespace ComputeMesh.Runtime

open ComputeMesh.Protocol Dict WorkerCall List SessionManager

/-! ### Where a session is -/

def WorkerCall.holds (f : ProtectedSession → ℤ) : WorkerCall → ℤ
  | .claimed session _ | .admitted session _ | .executing session | .retiring session => f session
  | _ => 0

/-- What a call that holds a session and has not reached the backend contributes. -/
def WorkerCall.pending (f : ProtectedSession → ℤ) : WorkerCall → ℤ
  | .claimed session _ | .admitted session _ => f session
  | _ => 0

/-- What a call contributes that goes to the backend with its envelope. -/
def WorkerCall.carries (f : ConfidentialEnvelope → ℤ) : WorkerCall → ℤ
  | .admitted _ envelope => f envelope
  | _ => 0

/-- One for a call that holds a place for a session to come. -/
def WorkerCall.reserves : WorkerCall → ℤ
  | .provisioning .. | .releasing .. => 1
  | _ => 0

/-- The envelope of a call has its session's binding. -/
def WorkerCall.Bound : WorkerCall → Prop
  | .claimed session envelope | .admitted session envelope => envelope.binding = session.binding
  | _ => True

def everySession (_ : ProtectedSession) : ℤ := 1

/-- The session under a serial number. -/
def ofSerial (n : ℕ) (s : ProtectedSession) : ℤ := if s.serial = n then 1 else 0

/-- The session under a serial number, for a job. -/
def ofSerialAndJob (n : ℕ) (jobId : String) (s : ProtectedSession) : ℤ :=
  if s.serial = n ∧ s.jobId = jobId then 1 else 0

def ofEnvelope (id : String) (e : ConfidentialEnvelope) : ℤ := if e.envelopeId = id then 1 else 0

theorem everySession_nonneg (s : ProtectedSession) : 0 ≤ everySession s := Int.one_nonneg

theorem ofSerial_nonneg (n : ℕ) (s : ProtectedSession) : 0 ≤ ofSerial n s := by
  unfold ofSerial
  split <;> decide

theorem ofSerialAndJob_nonneg (n : ℕ) (jobId : String) (s : ProtectedSession) : 0 ≤ ofSerialAndJob n jobId s := by
  unfold ofSerialAndJob
  split <;> decide

variable {f : ProtectedSession → ℤ}

theorem WorkerCall.holds_nonneg (hf : ∀ s, 0 ≤ f s) (call : WorkerCall) : 0 ≤ call.holds f := by
  cases call <;> first | exact hf _ | exact le_rfl

theorem WorkerCall.pending_nonneg (hf : ∀ s, 0 ≤ f s) (call : WorkerCall) : 0 ≤ call.pending f := by
  cases call <;> first | exact hf _ | exact le_rfl

theorem WorkerCall.carries_nonneg (id : String) (call : WorkerCall) : 0 ≤ call.carries (ofEnvelope id) := by
  cases call with
  | admitted session envelope =>
    show 0 ≤ ofEnvelope id envelope
    unfold ofEnvelope
    split <;> decide
  | _ => exact le_rfl

/-- The sum over the sessions that wait for an envelope. -/
def SessionManager.waiting (f : ProtectedSession → ℤ) (m : SessionManager) : ℤ :=
  m.sessions.sumBy fun s => if s.claimedEnvelopeId = none then f s else 0

/-- The sum over the claimed sessions that are in the map. -/
def SessionManager.mapped (f : ProtectedSession → ℤ) (m : SessionManager) : ℤ :=
  m.sessions.sumBy fun s => if s.claimedEnvelopeId = none then 0 else f s

namespace ProtectedWorker

variable {κ : Type}

/-- The sum over the sessions that calls hold. -/
def held (f : ProtectedSession → ℤ) (w : ProtectedWorker κ) : ℤ := w.calls.sumBy (WorkerCall.holds f)

/-- The sum over the sessions whose call has not reached the backend. -/
def pending (f : ProtectedSession → ℤ) (w : ProtectedWorker κ) : ℤ := w.calls.sumBy (WorkerCall.pending f)

/-- The sum over the envelopes that are on their way to the backend. -/
def carried (f : ConfidentialEnvelope → ℤ) (w : ProtectedWorker κ) : ℤ := w.calls.sumBy (WorkerCall.carries f)

/-- The provision calls that are under way. -/
def reserved (w : ProtectedWorker κ) : ℤ := w.calls.sumBy WorkerCall.reserves

/-- **The sessions in use**: being provisioned, waiting or executing. -/
def inUse (w : ProtectedWorker κ) : ℤ := w.reserved + w.manager.waiting everySession + w.held everySession

/-- A session is held by the map or by a call. -/
def Holds (n : ℕ) (w : ProtectedWorker κ) : Prop :=
  (∃ s ∈ w.manager.sessions.values, s.serial = n) ∨ 0 < w.held (ofSerial n)

/-- The calls of the backend for one session. -/
def invokedFor (n : ℕ) (w : ProtectedWorker κ) : ℤ := (w.invocations.map fun i => ofSerial n i.session).sum

/-- The calls of the backend for one envelope id. -/
def invokedWith (id : String) (w : ProtectedWorker κ) : ℤ := (w.invocations.map fun i => ofEnvelope id i.envelope).sum

/-- **One-shot, and bounded**: what the sessions of a state satisfy. -/
structure OneShot (config : ProtectedWorkerConfig) (w : ProtectedWorker κ) : Prop where
  perSession : ∀ n, w.invokedFor n ≤ 1
  perEnvelope : ∀ id, w.invokedWith id ≤ 1
  beforeExpiry : ∀ i ∈ w.invocations, i.instant < i.session.expiresAt
  exactBinding : ∀ i ∈ w.invocations, i.envelope.binding = i.session.binding
  bounded : w.inUse ≤ config.maxActiveSessions
  released : ∀ n ∈ w.ended, ¬w.Holds n

/-- No session that is executing has expired at the instant. -/
def NoneOverdue (w : ProtectedWorker κ) (now : ℤ) : Prop :=
  ∀ jobId s, w.manager.sessions.get? jobId = some s → s.claimedEnvelopeId ≠ none → now < s.expiresAt

variable [DecidableEq κ]

/-- **No execution outlasts its session**: a section that drops expired sessions drops none that is executing, and the
backend is reached before the session expires. -/
def Timely (lib : ReplayLibrary) (w : ProtectedWorker κ) : WorkerMove κ → Prop
  | .provision c request now => w.calls.get? c = none → request.check.isOk = true → w.NoneOverdue now
  | .purgeExpired now | .activeSessionCount now => w.NoneOverdue now
  | .claim c envelope now => w.calls.get? c = none → (envelope.validate lib.urlsafeB64decode).isOk = true →
    ∀ s, w.manager.sessions.get? envelope.binding.jobId = some s → s.claimedEnvelopeId ≠ none → now < s.expiresAt
  | .invoke c now => ∀ session envelope, w.calls.get? c = some (.admitted session envelope) → now < session.expiresAt
  | _ => True

/-! ### What a move can do -/

/-- The sessions that `keep` keeps. -/
def sweep (w : ProtectedWorker κ) (keep : String → ProtectedSession → Bool) : ProtectedWorker κ :=
  { w with manager := { w.manager with sessions := w.manager.sessions.filter keep } }

/-- A sweep keeps the sessions that execute. -/
def Spares (w : ProtectedWorker κ) (keep : String → ProtectedSession → Bool) : Prop :=
  ∀ jobId s, w.manager.sessions.get? jobId = some s → s.claimedEnvelopeId ≠ none → keep jobId s = true

/-- What a move leaves. -/
inductive Effect (lib : ReplayLibrary) (config : ProtectedWorkerConfig) (w : ProtectedWorker κ) (move : WorkerMove κ) :
    ProtectedWorker κ → Prop
  | stays : Effect lib config w move w
  | swept (keep : String → ProtectedSession → Bool) (hspares : w.Timely lib move → w.Spares keep) :
    Effect lib config w move (w.sweep keep)
  | reserved (keep : String → ProtectedSession → Bool) (hspares : w.Timely lib move → w.Spares keep) (c : κ)
    (request : ProvisionRequest) (now : ℤ) (hcall : w.calls.get? c = none) (hopen : w.manager.closed = false)
    (hslot : request.jobId ∉ w.manager.provisioning)
    (hsession : (w.manager.sessions.filter keep).get? request.jobId = none)
    (hroom : (w.manager.sessions.filter keep).entries.length + w.manager.provisioning.length
      < config.maxActiveSessions) :
    Effect lib config w move { w.sweep keep with
        manager :=
          { (w.sweep keep).manager with provisioning := w.manager.provisioning ++ [request.jobId] }
        calls := w.calls.set c (.provisioning request now) }
  | failed (c : κ) (request : ProvisionRequest) (instant : ℤ)
    (hcall : w.calls.get? c = some (.provisioning request instant)) :
    Effect lib config w move { w with calls := w.calls.set c (.releasing request.jobId) }
  | installed (c : κ) (request : ProvisionRequest) (instant : ℤ) (nonce : String)
    (hcall : w.calls.get? c = some (.provisioning request instant)) (hopen : w.manager.closed = false)
    (hslot : request.jobId ∈ w.manager.provisioning) :
    Effect lib config w move { w with
        manager :=
          { w.manager with
            provisioning := w.manager.provisioning.erase request.jobId
            sessions := w.manager.sessions.set request.jobId
              (newProtectedSession config w.nextSerial request instant nonce) }
        calls := w.calls.erase c
        nextSerial := w.nextSerial + 1 }
  | released (c : κ) (jobId : String) (hcall : w.calls.get? c = some (.releasing jobId)) :
    Effect lib config w move { w with manager := w.manager.releaseProvisionSlot jobId, calls := w.calls.erase c }
  | closed : Effect lib config w move { w with manager := w.manager.close }
  | claimed (c : κ) (envelope : ConfidentialEnvelope) (s : ProtectedSession) (hcall : w.calls.get? c = none)
    (hopen : w.manager.closed = false) (hsession : w.manager.sessions.get? envelope.binding.jobId = some s)
    (hbinding : envelope.binding = s.binding) (hunclaimed : s.claimedEnvelopeId = none) :
    Effect lib config w move { w with
        manager :=
          { w.manager with
            sessions := w.manager.sessions.set envelope.binding.jobId
              { s with claimedEnvelopeId := some envelope.envelopeId } }
        calls := w.calls.set c (.claimed { s with claimedEnvelopeId := some envelope.envelopeId } envelope) }
  | admitted (c : κ) (session : ProtectedSession) (envelope : ConfidentialEnvelope) (row : ReplayClaim)
    (hcall : w.calls.get? c = some (.claimed session envelope)) (hfresh : w.replay.get? envelope.envelopeId = none) :
    Effect lib config w move { w with
        replay := w.replay.set envelope.envelopeId row
        calls := w.calls.set c (.admitted session envelope) }
  | left (c : κ) (call : WorkerCall) (session : ProtectedSession) (hcall : w.calls.get? c = some call)
    (hholds : ∀ f, call.holds f = f session) (hreserves : call.reserves = 0) :
    Effect lib config w move { w with calls := w.calls.set c (.retiring session) }
  | invoked (c : κ) (session : ProtectedSession) (envelope : ConfidentialEnvelope) (now : ℤ)
    (hcall : w.calls.get? c = some (.admitted session envelope))
    (htimely : w.Timely lib move → now < session.expiresAt) :
    Effect lib config w move { w with
        calls := w.calls.set c (.executing session)
        invocations := w.invocations ++ [⟨session, envelope, now⟩] }
  | retired (c : κ) (session : ProtectedSession) (hcall : w.calls.get? c = some (.retiring session)) :
    Effect lib config w move { w with
        manager := w.manager.retire session
        calls := w.calls.erase c
        ended := session.serial :: w.ended }

variable {lib : ReplayLibrary} {config : ProtectedWorkerConfig} {w : ProtectedWorker κ}

omit [DecidableEq κ] in
theorem spares_of_noneOverdue {now : ℤ} (h : w.NoneOverdue now) : w.Spares fun _ s => decide ¬s.expiresAt ≤ now := by
  intro jobId s hs hclaimed
  have hlt := h jobId s hs hclaimed
  exact decide_eq_true (by omega)

theorem provision_effect (c : κ) (request : ProvisionRequest) (now : ℤ) :
    Effect lib config w (.provision c request now) (w.next lib config (.provision c request now)) := by
  unfold next
  dsimp only
  split
  · rename_i checked hcall hcheck
    have hspares : w.Timely lib (.provision c request now) → w.Spares fun _ s => decide ¬s.expiresAt ≤ now :=
      fun h => spares_of_noneOverdue (h hcall (by rw [hcheck]; rfl))
    unfold reserveProvisionSlot purgeExpiredLocked
    dsimp only
    by_cases hclosed : w.manager.closed = true
    · rw [if_pos hclosed]
      exact .stays
    rw [if_neg hclosed]
    by_cases htaken : (w.manager.sessions.filter fun _ s => decide ¬s.expiresAt ≤ now).contains checked.jobId = true ∨
        checked.jobId ∈ w.manager.provisioning
    · rw [if_pos htaken]
      exact .swept _ hspares
    rw [if_neg htaken]
    by_cases hfull : config.maxActiveSessions ≤
        (w.manager.sessions.filter fun _ s => decide ¬s.expiresAt ≤ now).entries.length + w.manager.provisioning.length
    · rw [if_pos hfull]
      exact .swept _ hspares
    rw [if_neg hfull]
    rw [not_or] at htaken
    exact .reserved _ hspares c checked now hcall (Bool.not_eq_true _ ▸ hclosed) htaken.2
      (Option.not_isSome_iff_eq_none.mp htaken.1) (Nat.lt_of_not_le hfull)
  · exact .stays

theorem install_effect (move : WorkerMove κ) (c : κ) (nonce : String) :
    Effect lib config w move (w.next lib config (.install c nonce)) := by
  unfold next
  dsimp only
  split
  · rename_i request instant hcall
    unfold installSession
    by_cases hclosed : w.manager.closed = true
    · rw [if_pos hclosed]
      exact .failed c request instant hcall
    rw [if_neg hclosed]
    by_cases hlost : (newProtectedSession config w.nextSerial request instant nonce).jobId ∉ w.manager.provisioning
    · rw [if_pos hlost]
      exact .failed c request instant hcall
    rw [if_neg hlost]
    exact .installed c request instant nonce hcall (Bool.not_eq_true _ ▸ hclosed) (not_not.mp hlost)
  · exact .stays

theorem claim_effect (c : κ) (envelope : ConfidentialEnvelope) (now : ℤ) :
    Effect lib config w (.claim c envelope now) (w.next lib config (.claim c envelope now)) := by
  unfold next
  dsimp only
  cases hcall : w.calls.get? c with
  | some call => exact .stays
  | none =>
    unfold claimSession
    dsimp only
    cases hvalid : envelope.validate lib.urlsafeB64decode with
    | error message => exact .stays
    | ok checked =>
      dsimp only
      by_cases hclosed : w.manager.closed = true
      · rw [if_pos hclosed]
        exact .stays
      rw [if_neg hclosed]
      cases hsession : w.manager.sessions.get? envelope.binding.jobId with
      | none => exact .stays
      | some s =>
        dsimp only
        by_cases hexpired : s.expiresAt ≤ now
        · rw [if_pos hexpired]
          -- the session under the envelope's job is dropped, which is executing if it is claimed
          refine .swept (fun k _ => decide (k ≠ envelope.binding.jobId)) fun htimely jobId s' hs' hclaimed => ?_
          refine decide_eq_true ?_
          rintro rfl
          rw [hsession] at hs'
          cases hs'
          have hlt := htimely hcall (by rw [hvalid]; rfl) s hsession hclaimed
          omega
        rw [if_neg hexpired]
        by_cases hbinding : envelope.binding ≠ s.binding
        · rw [if_pos hbinding]
          exact .stays
        rw [if_neg hbinding]
        by_cases hconsumed : s.claimedEnvelopeId ≠ none
        · rw [if_pos hconsumed]
          exact .stays
        rw [if_neg hconsumed]
        exact .claimed c envelope s hcall (Bool.not_eq_true _ ▸ hclosed) hsession (not_not.mp hbinding)
          (not_not.mp hconsumed)

theorem consume_effect (move : WorkerMove κ) (c : κ) (instant : AwareDatetime) (storeFails : Bool) :
    Effect lib config w move (w.next lib config (.consume c instant storeFails)) := by
  unfold next
  dsimp only
  split
  · rename_i session envelope hcall
    have hleft : Effect lib config w move { w with calls := w.calls.set c (.retiring session) } :=
      .left c _ session hcall (fun _ => rfl) rfl
    split
    · exact hleft
    · unfold consume
      rcases @claim_cases lib envelope session.accountId session.privacyClass session.operation instant w.replay with
        ⟨exn, hclaim⟩ | ⟨row, -, -, -, -, hfresh, hclaim⟩
      · rw [hclaim]
        exact hleft
      · rw [hclaim]
        exact .admitted c session envelope row hcall hfresh
  · exact .stays

/-- **What one move can do.** -/
theorem next_effect (move : WorkerMove κ) : Effect lib config w move (w.next lib config move) := by
  cases move with
  | provision c request now => exact provision_effect c request now
  | install c nonce => exact install_effect _ c nonce
  | claim c envelope now => exact claim_effect c envelope now
  | consume c instant storeFails => exact consume_effect _ c instant storeFails
  | purgeExpired now | activeSessionCount now => exact .swept _ fun h => spares_of_noneOverdue h
  | close => exact .closed
  | issuerFails c =>
    unfold next
    dsimp only
    split
    · rename_i request instant hcall
      exact .failed c request instant hcall
    · exact .stays
  | release c =>
    unfold next
    dsimp only
    split
    · rename_i jobId hcall
      exact .released c jobId hcall
    · exact .stays
  | invoke c now =>
    unfold next
    dsimp only
    split
    · rename_i session envelope hcall
      exact .invoked c session envelope now hcall fun h => h session envelope hcall
    · exact .stays
  | leave c =>
    unfold next
    dsimp only
    split
    · rename_i session envelope hcall
      exact .left c _ session hcall (fun _ => rfl) rfl
    · rename_i session hcall
      exact .left c _ session hcall (fun _ => rfl) rfl
    · exact .stays
  | retire c =>
    unfold next
    dsimp only
    split
    · rename_i session hcall
      exact .retired c session hcall
    · exact .stays

/-! ### Where the parts of a state stand -/

/-- A session is under its job, a place is taken once and by no session, and an envelope has its session's binding. -/
structure Placed (w : ProtectedWorker κ) : Prop where
  keyed : ∀ jobId s, w.manager.sessions.get? jobId = some s → s.jobId = jobId
  distinct : w.manager.provisioning.Nodup
  apart : ∀ jobId ∈ w.manager.provisioning, w.manager.sessions.get? jobId = none
  bound : ∀ c call, w.calls.get? c = some call → call.Bound
  invokedBound : ∀ i ∈ w.invocations, i.envelope.binding = i.session.binding

variable {keep : String → ProtectedSession → Bool} {jobId : String}

omit [DecidableEq κ] in
theorem get?_sweep {s : ProtectedSession}
    (h : (w.sweep keep).manager.sessions.get? jobId = some s) : w.manager.sessions.get? jobId = some s :=
  (Option.filter_eq_some_iff.mp ((get?_filter keep _ jobId).symm.trans h)).1

omit [DecidableEq κ] in
theorem get?_sweep_none
    (h : w.manager.sessions.get? jobId = none) : (w.sweep keep).manager.sessions.get? jobId = none := by
  show (w.manager.sessions.filter keep).get? jobId = none
  rw [get?_filter, h]
  rfl

/-- What a retired session leaves is what there was, or all but what was under its job. -/
theorem retire_cases (m : SessionManager) (session : ProtectedSession) :
    (m.retire session = m ∧ (m.sessions.get? session.jobId).map ProtectedSession.serial ≠ some session.serial) ∨
      m.retire session = { m with sessions := m.sessions.erase session.jobId } ∧
        (m.sessions.get? session.jobId).map ProtectedSession.serial = some session.serial := by
  unfold retire
  split
  · rename_i h
    exact .inr ⟨rfl, h⟩
  · rename_i h
    exact .inl ⟨rfl, h⟩

variable {session : ProtectedSession}

theorem get?_retire {m : SessionManager} {s : ProtectedSession}
    (h : (m.retire session).sessions.get? jobId = some s) : m.sessions.get? jobId = some s := by
  rcases retire_cases m session with ⟨hm, -⟩ | ⟨hm, -⟩
  · rwa [hm] at h
  · rw [hm] at h
    dsimp only at h
    obtain ⟨-, h⟩ := get?_erase_eq_some.mp h
    exact h

theorem provisioning_retire (m : SessionManager) (session : ProtectedSession) :
    (m.retire session).provisioning = m.provisioning ∧ (m.retire session).closed = m.closed := by
  rcases retire_cases m session with ⟨hm, -⟩ | ⟨hm, -⟩ <;> rw [hm] <;> exact ⟨rfl, rfl⟩

variable {c : κ}

/-- A call that takes another place in its run is bound if it was. -/
theorem bound_set {calls : Dict κ WorkerCall} (h : ∀ c call, calls.get? c = some call → call.Bound)
    {call : WorkerCall} (hcall : call.Bound) : ∀ c' call', (calls.set c call).get? c' = some call' → call'.Bound := by
  intro c' call' h'
  rcases get?_set_eq_some.mp h' with ⟨-, rfl⟩ | ⟨-, h'⟩
  · exact hcall
  · exact h c' call' h'

theorem bound_erase {calls : Dict κ WorkerCall} (h : ∀ c call, calls.get? c = some call → call.Bound) :
    ∀ c' call', (calls.erase c).get? c' = some call' → call'.Bound := by
  intro c' call' h'
  obtain ⟨-, h'⟩ := get?_erase_eq_some.mp h'
  exact h c' call' h'

variable {move : WorkerMove κ} {w' : ProtectedWorker κ}

theorem Placed.after (h : w.Placed) (heffect : Effect lib config w move w') : w'.Placed := by
  cases heffect with
  | stays => exact h
  | swept keep hspares =>
    exact ⟨fun jobId s hs => h.keyed jobId s (get?_sweep hs), h.distinct,
      fun jobId hjob => get?_sweep_none (h.apart jobId hjob), h.bound, h.invokedBound⟩
  | reserved keep hspares c request now hcall hopen hslot hsession hroom =>
    refine ⟨fun jobId s hs => h.keyed jobId s (get?_sweep hs), ?_, ?_, bound_set h.bound trivial, h.invokedBound⟩
    · refine nodup_append.mpr ⟨h.distinct, nodup_singleton _, ?_⟩
      intro a ha b hb hab
      rw [mem_singleton] at hb
      exact hslot (hb ▸ hab ▸ ha)
    · intro jobId hjob
      rcases mem_append.mp hjob with hold | hnew
      · exact get?_sweep_none (h.apart jobId hold)
      · rw [mem_singleton] at hnew
        rw [hnew]
        exact hsession
  | failed c request instant hcall =>
    exact ⟨h.keyed, h.distinct, h.apart, bound_set h.bound trivial, h.invokedBound⟩
  | installed c request instant nonce hcall hopen hslot =>
    refine ⟨?_, h.distinct.erase _, ?_, bound_erase h.bound, h.invokedBound⟩
    · intro jobId s hs
      rcases get?_set_eq_some.mp hs with ⟨hjob, rfl⟩ | ⟨-, hs⟩
      · exact hjob.symm
      · exact h.keyed jobId s hs
    · intro jobId hjob
      obtain ⟨hne, hmem⟩ := h.distinct.mem_erase_iff.mp hjob
      rw [get?_set, if_neg hne]
      exact h.apart jobId hmem
  | released c jobId hcall =>
    exact ⟨h.keyed, h.distinct.erase _, fun job hjob => h.apart job (mem_of_mem_erase hjob), bound_erase h.bound,
      h.invokedBound⟩
  | closed =>
    exact ⟨nofun, nodup_nil, nofun, h.bound, h.invokedBound⟩
  | claimed c envelope s hcall hopen hsession hbinding hunclaimed =>
    refine ⟨?_, h.distinct, ?_, bound_set h.bound hbinding, h.invokedBound⟩
    · intro jobId s' hs'
      rcases get?_set_eq_some.mp hs' with ⟨hjob, rfl⟩ | ⟨-, hs'⟩
      · exact (h.keyed _ s hsession).trans hjob.symm
      · exact h.keyed jobId s' hs'
    · intro jobId hjob
      have hnone := h.apart jobId hjob
      rw [get?_set, if_neg]
      · exact hnone
      · rintro rfl
        rw [hsession] at hnone
        cases hnone
  | admitted c session envelope row hcall hfresh =>
    have hbound : envelope.binding = session.binding := h.bound c _ hcall
    exact ⟨h.keyed, h.distinct, h.apart, bound_set h.bound hbound, h.invokedBound⟩
  | left c call session hcall hholds hreserves =>
    exact ⟨h.keyed, h.distinct, h.apart, bound_set h.bound trivial, h.invokedBound⟩
  | invoked c session envelope now hcall htimely =>
    refine ⟨h.keyed, h.distinct, h.apart, bound_set h.bound trivial, ?_⟩
    intro i hi
    rcases mem_append.mp hi with hold | hnew
    · exact h.invokedBound i hold
    · rw [mem_singleton] at hnew
      rw [hnew]
      exact h.bound c _ hcall
  | retired c session hcall =>
    refine ⟨fun jobId s hs => h.keyed jobId s (get?_retire hs), ?_, ?_, bound_erase h.bound, h.invokedBound⟩
    · exact (provisioning_retire w.manager session).1 ▸ h.distinct
    · intro jobId hjob
      have hnone := h.apart jobId ((provisioning_retire w.manager session).1 ▸ hjob)
      by_contra hne
      obtain ⟨s, hs⟩ := Option.ne_none_iff_exists'.mp hne
      rw [get?_retire hs] at hnone
      cases hnone

/-! ### One execution for a session -/

theorem waiting_nonneg (hf : ∀ s, 0 ≤ f s) (m : SessionManager) : 0 ≤ m.waiting f := by
  refine sumBy_nonneg fun s _ => ?_
  split
  · exact hf s
  · exact le_rfl

omit [DecidableEq κ] in
theorem held_nonneg (hf : ∀ s, 0 ≤ f s) (w : ProtectedWorker κ) : 0 ≤ w.held f :=
  sumBy_nonneg fun call _ => call.holds_nonneg hf

omit [DecidableEq κ] in
theorem pending_nonneg (hf : ∀ s, 0 ≤ f s) (w : ProtectedWorker κ) : 0 ≤ w.pending f :=
  sumBy_nonneg fun call _ => call.pending_nonneg hf

omit [DecidableEq κ] in
theorem carried_nonneg (id : String) (w : ProtectedWorker κ) : 0 ≤ w.carried (ofEnvelope id) :=
  sumBy_nonneg fun call _ => call.carries_nonneg id

omit [DecidableEq κ] in
theorem waiting_sweep_le (hf : ∀ s, 0 ≤ f s) (w : ProtectedWorker κ)
    (keep : String → ProtectedSession → Bool) : (w.sweep keep).manager.waiting f ≤ w.manager.waiting f := by
  refine sumBy_filter_le keep fun s _ => ?_
  split
  · exact hf s
  · exact le_rfl

omit [DecidableEq κ] in
theorem mapped_sweep_le (hf : ∀ s, 0 ≤ f s) (w : ProtectedWorker κ)
    (keep : String → ProtectedSession → Bool) : (w.sweep keep).manager.mapped f ≤ w.manager.mapped f := by
  refine sumBy_filter_le keep fun s _ => ?_
  split
  · exact le_rfl
  · exact hf s

omit [DecidableEq κ] in
theorem mapped_sweep (f : ProtectedSession → ℤ) (h : w.Spares keep) :
    (w.sweep keep).manager.mapped f = w.manager.mapped f := by
  refine sumBy_filter_eq fun jobId s hs hgone => ?_
  by_cases hclaimed : s.claimedEnvelopeId = none
  · exact if_pos hclaimed
  · rw [h jobId s hs hclaimed] at hgone
    cases hgone

theorem waiting_close (m : SessionManager) (f : ProtectedSession → ℤ) : m.close.waiting f = 0 := rfl

theorem waiting_retire_le (hf : ∀ s, 0 ≤ f s) (m : SessionManager)
    (session : ProtectedSession) : (m.retire session).waiting f ≤ m.waiting f := by
  rcases retire_cases m session with ⟨hm, -⟩ | ⟨hm, -⟩
  · rw [hm]
  · rw [hm]
    refine sumBy_filter_le _ fun s _ => ?_
    split
    · exact hf s
    · exact le_rfl

/-- **A session is at one place, and it reaches the backend from one**: what is counted of a session that was not made
yet is nothing. -/
structure Counted (w : ProtectedWorker κ) : Prop where
  once : ∀ n, w.manager.waiting (ofSerial n) + w.pending (ofSerial n) + w.invokedFor n ≤ if n < w.nextSerial then 1 else 0
  single : ∀ n, w.manager.waiting (ofSerial n) + w.held (ofSerial n) + w.ended.count n ≤ if n < w.nextSerial then 1 else 0
  mappedHeld : ∀ n jobId, w.manager.mapped (ofSerialAndJob n jobId) ≤ w.held (ofSerialAndJob n jobId)

/-- **A move takes a session from one place to the next**, so what is counted of it before the backend, and what is counted
until it has ended, stay within one. -/
theorem counts_after (hplaced : w.Placed) (n : ℕ)
    (h : w.manager.waiting (ofSerial n) + w.pending (ofSerial n) + w.invokedFor n ≤ (if n < w.nextSerial then 1 else 0) ∧
      w.manager.waiting (ofSerial n) + w.held (ofSerial n) + w.ended.count n ≤ if n < w.nextSerial then 1 else 0)
    (heffect : Effect lib config w move w') :
    w'.manager.waiting (ofSerial n) + w'.pending (ofSerial n) + w'.invokedFor n ≤ (if n < w'.nextSerial then 1 else 0) ∧
      w'.manager.waiting (ofSerial n) + w'.held (ofSerial n) + w'.ended.count n ≤ if n < w'.nextSerial then 1 else 0 := by
  have hsweep := waiting_sweep_le (ofSerial_nonneg n) w
  simp only [waiting, pending, held, invokedFor] at h hsweep ⊢
  cases heffect with
  | stays => exact h
  | swept keep hspares =>
    have hle := hsweep keep
    dsimp only [sweep] at hle ⊢
    omega
  | reserved keep hspares c request now hcall hopen hslot hsession hroom =>
    have hle := hsweep keep
    simp only [sweep, sumBy_insert hcall, WorkerCall.pending, WorkerCall.holds] at hle ⊢
    omega
  | failed c request instant hcall =>
    simp only [sumBy_replace hcall, WorkerCall.pending, WorkerCall.holds]
    omega
  | installed c request instant nonce hcall hopen hslot =>
    simp only [sumBy_insert (hplaced.apart _ hslot), sumBy_remove hcall, WorkerCall.pending, WorkerCall.holds,
      newProtectedSession, ofSerial, if_true] at h ⊢
    split_ifs at h ⊢ <;> omega
  | released c jobId hcall =>
    simp only [releaseProvisionSlot, sumBy_remove hcall, WorkerCall.pending, WorkerCall.holds]
    omega
  | closed =>
    have hnonneg := waiting_nonneg (ofSerial_nonneg n) w.manager
    have hnone := waiting_close w.manager (ofSerial n)
    unfold waiting at hnonneg hnone
    rw [hnone]
    dsimp only
    omega
  | claimed c envelope s hcall hopen hsession hbinding hunclaimed =>
    simp only [sumBy_insert hcall, sumBy_replace hsession, holds, hunclaimed, reduceCtorEq, if_true, if_false]
    show _ + (_ + ofSerial n s) + _ ≤ _ ∧ _ + (_ + ofSerial n s) + _ ≤ _
    omega
  | admitted c session envelope row hcall hfresh =>
    simp only [sumBy_replace hcall, WorkerCall.pending, WorkerCall.holds]
    omega
  | left c call session hcall hholds hreserves =>
    have hnonneg := call.pending_nonneg (ofSerial_nonneg n)
    simp only [sumBy_replace hcall, hholds]
    show _ + (_ + 0 - _) + _ ≤ _ ∧ _ + (_ + ofSerial n session - _) + _ ≤ _
    omega
  | invoked c session envelope now hcall htimely =>
    simp only [sumBy_replace hcall, WorkerCall.pending, WorkerCall.holds, map_append, map_cons,
      map_nil, sum_append, sum_singleton]
    omega
  | retired c session hcall =>
    -- the session goes from the calls to what has ended
    have hle := waiting_retire_le (ofSerial_nonneg n) w.manager session
    have hcount : ((session.serial :: w.ended).count n : ℤ) = w.ended.count n + ofSerial n session := by
      unfold ofSerial
      rw [count_cons]
      split_ifs <;> simp_all
    unfold waiting at hle
    simp only [sumBy_remove hcall, WorkerCall.pending, WorkerCall.holds]
    omega

theorem not_waiting_of_held
    (hsingle : ∀ n, w.manager.waiting (ofSerial n) + w.held (ofSerial n) + w.ended.count n ≤ if n < w.nextSerial then 1 else 0)
    {s : ProtectedSession} (hcall : w.calls.get? c = some (.retiring session))
    (hs : w.manager.sessions.get? jobId = some s) (hserial : s.serial = session.serial) :
    s.claimedEnvelopeId ≠ none := by
  intro hunclaimed
  have hheld : 1 ≤ w.held (ofSerial session.serial) := by
    have hle := le_sumBy (f := holds (ofSerial session.serial))
      (fun call _ => call.holds_nonneg (ofSerial_nonneg _)) (mem_values_of_get? hcall)
    have hone : (retiring session).holds (ofSerial session.serial) = 1 := if_pos rfl
    rw [hone] at hle
    exact hle
  have hwaiting : 1 ≤ w.manager.waiting (ofSerial session.serial) := by
    have hle := le_sumBy (f := fun s => if s.claimedEnvelopeId = none then ofSerial session.serial s else 0)
      (fun s _ => by split; exacts [ofSerial_nonneg _ s, le_rfl]) (mem_values_of_get? hs)
    have hone : ofSerial session.serial s = 1 := if_pos hserial
    rw [if_pos hunclaimed, hone] at hle
    exact hle
  have hcount := hsingle session.serial
  split_ifs at hcount <;> omega

/-- **A claimed session that is in the map is held by a call.** -/
theorem mappedHeld_after (hplaced : w.Placed)
    (hsingle : ∀ n, w.manager.waiting (ofSerial n) + w.held (ofSerial n) + w.ended.count n ≤ if n < w.nextSerial then 1 else 0)
    (n : ℕ) (jobId : String) (h : w.manager.mapped (ofSerialAndJob n jobId) ≤ w.held (ofSerialAndJob n jobId)) (heffect : Effect lib config w move w') :
    w'.manager.mapped (ofSerialAndJob n jobId) ≤ w'.held (ofSerialAndJob n jobId) := by
  have hsweep := mapped_sweep_le (ofSerialAndJob_nonneg n jobId) w
  cases heffect with
  | stays => exact h
  | swept keep hspares => exact (hsweep keep).trans h
  | reserved keep hspares c request now hcall hopen hslot hsession hroom =>
    have hle := hsweep keep
    simp only [mapped, held, sweep, sumBy_insert hcall,
      holds] at hle h ⊢
    omega
  | failed c request instant hcall =>
    simp only [mapped, held, sumBy_replace hcall, holds] at h ⊢
    omega
  | installed c request instant nonce hcall hopen hslot =>
    simp only [mapped, held, sumBy_insert (hplaced.apart _ hslot), sumBy_remove hcall,
      holds,
      newProtectedSession, if_true] at h ⊢
    omega
  | released c job hcall =>
    simp only [mapped, held, releaseProvisionSlot, sumBy_remove hcall, holds] at h ⊢
    omega
  | closed => exact held_nonneg (ofSerialAndJob_nonneg n jobId) w
  | claimed c envelope s hcall hopen hsession hbinding hunclaimed =>
    simp only [mapped, held, sumBy_insert hcall, sumBy_replace hsession, holds, hunclaimed, reduceCtorEq, if_true, if_false] at h ⊢
    omega
  | admitted c session envelope row hcall hfresh =>
    simp only [mapped, held, sumBy_replace hcall, holds] at h ⊢
    omega
  | left c call session hcall hholds hreserves =>
    simp only [mapped, held, sumBy_replace hcall, hholds] at h ⊢
    show _ ≤ _ + ofSerialAndJob n jobId session - _
    omega
  | invoked c session envelope now hcall htimely =>
    simp only [mapped, held, sumBy_replace hcall, holds] at h ⊢
    omega
  | retired c session hcall =>
    have hheld : (w.calls.erase c).sumBy (holds (ofSerialAndJob n jobId)) =
        w.held (ofSerialAndJob n jobId) - ofSerialAndJob n jobId session := sumBy_remove hcall _
    have hnonneg : 0 ≤ (w.calls.erase c).sumBy (holds (ofSerialAndJob n jobId)) :=
      sumBy_nonneg fun call _ => call.holds_nonneg (ofSerialAndJob_nonneg n jobId)
    show (w.manager.retire session).sessions.sumBy _ ≤ (w.calls.erase c).sumBy _
    rcases retire_cases w.manager session with ⟨hm, hother⟩ | ⟨hm, hthis⟩
    · by_cases hsame : session.serial = n ∧ session.jobId = jobId
      · -- what is in the map under this serial and job would be under the job, where another session is
        obtain ⟨rfl, rfl⟩ := hsame
        refine le_trans (le_of_eq ?_) hnonneg
        rw [hm]
        refine (sumBy_congr (g := fun _ => 0) fun s hs => ?_).trans ?_
        · obtain ⟨job, hjob⟩ := (mem_values_iff _ s).mp hs
          by_cases hclaimed : s.claimedEnvelopeId = none
          · exact if_pos hclaimed
          · rw [if_neg hclaimed]
            refine if_neg ?_
            rintro ⟨hserial, hjobId⟩
            rw [← hplaced.keyed job s hjob, hjobId] at hjob
            rw [hjob] at hother
            exact hother (congrArg some hserial)
        · unfold sumBy
          rw [map_const', sum_replicate, nsmul_zero]
      · have hzero : ofSerialAndJob n jobId session = 0 := if_neg hsame
        rw [hheld, hzero, hm]
        unfold mapped at h
        omega
    · obtain ⟨s, hs, hserial⟩ := Option.map_eq_some_iff.mp hthis
      have hjob := hplaced.keyed _ s hs
      rw [hm, hheld]
      show (w.manager.sessions.erase session.jobId).sumBy _ ≤ _
      rw [sumBy_remove hs]
      have hsession : ofSerialAndJob n jobId session = ofSerialAndJob n jobId s := by
        unfold ofSerialAndJob
        rw [hserial, hjob]
      unfold mapped at h
      split
      · rename_i hunclaimed
        have hnot := not_waiting_of_held hsingle hcall hs hserial
        exact absurd hunclaimed hnot
      · omega

theorem Counted.after (hplaced : w.Placed) (h : w.Counted) (heffect : Effect lib config w move w') : w'.Counted where
  once n := (counts_after hplaced n ⟨h.once n, h.single n⟩ heffect).1
  single n := (counts_after hplaced n ⟨h.once n, h.single n⟩ heffect).2
  mappedHeld n jobId := mappedHeld_after hplaced h.single n jobId (h.mappedHeld n jobId) heffect

/-! ### One execution for an envelope -/

/-- **An envelope on its way to the backend, or that has been there, is consumed**: it is counted once. -/
def Consumed (w : ProtectedWorker κ) : Prop :=
  ∀ id, w.carried (ofEnvelope id) + w.invokedWith id ≤ if (w.replay.get? id).isSome then 1 else 0

theorem Consumed.after (h : w.Consumed) (heffect : Effect lib config w move w') : w'.Consumed := by
  intro id
  have hid := h id
  cases heffect with
  | stays => exact hid
  | swept keep hspares => exact hid
  | reserved keep hspares c request now hcall hopen hslot hsession hroom =>
    show (w.calls.set c (.provisioning request now)).sumBy _ + w.invokedWith id ≤
      if (w.replay.get? id).isSome then 1 else 0
    simp only [carried, sumBy_insert hcall, carries] at hid ⊢
    omega
  | failed c request instant hcall =>
    simp only [carried, invokedWith, sumBy_replace hcall,
      carries] at hid ⊢
    omega
  | installed c request instant nonce hcall hopen hslot | released c jobId hcall =>
    simp only [carried, invokedWith, sumBy_remove hcall,
      carries] at hid ⊢
    omega
  | closed => exact hid
  | claimed c envelope s hcall hopen hsession hbinding hunclaimed =>
    simp only [carried, invokedWith, sumBy_insert hcall,
      carries] at hid ⊢
    omega
  | admitted c session envelope row hcall hfresh =>
    simp only [carried, invokedWith, sumBy_replace hcall, carries,
      get?_set] at hid ⊢
    by_cases hthis : id = envelope.envelopeId
    · -- it was not consumed, and so it was not counted before
      subst hthis
      rw [hfresh] at hid
      simp only [ofEnvelope, if_true, Option.isSome_some, Option.isSome_none, Bool.false_eq_true, if_false] at hid ⊢
      omega
    · have hzero : ofEnvelope id envelope = 0 := if_neg fun h => hthis h.symm
      rw [if_neg hthis, hzero]
      omega
  | left c call session hcall hholds hreserves =>
    have hnonneg := call.carries_nonneg id
    simp only [carried, invokedWith, sumBy_replace hcall] at hid ⊢
    show _ + 0 - _ + _ ≤ _
    omega
  | invoked c session envelope now hcall htimely =>
    simp only [carried, invokedWith, sumBy_replace hcall, carries,
      map_append, map_cons, map_nil, sum_append, sum_singleton] at hid ⊢
    omega
  | retired c session hcall =>
    simp only [carried, invokedWith, sumBy_remove hcall,
      carries] at hid ⊢
    omega

/-! ### The sessions in use fit -/

omit [DecidableEq κ] in
theorem waiting_add_mapped (w : ProtectedWorker κ) :
    w.manager.waiting everySession + w.manager.mapped everySession = w.manager.sessions.entries.length := by
  rw [← sumBy_one, waiting, mapped, ← sumBy_add]
  refine sumBy_congr fun s _ => ?_
  split <;> rfl

/-- **What capacity is counted by covers what is in use**: while the manager is open every provision has its place and
every executing session is in the map; once it is closed nothing new comes. -/
structure Fits (config : ProtectedWorkerConfig) (w : ProtectedWorker κ) : Prop where
  placed : w.manager.closed = false → w.reserved ≤ w.manager.provisioning.length
  inMap : w.manager.closed = false → w.held everySession ≤ w.manager.mapped everySession
  room : w.manager.closed = false →
    w.manager.waiting everySession + w.manager.mapped everySession + w.manager.provisioning.length ≤ config.maxActiveSessions
  bounded : w.inUse ≤ config.maxActiveSessions

omit [DecidableEq κ] in
theorem bounded_of_open (hplaced : w.reserved ≤ w.manager.provisioning.length)
    (hinMap : w.held everySession ≤ w.manager.mapped everySession)
    (hroom : w.manager.waiting everySession + w.manager.mapped everySession + w.manager.provisioning.length ≤ config.maxActiveSessions) :
    w.inUse ≤ config.maxActiveSessions := by
  unfold inUse
  omega

omit [DecidableEq κ] in
/-- A move that opens nothing and leaves each count as well covered as it was. -/
theorem Fits.of_counts (h : w.Fits config) (hclosed : w'.manager.closed = w.manager.closed)
    (hplaced : w'.reserved + w.manager.provisioning.length ≤ w.reserved + w'.manager.provisioning.length)
    (hinMap : w'.held everySession + w.manager.mapped everySession ≤ w.held everySession + w'.manager.mapped everySession)
    (hroom : w'.manager.waiting everySession + w'.manager.mapped everySession + w'.manager.provisioning.length ≤
      w.manager.waiting everySession + w.manager.mapped everySession + w.manager.provisioning.length)
    (hused : w'.inUse ≤ w.inUse) : w'.Fits config := by
  refine ⟨fun hopen => ?_, fun hopen => ?_, fun hopen => hroom.trans (h.room (hclosed ▸ hopen)), hused.trans h.bounded⟩
  · have hp := h.placed (hclosed ▸ hopen)
    omega
  · have hin := h.inMap (hclosed ▸ hopen)
    omega

omit [DecidableEq κ] in
theorem Fits.sweep (h : w.Fits config) (hspares : w.Spares keep) : (w.sweep keep).Fits config := by
  have hwaiting := waiting_sweep_le everySession_nonneg w keep
  have hmapped := mapped_sweep everySession hspares
  refine h.of_counts rfl le_rfl ?_ ?_ ?_
  · rw [hmapped]
    exact le_rfl
  · rw [hmapped]
    exact Int.add_le_add_right (Int.add_le_add_right hwaiting _) _
  · exact Int.add_le_add_right (Int.add_le_add_left hwaiting _) _

theorem mapped_retire (m : SessionManager) (session : ProtectedSession) :
    m.mapped everySession - 1 ≤ (m.retire session).mapped everySession ∧
      (m.retire session).mapped everySession ≤ m.mapped everySession := by
  rcases retire_cases m session with ⟨hm, -⟩ | ⟨hm, hthis⟩
  · rw [hm]
    exact ⟨Int.sub_le_self _ Int.one_nonneg, le_rfl⟩
  · obtain ⟨s, hs, -⟩ := Option.map_eq_some_iff.mp hthis
    rw [hm]
    unfold mapped everySession
    dsimp only
    rw [sumBy_remove hs]
    split <;> omega

theorem Fits.of_call (h : w.Fits config) {call : WorkerCall} (hcall : w.calls.get? c = some call)
    (call' : WorkerCall) (hreserves : call'.reserves = call.reserves) (hholds : call'.holds everySession = call.holds everySession)
    {replay : ReplayRows} {invocations : List Invocation} :
    ({ w with replay := replay, calls := w.calls.set c call', invocations := invocations } :
      ProtectedWorker κ).Fits config := by
  refine h.of_counts rfl ?_ ?_ le_rfl ?_ <;>
    simp only [inUse, reserved, held, sumBy_replace hcall, hreserves, hholds] <;>
    omega

/-- **A move that no execution outlasts keeps what is in use within the limit.** -/
theorem Fits.after (hplaced : w.Placed) (h : w.Fits config)
    (htimely : w.Timely lib move) (heffect : Effect lib config w move w') : w'.Fits config := by
  cases heffect with
  | stays => exact h
  | swept keep hspares => exact h.sweep (hspares htimely)
  | reserved keep hspares c request now hcall hopen hslot hsession hroom =>
    have hswept := h.sweep (hspares htimely)
    have hcounts := waiting_add_mapped (w.sweep keep)
    have hreserved : (w.calls.set c (.provisioning request now)).sumBy reserves = w.reserved + 1 :=
      sumBy_insert hcall _ _
    have hheld : (w.calls.set c (.provisioning request now)).sumBy (holds everySession) = w.held everySession :=
      (sumBy_insert hcall _ _).trans (add_zero _)
    have hp : w.reserved + 1 ≤ ((w.manager.provisioning ++ [request.jobId]).length : ℤ) := by
      have := h.placed hopen
      rw [length_append, length_singleton]
      omega
    have hroom' : (w.sweep keep).manager.waiting everySession + (w.sweep keep).manager.mapped everySession +
        ((w.manager.provisioning ++ [request.jobId]).length : ℤ) ≤ config.maxActiveSessions := by
      rw [hcounts, length_append, length_singleton]
      show ((w.manager.sessions.filter keep).entries.length : ℤ) + _ ≤ _
      omega
    refine ⟨fun _ => hreserved.trans_le hp, fun _ => hheld.trans_le (hswept.inMap hopen), fun _ => hroom', ?_⟩
    exact bounded_of_open (hreserved.trans_le hp) (hheld.trans_le (hswept.inMap hopen)) hroom'
  | failed c request instant hcall => exact h.of_call hcall (.releasing request.jobId) rfl rfl
  | installed c request instant nonce hcall hopen hslot =>
    have hlength : ((w.manager.provisioning.erase request.jobId).length : ℤ) = w.manager.provisioning.length - 1 := by
      have hpos := length_pos_of_mem hslot
      rw [length_erase_of_mem hslot]
      omega
    refine h.of_counts rfl ?_ ?_ ?_ ?_ <;> simp only [inUse, reserved, held, waiting, mapped, sumBy_remove hcall,
        sumBy_insert (hplaced.apart _ hslot), hlength, reserves, holds, newProtectedSession,
        everySession, if_true] <;>
      omega
  | released c jobId hcall =>
    have hle := length_erase_le (a := jobId) (l := w.manager.provisioning)
    have hge := le_length_erase (a := jobId) (l := w.manager.provisioning)
    refine h.of_counts rfl ?_ ?_ ?_ ?_ <;> simp only [inUse, reserved, held, waiting, mapped,
        releaseProvisionSlot, sumBy_remove hcall, reserves, holds] <;>
      omega
  | closed =>
    have hnonneg := waiting_nonneg everySession_nonneg w.manager
    have hbounded := h.bounded
    refine ⟨nofun, nofun, nofun, ?_⟩
    show w.reserved + w.manager.close.waiting everySession + w.held everySession ≤ _
    rw [waiting_close]
    unfold inUse at hbounded
    omega
  | claimed c envelope s hcall hopen hsession hbinding hunclaimed =>
    -- the session goes from what waits to what executes, in the map and among the calls
    refine h.of_counts rfl ?_ ?_ ?_ ?_ <;> simp only [inUse, reserved, held, waiting, mapped, sumBy_insert hcall,
        sumBy_replace hsession, hunclaimed, reserves, holds, everySession, reduceCtorEq,
        if_true, if_false] <;>
      omega
  | admitted c session envelope row hcall hfresh => exact h.of_call hcall (.admitted session envelope) rfl rfl
  | left c call session hcall hholds hreserves =>
    exact h.of_call hcall (.retiring session) hreserves.symm (hholds everySession).symm
  | invoked c session envelope now hcall hbefore => exact h.of_call hcall (.executing session) rfl rfl
  | retired c session hcall =>
    have hplaces := (provisioning_retire w.manager session).1
    have hwaiting := waiting_retire_le everySession_nonneg w.manager session
    have hmapped := mapped_retire w.manager session
    refine h.of_counts (provisioning_retire w.manager session).2 ?_ ?_ ?_ ?_ <;>
      simp only [inUse, reserved, held, sumBy_remove hcall, hplaces, reserves, holds, everySession] at hmapped ⊢ <;>
      omega

/-! ### Whole runs -/

/-- What every run keeps. -/
structure Sound (w : ProtectedWorker κ) : Prop where
  placed : w.Placed
  counted : w.Counted
  consumed : w.Consumed

theorem sound_start (rows : ReplayRows) : (start rows : ProtectedWorker κ).Sound where
  placed := by
    refine ⟨fun jobId s h => ?_, nodup_nil, fun _ h => absurd h not_mem_nil, fun c call h => ?_, fun _ h => absurd h not_mem_nil⟩
    · exact nomatch (get?_empty jobId).symm.trans h
    · exact nomatch (get?_empty c).symm.trans h
  counted := ⟨fun _ => le_rfl, fun _ => le_rfl, fun _ _ => le_rfl⟩
  consumed id := by
    show (0 : ℤ) ≤ _
    split <;> decide

/-- What a timely run keeps besides. -/
structure InTime (config : ProtectedWorkerConfig) (w : ProtectedWorker κ) : Prop where
  sound : w.Sound
  fits : w.Fits config
  beforeExpiry : ∀ i ∈ w.invocations, i.instant < i.session.expiresAt

theorem inTime_start (config : ProtectedWorkerConfig) (rows : ReplayRows) :
    (start rows : ProtectedWorker κ).InTime config where
  sound := sound_start rows
  fits := ⟨fun _ => le_rfl, fun _ => le_rfl, fun _ => Int.natCast_nonneg _, Int.natCast_nonneg _⟩
  beforeExpiry _ h := nomatch h

theorem beforeExpiry_after (h : ∀ i ∈ w.invocations, i.instant < i.session.expiresAt) (htimely : w.Timely lib move)
    (heffect : Effect lib config w move w') : ∀ i ∈ w'.invocations, i.instant < i.session.expiresAt := by
  cases heffect with
  | invoked c session envelope now hcall hbefore =>
    intro i hi
    rcases mem_append.mp hi with hold | hnew
    · exact h i hold
    · rw [mem_singleton] at hnew
      rw [hnew]
      exact hbefore htimely
  | _ => exact h

/-- **The sessions in use fit the limit, and the backend is reached in time, in every timely run.** -/
theorem inTime_exec (lib : ReplayLibrary) (config : ProtectedWorkerConfig) (rows : ReplayRows)
    (moves : List (WorkerMove κ)) (htimely : Run.Along (next lib config) (fun w move => w.Timely lib move) (start rows) moves) :
    (Run.exec (next lib config) (start rows) moves).InTime config := by
  refine Run.exec_of_along (InTime config) (fun w move h hmove => ?_) (inTime_start config rows) htimely
  have heffect := @next_effect κ _ lib config w move
  have hsound := h.sound
  exact ⟨⟨hsound.placed.after heffect, hsound.counted.after hsound.placed heffect, hsound.consumed.after heffect⟩,
    h.fits.after hsound.placed hmove heffect, beforeExpiry_after h.beforeExpiry hmove heffect⟩

/-! ### What the counts say -/

theorem Sound.perSession (h : w.Sound) (n : ℕ) : w.invokedFor n ≤ 1 := by
  have hcount := h.counted.once n
  have hwaiting := waiting_nonneg (ofSerial_nonneg n) w.manager
  have hpending := pending_nonneg (ofSerial_nonneg n) w
  split_ifs at hcount <;> omega

theorem Sound.perEnvelope (h : w.Sound) (id : String) : w.invokedWith id ≤ 1 := by
  have hcount := h.consumed id
  have hcarried := carried_nonneg id w
  split_ifs at hcount <;> omega

/-- **A session that has ended is held by nothing.** -/
theorem Sound.released (h : w.Sound) {n : ℕ} (hn : n ∈ w.ended) : ¬w.Holds n := by
  have hended : 0 < w.ended.count n := count_pos_iff.mpr hn
  have hcount := h.counted.single n
  have hwaiting := waiting_nonneg (ofSerial_nonneg n) w.manager
  have hheld := held_nonneg (ofSerial_nonneg n) w
  have hnone : w.manager.waiting (ofSerial n) = 0 ∧ w.held (ofSerial n) = 0 := by
    split_ifs at hcount <;> omega
  rintro (⟨s, hs, hserial⟩ | hcall)
  · by_cases hclaimed : s.claimedEnvelopeId = none
    · have hle := le_sumBy (f := fun s => if s.claimedEnvelopeId = none then ofSerial n s else 0)
        (fun s _ => by split; exacts [ofSerial_nonneg n s, le_rfl]) hs
      have hone : ofSerial n s = 1 := if_pos hserial
      rw [if_pos hclaimed, hone] at hle
      have hzero : w.manager.sessions.sumBy (fun s => if s.claimedEnvelopeId = none then ofSerial n s else 0) = 0 := hnone.1
      omega
    · -- a call holds it
      have hle := le_sumBy (f := fun s' => if s'.claimedEnvelopeId = none then 0 else ofSerialAndJob n s.jobId s')
        (fun s' _ => by split; exacts [le_rfl, ofSerialAndJob_nonneg n s.jobId s']) hs
      have hone : ofSerialAndJob n s.jobId s = 1 := if_pos ⟨hserial, rfl⟩
      rw [if_neg hclaimed, hone] at hle
      have hmapped := h.counted.mappedHeld n s.jobId
      unfold mapped at hmapped
      have hpart : w.held (ofSerialAndJob n s.jobId) ≤ w.held (ofSerial n) := by
        refine sumBy_le_sumBy fun call _ => ?_
        have hsession : ∀ s', ofSerialAndJob n s.jobId s' ≤ ofSerial n s' := by
          intro s'
          unfold ofSerialAndJob ofSerial
          split_ifs <;> omega
        cases call <;> first | exact hsession _ | exact le_rfl
      omega
  · omega

end ProtectedWorker

/-- **A protected session is one-shot and the sessions in use are bounded, in every run in which no execution outlasts its
session.** -/
theorem protected_sessions_one_shot {κ : Type} [DecidableEq κ] (lib : ReplayLibrary) (config : ProtectedWorkerConfig)
    (rows : ReplayRows) (moves : List (WorkerMove κ))
    (htimely : Run.Along (ProtectedWorker.next lib config) (fun w move => w.Timely lib move) (.start rows) moves) :
    (Run.exec (ProtectedWorker.next lib config) (.start rows) moves).OneShot config := by
  have h := ProtectedWorker.inTime_exec lib config rows moves htimely
  exact ⟨h.sound.perSession, h.sound.perEnvelope, h.beforeExpiry, h.sound.placed.invokedBound, h.fits.bounded,
    fun n hn => h.sound.released hn⟩

/-! ### An execution that outlasts its session -/

def sampleWorkerConfig : ProtectedWorkerConfig where
  nodeId := "node"
  runtimeDigest := "runtime"
  dataPlaneTlsSha256 := sampleConsumed.binding.dataPlaneTlsSha256
  sessionTtlSeconds := 120
  maxActiveSessions := 1
  ttl_range := by decide
  capacity_range := by decide

def sampleProvision (jobId : String) : ProvisionRequest :=
  ⟨"acct", jobId, "model", "CONFIDENTIAL", "chat_completion", 100, 100⟩

/-- A session is provisioned, and an envelope claims it. -/
def sampleClaiming : List (WorkerMove ℕ) :=
  [.provision 0 (sampleProvision "job") 0, .install 0 "nonce", .claim 1 sampleConsumed 1,
    .consume 1 sampleClaimed.aware false]

/-- The first execution of a session that waits. -/
theorem protected_sessions_one_shot_sample :
    (Run.exec (ProtectedWorker.next sampleReplayLibrary sampleWorkerConfig) (.start Dict.empty)
      (sampleClaiming ++ [.invoke 1 2, .leave 1, .retire 1])).OneShot sampleWorkerConfig := by
  have hwaits : ∀ s ∈ (Run.exec (ProtectedWorker.next sampleReplayLibrary sampleWorkerConfig) (.start empty)
      (sampleClaiming.take 2)).manager.sessions.get? "job", s.claimedEnvelopeId = none := by
    decide +kernel
  have hadmitted : ∀ call ∈ (Run.exec (ProtectedWorker.next sampleReplayLibrary sampleWorkerConfig) (.start empty)
      sampleClaiming).calls.get? 1, 2 < call.holds ProtectedSession.expiresAt := by
    decide +kernel
  refine protected_sessions_one_shot _ _ _ _ ⟨nofun, trivial, fun _ _ s hs hclaimed => ?_,
    trivial, fun session envelope hcall => ?_, trivial, trivial, trivial⟩
  · exact absurd (hwaits s hs) hclaimed
  · exact hadmitted _ hcall

/-- **A purge frees the place of a session that is executing**: where one session is allowed two are in use, and the backend
is called for the one that has expired. -/
theorem purge_frees_an_executing_session :
    let w := Run.exec (ProtectedWorker.next sampleReplayLibrary sampleWorkerConfig) (.start empty)
      (sampleClaiming ++ [.provision 2 (sampleProvision "other") 121000000, .install 2 "nonce", .invoke 1 121000000])
    sampleWorkerConfig.maxActiveSessions < w.inUse ∧ ∃ i ∈ w.invocations, i.session.expiresAt < i.instant := by
  decide

end ComputeMesh.Runtime
