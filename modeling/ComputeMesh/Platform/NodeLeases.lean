import ComputeMesh.Lib.JsonAscii
import ComputeMesh.Lib.Sha256
import ComputeMesh.Platform.NodeRegistry

/-!
# Node leases

Reservations of slots on a node.  A call reads the clock and then runs one transaction, which is undone if it raises, also
when the event sink raises; the rows stay in the order in which they were granted.

* `LeaseRequest`, `check`, `fingerprint` — what is asked for, its checks and the digest that tells two requests apart;
* `expireLocked` — the sweep at the start of most transactions;
* `reserve`, `renew`, `release`, `revoke`, `expire` — the methods;
* `reserve_eq_ok`, `renew_eq_ok`, `close_eq_ok` — **what a call that returns has done.**
-/

namespace ComputeMesh.Platform

open ComputeMesh.JsonAscii ComputeMesh.Text

inductive LeaseFailure
  | valueError (message : String)
  | keyError (message : String)
  | denied (message : String)
  | conflict (message : String)
  | integrityError (message : String)
  | sinkError (message : String)
  deriving DecidableEq, Repr

inductive LeaseState
  | active
  | released
  | expired
  | revoked
  deriving DecidableEq, Repr

def LeaseState.value : LeaseState → String
  | active => "active"
  | released => "released"
  | expired => "expired"
  | revoked => "revoked"

/-- A row of `node_leases`, stored under its lease id. -/
structure NodeLease where
  nodeId : String
  sessionId : String
  turnId : String
  modelId : String
  requestedSlots : ℕ
  capacityLimit : ℕ
  status : LeaseState
  idempotencyKey : String
  requestFingerprint : String
  issuedAt : ℚ
  expiresAt : ℚ
  version : ℕ
  updatedAt : ℚ
  deriving DecidableEq, Repr

abbrev LeaseTable := Dict String NodeLease

/-- An event, with the lease and the node it is about. -/
structure LeaseEvent where
  eventType : String
  leaseId : String
  nodeId : String

/-- What the event sink does with an event: nothing, or raise. -/
abbrev LeaseSink := LeaseEvent → Except LeaseFailure Unit

/-- The arguments of `reserve`. -/
structure LeaseRequest where
  nodeId : String
  sessionId : String
  turnId : String
  modelId : String
  requestedSlots : ℤ := 1
  capacityLimit : ℤ := 1
  ttlSeconds : ℤ := 300
  idempotencyKey : String

/-- The text whose digest is the fingerprint of a request. -/
def leaseText (nodeId turnId modelId : String) (requestedSlots capacityLimit ttlSeconds : ℕ) : String :=
  dumpsFlat
    [("capacity_limit", .nat capacityLimit), ("model_id", .text modelId), ("node_id", .text nodeId),
      ("requested_slots", .nat requestedSlots), ("ttl_seconds", .nat ttlSeconds), ("turn_id", .text turnId)]

namespace LeaseRequest

variable {q : LeaseRequest}

def checkIds (q : LeaseRequest) : Except LeaseFailure Unit :=
  checkEach (fun field => if isIdentifier 160 field.1 = false then .error (.valueError ("invalid " ++ field.2)) else .ok ())
    [(q.nodeId, "node_id"), (q.sessionId, "session_id"), (q.turnId, "turn_id"), (q.idempotencyKey, "idempotency_key")]

/-- The bounds of a lifetime. -/
def checkTtl (ttlSeconds : ℤ) : Except LeaseFailure Unit :=
  if ¬(1 ≤ ttlSeconds ∧ ttlSeconds ≤ 7 * 24 * 3600) then .error (.valueError "ttl_seconds is outside the supported bound")
  else .ok ()

/-- The checks of the arguments. -/
def check (q : LeaseRequest) : Except LeaseFailure Unit :=
  q.checkIds >>= fun _ =>
    if ¬(1 ≤ q.modelId.toList.length ∧ q.modelId.toList.length ≤ 256) then
      .error (.valueError "model_id must be 1..256 characters")
    else if ¬(1 ≤ q.requestedSlots ∧ q.requestedSlots ≤ 1000000) ∨ ¬(1 ≤ q.capacityLimit ∧ q.capacityLimit ≤ 1000000)
        ∨ q.capacityLimit < q.requestedSlots then
      .error (.valueError "requested_slots must fit within capacity_limit")
    else checkTtl q.ttlSeconds

def text (q : LeaseRequest) : String :=
  leaseText q.nodeId q.turnId q.modelId q.requestedSlots.toNat q.capacityLimit.toNat q.ttlSeconds.toNat

def fingerprint (q : LeaseRequest) : String := Sha256.sha256Hex q.text

def granted (q : LeaseRequest) (now : ℚ) : NodeLease where
  nodeId := q.nodeId
  sessionId := q.sessionId
  turnId := q.turnId
  modelId := q.modelId
  requestedSlots := q.requestedSlots.toNat
  capacityLimit := q.capacityLimit.toNat
  status := .active
  idempotencyKey := q.idempotencyKey
  requestFingerprint := q.fingerprint
  issuedAt := now
  expiresAt := now + q.ttlSeconds
  version := 1
  updatedAt := now

theorem ttl_pos (h : q.check = .ok ()) : 1 ≤ q.ttlSeconds := by
  obtain ⟨_, -, h⟩ := bind_eq_ok_iff.mp h
  obtain ⟨-, h⟩ := ite_error_eq_ok_iff.mp h
  obtain ⟨-, h⟩ := ite_error_eq_ok_iff.mp h
  obtain ⟨hbounds, -⟩ := ite_error_eq_ok_iff.mp h
  exact (not_not.mp hbounds).1

end LeaseRequest

namespace NodeLease

variable {lease : NodeLease} {now : ℚ}

/-- The lease counts as expired at an instant. -/
def overdue (lease : NodeLease) (now : ℚ) : Bool := decide (lease.status = .active) && decide (lease.expiresAt ≤ now)

/-- The lease is active and unexpired. -/
def alive (lease : NodeLease) (now : ℚ) : Bool := decide (lease.status = .active) && decide (now < lease.expiresAt)

def withStatus (lease : NodeLease) (status : LeaseState) (now : ℚ) : NodeLease :=
  { lease with status, version := lease.version + 1, updatedAt := now }

def renewed (lease : NodeLease) (expiresAt now : ℚ) : NodeLease :=
  { lease with expiresAt, version := lease.version + 1, updatedAt := now }

/-- The row after the sweep, if it covers the row's node. -/
def swept (covers : String → Bool) (now : ℚ) (lease : NodeLease) : NodeLease :=
  if lease.overdue now && covers lease.nodeId then lease.withStatus .expired now else lease

theorem alive_iff : lease.alive now = true ↔ lease.status = .active ∧ now < lease.expiresAt := by
  simp [alive]

theorem lt_of_swept {covers : String → Bool} (hcovers : covers lease.nodeId = true)
    (hactive : (lease.swept covers now).status = .active) : now < (lease.swept covers now).expiresAt := by
  unfold swept at hactive ⊢
  split at hactive
  · cases hactive
  · rename_i hnot
    rw [if_neg hnot]
    rw [hcovers, Bool.and_true, overdue] at hnot
    have hpast : ¬lease.expiresAt ≤ now := by simpa [hactive] using hnot
    exact not_le.mp hpast

end NodeLease

namespace LeaseTable

variable {t t' : LeaseTable} {sink : LeaseSink} {covers : String → Bool} {now : ℚ} {q : LeaseRequest}
  {leaseId hex : String} {lease : NodeLease}

/-- The statement of `_expire_locked`. -/
def sweep (t : LeaseTable) (covers : String → Bool) (now : ℚ) : LeaseTable := t.mapValues (NodeLease.swept covers now)

/-- `_expire_locked`, with its events. -/
def expireLocked (t : LeaseTable) (sink : LeaseSink) (covers : String → Bool) (now : ℚ) : Except LeaseFailure LeaseTable :=
  checkEach (fun e => sink ⟨"node.lease.expired", e.1, e.2.nodeId⟩)
      (t.filter fun _ lease => lease.overdue now && covers lease.nodeId).entries >>= fun _ =>
    .ok (t.sweep covers now)

/-- The lease that was granted under a key of a session. -/
def existing (t : LeaseTable) (sessionId idempotencyKey : String) : Option (String × NodeLease) :=
  t.entries.find? fun e => decide (e.2.sessionId = sessionId) && decide (e.2.idempotencyKey = idempotencyKey)

def usedSlots (t : LeaseTable) (nodeId : String) (now : ℚ) : ℕ :=
  (t.select fun _ lease => if lease.nodeId = nodeId ∧ lease.alive now = true then some lease.requestedSlots else none).sum

/-- The transaction of `reserve`. -/
def reserveLocked (t : LeaseTable) (sink : LeaseSink) (q : LeaseRequest) (hex : String) (now : ℚ) :
    Except LeaseFailure ((String × NodeLease) × LeaseTable) :=
  t.expireLocked sink (fun nodeId => decide (nodeId = q.nodeId)) now >>= fun t =>
    match t.existing q.sessionId q.idempotencyKey with
    | some prior =>
      if prior.2.requestFingerprint ≠ q.fingerprint then
        .error (.conflict "idempotency key was reused with different reservation semantics")
      else .ok (prior, t)
    | none =>
      if t.usedSlots q.nodeId now + q.requestedSlots.toNat > q.capacityLimit.toNat then
        .error (.denied "node capacity is already reserved")
      else if t.contains ("lease_" ++ hex) then
        .error (.integrityError "UNIQUE constraint failed: node_leases.lease_id")
      else
        sink ⟨"node.lease.created", "lease_" ++ hex, q.nodeId⟩ >>= fun _ =>
        .ok (("lease_" ++ hex, q.granted now), t.set ("lease_" ++ hex) (q.granted now))

/-- What `reserve` asks of the node's record. -/
def checkNode (nodes : MeshNodes) (nodeId : String) : Except LeaseFailure Unit :=
  match nodes.get? nodeId with
  | none => .error (.keyError ("unknown mesh node: " ++ nodeId))
  | some row => if row.routable = false then .error (.denied "node is not authenticated and routable") else .ok ()

/-- `reserve`, for the nodes as the registry has them and the digits of the random id. -/
def reserve (t : LeaseTable) (nodes : MeshNodes) (sink : LeaseSink) (q : LeaseRequest) (hex : String) (now : ℚ) :
    Except LeaseFailure ((String × NodeLease) × LeaseTable) :=
  q.check >>= fun _ => checkNode nodes q.nodeId >>= fun _ => t.reserveLocked sink q hex now

/-- The row of a lease, or a `KeyError`. -/
def require (t : LeaseTable) (leaseId : String) : Except LeaseFailure NodeLease :=
  match t.get? leaseId with
  | some lease => .ok lease
  | none => .error (.keyError ("unknown node lease: " ++ leaseId))

def renew (t : LeaseTable) (sink : LeaseSink) (leaseId : String) (ttlSeconds : ℤ) (now : ℚ) :
    Except LeaseFailure (NodeLease × LeaseTable) :=
  LeaseRequest.checkTtl ttlSeconds >>= fun _ =>
    t.expireLocked sink (fun _ => true) now >>= fun t =>
    t.require leaseId >>= fun lease =>
      if lease.status ≠ .active then .error (.denied ("cannot renew lease in state " ++ lease.status.value))
      else
        sink ⟨"node.lease.renewed", leaseId, lease.nodeId⟩ >>= fun _ =>
        .ok (lease.renewed (now + ttlSeconds) now, t.set leaseId (lease.renewed (now + ttlSeconds) now))

def close (t : LeaseTable) (sink : LeaseSink) (leaseId : String) (target : LeaseState) (now : ℚ) :
    Except LeaseFailure (NodeLease × LeaseTable) :=
  t.require leaseId >>= fun lease =>
    if lease.status ∈ [LeaseState.released, .revoked, .expired] then .ok (lease, t)
    else
      sink ⟨"node.lease." ++ target.value, leaseId, lease.nodeId⟩ >>= fun _ =>
      .ok (lease.withStatus target now, t.set leaseId (lease.withStatus target now))

def release (t : LeaseTable) (sink : LeaseSink) (leaseId : String) (now : ℚ) : Except LeaseFailure (NodeLease × LeaseTable) :=
  t.close sink leaseId .released now

def revoke (t : LeaseTable) (sink : LeaseSink) (leaseId : String) (now : ℚ) : Except LeaseFailure (NodeLease × LeaseTable) :=
  t.close sink leaseId .revoked now

/-- `expire`, with the number of leases that have expired. -/
def expire (t : LeaseTable) (sink : LeaseSink) (now : ℚ) : Except LeaseFailure (ℕ × LeaseTable) :=
  t.expireLocked sink (fun _ => true) now >>= fun t' => .ok ((t.select fun _ lease => if lease.overdue now then some () else none).length, t')

/-! ### What the calls have done -/

theorem get?_sweep (t : LeaseTable) (covers : String → Bool) (now : ℚ) (leaseId : String) :
    (t.sweep covers now).get? leaseId = (t.get? leaseId).map (NodeLease.swept covers now) := Dict.get?_mapValues _ _ _

theorem expireLocked_eq_ok (h : t.expireLocked sink covers now = .ok t') : t' = t.sweep covers now := by
  obtain ⟨_, -, h⟩ := bind_eq_ok_iff.mp h
  exact (Except.ok.inj h).symm

theorem expireLocked_of_running (h : ∀ e ∈ t.entries, (e.2.overdue now && covers e.2.nodeId) = false) :
    t.expireLocked sink covers now = .ok t := by
  have hnone : (t.filter fun _ lease => lease.overdue now && covers lease.nodeId).entries = [] :=
    List.filter_eq_nil_iff.mpr fun e he => by simp [h e he]
  have hentries : (t.sweep covers now).entries = t.entries := by
    refine (List.map_congr_left fun e he => ?_).trans (List.map_id _)
    exact Prod.ext rfl (if_neg (by simp [h e he]))
  have hsweep : t.sweep covers now = t := by
    cases t
    exact (Dict.mk.injEq ..).mpr hentries
  unfold expireLocked
  rw [hnone, hsweep]
  rfl

theorem require_eq_ok_iff : t.require leaseId = .ok lease ↔ t.get? leaseId = some lease := by
  unfold require
  cases t.get? leaseId with
  | none => exact ⟨nofun, nofun⟩
  | some found => exact ⟨fun h => congrArg some (Except.ok.inj h), fun h => congrArg Except.ok (Option.some.inj h)⟩

theorem existing_eq_some {sessionId idempotencyKey : String} (h : t.existing sessionId idempotencyKey = some (leaseId, lease)) :
    t.get? leaseId = some lease ∧ lease.sessionId = sessionId ∧ lease.idempotencyKey = idempotencyKey := by
  have hmem := List.mem_of_find?_eq_some h
  have hfound := List.find?_some h
  simp only [Bool.and_eq_true, decide_eq_true_eq] at hfound
  exact ⟨(t.mem_entries_iff leaseId lease).mp hmem, hfound⟩

/-- A request under a known key gets the lease of the key as it is, while no lease of the node is overdue. -/
theorem reserve_of_existing {nodes : MeshNodes} {prior : String × NodeLease} (hcheck : q.check = .ok ())
    (hnode : checkNode nodes q.nodeId = .ok ())
    (hrunning : ∀ e ∈ t.entries, (e.2.overdue now && decide (e.2.nodeId = q.nodeId)) = false)
    (hprior : t.existing q.sessionId q.idempotencyKey = some prior)
    (hsame : prior.2.requestFingerprint = q.fingerprint) : t.reserve nodes sink q hex now = .ok (prior, t) := by
  unfold reserve reserveLocked
  rw [hcheck, hnode, expireLocked_of_running hrunning]
  show (match t.existing q.sessionId q.idempotencyKey with | some prior => _ | none => _) = _
  rw [hprior]
  exact if_neg (not_not.mpr hsame)

/-- **What `reserve` has done when it returns**: after the sweep of its node it has found the lease of its key, or granted
a new one that fits. -/
theorem reserve_eq_ok {nodes : MeshNodes} (h : t.reserve nodes sink q hex now = .ok ((leaseId, lease), t')) :
    (t.sweep (fun nodeId => decide (nodeId = q.nodeId)) now).existing q.sessionId q.idempotencyKey = some (leaseId, lease) ∧
        lease.requestFingerprint = q.fingerprint ∧ t' = t.sweep (fun nodeId => decide (nodeId = q.nodeId)) now ∨
      q.check = .ok () ∧ lease = q.granted now ∧ t.get? leaseId = none ∧
        (t.sweep (fun nodeId => decide (nodeId = q.nodeId)) now).usedSlots q.nodeId now + q.requestedSlots.toNat
          ≤ q.capacityLimit.toNat ∧
        t' = (t.sweep (fun nodeId => decide (nodeId = q.nodeId)) now).set leaseId lease := by
  obtain ⟨_, hcheck, h⟩ := bind_eq_ok_iff.mp h
  obtain ⟨_, -, h⟩ := bind_eq_ok_iff.mp h
  obtain ⟨swept, hswept, h⟩ := bind_eq_ok_iff.mp h
  obtain rfl := expireLocked_eq_ok hswept
  cases hprior : (t.sweep (fun nodeId => decide (nodeId = q.nodeId)) now).existing q.sessionId q.idempotencyKey with
  | some prior =>
    rw [hprior] at h
    obtain ⟨hsame, h⟩ := ite_error_eq_ok_iff.mp h
    obtain ⟨rfl, rfl⟩ := Prod.mk.inj (Except.ok.inj h)
    exact .inl ⟨rfl, not_not.mp hsame, rfl⟩
  | none =>
    rw [hprior] at h
    obtain ⟨hroom, h⟩ := ite_error_eq_ok_iff.mp h
    obtain ⟨hnew, h⟩ := ite_error_eq_ok_iff.mp h
    obtain ⟨_, -, h⟩ := bind_eq_ok_iff.mp h
    obtain ⟨hentry, rfl⟩ := Prod.mk.inj (Except.ok.inj h)
    obtain ⟨rfl, rfl⟩ := Prod.mk.inj hentry
    refine .inr ⟨hcheck, rfl, ?_, not_lt.mp hroom, rfl⟩
    rw [Dict.contains, get?_sweep] at hnew
    cases hget : t.get? ("lease_" ++ hex) with
    | none => rfl
    | some found =>
      rw [hget] at hnew
      exact absurd rfl hnew

/-- **What `renew` has done when it returns**: it moved the expiry of a lease that the sweep left active. -/
theorem renew_eq_ok {ttlSeconds : ℤ} (h : t.renew sink leaseId ttlSeconds now = .ok (lease, t')) :
    ∃ prior, (t.sweep (fun _ => true) now).get? leaseId = some prior ∧ prior.status = .active ∧
      lease = prior.renewed (now + ttlSeconds) now ∧ t' = (t.sweep (fun _ => true) now).set leaseId lease := by
  obtain ⟨_, -, h⟩ := bind_eq_ok_iff.mp h
  obtain ⟨swept, hswept, h⟩ := bind_eq_ok_iff.mp h
  obtain rfl := expireLocked_eq_ok hswept
  obtain ⟨prior, hprior, h⟩ := bind_eq_ok_iff.mp h
  obtain ⟨hactive, h⟩ := ite_error_eq_ok_iff.mp h
  obtain ⟨_, -, h⟩ := bind_eq_ok_iff.mp h
  obtain ⟨rfl, rfl⟩ := Prod.mk.inj (Except.ok.inj h)
  exact ⟨prior, require_eq_ok_iff.mp hprior, not_not.mp hactive, rfl, rfl⟩

/-- **What `_close` has done when it returns**: it found the lease closed, or closed it. -/
theorem close_eq_ok {target : LeaseState} (h : t.close sink leaseId target now = .ok (lease, t')) :
    (t.get? leaseId = some lease ∧ lease.status ≠ .active ∧ t' = t) ∨
      ∃ prior, t.get? leaseId = some prior ∧ prior.status = .active ∧ lease = prior.withStatus target now ∧
        t' = t.set leaseId lease := by
  obtain ⟨prior, hprior, h⟩ := bind_eq_ok_iff.mp h
  have hget := require_eq_ok_iff.mp hprior
  split at h
  · rename_i hclosed
    obtain ⟨rfl, rfl⟩ := Prod.mk.inj (Except.ok.inj h)
    refine .inl ⟨hget, fun hactive => ?_, rfl⟩
    rw [hactive] at hclosed
    exact absurd hclosed (by decide)
  · rename_i hopen
    obtain ⟨_, -, h⟩ := bind_eq_ok_iff.mp h
    obtain ⟨rfl, rfl⟩ := Prod.mk.inj (Except.ok.inj h)
    refine .inr ⟨prior, hget, ?_, rfl, rfl⟩
    cases hstatus : prior.status with
    | active => rfl
    | released | expired | revoked => rw [hstatus] at hopen; exact absurd (by decide) hopen

end LeaseTable

end ComputeMesh.Platform
