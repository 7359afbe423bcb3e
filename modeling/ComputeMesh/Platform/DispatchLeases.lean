import ComputeMesh.Platform.ModelDispatch

/-!
# Dispatches under their own leases

Any number of dispatch calls over one lease store.

* `DispatchWorld.OwnLease` — what dispatching under an own lease promises of a state;
* `DispatchCall.Orderly` — what has to be so at a step: no active lease answers for the key, the start of the attempt is
  announced, and the lease is given back;
* `DispatchCall.Sound`, `DispatchCall.Sound.frame` — **what a call relies on**, and how it survives what others do;
* `own_leases` — every state of an orderly run keeps the promise;
* `shared_lease` — two calls with one key run under one lease.
-/

namespace ComputeMesh.Platform

open Dict LeaseTable Option

/-- The lease a call is bound to in a phase. -/
def DispatchPhase.holds : DispatchPhase → Option (String × NodeLease)
  | .reserved leaseId lease => some (leaseId, lease)
  | .running leaseId lease => some (leaseId, lease)
  | .releasing leaseId lease _ => some (leaseId, lease)
  | _ => none

namespace DispatchWorld

/-- The slots of the executor calls that run on a node under unexpired leases. -/
def runningOn (s : DispatchWorld) (nodeId : String) (now : ℚ) : List ℕ :=
  s.calls.select fun _ c =>
    match c.phase with
    | .running _ lease => if lease.nodeId = nodeId ∧ now < lease.expiresAt then some c.request.requestedSlots.toNat else none
    | _ => none

/-- What dispatching under an own lease promises of a state. -/
structure OwnLease (s : DispatchWorld) : Prop where
  /-- At most one executor call runs under a lease. -/
  alone : ∀ i j ci cj leaseId li lj, s.calls.get? i = some ci → s.calls.get? j = some cj →
    ci.phase = .running leaseId li → cj.phase = .running leaseId lj → i = j
  /-- The executor calls that run on a node before their leases expire fit within the common limit. -/
  within : ∀ limit, (∀ i c, s.calls.get? i = some c → c.request.capacityLimit = limit) → ∀ nodeId now, s.clock ≤ now →
    (s.runningOn nodeId now).sum ≤ limit.toNat
  /-- A call that has returned or raised leaves none of its leases active. -/
  closed : ∀ i c outcome, s.calls.get? i = some c → c.phase = .finished outcome → ∀ leaseId ∈ c.reservedIds, ∀ lease,
    s.leases.get? leaseId = some lease → lease.status ≠ .active

end DispatchWorld

namespace DispatchCall

variable {c c' : DispatchCall} {t t' : LeaseTable} {clock clock' now : ℚ} {leaseId : String} {lease row : NodeLease}
  {m : DispatchMove} {sink : DispatchSink} {leaseSink : LeaseSink} {nodes : MeshNodes} {hex : String}

/-- What has to be so at a step of the call: the key of a reservation is not that of a lease that is still active, the event
that announces the attempt is taken, and so is that of the release. -/
def Orderly (t : LeaseTable) (c : DispatchCall) (m : DispatchMove) : Prop :=
  match c.phase, m with
  | .reserving (candidate :: _) _, .reserve _ _ _ _ _ now =>
    let q := c.request.leaseRequest candidate c.attempt
    ∀ prior ∈ (t.sweep (fun nodeId => decide (nodeId = candidate)) now).existing q.sessionId q.idempotencyKey,
      prior.2.requestFingerprint = q.fingerprint → prior.2.status ≠ .active
  | .reserved _ _, .announce sink => (sink "mesh.dispatch.started").isOk = true
  | .releasing leaseId lease _, .release leaseSink _ =>
    (leaseSink ⟨"node.lease.released", leaseId, lease.nodeId⟩).isOk = true
  | _, _ => True

/-- The row of a lease a call is bound to: it is what was granted, and active until it has expired. -/
def Held (t : LeaseTable) (clock : ℚ) (leaseId : String) (lease : NodeLease) : Prop :=
  ∃ row, t.get? leaseId = some row ∧ row.nodeId = lease.nodeId ∧ row.requestedSlots = lease.requestedSlots ∧
    row.expiresAt = lease.expiresAt ∧ (row.status = .active ∨ row.expiresAt ≤ clock)

/-- What a call relies on. -/
structure Sound (t : LeaseTable) (clock : ℚ) (c : DispatchCall) : Prop where
  held : ∀ leaseId lease, c.phase.holds = some (leaseId, lease) → leaseId ∈ c.reservedIds ∧ Held t clock leaseId lease ∧
    lease.requestedSlots = c.request.requestedSlots.toNat
  reserved : ∀ leaseId ∈ c.reservedIds, ∃ row, t.get? leaseId = some row ∧
    (row.status ≠ .active ∨ ∃ lease, c.phase.holds = some (leaseId, lease))

theorem Held.swept {covers : String → Bool} (hnode : row.nodeId = lease.nodeId)
    (hslots : row.requestedSlots = lease.requestedSlots) (hexpires : row.expiresAt = lease.expiresAt)
    (halive : row.status = .active ∨ row.expiresAt ≤ clock) (hget : t'.get? leaseId = some (row.swept covers now))
    (hclock : clock ≤ clock') (hnow : now ≤ clock') : Held t' clock' leaseId lease := by
  refine ⟨row.swept covers now, hget, ?_⟩
  unfold NodeLease.swept
  split
  · rename_i hdue
    have hpast : row.expiresAt ≤ now := by
      simp only [NodeLease.overdue, Bool.and_eq_true, decide_eq_true_eq] at hdue
      exact hdue.1.2
    exact ⟨hnode, hslots, hexpires, .inr (hpast.trans hnow)⟩
  · exact ⟨hnode, hslots, hexpires, halive.imp_right fun hle => hle.trans hclock⟩

/-- **A call survives what others do** to the table, as long as they only sweep its lease. -/
theorem Sound.frame (h : c.Sound t clock) (hev : LeaseTable.Evolves t now t')
    (hkeep : ∀ leaseId lease row, c.phase.holds = some (leaseId, lease) → t.get? leaseId = some row →
      ∃ covers, t'.get? leaseId = some (row.swept covers now)) (hclock : clock ≤ clock') (hnow : now ≤ clock') :
    c.Sound t' clock' := by
  refine ⟨fun leaseId lease hholds => ?_, fun leaseId hmem => ?_⟩
  · obtain ⟨hmem, ⟨row, hget, hnode, hslots, hexpires, halive⟩, hrequest⟩ := h.held leaseId lease hholds
    obtain ⟨covers, hget'⟩ := hkeep leaseId lease row hholds hget
    exact ⟨hmem, .swept hnode hslots hexpires halive hget' hclock hnow, hrequest⟩
  · obtain ⟨row, hget, hrow⟩ := h.reserved leaseId hmem
    obtain ⟨row', hget', hbecomes⟩ := hev.becomes hget
    refine ⟨row', hget', hrow.imp_left fun hclosed => ?_⟩
    rw [hbecomes.closed hclosed]
    exact hclosed

theorem Sound.congr (h : c.Sound t clock) (hrequest : c'.request = c.request) (hids : c'.reservedIds = c.reservedIds)
    (hholds : c'.phase.holds = c.phase.holds) : c'.Sound t clock := by
  obtain ⟨hheld, hreserved⟩ := h
  rw [← hholds, ← hids, ← hrequest] at hheld
  rw [← hholds, ← hids] at hreserved
  exact ⟨hheld, hreserved⟩

/-! ### What a step does to the leases of others -/

theorem get?_reserve {q : LeaseRequest} (hget : t.get? leaseId = some row) :
    ∃ covers, (committed t (t.reserve nodes leaseSink q hex now)).get? leaseId = some (row.swept covers now) := by
  have hswept : ∀ covers, (t.sweep covers now).get? leaseId = some (row.swept covers now) := fun covers => by
    rw [get?_sweep, hget]
    rfl
  cases hresult : t.reserve nodes leaseSink q hex now with
  | error e =>
    refine ⟨fun _ => false, ?_⟩
    rw [committed_error, hget, NodeLease.swept, Bool.and_false]
    rfl
  | ok result =>
    obtain ⟨⟨newId, lease⟩, t'⟩ := result
    rw [committed_ok]
    rcases reserve_eq_ok hresult with ⟨-, -, rfl⟩ | ⟨-, rfl, hnew, -, rfl⟩
    · exact ⟨_, hswept _⟩
    · have hne : leaseId ≠ newId := fun heq => by
        rw [heq, hnew] at hget
        cases hget
      exact ⟨_, (get?_set_of_ne _ hne _).trans (hswept _)⟩

theorem get?_release_of_ne {other : String} (hne : other ≠ leaseId) :
    (committed t (t.release leaseSink leaseId now)).get? other = t.get? other := by
  refine committed_of (P := fun t' : LeaseTable => t'.get? other = t.get? other) rfl fun lease t' h => ?_
  rcases close_eq_ok h with ⟨-, -, rfl⟩ | ⟨_, -, -, -, rfl⟩
  · rfl
  · exact get?_set_of_ne _ hne _

/-! ### One step of a call -/

/-- What a step of a call leaves. -/
structure Stepped (t : LeaseTable) (clock : ℚ) (c : DispatchCall) (t' : LeaseTable) (clock' : ℚ) (c' : DispatchCall) :
    Prop where
  request : c'.request = c.request
  sound : c'.Sound t' clock'
  /-- The table evolves, and the leases of other calls are only swept. -/
  evolves : ∃ now ≤ clock', LeaseTable.Evolves t now t' ∧
    ∀ leaseId row, t.get? leaseId = some row → (∀ lease, c.phase.holds ≠ some (leaseId, lease)) →
      ∃ covers, t'.get? leaseId = some (row.swept covers now)
  /-- A lease that the call is newly bound to is new. -/
  holds : ∀ leaseId lease, c'.phase.holds = some (leaseId, lease) →
    (∃ lease', c.phase.holds = some (leaseId, lease')) ∨ t.get? leaseId = none
  /-- A new lease has the limit of the call. -/
  limits : ∀ leaseId row, t'.get? leaseId = some row → t.get? leaseId = none →
    row.capacityLimit = c.request.capacityLimit.toNat

theorem Sound.stepped (h : c.Sound t clock) (hrequest : c'.request = c.request) (hids : c'.reservedIds = c.reservedIds)
    (hholds : c'.phase.holds = c.phase.holds) (hclock : clock ≤ clock') : Stepped t clock c t clock' c' := by
  have hsame : ∀ leaseId row, t.get? leaseId = some row → ∃ covers, t.get? leaseId = some (row.swept covers clock) := by
    intro leaseId row hget
    refine ⟨fun _ => false, ?_⟩
    rw [hget, NodeLease.swept, Bool.and_false]
    rfl
  have hbase : c.Sound t clock' :=
    h.frame .same (fun leaseId lease row _ hget => hsame leaseId row hget) hclock hclock
  refine ⟨hrequest, hbase.congr hrequest hids hholds, ⟨clock, hclock, .same, fun leaseId row hget _ => hsame leaseId row hget⟩,
    fun leaseId lease hnew => .inl ⟨lease, hholds ▸ hnew⟩, fun leaseId row hget hnone => ?_⟩
  rw [hnone] at hget
  cases hget

theorem enter_eq (c : DispatchCall) (cancelled : Bool) :
    (c.enter cancelled).request = c.request ∧ (c.enter cancelled).reservedIds = c.reservedIds ∧
      (c.enter cancelled).phase.holds = none := by
  unfold enter
  split
  · exact ⟨rfl, rfl, rfl⟩
  · split
    · exact ⟨rfl, rfl, rfl⟩
    · split <;> exact ⟨rfl, rfl, rfl⟩

theorem route_eq (c : DispatchCall) (cancelled : Bool) (candidates : List RouteCandidate) :
    (c.route cancelled candidates).request = c.request ∧ (c.route cancelled candidates).reservedIds = c.reservedIds ∧
      (c.route cancelled candidates).phase.holds = none := by
  unfold route
  split
  · exact ⟨rfl, rfl, rfl⟩
  · split
    · exact ⟨rfl, rfl, rfl⟩
    · split
      · split <;> exact ⟨rfl, rfl, rfl⟩
      · exact ⟨rfl, rfl, rfl⟩

theorem goOn_eq (c : DispatchCall) (nodeId : String) (next : AfterRelease) :
    (c.goOn nodeId next).request = c.request ∧ (c.goOn nodeId next).reservedIds = c.reservedIds ∧
      (c.goOn nodeId next).phase.holds = none := by
  cases next <;> exact ⟨rfl, rfl, rfl⟩

/-- What a reservation does to the table, next to a call that is bound to no lease. -/
theorem evolves_reserve (q : LeaseRequest) :
    LeaseTable.Evolves t now (committed t (t.reserve nodes leaseSink q hex now)) :=
  evolves_step t (.reserve nodes leaseSink q hex now)

/-- **The answer of a reservation.** -/
theorem Sound.reserveAnswered {candidate : String} {rest : List String} (h : c.Sound t clock) (hidle : c.phase.holds = none)
    (hfresh : ∀ prior ∈ (t.sweep (fun nodeId => decide (nodeId = candidate)) now).existing c.request.sessionId
        (c.request.attemptKey c.attempt),
      prior.2.requestFingerprint = (c.request.leaseRequest candidate c.attempt).fingerprint → prior.2.status ≠ .active) :
    Stepped t clock c (committed t (t.reserve nodes leaseSink (c.request.leaseRequest candidate c.attempt) hex now))
      (max clock now) (c.reserveAnswered sink candidate rest
        (t.reserve nodes leaseSink (c.request.leaseRequest candidate c.attempt) hex now)) := by
  have hev : LeaseTable.Evolves t now
      (committed t (t.reserve nodes leaseSink (c.request.leaseRequest candidate c.attempt) hex now)) := evolves_reserve _
  have hother : ∀ leaseId row, t.get? leaseId = some row → ∃ covers,
      (committed t (t.reserve nodes leaseSink (c.request.leaseRequest candidate c.attempt) hex now)).get? leaseId
        = some (row.swept covers now) := fun leaseId row hget => get?_reserve hget
  have hbase : c.Sound (committed t (t.reserve nodes leaseSink (c.request.leaseRequest candidate c.attempt) hex now))
      (max clock now) :=
    h.frame hev (fun leaseId lease row _ hget => hother leaseId row hget) (le_max_left _ _) (le_max_right _ _)
  cases hresult : t.reserve nodes leaseSink (c.request.leaseRequest candidate c.attempt) hex now with
  | error e =>
    rw [hresult] at hev hother hbase
    have hsame : ∀ c' : DispatchCall, c'.request = c.request → c'.reservedIds = c.reservedIds → c'.phase.holds = none →
        Stepped t clock c t (max clock now) c' := fun c' hrequest hids hnone =>
      { request := hrequest
        sound := hbase.congr hrequest hids (hnone.trans hidle.symm)
        evolves := ⟨now, le_max_right _ _, hev, fun leaseId row hget _ => hother leaseId row hget⟩
        holds := fun leaseId lease hnew => absurd (hnone.symm.trans hnew) (by simp)
        limits := fun leaseId row hget hnone => absurd (hnone.symm.trans hget) (by simp) }
    unfold DispatchCall.reserveAnswered
    cases e with
    | denied message =>
      dsimp only
      split
      · exact hsame _ rfl rfl rfl
      · exact hsame _ rfl rfl rfl
    | valueError message | keyError message | conflict message | integrityError message
    | sinkError message => exact hsame _ rfl rfl rfl
  | ok result =>
    obtain ⟨⟨newId, lease⟩, t'⟩ := result
    rw [hresult] at hev hother hbase
    rw [committed_ok] at hev hother hbase ⊢
    unfold DispatchCall.reserveAnswered
    dsimp only
    rcases reserve_eq_ok hresult with ⟨hexisting, hprint, rfl⟩ | ⟨-, rfl, hnew, -, rfl⟩
    · have hclosed := hfresh _ hexisting hprint
      have hget := (existing_eq_some hexisting).1
      rw [if_pos hclosed]
      refine ⟨rfl, ⟨nofun, fun leaseId hmem => ?_⟩,
        ⟨now, le_max_right _ _, hev, fun leaseId row hget _ => hother leaseId row hget⟩,
        nofun, fun leaseId row hget hnone => ?_⟩
      · rcases List.mem_cons.mp hmem with rfl | hold
        · exact ⟨lease, hget, .inl hclosed⟩
        · obtain ⟨row, hrow, hstatus⟩ := hbase.reserved leaseId hold
          rw [hidle] at hstatus
          exact ⟨row, hrow, .inl (hstatus.resolve_right fun ⟨_, hholds⟩ => (nomatch hholds))⟩
      · rw [get?_sweep, hnone] at hget
        cases hget
    · have hactive : ¬((c.request.leaseRequest candidate c.attempt).granted now).status ≠ .active := not_not.mpr rfl
      rw [if_neg hactive]
      refine ⟨rfl, ⟨fun leaseId lease hholds => ?_, fun leaseId hmem => ?_⟩,
        ⟨now, le_max_right _ _, hev, fun leaseId row hget _ => hother leaseId row hget⟩,
        fun leaseId lease hholds => ?_, fun leaseId row hget hnone => ?_⟩
      · obtain ⟨rfl, rfl⟩ := Prod.mk.inj (some.inj hholds)
        exact ⟨List.mem_cons_self, ⟨_, get?_set_self _ _ _, rfl, rfl, rfl, .inl rfl⟩, rfl⟩
      · rcases List.mem_cons.mp hmem with rfl | hold
        · exact ⟨_, get?_set_self _ _ _, .inr ⟨_, rfl⟩⟩
        · obtain ⟨row, hrow, hstatus⟩ := hbase.reserved leaseId hold
          rw [hidle] at hstatus
          exact ⟨row, hrow, .inl (hstatus.resolve_right fun ⟨_, hholds⟩ => (nomatch hholds))⟩
      · obtain ⟨rfl, -⟩ := Prod.mk.inj (some.inj hholds)
        exact .inr hnew
      · rcases get?_set_eq_some.mp hget with ⟨-, rfl⟩ | ⟨-, hget⟩
        · rfl
        · rw [get?_sweep, hnone] at hget
          cases hget

/-- **A release** of a lease whose event is taken closes the lease. -/
theorem release_eq_ok (hheld : Held t clock leaseId lease)
    (hsink : (leaseSink ⟨"node.lease.released", leaseId, lease.nodeId⟩).isOk = true) :
    ∃ closed t', t.release leaseSink leaseId now = .ok (closed, t') ∧ t'.get? leaseId = some closed ∧
      closed.status ≠ .active := by
  obtain ⟨row, hget, hnode, -, -, -⟩ := hheld
  have hrequire : t.require leaseId = .ok row := LeaseTable.require_eq_ok_iff.mpr hget
  rw [LeaseTable.release, LeaseTable.close, hrequire, ok_bind]
  by_cases hclosed : row.status ∈ [LeaseState.released, .revoked, .expired]
  · rw [if_pos hclosed]
    refine ⟨row, t, rfl, hget, fun hactive => ?_⟩
    rw [hactive] at hclosed
    exact absurd hclosed (by decide)
  · rw [if_neg hclosed]
    have hevent : "node.lease." ++ LeaseState.released.value = "node.lease.released" := by decide
    rw [hevent, hnode]
    cases hanswer : leaseSink ⟨"node.lease.released", leaseId, lease.nodeId⟩ with
    | error e =>
      rw [hanswer] at hsink
      cases hsink
    | ok u => exact ⟨_, _, rfl, get?_set_self _ _ _, nofun⟩

theorem Sound.released {next : AfterRelease} (h : c.Sound t clock) (hholds : c.phase.holds = some (leaseId, lease))
    (hsink : (leaseSink ⟨"node.lease.released", leaseId, lease.nodeId⟩).isOk = true) :
    Stepped t clock c (c.release t leaseSink now leaseId lease next).2 (max clock now)
      (c.release t leaseSink now leaseId lease next).1 := by
  obtain ⟨closed, t', hresult, hget', hclosed⟩ := (@release_eq_ok _ _ now) (h.held leaseId lease hholds).2.1 hsink
  have hev : LeaseTable.Evolves t now (t.step (.release leaseSink leaseId now)) :=
    evolves_step t (.release leaseSink leaseId now)
  have hother : ∀ other row, t.get? other = some row → other ≠ leaseId → t'.get? other = some row := by
    intro other row hget hne
    have hkept := (@get?_release_of_ne t now _ leaseSink) hne
    rw [hresult, committed_ok] at hkept
    exact hkept.trans hget
  unfold LeaseTable.step at hev
  dsimp only at hev
  unfold release
  rw [hresult] at hev ⊢
  rw [committed_ok] at hev
  show Stepped t clock c t' (max clock now) (c.goOn lease.nodeId next)
  obtain ⟨hrequest, hids, hnone⟩ := c.goOn_eq lease.nodeId next
  refine ⟨hrequest, ⟨fun id l hl => ?_, fun id hmem => ?_⟩, ⟨now, le_max_right _ _, hev, fun other row hget hne => ?_⟩,
    fun id l hl => ?_, fun id row hget hnew => ?_⟩
  · rw [hnone] at hl
    cases hl
  · rw [hids] at hmem
    by_cases heq : id = leaseId
    · subst heq
      exact ⟨closed, hget', .inl hclosed⟩
    · obtain ⟨row, hrow, hstatus⟩ := h.reserved id hmem
      refine ⟨row, hother id row hrow heq, .inl (hstatus.resolve_right fun ⟨l, hl⟩ => ?_)⟩
      rw [hholds] at hl
      exact heq (Prod.mk.inj (some.inj hl)).1.symm
  · refine ⟨fun _ => false, ?_⟩
    have hdifferent : other ≠ leaseId := fun heq => hne lease (heq ▸ hholds)
    rw [hother other row hget hdifferent, NodeLease.swept, Bool.and_false]
    rfl
  · rw [hnone] at hl
    cases hl
  · have hkept := (@get?_release_of_ne t now leaseId leaseSink id)
      (fun heq => by
        obtain ⟨row', hrow', -⟩ := (h.held leaseId lease hholds).2.1
        rw [← heq, hnew] at hrow'
        cases hrow')
    rw [hresult, committed_ok, hget, hnew] at hkept
    cases hkept

theorem le_clockAfter (clock : ℚ) (m : DispatchMove) : clock ≤ DispatchWorld.clockAfter clock m := by
  cases m with
  | reserve cancelled nodes leaseSink sink hex now | release leaseSink now => exact le_max_left _ _
  | _ => exact le_refl _

theorem Sound.reserve {candidates : List String} {denied cancelled : Bool} (h : c.Sound t clock)
    (hp : c.phase = .reserving candidates denied)
    (horderly : c.Orderly t (.reserve cancelled nodes leaseSink sink hex now)) :
    Stepped t clock c (c.reserve t cancelled nodes leaseSink sink hex now candidates denied).2 (max clock now)
      (c.reserve t cancelled nodes leaseSink sink hex now candidates denied).1 := by
  have hidle : c.phase.holds = none := by rw [hp]; rfl
  have hfail : ∀ failure, Stepped t clock c t (max clock now) (c.fail failure) := fun failure =>
    h.stepped rfl rfl hidle.symm (le_max_left _ _)
  unfold DispatchCall.reserve
  cases candidates with
  | nil => exact hfail _
  | cons candidate rest =>
    dsimp only
    unfold DispatchCall.Orderly at horderly
    rw [hp] at horderly
    split
    · exact hfail _
    · split
      · exact hfail _
      · exact h.reserveAnswered hidle horderly

/-- **One orderly step of a call.** -/
theorem Sound.step (h : c.Sound t clock) (horderly : c.Orderly t m) :
    Stepped t clock c (c.step t m).2 (DispatchWorld.clockAfter clock m) (c.step t m).1 := by
  have hclock := le_clockAfter clock m
  unfold DispatchCall.step
  split
  · rename_i cancelled hp
    obtain ⟨hrequest, hids, hnone⟩ := c.enter_eq cancelled
    exact h.stepped hrequest hids (hnone.trans (by rw [hp]; rfl)) hclock
  · rename_i cancelled candidates hp
    obtain ⟨hrequest, hids, hnone⟩ := c.route_eq cancelled candidates
    exact h.stepped hrequest hids (hnone.trans (by rw [hp]; rfl)) hclock
  · rename_i hp
    exact h.reserve hp horderly
  · rename_i leaseId lease sink hp
    unfold DispatchCall.Orderly at horderly
    rw [hp] at horderly
    unfold DispatchCall.announce
    cases hsink : sink "mesh.dispatch.started" with
    | error e =>
      dsimp only at horderly
      rw [hsink] at horderly
      cases horderly
    | ok u => exact h.stepped rfl rfl (by rw [hp]; rfl) hclock
  · rename_i leaseId lease answer cancelled sink hp
    exact h.stepped rfl rfl (by rw [hp]; rfl) hclock
  · rename_i leaseId lease next leaseSink now hp
    unfold DispatchCall.Orderly at horderly
    rw [hp] at horderly
    exact h.released (by rw [hp]; rfl) horderly
  · exact h.stepped rfl rfl rfl hclock

end DispatchCall

/-! ### Any number of calls -/

namespace DispatchWorld

variable {s : DispatchWorld} {input : DispatchInput} {now : ℚ} {nodeId : String}

/-- An input whose step is orderly for the call it is about. -/
def Orderly (s : DispatchWorld) : DispatchInput → Prop
  | .submit _ _ _ => True
  | .move i m => ∀ c ∈ s.calls.get? i, c.Orderly s.leases m

/-- What orderly steps keep. -/
structure Sound (s : DispatchWorld) : Prop where
  stacked : s.leases.StackedLeases
  calls : ∀ i c, s.calls.get? i = some c → c.Sound s.leases s.clock
  /-- No two calls are bound to one lease. -/
  apart : ∀ i j ci cj leaseId li lj, s.calls.get? i = some ci → s.calls.get? j = some cj →
    ci.phase.holds = some (leaseId, li) → cj.phase.holds = some (leaseId, lj) → i = j
  /-- The limit of a lease is that of a call. -/
  limits : ∀ leaseId row, s.leases.get? leaseId = some row → ∃ i c, s.calls.get? i = some c ∧
    row.capacityLimit = c.request.capacityLimit.toNat

theorem Sound.start : Sound {} :=
  ⟨fun _ => trivial, fun _ _ hget => (nomatch hget), fun _ _ _ _ _ _ _ hget => (nomatch hget), fun _ _ hget => (nomatch hget)⟩

theorem Sound.submit (h : Sound s) {i : ℕ} (dispatcher : Dispatcher) (request : DispatchRequest) :
    Sound (s.step (.submit i dispatcher request)) := by
  unfold DispatchWorld.step
  dsimp only
  split
  · exact h
  · rename_i hnew
    have hother : ∀ j d, s.calls.get? j = some d → j ≠ i := by
      rintro j d hget rfl
      rw [contains, hget] at hnew
      exact hnew rfl
    refine ⟨h.stacked, fun j d hget => ?_, fun j k cj ck leaseId lj lk hj hk hholds hholds' => ?_, fun leaseId row hget => ?_⟩
    · rcases get?_set_eq_some.mp hget with ⟨-, rfl⟩ | ⟨-, hget⟩
      · exact ⟨by rintro leaseId lease ⟨⟩, by rintro leaseId ⟨⟩⟩
      · exact h.calls j d hget
    · rw [get?_set] at hj hk
      split at hj
      · obtain rfl := some.inj hj
        cases hholds
      · split at hk
        · obtain rfl := some.inj hk
          cases hholds'
        · exact h.apart j k cj ck leaseId lj lk hj hk hholds hholds'
    · obtain ⟨j, d, hget', hlimit⟩ := h.limits leaseId row hget
      exact ⟨j, d, (get?_set_of_ne _ (hother j d hget') _).trans hget', hlimit⟩

/-- **An orderly step of a call** keeps what the others rely on. -/
theorem Sound.moved (h : Sound s) {i : ℕ} {c c' : DispatchCall} {t' : LeaseTable} {clock' : ℚ}
    (hget : s.calls.get? i = some c) (hclock : s.clock ≤ clock')
    (hstep : DispatchCall.Stepped s.leases s.clock c t' clock' c') :
    Sound { leases := t', calls := s.calls.set i c', clock := clock' } := by
  obtain ⟨now, hnow, hev, hkeeps⟩ := hstep.evolves
  -- the lease of another call is not that of this one, so it is only swept
  have hframe : ∀ j d, s.calls.get? j = some d → j ≠ i → d.Sound t' clock' := fun j d hj hne =>
    (h.calls j d hj).frame hev (fun leaseId lease row hholds hrow =>
      hkeeps leaseId row hrow fun lease' hholds' => hne (h.apart j i d c leaseId lease lease' hj hget hholds hholds'))
      hclock hnow
  have hapart : ∀ j d leaseId l l', s.calls.get? j = some d → j ≠ i → c'.phase.holds = some (leaseId, l) →
      d.phase.holds ≠ some (leaseId, l') := by
    intro j d leaseId l l' hj hne hholds hholds'
    rcases hstep.holds leaseId l hholds with ⟨before, hbefore⟩ | hfresh
    · exact hne (h.apart j i d c leaseId l' before hj hget hholds' hbefore)
    · obtain ⟨row, hrow, -⟩ := ((h.calls j d hj).held leaseId l' hholds').2.1
      rw [hfresh] at hrow
      cases hrow
  refine ⟨h.stacked.evolves hev, fun j d hj => ?_, fun j k cj ck leaseId lj lk hj hk hholds hholds' => ?_,
    fun leaseId row hrow => ?_⟩
  · rcases get?_set_eq_some.mp hj with ⟨-, rfl⟩ | ⟨hne, hj⟩
    · exact hstep.sound
    · exact hframe j d hj hne
  · rw [get?_set] at hj hk
    split at hj
    · rename_i hji
      obtain rfl := some.inj hj
      split at hk
      · rename_i hki
        exact hji.trans hki.symm
      · rename_i hki
        exact absurd hholds' (hapart k ck leaseId lj lk hk hki hholds)
    · rename_i hji
      split at hk
      · obtain rfl := some.inj hk
        exact absurd hholds (hapart j cj leaseId lk lj hj hji hholds')
      · exact h.apart j k cj ck leaseId lj lk hj hk hholds hholds'
  · have hlimit : ∃ j d, s.calls.get? j = some d ∧ row.capacityLimit = d.request.capacityLimit.toNat := by
      cases hbefore : s.leases.get? leaseId with
      | none => exact ⟨i, c, hget, hstep.limits leaseId row hrow hbefore⟩
      | some prior =>
        obtain ⟨row', hrow', hbecomes⟩ := hev.becomes hbefore
        obtain rfl := some.inj (hrow.symm.trans hrow')
        obtain ⟨j, d, hj, heq⟩ := h.limits leaseId prior hbefore
        exact ⟨j, d, hj, hbecomes.granted.2.2.2.2.1.trans heq⟩
    obtain ⟨j, d, hj, heq⟩ := hlimit
    by_cases hji : j = i
    · subst hji
      obtain rfl := some.inj (hget.symm.trans hj)
      exact ⟨j, c', get?_set_self _ _ _, by rw [hstep.request]; exact heq⟩
    · exact ⟨j, d, (get?_set_of_ne _ hji _).trans hj, heq⟩

theorem Sound.step (h : Sound s) (horderly : s.Orderly input) : Sound (s.step input) := by
  cases input with
  | submit i dispatcher request => exact h.submit dispatcher request
  | move i m =>
    unfold DispatchWorld.step
    dsimp only
    cases hget : s.calls.get? i with
    | none => exact h
    | some c =>
      exact h.moved hget (DispatchCall.le_clockAfter s.clock m) ((h.calls i c hget).step (horderly c hget))

/-! ### What the invariant promises -/

/-- The leases of the executor calls that run on a node, with their slots. -/
def runningLeases (s : DispatchWorld) (nodeId : String) (now : ℚ) : List (String × ℕ) :=
  s.calls.select fun _ c =>
    match c.phase with
    | .running leaseId lease =>
      if lease.nodeId = nodeId ∧ now < lease.expiresAt then some (leaseId, c.request.requestedSlots.toNat) else none
    | _ => none

/-- The alive leases of a node, with their slots. -/
def aliveLeases (s : DispatchWorld) (nodeId : String) (now : ℚ) : List (String × ℕ) :=
  s.leases.select fun leaseId lease =>
    if lease.nodeId = nodeId ∧ lease.alive now = true then some (leaseId, lease.requestedSlots) else none

theorem map_runningLeases (s : DispatchWorld) (nodeId : String) (now : ℚ) :
    (s.runningLeases nodeId now).map Prod.snd = s.runningOn nodeId now := by
  rw [runningLeases, map_select, runningOn]
  congr 1
  funext _ c
  cases c.phase with
  | running leaseId lease =>
    dsimp only
    split <;> rfl
  | _ => rfl

theorem map_aliveLeases (s : DispatchWorld) (nodeId : String) (now : ℚ) :
    (s.aliveLeases nodeId now).map Prod.snd = (s.leases.aliveOn nodeId now).map NodeLease.requestedSlots := by
  rw [aliveLeases, map_select, aliveOn, map_select]
  congr 1
  funext _ lease
  split <;> rfl

theorem Sound.nodup_running (h : Sound s) : (s.runningLeases nodeId now).Nodup := by
  refine nodup_select fun i j ci cj entry hi hj hci hcj => ?_
  have hbound : ∀ c : DispatchCall, (match c.phase with
      | .running leaseId lease =>
        if lease.nodeId = nodeId ∧ now < lease.expiresAt then some (leaseId, c.request.requestedSlots.toNat) else none
      | _ => none) = some entry → ∃ lease, c.phase.holds = some (entry.1, lease) := by
    intro c hc
    cases hp : c.phase with
    | running leaseId lease =>
      rw [hp] at hc
      dsimp only at hc
      split at hc
      · obtain rfl := some.inj hc
        exact ⟨lease, rfl⟩
      · cases hc
    | _ =>
      rw [hp] at hc
      cases hc
  obtain ⟨li, hli⟩ := hbound ci hci
  obtain ⟨lj, hlj⟩ := hbound cj hcj
  exact h.apart i j ci cj entry.1 li lj hi hj hli hlj

/-- An executor call that runs before its lease expires runs under an alive lease. -/
theorem Sound.running_subset (h : Sound s) (hnow : s.clock ≤ now) : s.runningLeases nodeId now ⊆ s.aliveLeases nodeId now := by
  intro entry hmem
  obtain ⟨i, c, hget, hentry⟩ := mem_select_iff.mp hmem
  cases hp : c.phase with
  | running leaseId lease =>
    rw [hp] at hentry
    dsimp only at hentry
    split at hentry
    · rename_i hin
      obtain rfl := some.inj hentry
      obtain ⟨-, ⟨row, hrow, hnode, hslots, hexpires, halive⟩, hrequest⟩ :=
        (h.calls i c hget).held leaseId lease (by rw [hp]; rfl)
      have hlt : now < row.expiresAt := hexpires ▸ hin.2
      have hactive : row.status = .active := halive.resolve_right (not_le.mpr (hnow.trans_lt hlt))
      refine mem_select_iff.mpr ⟨leaseId, row, hrow, ?_⟩
      rw [if_pos ⟨hnode.trans hin.1, NodeLease.alive_iff.mpr ⟨hactive, hlt⟩⟩, hslots, hrequest]
    · cases hentry
  | _ =>
    rw [hp] at hentry
    cases hentry

/-- **The executor calls on a node fit within the common limit.** -/
theorem Sound.within (h : Sound s) {limit : ℤ} (hlimit : ∀ i c, s.calls.get? i = some c → c.request.capacityLimit = limit)
    (hnow : s.clock ≤ now) : (s.runningOn nodeId now).sum ≤ limit.toNat := by
  have hsum : (s.runningOn nodeId now).sum ≤ ((s.leases.aliveOn nodeId now).map NodeLease.requestedSlots).sum := by
    obtain ⟨l, hperm, hsub⟩ := List.subperm_of_subset h.nodup_running ((@DispatchWorld.Sound.running_subset _ _ nodeId) h hnow)
    rw [← map_runningLeases, ← map_aliveLeases, ← (hperm.map Prod.snd).sum_eq]
    exact (hsub.map Prod.snd).sum_le_sum fun _ _ => Nat.zero_le _
  refine hsum.trans ?_
  cases hlast : (s.leases.aliveOn nodeId now).getLast? with
  | none =>
    rw [List.getLast?_eq_none_iff.mp hlast]
    exact Nat.zero_le _
  | some last =>
    refine (h.stacked.sum_le hlast).trans (le_of_eq ?_)
    obtain ⟨leaseId, row, hrow, hentry⟩ := mem_select_iff.mp (List.mem_of_getLast? hlast)
    split at hentry
    · obtain rfl := some.inj hentry
      obtain ⟨i, c, hget, heq⟩ := h.limits leaseId row hrow
      rw [heq, hlimit i c hget]
    · cases hentry

theorem Sound.ownLease (h : Sound s) : OwnLease s := by
  refine ⟨fun i j ci cj leaseId li lj hi hj hci hcj => ?_, fun limit hlimit nodeId now hnow => h.within hlimit hnow,
    fun i c outcome hget hdone leaseId hmem lease hlease => ?_⟩
  · exact h.apart i j ci cj leaseId li lj hi hj (by rw [hci]; rfl) (by rw [hcj]; rfl)
  · obtain ⟨row, hrow, hstatus⟩ := (h.calls i c hget).reserved leaseId hmem
    obtain rfl := some.inj (hlease.symm.trans hrow)
    rw [hdone] at hstatus
    exact hstatus.resolve_right fun ⟨_, hholds⟩ => (nomatch hholds)

end DispatchWorld

/-- **Dispatches run under their own leases** in every state of an orderly run. -/
theorem own_leases (inputs : List DispatchInput) (horderly : Run.Along DispatchWorld.step DispatchWorld.Orderly {} inputs) :
    DispatchWorld.OwnLease (Run.exec DispatchWorld.step {} inputs) :=
  (Run.exec_of_along DispatchWorld.Sound (fun _ _ h hnow => h.step hnow) DispatchWorld.Sound.start horderly).ownLease

/-! ### Runs -/

/-- A dispatcher that tries once. -/
def singleDispatcher : Dispatcher where
  retryable _ := false
  bounds := by decide

def oneDispatch (idempotencyKey : String) : DispatchRequest where
  sessionId := "session"
  turnId := "turn"
  modelId := "model"
  idempotencyKey := idempotencyKey

def takeAll : DispatchSink := fun _ => .ok ()

/-- A call up to the start of its executor. -/
def startDispatch (i : ℕ) (idempotencyKey hex : String) (now : ℚ) : List DispatchInput :=
  [.submit i singleDispatcher (oneDispatch idempotencyKey), .move i (.enter false),
    .move i (.route false [⟨"node", true⟩]), .move i (.reserve false oneNode quietSink takeAll hex now),
    .move i (.announce takeAll)]

/-- Its executor's answer and the release of its lease. -/
def finishDispatch (i : ℕ) (now : ℚ) : List DispatchInput :=
  [.move i (.answer (.object ⟨some "node", none⟩) false takeAll), .move i (.release quietSink now)]

instance (t : LeaseTable) (c : DispatchCall) (m : DispatchMove) : Decidable (c.Orderly t m) := by
  unfold DispatchCall.Orderly
  split <;> infer_instance

instance (s : DispatchWorld) : (input : DispatchInput) → Decidable (s.Orderly input)
  | .submit _ _ _ => inferInstanceAs (Decidable True)
  | .move i m => inferInstanceAs (Decidable (∀ c ∈ s.calls.get? i, c.Orderly s.leases m))

theorem own_leases_twice : DispatchWorld.OwnLease (Run.exec DispatchWorld.step {}
      (startDispatch 0 "a" "1" 0 ++ finishDispatch 0 1 ++ startDispatch 1 "b" "2" 2)) :=
  own_leases _ (by decide)

/-- The state in which the first of two calls with one key runs and the second is about to reserve. -/
def reservingTwice : DispatchWorld :=
  Run.exec DispatchWorld.step {} (startDispatch 0 "key" "1" 0 ++ (startDispatch 1 "key" "2" 1).take 3)

/-- What both calls ask for. -/
def keyedRequest : LeaseRequest := (oneDispatch "key").leaseRequest "node" 0

/-- The second call before it reserves, and after. -/
def reservingCall : DispatchCall where
  dispatcher := singleDispatcher
  request := oneDispatch "key"
  phase := .reserving ["node"] false
  excluded := []

def holdingCall : DispatchCall :=
  { reservingCall with
    reservedIds := ["lease_1"], attempt := 1, phase := .reserved "lease_1" (keyedRequest.granted 0) }

theorem reserve_reservingTwice : reservingTwice.leases.reserve oneNode quietSink keyedRequest "2" 1
    = .ok (("lease_1", keyedRequest.granted 0), reservingTwice.leases) := by
  have hleases : reservingTwice.leases.entries = [("lease_1", keyedRequest.granted 0)] := rfl
  exact reserve_of_existing (by decide +kernel) (by decide +kernel)
    (hleases ▸ List.forall_mem_singleton.mpr (by decide +kernel)) (by unfold existing; rw [hleases]; rfl) rfl

theorem exec_startDispatch_twice :
    Run.exec DispatchWorld.step {} (startDispatch 0 "key" "1" 0 ++ startDispatch 1 "key" "2" 1)
      = DispatchWorld.step ⟨reservingTwice.leases, reservingTwice.calls.set 1 holdingCall, 1⟩
          (.move 1 (.announce takeAll)) := by
  have hcall : reservingTwice.calls.get? 1 = some reservingCall := rfl
  have hreserve : reservingCall.reserve reservingTwice.leases false oneNode quietSink takeAll "2" 1 ["node"] false
      = (holdingCall, reservingTwice.leases) := by
    show (reservingCall.reserveAnswered takeAll "node" []
        (reservingTwice.leases.reserve oneNode quietSink keyedRequest "2" 1),
      committed _ (reservingTwice.leases.reserve oneNode quietSink keyedRequest "2" 1)) = _
    rw [reserve_reservingTwice]
    rfl
  have hstep : reservingTwice.step (.move 1 (.reserve false oneNode quietSink takeAll "2" 1))
      = ⟨reservingTwice.leases, reservingTwice.calls.set 1 holdingCall, 1⟩ := by
    unfold DispatchWorld.step
    dsimp only
    rw [hcall, show DispatchWorld.clockAfter reservingTwice.clock _ = 1 by decide]
    show DispatchWorld.mk (reservingCall.reserve _ false oneNode quietSink takeAll "2" 1 ["node"] false).2
      (reservingTwice.calls.set 1 (reservingCall.reserve _ false oneNode quietSink takeAll "2" 1 ["node"] false).1) 1 = _
    rw [hreserve]
  exact congrArg (fun s => DispatchWorld.step s (.move 1 (.announce takeAll))) hstep

/-- **Two calls with one key** run under one lease, and the slots of their executors exceed the limit. -/
theorem shared_lease :
    let s := Run.exec DispatchWorld.step {} (startDispatch 0 "key" "1" 0 ++ startDispatch 1 "key" "2" 1)
    s.runningLeases "node" 1 = [("lease_1", 1), ("lease_1", 1)] ∧ ¬DispatchWorld.OwnLease s := by
  rw [exec_startDispatch_twice]
  intro s
  have hrunning : s.runningLeases "node" 1 = [("lease_1", 1), ("lease_1", 1)] := by decide +kernel
  refine ⟨hrunning, fun h => ?_⟩
  have hclock : s.clock ≤ 1 := by decide +kernel
  have hcalls : ∀ e ∈ s.calls.entries, e.2.request.capacityLimit = 1 := by decide +kernel
  have hsum := h.within 1 (fun i c hget => hcalls (i, c) ((s.calls.mem_entries_iff i c).mpr hget)) "node" 1 hclock
  rw [← DispatchWorld.map_runningLeases, hrunning] at hsum
  exact absurd hsum (by decide)

end ComputeMesh.Platform
