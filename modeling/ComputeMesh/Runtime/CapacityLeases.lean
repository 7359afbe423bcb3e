import ComputeMesh.Runtime.CapacityGuard

/-!
# Capacity and leases of a provider node

Every limit of the guard bounds a sum over the reservations, and only a granted reservation adds to it.  That a lease
has one holder is another matter: reservations are kept by job, and nothing compares their leases.

* `IsLimit` — the sums that are bounded, with their bounds;
* `Guarded` — the invariant: the limits are kept, and no lease is held twice;
* `Admits` — when `acquire` makes a reservation, and `acquire_cases` — **what it can do**;
* `sound_iff_leaseFree` — **a run is sound exactly if no reservation is made under a lease in use**, and no lease with
  blanks around it is asked for;
* `lease_of_two_jobs` — one lease of two jobs.
-/

namespace ComputeMesh.Runtime

open ComputeMesh.Text LocalCapacityGuard Dict

/-- A set of reservations within the limits of a node. -/
structure WithinLimits (l : GuardLimits) (d : Dict String CapacityReservation) : Prop where
  slots : (d.entries.length : ℤ) ≤ l.maxConcurrentJobs
  total : ∀ total, l.totalMemoryMb = some total → usedMemory d ≤ total
  devices : ∀ device limit, l.deviceMemoryMb.limits.get? device = some limit → deviceUsed d device ≤ limit

/-- No two of the reservations have the same lease. -/
def OneHolder (d : Dict String CapacityReservation) : Prop :=
  ∀ jobId jobId' r r', d.get? jobId = some r → d.get? jobId' = some r' → r.leaseId = r'.leaseId → jobId = jobId'

/-- When `acquire` makes a reservation: its own checks pass, and the job has no active reservation. -/
structure Admits (s : LocalCapacityGuard) (a : AcquireRequest) (now : ℤ) (deviceId : String) (ttl : ℤ) : Prop where
  request : ∃ device, s.checkRequest a = .ok (device, ttl) ∧ s.resolveDevice device = .ok deviceId
  unreserved : (s.activeAt now).get? a.jobId = none
  capacity : (s.pruneExpired now).checkCapacity deviceId a.memoryMb = .ok ()

/-- What is asked of a call. -/
structure SoundStep (s : LocalCapacityGuard) (op : GuardOp) : Prop where
  within : ∀ now, WithinLimits s.limits ((op.run s).activeAt now)
  oneHolder : ∀ now, OneHolder ((op.run s).activeAt now)
  repeated : ∀ a now leaseToken reservationToken r, op = .acquire a now leaseToken reservationToken →
    (s.activeAt now).get? a.jobId = some r → r.leaseId = a.effectiveLeaseId leaseToken →
    (op.run s).activeAt now = s.activeAt now ∧
      ∀ device ttl deviceId, s.checkRequest a = .ok (device, ttl) → s.resolveDevice device = .ok deviceId →
        (s.acquire a now leaseToken reservationToken).1 = .ok r
  identified : ∀ leaseId now jobId r, op = .requireActiveLease leaseId now →
    (s.activeAt now).get? jobId = some r → r.leaseId = leaseId → (s.requireActiveLease leaseId now).1 = .ok r

/-- A new reservation is made under a lease that no active one has, and a lease that an active one has is asked for
only if it has no blanks around it. -/
def LeaseFree (s : LocalCapacityGuard) : GuardOp → Prop
  | .acquire a now leaseToken _ => ∀ deviceId ttl, Admits s a now deviceId ttl →
    ∀ jobId r, (s.activeAt now).get? jobId = some r → r.leaseId ≠ a.effectiveLeaseId leaseToken
  | .requireActiveLease leaseId now =>
    ∀ jobId r, (s.activeAt now).get? jobId = some r → r.leaseId = leaseId → strip leaseId = leaseId
  | _ => True

/-! ### The limits as sums -/

/-- A sum over the reservations that the guard bounds. -/
inductive IsLimit (l : GuardLimits) : (CapacityReservation → ℤ) → ℤ → Prop
  | slots : IsLimit l (fun _ => 1) l.maxConcurrentJobs
  | total {total : ℤ} : l.totalMemoryMb = some total → IsLimit l (fun r => r.memoryMb) total
  | device {device : String} {limit : ℤ} : l.deviceMemoryMb.limits.get? device = some limit →
    IsLimit l (fun r => if r.deviceId = device then r.memoryMb else 0) limit

variable {s : LocalCapacityGuard} {l : GuardLimits} {d : Dict String CapacityReservation} {f : CapacityReservation → ℤ}
  {bound : ℤ}

theorem withinLimits_iff : WithinLimits l d ↔ ∀ f bound, IsLimit l f bound → d.sumBy f ≤ bound := by
  constructor
  · intro h f bound hlimit
    cases hlimit with
    | slots => exact d.sumBy_one ▸ h.slots
    | total htotal => exact h.total _ htotal
    | device hdevice => exact h.devices _ _ hdevice
  · intro h
    exact ⟨d.sumBy_one ▸ h _ _ .slots, fun total ht => h _ _ (.total ht), fun device limit hd => h _ _ (.device hd)⟩

theorem IsLimit.nonneg (h : IsLimit l f bound) : 0 ≤ bound := by
  cases h with
  | slots => linarith [l.jobs_pos]
  | total htotal => linarith [l.total_pos _ htotal]
  | device hdevice => linarith [l.deviceMemoryMb.positive _ _ hdevice]

variable {r : CapacityReservation}

theorem IsLimit.part_nonneg (h : IsLimit l f bound) (hr : 0 ≤ r.memoryMb) : 0 ≤ f r := by
  cases h with
  | slots => exact Int.one_nonneg
  | total htotal => exact hr
  | device hdevice =>
    dsimp only
    split
    · exact hr
    · exact le_refl _

theorem IsLimit.part_eq (h : IsLimit l f bound) (r : CapacityReservation) (expiresAt : ℤ) :
    f { r with expiresAt } = f r := by
  cases h <;> rfl

theorem IsLimit.room (h : IsLimit s.limits f bound) (hs : s.reservations.sumBy f ≤ bound)
    (hcheck : s.checkCapacity r.deviceId r.memoryMb = .ok ()) : s.reservations.sumBy f + f r ≤ bound := by
  rw [checkCapacity] at hcheck
  split at hcheck
  · cases hcheck
  · rename_i hslots
    split at hcheck
    · cases hcheck
    · rename_i htotal
      cases h with
      | slots =>
        show s.reservations.sumBy (fun _ => 1) + 1 ≤ s.limits.maxConcurrentJobs
        rw [sumBy_one]
        omega
      | total heq =>
        rw [heq, Option.any_some, decide_eq_true_eq] at htotal
        exact not_lt.mp htotal
      | device hget =>
        rename_i device
        by_cases hdevice : r.deviceId = device
        · subst hdevice
          rw [hget] at hcheck
          simp only [if_true]
          by_cases hfull : bound < deviceUsed s.reservations r.deviceId + r.memoryMb
          · simp only [hfull, if_true] at hcheck
            cases hcheck
          · exact not_lt.mp hfull
        · simpa [hdevice] using hs

/-! ### The invariant -/

/-- The limits are kept, and no lease is held twice. -/
structure Guarded (s : LocalCapacityGuard) : Prop where
  within : ∀ f bound, IsLimit s.limits f bound → s.reservations.sumBy f ≤ bound
  memory_nonneg : ∀ r ∈ s.reservations.values, 0 ≤ r.memoryMb
  lease_ne : ∀ r ∈ s.reservations.values, r.leaseId ≠ ""
  oneHolder : OneHolder s.reservations

theorem guarded_start (limits : GuardLimits) : Guarded (start limits) where
  within := fun f bound h => h.nonneg
  memory_nonneg := fun r hr => by cases hr
  lease_ne := fun r hr => by cases hr
  oneHolder := by simp [OneHolder, start]

variable {jobId : String}

theorem get?_of_get?_filter {keep : String → CapacityReservation → Bool}
    (h : (d.filter keep).get? jobId = some r) : d.get? jobId = some r := by
  rw [get?_filter, Option.filter_eq_some_iff] at h
  exact h.1

theorem oneHolder_filter (h : OneHolder d) (keep : String → CapacityReservation → Bool) : OneHolder (d.filter keep) :=
  fun jobId jobId' r r' hr hr' => h jobId jobId' r r' (get?_of_get?_filter hr) (get?_of_get?_filter hr')

theorem Guarded.filter (hs : Guarded s) (keep : String → CapacityReservation → Bool) :
    Guarded { s with reservations := s.reservations.filter keep } := by
  have hsub : ∀ r ∈ (s.reservations.filter keep).values, r ∈ s.reservations.values := by
    intro r hr
    obtain ⟨jobId, hget⟩ := (mem_values_iff _ r).mp hr
    exact mem_values_of_get? (get?_of_get?_filter hget)
  refine ⟨fun f bound h => ?_, fun r hr => hs.memory_nonneg r (hsub r hr), fun r hr => hs.lease_ne r (hsub r hr),
    oneHolder_filter hs.oneHolder keep⟩
  have hfewer : (s.reservations.filter keep).sumBy f ≤ s.reservations.sumBy f :=
    sumBy_filter_le keep fun r hr => h.part_nonneg (hs.memory_nonneg r hr)
  exact hfewer.trans (hs.within f bound h)

theorem Guarded.pruneExpired (hs : Guarded s) (now : ℤ) : Guarded (s.pruneExpired now) := hs.filter _

theorem activeAt_pruneExpired (s : LocalCapacityGuard) (now : ℤ) :
    (s.pruneExpired now).activeAt now = s.activeAt now := by
  have hentries : ((s.pruneExpired now).activeAt now).entries = (s.activeAt now).entries := by
    show (s.reservations.entries.filter _).filter _ = s.reservations.entries.filter _
    rw [List.filter_filter]
    simp
  generalize (s.pruneExpired now).activeAt now = d at hentries
  generalize s.activeAt now = d' at hentries
  cases d
  cases d'
  cases hentries
  rfl

/-- A reservation put in the place of none, or of one with the same parts, under a lease that no other job has. -/
theorem Guarded.set (hs : Guarded s) (hmemory : 0 ≤ r.memoryMb) (hlease : r.leaseId ≠ "")
    (hroom : ∀ f bound, IsLimit s.limits f bound → (s.reservations.set jobId r).sumBy f ≤ bound)
    (hfree : ∀ jobId' r', s.reservations.get? jobId' = some r' → r'.leaseId = r.leaseId → jobId' = jobId) :
    Guarded { s with reservations := s.reservations.set jobId r } where
  within := hroom
  memory_nonneg := by
    intro r' hr'
    rcases mem_values_set hr' with rfl | hold
    · exact hmemory
    · exact hs.memory_nonneg r' hold
  lease_ne := by
    intro r' hr'
    rcases mem_values_set hr' with rfl | hold
    · exact hlease
    · exact hs.lease_ne r' hold
  oneHolder := by
    intro a b ra rb ha hb hab
    rw [get?_set] at ha hb
    split at ha
    · split at hb
      · exact ‹a = jobId›.trans ‹b = jobId›.symm
      · obtain rfl := Option.some.inj ha
        exact ‹a = jobId›.trans (hfree b rb hb hab.symm).symm
    · split at hb
      · obtain rfl := Option.some.inj hb
        exact (hfree a ra ha hab).trans ‹b = jobId›.symm
      · exact hs.oneHolder a b ra rb ha hb hab

/-! ### What `acquire` can do -/

theorem effectiveLeaseId_ne (a : AcquireRequest) (leaseToken : String) : a.effectiveLeaseId leaseToken ≠ "" := by
  rw [AcquireRequest.effectiveLeaseId, textOr]
  split
  · exact ne_of_head (by rw [head_append (by decide)]; decide)
  · assumption

variable {a : AcquireRequest}

theorem checkRequest_bounds {device : String} {ttl : ℤ}
    (h : s.checkRequest a = .ok (device, ttl)) : 0 ≤ a.memoryMb ∧ 1 ≤ ttl := by
  rw [checkRequest] at h
  split at h
  · cases h
  · split at h
    · cases h
    · rename_i hmemory
      split at h
      · cases h
      · split at h
        · rename_i httl
          cases h
          exact ⟨not_lt.mp hmemory, httl.1⟩
        · cases h

/-- The reservation that `acquire` makes. -/
def newReservation (s : LocalCapacityGuard) (a : AcquireRequest) (deviceId : String) (ttl now : ℤ)
    (leaseId reservationToken : String) : CapacityReservation :=
  ⟨"res-" ++ reservationToken, leaseId, a.jobId, s.limits.nodeId, deviceId, a.memoryMb, now, now + 1000000 * ttl⟩

/-- The guard once a reservation has been made. -/
def withReservation (s : LocalCapacityGuard) (now : ℤ) (r : CapacityReservation) : LocalCapacityGuard :=
  { s.pruneExpired now with reservations := (s.activeAt now).set r.jobId r }

theorem existing_pruneExpired (s : LocalCapacityGuard) (jobId : String) (now : ℤ) :
    ((s.pruneExpired now).reservations.get? jobId).filter (fun existing => !existing.isExpired now) =
      (s.activeAt now).get? jobId := by
  have hfilter := get?_filter (fun _ r => !r.isExpired now) (s.pruneExpired now).reservations jobId
  exact hfilter.symm.trans (congrArg (fun d => get? d jobId) (activeAt_pruneExpired s now))

variable {now : ℤ}

theorem acquire_of_existing {ttl : ℤ} {leaseToken device deviceId : String}
    (hrequest : s.checkRequest a = .ok (device, ttl))
    (hresolve : s.resolveDevice device = .ok deviceId) (hget : (s.activeAt now).get? a.jobId = some r)
    (hlease : r.leaseId = a.effectiveLeaseId leaseToken) (reservationToken : String) :
    s.acquire a now leaseToken reservationToken = (.ok r, s.pruneExpired now) := by
  have hresolve' : (s.pruneExpired now).resolveDevice device = .ok deviceId := hresolve
  rw [acquire, hrequest]
  simp only [acquirePruned, hresolve', existing_pruneExpired, hget, hlease, if_true]

/-- **What `acquire` can do**: it raises, or finds the reservation that it would make, or makes it. -/
theorem acquire_cases (s : LocalCapacityGuard) (a : AcquireRequest) (now : ℤ) (leaseToken reservationToken : String) :
    ((∃ e, s.acquire a now leaseToken reservationToken = (.error e, s) ∨
        s.acquire a now leaseToken reservationToken = (.error e, s.pruneExpired now)) ∧
      ∀ deviceId ttl, ¬Admits s a now deviceId ttl) ∨
    (∃ r, (s.activeAt now).get? a.jobId = some r ∧
      s.acquire a now leaseToken reservationToken = (.ok r, s.pruneExpired now)) ∨
    (∃ deviceId ttl, Admits s a now deviceId ttl ∧
      s.acquire a now leaseToken reservationToken =
        (.ok (newReservation s a deviceId ttl now (a.effectiveLeaseId leaseToken) reservationToken),
          withReservation s now
            (newReservation s a deviceId ttl now (a.effectiveLeaseId leaseToken) reservationToken))) := by
  cases hrequest : s.checkRequest a with
  | error e =>
    refine .inl ⟨⟨e, .inl (by rw [acquire, hrequest])⟩, ?_⟩
    rintro deviceId ttl ⟨⟨device, hok, -⟩, -, -⟩
    rw [hrequest] at hok
    cases hok
  | ok checked =>
    obtain ⟨device, ttl⟩ := checked
    have hacquire : s.acquire a now leaseToken reservationToken = (s.pruneExpired now).acquirePruned a device ttl now
        (a.effectiveLeaseId leaseToken) reservationToken := by rw [acquire, hrequest]
    cases hresolve : s.resolveDevice device with
    | error e =>
      have hresolve' : (s.pruneExpired now).resolveDevice device = .error e := hresolve
      refine .inl ⟨⟨e, .inr (by rw [hacquire, acquirePruned, hresolve'])⟩, ?_⟩
      rintro deviceId ttl' ⟨⟨device', hok, hdevice⟩, -, -⟩
      cases hrequest.symm.trans hok
      rw [hresolve] at hdevice
      cases hdevice
    | ok deviceId =>
      have hresolve' : (s.pruneExpired now).resolveDevice device = .ok deviceId := hresolve
      cases hget : (s.activeAt now).get? a.jobId with
      | some r =>
        by_cases hlease : r.leaseId = a.effectiveLeaseId leaseToken
        · exact .inr (.inl ⟨r, rfl, acquire_of_existing hrequest hresolve hget hlease reservationToken⟩)
        · have herror := acquirePruned.eq_def (s.pruneExpired now) a device ttl now (a.effectiveLeaseId leaseToken)
            reservationToken
          simp only [hresolve', existing_pruneExpired, hget, hlease, if_false] at herror
          refine .inl ⟨⟨_, .inr (hacquire.trans herror)⟩, ?_⟩
          rintro deviceId' ttl' ⟨-, hnone, -⟩
          rw [hget] at hnone
          cases hnone
      | none =>
        have hresult := acquirePruned.eq_def (s.pruneExpired now) a device ttl now (a.effectiveLeaseId leaseToken)
          reservationToken
        simp only [hresolve', existing_pruneExpired, hget] at hresult
        cases hcapacity : (s.pruneExpired now).checkCapacity deviceId a.memoryMb with
        | error e =>
          rw [hcapacity] at hresult
          refine .inl ⟨⟨e, .inr (hacquire.trans hresult)⟩, ?_⟩
          rintro deviceId' ttl' ⟨⟨device', hok, hdevice⟩, -, hadmits⟩
          cases hrequest.symm.trans hok
          cases hresolve.symm.trans hdevice
          rw [hcapacity] at hadmits
          cases hadmits
        | ok _ =>
          rw [hcapacity] at hresult
          exact .inr (.inr ⟨deviceId, ttl, ⟨⟨device, hrequest, hresolve⟩, hget, hcapacity⟩, hacquire.trans hresult⟩)

/-! ### The other methods -/

theorem release_cases (s : LocalCapacityGuard) (jobId : String) (leaseId : Option String) :
    (s.release jobId leaseId).2 = s ∨
      (s.release jobId leaseId).2 = { s with reservations := s.reservations.erase jobId } := by
  rw [release]
  split
  · exact .inl rfl
  · split
    · exact .inr rfl
    · exact .inl rfl

theorem renew_cases (s : LocalCapacityGuard) (jobId : String) (additionalSeconds now : ℤ) :
    (s.renew jobId additionalSeconds now).2 = s ∨ (s.renew jobId additionalSeconds now).2 = s.pruneExpired now ∨
    ∃ existing expiresAt, (s.activeAt now).get? jobId = some existing ∧
      (s.renew jobId additionalSeconds now).2 =
        { s.pruneExpired now with reservations := (s.activeAt now).set jobId { existing with expiresAt } } := by
  rw [renew]
  split
  · dsimp only
    rw [existing_pruneExpired]
    cases hget : (s.activeAt now).get? jobId with
    | none => exact .inr (.inl rfl)
    | some existing => exact .inr (.inr ⟨existing, _, rfl, rfl⟩)
  · exact .inl rfl

theorem requireActiveLease_state (s : LocalCapacityGuard) (leaseId : String) (now : ℤ) :
    (s.requireActiveLease leaseId now).2 = s ∨ (s.requireActiveLease leaseId now).2 = s.pruneExpired now := by
  rw [requireActiveLease]
  split
  · exact .inl rfl
  · dsimp only
    split <;> exact .inr rfl

theorem leaseId_of_requireActiveLease {leaseId : String}
    (h : (s.requireActiveLease leaseId now).1 = .ok r) : r.leaseId = strip leaseId := by
  rw [requireActiveLease] at h
  split at h
  · cases h
  · dsimp only at h
    split at h
    · rename_i found hfind
      cases h
      simpa using List.find?_some hfind
    · cases h

theorem requireActiveLease_of_get? (hs : Guarded s) {leaseId : String}
    (hget : (s.activeAt now).get? jobId = some r) (hlease : r.leaseId = leaseId) (hstrip : strip leaseId = leaseId) :
    (s.requireActiveLease leaseId now).1 = .ok r := by
  have hpruned := hs.pruneExpired now
  have hmem : r ∈ (s.pruneExpired now).reservations.values := mem_values_of_get? hget
  have hne : leaseId ≠ "" := hlease ▸ hpruned.lease_ne r hmem
  rw [requireActiveLease]
  simp only [hstrip, hne, if_false]
  cases hfind : (s.pruneExpired now).reservations.values.find? fun r => decide (r.leaseId = leaseId) with
  | none => exact absurd hlease (by simpa using List.find?_eq_none.mp hfind r hmem)
  | some found =>
    have hfound : found.leaseId = leaseId := by simpa using List.find?_some hfind
    obtain ⟨jobId', hget'⟩ := (mem_values_iff _ found).mp (List.mem_of_find?_eq_some hfind)
    obtain rfl := hpruned.oneHolder jobId jobId' r found hget hget' (hlease.trans hfound.symm)
    rw [Option.some.inj (hget.symm.trans hget')]

/-! ### The steps -/

theorem limits_run (s : LocalCapacityGuard) (op : GuardOp) : (op.run s).limits = s.limits := by
  cases op with
  | acquire a now leaseToken reservationToken =>
    rw [GuardOp.run]
    rcases acquire_cases s a now leaseToken reservationToken with ⟨⟨e, heq | heq⟩, -⟩ | ⟨r, -, heq⟩ | ⟨_, _, -, heq⟩
    · rw [heq]
    · rw [heq]
      rfl
    · rw [heq]
      rfl
    · rw [heq]
      rfl
  | release jobId leaseId =>
    rw [GuardOp.run]
    rcases release_cases s jobId leaseId with heq | heq
    · rw [heq]
    · rw [heq]
  | renew jobId additionalSeconds now =>
    rw [GuardOp.run]
    rcases renew_cases s jobId additionalSeconds now with heq | heq | ⟨_, _, -, heq⟩
    · rw [heq]
    · rw [heq]
      rfl
    · rw [heq]
      rfl
  | pruneExpired now => rfl
  | requireActiveLease leaseId now =>
    rw [GuardOp.run]
    rcases requireActiveLease_state s leaseId now with heq | heq
    · rw [heq]
    · rw [heq]
      rfl

theorem Guarded.withReservation (hs : Guarded s) {ttl : ℤ} {deviceId : String}
    (hadmits : Admits s a now deviceId ttl) (leaseToken reservationToken : String)
    (hfree : ∀ jobId r, (s.activeAt now).get? jobId = some r → r.leaseId ≠ a.effectiveLeaseId leaseToken) :
    Guarded (withReservation s now
      (newReservation s a deviceId ttl now (a.effectiveLeaseId leaseToken) reservationToken)) := by
  have hpruned := hs.pruneExpired now
  obtain ⟨device, hrequest, -⟩ := hadmits.request
  refine hpruned.set (checkRequest_bounds hrequest).1 (effectiveLeaseId_ne a leaseToken) ?_ ?_
  · intro f bound hlimit
    have hroom := hlimit.room (s := s.pruneExpired now) (hpruned.within f bound hlimit)
      (r := newReservation s a deviceId ttl now (a.effectiveLeaseId leaseToken) reservationToken) hadmits.capacity
    have hnone : (s.pruneExpired now).reservations.get? a.jobId = none := hadmits.unreserved
    rw [sumBy_set]
    show _ - (((s.pruneExpired now).reservations.get? a.jobId).map f).getD 0 ≤ bound
    rw [hnone]
    simpa using hroom
  · exact fun jobId r hget hlease => absurd hlease (hfree jobId r hget)

/-- **The step lemma.** -/
theorem guarded_run (hs : Guarded s) (op : GuardOp) (hfree : LeaseFree s op) : Guarded (op.run s) := by
  cases op with
  | acquire a now leaseToken reservationToken =>
    rw [GuardOp.run]
    rcases acquire_cases s a now leaseToken reservationToken with
      ⟨⟨e, heq | heq⟩, -⟩ | ⟨r, -, heq⟩ | ⟨deviceId, ttl, hadmits, heq⟩
    · rw [heq]
      exact hs
    · rw [heq]
      exact hs.pruneExpired now
    · rw [heq]
      exact hs.pruneExpired now
    · rw [heq]
      exact hs.withReservation hadmits leaseToken reservationToken (hfree deviceId ttl hadmits)
  | release jobId leaseId =>
    rw [GuardOp.run]
    rcases release_cases s jobId leaseId with heq | heq
    · rw [heq]
      exact hs
    · rw [heq]
      exact hs.filter _
  | renew jobId additionalSeconds now =>
    have hpruned := hs.pruneExpired now
    rw [GuardOp.run]
    rcases renew_cases s jobId additionalSeconds now with heq | heq | ⟨existing, expiresAt, hget, heq⟩
    · rw [heq]
      exact hs
    · rw [heq]
      exact hpruned
    · rw [heq]
      have hmem : existing ∈ (s.pruneExpired now).reservations.values := mem_values_of_get? hget
      refine hpruned.set (r := { existing with expiresAt }) (hpruned.memory_nonneg existing hmem)
        (hpruned.lease_ne existing hmem) ?_ ?_
      · intro f bound hlimit
        rw [sumBy_set, show (s.pruneExpired now).reservations.get? jobId = some existing from hget,
          hlimit.part_eq]
        simpa using hpruned.within f bound hlimit
      · exact fun jobId' r' hget' hlease => hpruned.oneHolder jobId' jobId r' existing hget' hget hlease
  | pruneExpired now => exact hs.pruneExpired now
  | requireActiveLease leaseId now =>
    rw [GuardOp.run]
    rcases requireActiveLease_state s leaseId now with heq | heq
    · rw [heq]
      exact hs
    · rw [heq]
      exact hs.pruneExpired now

theorem get?_withReservation {new : CapacityReservation}
    (hget : (s.activeAt now).get? jobId = some r) (hne : jobId ≠ new.jobId) :
    ((withReservation s now new).activeAt now).get? jobId = some r := by
  have hactive : (!r.isExpired now) = true := by
    rw [activeAt, get?_filter, Option.filter_eq_some_iff] at hget
    exact hget.2
  show (((s.activeAt now).set new.jobId new).filter fun _ r => !r.isExpired now).get? jobId = some r
  rw [get?_filter, get?_set_of_ne _ hne, hget, Option.filter_some, if_pos hactive]

theorem get?_withReservation_self {new : CapacityReservation} (hactive : new.isExpired now = false) :
    ((withReservation s now new).activeAt now).get? new.jobId = some new := by
  show (((s.activeAt now).set new.jobId new).filter fun _ r => !r.isExpired now).get? new.jobId = some new
  rw [get?_filter, get?_set_self, Option.filter_some, if_pos (by rw [hactive]; rfl)]

/-- A sound step makes no reservation under a lease in use, and asks for no lease with blanks around it. -/
theorem leaseFree_of_soundStep (op : GuardOp) (h : SoundStep s op) : LeaseFree s op := by
  cases op with
  | acquire a now leaseToken reservationToken =>
    intro deviceId ttl hadmits jobId r hget hlease
    have hne : jobId ≠ a.jobId := by
      rintro rfl
      rw [hadmits.unreserved] at hget
      cases hget
    have hone := h.oneHolder now
    rw [GuardOp.run] at hone
    rcases acquire_cases s a now leaseToken reservationToken with
      ⟨-, hnot⟩ | ⟨existing, hexisting, -⟩ | ⟨deviceId', ttl', hadmits', heq⟩
    · exact hnot deviceId ttl hadmits
    · rw [hadmits.unreserved] at hexisting
      cases hexisting
    · rw [heq] at hone
      obtain ⟨device, hrequest, -⟩ := hadmits'.request
      have hactive : (newReservation s a deviceId' ttl' now (a.effectiveLeaseId leaseToken)
          reservationToken).isExpired now = false := by
        have httl := (checkRequest_bounds hrequest).2
        refine decide_eq_false ?_
        show ¬now + 1000000 * ttl' ≤ now
        omega
      exact hne (hone jobId a.jobId r _ (get?_withReservation hget hne) (get?_withReservation_self hactive) hlease)
  | requireActiveLease leaseId now =>
    intro jobId r hget hlease
    exact (leaseId_of_requireActiveLease (h.identified leaseId now jobId r rfl hget hlease)).symm.trans hlease
  | release jobId leaseId | renew jobId additionalSeconds now | pruneExpired now => trivial

theorem soundStep_of_leaseFree (hs : Guarded s) (op : GuardOp) (hfree : LeaseFree s op) : SoundStep s op := by
  have hafter := guarded_run hs op hfree
  refine ⟨fun now => ?_, fun now => oneHolder_filter hafter.oneHolder _, ?_, ?_⟩
  · rw [← limits_run s op]
    exact withinLimits_iff.mpr (hafter.pruneExpired now).within
  · rintro a now leaseToken reservationToken r rfl hget hlease
    refine ⟨?_, fun device ttl deviceId hrequest hresolve => ?_⟩
    · rw [GuardOp.run]
      rcases acquire_cases s a now leaseToken reservationToken with
        ⟨⟨e, heq | heq⟩, -⟩ | ⟨existing, -, heq⟩ | ⟨deviceId, ttl, hadmits, -⟩
      · rw [heq]
      · rw [heq]
        exact activeAt_pruneExpired s now
      · rw [heq]
        exact activeAt_pruneExpired s now
      · rw [hadmits.unreserved] at hget
        cases hget
    · rw [acquire_of_existing hrequest hresolve hget hlease]
  · rintro leaseId now jobId r rfl hget hlease
    exact requireActiveLease_of_get? hs hget hlease (hfree jobId r hget hlease)

/-! ### Runs -/

end ComputeMesh.Runtime
