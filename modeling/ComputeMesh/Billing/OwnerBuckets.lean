import ComputeMesh.Billing.LedgerRuns
import ComputeMesh.Billing.PostingEffects

/-!
# Are owner buckets covered?

The active unexpired holds of an owner reserve parts of the three buckets.  The rules by which the
operations draw on a bucket (a fresh allocation, the hold's own allocation, an allocation that leaves one
hold out, withdrawable earned credit) are meant to keep what is reserved at most what is there.

They do for every owner whose id does not have the shape `reservationSubject` gives to the sub-accounts of
a confidential reservation.  An owner with such an id shares its bucket accounts with a reservation of
somebody else, who may empty them.
-/

namespace ComputeMesh.Billing

open ComputeMesh.Text Dict OwnerCreditHold

/-- The owner's buckets are the sub-accounts of a reservation. -/
def IsReservationShaped (o : OwnerId) : Prop := ∃ p r, o.val = reservationSubject p r

theorem subAccount_ne_bucket {o : OwnerId} (h : ¬IsReservationShaped o) (p : OwnerId)
    (r : ReservationId) (b c : Bucket) : confidentialReservationAccount p r b ≠ ownerBucketAccount o c :=
  fun heq => h ⟨p, r, (reservationAccount_eq_ownerBucketAccount_iff.mp heq).1⟩

theorem not_isReservationShaped_of_short {o : OwnerId} (h : o.val.toList.length < 50) : ¬IsReservationShaped o := by
  rintro ⟨p, r, heq⟩
  have hlen : (reservationSubject p r).toList.length
      = p.val.toList.length + 26 + (reservationSuffix r.val).toList.length := by
    simp only [reservationSubject, String.toList_append, List.length_append]
    rfl
  rw [heq, hlen, length_reservationSuffix] at h
  omega

/-- What a hold reserves from a bucket of an owner at a time. -/
def OwnerCreditHold.claim (now : ℚ) (owner : OwnerId) (b : Bucket) (h : OwnerCreditHold) : ℤ :=
  if h.ownerId = owner ∧ h.IsActive now then sumAt h.allocations b else 0

namespace OwnerCreditHold

variable {now : ℚ} {owner : OwnerId} {b : Bucket} {h : OwnerCreditHold}

theorem claim_nonneg (hpos : ∀ a ∈ h.allocations, 0 ≤ a.2) : 0 ≤ h.claim now owner b := by
  unfold claim
  split
  · exact sumAt_nonneg fun e he _ => hpos e he
  · exact le_refl 0

theorem claim_le (hpos : ∀ a ∈ h.allocations, 0 ≤ a.2) : h.claim now owner b ≤ sumAt h.allocations b := by
  unfold claim
  split
  · exact le_refl _
  · exact sumAt_nonneg fun e he _ => hpos e he

theorem claim_of_active (hactive : h.IsActive now) : h.claim now h.ownerId b = sumAt h.allocations b :=
  if_pos ⟨rfl, hactive⟩

theorem claim_of_status (hstatus : h.status ≠ .active) : h.claim now owner b = 0 :=
  if_neg fun hc => hstatus hc.2.1

theorem claim_of_ne (hne : h.ownerId ≠ owner) : h.claim now owner b = 0 := if_neg fun hc => hne hc.1

theorem claim_antitone {now' : ℚ} (hpos : ∀ a ∈ h.allocations, 0 ≤ a.2) (hle : now ≤ now') :
    h.claim now' owner b ≤ h.claim now owner b := by
  by_cases hactive : h.IsActive now'
  · have hactive' : h.IsActive now := ⟨hactive.1, lt_of_le_of_lt hle hactive.2⟩
    simp only [claim, hactive, hactive', and_true]
    exact le_refl _
  · have hzero : h.claim now' owner b = 0 := if_neg fun hc => hactive hc.2
    rw [hzero]
    exact claim_nonneg hpos

end OwnerCreditHold

namespace Ledger

theorem reservedByBucket_eq (l : Ledger) (now : ℚ) (owner : OwnerId) (b : Bucket) :
    l.reservedByBucket now owner none b = l.ownerHolds.sumBy (OwnerCreditHold.claim now owner b) := by
  apply sumBy_congr
  intro h _
  refine if_congr ?_ rfl rfl
  simp [Considered, OwnerCreditHold.IsActive, and_assoc]

theorem reservedByBucket_storeOwnerHold (l : Ledger) (key : String) (hold : OwnerCreditHold) (now : ℚ)
    (owner : OwnerId) (b : Bucket) :
    (l.storeOwnerHold key hold).reservedByBucket now owner none b
      = l.reservedByBucket now owner none b + hold.claim now owner b
        - ((l.ownerHolds.get? key).map (OwnerCreditHold.claim now owner b)).getD 0 := by
  rw [reservedByBucket_eq, reservedByBucket_eq]
  exact sumBy_set _ _ _ _

/-- **The invariant**: holds are stored under their own id, reserve nothing negative, and are covered
bucket by bucket for every owner whose accounts are its own. -/
structure OwnerInv (l : Ledger) (now : ℚ) : Prop where
  healthy : l.Healthy
  keys : ∀ k h, l.ownerHolds.get? k = some h → h.holdId = k
  nonneg : ∀ h ∈ l.ownerHolds.values, ∀ a ∈ h.allocations, 0 ≤ a.2
  covered : ∀ o, ¬IsReservationShaped o → ∀ b, l.reservedByBucket now o none b ≤ l.bucketBalance o b

theorem OwnerInv.reserved_nonneg {l : Ledger} {now : ℚ} (h : l.OwnerInv now) (now' : ℚ) (o : OwnerId)
    (b : Bucket) : 0 ≤ l.reservedByBucket now' o none b := by
  rw [reservedByBucket_eq]
  exact sumBy_nonneg fun hold hhold => claim_nonneg (h.nonneg hold hhold)

theorem OwnerInv.mono {l : Ledger} {now now' : ℚ} (h : l.OwnerInv now) (hle : now ≤ now') : l.OwnerInv now' := by
  refine ⟨h.healthy, h.keys, h.nonneg, fun o ho b => le_trans ?_ (h.covered o ho b)⟩
  rw [reservedByBucket_eq, reservedByBucket_eq]
  exact sumBy_le_sumBy fun hold hhold => claim_antitone (h.nonneg hold hhold) hle

theorem OwnerInv.swept {l l₁ : Ledger} {now : ℚ} (h : l.OwnerInv now) (hs : Swept now l l₁) :
    l₁.OwnerInv now ∧ ∀ o b, l₁.reservedByBucket now o none b = l.reservedByBucket now o none b := by
  rcases hs with rfl | ⟨owner, ex, rfl⟩
  · exact ⟨h, fun o b => rfl⟩
  · have hclaim : ∀ o b (hold : OwnerCreditHold), claim now o b
        (if Considered owner ex hold ∧ hold.expiresAt ≤ now then { hold with status := .expired }
          else hold) = hold.claim now o b := by
      intro o b hold
      split
      · rename_i hc
        rw [claim_of_status (by simp)]
        exact (if_neg fun hact => absurd hact.2.2 (not_lt.mpr hc.2)).symm
      · rfl
    have hreserved : ∀ o b, (l.expireOwnerHolds now owner ex).reservedByBucket now o none b
        = l.reservedByBucket now o none b := by
      intro o b
      rw [reservedByBucket_eq, reservedByBucket_eq, expireOwnerHolds, sumBy_mapValues]
      exact sumBy_congr fun hold _ => hclaim o b hold
    refine ⟨⟨h.healthy, fun k hold hk => ?_, fun hold hhold => ?_, fun o ho b => ?_⟩, hreserved⟩
    · rw [expireOwnerHolds, get?_mapValues, Option.map_eq_some_iff] at hk
      obtain ⟨old, hold', rfl⟩ := hk
      have := h.keys k old hold'
      split <;> exact this
    · rw [expireOwnerHolds, values_mapValues, List.mem_map] at hhold
      obtain ⟨old, hmem, rfl⟩ := hhold
      have := h.nonneg old hmem
      split <;> exact this
    · rw [hreserved]
      exact h.covered o ho b

variable {amount : ℤ} {allocations : List (Bucket × ℤ)}

theorem OwnerInv.allocation_le {l : Ledger} {now : ℚ} (h : l.OwnerInv now) {o : OwnerId} (ho : ¬IsReservationShaped o)
    (ha : IsAllocation l now o none amount allocations) (b : Bucket) :
    sumAt allocations b ≤ l.bucketBalance o b - l.reservedByBucket now o none b := by
  have hle := ha.le_available b
  have hcov := h.covered o ho b
  omega

theorem OwnerInv.recorded {l l' : Ledger} {now : ℚ} (h : l.OwnerInv now) {event : String}
    {fs : List PostingFields} (hrec : Recorded l l' event fs)
    (hcover : ∀ o, ¬IsReservationShaped o → ∀ b,
      l.reservedByBucket now o none b ≤ l.bucketBalance o b + netChange fs (ownerBucketAccount o b)) :
    l'.OwnerInv now := by
  obtain ⟨tx, -, hfields, -, rfl⟩ := hrec
  refine ⟨healthy_recorded h.healthy tx, h.keys, h.nonneg, fun o ho b => ?_⟩
  show l.reservedByBucket now o none b ≤ (l.recorded tx).rawBalance (ownerBucketAccount o b)
  rw [rawBalance_recorded, hfields]
  exact hcover o ho b

/-- The postings take nothing from a bucket of an owner with accounts of its own. -/
def LowersNoBucket (fs : List PostingFields) : Prop :=
  ∀ o, ¬IsReservationShaped o → ∀ b, 0 ≤ netChange fs (ownerBucketAccount o b)

variable {event : String} {fs : List PostingFields}

theorem OwnerInv.recorded_of_lowersNoBucket {l l' : Ledger} {now : ℚ} (h : l.OwnerInv now)
    (hrec : Recorded l l' event fs)
    (hfs : LowersNoBucket fs) : l'.OwnerInv now :=
  h.recorded hrec fun o ho b => by
    have hcov := h.covered o ho b
    have hnet := hfs o ho b
    omega

/-- The postings take at most these amounts from the owner's buckets, and nothing from the buckets of
another owner with accounts of its own. -/
def DebitsAtMost (fs : List PostingFields) (owner : OwnerId) (allocations : List (Bucket × ℤ)) : Prop :=
  ∀ o, ¬IsReservationShaped o → ∀ b,
    -(if owner = o then sumAt allocations b else 0) ≤ netChange fs (ownerBucketAccount o b)

/-- **Recording a spend.**  If what the postings take from the buckets of their owner is there, the
invariant holds afterwards. -/
theorem OwnerInv.recorded_spend {l l' : Ledger} {now : ℚ} (h : l.OwnerInv now)
    (hrec : Recorded l l' event fs) {owner : OwnerId}
    (hfs : DebitsAtMost fs owner allocations)
    (hcover : ¬IsReservationShaped owner → ∀ b,
      sumAt allocations b ≤ l.bucketBalance owner b - l.reservedByBucket now owner none b) :
    l'.OwnerInv now :=
  h.recorded hrec fun o ho b => by
    have hnet := hfs o ho b
    have hcov := h.covered o ho b
    split at hnet
    · rename_i heq
      subst heq
      have := hcover ho b
      omega
    · omega

/-! ### The postings of each operation -/

theorem lowersNoBucket_bucketCredit {type : String} (htype : creditIncreases type = false)
    (source : String) (owner : OwnerId) (b : Bucket) (hpos : 0 < amount) :
    LowersNoBucket (bucketCreditPostings source type owner b amount) := by
  intro o _ b'
  rw [netChange_bucketCredit htype]
  split <;> split <;> omega

variable {ds : List CreditDestination}

theorem debitsAtMost_spend (owner : OwnerId)
    (allocations : List (Bucket × ℤ)) (htype : ∀ d ∈ ds, creditIncreases d.accountType = true)
    (hpos : ∀ d ∈ ds, 0 < d.amountMicroUnits) :
    DebitsAtMost (spendPostings owner allocations ds) owner allocations := by
  intro o _ b
  have hcredit := netChange_destinationCredits_nonneg htype hpos (ownerBucketAccount o b)
  rw [netChange_spendPostings, sumAt_bucketMoves]
  omega

theorem debitsAtMost_withdrawalReserve (owner : OwnerId) (amount : ℤ) :
    DebitsAtMost (withdrawalReservePostings owner amount) owner [(.earned, amount)] := by
  intro o _ b
  rw [netChange_withdrawalReserve, if_neg (pendingAccountOf_ne_ownerBucketAccount _ _ _)]
  have hiff : ownerBucketAccount owner .earned = ownerBucketAccount o b ↔ owner = o ∧ .earned = b :=
    ownerBucketAccount_eq_iff
  rw [sumAt_cons, sumAt_nil]
  by_cases h : owner = o ∧ .earned = b
  · rw [if_pos (hiff.mpr h), if_pos h.1, if_pos h.2]
    omega
  · rw [if_neg (fun heq => h (hiff.mp heq))]
    by_cases ho : owner = o
    · rw [if_pos ho, if_neg fun hb => h ⟨ho, hb⟩]
      omega
    · rw [if_neg ho]
      omega

theorem lowersNoBucket_withdrawalFinalize (x : String) (amount : ℤ) :
    LowersNoBucket (withdrawalFinalizePostings x amount) := by
  intro o _ b
  have hescrow : "gateway:escrow" ≠ ownerBucketAccount o b :=
    (ownerBucketAccount_ne_of_head o b (by decide)).symm
  rw [netChange_withdrawalFinalize, if_neg (pendingAccountOf_ne_ownerBucketAccount _ _ _), if_neg hescrow]
  omega

section

variable (owner : OwnerId) (ref : ReservationId)

theorem debitsAtMost_reserve (hpos : ∀ a ∈ allocations, 0 < a.2) :
    DebitsAtMost (reservePostings owner ref allocations) owner allocations := by
  intro o _ b
  have hsub := sumAt_subMoves_nonneg owner ref (fun a ha => (hpos a ha).le) (ownerBucketAccount o b)
  rw [netChange_reservePostings, sumAt_bucketMoves]
  omega

theorem lowersNoBucket_release (hpos : ∀ a ∈ allocations, 0 < a.2) :
    LowersNoBucket (releasePostings owner ref allocations) := by
  intro o ho b
  have hbuckets := sumAt_bucketMoves_nonneg owner (fun a ha => (hpos a ha).le) (ownerBucketAccount o b)
  rw [netChange_releasePostings, sumAt_subMoves_of_ne (fun c => subAccount_ne_bucket ho _ _ _ _)]
  omega

theorem lowersNoBucket_settle (allocations : List (Bucket × ℤ)) (charge : ℤ)
    (htype : ∀ d ∈ ds, creditIncreases d.accountType = true)
    (hpos : ∀ d ∈ ds, 0 < d.amountMicroUnits) :
    LowersNoBucket ((settlePostings owner ref allocations charge).1 ++ destinationCredits ds) := by
  intro o ho b
  have hcredit := netChange_destinationCredits_nonneg htype hpos (ownerBucketAccount o b)
  have hbuckets := sumAt_bucketMoves_nonneg owner (refunds_nonneg allocations charge) (ownerBucketAccount o b)
  rw [netChange_append, netChange_settlePostings, sumAt_subMoves_of_ne (fun c => subAccount_ne_bucket ho _ _ _ _)]
  omega

end

/-! ### Every operation keeps the invariant -/

variable {l : Ledger} {env : Env}

theorem OwnerInv.recorded_allocation {now : ℚ} {l₁ l' : Ledger} (h : l.OwnerInv now)
    (hs : Swept now l l₁) (hrec : Recorded l₁ l' event fs)
    {owner : OwnerId}
    (ha : IsAllocation l now owner none amount allocations)
    (hfs : DebitsAtMost fs owner allocations) : l'.OwnerInv now := by
  obtain ⟨h₁, hreserved⟩ := h.swept hs
  refine h₁.recorded_spend hrec hfs fun ho b => ?_
  rw [hreserved, bucketBalance, hs.rawBalance]
  exact h.allocation_le ho ha b

theorem OwnerInv.bucketDeposit {now : ℚ} {l' : Ledger} (h : l.OwnerInv now) {ownerId : String}
    {b : Bucket} {account type : String} (htype : creditIncreases type = false)
    (hd : IsBucketDeposit l l' ownerId b amount event account type) : l'.OwnerInv now := by
  rcases hd with rfl | ⟨owner, -, hpos, hrec⟩
  · exact h
  · exact h.recorded_of_lowersNoBucket hrec (lowersNoBucket_bucketCredit htype account owner b hpos)

variable {key : String} {hold : OwnerCreditHold}

theorem OwnerInv.storeOwnerHold {now : ℚ} (h : l.OwnerInv now)
    (hkey : hold.holdId = key) (hpos : ∀ a ∈ hold.allocations, 0 ≤ a.2)
    (hcover : ∀ o, ¬IsReservationShaped o → ∀ b,
      l.reservedByBucket now o none b + hold.claim now o b
        - ((l.ownerHolds.get? key).map (OwnerCreditHold.claim now o b)).getD 0 ≤ l.bucketBalance o b) :
    (l.storeOwnerHold key hold).OwnerInv now := by
  refine ⟨h.healthy, fun k x hx => ?_, fun x hx => ?_, fun o ho b => ?_⟩
  · have hx' : (l.ownerHolds.set key hold).get? k = some x := hx
    rcases get?_set_eq_some.mp hx' with ⟨hk, rfl⟩ | ⟨-, hx'⟩
    · rw [hk, hkey]
    · exact h.keys k x hx'
  · rcases mem_values_set hx with rfl | hx
    · exact hpos
    · exact h.nonneg x hx
  · rw [reservedByBucket_storeOwnerHold]
    exact hcover o ho b

theorem OwnerInv.closeOwnerHold {now : ℚ} (h : l.OwnerInv now)
    (hget : l.ownerHolds.get? key = some hold) {status : HoldStatus} (hstatus : status ≠ .active) :
    (l.storeOwnerHold key { hold with status := status }).OwnerInv now := by
  have hpos := h.nonneg hold (mem_values_of_get? hget)
  refine h.storeOwnerHold (h.keys key hold hget) hpos fun o ho b => ?_
  have hcov := h.covered o ho b
  have hclaim : claim now o b { hold with status := status } = 0 :=
    claim_of_status hstatus
  have hold_nonneg : 0 ≤ hold.claim now o b := claim_nonneg hpos
  rw [hclaim, hget]
  show l.reservedByBucket now o none b + 0 - hold.claim now o b ≤ _
  omega

theorem OwnerInv.createOwnerHold (h : l.OwnerInv env.time) (ownerId : String) (amount : ℤ)
    (purpose : String) (ttl : ℚ) (holdId : Option String) :
    (l.createOwnerHold env ownerId amount purpose ttl holdId).2.OwnerInv env.time := by
  obtain ⟨l₁, hs, heq | ⟨hold, -, hnew, heq⟩⟩ :=
    l.createOwnerHold_cases env ownerId amount purpose ttl holdId
  · rw [heq]
    exact (h.swept hs).1
  · rw [heq]
    obtain ⟨h₁, hreserved⟩ := h.swept hs
    have hpos : ∀ a ∈ hold.allocations, 0 ≤ a.2 := fun a ha => (hnew.allocation.pos a ha).le
    refine h₁.storeOwnerHold rfl hpos fun o ho b => ?_
    rw [(hs.unused hold.holdId).mpr hnew.unused, hreserved, bucketBalance, hs.rawBalance]
    show l.reservedByBucket env.time o none b + hold.claim env.time o b - 0 ≤ l.bucketBalance o b
    have hcov := h.covered o ho b
    by_cases howner : hold.ownerId = o
    · subst howner
      have hclaim : hold.claim env.time hold.ownerId b ≤ sumAt hold.allocations b :=
        claim_le hpos
      have hle := h.allocation_le ho hnew.allocation b
      omega
    · rw [claim_of_ne howner]
      omega

theorem Swept.get?_of_active {now : ℚ} {l₁ : Ledger} (hs : Swept now l l₁)
    (hget : l.ownerHolds.get? key = some hold) (hactive : hold.IsActive now) :
    l₁.ownerHolds.get? key = some hold := by
  rcases hs with rfl | ⟨owner, ex, rfl⟩
  · exact hget
  · rw [expireOwnerHolds, get?_mapValues, hget, Option.map_some, if_neg fun hc => absurd hactive.2 (not_lt.mpr hc.2)]

theorem OwnerInv.reserved_exclude {now : ℚ} (h : l.OwnerInv now)
    (hget : l.ownerHolds.get? key = some hold) (o : OwnerId) (b : Bucket) :
    l.reservedByBucket now o none b
        ≤ l.reservedByBucket now o (some hold.holdId) b + hold.claim now o b ∧
      l.reservedByBucket now o (some hold.holdId) b ≤ l.reservedByBucket now o none b := by
  rw [reservedByBucket_eq]
  constructor
  · have hle := sumBy_le_sumBy_of_get? (f := claim now o b)
      (g := fun x => if Considered o (some hold.holdId) x ∧ now < x.expiresAt
        then allocatedTo x.allocations b else 0) hget fun k' x hx hne => by
        have hid : hold.holdId ≠ x.holdId := by
          rw [h.keys k' x hx, h.keys key hold hget]
          exact Ne.symm hne
        refine le_of_eq (if_congr ?_ rfl rfl)
        simp [Considered, OwnerCreditHold.IsActive, and_assoc, hid]
    have hzero : (if Considered o (some hold.holdId) hold ∧ now < hold.expiresAt
        then allocatedTo hold.allocations b else 0) = 0 := if_neg fun hc => hc.1.1 rfl
    rw [hzero, add_zero] at hle
    exact hle
  · apply sumBy_le_sumBy
    intro x hx
    split
    · rename_i hc
      exact le_of_eq (if_pos ⟨hc.1.2.1, hc.1.2.2, hc.2⟩).symm
    · exact claim_nonneg (h.nonneg x hx)

theorem OwnerInv.capture_le {now : ℚ} (h : l.OwnerInv now)
    (hget : l.ownerHolds.get? key = some hold) (hactive : hold.IsActive now)
    (ho : ¬IsReservationShaped hold.ownerId) {selected : List (Bucket × ℤ)}
    (hsel : IsCaptureAllocation l now hold selected) (b : Bucket) :
    sumAt selected b ≤ l.bucketBalance hold.ownerId b
      - l.reservedByBucket now hold.ownerId none b + hold.claim now hold.ownerId b := by
  have hcov := h.covered hold.ownerId ho b
  have hpos := h.nonneg hold (mem_values_of_get? hget)
  rcases hsel with ⟨actual, hactual, rfl⟩ | ⟨actual, halloc⟩
  · have htake := (takeInOrder_spec hold.allocations actual hpos hactual.le).le_offered b
    rw [claim_of_active hactive]
    omega
  · have hle := halloc.le_available b
    obtain ⟨hexclude, hexclude'⟩ := h.reserved_exclude hget hold.ownerId b
    omega

theorem OwnerInv.captureOwnerHold (h : l.OwnerInv env.time) (holdId : String) (actual : ℤ)
    (htype : ∀ d ∈ ds, creditIncreases d.accountType = true)
    (ref description : String) :
    (l.captureOwnerHold env holdId actual ds ref description).2.OwnerInv env.time := by
  rcases l.captureOwnerHold_cases env holdId actual ds ref description with
    heq | ⟨hold, hget, ⟨-, heq⟩ | ⟨hactive, l₁, hs, heq | ⟨l₂, selected, hsel, hds, hrec, hend⟩⟩⟩
  · rwa [heq]
  · rw [heq]
    exact h.closeOwnerHold hget (by decide)
  · rw [heq]
    exact (h.swept hs).1
  · obtain ⟨h₁, hreserved⟩ := h.swept hs
    rcases hend with ⟨hsick, -⟩ | heq
    · exact absurd h₁.healthy hsick
    · rw [heq]
      obtain ⟨tx, -, hfields, -, rfl⟩ := hrec
      have hget₁ := hs.get?_of_active hget hactive
      have hspend := debitsAtMost_spend hold.ownerId selected htype hds
      refine ⟨healthy_recorded h₁.healthy tx, ?_, ?_, fun o ho b => ?_⟩
      · exact (h₁.closeOwnerHold hget₁ (by decide)).keys
      · exact (h₁.closeOwnerHold hget₁ (by decide)).nonneg
      · rw [reservedByBucket_storeOwnerHold, claim_of_status (by simp),
          recorded_ownerHolds, hget₁]
        show l₁.reservedByBucket env.time o none b + 0 - hold.claim env.time o b
          ≤ (l₁.recorded tx).rawBalance (ownerBucketAccount o b)
        rw [rawBalance_recorded, hfields, hreserved, hs.rawBalance]
        show _ ≤ l.bucketBalance o b + _
        have hnet := hspend o ho b
        have hcov := h.covered o ho b
        split at hnet
        · rename_i howner
          subst howner
          have hle := h.capture_le hget hactive ho hsel b
          omega
        · rename_i howner
          rw [claim_of_ne howner]
          omega

end Ledger

/-! ### Runs -/

namespace Op

variable {R : Type} [LayerRatio R]

/-- The operations on owner credit, with destinations that are liabilities or revenues. -/
def IsOwnerOp : Op R → Prop
  | depositCustomerCredits .. | depositOwnerPurchasedCredits .. | grantOwnerPromoCredits ..
  | creditOwnerEarnedCredits .. | getOwnerBalances .. | createOwnerHold .. | releaseOwnerHold ..
  | reserveOwnerWithdrawal .. | finalizeOwnerWithdrawal .. | reserveConfidentialCredits ..
  | releaseConfidentialReservation .. => True
  | spendOwnerCredits _ _ ds _ _ | captureOwnerHold _ _ ds _ _
  | settleConfidentialReservation _ _ _ ds => ∀ d ∈ ds, creditIncreases d.accountType = true
  | _ => False

instance : DecidablePred (IsOwnerOp (R := R)) := fun op => by
  apply Op.casesOn (motive := fun op => Decidable op.IsOwnerOp) op <;> intros <;> unfold IsOwnerOp <;> infer_instance

theorem run_ownerInv {l : Ledger} {env : Env} (h : l.OwnerInv env.time) {op : Op R}
    (hop : op.IsOwnerOp) : (op.run l env).OwnerInv env.time := by
  cases op with
  | depositCustomerCredits customer amount ref =>
    have hplain : (l.depositCustomerCredits env customer amount ref).2.OwnerInv env.time := by
      rcases l.depositCustomerCredits_cases env customer amount ref with heq | ⟨hpos, hrec⟩
      · rwa [heq]
      · exact h.recorded_of_lowersNoBucket hrec fun o _ b =>
          netChange_depositPostings_nonneg hpos (ownerBucketAccount o b)
    rw [run]
    split
    · unfold Ledger.gatewayDepositCustomerCredits
      split
      · exact hplain
      · exact h.bucketDeposit (by decide) (l.depositOwnerPurchasedCredits_cases env customer amount ref)
    · exact hplain
  | depositOwnerPurchasedCredits owner amount ref =>
    exact h.bucketDeposit (by decide) (l.depositOwnerPurchasedCredits_cases env owner amount ref)
  | grantOwnerPromoCredits owner amount ref policy =>
    exact h.bucketDeposit (by decide) (l.grantOwnerPromoCredits_cases env owner amount ref policy)
  | creditOwnerEarnedCredits owner amount ref description =>
    exact h.bucketDeposit (by decide)
      (l.creditOwnerEarnedCredits_cases env owner amount ref description)
  | getOwnerBalances owner => exact (h.swept (l.getOwnerBalances_snd env owner)).1
  | spendOwnerCredits owner amount ds ref description =>
    obtain ⟨l₁, hs, heq | ⟨o, allocations, -, ha, hds, hrec⟩⟩ :=
      l.spendOwnerCredits_cases env owner amount ds ref description
    · rw [run, heq]
      exact (h.swept hs).1
    · exact h.recorded_allocation hs hrec ha (Ledger.debitsAtMost_spend o allocations hop hds)
  | createOwnerHold owner amount purpose ttl holdId =>
    exact h.createOwnerHold owner amount purpose ttl holdId
  | releaseOwnerHold holdId =>
    rcases l.releaseOwnerHold_cases holdId with heq | ⟨hold, hget, heq⟩
    · rwa [run, heq]
    · rw [run, heq]
      exact h.closeOwnerHold hget (by decide)
  | captureOwnerHold holdId actual ds ref description =>
    exact h.captureOwnerHold holdId actual hop ref description
  | reserveOwnerWithdrawal owner amount ref =>
    obtain ⟨l₁, hs, heq | ⟨o, -, hpos, hle, hrec⟩⟩ :=
      l.reserveOwnerWithdrawal_cases env owner amount ref
    · rw [run, heq]
      exact (h.swept hs).1
    · obtain ⟨h₁, hreserved⟩ := h.swept hs
      refine h₁.recorded_spend hrec (Ledger.debitsAtMost_withdrawalReserve o amount) fun ho b => ?_
      rw [hreserved, Ledger.bucketBalance, hs.rawBalance]
      show _ ≤ l.bucketBalance o b - _
      have hcov := h.covered o ho b
      rw [sumAt_cons, sumAt_nil]
      split
      · rename_i hb
        obtain rfl : b = .earned := hb.symm
        omega
      · omega
  | finalizeOwnerWithdrawal owner amount ref =>
    rcases l.finalizeOwnerWithdrawal_cases env owner amount ref with heq | ⟨-, -, hrec⟩
    · rwa [run, heq]
    · exact h.recorded_of_lowersNoBucket hrec (Ledger.lowersNoBucket_withdrawalFinalize _ amount)
  | reserveConfidentialCredits owner ref amount =>
    obtain ⟨l₁, hs, heq | ⟨o, r, allocations, -, -, ha, hrec⟩⟩ :=
      l.reserveConfidentialCredits_cases env owner ref amount
    · rw [run, heq]
      exact (h.swept hs).1
    · exact h.recorded_allocation hs hrec ha (Ledger.debitsAtMost_reserve o r ha.pos)
  | releaseConfidentialReservation owner ref =>
    rcases l.releaseConfidentialReservation_cases env owner ref with
      heq | ⟨o, r, tx, allocations, -, -, hopen, hrec⟩
    · rwa [run, heq]
    · exact h.recorded_of_lowersNoBucket hrec
        (Ledger.lowersNoBucket_release o r (readAllocations_pos hopen.allocations_eq))
  | settleConfidentialReservation owner ref actual ds =>
    rcases l.settleConfidentialReservation_cases env owner ref actual ds with
      heq | ⟨o, r, tx, allocations, -, -, hopen, -, -, -, hds, -, hrec⟩
    · rwa [run, heq]
    · exact h.recorded_of_lowersNoBucket hrec
        (Ledger.lowersNoBucket_settle o r allocations actual hop hds)
  | _ => exact hop.elim

end Op

/-- **Owner buckets are never overdrawn and their reservations are backed**, in every run of owner
operations and at every later time, for every owner whose id does not spell out a confidential
reservation. -/
theorem owner_buckets_covered {R : Type} [LayerRatio R] (networkFeeBps : ℤ) (wallet : String)
    (fileBacked : Bool) (start : ℚ) (steps : List (Env × Op R))
    (hsteps : ∀ step ∈ steps, step.2.IsOwnerOp) (owner : OwnerId) (howner : ¬IsReservationShaped owner) :
    let s := Run.exec Clocked.next
      (Clocked.start .payoutCapableConfidential networkFeeBps wallet (newStorage fileBacked) start) steps
    ∀ now, s.now ≤ now → ∀ b, 0 ≤ s.ledger.bucketBalance owner b ∧
      s.ledger.reservedByBucket now owner none b ≤ s.ledger.bucketBalance owner b := by
  intro s now hnow b
  have hstart : (Clocked.start .payoutCapableConfidential networkFeeBps wallet (newStorage fileBacked)
      start).ledger.OwnerInv start :=
    ⟨healthy_fresh _ _ _ _, by intros; contradiction, fun h hh => absurd hh List.not_mem_nil, fun o _ b => le_refl 0⟩
  have hinv : s.ledger.OwnerInv s.now :=
    Run.exec_of_forall_mem (fun s : Clocked => s.ledger.OwnerInv s.now)
      (fun s step h hstep => Op.run_ownerInv (h.mono (s.now_le_at step.1)) hstep) hstart hsteps
  have hinv' := hinv.mono hnow
  have hcov := hinv'.covered owner howner b
  exact ⟨le_trans (hinv'.reserved_nonneg now owner b) hcov, hcov⟩

/-- A run with a hold that is captured above its amount, a withdrawal and a settled reservation. -/
theorem owner_buckets_covered_sample : let revenue : List CreditDestination := [⟨"revenue:jobs", "revenue:jobs", 7⟩]
    let steps : List (Env × Op ℚ) :=
      [(Env.atTime 0, .creditOwnerEarnedCredits "alice" 20 "e1" "job"),
       (Env.atTime 0, .depositOwnerPurchasedCredits "alice" 30 "p1"),
       (Env.atTime 1, .createOwnerHold "alice" 5 "job" 60 (some "h1")),
       (Env.atTime 2, .reserveOwnerWithdrawal "alice" 10 "w1"),
       (Env.atTime 3, .captureOwnerHold "h1" 7 revenue "s1" "job"),
       (Env.atTime 4, .reserveConfidentialCredits "alice" "r1" 10),
       (Env.atTime 5, .settleConfidentialReservation "alice" "r1" 7 revenue)]
    let s := Run.exec Clocked.next (Clocked.start .payoutCapableConfidential 2500 "" none 0) steps
    ¬IsReservationShaped alice ∧ ∀ now, s.now ≤ now → ∀ b, 0 ≤ s.ledger.bucketBalance alice b ∧
      s.ledger.reservedByBucket now alice none b ≤ s.ledger.bucketBalance alice b := by
  intro revenue steps
  have halice : ¬IsReservationShaped alice := not_isReservationShaped_of_short (by decide)
  exact ⟨halice, owner_buckets_covered 2500 "" false 0 steps (by decide) alice halice⟩

/-- The owner whose buckets are the sub-accounts of the reservation `r1` of `alice`. -/
def aliasOfReservation : OwnerId :=
  ⟨"alice:confidential_reservation:82f3e9c695dc6b8d1b11818d", by decide, by decide, by decide⟩

/-- An owner with such an id may hold the credit of a reservation that is then released, and its bucket
is overdrawn when the hold is captured. -/
theorem reservation_alias_overdrawn :
    ¬∀ (steps : List (Env × Op ℚ)), (∀ step ∈ steps, step.2.IsOwnerOp) → ∀ owner : OwnerId,
      let s := Run.exec Clocked.next (Clocked.start .payoutCapableConfidential 2500 "" none 0) steps
      ∀ now, s.now ≤ now → ∀ b, 0 ≤ s.ledger.bucketBalance owner b ∧
        s.ledger.reservedByBucket now owner none b ≤ s.ledger.bucketBalance owner b := by
  intro h
  have hbad := h [(Env.atTime 0, .depositOwnerPurchasedCredits "alice" 10 "p1"),
     (Env.atTime 1, .reserveConfidentialCredits "alice" "r1" 10),
     (Env.atTime 2, .createOwnerHold aliasOfReservation.val 10 "job" 60 (some "h1")),
     (Env.atTime 3, .releaseConfidentialReservation "alice" "r1"),
     (Env.atTime 4, .captureOwnerHold "h1" 10 [⟨"revenue:jobs", "revenue:jobs", 10⟩] "s1" "job")]
    (by decide) aliasOfReservation 4 (by decide +kernel) .purchased
  have hneg := hbad.1
  revert hneg
  decide +kernel

end ComputeMesh.Billing
