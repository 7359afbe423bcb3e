import ComputeMesh.Billing.OwnerSpec

/-!
# What the postings of the operations move

The net change of the lists of postings that the operations record, account by account.  Moves
between an owner's buckets and the sub-accounts of a reservation are described by two keyed lists,
`bucketMoves` and `subMoves`, which are then read at a bucket, at a sub-account or anywhere else:

* `netChange_reservePostings`, `netChange_releasePostings` — the two are opposite to each other;
* `netChange_settlePostings` — a settlement empties the sub-accounts and refunds to each bucket what the
  charge left of it;
* `readAllocations_reservePostings` — what a reservation moved can be read back from its transaction.
-/

namespace ComputeMesh.Billing

open ComputeMesh.Text List PostingFields

/-! ### Customer deposits and jobs -/

theorem netChange_depositPostings_nonneg {customer : String} {amount : ℤ} (hpos : 0 < amount)
    (a : String) : 0 ≤ netChange (Ledger.depositPostings customer amount) a := by
  apply netChange_nonneg
  intro p hp _
  simp only [Ledger.depositPostings, mem_cons, not_mem_nil, or_false] at hp
  rcases hp with rfl | rfl
  · simp [signed, hpos.le]
  · simp [signed, hpos.le]

theorem IsJobPostings.netChange_ge {R : Type} {c : JobCall R} {fs : List PostingFields}
    (h : IsJobPostings c fs) (a : String) :
    -(if c.customerAccountId = a then c.charge else 0) ≤ netChange fs a := by
  obtain ⟨fee, providers, rfl, hproviders⟩ := h
  have hcredits : 0 ≤ netChange (Ledger.feePosting fee ++ providers) a := by
    apply netChange_nonneg
    intro p hp _
    rcases mem_append.mp hp with hp | hp
    · unfold Ledger.feePosting at hp
      split at hp
      · rename_i hfee
        rw [mem_singleton] at hp
        subst hp
        simp [signed, hfee.le]
      · cases hp
    · obtain ⟨s, -, -, htype, hdebit, hcredit⟩ := hproviders p hp
      simp [signed, htype, hdebit, hcredit.le]
  have hcustomer : (Ledger.customerPosting c).signed = -c.charge := by
    simp [Ledger.customerPosting, signed]
  rw [netChange_cons, hcustomer]
  show _ ≤ (if c.customerAccountId = a then -c.charge else 0) + _
  split <;> omega

/-! ### Moves between buckets and sub-accounts -/

/-- Amounts by bucket, as amounts by bucket account of an owner. -/
def bucketMoves (owner : OwnerId) (allocations : List (Bucket × ℤ)) : List (String × ℤ) :=
  allocations.map fun a => (ownerBucketAccount owner a.1, a.2)

/-- Amounts by bucket, as amounts by sub-account of a reservation. -/
def subMoves (owner : OwnerId) (ref : ReservationId) (allocations : List (Bucket × ℤ)) : List (String × ℤ) :=
  allocations.map fun a => (confidentialReservationAccount owner ref a.1, a.2)

theorem sumAt_bucketMoves (owner o : OwnerId) (allocations : List (Bucket × ℤ)) (b : Bucket) :
    sumAt (bucketMoves owner allocations) (ownerBucketAccount o b)
      = if owner = o then sumAt allocations b else 0 := by
  by_cases h : owner = o
  · subst h
    rw [if_pos rfl]
    exact sumAt_map (ownerBucketAccount owner) (fun _ _ hbc => (ownerBucketAccount_inj hbc).2) allocations b
  · rw [if_neg h]
    apply sumAt_eq_zero
    intro e he heq
    obtain ⟨a, -, rfl⟩ := mem_map.mp he
    exact h (ownerBucketAccount_inj heq).1

variable {owner : OwnerId}

theorem sumAt_bucketMoves_of_ne {a : String}
    (h : ∀ b, ownerBucketAccount owner b ≠ a) (allocations : List (Bucket × ℤ)) :
    sumAt (bucketMoves owner allocations) a = 0 := by
  apply sumAt_eq_zero
  intro e he
  obtain ⟨x, -, rfl⟩ := mem_map.mp he
  exact h x.1

theorem sumAt_subMoves (owner : OwnerId) (ref : ReservationId) (allocations : List (Bucket × ℤ)) (b : Bucket) :
    sumAt (subMoves owner ref allocations) (confidentialReservationAccount owner ref b) = sumAt allocations b :=
  sumAt_map (confidentialReservationAccount owner ref) (fun _ _ hbc => (reservationAccount_inj hbc).2.2) allocations b

variable {ref : ReservationId}

theorem sumAt_subMoves_of_ne {a : String}
    (h : ∀ b, confidentialReservationAccount owner ref b ≠ a) (allocations : List (Bucket × ℤ)) :
    sumAt (subMoves owner ref allocations) a = 0 := by
  apply sumAt_eq_zero
  intro e he
  obtain ⟨x, -, rfl⟩ := mem_map.mp he
  exact h x.1

variable {allocations : List (Bucket × ℤ)}

theorem sumAt_subMoves_nonneg (owner : OwnerId) (ref : ReservationId) (h : ∀ a ∈ allocations, 0 ≤ a.2) (a : String) :
    0 ≤ sumAt (subMoves owner ref allocations) a := by
  apply sumAt_nonneg
  intro e he _
  obtain ⟨x, hx, rfl⟩ := mem_map.mp he
  exact h x hx

theorem sumAt_bucketMoves_nonneg (owner : OwnerId)
    (h : ∀ a ∈ allocations, 0 ≤ a.2) (a : String) : 0 ≤ sumAt (bucketMoves owner allocations) a := by
  apply sumAt_nonneg
  intro e he _
  obtain ⟨x, hx, rfl⟩ := mem_map.mp he
  exact h x hx

/-! ### Deposits, spends and withdrawals -/

theorem netChange_bucketCredit {type : String} (htype : creditIncreases type = false)
    (source : String) (owner : OwnerId) (b : Bucket) (amount : ℤ) (a : String) :
    netChange (Ledger.bucketCreditPostings source type owner b amount) a
      = (if source = a then amount else 0) + if ownerBucketAccount owner b = a then amount else 0 := by
  simp [Ledger.bucketCreditPostings, netChange_cons, signed, htype]

theorem netChange_bucketDebits (owner : OwnerId) (allocations : List (Bucket × ℤ)) (a : String) :
    netChange (bucketDebits owner allocations) a = -sumAt (bucketMoves owner allocations) a := by
  induction allocations with
  | nil => rfl
  | cons x xs ih =>
    have hcons : bucketDebits owner (x :: xs)
        = { accountId := ownerBucketAccount owner x.1, accountType := x.1.accountType,
            debitMicroUnits := x.2 } :: bucketDebits owner xs := rfl
    rw [hcons, netChange_cons, ih]
    simp only [signed, creditIncreases_bucket, if_true, bucketMoves, map_cons, sumAt_cons]
    split <;> omega

theorem netChange_destinationCredits_nonneg {ds : List CreditDestination}
    (htype : ∀ d ∈ ds, creditIncreases d.accountType = true)
    (hpos : ∀ d ∈ ds, 0 < d.amountMicroUnits) (a : String) :
    0 ≤ netChange (destinationCredits ds) a := by
  apply netChange_nonneg
  intro p hp _
  obtain ⟨d, hd, rfl⟩ := mem_map.mp hp
  have := hpos d hd
  simp only [signed, htype d hd, if_true]
  omega

theorem netChange_destinationCredits_of_ne {ds : List CreditDestination} {a : String}
    (h : ∀ d ∈ ds, d.accountId ≠ a) : netChange (destinationCredits ds) a = 0 := by
  apply netChange_eq_zero
  intro p hp
  obtain ⟨d, hd, rfl⟩ := mem_map.mp hp
  exact h d hd

theorem netChange_spendPostings (owner : OwnerId) (allocations : List (Bucket × ℤ))
    (ds : List CreditDestination) (a : String) :
    netChange (Ledger.spendPostings owner allocations ds) a
      = netChange (destinationCredits ds) a - sumAt (bucketMoves owner allocations) a := by
  rw [Ledger.spendPostings, netChange_append, netChange_bucketDebits]
  omega

theorem netChange_withdrawalReserve (owner : OwnerId) (amount : ℤ) (a : String) :
    netChange (Ledger.withdrawalReservePostings owner amount) a
      = (if pendingAccountOf owner.val = a then amount else 0)
        - if ownerBucketAccount owner .earned = a then amount else 0 := by
  simp only [Ledger.withdrawalReservePostings, netChange_cons, netChange_nil, signed,
    creditIncreases_ownerEarned, creditIncreases_ownerWithdrawalPending, if_true]
  split <;> split <;> omega

theorem netChange_withdrawalFinalize (owner : String) (amount : ℤ) (a : String) :
    netChange (Ledger.withdrawalFinalizePostings owner amount) a = -(if pendingAccountOf owner = a then amount else 0)
        - if "gateway:escrow" = a then amount else 0 := by
  simp only [Ledger.withdrawalFinalizePostings, netChange_cons, netChange_nil, signed,
    creditIncreases_ownerWithdrawalPending, creditIncreases_paymentGatewayEscrow, if_true]
  simp only [Bool.false_eq_true, if_false]
  split <;> split <;> omega

theorem netChange_withdrawalCancel (owner : OwnerId) (amount : ℤ) (a : String) :
    netChange (Ledger.withdrawalCancelPostings owner amount) a
      = (if ownerBucketAccount owner .earned = a then amount else 0)
        - if pendingAccountOf owner.val = a then amount else 0 := by
  simp only [Ledger.withdrawalCancelPostings, netChange_cons, netChange_nil, signed,
    creditIncreases_ownerEarned, creditIncreases_ownerWithdrawalPending, if_true]
  split <;> split <;> omega

/-! ### Reservations -/

section

variable (owner : OwnerId) (ref : ReservationId) (allocations : List (Bucket × ℤ)) (a : String)

theorem netChange_reservePostings : netChange (reservePostings owner ref allocations) a
      = sumAt (subMoves owner ref allocations) a - sumAt (bucketMoves owner allocations) a := by
  induction allocations with
  | nil => rfl
  | cons x xs ih =>
    have hcons : reservePostings owner ref (x :: xs)
        = [{ accountId := ownerBucketAccount owner x.1, accountType := x.1.accountType,
             debitMicroUnits := x.2 },
           { accountId := confidentialReservationAccount owner ref x.1,
             accountType := ownerConfidentialReservation, creditMicroUnits := x.2 }]
          ++ reservePostings owner ref xs := flatMap_cons
    rw [hcons, netChange_append, ih]
    simp only [netChange_cons, netChange_nil, signed, creditIncreases_bucket,
      creditIncreases_ownerConfidentialReservation, if_true, subMoves, bucketMoves, map_cons,
      sumAt_cons]
    split <;> split <;> omega

theorem netChange_releasePostings : netChange (releasePostings owner ref allocations) a
      = sumAt (bucketMoves owner allocations) a - sumAt (subMoves owner ref allocations) a := by
  induction allocations with
  | nil => rfl
  | cons x xs ih =>
    have hcons : releasePostings owner ref (x :: xs)
        = [{ accountId := confidentialReservationAccount owner ref x.1,
             accountType := ownerConfidentialReservation, debitMicroUnits := x.2 },
           { accountId := ownerBucketAccount owner x.1, accountType := x.1.accountType,
             creditMicroUnits := x.2 }]
          ++ releasePostings owner ref xs := flatMap_cons
    rw [hcons, netChange_append, ih]
    simp only [netChange_cons, netChange_nil, signed, creditIncreases_bucket,
      creditIncreases_ownerConfidentialReservation, if_true, subMoves, bucketMoves, map_cons,
      sumAt_cons]
    split <;> split <;> omega

end

/-- What a settlement of `charge` leaves of each allocation. -/
def refunds : List (Bucket × ℤ) → ℤ → List (Bucket × ℤ)
  | [], _ => []
  | (b, reserved) :: rest, charge =>
    (b, reserved - min charge reserved) :: refunds rest (charge - min charge reserved)

/-- **A settlement** empties the sub-accounts and credits the refunds to the buckets. -/
theorem netChange_settlePostings (owner : OwnerId) (ref : ReservationId) (a : String) :
    ∀ (allocations : List (Bucket × ℤ)) (charge : ℤ),
      netChange (settlePostings owner ref allocations charge).1 a
        = sumAt (bucketMoves owner (refunds allocations charge)) a
          - sumAt (subMoves owner ref allocations) a
  | [], charge => rfl
  | (b, reserved) :: rest, charge => by
    have ih := netChange_settlePostings owner ref a rest (charge - min charge reserved)
    simp only [settlePostings, refunds]
    rw [netChange_cons, netChange_append, ih]
    have hrefund : netChange (if reserved - min charge reserved = 0 then []
        else [{ accountId := ownerBucketAccount owner b, accountType := b.accountType,
                creditMicroUnits := reserved - min charge reserved }]) a
        = if ownerBucketAccount owner b = a then reserved - min charge reserved else 0 := by
      split
      · rename_i hzero
        simp [hzero]
      · simp [netChange_cons, signed]
    rw [hrefund]
    simp only [signed, creditIncreases_ownerConfidentialReservation, if_true, subMoves,
      bucketMoves, map_cons, sumAt_cons]
    split <;> split <;> omega

theorem sumAt_refunds (b : Bucket) : ∀ (allocations : List (Bucket × ℤ)) (charge : ℤ),
    sumAt (refunds allocations charge) b = sumAt allocations b - spentFrom allocations charge b
  | [], _ => rfl
  | (b', reserved) :: rest, charge => by
    have ih := sumAt_refunds b rest (charge - min charge reserved)
    simp only [refunds, sumAt_cons, spentFrom, ih]
    split <;> omega

theorem refunds_nonneg : ∀ (allocations : List (Bucket × ℤ)) (charge : ℤ), ∀ a ∈ refunds allocations charge, 0 ≤ a.2
  | [], _, a, ha => by cases ha
  | (b, reserved) :: rest, charge, a, ha => by
    rcases mem_cons.mp ha with rfl | ha
    · have := min_le_right charge reserved
      show 0 ≤ reserved - min charge reserved
      omega
    · exact refunds_nonneg rest _ a ha

/-! ### Reading a reservation back -/

theorem debitsOf_nonneg (ps : List Posting) (a : String) : 0 ≤ debitsOf (fieldsOf ps) a := by
  apply sumAt_nonneg
  intro e he _
  obtain ⟨f, hf, rfl⟩ := mem_map.mp he
  obtain ⟨p, -, rfl⟩ := mem_map.mp hf
  exact p.nonneg.1

theorem readAllocations_pos {tx : Transaction} : ∀ {bs : List Bucket} {allocations : List (Bucket × ℤ)},
      readAllocations owner ref tx.fields bs = .ok allocations → ∀ a ∈ allocations, 0 < a.2
  | [], allocations, h => by
    cases h
    simp
  | b :: rest, allocations, h => by
    simp only [readAllocations] at h
    split at h
    · cases h
    · split at h
      · cases h
      · rename_i more hmore
        cases h
        have ih := readAllocations_pos hmore
        have hdebit := debitsOf_nonneg tx.postings (ownerBucketAccount owner b)
        split
        · exact ih
        · rename_i hne
          intro a ha
          rcases mem_cons.mp ha with rfl | ha
          · exact lt_of_le_of_ne hdebit (Ne.symm hne)
          · exact ih a ha

theorem filterMap_sumAt : ∀ (bs : List Bucket) (es : List (Bucket × ℤ)), bs.Nodup →
    (es.map Prod.fst).Sublist bs → (∀ e ∈ es, e.2 ≠ 0) →
    bs.filterMap (fun b => if sumAt es b = 0 then none else some (b, sumAt es b)) = es
  | [], es, _, hsub, _ => by
    rw [sublist_nil, map_eq_nil_iff] at hsub
    subst hsub
    rfl
  | b :: bs, [], hnd, _, _ => by
    simp
  | b :: bs, (b', x) :: rest, hnd, hsub, hne => by
    rw [nodup_cons] at hnd
    by_cases hb : b' = b
    · subst hb
      have hsub' : (rest.map Prod.fst).Sublist bs := by simpa using hsub
      have hzero : sumAt rest b' = 0 := sumAt_eq_zero fun e he heq =>
        hnd.1 (heq ▸ hsub'.subset (mem_map_of_mem he))
      have htail : bs.filterMap (fun b => if sumAt ((b', x) :: rest) b = 0 then none
          else some (b, sumAt ((b', x) :: rest) b))
          = bs.filterMap (fun b => if sumAt rest b = 0 then none else some (b, sumAt rest b)) := by
        apply filterMap_congr
        intro c hc
        have hcb : b' ≠ c := fun h => hnd.1 (h ▸ hc)
        rw [sumAt_cons, if_neg hcb, zero_add]
      have hx : x ≠ 0 := hne (b', x) mem_cons_self
      rw [filterMap_cons, htail, filterMap_sumAt bs rest hnd.2 hsub'
        fun e he => hne e (mem_cons_of_mem _ he)]
      simp [sumAt_cons, hzero, hx]
    · have hsub' : (((b', x) :: rest).map Prod.fst).Sublist bs := by
        rcases hsub with _ | hsub | hsub
        · assumption
        · exact absurd rfl hb
      have hzero : sumAt ((b', x) :: rest) b = 0 := sumAt_eq_zero fun e he heq =>
        hnd.1 (heq ▸ hsub'.subset (mem_map_of_mem he))
      rw [filterMap_cons, hzero, if_pos rfl]
      exact filterMap_sumAt bs ((b', x) :: rest) hnd.2 hsub' hne

theorem readAllocations_eq {fs : List PostingFields}
    {f : Bucket → ℤ} (hdebit : ∀ b, debitsOf fs (ownerBucketAccount owner b) = f b)
    (hcredit : ∀ b, creditsOf fs (confidentialReservationAccount owner ref b) = f b) :
    ∀ bs : List Bucket, readAllocations owner ref fs bs
      = .ok (bs.filterMap fun b => if f b = 0 then none else some (b, f b))
  | [] => rfl
  | b :: bs => by
    simp only [readAllocations, hdebit, hcredit, readAllocations_eq hdebit hcredit bs]
    rw [if_neg (by simp), filterMap_cons]
    split <;> simp

section

variable (owner : OwnerId) (ref : ReservationId) (allocations : List (Bucket × ℤ)) (a : String)

theorem debitsOf_reservePostings :
    debitsOf (reservePostings owner ref allocations) a = sumAt (bucketMoves owner allocations) a := by
  induction allocations with
  | nil => rfl
  | cons x xs ih =>
    rw [debitsOf] at ih ⊢
    simp only [reservePostings, flatMap_cons, map_append, sumAt_append, map_cons,
      map_nil, sumAt_cons, sumAt_nil, bucketMoves] at ih ⊢
    rw [ih]
    split <;> simp

theorem creditsOf_reservePostings : creditsOf (reservePostings owner ref allocations) a
      = sumAt (subMoves owner ref allocations) a := by
  induction allocations with
  | nil => rfl
  | cons x xs ih =>
    rw [creditsOf] at ih ⊢
    simp only [reservePostings, flatMap_cons, map_append, sumAt_append, map_cons,
      map_nil, sumAt_cons, sumAt_nil, subMoves] at ih ⊢
    rw [ih]
    split <;> simp

end

/-- **Reading back what was reserved**: the reserving owner finds the allocations, any other owner finds
nothing. -/
theorem readAllocations_reservePostings (hsub : (allocations.map Prod.fst).Sublist spendOrder)
    (hpos : ∀ a ∈ allocations, 0 < a.2) (p : OwnerId) :
    readAllocations p ref (reservePostings owner ref allocations) spendOrder
      = .ok (if owner = p then allocations else []) := by
  have hdebit : ∀ b, debitsOf (reservePostings owner ref allocations) (ownerBucketAccount p b)
      = if owner = p then sumAt allocations b else 0 := fun b => by
    rw [debitsOf_reservePostings, sumAt_bucketMoves]
  have hcredit : ∀ b, creditsOf (reservePostings owner ref allocations)
      (confidentialReservationAccount p ref b) = if owner = p then sumAt allocations b else 0 := by
    intro b
    rw [creditsOf_reservePostings]
    by_cases h : owner = p
    · subst h
      rw [if_pos rfl, sumAt_subMoves]
    · rw [if_neg h]
      exact sumAt_subMoves_of_ne (fun c hc => h (reservationAccount_inj hc).1) allocations
  rw [readAllocations_eq hdebit hcredit]
  by_cases h : owner = p
  · simp only [h, if_true]
    exact congrArg Except.ok (filterMap_sumAt spendOrder allocations nodup_spendOrder hsub
      fun e he => (hpos e he).ne')
  · simp [h]

end ComputeMesh.Billing
