import ComputeMesh.Billing.LedgerSpec

/-!
# What the owner operations can do

The specification lemmas of the owner buckets, holds, withdrawals and confidential reservations.  Each of
these operations first may sweep overdue holds (`Swept`), then may record one transaction, then may store
one hold; the lemmas name all three.  `takeInOrder_spec` is the rule of the allocation loop: it takes
positive amounts, never more than a bucket offers, and what it takes and what it reports missing add up
to what was asked for.
-/

namespace ComputeMesh.Billing

open ComputeMesh.Text

/-! ### The allocation loop -/

/-- What the loop returns for the amounts offered and the amount asked for. -/
structure IsTake (es : List (Bucket × ℤ)) (remaining : ℤ) (r : List (Bucket × ℤ) × ℤ) : Prop where
  pos : ∀ t ∈ r.1, 0 < t.2
  le_offered : ∀ b, sumAt r.1 b ≤ sumAt es b
  sublist : (r.1.map Prod.fst).Sublist (es.map Prod.fst)
  total : (r.1.map Prod.snd).sum + r.2 = remaining
  missing_nonneg : 0 ≤ r.2

theorem takeInOrder_spec : ∀ (es : List (Bucket × ℤ)) (remaining : ℤ), (∀ e ∈ es, 0 ≤ e.2) →
    0 ≤ remaining → IsTake es remaining (takeInOrder es remaining)
  | [], remaining, _, hrem => ⟨by simp [takeInOrder], by simp [takeInOrder], by simp [takeInOrder],
      by simp [takeInOrder], hrem⟩
  | (b, available) :: rest, remaining, hes, hrem => by
    have havail : 0 ≤ available := hes (b, available) List.mem_cons_self
    have hrest : ∀ e ∈ rest, 0 ≤ e.2 := fun e he => hes e (List.mem_cons_of_mem _ he)
    have htake : 0 ≤ min remaining available := le_min hrem havail
    have hle : min remaining available ≤ available := min_le_right _ _
    have hleft : 0 ≤ remaining - min remaining available := by
      have := min_le_left remaining available
      omega
    rw [takeInOrder]
    generalize min remaining available = take at *
    -- what is taken after this bucket: nothing if the charge is covered, else the loop goes on
    have hmore : IsTake rest (remaining - take)
        (if remaining - take = 0 then ([], 0) else takeInOrder rest (remaining - take)) := by
      by_cases hz : remaining - take = 0
      · rw [if_pos hz]
        exact ⟨by simp, fun b' => sumAt_nonneg fun e he _ => hrest e he, by simp, by simp [hz], le_refl 0⟩
      · rw [if_neg hz]
        exact takeInOrder_spec rest _ hrest hleft
    generalize (if remaining - take = 0 then (([] : List (Bucket × ℤ)), (0 : ℤ))
      else takeInOrder rest (remaining - take)) = more at *
    obtain ⟨ts, missing⟩ := more
    have htot : (ts.map Prod.snd).sum + missing = remaining - take := hmore.total
    by_cases ht : take = 0
    · rw [if_pos ht]
      refine ⟨hmore.pos, fun b' => ?_, hmore.sublist.cons _, ?_, hmore.missing_nonneg⟩
      · have hoffered : sumAt ts b' ≤ sumAt rest b' := hmore.le_offered b'
        show sumAt ts b' ≤ sumAt ((b, available) :: rest) b'
        rw [sumAt_cons]
        split <;> omega
      · show (ts.map Prod.snd).sum + missing = remaining
        omega
    · rw [if_neg ht]
      refine ⟨fun t hmem => ?_, fun b' => ?_, by simpa using hmore.sublist, ?_, hmore.missing_nonneg⟩
      · rcases List.mem_cons.mp hmem with rfl | hmem
        · exact lt_of_le_of_ne htake (Ne.symm ht)
        · exact hmore.pos t hmem
      · have hoffered : sumAt ts b' ≤ sumAt rest b' := hmore.le_offered b'
        show sumAt ((b, take) :: ts) b' ≤ sumAt ((b, available) :: rest) b'
        rw [sumAt_cons, sumAt_cons]
        split <;> omega
      · simp only [List.map_cons, List.sum_cons]
        omega

theorem map_fst_spendOrder (f : Bucket → ℤ) : (spendOrder.map fun b => (b, f b)).map Prod.fst = spendOrder := by
  rw [List.map_map]
  exact List.map_id spendOrder

theorem sumAt_spendOrder (f : Bucket → ℤ) (b : Bucket) : sumAt (spendOrder.map fun b => (b, f b)) b = f b := by
  apply sumAt_of_mem_of_nodup
  · rw [map_fst_spendOrder]
    exact nodup_spendOrder
  · exact List.mem_map.mpr ⟨b, mem_spendOrder b, rfl⟩

theorem sum_eq_sumAt_buckets (es : List (Bucket × ℤ)) :
    (es.map Prod.snd).sum = sumAt es .earned + sumAt es .purchased + sumAt es .promo := by
  induction es with
  | nil => rfl
  | cons e es ih =>
    obtain ⟨b, x⟩ := e
    cases b <;> simp [sumAt_cons, ih] <;> omega

namespace Ledger

/-! ### Sweeping overdue holds -/

/-- `l₁` is `l` after at most one sweep of overdue owner holds. -/
def Swept (now : ℚ) (l l₁ : Ledger) : Prop :=
  l₁ = l ∨ ∃ owner exclude, l₁ = l.expireOwnerHolds now owner exclude

theorem Swept.refl (now : ℚ) (l : Ledger) : Swept now l l := .inl rfl

variable {now : ℚ} {l : Ledger}

theorem Swept.journal {l₁ : Ledger} (h : Swept now l l₁) : l₁.journal = l.journal := by
  rcases h with rfl | ⟨owner, ex, rfl⟩ <;> rfl

theorem Swept.rawBalance {l₁ : Ledger} (h : Swept now l l₁) (a : String) : l₁.rawBalance a = l.rawBalance a := by
  rw [Ledger.rawBalance, Ledger.rawBalance, h.journal]

theorem Swept.unseen {l₁ : Ledger} (h : Swept now l l₁) {e : String} (hu : l₁.Unseen e) : l.Unseen e := by
  unfold Unseen transactionForEvent at *
  rwa [h.journal] at hu

theorem getOwnerBalances_snd (l : Ledger) (env : Env) (ownerId : String) :
    Swept env.time l (l.getOwnerBalances env ownerId).2 := by
  unfold getOwnerBalances
  split
  · exact .inl rfl
  · exact .inr ⟨_, _, rfl⟩

theorem ownerWithdrawable_cases (l : Ledger) (env : Env) (ownerId : String) :
    Swept env.time l (l.ownerWithdrawableMicroUnits env ownerId).2 ∧
      ∀ w, (l.ownerWithdrawableMicroUnits env ownerId).1 = .ok w → ∃ owner, cleanOwner ownerId = .ok owner ∧
          w = max 0 (l.bucketBalance owner .earned - l.reservedByBucket env.time owner none .earned) := by
  have hsnd := l.getOwnerBalances_snd env ownerId
  fun_cases ownerWithdrawableMicroUnits with
  | case1 e l' h =>
    rw [h] at hsnd
    exact ⟨hsnd, nofun⟩
  | case2 snapshot l' h =>
    rw [h] at hsnd
    refine ⟨hsnd, fun w hw => ?_⟩
    cases hw
    fun_cases getOwnerBalances with
    | case1 e howner => simp only [getOwnerBalances, howner, Prod.mk.injEq, reduceCtorEq, false_and] at h
    | case2 owner howner =>
      simp only [getOwnerBalances, howner, Prod.mk.injEq, Except.ok.injEq] at h
      exact ⟨owner, howner, by rw [← h.1]⟩

/-! ### Allocations -/

/-- What `_allocate_spend` grants: positive amounts in bucket order, from each bucket no more than its
balance less the other active holds, `amount` in all. -/
structure IsAllocation (l : Ledger) (now : ℚ) (owner : OwnerId) (exclude : Option String) (amount : ℤ)
    (allocations : List (Bucket × ℤ)) : Prop where
  amount_pos : 0 < amount
  pos : ∀ a ∈ allocations, 0 < a.2
  le_available : ∀ b, sumAt allocations b ≤ max 0 (l.bucketBalance owner b - l.reservedByBucket now owner exclude b)
  sublist : (allocations.map Prod.fst).Sublist spendOrder
  total : (allocations.map Prod.snd).sum = amount

theorem allocateSpend_cases (l : Ledger) (env : Env) (owner : OwnerId) (amount : ℤ) (ex : Option String) :
    Swept env.time l (l.allocateSpend env owner amount ex).2 ∧
      ∀ allocations, (l.allocateSpend env owner amount ex).1 = .ok allocations →
        IsAllocation l env.time owner ex amount allocations := by
  simp only [allocateSpend]
  split
  · exact ⟨.inl rfl, fun _ h => by cases h⟩
  · rename_i hpos
    have htake := takeInOrder_spec
      (spendOrder.map fun b =>
        (b, max 0 (l.bucketBalance owner b - l.reservedByBucket env.time owner ex b)))
      amount
      (by
        intro e he
        obtain ⟨b, -, rfl⟩ := List.mem_map.mp he
        exact le_max_left _ _)
      (by omega)
    split
    · exact ⟨.inr ⟨_, _, rfl⟩, fun _ h => by cases h⟩
    · rename_i hdone
      refine ⟨.inr ⟨_, _, rfl⟩, fun allocations h => ?_⟩
      cases h
      refine ⟨not_le.mp hpos, htake.pos, fun b => ?_, ?_, ?_⟩
      · exact le_trans (htake.le_offered b) (le_of_eq (sumAt_spendOrder _ b))
      · have hsub := htake.sublist
        rwa [map_fst_spendOrder] at hsub
      · have htot := htake.total
        have hz := not_not.mp hdone
        omega

theorem validateDestinations_ok {ds items : List CreditDestination} {amount : ℤ}
    (h : validateDestinations ds amount = .ok items) :
    items = ds ∧ (∀ d ∈ ds, 0 < d.amountMicroUnits) ∧ (ds.map CreditDestination.amountMicroUnits).sum = amount := by
  revert h
  fun_cases validateDestinations with
  | case4 _ _ hvalid htotal =>
    intro h
    cases h
    refine ⟨rfl, fun d hd => ?_, not_not.mp htotal⟩
    by_contra hneg
    exact hvalid ⟨d, hd, .inr (.inr (not_lt.mp hneg))⟩
  | _ => exact nofun

theorem ensureNewEvent_ok {event : String} (h : l.ensureNewEvent event = .ok ()) : l.Unseen event := by
  unfold ensureNewEvent at h
  split at h
  · cases h
  · exact .inl (by assumption)

/-! ### Filling the buckets -/

def bucketCreditPostings (sourceAccount sourceType : String) (owner : OwnerId) (b : Bucket)
    (amount : ℤ) : List PostingFields :=
  [{ accountId := sourceAccount, accountType := sourceType, debitMicroUnits := amount },
   { accountId := ownerBucketAccount owner b, accountType := b.accountType,
     creditMicroUnits := amount }]

section

variable (l) (env : Env)

theorem creditBucket_cases (owner : OwnerId) (b : Bucket) (amount : ℤ) (tag event description account type : String) :
    (l.creditBucket env owner b amount tag event description account type).2 = l ∨
      Recorded l (l.creditBucket env owner b amount tag event description account type).2 event
        (bucketCreditPostings account type owner b amount) := by
  unfold creditBucket
  split
  · exact .inl rfl
  · rename_i hnew
    exact l.commitNew_cases _ _ _ _ (ensureNewEvent_ok hnew)

/-- A deposit into one of the three buckets: nothing, or a positive credit under the event `event`. -/
def IsBucketDeposit (l l' : Ledger) (ownerId : String) (b : Bucket) (amount : ℤ)
    (event account type : String) : Prop :=
  l' = l ∨ ∃ owner, cleanOwner ownerId = .ok owner ∧ 0 < amount ∧
    Recorded l l' event (bucketCreditPostings account type owner b amount)

theorem creditBucket_deposit {ownerId : String} {owner : OwnerId} {b : Bucket} {amount : ℤ}
    (howner : cleanOwner ownerId = .ok owner) (hpos : ¬amount ≤ 0) (tag event description account type : String) :
    IsBucketDeposit l (l.creditBucket env owner b amount tag event description account type).2 ownerId b amount event
      account type :=
  (l.creditBucket_cases env owner b amount tag event description account type).imp_right fun h =>
    ⟨owner, howner, not_le.mp hpos, h⟩

theorem depositOwnerPurchasedCredits_cases (ownerId : String) (amount : ℤ) (ref : String) :
    IsBucketDeposit l (l.depositOwnerPurchasedCredits env ownerId amount ref).2 ownerId .purchased
      amount ("owner-purchase:" ++ strip ref) "gateway:escrow" paymentGatewayEscrow := by
  fun_cases depositOwnerPurchasedCredits with
  | case4 owner howner hpos => exact l.creditBucket_deposit env howner hpos _ _ _ _ _
  | _ => exact .inl rfl

theorem grantOwnerPromoCredits_cases (ownerId : String) (amount : ℤ) (ref policy : String) :
    IsBucketDeposit l (l.grantOwnerPromoCredits env ownerId amount ref policy).2 ownerId .promo
      amount ("owner-promo:" ++ strip ref) "expense:promo_grants" promoGrantExpense := by
  fun_cases grantOwnerPromoCredits with
  | case4 owner howner hpos => exact l.creditBucket_deposit env howner hpos _ _ _ _ _
  | _ => exact .inl rfl

theorem creditOwnerEarnedCredits_cases (ownerId : String) (amount : ℤ) (ref description : String) :
    IsBucketDeposit l (l.creditOwnerEarnedCredits env ownerId amount ref description).2 ownerId .earned
      amount ("owner-earning:" ++ strip ref) "expense:provider_earnings" providerEarningsExpense := by
  fun_cases creditOwnerEarnedCredits with
  | case4 owner howner hpos => exact l.creditBucket_deposit env howner hpos _ _ _ _ _
  | _ => exact .inl rfl

/-! ### Spending and holds -/

def spendPostings (owner : OwnerId) (allocations : List (Bucket × ℤ))
    (destinations : List CreditDestination) : List PostingFields :=
  bucketDebits owner allocations ++ destinationCredits destinations

theorem recordOwnerSpend_cases (owner : OwnerId)
    (allocations : List (Bucket × ℤ)) (ds : List CreditDestination) (event description : String) :
    ((l.recordOwnerSpend env owner allocations ds event description).2 = l ∧
        ∃ e, (l.recordOwnerSpend env owner allocations ds event description).1 = .error e) ∨
      (Recorded l (l.recordOwnerSpend env owner allocations ds event description).2 event
          (spendPostings owner allocations ds) ∧
        (l.Healthy → ∃ r, (l.recordOwnerSpend env owner allocations ds event description).1 = .ok r)) := by
  fun_cases recordOwnerSpend with
  | case1 e => exact .inl ⟨rfl, e, rfl⟩
  | case2 hnew e l' h =>
    unfold commitNew at h
    split at h
    · cases h
      exact .inl ⟨rfl, e, rfl⟩
    · rename_i tx htx
      obtain ⟨-, hevent, -, -, hfields⟩ := newTransaction_ok htx
      refine .inr ⟨⟨tx, hevent, hfields, ensureNewEvent_ok hnew, ?_⟩, fun hh => ?_⟩
      · rw [← commit_snd, h]
      · rw [commit_of_healthy hh] at h
        cases h
  | case3 hnew tx' l' h =>
    unfold commitNew at h
    split at h
    · cases h
    · rename_i tx htx
      obtain ⟨-, hevent, -, -, hfields⟩ := newTransaction_ok htx
      refine .inr ⟨⟨tx, hevent, hfields, ensureNewEvent_ok hnew, ?_⟩, fun _ => ⟨_, rfl⟩⟩
      rw [← commit_snd, h]

theorem spendOwnerCredits_cases (ownerId : String) (amount : ℤ)
    (ds : List CreditDestination) (ref description : String) :
    ∃ l₁, Swept env.time l l₁ ∧ ((l.spendOwnerCredits env ownerId amount ds ref description).2 = l₁ ∨
        ∃ owner allocations, cleanOwner ownerId = .ok owner ∧ IsAllocation l env.time owner none amount allocations ∧
          (∀ d ∈ ds, 0 < d.amountMicroUnits) ∧
          Recorded l₁ (l.spendOwnerCredits env ownerId amount ds ref description).2
            ("owner-spend:" ++ strip ref) (spendPostings owner allocations ds)) := by
  fun_cases spendOwnerCredits with
  | case4 owner _ _ items _ e l' h =>
    have hswept := (l.allocateSpend_cases env owner amount none).1
    rw [h] at hswept
    exact ⟨l', hswept, .inl rfl⟩
  | case5 owner howner _ items hitems allocations l' h =>
    obtain ⟨rfl, hds, -⟩ := validateDestinations_ok hitems
    obtain ⟨hswept, halloc⟩ := l.allocateSpend_cases env owner amount none
    rw [h] at hswept halloc
    refine ⟨l', hswept, ?_⟩
    rcases l'.recordOwnerSpend_cases env owner allocations items _ description with ⟨hsame, -⟩ | ⟨hrec, -⟩
    · exact .inl hsame
    · exact .inr ⟨owner, allocations, howner, halloc allocations rfl, hds, hrec⟩
  | _ => exact ⟨l, Swept.refl _ _, .inl rfl⟩

/-- The hold `create_owner_hold` stores. -/
structure IsNewOwnerHold (l : Ledger) (now : ℚ) (amount : ℤ) (hold : OwnerCreditHold) : Prop where
  active : hold.status = .active
  allocation : IsAllocation l now hold.ownerId none amount hold.allocations
  unused : l.ownerHolds.get? hold.holdId = none

theorem contains_expireOwnerHolds (l : Ledger) (now : ℚ) (owner : OwnerId) (ex : Option String)
    (k : String) : (l.expireOwnerHolds now owner ex).ownerHolds.get? k = none ↔ l.ownerHolds.get? k = none := by
  rw [expireOwnerHolds, Dict.get?_mapValues, Option.map_eq_none_iff]

theorem Swept.unused {l l₁ : Ledger} (h : Swept now l l₁) (k : String) :
    l₁.ownerHolds.get? k = none ↔ l.ownerHolds.get? k = none := by
  rcases h with rfl | ⟨owner, ex, rfl⟩
  · exact Iff.rfl
  · exact contains_expireOwnerHolds l now owner ex k

theorem createOwnerHold_cases (ownerId : String) (amount : ℤ) (purpose : String) (ttl : ℚ) (holdId : Option String) :
    ∃ l₁, Swept env.time l l₁ ∧ ((l.createOwnerHold env ownerId amount purpose ttl holdId).2 = l₁ ∨
        ∃ hold, cleanOwner ownerId = .ok hold.ownerId ∧ IsNewOwnerHold l env.time amount hold ∧
          (l.createOwnerHold env ownerId amount purpose ttl holdId).2 = l₁.storeOwnerHold hold.holdId hold) := by
  fun_cases createOwnerHold with
  | case1 => exact ⟨l, Swept.refl _ _, .inl rfl⟩
  | case2 owner _ e l' h | case3 owner _ allocations l' h =>
    have hswept := (l.allocateSpend_cases env owner amount none).1
    rw [h] at hswept
    exact ⟨l', hswept, .inl rfl⟩
  | case4 owner howner allocations l' h hid hunused =>
    obtain ⟨hswept, halloc⟩ := l.allocateSpend_cases env owner amount none
    rw [h] at hswept halloc
    have hnone : l.ownerHolds.get? hid = none := by
      rw [← hswept.unused]
      simpa [Dict.contains] using hunused
    exact ⟨l', hswept, .inr ⟨⟨hid, owner, amount, allocations, orDefault (some purpose) "inference", env.isoNow,
      env.time + max 5 ttl, .active⟩, howner, ⟨rfl, halloc allocations rfl, hnone⟩, rfl⟩⟩

theorem releaseOwnerHold_cases (l : Ledger) (holdId : String) : (l.releaseOwnerHold holdId).2 = l ∨
      ∃ hold, l.ownerHolds.get? holdId = some hold ∧
        (l.releaseOwnerHold holdId).2 = l.storeOwnerHold holdId { hold with status := .released } := by
  fun_cases releaseOwnerHold with
  | case3 hold hget => exact .inr ⟨hold, hget, rfl⟩
  | _ => exact .inl rfl

/-- What a capture spends: a part of the hold's own allocation, or a fresh one that leaves the hold
out of account. -/
def IsCaptureAllocation (l : Ledger) (now : ℚ) (hold : OwnerCreditHold) (selected : List (Bucket × ℤ)) : Prop :=
  (∃ actual, 0 < actual ∧ selected = (takeInOrder hold.allocations actual).1) ∨
    ∃ actual, IsAllocation l now hold.ownerId (some hold.holdId) actual selected

theorem captureAllocations_cases (hold : OwnerCreditHold) (actual : ℤ) :
    Swept env.time l (l.captureAllocations env hold actual).2 ∧
      ∀ selected, (l.captureAllocations env hold actual).1 = .ok selected →
        (actual ≤ hold.amountMicroUnits ∧ selected = (takeInOrder hold.allocations actual).1) ∨
          (hold.amountMicroUnits < actual ∧
            IsAllocation l env.time hold.ownerId (some hold.holdId) actual selected) := by
  unfold captureAllocations
  split
  · rename_i hle
    refine ⟨Swept.refl _ _, fun selected h => ?_⟩
    cases h
    exact .inl ⟨hle, rfl⟩
  · rename_i hgt
    obtain ⟨hs, ha⟩ := l.allocateSpend_cases env hold.ownerId actual (some hold.holdId)
    exact ⟨hs, fun selected h => .inr ⟨not_le.mp hgt, ha selected h⟩⟩

theorem captureOwnerHold_outcome (holdId : String) (actual : ℤ)
    (ds : List CreditDestination) (ref description : String) :
    (l.captureOwnerHold env holdId actual ds ref description).2 = l ∨
      ∃ hold, l.ownerHolds.get? holdId = some hold ∧
        ((¬hold.IsActive env.time ∧ (l.captureOwnerHold env holdId actual ds ref description).2
            = l.storeOwnerHold holdId { hold with status := .expired }) ∨
          (hold.IsActive env.time ∧ ∃ l₁, Swept env.time l l₁ ∧
            ((l.captureOwnerHold env holdId actual ds ref description).2 = l₁ ∨
              ∃ l₂ selected, 0 < actual ∧ (l.captureAllocations env hold actual).1 = .ok selected ∧
                (∀ d ∈ ds, 0 < d.amountMicroUnits) ∧
                Recorded l₁ l₂ ("owner-spend:" ++ strip ref) (spendPostings hold.ownerId selected ds) ∧
                ((¬l₁.Healthy ∧
                    (l.captureOwnerHold env holdId actual ds ref description).2 = l₂) ∨
                  (l.captureOwnerHold env holdId actual ds ref description).2
                    = l₂.storeOwnerHold holdId { hold with status := .captured })))) := by
  fun_cases captureOwnerHold with
  | case6 _ _ _ _ hold hget _ hexpired => exact .inr ⟨hold, hget, .inl ⟨hexpired, rfl⟩⟩
  | case7 _ _ _ _ hold hget _ hactive e l' h =>
    have hswept := (l.captureAllocations_cases env hold actual).1
    rw [h] at hswept
    exact .inr ⟨hold, hget, .inr ⟨not_not.mp hactive, l', hswept, .inl rfl⟩⟩
  | case8 _ hpos items hitems hold hget _ hactive selected l' h e l'' hspend =>
    obtain ⟨rfl, hds, -⟩ := validateDestinations_ok hitems
    have hswept := (l.captureAllocations_cases env hold actual).1
    rw [h] at hswept
    refine .inr ⟨hold, hget, .inr ⟨not_not.mp hactive, l', hswept, ?_⟩⟩
    rcases l'.recordOwnerSpend_cases env hold.ownerId selected items _ description with ⟨hsame, -⟩ | ⟨hrec, hok⟩
    · rw [hspend] at hsame
      exact .inl hsame
    · rw [hspend] at hrec hok
      refine .inr ⟨l'', selected, not_le.mp hpos, by rw [h], hds, hrec, .inl ⟨fun hh => ?_, rfl⟩⟩
      obtain ⟨r, hr⟩ := hok hh
      cases hr
  | case9 _ hpos items hitems hold hget _ hactive selected l' h result l'' hspend =>
    obtain ⟨rfl, hds, -⟩ := validateDestinations_ok hitems
    have hswept := (l.captureAllocations_cases env hold actual).1
    rw [h] at hswept
    refine .inr ⟨hold, hget, .inr ⟨not_not.mp hactive, l', hswept, ?_⟩⟩
    rcases l'.recordOwnerSpend_cases env hold.ownerId selected items _ description with ⟨-, e, herr⟩ | ⟨hrec, -⟩
    · rw [hspend] at herr
      cases herr
    · rw [hspend] at hrec
      exact .inr ⟨l'', selected, not_le.mp hpos, by rw [h], hds, hrec, .inr rfl⟩
  | _ => exact .inl rfl

theorem captureOwnerHold_cases (holdId : String) (actual : ℤ)
    (ds : List CreditDestination) (ref description : String) :
    (l.captureOwnerHold env holdId actual ds ref description).2 = l ∨ ∃ hold, l.ownerHolds.get? holdId = some hold ∧
        ((¬hold.IsActive env.time ∧ (l.captureOwnerHold env holdId actual ds ref description).2
            = l.storeOwnerHold holdId { hold with status := .expired }) ∨
          (hold.IsActive env.time ∧ ∃ l₁, Swept env.time l l₁ ∧
            ((l.captureOwnerHold env holdId actual ds ref description).2 = l₁ ∨
              ∃ l₂ selected, IsCaptureAllocation l env.time hold selected ∧ (∀ d ∈ ds, 0 < d.amountMicroUnits) ∧
                Recorded l₁ l₂ ("owner-spend:" ++ strip ref) (spendPostings hold.ownerId selected ds) ∧
                ((¬l₁.Healthy ∧ (l.captureOwnerHold env holdId actual ds ref description).2 = l₂) ∨
                  (l.captureOwnerHold env holdId actual ds ref description).2
                    = l₂.storeOwnerHold holdId { hold with status := .captured })))) := by
  rcases l.captureOwnerHold_outcome env holdId actual ds ref description with
    h | ⟨hold, hget, h | ⟨hactive, l₁, hs, h | ⟨l₂, selected, hpos, hsel, hrest⟩⟩⟩
  · exact .inl h
  · exact .inr ⟨hold, hget, .inl h⟩
  · exact .inr ⟨hold, hget, .inr ⟨hactive, l₁, hs, .inl h⟩⟩
  · refine .inr ⟨hold, hget, .inr ⟨hactive, l₁, hs, .inr ⟨l₂, selected, ?_, hrest⟩⟩⟩
    rcases (l.captureAllocations_cases env hold actual).2 selected hsel with ⟨-, h⟩ | ⟨-, h⟩
    · exact .inl ⟨actual, hpos, h⟩
    · exact .inr ⟨actual, h⟩

/-! ### Withdrawals -/

def withdrawalReservePostings (owner : OwnerId) (amount : ℤ) : List PostingFields :=
  [{ accountId := ownerBucketAccount owner .earned, accountType := ownerEarned,
     debitMicroUnits := amount },
   { accountId := pendingAccountOf owner.val, accountType := ownerWithdrawalPending,
     creditMicroUnits := amount }]

def withdrawalFinalizePostings (owner : String) (amount : ℤ) : List PostingFields :=
  [{ accountId := pendingAccountOf owner, accountType := ownerWithdrawalPending,
     debitMicroUnits := amount },
   { accountId := "gateway:escrow", accountType := paymentGatewayEscrow, creditMicroUnits := amount }]

def withdrawalCancelPostings (owner : OwnerId) (amount : ℤ) : List PostingFields :=
  [{ accountId := pendingAccountOf owner.val, accountType := ownerWithdrawalPending,
     debitMicroUnits := amount },
   { accountId := ownerBucketAccount owner .earned, accountType := ownerEarned,
     creditMicroUnits := amount }]

theorem reserveOwnerWithdrawal_cases (ownerId : String) (amount : ℤ) (ref : String) : ∃ l₁, Swept env.time l l₁ ∧
      ((l.reserveOwnerWithdrawal env ownerId amount ref).2 = l₁ ∨
        ∃ owner, owner.val = strip ownerId ∧ 0 < amount ∧ amount ≤ max 0
            (l.bucketBalance owner .earned - l.reservedByBucket env.time owner none .earned) ∧
          Recorded l₁ (l.reserveOwnerWithdrawal env ownerId amount ref).2
            ("owner-withdrawal-reserve:" ++ strip ref) (withdrawalReservePostings owner amount)) := by
  obtain ⟨hswept, hw⟩ := l.ownerWithdrawable_cases env (strip ownerId)
  fun_cases reserveOwnerWithdrawal with
  | case4 _ _ _ _ _ _ e l' h | case5 _ _ _ _ _ _ w l' h | case6 _ _ _ _ _ _ w l' h =>
    rw [h] at hswept
    exact ⟨l', hswept, .inl rfl⟩
  | case7 _ _ _ hpos _ hnew w l' h hcover owner howner =>
    rw [h] at hswept hw
    obtain ⟨owner', howner', hwithdrawable⟩ := hw w rfl
    obtain rfl : owner' = owner := Except.ok.inj (howner'.symm.trans howner)
    have hval : owner'.val = strip ownerId := by
      rw [cleanOwner_ok howner, strip_strip]
    have hunseen : l'.Unseen ("owner-withdrawal-reserve:" ++ strip ref) := by
      have := ensureNewEvent_ok hnew
      unfold Unseen transactionForEvent at *
      rwa [hswept.journal]
    refine ⟨l', hswept, ?_⟩
    rcases l'.commitNew_cases _ _ _ _ hunseen with hsame | hrec
    · exact .inl hsame
    · refine .inr ⟨owner', hval, not_le.mp hpos, by omega, ?_⟩
      rw [withdrawalReservePostings, hval]
      exact hrec
  | _ => exact ⟨l, Swept.refl _ _, .inl rfl⟩

theorem pending_ok {l : Ledger} {owner : String} {pending : ℤ}
    (h : l.ownerWithdrawalPendingMicroUnits (strip owner) = .ok pending) :
    pending = l.rawBalance (pendingAccountOf (strip owner)) := by
  simp only [ownerWithdrawalPendingMicroUnits, pendingAccount, strip_strip] at h
  split at h
  · cases h
  · rename_i account haccount
    split at haccount
    · cases haccount
    · cases haccount
      cases h
      rfl

theorem finalizeOwnerWithdrawal_cases (ownerId : String) (amount : ℤ) (ref : String) :
    (l.finalizeOwnerWithdrawal env ownerId amount ref).2 = l ∨
      (0 < amount ∧ amount ≤ l.rawBalance (pendingAccountOf (strip ownerId)) ∧
        Recorded l (l.finalizeOwnerWithdrawal env ownerId amount ref).2 ("owner-withdrawal-finalize:" ++ strip ref)
          (withdrawalFinalizePostings (strip ownerId) amount)) := by
  fun_cases finalizeOwnerWithdrawal with
  | case5 _ _ hpos _ hnew pending hpending hcover =>
    rcases l.commitNew_cases _ _ _ _ (ensureNewEvent_ok hnew) with hsame | hrec
    · exact .inl hsame
    · exact .inr ⟨not_le.mp hpos, by rw [← pending_ok hpending]; omega, hrec⟩
  | _ => exact .inl rfl

theorem cancelOwnerWithdrawal_cases (ownerId : String) (amount : ℤ) (ref : String) :
    (l.cancelOwnerWithdrawal env ownerId amount ref).2 = l ∨
      ∃ owner, owner.val = strip ownerId ∧ 0 < amount ∧ Recorded l (l.cancelOwnerWithdrawal env ownerId amount ref).2
          ("owner-withdrawal-cancel:" ++ strip ref) (withdrawalCancelPostings owner amount) := by
  fun_cases cancelOwnerWithdrawal with
  | case5 _ _ hpos _ hnew _ _ owner howner =>
    have hval : owner.val = strip ownerId := by rw [cleanOwner_ok howner, strip_strip]
    rcases l.commitNew_cases _ _ _ _ (ensureNewEvent_ok hnew) with hsame | hrec
    · exact .inl hsame
    · refine .inr ⟨owner, hval, not_le.mp hpos, ?_⟩
      rw [withdrawalCancelPostings, hval]
      exact hrec
  | _ => exact .inl rfl

/-! ### Confidential reservations -/

theorem reserveConfidentialCredits_cases (ownerId reservationId : String) (amount : ℤ) : ∃ l₁, Swept env.time l l₁ ∧
      ((l.reserveConfidentialCredits env ownerId reservationId amount).2 = l₁ ∨
        ∃ owner ref allocations, cleanOwner ownerId = .ok owner ∧
          cleanReservationId reservationId = .ok ref ∧
          IsAllocation l env.time owner none amount allocations ∧
          Recorded l₁ (l.reserveConfidentialCredits env ownerId reservationId amount).2
            (reserveEvent ref) (reservePostings owner ref allocations)) := by
  fun_cases reserveConfidentialCredits with
  | case7 owner _ _ _ _ _ e l' h =>
    have hswept := (l.allocateSpend_cases env owner amount none).1
    rw [h] at hswept
    exact ⟨l', hswept, .inl rfl⟩
  | case8 owner ref href howner _ hnone allocations l' h _ l'' h'
  | case9 owner ref href howner _ hnone allocations l' h _ l'' h' =>
    obtain ⟨hswept, halloc⟩ := l.allocateSpend_cases env owner amount none
    rw [h] at hswept halloc
    have hunseen : l'.Unseen (reserveEvent ref) := by
      right
      unfold transactionForEvent at hnone ⊢
      rwa [hswept.journal]
    refine ⟨l', hswept, ?_⟩
    rcases l'.commitNew_cases _ env.isoNow _ (reservePostings owner ref allocations) hunseen with hsame | hrec
    · rw [h'] at hsame
      exact .inl hsame
    · rw [h'] at hrec
      exact .inr ⟨owner, ref, allocations, howner, href, halloc allocations rfl, hrec⟩
  | _ => exact ⟨l, Swept.refl _ _, .inl rfl⟩

/-- A reservation that can still be settled or released: its reserve transaction is in the journal,
neither end event is, and every sub-account holds what was moved into it. -/
structure IsOpenReservation (l : Ledger) (owner : OwnerId) (ref : ReservationId) (tx : Transaction)
    (allocations : List (Bucket × ℤ)) : Prop where
  reserve : l.transactionForEvent (reserveEvent ref) = some tx
  notSettled : l.transactionForEvent (settleEvent ref) = none
  notReleased : l.transactionForEvent (releaseEvent ref) = none
  allocations_eq : readAllocations owner ref tx.fields spendOrder = .ok allocations
  total_pos : 0 < (allocations.map Prod.snd).sum
  subAccounts : l.SubAccountsMatch owner ref allocations

theorem getConfidentialReservation_ok {l : Ledger} {owner : OwnerId} {ref : ReservationId}
    {r : ConfidentialCreditReservation} (h : l.getConfidentialReservation owner ref = .ok (some r)) :
    l.transactionForEvent (reserveEvent ref) = some r.reserveTransaction ∧
      readAllocations owner ref r.reserveTransaction.fields spendOrder = .ok r.allocations ∧
      0 < (r.allocations.map Prod.snd).sum ∧
      r.amountMicroUnits = (r.allocations.map Prod.snd).sum := by
  revert h
  fun_cases getConfidentialReservation with
  | case3 tx htx r' hr =>
    intro h
    cases h
    unfold reservationFromTransaction at hr
    split at hr
    · cases hr
    · rename_i allocations halloc
      simp only at hr
      split at hr
      · cases hr
      · rename_i htotal
        cases hr
        exact ⟨htx, halloc, not_le.mp htotal, rfl⟩
  | _ => exact nofun

theorem releaseConfidentialReservation_cases (ownerId reservationId : String) :
    (l.releaseConfidentialReservation env ownerId reservationId).2 = l ∨
      ∃ owner ref tx allocations, cleanOwner ownerId = .ok owner ∧
        cleanReservationId reservationId = .ok ref ∧ IsOpenReservation l owner ref tx allocations ∧
        Recorded l (l.releaseConfidentialReservation env ownerId reservationId).2 (releaseEvent ref)
          (releasePostings owner ref allocations) := by
  fun_cases releaseConfidentialReservation with
  | case7 owner ref href howner hreleased hsettled r hr hmatch =>
    obtain ⟨htx, halloc, htotal, -⟩ := getConfidentialReservation_ok hr
    rcases l.commitNew_cases _ _ _ _ (.inr hreleased) with hsame | hrec
    · exact .inl hsame
    · exact .inr ⟨owner, ref, r.reserveTransaction, r.allocations, howner, href,
        ⟨htx, by simpa using hsettled, hreleased, halloc, htotal, hmatch⟩, hrec⟩
  | _ => exact .inl rfl

theorem settleConfidentialReservation_cases (ownerId reservationId : String)
    (actual : ℤ) (ds : List CreditDestination) :
    (l.settleConfidentialReservation env ownerId reservationId actual ds).2 = l ∨
      ∃ owner ref tx allocations, cleanOwner ownerId = .ok owner ∧
        cleanReservationId reservationId = .ok ref ∧ IsOpenReservation l owner ref tx allocations ∧
        0 < actual ∧ actual ≤ (allocations.map Prod.snd).sum ∧
        (settlePostings owner ref allocations actual).2 = 0 ∧
        (∀ d ∈ ds, 0 < d.amountMicroUnits) ∧
        (ds.map CreditDestination.amountMicroUnits).sum = actual ∧
        Recorded l (l.settleConfidentialReservation env ownerId reservationId actual ds).2
          (settleEvent ref)
          ((settlePostings owner ref allocations actual).1 ++ destinationCredits ds) := by
  fun_cases settleConfidentialReservation with
  | case12 owner ref href howner hpos items hitems r hr hsettled hreleased hcover hmatch taken hrest _ l' h'
  | case13 owner ref href howner hpos items hitems r hr hsettled hreleased hcover hmatch taken hrest _ l' h'
  | case14 owner ref href howner hpos items hitems r hr hsettled hreleased hcover hmatch taken hrest _ l' h' =>
    obtain ⟨rfl, hds, hsum⟩ := validateDestinations_ok hitems
    obtain ⟨htx, halloc, htotal, hamount⟩ := getConfidentialReservation_ok hr
    rcases l.commitNew_cases _ env.isoNow _ (taken.1 ++ destinationCredits items) (.inr hsettled) with hsame | hrec
    · rw [h'] at hsame
      exact .inl hsame
    · rw [h'] at hrec
      exact .inr ⟨owner, ref, r.reserveTransaction, r.allocations, howner, href,
        ⟨htx, hsettled, by simpa using hreleased, halloc, htotal, not_not.mp hmatch⟩, not_le.mp hpos,
        by rw [← hamount]; omega, not_not.mp hrest, hds, hsum, hrec⟩
  | _ => exact .inl rfl

end

end Ledger

end ComputeMesh.Billing
