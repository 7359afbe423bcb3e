import ComputeMesh.Billing.OwnerJobBalance
import ComputeMesh.Billing.PostingEffects
import ComputeMesh.Billing.LedgerRuns

/-!
# Self-compute earns nothing

An owner who runs a job on its own nodes must not be paid for it: otherwise purchased or promo credit would
come back as earned credit, which can be withdrawn.  The quote knows own nodes by comparing the share's owner
id, as it was given, with the stripped id of the customer; the ledger strips the id it credits.

* `earns_iff` — which destinations of a quote are the earned bucket of an owner;
* `settleOwnerJob`, `captureOwnerJobHold` — the two ways a quote reaches the ledger;
* `OwnerMove.run_earned_le` — a step of the owner leaves its earned bucket where it was, or lower;
* `self_compute_never_earns` — **a quote pays its customer exactly when an own share is spelled differently**
  and leaves something after the fee; where none is, no sequence of jobs raises the earned bucket.
-/

namespace ComputeMesh.Billing

open ComputeMesh.Text List

attribute [local irreducible] Ledger.spendOwnerCredits Ledger.captureOwnerHold

/-! ### Who earns by a quote -/

theorem get?_addEarned_of_ne_zero {s : ProviderSettlementShare} {d : Dict String ℤ}
    (h : s.providerEarnedMicroUnits ≠ 0) :
    (addEarned d s).get? s.ownerId = some (d.getD s.ownerId 0 + s.providerEarnedMicroUnits) := by
  simp [addEarned, h, Dict.addAt]

theorem get?_addEarned_of_some {s : ProviderSettlementShare} {d : Dict String ℤ} {k : String} {held : ℤ}
    (h : d.get? k = some held) : ∃ x, (addEarned d s).get? k = some x := by
  unfold addEarned
  split
  · exact ⟨held, h⟩
  · rw [Dict.addAt, Dict.get?_set]
    split
    · exact ⟨_, rfl⟩
    · exact ⟨held, h⟩

/-- **A share that earns** puts its owner into the dictionary. -/
theorem earnedByOwner_of_mem {settled : List ProviderSettlementShare} {s : ProviderSettlementShare}
    (hs : s ∈ settled) (hearned : s.providerEarnedMicroUnits ≠ 0) :
    ∃ x, (earnedByOwner settled).get? s.ownerId = some x := by
  have hkeep : ∀ (rest : List ProviderSettlementShare) (d : Dict String ℤ) (k : String) (held : ℤ),
      d.get? k = some held → ∃ x, (rest.foldl addEarned d).get? k = some x := by
    intro rest
    induction rest with
    | nil => exact fun d k held h => ⟨held, h⟩
    | cons t rest ih =>
      intro d k held h
      obtain ⟨x, hx⟩ := get?_addEarned_of_some (s := t) h
      exact ih (addEarned d t) k x hx
  have hfold : ∀ (d : Dict String ℤ), ∃ x, (settled.foldl addEarned d).get? s.ownerId = some x := by
    induction settled with
    | nil => cases hs
    | cons t rest ih =>
      intro d
      simp only [foldl_cons]
      rcases mem_cons.mp hs with rfl | hs
      · exact hkeep rest _ _ _ (get?_addEarned_of_ne_zero hearned)
      · exact ih hs _
  exact hfold .empty

theorem mem_earnedDestinations {earned : List (String × ℤ)} {ds : List CreditDestination}
    (h : earnedDestinations earned = .ok ds) {e : String × ℤ} (he : e ∈ earned) (hne : e.2 ≠ 0) :
    ∃ owner : OwnerId, owner.val = strip e.1 ∧ ∃ d ∈ ds, d.accountId = ownerBucketAccount owner .earned := by
  induction earned generalizing ds with
  | nil => cases he
  | cons x rest ih =>
    obtain ⟨ownerId, amount⟩ := x
    unfold earnedDestinations at h
    split at h
    · rename_i hzero
      rcases mem_cons.mp he with rfl | he
      · exact absurd hzero hne
      · exact ih h he
    · split at h
      · cases h
      · rename_i owner howner
        split at h
        · cases h
        · rename_i others hothers
          cases h
          rcases mem_cons.mp he with rfl | he
          · exact ⟨owner, cleanOwner_ok howner, _, mem_cons_self, rfl⟩
          · obtain ⟨other, hother, d, hd, haccount⟩ := ih hothers he
            exact ⟨other, hother, d, mem_cons_of_mem _ hd, haccount⟩

/-- **Which destinations are the earned bucket of an owner**: those of the shares that earn and whose owner id
is, stripped, that owner. -/
theorem earns_iff {customerOwner : String} {quote : OwnerJobQuote} (hquote : IsQuote customerOwner quote)
    (hnonneg : ∀ s ∈ quote.providerShares, 0 ≤ s.providerEarnedMicroUnits) {ds : List CreditDestination}
    (hds : quoteDestinations quote = .ok ds) (owner : OwnerId) :
    (∃ d ∈ ds, d.accountId = ownerBucketAccount owner .earned) ↔
      ∃ s ∈ quote.providerShares, s.providerEarnedMicroUnits ≠ 0 ∧ strip s.ownerId = owner.val := by
  constructor
  · rintro ⟨d, hd, haccount⟩
    rcases mem_quoteDestinations hquote hds hd with hfee | ⟨s, hs, hpaid, other, hother, hd⟩
    · exact absurd (haccount.symm.trans hfee)
        (ownerBucketAccount_ne_of_head owner .earned (show "revenue:network_fee".toList.head? ≠ _ from by decide))
    · have hsame : other = owner := (ownerBucketAccount_inj (hd.symm.trans haccount)).1
      exact ⟨s, hs, hpaid, by rw [← hother, hsame]⟩
  · rintro ⟨s, hs, hpaid, hsame⟩
    obtain ⟨earned, hearned, rfl⟩ := quoteDestinations_ok hds
    obtain ⟨x, hx⟩ := earnedByOwner_of_mem hs hpaid
    have hpos := earnedByOwner_pos hnonneg hx
    have he : (s.ownerId, x) ∈ quote.providerEarnedByOwner := by
      rw [hquote.earned]
      exact mem_sortedItems.mpr hx
    obtain ⟨other, hother, d, hd, haccount⟩ := mem_earnedDestinations hearned he (by simpa using hpos.ne')
    refine ⟨d, mem_append_right _ hd, ?_⟩
    have : other = owner := OwnerId.ext_val (hother.trans hsame)
    rw [haccount, this]

/-! ### The shares of a quote and their parts of the gross amount -/

section

variable {R : Type} [OwnerShareRatio R]

/-- The proportional quotients, where they exist, are not negative: ratios and gross amounts are positive. -/
def QuotientsNonneg (gross : ℤ) (shares : List (ProviderOwnerShare R)) : Prop :=
  ∀ s ∈ shares, ∀ n : ℤ,
    LayerRatio.shareUnits gross s.ratio (LayerRatio.totalShares (shares.map ProviderOwnerShare.ratio)) = .ok n → 0 ≤ n

theorem grossAmounts_nonneg {gross : ℤ} {total : R} {ratios : List R} {remaining : ℤ} {amounts : List ℤ}
    (h : grossAmounts gross total ratios remaining = .ok amounts)
    (hunits : ∀ r ∈ ratios, ∀ n : ℤ, LayerRatio.shareUnits gross r total = .ok n → 0 ≤ n)
    (hremaining : 0 ≤ remaining) : amounts.length = ratios.length ∧ ∀ a ∈ amounts, 0 ≤ a := by
  induction ratios generalizing remaining amounts with
  | nil =>
    cases h
    simp
  | cons r rest ih =>
    cases rest with
    | nil =>
      cases h
      simpa using hremaining
    | cons next rest =>
      simp only [grossAmounts] at h
      split at h
      · cases h
      · rename_i n hn
        split at h
        · cases h
        · rename_i others hothers
          cases h
          have hnonneg := hunits r mem_cons_self n hn
          obtain ⟨hlength, hrest⟩ := ih hothers (fun s hs => hunits s (mem_cons_of_mem _ hs)) (by omega)
          refine ⟨by simp [hlength], ?_⟩
          intro a ha
          rcases mem_cons.mp ha with rfl | ha
          · omega
          · exact hrest a ha

theorem allocateGross_nonneg {gross : ℤ} {shares : List (ProviderOwnerShare R)} {amounts : List ℤ}
    (h : allocateGross gross shares = .ok amounts) (hunits : QuotientsNonneg gross shares) :
    amounts.length = shares.length ∧ ∀ a ∈ amounts, 0 ≤ a := by
  obtain ⟨hgross, -, -, hamounts⟩ := allocateGross_ok h
  have hratios : ∀ r ∈ shares.map ProviderOwnerShare.ratio, ∀ n : ℤ, LayerRatio.shareUnits gross r
      (LayerRatio.totalShares (shares.map ProviderOwnerShare.ratio)) = .ok n → 0 ≤ n := by
    intro r hr n hn
    obtain ⟨s, hs, rfl⟩ := mem_map.mp hr
    exact hunits s hs n hn
  simpa using grossAmounts_nonneg hamounts hratios hgross.le

/-- **The own shares are known as such**: a share whose owner id is, stripped, the customer's is spelled like
the customer's, or the marketplace fee leaves nothing of its part of the gross amount. -/
def OwnSharesKnown (customerOwner : String) (gross : ℤ) (shares : List (ProviderOwnerShare R))
    (marketplaceFeeBps : ℤ) : Prop :=
  ∀ amounts, allocateGross gross shares = .ok amounts → ∀ p ∈ shares.zip amounts,
    strip p.1.ownerId = customerOwner → p.1.ownerId = customerOwner ∨ p.2 = 0 ∨ 10000 ≤ marketplaceFeeBps ∨
      (p.2 = 1 ∧ 0 < marketplaceFeeBps)

omit [OwnerShareRatio R] in
theorem settleShare_earned (customerOwner : String) (marketplaceFee selfFee : ℤ) (share : ProviderOwnerShare R)
    {gross : ℤ} (h : 0 ≤ gross) :
    (settleShare customerOwner marketplaceFee selfFee share gross).providerEarnedMicroUnits = 0 ↔
      share.ownerId = customerOwner ∨ gross = 0 ∨ 10000 ≤ marketplaceFee ∨ (gross = 1 ∧ 0 < marketplaceFee) := by
  unfold settleShare
  split
  · rename_i hself
    simp [hself]
  · rename_i hforeign
    rw [← feeForShare_eq_self_iff h]
    simp only [hforeign, false_or]
    omega

/-- **A quote pays its customer exactly when an own share goes unknown.** -/
theorem quote_pays_customer_iff {customerOwnerId : String} {gross : ℤ} {shares : List (ProviderOwnerShare R)}
    {marketplaceFeeBps selfComputeFeeBps : ℤ} {quote : OwnerJobQuote} {ds : List CreditDestination}
    (hok : quoteOwnerJob customerOwnerId gross shares marketplaceFeeBps selfComputeFeeBps = .ok quote)
    (hds : quoteDestinations quote = .ok ds) (hunits : QuotientsNonneg gross shares) {owner : OwnerId}
    (howner : owner.val = strip customerOwnerId) :
    (∀ d ∈ ds, d.accountId ≠ ownerBucketAccount owner .earned) ↔
      OwnSharesKnown owner.val gross shares marketplaceFeeBps := by
  obtain ⟨amounts, hamounts, hshares, -, -, hquote⟩ := quoteOwnerJob_shares hok
  have hparts := (allocateGross_nonneg hamounts hunits).2
  rw [← howner] at hshares
  have hmem : ∀ s, s ∈ quote.providerShares ↔ ∃ p ∈ shares.zip amounts,
      settleShare owner.val marketplaceFeeBps selfComputeFeeBps p.1 p.2 = s := by
    intro s
    rw [hshares, ← map_uncurry_zip_eq_zipWith, mem_map]
    rfl
  have hnonneg : ∀ s ∈ quote.providerShares, 0 ≤ s.providerEarnedMicroUnits := by
    intro s hs
    obtain ⟨p, hp, rfl⟩ := (hmem s).mp hs
    exact (isSettled_settleShare _ _ _ _ (hparts p.2 (of_mem_zip hp).2)).earnedNonneg
  have hearns := earns_iff hquote hnonneg hds owner
  constructor
  · intro hnone amounts' hamounts' p hp hstrip
    obtain rfl : amounts = amounts' := by
      rw [hamounts] at hamounts'
      exact Except.ok.inj hamounts'
    by_contra hpaid
    rw [← settleShare_earned owner.val marketplaceFeeBps selfComputeFeeBps p.1 (hparts p.2 (of_mem_zip hp).2)]
      at hpaid
    obtain ⟨d, hd, haccount⟩ := hearns.mpr ⟨_, (hmem _).mpr ⟨p, hp, rfl⟩, hpaid, by
      rw [(settleShare_self _ _ _ p.1 p.2).2.1]
      exact hstrip⟩
    exact hnone d hd haccount
  · intro hknown d hd haccount
    obtain ⟨s, hs, hpaid, hstrip⟩ := hearns.mp ⟨d, hd, haccount⟩
    obtain ⟨p, hp, rfl⟩ := (hmem s).mp hs
    rw [(settleShare_self _ _ _ p.1 p.2).2.1] at hstrip
    exact hpaid ((settleShare_earned _ _ _ p.1 (hparts p.2 (of_mem_zip hp).2)).mpr
      (hknown amounts hamounts p hp hstrip))

end

/-! ### Settling a quote -/

/-- The description both settlements give a spend. -/
def settlementDescription (jobReference : String) (quote : OwnerJobQuote) : String :=
  s!"Owner-aware inference settlement {jobReference}; gross={quote.grossReferenceMicroUnits}, "
    ++ s!"self={quote.selfComputeGrossMicroUnits}, foreign={quote.foreignComputeGrossMicroUnits}"

namespace Ledger

/-- `capture_owner_job_hold`; `hold` is the caller's copy, the ledger looks its own one up. -/
def captureOwnerJobHold (l : Ledger) (env : Env) (hold : OwnerCreditHold) (quote : OwnerJobQuote) (jobId : String) :
    Except Exn (Option OwnerSpendResult) × Ledger :=
  if hold.ownerId.val ≠ quote.customerOwnerId then
    (.error (.billing "owner job quote does not belong to the hold owner"), l)
  else if hold.amountMicroUnits < quote.customerChargeMicroUnits then
    (.error (.billing "owner job customer charge exceeds the reserved hold"), l)
  else
    match cleanJobIdentifier jobId "job_id" with
    | .error e => (.error e, l)
    | .ok jobReference =>
      if quote.customerChargeMicroUnits = 0 then (.ok none, (l.releaseOwnerHold hold.holdId).2)
      else
        match quoteDestinations quote with
        | .error e => (.error e, l)
        | .ok destinations =>
          let (result, l') := l.captureOwnerHold env hold.holdId quote.customerChargeMicroUnits destinations
            ("job:" ++ jobReference) (settlementDescription jobReference quote)
          (result.map some, l')

def settleOwnerJob (l : Ledger) (env : Env) (jobId : String) (quote : OwnerJobQuote) (description : String) :
    Except Exn (Option OwnerSpendResult) × Ledger :=
  match cleanJobIdentifier jobId "job_id" with
  | .error e => (.error e, l)
  | .ok jobReference =>
    if quote.customerChargeMicroUnits = 0 then (.ok none, l)
    else
      match quoteDestinations quote with
      | .error e => (.error e, l)
      | .ok destinations =>
        let (result, l') := l.spendOwnerCredits env quote.customerOwnerId quote.customerChargeMicroUnits destinations
          ("job:" ++ jobReference) (orDefault (some description) (settlementDescription jobReference quote))
        (result.map some, l')

theorem captureOwnerJobHold_cases (l : Ledger) (env : Env) (hold : OwnerCreditHold) (quote : OwnerJobQuote)
    (jobId : String) :
    (l.captureOwnerJobHold env hold quote jobId).2 = l ∨
      (l.captureOwnerJobHold env hold quote jobId).2 = (l.releaseOwnerHold hold.holdId).2 ∨
      ∃ ds ref description, quoteDestinations quote = .ok ds ∧
        (l.captureOwnerJobHold env hold quote jobId).2 = (l.captureOwnerHold env hold.holdId
          quote.customerChargeMicroUnits ds ref description).2 := by
  fun_cases captureOwnerJobHold with
  | case4 => exact .inr (.inl rfl)
  | case6 _ _ _ _ _ ds hds result l' h => exact .inr (.inr ⟨ds, _, _, hds, by rw [h]⟩)
  | _ => exact .inl rfl

theorem settleOwnerJob_cases (l : Ledger) (env : Env) (jobId : String) (quote : OwnerJobQuote)
    (description : String) :
    (l.settleOwnerJob env jobId quote description).2 = l ∨ ∃ ds ref text, quoteDestinations quote = .ok ds ∧
        (l.settleOwnerJob env jobId quote description).2 = (l.spendOwnerCredits env quote.customerOwnerId
          quote.customerChargeMicroUnits ds ref text).2 := by
  fun_cases settleOwnerJob with
  | case4 _ _ _ ds hds result l' h => exact .inr ⟨ds, _, _, hds, by rw [h]⟩
  | _ => exact .inl rfl

end Ledger

/-! ### Runs of one owner -/

section

variable {R : Type} [OwnerShareRatio R]

/-- What a job is quoted by. -/
structure JobTerms (R : Type) where
  customerOwnerId : String
  grossReferenceMicroUnits : ℤ
  providerShares : List (ProviderOwnerShare R)
  marketplaceFeeBps : ℤ
  selfComputeFeeBps : ℤ

def JobTerms.quote (job : JobTerms R) : Except Exn OwnerJobQuote :=
  quoteOwnerJob job.customerOwnerId job.grossReferenceMicroUnits job.providerShares job.marketplaceFeeBps
    job.selfComputeFeeBps

/-- What an owner does: it fills its purchased and promo buckets, holds credit, and runs jobs. -/
inductive OwnerMove (R : Type)
  | purchase (amountMicroUnits : ℤ) (paymentReference : String)
  | promo (amountMicroUnits : ℤ) (grantReference policyVersion : String)
  | createHold (amountMicroUnits : ℤ) (purpose : String) (ttlSeconds : ℚ) (holdId : Option String)
  | releaseHold (holdId : String)
  | captureJob (job : JobTerms R) (hold : OwnerCreditHold) (jobId : String)
  | settleJob (job : JobTerms R) (jobId description : String)

namespace OwnerMove

def run (owner : OwnerId) (l : Ledger) (env : Env) : OwnerMove R → Ledger
  | purchase amount ref => (l.depositOwnerPurchasedCredits env owner.val amount ref).2
  | promo amount ref policy => (l.grantOwnerPromoCredits env owner.val amount ref policy).2
  | createHold amount purpose ttl holdId => (l.createOwnerHold env owner.val amount purpose ttl holdId).2
  | releaseHold holdId => (l.releaseOwnerHold holdId).2
  | captureJob job hold jobId =>
    match job.quote with
    | .error _ => l
    | .ok quote => (l.captureOwnerJobHold env hold quote jobId).2
  | settleJob job jobId description =>
    match job.quote with
    | .error _ => l
    | .ok quote => (l.settleOwnerJob env jobId quote description).2

def runAll (owner : OwnerId) (l : Ledger) (steps : List (Env × OwnerMove R)) : Ledger :=
  Run.exec (fun l step => step.2.run owner l step.1) l steps

/-- The job of a step, if it runs one, is the owner's, and its own shares are known. -/
def JobsKnown (owner : OwnerId) : OwnerMove R → Prop
  | captureJob job .. | settleJob job .. =>
    strip job.customerOwnerId = owner.val ∧ QuotientsNonneg job.grossReferenceMicroUnits job.providerShares ∧
      OwnSharesKnown owner.val job.grossReferenceMicroUnits job.providerShares job.marketplaceFeeBps
  | _ => True

theorem earned_le_of_spend {l l' : Ledger} {owner : OwnerId} {ds : List CreditDestination}
    (h : Op.JournalStep l l' fun _ fs => ∃ payer allocations, fs = Ledger.spendPostings payer allocations ds)
    (hds : ∀ d ∈ ds, d.accountId ≠ ownerBucketAccount owner .earned) :
    l'.rawBalance (ownerBucketAccount owner .earned) ≤ l.rawBalance (ownerBucketAccount owner .earned) := by
  rcases h with hsame | ⟨tx, -, ⟨payer, allocations, hfields⟩, hjournal⟩
  · simp [Ledger.rawBalance, hsame]
  · have hle : sumAt (bucketMoves payer allocations) (ownerBucketAccount owner .earned) ≥ 0 := by
      apply sumAt_nonneg
      intro e he _
      obtain ⟨a, ha, rfl⟩ := mem_map.mp he
      -- a debit of a recorded transaction is not negative
      have hposting : (⟨ownerBucketAccount payer a.1, a.1.accountType, a.2, 0⟩ : PostingFields) ∈ tx.fields := by
        rw [hfields]
        exact mem_append_left _ (mem_map.mpr ⟨a, ha, rfl⟩)
      obtain ⟨p, -, hp⟩ := mem_map.mp hposting
      have hnonneg := p.nonneg.1
      rw [hp] at hnonneg
      exact hnonneg
    have hbalance := @Ledger.rawBalance_of_recorded l l' tx hjournal (ownerBucketAccount owner .earned)
    rw [hfields, netChange_spendPostings, netChange_destinationCredits_of_ne hds] at hbalance
    omega

theorem earned_eq_of_bucketDeposit {l l' : Ledger} {owner : OwnerId} {b : Bucket} {ownerId event source type : String}
    {amount : ℤ} (h : Ledger.IsBucketDeposit l l' ownerId b amount event source type) (hb : b ≠ .earned)
    (htype : creditIncreases type = false) (hsource : source.toList.head? ≠ some 'o') :
    l'.rawBalance (ownerBucketAccount owner .earned) = l.rawBalance (ownerBucketAccount owner .earned) := by
  rcases h with rfl | ⟨payee, -, -, tx, -, hfields, -, rfl⟩
  · rfl
  · rw [Ledger.rawBalance_recorded, hfields, netChange_bucketCredit htype]
    have hother : ownerBucketAccount payee b ≠ ownerBucketAccount owner .earned :=
      fun heq => hb (ownerBucketAccount_inj heq).2
    have hne : source ≠ ownerBucketAccount owner .earned :=
      (ownerBucketAccount_ne_of_head owner .earned hsource).symm
    simp [hother, hne]

theorem destinations_ne_earned {owner : OwnerId} {job : JobTerms R} {quote : OwnerJobQuote}
    {ds : List CreditDestination} (hquote : job.quote = .ok quote) (hds : quoteDestinations quote = .ok ds)
    (hcustomer : strip job.customerOwnerId = owner.val)
    (hunits : QuotientsNonneg job.grossReferenceMicroUnits job.providerShares)
    (hknown : OwnSharesKnown owner.val job.grossReferenceMicroUnits job.providerShares job.marketplaceFeeBps) :
    ∀ d ∈ ds, d.accountId ≠ ownerBucketAccount owner .earned :=
  (quote_pays_customer_iff hquote hds hunits hcustomer.symm).mpr hknown

/-- **No step raises the earned bucket** of its owner. -/
theorem run_earned_le (owner : OwnerId) (l : Ledger) (env : Env) {step : OwnerMove R} (h : step.JobsKnown owner) :
    (step.run owner l env).rawBalance (ownerBucketAccount owner .earned)
      ≤ l.rawBalance (ownerBucketAccount owner .earned) := by
  cases step with
  | purchase amount ref =>
    exact (earned_eq_of_bucketDeposit (l.depositOwnerPurchasedCredits_cases env owner.val amount ref) (by decide)
      rfl (by decide)).le
  | promo amount ref policy =>
    exact (earned_eq_of_bucketDeposit (l.grantOwnerPromoCredits_cases env owner.val amount ref policy) (by decide)
      rfl (by decide)).le
  | createHold amount purpose ttl holdId =>
    obtain ⟨l₁, hswept, h | ⟨hold, -, -, h⟩⟩ := l.createOwnerHold_cases env owner.val amount purpose ttl holdId
    · show (l.createOwnerHold env owner.val amount purpose ttl holdId).2.rawBalance _ ≤ _
      rw [h, hswept.rawBalance]
    · show (l.createOwnerHold env owner.val amount purpose ttl holdId).2.rawBalance _ ≤ _
      rw [h]
      exact (hswept.rawBalance _).le
  | releaseHold holdId =>
    show (l.releaseOwnerHold holdId).2.rawBalance _ ≤ _
    rcases l.releaseOwnerHold_cases holdId with h | ⟨hold, -, h⟩
    · rw [h]
    · rw [h]
      exact le_refl _
  | captureJob job hold jobId =>
    obtain ⟨hcustomer, hunits, hknown⟩ := h
    simp only [run]
    split
    · exact le_refl _
    · rename_i quote hquote
      rcases l.captureOwnerJobHold_cases env hold quote jobId with h | h | ⟨ds, ref, description, hds, h⟩
      · rw [h]
      · rw [h]
        rcases l.releaseOwnerHold_cases hold.holdId with h | ⟨stored, -, h⟩
        · rw [h]
        · rw [h]
          exact le_refl _
      · rw [h]
        have hstep := Op.run_journal l env
          (Op.captureOwnerHold hold.holdId quote.customerChargeMicroUnits ds ref description : Op R)
        refine earned_le_of_spend (hstep.imp_right ?_) (destinations_ne_earned hquote hds hcustomer hunits hknown)
        rintro ⟨tx, hunseen, ⟨stored, allocations, -, -, hfields⟩, hjournal⟩
        exact ⟨tx, hunseen, ⟨stored.ownerId, allocations, hfields⟩, hjournal⟩
  | settleJob job jobId description =>
    obtain ⟨hcustomer, hunits, hknown⟩ := h
    simp only [run]
    split
    · exact le_refl _
    · rename_i quote hquote
      rcases l.settleOwnerJob_cases env jobId quote description with h | ⟨ds, ref, text, hds, h⟩
      · rw [h]
      · rw [h]
        have hstep := Op.run_journal l env
          (Op.spendOwnerCredits quote.customerOwnerId quote.customerChargeMicroUnits ds ref text : Op R)
        refine earned_le_of_spend (hstep.imp_right ?_) (destinations_ne_earned hquote hds hcustomer hunits hknown)
        rintro ⟨tx, hunseen, ⟨payer, allocations, -, -, hfields⟩, hjournal⟩
        exact ⟨tx, hunseen, ⟨payer, allocations, hfields⟩, hjournal⟩

/-- **No run raises it.** -/
theorem runAll_earned_le (owner : OwnerId) (l : Ledger) (steps : List (Env × OwnerMove R))
    (h : ∀ step ∈ steps, step.2.JobsKnown owner) :
    (runAll owner l steps).rawBalance (ownerBucketAccount owner .earned)
      ≤ l.rawBalance (ownerBucketAccount owner .earned) :=
  Run.exec_of_forall_mem (fun l' : Ledger => l'.rawBalance (ownerBucketAccount owner .earned)
      ≤ l.rawBalance (ownerBucketAccount owner .earned))
    (fun l' step hle hstep => (run_earned_le owner l' step.1 hstep).trans hle) (le_refl _) h

end OwnerMove

/-- **Self-compute earns nothing exactly when the own shares are known.**  The quote has no destination that is
the customer's earned bucket if and only if they are, and in a run whose jobs all have known own shares, started
from any ledger, the earned bucket never rises. -/
theorem self_compute_never_earns (owner : OwnerId) :
    (∀ (job : JobTerms R) (quote : OwnerJobQuote) (ds : List CreditDestination),
      strip job.customerOwnerId = owner.val → job.quote = .ok quote → quoteDestinations quote = .ok ds →
      QuotientsNonneg job.grossReferenceMicroUnits job.providerShares →
      ((∀ d ∈ ds, d.accountId ≠ ownerBucketAccount owner .earned) ↔
        OwnSharesKnown owner.val job.grossReferenceMicroUnits job.providerShares job.marketplaceFeeBps)) ∧
    ∀ (l : Ledger) (steps : List (Env × OwnerMove R)), (∀ step ∈ steps, step.2.JobsKnown owner) →
      (OwnerMove.runAll owner l steps).rawBalance (ownerBucketAccount owner .earned)
        ≤ l.rawBalance (ownerBucketAccount owner .earned) :=
  ⟨fun _ _ _ hcustomer hquote hds hunits => quote_pays_customer_iff hquote hds hunits hcustomer.symm,
    fun l steps h => OwnerMove.runAll_earned_le owner l steps h⟩

end

/-- Alice's own node, spelled as the customer is, next to one of Bob's. -/
def ownJob : JobTerms ℚ := ⟨" alice", 10, [⟨"n1", "alice", 1⟩, ⟨"n2", "bob", 1⟩], 2500, 1000⟩

/-- Alice's own node, registered under her id with a space behind it. -/
def paddedOwnJob : JobTerms ℚ := ⟨"alice", 10, [⟨"n1", "alice ", 1⟩], 2500, 1000⟩

theorem ownJob_known : QuotientsNonneg ownJob.grossReferenceMicroUnits ownJob.providerShares ∧
    OwnSharesKnown alice.val ownJob.grossReferenceMicroUnits ownJob.providerShares ownJob.marketplaceFeeBps := by
  constructor
  · intro s hs n hn
    have hunits : LayerRatio.shareUnits 10 s.ratio (LayerRatio.totalShares (ownJob.providerShares.map
        ProviderOwnerShare.ratio)) = .ok 5 := by
      have hs' : s = ⟨"n1", "alice", 1⟩ ∨ s = ⟨"n2", "bob", 1⟩ := by simpa [ownJob] using hs
      rcases hs' with rfl | rfl
      · decide +kernel
      · decide +kernel
    have hsame : Except.ok n = (.ok 5 : Except Exn ℤ) := hn.symm.trans hunits
    have := Except.ok.inj hsame
    omega
  · intro amounts hamounts p hp hstrip
    left
    obtain ⟨share, amount⟩ := p
    have hshare := (of_mem_zip hp).1
    have hs' : share = ⟨"n1", "alice", 1⟩ ∨ share = ⟨"n2", "bob", 1⟩ := by simpa [ownJob] using hshare
    rcases hs' with rfl | rfl
    · rfl
    · have hbob : strip "bob" ≠ alice.val := by decide
      exact absurd hstrip hbob

theorem self_compute_never_earns_sample :
    let purchase : Env × OwnerMove ℚ := (Env.atTime 0, .purchase 100 "p1")
    let settle : Env × OwnerMove ℚ := (Env.atTime 1, .settleJob ownJob "j1" "")
    ∃ quote ds, ownJob.quote = .ok quote ∧ quoteDestinations quote = .ok ds ∧
      (∀ d ∈ ds, d.accountId ≠ ownerBucketAccount alice .earned) ∧
      (OwnerMove.runAll alice (Ledger.fresh .payoutCapableConfidential 2500 "" none) [purchase, settle]).rawBalance
        (ownerBucketAccount alice .earned) ≤ 0 := by
  intro purchase settle
  obtain ⟨hquotes, hruns⟩ := self_compute_never_earns (R := ℚ) alice
  have hcustomer : strip ownJob.customerOwnerId = alice.val := by decide
  have hquote : ∃ quote ds, ownJob.quote = .ok quote ∧ quoteDestinations quote = .ok ds := by
    refine ⟨⟨"alice", 10, 6, 2, 5, 5, [("bob", 4)], [⟨"n1", "alice", 5, 1, 0, true⟩, ⟨"n2", "bob", 5, 1, 4, false⟩]⟩,
      [⟨"revenue:network_fee", networkFeeRevenue, 2⟩, ⟨"owner:bob:earned", ownerEarned, 4⟩], ?_, ?_⟩
    · decide +kernel
    · decide
  obtain ⟨quote, ds, hok, hds⟩ := hquote
  refine ⟨quote, ds, hok, hds, ?_, ?_⟩
  · exact (hquotes ownJob quote ds hcustomer hok hds ownJob_known.1).mpr ownJob_known.2
  · refine hruns (Ledger.fresh .payoutCapableConfidential 2500 "" none) [purchase, settle] ?_
    intro step hstep
    have hstep' : step = purchase ∨ step = settle := by simpa using hstep
    rcases hstep' with rfl | rfl
    · trivial
    · exact ⟨hcustomer, ownJob_known⟩

/-- An own node whose owner id carries a space is paid: Alice's purchased credit becomes earned credit. -/
theorem padded_owner_id_earns : (∃ quote ds, paddedOwnJob.quote = .ok quote ∧ quoteDestinations quote = .ok ds ∧
      ∃ d ∈ ds, d.accountId = ownerBucketAccount alice .earned) ∧
    (OwnerMove.runAll alice (Ledger.fresh .payoutCapableConfidential 2500 "" none)
      [(Env.atTime 0, .purchase 10 "p1"), (Env.atTime 1, .settleJob paddedOwnJob "j1" "")]).rawBalance
        (ownerBucketAccount alice .earned) = 8 := by
  refine ⟨⟨⟨"alice", 10, 10, 2, 0, 10, [("alice ", 8)], [⟨"n1", "alice ", 10, 2, 8, false⟩]⟩,
    [⟨"revenue:network_fee", networkFeeRevenue, 2⟩, ⟨"owner:alice:earned", ownerEarned, 8⟩], ?_, ?_, ?_⟩, ?_⟩
  · decide +kernel
  · decide
  · exact ⟨⟨"owner:alice:earned", ownerEarned, 8⟩, by simp, by decide⟩
  · decide +kernel

end ComputeMesh.Billing
