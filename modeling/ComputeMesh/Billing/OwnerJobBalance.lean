import ComputeMesh.Billing.OwnerJobQuote

/-!
# A job quote conserves money

The gross amount of a job is split by ratios that are floating point in the source.  Nothing below depends
on how the quotients round: they only have to be non-negative integers.

* `grossAmounts_total` — the loop of `_allocate_gross` hands out the gross amount and nothing else;
* `feeForShare_pos` — a configured fee does not vanish on a share that is not empty;
* `job_quote_conserves` — **an accepted job is quoted, and the quote balances**: charge, fee and earnings
  add up, and the destinations are those of a spend of the charge, if there is one.
-/

namespace ComputeMesh.Billing

open ComputeMesh.Text List ProviderSettlementShare

/-! ### Sums over the shares -/

theorem sum_values_addAt (d : Dict String ℤ) (e : String × ℤ) : (d.addAt e).values.sum = d.values.sum + e.2 := by
  have hset := Dict.sumBy_set id d e.1 (d.getD e.1 0 + e.2)
  simp only [Dict.sumBy, map_id, id_eq] at hset
  rw [Dict.addAt, hset, Dict.getD]
  cases d.get? e.1 with
  | none => simp
  | some held =>
    simp only [Option.map_some, Option.getD_some, id_eq]
    omega

theorem sum_earnedByOwner (settled : List ProviderSettlementShare) :
    (earnedByOwner settled).values.sum = (settled.map ProviderSettlementShare.providerEarnedMicroUnits).sum := by
  have hfold : ∀ d : Dict String ℤ, (settled.foldl addEarned d).values.sum
      = d.values.sum + (settled.map providerEarnedMicroUnits).sum := by
    induction settled with
    | nil => intro d; simp
    | cons s rest ih =>
      intro d
      have hadd : (addEarned d s).values.sum = d.values.sum + s.providerEarnedMicroUnits := by
        unfold addEarned
        split
        · rename_i hzero
          omega
        · exact sum_values_addAt d _
      simp only [foldl_cons, ih, hadd, map_cons, sum_cons]
      omega
  rw [earnedByOwner, hfold]
  simp [Dict.empty, Dict.values]

theorem earnedByOwner_pos {settled : List ProviderSettlementShare}
    (h : ∀ s ∈ settled, 0 ≤ s.providerEarnedMicroUnits) {ownerId : String} {amount : ℤ}
    (hget : (earnedByOwner settled).get? ownerId = some amount) : 0 < amount := by
  have hfold : ∀ (rest : List ProviderSettlementShare) (d : Dict String ℤ),
      (∀ s ∈ rest, 0 ≤ s.providerEarnedMicroUnits) → (∀ k x, d.get? k = some x → 0 < x) →
      ∀ k x, (rest.foldl addEarned d).get? k = some x → 0 < x := by
    intro rest
    induction rest with
    | nil => exact fun d _ hd => hd
    | cons s rest ih =>
      intro d hs hd
      apply ih (addEarned d s) fun t ht => hs t (mem_cons_of_mem _ ht)
      intro k x hx
      unfold addEarned at hx
      split at hx
      · exact hd k x hx
      · rename_i hne
        have hpos : 0 < s.providerEarnedMicroUnits := by
          have := hs s mem_cons_self
          omega
        rw [Dict.addAt] at hx
        rcases Dict.get?_set_eq_some.mp hx with ⟨-, hx⟩ | ⟨-, hx⟩
        · have hheld : 0 ≤ d.getD s.ownerId 0 := by
            unfold Dict.getD
            cases hget : d.get? s.ownerId with
            | none => simp
            | some held => exact (hd s.ownerId held hget).le
          have hx' := hx
          simp only at hx'
          omega
        · exact hd k x hx
  exact hfold settled .empty h (fun k x hx => by cases hx) ownerId amount hget

/-! ### The fee of a share -/

theorem feeForShare_pos {amount feeBps : ℤ} (hamount : 0 < amount) (hfee : 0 < feeBps) :
    1 ≤ feeForShare amount feeBps := by
  unfold feeForShare
  rw [if_neg (by omega)]
  split
  · exact hamount
  · exact le_min hamount (le_max_left _ _)

/-- **When the fee takes the whole share**: it is empty, the fee is all of it, or one unit is left to take. -/
theorem feeForShare_eq_self_iff {amount feeBps : ℤ} (h : 0 ≤ amount) :
    feeForShare amount feeBps = amount ↔ amount = 0 ∨ 10000 ≤ feeBps ∨ (amount = 1 ∧ 0 < feeBps) := by
  unfold feeForShare
  split
  · omega
  · split
    · rename_i hall
      simp [hall]
    · rename_i hpart hall
      have hfdiv : Int.fdiv (amount * feeBps) 10000 = amount * feeBps / 10000 :=
        Int.fdiv_eq_ediv_of_nonneg _ (by decide)
      -- below the full rate the quotient stays below the amount
      have hlt : amount * feeBps / 10000 < amount := by
        rw [Int.ediv_lt_iff_lt_mul (by decide)]
        exact Int.mul_lt_mul_of_pos_left (by omega) (by omega)
      rw [hfdiv]
      omega

/-! ### Splitting the gross amount -/

section

variable {R : Type} [OwnerShareRatio R]

/-- The quotients of a job: every share but the last gets a non-negative integer. -/
def QuotientsDefined (gross : ℤ) (shares : List (ProviderOwnerShare R)) : Prop :=
  ∀ s ∈ shares.dropLast, ∃ n : ℤ, 0 ≤ n ∧
    LayerRatio.shareUnits gross s.ratio (LayerRatio.totalShares (shares.map ProviderOwnerShare.ratio)) = .ok n

/-- **The loop hands out what remains**, whatever the quotients are. -/
theorem grossAmounts_total (gross : ℤ) (total : R) (ratios : List R) (remaining : ℤ) (hne : ratios ≠ [])
    (hunits : ∀ r ∈ ratios.dropLast, ∃ n : ℤ, 0 ≤ n ∧ LayerRatio.shareUnits gross r total = .ok n)
    (hremaining : 0 ≤ remaining) :
    ∃ amounts, grossAmounts gross total ratios remaining = .ok amounts ∧ amounts.length = ratios.length ∧
      amounts.sum = remaining ∧ ∀ a ∈ amounts, 0 ≤ a := by
  induction ratios generalizing remaining with
  | nil => exact absurd rfl hne
  | cons r rest ih =>
    cases rest with
    | nil => exact ⟨[remaining], rfl, rfl, by simp, by simpa using hremaining⟩
    | cons next rest =>
      obtain ⟨n, hn, hunit⟩ := hunits r (by simp)
      obtain ⟨amounts, hamounts, hlength, hsum, hnonneg⟩ :=
        ih (remaining - min n remaining) (by simp) (fun s hs => hunits s (by simp [hs])) (by omega)
      refine ⟨min n remaining :: amounts, ?_, by simp [hlength], ?_, ?_⟩
      · simp only [grossAmounts, hunit, hamounts]
      · rw [sum_cons, hsum]
        omega
      · intro a ha
        rcases mem_cons.mp ha with rfl | ha
        · omega
        · exact hnonneg a ha

theorem checkShares_ok {shares : List (ProviderOwnerShare R)} (h : ∀ s ∈ shares, checkShare s = .ok ()) :
    checkShares shares = .ok () := by
  induction shares with
  | nil => rfl
  | cons s rest ih =>
    simp only [checkShares, h s mem_cons_self]
    exact ih fun t ht => h t (mem_cons_of_mem _ ht)

theorem allocateGross_total {gross : ℤ} {shares : List (ProviderOwnerShare R)} (hgross : 0 < gross)
    (hne : shares ≠ []) (hchecked : ∀ s ∈ shares, checkShare s = .ok ())
    (htotal : OwnerShareRatio.isPositive (LayerRatio.totalShares (shares.map ProviderOwnerShare.ratio)) = true)
    (hunits : QuotientsDefined gross shares) :
    ∃ amounts, allocateGross gross shares = .ok amounts ∧ amounts.length = shares.length ∧ amounts.sum = gross ∧
      ∀ a ∈ amounts, 0 ≤ a := by
  have hratios : ∀ r ∈ (shares.map ProviderOwnerShare.ratio).dropLast, ∃ n : ℤ, 0 ≤ n ∧ LayerRatio.shareUnits gross r
      (LayerRatio.totalShares (shares.map ProviderOwnerShare.ratio)) = .ok n := by
    intro r hr
    rw [← map_dropLast] at hr
    obtain ⟨s, hs, rfl⟩ := mem_map.mp hr
    exact hunits s hs
  obtain ⟨amounts, hamounts, hlength, hsum, hnonneg⟩ :=
    grossAmounts_total gross _ _ gross (by simpa using hne) hratios hgross.le
  refine ⟨amounts, ?_, by simpa using hlength, hsum, hnonneg⟩
  have hempty : shares.isEmpty = false := by simpa using hne
  simp [allocateGross, checkShares_ok hchecked, htotal, hamounts, hsum, hempty, not_le.mpr hgross]

end

/-! ### The shares of a quote -/

/-- What one share of a quote adds up to, and how it is charged. -/
structure IsSettled (marketplaceFee selfFee : ℤ) (s : ProviderSettlementShare) : Prop where
  grossNonneg : 0 ≤ s.grossMicroUnits
  chargeSplit : s.charge = s.operatorFeeMicroUnits + s.providerEarnedMicroUnits
  chargeNonneg : 0 ≤ s.charge
  chargeLe : s.charge ≤ s.grossMicroUnits
  feeNonneg : 0 ≤ s.operatorFeeMicroUnits
  feeLe : s.operatorFeeMicroUnits ≤ s.grossMicroUnits
  feePos : 0 < s.grossMicroUnits → 0 < (if s.isSelfCompute then selfFee else marketplaceFee) →
    1 ≤ s.operatorFeeMicroUnits
  earnedNonneg : 0 ≤ s.providerEarnedMicroUnits

theorem isSettled_settleShare {R : Type} (customerOwner : String) (marketplaceFee selfFee : ℤ)
    (share : ProviderOwnerShare R) {gross : ℤ} (h : 0 ≤ gross) :
    IsSettled marketplaceFee selfFee (settleShare customerOwner marketplaceFee selfFee share gross) := by
  have hself := feeForShare_bounds h selfFee
  have hmarket := feeForShare_bounds h marketplaceFee
  unfold settleShare
  split
  · exact ⟨h, by simp [charge], by simpa [charge] using hself.1,
      by simpa [charge] using hself.2, hself.1, hself.2,
      fun hpos hfee => feeForShare_pos hpos (by simpa using hfee), le_refl 0⟩
  · refine ⟨h, ?_, by simpa [charge] using h, by simp [charge],
      hmarket.1, hmarket.2, fun hpos hfee => feeForShare_pos hpos (by simpa using hfee), ?_⟩
    · simp only [charge, Bool.false_eq_true, if_false]
      omega
    · show 0 ≤ gross - feeForShare gross marketplaceFee
      omega

theorem sum_charge {marketplaceFee selfFee : ℤ} {settled : List ProviderSettlementShare}
    (h : ∀ s ∈ settled, IsSettled marketplaceFee selfFee s) :
    (settled.map ProviderSettlementShare.charge).sum = (settled.map ProviderSettlementShare.operatorFeeMicroUnits).sum
          + (settled.map ProviderSettlementShare.providerEarnedMicroUnits).sum ∧
      0 ≤ (settled.map ProviderSettlementShare.charge).sum ∧
      0 ≤ (settled.map ProviderSettlementShare.operatorFeeMicroUnits).sum ∧
      (settled.map ProviderSettlementShare.charge).sum
        ≤ (settled.map ProviderSettlementShare.grossMicroUnits).sum := by
  induction settled with
  | nil => simp
  | cons s rest ih =>
    obtain ⟨hsplit, hnonneg, hfee, hle⟩ := ih fun t ht => h t (mem_cons_of_mem _ ht)
    have hs := h s mem_cons_self
    have h1 := hs.chargeSplit
    have h2 := hs.chargeNonneg
    have h3 := hs.feeNonneg
    have h4 := hs.chargeLe
    simp only [map_cons, sum_cons]
    omega

theorem map_gross_zipWith {R : Type} (customerOwner : String) (marketplaceFee selfFee : ℤ)
    (shares : List (ProviderOwnerShare R)) (amounts : List ℤ) (h : amounts.length = shares.length) :
    (List.zipWith (settleShare customerOwner marketplaceFee selfFee) shares amounts).map
      ProviderSettlementShare.grossMicroUnits = amounts := by
  induction shares generalizing amounts with
  | nil => simpa using h
  | cons s rest ih =>
    cases amounts with
    | nil => cases h
    | cons a amounts =>
      have hgross : (settleShare customerOwner marketplaceFee selfFee s a).grossMicroUnits = a := by
        unfold settleShare
        split <;> rfl
      simp only [zipWith_cons_cons, map_cons, hgross, ih amounts (by simpa using h)]

/-! ### The destinations of a quote -/

theorem earnedDestinations_total {earned : List (String × ℤ)}
    (h : ∀ e ∈ earned, 0 < e.2 ∧ (cleanOwner e.1).isOk = true) :
    ∃ ds, earnedDestinations earned = .ok ds ∧
      ∀ d ∈ ds, d.accountId ≠ "" ∧ d.accountType ≠ "" ∧ 0 < d.amountMicroUnits := by
  induction earned with
  | nil => exact ⟨[], rfl, by simp⟩
  | cons e rest ih =>
    obtain ⟨ownerId, amount⟩ := e
    obtain ⟨ds, hds, hvalid⟩ := ih fun e he => h e (mem_cons_of_mem _ he)
    obtain ⟨hpos, hclean⟩ := h (ownerId, amount) mem_cons_self
    cases howner : cleanOwner ownerId with
    | error x =>
      rw [howner] at hclean
      cases hclean
    | ok owner =>
      refine ⟨⟨ownerBucketAccount owner .earned, ownerEarned, amount⟩ :: ds, ?_, ?_⟩
      · simp only [earnedDestinations, if_neg hpos.ne', howner, hds]
      · intro d hd
        rcases mem_cons.mp hd with rfl | hd
        · refine ⟨fun hempty => ?_, show ownerEarned ≠ "" by decide, hpos⟩
          have hhead := head_ownerBucketAccount owner .earned
          simp only at hempty
          rw [hempty] at hhead
          cases hhead
        · exact hvalid d hd

theorem cleanOwner_of_cleanJobIdentifier {value field t : String} (h : cleanJobIdentifier value field = .ok t) :
    (cleanOwner value).isOk = true := by
  unfold cleanJobIdentifier at h
  unfold cleanOwner
  dsimp only at h ⊢
  split at h
  · cases h
  · rename_i hne
    split at h
    · cases h
    · rename_i hlong
      rw [dif_neg hne, dif_neg hlong]
      rfl

theorem checkShare_ok {R : Type} [OwnerShareRatio R] {share : ProviderOwnerShare R} (h : checkShare share = .ok ()) :
    (cleanOwner share.ownerId).isOk = true := by
  unfold checkShare at h
  split at h
  · cases h
  · split at h
    · cases h
    · rename_i t ht
      exact cleanOwner_of_cleanJobIdentifier ht

theorem validateDestinations_of_valid {ds : List CreditDestination} {amount : ℤ} (hne : ds ≠ [])
    (hvalid : ∀ d ∈ ds, d.accountId ≠ "" ∧ d.accountType ≠ "" ∧ 0 < d.amountMicroUnits)
    (hsum : (ds.map CreditDestination.amountMicroUnits).sum = amount) : validateDestinations ds amount = .ok ds := by
  have hnone : ¬∃ d ∈ ds, d.accountId = "" ∨ d.accountType = "" ∨ d.amountMicroUnits ≤ 0 := by
    rintro ⟨d, hd, hbad⟩
    obtain ⟨hid, htype, hpos⟩ := hvalid d hd
    rcases hbad with hbad | hbad | hbad
    · exact hid hbad
    · exact htype hbad
    · omega
  simp only [validateDestinations]
  rw [if_neg hne, if_neg hnone, if_neg (not_not.mpr hsum)]

/-! ### The quote -/

/-- **The quote conserves money**: `ds` is where it goes. -/
structure Conserves (gross marketplaceFee selfFee : ℤ) (quote : OwnerJobQuote) (ds : List CreditDestination) :
    Prop where
  settled : ∀ s ∈ quote.providerShares, IsSettled marketplaceFee selfFee s
  grossTotal : (quote.providerShares.map ProviderSettlementShare.grossMicroUnits).sum = gross
  chargeSplit : quote.customerChargeMicroUnits
    = quote.operatorFeeMicroUnits + (quote.providerEarnedByOwner.map Prod.snd).sum
  earnings : (quote.providerEarnedByOwner.map Prod.snd).sum
    = (quote.providerShares.map ProviderSettlementShare.providerEarnedMicroUnits).sum
  chargeLe : quote.customerChargeMicroUnits ≤ gross
  charged : 0 < quote.customerChargeMicroUnits → validateDestinations ds quote.customerChargeMicroUnits = .ok ds
  free : quote.customerChargeMicroUnits ≤ 0 → quote.customerChargeMicroUnits = 0 ∧ ds = []

theorem quoteDestinations_valid {customerOwner : String} {quote : OwnerJobQuote} (hquote : IsQuote customerOwner quote)
    (hnonneg : 0 ≤ quote.operatorFeeMicroUnits)
    (hearned : ∀ e ∈ quote.providerEarnedByOwner, 0 < e.2 ∧ (cleanOwner e.1).isOk = true) :
    ∃ ds, quoteDestinations quote = .ok ds ∧
      (0 < quote.customerChargeMicroUnits → validateDestinations ds quote.customerChargeMicroUnits = .ok ds) ∧
      (quote.customerChargeMicroUnits = 0 → ds = []) := by
  obtain ⟨earned, heq, hvalid⟩ := earnedDestinations_total hearned
  have hall : ∀ d ∈ feeDestination quote ++ earned,
      d.accountId ≠ "" ∧ d.accountType ≠ "" ∧ 0 < d.amountMicroUnits := by
    intro d hd
    rcases mem_append.mp hd with hfee | hd
    · unfold feeDestination at hfee
      split at hfee
      · cases hfee
      · rename_i hzero
        rw [mem_singleton.mp hfee]
        exact ⟨show "revenue:network_fee" ≠ "" by decide, show networkFeeRevenue ≠ "" by decide,
          lt_of_le_of_ne hnonneg (Ne.symm hzero)⟩
    · exact hvalid d hd
  have htotal : ∀ ds, quoteDestinations quote = .ok ds →
      (ds.map CreditDestination.amountMicroUnits).sum = quote.customerChargeMicroUnits :=
    fun ds hds => quoteDestinations_total hquote hds
  -- the sum of the destinations is the charge, so there are some exactly if there is one
  have hsome : (feeDestination quote ++ earned = []) ↔ quote.customerChargeMicroUnits = 0 := by
    have hsum : ((feeDestination quote ++ earned).map CreditDestination.amountMicroUnits).sum
        = quote.customerChargeMicroUnits := by
      by_cases hbad : quote.customerChargeMicroUnits ≠ 0 ∧ feeDestination quote ++ earned = []
      · have hfee : quote.operatorFeeMicroUnits = 0 := by
          by_contra hfee
          have := (append_eq_nil_iff.mp hbad.2).1
          simp [feeDestination, hfee] at this
        have hrest := (earnedDestinations_ok heq).1
        rw [hquote.earned, sum_sortedItems, (append_eq_nil_iff.mp hbad.2).2] at hrest
        have := hquote.balanced
        simp only [map_nil, sum_nil] at hrest
        exact absurd (by omega) hbad.1
      · exact htotal _ (by simp only [quoteDestinations, heq]; rw [if_neg hbad])
    constructor
    · intro hnil
      rw [hnil] at hsum
      simpa using hsum.symm
    · intro hzero
      by_contra hne
      obtain ⟨d, rest, hcons⟩ := exists_cons_of_ne_nil hne
      have hpos : ∀ x ∈ (feeDestination quote ++ earned).map CreditDestination.amountMicroUnits, 0 < x := by
        intro x hx
        obtain ⟨d, hd, rfl⟩ := mem_map.mp hx
        exact (hall d hd).2.2
      have := sum_pos _ hpos (by simp [hcons])
      omega
  have hok : quoteDestinations quote = .ok (feeDestination quote ++ earned) := by
    simp only [quoteDestinations, heq]
    exact if_neg fun hbad => hbad.1 (hsome.mp hbad.2)
  refine ⟨_, hok, fun hpos => ?_, hsome.mpr⟩
  exact validateDestinations_of_valid (fun hnil => hpos.ne' (hsome.mp hnil)) hall (htotal _ hok)

/-- **An accepted job is quoted, and the quote conserves money**, however the proportional quotients round. -/
theorem job_quote_conserves {R : Type} [OwnerShareRatio R] (customerOwnerId : String) (gross : ℤ)
    (shares : List (ProviderOwnerShare R)) (marketplaceFeeBps selfComputeFeeBps : ℤ)
    (hcustomer : (cleanJobIdentifier customerOwnerId "customer_owner_id").isOk = true) (hgross : 0 < gross)
    (hshares : shares ≠ []) (hchecked : ∀ s ∈ shares, checkShare s = .ok ())
    (hmarketplace : 0 ≤ marketplaceFeeBps ∧ marketplaceFeeBps ≤ 10000)
    (hself : 0 ≤ selfComputeFeeBps ∧ selfComputeFeeBps ≤ 10000)
    (htotal : OwnerShareRatio.isPositive (LayerRatio.totalShares (shares.map ProviderOwnerShare.ratio)) = true)
    (hunits : QuotientsDefined gross shares) :
    ∃ quote ds, quoteOwnerJob customerOwnerId gross shares marketplaceFeeBps selfComputeFeeBps = .ok quote ∧
      quoteDestinations quote = .ok ds ∧ Conserves gross marketplaceFeeBps selfComputeFeeBps quote ds := by
  obtain ⟨amounts, hamounts, hlength, hsum, hnonneg⟩ :=
    allocateGross_total hgross hshares hchecked htotal hunits
  cases hclean : cleanJobIdentifier customerOwnerId "customer_owner_id" with
  | error e =>
    rw [hclean] at hcustomer
    cases hcustomer
  | ok customerOwner =>
    have hm : validateBps marketplaceFeeBps "marketplace_fee_bps" = .ok marketplaceFeeBps :=
      if_neg (not_not.mpr hmarketplace)
    have hs : validateBps selfComputeFeeBps "self_compute_fee_bps" = .ok selfComputeFeeBps :=
      if_neg (not_not.mpr hself)
    let settled := zipWith (settleShare customerOwner marketplaceFeeBps selfComputeFeeBps) shares amounts
    have hsettled : ∀ s ∈ settled, IsSettled marketplaceFeeBps selfComputeFeeBps s := by
      intro s hs
      obtain ⟨share, -, a, ha, rfl⟩ := mem_zipWith_settleShare hs
      exact isSettled_settleShare _ _ _ _ (hnonneg a ha)
    have hgrosses : (settled.map grossMicroUnits).sum = gross := by
      rw [map_gross_zipWith _ _ _ _ _ hlength, hsum]
    obtain ⟨hsplit, hcharge, hfee, hle⟩ := sum_charge hsettled
    have hbalanced : (settled.map operatorFeeMicroUnits).sum
        + (earnedByOwner settled).values.sum = (settled.map charge).sum := by
      rw [sum_earnedByOwner, hsplit]
    have hquote : ∃ quote, quoteOwnerJob customerOwnerId gross shares marketplaceFeeBps selfComputeFeeBps = .ok quote ∧
        quote.providerShares = settled ∧
        quote.operatorFeeMicroUnits = (settled.map operatorFeeMicroUnits).sum := by
      simp only [quoteOwnerJob, hclean, hm, hs, hamounts]
      rw [if_neg (not_not.mpr hbalanced)]
      exact ⟨_, rfl, rfl, rfl⟩
    obtain ⟨quote, hok, hshares', hfees⟩ := hquote
    have hisQuote := (quoteOwnerJob_ok hok).1
    have hearned : ∀ e ∈ quote.providerEarnedByOwner, 0 < e.2 ∧ (cleanOwner e.1).isOk = true := by
      intro e he
      rw [hisQuote.earned, mem_sortedItems, hshares'] at he
      refine ⟨earnedByOwner_pos (fun s hs => (hsettled s hs).earnedNonneg) he, ?_⟩
      obtain ⟨s, hs, howner, -⟩ := mem_earnedByOwner he
      obtain ⟨share, hshare, a, -, rfl⟩ := mem_zipWith_settleShare hs
      rw [← howner, (settleShare_self _ _ _ share a).2.1]
      exact checkShare_ok (hchecked share hshare)
    obtain ⟨ds, hds, hcharged, hfree⟩ := quoteDestinations_valid hisQuote (by rw [hfees]; exact hfee) hearned
    have hchargeEq : quote.customerChargeMicroUnits = (settled.map charge).sum := by
      rw [hisQuote.charge, hshares']
    have hearnings : (quote.providerEarnedByOwner.map Prod.snd).sum = (earnedByOwner settled).values.sum := by
      rw [hisQuote.earned, sum_sortedItems, hshares']
    refine ⟨quote, ds, hok, hds, ?_, ?_, ?_, ?_, ?_, hcharged, fun hzero => ?_⟩
    · rw [hshares']
      exact hsettled
    · rw [hshares', hgrosses]
    · rw [hchargeEq, hfees, hearnings, hbalanced]
    · rw [hearnings, hshares', sum_earnedByOwner]
    · rw [hchargeEq, ← hgrosses]
      exact hle
    · have hexact : quote.customerChargeMicroUnits = 0 := le_antisymm hzero (by rw [hchargeEq]; exact hcharge)
      exact ⟨hexact, hfree hexact⟩

/-- Three shares of two owners, one of them the customer. -/
theorem job_quote_conserves_sample :
    let shares : List (ProviderOwnerShare ℚ) := [⟨"n1", "alice", 1⟩, ⟨"n2", "bob", 1⟩, ⟨"n3", "bob", 1⟩]
    ∃ quote ds, quoteOwnerJob "alice" 10 shares 2500 1000 = .ok quote ∧ quoteDestinations quote = .ok ds ∧
      Conserves 10 2500 1000 quote ds := by
  intro shares
  refine job_quote_conserves "alice" 10 shares 2500 1000 (by decide) (by decide) (by simp [shares]) (by decide)
    (by decide) (by decide) (by decide +kernel) ?_
  intro s hs
  have hs' : s = ⟨"n1", "alice", 1⟩ ∨ s = ⟨"n2", "bob", 1⟩ := by simpa [shares] using hs
  rcases hs' with rfl | rfl
  · exact ⟨3, by decide, by decide +kernel⟩
  · exact ⟨3, by decide, by decide +kernel⟩

/-- A pure self-compute job without a self-compute fee costs nothing, and its destinations, of which there
are none, are not those of a spend; and a job of nobody is not quoted. -/
theorem free_job_has_no_destinations :
    (∃ quote ds, quoteOwnerJob "alice" 10 [(⟨"n1", "alice", 1⟩ : ProviderOwnerShare ℚ)] 2500 0 = .ok quote ∧
      quoteDestinations quote = .ok ds ∧
      ∀ items, validateDestinations ds quote.customerChargeMicroUnits ≠ .ok items) ∧
    quoteOwnerJob " " 10 [(⟨"n1", "alice", 1⟩ : ProviderOwnerShare ℚ)] 2500 0
      = .error (.billing "customer_owner_id is required") := by
  refine ⟨⟨⟨"alice", 10, 0, 0, 10, 0, [], [⟨"n1", "alice", 10, 0, 0, true⟩]⟩, [], by decide +kernel,
    by decide, ?_⟩, by decide⟩
  intro items h
  cases h

end ComputeMesh.Billing
