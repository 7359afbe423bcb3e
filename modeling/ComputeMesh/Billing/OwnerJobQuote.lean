import ComputeMesh.Billing.OwnerCredits

/-!
# Quotes for inference jobs

The settlement math of `services/billing/owner_job_accounting.py`: what a customer pays for a job whose compute came
from other owners, from the customer's own nodes, or from both, and where the money goes.

* `quoteOwnerJob`, `quoteDestinations` — the functions of the source;
* `IsQuote` / `quoteOwnerJob_ok` — **a quote is what its shares add up to**;
* `quoteDestinations_total` — the destinations receive exactly the charge;
* `quoteDestinations_other` — no destination is a bucket of the customer.
-/

namespace ComputeMesh.Billing

open ComputeMesh.Text List

/-! ### The functions of the source -/

/-- What the quote asks of a ratio besides its arithmetic: that it is not `<= 0`. -/
class OwnerShareRatio (R : Type) extends LayerRatio R where
  isPositive : R → Bool

instance : OwnerShareRatio ℚ where
  isPositive r := decide (0 < r)

structure ProviderOwnerShare (R : Type) where
  providerNodeId : String
  ownerId : String
  ratio : R

structure ProviderSettlementShare where
  providerNodeId : String
  ownerId : String
  grossMicroUnits : ℤ
  operatorFeeMicroUnits : ℤ
  providerEarnedMicroUnits : ℤ
  isSelfCompute : Bool
  deriving DecidableEq

structure OwnerJobQuote where
  customerOwnerId : String
  grossReferenceMicroUnits : ℤ
  customerChargeMicroUnits : ℤ
  operatorFeeMicroUnits : ℤ
  selfComputeGrossMicroUnits : ℤ
  foreignComputeGrossMicroUnits : ℤ
  providerEarnedByOwner : List (String × ℤ)
  providerShares : List ProviderSettlementShare
  deriving DecidableEq

/-- `_clean_identifier` of this file. -/
def cleanJobIdentifier (value field : String) : Except Exn String :=
  let text := strip value
  if text = "" then .error (.billing (field ++ " is required"))
  else if 256 < text.length then .error (.billing (field ++ " is too long"))
  else .ok text

def validateBps (value : ℤ) (field : String) : Except Exn ℤ :=
  if ¬(0 ≤ value ∧ value ≤ 10000) then
    .error (.billing (field ++ " must be an integer from 0 to 10000 basis points"))
  else .ok value

/-- `_fee_for_share`: a fee that is configured does not vanish by rounding. -/
def feeForShare (amount feeBps : ℤ) : ℤ :=
  if amount ≤ 0 ∨ feeBps ≤ 0 then 0
  else if 10000 ≤ feeBps then amount
  else min amount (max 1 (Int.fdiv (amount * feeBps) 10000))

section

variable {R : Type} [OwnerShareRatio R]

/-- The checks `_allocate_gross` makes of one share. -/
def checkShare (share : ProviderOwnerShare R) : Except Exn Unit :=
  match cleanJobIdentifier share.providerNodeId "provider_node_id" with
  | .error e => .error e
  | .ok _ =>
    match cleanJobIdentifier share.ownerId "provider owner_id" with
    | .error e => .error e
    | .ok _ =>
      if OwnerShareRatio.isPositive share.ratio then .ok ()
      else .error (.billing "provider share ratio must be positive")

def checkShares : List (ProviderOwnerShare R) → Except Exn Unit
  | [] => .ok ()
  | share :: rest =>
    match checkShare share with
    | .error e => .error e
    | .ok _ => checkShares rest

/-- The loop of `_allocate_gross`; the last share takes what remains. -/
def grossAmounts (gross : ℤ) (total : R) : List R → ℤ → Except Exn (List ℤ)
  | [], _ => .ok []
  | [_], remaining => .ok [remaining]
  | ratio :: next :: rest, remaining =>
    match LayerRatio.shareUnits gross ratio total with
    | .error e => .error e
    | .ok units =>
      match grossAmounts gross total (next :: rest) (remaining - min units remaining) with
      | .error e => .error e
      | .ok amounts => .ok (min units remaining :: amounts)

def allocateGross (grossMicroUnits : ℤ) (shares : List (ProviderOwnerShare R)) : Except Exn (List ℤ) :=
  if grossMicroUnits ≤ 0 then .error (.billing "gross job charge must be positive")
  else if shares.isEmpty then .error (.billing "at least one provider share is required")
  else
    match checkShares shares with
    | .error e => .error e
    | .ok _ =>
      let total : R := LayerRatio.totalShares (shares.map ProviderOwnerShare.ratio)
      if OwnerShareRatio.isPositive total = false then .error (.billing "provider share total must be positive")
      else
        match grossAmounts grossMicroUnits total (shares.map ProviderOwnerShare.ratio) grossMicroUnits with
        | .error e => .error e
        | .ok amounts =>
          if amounts.sum ≠ grossMicroUnits then .error (.billing "provider gross allocation did not reconcile")
          else .ok amounts

omit [OwnerShareRatio R] in
/-- One turn of the loop of `quote_owner_job`. -/
def settleShare (customerOwner : String) (marketplaceFee selfFee : ℤ) (share : ProviderOwnerShare R) (gross : ℤ) :
    ProviderSettlementShare :=
  if share.ownerId = customerOwner then
    { providerNodeId := share.providerNodeId
      ownerId := share.ownerId
      grossMicroUnits := gross
      operatorFeeMicroUnits := feeForShare gross selfFee
      providerEarnedMicroUnits := 0
      isSelfCompute := true }
  else
    { providerNodeId := share.providerNodeId
      ownerId := share.ownerId
      grossMicroUnits := gross
      operatorFeeMicroUnits := feeForShare gross marketplaceFee
      providerEarnedMicroUnits := gross - feeForShare gross marketplaceFee
      isSelfCompute := false }

/-- What the customer pays for a share. -/
def ProviderSettlementShare.charge (s : ProviderSettlementShare) : ℤ :=
  if s.isSelfCompute then s.operatorFeeMicroUnits else s.grossMicroUnits

/-- What a share adds to `earned_by_owner`. -/
def addEarned (d : Dict String ℤ) (s : ProviderSettlementShare) : Dict String ℤ :=
  if s.providerEarnedMicroUnits = 0 then d else d.addAt (s.ownerId, s.providerEarnedMicroUnits)

/-- `earned_by_owner`, in the order in which the owners come first. -/
def earnedByOwner (settled : List ProviderSettlementShare) : Dict String ℤ := settled.foldl addEarned .empty

/-- `sorted(earned_by_owner.items())`. -/
def sortedItems (d : Dict String ℤ) : List (String × ℤ) := d.entries.insertionSort fun a b => a.1 ≤ b.1

def quoteOwnerJob (customerOwnerId : String) (grossReferenceMicroUnits : ℤ) (providerShares : List (ProviderOwnerShare R))
    (marketplaceFeeBps selfComputeFeeBps : ℤ) : Except Exn OwnerJobQuote :=
  match cleanJobIdentifier customerOwnerId "customer_owner_id" with
  | .error e => .error e
  | .ok customerOwner =>
    match validateBps marketplaceFeeBps "marketplace_fee_bps" with
    | .error e => .error e
    | .ok marketplaceFee =>
      match validateBps selfComputeFeeBps "self_compute_fee_bps" with
      | .error e => .error e
      | .ok selfFee =>
        match allocateGross grossReferenceMicroUnits providerShares with
        | .error e => .error e
        | .ok amounts =>
          let settled := List.zipWith (settleShare customerOwner marketplaceFee selfFee) providerShares amounts
          let customerCharge := (settled.map ProviderSettlementShare.charge).sum
          let operatorFee := (settled.map ProviderSettlementShare.operatorFeeMicroUnits).sum
          let earned := earnedByOwner settled
          if operatorFee + earned.values.sum ≠ customerCharge then
            .error (.billing ("owner job quote is unbalanced: customer debit does not match fee + provider "
              ++ "earnings"))
          else
            .ok
              { customerOwnerId := customerOwner
                grossReferenceMicroUnits := grossReferenceMicroUnits
                customerChargeMicroUnits := customerCharge
                operatorFeeMicroUnits := operatorFee
                selfComputeGrossMicroUnits :=
                  ((settled.filter ProviderSettlementShare.isSelfCompute).map
                    ProviderSettlementShare.grossMicroUnits).sum
                foreignComputeGrossMicroUnits :=
                  ((settled.filter fun s => !s.isSelfCompute).map ProviderSettlementShare.grossMicroUnits).sum
                providerEarnedByOwner := sortedItems earned
                providerShares := settled }

end

/-- The loop of `quote_destinations` over the earnings. -/
def earnedDestinations : List (String × ℤ) → Except Exn (List CreditDestination)
  | [] => .ok []
  | (ownerId, amount) :: rest =>
    if amount = 0 then earnedDestinations rest
    else
      match cleanOwner ownerId with
      | .error e => .error e
      | .ok owner =>
        match earnedDestinations rest with
        | .error e => .error e
        | .ok destinations =>
          .ok ({ accountId := ownerBucketAccount owner .earned, accountType := ownerEarned,
                 amountMicroUnits := amount } :: destinations)

/-- The operator's destination of a quote. -/
def feeDestination (quote : OwnerJobQuote) : List CreditDestination :=
  if quote.operatorFeeMicroUnits = 0 then []
  else
    [{ accountId := "revenue:network_fee", accountType := networkFeeRevenue,
       amountMicroUnits := quote.operatorFeeMicroUnits }]

def quoteDestinations (quote : OwnerJobQuote) : Except Exn (List CreditDestination) :=
  match earnedDestinations quote.providerEarnedByOwner with
  | .error e => .error e
  | .ok earned =>
    if quote.customerChargeMicroUnits ≠ 0 ∧ feeDestination quote ++ earned = [] then
      .error (.billing "billable owner job has no ledger destinations")
    else .ok (feeDestination quote ++ earned)

/-! ### What a quote is -/

theorem feeForShare_bounds {amount : ℤ} (h : 0 ≤ amount) (feeBps : ℤ) :
    0 ≤ feeForShare amount feeBps ∧ feeForShare amount feeBps ≤ amount := by
  unfold feeForShare
  split
  · exact ⟨le_refl 0, h⟩
  · split
    · exact ⟨h, le_refl amount⟩
    · exact ⟨le_min h (Int.le_trans (by decide) (Int.le_max_left 1 _)), min_le_left _ _⟩

/-- **A quote is what its shares add up to.** -/
structure IsQuote (customerOwner : String) (quote : OwnerJobQuote) : Prop where
  customer : quote.customerOwnerId = customerOwner
  charge : quote.customerChargeMicroUnits = (quote.providerShares.map ProviderSettlementShare.charge).sum
  balanced : quote.operatorFeeMicroUnits + (earnedByOwner quote.providerShares).values.sum
    = quote.customerChargeMicroUnits
  foreignGross : quote.foreignComputeGrossMicroUnits
    = ((quote.providerShares.filter fun s => !s.isSelfCompute).map ProviderSettlementShare.grossMicroUnits).sum
  earned : quote.providerEarnedByOwner = sortedItems (earnedByOwner quote.providerShares)
  self : ∀ s ∈ quote.providerShares, s.isSelfCompute = decide (s.ownerId = customerOwner)
  unpaid : ∀ s ∈ quote.providerShares, s.isSelfCompute = true → s.providerEarnedMicroUnits = 0

variable {customerOwner : String} {quote : OwnerJobQuote}

section

variable {R : Type} [OwnerShareRatio R]

variable {shares : List (ProviderOwnerShare R)}

omit [OwnerShareRatio R] in
theorem mem_zipWith_settleShare {marketplaceFee selfFee : ℤ} {amounts : List ℤ} {s : ProviderSettlementShare}
    (h : s ∈ List.zipWith (settleShare customerOwner marketplaceFee selfFee) shares amounts) :
    ∃ share ∈ shares, ∃ gross ∈ amounts, s = settleShare customerOwner marketplaceFee selfFee share gross := by
  rw [← map_uncurry_zip_eq_zipWith] at h
  obtain ⟨⟨share, gross⟩, hpair, rfl⟩ := mem_map.mp h
  obtain ⟨hshare, hgross⟩ := of_mem_zip hpair
  exact ⟨share, hshare, gross, hgross, rfl⟩

omit [OwnerShareRatio R] in
theorem settleShare_self (customerOwner : String) (marketplaceFee selfFee : ℤ) (share : ProviderOwnerShare R)
    (gross : ℤ) :
    let s := settleShare customerOwner marketplaceFee selfFee share gross
    s.isSelfCompute = decide (s.ownerId = customerOwner) ∧ s.ownerId = share.ownerId ∧
      (s.isSelfCompute = true → s.providerEarnedMicroUnits = 0) := by
  unfold settleShare
  split
  · rename_i hself
    exact ⟨(decide_eq_true hself).symm, rfl, fun _ => rfl⟩
  · rename_i hforeign
    exact ⟨(decide_eq_false hforeign).symm, rfl, nofun⟩

omit [OwnerShareRatio R] in
theorem cleanJobIdentifier_ok {value field t : String} (h : cleanJobIdentifier value field = .ok t) : t = strip value := by
  revert h
  fun_cases cleanJobIdentifier with
  | case3 => exact fun h => (Except.ok.inj h).symm
  | _ => exact nofun

omit [OwnerShareRatio R] in
theorem validateBps_ok {value t : ℤ} {field : String} (h : validateBps value field = .ok t) : t = value := by
  revert h
  fun_cases validateBps with
  | case2 => exact fun h => (Except.ok.inj h).symm
  | case1 => exact nofun

theorem allocateGross_ok {gross : ℤ} {amounts : List ℤ} (h : allocateGross gross shares = .ok amounts) :
    0 < gross ∧ amounts.sum = gross ∧ checkShares shares = .ok () ∧
      grossAmounts gross (LayerRatio.totalShares (shares.map ProviderOwnerShare.ratio))
        (shares.map ProviderOwnerShare.ratio) gross = .ok amounts := by
  revert h
  fun_cases allocateGross with
  | case7 hgross _ _ hchecked total _ _ hamounts hsum =>
    intro h
    obtain rfl := Except.ok.inj h
    exact ⟨not_le.mp hgross, not_not.mp hsum, hchecked, hamounts⟩
  | _ => exact nofun

section

variable {customerOwnerId : String} {gross : ℤ} {marketplaceFeeBps selfComputeFeeBps : ℤ}
  (h : quoteOwnerJob customerOwnerId gross shares marketplaceFeeBps selfComputeFeeBps = .ok quote)
include h

/-- What `quote_owner_job` returns: the settled shares of the allocated amounts. -/
theorem quoteOwnerJob_shares : ∃ amounts, allocateGross gross shares = .ok amounts ∧
      quote.providerShares = List.zipWith (settleShare (strip customerOwnerId) marketplaceFeeBps selfComputeFeeBps)
        shares amounts ∧
      cleanJobIdentifier customerOwnerId "customer_owner_id" = .ok (strip customerOwnerId) ∧
      quote.grossReferenceMicroUnits = gross ∧ IsQuote (strip customerOwnerId) quote := by
  revert h
  fun_cases quoteOwnerJob with
  | case6 customerOwner hcustomer _ hmarketplace _ hself amounts hamounts _ _ _ _ hbalanced =>
    intro h
    obtain rfl := Except.ok.inj h
    obtain rfl := cleanJobIdentifier_ok hcustomer
    obtain rfl := validateBps_ok hmarketplace
    obtain rfl := validateBps_ok hself
    refine ⟨amounts, hamounts, rfl, hcustomer, rfl, rfl, rfl, not_not.mp hbalanced, rfl, rfl, ?_, ?_⟩
    · intro s hs
      obtain ⟨share, -, gross, -, rfl⟩ := mem_zipWith_settleShare hs
      exact (settleShare_self _ _ _ share gross).1
    · intro s hs
      obtain ⟨share, -, gross, -, rfl⟩ := mem_zipWith_settleShare hs
      exact (settleShare_self _ _ _ share gross).2.2
  | _ => exact nofun

theorem quoteOwnerJob_ok : IsQuote (strip customerOwnerId) quote ∧ quote.grossReferenceMicroUnits = gross ∧
      ∀ s ∈ quote.providerShares, ∃ share ∈ shares, s.ownerId = share.ownerId := by
  obtain ⟨amounts, -, hshares, -, hgross, hquote⟩ := quoteOwnerJob_shares h
  refine ⟨hquote, hgross, fun s hs => ?_⟩
  rw [hshares] at hs
  obtain ⟨share, hmem, gross, -, rfl⟩ := mem_zipWith_settleShare hs
  exact ⟨share, hmem, (settleShare_self _ _ _ share gross).2.1⟩

end

end

/-! ### Where the money goes -/

theorem mem_earnedByOwner {settled : List ProviderSettlementShare} {ownerId : String} {amount : ℤ}
    (h : (earnedByOwner settled).get? ownerId = some amount) :
    ∃ s ∈ settled, s.ownerId = ownerId ∧ s.providerEarnedMicroUnits ≠ 0 := by
  have hfold : ∀ (rest : List ProviderSettlementShare) (d : Dict String ℤ) (amount : ℤ),
      (rest.foldl addEarned d).get? ownerId = some amount →
      (∃ s ∈ rest, s.ownerId = ownerId ∧ s.providerEarnedMicroUnits ≠ 0) ∨ ∃ amount, d.get? ownerId = some amount := by
    intro rest
    induction rest with
    | nil => exact fun d amount h => .inr ⟨amount, h⟩
    | cons s rest ih =>
      intro d amount h
      rcases ih _ amount h with ⟨t, ht, hrest⟩ | ⟨held, hheld⟩
      · exact .inl ⟨t, mem_cons_of_mem _ ht, hrest⟩
      · by_cases hzero : s.providerEarnedMicroUnits = 0
        · rw [addEarned, if_pos hzero] at hheld
          exact .inr ⟨held, hheld⟩
        · rw [addEarned, if_neg hzero] at hheld
          by_cases howner : s.ownerId = ownerId
          · exact .inl ⟨s, mem_cons_self, howner, hzero⟩
          · rw [Dict.addAt, Dict.get?_set_of_ne _ (Ne.symm howner)] at hheld
            exact .inr ⟨held, hheld⟩
  rcases hfold settled .empty amount h with hs | ⟨_, hnone⟩
  · exact hs
  · cases hnone

theorem mem_sortedItems {d : Dict String ℤ} {ownerId : String} {amount : ℤ} :
    (ownerId, amount) ∈ sortedItems d ↔ d.get? ownerId = some amount := by
  rw [sortedItems, (perm_insertionSort _ _).mem_iff, Dict.mem_entries_iff]

theorem sum_sortedItems (d : Dict String ℤ) : ((sortedItems d).map Prod.snd).sum = d.values.sum :=
  ((perm_insertionSort _ _).map _).sum_eq

variable {destinations : List CreditDestination}

theorem earnedDestinations_ok {earned : List (String × ℤ)} (h : earnedDestinations earned = .ok destinations) :
    (destinations.map CreditDestination.amountMicroUnits).sum = (earned.map Prod.snd).sum ∧
      ∀ d ∈ destinations, ∃ e ∈ earned, ∃ owner : OwnerId, owner.val = strip e.1 ∧
        d.accountId = ownerBucketAccount owner .earned := by
  induction earned generalizing destinations with
  | nil =>
    cases h
    exact ⟨rfl, fun d hd => (not_mem_nil hd).elim⟩
  | cons e rest ih =>
    obtain ⟨ownerId, amount⟩ := e
    unfold earnedDestinations at h
    split at h
    · rename_i hzero
      obtain ⟨hsum, hmem⟩ := ih h
      refine ⟨by rw [hsum, map_cons, sum_cons, hzero, Int.zero_add], fun d hd => ?_⟩
      obtain ⟨e, he, hrest⟩ := hmem d hd
      exact ⟨e, mem_cons_of_mem _ he, hrest⟩
    · split at h
      · cases h
      · rename_i owner howner
        split at h
        · cases h
        · rename_i others hothers
          cases h
          obtain ⟨hsum, hmem⟩ := ih hothers
          refine ⟨by rw [map_cons, sum_cons, hsum, map_cons, sum_cons], fun d hd => ?_⟩
          rcases mem_cons.mp hd with rfl | hd
          · exact ⟨(ownerId, amount), mem_cons_self, owner, cleanOwner_ok howner, rfl⟩
          · obtain ⟨e, he, hrest⟩ := hmem d hd
            exact ⟨e, mem_cons_of_mem _ he, hrest⟩

/-- A quote with destinations. -/
theorem quoteDestinations_ok (h : quoteDestinations quote = .ok destinations) :
    ∃ earned, earnedDestinations quote.providerEarnedByOwner = .ok earned ∧
      destinations = feeDestination quote ++ earned := by
  revert h
  fun_cases quoteDestinations with
  | case3 earned hearned => exact fun h => ⟨earned, hearned, (Except.ok.inj h).symm⟩
  | _ => exact nofun

/-- **The destinations receive exactly the charge.** -/
theorem quoteDestinations_total (hquote : IsQuote customerOwner quote)
    (h : quoteDestinations quote = .ok destinations) :
    (destinations.map CreditDestination.amountMicroUnits).sum = quote.customerChargeMicroUnits := by
  obtain ⟨earned, hearned, rfl⟩ := quoteDestinations_ok h
  have hsum := (earnedDestinations_ok hearned).1
  rw [hquote.earned, sum_sortedItems] at hsum
  rw [map_append, sum_append, hsum, ← hquote.balanced, feeDestination]
  split
  · rename_i hzero
    rw [hzero]
    rfl
  · simp

/-- A destination is the operator's, or the earned bucket of an owner whose share earns. -/
theorem mem_quoteDestinations (hquote : IsQuote customerOwner quote) (h : quoteDestinations quote = .ok destinations)
    {d : CreditDestination} (hd : d ∈ destinations) :
    d.accountId = "revenue:network_fee" ∨ ∃ s ∈ quote.providerShares, s.providerEarnedMicroUnits ≠ 0 ∧
      ∃ owner : OwnerId, owner.val = strip s.ownerId ∧ d.accountId = ownerBucketAccount owner .earned := by
  obtain ⟨earned, hearned, rfl⟩ := quoteDestinations_ok h
  rcases mem_append.mp hd with hfee | hd
  · rw [feeDestination] at hfee
    split at hfee
    · cases hfee
    · exact .inl (by rw [mem_singleton.mp hfee])
  · obtain ⟨e, he, owner, howner, haccount⟩ := (earnedDestinations_ok hearned).2 d hd
    rw [hquote.earned] at he
    obtain ⟨s, hs, hsowner, hpaid⟩ := mem_earnedByOwner (mem_sortedItems.mp he)
    exact .inr ⟨s, hs, hpaid, owner, by rw [howner, hsowner], haccount⟩

/-- **No destination is a bucket of the customer**, when the owners of the shares are clean. -/
theorem quoteDestinations_other (hquote : IsQuote customerOwner quote)
    (hclean : ∀ s ∈ quote.providerShares, strip s.ownerId = s.ownerId)
    (h : quoteDestinations quote = .ok destinations) {owner : OwnerId} (howner : owner.val = customerOwner)
    {d : CreditDestination} (hd : d ∈ destinations) (b : Bucket) : d.accountId ≠ ownerBucketAccount owner b := by
  rcases mem_quoteDestinations hquote h hd with hfee | ⟨s, hs, hpaid, other, hother, haccount⟩
  · rw [hfee]
    exact (ownerBucketAccount_ne_of_head owner b (show "revenue:network_fee".toList.head? ≠ _ from by decide)).symm
  · rw [haccount]
    intro heq
    have hsame : other.val = owner.val := congrArg OwnerId.val (ownerBucketAccount_inj heq).1
    rw [hother, howner, hclean s hs] at hsame
    exact hpaid (hquote.unpaid s hs ((hquote.self s hs).trans (decide_eq_true hsame)))

end ComputeMesh.Billing
