import ComputeMesh.Billing.OwnerJobBalance
import ComputeMesh.Billing.SettlementRetry
import ComputeMesh.Gateway.SessionSettlement

/-!
# What is reserved covers what is metered

A protected job reserves the charge of its token limits and is settled for the charge of the tokens it took.

* `calculateTokenChargeMicro_le_max`, `feeForShare_mono` — prices and fees grow with what they are of;
* `Ledger.settle_iff_subAccountsMatch` — **when a settlement that the reservation covers goes through**;
* `EscrowInv.subAccountsMatch` — a run that leaves the reservation alone keeps its sub-accounts;
* `reservation_covers_metered_charge` — the two together, for every coordinator.
-/

namespace ComputeMesh.Billing

open ComputeMesh.Text List Ledger

/-! ### Prices -/

theorem getPriceTier_rates (modelId : String) :
    0 ≤ (getPriceTier modelId).promptMicroPerMillion ∧ 0 ≤ (getPriceTier modelId).completionMicroPerMillion := by
  have hcatalog : ∀ tier ∈ defaultPriceTiers, 0 ≤ tier.promptMicroPerMillion ∧ 0 ≤ tier.completionMicroPerMillion := by
    decide
  unfold getPriceTier
  dsimp only
  split
  · rename_i tier htier
    exact hcatalog tier (mem_of_find?_eq_some htier)
  · split
    · rename_i tier htier
      exact hcatalog tier (mem_of_find?_eq_some htier)
    · decide

theorem calculateTokenChargeMicro_le_max (modelId : String) {promptTokens completionTokens maxPrompt maxCompletion : ℤ}
    (hprompt : promptTokens ≤ maxPrompt) (hcompletion : completionTokens ≤ maxCompletion) :
    calculateTokenChargeMicro modelId promptTokens completionTokens
      ≤ calculateMaxChargeMicro modelId maxPrompt maxCompletion := by
  obtain ⟨hp, hc⟩ := getPriceTier_rates modelId
  have h1 := Int.mul_le_mul_of_nonneg_right (hprompt.trans (le_max_right 1 _)) hp
  have h2 := Int.mul_le_mul_of_nonneg_right (hcompletion.trans (le_max_right 1 _)) hc
  have hmax : ¬(max 1 maxPrompt ≤ 0 ∧ max 1 maxCompletion ≤ 0) := by omega
  simp only [calculateMaxChargeMicro, calculateTokenChargeMicro, if_neg hmax]
  split
  · omega
  · refine max_le_max_left 1 ?_
    rw [Int.fdiv_eq_ediv_of_nonneg _ (by decide), Int.fdiv_eq_ediv_of_nonneg _ (by decide)]
    exact Int.ediv_le_ediv (by decide) (by omega)

theorem feeForShare_mono {amount amount' : ℤ} (h : amount ≤ amount') (feeBps : ℤ) :
    feeForShare amount feeBps ≤ feeForShare amount' feeBps := by
  unfold feeForShare
  by_cases hnone : amount ≤ 0 ∨ feeBps ≤ 0
  · rw [if_pos hnone]
    split
    · exact le_refl 0
    · split <;> omega
  · rw [if_neg hnone, if_neg (show ¬(amount' ≤ 0 ∨ feeBps ≤ 0) by omega)]
    split
    · exact h
    · have hmul := Int.mul_le_mul_of_nonneg_right h (show 0 ≤ feeBps by omega)
      rw [Int.fdiv_eq_ediv_of_nonneg _ (by decide), Int.fdiv_eq_ediv_of_nonneg _ (by decide)]
      have := Int.ediv_le_ediv (c := 10000) (by decide) hmul
      omega

/-- **A quote of one share** charges what the share is settled for. -/
theorem quoteOwnerJob_single {R : Type} [OwnerShareRatio R] {customer : String} {gross m s : ℤ}
    {share : ProviderOwnerShare R} {quote : OwnerJobQuote}
    (h : quoteOwnerJob customer gross [share] m s = .ok quote) :
    (cleanJobIdentifier customer "customer_owner_id").isOk = true ∧ checkShare share = .ok () ∧
      quote.customerChargeMicroUnits = (settleShare (strip customer) m s share gross).charge := by
  obtain ⟨amounts, hamounts, hshares, hcustomer, -, hquote⟩ := quoteOwnerJob_shares h
  obtain ⟨-, -, hchecked, hgross⟩ := allocateGross_ok hamounts
  -- the only share takes the whole gross amount
  obtain rfl : [gross] = amounts := Except.ok.inj hgross
  refine ⟨by rw [hcustomer]; rfl, ?_, ?_⟩
  · unfold checkShares at hchecked
    split at hchecked
    · cases hchecked
    · assumption
  · rw [hquote.charge, hshares]
    simp

/-! ### The settlement -/

theorem newTransaction_exists (t e c d : String) {fs : List PostingFields}
    (hsided : ∀ f ∈ fs, 0 ≤ f.debitMicroUnits ∧ 0 ≤ f.creditMicroUnits ∧ ¬(0 < f.debitMicroUnits ↔ 0 < f.creditMicroUnits))
    (hbalanced : totalDebits fs = totalCredits fs) (hpos : 0 < totalDebits fs) :
    ∃ tx, newTransaction t e c d fs = .ok tx := by
  have hposted : ∃ ps, newPostings fs = .ok ps := by
    clear hbalanced hpos
    induction fs with
    | nil => exact ⟨[], rfl⟩
    | cons f fs ih =>
      obtain ⟨ps, hps⟩ := ih fun g hg => hsided g (mem_cons_of_mem _ hg)
      obtain ⟨hd, hc, hone⟩ := hsided f mem_cons_self
      have hneg : ¬(f.debitMicroUnits < 0 ∨ f.creditMicroUnits < 0) := by omega
      simp only [newPostings, Posting.new, dif_neg hneg, dif_neg hone, hps]
      exact ⟨_, rfl⟩
  obtain ⟨ps, hps⟩ := hposted
  simp only [newTransaction, hps, Transaction.new, newPostings_ok hps]
  rw [dif_neg (not_not.mpr hbalanced), dif_neg (not_le.mpr hpos)]
  exact ⟨_, rfl⟩

/-- What the settlement loop posts: every posting has one side, the whole reservation is taken out, and what the charge
leaves of it goes back. -/
theorem settlePostings_sums (owner : OwnerId) (ref : ReservationId) :
    ∀ (allocations : List (Bucket × ℤ)) (charge : ℤ), (∀ a ∈ allocations, 0 < a.2) → 0 ≤ charge →
      charge ≤ (allocations.map Prod.snd).sum →
      let taken := settlePostings owner ref allocations charge
      taken.2 = 0 ∧ totalDebits taken.1 = (allocations.map Prod.snd).sum ∧
        totalCredits taken.1 = (allocations.map Prod.snd).sum - charge ∧
        ∀ f ∈ taken.1, 0 ≤ f.debitMicroUnits ∧ 0 ≤ f.creditMicroUnits ∧
          ¬(0 < f.debitMicroUnits ↔ 0 < f.creditMicroUnits)
  | [], charge, _, hnonneg, hle => by
    have hzero : charge = 0 := le_antisymm hle hnonneg
    simp [settlePostings, totalDebits, totalCredits, hzero]
  | (b, reserved) :: rest, charge, hpos, hnonneg, hle => by
    have hreserved : 0 < reserved := hpos (b, reserved) mem_cons_self
    have hrest : ∀ a ∈ rest, 0 < a.2 := fun a ha => hpos a (mem_cons_of_mem _ ha)
    have hsum : 0 ≤ (rest.map Prod.snd).sum := sum_nonneg fun x hx => by
      obtain ⟨a, ha, rfl⟩ := mem_map.mp hx
      exact (hrest a ha).le
    simp only [map_cons, sum_cons] at hle ⊢
    obtain ⟨hleft, hdebits, hcredits, hsided⟩ :=
      settlePostings_sums owner ref rest (charge - min charge reserved) hrest (by omega) (by omega)
    simp only [totalDebits, totalCredits] at hdebits hcredits
    by_cases hrefund : reserved - min charge reserved = 0
    · simp only [settlePostings, if_pos hrefund, nil_append, totalDebits, totalCredits, map_cons,
        sum_cons, hdebits, hcredits]
      refine ⟨hleft, trivial, by omega, ?_⟩
      intro f hf
      rcases mem_cons.mp hf with rfl | hf
      · simp only
        omega
      · exact hsided f hf
    · simp only [settlePostings, if_neg hrefund, cons_append, nil_append, totalDebits, totalCredits,
        map_cons, sum_cons, hdebits, hcredits]
      refine ⟨hleft, by omega, by omega, ?_⟩
      intro f hf
      rcases mem_cons.mp hf with rfl | hf
      · simp only
        omega
      · rcases mem_cons.mp hf with rfl | hf
        · simp only
          omega
        · exact hsided f hf

variable {l : Ledger} {owner : OwnerId} {ref : ReservationId} {reservation : ConfidentialCreditReservation}

theorem Ledger.not_ended_of_reserved (hget : l.getConfidentialReservation owner ref = .ok (some reservation))
    (hstate : reservation.state = .reserved) :
    l.transactionForEvent (settleEvent ref) = none ∧ l.transactionForEvent (releaseEvent ref) = none := by
  revert hget
  fun_cases getConfidentialReservation with
  | case3 tx _ r hr =>
    intro hget
    cases hget
    revert hr
    fun_cases reservationFromTransaction with
    | case3 =>
      intro hr
      cases hr
      dsimp only at hstate
      split at hstate
      · cases hstate
      · rename_i hsettled
        split at hstate
        · cases hstate
        · rename_i hreleased
          exact ⟨by simpa using hsettled, by simpa using hreleased⟩
    | _ => rintro ⟨⟩
  | _ => rintro ⟨⟩

/-- **A settlement that the reservation covers goes through exactly if the sub-accounts hold what was reserved.** -/
theorem Ledger.settle_iff_subAccountsMatch (hhealthy : l.Healthy) {ownerId reservationId : String} {charge : ℤ}
    {ds : List CreditDestination} (howner : cleanOwner ownerId = .ok owner)
    (href : cleanReservationId reservationId = .ok ref)
    (hget : l.getConfidentialReservation owner ref = .ok (some reservation)) (hstate : reservation.state = .reserved)
    (hpos : 0 < charge) (hle : charge ≤ reservation.amountMicroUnits)
    (hitems : validateDestinations ds charge = .ok ds) (env : Env) :
    (l.settleConfidentialReservation env ownerId reservationId charge ds).1.isOk = true
      ↔ l.SubAccountsMatch owner ref reservation.allocations := by
  obtain ⟨hsettled, hreleased⟩ := not_ended_of_reserved hget hstate
  obtain ⟨-, halloc, htotal, hamount⟩ := getConfidentialReservation_ok hget
  obtain ⟨-, hds, hsum⟩ := validateDestinations_ok hitems
  simp only [settleConfidentialReservation, howner, href, if_neg (not_le.mpr hpos), hitems, hget, hsettled, hreleased,
    if_neg (not_lt.mpr hle), Option.isSome_none, Bool.false_eq_true, if_false]
  by_cases hmatch : l.SubAccountsMatch owner ref reservation.allocations
  · rw [if_neg (not_not.mpr hmatch)]
    obtain ⟨hleft, hdebits, hcredits, hsided⟩ := settlePostings_sums owner ref reservation.allocations charge
      (readAllocations_pos halloc) hpos.le (hamount ▸ hle)
    have hpaid : totalDebits (destinationCredits ds) = 0 ∧ totalCredits (destinationCredits ds) = charge := by
      rw [← hsum]
      simp [totalDebits, totalCredits, destinationCredits, Function.comp_def]
    obtain ⟨tx, htx⟩ : ∃ tx, newTransaction (txId "conf_settle" (settleEvent ref)) (settleEvent ref) env.isoNow
        s!"Settle confidential job reservation {ref.val}"
        ((settlePostings owner ref reservation.allocations charge).1 ++ destinationCredits ds) = .ok tx := by
      refine newTransaction_exists _ _ _ _ (fun f hf => ?_) ?_ ?_
      · rcases mem_append.mp hf with hf | hf
        · exact hsided f hf
        · obtain ⟨d, hd, rfl⟩ := mem_map.mp hf
          have := hds d hd
          dsimp only
          omega
      · simp only [totalDebits, totalCredits, map_append, sum_append] at *
        omega
      · simp only [totalDebits, map_append, sum_append] at *
        omega
    obtain ⟨-, -, state, hlater⟩ := reservationFromTransaction_later (l.recorded tx) hget
    rw [if_neg (not_not.mpr hleft), htx]
    simp only [commitNew, commit_of_healthy hhealthy, hlater, hmatch, Except.isOk, Except.toBool]
  · rw [if_pos hmatch]
    simp [hmatch, Except.isOk, Except.toBool]

/-! ### Runs -/

theorem Op.run_healthy {R : Type} [LayerRatio R] (h : l.Healthy) (env : Env) (op : Op R) : (op.run l env).Healthy := by
  intro file
  rcases op.run_journal l env with heq | ⟨tx, -, -, heq⟩
  · rw [heq]
    exact h file
  · rw [heq]
    exact healthy_recorded h tx file

theorem escrowInv_fresh (owner : OwnerId) (ref : ReservationId) (cls : LedgerClass) (networkFeeBps : ℤ)
    (wallet : String) (storage : Option Storage) : EscrowInv owner ref (Ledger.fresh cls networkFeeBps wallet storage) :=
  ⟨Journal.isReplay_empty storage, Nat.zero_le 1,
    .unreserved (fun _ htx => absurd htx not_mem_nil) fun _ => rfl⟩

/-- **A reservation that is left alone** and not ended holds in its sub-accounts what was reserved. -/
theorem EscrowInv.subAccountsMatch (h : EscrowInv owner ref l)
    (hget : l.getConfidentialReservation owner ref = .ok (some reservation)) (hstate : reservation.state = .reserved) :
    l.SubAccountsMatch owner ref reservation.allocations := by
  obtain ⟨hsettled, hreleased⟩ := not_ended_of_reserved hget hstate
  obtain ⟨hreserve, halloc, htotal, -⟩ := getConfidentialReservation_ok hget
  obtain ⟨hmem, hevent⟩ := transactionForEvent_eq_some hreserve
  have hopen : IsOpen l.journal.transactions owner ref reservation.allocations :=
    ⟨transactionForEvent_eq_none.mp hsettled, transactionForEvent_eq_none.mp hreleased,
      ⟨_, hmem, hevent, halloc⟩, htotal⟩
  cases h.phase with
  | unreserved hnone => exact absurd (.inl hevent) (hnone _ hmem)
  | foreign tx owner' al hmem' hres hne => exact absurd (hopen.eq_reservation h.replay.nodup hmem' hres).1 hne
  | reserved tx al hmem' hres _ _ hholds =>
    obtain ⟨-, rfl⟩ := hopen.eq_reservation h.replay.nodup hmem' hres
    intro a ha
    rw [hholds]
    exact sumAt_of_mem_of_nodup (hres.sublist.nodup nodup_spendOrder) ha
  | released tx tx' al _ _ hmem' hrel => exact absurd hrel.event (hopen.notReleased _ hmem')
  | settled tx tx' al charge ds _ _ hmem' hset => exact absurd hset.event (hopen.notSettled _ hmem')

end ComputeMesh.Billing

namespace ComputeMesh.Gateway

open ComputeMesh.Text ComputeMesh.Billing

theorem quote_ok {c : Coordinator} {customer nodeId : String} {gross : ℤ} {quote : OwnerJobQuote}
    (h : c.quote customer nodeId gross = .ok quote) :
    ∃ provider, c.providerOwner nodeId = .ok provider ∧
      quoteOwnerJob customer gross [(⟨nodeId, provider, 1⟩ : ProviderOwnerShare ℚ)] c.marketplaceFeeBps
        c.selfComputeFeeBps = .ok quote := by
  unfold Coordinator.quote at h
  split at h
  · cases h
  · rename_i provider hprovider
    split at h
    · cases h
    · rename_i quote' hquote
      cases h
      exact ⟨provider, hprovider, hquote⟩

/-- **What is reserved covers what is metered**: for token counts within the limits, not both zero, the metered charge
is positive and at most the reserved one; and on a ledger that any run of operations led to, the settlement of a
reservation that is neither settled nor released goes through exactly if its sub-accounts hold what was reserved,
which they do if no step of the run named one of them. -/
theorem reservation_covers_metered_charge (c : Coordinator) (accountId nodeId modelId : String)
    {promptTokens completionTokens maxPrompt maxCompletion : ℤ} {maxQuote : OwnerJobQuote}
    (hprompt : 0 ≤ promptTokens ∧ promptTokens ≤ maxPrompt)
    (hcompletion : 0 ≤ completionTokens ∧ completionTokens ≤ maxCompletion)
    (hsome : ¬(promptTokens = 0 ∧ completionTokens = 0))
    (hmax : c.quote accountId nodeId (calculateMaxChargeMicro modelId maxPrompt maxCompletion) = .ok maxQuote) :
    ∃ quote ds,
      c.quote accountId nodeId (calculateTokenChargeMicro modelId promptTokens completionTokens) = .ok quote ∧
      quoteDestinations quote = .ok ds ∧ 0 < quote.customerChargeMicroUnits ∧
      quote.customerChargeMicroUnits ≤ maxQuote.customerChargeMicroUnits ∧
      ∀ (R : Type) [LayerRatio R] (cls : LedgerClass) (networkFeeBps : ℤ) (wallet : String) (fileBacked : Bool)
        (steps : List (Env × Op R)) (holdId : String) (owner : OwnerId) (ref : ReservationId)
        (reservation : ConfidentialCreditReservation),
        let start := Ledger.fresh cls networkFeeBps wallet (newStorage fileBacked)
        let l := Op.runAll start steps
        cleanOwner accountId = .ok owner → cleanReservationId holdId = .ok ref →
        l.getConfidentialReservation owner ref = .ok (some reservation) →
        reservation.amountMicroUnits = maxQuote.customerChargeMicroUnits → reservation.state = .reserved →
        (∀ env, (l.settleConfidentialReservation env accountId holdId quote.customerChargeMicroUnits ds).1.isOk = true
          ↔ l.SubAccountsMatch owner ref reservation.allocations) ∧
        (Run.Along (fun l (step : Env × Op R) => step.2.run l step.1)
          (fun l step => step.2.LeavesAlone l owner ref ∧ step.2.WithinAssumptions owner ref) start steps →
          l.SubAccountsMatch owner ref reservation.allocations) := by
  obtain ⟨maxProvider, hprovider, hmaxJob⟩ := quote_ok hmax
  obtain ⟨hcustomer, hchecked, hmaxCharge⟩ := quoteOwnerJob_single hmaxJob
  have hgross : 0 < calculateTokenChargeMicro modelId promptTokens completionTokens :=
    (calculateTokenChargeMicro_pos_iff _ _ _).mpr (by omega)
  have hle := calculateTokenChargeMicro_le_max modelId hprompt.2 hcompletion.2
  obtain ⟨quote, ds, hjob, hds, hconserves⟩ := job_quote_conserves accountId _
    [(⟨nodeId, maxProvider, 1⟩ : ProviderOwnerShare ℚ)] c.marketplaceFeeBps c.selfComputeFeeBps hcustomer hgross
    (List.cons_ne_nil _ _) (by simpa using hchecked) c.marketplaceFee_range
    ⟨by have := c.selfComputeFee_range; omega, c.selfComputeFee_range.2⟩
    (show decide (0 < [(1 : ℚ)].sum) = true by simp) nofun
  obtain ⟨-, -, hcharge⟩ := quoteOwnerJob_single hjob
  have hpos : 0 < quote.customerChargeMicroUnits := by
    rw [hcharge]
    unfold settleShare
    split
    · exact feeForShare_pos hgross (by have := c.selfComputeFee_range; omega)
    · exact hgross
  have hcovered : quote.customerChargeMicroUnits ≤ maxQuote.customerChargeMicroUnits := by
    rw [hcharge, hmaxCharge]
    unfold settleShare
    split
    · exact feeForShare_mono hle _
    · exact hle
  refine ⟨quote, ds, ?_, hds, hpos, hcovered, ?_⟩
  · simp only [Coordinator.quote, hprovider, hjob]
  · intro R _ cls networkFeeBps wallet fileBacked steps holdId owner ref reservation start l howner href hget hamount
      hstate
    have hhealthy : l.Healthy :=
      Run.exec_of_forall Ledger.Healthy (fun _ step h => Op.run_healthy h step.1 step.2)
        (healthy_fresh cls networkFeeBps wallet fileBacked) steps
    refine ⟨Ledger.settle_iff_subAccountsMatch hhealthy howner href hget hstate hpos (hamount ▸ hcovered)
      (hconserves.charged hpos), fun halong => ?_⟩
    have hinv : EscrowInv owner ref l :=
      Run.exec_of_along (EscrowInv owner ref) (fun l step h hstep => h.run step.1 hstep.1 hstep.2)
        (escrowInv_fresh owner ref cls networkFeeBps wallet _) halong
    exact hinv.subAccountsMatch hget hstate

theorem exists_reserved {l : Ledger} {owner : OwnerId} {ref : ReservationId} {amount : ℤ}
    (h : (match l.getConfidentialReservation owner ref with
      | .ok (some r) => decide (r.amountMicroUnits = amount ∧ r.state = .reserved)
      | _ => false) = true) :
    ∃ r, l.getConfidentialReservation owner ref = .ok (some r) ∧ r.amountMicroUnits = amount ∧ r.state = .reserved := by
  split at h
  · rename_i r hr
    exact ⟨r, hr, of_decide_eq_true h⟩
  · cases h

/-- Alice's job on a node of Bob, quoted for one token of each kind. -/
def sampleJobQuote : OwnerJobQuote := ⟨"alice", 1, 1, 1, 0, 1, [], [⟨"node-1", "bob", 1, 1, 0, false⟩]⟩

theorem reservation_covers_metered_charge_sample :
    let steps : List (Env × Op ℚ) := [(Env.atTime 0, .depositOwnerPurchasedCredits "alice" 10 "p1"),
      (Env.atTime 1, .reserveConfidentialCredits "alice" "r1" 1)]
    ∃ quote ds, sampleCoordinator.quote "alice" "node-1" (calculateTokenChargeMicro "m" 1 0) = .ok quote ∧
      ∀ env, ((Op.runAll (Ledger.fresh .confidentialEscrow 2500 "" none) steps).settleConfidentialReservation env
        "alice" "r1" quote.customerChargeMicroUnits ds).1.isOk = true := by
  intro steps
  obtain ⟨quote, ds, hquote, -, -, -, hsettle⟩ := reservation_covers_metered_charge sampleCoordinator "alice" "node-1"
    "m" (show 0 ≤ (1 : ℤ) ∧ (1 : ℤ) ≤ 1 by decide) (show 0 ≤ (0 : ℤ) ∧ (0 : ℤ) ≤ 1 by decide) (by decide)
    (show _ = Except.ok sampleJobQuote by decide +kernel)
  obtain ⟨r, hget, hamount, hstate⟩ : ∃ r, (Op.runAll (Ledger.fresh .confidentialEscrow 2500 "" none)
      steps).getConfidentialReservation alice sampleReservation = .ok (some r) ∧ r.amountMicroUnits = 1 ∧
        r.state = .reserved := exists_reserved (by decide +kernel)
  obtain ⟨hiff, halong⟩ := hsettle ℚ .confidentialEscrow 2500 "" false steps "r1" alice sampleReservation r
    (by decide) (by decide) hget hamount hstate
  exact ⟨quote, ds, hquote, fun env => (hiff env).mpr (halong (by decide +kernel))⟩

/-- A deposit of the owner whose id spells out the reservation goes into its sub-account, and the job that was reserved
for cannot be settled. -/
theorem covered_job_unbillable :
    let steps : List (Env × Op ℚ) := [(Env.atTime 0, .depositOwnerPurchasedCredits "alice" 10 "p1"),
      (Env.atTime 1, .reserveConfidentialCredits "alice" "r1" 1),
      (Env.atTime 2, .depositOwnerPurchasedCredits "alice:confidential_reservation:82f3e9c695dc6b8d1b11818d" 5 "p2")]
    let l := Op.runAll (Ledger.fresh .confidentialEscrow 2500 "" none) steps
    sampleCoordinator.quote "alice" "node-1" (calculateMaxChargeMicro "m" 1 1) = .ok sampleJobQuote ∧
      sampleCoordinator.quote "alice" "node-1" (calculateTokenChargeMicro "m" 1 1) = .ok sampleJobQuote ∧
      (∃ r, l.getConfidentialReservation alice sampleReservation = .ok (some r) ∧
        r.amountMicroUnits = sampleJobQuote.customerChargeMicroUnits ∧ r.state = .reserved) ∧
      (l.settleConfidentialReservation (Env.atTime 3) "alice" "r1" sampleJobQuote.customerChargeMicroUnits
        [⟨"revenue:network_fee", networkFeeRevenue, 1⟩]).1.isOk = false :=
  ⟨by decide +kernel, by decide +kernel, And.imp_left exists_reserved (by decide +kernel)⟩

end ComputeMesh.Gateway
