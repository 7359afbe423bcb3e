import ComputeMesh.Billing.EscrowSettlement

/-!
# A settlement that is asked for again

A settlement is recorded once.  Asked for again, the ledger rebuilds the charge from the recorded transaction:
it sums the credits whose account and account type one of the destinations *of this call* names, and takes the
call for a repetition when the sum is the amount of this call.

* `settledCredits` — what a settlement credits: the refunds, then the destinations;
* `settlementResultFromTransaction_recorded` — **what a retry answers**, by the credits it names;
* `transactionForEvent_runAll` — a recorded event is found again after any operations;
* `settlement_retry_iff` — **when a retry is faithful**, and when repeating the first call returns.
-/

namespace ComputeMesh.Billing

open ComputeMesh.Text List Ledger

attribute [local irreducible] settleConfidentialReservation

/-! ### The credits of a settlement -/

/-- The refunds of a settlement as credits to the buckets. -/
def refundCredits (owner : OwnerId) (allocations : List (Bucket × ℤ)) (charge : ℤ) : List CreditDestination :=
  ((refunds allocations charge).filter fun r => r.2 ≠ 0).map fun r =>
    ⟨ownerBucketAccount owner r.1, r.1.accountType, r.2⟩

/-- Everything a settlement credits. -/
def settledCredits (owner : OwnerId) (allocations : List (Bucket × ℤ)) (charge : ℤ) (ds : List CreditDestination) :
    List CreditDestination :=
  refundCredits owner allocations charge ++ ds

/-- Whether one of the destinations is this account under this type. -/
def namedBy (ds : List CreditDestination) (accountId accountType : String) : Bool :=
  ds.any fun d => accountId = d.accountId ∧ accountType = d.accountType

/-- What a list of credits gives to the accounts that are named. -/
def creditWhere (named : String → String → Bool) (cs : List CreditDestination) : ℤ :=
  ((cs.filter fun c => named c.accountId c.accountType).map CreditDestination.amountMicroUnits).sum

/-- What a list of credits gives to one account, whatever its type. -/
abbrev creditTo (accountId : String) (cs : List CreditDestination) : ℤ :=
  creditWhere (fun a _ => decide (a = accountId)) cs

theorem creditWhere_append (named : String → String → Bool) (cs cs' : List CreditDestination) :
    creditWhere named (cs ++ cs') = creditWhere named cs + creditWhere named cs' := by
  simp [creditWhere]

theorem creditWhere_cons (named : String → String → Bool) (c : CreditDestination) (cs : List CreditDestination) :
    creditWhere named (c :: cs)
      = (if named c.accountId c.accountType then c.amountMicroUnits else 0) + creditWhere named cs := by
  by_cases h : named c.accountId c.accountType = true <;> simp [creditWhere, h]

/-- Positive credits give an account nothing exactly when they do not name it. -/
theorem creditWhere_eq_zero_iff (named : String → String → Bool) {cs : List CreditDestination}
    (hpos : ∀ c ∈ cs, 0 < c.amountMicroUnits) :
    creditWhere named cs = 0 ↔ ∀ c ∈ cs, named c.accountId c.accountType = false := by
  have hnonneg : ∀ cs : List CreditDestination, (∀ c ∈ cs, 0 < c.amountMicroUnits) → 0 ≤ creditWhere named cs := by
    intro cs h
    apply sum_nonneg
    intro x hx
    obtain ⟨c, hc, rfl⟩ := mem_map.mp hx
    exact (h c (mem_of_mem_filter hc)).le
  induction cs with
  | nil => simp [creditWhere]
  | cons c cs ih =>
    have hc := hpos c mem_cons_self
    have hcs := fun d hd => hpos d (mem_cons_of_mem _ hd)
    have hrest := hnonneg cs hcs
    have hzero := ih hcs
    rw [creditWhere_cons, forall_mem_cons]
    by_cases h : named c.accountId c.accountType = true
    · simp only [h, if_true]
      constructor
      · intro hsum
        omega
      · intro habsurd
        cases habsurd.1
    · simp [h, hzero]

theorem creditWhere_all {named : String → String → Bool} {cs : List CreditDestination}
    (h : ∀ c ∈ cs, named c.accountId c.accountType = true) :
    creditWhere named cs = (cs.map CreditDestination.amountMicroUnits).sum := by
  rw [creditWhere, filter_eq_self.mpr h]

variable {ds : List CreditDestination}

theorem namedBy_self {d : CreditDestination} (h : d ∈ ds) : namedBy ds d.accountId d.accountType = true :=
  any_eq_true.mpr ⟨d, h, by simp⟩

/-! ### The postings of a settlement, by what they credit -/

/-- What the postings of a transaction give to the accounts that are named. -/
def postedWhere (named : String → String → Bool) (fs : List PostingFields) : ℤ :=
  ((fs.filter fun p => named p.accountId p.accountType).map PostingFields.creditMicroUnits).sum

section

variable (named : String → String → Bool)

theorem postedWhere_append (fs gs : List PostingFields) :
    postedWhere named (fs ++ gs) = postedWhere named fs + postedWhere named gs := by
  simp [postedWhere]

theorem postedWhere_cons (p : PostingFields) (fs : List PostingFields) : postedWhere named (p :: fs)
      = (if named p.accountId p.accountType then p.creditMicroUnits else 0) + postedWhere named fs := by
  by_cases h : named p.accountId p.accountType = true <;> simp [postedWhere, h]

theorem postedWhere_destinationCredits (ds : List CreditDestination) :
    postedWhere named (destinationCredits ds) = creditWhere named ds := by
  induction ds with
  | nil => rfl
  | cons d ds ih =>
    show postedWhere named (_ :: destinationCredits ds) = _
    rw [postedWhere_cons, ih, creditWhere_cons]

/-- The debits of the sub-accounts credit nothing: what is left are the refunds. -/
theorem postedWhere_settlePostings (owner : OwnerId) (ref : ReservationId)
    (allocations : List (Bucket × ℤ)) (charge : ℤ) :
    postedWhere named (settlePostings owner ref allocations charge).1
      = creditWhere named (refundCredits owner allocations charge) := by
  induction allocations generalizing charge with
  | nil => rfl
  | cons a rest ih =>
    obtain ⟨b, reserved⟩ := a
    simp only [settlePostings, refundCredits, refunds]
    rw [postedWhere_cons, postedWhere_append, ih]
    by_cases hzero : reserved - min charge reserved = 0
    · simp [hzero, postedWhere, refundCredits]
    · rw [if_neg hzero, filter_cons_of_pos (by simpa using hzero), map_cons, creditWhere_cons, postedWhere_cons]
      simp [postedWhere, refundCredits]

theorem postedWhere_settlement (owner : OwnerId) (ref : ReservationId)
    (allocations : List (Bucket × ℤ)) (charge : ℤ) (ds : List CreditDestination) :
    postedWhere named ((settlePostings owner ref allocations charge).1 ++ destinationCredits ds)
      = creditWhere named (settledCredits owner allocations charge ds) := by
  rw [postedWhere_append, postedWhere_settlePostings, postedWhere_destinationCredits, settledCredits,
    creditWhere_append]

end

theorem creditsOf_eq_postedWhere (fs : List PostingFields) (accountId : String) :
    creditsOf fs accountId = postedWhere (fun a _ => decide (a = accountId)) fs := by
  simp [creditsOf, postedWhere, sumAt, filter_map, Function.comp_def]

theorem creditTo_settledCredits (owner : OwnerId) (allocations : List (Bucket × ℤ)) (charge : ℤ)
    (ds : List CreditDestination) (b : Bucket) :
    creditTo (ownerBucketAccount owner b) (settledCredits owner allocations charge ds)
      = sumAt (refunds allocations charge) b + creditTo (ownerBucketAccount owner b) ds := by
  rw [settledCredits, creditTo, creditWhere_append]
  have hrefunds : ∀ rs : List (Bucket × ℤ), creditWhere (fun a _ => decide (a = ownerBucketAccount owner b))
      ((rs.filter fun r => r.2 ≠ 0).map fun r => ⟨ownerBucketAccount owner r.1, r.1.accountType, r.2⟩)
        = sumAt rs b := by
    intro rs
    induction rs with
    | nil => rfl
    | cons r rs ih =>
      by_cases hzero : r.2 = 0
      · simp [sumAt_cons, hzero, ← ih]
      · rw [filter_cons_of_pos (by simpa using hzero), map_cons, creditWhere_cons, ih, sumAt_cons]
        simp only [decide_eq_true_eq, ownerBucketAccount_eq_iff]
        simp
  rw [refundCredits, hrefunds]

/-! ### What a retry answers -/

/-- The `spent_*` amounts of a result. -/
def ConfidentialCreditSettlement.spent (result : ConfidentialCreditSettlement) : Bucket → ℤ
  | .earned => result.spentEarnedMicroUnits
  | .purchased => result.spentPurchasedMicroUnits
  | .promo => result.spentPromoMicroUnits

/-- The result reports a settlement of `charge` from a reservation of `reserved`, allocated so. -/
structure Reports (result : ConfidentialCreditSettlement) (reserved : ℤ) (allocations : List (Bucket × ℤ))
    (charge : ℤ) : Prop where
  charged : result.chargedMicroUnits = charge
  refunded : result.refundedMicroUnits = reserved - charge
  spent : ∀ b, result.spent b = spentFrom allocations charge b

/-- One of the destinations is a bucket the settlement draws on. -/
def PaysOwnBucket (owner : OwnerId) (allocations : List (Bucket × ℤ)) (ds : List CreditDestination) : Prop :=
  ∃ a ∈ allocations, ∃ d ∈ ds, d.accountId = ownerBucketAccount owner a.1

/-- The destinations pay a bucket more than the settlement took from it. -/
def Overpays (owner : OwnerId) (allocations : List (Bucket × ℤ)) (charge : ℤ) (ds : List CreditDestination) : Prop :=
  ∃ a ∈ allocations, spentFrom allocations charge a.1 < creditTo (ownerBucketAccount owner a.1) ds

def NamesRefund (owner : OwnerId) (allocations : List (Bucket × ℤ)) (charge : ℤ) (ds : List CreditDestination) :
    Prop :=
  ∃ c ∈ refundCredits owner allocations charge, namedBy ds c.accountId c.accountType = true

variable {owner : OwnerId} {ref : ReservationId} {allocations : List (Bucket × ℤ)}

theorem readAllocations_sublist {fs : List PostingFields} {bs : List Bucket}
    (h : readAllocations owner ref fs bs = .ok allocations) :
    (allocations.map Prod.fst).Sublist bs := by
  induction bs generalizing allocations with
  | nil =>
    cases h
    simp
  | cons b rest ih =>
    simp only [readAllocations] at h
    split at h
    · cases h
    · split at h
      · cases h
      · rename_i more hmore
        cases h
        split
        · exact (ih hmore).cons b
        · simpa using ih hmore

theorem sum_filter_sub (hnodup : (allocations.map Prod.fst).Nodup) (b : Bucket)
    (r : ℤ) : ((allocations.filter fun a => a.1 = b).map fun a => a.2 - r).sum
      = if b ∈ allocations.map Prod.fst then sumAt allocations b - r else 0 := by
  induction allocations with
  | nil => simp
  | cons a rest ih =>
    rw [map_cons, nodup_cons] at hnodup
    have hrest := ih hnodup.2
    by_cases hb : a.1 = b
    · have hnot : b ∉ rest.map Prod.fst := hb ▸ hnodup.1
      have hzero : sumAt rest b = 0 :=
        sumAt_eq_zero fun e he heq => hnot (mem_map.mpr ⟨e, he, heq⟩)
      rw [if_neg hnot] at hrest
      rw [filter_cons_of_pos (by simpa using hb), map_cons, sum_cons, hrest, sumAt_cons, hzero]
      simp [hb]
    · rw [filter_cons_of_neg (by simpa using hb), hrest, sumAt_cons, if_neg hb, Int.zero_add]
      have hmem : b ∈ (a :: rest).map Prod.fst ↔ b ∈ rest.map Prod.fst := by
        rw [map_cons, mem_cons]
        exact or_iff_right (Ne.symm hb)
      by_cases hin : b ∈ rest.map Prod.fst
      · rw [if_pos hin, if_pos (hmem.mpr hin)]
      · rw [if_neg hin, if_neg (hmem.not.mpr hin)]

theorem map_fst_refunds (allocations : List (Bucket × ℤ)) (charge : ℤ) :
    (refunds allocations charge).map Prod.fst = allocations.map Prod.fst := by
  induction allocations generalizing charge with
  | nil => rfl
  | cons a rest ih => simp [refunds, ih]

theorem spentFrom_eq_zero {b : Bucket} (h : b ∉ allocations.map Prod.fst)
    (charge : ℤ) : spentFrom allocations charge b = 0 := by
  have hrefund := sumAt_refunds b allocations charge
  have hnone : ∀ es : List (Bucket × ℤ), b ∉ es.map Prod.fst → sumAt es b = 0 :=
    fun es hes => sumAt_eq_zero fun e he heq => hes (mem_map.mpr ⟨e, he, heq⟩)
  rw [hnone _ h, hnone _ (by rwa [map_fst_refunds])] at hrefund
  omega

variable {l : Ledger} {tx : Transaction} {charge : ℤ}

section

variable (reservation : ConfidentialCreditReservation)

/-- **What a retry answers** for a recorded settlement: it raises unless the credits it names add up to its own
amount, and otherwise reports that amount. -/
theorem settlementResultFromTransaction_recorded (amount : ℤ) (retryDs : List CreditDestination)
    (hfields : tx.fields
      = (settlePostings reservation.ownerId ref reservation.allocations charge).1 ++ destinationCredits ds)
    (hnodup : (reservation.allocations.map Prod.fst).Nodup)
    (hcurrent : ∃ current, l.reservationFromTransaction reservation.ownerId reservation.reservationId
      reservation.reserveTransaction = .ok current) :
    let cs := settledCredits reservation.ownerId reservation.allocations charge ds
    let answer := l.settlementResultFromTransaction reservation tx amount retryDs
    (creditWhere (namedBy retryDs) cs ≠ amount ∨ Overpays reservation.ownerId reservation.allocations charge ds →
      ∃ m, answer = .error (.billing m)) ∧
    (¬(creditWhere (namedBy retryDs) cs ≠ amount ∨ Overpays reservation.ownerId reservation.allocations charge ds) →
      ∃ result, answer = .ok result ∧ result.chargedMicroUnits = amount ∧
        result.refundedMicroUnits = reservation.amountMicroUnits - amount ∧
        ∀ b, result.spent b = if b ∈ reservation.allocations.map Prod.fst then
          spentFrom reservation.allocations charge b - creditTo (ownerBucketAccount reservation.ownerId b) ds else 0) := by
  intro cs answer
  have hnamed : creditedTo tx.fields retryDs = creditWhere (namedBy retryDs) cs := by
    rw [hfields]
    exact postedWhere_settlement (namedBy retryDs) _ ref _ charge ds
  have hcredits : ∀ b, creditsOf tx.fields (ownerBucketAccount reservation.ownerId b)
      = sumAt reservation.allocations b - spentFrom reservation.allocations charge b
        + creditTo (ownerBucketAccount reservation.ownerId b) ds := by
    intro b
    rw [creditsOf_eq_postedWhere, hfields, postedWhere_settlement, ← sumAt_refunds]
    exact creditTo_settledCredits _ _ _ _ b
  have hover : (∃ a ∈ reservation.allocations, a.2 < creditsOf tx.fields (ownerBucketAccount reservation.ownerId a.1))
      ↔ Overpays reservation.ownerId reservation.allocations charge ds := by
    have hone : ∀ a ∈ reservation.allocations, sumAt reservation.allocations a.1 = a.2 :=
      fun a ha => sumAt_of_mem_of_nodup hnodup ha
    constructor
    · intro h
      obtain ⟨a, ha, hlt⟩ := h
      rw [hcredits, hone a ha] at hlt
      exact ⟨a, ha, by omega⟩
    · intro h
      obtain ⟨a, ha, hlt⟩ := h
      refine ⟨a, ha, ?_⟩
      rw [hcredits, hone a ha]
      omega
  obtain ⟨current, hcurrent⟩ := hcurrent
  constructor
  · intro hbad
    show ∃ m, l.settlementResultFromTransaction reservation tx amount retryDs = .error (.billing m)
    unfold settlementResultFromTransaction
    dsimp only
    split
    · exact ⟨_, rfl⟩
    · rename_i hcharge
      rcases hbad with hbad | hbad
      · rw [← hnamed] at hbad
        exact absurd hbad hcharge
      · rw [if_pos (hover.mpr hbad)]
        exact ⟨_, rfl⟩
  · intro hgood
    rw [not_or, ← hnamed, ← hover, creditedTo] at hgood
    show ∃ result, l.settlementResultFromTransaction reservation tx amount retryDs = .ok result ∧ _
    unfold settlementResultFromTransaction
    dsimp only
    rw [if_neg hgood.1, if_neg hgood.2, hcurrent]
    refine ⟨_, rfl, rfl, rfl, ?_⟩
    -- the three sums of the answer are the loop's, bucket by bucket
    have hloop : ∀ b, ((reservation.allocations.filter fun a => a.1 = b).map fun a =>
        a.2 - creditsOf tx.fields (ownerBucketAccount reservation.ownerId b)).sum
          = if b ∈ reservation.allocations.map Prod.fst then
              spentFrom reservation.allocations charge b - creditTo (ownerBucketAccount reservation.ownerId b) ds
            else 0 := by
      intro b
      rw [sum_filter_sub hnodup b, hcredits]
      split
      · omega
      · rfl
    intro b
    cases b with
    | earned => exact hloop .earned
    | purchased => exact hloop .purchased
    | promo => exact hloop .promo

theorem faithful_iff {amount : ℤ} {retryDs : List CreditDestination} (hfields : tx.fields
      = (settlePostings reservation.ownerId ref reservation.allocations charge).1 ++ destinationCredits ds)
    (hnodup : (reservation.allocations.map Prod.fst).Nodup) (hpos : ∀ d ∈ ds, 0 < d.amountMicroUnits)
    (hcurrent : ∃ current, l.reservationFromTransaction reservation.ownerId reservation.reservationId
      reservation.reserveTransaction = .ok current) :
    ((∃ m, l.settlementResultFromTransaction reservation tx amount retryDs = .error (.billing m)) ∨
      ∃ result, l.settlementResultFromTransaction reservation tx amount retryDs = .ok result ∧
        Reports result reservation.amountMicroUnits reservation.allocations charge) ↔
      creditWhere (namedBy retryDs) (settledCredits reservation.ownerId reservation.allocations charge ds) ≠ amount ∨
        Overpays reservation.ownerId reservation.allocations charge ds ∨
        (amount = charge ∧ ¬PaysOwnBucket reservation.ownerId reservation.allocations ds) := by
  obtain ⟨hraises, hreturns⟩ := settlementResultFromTransaction_recorded reservation amount retryDs hfields hnodup
    hcurrent
  rw [← or_assoc]
  by_cases hbad : creditWhere (namedBy retryDs)
      (settledCredits reservation.ownerId reservation.allocations charge ds) ≠ amount ∨
        Overpays reservation.ownerId reservation.allocations charge ds
  · simp only [hbad, true_or, iff_true]
    exact .inl (hraises hbad)
  · simp only [hbad, false_or]
    obtain ⟨result, hok, hcharged, hrefunded, hspent⟩ := hreturns hbad
    have hpaid : (∀ b ∈ reservation.allocations.map Prod.fst,
        creditTo (ownerBucketAccount reservation.ownerId b) ds = 0) ↔
          ¬PaysOwnBucket reservation.ownerId reservation.allocations ds := by
      constructor
      · intro hnone hpays
        obtain ⟨a, ha, d, hd, haccount⟩ := hpays
        have hzero := (creditWhere_eq_zero_iff _ hpos).mp (hnone a.1 (mem_map_of_mem ha)) d hd
        simp [haccount] at hzero
      · intro hnone b hb
        obtain ⟨a, ha, rfl⟩ := mem_map.mp hb
        refine (creditWhere_eq_zero_iff _ hpos).mpr fun d hd => ?_
        exact decide_eq_false fun haccount => hnone ⟨a, ha, d, hd, haccount⟩
    constructor
    · intro h
      rcases h with ⟨m, herror⟩ | ⟨result', hok', hreports⟩
      · rw [hok] at herror
        cases herror
      · obtain rfl : result = result' := Except.ok.inj (hok.symm.trans hok')
        refine ⟨hcharged.symm.trans hreports.charged, hpaid.mp fun b hb => ?_⟩
        have hsame := (hspent b).symm.trans (hreports.spent b)
        rw [if_pos hb] at hsame
        omega
    · intro h
      obtain ⟨rfl, hnone⟩ := h
      refine .inr ⟨result, hok, hcharged, hrefunded, fun b => ?_⟩
      rw [hspent b]
      split
      · rename_i hb
        rw [hpaid.mpr hnone b hb, Int.sub_zero]
      · rename_i hb
        exact (spentFrom_eq_zero hb _).symm

theorem same_call_returns_iff (hfields : tx.fields
      = (settlePostings reservation.ownerId ref reservation.allocations charge).1 ++ destinationCredits ds)
    (hnodup : (reservation.allocations.map Prod.fst).Nodup)
    (htotal : (ds.map CreditDestination.amountMicroUnits).sum = charge)
    (hcurrent : ∃ current, l.reservationFromTransaction reservation.ownerId reservation.reservationId
      reservation.reserveTransaction = .ok current) :
    (∃ result, l.settlementResultFromTransaction reservation tx charge ds = .ok result) ↔
      ¬NamesRefund reservation.ownerId reservation.allocations charge ds ∧
        ¬Overpays reservation.ownerId reservation.allocations charge ds := by
  obtain ⟨hraises, hreturns⟩ := settlementResultFromTransaction_recorded reservation charge ds hfields hnodup hcurrent
  have hrefundPos : ∀ c ∈ refundCredits reservation.ownerId reservation.allocations charge, 0 < c.amountMicroUnits := by
    intro c hc
    obtain ⟨r, hr, rfl⟩ := mem_map.mp hc
    obtain ⟨hmem, hne⟩ := mem_filter.mp hr
    have hnonneg := refunds_nonneg reservation.allocations charge r hmem
    have hne' : r.2 ≠ 0 := by simpa using hne
    show 0 < r.2
    omega
  have hnames : creditWhere (namedBy ds) (settledCredits reservation.ownerId reservation.allocations charge ds) = charge
      ↔ ¬NamesRefund reservation.ownerId reservation.allocations charge ds := by
    have hself : creditWhere (namedBy ds) ds = (ds.map CreditDestination.amountMicroUnits).sum :=
      creditWhere_all fun d hd => namedBy_self hd
    rw [settledCredits, creditWhere_append, hself, htotal]
    have hzero := creditWhere_eq_zero_iff (namedBy ds) hrefundPos
    constructor
    · intro hsum hnamed
      obtain ⟨c, hc, hname⟩ := hnamed
      rw [hzero.mp (by omega) c hc] at hname
      cases hname
    · intro hnone
      have := hzero.mpr fun c hc => by
        by_contra hname
        exact hnone ⟨c, hc, by simpa using hname⟩
      omega
  rw [← hnames]
  constructor
  · intro h
    obtain ⟨result, hok⟩ := h
    by_contra hbad
    obtain ⟨m, herror⟩ := hraises (by tauto)
    rw [hok] at herror
    cases herror
  · intro h
    obtain ⟨result, hok, -⟩ := hreturns (by tauto)
    exact ⟨result, hok⟩

end

/-! ### A recorded event stays -/

namespace Op

variable {R : Type} [LayerRatio R]

theorem mem_transactions_run (env : Env) (op : Op R)
    (h : tx ∈ l.journal.transactions) : tx ∈ (op.run l env).journal.transactions := by
  rcases op.run_journal l env with heq | ⟨t, -, -, heq⟩
  · rwa [heq]
  · obtain ⟨s, hs⟩ := Journal.recordTransaction_snd l.journal t
    rw [heq, hs]
    exact mem_append_left _ h

theorem mem_transactions_runAll (steps : List (Env × Op R))
    (h : tx ∈ l.journal.transactions) : tx ∈ (runAll l steps).journal.transactions :=
  Run.exec_of_forall (fun l : Ledger => tx ∈ l.journal.transactions)
    (fun _ step hl => mem_transactions_run step.1 step.2 hl) h steps

end Op

theorem Ledger.transactionForEvent_of_mem (hnodup : (l.journal.transactions.map Transaction.eventId).Nodup)
    (h : tx ∈ l.journal.transactions) : l.transactionForEvent tx.eventId = some tx := by
  cases hfound : l.transactionForEvent tx.eventId with
  | none => exact absurd rfl (transactionForEvent_eq_none.mp hfound tx h)
  | some t =>
    obtain ⟨ht, hevent⟩ := transactionForEvent_eq_some hfound
    exact congrArg some (inj_on_of_nodup_map hnodup ht h hevent)

variable {r : ConfidentialCreditReservation}

theorem Ledger.reservationFromTransaction_later (l' : Ledger)
    (h : l.getConfidentialReservation owner ref = .ok (some r)) :
    r.ownerId = owner ∧ r.reservationId = ref ∧ ∃ state,
      l'.reservationFromTransaction owner ref r.reserveTransaction = .ok { r with state := state } := by
  unfold getConfidentialReservation at h
  split at h
  · cases h
  · split at h
    · cases h
    · rename_i r' hr
      cases h
      unfold reservationFromTransaction at hr
      split at hr
      · cases hr
      · rename_i allocations halloc
        dsimp only at hr
        split at hr
        · cases hr
        · rename_i htotal
          cases hr
          refine ⟨rfl, rfl, ?_⟩
          simp only [reservationFromTransaction, halloc]
          rw [if_neg htotal]
          exact ⟨_, rfl⟩

theorem Ledger.getConfidentialReservation_later {l' : Ledger}
    (h : l.getConfidentialReservation owner ref = .ok (some r))
    (hreserve : l'.transactionForEvent (reserveEvent ref) = some r.reserveTransaction) :
    r.ownerId = owner ∧ r.reservationId = ref ∧ ∃ state,
      l'.reservationFromTransaction owner ref r.reserveTransaction = .ok { r with state := state } ∧
        l'.getConfidentialReservation owner ref = .ok (some { r with state := state }) := by
  obtain ⟨howner, href, state, hfrom⟩ := reservationFromTransaction_later l' h
  refine ⟨howner, href, state, hfrom, ?_⟩
  simp only [getConfidentialReservation, hreserve, hfrom]

theorem Ledger.settle_reports {env : Env} {ownerId reservationId : String}

    {result : ConfidentialCreditSettlement} (howner : cleanOwner ownerId = .ok owner)
    (href : cleanReservationId reservationId = .ok ref)
    (hreservation : l.getConfidentialReservation owner ref = .ok (some r))
    (hnone : l.transactionForEvent (settleEvent ref) = none)
    (h : (l.settleConfidentialReservation env ownerId reservationId charge ds).1 = .ok result) :
    Reports result r.amountMicroUnits r.allocations charge := by
  unfold settleConfidentialReservation at h
  simp only [howner, href, hreservation, hnone] at h
  split at h
  · cases h
  · split at h
    · cases h
    · split at h
      · cases h
      · split at h
        · cases h
        · split at h
          · cases h
          · split at h
            · cases h
            · split at h
              · cases h
              · split at h
                · cases h
                · cases h
                  refine ⟨rfl, rfl, fun b => ?_⟩
                  cases b with
                  | earned | purchased | promo => rfl

theorem validateDestinations_pos {items : List CreditDestination} {amount : ℤ}
    (h : validateDestinations ds amount = .ok items) : 0 < amount := by
  obtain ⟨-, hpos, hsum⟩ := validateDestinations_ok h
  cases ds with
  | nil => cases h
  | cons d rest =>
    rw [← hsum]
    refine sum_pos _ ?_ (by simp)
    intro x hx
    obtain ⟨c, hc, rfl⟩ := mem_map.mp hx
    exact hpos c hc

/-! ### Retries -/

/-- **When a retry is faithful**: it names credits of another amount than its own and raises, the settlement
overpaid a bucket and every retry raises, or it has the recorded amount, and the settlement paid no bucket that
it draws on. -/
def RetryFaithful (owner : OwnerId) (allocations : List (Bucket × ℤ)) (charge : ℤ) (ds : List CreditDestination)
    (amount : ℤ) (retryDs : List CreditDestination) : Prop :=
  creditWhere (namedBy retryDs) (settledCredits owner allocations charge ds) ≠ amount ∨
    Overpays owner allocations charge ds ∨ (amount = charge ∧ ¬PaysOwnBucket owner allocations ds)

/-- **A retry of a settlement records nothing, and is faithful exactly when `RetryFaithful` says so.**  The
settlement is any call that appended a transaction in a reachable ledger; the retry comes after any operations, in
any ledger with the same transactions, such as one loaded from the journal. -/
theorem settlement_retry_iff {R : Type} [LayerRatio R] (cls : LedgerClass) (networkFeeBps : ℤ) (wallet : String)
    (storage : Option Storage) (before after : List (Env × Op R)) (env : Env) (ownerId reservationId : String)
    (charge : ℤ) (ds : List CreditDestination) {owner : OwnerId} {ref : ReservationId}
    {reservation : ConfidentialCreditReservation} {l : Ledger} (howner : cleanOwner ownerId = .ok owner)
    (href : cleanReservationId reservationId = .ok ref) :
    let start := Op.runAll (fresh cls networkFeeBps wallet storage) before
    let first := start.settleConfidentialReservation env ownerId reservationId charge ds
    start.getConfidentialReservation owner ref = .ok (some reservation) →
    first.2.journal.transactions ≠ start.journal.transactions →
    l.journal.transactions = (Op.runAll first.2 after).journal.transactions →
    (∀ result, first.1 = .ok result → Reports result reservation.amountMicroUnits reservation.allocations charge) ∧
      ∀ (env' : Env) (ownerId' reservationId' : String) (amount : ℤ) (retryDs : List CreditDestination),
        cleanOwner ownerId' = .ok owner → cleanReservationId reservationId' = .ok ref →
        validateDestinations retryDs amount = .ok retryDs →
        let retry := l.settleConfidentialReservation env' ownerId' reservationId' amount retryDs
        retry.2 = l ∧
        (((∃ m, retry.1 = .error (.billing m)) ∨ ∃ result, retry.1 = .ok result ∧
            Reports result reservation.amountMicroUnits reservation.allocations charge) ↔
          RetryFaithful owner reservation.allocations charge ds amount retryDs) ∧
        (amount = charge → retryDs = ds → ((∃ result, retry.1 = .ok result) ↔
          ¬NamesRefund owner reservation.allocations charge ds ∧
            ¬Overpays owner reservation.allocations charge ds)) := by
  intro start first hreservation hsettled hl
  have hstart : start.journal.IsReplay := Op.runAll_isReplay (Journal.isReplay_empty storage) before
  -- the first call recorded the settlement of this reservation
  rcases start.settleConfidentialReservation_cases env ownerId reservationId charge ds with
    hsame | ⟨owner', ref', tx, allocations, howner', href', hopen, -, -, -, hds, hsum, txs, hevent, hfields, hunseen,
      hrecorded⟩
  · exact absurd (congrArg (fun l : Ledger => l.journal.transactions) hsame) hsettled
  · obtain rfl : owner = owner' := Except.ok.inj (howner.symm.trans howner')
    obtain rfl : ref = ref' := Except.ok.inj (href.symm.trans href')
    obtain ⟨hreserve, hread, -, -⟩ := getConfidentialReservation_ok hreservation
    obtain rfl : tx = reservation.reserveTransaction := Option.some.inj (hopen.reserve.symm.trans hreserve)
    obtain rfl : allocations = reservation.allocations := Except.ok.inj (hopen.allocations_eq.symm.trans hread)
    have hnodup : (reservation.allocations.map Prod.fst).Nodup :=
      (readAllocations_sublist hread).nodup nodup_spendOrder
    refine ⟨fun result hok => settle_reports howner href hreservation hopen.notSettled hok, ?_⟩
    -- both events are found again in the later ledger
    have hfirst : first.2.journal.IsReplay :=
      Op.run_isReplay env (Op.settleConfidentialReservation ownerId reservationId charge ds : Op R) hstart
    have hlater : (l.journal.transactions.map Transaction.eventId).Nodup := by
      rw [hl]
      exact (Op.runAll_isReplay hfirst after).nodup
    have hkept : ∀ t, t ∈ first.2.journal.transactions → t ∈ l.journal.transactions := by
      intro t ht
      rw [hl]
      exact Op.mem_transactions_runAll after ht
    obtain ⟨hmem, hreserveEvent⟩ := transactionForEvent_eq_some hreserve
    have hreserve' : l.transactionForEvent (reserveEvent ref) = some reservation.reserveTransaction := by
      rw [← hreserveEvent]
      exact transactionForEvent_of_mem hlater (hkept _ (Op.mem_transactions_run env
        (Op.settleConfidentialReservation ownerId reservationId charge ds : Op R) hmem))
    have hsettle' : l.transactionForEvent (settleEvent ref) = some txs := by
      rw [← hevent]
      refine transactionForEvent_of_mem hlater (hkept _ ?_)
      show txs ∈ (start.settleConfidentialReservation env ownerId reservationId charge ds).2.journal.transactions
      rw [hrecorded, recorded_transactions]
      exact mem_append_right _ mem_cons_self
    obtain ⟨howner₁, href₁, state, hcurrent, hlaterReservation⟩ :=
      getConfidentialReservation_later hreservation hreserve'
    subst howner₁
    subst href₁
    intro env' ownerId' reservationId' amount retryDs howner₂ href₂ hvalid retry
    have hretry : retry = (l.settlementResultFromTransaction { reservation with state := state } txs amount retryDs,
        l) := by
      show l.settleConfidentialReservation env' ownerId' reservationId' amount retryDs = _
      simp only [settleConfidentialReservation, howner₂, href₂, hvalid, hlaterReservation, hsettle']
      exact if_neg (not_le.mpr (validateDestinations_pos hvalid))
    rw [hretry]
    refine ⟨rfl, ?_, ?_⟩
    · exact faithful_iff { reservation with state := state } hfields hnodup hds ⟨_, hcurrent⟩
    · intro hamount hsameDs
      subst hsameDs
      rw [hamount]
      exact same_call_returns_iff { reservation with state := state } hfields hnodup hsum ⟨_, hcurrent⟩

/-- Alice reserves ten units for the job `r1`. -/
def reservedTen : List (Env × Op ℚ) :=
  [(Env.atTime 0, .depositOwnerPurchasedCredits "alice" 10 "p1"),
   (Env.atTime 1, .reserveConfidentialCredits "alice" "r1" 10)]

/-- The ledger in which she has. -/
def reservedLedger : Ledger := Op.runAll (Ledger.fresh .payoutCapableConfidential 2500 "" none) reservedTen

theorem settlement_retry_iff_sample : let revenue : List CreditDestination := [⟨"revenue:jobs", "revenue:jobs", 7⟩]
    let settled := (reservedLedger.settleConfidentialReservation (Env.atTime 2) "alice" "r1" 7 revenue).2
    let retry := settled.settleConfidentialReservation (Env.atTime 3) "alice" "r1" 7 revenue
    ∃ reservation : ConfidentialCreditReservation, retry.2 = settled ∧
      (((∃ m, retry.1 = .error (.billing m)) ∨ ∃ result, retry.1 = .ok result ∧
          Reports result reservation.amountMicroUnits reservation.allocations 7) ↔
        RetryFaithful alice reservation.allocations 7 revenue 7 revenue) := by
  intro revenue settled retry
  have hreserved : ∃ reservation,
      reservedLedger.getConfidentialReservation alice sampleReservation = .ok (some reservation) := by
    have hsome : (reservedLedger.getConfidentialReservation alice sampleReservation).toOption.join.isSome = true := by
      decide +kernel
    cases hget : reservedLedger.getConfidentialReservation alice sampleReservation with
    | error e =>
      rw [hget] at hsome
      cases hsome
    | ok found =>
      cases found with
      | none =>
        rw [hget] at hsome
        cases hsome
      | some reservation => exact ⟨reservation, rfl⟩
  obtain ⟨reservation, hreservation⟩ := hreserved
  have hnil : ∀ l : Ledger, l.journal.transactions = (Op.runAll l ([] : List (Env × Op ℚ))).journal.transactions :=
    fun _ => rfl
  have hsettled : (reservedLedger.settleConfidentialReservation (Env.atTime 2) "alice" "r1" 7
      revenue).2.journal.transactions ≠ reservedLedger.journal.transactions := by
    have hlength : (reservedLedger.settleConfidentialReservation (Env.atTime 2) "alice" "r1" 7
        revenue).2.journal.transactions.length ≠ reservedLedger.journal.transactions.length := by
      decide +kernel
    exact fun hsame => hlength (congrArg length hsame)
  unfold reservedLedger at hreservation hsettled
  obtain ⟨-, hretries⟩ := settlement_retry_iff (l := settled) .payoutCapableConfidential 2500 "" none reservedTen []
    (Env.atTime 2) "alice" "r1" 7 revenue (by decide) (by decide) hreservation hsettled (by
      unfold settled reservedLedger
      exact hnil _)
  obtain ⟨hsame, hfaithful, -⟩ := hretries (Env.atTime 3) "alice" "r1" 7 revenue (by decide) (by decide) (by decide)
  exact ⟨reservation, hsame, hfaithful⟩

/-- Ten units settled to two destinations: a retry that names the first alone is answered with seven units charged
and three refunded.  And a settlement that pays the owner's own bucket cannot be repeated. -/
theorem partial_retry_accepted :
    let two : List CreditDestination := [⟨"revenue:a", "revenue:a", 7⟩, ⟨"revenue:b", "revenue:b", 3⟩]
    let first := reservedLedger.settleConfidentialReservation (Env.atTime 2) "alice" "r1" 10 two
    let retry := first.2.settleConfidentialReservation (Env.atTime 3) "alice" "r1" 7 [⟨"revenue:a", "revenue:a", 7⟩]
    let own : List CreditDestination := [⟨"owner:alice:purchased", Bucket.purchased.accountType, 4⟩]
    let paid := reservedLedger.settleConfidentialReservation (Env.atTime 2) "alice" "r1" 4 own
    let repeated := paid.2.settleConfidentialReservation (Env.atTime 3) "alice" "r1" 4 own
    (first.1.map fun r => (r.chargedMicroUnits, r.refundedMicroUnits)) = .ok (10, 0) ∧
      (retry.1.map fun r => (r.chargedMicroUnits, r.refundedMicroUnits)) = .ok (7, 3) ∧
      (paid.1.map fun r => r.chargedMicroUnits) = .ok 4 ∧
      (repeated.1.map fun r => r.chargedMicroUnits)
        = .error (.billing "confidential settlement retry does not match recorded charge") := by
  decide +kernel

end ComputeMesh.Billing
