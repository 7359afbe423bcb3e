import ComputeMesh.Lib.Run
import ComputeMesh.Billing.OwnerSpec

/-!
# Runs of ledger operations and the truth of the journal

`Op` lists the public operations of the ledger family that can change a ledger, `Op.run` performs one and
`runAll` a whole sequence of them.  `Op.Posts` says, operation by operation, which transaction may be
recorded, and `Op.run_journal` that nothing else ever happens to the journal.

The journal invariant is `IsReplay`: the journal in memory is what posting its transactions one after the
other yields.  Live updates, loading from the file and the recomputation of `reconcile` are three
folds over the same transactions, and the invariant makes them agree.
-/

namespace ComputeMesh.Billing

open ComputeMesh.Text List

/-- The operations of `Ledger`, `OwnerCreditLedger`, `GatewayOwnerCreditLedger`, `PayoutCapableOwnerLedger`
and `ConfidentialEscrowOwnerCreditLedger` that can change the object.  `getOwnerBalances` is among them
because it expires overdue holds. -/
inductive Op (R : Type)
  | createHold (accountId : String) (amountMicroUnits : ℤ) (modelId : String)
      (ttlSeconds : ℚ) (holdId : Option String)
  | renewHold (holdId : String) (additionalSeconds : ℚ)
  | releaseHold (holdId : String)
  | captureHold (holdId : String) (call : JobCall R)
  | depositCustomerCredits (customerAccountId : String) (amountMicroUnits : ℤ)
      (paymentReference : String)
  | recordJobExecution (call : JobCall R)
  | createOperatorTreasuryPayout (walletAddress settlementReference : Option String)
  | createProviderPayout (providerNodeId walletAddress : String)
      (settlementReference : Option String)
  | getOwnerBalances (ownerId : String)
  | depositOwnerPurchasedCredits (ownerId : String) (amountMicroUnits : ℤ)
      (paymentReference : String)
  | grantOwnerPromoCredits (ownerId : String) (amountMicroUnits : ℤ)
      (grantReference policyVersion : String)
  | creditOwnerEarnedCredits (ownerId : String) (amountMicroUnits : ℤ)
      (earningReference description : String)
  | spendOwnerCredits (ownerId : String) (amountMicroUnits : ℤ)
      (destinations : List CreditDestination) (spendReference description : String)
  | createOwnerHold (ownerId : String) (amountMicroUnits : ℤ) (purpose : String)
      (ttlSeconds : ℚ) (holdId : Option String)
  | releaseOwnerHold (holdId : String)
  | captureOwnerHold (holdId : String) (actualAmountMicroUnits : ℤ)
      (destinations : List CreditDestination) (spendReference description : String)
  | reserveOwnerWithdrawal (ownerId : String) (amountMicroUnits : ℤ)
      (settlementReference : String)
  | finalizeOwnerWithdrawal (ownerId : String) (amountMicroUnits : ℤ)
      (settlementReference : String)
  | cancelOwnerWithdrawal (ownerId : String) (amountMicroUnits : ℤ)
      (settlementReference : String)
  | reserveConfidentialCredits (ownerId reservationId : String) (amountMicroUnits : ℤ)
  | releaseConfidentialReservation (ownerId reservationId : String)
  | settleConfidentialReservation (ownerId reservationId : String)
      (actualAmountMicroUnits : ℤ) (destinations : List CreditDestination)

variable {l : Ledger} {e : String}

namespace Op

variable {R : Type} [LayerRatio R]

/-- Perform an operation; what it returns or raises is dropped, what it did to the ledger is kept. -/
def run (l : Ledger) (env : Env) : Op R → Ledger
  | createHold account amount model ttl holdId =>
    (l.createHold env account amount model ttl holdId).2
  | renewHold holdId seconds => (l.renewHold env holdId seconds).2
  | releaseHold holdId => (l.releaseHold holdId).2
  | captureHold holdId call => (l.captureHold env holdId call).2
  | depositCustomerCredits customer amount ref =>
    if l.cls.isGateway then (l.gatewayDepositCustomerCredits env customer amount ref).2
    else (l.depositCustomerCredits env customer amount ref).2
  | recordJobExecution call => (l.recordJobExecution env call).2
  | createOperatorTreasuryPayout wallet ref => (l.createOperatorTreasuryPayout env wallet ref).2
  | createProviderPayout node wallet ref => (l.createProviderPayout env node wallet ref).2
  | getOwnerBalances owner => (l.getOwnerBalances env owner).2
  | depositOwnerPurchasedCredits owner amount ref =>
    (l.depositOwnerPurchasedCredits env owner amount ref).2
  | grantOwnerPromoCredits owner amount ref policy =>
    (l.grantOwnerPromoCredits env owner amount ref policy).2
  | creditOwnerEarnedCredits owner amount ref description =>
    (l.creditOwnerEarnedCredits env owner amount ref description).2
  | spendOwnerCredits owner amount ds ref description =>
    (l.spendOwnerCredits env owner amount ds ref description).2
  | createOwnerHold owner amount purpose ttl holdId =>
    (l.createOwnerHold env owner amount purpose ttl holdId).2
  | releaseOwnerHold holdId => (l.releaseOwnerHold holdId).2
  | captureOwnerHold holdId actual ds ref description =>
    (l.captureOwnerHold env holdId actual ds ref description).2
  | reserveOwnerWithdrawal owner amount ref => (l.reserveOwnerWithdrawal env owner amount ref).2
  | finalizeOwnerWithdrawal owner amount ref => (l.finalizeOwnerWithdrawal env owner amount ref).2
  | cancelOwnerWithdrawal owner amount ref => (l.cancelOwnerWithdrawal env owner amount ref).2
  | reserveConfidentialCredits owner ref amount =>
    (l.reserveConfidentialCredits env owner ref amount).2
  | releaseConfidentialReservation owner ref => (l.releaseConfidentialReservation env owner ref).2
  | settleConfidentialReservation owner ref actual ds =>
    (l.settleConfidentialReservation env owner ref actual ds).2

/-- Perform a sequence of operations, each with what it reads from outside. -/
def runAll (l : Ledger) (steps : List (Env × Op R)) : Ledger :=
  Run.exec (fun l step => step.2.run l step.1) l steps

/-- A credit of `amount` to bucket `b` of the owner with this id, under this event. -/
def PostsBucketCredit (ownerId : String) (b : Bucket) (amount : ℤ) (source type event : String)
    (e : String) (fs : List PostingFields) : Prop :=
  ∃ owner, cleanOwner ownerId = .ok owner ∧ 0 < amount ∧ e = event ∧
    fs = Ledger.bucketCreditPostings source type owner b amount

/-- The transactions an operation may record in ledger `l`, by event id and postings. -/
def Posts (l : Ledger) (env : Env) : Op R → String → List PostingFields → Prop
  | createHold .., _, _ | renewHold .., _, _ | releaseHold .., _, _ | getOwnerBalances .., _, _
  | createOwnerHold .., _, _ | releaseOwnerHold .., _, _ => False
  | captureHold _ call, e, fs | recordJobExecution call, e, fs =>
    e = call.eventId ∧ IsJobPostings call fs
  | depositCustomerCredits customer amount ref, e, fs =>
    (e = "deposit:" ++ ref ∧ fs = Ledger.depositPostings customer amount) ∨
      PostsBucketCredit customer .purchased amount "gateway:escrow" paymentGatewayEscrow
        ("owner-purchase:" ++ strip ref) e fs
  | createOperatorTreasuryPayout .., e, fs =>
    ∃ ref, e = "payout:operator_treasury:" ++ ref ∧ fs = Ledger.payoutPostings "revenue:network_fee" networkFeeRevenue
        (l.rawBalance "revenue:network_fee")
  | createProviderPayout node _ ref, e, fs =>
    e = "payout:" ++ node ++ ":" ++ orDefault ref env.tokenHex ∧
      fs = Ledger.payoutPostings ("provider:" ++ node) providerPayable (l.rawBalance ("provider:" ++ node))
  | depositOwnerPurchasedCredits owner amount ref, e, fs =>
    PostsBucketCredit owner .purchased amount "gateway:escrow" paymentGatewayEscrow
      ("owner-purchase:" ++ strip ref) e fs
  | grantOwnerPromoCredits owner amount ref _, e, fs =>
    PostsBucketCredit owner .promo amount "expense:promo_grants" promoGrantExpense ("owner-promo:" ++ strip ref) e fs
  | creditOwnerEarnedCredits owner amount ref _, e, fs =>
    PostsBucketCredit owner .earned amount "expense:provider_earnings" providerEarningsExpense
      ("owner-earning:" ++ strip ref) e fs
  | spendOwnerCredits ownerId _ ds ref _, e, fs =>
    ∃ owner allocations, cleanOwner ownerId = .ok owner ∧ e = "owner-spend:" ++ strip ref ∧
      fs = Ledger.spendPostings owner allocations ds
  | captureOwnerHold holdId _ ds ref _, e, fs =>
    ∃ hold allocations, l.ownerHolds.get? holdId = some hold ∧ e = "owner-spend:" ++ strip ref ∧
      fs = Ledger.spendPostings hold.ownerId allocations ds
  | reserveOwnerWithdrawal ownerId amount ref, e, fs =>
    ∃ owner : OwnerId, owner.val = strip ownerId ∧ e = "owner-withdrawal-reserve:" ++ strip ref ∧
      fs = Ledger.withdrawalReservePostings owner amount
  | finalizeOwnerWithdrawal ownerId amount ref, e, fs =>
    e = "owner-withdrawal-finalize:" ++ strip ref ∧ fs = Ledger.withdrawalFinalizePostings (strip ownerId) amount
  | cancelOwnerWithdrawal ownerId amount ref, e, fs =>
    ∃ owner : OwnerId, owner.val = strip ownerId ∧ e = "owner-withdrawal-cancel:" ++ strip ref ∧
      fs = Ledger.withdrawalCancelPostings owner amount
  | reserveConfidentialCredits ownerId refId amount, e, fs =>
    ∃ owner ref allocations, cleanOwner ownerId = .ok owner ∧ cleanReservationId refId = .ok ref ∧
      Ledger.IsAllocation l env.time owner none amount allocations ∧ e = reserveEvent ref ∧
      fs = reservePostings owner ref allocations
  | releaseConfidentialReservation ownerId refId, e, fs =>
    ∃ owner ref tx allocations, cleanOwner ownerId = .ok owner ∧ cleanReservationId refId = .ok ref ∧
      Ledger.IsOpenReservation l owner ref tx allocations ∧ e = releaseEvent ref ∧
      fs = releasePostings owner ref allocations
  | settleConfidentialReservation ownerId refId actual ds, e, fs =>
    ∃ owner ref tx allocations, cleanOwner ownerId = .ok owner ∧ cleanReservationId refId = .ok ref ∧
      Ledger.IsOpenReservation l owner ref tx allocations ∧ 0 < actual ∧
      actual ≤ (allocations.map Prod.snd).sum ∧ (settlePostings owner ref allocations actual).2 = 0 ∧
      (∀ d ∈ ds, 0 < d.amountMicroUnits) ∧
      (ds.map CreditDestination.amountMicroUnits).sum = actual ∧ e = settleEvent ref ∧
      fs = (settlePostings owner ref allocations actual).1 ++ destinationCredits ds

/-- The journal of `l'` is that of `l`, or has one more transaction that satisfies `P`. -/
def JournalStep (l l' : Ledger) (P : String → List PostingFields → Prop) : Prop :=
  l'.journal = l.journal ∨ ∃ tx : Transaction, l.Unseen tx.eventId ∧ P tx.eventId tx.fields ∧
      l'.journal = (l.journal.recordTransaction tx).2

variable {P : String → List PostingFields → Prop}

theorem JournalStep.of_eq {l' : Ledger} (h : l' = l) : JournalStep l l' P := .inl (by rw [h])

theorem JournalStep.of_swept {now : ℚ} {l₁ l' : Ledger}
    (hs : Ledger.Swept now l l₁) (h : l' = l₁) : JournalStep l l' P :=
  .inl (by rw [h, hs.journal])

theorem JournalStep.of_recorded {now : ℚ} {l₁ l' : Ledger} {fs : List PostingFields} (hs : Ledger.Swept now l l₁)
    (h : Ledger.Recorded l₁ l' e fs) (hP : P e fs) : JournalStep l l' P := by
  obtain ⟨tx, rfl, rfl, hunseen, rfl⟩ := h
  refine .inr ⟨tx, hs.unseen hunseen, hP, ?_⟩
  show (l₁.journal.recordTransaction tx).2 = (l.journal.recordTransaction tx).2
  rw [hs.journal]

theorem JournalStep.of_bucketDeposit {l' : Ledger} {ownerId : String} {b : Bucket} {amount : ℤ}
    {event source type : String}
    (h : Ledger.IsBucketDeposit l l' ownerId b amount event source type)
    (hP : ∀ e fs, PostsBucketCredit ownerId b amount source type event e fs → P e fs) :
    JournalStep l l' P := by
  rcases h with h | ⟨owner, howner, hpos, hrec⟩
  · exact .of_eq h
  · exact .of_recorded (.refl 0 l) hrec (hP _ _ ⟨owner, howner, hpos, rfl, rfl⟩)

/-- **What one operation does to the journal**: nothing, or one new transaction of the named form. -/
theorem run_journal (l : Ledger) (env : Env) (op : Op R) : JournalStep l (op.run l env) (op.Posts l env) := by
  cases op with
  | createHold account amount model ttl holdId =>
    rcases l.createHold_cases env account amount model ttl holdId with h | ⟨_, _, -, -, -, -, -, h⟩
    · exact .of_eq h
    · exact .inl (by rw [run, h]; rfl)
  | renewHold holdId seconds =>
    rcases l.renewHold_cases env holdId seconds with h | ⟨_, -, -, h⟩
    · exact .of_eq h
    · exact .inl (by rw [run, h]; rfl)
  | releaseHold holdId =>
    rcases l.releaseHold_cases holdId with h | ⟨_, -, h⟩
    · exact .of_eq h
    · exact .inl (by rw [run, h]; rfl)
  | captureHold holdId call =>
    rcases l.captureHold_cases env holdId call with h | ⟨_, _, _, -, -, -, h⟩
    · exact .of_eq h
    · rcases l.recordJobExecution_journal env call with hj | ⟨fs, hfs, tx, he, rfl, hu, hj⟩
      · exact .inl (by rw [run, h, hj]; rfl)
      · exact .inr ⟨tx, by rwa [he], ⟨he, hfs⟩, by rw [run, h, hj]; rfl⟩
  | depositCustomerCredits customer amount ref =>
    have hplain : JournalStep l (l.depositCustomerCredits env customer amount ref).2
        (Posts l env (depositCustomerCredits (R := R) customer amount ref)) := by
      rcases l.depositCustomerCredits_cases env customer amount ref with h | ⟨-, h⟩
      · exact .of_eq h
      · exact .of_recorded (.refl 0 l) h (.inl ⟨rfl, rfl⟩)
    rw [run]
    split
    · unfold Ledger.gatewayDepositCustomerCredits
      split
      · exact hplain
      · exact .of_bucketDeposit (l.depositOwnerPurchasedCredits_cases env customer amount ref)
          fun e fs h => .inr h
    · exact hplain
  | recordJobExecution call =>
    rcases l.recordJobExecution_journal env call with h | ⟨fs, hfs, h⟩
    · exact .of_eq h
    · exact .of_recorded (.refl 0 l) h ⟨rfl, hfs⟩
  | createOperatorTreasuryPayout wallet ref =>
    rcases l.createOperatorTreasuryPayout_cases env wallet ref with h | ⟨event, h⟩
    · exact .of_eq h
    · exact .of_recorded (.refl 0 l) h ⟨event, rfl, rfl⟩
  | createProviderPayout node wallet ref =>
    rcases l.createProviderPayout_cases env node wallet ref with h | h
    · exact .of_eq h
    · exact .of_recorded (.refl 0 l) h ⟨rfl, rfl⟩
  | getOwnerBalances owner => exact .of_swept (l.getOwnerBalances_snd env owner) rfl
  | depositOwnerPurchasedCredits owner amount ref =>
    exact .of_bucketDeposit (l.depositOwnerPurchasedCredits_cases env owner amount ref)
      fun e fs h => h
  | grantOwnerPromoCredits owner amount ref policy =>
    exact .of_bucketDeposit (l.grantOwnerPromoCredits_cases env owner amount ref policy)
      fun e fs h => h
  | creditOwnerEarnedCredits owner amount ref description =>
    exact .of_bucketDeposit (l.creditOwnerEarnedCredits_cases env owner amount ref description)
      fun e fs h => h
  | spendOwnerCredits owner amount ds ref description =>
    obtain ⟨l₁, hs, h | ⟨o, allocations, ho, -, -, h⟩⟩ :=
      l.spendOwnerCredits_cases env owner amount ds ref description
    · exact .of_swept hs h
    · exact .of_recorded hs h ⟨o, allocations, ho, rfl, rfl⟩
  | createOwnerHold owner amount purpose ttl holdId =>
    obtain ⟨l₁, hs, h | ⟨hold, -, -, h⟩⟩ :=
      l.createOwnerHold_cases env owner amount purpose ttl holdId
    · exact .of_swept hs h
    · exact .inl (by rw [run, h, ← hs.journal]; rfl)
  | releaseOwnerHold holdId =>
    rcases l.releaseOwnerHold_cases holdId with h | ⟨_, -, h⟩
    · exact .of_eq h
    · exact .inl (by rw [run, h]; rfl)
  | captureOwnerHold holdId actual ds ref description =>
    rcases l.captureOwnerHold_cases env holdId actual ds ref description with
      h | ⟨hold, hget, ⟨-, h⟩ | ⟨-, l₁, hs, h | ⟨l₂, selected, -, -, hrec, ⟨-, h⟩ | h⟩⟩⟩
    · exact .of_eq h
    · exact .inl (by rw [run, h]; rfl)
    · exact .of_swept hs h
    · rw [run, h]
      exact .of_recorded hs hrec ⟨hold, selected, hget, rfl, rfl⟩
    · have hstep : JournalStep l l₂
          (Posts l env (captureOwnerHold (R := R) holdId actual ds ref description)) :=
        .of_recorded hs hrec ⟨hold, selected, hget, rfl, rfl⟩
      rw [run, h]
      exact hstep
  | reserveOwnerWithdrawal owner amount ref =>
    obtain ⟨l₁, hs, h | ⟨o, ho, -, -, h⟩⟩ := l.reserveOwnerWithdrawal_cases env owner amount ref
    · exact .of_swept hs h
    · exact .of_recorded hs h ⟨o, ho, rfl, rfl⟩
  | finalizeOwnerWithdrawal owner amount ref =>
    rcases l.finalizeOwnerWithdrawal_cases env owner amount ref with h | ⟨-, -, h⟩
    · exact .of_eq h
    · exact .of_recorded (.refl 0 l) h ⟨rfl, rfl⟩
  | cancelOwnerWithdrawal owner amount ref =>
    rcases l.cancelOwnerWithdrawal_cases env owner amount ref with h | ⟨o, ho, -, h⟩
    · exact .of_eq h
    · exact .of_recorded (.refl 0 l) h ⟨o, ho, rfl, rfl⟩
  | reserveConfidentialCredits owner ref amount =>
    obtain ⟨l₁, hs, h | ⟨o, r, allocations, ho, hr, ha, h⟩⟩ :=
      l.reserveConfidentialCredits_cases env owner ref amount
    · exact .of_swept hs h
    · exact .of_recorded hs h ⟨o, r, allocations, ho, hr, ha, rfl, rfl⟩
  | releaseConfidentialReservation owner ref =>
    rcases l.releaseConfidentialReservation_cases env owner ref with
      h | ⟨o, r, tx, allocations, ho, hr, hopen, h⟩
    · exact .of_eq h
    · exact .of_recorded (.refl 0 l) h ⟨o, r, tx, allocations, ho, hr, hopen, rfl, rfl⟩
  | settleConfidentialReservation owner ref actual ds =>
    rcases l.settleConfidentialReservation_cases env owner ref actual ds with
      h | ⟨o, r, tx, allocations, ho, hr, hopen, hpos, hle, hzero, hds, hsum, h⟩
    · exact .of_eq h
    · exact .of_recorded (.refl 0 l) h
        ⟨o, r, tx, allocations, ho, hr, hopen, hpos, hle, hzero, hds, hsum, rfl, rfl⟩

/-- How the event ids of an operation begin. -/
def eventTags : Op R → List String
  | captureHold .. | recordJobExecution .. => ["job:"]
  | depositCustomerCredits .. => ["deposit:", "owner-purchase:"]
  | createOperatorTreasuryPayout .. | createProviderPayout .. => ["payout:"]
  | depositOwnerPurchasedCredits .. => ["owner-purchase:"]
  | grantOwnerPromoCredits .. => ["owner-promo:"]
  | creditOwnerEarnedCredits .. => ["owner-earning:"]
  | spendOwnerCredits .. | captureOwnerHold .. => ["owner-spend:"]
  | reserveOwnerWithdrawal .. => ["owner-withdrawal-reserve:"]
  | finalizeOwnerWithdrawal .. => ["owner-withdrawal-finalize:"]
  | cancelOwnerWithdrawal .. => ["owner-withdrawal-cancel:"]
  | reserveConfidentialCredits .. => ["confidential-reserve:"]
  | releaseConfidentialReservation .. => ["confidential-release:"]
  | settleConfidentialReservation .. => ["confidential-settle:"]
  | _ => []

omit [LayerRatio R] in
theorem posts_eventTag {env : Env} {op : Op R} {fs : List PostingFields}
    (h : op.Posts l env e fs) : ∃ tag ∈ op.eventTags, ∃ ref, e = tag ++ ref := by
  cases op with
  | captureHold _ call | recordJobExecution call => exact ⟨_, mem_singleton_self _, _, h.1⟩
  | depositCustomerCredits customer amount ref =>
    rcases h with ⟨he, -⟩ | ⟨_, -, -, he, -⟩
    · exact ⟨_, mem_cons_self, _, he⟩
    · exact ⟨_, mem_cons_of_mem _ (mem_singleton_self _), _, he⟩
  | createOperatorTreasuryPayout wallet ref =>
    obtain ⟨rest, he, -⟩ := h
    refine ⟨_, mem_singleton_self _, "operator_treasury:" ++ rest, ?_⟩
    rw [he, ← String.append_assoc]
    rfl
  | createProviderPayout node wallet ref =>
    have he := h.1
    rw [String.append_assoc, String.append_assoc] at he
    exact ⟨_, mem_singleton_self _, _, he⟩
  | depositOwnerPurchasedCredits owner amount ref | grantOwnerPromoCredits owner amount ref policy
  | creditOwnerEarnedCredits owner amount ref description =>
    obtain ⟨_, -, -, he, -⟩ := h
    exact ⟨_, mem_singleton_self _, _, he⟩
  | spendOwnerCredits owner amount ds ref description | captureOwnerHold holdId actual ds ref description =>
    obtain ⟨_, _, -, he, -⟩ := h
    exact ⟨_, mem_singleton_self _, _, he⟩
  | reserveOwnerWithdrawal owner amount ref =>
    obtain ⟨_, -, he, -⟩ := h
    exact ⟨_, mem_singleton_self _, _, he⟩
  | finalizeOwnerWithdrawal owner amount ref => exact ⟨_, mem_singleton_self _, _, h.1⟩
  | cancelOwnerWithdrawal owner amount ref =>
    obtain ⟨_, -, he, -⟩ := h
    exact ⟨_, mem_singleton_self _, _, he⟩
  | reserveConfidentialCredits owner ref amount =>
    obtain ⟨_, _, _, -, -, -, he, -⟩ := h
    exact ⟨_, mem_singleton_self _, _, he⟩
  | releaseConfidentialReservation owner ref =>
    obtain ⟨_, _, _, _, -, -, -, he, -⟩ := h
    exact ⟨_, mem_singleton_self _, _, he⟩
  | settleConfidentialReservation owner ref actual ds =>
    obtain ⟨_, _, _, _, -, -, -, -, -, -, -, -, he, -⟩ := h
    exact ⟨_, mem_singleton_self _, _, he⟩
  | _ => exact h.elim

end Op

/-! ### The journal invariant -/

variable {tx : Transaction}

namespace Ledger

theorem transactionForEvent_eq_none :
    l.transactionForEvent e = none ↔ ∀ tx ∈ l.journal.transactions, tx.eventId ≠ e := by
  simp [transactionForEvent]

theorem transactionForEvent_eq_some
    (h : l.transactionForEvent e = some tx) : tx ∈ l.journal.transactions ∧ tx.eventId = e := by
  have hmem := mem_of_find?_eq_some h
  have heq := find?_some h
  exact ⟨mem_reverse.mp hmem, by simpa using heq⟩

end Ledger

namespace Journal

/-- The journal that posting a list of transactions yields. -/
def replay (storage : Option Storage) (txs : List Transaction) : Journal :=
  txs.foldl post (empty storage)

/-- **The journal invariant**: the journal in memory is the replay of its transactions, the processed
events are exactly theirs, and no event occurs twice. -/
structure IsReplay (j : Journal) : Prop where
  eq_replay : j = replay j.storage j.transactions
  events : ∀ e, e ∈ j.processedEvents ↔ ∃ tx ∈ j.transactions, tx.eventId = e
  nodup : (j.transactions.map Transaction.eventId).Nodup

theorem isReplay_empty (storage : Option Storage) : IsReplay (empty storage) :=
  ⟨rfl, fun e => by simp [empty], by simp [empty]⟩

theorem foldl_post_storage (txs : List Transaction) (s : Option Storage) :
    ∀ j : Journal, txs.foldl post { j with storage := s } = { txs.foldl post j with storage := s } := by
  induction txs with
  | nil => intro j; rfl
  | cons tx txs ih => intro j; exact ih (j.post tx)

/-- The file a journal is kept in has no part in what is replayed. -/
theorem replay_storage (s s' : Option Storage) (txs : List Transaction) :
    replay s txs = { replay s' txs with storage := s } :=
  foldl_post_storage txs s (empty s')

theorem replay_storage_eq (s : Option Storage) (txs : List Transaction) : (replay s txs).storage = s := by
  rw [replay_storage s none]

theorem mem_processedEvents_replay (s : Option Storage) {txs : List Transaction}
    (h : tx ∈ txs) : tx.eventId ∈ (replay s txs).processedEvents := by
  have hfold : ∀ (txs : List Transaction) (j : Journal), tx ∈ txs ∨ tx.eventId ∈ j.processedEvents →
      tx.eventId ∈ (txs.foldl post j).processedEvents := by
    intro txs
    induction txs with
    | nil => intro j hj; simpa using hj
    | cons t txs ih =>
      intro j hj
      apply ih
      rcases hj with hj | hj
      · rcases mem_cons.mp hj with rfl | hj
        · exact .inr mem_insert_self
        · exact .inl hj
      · exact .inr (mem_insert_of_mem hj)
  exact hfold txs _ (.inl h)

theorem recordTransaction_snd (j : Journal) (tx : Transaction) :
    ∃ s, (j.recordTransaction tx).2 = { j.post tx with storage := s } := by
  unfold recordTransaction appendToDisk
  split
  · exact ⟨_, rfl⟩
  · split
    · exact ⟨_, rfl⟩
    · exact ⟨_, rfl⟩

variable {j : Journal}

theorem IsReplay.record (h : IsReplay j)
    (hnew : tx.eventId ∉ j.processedEvents) : IsReplay (j.recordTransaction tx).2 := by
  obtain ⟨s, hs⟩ := recordTransaction_snd j tx
  rw [hs]
  refine ⟨?_, fun e => ?_, ?_⟩
  · show { j.post tx with storage := s } = replay s (j.transactions ++ [tx])
    have hfold : replay s (j.transactions ++ [tx]) = (replay s j.transactions).post tx := by
      rw [replay, foldl_append]
      rfl
    rw [hfold, replay_storage s j.storage, ← h.eq_replay]
    rfl
  · show e ∈ j.processedEvents.insert tx.eventId ↔ ∃ t ∈ j.transactions ++ [tx], t.eventId = e
    rw [mem_insert_iff, h.events e]
    constructor
    · rintro (rfl | ⟨t, ht, rfl⟩)
      · exact ⟨tx, by simp, rfl⟩
      · exact ⟨t, by simp [ht], rfl⟩
    · rintro ⟨t, ht, rfl⟩
      rcases mem_append.mp ht with ht | ht
      · exact .inr ⟨t, ht, rfl⟩
      · rw [mem_singleton] at ht
        exact .inl (by rw [ht])
  · show ((j.transactions ++ [tx]).map Transaction.eventId).Nodup
    have hnot : tx.eventId ∉ j.transactions.map Transaction.eventId := fun hmem => by
      obtain ⟨t, ht, heq⟩ := mem_map.mp hmem
      exact hnew ((h.events _).mpr ⟨t, ht, heq⟩)
    rw [map_append, map_singleton, ← concat_eq_append]
    exact List.Nodup.concat hnot h.nodup

theorem IsReplay.filter_event (h : IsReplay j) (htx : tx ∈ j.transactions) :
    (j.transactions.filter fun t => t.eventId = tx.eventId) = [tx] := by
  have hnodup := h.nodup
  generalize j.transactions = txs at htx hnodup
  induction txs with
  | nil => cases htx
  | cons t txs ih =>
    rw [map_cons, nodup_cons] at hnodup
    rcases mem_cons.mp htx with rfl | htx
    · have hnone : (txs.filter fun t => t.eventId = tx.eventId) = [] := by
        rw [filter_eq_nil_iff]
        intro t ht heq
        exact hnodup.1 (mem_map.mpr ⟨t, ht, by simpa using heq⟩)
      simp [hnone]
    · have hne : t.eventId ≠ tx.eventId := fun heq =>
        hnodup.1 (mem_map.mpr ⟨tx, htx, heq.symm⟩)
      simp [hne, ih htx hnodup.2]

theorem IsReplay.balances_eq (h : IsReplay j) : j.balances = computedBalances j.transactions := by
  have hfold : ∀ (txs : List Transaction) (k : Journal), (txs.foldl post k).balances
      = txs.foldl (fun d tx => tx.fields.foldl postBalance d) k.balances := by
    intro txs
    induction txs with
    | nil => intro k; rfl
    | cons tx txs ih => intro k; exact ih (k.post tx)
  have heq := congrArg Journal.balances h.eq_replay
  rw [replay, hfold] at heq
  exact heq

theorem getD_computedBalances (txs : List Transaction) (a : String) :
    (computedBalances txs).getD a 0 = (txs.map fun tx => netChange tx.fields a).sum := by
  have hfold : ∀ (txs : List Transaction) (d : Dict String ℤ),
      (txs.foldl (fun d tx => tx.fields.foldl postBalance d) d).getD a 0
        = d.getD a 0 + (txs.map fun tx => netChange tx.fields a).sum := by
    intro txs
    induction txs with
    | nil => intro d; simp
    | cons tx txs ih =>
      intro d
      rw [foldl_cons, ih, foldl_postBalance, Dict.getD_addAll, map_cons, sum_cons]
      show d.getD a 0 + netChange tx.fields a + _ = _
      omega
  rw [computedBalances, hfold]
  show (0 : ℤ) + _ = _
  omega

/-! ### Loading what was written -/

theorem newPostings_fieldsOf (ps : List Posting) : newPostings (fieldsOf ps) = .ok ps := by
  induction ps with
  | nil => rfl
  | cons p ps ih =>
    have hp : Posting.new p.toPostingFields = .ok p := by
      unfold Posting.new
      have hneg : ¬(p.debitMicroUnits < 0 ∨ p.creditMicroUnits < 0) := by
        have := p.nonneg
        omega
      rw [dif_neg hneg, dif_neg p.oneSided]
    show newPostings (p.toPostingFields :: fieldsOf ps) = .ok (p :: ps)
    rw [newPostings, hp, ih]

/-- A line that was written is read back as the transaction it came from. -/
theorem loadLine_toDict (tx : Transaction) : loadLine tx.toDict = .ok tx := by
  show newTransaction tx.txId tx.eventId tx.createdAt tx.description (fieldsOf tx.postings) = .ok tx
  unfold newTransaction
  rw [newPostings_fieldsOf]
  simp only [Transaction.new]
  rw [dif_neg (not_not.mpr tx.balanced), dif_neg (not_le.mpr tx.positive)]

theorem loadLines_toDict (txs : List Transaction) :
    ∀ j : Journal, loadLines (txs.map Transaction.toDict) j = .ok (txs.foldl post j) := by
  induction txs with
  | nil => intro j; rfl
  | cons tx txs ih =>
    intro j
    rw [map_cons, loadLines, loadLine_toDict]
    exact ih (j.post tx)

/-- The file holds the transactions in order, and can be written. -/
def IsWritten (j : Journal) : Prop :=
  j.storage = some ⟨j.transactions.map Transaction.toDict, false⟩

theorem IsWritten.record (h : IsWritten j) (tx : Transaction) : IsWritten (j.recordTransaction tx).2 := by
  have hstorage : (j.post tx).storage = some ⟨j.transactions.map Transaction.toDict, false⟩ := h
  unfold recordTransaction appendToDisk
  rw [hstorage]
  simp [IsWritten, post]

theorem open_of_isWritten (hw : IsWritten j) (hr : IsReplay j) : open_ j.storage = .ok j := by
  have hopen : open_ j.storage = .ok (replay j.storage j.transactions) := by
    rw [hw]
    exact loadLines_toDict j.transactions _
  rw [hopen, ← hr.eq_replay]

end Journal

theorem Ledger.Unseen.not_mem (hr : l.journal.IsReplay) (h : l.Unseen e) : e ∉ l.journal.processedEvents := by
  rcases h with h | h
  · exact h
  · intro hmem
    obtain ⟨tx, htx, heq⟩ := (hr.events e).mp hmem
    exact Ledger.transactionForEvent_eq_none.mp h tx htx heq

namespace Op

variable {R : Type} [LayerRatio R]

theorem run_isReplay (env : Env) (op : Op R) (h : l.journal.IsReplay) : (op.run l env).journal.IsReplay := by
  rcases op.run_journal l env with heq | ⟨tx, hunseen, -, heq⟩
  · rwa [heq]
  · rw [heq]
    exact h.record (hunseen.not_mem h)

theorem run_isWritten (env : Env) (op : Op R) (h : l.journal.IsWritten) : (op.run l env).journal.IsWritten := by
  rcases op.run_journal l env with heq | ⟨tx, -, -, heq⟩
  · rwa [heq]
  · rw [heq]
    exact h.record tx

theorem runAll_isReplay (h : l.journal.IsReplay) (steps : List (Env × Op R)) : (runAll l steps).journal.IsReplay :=
  Run.exec_of_forall (fun l : Ledger => l.journal.IsReplay) (fun _ step hl => step.2.run_isReplay step.1 hl) h steps

theorem runAll_isWritten (h : l.journal.IsWritten) (steps : List (Env × Op R)) : (runAll l steps).journal.IsWritten :=
  Run.exec_of_forall (fun l : Ledger => l.journal.IsWritten) (fun _ step hl => step.2.run_isWritten step.1 hl) h steps

end Op

theorem Ledger.reconcile_of_isReplay (h : l.journal.IsReplay) (env : Env) :
    ∃ report, l.reconcile env = .ok report := by
  have hsum : (l.journal.transactions.map fun tx => totalDebits tx.fields).sum
      = (l.journal.transactions.map fun tx => totalCredits tx.fields).sum := by
    congr 1
    exact map_congr_left fun tx _ => tx.balanced
  have hnone : l.journal.balances.entries.find? (fun e =>
      (Journal.computedBalances l.journal.transactions).getD e.1 0 != e.2) = none := by
    rw [find?_eq_none]
    intro e he
    have hget : l.journal.balances.get? e.1 = some e.2 :=
      Dict.find_eq_some_of_mem l.journal.balances.nodupKeys he
    rw [← h.balances_eq, Dict.getD, hget]
    simp
  simp only [reconcile]
  rw [if_neg (not_not.mpr hsum), hnone]
  exact ⟨_, rfl⟩

/-- The time, and nothing else, read from outside. -/
def Env.atTime (time : ℚ) : Env := ⟨time, "", ""⟩

/-- The owner and the reservation of the sample runs. -/
def alice : OwnerId := ⟨"alice", by decide, by decide, by decide⟩

def sampleReservation : ReservationId := ⟨"r1", by decide, by decide, by decide⟩

/-- The storage of a new ledger, in memory or in a file that can be written. -/
def newStorage (fileBacked : Bool) : Option Storage := if fileBacked then some ⟨[], false⟩ else none

theorem healthy_fresh (cls : LedgerClass) (networkFeeBps : ℤ) (wallet : String) (fileBacked : Bool) :
    (Ledger.fresh cls networkFeeBps wallet (newStorage fileBacked)).Healthy := by
  intro file hfile
  have hstorage : newStorage fileBacked = some file := hfile
  cases fileBacked with
  | false => cases hstorage
  | true =>
    cases hstorage
    rfl

/-- A ledger and the time it is. -/
structure Clocked where
  ledger : Ledger
  now : ℚ

namespace Clocked

variable {R : Type} [LayerRatio R]

/-- What an operation that begins now reads from outside: its clock is never behind. -/
def at_ (s : Clocked) (env : Env) : Env := { env with time := max s.now env.time }

/-- Perform one operation; the time it was done at is the time it is then. -/
def next (s : Clocked) (step : Env × Op R) : Clocked :=
  ⟨step.2.run s.ledger (s.at_ step.1), (s.at_ step.1).time⟩

/-- A ledger that was just opened, and the time. -/
def start (cls : LedgerClass) (networkFeeBps : ℤ) (wallet : String) (storage : Option Storage)
    (now : ℚ) : Clocked := ⟨Ledger.fresh cls networkFeeBps wallet storage, now⟩

theorem now_le_at (s : Clocked) (env : Env) : s.now ≤ (s.at_ env).time := le_max_left _ _

end Clocked

end ComputeMesh.Billing
