import ComputeMesh.Billing.OwnerSettlementSpec

/-!
# Withdrawals that go through

The specifications of `OwnerSettlementSpec` say what a step can do at most.  Here is what it does when
nothing stands in its way: the ledger's file can be written, no owner holds are open, and the balance covers
the amount.

* `creditOwnerEarned_recorded`, `ownerWithdrawable_of_noHolds`, `reserveOwnerWithdrawal_recorded`,
  `cancelOwnerWithdrawal_recorded` — the ledger's operations;
* `run_inserts`, `insert_reserves`, `failed_withdrawal` — **a withdrawal whose transfer fails** ends with a
  row to be retried and its amount reserved.
-/

namespace ComputeMesh.Billing

open ComputeMesh.Text OwnerSettlements

variable {id : SettlementId}

namespace Ledger

/-! ### The ledger -/

theorem commitNew_transfer {l : Ledger} (hhealthy : l.Healthy) (t event c d a ta b tb : String)
    {amount : ℤ} (hpos : 0 < amount) :
    ∃ tx, l.commitNew (newTransaction t event c d
        [{ accountId := a, accountType := ta, debitMicroUnits := amount },
         { accountId := b, accountType := tb, creditMicroUnits := amount }])
        = (.ok tx, l.recorded tx) ∧ tx.eventId = event ∧
      tx.fields = [{ accountId := a, accountType := ta, debitMicroUnits := amount },
         { accountId := b, accountType := tb, creditMicroUnits := amount }] := by
  obtain ⟨tx, htx⟩ : ∃ tx, newTransaction t event c d
      [{ accountId := a, accountType := ta, debitMicroUnits := amount },
       { accountId := b, accountType := tb, creditMicroUnits := amount }] = .ok tx := by
    have hnonneg : ¬amount < 0 := by omega
    have hnot : ¬amount ≤ 0 := by omega
    simp [newTransaction, newPostings, Posting.new, Transaction.new, totalDebits, totalCredits, fieldsOf,
      hpos, hnonneg, hnot]
  obtain ⟨-, hevent, -, -, hfields⟩ := newTransaction_ok htx
  refine ⟨tx, ?_, hevent, hfields⟩
  rw [htx]
  exact commit_of_healthy hhealthy tx

theorem creditOwnerEarned_recorded {l : Ledger} (hhealthy : l.Healthy) (env : Env) (o : OwnerId)
    {amount : ℤ} (hpos : 0 < amount) {ref : String} (href : strip ref ≠ "") (description : String)
    (hnew : "owner-earning:" ++ strip ref ∉ l.journal.processedEvents) :
    ∃ tx, l.creditOwnerEarnedCredits env o.val amount ref description = (.ok tx, l.recorded tx) ∧
      tx.eventId = "owner-earning:" ++ strip ref ∧
      tx.fields = bucketCreditPostings "expense:provider_earnings" providerEarningsExpense o .earned
        amount := by
  simp only [creditOwnerEarnedCredits, cleanOwner_val, if_neg (not_le.mpr hpos), if_neg href,
    creditBucket, ensureNewEvent_ok_iff.mpr hnew]
  exact commitNew_transfer hhealthy _ _ _ _ _ _ _ _ hpos

theorem ownerWithdrawable_of_noHolds {l : Ledger} (hholds : l.ownerHolds = Dict.empty) (env : Env) (o : OwnerId) :
    l.ownerWithdrawableMicroUnits env o.val = (.ok (max 0 (l.bucketBalance o .earned)), l) := by
  have hreserved : l.reservedByBucket env.time o none .earned = 0 := by
    rw [reservedByBucket, hholds]
    rfl
  have hswept : l.expireOwnerHolds env.time o none = l := by
    rw [expireOwnerHolds, hholds]
    obtain ⟨⟩ := l
    cases hholds
    rfl
  simp only [ownerWithdrawableMicroUnits, getOwnerBalances, cleanOwner_val, hreserved, hswept, sub_zero]

theorem reserveOwnerWithdrawal_recorded {l : Ledger} (hhealthy : l.Healthy)
    (hholds : l.ownerHolds = Dict.empty) (env : Env) (o : OwnerId) {amount : ℤ} (hpos : 0 < amount)
    (hid : strip id.val = id.val)
    (hnew : withdrawalEvent .reserve id ∉ l.journal.processedEvents)
    (hcover : amount ≤ l.bucketBalance o .earned) :
    ∃ tx, l.reserveOwnerWithdrawal env o.val amount id.val = (.ok tx, l.recorded tx) ∧
      tx.eventId = withdrawalEvent .reserve id ∧ tx.fields = withdrawalReservePostings o amount := by
  have hevent : l.ensureNewEvent ("owner-withdrawal-reserve:" ++ id.val) = .ok () :=
    ensureNewEvent_ok_iff.mpr hnew
  have hgiven : ¬(o.val = "" ∨ id.val = "") := not_or.mpr ⟨o.nonempty, id.nonempty⟩
  have hbalance : ¬max 0 (l.bucketBalance o .earned) < amount := by omega
  simp only [reserveOwnerWithdrawal, o.stripped, hid, if_neg hgiven, if_neg (not_le.mpr hpos), hevent,
    ownerWithdrawable_of_noHolds hholds, if_neg hbalance, cleanOwner_val]
  exact commitNew_transfer hhealthy _ _ _ _ _ _ _ _ hpos

theorem cancelOwnerWithdrawal_recorded {l : Ledger} (hhealthy : l.Healthy) (env : Env) (o : OwnerId)
    {amount : ℤ} (hpos : 0 < amount) (hid : strip id.val = id.val)
    (hnew : withdrawalEvent .cancel id ∉ l.journal.processedEvents) :
    ∃ tx, l.cancelOwnerWithdrawal env o.val amount id.val = (.ok tx, l.recorded tx) ∧
      tx.eventId = withdrawalEvent .cancel id ∧ tx.fields = withdrawalCancelPostings o amount := by
  have hevent : l.ensureNewEvent ("owner-withdrawal-cancel:" ++ id.val) = .ok () :=
    ensureNewEvent_ok_iff.mpr hnew
  simp only [cancelOwnerWithdrawal, o.stripped, hid, if_neg (not_le.mpr hpos), hevent,
    ownerWithdrawalPendingMicroUnits, pendingAccount, if_neg o.nonempty, cleanOwner_val]
  exact commitNew_transfer hhealthy _ _ _ _ _ _ _ _ hpos

end Ledger

/-! ### The machine -/

namespace OwnerSettlements

variable {s : OwnerSettlements} {answer : Option (Except Exn SettlementRecord)} {o : OwnerId}
  {input : RunInput} {profile : OwnerPayoutProfile} {amount : ℤ}

/-- The row a withdrawal of the whole balance begins with. -/
def newRow (o : OwnerId) (input : RunInput) (profile : OwnerPayoutProfile) (amount : ℤ) : SettlementRecord where
  settlementId := ownerSettlementId "" input.env input.token
  accountKind := .owner
  accountId := o.val
  amountMicroUnits := amount
  currency := "usd"
  stripeConnectedAccountId := profile.stripeConnectedAccountId
  destination := profile.stripeConnectedAccountId
  status := .reserving
  createdAt := input.env.isoNow
  updatedAt := input.env.isoNow

/-- An owner for whom no settlement is found begins a new one for the whole balance. -/
theorem run_inserts (hidle : s.stage = .idle answer) (hholds : s.ledger.ownerHolds = Dict.empty)
    (hrefreshed : input.refreshed = .ok profile) (henabled : profile.payoutsEnabled = true)
    (hnone : inflightForOwner s.accountStore o.val = none)
    (hbalance : s.ledger.bucketBalance o .earned = amount) (hcents : quantizeAmount amount = amount)
    (hmin : minimumPayoutMicroUnits ≤ amount) :
    s.next (.run input o.val none none) = { s with stage := .insert (newRow o input profile amount) } := by
  have hmax : max 0 amount = amount := by
    have : (0 : ℤ) < minimumPayoutMicroUnits := by decide
    omega
  simp only [next, hidle, runOwnerSettlement, o.stripped, if_neg o.nonempty, hnone,
    newSettlement, hrefreshed, henabled, Ledger.ownerWithdrawable_of_noHolds hholds,
    hbalance, hmax, Option.getD_none, hcents, if_neg (not_lt.mpr hmin), ne_eq, not_true_eq_false,
    false_and, if_false, Bool.true_eq_false]
  rfl

section Writes

variable {l' : Ledger} (l : Ledger) (store : SettlementStore) (transfers : StripeTransfers) (r : Resuming)
  (p : Option OwnerPayoutProfile) (env : Env) (outcome : TransferOutcome)

theorem insert_reserves (o : OwnerId) (input : RunInput) (profile : OwnerPayoutProfile) (amount : ℤ)
    (hnew : Dict.get? store (newRow o input profile amount).settlementId = none) :
    next ⟨l, store, transfers, .insert (newRow o input profile amount)⟩ (.advance env (some profile) outcome)
      = ⟨l, Dict.set store (newRow o input profile amount).settlementId (newRow o input profile amount),
          transfers, .reserve ⟨o.val, amount, newRow o input profile amount⟩⟩ := by
  have hstore : store.upsertSettlement (newRow o input profile amount)
      = Dict.set store (newRow o input profile amount).settlementId (newRow o input profile amount) := by
    have hcurrency : lower (newRow o input profile amount).currency
        = (newRow o input profile amount).currency := (by decide : lower "usd" = "usd")
    rw [SettlementStore.upsertSettlement, SettlementStore.upsertedRow_of_none hnew, hcurrency]
  have hresume : resume (Dict.set store (newRow o input profile amount).settlementId
      (newRow o input profile amount)) (some profile) (newRow o input profile amount)
      = .reserve ⟨o.val, amount, newRow o input profile amount⟩ := by
    simp [resume, SettlementStore.getSettlement, newRow, SettlementStatus.inFlight, resumeFrom]
  simp only [OwnerSettlements.next, OwnerSettlements.advance, OwnerSettlements.store, hstore, hresume]

theorem reserve_stores {tx : Transaction} (hreserve : l.reserveOwnerWithdrawal env r.owner r.amount
      r.current.settlementId.val = (.ok tx, l')) :
    next ⟨l, store, transfers, .reserve r⟩ (.advance env p outcome)
      = ⟨l', store, transfers, .storePending r tx.txId⟩ := by
  simp only [next, advance, advanceReserve, hreserve]

/-- A row that can be written over `old` as it is: an update keeps what the two have in common. -/
structure Updates (row old : SettlementRecord) : Prop where
  id : row.settlementId = old.settlementId
  subject : SettlementStore.SameSubject row old
  created : row.createdAt = old.createdAt
  usd : row.currency = "usd"

variable {store} in
theorem upsert_updates {row old : SettlementRecord} (h : Updates row old) :
    SettlementStore.upsertSettlement (Dict.set store old.settlementId old) row
      = Dict.set store row.settlementId row := by
  have hget : Dict.get? (Dict.set store old.settlementId old) row.settlementId = some old := by
    rw [h.id, Dict.get?_set_self]
  have hcurrency : lower row.currency = row.currency := by
    rw [h.usd]
    decide
  rw [SettlementStore.upsertSettlement_of_same hget h.subject h.created hcurrency, h.id, Dict.set_set]

theorem pending_transfers (reserveTxId : String) (husd : r.current.currency = "usd") : ∃ row, Updates row r.current ∧
      next ⟨l, Dict.set store r.current.settlementId r.current, transfers, .storePending r reserveTxId⟩
          (.advance env p outcome)
        = ⟨l, Dict.set store row.settlementId row, transfers, .transfer { r with current := row }⟩ := by
  have hupdates : Updates { r.current with
      ledgerTxId := reserveTxId, status := .pending, updatedAt := env.isoNow } r.current :=
    ⟨rfl, ⟨rfl, rfl, rfl⟩, rfl, husd⟩
  refine ⟨_, hupdates, ?_⟩
  simp only [OwnerSettlements.next, OwnerSettlements.advance, OwnerSettlements.store, upsert_updates hupdates]
  rfl

theorem transfer_fails (message : String) :
    ∃ exn, next ⟨l, store, transfers, .transfer r⟩ (.advance env p (.failed message))
      = ⟨l, store, transfers, .storeRetry r exn⟩ := by
  simp only [next, advance, advanceTransfer, ownerTransfer,
    StripeTransfers.create]
  by_cases hamount : r.amount ≤ 0 ∨ r.amount % centMicroUnits ≠ 0
  · rw [if_pos hamount]
    exact ⟨_, rfl⟩
  · rw [if_neg hamount]
    exact ⟨_, rfl⟩

theorem retry_returns (exn : Exn) (husd : r.current.currency = "usd") :
    ∃ row, Updates row r.current ∧ row.status = .pendingRetry ∧
      next ⟨l, Dict.set store r.current.settlementId r.current, transfers, .storeRetry r exn⟩ (.advance env p outcome)
        = ⟨l, Dict.set store row.settlementId row, transfers, .return_ row⟩ := by
  have hupdates : Updates { r.current with
      status := .pendingRetry, error := firstChars 1000 exn.text, updatedAt := env.isoNow } r.current :=
    ⟨rfl, ⟨rfl, rfl, rfl⟩, rfl, husd⟩
  refine ⟨_, hupdates, rfl, ?_⟩
  simp only [OwnerSettlements.next, OwnerSettlements.advance, OwnerSettlements.store, upsert_updates hupdates]

end Writes

/-- A call for a withdrawal, and the writes up to the record of a transfer that failed. -/
def failingSteps (input : RunInput) (owner : String) (profile : OwnerPayoutProfile) (message : String) :
    List OwnerStep :=
  .run input owner none none :: List.replicate 5 (.advance input.env (some profile) (.failed message))

/-- What a withdrawal whose transfer failed leaves in the table. -/
structure IsRetryRow (row : SettlementRecord) (o : OwnerId) (input : RunInput) (amount : ℤ) : Prop where
  id : row.settlementId = ownerSettlementId "" input.env input.token
  kind : row.accountKind = .owner
  owner : row.accountId = o.val
  amount : row.amountMicroUnits = amount
  created : row.createdAt = input.env.isoNow
  status : row.status = .pendingRetry

/-- **A withdrawal whose transfer fails**: the amount is reserved in the ledger, and there is a row to be
retried. -/
theorem failed_withdrawal (hs : s.Sound) (hidle : s.stage = .idle answer)
    (hholds : s.ledger.ownerHolds = Dict.empty) (hrefreshed : input.refreshed = .ok profile)
    (henabled : profile.payoutsEnabled = true)
    (hnone : inflightForOwner s.accountStore o.val = none)
    (hnew : Dict.get? s.accountStore (ownerSettlementId "" input.env input.token) = none)
    (hunseen : withdrawalEvent .reserve (ownerSettlementId "" input.env input.token)
      ∉ s.ledger.journal.processedEvents)
    (hbalance : s.ledger.bucketBalance o .earned = amount) (hcents : quantizeAmount amount = amount)
    (hmin : minimumPayoutMicroUnits ≤ amount) (message : String) :
    ∃ (tx : Transaction) (row : SettlementRecord),
      tx.eventId = withdrawalEvent .reserve row.settlementId ∧
      tx.fields = Ledger.withdrawalReservePostings o amount ∧ IsRetryRow row o input amount ∧
      Run.exec next s (failingSteps input o.val profile message)
        = ⟨s.ledger.recorded tx, Dict.set s.accountStore row.settlementId row, s.transfers,
            .return_ row⟩ := by
  have hpos : 0 < amount := lt_of_lt_of_le (by decide) hmin
  obtain ⟨tx, hreserve, hevent, hfields⟩ := Ledger.reserveOwnerWithdrawal_recorded
    (Ledger.healthy_of_isWritten hs.written) hholds input.env o hpos
    (strip_ownerSettlementId "" input.env input.token) hunseen hbalance.ge
  simp only [failingSteps, List.replicate, Run.exec, List.foldl_cons, List.foldl_nil]
  rw [run_inserts hidle hholds hrefreshed henabled hnone hbalance hcents hmin,
    insert_reserves s.ledger s.accountStore s.transfers input.env (.failed message) o input profile amount
      hnew,
    reserve_stores s.ledger _ s.transfers ⟨o.val, amount, newRow o input profile amount⟩ (some profile)
      input.env (.failed message) hreserve]
  obtain ⟨pending, hpending, hstep⟩ := pending_transfers (s.ledger.recorded tx) s.accountStore s.transfers
    ⟨o.val, amount, newRow o input profile amount⟩ (some profile) input.env (.failed message) tx.txId rfl
  rw [hstep]
  obtain ⟨exn, hstep⟩ := transfer_fails (s.ledger.recorded tx)
    (Dict.set s.accountStore pending.settlementId pending) s.transfers ⟨o.val, amount, pending⟩
    (some profile) input.env message
  rw [hstep]
  obtain ⟨row, hrow, hstatus, hstep⟩ := retry_returns (s.ledger.recorded tx) s.accountStore s.transfers
    ⟨o.val, amount, pending⟩ (some profile) input.env (.failed message) exn hpending.usd
  rw [hstep]
  refine ⟨tx, row, ?_, hfields, ⟨?_, ?_, ?_, ?_, ?_, hstatus⟩, rfl⟩
  · rw [hevent, hrow.id, hpending.id]
    rfl
  · rw [hrow.id, hpending.id]
    rfl
  · rw [hrow.subject.1, hpending.subject.1]
    rfl
  · rw [hrow.subject.2.1, hpending.subject.2.1]
    rfl
  · rw [hrow.subject.2.2, hpending.subject.2.2]
    rfl
  · rw [hrow.created, hpending.created]
    rfl

theorem cancel_records (o : OwnerId) (input : RunInput) (profile : OwnerPayoutProfile) {l : Ledger}
    {store : SettlementStore} (transfers : StripeTransfers)
    (answer : Option (Except Exn SettlementRecord))
    (hid : id = ownerSettlementId "" input.env input.token) {row : SettlementRecord}
    (hnew : row = newRow o input profile amount)
    (hhealthy : l.Healthy)
    (hrow : Dict.get? store id = some row)
    (hpos : 0 < amount) (hcover : amount ≤ l.rawBalance (pendingAccountOf o.val))
    (hunseen : withdrawalEvent .cancel id ∉ l.journal.processedEvents)
    (env : Env) (p : Option OwnerPayoutProfile) (outcome : TransferOutcome) :
    ∃ tx, tx.eventId = withdrawalEvent .cancel id ∧ tx.fields = Ledger.withdrawalCancelPostings o amount ∧
      Run.exec next ⟨l, store, transfers, .idle answer⟩ [.cancel id, .advance env p outcome]
        = ⟨l.recorded tx, store, transfers, .storeCancelled row⟩ := by
  subst hid hnew
  obtain ⟨tx, hcancel, hevent, hfields⟩ := Ledger.cancelOwnerWithdrawal_recorded hhealthy env o hpos
    (strip_ownerSettlementId "" input.env input.token) hunseen
  have hpending : l.ownerWithdrawalPendingMicroUnits o.val = .ok (l.rawBalance (pendingAccountOf o.val)) := by
    simp only [Ledger.ownerWithdrawalPendingMicroUnits, pendingAccount, o.stripped, if_neg o.nonempty]
  have hstage : cancelUntransferredSettlement ⟨l, store, transfers, .idle answer⟩
      (ownerSettlementId "" input.env input.token) = .cancelLedger (newRow o input profile amount) := by
    simp only [cancelUntransferredSettlement, SettlementStore.getSettlement, hrow]
    simp [newRow, hpending, hcover]
  refine ⟨tx, hevent, hfields, ?_⟩
  simp only [Run.exec, List.foldl_cons, List.foldl_nil, next, hstage, advance, advanceCancel]
  rw [show (newRow o input profile amount).settlementId.val
    = (ownerSettlementId "" input.env input.token).val from rfl,
    show (newRow o input profile amount).accountId = o.val from rfl,
    show (newRow o input profile amount).amountMicroUnits = amount from rfl, hcancel]

end OwnerSettlements

end ComputeMesh.Billing
