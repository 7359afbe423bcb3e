import ComputeMesh.Billing.Ledger

/-!
# Settlement records and Stripe transfers

The two places outside the ledger that a payout writes to:

* `SettlementStore` — the table `settlement_records` of `services/billing/accounting.py`, with
  `upsert_settlement`, `get_settlement` and `list_settlements`;
* `StripeTransfers` — the transfers Stripe has executed, by idempotency key.  Stripe is not part of the
  repository; what is used of it is that a key is executed at most once, whatever the caller is told.

A settlement id is never empty, so the check `upsert_settlement` makes for that is in the type.  The
amount in dollars, a floating point number next to the micro-units, is left out.
-/

namespace ComputeMesh.Billing

open ComputeMesh.Text List

/-- An id that `upsert_settlement` accepts. -/
structure SettlementId where
  val : String
  nonempty : val ≠ ""

theorem SettlementId.ext_val {i j : SettlementId} (h : i.val = j.val) : i = j := by
  cases i
  cases j
  simpa using h

instance : DecidableEq SettlementId := fun i j =>
  decidable_of_iff (i.val = j.val) ⟨SettlementId.ext_val, congrArg SettlementId.val⟩

inductive AccountKind
  | provider
  | owner
  deriving DecidableEq

inductive SettlementStatus
  | reserving
  | pending
  | pendingRetry
  | transferred
  | completed
  | cancelled
  deriving DecidableEq

def SettlementStatus.text : SettlementStatus → String
  | reserving => "reserving"
  | pending => "pending"
  | pendingRetry => "pending_retry"
  | transferred => "transferred"
  | completed => "completed"
  | cancelled => "cancelled"

structure SettlementRecord where
  settlementId : SettlementId
  accountKind : AccountKind
  accountId : String
  amountMicroUnits : ℤ
  currency : String := "usd"
  ledgerTxId : String := ""
  stripeTransferId : String := ""
  stripeConnectedAccountId : String := ""
  destination : String := ""
  status : SettlementStatus := .pending
  error : String := ""
  createdAt : String := ""
  updatedAt : String := ""
  deriving DecidableEq

/-- The table, by its primary key and in the order of its rows. -/
abbrev SettlementStore := Dict SettlementId SettlementRecord

namespace SettlementStore

/-- The row `INSERT … ON CONFLICT DO UPDATE` leaves: one that is there keeps its subject, its amount and
when it was created. -/
def upsertedRow (store : SettlementStore) (record : SettlementRecord) : SettlementRecord :=
  let new := { record with currency := lower record.currency }
  match Dict.get? store record.settlementId with
  | none => new
  | some row =>
    { new with
      accountKind := row.accountKind
      accountId := row.accountId
      amountMicroUnits := row.amountMicroUnits
      createdAt := row.createdAt }

def upsertSettlement (store : SettlementStore) (record : SettlementRecord) : SettlementStore :=
  Dict.set store record.settlementId (store.upsertedRow record)

def getSettlement (store : SettlementStore) (settlementId : SettlementId) : Option SettlementRecord :=
  Dict.get? store settlementId

/-- `list_settlements` with a status: the newest rows first, and never more than 500. -/
def listSettlements (store : SettlementStore) (status : SettlementStatus) (limit : ℕ) :
    List SettlementRecord :=
  let rows := (Dict.values store).filter fun row => row.status = status
  (rows.insertionSort fun a b => b.createdAt ≤ a.createdAt).take (max 1 (min limit 500))

variable {store : SettlementStore} {row : SettlementRecord}

theorem mem_of_mem_listSettlements {status : SettlementStatus} {limit : ℕ}
    (h : row ∈ store.listSettlements status limit) :
    row ∈ Dict.values store ∧ row.status = status := by
  have hsorted := mem_of_mem_take h
  rw [mem_insertionSort] at hsorted
  simpa using mem_filter.mp hsorted

/-- **A row is not listed** once the listing is full of newer rows with the status. -/
theorem not_mem_listSettlements {status : SettlementStatus} {limit : ℕ}
    {newer : List SettlementRecord} (hnodup : newer.Nodup)
    (hnewer : ∀ r ∈ newer, r ∈ Dict.values store ∧ r.status = status ∧ row.createdAt < r.createdAt)
    (hfull : max 1 (min limit 500) ≤ newer.length) : row ∉ store.listSettlements status limit := by
  intro hmem
  let le : SettlementRecord → SettlementRecord → Prop := fun a b => b.createdAt ≤ a.createdAt
  have : Std.Total le := ⟨fun a b => le_total b.createdAt a.createdAt⟩
  have : IsTrans SettlementRecord le := ⟨fun _ _ _ hab hbc => le_trans hbc hab⟩
  obtain ⟨rows, hrows⟩ : ∃ rows,
      ((Dict.values store).filter fun r => r.status = status).insertionSort le = rows := ⟨_, rfl⟩
  have hsorted : rows.Pairwise le := by
    rw [← hrows]
    exact pairwise_insertionSort le _
  have hsub : ∀ r ∈ newer, r ∈ rows := by
    intro r hr
    rw [← hrows, mem_insertionSort]
    simpa using ⟨(hnewer r hr).1, (hnewer r hr).2.1⟩
  change row ∈ take _ (insertionSort le _) at hmem
  rw [hrows] at hmem
  obtain ⟨before, after, hsplit⟩ := append_of_mem hmem
  have hlen : before.length < max 1 (min limit 500) := by
    have h := congrArg length hsplit
    rw [length_take, length_append, length_cons] at h
    omega
  rw [← take_append_drop (max 1 (min limit 500)) rows, hsplit, append_assoc] at hsorted hsub
  -- what is newer stands before the row
  have hbefore : newer ⊆ before := by
    intro r hr
    have hlt := (hnewer r hr).2.2
    rcases mem_append.mp (hsub r hr) with h | h
    · exact h
    · rcases mem_cons.mp h with rfl | h
      · exact absurd hlt (lt_irrefl _)
      · have hle := (pairwise_cons.mp (pairwise_append.mp hsorted).2.1).1 r h
        exact absurd hlt (not_lt.mpr hle)
  have := hnodup.length_le_of_subset hbefore
  omega

/-- The fields of a row that no update changes. -/
def SameSubject (row old : SettlementRecord) : Prop :=
  row.accountKind = old.accountKind ∧ row.accountId = old.accountId ∧
    row.amountMicroUnits = old.amountMicroUnits

@[simp] theorem upsertedRow_settlementId (store : SettlementStore) (record : SettlementRecord) :
    (store.upsertedRow record).settlementId = record.settlementId := by
  simp only [upsertedRow]
  split <;> rfl

@[simp] theorem upsertedRow_status (store : SettlementStore) (record : SettlementRecord) :
    (store.upsertedRow record).status = record.status := by
  simp only [upsertedRow]
  split <;> rfl

theorem upsertedRow_of_none {record : SettlementRecord} (h : Dict.get? store record.settlementId = none) :
    store.upsertedRow record = { record with currency := lower record.currency } := by
  simp only [upsertedRow, h]

theorem upsertedRow_of_some {record : SettlementRecord} (h : Dict.get? store record.settlementId = some row) :
    SameSubject (store.upsertedRow record) row := by
  simp only [upsertedRow, h]
  exact ⟨rfl, rfl, rfl⟩

theorem upsertSettlement_of_same {record : SettlementRecord}
    (hrow : Dict.get? store record.settlementId = some row) (hsame : SameSubject record row)
    (hcreated : record.createdAt = row.createdAt) (hcurrency : lower record.currency = record.currency) :
    store.upsertSettlement record = Dict.set store record.settlementId record := by
  rw [upsertSettlement, upsertedRow, hrow]
  simp only [hcurrency, ← hsame.1, ← hsame.2.1, ← hsame.2.2, ← hcreated]

theorem get?_upsertSettlement (store : SettlementStore) (record : SettlementRecord)
    (id : SettlementId) : Dict.get? (store.upsertSettlement record) id
      = if id = record.settlementId then some (store.upsertedRow record) else Dict.get? store id :=
  Dict.get?_set _ _ _ _

/-- The status of a settlement's row. -/
def statusOf (store : SettlementStore) (id : SettlementId) : Option SettlementStatus :=
  (Dict.get? store id).map SettlementRecord.status

theorem statusOf_upsert (store : SettlementStore) (record : SettlementRecord)
    (id : SettlementId) : (store.upsertSettlement record).statusOf id
      = if id = record.settlementId then some record.status else store.statusOf id := by
  rw [statusOf, get?_upsertSettlement]
  split
  · simp
  · rfl

end SettlementStore

/-! ### Stripe -/

/-- `CENT_MICRO_UNITS`, and `MICRO_UNIT_SCALE // 100`. -/
def centMicroUnits : ℤ := 10000

structure StripeTransfer where
  amountCents : ℤ
  currency : String
  destination : String
  transferGroup : String
  deriving DecidableEq

/-- The transfers executed so far, by idempotency key. -/
abbrev StripeTransfers := Dict String StripeTransfer

/-- What becomes of a request: it succeeds and returns an id, it fails although the transfer is
executed, or it fails and nothing is executed. -/
inductive TransferOutcome
  | success (transferId : String)
  | failedExecuted (message : String)
  | failed (message : String)

namespace StripeTransfers

/-- A key that has been executed is not executed again. -/
def execute (t : StripeTransfers) (key : String) (transfer : StripeTransfer) : StripeTransfers :=
  if Dict.contains t key then t else Dict.set t key transfer

/-- `stripe.Transfer.create`, with the text of the exception it raises. -/
def create (t : StripeTransfers) (key : String) (transfer : StripeTransfer) :
    TransferOutcome → Except String String × StripeTransfers
  | .success transferId => (.ok transferId, t.execute key transfer)
  | .failedExecuted message => (.error message, t.execute key transfer)
  | .failed message => (.error message, t)

end StripeTransfers

end ComputeMesh.Billing
