import ComputeMesh.Billing.OwnerCredits
import ComputeMesh.Billing.SettlementStore

/-!
# Owner settlements

`RobustOwnerSettlementExecutor` of `services/billing/owner_settlement_runtime.py` over the payout-capable
owner ledger: `run_owner_settlement`, `_resume` and `cancel_untransferred_settlement`, with
`_inflight_for_owner` and the Stripe adapter of `services/billing/owner_settlement.py`.

The machine makes one durable write a step: a settlement record, a ledger transaction or a transfer at
Stripe.  What the code reads between two writes belongs to the second of them, and a crash may fall before
any step.  `Stage` says which write comes next; `resumeFrom` is the chain of tests on the status that
`_resume` goes through.

What the payout profile store and the Stripe account status say is read from outside, and so is the random
token of a settlement id without a reference.
-/

namespace ComputeMesh.Billing

open ComputeMesh.Text ComputeMesh.Sha256

/-! ### Settlement ids -/

/-- `secrets.token_hex`: hexadecimal digits. -/
structure HexToken where
  val : String
  nonempty : val.toList ≠ []
  hex : ∀ c ∈ val.toList, c ∈ "0123456789abcdef".toList

/-- `_settlement_id`: from the reference, or from the time and a random token. -/
def ownerSettlementId (reference : String) (env : Env) (token : HexToken) : SettlementId :=
  if strip reference ≠ "" then
    ⟨"settle_owner_" ++ firstChars 20 (sha256Hex (strip reference)), by simp⟩
  else ⟨"settle_owner_" ++ toString (Rat.floor env.time) ++ "_" ++ token.val, by simp⟩

theorem isSpace_of_hex : ∀ c ∈ "0123456789abcdef".toList, isSpace c = false := by simp [isSpace]

/-- A settlement id has no space at its ends, so that the ledger's `strip` does not change it. -/
theorem strip_ownerSettlementId (reference : String) (env : Env) (token : HexToken) :
    strip (ownerSettlementId reference env token).val = (ownerSettlementId reference env token).val := by
  unfold ownerSettlementId
  split
  · have hlen : (firstChars 20 (sha256Hex (strip reference))).toList.length = 20 :=
      length_firstChars (by rw [length_sha256Hex]; omega)
    refine strip_append (by decide : "settle_owner_".toList.head? = some 's') (by decide) ?_ ?_
    · intro hnil
      rw [hnil] at hlen
      cases hlen
    · intro c hc
      rw [firstChars, String.toList_ofList] at hc
      exact isSpace_of_hex c (mem_sha256Hex (List.mem_of_mem_take hc))
  · refine strip_append (c := 's') ?_ (by decide) token.nonempty fun c hc =>
      isSpace_of_hex c (token.hex c hc)
    rw [String.append_assoc, head_append (by decide)]
    decide

/-! ### Profiles, Stripe and the settlements in flight -/

/-- `OwnerPayoutProfile`, as far as settlements read it. -/
structure OwnerPayoutProfile where
  stripeConnectedAccountId : String
  payoutsEnabled : Bool

/-- The idempotency key of an owner's transfer. -/
def ownerTransferKey (settlementId : SettlementId) : String := "computemesh-owner:" ++ settlementId.val

/-- `OwnerStripeConnectAdapter.transfer`. -/
def ownerTransfer (t : StripeTransfers) (settlementId : SettlementId) (amountMicroUnits : ℤ)
    (stripeConnectedAccountId currency : String) (outcome : TransferOutcome) :
    Except Exn String × StripeTransfers :=
  if amountMicroUnits ≤ 0 ∨ amountMicroUnits % centMicroUnits ≠ 0 then
    (.error (.stripe "owner transfer amount must be positive and aligned to Stripe cent precision"), t)
  else
    match t.create (ownerTransferKey settlementId)
        ⟨amountMicroUnits / centMicroUnits, lower currency, stripeConnectedAccountId, settlementId.val⟩
        outcome with
    | (.error message, t') => (.error (.stripe s!"Stripe owner transfer failed: {message}"), t')
    | (.ok transferId, t') =>
      if transferId = "" then (.error (.stripe "Stripe owner transfer did not return an id"), t')
      else (.ok transferId, t')

def SettlementStatus.inFlight : SettlementStatus → Bool
  | reserving | pending | pendingRetry | transferred => true
  | completed | cancelled => false

def inflightForOwner (store : SettlementStore) (owner : String) : Option SettlementRecord :=
  [SettlementStatus.transferred, .pendingRetry, .pending, .reserving].findSome? fun status =>
    (store.listSettlements status 500).find? fun record =>
      record.accountKind = .owner ∧ record.accountId = owner

def quantizeAmount (amountMicroUnits : ℤ) : ℤ :=
  max 0 (amountMicroUnits / centMicroUnits * centMicroUnits)

/-! ### Stages -/

/-- What `_resume` works with: the owner and the amount of the record it was given, and the record as it
stands. -/
structure Resuming where
  owner : String
  amount : ℤ
  current : SettlementRecord

/-- The next durable write of the call under way, or the answer of the last one. -/
inductive Stage
  | idle (answer : Option (Except Exn SettlementRecord))
  | insert (record : SettlementRecord)
  | reserve (r : Resuming)
  | storePending (r : Resuming) (reserveTxId : String)
  | transfer (r : Resuming)
  | storeRetry (r : Resuming) (exn : Exn)
  | storeTransferred (r : Resuming) (transferId : String)
  | finalize (r : Resuming)
  | storeCompleted (r : Resuming) (finalTxId : String)
  | cancelLedger (record : SettlementRecord)
  | storeCancelled (record : SettlementRecord)

def Stage.raise (exn : Exn) : Stage := .idle (some (.error exn))

def Stage.return_ (record : SettlementRecord) : Stage := .idle (some (.ok record))

/-- The tests of `_resume` on the status, up to the one that is met. -/
def resumeFrom (r : Resuming) : Stage :=
  match r.current.status with
  | .reserving => .reserve r
  | .pending | .pendingRetry => .transfer r
  | .transferred => .finalize r
  | .completed | .cancelled => .return_ r.current

/-- `_resume` up to its first write. -/
def resume (store : SettlementStore) (profile : Option OwnerPayoutProfile) (record : SettlementRecord) :
    Stage :=
  if record.accountKind ≠ .owner then .raise (.accountingStore "cannot resume non-owner settlement")
  else if profile.map OwnerPayoutProfile.stripeConnectedAccountId ≠ some record.stripeConnectedAccountId then
    .raise (.accountingStore "owner payout profile does not match pending settlement")
  else
    let current := (store.getSettlement record.settlementId).getD record
    if current.status = .completed then .return_ current
    else if current.status.inFlight = false then
      .raise (.accountingStore (s!"owner settlement {current.settlementId.val} is not resumable from " ++
        quoted current.status.text))
    else resumeFrom ⟨record.accountId, record.amountMicroUnits, current⟩

def validateExistingReference (store : SettlementStore) (profile : Option OwnerPayoutProfile)
    (existing : SettlementRecord) (owner : String) (requested : Option ℤ) : Stage :=
  if existing.accountKind ≠ .owner ∨ existing.accountId ≠ owner then
    .raise (.accountingStore "settlement reference is already bound to another payout subject")
  else if requested ≠ none ∧ requested.map quantizeAmount ≠ some existing.amountMicroUnits then
    .raise (.accountingStore "settlement reference was already used with a different amount")
  else if existing.status = .completed then .return_ existing
  else if existing.status.inFlight = true then resume store profile existing
  else
    .raise (.accountingStore ("settlement reference cannot be reused from terminal status " ++
      quoted existing.status.text))

/-! ### The machine -/

/-- The executor's objects, the transfers at Stripe, and the call under way. -/
structure OwnerSettlements where
  ledger : Ledger
  accountStore : SettlementStore
  transfers : StripeTransfers
  stage : Stage

/-- What a call of `run_owner_settlement` reads from outside: `refreshed` is what
`refresh_owner_connect_status` returns or raises. -/
structure RunInput where
  env : Env
  token : HexToken
  profile : Option OwnerPayoutProfile
  refreshed : Except Exn OwnerPayoutProfile

namespace OwnerSettlements

/-- The new settlement of `run_owner_settlement`, if the owner has none in flight.  Reading what can be
withdrawn expires overdue holds, and that stays. -/
def newSettlement (s : OwnerSettlements) (input : RunInput) (owner : String) (explicit : Option ℤ)
    (settlementId : SettlementId) : OwnerSettlements :=
  match input.refreshed with
  | .error e => { s with stage := .raise e }
  | .ok profile =>
    if profile.payoutsEnabled = false then
      { s with stage := .raise (.accountingStore s!"owner {owner} Stripe payouts are not enabled") }
    else
      match s.ledger.ownerWithdrawableMicroUnits input.env owner with
      | (.error e, ledger) => { s with ledger := ledger, stage := .raise e }
      | (.ok withdrawable, ledger) =>
        let requested := explicit.getD withdrawable
        let amount := quantizeAmount requested
        if explicit ≠ none ∧ withdrawable < requested then
          { s with ledger := ledger, stage := .raise (.insufficientBalance
            (s!"owner {owner} withdrawable earned balance ({withdrawable}) " ++
              s!"is below requested withdrawal ({requested})")) }
        else if amount < minimumPayoutMicroUnits then
          { s with ledger := ledger, stage := .raise (.billing
            (s!"owner withdrawable amount {amount} below minimum payout threshold " ++
              s!"{minimumPayoutMicroUnits}")) }
        else
          { s with
            ledger := ledger
            stage := .insert
              { settlementId := settlementId
                accountKind := .owner
                accountId := owner
                amountMicroUnits := amount
                currency := "usd"
                stripeConnectedAccountId := profile.stripeConnectedAccountId
                destination := profile.stripeConnectedAccountId
                status := .reserving
                createdAt := input.env.isoNow
                updatedAt := input.env.isoNow } }

/-- `run_owner_settlement` up to its first write. -/
def runOwnerSettlement (s : OwnerSettlements) (input : RunInput) (ownerId : String)
    (amountMicroUnits : Option ℤ) (settlementReference : Option String) : OwnerSettlements :=
  let owner := strip ownerId
  let reference := strip (settlementReference.getD "")
  let settlementId := ownerSettlementId reference input.env input.token
  if owner = "" then { s with stage := .raise (.accountingStore "owner_id is required") }
  else if amountMicroUnits ≠ none ∧ amountMicroUnits.getD 0 ≤ 0 then
    { s with stage := .raise (.billing "withdrawal amount must be positive") }
  else
    match (if reference = "" then none else s.accountStore.getSettlement settlementId) with
    | some existing =>
      { s with stage :=
          validateExistingReference s.accountStore input.profile existing owner amountMicroUnits }
    | none =>
      match inflightForOwner s.accountStore owner with
      | some existing => { s with stage := resume s.accountStore input.profile existing }
      | none => s.newSettlement input owner amountMicroUnits settlementId

/-- `cancel_untransferred_settlement` up to its first write. -/
def cancelUntransferredSettlement (s : OwnerSettlements) (settlementId : SettlementId) : Stage :=
  match s.accountStore.getSettlement settlementId with
  | none => .raise (.accountingStore "owner settlement not found")
  | some record =>
    if record.accountKind ≠ .owner then .raise (.accountingStore "owner settlement not found")
    else if record.status = .pendingRetry then
      .raise (.accountingStore "cannot cancel pending_retry: Stripe transfer outcome may be ambiguous")
    else if record.stripeTransferId ≠ "" ∨ record.status = .transferred ∨ record.status = .completed then
      .raise (.accountingStore "cannot cancel a settlement after Stripe transfer")
    else if record.status = .cancelled then .return_ record
    else
      -- the status is `reserving` or `pending` here
      match s.ledger.ownerWithdrawalPendingMicroUnits record.accountId with
      | .error e => .raise e
      | .ok pending =>
        if record.amountMicroUnits ≤ pending then .cancelLedger record
        else if record.status = .pending then
          .raise (.billing "pending settlement has no matching withdrawal liability")
        else .storeCancelled record

/-- The record written, and the call at the stage after it. -/
def store (s : OwnerSettlements) (record : SettlementRecord) (stage : Stage) : OwnerSettlements :=
  { s with accountStore := s.accountStore.upsertSettlement record, stage := stage }

/-- The reservation in the ledger.  `DuplicateEventError` counts as done if the pending balance covers the
amount. -/
def advanceReserve (s : OwnerSettlements) (env : Env) (r : Resuming) : OwnerSettlements :=
  match s.ledger.reserveOwnerWithdrawal env r.owner r.amount r.current.settlementId.val with
  | (.ok tx, ledger) => { s with ledger := ledger, stage := .storePending r tx.txId }
  | (.error (.duplicateEvent _), ledger) =>
    { s with
      ledger := ledger
      stage :=
        match ledger.ownerWithdrawalPendingMicroUnits r.owner with
        | .error e => .raise e
        | .ok pending =>
          if pending < r.amount then
            .raise (.billing "withdrawal reservation event exists without matching pending liability")
          else
            .storePending r (txId "owner_withdraw_reserve"
              ("owner-withdrawal-reserve:" ++ r.current.settlementId.val)) }
  | (.error e, ledger) => { s with ledger := ledger, stage := .raise e }

/-- The transfer at Stripe.  Whatever the adapter raises, the reservation is kept for a retry. -/
def advanceTransfer (s : OwnerSettlements) (outcome : TransferOutcome) (r : Resuming) :
    OwnerSettlements :=
  match ownerTransfer s.transfers r.current.settlementId r.amount r.current.stripeConnectedAccountId
      r.current.currency outcome with
  | (.ok transferId, transfers) =>
    { s with transfers := transfers, stage := .storeTransferred r transferId }
  | (.error e, transfers) => { s with transfers := transfers, stage := .storeRetry r e }

/-- The finalization in the ledger.  `DuplicateEventError` counts as done if no pending balance is left
for it. -/
def advanceFinalize (s : OwnerSettlements) (env : Env) (r : Resuming) : OwnerSettlements :=
  match s.ledger.finalizeOwnerWithdrawal env r.owner r.amount r.current.settlementId.val with
  | (.ok tx, ledger) => { s with ledger := ledger, stage := .storeCompleted r tx.txId }
  | (.error (.duplicateEvent _), ledger) =>
    { s with
      ledger := ledger
      stage :=
        match ledger.ownerWithdrawalPendingMicroUnits r.owner with
        | .error e => .raise e
        | .ok pending =>
          if r.amount ≤ pending then
            .raise (.billing "finalization event exists but pending withdrawal liability remains")
          else
            .storeCompleted r (txId "owner_withdraw_final"
              ("owner-withdrawal-finalize:" ++ r.current.settlementId.val)) }
  | (.error e, ledger) => { s with ledger := ledger, stage := .raise e }

/-- The cancellation in the ledger; `DuplicateEventError` counts as done. -/
def advanceCancel (s : OwnerSettlements) (env : Env) (record : SettlementRecord) : OwnerSettlements :=
  match s.ledger.cancelOwnerWithdrawal env record.accountId record.amountMicroUnits
      record.settlementId.val with
  | (.ok _, ledger) => { s with ledger := ledger, stage := .storeCancelled record }
  | (.error (.duplicateEvent _), ledger) => { s with ledger := ledger, stage := .storeCancelled record }
  | (.error e, ledger) => { s with ledger := ledger, stage := .raise e }

/-- One durable write of the call under way. -/
def advance (s : OwnerSettlements) (env : Env) (profile : Option OwnerPayoutProfile)
    (outcome : TransferOutcome) : OwnerSettlements :=
  match s.stage with
  | .idle _ => s
  | .insert record =>
    s.store record (resume (s.accountStore.upsertSettlement record) profile record)
  | .reserve r => s.advanceReserve env r
  | .storePending r reserveTxId =>
    let current := { r.current with
      ledgerTxId := reserveTxId, status := .pending, updatedAt := env.isoNow }
    s.store current (resumeFrom { r with current := current })
  | .transfer r => s.advanceTransfer outcome r
  | .storeRetry r exn =>
    let current := { r.current with
      status := .pendingRetry, error := firstChars 1000 exn.text, updatedAt := env.isoNow }
    s.store current (.return_ current)
  | .storeTransferred r transferId =>
    let current := { r.current with
      stripeTransferId := transferId, status := .transferred, error := "", updatedAt := env.isoNow }
    s.store current (resumeFrom { r with current := current })
  | .finalize r => s.advanceFinalize env r
  | .storeCompleted r finalTxId =>
    let current := { r.current with
      ledgerTxId := finalTxId, status := .completed, error := "", updatedAt := env.isoNow }
    s.store current (.return_ current)
  | .cancelLedger record => s.advanceCancel env record
  | .storeCancelled record =>
    let updated := { record with status := .cancelled, error := "", updatedAt := env.isoNow }
    s.store updated (.return_ updated)

end OwnerSettlements

/-- What can happen next: a call begins, the call under way makes its next write, an owner earns, the
process crashes and restarts. -/
inductive OwnerStep
  | run (input : RunInput) (ownerId : String) (amountMicroUnits : Option ℤ)
      (settlementReference : Option String)
  | cancel (settlementId : SettlementId)
  | advance (env : Env) (profile : Option OwnerPayoutProfile) (outcome : TransferOutcome)
  | earn (env : Env) (ownerId : String) (amountMicroUnits : ℤ) (earningReference : String)
  | crash (env : Env)

namespace OwnerSettlements

/-- One step.  A call begins only when none is under way; a crash forgets the call, and the ledger is
loaded from its file again. -/
def next (s : OwnerSettlements) : OwnerStep → OwnerSettlements
  | .run input ownerId amount reference =>
    match s.stage with
    | .idle _ => s.runOwnerSettlement input ownerId amount reference
    | _ => s
  | .cancel settlementId =>
    match s.stage with
    | .idle _ => { s with stage := s.cancelUntransferredSettlement settlementId }
    | _ => s
  | .advance env profile outcome => s.advance env profile outcome
  | .earn env ownerId amount reference =>
    { s with ledger := (s.ledger.creditOwnerEarnedCredits env ownerId amount reference
        "Verified provider earnings").2 }
  | .crash env =>
    match s.ledger.restart env with
    | .error _ => { s with stage := .idle none }
    | .ok ledger => { s with ledger := ledger, stage := .idle none }

/-- A new file-backed ledger of a payout-capable class, and nothing settled. -/
def start (cls : LedgerClass) (networkFeeBps : ℤ) (wallet : String) : OwnerSettlements :=
  ⟨Ledger.fresh cls networkFeeBps wallet (some ⟨[], false⟩), Dict.empty, Dict.empty, .idle none⟩

end OwnerSettlements

end ComputeMesh.Billing
