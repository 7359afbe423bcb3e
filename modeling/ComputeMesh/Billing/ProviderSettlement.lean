import ComputeMesh.Billing.HoldCoverage
import ComputeMesh.Billing.SettlementStore

/-!
# Provider settlements

`SettlementExecutor.run_provider_settlement` of `services/billing/stripe_connect.py`, with
`transfer_to_connected_account`, and its runs: calls for one provider, interleaved with each other, with the
operations that credit and charge, and with crashes of the process.

A call stands between two of its durable writes: the pending record, the transfer at Stripe, the payout in
the ledger, the completed record.  Its settlement id, and with it the idempotency key, is derived from the
balance it read at the beginning.
-/

namespace ComputeMesh.Billing

open ComputeMesh.Text

/-- The row of `provider_accounts`, as far as settlements read it. -/
structure ProviderAccount where
  stripeConnectedAccountId : String
  payoutsEnabled : Bool

/-- `ledger_account_id`, as `upsert_provider` stores it. -/
def providerLedgerAccount (node : String) : String := "provider:" ++ node

/-- `f"settle_provider_{provider_node_id}_{balance}"`. -/
def providerSettlementId (node : String) (balance : ℤ) : SettlementId :=
  ⟨"settle_provider_" ++ node ++ "_" ++ toString balance, by simp⟩

/-- The event id of a provider's payout. -/
def payoutEvent (node settlementId : String) : String := "payout:" ++ node ++ ":" ++ settlementId

/-- The idempotency key of a provider's transfer. -/
def providerTransferKey (settlementId : String) : String := "computemesh:" ++ settlementId

def transferToConnectedAccount (t : StripeTransfers) (settlementId : SettlementId)
    (amountMicroUnits : ℤ) (stripeConnectedAccountId currency : String) (outcome : TransferOutcome) :
    Except Exn String × StripeTransfers :=
  let amountCents := amountMicroUnits / centMicroUnits
  if amountMicroUnits ≤ 0 then (.error (.stripe "transfer amount must be positive"), t)
  else if amountCents ≤ 0 then
    (.error (.stripe "transfer amount is below Stripe cent precision"), t)
  else
    match t.create (providerTransferKey settlementId.val)
        ⟨amountCents, lower currency, stripeConnectedAccountId, settlementId.val⟩ outcome with
    | (.error message, t') => (.error (.stripe s!"Stripe transfer failed: {message}"), t')
    | (.ok transferId, t') =>
      if transferId = "" then (.error (.stripe "Stripe transfer did not return an id"), t')
      else (.ok transferId, t')

/-! ### Calls and their steps -/

/-- Where a call of `run_provider_settlement` stands, with the record it has built. -/
inductive ProviderCall
  | idle
  | storePending (record : SettlementRecord)
  | transfer (record : SettlementRecord)
  | payout (record : SettlementRecord) (transferId : String)
  | storeCompleted (record : SettlementRecord) (transferId ledgerTxId : String)

/-- The executor's objects, Stripe, and the calls that are under way. -/
structure ProviderSettlements where
  ledger : Ledger
  accountStore : SettlementStore
  transfers : StripeTransfers
  calls : ℕ → ProviderCall

/-- What can happen next.  `currency` is the value of the environment variable for it. -/
inductive ProviderStep (R : Type)
  | begin_ (call : ℕ) (env : Env) (provider : Option ProviderAccount) (currency : String)
  | advance (call : ℕ) (env : Env) (outcome : TransferOutcome)
  | credit (env : Env) (op : Op R) (creditOp : op.isCreditOp = true)
  | crash (env : Env)

namespace ProviderSettlements

variable {R : Type} [LayerRatio R] (node : String)

/-- `run_provider_settlement` up to its first write: the checks, the balance and the pending record. -/
def beginRun (s : ProviderSettlements) (env : Env) (provider : Option ProviderAccount)
    (currency : String) : Except Exn SettlementRecord :=
  match provider with
  | none => .error (.accountingStore s!"unknown provider {node}")
  | some p =>
    if p.stripeConnectedAccountId = "" then
      .error (.accountingStore s!"provider {node} has no Stripe connected account")
    else if p.payoutsEnabled = false then
      .error (.accountingStore s!"provider {node} Stripe payouts are not enabled")
    else
      match s.ledger.getBalance (providerLedgerAccount node) with
      | .error e => .error e
      | .ok balance =>
        if balance < minimumPayoutMicroUnits then
          .error (.billing s!"provider balance {balance} below minimum payout threshold {minimumPayoutMicroUnits}")
        else if startsWith (strip p.stripeConnectedAccountId) "acct_" = false then
          .error (.billing (s!"Provider '{node}' has no valid Stripe Connected Account (acct_...) " ++
            "configured for payouts. Connect a Stripe account via /fleet first."))
        else
          .ok
            { settlementId := providerSettlementId node balance
              accountKind := .provider
              accountId := node
              amountMicroUnits := balance
              currency := textOr (lower (strip currency)) "usd"
              stripeConnectedAccountId := p.stripeConnectedAccountId
              destination := p.stripeConnectedAccountId
              status := .pending
              createdAt := env.isoNow
              updatedAt := env.isoNow }

/-- The calls, with one of them moved on. -/
def withCall (s : ProviderSettlements) (call : ℕ) (state : ProviderCall) : ProviderSettlements :=
  { s with calls := Function.update s.calls call state }

/-- One durable write of a call, and what it stands at then.  A call that raises is over. -/
def advance (s : ProviderSettlements) (call : ℕ) (env : Env) (outcome : TransferOutcome) :
    ProviderSettlements :=
  match s.calls call with
  | .idle => s
  | .storePending record =>
    { s.withCall call (.transfer record) with
      accountStore := s.accountStore.upsertSettlement record }
  | .transfer record =>
    match transferToConnectedAccount s.transfers record.settlementId record.amountMicroUnits
        record.stripeConnectedAccountId record.currency outcome with
    | (.error _, transfers) => { s.withCall call .idle with transfers := transfers }
    | (.ok transferId, transfers) =>
      { s.withCall call (.payout record transferId) with transfers := transfers }
  | .payout record transferId =>
    match s.ledger.createProviderPayout env node record.stripeConnectedAccountId (some record.settlementId.val) with
    | (.error _, ledger) => { s.withCall call .idle with ledger := ledger }
    | (.ok (tx, _), ledger) =>
      { s.withCall call (.storeCompleted record transferId tx.txId) with ledger := ledger }
  | .storeCompleted record transferId ledgerTxId =>
    { s.withCall call .idle with
      accountStore := s.accountStore.upsertSettlement { record with
        ledgerTxId := ledgerTxId
        stripeTransferId := transferId
        status := .completed
        updatedAt := env.isoNow } }

/-- One step.  A crash ends every call, and the ledger is loaded from its file again. -/
def next (s : ProviderSettlements) : ProviderStep R → ProviderSettlements
  | .begin_ call env provider currency =>
    match s.calls call with
    | .idle =>
      match s.beginRun node env provider currency with
      | .error _ => s
      | .ok record => s.withCall call (.storePending record)
    | _ => s
  | .advance call env outcome => s.advance node call env outcome
  | .credit env op _ => { s with ledger := op.run s.ledger env }
  | .crash env =>
    match s.ledger.restart env with
    | .error _ => { s with calls := fun _ => .idle }
    | .ok ledger => { s with ledger := ledger, calls := fun _ => .idle }

/-- A new file-backed ledger, nothing settled and nothing transferred. -/
def start (cls : LedgerClass) (networkFeeBps : ℤ) (wallet : String) : ProviderSettlements :=
  ⟨Ledger.fresh cls networkFeeBps wallet (some ⟨[], false⟩), Dict.empty, Dict.empty, fun _ => .idle⟩

end ProviderSettlements

end ComputeMesh.Billing
