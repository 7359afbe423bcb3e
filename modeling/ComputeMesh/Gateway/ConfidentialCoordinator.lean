import ComputeMesh.Lib.Process
import ComputeMesh.Billing.EscrowSettlement
import ComputeMesh.Billing.OwnerJobQuote
import ComputeMesh.Gateway.ConfidentialSessions

/-!
# The coordinator of confidential jobs

`ConfidentialInferenceCoordinator` of `services/gateway/confidential_coordinator.py`, after the admission: what a
metered session costs, its settlement and the recovery of metered sessions.  The sessions and the ledger are two
stores; a method is a process whose steps are their transactions, and between two steps other processes run, or this
one dies.

* `settlementTerms` — the checks of a metered session and its quote;
* `settleMeteredSession`, `reconcileMetered` — the methods;
* `dispatchSession`, `recordSessionMetering` — the store's two calls before them;
* `run_settleMeteredSession` — a settlement that nothing disturbs.
-/

namespace ComputeMesh.Gateway

open ComputeMesh.Text ComputeMesh.Billing ComputeMesh.Protocol

/-- What the processes did to the sessions, oldest first. -/
inductive SessionEvent
  | dispatched (jobId accountId envelopeId : String) (time : UtcTime)
  | metered (jobId : String) (receipt : ConfidentialUsageReceipt)
  deriving DecidableEq

/-- The two stores, and what happened to the sessions. -/
structure GatewayState where
  sessions : SessionRows
  ledger : Ledger
  log : List SessionEvent

abbrev GatewayProcess (α : Type) : Type := ExceptT GatewayExn (Process GatewayState) α

/-- `ConfidentialInferenceCoordinator`. -/
structure Coordinator where
  lib : SessionLibrary
  providerOwnerResolver : String → Except GatewayExn (Option String)
  marketplaceFeeBps : ℤ
  selfComputeFeeBps : ℤ
  marketplaceFee_range : 0 ≤ marketplaceFeeBps ∧ marketplaceFeeBps ≤ 10000
  selfComputeFee_range : 1 ≤ selfComputeFeeBps ∧ selfComputeFeeBps ≤ 10000

/-- Whether the exception is a `BillingError`. -/
def isBillingError : Exn → Bool
  | .billing _ | .insufficientBalance _ | .duplicateEvent _ | .reconciliation _ => true
  | _ => false

/-- What a metered session costs. -/
structure SettlementTerms where
  receipt : ConfidentialUsageReceipt
  quote : OwnerJobQuote
  destinations : List CreditDestination

structure ConfidentialSettlement where
  session : ConfidentialSessionRecord
  receipt : ConfidentialUsageReceipt
  quote : OwnerJobQuote
  escrow : ConfidentialCreditSettlement

namespace Coordinator

variable (c : Coordinator)

def providerOwner (nodeId : String) : Except GatewayExn String :=
  match c.providerOwnerResolver nodeId with
  | .error e => .error e
  | .ok owner =>
    if strip (owner.getD "") = "" then .error (.coordinator "confidential provider owner is unresolved")
    else .ok (strip (owner.getD ""))

def quote (customerOwnerId providerNodeId : String) (grossMicroUnits : ℤ) : Except GatewayExn OwnerJobQuote :=
  match c.providerOwner providerNodeId with
  | .error e => .error e
  | .ok owner =>
    match quoteOwnerJob customerOwnerId grossMicroUnits [(⟨providerNodeId, owner, 1⟩ : ProviderOwnerShare ℚ)]
        c.marketplaceFeeBps c.selfComputeFeeBps with
    | .error e => .error (.ledger e)
    | .ok quote => .ok quote

/-- What a receipt has to say for a session, with the response that it names itself. -/
def expectation (session : ConfidentialSessionRecord) (responseId : String) : ReceiptExpectation where
  accountId := session.accountId
  jobId := session.jobId
  requestEnvelopeId := session.envelopeId.getD ""
  responseId := responseId
  nodeId := session.nodeId
  runtimeDigest := session.runtimeDigest
  privacyClass := session.privacyClass
  operation := session.operation
  modelId := session.modelId

/-- The receipt of a metered session, checked again. -/
def storedReceipt (session : ConfidentialSessionRecord) : Except GatewayExn ConfidentialUsageReceipt :=
  match session.usageReceipt with
  | none => .error (.coordinator "metered confidential session has no receipt")
  | some receipt =>
    match receipt.validate c.lib.toMeteringLibrary with
    | .error e => .error (.metering e)
    | .ok _ =>
      match timestamp c.lib session.expiresAt with
      | .error e => .error e
      | .ok notAfter =>
        match verifyConfidentialUsageReceipt c.lib.toMeteringLibrary receipt session.meteringPublicKey
            (expectation session receipt.responseId) session.maxPromptTokens session.maxCompletionTokens notAfter with
        | .error e => .error (.metering e)
        | .ok receipt => .ok receipt

/-- What `settle_metered_session` finds out about a session before it turns to the ledger. -/
def settlementTerms (session : ConfidentialSessionRecord) : Except GatewayExn SettlementTerms :=
  if session.state ≠ .metered ∧ session.state ≠ .completed then
    .error (.coordinator "confidential session is not metered")
  else
    match c.storedReceipt session with
    | .error e => .error e
    | .ok receipt =>
      match c.quote session.accountId session.nodeId
          (calculateTokenChargeMicro session.modelId receipt.promptTokens receipt.completionTokens) with
      | .error e => .error e
      | .ok quote =>
        if quote.customerChargeMicroUnits ≤ 0 then
          .error (.coordinator "protected metered job produced zero customer charge")
        else
          match quoteDestinations quote with
          | .error _ => .error (.coordinator "confidential financial settlement failed")
          | .ok destinations => .ok ⟨receipt, quote, destinations⟩

end Coordinator

/-! ### The steps of the processes -/

/-- A transaction on the sessions alone. -/
def onSessions {α : Type} (f : SessionRows → Except GatewayExn α × SessionRows) : GatewayProcess α :=
  Process.attempt fun s => ((f s.sessions).1, { s with sessions := (f s.sessions).2 })

/-- `get`. -/
def getSession (jobId : String) : GatewayProcess (Option ConfidentialSessionRecord) :=
  onSessions fun rows => (.ok (rows.get? jobId), rows)

/-- The read after a transaction. -/
def readBack (jobId : String) : GatewayProcess ConfidentialSessionRecord := do
  match ← getSession jobId with
  | none => throw (.sessionState "confidential session disappeared")
  | some session => return session

/-- `finish`. -/
def finishSession (now : String) (jobId : String) (target : FinishTarget) :
    GatewayProcess ConfidentialSessionRecord := do
  onSessions (finish now jobId target)
  readBack jobId

/-- `begin_dispatch`; a transaction that dispatches is logged. -/
def dispatchSession (lib : SessionLibrary) (current : UtcTime) (jobId accountId envelopeId : String) :
    GatewayProcess ConfidentialSessionRecord := do
  Process.attempt fun s =>
    match beginDispatch lib current jobId accountId envelopeId s.sessions with
    | (.error e, rows) => (.error e, { s with sessions := rows })
    | (.ok _, rows) =>
      (.ok (), { s with sessions := rows, log := s.log ++ [.dispatched jobId accountId envelopeId current] })
  readBack jobId

/-- `record_metering`; a transaction that meters is logged. -/
def recordSessionMetering (lib : SessionLibrary) (now : String) (jobId : String) (receipt : ConfidentialUsageReceipt) :
    GatewayProcess ConfidentialSessionRecord := do
  Process.attempt fun s =>
    match recordMetering lib now jobId receipt s.sessions with
    | (.error e, rows) => (.error e, { s with sessions := rows })
    | (.ok _, rows) => (.ok (), { s with sessions := rows, log := s.log ++ [.metered jobId receipt] })
  readBack jobId

/-- What a settlement reads from outside: the ledger's clock, and the text of the time at which it ends. -/
structure SettlementClock where
  env : Env
  finishedAt : String

namespace Coordinator

variable (c : Coordinator)

/-- The ledger's part of a settlement. -/
def settleEscrow (env : Env) (session : ConfidentialSessionRecord) (terms : SettlementTerms) :
    GatewayProcess ConfidentialCreditSettlement :=
  Process.attempt fun s =>
    match s.ledger.settleConfidentialReservation env session.accountId session.holdId
        terms.quote.customerChargeMicroUnits terms.destinations with
    | (.ok escrow, l) => (.ok escrow, { s with ledger := l })
    | (.error e, l) =>
      (.error (if isBillingError e then .coordinator "confidential financial settlement failed" else .ledger e),
        { s with ledger := l })

/-- What `settle_metered_session` does after the ledger: a metered session is completed, a completed one stays. -/
def closeSession (clock : SettlementClock) (session : ConfidentialSessionRecord) (terms : SettlementTerms)
    (escrow : ConfidentialCreditSettlement) : GatewayProcess ConfidentialSettlement := do
  if session.state = .metered then
    let closed ← finishSession clock.finishedAt session.jobId .completed
    return ⟨closed, terms.receipt, terms.quote, escrow⟩
  else
    return ⟨session, terms.receipt, terms.quote, escrow⟩

def settleMeteredSession (clock : SettlementClock) (jobId : String) : GatewayProcess ConfidentialSettlement := do
  match ← getSession jobId with
  | none => throw (.coordinator "confidential session is not metered")
  | some session =>
    match c.settlementTerms session with
    | .error e => throw e
    | .ok terms => do
      let escrow ← settleEscrow clock.env session terms
      closeSession clock session terms escrow

/-- The loop of `reconcile_metered`: an exception ends it. -/
def settleEach (clock : String → SettlementClock) :
    List ConfidentialSessionRecord → GatewayProcess (List ConfidentialSettlement)
  | [] => return []
  | session :: rest => do
    let first ← c.settleMeteredSession (clock session.jobId) session.jobId
    let others ← settleEach clock rest
    return first :: others

def reconcileMetered (clock : String → SettlementClock) (limit : ℤ) : GatewayProcess (List ConfidentialSettlement) := do
  let page ← onSessions fun rows => (listMetered c.lib limit rows, rows)
  c.settleEach clock page

end Coordinator

end ComputeMesh.Gateway
