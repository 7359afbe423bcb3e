import ComputeMesh.Billing.Ledger
import ComputeMesh.Protocol.ConfidentialMetering

/-!
# The table of confidential sessions

`SQLiteConfidentialSessionStore` of `runtime/confidential/session.py`, from the admission of a job on.  Every method
is one transaction, and the three that change a session read it back in another one; the transactions are here.

* `ConfidentialSessionRecord` — a row, without the columns that only the data plane reads;
* `beginDispatch`, `recordMetering`, `finish` — what the transactions do to the table;
* `listMetered` — the oldest sessions that were metered and not yet settled.
-/

namespace ComputeMesh.Gateway

open ComputeMesh.Protocol

inductive SessionState
  | open_ | dispatched | metered | completed | failed | expired
  deriving DecidableEq

/-- The exceptions of the store and of the coordinator over it. -/
inductive GatewayExn
  | session (message : String)
  | sessionState (message : String)
  | coordinator (message : String)
  | value (message : String)
  | overflow
  | metering (e : MeteringError)
  | ledger (e : Billing.Exn)
  deriving DecidableEq

/-- `ConfidentialSessionRecord`; the stored receipt is its JSON in the source. -/
structure ConfidentialSessionRecord where
  jobId : String
  accountId : String
  modelId : String
  privacyClass : String
  operation : String
  maxPromptTokens : ℤ
  maxCompletionTokens : ℤ
  holdId : String
  nodeId : String
  runtimeDigest : String
  meteringPublicKey : String
  expiresAt : String
  state : SessionState
  envelopeId : Option String
  usageReceipt : Option ConfidentialUsageReceipt
  updatedAt : String
  deriving DecidableEq

/-- The rows, by their primary key. -/
abbrev SessionRows : Type := Dict String ConfidentialSessionRecord

/-- The receipts' library, the text of a time with `Z` for its zone, and `ORDER BY updated_at ASC`: rows of one time
come in an order of SQLite's choice. -/
structure SessionLibrary extends MeteringLibrary where
  utcIso : UtcTime → String
  orderByUpdatedAt : List ConfidentialSessionRecord → List ConfidentialSessionRecord
  order_perm : ∀ rows, (orderByUpdatedAt rows).Perm rows
  order_sorted : ∀ rows, (orderByUpdatedAt rows).Pairwise fun a b => a.updatedAt ≤ b.updatedAt

def timestamp (lib : SessionLibrary) (value : String) : Except GatewayExn UtcTime :=
  match lib.fromisoformat value with
  | none => .error (.session "invalid confidential session timestamp")
  | some (.naive _) => .error (.session "confidential session timestamp must be timezone-aware")
  | some (.aware d) =>
    match d.astimezone with
    | none => .error .overflow
    | some t => .ok t

/-- The transaction of `begin_dispatch`, at the time that the call read before it: an overdue session is marked, and
the call raises all the same. -/
def beginDispatch (lib : SessionLibrary) (current : UtcTime) (jobId accountId envelopeId : String) (rows : SessionRows) :
    Except GatewayExn Unit × SessionRows :=
  match rows.get? jobId with
  | none => (.error (.sessionState "confidential session not found"), rows)
  | some record =>
    if record.accountId ≠ accountId then (.error (.sessionState "confidential session account mismatch"), rows)
    else if record.state ≠ .open_ then (.error (.sessionState "confidential session is not open"), rows)
    else
      match timestamp lib record.expiresAt with
      | .error e => (.error e, rows)
      | .ok expires =>
        if expires.micros ≤ current.micros then
          (.error (.sessionState "confidential session expired"),
            rows.set jobId { record with state := .expired, updatedAt := lib.utcIso current })
        else
          (.ok (), rows.set jobId
            { record with state := .dispatched, envelopeId := some envelopeId, updatedAt := lib.utcIso current })

/-- The transaction of `record_metering`. -/
def recordMetering (lib : SessionLibrary) (now : String) (jobId : String) (receipt : ConfidentialUsageReceipt)
    (rows : SessionRows) : Except GatewayExn Unit × SessionRows :=
  match receipt.validate lib.toMeteringLibrary with
  | .error e => (.error (.metering e), rows)
  | .ok _ =>
    match rows.get? jobId with
    | none => (.error (.sessionState "confidential session not found"), rows)
    | some record =>
      if record.state ≠ .dispatched ∨ record.envelopeId = none then
        (.error (.sessionState "confidential session is not awaiting metering"), rows)
      else if receipt.jobId ≠ record.jobId ∨ some receipt.requestEnvelopeId ≠ record.envelopeId then
        (.error (.sessionState "confidential metering receipt does not match session"), rows)
      else
        (.ok (), rows.set jobId { record with state := .metered, usageReceipt := some receipt, updatedAt := now })

/-- The terminal states that `finish` takes. -/
inductive FinishTarget
  | completed | failed
  deriving DecidableEq

def FinishTarget.from : FinishTarget → List SessionState
  | completed => [.metered]
  | failed => [.dispatched, .metered]

def FinishTarget.state : FinishTarget → SessionState
  | completed => .completed
  | failed => .failed

/-- The transaction of `finish`. -/
def finish (now : String) (jobId : String) (target : FinishTarget) (rows : SessionRows) :
    Except GatewayExn Unit × SessionRows :=
  match rows.get? jobId with
  | none => (.error (.sessionState "confidential session cannot enter terminal state"), rows)
  | some record =>
    if record.state ∈ target.from then
      (.ok (), rows.set jobId { record with state := target.state, updatedAt := now })
    else (.error (.sessionState "confidential session cannot enter terminal state"), rows)

/-- The rows that were metered and not settled. -/
def meteredRows (rows : SessionRows) : List ConfidentialSessionRecord :=
  rows.values.filter fun r => decide (r.state = .metered)

def listMetered (lib : SessionLibrary) (limit : ℤ) (rows : SessionRows) :
    Except GatewayExn (List ConfidentialSessionRecord) :=
  if ¬(1 ≤ limit ∧ limit ≤ 1000) then .error (.value "invalid confidential metering reconciliation limit")
  else .ok ((lib.orderByUpdatedAt (meteredRows rows)).take limit.toNat)

end ComputeMesh.Gateway
