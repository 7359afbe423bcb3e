import ComputeMesh.Billing.LedgerRuns
import ComputeMesh.Lib.Process
import ComputeMesh.Orchestrator.StateStore

/-!
# The billing outbox

`billing_intent.py` and `settlement_recovery.py`: the table of frozen billing intents, the recording of an
intent in the ledger, and the two passes a restart makes over what a crash has left.

* `putPending`, `pending`, `markRecorded` — the table;
* `recordIntentExact` — the transaction of an intent, from its frozen columns alone;
* `acknowledgeJobSettlement` — the job moves to `SETTLED`;
* `replayBillingOutbox`, `reconcileCompletedSettlements` — processes with one step for every durable write.

The store is a `RecoveryStateStore`.  It runs without the enforcers, which on calls without an attempt number
or metadata only note request ids that nothing here reads.
-/

namespace ComputeMesh.Orchestrator

open ComputeMesh.Text ComputeMesh.Sha256
open ComputeMesh.Billing (Ledger LayerRatio Env Transaction PostingFields)

/-! ### Intents -/

/-- The layer ratios of an intent: also compared with zero and written as JSON. -/
class ShareRatio (R : Type) extends LayerRatio R where
  nonpositive : R → Bool
  json : R → String

/-- Exact rational ratios. -/
instance : ShareRatio ℚ where
  nonpositive r := decide (r ≤ 0)
  json r := toString r

/-- The exceptions of the outbox. -/
inductive OutboxExn
  | orchestrator (e : Exn)
  | billing (e : Billing.Exn)
  | billingIntentConflict (message : String)
  | runtime (message : String)
  deriving DecidableEq

/-- The arguments of `put_pending`. -/
structure IntentCall (R : Type) where
  jobId : String
  accountId : String
  modelId : String
  promptTokens : ℤ
  completionTokens : ℤ
  providerShares : List (String × R)
  networkFeeBps : ℤ
  promptMicroPerToken : ℤ
  completionMicroPerToken : ℤ

namespace IntentCall

variable {R : Type}

/-- The charge that is frozen. -/
def total (c : IntentCall R) : ℤ :=
  max 1 (c.promptTokens * c.promptMicroPerToken + c.completionTokens * c.completionMicroPerToken)

/-- The `CHECK` constraints of the table on the columns a caller fills. -/
def checks (c : IntentCall R) : List (ℤ × String) :=
  [(c.promptTokens, "prompt_tokens >= 0"), (c.completionTokens, "completion_tokens >= 0"),
    (c.networkFeeBps, "network_fee_bps >= 0"), (c.promptMicroPerToken, "prompt_micro_per_token >= 0"),
    (c.completionMicroPerToken, "completion_micro_per_token >= 0")]

/-- `json.dumps` of the payload, with its keys sorted. -/
def payloadJson [ShareRatio R] (c : IntentCall R) : String :=
  let shares := c.providerShares.map fun share =>
    "[" ++ jsonText share.1 ++ "," ++ ShareRatio.json share.2 ++ "]"
  "\x7b\"account_id\":" ++ jsonText c.accountId ++
    ",\"completion_micro_per_token\":" ++ toString c.completionMicroPerToken ++
    ",\"completion_tokens\":" ++ toString c.completionTokens ++
    ",\"job_id\":" ++ jsonText c.jobId ++
    ",\"model_id\":" ++ jsonText c.modelId ++
    ",\"network_fee_bps\":" ++ toString c.networkFeeBps ++
    ",\"prompt_micro_per_token\":" ++ toString c.promptMicroPerToken ++
    ",\"prompt_tokens\":" ++ toString c.promptTokens ++
    ",\"provider_shares\":[" ++ ",".intercalate shares ++
    "],\"total_charge_micro_units\":" ++ toString c.total ++ "\x7d"

def payloadDigest [ShareRatio R] (c : IntentCall R) : String := sha256Hex c.payloadJson

def normalizeShares [ShareRatio R] (c : IntentCall R) : Except OutboxExn Unit :=
  if c.providerShares = [] ∨ ∃ share ∈ c.providerShares, share.1 = "" ∨ ShareRatio.nonpositive share.2 = true
  then .error (.orchestrator (.value "billing intent requires positive provider shares"))
  else if ¬(c.providerShares.map Prod.fst).Nodup then
    .error (.orchestrator (.value "billing intent provider nodes must be unique"))
  else .ok ()

end IntentCall

inductive IntentStatus
  | pending
  | recorded
  deriving DecidableEq

/-- A row of `billing_intent`. -/
structure BillingIntent (R : Type) extends IntentCall R where
  totalChargeMicroUnits : ℤ
  payloadSha256 : String
  status : IntentStatus
  createdAt : String
  recordedAt : Option String
  checked : ∀ check ∈ toIntentCall.checks, 0 ≤ check.1
  charge_pos : 0 < totalChargeMicroUnits

/-- The durable state of the orchestrator with the ledger of its process. -/
structure OutboxSystem (R : Type) where
  store : StateStore
  intents : Dict String (BillingIntent R)
  ledger : Ledger

namespace OutboxSystem

variable {R : Type} [ShareRatio R]

/-- `store.get_job`. -/
def getJob (s : OutboxSystem R) (jobId : String) : Except OutboxExn (EntityRow JobState) :=
  match s.store.jobs.rows.get? jobId with
  | none => .error (.orchestrator (.key ("unknown job " ++ quoted jobId)))
  | some row => .ok row

/-- The `INSERT` of `put_pending`: SQLite takes integers of 64 bits that pass the checks of the table. -/
def insertIntent (s : OutboxSystem R) (isoNow : String) (c : IntentCall R) :
    Except OutboxExn (BillingIntent R) × OutboxSystem R :=
  if ∃ n ∈ c.total :: c.checks.map Prod.fst, n < -2 ^ 63 ∨ 2 ^ 63 ≤ n then
    (.error (.orchestrator (.overflow "Python int too large to convert to SQLite INTEGER")), s)
  else
    match hfail : c.checks.find? fun check => decide (check.1 < 0) with
    | some check => (.error (.orchestrator (.integrity ("CHECK constraint failed: " ++ check.2))), s)
    | none =>
      let row : BillingIntent R :=
        { c with
          totalChargeMicroUnits := c.total
          payloadSha256 := c.payloadDigest
          status := .pending
          createdAt := isoNow
          recordedAt := none
          checked := fun check hcheck => by
            simpa using List.find?_eq_none.mp hfail check hcheck
          charge_pos := lt_of_lt_of_le one_pos (le_max_left _ _) }
      (.ok row, { s with intents := s.intents.set c.jobId row })

def putPending (s : OutboxSystem R) (isoNow : String) (c : IntentCall R) :
    Except OutboxExn (BillingIntent R) × OutboxSystem R :=
  match s.getJob c.jobId with
  | .error e => (.error e, s)
  | .ok job =>
    if job.state ≠ .completed then
      (.error (.runtime "billing intent requires a verified COMPLETED job"), s)
    else
      match c.normalizeShares with
      | .error e => (.error e, s)
      | .ok () =>
        match s.intents.get? c.jobId with
        | some existing =>
          if existing.payloadSha256 ≠ c.payloadDigest then
            (.error (.billingIntentConflict "job already has a different durable billing intent"), s)
          else (.ok existing, s)
        | none => s.insertIntent isoNow c

/-- `ORDER BY created_at, job_id`. -/
def intentBefore (a b : BillingIntent R) : Prop :=
  a.createdAt < b.createdAt ∨ a.createdAt = b.createdAt ∧ a.jobId ≤ b.jobId

instance : DecidableRel (intentBefore (R := R)) := fun _ _ => inferInstanceAs (Decidable (_ ∨ _ ∧ _))

def pending (s : OutboxSystem R) : List (BillingIntent R) :=
  (s.intents.values.filter fun intent => decide (intent.status = .pending)).insertionSort intentBefore

/-- The row after the `UPDATE` of `mark_recorded`. -/
def markedRow (intent : BillingIntent R) (isoNow : String) : BillingIntent R :=
  { intent with status := .recorded, recordedAt := some isoNow }

def markRecorded (s : OutboxSystem R) (isoNow jobId : String) : Except OutboxExn Bool × OutboxSystem R :=
  match s.intents.get? jobId with
  | none => (.error (.orchestrator (.key jobId)), s)
  | some intent =>
    if intent.status = .pending then
      (.ok true, { s with intents := s.intents.set jobId (markedRow intent isoNow) })
    else (.ok false, s)

end OutboxSystem

/-! ### Recording an intent -/

namespace BillingIntent

variable {R : Type} [ShareRatio R]

def eventId (intent : BillingIntent R) : String := "job:" ++ intent.jobId

/-- The operator's fee. -/
def fee (intent : BillingIntent R) : ℤ :=
  Int.fdiv (intent.totalChargeMicroUnits * intent.networkFeeBps) 10000

/-- The postings of an intent: the customer's charge, the fee and the providers' shares. -/
def postings (intent : BillingIntent R) : Except Billing.Exn (List PostingFields) :=
  match Billing.allocateProviders (intent.totalChargeMicroUnits - intent.fee)
      (LayerRatio.totalShares (intent.providerShares.map Prod.snd)) intent.providerShares 0 with
  | .error e => .error e
  | .ok providers =>
    .ok ({ accountId := intent.accountId, accountType := Billing.customerDeposit,
           debitMicroUnits := intent.totalChargeMicroUnits } ::
      ((if intent.fee ≠ 0 then
          [{ accountId := "revenue:network_fee", accountType := Billing.networkFeeRevenue,
             creditMicroUnits := intent.fee }]
        else []) ++ providers))

def transaction (intent : BillingIntent R) (isoNow : String) : Except Billing.Exn Transaction :=
  match intent.postings with
  | .error e => .error e
  | .ok fs =>
    Billing.newTransaction (Billing.txId "job" intent.eventId) intent.eventId isoNow
      ("Inference execution for " ++ intent.jobId ++ " (" ++ intent.modelId ++ ", " ++
        toString intent.promptTokens ++ "+" ++ toString intent.completionTokens ++ " tokens)") fs

def recordIntentExact (intent : BillingIntent R) (l : Ledger) (isoNow : String) :
    Except Billing.Exn Transaction × Ledger :=
  if intent.eventId ∈ l.journal.processedEvents then
    (.error (.duplicateEvent ("job " ++ intent.jobId ++ " already billed")), l)
  else
    match l.getBalance intent.accountId with
    | .error e => (.error e, l)
    | .ok balance =>
      if balance < intent.totalChargeMicroUnits then
        (.error (.insufficientBalance "customer balance insufficient for durable billing intent"), l)
      else l.commitNew (intent.transaction isoNow)

end BillingIntent

/-! ### The two passes -/

namespace OutboxSystem

variable {R : Type} [ShareRatio R]

/-- What the clock shows while a job is handled, as the text of a column and as a time. -/
abbrev JobClock := String → String × UtcTime

def ackRequestId (jobId : String) (revision : ℕ) : String :=
  "ledger-settlement-ack:" ++ jobId ++ ":" ++ toString revision

/-- The request of an acknowledgement. -/
def ackRequest (jobId : String) (revision : ℕ) : Request :=
  { requestId := ackRequestId jobId revision
    expectedRevision := revision
    requestFingerprint := "ledger_job_event_v1" }

def acknowledgeJobSettlement (s : OutboxSystem R) (now : UtcTime) (jobId : String) :
    Except OutboxExn Bool × OutboxSystem R :=
  match s.getJob jobId with
  | .error e => (.error e, s)
  | .ok record =>
    if record.state = .settled then (.ok false, s)
    else if record.state ≠ .completed then
      (.error (.runtime ("job " ++ jobId ++ " cannot be settled from " ++ record.state.value)), s)
    else
      match s.store.transitionJob now jobId (ackRequest jobId record.revision) .settled with
      | (.error e, store) => (.error (.orchestrator e), { s with store := store })
      | (.ok _, store) => (.ok true, { s with store := store })

structure BillingOutboxReplayReport where
  replayedJobs : List String := []
  repairedRecordedJobs : List String := []
  settledJobs : List String := []
  deriving DecidableEq

/-- The report with one more job handled. -/
def BillingOutboxReplayReport.add (report : BillingOutboxReplayReport) (jobId : String)
    (isNew settledNow : Bool) : BillingOutboxReplayReport :=
  let only (b : Bool) := if b then [jobId] else []
  ⟨report.replayedJobs ++ only isNew, report.repairedRecordedJobs ++ only (!isNew),
    report.settledJobs ++ only settledNow⟩

structure SettlementRecoveryReport where
  settledJobs : List String := []
  pendingJobs : List String := []
  deriving DecidableEq

/-- The first write for a pending intent: its transaction, unless the ledger has its event.  Returns whether
the transaction was written now. -/
def billIntent (s : OutboxSystem R) (clock : JobClock) (intent : BillingIntent R) :
    Except OutboxExn Bool × OutboxSystem R :=
  if intent.eventId ∈ s.ledger.journal.processedEvents then (.ok false, s)
  else
    match intent.recordIntentExact s.ledger (clock intent.jobId).1 with
    | (.error e, l) => (.error (.billing e), { s with ledger := l })
    | (.ok _, l) => (.ok true, { s with ledger := l })

/-- The complaint about a job that is neither completed nor settled. -/
def incompatibleState (jobId : String) (state : JobState) : OutboxExn :=
  .runtime ("recorded billing intent " ++ jobId ++ " has incompatible job state " ++ state.value)

/-- The last write for a pending intent: the settlement of its job.  Returns whether the job was settled
now. -/
def settleIntent (s : OutboxSystem R) (clock : JobClock) (intent : BillingIntent R) :
    Except OutboxExn Bool × OutboxSystem R :=
  match s.getJob intent.jobId with
  | .error e => (.error e, s)
  | .ok job =>
    if job.state = .completed then
      match s.acknowledgeJobSettlement (clock intent.jobId).2 intent.jobId with
      | (.error e, s') => (.error e, s')
      | (.ok true, s') => (.ok true, s')
      | (.ok false, s') => (.error (incompatibleState intent.jobId job.state), s')
    else if job.state = .settled then (.ok false, s)
    else (.error (incompatibleState intent.jobId job.state), s)

/-- The loop of `replay_billing_outbox` over the intents still to handle. -/
def replayIntents (clock : JobClock) : List (BillingIntent R) → BillingOutboxReplayReport →
    Process (OutboxSystem R) (Except OutboxExn BillingOutboxReplayReport)
  | [], report => pure (.ok report)
  | intent :: rest, report => do
    match ← .call fun s => s.billIntent clock intent with
    | .error e => pure (.error e)
    | .ok isNew =>
      match ← .call fun s => s.markRecorded (clock intent.jobId).1 intent.jobId with
      | .error e => pure (.error e)
      | .ok _ =>
        match ← .call fun s => s.settleIntent clock intent with
        | .error e => pure (.error e)
        | .ok settledNow => replayIntents clock rest (report.add intent.jobId isNew settledNow)

def replayBillingOutbox (clock : JobClock) :
    Process (OutboxSystem R) (Except OutboxExn BillingOutboxReplayReport) := do
  let intents ← .call fun s => (s.pending, s)
  replayIntents clock intents {}

/-- `store.records(kind="job", states=(COMPLETED,))`, the entity ids in order. -/
def completedJobs (s : OutboxSystem R) : List String :=
  ((s.store.jobs.rows.entries.filter fun e => decide (e.2.state = .completed)).map Prod.fst).insertionSort
    (· ≤ ·)

/-- One job of the second pass, with what becomes of the report. -/
def reconcileJob (s : OutboxSystem R) (clock : JobClock) (report : SettlementRecoveryReport)
    (jobId : String) : Except OutboxExn SettlementRecoveryReport × OutboxSystem R :=
  if "job:" ++ jobId ∈ s.ledger.journal.processedEvents then
    match s.acknowledgeJobSettlement (clock jobId).2 jobId with
    | (.error e, s') => (.error e, s')
    | (.ok true, s') => (.ok { report with settledJobs := report.settledJobs ++ [jobId] }, s')
    | (.ok false, s') => (.ok report, s')
  else (.ok { report with pendingJobs := report.pendingJobs ++ [jobId] }, s)

/-- The loop of `reconcile_completed_settlements`. -/
def reconcileJobs (clock : JobClock) : List String → SettlementRecoveryReport →
    Process (OutboxSystem R) (Except OutboxExn SettlementRecoveryReport)
  | [], report => pure (.ok report)
  | jobId :: rest, report => do
    match ← .call fun s => s.reconcileJob clock report jobId with
    | .error e => pure (.error e)
    | .ok report => reconcileJobs clock rest report

def reconcileCompletedSettlements (clock : JobClock) :
    Process (OutboxSystem R) (Except OutboxExn SettlementRecoveryReport) := do
  let jobs ← .call fun s => (s.completedJobs, s)
  reconcileJobs clock jobs {}

end OutboxSystem

end ComputeMesh.Orchestrator
