import ComputeMesh.Lib.KeyedSum
import ComputeMesh.Billing.Accounts
import ComputeMesh.Billing.Pricing

/-!
# The double-entry ledger

`services/billing/ledger.py`: postings and transactions that check themselves, the append-only journal
with its balances, processed events and file, the credit holds, and the operations of class `Ledger`.

Every operation takes the ledger and returns the ledger after it **together with** its result or its
exception, because Python keeps what an operation did before it raised.  An operation is one
lock-protected section and reads the clock once; `Env` holds what it reads from outside.

Not modelled: the dollar figures in floating point that summaries carry next to the micro-unit amounts.
Layer ratios are floating point in the source; `LayerRatio` leaves their arithmetic open, and
every statement holds for all of it.
-/

namespace ComputeMesh.Billing

open ComputeMesh.Text

def minimumPayoutMicroUnits : ℤ := 25000000

/-- What one operation reads from outside: the clock, as a number and as a text, and a random token. -/
structure Env where
  time : ℚ
  isoNow : String
  tokenHex : String

/-! ### Postings and transactions -/

/-- The fields of a posting, as its caller passes them. -/
structure PostingFields where
  accountId : String
  accountType : String
  debitMicroUnits : ℤ := 0
  creditMicroUnits : ℤ := 0
  deriving DecidableEq

/-- `Posting`: neither amount is negative and exactly one is positive. -/
structure Posting extends PostingFields where
  nonneg : 0 ≤ debitMicroUnits ∧ 0 ≤ creditMicroUnits
  oneSided : ¬(0 < debitMicroUnits ↔ 0 < creditMicroUnits)
  deriving DecidableEq

/-- `Posting.__post_init__`. -/
def Posting.new (f : PostingFields) : Except Exn Posting :=
  if hneg : f.debitMicroUnits < 0 ∨ f.creditMicroUnits < 0 then
    .error (.billing "posting amounts must be non-negative integers")
  else if hone : (0 < f.debitMicroUnits ↔ 0 < f.creditMicroUnits) then
    .error (.billing "a posting must specify exactly one of debit or credit > 0")
  else .ok ⟨f, by omega, hone⟩

/-- The postings of a transaction, built one after the other. -/
def newPostings : List PostingFields → Except Exn (List Posting)
  | [] => .ok []
  | f :: fs =>
    match Posting.new f with
    | .error e => .error e
    | .ok p =>
      match newPostings fs with
      | .error e => .error e
      | .ok ps => .ok (p :: ps)

def totalDebits (fs : List PostingFields) : ℤ := (fs.map PostingFields.debitMicroUnits).sum

def totalCredits (fs : List PostingFields) : ℤ := (fs.map PostingFields.creditMicroUnits).sum

/-- The field lists of a list of postings. -/
def fieldsOf (ps : List Posting) : List PostingFields := ps.map Posting.toPostingFields

/-- `Transaction`: debits equal credits, and something is moved. -/
structure Transaction where
  txId : String
  eventId : String
  createdAt : String
  description : String
  postings : List Posting
  balanced : totalDebits (fieldsOf postings) = totalCredits (fieldsOf postings)
  positive : 0 < totalDebits (fieldsOf postings)
  deriving DecidableEq

def Transaction.fields (tx : Transaction) : List PostingFields := fieldsOf tx.postings

/-- `Transaction.__post_init__`. -/
def Transaction.new (txId eventId createdAt description : String) (postings : List Posting) :
    Except Exn Transaction :=
  let debits := totalDebits (fieldsOf postings)
  let credits := totalCredits (fieldsOf postings)
  if hbal : debits ≠ credits then
    .error (.billing s!"unbalanced transaction {txId}: debits={debits} != credits={credits}")
  else if hpos : debits ≤ 0 then .error (.billing "transaction must have total transfer > 0")
  else .ok ⟨txId, eventId, createdAt, description, postings, not_not.mp hbal, not_le.mp hpos⟩

/-- Build the postings, then the transaction. -/
def newTransaction (txId eventId createdAt description : String) (fs : List PostingFields) : Except Exn Transaction :=
  match newPostings fs with
  | .error e => .error e
  | .ok ps => Transaction.new txId eventId createdAt description ps

/-- `Transaction.to_dict`: what a line of the journal file holds. -/
structure TransactionDict where
  txId : String
  eventId : String
  createdAt : String
  description : String
  totalMicroUnits : ℤ
  postings : List PostingFields
  deriving DecidableEq

def Transaction.toDict (tx : Transaction) : TransactionDict :=
  ⟨tx.txId, tx.eventId, tx.createdAt, tx.description, totalDebits tx.fields, tx.fields⟩

/-! ### The journal -/

/-- The journal file.  `json.dumps` and `json.loads` are inverse to each other, so a line stands for its
dictionary; `appendFails` says that the file cannot be written to at the moment. -/
structure Storage where
  lines : List TransactionDict
  appendFails : Bool

/-- The journal part of a ledger's attributes. -/
structure Journal where
  transactions : List Transaction
  processedEvents : List String
  balances : Dict String ℤ
  accountTypes : Dict String String
  storage : Option Storage

/-- How far a posting moves the balance of its account. -/
def PostingFields.signed (p : PostingFields) : ℤ :=
  if creditIncreases p.accountType then p.creditMicroUnits - p.debitMicroUnits
  else p.debitMicroUnits - p.creditMicroUnits

/-- The account of a posting and how far it moves its balance. -/
def PostingFields.entry (p : PostingFields) : String × ℤ := (p.accountId, p.signed)

/-- One posting's update of the balances. -/
def postBalance (balances : Dict String ℤ) (p : PostingFields) : Dict String ℤ :=
  balances.addAt p.entry

namespace Journal

/-- What a transaction does to the journal in memory: the common part of `_record_transaction` and
`_load_from_disk`. -/
def post (j : Journal) (tx : Transaction) : Journal :=
  { j with
    accountTypes := tx.fields.foldl (fun d p => d.set p.accountId p.accountType) j.accountTypes
    balances := tx.fields.foldl postBalance j.balances
    transactions := j.transactions ++ [tx]
    processedEvents := j.processedEvents.insert tx.eventId }

def appendToDisk (j : Journal) (tx : Transaction) : Except Exn Unit × Journal :=
  match j.storage with
  | none => (.ok (), j)
  | some file =>
    if file.appendFails then (.error (.os "journal append failed"), j)
    else (.ok (), { j with storage := some { file with lines := file.lines ++ [tx.toDict] } })

/-- `_record_transaction`: memory first, then the file. -/
def recordTransaction (j : Journal) (tx : Transaction) : Except Exn Unit × Journal :=
  (j.post tx).appendToDisk tx

/-- One line of `_load_from_disk`. -/
def loadLine (line : TransactionDict) : Except Exn Transaction :=
  newTransaction line.txId line.eventId line.createdAt line.description line.postings

/-- `_load_from_disk`, over the lines still to read. -/
def loadLines : List TransactionDict → Journal → Except Exn Journal
  | [], j => .ok j
  | line :: rest, j =>
    match loadLine line with
    | .error e => .error e
    | .ok tx => loadLines rest (j.post tx)

/-- The journal of a ledger that has recorded nothing. -/
def empty (storage : Option Storage) : Journal := ⟨[], [], Dict.empty, Dict.empty, storage⟩

/-- The journal a new `Ledger` object builds from its storage. -/
def open_ (storage : Option Storage) : Except Exn Journal :=
  match storage with
  | none => .ok (empty none)
  | some file => loadLines file.lines (empty (some file))

/-- The balances `reconcile` computes from the transactions alone. -/
def computedBalances (txs : List Transaction) : Dict String ℤ :=
  txs.foldl (fun d tx => tx.fields.foldl postBalance d) Dict.empty

end Journal

/-! ### Holds and the ledger -/

inductive HoldStatus
  | active
  | captured
  | released
  | expired
  deriving DecidableEq

def HoldStatus.text : HoldStatus → String
  | active => "active"
  | captured => "captured"
  | released => "released"
  | expired => "expired"

structure CreditHold where
  holdId : String
  accountId : String
  amountMicroUnits : ℤ
  modelId : String
  createdAt : String
  expiresAt : ℚ
  status : HoldStatus
  deriving DecidableEq

/-- `CreditHold.is_active`. -/
def CreditHold.IsActive (h : CreditHold) (now : ℚ) : Prop := h.status = .active ∧ now < h.expiresAt

instance (h : CreditHold) (now : ℚ) : Decidable (h.IsActive now) :=
  inferInstanceAs (Decidable (_ ∧ _))

structure OwnerCreditHold where
  holdId : String
  ownerId : OwnerId
  amountMicroUnits : ℤ
  allocations : List (Bucket × ℤ)
  purpose : String
  createdAt : String
  expiresAt : ℚ
  status : HoldStatus
  deriving DecidableEq

/-- `OwnerCreditHold.is_active`. -/
def OwnerCreditHold.IsActive (h : OwnerCreditHold) (now : ℚ) : Prop :=
  h.status = .active ∧ now < h.expiresAt

instance (h : OwnerCreditHold) (now : ℚ) : Decidable (h.IsActive now) :=
  inferInstanceAs (Decidable (_ ∧ _))

/-- The classes of the ledger family. -/
inductive LedgerClass
  | ledger
  | ownerCredit
  | gatewayOwnerCredit
  | payoutCapable
  | confidentialEscrow
  | payoutCapableConfidential
  deriving DecidableEq

/-- Whether the class inherits from `GatewayOwnerCreditLedger`, which overrides `get_balance` and
`deposit_customer_credits`. -/
def LedgerClass.isGateway : LedgerClass → Bool
  | ledger | ownerCredit => false
  | gatewayOwnerCredit | payoutCapable | confidentialEscrow | payoutCapableConfidential => true

/-- A ledger object. -/
structure Ledger where
  cls : LedgerClass
  networkFeeBps : ℤ
  operatorTreasuryWallet : String
  journal : Journal
  holds : Dict String CreditHold
  holdsFile : Option (List CreditHold)
  ownerHolds : Dict String OwnerCreditHold

/-- `value or fallback` for an optional text. -/
def orDefault (value : Option String) (fallback : String) : String :=
  match value with
  | none => fallback
  | some s => if s = "" then fallback else s

/-- An optional text inside a formatted message. -/
def optionText (value : Option String) : String := value.getD "None"

namespace Ledger

/-- A new ledger whose files do not exist yet. -/
def fresh (cls : LedgerClass) (networkFeeBps : ℤ) (wallet : String) (storage : Option Storage) :
    Ledger :=
  { cls := cls
    networkFeeBps := networkFeeBps
    operatorTreasuryWallet := wallet
    journal := Journal.empty storage
    holds := Dict.empty
    holdsFile := storage.map fun _ => []
    ownerHolds := Dict.empty }

/-- `_load_holds_from_disk`: the last line of a hold wins, and a stale active hold is expired. -/
def loadHolds (now : ℚ) (lines : List CreditHold) : Dict String CreditHold :=
  lines.foldl (fun d hold =>
    d.set hold.holdId (if hold.status = .active ∧ hold.expiresAt < now then { hold with status := .expired }
       else hold)) Dict.empty

/-- `Ledger.__init__` over the files an earlier object of the same configuration left. -/
def restart (l : Ledger) (env : Env) : Except Exn Ledger :=
  match Journal.open_ l.journal.storage with
  | .error e => .error e
  | .ok journal =>
    .ok { l with
      journal := journal
      holds := loadHolds env.time (l.holdsFile.getD [])
      ownerHolds := Dict.empty }

/-- `Ledger.get_balance`. -/
def rawBalance (l : Ledger) (accountId : String) : ℤ := l.journal.balances.getD accountId 0

/-- `GatewayOwnerCreditLedger._is_demo_account`. -/
def isDemoAccount (accountId : String) : Bool := startsWith accountId "teaser_"

/-- `GatewayOwnerCreditLedger._is_internal_account`. -/
def isInternalAccount (accountId : String) : Bool :=
  ["owner:", "provider:", "revenue:", "expense:", "gateway:", "asset:", "liability:"].any (startsWith accountId)

/-- `GatewayOwnerCreditLedger.get_balance`. -/
def gatewayGetBalance (l : Ledger) (accountId : String) : Except Exn ℤ :=
  if isDemoAccount accountId || isInternalAccount accountId then .ok (l.rawBalance accountId)
  else
    match cleanOwner accountId with
    | .error e => .error e
    | .ok owner =>
      let ownerAccounts := spendOrder.map (ownerBucketAccount owner)
      if ownerAccounts.any l.journal.balances.contains then
        .ok ((ownerAccounts.map fun a => max 0 (l.rawBalance a)).sum)
      else .ok (l.rawBalance accountId)

/-- `self.get_balance`, of whatever class the ledger is. -/
def getBalance (l : Ledger) (accountId : String) : Except Exn ℤ :=
  if l.cls.isGateway then l.gatewayGetBalance accountId else .ok (l.rawBalance accountId)

/-- `_record_transaction`, returning the transaction. -/
def commit (l : Ledger) (tx : Transaction) : Except Exn Transaction × Ledger :=
  match l.journal.recordTransaction tx with
  | (.ok _, journal) => (.ok tx, { l with journal := journal })
  | (.error e, journal) => (.error e, { l with journal := journal })

/-- Build a transaction and record it; nothing is recorded if it cannot be built. -/
def commitNew (l : Ledger) (tx : Except Exn Transaction) : Except Exn Transaction × Ledger :=
  match tx with
  | .error e => (.error e, l)
  | .ok tx => l.commit tx

/-- The hold under `key` replaced by what it has become, then `_persist_hold`. -/
def storeHold (l : Ledger) (key : String) (hold : CreditHold) : Ledger :=
  { l with
    holds := l.holds.set key hold
    holdsFile := l.holdsFile.map (· ++ [hold]) }

/-- The sum `get_available_balance` subtracts: the account's active unexpired holds. -/
def activeHolds (l : Ledger) (now : ℚ) (accountId : String) : ℤ :=
  l.holds.sumBy fun h => if h.accountId = accountId ∧ h.IsActive now then h.amountMicroUnits else 0

def getAvailableBalance (l : Ledger) (now : ℚ) (accountId : String) : Except Exn ℤ :=
  match l.getBalance accountId with
  | .error e => .error e
  | .ok raw => .ok (max 0 (raw - l.activeHolds now accountId))

def createHold (l : Ledger) (env : Env) (accountId : String) (amountMicroUnits : ℤ)
    (modelId : String) (ttlSeconds : ℚ) (holdId : Option String) : Except Exn CreditHold × Ledger :=
  if amountMicroUnits ≤ 0 then (.error (.billing "hold amount must be positive"), l)
  else
    match l.getAvailableBalance env.time accountId with
    | .error e => (.error e, l)
    | .ok avail =>
      if avail < amountMicroUnits then
        (.error (.insufficientBalance
          s!"customer {accountId} available balance ({avail}) insufficient for hold ({amountMicroUnits})"),
          l)
      else
        let hold : CreditHold :=
          { holdId := orDefault holdId ("hold_" ++ env.tokenHex)
            accountId := accountId
            amountMicroUnits := amountMicroUnits
            modelId := modelId
            createdAt := env.isoNow
            expiresAt := env.time + max (1 / 100) ttlSeconds
            status := .active }
        (.ok hold, l.storeHold hold.holdId hold)

def renewHold (l : Ledger) (env : Env) (holdId : String) (additionalSeconds : ℚ) : Bool × Ledger :=
  match l.holds.get? holdId with
  | none => (false, l)
  | some hold =>
    if hold.status = .active then
      (true, l.storeHold holdId { hold with expiresAt := max hold.expiresAt env.time + additionalSeconds })
    else (false, l)

def releaseHold (l : Ledger) (holdId : String) : Bool × Ledger :=
  match l.holds.get? holdId with
  | none => (false, l)
  | some hold =>
    if hold.status = .active then (true, l.storeHold holdId { hold with status := .released })
    else (false, l)

/-! ### Deposits and grants -/

/-- `Ledger.deposit_customer_credits`. -/
def depositCustomerCredits (l : Ledger) (env : Env) (customerAccountId : String)
    (amountMicroUnits : ℤ) (paymentReference : String) : Except Exn Transaction × Ledger :=
  if amountMicroUnits ≤ 0 then (.error (.billing "deposit amount must be positive"), l)
  else
    let eventId := "deposit:" ++ paymentReference
    if eventId ∈ l.journal.processedEvents then
      (.error (.duplicateEvent s!"payment reference {paymentReference} already deposited"), l)
    else
      l.commitNew (newTransaction (txId "dep" eventId) eventId env.isoNow
        s!"Prepaid credit top-up via {paymentReference}"
        [{ accountId := "gateway:escrow", accountType := paymentGatewayEscrow,
           debitMicroUnits := amountMicroUnits },
         { accountId := customerAccountId, accountType := customerDeposit,
           creditMicroUnits := amountMicroUnits }])

def hasReceivedInitialGrant (l : Ledger) (customerAccountId : String) : Bool :=
  l.journal.processedEvents.any fun e => startsWith e ("deposit:initial_grant_" ++ customerAccountId)

end Ledger

/-! ### Job execution -/

/-- The arithmetic of layer ratios: their sum, and `int((pool * ratio) / total)`. -/
class LayerRatio (R : Type) where
  totalShares : List R → R
  shareUnits : ℤ → R → R → Except Exn ℤ

/-- Exact rational ratios, truncated towards zero. -/
instance : LayerRatio ℚ where
  totalShares := List.sum
  shareUnits pool ratio total :=
    if total = 0 then .error (.arithmetic "division by zero")
    else .ok ((pool * ratio / total).num.tdiv (pool * ratio / total).den)

/-- The arguments of `record_job_execution`. -/
structure JobCall (R : Type) where
  jobId : String
  customerAccountId : String
  providerShares : List (String × R)
  modelId : String
  promptTokens : ℤ
  completionTokens : ℤ
  networkFeeBps : Option ℤ

namespace JobCall

variable {R : Type}

def eventId (c : JobCall R) : String := "job:" ++ c.jobId

def charge (c : JobCall R) : ℤ := calculateTokenChargeMicro c.modelId c.promptTokens c.completionTokens

end JobCall

/-- A provider's posting, if its share is positive. -/
def providerPosting (providerId : String) (shareUnits : ℤ) : List PostingFields :=
  if 0 < shareUnits then
    [{ accountId := "provider:" ++ providerId, accountType := providerPayable,
       creditMicroUnits := shareUnits }]
  else []

/-- The provider loop of `record_job_execution`; the last provider gets what is left of the pool. -/
def allocateProviders {R : Type} [LayerRatio R] (pool : ℤ) (total : R) :
    List (String × R) → ℤ → Except Exn (List PostingFields)
  | [], _ => .ok []
  | [(providerId, _)], allocated => .ok (providerPosting providerId (pool - allocated))
  | (providerId, ratio) :: next :: rest, allocated =>
    match LayerRatio.shareUnits pool ratio total with
    | .error e => .error e
    | .ok units =>
      match allocateProviders pool total (next :: rest) (allocated + units) with
      | .error e => .error e
      | .ok fs => .ok (providerPosting providerId units ++ fs)

namespace Ledger

variable {R : Type} [LayerRatio R]

def customerPosting (c : JobCall R) : PostingFields :=
  { accountId := c.customerAccountId, accountType := customerDeposit, debitMicroUnits := c.charge }

/-- The operator's posting of a job, if its fee is positive. -/
def feePosting (networkFee : ℤ) : List PostingFields :=
  if 0 < networkFee then
    [{ accountId := "revenue:network_fee", accountType := networkFeeRevenue,
       creditMicroUnits := networkFee }]
  else []

/-- The first section of `record_job_execution`: the duplicate check. -/
def checkJobEvent (l : Ledger) (c : JobCall R) : Except Exn Unit :=
  if c.eventId ∈ l.journal.processedEvents then
    .error (.duplicateEvent s!"job {c.jobId} already billed")
  else .ok ()

/-- The second section: the charge against the balance read, and the transaction it leads to. -/
def buildJobTransaction (l : Ledger) (env : Env) (c : JobCall R) : Except Exn Transaction :=
  match l.getBalance c.customerAccountId with
  | .error e => .error e
  | .ok customerBalance =>
    if customerBalance < c.charge then
      .error (.insufficientBalance
        s!"customer {c.customerAccountId} balance ({customerBalance}) insufficient for charge ({c.charge})")
    else
      let feeBps := match c.networkFeeBps with
        | none => l.networkFeeBps
        | some bps => max 0 bps
      let networkFee := Int.fdiv (c.charge * feeBps) 10000
      let providerPool := c.charge - networkFee
      match Posting.new (customerPosting c) with
      | .error e => .error e
      | .ok _ =>
        match allocateProviders providerPool
            (LayerRatio.totalShares (c.providerShares.map Prod.snd)) c.providerShares 0 with
        | .error e => .error e
        | .ok providers =>
          newTransaction (txId "job" c.eventId) c.eventId env.isoNow
            s!"Inference execution for {c.jobId} ({c.modelId}, {c.promptTokens}+{c.completionTokens} tokens)"
            (customerPosting c :: (feePosting networkFee ++ providers))

/-- `record_job_execution`, its three sections without anything in between. -/
def recordJobExecution (l : Ledger) (env : Env) (c : JobCall R) : Except Exn Transaction × Ledger :=
  match l.checkJobEvent c with
  | .error e => (.error e, l)
  | .ok () => l.commitNew (l.buildJobTransaction env c)

/-- `capture_hold`; the `finally` block releases a hold whose capture failed. -/
def captureHold (l : Ledger) (env : Env) (holdId : String) (c : JobCall R) : Except Exn Transaction × Ledger :=
  match l.holds.get? holdId with
  | none => (.error (.billing s!"Credit hold '{holdId}' not found"), l)
  | some hold =>
    if hold.status ≠ .active then
      (.error (.billing s!"Credit hold '{holdId}' is not active (status: {hold.status.text})"), l)
    else if hold.accountId ≠ c.customerAccountId then
      (.error (.billing s!"Credit hold '{holdId}' account mismatch ({hold.accountId} != {c.customerAccountId})"), l)
    else if hold.modelId ≠ "" ∧ hold.modelId ≠ c.modelId then
      (.error (.billing s!"Credit hold '{holdId}' model mismatch ({hold.modelId} != {c.modelId})"), l)
    else if ¬hold.IsActive env.time then
      (.error (.billing s!"Credit hold '{holdId}' has expired"), l)
    else
      let close (hold : CreditHold) : Except Exn Transaction × Ledger :=
        match l.recordJobExecution env c with
        | (.ok tx, l') => (.ok tx, l'.storeHold holdId { hold with status := .captured })
        | (.error e, l') => (.error e, l'.storeHold holdId { hold with status := .released })
      if hold.amountMicroUnits < c.charge then
        match l.getAvailableBalance env.time c.customerAccountId with
        | .error e => (.error e, l)
        | .ok avail =>
          let extra := c.charge - hold.amountMicroUnits
          if avail < extra then
            (.error (.insufficientBalance
              (s!"Actual compute charge ({c.charge} µ$) exceeded hold ({hold.amountMicroUnits} µ$) " ++
                s!"and available balance ({avail} µ$) cannot cover extra {extra} µ$")), l)
          else close { hold with amountMicroUnits := c.charge }
      else close hold

end Ledger

/-! ### Payouts and reconciliation -/

structure PayoutSummary where
  payoutId : String
  providerNodeId : String
  amountMicroUnits : ℤ
  walletAddress : String
  createdAt : String

namespace Ledger

/-- The two postings of a payout of the whole balance. -/
def payoutPostings (accountId accountType : String) (balance : ℤ) : List PostingFields :=
  [{ accountId := accountId, accountType := accountType, debitMicroUnits := balance },
   { accountId := "expense:settlements", accountType := payoutSettlement,
     creditMicroUnits := balance }]

/-- A recorded payout with its summary. -/
def withSummary (subject wallet : String) (balance : ℤ) (r : Except Exn Transaction × Ledger) :
    Except Exn (Transaction × PayoutSummary) × Ledger :=
  match r with
  | (.error e, l) => (.error e, l)
  | (.ok tx, l) => (.ok (tx, ⟨tx.txId, subject, balance, wallet, tx.createdAt⟩), l)

def createOperatorTreasuryPayout (l : Ledger) (env : Env) (walletAddress settlementReference : Option String) :
    Except Exn (Transaction × PayoutSummary) × Ledger :=
  let wallet := orDefault walletAddress l.operatorTreasuryWallet
  if wallet = "" then
    (.error (.billing "No operator treasury wallet address specified for payout."), l)
  else
    -- the account has an internal name, so every class reads its raw balance
    let balance := l.rawBalance "revenue:network_fee"
    if balance ≤ 0 then (.error (.billing "Operator network fee treasury balance is zero."), l)
    else
      let eventId := "payout:operator_treasury:" ++ orDefault settlementReference env.tokenHex
      if eventId ∈ l.journal.processedEvents then
        (.error (.duplicateEvent s!"operator settlement {optionText settlementReference} already paid out"), l)
      else
        withSummary "operator_treasury" wallet balance
          (l.commitNew (newTransaction (txId "op_pay" eventId) eventId env.isoNow
            s!"Operator network protocol fee revenue payout to treasury {wallet}"
            (payoutPostings "revenue:network_fee" networkFeeRevenue balance)))

def createProviderPayout (l : Ledger) (env : Env) (providerNodeId walletAddress : String)
    (settlementReference : Option String) : Except Exn (Transaction × PayoutSummary) × Ledger :=
  let providerAccountId := "provider:" ++ providerNodeId
  let balance := l.rawBalance providerAccountId
  if balance < minimumPayoutMicroUnits then
    (.error (.billing s!"provider balance {balance} below minimum payout threshold {minimumPayoutMicroUnits}"), l)
  else
    let eventId := "payout:" ++ providerNodeId ++ ":" ++ orDefault settlementReference env.tokenHex
    if eventId ∈ l.journal.processedEvents then
      (.error (.duplicateEvent s!"provider settlement {optionText settlementReference} already paid out"), l)
    else
      withSummary providerNodeId walletAddress balance
        (l.commitNew (newTransaction (txId "pay" eventId) eventId env.isoNow
          s!"Automated settlement withdrawal to {walletAddress}"
          (payoutPostings providerAccountId providerPayable balance)))

/-- What `reconcile` reports. -/
structure ReconcileReport where
  totalTransactions : ℕ
  totalTurnoverMicroUnits : ℤ
  activeAccounts : ℕ
  auditedAt : String
  deriving DecidableEq

def reconcile (l : Ledger) (env : Env) : Except Exn ReconcileReport :=
  let txs := l.journal.transactions
  let sumDebits := (txs.map fun tx => totalDebits tx.fields).sum
  let sumCredits := (txs.map fun tx => totalCredits tx.fields).sum
  let computed := Journal.computedBalances txs
  if sumDebits ≠ sumCredits then
    .error (.reconciliation s!"global journal imbalance: debits={sumDebits} != credits={sumCredits}")
  else
    match l.journal.balances.entries.find? (fun e => computed.getD e.1 0 != e.2) with
    | some (acc, bal) =>
      .error (.reconciliation s!"account {acc} balance drift: stored={bal} != computed={computed.getD acc 0}")
    | none =>
      .ok ⟨txs.length, sumDebits, l.journal.balances.entries.length, env.isoNow⟩

end Ledger

end ComputeMesh.Billing
