import ComputeMesh.Billing.Ledger

/-!
# Owner credit buckets and owner withdrawals

`owner_credits.py` and the ledger half of `owner_gateway_ledger.py` and `owner_settlement.py`: the three
buckets of an owner, the deposits that fill them, spending in bucket order, in-memory holds that reserve
an allocation, the gateway's deposit adapter, and the two-phase withdrawal of earned credit.

Bucket and withdrawal accounts start with `owner:`, so `self.get_balance` is the raw balance for them in
every class (`getBalance_ownerBucketAccount`), and the operations below read it directly.
-/

namespace ComputeMesh.Billing

open ComputeMesh.Text

structure CreditDestination where
  accountId : String
  accountType : String
  amountMicroUnits : ℤ
  deriving DecidableEq

structure OwnerBalanceSnapshot where
  ownerId : OwnerId
  earnedMicroUnits : ℤ
  purchasedMicroUnits : ℤ
  promoMicroUnits : ℤ
  totalSpendableMicroUnits : ℤ
  withdrawableMicroUnits : ℤ
  availableSpendableMicroUnits : ℤ

structure OwnerSpendResult where
  transaction : Transaction
  spentEarnedMicroUnits : ℤ
  spentPurchasedMicroUnits : ℤ
  spentPromoMicroUnits : ℤ

abbrev allocatedTo (allocations : List (Bucket × ℤ)) (b : Bucket) : ℤ := sumAt allocations b

/-- The loop of `_allocate_spend` and of `capture_owner_hold`: take from each bucket in turn until nothing
remains.  Returns the allocations and what is still missing. -/
def takeInOrder : List (Bucket × ℤ) → ℤ → List (Bucket × ℤ) × ℤ
  | [], remaining => ([], remaining)
  | (b, available) :: rest, remaining =>
    let take := min remaining available
    let left := remaining - take
    let more := if left = 0 then ([], 0) else takeInOrder rest left
    (if take = 0 then more.1 else (b, take) :: more.1, more.2)

def validateDestinations (destinations : List CreditDestination) (amountMicroUnits : ℤ) :
    Except Exn (List CreditDestination) :=
  let total := (destinations.map CreditDestination.amountMicroUnits).sum
  if destinations = [] then .error (.billing "at least one credit destination is required")
  else if ∃ d ∈ destinations, d.accountId = "" ∨ d.accountType = "" ∨ d.amountMicroUnits ≤ 0 then
    .error (.billing "invalid credit destination")
  else if total ≠ amountMicroUnits then
    .error (.billing s!"destination credits ({total}) do not equal spend amount ({amountMicroUnits})")
  else .ok destinations

/-- The debits of the buckets a spend draws on. -/
def bucketDebits (owner : OwnerId) (allocations : List (Bucket × ℤ)) : List PostingFields :=
  allocations.map fun a =>
    { accountId := ownerBucketAccount owner a.1, accountType := a.1.accountType,
      debitMicroUnits := a.2 }

/-- The credits of a spend's destinations. -/
def destinationCredits (destinations : List CreditDestination) : List PostingFields :=
  destinations.map fun d =>
    { accountId := d.accountId, accountType := d.accountType, creditMicroUnits := d.amountMicroUnits }

namespace Ledger

def ensureNewEvent (l : Ledger) (eventId : String) : Except Exn Unit :=
  if eventId ∈ l.journal.processedEvents then
    .error (.duplicateEvent s!"event {quoted eventId} already recorded")
  else .ok ()

def bucketBalance (l : Ledger) (owner : OwnerId) (b : Bucket) : ℤ :=
  l.rawBalance (ownerBucketAccount owner b)

/-- The holds `_reserved_by_bucket` looks at: active ones of the owner, less the excluded one. -/
def Considered (owner : OwnerId) (excludeHoldId : Option String) (h : OwnerCreditHold) : Prop :=
  excludeHoldId ≠ some h.holdId ∧ h.ownerId = owner ∧ h.status = .active

instance (owner : OwnerId) (ex : Option String) (h : OwnerCreditHold) : Decidable (Considered owner ex h) :=
  inferInstanceAs (Decidable (_ ∧ _ ∧ _))

/-- The sums `_reserved_by_bucket` returns. -/
def reservedByBucket (l : Ledger) (now : ℚ) (owner : OwnerId) (excludeHoldId : Option String) (b : Bucket) : ℤ :=
  l.ownerHolds.sumBy fun h =>
    if Considered owner excludeHoldId h ∧ now < h.expiresAt then allocatedTo h.allocations b else 0

/-- The side effect of `_reserved_by_bucket`: the overdue holds it meets become expired. -/
def expireOwnerHolds (l : Ledger) (now : ℚ) (owner : OwnerId) (excludeHoldId : Option String) :
    Ledger :=
  { l with ownerHolds := l.ownerHolds.mapValues fun h =>
      if Considered owner excludeHoldId h ∧ h.expiresAt ≤ now then { h with status := .expired }
      else h }

def getOwnerBalances (l : Ledger) (env : Env) (ownerId : String) : Except Exn OwnerBalanceSnapshot × Ledger :=
  match cleanOwner ownerId with
  | .error e => (.error e, l)
  | .ok owner =>
    let available (b : Bucket) :=
      max 0 (l.bucketBalance owner b - l.reservedByBucket env.time owner none b)
    (.ok
      { ownerId := owner
        earnedMicroUnits := l.bucketBalance owner .earned
        purchasedMicroUnits := l.bucketBalance owner .purchased
        promoMicroUnits := l.bucketBalance owner .promo
        totalSpendableMicroUnits :=
          max 0 (l.bucketBalance owner .earned) + max 0 (l.bucketBalance owner .purchased) +
            max 0 (l.bucketBalance owner .promo)
        withdrawableMicroUnits := available .earned
        availableSpendableMicroUnits := available .earned + available .purchased + available .promo },
      l.expireOwnerHolds env.time owner none)

def ownerWithdrawableMicroUnits (l : Ledger) (env : Env) (ownerId : String) : Except Exn ℤ × Ledger :=
  match l.getOwnerBalances env ownerId with
  | (.error e, l') => (.error e, l')
  | (.ok snapshot, l') => (.ok snapshot.withdrawableMicroUnits, l')

/-! ### Filling the buckets -/

/-- A credit to one bucket against an asset or expense account, the common form of the three deposits. -/
def creditBucket (l : Ledger) (env : Env) (owner : OwnerId) (b : Bucket) (amountMicroUnits : ℤ)
    (tag eventId description sourceAccount sourceType : String) : Except Exn Transaction × Ledger :=
  match l.ensureNewEvent eventId with
  | .error e => (.error e, l)
  | .ok () =>
    l.commitNew (newTransaction (txId tag eventId) eventId env.isoNow description
      [{ accountId := sourceAccount, accountType := sourceType, debitMicroUnits := amountMicroUnits },
       { accountId := ownerBucketAccount owner b, accountType := b.accountType,
         creditMicroUnits := amountMicroUnits }])

def depositOwnerPurchasedCredits (l : Ledger) (env : Env) (ownerId : String) (amountMicroUnits : ℤ)
    (paymentReference : String) : Except Exn Transaction × Ledger :=
  match cleanOwner ownerId with
  | .error e => (.error e, l)
  | .ok owner =>
    if amountMicroUnits ≤ 0 then (.error (.billing "purchased credit amount must be positive"), l)
    else if strip paymentReference = "" then (.error (.billing "payment_reference is required"), l)
    else
      l.creditBucket env owner .purchased amountMicroUnits "owner_purchase"
        ("owner-purchase:" ++ strip paymentReference)
        s!"Purchased ComputeMesh credits for owner {owner.val}" "gateway:escrow" paymentGatewayEscrow

def grantOwnerPromoCredits (l : Ledger) (env : Env) (ownerId : String) (amountMicroUnits : ℤ)
    (grantReference policyVersion : String) : Except Exn Transaction × Ledger :=
  match cleanOwner ownerId with
  | .error e => (.error e, l)
  | .ok owner =>
    if amountMicroUnits ≤ 0 then (.error (.billing "promo credit amount must be positive"), l)
    else if strip grantReference = "" ∨ strip policyVersion = "" then
      (.error (.billing "grant_reference and policy_version are required"), l)
    else
      let policy := strip policyVersion
      l.creditBucket env owner .promo amountMicroUnits "owner_promo"
        ("owner-promo:" ++ strip grantReference) s!"Promo grant {policy} for owner {owner.val}"
        "expense:promo_grants" promoGrantExpense

def creditOwnerEarnedCredits (l : Ledger) (env : Env) (ownerId : String) (amountMicroUnits : ℤ)
    (earningReference description : String) : Except Exn Transaction × Ledger :=
  match cleanOwner ownerId with
  | .error e => (.error e, l)
  | .ok owner =>
    if amountMicroUnits ≤ 0 then (.error (.billing "earned credit amount must be positive"), l)
    else if strip earningReference = "" then (.error (.billing "earning_reference is required"), l)
    else
      l.creditBucket env owner .earned amountMicroUnits "owner_earning"
        ("owner-earning:" ++ strip earningReference) s!"{description} for owner {owner.val}"
        "expense:provider_earnings" providerEarningsExpense

/-- `GatewayOwnerCreditLedger.deposit_customer_credits`. -/
def gatewayDepositCustomerCredits (l : Ledger) (env : Env) (customerAccountId : String)
    (amountMicroUnits : ℤ) (paymentReference : String) : Except Exn Transaction × Ledger :=
  if isDemoAccount customerAccountId then
    l.depositCustomerCredits env customerAccountId amountMicroUnits paymentReference
  else l.depositOwnerPurchasedCredits env customerAccountId amountMicroUnits paymentReference

/-! ### Spending -/

def allocateSpend (l : Ledger) (env : Env) (owner : OwnerId) (amountMicroUnits : ℤ)
    (excludeHoldId : Option String) : Except Exn (List (Bucket × ℤ)) × Ledger :=
  if amountMicroUnits ≤ 0 then (.error (.billing "spend amount must be positive"), l)
  else
    let available (b : Bucket) :=
      max 0 (l.bucketBalance owner b - l.reservedByBucket env.time owner excludeHoldId b)
    let l' := l.expireOwnerHolds env.time owner excludeHoldId
    let taken := takeInOrder (spendOrder.map fun b => (b, available b)) amountMicroUnits
    if taken.2 ≠ 0 then
      let availableTotal := amountMicroUnits - taken.2
      (.error (.insufficientBalance
        s!"owner {owner.val} available balance ({availableTotal}) insufficient for spend ({amountMicroUnits})"),
        l')
    else (.ok taken.1, l')

def recordOwnerSpend (l : Ledger) (env : Env) (owner : OwnerId) (allocations : List (Bucket × ℤ))
    (destinations : List CreditDestination) (eventId description : String) :
    Except Exn OwnerSpendResult × Ledger :=
  match l.ensureNewEvent eventId with
  | .error e => (.error e, l)
  | .ok () =>
    match l.commitNew (newTransaction (txId "owner_spend" eventId) eventId env.isoNow description
        (bucketDebits owner allocations ++ destinationCredits destinations)) with
    | (.error e, l') => (.error e, l')
    | (.ok tx, l') =>
      (.ok ⟨tx, allocatedTo allocations .earned, allocatedTo allocations .purchased,
        allocatedTo allocations .promo⟩, l')

def spendOwnerCredits (l : Ledger) (env : Env) (ownerId : String) (amountMicroUnits : ℤ)
    (destinations : List CreditDestination) (spendReference description : String) :
    Except Exn OwnerSpendResult × Ledger :=
  match cleanOwner ownerId with
  | .error e => (.error e, l)
  | .ok owner =>
    if strip spendReference = "" then (.error (.billing "spend_reference is required"), l)
    else
      match validateDestinations destinations amountMicroUnits with
      | .error e => (.error e, l)
      | .ok items =>
        match l.allocateSpend env owner amountMicroUnits none with
        | (.error e, l') => (.error e, l')
        | (.ok allocations, l') =>
          l'.recordOwnerSpend env owner allocations items ("owner-spend:" ++ strip spendReference) description

/-! ### Owner holds -/

/-- The hold under `key` replaced by what it has become. -/
def storeOwnerHold (l : Ledger) (key : String) (hold : OwnerCreditHold) : Ledger :=
  { l with ownerHolds := l.ownerHolds.set key hold }

def createOwnerHold (l : Ledger) (env : Env) (ownerId : String) (amountMicroUnits : ℤ)
    (purpose : String) (ttlSeconds : ℚ) (holdId : Option String) :
    Except Exn OwnerCreditHold × Ledger :=
  match cleanOwner ownerId with
  | .error e => (.error e, l)
  | .ok owner =>
    match l.allocateSpend env owner amountMicroUnits none with
    | (.error e, l') => (.error e, l')
    | (.ok allocations, l') =>
      let hid := orDefault holdId ("owner_hold_" ++ env.tokenHex)
      if l'.ownerHolds.contains hid then
        (.error (.billing s!"owner hold {quoted hid} already exists"), l')
      else
        let hold : OwnerCreditHold :=
          { holdId := hid
            ownerId := owner
            amountMicroUnits := amountMicroUnits
            allocations := allocations
            purpose := orDefault (some purpose) "inference"
            createdAt := env.isoNow
            expiresAt := env.time + max 5 ttlSeconds
            status := .active }
        (.ok hold, l'.storeOwnerHold hid hold)

def releaseOwnerHold (l : Ledger) (holdId : String) : Bool × Ledger :=
  match l.ownerHolds.get? holdId with
  | none => (false, l)
  | some hold =>
    if hold.status ≠ .active then (false, l)
    else (true, l.storeOwnerHold holdId { hold with status := .released })

/-- The allocations a capture spends: a part of the hold's own, or a fresh allocation if the actual
amount is above the held one. -/
def captureAllocations (l : Ledger) (env : Env) (hold : OwnerCreditHold) (actualAmountMicroUnits : ℤ) :
    Except Exn (List (Bucket × ℤ)) × Ledger :=
  if actualAmountMicroUnits ≤ hold.amountMicroUnits then
    (.ok (takeInOrder hold.allocations actualAmountMicroUnits).1, l)
  else l.allocateSpend env hold.ownerId actualAmountMicroUnits (some hold.holdId)

def captureOwnerHold (l : Ledger) (env : Env) (holdId : String) (actualAmountMicroUnits : ℤ)
    (destinations : List CreditDestination) (spendReference description : String) :
    Except Exn OwnerSpendResult × Ledger :=
  if strip spendReference = "" then (.error (.billing "spend_reference is required"), l)
  else if actualAmountMicroUnits ≤ 0 then (.error (.billing "actual spend must be positive"), l)
  else
    match validateDestinations destinations actualAmountMicroUnits with
    | .error e => (.error e, l)
    | .ok items =>
      match l.ownerHolds.get? holdId with
      | none => (.error (.billing s!"owner hold {quoted holdId} not found"), l)
      | some hold =>
        if hold.status ≠ .active then
          (.error (.billing s!"owner hold {quoted holdId} is not active"), l)
        else if ¬hold.IsActive env.time then
          (.error (.billing s!"owner hold {quoted holdId} has expired"),
            l.storeOwnerHold holdId { hold with status := .expired })
        else
          match l.captureAllocations env hold actualAmountMicroUnits with
          | (.error e, l') => (.error e, l')
          | (.ok selected, l') =>
            match l'.recordOwnerSpend env hold.ownerId selected items
                ("owner-spend:" ++ strip spendReference) description with
            | (.error e, l'') => (.error e, l'')
            | (.ok result, l'') => (.ok result, l''.storeOwnerHold holdId { hold with status := .captured })

/-! ### Withdrawals of earned credit -/

def ownerWithdrawalPendingMicroUnits (l : Ledger) (ownerId : String) : Except Exn ℤ :=
  match pendingAccount ownerId with
  | .error e => .error e
  | .ok account => .ok (l.rawBalance account)

def reserveOwnerWithdrawal (l : Ledger) (env : Env) (ownerId : String) (amountMicroUnits : ℤ)
    (settlementReference : String) : Except Exn Transaction × Ledger :=
  let owner := strip ownerId
  let reference := strip settlementReference
  if owner = "" ∨ reference = "" then
    (.error (.billing "owner_id and settlement_reference are required"), l)
  else if amountMicroUnits ≤ 0 then (.error (.billing "withdrawal amount must be positive"), l)
  else
    let eventId := "owner-withdrawal-reserve:" ++ reference
    match l.ensureNewEvent eventId with
    | .error e => (.error e, l)
    | .ok () =>
      match l.ownerWithdrawableMicroUnits env owner with
      | (.error e, l') => (.error e, l')
      | (.ok withdrawable, l') =>
        if withdrawable < amountMicroUnits then
          (.error (.insufficientBalance (s!"owner {owner} withdrawable earned balance ({withdrawable}) " ++
              s!"is below requested withdrawal ({amountMicroUnits})")), l')
        else
          match cleanOwner owner with
          | .error e => (.error e, l')
          | .ok cleaned =>
            l'.commitNew (newTransaction (txId "owner_withdraw_reserve" eventId) eventId env.isoNow
              s!"Reserve owner earned credits for Stripe settlement {reference}"
              [{ accountId := ownerBucketAccount cleaned .earned, accountType := ownerEarned,
                 debitMicroUnits := amountMicroUnits },
               { accountId := pendingAccountOf owner, accountType := ownerWithdrawalPending,
                 creditMicroUnits := amountMicroUnits }])

def finalizeOwnerWithdrawal (l : Ledger) (env : Env) (ownerId : String) (amountMicroUnits : ℤ)
    (settlementReference : String) : Except Exn Transaction × Ledger :=
  let owner := strip ownerId
  let reference := strip settlementReference
  if amountMicroUnits ≤ 0 then (.error (.billing "withdrawal amount must be positive"), l)
  else
    let eventId := "owner-withdrawal-finalize:" ++ reference
    match l.ensureNewEvent eventId with
    | .error e => (.error e, l)
    | .ok () =>
      match l.ownerWithdrawalPendingMicroUnits owner with
      | .error e => (.error e, l)
      | .ok pending =>
        if pending < amountMicroUnits then
          (.error (.billing (s!"owner {owner} pending withdrawal balance ({pending}) is below " ++
              s!"settlement amount ({amountMicroUnits})")), l)
        else
          l.commitNew (newTransaction (txId "owner_withdraw_final" eventId) eventId env.isoNow
            s!"Finalize owner Stripe settlement {reference}"
            [{ accountId := pendingAccountOf owner, accountType := ownerWithdrawalPending,
               debitMicroUnits := amountMicroUnits },
             { accountId := "gateway:escrow", accountType := paymentGatewayEscrow,
               creditMicroUnits := amountMicroUnits }])

/-- `cancel_owner_withdrawal`; the pending balance is read and not used. -/
def cancelOwnerWithdrawal (l : Ledger) (env : Env) (ownerId : String) (amountMicroUnits : ℤ)
    (settlementReference : String) : Except Exn Transaction × Ledger :=
  let owner := strip ownerId
  let reference := strip settlementReference
  if amountMicroUnits ≤ 0 then (.error (.billing "withdrawal amount must be positive"), l)
  else
    let eventId := "owner-withdrawal-cancel:" ++ reference
    match l.ensureNewEvent eventId with
    | .error e => (.error e, l)
    | .ok () =>
      match l.ownerWithdrawalPendingMicroUnits owner with
      | .error e => (.error e, l)
      | .ok _ =>
        match cleanOwner owner with
        | .error e => (.error e, l)
        | .ok cleaned =>
          l.commitNew (newTransaction (txId "owner_withdraw_cancel" eventId) eventId env.isoNow
            s!"Cancel owner Stripe settlement reservation {reference}"
            [{ accountId := pendingAccountOf owner, accountType := ownerWithdrawalPending,
               debitMicroUnits := amountMicroUnits },
             { accountId := ownerBucketAccount cleaned .earned, accountType := ownerEarned,
               creditMicroUnits := amountMicroUnits }])

end Ledger

end ComputeMesh.Billing
