import ComputeMesh.Billing.OwnerCredits

/-!
# Confidential-job escrow

`confidential_escrow.py`: a reservation moves owner credit, bucket by bucket, into sub-accounts of the
reservation; a settlement consumes the charge and refunds the rest, a release returns everything.  The
state of a reservation is stored nowhere: it is read back from the journal, by searching for its events
and summing the postings of its reserve transaction.
-/

namespace ComputeMesh.Billing

open ComputeMesh.Text

inductive ReservationState
  | reserved
  | settled
  | released
  deriving DecidableEq

structure ConfidentialCreditReservation where
  reservationId : ReservationId
  ownerId : OwnerId
  amountMicroUnits : ℤ
  allocations : List (Bucket × ℤ)
  reserveTransaction : Transaction
  state : ReservationState

structure ConfidentialCreditSettlement where
  reservation : ConfidentialCreditReservation
  transaction : Transaction
  chargedMicroUnits : ℤ
  refundedMicroUnits : ℤ
  spentEarnedMicroUnits : ℤ
  spentPurchasedMicroUnits : ℤ
  spentPromoMicroUnits : ℤ

def reserveEvent (ref : ReservationId) : String := "confidential-reserve:" ++ ref.val

def settleEvent (ref : ReservationId) : String := "confidential-settle:" ++ ref.val

def releaseEvent (ref : ReservationId) : String := "confidential-release:" ++ ref.val

/-- The debits of one account among the postings of a transaction. -/
def debitsOf (fs : List PostingFields) (accountId : String) : ℤ :=
  sumAt (fs.map fun p => (p.accountId, p.debitMicroUnits)) accountId

/-- The credits of one account among the postings of a transaction. -/
def creditsOf (fs : List PostingFields) (accountId : String) : ℤ :=
  sumAt (fs.map fun p => (p.accountId, p.creditMicroUnits)) accountId

/-- The bucket loop of `_reservation_from_transaction`. -/
def readAllocations (owner : OwnerId) (ref : ReservationId) (fs : List PostingFields) :
    List Bucket → Except Exn (List (Bucket × ℤ))
  | [] => .ok []
  | b :: rest =>
    let debit := debitsOf fs (ownerBucketAccount owner b)
    let credit := creditsOf fs (confidentialReservationAccount owner ref b)
    if debit ≠ credit then
      .error (.billing "confidential reservation journal provenance is inconsistent")
    else
      match readAllocations owner ref fs rest with
      | .error e => .error e
      | .ok allocations => .ok (if debit = 0 then allocations else (b, debit) :: allocations)

/-- The postings that move an allocation from the buckets into the sub-accounts. -/
def reservePostings (owner : OwnerId) (ref : ReservationId) (allocations : List (Bucket × ℤ)) :
    List PostingFields :=
  allocations.flatMap fun a =>
    [{ accountId := ownerBucketAccount owner a.1, accountType := a.1.accountType,
       debitMicroUnits := a.2 },
     { accountId := confidentialReservationAccount owner ref a.1,
       accountType := ownerConfidentialReservation, creditMicroUnits := a.2 }]

/-- The postings that move an allocation back. -/
def releasePostings (owner : OwnerId) (ref : ReservationId) (allocations : List (Bucket × ℤ)) :
    List PostingFields :=
  allocations.flatMap fun a =>
    [{ accountId := confidentialReservationAccount owner ref a.1,
       accountType := ownerConfidentialReservation, debitMicroUnits := a.2 },
     { accountId := ownerBucketAccount owner a.1, accountType := a.1.accountType,
       creditMicroUnits := a.2 }]

/-- The bucket loop of `settle_confidential_reservation`: the postings, and the part of the charge that
the allocations left do not cover. -/
def settlePostings (owner : OwnerId) (ref : ReservationId) :
    List (Bucket × ℤ) → ℤ → List PostingFields × ℤ
  | [], remaining => ([], remaining)
  | (b, reservedAmount) :: rest, remaining =>
    let charge := min remaining reservedAmount
    let refund := reservedAmount - charge
    let more := settlePostings owner ref rest (remaining - charge)
    ({ accountId := confidentialReservationAccount owner ref b,
       accountType := ownerConfidentialReservation, debitMicroUnits := reservedAmount } ::
      ((if refund = 0 then []
        else [{ accountId := ownerBucketAccount owner b, accountType := b.accountType,
                creditMicroUnits := refund }]) ++ more.1), more.2)

/-- What the settlement loop charges to a bucket. -/
def spentFrom : List (Bucket × ℤ) → ℤ → Bucket → ℤ
  | [], _, _ => 0
  | (b, reservedAmount) :: rest, remaining, b' =>
    (if b = b' then min remaining reservedAmount else 0) +
      spentFrom rest (remaining - min remaining reservedAmount) b'

namespace Ledger

def transactionForEvent (l : Ledger) (eventId : String) : Option Transaction :=
  l.journal.transactions.reverse.find? fun tx => tx.eventId = eventId

def reservationFromTransaction (l : Ledger) (owner : OwnerId) (ref : ReservationId) (tx : Transaction) :
    Except Exn ConfidentialCreditReservation :=
  match readAllocations owner ref tx.fields spendOrder with
  | .error e => .error e
  | .ok allocations =>
    let total := (allocations.map Prod.snd).sum
    if total ≤ 0 then
      .error (.billing "confidential reservation journal contains no owner credit allocation")
    else
      .ok
        { reservationId := ref
          ownerId := owner
          amountMicroUnits := total
          allocations := allocations
          reserveTransaction := tx
          state :=
            if (l.transactionForEvent (settleEvent ref)).isSome then .settled
            else if (l.transactionForEvent (releaseEvent ref)).isSome then .released
            else .reserved }

/-- `get_confidential_reservation`, on cleaned ids. -/
def getConfidentialReservation (l : Ledger) (owner : OwnerId) (ref : ReservationId) :
    Except Exn (Option ConfidentialCreditReservation) :=
  match l.transactionForEvent (reserveEvent ref) with
  | none => .ok none
  | some tx =>
    match l.reservationFromTransaction owner ref tx with
    | .error e => .error e
    | .ok reservation => .ok (some reservation)

def reserveConfidentialCredits (l : Ledger) (env : Env) (ownerId reservationId : String)
    (amountMicroUnits : ℤ) : Except Exn ConfidentialCreditReservation × Ledger :=
  match cleanOwner ownerId, cleanReservationId reservationId with
  | .error e, _ => (.error e, l)
  | .ok _, .error e => (.error e, l)
  | .ok owner, .ok ref =>
    if amountMicroUnits ≤ 0 then
      (.error (.billing "confidential reservation amount must be positive"), l)
    else
      match l.transactionForEvent (reserveEvent ref) with
      | some existing =>
        match l.reservationFromTransaction owner ref existing with
        | .error e => (.error e, l)
        | .ok reservation =>
          if reservation.amountMicroUnits ≠ amountMicroUnits then
            (.error (.billing "confidential reservation retry amount mismatch"), l)
          else (.ok reservation, l)
      | none =>
        match l.allocateSpend env owner amountMicroUnits none with
        | (.error e, l') => (.error e, l')
        | (.ok allocations, l') =>
          match l'.commitNew (newTransaction (txId "conf_reserve" (reserveEvent ref)) (reserveEvent ref)
              env.isoNow s!"Reserve owner credits for confidential job {ref.val}"
              (reservePostings owner ref allocations)) with
          | (.error e, l'') => (.error e, l'')
          | (.ok tx, l'') => (l''.reservationFromTransaction owner ref tx, l'')

/-- Whether every sub-account still holds what was moved into it. -/
def SubAccountsMatch (l : Ledger) (owner : OwnerId) (ref : ReservationId)
    (allocations : List (Bucket × ℤ)) : Prop :=
  ∀ a ∈ allocations, l.rawBalance (confidentialReservationAccount owner ref a.1) = a.2

instance (l : Ledger) (owner : OwnerId) (ref : ReservationId) (allocations : List (Bucket × ℤ)) :
    Decidable (l.SubAccountsMatch owner ref allocations) :=
  inferInstanceAs (Decidable (∀ a ∈ allocations, _))

def releaseConfidentialReservation (l : Ledger) (env : Env) (ownerId reservationId : String) :
    Except Exn Transaction × Ledger :=
  match cleanOwner ownerId, cleanReservationId reservationId with
  | .error e, _ => (.error e, l)
  | .ok _, .error e => (.error e, l)
  | .ok owner, .ok ref =>
    match l.transactionForEvent (releaseEvent ref) with
    | some existing => (.ok existing, l)
    | none =>
      if (l.transactionForEvent (settleEvent ref)).isSome then
        (.error (.billing "settled confidential reservation cannot be released"), l)
      else
        match l.getConfidentialReservation owner ref with
        | .error e => (.error e, l)
        | .ok none => (.error (.billing "confidential reservation not found"), l)
        | .ok (some reservation) =>
          if l.SubAccountsMatch owner ref reservation.allocations then
            l.commitNew (newTransaction (txId "conf_release" (releaseEvent ref)) (releaseEvent ref)
              env.isoNow s!"Release confidential job reservation {ref.val}"
              (releasePostings owner ref reservation.allocations))
          else (.error (.billing "confidential reservation balance is inconsistent"), l)

def settlementResultFromTransaction (l : Ledger) (reservation : ConfidentialCreditReservation)
    (tx : Transaction) (actualAmountMicroUnits : ℤ) (destinations : List CreditDestination) :
    Except Exn ConfidentialCreditSettlement :=
  let destinationCredit := ((tx.fields.filter fun p =>
    destinations.any fun d => p.accountId = d.accountId ∧ p.accountType = d.accountType).map
      PostingFields.creditMicroUnits).sum
  if destinationCredit ≠ actualAmountMicroUnits then
    .error (.billing "confidential settlement retry does not match recorded charge")
  else
    let refunded (b : Bucket) := creditsOf tx.fields (ownerBucketAccount reservation.ownerId b)
    if ∃ a ∈ reservation.allocations, a.2 < refunded a.1 then
      .error (.billing "confidential settlement refund is inconsistent")
    else
      match l.reservationFromTransaction reservation.ownerId reservation.reservationId
          reservation.reserveTransaction with
      | .error e => .error e
      | .ok current =>
        let spent (b : Bucket) :=
          ((reservation.allocations.filter fun a => a.1 = b).map fun a => a.2 - refunded b).sum
        .ok
          { reservation := current
            transaction := tx
            chargedMicroUnits := actualAmountMicroUnits
            refundedMicroUnits := reservation.amountMicroUnits - actualAmountMicroUnits
            spentEarnedMicroUnits := spent .earned
            spentPurchasedMicroUnits := spent .purchased
            spentPromoMicroUnits := spent .promo }

def settleConfidentialReservation (l : Ledger) (env : Env) (ownerId reservationId : String)
    (actualAmountMicroUnits : ℤ) (destinations : List CreditDestination) :
    Except Exn ConfidentialCreditSettlement × Ledger :=
  match cleanOwner ownerId, cleanReservationId reservationId with
  | .error e, _ => (.error e, l)
  | .ok _, .error e => (.error e, l)
  | .ok owner, .ok ref =>
    if actualAmountMicroUnits ≤ 0 then
      (.error (.billing "confidential settlement amount must be positive"), l)
    else
      match validateDestinations destinations actualAmountMicroUnits with
      | .error e => (.error e, l)
      | .ok items =>
        match l.getConfidentialReservation owner ref with
        | .error e => (.error e, l)
        | .ok none => (.error (.billing "confidential reservation not found"), l)
        | .ok (some reservation) =>
          match l.transactionForEvent (settleEvent ref) with
          | some existing =>
            (l.settlementResultFromTransaction reservation existing actualAmountMicroUnits items, l)
          | none =>
            if (l.transactionForEvent (releaseEvent ref)).isSome then
              (.error (.billing "released confidential reservation cannot be settled"), l)
            else if reservation.amountMicroUnits < actualAmountMicroUnits then
              (.error (.billing "confidential usage exceeds pre-authorized reservation"), l)
            else if ¬l.SubAccountsMatch owner ref reservation.allocations then
              (.error (.billing "confidential reservation balance is inconsistent"), l)
            else
              let taken := settlePostings owner ref reservation.allocations actualAmountMicroUnits
              if taken.2 ≠ 0 then
                (.error (.billing "confidential reservation could not cover actual charge"), l)
              else
                match l.commitNew (newTransaction (txId "conf_settle" (settleEvent ref))
                    (settleEvent ref) env.isoNow s!"Settle confidential job reservation {ref.val}"
                    (taken.1 ++ destinationCredits items)) with
                | (.error e, l') => (.error e, l')
                | (.ok tx, l') =>
                  match l'.reservationFromTransaction owner ref reservation.reserveTransaction with
                  | .error e => (.error e, l')
                  | .ok current =>
                    let spent := spentFrom reservation.allocations actualAmountMicroUnits
                    (.ok
                      { reservation := current
                        transaction := tx
                        chargedMicroUnits := actualAmountMicroUnits
                        refundedMicroUnits := reservation.amountMicroUnits - actualAmountMicroUnits
                        spentEarnedMicroUnits := spent .earned
                        spentPurchasedMicroUnits := spent .purchased
                        spentPromoMicroUnits := spent .promo }, l')

end Ledger

end ComputeMesh.Billing
