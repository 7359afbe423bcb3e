import ComputeMesh.Lib.Sha256
import ComputeMesh.Lib.Text

/-!
# Ledger accounts: names, types and the ids they are made of

Every ledger account is a plain string.  `owner_credits.py`, `owner_settlement.py` and
`confidential_escrow.py` each format their own, from owner ids and reservation ids that are only stripped
and bounded in length.  This file holds the formats, the checked ids they start from and the exceptions
the billing code raises, and settles **when two formatted accounts are the same string**:

* `ownerBucketAccount_inj` — two owner buckets share an account only if owner and bucket agree;
* `pendingAccountOf_ne_ownerBucketAccount` — a withdrawal-pending account is never a bucket;
* `reservationAccount_eq_ownerBucketAccount_iff` — a reservation sub-account **is** the bucket of the
  owner whose id spells out the reserving owner and the suffix of the reservation: ids may contain colons,
  so the format does not separate the two;
* `reservationAccount_inj` — reservation sub-accounts separate owners, suffixes and buckets.
-/

namespace ComputeMesh.Billing

open ComputeMesh.Text ComputeMesh.Sha256

/-- The exceptions of the billing code, with their messages. -/
inductive Exn
  | billing (message : String)
  | insufficientBalance (message : String)
  | duplicateEvent (message : String)
  | reconciliation (message : String)
  | accountingStore (message : String)
  | stripe (message : String)
  | os (message : String)
  | arithmetic (message : String)
  | value (message : String)
  deriving DecidableEq

/-- `str(exc)`. -/
def Exn.text : Exn → String
  | .billing m | .insufficientBalance m | .duplicateEvent m | .reconciliation m | .accountingStore m
  | .stripe m | .os m | .arithmetic m | .value m => m

/-! ### Account types -/

/-- `AccountType`. -/
def customerDeposit : String := "liability:customer_deposit"
def providerPayable : String := "liability:provider_payable"
def networkFeeRevenue : String := "revenue:network_fee"
def paymentGatewayEscrow : String := "asset:payment_gateway_escrow"
def payoutSettlement : String := "expense:payout_settlement"

/-- The account types of `owner_credits.py`, `owner_settlement.py` and `confidential_escrow.py`. -/
def ownerEarned : String := "liability:owner_earned_credit"
def ownerPurchased : String := "liability:owner_purchased_credit"
def ownerPromo : String := "liability:owner_promo_credit"
def promoGrantExpense : String := "expense:promo_grants"
def providerEarningsExpense : String := "expense:provider_earnings"
def ownerWithdrawalPending : String := "liability:owner_withdrawal_pending"
def ownerConfidentialReservation : String := "liability:owner_confidential_reservation"

/-- The substring test that decides the sign of a posting: credits increase liabilities and revenues. -/
def creditIncreases (accountType : String) : Bool :=
  hasText "liability" accountType || hasText "revenue" accountType

/-- The three credit buckets of an owner. -/
inductive Bucket
  | earned
  | purchased
  | promo
  deriving DecidableEq

namespace Bucket

def name : Bucket → String
  | earned => "earned"
  | purchased => "purchased"
  | promo => "promo"

/-- `_BUCKET_TYPES`. -/
def accountType : Bucket → String
  | earned => ownerEarned
  | purchased => ownerPurchased
  | promo => ownerPromo

end Bucket

def spendOrder : List Bucket := [.earned, .purchased, .promo]

@[simp] theorem creditIncreases_bucket (b : Bucket) : creditIncreases b.accountType = true := by
  cases b <;> decide

@[simp] theorem creditIncreases_customerDeposit : creditIncreases customerDeposit = true := by decide

@[simp] theorem creditIncreases_providerPayable : creditIncreases providerPayable = true := by decide

@[simp] theorem creditIncreases_networkFeeRevenue : creditIncreases networkFeeRevenue = true := by
  decide

@[simp] theorem creditIncreases_paymentGatewayEscrow : creditIncreases paymentGatewayEscrow = false := by
  decide

@[simp] theorem creditIncreases_ownerEarned : creditIncreases ownerEarned = true := by decide

@[simp] theorem creditIncreases_ownerWithdrawalPending : creditIncreases ownerWithdrawalPending = true := by
  decide

@[simp] theorem creditIncreases_ownerConfidentialReservation :
    creditIncreases ownerConfidentialReservation = true := by
  decide

theorem nodup_spendOrder : spendOrder.Nodup := by decide

theorem mem_spendOrder (b : Bucket) : b ∈ spendOrder := by
  cases b <;> decide

/-! ### Checked ids -/

/-- An owner id as `_clean_owner` returns it: stripped, not empty, at most 256 characters. -/
structure OwnerId where
  val : String
  stripped : strip val = val
  nonempty : val ≠ ""
  short : val.length ≤ 256
  deriving DecidableEq

theorem OwnerId.ext_val {o p : OwnerId} (h : o.val = p.val) : o = p := by
  cases o
  cases p
  simpa using h

def cleanOwner (ownerId : String) : Except Exn OwnerId :=
  let result := strip ownerId
  if hempty : result = "" then .error (.billing "owner_id is required")
  else if hlong : 256 < result.length then .error (.billing "owner_id is too long")
  else .ok ⟨result, strip_strip ownerId, hempty, by omega⟩

theorem cleanOwner_ok {ownerId : String} {o : OwnerId} (h : cleanOwner ownerId = .ok o) : o.val = strip ownerId := by
  simp only [cleanOwner] at h
  split at h
  · cases h
  · split at h
    · cases h
    · cases h
      rfl

@[simp] theorem cleanOwner_val (o : OwnerId) : cleanOwner o.val = .ok o := by
  unfold cleanOwner
  have hs := o.stripped
  have hlong : ¬256 < (strip o.val).length := by
    rw [hs]
    exact not_lt.mpr o.short
  have hne : strip o.val ≠ "" := by
    rw [hs]
    exact o.nonempty
  rw [dif_neg hne, dif_neg hlong]
  exact congrArg Except.ok (OwnerId.ext_val hs)

/-- A reservation id as `_clean_reservation_id` returns it. -/
structure ReservationId where
  val : String
  stripped : strip val = val
  nonempty : val ≠ ""
  short : val.length ≤ 256
  deriving DecidableEq

theorem ReservationId.ext_val {r s : ReservationId} (h : r.val = s.val) : r = s := by
  cases r
  cases s
  simpa using h

def cleanReservationId (reservationId : String) : Except Exn ReservationId :=
  let value := strip reservationId
  if h : value = "" ∨ 256 < value.length then
    .error (.billing "reservation_id is required and must be <= 256 characters")
  else
    .ok ⟨value, strip_strip reservationId, fun he => h (.inl he), by
      have := fun hl => h (.inr hl)
      omega⟩

theorem cleanReservationId_ok {reservationId : String} {r : ReservationId}
    (h : cleanReservationId reservationId = .ok r) : r.val = strip reservationId := by
  simp only [cleanReservationId] at h
  split at h
  · cases h
  · cases h
    rfl

/-! ### Account formats -/

/-- `owner_bucket_account`, on a cleaned owner id. -/
def ownerBucketAccount (owner : OwnerId) (b : Bucket) : String :=
  "owner:" ++ owner.val ++ ":" ++ b.name

/-- The account `_pending_account` formats, on a stripped owner id. -/
def pendingAccountOf (owner : String) : String := "owner:" ++ owner ++ ":withdrawal_pending"

def pendingAccount (ownerId : String) : Except Exn String :=
  let owner := strip ownerId
  if owner = "" then .error (.billing "owner_id is required") else .ok (pendingAccountOf owner)

def reservationSuffix (reservationId : String) : String := firstChars 24 (sha256Hex reservationId)

/-- The owner id whose buckets have the accounts of a reservation of `owner` with this suffix. -/
def reservationSubject (owner : OwnerId) (ref : ReservationId) : String :=
  owner.val ++ ":confidential_reservation:" ++ reservationSuffix ref.val

/-- `confidential_reservation_account`, on cleaned ids. -/
def confidentialReservationAccount (owner : OwnerId) (ref : ReservationId) (b : Bucket) : String :=
  "owner:" ++ reservationSubject owner ref ++ ":" ++ b.name

/-- `_tx_id` and `_event_tx_id`. -/
def txId (tag eventId : String) : String :=
  "tx_" ++ tag ++ "_" ++ firstChars 16 (sha256Hex eventId)

/-! ### When two accounts are the same string -/

theorem length_reservationSuffix (ref : String) : (reservationSuffix ref).toList.length = 24 := by
  apply length_firstChars
  rw [length_sha256Hex]
  omega

/-- The shape all owner accounts share separates the middle part from a bucket name. -/
theorem bucketFormat_inj {x y : String} {b c : Bucket}
    (h : "owner:" ++ x ++ ":" ++ b.name = "owner:" ++ y ++ ":" ++ c.name) : x = y ∧ b = c := by
  have hrev := congrArg (fun s : String => s.toList.reverse) h
  -- the two names differ within their last three characters unless they are the same bucket
  have hbc : b = c := by
    cases b <;> cases c <;> simp [Bucket.name] at hrev ⊢
  subst hbc
  refine ⟨?_, rfl⟩
  rw [String.append_assoc, String.append_assoc, String.append_assoc, String.append_assoc] at h
  exact append_right_cancel (append_left_cancel h)

theorem ownerBucketAccount_inj {o p : OwnerId} {b c : Bucket}
    (h : ownerBucketAccount o b = ownerBucketAccount p c) : o = p ∧ b = c := by
  obtain ⟨hval, hb⟩ := bucketFormat_inj h
  exact ⟨OwnerId.ext_val hval, hb⟩

theorem ownerBucketAccount_eq_iff {o p : OwnerId} {b c : Bucket} :
    ownerBucketAccount o b = ownerBucketAccount p c ↔ o = p ∧ b = c :=
  ⟨ownerBucketAccount_inj, by rintro ⟨rfl, rfl⟩; rfl⟩

theorem pendingAccountOf_inj {x y : String} (h : pendingAccountOf x = pendingAccountOf y) : x = y := by
  exact append_left_cancel (append_right_cancel h)

theorem pendingAccountOf_ne_bucketFormat (x y : String) (b : Bucket) :
    pendingAccountOf x ≠ "owner:" ++ y ++ ":" ++ b.name := by
  intro h
  have hrev := congrArg (fun s : String => s.toList.reverse) h
  cases b <;> simp [pendingAccountOf, Bucket.name] at hrev

theorem pendingAccountOf_ne_ownerBucketAccount (x : String) (o : OwnerId) (b : Bucket) :
    pendingAccountOf x ≠ ownerBucketAccount o b :=
  pendingAccountOf_ne_bucketFormat x o.val b

theorem reservationAccount_eq_ownerBucketAccount_iff {o p : OwnerId} {r : ReservationId} {b c : Bucket} :
    confidentialReservationAccount o r b = ownerBucketAccount p c
      ↔ p.val = reservationSubject o r ∧ b = c := by
  constructor
  · intro h
    obtain ⟨hval, hb⟩ := bucketFormat_inj h
    exact ⟨hval.symm, hb⟩
  · rintro ⟨hval, rfl⟩
    simp [confidentialReservationAccount, ownerBucketAccount, hval]

theorem reservationSubject_inj {o p : OwnerId} {r s : ReservationId}
    (h : reservationSubject o r = reservationSubject p s) :
    o = p ∧ reservationSuffix r.val = reservationSuffix s.val := by
  obtain ⟨howner, hsuffix⟩ := append_inj_of_length
    (by rw [length_reservationSuffix, length_reservationSuffix]) h
  exact ⟨OwnerId.ext_val (append_right_cancel howner), hsuffix⟩

theorem reservationAccount_inj {o p : OwnerId} {r s : ReservationId} {b c : Bucket}
    (h : confidentialReservationAccount o r b = confidentialReservationAccount p s c) :
    o = p ∧ reservationSuffix r.val = reservationSuffix s.val ∧ b = c := by
  obtain ⟨hsubject, hb⟩ := bucketFormat_inj h
  obtain ⟨ho, hr⟩ := reservationSubject_inj hsubject
  exact ⟨ho, hr, hb⟩

theorem head_ownerBucketAccount (o : OwnerId) (b : Bucket) : (ownerBucketAccount o b).toList.head? = some 'o' := by
  simp [ownerBucketAccount]

theorem head_confidentialReservationAccount (o : OwnerId) (r : ReservationId) (b : Bucket) :
    (confidentialReservationAccount o r b).toList.head? = some 'o' := by
  simp [confidentialReservationAccount]

theorem head_pendingAccountOf (x : String) : (pendingAccountOf x).toList.head? = some 'o' := by
  simp [pendingAccountOf]

theorem ownerBucketAccount_ne_of_head {a : String} (o : OwnerId) (b : Bucket)
    (h : a.toList.head? ≠ some 'o') : ownerBucketAccount o b ≠ a := by
  apply ne_of_head
  rw [head_ownerBucketAccount]
  exact fun heq => h heq.symm

end ComputeMesh.Billing
