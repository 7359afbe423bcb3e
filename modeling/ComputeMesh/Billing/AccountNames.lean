import ComputeMesh.Billing.Accounts

/-!
# Which accounts share a name

Three functions of the billing code format the accounts of an owner: `owner_bucket_account`,
`confidential_reservation_account` and `_pending_account`.  `AccountPurpose` is a call of one of them, with
the ids as the caller passes them.

* `account_of_accepted` — accepted ids always give an account;
* `accounts_separate_iff` — **two accounts have one name only for one purpose, exactly when none of them is
  the bucket of an owner whose id spells out the reservation the other belongs to**.
-/

namespace ComputeMesh.Billing

open ComputeMesh.Text

/-- A call of one of the three functions. -/
inductive AccountPurpose
  | bucket (ownerId : String) (b : Bucket)
  | reservation (ownerId reservationId : String) (b : Bucket)
  | withdrawalPending (ownerId : String)
  deriving DecidableEq

namespace AccountPurpose

/-- The account id the call returns. -/
def account : AccountPurpose → Except Exn String
  | bucket ownerId b =>
    match cleanOwner ownerId with
    | .error e => .error e
    | .ok owner => .ok (ownerBucketAccount owner b)
  | reservation ownerId reservationId b =>
    match cleanOwner ownerId with
    | .error e => .error e
    | .ok owner =>
      match cleanReservationId reservationId with
      | .error e => .error e
      | .ok ref => .ok (confidentialReservationAccount owner ref b)
  | withdrawalPending ownerId => pendingAccount ownerId

/-- `_clean_owner` and `_clean_reservation_id` accept the ids of the call. -/
def Accepted : AccountPurpose → Prop
  | bucket ownerId _ | withdrawalPending ownerId => (cleanOwner ownerId).isOk = true
  | reservation ownerId reservationId _ =>
    (cleanOwner ownerId).isOk = true ∧ (cleanReservationId reservationId).isOk = true

instance : DecidablePred Accepted := fun p => by
  cases p <;> unfold Accepted <;> infer_instance

/-- The two calls are of one kind, for one owner, one bucket and one reservation suffix. -/
def SamePurpose : AccountPurpose → AccountPurpose → Prop
  | bucket o b, bucket p c => strip o = strip p ∧ b = c
  | reservation o r b, reservation p s c =>
    strip o = strip p ∧ reservationSuffix (strip r) = reservationSuffix (strip s) ∧ b = c
  | withdrawalPending o, withdrawalPending p => strip o = strip p
  | _, _ => False

/-- The first call is for the bucket of an owner whose id spells out the reservation of the second. -/
def Spells : AccountPurpose → AccountPurpose → Prop
  | bucket p c, reservation o r b =>
    strip p = strip o ++ ":confidential_reservation:" ++ reservationSuffix (strip r) ∧ c = b
  | _, _ => False

attribute [local grind =] account Accepted SamePurpose Spells

/-! ### What an accepted call returns -/

theorem exists_ok {α : Type} {x : Except Exn α} (h : x.isOk = true) : ∃ a, x = .ok a := by
  cases x with
  | error e => cases h
  | ok a => exact ⟨a, rfl⟩

theorem account_bucket {o : String} {b : Bucket} (h : (bucket o b).Accepted) :
    ∃ owner : OwnerId, owner.val = strip o ∧ (bucket o b).account = .ok (ownerBucketAccount owner b) := by
  obtain ⟨owner, howner⟩ := exists_ok h
  exact ⟨owner, cleanOwner_ok howner, by simp only [account, howner]⟩

theorem account_reservation {o r : String} {b : Bucket} (h : (reservation o r b).Accepted) :
    ∃ (owner : OwnerId) (ref : ReservationId), owner.val = strip o ∧ ref.val = strip r ∧
      (reservation o r b).account = .ok (confidentialReservationAccount owner ref b) := by
  obtain ⟨owner, howner⟩ := exists_ok h.1
  obtain ⟨ref, href⟩ := exists_ok h.2
  exact ⟨owner, ref, cleanOwner_ok howner, cleanReservationId_ok href, by simp only [account, howner, href]⟩

theorem account_withdrawalPending {o : String} (h : (withdrawalPending o).Accepted) :
    (withdrawalPending o).account = .ok (pendingAccountOf (strip o)) := by
  obtain ⟨owner, howner⟩ := exists_ok h
  have hne : strip o ≠ "" := by
    rw [← cleanOwner_ok howner]
    exact owner.nonempty
  simp [account, pendingAccount, hne]

/-! ### When two calls return one account -/

theorem account_ne_withdrawalPending {p : AccountPurpose} {o : String} (hp : p.Accepted)
    (ho : (withdrawalPending o).Accepted) (hkind : ∀ q, p ≠ withdrawalPending q) :
    p.account ≠ (withdrawalPending o).account := by
  intro heq
  rw [account_withdrawalPending ho] at heq
  cases p with
  | bucket q b =>
    obtain ⟨owner, -, haccount⟩ := account_bucket hp
    rw [haccount] at heq
    exact pendingAccountOf_ne_ownerBucketAccount (strip o) owner b (Except.ok.inj heq).symm
  | reservation q r b =>
    obtain ⟨owner, ref, -, -, haccount⟩ := account_reservation hp
    rw [haccount] at heq
    exact pendingAccountOf_ne_bucketFormat (strip o) (reservationSubject owner ref) b (Except.ok.inj heq).symm
  | withdrawalPending q => exact hkind q rfl

theorem account_bucket_eq_reservation_iff {p o r : String} {c b : Bucket} (hp : (bucket p c).Accepted)
    (hr : (reservation o r b).Accepted) :
    (bucket p c).account = (reservation o r b).account ↔ (bucket p c).Spells (reservation o r b) := by
  obtain ⟨other, hother, haccount⟩ := account_bucket hp
  obtain ⟨owner, ref, howner, href, haccount'⟩ := account_reservation hr
  rw [haccount, haccount', Except.ok.injEq, eq_comm, reservationAccount_eq_ownerBucketAccount_iff]
  simp only [Spells, reservationSubject, hother, howner, href, eq_comm (a := b)]

/-- Two calls of one kind return one account only for one purpose; two of different kinds only if one
spells out the other. -/
theorem account_eq_iff {p q : AccountPurpose} (hp : p.Accepted) (hq : q.Accepted) :
    p.account = q.account ↔ p.SamePurpose q ∨ p.Spells q ∨ q.Spells p := by
  cases p with
  | bucket o b =>
    cases q with
    | bucket o' c =>
      obtain ⟨owner, howner, haccount⟩ := account_bucket hp
      obtain ⟨owner', howner', haccount'⟩ := account_bucket hq
      rw [haccount, haccount', Except.ok.injEq, ownerBucketAccount_eq_iff]
      simp only [SamePurpose, Spells, or_false, ← howner, ← howner']
      constructor
      · rintro ⟨rfl, rfl⟩
        exact ⟨rfl, rfl⟩
      · rintro ⟨hval, rfl⟩
        exact ⟨OwnerId.ext_val hval, rfl⟩
    | reservation o' r c =>
      rw [account_bucket_eq_reservation_iff hp hq]
      simp [SamePurpose, Spells]
    | withdrawalPending o' =>
      have hne := account_ne_withdrawalPending hp hq fun _ h => by cases h
      simp [SamePurpose, Spells, hne]
  | reservation o r b =>
    cases q with
    | bucket o' c =>
      rw [eq_comm, account_bucket_eq_reservation_iff hq hp]
      simp [SamePurpose, Spells]
    | reservation o' s c =>
      obtain ⟨owner, ref, howner, href, haccount⟩ := account_reservation hp
      obtain ⟨owner', ref', howner', href', haccount'⟩ := account_reservation hq
      rw [haccount, haccount', Except.ok.injEq]
      simp only [SamePurpose, Spells, or_false, ← howner, ← howner', ← href, ← href']
      constructor
      · intro heq
        obtain ⟨ho, hr, hb⟩ := reservationAccount_inj heq
        exact ⟨congrArg OwnerId.val ho, hr, hb⟩
      · rintro ⟨ho, hr, rfl⟩
        simp [confidentialReservationAccount, reservationSubject, ho, hr]
    | withdrawalPending o' =>
      have hne := account_ne_withdrawalPending hp hq fun _ h => by cases h
      simp [SamePurpose, Spells, hne]
  | withdrawalPending o =>
    cases q with
    | bucket o' c | reservation o' r c =>
      have hne := account_ne_withdrawalPending hq hp fun _ h => by cases h
      simp [SamePurpose, Spells, hne.symm]
    | withdrawalPending o' =>
      rw [account_withdrawalPending hp, account_withdrawalPending hq, Except.ok.injEq]
      simp only [SamePurpose, Spells, or_false]
      exact ⟨pendingAccountOf_inj, fun h => by rw [h]⟩

theorem SamePurpose.not_spells {p q : AccountPurpose} (h : p.SamePurpose q) : ¬(p.Spells q ∨ q.Spells p) := by
  cases p <;> cases q <;> simp_all [SamePurpose, Spells]

end AccountPurpose

/-- **Two accounts have one name only for one purpose**, exactly when none of the two is the bucket of an
owner whose id spells out the reservation the other belongs to. -/
theorem accounts_separate_iff (p q : AccountPurpose) (hp : p.Accepted) (hq : q.Accepted) :
    (p.account = q.account → p.SamePurpose q) ↔ ¬(p.Spells q ∨ q.Spells p) := by
  rw [AccountPurpose.account_eq_iff hp hq]
  constructor
  · intro h hspells
    exact (h (.inr hspells)).not_spells hspells
  · intro h heq
    exact heq.resolve_right h

theorem accounts_separate_iff_sample : (AccountPurpose.bucket "alice" .earned).Accepted ∧
    ((AccountPurpose.bucket "alice" .earned).account = (AccountPurpose.withdrawalPending " alice ").account →
      (AccountPurpose.bucket "alice" .earned).SamePurpose (.withdrawalPending " alice ")) :=
  ⟨by decide, (accounts_separate_iff _ _ (by decide) (by decide)).mpr (by simp [AccountPurpose.Spells])⟩

/-- The purchased bucket of one owner is the purchased sub-account of a reservation of another. -/
theorem bucket_spells_reservation :
    ∃ p q : AccountPurpose, p.Accepted ∧ q.Accepted ∧ p.account = q.account ∧ ¬p.SamePurpose q :=
  ⟨.bucket "alice:confidential_reservation:82f3e9c695dc6b8d1b11818d" .purchased,
    .reservation "alice" "r1" .purchased, by decide +kernel, by decide +kernel, by decide +kernel,
    fun h => h⟩

end ComputeMesh.Billing
