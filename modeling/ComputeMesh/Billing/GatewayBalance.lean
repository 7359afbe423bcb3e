import ComputeMesh.Billing.PostingEffects

/-!
# The balance the gateway shows

`GatewayOwnerCreditLedger.get_balance` reads demo and internal accounts directly, and an owner from the buckets as soon as
there is one.  Deposits of owners go to the purchased bucket, jobs are charged to the account itself.

* `Posted` — what recording postings does to the balances;
* `HasBucket` — the test by which `get_balance` chooses;
* `gateway_balance_follows_iff` — **when the balance follows a deposit and a job**: an owner whose buckets exist is never
  charged, and the first deposit to one with a legacy balance hides that balance.
-/

namespace ComputeMesh

theorem Dict.contains_addAll {κ : Type} [DecidableEq κ] (k : κ) (es : List (κ × ℤ)) :
    ∀ d : Dict κ ℤ, (d.addAll es).contains k = true ↔ d.contains k = true ∨ ∃ e ∈ es, e.1 = k := by
  induction es with
  | nil => intro d; simp [addAll]
  | cons e es ih =>
    intro d
    have hrec : (d.addAll (e :: es)).contains k = ((d.addAt e).addAll es).contains k := rfl
    have hadd : (d.addAt e).contains k = true ↔ d.contains k = true ∨ e.1 = k := by
      by_cases hk : k = e.1
      · subst hk
        simp [contains, addAt]
      · simp [contains, addAt, get?_set, hk, Ne.symm hk]
    rw [hrec, ih, hadd]
    simp only [List.mem_cons, exists_eq_or_imp, or_assoc]

namespace Billing

open ComputeMesh.Text

theorem netChange_pos {fs : List PostingFields} {a : String} (h : ∀ p ∈ fs, 0 < p.signed) :
    netChange fs a = 0 ↔ ∀ p ∈ fs, p.accountId ≠ a := by
  constructor
  · induction fs with
    | nil => simp
    | cons p fs ih =>
      intro hzero
      have hp := h p List.mem_cons_self
      have hrest := fun q hq => h q (List.mem_cons_of_mem p hq)
      have hnonneg : 0 ≤ netChange fs a := netChange_nonneg fun q hq _ => (hrest q hq).le
      rw [netChange_cons] at hzero
      have hne : p.accountId ≠ a := by
        intro heq
        rw [if_pos heq] at hzero
        omega
      rw [if_neg hne, zero_add] at hzero
      exact List.forall_mem_cons.mpr ⟨hne, ih hrest hzero⟩
  · exact netChange_eq_zero

namespace Ledger

variable {l l' : Ledger} {env : Env} {a ref : String} {amount : ℤ} {tx : Transaction} {owner : OwnerId}
  {fs : List PostingFields}

/-! ### Recording -/

/-- `l'` has the balances of `l` after these postings. -/
structure Posted (l l' : Ledger) (fs : List PostingFields) : Prop where
  cls : l'.cls = l.cls
  raw : ∀ k, l'.rawBalance k = l.rawBalance k + netChange fs k
  contains : ∀ k, l'.journal.balances.contains k = true ↔
    l.journal.balances.contains k = true ∨ ∃ p ∈ fs, p.accountId = k

theorem posted_recorded (l : Ledger) (tx : Transaction) : Posted l (l.recorded tx) tx.fields where
  cls := rfl
  raw := l.rawBalance_recorded tx
  contains k := by
    rw [recorded_balances, Dict.contains_addAll]
    simp [PostingFields.entry]

theorem posted_of_commit {tx' : Transaction} (h : l.commit tx' = (.ok tx, l')) : Posted l l' tx'.fields := by
  have hsnd := l.commit_snd tx'
  rw [h] at hsnd
  have hl' : l' = l.recorded tx' := hsnd
  exact hl' ▸ l.posted_recorded tx'

theorem posted_of_commitNew {t event c d : String} (h : l.commitNew (newTransaction t event c d fs) = (.ok tx, l')) :
    Posted l l' fs := by
  unfold commitNew at h
  split at h
  · cases h
  · rename_i tx' htx
    obtain ⟨-, -, -, -, hfields⟩ := newTransaction_ok htx
    exact hfields ▸ posted_of_commit h

theorem posted_deposit (h : l.depositCustomerCredits env a amount ref = (.ok tx, l')) :
    0 < amount ∧ Posted l l' (depositPostings a amount) := by
  simp only [depositCustomerCredits] at h
  split at h
  · cases h
  · rename_i hpos
    split at h
    · cases h
    · exact ⟨not_le.mp hpos, posted_of_commitNew h⟩

theorem posted_ownerDeposit (h : l.depositOwnerPurchasedCredits env a amount ref = (.ok tx, l')) :
    0 < amount ∧ ∃ owner, cleanOwner a = .ok owner ∧
      Posted l l' (bucketCreditPostings "gateway:escrow" paymentGatewayEscrow owner .purchased amount) := by
  simp only [depositOwnerPurchasedCredits] at h
  split at h
  · cases h
  · rename_i owner howner
    split at h
    · cases h
    · rename_i hpos
      split at h
      · cases h
      · simp only [creditBucket] at h
        split at h
        · cases h
        · exact ⟨not_le.mp hpos, owner, howner, posted_of_commitNew h⟩

section Jobs

variable {R : Type} [LayerRatio R] (l : Ledger) (c : JobCall R)

/-- The operator's fee of a job. -/
def jobFee : ℤ :=
  let feeBps := match c.networkFeeBps with
    | none => l.networkFeeBps
    | some bps => max 0 bps
  Int.fdiv (c.charge * feeBps) 10000

def jobShares : List PostingFields :=
  (allocateProviders (c.charge - l.jobFee c) (LayerRatio.totalShares (c.providerShares.map Prod.snd))
    c.providerShares 0).toOption.getD []

def jobCredits : List PostingFields := feePosting (l.jobFee c) ++ l.jobShares c

/-- A credit of a job raises an account of the operator or of a provider. -/
def IsJobCredit (p : PostingFields) : Prop :=
  0 < p.signed ∧ isInternalAccount p.accountId = true ∧ p.accountId.toList.head? ≠ some 'o'

theorem isJobCredit_fee {fee : ℤ} : ∀ p ∈ feePosting fee, IsJobCredit p := by
  intro p hp
  unfold feePosting at hp
  split at hp
  · rename_i hfee
    rw [List.mem_singleton] at hp
    subst hp
    exact ⟨by simpa [PostingFields.signed] using hfee, (by decide : isInternalAccount "revenue:network_fee" = true),
      (by decide : "revenue:network_fee".toList.head? ≠ some 'o')⟩
  · cases hp

theorem isJobCredit_share : ∀ p ∈ l.jobShares c, IsJobCredit p := by
  intro p hp
  unfold jobShares at hp
  cases hproviders : allocateProviders (c.charge - l.jobFee c)
      (LayerRatio.totalShares (c.providerShares.map Prod.snd)) c.providerShares 0 with
  | error e =>
    rw [hproviders] at hp
    cases hp
  | ok providers =>
    rw [hproviders] at hp
    obtain ⟨s, -, hid, htype, hdebit, hcredit⟩ :=
      allocateProviders_ok _ _ c.providerShares c.providerShares 0 providers (fun s hs => hs) hproviders p hp
    have hstarts : startsWith p.accountId "provider:" = true := hid ▸ startsWith_append _ _
    refine ⟨by simpa [PostingFields.signed, htype, hdebit] using hcredit, by simp [isInternalAccount, hstarts], ?_⟩
    rw [head_of_startsWith (by decide) hstarts]
    decide

theorem jobCredits_spec : ∀ p ∈ l.jobCredits c, IsJobCredit p :=
  List.forall_mem_append.mpr ⟨isJobCredit_fee, l.isJobCredit_share c⟩

variable {l c}

theorem posted_job (h : l.recordJobExecution env c = (.ok tx, l')) :
    0 < c.charge ∧ (∃ balance, l.getBalance c.customerAccountId = .ok balance) ∧
      Posted l l' (customerPosting c :: l.jobCredits c) := by
  rcases l.recordJobExecution_cases env c with ⟨e, he⟩ | ⟨tx', htx, -, heq⟩
  · rw [he] at h
    cases h
  · obtain ⟨-, -, hpos, balance, hbalance, -⟩ := buildJobTransaction_ok htx
    refine ⟨hpos, ⟨balance, hbalance⟩, ?_⟩
    have hfields : tx'.fields = customerPosting c :: l.jobCredits c := by
      simp only [buildJobTransaction, hbalance] at htx
      split at htx
      · cases htx
      · split at htx
        · cases htx
        · split at htx
          · cases htx
          · rename_i providers hproviders
            obtain ⟨-, -, -, -, hfields⟩ := newTransaction_ok htx
            have hshares : l.jobShares c = providers := congrArg (fun r => (Except.toOption r).getD []) hproviders
            rw [hfields, jobCredits, hshares]
            rfl
    exact hfields ▸ posted_of_commit (heq ▸ h)

end Jobs

/-! ### Reading -/

/-- Whether there is a bucket of the owner. -/
def HasBucket (l : Ledger) (owner : OwnerId) : Prop :=
  ∃ b ∈ spendOrder, l.journal.balances.contains (ownerBucketAccount owner b) = true

instance (l : Ledger) (owner : OwnerId) : Decidable (l.HasBucket owner) :=
  inferInstanceAs (Decidable (∃ b ∈ spendOrder, _))

theorem getBalance_direct (hcls : l.cls.isGateway = true) (ha : isDemoAccount a = true ∨ isInternalAccount a = true) :
    l.getBalance a = .ok (l.rawBalance a) := by
  have hor : (isDemoAccount a || isInternalAccount a) = true := by simpa using ha
  simp [getBalance, hcls, gatewayGetBalance, hor]

theorem getBalance_owner (hcls : l.cls.isGateway = true) (hdemo : isDemoAccount a = false)
    (hinternal : isInternalAccount a = false) (howner : cleanOwner a = .ok owner) :
    l.getBalance a = .ok (if l.HasBucket owner then max 0 (l.rawBalance (ownerBucketAccount owner .earned)) +
      (max 0 (l.rawBalance (ownerBucketAccount owner .purchased)) +
        max 0 (l.rawBalance (ownerBucketAccount owner .promo))) else l.rawBalance a) := by
  have hany : (spendOrder.map (ownerBucketAccount owner)).any l.journal.balances.contains = true ↔ l.HasBucket owner := by
    simp [HasBucket]
  simp only [getBalance, hcls, if_true, gatewayGetBalance, hdemo, hinternal, Bool.or_false, Bool.false_eq_true, if_false,
    howner, hany]
  split
  · simp [spendOrder]
  · rfl

theorem rawBalance_of_no_bucket (h : ¬l.HasBucket owner) (b : Bucket) : l.rawBalance (ownerBucketAccount owner b) = 0 := by
  have hnone : l.journal.balances.get? (ownerBucketAccount owner b) = none := by
    have hb : ¬l.journal.balances.contains (ownerBucketAccount owner b) = true := fun hb => h ⟨b, mem_spendOrder b, hb⟩
    simpa [Dict.contains] using hb
  simp [rawBalance, Dict.getD, hnone]

/-- The balance that is shown moves by `change`. -/
def BalanceFollows (l l' : Ledger) (a : String) (change : ℤ) : Prop :=
  ∃ balance, l.getBalance a = .ok balance ∧ l'.getBalance a = .ok (balance + change)

theorem balanceFollows_iff {x y change : ℤ} (h : l.getBalance a = .ok x) (h' : l'.getBalance a = .ok y) :
    BalanceFollows l l' a change ↔ y = x + change := by
  simp [BalanceFollows, h, h']

/-! ### When the balance follows -/

/-- A deposit of an owner adds to a purchased bucket that is not overdrawn, or there is no legacy balance to hide; an
internal account has the credits of its deposit elsewhere, unless it is the escrow account. -/
def DepositShows (l : Ledger) (a : String) : Prop :=
  isDemoAccount a = true ∨ a = "gateway:escrow" ∨ (isInternalAccount a = false ∧ ∀ owner, cleanOwner a = .ok owner →
    if l.HasBucket owner then 0 ≤ l.rawBalance (ownerBucketAccount owner .purchased) else l.rawBalance a = 0)

/-- The job is not charged to an owner with buckets, and it pays nothing to the account that it is charged to. -/
def JobShows {R : Type} [LayerRatio R] (l : Ledger) (c : JobCall R) : Prop :=
  if isDemoAccount c.customerAccountId = true ∨ isInternalAccount c.customerAccountId = true then
    ∀ p ∈ l.jobCredits c, p.accountId ≠ c.customerAccountId
  else ∀ owner, cleanOwner c.customerAccountId = .ok owner → ¬l.HasBucket owner

theorem ownerBucketAccount_ne (howner : cleanOwner a = .ok owner) (b : Bucket) : ownerBucketAccount owner b ≠ a := by
  rintro rfl
  have hstrip : strip (ownerBucketAccount owner b) = ownerBucketAccount owner b := by
    have hname : b.name.toList ≠ [] ∧ b.name.toList.any isSpace = false := by
      cases b <;> decide
    rw [ownerBucketAccount]
    exact strip_append (c := 'o') (by simp) (by decide) hname.1 fun c hc => by
      simpa using List.any_eq_false.mp hname.2 c hc
  have hval := (cleanOwner_ok howner).trans hstrip
  have hlen := congrArg (fun s : String => s.toList.length) hval
  simp only [ownerBucketAccount, String.toList_append, List.length_append] at hlen
  have hprefix : "owner:".toList.length = 6 := by decide
  omega

theorem deposit_shows_iff (hcls : l.cls.isGateway = true)
    (h : l.gatewayDepositCustomerCredits env a amount ref = (.ok tx, l')) :
    BalanceFollows l l' a amount ↔ l.DepositShows a := by
  have hescrow : ∀ s, startsWith a s = true → s.toList.head? ≠ some 'g' → s.toList ≠ [] → "gateway:escrow" ≠ a :=
    fun s hs hg hne => ne_of_head (by rw [head_of_startsWith hne hs]; exact fun heq => hg heq.symm)
  unfold gatewayDepositCustomerCredits at h
  split at h
  · rename_i hdemo
    obtain ⟨hpos, hposted⟩ := posted_deposit h
    rw [balanceFollows_iff (getBalance_direct hcls (.inl hdemo))
      (getBalance_direct (hposted.cls ▸ hcls) (.inl hdemo)), hposted.raw]
    have hne := hescrow "teaser_" hdemo (by decide) (by decide)
    simp [depositPostings, netChange_cons, PostingFields.signed, hne, DepositShows, hdemo]
  · rename_i hdemo
    obtain ⟨hpos, owner, howner, hposted⟩ := posted_ownerDeposit h
    have hraw := hposted.raw
    simp only [netChange_bucketCredit creditIncreases_paymentGatewayEscrow] at hraw
    have hself : ownerBucketAccount owner .purchased ≠ a := ownerBucketAccount_ne howner _
    cases hinternal : isInternalAccount a with
    | true =>
      have hshows : l.DepositShows a ↔ "gateway:escrow" = a := by
        simp [DepositShows, hdemo, hinternal, @eq_comm _ a]
      rw [hshows, balanceFollows_iff (getBalance_direct hcls (.inr hinternal))
        (getBalance_direct (hposted.cls ▸ hcls) (.inr hinternal)), hraw, if_neg hself]
      by_cases heq : "gateway:escrow" = a
      · simp [heq]
      · simp only [heq, if_false, iff_false]
        omega
    | false =>
      have hdemo' : isDemoAccount a = false := by simpa using hdemo
      have hne : "gateway:escrow" ≠ a := by
        rintro rfl
        exact absurd hinternal (by decide)
      have hhas : l'.HasBucket owner :=
        ⟨.purchased, mem_spendOrder _, (hposted.contains _).mpr (.inr ⟨_, List.mem_cons_of_mem _ List.mem_cons_self, rfl⟩)⟩
      have hother : ∀ b, "gateway:escrow" ≠ ownerBucketAccount owner b :=
        fun b => (ownerBucketAccount_ne_of_head owner b (by decide)).symm
      rw [balanceFollows_iff (getBalance_owner hcls hdemo' hinternal howner)
        (getBalance_owner (hposted.cls ▸ hcls) hdemo' hinternal howner), if_pos hhas]
      simp only [hraw, hother, if_false, ownerBucketAccount_eq_iff, true_and, reduceCtorEq, if_true, zero_add, add_zero,
        DepositShows, hdemo', hinternal, Bool.false_eq_true, hne.symm, false_or, howner, Except.ok.injEq, forall_eq']
      by_cases hbucket : l.HasBucket owner
      · simp only [if_pos hbucket]
        omega
      · simp only [if_neg hbucket, rawBalance_of_no_bucket hbucket]
        omega

theorem job_shows_iff {R : Type} [LayerRatio R] {c : JobCall R} (hcls : l.cls.isGateway = true)
    (h : l.recordJobExecution env c = (.ok tx, l')) :
    BalanceFollows l l' c.customerAccountId (-c.charge) ↔ l.JobShows c := by
  obtain ⟨hpos, ⟨balance, hbalance⟩, hposted⟩ := posted_job h
  have hcredits := l.jobCredits_spec c
  have hcls' : l'.cls.isGateway = true := hposted.cls ▸ hcls
  have hcustomer : l'.rawBalance c.customerAccountId
      = l.rawBalance c.customerAccountId + (-c.charge + netChange (l.jobCredits c) c.customerAccountId) := by
    rw [hposted.raw, netChange_cons]
    simp [customerPosting, PostingFields.signed]
  by_cases hdirect : isDemoAccount c.customerAccountId = true ∨ isInternalAccount c.customerAccountId = true
  · rw [JobShows, if_pos hdirect, balanceFollows_iff (getBalance_direct hcls hdirect) (getBalance_direct hcls' hdirect),
      hcustomer, ← netChange_pos fun p hp => (hcredits p hp).1]
    omega
  · have hdemo : isDemoAccount c.customerAccountId = false := by simpa using fun hd => hdirect (.inl hd)
    have hinternal : isInternalAccount c.customerAccountId = false := by simpa using fun hi => hdirect (.inr hi)
    obtain ⟨owner, howner⟩ : ∃ owner, cleanOwner c.customerAccountId = .ok owner := by
      simp only [getBalance, hcls, if_true, gatewayGetBalance, hdemo, hinternal, Bool.or_false, Bool.false_eq_true,
        if_false] at hbalance
      split at hbalance
      · cases hbalance
      · exact ⟨_, ‹_›⟩
    -- no posting of the job is one to a bucket
    have hbucket : ∀ b, ∀ p ∈ customerPosting c :: l.jobCredits c, p.accountId ≠ ownerBucketAccount owner b := by
      intro b
      refine List.forall_mem_cons.mpr ⟨(ownerBucketAccount_ne howner b).symm, fun p hp => ?_⟩
      exact (ownerBucketAccount_ne_of_head owner b (hcredits p hp).2.2).symm
    have hraw : ∀ b, l'.rawBalance (ownerBucketAccount owner b) = l.rawBalance (ownerBucketAccount owner b) := by
      intro b
      rw [hposted.raw, netChange_eq_zero (hbucket b), add_zero]
    have hhas : l'.HasBucket owner ↔ l.HasBucket owner := by
      refine exists_congr fun b => and_congr_right fun _ => ?_
      rw [hposted.contains]
      refine or_iff_left ?_
      rintro ⟨p, hp, hid⟩
      exact hbucket b p hp hid
    have hpaid : netChange (l.jobCredits c) c.customerAccountId = 0 := by
      refine netChange_eq_zero fun p hp heq => ?_
      have hp' := (hcredits p hp).2.1
      rw [heq, hinternal] at hp'
      cases hp'
    rw [JobShows, if_neg hdirect, balanceFollows_iff (getBalance_owner hcls hdemo hinternal howner)
      (getBalance_owner hcls' hdemo hinternal howner)]
    simp only [hhas, hraw, hcustomer, hpaid, add_zero, howner, Except.ok.injEq, forall_eq']
    by_cases hb : l.HasBucket owner
    · simp only [hb, if_true, not_true_eq_false, iff_false]
      omega
    · simp [hb]

/-- **When the balance of the gateway follows its operations.** -/
theorem gateway_balance_follows_iff {R : Type} [LayerRatio R] (l : Ledger) (env : Env) (hcls : l.cls.isGateway = true) :
    (∀ a amount ref tx l', l.gatewayDepositCustomerCredits env a amount ref = (.ok tx, l') →
      (BalanceFollows l l' a amount ↔ l.DepositShows a)) ∧
    ∀ (c : JobCall R) tx l', l.recordJobExecution env c = (.ok tx, l') →
      (BalanceFollows l l' c.customerAccountId (-c.charge) ↔ l.JobShows c) :=
  ⟨fun _ _ _ _ _ h => deposit_shows_iff hcls h, fun _ _ _ h => job_shows_iff hcls h⟩

/-- A journal of the legacy ledger, opened by the gateway: 50 credits of a customer and a million of a guest. -/
def migratedLedger : Ledger :=
  let first := (fresh .ledger 2500 "" none).depositCustomerCredits ⟨1, "", ""⟩ "customer" 50 "first"
  { (first.2.depositCustomerCredits ⟨1, "", ""⟩ "teaser_a" 1000000 "guest").2 with cls := .gatewayOwnerCredit }

def guestJob : JobCall ℚ := ⟨"j", "teaser_a", [("p", 1)], "m", 1000, 1000, none⟩

theorem exists_success {α : Type} {r : Except Exn α × Ledger} (h : r.1.isOk = true) : ∃ a, r = (.ok a, r.2) := by
  obtain ⟨_ | a, s⟩ := r
  · cases h
  · exact ⟨a, rfl⟩

theorem gateway_balance_follows_guest :
    BalanceFollows migratedLedger (migratedLedger.gatewayDepositCustomerCredits ⟨2, "", ""⟩ "teaser_a" 30 "second").2
      "teaser_a" 30 ∧
    BalanceFollows migratedLedger (migratedLedger.recordJobExecution ⟨2, "", ""⟩ guestJob).2 "teaser_a"
      (-guestJob.charge) := by
  have hiff := gateway_balance_follows_iff (R := ℚ) migratedLedger ⟨2, "", ""⟩ (by decide)
  obtain ⟨tx, hdeposit⟩ := exists_success
    (r := migratedLedger.gatewayDepositCustomerCredits ⟨2, "", ""⟩ "teaser_a" 30 "second") (by decide)
  obtain ⟨tx', hjob⟩ := exists_success (r := migratedLedger.recordJobExecution ⟨2, "", ""⟩ guestJob) (by decide)
  have hshows : migratedLedger.JobShows guestJob := by
    rw [JobShows, if_pos (.inl (by decide))]
    decide
  exact ⟨(hiff.1 _ _ _ tx _ hdeposit).mpr (.inl (by decide)), (hiff.2 guestJob tx' _ hjob).mpr hshows⟩

/-- A deposit of 30 hides the 50: what is shown falls to 30. -/
theorem first_deposit_hides_legacy_balance :
    let deposit := migratedLedger.gatewayDepositCustomerCredits ⟨2, "", ""⟩ "customer" 30 "second"
    migratedLedger.getBalance "customer" = .ok 50 ∧ deposit.1.isOk = true ∧ deposit.2.getBalance "customer" = .ok 30 := by
  decide

end Ledger

end Billing

end ComputeMesh
