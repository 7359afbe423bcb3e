import ComputeMesh.Billing.ConfidentialEscrow

/-!
# What the ledger operations can do

One lemma for each operation, saying every ledger it can leave: the one it found, one whose holds changed,
or one with exactly one more transaction, whose event id and postings the lemma names.  The invariants of
the later files are derived from these lemmas and never look into an operation again.

`netChange` is the abstract meaning of a list of postings, a signed amount for each account;
`rawBalance_recorded` says that recording a transaction adds exactly that.
-/

namespace ComputeMesh.Billing

open ComputeMesh.Text

/-! ### Building postings and transactions -/

theorem Posting.new_ok {f : PostingFields} {p : Posting} (h : Posting.new f = .ok p) : p.toPostingFields = f := by
  unfold Posting.new at h
  split at h
  · cases h
  · split at h
    · cases h
    · cases h
      rfl

theorem newPostings_ok : ∀ {fs : List PostingFields} {ps : List Posting}, newPostings fs = .ok ps → fieldsOf ps = fs
  | [], ps, h => by
    cases h
    rfl
  | f :: fs, ps, h => by
    rw [newPostings] at h
    split at h
    · cases h
    · rename_i p hp
      split at h
      · cases h
      · rename_i qs hqs
        cases h
        show p.toPostingFields :: fieldsOf qs = f :: fs
        rw [Posting.new_ok hp, newPostings_ok hqs]

variable {fs : List PostingFields}

theorem newTransaction_ok {t e c d : String} {tx : Transaction} (h : newTransaction t e c d fs = .ok tx) :
    tx.txId = t ∧ tx.eventId = e ∧ tx.createdAt = c ∧ tx.description = d ∧ tx.fields = fs := by
  unfold newTransaction at h
  split at h
  · cases h
  · rename_i ps hps
    simp only [Transaction.new] at h
    split at h
    · cases h
    · split at h
      · cases h
      · cases h
        exact ⟨rfl, rfl, rfl, rfl, newPostings_ok hps⟩

theorem newPostings_error : ∀ {fs : List PostingFields} {x : Exn}, newPostings fs = .error x → ∃ m, x = .billing m
  | f :: fs, x, h => by
    rw [newPostings] at h
    split at h
    · rename_i e hnew
      cases h
      unfold Posting.new at hnew
      split at hnew
      · cases hnew
        exact ⟨_, rfl⟩
      · split at hnew
        · cases hnew
          exact ⟨_, rfl⟩
        · cases hnew
    · split at h
      · rename_i hrest
        cases h
        exact newPostings_error hrest
      · cases h

theorem newTransaction_error {t e c d : String} {x : Exn}
    (h : newTransaction t e c d fs = .error x) : ∃ m, x = .billing m := by
  unfold newTransaction at h
  split at h
  · rename_i hps
    cases h
    exact newPostings_error hps
  · simp only [Transaction.new] at h
    split at h
    · cases h
      exact ⟨_, rfl⟩
    · split at h
      · cases h
        exact ⟨_, rfl⟩
      · cases h

/-! ### The net change of an account -/

/-- How far a list of postings moves the balance of an account. -/
def netChange (fs : List PostingFields) (accountId : String) : ℤ :=
  sumAt (fs.map PostingFields.entry) accountId

@[simp] theorem netChange_nil (a : String) : netChange [] a = 0 := rfl

theorem netChange_cons (p : PostingFields) (fs : List PostingFields) (a : String) :
    netChange (p :: fs) a = (if p.accountId = a then p.signed else 0) + netChange fs a :=
  sumAt_cons p.entry (fs.map PostingFields.entry) a

theorem netChange_append (fs gs : List PostingFields) (a : String) :
    netChange (fs ++ gs) a = netChange fs a + netChange gs a := by
  rw [netChange, List.map_append, sumAt_append]
  rfl

theorem netChange_nonneg {a : String} (h : ∀ p ∈ fs, p.accountId = a → 0 ≤ p.signed) : 0 ≤ netChange fs a := by
  apply sumAt_nonneg
  intro e he hk
  obtain ⟨p, hp, rfl⟩ := List.mem_map.mp he
  exact h p hp hk

theorem netChange_eq_zero {a : String} (h : ∀ p ∈ fs, p.accountId ≠ a) : netChange fs a = 0 := by
  apply sumAt_eq_zero
  intro e he
  obtain ⟨p, hp, rfl⟩ := List.mem_map.mp he
  exact h p hp

theorem foldl_postBalance (fs : List PostingFields) (d : Dict String ℤ) :
    fs.foldl postBalance d = d.addAll (fs.map PostingFields.entry) := by
  rw [Dict.addAll, List.foldl_map]
  rfl

/-! ### Recording -/

theorem Journal.appendToDisk_memory (j : Journal) (tx : Transaction) :
    (j.appendToDisk tx).2.transactions = j.transactions ∧ (j.appendToDisk tx).2.processedEvents = j.processedEvents ∧
      (j.appendToDisk tx).2.balances = j.balances ∧
      (j.appendToDisk tx).2.accountTypes = j.accountTypes := by
  unfold Journal.appendToDisk
  split
  · exact ⟨rfl, rfl, rfl, rfl⟩
  · split <;> exact ⟨rfl, rfl, rfl, rfl⟩

variable {l : Ledger}

namespace Ledger

/-- The ledger after `_record_transaction`. -/
def recorded (l : Ledger) (tx : Transaction) : Ledger :=
  { l with journal := (l.journal.recordTransaction tx).2 }

section

variable (l : Ledger) (tx : Transaction)

@[simp] theorem recorded_ownerHolds : (l.recorded tx).ownerHolds = l.ownerHolds := rfl

@[simp] theorem recorded_transactions : (l.recorded tx).journal.transactions = l.journal.transactions ++ [tx] :=
  (Journal.appendToDisk_memory (l.journal.post tx) tx).1

@[simp] theorem mem_processedEvents_recorded (e : String) : e ∈ (l.recorded tx).journal.processedEvents
      ↔ e = tx.eventId ∨ e ∈ l.journal.processedEvents := by
  have h : (l.recorded tx).journal.processedEvents = l.journal.processedEvents.insert tx.eventId :=
    (Journal.appendToDisk_memory (l.journal.post tx) tx).2.1
  rw [h, List.mem_insert_iff]

theorem recorded_balances :
    (l.recorded tx).journal.balances = l.journal.balances.addAll (tx.fields.map PostingFields.entry) := by
  have h : (l.recorded tx).journal.balances = tx.fields.foldl postBalance l.journal.balances :=
    (Journal.appendToDisk_memory (l.journal.post tx) tx).2.2.1
  rw [h, foldl_postBalance]

/-- **Recording a transaction moves every balance by its net change.** -/
theorem rawBalance_recorded (a : String) : (l.recorded tx).rawBalance a = l.rawBalance a + netChange tx.fields a := by
  rw [rawBalance, recorded_balances, Dict.getD_addAll]
  rfl

end

theorem rawBalance_of_recorded {l l' : Ledger} {tx : Transaction}
    (hjournal : l'.journal = (l.recorded tx).journal) (a : String) :
    l'.rawBalance a = l.rawBalance a + netChange tx.fields a := by
  rw [← rawBalance_recorded, rawBalance, hjournal]
  rfl

/-- The journal file, if there is one, can be appended to. -/
def Healthy (l : Ledger) : Prop :=
  ∀ file, l.journal.storage = some file → file.appendFails = false

theorem commit_of_healthy (h : l.Healthy) (tx : Transaction) : l.commit tx = (.ok tx, l.recorded tx) := by
  have hok : (l.journal.recordTransaction tx).1 = .ok () := by
    unfold Journal.recordTransaction Journal.appendToDisk
    split
    · rfl
    · rename_i file hfile
      rw [if_neg (by rw [h file hfile]; decide)]
  unfold commit recorded
  split
  · rename_i hrec
    rw [hrec]
  · rename_i hrec
    rw [hrec] at hok
    cases hok

theorem healthy_recorded (h : l.Healthy) (tx : Transaction) : (l.recorded tx).Healthy := by
  intro file hfile
  have hst : (l.recorded tx).journal.storage = ((l.journal.post tx).appendToDisk tx).2.storage := rfl
  rw [hst] at hfile
  unfold Journal.appendToDisk at hfile
  split at hfile
  · rename_i hnone
    rw [hnone] at hfile
    cases hfile
  · rename_i file₀ hsome
    have h₀ := h file₀ hsome
    rw [if_neg (by rw [h₀]; decide)] at hfile
    cases hfile
    exact h₀

theorem commit_snd (l : Ledger) (tx : Transaction) : (l.commit tx).2 = l.recorded tx := by
  unfold commit recorded
  split <;> rename_i h <;> rw [h]

/-- The event is new to the ledger, by one of the two tests the operations make. -/
def Unseen (l : Ledger) (event : String) : Prop :=
  event ∉ l.journal.processedEvents ∨ l.transactionForEvent event = none

/-- `l'` is `l` with one more transaction, new to it, with this event id and these postings. -/
def Recorded (l l' : Ledger) (event : String) (fs : List PostingFields) : Prop :=
  ∃ tx : Transaction, tx.eventId = event ∧ tx.fields = fs ∧ l.Unseen event ∧ l' = l.recorded tx

theorem commitNew_cases (l : Ledger) {event : String} (t c d : String) (fs : List PostingFields)
    (hnew : l.Unseen event) :
    (l.commitNew (newTransaction t event c d fs)).2 = l ∨
      Recorded l (l.commitNew (newTransaction t event c d fs)).2 event fs := by
  unfold commitNew
  split
  · exact .inl rfl
  · rename_i tx htx
    obtain ⟨-, hevent, -, -, hfields⟩ := newTransaction_ok htx
    exact .inr ⟨tx, hevent, hfields, hnew, commit_snd l tx⟩

/-! ### Credit holds -/

theorem createHold_cases (l : Ledger) (env : Env) (account : String) (amount : ℤ) (model : String)
    (ttl : ℚ) (holdId : Option String) :
    (l.createHold env account amount model ttl holdId).2 = l ∨
      ∃ hold avail, l.getAvailableBalance env.time account = .ok avail ∧ 0 < amount ∧
        amount ≤ avail ∧ hold.accountId = account ∧ hold.amountMicroUnits = amount ∧
        (l.createHold env account amount model ttl holdId).2 = l.storeHold hold.holdId hold := by
  fun_cases createHold with
  | case4 hpos avail havail hcover =>
    exact .inr ⟨⟨orDefault holdId ("hold_" ++ env.tokenHex), account, amount, model, env.isoNow,
      env.time + max (1 / 100) ttl, .active⟩, avail, havail, not_le.mp hpos, not_lt.mp hcover, rfl, rfl, rfl⟩
  | _ => exact .inl rfl

theorem renewHold_cases (l : Ledger) (env : Env) (holdId : String) (seconds : ℚ) :
    (l.renewHold env holdId seconds).2 = l ∨ ∃ hold, l.holds.get? holdId = some hold ∧ hold.status = .active ∧
        (l.renewHold env holdId seconds).2 = l.storeHold holdId
          { hold with expiresAt := max hold.expiresAt env.time + seconds } := by
  fun_cases renewHold with
  | case2 hold hget hactive => exact .inr ⟨hold, hget, hactive, rfl⟩
  | _ => exact .inl rfl

theorem releaseHold_cases (l : Ledger) (holdId : String) : (l.releaseHold holdId).2 = l ∨
      ∃ hold, l.holds.get? holdId = some hold ∧
        (l.releaseHold holdId).2 = l.storeHold holdId { hold with status := .released } := by
  fun_cases releaseHold with
  | case2 hold hget => exact .inr ⟨hold, hget, rfl⟩
  | _ => exact .inl rfl

/-! ### Deposits, payouts and jobs -/

def depositPostings (customerAccountId : String) (amountMicroUnits : ℤ) : List PostingFields :=
  [{ accountId := "gateway:escrow", accountType := paymentGatewayEscrow,
     debitMicroUnits := amountMicroUnits },
   { accountId := customerAccountId, accountType := customerDeposit,
     creditMicroUnits := amountMicroUnits }]

theorem depositCustomerCredits_cases (l : Ledger) (env : Env) (customer : String) (amount : ℤ) (ref : String) :
    (l.depositCustomerCredits env customer amount ref).2 = l ∨
      (0 < amount ∧ Recorded l (l.depositCustomerCredits env customer amount ref).2
        ("deposit:" ++ ref) (depositPostings customer amount)) := by
  fun_cases depositCustomerCredits with
  | case3 hpos _ hnew => exact (l.commitNew_cases _ _ _ _ (.inl hnew)).imp_right fun h => ⟨not_le.mp hpos, h⟩
  | _ => exact .inl rfl

theorem withSummary_snd (subject wallet : String) (balance : ℤ) (r : Except Exn Transaction × Ledger) :
    (withSummary subject wallet balance r).2 = r.2 := by
  obtain ⟨r, l⟩ := r
  cases r <;> rfl

theorem createOperatorTreasuryPayout_cases (l : Ledger) (env : Env) (wallet ref : Option String) :
    (l.createOperatorTreasuryPayout env wallet ref).2 = l ∨
      ∃ event, Recorded l (l.createOperatorTreasuryPayout env wallet ref).2 ("payout:operator_treasury:" ++ event)
        (payoutPostings "revenue:network_fee" networkFeeRevenue
          (l.rawBalance "revenue:network_fee")) := by
  fun_cases createOperatorTreasuryPayout with
  | case4 _ _ _ _ _ hnew =>
    rw [withSummary_snd]
    exact (l.commitNew_cases _ _ _ _ (.inl hnew)).imp_right fun h => ⟨_, h⟩
  | _ => exact .inl rfl

theorem createProviderPayout_cases (l : Ledger) (env : Env) (node wallet : String) (ref : Option String) :
    (l.createProviderPayout env node wallet ref).2 = l ∨ Recorded l (l.createProviderPayout env node wallet ref).2
        ("payout:" ++ node ++ ":" ++ orDefault ref env.tokenHex)
        (payoutPostings ("provider:" ++ node) providerPayable (l.rawBalance ("provider:" ++ node))) := by
  fun_cases createProviderPayout with
  | case3 _ _ _ _ hnew =>
    rw [withSummary_snd]
    exact l.commitNew_cases _ _ _ _ (.inl hnew)
  | _ => exact .inl rfl

end Ledger

/-- A provider's share of a job: a positive credit to a payable account. -/
def IsProviderCredit {R : Type} (shares : List (String × R)) (p : PostingFields) : Prop :=
  ∃ s ∈ shares, p.accountId = "provider:" ++ s.1 ∧ p.accountType = providerPayable ∧
    p.debitMicroUnits = 0 ∧ 0 < p.creditMicroUnits

theorem providerPosting_spec {R : Type} {shares : List (String × R)} {s : String × R} (hs : s ∈ shares)
    (units : ℤ) : ∀ p ∈ providerPosting s.1 units, IsProviderCredit shares p := by
  intro p hp
  unfold providerPosting at hp
  split at hp
  · rename_i hpos
    rw [List.mem_singleton] at hp
    subst hp
    exact ⟨s, hs, rfl, rfl, rfl, hpos⟩
  · cases hp

theorem allocateProviders_ok {R : Type} [LayerRatio R] (pool : ℤ) (total : R)
    (all : List (String × R)) : ∀ (shares : List (String × R)) (allocated : ℤ)
    (fs : List PostingFields), (∀ s ∈ shares, s ∈ all) →
    allocateProviders pool total shares allocated = .ok fs → ∀ p ∈ fs, IsProviderCredit all p
  | [], allocated, fs, _, h => by
    cases h
    simp
  | [s], allocated, fs, hall, h => by
    cases h
    exact providerPosting_spec (hall s List.mem_cons_self) _
  | s :: next :: rest, allocated, fs, hall, h => by
    rw [allocateProviders] at h
    split at h
    · cases h
    · rename_i units _
      split at h
      · cases h
      · rename_i gs hgs
        cases h
        intro p hp
        rcases List.mem_append.mp hp with hp | hp
        · exact providerPosting_spec (hall s List.mem_cons_self) _ p hp
        · exact allocateProviders_ok pool total all (next :: rest) _ gs
            (fun t ht => hall t (List.mem_cons_of_mem _ ht)) hgs p hp

/-- The postings of a job: the customer pays the charge, the operator and the providers are credited. -/
def IsJobPostings {R : Type} (c : JobCall R) (fs : List PostingFields) : Prop :=
  ∃ fee providers, fs = Ledger.customerPosting c :: (Ledger.feePosting fee ++ providers) ∧
    ∀ p ∈ providers, IsProviderCredit c.providerShares p

namespace Ledger

variable {R : Type} [LayerRatio R]

theorem buildJobTransaction_ok {env : Env} {c : JobCall R} {tx : Transaction}
    (h : l.buildJobTransaction env c = .ok tx) :
    tx.eventId = c.eventId ∧ IsJobPostings c tx.fields ∧ 0 < c.charge ∧
      ∃ balance, l.getBalance c.customerAccountId = .ok balance ∧ c.charge ≤ balance := by
  revert h
  fun_cases buildJobTransaction with
  | case5 balance hbalance hcover _ _ _ p hp providers hproviders =>
    intro h
    obtain ⟨-, hevent, -, -, hfields⟩ := newTransaction_ok h
    have hcredits := allocateProviders_ok _ _ c.providerShares c.providerShares 0 providers
      (fun s hs => hs) hproviders
    have hcharge : 0 < c.charge := by
      have hp' := p.oneSided
      rw [Posting.new_ok hp] at hp'
      simpa [customerPosting] using hp'
    exact ⟨hevent, ⟨_, providers, hfields, hcredits⟩, hcharge, balance, hbalance, not_lt.mp hcover⟩
  | _ => exact nofun

omit [LayerRatio R] in
theorem checkJobEvent_ok {c : JobCall R} (h : l.checkJobEvent c = .ok ()) :
    c.eventId ∉ l.journal.processedEvents := by
  unfold checkJobEvent at h
  split at h
  · cases h
  · assumption

/-- What a job execution can do: nothing, or charge a customer whose balance covers the charge. -/
theorem recordJobExecution_cases (l : Ledger) (env : Env) (c : JobCall R) :
    (∃ e, l.recordJobExecution env c = (.error e, l)) ∨
      ∃ tx, l.buildJobTransaction env c = .ok tx ∧ c.eventId ∉ l.journal.processedEvents ∧
        l.recordJobExecution env c = l.commit tx := by
  unfold recordJobExecution
  split
  · exact .inl ⟨_, rfl⟩
  · rename_i hcheck
    unfold commitNew
    split
    · exact .inl ⟨_, rfl⟩
    · rename_i tx htx
      exact .inr ⟨tx, htx, checkJobEvent_ok hcheck, rfl⟩

theorem recordJobExecution_journal (l : Ledger) (env : Env) (c : JobCall R) : (l.recordJobExecution env c).2 = l ∨
      ∃ fs, IsJobPostings c fs ∧ Recorded l (l.recordJobExecution env c).2 c.eventId fs := by
  rcases l.recordJobExecution_cases env c with ⟨e, he⟩ | ⟨tx, htx, hnew, heq⟩
  · exact .inl (by rw [he])
  · obtain ⟨hevent, hfields, -, -⟩ := buildJobTransaction_ok htx
    exact .inr ⟨tx.fields, hfields, tx, hevent, rfl, .inl hnew, by rw [heq, commit_snd]⟩

/-- A capture that gets past its checks: an active hold of the customer that covers the charge, or
whose account has the difference available. -/
structure IsCapture (l : Ledger) (now : ℚ) (c : JobCall R) (hold : CreditHold) (amount : ℤ) : Prop where
  active : hold.IsActive now
  account : hold.accountId = c.customerAccountId
  covered : (amount = hold.amountMicroUnits ∧ c.charge ≤ hold.amountMicroUnits) ∨
    ∃ avail, amount = c.charge ∧ hold.amountMicroUnits < c.charge ∧
      l.getAvailableBalance now c.customerAccountId = .ok avail ∧
      c.charge - hold.amountMicroUnits ≤ avail

theorem captureHold_cases (l : Ledger) (env : Env) (holdId : String) (c : JobCall R) :
    (l.captureHold env holdId c).2 = l ∨
      ∃ hold amount status, l.holds.get? holdId = some hold ∧ IsCapture l env.time c hold amount ∧
        status ≠ .active ∧ (l.captureHold env holdId c).2 = (l.recordJobExecution env c).2.storeHold holdId
            { hold with amountMicroUnits := amount, status := status } := by
  fun_cases captureHold with
  | case8 hold hget _ haccount _ hactive close hshort avail havail _ hcover =>
    unfold close
    have hcapture : IsCapture l env.time c hold c.charge :=
      ⟨not_not.mp hactive, not_not.mp haccount, .inr ⟨avail, rfl, hshort, havail, not_lt.mp hcover⟩⟩
    split <;> rename_i hjob <;> rw [hjob]
    · exact .inr ⟨hold, c.charge, .captured, hget, hcapture, by decide, rfl⟩
    · exact .inr ⟨hold, c.charge, .released, hget, hcapture, by decide, rfl⟩
  | case9 hold hget _ haccount _ hactive close hcover =>
    unfold close
    have hcapture : IsCapture l env.time c hold hold.amountMicroUnits :=
      ⟨not_not.mp hactive, not_not.mp haccount, .inl ⟨rfl, not_lt.mp hcover⟩⟩
    split <;> rename_i hjob <;> rw [hjob]
    · exact .inr ⟨hold, _, .captured, hget, hcapture, by decide, rfl⟩
    · exact .inr ⟨hold, _, .released, hget, hcapture, by decide, rfl⟩
  | _ => exact .inl rfl

end Ledger

end ComputeMesh.Billing
