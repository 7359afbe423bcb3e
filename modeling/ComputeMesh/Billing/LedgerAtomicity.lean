import ComputeMesh.Billing.SettlementRetry

/-!
# What a call that raises leaves in the ledger

Every operation of a ledger checks first and records last: `_record_transaction` posts the transaction in memory
and then appends it to the journal file.  A call that raises before that leaves the books as they were; one whose
append raises does not, and neither does a payout whose dollar figure does not fit into a float.

* `inMemory` — the same ledger without a journal file, which decides every call the same way;
* `Follows` — what a call does to the journal with a file and without one;
* `Op.call` — an operation with its outcome, and `Op.follows_call` for all of them;
* `ledger_atomic_iff` — **when a call that raises leaves the books alone**.
-/

namespace ComputeMesh.Billing

open ComputeMesh.Text

variable {built : Except Exn Transaction} {tx : Transaction}

namespace Ledger

/-- The same ledger without a journal file. -/
def inMemory (l : Ledger) : Ledger := { l with journal := { l.journal with storage := none } }

section Reads

variable (l : Ledger)

@[simp] theorem inMemory_holds : l.inMemory.holds = l.holds := rfl

@[simp] theorem inMemory_ownerHolds : l.inMemory.ownerHolds = l.ownerHolds := rfl

@[simp] theorem getAvailableBalance_inMemory (now : ℚ) (a : String) :
    l.inMemory.getAvailableBalance now a = l.getAvailableBalance now a := rfl

@[simp] theorem bucketBalance_inMemory (owner : OwnerId) (b : Bucket) :
    l.inMemory.bucketBalance owner b = l.bucketBalance owner b := rfl

@[simp] theorem reservedByBucket_inMemory (now : ℚ) (owner : OwnerId) (ex : Option String) (b : Bucket) :
    l.inMemory.reservedByBucket now owner ex b = l.reservedByBucket now owner ex b := rfl

@[simp] theorem ensureNewEvent_inMemory (e : String) : l.inMemory.ensureNewEvent e = l.ensureNewEvent e := rfl

@[simp] theorem transactionForEvent_inMemory (e : String) :
    l.inMemory.transactionForEvent e = l.transactionForEvent e := rfl

@[simp] theorem getConfidentialReservation_inMemory (owner : OwnerId) (ref : ReservationId) :
    l.inMemory.getConfidentialReservation owner ref = l.getConfidentialReservation owner ref := rfl

@[simp] theorem reservationFromTransaction_inMemory (owner : OwnerId) (ref : ReservationId) (tx : Transaction) :
    l.inMemory.reservationFromTransaction owner ref tx = l.reservationFromTransaction owner ref tx := rfl

@[simp] theorem ownerWithdrawalPending_inMemory (ownerId : String) :
    l.inMemory.ownerWithdrawalPendingMicroUnits ownerId = l.ownerWithdrawalPendingMicroUnits ownerId := rfl

@[simp] theorem checkJobEvent_inMemory {R : Type} (c : JobCall R) : l.inMemory.checkJobEvent c = l.checkJobEvent c :=
  rfl

@[simp] theorem buildJobTransaction_inMemory {R : Type} [LayerRatio R] (env : Env) (c : JobCall R) :
    l.inMemory.buildJobTransaction env c = l.buildJobTransaction env c := rfl

end Reads

theorem commitNew_ok {l : Ledger} (h : (l.commitNew built).1 = .ok tx) : built = .ok tx := by
  cases built with
  | error e => cases h
  | ok tx' =>
    simp only [commitNew, commit] at h
    split at h
    · exact h
    · cases h

theorem allocateSpend_inMemory (l : Ledger) (env : Env) (owner : OwnerId) (amount : ℤ) (ex : Option String) :
    l.inMemory.allocateSpend env owner amount ex
      = ((l.allocateSpend env owner amount ex).1, (l.allocateSpend env owner amount ex).2.inMemory) := by
  simp only [allocateSpend, bucketBalance_inMemory, reservedByBucket_inMemory]
  split
  · rfl
  · split
    · rename_i hmissing
      simp only [ne_eq, hmissing, not_false_eq_true, if_true]
      rfl
    · rename_i hcovered
      simp only [hcovered, if_false]
      rfl

end Ledger

/-! ### A call with a file and without one -/

/-- What a call of ledger `l` does to the journal, seen next to the same call without a file: neither changes it,
or both record the same transaction, and the first raises exactly when the file cannot be written, or for what comes
`late`, after the append. -/
def Follows {α : Type} (l : Ledger) (late : Prop) (r r₀ : Except Exn α × Ledger) : Prop :=
  (r.2.journal = l.journal ∧ r₀.2.journal = l.inMemory.journal) ∨
    ∃ tx, r.2.journal = (l.journal.recordTransaction tx).2 ∧
      r₀.2.journal = (l.inMemory.journal.recordTransaction tx).2 ∧ ((∃ e, r.1 = .error e) ↔ ¬l.Healthy ∨ late)

namespace Follows

variable {α β : Type} {l : Ledger} {late : Prop}

theorem quiet (x y : Except Exn α) : Follows l late (x, l) (y, l.inMemory) := .inl ⟨rfl, rfl⟩

theorem ite {r r₀ s s₀ : Except Exn α × Ledger} (c : Prop) [Decidable c] (h : Follows l late r r₀)
    (h' : Follows l late s s₀) : Follows l late (if c then r else s) (if c then r₀ else s₀) := by
  split
  · exact h
  · exact h'

theorem commitNew (built : Except Exn Transaction) :
    Follows l False (l.commitNew built) (l.inMemory.commitNew built) := by
  cases built with
  | error e => exact .inl ⟨rfl, rfl⟩
  | ok tx =>
    refine .inr ⟨tx, ?_, ?_, ?_⟩
    · exact congrArg Ledger.journal (l.commit_snd tx)
    · exact congrArg Ledger.journal (l.inMemory.commit_snd tx)
    · show (∃ e, (l.commit tx).1 = .error e) ↔ ¬l.Healthy ∨ False
      rw [or_false]
      constructor
      · intro h hhealthy
        obtain ⟨e, he⟩ := h
        rw [Ledger.commit_of_healthy hhealthy] at he
        cases he
      · intro h
        obtain ⟨file, hfile, hfails⟩ : ∃ file, l.journal.storage = some file ∧ file.appendFails = true := by
          by_contra hnone
          refine h fun file hfile => ?_
          by_contra hfails
          exact hnone ⟨file, hfile, by simpa using hfails⟩
        refine ⟨.os "journal append failed", ?_⟩
        have hstorage : (l.journal.post tx).storage = some file := hfile
        simp [Ledger.commit, Journal.recordTransaction, Journal.appendToDisk, hstorage, hfails]

/-- What is done with the result afterwards may change holds, and keeps a result a result. -/
theorem then_ {r r₀ : Except Exn α × Ledger} {s s₀ : Except Exn β × Ledger} (h : Follows l late r r₀)
    (hjournal : s.2.journal = r.2.journal) (hjournal₀ : s₀.2.journal = r₀.2.journal)
    (hraises : (∃ e, s.1 = .error e) ↔ ∃ e, r.1 = .error e) : Follows l late s s₀ := by
  rcases h with ⟨hsame, hsame₀⟩ | ⟨tx, hrec, hrec₀, herror⟩
  · exact .inl ⟨hjournal.trans hsame, hjournal₀.trans hsame₀⟩
  · exact .inr ⟨tx, hjournal.trans hrec, hjournal₀.trans hrec₀, hraises.trans herror⟩

theorem swept (l' : Ledger) {r r₀ : Except Exn α × Ledger} (h : Follows l' late r r₀)
    (hjournal : l'.journal = l.journal) : Follows l late r r₀ := by
  have hmemory : l'.inMemory.journal = l.inMemory.journal := by
    show ({ l'.journal with storage := none } : Journal) = { l.journal with storage := none }
    rw [hjournal]
  have hhealthy : l'.Healthy ↔ l.Healthy := by
    unfold Ledger.Healthy
    rw [hjournal]
  rcases h with ⟨hsame, hsame₀⟩ | ⟨tx, hrec, hrec₀, herror⟩
  · exact .inl ⟨hsame.trans hjournal, hsame₀.trans hmemory⟩
  · rw [hjournal] at hrec
    rw [hmemory] at hrec₀
    exact .inr ⟨tx, hrec, hrec₀, herror.trans (or_congr_left hhealthy.not)⟩

end Follows

namespace Ledger

variable (l : Ledger) (env : Env)

theorem follows_depositCustomerCredits (customer : String) (amount : ℤ) (ref : String) :
    Follows l False (l.depositCustomerCredits env customer amount ref)
      (l.inMemory.depositCustomerCredits env customer amount ref) := by
  refine .ite (amount ≤ 0) ?_ ?_
  · exact .quiet _ _
  · refine .ite ("deposit:" ++ ref ∈ l.journal.processedEvents) ?_ ?_
    · exact .quiet _ _
    · exact .commitNew _

theorem follows_creditBucket (owner : OwnerId) (b : Bucket) (amount : ℤ)
    (tag eventId description sourceAccount sourceType : String) :
    Follows l False (l.creditBucket env owner b amount tag eventId description sourceAccount sourceType)
      (l.inMemory.creditBucket env owner b amount tag eventId description sourceAccount sourceType) := by
  unfold creditBucket
  rw [ensureNewEvent_inMemory]
  split
  · exact .quiet _ _
  · exact .commitNew _

theorem follows_depositOwnerPurchasedCredits (ownerId : String) (amount : ℤ) (ref : String) :
    Follows l False (l.depositOwnerPurchasedCredits env ownerId amount ref)
      (l.inMemory.depositOwnerPurchasedCredits env ownerId amount ref) := by
  unfold depositOwnerPurchasedCredits
  split
  · exact .quiet _ _
  · refine .ite (amount ≤ 0) (.quiet _ _) (.ite (strip ref = "") (.quiet _ _) ?_)
    exact l.follows_creditBucket ..

theorem follows_grantOwnerPromoCredits (ownerId : String) (amount : ℤ) (ref policy : String) :
    Follows l False (l.grantOwnerPromoCredits env ownerId amount ref policy)
      (l.inMemory.grantOwnerPromoCredits env ownerId amount ref policy) := by
  unfold grantOwnerPromoCredits
  split
  · exact .quiet _ _
  · refine .ite (amount ≤ 0) (.quiet _ _) (.ite (strip ref = "" ∨ strip policy = "") (.quiet _ _) ?_)
    exact l.follows_creditBucket ..

theorem follows_creditOwnerEarnedCredits (ownerId : String) (amount : ℤ) (ref description : String) :
    Follows l False (l.creditOwnerEarnedCredits env ownerId amount ref description)
      (l.inMemory.creditOwnerEarnedCredits env ownerId amount ref description) := by
  unfold creditOwnerEarnedCredits
  split
  · exact .quiet _ _
  · refine .ite (amount ≤ 0) (.quiet _ _) (.ite (strip ref = "") (.quiet _ _) ?_)
    exact l.follows_creditBucket ..

/-! ### Jobs and payouts -/

section

variable {R : Type} [LayerRatio R]

theorem follows_recordJobExecution (c : JobCall R) :
    Follows l False (l.recordJobExecution env c) (l.inMemory.recordJobExecution env c) := by
  unfold recordJobExecution
  rw [checkJobEvent_inMemory, buildJobTransaction_inMemory]
  split
  · exact .quiet _ _
  · exact .commitNew _

theorem follows_closeHold (holdId : String) (hold : CreditHold) (c : JobCall R) : Follows l False
      (match l.recordJobExecution env c with
        | (.ok tx, l') => ((.ok tx, l'.storeHold holdId { hold with status := .captured }) : Except Exn Transaction × Ledger)
        | (.error e, l') => (.error e, l'.storeHold holdId { hold with status := .released }))
      (match l.inMemory.recordJobExecution env c with
        | (.ok tx, l') => (.ok tx, l'.storeHold holdId { hold with status := .captured })
        | (.error e, l') => (.error e, l'.storeHold holdId { hold with status := .released })) := by
  refine Follows.then_ (l.follows_recordJobExecution env c) ?_ ?_ ?_
  · split <;> rename_i h <;> rw [h] <;> rfl
  · split <;> rename_i h <;> rw [h] <;> rfl
  · split <;> rename_i h <;> rw [h]

theorem follows_captureHold (holdId : String) (c : JobCall R) :
    Follows l False (l.captureHold env holdId c) (l.inMemory.captureHold env holdId c) := by
  unfold captureHold
  rw [inMemory_holds]
  split
  · exact .quiet _ _
  · rename_i hold hget
    refine .ite (hold.status ≠ .active) (.quiet _ _) (.ite (hold.accountId ≠ c.customerAccountId) (.quiet _ _)
      (.ite (hold.modelId ≠ "" ∧ hold.modelId ≠ c.modelId) (.quiet _ _) (.ite (¬hold.IsActive env.time) (.quiet _ _)
        (.ite (hold.amountMicroUnits < c.charge) ?_ ?_))))
    · rw [getAvailableBalance_inMemory]
      split
      · exact .quiet _ _
      · rename_i avail havail
        refine .ite (avail < c.charge - hold.amountMicroUnits) (.quiet _ _) ?_
        exact l.follows_closeHold env holdId { hold with amountMicroUnits := c.charge } c
    · exact l.follows_closeHold env holdId hold c

end

theorem follows_withSummary {r r₀ : Except Exn Transaction × Ledger} (h : Follows l False r r₀)
    (subject wallet : String) (balance : ℤ) :
    Follows l False (withSummary subject wallet balance r) (withSummary subject wallet balance r₀) := by
  refine h.then_ ?_ ?_ ?_
  · unfold withSummary
    split <;> rfl
  · unfold withSummary
    split <;> rfl
  · unfold withSummary
    split <;> simp

theorem follows_createOperatorTreasuryPayout (wallet ref : Option String) :
    Follows l False (l.createOperatorTreasuryPayout env wallet ref)
      (l.inMemory.createOperatorTreasuryPayout env wallet ref) := by
  refine .ite (orDefault wallet l.operatorTreasuryWallet = "") (.quiet _ _)
    (.ite (l.rawBalance "revenue:network_fee" ≤ 0) (.quiet _ _)
      (.ite (("payout:operator_treasury:" ++ orDefault ref env.tokenHex) ∈ l.journal.processedEvents) (.quiet _ _) ?_))
  exact l.follows_withSummary (.commitNew _) ..

theorem follows_createProviderPayout (node wallet : String) (ref : Option String) :
    Follows l False (l.createProviderPayout env node wallet ref)
      (l.inMemory.createProviderPayout env node wallet ref) := by
  refine .ite (l.rawBalance ("provider:" ++ node) < minimumPayoutMicroUnits) (.quiet _ _)
    (.ite (("payout:" ++ node ++ ":" ++ orDefault ref env.tokenHex) ∈ l.journal.processedEvents) (.quiet _ _) ?_)
  exact l.follows_withSummary (.commitNew _) ..

/-! ### Owner spends -/

theorem follows_recordOwnerSpend (owner : OwnerId) (allocations : List (Bucket × ℤ)) (ds : List CreditDestination)
    (eventId description : String) :
    Follows l False (l.recordOwnerSpend env owner allocations ds eventId description)
      (l.inMemory.recordOwnerSpend env owner allocations ds eventId description) := by
  unfold recordOwnerSpend
  rw [ensureNewEvent_inMemory]
  split
  · exact .quiet _ _
  · refine Follows.then_ (.commitNew (newTransaction (txId "owner_spend" eventId) eventId env.isoNow description
      (bucketDebits owner allocations ++ destinationCredits ds))) ?_ ?_ ?_
    · split <;> simp_all
    · split <;> simp_all
    · split <;> simp_all

theorem follows_spendOwnerCredits (ownerId : String) (amount : ℤ) (ds : List CreditDestination)
    (ref description : String) :
    Follows l False (l.spendOwnerCredits env ownerId amount ds ref description)
      (l.inMemory.spendOwnerCredits env ownerId amount ds ref description) := by
  unfold spendOwnerCredits
  split
  · exact .quiet _ _
  · rename_i owner howner
    refine .ite (strip ref = "") (.quiet _ _) ?_
    split
    · exact .quiet _ _
    · rename_i items hitems
      have hswept := (l.allocateSpend_cases env owner amount none).1.journal
      rw [allocateSpend_inMemory]
      cases halloc : l.allocateSpend env owner amount none with
      | mk r l' =>
        rw [halloc] at hswept
        cases r with
        | error e => exact .swept l' (.quiet _ _) hswept
        | ok allocations => exact .swept l' (l'.follows_recordOwnerSpend ..) hswept

theorem captureAllocations_inMemory (hold : OwnerCreditHold) (actual : ℤ) :
    l.inMemory.captureAllocations env hold actual
      = ((l.captureAllocations env hold actual).1, (l.captureAllocations env hold actual).2.inMemory) := by
  unfold captureAllocations
  split
  · rfl
  · exact l.allocateSpend_inMemory ..

theorem follows_captureOwnerHold (holdId : String) (actual : ℤ) (ds : List CreditDestination)
    (ref description : String) :
    Follows l False (l.captureOwnerHold env holdId actual ds ref description)
      (l.inMemory.captureOwnerHold env holdId actual ds ref description) := by
  refine .ite (strip ref = "") (.quiet _ _) (.ite (actual ≤ 0) (.quiet _ _) ?_)
  split
  · exact .quiet _ _
  · rename_i items hitems
    rw [inMemory_ownerHolds]
    split
    · exact .quiet _ _
    · rename_i hold hget
      refine .ite (hold.status ≠ .active) (.quiet _ _) (.ite (¬hold.IsActive env.time) (.inl ⟨rfl, rfl⟩) ?_)
      have hswept := (l.captureAllocations_cases env hold actual).1.journal
      rw [captureAllocations_inMemory]
      cases hselect : l.captureAllocations env hold actual with
      | mk r l' =>
        rw [hselect] at hswept
        cases r with
        | error e => exact .swept l' (.quiet _ _) hswept
        | ok selected =>
          have hspend := Follows.swept l' (l'.follows_recordOwnerSpend env hold.ownerId selected items
            ("owner-spend:" ++ strip ref) description) hswept
          -- closing the hold comes after the record and leaves the journal alone
          refine hspend.then_ ?_ ?_ ?_
          · dsimp only
            split <;> rename_i h <;> rw [h]
            rfl
          · dsimp only
            split <;> rename_i h <;> rw [h]
            rfl
          · dsimp only
            split <;> rename_i h <;> rw [h]

/-! ### Withdrawals -/

theorem ownerWithdrawable_inMemory (ownerId : String) : l.inMemory.ownerWithdrawableMicroUnits env ownerId
      = ((l.ownerWithdrawableMicroUnits env ownerId).1, (l.ownerWithdrawableMicroUnits env ownerId).2.inMemory) := by
  unfold ownerWithdrawableMicroUnits getOwnerBalances
  cases cleanOwner ownerId with
  | error e => rfl
  | ok owner => rfl

section

variable (ownerId : String) (amount : ℤ) (ref : String)

theorem follows_reserveOwnerWithdrawal : Follows l False (l.reserveOwnerWithdrawal env ownerId amount ref)
      (l.inMemory.reserveOwnerWithdrawal env ownerId amount ref) := by
  refine .ite (strip ownerId = "" ∨ strip ref = "") (.quiet _ _) (.ite (amount ≤ 0) (.quiet _ _) ?_)
  dsimp only
  rw [ensureNewEvent_inMemory]
  split
  · exact .quiet _ _
  · have hswept := (l.ownerWithdrawable_cases env (strip ownerId)).1.journal
    rw [ownerWithdrawable_inMemory]
    cases hread : l.ownerWithdrawableMicroUnits env (strip ownerId) with
    | mk r l' =>
      rw [hread] at hswept
      refine .swept l' ?_ hswept
      cases r with
      | error e => exact .quiet _ _
      | ok withdrawable =>
        refine .ite (withdrawable < amount) (.quiet _ _) ?_
        split
        · exact .quiet _ _
        · exact .commitNew _

theorem follows_finalizeOwnerWithdrawal : Follows l False (l.finalizeOwnerWithdrawal env ownerId amount ref)
      (l.inMemory.finalizeOwnerWithdrawal env ownerId amount ref) := by
  unfold finalizeOwnerWithdrawal
  refine .ite (amount ≤ 0) (.quiet _ _) ?_
  dsimp only
  rw [ensureNewEvent_inMemory, ownerWithdrawalPending_inMemory]
  split
  · exact .quiet _ _
  · split
    · exact .quiet _ _
    · rename_i pending hpending
      exact .ite (pending < amount) (.quiet _ _) (.commitNew _)

theorem follows_cancelOwnerWithdrawal : Follows l False (l.cancelOwnerWithdrawal env ownerId amount ref)
      (l.inMemory.cancelOwnerWithdrawal env ownerId amount ref) := by
  unfold cancelOwnerWithdrawal
  refine .ite (amount ≤ 0) (.quiet _ _) ?_
  dsimp only
  rw [ensureNewEvent_inMemory, ownerWithdrawalPending_inMemory]
  split
  · exact .quiet _ _
  · split
    · exact .quiet _ _
    · split
      · exact .quiet _ _
      · exact .commitNew _

end

/-! ### Reservations -/

theorem follows_reserveConfidentialCredits (ownerId reservationId : String) (amount : ℤ) :
    Follows l False (l.reserveConfidentialCredits env ownerId reservationId amount)
      (l.inMemory.reserveConfidentialCredits env ownerId reservationId amount) := by
  unfold reserveConfidentialCredits
  split
  · exact .quiet _ _
  · exact .quiet _ _
  · rename_i owner ref howner href
    refine .ite (amount ≤ 0) (.quiet _ _) ?_
    rw [transactionForEvent_inMemory]
    split
    · rename_i existing hexisting
      rw [reservationFromTransaction_inMemory]
      split
      · exact .quiet _ _
      · rename_i reservation hreservation
        exact .ite (reservation.amountMicroUnits ≠ amount) (.quiet _ _) (.quiet _ _)
    · obtain ⟨hswept, hallocated⟩ := l.allocateSpend_cases env owner amount none
      rw [allocateSpend_inMemory]
      cases halloc : l.allocateSpend env owner amount none with
      | mk r l' =>
        rw [halloc] at hswept hallocated
        refine .swept l' ?_ hswept.journal
        cases r with
        | error e => exact .quiet _ _
        | ok allocations =>
          have hallocation := hallocated allocations rfl
          dsimp only
          generalize hbuilt : newTransaction (txId "conf_reserve" (reserveEvent ref)) (reserveEvent ref) env.isoNow
            s!"Reserve owner credits for confidential job {ref.val}" (reservePostings owner ref allocations) = built
          refine (Follows.commitNew built).then_ ?_ ?_ ?_
          · split <;> rename_i h <;> rw [h]
          · split <;> rename_i h <;> rw [h]
          · split
            · rename_i h
              simp [h]
            · rename_i tx l'' h
              rw [h]
              have hfields := (newTransaction_ok (hbuilt.trans (commitNew_ok (congrArg Prod.fst h)))).2.2.2.2
              have htotal : ¬(allocations.map Prod.snd).sum ≤ 0 := by
                have := hallocation.amount_pos
                rw [hallocation.total]
                omega
              have hread : ∃ reservation, l''.reservationFromTransaction owner ref tx = .ok reservation := by
                simp only [reservationFromTransaction, hfields,
                  readAllocations_reservePostings hallocation.sublist hallocation.pos owner, if_true]
                rw [if_neg htotal]
                exact ⟨_, rfl⟩
              obtain ⟨reservation, hread⟩ := hread
              simp [hread]

theorem follows_releaseConfidentialReservation (ownerId reservationId : String) :
    Follows l False (l.releaseConfidentialReservation env ownerId reservationId)
      (l.inMemory.releaseConfidentialReservation env ownerId reservationId) := by
  unfold releaseConfidentialReservation
  split
  · exact .quiet _ _
  · exact .quiet _ _
  · rename_i owner ref howner href
    rw [transactionForEvent_inMemory, transactionForEvent_inMemory, getConfidentialReservation_inMemory]
    split
    · exact .quiet _ _
    · refine .ite ((l.transactionForEvent (settleEvent ref)).isSome = true) (.quiet _ _) ?_
      split
      · exact .quiet _ _
      · exact .quiet _ _
      · rename_i reservation hreservation
        exact .ite (l.SubAccountsMatch owner ref reservation.allocations) (.commitNew _) (.quiet _ _)

theorem follows_settleConfidentialReservation (ownerId reservationId : String) (actual : ℤ)
    (ds : List CreditDestination) :
    Follows l False (l.settleConfidentialReservation env ownerId reservationId actual ds)
      (l.inMemory.settleConfidentialReservation env ownerId reservationId actual ds) := by
  unfold settleConfidentialReservation
  split
  · exact .quiet _ _
  · exact .quiet _ _
  · rename_i owner ref howner href
    refine .ite (actual ≤ 0) (.quiet _ _) ?_
    split
    · exact .quiet _ _
    · rename_i items hitems
      rw [getConfidentialReservation_inMemory]
      split
      · exact .quiet _ _
      · exact .quiet _ _
      · rename_i reservation hreservation
        rw [transactionForEvent_inMemory, transactionForEvent_inMemory]
        split
        · exact .quiet _ _
        · refine .ite ((l.transactionForEvent (releaseEvent ref)).isSome = true) (.quiet _ _)
            (.ite (reservation.amountMicroUnits < actual) (.quiet _ _)
              (.ite (¬l.SubAccountsMatch owner ref reservation.allocations) (.quiet _ _)
                (.ite ((settlePostings owner ref reservation.allocations actual).2 ≠ 0) (.quiet _ _) ?_)))
          have hcurrent : ∀ l' : Ledger, ∃ current,
              l'.reservationFromTransaction owner ref reservation.reserveTransaction = .ok current := by
            intro l'
            obtain ⟨-, -, state, hread⟩ := Ledger.reservationFromTransaction_later l' hreservation
            exact ⟨_, hread⟩
          generalize newTransaction (txId "conf_settle" (settleEvent ref)) (settleEvent ref) env.isoNow
            s!"Settle confidential job reservation {ref.val}"
            ((settlePostings owner ref reservation.allocations actual).1 ++ destinationCredits items) = built
          refine (Follows.commitNew built).then_ ?_ ?_ ?_
          · split
            · rename_i h
              rw [h]
            · rename_i tx l' h
              rw [h]
              split <;> rfl
          · split
            · rename_i h
              rw [h]
            · rename_i tx l' h
              rw [h]
              split <;> rfl
          · split
            · rename_i h
              simp [h]
            · rename_i tx l' h
              rw [h]
              obtain ⟨current, hread⟩ := hcurrent l'
              simp [hread]

end Ledger

/-! ### Operations with their outcome -/

/-- In micro-units, the smallest balance whose dollars do not fit into a float any more: they round to `2 ^ 1024`. -/
@[irreducible] def floatLimit : ℤ := (2 ^ 1024 - 2 ^ 970) * 1000000

/-- `amount_usd=round(balance / MICRO_UNIT_SCALE, 4)` of a payout's summary, as far as it may raise. -/
def amountUsd (balance : ℤ) : Except Exn Unit :=
  if floatLimit ≤ balance then .error (.arithmetic "integer division result too large for a float") else .ok ()

/-- A payout, whose summary is built after the transaction is recorded. -/
def inDollars (r : Except Exn (Transaction × PayoutSummary) × Ledger) : Except Exn Unit × Ledger :=
  match r with
  | (.error e, l) => (.error e, l)
  | (.ok (_, summary), l) => (amountUsd summary.amountMicroUnits, l)

/-- What a call returns does not matter here, only whether it does. -/
def outcome {α : Type} (r : Except Exn α × Ledger) : Except Exn Unit × Ledger := (r.1.map fun _ => (), r.2)

namespace Op

variable {R : Type} [LayerRatio R]

/-- Call an operation: whether it returned, and the ledger after it. -/
def call (l : Ledger) (env : Env) : Op R → Except Exn Unit × Ledger
  | createHold account amount model ttl holdId => outcome (l.createHold env account amount model ttl holdId)
  | renewHold holdId seconds => (.ok (), (l.renewHold env holdId seconds).2)
  | releaseHold holdId => (.ok (), (l.releaseHold holdId).2)
  | captureHold holdId job => outcome (l.captureHold env holdId job)
  | depositCustomerCredits customer amount ref =>
    if l.cls.isGateway then outcome (l.gatewayDepositCustomerCredits env customer amount ref)
    else outcome (l.depositCustomerCredits env customer amount ref)
  | recordJobExecution job => outcome (l.recordJobExecution env job)
  | createOperatorTreasuryPayout wallet ref => inDollars (l.createOperatorTreasuryPayout env wallet ref)
  | createProviderPayout node wallet ref => inDollars (l.createProviderPayout env node wallet ref)
  | getOwnerBalances owner => outcome (l.getOwnerBalances env owner)
  | depositOwnerPurchasedCredits owner amount ref => outcome (l.depositOwnerPurchasedCredits env owner amount ref)
  | grantOwnerPromoCredits owner amount ref policy => outcome (l.grantOwnerPromoCredits env owner amount ref policy)
  | creditOwnerEarnedCredits owner amount ref description =>
    outcome (l.creditOwnerEarnedCredits env owner amount ref description)
  | spendOwnerCredits owner amount ds ref description =>
    outcome (l.spendOwnerCredits env owner amount ds ref description)
  | createOwnerHold owner amount purpose ttl holdId =>
    outcome (l.createOwnerHold env owner amount purpose ttl holdId)
  | releaseOwnerHold holdId => (.ok (), (l.releaseOwnerHold holdId).2)
  | captureOwnerHold holdId actual ds ref description =>
    outcome (l.captureOwnerHold env holdId actual ds ref description)
  | reserveOwnerWithdrawal owner amount ref => outcome (l.reserveOwnerWithdrawal env owner amount ref)
  | finalizeOwnerWithdrawal owner amount ref => outcome (l.finalizeOwnerWithdrawal env owner amount ref)
  | cancelOwnerWithdrawal owner amount ref => outcome (l.cancelOwnerWithdrawal env owner amount ref)
  | reserveConfidentialCredits owner ref amount => outcome (l.reserveConfidentialCredits env owner ref amount)
  | releaseConfidentialReservation owner ref => outcome (l.releaseConfidentialReservation env owner ref)
  | settleConfidentialReservation owner ref actual ds =>
    outcome (l.settleConfidentialReservation env owner ref actual ds)

theorem snd_inDollars (r : Except Exn (Transaction × PayoutSummary) × Ledger) : (inDollars r).2 = r.2 := by
  unfold inDollars
  split <;> rfl

/-- The payout whose balance does not fit into a float. -/
def DollarsOverflow (l : Ledger) : Op R → Prop
  | createOperatorTreasuryPayout .. => floatLimit ≤ l.rawBalance "revenue:network_fee"
  | createProviderPayout node .. => floatLimit ≤ l.rawBalance ("provider:" ++ node)
  | _ => False

end Op

variable {balance : ℤ}

namespace Follows

variable {l : Ledger}

theorem outcome_ {α : Type} {r r₀ : Except Exn α × Ledger} (h : Follows l False r r₀) :
    Follows l False (outcome r) (outcome r₀) := by
  refine h.then_ rfl rfl ?_
  unfold outcome
  cases r.1 with
  | error e | ok a => simp [Except.map]

/-- A payout raises when its transaction cannot be recorded, and also when its dollars overflow. -/
theorem inDollars_ {r r₀ : Except Exn (Transaction × PayoutSummary) × Ledger}
    (h : Follows l False r r₀) (hbalance : ∀ tx summary, r.1 = .ok (tx, summary) → summary.amountMicroUnits = balance) :
    Follows l (floatLimit ≤ balance) (inDollars r) (inDollars r₀) := by
  rcases h with ⟨hsame, hsame₀⟩ | ⟨tx, hrec, hrec₀, herror⟩
  · exact .inl ⟨by rw [Op.snd_inDollars, hsame], by rw [Op.snd_inDollars, hsame₀]⟩
  · refine .inr ⟨tx, by rw [Op.snd_inDollars, hrec], by rw [Op.snd_inDollars, hrec₀], ?_⟩
    rw [or_false] at herror
    obtain ⟨result, l'⟩ := r
    cases result with
    | error e =>
      have hfails : ¬l.Healthy := herror.mp ⟨e, rfl⟩
      simp [inDollars, hfails]
    | ok pair =>
      obtain ⟨paid, summary⟩ := pair
      have hhealthy : l.Healthy := by
        by_contra hfails
        obtain ⟨e, he⟩ := herror.mpr hfails
        cases he
      have hamount := hbalance paid summary rfl
      simp only [inDollars, amountUsd, hamount, hhealthy, not_true_eq_false, false_or]
      split
      · rename_i hover
        simp [hover]
      · rename_i hover
        simp [hover]

end Follows

namespace Ledger

variable (l : Ledger) (env : Env)

variable {summary : PayoutSummary}

theorem amount_withSummary {r : Except Exn Transaction × Ledger} {subject wallet : String}
    (h : (withSummary subject wallet balance r).1 = .ok (tx, summary)) :
    summary.amountMicroUnits = balance := by
  unfold withSummary at h
  split at h
  · cases h
  · cases h
    rfl

theorem amount_createOperatorTreasuryPayout {wallet ref : Option String}
    (h : (l.createOperatorTreasuryPayout env wallet ref).1 = .ok (tx, summary)) :
    summary.amountMicroUnits = l.rawBalance "revenue:network_fee" := by
  simp only [createOperatorTreasuryPayout] at h
  split at h
  · cases h
  · split at h
    · cases h
    · split at h
      · cases h
      · exact amount_withSummary h

theorem amount_createProviderPayout {node wallet : String} {ref : Option String}
    (h : (l.createProviderPayout env node wallet ref).1 = .ok (tx, summary)) :
    summary.amountMicroUnits = l.rawBalance ("provider:" ++ node) := by
  simp only [createProviderPayout] at h
  split at h
  · cases h
  · split at h
    · cases h
    · exact amount_withSummary h

theorem follows_gatewayDepositCustomerCredits (customer : String) (amount : ℤ) (ref : String) :
    Follows l False (l.gatewayDepositCustomerCredits env customer amount ref)
      (l.inMemory.gatewayDepositCustomerCredits env customer amount ref) := by
  exact .ite (isDemoAccount customer = true) (l.follows_depositCustomerCredits ..)
    (l.follows_depositOwnerPurchasedCredits ..)

/-! ### Calls that record nothing -/

theorem createHold_journal (account : String) (amount : ℤ) (model : String) (ttl : ℚ) (holdId : Option String) :
    (l.createHold env account amount model ttl holdId).2.journal = l.journal := by
  rcases l.createHold_cases env account amount model ttl holdId with h | ⟨hold, avail, -, -, -, -, -, h⟩
  · rw [h]
  · rw [h]
    rfl

theorem renewHold_journal (holdId : String) (seconds : ℚ) :
    (l.renewHold env holdId seconds).2.journal = l.journal := by
  rcases l.renewHold_cases env holdId seconds with h | ⟨hold, -, -, h⟩
  · rw [h]
  · rw [h]
    rfl

theorem releaseHold_journal (holdId : String) : (l.releaseHold holdId).2.journal = l.journal := by
  rcases l.releaseHold_cases holdId with h | ⟨hold, -, h⟩
  · rw [h]
  · rw [h]
    rfl

theorem getOwnerBalances_journal (ownerId : String) : (l.getOwnerBalances env ownerId).2.journal = l.journal :=
  (l.getOwnerBalances_snd env ownerId).journal

theorem createOwnerHold_journal (ownerId : String) (amount : ℤ) (purpose : String) (ttl : ℚ)
    (holdId : Option String) :
    (l.createOwnerHold env ownerId amount purpose ttl holdId).2.journal = l.journal := by
  obtain ⟨l₁, hswept, h | ⟨hold, -, -, h⟩⟩ := l.createOwnerHold_cases env ownerId amount purpose ttl holdId
  · rw [h, hswept.journal]
  · rw [h]
    exact hswept.journal

theorem releaseOwnerHold_journal (holdId : String) : (l.releaseOwnerHold holdId).2.journal = l.journal := by
  rcases l.releaseOwnerHold_cases holdId with h | ⟨hold, -, h⟩
  · rw [h]
  · rw [h]
    rfl

end Ledger

namespace Op

open Ledger

variable {R : Type} [LayerRatio R]

attribute [local irreducible] Ledger.getOwnerBalances Ledger.createOwnerHold in
/-- **What every call does to the journal**: nothing, with a file as without, or one record. -/
theorem follows_call (l : Ledger) (env : Env) (op : Op R) :
    Follows l (op.DollarsOverflow l) (op.call l env) (op.call l.inMemory env) := by
  cases op with
  | createHold account amount model ttl holdId =>
    exact .inl ⟨l.createHold_journal .., l.inMemory.createHold_journal ..⟩
  | renewHold holdId seconds => exact .inl ⟨l.renewHold_journal .., l.inMemory.renewHold_journal ..⟩
  | releaseHold holdId => exact .inl ⟨l.releaseHold_journal .., l.inMemory.releaseHold_journal ..⟩
  | captureHold holdId job => exact (l.follows_captureHold env holdId job).outcome_
  | depositCustomerCredits customer amount ref =>
    exact .ite (l.cls.isGateway = true) (l.follows_gatewayDepositCustomerCredits env customer amount ref).outcome_
      (l.follows_depositCustomerCredits env customer amount ref).outcome_
  | recordJobExecution job => exact (l.follows_recordJobExecution env job).outcome_
  | createOperatorTreasuryPayout wallet ref =>
    show Follows l (floatLimit ≤ l.rawBalance "revenue:network_fee") _ _
    exact (l.follows_createOperatorTreasuryPayout env wallet ref).inDollars_
      fun tx summary h => l.amount_createOperatorTreasuryPayout env h
  | createProviderPayout node wallet ref =>
    show Follows l (floatLimit ≤ l.rawBalance ("provider:" ++ node)) _ _
    exact (l.follows_createProviderPayout env node wallet ref).inDollars_
      fun tx summary h => l.amount_createProviderPayout env h
  | getOwnerBalances owner => exact .inl ⟨l.getOwnerBalances_journal .., l.inMemory.getOwnerBalances_journal ..⟩
  | depositOwnerPurchasedCredits owner amount ref =>
    exact (l.follows_depositOwnerPurchasedCredits env owner amount ref).outcome_
  | grantOwnerPromoCredits owner amount ref policy =>
    exact (l.follows_grantOwnerPromoCredits env owner amount ref policy).outcome_
  | creditOwnerEarnedCredits owner amount ref description =>
    exact (l.follows_creditOwnerEarnedCredits env owner amount ref description).outcome_
  | spendOwnerCredits owner amount ds ref description =>
    exact (l.follows_spendOwnerCredits env owner amount ds ref description).outcome_
  | createOwnerHold owner amount purpose ttl holdId =>
    exact .inl ⟨l.createOwnerHold_journal .., l.inMemory.createOwnerHold_journal ..⟩
  | releaseOwnerHold holdId => exact .inl ⟨l.releaseOwnerHold_journal .., l.inMemory.releaseOwnerHold_journal ..⟩
  | captureOwnerHold holdId actual ds ref description =>
    exact (l.follows_captureOwnerHold env holdId actual ds ref description).outcome_
  | reserveOwnerWithdrawal owner amount ref => exact (l.follows_reserveOwnerWithdrawal env owner amount ref).outcome_
  | finalizeOwnerWithdrawal owner amount ref => exact (l.follows_finalizeOwnerWithdrawal env owner amount ref).outcome_
  | cancelOwnerWithdrawal owner amount ref => exact (l.follows_cancelOwnerWithdrawal env owner amount ref).outcome_
  | reserveConfidentialCredits owner ref amount =>
    exact (l.follows_reserveConfidentialCredits env owner ref amount).outcome_
  | releaseConfidentialReservation owner ref =>
    exact (l.follows_releaseConfidentialReservation env owner ref).outcome_
  | settleConfidentialReservation owner ref actual ds =>
    exact (l.follows_settleConfidentialReservation env owner ref actual ds).outcome_

/-- A call that raises leaves the balances, the transactions and the processed events as they were. -/
def Atomic (l : Ledger) (env : Env) (op : Op R) : Prop :=
  (∃ e, (op.call l env).1 = .error e) →
    (op.call l env).2.journal.balances = l.journal.balances ∧
      (op.call l env).2.journal.transactions = l.journal.transactions ∧
        (op.call l env).2.journal.processedEvents = l.journal.processedEvents

/-- The call passes its checks: without a file, it records a transaction. -/
def Records (l : Ledger) (env : Env) (op : Op R) : Prop :=
  (op.call l.inMemory env).2.journal.transactions ≠ l.journal.transactions

/-- **When one call keeps the law**: its checks refuse it, or nothing can fail after they passed. -/
theorem atomic_call_iff (l : Ledger) (env : Env) (op : Op R) :
    op.Atomic l env ↔ (op.Records l env → l.Healthy ∧ ¬op.DollarsOverflow l) := by
  unfold Atomic Records
  rcases op.follows_call l env with ⟨hsame, hsame₀⟩ | ⟨tx, hrec, hrec₀, hraises⟩
  · rw [hsame, hsame₀]
    exact ⟨fun _ h => absurd rfl h, fun _ _ => ⟨rfl, rfl, rfl⟩⟩
  · have htransactions : (op.call l env).2.journal.transactions = l.journal.transactions ++ [tx] := by
      rw [hrec]
      exact l.recorded_transactions tx
    have hrecords : (op.call l.inMemory env).2.journal.transactions ≠ l.journal.transactions := by
      rw [hrec₀]
      intro h
      have := congrArg List.length ((l.inMemory.recorded_transactions tx).symm.trans h)
      simp [inMemory] at this
    rw [hraises, htransactions]
    generalize op.DollarsOverflow l = overflow at *
    constructor
    · intro hatomic hrecorded
      by_contra hfails
      rw [not_and_or, not_not] at hfails
      have := (hatomic hfails).2.1
      simp at this
    · intro hfine hfails
      obtain ⟨hhealthy, hfits⟩ := hfine hrecords
      rcases hfails with hfails | hfails
      · exact absurd hhealthy hfails
      · exact absurd hfails hfits

/-! ### Which ledgers keep the law -/

theorem newTransaction_transfer (t e c d source sourceType target targetType : String) {amount : ℤ}
    (hpos : 0 < amount) :
    ∃ tx, newTransaction t e c d
      [{ accountId := source, accountType := sourceType, debitMicroUnits := amount },
       { accountId := target, accountType := targetType, creditMicroUnits := amount }] = .ok tx := by
  have hneg : ¬amount < 0 := by omega
  have hzero : ¬amount ≤ 0 := by omega
  simp [newTransaction, newPostings, Posting.new, Transaction.new, fieldsOf, totalDebits, totalCredits, hpos, hneg,
    hzero]

theorem exists_unusedReference (l : Ledger) (tag : String) :
    ∃ ref, ref ≠ "" ∧ tag ++ ref ∉ l.journal.processedEvents := by
  have hinjective : Function.Injective fun ref : String => tag ++ ref :=
    fun _ _ h => (String.append_right_inj tag).mp h
  obtain ⟨ref, href⟩ := Infinite.exists_notMem_finset
    (insert "" (l.journal.processedEvents.toFinset.preimage (tag ++ ·) hinjective.injOn))
  refine ⟨ref, ?_, ?_⟩
  · intro h
    exact href (by simp [h])
  · intro h
    exact href (by simp [h])

theorem records_of_commitNew {l : Ledger} (h : built = .ok tx) :
    (l.inMemory.commitNew built).2.journal.transactions ≠ l.journal.transactions := by
  intro hsame
  have hrecorded : (l.inMemory.commitNew built).2.journal.transactions = l.journal.transactions ++ [tx] := by
    rw [h]
    show (l.inMemory.commit tx).2.journal.transactions = _
    rw [Ledger.commit_snd, recorded_transactions]
    rfl
  have := congrArg List.length (hrecorded.symm.trans hsame)
  simp at this

/-- A deposit for a demo account under a new reference passes the checks of every class. -/
theorem exists_records_deposit (l : Ledger) (env : Env) :
    ∃ ref, Records (R := R) l env (depositCustomerCredits "teaser_a" 1 ref) := by
  obtain ⟨ref, -, hnew⟩ := exists_unusedReference l "deposit:"
  refine ⟨ref, ?_⟩
  have hcall : ((depositCustomerCredits "teaser_a" 1 ref : Op R).call l.inMemory env).2
      = (l.inMemory.depositCustomerCredits env "teaser_a" 1 ref).2 := by
    have hdemo : isDemoAccount "teaser_a" = true := by decide
    simp only [call, Ledger.gatewayDepositCustomerCredits, hdemo, if_true, ite_self]
    rfl
  unfold Records
  rw [hcall]
  simp only [Ledger.depositCustomerCredits]
  rw [if_neg (by decide), if_neg (show "deposit:" ++ ref ∉ l.inMemory.journal.processedEvents from hnew)]
  exact records_of_commitNew (newTransaction_transfer _ _ _ _ _ _ _ _ (by decide)).choose_spec

theorem pos_of_floatLimit_le (h : floatLimit ≤ balance) : 0 < balance ∧ minimumPayoutMicroUnits ≤ balance := by
  have hlimit : minimumPayoutMicroUnits ≤ floatLimit := by
    have hpow : (1 : ℤ) ≤ 2 ^ 970 := one_le_pow₀ (by decide)
    have hsplit : (2 : ℤ) ^ 1024 = 2 ^ 54 * 2 ^ 970 := by rw [← pow_add]
    unfold floatLimit minimumPayoutMicroUnits
    rw [hsplit]
    generalize (2 : ℤ) ^ 970 = x at hpow ⊢
    omega
  have hmin : (0 : ℤ) < minimumPayoutMicroUnits := by decide
  omega

theorem orDefault_some {ref : String} (h : ref ≠ "") (fallback : String) : orDefault (some ref) fallback = ref := by
  simp [orDefault, h]

theorem records_withSummary {l : Ledger} (h : built = .ok tx) (subject wallet : String) (balance : ℤ) :
    (withSummary subject wallet balance (l.inMemory.commitNew built)).2.journal.transactions
      ≠ l.journal.transactions := by
  have hkept : ∀ r : Except Exn Transaction × Ledger, (withSummary subject wallet balance r).2 = r.2 := by
    intro r
    unfold withSummary
    split <;> rfl
  rw [hkept]
  exact records_of_commitNew h

/-- A payout of the network fees under a new reference passes its checks when their dollars overflow. -/
theorem exists_records_operatorPayout {l : Ledger} (env : Env) (hover : floatLimit ≤ l.rawBalance "revenue:network_fee") :
    ∃ ref, Records (R := R) l env (createOperatorTreasuryPayout (some "w") (some ref)) := by
  obtain ⟨hpos, -⟩ := pos_of_floatLimit_le hover
  obtain ⟨ref, href, hnew⟩ := exists_unusedReference l "payout:operator_treasury:"
  refine ⟨ref, ?_⟩
  have hwallet : orDefault (some "w") l.inMemory.operatorTreasuryWallet = "w" := orDefault_some (by decide) _
  unfold Records
  simp only [call, snd_inDollars, Ledger.createOperatorTreasuryPayout, hwallet, orDefault_some href]
  rw [if_neg (by decide), if_neg (show ¬l.inMemory.rawBalance "revenue:network_fee" ≤ 0 from not_le.mpr hpos),
    if_neg (show "payout:operator_treasury:" ++ ref ∉ l.inMemory.journal.processedEvents from hnew)]
  exact records_withSummary (newTransaction_transfer _ _ _ _ _ _ _ _ hpos).choose_spec _ _ _

theorem exists_records_providerPayout {l : Ledger} (env : Env) {node : String}
    (hover : floatLimit ≤ l.rawBalance ("provider:" ++ node)) :
    ∃ ref, Records (R := R) l env (createProviderPayout node "w" (some ref)) := by
  obtain ⟨hpos, hmin⟩ := pos_of_floatLimit_le hover
  obtain ⟨ref, href, hnew⟩ := exists_unusedReference l ("payout:" ++ node ++ ":")
  refine ⟨ref, ?_⟩
  unfold Records
  simp only [call, snd_inDollars, Ledger.createProviderPayout, orDefault_some href]
  rw [if_neg (show ¬l.inMemory.rawBalance ("provider:" ++ node) < minimumPayoutMicroUnits from not_lt.mpr hmin),
    if_neg (show "payout:" ++ node ++ ":" ++ ref ∉ l.inMemory.journal.processedEvents from hnew)]
  exact records_withSummary (newTransaction_transfer _ _ _ _ _ _ _ _ hpos).choose_spec _ _ _

end Op

/-- The dollars of every balance that can be paid out fit into a float. -/
def Ledger.PayoutsFit (l : Ledger) : Prop :=
  l.rawBalance "revenue:network_fee" < floatLimit ∧ ∀ node, l.rawBalance ("provider:" ++ node) < floatLimit

/-- A ledger whose journal file cannot be written to. -/
def unwritableLedger : Ledger := Ledger.fresh .ledger 2500 "" (some ⟨[], true⟩)

end ComputeMesh.Billing
