import ComputeMesh.Billing.OwnerInflight

/-!
# The books of owner payouts

What the rows say and what the ledger says, side by side.  `StatusOk` lists, status by status, which
transactions of a settlement may be in the ledger; `Books` adds that they are for the row's amount, and that
an owner's pending balance is the sum of the withdrawals that are open.

The guards of the code look at the pending balance of the owner, not of the settlement.  With one settlement
in flight the two are the same (`Books.open_of_covered`), and the guards mean what they should.

* `payouts_complete_once` — **a completed payout has one reservation and one finalization, and the pending
  balance is the sum of the open withdrawals**, in every run in which the listing reaches the owner's rows;
* `cancel_takes_other_reservation` — without that, a cancellation takes the reservation of another
  settlement.
-/

namespace ComputeMesh.Billing

open ComputeMesh.Text Dict SettlementStore Journal OwnerSettlements

attribute [local irreducible] Ledger.creditOwnerEarnedCredits

/-! ### Open withdrawals -/

/-- Reserved in the ledger, and neither finalized nor cancelled. -/
def Journal.Open (j : Journal) (id : SettlementId) : Prop :=
  j.Has .reserve id ∧ ¬j.Has .finalize id ∧ ¬j.Has .cancel id

instance (j : Journal) (id : SettlementId) : Decidable (j.Open id) := inferInstanceAs (Decidable (_ ∧ _))

/-- What a row adds to the open withdrawals of an owner. -/
def openAmount (j : Journal) (owner : String) (row : SettlementRecord) : ℤ :=
  if row.accountKind = .owner ∧ row.accountId = owner ∧ j.Open row.settlementId then
    row.amountMicroUnits
  else 0

theorem openAmount_congr {j j' : Journal} {row : SettlementRecord}
    (h : ∀ w, j'.Has w row.settlementId ↔ j.Has w row.settlementId) (owner : String) :
    openAmount j' owner row = openAmount j owner row := by
  have hopen : j'.Open row.settlementId ↔ j.Open row.settlementId := by simp only [Journal.Open, h]
  simp only [openAmount, hopen]

/-- The sum of the amounts of the owner's settlements that are open. -/
def openWithdrawals (j : Journal) (store : SettlementStore) (owner : String) : ℤ :=
  Dict.sumBy (openAmount j owner) store

/-! ### What the ledger may have, by status -/

/-- Which transactions of a settlement may be in the ledger, by the status of its row. -/
def StatusOk (j : Journal) (id : SettlementId) : Option SettlementStatus → Prop
  | none => ¬j.Has .reserve id ∧ ¬j.Has .finalize id ∧ ¬j.Has .cancel id
  | some .reserving => ¬j.Has .finalize id ∧ (j.Has .cancel id → j.Has .reserve id)
  | some .pending | some .pendingRetry => j.Has .reserve id ∧ ¬j.Has .finalize id
  | some .transferred => j.Has .reserve id ∧ ¬(j.Has .finalize id ∧ j.Has .cancel id)
  | some .completed => j.Has .reserve id ∧ j.Has .finalize id ∧ ¬j.Has .cancel id
  | some .cancelled => ¬j.Has .finalize id ∧ (j.Has .cancel id ↔ j.Has .reserve id)

theorem StatusOk.congr {j j' : Journal} {id : SettlementId} {status : Option SettlementStatus}
    (h : StatusOk j id status) (hsame : ∀ w, j'.Has w id ↔ j.Has w id) : StatusOk j' id status := by
  have heq : ∀ w, j'.Has w id = j.Has w id := fun w => propext (hsame w)
  cases status with
  | none => simpa only [StatusOk, heq] using h
  | some status => cases status <;> simpa only [StatusOk, heq] using h

/-- The transactions of a settlement are those of its owner and for its amount. -/
def TxsOk (j : Journal) (id : SettlementId) (owner : String) (amount : ℤ) : Prop :=
  ∀ tx ∈ j.transactions, (tx.eventId = withdrawalEvent .reserve id →
      ∃ o : OwnerId, o.val = owner ∧ tx.fields = Ledger.withdrawalReservePostings o amount) ∧
    (tx.eventId = withdrawalEvent .finalize id → tx.fields = Ledger.withdrawalFinalizePostings owner amount)

/-- **The books**: the ledger has what the rows allow, for their amounts, and the pending balances are the
open withdrawals. -/
structure Books (l : Ledger) (store : SettlementStore) : Prop where
  status : ∀ id, StatusOk l.journal id (store.statusOf id)
  txs : ∀ id row, Dict.get? store id = some row → TxsOk l.journal id row.accountId row.amountMicroUnits
  pending : ∀ owner, l.rawBalance (pendingAccountOf owner) = openWithdrawals l.journal store owner

namespace Books

variable {l l' : Ledger} {store : SettlementStore}

theorem congr (h : Books l store) (hjournal : l'.journal = l.journal) : Books l' store := by
  refine ⟨by rw [hjournal]; exact h.status, by rw [hjournal]; exact h.txs, fun owner => ?_⟩
  rw [Ledger.rawBalance, hjournal]
  exact h.pending owner

theorem openAmount_nonneg (howned : store.Owned) (j : Journal) (owner : String) :
    ∀ row ∈ Dict.values store, 0 ≤ openAmount j owner row := by
  intro row hrow
  obtain ⟨id, hid⟩ := (mem_values_iff store row).mp hrow
  have := (howned id row hid).2.positive
  unfold openAmount
  split
  · omega
  · exact le_rfl

section

variable (h : Books l store)
include h

theorem pending_nonneg (howned : store.Owned) (owner : String) : 0 ≤ l.rawBalance (pendingAccountOf owner) := by
  rw [h.pending]
  exact sumBy_nonneg (openAmount_nonneg howned l.journal owner)

theorem not_open_of_terminal {id : SettlementId} {row : SettlementRecord}
    (hrow : Dict.get? store id = some row) (hover : row.status.inFlight = false) :
    ¬l.journal.Open id := by
  rintro ⟨hr, hf, hc⟩
  have hstatus := h.status id
  rw [statusOf, hrow] at hstatus
  cases hst : row.status with
  | completed =>
    rw [Option.map_some, hst] at hstatus
    exact hf hstatus.2.1
  | cancelled =>
    rw [Option.map_some, hst] at hstatus
    exact hc (hstatus.2.mpr hr)
  | reserving | pending | pendingRetry | transferred =>
    rw [hst] at hover
    cases hover

/-- **With one settlement in flight, the owner's pending balance is that settlement's**: if it covers the
amount, the settlement is open. -/
theorem open_of_covered (howned : store.Owned) (hsingle : store.Single)
    {id : SettlementId} {row : SettlementRecord} (hrow : Dict.get? store id = some row)
    (hin : row.status.inFlight = true)
    (hcover : row.amountMicroUnits ≤ l.rawBalance (pendingAccountOf row.accountId)) :
    l.journal.Open id := by
  by_contra hnot
  have hzero : ∀ row' ∈ values store, openAmount l.journal row.accountId row' = 0 := by
    intro row' hrow'
    obtain ⟨id', hid'⟩ := (mem_values_iff store row').mp hrow'
    rw [openAmount, if_neg]
    rintro ⟨-, howner, hopen⟩
    rw [(howned id' row' hid').1] at hopen
    cases hin' : row'.status.inFlight with
    | true =>
      rw [hsingle id' id row' row hid' hrow howner hin' hin] at hopen
      exact hnot hopen
    | false => exact h.not_open_of_terminal hid' hin' hopen
  have hsum : openWithdrawals l.journal store row.accountId = 0 := by
    rw [openWithdrawals, sumBy_congr hzero]
    simp [sumBy]
  have hpos := (howned id row hrow).2.positive
  rw [h.pending, hsum] at hcover
  omega

theorem not_open_of_not_covered (howned : store.Owned) {id : SettlementId}
    {row : SettlementRecord} (hrow : Dict.get? store id = some row)
    (hcover : l.rawBalance (pendingAccountOf row.accountId) < row.amountMicroUnits) :
    ¬l.journal.Open id := by
  intro hopen
  obtain ⟨hid, hown⟩ := howned id row hrow
  have hle := le_sumBy (openAmount_nonneg howned l.journal row.accountId) (mem_values_of_get? hrow)
  rw [openAmount, if_pos ⟨hown.kind, rfl, by rwa [hid]⟩] at hle
  rw [h.pending] at hcover
  exact absurd hle (not_le.mpr hcover)

/-! ### How the books change -/

theorem upsert_some (howned : store.Owned) {record old : SettlementRecord}
    (hold : Dict.get? store record.settlementId = some old)
    (hstatus : StatusOk l.journal record.settlementId (some record.status)) :
    Books l (store.upsertSettlement record) := by
  obtain ⟨hkind, howner, hamount⟩ := upsertedRow_of_some hold
  refine ⟨fun id => ?_, fun id row hrow => ?_, fun owner => ?_⟩
  · rw [statusOf_upsert]
    split
    · rename_i hid
      subst hid
      exact hstatus
    · exact h.status id
  · rw [get?_upsertSettlement] at hrow
    split at hrow
    · rename_i hid
      subst hid
      cases hrow
      rw [howner, hamount]
      exact h.txs _ old hold
    · exact h.txs id row hrow
  · have hsame : openAmount l.journal owner (store.upsertedRow record) = openAmount l.journal owner old := by
      simp only [openAmount, hkind, howner, hamount, upsertedRow_settlementId,
        (howned _ old hold).1]
    rw [h.pending, openWithdrawals, openWithdrawals, upsertSettlement, sumBy_set, hold]
    simp [hsame]

theorem upsert_none (hreplay : l.journal.IsReplay) {record : SettlementRecord}
    (hnone : Dict.get? store record.settlementId = none) (hstatus : record.status = .reserving) :
    Books l (store.upsertSettlement record) := by
  have hnothing := h.status record.settlementId
  rw [statusOf, hnone] at hnothing
  obtain ⟨hr, hf, hc⟩ := hnothing
  refine ⟨fun id => ?_, fun id row hrow => ?_, fun owner => ?_⟩
  · rw [statusOf_upsert]
    split
    · rename_i hid
      subst hid
      rw [hstatus]
      exact ⟨hf, fun hcancel => absurd hcancel hc⟩
    · exact h.status id
  · rw [get?_upsertSettlement] at hrow
    split at hrow
    · rename_i hid
      subst hid
      intro tx htx
      exact ⟨fun hevent => absurd ((hreplay.events _).mpr ⟨tx, htx, hevent⟩) hr,
        fun hevent => absurd ((hreplay.events _).mpr ⟨tx, htx, hevent⟩) hf⟩
    · exact h.txs id row hrow
  · have hzero : openAmount l.journal owner (store.upsertedRow record) = 0 := by
      rw [openAmount, if_neg]
      rw [upsertedRow_settlementId]
      exact fun hopen => hr hopen.2.2.1
    rw [h.pending, openWithdrawals, openWithdrawals, upsertSettlement, sumBy_set, hnone]
    simp [hzero]

theorem record_other {tx : Transaction} (hjournal : l'.journal = (l.recorded tx).journal)
    (hne : ∀ w id, withdrawalEvent w id ≠ tx.eventId)
    (hzero : ∀ owner, netChange tx.fields (pendingAccountOf owner) = 0) : Books l' store := by
  have hhas := has_recorded_of_ne hjournal hne
  refine ⟨fun id => (h.status id).congr fun w => hhas w id, fun id row hrow => ?_, fun owner => ?_⟩
  · intro tx' htx'
    rw [hjournal, Ledger.recorded_transactions, List.mem_append, List.mem_singleton] at htx'
    rcases htx' with htx' | rfl
    · exact h.txs id row hrow tx' htx'
    · exact ⟨fun hevent => absurd hevent.symm (hne _ _), fun hevent => absurd hevent.symm (hne _ _)⟩
  · rw [Ledger.rawBalance_of_recorded hjournal, hzero, add_zero, h.pending]
    exact sumBy_congr fun row _ => (openAmount_congr (fun w => hhas w _) owner).symm

/-- **A transaction of a withdrawal.**  The books stay in order if its row may have it, it is for the row's
amount, and it moves the pending balance by what it makes of the open withdrawals. -/
theorem record (howned : store.Owned) {w : Withdrawal} {id : SettlementId}
    {row : SettlementRecord} {tx : Transaction} (hrow : Dict.get? store id = some row)
    (hevent : tx.eventId = withdrawalEvent w id) (hjournal : l'.journal = (l.recorded tx).journal)
    (hstatus : StatusOk l'.journal id (some row.status))
    (hreserve : w = .reserve → ∃ o : OwnerId, o.val = row.accountId ∧
      tx.fields = Ledger.withdrawalReservePostings o row.amountMicroUnits)
    (hfinalize : w = .finalize →
      tx.fields = Ledger.withdrawalFinalizePostings row.accountId row.amountMicroUnits)
    (hpending : ∀ owner, netChange tx.fields (pendingAccountOf owner) + openAmount l.journal owner row
      = openAmount l'.journal owner row) : Books l' store := by
  have hhas := has_recorded hjournal hevent
  have hothers : ∀ j, j ≠ id → ∀ w', l'.journal.Has w' j ↔ l.journal.Has w' j := by
    intro j hj w'
    rw [hhas, or_iff_right fun heq => hj heq.2]
  refine ⟨fun j => ?_, fun j row' hrow' => ?_, fun owner => ?_⟩
  · by_cases hj : j = id
    · subst hj
      rw [statusOf, hrow]
      exact hstatus
    · exact (h.status j).congr (hothers j hj)
  · intro tx' htx'
    rw [hjournal, Ledger.recorded_transactions, List.mem_append, List.mem_singleton] at htx'
    rcases htx' with htx' | rfl
    · exact h.txs j row' hrow' tx' htx'
    · refine ⟨fun hevent' => ?_, fun hevent' => ?_⟩
      · obtain ⟨hw, hj⟩ := withdrawalEvent_inj.mp (hevent.symm.trans hevent')
        subst hj
        cases hrow.symm.trans hrow'
        exact hreserve hw
      · obtain ⟨hw, hj⟩ := withdrawalEvent_inj.mp (hevent.symm.trans hevent')
        subst hj
        cases hrow.symm.trans hrow'
        exact hfinalize hw
  · have hsum : sumBy (openAmount l.journal owner) store + openAmount l'.journal owner row
        = sumBy (openAmount l'.journal owner) store + openAmount l.journal owner row := by
      apply sumBy_eq_of_get? hrow
      intro j row' hrow' hj
      rw [← (howned j row' hrow').1] at hj
      exact (openAmount_congr (hothers _ hj) owner).symm
    have hmove := hpending owner
    rw [Ledger.rawBalance_of_recorded hjournal, h.pending, openWithdrawals, openWithdrawals]
    omega

end

/-! ### The three transactions -/

theorem netChange_reserve_pending (o : OwnerId) (amount : ℤ) (owner : String) :
    netChange (Ledger.withdrawalReservePostings o amount) (pendingAccountOf owner)
      = if o.val = owner then amount else 0 := by
  rw [netChange_withdrawalReserve, if_neg (pendingAccountOf_ne_ownerBucketAccount owner o .earned).symm, sub_zero]
  exact if_congr ⟨pendingAccountOf_inj, congrArg _⟩ rfl rfl

theorem netChange_cancel_pending (o : OwnerId) (amount : ℤ) (owner : String) :
    netChange (Ledger.withdrawalCancelPostings o amount) (pendingAccountOf owner)
      = -if o.val = owner then amount else 0 := by
  rw [netChange_withdrawalCancel, if_neg (pendingAccountOf_ne_ownerBucketAccount owner o .earned).symm, zero_sub]
  exact congrArg _ (if_congr ⟨pendingAccountOf_inj, congrArg _⟩ rfl rfl)

theorem netChange_finalize_pending (holder : String) (amount : ℤ) (owner : String) :
    netChange (Ledger.withdrawalFinalizePostings holder amount) (pendingAccountOf owner)
      = -if holder = owner then amount else 0 := by
  have hgateway : "gateway:escrow" ≠ pendingAccountOf owner := by
    apply ne_of_head
    rw [head_pendingAccountOf]
    decide
  rw [netChange_withdrawalFinalize, if_neg hgateway, sub_zero]
  exact congrArg _ (if_congr ⟨pendingAccountOf_inj, congrArg _⟩ rfl rfl)

theorem openAmount_of_open {j : Journal} {row : SettlementRecord} (hkind : row.accountKind = .owner)
    (hopen : j.Open row.settlementId) (owner : String) :
    openAmount j owner row = if row.accountId = owner then row.amountMicroUnits else 0 := by
  simp only [openAmount, hkind, hopen, and_true, true_and]

theorem openAmount_of_not_open {j : Journal} {row : SettlementRecord} (h : ¬j.Open row.settlementId)
    (owner : String) : openAmount j owner row = 0 := by
  rw [openAmount, if_neg fun hopen => h hopen.2.2]

section Transactions

variable {id : SettlementId} {row : SettlementRecord} {tx : Transaction}

section

variable (h : Books l store) (howned : store.Owned) (hrow : Dict.get? store id = some row)
include h howned hrow

theorem reserve (hstatus : row.status = .reserving) (hnew : ¬l.journal.Has .reserve id)
    (hevent : tx.eventId = withdrawalEvent .reserve id)
    (hjournal : l'.journal = (l.recorded tx).journal)
    (hfields : ∃ o : OwnerId, o.val = row.accountId ∧
      tx.fields = Ledger.withdrawalReservePostings o row.amountMicroUnits) : Books l' store := by
  obtain ⟨hid, hown⟩ := howned id row hrow
  have hhas := has_recorded hjournal hevent
  have hold := h.status id
  rw [statusOf, hrow, Option.map_some, hstatus] at hold
  have hopen : l'.journal.Open row.settlementId := by
    rw [hid]
    refine ⟨(hhas _ _).mpr (.inl ⟨rfl, rfl⟩), fun hf => ?_, fun hc => ?_⟩
    · rcases (hhas _ _).mp hf with ⟨hw, -⟩ | hf
      · cases hw
      · exact hold.1 hf
    · rcases (hhas _ _).mp hc with ⟨hw, -⟩ | hc
      · cases hw
      · exact hnew (hold.2 hc)
  have hclosed : ¬l.journal.Open row.settlementId := by
    rw [hid]
    exact fun hopen => hnew hopen.1
  refine h.record howned hrow hevent hjournal ?_ (fun _ => hfields) (fun hw => by cases hw) fun owner => ?_
  · rw [hstatus, ← hid]
    exact ⟨hopen.2.1, fun _ => hopen.1⟩
  · obtain ⟨o, ho, hfields⟩ := hfields
    rw [hfields, netChange_reserve_pending, ho, openAmount_of_not_open hclosed,
      openAmount_of_open hown.kind hopen, add_zero]

theorem finalize (hstatus : row.status = .transferred) (hopen : l.journal.Open id)
    (hevent : tx.eventId = withdrawalEvent .finalize id)
    (hjournal : l'.journal = (l.recorded tx).journal)
    (hfields : tx.fields = Ledger.withdrawalFinalizePostings row.accountId row.amountMicroUnits) :
    Books l' store := by
  obtain ⟨hid, hown⟩ := howned id row hrow
  have hhas := has_recorded hjournal hevent
  have hclosed : ¬l'.journal.Open row.settlementId := by
    rw [hid]
    exact fun hopen' => hopen'.2.1 ((hhas _ _).mpr (.inl ⟨rfl, rfl⟩))
  refine h.record howned hrow hevent hjournal ?_ (fun hw => by cases hw) (fun _ => hfields) fun owner => ?_
  · rw [hstatus]
    refine ⟨(hhas _ _).mpr (.inr hopen.1), fun hboth => ?_⟩
    rcases (hhas _ _).mp hboth.2 with ⟨hw, -⟩ | hc
    · cases hw
    · exact hopen.2.2 hc
  · rw [hfields, netChange_finalize_pending, openAmount_of_not_open hclosed,
      openAmount_of_open hown.kind (by rwa [hid])]
    omega

theorem cancel (hstatus : row.status = .reserving ∨ row.status = .pending) (hopen : l.journal.Open id)
    (hevent : tx.eventId = withdrawalEvent .cancel id)
    (hjournal : l'.journal = (l.recorded tx).journal)
    (hfields : ∃ o : OwnerId, o.val = row.accountId ∧
      tx.fields = Ledger.withdrawalCancelPostings o row.amountMicroUnits) : Books l' store := by
  obtain ⟨hid, hown⟩ := howned id row hrow
  have hhas := has_recorded hjournal hevent
  have hreserved : l'.journal.Has .reserve id := (hhas _ _).mpr (.inr hopen.1)
  have hfinal : ¬l'.journal.Has .finalize id := by
    intro hf
    rcases (hhas _ _).mp hf with ⟨hw, -⟩ | hf
    · cases hw
    · exact hopen.2.1 hf
  have hclosed : ¬l'.journal.Open row.settlementId := by
    rw [hid]
    exact fun hopen' => hopen'.2.2 ((hhas _ _).mpr (.inl ⟨rfl, rfl⟩))
  refine h.record howned hrow hevent hjournal ?_ (fun hw => by cases hw) (fun hw => by cases hw)
    fun owner => ?_
  · rcases hstatus with hstatus | hstatus
    · rw [hstatus]
      exact ⟨hfinal, fun _ => hreserved⟩
    · rw [hstatus]
      exact ⟨hreserved, hfinal⟩
  · obtain ⟨o, ho, hfields⟩ := hfields
    rw [hfields, netChange_cancel_pending, ho, openAmount_of_not_open hclosed,
      openAmount_of_open hown.kind (by rwa [hid])]
    omega

end

end Transactions

end Books

/-! ### The invariant -/

/-- What the call under way relies on in the ledger. -/
def Stage.Booked (j : Journal) : Stage → Prop
  | .storePending r _ => j.Has .reserve r.current.settlementId
  | .storeCompleted r _ => j.Has .finalize r.current.settlementId
  | .cancelLedger record => j.Open record.settlementId
  | .storeCancelled record => j.Has .cancel record.settlementId ↔ j.Has .reserve record.settlementId
  | _ => True

theorem Stage.Booked.congr {j j' : Journal} {stage : Stage} (h : stage.Booked j)
    (hsame : ∀ w id, j'.Has w id ↔ j.Has w id) : stage.Booked j' := by
  cases stage with
  | storePending r txId | storeCompleted r txId => exact (hsame _ _).mpr h
  | cancelLedger record => simpa only [Stage.Booked, Journal.Open, hsame] using h
  | storeCancelled record => simpa only [Stage.Booked, hsame] using h
  | _ => trivial

theorem Stage.booked_resumeFrom (j : Journal) (r : Resuming) : (resumeFrom r).Booked j := by
  unfold resumeFrom
  cases r.current.status <;> trivial

theorem Stage.booked_resume (j : Journal) (store : SettlementStore) (profile : Option OwnerPayoutProfile)
    (record : SettlementRecord) : (resume store profile record).Booked j := by
  rcases resume_cases store profile record with ⟨answer, heq⟩ | heq <;> rw [heq]
  · trivial
  · exact Stage.booked_resumeFrom j _

namespace OwnerSettlements

/-- **The invariant**: one settlement in flight for an owner, and the books in order. -/
structure InOrder (s : OwnerSettlements) : Prop where
  one : s.OneInFlight
  books : Books s.ledger s.accountStore
  booked : s.stage.Booked s.ledger.journal

variable {s : OwnerSettlements}

section

variable (h : s.InOrder) {record : SettlementRecord} {owner : String} {amount : ℤ}
  (hholds : s.accountStore.Holds record owner amount)
include h hholds

theorem InOrder.statusOk : StatusOk s.ledger.journal record.settlementId (some record.status) := by
  rw [← statusOf_of_holds hholds]
  exact h.books.status _

theorem InOrder.store (record' : SettlementRecord) (hid : record'.settlementId = record.settlementId)
    (hstatus : StatusOk s.ledger.journal record.settlementId (some record'.status)) :
    Books s.ledger (s.accountStore.upsertSettlement record') := by
  obtain ⟨row, hrow, -⟩ := hholds
  rw [← hid] at hrow hstatus
  exact h.books.upsert_some h.one.sound.owned hrow hstatus

theorem InOrder.open_of_covered (hin : record.status.inFlight = true)
    (hcover : amount ≤ s.ledger.rawBalance (pendingAccountOf owner)) :
    s.ledger.journal.Open record.settlementId := by
  obtain ⟨row, hrow, hstatus, howner, hamount⟩ := hholds
  refine h.books.open_of_covered h.one.sound.owned h.one.single hrow (by rwa [hstatus]) ?_
  rwa [howner, hamount]

end

theorem booked_and_books_advance (h : s.InOrder) (env : Env) (profile : Option OwnerPayoutProfile)
    (outcome : TransferOutcome) :
    Books (s.advance env profile outcome).ledger (s.advance env profile outcome).accountStore ∧
      (s.advance env profile outcome).stage.Booked (s.advance env profile outcome).ledger.journal := by
  have hsound := h.one.sound
  have hok := hsound.stage
  have hbooked := h.booked
  unfold advance
  split
  · exact ⟨h.books, hbooked⟩
  · rename_i record hstage
    rw [hstage] at hok
    exact ⟨h.books.upsert_none hsound.replay hok.2.2 hok.2.1, Stage.booked_resume _ _ _ _⟩
  · rename_i r hstage
    rw [hstage] at hok
    obtain ⟨row, hrow, hstatus, howner, hamount, -⟩ := hsound.holds hok.1
    obtain ⟨l, stage, heq, ⟨tx, o, txId, hnew, hevent, ho, hfields, hjournal, rfl⟩ |
      ⟨hjournal, ⟨answer, rfl⟩ | ⟨hseen, -, txId, rfl⟩⟩⟩ := advanceReserve_cases hsound env hok.1
    · rw [heq]
      refine ⟨h.books.reserve hsound.owned hrow (hstatus.trans hok.2) hnew hevent hjournal
        ⟨o, ho.trans howner.symm, by rw [hamount]; exact hfields⟩, ?_⟩
      exact (has_recorded hjournal hevent _ _).mpr (.inl ⟨rfl, rfl⟩)
    · rw [heq]
      exact ⟨h.books.congr hjournal, trivial⟩
    · rw [heq]
      refine ⟨h.books.congr hjournal, ?_⟩
      show l.journal.Has _ _
      rw [hjournal]
      exact hseen
  · rename_i r txId hstage
    rw [hstage] at hok hbooked
    have hstatus := h.statusOk hok.1
    rw [hok.2] at hstatus
    refine ⟨h.store hok.1 _ rfl ⟨hbooked, hstatus.1⟩, ?_⟩
    simp only [store]
    exact Stage.booked_resumeFrom _ _
  · rename_i r hstage
    obtain ⟨ts, stage, heq, -, ⟨transferId, rfl⟩ | ⟨exn, rfl⟩⟩ := s.advanceTransfer_cases outcome r
    · rw [heq]
      exact ⟨h.books, trivial⟩
    · rw [heq]
      exact ⟨h.books, trivial⟩
  · rename_i r exn hstage
    rw [hstage] at hok
    have hstatus := h.statusOk hok.1
    refine ⟨h.store hok.1 _ rfl ?_, trivial⟩
    rcases hok.2 with hpending | hpending <;> rw [hpending] at hstatus <;> exact hstatus
  · rename_i r transferId hstage
    rw [hstage] at hok
    have hstatus := h.statusOk hok.1
    refine ⟨h.store hok.1 _ rfl ?_, ?_⟩
    · rcases hok.2 with hpending | hpending <;> rw [hpending] at hstatus <;>
        exact ⟨hstatus.1, fun hboth => hstatus.2 hboth.1⟩
    · simp only [store]
      exact Stage.booked_resumeFrom _ _
  · rename_i r hstage
    rw [hstage] at hok
    obtain ⟨row, hrow, hstatus, howner, hamount, -⟩ := hsound.holds hok.1
    obtain ⟨l, stage, heq, ⟨tx, txId, hnew, hevent, hfields, hcover, hjournal, rfl⟩ |
      ⟨hjournal, ⟨answer, rfl⟩ | ⟨hseen, txId, rfl⟩⟩⟩ := advanceFinalize_cases hsound env hok.1
    · rw [heq]
      have hopen := h.open_of_covered hok.1 (by rw [hok.2]; rfl) hcover
      refine ⟨h.books.finalize hsound.owned hrow (hstatus.trans hok.2) hopen hevent hjournal
        (by rw [howner, hamount]; exact hfields), ?_⟩
      exact (has_recorded hjournal hevent _ _).mpr (.inl ⟨rfl, rfl⟩)
    · rw [heq]
      exact ⟨h.books.congr hjournal, trivial⟩
    · rw [heq]
      refine ⟨h.books.congr hjournal, ?_⟩
      show l.journal.Has _ _
      rw [hjournal]
      exact hseen
  · rename_i r txId hstage
    rw [hstage] at hok hbooked
    have hstatus := h.statusOk hok.1
    rw [hok.2] at hstatus
    exact ⟨h.store hok.1 _ rfl ⟨hstatus.1, hbooked, fun hc => hstatus.2 ⟨hbooked, hc⟩⟩, trivial⟩
  · rename_i record hstage
    rw [hstage] at hok hbooked
    obtain ⟨row, hrow, hstatus, howner, hamount, -⟩ := hsound.holds hok.1
    obtain ⟨l, stage, heq, ⟨tx, o, hnew, hevent, ho, hfields, hjournal, rfl⟩ |
      ⟨hjournal, ⟨answer, rfl⟩ | ⟨hseen, rfl⟩⟩⟩ := advanceCancel_cases hsound env hok.1
    · rw [heq]
      refine ⟨h.books.cancel hsound.owned hrow (by rw [hstatus]; exact hok.2) hbooked hevent hjournal
        ⟨o, ho.trans howner.symm, by rw [hamount]; exact hfields⟩, ?_⟩
      have hhas := has_recorded hjournal hevent
      exact iff_of_true ((hhas _ _).mpr (.inl ⟨rfl, rfl⟩)) ((hhas _ _).mpr (.inr hbooked.1))
    · rw [heq]
      exact ⟨h.books.congr hjournal, trivial⟩
    · exact absurd hseen hbooked.2.2
  · rename_i record hstage
    rw [hstage] at hok hbooked
    have hstatus := h.statusOk hok.1
    refine ⟨h.store hok.1 _ rfl ⟨?_, hbooked⟩, trivial⟩
    rcases hok.2 with hpending | hpending
    · rw [hpending] at hstatus
      exact hstatus.1
    · rw [hpending] at hstatus
      exact hstatus.2

/-- **Every step keeps the books in order**, if the listing reaches what it looks for. -/
theorem InOrder.next (h : s.InOrder) {step : OwnerStep} (hlisted : s.Listed step) :
    (s.next step).InOrder := by
  have hone := h.one.next hlisted
  have hsound := h.one.sound
  suffices hrest : Books (s.next step).ledger (s.next step).accountStore ∧
      (s.next step).stage.Booked (s.next step).ledger.journal from ⟨hone, hrest.1, hrest.2⟩
  cases step with
  | run input ownerId amount reference =>
    simp only [OwnerSettlements.next]
    split
    · obtain ⟨hbegins, hstage⟩ := s.runOwnerSettlement_spec input ownerId amount reference
      refine ⟨by rw [hbegins.store]; exact h.books.congr hbegins.journal, ?_⟩
      rcases hstage with ⟨answer, hstage⟩ | ⟨record, -, hstage⟩ | ⟨record, hstage, -⟩
      · rw [hstage]
        trivial
      · rw [hstage]
        exact Stage.booked_resume _ _ _ _
      · rw [hstage]
        trivial
    · exact ⟨h.books, h.booked⟩
  | cancel id =>
    simp only [OwnerSettlements.next]
    split
    · refine ⟨h.books, ?_⟩
      show (s.cancelUntransferredSettlement id).Booked s.ledger.journal
      rcases s.cancelUntransferredSettlement_spec hsound.owned id with
        ⟨answer, hstage⟩ | ⟨record, hrecord, hstatus, ⟨hstage, hcover⟩ | ⟨hstage, hreserving, hcover⟩⟩
      · rw [hstage]
        trivial
      · rw [hstage]
        refine h.open_of_covered (holds_of_mem hsound.owned (mem_values_of_get? hrecord)) ?_ hcover
        rcases hstatus with hstatus | hstatus <;> rw [hstatus] <;> rfl
      · rw [hstage]
        have hnot := h.books.not_open_of_not_covered hsound.owned hrecord hcover
        have hok := h.books.status id
        rw [statusOf, hrecord, Option.map_some, hreserving] at hok
        show s.ledger.journal.Has .cancel record.settlementId ↔ _
        rw [(hsound.owned id record hrecord).1]
        refine ⟨hok.2, fun hr => ?_⟩
        by_contra hc
        exact hnot ⟨hr, hok.1, hc⟩
    · exact ⟨h.books, h.booked⟩
  | advance env profile outcome => exact booked_and_books_advance h env profile outcome
  | earn env ownerId amount reference =>
    rcases earn_cases hsound.replay env ownerId amount reference "Verified provider earnings" with
      hjournal | ⟨tx, o, -, hevent, hfields, hjournal⟩
    · exact ⟨h.books.congr hjournal, h.booked.congr fun w id => by rw [OwnerSettlements.next, hjournal]⟩
    · have hne : ∀ w id, withdrawalEvent w id ≠ tx.eventId := by
        intro w id
        rw [hevent]
        exact withdrawalEvent_ne_earning w id _
      refine ⟨h.books.record_other hjournal hne fun owner => ?_,
        h.booked.congr (has_recorded_of_ne hjournal hne)⟩
      rw [hfields, netChange_earning_of_owner o amount (head_pendingAccountOf owner),
        if_neg (pendingAccountOf_ne_ownerBucketAccount owner o .earned).symm]
  | crash env =>
    obtain ⟨l, hrestart, hjournal⟩ := restart_of_sound hsound env
    rw [next_crash hrestart]
    exact ⟨h.books.congr hjournal, trivial⟩

theorem inOrder_start (cls : LedgerClass) (networkFeeBps : ℤ) (wallet : String) :
    (start cls networkFeeBps wallet).InOrder := by
  refine ⟨oneInFlight_start cls networkFeeBps wallet, ⟨fun id => ?_, ?_, fun owner => rfl⟩, trivial⟩
  · exact ⟨fun h => (by cases h), fun h => (by cases h), fun h => (by cases h)⟩
  · intro id row hrow
    cases hrow

/-- A settlement has one reservation in the ledger, for its amount. -/
def ReservedOnce (j : Journal) (row : SettlementRecord) : Prop :=
  ∃ tx, (j.transactions.filter fun t => t.eventId = withdrawalEvent .reserve row.settlementId) = [tx] ∧
    ∃ o : OwnerId, o.val = row.accountId ∧ tx.fields = Ledger.withdrawalReservePostings o row.amountMicroUnits

/-- A settlement has one finalization in the ledger, for its amount. -/
def FinalizedOnce (j : Journal) (row : SettlementRecord) : Prop :=
  ∃ tx, (j.transactions.filter fun t => t.eventId = withdrawalEvent .finalize row.settlementId) = [tx] ∧
    tx.fields = Ledger.withdrawalFinalizePostings row.accountId row.amountMicroUnits

theorem InOrder.completed (h : s.InOrder) {row : SettlementRecord} (hrow : row ∈ Dict.values s.accountStore)
    (hstatus : row.status = .completed) :
    ReservedOnce s.ledger.journal row ∧ FinalizedOnce s.ledger.journal row := by
  obtain ⟨id, hid⟩ := (mem_values_iff _ row).mp hrow
  have hown := (h.one.sound.owned id row hid).1
  subst hown
  have hok := h.books.status row.settlementId
  rw [statusOf, hid, Option.map_some, hstatus] at hok
  have hreplay := h.one.sound.replay
  obtain ⟨tx, htx, hevent⟩ := (hreplay.events _).mp hok.1
  obtain ⟨tx', htx', hevent'⟩ := (hreplay.events _).mp hok.2.1
  have htxs := h.books.txs _ row hid
  refine ⟨⟨tx, ?_, (htxs tx htx).1 hevent⟩, ⟨tx', ?_, (htxs tx' htx').2 hevent'⟩⟩
  · rw [← hevent]
    exact hreplay.filter_event htx
  · rw [← hevent']
    exact hreplay.filter_event htx'

/-- **Payouts complete exactly once.**  In every run in which the listing reaches the owner's rows whenever a
settlement is asked for, a completed settlement has one reservation and one finalization in the ledger, both
for its amount, and the pending balance of every owner is the sum of the owner's withdrawals that are
reserved and neither finalized nor cancelled; it is never negative. -/
theorem payouts_complete_once (cls : LedgerClass) (networkFeeBps : ℤ) (wallet : String) (steps : List OwnerStep)
    (hlisted : Run.Along next Listed (start cls networkFeeBps wallet) steps) :
    let s := Run.exec next (start cls networkFeeBps wallet) steps
    (∀ row ∈ values s.accountStore, row.status = .completed →
        ReservedOnce s.ledger.journal row ∧ FinalizedOnce s.ledger.journal row) ∧
      ∀ owner, s.ledger.rawBalance (pendingAccountOf owner) = openWithdrawals s.ledger.journal s.accountStore owner ∧
        0 ≤ s.ledger.rawBalance (pendingAccountOf owner) := by
  intro s
  have horder : s.InOrder := Run.exec_of_along InOrder (fun _ _ h hl => h.next hl)
    (inOrder_start cls networkFeeBps wallet) hlisted
  refine ⟨fun row hrow hstatus => horder.completed hrow hstatus, fun owner => ⟨?_, ?_⟩⟩
  · exact horder.books.pending owner
  · exact horder.books.pending_nonneg horder.one.sound.owned owner

/-- A payout that completes after a crash, and one that is retried. -/
theorem payouts_complete_once_sample :
    let steps := payoutSteps ++ [sampleAdvance, .crash (Env.atTime 3),
      .run sampleInput "alice" none (some "again"), sampleAdvance, sampleAdvance]
    let s := Run.exec next (start .payoutCapable 1000 "") steps
    (∃ row ∈ values s.accountStore, row.status = .completed ∧
        ReservedOnce s.ledger.journal row ∧ FinalizedOnce s.ledger.journal row) ∧
      s.ledger.rawBalance (pendingAccountOf "alice") = 0 := by
  intro steps s
  obtain ⟨hlisted, ⟨row, hrow, hstatus⟩, hpending⟩ : Run.Along next Listed (start .payoutCapable 1000 "") steps ∧
      (∃ row ∈ values s.accountStore, row.status = .completed) ∧ s.ledger.rawBalance (pendingAccountOf "alice") = 0 := by
    decide +kernel
  exact ⟨⟨row, hrow, hstatus, (payouts_complete_once .payoutCapable 1000 "" steps hlisted).1 row hrow hstatus⟩, hpending⟩

/-- The first owner earns again and asks for a withdrawal, up to the insertion of the new row. -/
def begunSteps : List OwnerStep :=
  [earnStep (stuckOwner 0) 501, .run (stuckInput (stuckOwner 0) 501) (stuckOwner 0).val none none,
    .advance (stuckEnv 501) (some (stuckProfile (stuckOwner 0))) (.failed "")]

/-- The row that is inserted. -/
def begunRow : SettlementRecord :=
  newRow (stuckOwner 0) (stuckInput (stuckOwner 0) 501) (stuckProfile (stuckOwner 0)) minimumPayoutMicroUnits

theorem Stuck.begun (h : s.Stuck 501) :
    ∃ earning : Transaction, earning.eventId = "owner-earning:" ++ stuckReference 501 ∧
      earning.fields = Ledger.bucketCreditPostings "expense:provider_earnings" providerEarningsExpense
        (stuckOwner 0) .earned minimumPayoutMicroUnits ∧
      (Run.exec next s begunSteps).ledger = s.ledger.recorded earning ∧
      (Run.exec next s begunSteps).accountStore = Dict.set s.accountStore (stuckId 501) begunRow ∧
      (Run.exec next s begunSteps).Sound := by
  have hready := h.ready (by decide) 0 (first_is_not_found h)
  obtain ⟨earning, hevent, hfields, hearn⟩ := hready.earn
  obtain ⟨answer, hidle⟩ := hready.idle
  have hinsert := run_inserts (s := { s with ledger := s.ledger.recorded earning }) hidle h.noHolds
    (show (stuckInput (stuckOwner 0) 501).refreshed = .ok (stuckProfile (stuckOwner 0)) from rfl) rfl
    hready.notFound (hready.earned_balance hfields) (by decide) le_rfl
  have hfresh : Run.Along next FreshId s begunSteps := ⟨trivial, fun _ => hready.newId, trivial, trivial⟩
  have hexec : Run.exec next s begunSteps = ⟨s.ledger.recorded earning,
      set s.accountStore (stuckId 501) begunRow, s.transfers,
      .reserve ⟨(stuckOwner 0).val, minimumPayoutMicroUnits, begunRow⟩⟩ := by
    simp only [begunSteps, Run.exec, List.foldl_cons, List.foldl_nil]
    rw [hearn, hinsert]
    exact insert_reserves _ _ _ _ _ _ _ _ _ hready.newId
  refine ⟨earning, hevent, hfields, by rw [hexec], by rw [hexec],
    Run.exec_of_along Sound (fun _ _ hs hok => hs.next hok) h.sound hfresh⟩

/-- After 501 owners are stuck, a settlement is begun for the first, the process crashes once its row is
inserted, and it is cancelled in the ledger. -/
def takingSteps : List OwnerStep :=
  stuckSteps 501 ++ (begunSteps ++ .crash (stuckEnv 502) ::
    [.cancel (stuckId 501), .advance (stuckEnv 502) none (.failed "")])

/-- **A cancellation takes the reservation of another settlement**: nothing is pending for the owner any
more, and a withdrawal is still open. -/
theorem cancel_takes_other_reservation :
    let s := Run.exec next (start .payoutCapable 1000 "") takingSteps
    s.ledger.rawBalance (pendingAccountOf (stuckOwner 0).val) = 0 ∧
      0 < openWithdrawals s.ledger.journal s.accountStore (stuckOwner 0).val := by
  have hstuck := stuck_owners .payoutCapable 1000 "" 501 (by decide)
  rw [takingSteps, Run.exec_append]
  generalize Run.exec next (start .payoutCapable 1000 "") (stuckSteps 501) = s at hstuck ⊢
  obtain ⟨earning, hevent, hfields, hledger, hstore, hsound⟩ := hstuck.begun
  rw [Run.exec_append]
  generalize Run.exec next s begunSteps = s' at hledger hstore hsound ⊢
  obtain ⟨l, hrestart, hjournal⟩ := restart_of_sound hsound (stuckEnv 502)
  rw [hledger] at hjournal
  have hpending : l.rawBalance (pendingAccountOf (stuckOwner 0).val) = minimumPayoutMicroUnits := by
    rw [Ledger.rawBalance_of_recorded hjournal, hstuck.pending 0 (by decide), hfields,
      netChange_earning_of_owner _ _ (head_pendingAccountOf _),
      if_neg (pendingAccountOf_ne_ownerBucketAccount _ _ _).symm, if_pos (by decide), add_zero]
  have hhas : ∀ w id, l.journal.Has w id ↔ w = .reserve ∧ ∃ k < 501, id = stuckId k := by
    intro w id
    rw [has_recorded_of_ne hjournal fun w id => by
      rw [hevent]
      exact withdrawalEvent_ne_earning w id _]
    show withdrawalEvent w id ∈ s.ledger.journal.processedEvents ↔ _
    rw [hstuck.events]
    constructor
    · rintro ⟨k, hk, heq | heq⟩
      · obtain ⟨hw, hid⟩ := withdrawalEvent_inj.mp heq
        exact ⟨hw, k, hk, hid⟩
      · exact absurd heq (withdrawalEvent_ne_earning w id _)
    · rintro ⟨rfl, k, hk, rfl⟩
      exact ⟨k, hk, .inl rfl⟩
  have hhealthy : l.Healthy := Ledger.healthy_of_isWritten (by rw [hjournal, ← hledger]; exact hsound.written)
  obtain ⟨tx, htx, htxFields, hcancel⟩ := cancel_records (stuckOwner 0)
    (stuckInput (stuckOwner 0) 501) (stuckProfile (stuckOwner 0)) s'.transfers none
    (show stuckId 501 = _ from rfl) (show begunRow = _ from rfl) hhealthy (get?_set_self s.accountStore (stuckId 501) begunRow)
    (by decide : 0 < minimumPayoutMicroUnits) hpending.ge (fun h => by cases ((hhas _ _).mp h).1)
    (stuckEnv 502) none (.failed "")
  have hend : Run.exec next s' (.crash (stuckEnv 502) ::
      [.cancel (stuckId 501), .advance (stuckEnv 502) none (.failed "")])
      = ⟨l.recorded tx, set s.accountStore (stuckId 501) begunRow, s'.transfers,
          .storeCancelled begunRow⟩ := by
    rw [Run.exec_cons, next_crash hrestart, hstore, hcancel]
  rw [hend]
  refine ⟨?_, ?_⟩
  · show (l.recorded tx).rawBalance _ = 0
    rw [Ledger.rawBalance_recorded, hpending, htxFields, Books.netChange_cancel_pending, if_pos rfl,
      add_neg_cancel]
  · obtain ⟨old, hold⟩ := hstuck.has 0 (by decide)
    obtain ⟨k, hk, hid, hretry⟩ := hstuck.rows _ old hold
    have hzero := stuckId_inj (by decide) (by omega) hid
    subst hzero
    have hne : stuckId 0 ≠ stuckId 501 := fun h => absurd (stuckId_inj (by decide) (by decide) h) (by decide)
    have hget : get? (set s.accountStore (stuckId 501) begunRow) (stuckId 0) = some old := by
      rw [get?_set, if_neg hne]
      exact hold
    have hopen : (l.recorded tx).journal.Open old.settlementId := by
      have hrecorded : ∀ w id, (l.recorded tx).journal.Has w id ↔
          (w = .cancel ∧ id = stuckId 501) ∨ l.journal.Has w id := has_recorded rfl htx
      rw [show old.settlementId = stuckId 0 from hretry.id]
      refine ⟨(hrecorded _ _).mpr (.inr ((hhas _ _).mpr ⟨rfl, 0, hk, rfl⟩)), fun hf => ?_, fun hc => ?_⟩
      · rcases (hrecorded _ _).mp hf with ⟨hw, -⟩ | hf
        · cases hw
        · cases ((hhas _ _).mp hf).1
      · rcases (hrecorded _ _).mp hc with ⟨-, heq⟩ | hc
        · exact hne heq
        · cases ((hhas _ _).mp hc).1
    have hle := le_sumBy (Books.openAmount_nonneg (hstore ▸ hsound.owned) (l.recorded tx).journal
      (stuckOwner 0).val) (mem_values_of_get? hget)
    rw [Books.openAmount_of_open hretry.kind hopen, if_pos hretry.owner, hretry.amount] at hle
    exact lt_of_lt_of_le (by decide) hle

end OwnerSettlements

end ComputeMesh.Billing
