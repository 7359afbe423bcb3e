import ComputeMesh.Billing.OwnerWithdrawals
import ComputeMesh.Billing.OwnerSettlement

/-!
# What the steps of an owner settlement can do

* `runOwnerSettlement_spec`, `cancelUntransferredSettlement_spec`, `advanceReserve_cases` and so on — what
  the beginning of a call and each of its writes can do, stated once;
* `Sound` — the invariant every run has: the ledger and its file agree, the rows are those of owners, and
  the call under way holds the row it works on as it is in the store;
* `Sound.next` — **every step keeps it**, if the random ids are new.
-/

namespace ComputeMesh.Billing

open ComputeMesh.Text

attribute [local irreducible] Ledger.creditOwnerEarnedCredits

/-! ### Rows and stages -/

/-- What every row is: a settlement of an owner with a positive amount, under an id `strip` keeps. -/
structure SettlementRecord.IsOwners (row : SettlementRecord) : Prop where
  kind : row.accountKind = .owner
  owner : strip row.accountId = row.accountId
  positive : 0 < row.amountMicroUnits
  id : strip row.settlementId.val = row.settlementId.val

namespace SettlementStore

/-- Every row is stored under its own id and is an owner's. -/
def Owned (store : SettlementStore) : Prop :=
  ∀ id row, Dict.get? store id = some row → row.settlementId = id ∧ row.IsOwners

/-- The store has, under the id of `record`, a row with its status, of this owner and amount. -/
def Holds (store : SettlementStore) (record : SettlementRecord) (owner : String) (amount : ℤ) : Prop :=
  ∃ row, Dict.get? store record.settlementId = some row ∧ row.status = record.status ∧
    row.accountId = owner ∧ row.amountMicroUnits = amount

theorem Owned.upsert_none {store : SettlementStore} (h : store.Owned) {record : SettlementRecord}
    (hrecord : record.IsOwners) (hnone : Dict.get? store record.settlementId = none) :
    (store.upsertSettlement record).Owned := by
  intro id row hrow
  rw [get?_upsertSettlement] at hrow
  split at hrow
  · rename_i hid
    subst hid
    cases hrow
    rw [upsertedRow_of_none hnone]
    exact ⟨rfl, hrecord.kind, hrecord.owner, hrecord.positive, hrecord.id⟩
  · exact h id row hrow

theorem Owned.upsert_some {store : SettlementStore} (h : store.Owned) {record old : SettlementRecord}
    (hold : Dict.get? store record.settlementId = some old) :
    (store.upsertSettlement record).Owned := by
  intro id row hrow
  rw [get?_upsertSettlement] at hrow
  split at hrow
  · rename_i hid
    subst hid
    cases hrow
    obtain ⟨hid, hold'⟩ := h _ old hold
    obtain ⟨hkind, howner, hamount⟩ := upsertedRow_of_some hold
    refine ⟨upsertedRow_settlementId store record, by rw [hkind, hold'.kind],
      by rw [howner, hold'.owner], by rw [hamount]; exact hold'.positive, ?_⟩
    rw [upsertedRow_settlementId, ← hid]
    exact hold'.id
  · exact h id row hrow

/-- A row that is found again after it was written has the status written and its old subject. -/
theorem holds_upsert {store : SettlementStore} {record old : SettlementRecord}
    (hold : Dict.get? store record.settlementId = some old) :
    (store.upsertSettlement record).Holds record old.accountId old.amountMicroUnits := by
  obtain ⟨-, howner, hamount⟩ := upsertedRow_of_some hold
  refine ⟨store.upsertedRow record, ?_, upsertedRow_status store record, howner, hamount⟩
  rw [get?_upsertSettlement, if_pos rfl]

theorem holds_upsert_none {store : SettlementStore} {record : SettlementRecord}
    (hnone : Dict.get? store record.settlementId = none) :
    (store.upsertSettlement record).Holds record record.accountId record.amountMicroUnits := by
  refine ⟨store.upsertedRow record, ?_, upsertedRow_status store record, ?_, ?_⟩
  · rw [get?_upsertSettlement, if_pos rfl]
  · rw [upsertedRow_of_none hnone]
  · rw [upsertedRow_of_none hnone]

end SettlementStore

/-- The call under way knows the row it works on. -/
def StageOk (store : SettlementStore) : Stage → Prop
  | .idle _ => True
  | .insert record => record.IsOwners ∧ record.status = .reserving ∧
      Dict.get? store record.settlementId = none
  | .reserve r | .storePending r _ =>
    store.Holds r.current r.owner r.amount ∧ r.current.status = .reserving
  | .transfer r | .storeRetry r _ | .storeTransferred r _ =>
    store.Holds r.current r.owner r.amount ∧ (r.current.status = .pending ∨ r.current.status = .pendingRetry)
  | .finalize r | .storeCompleted r _ =>
    store.Holds r.current r.owner r.amount ∧ r.current.status = .transferred
  | .cancelLedger record | .storeCancelled record =>
    store.Holds record record.accountId record.amountMicroUnits ∧
      (record.status = .reserving ∨ record.status = .pending)

theorem stageOk_resumeFrom {store : SettlementStore} {r : Resuming}
    (h : store.Holds r.current r.owner r.amount) : StageOk store (resumeFrom r) := by
  unfold resumeFrom
  cases hstatus : r.current.status with
  | reserving => exact ⟨h, hstatus⟩
  | pending => exact ⟨h, .inl hstatus⟩
  | pendingRetry => exact ⟨h, .inr hstatus⟩
  | transferred => exact ⟨h, hstatus⟩
  | completed => trivial
  | cancelled => trivial

/-- `_resume` answers at once, or goes on from the stored record. -/
theorem resume_cases (store : SettlementStore) (profile : Option OwnerPayoutProfile) (record : SettlementRecord) :
    (∃ answer, resume store profile record = .idle answer) ∨ resume store profile record =
      resumeFrom ⟨record.accountId, record.amountMicroUnits, (store.getSettlement record.settlementId).getD record⟩ := by
  fun_cases resume with
  | case5 => exact .inr rfl
  | _ => exact .inl ⟨_, rfl⟩

theorem stageOk_resume {store : SettlementStore} (howned : store.Owned) {record : SettlementRecord}
    (h : store.Holds record record.accountId record.amountMicroUnits)
    (profile : Option OwnerPayoutProfile) : StageOk store (resume store profile record) := by
  obtain ⟨row, hrow, hstatus, howner, hamount⟩ := h
  have hcurrent : (store.getSettlement record.settlementId).getD record = row := by
    rw [SettlementStore.getSettlement, hrow]
    rfl
  rcases resume_cases store profile record with ⟨answer, heq⟩ | heq <;> rw [heq]
  · trivial
  · rw [hcurrent]
    exact stageOk_resumeFrom ⟨row, by rw [(howned _ row hrow).1]; exact hrow, rfl, howner, hamount⟩

/-! ### The invariant -/

namespace OwnerSettlements

/-- **The invariant of owner settlements.** -/
structure Sound (s : OwnerSettlements) : Prop where
  replay : s.ledger.journal.IsReplay
  written : s.ledger.journal.IsWritten
  owned : s.accountStore.Owned
  stage : StageOk s.accountStore s.stage

/-- The random id of a new settlement is not in use. -/
def FreshId (s : OwnerSettlements) : OwnerStep → Prop
  | .run input _ _ reference => strip (reference.getD "") = "" →
      Dict.get? s.accountStore (ownerSettlementId "" input.env input.token) = none
  | _ => True

instance (s : OwnerSettlements) : (step : OwnerStep) → Decidable (s.FreshId step)
  | .run input _ _ reference => inferInstanceAs (Decidable (strip (reference.getD "") = "" →
      Dict.get? s.accountStore (ownerSettlementId "" input.env input.token) = none))
  | .cancel _ | .advance .. | .earn .. | .crash _ => inferInstanceAs (Decidable True)

theorem inflightForOwner_some {store : SettlementStore} {owner : String} {record : SettlementRecord}
    (h : inflightForOwner store owner = some record) :
    record ∈ Dict.values store ∧ record.accountId = owner ∧ record.status.inFlight = true := by
  obtain ⟨status, hstatus, hfind⟩ := List.exists_of_findSome?_eq_some h
  have hmem := SettlementStore.mem_of_mem_listSettlements (List.mem_of_find?_eq_some hfind)
  have hsubject := List.find?_some hfind
  simp only [decide_eq_true_eq] at hsubject
  refine ⟨hmem.1, hsubject.2, ?_⟩
  rw [hmem.2]
  simp only [List.mem_cons, List.not_mem_nil, or_false] at hstatus
  rcases hstatus with rfl | rfl | rfl | rfl <;> rfl

theorem holds_of_mem {store : SettlementStore} (howned : store.Owned) {record : SettlementRecord}
    (h : record ∈ Dict.values store) :
    store.Holds record record.accountId record.amountMicroUnits := by
  obtain ⟨k, hk⟩ := (Dict.mem_values_iff store record).mp h
  exact ⟨record, by rw [(howned k record hk).1]; exact hk, rfl, rfl, rfl⟩

theorem quantizeAmount_pos {amount : ℤ} (h : minimumPayoutMicroUnits ≤ quantizeAmount amount) :
    0 < quantizeAmount amount := lt_of_lt_of_le (by decide) h

/-- What beginning a settlement does: the journal and the store stay, and the call holds its row or is
about to insert a new one. -/
structure Begins (s s' : OwnerSettlements) : Prop where
  journal : s'.ledger.journal = s.ledger.journal
  store : s'.accountStore = s.accountStore
  transfers : s'.transfers = s.transfers

theorem newSettlement_spec (s : OwnerSettlements) (input : RunInput) (owner : String)
    (explicit : Option ℤ) (id : SettlementId) :
    Begins s (s.newSettlement input owner explicit id) ∧
      ((∃ answer, (s.newSettlement input owner explicit id).stage = .idle answer) ∨
        ∃ record, (s.newSettlement input owner explicit id).stage = .insert record ∧
          record.settlementId = id ∧ record.accountKind = .owner ∧ record.accountId = owner ∧
          record.status = .reserving ∧ 0 < record.amountMicroUnits) := by
  have hswept := (s.ledger.ownerWithdrawable_cases input.env owner).1
  fun_cases newSettlement with
  | case1 | case2 => exact ⟨⟨rfl, rfl, rfl⟩, .inl ⟨_, rfl⟩⟩
  | case3 _ _ _ _ _ h | case4 _ _ _ _ _ h | case5 _ _ _ _ _ h =>
    rw [h] at hswept
    exact ⟨⟨hswept.journal, rfl, rfl⟩, .inl ⟨_, rfl⟩⟩
  | case6 _ _ _ _ _ h _ _ _ hmin =>
    rw [h] at hswept
    exact ⟨⟨hswept.journal, rfl, rfl⟩, .inr ⟨_, rfl, rfl, rfl, rfl, rfl, quantizeAmount_pos (not_lt.mp hmin)⟩⟩

theorem validateExistingReference_cases (store : SettlementStore) (profile : Option OwnerPayoutProfile)
    (existing : SettlementRecord) (owner : String) (requested : Option ℤ) :
    (∃ answer, validateExistingReference store profile existing owner requested = .idle answer) ∨
      validateExistingReference store profile existing owner requested = resume store profile existing := by
  fun_cases validateExistingReference with
  | case4 => exact .inr rfl
  | _ => exact .inl ⟨_, rfl⟩

/-- **What beginning `run_owner_settlement` can do**: answer at once, take up a row of the owner that is in
flight, or prepare a new settlement when the owner seems to have none. -/
theorem runOwnerSettlement_spec (s : OwnerSettlements) (input : RunInput) (ownerId : String)
    (amount : Option ℤ) (reference : Option String) :
    Begins s (s.runOwnerSettlement input ownerId amount reference) ∧
      ((∃ answer, (s.runOwnerSettlement input ownerId amount reference).stage = .idle answer) ∨
        (∃ record ∈ Dict.values s.accountStore, (s.runOwnerSettlement input ownerId amount reference).stage
          = resume s.accountStore input.profile record) ∨
        ∃ record, (s.runOwnerSettlement input ownerId amount reference).stage = .insert record ∧
          record.IsOwners ∧ record.status = .reserving ∧ record.accountId = strip ownerId ∧
          inflightForOwner s.accountStore (strip ownerId) = none ∧
          (s.FreshId (.run input ownerId amount reference) →
            Dict.get? s.accountStore record.settlementId = none)) := by
  fun_cases runOwnerSettlement with
  | case1 | case2 => exact ⟨⟨rfl, rfl, rfl⟩, .inl ⟨_, rfl⟩⟩
  | case3 _ _ _ _ _ existing hexisting =>
    refine ⟨⟨rfl, rfl, rfl⟩, ?_⟩
    have hmem : existing ∈ Dict.values s.accountStore := by
      split at hexisting
      · cases hexisting
      · exact Dict.mem_values_of_get? hexisting
    exact (validateExistingReference_cases _ _ _ _ _).imp_right fun hresume => .inl ⟨existing, hmem, hresume⟩
  | case4 _ _ _ _ _ _ existing hexisting =>
    exact ⟨⟨rfl, rfl, rfl⟩, .inr (.inl ⟨existing, (inflightForOwner_some hexisting).1, rfl⟩)⟩
  | case5 _ _ _ _ _ hnone hinflight =>
    obtain ⟨hbegins, hidle | ⟨record, hstage, hid, hkind, howner, hstatus, hpos⟩⟩ :=
      s.newSettlement_spec input (strip ownerId) amount
        (ownerSettlementId (strip (reference.getD "")) input.env input.token)
    · exact ⟨hbegins, .inl hidle⟩
    · refine ⟨hbegins, .inr (.inr ⟨record, hstage, ?_, hstatus, howner, hinflight, ?_⟩)⟩
      · refine ⟨hkind, by rw [howner, strip_strip], hpos, ?_⟩
        rw [hid]
        exact strip_ownerSettlementId _ _ _
      · intro hfresh
        rw [hid]
        split at hnone
        · rename_i hblank
          have hblank : strip (reference.getD "") = "" := hblank
          rw [hblank]
          exact hfresh hblank
        · exact hnone

/-- **What beginning `cancel_untransferred_settlement` can do**: answer at once, or hold a row that is
`reserving` or `pending`, whose amount the pending balance covers if the ledger is asked. -/
theorem cancelUntransferredSettlement_spec (s : OwnerSettlements) (howned : s.accountStore.Owned)
    (id : SettlementId) :
    (∃ answer, s.cancelUntransferredSettlement id = .idle answer) ∨
      ∃ record, Dict.get? s.accountStore id = some record ∧ (record.status = .reserving ∨ record.status = .pending) ∧
        ((s.cancelUntransferredSettlement id = .cancelLedger record ∧
            record.amountMicroUnits ≤ s.ledger.rawBalance (pendingAccountOf record.accountId)) ∨
          (s.cancelUntransferredSettlement id = .storeCancelled record ∧ record.status = .reserving ∧
            s.ledger.rawBalance (pendingAccountOf record.accountId) < record.amountMicroUnits)) := by
  have hopen : ∀ {record : SettlementRecord}, record.status ≠ .pendingRetry →
      ¬(record.stripeTransferId ≠ "" ∨ record.status = .transferred ∨ record.status = .completed) →
      record.status ≠ .cancelled → record.status = .reserving ∨ record.status = .pending := by
    intro record hretry htransferred hcancelled
    cases hst : record.status with
    | reserving => exact .inl rfl
    | pending => exact .inr rfl
    | pendingRetry => exact absurd hst hretry
    | transferred => exact absurd (.inr (.inl hst)) htransferred
    | completed => exact absurd (.inr (.inr hst)) htransferred
    | cancelled => exact absurd hst hcancelled
  have hbalance : ∀ {record : SettlementRecord} {pending : ℤ}, s.accountStore.getSettlement id = some record →
      s.ledger.ownerWithdrawalPendingMicroUnits record.accountId = .ok pending →
      pending = s.ledger.rawBalance (pendingAccountOf record.accountId) := by
    intro record pending hrecord hpending
    rw [← (howned id record hrecord).2.owner] at hpending ⊢
    exact Ledger.pending_ok hpending
  fun_cases cancelUntransferredSettlement with
  | case7 record hrecord _ hretry htransferred hcancelled pending hpending hcover =>
    exact .inr ⟨record, hrecord, hopen hretry htransferred hcancelled,
      .inl ⟨rfl, by rw [← hbalance hrecord hpending]; exact hcover⟩⟩
  | case9 record hrecord _ hretry htransferred hcancelled pending hpending hcover hnot =>
    have hstatus := hopen hretry htransferred hcancelled
    exact .inr ⟨record, hrecord, hstatus, .inr ⟨rfl, hstatus.resolve_right hnot,
      by rw [← hbalance hrecord hpending]; omega⟩⟩
  | _ => exact .inl ⟨_, rfl⟩

/-! ### What one write can do -/

theorem Sound.holds {s : OwnerSettlements} (h : s.Sound) {record : SettlementRecord} {owner : String}
    {amount : ℤ} (hholds : s.accountStore.Holds record owner amount) :
    ∃ row, Dict.get? s.accountStore record.settlementId = some row ∧ row.status = record.status ∧
      row.accountId = owner ∧ row.amountMicroUnits = amount ∧ strip owner = owner ∧
      strip record.settlementId.val = record.settlementId.val ∧ 0 < amount := by
  obtain ⟨row, hrow, hstatus, howner, hamount⟩ := hholds
  obtain ⟨hid, hrowOk⟩ := h.owned _ row hrow
  exact ⟨row, hrow, hstatus, howner, hamount, by rw [← howner]; exact hrowOk.owner,
    by rw [← hid]; exact hrowOk.id, by rw [← hamount]; exact hrowOk.positive⟩

theorem statusOf_of_holds {store : SettlementStore} {record : SettlementRecord} {owner : String}
    {amount : ℤ} (h : store.Holds record owner amount) :
    store.statusOf record.settlementId = some record.status := by
  obtain ⟨row, hrow, hstatus, -⟩ := h
  rw [SettlementStore.statusOf, hrow]
  exact congrArg some hstatus

theorem pending_ok_of_strip {l : Ledger} {owner : String} {pending : ℤ} (howner : strip owner = owner)
    (h : l.ownerWithdrawalPendingMicroUnits owner = .ok pending) :
    pending = l.rawBalance (pendingAccountOf owner) := by
  rw [← howner] at h ⊢
  exact Ledger.pending_ok h

section

variable {s : OwnerSettlements} (h : s.Sound)
include h

/-- **The reservation**: recorded and on to the record; found in the ledger with a pending balance that
covers it and on to the record; or over. -/
theorem advanceReserve_cases (env : Env) {r : Resuming} (hholds : s.accountStore.Holds r.current r.owner r.amount) :
    ∃ l stage, s.advanceReserve env r = { s with ledger := l, stage := stage } ∧
      ((∃ tx o txId, withdrawalEvent .reserve r.current.settlementId ∉ s.ledger.journal.processedEvents ∧
          tx.eventId = withdrawalEvent .reserve r.current.settlementId ∧ o.val = r.owner ∧
          tx.fields = Ledger.withdrawalReservePostings o r.amount ∧
          l.journal = (s.ledger.recorded tx).journal ∧ stage = .storePending r txId) ∨
        (l.journal = s.ledger.journal ∧ ((∃ answer, stage = .idle answer) ∨
          (withdrawalEvent .reserve r.current.settlementId ∈ s.ledger.journal.processedEvents ∧
            r.amount ≤ s.ledger.rawBalance (pendingAccountOf r.owner) ∧
            ∃ txId, stage = .storePending r txId)))) := by
  obtain ⟨row, -, -, -, -, howner, hid, -⟩ := h.holds hholds
  have hres := Ledger.reserveOwnerWithdrawal_result h.written env howner r.amount hid
  unfold advanceReserve
  generalize s.ledger.reserveOwnerWithdrawal env r.owner r.amount r.current.settlementId.val = res at hres ⊢
  cases hres with
  | recorded hnew hevent hfields hjournal =>
    obtain ⟨o, ho, hfields⟩ := hfields
    exact ⟨_, _, rfl, .inl ⟨_, o, _, hnew, hevent, ho, hfields, hjournal, rfl⟩⟩
  | @duplicate m l' hseen hjournal =>
    refine ⟨_, _, rfl, .inr ⟨hjournal, ?_⟩⟩
    have hbalance : l'.rawBalance (pendingAccountOf r.owner) = s.ledger.rawBalance (pendingAccountOf r.owner) := by
      rw [Ledger.rawBalance, hjournal, Ledger.rawBalance]
    split
    · exact .inl ⟨_, rfl⟩
    · rename_i pending hpending
      have hpending' := pending_ok_of_strip howner hpending
      split
      · exact .inl ⟨_, rfl⟩
      · exact .inr ⟨hseen, by omega, _, rfl⟩
  | refused hother hjournal =>
    split <;> rename_i heq <;> cases heq
    · exact absurd rfl (hother _)
    · exact ⟨_, _, rfl, .inr ⟨hjournal, .inl ⟨_, rfl⟩⟩⟩

/-- **The finalization**: recorded out of a pending balance that covers it, or found in the ledger, and
on to the record; or over. -/
theorem advanceFinalize_cases (env : Env) {r : Resuming} (hholds : s.accountStore.Holds r.current r.owner r.amount) :
    ∃ l stage, s.advanceFinalize env r = { s with ledger := l, stage := stage } ∧
      ((∃ tx txId, withdrawalEvent .finalize r.current.settlementId ∉ s.ledger.journal.processedEvents ∧
          tx.eventId = withdrawalEvent .finalize r.current.settlementId ∧
          tx.fields = Ledger.withdrawalFinalizePostings r.owner r.amount ∧
          r.amount ≤ s.ledger.rawBalance (pendingAccountOf r.owner) ∧
          l.journal = (s.ledger.recorded tx).journal ∧ stage = .storeCompleted r txId) ∨
        (l.journal = s.ledger.journal ∧ ((∃ answer, stage = .idle answer) ∨
          (withdrawalEvent .finalize r.current.settlementId ∈ s.ledger.journal.processedEvents ∧
            ∃ txId, stage = .storeCompleted r txId)))) := by
  obtain ⟨row, -, -, -, -, howner, hid, -⟩ := h.holds hholds
  have hres := Ledger.finalizeOwnerWithdrawal_result h.written env howner r.amount hid
  unfold advanceFinalize
  generalize s.ledger.finalizeOwnerWithdrawal env r.owner r.amount r.current.settlementId.val = res at hres ⊢
  cases hres with
  | recorded hnew hevent hfields hjournal =>
    exact ⟨_, _, rfl, .inl ⟨_, _, hnew, hevent, hfields.1, hfields.2, hjournal, rfl⟩⟩
  | duplicate hseen hjournal =>
    refine ⟨_, _, rfl, .inr ⟨hjournal, ?_⟩⟩
    split
    · exact .inl ⟨_, rfl⟩
    · split
      · exact .inl ⟨_, rfl⟩
      · exact .inr ⟨hseen, _, rfl⟩
  | refused hother hjournal =>
    split <;> rename_i heq <;> cases heq
    · exact absurd rfl (hother _)
    · exact ⟨_, _, rfl, .inr ⟨hjournal, .inl ⟨_, rfl⟩⟩⟩

/-- **The cancellation**: recorded, or found in the ledger, and on to the record; or over. -/
theorem advanceCancel_cases (env : Env) {record : SettlementRecord}
    (hholds : s.accountStore.Holds record record.accountId record.amountMicroUnits) :
    ∃ l stage, s.advanceCancel env record = { s with ledger := l, stage := stage } ∧
      ((∃ tx o, withdrawalEvent .cancel record.settlementId ∉ s.ledger.journal.processedEvents ∧
          tx.eventId = withdrawalEvent .cancel record.settlementId ∧ o.val = record.accountId ∧
          tx.fields = Ledger.withdrawalCancelPostings o record.amountMicroUnits ∧
          l.journal = (s.ledger.recorded tx).journal ∧ stage = .storeCancelled record) ∨
        (l.journal = s.ledger.journal ∧ ((∃ answer, stage = .idle answer) ∨
          (withdrawalEvent .cancel record.settlementId ∈ s.ledger.journal.processedEvents ∧
            stage = .storeCancelled record)))) := by
  obtain ⟨row, -, -, -, -, howner, hid, -⟩ := h.holds hholds
  have hres := Ledger.cancelOwnerWithdrawal_result h.written env howner record.amountMicroUnits hid
  unfold advanceCancel
  generalize s.ledger.cancelOwnerWithdrawal env record.accountId record.amountMicroUnits
    record.settlementId.val = res at hres ⊢
  cases hres with
  | recorded hnew hevent hfields hjournal =>
    obtain ⟨o, ho, hfields⟩ := hfields
    exact ⟨_, _, rfl, .inl ⟨_, o, hnew, hevent, ho, hfields, hjournal, rfl⟩⟩
  | duplicate hseen hjournal => exact ⟨_, _, rfl, .inr ⟨hjournal, .inr ⟨hseen, rfl⟩⟩⟩
  | refused hother hjournal =>
    split <;> rename_i heq <;> cases heq
    · exact absurd rfl (hother _)
    · exact ⟨_, _, rfl, .inr ⟨hjournal, .inl ⟨_, rfl⟩⟩⟩

end

/-- **The transfer**: executed or not, and on to the record of its outcome. -/
theorem advanceTransfer_cases (s : OwnerSettlements) (outcome : TransferOutcome) (r : Resuming) :
    ∃ ts stage, s.advanceTransfer outcome r = { s with transfers := ts, stage := stage } ∧
      (ts = s.transfers ∨ ∃ transfer, ts = s.transfers.execute (ownerTransferKey r.current.settlementId) transfer) ∧
      ((∃ transferId, stage = .storeTransferred r transferId) ∨ ∃ exn, stage = .storeRetry r exn) := by
  have hts : ∀ account currency, (ownerTransfer s.transfers r.current.settlementId r.amount account
      currency outcome).2 = s.transfers ∨ ∃ transfer, (ownerTransfer s.transfers r.current.settlementId
        r.amount account currency outcome).2
        = s.transfers.execute (ownerTransferKey r.current.settlementId) transfer := by
    intro account currency
    unfold ownerTransfer
    split
    · exact .inl rfl
    · cases outcome with
      | success transferId =>
        refine .inr ⟨⟨r.amount / centMicroUnits, lower currency, account, r.current.settlementId.val⟩, ?_⟩
        simp only [StripeTransfers.create]
        split <;> rfl
      | failedExecuted message => exact .inr ⟨_, rfl⟩
      | failed message => exact .inl rfl
  have hts := hts r.current.stripeConnectedAccountId r.current.currency
  unfold advanceTransfer
  generalize ownerTransfer s.transfers r.current.settlementId r.amount
    r.current.stripeConnectedAccountId r.current.currency outcome = res at hts ⊢
  obtain ⟨res, ts⟩ := res
  cases res with
  | ok transferId => exact ⟨ts, _, rfl, hts, .inl ⟨transferId, rfl⟩⟩
  | error e => exact ⟨ts, _, rfl, hts, .inr ⟨e, rfl⟩⟩

/-! ### Every step keeps the invariant -/

theorem Sound.record {s : OwnerSettlements} (h : s.Sound) {l : Ledger} {stage : Stage} {tx : Transaction}
    (hnew : tx.eventId ∉ s.ledger.journal.processedEvents)
    (hjournal : l.journal = (s.ledger.recorded tx).journal) (hstage : StageOk s.accountStore stage) :
    { s with ledger := l, stage := stage }.Sound :=
  ⟨by rw [hjournal]; exact h.replay.record hnew, by rw [hjournal]; exact h.written.record tx, h.owned, hstage⟩

theorem Sound.moveTo {s s' : OwnerSettlements} (h : s.Sound)
    (hjournal : s'.ledger.journal = s.ledger.journal) (hstore : s'.accountStore = s.accountStore)
    (hstage : StageOk s.accountStore s'.stage) : s'.Sound :=
  ⟨by rw [hjournal]; exact h.replay, by rw [hjournal]; exact h.written, by rw [hstore]; exact h.owned,
    by rw [hstore]; exact hstage⟩

theorem Sound.store {s : OwnerSettlements} (h : s.Sound) {record : SettlementRecord} {owner : String}
    {amount : ℤ} {stage : Stage} (hholds : s.accountStore.Holds record owner amount)
    (record' : SettlementRecord) (hid : record'.settlementId = record.settlementId)
    (hstage : (s.accountStore.upsertSettlement record').Holds record' owner amount →
      StageOk (s.accountStore.upsertSettlement record') stage) : (s.store record' stage).Sound := by
  obtain ⟨row, hrow, -, howner, hamount⟩ := hholds
  rw [← hid] at hrow
  refine ⟨h.replay, h.written, h.owned.upsert_some hrow, hstage ?_⟩
  rw [← howner, ← hamount]
  exact SettlementStore.holds_upsert hrow

theorem Sound.advance {s : OwnerSettlements} (h : s.Sound) (env : Env)
    (profile : Option OwnerPayoutProfile) (outcome : TransferOutcome) :
    (s.advance env profile outcome).Sound := by
  have hok := h.stage
  fun_cases OwnerSettlements.advance with
  | case1 => exact h
  | case2 record hstage =>
    rw [hstage] at hok
    obtain ⟨hrecord, hstatus, hnone⟩ := hok
    have howned := h.owned.upsert_none hrecord hnone
    exact ⟨h.replay, h.written, howned,
      stageOk_resume howned (SettlementStore.holds_upsert_none hnone) profile⟩
  | case3 r hstage =>
    rw [hstage] at hok
    obtain ⟨l, stage, heq, ⟨tx, o, txId, hnew, hevent, -, -, hjournal, rfl⟩ |
      ⟨hjournal, ⟨answer, rfl⟩ | ⟨-, -, txId, rfl⟩⟩⟩ := advanceReserve_cases h env hok.1
    · rw [heq]
      exact h.record (by rwa [hevent]) hjournal hok
    · rw [heq]
      exact h.moveTo hjournal rfl trivial
    · rw [heq]
      exact h.moveTo hjournal rfl hok
  | case4 r _ hstage | case7 r _ hstage =>
    rw [hstage] at hok
    exact h.store hok.1 _ rfl fun hholds => stageOk_resumeFrom hholds
  | case5 r hstage =>
    rw [hstage] at hok
    obtain ⟨ts, stage, heq, -, ⟨transferId, rfl⟩ | ⟨exn, rfl⟩⟩ := s.advanceTransfer_cases outcome r
    · rw [heq]
      exact h.moveTo rfl rfl hok
    · rw [heq]
      exact h.moveTo rfl rfl hok
  | case6 r _ hstage | case9 r _ hstage | case11 record hstage =>
    rw [hstage] at hok
    exact h.store hok.1 _ rfl fun _ => trivial
  | case8 r hstage =>
    rw [hstage] at hok
    obtain ⟨l, stage, heq, ⟨tx, txId, hnew, hevent, -, -, hjournal, rfl⟩ |
      ⟨hjournal, ⟨answer, rfl⟩ | ⟨-, txId, rfl⟩⟩⟩ := advanceFinalize_cases h env hok.1
    · rw [heq]
      exact h.record (by rwa [hevent]) hjournal hok
    · rw [heq]
      exact h.moveTo hjournal rfl trivial
    · rw [heq]
      exact h.moveTo hjournal rfl hok
  | case10 record hstage =>
    rw [hstage] at hok
    obtain ⟨l, stage, heq, ⟨tx, o, hnew, hevent, -, -, hjournal, rfl⟩ |
      ⟨hjournal, ⟨answer, rfl⟩ | ⟨-, rfl⟩⟩⟩ := advanceCancel_cases h env hok.1
    · rw [heq]
      exact h.record (by rwa [hevent]) hjournal hok
    · rw [heq]
      exact h.moveTo hjournal rfl trivial
    · rw [heq]
      exact h.moveTo hjournal rfl hok

theorem earn_cases {l : Ledger} (hr : l.journal.IsReplay) (env : Env) (ownerId : String) (amount : ℤ)
    (ref description : String) :
    (l.creditOwnerEarnedCredits env ownerId amount ref description).2.journal = l.journal ∨
      ∃ (tx : Transaction) (o : OwnerId), tx.eventId ∉ l.journal.processedEvents ∧
        tx.eventId = "owner-earning:" ++ strip ref ∧
        tx.fields = Ledger.bucketCreditPostings "expense:provider_earnings" providerEarningsExpense o
          .earned amount ∧
        (l.creditOwnerEarnedCredits env ownerId amount ref description).2.journal
          = (l.recorded tx).journal := by
  rcases l.creditOwnerEarnedCredits_cases env ownerId amount ref description with
    heq | ⟨o, -, -, tx, hevent, hfields, hunseen, heq⟩
  · exact .inl (by rw [heq])
  · refine .inr ⟨tx, o, ?_, hevent, hfields, by rw [heq]⟩
    rw [hevent]
    exact hunseen.not_mem hr

theorem restart_of_sound {s : OwnerSettlements} (h : s.Sound) (env : Env) :
    ∃ l, s.ledger.restart env = .ok l ∧ l.journal = s.ledger.journal := by
  refine ⟨{ s.ledger with
    holds := Ledger.loadHolds env.time (s.ledger.holdsFile.getD [])
    ownerHolds := Dict.empty }, ?_, rfl⟩
  rw [Ledger.restart, Journal.open_of_isWritten h.written h.replay]

theorem next_crash {s : OwnerSettlements} {env : Env} {l : Ledger} (h : s.ledger.restart env = .ok l) :
    s.next (.crash env) = { s with ledger := l, stage := .idle none } := by
  simp only [OwnerSettlements.next, h]

/-- **Every step keeps the invariant**, if a random id is new. -/
theorem Sound.next {s : OwnerSettlements} (h : s.Sound) {step : OwnerStep} (hfresh : s.FreshId step) :
    (s.next step).Sound := by
  cases step with
  | run input ownerId amount reference =>
    simp only [OwnerSettlements.next]
    split
    · obtain ⟨hbegins, ⟨answer, hstage⟩ | ⟨record, hmem, hstage⟩ |
        ⟨record, hstage, hrecord, hstatus, -, -, hnone⟩⟩ :=
        s.runOwnerSettlement_spec input ownerId amount reference
      · exact h.moveTo hbegins.journal hbegins.store (by rw [hstage]; trivial)
      · refine h.moveTo hbegins.journal hbegins.store ?_
        rw [hstage]
        exact stageOk_resume h.owned (holds_of_mem h.owned hmem) _
      · refine h.moveTo hbegins.journal hbegins.store ?_
        rw [hstage]
        exact ⟨hrecord, hstatus, hnone hfresh⟩
    · exact h
  | cancel id =>
    simp only [OwnerSettlements.next]
    split
    · refine h.moveTo rfl rfl ?_
      show StageOk s.accountStore (s.cancelUntransferredSettlement id)
      rcases s.cancelUntransferredSettlement_spec h.owned id with
        ⟨answer, hstage⟩ | ⟨record, hrecord, hstatus, ⟨hstage, -⟩ | ⟨hstage, -, -⟩⟩
      · rw [hstage]
        trivial
      · rw [hstage]
        exact ⟨holds_of_mem h.owned (Dict.mem_values_of_get? hrecord), hstatus⟩
      · rw [hstage]
        exact ⟨holds_of_mem h.owned (Dict.mem_values_of_get? hrecord), hstatus⟩
    · exact h
  | advance env profile outcome => exact h.advance env profile outcome
  | earn env ownerId amount reference =>
    rcases earn_cases h.replay env ownerId amount reference "Verified provider earnings" with
      hjournal | ⟨tx, o, hnew, -, -, hjournal⟩
    · exact h.moveTo hjournal rfl h.stage
    · exact h.record hnew hjournal h.stage
  | crash env =>
    obtain ⟨l, hrestart, hjournal⟩ := restart_of_sound h env
    rw [next_crash hrestart]
    exact h.moveTo hjournal rfl trivial

theorem sound_start (cls : LedgerClass) (networkFeeBps : ℤ) (wallet : String) :
    (start cls networkFeeBps wallet).Sound := by
  refine ⟨Journal.isReplay_empty _, rfl, ?_, trivial⟩
  intro id row hrow
  cases hrow

/-! ### Sample runs -/

def sampleProfile : OwnerPayoutProfile := ⟨"acct_1", true⟩

def sampleInput : RunInput :=
  ⟨Env.atTime 1, ⟨"0a", by decide, by simp⟩, some sampleProfile, .ok sampleProfile⟩

def sampleSettlement : SettlementId := ownerSettlementId "" sampleInput.env sampleInput.token

/-- The next write of the call, and a transfer that succeeds if that is what it is. -/
def sampleAdvance : OwnerStep := .advance (Env.atTime 2) (some sampleProfile) (.success "tr_1")

/-- Alice earns 25 dollars and withdraws them, up to the transfer at Stripe. -/
def payoutSteps : List OwnerStep :=
  [.earn (Env.atTime 0) "alice" 25000000 "e1", .run sampleInput "alice" none none, sampleAdvance,
    sampleAdvance, sampleAdvance, sampleAdvance]

end OwnerSettlements

end ComputeMesh.Billing
