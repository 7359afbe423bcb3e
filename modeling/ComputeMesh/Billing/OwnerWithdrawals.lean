import ComputeMesh.Billing.LedgerRuns
import ComputeMesh.Billing.SettlementStore

/-!
# How withdrawals end

The three transactions of a withdrawal and their events, and `WithdrawalResult`: the ways the operations
`reserve_owner_withdrawal`, `finalize_owner_withdrawal` and `cancel_owner_withdrawal` end on a ledger whose
file can be written — a new transaction, `DuplicateEventError`, or another exception and no transaction.
-/

namespace ComputeMesh.Billing

open ComputeMesh.Text

/-! ### Withdrawal events -/

/-- The three transactions of a withdrawal. -/
inductive Withdrawal
  | reserve
  | finalize
  | cancel
  deriving DecidableEq

def Withdrawal.tag : Withdrawal → String
  | reserve => "owner-withdrawal-reserve:"
  | finalize => "owner-withdrawal-finalize:"
  | cancel => "owner-withdrawal-cancel:"

/-- The event id of a withdrawal's transaction. -/
def withdrawalEvent (w : Withdrawal) (id : SettlementId) : String := w.tag ++ id.val

theorem withdrawalEvent_inj {w w' : Withdrawal} {i j : SettlementId} :
    withdrawalEvent w i = withdrawalEvent w' j ↔ w = w' ∧ i = j := by
  constructor
  · intro h
    have htag : ∀ v v' : Withdrawal, v ≠ v' → withdrawalEvent v i ≠ withdrawalEvent v' j := by
      intro v v' hne
      refine append_ne_append 18 (p := v.tag) (q := v'.tag) ?_ ?_ ?_ _ _
      · cases v <;> decide
      · cases v' <;> decide
      · cases v <;> cases v' <;> first | exact absurd rfl hne | decide
    have hw : w = w' := by
      by_contra hne
      exact htag w w' hne h
    subst hw
    exact ⟨rfl, SettlementId.ext_val (append_left_cancel h)⟩
  · rintro ⟨rfl, rfl⟩
    rfl

/-- A transaction of the withdrawal is in the ledger. -/
def Journal.Has (j : Journal) (w : Withdrawal) (id : SettlementId) : Prop :=
  withdrawalEvent w id ∈ j.processedEvents

instance (j : Journal) (w : Withdrawal) (id : SettlementId) : Decidable (j.Has w id) :=
  inferInstanceAs (Decidable (_ ∈ _))

variable {l : Ledger} {id : SettlementId}

theorem Journal.has_recorded {l' : Ledger} {tx : Transaction} {w : Withdrawal}
    (hjournal : l'.journal = (l.recorded tx).journal) (hevent : tx.eventId = withdrawalEvent w id)
    (w' : Withdrawal) (j : SettlementId) :
    l'.journal.Has w' j ↔ (w' = w ∧ j = id) ∨ l.journal.Has w' j := by
  unfold Has
  rw [hjournal, Ledger.mem_processedEvents_recorded, hevent, withdrawalEvent_inj]

theorem Journal.has_recorded_of_ne {l' : Ledger} {tx : Transaction} (hjournal : l'.journal = (l.recorded tx).journal)
    (hne : ∀ w id, withdrawalEvent w id ≠ tx.eventId) (w : Withdrawal) (id : SettlementId) :
    l'.journal.Has w id ↔ l.journal.Has w id := by
  unfold Has
  rw [hjournal, Ledger.mem_processedEvents_recorded, or_iff_right (hne w id)]

theorem withdrawalEvent_ne_earning (w : Withdrawal) (id : SettlementId) (ref : String) :
    withdrawalEvent w id ≠ "owner-earning:" ++ ref := by
  refine append_ne_append 7 (p := w.tag) ?_ (by decide) ?_ _ _
  · cases w <;> decide
  · cases w <;> decide

/-! ### How a withdrawal operation ends -/

/-- The three ways a withdrawal operation ends, by what is left in the journal. -/
inductive WithdrawalResult (l : Ledger) (event : String) (P : List PostingFields → Prop) :
    Except Exn Transaction × Ledger → Prop
  | recorded {tx : Transaction} {l' : Ledger} (hnew : event ∉ l.journal.processedEvents)
      (hevent : tx.eventId = event) (hfields : P tx.fields)
      (hjournal : l'.journal = (l.recorded tx).journal) : WithdrawalResult l event P (.ok tx, l')
  | duplicate {m : String} {l' : Ledger} (hseen : event ∈ l.journal.processedEvents)
      (hjournal : l'.journal = l.journal) :
      WithdrawalResult l event P (.error (.duplicateEvent m), l')
  | refused {e : Exn} {l' : Ledger} (hother : ∀ m, e ≠ .duplicateEvent m)
      (hjournal : l'.journal = l.journal) : WithdrawalResult l event P (.error e, l')

namespace Ledger

theorem healthy_of_isWritten (h : l.journal.IsWritten) : l.Healthy := by
  intro file hfile
  rw [h] at hfile
  cases hfile
  rfl

theorem withdrawalResult_commitNew {l₁ : Ledger} (hw : l.journal.IsWritten)
    (hjournal : l₁.journal = l.journal) {t event c d : String} {fs : List PostingFields}
    {P : List PostingFields → Prop} (hnew : event ∉ l.journal.processedEvents) (hP : P fs) :
    WithdrawalResult l event P (l₁.commitNew (newTransaction t event c d fs)) := by
  unfold commitNew
  split
  · rename_i e he
    obtain ⟨m, rfl⟩ := newTransaction_error he
    exact .refused (fun m hm => by cases hm) hjournal
  · rename_i tx htx
    obtain ⟨-, hevent, -, -, hfields⟩ := newTransaction_ok htx
    have hhealthy : l₁.Healthy := healthy_of_isWritten (by rwa [hjournal])
    rw [commit_of_healthy hhealthy]
    refine .recorded hnew hevent (by rwa [hfields]) ?_
    show (l₁.journal.recordTransaction tx).2 = (l.journal.recordTransaction tx).2
    rw [hjournal]

variable {ownerId : String}

theorem cleanOwner_error {e : Exn} (h : cleanOwner ownerId = .error e) : ∃ m, e = .billing m := by
  simp only [cleanOwner] at h
  split at h
  · cases h
    exact ⟨_, rfl⟩
  · split at h
    · cases h
      exact ⟨_, rfl⟩
    · cases h

theorem ownerWithdrawable_error {l' : Ledger} {env : Env} {e : Exn}
    (h : l.ownerWithdrawableMicroUnits env ownerId = (.error e, l')) : ∃ m, e = .billing m := by
  unfold ownerWithdrawableMicroUnits at h
  split at h
  · rename_i e' l'' hbal
    cases h
    unfold getOwnerBalances at hbal
    split at hbal
    · rename_i howner
      cases hbal
      exact cleanOwner_error howner
    · cases hbal
  · cases h

theorem pending_error {e : Exn}
    (h : l.ownerWithdrawalPendingMicroUnits ownerId = .error e) : ∃ m, e = .billing m := by
  simp only [ownerWithdrawalPendingMicroUnits, pendingAccount] at h
  split at h
  · rename_i hacc
    cases h
    split at hacc
    · cases hacc
      exact ⟨_, rfl⟩
    · cases hacc
  · cases h

theorem ensureNewEvent_error {event : String} {e : Exn} (h : l.ensureNewEvent event = .error e) :
    (∃ m, e = .duplicateEvent m) ∧ event ∈ l.journal.processedEvents := by
  unfold ensureNewEvent at h
  split at h
  · rename_i hmem
    cases h
    exact ⟨⟨_, rfl⟩, hmem⟩
  · cases h

theorem ensureNewEvent_ok_iff {event : String} :
    l.ensureNewEvent event = .ok () ↔ event ∉ l.journal.processedEvents := by
  unfold ensureNewEvent
  split <;> simp_all

theorem refused_billing {l' : Ledger} {event m : String} {P : List PostingFields → Prop}
    (h : l'.journal = l.journal) : WithdrawalResult l event P (.error (.billing m), l') :=
  .refused (fun m hm => by cases hm) h

variable {owner : String}

section

variable (hw : l.journal.IsWritten) (env : Env) (howner : strip owner = owner) (amount : ℤ)
  (hid : strip id.val = id.val)
include hw howner hid

theorem reserveOwnerWithdrawal_result : WithdrawalResult l (withdrawalEvent .reserve id)
      (fun fs => ∃ o : OwnerId, o.val = owner ∧ fs = withdrawalReservePostings o amount)
      (l.reserveOwnerWithdrawal env owner amount id.val) := by
  simp only [reserveOwnerWithdrawal, howner, hid]
  split
  · exact refused_billing rfl
  · split
    · exact refused_billing rfl
    · split
      · rename_i e he
        obtain ⟨⟨m, rfl⟩, hseen⟩ := ensureNewEvent_error he
        exact .duplicate hseen rfl
      · rename_i hnew
        have hnew' := ensureNewEvent_ok_iff.mp hnew
        have hswept := (l.ownerWithdrawable_cases env owner).1
        split
        · rename_i e l' h
          obtain ⟨m, rfl⟩ := ownerWithdrawable_error h
          rw [h] at hswept
          exact refused_billing hswept.journal
        · rename_i w l' h
          rw [h] at hswept
          split
          · exact .refused (fun m hm => by cases hm) hswept.journal
          · split
            · rename_i e he
              obtain ⟨m, rfl⟩ := cleanOwner_error he
              exact refused_billing hswept.journal
            · rename_i o ho
              have hval : o.val = owner := by rw [cleanOwner_ok ho, howner]
              refine withdrawalResult_commitNew hw hswept.journal hnew' ⟨o, hval, ?_⟩
              rw [← hval]
              rfl

theorem finalizeOwnerWithdrawal_result : WithdrawalResult l (withdrawalEvent .finalize id)
      (fun fs => fs = withdrawalFinalizePostings owner amount ∧
        amount ≤ l.rawBalance (pendingAccountOf owner))
      (l.finalizeOwnerWithdrawal env owner amount id.val) := by
  simp only [finalizeOwnerWithdrawal, howner, hid]
  split
  · exact refused_billing rfl
  · split
    · rename_i e he
      obtain ⟨⟨m, rfl⟩, hseen⟩ := ensureNewEvent_error he
      exact .duplicate hseen rfl
    · rename_i hnew
      split
      · rename_i e he
        obtain ⟨m, rfl⟩ := pending_error he
        exact refused_billing rfl
      · rename_i pending hpending
        split
        · exact refused_billing rfl
        · rename_i hcover
          have hbalance : pending = l.rawBalance (pendingAccountOf owner) := by
            rw [← howner] at hpending ⊢
            exact pending_ok hpending
          exact withdrawalResult_commitNew hw rfl (ensureNewEvent_ok_iff.mp hnew)
            ⟨rfl, by rw [← hbalance]; omega⟩

theorem cancelOwnerWithdrawal_result : WithdrawalResult l (withdrawalEvent .cancel id)
      (fun fs => ∃ o : OwnerId, o.val = owner ∧ fs = withdrawalCancelPostings o amount)
      (l.cancelOwnerWithdrawal env owner amount id.val) := by
  simp only [cancelOwnerWithdrawal, howner, hid]
  split
  · exact refused_billing rfl
  · split
    · rename_i e he
      obtain ⟨⟨m, rfl⟩, hseen⟩ := ensureNewEvent_error he
      exact .duplicate hseen rfl
    · rename_i hnew
      split
      · rename_i e he
        obtain ⟨m, rfl⟩ := pending_error he
        exact refused_billing rfl
      · split
        · rename_i e he
          obtain ⟨m, rfl⟩ := cleanOwner_error he
          exact refused_billing rfl
        · rename_i o ho
          have hval : o.val = owner := by rw [cleanOwner_ok ho, howner]
          refine withdrawalResult_commitNew hw rfl (ensureNewEvent_ok_iff.mp hnew) ⟨o, hval, ?_⟩
          rw [← hval]
          rfl

end

end Ledger

end ComputeMesh.Billing
