import ComputeMesh.Billing.StuckOwners

/-!
# Settlements in flight

`_inflight_for_owner` looks for a settlement of the owner among the rows `list_settlements` returns for each
status, and these are the newest 500 of all owners.

* `at_most_one_in_flight` — **no owner has two settlements in flight**, in every run in which the listing
  reaches the owner's rows whenever a settlement is asked for.
-/

namespace ComputeMesh.Billing

open ComputeMesh.Text

attribute [local irreducible] Ledger.creditOwnerEarnedCredits Ledger.reserveOwnerWithdrawal
  Ledger.finalizeOwnerWithdrawal Ledger.cancelOwnerWithdrawal

/-! ### Rows in flight -/

variable {store : SettlementStore}

namespace SettlementStore

def inFlightOf (store : SettlementStore) (owner : String) : List SettlementRecord :=
  (Dict.values store).filter fun row =>
    row.accountKind = .owner ∧ row.accountId = owner ∧ row.status.inFlight = true

theorem mem_inFlightOf {owner : String} {row : SettlementRecord} :
    row ∈ store.inFlightOf owner ↔ row ∈ Dict.values store ∧ row.accountKind = .owner ∧
      row.accountId = owner ∧ row.status.inFlight = true := by
  simp [inFlightOf, List.mem_filter]

/-- No two rows in flight have the same owner. -/
def Single (store : SettlementStore) : Prop :=
  ∀ i j row row', Dict.get? store i = some row → Dict.get? store j = some row' →
    row.accountId = row'.accountId → row.status.inFlight = true → row'.status.inFlight = true → i = j

/-- The owner has no row in flight. -/
def Idle (store : SettlementStore) (owner : String) : Prop :=
  ∀ id row, Dict.get? store id = some row → row.accountId = owner → row.status.inFlight = false

/-- Writing a row that was in flight before brings no other one of the owner in flight. -/
theorem Single.upsert_some (h : store.Single) {record old : SettlementRecord}
    (hold : Dict.get? store record.settlementId = some old) (hflight : old.status.inFlight = true) :
    (store.upsertSettlement record).Single := by
  have howner := (upsertedRow_of_some hold).2.1
  -- every row of the new table has, under the same id, an old one of the same owner
  have hback : ∀ i row, Dict.get? (store.upsertSettlement record) i = some row →
      row.status.inFlight = true → ∃ row', Dict.get? store i = some row' ∧
        row'.accountId = row.accountId ∧ row'.status.inFlight = true := by
    intro i row hrow hin
    rw [get?_upsertSettlement] at hrow
    split at hrow
    · rename_i hid
      subst hid
      cases hrow
      exact ⟨old, hold, howner.symm, hflight⟩
    · exact ⟨row, hrow, rfl, hin⟩
  intro i j row row' hi hj hsame hin hin'
  obtain ⟨r, hr, hrowner, hrin⟩ := hback i row hi hin
  obtain ⟨r', hr', hrowner', hrin'⟩ := hback j row' hj hin'
  exact h i j r r' hr hr' (by rw [hrowner, hrowner', hsame]) hrin hrin'

theorem Single.upsert_none (h : store.Single) {record : SettlementRecord}
    (hnone : Dict.get? store record.settlementId = none) (hidle : store.Idle record.accountId) :
    (store.upsertSettlement record).Single := by
  have hnew : (store.upsertedRow record).accountId = record.accountId := by
    rw [upsertedRow_of_none hnone]
  intro i j row row' hi hj hsame hin hin'
  rw [get?_upsertSettlement] at hi hj
  split at hi
  · rename_i hid
    split at hj
    · rename_i hjd
      rw [hid, hjd]
    · cases hi
      rw [hidle j row' hj (by rw [← hsame, hnew])] at hin'
      cases hin'
  · split at hj
    · cases hj
      rw [hidle i row hi (by rw [hsame, hnew])] at hin
      cases hin
    · exact h i j row row' hi hj hsame hin hin'

/-- The settlements of one owner that are in flight have different ids, so there is at most one. -/
theorem Single.length_inFlightOf (h : store.Single) (howned : store.Owned)
    (owner : String) : (store.inFlightOf owner).length ≤ 1 := by
  have hids : ((Dict.values store).map SettlementRecord.settlementId).Nodup := by
    have hkeys : (Dict.values store).map SettlementRecord.settlementId = store.entries.map Prod.fst := by
      rw [Dict.values, List.map_map]
      apply List.map_congr_left
      rintro ⟨id, row⟩ hmem
      exact (howned id row (Dict.find_eq_some_of_mem store.nodupKeys hmem)).1
    rw [hkeys]
    exact store.nodupKeys
  have hnodup : ((store.inFlightOf owner).map SettlementRecord.settlementId).Nodup :=
    hids.sublist (List.filter_sublist.map _)
  have hone : ∀ row ∈ store.inFlightOf owner, ∀ row' ∈ store.inFlightOf owner,
      row.settlementId = row'.settlementId := by
    intro row hrow row' hrow'
    obtain ⟨hmem, -, howner, hin⟩ := mem_inFlightOf.mp hrow
    obtain ⟨hmem', -, howner', hin'⟩ := mem_inFlightOf.mp hrow'
    obtain ⟨i, hi⟩ := (Dict.mem_values_iff store row).mp hmem
    obtain ⟨j, hj⟩ := (Dict.mem_values_iff store row').mp hmem'
    rw [(howned i row hi).1, (howned j row' hj).1]
    exact h i j row row' hi hj (by rw [howner, howner']) hin hin'
  rcases hrows : store.inFlightOf owner with _ | ⟨row, _ | ⟨row', rest⟩⟩
  · exact Nat.zero_le 1
  · exact Nat.le_refl 1
  · rw [hrows] at hnodup hone
    have hsame := hone row (by simp) row' (by simp)
    rw [List.map_cons, List.map_cons, List.nodup_cons] at hnodup
    exact absurd (by rw [hsame]; exact List.mem_cons_self) hnodup.1

end SettlementStore

/-! ### The invariant -/

/-- An owner whose new settlement is about to be inserted has none in flight. -/
def Stage.Alone (store : SettlementStore) : Stage → Prop
  | .insert record => store.Idle record.accountId
  | _ => True

theorem Stage.alone_resumeFrom (store : SettlementStore) (r : Resuming) : (resumeFrom r).Alone store := by
  unfold resumeFrom
  cases r.current.status <;> trivial

theorem Stage.alone_resume (store store' : SettlementStore) (profile : Option OwnerPayoutProfile)
    (record : SettlementRecord) : (resume store' profile record).Alone store := by
  rcases resume_cases store' profile record with ⟨answer, heq⟩ | heq <;> rw [heq]
  · trivial
  · exact Stage.alone_resumeFrom store _

namespace OwnerSettlements

/-- The condition: the listing reaches every row of the owner that is in flight, and random ids are new. -/
def Listed (s : OwnerSettlements) : OwnerStep → Prop
  | .run input ownerId amount reference => s.FreshId (.run input ownerId amount reference) ∧
      ∀ row ∈ s.accountStore.inFlightOf (strip ownerId), row ∈ s.accountStore.listSettlements row.status 500
  | _ => True

instance (s : OwnerSettlements) : (step : OwnerStep) → Decidable (s.Listed step)
  | .run input ownerId amount reference =>
    inferInstanceAs (Decidable (s.FreshId (.run input ownerId amount reference) ∧
      ∀ row ∈ s.accountStore.inFlightOf (strip ownerId), row ∈ s.accountStore.listSettlements row.status 500))
  | .cancel _ | .advance .. | .earn .. | .crash _ => inferInstanceAs (Decidable True)

theorem Listed.freshId {s : OwnerSettlements} {step : OwnerStep} (h : s.Listed step) : s.FreshId step := by
  cases step with
  | run input ownerId amount reference => exact h.1
  | crash env | cancel id | advance env profile outcome | earn env ownerId amount reference => trivial

theorem idle_of_listed (howned : store.Owned) {owner : String}
    (hlisted : ∀ row ∈ store.inFlightOf owner, row ∈ store.listSettlements row.status 500)
    (hnone : inflightForOwner store owner = none) : store.Idle owner := by
  intro id row hrow howner
  rw [Bool.eq_false_iff]
  intro hin
  have hkind := (howned id row hrow).2.kind
  have hmem := hlisted row (SettlementStore.mem_inFlightOf.mpr ⟨Dict.mem_values_of_get? hrow, hkind, howner, hin⟩)
  have hstatus : row.status ∈ [SettlementStatus.transferred, .pendingRetry, .pending, .reserving] := by
    cases hst : row.status <;> first | decide | (rw [hst] at hin; cases hin)
  have hfind := List.findSome?_eq_none_iff.mp hnone row.status hstatus
  have hsubject := List.find?_eq_none.mp hfind row hmem
  simp [hkind, howner] at hsubject

/-- **The invariant**: one row in flight for an owner, and none when a new one is about to be inserted. -/
structure OneInFlight (s : OwnerSettlements) : Prop where
  sound : s.Sound
  single : s.accountStore.Single
  alone : s.stage.Alone s.accountStore

variable {s : OwnerSettlements}

/-- **What one write does to the table**: nothing, the insertion of a new row, or the update of one that is
in flight. -/
theorem advance_store (h : s.Sound) (env : Env) (profile : Option OwnerPayoutProfile) (outcome : TransferOutcome) :
    (s.advance env profile outcome).accountStore = s.accountStore ∨ (∃ record, s.stage = .insert record ∧
        (s.advance env profile outcome).accountStore = s.accountStore.upsertSettlement record) ∨
      ∃ record old, Dict.get? s.accountStore record.settlementId = some old ∧ old.status.inFlight = true ∧
        (s.advance env profile outcome).accountStore = s.accountStore.upsertSettlement record := by
  have hok := h.stage
  have hwrite : ∀ (record current : SettlementRecord) (owner : String) (amount : ℤ) (stage : Stage),
      s.accountStore.Holds record owner amount → record.status.inFlight = true →
      current.settlementId = record.settlementId →
      ∃ record old, Dict.get? s.accountStore record.settlementId = some old ∧ old.status.inFlight = true ∧
        (s.store current stage).accountStore = s.accountStore.upsertSettlement record := by
    rintro record current owner amount stage ⟨row, hrow, hstatus, -⟩ hin hid
    exact ⟨current, row, by rwa [hid], by rwa [hstatus], rfl⟩
  fun_cases OwnerSettlements.advance with
  | case1 => exact .inl rfl
  | case2 record hstage => exact .inr (.inl ⟨record, hstage, rfl⟩)
  | case3 r hstage =>
    rw [hstage] at hok
    obtain ⟨l, stage, heq, -⟩ := advanceReserve_cases h env hok.1
    exact .inl (by rw [heq])
  | case4 r _ hstage | case9 r _ hstage =>
    rw [hstage] at hok
    exact .inr (.inr (hwrite _ _ _ _ _ hok.1 (by rw [hok.2]; rfl) rfl))
  | case5 r hstage =>
    obtain ⟨ts, stage, heq, -⟩ := s.advanceTransfer_cases outcome r
    exact .inl (by rw [heq])
  | case6 r _ hstage | case7 r _ hstage | case11 record hstage =>
    rw [hstage] at hok
    exact .inr (.inr (hwrite _ _ _ _ _ hok.1 (by rcases hok.2 with h | h <;> rw [h] <;> rfl) rfl))
  | case8 r hstage =>
    rw [hstage] at hok
    obtain ⟨l, stage, heq, -⟩ := advanceFinalize_cases h env hok.1
    exact .inl (by rw [heq])
  | case10 record hstage =>
    rw [hstage] at hok
    obtain ⟨l, stage, heq, -⟩ := advanceCancel_cases h env hok.1
    exact .inl (by rw [heq])

theorem alone_advance (h : s.Sound) (env : Env) (profile : Option OwnerPayoutProfile)
    (outcome : TransferOutcome) (store : SettlementStore) :
    (s.advance env profile outcome).stage.Alone store := by
  have hok := h.stage
  unfold OwnerSettlements.advance
  split
  · rename_i answer hstage
    rw [hstage]
    trivial
  · exact Stage.alone_resume store _ profile _
  · rename_i r hstage
    rw [hstage] at hok
    obtain ⟨l, stage, heq, ⟨tx, o, txId, -, -, -, -, -, rfl⟩ | ⟨-, ⟨answer, rfl⟩ | ⟨-, -, txId, rfl⟩⟩⟩ :=
      advanceReserve_cases h env hok.1 <;> rw [heq] <;> trivial
  · simp only [OwnerSettlements.store]
    exact Stage.alone_resumeFrom store _
  · rename_i r hstage
    obtain ⟨ts, stage, heq, -, ⟨transferId, rfl⟩ | ⟨exn, rfl⟩⟩ := s.advanceTransfer_cases outcome r <;>
      rw [heq] <;> trivial
  · trivial
  · simp only [OwnerSettlements.store]
    exact Stage.alone_resumeFrom store _
  · rename_i r hstage
    rw [hstage] at hok
    obtain ⟨l, stage, heq, ⟨tx, txId, -, -, -, -, -, rfl⟩ | ⟨-, ⟨answer, rfl⟩ | ⟨-, txId, rfl⟩⟩⟩ :=
      advanceFinalize_cases h env hok.1 <;> rw [heq] <;> trivial
  · trivial
  · rename_i record hstage
    rw [hstage] at hok
    obtain ⟨l, stage, heq, ⟨tx, o, -, -, -, -, -, rfl⟩ | ⟨-, ⟨answer, rfl⟩ | ⟨-, rfl⟩⟩⟩ :=
      advanceCancel_cases h env hok.1 <;> rw [heq] <;> trivial
  · trivial

theorem single_advance (h : s.OneInFlight) (env : Env) (profile : Option OwnerPayoutProfile)
    (outcome : TransferOutcome) : (s.advance env profile outcome).accountStore.Single := by
  rcases advance_store h.sound env profile outcome with
    heq | ⟨record, hstage, heq⟩ | ⟨record, old, hold, hin, heq⟩
  · rw [heq]
    exact h.single
  · have hok := h.sound.stage
    have halone := h.alone
    rw [hstage] at hok halone
    rw [heq]
    exact h.single.upsert_none hok.2.2 halone
  · rw [heq]
    exact h.single.upsert_some hold hin

/-- **Every step keeps one settlement in flight**, if the listing reaches what it looks for. -/
theorem OneInFlight.next (h : s.OneInFlight) {step : OwnerStep} (hlisted : s.Listed step) :
    (s.next step).OneInFlight := by
  have hsound := h.sound.next hlisted.freshId
  cases step with
  | run input ownerId amount reference =>
    simp only [OwnerSettlements.next] at hsound ⊢
    split at hsound
    · obtain ⟨hbegins, ⟨answer, hstage⟩ | ⟨record, -, hstage⟩ |
        ⟨record, hstage, -, -, howner, hnone, -⟩⟩ :=
        s.runOwnerSettlement_spec input ownerId amount reference
      · exact ⟨hsound, by rw [hbegins.store]; exact h.single, by rw [hstage]; trivial⟩
      · exact ⟨hsound, by rw [hbegins.store]; exact h.single,
          by rw [hstage]; exact Stage.alone_resume _ _ _ _⟩
      · refine ⟨hsound, by rw [hbegins.store]; exact h.single, ?_⟩
        rw [hstage, hbegins.store]
        show s.accountStore.Idle record.accountId
        rw [howner]
        exact idle_of_listed h.sound.owned hlisted.2 hnone
    · exact h
  | cancel id =>
    simp only [OwnerSettlements.next] at hsound ⊢
    split at hsound
    · refine ⟨hsound, h.single, ?_⟩
      show (s.cancelUntransferredSettlement id).Alone s.accountStore
      rcases s.cancelUntransferredSettlement_spec h.sound.owned id with
        ⟨answer, hstage⟩ | ⟨record, -, -, ⟨hstage, -⟩ | ⟨hstage, -, -⟩⟩ <;> rw [hstage] <;> trivial
    · exact h
  | advance env profile outcome =>
    exact ⟨hsound, single_advance h env profile outcome, alone_advance h.sound env profile outcome _⟩
  | earn env ownerId amount reference => exact ⟨hsound, h.single, h.alone⟩
  | crash env =>
    obtain ⟨l, hrestart, -⟩ := restart_of_sound h.sound env
    rw [next_crash hrestart] at hsound ⊢
    exact ⟨hsound, h.single, trivial⟩

theorem oneInFlight_start (cls : LedgerClass) (networkFeeBps : ℤ) (wallet : String) :
    (start cls networkFeeBps wallet).OneInFlight := by
  refine ⟨sound_start cls networkFeeBps wallet, ?_, trivial⟩
  intro i j row row' hi
  cases hi

/-- **At most one settlement of an owner is in flight**, in every run in which the listing of the newest 500
rows of a status reaches the owner's rows whenever a settlement is asked for. -/
theorem at_most_one_in_flight (cls : LedgerClass) (networkFeeBps : ℤ) (wallet : String) (steps : List OwnerStep)
    (hlisted : Run.Along next Listed (start cls networkFeeBps wallet) steps) (owner : String) :
    ((Run.exec next (start cls networkFeeBps wallet) steps).accountStore.inFlightOf owner).length ≤ 1 := by
  have hone : (Run.exec next (start cls networkFeeBps wallet) steps).OneInFlight :=
    Run.exec_of_along OneInFlight (fun _ _ h hl => h.next hl) (oneInFlight_start cls networkFeeBps wallet) hlisted
  exact hone.single.length_inFlightOf hone.sound.owned owner

/-- Alice earns, asks for a withdrawal whose transfer fails, and asks again. -/
def retriedSteps : List OwnerStep :=
  .earn (Env.atTime 0) "alice" 25000000 "e1" :: failingSteps sampleInput "alice" sampleProfile "timeout" ++
      [.earn (Env.atTime 2) "alice" 25000000 "e2", .run sampleInput "alice" none (some "again"), sampleAdvance]

/-- The settlement that was left to be retried is found by the second call. -/
theorem at_most_one_in_flight_sample :
    let store := (Run.exec next (start .payoutCapable 1000 "") retriedSteps).accountStore
    (store.inFlightOf "alice").map SettlementRecord.settlementId = [sampleSettlement] ∧
      (store.inFlightOf "alice").length ≤ 1 :=
  And.imp_right (at_most_one_in_flight .payoutCapable 1000 "" retriedSteps · "alice") (by decide +kernel)

/-- **Two settlements in flight**: after 501 owners are stuck, the first of them earns again and asks for a
withdrawal.  The settlement to be retried is not found, and a second one is begun. -/
theorem first_owner_has_two_in_flight :
    1 < ((Run.exec next (start .payoutCapable 1000 "") (stuckSteps 501 ++ stuckRound (stuckOwner 0) 501)
      ).accountStore.inFlightOf (stuckOwner 0).val).length := by
  have hstuck := stuck_owners .payoutCapable 1000 "" 501 (by decide)
  rw [Run.exec_append]
  generalize Run.exec next (start .payoutCapable 1000 "") (stuckSteps 501) = s at hstuck ⊢
  obtain ⟨new, hdone⟩ := (hstuck.ready (by decide) 0 (first_is_not_found hstuck)).round
  obtain ⟨old, hold⟩ := hstuck.has 0 (by decide)
  obtain ⟨k, hk, hid, hretry⟩ := hstuck.rows _ old hold
  have hzero := stuckId_inj (by decide) (by omega) hid
  subst hzero
  generalize Run.exec next s (stuckRound (stuckOwner 0) 501) = s' at hdone ⊢
  have hne : stuckId 0 ≠ stuckId 501 := fun h => absurd (stuckId_inj (by decide) (by decide) h) (by decide)
  have hinFlight : ∀ row id j, Dict.get? s'.accountStore id = some row →
      IsRetryRow row (stuckOwner 0) (stuckInput (stuckOwner 0) j) minimumPayoutMicroUnits →
      row ∈ s'.accountStore.inFlightOf (stuckOwner 0).val := by
    intro row id j hget hrow
    refine SettlementStore.mem_inFlightOf.mpr ⟨Dict.mem_values_of_get? hget, hrow.kind, hrow.owner, ?_⟩
    rw [hrow.status]
    rfl
  have hold' := hinFlight old (stuckId 0) 0 (by rw [hdone.store, Dict.get?_set, if_neg hne]; exact hold) hretry
  have hnew := hinFlight new (stuckId 501) 501 (by rw [hdone.store, Dict.get?_set_self]) hdone.retry
  by_contra hlen
  match hrows : s'.accountStore.inFlightOf (stuckOwner 0).val with
  | [] =>
    rw [hrows] at hold'
    cases hold'
  | [row] =>
    rw [hrows, List.mem_singleton] at hold' hnew
    exact hne (hretry.id.symm.trans ((congrArg _ (hold'.trans hnew.symm)).trans hdone.retry.id))
  | _ :: _ :: _ =>
    rw [hrows] at hlen
    exact hlen (by simp)

end OwnerSettlements

end ComputeMesh.Billing
