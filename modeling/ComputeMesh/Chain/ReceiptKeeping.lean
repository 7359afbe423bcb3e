import ComputeMesh.Chain.Replication

/-!
# The receipts of a ledger

Calls of `record_execution` and `commit_block` on a database that may raise whenever a batch is committed.

* `ReceiptCall.run` — a call, with the exception of the database, if it raises one;
* `CommittedOnce` — one row of `receipts` is the receipt's, and its block has the receipt's leaf;
* `receipts_kept` — **every receipt is pending or committed once** along a run whose batches are committed.
-/

namespace ComputeMesh.Chain

open CompactLedger List

variable {F : Type} [Preorder F] (lib : ChainLibrary F)

abbrev Receipt (F : Type) : Type := ProofOfExecutionReceipt String String F

/-- A call, with the exception that the database raises if the call commits a batch. -/
inductive ReceiptCall (F : Type)
  | recordExecution (t : F) (receipt : Receipt F) (forceCommit : Bool) (fault : Option ChainExn)
  | commitBlock (t : F) (nodeId : String) (fault : Option ChainExn)

/-- `_commit_pending_batch_locked`: the queue is cleared before the database is opened. -/
def commitUnder (fault : Option ChainExn) (l : CompactLedger F) (t : F) (nodeId : String) :
    Except ChainExn Unit × CompactLedger F :=
  match fault with
  | none => ((l.commitPendingBatchLocked lib t nodeId).1.map fun _ => (), (l.commitPendingBatchLocked lib t nodeId).2)
  | some e => if l.pendingReceipts = [] then (.ok (), l) else (.error e, { l with pendingReceipts := [] })

def ReceiptCall.run (l : CompactLedger F) : ReceiptCall F → Except ChainExn Unit × CompactLedger F
  | .recordExecution t receipt forceCommit fault =>
    let l := { l with pendingReceipts := l.pendingReceipts ++ [receipt] }
    if l.autoCommitBatchSize ≤ l.pendingReceipts.length ∨ forceCommit = true then
      commitUnder lib fault l t "node_mesh_primary"
    else (.ok (), l)
  | .commitBlock t nodeId fault => commitUnder lib fault l t nodeId

/-- `appended` are the receipts that were queued. -/
structure ReceiptRun (F : Type) where
  ledger : CompactLedger F
  appended : List (Receipt F)

namespace ReceiptRun

def step (s : ReceiptRun F) (call : ReceiptCall F) : ReceiptRun F where
  ledger := (call.run lib s.ledger).2
  appended :=
    match call with
    | .recordExecution _ receipt _ _ => s.appended ++ [receipt]
    | .commitBlock _ _ _ => s.appended

/-- The call does not raise, and a receipt that it queues has a new id. -/
def Keeps (s : ReceiptRun F) (call : ReceiptCall F) : Prop :=
  (call.run lib s.ledger).1.isOk = true ∧
    match call with
    | .recordExecution _ receipt _ _ => (∀ r ∈ s.appended, r.receiptId ≠ receipt.receiptId) ∧
        ∀ row ∈ s.ledger.store.receipts, row.receiptId ≠ some receipt.receiptId
    | .commitBlock _ _ _ => True

end ReceiptRun

/-- **The receipt is committed in exactly one block.** -/
def CommittedOnce (s : ChainStore F) (r : Receipt F) : Prop :=
  (∃ row ∈ s.receipts, row.receiptId = some r.receiptId ∧ ∃ b ∈ s.blocks, row.blockIndex = some b.index ∧
      computeLeafHash lib id id r ∈ b.receiptLeafHashes) ∧
    ∀ row ∈ s.receipts, ∀ row' ∈ s.receipts, row.receiptId = some r.receiptId → row'.receiptId = some r.receiptId → row = row'

/-- What the queue and the database say of the receipts that were queued. -/
structure ReceiptRun.Sound (s : ReceiptRun F) : Prop where
  distinct : (s.appended.map (·.receiptId)).Nodup
  new : ∀ r ∈ s.ledger.pendingReceipts, ∀ row ∈ s.ledger.store.receipts, row.receiptId ≠ some r.receiptId
  committed : ∃ done, s.appended = done ++ s.ledger.pendingReceipts ∧ ∀ r ∈ done, CommittedOnce lib s.ledger.store r

variable {lib} {s : ReceiptRun F} {l l' : CompactLedger F} {appended : List (Receipt F)} {t : F} {nodeId : String}
  {fault : Option ChainExn}

/-- **A batch that is committed.** -/
theorem ReceiptRun.Sound.commit (h : ReceiptRun.Sound lib ⟨l, appended⟩)
    (hok : (commitUnder lib fault l t nodeId).1.isOk = true) :
    ReceiptRun.Sound lib ⟨(commitUnder lib fault l t nodeId).2, appended⟩ ∧
      ∀ r ∈ appended, CommittedOnce lib (commitUnder lib fault l t nodeId).2.store r := by
  obtain ⟨done, hdone, hcommitted⟩ := h.committed
  dsimp only at hdone hcommitted
  have hquiet : l.pendingReceipts = [] →
      ReceiptRun.Sound lib ⟨l, appended⟩ ∧ ∀ r ∈ appended, CommittedOnce lib l.store r := by
    intro hnone
    rw [hnone, append_nil] at hdone
    exact ⟨h, hdone ▸ hcommitted⟩
  unfold commitUnder commitPendingBatchLocked at hok ⊢
  cases fault with
  | some e =>
    dsimp only at hok ⊢
    split at hok
    · rename_i hnone
      rw [if_pos hnone]
      exact hquiet hnone
    · cases hok
  | none =>
    dsimp only at hok ⊢
    by_cases hnone : l.pendingReceipts = []
    · rw [if_pos hnone]
      exact hquiet hnone
    · rw [if_neg hnone] at hok ⊢
      split at hok
      · cases hok
      · rename_i s' hwrite
        have hids := h.distinct
        dsimp only at hids
        rw [hdone, map_append] at hids
        have hcommits : Commits lib l.store _ l.pendingReceipts := createBlock_commits l.store t hnone nodeId
        obtain ⟨_, rows, -, -, -, -, hblocks, hrows, hreceipts⟩ :=
          write_batch hcommits (nodup_append.mp hids).2.1 h.new hwrite
        obtain ⟨hrowIds, hindex⟩ := batchRows_ids hrows
        have hall : ∀ r ∈ appended, CommittedOnce lib s' r := by
          intro r hr
          unfold CommittedOnce
          rw [hreceipts, hblocks]
          rw [hdone] at hr
          rcases mem_append.mp hr with hold | hpending
          · obtain ⟨⟨row, hrow, hid, b, hb, hblock⟩, honly⟩ := hcommitted r hold
            have hother : ∀ row ∈ rows, row.receiptId ≠ some r.receiptId := by
              intro row hrow hid
              obtain ⟨r', hr', heq⟩ := mem_map.mp (hrowIds ▸ mem_map_of_mem hrow)
              exact (nodup_append.mp hids).2.2 _ (mem_map_of_mem hold) _ (mem_map_of_mem hr')
                (Option.some.inj (heq.trans hid)).symm
            refine ⟨⟨row, mem_append_left _ hrow, hid, b, mem_append_left _ hb, hblock⟩, ?_⟩
            intro row₁ h₁ row₂ h₂ hid₁ hid₂
            exact honly row₁ ((mem_append.mp h₁).resolve_right fun hin => hother _ hin hid₁) row₂
              ((mem_append.mp h₂).resolve_right fun hin => hother _ hin hid₂) hid₁ hid₂
          · have hmem : some r.receiptId ∈ rows.map (·.receiptId) :=
              hrowIds ▸ mem_map_of_mem (f := fun r => some r.receiptId) hpending
            obtain ⟨row, hrow, hid⟩ := mem_map.mp hmem
            refine ⟨⟨row, mem_append_right _ hrow, hid, _, mem_append_right _ mem_cons_self,
              hindex row hrow, ?_⟩, ?_⟩
            · exact hcommits.leaves ▸ mem_map_of_mem hpending
            · intro row₁ h₁ row₂ h₂ hid₁ hid₂
              have hnodup := (ids_of_batch (nodup_append.mp hids).2.1 h.new hrows).1
              exact inj_on_of_nodup_map hnodup
                ((mem_append.mp h₁).resolve_left fun hin => h.new r hpending _ hin hid₁)
                ((mem_append.mp h₂).resolve_left fun hin => h.new r hpending _ hin hid₂) (hid₁.trans hid₂.symm)
        exact ⟨⟨h.distinct, nofun, appended, (append_nil _).symm, hall⟩, hall⟩

theorem ReceiptRun.Sound.step {call : ReceiptCall F} (h : s.Sound lib) (hok : s.Keeps lib call) :
    (s.step lib call).Sound lib := by
  obtain ⟨hrun, hnew⟩ := hok
  cases call with
  | commitBlock t nodeId fault => exact (h.commit hrun).1
  | recordExecution t receipt forceCommit fault =>
    obtain ⟨done, hdone, hcommitted⟩ := h.committed
    have hqueued : ReceiptRun.Sound lib
        ⟨{ s.ledger with pendingReceipts := s.ledger.pendingReceipts ++ [receipt] }, s.appended ++ [receipt]⟩ := by
      refine ⟨?_, ?_, done, by simp only [hdone, append_assoc], hcommitted⟩
      · simp only [map_append, map_cons, map_nil]
        refine nodup_append.mpr ⟨h.distinct, nodup_singleton _, ?_⟩
        intro id hid id' hid' heq
        obtain ⟨r, hr, rfl⟩ := mem_map.mp hid
        exact hnew.1 r hr (heq.trans (mem_singleton.mp hid'))
      · intro r hr
        rcases mem_append.mp hr with hr | hr
        · exact h.new r hr
        · obtain rfl := mem_singleton.mp hr
          exact hnew.2
    unfold ReceiptRun.step
    unfold ReceiptCall.run at hrun ⊢
    dsimp only at hrun ⊢
    split
    · rename_i hcommit
      rw [if_pos hcommit] at hrun
      exact (hqueued.commit hrun).1
    · exact hqueued

/-- **No receipt is lost** as long as every batch is committed and no two executions have one id: a receipt that was queued
is pending or committed once, and all are committed once when a block is. -/
theorem receipts_kept (lib : ChainLibrary F) (l : CompactLedger F) (hempty : l.pendingReceipts = [])
    (calls : List (ReceiptCall F)) (hok : Run.Along (ReceiptRun.step lib) (ReceiptRun.Keeps lib) ⟨l, []⟩ calls) :
    let s := Run.exec (ReceiptRun.step lib) ⟨l, []⟩ calls
    (∀ r ∈ s.appended, r ∈ s.ledger.pendingReceipts ∨ CommittedOnce lib s.ledger.store r) ∧
      ∀ t nodeId fault, (commitUnder lib fault s.ledger t nodeId).1.isOk = true →
        ∀ r ∈ s.appended, CommittedOnce lib (commitUnder lib fault s.ledger t nodeId).2.store r := by
  intro s
  have hsound : s.Sound lib := by
    refine Run.exec_of_along (ReceiptRun.Sound lib) (fun _ _ h hok => h.step hok) ⟨nodup_nil, ?_, [], ?_, nofun⟩ hok
    · exact fun r hr => nomatch hempty ▸ hr
    · exact hempty.symm
  obtain ⟨done, hdone, hcommitted⟩ := hsound.committed
  refine ⟨fun r hr => ?_, fun t nodeId fault hrun => (ReceiptRun.Sound.commit hsound hrun).2⟩
  rw [hdone] at hr
  exact (mem_append.mp hr).symm.imp id (hcommitted r)

attribute [local instance] wholeTimes

def sampleReceipt (receiptId : String) : Receipt ℤ :=
  { genesisReceipt sampleChainLibrary 1700000001 0 with receiptId := receiptId }

/-- Two executions, the first of which commits. -/
def sampleCalls (fault : Option ChainExn) : List (ReceiptCall ℤ) :=
  [.recordExecution 5 (sampleReceipt "poe_a") true fault, .recordExecution 6 (sampleReceipt "poe_b") false none]

theorem receipts_kept_sample :
    let s := Run.exec (ReceiptRun.step sampleChainLibrary) ⟨sampleLedger, []⟩ (sampleCalls none)
    ∀ r ∈ s.appended, r ∈ s.ledger.pendingReceipts ∨ CommittedOnce sampleChainLibrary s.ledger.store r :=
  (receipts_kept sampleChainLibrary sampleLedger rfl (sampleCalls none) ⟨⟨by decide, by decide, by decide⟩,
    ⟨by decide, by decide, by decide⟩, trivial⟩).1

/-- **A commit that fails loses the receipts of its batch.** -/
theorem failed_commit_loses_receipt :
    let s := Run.exec (ReceiptRun.step sampleChainLibrary) ⟨sampleLedger, []⟩
      (sampleCalls (some (.sqlite "database is locked")))
    ¬∀ r ∈ s.appended, r ∈ s.ledger.pendingReceipts ∨ CommittedOnce sampleChainLibrary s.ledger.store r := by
  intro s h
  rcases h (sampleReceipt "poe_a") (by decide) with hpending | ⟨⟨row, hrow, hid, -⟩, -⟩
  · revert hpending
    decide
  · have hnone : ∀ row ∈ s.ledger.store.receipts, row.receiptId ≠ some "poe_a" := by decide
    exact hnone row hrow hid

end ComputeMesh.Chain
