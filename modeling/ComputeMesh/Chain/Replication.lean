import ComputeMesh.Lib.Run
import ComputeMesh.Chain.RemoteBlocks

/-!
# Replication

Pages of one ledger, taken over by another.  A block commits to its receipts in the order in which they were queued, and
a page lists them in the order of their times, as the database gives them back.

* `OrderlyBatch` — the batches for which the two agree;
* `Replicable` — what a ledger is whose batches were all orderly;
* `ingest_of_holds` — **a peer that holds the blocks before takes over the next one**;
* `orderly_runs_replicate` — a ledger whose batches were orderly is replicated page by page.
-/

namespace ComputeMesh.Chain

open CompactLedger List ChainStore

variable {F : Type} [Preorder F] (lib : ChainLibrary F)

/-! ### The ledger at work -/

/-- A call on the ledger: the receipt of an execution is stamped before it is queued, at any time. -/
inductive LedgerOp (F : Type)
  | recordExecution (stamp : F) (execution : Execution F) (commitTime : F) (forceCommit : Bool)
  | commitBlock (commitTime : F) (nodeId : String)

/-- What a call leaves. -/
def LedgerOp.run (l : CompactLedger F) : LedgerOp F → CompactLedger F
  | .recordExecution stamp execution commitTime forceCommit =>
    match createReceipt lib stamp execution with
    | .error _ => l
    | .ok receipt => (l.enqueue lib commitTime receipt forceCommit).2
  | .commitBlock commitTime nodeId => (l.commitBlock lib commitTime nodeId).2

/-- A ledger that was just opened, with the floats `1700000000.0` and `0.0`. -/
def IsOpened (genesisTime zero : F) (l : CompactLedger F) : Prop :=
  ensureGenesis lib genesisTime zero ⟨[], [], .nil⟩ = .ok l.store ∧ l.pendingReceipts = []

def batchRows {R : Type} (row : R → Except ChainExn (ReceiptRow F)) : List R → Except ChainExn (List (ReceiptRow F))
  | [] => .ok []
  | r :: rest => do
    let first ← row r
    let others ← batchRows row rest
    return first :: others

/-- The text of a float is that of what the database gives back. -/
def KeepsText (x : F) : Prop := ∀ y, lib.realColumn x = some y → lib.text y = lib.text x

/-- **A batch whose block can be replicated**: its floats keep their texts, its ids are new, and the database lists its
rows in the order of the queue. -/
structure OrderlyBatch (s : ChainStore F) (commitTime : F) (batch : List (ProofOfExecutionReceipt String String F)) :
    Prop where
  commitText : KeepsText lib commitTime
  texts : ∀ r ∈ batch, KeepsText lib r.timestamp ∧ KeepsText lib r.elapsedSeconds
  distinct : (batch.map (·.receiptId)).Nodup
  new : ∀ r ∈ batch, ∀ row ∈ s.receipts, row.receiptId ≠ some r.receiptId
  order : ∀ rows, batchRows (localRow lib (s.head.1 + 1)) batch = .ok rows → lib.orderByTimestamp rows = rows

/-- The batch that a call commits, if it commits one, is orderly. -/
def LedgerOp.Orderly (l : CompactLedger F) : LedgerOp F → Prop
  | .recordExecution stamp execution commitTime forceCommit => ∀ receipt, createReceipt lib stamp execution = .ok receipt →
    l.autoCommitBatchSize ≤ (l.pendingReceipts ++ [receipt]).length ∨ forceCommit = true →
      OrderlyBatch lib l.store commitTime (l.pendingReceipts ++ [receipt])
  | .commitBlock commitTime _ => OrderlyBatch lib l.store commitTime l.pendingReceipts

variable {lib}

variable {rows : List (ReceiptRow F)}

theorem orderByTimestamp_of_increasing
    (h : rows.Pairwise fun a b => a.timestamp < b.timestamp) : lib.orderByTimestamp rows = rows := by
  refine List.Perm.eq_of_pairwise ?_ (lib.order_sorted rows) (h.imp fun hlt => lt_asymm hlt) (lib.order_perm rows)
  intro a b ha hb hab hba
  by_contra hne
  have hapart : rows.Pairwise fun a b => a.timestamp < b.timestamp ∨ b.timestamp < a.timestamp := h.imp .inl
  have : Std.Symm fun a b : ReceiptRow F => a.timestamp < b.timestamp ∨ b.timestamp < a.timestamp := ⟨fun _ _ => Or.symm⟩
  rcases hapart.forall ((lib.order_perm rows).mem_iff.mp ha) hb hne with hlt | hlt
  · exact hba hlt
  · exact hab hlt

/-! ### The rows of a batch -/

section

variable {R : Type} {row : R → Except ChainExn (ReceiptRow F)}

omit [Preorder F] in
theorem writeReceipts_batch {batch : List R} {s s' : ChainStore F} (h : writeReceipts row s batch = .ok s') :
    ∃ rows, batchRows row batch = .ok rows := by
  induction batch generalizing s with
  | nil => exact ⟨[], rfl⟩
  | cons r rest ih =>
    rw [writeReceipts, bind_eq_ok_iff] at h
    obtain ⟨first, hfirst, h⟩ := h
    obtain ⟨others, hothers⟩ := ih h
    refine ⟨first :: others, ?_⟩
    rw [batchRows, hfirst, ok_bind, hothers]
    rfl

omit [Preorder F] in
/-- **Rows with new ids are appended.** -/
theorem writeReceipts_of_new {batch : List R} (h : batchRows row batch = .ok rows)
    (s : ChainStore F) (hdistinct : (rows.map (·.receiptId)).Nodup)
    (hnew : ∀ r ∈ rows, ∀ r' ∈ s.receipts, r'.receiptId ≠ r.receiptId) :
    ∃ s', writeReceipts row s batch = .ok s' ∧ s'.blocks = s.blocks ∧ s'.receipts = s.receipts ++ rows := by
  induction batch generalizing s rows with
  | nil =>
    cases h
    exact ⟨s, rfl, rfl, (append_nil _).symm⟩
  | cons r rest ih =>
    rw [batchRows, bind_eq_ok_iff] at h
    obtain ⟨first, hfirst, h⟩ := h
    rw [bind_eq_ok_iff] at h
    obtain ⟨others, hothers, h⟩ := h
    cases h
    rw [map_cons, nodup_cons] at hdistinct
    rw [forall_mem_cons] at hnew
    have hinsert : (s.insertOrReplace first).receipts = s.receipts ++ [first] := by
      have hall : s.receipts.filter (fun r' => decide ¬(first.receiptId.isSome ∧ r'.receiptId = first.receiptId))
          = s.receipts :=
        filter_eq_self.mpr fun r' hr' => decide_eq_true fun hsame => hnew.1 r' hr' hsame.2
      unfold insertOrReplace
      dsimp only
      rw [hall]
    obtain ⟨s', hwrite, hblocks, hreceipts⟩ := ih hothers (s.insertOrReplace first) hdistinct.2 (by
      intro r hr r' hr'
      rw [hinsert, mem_append, mem_singleton] at hr'
      rcases hr' with hold | rfl
      · exact hnew.2 r hr r' hold
      · exact fun hsame => hdistinct.1 (mem_map.mpr ⟨r, hr, hsame.symm⟩))
    refine ⟨s', ?_, hblocks, ?_⟩
    · rw [writeReceipts, hfirst, ok_bind]
      exact hwrite
    · rw [hreceipts, hinsert, append_assoc]
      rfl

end

variable {index : ℤ}

theorem localRow_ok {r : ProofOfExecutionReceipt String String F} {row : ReceiptRow F}
    (h : localRow lib index r = .ok row) :
    ∃ t e, lib.realColumn r.timestamp = some t ∧ lib.realColumn r.elapsedSeconds = some e ∧
      row = ⟨some r.receiptId, t, r.toolName, r.taskHash, r.codeAstHash, r.inputsHash, r.outputsHash, e, r.nodeId, r.status,
        some index⟩ := by
  unfold localRow receiptRow at h
  rw [ok_bind, bind_eq_ok_iff] at h
  obtain ⟨t, ht, h⟩ := h
  simp only [ok_bind, notNull] at h
  rw [bind_eq_ok_iff] at h
  obtain ⟨e, he, h⟩ := h
  cases h
  exact ⟨t, e, notNull_ok ht, notNull_ok he, rfl⟩

theorem rowLeaf_local {r : ProofOfExecutionReceipt String String F} {t e : F} {index : Option ℤ}
    (ht : lib.text t = lib.text r.timestamp) (he : lib.text e = lib.text r.elapsedSeconds) :
    rowLeaf lib ⟨some r.receiptId, t, r.toolName, r.taskHash, r.codeAstHash, r.inputsHash, r.outputsHash, e, r.nodeId,
      r.status, index⟩ = computeLeafHash lib id id r := by
  unfold rowLeaf computeLeafHash
  dsimp only
  rw [ht, he]
  rfl

variable {batch : List (ProofOfExecutionReceipt String String F)}

theorem batchRows_ids (h : batchRows (localRow lib index) batch = .ok rows) :
    rows.map (·.receiptId) = batch.map (fun r => some r.receiptId) ∧ ∀ row ∈ rows, row.blockIndex = some index := by
  induction batch generalizing rows with
  | nil =>
    cases h
    exact ⟨rfl, forall_mem_nil _⟩
  | cons r rest ih =>
    rw [batchRows, bind_eq_ok_iff] at h
    obtain ⟨first, hfirst, h⟩ := h
    rw [bind_eq_ok_iff] at h
    obtain ⟨others, hothers, h⟩ := h
    cases h
    obtain ⟨hids, hrows⟩ := ih hothers
    obtain ⟨t, e, -, -, rfl⟩ := localRow_ok hfirst
    exact ⟨by rw [map_cons, map_cons, hids], forall_mem_cons.mpr ⟨rfl, hrows⟩⟩

theorem batchRows_local (h : batchRows (localRow lib index) batch = .ok rows)
    (htexts : ∀ r ∈ batch, KeepsText lib r.timestamp ∧ KeepsText lib r.elapsedSeconds) :
    rows.map (rowLeaf lib) = batch.map (computeLeafHash lib id id) ∧
      ∀ row ∈ rows, (∃ receiptId, row.receiptId = some receiptId) ∧ row.blockIndex = some index ∧
        lib.realColumn row.timestamp = some row.timestamp ∧
        lib.realColumn row.elapsedSeconds = some row.elapsedSeconds := by
  induction batch generalizing rows with
  | nil =>
    cases h
    exact ⟨rfl, forall_mem_nil _⟩
  | cons r rest ih =>
    rw [batchRows, bind_eq_ok_iff] at h
    obtain ⟨first, hfirst, h⟩ := h
    rw [bind_eq_ok_iff] at h
    obtain ⟨others, hothers, h⟩ := h
    cases h
    rw [forall_mem_cons] at htexts
    obtain ⟨hleaves, hrows⟩ := ih hothers htexts.2
    obtain ⟨t, e, ht, he, rfl⟩ := localRow_ok hfirst
    refine ⟨?_, forall_mem_cons.mpr ⟨⟨⟨_, rfl⟩, rfl, lib.realColumn_idem ht, lib.realColumn_idem he⟩, hrows⟩⟩
    rw [map_cons, map_cons, hleaves, rowLeaf_local (htexts.1.1 t ht) (htexts.1.2 e he)]

/-! ### Ledgers that can be replicated -/

/-- The rows of a block's receipts, in the order of their insertion. -/
def rowsOf (s : ChainStore F) (index : ℤ) : List (ReceiptRow F) :=
  s.receipts.filter fun r => decide (r.blockIndex = some index)

variable (lib) in
/-- **A block that a peer can take over**: it is linked and sound, the database gives its time back, and a page lists its
receipts in the order of its leaves. -/
structure BlockReplicable (s : ChainStore F) (b : LedgerBlock F) : Prop where
  nonneg : 0 ≤ b.index
  index : isSqliteInteger b.index
  receiptCount : isSqliteInteger b.receiptCount
  timestamp : lib.realColumn b.timestamp = some b.timestamp
  placed : checkPlace s b.toBlockHeader = none
  sound : b.Sound lib
  leaves : b.receiptLeafHashes = (rowsOf s b.index).map (rowLeaf lib)
  ordered : lib.orderByTimestamp (rowsOf s b.index) = rowsOf s b.index

variable (lib) in
/-- A row that a peer can take over. -/
structure RowReplicable (s : ChainStore F) (r : ReceiptRow F) : Prop where
  receiptId : ∃ receiptId, r.receiptId = some receiptId
  timestamp : lib.realColumn r.timestamp = some r.timestamp
  elapsedSeconds : lib.realColumn r.elapsedSeconds = some r.elapsedSeconds
  block : ∃ b ∈ s.blocks, r.blockIndex = some b.index

variable (lib) in
/-- **A ledger that can be replicated.** -/
structure Replicable (s : ChainStore F) : Prop where
  blocks : ∀ b ∈ s.blocks, BlockReplicable lib s b
  rows : ∀ r ∈ s.receipts, RowReplicable lib s r
  hashes : ∀ b ∈ s.blocks, ∀ b' ∈ s.blocks, b.blockHash = b'.blockHash → b = b'
  ids : (s.receipts.map (·.receiptId)).Nodup

/-- An empty database. -/
def emptyStore : ChainStore F := ⟨[], [], .nil⟩

theorem replicable_empty : Replicable lib (emptyStore : ChainStore F) :=
  ⟨forall_mem_nil _, forall_mem_nil _, forall_mem_nil _, nodup_nil⟩

omit [Preorder F] in
theorem index_le_head {s : ChainStore F} {b : LedgerBlock F} (hb : b ∈ s.blocks) : b.index ≤ s.head.1 := by
  obtain ⟨front, last, hlist⟩ := eq_nil_or_concat s.blocks |>.resolve_left (ne_nil_of_mem hb)
  have hsorted := s.sorted
  unfold ChainStore.head
  rw [hlist] at hb hsorted ⊢
  rw [concat_eq_append] at hb hsorted ⊢
  rw [getLast?_concat]
  rcases mem_append.mp hb with hfront | hlast
  · exact ((pairwise_append.mp hsorted).2.2 b hfront last mem_cons_self).le
  · rw [mem_singleton.mp hlast]

omit [Preorder F] in
theorem rowsOf_append {s s' : ChainStore F} (h : s'.receipts = s.receipts ++ rows)
    (index : ℤ) : rowsOf s' index = rowsOf s index ++ rows.filter fun r => decide (r.blockIndex = some index) := by
  unfold rowsOf
  rw [h, filter_append]

omit [Preorder F] in
theorem checkPlace_mono {s s' : ChainStore F} {b : BlockHeader F} (hsub : ∀ b ∈ s.blocks, b ∈ s'.blocks)
    (h : checkPlace s b = none) : checkPlace s' b = none := by
  unfold checkPlace at h ⊢
  split
  · rename_i hpos
    rw [if_pos hpos] at h
    split at h
    · cases h
    · rename_i prev hget
      obtain ⟨hmem, hindex⟩ := blockAt_eq_some_iff.mp hget
      rw [blockAt_eq_some_iff.mpr ⟨hsub prev hmem, hindex⟩]
      exact h
  · rename_i hpos
    rw [if_neg hpos] at h
    exact h

variable (lib) in
structure Commits (s : ChainStore F) (b : LedgerBlock F) (batch : List (ProofOfExecutionReceipt String String F)) :
    Prop where
  index : b.index = s.head.1 + 1
  prevHash : b.prevHash = s.head.2
  sound : b.Sound lib
  leaves : b.receiptLeafHashes = batch.map (computeLeafHash lib id id)

omit [Preorder F] in
theorem checkPlace_next {s : ChainStore F} {b : BlockHeader F} (hnonneg : ∀ b ∈ s.blocks, 0 ≤ b.index)
    (hindex : b.index = s.head.1 + 1) (hprev : b.prevHash = s.head.2) : checkPlace s b = none ∧ 0 ≤ b.index := by
  unfold checkPlace
  rcases eq_nil_or_concat s.blocks with hnone | ⟨front, last, hlist⟩
  · have hhead : s.head = (-1, genesisPrevHash) := by
      unfold ChainStore.head
      rw [hnone]
      rfl
    rw [hhead] at hindex hprev
    rw [if_neg (by omega), if_neg (not_not.mpr hprev)]
    exact ⟨rfl, by omega⟩
  · rw [concat_eq_append] at hlist
    have hlast : last ∈ s.blocks := by
      rw [hlist]
      exact mem_append_right front mem_cons_self
    have hhead : s.head = (last.index, last.blockHash) := by
      unfold ChainStore.head
      rw [hlist, getLast?_concat]
    have hpos := hnonneg last hlast
    rw [hhead] at hindex hprev
    have hget : s.blockAt (b.index - 1) = some last :=
      blockAt_eq_some_iff.mpr ⟨hlast, by rw [hindex]; dsimp only; omega⟩
    rw [if_pos (by rw [hindex]; dsimp only; omega), hget]
    dsimp only
    rw [if_neg (not_not.mpr hprev.symm)]
    exact ⟨rfl, by rw [hindex]; dsimp only; omega⟩

omit [Preorder F] in
theorem blocks_insert_next {s s' : ChainStore F} {b : LedgerBlock F} (hlast : ∀ b' ∈ s.blocks, b'.index < b.index)
    (h : s.insertBlock b = .ok s') : s'.blocks = s.blocks ++ [b] := by
  have hlower : s.blocks.filter (fun b' => decide (b'.index < b.index)) = s.blocks :=
    filter_eq_self.mpr fun b' hb' => decide_eq_true (hlast b' hb')
  have hupper : s.blocks.filter (fun b' => decide (b.index < b'.index)) = [] := by
    refine filter_eq_nil_iff.mpr fun b' hb' => ?_
    simpa using (hlast b' hb').le
  rw [(insertBlock_ok h).2.2.2, hlower, hupper]

theorem ids_of_batch {s : ChainStore F} (hdistinct : (batch.map (·.receiptId)).Nodup)
    (hnew : ∀ r ∈ batch, ∀ row ∈ s.receipts, row.receiptId ≠ some r.receiptId)
    (hrows : batchRows (localRow lib index) batch = .ok rows) :
    (rows.map (·.receiptId)).Nodup ∧ ∀ r ∈ rows, ∀ r' ∈ s.receipts, r'.receiptId ≠ r.receiptId := by
  have hids := (batchRows_ids hrows).1
  constructor
  · rw [hids]
    have hsome := hdistinct.map (Option.some_injective String)
    rw [map_map] at hsome
    exact hsome
  · intro r hr r' hr' hsame
    have hmem : r.receiptId ∈ batch.map fun r => some r.receiptId := hids ▸ mem_map_of_mem hr
    obtain ⟨receipt, hreceipt, hid⟩ := mem_map.mp hmem
    exact hnew receipt hreceipt r' hr' (hsame.trans hid.symm)

/-- **What a batch with new ids leaves.** -/
theorem write_batch {s s' : ChainStore F} {b : LedgerBlock F} (hcommits : Commits lib s b batch)
    (hdistinct : (batch.map (·.receiptId)).Nodup)
    (hnew : ∀ r ∈ batch, ∀ row ∈ s.receipts, row.receiptId ≠ some r.receiptId)
    (h : writeBlockAndReceipts lib (localRow lib b.index) s b batch = .ok s') :
    ∃ t rows, isSqliteInteger b.index ∧ isSqliteInteger b.receiptCount ∧ lib.realColumn b.timestamp = some t ∧
      (∀ b' ∈ s.blocks, b'.blockHash ≠ b.blockHash) ∧ s'.blocks = s.blocks ++ [{ b with timestamp := t }] ∧
      batchRows (localRow lib b.index) batch = .ok rows ∧ s'.receipts = s.receipts ++ rows := by
  unfold writeBlockAndReceipts at h
  rw [bind_eq_ok_iff] at h
  obtain ⟨row, hrow, h⟩ := h
  rw [bind_eq_ok_iff] at h
  obtain ⟨s₁, hinsert, hwrite⟩ := h
  obtain ⟨hindex, hcount, t, ht, rfl⟩ := blockRow_ok lib hrow
  obtain ⟨-, hunique, hreceipts, -⟩ := insertBlock_ok hinsert
  obtain ⟨rows, hrows⟩ := writeReceipts_batch hwrite
  obtain ⟨hdistinct, hnew⟩ := ids_of_batch hdistinct hnew hrows
  obtain ⟨s₂, hwrite', hblocks', hreceipts'⟩ := writeReceipts_of_new hrows s₁ hdistinct (hreceipts ▸ hnew)
  rw [hwrite] at hwrite'
  cases hwrite'
  refine ⟨t, rows, hindex, hcount, ht, hunique, ?_, hrows, hreceipts ▸ hreceipts'⟩
  rw [hblocks', blocks_insert_next (fun b' hb' => ?_) hinsert]
  have hle := index_le_head hb'
  have hnext := hcommits.index
  dsimp only
  omega

/-- **An orderly batch leaves a ledger that can be replicated.** -/
theorem Replicable.write {s s' : ChainStore F} {b : LedgerBlock F}
    (h : Replicable lib s) (hcommits : Commits lib s b batch)
    (horderly : OrderlyBatch lib s b.timestamp batch)
    (hwrite : writeBlockAndReceipts lib (localRow lib b.index) s b batch = .ok s') : Replicable lib s' := by
  obtain ⟨t, rows, hindex, hcount, ht, hunique, hblocks, hrows, hreceipts⟩ :=
    write_batch hcommits horderly.distinct horderly.new hwrite
  obtain ⟨hleaves, hrow⟩ := batchRows_local hrows horderly.texts
  obtain ⟨hdistinct, hnew⟩ := ids_of_batch horderly.distinct horderly.new hrows
  have hsub : ∀ b' ∈ s.blocks, b' ∈ s'.blocks := fun b' hb' => hblocks ▸ mem_append_left _ hb'
  have hbelow : ∀ b' ∈ s.blocks, b'.index < b.index := fun b' hb' => by
    have hle := index_le_head hb'
    have hnext := hcommits.index
    omega
  have hlater : ∀ index, index ≠ b.index → rowsOf s' index = rowsOf s index := by
    intro index hne
    rw [rowsOf_append hreceipts, filter_eq_nil_iff.mpr, append_nil]
    intro r hr hsame
    rw [decide_eq_true_eq, (hrow r hr).2.1] at hsame
    exact hne (Option.some.inj hsame).symm
  have hown : rowsOf s' b.index = rows := by
    have hnone : rowsOf s b.index = [] := by
      refine filter_eq_nil_iff.mpr fun r hr hsame => ?_
      rw [decide_eq_true_eq] at hsame
      obtain ⟨b', hb', hb''⟩ := (h.rows r hr).block
      exact (hbelow b' hb').ne (Option.some.inj (hb''.symm.trans hsame))
    rw [rowsOf_append hreceipts, hnone, nil_append]
    exact filter_eq_self.mpr fun r hr => decide_eq_true (hrow r hr).2.1
  obtain ⟨hplace, hnonneg⟩ := checkPlace_next (fun b' hb' => (h.blocks b' hb').nonneg) hcommits.index hcommits.prevHash
  refine ⟨?_, ?_, ?_, ?_⟩
  · intro b' hb'
    rw [hblocks, mem_append, mem_singleton] at hb'
    rcases hb' with hold | rfl
    · have hb := h.blocks b' hold
      have hrows' := hlater b'.index (hbelow b' hold).ne
      exact ⟨hb.nonneg, hb.index, hb.receiptCount, hb.timestamp, checkPlace_mono hsub hb.placed, hb.sound,
        hrows' ▸ hb.leaves, hrows' ▸ hb.ordered⟩
    · have horder := horderly.order rows (hcommits.index ▸ hrows)
      refine ⟨hnonneg, hindex, hcount, lib.realColumn_idem ht, checkPlace_mono hsub hplace, ?_, ?_, ?_⟩
      · exact ⟨(digest_of_text lib (horderly.commitText t ht)).trans hcommits.sound.1, hcommits.sound.2⟩
      · exact hcommits.leaves.trans (hleaves.symm.trans (congrArg _ hown.symm))
      · exact (congrArg _ hown).trans (horder.trans hown.symm)
  · intro r hr
    rw [hreceipts, mem_append] at hr
    rcases hr with hold | hfresh
    · have hr := h.rows r hold
      obtain ⟨b', hb', hindex'⟩ := hr.block
      exact ⟨hr.receiptId, hr.timestamp, hr.elapsedSeconds, b', hsub b' hb', hindex'⟩
    · obtain ⟨hid, hblock, htime, helapsed⟩ := hrow r hfresh
      exact ⟨hid, htime, helapsed, { b with timestamp := t }, hblocks ▸ mem_append_right _ mem_cons_self, hblock⟩
  · intro b₁ hb₁ b₂ hb₂ hsame
    rw [hblocks, mem_append, mem_singleton] at hb₁ hb₂
    rcases hb₁ with hold₁ | rfl
    · rcases hb₂ with hold₂ | rfl
      · exact h.hashes b₁ hold₁ b₂ hold₂ hsame
      · exact absurd hsame (hunique b₁ hold₁)
    · rcases hb₂ with hold₂ | rfl
      · exact absurd hsame.symm (hunique b₂ hold₂)
      · rfl
  · rw [hreceipts, map_append]
    refine nodup_append.mpr ⟨h.ids, hdistinct, ?_⟩
    intro id hid id' hid' hsame
    obtain ⟨r', hr', rfl⟩ := mem_map.mp hid
    obtain ⟨r, hr, rfl⟩ := mem_map.mp hid'
    exact hnew r hr r' hr' hsame

/-! ### Runs -/

theorem createBlock_commits (s : ChainStore F) (t : F) (hne : batch ≠ []) (nodeId : String) :
    Commits lib s (createBlock lib t (s.head.1 + 1) s.head.2 batch nodeId) batch := by
  have hleaves : (createBlock lib t (s.head.1 + 1) s.head.2 batch nodeId).receiptLeafHashes
      = batch.map (computeLeafHash lib id id) := if_neg hne
  exact ⟨rfl, rfl, ⟨rfl, rfl⟩, hleaves⟩

theorem Replicable.commitPendingBatchLocked {l : CompactLedger F} (h : Replicable lib l.store) {t : F}
    (horderly : OrderlyBatch lib l.store t l.pendingReceipts) (nodeId : String) :
    Replicable lib (l.commitPendingBatchLocked lib t nodeId).2.store := by
  unfold CompactLedger.commitPendingBatchLocked
  split
  · exact h
  · rename_i hne
    dsimp only
    split
    · exact h
    · rename_i s' hwrite
      exact h.write (createBlock_commits l.store t hne nodeId) horderly hwrite

theorem Replicable.step {l : CompactLedger F} (h : Replicable lib l.store) {op : LedgerOp F} (horderly : op.Orderly lib l) :
    Replicable lib (op.run lib l).store := by
  cases op with
  | recordExecution stamp execution commitTime forceCommit =>
    unfold LedgerOp.run
    dsimp only
    split
    · exact h
    · rename_i receipt hcreate
      have hbatch := horderly receipt hcreate
      unfold enqueue
      dsimp only
      split
      · rename_i hcommit
        have hstep : Replicable lib (CompactLedger.commitPendingBatchLocked lib
            { l with pendingReceipts := l.pendingReceipts ++ [receipt] } commitTime "node_mesh_primary").2.store :=
          Replicable.commitPendingBatchLocked (l := { l with pendingReceipts := l.pendingReceipts ++ [receipt] }) h
            (hbatch hcommit) "node_mesh_primary"
        split <;> rename_i hrun <;> rw [hrun] at hstep <;> exact hstep
      · exact h
  | commitBlock commitTime nodeId => exact h.commitPendingBatchLocked horderly nodeId

theorem genesis_commits (genesisTime zero : F) :
    Commits lib emptyStore (genesisBlock lib genesisTime zero) [genesisReceipt lib genesisTime zero] where
  index := by
    show (0 : ℤ) = -1 + 1
    rfl
  prevHash := by
    unfold genesisBlock ChainStore.head emptyStore
    dsimp only
    rw [getLast?_nil]
  sound := by
    unfold genesisBlock LedgerBlock.Sound BlockHeader.digest
    exact ⟨rfl, rfl⟩
  leaves := by
    unfold genesisBlock
    rfl

/-- **A ledger that was just opened can be replicated.** -/
theorem replicable_opened {genesisTime zero : F} (htime : lib.realColumn genesisTime = some genesisTime)
    (hzero : lib.realColumn zero = some zero) {l : CompactLedger F} (h : IsOpened lib genesisTime zero l) :
    Replicable lib l.store := by
  have hwrite : writeBlockAndReceipts lib (localRow lib (genesisBlock lib genesisTime zero).index) emptyStore
      (genesisBlock lib genesisTime zero) [genesisReceipt lib genesisTime zero] = .ok l.store := by
    have hopened := h.1
    unfold ensureGenesis at hopened
    rw [if_pos rfl] at hopened
    exact hopened
  have hkeeps : ∀ x, lib.realColumn x = some x → KeepsText lib x := by
    intro x hx y hy
    rw [hx] at hy
    cases hy
    rfl
  refine replicable_empty.write (genesis_commits genesisTime zero) ⟨hkeeps _ htime, ?_, ?_, ?_, ?_⟩ hwrite
  · intro r hr
    rw [mem_singleton.mp hr]
    exact ⟨hkeeps _ htime, hkeeps _ hzero⟩
  · exact nodup_singleton _
  · exact nofun
  · intro rows hrows
    refine orderByTimestamp_of_increasing ?_
    rw [batchRows, bind_eq_ok_iff] at hrows
    obtain ⟨first, -, hrows⟩ := hrows
    cases hrows
    exact pairwise_singleton _ _

/-! ### Peers -/

variable (lib)

/-- Whether a row belongs to a block up to an index. -/
def upTo (k : ℤ) (r : ReceiptRow F) : Bool := r.blockIndex.any fun index => decide (index ≤ k)

/-- **A peer holds exactly the blocks of a database up to an index, and their receipts.** -/
structure Holds (s : ChainStore F) (k : ℤ) (peer : CompactLedger F) : Prop where
  blocks : peer.store.blocks = s.blocks.filter fun b => decide (b.index ≤ k)
  receipts : peer.store.receipts.Perm (s.receipts.filter (upTo k))

/-- A page, block by block; a block that is not accepted ends it. -/
def ingestPage (l : CompactLedger F) : List (Value F × Value F) → Bool × CompactLedger F
  | [] => (true, l)
  | (blockData, receiptsData) :: rest =>
    match ingestRemoteBlock lib l blockData receiptsData with
    | (.ok (true, _), l') => ingestPage l' rest
    | (_, l') => (false, l')

/-- The index of the last block of a page, or the one the page was asked for. -/
def pageEnd (s : ChainStore F) (since limit : ℤ) : ℤ :=
  (((s.blocks.filter fun b => decide (since < b.index)).take (safeLimit limit)).getLast?.map (·.index)).getD since

/-- Page after page, each asked for from the end of the one before. -/
def pullPages (s : ChainStore F) (limits : ℕ → ℤ) (start : ℤ × CompactLedger F) : ℕ → ℤ × CompactLedger F
  | 0 => start
  | n + 1 =>
    let (since, peer) := pullPages s limits start n
    (pageEnd s since (limits n), (ingestPage lib peer (getBlocksSince lib s since (limits n))).2)

/-- A row as the peer reads it from the page. -/
def sentRow (index : ℤ) (r : ReceiptRow F) : RemoteReceipt F where
  receiptId := match r.receiptId with | some receiptId => .str receiptId | none => .null
  timestamp := r.timestamp
  toolName := .str r.toolName
  taskHash := .str r.taskHash
  codeAstHash := .str r.codeAstHash
  inputsHash := .str r.inputsHash
  outputsHash := .str r.outputsHash
  elapsedSeconds := r.elapsedSeconds
  nodeId := .str r.nodeId
  status := .str r.status
  blockIndex := some index

theorem parseBlock_blockDict (b : LedgerBlock F) :
    parseBlock lib (blockDict b) = .ok (b.toBlockHeader, b.receiptLeafHashes.map .str) := by
  unfold parseBlock
  show (lib.int (.int b.index) >>= _) = _
  rw [lib.int_int, ok_bind]
  show (lib.float (.float b.timestamp) >>= _) = _
  rw [lib.float_float, ok_bind]
  show (lib.int (.int b.receiptCount) >>= _) = _
  rw [lib.int_int, ok_bind]
  show (lib.iter (.arr _) >>= _) = _
  rw [lib.iter_arr, ok_bind]
  show (.ok ((⟨b.index, b.timestamp, lib.str (.str b.prevHash), lib.str (.str b.merkleRoot), b.receiptCount,
    lib.str (.str b.nodeId), lib.str (.str b.blockHash)⟩ : BlockHeader F), _) : Except ChainExn _) = _
  rw [lib.str_str, lib.str_str, lib.str_str, lib.str_str]

theorem parseReceipt_receiptDict (index : ℤ) (r : ReceiptRow F) :
    parseReceipt lib index (receiptDict r) = .ok (sentRow index r) := by
  unfold parseReceipt
  show (lib.float (.float r.timestamp) >>= _) = _
  rw [lib.float_float, ok_bind]
  show (lib.float (.float r.elapsedSeconds) >>= _) = _
  rw [lib.float_float, ok_bind]
  rfl

theorem parseReceipts_receiptDict (index : ℤ) (rows : List (ReceiptRow F)) :
    parseReceipts lib index (rows.map receiptDict) = .ok (rows.map (sentRow index)) := by
  induction rows with
  | nil => rfl
  | cons r rest ih =>
    rw [map_cons, parseReceipts, parseReceipt_receiptDict, ok_bind, ih]
    rfl

omit [Preorder F] in
theorem areTexts_self (texts : List String) : Value.areTexts texts (texts.map (Value.str (F := F))) = true := by
  induction texts with
  | nil => rfl
  | cons text rest ih =>
    rw [map_cons, Value.areTexts, ih, decide_eq_true rfl]
    rfl

theorem sqliteInteger_of {n : ℤ} (h : isSqliteInteger n) : sqliteInteger n = .ok n := if_pos h

variable {lib}

variable {r : ReceiptRow F}

theorem remoteLeaf_sentRow (h : ∃ receiptId, r.receiptId = some receiptId) :
    remoteLeaf lib (sentRow index r) = rowLeaf lib r := by
  obtain ⟨receiptId, hid⟩ := h
  unfold remoteLeaf rowLeaf computeLeafHash sentRow
  dsimp only
  rw [hid]
  dsimp only
  simp only [lib.str_str, Option.getD_some, id_eq]

theorem remoteRow_sentRow {s : ChainStore F} (h : RowReplicable lib s r)
    (hindex : r.blockIndex = some index) : remoteRow lib index (sentRow index r) = .ok r := by
  obtain ⟨receiptId, hid⟩ := h.receiptId
  unfold remoteRow receiptRow sentRow
  dsimp only
  rw [hid]
  dsimp only
  simp only [lib.textColumn_str, ok_bind, notNull, h.timestamp, h.elapsedSeconds]
  rw [← hindex, ← hid]
  rfl

theorem batchRows_sentRow {s : ChainStore F} (h : ∀ r ∈ rows, RowReplicable lib s r ∧ r.blockIndex = some index) :
    batchRows (remoteRow lib index) (rows.map (sentRow index)) = .ok rows := by
  induction rows with
  | nil => rfl
  | cons r rest ih =>
    rw [forall_mem_cons] at h
    rw [map_cons, batchRows, remoteRow_sentRow h.1.1 h.1.2, ok_bind, ih h.2]
    rfl

section

variable {s : ChainStore F} {k : ℤ} {peer : CompactLedger F} {b : LedgerBlock F}

omit [Preorder F] in
theorem mem_rowsOf (h : r ∈ rowsOf s index) : r ∈ s.receipts ∧ r.blockIndex = some index :=
  ⟨(mem_filter.mp h).1, of_decide_eq_true (mem_filter.mp h).2⟩

omit [Preorder F] in
theorem Holds.mem (h : Holds s k peer) {b : LedgerBlock F} : b ∈ peer.store.blocks ↔ b ∈ s.blocks ∧ b.index ≤ k := by
  rw [h.blocks, mem_filter, decide_eq_true_eq]

theorem judge_of_holds (h : Replicable lib s) (hheld : Holds s k peer) (hb : b ∈ s.blocks) (hnew : k < b.index)
    (hnext : ∀ b' ∈ s.blocks, b'.index ≤ k ∨ b.index ≤ b'.index) :
    judge lib peer.store (blockDict b) (.arr ((receiptsOf lib s b.index).map receiptDict))
      = .ok (.admitted b ((rowsOf s b.index).map (sentRow b.index))) := by
  have hblock := h.blocks b hb
  have hfree : peer.store.blockAt b.index = none := by
    refine blockAt_eq_none_iff.mpr fun b' hb' hsame => ?_
    have hle := (hheld.mem.mp hb').2
    omega
  have hplace : checkPlace peer.store b.toBlockHeader = none := by
    have hplaced := hblock.placed
    unfold checkPlace at hplaced ⊢
    split
    · rename_i hpos
      rw [if_pos hpos] at hplaced
      split at hplaced
      · cases hplaced
      · rename_i prev hget
        obtain ⟨hmem, hindex⟩ := blockAt_eq_some_iff.mp hget
        have hle : prev.index ≤ k := (hnext prev hmem).resolve_right (by omega)
        rw [blockAt_eq_some_iff.mpr ⟨hheld.mem.mpr ⟨hmem, hle⟩, hindex⟩]
        exact hplaced
    · rename_i hpos
      rw [if_neg hpos] at hplaced
      exact hplaced
  have hreceipts : receiptsOf lib s b.index = rowsOf s b.index := hblock.ordered
  have hleaves : ((rowsOf s b.index).map (sentRow b.index)).map (remoteLeaf lib) = b.receiptLeafHashes := by
    rw [hblock.leaves, map_map]
    exact map_congr_left fun r hr => remoteLeaf_sentRow (h.rows r (mem_rowsOf hr).1).receiptId
  have hcontents : checkContents lib b.toBlockHeader b.receiptLeafHashes (b.receiptLeafHashes.map .str) = none := by
    have hintegrity := (BlockHeader.verifyIntegrity_iff lib).mpr ⟨rfl, hblock.sound.1⟩
    unfold checkContents
    rw [areTexts_self, if_neg (by decide), if_neg (not_not.mpr hblock.sound.2), if_neg (by rw [hintegrity]; decide)]
  unfold judge
  rw [parseBlock_blockDict, ok_bind]
  dsimp only
  rw [sqliteInteger_of hblock.index, ok_bind, hfree]
  dsimp only
  rw [hplace]
  dsimp only
  unfold judgeContents
  rw [lib.iter_arr, ok_bind, hreceipts, parseReceipts_receiptDict, ok_bind]
  dsimp only
  rw [hleaves, hcontents]
  rfl

omit [Preorder F] in
theorem filter_blocks_next (hb : b ∈ s.blocks) (hnew : k < b.index)
    (hnext : ∀ b' ∈ s.blocks, b'.index ≤ k ∨ b.index ≤ b'.index) :
    s.blocks.filter (fun b' => decide (b'.index ≤ b.index)) = s.blocks.filter (fun b' => decide (b'.index ≤ k)) ++ [b] := by
  have hsorted := s.sorted
  obtain ⟨lower, upper, hlist⟩ := append_of_mem hb
  rw [hlist] at hsorted hnext ⊢
  obtain ⟨-, hlater, hbefore⟩ := pairwise_append.mp hsorted
  have hlower : ∀ b' ∈ lower, b'.index ≤ k := fun b' hb' => by
    have hlt := hbefore b' hb' b mem_cons_self
    exact (hnext b' (mem_append_left _ hb')).resolve_right (by omega)
  have hupper : ∀ b' ∈ upper, b.index < b'.index := (pairwise_cons.mp hlater).1
  have hnone : ∀ {bound : ℤ}, bound ≤ b.index → upper.filter (fun b' => decide (b'.index ≤ bound)) = [] := by
    intro bound hbound
    refine filter_eq_nil_iff.mpr fun b' hb' => ?_
    have hlt := hupper b' hb'
    simp only [decide_eq_true_eq]
    omega
  have hall : ∀ {bound : ℤ}, k ≤ bound → lower.filter (fun b' => decide (b'.index ≤ bound)) = lower := fun hbound =>
    filter_eq_self.mpr fun b' hb' => decide_eq_true ((hlower b' hb').trans hbound)
  rw [filter_append, filter_append, hall hnew.le, hall le_rfl, filter_cons_of_pos (by simp),
    filter_cons_of_neg (by simpa using hnew), hnone le_rfl, hnone hnew.le, append_nil]

omit [Preorder F] in
theorem filter_rows_next (hnew : k < b.index) (hrows : ∀ r ∈ s.receipts, ∃ b' ∈ s.blocks, r.blockIndex = some b'.index)
    (hnext : ∀ b' ∈ s.blocks, b'.index ≤ k ∨ b.index ≤ b'.index) :
    (s.receipts.filter (upTo k) ++ rowsOf s b.index).Perm (s.receipts.filter (upTo b.index)) := by
  have hsplit := filter_append_perm (upTo k) (s.receipts.filter (upTo b.index))
  have hbefore : (s.receipts.filter (upTo b.index)).filter (upTo k) = s.receipts.filter (upTo k) := by
    rw [filter_filter]
    refine filter_congr fun r hr => ?_
    obtain ⟨b', -, hindex⟩ := hrows r hr
    unfold upTo
    rw [hindex]
    simp only [Option.any_some, ← Bool.decide_and, decide_eq_decide]
    omega
  have hown : (s.receipts.filter (upTo b.index)).filter (fun r => !upTo k r) = rowsOf s b.index := by
    unfold rowsOf
    rw [filter_filter]
    refine filter_congr fun r hr => ?_
    obtain ⟨b', hb', hindex⟩ := hrows r hr
    have hor := hnext b' hb'
    unfold upTo
    rw [hindex]
    simp only [Option.any_some, ← decide_not, ← Bool.decide_and, decide_eq_decide, Option.some.injEq]
    omega
  rw [hbefore, hown] at hsplit
  exact hsplit

/-- **A peer that holds the blocks before takes over the next one.** -/
theorem ingest_of_holds (h : Replicable lib s) (hheld : Holds s k peer) (hb : b ∈ s.blocks) (hnew : k < b.index)
    (hnext : ∀ b' ∈ s.blocks, b'.index ≤ k ∨ b.index ≤ b'.index) :
    ∃ message peer', ingestRemoteBlock lib peer (blockDict b) (.arr ((receiptsOf lib s b.index).map receiptDict))
      = (.ok (true, message), peer') ∧ Holds s b.index peer' := by
  have hblock := h.blocks b hb
  have hrow : blockRow lib b = .ok b := by
    unfold blockRow
    rw [sqliteInteger_of hblock.index, ok_bind, sqliteInteger_of hblock.receiptCount, ok_bind, hblock.timestamp]
    rfl
  have hbelow : ∀ b' ∈ peer.store.blocks, b'.index < b.index := fun b' hb' => by
    have hle := (hheld.mem.mp hb').2
    omega
  obtain ⟨s₁, hinsert⟩ : ∃ s₁, peer.store.insertBlock b = .ok s₁ := by
    have hindex : ¬(peer.store.blocks.any fun b' => decide (b'.index = b.index)) = true := by
      rw [any_eq_true]
      rintro ⟨b', hb', hsame⟩
      exact (hbelow b' hb').ne (of_decide_eq_true hsame)
    have hhash : ¬(peer.store.blocks.any fun b' => decide (b'.blockHash = b.blockHash)) = true := by
      rw [any_eq_true]
      rintro ⟨b', hb', hsame⟩
      have heq := h.hashes b' (hheld.mem.mp hb').1 b hb (of_decide_eq_true hsame)
      exact (hbelow b' hb').ne (congrArg (·.index) heq)
    unfold insertBlock
    rw [if_neg hindex, if_neg hhash]
    exact ⟨_, rfl⟩
  have hrows : ∀ r ∈ rowsOf s b.index, RowReplicable lib s r ∧ r.blockIndex = some b.index := fun r hr =>
    ⟨h.rows r (mem_rowsOf hr).1, (mem_rowsOf hr).2⟩
  have hreceipts₁ := (insertBlock_ok hinsert).2.2.1
  have hdistinct : ((rowsOf s b.index).map (·.receiptId)).Nodup := h.ids.sublist (filter_sublist.map _)
  have hfresh : ∀ r ∈ rowsOf s b.index, ∀ r' ∈ s₁.receipts, r'.receiptId ≠ r.receiptId := by
    intro r hr r' hr' hsame
    rw [hreceipts₁, hheld.receipts.mem_iff, mem_filter] at hr'
    have heq : r' = r := inj_on_of_nodup_map h.ids hr'.1 (mem_rowsOf hr).1 hsame
    have hupTo := hr'.2
    unfold upTo at hupTo
    rw [heq, (mem_rowsOf hr).2, Option.any_some, decide_eq_true_eq] at hupTo
    omega
  obtain ⟨s', hwrite, hblocks, hreceipts⟩ := writeReceipts_of_new (batchRows_sentRow hrows) s₁ hdistinct hfresh
  have hingest : ingestBlockDirect lib peer.store b ((rowsOf s b.index).map (sentRow b.index)) = .ok s' := by
    unfold ingestBlockDirect writeBlockAndReceipts
    rw [hrow, ok_bind, hinsert, ok_bind, hwrite]
  refine ⟨s!"Block #{b.index} erfolgreich verifiziert und synchronisiert.", { peer with store := s' }, ?_, ?_, ?_⟩
  · unfold ingestRemoteBlock
    rw [judge_of_holds h hheld hb hnew hnext]
    dsimp only
    rw [hingest]
  · show s'.blocks = _
    rw [hblocks, blocks_insert_next hbelow hinsert, hheld.blocks, filter_blocks_next hb hnew hnext]
  · show s'.receipts.Perm _
    rw [hreceipts, hreceipts₁]
    exact (hheld.receipts.append_right _).trans (filter_rows_next hnew (fun r hr => (h.rows r hr).block) hnext)

/-- **A page is taken over.** -/
theorem ingestPage_of_holds (h : Replicable lib s) {page rest : List (LedgerBlock F)}
    (hfilter : s.blocks.filter (fun b => decide (k < b.index)) = page ++ rest) (hheld : Holds s k peer) :
    ∃ peer', ingestPage lib peer (page.map fun b => (blockDict b, .arr ((receiptsOf lib s b.index).map receiptDict)))
        = (true, peer') ∧ Holds s ((page.getLast?.map (·.index)).getD k) peer' ∧
      s.blocks.filter (fun b => decide ((page.getLast?.map (·.index)).getD k < b.index)) = rest := by
  induction page generalizing k peer with
  | nil => exact ⟨peer, rfl, hheld, hfilter⟩
  | cons b page ih =>
    have hsorted : (b :: (page ++ rest)).Pairwise fun a b => a.index < b.index := by
      have := s.sorted.filter fun b => decide (k < b.index)
      rw [hfilter] at this
      exact this
    have hmem : b ∈ s.blocks.filter fun b => decide (k < b.index) := hfilter ▸ mem_cons_self
    rw [mem_filter, decide_eq_true_eq] at hmem
    have hnext : ∀ b' ∈ s.blocks, b'.index ≤ k ∨ b.index ≤ b'.index := by
      intro b' hb'
      rcases le_or_gt b'.index k with hle | hlt
      · exact .inl hle
      · have hlater : b' ∈ b :: (page ++ rest) := by
          have hmem' : b' ∈ s.blocks.filter fun b => decide (k < b.index) := mem_filter.mpr ⟨hb', decide_eq_true hlt⟩
          rw [hfilter] at hmem'
          exact hmem'
        rcases mem_cons.mp hlater with rfl | hlater
        · exact .inr le_rfl
        · exact .inr (rel_of_pairwise_cons hsorted hlater).le
    obtain ⟨message, peer₁, hingest, hheld₁⟩ := ingest_of_holds h hheld hmem.1 hmem.2 hnext
    have hfilter₁ : s.blocks.filter (fun b' => decide (b.index < b'.index)) = page ++ rest := by
      have hwithin : s.blocks.filter (fun b' => decide (b.index < b'.index))
          = (s.blocks.filter fun b' => decide (k < b'.index)).filter fun b' => decide (b.index < b'.index) := by
        rw [filter_filter]
        refine filter_congr fun b' _ => ?_
        have hlt := hmem.2
        simp only [← Bool.decide_and, decide_eq_decide]
        omega
      rw [hwithin, hfilter, cons_append, filter_cons_of_neg (by simp)]
      exact filter_eq_self.mpr fun b' hb' => decide_eq_true (rel_of_pairwise_cons hsorted hb')
    obtain ⟨peer', hpage, hheld', hrest⟩ := ih hfilter₁ hheld₁
    have hlast : ((b :: page).getLast?.map (·.index)).getD k = (page.getLast?.map (·.index)).getD b.index := by
      cases page with
      | nil => rfl
      | cons b' page => rw [getLast?_cons_cons, getLast?_cons, Option.map_some, Option.getD_some, Option.getD_some]
    rw [hlast]
    refine ⟨peer', ?_, hheld', hrest⟩
    rw [map_cons, ingestPage, hingest]
    exact hpage

theorem page_of_holds (h : Replicable lib s) (hheld : Holds s k peer) (limit : ℤ) :
    ∃ peer', ingestPage lib peer (getBlocksSince lib s k limit) = (true, peer') ∧ Holds s (pageEnd s k limit) peer' ∧
      s.blocks.filter (fun b => decide (pageEnd s k limit < b.index))
        = (s.blocks.filter fun b => decide (k < b.index)).drop (safeLimit limit) :=
  ingestPage_of_holds h (take_append_drop (safeLimit limit) _).symm hheld

theorem safeLimit_pos (limit : ℤ) : 1 ≤ safeLimit limit := by
  unfold safeLimit
  omega

theorem pullPages_spec (h : Replicable lib s) (hheld : Holds s k peer) (limits : ℕ → ℤ) (n : ℕ) :
    Holds s (pullPages lib s limits (k, peer) n).1 (pullPages lib s limits (k, peer) n).2 ∧
      (s.blocks.filter fun b => decide ((pullPages lib s limits (k, peer) n).1 < b.index)).length + n
        ≤ max s.blocks.length n := by
  induction n with
  | zero => exact ⟨hheld, (length_filter_le _ _).trans (le_max_left _ _)⟩
  | succ n ih =>
    obtain ⟨hheldn, hlength⟩ := ih
    obtain ⟨peer', hpage, hheld', hrest⟩ := page_of_holds h hheldn (limits n)
    have hpull : pullPages lib s limits (k, peer) (n + 1)
        = (pageEnd s (pullPages lib s limits (k, peer) n).1 (limits n), peer') := by
      show (_, (ingestPage lib _ _).2) = _
      rw [hpage]
    have hpos := safeLimit_pos (limits n)
    rw [hpull]
    refine ⟨hheld', ?_⟩
    dsimp only
    rw [hrest, length_drop]
    omega

end

/-- **A ledger whose batches were orderly is replicated**: every page is accepted by a peer that holds the blocks before,
and page after page the peer comes to hold the same blocks and the same receipts. -/
theorem orderly_runs_replicate (lib : ChainLibrary F) {genesisTime zero : F}
    (htime : lib.realColumn genesisTime = some genesisTime) (hzero : lib.realColumn zero = some zero)
    {opened : CompactLedger F} (hopened : IsOpened lib genesisTime zero opened) {ops : List (LedgerOp F)}
    (horderly : Run.Along (LedgerOp.run lib) (fun l op => op.Orderly lib l) opened ops)
    {k : ℤ} {peer : CompactLedger F} (hheld : Holds (Run.exec (LedgerOp.run lib) opened ops).store k peer) :
    let s := (Run.exec (LedgerOp.run lib) opened ops).store
    (∀ limit, ∃ peer', ingestPage lib peer (getBlocksSince lib s k limit) = (true, peer') ∧
      Holds s (pageEnd s k limit) peer') ∧
    ∀ limits, ∃ N, ∀ n ≥ N,
      getBlocksSince lib s (pullPages lib s limits (k, peer) n).1 (limits n) = [] ∧
        (pullPages lib s limits (k, peer) n).2.store.blocks = s.blocks ∧
        (pullPages lib s limits (k, peer) n).2.store.receipts.Perm s.receipts := by
  intro s
  have h : Replicable lib s :=
    Run.exec_of_along (fun l : CompactLedger F => Replicable lib l.store) (fun l op hl hop => hl.step hop)
      (replicable_opened htime hzero hopened) horderly
  refine ⟨fun limit => ?_, fun limits => ⟨s.blocks.length, fun n hn => ?_⟩⟩
  · obtain ⟨peer', hpage, hheld', -⟩ := page_of_holds h hheld limit
    exact ⟨peer', hpage, hheld'⟩
  · obtain ⟨hheldn, hlength⟩ := pullPages_spec h hheld limits n
    generalize pullPages lib s limits (k, peer) n = state at hheldn hlength
    have hnone : s.blocks.filter (fun b => decide (state.1 < b.index)) = [] :=
      length_eq_zero_iff.mp (by omega)
    have hall : ∀ b ∈ s.blocks, b.index ≤ state.1 := by
      intro b hb
      have hnot := filter_eq_nil_iff.mp hnone b hb
      rw [decide_eq_true_eq] at hnot
      omega
    refine ⟨?_, ?_, ?_⟩
    · unfold getBlocksSince
      rw [hnone, take_nil, map_nil]
    · rw [hheldn.blocks]
      exact filter_eq_self.mpr fun b hb => decide_eq_true (hall b hb)
    · have hrows : s.receipts.filter (upTo state.1) = s.receipts := by
        refine filter_eq_self.mpr fun r hr => ?_
        obtain ⟨b, hb, hindex⟩ := (h.rows r hr).block
        unfold upTo
        rw [hindex]
        exact decide_eq_true (hall b hb)
      exact hrows ▸ hheldn.receipts

/-! ### Two executions -/

attribute [local instance] wholeTimes

def sampleExecution (code : String) : Execution ℤ :=
  ⟨"tool", "", code, .obj [], .obj [], 1, "node_mesh_primary", "verified_success"⟩

/-- Two executions in one block, stamped at these times. -/
def stampedAt (first second : ℤ) : List (LedgerOp ℤ) :=
  [.recordExecution first (sampleExecution "a") 10 false, .recordExecution second (sampleExecution "b") 10 true]

theorem isOpened_sampleLedger : IsOpened sampleChainLibrary 1700000000 0 sampleLedger := by
  refine ⟨?_, rfl⟩
  have hok : (ensureGenesis sampleChainLibrary 1700000000 0 ⟨[], [], .nil⟩).isOk = true := by decide
  unfold sampleLedger
  dsimp only
  cases hstore : ensureGenesis sampleChainLibrary 1700000000 0 ⟨[], [], .nil⟩ with
  | error e =>
    rw [hstore] at hok
    cases hok
  | ok s => rfl

theorem keepsText_sample (x : ℤ) : KeepsText sampleChainLibrary x := by
  intro y hy
  cases hy
  rfl

theorem orderly_stampedAt : Run.Along (LedgerOp.run sampleChainLibrary) (fun l op => op.Orderly sampleChainLibrary l)
    sampleLedger (stampedAt 1 2) := by
  refine ⟨fun receipt hcreate hcommit => ?_, fun receipt hcreate _ => ?_, trivial⟩
  · rcases hcommit with hfull | hforce
    · exact absurd hfull (show ¬((50 : ℤ) ≤ (1 : ℕ)) by decide)
    · cases hforce
  · have hreceipt : createReceipt sampleChainLibrary 2 (sampleExecution "b") = .ok receipt := hcreate
    cases hreceipt
    refine ⟨keepsText_sample _, fun r _ => ⟨keepsText_sample _, keepsText_sample _⟩, by decide, by decide,
      fun rows hrows => ?_⟩
    cases hrows
    exact orderByTimestamp_of_increasing (by decide)

theorem orderly_runs_replicate_sample : ∃ N, ∀ n ≥ N,
      (pullPages sampleChainLibrary (Run.exec (LedgerOp.run sampleChainLibrary) sampleLedger (stampedAt 1 2)).store
        (fun _ => 50) (0, sampleLedger) n).2.store.blocks
          = (Run.exec (LedgerOp.run sampleChainLibrary) sampleLedger (stampedAt 1 2)).store.blocks := by
  have hheld : Holds (Run.exec (LedgerOp.run sampleChainLibrary) sampleLedger (stampedAt 1 2)).store 0 sampleLedger :=
    ⟨by decide +kernel, .of_eq (by decide)⟩
  obtain ⟨N, hN⟩ := (orderly_runs_replicate sampleChainLibrary rfl rfl isOpened_sampleLedger orderly_stampedAt hheld).2
    fun _ => 50
  exact ⟨N, fun n hn => (hN n hn).2.1⟩

/-- **A receipt that was stamped before the one it was queued behind**: the next page is not accepted. -/
theorem late_stamp_is_not_replicated : IsOpened sampleChainLibrary 1700000000 0 sampleLedger ∧
    Holds (Run.exec (LedgerOp.run sampleChainLibrary) sampleLedger (stampedAt 2 1)).store 0 sampleLedger ∧
    (ingestPage sampleChainLibrary sampleLedger (getBlocksSince sampleChainLibrary
      (Run.exec (LedgerOp.run sampleChainLibrary) sampleLedger (stampedAt 2 1)).store 0 50)).1 = false :=
  ⟨isOpened_sampleLedger, ⟨by decide +kernel, .of_eq (by decide +kernel)⟩, by decide +kernel⟩

end ComputeMesh.Chain
