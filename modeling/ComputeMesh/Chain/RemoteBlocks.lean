import ComputeMesh.Lib.Text
import ComputeMesh.Chain.Sync

/-!
# Blocks from peers in the chain

What `ingest_remote_block` does to a ledger whose chain verifies.  A block is checked by itself and against the block
before it; whether a later block stands behind it, or whether its receipts have ids that are taken, is not looked at.

* `verifyChainIntegrity_iff` — a chain verifies where every block is sound and linked to the one before;
* `ingestBlockDirect_ok` — what a block that is written leaves in the two tables;
* `ingest_keeps_chain_iff` — **exactly the blocks that fit at the end and whose receipts are new leave the chain and its
  receipts as they were.**
-/

namespace ComputeMesh.Chain

open ComputeMesh.Text List Option ChainStore

variable {F : Type} [Preorder F] (lib : ChainLibrary F)

/-! ### Chains that verify -/

/-- A block is what its hash and its root say. -/
def LedgerBlock.Sound (b : LedgerBlock F) : Prop :=
  b.digest lib = b.blockHash ∧ treeRoot lib b.receiptLeafHashes = b.merkleRoot

/-- Every block names the hash of the one before. -/
def Linked (prev : String) : List (LedgerBlock F) → Prop
  | [] => True
  | b :: rest => b.prevHash = prev ∧ Linked b.blockHash rest

/-- The hash that the next block is to name. -/
def lastHash (prev : String) (blocks : List (LedgerBlock F)) : String := (blocks.getLast?.map (·.blockHash)).getD prev

omit [Preorder F] in
theorem lastHash_cons (prev : String) (b : LedgerBlock F) (rest : List (LedgerBlock F)) :
    lastHash prev (b :: rest) = lastHash b.blockHash rest := by
  unfold lastHash
  cases rest with
  | nil => rfl
  | cons b' rest => rw [getLast?_cons_cons, getLast?_cons, map_some, getD_some, getD_some]

variable {prev : String}

omit [Preorder F] in
theorem lastHash_mem {blocks : List (LedgerBlock F)} (hne : blocks ≠ []) :
    ∃ b ∈ blocks, b.blockHash = lastHash prev blocks := by
  refine ⟨blocks.getLast hne, getLast_mem hne, ?_⟩
  unfold lastHash
  rw [getLast?_eq_some_getLast hne, map_some, getD_some]

omit [Preorder F] in
theorem linked_append {xs ys : List (LedgerBlock F)} :
    Linked prev (xs ++ ys) ↔ Linked prev xs ∧ Linked (lastHash prev xs) ys := by
  induction xs generalizing prev with
  | nil => exact ⟨fun h => ⟨trivial, h⟩, fun h => h.2⟩
  | cons b rest ih =>
    rw [lastHash_cons]
    show b.prevHash = prev ∧ Linked b.blockHash (rest ++ ys) ↔ (b.prevHash = prev ∧ Linked b.blockHash rest) ∧ _
    rw [ih, and_assoc]

namespace CompactLedger

theorem verifyFrom_iff {blocks : List (LedgerBlock F)} :
    verifyFrom lib prev blocks = (true, none) ↔ Linked prev blocks ∧ ∀ b ∈ blocks, b.Sound lib := by
  induction blocks generalizing prev with
  | nil => exact ⟨fun _ => ⟨trivial, nofun⟩, fun _ => rfl⟩
  | cons b rest ih =>
    rw [verifyFrom, forall_mem_cons]
    by_cases hintegrity : b.verifyIntegrity lib prev = true
    · obtain ⟨hprev, hdigest⟩ := (BlockHeader.verifyIntegrity_iff lib).mp hintegrity
      rw [if_neg (by rw [hintegrity]; decide)]
      by_cases hroot : treeRoot lib b.receiptLeafHashes = b.merkleRoot
      · rw [if_neg (not_not.mpr hroot), ih]
        exact ⟨fun h => ⟨⟨hprev, h.1⟩, ⟨hdigest, hroot⟩, h.2⟩, fun h => ⟨h.1.2, h.2.2⟩⟩
      · rw [if_pos hroot]
        exact ⟨nofun, fun h => absurd h.2.1.2 hroot⟩
    · rw [if_pos (Bool.eq_false_iff.mpr hintegrity)]
      exact ⟨nofun, fun h => absurd ((BlockHeader.verifyIntegrity_iff lib).mpr ⟨h.1.1, h.2.1.1⟩) hintegrity⟩

/-- **A chain verifies where every block is sound and linked to the one before.** -/
theorem verifyChainIntegrity_iff {l : CompactLedger F} : l.verifyChainIntegrity lib = (true, none) ↔
    l.store.blocks ≠ [] ∧ Linked genesisPrevHash l.store.blocks ∧ ∀ b ∈ l.store.blocks, b.Sound lib := by
  unfold verifyChainIntegrity
  split
  · rename_i hnone
    exact ⟨nofun, fun h => absurd hnone h.1⟩
  · rename_i hsome
    rw [verifyFrom_iff]
    exact ⟨fun h => ⟨hsome, h⟩, fun h => h.2⟩

end CompactLedger

theorem text_of_digest (hinj : Function.Injective lib.sha256Hash) {b : BlockHeader F} {t : F}
    (h : BlockHeader.digest lib { b with timestamp := t } = b.digest lib) : lib.text t = lib.text b.timestamp := by
  have htexts : toString b.index ++ ":" ++ lib.text t ++ ":" ++ b.prevHash ++ ":" ++ b.merkleRoot ++ ":"
        ++ toString b.receiptCount ++ ":" ++ b.nodeId
      = toString b.index ++ ":" ++ lib.text b.timestamp ++ ":" ++ b.prevHash ++ ":" ++ b.merkleRoot ++ ":"
        ++ toString b.receiptCount ++ ":" ++ b.nodeId := hinj h
  simp only [String.append_left_inj] at htexts
  exact append_left_cancel htexts

theorem digest_of_text {b : BlockHeader F} {t : F} (h : lib.text t = lib.text b.timestamp) :
    BlockHeader.digest lib { b with timestamp := t } = b.digest lib := by
  unfold BlockHeader.digest computeBlockHash
  dsimp only
  rw [h]

/-! ### The two tables -/

variable {b : LedgerBlock F} {index : ℤ}

namespace ChainStore

section

omit [Preorder F]

variable {s s' : ChainStore F}

theorem eq_of_index {b' : LedgerBlock F} (h : b ∈ s.blocks) (h' : b' ∈ s.blocks) (hindex : b.index = b'.index) :
    b = b' := by
  have hnodup : (s.blocks.map (·.index)).Nodup := pairwise_map.mpr (s.sorted.imp fun hlt => ne_of_lt hlt)
  exact inj_on_of_nodup_map hnodup h h' hindex

theorem blockAt_eq_some_iff : s.blockAt index = some b ↔ b ∈ s.blocks ∧ b.index = index := by
  unfold blockAt
  constructor
  · intro h
    have hindex := find?_some h
    rw [decide_eq_true_eq] at hindex
    exact ⟨mem_of_find?_eq_some h, hindex⟩
  · rintro ⟨hmem, hindex⟩
    cases hfind : s.blocks.find? fun b => decide (b.index = index) with
    | none => exact absurd (decide_eq_true hindex) (find?_eq_none.mp hfind b hmem)
    | some b' =>
      have hindex' := find?_some hfind
      rw [decide_eq_true_eq] at hindex'
      rw [eq_of_index (mem_of_find?_eq_some hfind) hmem (hindex'.trans hindex.symm)]

theorem blockAt_eq_none_iff : s.blockAt index = none ↔ ∀ b ∈ s.blocks, b.index ≠ index := by
  unfold blockAt
  rw [find?_eq_none]
  simp only [decide_eq_true_eq]

theorem blocks_around (hfree : ∀ b ∈ s.blocks, b.index ≠ index) :
    s.blocks.filter (fun b => decide (b.index < index)) ++ s.blocks.filter (fun b => decide (index < b.index))
      = s.blocks := by
  have hsorted := s.sorted
  generalize s.blocks = blocks at hfree hsorted
  induction blocks with
  | nil => rfl
  | cons b rest ih =>
    rw [forall_mem_cons] at hfree
    rw [pairwise_cons] at hsorted
    rcases lt_or_gt_of_ne hfree.1 with hlt | hgt
    · rw [filter_cons_of_pos (by simpa using hlt), filter_cons_of_neg (by simpa using hlt.le),
        cons_append, ih hfree.2 hsorted.2]
    · have hlater : ∀ b' ∈ rest, index < b'.index := fun b' hb' => hgt.trans (hsorted.1 b' hb')
      have hnone : rest.filter (fun b => decide (b.index < index)) = [] := by
        refine filter_eq_nil_iff.mpr fun b' hb' => ?_
        simpa using (hlater b' hb').le
      have hall : rest.filter (fun b => decide (index < b.index)) = rest :=
        filter_eq_self.mpr fun b' hb' => decide_eq_true (hlater b' hb')
      rw [filter_cons_of_neg (by simpa using hgt.le), filter_cons_of_pos (by simpa using hgt), hnone, hall]
      rfl

theorem insertBlock_ok (h : s.insertBlock b = .ok s') :
    (∀ b' ∈ s.blocks, b'.index ≠ b.index) ∧ (∀ b' ∈ s.blocks, b'.blockHash ≠ b.blockHash) ∧ s'.receipts = s.receipts ∧
      s'.blocks = s.blocks.filter (fun b' => decide (b'.index < b.index)) ++
        b :: s.blocks.filter (fun b' => decide (b.index < b'.index)) := by
  unfold insertBlock at h
  rw [ite_error_eq_ok_iff, ite_error_eq_ok_iff] at h
  obtain ⟨hindex, hhash, h⟩ := h
  cases h
  refine ⟨fun b' hb' heq => hindex ?_, fun b' hb' heq => hhash ?_, rfl, rfl⟩
  · exact any_eq_true.mpr ⟨b', hb', decide_eq_true heq⟩
  · exact any_eq_true.mpr ⟨b', hb', decide_eq_true heq⟩

end

end ChainStore

open CompactLedger

omit [Preorder F] in
theorem receiptById_insertOrReplace (s : ChainStore F) (r : ReceiptRow F) (receiptId : String) :
    receiptById (s.insertOrReplace r) receiptId
      = if r.receiptId = some receiptId then some r else receiptById s receiptId := by
  unfold receiptById insertOrReplace
  dsimp only
  rw [find?_append, find?_filter]
  by_cases hid : r.receiptId = some receiptId
  · have hnone : s.receipts.find? (fun r' => decide ((decide ¬(r.receiptId.isSome ∧ r'.receiptId = r.receiptId)) = true ∧
        decide (r'.receiptId = some receiptId) = true)) = none := by
      refine find?_eq_none.mpr fun r' _ h => ?_
      simp only [decide_eq_true_eq] at h
      exact h.1 ⟨by rw [hid]; rfl, h.2.trans hid.symm⟩
    rw [hnone, if_pos hid, none_or, find?_singleton, if_pos (decide_eq_true hid)]
  · have hsame : (fun r' : ReceiptRow F => decide ((decide ¬(r.receiptId.isSome ∧ r'.receiptId = r.receiptId)) = true ∧
        decide (r'.receiptId = some receiptId) = true)) = fun r' => decide (r'.receiptId = some receiptId) := by
      funext r'
      simp only [decide_eq_true_eq, decide_eq_decide, and_iff_right_iff_imp]
      exact fun hid' h => hid (h.2.symm.trans hid')
    rw [hsame, if_neg hid, find?_singleton, if_neg (by simpa using hid), or_none]

omit [Preorder F] in
/-- **What the rows of some receipts leave.** -/
theorem writeReceipts_ok {R : Type} {row : R → Except ChainExn (ReceiptRow F)} {receipts : List R} {s s' : ChainStore F}
    (h : writeReceipts row s receipts = .ok s') :
    s'.blocks = s.blocks ∧ (∀ r ∈ receipts, ∃ written, row r = .ok written) ∧
      ∀ receiptId, ((∀ r ∈ receipts, ∀ written, row r = .ok written → written.receiptId ≠ some receiptId) ∧
          receiptById s' receiptId = receiptById s receiptId) ∨
        ∃ r ∈ receipts, ∃ written, row r = .ok written ∧ written.receiptId = some receiptId ∧
          receiptById s' receiptId = some written := by
  induction receipts generalizing s with
  | nil =>
    cases h
    exact ⟨rfl, nofun, fun receiptId => .inl ⟨nofun, rfl⟩⟩
  | cons r rest ih =>
    rw [writeReceipts, bind_eq_ok_iff] at h
    obtain ⟨written, hrow, h⟩ := h
    obtain ⟨hblocks, hrows, hreceipts⟩ := ih h
    refine ⟨hblocks, forall_mem_cons.mpr ⟨⟨written, hrow⟩, hrows⟩, fun receiptId => ?_⟩
    rcases hreceipts receiptId with ⟨hother, hsame⟩ | ⟨r', hr', later⟩
    · rw [hsame, receiptById_insertOrReplace]
      by_cases hid : written.receiptId = some receiptId
      · exact .inr ⟨r, mem_cons_self, written, hrow, hid, if_pos hid⟩
      · rw [if_neg hid]
        refine .inl ⟨forall_mem_cons.mpr ⟨fun written' hrow' => ?_, hother⟩, rfl⟩
        rw [hrow] at hrow'
        cases hrow'
        exact hid
    · exact .inr ⟨r', mem_cons_of_mem r hr', later⟩

/-! ### A block that is taken over -/

theorem notNull_ok {α : Type} {column : String} {value : Option α} {a : α} (h : notNull column value = .ok a) :
    value = some a := by
  cases value with
  | none => cases h
  | some a' => cases h; rfl

theorem sqliteInteger_ok {n m : ℤ} (h : sqliteInteger n = .ok m) : isSqliteInteger n ∧ m = n := by
  unfold sqliteInteger at h
  split at h
  · rename_i hrange
    cases h
    exact ⟨hrange, rfl⟩
  · cases h

theorem blockRow_ok {b' : LedgerBlock F} (h : blockRow lib b = .ok b') :
    isSqliteInteger b.index ∧ isSqliteInteger b.receiptCount ∧
      ∃ t, lib.realColumn b.timestamp = some t ∧ b' = { b with timestamp := t } := by
  unfold blockRow at h
  simp only [bind_eq_ok_iff] at h
  obtain ⟨index, hindex, receiptCount, hcount, t, ht, h⟩ := h
  rw [(sqliteInteger_ok hindex).2, (sqliteInteger_ok hcount).2] at h
  cases h
  exact ⟨(sqliteInteger_ok hindex).1, (sqliteInteger_ok hcount).1, t, notNull_ok ht, rfl⟩

variable {row : ReceiptRow F}

theorem receiptRow_ok {I T : Type} {idColumn : I → Except ChainExn (Option String)}
    {column : T → Except ChainExn (Option String)} {r : ProofOfExecutionReceipt I T F}
    (h : receiptRow lib idColumn column index r = .ok row) :
    idColumn r.receiptId = .ok row.receiptId ∧ row.blockIndex = some index := by
  unfold receiptRow at h
  rw [bind_eq_ok_iff] at h
  obtain ⟨receiptId, hid, h⟩ := h
  simp only [bind_eq_ok_iff] at h
  obtain ⟨t, -, tool, -, task, -, code, -, inputs, -, outputs, -, elapsed, -, node, -, status, -, h⟩ := h
  cases h
  exact ⟨hid, rfl⟩

/-- **What a block that is written leaves in the two tables.** -/
structure Written (s s' : ChainStore F) (block : LedgerBlock F) (receipts : List (RemoteReceipt F)) (t : F) : Prop where
  stored : lib.realColumn block.timestamp = some t
  free : ∀ b ∈ s.blocks, b.index ≠ block.index
  unique : ∀ b ∈ s.blocks, b.blockHash ≠ block.blockHash
  blocks : s'.blocks = s.blocks.filter (fun b => decide (b.index < block.index)) ++
    { block with timestamp := t } :: s.blocks.filter (fun b => decide (block.index < b.index))
  bound : ∀ r ∈ receipts, ∃ row, remoteRow lib block.index r = .ok row
  receipts : ∀ receiptId,
    ((∀ r ∈ receipts, ∀ row, remoteRow lib block.index r = .ok row → row.receiptId ≠ some receiptId) ∧
      receiptById s' receiptId = receiptById s receiptId) ∨
    ∃ r ∈ receipts, ∃ row, remoteRow lib block.index r = .ok row ∧ row.receiptId = some receiptId ∧
      receiptById s' receiptId = some row

theorem ingestBlockDirect_ok {s s' : ChainStore F} {block : LedgerBlock F} {receipts : List (RemoteReceipt F)}
    (h : ingestBlockDirect lib s block receipts = .ok s') : ∃ t, Written lib s s' block receipts t := by
  unfold ingestBlockDirect writeBlockAndReceipts at h
  simp only [bind_eq_ok_iff] at h
  obtain ⟨row, hrow, s₁, hinsert, hwrite⟩ := h
  obtain ⟨-, -, t, ht, rfl⟩ := blockRow_ok lib hrow
  obtain ⟨hfree, hunique, hsame, hblocks⟩ := insertBlock_ok hinsert
  obtain ⟨hblocks', hbound, hreceipts⟩ := writeReceipts_ok hwrite
  have hold : ∀ receiptId, receiptById s₁ receiptId = receiptById s receiptId := by
    intro receiptId
    unfold receiptById
    rw [hsame]
  refine ⟨t, ht, hfree, hunique, hblocks'.trans hblocks, hbound, fun receiptId => ?_⟩
  rcases hreceipts receiptId with ⟨hother, hkept⟩ | hnew
  · exact .inl ⟨hother, hkept.trans (hold receiptId)⟩
  · exact .inr hnew

/-- What the checks of an admitted block say. -/
structure Admitted (s : ChainStore F) (block : LedgerBlock F) (receipts : List (RemoteReceipt F)) : Prop where
  placed : checkPlace s block.toBlockHeader = none
  leaves : block.receiptLeafHashes = receipts.map (remoteLeaf lib)
  sound : block.Sound lib

theorem judge_admitted {s : ChainStore F} {blockData receiptsData : Value F} {block : LedgerBlock F}
    {receipts : List (RemoteReceipt F)} (h : judge lib s blockData receiptsData = .ok (.admitted block receipts)) :
    Admitted lib s block receipts := by
  unfold judge at h
  simp only [bind_eq_ok_iff] at h
  obtain ⟨⟨b, sent⟩, -, index, -, h⟩ := h
  split at h
  · split at h <;> cases h
  · split at h
    · cases h
    · rename_i hplaced
      unfold judgeContents at h
      simp only [bind_eq_ok_iff] at h
      obtain ⟨items, -, receipts', -, h⟩ := h
      split at h
      · cases h
      · rename_i hcontents
        cases h
        unfold checkContents at hcontents
        split at hcontents
        · cases hcontents
        · split at hcontents
          · cases hcontents
          · rename_i hroot
            split at hcontents
            · cases hcontents
            · rename_i hintegrity
              rw [Bool.not_eq_false] at hintegrity
              exact ⟨hplaced, rfl, ((BlockHeader.verifyIntegrity_iff lib).mp hintegrity).2, not_not.mp hroot⟩

/-! ### What is to be kept -/

/-- A receipt that `get_receipt` finds with its block, which commits to it. -/
structure Committed (l : CompactLedger F) (receiptId : String) (row : ReceiptRow F) (b : LedgerBlock F) : Prop where
  notPending : (l.pendingReceipts.find? fun r => decide (r.receiptId = receiptId)) = none
  stored : receiptById l.store receiptId = some row
  block : row.blockIndex.bind l.store.blockAt = some b
  leaf : rowLeaf lib row ∈ b.receiptLeafHashes

/-- **The chain still verifies, its blocks are unchanged, and its receipts are returned as before**, each with a proof
that verifies. -/
structure KeepsChain (l l' : CompactLedger F) : Prop where
  verified : l'.verifyChainIntegrity lib = (true, none)
  blocks : ∀ index b, l.store.blockAt index = some b → l'.store.blockAt index = some b
  receipts : ∀ receiptId row b, Committed lib l receiptId row b →
    l'.getReceipt lib receiptId = l.getReceipt lib receiptId ∧
      ∃ proof, l'.getReceipt lib receiptId = some (.confirmed row b (some proof)) ∧
        verifyProof lib (rowLeaf lib row) proof b.merkleRoot = true

/-- **A block that fits**: it comes after every block and names the hash of the last one, the text of its time is what
the database gives back, and none of its receipts has the id of one that is committed.  A block before all others fits
where its hash is the predecessor's hash of the first block. -/
structure Fits (l : CompactLedger F) (block : LedgerBlock F) (receipts : List (RemoteReceipt F)) : Prop where
  place : ((∀ b ∈ l.store.blocks, b.index < block.index) ∧ block.prevHash = l.store.head.2) ∨
    ((∀ b ∈ l.store.blocks, block.index < b.index) ∧ block.blockHash = genesisPrevHash)
  timestamp : ∀ t, lib.realColumn block.timestamp = some t → lib.text t = lib.text block.timestamp
  fresh : ∀ r ∈ receipts, ∀ receiptId row b, lib.textColumn r.receiptId = .ok (some receiptId) →
    ¬Committed lib l receiptId row b

variable {lib} {l : CompactLedger F}

theorem getReceipt_of_committed {receiptId : String} (h : Committed lib l receiptId row b) (hsound : b.Sound lib) :
    ∃ proof, l.getReceipt lib receiptId = some (.confirmed row b (some proof)) ∧
      getProof lib b.receiptLeafHashes (b.receiptLeafHashes.idxOf (rowLeaf lib row)) = some proof ∧
      verifyProof lib (rowLeaf lib row) proof b.merkleRoot = true := by
  obtain ⟨proof, hproof, hverify⟩ := verifyProof_getProof lib h.leaf
  refine ⟨proof, ?_, hproof, hsound.2 ▸ hverify⟩
  unfold getReceipt storedReceipt
  rw [h.notPending, h.stored]
  dsimp only
  rw [h.block]
  dsimp only
  rw [if_pos h.leaf, hproof]

theorem Committed.mem {receiptId : String}
    (h : Committed lib l receiptId row b) : b ∈ l.store.blocks ∧ row.blockIndex = some b.index := by
  obtain ⟨index, hindex, hblock⟩ := bind_eq_some_iff.mp h.block
  obtain ⟨hmem, hb⟩ := blockAt_eq_some_iff.mp hblock
  exact ⟨hmem, hindex.trans (congrArg some hb.symm)⟩

theorem KeepsChain.refl (h : l.verifyChainIntegrity lib = (true, none)) : KeepsChain lib l l := by
  refine ⟨h, fun _ _ hb => hb, fun receiptId row b hcommitted => ⟨rfl, ?_⟩⟩
  obtain ⟨proof, hget, -, hverify⟩ := getReceipt_of_committed hcommitted
    (((verifyChainIntegrity_iff lib).mp h).2.2 b hcommitted.mem.1)
  exact ⟨proof, hget, hverify⟩

omit [Preorder F] in
theorem head_snd (s : ChainStore F) : s.head.2 = lastHash genesisPrevHash s.blocks := by
  unfold ChainStore.head lastHash
  cases s.blocks.getLast? <;> rfl

section

variable {s' : ChainStore F} {block : LedgerBlock F} {receipts : List (RemoteReceipt F)} {t : F}

theorem place_of_linked (hwritten : Written lib l.store s' block receipts t)
    (hlinked : Linked genesisPrevHash l.store.blocks) (hlinked' : Linked genesisPrevHash s'.blocks) :
    ((∀ b ∈ l.store.blocks, b.index < block.index) ∧ block.prevHash = l.store.head.2) ∨
      ((∀ b ∈ l.store.blocks, block.index < b.index) ∧ block.blockHash = genesisPrevHash) := by
  have haround := blocks_around hwritten.free
  have hblocks := hwritten.blocks
  have hlower : ∀ b ∈ l.store.blocks.filter (fun b => decide (b.index < block.index)),
      b ∈ l.store.blocks ∧ b.index < block.index := fun b hb =>
    ⟨(mem_filter.mp hb).1, of_decide_eq_true (mem_filter.mp hb).2⟩
  have hupper : ∀ b ∈ l.store.blocks.filter (fun b => decide (block.index < b.index)), block.index < b.index :=
    fun b hb => of_decide_eq_true (mem_filter.mp hb).2
  generalize l.store.blocks.filter (fun b => decide (b.index < block.index)) = lower at haround hblocks hlower
  generalize l.store.blocks.filter (fun b => decide (block.index < b.index)) = upper at haround hblocks hupper
  rw [← haround, linked_append] at hlinked
  rw [hblocks, linked_append] at hlinked'
  obtain ⟨-, hprev, hlater⟩ := hlinked'
  cases upper with
  | nil =>
    rw [append_nil] at haround
    refine .inl ⟨fun b hb => (hlower b (haround ▸ hb)).2, ?_⟩
    rw [head_snd, ← haround]
    exact hprev
  | cons u rest =>
    have hhash : block.blockHash = lastHash genesisPrevHash lower := hlater.1.symm.trans hlinked.2.1
    cases hlist : lower with
    | nil =>
      rw [hlist, nil_append] at haround
      rw [hlist] at hhash
      exact .inr ⟨fun b hb => hupper b (by rw [haround]; exact hb), hhash⟩
    | cons first others =>
      have hlast : ∃ b : LedgerBlock F, b ∈ _ ∧ b.blockHash = lastHash genesisPrevHash _ := lastHash_mem (hlist ▸ cons_ne_nil first others)
      obtain ⟨b, hb, hsame⟩ := hlast
      exact absurd (hsame.trans hhash.symm) (hwritten.unique b (hlower b hb).1)

theorem linked_of_place (hwritten : Written lib l.store s' block receipts t)
    (hadmitted : Admitted lib l.store block receipts)
    (hlinked : Linked genesisPrevHash l.store.blocks)
    (hplace : ((∀ b ∈ l.store.blocks, b.index < block.index) ∧ block.prevHash = l.store.head.2) ∨
      ((∀ b ∈ l.store.blocks, block.index < b.index) ∧ block.blockHash = genesisPrevHash)) :
    Linked genesisPrevHash s'.blocks := by
  rw [hwritten.blocks]
  rcases hplace with ⟨hlast, hprev⟩ | ⟨hfirst, hhash⟩
  · have hlower : l.store.blocks.filter (fun b => decide (b.index < block.index)) = l.store.blocks :=
      filter_eq_self.mpr fun b hb => decide_eq_true (hlast b hb)
    have hupper : l.store.blocks.filter (fun b => decide (block.index < b.index)) = [] := by
      refine filter_eq_nil_iff.mpr fun b hb => ?_
      simpa using (hlast b hb).le
    rw [hlower, hupper, linked_append, ← head_snd]
    exact ⟨hlinked, hprev, trivial⟩
  · have hlower : l.store.blocks.filter (fun b => decide (b.index < block.index)) = [] := by
      refine filter_eq_nil_iff.mpr fun b hb => ?_
      simpa using (hfirst b hb).le
    have hupper : l.store.blocks.filter (fun b => decide (block.index < b.index)) = l.store.blocks :=
      filter_eq_self.mpr fun b hb => decide_eq_true (hfirst b hb)
    rw [hlower, hupper, nil_append]
    refine ⟨?_, by rw [hhash]; exact hlinked⟩
    have hplaced := hadmitted.placed
    unfold checkPlace at hplaced
    split at hplaced
    · -- the predecessor of a block with a positive index is below it
      split at hplaced
      · cases hplaced
      · rename_i prev hget
        obtain ⟨hmem, hindex⟩ := blockAt_eq_some_iff.mp hget
        have := hfirst prev hmem
        omega
    · split at hplaced
      · cases hplaced
      · rename_i hprev
        exact not_not.mp hprev

/-- **A block that is written keeps the chain exactly where it fits.** -/
theorem keepsChain_written_iff (hinj : Function.Injective lib.sha256Hash)
    (hverified : l.verifyChainIntegrity lib = (true, none)) (hadmitted : Admitted lib l.store block receipts)
    (hwritten : Written lib l.store s' block receipts t) :
    KeepsChain lib l { l with store := s' } ↔ Fits lib l block receipts := by
  obtain ⟨hne, hlinked, hsound⟩ := (verifyChainIntegrity_iff lib).mp hverified
  have hmem : ∀ b, b ∈ s'.blocks ↔ b ∈ l.store.blocks ∨ b = { block with timestamp := t } := by
    intro b
    have haround := blocks_around hwritten.free
    rw [hwritten.blocks, ← haround, haround, mem_append, mem_cons, or_left_comm, ← mem_append, haround,
      or_comm]
  have hrow : ({ block with timestamp := t } : LedgerBlock F) ∈ s'.blocks := (hmem _).mpr (.inr rfl)
  constructor
  · intro hkeeps
    obtain ⟨-, hlinked', hsound'⟩ := (verifyChainIntegrity_iff lib).mp hkeeps.verified
    refine ⟨place_of_linked hwritten hlinked hlinked', fun t' ht' => ?_, ?_⟩
    · rw [hwritten.stored] at ht'
      cases ht'
      exact text_of_digest lib hinj ((hsound' _ hrow).1.trans hadmitted.sound.1.symm)
    · intro r hr receiptId row b hid hcommitted
      obtain ⟨-, proof, hget, -⟩ := hkeeps.receipts receiptId row b hcommitted
      obtain ⟨bound, hbound⟩ := hwritten.bound r hr
      have hboundId : bound.receiptId = some receiptId :=
        (Except.ok.inj (hid.symm.trans (receiptRow_ok lib hbound).1)).symm
      rcases hwritten.receipts receiptId with ⟨hother, -⟩ | ⟨r', -, row', hrow', -, hstored⟩
      · exact hother r hr bound hbound hboundId
      · have hsame : row' = row := by
          unfold getReceipt storedReceipt at hget
          dsimp only at hget
          rw [hcommitted.notPending, hstored] at hget
          dsimp only at hget
          split at hget
          · cases some.inj hget
          · injection some.inj hget
        -- the row moved to the block that was written, which had no place before
        have hindex : some b.index = some block.index :=
          hcommitted.mem.2.symm.trans (hsame ▸ (receiptRow_ok lib hrow').2)
        exact hwritten.free b hcommitted.mem.1 (some.inj hindex)
  · intro hfits
    have htext := hfits.timestamp t hwritten.stored
    have hsound' : ∀ b ∈ s'.blocks, b.Sound lib := by
      intro b hb
      rcases (hmem b).mp hb with hold | rfl
      · exact hsound b hold
      · exact ⟨(digest_of_text lib htext).trans hadmitted.sound.1, hadmitted.sound.2⟩
    have hblocks : ∀ index b, l.store.blockAt index = some b → s'.blockAt index = some b := by
      intro index b hb
      obtain ⟨hbmem, hbindex⟩ := blockAt_eq_some_iff.mp hb
      exact blockAt_eq_some_iff.mpr ⟨(hmem b).mpr (.inl hbmem), hbindex⟩
    refine ⟨(verifyChainIntegrity_iff lib).mpr ⟨ne_nil_of_mem hrow, ?_, hsound'⟩, hblocks, ?_⟩
    · exact linked_of_place hwritten hadmitted hlinked hfits.place
    · intro receiptId row b hcommitted
      have hkept : receiptById s' receiptId = receiptById l.store receiptId := by
        rcases hwritten.receipts receiptId with ⟨-, hkept⟩ | ⟨r, hr, written, hwrite, hid, -⟩
        · exact hkept
        · exact absurd hcommitted
            (hfits.fresh r hr receiptId row b (hid ▸ (receiptRow_ok lib hwrite).1))
      have hcommitted' : Committed lib { l with store := s' } receiptId row b := by
        obtain ⟨index, hindex, hblock⟩ := bind_eq_some_iff.mp hcommitted.block
        exact ⟨hcommitted.notPending, hkept.trans hcommitted.stored,
          bind_eq_some_iff.mpr ⟨index, hindex, hblocks index b hblock⟩, hcommitted.leaf⟩
      have hbsound := hsound b hcommitted.mem.1
      obtain ⟨proof, hget, hproof, hverify⟩ := getReceipt_of_committed hcommitted hbsound
      obtain ⟨proof', hget', hproof', -⟩ := getReceipt_of_committed hcommitted' hbsound
      obtain rfl : proof = proof' := some.inj (hproof.symm.trans hproof')
      exact ⟨hget'.trans hget.symm, proof, hget', hverify⟩

end

/-- Whole times compare as integers. -/
abbrev wholeTimes : Preorder ℤ := Int.instLinearOrder.toPreorder

attribute [local instance] wholeTimes

def byTimestamp (a b : ReceiptRow ℤ) : Prop := a.timestamp ≤ b.timestamp

instance : DecidableRel byTimestamp := fun a b => inferInstanceAs (Decidable (a.timestamp ≤ b.timestamp))

instance : Std.Total byTimestamp := ⟨fun a b => le_total a.timestamp b.timestamp⟩

instance : IsTrans (ReceiptRow ℤ) byTimestamp := ⟨fun _ _ _ => le_trans⟩

/-- A library whose floats are whole and whose digests are the texts themselves. -/
def sampleChainLibrary : ChainLibrary ℤ where
  sha256Hash := id
  dumps _ := .ok "{}"
  text := toString
  round4 := id
  str
    | .str text => text
    | .int n => toString n
    | _ => "None"
  int
    | .int n => .ok n
    | _ => .error (.caught "int() argument must be a number")
  float
    | .float x => .ok x
    | .int n => .ok n
    | _ => .error (.caught "float() argument must be a number")
  iter
    | .arr items => .ok items
    | _ => .error (.caught "object is not iterable")
  subscriptError _ := "object is not subscriptable"
  int_int _ := rfl
  float_float _ := rfl
  str_str _ := rfl
  iter_arr _ := rfl
  realColumn := some
  realColumn_idem _ := rfl
  textColumn
    | .str text => .ok (some text)
    | .int n => .ok (some (toString n))
    | .null => .ok none
    | _ => .error (.sqlite "Error binding parameter: type is not supported")
  textColumn_str _ := rfl
  orderByTimestamp rows := rows.insertionSort byTimestamp
  order_perm rows := List.perm_insertionSort byTimestamp rows
  order_sorted rows := (List.pairwise_insertionSort byTimestamp rows).imp fun h => not_lt.mpr h

def sampleLedger : CompactLedger ℤ where
  store := (ensureGenesis sampleChainLibrary 1700000000 0 ⟨[], [], .nil⟩).toOption.getD ⟨[], [], .nil⟩
  pendingReceipts := []
  autoCommitBatchSize := 50

/-- A block without receipts, sealed at time zero. -/
def sealedBlock (index : ℤ) (prevHash : String) (receipts : List (ProofOfExecutionReceipt String String ℤ)) : LedgerBlock ℤ :=
  let leafHashes := receipts.map (computeLeafHash sampleChainLibrary id id)
  let root := treeRoot sampleChainLibrary leafHashes
  ⟨⟨index, 0, prevHash, root, receipts.length, "peer",
    computeBlockHash sampleChainLibrary index 0 prevHash root receipts.length "peer"⟩, leafHashes⟩

def genesisRow : ReceiptRow ℤ :=
  { genesisReceipt sampleChainLibrary 1700000000 0 with receiptId := some "poe_genesis_anchor_00000000" }

end ComputeMesh.Chain
