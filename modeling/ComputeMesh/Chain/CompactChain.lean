import ComputeMesh.Chain.Block

/-!
# The compact ledger

The two tables, the receipts that wait for a block, and the operations on them.  The rows of `blocks` stand in the
order of their index, those of `receipts` in the order of their `rowid`.
-/

namespace ComputeMesh.Chain

def genesisPrevHash : String := "0000000000000000000000000000000000000000000000000000000000000000"

/-- The database; its rows of `blocks` have a primary key. -/
structure ChainStore (F : Type) where
  blocks : List (LedgerBlock F)
  receipts : List (ReceiptRow F)
  sorted : blocks.Pairwise fun a b => a.index < b.index

structure CompactLedger (F : Type) where
  store : ChainStore F
  pendingReceipts : List (ProofOfExecutionReceipt String String F)
  autoCommitBatchSize : ℤ

/-- Whether SQLite can store an `int`. -/
def isSqliteInteger (n : ℤ) : Prop := -9223372036854775808 ≤ n ∧ n ≤ 9223372036854775807

instance (n : ℤ) : Decidable (isSqliteInteger n) := inferInstanceAs (Decidable (_ ∧ _))

def sqliteInteger (n : ℤ) : Except ChainExn ℤ :=
  if isSqliteInteger n then .ok n else .error (.overflow "Python int too large to convert to SQLite INTEGER")

/-- A `NOT NULL` column. -/
def notNull {α : Type} (column : String) : Option α → Except ChainExn α
  | some value => .ok value
  | none => .error (.sqlite s!"NOT NULL constraint failed: {column}")

section

variable {F : Type}

namespace ChainStore

def blockAt (s : ChainStore F) (index : ℤ) : Option (LedgerBlock F) := s.blocks.find? fun b => decide (b.index = index)

/-- A new row of `blocks`. -/
def insertBlock (s : ChainStore F) (b : LedgerBlock F) : Except ChainExn (ChainStore F) :=
  if s.blocks.any fun b' => decide (b'.index = b.index) then
    .error (.sqlite "UNIQUE constraint failed: blocks.block_index")
  else if s.blocks.any fun b' => decide (b'.blockHash = b.blockHash) then
    .error (.sqlite "UNIQUE constraint failed: blocks.block_hash")
  else
    .ok {
      blocks := s.blocks.filter (fun b' => decide (b'.index < b.index)) ++
        b :: s.blocks.filter (fun b' => decide (b.index < b'.index))
      receipts := s.receipts
      sorted := by
        refine List.pairwise_append.mpr ⟨s.sorted.filter _, List.pairwise_cons.mpr ⟨?_, s.sorted.filter _⟩, ?_⟩
        · exact fun a ha => of_decide_eq_true (List.mem_filter.mp ha).2
        · rintro a ha a' ha'
          have hlt : a.index < b.index := of_decide_eq_true (List.mem_filter.mp ha).2
          rcases List.mem_cons.mp ha' with rfl | hlater
          · exact hlt
          · exact hlt.trans (of_decide_eq_true (List.mem_filter.mp hlater).2) }

/-- `INSERT OR REPLACE INTO receipts`: a null key is no other row's key. -/
def insertOrReplace (s : ChainStore F) (r : ReceiptRow F) : ChainStore F :=
  { s with receipts := s.receipts.filter (fun r' => decide ¬(r.receiptId.isSome ∧ r'.receiptId = r.receiptId)) ++ [r] }

end ChainStore

variable [Preorder F] (lib : ChainLibrary F)

/-- The parameters of a row of `receipts`, its id and its texts bound by these functions. -/
def receiptRow {I T : Type} (idColumn : I → Except ChainExn (Option String)) (column : T → Except ChainExn (Option String))
    (index : ℤ) (r : ProofOfExecutionReceipt I T F) : Except ChainExn (ReceiptRow F) := do
  let receiptId ← idColumn r.receiptId
  let timestamp ← notNull "receipts.timestamp" (lib.realColumn r.timestamp)
  let toolName ← column r.toolName >>= notNull "receipts.tool_name"
  let taskHash ← column r.taskHash >>= notNull "receipts.task_hash"
  let codeAstHash ← column r.codeAstHash >>= notNull "receipts.code_ast_hash"
  let inputsHash ← column r.inputsHash >>= notNull "receipts.inputs_hash"
  let outputsHash ← column r.outputsHash >>= notNull "receipts.outputs_hash"
  let elapsedSeconds ← notNull "receipts.elapsed_seconds" (lib.realColumn r.elapsedSeconds)
  let nodeId ← column r.nodeId >>= notNull "receipts.node_id"
  let status ← column r.status >>= notNull "receipts.status"
  return ⟨receiptId, timestamp, toolName, taskHash, codeAstHash, inputsHash, outputsHash, elapsedSeconds, nodeId, status,
    some index⟩

/-- The parameters of a row of `blocks`. -/
def blockRow (b : LedgerBlock F) : Except ChainExn (LedgerBlock F) := do
  let index ← sqliteInteger b.index
  let receiptCount ← sqliteInteger b.receiptCount
  let timestamp ← notNull "blocks.timestamp" (lib.realColumn b.timestamp)
  return { b with index := index, receiptCount := receiptCount, timestamp := timestamp }

/-- The receipts of a block, one after another. -/
def writeReceipts {R : Type} (row : R → Except ChainExn (ReceiptRow F)) (s : ChainStore F) :
    List R → Except ChainExn (ChainStore F)
  | [] => .ok s
  | r :: rest => do
    let r ← row r
    writeReceipts row (s.insertOrReplace r) rest

/-- `_write_block_and_receipts`, in a transaction of its own. -/
def writeBlockAndReceipts {R : Type} (row : R → Except ChainExn (ReceiptRow F)) (s : ChainStore F) (b : LedgerBlock F)
    (receipts : List R) : Except ChainExn (ChainStore F) := do
  let b ← blockRow lib b
  let s ← s.insertBlock b
  writeReceipts row s receipts

/-- The parameters of a row for a receipt that was created here. -/
def localRow (index : ℤ) (r : ProofOfExecutionReceipt String String F) : Except ChainExn (ReceiptRow F) :=
  receiptRow lib (fun id => .ok (some id)) (fun text => .ok (some text)) index r

/-! ### The operations -/

namespace ChainStore

/-- The index and the hash of the last block. -/
def head (s : ChainStore F) : ℤ × String :=
  match s.blocks.getLast? with
  | some b => (b.index, b.blockHash)
  | none => (-1, genesisPrevHash)

end ChainStore

/-- The receipt of `_ensure_genesis`. -/
def genesisReceipt (genesisTime zero : F) : ProofOfExecutionReceipt String String F where
  receiptId := "poe_genesis_anchor_00000000"
  timestamp := genesisTime
  toolName := "genesis_init"
  taskHash := lib.sha256Hash "ComputeMesh Cryptographic Ledger Genesis Anchor"
  codeAstHash := lib.sha256Hash "genesis"
  inputsHash := lib.sha256Hash "\x7b\"genesis\": true\x7d"
  outputsHash := lib.sha256Hash "\x7b\"status\": \"genesis_active\"\x7d"
  elapsedSeconds := zero
  nodeId := "genesis_root"
  status := "genesis_active"
  blockIndex := some 0

/-- The block of `_ensure_genesis`. -/
def genesisBlock (genesisTime zero : F) : LedgerBlock F :=
  let leafHash := computeLeafHash lib id id (genesisReceipt lib genesisTime zero)
  let root := treeRoot lib [leafHash]
  { index := 0
    timestamp := genesisTime
    prevHash := genesisPrevHash
    merkleRoot := root
    receiptCount := 1
    nodeId := "genesis_root"
    blockHash := computeBlockHash lib 0 genesisTime genesisPrevHash root 1 "genesis_root"
    receiptLeafHashes := [leafHash] }

/-- `_ensure_genesis`, with the floats `1700000000.0` and `0.0`. -/
def ensureGenesis (genesisTime zero : F) (s : ChainStore F) : Except ChainExn (ChainStore F) :=
  if s.blocks = [] then
    writeBlockAndReceipts lib (localRow lib 0) s (genesisBlock lib genesisTime zero) [genesisReceipt lib genesisTime zero]
  else .ok s

namespace CompactLedger

/-- `_commit_pending_batch_locked`, at some time: the queue is empty also if the transaction fails. -/
def commitPendingBatchLocked (l : CompactLedger F) (t : F) (nodeId : String) :
    Except ChainExn (Option (LedgerBlock F)) × CompactLedger F :=
  if l.pendingReceipts = [] then (.ok none, l)
  else
    let block := createBlock lib t (l.store.head.1 + 1) l.store.head.2 l.pendingReceipts nodeId
    match writeBlockAndReceipts lib (localRow lib block.index) l.store block l.pendingReceipts with
    | .error e => (.error e, { l with pendingReceipts := [] })
    | .ok store => (.ok (some block), { l with store := store, pendingReceipts := [] })

def commitBlock (l : CompactLedger F) (t : F) (nodeId : String) :
    Except ChainExn (Option (LedgerBlock F)) × CompactLedger F :=
  l.commitPendingBatchLocked lib t nodeId

/-- What `record_execution` does under the lock with the receipt it created. -/
def enqueue (l : CompactLedger F) (t : F) (receipt : ProofOfExecutionReceipt String String F) (forceCommit : Bool) :
    Except ChainExn (ProofOfExecutionReceipt String String F) × CompactLedger F :=
  let l := { l with pendingReceipts := l.pendingReceipts ++ [receipt] }
  if l.autoCommitBatchSize ≤ l.pendingReceipts.length ∨ forceCommit = true then
    match l.commitPendingBatchLocked lib t "node_mesh_primary" with
    | (.error e, l) => (.error e, l)
    | (.ok _, l) => (.ok receipt, l)
  else (.ok receipt, l)

/-- The answers of `get_receipt`. -/
inductive ReceiptAnswer (F : Type)
  | pending (receipt : ProofOfExecutionReceipt String String F)
  | unconfirmed (receipt : ReceiptRow F)
  | confirmed (receipt : ReceiptRow F) (block : LedgerBlock F) (merkleProof : Option (List (String × Merkle.Side)))
  deriving DecidableEq

/-- The leaf of a row that was found by its id. -/
def rowLeaf (r : ReceiptRow F) : String := computeLeafHash lib (·.getD "None") id r

def receiptById (s : ChainStore F) (receiptId : String) : Option (ReceiptRow F) :=
  s.receipts.find? fun r => decide (r.receiptId = some receiptId)

/-- The second half of `get_receipt`. -/
def storedReceipt (s : ChainStore F) (receiptId : String) : Option (ReceiptAnswer F) :=
  match receiptById s receiptId with
  | none => none
  | some receipt =>
    match receipt.blockIndex.bind s.blockAt with
    | none => some (.unconfirmed receipt)
    | some block =>
      let leafHash := rowLeaf lib receipt
      some (.confirmed receipt block
        (if leafHash ∈ block.receiptLeafHashes then
          getProof lib block.receiptLeafHashes (block.receiptLeafHashes.idxOf leafHash) else none))

def getReceipt (l : CompactLedger F) (receiptId : String) : Option (ReceiptAnswer F) :=
  match l.pendingReceipts.find? fun r => decide (r.receiptId = receiptId) with
  | some receipt => some (.pending receipt)
  | none => storedReceipt lib l.store receiptId

/-- The loop of `verify_chain_integrity`. -/
def verifyFrom (expectedPrev : String) : List (LedgerBlock F) → Bool × Option String
  | [] => (true, none)
  | b :: rest =>
    if b.verifyIntegrity lib expectedPrev = false then
      (false, s!"Block #{b.index} ({String.ofList (b.blockHash.toList.take 16)}) ist korrupt oder manipuliert!")
    else if treeRoot lib b.receiptLeafHashes ≠ b.merkleRoot then
      (false, s!"Merkle-Root in Block #{b.index} stimmt nicht mit Leaf-Hashes überein.")
    else verifyFrom b.blockHash rest

def verifyChainIntegrity (l : CompactLedger F) : Bool × Option String :=
  if l.store.blocks = [] then (false, "Ledger ist leer (Kein Genesis Block vorhanden).")
  else verifyFrom lib genesisPrevHash l.store.blocks

end CompactLedger

end

end ComputeMesh.Chain
