import ComputeMesh.Chain.CompactChain
import ComputeMesh.Lib.Checks

/-!
# Blocks from peers

`get_blocks_since`, which a peer reads, and `ingest_remote_block`, which takes over what it read.
-/

namespace ComputeMesh.Chain

variable {F : Type} [Preorder F] (lib : ChainLibrary F)

/-! ### What a peer reads -/

/-- A row of `receipts` as the dict of a page. -/
def receiptDict (r : ReceiptRow F) : Value F :=
  .obj [("receipt_id", match r.receiptId with | some receiptId => .str receiptId | none => .null),
    ("timestamp", .float r.timestamp), ("tool_name", .str r.toolName), ("task_hash", .str r.taskHash),
    ("code_ast_hash", .str r.codeAstHash), ("inputs_hash", .str r.inputsHash), ("outputs_hash", .str r.outputsHash),
    ("elapsed_seconds", .float r.elapsedSeconds), ("node_id", .str r.nodeId), ("status", .str r.status),
    ("block_index", match r.blockIndex with | some index => .int index | none => .null)]

/-- `LedgerBlock.to_dict`. -/
def blockDict (b : LedgerBlock F) : Value F :=
  .obj [("index", .int b.index), ("timestamp", .float b.timestamp), ("prev_hash", .str b.prevHash),
    ("merkle_root", .str b.merkleRoot), ("receipt_count", .int b.receiptCount),
    ("receipt_leaf_hashes", .arr (b.receiptLeafHashes.map .str)), ("node_id", .str b.nodeId),
    ("block_hash", .str b.blockHash)]

/-- The rows of a block's receipts, oldest first. -/
def receiptsOf (s : ChainStore F) (index : ℤ) : List (ReceiptRow F) :=
  lib.orderByTimestamp (s.receipts.filter fun r => decide (r.blockIndex = some index))

/-- `max(1, min(100, limit))`. -/
def safeLimit (limit : ℤ) : ℕ := (max 1 (min 100 limit)).toNat

/-- `get_blocks_since`: each block with its receipts. -/
def getBlocksSince (s : ChainStore F) (sinceIndex limit : ℤ) : List (Value F × Value F) :=
  ((s.blocks.filter fun b => decide (sinceIndex < b.index)).take (safeLimit limit)).map fun b =>
    (blockDict b, .arr ((receiptsOf lib s b.index).map receiptDict))

/-! ### What a peer sent -/

namespace Value

/-- `value[key]`. -/
def item (value : Value F) (key : String) : Except ChainExn (Value F) :=
  match value with
  | .obj fields =>
    match fields.lookup key with
    | some value => .ok value
    | none => .error (.caught ("'" ++ key ++ "'"))
  | value => .error (.caught (lib.subscriptError value))

/-- `value.get(key, default)`. -/
def getOr (value : Value F) (key : String) (default : Value F) : Except ChainExn (Value F) :=
  match value with
  | .obj fields => .ok ((fields.lookup key).getD default)
  | value => .error (.caught (lib.subscriptError value))

def areTexts : List String → List (Value F) → Bool
  | [], [] => true
  | text :: texts, .str text' :: values => decide (text = text') && areTexts texts values
  | _, _ => false

end Value

/-- A receipt that a peer sent. -/
abbrev RemoteReceipt (F : Type) : Type := ProofOfExecutionReceipt (Value F) (Value F) F

/-- The header of a block that a peer sent, and its leaf hashes. -/
def parseBlock (blockData : Value F) : Except ChainExn (BlockHeader F × List (Value F)) := do
  let index ← blockData.item lib "index" >>= lib.int
  let timestamp ← blockData.item lib "timestamp" >>= lib.float
  let prevHash ← blockData.item lib "prev_hash"
  let merkleRoot ← blockData.item lib "merkle_root"
  let receiptCount ← blockData.item lib "receipt_count" >>= lib.int
  let leafHashes ← blockData.getOr lib "receipt_leaf_hashes" (.arr []) >>= lib.iter
  let nodeId ← blockData.item lib "node_id"
  let blockHash ← blockData.item lib "block_hash"
  return (⟨index, timestamp, lib.str prevHash, lib.str merkleRoot, receiptCount, lib.str nodeId, lib.str blockHash⟩,
    leafHashes)

/-- One receipt that a peer sent. -/
def parseReceipt (index : ℤ) (rd : Value F) : Except ChainExn (RemoteReceipt F) := do
  let receiptId ← rd.item lib "receipt_id"
  let timestamp ← rd.item lib "timestamp" >>= lib.float
  let toolName ← rd.item lib "tool_name"
  let taskHash ← rd.item lib "task_hash"
  let codeAstHash ← rd.item lib "code_ast_hash"
  let inputsHash ← rd.item lib "inputs_hash"
  let outputsHash ← rd.item lib "outputs_hash"
  let elapsedSeconds ← rd.item lib "elapsed_seconds" >>= lib.float
  let nodeId ← rd.item lib "node_id"
  let status ← rd.getOr lib "status" (.str "verified_success")
  return ⟨receiptId, timestamp, toolName, taskHash, codeAstHash, inputsHash, outputsHash, elapsedSeconds, nodeId, status,
    some index⟩

/-- The receipts that a peer sent. -/
def parseReceipts (index : ℤ) : List (Value F) → Except ChainExn (List (RemoteReceipt F))
  | [] => .ok []
  | rd :: rest => do
    let r ← parseReceipt lib index rd
    let others ← parseReceipts index rest
    return r :: others

/-- The leaf of a receipt that a peer sent. -/
def remoteLeaf (r : RemoteReceipt F) : String := computeLeafHash lib lib.str lib.str r

/-- The parameters of a row for a receipt that a peer sent. -/
def remoteRow (index : ℤ) (r : RemoteReceipt F) : Except ChainExn (ReceiptRow F) :=
  receiptRow lib lib.textColumn lib.textColumn index r

/-- What the checks of `ingest_remote_block` come to. -/
inductive Verdict (F : Type)
  | identical (index : ℤ)
  | refused (message : String)
  | admitted (block : LedgerBlock F) (receipts : List (RemoteReceipt F))

/-- The checks of a block's place: none is none refused. -/
def checkPlace (s : ChainStore F) (b : BlockHeader F) : Option String :=
  if 0 < b.index then
    match s.blockAt (b.index - 1) with
    | none => some s!"Fehlender Vorgänger-Block #{b.index - 1}. Synchronisation erforderlich."
    | some prev =>
      if prev.blockHash ≠ b.prevHash then
        some s!"Ungültiger prev_hash in Block #{b.index}. Vorgänger-Hash stimmt nicht überein."
      else none
  else if b.prevHash ≠ genesisPrevHash then some "Genesis Block hat ungültigen prev_hash."
  else none

def checkContents (b : BlockHeader F) (leafHashes : List String) (sent : List (Value F)) : Option String :=
  if Value.areTexts leafHashes sent = false then
    some "Berechnete Receipt-Leaf-Hashes stimmen nicht mit Block-Header überein."
  else if treeRoot lib leafHashes ≠ b.merkleRoot then
    some s!"Merkle-Root Diskrepanz: Erwartet {b.merkleRoot}, berechnet {treeRoot lib leafHashes}."
  else if b.verifyIntegrity lib b.prevHash = false then
    some "Block-Hash Integritätsprüfung fehlgeschlagen (Header manipuliert)."
  else none

/-- The contents of a block whose place is free and right. -/
def judgeContents (b : BlockHeader F) (sent : List (Value F)) (receiptsData : Value F) : Except ChainExn (Verdict F) := do
  let items ← lib.iter receiptsData
  let receipts ← parseReceipts lib b.index items
  let leafHashes := receipts.map (remoteLeaf lib)
  match checkContents lib b leafHashes sent with
  | some message => return .refused message
  | none => return .admitted ⟨b, leafHashes⟩ receipts

/-- `ingest_remote_block` up to the write. -/
def judge (s : ChainStore F) (blockData receiptsData : Value F) : Except ChainExn (Verdict F) := do
  let (b, sent) ← parseBlock lib blockData
  let _ ← sqliteInteger b.index
  match s.blockAt b.index with
  | some existing =>
    if existing.blockHash = b.blockHash then return .identical b.index
    else return .refused s!"Konflikt: Lokaler Block #{b.index} hat abweichenden Hash."
  | none =>
    match checkPlace s b with
    | some message => return .refused message
    | none => judgeContents lib b sent receiptsData

/-- The end of `ingest_remote_block` where it raises: the exceptions of most classes become an answer. -/
def answerExn (e : ChainExn) : Except ChainExn (Bool × String) :=
  match e with
  | .caught message => .ok (false, s!"Ausnahmefehler bei Block-Ingestion: {message}")
  | .overflow message => .error (.overflow message)
  | .sqlite message => .error (.sqlite message)

def ingestBlockDirect (s : ChainStore F) (block : LedgerBlock F) (receipts : List (RemoteReceipt F)) :
    Except ChainExn (ChainStore F) :=
  writeBlockAndReceipts lib (remoteRow lib block.index) s block receipts

def ingestRemoteBlock (l : CompactLedger F) (blockData receiptsData : Value F) :
    Except ChainExn (Bool × String) × CompactLedger F :=
  match judge lib l.store blockData receiptsData with
  | .error e => (answerExn e, l)
  | .ok (.identical index) => (.ok (true, s!"Block #{index} existiert bereits und ist identisch."), l)
  | .ok (.refused message) => (.ok (false, message), l)
  | .ok (.admitted block receipts) =>
    match ingestBlockDirect lib l.store block receipts with
    | .error e => (answerExn e, l)
    | .ok store =>
      (.ok (true, s!"Block #{block.index} erfolgreich verifiziert und synchronisiert."), { l with store := store })

end ComputeMesh.Chain
