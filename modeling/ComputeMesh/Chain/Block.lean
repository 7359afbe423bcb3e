import ComputeMesh.Lib.Dict
import ComputeMesh.Lib.Merkle
import ComputeMesh.Lib.Text

/-!
# Receipts and blocks

The proof-of-execution receipts, the blocks that commit to them, and the values a peer sends.

A receipt has its fields as the place where it stands has them: texts where it was created here, values of a request
where a peer sent it, columns in the database.
-/

namespace ComputeMesh.Chain

/-- A value of a request's body, its floats as they are. -/
inductive Value (F : Type)
  | null
  | bool (b : Bool)
  | int (n : ℤ)
  | float (x : F)
  | str (text : String)
  | arr (items : List (Value F))
  | obj (fields : List (String × Value F))

/-- An exception: of one of the classes that `ingest_remote_block` catches, an `OverflowError`, or one of SQLite. -/
inductive ChainExn
  | caught (message : String)
  | overflow (message : String)
  | sqlite (message : String)

/-- `ProofOfExecutionReceipt`, with an id in `I` and texts in `T`. -/
structure ProofOfExecutionReceipt (I T F : Type) where
  receiptId : I
  timestamp : F
  toolName : T
  taskHash : T
  codeAstHash : T
  inputsHash : T
  outputsHash : T
  elapsedSeconds : F
  nodeId : T
  status : T
  blockIndex : Option ℤ
  deriving DecidableEq

/-- A row of `receipts`: its texts are not null, but its primary key may be. -/
abbrev ReceiptRow (F : Type) : Type := ProofOfExecutionReceipt (Option String) String F

/-- What the ledger uses of Python, of `hashlib` and of SQLite. -/
structure ChainLibrary (F : Type) [Preorder F] where
  sha256Hash : String → String
  /-- `json.dumps(value, sort_keys=True, ensure_ascii=False)`. -/
  dumps : Value F → Except ChainExn String
  /-- `f"{x}"` and `round(x, 4)` of a float. -/
  text : F → String
  round4 : F → F
  /-- `str(value)`, `int(value)`, `float(value)`, `iter(value)` and what `value[key]` raises if it is no object. -/
  str : Value F → String
  int : Value F → Except ChainExn ℤ
  float : Value F → Except ChainExn F
  iter : Value F → Except ChainExn (List (Value F))
  subscriptError : Value F → String
  int_int : ∀ n, int (.int n) = .ok n
  float_float : ∀ x, float (.float x) = .ok x
  str_str : ∀ text, str (.str text) = text
  iter_arr : ∀ items, iter (.arr items) = .ok items
  /-- What a `REAL` column gives back for a float; a float that is no number is stored as null. -/
  realColumn : F → Option F
  realColumn_idem : ∀ {x y}, realColumn x = some y → realColumn y = some y
  /-- What a `TEXT` column gives back for a value; null stays null. -/
  textColumn : Value F → Except ChainExn (Option String)
  textColumn_str : ∀ text, textColumn (.str text) = .ok (some text)
  /-- `ORDER BY timestamp ASC`: rows of one time come in an order of SQLite's choice. -/
  orderByTimestamp : List (ReceiptRow F) → List (ReceiptRow F)
  order_perm : ∀ rows, (orderByTimestamp rows).Perm rows
  order_sorted : ∀ rows, (orderByTimestamp rows).Pairwise fun a b => ¬b.timestamp < a.timestamp

/-- A block without the hashes of its receipts. -/
structure BlockHeader (F : Type) where
  index : ℤ
  timestamp : F
  prevHash : String
  merkleRoot : String
  receiptCount : ℤ
  nodeId : String
  blockHash : String
  deriving DecidableEq

structure LedgerBlock (F : Type) extends BlockHeader F where
  receiptLeafHashes : List String
  deriving DecidableEq

section

variable {F : Type} [Preorder F] (lib : ChainLibrary F)

def computeLeafHash {I T : Type} (idText : I → String) (text : T → String) (r : ProofOfExecutionReceipt I T F) : String :=
  lib.sha256Hash (":".intercalate [idText r.receiptId, lib.text r.timestamp, text r.toolName, text r.taskHash,
    text r.codeAstHash, text r.inputsHash, text r.outputsHash, lib.text r.elapsedSeconds, text r.nodeId, text r.status])

/-- What `ProofOfExecutionReceipt.create` is given. -/
structure Execution (F : Type) where
  toolName : String
  taskDescription : String
  code : String
  inputs : Value F
  outputs : Value F
  elapsedSeconds : F
  nodeId : String
  status : String

/-- `ProofOfExecutionReceipt.create`, at some time. -/
def createReceipt (t : F) (e : Execution F) : Except ChainExn (ProofOfExecutionReceipt String String F) :=
  match lib.dumps e.inputs, lib.dumps e.outputs with
  | .error e, _ => .error e
  | _, .error e => .error e
  | .ok inputs, .ok outputs =>
    let tHash := lib.sha256Hash (if e.taskDescription = "" then "none" else e.taskDescription)
    let cHash := lib.sha256Hash (if e.code = "" then "builtin" else e.code)
    let iHash := lib.sha256Hash inputs
    let oHash := lib.sha256Hash outputs
    let seed := ":".intercalate [lib.text t, e.toolName, tHash, cHash, iHash, oHash, e.nodeId]
    .ok {
      receiptId := "poe_" ++ String.ofList ((lib.sha256Hash seed).toList.take 16)
      timestamp := t
      toolName := e.toolName
      taskHash := tHash
      codeAstHash := cHash
      inputsHash := iHash
      outputsHash := oHash
      elapsedSeconds := lib.round4 e.elapsedSeconds
      nodeId := e.nodeId
      status := e.status
      blockIndex := none }

/-! ### The tree over the leaves -/

def hashPair (left right : String) : String := lib.sha256Hash (left ++ right)

/-- The leaves of a `MerkleTree`. -/
def treeLeaves (leafHashes : List String) : List String :=
  if leafHashes = [] then [lib.sha256Hash "EMPTY_BLOCK_LEAF"] else leafHashes

/-- `MerkleTree(leaf_hashes).root`; the default is never read. -/
def treeRoot (leafHashes : List String) : String :=
  (Merkle.top (Merkle.levels (hashPair lib) (treeLeaves lib leafHashes))).getD ""

/-- `MerkleTree(leaf_hashes).get_proof(leaf_index)`; none is its `IndexError`. -/
def getProof (leafHashes : List String) (leafIndex : ℕ) : Option (List (String × Merkle.Side)) :=
  if (treeLeaves lib leafHashes).length ≤ leafIndex then none
  else Merkle.siblings (Merkle.levels (hashPair lib) (treeLeaves lib leafHashes)) leafIndex

def verifyProof (leafHash : String) (proof : List (String × Merkle.Side)) (expectedRoot : String) : Bool :=
  decide (Merkle.climb (hashPair lib) leafHash proof = expectedRoot)

/-- **The proof of the leaf at an index verifies against the root of its tree.** -/
theorem verifyProof_of_get {leafHashes : List String} {i : ℕ} {leafHash : String} (hleaf : leafHashes[i]? = some leafHash) :
    ∃ proof, getProof lib leafHashes i = some proof ∧
      verifyProof lib leafHash proof (treeRoot lib leafHashes) = true := by
  have hlt := (List.getElem?_eq_some_iff.mp hleaf).1
  have hleaves : treeLeaves lib leafHashes = leafHashes := if_neg (List.ne_nil_of_length_pos (by omega))
  obtain ⟨proof, hproof, htop⟩ := Merkle.climb_siblings (hashPair lib) hleaf
  refine ⟨proof, ?_, ?_⟩
  · unfold getProof
    rw [hleaves, if_neg (by omega), hproof]
  · unfold verifyProof treeRoot
    rw [hleaves, htop, Option.getD_some, decide_eq_true_eq]

theorem verifyProof_getProof {leafHashes : List String} {leafHash : String} (h : leafHash ∈ leafHashes) :
    ∃ proof, getProof lib leafHashes (leafHashes.idxOf leafHash) = some proof ∧
      verifyProof lib leafHash proof (treeRoot lib leafHashes) = true := by
  have hlt := List.idxOf_lt_length_of_mem h
  exact verifyProof_of_get lib (by rw [List.getElem?_eq_getElem hlt, List.getElem_idxOf])

/-! ### Blocks -/

def computeBlockHash (index : ℤ) (timestamp : F) (prevHash merkleRoot : String) (receiptCount : ℤ) (nodeId : String) :
    String :=
  lib.sha256Hash (":".intercalate
    [toString index, lib.text timestamp, prevHash, merkleRoot, toString receiptCount, nodeId])

/-- The digest of a block's own header. -/
def BlockHeader.digest (b : BlockHeader F) : String :=
  computeBlockHash lib b.index b.timestamp b.prevHash b.merkleRoot b.receiptCount b.nodeId

def BlockHeader.verifyIntegrity (b : BlockHeader F) (expectedPrevHash : String) : Bool :=
  if b.prevHash ≠ expectedPrevHash then false else decide (b.digest lib = b.blockHash)

theorem BlockHeader.verifyIntegrity_iff {b : BlockHeader F} {expectedPrevHash : String} :
    b.verifyIntegrity lib expectedPrevHash = true ↔ b.prevHash = expectedPrevHash ∧ b.digest lib = b.blockHash := by
  unfold verifyIntegrity
  split
  · rename_i hne
    exact ⟨fun h => absurd h Bool.false_ne_true, fun h => absurd h.1 hne⟩
  · rename_i heq
    rw [decide_eq_true_eq]
    exact ⟨fun h => ⟨not_not.mp heq, h⟩, fun h => h.2⟩

/-- `LedgerBlock.create`, at some time. -/
def createBlock (t : F) (index : ℤ) (prevHash : String) (receipts : List (ProofOfExecutionReceipt String String F))
    (nodeId : String) : LedgerBlock F :=
  let leafHashes :=
    if receipts = [] then [lib.sha256Hash "EMPTY_BLOCK"] else receipts.map (computeLeafHash lib id id)
  let root := treeRoot lib leafHashes
  { index := index
    timestamp := t
    prevHash := prevHash
    merkleRoot := root
    receiptCount := receipts.length
    nodeId := nodeId
    blockHash := computeBlockHash lib index t prevHash root receipts.length nodeId
    receiptLeafHashes := leafHashes }

end

end ComputeMesh.Chain
