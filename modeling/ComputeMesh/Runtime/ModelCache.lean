import ComputeMesh.Lib.Json
import ComputeMesh.Lib.Run
import ComputeMesh.Lib.Sha256

/-!
# The cache of model shards and its directory

`DistributedModelCache` of `runtime/distributed_model_cache.py`: the manifests in memory, the manifest files and
the chunk files that it writes, and the scan of the directory with which a new cache begins.  A manifest file is
kept as the JSON value of its text.

* `CachedModelShardManifest.toJson` — what `asdict` writes, and `readManifest` — what the scan reads of it;
* `CacheOp.run` — `register_model_shard`, `pin_model_shard` and `remove_model_shard`, with their effects on the
  directory; a call that never returns has no state after it;
* `ModelCache.verifyShardIntegrity` — the checks of a shard against its manifest.
-/

namespace ComputeMesh.Runtime

open ComputeMesh.Sha256

/-- `time.time()`, with its text. -/
structure Timestamp where
  repr : String
  seconds : ℚ
  deriving DecidableEq

structure ModelChunkMetadata where
  chunkIndex : ℤ
  chunkSizeBytes : ℤ
  sha256Hash : String
  storedPath : String := ""
  isAvailableLocally : Bool := false
  deriving DecidableEq

structure CachedModelShardManifest where
  modelId : String
  totalSizeBytes : ℤ
  chunkSizeBytes : ℤ
  totalChunks : ℤ
  sha256Hash : String
  merkleRoot : String := ""
  chunks : List ModelChunkMetadata
  lastAccessed : Timestamp
  isPinned : Bool
  deriving DecidableEq

/-! ### Merkle roots -/

/-- One level above another: the last hash of an odd level is its own neighbour. -/
def nextLevel : List String → List String
  | [] => []
  | [left] => [sha256Hex (left ++ left)]
  | left :: right :: rest => sha256Hex (left ++ right) :: nextLevel rest

theorem length_nextLevel : ∀ hashes : List String, (nextLevel hashes).length = (hashes.length + 1) / 2
  | [] => rfl
  | [_] => by simp [nextLevel]
  | left :: right :: rest => by
    rw [nextLevel, List.length_cons, length_nextLevel rest, List.length_cons, List.length_cons]
    omega

def computeMerkleRoot : List String → String
  | [] => ""
  | [hash] => hash
  | left :: right :: rest => computeMerkleRoot (nextLevel (left :: right :: rest))
termination_by hashes => hashes.length
decreasing_by
  rw [length_nextLevel]
  simp only [List.length_cons]
  omega

/-! ### Manifest files -/

def ModelChunkMetadata.toJson (c : ModelChunkMetadata) : Json :=
  .obj [("chunk_index", .int c.chunkIndex), ("chunk_size_bytes", .int c.chunkSizeBytes),
    ("sha256_hash", .str c.sha256Hash), ("stored_path", .str c.storedPath),
    ("is_available_locally", .bool c.isAvailableLocally)]

/-- `asdict(manifest)`. -/
def CachedModelShardManifest.toJson (m : CachedModelShardManifest) : Json :=
  .obj [("model_id", .str m.modelId), ("total_size_bytes", .int m.totalSizeBytes),
    ("chunk_size_bytes", .int m.chunkSizeBytes), ("total_chunks", .int m.totalChunks),
    ("sha256_hash", .str m.sha256Hash), ("merkle_root", .str m.merkleRoot),
    ("chunks", .arr (m.chunks.map ModelChunkMetadata.toJson)),
    ("last_accessed", .float m.lastAccessed.repr (some m.lastAccessed.seconds)), ("is_pinned", .bool m.isPinned)]

/-- A value as the reader's field type has it.  A value of another type is in no file that the cache wrote. -/
def asStr : Json → Option String
  | .str text => some text
  | _ => none

def asInt : Json → Option ℤ
  | .int n => some n
  | _ => none

def asBool : Json → Option Bool
  | .bool b => some b
  | _ => none

def asTimestamp : Json → Option Timestamp
  | .float repr (some seconds) => some ⟨repr, seconds⟩
  | _ => none

/-- `data[key]`. -/
def field (data : List (String × Json)) (key : String) : Option Json := Dict.find key data

/-- `data.get(key, default)`, read as a field type. -/
def fieldOr {α : Type} (data : List (String × Json)) (key : String) (as : Json → Option α) (default : α) : Option α :=
  match field data key with
  | none => some default
  | some value => as value

/-- `ModelChunkMetadata(**c)`. -/
def readChunk : Json → Option ModelChunkMetadata
  | .obj data =>
    if data.all fun e => decide
        (e.1 ∈ ["chunk_index", "chunk_size_bytes", "sha256_hash", "stored_path", "is_available_locally"]) then do
      let chunkIndex ← (← field data "chunk_index") |> asInt
      let chunkSizeBytes ← (← field data "chunk_size_bytes") |> asInt
      let sha256Hash ← (← field data "sha256_hash") |> asStr
      let storedPath ← fieldOr data "stored_path" asStr ""
      let isAvailableLocally ← fieldOr data "is_available_locally" asBool false
      some { chunkIndex, chunkSizeBytes, sha256Hash, storedPath, isAvailableLocally }
    else none
  | _ => none

def readChunks : Json → Option (List ModelChunkMetadata)
  | .arr items => items.mapM readChunk
  | _ => none

/-- What the scan makes of a manifest file; `none` if it only warns. -/
def readManifest (now : Timestamp) : Json → Option CachedModelShardManifest
  | .obj data => do
    let modelId ← (← field data "model_id") |> asStr
    let chunks ← fieldOr data "chunks" readChunks []
    let totalSizeBytes ← (← field data "total_size_bytes") |> asInt
    let chunkSizeBytes ← (← field data "chunk_size_bytes") |> asInt
    let totalChunks ← (← field data "total_chunks") |> asInt
    let sha256Hash ← (← field data "sha256_hash") |> asStr
    let lastAccessed ← fieldOr data "last_accessed" asTimestamp now
    let isPinned ← fieldOr data "is_pinned" asBool false
    some { modelId, totalSizeBytes, chunkSizeBytes, totalChunks, sha256Hash, chunks, lastAccessed, isPinned }
  | _ => none

/-! ### The cache -/

/-- `DistributedModelCache`. -/
structure ModelCache where
  cacheDir : String
  maxCacheBytes : ℤ
  manifests : Dict String CachedModelShardManifest

/-- The cache directory: manifest files by name, chunk files by path. -/
structure CacheDirectory where
  manifestFiles : Dict String Json
  chunkFiles : Dict String (List UInt8)

/-- `_scan_cache`, over the manifest files in the order that the directory lists them. -/
def scanCache (now : Timestamp) (listing : List (String × Json)) : Dict String CachedModelShardManifest :=
  listing.foldl (fun manifests file =>
    match readManifest now file.2 with
    | none => manifests
    | some manifest => manifests.set manifest.modelId manifest) .empty

def modelSafeName (modelId : String) : String := String.ofList ((sha256Hex modelId).toList.take 16)

def manifestFile (modelId : String) : String := modelSafeName modelId ++ ".manifest.json"

namespace ModelCache

/-- `str(model_sub_dir)`. -/
def modelSubDir (s : ModelCache) (modelId : String) : String := s.cacheDir ++ "/" ++ modelSafeName modelId

/-- `str(chunk_file)`. -/
def chunkFile (s : ModelCache) (modelId : String) (idx : ℤ) : String :=
  s.modelSubDir modelId ++ "/chunk_" ++ toString idx ++ ".bin"

/-- The manifest that `register_model_shard` makes. -/
def newManifest (s : ModelCache) (modelId : String) (totalSizeBytes : ℤ) (chunksData : List (ℤ × List UInt8))
    (sha256Hash : String) (isPinned : Bool) (now : Timestamp) : CachedModelShardManifest :=
  let chunkMetas := chunksData.map fun c =>
    { chunkIndex := c.1, chunkSizeBytes := c.2.length, sha256Hash := hexDigest c.2,
      storedPath := s.chunkFile modelId c.1, isAvailableLocally := true : ModelChunkMetadata }
  { modelId, totalSizeBytes
    chunkSizeBytes := match chunksData with
      | [] => 0
      | c :: _ => c.2.length
    totalChunks := chunksData.length
    sha256Hash := if sha256Hash = "" then hexDigest (chunksData.flatMap Prod.snd) else sha256Hash
    merkleRoot := computeMerkleRoot (chunkMetas.map ModelChunkMetadata.sha256Hash)
    chunks := chunkMetas
    lastAccessed := now
    isPinned }

/-- Whether `_enforce_eviction_policy` has something to evict. -/
def mustEvict (s : ModelCache) : Bool :=
  decide (s.maxCacheBytes < s.manifests.sumBy fun m => m.totalSizeBytes) &&
    s.manifests.values.any fun m => !m.isPinned

end ModelCache

/-- The cache with its directory. -/
structure CacheHost where
  cache : ModelCache
  dir : CacheDirectory

/-- A call of the cache. -/
inductive CacheOp
  | registerModelShard (modelId : String) (totalSizeBytes : ℤ) (chunksData : List (ℤ × List UInt8))
    (sha256Hash : String) (isPinned : Bool) (now : Timestamp)
  | pinModelShard (modelId : String) (pinned : Bool)
  | removeModelShard (modelId : String)

namespace CacheHost

/-- A cache that has just been constructed on an empty directory. -/
def initial (cacheDir : String) (maxCacheBytes : ℤ) : CacheHost := ⟨⟨cacheDir, maxCacheBytes, .empty⟩, ⟨.empty, .empty⟩⟩

/-- A manifest in memory and in its file. -/
def putManifest (h : CacheHost) (modelId : String) (manifest : CachedModelShardManifest) : CacheHost :=
  { cache := { h.cache with manifests := h.cache.manifests.set modelId manifest }
    dir := { h.dir with manifestFiles := h.dir.manifestFiles.set (manifestFile modelId) manifest.toJson } }

/-- `register_model_shard`.  The eviction removes a model under the lock that it already holds. -/
def registerModelShard (h : CacheHost) (modelId : String) (totalSizeBytes : ℤ)
    (chunksData : List (ℤ × List UInt8)) (sha256Hash : String) (isPinned : Bool) (now : Timestamp) :
    Option CacheHost :=
  let manifest := h.cache.newManifest modelId totalSizeBytes chunksData sha256Hash isPinned now
  let chunkFiles := chunksData.foldl (fun files c => files.set (h.cache.chunkFile modelId c.1) c.2) h.dir.chunkFiles
  let h := { h with dir := { h.dir with chunkFiles } }.putManifest modelId manifest
  if h.cache.mustEvict then none else some h

def pinModelShard (h : CacheHost) (modelId : String) (pinned : Bool) : CacheHost :=
  match h.cache.manifests.get? modelId with
  | none => h
  | some manifest => h.putManifest modelId { manifest with isPinned := pinned }

def removeModelShard (h : CacheHost) (modelId : String) : CacheHost :=
  match h.cache.manifests.get? modelId with
  | none => h
  | some _ =>
    { cache := { h.cache with manifests := h.cache.manifests.erase modelId }
      dir :=
        { manifestFiles := h.dir.manifestFiles.erase (manifestFile modelId)
          chunkFiles := h.dir.chunkFiles.filter fun path _ =>
            !(h.cache.modelSubDir modelId ++ "/").toList.isPrefixOf path.toList } }

end CacheHost

/-- The host after a call, or `none` if the call never returns. -/
def CacheOp.run (h : CacheHost) : CacheOp → Option CacheHost
  | .registerModelShard modelId totalSizeBytes chunksData sha256Hash isPinned now =>
    h.registerModelShard modelId totalSizeBytes chunksData sha256Hash isPinned now
  | .pinModelShard modelId pinned => some (h.pinModelShard modelId pinned)
  | .removeModelShard modelId => some (h.removeModelShard modelId)

/-! ### The integrity checks -/

/-- What `verify_shard_integrity` returns, without the time. -/
inductive ShardVerdict
  | notFound
  | checked (valid : Bool) (totalChunks : ℤ) (missingChunks corruptedChunks : List ℤ) (merkleValid : Bool)
  deriving DecidableEq

/-- `verify_shard_integrity`, against the chunk files. -/
def ModelCache.verifyShardIntegrity (s : ModelCache) (chunkFiles : Dict String (List UInt8)) (modelId : String) :
    ShardVerdict :=
  match s.manifests.get? modelId with
  | none => .notFound
  | some manifest =>
    let missingChunks := (manifest.chunks.filter fun c => !chunkFiles.contains c.storedPath).map
      ModelChunkMetadata.chunkIndex
    let corruptedChunks := (manifest.chunks.filter fun c =>
      (chunkFiles.get? c.storedPath).any fun data => decide (hexDigest data ≠ c.sha256Hash)).map
      ModelChunkMetadata.chunkIndex
    let computedMerkleRoot := computeMerkleRoot (manifest.chunks.map ModelChunkMetadata.sha256Hash)
    let merkleValid := decide (manifest.merkleRoot = "") || decide (manifest.merkleRoot = computedMerkleRoot)
    .checked (missingChunks.isEmpty && corruptedChunks.isEmpty && merkleValid) manifest.totalChunks missingChunks
      corruptedChunks merkleValid

/-- A cache in which the chunk list of a manifest has been replaced. -/
def ModelCache.withChunks (s : ModelCache) (modelId : String) (chunks : List ModelChunkMetadata) : ModelCache :=
  match s.manifests.get? modelId with
  | none => s
  | some manifest => { s with manifests := s.manifests.set modelId { manifest with chunks } }

end ComputeMesh.Runtime
