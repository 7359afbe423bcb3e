import ComputeMesh.Runtime.ModelCache

/-!
# The lock of the model cache

`DistributedModelCache` guards its manifests with a lock that its own thread cannot take twice, and removes models with
the public method, which takes that lock.  A call that waits for a lock of its own thread never returns: `none`.

* `withLock` — a block under the lock, and the methods as they take it;
* `cache_calls_return_iff` — **when the calls return**: there is nothing to evict, and nothing to clear.
-/

namespace ComputeMesh.Runtime.CacheHost

/-- `with self._lock:`, of a thread that holds the lock or does not. -/
def withLock (held : Bool) (body : Option CacheHost) : Option CacheHost := if held = true then none else body

/-- `remove_model_shard`. -/
def removeLocked (held : Bool) (h : CacheHost) (modelId : String) : Option CacheHost :=
  withLock held (some (h.removeModelShard modelId))

def totalBytes (h : CacheHost) : ℤ := h.cache.manifests.sumBy fun m => m.totalSizeBytes

/-- The unpinned manifests, the one that has been accessed longest ago first. -/
def sortedManifests (h : CacheHost) : List CachedModelShardManifest :=
  (h.cache.manifests.values.filter fun m => !m.isPinned).insertionSort
    fun a b => a.lastAccessed.seconds ≤ b.lastAccessed.seconds

/-- The loop of `_enforce_eviction_policy`. -/
def evictFrom (held : Bool) (h : CacheHost) (totalBytes : ℤ) : List CachedModelShardManifest → Option CacheHost
  | [] => some h
  | m :: rest =>
    if totalBytes ≤ h.cache.maxCacheBytes then some h
    else (removeLocked held h m.modelId).bind fun h => evictFrom held h (totalBytes - m.totalSizeBytes) rest

def enforceEvictionPolicy (held : Bool) (h : CacheHost) : Option CacheHost :=
  if h.totalBytes ≤ h.cache.maxCacheBytes then some h else evictFrom held h h.totalBytes h.sortedManifests

/-- A manifest with its files, before the eviction. -/
def addManifest (h : CacheHost) (modelId : String) (totalSizeBytes : ℤ) (chunksData : List (ℤ × List UInt8))
    (sha256Hash : String) (isPinned : Bool) (now : Timestamp) : CacheHost :=
  let chunkFiles := chunksData.foldl (fun files c => files.set (h.cache.chunkFile modelId c.1) c.2) h.dir.chunkFiles
  { h with dir := { h.dir with chunkFiles } }.putManifest modelId
    (h.cache.newManifest modelId totalSizeBytes chunksData sha256Hash isPinned now)

/-- `register_model_shard`. -/
def registerLocked (h : CacheHost) (modelId : String) (totalSizeBytes : ℤ) (chunksData : List (ℤ × List UInt8))
    (sha256Hash : String) (isPinned : Bool) (now : Timestamp) : Option CacheHost :=
  withLock false (enforceEvictionPolicy true
    (h.addManifest modelId totalSizeBytes chunksData sha256Hash isPinned now))

def clearAll (h : CacheHost) : Option CacheHost :=
  withLock false ((h.cache.manifests.entries.map Prod.fst).foldlM (removeLocked true) h)

/-- What is asked of a registration: it returns, within the limit or with pinned manifests only, and no pinned manifest
has been removed. -/
def Evicted (added : CacheHost) (after : Option CacheHost) : Prop :=
  ∃ h, after = some h ∧ (h.totalBytes ≤ h.cache.maxCacheBytes ∨ ∀ m ∈ h.cache.manifests.values, m.isPinned = true) ∧
    ∀ modelId m, added.cache.manifests.get? modelId = some m → m.isPinned = true →
      h.cache.manifests.get? modelId = some m

/-! ### The eviction -/

/-- **The eviction under the lock** returns only if it has nothing to evict. -/
theorem enforceEvictionPolicy_held (h : CacheHost) :
    enforceEvictionPolicy true h = if h.cache.mustEvict = true then none else some h := by
  have hany : (h.cache.manifests.values.any fun m => !m.isPinned) = !h.sortedManifests.isEmpty := by
    rw [sortedManifests, Bool.eq_iff_iff, Bool.not_eq_true', List.isEmpty_eq_false_iff, ← List.length_pos_iff,
      List.length_insertionSort, List.length_pos_iff]
    simp
  have hmust : h.cache.mustEvict = (decide (h.cache.maxCacheBytes < h.totalBytes) && !h.sortedManifests.isEmpty) := by
    rw [ModelCache.mustEvict, hany]
    rfl
  rw [enforceEvictionPolicy, hmust]
  by_cases hfits : h.totalBytes ≤ h.cache.maxCacheBytes
  · simp [hfits, not_lt.mpr hfits]
  · cases hsorted : h.sortedManifests with
    | nil => simp [evictFrom]
    | cons m rest => simp [evictFrom, hfits, not_le.mp hfits, removeLocked, withLock]

theorem mustEvict_eq_false_iff (h : CacheHost) : h.cache.mustEvict = false ↔
    h.totalBytes ≤ h.cache.maxCacheBytes ∨ ∀ m ∈ h.cache.manifests.values, m.isPinned = true := by
  rw [ModelCache.mustEvict, Bool.and_eq_false_iff, decide_eq_false_iff_not, not_lt, List.any_eq_false, totalBytes]
  simp

theorem evicted_iff (h : CacheHost) : Evicted h (enforceEvictionPolicy true h) ↔
    h.totalBytes ≤ h.cache.maxCacheBytes ∨ ∀ m ∈ h.cache.manifests.values, m.isPinned = true := by
  rw [enforceEvictionPolicy_held, ← mustEvict_eq_false_iff]
  cases hevict : h.cache.mustEvict with
  | true => simp [Evicted]
  | false =>
    have hbound := (mustEvict_eq_false_iff h).mp hevict
    exact ⟨fun _ => rfl, fun _ => ⟨h, rfl, hbound, fun _ _ hget _ => hget⟩⟩

/-- **When the calls return**: nothing that is registered makes something else be evicted, and nothing is cleared. -/
theorem cache_calls_return_iff (h : CacheHost) (modelId : String) (totalSizeBytes : ℤ)
    (chunksData : List (ℤ × List UInt8)) (sha256Hash : String) (isPinned : Bool) (now : Timestamp) :
    (Evicted (h.addManifest modelId totalSizeBytes chunksData sha256Hash isPinned now)
        (h.registerLocked modelId totalSizeBytes chunksData sha256Hash isPinned now) ↔
      (h.addManifest modelId totalSizeBytes chunksData sha256Hash isPinned now).totalBytes ≤ h.cache.maxCacheBytes ∨
        ∀ m ∈ (h.addManifest modelId totalSizeBytes chunksData sha256Hash isPinned now).cache.manifests.values,
          m.isPinned = true) ∧
    (h.clearAll.isSome = true ↔ h.cache.manifests.entries = []) := by
  refine ⟨evicted_iff _, ?_⟩
  cases hentries : h.cache.manifests.entries with
  | nil => simp [clearAll, withLock, hentries]
  | cons e rest => simp [clearAll, withLock, hentries, removeLocked]

/-- A model of one byte in a cache that may hold none: the registration waits for its own lock. -/
theorem registration_waits : ¬∀ (h : CacheHost) (modelId : String) (totalSizeBytes : ℤ)
    (chunksData : List (ℤ × List UInt8)) (sha256Hash : String) (isPinned : Bool) (now : Timestamp),
    Evicted (h.addManifest modelId totalSizeBytes chunksData sha256Hash isPinned now)
      (h.registerLocked modelId totalSizeBytes chunksData sha256Hash isPinned now) ∧ h.clearAll.isSome = true := by
  intro hall
  have hone := (evicted_iff _).mp (hall (initial "cache" 0) "model" 1 [] "hash" false ⟨"0.0", 0⟩).1
  rcases hone with hfits | hpinned
  · exact absurd hfits (by decide)
  · exact absurd (hpinned _ (List.mem_singleton_self _)) Bool.false_ne_true

end ComputeMesh.Runtime.CacheHost
