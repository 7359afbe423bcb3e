import ComputeMesh.Lib.Dict
import ComputeMesh.Lib.Run

/-!
# The models loaded into video memory

`DynamicModelCacheManager` of `services/scheduler/model_cache_manager.py`: the loaded models in the order of their
last use, and a budget of bytes for them.

* `CacheManager.evictFor` — the loop that evicts the oldest idle model until a new one fits;
* `CacheManager.requestModel`, `CacheManager.releaseModelInference` — **the two operations.**
-/

namespace ComputeMesh.Scheduler

structure CachedModelMetadata where
  modelId : String
  weightBytes : ℤ
  totalLayers : ℤ
  isPinned : Bool := false

structure LoadedModelEntry where
  modelId : String
  weightBytes : ℤ
  totalLayers : ℤ
  lastAccessedUtc : ℚ
  isPinned : Bool
  activeInferences : ℕ

/-- `DynamicModelCacheManager`; `loadedModels` in the order of the `OrderedDict`. -/
structure CacheManager where
  usableVramBytes : ℤ
  loadedModels : Dict String LoadedModelEntry
  cacheHits : ℕ
  cacheMisses : ℕ
  evictions : ℕ

/-- Why `request_model` raises `ModelCacheError`: the model exceeds the total usable memory, or nothing can be
evicted for it. -/
inductive ModelCacheError
  | exceedsUsableVram
  | cannotLoadModel
  deriving DecidableEq

/-- What `request_model` returns, without the sizes in gigabytes. -/
inductive RequestResult
  | hit
  | loaded (evicted : List String)
  deriving DecidableEq

/-- A model that may be evicted. -/
def LoadedModelEntry.isIdle (m : LoadedModelEntry) : Bool := !m.isPinned && decide (m.activeInferences = 0)

namespace CacheManager

/-- A manager that has just been constructed. -/
def initial (usableVramBytes : ℤ) : CacheManager := ⟨usableVramBytes, .empty, 0, 0, 0⟩

def usedVramBytes (s : CacheManager) : ℤ := s.loadedModels.sumBy fun m => m.weightBytes

def freeVramBytes (s : CacheManager) : ℤ := max 0 (s.usableVramBytes - s.usedVramBytes)

/-- `evict_candidate_id`: the oldest unpinned and idle model.  An empty id counts as none. -/
def evictCandidate (s : CacheManager) : Option String :=
  match s.loadedModels.entries.find? fun e => e.2.isIdle with
  | none => none
  | some e => if e.1 = "" then none else some e.1

/-- `del self.loaded_models[model_id]`, counted. -/
def evict (s : CacheManager) (modelId : String) : CacheManager :=
  { s with loadedModels := s.loadedModels.erase modelId, evictions := s.evictions + 1 }

variable {s : CacheManager} {modelId : String}

theorem mem_of_evictCandidate (h : s.evictCandidate = some modelId) :
    ∃ m, (modelId, m) ∈ s.loadedModels.entries ∧ m.isIdle = true := by
  rw [evictCandidate] at h
  split at h
  · cases h
  · rename_i e he
    split at h
    · cases h
    · obtain rfl := Option.some.inj h
      exact ⟨e.2, List.mem_of_find?_eq_some he, by simpa using List.find?_some he⟩

theorem length_evict_lt (h : s.evictCandidate = some modelId) :
    (s.evict modelId).loadedModels.entries.length < s.loadedModels.entries.length := by
  obtain ⟨m, hm, -⟩ := mem_of_evictCandidate h
  exact List.length_filter_lt_length_iff_exists.mpr ⟨(modelId, m), hm, by simp⟩

/-- The loop of `request_model`: whether the model fits in the end, with what has been evicted for it. -/
def evictFor (weightBytes : ℤ) (s : CacheManager) (evicted : List String) : Bool × List String × CacheManager :=
  if s.freeVramBytes < weightBytes then
    match _h : s.evictCandidate with
    | none => (false, evicted, s)
    | some modelId => evictFor weightBytes (s.evict modelId) (evicted ++ [modelId])
  else (true, evicted, s)
termination_by s.loadedModels.entries.length
decreasing_by exact length_evict_lt ‹_›

variable {weightBytes : ℤ}

theorem evictFor_of_free (h : ¬s.freeVramBytes < weightBytes)
    (evicted : List String) : evictFor weightBytes s evicted = (true, evicted, s) := by
  rw [evictFor, if_neg h]

theorem evictFor_of_none (h : s.freeVramBytes < weightBytes)
    (hnone : s.evictCandidate = none) (evicted : List String) :
    evictFor weightBytes s evicted = (false, evicted, s) := by
  rw [evictFor, if_pos h]
  split
  · rfl
  · simp_all

theorem evictFor_of_some (h : s.freeVramBytes < weightBytes)
    (hsome : s.evictCandidate = some modelId) (evicted : List String) :
    evictFor weightBytes s evicted = evictFor weightBytes (s.evict modelId) (evicted ++ [modelId]) := by
  rw [evictFor, if_pos h]
  split <;> simp_all

/-- The induction of the loop: nothing can be evicted, it goes on after one eviction, or the model fits. -/
@[elab_as_elim]
theorem evictFor_induction (weightBytes : ℤ) {motive : CacheManager → List String → Prop}
    (stuck : ∀ s evicted, s.freeVramBytes < weightBytes → s.evictCandidate = none → motive s evicted)
    (evicts : ∀ s evicted, s.freeVramBytes < weightBytes → ∀ modelId, s.evictCandidate = some modelId →
      motive (s.evict modelId) (evicted ++ [modelId]) → motive s evicted)
    (fits : ∀ s evicted, ¬s.freeVramBytes < weightBytes → motive s evicted) (s : CacheManager) (evicted : List String) :
    motive s evicted :=
  evictFor.induct weightBytes motive stuck evicts fits s evicted

def requestModel (s : CacheManager) (model : CachedModelMetadata) (now : ℚ) :
    Except ModelCacheError RequestResult × CacheManager :=
  if s.usableVramBytes < model.weightBytes then (.error .exceedsUsableVram, s)
  else
    match s.loadedModels.get? model.modelId with
    | some entry =>
      let entry := { entry with lastAccessedUtc := now, activeInferences := entry.activeInferences + 1 }
      (.ok .hit, { s with
        loadedModels := (s.loadedModels.erase model.modelId).set model.modelId entry
        cacheHits := s.cacheHits + 1 })
    | none =>
      match evictFor model.weightBytes { s with cacheMisses := s.cacheMisses + 1 } [] with
      | (false, _, s) => (.error .cannotLoadModel, s)
      | (true, evicted, s) =>
        (.ok (.loaded evicted), { s with
          loadedModels := s.loadedModels.set model.modelId
            ⟨model.modelId, model.weightBytes, model.totalLayers, now, model.isPinned, 1⟩ })

def releaseModelInference (s : CacheManager) (modelId : String) : CacheManager :=
  match s.loadedModels.get? modelId with
  | none => s
  | some entry =>
    { s with
      loadedModels := s.loadedModels.set modelId { entry with activeInferences := entry.activeInferences - 1 } }

end CacheManager

/-- An operation of the manager. -/
inductive CacheManagerOp
  | requestModel (model : CachedModelMetadata) (now : ℚ)
  | releaseModelInference (modelId : String)

/-- The manager after an operation. -/
def CacheManagerOp.run (s : CacheManager) : CacheManagerOp → CacheManager
  | .requestModel model now => (s.requestModel model now).2
  | .releaseModelInference modelId => s.releaseModelInference modelId

end ComputeMesh.Scheduler
