import ComputeMesh.Scheduler.ModelCacheManager

/-!
# What evictions leave behind

The loop evicts before it knows whether enough can be evicted.  It stays within the budget and takes idle models
only; a request that fails has changed nothing exactly if there was nothing to evict.

* `evictable` — what the loop can take, in its order;
* `evictFor_fits_iff` — when the loop makes room, and `evictFor_eq_iff` — when it fails without an eviction;
* `clean_iff_canFree` — **a step is clean exactly if enough can be freed or nothing can**, over whole runs;
* `failed_request_evicts` — a request that raises and has evicted a model.
-/

namespace ComputeMesh.Scheduler

open CacheManager Dict

/-- The models that the loop can evict, in its order. -/
def evictable (s : CacheManager) : List (String × LoadedModelEntry) :=
  (s.loadedModels.entries.filter fun e => e.2.isIdle).takeWhile fun e => decide (e.1 ≠ "")

def evictableBytes (s : CacheManager) : ℤ := ((evictable s).map fun e => e.2.weightBytes).sum

/-- The budget is kept, and no weight is negative. -/
structure Sound (s : CacheManager) : Prop where
  used_le : s.usedVramBytes ≤ s.usableVramBytes
  weight_nonneg : ∀ m ∈ s.loadedModels.values, 0 ≤ m.weightBytes

/-- What is asked of an operation: the budget is kept, a model that is pinned or in use stays loaded, and a request
that raises leaves the loaded models as they were. -/
structure CleanStep (s : CacheManager) (op : CacheManagerOp) : Prop where
  used_le : (op.run s).usedVramBytes ≤ (op.run s).usableVramBytes
  kept : ∀ modelId m, s.loadedModels.get? modelId = some m → m.isIdle = false →
    (op.run s).loadedModels.contains modelId = true
  unchanged : ∀ model now e, op = .requestModel model now → (s.requestModel model now).1 = .error e →
    (s.requestModel model now).2.loadedModels = s.loadedModels

/-- If a request has to evict, then what can be evicted is enough, or nothing can be. -/
def CanFree (s : CacheManager) : CacheManagerOp → Prop
  | .requestModel model _ =>
    s.loadedModels.contains model.modelId = true ∨ s.usableVramBytes < model.weightBytes ∨ evictable s = [] ∨
      s.usedVramBytes - evictableBytes s + model.weightBytes ≤ s.usableVramBytes
  | .releaseModelInference _ => True

/-- The weight that a request brings is not negative. -/
def WeightNonneg : CacheManagerOp → Prop
  | .requestModel model _ => 0 ≤ model.weightBytes
  | .releaseModelInference _ => True

/-! ### One eviction -/

section

variable {s : CacheManager}

theorem evictable_of_none (h : s.evictCandidate = none) : evictable s = [] := by
  rw [evictCandidate, ← List.head?_filter] at h
  rw [evictable]
  cases hidle : s.loadedModels.entries.filter fun e => e.2.isIdle with
  | nil => rfl
  | cons e rest =>
    rw [hidle] at h
    by_cases hempty : e.1 = ""
    · simp [hempty]
    · simp [hempty] at h

/-- **One eviction takes the first of what can be evicted.** -/
theorem evictable_of_some {modelId : String} (h : s.evictCandidate = some modelId) :
    ∃ m, s.loadedModels.get? modelId = some m ∧ m.isIdle = true ∧
      evictable s = (modelId, m) :: evictable (s.evict modelId) := by
  rw [evictCandidate, ← List.head?_filter] at h
  cases hidle : s.loadedModels.entries.filter fun e => e.2.isIdle with
  | nil =>
    rw [hidle] at h
    cases h
  | cons e rest =>
    obtain ⟨id, m⟩ := e
    rw [hidle] at h
    by_cases hempty : id = ""
    · simp [hempty] at h
    · obtain rfl : id = modelId := by simpa [hempty] using h
      have hmem : (id, m) ∈ s.loadedModels.entries.filter fun e => e.2.isIdle := hidle ▸ List.mem_cons_self
      have hnodup : (((id, m) :: rest).map Prod.fst).Nodup :=
        hidle ▸ s.loadedModels.nodupKeys.sublist (List.filter_sublist.map Prod.fst)
      have hrest : (s.evict id).loadedModels.entries.filter (fun e => e.2.isIdle) = rest := by
        show (s.loadedModels.entries.filter fun e => decide (e.1 ≠ id)).filter (fun e => e.2.isIdle) = rest
        rw [List.filter_comm, hidle, List.filter_cons_of_neg (by simp), List.filter_eq_self]
        intro e he
        refine decide_eq_true fun heq => ?_
        rw [List.map_cons, List.nodup_cons] at hnodup
        exact hnodup.1 (List.mem_map.mpr ⟨e, he, heq⟩)
      refine ⟨m, (s.loadedModels.mem_entries_iff id m).mp (List.mem_filter.mp hmem).1, (List.mem_filter.mp hmem).2, ?_⟩
      rw [evictable, hidle, evictable, hrest, List.takeWhile_cons_of_pos (by simpa using hempty)]

theorem usedVramBytes_evict {modelId : String} {m : LoadedModelEntry} (h : s.loadedModels.get? modelId = some m) :
    (s.evict modelId).usedVramBytes = s.usedVramBytes - m.weightBytes := by
  rw [usedVramBytes, evict, sumBy_erase, h]
  rfl

theorem mem_values_evict {modelId : String} {m : LoadedModelEntry}
    (h : m ∈ (s.evict modelId).loadedModels.values) : m ∈ s.loadedModels.values := by
  obtain ⟨id, hget⟩ := (mem_values_iff _ m).mp h
  rw [evict] at hget
  obtain ⟨-, hget⟩ := get?_erase_eq_some.mp hget
  exact mem_values_of_get? hget

theorem Sound.evict (hs : Sound s) {modelId : String}
    (h : s.evictCandidate = some modelId) : Sound (s.evict modelId) := by
  obtain ⟨m, hget, -, -⟩ := evictable_of_some h
  have hweight := hs.weight_nonneg m (mem_values_of_get? hget)
  have hused := usedVramBytes_evict hget
  have hle := hs.used_le
  refine ⟨?_, fun m' hm' => hs.weight_nonneg m' (mem_values_evict hm')⟩
  show (s.evict modelId).usedVramBytes ≤ s.usableVramBytes
  omega

theorem evictableBytes_nonneg (hs : Sound s) : 0 ≤ evictableBytes s := by
  apply List.sum_nonneg
  intro x hx
  obtain ⟨e, he, rfl⟩ := List.mem_map.mp hx
  have hmem : e ∈ s.loadedModels.entries :=
    (List.mem_filter.mp ((List.takeWhile_sublist _).subset he)).1
  exact hs.weight_nonneg e.2 (List.mem_map.mpr ⟨e, hmem, rfl⟩)

end

/-! ### The loop -/

section

variable {weight : ℤ} {s : CacheManager} {evicted : List String}

/-- What the loop ends in has room for the weight, if it says so. -/
theorem evictFor_room
    (h : (evictFor weight s evicted).1 = true) : weight ≤ (evictFor weight s evicted).2.2.freeVramBytes := by
  induction s, evicted using evictFor_induction weight with
  | stuck s evicted hfull hnone =>
    rw [evictFor_of_none hfull hnone] at h
    cases h
  | evicts s evicted hfull modelId hsome ih =>
    rw [evictFor_of_some hfull hsome] at h ⊢
    exact ih h
  | fits s evicted hfree =>
    rw [evictFor_of_free hfree]
    exact not_lt.mp hfree

theorem evictFor_sound (hs : Sound s) : Sound (evictFor weight s evicted).2.2 := by
  induction s, evicted using evictFor_induction weight with
  | stuck s evicted hfull hnone =>
    rw [evictFor_of_none hfull hnone]
    exact hs
  | evicts s evicted hfull modelId hsome ih =>
    rw [evictFor_of_some hfull hsome]
    exact ih (hs.evict hsome)
  | fits s evicted hfree =>
    rw [evictFor_of_free hfree]
    exact hs

theorem get?_of_get?_evictFor {modelId : String}
    {m : LoadedModelEntry} (h : (evictFor weight s evicted).2.2.loadedModels.get? modelId = some m) :
    s.loadedModels.get? modelId = some m := by
  induction s, evicted using evictFor_induction weight with
  | stuck s evicted hfull hnone =>
    rw [evictFor_of_none hfull hnone] at h
    exact h
  | evicts s evicted hfull candidate hsome ih =>
    rw [evictFor_of_some hfull hsome] at h
    have hevicted := ih h
    rw [evict] at hevicted
    obtain ⟨-, hevicted⟩ := get?_erase_eq_some.mp hevicted
    exact hevicted
  | fits s evicted hfree =>
    rw [evictFor_of_free hfree] at h
    exact h

theorem get?_evictFor {modelId : String}
    {m : LoadedModelEntry} (h : s.loadedModels.get? modelId = some m) (hbusy : m.isIdle = false) :
    (evictFor weight s evicted).2.2.loadedModels.get? modelId = some m := by
  induction s, evicted using evictFor_induction weight with
  | stuck s evicted hfull hnone =>
    rw [evictFor_of_none hfull hnone]
    exact h
  | evicts s evicted hfull candidate hsome ih =>
    rw [evictFor_of_some hfull hsome]
    obtain ⟨m', hget, hidle, -⟩ := evictable_of_some hsome
    have hne : modelId ≠ candidate := by
      rintro rfl
      rw [h] at hget
      rw [Option.some.inj hget, hidle] at hbusy
      cases hbusy
    exact ih ((get?_erase_of_ne _ hne).trans h)
  | fits s evicted hfree =>
    rw [evictFor_of_free hfree]
    exact h

/-- **When the loop makes room.** -/
theorem evictFor_fits_iff (hs : Sound s) : (evictFor weight s evicted).1 = true ↔
      weight ≤ s.freeVramBytes ∨ s.usedVramBytes - evictableBytes s + weight ≤ s.usableVramBytes := by
  induction s, evicted using evictFor_induction weight with
  | stuck s evicted hfull hnone =>
    have hbytes : evictableBytes s = 0 := by
      rw [evictableBytes, evictable_of_none hnone]
      rfl
    rw [evictFor_of_none hfull hnone, hbytes]
    rw [freeVramBytes] at hfull ⊢
    simp only [Bool.false_eq_true, false_iff]
    omega
  | evicts s evicted hfull modelId hsome ih =>
    rw [evictFor_of_some hfull hsome, ih (hs.evict hsome)]
    obtain ⟨m, hget, -, hcons⟩ := evictable_of_some hsome
    have hused := usedVramBytes_evict hget
    have hnonneg := evictableBytes_nonneg (hs.evict hsome)
    have hbytes : evictableBytes s = m.weightBytes + evictableBytes (s.evict modelId) := by
      rw [evictableBytes, hcons]
      rfl
    have husable : (s.evict modelId).usableVramBytes = s.usableVramBytes := rfl
    rw [freeVramBytes] at hfull ⊢
    rw [freeVramBytes]
    omega
  | fits s evicted hfree =>
    rw [evictFor_of_free hfree]
    exact ⟨fun _ => .inl (not_lt.mp hfree), fun _ => rfl⟩

/-- **When the loop fails without an eviction.** -/
theorem evictFor_eq_iff (h : (evictFor weight s evicted).1 = false) :
    (evictFor weight s evicted).2.2.loadedModels = s.loadedModels ↔ evictable s = [] := by
  by_cases hfull : s.freeVramBytes < weight
  · cases hsome : s.evictCandidate with
    | none =>
      rw [evictFor_of_none hfull hsome]
      exact ⟨fun _ => evictable_of_none hsome, fun _ => rfl⟩
    | some modelId =>
      obtain ⟨m, hget, -, hcons⟩ := evictable_of_some hsome
      rw [hcons, evictFor_of_some hfull hsome]
      refine ⟨fun heq => ?_, fun hnil => by cases hnil⟩
      rw [← heq] at hget
      have hgone := get?_of_get?_evictFor hget
      rw [evict, get?_erase_self] at hgone
      cases hgone
  · rw [evictFor_of_free hfull] at h
    cases h

end

/-! ### The operations -/

/-- **What a request can do.** -/
theorem requestModel_cases (s : CacheManager) (model : CachedModelMetadata) (now : ℚ) :
    (s.usableVramBytes < model.weightBytes ∧ s.requestModel model now = (.error .exceedsUsableVram, s)) ∨
    (¬s.usableVramBytes < model.weightBytes ∧ ∃ entry, s.loadedModels.get? model.modelId = some entry ∧
      s.requestModel model now = (.ok .hit, { s with
        loadedModels := (s.loadedModels.erase model.modelId).set model.modelId
          { entry with lastAccessedUtc := now, activeInferences := entry.activeInferences + 1 }
        cacheHits := s.cacheHits + 1 })) ∨
    (¬s.usableVramBytes < model.weightBytes ∧ s.loadedModels.get? model.modelId = none ∧ ∃ evicted s',
      evictFor model.weightBytes { s with cacheMisses := s.cacheMisses + 1 } [] = (false, evicted, s') ∧
      s.requestModel model now = (.error .cannotLoadModel, s')) ∨
    (¬s.usableVramBytes < model.weightBytes ∧ s.loadedModels.get? model.modelId = none ∧ ∃ evicted s',
      evictFor model.weightBytes { s with cacheMisses := s.cacheMisses + 1 } [] = (true, evicted, s') ∧
      s.requestModel model now = (.ok (.loaded evicted), { s' with
        loadedModels := s'.loadedModels.set model.modelId
          ⟨model.modelId, model.weightBytes, model.totalLayers, now, model.isPinned, 1⟩ })) := by
  by_cases hweight : s.usableVramBytes < model.weightBytes
  · exact .inl ⟨hweight, by rw [requestModel, if_pos hweight]⟩
  · cases hget : s.loadedModels.get? model.modelId with
    | some entry => exact .inr (.inl ⟨hweight, entry, rfl, by simp only [requestModel, if_neg hweight, hget]⟩)
    | none =>
      rcases hloop : evictFor model.weightBytes { s with cacheMisses := s.cacheMisses + 1 } [] with
        ⟨fits, evicted, s'⟩
      cases fits with
      | false =>
        exact .inr (.inr (.inl ⟨hweight, rfl, evicted, s', rfl, by simp only [requestModel, if_neg hweight, hget, hloop]⟩))
      | true =>
        exact .inr (.inr (.inr ⟨hweight, rfl, evicted, s', rfl, by simp only [requestModel, if_neg hweight, hget, hloop]⟩))

theorem sound_set {s s' : CacheManager} (hs : Sound s) {modelId : String} {m m' : LoadedModelEntry}
    (hget : s.loadedModels.get? modelId = some m)
    (hvalues : ∀ x ∈ s'.loadedModels.values, x = m' ∨ x ∈ s.loadedModels.values)
    (hweight : m'.weightBytes = m.weightBytes) (husable : s'.usableVramBytes = s.usableVramBytes)
    (hused : s'.usedVramBytes = s.usedVramBytes) : Sound s' where
  used_le := by rw [hused, husable]; exact hs.used_le
  weight_nonneg := by
    intro x hx
    rcases hvalues x hx with rfl | hold
    · exact hweight ▸ hs.weight_nonneg m (mem_values_of_get? hget)
    · exact hs.weight_nonneg x hold

theorem sound_releaseModelInference {s : CacheManager} (hs : Sound s) (modelId : String) :
    Sound (s.releaseModelInference modelId) := by
  rw [releaseModelInference]
  cases hget : s.loadedModels.get? modelId with
  | none => exact hs
  | some entry =>
    refine sound_set hs hget (fun x hx => mem_values_set hx) rfl rfl ?_
    rw [usedVramBytes, sumBy_set, hget]
    exact add_sub_cancel_right _ _

/-- **The step lemma.** -/
theorem sound_run {s : CacheManager} (hs : Sound s) (op : CacheManagerOp) (hop : WeightNonneg op) :
    Sound (op.run s) := by
  cases op with
  | releaseModelInference modelId => exact sound_releaseModelInference hs modelId
  | requestModel model now =>
    have hmiss : Sound { s with cacheMisses := s.cacheMisses + 1 } := ⟨hs.used_le, hs.weight_nonneg⟩
    rw [CacheManagerOp.run]
    rcases requestModel_cases s model now with ⟨-, heq⟩ | ⟨-, entry, hget, heq⟩ | ⟨-, -, evicted, s', hloop, heq⟩ |
      ⟨-, hget, evicted, s', hloop, heq⟩
    · rw [heq]
      exact hs
    · rw [heq]
      refine sound_set hs hget (fun x hx => (mem_values_set hx).imp_right mem_values_evict) rfl rfl ?_
      rw [usedVramBytes, sumBy_set, get?_erase_self, sumBy_erase, hget, usedVramBytes]
      simp
    · rw [heq]
      have hsound : Sound (evictFor model.weightBytes { s with cacheMisses := s.cacheMisses + 1 } []).2.2 :=
        evictFor_sound hmiss
      rw [hloop] at hsound
      exact hsound
    · rw [heq]
      have hsound : Sound (evictFor model.weightBytes { s with cacheMisses := s.cacheMisses + 1 } []).2.2 :=
        evictFor_sound hmiss
      have hroom : model.weightBytes ≤ _ := evictFor_room (congrArg Prod.fst hloop)
      have hgone : s'.loadedModels.get? model.modelId = none := by
        cases hnew : s'.loadedModels.get? model.modelId with
        | none => rfl
        | some m =>
          have hold : s.loadedModels.get? model.modelId = some m :=
            get?_of_get?_evictFor (s := { s with cacheMisses := s.cacheMisses + 1 }) (by rw [hloop]; exact hnew)
          rw [hget] at hold
          cases hold
      rw [hloop] at hsound hroom
      have hle := hsound.used_le
      refine ⟨?_, fun x hx => ?_⟩
      · show (s'.loadedModels.set model.modelId _).sumBy (fun m => m.weightBytes) ≤ s'.usableVramBytes
        rw [sumBy_set, hgone]
        rw [freeVramBytes] at hroom
        rw [usedVramBytes] at hle hroom
        simp only [Option.map_none, Option.getD_none] at hle hroom ⊢
        omega
      · rcases mem_values_set hx with rfl | hold
        · exact hop
        · exact hsound.weight_nonneg x hold

theorem contains_run {s : CacheManager} {modelId : String} {m : LoadedModelEntry}
    (h : s.loadedModels.get? modelId = some m) (hbusy : m.isIdle = false) (op : CacheManagerOp) :
    (op.run s).loadedModels.contains modelId = true := by
  have hold : s.loadedModels.contains modelId = true := by rw [contains, h]; rfl
  have hset : ∀ (d : Dict String LoadedModelEntry) (id : String) (x : LoadedModelEntry),
      (modelId ≠ id → d.get? modelId = some m) → (d.set id x).contains modelId = true := by
    intro d id x hd
    rw [contains, get?_set]
    split
    · rfl
    · rw [hd ‹_›]
      rfl
  cases op with
  | releaseModelInference id =>
    rw [CacheManagerOp.run, releaseModelInference]
    cases s.loadedModels.get? id with
    | none => exact hold
    | some entry => exact hset _ _ _ fun _ => h
  | requestModel model now =>
    have hloaded : (evictFor model.weightBytes { s with cacheMisses := s.cacheMisses + 1 } []).2.2.loadedModels.get?
        modelId = some m := get?_evictFor h hbusy
    rw [CacheManagerOp.run]
    rcases requestModel_cases s model now with ⟨-, heq⟩ | ⟨-, entry, -, heq⟩ | ⟨-, -, evicted, s', hloop, heq⟩ |
      ⟨-, -, evicted, s', hloop, heq⟩
    · rw [heq]
      exact hold
    · rw [heq]
      exact hset _ _ _ fun hne => (get?_erase_of_ne _ hne).trans h
    · rw [hloop] at hloaded
      rw [heq, contains, hloaded]
      rfl
    · rw [hloop] at hloaded
      rw [heq]
      exact hset _ _ _ fun _ => hloaded

/-- **A step is clean exactly if enough can be freed for it, or nothing can.** -/
theorem cleanStep_iff {s : CacheManager} (hs : Sound s) (op : CacheManagerOp) (hop : WeightNonneg op) :
    CleanStep s op ↔ CanFree s op := by
  have hused := (sound_run hs op hop).used_le
  have hkept : ∀ modelId m, s.loadedModels.get? modelId = some m → m.isIdle = false →
      (op.run s).loadedModels.contains modelId = true := fun modelId m h hbusy => contains_run h hbusy op
  cases op with
  | releaseModelInference modelId =>
    exact ⟨fun _ => trivial, fun _ => ⟨hused, hkept, fun model now e heq => by cases heq⟩⟩
  | requestModel model now =>
    have hclean : (∀ e, (s.requestModel model now).1 = .error e →
        (s.requestModel model now).2.loadedModels = s.loadedModels) →
        CleanStep s (.requestModel model now) := by
      intro hsame
      refine ⟨hused, hkept, fun model' now' e heq herror => ?_⟩
      cases heq
      exact hsame e herror
    have hfits : (evictFor model.weightBytes { s with cacheMisses := s.cacheMisses + 1 } []).1 = true ↔
        model.weightBytes ≤ s.freeVramBytes ∨
          s.usedVramBytes - evictableBytes s + model.weightBytes ≤ s.usableVramBytes :=
      evictFor_fits_iff ⟨hs.used_le, hs.weight_nonneg⟩
    rcases requestModel_cases s model now with ⟨hlarge, heq⟩ | ⟨-, entry, hget, heq⟩ |
      ⟨hweight, hget, evicted, s', hloop, heq⟩ | ⟨-, -, evicted, s', hloop, heq⟩
    · refine ⟨fun _ => .inr (.inl hlarge), fun _ => hclean fun e _ => ?_⟩
      rw [heq]
    · refine ⟨fun _ => .inl (by rw [contains, hget]; rfl), fun _ => hclean fun e herror => ?_⟩
      rw [heq] at herror
      cases herror
    · have hsame : (evictFor model.weightBytes { s with cacheMisses := s.cacheMisses + 1 } []).2.2.loadedModels =
          s.loadedModels ↔ evictable s = [] := evictFor_eq_iff (congrArg Prod.fst hloop)
      rw [hloop] at hfits hsame
      constructor
      · intro hc
        have hunchanged := hc.unchanged model now .cannotLoadModel rfl (congrArg Prod.fst heq)
        rw [heq] at hunchanged
        exact .inr (.inr (.inl (hsame.mp hunchanged)))
      · rintro (hin | hlarge | hnil | hroom)
        · rw [contains, hget] at hin
          cases hin
        · exact absurd hlarge hweight
        · refine hclean fun e _ => ?_
          rw [heq]
          exact hsame.mpr hnil
        · exact Bool.noConfusion (hfits.mpr (.inr hroom))
    · rw [hloop] at hfits
      have hbytes := evictableBytes_nonneg hs
      have hle := hs.used_le
      have hweight : 0 ≤ model.weightBytes := hop
      refine ⟨fun _ => .inr (.inr (.inr ?_)), fun _ => hclean fun e herror => ?_⟩
      · have hroom := hfits.mp rfl
        rw [freeVramBytes] at hroom
        omega
      · rw [heq] at herror
        cases herror

/-! ### Runs -/

/-- **Clean runs.**  In a run whose requests bring no negative weights, every step is clean if and only if every
request that has to evict could free enough, or could evict nothing. -/
theorem clean_iff_canFree {usableVramBytes : ℤ} (husable : 0 ≤ usableVramBytes) {ops : List CacheManagerOp}
    (hops : ∀ op ∈ ops, WeightNonneg op) :
    Run.Along CacheManagerOp.run CleanStep (initial usableVramBytes) ops ↔
      Run.Along CacheManagerOp.run CanFree (initial usableVramBytes) ops := by
  refine Run.along_iff_along Sound (fun s op hs hop _ => sound_run hs op hop)
    (fun s op hs hop => cleanStep_iff hs op hop) ⟨husable, ?_⟩ hops
  intro m hm
  cases hm

/-- Two models that fit one after the other. -/
theorem clean_run_of_two_models :
    Run.Along CacheManagerOp.run CleanStep (initial 10)
      [.requestModel ⟨"a", 6, 32, false⟩ 0, .releaseModelInference "a", .requestModel ⟨"b", 8, 32, false⟩ 1] := by
  refine (clean_iff_canFree (by decide) ?_).mpr ⟨.inr (.inr (.inl rfl)), trivial, .inr (.inr (.inr ?_)), trivial⟩
  · simp [WeightNonneg]
  · decide +kernel

/-- A request that raises although it has evicted a model: the idle one goes first, and the one in use stays. -/
theorem failed_request_evicts :
    let s := Run.exec CacheManagerOp.run (initial 10)
      [.requestModel ⟨"a", 4, 32, false⟩ 0, .releaseModelInference "a", .requestModel ⟨"b", 5, 32, false⟩ 1]
    (s.requestModel ⟨"c", 8, 32, false⟩ 2).1 = .error .cannotLoadModel ∧ s.loadedModels.contains "a" = true ∧
      (s.requestModel ⟨"c", 8, 32, false⟩ 2).2.loadedModels.contains "a" = false := by
  decide +kernel

end ComputeMesh.Scheduler
