import ComputeMesh.Runtime.ModelCache

/-!
# A cache after a restart

What a new cache reads from the directory that another one has written.  The writer saves all fields of a manifest
and the reader leaves the Merkle root out, for which the verifier then has nothing to compare.

* `Synced` — the manifest files are those of the manifests in memory;
* `get?_restart` — the manifests of the new cache: the old ones without their Merkle roots;
* `restart_same_iff` — **the restart is faithful exactly when no cached model has chunks**;
* `restart_accepts_missing_chunks` — a verdict that the restart turns around.
-/

namespace ComputeMesh.Runtime

open ComputeMesh.Sha256 List Dict Option CacheHost ModelCache

/-- A step of a run of calls. -/
def CacheHost.step (h : Option CacheHost) (op : CacheOp) : Option CacheHost := h.bind fun h => op.run h

/-- No other cached model has the manifest file of the model that is registered. -/
def OwnFile : Option CacheHost → CacheOp → Prop
  | some h, .registerModelShard modelId _ _ _ _ _ =>
    ∀ modelId', h.cache.manifests.contains modelId' = true → manifestFile modelId' = manifestFile modelId →
      modelId' = modelId
  | _, _ => True

/-- A new cache on the directory, which lists its manifest files in the given order. -/
def CacheHost.restart (h : CacheHost) (now : Timestamp) (listing : List (String × Json)) : ModelCache :=
  { h.cache with manifests := scanCache now listing }

def ModelCache.modified (s : ModelCache) (replacements : List (String × List ModelChunkMetadata)) : ModelCache :=
  replacements.foldl (fun s r => s.withChunks r.1 r.2) s

/-- Two caches with the same manifests, whose verdicts agree after any modification of the chunk lists and of the
chunk files. -/
structure SameShards (old new : ModelCache) : Prop where
  manifests : ∀ modelId, new.manifests.get? modelId = old.manifests.get? modelId
  verdicts : ∀ replacements chunkFiles modelId, (new.modified replacements).verifyShardIntegrity chunkFiles modelId =
      (old.modified replacements).verifyShardIntegrity chunkFiles modelId

/-! ### Merkle roots -/

theorem ne_empty_of_length {s : String} (h : s.toList.length = 64) : s ≠ "" := by
  rintro rfl
  cases h

theorem ne_empty_of_mem_nextLevel : ∀ {hashes : List String} {hash : String}, hash ∈ nextLevel hashes → hash ≠ ""
  | [], _, h => by simp [nextLevel] at h
  | [left], hash, h => by
    rw [nextLevel, mem_singleton] at h
    exact h ▸ ne_empty_of_length (length_sha256Hex _)
  | left :: right :: rest, hash, h => by
    rw [nextLevel] at h
    rcases mem_cons.mp h with rfl | hrest
    · exact ne_empty_of_length (length_sha256Hex _)
    · exact ne_empty_of_mem_nextLevel hrest

theorem computeMerkleRoot_ne_empty {hashes : List String} (hne : hashes ≠ []) (h : ∀ hash ∈ hashes, hash ≠ "") :
    computeMerkleRoot hashes ≠ "" := by
  induction hashes using computeMerkleRoot.induct with
  | case1 => exact absurd rfl hne
  | case2 hash =>
    rw [computeMerkleRoot]
    exact h hash mem_cons_self
  | case3 left right rest ih =>
    rw [computeMerkleRoot]
    exact ih (by simp [nextLevel]) fun hash hhash => ne_empty_of_mem_nextLevel hhash

/-! ### Reading back what was written -/

theorem readChunk_toJson (c : ModelChunkMetadata) : readChunk c.toJson = some c := by
  simp [readChunk, ModelChunkMetadata.toJson, field, fieldOr, find, asInt, asStr, asBool]

theorem readChunks_toJson (chunks : List ModelChunkMetadata) :
    readChunks (.arr (chunks.map ModelChunkMetadata.toJson)) = some chunks := by
  rw [readChunks]
  induction chunks with
  | nil => rfl
  | cons c chunks ih =>
    rw [map_cons, mapM_cons, readChunk_toJson, ih]
    rfl

/-- **The manifest comes back without its Merkle root.** -/
theorem readManifest_toJson (now : Timestamp) (m : CachedModelShardManifest) :
    readManifest now m.toJson = some { m with merkleRoot := "" } := by
  simp [readManifest, CachedModelShardManifest.toJson, field, fieldOr, find, asInt, asStr, asBool, asTimestamp,
    readChunks_toJson]

/-- The scan finds what is in the files, when no two files have a model in common. -/
theorem get?_scanCache (now : Timestamp) (listing : List (String × Json))
    (hsame : ∀ f ∈ listing, ∀ g ∈ listing, ∀ m m', readManifest now f.2 = some m → readManifest now g.2 = some m' →
      m.modelId = m'.modelId → m = m') (modelId : String) (m : CachedModelShardManifest) :
    (scanCache now listing).get? modelId = some m ↔
      ∃ f ∈ listing, readManifest now f.2 = some m ∧ m.modelId = modelId := by
  induction listing using reverseRecOn with
  | nil => simp [scanCache]
  | append_singleton listing file ih =>
    have ih := ih fun f hf g hg => hsame f (mem_append_left _ hf) g (mem_append_left _ hg)
    have hfile : file ∈ listing ++ [file] := mem_append_right _ mem_cons_self
    rw [scanCache, foldl_append, foldl_cons, foldl_nil, ← scanCache]
    cases hread : readManifest now file.2 with
    | none =>
      rw [ih]
      constructor
      · rintro ⟨f, hf, hm⟩
        exact ⟨f, mem_append_left _ hf, hm⟩
      · rintro ⟨f, hf, hm, hid⟩
        rcases mem_append.mp hf with hf | hf
        · exact ⟨f, hf, hm, hid⟩
        · rw [mem_singleton.mp hf, hread] at hm
          cases hm
    | some m₀ =>
      show ((scanCache now listing).set m₀.modelId m₀).get? modelId = some m ↔ _
      rw [get?_set]
      constructor
      · intro hget
        split at hget
        · rename_i hid
          exact ⟨file, hfile, some.inj hget ▸ hread, some.inj hget ▸ hid.symm⟩
        · obtain ⟨f, hf, hm⟩ := ih.mp hget
          exact ⟨f, mem_append_left _ hf, hm⟩
      · rintro ⟨f, hf, hm, rfl⟩
        by_cases hid : m.modelId = m₀.modelId
        · rw [if_pos hid, hsame f hf file hfile m m₀ hm hread hid]
        · rw [if_neg hid]
          refine ih.mpr ?_
          rcases mem_append.mp hf with hf | hf
          · exact ⟨f, hf, hm, rfl⟩
          · rw [mem_singleton.mp hf, hread] at hm
            exact absurd (congrArg CachedModelShardManifest.modelId (some.inj hm)).symm hid

/-! ### The directory and the memory -/

/-- A manifest as registering makes it. -/
structure WellFormed (modelId : String) (m : CachedModelShardManifest) : Prop where
  modelId_eq : m.modelId = modelId
  merkleRoot_eq : m.merkleRoot = computeMerkleRoot (m.chunks.map ModelChunkMetadata.sha256Hash)
  hashes : ∀ c ∈ m.chunks, c.sha256Hash ≠ ""

/-- The manifest files are those of the manifests in memory, each model's its own. -/
structure Synced (h : CacheHost) : Prop where
  wellFormed : ∀ modelId m, h.cache.manifests.get? modelId = some m → WellFormed modelId m
  files : ∀ name json, h.dir.manifestFiles.get? name = some json ↔
    ∃ modelId m, h.cache.manifests.get? modelId = some m ∧ name = manifestFile modelId ∧ json = m.toJson
  own : ∀ modelId modelId', h.cache.manifests.contains modelId = true → h.cache.manifests.contains modelId' = true →
    manifestFile modelId = manifestFile modelId' → modelId = modelId'

theorem synced_initial (cacheDir : String) (maxCacheBytes : ℤ) : Synced (CacheHost.initial cacheDir maxCacheBytes) where
  wellFormed := by simp [initial]
  files := by simp [initial]
  own := by simp [initial, Dict.contains]

theorem contains_set {κ ν : Type} [DecidableEq κ] (d : Dict κ ν) (k k' : κ) (v : ν) :
    (d.set k v).contains k' = true ↔ k' = k ∨ d.contains k' = true := by
  rw [Dict.contains, Dict.get?_set, Dict.contains]
  by_cases h : k' = k <;> simp [h]

variable {h : CacheHost}

theorem Synced.putManifest (hs : Synced h) {modelId : String} {m : CachedModelShardManifest}
    (hm : WellFormed modelId m)
    (hown : ∀ modelId', h.cache.manifests.contains modelId' = true → manifestFile modelId' = manifestFile modelId →
      modelId' = modelId) : Synced (h.putManifest modelId m) where
  wellFormed := by
    intro modelId' m' hget
    rw [CacheHost.putManifest] at hget
    rcases get?_set_eq_some.mp hget with ⟨hid, hget⟩ | ⟨-, hget⟩
    · exact hid ▸ hget ▸ hm
    · exact hs.wellFormed modelId' m' hget
  files := by
    intro name json
    rw [CacheHost.putManifest]
    simp only [get?_set]
    constructor
    · intro hget
      split at hget
      · rename_i hname
        exact ⟨modelId, m, by simp, hname, (some.inj hget).symm⟩
      · rename_i hname
        obtain ⟨modelId', m', hget', hname', hjson⟩ := (hs.files name json).mp hget
        refine ⟨modelId', m', ?_, hname', hjson⟩
        rw [if_neg fun hid => hname (hname'.trans (congrArg manifestFile hid)), hget']
    · rintro ⟨modelId', m', hget, rfl, rfl⟩
      split at hget
      · rename_i hid
        rw [if_pos (congrArg manifestFile hid), some.inj hget]
      · rename_i hid
        have hcontains : h.cache.manifests.contains modelId' = true := by rw [Dict.contains, hget]; rfl
        rw [if_neg fun hname => hid (hown modelId' hcontains hname)]
        exact (hs.files _ _).mpr ⟨modelId', m', hget, rfl, rfl⟩
  own := by
    intro a b ha hb hab
    rcases (contains_set _ _ _ _).mp ha with rfl | ha'
    · rcases (contains_set _ _ _ _).mp hb with rfl | hb'
      · rfl
      · exact (hown b hb' hab.symm).symm
    · rcases (contains_set _ _ _ _).mp hb with rfl | hb'
      · exact hown a ha' hab
      · exact hs.own a b ha' hb' hab

theorem Synced.withChunkFiles (hs : Synced h) (chunkFiles : Dict String (List UInt8)) :
    Synced { h with dir := { h.dir with chunkFiles } } := ⟨hs.wellFormed, hs.files, hs.own⟩

theorem Synced.removeModelShard (hs : Synced h) (modelId : String) : Synced (h.removeModelShard modelId) := by
  rw [CacheHost.removeModelShard]
  cases hm : h.cache.manifests.get? modelId with
  | none => exact hs
  | some m₀ =>
    have hcached : h.cache.manifests.contains modelId = true := by rw [Dict.contains, hm]; rfl
    have hkept : ∀ modelId' m', (h.cache.manifests.erase modelId).get? modelId' = some m' →
        modelId' ≠ modelId ∧ h.cache.manifests.get? modelId' = some m' := by
      intro modelId' m' hget
      rw [get?_erase] at hget
      split at hget
      · cases hget
      · exact ⟨‹_›, hget⟩
    have hkept' : ∀ modelId', (h.cache.manifests.erase modelId).contains modelId' = true →
        h.cache.manifests.contains modelId' = true := by
      intro modelId' hcontains
      obtain ⟨m', hget⟩ := isSome_iff_exists.mp hcontains
      rw [Dict.contains, (hkept modelId' m' hget).2]
      rfl
    refine ⟨fun modelId' m' hget => hs.wellFormed modelId' m' (hkept modelId' m' hget).2, ?_,
      fun a b ha hb => hs.own a b (hkept' a ha) (hkept' b hb)⟩
    intro name json
    show (h.dir.manifestFiles.erase (manifestFile modelId)).get? name = some json ↔ _
    rw [get?_erase]
    constructor
    · intro hget
      split at hget
      · cases hget
      · rename_i hname
        obtain ⟨modelId', m', hget', rfl, rfl⟩ := (hs.files name json).mp hget
        exact ⟨modelId', m', (get?_erase_of_ne _ fun hid => hname (congrArg manifestFile hid)).trans hget',
          rfl, rfl⟩
    · rintro ⟨modelId', m', hget, rfl, rfl⟩
      obtain ⟨hne, hget'⟩ := hkept modelId' m' hget
      have hcontains : h.cache.manifests.contains modelId' = true := by rw [Dict.contains, hget']; rfl
      rw [if_neg fun hname => hne (hs.own modelId' modelId hcontains hcached hname)]
      exact (hs.files _ _).mpr ⟨modelId', m', hget', rfl, rfl⟩

theorem wellFormed_newManifest (s : ModelCache) (modelId : String) (totalSizeBytes : ℤ)
    (chunksData : List (ℤ × List UInt8)) (sha256Hash : String) (isPinned : Bool) (now : Timestamp) :
    WellFormed modelId (s.newManifest modelId totalSizeBytes chunksData sha256Hash isPinned now) where
  modelId_eq := rfl
  merkleRoot_eq := rfl
  hashes := by
    intro c hc
    obtain ⟨data, -, rfl⟩ := mem_map.mp hc
    exact ne_empty_of_length (length_hexDigest data.2)

/-- **The step lemma.** -/
theorem synced_run {h' : CacheHost} {op : CacheOp} (hs : Synced h) (hown : OwnFile (some h) op)
    (hrun : op.run h = some h') : Synced h' := by
  cases op with
  | registerModelShard modelId totalSizeBytes chunksData sha256Hash isPinned now =>
    have hput := (hs.withChunkFiles (chunksData.foldl
      (fun files c => files.set (h.cache.chunkFile modelId c.1) c.2) h.dir.chunkFiles)).putManifest
      (wellFormed_newManifest h.cache modelId totalSizeBytes chunksData sha256Hash isPinned now) hown
    rw [CacheOp.run, registerModelShard] at hrun
    split at hrun
    · cases hrun
    · exact some.inj hrun ▸ hput
  | pinModelShard modelId pinned =>
    rw [← some.inj hrun, pinModelShard]
    cases hm : h.cache.manifests.get? modelId with
    | none => exact hs
    | some m =>
      have hwell := hs.wellFormed modelId m hm
      refine hs.putManifest ⟨hwell.modelId_eq, hwell.merkleRoot_eq, hwell.hashes⟩ ?_
      have hcached : h.cache.manifests.contains modelId = true := by rw [Dict.contains, hm]; rfl
      exact fun modelId' hcontains => hs.own modelId' modelId hcontains hcached
  | removeModelShard modelId => exact some.inj hrun ▸ hs.removeModelShard modelId

theorem synced_exec {cacheDir : String} {maxCacheBytes : ℤ} {ops : List CacheOp}
    (hown : Run.Along CacheHost.step OwnFile (some (CacheHost.initial cacheDir maxCacheBytes)) ops)
    (hrun : Run.exec CacheHost.step (some (CacheHost.initial cacheDir maxCacheBytes)) ops = some h) : Synced h := by
  refine Run.exec_of_along (fun s => ∀ h, s = some h → Synced h) ?_ ?_ hown h hrun
  · intro s op hs hop h' hstep
    cases s with
    | none => cases hstep
    | some h => exact synced_run (hs h rfl) hop hstep
  · intro h hh
    exact some.inj hh ▸ synced_initial cacheDir maxCacheBytes

/-! ### The restart -/

/-- **The manifests after a restart.** -/
theorem get?_restart (hs : Synced h) (now : Timestamp) {listing : List (String × Json)}
    (hlisting : listing.Perm h.dir.manifestFiles.entries) (modelId : String) :
    (h.restart now listing).manifests.get? modelId =
      (h.cache.manifests.get? modelId).map fun m => { m with merkleRoot := "" } := by
  have hfiles : ∀ f, f ∈ listing ↔
      ∃ modelId m, h.cache.manifests.get? modelId = some m ∧ f = (manifestFile modelId, m.toJson) := by
    rintro ⟨name, json⟩
    rw [hlisting.mem_iff, mem_entries_iff, hs.files]
    simp only [Prod.mk.injEq]
  have hread : ∀ f ∈ listing, ∀ m, readManifest now f.2 = some m →
      ∃ m₀, h.cache.manifests.get? m.modelId = some m₀ ∧ m = { m₀ with merkleRoot := "" } := by
    intro f hf m hm
    obtain ⟨modelId, m₀, hget, rfl⟩ := (hfiles f).mp hf
    rw [readManifest_toJson] at hm
    obtain rfl := some.inj hm
    exact ⟨m₀, (congrArg h.cache.manifests.get? (hs.wellFormed modelId m₀ hget).modelId_eq).trans hget, rfl⟩
  have hscan := get?_scanCache now listing ?_ modelId
  · refine ext fun m => ?_
    rw [restart, hscan, map_eq_some_iff]
    constructor
    · rintro ⟨f, hf, hm, rfl⟩
      obtain ⟨m₀, hget, heq⟩ := hread f hf m hm
      exact ⟨m₀, hget, heq.symm⟩
    · rintro ⟨m₀, hget, rfl⟩
      exact ⟨_, (hfiles _).mpr ⟨modelId, m₀, hget, rfl⟩, readManifest_toJson now m₀,
        (hs.wellFormed modelId m₀ hget).modelId_eq⟩
  · intro f hf g hg m m' hm hm' hid
    obtain ⟨m₀, hget, rfl⟩ := hread f hf m hm
    obtain ⟨m₀', hget', rfl⟩ := hread g hg m' hm'
    rw [hid, hget'] at hget
    rw [some.inj hget]

theorem verdicts_of_manifests {s s' : ModelCache} (h : ∀ modelId, s'.manifests.get? modelId = s.manifests.get? modelId)
    (replacements : List (String × List ModelChunkMetadata)) (chunkFiles : Dict String (List UInt8))
    (modelId : String) :
    (s'.modified replacements).verifyShardIntegrity chunkFiles modelId =
      (s.modified replacements).verifyShardIntegrity chunkFiles modelId := by
  induction replacements generalizing s s' with
  | nil =>
    rw [modified, modified, foldl_nil, foldl_nil, verifyShardIntegrity, verifyShardIntegrity, h]
  | cons r replacements ih =>
    show ((s'.withChunks r.1 r.2).modified replacements).verifyShardIntegrity chunkFiles modelId =
      ((s.withChunks r.1 r.2).modified replacements).verifyShardIntegrity chunkFiles modelId
    refine ih fun modelId' => ?_
    rw [withChunks, withChunks, h r.1]
    cases s.manifests.get? r.1 with
    | none => exact h modelId'
    | some m =>
      show (s'.manifests.set r.1 _).get? modelId' = (s.manifests.set r.1 _).get? modelId'
      rw [get?_set, get?_set, h modelId']

/-- **The restart is faithful exactly when no cached model has chunks.**  The calls of the run register each model
under a manifest file of its own. -/
theorem restart_same_iff (cacheDir : String) (maxCacheBytes : ℤ) (ops : List CacheOp) {h : CacheHost}
    (now : Timestamp) {listing : List (String × Json)}
    (hown : Run.Along CacheHost.step OwnFile (some (CacheHost.initial cacheDir maxCacheBytes)) ops)
    (hrun : Run.exec CacheHost.step (some (CacheHost.initial cacheDir maxCacheBytes)) ops = some h)
    (hlisting : listing.Perm h.dir.manifestFiles.entries) :
    SameShards h.cache (h.restart now listing) ↔
      ∀ modelId m, h.cache.manifests.get? modelId = some m → m.chunks = [] := by
  have hs := synced_exec hown hrun
  constructor
  · intro hsame modelId m hget
    have hnew := get?_restart hs now hlisting modelId
    rw [hsame.manifests, hget] at hnew
    have hroot : m.merkleRoot = "" := congrArg CachedModelShardManifest.merkleRoot (some.inj hnew)
    have hwell := hs.wellFormed modelId m hget
    by_contra hchunks
    refine computeMerkleRoot_ne_empty ?_ ?_ (hwell.merkleRoot_eq ▸ hroot)
    · simpa using hchunks
    · intro hash hhash
      obtain ⟨c, hc, rfl⟩ := mem_map.mp hhash
      exact hwell.hashes c hc
  · intro hchunks
    have hmanifests : ∀ modelId, (h.restart now listing).manifests.get? modelId = h.cache.manifests.get? modelId := by
      intro modelId
      rw [get?_restart hs now hlisting modelId]
      cases hget : h.cache.manifests.get? modelId with
      | none => rfl
      | some m =>
        have hroot : m.merkleRoot = "" := by
          rw [(hs.wellFormed modelId m hget).merkleRoot_eq, hchunks modelId m hget]
          simp [computeMerkleRoot]
        rw [map_some, ← hroot]
    exact ⟨hmanifests, verdicts_of_manifests hmanifests⟩

/-- A model without chunks survives the restart as it is. -/
theorem restart_same_no_chunks : let now : Timestamp := ⟨"1.0", 1⟩
    let h := (initial "cache" 10).putManifest "model"
      ((initial "cache" 10).cache.newManifest "model" 0 [] "hash" true now)
    SameShards h.cache (h.restart now h.dir.manifestFiles.entries) := by
  refine (restart_same_iff "cache" 10 [.registerModelShard "model" 0 [] "hash" true ⟨"1.0", 1⟩] ⟨"1.0", 1⟩
    ⟨fun modelId' hcontains => (by cases hcontains), trivial⟩ rfl (List.Perm.refl _)).mpr ?_
  intro modelId m hget
  rw [putManifest] at hget
  rcases get?_set_eq_some.mp hget with ⟨-, hget⟩ | ⟨-, hget⟩
  · rw [← hget]
    rfl
  · cases hget

theorem verifyShardIntegrity_emptied {s : ModelCache} {modelId : String} {m : CachedModelShardManifest}
    (hget : s.manifests.get? modelId = some m) (chunkFiles : Dict String (List UInt8)) :
    (s.modified [(modelId, [])]).verifyShardIntegrity chunkFiles modelId =
      .checked (decide (m.merkleRoot = "")) m.totalChunks [] [] (decide (m.merkleRoot = "")) := by
  simp [modified, withChunks, verifyShardIntegrity, hget, computeMerkleRoot]

/-- Without its chunk list a shard is invalid, and valid after a restart. -/
theorem restart_accepts_missing_chunks : ∃ h : CacheHost,
    Run.exec CacheHost.step (some (CacheHost.initial "cache" 10))
      [.registerModelShard "model" 1 [(0, [7])] "hash" true ⟨"1.0", 1⟩] = some h ∧
    (h.cache.modified [("model", [])]).verifyShardIntegrity h.dir.chunkFiles "model" = .checked false 1 [] [] false ∧
    ((h.restart ⟨"2.0", 2⟩ h.dir.manifestFiles.entries).modified [("model", [])]).verifyShardIntegrity
      h.dir.chunkFiles "model" = .checked true 1 [] [] true := by
  obtain ⟨h, hrun⟩ : ∃ h, Run.exec step (some (initial "cache" 10))
      [.registerModelShard "model" 1 [(0, [7])] "hash" true ⟨"1.0", 1⟩] = some h := ⟨_, rfl⟩
  have hs : Synced h := by
    refine synced_exec ?_ hrun
    exact ⟨fun modelId' hcontains => (by cases hcontains), trivial⟩
  have hold : h.cache.manifests.get? "model" = some ((initial "cache" 10).cache.newManifest "model" 1
      [(0, [7])] "hash" true ⟨"1.0", 1⟩) := by
    rw [← some.inj hrun]
    rfl
  have hnew := get?_restart hs ⟨"2.0", 2⟩ (List.Perm.refl _) "model"
  rw [hold] at hnew
  have hroot : computeMerkleRoot [hexDigest [7]] ≠ "" := by
    rw [computeMerkleRoot]
    exact ne_empty_of_length (length_hexDigest [7])
  refine ⟨h, hrun, ?_, ?_⟩
  · rw [verifyShardIntegrity_emptied hold]
    exact congrArg (fun b => ShardVerdict.checked b 1 [] [] b) (decide_eq_false hroot)
  · rw [verifyShardIntegrity_emptied hnew]
    rfl

end ComputeMesh.Runtime
