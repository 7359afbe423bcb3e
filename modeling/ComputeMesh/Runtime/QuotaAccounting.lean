import ComputeMesh.Runtime.OffHeapCache

/-!
# The books of the off-heap cache

The used quota against the chunks that are stored, over every interleaving.  The quota is taken in one section and
the chunk is stored in a later one, so that a second allocation of the same chunk can store its own in between; the
books are right as long as that does not happen.

* `pendingBytes` — the quota a call has taken for a chunk that is not stored;
* `Accounted` — the quota is that of the stored chunks and of the pending calls, and all shared memory is in the map
  or in the hands of a call;
* `quota_exact` — **the books are exact** in runs where nothing is stored over a chunk;
* `quota_of_two_allocations` — two allocations of one chunk.
-/

namespace ComputeMesh.Runtime

open Mesh List

/-- The quota that a call has taken for a chunk that it has not stored. -/
def pendingBytes : CacheCall → ℤ
  | .reserved _ size _ | .created _ size _ _ | .failed size => size
  | _ => 0

/-- The shared memory that only a call knows of. -/
def heldSegment : CacheCall → Option ℕ
  | .created _ _ segment _ | .unlinking segment => some segment
  | _ => none

/-- The chunk map knows the shared memory. -/
def InMap (m : Mesh) (segment : ℕ) : Prop :=
  ∃ chunkId info, m.cache.chunks.get? chunkId = some info ∧ info.segment = segment

/-- What the used quota has beyond the sizes of the stored chunks. -/
def surplus (cache : OffHeapCache) : ℤ := cache.usedQuota - cache.chunks.sumBy fun info => info.size

/-- The invariant. -/
structure Accounted (m : Mesh) : Prop where
  surplus_eq : surplus m.cache = (m.calls.map pendingBytes).sum
  used_le : m.cache.usedQuota ≤ m.cache.maxQuotaBytes
  reachable : ∀ segment ∈ m.segments, InMap m segment ∨ ∃ call ∈ m.calls, heldSegment call = some segment

/-- The section does not store over a chunk. -/
def storesAbsent (m : Mesh) : MeshEvent → Bool
  | .store c =>
    match m.calls[c]? with
    | some (.created chunkId _ _ _) => !m.cache.chunks.contains chunkId
    | _ => true
  | _ => true

/-- What is asked of the cache of a mesh. -/
structure Mesh.Exact (m : Mesh) (maxQuotaBytes : ℤ) : Prop where
  used_nonneg : 0 ≤ m.cache.usedQuota
  used_le : m.cache.usedQuota ≤ maxQuotaBytes
  used_eq : m.Quiescent → m.cache.usedQuota = m.cache.chunks.sumBy fun info => info.size
  reachable : m.Quiescent → ∀ segment ∈ m.segments, InMap m segment

/-! ### What a section does to the books -/

theorem pendingBytes_nonneg (call : CacheCall) : 0 ≤ pendingBytes call := by
  cases call <;> simp [pendingBytes]

theorem sum_pendingBytes_set {calls : List CacheCall} {c : ℕ} {call : CacheCall} (hc : calls[c]? = some call)
    (call' : CacheCall) :
    ((calls.set c call').map pendingBytes).sum =
      (calls.map pendingBytes).sum - pendingBytes call + pendingBytes call' := by
  obtain ⟨hlt, hget⟩ := List.getElem?_eq_some_iff.mp hc
  rw [List.map_set, List.sum_set', dif_pos (by simpa using hlt), List.getElem_map, hget]
  abel

theorem Accounted.set {m m' : Mesh} {c : ℕ} {call call' : CacheCall} (h : Accounted m)
    (hc : m.calls[c]? = some call) (hcalls : m'.calls = m.calls.set c call')
    (hbooks : surplus m'.cache - pendingBytes call' = surplus m.cache - pendingBytes call)
    (hle : m'.cache.usedQuota ≤ m'.cache.maxQuotaBytes)
    (hmap : ∀ segment, InMap m segment → InMap m' segment ∨ heldSegment call' = some segment)
    (hsegments : ∀ segment ∈ m'.segments, heldSegment call' = some segment ∨ InMap m' segment ∨
      segment ∈ m.segments ∧ heldSegment call ≠ some segment) : Accounted m' where
  surplus_eq := by
    rw [hcalls, sum_pendingBytes_set hc, ← h.surplus_eq]
    linarith
  used_le := hle
  reachable := by
    obtain ⟨hlt, hget⟩ := List.getElem?_eq_some_iff.mp hc
    have hmem : call' ∈ m'.calls := by
      rw [hcalls]
      exact mem_set hlt call'
    intro segment hsegment
    rcases hsegments segment hsegment with hheld | hin | ⟨hold, hne⟩
    · exact .inr ⟨call', hmem, hheld⟩
    · exact .inl hin
    · rcases h.reachable segment hold with hin | ⟨other, hother, hheld⟩
      · exact (hmap segment hin).imp_right fun hcall => ⟨call', hmem, hcall⟩
      · obtain ⟨d, hd⟩ := mem_iff_getElem?.mp hother
        have hdc : c ≠ d := by
          rintro rfl
          rw [hc] at hd
          exact hne (Option.some.inj hd ▸ hheld)
        refine .inr ⟨other, mem_iff_getElem?.mpr ⟨d, ?_⟩, hheld⟩
        rw [hcalls, getElem?_set_ne hdc, hd]

theorem Accounted.add {m m' : Mesh} {call : CacheCall} (h : Accounted m) (hcalls : m'.calls = m.calls ++ [call])
    (hbooks : surplus m'.cache = surplus m.cache + pendingBytes call)
    (hle : m'.cache.usedQuota ≤ m'.cache.maxQuotaBytes) (hsegments : m'.segments = m.segments)
    (hmap : ∀ segment, InMap m segment → InMap m' segment ∨ heldSegment call = some segment) : Accounted m' where
  surplus_eq := by
    rw [hcalls, map_append, sum_append, ← h.surplus_eq, hbooks]
    simp
  used_le := hle
  reachable := by
    intro segment hsegment
    rw [hsegments] at hsegment
    have hmem : call ∈ m'.calls := hcalls ▸ mem_append_right _ mem_cons_self
    rcases h.reachable segment hsegment with hin | ⟨other, hother, hheld⟩
    · exact (hmap segment hin).imp_right fun hcall => ⟨call, hmem, hcall⟩
    · exact .inr ⟨other, hcalls ▸ mem_append_left _ hother, hheld⟩

theorem Accounted.of_eq {m m' : Mesh} (h : Accounted m) (hcache : m'.cache = m.cache) (hcalls : m'.calls = m.calls)
    (hsegments : m'.segments = m.segments) : Accounted m' where
  surplus_eq := by rw [hcache, hcalls, h.surplus_eq]
  used_le := hcache ▸ h.used_le
  reachable := by
    intro segment hsegment
    rw [hsegments] at hsegment
    rw [InMap, hcache, hcalls]
    exact h.reachable segment hsegment

theorem popped_spec (m m' : Mesh) (chunkId : String) (hcache : m'.cache = (m.popped chunkId).1) :
    surplus m'.cache = surplus m.cache ∧ pendingBytes (m.popped chunkId).2 = 0 ∧
      m'.cache.usedQuota ≤ m.cache.usedQuota ∧ m'.cache.maxQuotaBytes = m.cache.maxQuotaBytes ∧
      ∀ segment, InMap m segment → InMap m' segment ∨ heldSegment (m.popped chunkId).2 = some segment := by
  simp only [InMap]
  rw [hcache, popped, OffHeapCache.pop]
  cases hget : m.cache.chunks.get? chunkId with
  | none => exact ⟨rfl, rfl, le_refl _, rfl, fun _ hin => .inl hin⟩
  | some info =>
    refine ⟨?_, rfl, ?_, rfl, ?_⟩
    · show m.cache.usedQuota - info.size - (m.cache.chunks.erase chunkId).sumBy (fun info => (info.size : ℤ)) = _
      rw [Dict.sumBy_erase, hget, surplus]
      simp only [Option.map_some, Option.getD_some]
      abel
    · show m.cache.usedQuota - (info.size : ℤ) ≤ m.cache.usedQuota
      omega
    · rintro segment ⟨chunkId', info', hget', rfl⟩
      by_cases hchunk : chunkId' = chunkId
      · subst hchunk
        rw [hget] at hget'
        refine .inr ?_
        show some info.segment = some info'.segment
        rw [Option.some.inj hget']
      · exact .inl ⟨chunkId', info', (Dict.get?_erase_of_ne _ hchunk).trans hget', rfl⟩

/-! ### The steps -/

theorem accounted_allocate {m : Mesh} (h : Accounted m) (chunkId : String) (size : ℕ)
    (replica : Option (String × List String)) : Accounted (m.allocate chunkId size replica) := by
  rw [allocate, OffHeapCache.reserve]
  by_cases hstored : m.cache.chunks.contains chunkId = true
  · rw [if_pos hstored]
    exact h.add rfl (by simp [pendingBytes, addCall]) h.used_le rfl fun _ hin => .inl hin
  · rw [if_neg hstored]
    by_cases hfull : m.cache.maxQuotaBytes < m.cache.usedQuota + size
    · rw [if_pos hfull]
      exact h.add rfl (by simp [pendingBytes, addCall]) h.used_le rfl fun _ hin => .inl hin
    · rw [if_neg hfull]
      refine h.add rfl ?_ (not_lt.mp hfull) rfl fun _ hin => .inl hin
      show m.cache.usedQuota + size - _ = m.cache.usedQuota - _ + (size : ℤ)
      abel

theorem accounted_create {m : Mesh} (h : Accounted m) {c : ℕ} {chunkId : String} {size : ℕ}
    {replica : Option (String × List String)} (hc : m.calls[c]? = some (.reserved chunkId size replica))
    (success : Bool) : Accounted (m.create c chunkId size replica success) := by
  have hheld : ∀ segment, heldSegment (.reserved chunkId size replica) ≠ some segment := by simp [heldSegment]
  cases success with
  | false => exact h.set hc rfl rfl h.used_le (fun _ hin => .inl hin) fun segment hs => .inr (.inr ⟨hs, hheld _⟩)
  | true =>
    refine h.set hc rfl rfl h.used_le (fun _ hin => .inl hin) ?_
    intro segment hsegment
    rcases mem_cons.mp hsegment with rfl | hold
    · exact .inl rfl
    · exact .inr (.inr ⟨hold, hheld _⟩)

theorem accounted_store {m : Mesh} (h : Accounted m) {c : ℕ} {chunkId : String} {size segment : ℕ}
    {replica : Option (String × List String)} (hc : m.calls[c]? = some (.created chunkId size segment replica))
    (habsent : m.cache.chunks.contains chunkId = false) :
    Accounted ({ m with cache := m.cache.store chunkId ⟨segment, size⟩ }.setCall c
      (Mesh.afterStore chunkId replica)) := by
  have hnone : m.cache.chunks.get? chunkId = none := by simpa [Dict.contains] using habsent
  have hafter : pendingBytes (afterStore chunkId replica) = 0 := by
    rcases replica with _ | ⟨primaryPeer, replicas⟩ <;> rfl
  have hin : ∀ segment', InMap m segment' → InMap ({ m with cache := m.cache.store chunkId ⟨segment, size⟩ }.setCall c
      (afterStore chunkId replica)) segment' := by
    rintro segment' ⟨chunkId', info, hget, rfl⟩
    have hne : chunkId' ≠ chunkId := by
      rintro rfl
      rw [hnone] at hget
      cases hget
    exact ⟨chunkId', info, (Dict.get?_set_of_ne _ hne _).trans hget, rfl⟩
  refine h.set hc rfl ?_ h.used_le (fun segment' h' => .inl (hin segment' h')) ?_
  · rw [hafter]
    show m.cache.usedQuota - (m.cache.chunks.set chunkId ⟨segment, size⟩).sumBy (fun info => (info.size : ℤ)) - 0 =
      surplus m.cache - (size : ℤ)
    rw [Dict.sumBy_set, hnone, surplus]
    simp only [Option.map_none, Option.getD_none]
    abel
  · intro segment' hold
    by_cases heq : segment = segment'
    · subst heq
      exact .inr (.inl ⟨chunkId, ⟨segment, size⟩, Dict.get?_set_self _ _ _, rfl⟩)
    · exact .inr (.inr ⟨hold, fun hheld => heq (Option.some.inj hheld)⟩)

theorem accounted_unlink {m : Mesh} (h : Accounted m) {c segment : ℕ} (hc : m.calls[c]? = some (.unlinking segment)) :
    Accounted ({ m with segments := m.segments.filter fun x => decide (x ≠ segment) }.setCall c .returned) := by
  refine h.set hc rfl rfl h.used_le (fun _ hin => .inl hin) ?_
  intro segment' hsegment
  obtain ⟨hold, hne⟩ := mem_filter.mp hsegment
  exact .inr (.inr ⟨hold, fun hheld => of_decide_eq_true hne (Option.some.inj hheld).symm⟩)

/-- **The step lemma.** -/
theorem accounted_step (m : Mesh) (e : MeshEvent) (h : Accounted m) (hok : storesAbsent m e = true) :
    Accounted (m.step e) := by
  cases e with
  | allocate chunkId size replica => exact accounted_allocate h chunkId size replica
  | create c success =>
    rw [step]
    split
    · exact accounted_create h ‹_› success
    · exact h
  | store c =>
    rw [step]
    split
    · rename_i hc
      rw [storesAbsent, hc, Bool.not_eq_true'] at hok
      exact accounted_store h hc hok
    · exact h
  | giveBack c =>
    rw [step]
    split
    · rename_i size hc
      refine h.set hc rfl ?_ ?_ (fun _ hin => .inl hin) fun _ hs => .inr (.inr ⟨hs, by simp [heldSegment]⟩)
      · show m.cache.usedQuota - size - _ - 0 = m.cache.usedQuota - _ - (size : ℤ)
        abel
      · have hle := h.used_le
        show m.cache.usedQuota - (size : ℤ) ≤ m.cache.maxQuotaBytes
        omega
    · exact h
  | record c =>
    rw [step]
    split
    · rename_i hc
      exact h.set hc rfl rfl h.used_le (fun _ hin => .inl hin) fun _ hs => .inr (.inr ⟨hs, by simp [heldSegment]⟩)
    · exact h
  | free chunkId =>
    obtain ⟨hsurplus, hpending, hle, hmax, hmap⟩ := popped_spec m (m.step (.free chunkId)) chunkId rfl
    exact h.add rfl (by rw [hsurplus, hpending, add_zero]) (by have := h.used_le; omega) rfl hmap
  | pop c =>
    rw [step]
    split
    · rename_i chunkId hc
      obtain ⟨hsurplus, hpending, hle, hmax, hmap⟩ := popped_spec m
        ({ m with cache := (m.popped chunkId).1 }.setCall c (m.popped chunkId).2) chunkId rfl
      refine h.set hc rfl (by rw [hsurplus, hpending]; rfl) (by have := h.used_le; omega) hmap ?_
      exact fun _ hs => .inr (.inr ⟨hs, by simp [heldSegment]⟩)
    · exact h
  | unlink c =>
    rw [step]
    split
    · exact accounted_unlink h ‹_›
    · exact h
  | checkFailover chunkId now =>
    refine h.add rfl ?_ h.used_le rfl fun _ hin => .inl hin
    show surplus m.cache = surplus m.cache + _
    split <;> simp [pendingBytes]
  | registerHeartbeat peerId vram tflops latency now | submitVote voterId chunkId proposedState now
  | reportCorruptedReplica chunkId peerId => exact h.of_eq rfl rfl rfl

theorem maxQuotaBytes_popped (m : Mesh) (chunkId : String) :
    (m.popped chunkId).1.maxQuotaBytes = m.cache.maxQuotaBytes :=
  (popped_spec m { m with cache := (m.popped chunkId).1 } chunkId rfl).2.2.2.1

theorem maxQuotaBytes_step (m : Mesh) (e : MeshEvent) :
    (m.step e).cache.maxQuotaBytes = m.cache.maxQuotaBytes := by
  cases e with
  | allocate chunkId size replica =>
    rw [step, allocate, OffHeapCache.reserve]
    by_cases hstored : m.cache.chunks.contains chunkId = true
    · rw [if_pos hstored]
      rfl
    · rw [if_neg hstored]
      by_cases hfull : m.cache.maxQuotaBytes < m.cache.usedQuota + size
      · rw [if_pos hfull]
        rfl
      · rw [if_neg hfull]
        rfl
  | create c success =>
    rw [step]
    split
    · cases success <;> rfl
    · rfl
  | free chunkId => exact maxQuotaBytes_popped m chunkId
  | pop c =>
    rw [step]
    split
    · exact maxQuotaBytes_popped m _
    · rfl
  | checkFailover chunkId now | registerHeartbeat peerId vram tflops latency now
  | submitVote voterId chunkId proposedState now | reportCorruptedReplica chunkId peerId => rfl
  | store c | giveBack c | record c | unlink c =>
    rw [step]
    split <;> rfl

/-- **The books are exact.**  In every run in which no section stores over a chunk, the used quota is between zero and
the maximum all the time, and whenever no call is in progress it is the sum of the stored sizes and all shared memory
is in the map. -/
theorem quota_exact {maxQuotaBytes : ℤ} (hmax : 0 ≤ maxQuotaBytes) (heartbeatTimeout : ℚ) {events : List MeshEvent}
    (hok : Run.Along Mesh.step (fun m e => storesAbsent m e = true)
      (Mesh.initial maxQuotaBytes heartbeatTimeout) events) :
    (Run.exec Mesh.step (Mesh.initial maxQuotaBytes heartbeatTimeout) events).Exact maxQuotaBytes := by
  have hinitial : Accounted (initial maxQuotaBytes heartbeatTimeout) :=
    ⟨rfl, hmax, fun segment hsegment => by cases hsegment⟩
  have hexec : Accounted (Run.exec step (initial maxQuotaBytes heartbeatTimeout) events) :=
    Run.exec_of_along Accounted accounted_step hinitial hok
  have hsame : (Run.exec step (initial maxQuotaBytes heartbeatTimeout) events).cache.maxQuotaBytes =
      maxQuotaBytes :=
    Run.exec_of_forall (fun m => m.cache.maxQuotaBytes = maxQuotaBytes)
      (fun m e hm => (maxQuotaBytes_step m e).trans hm) rfl events
  generalize Run.exec step (initial maxQuotaBytes heartbeatTimeout) events = m at hexec hsame
  have hsum := hexec.surplus_eq
  rw [surplus] at hsum
  refine ⟨?_, hsame ▸ hexec.used_le, fun hquiet => ?_, fun hquiet segment hsegment => ?_⟩
  · have hpending : 0 ≤ (m.calls.map pendingBytes).sum := by
      apply sum_nonneg
      intro x hx
      obtain ⟨call, -, rfl⟩ := mem_map.mp hx
      exact pendingBytes_nonneg call
    have hstored : 0 ≤ m.cache.chunks.sumBy fun info => (info.size : ℤ) :=
      Dict.sumBy_nonneg fun info _ => Int.natCast_nonneg info.size
    linarith
  · have hpending : (m.calls.map pendingBytes).sum = 0 := by
      apply sum_eq_zero
      intro x hx
      obtain ⟨call, hcall, rfl⟩ := mem_map.mp hx
      rw [hquiet call hcall]
      rfl
    linarith
  · rcases hexec.reachable segment hsegment with hin | ⟨call, hcall, hheld⟩
    · exact hin
    · rw [hquiet call hcall] at hheld
      cases hheld

/-- A chunk is allocated with its replica, and freed when all its peers are gone. -/
theorem quota_exact_failover : (Run.exec Mesh.step (Mesh.initial 4 5)
      [.allocate "chunk" 3 (some ("peer-1", ["peer-2"])), .create 0 true, .store 0, .record 0,
        .checkFailover "chunk" 20, .pop 1, .unlink 1]).Exact 4 :=
  quota_exact (by decide) 5 (by decide)

/-- Two allocations of one chunk: both find it absent, and the second stores over the first one's. -/
theorem quota_of_two_allocations :
    let m := Run.exec step (initial 4 5)
      [.allocate "chunk" 1 none, .allocate "chunk" 1 none, .create 0 true, .create 1 true, .store 0, .store 1]
    m.Quiescent ∧ m.cache.usedQuota = 2 ∧ (m.cache.chunks.sumBy fun info => info.size) = 1 ∧ ¬m.Exact 4 := by
  intro m
  have hquiet : m.Quiescent := by decide
  have hused : m.cache.usedQuota = 2 := by decide
  have hstored : (m.cache.chunks.sumBy fun info => info.size) = 1 := by decide
  refine ⟨hquiet, hused, hstored, fun h => ?_⟩
  have heq := h.used_eq hquiet
  omega

end ComputeMesh.Runtime
