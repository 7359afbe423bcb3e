import ComputeMesh.Runtime.ShardFailover

/-!
# The off-heap cache and the calls that share it

`OffHeapCacheManager` of `runtime/distributed_model_cache.py`, called directly and through
`DecentralizedShardFailover`.  Each call is a list of sections: those under the cache's lock, those under the
manager's lock, and the shared-memory operations between them, which hold no lock.  Between two sections of a
call every other call may take any number of its own.

* `OffHeapCache` — the map of the chunks and the used quota, with the sections that change them;
* `CacheCall` — what is left to do of a call;
* `Mesh.step` — **one section of any call.**
-/

namespace ComputeMesh.Runtime

/-- What the map holds of a chunk: the name of its shared memory, and its size. -/
structure ChunkInfo where
  segment : ℕ
  size : ℕ

/-- `OffHeapCacheManager`. -/
structure OffHeapCache where
  maxQuotaBytes : ℤ
  usedQuota : ℤ
  chunks : Dict String ChunkInfo

namespace OffHeapCache

/-- The first section of `allocate_chunk`; `none` if the call is refused. -/
def reserve (s : OffHeapCache) (chunkId : String) (size : ℕ) : Option OffHeapCache :=
  if s.chunks.contains chunkId then none
  else if s.maxQuotaBytes < s.usedQuota + size then none
  else some { s with usedQuota := s.usedQuota + size }

/-- The section of `allocate_chunk` that retains the shared memory. -/
def store (s : OffHeapCache) (chunkId : String) (info : ChunkInfo) : OffHeapCache :=
  { s with chunks := s.chunks.set chunkId info }

/-- The section of `allocate_chunk` after a failure. -/
def giveBack (s : OffHeapCache) (size : ℕ) : OffHeapCache := { s with usedQuota := s.usedQuota - size }

/-- The section of `free_chunk`. -/
def pop (s : OffHeapCache) (chunkId : String) : Option (ChunkInfo × OffHeapCache) :=
  match s.chunks.get? chunkId with
  | none => none
  | some info =>
    some (info, { s with chunks := s.chunks.erase chunkId, usedQuota := s.usedQuota - info.size })

end OffHeapCache

/-- What is left to do of a call, with the values it holds.  `replica` is the primary and the replicas that
`allocate_shard_replica` records in the end. -/
inductive CacheCall
  | reserved (chunkId : String) (size : ℕ) (replica : Option (String × List String))
  | created (chunkId : String) (size segment : ℕ) (replica : Option (String × List String))
  | failed (size : ℕ)
  | recording (chunkId primaryPeer : String) (replicas : List String)
  | freeing (chunkId : String)
  | unlinking (segment : ℕ)
  | returned
  deriving DecidableEq

/-- A cache and the failover manager built on it, the calls so far, and the shared memory that exists. -/
structure Mesh where
  cache : OffHeapCache
  failover : ShardFailover
  segments : List ℕ
  nextSegment : ℕ
  calls : List CacheCall

/-- A section of a call, or the beginning of a call with its first section. -/
inductive MeshEvent
  | allocate (chunkId : String) (size : ℕ) (replica : Option (String × List String))
  | create (c : ℕ) (success : Bool)
  | store (c : ℕ)
  | giveBack (c : ℕ)
  | record (c : ℕ)
  | free (chunkId : String)
  | pop (c : ℕ)
  | unlink (c : ℕ)
  | checkFailover (chunkId : String) (now : ℚ)
  | registerHeartbeat (peerId : String) (vram : ℤ) (tflops latency now : ℚ)
  | submitVote (voterId chunkId proposedState : String) (now : ℚ)
  | reportCorruptedReplica (chunkId peerId : String)

namespace Mesh

/-- A cache that has just been constructed, with its failover manager. -/
def initial (maxQuotaBytes : ℤ) (heartbeatTimeout : ℚ) : Mesh :=
  ⟨⟨maxQuotaBytes, 0, .empty⟩, .initial heartbeatTimeout, [], 0, []⟩

def addCall (m : Mesh) (call : CacheCall) : Mesh := { m with calls := m.calls ++ [call] }

def setCall (m : Mesh) (c : ℕ) (call : CacheCall) : Mesh := { m with calls := m.calls.set c call }

/-- The beginning of `allocate_chunk` or `allocate_shard_replica`. -/
def allocate (m : Mesh) (chunkId : String) (size : ℕ) (replica : Option (String × List String)) : Mesh :=
  match m.cache.reserve chunkId size with
  | none => m.addCall .returned
  | some cache => { m with cache }.addCall (.reserved chunkId size replica)

/-- `SharedMemory(create=True, size=size)` under a name that nothing has, and the copy of the data into it. -/
def create (m : Mesh) (c : ℕ) (chunkId : String) (size : ℕ) (replica : Option (String × List String))
    (success : Bool) : Mesh :=
  if success then
    { m with segments := m.nextSegment :: m.segments, nextSegment := m.nextSegment + 1 }.setCall c
      (.created chunkId size m.nextSegment replica)
  else m.setCall c (.failed size)

/-- What a call does once its chunk is stored. -/
def afterStore (chunkId : String) : Option (String × List String) → CacheCall
  | none => .returned
  | some (primaryPeer, replicas) => .recording chunkId primaryPeer replicas

/-- The section of `free_chunk`: the cache without the chunk, and what is left to do of the call. -/
def popped (m : Mesh) (chunkId : String) : OffHeapCache × CacheCall :=
  match m.cache.pop chunkId with
  | none => (m.cache, .returned)
  | some (info, cache) => (cache, .unlinking info.segment)

/-- **One section of a call.** -/
def step (m : Mesh) : MeshEvent → Mesh
  | .allocate chunkId size replica => m.allocate chunkId size replica
  | .create c success =>
    match m.calls[c]? with
    | some (.reserved chunkId size replica) => m.create c chunkId size replica success
    | _ => m
  | .store c =>
    match m.calls[c]? with
    | some (.created chunkId size segment replica) =>
      { m with cache := m.cache.store chunkId ⟨segment, size⟩ }.setCall c (afterStore chunkId replica)
    | _ => m
  | .giveBack c =>
    match m.calls[c]? with
    | some (.failed size) => { m with cache := m.cache.giveBack size }.setCall c .returned
    | _ => m
  | .record c =>
    match m.calls[c]? with
    | some (.recording chunkId primaryPeer replicas) =>
      { m with failover := m.failover.recordReplica chunkId primaryPeer replicas }.setCall c .returned
    | _ => m
  | .free chunkId => { m with cache := (m.popped chunkId).1 }.addCall (m.popped chunkId).2
  | .pop c =>
    match m.calls[c]? with
    | some (.freeing chunkId) => { m with cache := (m.popped chunkId).1 }.setCall c (m.popped chunkId).2
    | _ => m
  | .unlink c =>
    match m.calls[c]? with
    | some (.unlinking segment) =>
      { m with segments := m.segments.filter fun x => decide (x ≠ segment) }.setCall c .returned
    | _ => m
  | .checkFailover chunkId now =>
    let checked := m.failover.checkFailover chunkId now
    { m with failover := checked.2 }.addCall
      (if checked.1 = FailoverVerdict.dropped then .freeing chunkId else .returned)
  | .registerHeartbeat peerId vram tflops latency now =>
    { m with failover := m.failover.registerHeartbeat peerId vram tflops latency now }
  | .submitVote voterId chunkId proposedState now =>
    { m with failover := (m.failover.submitVote voterId chunkId proposedState now).2 }
  | .reportCorruptedReplica chunkId peerId =>
    { m with failover := m.failover.reportCorruptedReplica chunkId peerId }

/-- No call is in progress. -/
def Quiescent (m : Mesh) : Prop := ∀ call ∈ m.calls, call = .returned

instance (m : Mesh) : Decidable m.Quiescent := inferInstanceAs (Decidable (∀ call ∈ m.calls, call = .returned))

end Mesh

end ComputeMesh.Runtime
