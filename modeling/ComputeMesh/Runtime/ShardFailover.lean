import ComputeMesh.Lib.Dict
import ComputeMesh.Lib.Run

/-!
# Shard failover by heartbeats and votes

`DecentralizedShardFailover` of `runtime/dynamic_sharding.py`.  Every method holds the lock for all that it does
to the manager, so that an operation here is one critical section, at the time the method reads from the clock.

* `ShardFailover.submitVote` — a vote, and whether it reaches the quorum;
* `ShardFailover.checkFailover` — the primary of a chunk, and what becomes of the chunk without one;
* `FailoverOp.run` — any of them.
-/

namespace ComputeMesh.Runtime

/-- `PeerCapabilityHeartbeat`; `active` says that the status is not `dead`. -/
structure PeerCapabilityHeartbeat where
  lastHeartbeat : ℚ
  vramAvailable : ℤ
  tflopsAvailable : ℚ
  networkLatencyMs : ℚ
  active : Bool

/-- `DecentralizedShardFailover`, without the cache manager. -/
structure ShardFailover where
  heartbeatTimeout : ℚ
  heartbeats : Dict String PeerCapabilityHeartbeat
  shardReplicas : Dict String (List String)
  activePrimary : Dict String String
  corruptedPeers : Dict String (List String)
  votes : Dict String (Dict String (Dict String String))

/-- What `check_failover` finds: no primary is known, the primary is healthy, another one has taken over, or
the chunk has to be freed. -/
inductive FailoverVerdict
  | unknown
  | healthy (peer : String)
  | promoted (peer : String)
  | dropped
  deriving DecidableEq

namespace ShardFailover

/-- A manager that has just been constructed. -/
def initial (heartbeatTimeout : ℚ) : ShardFailover := ⟨heartbeatTimeout, .empty, .empty, .empty, .empty, .empty⟩

/-- A heartbeat that counts at `now`. -/
def isFresh (s : ShardFailover) (now : ℚ) (hb : PeerCapabilityHeartbeat) : Bool :=
  decide (now - hb.lastHeartbeat ≤ s.heartbeatTimeout) && hb.active

def registerHeartbeat (s : ShardFailover) (peerId : String) (vram : ℤ) (tflops latency now : ℚ) :
    ShardFailover :=
  { s with heartbeats := s.heartbeats.set peerId ⟨now, vram, tflops, latency, true⟩ }

/-- The section of `allocate_shard_replica`, after the chunk has been stored. -/
def recordReplica (s : ShardFailover) (chunkId primaryPeer : String) (replicas : List String) : ShardFailover :=
  { s with
    activePrimary := s.activePrimary.set chunkId primaryPeer
    shardReplicas := s.shardReplicas.set chunkId replicas }

/-- The peers that are active at `now`. -/
def activePeers (s : ShardFailover) (now : ℚ) : List String :=
  (s.heartbeats.entries.filter fun e => s.isFresh now e.2).map Prod.fst

def votesFor (s : ShardFailover) (chunkId proposedState : String) : Dict String String :=
  (s.votes.getD chunkId .empty).getD proposedState .empty

/-- Whether the vote of a peer is taken: it has registered, and is not known to be dead. -/
def takesVoteOf (s : ShardFailover) (voterId : String) : Bool :=
  match s.heartbeats.get? voterId with
  | none => false
  | some hb => hb.active

def submitVote (s : ShardFailover) (voterId chunkId proposedState : String) (now : ℚ) : Bool × ShardFailover :=
  if !s.takesVoteOf voterId then (false, s)
  else
    let collected := (s.votesFor chunkId proposedState).set voterId "voted"
    let activePeersCount := (s.activePeers now).length
    let votesReceived := collected.entries.length
    let quorumNeeded := 2 * activePeersCount / 3 + 1
    if quorumNeeded ≤ votesReceived then (true, { s with votes := s.votes.set chunkId .empty })
    else
      (false, { s with
        votes := s.votes.set chunkId ((s.votes.getD chunkId .empty).set proposedState collected) })

def reportCorruptedReplica (s : ShardFailover) (chunkId peerId : String) : ShardFailover :=
  let corrupted := s.corruptedPeers.getD chunkId []
  { s with
    corruptedPeers := s.corruptedPeers.set chunkId
      (if peerId ∈ corrupted then corrupted else corrupted ++ [peerId]) }

/-- The replicas that can take a chunk over, with their latency. -/
def aliveReplicas (s : ShardFailover) (chunkId : String) (now : ℚ) : List (String × ℚ) :=
  (s.shardReplicas.getD chunkId []).filterMap fun replica =>
    if replica ∈ s.corruptedPeers.getD chunkId [] then none
    else
      match s.heartbeats.get? replica with
      | none => none
      | some hb => if s.isFresh now hb then some (replica, hb.networkLatencyMs) else none

/-- `primary_hb.status = "dead"`. -/
def markDead (s : ShardFailover) (peerId : String) : ShardFailover :=
  match s.heartbeats.get? peerId with
  | none => s
  | some hb => { s with heartbeats := s.heartbeats.set peerId { hb with active := false } }

/-- The section of `check_failover`. -/
def checkFailover (s : ShardFailover) (chunkId : String) (now : ℚ) : FailoverVerdict × ShardFailover :=
  match s.activePrimary.get? chunkId with
  | none => (.unknown, s)
  | some primaryPeer =>
    let corrupted := decide (primaryPeer ∈ s.corruptedPeers.getD chunkId [])
    let alive := (s.heartbeats.get? primaryPeer).any fun hb => s.isFresh now hb
    if alive && !corrupted then (.healthy primaryPeer, s)
    else
      let s := if corrupted then s else s.markDead primaryPeer
      match (s.aliveReplicas chunkId now).insertionSort fun a b => a.2 ≤ b.2 with
      | [] =>
        (.dropped, { s with
          activePrimary := s.activePrimary.erase chunkId
          shardReplicas := s.shardReplicas.erase chunkId })
      | (newPrimary, _) :: _ =>
        (.promoted newPrimary, { s with activePrimary := s.activePrimary.set chunkId newPrimary })

end ShardFailover

/-- An operation on the manager, with the time it reads. -/
inductive FailoverOp
  | registerHeartbeat (peerId : String) (vram : ℤ) (tflops latency now : ℚ)
  | recordReplica (chunkId primaryPeer : String) (replicas : List String)
  | submitVote (voterId chunkId proposedState : String) (now : ℚ)
  | reportCorruptedReplica (chunkId peerId : String)
  | checkFailover (chunkId : String) (now : ℚ)

/-- The manager after an operation. -/
def FailoverOp.run (s : ShardFailover) : FailoverOp → ShardFailover
  | .registerHeartbeat peerId vram tflops latency now => s.registerHeartbeat peerId vram tflops latency now
  | .recordReplica chunkId primaryPeer replicas => s.recordReplica chunkId primaryPeer replicas
  | .submitVote voterId chunkId proposedState now => (s.submitVote voterId chunkId proposedState now).2
  | .reportCorruptedReplica chunkId peerId => s.reportCorruptedReplica chunkId peerId
  | .checkFailover chunkId now => (s.checkFailover chunkId now).2

end ComputeMesh.Runtime
