import ComputeMesh.Lib.Json
import ComputeMesh.Lib.Run

/-!
# The worker high-availability protocol

`worker_ha_protocol.py`: clusters of workers with heartbeats, one recorded primary per cluster, and a fence token
that grows with every failover.  The manager keeps three dictionaries that have the same keys; here they are one,
with a `Cluster` under each key.

* `Cluster.register`, `Cluster.heartbeat`, `Cluster.evaluate` — what an operation does to its cluster;
* `HaManager.step` — the public operations, with what they return or raise;
* `HaManager.after` — the manager after a run.
-/

namespace ComputeMesh.Orchestrator

open ComputeMesh.Text

/-! ### Members and clusters -/

inductive WorkerRole
  | primary
  | standby
  | offline
  deriving DecidableEq

inductive WorkerLeaseState
  | active
  | degraded
  | expired
  | ejected
  deriving DecidableEq

structure WorkerMemberInfo where
  workerId : String
  clusterId : String
  role : WorkerRole
  priority : ℤ
  leaseState : WorkerLeaseState
  lastHeartbeat : ℚ
  fenceToken : ℤ
  metadata : List (String × Json)

/-- The members of a cluster, its fence token and recorded primary, and how often it has failed over. -/
structure Cluster where
  members : Dict String WorkerMemberInfo
  token : ℤ
  activePrimary : Option String
  failoverCount : ℕ

structure ClusterHAStatus where
  clusterId : String
  activePrimaryId : Option String
  fenceToken : ℤ
  activeMembers : List WorkerMemberInfo
  failoverCount : ℕ

namespace Cluster

/-- A cluster before its first worker. -/
def fresh : Cluster := ⟨Dict.empty, 1, none, 0⟩

/-- The recorded primary after a registration. -/
def primaryAfter (k : Cluster) (workerId : String) (role : WorkerRole) : Option String :=
  if role = .primary ∧ (k.activePrimary = none ∨ k.activePrimary = some workerId) then some workerId
  else k.activePrimary

/-- `register_worker` inside its cluster. -/
def register (k : Cluster) (clusterId : String) (now : ℚ) (workerId : String) (role : WorkerRole)
    (priority : ℤ) (metadata : List (String × Json)) : WorkerMemberInfo × Cluster :=
  let role' :=
    if role = .primary ∧ (k.activePrimary = none ∨ k.activePrimary = some workerId) then role
    else if k.activePrimary = some workerId then .primary
    else .standby
  let info : WorkerMemberInfo := ⟨workerId, clusterId, role', priority, .active, now, k.token, metadata⟩
  (info, { k with activePrimary := k.primaryAfter workerId role, members := k.members.set workerId info })

/-- A primary presents an older token than the cluster's. -/
def presentsStale (k : Cluster) (member : WorkerMemberInfo) : Option ℤ → Bool
  | none => false
  | some t => decide (member.role = .primary ∧ t < k.token)

/-- `heartbeat` of a member that is there. -/
def heartbeat (k : Cluster) (clusterId : String) (now : ℚ) (member : WorkerMemberInfo) (workerId : String)
    (fenceToken : Option ℤ) : Except String WorkerMemberInfo × Cluster :=
  if member.leaseState = .ejected then
    (.error ("Worker " ++ workerId ++ " has been EJECTED from cluster " ++ clusterId), k)
  else if k.presentsStale member fenceToken then
    (.error ("Stale fence_token " ++ toString (fenceToken.getD 0) ++ " presented by primary " ++ workerId ++
      " (current: " ++ toString k.token ++ ")"),
      { k with members := k.members.set workerId { member with leaseState := .ejected, role := .offline } })
  else
    let member' := { member with lastHeartbeat := now, leaseState := .active, fenceToken := k.token }
    (.ok member', { k with members := k.members.set workerId member' })

/-- A member whose heartbeat is too old. -/
def lapsed (leaseTtl now : ℚ) (m : WorkerMemberInfo) : Bool := decide (leaseTtl < now - m.lastHeartbeat)

/-- What the heartbeat check makes of a member. -/
def checked (leaseTtl now : ℚ) (m : WorkerMemberInfo) : WorkerMemberInfo :=
  if lapsed leaseTtl now m then { m with leaseState := .expired, role := .offline } else m

def primaryExpired (leaseTtl now : ℚ) (k : Cluster) : Bool :=
  k.members.values.any fun m => lapsed leaseTtl now m && decide (m.role = .primary)

/-- `_elect_standby_primary`, which reads the clock once more. -/
def electStandbyPrimary (leaseTtl now : ℚ) (members : Dict String WorkerMemberInfo) :
    Option WorkerMemberInfo :=
  let candidates := members.values.filter fun m =>
    decide (m.leaseState = .active ∧ now - m.lastHeartbeat ≤ leaseTtl)
  (candidates.insertionSort fun a b =>
    b.priority < a.priority ∨ a.priority = b.priority ∧ a.lastHeartbeat ≤ b.lastHeartbeat).head?

/-- The recorded primary is there and not active. -/
def primaryInactive (members : Dict String WorkerMemberInfo) : Option String → Bool
  | none => false
  | some w =>
    match members.get? w with
    | none => false
    | some m => decide (m.leaseState ≠ .active)

/-- `evaluate_cluster_health` of a cluster that is there; the second time is what the election reads. -/
def evaluate (leaseTtl now electionNow : ℚ) (k : Cluster) : Cluster :=
  let members := k.members.mapValues (checked leaseTtl now)
  if primaryExpired leaseTtl now k = true ∨ k.activePrimary = none ∨
      primaryInactive members k.activePrimary = true then
    let token := k.token + 1
    match electStandbyPrimary leaseTtl electionNow members with
    | some p =>
      { members := members.set p.workerId { p with role := .primary, leaseState := .active, fenceToken := token }
        token := token
        activePrimary := some p.workerId
        failoverCount := k.failoverCount + 1 }
    | none => { k with members := members, token := token, activePrimary := none }
  else { k with members := members }

/-- The status that an evaluation returns. -/
def status (k : Cluster) (clusterId : String) : ClusterHAStatus where
  clusterId := clusterId
  activePrimaryId := k.activePrimary
  fenceToken := k.token
  activeMembers := k.members.values.filter fun m => decide (m.leaseState = .active)
  failoverCount := k.failoverCount

end Cluster

/-! ### The manager -/

/-- One call of `validate_worker_action`, with the times its evaluation reads. -/
structure WorkerAction where
  now : ℚ
  electionNow : ℚ
  clusterId : String
  workerId : String
  fenceToken : ℤ

/-- The operations of the manager. -/
inductive HaOp
  | registerWorker (now : ℚ) (clusterId workerId : String) (role : WorkerRole) (priority : ℤ)
      (metadata : List (String × Json))
  | heartbeat (now : ℚ) (clusterId workerId : String) (fenceToken : Option ℤ)
  | evaluateClusterHealth (now electionNow : ℚ) (clusterId : String)
  | validateWorkerAction (action : WorkerAction)

/-- What an operation returns or raises. -/
inductive HaOutcome
  | member (info : WorkerMemberInfo)
  | status (s : ClusterHAStatus)
  | validated
  | raised (message : String)

/-- `WorkerHAClusterManager`: its clusters by their id. -/
structure HaManager where
  clusters : Dict String Cluster

namespace HaManager

def empty : HaManager := ⟨Dict.empty⟩

def get? (m : HaManager) (clusterId : String) : Option Cluster := m.clusters.get? clusterId

/-- Replace a cluster. -/
def set (m : HaManager) (clusterId : String) (k : Cluster) : HaManager := ⟨m.clusters.set clusterId k⟩

theorem get?_set (m : HaManager) (c c' : String) (k : Cluster) :
    (m.set c k).get? c' = if c' = c then some k else m.get? c' :=
  m.clusters.get?_set c c' k

def evaluateClusterHealth (leaseTtl now electionNow : ℚ) (m : HaManager) (clusterId : String) :
    ClusterHAStatus × HaManager :=
  let cId := strip clusterId
  match m.get? cId with
  | none => (⟨cId, none, 0, [], 0⟩, m)
  | some k =>
    let k' := k.evaluate leaseTtl now electionNow
    (k'.status cId, m.set cId k')

/-- The text of an id that may be `None`. -/
def idText : Option String → String
  | none => "None"
  | some id => id

/-- One operation. -/
def step (leaseTtl : ℚ) (m : HaManager) : HaOp → HaOutcome × HaManager
  | .registerWorker now clusterId workerId role priority metadata =>
    let cId := strip clusterId
    let wId := strip workerId
    if cId = "" ∨ wId = "" then (.raised "cluster_id and worker_id are required", m)
    else
      let (info, k) := ((m.get? cId).getD .fresh).register cId now wId role priority metadata
      (.member info, m.set cId k)
  | .heartbeat now clusterId workerId fenceToken =>
    let cId := strip clusterId
    let wId := strip workerId
    let unknown := HaOutcome.raised ("Worker " ++ wId ++ " is not registered in cluster " ++ cId)
    match m.get? cId with
    | none => (unknown, m)
    | some k =>
      match k.members.get? wId with
      | none => (unknown, m)
      | some member =>
        match k.heartbeat cId now member wId fenceToken with
        | (.error message, k') => (.raised message, m.set cId k')
        | (.ok info, k') => (.member info, m.set cId k')
  | .evaluateClusterHealth now electionNow clusterId =>
    let (s, m') := m.evaluateClusterHealth leaseTtl now electionNow clusterId
    (.status s, m')
  | .validateWorkerAction a =>
    let cId := strip a.clusterId
    let wId := strip a.workerId
    let (s, m') := m.evaluateClusterHealth leaseTtl a.now a.electionNow a.clusterId
    if s.activePrimaryId ≠ some wId then
      (.raised ("Worker " ++ wId ++ " is not the elected active primary in cluster " ++ cId ++ " (active: " ++
        idText s.activePrimaryId ++ ")"), m')
    else if a.fenceToken < s.fenceToken then
      (.raised ("Fenced token mismatch for worker " ++ wId ++ ": got " ++ toString a.fenceToken ++
        ", active is " ++ toString s.fenceToken), m')
    else (.validated, m')

/-- The manager after a run of operations. -/
def after (leaseTtl : ℚ) (ops : List HaOp) : HaManager :=
  Run.exec (fun m op => (m.step leaseTtl op).2) empty ops

end HaManager

/-- The fence tokens in what an operation returns, with their clusters. -/
def HaOutcome.tokens : HaOutcome → List (String × ℤ)
  | member info => [(info.clusterId, info.fenceToken)]
  | status s => (s.clusterId, s.fenceToken) :: s.activeMembers.map fun m => (m.clusterId, m.fenceToken)
  | validated => []
  | raised _ => []

/-- The fence tokens a run has handed out. -/
def HaManager.handedOut (leaseTtl : ℚ) (m : HaManager) : List HaOp → List (String × ℤ)
  | [] => []
  | op :: ops => (m.step leaseTtl op).1.tokens ++ handedOut leaseTtl (m.step leaseTtl op).2 ops

end ComputeMesh.Orchestrator
