import ComputeMesh.Lib.Dict
import ComputeMesh.Lib.Run
import ComputeMesh.Lib.Text

/-!
# The capacity guard of a provider node

`LocalCapacityGuard` of `runtime/capacity_guard.py`: reservations by job, each with a lease and a time of expiry,
within a number of job slots, a total memory and a memory for each device.  Times are in microseconds; every method
holds the lock for all that it does.

* `GuardLimits` — what the constructor accepts, with the bounds that it has checked;
* `LocalCapacityGuard.acquire`, `release`, `renew`, `pruneExpired`, `requireActiveLease` — the methods;
* `GuardOp.run` — any of them.
-/

namespace ComputeMesh.Runtime

open ComputeMesh.Text

/-- The exceptions of the guard, with their texts. -/
inductive CapacityGuardError
  | valueError (message : String)
  | capacityExceeded (message : String)
  | invalidLease (message : String)
  deriving DecidableEq

structure CapacityReservation where
  reservationId : String
  leaseId : String
  jobId : String
  nodeId : String
  deviceId : String
  memoryMb : ℤ
  acquiredAt : ℤ
  expiresAt : ℤ
  deriving DecidableEq

def CapacityReservation.isExpired (r : CapacityReservation) (now : ℤ) : Bool := decide (r.expiresAt ≤ now)

/-! ### The limits of a node -/

/-- The profiled devices with their memory. -/
structure DeviceMemory where
  limits : Dict String ℤ
  positive : ∀ device limit, limits.get? device = some limit → 1 ≤ limit

def DeviceMemory.empty : DeviceMemory := ⟨.empty, by simp⟩

def DeviceMemory.set (d : DeviceMemory) (device : String) (limit : ℤ) (h : 1 ≤ limit) : DeviceMemory where
  limits := d.limits.set device limit
  positive := by
    intro device' limit' hget
    rcases Dict.get?_set_eq_some.mp hget with ⟨-, hget⟩ | ⟨-, hget⟩
    · exact hget ▸ h
    · exact d.positive device' limit' hget

/-- What the constructor has checked. -/
structure GuardLimits where
  nodeId : String
  maxConcurrentJobs : ℤ
  totalMemoryMb : Option ℤ
  deviceMemoryMb : DeviceMemory
  defaultTtlSeconds : ℤ
  jobs_pos : 1 ≤ maxConcurrentJobs
  total_pos : ∀ total, totalMemoryMb = some total → 1 ≤ total
  ttl_bounds : 1 ≤ defaultTtlSeconds ∧ defaultTtlSeconds ≤ 3600

/-- The normalisation of one profiled device. -/
def addDevice (d : DeviceMemory) (device : String × ℤ) : Except CapacityGuardError DeviceMemory :=
  let deviceId := strip device.1
  if deviceId = "" ∨ 128 < deviceId.toList.length then
    .error (.valueError "device IDs must be non-empty and at most 128 characters")
  else if h : 1 ≤ device.2 then .ok (d.set deviceId device.2 h)
  else .error (.valueError "device memory must be at least 1 MB")

/-- `LocalCapacityGuard.__init__`. -/
def GuardLimits.init (nodeId : String) (maxConcurrentJobs : ℤ) (totalMemoryMb : Option ℤ)
    (deviceMemoryMb : List (String × ℤ)) (defaultTtlSeconds : ℤ) : Except CapacityGuardError GuardLimits :=
  if nodeId = "" then .error (.valueError "node_id must be non-empty text")
  else if hjobs : 1 ≤ maxConcurrentJobs then
    if htotal : ∀ total ∈ totalMemoryMb, 1 ≤ total then
      match deviceMemoryMb.foldlM addDevice .empty with
      | .error e => .error e
      | .ok devices =>
        if httl : 1 ≤ defaultTtlSeconds ∧ defaultTtlSeconds ≤ 3600 then
          .ok ⟨nodeId, maxConcurrentJobs, totalMemoryMb, devices, defaultTtlSeconds, hjobs,
            fun total h => htotal total h, httl⟩
        else .error (.valueError "default_ttl_seconds must be between 1 and 3600")
    else .error (.valueError "total_memory_mb must be >= 1 if specified")
  else .error (.valueError "max_concurrent_jobs must be >= 1")

/-! ### The guard -/

structure LocalCapacityGuard where
  limits : GuardLimits
  reservations : Dict String CapacityReservation

/-- The arguments of `acquire`. -/
structure AcquireRequest where
  jobId : String
  leaseId : Option String := none
  memoryMb : ℤ := 0
  ttlSeconds : Option ℤ := none
  deviceId : String := "default"

/-- `lease_id or f"local-lease-..."`, from the random part of the latter. -/
def AcquireRequest.effectiveLeaseId (a : AcquireRequest) (leaseToken : String) : String :=
  textOr (a.leaseId.getD "") ("local-lease-" ++ leaseToken)

namespace LocalCapacityGuard

/-- A guard that has just been constructed. -/
def start (limits : GuardLimits) : LocalCapacityGuard := ⟨limits, .empty⟩

/-- The sum of the reserved memory. -/
def usedMemory (reservations : Dict String CapacityReservation) : ℤ := reservations.sumBy fun r => r.memoryMb

/-- The sum of the memory reserved on a device. -/
def deviceUsed (reservations : Dict String CapacityReservation) (device : String) : ℤ :=
  reservations.sumBy fun r => if r.deviceId = device then r.memoryMb else 0

def activeAt (s : LocalCapacityGuard) (now : ℤ) : Dict String CapacityReservation :=
  s.reservations.filter fun _ r => !r.isExpired now

/-- `_prune_expired_locked`. -/
def pruneExpired (s : LocalCapacityGuard) (now : ℤ) : LocalCapacityGuard := { s with reservations := s.activeAt now }

/-- The checks of the arguments of `acquire`: the device and the time to live. -/
def checkRequest (s : LocalCapacityGuard) (a : AcquireRequest) : Except CapacityGuardError (String × ℤ) :=
  let deviceId := strip a.deviceId
  let ttl := a.ttlSeconds.getD s.limits.defaultTtlSeconds
  if a.jobId = "" then .error (.valueError "job_id must be non-empty text")
  else if a.memoryMb < 0 then .error (.valueError "memory_mb cannot be negative")
  else if deviceId = "" ∨ 128 < deviceId.toList.length then
    .error (.valueError "device_id must be non-empty and at most 128 characters")
  else if 1 ≤ ttl ∧ ttl ≤ 3600 then .ok (deviceId, ttl)
  else .error (.valueError "ttl_seconds must be between 1 and 3600")

/-- The device that a reservation is for. -/
def resolveDevice (s : LocalCapacityGuard) (deviceId : String) : Except CapacityGuardError String :=
  match s.limits.deviceMemoryMb.limits.entries with
  | [] => .ok deviceId
  | (first, _) :: others =>
    if deviceId = "default" ∧ others ≠ [] then
      .error (.capacityExceeded "default device is ambiguous for a node with multiple profiled devices")
    else
      let deviceId := if deviceId = "default" then first else deviceId
      if s.limits.deviceMemoryMb.limits.contains deviceId then .ok deviceId
      else .error (.capacityExceeded ("device '" ++ deviceId ++ "' is not present in the node profile"))

def checkCapacity (s : LocalCapacityGuard) (deviceId : String) (memoryMb : ℤ) : Except CapacityGuardError Unit :=
  let activeCount : ℤ := s.reservations.entries.length
  let used := usedMemory s.reservations
  let deviceUsed := deviceUsed s.reservations deviceId
  if s.limits.maxConcurrentJobs ≤ activeCount then
    .error (.capacityExceeded ("concurrent job limit reached (" ++ toString activeCount ++ "/" ++
      toString s.limits.maxConcurrentJobs ++ ")"))
  else if s.limits.totalMemoryMb.any fun total => decide (total < used + memoryMb) then
    .error (.capacityExceeded ("insufficient local memory: requesting " ++ toString memoryMb ++ " MB, used " ++
      toString used ++ "/" ++ toString (s.limits.totalMemoryMb.getD 0) ++ " MB"))
  else
    match s.limits.deviceMemoryMb.limits.get? deviceId with
    | none => .ok ()
    | some limit =>
      if limit < deviceUsed + memoryMb then
        .error (.capacityExceeded ("insufficient memory on device '" ++ deviceId ++ "': requesting " ++
          toString memoryMb ++ " MB, used " ++ toString deviceUsed ++ "/" ++ toString limit ++ " MB"))
      else .ok ()

/-- The part of `acquire` under the lock, after the pruning. -/
def acquirePruned (s : LocalCapacityGuard) (a : AcquireRequest) (deviceId : String) (ttl now : ℤ)
    (leaseId reservationToken : String) : Except CapacityGuardError CapacityReservation × LocalCapacityGuard :=
  match s.resolveDevice deviceId with
  | .error e => (.error e, s)
  | .ok deviceId =>
    match (s.reservations.get? a.jobId).filter fun existing => !existing.isExpired now with
    | some existing =>
      if existing.leaseId = leaseId then (.ok existing, s)
      else (.error (.capacityExceeded ("job '" ++ a.jobId ++ "' already holds an active reservation")), s)
    | none =>
      match s.checkCapacity deviceId a.memoryMb with
      | .error e => (.error e, s)
      | .ok () =>
        let reservation : CapacityReservation :=
          ⟨"res-" ++ reservationToken, leaseId, a.jobId, s.limits.nodeId, deviceId, a.memoryMb, now,
            now + 1000000 * ttl⟩
        (.ok reservation, { s with reservations := s.reservations.set a.jobId reservation })

def acquire (s : LocalCapacityGuard) (a : AcquireRequest) (now : ℤ) (leaseToken reservationToken : String) :
    Except CapacityGuardError CapacityReservation × LocalCapacityGuard :=
  match s.checkRequest a with
  | .error e => (.error e, s)
  | .ok (deviceId, ttl) =>
    (s.pruneExpired now).acquirePruned a deviceId ttl now (a.effectiveLeaseId leaseToken) reservationToken

def release (s : LocalCapacityGuard) (jobId : String) (leaseId : Option String) : Bool × LocalCapacityGuard :=
  match s.reservations.get? jobId with
  | none => (false, s)
  | some existing =>
    if leaseId = none ∨ leaseId = some existing.leaseId then
      (true, { s with reservations := s.reservations.erase jobId })
    else (false, s)

def requireActiveLease (s : LocalCapacityGuard) (leaseId : String) (now : ℤ) :
    Except CapacityGuardError CapacityReservation × LocalCapacityGuard :=
  let normalized := strip leaseId
  if normalized = "" then (.error (.invalidLease "lease_id must be non-empty"), s)
  else
    let s := s.pruneExpired now
    match s.reservations.values.find? fun r => decide (r.leaseId = normalized) with
    | some reservation => (.ok reservation, s)
    | none => (.error (.invalidLease ("no active reservation found for lease '" ++ normalized ++ "'")), s)

def renew (s : LocalCapacityGuard) (jobId : String) (additionalSeconds now : ℤ) :
    Except CapacityGuardError CapacityReservation × LocalCapacityGuard :=
  if 1 ≤ additionalSeconds ∧ additionalSeconds ≤ 3600 then
    let s := s.pruneExpired now
    match (s.reservations.get? jobId).filter fun existing => !existing.isExpired now with
    | none => (.error (.invalidLease ("no active reservation found for job '" ++ jobId ++ "' to renew")), s)
    | some existing =>
      let updated := { existing with expiresAt := max existing.expiresAt now + 1000000 * additionalSeconds }
      (.ok updated, { s with reservations := s.reservations.set jobId updated })
  else (.error (.valueError "additional_seconds must be between 1 and 3600"), s)

end LocalCapacityGuard

/-- A call of a method, with the time it reads and the random texts it draws. -/
inductive GuardOp
  | acquire (a : AcquireRequest) (now : ℤ) (leaseToken reservationToken : String)
  | release (jobId : String) (leaseId : Option String)
  | renew (jobId : String) (additionalSeconds now : ℤ)
  | pruneExpired (now : ℤ)
  | requireActiveLease (leaseId : String) (now : ℤ)

/-- The guard after a call. -/
def GuardOp.run (s : LocalCapacityGuard) : GuardOp → LocalCapacityGuard
  | .acquire a now leaseToken reservationToken => (s.acquire a now leaseToken reservationToken).2
  | .release jobId leaseId => (s.release jobId leaseId).2
  | .renew jobId additionalSeconds now => (s.renew jobId additionalSeconds now).2
  | .pruneExpired now => s.pruneExpired now
  | .requireActiveLease leaseId now => (s.requireActiveLease leaseId now).2

end ComputeMesh.Runtime
