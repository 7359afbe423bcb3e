import ComputeMesh.Lib.Tally
import ComputeMesh.Lib.Checks

/-!
# The admission gates of the workers

`WorkerConcurrencyGate` and `DurableWorkerConcurrencyGate` of `services/mcp/platform/worker.py`.  A worker asks the gate
before it claims a turn and gives its admission back afterwards.

* `WorkerConcurrencyBudget` — the limits, within their bounds;
* `WorkerConcurrencyGate` — counters and a map of the keys, in one process;
* `DurableWorkerConcurrencyGate` — rows with leases, in the database.
-/

namespace ComputeMesh.Platform

/-- The limits, as `__post_init__` accepts them. -/
structure WorkerConcurrencyBudget where
  globalLimit : ℕ := 32
  principalLimit : ℕ := 4
  sessionLimit : ℕ := 1
  tenantLimit : Option ℕ := none
  inRange : ∀ limit ∈ [globalLimit, principalLimit, sessionLimit] ++ tenantLimit.toList, 1 ≤ limit ∧ limit ≤ 10000

inductive GateError
  | typeError (message : String)
  | valueError (message : String)
  | agentWorkerError (message : String)
  deriving DecidableEq, Repr

/-- The keyword arguments that both gates have. -/
structure GateRequest where
  principalId : String
  sessionId : String
  admissionKey : Option String := none
  tenantId : String := ""
  deriving DecidableEq, Repr

structure GateSnapshot where
  activeGlobal : ℕ
  activePrincipals : Dict String ℕ
  activeSessions : Dict String ℕ
  activeTenants : Dict String ℕ
  budget : WorkerConcurrencyBudget

namespace GateRequest

/-- The key, if it counts as given: `if admission_key`. -/
def key (q : GateRequest) : Option String := q.admissionKey.filter fun key => decide (key ≠ "")

/-- `_validate_ids`, and the same checks in `WorkerConcurrencyGate.try_acquire`. -/
def validateIds (q : GateRequest) : Except GateError Unit :=
  if q.principalId = "" ∨ q.sessionId = "" then .error (.valueError "principal_id and session_id are required")
  else if 160 < q.tenantId.length then .error (.valueError "tenant_id is too long")
  else .ok ()

end GateRequest

/-- `limit is not None and count >= limit`. -/
def tenantLimitReached (limit : Option ℕ) (count : ℕ) : Bool := limit.any fun limit => decide (limit ≤ count)

/-! ### The gate in memory -/

structure WorkerConcurrencyGate where
  activeGlobal : ℕ := 0
  activePrincipals : Dict String ℕ := Dict.empty
  activeSessions : Dict String ℕ := Dict.empty
  activeTenants : Dict String ℕ := Dict.empty
  admissions : Dict String (String × String × String) := Dict.empty

namespace WorkerConcurrencyGate

/-- The admission of the key, if one is given and known. -/
def existing (gate : WorkerConcurrencyGate) (q : GateRequest) : Option (String × String × String) :=
  q.key.bind gate.admissions.get?

def full (budget : WorkerConcurrencyBudget) (gate : WorkerConcurrencyGate) (q : GateRequest) : Bool :=
  decide (budget.globalLimit ≤ gate.activeGlobal) ||
    decide (budget.principalLimit ≤ gate.activePrincipals.getD q.principalId 0) ||
    decide (budget.sessionLimit ≤ gate.activeSessions.getD q.sessionId 0) ||
    (decide (q.tenantId ≠ "") && tenantLimitReached budget.tenantLimit (gate.activeTenants.getD q.tenantId 0))

/-- The counters go up. -/
def counted (gate : WorkerConcurrencyGate) (q : GateRequest) : WorkerConcurrencyGate where
  activeGlobal := gate.activeGlobal + 1
  activePrincipals := gate.activePrincipals.raised q.principalId
  activeSessions := gate.activeSessions.raised q.sessionId
  activeTenants := if q.tenantId = "" then gate.activeTenants else gate.activeTenants.raised q.tenantId
  admissions :=
    match q.key with
    | some key => gate.admissions.set key (q.principalId, q.sessionId, q.tenantId)
    | none => gate.admissions

def tryAcquire (budget : WorkerConcurrencyBudget) (gate : WorkerConcurrencyGate) (q : GateRequest) :
    Except GateError (Bool × WorkerConcurrencyGate) := do
  q.validateIds
  match gate.existing q with
  | some existing => .ok (decide (existing = (q.principalId, q.sessionId, q.tenantId)), gate)
  | none => if gate.full budget q then .ok (false, gate) else .ok (true, gate.counted q)

/-- The counters go down. -/
def discharge (gate : WorkerConcurrencyGate) (q : GateRequest) : WorkerConcurrencyGate where
  activeGlobal := gate.activeGlobal - 1
  activePrincipals := gate.activePrincipals.lowered q.principalId
  activeSessions := gate.activeSessions.lowered q.sessionId
  activeTenants := if q.tenantId = "" then gate.activeTenants else gate.activeTenants.lowered q.tenantId
  admissions :=
    match q.key with
    | some key => gate.admissions.erase key
    | none => gate.admissions

/-- The second part of `release`, from the check of the counters on. -/
def giveBack (gate : WorkerConcurrencyGate) (q : GateRequest) : Except GateError WorkerConcurrencyGate :=
  if gate.activeGlobal ≤ 0 ∨ gate.activePrincipals.getD q.principalId 0 ≤ 0 ∨ gate.activeSessions.getD q.sessionId 0 ≤ 0 then
    .error (.agentWorkerError "worker concurrency release has no matching admission")
  else if q.tenantId ≠ "" ∧ gate.activeTenants.getD q.tenantId 0 ≤ 0 then
    .error (.agentWorkerError "worker tenant concurrency release has no matching admission")
  else .ok (gate.discharge q)

def release (gate : WorkerConcurrencyGate) (q : GateRequest) : Except GateError WorkerConcurrencyGate :=
  match gate.existing q with
  | some (principal, session, tenant) =>
    if (principal, session) ≠ (q.principalId, q.sessionId) then
      .error (.agentWorkerError "worker concurrency release does not match its admission")
    else if q.tenantId = "" then gate.giveBack { q with tenantId := tenant }
    else if q.tenantId ≠ tenant then
      .error (.agentWorkerError "worker concurrency release tenant does not match its admission")
    else gate.giveBack q
  | none => gate.giveBack q

def snapshot (budget : WorkerConcurrencyBudget) (gate : WorkerConcurrencyGate) : GateSnapshot :=
  ⟨gate.activeGlobal, gate.activePrincipals, gate.activeSessions, gate.activeTenants, budget⟩

end WorkerConcurrencyGate

/-! ### The gate in the database -/

/-- A row of `agent_worker_admissions`. -/
structure AdmissionRow where
  admissionId : ℕ
  admissionKey : String
  workerId : String
  principalId : String
  sessionId : String
  tenantId : String
  acquiredAt : ℚ
  heartbeatAt : ℚ
  expiresAt : ℚ
  releasedAt : Option ℚ := none
  deriving DecidableEq, Repr

namespace AdmissionRow

/-- `released_at IS NULL`. -/
def active (row : AdmissionRow) : Bool := row.releasedAt.isNone

/-- `released_at IS NULL AND expires_at <= ?`. -/
def expired (now : ℚ) (row : AdmissionRow) : Bool := row.active && decide (row.expiresAt ≤ now)

/-- `principal_id = ? AND session_id = ? AND (? = '' OR tenant_id = ?)`. -/
def isOf (q : GateRequest) (row : AdmissionRow) : Bool :=
  decide (row.principalId = q.principalId) && decide (row.sessionId = q.sessionId) &&
    (decide (q.tenantId = "") || decide (row.tenantId = q.tenantId))

/-- `SET heartbeat_at = ?, expires_at = ?`. -/
def extend (leaseSeconds now : ℚ) (row : AdmissionRow) : AdmissionRow :=
  { row with heartbeatAt := now, expiresAt := now + leaseSeconds }

/-- `SET released_at = ?`. -/
def release (now : ℚ) (row : AdmissionRow) : AdmissionRow := { row with releasedAt := some now }

end AdmissionRow

/-- `ORDER BY acquired_at DESC LIMIT 1`: which of several newest rows comes first is left to the database. -/
structure NewestFirst where
  pick : List AdmissionRow → Option AdmissionRow
  mem : ∀ {rows row}, pick rows = some row → row ∈ rows
  newest : ∀ {rows row}, pick rows = some row → ∀ other ∈ rows, other.acquiredAt ≤ row.acquiredAt
  some_of_mem : ∀ {rows row}, row ∈ rows → pick rows ≠ none

/-- The table, with the id that the next row gets: of a random id only matters that it is new. -/
structure DurableWorkerConcurrencyGate where
  rows : List AdmissionRow := []
  nextId : ℕ := 0

namespace DurableWorkerConcurrencyGate

def reclaimExpired (gate : DurableWorkerConcurrencyGate) (now : ℚ) : DurableWorkerConcurrencyGate :=
  { gate with rows := gate.rows.filter fun row => !row.expired now }

/-- `SELECT COUNT(*) ... WHERE released_at IS NULL AND ...`. -/
def count (gate : DurableWorkerConcurrencyGate) (p : AdmissionRow → Bool) : ℕ :=
  (gate.rows.filter fun row => row.active && p row).length

def full (budget : WorkerConcurrencyBudget) (gate : DurableWorkerConcurrencyGate) (q : GateRequest) : Bool :=
  decide (budget.globalLimit ≤ gate.count fun _ => true) ||
    decide (budget.principalLimit ≤ gate.count fun row => decide (row.principalId = q.principalId)) ||
    decide (budget.sessionLimit ≤ gate.count fun row => decide (row.sessionId = q.sessionId)) ||
    (decide (q.tenantId ≠ "") &&
      tenantLimitReached budget.tenantLimit (gate.count fun row => decide (row.tenantId = q.tenantId)))

/-- The key under which an admission is stored: `str(admission_key or f"{worker_id}:{session}")`. -/
def storedKey (q : GateRequest) (workerId : String) : String := q.key.getD (workerId ++ ":" ++ q.sessionId)

def existing (gate : DurableWorkerConcurrencyGate) (key : String) : Option AdmissionRow :=
  gate.rows.find? fun row => row.active && decide (row.admissionKey = key)

/-- A repeated request extends the lease. -/
def extend (leaseSeconds : ℚ) (gate : DurableWorkerConcurrencyGate) (admissionId : ℕ) (now : ℚ) :
    DurableWorkerConcurrencyGate :=
  { gate with
    rows := gate.rows.map fun row => if row.admissionId = admissionId then row.extend leaseSeconds now else row }

def insert (leaseSeconds : ℚ) (gate : DurableWorkerConcurrencyGate) (q : GateRequest) (workerId : String) (now : ℚ) :
    DurableWorkerConcurrencyGate where
  rows := gate.rows ++
    [{ admissionId := gate.nextId, admissionKey := storedKey q workerId, workerId, principalId := q.principalId
       sessionId := q.sessionId, tenantId := q.tenantId, acquiredAt := now, heartbeatAt := now
       expiresAt := now + leaseSeconds }]
  nextId := gate.nextId + 1

def tryAcquire (budget : WorkerConcurrencyBudget) (leaseSeconds : ℚ) (gate : DurableWorkerConcurrencyGate)
    (q : GateRequest) (workerId : String) (now : ℚ) : Except GateError (Bool × DurableWorkerConcurrencyGate) := do
  q.validateIds
  if storedKey q workerId = "" then .error (.valueError "admission_key or worker_id is required")
  else
    let gate := gate.reclaimExpired now
    match gate.existing (storedKey q workerId) with
    | some row =>
      if row.principalId ≠ q.principalId ∨ row.sessionId ≠ q.sessionId ∨ row.tenantId ≠ q.tenantId then .ok (false, gate)
      else .ok (true, gate.extend leaseSeconds row.admissionId now)
    | none => if gate.full budget q then .ok (false, gate) else .ok (true, gate.insert leaseSeconds q workerId now)

/-- The update of `release`, which has to hit one row. -/
def releaseWhere (gate : DurableWorkerConcurrencyGate) (p : AdmissionRow → Bool) (now : ℚ) :
    Except GateError DurableWorkerConcurrencyGate :=
  if (gate.rows.filter p).length ≠ 1 then
    .error (.agentWorkerError "worker concurrency release has no matching admission")
  else .ok { gate with rows := gate.rows.map fun row => if p row then row.release now else row }

def release (order : NewestFirst) (gate : DurableWorkerConcurrencyGate) (q : GateRequest) (now : ℚ) :
    Except GateError DurableWorkerConcurrencyGate := do
  q.validateIds
  match q.key with
  | some key => gate.releaseWhere (fun row => decide (row.admissionKey = key) && row.isOf q && row.active) now
  | none =>
    let newest := order.pick (gate.rows.filter fun row => row.isOf q && row.active)
    gate.releaseWhere (fun row => decide (some row.admissionId = newest.map AdmissionRow.admissionId)) now

/-- `snapshot`, with the rows it leaves. -/
def snapshot (budget : WorkerConcurrencyBudget) (gate : DurableWorkerConcurrencyGate) (now : ℚ) :
    GateSnapshot × DurableWorkerConcurrencyGate :=
  let gate := gate.reclaimExpired now
  let rows := gate.rows.filter AdmissionRow.active
  (⟨rows.length, tally (rows.map AdmissionRow.principalId), tally (rows.map AdmissionRow.sessionId),
    tally ((rows.map AdmissionRow.tenantId).filter fun tenant => decide (tenant ≠ "")), budget⟩, gate)

end DurableWorkerConcurrencyGate

end ComputeMesh.Platform
