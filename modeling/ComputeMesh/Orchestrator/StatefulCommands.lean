import ComputeMesh.Lib.Json
import ComputeMesh.Lib.Md5
import ComputeMesh.Lib.Sqlite
import ComputeMesh.Orchestrator.StoreCalls

/-!
# Commands and capacity leases on the store's connection

`architecture_hardening_part7.py`: the command enforcer and the table of capacity leases, which work in savepoints
on the connection of the state store.  The store opens that connection with `isolation_level=None`, so nothing
opens a transaction implicitly and the extra `commit()` after a release is never called.

* `executeWithSavepoint` — the savepoint both classes wrap their statements in;
* `CapacityOp.perform` — the statements of the lease table;
* `Call`, `Body` — the calls on the connection; the body of a command makes further calls and may raise;
* `Call.run` — what a call does.
-/

namespace ComputeMesh.Orchestrator

open ComputeMesh.Text

/-! ### The tables -/

/-- A row of `part7_idempotency_log`; the result is kept as the value its text encodes. -/
structure IdempotencyRow where
  commandType : String
  result : Json
  executedAt : UtcTime

/-- A row of `part7_capacity_leases`. -/
structure CapacityLease where
  amount : ℤ
  expiresAt : ℚ
  jobId : Option String
  deriving DecidableEq

/-- What the connection holds. -/
structure ControlDatabase where
  store : StateStore
  idempotencyLog : Dict String IdempotencyRow
  capacityLeases : Dict String CapacityLease

/-- The exceptions of a call. -/
inductive CallExn
  | store (e : Exn)
  | operational (message : String)
  | integrity (message : String)
  | overflow (message : String)
  | type (message : String)
  | idempotency (message : String)
  | capacity (message : String)
  | raised (typeName : String)
  deriving DecidableEq

/-! ### Savepoints -/

def executeWithSavepoint {α : Type} (c : Connection ControlDatabase) (savepointName : String)
    (fn : ControlDatabase → Except CallExn α × ControlDatabase) :
    Except CallExn α × Connection ControlDatabase :=
  let c₁ := c.savepoint savepointName
  let rollBack (e : CallExn) (c₂ : Connection ControlDatabase) :=
    match c₂.rollbackTo savepointName with
    | .error m => (.error (.operational m), c₂)
    | .ok c₃ => (.error e, c₃)
  match fn c₁.current with
  | (.error e, data) => rollBack e (c₁.write data)
  | (.ok a, data) =>
    match (c₁.write data).release savepointName with
    | .error m => rollBack (.operational m) (c₁.write data)
    | .ok c₂ => (.ok a, c₂)

/-- **What a savepoint block comes to**: one write, or its savepoint left on the stack. -/
theorem executeWithSavepoint_eq {α : Type} (c : Connection ControlDatabase) (name : String)
    (fn : ControlDatabase → Except CallExn α × ControlDatabase) :
    executeWithSavepoint c name fn = match fn c.current with
        | (.error e, _) => (.error e, c.savepoint name)
        | (.ok a, data) => (.ok a, c.write data) := by
  unfold executeWithSavepoint
  simp only [Connection.current_savepoint]
  rcases fn c.current with ⟨e | a, data⟩
  · simp only [Connection.rollbackTo_savepoint]
  · simp only [Connection.release_savepoint]

/-! ### The table of capacity leases -/

/-- The methods of `StatefulCapacityLeaseManager`. -/
inductive CapacityOp
  | leaseCapacity (leaseId : String) (amount ttlSeconds : ℤ)
  | dispatchJob (jobId : String) (requiredCapacity : ℤ) (leaseId : Option String)
  | releaseLease (leaseId : String)
  | expireLeases
  | getAvailableCapacity

/-- What they return. -/
inductive CapacityResult
  | flag (b : Bool)
  | none
  | capacity (n : ℤ)
  deriving DecidableEq

namespace ControlDatabase

/-- A value that fits into an `INTEGER` column. -/
def fitsInteger (n : ℤ) : Bool := decide (-2 ^ 63 ≤ n ∧ n < 2 ^ 63)

/-- An `int` that converts to a `float`. -/
def fitsFloat (n : ℤ) : Bool := decide (|n| < 2 ^ 1024 - 2 ^ 970)

/-- `_expire_leases` at time `now`. -/
def expireLeases (db : ControlDatabase) (now : ℚ) : ControlDatabase :=
  { db with capacityLeases := db.capacityLeases.filter fun _ lease => decide (now < lease.expiresAt) }

/-- `SUM(amount)`, with the overflow check of the running sum. -/
def sumAmounts : ℤ → List ℤ → Except CallExn ℤ
  | acc, [] => .ok acc
  | acc, amount :: rest =>
    if fitsInteger (acc + amount) then sumAmounts (acc + amount) rest
    else .error (.operational "integer overflow")

def usedCapacity (db : ControlDatabase) : Except CallExn ℤ :=
  sumAmounts 0 (db.capacityLeases.values.map CapacityLease.amount)

end ControlDatabase

namespace CapacityOp

open ControlDatabase (fitsInteger fitsFloat)

def doLease (totalCapacity : ℤ) (db : ControlDatabase) (now : ℚ) (leaseId : String) (amount ttlSeconds : ℤ) :
    Except CallExn CapacityResult × ControlDatabase :=
  let db₁ := db.expireLeases now
  match db₁.usedCapacity with
  | .error e => (.error e, db₁)
  | .ok usedCapacity =>
    if totalCapacity - usedCapacity < amount then (.ok (.flag false), db₁)
    else if db₁.capacityLeases.contains leaseId then
      (.error (.capacity ("Lease " ++ leaseId ++ " already exists.")), db₁)
    else if fitsFloat ttlSeconds = false then
      (.error (.overflow "int too large to convert to float"), db₁)
    else if fitsInteger amount = false then
      (.error (.overflow "Python int too large to convert to SQLite INTEGER"), db₁)
    else
      (.ok (.flag true),
        { db₁ with capacityLeases := db₁.capacityLeases.set leaseId ⟨amount, now + ttlSeconds, none⟩ })

def doDispatch (db : ControlDatabase) (now : ℚ) (jobId : String) (requiredCapacity : ℤ)
    (leaseId : Option String) : Except CallExn CapacityResult × ControlDatabase :=
  let db₁ := db.expireLeases now
  let unleased : CallExn :=
    .capacity "Capacity MUST be leased/reserved before job dispatch to avoid placement races."
  let id := leaseId.getD ""
  if id = "" then (.error unleased, db₁)
  else
    match db₁.capacityLeases.get? id with
    | none => (.error unleased, db₁)
    | some lease =>
      let existingJobId := lease.jobId.getD ""
      if lease.amount < requiredCapacity then
        (.error (.capacity ("Lease " ++ id ++ " has insufficient capacity (" ++ toString lease.amount ++
          ") for job " ++ jobId ++ " (" ++ toString requiredCapacity ++ ").")), db₁)
      else if existingJobId ≠ "" ∧ existingJobId ≠ jobId then
        (.error (.capacity ("Lease " ++ id ++ " is already bound to job " ++ existingJobId ++ ".")), db₁)
      else
        (.ok (.flag true),
          { db₁ with capacityLeases := db₁.capacityLeases.set id { lease with jobId := some jobId } })

def doGet (totalCapacity : ℤ) (db : ControlDatabase) (now : ℚ) : Except CallExn CapacityResult × ControlDatabase :=
  let db₁ := db.expireLeases now
  match db₁.usedCapacity with
  | .error e => (.error e, db₁)
  | .ok usedCapacity => (.ok (.capacity (totalCapacity - usedCapacity)), db₁)

/-- The statements of a method, from inside its savepoint. -/
def perform (totalCapacity : ℤ) (now : ℚ) (db : ControlDatabase) :
    CapacityOp → Except CallExn CapacityResult × ControlDatabase
  | leaseCapacity leaseId amount ttlSeconds => doLease totalCapacity db now leaseId amount ttlSeconds
  | dispatchJob jobId requiredCapacity leaseId => doDispatch db now jobId requiredCapacity leaseId
  | releaseLease leaseId =>
    (.ok .none, { db with capacityLeases := db.capacityLeases.filter fun id _ => decide (id ≠ leaseId) })
  | expireLeases => (.ok .none, db.expireLeases now)
  | getAvailableCapacity => doGet totalCapacity db now

/-- The savepoint of a method; `_expire_leases` has none of its own. -/
def savepointName : CapacityOp → Option String
  | leaseCapacity leaseId _ _ => some ("lease_" ++ Md5.md5Hex leaseId)
  | dispatchJob jobId _ _ => some ("dispatch_" ++ Md5.md5Hex jobId)
  | releaseLease leaseId => some ("release_" ++ Md5.md5Hex leaseId)
  | expireLeases => none
  | getAvailableCapacity => some "get_capacity"

/-- A method on the connection. -/
def run (totalCapacity : ℤ) (now : ℚ) (op : CapacityOp) (c : Connection ControlDatabase) :
    Except CallExn CapacityResult × Connection ControlDatabase :=
  match op.savepointName with
  | some name => executeWithSavepoint c name fun db => op.perform totalCapacity now db
  | none => ((op.perform totalCapacity now c.current).1, c.write (op.perform totalCapacity now c.current).2)

end CapacityOp

/-! ### The store on its connection -/

/-- What a store call does before a transaction: it returns or raises, writes one row, or goes on to `_transition`
for an entity, with what that does between `BEGIN IMMEDIATE` and `COMMIT`. -/
inductive StorePlan
  | answers (r : Except Exn (Option CommandResult))
  | writes (s : StateStore)
  | transaction (id : String) (req : Request)
      (body : StateStore → Except Exn CommandResult × StateStore)

namespace StoreCall

/-- The transaction of `transition_job`. -/
def jobBody (id : String) (req : Request) (target : JobState) (s : StateStore) :
    Except Exn CommandResult × StateStore :=
  match s.jobs.transition "job" id req target (.ok ()) (fun _ => .ok none) with
  | .error e => (.error e, s)
  | .ok (result, jobs) => (.ok (.job result), { s with jobs := jobs })

/-- The transaction of a reservation. -/
def reservationBody (id : String) (req : Request) (target : ReservationState)
    (expiry : Option AwareDatetime) (binding : Option (String × String)) (s : StateStore) :
    Except Exn CommandResult × StateStore :=
  match s.reservations.transition "reservation" id req target (s.checkBinding binding)
      (StateStore.leaseText target expiry) with
  | .error e => (.error e, s)
  | .ok (result, reservations) =>
    match binding with
    | none => (.ok (.reservation result), { s with reservations := reservations })
    | some (jobId, stageId) =>
      if result.changed = false then (.ok (.reservation result), { s with reservations := reservations })
      else if s.bindings.contains id then
        (.error (.integrity "UNIQUE constraint failed: reservation_binding.reservation_id"), s)
      else
        (.ok (.reservation result), { s with
            reservations := reservations
            bindings := s.bindings.set id ⟨jobId, stageId, req.requestId⟩ })

/-- The checks of the public methods. -/
def plan (s : StateStore) (now : UtcTime) : StoreCall → StorePlan
  | command (.leaseReservation id req expiresAt) =>
    match expiresAt with
    | .naive _ => .answers (.error (.value "expires_at must be timezone-aware"))
    | .aware expiry =>
      if expiry.instant ≤ now.micros then .answers (.error (.value "expires_at must be in the future"))
      else .transaction id req (reservationBody id req .leased (some expiry) none)
  | command (.commitReservation id req jobId stageId) =>
    if jobId = "" ∨ stageId = "" then .answers (.error (.value "job_id and stage_id are required"))
    else .transaction id req (reservationBody id req .committed none (some (jobId, stageId)))
  | command (.transitionReservation id req target) =>
    .transaction id req (reservationBody id req target none none)
  | command (.transitionJob id req target) => .transaction id req (jobBody id req target)
  | ensureJob jobId =>
    if jobId = "" then .answers (.error (.value "entity_id is required")) else .writes (s.ensureJob jobId).2
  | ensureReservation id =>
    if id = "" then .answers (.error (.value "entity_id is required"))
    else .writes (s.ensureReservation id).2
  | expireIfDue id requestId expectedRevision due =>
    match due with
    | .naive _ => .answers (.error (.value "now must be timezone-aware"))
    | .aware d =>
      match s.reservations.rows.get? id with
      | none => .answers (.error (.key ("unknown reservation " ++ quoted id)))
      | some row =>
        match StateStore.leaseDue row d with
        | .error e => .answers (.error e)
        | .ok false => .answers (.ok none)
        | .ok true =>
          .transaction id { requestId := requestId, expectedRevision := expectedRevision }
            (reservationBody id { requestId := requestId, expectedRevision := expectedRevision } .expired none none)

/-- A transaction between `BEGIN IMMEDIATE` and `COMMIT` or `ROLLBACK`; the first is outside the `try`. -/
def transact (c : Connection ControlDatabase) (body : StateStore → Except Exn CommandResult × StateStore) :
    Except CallExn (Option CommandResult) × Connection ControlDatabase :=
  match c.beginTransaction with
  | .error m => (.error (.operational m), c)
  | .ok c₁ =>
    let data := c₁.current
    match body data.store with
    | (.ok result, s) =>
      match (c₁.write { data with store := s }).commit with
      | .error m => (.error (.operational m), c₁.write { data with store := s })
      | .ok c₂ => (.ok (some result), c₂)
    | (.error e, s) =>
      match (c₁.write { data with store := s }).rollback with
      | .error m => (.error (.operational m), c₁.write { data with store := s })
      | .ok c₂ => (.error (.store e), c₂)

def onConnection (now : UtcTime) (call : StoreCall) (c : Connection ControlDatabase) :
    Except CallExn (Option CommandResult) × Connection ControlDatabase :=
  match call.plan c.current.store now with
  | .answers r => (r.mapError .store, c)
  | .writes s => (.ok none, c.write { c.current with store := s })
  | .transaction id req body =>
    let c₁ := c.write { c.current with store := (c.current.store.enforce now id req).2 }
    match (c.current.store.enforce now id req).1 with
    | .error e => (.error (.store e), c₁)
    | .ok () => transact c₁ body

end StoreCall

/-! ### Commands -/

/-- The fields of a command that `execute_command` reads. -/
structure CommandDocument where
  isStateChanging : Bool
  isIdempotentByDesign : Bool
  idempotencyKey : Option String
  commandType : Option String

/-- A Python value: one that `json.dumps` takes, or another. -/
inductive PyValue
  | json (value : Json)
  | other (typeName : String)

/-- What a call returns. -/
inductive CallResult
  | store (r : Option CommandResult)
  | capacity (r : CapacityResult)
  | value (v : PyValue)

mutual

/-- A call on the connection, with what the clock shows. -/
inductive Call
  | store (now : UtcTime) (call : StoreCall)
  | capacity (now : ℚ) (op : CapacityOp)
  | executeCommand (now : UtcTime) (command : CommandDocument) (executeFn : Body)

/-- The body of a command: it returns or raises, or makes a call and goes on with what that call came to. -/
inductive Body
  | returns (value : PyValue)
  | raises (e : CallExn)
  | call (c : Call) (next : Except CallExn CallResult → Body)

end

namespace CommandDocument

/-- The key, if it is there and not empty. -/
def key? (command : CommandDocument) : Option String := command.idempotencyKey.filter fun k => k ≠ ""

def check (key : String) (db : ControlDatabase) : Except CallExn (Option Json) × ControlDatabase :=
  (.ok ((db.idempotencyLog.get? key).map IdempotencyRow.result), db)

/-- `existing["_idempotent_replay"] = True`. -/
def replay : Json → Except CallExn CallResult
  | .obj fields => .ok (.value (.json (.obj (Dict.put "_idempotent_replay" (.bool true) fields))))
  | .arr _ => .error (.type "list indices must be integers or slices, not str")
  | .str _ => .error (.type "'str' object does not support item assignment")
  | .int _ => .error (.type "'int' object does not support item assignment")
  | .float _ _ => .error (.type "'float' object does not support item assignment")
  | .bool _ => .error (.type "'bool' object does not support item assignment")
  | .null => .error (.type "'NoneType' object does not support item assignment")

def record (command : CommandDocument) (now : UtcTime) (key : String) (result : PyValue)
    (db : ControlDatabase) : Except CallExn Unit × ControlDatabase :=
  match result with
  | .other typeName => (.error (.type ("Object of type " ++ typeName ++ " is not JSON serializable")), db)
  | .json value =>
    if db.idempotencyLog.contains key then
      (.error (.integrity "UNIQUE constraint failed: part7_idempotency_log.idempotency_key"), db)
    else
      (.ok (), { db with
        idempotencyLog := db.idempotencyLog.set key ⟨command.commandType.getD "unknown", value, now⟩ })

end CommandDocument

mutual

/-- A call, with the total capacity of the lease table. -/
def Call.run (totalCapacity : ℤ) :
    Call → Connection ControlDatabase → Except CallExn CallResult × Connection ControlDatabase
  | .store now call, c => ((call.onConnection now c).1.map .store, (call.onConnection now c).2)
  | .capacity now op, c => ((op.run totalCapacity now c).1.map .capacity, (op.run totalCapacity now c).2)
  | .executeCommand now command executeFn, c =>
    if command.isStateChanging = true ∧ command.isIdempotentByDesign = false then
      match command.key? with
      | none =>
        (.error (.idempotency "Every state-changing command MUST be idempotent or carry an idempotency key."), c)
      | some key =>
        match executeWithSavepoint c ("idempotency_check_" ++ Md5.md5Hex key) (CommandDocument.check key) with
        | (.error e, c₁) => (.error e, c₁)
        | (.ok found, c₁) =>
          match found.filter Json.truthy with
          | some existing => (CommandDocument.replay existing, c₁)
          | none =>
            match Body.run totalCapacity executeFn c₁ with
            | (.error e, c₂) => (.error e, c₂)
            | (.ok result, c₂) =>
              match executeWithSavepoint c₂ ("idempotency_record_" ++ Md5.md5Hex key)
                  (command.record now key result) with
              | (.error e, c₃) => (.error e, c₃)
              | (.ok (), c₃) => (.ok (.value result), c₃)
    else
      match Body.run totalCapacity executeFn c with
      | (.error e, c₁) => (.error e, c₁)
      | (.ok result, c₁) => (.ok (.value result), c₁)

/-- The body of a command. -/
def Body.run (totalCapacity : ℤ) :
    Body → Connection ControlDatabase → Except CallExn PyValue × Connection ControlDatabase
  | .returns value, c => (.ok value, c)
  | .raises e, c => (.error e, c)
  | .call inner next, c =>
    Body.run totalCapacity (next (Call.run totalCapacity inner c).1) (Call.run totalCapacity inner c).2

end

end ComputeMesh.Orchestrator
