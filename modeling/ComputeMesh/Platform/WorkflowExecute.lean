import ComputeMesh.Platform.WorkflowNodes

/-!
# Executing a workflow

`DAGWorkflowEngine.execute` of `services/mcp/platform/workflow.py`, one access to the database at a time.  The main thread
goes round: it blocks what depends on a failure, fails what was interrupted for the last time, collects the nodes that are
ready and hands them to a pool of threads; each thread claims its node, calls the runner, writes what came of it and
tries again as long as attempts are left.

* `AttemptOutcome` — what one attempt comes to: runner, validator and the encoding of the result;
* `Phase`, `NodeRun` — where the main thread and a thread of the pool stand;
* `Execution.mainStep`, `Execution.threadStep` — **what each of them does next**;
* `Execution.step` — one move of one thread of the process.
-/

namespace ComputeMesh.Platform

/-! ### One attempt -/

/-- What one attempt comes to: a result that is written as JSON, one that `json.dumps` raises on, an exception of the
kinds that the engine catches, or any other exception. -/
inductive AttemptOutcome
  | returned (resultJson : String)
  | unencodable
  | raised (error : String)
  | escaped
  deriving DecidableEq, Repr

/-- What a call of a runner or a validator raises. -/
structure Raised where
  message : String
  /-- One of the kinds `execute` catches. -/
  caught : Bool

def Raised.outcome (e : Raised) : AttemptOutcome := if e.caught then .raised e.message else .escaped

/-- A runner, the validators and the encoding of results. -/
structure NodeRunner (Result : Type) where
  run : WorkflowNode → ℕ → Except Raised Result
  validator : String → Option (Result → Except Raised Bool)
  dumps : Result → Option String

namespace NodeRunner

variable {Result : Type} (runner : NodeRunner Result)

/-- `json.dumps` of a result, inside `_set_completed`. -/
def encode (result : Result) : AttemptOutcome :=
  match runner.dumps result with
  | some resultJson => .returned resultJson
  | none => .unencodable

/-- The `n`-th attempt on a node: the body of the `try` and the encoding. -/
def attempt (node : WorkflowNode) (n : ℕ) : AttemptOutcome :=
  match runner.run node n with
  | .error e => e.outcome
  | .ok result =>
    match runner.validator node.nodeId with
    | none => runner.encode result
    | some validator =>
      match validator result with
      | .error e => e.outcome
      | .ok valid => if valid then runner.encode result else .raised "node result validation failed"

end NodeRunner

/-- The attempt succeeded: the runner returned and the validator, if there is one, accepted. -/
def AttemptOutcome.succeeds : AttemptOutcome → Bool
  | .returned _ => true
  | .unencodable => true
  | .raised _ => false
  | .escaped => false

/-- The engine records what came of the attempt. -/
def AttemptOutcome.recorded : AttemptOutcome → Bool
  | .returned _ => true
  | .unencodable => false
  | .raised _ => true
  | .escaped => false

/-! ### Where a process stands -/

/-- Where `run_node` stands, with the number of the last attempt it made. -/
inductive NodeRun
  | queued
  | claiming (attempts : ℕ)
  | claimed (leaseId : String) (attempts : ℕ)
  | running (leaseId : String) (attempts : ℕ)
  | ended (claimed : Bool)
  | raised
  deriving DecidableEq, Repr

/-- A thread of the pool is at work on the node. -/
def NodeRun.active : NodeRun → Bool
  | .queued => false
  | .claiming _ => true
  | .claimed _ _ => true
  | .running _ _ => true
  | .ended _ => false
  | .raised => false

def NodeRun.finished : NodeRun → Bool
  | .queued => false
  | .claiming _ => false
  | .claimed _ _ => false
  | .running _ _ => false
  | .ended _ => true
  | .raised => true

structure NodeThread where
  node : WorkflowNode
  run : NodeRun

/-- Where the main thread stands. -/
inductive Phase
  | entered
  | scanning
  | blocking (snapshot : NodeTable) (todo : List WorkflowNode)
  | expiring (snapshot : NodeTable) (todo : List WorkflowNode)
  | pool (threads : Dict String NodeThread)
  | closing
  | returned (final : NodeTable)
  | raised

/-- A call of `execute` whose arguments have been checked. -/
structure Execution where
  nodes : List WorkflowNode
  workers : ℕ
  leaseSeconds : ℚ
  phase : Phase
  valid : Workflow.validateDag nodes = .ok ()
  someWorker : 1 ≤ workers
  longLease : 15 ≤ leaseSeconds

/-- What a thread of the process does next: the main thread, with its readings of the clock, or the thread of a node. -/
inductive Move
  | main (check reading : ℚ)
  | claim (nodeId leaseId : String) (reading : ℚ)
  | start (nodeId : String)
  | finish (nodeId : String) (reading : ℚ)
  | heartbeat (nodeId leaseId : String) (reading : ℚ)

namespace Execution

theorem someWorkers (maxWorkers : ℤ) : 1 ≤ (max 1 (min 32 maxWorkers)).toNat := by omega

/-- The checks before the first access to the database, in an engine with these lease seconds. -/
def enter (nodes : List WorkflowNode) (maxWorkers : ℤ) (leaseSeconds : ℚ) : Except WorkflowError Execution :=
  match hvalid : Workflow.validateDag nodes with
  | .error e => .error e
  | .ok () =>
    .ok ⟨nodes, (max 1 (min 32 maxWorkers)).toNat, max 15 leaseSeconds, .entered, hvalid, someWorkers maxWorkers,
      le_max_left _ _⟩

def withPhase (e : Execution) (phase : Phase) : Execution := { e with phase }

@[simp] theorem phase_withPhase (e : Execution) (phase : Phase) : (e.withPhase phase).phase = phase := rfl
/-! ### The main thread -/

/-- `statuses.get(dep) in {...}`. -/
def statusIn (snapshot : NodeTable) (statuses : List NodeStatus) (nodeId : String) : Bool :=
  (snapshot.get? nodeId).any fun row => decide (row.status ∈ statuses)

def failedDependencies (snapshot : NodeTable) (node : WorkflowNode) : List String :=
  node.dependencies.filter (statusIn snapshot [.failed, .blocked])

/-- The body of the first loop for a node whose row the snapshot has. -/
def blockNode (rows snapshot : NodeTable) (row : NodeRow) (node : WorkflowNode) (reading : ℚ) : NodeTable :=
  if row.status ∈ [NodeStatus.completed, .failed, .blocked] then rows
  else if failedDependencies snapshot node = [] then rows
  else
    rows.setBlocked node.nodeId
      ("dependency failed: " ++ String.intercalate ", " (failedDependencies snapshot node)) reading

/-- The body of the second loop; the row is checked before the update reads the clock again. -/
def expireNode (rows : NodeTable) (row : NodeRow) (node : WorkflowNode) (check reading : ℚ) : NodeTable :=
  if row.interruptedAtLast node.maxAttempts check then rows.failExpiredFinalAttempt node reading else rows

/-- The comprehension for `ready`. -/
def isReady (snapshot : NodeTable) (node : WorkflowNode) : Bool :=
  statusIn snapshot [.pending, .running] node.nodeId && node.dependencies.all (statusIn snapshot [.completed])

def submit (ready : List WorkflowNode) : Dict String NodeThread :=
  ready.foldl (fun threads node => threads.set node.nodeId ⟨node, .queued⟩) Dict.empty

/-- What the main thread does once the pool is done; a raised exception is raised again. -/
def joined (threads : Dict String NodeThread) : Phase :=
  if threads.values.any fun t => decide (t.run = .raised) then .raised
  else if threads.values.any fun t => decide (t.run = .ended true) then .scanning
  else .closing

/-- The next access of the main thread to the database.  A row that a snapshot does not have is a `KeyError`. -/
def mainStep (rows : NodeTable) (e : Execution) (check reading : ℚ) : NodeTable × Execution :=
  match e.phase with
  | .entered => (rows.ensureWorkflow e.nodes reading, e.withPhase .scanning)
  | .scanning => (rows, e.withPhase (.blocking rows e.nodes))
  | .blocking _ [] => (rows, e.withPhase (.expiring rows e.nodes))
  | .blocking snapshot (node :: todo) =>
    match snapshot.get? node.nodeId with
    | none => (rows, e.withPhase .raised)
    | some row => (blockNode rows snapshot row node reading, e.withPhase (.blocking snapshot todo))
  | .expiring _ [] =>
    if e.nodes.all fun node => rows.contains node.nodeId then
      let ready := e.nodes.filter (isReady rows)
      (rows, e.withPhase (if ready = [] then .closing else .pool (submit ready)))
    else (rows, e.withPhase .raised)
  | .expiring snapshot (node :: todo) =>
    match snapshot.get? node.nodeId with
    | none => (rows, e.withPhase .raised)
    | some row => (expireNode rows row node check reading, e.withPhase (.expiring snapshot todo))
  | .pool threads =>
    if threads.values.all fun t => t.run.finished then (rows, e.withPhase (joined threads)) else (rows, e)
  | .closing =>
    if e.nodes.all fun node => rows.contains node.nodeId then (rows, e.withPhase (.returned rows))
    else (rows, e.withPhase .raised)
  | .returned _ => (rows, e)
  | .raised => (rows, e)

/-! ### The threads of the pool -/

def claimThread (rows : NodeTable) (node : WorkflowNode) (leaseId : String) (leaseSeconds reading : ℚ) :
    NodeTable × NodeRun :=
  match rows.claimNode node leaseId leaseSeconds reading with
  | (none, rows') => (rows', .ended false)
  | (some attempts, rows') => (rows', .claimed leaseId attempts)

/-- The runner is done: what the thread writes, and where that leaves it. -/
def finishThread (rows : NodeTable) (node : WorkflowNode) (leaseId : String) (attempts : ℕ) (outcome : AttemptOutcome)
    (reading : ℚ) : NodeTable × NodeRun :=
  match outcome with
  | .returned resultJson =>
    match rows.setCompleted node.nodeId leaseId attempts resultJson reading with
    | (true, rows') => (rows', .ended true)
    | (false, rows') => (rows', .raised)
  | .unencodable => (rows, .raised)
  | .raised error =>
    if (attempts : ℤ) < node.maxAttempts then
      match rows.releaseForRetry node.nodeId leaseId attempts error reading with
      | (true, rows') => (rows', .claiming attempts)
      | (false, rows') => (rows', .raised)
    else
      match rows.setFailed node.nodeId leaseId attempts error reading with
      | (true, rows') => (rows', .ended true)
      | (false, rows') => (rows', .raised)
  | .escaped => (rows, .raised)

/-- How many threads of the pool are at work. -/
def atWork (threads : Dict String NodeThread) : ℕ := (threads.values.filter fun t => t.run.active).length

/-- The next step of the thread of a node, if it has one; the pool has as many threads as there are workers. -/
def threadStep (outcome : WorkflowNode → ℕ → AttemptOutcome) (rows : NodeTable) (e : Execution)
    (threads : Dict String NodeThread) (t : NodeThread) : Move → Option (NodeTable × NodeRun)
  | .claim _ leaseId reading =>
    match t.run with
    | .queued =>
      if atWork threads < e.workers then some (claimThread rows t.node leaseId e.leaseSeconds reading) else none
    | .claiming _ => some (claimThread rows t.node leaseId e.leaseSeconds reading)
    | _ => none
  | .start _ =>
    match t.run with
    | .claimed leaseId attempts => some (rows, .running leaseId attempts)
    | _ => none
  | .finish _ reading =>
    match t.run with
    | .running leaseId attempts =>
      some (finishThread rows t.node leaseId attempts (outcome t.node attempts) reading)
    | _ => none
  | _ => none

/-- A step of the thread of a node, if the pool is running and the thread has one. -/
def poolStep (outcome : WorkflowNode → ℕ → AttemptOutcome) (rows : NodeTable) (e : Execution) (nodeId : String)
    (move : Move) : NodeTable × Execution :=
  match e.phase with
  | .pool threads =>
    match threads.get? nodeId with
    | none => (rows, e)
    | some t =>
      match threadStep outcome rows e threads t move with
      | none => (rows, e)
      | some (rows', run) => (rows', e.withPhase (.pool (threads.set nodeId { t with run })))
  | _ => (rows, e)

/-- One move of the process.  A move that is not enabled changes nothing; a heartbeat can come late. -/
def step (outcome : WorkflowNode → ℕ → AttemptOutcome) (rows : NodeTable) (e : Execution) :
    Move → NodeTable × Execution
  | .main check reading => mainStep rows e check reading
  | .claim nodeId leaseId reading => poolStep outcome rows e nodeId (.claim nodeId leaseId reading)
  | .start nodeId => poolStep outcome rows e nodeId (.start nodeId)
  | .finish nodeId reading => poolStep outcome rows e nodeId (.finish nodeId reading)
  | .heartbeat nodeId leaseId reading => ((rows.heartbeat nodeId leaseId e.leaseSeconds reading).2, e)

/-- The move is a step of `execute`: the main thread is not waiting and not done, or the thread of the node has a step. -/
def enabled (outcome : WorkflowNode → ℕ → AttemptOutcome) (rows : NodeTable) (e : Execution) : Move → Bool
  | .main _ _ =>
    match e.phase with
    | .pool threads => threads.values.all fun t => t.run.finished
    | .returned _ => false
    | .raised => false
    | _ => true
  | .claim nodeId leaseId reading => threadEnabled nodeId (.claim nodeId leaseId reading)
  | .start nodeId => threadEnabled nodeId (.start nodeId)
  | .finish nodeId reading => threadEnabled nodeId (.finish nodeId reading)
  | .heartbeat _ _ _ => false
where
  threadEnabled (nodeId : String) (move : Move) : Bool :=
    match e.phase with
    | .pool threads => (threads.get? nodeId).any fun t => (threadStep outcome rows e threads t move).isSome
    | _ => false

/-! ### What a step of a thread comes to -/

def claimsNext : NodeRun → Bool
  | .queued => true
  | .claiming _ => true
  | _ => false

/-- A step of a thread is a claim, the start of the runner, or the end of an attempt. -/
inductive ThreadStep (outcome : WorkflowNode → ℕ → AttemptOutcome) (rows : NodeTable) (e : Execution)
    (t : NodeThread) : Move → NodeTable × NodeRun → Prop
  | claim (nodeId leaseId : String) (reading : ℚ) (h : claimsNext t.run = true) :
      ThreadStep outcome rows e t (.claim nodeId leaseId reading) (claimThread rows t.node leaseId e.leaseSeconds reading)
  | start (nodeId leaseId : String) (attempts : ℕ) (h : t.run = .claimed leaseId attempts) :
      ThreadStep outcome rows e t (.start nodeId) (rows, .running leaseId attempts)
  | finish (nodeId leaseId : String) (attempts : ℕ) (reading : ℚ) (h : t.run = .running leaseId attempts) :
      ThreadStep outcome rows e t (.finish nodeId reading)
        (finishThread rows t.node leaseId attempts (outcome t.node attempts) reading)

section ThreadSteps

variable {outcome : WorkflowNode → ℕ → AttemptOutcome} {rows rows' : NodeTable} {e : Execution} {node : WorkflowNode}
  {leaseId : String} {attempts : ℕ} {leaseSeconds reading : ℚ} {run : NodeRun}

theorem threadStep_eq_some {threads : Dict String NodeThread} {t : NodeThread} {move : Move} {r : NodeTable × NodeRun}
    (h : threadStep outcome rows e threads t move = some r) : ThreadStep outcome rows e t move r := by
  unfold threadStep at h
  cases move with
  | main check reading => cases h
  | heartbeat nodeId leaseId reading => cases h
  | claim nodeId leaseId reading =>
    dsimp only at h
    split at h
    · rename_i hrun
      split at h
      · obtain rfl := Option.some.inj h
        exact .claim nodeId leaseId reading (by rw [hrun]; rfl)
      · cases h
    · rename_i hrun
      obtain rfl := Option.some.inj h
      exact .claim nodeId leaseId reading (by rw [hrun]; rfl)
    · cases h
  | start nodeId =>
    dsimp only at h
    split at h
    · rename_i leaseId attempts hrun
      obtain rfl := Option.some.inj h
      exact .start nodeId leaseId attempts hrun
    · cases h
  | finish nodeId reading =>
    dsimp only at h
    split at h
    · rename_i leaseId attempts hrun
      obtain rfl := Option.some.inj h
      exact .finish nodeId leaseId attempts reading hrun
    · cases h

/-- A claim is refused, or it is granted on a row that was open. -/
theorem claimThread_eq (h : claimThread rows node leaseId leaseSeconds reading = (rows', run)) :
    (rows' = rows ∧ run = .ended false) ∨
      ∃ row, rows.get? node.nodeId = some row ∧ row.claimable reading = true ∧ (row.attempts : ℤ) < node.maxAttempts ∧
        rows' = rows.set node.nodeId (row.claim (row.attempts + 1) leaseId leaseSeconds reading) ∧
          run = .claimed leaseId (row.attempts + 1) := by
  unfold claimThread at h
  split at h
  · rename_i rows'' hclaim
    obtain ⟨rfl, rfl⟩ := Prod.mk.inj h
    exact .inl ⟨NodeTable.claimNode_eq_none hclaim, rfl⟩
  · rename_i k rows'' hclaim
    obtain ⟨rfl, rfl⟩ := Prod.mk.inj h
    obtain ⟨row, hget, hopen, hleft, rfl, rfl⟩ := NodeTable.claimNode_eq_some hclaim
    exact .inr ⟨row, hget, hopen, hleft, rfl, rfl⟩

/-- What a worker writes when its attempt is over. -/
structure GivesBack (attempts : ℕ) (change : NodeRow → NodeRow) (run : NodeRun) : Prop where
  noLease : ∀ row, (change row).leaseId = none
  itsAttempt : ∀ row, (change row).attempts = attempts
  idle : ∀ row, (change row).status = .pending ∨ (change row).status = .completed ∨ (change row).status = .failed
  goesOn : run = .claiming attempts ∨ run = .ended true

theorem finishThread_eq {outcome : AttemptOutcome}
    (h : finishThread rows node leaseId attempts outcome reading = (rows', run)) :
    (rows' = rows ∧ run = .raised) ∨
      ∃ row change, rows.get? node.nodeId = some row ∧ row.leaseId = some leaseId ∧ row.status = .running ∧
        rows' = rows.set node.nodeId (change row) ∧ GivesBack attempts change run := by
  have hwritten : ∀ change rows'', rows.heldUpdate node.nodeId leaseId change = (true, rows'') →
      GivesBack attempts change run → (rows'', run) = (rows', run) →
      ∃ row change, rows.get? node.nodeId = some row ∧ row.leaseId = some leaseId ∧ row.status = .running ∧
        rows' = rows.set node.nodeId (change row) ∧ GivesBack attempts change run := by
    intro change rows'' hwrite hgives heq
    obtain ⟨row, hget, hlease, hrunning, rfl⟩ := NodeTable.heldUpdate_eq_true hwrite
    exact ⟨row, change, hget, hlease, hrunning, (Prod.mk.inj heq).1.symm, hgives⟩
  have hlost : ∀ change rows'', rows.heldUpdate node.nodeId leaseId change = (false, rows'') →
      (rows'', NodeRun.raised) = (rows', run) → rows' = rows ∧ run = .raised := by
    intro change rows'' hwrite heq
    obtain ⟨rfl, rfl⟩ := Prod.mk.inj heq
    exact ⟨NodeTable.heldUpdate_eq_false hwrite, rfl⟩
  unfold finishThread at h
  split at h
  · split at h
    · rename_i rows'' hwrite
      obtain ⟨rfl, rfl⟩ := Prod.mk.inj h
      exact .inr (hwritten _ _ hwrite ⟨fun _ => rfl, fun _ => rfl, fun _ => .inr (.inl rfl), .inr rfl⟩ rfl)
    · rename_i rows'' hwrite
      exact .inl (hlost _ _ hwrite h)
  · obtain ⟨rfl, rfl⟩ := Prod.mk.inj h
    exact .inl ⟨rfl, rfl⟩
  · split at h
    · split at h
      · rename_i rows'' hwrite
        obtain ⟨rfl, rfl⟩ := Prod.mk.inj h
        exact .inr (hwritten _ _ hwrite ⟨fun _ => rfl, fun _ => rfl, fun _ => .inl rfl, .inl rfl⟩ rfl)
      · rename_i rows'' hwrite
        exact .inl (hlost _ _ hwrite h)
    · split at h
      · rename_i rows'' hwrite
        obtain ⟨rfl, rfl⟩ := Prod.mk.inj h
        exact .inr (hwritten _ _ hwrite ⟨fun _ => rfl, fun _ => rfl, fun _ => .inr (.inr rfl), .inr rfl⟩ rfl)
      · rename_i rows'' hwrite
        exact .inl (hlost _ _ hwrite h)
  · obtain ⟨rfl, rfl⟩ := Prod.mk.inj h
    exact .inl ⟨rfl, rfl⟩

theorem get?_submit {nodeId : String} {ready : List WorkflowNode} {threads : Dict String NodeThread} {t : NodeThread}
    (h : (ready.foldl (fun threads node => threads.set node.nodeId ⟨node, .queued⟩) threads).get? nodeId = some t) :
    (∃ node ∈ ready, node.nodeId = nodeId ∧ t = ⟨node, .queued⟩) ∨ threads.get? nodeId = some t := by
  induction ready generalizing threads with
  | nil => exact .inr h
  | cons first ready ih =>
    rcases ih h with ⟨node, hmem, hid, ht⟩ | hget
    · exact .inl ⟨node, List.mem_cons_of_mem _ hmem, hid, ht⟩
    · rcases Dict.get?_set_eq_some.mp hget with ⟨heq, hget⟩ | ⟨-, hget⟩
      · exact .inl ⟨first, List.mem_cons_self, heq.symm, hget.symm⟩
      · exact .inr hget

end ThreadSteps

/-- `execute` has returned or raised. -/
def finished (e : Execution) : Bool :=
  match e.phase with
  | .returned _ => true
  | .raised => true
  | _ => false

end Execution

end ComputeMesh.Platform
