import ComputeMesh.Lib.Table
import ComputeMesh.Platform.WorkflowDag

/-!
# The nodes of a workflow in the database

The rows of `workflow_nodes` and the conditional updates by which processes share them: `_claim_node`, `_heartbeat`,
`_release_for_retry`, `_set_completed`, `_set_failed`, `_fail_expired_final_attempt`, `_set_blocked` and `reset_failed` of
`services/mcp/platform/workflow.py`.

* `NodeTable` — the rows of one workflow by node id;
* `claimNode` — a lease on a node that is pending, or whose lease has expired; `claimNode_eq_some` — **when it is granted**;
* `heldUpdate` — what a worker writes under its lease, and `get?_heldUpdate` what that does.
-/

namespace ComputeMesh.Platform

inductive NodeStatus
  | pending | running | completed | failed | blocked
  deriving DecidableEq, Repr

structure NodeRow where
  status : NodeStatus := .pending
  attempts : ℕ := 0
  resultJson : Option String := none
  error : String := ""
  startedAt : Option ℚ := none
  completedAt : Option ℚ := none
  updatedAt : ℚ
  leaseId : Option String := none
  leaseExpiresAt : Option ℚ := none
  deriving DecidableEq, Repr

abbrev NodeTable := Dict String NodeRow

namespace NodeRow

/-- `COALESCE(lease_expires_at, 0) <= ?`. -/
def leaseOver (now : ℚ) (row : NodeRow) : Bool := decide (row.leaseExpiresAt.getD 0 ≤ now)

/-- `status='PENDING' OR (status='RUNNING' AND COALESCE(lease_expires_at,0)<=?)`. -/
def claimable (now : ℚ) (row : NodeRow) : Bool :=
  decide (row.status = .pending) || (decide (row.status = .running) && row.leaseOver now)

/-- `lease_id=? AND status='RUNNING'`. -/
def heldUnder (leaseId : String) (row : NodeRow) : Bool :=
  decide (row.leaseId = some leaseId) && decide (row.status = .running)

/-- `status='RUNNING' AND attempts>=? AND COALESCE(lease_expires_at,0)<=?`. -/
def interruptedAtLast (maxAttempts : ℤ) (now : ℚ) (row : NodeRow) : Bool :=
  decide (row.status = .running) && decide (maxAttempts ≤ row.attempts) && row.leaseOver now

/-- `status NOT IN ('COMPLETED','FAILED')`. -/
def blockable (row : NodeRow) : Bool := decide (row.status ≠ .completed ∧ row.status ≠ .failed)

/-- `status IN ('FAILED','BLOCKED')`. -/
def resettable (row : NodeRow) : Bool := decide (row.status = .failed ∨ row.status = .blocked)

def claim (attempts : ℕ) (leaseId : String) (leaseSeconds now : ℚ) (row : NodeRow) : NodeRow :=
  { row with
    status := .running, attempts, startedAt := some (row.startedAt.getD now), error := "", updatedAt := now
    leaseId := some leaseId, leaseExpiresAt := some (now + leaseSeconds) }

def renew (leaseSeconds now : ℚ) (row : NodeRow) : NodeRow :=
  { row with leaseExpiresAt := some (now + leaseSeconds), updatedAt := now }

def retry (attempts : ℕ) (error : String) (now : ℚ) (row : NodeRow) : NodeRow :=
  { row with
    status := .pending, attempts, error := Text.firstChars 4000 error, updatedAt := now
    leaseId := none, leaseExpiresAt := none }

def complete (attempts : ℕ) (resultJson : String) (now : ℚ) (row : NodeRow) : NodeRow :=
  { row with
    status := .completed, attempts, resultJson := some resultJson, error := "", completedAt := some now, updatedAt := now
    leaseId := none, leaseExpiresAt := none }

def fail (attempts : ℕ) (error : String) (now : ℚ) (row : NodeRow) : NodeRow :=
  { row with
    status := .failed, attempts, error := Text.firstChars 4000 error, completedAt := some now, updatedAt := now
    leaseId := none, leaseExpiresAt := none }

def interrupt (now : ℚ) (row : NodeRow) : NodeRow :=
  { row with
    status := .failed, error := "interrupted at final allowed attempt", completedAt := some now, updatedAt := now
    leaseId := none, leaseExpiresAt := none }

def block (reason : String) (now : ℚ) (row : NodeRow) : NodeRow :=
  { row with
    status := .blocked, error := Text.firstChars 4000 reason, completedAt := some now, updatedAt := now
    leaseId := none, leaseExpiresAt := none }

def reset (now : ℚ) (_row : NodeRow) : NodeRow := { updatedAt := now }

end NodeRow

def Workflow.statusOf (rows : NodeTable) (nodeId : String) : Option NodeStatus := (rows.get? nodeId).map NodeRow.status

namespace NodeTable

variable {rows rows' : NodeTable} {node : WorkflowNode} {nodeId leaseId : String} {leaseSeconds now : ℚ} {attempts : ℕ}

/-! ### The operations -/

/-- `_ensure_workflow` for a definition that the calls agree on: the transaction that makes the workflow known writes a
row for every node. -/
def ensureWorkflow (rows : NodeTable) (nodes : List WorkflowNode) (now : ℚ) : NodeTable :=
  if rows.entries = [] then nodes.foldl (fun rows node => rows.set node.nodeId { updatedAt := now }) rows else rows

/-- `_claim_node`: the number of the attempt, if the claim is granted.  The update has the condition that was just read,
so that it hits the row. -/
def claimNode (rows : NodeTable) (node : WorkflowNode) (leaseId : String) (leaseSeconds now : ℚ) : Option ℕ × NodeTable :=
  match rows.get? node.nodeId with
  | none => (none, rows)
  | some row =>
    if row.claimable now = false ∨ node.maxAttempts ≤ row.attempts then (none, rows)
    else
      (some (row.attempts + 1),
        rows.updateWhere node.nodeId (NodeRow.claimable now) (NodeRow.claim (row.attempts + 1) leaseId leaseSeconds now))

/-- A write under a lease: whether it was made, and the rows after it. -/
def heldUpdate (rows : NodeTable) (nodeId leaseId : String) (change : NodeRow → NodeRow) : Bool × NodeTable :=
  (rows.hits nodeId (NodeRow.heldUnder leaseId), rows.updateWhere nodeId (NodeRow.heldUnder leaseId) change)

def heartbeat (rows : NodeTable) (nodeId leaseId : String) (leaseSeconds now : ℚ) : Bool × NodeTable :=
  rows.heldUpdate nodeId leaseId (NodeRow.renew leaseSeconds now)

def releaseForRetry (rows : NodeTable) (nodeId leaseId : String) (attempts : ℕ) (error : String) (now : ℚ) :
    Bool × NodeTable := rows.heldUpdate nodeId leaseId (NodeRow.retry attempts error now)

/-- `_set_completed`, for a result that has been written as JSON. -/
def setCompleted (rows : NodeTable) (nodeId leaseId : String) (attempts : ℕ) (resultJson : String) (now : ℚ) :
    Bool × NodeTable := rows.heldUpdate nodeId leaseId (NodeRow.complete attempts resultJson now)

def setFailed (rows : NodeTable) (nodeId leaseId : String) (attempts : ℕ) (error : String) (now : ℚ) :
    Bool × NodeTable := rows.heldUpdate nodeId leaseId (NodeRow.fail attempts error now)

def failExpiredFinalAttempt (rows : NodeTable) (node : WorkflowNode) (now : ℚ) : NodeTable :=
  rows.updateWhere node.nodeId (NodeRow.interruptedAtLast node.maxAttempts now) (NodeRow.interrupt now)

def setBlocked (rows : NodeTable) (nodeId reason : String) (now : ℚ) : NodeTable :=
  rows.updateWhere nodeId NodeRow.blockable (NodeRow.block reason now)

/-- `reset_failed`: how many rows it reset, and the rows after it. -/
def resetFailed (rows : NodeTable) (now : ℚ) : ℕ × NodeTable :=
  ((rows.filter fun _ row => row.resettable).entries.length,
    rows.mapValues fun row => if row.resettable then row.reset now else row)

/-! ### What they do -/

variable {row : NodeRow}

theorem get?_of_insertNodes {ids : List WorkflowNode}
    (h : (ids.foldl (fun rows node => rows.set node.nodeId { updatedAt := now }) rows).get? nodeId = some row) :
    rows.get? nodeId = some row ∨ row = { updatedAt := now } := by
  induction ids generalizing rows with
  | nil => exact .inl h
  | cons node ids ih =>
    rcases ih h with hget | hnew
    · rcases Dict.get?_set_eq_some.mp hget with ⟨-, hget⟩ | ⟨-, hget⟩
      · exact .inr hget.symm
      · exact .inl hget
    · exact .inr hnew

theorem ensureWorkflow_of_get? {nodes : List WorkflowNode} (hget : rows.get? nodeId = some row) :
    rows.ensureWorkflow nodes now = rows := by
  refine if_neg fun hrows => ?_
  rw [Dict.get?, hrows] at hget
  cases hget

/-- A row is there before, or it is a new row of a table that was empty. -/
theorem get?_of_ensureWorkflow {nodes : List WorkflowNode}
    (h : (rows.ensureWorkflow nodes now).get? nodeId = some row) :
    rows.get? nodeId = some row ∨ row = { updatedAt := now } ∧ rows.entries = [] := by
  unfold ensureWorkflow at h
  split at h
  · rename_i hrows
    exact (get?_of_insertNodes h).imp_right fun hnew => ⟨hnew, hrows⟩
  · exact .inl h

/-- **When a claim is granted.** -/
theorem claimNode_eq_some (h : rows.claimNode node leaseId leaseSeconds now = (some attempts, rows')) :
    ∃ row, rows.get? node.nodeId = some row ∧ row.claimable now = true ∧ (row.attempts : ℤ) < node.maxAttempts ∧
      attempts = row.attempts + 1 ∧ rows' = rows.set node.nodeId (row.claim attempts leaseId leaseSeconds now) := by
  unfold claimNode at h
  split at h
  · cases h
  · rename_i row hget
    split at h
    · cases h
    · rename_i hgranted
      obtain ⟨rfl, rfl⟩ : row.attempts + 1 = attempts ∧ _ = rows' :=
        ⟨Option.some.inj (Prod.mk.inj h).1, (Prod.mk.inj h).2⟩
      have hopen : row.claimable now = true := by
        rcases Bool.eq_false_or_eq_true (row.claimable now) with hopen | hshut
        · exact hopen
        · exact absurd (.inl hshut) hgranted
      have hleft : (row.attempts : ℤ) < node.maxAttempts := by
        rcases lt_or_ge (row.attempts : ℤ) node.maxAttempts with hlt | hge
        · exact hlt
        · exact absurd (.inr hge) hgranted
      exact ⟨row, hget, hopen, hleft, rfl, Dict.updateWhere_of_get? hget hopen⟩

theorem claimNode_of_claimable (hget : rows.get? node.nodeId = some row)
    (hopen : row.claimable now = true) (hleft : (row.attempts : ℤ) < node.maxAttempts) :
    rows.claimNode node leaseId leaseSeconds now
      = (some (row.attempts + 1), rows.set node.nodeId (row.claim (row.attempts + 1) leaseId leaseSeconds now)) := by
  have hgranted : ¬(row.claimable now = false ∨ node.maxAttempts ≤ row.attempts) := by
    rintro (hshut | hnone)
    · rw [hopen] at hshut
      cases hshut
    · exact absurd hleft (not_lt.mpr hnone)
  rw [claimNode, hget]
  dsimp only
  rw [if_neg hgranted, Dict.updateWhere_of_get? hget hopen]

theorem claimNode_eq_none (h : rows.claimNode node leaseId leaseSeconds now = (none, rows')) : rows' = rows := by
  unfold claimNode at h
  split at h
  · exact (Prod.mk.inj h).2.symm
  · split at h
    · exact (Prod.mk.inj h).2.symm
    · cases (Prod.mk.inj h).1

theorem heldUnder_iff : row.heldUnder leaseId = true ↔ row.leaseId = some leaseId ∧ row.status = .running := by
  simp [NodeRow.heldUnder]

variable {change : NodeRow → NodeRow}

/-- **A write under a lease** is made exactly when the row is running under it. -/
theorem heldUpdate_of_get? (hget : rows.get? nodeId = some row)
    (hlease : row.leaseId = some leaseId) (hrunning : row.status = .running) :
    rows.heldUpdate nodeId leaseId change = (true, rows.set nodeId (change row)) := by
  have hheld : row.heldUnder leaseId = true := heldUnder_iff.mpr ⟨hlease, hrunning⟩
  rw [heldUpdate, Dict.updateWhere_of_get? hget hheld, Dict.hits_iff.mpr ⟨row, hget, hheld⟩]

theorem heldUpdate_eq_true (h : rows.heldUpdate nodeId leaseId change = (true, rows')) :
    ∃ row, rows.get? nodeId = some row ∧ row.leaseId = some leaseId ∧ row.status = .running ∧
      rows' = rows.set nodeId (change row) := by
  obtain ⟨hhits, rfl⟩ := Prod.mk.inj h
  obtain ⟨row, hget, hheld⟩ := Dict.hits_iff.mp hhits
  obtain ⟨hlease, hrunning⟩ := heldUnder_iff.mp hheld
  exact ⟨row, hget, hlease, hrunning, Dict.updateWhere_of_get? hget hheld⟩

theorem heldUpdate_eq_false (h : rows.heldUpdate nodeId leaseId change = (false, rows')) : rows' = rows := by
  obtain ⟨hhits, rfl⟩ := Prod.mk.inj h
  exact Dict.updateWhere_of_not_hits hhits

end NodeTable

end ComputeMesh.Platform
