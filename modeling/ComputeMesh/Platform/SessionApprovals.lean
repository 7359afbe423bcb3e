import ComputeMesh.Platform.SessionStore
import ComputeMesh.Lib.Run

/-!
# Approvals, and the store as a machine

The approval methods of `services/mcp/platform/session.py`, and with them the calls that a store can get.

* `createApproval`, `resolveApproval`, `consumeApproval`, `resumeApprovedTurn` — the decision on one side effect, from
  its request to its use;
* `StoreOp.run` — **one call**, with what its transaction leaves.
-/

namespace ComputeMesh.Platform

open Text

namespace AgentSessionStore

/-- What `create_approval` is asked for. -/
structure ApprovalRequest where
  sessionId : String
  turnId : Option String
  toolId : String
  callId : String
  argumentsDigest : String
  principalId : String
  ttlSeconds : ℚ := 300
  approvalId : String

/-- The argument checks of `create_approval`. -/
def checkApproval (a : ApprovalRequest) : Except StoreError Unit :=
  if strip a.toolId = "" ∨ strip a.callId = "" ∨ strip a.principalId = "" then
    .error (.valueError "tool_id, call_id and principal_id are required")
  else
    let digest := (strip a.argumentsDigest).toList
    if ¬(digest.length = 64 ∧ digest.all fun c => "0123456789abcdefABCDEF".toList.contains c) then
      .error (.valueError "arguments_digest must be a SHA-256 digest")
    else .ok ()

def checkApprovalTurn (s : AgentSessionStore) (sessionId : String) (turnId : Option String) : Except StoreError Unit :=
  match turnId with
  | none => .ok ()
  | some turnId => do
    let turn ← s.requireTurn turnId
    if turn.sessionId ≠ sessionId then
      .error (.sessionStateConflict "approval turn belongs to a different session")
    else .ok ()

/-- The stored approvals that a request is taken to repeat. -/
def isDuplicate (a : ApprovalRequest) (checkedAt : ℚ) (row : Approval) : Bool :=
  row.sessionId == a.sessionId && row.toolId == strip a.toolId && row.callId == strip a.callId &&
    row.argumentsDigest == strip a.argumentsDigest && row.status == .pending && decide (checkedAt < row.expiresAt)

/-- The newest approval that a request is taken to repeat; of those made at one time, the one stored first. -/
def pendingDuplicate (s : AgentSessionStore) (a : ApprovalRequest) (checkedAt : ℚ) : Option (String × Approval) :=
  ((s.approvals.entries.filter fun e => isDuplicate a checkedAt e.2).insertionSort
    fun x y => y.2.createdAt ≤ x.2.createdAt).head?

def requestedApproval (a : ApprovalRequest) (requestedAt createdAt : ℚ) : Approval :=
  ⟨a.sessionId, a.turnId, strip a.toolId, strip a.callId, strip a.argumentsDigest, strip a.principalId, .pending,
    requestedAt + min (max a.ttlSeconds 1) 3600, createdAt, none, ""⟩

/-- `create_approval`, with its three readings of the clock. -/
def createApproval (s : AgentSessionStore) (a : ApprovalRequest) (requestedAt checkedAt createdAt : ℚ) :
    Except StoreError ((String × Approval) × AgentSessionStore) := do
  checkApproval a
  let _ ← s.requireSession a.sessionId
  s.checkApprovalTurn a.sessionId a.turnId
  match s.pendingDuplicate a checkedAt with
  | some existing => .ok (existing, s)
  | none =>
    let row := requestedApproval a requestedAt createdAt
    if s.approvals.contains a.approvalId then
      .error (.integrityError "UNIQUE constraint failed: agent_approvals.approval_id")
    else .ok ((a.approvalId, row), ({ s with approvals := s.approvals.set a.approvalId row }).appendEvent a.sessionId
      a.turnId "approval.required" (some a.approvalId))

def requireApproval (s : AgentSessionStore) (approvalId : String) : Except StoreError Approval :=
  match s.approvals.get? approvalId with
  | none => .error (.keyError ("unknown agent approval: " ++ approvalId))
  | some row => .ok row

/-- The caller of `resolve_approval` is the principal of the approval, or an admin. -/
def authorizeDecision (row : Approval) (principalId : Option String) (isAdmin : Bool) : Except StoreError Unit :=
  let denied := StoreError.permissionError "approval does not belong to the authenticated principal"
  if isAdmin then .ok ()
  else if principalId.getD "" = "" then .error denied
  else do
    let same ← compareDigest row.principalId (principalId.getD "")
    if same then .ok () else .error denied

/-- The approval as `resolve_approval` stores it. -/
def resolvedApproval (row : Approval) (status : ApprovalStatus) (now : ℚ) (reason : String) : Approval :=
  { row with status, resolvedAt := some now, resolutionReason := reason }

def withApproval (s : AgentSessionStore) (approvalId : String) (row : Approval) (turnId : Option String)
    (eventType : String) : AgentSessionStore :=
  ({ s with approvals := s.approvals.set approvalId row }).appendEvent row.sessionId turnId eventType (some approvalId)

def resolveApproval (s : AgentSessionStore) (approvalId : String) (principalId : Option String)
    (decision : ApprovalStatus) (reason : String) (isAdmin : Bool) (now : ℚ) :
    Except StoreError (Approval × AgentSessionStore) :=
  if decision ∉ [ApprovalStatus.approved, .rejected] then
    .error (.valueError "approval decision must be approved or rejected")
  else do
    let row ← s.requireApproval approvalId
    authorizeDecision row principalId isAdmin
    if row.status ≠ .pending then
      .error (.sessionStateConflict ("approval is already " ++ row.status.value))
    else if row.expiresAt ≤ now then
      -- before this is raised, the row is set to expired and an "approval.expired" event is appended;
      -- it is raised inside the transaction, which takes both back
      .error (.sessionStateConflict "approval has expired")
    else
      let resolved := resolvedApproval row decision now (firstChars 512 reason)
      .ok (resolved, s.withApproval approvalId resolved row.turnId
        (if decision = .approved then "approval.granted" else "approval.denied"))

/-- What `consume_approval` is asked with. -/
structure ConsumeRequest where
  approvalId : String
  sessionId : String
  turnId : Option String
  toolId : String
  argumentsDigest : String

/-- `consume_approval`.  The event is stored for the turn that the caller names, which need not be the approval's: an
empty one names no turn, and the foreign key refuses it. -/
def consumeApproval (s : AgentSessionStore) (a : ConsumeRequest) : Except StoreError (Approval × AgentSessionStore) := do
  let row ← s.requireApproval a.approvalId
  if row.sessionId ≠ a.sessionId then .error (.sessionStateConflict "approval belongs to a different session")
  else if a.turnId.isSome ∧ row.turnId.getD "" ≠ a.turnId.getD "" then
    .error (.sessionStateConflict "approval belongs to a different turn")
  else if row.toolId ≠ a.toolId then
    .error (.sessionStateConflict "approved tool does not match the requested tool")
  else do
    let same ← compareDigest row.argumentsDigest a.argumentsDigest
    if ¬same then .error (.sessionStateConflict "approved arguments do not match the requested arguments")
    else if row.status ≠ .approved then
      .error (.sessionStateConflict ("approval is not executable: " ++ row.status.value))
    else if ∃ turnId ∈ a.turnId, ¬s.turns.contains turnId then
      .error (.integrityError "FOREIGN KEY constraint failed")
    else
      let consumed := { row with status := .consumed }
      .ok (consumed, s.withApproval a.approvalId consumed a.turnId "approval.consumed")

/-- The turn as `resume_approved_turn` stores it. -/
def resumingTurn (row : AgentTurn) : AgentTurn := { row with status := .resuming, version := row.version + 1 }

def resumeApprovedTurn (s : AgentSessionStore) (approvalId : String) :
    Except StoreError (AgentTurn × AgentSessionStore) := do
  let approval ← s.requireApproval approvalId
  if approval.status ≠ .approved then
    .error (.sessionStateConflict "only an approved action can resume a turn")
  else match approval.turnId with
    | none => .error (.sessionStateConflict "approval is not attached to a turn")
    | some turnId => do
      let row ← s.requireTurn turnId
      if row.status ≠ .waitingForApproval then
        .error (.sessionStateConflict ("turn is not waiting for approval: " ++ row.status.value))
      else if TurnStatus.resuming ∉ turnTransitions row.status then
        .error (.sessionStateConflict "waiting turn cannot be resumed")
      else
        .ok (resumingTurn row, ({ s with turns := s.turns.set turnId (resumingTurn row) }).appendEvent approval.sessionId
          (some turnId) "turn.resuming" (some approvalId))

end AgentSessionStore

/-! ### Calls -/

/-- A call of the store. -/
inductive StoreOp
  | createSession (sessionId principalId : String)
  | createTask (sessionId turnId principalId : String) (priority : ℤ) (deadlineAt : Option ℚ) (now : ℚ)
      (uuid : String := "")
  | startTurn (a : AgentSessionStore.TurnRequest) (now : ℚ)
  | expireQueuedTurn (turnId : String) (now : ℚ)
  | claimTurn (turnId workerId : String)
  | transitionTurn (turnId : String) (target : TurnStatus) (expectedVersion : Option ℤ) (error : String)
  | transitionSession (sessionId : String) (target : SessionStatus) (expectedVersion : Option ℤ)
  | resumeSession (sessionId : String)
  | recoverInterrupted
  | requestControl (a : AgentSessionStore.ControlRequest) (now : ℚ)
  | applyPendingControl (sessionId turnId : String) (action : ControlAction)
  | createApproval (a : AgentSessionStore.ApprovalRequest) (requestedAt checkedAt createdAt : ℚ)
  | resolveApproval (approvalId : String) (principalId : Option String) (decision : ApprovalStatus) (reason : String)
      (isAdmin : Bool) (now : ℚ)
  | consumeApproval (a : AgentSessionStore.ConsumeRequest)
  | resumeApprovedTurn (approvalId : String)

/-- The rows after a call. -/
def StoreOp.run (s : AgentSessionStore) : StoreOp → AgentSessionStore
  | createSession sessionId principalId => committed s (s.createSession sessionId principalId)
  | createTask sessionId turnId principalId priority deadlineAt now uuid =>
    committed s (s.createTask sessionId turnId principalId priority deadlineAt now uuid)
  | startTurn a now => committed s (s.startTurn a now)
  | expireQueuedTurn turnId now => committed s (s.expireQueuedTurn turnId now)
  | claimTurn turnId workerId => committed s (s.claimTurn turnId workerId)
  | transitionTurn turnId target expectedVersion error =>
    committed s (s.transitionTurn turnId target expectedVersion error)
  | transitionSession sessionId target expectedVersion =>
    committed s (s.transitionSession sessionId target expectedVersion)
  | resumeSession sessionId => committed s (s.resumeSession sessionId)
  | recoverInterrupted => committed s s.recoverInterrupted
  | requestControl a now => committed s (s.requestControl a now)
  | applyPendingControl sessionId turnId action => committed s (s.applyPendingControl sessionId turnId action)
  | createApproval a requestedAt checkedAt createdAt =>
    committed s (s.createApproval a requestedAt checkedAt createdAt)
  | resolveApproval approvalId principalId decision reason isAdmin now =>
    committed s (s.resolveApproval approvalId principalId decision reason isAdmin now)
  | consumeApproval a => committed s (s.consumeApproval a)
  | resumeApprovedTurn approvalId => committed s (s.resumeApprovedTurn approvalId)

/-- The rows after a run of calls on a new database. -/
def reached (ops : List StoreOp) : AgentSessionStore := Run.exec StoreOp.run .empty ops

end ComputeMesh.Platform
