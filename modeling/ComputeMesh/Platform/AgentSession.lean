import ComputeMesh.Lib.Dict
import ComputeMesh.Lib.Checks
import ComputeMesh.Lib.Text

/-!
# Agent sessions, turns, controls and approvals

The durable rows of `services/mcp/platform/session.py` and the tables by which sessions and turns move.  A
session has any number of turns, and every change of a turn drags its session along.

* `sessionTransitions`, `turnTransitions` — the two tables, each with its own statuses;
* `AgentSessionStore` — the rows by id and the events, oldest first;
* `setSessionStatus`, `changeTurnStatus` — **the two moves** every method is made of;
* `setSessionStatus_eq_ok_iff`, `changeTurnStatus_eq_ok_iff` — exactly when they return, and with what.

Times are rational numbers.  The columns that no method below reads (agent, environment, state, items, payloads, times
of update) are left out, and so are the checks of those arguments, which come before a transaction is opened.
-/

namespace ComputeMesh.Platform

/-! ### Statuses -/

inductive SessionStatus
  | creating | ready | running | waitingForTool | waitingForApproval | waitingForSubagents | compacting | paused
  | resuming | completed | failed | cancelled | expired
  deriving DecidableEq, Repr

def SessionStatus.value : SessionStatus → String
  | creating => "creating"
  | ready => "ready"
  | running => "running"
  | waitingForTool => "waiting_for_tool"
  | waitingForApproval => "waiting_for_approval"
  | waitingForSubagents => "waiting_for_subagents"
  | compacting => "compacting"
  | paused => "paused"
  | resuming => "resuming"
  | completed => "completed"
  | failed => "failed"
  | cancelled => "cancelled"
  | expired => "expired"

inductive TurnStatus
  | queued | running | waitingForTool | waitingForApproval | waitingForSubagents | compacting | paused | resuming
  | completed | failed | cancelled
  deriving DecidableEq, Repr

def TurnStatus.value : TurnStatus → String
  | queued => "queued"
  | running => "running"
  | waitingForTool => "waiting_for_tool"
  | waitingForApproval => "waiting_for_approval"
  | waitingForSubagents => "waiting_for_subagents"
  | compacting => "compacting"
  | paused => "paused"
  | resuming => "resuming"
  | completed => "completed"
  | failed => "failed"
  | cancelled => "cancelled"

inductive ApprovalStatus
  | pending | approved | rejected | expired | consumed
  deriving DecidableEq, Repr

def ApprovalStatus.value : ApprovalStatus → String
  | pending => "pending"
  | approved => "approved"
  | rejected => "rejected"
  | expired => "expired"
  | consumed => "consumed"

inductive ControlAction
  | pause | resume | cancel
  deriving DecidableEq, Repr

def ControlAction.value : ControlAction → String
  | pause => "pause"
  | resume => "resume"
  | cancel => "cancel"

inductive ControlStatus
  | requested | applied | rejected
  deriving DecidableEq, Repr

def activeTurnStatuses : List TurnStatus :=
  [.queued, .running, .waitingForTool, .waitingForApproval, .waitingForSubagents, .compacting, .resuming]

def sessionTransitions : SessionStatus → List SessionStatus
  | .creating => [.ready, .failed, .cancelled]
  | .ready => [.running, .completed, .paused, .cancelled, .expired]
  | .running =>
    [.waitingForTool, .waitingForApproval, .waitingForSubagents, .compacting, .paused, .ready, .failed, .cancelled]
  | .waitingForTool => [.running, .ready, .paused, .failed, .cancelled]
  | .waitingForApproval => [.running, .ready, .paused, .failed, .cancelled]
  | .waitingForSubagents => [.running, .ready, .paused, .failed, .cancelled]
  | .compacting => [.running, .paused, .failed]
  | .paused => [.resuming, .cancelled, .expired]
  | .resuming => [.ready, .running, .failed]
  | .failed => [.resuming, .cancelled, .expired]
  | .completed => []
  | .cancelled => []
  | .expired => []

def turnTransitions : TurnStatus → List TurnStatus
  | .queued => [.running, .paused, .cancelled, .failed]
  | .running =>
    [.waitingForTool, .waitingForApproval, .waitingForSubagents, .compacting, .paused, .completed, .failed, .cancelled]
  | .waitingForTool => [.running, .paused, .failed, .cancelled]
  | .waitingForApproval => [.running, .resuming, .paused, .failed, .cancelled]
  | .waitingForSubagents => [.running, .paused, .failed, .cancelled]
  | .compacting => [.running, .paused, .failed]
  | .paused => [.resuming, .cancelled, .failed]
  | .resuming => [.running, .paused, .failed]
  | .completed => []
  | .failed => [.resuming, .cancelled]
  | .cancelled => []

/-- The status a session is dragged to when one of its turns becomes `target`, if any. -/
def sessionTarget : TurnStatus → Option SessionStatus
  | .running => some .running
  | .waitingForTool => some .waitingForTool
  | .waitingForApproval => some .waitingForApproval
  | .waitingForSubagents => some .waitingForSubagents
  | .compacting => some .compacting
  | .paused => some .paused
  | .completed => some .ready
  | .failed => some .failed
  | .cancelled => some .ready
  | .queued => none
  | .resuming => none

/-! ### Rows -/

structure AgentSession where
  status : SessionStatus
  principalId : String
  version : ℤ
  deriving DecidableEq, Repr

structure AgentTurn where
  sessionId : String
  status : TurnStatus
  version : ℤ
  error : String
  createdAt : ℚ
  priority : ℤ
  deadlineAt : Option ℚ
  idempotencyKey : String
  deriving DecidableEq, Repr

/-- A control request, for one turn or, without one, for a session that has no turn. -/
structure AgentControl where
  sessionId : String
  turnId : Option String
  action : ControlAction
  status : ControlStatus
  principalId : String
  createdAt : ℚ
  reason : String
  deriving DecidableEq, Repr

structure Approval where
  sessionId : String
  turnId : Option String
  toolId : String
  callId : String
  argumentsDigest : String
  principalId : String
  status : ApprovalStatus
  expiresAt : ℚ
  createdAt : ℚ
  resolvedAt : Option ℚ
  resolutionReason : String
  deriving DecidableEq, Repr

/-- An event, with the one entry of its payload that is compared later. -/
structure SessionEvent where
  sessionId : String
  turnId : Option String
  eventType : String
  approvalId : Option String
  deriving DecidableEq, Repr

/-- What the methods raise. -/
inductive StoreError
  | sessionStateConflict (message : String)
  | keyError (message : String)
  | valueError (message : String)
  | permissionError (message : String)
  | typeError (message : String)
  | integrityError (message : String)
  deriving DecidableEq, Repr

structure AgentSessionStore where
  sessions : Dict String AgentSession
  turns : Dict String AgentTurn
  controls : Dict String AgentControl
  approvals : Dict String Approval
  events : List SessionEvent

namespace AgentSessionStore

/-- A new database. -/
def empty : AgentSessionStore := ⟨.empty, .empty, .empty, .empty, []⟩

def requireSession (s : AgentSessionStore) (sessionId : String) : Except StoreError AgentSession :=
  match s.sessions.get? sessionId with
  | none => .error (.keyError ("unknown agent session: " ++ sessionId))
  | some session => .ok session

def requireTurn (s : AgentSessionStore) (turnId : String) : Except StoreError AgentTurn :=
  match s.turns.get? turnId with
  | none => .error (.keyError ("unknown agent turn: " ++ turnId))
  | some turn => .ok turn

/-- `_append_event`.  The rows it refers to have been read by the same transaction. -/
def appendEvent (s : AgentSessionStore) (sessionId : String) (turnId : Option String) (eventType : String)
    (approvalId : Option String) : AgentSessionStore :=
  { s with events := s.events ++ [⟨sessionId, turnId, eventType, approvalId⟩] }

/-! ### Moving a session -/

/-- The session as `_set_session_status` stores it. -/
def movedSession (row : AgentSession) (target : SessionStatus) : AgentSession :=
  { row with status := target, version := row.version + if target ≠ row.status then 1 else 0 }

def withSession (s : AgentSessionStore) (sessionId : String) (row : AgentSession) (target : SessionStatus) :
    AgentSessionStore :=
  let stored := { s with sessions := s.sessions.set sessionId (movedSession row target) }
  if target ≠ row.status then stored.appendEvent sessionId none "session.status_changed" none else stored

def setSessionStatus (s : AgentSessionStore) (sessionId : String) (row : AgentSession) (target : SessionStatus) :
    Except StoreError (AgentSession × AgentSessionStore) :=
  if target ≠ row.status ∧ target ∉ sessionTransitions row.status then
    .error (.sessionStateConflict ("invalid session transition: " ++ row.status.value ++ " -> " ++ target.value))
  else .ok (movedSession row target, s.withSession sessionId row target)

/-! ### Moving a turn -/

/-- What `_apply_turn_status`, `transition_turn` and `claim_turn` do with the session of their turn. -/
def dragSession (s : AgentSessionStore) (sessionId : String) (target : TurnStatus) :
    Except StoreError AgentSessionStore := do
  let session ← s.requireSession sessionId
  match sessionTarget target with
  | none => .ok s
  | some goal =>
    if session.status ≠ goal then do
      let (_, s) ← s.setSessionStatus sessionId session goal
      .ok s
    else .ok s

/-- The turn as a change of its status stores it. -/
def movedTurn (row : AgentTurn) (target : TurnStatus) (error : String) : AgentTurn :=
  { row with status := target, version := row.version + (if target ≠ row.status then 1 else 0), error }

def withTurn (s : AgentSessionStore) (turnId : String) (row : AgentTurn) (target : TurnStatus) (error : String) :
    AgentSessionStore :=
  let stored := { s with turns := s.turns.set turnId (movedTurn row target error) }
  stored.appendEvent row.sessionId (some turnId) "turn.status_changed" none

/-- The body that `_apply_turn_status` and `transition_turn` share. -/
def changeTurnStatus (s : AgentSessionStore) (turnId : String) (row : AgentTurn) (target : TurnStatus)
    (error : String) : Except StoreError (AgentTurn × AgentSessionStore) :=
  if target ≠ row.status ∧ target ∉ turnTransitions row.status then
    .error (.sessionStateConflict ("invalid turn transition: " ++ row.status.value ++ " -> " ++ target.value))
  else do
    let s ← (s.withTurn turnId row target error).dragSession row.sessionId target
    .ok (movedTurn row target error, s)

def applyTurnStatus (s : AgentSessionStore) (turnId : String) (row : AgentTurn) (target : TurnStatus)
    (error : String) : Except StoreError (AgentTurn × AgentSessionStore) :=
  s.changeTurnStatus turnId row target error

/-! ### When the moves return -/

/-- A session of that status can be in `goal` next. -/
def SessionMoves (status goal : SessionStatus) : Prop := status = goal ∨ goal ∈ sessionTransitions status

instance (status goal : SessionStatus) : Decidable (SessionMoves status goal) := inferInstanceAs (Decidable (_ ∨ _))

/-- A turn of that status can be in `target` next. -/
def TurnMoves (status target : TurnStatus) : Prop := status = target ∨ target ∈ turnTransitions status

instance (status target : TurnStatus) : Decidable (TurnMoves status target) := inferInstanceAs (Decidable (_ ∨ _))

/-- A session of that status can be dragged along by a turn that becomes `target`. -/
def Follows (status : SessionStatus) (target : TurnStatus) : Prop :=
  ∀ goal ∈ sessionTarget target, SessionMoves status goal

instance (status : SessionStatus) (target : TurnStatus) : Decidable (Follows status target) :=
  inferInstanceAs (Decidable (∀ goal ∈ sessionTarget target, SessionMoves status goal))

/-- The rows once the session has been dragged along. -/
def dragged (s : AgentSessionStore) (sessionId : String) (session : AgentSession) (target : TurnStatus) :
    AgentSessionStore :=
  match sessionTarget target with
  | none => s
  | some goal => if session.status ≠ goal then s.withSession sessionId session goal else s

variable {s s' : AgentSessionStore}

variable {sessionId : String}

theorem requireSession_eq_ok_iff {session : AgentSession} :
    s.requireSession sessionId = .ok session ↔ s.sessions.get? sessionId = some session := by
  rw [requireSession]
  cases s.sessions.get? sessionId with
  | none => simp
  | some row => simp

theorem requireTurn_eq_ok_iff {turnId : String} {turn : AgentTurn} :
    s.requireTurn turnId = .ok turn ↔ s.turns.get? turnId = some turn := by
  rw [requireTurn]
  cases s.turns.get? turnId with
  | none => simp
  | some row => simp

theorem setSessionStatus_eq_ok_iff {row : AgentSession} {target : SessionStatus}
    {r : AgentSession × AgentSessionStore} :
    s.setSessionStatus sessionId row target = .ok r ↔
      SessionMoves row.status target ∧ r = (movedSession row target, s.withSession sessionId row target) := by
  rw [setSessionStatus, ite_error_eq_ok_iff, Except.ok.injEq, eq_comm (a := r)]
  refine and_congr_left fun _ => ?_
  rw [SessionMoves, not_and_or, not_not, not_not, eq_comm]

theorem dragSession_eq_ok_iff {target : TurnStatus} :
    s.dragSession sessionId target = .ok s' ↔ ∃ session, s.sessions.get? sessionId = some session ∧
      Follows session.status target ∧ s' = s.dragged sessionId session target := by
  rw [dragSession, bind_eq_ok_iff]
  refine exists_congr fun session => ?_
  rw [requireSession_eq_ok_iff]
  refine and_congr_right fun _ => ?_
  cases htarget : sessionTarget target with
  | none => simp [Follows, dragged, htarget, eq_comm]
  | some goal =>
    by_cases heq : session.status = goal
    · simp [Follows, dragged, htarget, heq, SessionMoves, eq_comm]
    · simp only [Follows, dragged, htarget, heq, ne_eq, not_false_eq_true, if_true, bind_eq_ok_iff,
        setSessionStatus_eq_ok_iff, Option.mem_def, Option.some.injEq, forall_eq']
      constructor
      · rintro ⟨r, ⟨hmoves, rfl⟩, h⟩
        exact ⟨hmoves, (Except.ok.inj h).symm⟩
      · rintro ⟨hmoves, rfl⟩
        exact ⟨_, ⟨hmoves, rfl⟩, rfl⟩

/-- **A turn is moved** exactly when its own table and the table of its session both allow it. -/
theorem changeTurnStatus_eq_ok_iff {turnId error : String} {row : AgentTurn} {target : TurnStatus}
    {r : AgentTurn × AgentSessionStore} :
    s.changeTurnStatus turnId row target error = .ok r ↔
      TurnMoves row.status target ∧ ∃ session, s.sessions.get? row.sessionId = some session ∧
        Follows session.status target ∧
        r = (movedTurn row target error, (s.withTurn turnId row target error).dragged row.sessionId session target) := by
  have hmoves : ¬(target ≠ row.status ∧ target ∉ turnTransitions row.status) ↔ TurnMoves row.status target := by
    rw [TurnMoves, not_and_or, not_not, not_not, eq_comm]
  rw [changeTurnStatus, ite_error_eq_ok_iff, hmoves, bind_eq_ok_iff]
  refine and_congr_right fun _ => ?_
  constructor
  · rintro ⟨s', hdrag, h⟩
    obtain ⟨session, hget, hfollows, rfl⟩ := dragSession_eq_ok_iff.mp hdrag
    exact ⟨session, hget, hfollows, (Except.ok.inj h).symm⟩
  · rintro ⟨session, hget, hfollows, rfl⟩
    exact ⟨_, dragSession_eq_ok_iff.mpr ⟨session, hget, hfollows, rfl⟩, rfl⟩

/-! ### What the moves leave alone -/

@[simp] theorem turns_appendEvent (s : AgentSessionStore) (sessionId : String) (turnId : Option String)
    (eventType : String) (approvalId : Option String) :
    (s.appendEvent sessionId turnId eventType approvalId).turns = s.turns := rfl

section

variable (s : AgentSessionStore) (sessionId : String) (row : AgentSession) (target : SessionStatus)

@[simp] theorem sessions_withSession :
    (s.withSession sessionId row target).sessions = s.sessions.set sessionId (movedSession row target) := by
  rw [withSession]
  split <;> rfl

@[simp] theorem turns_withSession : (s.withSession sessionId row target).turns = s.turns := by
  rw [withSession]
  split <;> rfl

@[simp] theorem approvals_withSession : (s.withSession sessionId row target).approvals = s.approvals := by
  rw [withSession]
  split <;> rfl

end

@[simp] theorem turns_withTurn (s : AgentSessionStore) (turnId : String) (row : AgentTurn) (target : TurnStatus)
    (error : String) : (s.withTurn turnId row target error).turns = s.turns.set turnId (movedTurn row target error) :=
  rfl

@[simp] theorem turns_dragged (s : AgentSessionStore) (sessionId : String) (session : AgentSession)
    (target : TurnStatus) : (s.dragged sessionId session target).turns = s.turns := by
  rw [dragged]
  split
  · rfl
  · split <;> simp

end AgentSessionStore

end ComputeMesh.Platform
