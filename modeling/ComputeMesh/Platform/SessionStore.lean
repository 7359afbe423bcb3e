import ComputeMesh.Platform.AgentSession

/-!
# The methods of the agent session store

`AgentSessionStore` of `services/mcp/platform/session.py`: every method runs in one transaction and returns, or raises
and leaves the rows as they were.

* `createSession`, `createTask`, `startTurn` — new sessions and turns;
* `expireQueuedTurn`, `claimTurn`, `transitionTurn`, `transitionSession`, `resumeSession`, `recoverInterrupted` — the
  life of a turn and of its session;
* `requestControl`, `applyPendingControl` — pausing, resuming and cancelling.

An id that the source makes up when none is given is an argument here, and so is every reading of the clock.  Only for
turns is the choice made here, since their ids must not be empty.
-/

namespace ComputeMesh.Platform

open Text

namespace AgentSessionStore

/-! ### New sessions and turns -/

def validateTurnSchedule (priority : ℤ) (deadlineAt : Option ℚ) : Except StoreError Unit :=
  if ¬(-1000 ≤ priority ∧ priority ≤ 1000) then
    .error (.valueError "priority must be between -1000 and 1000")
  else match deadlineAt with
    | none => .ok ()
    | some deadline =>
      if deadline ≤ 0 then .error (.valueError "deadline_at must be a positive finite Unix timestamp") else .ok ()

/-- The characters of an idempotency key. -/
def isKeyChar (c : Char) : Bool := c.isAlphanum || "_.:/-".toList.contains c

def validateIdempotencyKey (idempotencyKey : Option String) : Except StoreError String :=
  match idempotencyKey with
  | none => .ok ""
  | some key =>
    let cleanKey := strip key
    if cleanKey = "" then .ok ""
    else if 160 < cleanKey.toList.length ∨ ¬cleanKey.toList.all isKeyChar then
      .error (.valueError "idempotency_key must be a bounded identifier")
    else .ok cleanKey

/-- `turn_id or _new_id("turn")`, with the digits that the latter draws. -/
def turnIdOr (turnId uuid : String) : String := textOr turnId ("turn_" ++ uuid)

/-- A turn as it is inserted. -/
def queuedTurn (sessionId : String) (priority : ℤ) (deadlineAt : Option ℚ) (idempotencyKey : String) (now : ℚ) :
    AgentTurn :=
  ⟨sessionId, .queued, 1, "", now, priority, deadlineAt, idempotencyKey⟩

def createSession (s : AgentSessionStore) (sessionId principalId : String) :
    Except StoreError (AgentSession × AgentSessionStore) :=
  if s.sessions.contains sessionId then
    .error (.sessionStateConflict ("session already exists: " ++ sessionId))
  else
    let session : AgentSession := ⟨.ready, principalId, 1⟩
    .ok (session, ({ s with sessions := s.sessions.set sessionId session }).appendEvent sessionId none
      "session.created" none)

/-- `create_task`: a session with its first turn. -/
def createTask (s : AgentSessionStore) (sessionId givenId principalId : String) (priority : ℤ)
    (deadlineAt : Option ℚ) (now : ℚ) (uuid : String) :
    Except StoreError ((AgentSession × AgentTurn) × AgentSessionStore) := do
  validateTurnSchedule priority deadlineAt
  let turnId := turnIdOr givenId uuid
  if s.sessions.contains sessionId ∨ s.turns.contains turnId then
    .error (.sessionStateConflict "task session or turn already exists")
  else do
    let session : AgentSession := ⟨.ready, principalId, 1⟩
    let turn := queuedTurn sessionId priority deadlineAt "" now
    let s := ({ s with sessions := s.sessions.set sessionId session }).appendEvent sessionId none "session.created" none
    let s := { s with turns := s.turns.set turnId turn }
    let (session, s) ← s.setSessionStatus sessionId session .running
    .ok ((session, turn), s.appendEvent sessionId (some turnId) "turn.created" none)

/-- What `start_turn` is asked for. -/
structure TurnRequest where
  sessionId : String
  turnId : String
  priority : ℤ := 0
  deadlineAt : Option ℚ := none
  expectedVersion : Option ℤ := none
  idempotencyKey : Option String := none
  allowQueue : Bool := false
  uuid : String := ""

/-- The turn of the session that was started under the same key. -/
def turnOfKey (s : AgentSessionStore) (sessionId key : String) : Option AgentTurn :=
  if key = "" then none
  else s.turns.values.find? fun turn => turn.sessionId == sessionId && turn.idempotencyKey == key

def checkVersion (expectedVersion : Option ℤ) (version : ℤ) (message : String) : Except StoreError Unit :=
  match expectedVersion with
  | none => .ok ()
  | some expected => if version ≠ expected then .error (.sessionStateConflict message) else .ok ()

/-- The guard of `start_turn`, on each of its two paths. -/
def checkStartable (s : AgentSessionStore) (sessionId : String) (status : SessionStatus) (allowQueue : Bool) :
    Except StoreError Unit :=
  if allowQueue then
    if status ∉ [.ready, .running, .waitingForTool, .waitingForApproval, .waitingForSubagents, .compacting] then
      .error (.sessionStateConflict ("session cannot queue a turn in state: " ++ status.value))
    else .ok ()
  else if status ≠ .ready then
    .error (.sessionStateConflict ("session is not ready for a new turn: " ++ status.value))
  else if s.turns.values.any fun turn =>
      turn.sessionId == sessionId && decide (turn.status ∈ activeTurnStatuses) then
    .error (.sessionStateConflict "session already has an active turn")
  else .ok ()

/-- The session of a turn that is started: it runs if it was ready, and else only its version moves. -/
def startSession (s : AgentSessionStore) (sessionId : String) (session : AgentSession) :
    Except StoreError AgentSessionStore :=
  if session.status = .ready then do
    let (_, s) ← s.setSessionStatus sessionId session .running
    .ok s
  else .ok { s with sessions := s.sessions.set sessionId { session with version := session.version + 1 } }

/-- The insertion at the end of `start_turn`. -/
def insertTurn (s : AgentSessionStore) (sessionId turnId : String) (session : AgentSession) (turn : AgentTurn) :
    Except StoreError (AgentTurn × AgentSessionStore) :=
  if s.turns.contains turnId then .error (.sessionStateConflict ("turn already exists: " ++ turnId))
  else do
    let s ← ({ s with turns := s.turns.set turnId turn }).startSession sessionId session
    .ok (turn, s.appendEvent sessionId (some turnId) "turn.created" none)

def startTurn (s : AgentSessionStore) (a : TurnRequest) (now : ℚ) :
    Except StoreError (AgentTurn × AgentSessionStore) := do
  validateTurnSchedule a.priority a.deadlineAt
  let key ← validateIdempotencyKey a.idempotencyKey
  let session ← s.requireSession a.sessionId
  match s.turnOfKey a.sessionId key with
  | some turn => .ok (turn, s)
  | none => do
    checkVersion a.expectedVersion session.version "session version changed"
    s.checkStartable a.sessionId session.status a.allowQueue
    s.insertTurn a.sessionId (turnIdOr a.turnId a.uuid) session
      (queuedTurn a.sessionId a.priority a.deadlineAt key now)

/-! ### The life of a turn -/

def expireQueuedTurn (s : AgentSessionStore) (turnId : String) (now : ℚ) :
    Except StoreError (Option AgentTurn × AgentSessionStore) := do
  let row ← s.requireTurn turnId
  match row.deadlineAt with
  | none => .ok (none, s)
  | some deadline =>
    if now < deadline then .ok (none, s)
    else if row.status ∉ [TurnStatus.queued, .resuming] then .ok (none, s)
    else do
      let (turn, s) ← s.applyTurnStatus turnId row .failed "deadline_exceeded"
      .ok (some turn, s)

def concerns (control : AgentControl) (sessionId turnId : String) (action : ControlAction) : Bool :=
  control.sessionId == sessionId && (control.turnId == some turnId || control.turnId == none) &&
    control.status == .requested && control.action == action

def pauseOrCancelPending (s : AgentSessionStore) (sessionId turnId : String) : Bool :=
  s.controls.values.any fun control => concerns control sessionId turnId .pause || concerns control sessionId turnId .cancel

def claimedTurn (row : AgentTurn) : AgentTurn := { row with status := .running, version := row.version + 1, error := "" }

def claimTurn (s : AgentSessionStore) (turnId workerId : String) :
    Except StoreError (Option AgentTurn × AgentSessionStore) :=
  let cleanWorker := strip workerId
  if cleanWorker = "" ∨ 128 < cleanWorker.toList.length then
    .error (.valueError "worker_id must be between 1 and 128 characters")
  else do
    let row ← s.requireTurn turnId
    if row.status ∉ [TurnStatus.queued, .resuming] then .ok (none, s)
    else if s.pauseOrCancelPending row.sessionId turnId then .ok (none, s)
    else do
      let s ← ({ s with turns := s.turns.set turnId (claimedTurn row) }).dragSession row.sessionId .running
      .ok (some (claimedTurn row), s.appendEvent row.sessionId (some turnId) "turn.claimed" none)

def transitionTurn (s : AgentSessionStore) (turnId : String) (target : TurnStatus) (expectedVersion : Option ℤ)
    (error : String) : Except StoreError (AgentTurn × AgentSessionStore) := do
  let row ← s.requireTurn turnId
  checkVersion expectedVersion row.version "turn version changed"
  s.changeTurnStatus turnId row target error

def transitionSession (s : AgentSessionStore) (sessionId : String) (target : SessionStatus)
    (expectedVersion : Option ℤ) : Except StoreError (AgentSession × AgentSessionStore) := do
  let row ← s.requireSession sessionId
  checkVersion expectedVersion row.version "session version changed"
  s.setSessionStatus sessionId row target

/-- From paused or failed over resuming to ready. -/
def resumeToReady (s : AgentSessionStore) (sessionId : String) : Except StoreError (AgentSession × AgentSessionStore) := do
  let row ← s.requireSession sessionId
  let (_, s) ← s.setSessionStatus sessionId row .resuming
  let row ← s.requireSession sessionId
  let (ready, s) ← s.setSessionStatus sessionId row .ready
  .ok (ready, s.appendEvent sessionId none "session.resumed" none)

def resumeSession (s : AgentSessionStore) (sessionId : String) :
    Except StoreError (AgentSession × AgentSessionStore) := do
  let row ← s.requireSession sessionId
  if row.status ∉ [SessionStatus.paused, .failed] then
    .error (.sessionStateConflict ("session cannot resume in state: " ++ row.status.value))
  else s.resumeToReady sessionId

/-- The turn as the recovery stores it. -/
def interruptedTurn (row : AgentTurn) : AgentTurn :=
  { row with status := .paused, version := row.version + 1, error := "runtime_restarted" }

/-- One turn of `recover_interrupted`. -/
def recoverTurn (s : AgentSessionStore) (turnId : String) (row : AgentTurn) : Except StoreError AgentSessionStore := do
  let s := ({ s with turns := s.turns.set turnId (interruptedTurn row) }).appendEvent row.sessionId (some turnId)
    "turn.interrupted" none
  let session ← s.requireSession row.sessionId
  if session.status ∉ [SessionStatus.paused, .cancelled, .expired] then do
    let (_, s) ← s.setSessionStatus row.sessionId session .paused
    .ok s
  else .ok s

/-- The loop of `recover_interrupted`. -/
def recoverTurns : AgentSessionStore → List (String × AgentTurn) → Except StoreError AgentSessionStore
  | s, [] => .ok s
  | s, (turnId, row) :: rows => do
    let s ← s.recoverTurn turnId row
    recoverTurns s rows

/-- The statuses whose turns a restart interrupts. -/
def inFlightStatuses : List TurnStatus := activeTurnStatuses.erase .queued

/-- The turns that a restart interrupts.  The query names no order; this is that of the table. -/
def inFlight (s : AgentSessionStore) : List (String × AgentTurn) :=
  s.turns.entries.filter fun e => decide (e.2.status ∈ inFlightStatuses)

def recoverInterrupted (s : AgentSessionStore) : Except StoreError (List String × AgentSessionStore) := do
  let rows := s.inFlight
  let s ← s.recoverTurns rows
  .ok (rows.map Prod.fst, s)

/-! ### Controls -/

/-- `hmac.compare_digest` on two texts. -/
def compareDigest (a b : String) : Except StoreError Bool :=
  if (a.toList ++ b.toList).all fun c => decide (c.toNat < 128) then .ok (decide (a = b))
  else .error (.typeError "comparing strings with non-ASCII characters is not supported")

def authorizeControl (session : AgentSession) (principalId : Option String) (isAdmin : Bool) :
    Except StoreError Unit :=
  let denied := StoreError.permissionError "control does not belong to the authenticated principal"
  if isAdmin then .ok ()
  else if session.principalId = "" ∨ principalId.getD "" = "" then .error denied
  else do
    let same ← compareDigest session.principalId (principalId.getD "")
    if same then .ok () else .error denied

/-- What `request_control` is asked for. -/
structure ControlRequest where
  sessionId : String
  action : ControlAction
  principalId : Option String
  turnId : Option String := none
  isAdmin : Bool := false
  controlId : String

/-- The order in which a turn is chosen: active ones first, then the newest. -/
def chosenBefore (a b : String × AgentTurn) : Prop :=
  let rank (turn : AgentTurn) := if turn.status ∈ activeTurnStatuses then 0 else 1
  rank a.2 < rank b.2 ∨ rank a.2 = rank b.2 ∧
    (b.2.createdAt < a.2.createdAt ∨ b.2.createdAt = a.2.createdAt ∧ b.1 ≤ a.1)

instance : DecidableRel chosenBefore := fun a b => by
  unfold chosenBefore
  infer_instance

/-- The turn that a control is for: the one named, or else one that the session has. -/
def selectTurn (s : AgentSessionStore) (sessionId : String) (turnId : Option String) :
    Except StoreError (Option (String × AgentTurn)) :=
  match turnId with
  | some turnId => do
    let turn ← s.requireTurn turnId
    if turn.sessionId ≠ sessionId then
      .error (.sessionStateConflict "control turn belongs to a different session")
    else .ok (some (turnId, turn))
  | none =>
    .ok ((s.turns.entries.filter fun e => e.2.sessionId == sessionId).insertionSort chosenBefore).head?

/-- The newest of some controls; of those made at one time, the one stored first. -/
def newest (controls : List (String × AgentControl)) : Option (String × AgentControl) :=
  (controls.insertionSort fun a b => b.2.createdAt ≤ a.2.createdAt).head?

/-- The request that a new one would repeat. -/
def repeatedControl (s : AgentSessionStore) (sessionId : String) (turnId : Option String) (action : ControlAction) :
    Option (String × AgentControl) :=
  newest (s.controls.entries.filter fun e =>
    e.2.sessionId == sessionId && e.2.turnId == turnId && e.2.action == action && e.2.status == .requested)

def setControlStatus (s : AgentSessionStore) (controlId : String) (row : AgentControl) (status : ControlStatus)
    (reason : String) : AgentControl × AgentSessionStore :=
  let control := { row with status, reason := firstChars 512 reason }
  let eventType := if status = .applied then "control.applied" else "control.rejected"
  (control, ({ s with controls := s.controls.set controlId control }).appendEvent row.sessionId row.turnId eventType none)

/-- The status that a pause or a cancel is for. -/
def controlTarget : ControlAction → TurnStatus
  | .pause => .paused
  | _ => .cancelled

/-- `request_control` once the request is stored. -/
def performControl (s : AgentSessionStore) (sessionId : String) (session : AgentSession)
    (selected : Option (String × AgentTurn)) (controlId : String) (row : AgentControl) :
    Except StoreError (AgentControl × AgentSessionStore) :=
  match row.action, selected with
  | .resume, selected =>
    if session.status ∉ [SessionStatus.paused, .failed] then
      .error (.sessionStateConflict ("session cannot resume in state: " ++ session.status.value))
    else match selected with
      | none => .error (.sessionStateConflict "resume requires a paused or failed turn")
      | some (turnId, turn) =>
        if turn.status ∉ [TurnStatus.paused, .failed] then
          .error (.sessionStateConflict "resume requires a paused or failed turn")
        else do
          let (_, s) ← s.applyTurnStatus turnId turn .resuming ""
          let (_, s) ← s.resumeToReady sessionId
          .ok (s.setControlStatus controlId row .applied "resuming")
  | .pause, none =>
    if session.status ∈ [SessionStatus.running, .ready] then do
      let (_, s) ← s.setSessionStatus sessionId session .paused
      .ok (s.setControlStatus controlId row .applied "paused")
    else .ok (row, s)
  | .cancel, none => .ok (row, s)
  | action, some (turnId, turn) =>
    -- a running turn is left to its worker
    if turn.status ≠ .running then do
      let (_, s) ← s.applyTurnStatus turnId turn (controlTarget action) ""
      .ok (s.setControlStatus controlId row .applied (controlTarget action).value)
    else .ok (row, s)

/-- A request as it is inserted. -/
def requestedControl (a : ControlRequest) (turnId : Option String) (now : ℚ) : AgentControl :=
  ⟨a.sessionId, turnId, a.action, .requested, a.principalId.getD "", now, ""⟩

def withControl (s : AgentSessionStore) (controlId : String) (row : AgentControl) : AgentSessionStore :=
  ({ s with controls := s.controls.set controlId row }).appendEvent row.sessionId row.turnId "control.requested" none

def requestControl (s : AgentSessionStore) (a : ControlRequest) (now : ℚ) :
    Except StoreError (AgentControl × AgentSessionStore) := do
  let session ← s.requireSession a.sessionId
  authorizeControl session a.principalId a.isAdmin
  let selected ← s.selectTurn a.sessionId a.turnId
  match s.repeatedControl a.sessionId (selected.map Prod.fst) a.action with
  | some (_, control) => .ok (control, s)
  | none =>
    let row := requestedControl a (selected.map Prod.fst) now
    if s.controls.contains a.controlId then
      .error (.integrityError "UNIQUE constraint failed: agent_controls.control_id")
    else (s.withControl a.controlId row).performControl a.sessionId session selected a.controlId row

/-- The pending control that a worker applies. -/
def pendingControl (s : AgentSessionStore) (sessionId turnId : String) (action : ControlAction) :
    Option (String × AgentControl) :=
  newest (s.controls.entries.filter fun e => concerns e.2 sessionId turnId action)

def applyPendingControl (s : AgentSessionStore) (sessionId turnId : String) (action : ControlAction) :
    Except StoreError (AgentControl × AgentSessionStore) :=
  match s.pendingControl sessionId turnId action with
  | none => .error (.sessionStateConflict "no pending control exists")
  | some (controlId, row) => do
    let turn ← s.requireTurn turnId
    if action = .resume then .error (.sessionStateConflict "resume is not an active-worker control")
    else if turn.status ∉
        [controlTarget action, .running, .waitingForTool, .waitingForSubagents, .compacting] then
      .ok (s.setControlStatus controlId row .rejected ("turn_" ++ turn.status.value))
    else if turn.status ≠ controlTarget action then do
      let (_, s) ← s.applyTurnStatus turnId turn (controlTarget action) ""
      .ok (s.setControlStatus controlId row .applied (controlTarget action).value)
    else .ok (s.setControlStatus controlId row .applied (controlTarget action).value)

end AgentSessionStore

end ComputeMesh.Platform
