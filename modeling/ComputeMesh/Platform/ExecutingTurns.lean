import ComputeMesh.Platform.SessionMoves

/-!
# One turn at a time

A turn is executed from its claim, or from a transition to running, until it is paused or ends.  `start_turn` refuses a
second active turn only when it may not queue, and neither `claim_turn` nor `transition_turn` looks at the other turns of
the session.

* `OneExecuting` — no session has two turns in execution;
* `Starts` — the turn that a call takes from waiting into execution;
* `executing_run` — **the step lemma**: whatever is executed afterwards was executed before or is started by the call;
* `one_executing_iff` — a run keeps one turn at a time exactly when each turn is started alone;
* `two_queued_turns_claimed` — two turns are queued and both are claimed.
-/

namespace ComputeMesh.Platform

namespace AgentSessionStore

variable {s s' : AgentSessionStore}

def Executing (s : AgentSessionStore) (turnId sessionId : String) : Prop :=
  ∃ row, s.turns.get? turnId = some row ∧ row.sessionId = sessionId ∧ row.status ∈ executingStatuses

/-- No session has two turns in execution. -/
def OneExecuting (s : AgentSessionStore) : Prop :=
  ∀ turnId turnId' sessionId, s.Executing turnId sessionId → s.Executing turnId' sessionId → turnId = turnId'

def CanStart (s : AgentSessionStore) (turnId : String) (row : AgentTurn) : Prop :=
  s.turns.get? turnId = some row ∧ Waits row ∧
    ∃ session, s.sessions.get? row.sessionId = some session ∧ Follows session.status .running

theorem executing_of_turnMoves {status target : TurnStatus} (hmoves : TurnMoves status target)
    (htarget : target ∈ executingStatuses) :
    status ∈ executingStatuses ∨ (status ∈ [TurnStatus.queued, .resuming] ∧ target = .running) := by
  revert hmoves htarget
  cases status <;> cases target <;> decide

end AgentSessionStore

open AgentSessionStore

/-- The call takes a turn from waiting into execution. -/
def StoreOp.Starts (s : AgentSessionStore) (turnId : String) (row : AgentTurn) : StoreOp → Prop
  | claimTurn id workerId =>
    id = turnId ∧ CanStart s turnId row ∧ ValidWorker workerId ∧ s.pauseOrCancelPending row.sessionId turnId = false
  | transitionTurn id target expectedVersion _ =>
    id = turnId ∧ CanStart s turnId row ∧ target = .running ∧ ∀ expected ∈ expectedVersion, row.version = expected
  | _ => False

/-- A turn is started only while no turn of its session is being executed. -/
def StartsAlone (s : AgentSessionStore) (op : StoreOp) : Prop :=
  ∀ turnId row, op.Starts s turnId row → ∀ turnId', ¬s.Executing turnId' row.sessionId

variable {op : StoreOp} {turnId : String}

theorem StoreOp.canStart_of_starts {s : AgentSessionStore} {row : AgentTurn}
    (h : op.Starts s turnId row) : CanStart s turnId row := by
  cases op with
  | claimTurn id workerId => exact h.2.1
  | transitionTurn id target expectedVersion error => exact h.2.1
  | _ => exact h.elim

theorem StoreOp.starts_unique {s : AgentSessionStore} {turnId' : String} {row row' : AgentTurn}
    (h : op.Starts s turnId row) (h' : op.Starts s turnId' row') : turnId = turnId' := by
  cases op with
  | claimTurn id workerId | transitionTurn id target expectedVersion error => exact h.1.symm.trans h'.1
  | _ => exact h.elim

theorem turns_of_starts {s : AgentSessionStore} {row : AgentTurn}
    (h : op.Starts s turnId row) : ∃ row', (op.run s).turns = s.turns.set turnId row' ∧ row'.sessionId = row.sessionId ∧
      row'.status = .running := by
  cases op with
  | claimTurn id workerId =>
    obtain ⟨rfl, ⟨hget, hwaits, session, hsession, hfollows⟩, hworker, hfree⟩ := h
    have hok : s.claimTurn id workerId = .ok (some (claimedTurn row), s.claimed id row session) :=
      claimTurn_eq_ok_iff.mpr ⟨hworker, row, hget, .inr ⟨⟨hwaits, hfree⟩, session, hsession, hfollows, rfl⟩⟩
    refine ⟨claimedTurn row, ?_, rfl, rfl⟩
    rw [StoreOp.run, hok, committed_ok, claimed, turns_appendEvent, turns_dragged]
  | transitionTurn id target expectedVersion error =>
    obtain ⟨rfl, ⟨hget, hwaits, session, hsession, hfollows⟩, rfl, hversion⟩ := h
    have hmoves : TurnMoves row.status .running := by
      have hall : ∀ status ∈ [TurnStatus.queued, .resuming], TurnMoves status .running := by decide
      exact hall row.status hwaits
    have hok : s.transitionTurn id .running expectedVersion error = .ok _ := transitionTurn_eq_ok_iff.mpr
      ⟨row, hget, hversion, changeTurnStatus_eq_ok_iff.mpr ⟨hmoves, session, hsession, hfollows, rfl⟩⟩
    refine ⟨movedTurn row .running error, ?_, rfl, rfl⟩
    rw [StoreOp.run, hok, committed_ok, turns_dragged, turns_withTurn]
  | _ => exact h.elim

theorem executing_of_movedTurns {s s' : AgentSessionStore} (h : MovedTurns StartsNothing s s') {sessionId : String}
    (hexec : s'.Executing turnId sessionId) : s.Executing turnId sessionId := by
  obtain ⟨row', hget', rfl, hstatus⟩ := hexec
  rcases h.turns turnId row' hget' with ⟨row, hget, hid, hsame | hmoved⟩ | ⟨-, -, hqueued, -⟩
  · exact ⟨row, hget, hid.symm, hsame ▸ hstatus⟩
  · exact absurd hstatus hmoved.2
  · rw [hqueued] at hstatus
    exact absurd hstatus (by decide)

theorem executing_set {s : AgentSessionStore} {d : Dict String AgentTurn} {turnId' sessionId : String}
    {row row' : AgentTurn} (hd : d = s.turns.set turnId row') (hget : d.get? turnId' = some row)
    (hid : row.sessionId = sessionId) (hstatus : row.status ∈ executingStatuses) :
    s.Executing turnId' sessionId ∨ (turnId' = turnId ∧ row' = row) := by
  rw [hd] at hget
  rcases Dict.get?_set_eq_some.mp hget with ⟨heq, hget⟩ | ⟨-, hget⟩
  · exact .inr ⟨heq, hget⟩
  · exact .inl ⟨row, hget, hid, hstatus⟩

/-- **The step lemma.** -/
theorem executing_run {s : AgentSessionStore} {sessionId : String} (hexec : (op.run s).Executing turnId sessionId) :
    s.Executing turnId sessionId ∨ ∃ row, op.Starts s turnId row ∧ row.sessionId = sessionId := by
  have hmoved := movedTurns_run s op
  cases op with
  | claimTurn id workerId =>
    rw [StoreOp.run] at hexec
    cases hcall : s.claimTurn id workerId with
    | error e =>
      rw [hcall] at hexec
      exact .inl hexec
    | ok r =>
      rw [hcall] at hexec
      obtain ⟨hworker, row, hget, ⟨-, rfl⟩ | ⟨⟨hwaits, hfree⟩, session, hsession, hfollows, rfl⟩⟩ :=
        claimTurn_eq_ok_iff.mp hcall
      · exact .inl hexec
      · obtain ⟨row', hget', hid, hstatus⟩ := hexec
        have hturns : (s.claimed id row session).turns = s.turns.set id (claimedTurn row) := by
          rw [claimed, turns_appendEvent, turns_dragged]
        rcases executing_set hturns hget' hid hstatus with hold | ⟨rfl, rfl⟩
        · exact .inl hold
        · exact .inr ⟨row, ⟨rfl, ⟨hget, hwaits, session, hsession, hfollows⟩, hworker, hfree⟩, hid⟩
  | transitionTurn id target expectedVersion error =>
    rw [StoreOp.run] at hexec
    cases hcall : s.transitionTurn id target expectedVersion error with
    | error e =>
      rw [hcall] at hexec
      exact .inl hexec
    | ok r =>
      rw [hcall] at hexec
      obtain ⟨row, hget, hversion, hchange⟩ := transitionTurn_eq_ok_iff.mp hcall
      obtain ⟨hmoves, session, hsession, hfollows, rfl⟩ := changeTurnStatus_eq_ok_iff.mp hchange
      obtain ⟨row', hget', hid, hstatus⟩ := hexec
      rcases executing_set (turns_dragged _ _ _ _) hget' hid hstatus with hold | ⟨rfl, rfl⟩
      · exact .inl hold
      · rcases executing_of_turnMoves hmoves hstatus with hbefore | ⟨hwaits, rfl⟩
        · exact .inl ⟨row, hget, hid, hbefore⟩
        · exact .inr ⟨row, ⟨rfl, ⟨hget, hwaits, session, hsession, hfollows⟩, rfl, hversion⟩, hid⟩
  | _ => exact .inl (executing_of_movedTurns hmoved hexec)

theorem oneExecuting_run {s : AgentSessionStore} (hs : OneExecuting s) (halone : StartsAlone s op) :
    OneExecuting (op.run s) := by
  intro turnId turnId' sessionId hexec hexec'
  rcases executing_run hexec with hold | ⟨row, hstarts, rfl⟩
  · rcases executing_run hexec' with hold' | ⟨row', hstarts', rfl⟩
    · exact hs turnId turnId' sessionId hold hold'
    · exact absurd hold (halone turnId' row' hstarts' turnId)
  · rcases executing_run hexec' with hold' | ⟨row', hstarts', -⟩
    · exact absurd hold' (halone turnId row hstarts turnId')
    · exact StoreOp.starts_unique hstarts hstarts'

theorem startsAlone_of_oneExecuting {s : AgentSessionStore} (h : OneExecuting (op.run s)) : StartsAlone s op := by
  intro turnId row hstarts turnId' hexec
  obtain ⟨row', hturns, hid, hstatus⟩ := turns_of_starts hstarts
  obtain ⟨hget, hwaits, -⟩ := StoreOp.canStart_of_starts hstarts
  obtain ⟨row₂, hget₂, hid₂, hstatus₂⟩ := hexec
  have hne : turnId' ≠ turnId := by
    rintro rfl
    obtain rfl := Option.some.inj (hget.symm.trans hget₂)
    have hall : ∀ status ∈ [TurnStatus.queued, .resuming], status ∉ executingStatuses := by decide
    exact hall row.status hwaits hstatus₂
  refine hne (h turnId' turnId row.sessionId ⟨row₂, ?_, hid₂, hstatus₂⟩ ⟨row', ?_, hid, ?_⟩)
  · rw [hturns, Dict.get?_set_of_ne _ hne, hget₂]
  · rw [hturns, Dict.get?_set_self]
  · rw [hstatus]
    decide

/-- **One turn at a time.**  In a run on a new database, no session ever has two turns in execution if and only if every
turn is started while no turn of its session is being executed. -/
theorem one_executing_iff (ops : List StoreOp) :
    Run.Along StoreOp.run (fun s op => OneExecuting (op.run s)) .empty ops ↔
      Run.Along StoreOp.run StartsAlone .empty ops := by
  have hempty : OneExecuting .empty := by
    rintro turnId turnId' sessionId ⟨row, hget, -⟩
    cases hget
  exact Run.along_iff_along OneExecuting (fun s op hs _ halone => oneExecuting_run hs halone)
    (fun s op hs _ => ⟨startsAlone_of_oneExecuting, oneExecuting_run hs⟩) hempty (fun _ _ => trivial)

/-- Two turns of a session are queued, and both are claimed. -/
theorem two_queued_turns_claimed : ¬OneExecuting (reached [.createTask "s" "t1" "p" 0 none 0,
      .startTurn { sessionId := "s", turnId := "t2", allowQueue := true } 1, .claimTurn "t1" "worker",
      .claimTurn "t2" "worker"]) := by
  intro h
  have hfirst : (reached [.createTask "s" "t1" "p" 0 none 0,
      .startTurn { sessionId := "s", turnId := "t2", allowQueue := true } 1, .claimTurn "t1" "worker",
      .claimTurn "t2" "worker"]).turns.get? "t1" = some ⟨"s", .running, 2, "", 0, 0, none, ""⟩ := by decide
  have hsecond : (reached [.createTask "s" "t1" "p" 0 none 0,
      .startTurn { sessionId := "s", turnId := "t2", allowQueue := true } 1, .claimTurn "t1" "worker",
      .claimTurn "t2" "worker"]).turns.get? "t2" = some ⟨"s", .running, 2, "", 1, 0, none, ""⟩ := by decide
  exact absurd (h "t1" "t2" "s" ⟨_, hfirst, rfl, by decide⟩ ⟨_, hsecond, rfl, by decide⟩) (by decide)

end ComputeMesh.Platform
