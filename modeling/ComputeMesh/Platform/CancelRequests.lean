import ComputeMesh.Platform.SessionMoves

/-!
# Cancelling a turn

The owner of a session cancels one of its turns: `request_control` applies the request at once, unless the turn is
running or the same request is already pending; then the worker applies it at its next safe point.

* `Stoppable` — the cancel is applied or recorded as pending, and a turn with a pending pause or cancel is not claimed;
* `requestCancel_iff`, `applyCancel_iff` — exactly when the two methods return;
* `stoppable_iff_cancellable` — **exactly when the owner can stop a turn**;
* `cancel_of_paused_turn` — a paused turn cannot be stopped: its session would have to go from paused to ready.
-/

namespace ComputeMesh.Platform

namespace AgentSessionStore

variable {s s' : AgentSessionStore} {turnId : String} {row : AgentTurn} {session : AgentSession}

def cancelRequest (sessionId turnId owner controlId : String) : ControlRequest :=
  { sessionId, action := .cancel, principalId := some owner, turnId := some turnId, controlId }

/-- The statuses in which a worker is executing the turn and comes to a safe point. -/
def safePointStatuses : List TurnStatus := [.running, .waitingForTool, .waitingForSubagents, .compacting]

def Cancelled (s : AgentSessionStore) (turnId : String) : Prop :=
  ∃ row, s.turns.get? turnId = some row ∧ row.status = .cancelled

/-- The worker applies the pending cancel. -/
def WorkerCancels (s : AgentSessionStore) (sessionId turnId : String) : Prop :=
  ∃ control s', s.applyPendingControl sessionId turnId .cancel = .ok (control, s') ∧ control.status = .applied ∧
    Cancelled s' turnId

/-- The owner of the session can stop the turn. -/
structure Stoppable (s : AgentSessionStore) (turnId : String) (row : AgentTurn) (session : AgentSession) : Prop where
  cancel : ∀ controlId now, s.controls.contains controlId = false → ∃ control s',
    s.requestControl (cancelRequest row.sessionId turnId session.principalId controlId) now = .ok (control, s') ∧
      (control.status = .applied ∧ Cancelled s' turnId ∨ control.status = .requested ∧ s'.turns = s.turns ∧
          (row.status ∈ safePointStatuses → WorkerCancels s' row.sessionId turnId))
  unclaimed : s.pauseOrCancelPending row.sessionId turnId = true → ∀ workerId r, s.claimTurn turnId workerId = .ok r →
    r.1 = none

/-- The owner's id can be compared, and either a cancel of the turn is already pending that no worker is to apply now,
or both tables allow the move to cancelled. -/
structure Cancellable (s : AgentSessionStore) (turnId : String) (row : AgentTurn) (session : AgentSession) : Prop where
  owner : session.principalId.toList.all fun c => decide (c.toNat < 128)
  moves : ((s.repeatedControl row.sessionId (some turnId) .cancel).isSome ∧ row.status ∉ safePointStatuses) ∨
    (TurnMoves row.status .cancelled ∧ Follows session.status .cancelled)

/-! ### The two calls -/

variable {e : String × AgentControl}

theorem newest_of_mem {controls : List (String × AgentControl)} (h : e ∈ controls) :
    ∃ e', newest controls = some e' := by
  have hmem := (List.mem_insertionSort (fun a b : String × AgentControl => b.2.createdAt ≤ a.2.createdAt)).mpr h
  cases hsorted : controls.insertionSort fun a b => b.2.createdAt ≤ a.2.createdAt with
  | nil => rw [hsorted] at hmem; cases hmem
  | cons e' rest => exact ⟨e', by rw [newest, hsorted]; rfl⟩

theorem mem_of_newest {controls : List (String × AgentControl)} (h : newest controls = some e) : e ∈ controls :=
  (List.mem_insertionSort _).mp (List.mem_of_mem_head? h)

theorem authorizeControl_owner (howner : session.principalId ≠ "") :
    authorizeControl session (some session.principalId) false = .ok () ↔
      session.principalId.toList.all fun c => decide (c.toNat < 128) := by
  simp only [authorizeControl, Bool.false_eq_true, if_false, Option.getD_some, howner, or_self, compareDigest,
    List.all_append, Bool.and_self]
  split
  · rename_i hascii
    exact iff_of_true (by simp) hascii
  · rename_i hascii
    exact iff_of_false nofun hascii

theorem selectTurn_some (hget : s.turns.get? turnId = some row) :
    s.selectTurn row.sessionId (some turnId) = .ok (some (turnId, row)) := by
  show (s.requireTurn turnId >>= fun turn => if turn.sessionId ≠ row.sessionId then _ else _) = _
  rw [requireTurn_eq_ok_iff.mpr hget]
  show (if row.sessionId ≠ row.sessionId then _ else _) = _
  rw [if_neg (not_not.mpr rfl)]

theorem cancelled_of_applyTurnStatus {error : String} {r : AgentTurn × AgentSessionStore}
    (h : s.applyTurnStatus turnId row .cancelled error = .ok r) : Cancelled r.2 turnId := by
  obtain ⟨-, session, -, -, rfl⟩ := changeTurnStatus_eq_ok_iff.mp h
  refine ⟨movedTurn row .cancelled error, ?_, rfl⟩
  rw [turns_dragged, turns_withTurn, Dict.get?_set_self]

/-- **The worker's side.** -/
theorem applyCancel_iff (hget : s.turns.get? turnId = some row)
    (hsession : s.sessions.get? row.sessionId = some session) (hsafe : row.status ∈ safePointStatuses)
    (hpending : s.pendingControl row.sessionId turnId .cancel ≠ none) :
    WorkerCancels s row.sessionId turnId ↔ TurnMoves row.status .cancelled ∧ Follows session.status .cancelled := by
  obtain ⟨⟨controlId, control⟩, hcontrol⟩ := Option.ne_none_iff_exists'.mp hpending
  have haccepted : row.status ∈
      [controlTarget .cancel, .running, .waitingForTool, .waitingForSubagents, .compacting] :=
    List.mem_cons_of_mem _ hsafe
  have hopen : row.status ≠ controlTarget .cancel := by
    have hall : ∀ status ∈ safePointStatuses, status ≠ controlTarget .cancel := by decide
    exact hall row.status hsafe
  have happly : s.applyPendingControl row.sessionId turnId .cancel =
      (s.applyTurnStatus turnId row .cancelled "" >>= fun r =>
        .ok (r.2.setControlStatus controlId control .applied (controlTarget .cancel).value)) := by
    rw [applyPendingControl, hcontrol]
    dsimp only
    rw [requireTurn_eq_ok_iff.mpr hget, ok_bind, if_neg (by decide), if_neg (not_not.mpr haccepted), if_pos hopen]
    rfl
  constructor
  · rintro ⟨control', s', h, -, -⟩
    rw [happly] at h
    obtain ⟨r, hturn, -⟩ := bind_eq_ok_iff.mp h
    obtain ⟨hmoves, session', hsession', hfollows, -⟩ := changeTurnStatus_eq_ok_iff.mp hturn
    obtain rfl := Option.some.inj (hsession.symm.trans hsession')
    exact ⟨hmoves, hfollows⟩
  · rintro ⟨hmoves, hfollows⟩
    have hturn : s.applyTurnStatus turnId row .cancelled "" = .ok _ :=
      changeTurnStatus_eq_ok_iff.mpr ⟨hmoves, session, hsession, hfollows, rfl⟩
    refine ⟨_, _, happly.trans (bind_eq_ok_iff.mpr ⟨_, hturn, rfl⟩), rfl, ?_⟩
    exact cancelled_of_applyTurnStatus hturn

theorem performControl_cancel (s : AgentSessionStore) (sessionId turnId controlId : String) (session : AgentSession)
    (row : AgentTurn) {control : AgentControl} (haction : control.action = .cancel) :
    s.performControl sessionId session (some (turnId, row)) controlId control = if row.status ≠ .running then
        s.applyTurnStatus turnId row .cancelled "" >>= fun r =>
          .ok (r.2.setControlStatus controlId control .applied TurnStatus.cancelled.value)
      else .ok (control, s) := by
  rw [performControl.eq_def]
  simp only [haction]
  rfl

variable {controlId : String}

theorem requestControl_owner {now : ℚ} (hget : s.turns.get? turnId = some row)
    (hsession : s.sessions.get? row.sessionId = some session) (howner : session.principalId ≠ "")
    (hascii : session.principalId.toList.all fun c => decide (c.toNat < 128))
    (hfresh : s.controls.contains controlId = false) :
    let a := cancelRequest row.sessionId turnId session.principalId controlId
    let control := requestedControl a (some turnId) now
    s.requestControl a now = match s.repeatedControl row.sessionId (some turnId) .cancel with
      | some e => .ok (e.2, s)
      | none => (s.withControl controlId control).performControl row.sessionId session (some (turnId, row)) controlId
          control := by
  intro a control
  have hrequire : s.requireSession a.sessionId = .ok session := requireSession_eq_ok_iff.mpr hsession
  have hauthorize : authorizeControl session a.principalId a.isAdmin = .ok () := (authorizeControl_owner howner).mpr hascii
  have hselect : s.selectTurn a.sessionId a.turnId = .ok (some (turnId, row)) := selectTurn_some hget
  rw [requestControl, hrequire, ok_bind, hauthorize, ok_bind, hselect, ok_bind]
  have hrepeated : s.repeatedControl a.sessionId (some turnId) a.action
      = s.repeatedControl row.sessionId (some turnId) .cancel := rfl
  dsimp only [Option.map_some]
  rw [hrepeated]
  cases s.repeatedControl row.sessionId (some turnId) .cancel with
  | some e => rfl
  | none => exact if_neg (Bool.eq_false_iff.mp hfresh)

theorem ascii_of_requestControl {now : ℚ} {r : AgentControl × AgentSessionStore}
    (hsession : s.sessions.get? row.sessionId = some session) (howner : session.principalId ≠ "")
    (h : s.requestControl (cancelRequest row.sessionId turnId session.principalId controlId) now = .ok r) :
    session.principalId.toList.all fun c => decide (c.toNat < 128) := by
  obtain ⟨session', hsession', h⟩ := bind_eq_ok_iff.mp h
  obtain rfl := Option.some.inj (hsession.symm.trans (requireSession_eq_ok_iff.mp hsession'))
  obtain ⟨_, hauthorize, -⟩ := bind_eq_ok_iff.mp h
  exact (authorizeControl_owner howner).mp hauthorize

theorem mem_repeatedControl {sessionId : String} {turnId : Option String} {action : ControlAction}
    (h : s.repeatedControl sessionId turnId action = some e) :
    e ∈ s.controls.entries ∧ e.2.sessionId = sessionId ∧ e.2.turnId = turnId ∧ e.2.action = action ∧
      e.2.status = .requested := by
  have hmem := mem_of_newest h
  simp only [List.mem_filter, Bool.and_eq_true, beq_iff_eq] at hmem
  exact ⟨hmem.1, hmem.2.1.1.1, hmem.2.1.1.2, hmem.2.1.2, hmem.2.2⟩

theorem pendingControl_of_mem {sessionId : String} {action : ControlAction}
    (hmem : e ∈ s.controls.entries) (hsession : e.2.sessionId = sessionId) (hturn : e.2.turnId = some turnId)
    (haction : e.2.action = action) (hstatus : e.2.status = .requested) :
    s.pendingControl sessionId turnId action ≠ none := by
  have hconcerns : concerns e.2 sessionId turnId action = true := by
    simp [concerns, hsession, hturn, haction, hstatus]
  have hfilter : e ∈ s.controls.entries.filter fun e => concerns e.2 sessionId turnId action :=
    List.mem_filter.mpr ⟨hmem, hconcerns⟩
  obtain ⟨e', he'⟩ := newest_of_mem hfilter
  rw [pendingControl, he']
  exact Option.some_ne_none e'

theorem pendingControl_withControl {owner : String} {now : ℚ} :
    let a := cancelRequest row.sessionId turnId owner controlId
    (s.withControl controlId (requestedControl a (some turnId) now)).pendingControl row.sessionId turnId .cancel ≠ none := by
  intro a
  refine pendingControl_of_mem (e := (controlId, requestedControl a (some turnId) now)) ?_ rfl rfl rfl rfl
  exact (Dict.mem_entries_iff _ _ _).mpr (Dict.get?_set_self _ _ _)

/-! ### Stopping a turn -/

theorem unclaimed_of_pending (hget : s.turns.get? turnId = some row)
    (hpending : s.pauseOrCancelPending row.sessionId turnId = true) {workerId : String}
    {r : Option AgentTurn × AgentSessionStore} (h : s.claimTurn turnId workerId = .ok r) : r.1 = none := by
  obtain ⟨-, row', hget', ⟨-, rfl⟩ | ⟨⟨-, hfree⟩, -⟩⟩ := claimTurn_eq_ok_iff.mp h
  · rfl
  · obtain rfl := Option.some.inj (hget.symm.trans hget')
    rw [hpending] at hfree
    cases hfree

section

variable (hget : s.turns.get? turnId = some row) (hsession : s.sessions.get? row.sessionId = some session)
  (howner : session.principalId ≠ "")
include hget hsession howner

theorem cancellable_of_stoppable
    (hfresh : s.controls.contains controlId = false) (h : Stoppable s turnId row session) :
    Cancellable s turnId row session := by
  obtain ⟨control, s', hrequest, houtcome⟩ := h.cancel controlId 0 hfresh
  have hascii := ascii_of_requestControl hsession howner hrequest
  refine ⟨hascii, ?_⟩
  rw [requestControl_owner hget hsession howner hascii hfresh] at hrequest
  cases hrepeated : s.repeatedControl row.sessionId (some turnId) .cancel with
  | some e =>
    obtain ⟨hmem, hid, hturn, haction, hstatus⟩ := mem_repeatedControl hrepeated
    rw [hrepeated] at hrequest
    cases hrequest
    by_cases hsafe : row.status ∈ safePointStatuses
    · refine .inr ((applyCancel_iff hget hsession hsafe (pendingControl_of_mem hmem hid hturn haction hstatus)).mp ?_)
      rcases houtcome with ⟨happlied, -⟩ | ⟨-, -, hworker⟩
      · rw [hstatus] at happlied
        cases happlied
      · exact hworker hsafe
    · exact .inl ⟨rfl, hsafe⟩
  | none =>
    rw [hrepeated] at hrequest
    dsimp only at hrequest
    rw [performControl_cancel _ _ _ _ _ _ rfl] at hrequest
    right
    split at hrequest
    · obtain ⟨r, hturn, -⟩ := bind_eq_ok_iff.mp hrequest
      obtain ⟨hmoves, session', hsession', hfollows, -⟩ := changeTurnStatus_eq_ok_iff.mp hturn
      obtain rfl := Option.some.inj (hsession.symm.trans hsession')
      exact ⟨hmoves, hfollows⟩
    · rename_i hrunning
      have hsafe : row.status ∈ safePointStatuses := by
        rw [not_not.mp hrunning]
        decide
      cases hrequest
      rcases houtcome with ⟨happlied, -⟩ | ⟨-, -, hworker⟩
      · cases happlied
      · exact (applyCancel_iff (s := s.withControl controlId _) hget hsession hsafe pendingControl_withControl).mp
          (hworker hsafe)

theorem stoppable_of_cancellable (h : Cancellable s turnId row session) : Stoppable s turnId row session := by
  refine ⟨fun controlId now hfresh => ?_, fun hpending workerId r hr => unclaimed_of_pending hget hpending hr⟩
  rw [requestControl_owner hget hsession howner h.owner hfresh]
  cases hrepeated : s.repeatedControl row.sessionId (some turnId) .cancel with
  | some e =>
    obtain ⟨hmem, hid, hturn, haction, hstatus⟩ := mem_repeatedControl hrepeated
    refine ⟨e.2, s, rfl, .inr ⟨hstatus, rfl, fun hsafe => ?_⟩⟩
    rcases h.moves with ⟨-, hnot⟩ | hmoves
    · exact absurd hsafe hnot
    · exact (applyCancel_iff hget hsession hsafe (pendingControl_of_mem hmem hid hturn haction hstatus)).mpr hmoves
  | none =>
    have hmoves : TurnMoves row.status .cancelled ∧ Follows session.status .cancelled := by
      rcases h.moves with ⟨hsome, -⟩ | hmoves
      · rw [hrepeated] at hsome
        cases hsome
      · exact hmoves
    dsimp only
    rw [performControl_cancel _ _ _ _ _ _ rfl]
    split
    · have hturn : (s.withControl controlId (requestedControl (cancelRequest row.sessionId turnId session.principalId
          controlId) (some turnId) now)).applyTurnStatus turnId row .cancelled "" = .ok _ :=
        changeTurnStatus_eq_ok_iff.mpr ⟨hmoves.1, session, hsession, hmoves.2, rfl⟩
      rw [hturn, ok_bind]
      exact ⟨_, _, rfl, .inl ⟨rfl, cancelled_of_applyTurnStatus hturn⟩⟩
    · refine ⟨_, _, rfl, .inr ⟨rfl, rfl, fun hsafe => ?_⟩⟩
      exact (applyCancel_iff (s := s.withControl controlId _) hget hsession hsafe pendingControl_withControl).mpr
        hmoves

end

theorem exists_fresh (d : Dict String AgentControl) : ∃ controlId, d.contains controlId = false := by
  have hinfinite : Infinite String := .of_injective Nat.repr fun _ _ => Text.natRepr_inj
  obtain ⟨controlId, hfresh⟩ := Infinite.exists_notMem_finset (d.entries.map Prod.fst).toFinset
  refine ⟨controlId, ?_⟩
  rw [Dict.contains]
  cases hget : d.get? controlId with
  | none => rfl
  | some control =>
    refine absurd (List.mem_toFinset.mpr (List.mem_map.mpr ⟨(controlId, control), ?_, rfl⟩)) hfresh
    exact (d.mem_entries_iff controlId control).mpr hget

theorem stoppable_iff_cancellable (hget : s.turns.get? turnId = some row)
    (hsession : s.sessions.get? row.sessionId = some session) (howner : session.principalId ≠ "") :
    Stoppable s turnId row session ↔ Cancellable s turnId row session := by
  obtain ⟨controlId, hfresh⟩ := exists_fresh s.controls
  exact ⟨cancellable_of_stoppable hget hsession howner hfresh, stoppable_of_cancellable hget hsession howner⟩

end AgentSessionStore

open AgentSessionStore

/-- **The owner can stop a turn.**  In every store that can be reached, the owner can stop a turn that is neither
completed nor cancelled if and only if the owner's id is ASCII text, and a cancel of the turn is already pending that no
worker is to apply now, or the turn can become cancelled and its session can become ready. -/
theorem owner_stops_turn_iff (ops : List StoreOp) :
    (∀ turnId row session, (reached ops).turns.get? turnId = some row →
        row.status ∉ [TurnStatus.completed, .cancelled] →
        (reached ops).sessions.get? row.sessionId = some session → session.principalId ≠ "" →
        Stoppable (reached ops) turnId row session) ↔
      ∀ turnId row session, (reached ops).turns.get? turnId = some row →
        row.status ∉ [TurnStatus.completed, .cancelled] →
        (reached ops).sessions.get? row.sessionId = some session → session.principalId ≠ "" →
        Cancellable (reached ops) turnId row session := by
  constructor
  · intro h turnId row session hget hopen hsession howner
    exact (stoppable_iff_cancellable hget hsession howner).mp (h turnId row session hget hopen hsession howner)
  · intro h turnId row session hget hopen hsession howner
    exact (stoppable_iff_cancellable hget hsession howner).mpr (h turnId row session hget hopen hsession howner)

/-- The owner pauses a queued turn and then cancels it: the second request raises. -/
theorem cancel_of_paused_turn : ¬∀ turnId row session, (reached [.createTask "s" "t" "owner" 0 none 0, .requestControl
          { sessionId := "s", action := .pause, principalId := some "owner", turnId := some "t", controlId := "c" }
          1]).turns.get? turnId = some row →
        row.status ∉ [TurnStatus.completed, .cancelled] →
        (reached [.createTask "s" "t" "owner" 0 none 0, .requestControl
          { sessionId := "s", action := .pause, principalId := some "owner", turnId := some "t", controlId := "c" }
          1]).sessions.get? row.sessionId = some session → session.principalId ≠ "" →
        Stoppable (reached [.createTask "s" "t" "owner" 0 none 0, .requestControl
          { sessionId := "s", action := .pause, principalId := some "owner", turnId := some "t", controlId := "c" }
          1]) turnId row session := by
  intro h
  have hstop := h "t" ⟨"s", .paused, 2, "", 0, 0, none, ""⟩ ⟨.paused, "owner", 3⟩ (by decide) (by decide)
    (by decide) (by decide)
  obtain ⟨control, s', hrequest, -⟩ := hstop.cancel "d" 2 (by decide)
  have hraises : ((reached [.createTask "s" "t" "owner" 0 none 0, .requestControl
      { sessionId := "s", action := .pause, principalId := some "owner", turnId := some "t", controlId := "c" }
      1]).requestControl (cancelRequest "s" "t" "owner" "d") 2).isOk = false := by decide
  rw [hrequest] at hraises
  cases hraises

end ComputeMesh.Platform
