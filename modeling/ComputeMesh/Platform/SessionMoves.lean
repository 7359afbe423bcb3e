import ComputeMesh.Platform.SessionApprovals

/-!
# How calls move turns

What every call does to the turns, said once.  A turn stays in its session, and a call moves it along `turnTransitions`
or leaves its status; a new one is queued, and its session is there.

* `claimTurn_eq_ok_iff`, `expireQueuedTurn_eq_ok_iff`, … — when each method returns, and with what;
* `MovedBy` — the turns of two stores, related by the moves that a call may make;
* `movedBy_run`, `movedTurns_run` — **the step lemma**, for every call;
* `linked_reached` — in every store that can be reached, each turn has its session.
-/

namespace ComputeMesh.Platform

open Text Except

namespace AgentSessionStore

variable {s s' : AgentSessionStore}

/-! ### When the methods return -/

/-- The worker ids that `claim_turn` accepts. -/
def ValidWorker (workerId : String) : Prop := ¬(strip workerId = "" ∨ 128 < (strip workerId).toList.length)

instance (workerId : String) : Decidable (ValidWorker workerId) := inferInstanceAs (Decidable ¬_)

/-- The rows once a turn has been claimed. -/
def claimed (s : AgentSessionStore) (turnId : String) (row : AgentTurn) (session : AgentSession) : AgentSessionStore :=
  (({ s with turns := s.turns.set turnId (claimedTurn row) }).dragged row.sessionId session .running).appendEvent
    row.sessionId (some turnId) "turn.claimed" none

def Waits (row : AgentTurn) : Prop := row.status ∈ [TurnStatus.queued, .resuming]

instance (row : AgentTurn) : Decidable (Waits row) := inferInstanceAs (Decidable (_ ∈ _))

/-- A turn can be claimed as far as its own row and the controls go. -/
def Claimable (s : AgentSessionStore) (turnId : String) (row : AgentTurn) : Prop :=
  Waits row ∧ s.pauseOrCancelPending row.sessionId turnId = false

instance (s : AgentSessionStore) (turnId : String) (row : AgentTurn) : Decidable (s.Claimable turnId row) :=
  inferInstanceAs (Decidable (_ ∧ _))

variable {turnId : String}

theorem claimTurn_eq_ok_iff {workerId : String} {r : Option AgentTurn × AgentSessionStore} :
    s.claimTurn turnId workerId = .ok r ↔ ValidWorker workerId ∧ ∃ row, s.turns.get? turnId = some row ∧
      (¬s.Claimable turnId row ∧ r = (none, s) ∨ s.Claimable turnId row ∧ ∃ session,
        s.sessions.get? row.sessionId = some session ∧ Follows session.status .running ∧
          r = (some (claimedTurn row), s.claimed turnId row session)) := by
  rw [claimTurn, ite_error_eq_ok_iff, bind_eq_ok_iff]
  refine and_congr_right fun _ => exists_congr fun row => ?_
  rw [requireTurn_eq_ok_iff]
  refine and_congr_right fun _ => ?_
  by_cases hwaits : row.status ∈ [TurnStatus.queued, .resuming]
  · cases hpending : s.pauseOrCancelPending row.sessionId turnId with
    | true =>
      have hnot : ¬s.Claimable turnId row := fun h => by rw [h.2] at hpending; cases hpending
      simp [hwaits, hnot, eq_comm]
    | false =>
      have hclaimable : s.Claimable turnId row := ⟨hwaits, hpending⟩
      rw [if_neg (not_not.mpr hwaits), if_neg Bool.false_ne_true, bind_eq_ok_iff]
      simp only [hclaimable, not_true_eq_false, false_and, false_or, true_and]
      constructor
      · rintro ⟨s', hdrag, h⟩
        obtain ⟨session, hget, hfollows, rfl⟩ := dragSession_eq_ok_iff.mp hdrag
        exact ⟨session, hget, hfollows, (ok.inj h).symm⟩
      · rintro ⟨session, hget, hfollows, rfl⟩
        exact ⟨_, dragSession_eq_ok_iff.mpr ⟨session, hget, hfollows, rfl⟩, rfl⟩
  · have hnot : ¬s.Claimable turnId row := fun h => hwaits h.1
    simp [hwaits, hnot, eq_comm]

/-- The deadline of a waiting turn has come. -/
def Due (row : AgentTurn) (now : ℚ) : Prop := Waits row ∧ ∃ deadline ∈ row.deadlineAt, deadline ≤ now

variable {now : ℚ}

theorem expireQueuedTurn_eq_ok_iff {r : Option AgentTurn × AgentSessionStore} :
    s.expireQueuedTurn turnId now = .ok r ↔ ∃ row, s.turns.get? turnId = some row ∧
      (¬Due row now ∧ r = (none, s) ∨ Due row now ∧ ∃ turn s',
        s.applyTurnStatus turnId row .failed "deadline_exceeded" = .ok (turn, s') ∧ r = (some turn, s')) := by
  rw [expireQueuedTurn, bind_eq_ok_iff]
  refine exists_congr fun row => ?_
  rw [requireTurn_eq_ok_iff]
  refine and_congr_right fun _ => ?_
  cases hdeadline : row.deadlineAt with
  | none => simp [Due, hdeadline, eq_comm]
  | some deadline =>
    by_cases hnow : now < deadline
    · have hnot : ¬Due row now := by simp [Due, hdeadline, hnow]
      simp [hnow, hnot, eq_comm]
    · by_cases hwaits : row.status ∈ [TurnStatus.queued, .resuming]
      · have hdue : Due row now := ⟨hwaits, deadline, hdeadline, not_lt.mp hnow⟩
        dsimp only
        rw [if_neg hnow, if_neg (not_not.mpr hwaits), bind_eq_ok_iff]
        simp only [hdue, not_true_eq_false, false_and, false_or, true_and]
        constructor
        · rintro ⟨⟨turn, s'⟩, happly, h⟩
          exact ⟨turn, s', happly, (ok.inj h).symm⟩
        · rintro ⟨turn, s', happly, rfl⟩
          exact ⟨(turn, s'), happly, rfl⟩
      · have hnot : ¬Due row now := fun h => hwaits h.1
        simp [hnow, hwaits, hnot, eq_comm]

theorem checkVersion_eq_ok_iff {expectedVersion : Option ℤ} {version : ℤ} {message : String} {u : Unit} :
    checkVersion expectedVersion version message = .ok u ↔ ∀ expected ∈ expectedVersion, version = expected := by
  cases expectedVersion with
  | none | some expected => simp [checkVersion]

variable {r : AgentTurn × AgentSessionStore} {target : TurnStatus}

theorem transitionTurn_eq_ok_iff {error : String} {expectedVersion : Option ℤ} :
    s.transitionTurn turnId target expectedVersion error = .ok r ↔ ∃ row, s.turns.get? turnId = some row ∧
      (∀ expected ∈ expectedVersion, row.version = expected) ∧ s.changeTurnStatus turnId row target error = .ok r := by
  simp only [transitionTurn, bind_eq_ok_iff, requireTurn_eq_ok_iff, checkVersion_eq_ok_iff, exists_and_left,
    exists_const]

/-! ### Steps that keep every turn -/

/-- No turn and no approval changes, and no session goes. -/
structure KeepsTurns (s s' : AgentSessionStore) : Prop where
  turns : s'.turns = s.turns
  sessions : ∀ sessionId, s.sessions.contains sessionId = true → s'.sessions.contains sessionId = true
  approvals : s'.approvals = s.approvals

theorem KeepsTurns.refl (s : AgentSessionStore) : KeepsTurns s s := ⟨rfl, fun _ h => h, rfl⟩

theorem KeepsTurns.trans {s₁ s₂ s₃ : AgentSessionStore} (h : KeepsTurns s₁ s₂) (h' : KeepsTurns s₂ s₃) :
    KeepsTurns s₁ s₃ :=
  ⟨h'.turns.trans h.turns, fun id hid => h'.sessions id (h.sessions id hid), h'.approvals.trans h.approvals⟩

theorem contains_set {ν : Type} (d : Dict String ν) (k : String) (v : ν) {k' : String}
    (h : d.contains k' = true) : (d.set k v).contains k' = true := by
  rw [Dict.contains, Dict.get?_set]
  split
  · rfl
  · exact h

theorem contains_of_get? {ν : Type} {d : Dict String ν} {k : String} {v : ν} (h : d.get? k = some v) :
    d.contains k = true := by
  rw [Dict.contains, h]
  rfl

theorem keepsTurns_withSession (s : AgentSessionStore) (sessionId : String) (row : AgentSession)
    (target : SessionStatus) : KeepsTurns s (s.withSession sessionId row target) :=
  ⟨turns_withSession s sessionId row target, fun id hid => by
    rw [sessions_withSession]
    exact contains_set _ _ _ hid, approvals_withSession s sessionId row target⟩

theorem keepsTurns_dragged (s : AgentSessionStore) (sessionId : String) (session : AgentSession)
    (target : TurnStatus) : KeepsTurns s (s.dragged sessionId session target) := by
  rw [dragged]
  split
  · exact .refl s
  · split
    · exact keepsTurns_withSession s sessionId session _
    · exact .refl s

variable {sessionId : String}

theorem keepsTurns_setSessionStatus {row : AgentSession} {target : SessionStatus}
    {r : AgentSession × AgentSessionStore} (h : s.setSessionStatus sessionId row target = .ok r) : KeepsTurns s r.2 := by
  obtain ⟨-, rfl⟩ := setSessionStatus_eq_ok_iff.mp h
  exact keepsTurns_withSession s sessionId row target

theorem keepsTurns_resumeToReady {r : AgentSession × AgentSessionStore}
    (h : s.resumeToReady sessionId = .ok r) : KeepsTurns s r.2 := by
  obtain ⟨row, -, h⟩ := bind_eq_ok_iff.mp h
  obtain ⟨r₁, hfirst, h⟩ := bind_eq_ok_iff.mp h
  obtain ⟨row', -, h⟩ := bind_eq_ok_iff.mp h
  obtain ⟨r₂, hsecond, h⟩ := bind_eq_ok_iff.mp h
  obtain rfl := ok.inj h
  have hkeeps := (keepsTurns_setSessionStatus hfirst).trans (keepsTurns_setSessionStatus hsecond)
  exact ⟨hkeeps.turns, hkeeps.sessions, hkeeps.approvals⟩

/-! ### Moves -/

/-- No session goes, and every turn afterwards was there before, in its session, with its status or one that `R` allows
after it; or it is new and queued, with an id that is not empty, in a session that is there. -/
structure MovedTurns (R : TurnStatus → TurnStatus → Prop) (s s' : AgentSessionStore) : Prop where
  sessions : ∀ sessionId, s.sessions.contains sessionId = true → s'.sessions.contains sessionId = true
  turns : ∀ turnId turn', s'.turns.get? turnId = some turn' →
    (∃ turn, s.turns.get? turnId = some turn ∧ turn'.sessionId = turn.sessionId ∧
      (turn'.status = turn.status ∨ R turn.status turn'.status)) ∨
    (turnId ≠ "" ∧ s.turns.get? turnId = none ∧ turn'.status = .queued ∧
      s'.sessions.contains turn'.sessionId = true)

/-- The same, and no approval changes. -/
structure MovedBy (R : TurnStatus → TurnStatus → Prop) (s s' : AgentSessionStore) : Prop extends MovedTurns R s s' where
  approvals : s'.approvals = s.approvals

variable {R : TurnStatus → TurnStatus → Prop}

theorem movedTurns_of_turns_eq (hturns : s'.turns = s.turns) (hsessions : s'.sessions = s.sessions) :
    MovedTurns R s s' :=
  ⟨fun _ hid => hsessions ▸ hid, fun _ turn' hget => .inl ⟨turn', by rw [← hturns, hget], rfl, .inl rfl⟩⟩

theorem KeepsTurns.movedBy (h : KeepsTurns s s') : MovedBy R s s' :=
  ⟨⟨h.sessions, fun _ turn' hget => .inl ⟨turn', by rw [← h.turns, hget], rfl, .inl rfl⟩⟩, h.approvals⟩

theorem MovedBy.refl (s : AgentSessionStore) : MovedBy R s s := (KeepsTurns.refl s).movedBy

theorem MovedBy.keeps {s'' : AgentSessionStore} (h : MovedBy R s s') (hkeeps : KeepsTurns s' s'') :
    MovedBy R s s'' := by
  refine ⟨⟨fun id hid => hkeeps.sessions id (h.sessions id hid), fun turnId turn' hget => ?_⟩,
    hkeeps.approvals.trans h.approvals⟩
  rw [hkeeps.turns] at hget
  rcases h.turns turnId turn' hget with hold | ⟨hid, hnew, hqueued, hsession⟩
  · exact .inl hold
  · exact .inr ⟨hid, hnew, hqueued, hkeeps.sessions _ hsession⟩

theorem MovedBy.mono {R' : TurnStatus → TurnStatus → Prop} (h : MovedBy R s s')
    (hR : ∀ a b, R a b → R' a b) : MovedBy R' s s' := by
  refine ⟨⟨h.sessions, fun turnId turn' hget => ?_⟩, h.approvals⟩
  rcases h.turns turnId turn' hget with ⟨turn, hturn, hid, hstatus⟩ | hnew
  · exact .inl ⟨turn, hturn, hid, hstatus.imp_right (hR _ _)⟩
  · exact .inr hnew

theorem movedBy_set {turnId : String} {row row' : AgentTurn} (hget : s.turns.get? turnId = some row)
    (hid : row'.sessionId = row.sessionId) (hR : row'.status = row.status ∨ R row.status row'.status)
    (events : List SessionEvent) :
    MovedBy R s { s with turns := s.turns.set turnId row', events } := by
  refine ⟨⟨fun _ h => h, fun turnId' turn' hget' => ?_⟩, rfl⟩
  rcases Dict.get?_set_eq_some.mp hget' with ⟨heq, rfl⟩ | ⟨-, hget'⟩
  · exact .inl ⟨row, heq ▸ hget, hid, hR⟩
  · exact .inl ⟨turn', hget', rfl, .inl rfl⟩

theorem movedBy_insert {turnId : String} {row' : AgentTurn} (hid : turnId ≠ "")
    (hnew : ¬s.turns.contains turnId = true) (hqueued : row'.status = .queued)
    (hsession : s.sessions.contains row'.sessionId = true) (events : List SessionEvent) :
    MovedBy R s { s with turns := s.turns.set turnId row', events } := by
  refine ⟨⟨fun _ h => h, fun turnId' turn' hget' => ?_⟩, rfl⟩
  rcases Dict.get?_set_eq_some.mp hget' with ⟨heq, rfl⟩ | ⟨-, hget'⟩
  · subst heq
    have hnone : s.turns.get? turnId' = none := by
      rw [Dict.contains, Option.isSome_iff_ne_none] at hnew
      exact not_not.mp hnew
    exact .inr ⟨hid, hnone, hqueued, hsession⟩
  · exact .inl ⟨turn', hget', rfl, .inl rfl⟩

variable {row : AgentTurn}

theorem movedBy_changeTurnStatus {error : String} (hget : s.turns.get? turnId = some row)
    (h : s.changeTurnStatus turnId row target error = .ok r) :
    MovedBy (fun a b => b = target ∧ TurnMoves a b) s r.2 := by
  obtain ⟨hmoves, session, -, -, rfl⟩ := changeTurnStatus_eq_ok_iff.mp h
  exact ((@movedBy_set _ _ _ _ (movedTurn row target error)) hget rfl (.inr ⟨rfl, hmoves⟩) _).keeps
    (keepsTurns_dragged _ _ _ _)

theorem KeepsTurns.trans_movedBy {s'' : AgentSessionStore} (hkeeps : KeepsTurns s s') (h : MovedBy R s' s'') :
    MovedBy R s s'' := by
  refine ⟨⟨fun id hid => h.sessions id (hkeeps.sessions id hid), fun turnId turn' hget => ?_⟩,
    h.approvals.trans hkeeps.approvals⟩
  rw [← hkeeps.turns]
  exact h.turns turnId turn' hget

/-! ### The recovery loop -/

/-- A restart can pause a session of that status, or leaves it alone. -/
def Interruptible (status : SessionStatus) : Prop :=
  status ∈ [SessionStatus.paused, .cancelled, .expired] ∨ SessionStatus.paused ∈ sessionTransitions status

instance (status : SessionStatus) : Decidable (Interruptible status) := inferInstanceAs (Decidable (_ ∨ _))

/-- The rows once a turn has been interrupted. -/
def interrupted (s : AgentSessionStore) (turnId : String) (row : AgentTurn) (session : AgentSession) :
    AgentSessionStore :=
  let stored := ({ s with turns := s.turns.set turnId (interruptedTurn row) }).appendEvent row.sessionId (some turnId)
    "turn.interrupted" none
  if session.status ∉ [SessionStatus.paused, .cancelled, .expired] then stored.withSession row.sessionId session .paused
  else stored

theorem recoverTurn_eq_ok_iff :
    s.recoverTurn turnId row = .ok s' ↔ ∃ session, s.sessions.get? row.sessionId = some session ∧
      Interruptible session.status ∧ s' = s.interrupted turnId row session := by
  rw [recoverTurn, bind_eq_ok_iff]
  refine exists_congr fun session => ?_
  rw [requireSession_eq_ok_iff]
  refine and_congr_right fun _ => ?_
  by_cases hsettled : session.status ∈ [SessionStatus.paused, .cancelled, .expired]
  · simp [Interruptible, interrupted, hsettled, eq_comm]
  · have hmoves : SessionMoves session.status .paused ↔ Interruptible session.status :=
      ⟨fun h => .inr (h.resolve_left fun heq => hsettled (by simp [heq])), fun h => .inr (h.resolve_left hsettled)⟩
    rw [if_pos hsettled, bind_eq_ok_iff, interrupted, if_pos hsettled, ← hmoves]
    constructor
    · rintro ⟨r, hset, h⟩
      obtain ⟨hsession, rfl⟩ := setSessionStatus_eq_ok_iff.mp hset
      exact ⟨hsession, (ok.inj h).symm⟩
    · rintro ⟨hsession, rfl⟩
      exact ⟨_, setSessionStatus_eq_ok_iff.mpr ⟨hsession, rfl⟩, rfl⟩

theorem turns_interrupted (s : AgentSessionStore) (turnId : String) (row : AgentTurn) (session : AgentSession) :
    (s.interrupted turnId row session).turns = s.turns.set turnId (interruptedTurn row) := by
  rw [interrupted]
  split
  · rw [turns_withSession]
    rfl
  · rfl

variable {rows : List (String × AgentTurn)}

/-- **The turns after the loop.** -/
theorem turns_recoverTurns (hnd : (rows.map Prod.fst).Nodup) (h : s.recoverTurns rows = .ok s') (turnId : String) :
    s'.turns.get? turnId = ((Dict.find turnId rows).map interruptedTurn).or (s.turns.get? turnId) := by
  induction rows generalizing s with
  | nil =>
    obtain rfl := ok.inj h
    simp [Dict.find]
  | cons e rows ih =>
    obtain ⟨turnId', row⟩ := e
    obtain ⟨s₁, hfirst, hrest⟩ := bind_eq_ok_iff.mp h
    obtain ⟨session, -, -, rfl⟩ := recoverTurn_eq_ok_iff.mp hfirst
    rw [List.map_cons, List.nodup_cons] at hnd
    rw [ih hnd.2 hrest, turns_interrupted, Dict.get?_set, Dict.find]
    by_cases heq : turnId' = turnId
    · subst heq
      have hnone : Dict.find turnId' rows = none := by
        cases hfind : Dict.find turnId' rows with
        | none => rfl
        | some row' => exact absurd (List.mem_map.mpr ⟨_, Dict.mem_of_find hfind, rfl⟩) hnd.1
      simp [hnone]
    · simp [heq, Ne.symm heq]

variable {session : AgentSession}

theorem contains_interrupted (h : s.sessions.contains sessionId = true) :
    (s.interrupted turnId row session).sessions.contains sessionId = true := by
  rw [interrupted]
  split
  · rw [sessions_withSession]
    exact contains_set _ _ _ h
  · exact h

theorem contains_recoverTurns (h : s.recoverTurns rows = .ok s')
    (hid : s.sessions.contains sessionId = true) : s'.sessions.contains sessionId = true := by
  induction rows generalizing s with
  | nil =>
    obtain rfl := ok.inj h
    exact hid
  | cons e rows ih =>
    obtain ⟨s₁, hfirst, hrest⟩ := bind_eq_ok_iff.mp h
    obtain ⟨session, -, -, rfl⟩ := recoverTurn_eq_ok_iff.mp hfirst
    exact ih hrest (contains_interrupted hid)

theorem approvals_recoverTurns (h : s.recoverTurns rows = .ok s') : s'.approvals = s.approvals := by
  induction rows generalizing s with
  | nil =>
    obtain rfl := ok.inj h
    rfl
  | cons e rows ih =>
    obtain ⟨s₁, hfirst, hrest⟩ := bind_eq_ok_iff.mp h
    obtain ⟨session, -, -, rfl⟩ := recoverTurn_eq_ok_iff.mp hfirst
    rw [ih hrest, interrupted]
    split
    · rw [approvals_withSession]
      rfl
    · rfl

theorem nodupKeys_inFlight (s : AgentSessionStore) : (s.inFlight.map Prod.fst).Nodup :=
  s.turns.nodupKeys.sublist (List.filter_sublist.map Prod.fst)

theorem find_inFlight (s : AgentSessionStore) (turnId : String) :
    Dict.find turnId s.inFlight = (s.turns.get? turnId).filter fun row => decide (row.status ∈ inFlightStatuses) :=
  Dict.find_filter (fun _ (row : AgentTurn) => decide (row.status ∈ inFlightStatuses)) turnId s.turns.nodupKeys

theorem recoverInterrupted_eq_ok_iff {r : List String × AgentSessionStore} :
    s.recoverInterrupted = .ok r ↔ ∃ s', s.recoverTurns s.inFlight = .ok s' ∧ r = (s.inFlight.map Prod.fst, s') := by
  rw [recoverInterrupted, bind_eq_ok_iff]
  refine exists_congr fun s' => and_congr_right fun _ => ?_
  rw [ok.injEq, eq_comm]

theorem turns_recoverInterrupted {r : List String × AgentSessionStore} (h : s.recoverInterrupted = .ok r)
    (turnId : String) : r.2.turns.get? turnId = (s.turns.get? turnId).map fun row =>
      if row.status ∈ inFlightStatuses then interruptedTurn row else row := by
  obtain ⟨s', hloop, rfl⟩ := recoverInterrupted_eq_ok_iff.mp h
  rw [turns_recoverTurns s.nodupKeys_inFlight hloop, find_inFlight]
  cases s.turns.get? turnId with
  | none => rfl
  | some row =>
    by_cases hflight : row.status ∈ inFlightStatuses
    · simp [Option.filter, hflight]
    · simp [Option.filter, hflight]

/-! ### What a call may do -/

def executingStatuses : List TurnStatus :=
  [.running, .waitingForTool, .waitingForApproval, .waitingForSubagents, .compacting]

/-- The moves along the table that start nothing. -/
def StartsNothing (status target : TurnStatus) : Prop := TurnMoves status target ∧ target ∉ executingStatuses

theorem movedBy_applyTurnStatus {error : String}
    (hget : s.turns.get? turnId = some row) (htarget : target ∉ executingStatuses)
    (h : s.applyTurnStatus turnId row target error = .ok r) : MovedBy StartsNothing s r.2 :=
  (movedBy_changeTurnStatus hget h).mono fun _ _ hR => ⟨hR.2, hR.1 ▸ htarget⟩

theorem turnIdOr_ne (turnId uuid : String) : turnIdOr turnId uuid ≠ "" := by
  rw [turnIdOr, textOr]
  split
  · refine ne_of_head ?_
    rw [head_append (by decide)]
    decide
  · assumption

theorem movedBy_createTask {principalId uuid : String} {priority : ℤ} {deadlineAt : Option ℚ}
    {r : (AgentSession × AgentTurn) × AgentSessionStore}
    (h : s.createTask sessionId turnId principalId priority deadlineAt now uuid = .ok r) : MovedBy R s r.2 := by
  obtain ⟨_, -, h⟩ := bind_eq_ok_iff.mp h
  obtain ⟨hnew, h⟩ := ite_error_eq_ok_iff.mp h
  obtain ⟨r', hset, h⟩ := bind_eq_ok_iff.mp h
  obtain rfl := ok.inj h
  have hfirst : KeepsTurns s { s with sessions := s.sessions.set sessionId ⟨.ready, principalId, 1⟩ } :=
    ⟨rfl, fun _ hid => contains_set _ _ _ hid, rfl⟩
  have hthere : (s.sessions.set sessionId ⟨.ready, principalId, 1⟩).contains sessionId = true :=
    contains_of_get? (Dict.get?_set_self _ _ _)
  have hkeeps := keepsTurns_setSessionStatus hset
  have hinsert := (@movedBy_insert { s with sessions := s.sessions.set sessionId ⟨.ready, principalId, 1⟩ } R _
    (queuedTurn sessionId priority deadlineAt "" now)) (turnIdOr_ne turnId uuid)
    (fun hturn => hnew (.inr hturn)) rfl hthere s.events
  exact (hfirst.trans_movedBy hinsert).keeps ⟨hkeeps.turns, hkeeps.sessions, hkeeps.approvals⟩

theorem keepsTurns_startSession (h : s.startSession sessionId session = .ok s') : KeepsTurns s s' := by
  rw [startSession] at h
  split at h
  · obtain ⟨r, hset, hr⟩ := bind_eq_ok_iff.mp h
    obtain rfl := ok.inj hr
    exact keepsTurns_setSessionStatus hset
  · obtain rfl := ok.inj h
    exact ⟨rfl, fun _ hid => contains_set _ _ _ hid, rfl⟩

theorem movedBy_insertTurn {turn : AgentTurn} (hne : turnId ≠ "") (hget : s.sessions.get? sessionId = some session)
    (hqueued : turn.status = .queued) (hid : turn.sessionId = sessionId)
    (h : s.insertTurn sessionId turnId session turn = .ok r) : MovedBy R s r.2 := by
  obtain ⟨hnew, h⟩ := ite_error_eq_ok_iff.mp h
  obtain ⟨s', hsession, h⟩ := bind_eq_ok_iff.mp h
  obtain rfl := ok.inj h
  have hinsert : MovedBy R s { s with turns := s.turns.set turnId turn } :=
    movedBy_insert hne hnew hqueued (hid ▸ contains_of_get? hget) _
  have hkeeps := keepsTurns_startSession hsession
  exact hinsert.keeps ⟨hkeeps.turns, hkeeps.sessions, hkeeps.approvals⟩

theorem movedBy_startTurn {a : TurnRequest} (h : s.startTurn a now = .ok r) : MovedBy R s r.2 := by
  obtain ⟨_, -, h⟩ := bind_eq_ok_iff.mp h
  obtain ⟨key, -, h⟩ := bind_eq_ok_iff.mp h
  obtain ⟨session, hsession, h⟩ := bind_eq_ok_iff.mp h
  split at h
  · obtain rfl := ok.inj h
    exact .refl s
  · obtain ⟨_, -, h⟩ := bind_eq_ok_iff.mp h
    obtain ⟨_, -, h⟩ := bind_eq_ok_iff.mp h
    exact movedBy_insertTurn (turnIdOr_ne _ _) (requireSession_eq_ok_iff.mp hsession) rfl rfl h

theorem movedBy_expireQueuedTurn {r : Option AgentTurn × AgentSessionStore}
    (h : s.expireQueuedTurn turnId now = .ok r) : MovedBy StartsNothing s r.2 := by
  obtain ⟨row, hget, ⟨-, rfl⟩ | ⟨-, turn, s', happly, rfl⟩⟩ := expireQueuedTurn_eq_ok_iff.mp h
  · exact .refl s
  · exact movedBy_applyTurnStatus (r := (turn, s')) hget (by decide) happly

theorem movedBy_claimTurn {workerId : String} {r : Option AgentTurn × AgentSessionStore}
    (h : s.claimTurn turnId workerId = .ok r) :
    MovedBy (fun status target => status ∈ [TurnStatus.queued, .resuming] ∧ target = .running) s r.2 := by
  obtain ⟨-, row, hget, ⟨-, rfl⟩ | ⟨⟨hwaits, -⟩, session, -, -, rfl⟩⟩ := claimTurn_eq_ok_iff.mp h
  · exact .refl s
  · have hset := (@movedBy_set _ (fun status target => status ∈ [TurnStatus.queued, .resuming] ∧ target = .running) _ _
      (claimedTurn row)) hget rfl (.inr ⟨hwaits, rfl⟩) s.events
    have hdrag := keepsTurns_dragged { s with turns := s.turns.set turnId (claimedTurn row) } row.sessionId session
      .running
    exact hset.keeps ⟨hdrag.turns, hdrag.sessions, hdrag.approvals⟩

theorem movedBy_recoverInterrupted {r : List String × AgentSessionStore} (h : s.recoverInterrupted = .ok r) :
    MovedBy StartsNothing s r.2 := by
  have hturns := turns_recoverInterrupted h
  obtain ⟨s', hloop, rfl⟩ := recoverInterrupted_eq_ok_iff.mp h
  refine ⟨⟨fun id hid => contains_recoverTurns hloop hid, fun turnId turn' hget => .inl ?_⟩,
    approvals_recoverTurns hloop⟩
  rw [hturns turnId] at hget
  obtain ⟨row, hrow, rfl⟩ := Option.map_eq_some_iff.mp hget
  by_cases hflight : row.status ∈ inFlightStatuses
  · rw [if_pos hflight]
    have hpaused : ∀ status ∈ inFlightStatuses, TurnMoves status .paused := by decide
    exact ⟨row, hrow, rfl, .inr ⟨hpaused row.status hflight, (by decide : TurnStatus.paused ∉ executingStatuses)⟩⟩
  · rw [if_neg hflight]
    exact ⟨row, hrow, rfl, .inl rfl⟩

theorem keepsTurns_setControlStatus (s : AgentSessionStore) (controlId : String) (row : AgentControl)
    (status : ControlStatus) (reason : String) : KeepsTurns s (s.setControlStatus controlId row status reason).2 :=
  ⟨rfl, fun _ h => h, rfl⟩

theorem controlTarget_notMem (action : ControlAction) : controlTarget action ∉ executingStatuses := by
  cases action <;> decide

theorem movedBy_performControl {controlId : String}
    {selected : Option (String × AgentTurn)} {row : AgentControl} {r : AgentControl × AgentSessionStore}
    (hselected : ∀ e ∈ selected, s.turns.get? e.1 = some e.2)
    (h : s.performControl sessionId session selected controlId row = .ok r) : MovedBy StartsNothing s r.2 := by
  rw [performControl.eq_def] at h
  split at h
  · obtain ⟨-, h⟩ := ite_error_eq_ok_iff.mp h
    split at h
    · cases h
    · rename_i turnId turn
      obtain ⟨-, h⟩ := ite_error_eq_ok_iff.mp h
      obtain ⟨r₁, happly, h⟩ := bind_eq_ok_iff.mp h
      obtain ⟨r₂, hresume, h⟩ := bind_eq_ok_iff.mp h
      obtain rfl := ok.inj h
      have hmoved := movedBy_applyTurnStatus (hselected _ rfl) (by decide) happly
      exact (hmoved.keeps (keepsTurns_resumeToReady hresume)).keeps (keepsTurns_setControlStatus _ _ _ _ _)
  · split at h
    · obtain ⟨r', hset, h⟩ := bind_eq_ok_iff.mp h
      obtain rfl := ok.inj h
      exact ((keepsTurns_setSessionStatus hset).trans (keepsTurns_setControlStatus _ _ _ _ _)).movedBy
    · obtain rfl := ok.inj h
      exact .refl s
  · obtain rfl := ok.inj h
    exact .refl s
  · split at h
    · obtain ⟨r', happly, h⟩ := bind_eq_ok_iff.mp h
      obtain rfl := ok.inj h
      exact (movedBy_applyTurnStatus (hselected _ rfl) (controlTarget_notMem _) happly).keeps
        (keepsTurns_setControlStatus _ _ _ _ _)
    · obtain rfl := ok.inj h
      exact .refl s

theorem get?_of_selectTurn {turnId : Option String} {selected : Option (String × AgentTurn)}
    (h : s.selectTurn sessionId turnId = .ok selected) : ∀ e ∈ selected, s.turns.get? e.1 = some e.2 := by
  cases turnId with
  | some turnId =>
    obtain ⟨turn, hturn, h⟩ := bind_eq_ok_iff.mp h
    obtain ⟨-, h⟩ := ite_error_eq_ok_iff.mp h
    obtain rfl := ok.inj h
    rintro e ⟨⟩
    exact requireTurn_eq_ok_iff.mp hturn
  | none =>
    obtain rfl := ok.inj h
    intro e he
    have hmem := List.mem_of_mem_head? he
    rw [List.mem_insertionSort, List.mem_filter] at hmem
    exact (s.turns.mem_entries_iff e.1 e.2).mp hmem.1

theorem movedBy_requestControl {a : ControlRequest} {r : AgentControl × AgentSessionStore}
    (h : s.requestControl a now = .ok r) : MovedBy StartsNothing s r.2 := by
  obtain ⟨session, -, h⟩ := bind_eq_ok_iff.mp h
  obtain ⟨_, -, h⟩ := bind_eq_ok_iff.mp h
  obtain ⟨selected, hselect, h⟩ := bind_eq_ok_iff.mp h
  split at h
  · obtain rfl := ok.inj h
    exact .refl s
  · obtain ⟨-, h⟩ := ite_error_eq_ok_iff.mp h
    have hstored : KeepsTurns s (s.withControl a.controlId (requestedControl a (selected.map Prod.fst) now)) :=
      ⟨rfl, fun _ h => h, rfl⟩
    exact hstored.trans_movedBy (movedBy_performControl (get?_of_selectTurn hselect) h)

theorem movedBy_applyPendingControl {action : ControlAction}
    {r : AgentControl × AgentSessionStore} (h : s.applyPendingControl sessionId turnId action = .ok r) :
    MovedBy StartsNothing s r.2 := by
  rw [applyPendingControl] at h
  split at h
  · cases h
  · obtain ⟨turn, hturn, h⟩ := bind_eq_ok_iff.mp h
    obtain ⟨-, h⟩ := ite_error_eq_ok_iff.mp h
    split at h
    · obtain rfl := ok.inj h
      exact (keepsTurns_setControlStatus _ _ _ _ _).movedBy
    · split at h
      · obtain ⟨r', happly, h⟩ := bind_eq_ok_iff.mp h
        obtain rfl := ok.inj h
        exact (movedBy_applyTurnStatus (requireTurn_eq_ok_iff.mp hturn) (controlTarget_notMem action) happly).keeps
          (keepsTurns_setControlStatus _ _ _ _ _)
      · obtain rfl := ok.inj h
        exact (keepsTurns_setControlStatus _ _ _ _ _).movedBy

theorem movedBy_resumeApprovedTurn {approvalId : String}
    (h : s.resumeApprovedTurn approvalId = .ok r) : MovedBy StartsNothing s r.2 := by
  obtain ⟨approval, -, h⟩ := bind_eq_ok_iff.mp h
  obtain ⟨-, h⟩ := ite_error_eq_ok_iff.mp h
  split at h
  · cases h
  · rename_i turnId _
    obtain ⟨row, hrow, h⟩ := bind_eq_ok_iff.mp h
    obtain ⟨-, h⟩ := ite_error_eq_ok_iff.mp h
    obtain ⟨hresuming, h⟩ := ite_error_eq_ok_iff.mp h
    obtain rfl := ok.inj h
    exact (@movedBy_set _ _ _ _ (resumingTurn row)) (requireTurn_eq_ok_iff.mp hrow) rfl
      (.inr ⟨.inr (not_not.mp hresuming), (by decide : TurnStatus.resuming ∉ executingStatuses)⟩) _

end AgentSessionStore

open AgentSessionStore

/-- The moves of a turn that a call may make: claiming starts a waiting turn, a transition goes where it is told, and
every other call moves turns along their table, but none to a status in which it is executed. -/
def StoreOp.Allows : StoreOp → TurnStatus → TurnStatus → Prop
  | claimTurn _ _ => fun status target => status ∈ [TurnStatus.queued, .resuming] ∧ target = .running
  | transitionTurn _ goal _ _ => fun status target => target = goal ∧ TurnMoves status target
  | _ => StartsNothing

/-- The calls that write approvals. -/
def StoreOp.DecidesApproval : StoreOp → Bool
  | createApproval .. | resolveApproval .. | consumeApproval .. => true
  | _ => false

/-- **The step lemma**, for the calls that write no approval. -/
theorem movedBy_run (s : AgentSessionStore) {op : StoreOp} (hop : op.DecidesApproval = false) :
    MovedBy op.Allows s (op.run s) := by
  cases op with
  | createSession sessionId principalId =>
    refine committed_of (.refl s) fun r s' h => ?_
    obtain ⟨-, h⟩ := ite_error_eq_ok_iff.mp h
    cases h
    exact KeepsTurns.movedBy ⟨rfl, fun _ hid => contains_set _ _ _ hid, rfl⟩
  | createTask => exact committed_of (.refl s) fun r s' h => movedBy_createTask h
  | startTurn => exact committed_of (.refl s) fun r s' h => movedBy_startTurn h
  | expireQueuedTurn => exact committed_of (.refl s) fun r s' h => movedBy_expireQueuedTurn h
  | claimTurn => exact committed_of (.refl s) fun r s' h => movedBy_claimTurn h
  | transitionTurn =>
    refine committed_of (.refl s) fun r s' h => ?_
    obtain ⟨row, hget, -, h⟩ := transitionTurn_eq_ok_iff.mp h
    exact movedBy_changeTurnStatus hget h
  | transitionSession =>
    refine committed_of (.refl s) fun r s' h => ?_
    obtain ⟨_, -, h⟩ := bind_eq_ok_iff.mp h
    obtain ⟨_, -, h⟩ := bind_eq_ok_iff.mp h
    exact (keepsTurns_setSessionStatus h).movedBy
  | resumeSession =>
    refine committed_of (.refl s) fun r s' h => ?_
    obtain ⟨_, -, h⟩ := bind_eq_ok_iff.mp h
    obtain ⟨-, h⟩ := ite_error_eq_ok_iff.mp h
    exact (keepsTurns_resumeToReady h).movedBy
  | recoverInterrupted => exact committed_of (.refl s) fun r s' h => movedBy_recoverInterrupted h
  | requestControl => exact committed_of (.refl s) fun r s' h => movedBy_requestControl h
  | applyPendingControl => exact committed_of (.refl s) fun r s' h => movedBy_applyPendingControl h
  | createApproval | resolveApproval | consumeApproval => cases hop
  | resumeApprovedTurn => exact committed_of (.refl s) fun r s' h => movedBy_resumeApprovedTurn h

/-- **The step lemma**, for the turns. -/
theorem movedTurns_run (s : AgentSessionStore) (op : StoreOp) : MovedTurns op.Allows s (op.run s) := by
  cases op with
  | createApproval a requestedAt checkedAt createdAt =>
    refine committed_of (MovedBy.refl s).toMovedTurns fun r s' h => ?_
    obtain ⟨_, -, h⟩ := bind_eq_ok_iff.mp h
    obtain ⟨_, -, h⟩ := bind_eq_ok_iff.mp h
    obtain ⟨_, -, h⟩ := bind_eq_ok_iff.mp h
    split at h
    · cases h
      exact (MovedBy.refl s).toMovedTurns
    · obtain ⟨-, h⟩ := ite_error_eq_ok_iff.mp h
      cases h
      exact movedTurns_of_turns_eq rfl rfl
  | resolveApproval approvalId principalId decision reason isAdmin now =>
    refine committed_of (MovedBy.refl s).toMovedTurns fun r s' h => ?_
    obtain ⟨-, h⟩ := ite_error_eq_ok_iff.mp h
    obtain ⟨_, -, h⟩ := bind_eq_ok_iff.mp h
    obtain ⟨_, -, h⟩ := bind_eq_ok_iff.mp h
    obtain ⟨-, h⟩ := ite_error_eq_ok_iff.mp h
    obtain ⟨-, h⟩ := ite_error_eq_ok_iff.mp h
    cases h
    exact movedTurns_of_turns_eq rfl rfl
  | consumeApproval a =>
    refine committed_of (MovedBy.refl s).toMovedTurns fun r s' h => ?_
    obtain ⟨_, -, h⟩ := bind_eq_ok_iff.mp h
    obtain ⟨-, h⟩ := ite_error_eq_ok_iff.mp h
    obtain ⟨-, h⟩ := ite_error_eq_ok_iff.mp h
    obtain ⟨-, h⟩ := ite_error_eq_ok_iff.mp h
    obtain ⟨_, -, h⟩ := bind_eq_ok_iff.mp h
    obtain ⟨-, h⟩ := ite_error_eq_ok_iff.mp h
    obtain ⟨-, h⟩ := ite_error_eq_ok_iff.mp h
    obtain ⟨-, h⟩ := ite_error_eq_ok_iff.mp h
    cases h
    exact movedTurns_of_turns_eq rfl rfl
  | _ => exact (movedBy_run s rfl).toMovedTurns

/-! ### What can be reached -/

/-- Every turn has its session. -/
def Linked (s : AgentSessionStore) : Prop :=
  ∀ turnId row, s.turns.get? turnId = some row → ∃ session, s.sessions.get? row.sessionId = some session

theorem linked_run {s : AgentSessionStore} (hs : Linked s) (op : StoreOp) : Linked (op.run s) := by
  have hmoved := movedTurns_run s op
  intro turnId row hget
  refine Option.isSome_iff_exists.mp ?_
  rcases hmoved.turns turnId row hget with ⟨turn, hturn, hid, -⟩ | ⟨-, -, -, hsession⟩
  · obtain ⟨session, hsession⟩ := hs turnId turn hturn
    exact hmoved.sessions _ (hid ▸ contains_of_get? hsession)
  · exact hsession

theorem linked_reached (ops : List StoreOp) : Linked (reached ops) :=
  Run.exec_of_forall Linked (fun _ op hs => linked_run hs op) (fun _ _ h => by cases h) ops

end ComputeMesh.Platform
