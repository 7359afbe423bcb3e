import ComputeMesh.Platform.SessionMoves

/-!
# Recovery after a restart

`recover_interrupted` pauses every turn in flight, and its session with it, all in one transaction.  A session that is
already paused, cancelled or expired is left alone; any other one has to admit the move to paused.

* `Recovered` — what a recovery that returns is to leave;
* `exists_recoverTurns_iff`, `sessions_recoverTurns` — the loop, by induction over the turns in flight;
* `recovery_completes_iff` — **exactly when** a recovery returns;
* `recovery_of_two_claimed_turns` — two turns of a session are claimed and one of them fails.
-/

namespace ComputeMesh.Platform

namespace AgentSessionStore

variable {s s' : AgentSessionStore}

/-- What a recovery is to leave: no turn in flight, every one that was paused as interrupted, with a session that is
paused or final, and the other turns as they were. -/
structure Recovered (s : AgentSessionStore) (ids : List String) (s' : AgentSessionStore) : Prop where
  recovered : ∀ turnId, turnId ∈ ids ↔ ∃ row, s.turns.get? turnId = some row ∧ row.status ∈ inFlightStatuses
  landed : ∀ turnId row, s'.turns.get? turnId = some row → row.status ∉ inFlightStatuses
  turns : ∀ turnId row, s.turns.get? turnId = some row → s'.turns.get? turnId = some
    (if row.status ∈ inFlightStatuses then
      { row with status := .paused, version := row.version + 1, error := "runtime_restarted" } else row)
  sessions : ∀ turnId row, s.turns.get? turnId = some row → row.status ∈ inFlightStatuses →
    ∃ session, s'.sessions.get? row.sessionId = some session ∧
      session.status ∈ [SessionStatus.paused, .completed, .cancelled, .expired]

/-- The session as the recovery leaves it. -/
def interruptedSession (session : AgentSession) : AgentSession :=
  if session.status ∉ [SessionStatus.paused, .cancelled, .expired] then movedSession session .paused else session

theorem interruptedSession_settled (session : AgentSession) :
    (interruptedSession session).status ∈ [SessionStatus.paused, .cancelled, .expired] := by
  rw [interruptedSession]
  split
  · simp [movedSession]
  · rename_i hsettled
    exact not_not.mp hsettled

theorem interruptedSession_idem (session : AgentSession) :
    interruptedSession (interruptedSession session) = interruptedSession session := by
  rw [interruptedSession, if_neg (not_not.mpr (interruptedSession_settled session))]

theorem interruptible_interruptedSession (session : AgentSession) :
    Interruptible (interruptedSession session).status := .inl (interruptedSession_settled session)

theorem sessions_interrupted {turnId : String} {row : AgentTurn} {session : AgentSession}
    (hsession : s.sessions.get? row.sessionId = some session) (sessionId : String) :
    (s.interrupted turnId row session).sessions.get? sessionId =
      if row.sessionId = sessionId then (s.sessions.get? sessionId).map interruptedSession
      else s.sessions.get? sessionId := by
  by_cases hid : row.sessionId = sessionId
  · subst hid
    rw [if_pos rfl, hsession, interrupted, Option.map_some, interruptedSession]
    split
    · rw [sessions_withSession, Dict.get?_set_self]
    · exact hsession
  · rw [if_neg hid, interrupted]
    split
    · rw [sessions_withSession, Dict.get?_set_of_ne _ (Ne.symm hid)]
      rfl
    · rfl

/-- **The loop returns** exactly when each session of its turns can be interrupted: the first turn of a session settles
it for the others. -/
theorem exists_recoverTurns_iff (rows : List (String × AgentTurn)) :
    (∃ s', s.recoverTurns rows = .ok s') ↔ ∀ e ∈ rows, ∃ session, s.sessions.get? e.2.sessionId = some session ∧
      Interruptible session.status := by
  induction rows generalizing s with
  | nil => exact iff_of_true ⟨s, rfl⟩ (fun e he => by cases he)
  | cons e rows ih =>
    obtain ⟨turnId, row⟩ := e
    -- the sessions of the remaining turns, before and after the first one
    have hrest : ∀ session, s.sessions.get? row.sessionId = some session → Interruptible session.status →
        ∀ e : String × AgentTurn, (∃ session', (s.interrupted turnId row session).sessions.get? e.2.sessionId =
            some session' ∧ Interruptible session'.status) ↔
          ∃ session', s.sessions.get? e.2.sessionId = some session' ∧ Interruptible session'.status := by
      intro session hsession hinterruptible e
      rw [sessions_interrupted hsession]
      by_cases hid : row.sessionId = e.2.sessionId
      · rw [if_pos hid, ← hid, hsession]
        exact iff_of_true ⟨_, rfl, interruptible_interruptedSession session⟩ ⟨session, rfl, hinterruptible⟩
      · rw [if_neg hid]
    rw [List.forall_mem_cons]
    constructor
    · rintro ⟨s', h⟩
      obtain ⟨s₁, hfirst, h⟩ := bind_eq_ok_iff.mp h
      obtain ⟨session, hsession, hinterruptible, rfl⟩ := recoverTurn_eq_ok_iff.mp hfirst
      refine ⟨⟨session, hsession, hinterruptible⟩, fun e he => ?_⟩
      exact (hrest session hsession hinterruptible e).mp (ih.mp ⟨s', h⟩ e he)
    · rintro ⟨⟨session, hsession, hinterruptible⟩, h⟩
      have hfirst : s.recoverTurn turnId row = .ok (s.interrupted turnId row session) :=
        recoverTurn_eq_ok_iff.mpr ⟨session, hsession, hinterruptible, rfl⟩
      obtain ⟨s', hs'⟩ := ih.mpr fun e he => (hrest session hsession hinterruptible e).mpr (h e he)
      exact ⟨s', bind_eq_ok_iff.mpr ⟨_, hfirst, hs'⟩⟩

/-- **The sessions after the loop**: those of its turns are settled. -/
theorem sessions_recoverTurns {rows : List (String × AgentTurn)} (h : s.recoverTurns rows = .ok s')
    (sessionId : String) : s'.sessions.get? sessionId =
      if ∃ e ∈ rows, e.2.sessionId = sessionId then (s.sessions.get? sessionId).map interruptedSession
      else s.sessions.get? sessionId := by
  induction rows generalizing s with
  | nil =>
    obtain rfl := Except.ok.inj h
    simp
  | cons e rows ih =>
    obtain ⟨turnId, row⟩ := e
    obtain ⟨s₁, hfirst, hrest⟩ := bind_eq_ok_iff.mp h
    obtain ⟨session, hsession, -, rfl⟩ := recoverTurn_eq_ok_iff.mp hfirst
    have hcons : (∃ e ∈ (turnId, row) :: rows, e.2.sessionId = sessionId) ↔
        row.sessionId = sessionId ∨ ∃ e ∈ rows, e.2.sessionId = sessionId := List.exists_mem_cons_iff _ _ _
    rw [ih hrest, sessions_interrupted hsession]
    by_cases hid : row.sessionId = sessionId
    · subst hid
      by_cases hmem : ∃ e ∈ rows, e.2.sessionId = row.sessionId
      · simp [hmem, hsession, interruptedSession_idem]
      · simp [hmem]
    · simp only [hcons, hid, false_or, if_false]

theorem mem_inFlight_iff {turnId : String} {row : AgentTurn} :
    (turnId, row) ∈ s.inFlight ↔ s.turns.get? turnId = some row ∧ row.status ∈ inFlightStatuses := by
  rw [inFlight, List.mem_filter, s.turns.mem_entries_iff, decide_eq_true_eq]

theorem recovered_of_ok {r : List String × AgentSessionStore} (hs : Linked s) (h : s.recoverInterrupted = .ok r) :
    Recovered s r.1 r.2 := by
  have hturns := turns_recoverInterrupted h
  obtain ⟨s', hloop, rfl⟩ := recoverInterrupted_eq_ok_iff.mp h
  refine ⟨fun turnId => ?_, fun turnId row hget => ?_, fun turnId row hget => ?_, fun turnId row hget hflight => ?_⟩
  · rw [List.mem_map]
    constructor
    · rintro ⟨⟨_, row⟩, hmem, rfl⟩
      exact ⟨row, mem_inFlight_iff.mp hmem⟩
    · rintro ⟨row, hget⟩
      exact ⟨_, mem_inFlight_iff.mpr hget, rfl⟩
  · rw [hturns turnId] at hget
    obtain ⟨row₀, -, rfl⟩ := Option.map_eq_some_iff.mp hget
    split
    · exact (by decide : TurnStatus.paused ∉ inFlightStatuses)
    · assumption
  · rw [hturns turnId, hget]
    rfl
  · obtain ⟨session, hsession⟩ := hs turnId row hget
    have hmem : ∃ e ∈ s.inFlight, e.2.sessionId = row.sessionId := ⟨_, mem_inFlight_iff.mpr ⟨hget, hflight⟩, rfl⟩
    refine ⟨interruptedSession session, ?_, ?_⟩
    · rw [sessions_recoverTurns hloop, if_pos hmem, hsession]
      rfl
    · have hsettled : ∀ status ∈ [SessionStatus.paused, .cancelled, .expired],
          status ∈ [SessionStatus.paused, .completed, .cancelled, .expired] := by decide
      exact hsettled _ (interruptedSession_settled session)

end AgentSessionStore

open AgentSessionStore

/-- **Recovery completes.**  In every store that can be reached, a recovery returns and leaves what it should if and only
if the session of every turn in flight is paused, cancelled or expired, or can be paused. -/
theorem recovery_completes_iff (ops : List StoreOp) :
    (∃ ids s', (reached ops).recoverInterrupted = .ok (ids, s') ∧ Recovered (reached ops) ids s') ↔
      ∀ turnId row session, (reached ops).turns.get? turnId = some row → row.status ∈ inFlightStatuses →
        (reached ops).sessions.get? row.sessionId = some session → Interruptible session.status := by
  constructor
  · rintro ⟨ids, s', h, -⟩ turnId row session hget hflight hsession
    obtain ⟨s'', hloop, -⟩ := recoverInterrupted_eq_ok_iff.mp h
    obtain ⟨session', hsession', hinterruptible⟩ :=
      (exists_recoverTurns_iff _).mp ⟨s'', hloop⟩ (turnId, row) (mem_inFlight_iff.mpr ⟨hget, hflight⟩)
    obtain rfl := Option.some.inj (hsession.symm.trans hsession')
    exact hinterruptible
  · intro h
    have hloop : ∃ s', (reached ops).recoverTurns (reached ops).inFlight = .ok s' := by
      refine (exists_recoverTurns_iff _).mpr ?_
      rintro ⟨turnId, row⟩ hmem
      obtain ⟨hget, hflight⟩ := mem_inFlight_iff.mp hmem
      obtain ⟨session, hsession⟩ := linked_reached ops turnId row hget
      exact ⟨session, hsession, h turnId row session hget hflight hsession⟩
    obtain ⟨s', hs'⟩ := hloop
    have hok := recoverInterrupted_eq_ok_iff.mpr ⟨s', hs', rfl⟩
    exact ⟨_, s', hok, recovered_of_ok (linked_reached ops) hok⟩

/-- Two turns of a session are claimed, and one of them fails: the recovery raises, for all sessions. -/
theorem recovery_of_two_claimed_turns : ¬∃ ids s', (reached [.createTask "s" "t1" "p" 0 none 0,
        .startTurn { sessionId := "s", turnId := "t2", allowQueue := true } 1, .claimTurn "t1" "worker",
        .claimTurn "t2" "worker", .transitionTurn "t1" .failed none "error"]).recoverInterrupted = .ok (ids, s') ∧
      Recovered (reached [.createTask "s" "t1" "p" 0 none 0,
        .startTurn { sessionId := "s", turnId := "t2", allowQueue := true } 1, .claimTurn "t1" "worker",
        .claimTurn "t2" "worker", .transitionTurn "t1" .failed none "error"]) ids s' := by
  rintro ⟨ids, s', h, -⟩
  have hraises : ((reached [.createTask "s" "t1" "p" 0 none 0,
      .startTurn { sessionId := "s", turnId := "t2", allowQueue := true } 1, .claimTurn "t1" "worker",
      .claimTurn "t2" "worker", .transitionTurn "t1" .failed none "error"]).recoverInterrupted).isOk = false := by
    decide
  rw [h] at hraises
  cases hraises

end ComputeMesh.Platform
