import ComputeMesh.Platform.SessionMoves

/-!
# Queued turns and the worker loop

What `MeshAgentWorker.run_once` does with a candidate before it executes it: expire the turn if its deadline is due,
and else claim it.  Both move the session as well, and the session may be in a status that does not admit the move.

* `Admits` — neither call raises, at any time and for any worker, and each returns what it should;
* `admits_iff_workable` — **exactly when**: the session can fail if the turn has a deadline, and can run if no pause
  or cancel holds the turn back;
* `queue_admits_iff` — the same for every waiting turn of every store that can be reached;
* `queued_turn_of_failed_session` — one turn fails while another one of its session is queued.
-/

namespace ComputeMesh.Platform

namespace AgentSessionStore

variable {s : AgentSessionStore}

/-- `run_once` on one candidate, up to its execution and without the optional admission gate. -/
def admitCandidate (s : AgentSessionStore) (turnId workerId : String) (now : ℚ) :
    Except StoreError (Option AgentTurn × AgentSessionStore) := do
  let candidate ← s.requireTurn turnId
  let (expired, s) ← s.expireQueuedTurn turnId now
  match expired with
  | some _ => .ok (none, s)
  | none => do
    let _ ← s.requireSession candidate.sessionId
    s.claimTurn turnId workerId

/-- A waiting turn does not stop the worker loop. -/
structure Admits (s : AgentSessionStore) (turnId : String) (row : AgentTurn) : Prop where
  expire : ∀ now, ∃ r s', s.expireQueuedTurn turnId now = .ok (r, s') ∧ (∀ turn ∈ r, turn.status = .failed) ∧
    ((∃ deadline ∈ row.deadlineAt, deadline ≤ now) → r ≠ none)
  claim : ∀ workerId, ValidWorker workerId → ∃ r s', s.claimTurn turnId workerId = .ok (r, s') ∧
    ∀ turn ∈ r, turn.status = .running
  candidate : ∀ now workerId, ValidWorker workerId → ∃ r, s.admitCandidate turnId workerId now = .ok r

/-- The session of the turn can go where the two calls take it. -/
structure Workable (s : AgentSessionStore) (turnId : String) (row : AgentTurn) (session : AgentSession) : Prop where
  expire : row.deadlineAt ≠ none → Follows session.status .failed
  claim : s.pauseOrCancelPending row.sessionId turnId = false → Follows session.status .running

variable {row : AgentTurn}

theorem turnMoves_failed (hwaits : Waits row) : TurnMoves row.status .failed := by
  have hmoves : ∀ status ∈ [TurnStatus.queued, .resuming], TurnMoves status .failed := by decide
  exact hmoves row.status hwaits

variable {turnId : String} {session : AgentSession}

theorem expire_due_iff {now : ℚ}
    (hget : s.turns.get? turnId = some row) (hsession : s.sessions.get? row.sessionId = some session)
    (hdue : Due row now) :
    (∃ r, s.expireQueuedTurn turnId now = .ok r) ↔ Follows session.status .failed := by
  constructor
  · rintro ⟨r, h⟩
    obtain ⟨row', hget', ⟨hnot, -⟩ | ⟨-, turn, s', happly, -⟩⟩ := expireQueuedTurn_eq_ok_iff.mp h
    · obtain rfl := Option.some.inj (hget.symm.trans hget')
      exact absurd hdue hnot
    · obtain rfl := Option.some.inj (hget.symm.trans hget')
      obtain ⟨-, session', hsession', hfollows, -⟩ := changeTurnStatus_eq_ok_iff.mp happly
      obtain rfl := Option.some.inj (hsession.symm.trans hsession')
      exact hfollows
  · intro hfollows
    have happly : s.applyTurnStatus turnId row .failed "deadline_exceeded" = .ok _ :=
      changeTurnStatus_eq_ok_iff.mpr ⟨turnMoves_failed hdue.1, session, hsession, hfollows, rfl⟩
    exact ⟨_, expireQueuedTurn_eq_ok_iff.mpr ⟨row, hget, .inr ⟨hdue, _, _, happly, rfl⟩⟩⟩

theorem expired_status {now : ℚ} {r : Option AgentTurn × AgentSessionStore}
    (hget : s.turns.get? turnId = some row) (h : s.expireQueuedTurn turnId now = .ok r) :
    (∀ turn ∈ r.1, turn.status = .failed) ∧ (Due row now → r.1 ≠ none) ∧ (r.1 = none → r.2 = s) := by
  obtain ⟨row', hget', ⟨hnot, rfl⟩ | ⟨-, turn, s', happly, rfl⟩⟩ := expireQueuedTurn_eq_ok_iff.mp h
  · obtain rfl := Option.some.inj (hget.symm.trans hget')
    exact ⟨fun turn hturn => by simp at hturn, fun hdue => absurd hdue hnot, fun _ => rfl⟩
  · obtain ⟨-, session, -, -, heq⟩ := changeTurnStatus_eq_ok_iff.mp happly
    obtain rfl := (Prod.mk.inj heq).1
    refine ⟨fun turn hturn => ?_, fun _ => by simp, fun hnone => by simp at hnone⟩
    obtain rfl := Option.some.inj hturn
    rfl

/-- A turn that no control holds back is claimed exactly when its session can run. -/
theorem claim_iff {workerId : String}
    (hget : s.turns.get? turnId = some row) (hsession : s.sessions.get? row.sessionId = some session)
    (hworker : ValidWorker workerId) (hclaimable : s.Claimable turnId row) :
    (∃ r, s.claimTurn turnId workerId = .ok r) ↔ Follows session.status .running := by
  constructor
  · rintro ⟨r, h⟩
    obtain ⟨-, row', hget', ⟨hnot, -⟩ | ⟨-, session', hsession', hfollows, -⟩⟩ := claimTurn_eq_ok_iff.mp h
    · obtain rfl := Option.some.inj (hget.symm.trans hget')
      exact absurd hclaimable hnot
    · obtain rfl := Option.some.inj (hget.symm.trans hget')
      obtain rfl := Option.some.inj (hsession.symm.trans hsession')
      exact hfollows
  · intro hfollows
    exact ⟨_, claimTurn_eq_ok_iff.mpr ⟨hworker, row, hget, .inr ⟨hclaimable, session, hsession, hfollows, rfl⟩⟩⟩

theorem claimed_status {workerId : String} {r : Option AgentTurn × AgentSessionStore}
    (h : s.claimTurn turnId workerId = .ok r) : ∀ turn ∈ r.1, turn.status = .running := by
  obtain ⟨-, row, -, ⟨-, rfl⟩ | ⟨-, session, -, -, rfl⟩⟩ := claimTurn_eq_ok_iff.mp h
  · exact fun turn hturn => by simp at hturn
  · intro turn hturn
    obtain rfl := Option.some.inj hturn
    rfl

/-- **One waiting turn.** -/
theorem admits_iff_workable
    (hget : s.turns.get? turnId = some row) (hsession : s.sessions.get? row.sessionId = some session)
    (hwaits : Waits row) : Admits s turnId row ↔ Workable s turnId row session := by
  constructor
  · intro h
    refine ⟨fun hdeadline => ?_, fun hpending => ?_⟩
    · obtain ⟨deadline, hd⟩ := Option.ne_none_iff_exists'.mp hdeadline
      obtain ⟨r, s', hexpire, -⟩ := h.expire deadline
      exact (expire_due_iff hget hsession ⟨hwaits, deadline, hd, le_refl _⟩).mp ⟨_, hexpire⟩
    · obtain ⟨r, s', hclaim, -⟩ := h.claim "worker" (by decide)
      exact (claim_iff hget hsession (by decide) ⟨hwaits, hpending⟩).mp ⟨_, hclaim⟩
  · intro h
    have hexpire : ∀ now, ∃ r, s.expireQueuedTurn turnId now = .ok r := by
      intro now
      by_cases hdue : Due row now
      · obtain ⟨deadline, hd, -⟩ := hdue.2
        exact (expire_due_iff hget hsession hdue).mpr (h.expire (by rw [hd]; simp))
      · exact ⟨_, expireQueuedTurn_eq_ok_iff.mpr ⟨row, hget, .inl ⟨hdue, rfl⟩⟩⟩
    have hclaim : ∀ workerId, ValidWorker workerId → ∃ r, s.claimTurn turnId workerId = .ok r := by
      intro workerId hworker
      by_cases hclaimable : s.Claimable turnId row
      · exact (claim_iff hget hsession hworker hclaimable).mpr (h.claim hclaimable.2)
      · exact ⟨_, claimTurn_eq_ok_iff.mpr ⟨hworker, row, hget, .inl ⟨hclaimable, rfl⟩⟩⟩
    refine ⟨fun now => ?_, fun workerId hworker => ?_, fun now workerId hworker => ?_⟩
    · obtain ⟨r, hr⟩ := hexpire now
      obtain ⟨hfailed, hdue, -⟩ := expired_status hget hr
      exact ⟨r.1, r.2, hr, hfailed, fun hnow => hdue ⟨hwaits, hnow⟩⟩
    · obtain ⟨r, hr⟩ := hclaim workerId hworker
      exact ⟨r.1, r.2, hr, claimed_status hr⟩
    · obtain ⟨⟨expired, s'⟩, hr⟩ := hexpire now
      rw [admitCandidate, requireTurn_eq_ok_iff.mpr hget, hr]
      cases expired with
      | some turn => exact ⟨_, rfl⟩
      | none =>
        obtain rfl := (expired_status hget hr).2.2 rfl
        obtain ⟨r', hr'⟩ := hclaim workerId hworker
        refine ⟨r', ?_⟩
        show (s'.requireSession row.sessionId >>= fun _ => s'.claimTurn turnId workerId) = _
        rw [requireSession_eq_ok_iff.mpr hsession]
        exact hr'

end AgentSessionStore

open AgentSessionStore

/-- **The worker loop and its queue.**  In every store that can be reached, no waiting turn makes the worker's two calls
raise if and only if the session of each waiting turn can fail, when the turn has a deadline, and can run, when no
pause or cancel holds the turn back. -/
theorem queue_admits_iff (ops : List StoreOp) :
    (∀ turnId row, (reached ops).turns.get? turnId = some row → Waits row → Admits (reached ops) turnId row) ↔
      ∀ turnId row session, (reached ops).turns.get? turnId = some row → Waits row →
        (reached ops).sessions.get? row.sessionId = some session → Workable (reached ops) turnId row session := by
  constructor
  · intro h turnId row session hget hwaits hsession
    exact (admits_iff_workable hget hsession hwaits).mp (h turnId row hget hwaits)
  · intro h turnId row hget hwaits
    obtain ⟨session, hsession⟩ := linked_reached ops turnId row hget
    exact (admits_iff_workable hget hsession hwaits).mpr (h turnId row session hget hwaits hsession)

/-- A turn is claimed and fails while a second one of its session is queued: the claim of the second one raises. -/
theorem queued_turn_of_failed_session : ¬∀ turnId row, (reached [.createTask "s" "t1" "p" 0 none 0,
        .startTurn { sessionId := "s", turnId := "t2", allowQueue := true } 1, .claimTurn "t1" "worker",
        .transitionTurn "t1" .failed none "error"]).turns.get? turnId = some row → Waits row →
      Admits (reached [.createTask "s" "t1" "p" 0 none 0,
        .startTurn { sessionId := "s", turnId := "t2", allowQueue := true } 1, .claimTurn "t1" "worker",
        .transitionTurn "t1" .failed none "error"]) turnId row := by
  intro h
  obtain ⟨r, s', hclaim, -⟩ := (h "t2" (queuedTurn "s" 0 none "" 1) (by decide) (by decide)).claim "worker"
    (by decide)
  have hraises : ((reached [.createTask "s" "t1" "p" 0 none 0,
      .startTurn { sessionId := "s", turnId := "t2", allowQueue := true } 1, .claimTurn "t1" "worker",
      .transitionTurn "t1" .failed none "error"]).claimTurn "t2" "worker").isOk = false := by decide
  rw [hclaim] at hraises
  cases hraises

end ComputeMesh.Platform
