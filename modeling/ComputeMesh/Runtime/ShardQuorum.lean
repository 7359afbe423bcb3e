import ComputeMesh.Runtime.ShardFailover

/-!
# Quorums and the peers that are active

What `submit_vote` counts against what it should: the votes of the peers that are active when it decides.  The
votes stay in the manager while their voters time out, so that the two agree only as long as no collected vote
comes from a peer that is no longer active.

* `votersSince` — who has voted for a state of a chunk since its last decision, from the history alone;
* `Recorded` — the manager's votes are those;
* `quorum_of_active_voters` — **a quorum of active voters**, in runs without stale votes;
* `quorum_of_expired_voters` — a decision that one of three active peers has voted for.
-/

namespace ComputeMesh.Runtime

open ShardFailover

/-- An operation of a history, with the manager it found. -/
structure FailoverEntry where
  before : ShardFailover
  op : FailoverOp

/-- A step of a run, with the history so far, newest first. -/
def failoverStep (h : ShardFailover × List FailoverEntry) (op : FailoverOp) : ShardFailover × List FailoverEntry :=
  (op.run h.1, ⟨h.1, op⟩ :: h.2)

/-- Who has voted for a state of a chunk since the last decision about the chunk. -/
def votersSince (chunkId proposedState : String) : List FailoverEntry → List String
  | [] => []
  | ⟨before, .submitVote voterId chunkId' proposedState' now⟩ :: earlier =>
    if chunkId' ≠ chunkId then votersSince chunkId proposedState earlier
    else if (before.submitVote voterId chunkId' proposedState' now).1 then []
    else if proposedState' = proposedState ∧ before.takesVoteOf voterId then
      voterId :: votersSince chunkId proposedState earlier
    else votersSince chunkId proposedState earlier
  | _ :: earlier => votersSince chunkId proposedState earlier

/-- The votes of the manager are those of the history. -/
def Recorded (h : ShardFailover × List FailoverEntry) : Prop :=
  ∀ chunkId proposedState voterId, (h.1.votesFor chunkId proposedState).contains voterId = true ↔
      voterId ∈ votersSince chunkId proposedState h.2

/-- If the vote is taken, then every peer whose vote is counted with it is active, the voter included. -/
def VotersActive (s : ShardFailover) (voterId chunkId proposedState : String) (now : ℚ) : Prop :=
  s.takesVoteOf voterId = true → voterId ∈ s.activePeers now ∧
      ∀ e ∈ (s.votesFor chunkId proposedState).entries, e.1 ∈ s.activePeers now

instance (s : ShardFailover) (voterId chunkId proposedState : String) (now : ℚ) :
    Decidable (VotersActive s voterId chunkId proposedState now) :=
  inferInstanceAs (Decidable (_ → _ ∧ _))

/-! ### The votes that are kept -/

theorem votes_markDead (s : ShardFailover) (peerId : String) : (s.markDead peerId).votes = s.votes := by
  rw [markDead]
  split <;> rfl

theorem votes_checkFailover (s : ShardFailover) (chunkId : String) (now : ℚ) :
    (s.checkFailover chunkId now).2.votes = s.votes := by
  rw [checkFailover]
  split
  · rfl
  · rename_i primaryPeer _
    have hmarked : ∀ corrupted : Bool, (if corrupted then s else s.markDead primaryPeer).votes = s.votes := by
      intro corrupted
      cases corrupted
      · exact votes_markDead s primaryPeer
      · rfl
    dsimp only
    split
    · rfl
    · split
      · exact hmarked _
      · exact hmarked _

theorem votesFor_set (s : ShardFailover) (chunkId : String) (ballots : Dict String (Dict String String))
    (chunkId' proposedState' : String) :
    { s with votes := s.votes.set chunkId ballots }.votesFor chunkId' proposedState' =
      if chunkId' = chunkId then ballots.getD proposedState' .empty
      else s.votesFor chunkId' proposedState' := by
  rw [votesFor, Dict.getD_set]
  split <;> rfl

/-- **What a vote can do.** -/
theorem submitVote_cases (s : ShardFailover) (voterId chunkId proposedState : String) (now : ℚ) :
    (s.takesVoteOf voterId = false ∧ s.submitVote voterId chunkId proposedState now = (false, s)) ∨
    (s.takesVoteOf voterId = true ∧ 2 * (s.activePeers now).length / 3 + 1 ≤
        ((s.votesFor chunkId proposedState).set voterId "voted").entries.length ∧
      s.submitVote voterId chunkId proposedState now = (true, { s with votes := s.votes.set chunkId .empty })) ∨
    (s.takesVoteOf voterId = true ∧ s.submitVote voterId chunkId proposedState now = (false, { s with
          votes := s.votes.set chunkId ((s.votes.getD chunkId .empty).set proposedState
            ((s.votesFor chunkId proposedState).set voterId "voted")) })) := by
  cases htaken : s.takesVoteOf voterId with
  | false => exact .inl ⟨rfl, by simp [submitVote, htaken]⟩
  | true =>
    by_cases hquorum : 2 * (s.activePeers now).length / 3 + 1 ≤
        ((s.votesFor chunkId proposedState).set voterId "voted").entries.length
    · exact .inr (.inl ⟨rfl, hquorum, by simp [submitVote, htaken, hquorum]⟩)
    · exact .inr (.inr ⟨rfl, by simp [submitVote, htaken, hquorum]⟩)

/-! ### The votes and the history -/

theorem recorded_of_votes_eq {h : ShardFailover × List FailoverEntry} {op : FailoverOp} (hrec : Recorded h)
    (hvotes : (op.run h.1).votes = h.1.votes)
    (hsame : ∀ chunkId proposedState,
      votersSince chunkId proposedState (⟨h.1, op⟩ :: h.2) = votersSince chunkId proposedState h.2) :
    Recorded (failoverStep h op) := by
  intro chunkId proposedState voterId
  show ((op.run h.1).votesFor chunkId proposedState).contains voterId = true ↔
    voterId ∈ votersSince chunkId proposedState (⟨h.1, op⟩ :: h.2)
  rw [hsame, votesFor, hvotes]
  exact hrec chunkId proposedState voterId

theorem recorded_submitVote {h : ShardFailover × List FailoverEntry} (hrec : Recorded h)
    (voter chunk state : String) (now : ℚ) : Recorded (failoverStep h (.submitVote voter chunk state now)) := by
  intro chunkId proposedState voterId
  show ((h.1.submitVote voter chunk state now).2.votesFor chunkId proposedState).contains voterId = true ↔ _
  rw [failoverStep, votersSince]
  rcases submitVote_cases h.1 voter chunk state now with ⟨htaken, heq⟩ | ⟨htaken, -, heq⟩ | ⟨htaken, heq⟩
  · rw [heq]
    simp only [htaken, Bool.false_eq_true, and_false, if_false, ite_self]
    exact hrec chunkId proposedState voterId
  · rw [heq, votesFor_set]
    by_cases hchunk : chunk = chunkId
    · subst hchunk
      simp [Dict.getD, Dict.contains]
    · simp only [ne_eq, hchunk, not_false_eq_true, if_true, Ne.symm hchunk, if_false]
      exact hrec chunkId proposedState voterId
  · rw [heq, votesFor_set]
    by_cases hchunk : chunk = chunkId
    · subst hchunk
      rw [if_pos rfl, Dict.getD_set]
      by_cases hstate : proposedState = state
      · subst hstate
        have hset : ((h.1.votesFor chunk proposedState).set voter "voted").contains voterId = true ↔
            voterId = voter ∨ (h.1.votesFor chunk proposedState).contains voterId = true := by
          rw [Dict.contains, Dict.get?_set]
          by_cases hvoter : voterId = voter <;> simp [hvoter, Dict.contains]
        simp [htaken, hset, hrec chunk proposedState voterId]
      · simp only [ne_eq, not_true_eq_false, if_false, hstate, Ne.symm hstate, false_and, Bool.false_eq_true]
        exact hrec chunk proposedState voterId
    · simp only [ne_eq, hchunk, not_false_eq_true, if_true, Ne.symm hchunk, if_false]
      exact hrec chunkId proposedState voterId

/-- **The step lemma.** -/
theorem recorded_step (h : ShardFailover × List FailoverEntry) (op : FailoverOp) (hrec : Recorded h) :
    Recorded (failoverStep h op) := by
  cases op with
  | submitVote voter chunk state now => exact recorded_submitVote hrec voter chunk state now
  | checkFailover chunkId now =>
    exact recorded_of_votes_eq hrec (votes_checkFailover h.1 chunkId now) fun _ _ => rfl
  | registerHeartbeat peerId vram tflops latency now | recordReplica chunkId primaryPeer replicas
  | reportCorruptedReplica chunkId peerId => exact recorded_of_votes_eq hrec rfl fun _ _ => rfl

theorem recorded_exec (heartbeatTimeout : ℚ) (ops : List FailoverOp) :
    Recorded (Run.exec failoverStep (initial heartbeatTimeout, []) ops) := by
  refine Run.exec_of_forall Recorded recorded_step ?_ ops
  intro chunkId proposedState voterId
  simp [initial, votesFor, Dict.getD, Dict.contains, votersSince]

/-! ### The quorum -/

theorem length_votes_le (s : ShardFailover) (now : ℚ) (collected : Dict String String) (voters : List String)
    (hactive : ∀ e ∈ collected.entries, e.1 ∈ s.activePeers now)
    (hvoted : ∀ e ∈ collected.entries, e.1 ∈ voters) :
    collected.entries.length ≤ ((s.activePeers now).filter fun peer => decide (peer ∈ voters)).length := by
  rw [← List.length_map (f := Prod.fst)]
  refine (List.subperm_of_subset collected.nodupKeys ?_).length_le
  intro peer hpeer
  obtain ⟨e, he, rfl⟩ := List.mem_map.mp hpeer
  exact List.mem_filter.mpr ⟨hactive e he, decide_eq_true (hvoted e he)⟩

/-- **A quorum of active voters.**  After any run, a vote that is counted with votes of active peers alone reaches
the quorum only if more than two thirds of the peers active at that moment have voted for the state since the last
decision about the chunk. -/
theorem quorum_of_active_voters (heartbeatTimeout : ℚ) (ops : List FailoverOp)
    (voterId chunkId proposedState : String) (now : ℚ) {s : ShardFailover} {history : List FailoverEntry}
    (hrun : Run.exec failoverStep (initial heartbeatTimeout, []) ops = (s, history))
    (hactive : VotersActive s voterId chunkId proposedState now)
    (hquorum : (s.submitVote voterId chunkId proposedState now).1 = true) :
    2 * (s.activePeers now).length <
      3 * ((s.activePeers now).filter fun peer =>
        decide (peer ∈ voterId :: votersSince chunkId proposedState history)).length := by
  have hrec : Recorded (s, history) := hrun ▸ recorded_exec heartbeatTimeout ops
  rcases submitVote_cases s voterId chunkId proposedState now with
    ⟨-, heq⟩ | ⟨htaken, hneeded, -⟩ | ⟨-, heq⟩
  · rw [heq] at hquorum
    cases hquorum
  · obtain ⟨hvoter, hcollected⟩ := hactive htaken
    have hentries : ∀ e ∈ ((s.votesFor chunkId proposedState).set voterId "voted").entries,
        e.1 = voterId ∨ e ∈ (s.votesFor chunkId proposedState).entries := by
      intro e he
      rw [Dict.mem_entries_iff, Dict.get?_set] at he
      split at he
      · exact .inl ‹_›
      · exact .inr ((Dict.mem_entries_iff _ e.1 e.2).mpr he)
    have hcount := length_votes_le s now ((s.votesFor chunkId proposedState).set voterId "voted")
      (voterId :: votersSince chunkId proposedState history)
      (fun e he => (hentries e he).elim (fun h => h ▸ hvoter) (hcollected e))
      (fun e he => by
        rcases hentries e he with h | h
        · exact h ▸ List.mem_cons_self
        · refine List.mem_cons_of_mem _ ((hrec chunkId proposedState e.1).mp ?_)
          rw [Dict.contains, (Dict.mem_entries_iff _ e.1 e.2).mp h]
          rfl)
    omega
  · rw [heq] at hquorum
    cases hquorum

/-- A vote that decides: the only active peer's. -/
theorem quorum_of_active_voters_one : let ops := [FailoverOp.registerHeartbeat "peer-1" 8 1 1 0]
    let h := Run.exec failoverStep (initial 5, []) ops
    2 * (h.1.activePeers 3).length < 3 * ((h.1.activePeers 3).filter fun peer =>
        decide (peer ∈ "peer-1" :: votersSince "chunk" "promote" h.2)).length :=
  quorum_of_active_voters 5 [.registerHeartbeat "peer-1" 8 1 1 0] "peer-1" "chunk" "promote" 3 rfl
    (by decide +kernel) (by decide +kernel)

/-- Two of five peers vote and time out; once the other three have sent a heartbeat again, the vote of one of them
decides, with the two expired ones. -/
theorem quorum_of_expired_voters : let ops :=
      [FailoverOp.registerHeartbeat "a" 8 1 1 0, .registerHeartbeat "b" 8 1 1 0, .registerHeartbeat "x" 8 1 1 0,
        .registerHeartbeat "y" 8 1 1 0, .registerHeartbeat "z" 8 1 1 0, .submitVote "a" "chunk" "promote" 1,
        .submitVote "b" "chunk" "promote" 1, .registerHeartbeat "x" 8 1 1 10, .registerHeartbeat "y" 8 1 1 10,
        .registerHeartbeat "z" 8 1 1 10]
    let h := Run.exec failoverStep (initial 5, []) ops
    (h.1.submitVote "x" "chunk" "promote" 10).1 = true ∧ ¬2 * (h.1.activePeers 10).length <
        3 * ((h.1.activePeers 10).filter fun peer =>
          decide (peer ∈ "x" :: votersSince "chunk" "promote" h.2)).length := by
  decide +kernel

end ComputeMesh.Runtime
