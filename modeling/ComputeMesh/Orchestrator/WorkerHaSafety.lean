import ComputeMesh.Orchestrator.WorkerHaProtocol

/-!
# One primary at a time

Every operation keeps a cluster sound: who has the role `PRIMARY` is the recorded primary, and no token that was
handed out is ahead of the cluster's.  No operation replaces the recorded primary without raising the token.

* `Cluster.Sound` — the invariant of a cluster;
* `Cluster.Follows` — what a cluster can become: the token never falls, and while it stays the recorded primary
  stays;
* `HaManager.sound_after`, `HaManager.follows_after` — **both hold along every run**;
* `worker_ha_single_primary` — the three guarantees.
-/

namespace ComputeMesh.Orchestrator

open ComputeMesh.Text Cluster

variable {k' : Cluster}

namespace Cluster

/-- **The invariant of a cluster.** -/
structure Sound (k : Cluster) (clusterId : String) : Prop where
  named : ∀ w m, k.members.get? w = some m → m.workerId = w ∧ m.clusterId = clusterId
  recorded : ∀ w m, k.members.get? w = some m → m.role = .primary → k.activePrimary = some w ∧ m.leaseState = .active
  bounded : ∀ w m, k.members.get? w = some m → m.fenceToken ≤ k.token
  positive : 1 ≤ k.token

/-- What a cluster can become. -/
structure Follows (k k' : Cluster) : Prop where
  token : k.token ≤ k'.token
  primary : k'.token = k.token → ∀ w, k.activePrimary = some w → k'.activePrimary = some w

theorem Follows.refl (k : Cluster) : k.Follows k := ⟨le_refl _, fun _ _ h => h⟩

theorem Follows.trans {k k'' : Cluster} (h : k.Follows k') (h' : k'.Follows k'') : k.Follows k'' := by
  refine ⟨h.token.trans h'.token, fun htoken w hw => ?_⟩
  have hle := h.token
  have hle' := h'.token
  exact h'.primary (by omega) w (h.primary (by omega) w hw)

theorem Follows.lt {k : Cluster} (h : k.Follows k') {a b : String} (ha : k.activePrimary = some a)
    (hb : k'.activePrimary = some b) (hne : a ≠ b) : k.token < k'.token := by
  refine lt_of_le_of_ne h.token fun htoken => hne ?_
  have hstays := h.primary htoken.symm a ha
  rw [hb] at hstays
  exact (Option.some.inj hstays).symm

variable {k : Cluster} {cId : String}

theorem sound_fresh (cId : String) : Sound fresh cId where
  named _ _ h := by cases h
  recorded _ _ h := by cases h
  bounded _ _ h := by cases h
  positive := le_refl _

variable {w : String}

/-- **One member is replaced**: the cluster stays sound if the new one fits and no other primary loses its
record. -/
theorem Sound.set_member (h : k.Sound cId) {m : WorkerMemberInfo}
    (hmembers : k'.members = k.members.set w m) (htoken : k.token ≤ k'.token)
    (hnamed : m.workerId = w ∧ m.clusterId = cId)
    (hrole : m.role = .primary → k'.activePrimary = some w ∧ m.leaseState = .active)
    (hbound : m.fenceToken ≤ k'.token)
    (hothers : ∀ w' m', w' ≠ w → k.members.get? w' = some m' → m'.role = .primary →
      k'.activePrimary = some w') : k'.Sound cId := by
  have hget : ∀ w' m', k'.members.get? w' = some m' → w' = w ∧ m' = m ∨ w' ≠ w ∧ k.members.get? w' = some m' := by
    intro w' m' hm'
    rw [hmembers] at hm'
    rcases Dict.get?_set_eq_some.mp hm' with ⟨heq, rfl⟩ | ⟨hne, hm'⟩
    · exact .inl ⟨heq, rfl⟩
    · exact .inr ⟨hne, hm'⟩
  refine ⟨fun w' m' hm' => ?_, fun w' m' hm' hprimary => ?_, fun w' m' hm' => ?_, h.positive.trans htoken⟩
  · rcases hget w' m' hm' with ⟨rfl, rfl⟩ | ⟨-, hm'⟩
    · exact hnamed
    · exact h.named w' m' hm'
  · rcases hget w' m' hm' with ⟨rfl, rfl⟩ | ⟨hne, hm'⟩
    · exact hrole hprimary
    · exact ⟨hothers w' m' hne hm' hprimary, (h.recorded w' m' hm' hprimary).2⟩
  · rcases hget w' m' hm' with ⟨rfl, rfl⟩ | ⟨-, hm'⟩
    · exact hbound
    · exact (h.bounded w' m' hm').trans htoken

/-! ### Registration -/

theorem sound_register (h : k.Sound cId) (now : ℚ) (w : String) (role : WorkerRole) (priority : ℤ)
    (metadata : List (String × Json)) : (k.register cId now w role priority metadata).2.Sound cId := by
  refine h.set_member rfl (le_refl _) ⟨rfl, rfl⟩ (fun hprimary => ⟨?_, rfl⟩) (le_refl _) ?_
  · -- the member got the role because it is, or becomes, the recorded primary
    show k.primaryAfter w role = some w
    unfold primaryAfter
    by_cases hnew : role = .primary ∧ (k.activePrimary = none ∨ k.activePrimary = some w)
    · rw [if_pos hnew]
    · rw [if_neg hnew]
      have hrole : (if k.activePrimary = some w then WorkerRole.primary else .standby) = .primary := by
        simpa only [register, if_neg hnew] using hprimary
      split at hrole
      · assumption
      · cases hrole
  · intro w' m' hne hm' hprimary
    have hrecorded := (h.recorded w' m' hm' hprimary).1
    show k.primaryAfter w role = some w'
    unfold primaryAfter
    rw [if_neg, hrecorded]
    rintro ⟨-, hnone | hsame⟩
    · rw [hnone] at hrecorded
      cases hrecorded
    · rw [hsame] at hrecorded
      exact hne (Option.some.inj hrecorded).symm

theorem follows_register (k : Cluster) (cId : String) (now : ℚ) (w : String) (role : WorkerRole)
    (priority : ℤ) (metadata : List (String × Json)) :
    k.Follows (k.register cId now w role priority metadata).2 := by
  refine ⟨le_refl _, fun _ a ha => ?_⟩
  show k.primaryAfter w role = some a
  unfold primaryAfter
  split
  · rename_i hprimary
    rcases hprimary.2 with hnone | hsame
    · rw [hnone] at ha
      cases ha
    · rw [← hsame]
      exact ha
  · exact ha

/-! ### Heartbeats -/

theorem sound_heartbeat (h : k.Sound cId) (now : ℚ) {m : WorkerMemberInfo}
    (hm : k.members.get? w = some m) (fenceToken : Option ℤ) :
    (k.heartbeat cId now m w fenceToken).2.Sound cId := by
  have hothers : ∀ w' m', w' ≠ w → k.members.get? w' = some m' → m'.role = .primary →
      k.activePrimary = some w' := fun w' m' _ hm' hprimary => (h.recorded w' m' hm' hprimary).1
  unfold heartbeat
  split
  · exact h
  · split
    · refine h.set_member rfl (le_refl _) (h.named w m hm) (fun hprimary => ?_) (h.bounded w m hm) hothers
      cases hprimary
    · refine h.set_member rfl (le_refl _) (h.named w m hm) (fun hprimary => ⟨?_, rfl⟩) (le_refl _) hothers
      exact (h.recorded w m hm hprimary).1

theorem follows_heartbeat (k : Cluster) (cId : String) (now : ℚ) (m : WorkerMemberInfo) (w : String)
    (fenceToken : Option ℤ) : k.Follows (k.heartbeat cId now m w fenceToken).2 := by
  unfold heartbeat
  split
  · exact Follows.refl k
  · split
    · exact ⟨le_refl _, fun _ _ h => h⟩
    · exact ⟨le_refl _, fun _ _ h => h⟩

theorem heartbeat_returns {now : ℚ} {m info : WorkerMemberInfo} {fenceToken : Option ℤ}
    (h : k.heartbeat cId now m w fenceToken = (.ok info, k')) :
    info.clusterId = m.clusterId ∧ info.fenceToken = k'.token := by
  unfold heartbeat at h
  split at h
  · cases h
  · split at h
    · cases h
    · cases h
      exact ⟨rfl, rfl⟩

/-! ### Evaluation -/

section
variable {leaseTtl now electionNow : ℚ}

/-- Who is primary after the check of the heartbeats was it before, and is not changed. -/
theorem checked_primary {m : WorkerMemberInfo} (h : (checked leaseTtl now m).role = .primary) :
    checked leaseTtl now m = m ∧ lapsed leaseTtl now m = false := by
  unfold checked at h ⊢
  split at h
  · cases h
  · rename_i hfresh
    exact ⟨if_neg hfresh, by simpa using hfresh⟩

theorem checked_named (leaseTtl now : ℚ) (m : WorkerMemberInfo) :
    (checked leaseTtl now m).workerId = m.workerId ∧ (checked leaseTtl now m).clusterId = m.clusterId ∧
      (checked leaseTtl now m).fenceToken = m.fenceToken := by
  unfold checked
  split <;> exact ⟨rfl, rfl, rfl⟩

theorem sound_checked (h : k.Sound cId) (leaseTtl now : ℚ) :
    Sound { k with members := k.members.mapValues (checked leaseTtl now) } cId := by
  have hget : ∀ w m, (k.members.mapValues (checked leaseTtl now)).get? w = some m →
      ∃ m₀, k.members.get? w = some m₀ ∧ m = checked leaseTtl now m₀ := by
    intro w m hm
    rw [Dict.get?_mapValues] at hm
    obtain ⟨m₀, hm₀, rfl⟩ := Option.map_eq_some_iff.mp hm
    exact ⟨m₀, hm₀, rfl⟩
  refine ⟨fun w m hm => ?_, fun w m hm hprimary => ?_, fun w m hm => ?_, h.positive⟩
  · obtain ⟨m₀, hm₀, rfl⟩ := hget w m hm
    obtain ⟨hw, hc, -⟩ := checked_named leaseTtl now m₀
    rw [hw, hc]
    exact h.named w m₀ hm₀
  · obtain ⟨m₀, hm₀, rfl⟩ := hget w m hm
    have hsame := (checked_primary hprimary).1
    rw [hsame] at hprimary ⊢
    exact h.recorded w m₀ hm₀ hprimary
  · obtain ⟨m₀, hm₀, rfl⟩ := hget w m hm
    obtain ⟨-, -, ht⟩ := checked_named leaseTtl now m₀
    rw [ht]
    exact h.bounded w m₀ hm₀

/-- **A failover finds no primary**: when the condition for it holds, nobody has the role any more. -/
theorem no_primary_at_failover (h : k.Sound cId)
    (hfail : primaryExpired leaseTtl now k = true ∨ k.activePrimary = none ∨
      primaryInactive (k.members.mapValues (checked leaseTtl now)) k.activePrimary = true)
    {m : WorkerMemberInfo}
    (hm : (k.members.mapValues (checked leaseTtl now)).get? w = some m) : m.role ≠ .primary := by
  intro hprimary
  obtain ⟨hrecorded, hactive⟩ := (sound_checked h leaseTtl now).recorded w m hm hprimary
  rcases hfail with hexpired | hnone | hinactive
  · -- the primary that expired would be the recorded one, which has not
    obtain ⟨m₁, hmem, hlapsed⟩ := List.any_eq_true.mp hexpired
    rw [Bool.and_eq_true, decide_eq_true_eq] at hlapsed
    obtain ⟨w₁, hm₁⟩ := (k.members.mem_values_iff m₁).mp hmem
    have hrecorded₁ := (h.recorded w₁ m₁ hm₁ hlapsed.2).1
    have hw : w₁ = w := Option.some.inj (hrecorded₁.symm.trans hrecorded)
    rw [Dict.get?_mapValues, ← hw, hm₁, Option.map_some] at hm
    cases hm
    rw [(checked_primary hprimary).2] at hlapsed
    cases hlapsed.1
  · have hsome : k.activePrimary = some w := hrecorded
    rw [hnone] at hsome
    cases hsome
  · have hsome : k.activePrimary = some w := hrecorded
    rw [hsome, primaryInactive, hm] at hinactive
    exact of_decide_eq_true hinactive hactive

theorem mem_of_elected {members : Dict String WorkerMemberInfo} {p : WorkerMemberInfo}
    (h : electStandbyPrimary leaseTtl electionNow members = some p) : ∃ w, members.get? w = some p := by
  have hmem := List.mem_of_mem_head? h
  rw [List.mem_insertionSort, List.mem_filter] at hmem
  exact (members.mem_values_iff p).mp hmem.1

theorem sound_evaluate (h : k.Sound cId) : (k.evaluate leaseTtl now electionNow).Sound cId := by
  have hchecked := sound_checked h leaseTtl now
  unfold evaluate
  dsimp only
  split
  · rename_i hfail
    split
    · rename_i p hp
      obtain ⟨w, hw⟩ := mem_of_elected hp
      obtain ⟨rfl, hcluster⟩ := hchecked.named w p hw
      refine hchecked.set_member rfl (by simp) ⟨rfl, hcluster⟩ (fun _ => ⟨rfl, rfl⟩) (le_refl _) ?_
      intro w' m' _ hm' hprimary
      exact absurd hprimary (no_primary_at_failover h hfail hm')
    · refine ⟨hchecked.named, fun w m hm hprimary => ?_, fun w m hm => ?_, ?_⟩
      · exact absurd hprimary (no_primary_at_failover h hfail hm)
      · have hle := hchecked.bounded w m hm
        show m.fenceToken ≤ k.token + 1
        exact hle.trans (by simp)
      · have hpos := h.positive
        show 1 ≤ k.token + 1
        omega
  · exact hchecked

/-- **An evaluation that changes the recorded primary raises the token.** -/
theorem follows_evaluate (leaseTtl now electionNow : ℚ) (k : Cluster) :
    k.Follows (k.evaluate leaseTtl now electionNow) := by
  unfold evaluate
  dsimp only
  split
  · split
    · refine ⟨?_, fun htoken => ?_⟩
      · show k.token ≤ k.token + 1
        omega
      · have hsucc : k.token + 1 = k.token := htoken
        omega
    · refine ⟨?_, fun htoken => ?_⟩
      · show k.token ≤ k.token + 1
        omega
      · have hsucc : k.token + 1 = k.token := htoken
        omega
  · exact ⟨le_refl _, fun _ _ h => h⟩

end

end Cluster

/-! ### The manager -/

namespace HaManager

/-- Every cluster is sound. -/
def Sound (m : HaManager) : Prop := ∀ c k, m.get? c = some k → Cluster.Sound k c

/-- Every cluster stays, and what it becomes follows from what it was. -/
def Follows (m m' : HaManager) : Prop :=
  ∀ c k, m.get? c = some k → ∃ k', m'.get? c = some k' ∧ Cluster.Follows k k'

/-- The fence token of a cluster, `0` before it is there. -/
def tokenOf (m : HaManager) (c : String) : ℤ := ((m.get? c).map Cluster.token).getD 0

theorem Follows.refl (m : HaManager) : m.Follows m := fun _ k h => ⟨k, h, Cluster.Follows.refl k⟩

theorem Follows.trans {m m' m'' : HaManager} (h : m.Follows m') (h' : m'.Follows m'') : m.Follows m'' := by
  intro c k hk
  obtain ⟨k', hk', hfollows⟩ := h c k hk
  obtain ⟨k'', hk'', hfollows'⟩ := h' c k' hk'
  exact ⟨k'', hk'', hfollows.trans hfollows'⟩

theorem Follows.tokenOf_le {m m' : HaManager} (h : m.Follows m') (hsound : m'.Sound) (c : String) :
    m.tokenOf c ≤ m'.tokenOf c := by
  unfold tokenOf
  rcases hk : m.get? c with _ | k
  · rcases hk' : m'.get? c with _ | k'
    · exact le_refl _
    · have hpos := (hsound c k' hk').positive
      show (0 : ℤ) ≤ k'.token
      omega
  · obtain ⟨k', hk', hfollows⟩ := h c k hk
    rw [hk']
    exact hfollows.token

variable {leaseTtl : ℚ} {m : HaManager}

variable {c : String}

/-- **One cluster is replaced.** -/
theorem set_cluster (h : m.Sound) (hk' : k'.Sound c)
    (hfollows : ∀ k, m.get? c = some k → k.Follows k') : (m.set c k').Sound ∧ m.Follows (m.set c k') := by
  refine ⟨fun c' k'' hget => ?_, fun c' k hget => ?_⟩
  · rcases Dict.get?_set_eq_some.mp hget with ⟨heq, rfl⟩ | ⟨-, hget⟩
    · rw [heq]
      exact hk'
    · exact h c' k'' hget
  · by_cases hc : c' = c
    · subst hc
      exact ⟨k', by rw [get?_set, if_pos rfl], hfollows k hget⟩
    · exact ⟨k, by rw [get?_set, if_neg hc]; exact hget, Cluster.Follows.refl k⟩

theorem evaluateClusterHealth_of_get? {k : Cluster} (now electionNow : ℚ) (hk : m.get? (strip c) = some k) :
    m.evaluateClusterHealth leaseTtl now electionNow c = ((k.evaluate leaseTtl now electionNow).status (strip c),
        m.set (strip c) (k.evaluate leaseTtl now electionNow)) := by
  simp only [evaluateClusterHealth, hk]

theorem evaluate_spec (leaseTtl : ℚ) (h : m.Sound) (now electionNow : ℚ) (c : String) :
    (m.evaluateClusterHealth leaseTtl now electionNow c).2.Sound ∧
      m.Follows (m.evaluateClusterHealth leaseTtl now electionNow c).2 := by
  rcases hk : m.get? (strip c) with _ | k
  · simp only [evaluateClusterHealth, hk]
    exact ⟨h, Follows.refl m⟩
  · rw [evaluateClusterHealth_of_get? now electionNow hk]
    refine set_cluster h (sound_evaluate (h _ k hk)) fun k₀ hk₀ => ?_
    rw [hk] at hk₀
    cases hk₀
    exact follows_evaluate leaseTtl now electionNow k

/-- **One operation keeps every cluster sound and lets it only follow.** -/
theorem step_spec (h : m.Sound) (op : HaOp) : (m.step leaseTtl op).2.Sound ∧ m.Follows (m.step leaseTtl op).2 := by
  cases op with
  | registerWorker now clusterId workerId role priority metadata =>
    simp only [step]
    split
    · exact ⟨h, Follows.refl m⟩
    · rcases hk : m.get? (strip clusterId) with _ | k
      · refine set_cluster h (sound_register (sound_fresh _) ..) fun k hk' => ?_
        rw [hk] at hk'
        cases hk'
      · refine set_cluster h (sound_register (h _ k hk) ..) fun k' hk' => ?_
        rw [hk] at hk'
        cases hk'
        exact follows_register k ..
  | heartbeat now clusterId workerId fenceToken =>
    simp only [step]
    rcases hk : m.get? (strip clusterId) with _ | k
    · exact ⟨h, Follows.refl m⟩
    · dsimp only
      rcases hmember : k.members.get? (strip workerId) with _ | member
      · exact ⟨h, Follows.refl m⟩
      · have hset : ∀ k', k' = (k.heartbeat (strip clusterId) now member (strip workerId) fenceToken).2 →
            (m.set (strip clusterId) k').Sound ∧ m.Follows (m.set (strip clusterId) k') := by
          rintro _ rfl
          refine set_cluster h (sound_heartbeat (h _ k hk) now hmember fenceToken) fun k₀ hk₀ => ?_
          rw [hk] at hk₀
          cases hk₀
          exact follows_heartbeat k ..
        dsimp only
        split
        · rename_i hr
          exact hset _ (by rw [hr])
        · rename_i hr
          exact hset _ (by rw [hr])
  | evaluateClusterHealth now electionNow clusterId => exact evaluate_spec leaseTtl h now electionNow clusterId
  | validateWorkerAction a =>
    have hspec := evaluate_spec leaseTtl h a.now a.electionNow a.clusterId
    simp only [step]
    split
    · exact hspec
    · split
      · exact hspec
      · exact hspec

/-! ### Runs -/

theorem sound_empty : Sound empty := fun _ _ h => by cases h

theorem after_append (leaseTtl : ℚ) (ops later : List HaOp) : after leaseTtl (ops ++ later)
      = Run.exec (fun m op => (m.step leaseTtl op).2) (after leaseTtl ops) later :=
  Run.exec_append _ _ _

/-- **Every run keeps the clusters sound.** -/
theorem sound_after (leaseTtl : ℚ) (ops : List HaOp) : (after leaseTtl ops).Sound :=
  Run.exec_of_forall Sound (fun _ op h => (step_spec h op).1) sound_empty ops

/-- **Every run lets them only follow.** -/
theorem follows_exec (leaseTtl : ℚ) (h : m.Sound) (later : List HaOp) :
    m.Follows (Run.exec (fun m op => (m.step leaseTtl op).2) m later) :=
  (Run.exec_of_forall (fun m' => m'.Sound ∧ m.Follows m')
    (fun _ op h' => ⟨(step_spec h'.1 op).1, h'.2.trans (step_spec h'.1 op).2⟩)
    ⟨h, Follows.refl m⟩ later).2

theorem follows_after (leaseTtl : ℚ) (ops later : List HaOp) :
    (after leaseTtl ops).Follows (after leaseTtl (ops ++ later)) := by
  rw [after_append]
  exact follows_exec leaseTtl (sound_after leaseTtl ops) later

/-! ### Tokens -/

theorem tokenOf_set (m : HaManager) (c : String) (k : Cluster) : (m.set c k).tokenOf c = k.token := by
  unfold tokenOf
  rw [get?_set, if_pos rfl]
  rfl

/-- **No token that an operation hands out is ahead of its cluster.** -/
theorem tokens_step (h : m.Sound) (op : HaOp) {f : ℤ}
    (hf : (c, f) ∈ (m.step leaseTtl op).1.tokens) : f ≤ (m.step leaseTtl op).2.tokenOf c := by
  cases op with
  | registerWorker now clusterId workerId role priority metadata =>
    simp only [step] at hf ⊢
    split at hf
    · cases hf
    · rename_i hids
      obtain ⟨rfl, rfl⟩ := Prod.mk.inj (List.mem_singleton.mp hf)
      rw [if_neg hids]
      exact (tokenOf_set m _ _).symm.le
  | heartbeat now clusterId workerId fenceToken =>
    simp only [step] at hf ⊢
    rcases hk : m.get? (strip clusterId) with _ | k
    · rw [hk] at hf
      cases hf
    · rw [hk] at hf
      dsimp only at hf ⊢
      rcases hmember : k.members.get? (strip workerId) with _ | member
      · rw [hmember] at hf
        cases hf
      · rw [hmember] at hf
        dsimp only at hf ⊢
        rcases hr : k.heartbeat (strip clusterId) now member (strip workerId) fenceToken with ⟨e | info, k'⟩
        · rw [hr] at hf
          cases hf
        · rw [hr] at hf
          obtain ⟨rfl, rfl⟩ := Prod.mk.inj (List.mem_singleton.mp hf)
          obtain ⟨hcluster, htoken⟩ := heartbeat_returns hr
          rw [hcluster, ((h _ k hk).named _ member hmember).2, htoken, tokenOf_set]
  | evaluateClusterHealth now electionNow clusterId =>
    have hstep : m.step leaseTtl (.evaluateClusterHealth now electionNow clusterId)
        = (.status (m.evaluateClusterHealth leaseTtl now electionNow clusterId).1,
          (m.evaluateClusterHealth leaseTtl now electionNow clusterId).2) := rfl
    rw [hstep] at hf ⊢
    rcases hk : m.get? (strip clusterId) with _ | k
    · simp only [evaluateClusterHealth, hk, HaOutcome.tokens, List.map_nil] at hf ⊢
      obtain ⟨rfl, rfl⟩ := Prod.mk.inj (List.mem_singleton.mp hf)
      unfold tokenOf
      rw [hk]
      rfl
    · rw [evaluateClusterHealth_of_get? now electionNow hk] at hf ⊢
      have hsound : (k.evaluate leaseTtl now electionNow).Sound (strip clusterId) :=
        sound_evaluate (h _ k hk)
      rcases List.mem_cons.mp hf with heq | hmem
      · obtain ⟨rfl, rfl⟩ := Prod.mk.inj heq
        exact (tokenOf_set m _ _).symm.le
      · -- the tokens of the members in the status
        obtain ⟨member, hmember, heq⟩ := List.mem_map.mp hmem
        obtain ⟨rfl, rfl⟩ := Prod.mk.inj heq
        obtain ⟨w, hw⟩ := (Dict.mem_values_iff _ member).mp (List.mem_of_mem_filter hmember)
        rw [(hsound.named w member hw).2]
        exact (hsound.bounded w member hw).trans (tokenOf_set m _ _).symm.le
  | validateWorkerAction a =>
    simp only [step] at hf
    split at hf
    · cases hf
    · split at hf
      · cases hf
      · cases hf

/-- **No token that a run has handed out is ahead of its cluster.** -/
theorem handedOut_le (h : m.Sound) (ops : List HaOp) {f : ℤ} (hf : (c, f) ∈ m.handedOut leaseTtl ops) :
    f ≤ (Run.exec (fun m op => (m.step leaseTtl op).2) m ops).tokenOf c := by
  induction ops generalizing m with
  | nil => cases hf
  | cons op ops ih =>
    have hnext : (m.step leaseTtl op).2.Sound := (step_spec h op).1
    rcases List.mem_append.mp hf with hnow | hlater
    · refine (tokens_step h op hnow).trans ?_
      refine (follows_exec leaseTtl hnext ops).tokenOf_le ?_ c
      exact Run.exec_of_forall Sound (fun _ op h => (step_spec h op).1) hnext ops
    · exact ih hnext hlater

/-! ### The guarantees -/

theorem validated_iff (m : HaManager) (a : WorkerAction) :
    (m.step leaseTtl (.validateWorkerAction a)).1 = .validated ↔
      ∃ k, m.get? (strip a.clusterId) = some k ∧
        (k.evaluate leaseTtl a.now a.electionNow).activePrimary = some (strip a.workerId) ∧
        (k.evaluate leaseTtl a.now a.electionNow).token ≤ a.fenceToken := by
  rcases hk : m.get? (strip a.clusterId) with _ | k
  · simp [step, evaluateClusterHealth, hk]
  · have hstatus : m.evaluateClusterHealth leaseTtl a.now a.electionNow a.clusterId = _ :=
      evaluateClusterHealth_of_get? a.now a.electionNow hk
    simp only [Option.some.injEq, exists_eq_left', step, hstatus]
    generalize k.evaluate leaseTtl a.now a.electionNow = k'
    show _ ↔ (k'.status (strip a.clusterId)).activePrimaryId = some (strip a.workerId) ∧
      (k'.status (strip a.clusterId)).fenceToken ≤ a.fenceToken
    split
    · rename_i hother
      exact iff_of_false nofun fun h => hother h.1
    · rename_i hprimary
      split
      · rename_i hstale
        exact iff_of_false nofun fun h => absurd h.2 (not_le.mpr hstale)
      · rename_i hfence
        exact iff_of_true rfl ⟨not_not.mp hprimary, not_lt.mp hfence⟩

theorem get?_step_validate {m : HaManager} {a : WorkerAction} {k : Cluster}
    (hk : m.get? (strip a.clusterId) = some k) :
    (m.step leaseTtl (.validateWorkerAction a)).2.get? (strip a.clusterId)
      = some (k.evaluate leaseTtl a.now a.electionNow) := by
  simp only [step]
  rw [evaluateClusterHealth_of_get? a.now a.electionNow hk]
  split
  · rw [get?_set, if_pos rfl]
  · split
    · rw [get?_set, if_pos rfl]
    · rw [get?_set, if_pos rfl]

/-- **Two actions that pass with one token are of one worker**, if the token was handed out before the first. -/
theorem same_worker (leaseTtl : ℚ) (ops later : List HaOp) (a a' : WorkerAction)
    (hcluster : strip a'.clusterId = strip a.clusterId) (htoken : a'.fenceToken = a.fenceToken)
    (hhanded : (strip a.clusterId, a.fenceToken) ∈ handedOut leaseTtl empty ops)
    (hfirst : ((after leaseTtl ops).step leaseTtl (.validateWorkerAction a)).1 = .validated)
    (hsecond : ((after leaseTtl (ops ++ .validateWorkerAction a :: later)).step leaseTtl
      (.validateWorkerAction a')).1 = .validated) :
    strip a'.workerId = strip a.workerId := by
  obtain ⟨k, hk, hprimary, hfence⟩ := (validated_iff _ a).mp hfirst
  obtain ⟨k₂, hk₂, hprimary₂, hfence₂⟩ := (validated_iff _ a').mp hsecond
  -- the token of the first action is the token of the cluster then
  have hbound := handedOut_le sound_empty ops hhanded
  have htokenOf : (after leaseTtl ops).tokenOf (strip a.clusterId) = k.token := by
    unfold tokenOf
    rw [hk]
    rfl
  have hle : a.fenceToken ≤ k.token := by
    rw [← htokenOf]
    exact hbound
  have hgrows := (follows_evaluate leaseTtl a.now a.electionNow k).token
  -- from there the cluster follows to the evaluation of the second action, whose token is the same
  have hsound : ((after leaseTtl ops).step leaseTtl (.validateWorkerAction a)).2.Sound :=
    (step_spec (sound_after leaseTtl ops) _).1
  obtain ⟨k₂', hk₂', hfollows⟩ := follows_exec leaseTtl hsound later _ _ (get?_step_validate hk)
  have hsame : k₂' = k₂ := by
    rw [after_append, hcluster] at hk₂
    exact Option.some.inj (hk₂'.symm.trans hk₂)
  subst hsame
  have hstays := hfollows.trans (follows_evaluate leaseTtl a'.now a'.electionNow k₂')
  have htokens := hstays.token
  have hprimary' := hstays.primary (by omega) _ hprimary
  rw [hprimary₂] at hprimary'
  exact Option.some.inj hprimary'

end HaManager

/-- **Worker high availability.**  In every run, who has the role `PRIMARY` in a cluster is its recorded primary, and
no other worker has it; the fence token never falls and is larger whenever another worker is recorded; and two
actions that pass with the same token, handed out before, are of the same worker. -/
theorem worker_ha_single_primary (leaseTtl : ℚ) : (∀ ops c k, (HaManager.after leaseTtl ops).get? c = some k →
      ∀ w m, k.members.get? w = some m → m.role = .primary → k.activePrimary = some w ∧
        ∀ w' m', k.members.get? w' = some m' → m'.role = .primary → w' = w) ∧
    (∀ ops later c k k', (HaManager.after leaseTtl ops).get? c = some k →
      (HaManager.after leaseTtl (ops ++ later)).get? c = some k' →
      k.token ≤ k'.token ∧
        ∀ a b, k.activePrimary = some a → k'.activePrimary = some b → a ≠ b → k.token < k'.token) ∧
    (∀ ops later (a a' : WorkerAction), strip a'.clusterId = strip a.clusterId →
      a'.fenceToken = a.fenceToken →
      (strip a.clusterId, a.fenceToken) ∈ HaManager.handedOut leaseTtl .empty ops →
      ((HaManager.after leaseTtl ops).step leaseTtl (.validateWorkerAction a)).1 = .validated →
      ((HaManager.after leaseTtl (ops ++ .validateWorkerAction a :: later)).step leaseTtl
        (.validateWorkerAction a')).1 = .validated →
      strip a'.workerId = strip a.workerId) := by
  refine ⟨fun ops c k hk w m hm hprimary => ?_, fun ops later c k k' hk hk' => ?_, HaManager.same_worker leaseTtl⟩
  · have hsound := HaManager.sound_after leaseTtl ops c k hk
    have hrecorded := (hsound.recorded w m hm hprimary).1
    refine ⟨hrecorded, fun w' m' hm' hprimary' => ?_⟩
    have hrecorded' := (hsound.recorded w' m' hm' hprimary').1
    exact Option.some.inj (hrecorded'.symm.trans hrecorded)
  · obtain ⟨k₁, hk₁, hfollows⟩ := HaManager.follows_after leaseTtl ops later c k hk
    rw [hk'] at hk₁
    cases hk₁
    exact ⟨hfollows.token, fun a b ha hb hne => hfollows.lt ha hb hne⟩

end ComputeMesh.Orchestrator
