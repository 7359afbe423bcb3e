import ComputeMesh.Platform.WorkflowRounds

/-!
# What a workflow run ends in

A new workflow is executed by one process that does not crash, with any runner, any number of workers and any order of
the steps of its threads.

* `progress_le` and `exists_enabled` — the call always goes on, and only for so many steps;
* `EndsAsDetermined` — every node completed, failed or blocked as its dependencies and its attempts say;
* `Determined` — the engine records the attempts that decide, and every failure is passed on in the rounds that are left;
* `execute_outcome_iff` — **exactly when every run ends as the runner determines**;
* `chain_left_pending` — the second node behind a failure stays pending when nothing else is left to run.
-/

namespace ComputeMesh.Platform.Workflow

open Execution List SoloRun

variable {nodes : List WorkflowNode} {outcome : WorkflowNode → ℕ → AttemptOutcome}

namespace SoloRun

/-! ### The call ends -/

/-- How many steps a thread of the pool has left, at most. -/
def runWork : NodeRun → ℕ
  | .queued => 61
  | .claiming k => 3 * (20 - k) + 1
  | .claimed _ k => 3 * (20 - k) + 3
  | .running _ k => 3 * (20 - k) + 2
  | .ended _ => 0
  | .raised => 0

def threadWork (t : NodeThread) : ℤ := runWork t.run

/-- How many steps are left in the round, at most, for `n` nodes. -/
def phaseWork (n : ℕ) : Phase → ℤ
  | .entered => 2 * n + (61 * n + 2) + 5
  | .scanning => 2 * n + (61 * n + 2) + 4
  | .blocking _ todo => todo.length + n + (61 * n + 2) + 3
  | .expiring _ todo => todo.length + (61 * n + 2) + 2
  | .pool threads => threads.sumBy threadWork + 2
  | .closing => 1
  | .returned _ => 0
  | .raised => 0

/-- How many steps the call has left, at most. -/
def work (n : ℕ) (s : SoloRun) : ℤ :=
  (n + 1 - s.round : ℕ) * (2 * n + (61 * n + 2) + 5 : ℤ) + phaseWork n s.execution.phase

/-- How many of the moves are steps of the call. -/
def progress (outcome : WorkflowNode → ℕ → AttemptOutcome) : SoloRun → List Move → ℕ
  | _, [] => 0
  | s, move :: moves =>
    (s.execution.enabled outcome s.rows move).toNat + progress outcome (s.step outcome move) moves

theorem threadWork_nonneg (t : NodeThread) : 0 ≤ threadWork t := Int.natCast_nonneg _

theorem phaseWork_nonneg (n : ℕ) (phase : Phase) : 0 ≤ phaseWork n phase := by
  cases phase with
  | pool threads =>
    have hsum : 0 ≤ threads.sumBy threadWork := Dict.sumBy_nonneg fun t _ => threadWork_nonneg t
    show 0 ≤ threads.sumBy threadWork + 2
    omega
  | entered | scanning | blocking snapshot todo | expiring snapshot todo | closing => simp only [phaseWork]; omega
  | returned final | raised => exact le_refl 0

theorem work_nonneg (n : ℕ) (s : SoloRun) : 0 ≤ work n s := by
  refine Int.add_nonneg (Int.mul_nonneg (Int.natCast_nonneg _) ?_) (phaseWork_nonneg n _)
  omega

theorem sumBy_submit_le (ready : List WorkflowNode) (threads : Dict String NodeThread) :
    (ready.foldl (fun threads node => threads.set node.nodeId ⟨node, .queued⟩) threads).sumBy threadWork
      ≤ threads.sumBy threadWork + 61 * ready.length := by
  induction ready generalizing threads with
  | nil => simp
  | cons node ready ih =>
    have hrest := ih (threads.set node.nodeId ⟨node, .queued⟩)
    have hset := threads.sumBy_set threadWork node.nodeId ⟨node, .queued⟩
    have hold : 0 ≤ ((threads.get? node.nodeId).map threadWork).getD 0 := by
      cases threads.get? node.nodeId with
      | none => exact le_refl 0
      | some t => exact threadWork_nonneg t
    have hnew : threadWork ⟨node, .queued⟩ = 61 := rfl
    rw [foldl_cons, length_cons]
    push_cast
    omega

variable {s : SoloRun}

/-- Within a round, what a step of the call takes off the work of its phase it takes off the whole. -/
theorem work_lt_of_phase {n : ℕ} {s' : SoloRun} (hround : s'.round = s.round)
    (hphase : phaseWork n s'.execution.phase < phaseWork n s.execution.phase) : work n s' < work n s := by
  rw [work, work, hround]
  omega

/-- **A step of the main thread** is one less. -/
theorem mainStep_work (hdag : ValidDag nodes) (h : Sound nodes outcome s) {check reading : ℚ}
    (henabled : s.execution.enabled outcome s.rows (.main check reading) = true) :
    work nodes.length (s.step outcome (.main check reading)) < work nodes.length s := by
  obtain ⟨hnodes, hphase⟩ := h
  generalize hp : s.execution.phase = phase at hphase
  subst hnodes
  -- in all phases but the joining of a pool the round stays
  have hless : ∀ rows phase', s.step outcome (.main check reading) = ⟨rows, s.execution.withPhase phase', s.round⟩ →
      phaseWork s.execution.nodes.length phase' < phaseWork s.execution.nodes.length phase →
      work s.execution.nodes.length (s.step outcome (.main check reading)) < work s.execution.nodes.length s := by
    intro rows phase' hstep hlt
    rw [hstep]
    exact work_lt_of_phase rfl (by rwa [hp])
  cases phase with
  | entered | scanning =>
    refine hless _ _ (by simp only [step, Execution.step, Execution.mainStep, hp]; rfl) ?_
    simp only [phaseWork]
    omega
  | blocking snapshot todo =>
    cases todo with
    | nil =>
      refine hless _ _ (by simp only [step, Execution.step, Execution.mainStep, hp]; rfl) ?_
      simp only [phaseWork, length_nil]
      omega
    | cons node todo =>
      obtain ⟨row, hget, -⟩ := hphase.2.1 node (hphase.2.2.1.subset mem_cons_self)
      refine hless _ _ (by simp only [step, Execution.step, Execution.mainStep, hp, hget]; rfl) ?_
      simp only [phaseWork, length_cons]
      omega
  | expiring snapshot todo =>
    cases todo with
    | nil =>
      refine hless _ _ (by
        simp only [step, Execution.step, Execution.mainStep, hp, contains_all hphase.2.2.2, if_true]
        rfl) ?_
      split
      · simp only [phaseWork, length_nil]
        omega
      · have hsubmit := sumBy_submit_le (s.execution.nodes.filter (isReady s.rows)) Dict.empty
        have hempty : (Dict.empty : Dict String NodeThread).sumBy threadWork = 0 := rfl
        have hlength := length_filter_le (isReady s.rows) s.execution.nodes
        simp only [phaseWork, submit, length_nil]
        omega
    | cons node todo =>
      obtain ⟨row, hget, -⟩ := hphase.2.1 node (hphase.2.2.1 mem_cons_self)
      refine hless _ _ (by simp only [step, Execution.step, Execution.mainStep, hp, hget]; rfl) ?_
      simp only [phaseWork, length_cons]
      omega
  | pool threads =>
    have hdone : (threads.values.all fun t => t.run.finished) = true := by
      simpa only [enabled, hp] using henabled
    obtain ⟨node, hmem, -, hlevel⟩ := hphase.2.nonempty
    have hle := level_le hdag hmem
    have hsum : 0 ≤ threads.sumBy threadWork := Dict.sumBy_nonneg fun t _ => threadWork_nonneg t
    have hstep : s.step outcome (.main check reading) =
        ⟨s.rows, s.execution.withPhase (Execution.joined threads),
          roundAfter s.round (.pool threads) (Execution.joined threads)⟩ := by
      simp only [step, Execution.step, Execution.mainStep, hp, hdone, if_true]
      rfl
    rw [hstep]
    unfold Execution.joined
    split
    · refine work_lt_of_phase rfl ?_
      simp only [hp, phase_withPhase, phaseWork]
      omega
    · split
      · have hround : s.execution.nodes.length + 1 - s.round = s.execution.nodes.length + 1 - (s.round + 1) + 1 := by omega
        simp only [work, hp, phase_withPhase, phaseWork, roundAfter]
        rw [hround]
        generalize s.execution.nodes.length + 1 - (s.round + 1) = left
        rw [Int.natCast_add, Int.add_mul, Int.natCast_one, Int.one_mul]
        omega
      · refine work_lt_of_phase rfl ?_
        simp only [hp, phase_withPhase, phaseWork]
        omega
  | closing =>
    refine hless _ _ (by
      simp only [step, Execution.step, Execution.mainStep, hp, contains_all hphase.2.1, if_true]
      rfl) ?_
    simp only [phaseWork]
    omega
  | returned final | raised => simp only [enabled, hp] at henabled; cases henabled

variable {nodeId : String} {move : Move}

/-- **A step of a thread** is one less. -/
theorem threadStep_work (hdag : ValidDag nodes) {q : ℕ} {rows : NodeTable} {e : Execution}
    {threads : Dict String NodeThread} {t : NodeThread} {r : NodeTable × NodeRun}
    (h : PoolInv nodes outcome q rows threads) (hget : threads.get? nodeId = some t)
    (hstep : Execution.threadStep outcome rows e threads t move = some r) : runWork r.2 < runWork t.run := by
  obtain ⟨hmem, rfl, -, -, row, hrowGet, hinv⟩ := h.thread nodeId t hget
  have hmax := (hdag.attempts t.node hmem).2
  have hclaims : ∀ leaseId leaseSeconds reading, runWork (.claimed leaseId (row.attempts + 1)) < runWork t.run →
      0 < runWork t.run → runWork (claimThread rows t.node leaseId leaseSeconds reading).2 < runWork t.run := by
    intro leaseId leaseSeconds reading hclaimed hpos
    unfold claimThread
    split
    · exact hpos
    · rename_i attempts rows' hclaim
      obtain ⟨row', hget', -, -, rfl, -⟩ := NodeTable.claimNode_eq_some hclaim
      obtain rfl := Option.some.inj (hrowGet.symm.trans hget')
      exact hclaimed
  unfold threadStep at hstep
  cases hrun : t.run with
  | queued =>
    rw [hrun] at hstep hinv hclaims
    cases move with
    | claim id leaseId reading =>
      dsimp only at hstep
      split at hstep
      · obtain rfl := Option.some.inj hstep
        have hzero : row.attempts = 0 := hinv.2
        refine hclaims leaseId e.leaseSeconds reading ?_ ?_
        · simp only [runWork, hzero]
          omega
        · simp only [runWork]
          omega
      · cases hstep
    | main | start | finish | heartbeat => cases hstep
  | claiming k =>
    rw [hrun] at hstep hinv hclaims
    cases move with
    | claim id leaseId reading =>
      obtain rfl := Option.some.inj hstep
      obtain ⟨-, hk, -, hleft, -⟩ := hinv
      refine hclaims leaseId e.leaseSeconds reading ?_ ?_
      · simp only [runWork, hk]
        omega
      · simp only [runWork]
        omega
    | main | start | finish | heartbeat => cases hstep
  | claimed leaseId k =>
    rw [hrun] at hstep
    cases move with
    | start id =>
      obtain rfl := Option.some.inj hstep
      simp only [runWork]
      omega
    | claim | main | finish | heartbeat => cases hstep
  | running leaseId k =>
    rw [hrun] at hstep
    cases move with
    | finish id reading =>
      obtain rfl := Option.some.inj hstep
      have hwork : ∀ rows' run, finishThread rows t.node leaseId k (outcome t.node k) reading = (rows', run) →
          runWork run ≤ runWork (.claiming k) := by
        intro rows' run hfinish
        unfold finishThread at hfinish
        split at hfinish
        · split at hfinish <;> · obtain ⟨-, rfl⟩ := Prod.mk.inj hfinish; exact Nat.zero_le _
        · obtain ⟨-, rfl⟩ := Prod.mk.inj hfinish
          exact Nat.zero_le _
        · split at hfinish
          · split at hfinish
            · obtain ⟨-, rfl⟩ := Prod.mk.inj hfinish
              exact le_refl _
            · obtain ⟨-, rfl⟩ := Prod.mk.inj hfinish
              exact Nat.zero_le _
          · split at hfinish <;> · obtain ⟨-, rfl⟩ := Prod.mk.inj hfinish; exact Nat.zero_le _
        · obtain ⟨-, rfl⟩ := Prod.mk.inj hfinish
          exact Nat.zero_le _
      refine Nat.lt_of_le_of_lt (hwork _ _ rfl) ?_
      simp only [runWork]
      omega
    | claim | main | start | heartbeat => cases hstep
  | ended claimed | raised =>
    rw [hrun] at hstep
    cases move <;> cases hstep

theorem poolStep_work (hdag : ValidDag nodes) (h : Sound nodes outcome s)
    (henabled : Execution.enabled.threadEnabled outcome s.rows s.execution nodeId move = true) :
    let after := s.execution.poolStep outcome s.rows nodeId move
    work nodes.length ⟨after.1, after.2, roundAfter s.round s.execution.phase after.2.phase⟩ < work nodes.length s := by
  obtain ⟨hnodes, hphase⟩ := h
  unfold enabled.threadEnabled at henabled
  intro after
  unfold after poolStep
  cases hp : s.execution.phase with
  | pool threads =>
    rw [hp] at henabled hphase
    obtain ⟨t, hget⟩ : ∃ t, threads.get? nodeId = some t := by
      cases hget : threads.get? nodeId with
      | none => simp only [hget] at henabled; cases henabled
      | some t => exact ⟨t, rfl⟩
    simp only [hget, Option.any_some] at henabled
    obtain ⟨r, hstep⟩ := Option.isSome_iff_exists.mp henabled
    have hless := threadStep_work hdag hphase.2 hget hstep
    have hsum := threads.sumBy_set threadWork nodeId { t with run := r.2 }
    rw [hget] at hsum
    have hnew : threadWork { t with run := r.2 } = (runWork r.2 : ℤ) := rfl
    have hold : ((some t).map threadWork).getD 0 = (runWork t.run : ℤ) := rfl
    refine work_lt_of_phase ?_ ?_
    · simp only [hget, hstep]
      rfl
    · simp only [hp, hget, hstep, phase_withPhase, phaseWork]
      omega
  | entered | scanning | blocking | expiring | closing | returned | raised => rw [hp] at henabled; cases henabled

/-- **A step of the call** is one less. -/
theorem step_work (hdag : ValidDag nodes) (h : Sound nodes outcome s)
    (henabled : s.execution.enabled outcome s.rows move = true) :
    work nodes.length (s.step outcome move) < work nodes.length s := by
  cases move with
  | main check reading => exact mainStep_work hdag h henabled
  | claim nodeId leaseId reading | start nodeId | finish nodeId reading => exact poolStep_work hdag h henabled
  | heartbeat nodeId leaseId reading => cases henabled

theorem roundAfter_self (round : ℕ) (phase : Phase) : roundAfter round phase phase = round := by
  cases phase <;> rfl

theorem poolStep_of_not_enabled (h : Execution.enabled.threadEnabled outcome s.rows s.execution nodeId move = false) :
    s.execution.poolStep outcome s.rows nodeId move = (s.rows, s.execution) := by
  unfold enabled.threadEnabled at h
  unfold poolStep
  cases hp : s.execution.phase with
  | pool threads =>
    simp only [hp] at h ⊢
    cases hget : threads.get? nodeId with
    | none => rfl
    | some t =>
      simp only [hget, Option.any_some] at h ⊢
      cases hstep : threadStep outcome s.rows s.execution threads t move with
      | none => rfl
      | some r => rw [hstep] at h; cases h
  | entered | scanning | blocking | expiring | closing | returned | raised => rfl

theorem execution_of_not_enabled (h : s.execution.enabled outcome s.rows move = false) :
    (s.execution.step outcome s.rows move).2 = s.execution := by
  cases move with
  | main check reading =>
    rw [Execution.step, Execution.mainStep]
    cases hp : s.execution.phase with
    | pool threads =>
      simp only [enabled, hp] at h
      simp only [h]
      rfl
    | returned final => rfl
    | raised => rfl
    | entered | scanning | blocking | expiring | closing => simp only [enabled, hp] at h; cases h
  | claim nodeId leaseId reading | start nodeId
  | finish nodeId reading => exact congrArg Prod.snd (poolStep_of_not_enabled h)
  | heartbeat nodeId leaseId reading => rfl

/-- **The call takes no more steps than its work.** -/
theorem progress_le (hdag : ValidDag nodes) (h : Sound nodes outcome s) (moves : List Move) :
    (progress outcome s moves : ℤ) ≤ work nodes.length s := by
  induction moves generalizing s with
  | nil => exact work_nonneg _ s
  | cons move moves ih =>
    have hrest := ih (h.step hdag move)
    rw [progress]
    cases henabled : s.execution.enabled outcome s.rows move with
    | true =>
      have hless := step_work hdag h henabled
      simp only [Bool.toNat_true]
      push_cast
      omega
    | false =>
      have hexecution := execution_of_not_enabled henabled
      have hsame : work nodes.length (s.step outcome move) = work nodes.length s := by
        simp only [step, work, hexecution, roundAfter_self]
      simp only [Bool.toNat_false]
      push_cast
      omega

/-- **A call that is not done goes on.** -/
theorem exists_enabled {s : SoloRun} (h : s.execution.finished = false) :
    ∃ move, s.execution.enabled outcome s.rows move = true := by
  cases hp : s.execution.phase with
  | pool threads =>
    by_cases hdone : threads.values.all fun t => t.run.finished
    · exact ⟨.main 0 0, by simpa only [enabled, hp] using hdone⟩
    · have hthread : ∀ nodeId t move, threads.get? nodeId = some t →
          (threadStep outcome s.rows s.execution threads t move).isSome = true →
          enabled.threadEnabled outcome s.rows s.execution nodeId move = true := by
        intro nodeId t move hget hsome
        simp only [enabled.threadEnabled, hp, hget, Option.any_some, hsome]
      -- a thread that is at work can take its step
      have hactive : ∀ t ∈ threads.values, t.run.active = true → ∃ move, s.execution.enabled outcome s.rows move = true := by
        intro t hmem hrun
        obtain ⟨nodeId, hget⟩ := (threads.mem_values_iff t).mp hmem
        cases hcase : t.run with
        | claiming k =>
          exact ⟨.claim nodeId "" 0, hthread nodeId t _ hget (by simp only [threadStep, hcase]; rfl)⟩
        | claimed leaseId k =>
          exact ⟨.start nodeId, hthread nodeId t _ hget (by simp only [threadStep, hcase]; rfl)⟩
        | running leaseId k =>
          exact ⟨.finish nodeId 0, hthread nodeId t _ hget (by simp only [threadStep, hcase]; rfl)⟩
        | queued | ended | raised => rw [hcase] at hrun; cases hrun
      by_cases hnone : threads.values.filter (fun t => t.run.active) = []
      · obtain ⟨t, hmem, hopen⟩ : ∃ t ∈ threads.values, t.run.finished = false := by
          simpa [all_eq_true] using hdone
        obtain ⟨nodeId, hget⟩ := (threads.mem_values_iff t).mp hmem
        have hidle : t.run.active = false := by
          have hnot := filter_eq_nil_iff.mp hnone t hmem
          simpa using hnot
        have hqueued : t.run = .queued := by
          cases hcase : t.run with
          | queued => rfl
          | claiming | claimed | running => rw [hcase] at hidle; cases hidle
          | ended | raised => rw [hcase] at hopen; cases hopen
        have hroom : atWork threads < s.execution.workers := by
          rw [atWork, hnone]
          exact s.execution.someWorker
        refine ⟨.claim nodeId "" 0, hthread nodeId t _ hget ?_⟩
        simp only [threadStep, hqueued, if_pos hroom]
        rfl
      · obtain ⟨t, hmem⟩ := exists_mem_of_ne_nil _ hnone
        obtain ⟨hin, hrun⟩ := mem_filter.mp hmem
        exact hactive t hin hrun
  | entered | scanning | blocking | expiring | closing => exact ⟨.main 0 0, by simp only [enabled, hp]⟩
  | returned | raised => simp only [finished, hp] at h; cases h

theorem exists_finished (hdag : ValidDag nodes) (h : Sound nodes outcome s) :
    ∃ moves, (Run.exec (SoloRun.step outcome) s moves).execution.finished = true := by
  generalize hn : (work nodes.length s).toNat = n
  induction n using Nat.strong_induction_on generalizing s with
  | _ n ih =>
    cases hdone : s.execution.finished with
    | true => exact ⟨[], hdone⟩
    | false =>
      obtain ⟨move, henabled⟩ := (@exists_enabled outcome) hdone
      have hless := step_work hdag h henabled
      have hnonneg := work_nonneg nodes.length (s.step outcome move)
      obtain ⟨moves, hmoves⟩ := ih (work nodes.length (s.step outcome move)).toNat (by omega) (h.step hdag move) rfl
      exact ⟨move :: moves, hmoves⟩

end SoloRun

/-! ### What the run should end in -/

/-- Every node is completed, failed or blocked as its dependencies and its attempts say. -/
structure EndsAsDetermined (nodes : List WorkflowNode) (outcome : WorkflowNode → ℕ → AttemptOutcome) (final : NodeTable) :
    Prop where
  completed : ∀ node ∈ nodes, (∀ d ∈ node.dependencies, statusOf final d = some .completed) → Succeeds outcome node →
    statusOf final node.nodeId = some .completed
  failed : ∀ node ∈ nodes, (∀ d ∈ node.dependencies, statusOf final d = some .completed) → ¬Succeeds outcome node →
    statusOf final node.nodeId = some .failed
  blocked : ∀ node ∈ nodes, ∀ f k, 1 ≤ k → Digraph.Upstream (dependenciesOf nodes) f k node.nodeId →
    statusOf final f = some .failed → statusOf final node.nodeId = some .blocked
  settled : ∀ node ∈ nodes, statusOf final node.nodeId ∈ [some .completed, some .failed, some .blocked]

/-- A run of the call ends, in the state that the runner determines, and in the same one whatever the order. -/
structure RunsAsDetermined (e : Execution) (outcome : WorkflowNode → ℕ → AttemptOutcome) : Prop where
  bounded : ∃ bound, ∀ moves, SoloRun.progress outcome (.start e) moves ≤ bound
  goesOn : ∀ moves, let s := Run.exec (SoloRun.step outcome) (.start e) moves
    s.execution.finished = false → ∃ move, s.execution.enabled outcome s.rows move = true
  ends : ∀ moves, let s := Run.exec (SoloRun.step outcome) (.start e) moves
    s.execution.finished = true → ∃ final, s.execution.phase = .returned final ∧ EndsAsDetermined e.nodes outcome final
  alike : ∀ moves moves' final final',
    (Run.exec (SoloRun.step outcome) (.start e) moves).execution.phase = .returned final →
    (Run.exec (SoloRun.step outcome) (.start e) moves').execution.phase = .returned final' →
    ∀ node ∈ e.nodes, statusOf final node.nodeId = statusOf final' node.nodeId

/-- The condition: the engine records every attempt up to the first that succeeds, and from every node that a failure is
upstream of, `k` dependencies lead to a failed node whose level is at most `k - 1` below that of some node that runs. -/
structure Determined (nodes : List WorkflowNode) (outcome : WorkflowNode → ℕ → AttemptOutcome) : Prop where
  settles : ∀ node ∈ nodes, (∀ d ∈ node.dependencies, Completes nodes outcome d) → Settles outcome node
  reached : ∀ node ∈ nodes,
    (∃ f k, Fails nodes outcome f ∧ 1 ≤ k ∧ Digraph.Upstream (dependenciesOf nodes) f k node.nodeId) →
    ∃ f k m, Fails nodes outcome f ∧ 1 ≤ k ∧ Digraph.Upstream (dependenciesOf nodes) f k node.nodeId ∧
      Runs nodes outcome m ∧ levelOf nodes f + k ≤ levelOf nodes m + 1

section Final

variable {q : ℕ} {final : NodeTable} {node : WorkflowNode} (hdag : ValidDag nodes)

include hdag

theorem level_pos_of_fails {f : String} (h : Fails nodes outcome f) : 1 ≤ levelOf nodes f := by
  obtain ⟨node, hmem, rfl, -⟩ := h
  exact level_pos hdag hmem

theorem exists_failure_upstream (hmem : node ∈ nodes) (hnot : ¬Runs nodes outcome node.nodeId) :
    ∃ f k, Fails nodes outcome f ∧ 1 ≤ k ∧ Digraph.Upstream (dependenciesOf nodes) f k node.nodeId := by
  generalize hn : levelOf nodes node.nodeId = n
  induction n using Nat.strong_induction_on generalizing node with
  | _ n ih =>
    rw [runs_iff hdag hmem] at hnot
    push Not at hnot
    obtain ⟨d, hd, hdnot⟩ := hnot
    obtain ⟨dep, hdmem, rfl⟩ := hdag.known node hmem d hd
    by_cases hruns : Runs nodes outcome dep.nodeId
    · have hfails : Fails nodes outcome dep.nodeId :=
        (fails_iff hdag hdmem).mpr ⟨hruns, fun hs => hdnot ((completes_iff hdag hdmem).mpr ⟨hruns, hs⟩)⟩
      exact ⟨dep.nodeId, 1, hfails, le_refl 1, upstream_of_dep hdag hmem hd .refl⟩
    · have hlt := level_dep_lt hdag hmem hd
      obtain ⟨f, k, hf, hk, hup⟩ := ih _ (hn ▸ hlt) hdmem hruns rfl
      exact ⟨f, k + 1, hf, by omega, upstream_of_dep hdag hmem hd hup⟩

/-- **The rows of a returned call**, when every failure has been passed on in time. -/
theorem status_of_reached (hfinal : TableAsOf nodes outcome q (q + 1) final) (hall : AllRun nodes outcome q)
    (hreached : (Determined nodes outcome)) (hmem : node ∈ nodes) :
    (Completes nodes outcome node.nodeId → statusOf final node.nodeId = some .completed) ∧
      (Fails nodes outcome node.nodeId → statusOf final node.nodeId = some .failed) ∧
      (¬Runs nodes outcome node.nodeId → statusOf final node.nodeId = some .blocked) := by
  obtain ⟨row, hget, hrow⟩ := hfinal node hmem
  rw [statusOf, hget, Option.map_some]
  refine ⟨fun hc => ?_, fun hf => ?_, fun hnot => ?_⟩
  · rw [hrow.completed hc (hall node hmem ((completes_iff hdag hmem).mp hc).1)]
  · rw [hrow.failed hf (hall node hmem ((fails_iff hdag hmem).mp hf).1)]
  · obtain ⟨f, k, m, hf, hk, hup, hm, hround⟩ := hreached.reached node hmem (exists_failure_upstream hdag hmem hnot)
    obtain ⟨last, hlast, rfl, hdeps⟩ := hm
    have hle := hall last hlast ((runs_iff hdag hlast).mpr hdeps)
    rw [hrow.blocked ⟨f, k, hf, hk, hup, by omega⟩]

theorem completes_of_status (hfinal : TableAsOf nodes outcome q (q + 1) final) (hmem : node ∈ nodes)
    (hstatus : statusOf final node.nodeId = some .completed) : Completes nodes outcome node.nodeId := by
  obtain ⟨row, hget, hrow⟩ := hfinal node hmem
  rw [statusOf, hget, Option.map_some] at hstatus
  exact ((hrow.status_eq_completed hdag hmem).mp (Option.some.inj hstatus)).1

theorem runs_of_status (hfinal : TableAsOf nodes outcome q (q + 1) final) (hmem : node ∈ nodes)
    (hdeps : ∀ d ∈ node.dependencies, statusOf final d = some .completed) : Runs nodes outcome node.nodeId := by
  refine (runs_iff hdag hmem).mpr fun d hd => ?_
  obtain ⟨dep, hdmem, rfl⟩ := hdag.known node hmem d hd
  exact completes_of_status hdag hfinal hdmem (hdeps dep.nodeId hd)

theorem mem_of_upstream {f : String} {k : ℕ} (hup : Digraph.Upstream (dependenciesOf nodes) f k node.nodeId)
    (hmem : node ∈ nodes) : ∃ failed ∈ nodes, failed.nodeId = f := by
  generalize hid : node.nodeId = nodeId at hup
  induction hup generalizing node with
  | refl => exact ⟨node, hmem, hid⟩
  | step hdep _ ih =>
    rw [← hid, dependenciesOf_of_mem hdag.unique hmem] at hdep
    obtain ⟨dep, hdmem, heq⟩ := hdag.known node hmem _ hdep
    exact ih hdmem heq

theorem endsAsDetermined (hfinal : TableAsOf nodes outcome q (q + 1) final) (hall : AllRun nodes outcome q)
    (h : Determined nodes outcome) : EndsAsDetermined nodes outcome final := by
  refine ⟨fun node hmem hdeps hs => ?_, fun node hmem hdeps hs => ?_, fun node hmem f k hk hup hstatus => ?_,
    fun node hmem => ?_⟩
  · have hruns := runs_of_status hdag hfinal hmem hdeps
    exact (status_of_reached hdag hfinal hall h hmem).1 ((completes_iff hdag hmem).mpr ⟨hruns, hs⟩)
  · have hruns := runs_of_status hdag hfinal hmem hdeps
    exact (status_of_reached hdag hfinal hall h hmem).2.1 ((fails_iff hdag hmem).mpr ⟨hruns, hs⟩)
  · obtain ⟨failed, hfmem, rfl⟩ := mem_of_upstream hdag hup hmem
    have hf : Fails nodes outcome failed.nodeId := by
      obtain ⟨row, hget, hrow⟩ := hfinal failed hfmem
      rw [statusOf, hget, Option.map_some] at hstatus
      exact ((hrow.status_eq_failed hdag hfmem).mp (Option.some.inj hstatus)).1
    have hnot : ¬Runs nodes outcome node.nodeId := fun hruns =>
      not_blockedBy_of_runs hdag hruns ⟨failed.nodeId, k, hf, hk, hup, le_refl _⟩
    exact (status_of_reached hdag hfinal hall h hmem).2.2 hnot
  · obtain ⟨hc, hf, hb⟩ := status_of_reached hdag hfinal hall h hmem
    by_cases hruns : Runs nodes outcome node.nodeId
    · by_cases hs : Succeeds outcome node
      · rw [hc ((completes_iff hdag hmem).mpr ⟨hruns, hs⟩)]
        exact mem_cons_self
      · rw [hf ((fails_iff hdag hmem).mpr ⟨hruns, hs⟩)]
        exact mem_cons_of_mem _ mem_cons_self
    · rw [hb hruns]
      exact mem_cons_of_mem _ (mem_cons_of_mem _ mem_cons_self)

theorem determined_of_ends (hrecorded : Recorded nodes outcome q) (hfinal : TableAsOf nodes outcome q (q + 1) final)
    (hall : AllRun nodes outcome q) (h : EndsAsDetermined nodes outcome final) : Determined nodes outcome := by
  refine ⟨fun node hmem hdeps => ?_, fun node hmem hfailure => ?_⟩
  · have hruns := (runs_iff hdag hmem).mpr hdeps
    exact hrecorded.settled node hmem hruns (hall node hmem hruns)
  · obtain ⟨f, k, hf, hk, hup⟩ := hfailure
    obtain ⟨failed, hfmem, rfl⟩ := mem_of_upstream hdag hup hmem
    have hfailed : statusOf final failed.nodeId = some .failed := by
      obtain ⟨row, hget, hrow⟩ := hfinal failed hfmem
      rw [statusOf, hget, Option.map_some, hrow.failed hf (hall failed hfmem ((fails_iff hdag hfmem).mp hf).1)]
    have hstatus := h.blocked node hmem failed.nodeId k hk hup hfailed
    obtain ⟨row, hget, hrow⟩ := hfinal node hmem
    rw [statusOf, hget, Option.map_some] at hstatus
    obtain ⟨f', k', hf', hk', hup', hround⟩ := (hrow.status_eq_blocked hdag hmem).mp (Option.some.inj hstatus)
    have hlevel := level_pos_of_fails hdag hf'
    rcases hrecorded.top with rfl | ⟨last, hlast, hruns, hq⟩
    · omega
    · exact ⟨f', k', last.nodeId, hf', hk', hup', hruns, by omega⟩

end Final

/-- **Exactly when every run of a call ends as its runner determines.** -/
theorem execute_outcome_iff {Result : Type} (runner : NodeRunner Result) (e : Execution) :
    RunsAsDetermined e runner.attempt ↔ Determined e.nodes runner.attempt := by
  have hdag := validDag_of_validateDag e.valid
  constructor
  · intro h
    obtain ⟨moves, hdone⟩ := exists_finished hdag ((@SoloRun.Sound.start runner.attempt) e)
    obtain ⟨final, hphase, hends⟩ := h.ends moves hdone
    have hsound := ((@SoloRun.Sound.run runner.attempt) e moves).phase
    rw [hphase] at hsound
    exact determined_of_ends hdag hsound.1 hsound.2.1 hsound.2.2 hends
  · intro h
    refine ⟨⟨(work e.nodes.length (.start e)).toNat, fun moves => ?_⟩, fun moves => exists_enabled,
      fun moves hdone => ?_, fun moves moves' final final' hphase hphase' node hmem => ?_⟩
    · have hle := progress_le hdag ((@SoloRun.Sound.start runner.attempt) e) moves
      omega
    · have hsound := ((@SoloRun.Sound.run runner.attempt) e moves).phase
      cases hp : (Run.exec (step runner.attempt) (.start e) moves).execution.phase with
      | returned final =>
        rw [hp] at hsound
        exact ⟨final, rfl, endsAsDetermined hdag hsound.2.1 hsound.2.2 h⟩
      | raised =>
        rw [hp] at hsound
        obtain ⟨node, hmem, hruns, hnot⟩ := hsound
        exact absurd (h.settles node hmem ((runs_iff hdag hmem).mp hruns)) hnot
      | entered | scanning | blocking | expiring | pool
      | closing => simp only [finished, hp] at hdone; cases hdone
    · have hsound := ((@SoloRun.Sound.run runner.attempt) e moves).phase
      have hsound' := ((@SoloRun.Sound.run runner.attempt) e moves').phase
      rw [hphase] at hsound
      rw [hphase'] at hsound'
      obtain ⟨hc, hf, hb⟩ := status_of_reached hdag hsound.2.1 hsound.2.2 h hmem
      obtain ⟨hc', hf', hb'⟩ := status_of_reached hdag hsound'.2.1 hsound'.2.2 h hmem
      by_cases hruns : Runs e.nodes runner.attempt node.nodeId
      · by_cases hs : Succeeds runner.attempt node
        · have hcompletes := (completes_iff hdag hmem).mpr ⟨hruns, hs⟩
          rw [hc hcompletes, hc' hcompletes]
        · have hfails := (fails_iff hdag hmem).mpr ⟨hruns, hs⟩
          rw [hf hfails, hf' hfails]
      · rw [hb hruns, hb' hruns]

def chainNodes : List WorkflowNode :=
  [{ nodeId := "a" }, { nodeId := "b", dependencies := ["a"] }, { nodeId := "c", dependencies := ["b"] }]

theorem chainLease : (15 : ℚ) ≤ 15 := le_refl 15

def chainExecution : Execution where
  nodes := chainNodes
  workers := 1
  leaseSeconds := 15
  phase := .entered
  valid := by rfl
  someWorker := Nat.zero_lt_one
  longLease := chainLease

/-- A runner that raises a `ValueError` whenever it is called. -/
def failingRunner : NodeRunner Unit := ⟨fun _ _ => .error ⟨"boom", true⟩, fun _ => none, fun _ => some "null"⟩

/-- Every step of the run: a round in which the first node fails, and one that passes the failure on to the second. -/
def chainMoves : List Move :=
  List.replicate 10 (.main 0 0) ++ [.claim "a" "lease" 0, .start "a", .finish "a" 0] ++ List.replicate 11 (.main 0 0)

/-- **The second node behind a failure stays pending** when nothing else is left to run: each round passes a failure on by
one dependency, from what it finds at its start, and the rounds end when no node is ready. -/
theorem chain_left_pending :
    (match (Run.exec (SoloRun.step failingRunner.attempt) (.start chainExecution) chainMoves).execution.phase with
      | .returned final => some (chainNodes.map fun node => statusOf final node.nodeId)
      | _ => none) = some [some .failed, some .blocked, some .pending] := by
  decide

end ComputeMesh.Platform.Workflow
