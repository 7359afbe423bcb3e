import ComputeMesh.Platform.WorkflowOutcome

/-!
# The heartbeats of an execution

`run_node` starts a thread that renews the lease of its claim, and stops it when the attempt is over; an exception that it
does not catch leaves the thread running.

* `HeartbeatRun` — a call of `execute` with the heartbeats that it has not stopped, next to other processes;
* `Beating` — every such heartbeat is one of a runner at work;
* `no_node_wedged` — **no heartbeat is left when a call is over** whose attempts end in exceptions that are caught.
-/

namespace ComputeMesh.Platform.Workflow

/-- `live` are the node and the lease of each heartbeat that was not stopped. -/
structure HeartbeatRun where
  rows : NodeTable
  execution : Execution
  live : List (String × String)

/-- A move of the call, or what another process leaves in the database. -/
inductive HeartbeatMove
  | own (move : Move)
  | other (rows : NodeTable)

/-- Where the thread of a node stands, if the pool is running. -/
def threadOf (e : Execution) (nodeId : String) : Option NodeThread :=
  match e.phase with
  | .pool threads => threads.get? nodeId
  | _ => none

namespace HeartbeatRun

/-- The heartbeats after a move: `heartbeat.start()` before the runner, `stop.set()` after it. -/
def beats (outcome : WorkflowNode → ℕ → AttemptOutcome) (s : HeartbeatRun) : Move → List (String × String)
  | .start nodeId =>
    match threadOf s.execution nodeId with
    | some ⟨_, .claimed leaseId _⟩ => (nodeId, leaseId) :: s.live
    | _ => s.live
  | .finish nodeId _ =>
    match threadOf s.execution nodeId with
    | some ⟨node, .running leaseId attempts⟩ =>
      if outcome node attempts = .escaped then s.live else s.live.filter (· ≠ (nodeId, leaseId))
    | _ => s.live
  | .heartbeat nodeId leaseId reading =>
    if (s.rows.heartbeat nodeId leaseId s.execution.leaseSeconds reading).1 then s.live
    else s.live.filter (· ≠ (nodeId, leaseId))
  | _ => s.live

def step (outcome : WorkflowNode → ℕ → AttemptOutcome) (s : HeartbeatRun) : HeartbeatMove → HeartbeatRun
  | .own move =>
    let r := s.execution.step outcome s.rows move
    ⟨r.1, r.2, s.beats outcome move⟩
  | .other rows => { s with rows }

/-- A node is `RUNNING` under a lease that a heartbeat of the call renews. -/
def Wedged (s : HeartbeatRun) : Prop :=
  ∃ b ∈ s.live, ∃ row ∈ s.rows.get? b.1, row.status = .running ∧ row.leaseId = some b.2

instance : DecidablePred Wedged := fun s => inferInstanceAs (Decidable (∃ b ∈ s.live, _))

/-- The attempt that ends with this move ends in an exception that is not caught. -/
def escapes (outcome : WorkflowNode → ℕ → AttemptOutcome) (s : HeartbeatRun) : HeartbeatMove → Bool
  | .own (.finish nodeId _) =>
    match threadOf s.execution nodeId with
    | some ⟨node, .running _ attempts⟩ => decide (outcome node attempts = .escaped)
    | _ => false
  | _ => false

/-- **Every heartbeat is one of a runner at work.** -/
def Beating (s : HeartbeatRun) : Prop :=
  ∀ b ∈ s.live, ∃ node attempts, threadOf s.execution b.1 = some ⟨node, .running b.2 attempts⟩

variable {outcome : WorkflowNode → ℕ → AttemptOutcome} {rows : NodeTable} {e : Execution} {s : HeartbeatRun}
  {nodeId k leaseId : String} {node : WorkflowNode} {attempts : ℕ} {check reading : ℚ} {move : Move}

theorem threadOf_eq_some {t : NodeThread} (h : threadOf e nodeId = some t) :
    ∃ threads, e.phase = .pool threads ∧ threads.get? nodeId = some t := by
  unfold threadOf at h
  split at h
  · exact ⟨_, ‹_›, h⟩
  · cases h

/-- The main thread waits for a runner that is at work. -/
theorem mainStep_of_running (h : threadOf e nodeId = some ⟨node, .running leaseId attempts⟩) :
    (Execution.mainStep rows e check reading).2 = e := by
  obtain ⟨threads, hp, hget⟩ := threadOf_eq_some h
  have hwaits : ¬(threads.values.all fun t => t.run.finished) = true := fun hall =>
    Bool.false_ne_true (List.all_eq_true.mp hall _ (Dict.mem_values_of_get? hget))
  simp only [Execution.mainStep, hp, if_neg hwaits]

/-- A move of the thread of a node leaves the other threads where they are. -/
theorem threadOf_poolStep_of_ne (hne : k ≠ nodeId) :
    threadOf (Execution.poolStep outcome rows e nodeId move).2 k = threadOf e k := by
  unfold Execution.poolStep
  split
  · rename_i threads hp
    split
    · rfl
    · split
      · rfl
      · simp only [threadOf, Execution.phase_withPhase, hp]
        exact Dict.get?_set_of_ne _ hne _
  · rfl

theorem Beating.step {m : HeartbeatMove} (h : Beating s) (hok : s.escapes outcome m = false) : Beating (s.step outcome m) := by
  cases m with
  | other rows => exact h
  | own move =>
    intro b hb
    cases move with
    | main check reading =>
      obtain ⟨node, attempts, hthread⟩ := h b hb
      exact ⟨node, attempts, (congrArg (threadOf · b.1) (mainStep_of_running hthread)).trans hthread⟩
    | heartbeat nodeId leaseId reading =>
      refine h b ?_
      simp only [HeartbeatRun.step, beats] at hb
      split at hb
      · exact hb
      · exact (List.mem_filter.mp hb).1
    | claim nodeId leaseId reading =>
      obtain ⟨node, attempts, hthread⟩ := h b hb
      refine ⟨node, attempts, ?_⟩
      by_cases hk : b.1 = nodeId
      · subst hk
        obtain ⟨threads, hp, hget⟩ := threadOf_eq_some hthread
        simp only [HeartbeatRun.step, Execution.step, Execution.poolStep, hp, hget, Execution.threadStep]
        exact hthread
      · exact (threadOf_poolStep_of_ne hk).trans hthread
    | start nodeId =>
      by_cases hk : b.1 = nodeId
      · subst hk
        simp only [HeartbeatRun.step, beats] at hb ⊢
        split at hb
        · rename_i node leaseId attempts hthread
          obtain ⟨threads, hp, hget⟩ := threadOf_eq_some hthread
          have hlease : b.2 = leaseId := by
            rcases List.mem_cons.mp hb with heq | hb
            · exact congrArg Prod.snd heq
            · obtain ⟨_, _, hrunning⟩ := h b hb
              cases hthread.symm.trans hrunning
          refine ⟨node, attempts, ?_⟩
          simp only [Execution.step, Execution.poolStep, hp, hget, Execution.threadStep, threadOf,
            Execution.phase_withPhase, Dict.get?_set_self, hlease]
        · obtain ⟨node, attempts, hthread⟩ := h b hb
          obtain ⟨threads, hp, hget⟩ := threadOf_eq_some hthread
          refine ⟨node, attempts, ?_⟩
          simp only [Execution.step, Execution.poolStep, hp, hget, Execution.threadStep]
          exact hthread
      · have hb' : b ∈ s.live := by
          simp only [HeartbeatRun.step, beats] at hb
          split at hb
          · exact (List.mem_cons.mp hb).resolve_left fun heq => hk (congrArg Prod.fst heq)
          · exact hb
        obtain ⟨node, attempts, hthread⟩ := h b hb'
        exact ⟨node, attempts, (threadOf_poolStep_of_ne hk).trans hthread⟩
    | finish nodeId reading =>
      have hb' : b ∈ s.live ∧ b.1 ≠ nodeId := by
        simp only [HeartbeatRun.step, beats] at hb
        simp only [escapes] at hok
        split at hb
        · rename_i node leaseId attempts hthread
          rw [hthread] at hok
          rw [if_neg (of_decide_eq_false hok)] at hb
          obtain ⟨hmem, hne⟩ := List.mem_filter.mp hb
          refine ⟨hmem, fun hk => of_decide_eq_true hne ?_⟩
          obtain ⟨_, _, hrunning⟩ := h b hmem
          rw [hk, hthread] at hrunning
          cases hrunning
          exact Prod.ext hk rfl
        · rename_i hnone
          refine ⟨hb, fun hk => ?_⟩
          obtain ⟨node, attempts, hrunning⟩ := h b hb
          exact hnone node b.2 attempts (hk ▸ hrunning)
      obtain ⟨node, attempts, hthread⟩ := h b hb'.1
      exact ⟨node, attempts, (threadOf_poolStep_of_ne hb'.2).trans hthread⟩

/-- **A failing runner wedges no node** in a run whose attempts end in exceptions that are caught. -/
theorem no_node_wedged (outcome : WorkflowNode → ℕ → AttemptOutcome) (rows : NodeTable) (e : Execution)
    (moves : List HeartbeatMove) (hcaught : Run.Along (step outcome) (fun s m => s.escapes outcome m = false) ⟨rows, e, []⟩ moves)
    (hover : (Run.exec (step outcome) ⟨rows, e, []⟩ moves).execution.finished = true) :
    ¬(Run.exec (step outcome) ⟨rows, e, []⟩ moves).Wedged := by
  have hbeating : Beating (Run.exec (step outcome) ⟨rows, e, []⟩ moves) :=
    Run.exec_of_along Beating (fun _ _ h hok => h.step hok) (fun _ hb => nomatch hb) hcaught
  rintro ⟨b, hb, -⟩
  obtain ⟨node, attempts, hthread⟩ := hbeating b hb
  obtain ⟨threads, hp, -⟩ := threadOf_eq_some hthread
  rw [Execution.finished, hp] at hover
  cases hover

/-- The first node of the chain runs once. -/
def oneAttempt : List HeartbeatMove :=
  List.replicate 10 (.own (.main 0 0)) ++
    [.own (.claim "a" "lease" 0), .own (.start "a"), .own (.finish "a" 0), .own (.main 0 0)]

theorem no_node_wedged_sample :
    ¬(Run.exec (step fun _ _ => .unencodable) ⟨Dict.empty, chainExecution, []⟩ oneAttempt).Wedged :=
  no_node_wedged _ _ _ _ (by decide) (by decide)

/-- **An `AssertionError` of the runner wedges its node.** -/
theorem uncaught_exception_wedges_node :
    let s := Run.exec (step fun _ _ => .escaped) ⟨Dict.empty, chainExecution, []⟩ oneAttempt
    s.execution.finished = true ∧ s.Wedged := by
  decide

end HeartbeatRun

end ComputeMesh.Platform.Workflow
