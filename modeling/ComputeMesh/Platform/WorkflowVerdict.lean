import ComputeMesh.Platform.WorkflowExecute

/-!
# What the runner determines

An accepted definition and the outcome of every attempt determine which nodes complete and which fail, in whatever order
they run.  When the engine gets there depends on levels: a node runs in the round that is its level, and a failure is
passed on by one dependency in each round.

* `Completes`, `Fails`, `Runs` — by recursion over the dependencies;
* `BlockedBy` — a failure reaches the node within a number of rounds;
* `AsOf` — **the row of a node after some rounds**, with `AsOf.cases` to read it;
* `isReady_iff`, `failedDependencies_iff` — what a round finds ready and what it finds to be blocked.
-/

namespace ComputeMesh.Platform.Workflow

variable (nodes : List WorkflowNode) (outcome : WorkflowNode → ℕ → AttemptOutcome)

/-- One of the first `max_attempts` attempts succeeds. -/
def Succeeds (node : WorkflowNode) : Prop :=
  ∃ k : ℕ, 1 ≤ k ∧ (k : ℤ) ≤ node.maxAttempts ∧ (outcome node k).succeeds = true

/-- The engine records every attempt up to the first that succeeds. -/
def Settles (node : WorkflowNode) : Prop :=
  ∀ k : ℕ, 1 ≤ k → (k : ℤ) ≤ node.maxAttempts → (∀ j, 1 ≤ j → j < k → (outcome node j).succeeds = false) →
    (outcome node k).recorded = true

/-- All dependencies complete and one of the attempts succeeds. -/
inductive Completes : String → Prop
  | intro {node : WorkflowNode} (hmem : node ∈ nodes) (hdeps : ∀ d ∈ node.dependencies, Completes d)
      (hsucceeds : Succeeds outcome node) : Completes node.nodeId

/-- All dependencies complete. -/
def Runs (nodeId : String) : Prop :=
  ∃ node ∈ nodes, node.nodeId = nodeId ∧ ∀ d ∈ node.dependencies, Completes nodes outcome d

/-- All dependencies complete and all attempts fail. -/
def Fails (nodeId : String) : Prop :=
  ∃ node ∈ nodes, node.nodeId = nodeId ∧ (∀ d ∈ node.dependencies, Completes nodes outcome d) ∧ ¬Succeeds outcome node

/-- How many nodes the longest chain of dependencies ending in the node has. -/
def levelOf (nodeId : String) : ℕ := Digraph.level (dependenciesOf nodes) nodes.length nodeId

/-- A failure reaches the node within `b` rounds. -/
def BlockedBy (b : ℕ) (nodeId : String) : Prop :=
  ∃ f k, Fails nodes outcome f ∧ 1 ≤ k ∧ Digraph.Upstream (dependenciesOf nodes) f k nodeId ∧ levelOf nodes f + k ≤ b

variable {nodes outcome} {node : WorkflowNode} {nodeId : String} {q b : ℕ} {row : NodeRow}

/-! ### Levels and verdicts -/

section Verdict

variable (hdag : ValidDag nodes)

include hdag

theorem eq_of_nodeId {node' : WorkflowNode} (h : node ∈ nodes) (h' : node' ∈ nodes) (heq : node.nodeId = node'.nodeId) :
    node = node' := by
  have hfind := findNode_of_mem hdag.unique h
  rw [heq, findNode_of_mem hdag.unique h'] at hfind
  exact (Option.some.inj hfind).symm

section

variable (h : node ∈ nodes)
include h

theorem level_dep_lt {d : String} (hd : d ∈ node.dependencies) : levelOf nodes d < levelOf nodes node.nodeId := by
  obtain ⟨order, hordered, hlength, hmem⟩ := hdag.ordered
  refine Digraph.level_dep_lt hordered (hmem node h) hlength ?_
  rwa [dependenciesOf_of_mem hdag.unique h]

theorem level_pos : 1 ≤ levelOf nodes node.nodeId := by
  obtain ⟨order, hordered, hlength, hmem⟩ := hdag.ordered
  exact Digraph.level_pos hordered (hmem node h) hlength

theorem level_le : levelOf nodes node.nodeId ≤ nodes.length := by
  obtain ⟨order, hordered, hlength, hmem⟩ := hdag.ordered
  exact (Digraph.level_le_length hordered (hmem node h) hlength).trans hlength

theorem exists_dep_level (hlevel : 1 < levelOf nodes node.nodeId) :
    ∃ d ∈ node.dependencies, levelOf nodes d + 1 = levelOf nodes node.nodeId := by
  obtain ⟨order, hordered, hlength, hmem⟩ := hdag.ordered
  obtain ⟨d, hd, heq⟩ := Digraph.exists_dep_level hordered (hmem node h) hlength hlevel
  rw [dependenciesOf_of_mem hdag.unique h] at hd
  exact ⟨d, hd, heq⟩

theorem level_le_succ (hdeps : ∀ d ∈ node.dependencies, levelOf nodes d ≤ q) : levelOf nodes node.nodeId ≤ q + 1 := by
  rcases Nat.lt_or_ge 1 (levelOf nodes node.nodeId) with hlt | hge
  · obtain ⟨d, hd, heq⟩ := exists_dep_level hdag h hlt
    have hle := hdeps d hd
    omega
  · omega

theorem upstream_of_dep {d f : String} {k : ℕ} (hd : d ∈ node.dependencies)
    (hup : Digraph.Upstream (dependenciesOf nodes) f k d) :
    Digraph.Upstream (dependenciesOf nodes) f (k + 1) node.nodeId := by
  refine .step ?_ hup
  rwa [dependenciesOf_of_mem hdag.unique h]

theorem dep_of_upstream {f : String} {k : ℕ} (hk : 1 ≤ k)
    (hup : Digraph.Upstream (dependenciesOf nodes) f k node.nodeId) :
    ∃ d ∈ node.dependencies, Digraph.Upstream (dependenciesOf nodes) f (k - 1) d := by
  cases hup with
  | refl => omega
  | step hdep hrest =>
    rw [dependenciesOf_of_mem hdag.unique h] at hdep
    exact ⟨_, hdep, hrest⟩

theorem deps_of_completes (hc : Completes nodes outcome node.nodeId) :
    (∀ d ∈ node.dependencies, Completes nodes outcome d) ∧ Succeeds outcome node := by
  generalize hid : node.nodeId = nodeId at hc
  cases hc with
  | intro hmem hdeps hsucceeds =>
    obtain rfl := eq_of_nodeId hdag h hmem hid
    exact ⟨hdeps, hsucceeds⟩

theorem runs_iff : Runs nodes outcome node.nodeId ↔ ∀ d ∈ node.dependencies, Completes nodes outcome d := by
  constructor
  · rintro ⟨node', hmem, hid, hdeps⟩
    obtain rfl := eq_of_nodeId hdag hmem h hid
    exact hdeps
  · exact fun hdeps => ⟨node, h, rfl, hdeps⟩

theorem fails_iff : Fails nodes outcome node.nodeId ↔ Runs nodes outcome node.nodeId ∧ ¬Succeeds outcome node := by
  rw [runs_iff hdag h]
  constructor
  · rintro ⟨node', hmem, hid, hdeps, hfails⟩
    obtain rfl := eq_of_nodeId hdag hmem h hid
    exact ⟨hdeps, hfails⟩
  · exact fun ⟨hdeps, hfails⟩ => ⟨node, h, rfl, hdeps, hfails⟩

theorem completes_iff :
    Completes nodes outcome node.nodeId ↔ Runs nodes outcome node.nodeId ∧ Succeeds outcome node := by
  rw [runs_iff hdag h]
  exact ⟨deps_of_completes hdag h, fun ⟨hdeps, hsucceeds⟩ => .intro h hdeps hsucceeds⟩

end

theorem completes_upstream {f : String} {k : ℕ} (hup : Digraph.Upstream (dependenciesOf nodes) f k nodeId)
    (hc : Completes nodes outcome nodeId) : Completes nodes outcome f := by
  induction hup with
  | refl => exact hc
  | step hdep _ ih =>
    cases hc with
    | intro hmem hdeps _ =>
      rw [dependenciesOf_of_mem hdag.unique hmem] at hdep
      exact ih (hdeps _ hdep)

theorem not_completes_of_fails (h : Fails nodes outcome nodeId) : ¬Completes nodes outcome nodeId := by
  obtain ⟨node, hmem, rfl, hdeps, hfails⟩ := h
  exact fun hc => hfails (deps_of_completes hdag hmem hc).2

/-- **A node that runs is not reached by a failure.** -/
theorem not_blockedBy_of_runs (h : Runs nodes outcome nodeId) : ¬BlockedBy nodes outcome b nodeId := by
  rintro ⟨f, k, hf, hk, hup, -⟩
  obtain ⟨node, hmem, rfl, hdeps⟩ := h
  obtain ⟨d, hd, hrest⟩ := dep_of_upstream hdag hmem hk hup
  exact not_completes_of_fails hdag hf (completes_upstream hdag hrest (hdeps d hd))

end Verdict

/-! ### The row of a node after some rounds -/

/-- The row of a node when the nodes of the first `q` levels have run and failures have been passed on for `b` rounds. -/
structure AsOf (nodes : List WorkflowNode) (outcome : WorkflowNode → ℕ → AttemptOutcome) (q b : ℕ) (node : WorkflowNode)
    (row : NodeRow) : Prop where
  completed : Completes nodes outcome node.nodeId → levelOf nodes node.nodeId ≤ q → row.status = .completed
  failed : Fails nodes outcome node.nodeId → levelOf nodes node.nodeId ≤ q → row.status = .failed
  blocked : BlockedBy nodes outcome b node.nodeId → row.status = .blocked
  waiting : ¬(Runs nodes outcome node.nodeId ∧ levelOf nodes node.nodeId ≤ q) →
    ¬BlockedBy nodes outcome b node.nodeId → row.status = .pending ∧ row.attempts = 0

/-- The cases of a row. -/
inductive Verdict (nodes : List WorkflowNode) (outcome : WorkflowNode → ℕ → AttemptOutcome) (q b : ℕ)
    (node : WorkflowNode) (row : NodeRow) : Prop
  | completed (hc : Completes nodes outcome node.nodeId) (hlevel : levelOf nodes node.nodeId ≤ q)
      (hstatus : row.status = .completed)
  | failed (hf : Fails nodes outcome node.nodeId) (hlevel : levelOf nodes node.nodeId ≤ q) (hstatus : row.status = .failed)
  | blocked (hb : BlockedBy nodes outcome b node.nodeId) (hstatus : row.status = .blocked)
  | waiting (hnot : ¬(Runs nodes outcome node.nodeId ∧ levelOf nodes node.nodeId ≤ q))
      (hb : ¬BlockedBy nodes outcome b node.nodeId) (hstatus : row.status = .pending) (hattempts : row.attempts = 0)

namespace AsOf

variable (hdag : ValidDag nodes)

include hdag

section

variable (h : AsOf nodes outcome q b node row) (hmem : node ∈ nodes)
include h hmem

theorem cases : Verdict nodes outcome q b node row := by
  by_cases hran : Runs nodes outcome node.nodeId ∧ levelOf nodes node.nodeId ≤ q
  · by_cases hsucceeds : Succeeds outcome node
    · have hc := (completes_iff hdag hmem).mpr ⟨hran.1, hsucceeds⟩
      exact .completed hc hran.2 (h.completed hc hran.2)
    · have hf := (fails_iff hdag hmem).mpr ⟨hran.1, hsucceeds⟩
      exact .failed hf hran.2 (h.failed hf hran.2)
  · by_cases hb : BlockedBy nodes outcome b node.nodeId
    · exact .blocked hb (h.blocked hb)
    · obtain ⟨hstatus, hattempts⟩ := h.waiting hran hb
      exact .waiting hran hb hstatus hattempts

theorem status_eq_completed :
    row.status = .completed ↔ Completes nodes outcome node.nodeId ∧ levelOf nodes node.nodeId ≤ q := by
  refine ⟨fun hstatus => ?_, fun hc => h.completed hc.1 hc.2⟩
  cases h.cases hdag hmem with
  | completed hc hlevel _ => exact ⟨hc, hlevel⟩
  | failed _ _ hs | blocked _ hs | waiting _ _ hs _ => rw [hs] at hstatus; cases hstatus

theorem status_eq_failed :
    row.status = .failed ↔ Fails nodes outcome node.nodeId ∧ levelOf nodes node.nodeId ≤ q := by
  refine ⟨fun hstatus => ?_, fun hf => h.failed hf.1 hf.2⟩
  cases h.cases hdag hmem with
  | completed _ _ hs => rw [hs] at hstatus; cases hstatus
  | failed hf hlevel _ => exact ⟨hf, hlevel⟩
  | blocked _ hs | waiting _ _ hs _ => rw [hs] at hstatus; cases hstatus

theorem status_eq_blocked : row.status = .blocked ↔ BlockedBy nodes outcome b node.nodeId := by
  refine ⟨fun hstatus => ?_, h.blocked⟩
  cases h.cases hdag hmem with
  | completed _ _ hs | failed _ _ hs => rw [hs] at hstatus; cases hstatus
  | blocked hb _ => exact hb
  | waiting _ _ hs _ => rw [hs] at hstatus; cases hstatus

end

end AsOf

/-! ### The table after some rounds -/

def TableAsOf (nodes : List WorkflowNode) (outcome : WorkflowNode → ℕ → AttemptOutcome) (q b : ℕ) (rows : NodeTable) :
    Prop :=
  ∀ node ∈ nodes, ∃ row, rows.get? node.nodeId = some row ∧ AsOf nodes outcome q b node row

section Table

variable {rows : NodeTable} {statuses : List NodeStatus} (hdag : ValidDag nodes)

theorem statusIn_iff (hget : rows.get? nodeId = some row) :
    Execution.statusIn rows statuses nodeId = true ↔ row.status ∈ statuses := by
  rw [Execution.statusIn, hget]
  exact decide_eq_true_iff

include hdag

/-- **What a round finds ready** are the nodes of the next level that run. -/
theorem isReady_iff (h : TableAsOf nodes outcome q (q + 1) rows) (hmem : node ∈ nodes) :
    Execution.isReady rows node = true ↔
      Runs nodes outcome node.nodeId ∧ levelOf nodes node.nodeId = q + 1 := by
  obtain ⟨row, hget, hrow⟩ := h node hmem
  have hdep : ∀ d ∈ node.dependencies, Execution.statusIn rows [.completed] d = true ↔
      Completes nodes outcome d ∧ levelOf nodes d ≤ q := by
    intro d hd
    obtain ⟨dep, hdmem, rfl⟩ := hdag.known node hmem d hd
    obtain ⟨drow, hdget, hdrow⟩ := h dep hdmem
    rw [statusIn_iff hdget, List.mem_singleton, hdrow.status_eq_completed hdag hdmem]
  rw [Execution.isReady, Bool.and_eq_true, List.all_eq_true, statusIn_iff hget, runs_iff hdag hmem]
  constructor
  · rintro ⟨hstatus, hdeps⟩
    have hcompletes : ∀ d ∈ node.dependencies, Completes nodes outcome d := fun d hd => ((hdep d hd).mp (hdeps d hd)).1
    refine ⟨hcompletes, ?_⟩
    have hle := level_le_succ hdag hmem (q := q) fun d hd => ((hdep d hd).mp (hdeps d hd)).2
    by_contra hne
    have hran : Runs nodes outcome node.nodeId ∧ levelOf nodes node.nodeId ≤ q :=
      ⟨(runs_iff hdag hmem).mpr hcompletes, by omega⟩
    cases hrow.cases hdag hmem with
    | completed _ _ hs | failed _ _ hs | blocked _ hs => rw [hs] at hstatus; exact absurd hstatus (by decide)
    | waiting hnot _ _ _ => exact hnot hran
  · rintro ⟨hcompletes, hlevel⟩
    refine ⟨?_, fun d hd => (hdep d hd).mpr ⟨hcompletes d hd, ?_⟩⟩
    · have hnot : ¬(Runs nodes outcome node.nodeId ∧ levelOf nodes node.nodeId ≤ q) := fun hran => by omega
      rw [(hrow.waiting hnot (not_blockedBy_of_runs hdag ((runs_iff hdag hmem).mpr hcompletes))).1]
      exact List.mem_cons_self
    · have hlt := level_dep_lt hdag hmem hd
      omega

/-- **What a round finds to be blocked** is what a failure reaches by one more dependency. -/
theorem failedDependencies_iff (h : TableAsOf nodes outcome q q rows) (hmem : node ∈ nodes) :
    Execution.failedDependencies rows node ≠ [] ↔ BlockedBy nodes outcome (q + 1) node.nodeId := by
  have hdep : ∀ d ∈ node.dependencies, Execution.statusIn rows [.failed, .blocked] d = true ↔
      (Fails nodes outcome d ∧ levelOf nodes d ≤ q) ∨ BlockedBy nodes outcome q d := by
    intro d hd
    obtain ⟨dep, hdmem, rfl⟩ := hdag.known node hmem d hd
    obtain ⟨drow, hdget, hdrow⟩ := h dep hdmem
    rw [statusIn_iff hdget, List.mem_cons, List.mem_singleton, hdrow.status_eq_failed hdag hdmem,
      hdrow.status_eq_blocked hdag hdmem]
  have hsome : Execution.failedDependencies rows node ≠ [] ↔
      ∃ d ∈ node.dependencies, Execution.statusIn rows [.failed, .blocked] d = true := by
    rw [Execution.failedDependencies, ne_eq, List.filter_eq_nil_iff]
    push Not
    rfl
  rw [hsome]
  constructor
  · rintro ⟨d, hd, hstatus⟩
    rcases (hdep d hd).mp hstatus with ⟨hf, hlevel⟩ | ⟨f, k, hf, hk, hup, hround⟩
    · exact ⟨d, 1, hf, le_refl 1, upstream_of_dep hdag hmem hd .refl, by omega⟩
    · exact ⟨f, k + 1, hf, by omega, upstream_of_dep hdag hmem hd hup, by omega⟩
  · rintro ⟨f, k, hf, hk, hup, hround⟩
    obtain ⟨d, hd, hrest⟩ := dep_of_upstream hdag hmem hk hup
    refine ⟨d, hd, (hdep d hd).mpr ?_⟩
    rcases Nat.lt_or_ge 1 k with hlt | hge
    · exact .inr ⟨f, k - 1, hf, by omega, hrest, by omega⟩
    · obtain rfl : k = 1 := by omega
      cases hrest
      exact .inl ⟨hf, by omega⟩

end Table

end ComputeMesh.Platform.Workflow
