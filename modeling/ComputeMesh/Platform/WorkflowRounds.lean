import ComputeMesh.Platform.WorkflowVerdict
import ComputeMesh.Lib.Run

/-!
# The rounds of a workflow run

A new workflow is executed by one process that does not crash.  After every round the table is what the runner
determines up to that level, whatever the order in which the threads of the pool took their steps.

* `SoloRun` — the table, the call and the number of rounds that are done;
* `PhaseInv`, `RunInv` — **what the table is** wherever the main thread and the threads of the pool stand;
* `Sound.step` — every move keeps it, by one lemma for each phase.
-/

namespace ComputeMesh.Platform.Workflow

open Dict Execution NodeTable

/-- A process executes a workflow that the database does not know yet. -/
structure SoloRun where
  rows : NodeTable
  execution : Execution
  /-- How many pools have been joined. -/
  round : ℕ

namespace SoloRun

def start (e : Execution) : SoloRun := ⟨Dict.empty, e.withPhase .entered, 0⟩

/-- The round is over when the main thread goes from the pool to the next scan. -/
def roundAfter (round : ℕ) : Phase → Phase → ℕ
  | .pool _, .scanning => round + 1
  | _, _ => round

def step (outcome : WorkflowNode → ℕ → AttemptOutcome) (s : SoloRun) (move : Move) : SoloRun :=
  let after := s.execution.step outcome s.rows move
  ⟨after.1, after.2, roundAfter s.round s.execution.phase after.2.phase⟩

end SoloRun

variable (nodes : List WorkflowNode) (outcome : WorkflowNode → ℕ → AttemptOutcome)

/-! ### What the table is -/

/-- The engine has recorded every attempt on the first `q` levels, and some node of level `q` has run. -/
structure Recorded (q : ℕ) : Prop where
  settled : ∀ node ∈ nodes, Runs nodes outcome node.nodeId → levelOf nodes node.nodeId ≤ q → Settles outcome node
  top : q = 0 ∨ ∃ node ∈ nodes, Runs nodes outcome node.nodeId ∧ levelOf nodes node.nodeId = q

/-- All of the first `k` attempts raised something that the engine catches. -/
def FailedUpTo (node : WorkflowNode) (k : ℕ) : Prop := ∀ j, 1 ≤ j → j ≤ k → ∃ error, outcome node j = .raised error

/-- The row of a node whose thread stands there. -/
def RunInv (node : WorkflowNode) (row : NodeRow) : NodeRun → Prop
  | .queued => row.status = .pending ∧ row.attempts = 0
  | .claiming k =>
    row.status = .pending ∧ row.attempts = k ∧ 1 ≤ k ∧ (k : ℤ) < node.maxAttempts ∧ FailedUpTo outcome node k
  | .claimed leaseId k =>
    row.status = .running ∧ row.leaseId = some leaseId ∧ row.attempts = k ∧ 1 ≤ k ∧ (k : ℤ) ≤ node.maxAttempts ∧
      FailedUpTo outcome node (k - 1)
  | .running leaseId k =>
    row.status = .running ∧ row.leaseId = some leaseId ∧ row.attempts = k ∧ 1 ≤ k ∧ (k : ℤ) ≤ node.maxAttempts ∧
      FailedUpTo outcome node (k - 1)
  | .ended claimed =>
    claimed = true ∧ Settles outcome node ∧ (Succeeds outcome node → row.status = .completed) ∧
      (¬Succeeds outcome node → row.status = .failed)
  | .raised => ¬Settles outcome node

/-- The pool of a round has a thread for every node of the next level that runs. -/
structure PoolInv (q : ℕ) (rows : NodeTable) (threads : Dict String NodeThread) : Prop where
  thread : ∀ nodeId t, threads.get? nodeId = some t → t.node ∈ nodes ∧ t.node.nodeId = nodeId ∧
    Runs nodes outcome nodeId ∧ levelOf nodes nodeId = q + 1 ∧
      ∃ row, rows.get? nodeId = some row ∧ RunInv outcome t.node row t.run
  all : ∀ node ∈ nodes, Runs nodes outcome node.nodeId → levelOf nodes node.nodeId = q + 1 →
    threads.contains node.nodeId = true
  nonempty : ∃ node ∈ nodes, Runs nodes outcome node.nodeId ∧ levelOf nodes node.nodeId = q + 1
  rest : ∀ node ∈ nodes, threads.contains node.nodeId = false → ∃ row, rows.get? node.nodeId = some row ∧
    AsOf nodes outcome q (q + 1) node row

/-- No node is left to run. -/
def AllRun (q : ℕ) : Prop := ∀ node ∈ nodes, Runs nodes outcome node.nodeId → levelOf nodes node.nodeId ≤ q

/-- What the table is when `q` rounds are done and the main thread stands there. -/
def PhaseInv (q : ℕ) (rows : NodeTable) : Phase → Prop
  | .entered => rows.entries = [] ∧ q = 0
  | .scanning => Recorded nodes outcome q ∧ TableAsOf nodes outcome q q rows
  | .blocking snapshot todo =>
    Recorded nodes outcome q ∧ TableAsOf nodes outcome q q snapshot ∧ todo <:+ nodes ∧
      ∀ node ∈ nodes, ∃ row, rows.get? node.nodeId = some row ∧
        AsOf nodes outcome q (if node ∈ todo then q else q + 1) node row
  | .expiring snapshot todo =>
    Recorded nodes outcome q ∧ TableAsOf nodes outcome q (q + 1) snapshot ∧ todo ⊆ nodes ∧
      TableAsOf nodes outcome q (q + 1) rows
  | .pool threads => Recorded nodes outcome q ∧ PoolInv nodes outcome q rows threads
  | .closing => Recorded nodes outcome q ∧ TableAsOf nodes outcome q (q + 1) rows ∧ AllRun nodes outcome q
  | .returned final => Recorded nodes outcome q ∧ TableAsOf nodes outcome q (q + 1) final ∧ AllRun nodes outcome q
  | .raised => ∃ node ∈ nodes, Runs nodes outcome node.nodeId ∧ ¬Settles outcome node

variable {nodes outcome} {node : WorkflowNode} {nodeId : String} {q : ℕ} {rows : NodeTable} {row : NodeRow}

theorem blockedBy_succ {b : ℕ} (h : BlockedBy nodes outcome b nodeId) : BlockedBy nodes outcome (b + 1) nodeId := by
  obtain ⟨f, k, hf, hk, hup, hround⟩ := h
  exact ⟨f, k, hf, hk, hup, Nat.le_succ_of_le hround⟩

/-- The row of a node that the next round of passing on does not reach. -/
theorem AsOf.succ (h : AsOf nodes outcome q q node row)
    (hb : BlockedBy nodes outcome (q + 1) node.nodeId → BlockedBy nodes outcome q node.nodeId) :
    AsOf nodes outcome q (q + 1) node row :=
  ⟨h.completed, h.failed, fun hblocked => h.blocked (hb hblocked),
    fun hnot hblocked => h.waiting hnot (mt blockedBy_succ hblocked)⟩

section Phases

variable (hdag : ValidDag nodes)

/-! ### A new workflow -/

theorem get?_insertNodes {now : ℚ} {ids : List WorkflowNode} {rows : NodeTable}
    (h : nodeId ∈ ids.map WorkflowNode.nodeId ∨ rows.get? nodeId = some { updatedAt := now }) :
    (ids.foldl (fun rows node => rows.set node.nodeId { updatedAt := now }) rows).get? nodeId
      = some { updatedAt := now } := by
  induction ids generalizing rows with
  | nil =>
    rcases h with hmem | hget
    · cases hmem
    · exact hget
  | cons first ids ih =>
    refine ih ?_
    by_cases heq : nodeId = first.nodeId
    · right
      rw [heq, get?_set_self]
    · rw [get?_set_of_ne _ heq]
      rcases h with hmem | hget
      · rcases List.mem_cons.mp hmem with hfirst | hin
        · exact absurd hfirst heq
        · exact .inl hin
      · exact .inr hget

include hdag

theorem asOf_new (hmem : node ∈ nodes) {now : ℚ} : AsOf nodes outcome 0 0 node { updatedAt := now } := by
  have hpos := level_pos hdag hmem
  refine ⟨fun _ hle => absurd hpos (by omega), fun _ hle => absurd hpos (by omega), ?_, fun _ _ => ⟨rfl, rfl⟩⟩
  rintro ⟨f, k, -, hk, -, hround⟩
  omega

theorem ensured (hrows : rows.entries = []) (reading : ℚ) :
    PhaseInv nodes outcome 0 (rows.ensureWorkflow nodes reading) .scanning := by
  refine ⟨⟨fun node hmem _ hle => ?_, .inl rfl⟩, fun node hmem => ⟨{ updatedAt := reading }, ?_, asOf_new hdag hmem⟩⟩
  · exact absurd (level_pos hdag hmem) (by omega)
  · rw [ensureWorkflow, if_pos hrows]
    exact get?_insertNodes (.inl (List.mem_map_of_mem hmem))

/-! ### Blocking -/

variable {snapshot : NodeTable} {reading : ℚ}

/-- **Passing failures on** to one node. -/
theorem asOf_blockNode {current : NodeRow} (hsnapshot : TableAsOf nodes outcome q q snapshot) (hmem : node ∈ nodes)
    (hrow : AsOf nodes outcome q q node row) (hget : rows.get? node.nodeId = some current)
    (hcurrent : AsOf nodes outcome q q node current) :
    ∃ row', (Execution.blockNode rows snapshot row node reading).get? node.nodeId = some row' ∧
      AsOf nodes outcome q (q + 1) node row' := by
  unfold blockNode
  split
  · rename_i hterminal
    refine ⟨current, hget, hcurrent.succ fun hb => ?_⟩
    have hnotRun : ¬Runs nodes outcome node.nodeId := fun hruns => not_blockedBy_of_runs hdag hruns hb
    cases hrow.cases hdag hmem with
    | completed hc _ _ => exact absurd ((completes_iff hdag hmem).mp hc).1 hnotRun
    | failed hf _ _ => exact absurd ((fails_iff hdag hmem).mp hf).1 hnotRun
    | blocked hbq _ => exact hbq
    | waiting _ _ hs _ => rw [hs] at hterminal; exact absurd hterminal (by decide)
  · split
    · rename_i hnone
      exact ⟨current, hget, hcurrent.succ fun hb => absurd hnone ((failedDependencies_iff hdag hsnapshot hmem).mpr hb)⟩
    · rename_i hsome
      have hb : BlockedBy nodes outcome (q + 1) node.nodeId := (failedDependencies_iff hdag hsnapshot hmem).mp hsome
      have hnotRun : ¬Runs nodes outcome node.nodeId := fun hruns => not_blockedBy_of_runs hdag hruns hb
      have hopen : current.blockable = true := by
        cases hcurrent.cases hdag hmem with
        | completed hc _ _ => exact absurd ((completes_iff hdag hmem).mp hc).1 hnotRun
        | failed hf _ _ => exact absurd ((fails_iff hdag hmem).mp hf).1 hnotRun
        | blocked _ hs | waiting _ _ hs _ => simp [NodeRow.blockable, hs]
      rw [setBlocked, updateWhere_of_get? hget hopen, get?_set_self]
      refine ⟨_, rfl, fun hc _ => ?_, fun hf _ => ?_, fun _ => rfl, fun _ hnot => absurd hb hnot⟩
      · exact absurd ((completes_iff hdag hmem).mp hc).1 hnotRun
      · exact absurd ((fails_iff hdag hmem).mp hf).1 hnotRun

omit hdag in
theorem get?_blockNode_of_ne (h : nodeId ≠ node.nodeId) :
    (Execution.blockNode rows snapshot row node reading).get? nodeId = rows.get? nodeId := by
  unfold blockNode
  split
  · rfl
  · split
    · rfl
    · exact get?_updateWhere_of_ne h

theorem blocked {todo : List WorkflowNode} (h : PhaseInv nodes outcome q rows (.blocking snapshot (node :: todo)))
    (hget : snapshot.get? node.nodeId = some row) :
    PhaseInv nodes outcome q (Execution.blockNode rows snapshot row node reading) (.blocking snapshot todo) := by
  obtain ⟨hrecorded, hsnapshot, hsuffix, hrows⟩ := h
  have hmem : node ∈ nodes := hsuffix.subset List.mem_cons_self
  have hnodup : (node :: todo).Nodup := (hdag.unique.of_map _).sublist hsuffix.sublist
  refine ⟨hrecorded, hsnapshot, (List.suffix_cons node todo).trans hsuffix, fun other hother => ?_⟩
  obtain ⟨current, hcurrentGet, hcurrent⟩ := hrows other hother
  by_cases heq : other = node
  · subst heq
    rw [if_neg (List.nodup_cons.mp hnodup).1]
    rw [if_pos List.mem_cons_self] at hcurrent
    obtain ⟨row', hget', hrow⟩ := hsnapshot other hmem
    obtain rfl := Option.some.inj (hget.symm.trans hget')
    exact asOf_blockNode hdag hsnapshot hmem hrow hcurrentGet hcurrent
  · have hne : other.nodeId ≠ node.nodeId := fun hid => heq (eq_of_nodeId hdag hother hmem hid)
    rw [get?_blockNode_of_ne hne]
    simp only [List.mem_cons, heq, false_or] at hcurrent
    exact ⟨current, hcurrentGet, hcurrent⟩

/-! ### Expiring and collecting -/

theorem expireNode_asOf (hmem : node ∈ nodes) (hrow : AsOf nodes outcome q (q + 1) node row) (check reading : ℚ) :
    Execution.expireNode rows row node check reading = rows := by
  have hidle : row.status ≠ .running := by
    cases hrow.cases hdag hmem with
    | completed _ _ hs | failed _ _ hs | blocked _ hs | waiting _ _ hs _ => rw [hs]; decide
  refine if_neg ?_
  simp [NodeRow.interruptedAtLast, hidle]

theorem exists_runs_level (hmem : node ∈ nodes) (hruns : Runs nodes outcome node.nodeId)
    (hlevel : q + 1 ≤ levelOf nodes node.nodeId) :
    ∃ other ∈ nodes, Runs nodes outcome other.nodeId ∧ levelOf nodes other.nodeId = q + 1 := by
  generalize hn : levelOf nodes node.nodeId = n at hlevel
  induction n generalizing node with
  | zero => omega
  | succ n ih =>
    rcases Nat.lt_or_ge (q + 1) (n + 1) with hlt | hge
    · obtain ⟨d, hd, heq⟩ := exists_dep_level hdag hmem (by omega)
      obtain ⟨dep, hdmem, rfl⟩ := hdag.known node hmem d hd
      have hcompletes := (runs_iff hdag hmem).mp hruns dep.nodeId hd
      exact ih hdmem ((completes_iff hdag hdmem).mp hcompletes).1 (by omega) (by omega)
    · exact ⟨node, hmem, hruns, by omega⟩

variable {threads : Dict String NodeThread}

omit hdag in
theorem contains_submit {ready : List WorkflowNode} (h : node ∈ ready ∨ threads.contains node.nodeId = true) :
    (ready.foldl (fun threads node => threads.set node.nodeId ⟨node, .queued⟩) threads).contains node.nodeId = true := by
  induction ready generalizing threads with
  | nil =>
    rcases h with hmem | hin
    · cases hmem
    · exact hin
  | cons first ready ih =>
    refine ih ?_
    rw [contains, get?_set]
    rcases h with hmem | hin
    · rcases List.mem_cons.mp hmem with rfl | hrest
      · right
        rw [if_pos rfl]
        rfl
      · exact .inl hrest
    · right
      split
      · rfl
      · exact hin

/-- **Collecting** finds the next level, or there is none left. -/
theorem collected (h : Recorded nodes outcome q) (hrows : TableAsOf nodes outcome q (q + 1) rows) :
    PhaseInv nodes outcome q rows
      (if nodes.filter (Execution.isReady rows) = [] then .closing
        else .pool (Execution.submit (nodes.filter (Execution.isReady rows)))) := by
  have hready : ∀ node, node ∈ nodes.filter (isReady rows) ↔
      node ∈ nodes ∧ Runs nodes outcome node.nodeId ∧ levelOf nodes node.nodeId = q + 1 := by
    intro node
    rw [List.mem_filter]
    constructor
    · exact fun ⟨hmem, hr⟩ => ⟨hmem, (isReady_iff hdag hrows hmem).mp hr⟩
    · exact fun ⟨hmem, hr⟩ => ⟨hmem, (isReady_iff hdag hrows hmem).mpr hr⟩
  split
  · rename_i hnone
    refine ⟨h, hrows, fun node hmem hruns => ?_⟩
    by_contra hlevel
    obtain ⟨other, hother, hoRuns, hoLevel⟩ := exists_runs_level hdag hmem hruns (q := q) (by omega)
    have hin := (hready other).mpr ⟨hother, hoRuns, hoLevel⟩
    rw [hnone] at hin
    cases hin
  · rename_i hsome
    refine ⟨h, fun nodeId t hget => ?_, fun node hmem hruns hlevel => ?_, ?_, fun node hmem _ => hrows node hmem⟩
    · rcases get?_submit hget with ⟨node, hnode, rfl, rfl⟩ | hnever
      · obtain ⟨hmem, hruns, hlevel⟩ := (hready node).mp hnode
        obtain ⟨row, hrowGet, hrow⟩ := hrows node hmem
        refine ⟨hmem, rfl, hruns, hlevel, row, hrowGet, hrow.waiting (fun hran => ?_) (not_blockedBy_of_runs hdag hruns)⟩
        omega
      · cases hnever
    · exact contains_submit (.inl ((hready node).mpr ⟨hmem, hruns, hlevel⟩))
    · obtain ⟨node, hnode⟩ := List.exists_mem_of_ne_nil _ hsome
      obtain ⟨hmem, hruns, hlevel⟩ := (hready node).mp hnode
      exact ⟨node, hmem, hruns, hlevel⟩

/-! ### The pool -/

omit hdag in
theorem PoolInv.update {t : NodeThread} {rows' : NodeTable} {run : NodeRun}
    (h : PoolInv nodes outcome q rows threads) (hget : threads.get? nodeId = some t)
    (hothers : ∀ id, id ≠ nodeId → rows'.get? id = rows.get? id)
    (hrow : ∃ row, rows'.get? nodeId = some row ∧ RunInv outcome t.node row run) :
    PoolInv nodes outcome q rows' (threads.set nodeId { t with run }) := by
  have hkeys : ∀ id, (threads.set nodeId { t with run }).contains id = threads.contains id := by
    intro id
    rw [contains, get?_set]
    split
    · rename_i heq
      rw [heq, contains, hget]
      rfl
    · rfl
  refine ⟨fun id t' hget' => ?_, fun node hmem hruns hlevel => ?_, h.nonempty, fun node hmem hnot => ?_⟩
  · rcases get?_set_eq_some.mp hget' with ⟨heq, rfl⟩ | ⟨hne, hget'⟩
    · obtain ⟨hmem, hid, hruns, hlevel, -⟩ := h.thread nodeId t hget
      exact heq ▸ ⟨hmem, hid, hruns, hlevel, hrow⟩
    · rw [hothers id hne]
      exact h.thread id t' hget'
  · rw [hkeys]
    exact h.all node hmem hruns hlevel
  · rw [hkeys] at hnot
    have hne : node.nodeId ≠ nodeId := by
      rintro rfl
      rw [contains, hget] at hnot
      cases hnot
    rw [hothers _ hne]
    exact h.rest node hmem hnot

/-- **Joining the pool** ends the round. -/
theorem joined (h : PhaseInv nodes outcome q rows (.pool threads))
    (hdone : threads.values.all fun t => t.run.finished) :
    PhaseInv nodes outcome (SoloRun.roundAfter q (.pool threads) (Execution.joined threads)) rows
      (Execution.joined threads) := by
  obtain ⟨hrecorded, hpool⟩ := h
  unfold Execution.joined
  split
  · rename_i hraised
    obtain ⟨t, ht, hrun⟩ := List.any_eq_true.mp hraised
    obtain ⟨nodeId, hget⟩ := (threads.mem_values_iff t).mp ht
    obtain ⟨hmem, rfl, hruns, -, row, -, hinv⟩ := hpool.thread nodeId t hget
    rw [of_decide_eq_true hrun] at hinv
    exact ⟨t.node, hmem, hruns, hinv⟩
  · rename_i hquiet
    have hended : ∀ nodeId t, threads.get? nodeId = some t → ∃ claimed, t.run = .ended claimed := by
      intro nodeId t hget
      have hmem := mem_values_of_get? hget
      have hfinished := List.all_eq_true.mp hdone t hmem
      cases hrun : t.run with
      | ended claimed => exact ⟨claimed, rfl⟩
      | raised => exact absurd (List.any_eq_true.mpr ⟨t, hmem, decide_eq_true hrun⟩) hquiet
      | queued | claiming | claimed | running => rw [hrun] at hfinished; cases hfinished
    have hresult : ∀ node ∈ nodes, ∀ t, threads.get? node.nodeId = some t → t.node = node ∧ t.run = .ended true ∧
        Settles outcome node ∧ ∃ row, rows.get? node.nodeId = some row ∧
          (Succeeds outcome node → row.status = .completed) ∧ (¬Succeeds outcome node → row.status = .failed) := by
      intro node hnode t hget
      obtain ⟨hmem, hid, -, -, row, hrowGet, hinv⟩ := hpool.thread node.nodeId t hget
      obtain rfl := eq_of_nodeId hdag hmem hnode hid
      obtain ⟨claimed, hrun⟩ := hended t.node.nodeId t hget
      rw [hrun] at hinv
      obtain ⟨rfl, hsettles, hc, hf⟩ := hinv
      exact ⟨rfl, hrun, hsettles, row, hrowGet, hc, hf⟩
    obtain ⟨first, hfirst, hfirstRuns, hfirstLevel⟩ := hpool.nonempty
    obtain ⟨t₀, ht₀⟩ := Option.isSome_iff_exists.mp (hpool.all first hfirst hfirstRuns hfirstLevel)
    have hany : threads.values.any fun t => decide (t.run = .ended true) :=
      List.any_eq_true.mpr ⟨t₀, mem_values_of_get? ht₀, decide_eq_true (hresult first hfirst t₀ ht₀).2.1⟩
    rw [if_pos hany]
    show PhaseInv nodes outcome (q + 1) rows .scanning
    refine ⟨⟨fun node hmem hruns hlevel => ?_, .inr ⟨first, hfirst, hfirstRuns, hfirstLevel⟩⟩, fun node hmem => ?_⟩
    · rcases Nat.lt_or_ge q (levelOf nodes node.nodeId) with hlt | hge
      · obtain ⟨t, ht⟩ := Option.isSome_iff_exists.mp (hpool.all node hmem hruns (by omega))
        exact (hresult node hmem t ht).2.2.1
      · exact hrecorded.settled node hmem hruns hge
    · cases hthread : threads.get? node.nodeId with
      | some t =>
        obtain ⟨-, -, -, row, hrowGet, hc, hf⟩ := hresult node hmem t hthread
        obtain ⟨-, -, hruns, hlevel, -⟩ := hpool.thread node.nodeId t hthread
        refine ⟨row, hrowGet, fun hcompletes _ => hc ((completes_iff hdag hmem).mp hcompletes).2,
          fun hfails _ => hf ((fails_iff hdag hmem).mp hfails).2, fun hb => absurd hb (not_blockedBy_of_runs hdag hruns),
          fun hnot _ => absurd ⟨hruns, hlevel.le⟩ hnot⟩
      | none =>
        have hnot : threads.contains node.nodeId = false := by rw [contains, hthread]; rfl
        obtain ⟨row, hrowGet, hrow⟩ := hpool.rest node hmem hnot
        -- a node without a thread that runs is of an earlier level
        have hearlier : Runs nodes outcome node.nodeId → levelOf nodes node.nodeId ≠ q + 1 := by
          intro hruns hlevel
          rw [hpool.all node hmem hruns hlevel] at hnot
          cases hnot
        refine ⟨row, hrowGet, fun hcompletes hlevel => hrow.completed hcompletes ?_,
          fun hfails hlevel => hrow.failed hfails ?_, hrow.blocked, fun hout hb => hrow.waiting (fun hran => ?_) hb⟩
        · have hne := hearlier ((completes_iff hdag hmem).mp hcompletes).1
          omega
        · have hne := hearlier ((fails_iff hdag hmem).mp hfails).1
          omega
        · exact hout ⟨hran.1, Nat.le_succ_of_le hran.2⟩

/-! ### The threads -/

omit hdag in
theorem succeeds_false_of_failedUpTo {k j : ℕ} (h : FailedUpTo outcome node k) (hj : 1 ≤ j) (hle : j ≤ k) :
    (outcome node j).succeeds = false ∧ (outcome node j).recorded = true := by
  obtain ⟨error, heq⟩ := h j hj hle
  rw [heq]
  exact ⟨rfl, rfl⟩

variable {leaseId : String}

omit hdag in
/-- **What the engine writes of an attempt** is what the attempts up to it determine. -/
theorem finished_thread {k : ℕ} (hget : rows.get? node.nodeId = some row)
    (hinv : RunInv outcome node row (.running leaseId k)) :
    ∃ row', (Execution.finishThread rows node leaseId k (outcome node k) reading).1.get? node.nodeId = some row' ∧
      RunInv outcome node row' (Execution.finishThread rows node leaseId k (outcome node k) reading).2 := by
  obtain ⟨hrunning, hlease, hattempts, hk, hmax, hbefore⟩ := hinv
  have hheld : ∀ change, rows.heldUpdate node.nodeId leaseId change = (true, rows.set node.nodeId (change row)) :=
    fun _ => heldUpdate_of_get? hget hlease hrunning
  -- every attempt before this one was raised and caught
  have hearlier : ∀ j, 1 ≤ j → j < k → (outcome node j).succeeds = false ∧ (outcome node j).recorded = true :=
    fun j hj hlt => succeeds_false_of_failedUpTo hbefore hj (by omega)
  unfold finishThread
  cases houtcome : outcome node k with
  | returned resultJson =>
    simp only [setCompleted, hheld]
    have hsucceeds : Succeeds outcome node := ⟨k, hk, hmax, by rw [houtcome]; rfl⟩
    refine ⟨_, get?_set_self _ _ _, rfl, fun j hj hjmax hfirst => ?_, fun _ => rfl, fun hnot => absurd hsucceeds hnot⟩
    rcases Nat.lt_trichotomy j k with hlt | rfl | hgt
    · exact (hearlier j hj hlt).2
    · rw [houtcome]
      rfl
    · have hfalse := hfirst k hk hgt
      rw [houtcome] at hfalse
      cases hfalse
  | unencodable | escaped =>
    refine ⟨row, hget, fun hsettles => ?_⟩
    have hrecorded := hsettles k hk hmax fun j hj hlt => (hearlier j hj hlt).1
    rw [houtcome] at hrecorded
    cases hrecorded
  | raised error =>
    have hall : FailedUpTo outcome node k := by
      intro j hj hle
      rcases Nat.lt_or_ge j k with hlt | hge
      · exact hbefore j hj (by omega)
      · obtain rfl : j = k := by omega
        exact ⟨error, houtcome⟩
    by_cases hleft : (k : ℤ) < node.maxAttempts
    · simp only [if_pos hleft, releaseForRetry, hheld]
      exact ⟨_, get?_set_self _ _ _, rfl, rfl, hk, hleft, hall⟩
    · simp only [if_neg hleft, setFailed, hheld]
      have hfails : ¬Succeeds outcome node := by
        rintro ⟨j, hj, hjmax, hs⟩
        rw [(succeeds_false_of_failedUpTo hall hj (by omega)).1] at hs
        cases hs
      refine ⟨_, get?_set_self _ _ _, rfl, fun j hj hjmax _ => ?_, fun hs => absurd hs hfails, fun _ => rfl⟩
      exact (succeeds_false_of_failedUpTo hall hj (by omega)).2

omit hdag in
theorem get?_finishThread_of_ne {k : ℕ} {result : AttemptOutcome} (h : nodeId ≠ node.nodeId) :
    (Execution.finishThread rows node leaseId k result reading).1.get? nodeId = rows.get? nodeId := by
  have hheld : ∀ change, (rows.heldUpdate node.nodeId leaseId change).2.get? nodeId = rows.get? nodeId :=
    fun change => get?_updateWhere_of_ne h
  unfold finishThread
  cases result with
  | returned resultJson =>
    dsimp only
    split
    · rename_i rows' hwrite
      exact (congrArg (fun r => r.2.get? nodeId) hwrite).symm.trans (hheld _)
    · rename_i rows' hwrite
      exact (congrArg (fun r => r.2.get? nodeId) hwrite).symm.trans (hheld _)
  | unencodable => rfl
  | escaped => rfl
  | raised error =>
    dsimp only
    split
    · split
      · rename_i rows' hwrite
        exact (congrArg (fun r => r.2.get? nodeId) hwrite).symm.trans (hheld _)
      · rename_i rows' hwrite
        exact (congrArg (fun r => r.2.get? nodeId) hwrite).symm.trans (hheld _)
    · split
      · rename_i rows' hwrite
        exact (congrArg (fun r => r.2.get? nodeId) hwrite).symm.trans (hheld _)
      · rename_i rows' hwrite
        exact (congrArg (fun r => r.2.get? nodeId) hwrite).symm.trans (hheld _)

variable {leaseSeconds : ℚ}

omit hdag in
theorem claimed_thread (hget : rows.get? node.nodeId = some row)
    (hpending : row.status = .pending) (hleft : (row.attempts : ℤ) < node.maxAttempts)
    (hbefore : FailedUpTo outcome node row.attempts) :
    ∃ row', (Execution.claimThread rows node leaseId leaseSeconds reading).1.get? node.nodeId = some row' ∧
      RunInv outcome node row' (Execution.claimThread rows node leaseId leaseSeconds reading).2 := by
  have hopen : row.claimable reading = true := by simp [NodeRow.claimable, hpending]
  rw [claimThread, claimNode_of_claimable hget hopen hleft]
  exact ⟨_, get?_set_self _ _ _, rfl, rfl, rfl, by omega, by omega, by simpa using hbefore⟩

omit hdag in
theorem get?_claimThread_of_ne (h : nodeId ≠ node.nodeId) :
    (Execution.claimThread rows node leaseId leaseSeconds reading).1.get? nodeId = rows.get? nodeId := by
  unfold claimThread
  split
  · rename_i rows' hclaim
    rw [claimNode_eq_none hclaim]
  · rename_i attempts rows' hclaim
    obtain ⟨row, -, -, -, -, rfl⟩ := claimNode_eq_some hclaim
    exact get?_set_of_ne _ h _

/-- **A step of a thread** keeps what the pool is. -/
theorem stepped {e : Execution} {t : NodeThread} {move : Move}
    {r : NodeTable × NodeRun} (h : PhaseInv nodes outcome q rows (.pool threads))
    (hget : threads.get? nodeId = some t) (hstep : Execution.threadStep outcome rows e threads t move = some r) :
    PhaseInv nodes outcome q r.1 (.pool (threads.set nodeId { t with run := r.2 })) := by
  obtain ⟨hrecorded, hpool⟩ := h
  obtain ⟨hmem, rfl, -, -, row, hrowGet, hinv⟩ := hpool.thread nodeId t hget
  have hattempts := (hdag.attempts t.node hmem).1
  have hclaims : ∀ leaseId leaseSeconds reading, row.status = .pending → (row.attempts : ℤ) < t.node.maxAttempts →
      FailedUpTo outcome t.node row.attempts →
      PhaseInv nodes outcome q (claimThread rows t.node leaseId leaseSeconds reading).1
        (.pool (threads.set t.node.nodeId
          { t with run := (claimThread rows t.node leaseId leaseSeconds reading).2 })) :=
    fun leaseId leaseSeconds reading hpending hleft hbefore =>
      ⟨hrecorded, hpool.update hget (fun _ hne => get?_claimThread_of_ne hne)
        (claimed_thread hrowGet hpending hleft hbefore)⟩
  unfold threadStep at hstep
  cases hrun : t.run with
  | queued =>
    rw [hrun] at hstep hinv
    obtain ⟨hpending, hzero⟩ := hinv
    cases move with
    | claim id leaseId reading =>
      dsimp only at hstep
      split at hstep
      · obtain rfl := Option.some.inj hstep
        refine hclaims leaseId e.leaseSeconds reading hpending (by omega) fun j hj hle => ?_
        omega
      · cases hstep
    | main | start | finish | heartbeat => cases hstep
  | claiming k =>
    rw [hrun] at hstep hinv
    obtain ⟨hpending, hk, -, hleft, hbefore⟩ := hinv
    cases move with
    | claim id leaseId reading =>
      obtain rfl := Option.some.inj hstep
      exact hclaims leaseId e.leaseSeconds reading hpending (by omega) (hk ▸ hbefore)
    | main | start | finish | heartbeat => cases hstep
  | claimed leaseId k =>
    rw [hrun] at hstep hinv
    cases move with
    | start id =>
      obtain rfl := Option.some.inj hstep
      exact ⟨hrecorded, hpool.update hget (fun _ _ => rfl) ⟨row, hrowGet, hinv⟩⟩
    | claim | main | finish | heartbeat => cases hstep
  | running leaseId k =>
    rw [hrun] at hstep hinv
    cases move with
    | finish id reading =>
      obtain rfl := Option.some.inj hstep
      exact ⟨hrecorded, hpool.update hget (fun _ hne => get?_finishThread_of_ne hne) (finished_thread hrowGet hinv)⟩
    | claim | main | start | heartbeat => cases hstep
  | ended claimed | raised =>
    rw [hrun] at hstep
    cases move <;> cases hstep

/-! ### Heartbeats -/

omit hdag in
/-- A heartbeat moves the expiry of a lease and nothing that the invariant looks at. -/
theorem get?_heartbeat {id : String} (hget : rows.get? nodeId = some row) :
    ∃ row', (rows.heartbeat id leaseId leaseSeconds reading).2.get? nodeId = some row' ∧
      row'.status = row.status ∧ row'.attempts = row.attempts ∧ row'.leaseId = row.leaseId := by
  rw [heartbeat, heldUpdate, get?_updateWhere]
  split
  · rename_i heq
    subst heq
    rw [hget, Option.map_some]
    split
    · exact ⟨_, rfl, rfl, rfl, rfl⟩
    · exact ⟨_, rfl, rfl, rfl, rfl⟩
  · exact ⟨row, hget, rfl, rfl, rfl⟩

omit hdag in
theorem AsOf.congr {b : ℕ} {row' : NodeRow} (h : AsOf nodes outcome q b node row) (hstatus : row'.status = row.status)
    (hattempts : row'.attempts = row.attempts) : AsOf nodes outcome q b node row' :=
  ⟨fun hc hl => hstatus.trans (h.completed hc hl), fun hf hl => hstatus.trans (h.failed hf hl),
    fun hb => hstatus.trans (h.blocked hb),
    fun hn hb => ⟨hstatus.trans (h.waiting hn hb).1, hattempts.trans (h.waiting hn hb).2⟩⟩

omit hdag in
theorem RunInv.congr {row' : NodeRow} {run : NodeRun} (h : RunInv outcome node row run)
    (hstatus : row'.status = row.status) (hattempts : row'.attempts = row.attempts)
    (hlease : row'.leaseId = row.leaseId) : RunInv outcome node row' run := by
  cases run with
  | queued => exact ⟨hstatus.trans h.1, hattempts.trans h.2⟩
  | claiming k => exact ⟨hstatus.trans h.1, hattempts.trans h.2.1, h.2.2⟩
  | claimed leaseId k
  | running leaseId k => exact ⟨hstatus.trans h.1, hlease.trans h.2.1, hattempts.trans h.2.2.1, h.2.2.2⟩
  | ended claimed => exact ⟨h.1, h.2.1, fun hs => hstatus.trans (h.2.2.1 hs), fun hs => hstatus.trans (h.2.2.2 hs)⟩
  | raised => exact h

omit hdag in
theorem tableAsOf_heartbeat {b : ℕ} {id : String} (h : TableAsOf nodes outcome q b rows) :
    TableAsOf nodes outcome q b (rows.heartbeat id leaseId leaseSeconds reading).2 := by
  intro node hmem
  obtain ⟨row, hget, hrow⟩ := h node hmem
  obtain ⟨row', hget', hstatus, hattempts, -⟩ := get?_heartbeat hget
  exact ⟨row', hget', hrow.congr hstatus hattempts⟩

omit hdag in
/-- **A heartbeat** keeps what the table is. -/
theorem beaten {phase : Phase} {id : String} (h : PhaseInv nodes outcome q rows phase) :
    PhaseInv nodes outcome q (rows.heartbeat id leaseId leaseSeconds reading).2 phase := by
  cases phase with
  | entered =>
    have hmiss : rows.hits id (NodeRow.heldUnder leaseId) = false := by
      rw [hits, get?, h.1]
      rfl
    rw [heartbeat, heldUpdate, updateWhere_of_not_hits hmiss]
    exact h
  | scanning => exact ⟨h.1, tableAsOf_heartbeat h.2⟩
  | blocking snapshot todo =>
    obtain ⟨hrecorded, hsnapshot, hsuffix, hrows⟩ := h
    refine ⟨hrecorded, hsnapshot, hsuffix, fun node hmem => ?_⟩
    obtain ⟨row, hget, hrow⟩ := hrows node hmem
    obtain ⟨row', hget', hstatus, hattempts, -⟩ := get?_heartbeat hget
    exact ⟨row', hget', hrow.congr hstatus hattempts⟩
  | expiring snapshot todo => exact ⟨h.1, h.2.1, h.2.2.1, tableAsOf_heartbeat h.2.2.2⟩
  | pool threads =>
    obtain ⟨hrecorded, hpool⟩ := h
    refine ⟨hrecorded, fun nodeId t hget => ?_, hpool.all, hpool.nonempty, fun node hmem hnot => ?_⟩
    · obtain ⟨hmem, hid, hruns, hlevel, row, hrowGet, hinv⟩ := hpool.thread nodeId t hget
      obtain ⟨row', hget', hstatus, hattempts, hlease⟩ := get?_heartbeat hrowGet
      exact ⟨hmem, hid, hruns, hlevel, row', hget', hinv.congr hstatus hattempts hlease⟩
    · obtain ⟨row, hrowGet, hrow⟩ := hpool.rest node hmem hnot
      obtain ⟨row', hget', hstatus, hattempts, -⟩ := get?_heartbeat hrowGet
      exact ⟨row', hget', hrow.congr hstatus hattempts⟩
  | closing => exact ⟨h.1, tableAsOf_heartbeat h.2.1, h.2.2⟩
  | returned final => exact h
  | raised => exact h

end Phases

/-! ### Every move -/

namespace SoloRun

/-- The call executes the definition, and the table is what the runner determines. -/
structure Sound (nodes : List WorkflowNode) (outcome : WorkflowNode → ℕ → AttemptOutcome) (s : SoloRun) : Prop where
  nodes_eq : s.execution.nodes = nodes
  phase : PhaseInv nodes outcome s.round s.rows s.execution.phase

variable {s : SoloRun}

theorem contains_all {b : ℕ} (h : TableAsOf nodes outcome q b rows) :
    (nodes.all fun node => rows.contains node.nodeId) = true := by
  refine List.all_eq_true.mpr fun node hmem => ?_
  obtain ⟨row, hget, -⟩ := h node hmem
  rw [contains, hget]
  rfl

theorem Sound.start (e : Execution) : Sound e.nodes outcome (start e) := ⟨rfl, rfl, rfl⟩

/-- **A step of the main thread.** -/
theorem Sound.mainStep (hdag : ValidDag nodes) (h : Sound nodes outcome s) (check reading : ℚ) :
    Sound nodes outcome (s.step outcome (.main check reading)) := by
  obtain ⟨hnodes, hphase⟩ := h
  rw [SoloRun.step, Execution.step]
  generalize hp : s.execution.phase = phase at hphase
  subst hnodes
  cases phase with
  | entered =>
    simp only [mainStep, hp]
    obtain ⟨hrows, hround⟩ := hphase
    exact ⟨rfl, hround ▸ ensured hdag hrows reading⟩
  | scanning =>
    simp only [mainStep, hp]
    refine ⟨rfl, hphase.1, hphase.2, List.suffix_refl _, fun node hmem => ?_⟩
    obtain ⟨row, hget, hrow⟩ := hphase.2 node hmem
    exact ⟨row, hget, by rwa [if_pos hmem]⟩
  | blocking snapshot todo =>
    cases todo with
    | nil =>
      simp only [mainStep, hp]
      have hrows : TableAsOf s.execution.nodes outcome s.round (s.round + 1) s.rows := hphase.2.2.2
      exact ⟨rfl, hphase.1, hrows, List.Subset.refl _, hrows⟩
    | cons node todo =>
      obtain ⟨row, hget, -⟩ := hphase.2.1 node (hphase.2.2.1.subset List.mem_cons_self)
      simp only [mainStep, hp, hget]
      exact ⟨rfl, blocked hdag hphase hget⟩
  | expiring snapshot todo =>
    obtain ⟨hrecorded, hsnapshot, htodo, hrows⟩ := hphase
    cases todo with
    | nil =>
      have hready := collected hdag hrecorded hrows
      simp only [mainStep, hp, contains_all hrows, if_true]
      exact ⟨rfl, hready⟩
    | cons node todo =>
      have hmem : node ∈ s.execution.nodes := htodo List.mem_cons_self
      obtain ⟨row, hget, hrow⟩ := hsnapshot node hmem
      simp only [mainStep, hp, hget, expireNode_asOf hdag hmem hrow]
      exact ⟨rfl, hrecorded, hsnapshot, fun x hx => htodo (List.mem_cons_of_mem _ hx), hrows⟩
  | pool threads =>
    by_cases hdone : threads.values.all fun t => t.run.finished
    · simp only [mainStep, hp, hdone, if_true]
      exact ⟨rfl, joined hdag hphase hdone⟩
    · simp only [mainStep, hp, hdone]
      refine ⟨rfl, ?_⟩
      show PhaseInv _ _ (roundAfter s.round _ s.execution.phase) _ s.execution.phase
      rw [hp]
      exact hphase
  | closing =>
    simp only [mainStep, hp, contains_all hphase.2.1, if_true]
    exact ⟨rfl, hphase⟩
  | returned final | raised =>
    simp only [mainStep, hp]
    refine ⟨rfl, ?_⟩
    show PhaseInv _ _ s.round s.rows s.execution.phase
    rw [hp]
    exact hphase

/-- **A step of a thread of the pool.** -/
theorem Sound.poolStep (hdag : ValidDag nodes) (h : Sound nodes outcome s) (nodeId : String) (move : Move) :
    let after := s.execution.poolStep outcome s.rows nodeId move
    Sound nodes outcome ⟨after.1, after.2, roundAfter s.round s.execution.phase after.2.phase⟩ := by
  obtain ⟨hnodes, hphase⟩ := h
  have hsame : Sound nodes outcome ⟨s.rows, s.execution, roundAfter s.round s.execution.phase s.execution.phase⟩ := by
    refine ⟨hnodes, ?_⟩
    have hround : roundAfter s.round s.execution.phase s.execution.phase = s.round := by
      cases s.execution.phase <;> rfl
    rw [hround]
    exact hphase
  intro after
  unfold after Execution.poolStep
  split
  · rename_i threads hp
    split
    · exact hsame
    · rename_i t hget
      split
      · exact hsame
      · rename_i rows' run hstep
        rw [hp] at hphase
        refine ⟨hnodes, ?_⟩
        rw [hp]
        exact stepped hdag hphase hget hstep
  · exact hsame

theorem Sound.step (hdag : ValidDag nodes) (h : Sound nodes outcome s) (move : Move) :
    Sound nodes outcome (s.step outcome move) := by
  cases move with
  | main check reading => exact h.mainStep hdag check reading
  | claim nodeId leaseId reading | start nodeId | finish nodeId reading => exact h.poolStep hdag nodeId _
  | heartbeat nodeId leaseId reading =>
    refine ⟨h.nodes_eq, ?_⟩
    have hround : roundAfter s.round s.execution.phase s.execution.phase = s.round := by
      cases s.execution.phase <;> rfl
    show PhaseInv _ _ (roundAfter s.round s.execution.phase s.execution.phase) _ _
    rw [hround]
    exact beaten h.phase

theorem Sound.run (e : Execution) (moves : List Move) :
    Sound e.nodes outcome (Run.exec (SoloRun.step outcome) (SoloRun.start e) moves) :=
  Run.exec_of_forall (Sound e.nodes outcome) (fun _ move h => h.step (validDag_of_validateDag e.valid) move)
    (Sound.start e) moves

end SoloRun

end ComputeMesh.Platform.Workflow
