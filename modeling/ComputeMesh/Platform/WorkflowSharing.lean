import ComputeMesh.Platform.WorkflowLeases
import ComputeMesh.Lib.Run

/-!
# Processes that share a workflow

Any number of processes execute one workflow on one database, each with its threads, while leases expire, processes
crash and failed nodes are reset.

* `SharedRun.step` — one move of one process, a crash, a reset or the clock moving on;
* `events` — what a step adds to the history;
* `Timely` — a node is blocked only for a failure that has not been reset since it was seen, and a runner is started only
  while its lease has not been taken away;
* `SharedRun.Sound` — **what every timely step keeps**;
* `SharedRun.Sound.update` — the rule for a step of one process.
-/

namespace ComputeMesh.Platform.Workflow

/-- A process in `execute`, and the nodes that were reset since its last snapshot for blocking. -/
structure SharedCall where
  execution : Execution
  resetSince : List String

/-- The database, the clock, the processes and the history. -/
structure SharedRun where
  rows : NodeTable
  now : ℚ
  calls : Dict ℕ SharedCall
  log : List NodeEvent

/-- A step of the system.  The outcomes of the attempts are whatever they are when the step is taken. -/
inductive SharedStep
  | clock (time : ℚ)
  | enter (call : ℕ) (e : Execution)
  | move (call : ℕ) (outcome : WorkflowNode → ℕ → AttemptOutcome) (move : Move)
  | crash (call : ℕ)
  | resetFailed (reading : ℚ)

/-- A clock is read before the database is written, and a new lease has an id of its own. -/
def movePossible (log : List NodeEvent) (now : ℚ) : Move → Bool
  | .main check reading => decide (check ≤ now ∧ reading ≤ now)
  | .claim _ leaseId reading => decide (reading ≤ now) && (leaseOn leaseId log).isNone
  | .start _ => true
  | .finish _ reading => decide (reading ≤ now)
  | .heartbeat _ _ reading => decide (reading ≤ now)

/-- What a step of a thread adds to the history, from where the thread stood before and stands after it. -/
def threadEvents (nodeId : String) (expires : ℚ) : NodeRun → NodeRun → List NodeEvent
  | .queued, .claimed leaseId _ => [.claimed nodeId leaseId expires]
  | .claiming _, .claimed leaseId _ => [.claimed nodeId leaseId expires]
  | .claimed leaseId _, .running _ _ => [.started nodeId leaseId]
  | .running leaseId _, .claiming _ => [.givenBack leaseId]
  | .running leaseId _, .ended _ => [.givenBack leaseId]
  | _, _ => []

def moveReading : Move → ℚ
  | .main _ reading => reading
  | .claim _ _ reading => reading
  | .start _ => 0
  | .finish _ reading => reading
  | .heartbeat _ _ reading => reading

/-- What a step of the thread of a node adds. -/
def poolEvents (outcome : WorkflowNode → ℕ → AttemptOutcome) (rows : NodeTable) (e : Execution) (nodeId : String)
    (move : Move) : List NodeEvent :=
  match e.phase with
  | .pool threads =>
    match threads.get? nodeId with
    | none => []
    | some t =>
      match Execution.threadStep outcome rows e threads t move with
      | none => []
      | some r => threadEvents nodeId (moveReading move + e.leaseSeconds) t.run r.2
  | _ => []

/-- What a move of a process adds to the history. -/
def moveEvents (outcome : WorkflowNode → ℕ → AttemptOutcome) (rows : NodeTable) (e : Execution) : Move → List NodeEvent
  | .main _ _ => []
  | .claim nodeId leaseId reading => poolEvents outcome rows e nodeId (.claim nodeId leaseId reading)
  | .start nodeId => poolEvents outcome rows e nodeId (.start nodeId)
  | .finish nodeId reading => poolEvents outcome rows e nodeId (.finish nodeId reading)
  | .heartbeat nodeId leaseId reading =>
    if (rows.heartbeat nodeId leaseId e.leaseSeconds reading).1 then [.renewed leaseId (reading + e.leaseSeconds)] else []

/-- A new snapshot for blocking has seen every reset so far. -/
def SharedCall.after (c : SharedCall) (e : Execution) : SharedCall :=
  match c.execution.phase with
  | .scanning => ⟨e, []⟩
  | _ => ⟨e, c.resetSince⟩

namespace SharedRun

def start (now : ℚ) : SharedRun := ⟨Dict.empty, now, Dict.empty, []⟩

/-- The moves of a process that are possible now. -/
def movable (s : SharedRun) (call : ℕ) (move : Move) : Option SharedCall :=
  if movePossible s.log s.now move = true then s.calls.get? call else none

/-- What a step adds to the history. -/
def events (s : SharedRun) : SharedStep → List NodeEvent
  | .move call outcome move =>
    match s.movable call move with
    | none => []
    | some c => moveEvents outcome s.rows c.execution move
  | .resetFailed reading => if reading ≤ s.now then (resettable s.rows).map .reset else []
  | _ => []

/-- One step.  A call of the same workflow has the nodes of the definition, in any order: with others the digests differ
and it raises before it touches a row. -/
def step (definition : List WorkflowNode) (s : SharedRun) (act : SharedStep) : SharedRun :=
  let log := s.events act ++ s.log
  match act with
  | .clock time => { s with now := max s.now time }
  | .enter call e =>
    if s.calls.contains call = false ∧ e.nodes.Perm definition then
      { s with calls := s.calls.set call ⟨e.withPhase .entered, []⟩ }
    else s
  | .move call outcome move =>
    match s.movable call move with
    | none => s
    | some c =>
      let after := c.execution.step outcome s.rows move
      { s with rows := after.1, calls := s.calls.set call (c.after after.2), log }
  | .crash call => { s with calls := s.calls.erase call }
  | .resetFailed reading =>
    if reading ≤ s.now then
      { s with
        rows := (s.rows.resetFailed reading).2, log
        calls := s.calls.mapValues fun c => { c with resetSince := resettable s.rows ++ c.resetSince } }
    else s

end SharedRun

/-! ### Timely steps -/

/-- The dependencies for which the main thread is about to block the next node: the snapshot shows the node as neither
completed, failed nor blocked, and these as failed or blocked. -/
def blockingFor (e : Execution) : List String :=
  match e.phase with
  | .blocking snapshot (node :: _) =>
    match snapshot.get? node.nodeId with
    | some row =>
      if row.status ∈ [NodeStatus.completed, .failed, .blocked] then [] else Execution.failedDependencies snapshot node
    | none => []
  | _ => []

/-- If the main thread is about to block a node, one of the failures that it saw has not been reset since. -/
def blocksInTime (c : SharedCall) : Bool :=
  decide (blockingFor c.execution = []) || (blockingFor c.execution).any fun d => decide (d ∉ c.resetSince)

/-- If the thread is about to start the runner, the row still names its lease. -/
def startsInTime (s : SharedRun) (c : SharedCall) (nodeId : String) : Bool :=
  match c.execution.phase with
  | .pool threads =>
    match threads.get? nodeId with
    | some t =>
      match t.run with
      | .claimed leaseId _ => (s.rows.get? nodeId).any fun row => decide (row.leaseId = some leaseId)
      | _ => true
    | none => true
  | _ => true

/-- The step blocks a node in time and starts a runner in time. -/
def timely (s : SharedRun) : SharedStep → Bool
  | .move call _ (.main _ _) => (s.calls.get? call).all blocksInTime
  | .move call _ (.start nodeId) => (s.calls.get? call).all fun c => startsInTime s c nodeId
  | _ => true

def Timely (s : SharedRun) (act : SharedStep) : Prop := timely s act = true

instance : ∀ s act, Decidable (Timely s act) := fun s act => inferInstanceAs (Decidable (timely s act = true))

/-! ### How the table and the history evolve -/

/-- What a step leaves of the table and the history, for nodes that are not reset and leases that are not begun. -/
structure Evolves (reset begun : String → Prop) (rows : NodeTable) (log : List NodeEvent) (rows' : NodeTable)
    (log' : List NodeEvent) : Prop where
  completed : ∀ n row, rows.get? n = some row → row.status = .completed → rows'.get? n = some row
  failed : ∀ n, ¬reset n → Execution.statusIn rows [.failed, .blocked] n = true →
    Execution.statusIn rows' [.failed, .blocked] n = true
  leases : ∀ l n, leaseOn l log = some n → leaseOn l log' = some n
  attempts : ∀ n row' l, rows'.get? n = some row' → row'.leaseId = some l → leaseOn l log ≠ none →
    ∃ row, rows.get? n = some row ∧ row.leaseId = some l ∧ row.attempts = row'.attempts
  started : ∀ n l, NodeEvent.started n l ∈ log' → NodeEvent.started n l ∈ log ∨ begun l

section Evolution

variable {reset begun : String → Prop} {rows rows' : NodeTable} {log log' : List NodeEvent} {nodeId : String}
  {row row' : NodeRow}

theorem Evolves.refl (rows : NodeTable) (log : List NodeEvent) : Evolves reset begun rows log rows log :=
  ⟨fun _ _ h _ => h, fun _ _ h => h, fun _ _ h => h, fun _ row' _ h hl _ => ⟨row', h, hl, rfl⟩, fun _ _ h => .inl h⟩

theorem statusIn_eq_true {statuses : List NodeStatus} :
    Execution.statusIn rows statuses nodeId = true ↔ ∃ row, rows.get? nodeId = some row ∧ row.status ∈ statuses := by
  rw [Execution.statusIn]
  cases rows.get? nodeId with
  | none => simp
  | some row => simp

theorem Evolves.set (hget : rows.get? nodeId = some row) (hopen : row.status ≠ .completed)
    (hfailed : row.status ∈ [NodeStatus.failed, .blocked] → row'.status ∈ [NodeStatus.failed, .blocked])
    (hlease : ∀ l, row'.leaseId = some l → leaseOn l log ≠ none → row.leaseId = some l ∧ row.attempts = row'.attempts)
    (hleases : ∀ l n, leaseOn l log = some n → leaseOn l log' = some n)
    (hstarted : ∀ n l, NodeEvent.started n l ∈ log' → NodeEvent.started n l ∈ log) :
    Evolves reset begun rows log (rows.set nodeId row') log' := by
  refine ⟨fun n r hr hs => ?_, fun n _ hn => ?_, hleases, fun n r l hr hl hissued => ?_, fun n l h => .inl (hstarted n l h)⟩
  · rw [Dict.get?_set_of_ne _ (fun heq => ?_), hr]
    subst heq
    obtain rfl := Option.some.inj (hget.symm.trans hr)
    exact hopen hs
  · obtain ⟨r, hr, hs⟩ := statusIn_eq_true.mp hn
    refine statusIn_eq_true.mpr ?_
    by_cases heq : n = nodeId
    · subst heq
      obtain rfl := Option.some.inj (hget.symm.trans hr)
      exact ⟨row', Dict.get?_set_self _ _ _, hfailed hs⟩
    · exact ⟨r, by rw [Dict.get?_set_of_ne _ heq, hr], hs⟩
  · rcases Dict.get?_set_eq_some.mp hr with ⟨heq, rfl⟩ | ⟨-, hr⟩
    · exact heq ▸ ⟨row, hget, hlease l hl hissued⟩
    · exact ⟨r, hr, hl, rfl⟩

theorem DepsCompleted.evolve {definition : List WorkflowNode} (h : DepsCompleted definition rows nodeId)
    (hev : Evolves reset begun rows log rows' log') : DepsCompleted definition rows' nodeId := by
  intro node hmem hid d hd
  obtain ⟨r, hr, hs⟩ := Option.map_eq_some_iff.mp (h node hmem hid d hd)
  rw [statusOf_of_get? (hev.completed d r hr hs), hs]

end Evolution

/-! ### What every timely step keeps -/

/-- The lease that a thread holds, with the number of its attempt. -/
def holds : NodeRun → Option (String × ℕ)
  | .claimed leaseId attempts => some (leaseId, attempts)
  | .running leaseId attempts => some (leaseId, attempts)
  | _ => none

/-- The threads of a process. -/
def threadsOf (e : Execution) : Dict String NodeThread :=
  match e.phase with
  | .pool threads => threads
  | _ => Dict.empty

/-- The thread of a node of the process holds the lease. -/
def Holds (e : Execution) (leaseId nodeId : String) : Prop :=
  ∃ t k, (threadsOf e).get? nodeId = some t ∧ holds t.run = some (leaseId, k)

/-- The main thread is at a node of its list. -/
def atNode : Phase → List WorkflowNode
  | .blocking _ todo => todo
  | .expiring _ todo => todo
  | _ => []

variable (definition : List WorkflowNode)

/-- A thread runs a node that was ready, under a lease that was granted on it. -/
structure ThreadInv (rows : NodeTable) (log : List NodeEvent) (nodeId : String) (t : NodeThread) : Prop where
  mem : t.node ∈ definition
  id : t.node.nodeId = nodeId
  deps : DepsCompleted definition rows nodeId
  held : ∀ l k, holds t.run = some (l, k) → leaseOn l log = some nodeId ∧
    ∀ row, rows.get? nodeId = some row → row.leaseId = some l → row.attempts = k
  unstarted : ∀ l k, t.run = .claimed l k → NodeEvent.started nodeId l ∉ log

structure CallInv (rows : NodeTable) (log : List NodeEvent) (c : SharedCall) : Prop where
  nodes : ∀ node, node ∈ c.execution.nodes ↔ node ∈ definition
  todo : ∀ node ∈ atNode c.execution.phase, node ∈ definition
  seen : ∀ snapshot todo, c.execution.phase = .blocking snapshot todo → ∀ d,
    Execution.statusIn snapshot [.failed, .blocked] d = true → d ∉ c.resetSince →
      Execution.statusIn rows [.failed, .blocked] d = true
  thread : ∀ nodeId t, (threadsOf c.execution).get? nodeId = some t → ThreadInv definition rows log nodeId t

/-- The invariant of the system. -/
structure SharedRun.Sound (s : SharedRun) : Prop where
  rows : RowsInv definition s.rows s.log s.now
  calls : ∀ i c, s.calls.get? i = some c → CallInv definition s.rows s.log c
  unique : ∀ l i i' c c' n n', s.calls.get? i = some c → s.calls.get? i' = some c' → Holds c.execution l n →
    Holds c'.execution l n' → i = i' ∧ n = n'
  issued : ∀ n l, NodeEvent.started n l ∈ s.log → leaseOn l s.log ≠ none

variable {definition}

section Keep

variable {reset begun : String → Prop} {rows rows' : NodeTable} {log log' : List NodeEvent} {nodeId : String}
  {c : SharedCall}

theorem ThreadInv.evolve {t : NodeThread} (h : ThreadInv definition rows log nodeId t)
    (hev : Evolves reset begun rows log rows' log') (hnot : ∀ l k, t.run = .claimed l k → ¬begun l) :
    ThreadInv definition rows' log' nodeId t := by
  refine ⟨h.mem, h.id, h.deps.evolve hev, fun l k hl => ?_, fun l k hrun hin => ?_⟩
  · obtain ⟨hon, hattempts⟩ := h.held l k hl
    refine ⟨hev.leases l nodeId hon, fun row' hrow' hlease => ?_⟩
    obtain ⟨row, hrow, hlease', heq⟩ := hev.attempts nodeId row' l hrow' hlease (by rw [hon]; exact Option.some_ne_none _)
    rw [← heq]
    exact hattempts row hrow hlease'
  · rcases hev.started nodeId l hin with hold | hbegun
    · exact h.unstarted l k hrun hold
    · exact hnot l k hrun hbegun

theorem CallInv.evolve (h : CallInv definition rows log c) (hev : Evolves (fun _ => False) begun rows log rows' log')
    (hnot : ∀ l n, Holds c.execution l n → ¬begun l) : CallInv definition rows' log' c := by
  refine ⟨h.nodes, h.todo, fun snapshot todo hp d hd hd' => ?_, fun n t hget => ?_⟩
  · exact hev.failed d (fun hfalse => hfalse) (h.seen snapshot todo hp d hd hd')
  · refine (h.thread n t hget).evolve hev fun l k hrun => hnot l n ⟨t, k, hget, ?_⟩
    rw [hrun]
    rfl

/-- **A step of one process**: what it has to keep, of its own call and of the table. -/
theorem SharedRun.Sound.update {s : SharedRun} (h : SharedRun.Sound definition s) {i : ℕ} {c c' : SharedCall}
    (hcall : s.calls.get? i = some c) (hrows : RowsInv definition rows' log' s.now)
    (hev : Evolves (fun _ => False) begun s.rows s.log rows' log') (hbegun : ∀ l, begun l → ∃ n, Holds c.execution l n)
    (hcall' : CallInv definition rows' log' c')
    (hholds : ∀ l n, Holds c'.execution l n → Holds c.execution l n ∨ leaseOn l s.log = none)
    (hdistinct : ∀ l n n', Holds c'.execution l n → Holds c'.execution l n' → n = n') :
    SharedRun.Sound definition { s with rows := rows', calls := s.calls.set i c', log := log' } := by
  -- another call holds no lease that this call holds, and none that is new
  have hothers : ∀ j d, j ≠ i → s.calls.get? j = some d → ∀ l n n', Holds d.execution l n → ¬Holds c'.execution l n' := by
    intro j d hj hd l n n' hheld hheld'
    rcases hholds l n' hheld' with hold | hnew
    · exact hj (h.unique l j i d c n n' hd hcall hheld hold).1
    · obtain ⟨t, k, hget, hl⟩ := hheld
      rw [(((h.calls j d hd).thread n t hget).held l k hl).1] at hnew
      cases hnew
  refine ⟨hrows, fun j d hd => ?_, fun l j j' d d' n n' hd hd' hheld hheld' => ?_, fun n l hin hnone => ?_⟩
  · rcases Dict.get?_set_eq_some.mp hd with ⟨-, rfl⟩ | ⟨hj, hd⟩
    · exact hcall'
    · refine (h.calls j d hd).evolve hev fun l n hheld hb => ?_
      obtain ⟨n', hown⟩ := hbegun l hb
      exact hj (h.unique l j i d c n n' hd hcall hheld hown).1
  · rw [Dict.get?_set] at hd hd'
    split at hd
    · rename_i hj
      obtain rfl := Option.some.inj hd
      split at hd'
      · rename_i hj'
        obtain rfl := Option.some.inj hd'
        exact ⟨hj.trans hj'.symm, hdistinct l n n' hheld hheld'⟩
      · rename_i hj'
        exact absurd hheld (hothers j' d' hj' hd' l n' n hheld')
    · rename_i hj
      split at hd'
      · obtain rfl := Option.some.inj hd'
        exact absurd hheld' (hothers j d hj hd l n n' hheld)
      · exact h.unique l j j' d d' n n' hd hd' hheld hheld'
  · have hgranted : ∃ n', leaseOn l s.log = some n' := by
      rcases hev.started n l hin with hold | hb
      · exact Option.ne_none_iff_exists'.mp (h.issued n l hold)
      · obtain ⟨n', t, k, hget, hl⟩ := hbegun l hb
        exact ⟨n', (((h.calls i c hcall).thread n' t hget).held l k hl).1⟩
    obtain ⟨n', hon⟩ := hgranted
    have hon' : leaseOn l log' = some n' := hev.leases l n' hon
    rw [hnone] at hon'
    cases hon'

end Keep

end ComputeMesh.Platform.Workflow
