import ComputeMesh.Platform.WorkflowSharing

/-!
# Exclusive leases

* `SharedRun.Sound.step` — **every timely step keeps what the table and the threads are**, by one lemma for each kind of
  step;
* `SharedRun.Exclusive` — what exclusive leases promise of a step;
* `exclusive_leases` — every step of a timely run keeps the promise;
* `blocked_after_reset` — a stale snapshot blocks a node whose dependency has been reset.
-/

namespace ComputeMesh.Platform.Workflow

open Execution List Option Dict Evolves NodeTable SharedCall NodeRow

variable {definition : List WorkflowNode} {rows rows' : NodeTable} {log : List NodeEvent} {s : SharedRun}
  {i : ℕ} {c : SharedCall} {node : WorkflowNode} {nodeId : String} {row : NodeRow} {snapshot : NodeTable}
  {todo : List WorkflowNode} {reading : ℚ}

variable {phase : Phase}

namespace CallInv

theorem eq_of_nodeId (h : CallInv definition rows log c) {node' : WorkflowNode} (hmem : node ∈ definition)
    (hmem' : node' ∈ definition) (heq : node.nodeId = node'.nodeId) : node = node' := by
  have hdag := validDag_of_validateDag c.execution.valid
  have hfind := findNode_of_mem hdag.unique ((h.nodes node).mpr hmem)
  rw [heq, findNode_of_mem hdag.unique ((h.nodes node').mpr hmem')] at hfind
  exact (some.inj hfind).symm

theorem attempts_nonneg (h : CallInv definition rows log c) (hmem : node ∈ definition) : 0 ≤ node.maxAttempts := by
  have hpos := ((validDag_of_validateDag c.execution.valid).attempts node ((h.nodes node).mpr hmem)).1
  omega

theorem idle (h : CallInv definition rows log c) {resets : List String} (hnode : atNode phase = [])
    (hseen : ∀ snapshot todo, phase ≠ .blocking snapshot todo) (hpool : ∀ threads, phase ≠ .pool threads) :
    CallInv definition rows' log ⟨c.execution.withPhase phase, resets⟩ := by
  refine ⟨h.nodes, fun node hmem => ?_, fun snapshot todo hp => absurd hp (hseen snapshot todo), fun n t hget => ?_⟩
  · rw [phase_withPhase, hnode] at hmem
    cases hmem
  · rw [threadsOf, phase_withPhase] at hget
    cases phase with
    | pool threads => exact absurd rfl (hpool threads)
    | _ => cases hget

end CallInv

/-! ### The main thread -/

theorem SharedRun.Sound.moved (h : SharedRun.Sound definition s) (hcall : s.calls.get? i = some c) {phase : Phase}
    {resets : List String} (hrows : RowsInv definition rows' s.log s.now)
    (hev : Evolves (fun _ => False) (fun _ => False) s.rows s.log rows' s.log)
    (hcall' : CallInv definition rows' s.log ⟨c.execution.withPhase phase, resets⟩)
    (hidle : ∀ n t, (threadsOf (c.execution.withPhase phase)).get? n = some t → holds t.run = none) :
    SharedRun.Sound definition
      { s with rows := rows', calls := s.calls.set i ⟨c.execution.withPhase phase, resets⟩ } := by
  have hnone : ∀ l n, ¬Holds (c.execution.withPhase phase) l n := by
    rintro l n ⟨t, k, hget, hl⟩
    rw [hidle n t hget] at hl
    cases hl
  exact h.update hcall hrows hev (fun _ hfalse => hfalse.elim) hcall' (fun l n hheld => absurd hheld (hnone l n))
    fun l n _ hheld => absurd hheld (hnone l n)

/-- **Before a node is blocked** one of its dependencies is failed or blocked. -/
theorem exists_failed (h : CallInv definition rows log c) (hin : blocksInTime c = true)
    (hp : c.execution.phase = .blocking snapshot (node :: todo)) (hget : snapshot.get? node.nodeId = some row)
    (hopen : row.status ∉ [NodeStatus.completed, .failed, .blocked])
    (hsome : Execution.failedDependencies snapshot node ≠ []) :
    ∃ d ∈ node.dependencies, Execution.statusIn rows [.failed, .blocked] d = true := by
  have hblocking : blockingFor c.execution = failedDependencies snapshot node := by
    rw [blockingFor, hp]
    dsimp only
    rw [hget]
    exact if_neg hopen
  rw [blocksInTime, hblocking, decide_eq_false hsome, Bool.false_or] at hin
  obtain ⟨d, hd, hnot⟩ := any_eq_true.mp hin
  obtain ⟨hdep, hfailed⟩ := mem_filter.mp hd
  exact ⟨d, hdep, h.seen snapshot (node :: todo) hp d hfailed (of_decide_eq_true hnot)⟩

/-- The row of a node none of whose dependencies has to be completed first names no lease. -/
theorem not_unexpired_of_failed (h : SharedRun.Sound definition s) (hmem : node ∈ definition) {d : String}
    (hd : d ∈ node.dependencies) (hfailed : Execution.statusIn s.rows [.failed, .blocked] d = true) (l : String) :
    ¬Unexpired s.log s.now node.nodeId l := by
  intro hunexpired
  obtain ⟨row, hget, hl⟩ := h.rows.live node.nodeId l hunexpired
  have hinv := h.rows.row node.nodeId row hget
  have hcompleted := (hinv.running (hinv.lease l hl).1).2 node hmem rfl d hd
  obtain ⟨row', hget', hs⟩ := statusIn_eq_true.mp hfailed
  rw [statusOf_of_get? hget'] at hcompleted
  rw [some.inj hcompleted] at hs
  exact absurd hs (by decide)

/-- What the main thread writes when it blocks a node: nothing, or one row that was open. -/
theorem blockNode_eq : Execution.blockNode rows snapshot row node reading = rows ∨
    ∃ current reason, rows.get? node.nodeId = some current ∧ current.status ≠ .completed ∧
      row.status ∉ [NodeStatus.completed, .failed, .blocked] ∧ Execution.failedDependencies snapshot node ≠ [] ∧
        Execution.blockNode rows snapshot row node reading = rows.set node.nodeId (current.block reason reading) := by
  unfold blockNode setBlocked
  split
  · exact .inl rfl
  · rename_i hopen
    split
    · exact .inl rfl
    · rename_i hsome
      cases hhits : rows.hits node.nodeId blockable with
      | false => exact .inl (updateWhere_of_not_hits hhits)
      | true =>
        obtain ⟨current, hget, hblockable⟩ := hits_iff.mp hhits
        exact .inr ⟨current, _, hget, (of_decide_eq_true hblockable).1, hopen, hsome,
          updateWhere_of_get? hget hblockable⟩

theorem expireNode_eq {check : ℚ} : Execution.expireNode rows row node check reading = rows ∨
    ∃ current, rows.get? node.nodeId = some current ∧ current.status = .running ∧ current.leaseOver reading = true ∧
      Execution.expireNode rows row node check reading = rows.set node.nodeId (current.interrupt reading) := by
  unfold expireNode failExpiredFinalAttempt
  split
  · cases hhits : rows.hits node.nodeId (interruptedAtLast node.maxAttempts reading) with
    | false => exact .inl (updateWhere_of_not_hits hhits)
    | true =>
      obtain ⟨current, hget, hinterrupted⟩ := hits_iff.mp hhits
      refine .inr ⟨current, hget, ?_, ?_, updateWhere_of_get? hget hinterrupted⟩
      · simp only [interruptedAtLast, Bool.and_eq_true, decide_eq_true_eq] at hinterrupted
        exact hinterrupted.1.1
      · simp only [interruptedAtLast, Bool.and_eq_true] at hinterrupted
        exact hinterrupted.2
  · exact .inl rfl

theorem takenAway_keeps {row' : NodeRow} (h : RowsInv definition rows log s.now) (hget : rows.get? nodeId = some row)
    (hopen : row.status ≠ .completed) (hover : ∀ l, ¬Unexpired log s.now nodeId l) (hnone : row'.leaseId = none)
    (hstatus : row'.status ∈ [NodeStatus.failed, .blocked]) (hattempts : row'.attempts = row.attempts) :
    RowsInv definition (rows.set nodeId row') log s.now ∧
      Evolves (fun _ => False) (fun _ => False) rows log (rows.set nodeId row') log := by
  refine ⟨h.takenAway hget hopen hover hnone ?_ hattempts, set hget hopen (fun _ => hstatus) (fun l hl => ?_)
    (fun _ _ hon => hon) fun _ _ hin => hin⟩
  · intro hrunning
    rw [hrunning] at hstatus
    exact absurd hstatus (by decide)
  · rw [hnone] at hl
    cases hl

theorem blockNode_keeps (h : SharedRun.Sound definition s) (hcall : s.calls.get? i = some c) (hin : blocksInTime c = true)
    (hp : c.execution.phase = .blocking snapshot (node :: todo)) (hget : snapshot.get? node.nodeId = some row) :
    RowsInv definition (Execution.blockNode s.rows snapshot row node reading) s.log s.now ∧
      Evolves (fun _ => False) (fun _ => False) s.rows s.log (Execution.blockNode s.rows snapshot row node reading) s.log := by
  rcases (@blockNode_eq s.rows node row snapshot reading) with
    heq | ⟨current, reason, hcurrent, hnotdone, hopen, hsome, heq⟩
  · rw [heq]
    exact ⟨h.rows, refl _ _⟩
  · have hmem : node ∈ definition := (h.calls i c hcall).todo node (by rw [hp]; exact mem_cons_self)
    obtain ⟨d, hd, hfailed⟩ := exists_failed (h.calls i c hcall) hin hp hget hopen hsome
    rw [heq]
    exact takenAway_keeps h.rows hcurrent hnotdone (not_unexpired_of_failed h hmem hd hfailed) rfl
      (mem_cons_of_mem _ mem_cons_self) rfl

theorem expireNode_keeps {check : ℚ} (h : SharedRun.Sound definition s) (hreading : reading ≤ s.now) :
    RowsInv definition (Execution.expireNode s.rows row node check reading) s.log s.now ∧
      Evolves (fun _ => False) (fun _ => False) s.rows s.log (Execution.expireNode s.rows row node check reading) s.log := by
  rcases (@expireNode_eq s.rows node row reading check) with
    heq | ⟨current, hcurrent, hrunning, hover, heq⟩
  · rw [heq]
    exact ⟨h.rows, refl _ _⟩
  · rw [heq]
    refine takenAway_keeps h.rows hcurrent (by rw [hrunning]; decide) (fun l hunexpired => ?_) rfl mem_cons_self rfl
    have hl := h.rows.leaseId_of_unexpired hcurrent hunexpired
    obtain ⟨-, expires, huntil, hlt⟩ := hunexpired
    obtain ⟨-, -, -, expires', huntil', hexpires⟩ := (h.rows.row node.nodeId current hcurrent).lease l hl
    obtain rfl := some.inj (huntil.symm.trans huntil')
    have hle : expires ≤ reading := by simpa [leaseOver, hexpires] using hover
    exact absurd hlt (not_lt.mpr (hle.trans hreading))

theorem Evolves.ensured (nodes : List WorkflowNode) (reading : ℚ) :
    Evolves (fun _ => False) (fun _ => False) rows log (rows.ensureWorkflow nodes reading) log := by
  have hkept : ∀ n r, rows.get? n = some r → (rows.ensureWorkflow nodes reading).get? n = some r := by
    intro n r hr
    rw [ensureWorkflow_of_get? hr]
    exact hr
  refine ⟨fun n r hr _ => hkept n r hr, fun n _ hn => ?_, fun _ _ hon => hon, fun n r l hr hl _ => ?_,
    fun _ _ hin => .inl hin⟩
  · obtain ⟨r, hr, hs⟩ := statusIn_eq_true.mp hn
    exact statusIn_eq_true.mpr ⟨r, hkept n r hr, hs⟩
  · rcases get?_of_ensureWorkflow hr with hget | ⟨rfl, -⟩
    · exact ⟨r, hget, hl, rfl⟩
    · cases hl

theorem threadInv_of_ready (h : CallInv definition rows log c) (hmem : node ∈ definition)
    (hready : Execution.isReady rows node = true) : ThreadInv definition rows log node.nodeId ⟨node, .queued⟩ := by
  refine ⟨hmem, rfl, fun node' hmem' hid d hd => ?_, nofun, nofun⟩
  obtain rfl := h.eq_of_nodeId hmem' hmem hid
  have hall := all_eq_true.mp (Bool.and_eq_true_iff.mp hready).2 d hd
  obtain ⟨row, hget, hs⟩ := statusIn_eq_true.mp hall
  rw [statusOf_of_get? hget, mem_singleton.mp hs]

theorem SharedCall.after_of_scanning (hp : c.execution.phase = .scanning) (e : Execution) : c.after e = ⟨e, []⟩ := by
  rw [after, hp]

theorem SharedCall.after_of_ne (hp : c.execution.phase ≠ .scanning) (e : Execution) : c.after e = ⟨e, c.resetSince⟩ := by
  unfold after
  split
  · rename_i hscanning
    exact absurd hscanning hp
  · rfl

section

variable (h : SharedRun.Sound definition s) (hcall : s.calls.get? i = some c)
include h hcall

theorem SharedRun.Sound.keep (hrows : RowsInv definition rows' log s.now)
    (hev : Evolves (fun _ => False) (fun _ => False) s.rows s.log rows' log) :
    SharedRun.Sound definition { s with rows := rows', calls := s.calls.set i (c.after c.execution), log } := by
  have hinv : CallInv definition rows' log c := (h.calls i c hcall).evolve hev fun _ _ _ hfalse => hfalse
  have hcall' : CallInv definition rows' log (c.after c.execution) ∧ (c.after c.execution).execution = c.execution := by
    by_cases hp : c.execution.phase = .scanning
    · rw [after_of_scanning hp]
      refine ⟨⟨hinv.nodes, hinv.todo, fun snapshot todo hp' => ?_, hinv.thread⟩, rfl⟩
      exact nomatch hp.symm.trans hp'
    · rw [after_of_ne hp]
      exact ⟨hinv, rfl⟩
  refine h.update hcall hrows hev (fun _ hfalse => hfalse.elim) hcall'.1 (fun l n hheld => ?_) fun l n n' hheld hheld' => ?_
  · rw [hcall'.2] at hheld
    exact .inl hheld
  · rw [hcall'.2] at hheld hheld'
    exact (h.unique l i i c c n n' hcall hcall hheld hheld').2

theorem SharedRun.Sound.leave
    (hleave : phase = .scanning ∨ phase = .closing ∨ phase = .raised ∨ ∃ final, phase = .returned final) :
    SharedRun.Sound definition { s with calls := s.calls.set i ⟨c.execution.withPhase phase, c.resetSince⟩ } := by
  have hcall' : CallInv definition s.rows s.log ⟨c.execution.withPhase phase, c.resetSince⟩ ∧
      threadsOf (c.execution.withPhase phase) = empty := by
    rcases hleave with rfl | rfl | rfl | ⟨final, rfl⟩ <;> exact ⟨(h.calls i c hcall).idle rfl nofun nofun, rfl⟩
  refine h.moved hcall h.rows (refl _ _) hcall'.1 fun n t hget => ?_
  rw [hcall'.2] at hget
  cases hget

theorem SharedRun.Sound.next {resets : List String} (hrows : RowsInv definition rows' s.log s.now)
    (hev : Evolves (fun _ => False) (fun _ => False) s.rows s.log rows' s.log)
    (hpool : ∀ threads, phase ≠ .pool threads) (htodo : ∀ node ∈ atNode phase, node ∈ definition)
    (hseen : ∀ snapshot todo, phase = .blocking snapshot todo → ∀ d,
      Execution.statusIn snapshot [.failed, .blocked] d = true → d ∉ resets →
        Execution.statusIn rows' [.failed, .blocked] d = true) :
    SharedRun.Sound definition
      { s with rows := rows', calls := s.calls.set i ⟨c.execution.withPhase phase, resets⟩ } := by
  have hnone : ∀ n, (threadsOf (c.execution.withPhase phase)).get? n = none := by
    intro n
    rw [threadsOf, phase_withPhase]
    cases phase with
    | pool threads => exact absurd rfl (hpool threads)
    | _ => rfl
  refine h.moved hcall hrows hev ⟨(h.calls i c hcall).nodes, htodo, hseen, fun n t hget => ?_⟩ fun n t hget => ?_
  · rw [hnone n] at hget
    cases hget
  · rw [hnone n] at hget
    cases hget

end

/-- **A step of the main thread.** -/
theorem SharedRun.Sound.mainStep {check : ℚ} (h : SharedRun.Sound definition s) (hcall : s.calls.get? i = some c)
    (hin : blocksInTime c = true) (hreading : reading ≤ s.now) :
    let after := mainStep s.rows c.execution check reading
    SharedRun.Sound definition { s with rows := after.1, calls := s.calls.set i (c.after after.2) } := by
  have hinv := h.calls i c hcall
  have hsame : ∀ node ∈ c.execution.nodes, node ∈ definition := fun node hmem => (hinv.nodes node).mp hmem
  intro after
  unfold after Execution.mainStep
  cases hp : c.execution.phase with
  | entered =>
    dsimp only
    rw [after_of_ne (by rw [hp]; rintro ⟨⟩)]
    exact h.next hcall (h.rows.ensured _ _ fun node hmem => hinv.attempts_nonneg hmem) (.ensured _ _)
      (by rintro threads ⟨⟩) (by rintro node ⟨⟩) (by rintro snapshot todo ⟨⟩)
  | scanning =>
    dsimp only
    rw [after_of_scanning hp]
    refine h.next hcall h.rows (.refl _ _) (by rintro threads ⟨⟩) hsame fun snapshot todo hp d hd _ => ?_
    obtain ⟨rfl, -⟩ := Phase.blocking.inj hp
    exact hd
  | blocking snapshot todo =>
    have hafter := after_of_ne (c := c) (by rw [hp]; rintro ⟨⟩)
    cases todo with
    | nil =>
      dsimp only
      rw [hafter]
      exact h.next hcall h.rows (.refl _ _) (by rintro threads ⟨⟩) hsame (by rintro snapshot' todo' ⟨⟩)
    | cons node todo =>
      dsimp only
      cases hget : snapshot.get? node.nodeId with
      | none =>
        dsimp only
        rw [hafter]
        exact h.leave hcall (.inr (.inr (.inl rfl)))
      | some row =>
        dsimp only
        rw [hafter]
        obtain ⟨hrows, hev⟩ := (@blockNode_keeps _ _ _ _ _ _ _ _ reading) h hcall hin hp hget
        refine h.next hcall hrows hev (by rintro threads ⟨⟩) (fun node' hmem => ?_) fun snapshot' todo' hp' d hd hnot => ?_
        · exact hinv.todo node' (by rw [hp]; exact mem_cons_of_mem _ hmem)
        · obtain ⟨rfl, -⟩ := Phase.blocking.inj hp'
          exact hev.failed d (fun hfalse => hfalse) (hinv.seen snapshot (node :: todo) hp d hd hnot)
  | expiring snapshot todo =>
    have hafter := after_of_ne (c := c) (by rw [hp]; rintro ⟨⟩)
    cases todo with
    | nil =>
      dsimp only
      split
      · rw [hafter]
        dsimp only
        split
        · exact h.leave hcall (.inr (.inl rfl))
        · have hqueued : ∀ n t, (submit (c.execution.nodes.filter (isReady s.rows))).get? n = some t →
              ∃ node ∈ c.execution.nodes.filter (isReady s.rows), node.nodeId = n ∧ t = ⟨node, .queued⟩ := by
            intro n t hget
            rcases get?_submit hget with hnode | hnever
            · exact hnode
            · cases hnever
          refine h.moved hcall h.rows (.refl _ _) ⟨hinv.nodes, (by rintro node ⟨⟩), (by rintro snapshot todo ⟨⟩),
            fun n t hget => ?_⟩ fun n t hget => ?_
          · obtain ⟨node, hnode, rfl, rfl⟩ := hqueued n t hget
            obtain ⟨hmem, hready⟩ := mem_filter.mp hnode
            exact threadInv_of_ready hinv (hsame node hmem) hready
          · obtain ⟨node, -, -, rfl⟩ := hqueued n t hget
            rfl
      · rw [hafter]
        exact h.leave hcall (.inr (.inr (.inl rfl)))
    | cons node todo =>
      dsimp only
      cases hget : snapshot.get? node.nodeId with
      | none =>
        dsimp only
        rw [hafter]
        exact h.leave hcall (.inr (.inr (.inl rfl)))
      | some row =>
        dsimp only
        rw [hafter]
        obtain ⟨hrows, hev⟩ := (@expireNode_keeps _ _ node row _ check) h hreading
        refine h.next hcall hrows hev (by rintro threads ⟨⟩) (fun node' hmem => ?_) (by rintro snapshot' todo' ⟨⟩)
        exact hinv.todo node' (by rw [hp]; exact mem_cons_of_mem _ hmem)
  | pool threads =>
    have hafter := after_of_ne (c := c) (by rw [hp]; rintro ⟨⟩)
    dsimp only
    split
    · rw [hafter]
      refine h.leave hcall ?_
      unfold joined
      split
      · exact .inr (.inr (.inl rfl))
      · split
        · exact .inl rfl
        · exact .inr (.inl rfl)
    · exact h.keep hcall h.rows (.refl _ _)
  | closing =>
    have hafter := after_of_ne (c := c) (by rw [hp]; rintro ⟨⟩)
    dsimp only
    split
    · rw [hafter]
      exact h.leave hcall (.inr (.inr (.inr ⟨s.rows, rfl⟩)))
    · rw [hafter]
      exact h.leave hcall (.inr (.inr (.inl rfl)))
  | returned final | raised =>
    exact h.keep hcall h.rows (.refl _ _)

/-! ### The threads of a pool -/

section Threads

variable {threads : Dict String NodeThread} {t : NodeThread} {run : NodeRun} {log' : List NodeEvent}
  {begun : String → Prop}

/-- **A step of the thread of a node**: what it has to keep, of its own thread and of the table. -/
theorem SharedRun.Sound.thread (h : SharedRun.Sound definition s) (hcall : s.calls.get? i = some c)
    (hp : c.execution.phase = .pool threads) (hget : threads.get? nodeId = some t)
    (hrows : RowsInv definition rows' log' s.now) (hev : Evolves (fun _ => False) begun s.rows s.log rows' log')
    (hbegun : ∀ l, begun l → ∃ k, t.run = .claimed l k)
    (hheld : ∀ l k, holds run = some (l, k) → (∃ k', holds t.run = some (l, k')) ∨ leaseOn l s.log = none)
    (hthread : ThreadInv definition rows' log' nodeId { t with run }) :
    SharedRun.Sound definition
      { s with
        rows := rows', log := log'
        calls := s.calls.set i ⟨c.execution.withPhase (.pool (threads.set nodeId { t with run })), c.resetSince⟩ } := by
  have hinv := h.calls i c hcall
  have hthreads : threadsOf c.execution = threads := by rw [threadsOf, hp]
  have hold : ∀ n t', threads.get? n = some t' → ThreadInv definition s.rows s.log n t' := fun n t' hget' =>
    hinv.thread n t' (by rw [hthreads]; exact hget')
  have hholds : ∀ l n t' k, threads.get? n = some t' → holds t'.run = some (l, k) → Holds c.execution l n :=
    fun l n t' k hget' hl => ⟨t', k, by rw [hthreads]; exact hget', hl⟩
  have hsame : ∀ l n n', Holds c.execution l n → Holds c.execution l n' → n = n' := fun l n n' hn hn' =>
    (h.unique l i i c c n n' hcall hcall hn hn').2
  -- a lease of the process after the step is one that it held on the node before, or a new one on this node
  have hafter : ∀ l n, Holds (c.execution.withPhase (.pool (threads.set nodeId { t with run }))) l n →
      Holds c.execution l n ∨ n = nodeId ∧ leaseOn l s.log = none := by
    rintro l n ⟨t', k, hget', hl⟩
    have hget' : (threads.set nodeId { t with run }).get? n = some t' := hget'
    rcases get?_set_eq_some.mp hget' with ⟨hn, rfl⟩ | ⟨-, hget'⟩
    · rcases hheld l k hl with ⟨k', hl'⟩ | hnew
      · exact .inl (hn ▸ hholds l nodeId t k' hget hl')
      · exact .inr ⟨hn, hnew⟩
    · exact .inl (hholds l n t' k hget' hl)
  have hissued : ∀ l n, Holds c.execution l n → leaseOn l s.log ≠ none := by
    rintro l n ⟨t', k, hget', hl⟩ hnone
    rw [((hinv.thread n t' hget').held l k hl).1] at hnone
    cases hnone
  refine h.update hcall hrows hev (fun l hb => ?_) ⟨hinv.nodes, nofun, nofun,
    fun n t' hget' => ?_⟩ (fun l n hl => ?_) fun l n n' hl hl' => ?_
  · obtain ⟨k, hrun⟩ := hbegun l hb
    exact ⟨nodeId, hholds l nodeId t k hget (by rw [hrun]; rfl)⟩
  · have hget' : (threads.set nodeId { t with run }).get? n = some t' := hget'
    rcases get?_set_eq_some.mp hget' with ⟨hn, rfl⟩ | ⟨hn, hget'⟩
    · rw [hn]
      exact hthread
    · refine (hold n t' hget').evolve hev fun l k hrun hb => hn ?_
      obtain ⟨k', hrun'⟩ := hbegun l hb
      exact hsame l n nodeId (hholds l n t' k hget' (by rw [hrun]; rfl)) (hholds l nodeId t k' hget (by rw [hrun']; rfl))
  · exact (hafter l n hl).imp id And.right
  · rcases hafter l n hl with hn | ⟨hn, hnew⟩
    · rcases hafter l n' hl' with hn' | ⟨-, hnew⟩
      · exact hsame l n n' hn hn'
      · exact absurd hnew (hissued l n hn)
    · rcases hafter l n' hl' with hn' | ⟨hn', -⟩
      · exact absurd hnew (hissued l n' hn')
      · exact hn.trans hn'.symm

theorem ThreadInv.without {t : NodeThread} (h : ThreadInv definition rows log nodeId t)
    (hev : Evolves (fun _ => False) begun rows log rows' log') (hnone : holds run = none) :
    ThreadInv definition rows' log' nodeId { t with run } := by
  refine ⟨h.mem, h.id, h.deps.evolve hev, fun l k hl => ?_, fun l k hrun => ?_⟩
  · have hl : holds run = some (l, k) := hl
    rw [hnone] at hl
    cases hl
  · obtain rfl : run = .claimed l k := hrun
    cases hnone

theorem SharedRun.Sound.drop (h : SharedRun.Sound definition s) (hcall : s.calls.get? i = some c)
    (hp : c.execution.phase = .pool threads) (hget : threads.get? nodeId = some t) (hnone : holds run = none) :
    SharedRun.Sound definition { s with
        calls := s.calls.set i ⟨c.execution.withPhase (.pool (threads.set nodeId { t with run })), c.resetSince⟩ } := by
  have ht := (h.calls i c hcall).thread nodeId t (by rw [threadsOf, hp]; exact hget)
  have hev : Evolves (fun _ => False) (fun _ => False) s.rows s.log s.rows s.log := .refl _ _
  refine h.thread hcall hp hget h.rows hev (fun _ hfalse => hfalse.elim) (fun l k hl => ?_) (ht.without hev hnone)
  rw [hnone] at hl
  cases hl

end Threads

section Steps

variable {outcome : WorkflowNode → ℕ → AttemptOutcome} {threads : Dict String NodeThread} {t : NodeThread} {move : Move}
  {r : NodeTable × NodeRun}

theorem threadEvents_of_claimsNext {run : NodeRun} {expires : ℚ} (h : Execution.claimsNext run = true) :
    (∀ claimed, threadEvents nodeId expires run (.ended claimed) = []) ∧
      ∀ l k, threadEvents nodeId expires run (.claimed l k) = [.claimed nodeId l expires] := by
  cases run with
  | queued | claiming attempts => exact ⟨fun _ => rfl, fun _ _ => rfl⟩
  | claimed | running | ended | raised => cases h

theorem SharedRun.Sound.claimThread {leaseId : String} (h : SharedRun.Sound definition s) (hcall : s.calls.get? i = some c)
    (hp : c.execution.phase = .pool threads) (hget : threads.get? nodeId = some t)
    (hnext : Execution.claimsNext t.run = true) (hreading : reading ≤ s.now) (hfresh : leaseOn leaseId s.log = none)
    (hclaim : Execution.claimThread s.rows t.node leaseId c.execution.leaseSeconds reading = r) :
    SharedRun.Sound definition
      { s with
        rows := r.1, log := threadEvents nodeId (reading + c.execution.leaseSeconds) t.run r.2 ++ s.log
        calls := s.calls.set i ⟨c.execution.withPhase (.pool (threads.set nodeId { t with run := r.2 })), c.resetSince⟩ } := by
  have hinv := h.calls i c hcall
  have ht : ThreadInv definition s.rows s.log nodeId t := hinv.thread nodeId t (by rw [threadsOf, hp]; exact hget)
  obtain ⟨hrefused, hgranted⟩ := (@threadEvents_of_claimsNext nodeId _ (reading + c.execution.leaseSeconds)) hnext
  obtain ⟨rows', run⟩ := r
  rcases claimThread_eq hclaim with ⟨rfl, rfl⟩ | ⟨row, hrow, hopen, hleft, rfl, rfl⟩
  · dsimp only
    rw [hrefused]
    exact h.drop hcall hp hget rfl
  · dsimp only
    rw [hgranted, ht.id]
    rw [ht.id] at hrow
    have hunclaimed : row.status ≠ .completed := by
      intro hs
      simp [claimable, hs] at hopen
    have hev : Evolves (fun _ => False) (fun _ => False) s.rows s.log
        (s.rows.set nodeId (row.claim (row.attempts + 1) leaseId c.execution.leaseSeconds reading))
        (.claimed nodeId leaseId (reading + c.execution.leaseSeconds) :: s.log) := by
      refine set hrow hunclaimed (fun hs => ?_) (fun l hl hissued => ?_) (fun l n hon => ?_) fun n l hin => ?_
      · simp only [mem_cons, not_mem_nil, or_false] at hs
        rcases hs with hs | hs <;> simp [claimable, hs] at hopen
      · obtain rfl : leaseId = l := some.inj hl
        exact absurd hfresh hissued
      · refine (if_neg ?_).trans hon
        rintro rfl
        rw [hfresh] at hon
        cases hon
      · simpa using hin
    have hrows := (@RowsInv.claimed _ _ _ _ _ _ _ _ h.rows hrow c.execution.leaseSeconds) hopen hreading hfresh ht.deps
      fun node hmem hid => by rwa [hinv.eq_of_nodeId hmem ht.mem (hid.trans ht.id.symm)]
    refine h.thread hcall hp hget hrows hev (fun _ hfalse => hfalse.elim) (fun l k hl => ?_)
      ⟨ht.mem, ht.id, ht.deps.evolve hev, fun l k hl => ?_, fun l k hrun hin => ?_⟩
    · obtain ⟨rfl, -⟩ := Prod.mk.inj (some.inj hl)
      exact .inr hfresh
    · obtain ⟨rfl, rfl⟩ := Prod.mk.inj (some.inj hl)
      refine ⟨if_pos rfl, fun row' hrow' _ => ?_⟩
      rw [get?_set_self] at hrow'
      rw [← some.inj hrow']
      rfl
    · obtain ⟨rfl, -⟩ := NodeRun.claimed.inj hrun
      exact h.issued nodeId leaseId (by simpa using hin) hfresh

theorem SharedRun.Sound.startThread {leaseId : String} {attempts : ℕ} (h : SharedRun.Sound definition s)
    (hcall : s.calls.get? i = some c) (hp : c.execution.phase = .pool threads) (hget : threads.get? nodeId = some t)
    (hrun : t.run = .claimed leaseId attempts) (hrow : s.rows.get? nodeId = some row) (hlease : row.leaseId = some leaseId) :
    SharedRun.Sound definition { s with
        log := .started nodeId leaseId :: s.log
        calls := s.calls.set i
          ⟨c.execution.withPhase (.pool (threads.set nodeId { t with run := .running leaseId attempts })),
            c.resetSince⟩ } := by
  have ht : ThreadInv definition s.rows s.log nodeId t :=
    (h.calls i c hcall).thread nodeId t (by rw [threadsOf, hp]; exact hget)
  have hev : Evolves (fun _ => False) (fun l => l = leaseId) s.rows s.log s.rows (.started nodeId leaseId :: s.log) := by
    refine ⟨fun _ _ hr _ => hr, fun _ _ hn => hn, fun _ _ hon => hon, fun n row' l hr hl _ => ⟨row', hr, hl, rfl⟩,
      fun n l hin => ?_⟩
    rcases mem_cons.mp hin with heq | hold
    · exact .inr (NodeEvent.started.inj heq).2
    · exact .inl hold
  have hholds : holds t.run = some (leaseId, attempts) := by rw [hrun]; rfl
  refine h.thread hcall hp hget (h.rows.started hrow hlease (ht.unstarted leaseId attempts hrun)) hev (fun l hl => ?_)
    (fun l k hl => .inl ⟨k, hholds.trans hl⟩) ⟨ht.mem, ht.id, ht.deps, fun l k hl => ?_, nofun⟩
  · exact ⟨attempts, hl ▸ hrun⟩
  · exact ht.held l k (hholds.trans hl)

/-- The end of an attempt: a worker that lost its lease writes nothing, another gives it back. -/
theorem SharedRun.Sound.finishThread {leaseId : String} {attempts : ℕ} {result : AttemptOutcome} {expires : ℚ}
    (h : SharedRun.Sound definition s) (hcall : s.calls.get? i = some c) (hp : c.execution.phase = .pool threads)
    (hget : threads.get? nodeId = some t) (hrun : t.run = .running leaseId attempts)
    (hfinish : Execution.finishThread s.rows t.node leaseId attempts result reading = r) :
    SharedRun.Sound definition
      { s with
        rows := r.1, log := threadEvents nodeId expires t.run r.2 ++ s.log
        calls := s.calls.set i ⟨c.execution.withPhase (.pool (threads.set nodeId { t with run := r.2 })), c.resetSince⟩ } := by
  have hinv := h.calls i c hcall
  have ht : ThreadInv definition s.rows s.log nodeId t := hinv.thread nodeId t (by rw [threadsOf, hp]; exact hget)
  obtain ⟨rows', run⟩ := r
  rcases finishThread_eq hfinish with ⟨rfl, rfl⟩ | ⟨row, change, hrow, hlease, hrunning, rfl, hgives⟩
  · dsimp only
    rw [hrun]
    exact h.drop hcall hp hget rfl
  · have hevents : threadEvents nodeId expires t.run run = [.givenBack leaseId] ∧ holds run = none := by
      rw [hrun]
      rcases hgives.goesOn with rfl | rfl <;> exact ⟨rfl, rfl⟩
    dsimp only
    rw [hevents.1, ht.id]
    rw [ht.id] at hrow
    have hattempts : row.attempts = attempts :=
      (ht.held leaseId attempts (by rw [hrun]; rfl)).2 row hrow hlease
    have hidle : (change row).status ≠ .running := by
      rcases hgives.idle row with hs | hs | hs <;> (rw [hs]; decide)
    have hev : Evolves (fun _ => False) (fun _ => False) s.rows s.log (s.rows.set nodeId (change row))
        (.givenBack leaseId :: s.log) := by
      refine set hrow (by rw [hrunning]; decide) (fun hs => ?_) (fun l hl => ?_) (fun _ _ hon => hon) fun n l hin => ?_
      · rw [hrunning] at hs
        exact absurd hs (by decide)
      · rw [hgives.noLease] at hl
        cases hl
      · simpa using hin
    have hrows := h.rows.givenBack hrow hlease (hgives.noLease row) hidle ((hgives.itsAttempt row).trans hattempts.symm)
    refine h.thread hcall hp hget hrows hev (fun _ hfalse => hfalse.elim) (fun l k hl => ?_) (ht.without hev hevents.2)
    rw [hevents.2] at hl
    cases hl

/-- **A step of the thread of a node.** -/
theorem SharedRun.Sound.poolStep (h : SharedRun.Sound definition s) (hcall : s.calls.get? i = some c)
    (hpossible : movePossible s.log s.now move = true)
    (htimely : ∀ id, move = .start id → startsInTime s c nodeId = true) :
    let after := c.execution.poolStep outcome s.rows nodeId move
    SharedRun.Sound definition { s with
        rows := after.1, calls := s.calls.set i (c.after after.2)
        log := poolEvents outcome s.rows c.execution nodeId move ++ s.log } := by
  have hkeep := h.keep hcall h.rows (.refl _ _)
  intro after
  unfold after Execution.poolStep poolEvents
  cases hp : c.execution.phase with
  | pool threads =>
    dsimp only
    cases hget : threads.get? nodeId with
    | none => exact hkeep
    | some t =>
      dsimp only
      cases hstep : threadStep outcome s.rows c.execution threads t move with
      | none => exact hkeep
      | some r =>
        dsimp only
        rw [after_of_ne (by rw [hp]; exact nofun)]
        cases threadStep_eq_some hstep with
        | claim id leaseId reading hnext =>
          obtain ⟨hreading, hfresh⟩ := Bool.and_eq_true_iff.mp hpossible
          exact h.claimThread hcall hp hget hnext (of_decide_eq_true hreading) (isNone_iff_eq_none.mp hfresh) rfl
        | start id leaseId attempts hrun =>
          have hnamed := htimely id rfl
          rw [startsInTime, hp] at hnamed
          dsimp only at hnamed
          rw [hget] at hnamed
          dsimp only at hnamed
          rw [hrun] at hnamed
          dsimp only at hnamed
          cases hrow : s.rows.get? nodeId with
          | none =>
            rw [hrow] at hnamed
            cases hnamed
          | some row =>
            rw [hrow] at hnamed
            rw [hrun]
            exact h.startThread hcall hp hget hrun hrow (of_decide_eq_true hnamed)
        | finish id leaseId attempts reading hrun => exact h.finishThread hcall hp hget hrun rfl
  | _ => exact hkeep

/-- **A heartbeat**, of a worker that may have lost its lease. -/
theorem SharedRun.Sound.heartbeat {leaseId : String} (h : SharedRun.Sound definition s) (hcall : s.calls.get? i = some c) :
    SharedRun.Sound definition
      { s with
        rows := (s.rows.heartbeat nodeId leaseId c.execution.leaseSeconds reading).2
        calls := s.calls.set i (c.after c.execution)
        log := moveEvents outcome s.rows c.execution (.heartbeat nodeId leaseId reading) ++ s.log } := by
  rw [moveEvents]
  cases hbeat : s.rows.heartbeat nodeId leaseId c.execution.leaseSeconds reading with
  | mk held rows' =>
    cases held with
    | false =>
      obtain rfl := heldUpdate_eq_false hbeat
      exact h.keep hcall h.rows (.refl _ _)
    | true =>
      obtain ⟨row, hrow, hlease, hrunning, rfl⟩ := heldUpdate_eq_true hbeat
      refine h.keep hcall (h.rows.renewed hrow hlease c.execution.leaseSeconds reading) ?_
      refine set hrow (by rw [hrunning]; decide) (fun hs => ?_) (fun l hl _ => ⟨hl, rfl⟩) (fun _ _ hon => hon)
        fun n l hin => ?_
      · rw [hrunning] at hs
        exact absurd hs (by decide)
      · simpa using hin

end Steps

/-! ### Every timely step -/

theorem Evolves.resetFailed (rows : NodeTable) (log : List NodeEvent) (reading : ℚ) :
    Evolves (fun n => n ∈ resettable rows) (fun _ => False) rows log (rows.resetFailed reading).2
      ((resettable rows).map .reset ++ log) := by
  have hkept : ∀ n row, rows.get? n = some row → n ∉ resettable rows →
      (rows.resetFailed reading).2.get? n = some row := fun n row hget hnot =>
    get?_resetFailed hget (Bool.eq_false_iff.mpr fun hreset => hnot (mem_resettable.mpr ⟨row, hget, hreset⟩))
  refine ⟨fun n row hget hs => get?_resetFailed hget (by simp [NodeRow.resettable, hs]), fun n hnot hn => ?_,
    fun l n hon => ?_, fun n row' l hget' hl _ => ?_, fun n l hin => .inl ((started_mem_reset _).mp hin)⟩
  · obtain ⟨row, hget, hs⟩ := statusIn_eq_true.mp hn
    exact statusIn_eq_true.mpr ⟨row, hkept n row hget hnot, hs⟩
  · rw [leaseOn_reset]
    exact hon
  · obtain ⟨row, hget, heq⟩ := map_eq_some_iff.mp ((get?_mapValues _ _ _).symm.trans hget')
    split at heq
    · rw [← heq] at hl
      cases hl
    · exact ⟨row, hget, heq ▸ hl, congrArg NodeRow.attempts heq⟩

theorem SharedRun.Sound.resetFailed (h : SharedRun.Sound definition s) (reading : ℚ) : SharedRun.Sound definition
      { s with
        rows := (s.rows.resetFailed reading).2, log := (resettable s.rows).map .reset ++ s.log
        calls := s.calls.mapValues fun c => { c with resetSince := resettable s.rows ++ c.resetSince } } := by
  have hev := Evolves.resetFailed s.rows s.log reading
  have hold : ∀ j d, (s.calls.mapValues fun c => { c with resetSince := resettable s.rows ++ c.resetSince }).get? j = some d →
      ∃ c, s.calls.get? j = some c ∧ d = { c with resetSince := resettable s.rows ++ c.resetSince } := by
    intro j d hd
    rw [get?_mapValues] at hd
    obtain ⟨c, hc, hd⟩ := map_eq_some_iff.mp hd
    exact ⟨c, hc, hd.symm⟩
  refine ⟨h.rows.reset reading, fun j d hd => ?_, fun l j j' d d' n n' hd hd' hheld hheld' => ?_, fun n l hin => ?_⟩
  · obtain ⟨c, hc, rfl⟩ := hold j d hd
    have hinv := h.calls j c hc
    refine ⟨hinv.nodes, hinv.todo, fun snapshot todo hp n hn hnot => ?_, fun n t hget => ?_⟩
    · obtain ⟨hnew, hearlier⟩ := not_or.mp (mt mem_append.mpr hnot)
      exact hev.failed n hnew (hinv.seen snapshot todo hp n hn hearlier)
    · exact (hinv.thread n t hget).evolve hev fun _ _ _ hfalse => hfalse
  · obtain ⟨c, hc, rfl⟩ := hold j d hd
    obtain ⟨c', hc', rfl⟩ := hold j' d' hd'
    exact h.unique l j j' c c' n n' hc hc' hheld hheld'
  · rw [leaseOn_reset]
    exact h.issued n l ((started_mem_reset _).mp hin)

theorem SharedRun.Sound.enter {e : Execution} (h : SharedRun.Sound definition s) (hnodes : e.nodes.Perm definition) :
    SharedRun.Sound definition { s with calls := s.calls.set i ⟨e.withPhase .entered, []⟩ } := by
  have hnone : ∀ l n, ¬Holds (e.withPhase .entered) l n := by
    rintro l n ⟨t, k, hget, -⟩
    cases hget
  have hcases : ∀ j d, (s.calls.set i ⟨e.withPhase .entered, []⟩).get? j = some d →
      d = ⟨e.withPhase .entered, []⟩ ∨ s.calls.get? j = some d := by
    intro j d hd
    rcases get?_set_eq_some.mp hd with ⟨-, hd⟩ | ⟨-, hd⟩
    · exact .inl hd.symm
    · exact .inr hd
  refine ⟨h.rows, fun j d hd => ?_, fun l j j' d d' n n' hd hd' hheld hheld' => ?_, h.issued⟩
  · rcases hcases j d hd with rfl | hd
    · exact ⟨fun node => hnodes.mem_iff, nofun, nofun, nofun⟩
    · exact h.calls j d hd
  · rcases hcases j d hd with rfl | hd
    · exact absurd hheld (hnone l n)
    · rcases hcases j' d' hd' with rfl | hd'
      · exact absurd hheld' (hnone l n')
      · exact h.unique l j j' d d' n n' hd hd' hheld hheld'

theorem SharedRun.Sound.crash (h : SharedRun.Sound definition s) (i : ℕ) :
    SharedRun.Sound definition { s with calls := s.calls.erase i } := by
  have hold : ∀ j d, (s.calls.erase i).get? j = some d → s.calls.get? j = some d := by
    intro j d hd
    obtain ⟨-, hd⟩ := get?_erase_eq_some.mp hd
    exact hd
  exact ⟨h.rows, fun j d hd => h.calls j d (hold j d hd),
    fun l j j' d d' n n' hd hd' => h.unique l j j' d d' n n' (hold j d hd) (hold j' d' hd'), h.issued⟩

theorem SharedRun.Sound.start (definition : List WorkflowNode) (now : ℚ) :
    SharedRun.Sound definition (SharedRun.start now) :=
  have hnone : ∀ k c, (Dict.empty : Dict ℕ SharedCall).get? k ≠ some c := fun k _ h =>
    nomatch (Dict.get?_empty k).symm.trans h
  ⟨⟨fun _ => rfl, fun n _ h => (nomatch (Dict.get?_empty n).symm.trans h), fun _ _ hunexpired => (nomatch hunexpired.1)⟩,
    fun i c h => (hnone i c h).elim, fun _ i _ c _ _ _ h => (hnone i c h).elim, fun _ _ h => absurd h List.not_mem_nil⟩

theorem movable_eq_some {move : Move} (h : s.movable i move = some c) :
    movePossible s.log s.now move = true ∧ s.calls.get? i = some c := by
  unfold SharedRun.movable at h
  split at h
  · rename_i hpossible
    exact ⟨hpossible, h⟩
  · cases h

/-- **Every timely step** keeps what the table and the threads are. -/
theorem SharedRun.Sound.step {act : SharedStep} (h : SharedRun.Sound definition s) (htimely : Timely s act) :
    SharedRun.Sound definition (s.step definition act) := by
  cases act with
  | clock time =>
    exact ⟨h.rows.later (le_max_left _ _), h.calls, h.unique, h.issued⟩
  | enter call e =>
    unfold SharedRun.step
    dsimp only
    split
    · rename_i hnew
      exact h.enter hnew.2
    · exact h
  | crash call => exact h.crash call
  | resetFailed reading =>
    unfold SharedRun.step SharedRun.events
    dsimp only
    split
    · exact h.resetFailed reading
    · exact h
  | move call outcome move =>
    unfold SharedRun.step SharedRun.events
    dsimp only
    cases hmovable : s.movable call move with
    | none => exact h
    | some c =>
      obtain ⟨hpossible, hcall⟩ := movable_eq_some hmovable
      cases move with
      | main check reading =>
        have hin : (s.calls.get? call).all blocksInTime = true := htimely
        rw [hcall] at hin
        exact h.mainStep hcall hin (of_decide_eq_true hpossible).2
      | claim nodeId leaseId reading => exact h.poolStep hcall hpossible (by rintro id ⟨⟩)
      | start nodeId =>
        have hin : ((s.calls.get? call).all fun c => startsInTime s c nodeId) = true := htimely
        rw [hcall] at hin
        exact h.poolStep hcall hpossible fun _ _ => hin
      | finish nodeId reading => exact h.poolStep hcall hpossible (by rintro id ⟨⟩)
      | heartbeat nodeId leaseId reading => exact h.heartbeat hcall

/-! ### What exclusive leases promise -/

def Names (rows : NodeTable) (nodeId leaseId : String) : Prop :=
  ∃ row, rows.get? nodeId = some row ∧ row.leaseId = some leaseId

/-- The step is a write of a worker under the lease: what came of its attempt, or a heartbeat. -/
def worksUnder (s : SharedRun) (nodeId leaseId : String) : SharedStep → Prop
  | .move call _ (.finish id _) =>
    id = nodeId ∧ ∃ c t k, s.calls.get? call = some c ∧ (threadsOf c.execution).get? nodeId = some t ∧
      t.run = .running leaseId k
  | .move _ _ (.heartbeat id l _) => id = nodeId ∧ l = leaseId
  | _ => False

/-- What exclusive leases promise of a step. -/
structure SharedRun.Exclusive (definition : List WorkflowNode) (s : SharedRun) (act : SharedStep) : Prop where
  /-- A runner starts on a running node whose dependencies are completed and on which no other lease lasts, and for at
  most the last allowed time since the node was reset. -/
  starts : ∀ nodeId leaseId, NodeEvent.started nodeId leaseId ∈ s.events act →
    (∀ l, Unexpired s.log s.now nodeId l → l = leaseId) ∧ statusOf s.rows nodeId = some .running ∧
      ∃ node ∈ definition, node.nodeId = nodeId ∧ (∀ d ∈ node.dependencies, statusOf s.rows d = some .completed) ∧
        (startsSince nodeId s.log : ℤ) + 1 ≤ node.maxAttempts
  completed : ∀ nodeId row, s.rows.get? nodeId = some row → row.status = .completed →
    (s.step definition act).rows.get? nodeId = some row
  /-- Only the newest lease on a node can be named by its row. -/
  newest : ∀ nodeId leaseId, Names s.rows nodeId leaseId → newestClaim nodeId s.log = some leaseId
  /-- A lease that its row does not name is lost for good, and what is written under it changes nothing. -/
  lost : ∀ nodeId leaseId, leaseOn leaseId s.log = some nodeId → ¬Names s.rows nodeId leaseId →
    ¬Names (s.step definition act).rows nodeId leaseId ∧
      (worksUnder s nodeId leaseId act → (s.step definition act).rows = s.rows)
  blocked : ∀ nodeId, statusOf (s.step definition act).rows nodeId = some .blocked →
    statusOf s.rows nodeId = some .blocked ∨ ∃ node ∈ definition, node.nodeId = nodeId ∧ ∃ d ∈ node.dependencies,
      Execution.statusIn s.rows [.failed, .blocked] d = true

/-- What a step makes of the table. -/
inductive RowChange (definition : List WorkflowNode) (rows : NodeTable) (log : List NodeEvent) : NodeTable → Prop
  | same : RowChange definition rows log rows
  | ensured (nodes : List WorkflowNode) (reading : ℚ) : RowChange definition rows log (rows.ensureWorkflow nodes reading)
  | written (nodeId : String) (row row' : NodeRow) (hget : rows.get? nodeId = some row) (hopen : row.status ≠ .completed)
      (hlease : ∀ l, row'.leaseId = some l → row.leaseId = some l ∨ leaseOn l log = none)
      (hblocked : row'.status = .blocked → ∃ node ∈ definition, node.nodeId = nodeId ∧ ∃ d ∈ node.dependencies,
        Execution.statusIn rows [.failed, .blocked] d = true) :
      RowChange definition rows log (rows.set nodeId row')
  | reset (reading : ℚ) : RowChange definition rows log (rows.resetFailed reading).2

section Changes

variable {outcome : WorkflowNode → ℕ → AttemptOutcome} {move : Move} {act : SharedStep}

theorem rowChange_mainStep {check : ℚ} (h : CallInv definition rows log c) (hin : blocksInTime c = true) :
    RowChange definition rows log (Execution.mainStep rows c.execution check reading).1 := by
  unfold mainStep
  cases hp : c.execution.phase with
  | entered => exact .ensured _ _
  | scanning => exact .same
  | blocking snapshot todo =>
    cases todo with
    | nil => exact .same
    | cons node todo =>
      dsimp only
      cases hget : snapshot.get? node.nodeId with
      | none => exact .same
      | some row =>
        rcases (@blockNode_eq rows node row snapshot reading) with
          heq | ⟨current, reason, hcurrent, hnotdone, hopen, hsome, heq⟩
        · dsimp only
          rw [heq]
          exact .same
        · have hmem : node ∈ definition := h.todo node (by rw [hp]; exact mem_cons_self)
          dsimp only
          rw [heq]
          exact .written node.nodeId current _ hcurrent hnotdone (by rintro l ⟨⟩)
            fun _ => ⟨node, hmem, rfl, exists_failed h hin hp hget hopen hsome⟩
  | expiring snapshot todo =>
    cases todo with
    | nil =>
      dsimp only
      split
      · exact .same
      · exact .same
    | cons node todo =>
      dsimp only
      cases hget : snapshot.get? node.nodeId with
      | none => exact .same
      | some row =>
        rcases (@expireNode_eq rows node row reading check) with
          heq | ⟨current, hcurrent, hrunning, -, heq⟩
        · dsimp only
          rw [heq]
          exact .same
        · dsimp only
          rw [heq]
          exact .written node.nodeId current _ hcurrent (by rw [hrunning]; decide) (by rintro l ⟨⟩)
            (by rintro ⟨⟩)
  | pool threads | closing =>
    dsimp only
    split
    · exact .same
    · exact .same
  | returned final => exact .same
  | raised => exact .same

theorem rowChange_poolStep (hpossible : movePossible log s.now move = true) :
    RowChange definition rows log (c.execution.poolStep outcome rows nodeId move).1 := by
  unfold poolStep
  split
  · rename_i threads hp
    cases hget : threads.get? nodeId with
    | none => exact .same
    | some t =>
      dsimp only
      cases hstep : threadStep outcome rows c.execution threads t move with
      | none => exact .same
      | some r =>
        show RowChange definition rows log r.1
        cases threadStep_eq_some hstep with
        | claim id leaseId reading hnext =>
          rcases hclaim : claimThread rows t.node leaseId c.execution.leaseSeconds reading with ⟨rows', run⟩
          rcases claimThread_eq hclaim with ⟨rfl, -⟩ | ⟨row, hrow, hopen, -, rfl, -⟩
          · exact .same
          · refine .written _ row _ hrow (fun hs => ?_) (fun l hl => .inr ?_) (by rintro ⟨⟩)
            · simp [claimable, hs] at hopen
            · obtain rfl : leaseId = l := some.inj hl
              exact isNone_iff_eq_none.mp (Bool.and_eq_true_iff.mp hpossible).2
        | start id leaseId attempts hrun => exact .same
        | finish id leaseId attempts reading hrun =>
          rcases hfinish : finishThread rows t.node leaseId attempts (outcome t.node attempts) reading
            with ⟨rows', run⟩
          rcases finishThread_eq hfinish with ⟨rfl, -⟩ | ⟨row, change, hrow, -, hrunning, rfl, hgives⟩
          · exact .same
          · refine .written _ row _ hrow (by rw [hrunning]; decide) (fun l hl => ?_) fun hs => ?_
            · rw [hgives.noLease] at hl
              cases hl
            · rcases hgives.idle row with hidle | hidle | hidle <;> cases hs.symm.trans hidle
  · exact .same

/-- **What a timely step makes of the table.** -/
theorem rowChange_step (h : SharedRun.Sound definition s) (htimely : Timely s act) :
    RowChange definition s.rows s.log (s.step definition act).rows := by
  cases act with
  | clock time => exact .same
  | enter call e =>
    unfold SharedRun.step
    dsimp only
    split
    · exact .same
    · exact .same
  | crash call => exact .same
  | resetFailed reading =>
    unfold SharedRun.step
    dsimp only
    split
    · exact .reset reading
    · exact .same
  | move call outcome move =>
    unfold SharedRun.step
    dsimp only
    cases hmovable : s.movable call move with
    | none => exact .same
    | some c =>
      obtain ⟨hpossible, hcall⟩ := movable_eq_some hmovable
      cases move with
      | main check reading =>
        have hin : (s.calls.get? call).all blocksInTime = true := htimely
        rw [hcall] at hin
        exact rowChange_mainStep (h.calls call c hcall) hin
      | claim nodeId leaseId reading | start nodeId
      | finish nodeId reading => exact rowChange_poolStep (s := s) hpossible
      | heartbeat nodeId leaseId reading =>
        dsimp only [step]
        cases hbeat : s.rows.heartbeat nodeId leaseId c.execution.leaseSeconds reading with
        | mk held rows' =>
          cases held with
          | false =>
            obtain rfl := heldUpdate_eq_false hbeat
            exact .same
          | true =>
            obtain ⟨row, hrow, hlease, hrunning, rfl⟩ := heldUpdate_eq_true hbeat
            refine .written nodeId row _ hrow (by rw [hrunning]; decide) (fun l hl => .inl hl) fun hs => ?_
            cases hrunning.symm.trans hs

end Changes

/-! ### Exclusive leases -/

section Promises

variable {leaseId : String} {act : SharedStep}

theorem RowChange.completed (h : RowChange definition rows log rows') (hget : rows.get? nodeId = some row)
    (hs : row.status = .completed) : rows'.get? nodeId = some row := by
  cases h with
  | same => exact hget
  | ensured nodes reading => exact ((@Evolves.ensured _ log) nodes reading).completed nodeId row hget hs
  | reset reading => exact (Evolves.resetFailed rows log reading).completed nodeId row hget hs
  | written n row' row'' hget' hopen hlease hblocked =>
    rw [get?_set_of_ne _ fun heq => ?_]
    · exact hget
    · subst heq
      obtain rfl := some.inj (hget.symm.trans hget')
      exact hopen hs

theorem RowChange.not_names (h : RowChange definition rows log rows') (hon : leaseOn leaseId log = some nodeId)
    (hnot : ¬Names rows nodeId leaseId) : ¬Names rows' nodeId leaseId := by
  have hgranted : leaseOn leaseId log ≠ none := by rw [hon]; exact some_ne_none _
  rintro ⟨row', hget', hl⟩
  cases h with
  | same => exact hnot ⟨row', hget', hl⟩
  | ensured nodes reading =>
    obtain ⟨row, hget, hl', -⟩ := ((@Evolves.ensured _ log) nodes reading).attempts nodeId row' leaseId hget' hl hgranted
    exact hnot ⟨row, hget, hl'⟩
  | reset reading =>
    obtain ⟨row, hget, hl', -⟩ := (resetFailed rows log reading).attempts nodeId row' leaseId hget' hl hgranted
    exact hnot ⟨row, hget, hl'⟩
  | written n row row'' hget hopen hlease hblocked =>
    rcases get?_set_eq_some.mp hget' with ⟨heq, rfl⟩ | ⟨-, hget'⟩
    · rcases hlease leaseId hl with hold | hnew
      · exact hnot ⟨row, heq ▸ hget, hold⟩
      · exact hgranted hnew
    · exact hnot ⟨row', hget', hl⟩

theorem RowChange.blocked (h : RowChange definition rows log rows') (hs : statusOf rows' nodeId = some .blocked) :
    statusOf rows nodeId = some .blocked ∨ ∃ node ∈ definition, node.nodeId = nodeId ∧ ∃ d ∈ node.dependencies,
      Execution.statusIn rows [.failed, .blocked] d = true := by
  obtain ⟨row', hget', hblocked'⟩ := map_eq_some_iff.mp hs
  cases h with
  | same => exact .inl hs
  | ensured nodes reading =>
    rcases get?_of_ensureWorkflow hget' with hget | ⟨rfl, -⟩
    · exact .inl ((statusOf_of_get? hget).trans (congrArg some hblocked'))
    · cases hblocked'
  | reset reading =>
    obtain ⟨row, hget, heq⟩ := map_eq_some_iff.mp ((get?_mapValues _ _ _).symm.trans hget')
    split at heq
    · rw [← heq] at hblocked'
      cases hblocked'
    · exact .inl ((statusOf_of_get? (heq ▸ hget)).trans (congrArg some hblocked'))
  | written n row row'' hget hopen hlease hblocked =>
    rcases get?_set_eq_some.mp hget' with ⟨heq, rfl⟩ | ⟨-, hget'⟩
    · exact .inr (heq ▸ hblocked hblocked')
    · exact .inl ((statusOf_of_get? hget').trans (congrArg some hblocked'))

theorem started_mem_poolEvents {outcome : WorkflowNode → ℕ → AttemptOutcome} {n : String} {move : Move}
    (hin : NodeEvent.started nodeId leaseId ∈ poolEvents outcome s.rows c.execution n move) :
    (∃ id, move = .start id) ∧ n = nodeId ∧ ∃ threads t k, c.execution.phase = .pool threads ∧ threads.get? n = some t ∧
      t.run = .claimed leaseId k := by
  unfold poolEvents at hin
  split at hin
  · rename_i threads hp
    split at hin
    · cases hin
    · rename_i t hget
      split at hin
      · cases hin
      · rename_i r hstep
        cases threadStep_eq_some hstep with
        | claim id l reading hnext =>
          rcases hclaim : claimThread s.rows t.node l c.execution.leaseSeconds reading with ⟨rows', run⟩
          rw [hclaim] at hin
          obtain ⟨hrefused, hgranted⟩ := (@threadEvents_of_claimsNext n _ (moveReading (.claim id l reading) + c.execution.leaseSeconds)) hnext
          rcases claimThread_eq hclaim with ⟨-, rfl⟩ | ⟨row, -, -, -, -, rfl⟩
          · rw [hrefused] at hin
            cases hin
          · rw [hgranted] at hin
            exact nomatch mem_singleton.mp hin
        | start id l k hrun =>
          rw [hrun] at hin
          obtain ⟨rfl, rfl⟩ := NodeEvent.started.inj (mem_singleton.mp hin)
          exact ⟨⟨id, rfl⟩, rfl, threads, t, k, hp, hget, hrun⟩
        | finish id l k reading hrun =>
          rcases hfinish : finishThread s.rows t.node l k (outcome t.node k) reading with ⟨rows', run⟩
          rw [hfinish, hrun] at hin
          rcases finishThread_eq hfinish with ⟨-, rfl⟩ | ⟨row, change, -, -, -, -, hgives⟩
          · cases hin
          · rcases hgives.goesOn with rfl | rfl <;> exact nomatch mem_singleton.mp hin
  · cases hin

/-- **A runner is started** by the thread of its node, under the lease that it claimed. -/
theorem started_mem_events (hin : NodeEvent.started nodeId leaseId ∈ s.events act) :
    ∃ call outcome c threads t k, act = .move call outcome (.start nodeId) ∧ s.calls.get? call = some c ∧
      c.execution.phase = .pool threads ∧ threads.get? nodeId = some t ∧ t.run = .claimed leaseId k := by
  cases act with
  | clock time | enter call e | crash call => cases hin
  | resetFailed reading =>
    unfold SharedRun.events at hin
    dsimp only at hin
    split at hin
    · simp at hin
    · cases hin
  | move call outcome move =>
    unfold SharedRun.events at hin
    dsimp only at hin
    cases hmovable : s.movable call move with
    | none =>
      rw [hmovable] at hin
      cases hin
    | some c =>
      rw [hmovable] at hin
      have hcall := (movable_eq_some hmovable).2
      cases move with
      | main check reading => cases hin
      | claim n l reading =>
        obtain ⟨⟨id, hmove⟩, -⟩ := started_mem_poolEvents (s := s) hin
        cases hmove
      | start n =>
        obtain ⟨-, rfl, threads, t, k, hp, hget, hrun⟩ := started_mem_poolEvents (s := s) hin
        exact ⟨call, outcome, c, threads, t, k, rfl, hcall, hp, hget, hrun⟩
      | finish n reading =>
        obtain ⟨⟨id, hmove⟩, -⟩ := started_mem_poolEvents (s := s) hin
        cases hmove
      | heartbeat n l reading =>
        unfold moveEvents at hin
        dsimp only at hin
        split at hin
        · exact nomatch mem_singleton.mp hin
        · cases hin

/-- **A runner that is started in time** is started on a node that is ready, and not too often. -/
theorem SharedRun.Sound.starts (h : SharedRun.Sound definition s) (htimely : Timely s act)
    (hin : NodeEvent.started nodeId leaseId ∈ s.events act) :
    (∀ l, Unexpired s.log s.now nodeId l → l = leaseId) ∧ statusOf s.rows nodeId = some .running ∧
      ∃ node ∈ definition, node.nodeId = nodeId ∧ (∀ d ∈ node.dependencies, statusOf s.rows d = some .completed) ∧
        (startsSince nodeId s.log : ℤ) + 1 ≤ node.maxAttempts := by
  obtain ⟨call, outcome, c, threads, t, k, rfl, hcall, hp, hget, hrun⟩ := started_mem_events hin
  have hnamed : ((s.calls.get? call).all fun c => startsInTime s c nodeId) = true := htimely
  rw [hcall] at hnamed
  have hnamed : startsInTime s c nodeId = true := hnamed
  simp only [startsInTime, hp, hget, hrun] at hnamed
  have ht := (h.calls call c hcall).thread nodeId t (by rw [threadsOf, hp]; exact hget)
  cases hrow : s.rows.get? nodeId with
  | none =>
    rw [hrow] at hnamed
    cases hnamed
  | some row =>
    rw [hrow] at hnamed
    have hlease : row.leaseId = some leaseId := of_decide_eq_true hnamed
    have hinv := h.rows.row nodeId row hrow
    have hrunning := (hinv.lease leaseId hlease).1
    refine ⟨fun l hunexpired => ?_, (statusOf_of_get? hrow).trans (congrArg some hrunning), t.node, ht.mem, ht.id,
      ht.deps t.node ht.mem ht.id, ?_⟩
    · exact some.inj ((h.rows.leaseId_of_unexpired hrow hunexpired).symm.trans hlease)
    · have hfewer := hinv.unstarted leaseId hlease (ht.unstarted leaseId k hrun)
      have hbound := hinv.bound t.node ht.mem ht.id
      omega

theorem rows_of_worksUnder (h : SharedRun.Sound definition s) (hnot : ¬Names s.rows nodeId leaseId)
    (hworks : worksUnder s nodeId leaseId act) : (s.step definition act).rows = s.rows := by
  cases act with
  | move call outcome move =>
    unfold SharedRun.step
    dsimp only
    cases hmovable : s.movable call move with
    | none => rfl
    | some c =>
      have hcall := (movable_eq_some hmovable).2
      cases move with
      | finish id reading =>
        obtain ⟨rfl, c', t, k, hcall', hget, hrun⟩ := hworks
        obtain rfl := some.inj (hcall.symm.trans hcall')
        have hid := ((h.calls call c hcall).thread id t hget).id
        unfold threadsOf at hget
        split at hget
        · rename_i threads hp
          simp only [step, poolStep, threadStep, hp, hget, hrun]
          rcases hfinish : finishThread s.rows t.node leaseId k (outcome t.node k) reading with ⟨rows', run⟩
          rcases finishThread_eq hfinish with ⟨rfl, -⟩ | ⟨row, change, hrow, hlease, -, -, -⟩
          · rfl
          · exact absurd ⟨row, hid ▸ hrow, hlease⟩ hnot
        · cases hget
      | heartbeat id l reading =>
        obtain ⟨rfl, rfl⟩ := hworks
        dsimp only [step]
        cases hbeat : s.rows.heartbeat id l c.execution.leaseSeconds reading with
        | mk held rows' =>
          cases held with
          | false => exact heldUpdate_eq_false hbeat
          | true =>
            obtain ⟨row, hrow, hlease, -⟩ := heldUpdate_eq_true hbeat
            exact absurd ⟨row, hrow, hlease⟩ hnot
      | main check reading | claim n l reading | start n => exact hworks.elim
  | clock time | enter call e | crash call | resetFailed reading => exact hworks.elim

theorem SharedRun.Sound.exclusive (h : SharedRun.Sound definition s) (htimely : Timely s act) :
    SharedRun.Exclusive definition s act where
  starts _ _ hin := h.starts htimely hin
  completed _ _ hget hs := (rowChange_step h htimely).completed hget hs
  newest nodeId leaseId := by
    rintro ⟨row, hget, hl⟩
    exact ((h.rows.row nodeId row hget).lease leaseId hl).2.1
  lost _ _ hon hnot := ⟨(rowChange_step h htimely).not_names hon hnot, rows_of_worksUnder h hnot⟩
  blocked _ hs := (rowChange_step h htimely).blocked hs

end Promises

/-- **The leases are exclusive.**  Processes execute one workflow on one database, with any outcomes of the attempts, and
crash, reset failed nodes, send heartbeats and let leases expire at any time.  As long as a node is blocked only for a
failure that was not reset since it was seen, and a runner is started only while the row still names its lease, every step
keeps what exclusive leases promise. -/
theorem exclusive_leases (definition : List WorkflowNode) (now : ℚ) (steps : List SharedStep)
    (htimely : Run.Along (SharedRun.step definition) Timely (SharedRun.start now) steps) :
    Run.Along (SharedRun.step definition) (SharedRun.Exclusive definition) (SharedRun.start now) steps :=
  Run.along_of_along (SharedRun.Sound definition) (fun _ _ h hnow => ⟨h.exclusive hnow, h.step hnow⟩)
    (SharedRun.Sound.start definition now) htimely

/-! ### Two runs of a pair of nodes -/

/-- A node and one that depends on it. -/
def pairNodes : List WorkflowNode :=
  [{ nodeId := "a", maxAttempts := 2 }, { nodeId := "b", dependencies := ["a"], maxAttempts := 2 }]

def pairExecution : Execution where
  nodes := pairNodes
  workers := 1
  leaseSeconds := 15
  phase := .entered
  valid := by rfl
  someWorker := le_refl 1
  longLease := le_refl 15

def alwaysRaises : WorkflowNode → ℕ → AttemptOutcome := fun _ _ => .raised "boom"

/-- From the entry of a process to its first pool. -/
def toPool (call : ℕ) (reading : ℚ) : List SharedStep :=
  .enter call pairExecution :: List.replicate 8 (.move call alwaysRaises (.main reading reading))

/-- A process crashes while the runner is at work; another takes its node over when the lease has expired. -/
def takeover : List SharedStep :=
  toPool 0 0 ++ [.move 0 alwaysRaises (.claim "a" "lease0" 0), .move 0 alwaysRaises (.start "a"), .crash 0, .clock 20] ++
    toPool 1 20 ++ [.move 1 alwaysRaises (.claim "a" "lease1" 20), .move 1 alwaysRaises (.start "a")]

theorem exclusive_takeover :
    Run.Along (SharedRun.step pairNodes) (SharedRun.Exclusive pairNodes) (SharedRun.start 0) takeover :=
  exclusive_leases pairNodes 0 takeover (by decide +kernel)

/-- The first node fails twice, the next round has seen that, and then the failure is reset. -/
def resetBehind : List SharedStep :=
  toPool 0 0 ++
    [.move 0 alwaysRaises (.claim "a" "lease0" 0), .move 0 alwaysRaises (.start "a"), .move 0 alwaysRaises (.finish "a" 0),
      .move 0 alwaysRaises (.claim "a" "lease1" 0), .move 0 alwaysRaises (.start "a"), .move 0 alwaysRaises (.finish "a" 0)] ++
    List.replicate 3 (.move 0 alwaysRaises (.main 0 0)) ++ [.resetFailed 0]

/-- **A stale snapshot blocks a node.**  The dependency was failed when the snapshot was taken and has been reset since, so
that the node becomes blocked while neither of the two is failed or blocked. -/
theorem blocked_after_reset : let s := Run.exec (SharedRun.step pairNodes) (SharedRun.start 0) resetBehind
    let act := SharedStep.move 0 alwaysRaises (.main 0 0)
    statusOf s.rows "a" = some .pending ∧ statusOf s.rows "b" = some .pending ∧
      statusOf (s.step pairNodes act).rows "a" = some .pending ∧ statusOf (s.step pairNodes act).rows "b" = some .blocked ∧
        ¬SharedRun.Exclusive pairNodes s act := by
  have hrun : let s := Run.exec (SharedRun.step pairNodes) (SharedRun.start 0) resetBehind
      let act := SharedStep.move 0 alwaysRaises (.main 0 0)
      statusOf s.rows "a" = some .pending ∧ statusOf s.rows "b" = some .pending ∧
        statusOf (s.step pairNodes act).rows "a" = some .pending ∧
          statusOf (s.step pairNodes act).rows "b" = some .blocked := by
    decide +kernel
  obtain ⟨ha, hb, ha', hb'⟩ := hrun
  refine ⟨ha, hb, ha', hb', fun h => ?_⟩
  rcases h.blocked "b" hb' with hblocked | ⟨node, hmem, hid, d, hd, hfailed⟩
  · exact nomatch hb.symm.trans hblocked
  · obtain rfl : d = "a" := by
      simp only [pairNodes, mem_cons, not_mem_nil, or_false] at hmem
      rcases hmem with rfl | rfl
      · cases hd
      · exact mem_singleton.mp hd
    obtain ⟨row, hget, hs⟩ := statusIn_eq_true.mp hfailed
    rw [statusOf_of_get? hget] at ha
    rw [some.inj ha] at hs
    exact absurd hs (by decide)

end ComputeMesh.Platform.Workflow
