import ComputeMesh.Platform.WorkflowExecute

/-!
# The leases on the nodes of a workflow

Who holds a lease on a node, and how often its runner was started, can be read off the history of the grants, renewals and
starts.  The rows follow that history, whatever processes share the table.

* `NodeEvent` — what is granted, renewed, given back, started and reset;
* `leaseUntil`, `newestClaim`, `startsSince` — what the history says of a lease and of a node;
* `RowsInv` — **the rows follow the history**: a lease that lasts is the one its row names;
* `RowsInv.set` — the one rule for a write to one row, with `RowsInv.claimed`, `.givenBack`, `.renewed`, `.takenAway`,
  `.started` and `.reset` its cases.
-/

namespace ComputeMesh.Platform.Workflow

open Option

inductive NodeEvent
  | claimed (nodeId leaseId : String) (expires : ℚ)
  | renewed (leaseId : String) (expires : ℚ)
  | givenBack (leaseId : String)
  | started (nodeId leaseId : String)
  | reset (nodeId : String)
  deriving DecidableEq, Repr

/-! ### What the history says, newest event first -/

/-- The node that the lease was granted on. -/
def leaseOn (leaseId : String) : List NodeEvent → Option String
  | [] => none
  | .claimed n l _ :: log => if l = leaseId then some n else leaseOn leaseId log
  | _ :: log => leaseOn leaseId log

/-- Until when the lease lasts, if it was granted and not given back. -/
def leaseUntil (leaseId : String) : List NodeEvent → Option ℚ
  | [] => none
  | .claimed _ l expires :: log => if l = leaseId then some expires else leaseUntil leaseId log
  | .renewed l expires :: log => if l = leaseId then some expires else leaseUntil leaseId log
  | .givenBack l :: log => if l = leaseId then none else leaseUntil leaseId log
  | _ :: log => leaseUntil leaseId log

/-- The lease that was granted last on the node. -/
def newestClaim (nodeId : String) : List NodeEvent → Option String
  | [] => none
  | .claimed n l _ :: log => if n = nodeId then some l else newestClaim nodeId log
  | _ :: log => newestClaim nodeId log

/-- How often the runner was started on the node since it was last reset. -/
def startsSince (nodeId : String) : List NodeEvent → ℕ
  | [] => 0
  | .started n _ :: log => if n = nodeId then startsSince nodeId log + 1 else startsSince nodeId log
  | .reset n :: log => if n = nodeId then 0 else startsSince nodeId log
  | _ :: log => startsSince nodeId log

def Unexpired (log : List NodeEvent) (now : ℚ) (nodeId leaseId : String) : Prop :=
  leaseOn leaseId log = some nodeId ∧ ∃ expires, leaseUntil leaseId log = some expires ∧ now < expires

/-- The two histories say the same of every node but one. -/
structure SameElsewhere (nodeId : String) (log log' : List NodeEvent) : Prop where
  newest : ∀ n, n ≠ nodeId → newestClaim n log' = newestClaim n log
  starts : ∀ n, n ≠ nodeId → startsSince n log' = startsSince n log
  begun : ∀ n l, n ≠ nodeId → (NodeEvent.started n l ∈ log' ↔ NodeEvent.started n l ∈ log)
  leases : ∀ n l, n ≠ nodeId → (leaseOn l log' = some n ↔ leaseOn l log = some n)
  expiry : ∀ n l, n ≠ nodeId → leaseOn l log = some n → leaseUntil l log' = leaseUntil l log

namespace SameElsewhere

variable {nodeId leaseId : String} {expires : ℚ} {log : List NodeEvent}

theorem refl (nodeId : String) (log : List NodeEvent) : SameElsewhere nodeId log log :=
  ⟨fun _ _ => rfl, fun _ _ => rfl, fun _ _ _ => Iff.rfl, fun _ _ _ => Iff.rfl, fun _ _ _ _ => rfl⟩

theorem claimed (hfresh : leaseOn leaseId log = none) :
    SameElsewhere nodeId log (.claimed nodeId leaseId expires :: log) := by
  refine ⟨fun n hn => if_neg hn.symm, fun _ _ => rfl, fun n l _ => ?_, fun n l hn => ?_, fun n l _ hon => ?_⟩
  · simp
  · rw [leaseOn]
    split
    · rename_i heq
      subst heq
      rw [hfresh]
      exact iff_of_false (fun h => hn (some.inj h).symm) nofun
    · exact Iff.rfl
  · refine if_neg ?_
    rintro rfl
    rw [hfresh] at hon
    cases hon

theorem lease_ne {n l : String} (hn : n ≠ nodeId) (hon : leaseOn leaseId log = some nodeId) (hon' : leaseOn l log = some n) :
    leaseId ≠ l := by
  rintro rfl
  exact hn (some.inj (hon'.symm.trans hon))

theorem renewed (hon : leaseOn leaseId log = some nodeId) : SameElsewhere nodeId log (.renewed leaseId expires :: log) :=
  ⟨fun _ _ => rfl, fun _ _ => rfl, fun _ _ _ => by simp, fun _ _ _ => Iff.rfl,
    fun _ _ hn hon' => if_neg (lease_ne hn hon hon')⟩

theorem givenBack (hon : leaseOn leaseId log = some nodeId) : SameElsewhere nodeId log (.givenBack leaseId :: log) :=
  ⟨fun _ _ => rfl, fun _ _ => rfl, fun _ _ _ => by simp, fun _ _ _ => Iff.rfl,
    fun _ _ hn hon' => if_neg (lease_ne hn hon hon')⟩

end SameElsewhere

/-! ### The rows follow the history -/

variable (definition : List WorkflowNode)

def DepsCompleted (rows : NodeTable) (nodeId : String) : Prop :=
  ∀ node ∈ definition, node.nodeId = nodeId → ∀ d ∈ node.dependencies, statusOf rows d = some .completed

/-- What the history says of a row. -/
structure RowInv (rows : NodeTable) (log : List NodeEvent) (nodeId : String) (row : NodeRow) : Prop where
  lease : ∀ l, row.leaseId = some l → row.status = .running ∧ newestClaim nodeId log = some l ∧
    leaseOn l log = some nodeId ∧ ∃ expires, leaseUntil l log = some expires ∧ row.leaseExpiresAt = some expires
  running : row.status = .running → (∃ l, row.leaseId = some l) ∧ DepsCompleted definition rows nodeId
  starts : startsSince nodeId log ≤ row.attempts
  unstarted : ∀ l, row.leaseId = some l → NodeEvent.started nodeId l ∉ log → startsSince nodeId log < row.attempts
  bound : ∀ node ∈ definition, node.nodeId = nodeId → (row.attempts : ℤ) ≤ node.maxAttempts

structure RowsInv (rows : NodeTable) (log : List NodeEvent) (now : ℚ) : Prop where
  empty : rows.entries = [] → log = []
  row : ∀ n row, rows.get? n = some row → RowInv definition rows log n row
  live : ∀ n l, Unexpired log now n l → ∃ row, rows.get? n = some row ∧ row.leaseId = some l

variable {definition} {rows : NodeTable} {log log' : List NodeEvent} {now reading : ℚ} {nodeId leaseId : String}
  {row row' : NodeRow}

theorem statusOf_of_get? (hget : rows.get? nodeId = some row) : statusOf rows nodeId = some row.status := by
  rw [statusOf, hget]
  rfl

theorem DepsCompleted.set {n : String} (h : DepsCompleted definition rows n) (hget : rows.get? nodeId = some row)
    (hopen : row.status ≠ .completed) : DepsCompleted definition (rows.set nodeId row') n := by
  intro node hmem hid d hd
  have hstatus := h node hmem hid d hd
  have hne : d ≠ nodeId := by
    rintro rfl
    rw [statusOf_of_get? hget] at hstatus
    exact hopen (some.inj hstatus)
  rw [statusOf, Dict.get?_set_of_ne _ hne]
  exact hstatus

namespace RowsInv

section

variable (h : RowsInv definition rows log now)
include h

/-- **The rule for a write to one row** that is not completed. -/
theorem set (hget : rows.get? nodeId = some row) (hopen : row.status ≠ .completed)
    (hsame : SameElsewhere nodeId log log') (hrow : RowInv definition (rows.set nodeId row') log' nodeId row')
    (hlive : ∀ l, Unexpired log' now nodeId l → row'.leaseId = some l) :
    RowsInv definition (rows.set nodeId row') log' now := by
  have hother : ∀ n, n ≠ nodeId → (rows.set nodeId row').get? n = rows.get? n := fun n hn => Dict.get?_set_of_ne _ hn _
  refine ⟨fun hempty => ?_, fun n r hr => ?_, fun n l hunexpired => ?_⟩
  · have hnone : (rows.set nodeId row').get? nodeId = none := by rw [Dict.get?, hempty]; rfl
    rw [Dict.get?_set_self] at hnone
    cases hnone
  · by_cases hn : n = nodeId
    · subst hn
      rw [Dict.get?_set_self] at hr
      obtain rfl := some.inj hr
      exact hrow
    · rw [hother n hn] at hr
      obtain ⟨hlease, hrunning, hstarts, hunstarted, hbound⟩ := h.row n r hr
      refine ⟨fun l hl => ?_, fun hs => ⟨(hrunning hs).1, (hrunning hs).2.set hget hopen⟩, ?_, fun l hl hnot => ?_, hbound⟩
      · obtain ⟨hs, hnewest, hon, expires, huntil, hexpires⟩ := hlease l hl
        exact ⟨hs, (hsame.newest n hn).trans hnewest, (hsame.leases n l hn).mpr hon, expires,
          (hsame.expiry n l hn hon).trans huntil, hexpires⟩
      · rw [hsame.starts n hn]
        exact hstarts
      · rw [hsame.starts n hn]
        exact hunstarted l hl (mt (hsame.begun n l hn).mpr hnot)
  · by_cases hn : n = nodeId
    · subst hn
      exact ⟨row', Dict.get?_set_self _ _ _, hlive l hunexpired⟩
    · obtain ⟨hon, expires, huntil, hlt⟩ := hunexpired
      have hon' := (hsame.leases n l hn).mp hon
      rw [hother n hn]
      exact h.live n l ⟨hon', expires, (hsame.expiry n l hn hon').symm.trans huntil, hlt⟩

theorem later {now' : ℚ} (hle : now ≤ now') : RowsInv definition rows log now' :=
  { h with
    live := fun n l hunexpired => by
      obtain ⟨hon, expires, huntil, hlt⟩ := hunexpired
      exact h.live n l ⟨hon, expires, huntil, hle.trans_lt hlt⟩ }

theorem leaseId_of_unexpired (hget : rows.get? nodeId = some row) {l : String}
    (hunexpired : Unexpired log now nodeId l) : row.leaseId = some l := by
  obtain ⟨row', hget', hl⟩ := h.live nodeId l hunexpired
  obtain rfl := some.inj (hget.symm.trans hget')
  exact hl

/-- **A grant.** -/
theorem claimed (hget : rows.get? nodeId = some row) {leaseSeconds : ℚ}
    (hclaimable : row.claimable reading = true) (hreading : reading ≤ now)
    (hfresh : leaseOn leaseId log = none) (hdeps : DepsCompleted definition rows nodeId)
    (hleft : ∀ node ∈ definition, node.nodeId = nodeId → (row.attempts : ℤ) < node.maxAttempts) :
    RowsInv definition (rows.set nodeId (row.claim (row.attempts + 1) leaseId leaseSeconds reading))
      (.claimed nodeId leaseId (reading + leaseSeconds) :: log) now := by
  have hinv := h.row nodeId row hget
  have hopen : row.status ≠ .completed := by
    intro hs
    simp [NodeRow.claimable, hs] at hclaimable
  refine h.set hget hopen (.claimed hfresh) ⟨fun l hl => ?_, fun _ => ⟨⟨leaseId, rfl⟩, hdeps.set hget hopen⟩, ?_,
    fun l hl _ => ?_, fun node hmem hid => ?_⟩ fun l hunexpired => ?_
  · obtain rfl : leaseId = l := some.inj hl
    exact ⟨rfl, if_pos rfl, if_pos rfl, reading + leaseSeconds, if_pos rfl, rfl⟩
  · exact Nat.le_succ_of_le hinv.starts
  · exact Nat.lt_succ_of_le hinv.starts
  · have hlt := hleft node hmem hid
    show ((row.attempts + 1 : ℕ) : ℤ) ≤ _
    omega
  · obtain ⟨hon, expires, huntil, hlt⟩ := hunexpired
    by_cases heq : leaseId = l
    · exact congrArg some heq
    · -- another lease that lasts would have kept the row from being claimed
      rw [leaseOn, if_neg heq] at hon
      rw [leaseUntil, if_neg heq] at huntil
      have hl := h.leaseId_of_unexpired hget ⟨hon, expires, huntil, hlt⟩
      obtain ⟨hs, -, -, expires', huntil', hexpires⟩ := hinv.lease l hl
      obtain rfl := some.inj (huntil.symm.trans huntil')
      have hover : expires ≤ reading := by
        simpa [NodeRow.claimable, NodeRow.leaseOver, hs, hexpires] using hclaimable
      exact absurd hlt (not_lt.mpr (hover.trans hreading))

theorem givenBack (hget : rows.get? nodeId = some row)
    (hlease : row.leaseId = some leaseId) (hnone : row'.leaseId = none) (hidle : row'.status ≠ .running)
    (hattempts : row'.attempts = row.attempts) :
    RowsInv definition (rows.set nodeId row') (.givenBack leaseId :: log) now := by
  have hinv := h.row nodeId row hget
  obtain ⟨hrunning, -, hon, -⟩ := hinv.lease leaseId hlease
  refine h.set hget (by rw [hrunning]; decide) (.givenBack hon) ⟨fun l hl => ?_, fun hs => absurd hs hidle, ?_,
    fun l hl _ => ?_, fun node hmem hid => ?_⟩ fun l hunexpired => ?_
  · rw [hnone] at hl
    cases hl
  · rw [hattempts]
    exact hinv.starts
  · rw [hnone] at hl
    cases hl
  · rw [hattempts]
    exact hinv.bound node hmem hid
  · obtain ⟨hon', expires, huntil, hlt⟩ := hunexpired
    rw [leaseUntil] at huntil
    split at huntil
    · cases huntil
    · rename_i hne
      have hl := h.leaseId_of_unexpired hget ⟨hon', expires, huntil, hlt⟩
      exact absurd (some.inj (hlease.symm.trans hl)) hne

theorem renewed (hget : rows.get? nodeId = some row)
    (hlease : row.leaseId = some leaseId) (leaseSeconds reading : ℚ) :
    RowsInv definition (rows.set nodeId (row.renew leaseSeconds reading))
      (.renewed leaseId (reading + leaseSeconds) :: log) now := by
  have hinv := h.row nodeId row hget
  obtain ⟨hrunning, hnewest, hon, -⟩ := hinv.lease leaseId hlease
  have hopen : row.status ≠ .completed := by rw [hrunning]; decide
  refine h.set hget hopen (.renewed hon) ⟨fun l hl => ?_, fun hs => ⟨(hinv.running hs).1, (hinv.running hs).2.set hget hopen⟩,
    hinv.starts, fun l hl hnot => ?_, hinv.bound⟩ fun l hunexpired => ?_
  · obtain rfl : leaseId = l := some.inj (hlease.symm.trans hl)
    exact ⟨hrunning, hnewest, hon, reading + leaseSeconds, if_pos rfl, rfl⟩
  · exact hinv.unstarted l hl fun hin => hnot (List.mem_cons_of_mem _ hin)
  · obtain ⟨hon', expires, huntil, hlt⟩ := hunexpired
    rw [leaseUntil] at huntil
    split at huntil
    · rename_i heq
      exact heq ▸ hlease
    · exact h.leaseId_of_unexpired hget ⟨hon', expires, huntil, hlt⟩

/-- A row is failed or blocked from outside; no lease on it lasts. -/
theorem takenAway (hget : rows.get? nodeId = some row)
    (hopen : row.status ≠ .completed) (hover : ∀ l, ¬Unexpired log now nodeId l) (hnone : row'.leaseId = none)
    (hidle : row'.status ≠ .running) (hattempts : row'.attempts = row.attempts) :
    RowsInv definition (rows.set nodeId row') log now := by
  have hinv := h.row nodeId row hget
  refine h.set hget hopen (.refl nodeId log) ⟨fun l hl => ?_, fun hs => absurd hs hidle, ?_, fun l hl _ => ?_,
    fun node hmem hid => ?_⟩ fun l hunexpired => absurd hunexpired (hover l)
  · rw [hnone] at hl
    cases hl
  · rw [hattempts]
    exact hinv.starts
  · rw [hnone] at hl
    cases hl
  · rw [hattempts]
    exact hinv.bound node hmem hid

/-- **The runner is started** under the lease that the row names. -/
theorem started (hget : rows.get? nodeId = some row)
    (hlease : row.leaseId = some leaseId) (hfirst : NodeEvent.started nodeId leaseId ∉ log) :
    RowsInv definition rows (.started nodeId leaseId :: log) now := by
  refine ⟨fun hempty => ?_, fun n r hr => ?_, h.live⟩
  · rw [Dict.get?, hempty] at hget
    cases hget
  · obtain ⟨hl, hrunning, hstarts, hunstarted, hbound⟩ := h.row n r hr
    refine ⟨hl, hrunning, ?_, fun l hrl hnot => ?_, hbound⟩
    · rw [startsSince]
      split
      · rename_i heq
        subst heq
        obtain rfl := some.inj (hget.symm.trans hr)
        exact hunstarted leaseId hlease hfirst
      · exact hstarts
    · rw [startsSince]
      split
      · rename_i heq
        subst heq
        obtain rfl := some.inj (hget.symm.trans hr)
        obtain rfl := some.inj (hlease.symm.trans hrl)
        exact absurd List.mem_cons_self hnot
      · exact hunstarted l hrl fun hin => hnot (List.mem_cons_of_mem _ hin)

end

end RowsInv

/-! ### Resetting -/

section Reset

variable (ids : List String)

theorem leaseOn_reset : leaseOn leaseId (ids.map .reset ++ log) = leaseOn leaseId log := by
  induction ids with
  | nil => rfl
  | cons n ids ih => exact ih

theorem leaseUntil_reset : leaseUntil leaseId (ids.map .reset ++ log) = leaseUntil leaseId log := by
  induction ids with
  | nil => rfl
  | cons n ids ih => exact ih

theorem newestClaim_reset : newestClaim nodeId (ids.map .reset ++ log) = newestClaim nodeId log := by
  induction ids with
  | nil => rfl
  | cons n ids ih => exact ih

theorem startsSince_reset :
    startsSince nodeId (ids.map .reset ++ log) = if nodeId ∈ ids then 0 else startsSince nodeId log := by
  induction ids with
  | nil => rfl
  | cons n ids ih =>
    show (if n = nodeId then 0 else startsSince nodeId (ids.map .reset ++ log)) = _
    rw [ih]
    by_cases h : n = nodeId
    · rw [if_pos h, if_pos (h ▸ List.mem_cons_self)]
    · simp only [if_neg h, List.mem_cons, Ne.symm h, false_or]

theorem started_mem_reset : NodeEvent.started nodeId leaseId ∈ ids.map .reset ++ log ↔
    NodeEvent.started nodeId leaseId ∈ log := by
  simp

end Reset

/-- The ids of the rows that `reset_failed` resets. -/
def resettable (rows : NodeTable) : List String := (rows.filter fun _ row => row.resettable).entries.map Prod.fst

theorem mem_resettable : nodeId ∈ resettable rows ↔ ∃ row, rows.get? nodeId = some row ∧ row.resettable = true := by
  constructor
  · intro h
    obtain ⟨⟨k, row⟩, hmem, rfl⟩ := List.mem_map.mp h
    obtain ⟨hin, hreset⟩ := List.mem_filter.mp hmem
    exact ⟨row, (rows.mem_entries_iff k row).mp hin, hreset⟩
  · rintro ⟨row, hget, hreset⟩
    exact List.mem_map.mpr ⟨(nodeId, row), List.mem_filter.mpr ⟨(rows.mem_entries_iff _ _).mpr hget, hreset⟩, rfl⟩

theorem get?_resetFailed (hget : rows.get? nodeId = some row) (hkeep : row.resettable = false) :
    (rows.resetFailed reading).2.get? nodeId = some row := by
  show (rows.mapValues _).get? nodeId = _
  rw [Dict.get?_mapValues, hget, map_some, if_neg (by rw [hkeep]; decide)]

theorem DepsCompleted.reset {n : String} (h : DepsCompleted definition rows n) :
    DepsCompleted definition (rows.resetFailed reading).2 n := by
  intro node hmem hid d hd
  have hstatus := h node hmem hid d hd
  obtain ⟨row, hget, hs⟩ := map_eq_some_iff.mp hstatus
  have hkeep : row.resettable = false := by simp [NodeRow.resettable, hs]
  rw [statusOf_of_get? (get?_resetFailed hget hkeep), hs]

theorem RowsInv.reset (h : RowsInv definition rows log now) (reading : ℚ) :
    RowsInv definition (rows.resetFailed reading).2 ((resettable rows).map .reset ++ log) now := by
  refine ⟨fun hempty => ?_, fun n r hr => ?_, fun n l hunexpired => ?_⟩
  · have hrows : rows.entries = [] := List.map_eq_nil_iff.mp hempty
    have hnone : resettable rows = [] := by
      simp [resettable, Dict.filter, hrows]
    rw [hnone, h.empty hrows]
    rfl
  · obtain ⟨row, hget, heq⟩ := map_eq_some_iff.mp ((Dict.get?_mapValues _ _ _).symm.trans hr)
    obtain ⟨hl, hrunning, hstarts, hunstarted, hbound⟩ := h.row n row hget
    by_cases hreset : row.resettable = true
    · rw [if_pos hreset] at heq
      obtain rfl := heq
      refine ⟨by rintro l ⟨⟩, by rintro ⟨⟩, ?_, by rintro l ⟨⟩, fun node hmem hid => ?_⟩
      · rw [startsSince_reset, if_pos (mem_resettable.mpr ⟨row, hget, hreset⟩)]
        exact Nat.zero_le _
      · exact (Int.natCast_nonneg row.attempts).trans (hbound node hmem hid)
    · rw [if_neg hreset] at heq
      obtain rfl := heq
      have hout : n ∉ resettable rows := by
        rw [mem_resettable]
        rintro ⟨row', hget', hreset'⟩
        obtain rfl := some.inj (hget.symm.trans hget')
        exact hreset hreset'
      refine ⟨fun l hrl => ?_, fun hs => ⟨(hrunning hs).1, DepsCompleted.reset (hrunning hs).2⟩, ?_, fun l hrl hnot => ?_,
        hbound⟩
      · rw [newestClaim_reset, leaseOn_reset, leaseUntil_reset]
        exact hl l hrl
      · rw [startsSince_reset, if_neg hout]
        exact hstarts
      · rw [startsSince_reset, if_neg hout]
        rw [started_mem_reset] at hnot
        exact hunstarted l hrl hnot
  · obtain ⟨hon, expires, huntil, hlt⟩ := hunexpired
    rw [leaseOn_reset] at hon
    rw [leaseUntil_reset] at huntil
    obtain ⟨row, hget, hl⟩ := h.live n l ⟨hon, expires, huntil, hlt⟩
    have hrunning := ((h.row n row hget).lease l hl).1
    exact ⟨row, get?_resetFailed hget (by simp [NodeRow.resettable, hrunning]), hl⟩

theorem RowsInv.ensured (h : RowsInv definition rows log now) (nodes : List WorkflowNode) (reading : ℚ)
    (hpos : ∀ node ∈ definition, 0 ≤ node.maxAttempts) :
    RowsInv definition (rows.ensureWorkflow nodes reading) log now := by
  refine ⟨fun hempty => ?_, fun n r hr => ?_, fun n l hunexpired => ?_⟩
  · unfold NodeTable.ensureWorkflow at hempty
    split at hempty
    · rename_i hrows
      exact h.empty hrows
    · exact h.empty hempty
  · rcases NodeTable.get?_of_ensureWorkflow hr with hget | ⟨rfl, hrows⟩
    · rw [NodeTable.ensureWorkflow_of_get? hget]
      exact h.row n r hget
    · obtain rfl := h.empty hrows
      exact ⟨nofun, nofun, Nat.zero_le _, nofun,
        fun node hmem _ => hpos node hmem⟩
  · obtain ⟨row, hget, hl⟩ := h.live n l hunexpired
    rw [NodeTable.ensureWorkflow_of_get? hget]
    exact ⟨row, hget, hl⟩

end ComputeMesh.Platform.Workflow
