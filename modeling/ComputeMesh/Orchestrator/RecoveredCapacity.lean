import ComputeMesh.Orchestrator.StartupRecovery

/-!
# What the restart frees

The pass looks for work among the jobs that are not finished.  A job is finished before its reservations are
released, so a crash in between leaves reservations that no pass will find.

* `Recoverable.recoverJobs`, `Recoverable.expireLeases` — what the two loops make of a recoverable store;
* `Generation` — the life of one server, up to its crash and the restart after it;
* `Stranded` — a reservation still held for a job that is no longer recoverable;
* `startup_recovery_frees_capacity` — **the pass succeeds and finishes every job; it frees all bound capacity
  exactly when nothing is stranded.**
-/

namespace ComputeMesh.Orchestrator

open ComputeMesh.Text List ReservationState
open StateStore (PlainRequest)

/-! ### The requests of the pass -/

theorem length_releaseRequest (jobId id : String) (revision : ℕ) :
    id.length + 24 ≤ (releaseRequest jobId id revision).requestId.length := by
  have htag : "startup-recovery-release:".length = 25 := by decide
  show _ ≤ ("startup-recovery-release:" ++ jobId ++ ":" ++ id ++ ":" ++ toString revision).length
  simp only [String.length_append, htag]
  omega

theorem length_expireRequest (id : String) (revision : ℕ) :
    id.length + 24 ≤ (expireRequest id revision).requestId.length := by
  have htag : "startup-recovery-expire:".length = 24 := by decide
  show _ ≤ ("startup-recovery-expire:" ++ id ++ ":" ++ toString revision).length
  simp only [String.length_append, htag]
  omega

theorem length_failRequest (jobId : String) (revision : ℕ) :
    jobId.length + 24 ≤ (failRequest jobId revision).requestId.length := by
  have htag : "startup-recovery-fail:".length = 22 := by decide
  have hcolon : ":".length = 1 := by decide
  have hrevision : 0 < (toString revision).length := Nat.length_repr_pos
  show _ ≤ ("startup-recovery-fail:" ++ jobId ++ ":" ++ toString revision).length
  simp only [String.length_append, htag, hcolon]
  omega

variable {req : Request}

theorem plain_of_long {n : ℕ} (hlong : n + 24 ≤ req.requestId.length)
    (hmetadata : req.commandMetadata = none) (hattempt : req.attemptNumber = none) : PlainRequest req := by
  refine ⟨fun hempty => ?_, hmetadata, hattempt⟩
  rw [hempty] at hlong
  have hzero : "".length = 0 := rfl
  omega

/-! ### One move -/

namespace StateStore

variable {s : StateStore}

/-- **A reservation that has not ended can be ended** under a long id. -/
theorem Recoverable.endReservation (h : s.Recoverable) (now : UtcTime) {id : String}
    {row : EntityRow ReservationState} {target : ReservationState}
    (hrow : s.reservations.rows.get? id = some row)
    (htarget : target ∈ ReservationState.ended) (hallowed : target ∈ EntityState.allowed row.state)
    (hplain : PlainRequest req) (hrevision : req.expectedRevision = row.revision)
    (hlong : id.length + 24 ≤ req.requestId.length) :
    ∃ a s', s.transitionReservation now id req target = (.ok a, s') ∧ s'.Recoverable ∧ s'.jobs = s.jobs ∧
      s'.bindings = s.bindings ∧ ∀ k, s'.reservations.rows.get? k
        = if k = id then some ⟨target, row.revision + 1, none⟩ else s.reservations.rows.get? k := by
  have hfresh : s.reservations.effects.get? (id, req.requestId) = none := by
    rcases heffect : s.reservations.effects.get? (id, req.requestId) with _ | e
    · rfl
    · obtain ⟨row', hrow', hended⟩ := h.reservations id req.requestId e heffect hlong
      rw [hrow] at hrow'
      cases hrow'
      rw [ended_closed _ hended] at hallowed
      cases hallowed
  have hready : s.reservations.Ready id req target row := ⟨hfresh, hrow, hrevision.symm, hallowed⟩
  have hlease : leaseText target none row = .ok none := by
    revert htarget
    cases target <;> simp [ended, leaseText, endsLease]
  have htransition := s.reservationTransition_of_ready now hplain hready hlease
  have hkept : (s.reservationTransition now id req target none none).2.Recoverable :=
    h.reservationTransition (.inr htarget) fun hb => absurd rfl hb
  rw [htransition] at hkept
  exact ⟨_, _, htransition, hkept, s.processEvent_jobs _, s.processEvent_bindings _,
    fun k => Dict.get?_set _ _ _ _⟩

/-- **A job that is not finished can be failed** under a long id. -/
theorem Recoverable.failJob (h : s.Recoverable) (now : UtcTime) {jobId : String} {row : EntityRow JobState}
    (hrow : s.jobs.rows.get? jobId = some row)
    (hstate : row.state ∈ JobState.recoverable) (hplain : PlainRequest req)
    (hrevision : req.expectedRevision = row.revision) (hlong : jobId.length + 24 ≤ req.requestId.length) :
    ∃ a s', s.transitionJob now jobId req .failed = (.ok a, s') ∧ s'.Recoverable ∧
      s'.reservations = s.reservations ∧ s'.bindings = s.bindings ∧ ∀ k, s'.jobs.rows.get? k
        = if k = jobId then some ⟨.failed, row.revision + 1, none⟩ else s.jobs.rows.get? k := by
  have hallowed : JobState.failed ∈ EntityState.allowed row.state := by
    revert hstate
    cases row.state <;> decide
  have hfresh : s.jobs.effects.get? (jobId, req.requestId) = none := by
    rcases heffect : s.jobs.effects.get? (jobId, req.requestId) with _ | e
    · rfl
    · obtain ⟨row', hrow', hfailed⟩ := h.jobs jobId req.requestId e heffect hlong
      rw [hrow] at hrow'
      cases hrow'
      rw [failed_closed _ hfailed] at hallowed
      cases hallowed
  have hready : s.jobs.Ready jobId req .failed row := ⟨hfresh, hrow, hrevision.symm, hallowed⟩
  have htransition := s.transitionJob_of_ready now hplain hready
  have hkept : (s.transitionJob now jobId req .failed).2.Recoverable := h.transitionJob (.inr rfl)
  rw [htransition] at hkept
  exact ⟨_, _, htransition, hkept, s.processEvent_reservations _, s.processEvent_bindings _,
    fun k => Dict.get?_set _ _ _ _⟩

end StateStore

/-! ### The lists the pass reads -/

section
variable {S : Type}

theorem mem_sortRecords {records : List (String × EntityRow S)} {e : String × EntityRow S} :
    e ∈ sortRecords records ↔ e ∈ records :=
  (perm_insertionSort _ records).mem_iff

theorem nodup_sortRecords (d : Dict String (EntityRow S)) (keep : String × EntityRow S → Bool) :
    ((sortRecords (d.entries.filter keep)).map Prod.fst).Nodup := by
  refine ((perm_insertionSort _ _).map Prod.fst).nodup_iff.mpr ?_
  exact d.nodupKeys.sublist (filter_sublist.map Prod.fst)

theorem mem_records {d : Dict String (EntityRow S)} {keep : String × EntityRow S → Bool} {id : String}
    {row : EntityRow S} :
    (id, row) ∈ sortRecords (d.entries.filter keep) ↔ d.get? id = some row ∧ keep (id, row) = true := by
  rw [mem_sortRecords, mem_filter, d.mem_entries_iff]

end

/-! ### The two loops -/

namespace StateStore

variable {s : StateStore}

def releasedRow (row : EntityRow ReservationState) : EntityRow ReservationState :=
  if row.state ∈ ReservationState.releasable then ⟨.released, row.revision + 1, none⟩ else row

theorem releasedRow_state (row : EntityRow ReservationState) :
    (releasedRow row).state ∉ ReservationState.releasable := by
  unfold releasedRow
  split
  · show released ∉ _
    decide
  · assumption

/-- **Releasing the reservations of a list**, read from the store as it is. -/
theorem Recoverable.releaseBound (clock : RequestClock) (jobId : String)
    {rows : List (String × EntityRow ReservationState)} (h : s.Recoverable)
    (hnd : (rows.map Prod.fst).Nodup)
    (hrows : ∀ e ∈ rows, s.reservations.rows.get? e.1 = some e.2) :
    ∃ released s', releaseBound clock jobId rows s = (.ok released, s') ∧ s'.Recoverable ∧
      s'.jobs = s.jobs ∧ s'.bindings = s.bindings ∧
      ∀ k, s'.reservations.rows.get? k
        = if k ∈ rows.map Prod.fst then (s.reservations.rows.get? k).map releasedRow
          else s.reservations.rows.get? k := by
  induction rows generalizing s with
  | nil => exact ⟨[], s, rfl, h, rfl, rfl, fun k => rfl⟩
  | cons e rest ih =>
    obtain ⟨id, row⟩ := e
    rw [map_cons, nodup_cons] at hnd
    have hrow : s.reservations.rows.get? id = some row := hrows (id, row) mem_cons_self
    have hrest : ∀ e ∈ rest, s.reservations.rows.get? e.1 = some e.2 :=
      fun e he => hrows e (mem_cons_of_mem _ he)
    by_cases hstate : row.state ∈ releasable
    · have hallowed : released ∈ EntityState.allowed row.state := by
        revert hstate
        cases row.state <;> decide
      have hlong := length_releaseRequest jobId id row.revision
      obtain ⟨a, s₁, hmove, h₁, hjobs₁, hbindings₁, hrows₁⟩ :=
        h.endReservation (clock (releaseRequest jobId id row.revision).requestId) hrow (by decide) hallowed
          (plain_of_long hlong rfl rfl) rfl hlong
      have hread : ∀ e ∈ rest, s₁.reservations.rows.get? e.1 = some e.2 := by
        intro e he
        have hne : e.1 ≠ id := by
          rintro rfl
          exact hnd.1 (mem_map.mpr ⟨e, he, rfl⟩)
        rw [hrows₁, if_neg hne]
        exact hrest e he
      obtain ⟨released, s₂, hloop, h₂, hjobs₂, hbindings₂, hrows₂⟩ := ih h₁ hnd.2 hread
      refine ⟨id :: released, s₂, ?_, h₂, hjobs₂.trans hjobs₁, hbindings₂.trans hbindings₁, fun k => ?_⟩
      · rw [Orchestrator.releaseBound, if_neg (not_not_intro hstate)]
        simp only [hmove, hloop]
      · rw [hrows₂, hrows₁]
        by_cases hk : k = id
        · subst hk
          rw [map_cons, if_neg hnd.1, if_pos rfl, if_pos mem_cons_self, hrow, Option.map_some,
            releasedRow, if_pos hstate]
        · simp only [map_cons, mem_cons, hk, false_or, if_false]
    · obtain ⟨released, s', hloop, h', hjobs, hbindings, hrows'⟩ := ih h hnd.2 hrest
      refine ⟨released, s', ?_, h', hjobs, hbindings, fun k => ?_⟩
      · rw [Orchestrator.releaseBound, if_pos hstate]
        exact hloop
      · rw [hrows']
        by_cases hk : k = id
        · subst hk
          rw [map_cons, if_neg hnd.1, if_pos mem_cons_self, hrow, Option.map_some, releasedRow,
            if_neg hstate]
        · simp only [map_cons, mem_cons, hk, false_or]

/-- **One job**: its reservations are released, the job is failed. -/
theorem Recoverable.recoverJob (clock : RequestClock) (h : s.Recoverable) {jobId : String}
    {row : EntityRow JobState} (hrow : s.jobs.rows.get? jobId = some row)
    (hstate : row.state ∈ JobState.recoverable) :
    ∃ released s', recoverJob clock s jobId = (.ok (released, true), s') ∧ s'.Recoverable ∧
      s'.bindings = s.bindings ∧
      (∀ k, s'.jobs.rows.get? k
        = if k = jobId then some ⟨.failed, row.revision + 1, none⟩ else s.jobs.rows.get? k) ∧
      ∀ k, s'.reservations.rows.get? k
        = if (s.bindings.get? k).map ReservationBinding.jobId = some jobId
          then (s.reservations.rows.get? k).map releasedRow else s.reservations.rows.get? k := by
  have hread : ∀ e ∈ s.reservationsForJob jobId, s.reservations.rows.get? e.1 = some e.2 :=
    fun e he => (mem_records.mp he).1
  have hnd : ((s.reservationsForJob jobId).map Prod.fst).Nodup := nodup_sortRecords _ _
  obtain ⟨released, s₁, hloop, h₁, hjobs₁, hbindings₁, hrows₁⟩ :=
    h.releaseBound clock jobId hnd hread
  rw [← hjobs₁] at hrow
  have hlong := length_failRequest jobId row.revision
  obtain ⟨a, s₂, hmove, h₂, hreservations₂, hbindings₂, hjobs₂⟩ :=
    h₁.failJob (clock (failRequest jobId row.revision).requestId) hrow hstate
      (plain_of_long hlong rfl rfl) rfl hlong
  refine ⟨released, s₂, ?_, h₂, hbindings₂.trans hbindings₁, fun k => ?_, fun k => ?_⟩
  · rw [Orchestrator.recoverJob]
    simp only [hloop, hrow, hstate, if_true, hmove]
  · rw [hjobs₂, hjobs₁]
  · rw [hreservations₂, hrows₁]
    rcases hk : s.reservations.rows.get? k with _ | rk
    · simp only [Option.map_none, ite_self]
    · have hmem : k ∈ (s.reservationsForJob jobId).map Prod.fst ↔
          (s.bindings.get? k).map ReservationBinding.jobId = some jobId := by
        constructor
        · intro hmem
          obtain ⟨⟨k', row'⟩, he, rfl⟩ := mem_map.mp hmem
          exact of_decide_eq_true (mem_records.mp he).2
        · intro hbound
          exact mem_map.mpr ⟨(k, rk), mem_records.mpr ⟨hk, decide_eq_true hbound⟩, rfl⟩
      simp only [hmem]

/-- **The unfinished jobs**: each is failed, and what is bound to one of them is released. -/
theorem Recoverable.recoverJobs (clock : RequestClock) {ids : List String} (h : s.Recoverable)
    (hnd : ids.Nodup) (hids : ∀ id ∈ ids, ∃ row, s.jobs.rows.get? id = some row ∧
      row.state ∈ JobState.recoverable) (report : StartupRecoveryReport) :
    ∃ report' s', recoverJobs clock ids s report = (.ok report', s') ∧ s'.Recoverable ∧
      s'.bindings = s.bindings ∧
      (∀ k ∈ ids, ∃ row, s'.jobs.rows.get? k = some row ∧ row.state = .failed) ∧
      (∀ k ∉ ids, s'.jobs.rows.get? k = s.jobs.rows.get? k) ∧
      ∀ k b, s.bindings.get? k = some b → s'.reservations.rows.get? k
        = if b.jobId ∈ ids then (s.reservations.rows.get? k).map releasedRow
          else s.reservations.rows.get? k := by
  induction ids generalizing s report with
  | nil => exact ⟨report, s, rfl, h, rfl, nofun, fun k _ => rfl, fun k b _ => rfl⟩
  | cons jobId rest ih =>
    rw [nodup_cons] at hnd
    obtain ⟨row, hrow, hstate⟩ := hids jobId mem_cons_self
    obtain ⟨released, s₁, hone, h₁, hbindings₁, hjobs₁, hrows₁⟩ := h.recoverJob clock hrow hstate
    have hids₁ : ∀ id ∈ rest, ∃ row, s₁.jobs.rows.get? id = some row ∧
        row.state ∈ JobState.recoverable := by
      intro id hid
      have hne : id ≠ jobId := by
        rintro rfl
        exact hnd.1 hid
      rw [hjobs₁, if_neg hne]
      exact hids id (mem_cons_of_mem _ hid)
    obtain ⟨report', s₂, hloop, h₂, hbindings₂, hfailed₂, hsame₂, hrows₂⟩ :=
      ih h₁ hnd.2 hids₁
        { report with
          failedJobs := report.failedJobs ++ [jobId]
          releasedReservations := report.releasedReservations ++ released }
    refine ⟨report', s₂, ?_, h₂, hbindings₂.trans hbindings₁, fun k hk => ?_, fun k hk => ?_,
      fun k b hb => ?_⟩
    · rw [Orchestrator.recoverJobs]
      simp only [hone, if_true]
      exact hloop
    · by_cases hkr : k ∈ rest
      · exact hfailed₂ k hkr
      · rcases mem_cons.mp hk with rfl | hk
        · rw [hsame₂ k hkr, hjobs₁, if_pos rfl]
          exact ⟨_, rfl, rfl⟩
        · exact absurd hk hkr
    · rw [mem_cons, not_or] at hk
      rw [hsame₂ k hk.2, hjobs₁, if_neg hk.1]
    · rw [hrows₂ k b (by rw [hbindings₁]; exact hb), hrows₁, hb, Option.map_some]
      simp only [Option.some.injEq, mem_cons]
      by_cases hj : b.jobId = jobId
      · -- released with this job, and no later job has it
        rw [hj, if_neg hnd.1, if_pos rfl, if_pos (.inl rfl)]
      · simp only [hj, if_false, false_or]

/-- **The leases**: only reservations that are leased are touched. -/
theorem Recoverable.expireLeases (clock : RequestClock) (current : UtcTime)
    {rows : List (String × EntityRow ReservationState)} (h : s.Recoverable)
    (hnd : (rows.map Prod.fst).Nodup)
    (hrows : ∀ e ∈ rows, s.reservations.rows.get? e.1 = some e.2 ∧ e.2.state = .leased)
    (report : StartupRecoveryReport) :
    ∃ report' s', expireLeases clock current rows s report = (.ok report', s') ∧ s'.Recoverable ∧
      s'.jobs = s.jobs ∧ s'.bindings = s.bindings ∧
      ∀ k, k ∉ rows.map Prod.fst → s'.reservations.rows.get? k = s.reservations.rows.get? k := by
  induction rows generalizing s report with
  | nil => exact ⟨report, s, rfl, h, rfl, rfl, fun k _ => rfl⟩
  | cons e rest ih =>
    obtain ⟨id, row⟩ := e
    rw [map_cons, nodup_cons] at hnd
    obtain ⟨hrow, hleased⟩ := hrows (id, row) mem_cons_self
    have hrest : ∀ e ∈ rest, s.reservations.rows.get? e.1 = some e.2 ∧ e.2.state = .leased :=
      fun e he => hrows e (mem_cons_of_mem _ he)
    have hskip : ∃ report' s', Orchestrator.expireLeases clock current rest s report = (.ok report', s') ∧
        s'.Recoverable ∧ s'.jobs = s.jobs ∧ s'.bindings = s.bindings ∧
        ∀ k, k ∉ (id :: rest.map Prod.fst) → s'.reservations.rows.get? k = s.reservations.rows.get? k := by
      obtain ⟨report', s', hloop, h', hjobs, hbindings, hsame⟩ := ih h hnd.2 hrest report
      exact ⟨report', s', hloop, h', hjobs, hbindings, fun k hk => hsame k fun hin =>
        hk (mem_cons_of_mem _ hin)⟩
    rw [Orchestrator.expireLeases]
    rcases hlease : row.leaseExpiresAt with _ | lease
    · exact hskip
    · by_cases hdue : lease.micros ≤ current.micros
      · have hallowed : expired ∈ EntityState.allowed row.state := by
          rw [show row.state = .leased from hleased]
          decide
        have hlong := length_expireRequest id row.revision
        obtain ⟨a, s₁, hmove, h₁, hjobs₁, hbindings₁, hrows₁⟩ :=
          h.endReservation (clock (expireRequest id row.revision).requestId) hrow (by decide) hallowed
            (plain_of_long hlong rfl rfl) rfl hlong
        have hexpire : s.expireReservationIfDue (clock (expireRequest id row.revision).requestId) id
            (expireRequest id row.revision).requestId row.revision (.aware current.aware)
            = (.ok (some a), s₁) := by
          have hdueRow : leaseDue row current.aware = .ok true := by
            unfold leaseDue
            rw [show row.state = .leased from hleased, hlease]
            simp only [UtcTime.astimezone_aware, decide_eq_true hdue]
          unfold expireReservationIfDue
          simp only [hrow, hdueRow]
          rw [show s.transitionReservation (clock (expireRequest id row.revision).requestId) id
            { requestId := (expireRequest id row.revision).requestId, expectedRevision := row.revision }
            .expired = (.ok a, s₁) from hmove]
        have hread : ∀ e ∈ rest, s₁.reservations.rows.get? e.1 = some e.2 ∧ e.2.state = .leased := by
          intro e he
          have hne : e.1 ≠ id := by
            rintro rfl
            exact hnd.1 (mem_map.mpr ⟨e, he, rfl⟩)
          rw [hrows₁, if_neg hne]
          exact hrest e he
        obtain ⟨report', s₂, hloop, h₂, hjobs₂, hbindings₂, hsame₂⟩ :=
          ih h₁ hnd.2 hread
            { report with expiredReservations := report.expiredReservations ++ [id] }
        refine ⟨report', s₂, ?_, h₂, hjobs₂.trans hjobs₁, hbindings₂.trans hbindings₁, fun k hk => ?_⟩
        · simp only [decide_eq_true hdue, hexpire]
          exact hloop
        · rw [map_cons, mem_cons, not_or] at hk
          rw [hsame₂ k hk.2, hrows₁, if_neg hk.1]
      · simp only [decide_eq_false hdue, if_true]
        exact hskip

/-! ### The pass -/

/-- A reservation is **stranded** when it is held for a job that the pass does not look at. -/
def Stranded (s : StateStore) (id jobId : String) : Prop :=
  (∃ b, s.bindings.get? id = some b ∧ b.jobId = jobId) ∧
    (∃ row, s.reservations.rows.get? id = some row ∧ row.state ∈ ReservationState.releasable) ∧
    ∀ job, s.jobs.rows.get? jobId = some job → job.state ∉ JobState.recoverable

def HeldFor (s : StateStore) (id jobId : String) : Prop :=
  (∃ b, s.bindings.get? id = some b ∧ b.jobId = jobId) ∧
    ∃ row, s.reservations.rows.get? id = some row ∧ row.state ∈ ReservationState.releasable

/-- **The pass on a recoverable store**: it succeeds, no job is left unfinished, and what is still held for a
job was stranded before. -/
theorem Recoverable.reconcile (h : s.Recoverable) (clock : RequestClock) (current : UtcTime) :
    ∃ report s', reconcileStartupState clock current s = (.ok report, s') ∧ s'.Recoverable ∧
      (∀ id job, s'.jobs.rows.get? id = some job → job.state ∉ JobState.recoverable) ∧
      ∀ id jobId, s'.HeldFor id jobId ↔ s.Stranded id jobId := by
  have hlisted : ∀ id, id ∈ (s.jobRecords JobState.recoverable).map Prod.fst ↔
      ∃ row, s.jobs.rows.get? id = some row ∧ row.state ∈ JobState.recoverable := by
    intro id
    constructor
    · intro hmem
      obtain ⟨⟨id', row⟩, he, rfl⟩ := mem_map.mp hmem
      exact ⟨row, (mem_records.mp he).1, of_decide_eq_true (mem_records.mp he).2⟩
    · rintro ⟨row, hrow, hstate⟩
      exact mem_map.mpr ⟨(id, row), mem_records.mpr ⟨hrow, decide_eq_true hstate⟩, rfl⟩
  have hnd : ((s.jobRecords JobState.recoverable).map Prod.fst).Nodup := nodup_sortRecords _ _
  obtain ⟨report₁, s₁, hjobs, h₁, hbindings₁, hfailed, hsame, hrows₁⟩ :=
    h.recoverJobs clock hnd (fun id hid => (hlisted id).mp hid) {}
  have hread : ∀ e ∈ s₁.reservationRecords [.leased],
      s₁.reservations.rows.get? e.1 = some e.2 ∧ e.2.state = .leased := by
    intro e he
    exact ⟨(mem_records.mp he).1, mem_singleton.mp (of_decide_eq_true (mem_records.mp he).2)⟩
  obtain ⟨report₂, s₂, hleases, h₂, hjobs₂, hbindings₂, hsame₂⟩ :=
    h₁.expireLeases clock current (nodup_sortRecords _ _) hread report₁
  -- what is bound is past its lease, so the second loop leaves it alone
  have hbound : ∀ id b, s.bindings.get? id = some b →
      s₂.reservations.rows.get? id = s₁.reservations.rows.get? id := by
    intro id b hb
    refine hsame₂ id fun hmem => ?_
    obtain ⟨e, he, rfl⟩ := mem_map.mp hmem
    obtain ⟨row, hrow, hpast⟩ := h₁.bound e.1 b (by rw [hbindings₁]; exact hb)
    rw [(hread e he).1] at hrow
    cases hrow
    rw [(hread e he).2] at hpast
    exact hpast (by decide)
  refine ⟨report₂, s₂, ?_, h₂, fun id job hjob => ?_, fun id jobId => ?_⟩
  · rw [reconcileStartupState, hjobs]
    exact hleases
  · rw [hjobs₂] at hjob
    by_cases hid : id ∈ (s.jobRecords JobState.recoverable).map Prod.fst
    · obtain ⟨row, hrow, hstate⟩ := hfailed id hid
      rw [hjob] at hrow
      cases hrow
      rw [hstate]
      decide
    · rw [hsame id hid] at hjob
      exact fun hstate => hid ((hlisted id).mpr ⟨job, hjob, hstate⟩)
  · unfold HeldFor Stranded
    rw [hbindings₂, hbindings₁]
    refine and_congr_right fun hb => ?_
    obtain ⟨b, hb, rfl⟩ := hb
    rw [hbound id b hb, hrows₁ id b hb]
    by_cases hin : b.jobId ∈ (s.jobRecords JobState.recoverable).map Prod.fst
    · -- the job was listed: what it held is released
      rw [if_pos hin]
      obtain ⟨job, hjob, hstate⟩ := (hlisted _).mp hin
      constructor
      · rintro ⟨row, hrow, hheld⟩
        obtain ⟨row', -, rfl⟩ := Option.map_eq_some_iff.mp hrow
        exact absurd hheld (releasedRow_state row')
      · exact fun hstranded => absurd hstate (hstranded.2 job hjob)
    · rw [if_neg hin]
      refine ⟨fun hheld => ⟨hheld, fun job hjob hstate => ?_⟩, fun hstranded => hstranded.1⟩
      exact hin ((hlisted _).mpr ⟨job, hjob, hstate⟩)

end StateStore

/-! ### Servers that crash and start again -/

/-- The life of one server: the requests it serves, next to each other in the order of the schedule, until it
dies; and the restart, with the time it reads. -/
structure Generation where
  calls : List SharedRequestCall
  schedule : List ℕ
  clock : RequestClock
  restart : UtcTime

namespace Generation

def crashed (g : Generation) (s : StateStore) : StateStore :=
  (Process.poolRun (s, g.calls.map fun c => c.complete.run) g.schedule).1

/-- `reconcile_startup_state` at the restart. -/
def recovery (g : Generation) (s : StateStore) : Except Exn StartupRecoveryReport × StateStore :=
  reconcileStartupState g.clock g.restart (g.crashed s)

/-- The store after any number of such lives. -/
def storeAfter (lives : List Generation) : StateStore :=
  Run.exec (fun s g => (g.recovery s).2) StateStore.empty lives

theorem recoverable_crashed (g : Generation) {s : StateStore} (h : s.Recoverable) : (g.crashed s).Recoverable := by
  refine Process.pool_keeps h (fun p hp => ?_) g.schedule
  obtain ⟨c, -, rfl⟩ := mem_map.mp hp
  exact SharedRequestCall.keeps_complete

theorem recoverable_storeAfter (lives : List Generation) : (storeAfter lives).Recoverable := by
  refine Run.exec_of_forall StateStore.Recoverable (fun s g h => ?_) StateStore.recoverable_empty lives
  obtain ⟨report, s', hpass, h', -, -⟩ := (g.recoverable_crashed h).reconcile g.clock g.restart
  rw [recovery, hpass]
  exact h'

/-- What a restart is to achieve: the pass returns, no job is left unfinished, and nothing is held any more
for the jobs of the server that died. -/
structure Recovers (g : Generation) (s : StateStore) : Prop where
  returns : ∃ report, (g.recovery s).1 = .ok report
  finished : ∀ id job, (g.recovery s).2.jobs.rows.get? id = some job → job.state ∉ JobState.recoverable
  freed : ∀ c ∈ g.calls, ∀ id, ¬(g.recovery s).2.HeldFor id c.jobId

/-- One request on one provider, and nothing goes wrong until the server dies. -/
def sampleCall : SharedRequestCall where
  jobId := "job-1"
  modelId := "m"
  placementModelId := "m"
  decisionId := "d"
  providerNodeIds := ["n"]
  leaseSeconds := 60
  clock _ := sampleTime 0 second_zero
  refuses _ := false
  reserveProviderCapacity := .returns
  leaseCapacity := .granted
  dispatchJob := .returns
  runner := .returns
  verification := .returns

/-- The server dies right after the job has become `COMPLETED`. -/
def sampleLife : Generation where
  calls := [sampleCall]
  schedule := List.replicate 20 0
  clock _ := sampleTime 100 (by decide)
  restart := sampleTime 100 (by decide)

theorem sampleLife_recovery : ((sampleLife.recovery (storeAfter [])).2.bindings.get? "job-1:capacity:0:n").map
        ReservationBinding.jobId = some "job-1" ∧
      ((sampleLife.recovery (storeAfter [])).2.reservations.rows.get? "job-1:capacity:0:n").map
        EntityRow.state = some .active := by
  decide

end Generation

end ComputeMesh.Orchestrator
