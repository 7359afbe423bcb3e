import ComputeMesh.Orchestrator.SharedRequestBackend
import ComputeMesh.Orchestrator.StoreCalls

/-!
# Recovery at startup

`reconcile_startup_state`: every job that a crash has left before its end is failed, after the reservations
bound to it are released, and every lease that is due expires.

* `reconcileStartupState` — the pass;
* `StateStore.Recoverable` — what the pass needs to know of a store;
* `SharedRequestCall.keeps_complete` — **every step of a request keeps it, in any interleaving.**
-/

namespace ComputeMesh.Orchestrator

open ComputeMesh.Text Process

/-! ### The pass -/

/-- `_RECOVERABLE_JOB_STATES`. -/
def JobState.recoverable : List JobState :=
  [created, validating, planning, reserving, preparing, running, verifying]

/-- `_RELEASABLE_RESERVATION_STATES`. -/
def ReservationState.releasable : List ReservationState := [leased, committed, active]

structure StartupRecoveryReport where
  failedJobs : List String := []
  releasedReservations : List String := []
  expiredReservations : List String := []
  deriving DecidableEq

/-- `ORDER BY entity_id`. -/
def sortRecords {S : Type} (records : List (String × EntityRow S)) : List (String × EntityRow S) :=
  records.insertionSort fun a b => a.1 ≤ b.1

namespace StateStore

/-- `records(kind="job", states=...)`. -/
def jobRecords (s : StateStore) (states : List JobState) : List (String × EntityRow JobState) :=
  sortRecords (s.jobs.rows.entries.filter fun e => decide (e.2.state ∈ states))

/-- `records(kind="reservation", states=...)`. -/
def reservationRecords (s : StateStore) (states : List ReservationState) :
    List (String × EntityRow ReservationState) :=
  sortRecords (s.reservations.rows.entries.filter fun e => decide (e.2.state ∈ states))

def reservationsForJob (s : StateStore) (jobId : String) : List (String × EntityRow ReservationState) :=
  sortRecords (s.reservations.rows.entries.filter fun e =>
    decide ((s.bindings.get? e.1).map ReservationBinding.jobId = some jobId))

end StateStore

/-- What the clock shows when a request is made. -/
abbrev RequestClock := String → UtcTime

def releaseRequest (jobId reservationId : String) (revision : ℕ) : Request :=
  { requestId := "startup-recovery-release:" ++ jobId ++ ":" ++ reservationId ++ ":" ++ toString revision
    expectedRevision := revision
    requestFingerprint := "startup_restart_reconciliation_v1" }

def failRequest (jobId : String) (revision : ℕ) : Request :=
  { requestId := "startup-recovery-fail:" ++ jobId ++ ":" ++ toString revision
    expectedRevision := revision
    requestFingerprint := "startup_restart_reconciliation_v1" }

def expireRequest (reservationId : String) (revision : ℕ) : Request :=
  { requestId := "startup-recovery-expire:" ++ reservationId ++ ":" ++ toString revision
    expectedRevision := revision }

/-- The reservations of a job, as they were read: those that are held are released. -/
def releaseBound (clock : RequestClock) (jobId : String) :
    List (String × EntityRow ReservationState) → StateStore → Except Exn (List String) × StateStore
  | [], s => (.ok [], s)
  | (id, row) :: rest, s =>
    if row.state ∉ ReservationState.releasable then releaseBound clock jobId rest s
    else
      let req := releaseRequest jobId id row.revision
      match s.transitionReservation (clock req.requestId) id req .released with
      | (.error e, s') => (.error e, s')
      | (.ok _, s') =>
        match releaseBound clock jobId rest s' with
        | (.error e, s'') => (.error e, s'')
        | (.ok released, s'') => (.ok (id :: released), s'')

/-- One job of the pass: its reservations, then the job itself.  Returns what was released and whether the
job was failed. -/
def recoverJob (clock : RequestClock) (s : StateStore) (jobId : String) :
    Except Exn (List String × Bool) × StateStore :=
  match releaseBound clock jobId (s.reservationsForJob jobId) s with
  | (.error e, s₁) => (.error e, s₁)
  | (.ok released, s₁) =>
    match s₁.jobs.rows.get? jobId with
    | none => (.error (.key ("unknown job " ++ quoted jobId)), s₁)
    | some latest =>
      if latest.state ∈ JobState.recoverable then
        let req := failRequest jobId latest.revision
        match s₁.transitionJob (clock req.requestId) jobId req .failed with
        | (.error e, s₂) => (.error e, s₂)
        | (.ok _, s₂) => (.ok (released, true), s₂)
      else (.ok (released, false), s₁)

/-- The loop over the unfinished jobs. -/
def recoverJobs (clock : RequestClock) :
    List String → StateStore → StartupRecoveryReport → Except Exn StartupRecoveryReport × StateStore
  | [], s, report => (.ok report, s)
  | jobId :: rest, s, report =>
    match recoverJob clock s jobId with
    | (.error e, s') => (.error e, s')
    | (.ok (released, failed), s') =>
      recoverJobs clock rest s' { report with
          failedJobs := report.failedJobs ++ (if failed then [jobId] else [])
          releasedReservations := report.releasedReservations ++ released }

/-- The loop over the leases. -/
def expireLeases (clock : RequestClock) (current : UtcTime) :
    List (String × EntityRow ReservationState) → StateStore → StartupRecoveryReport →
      Except Exn StartupRecoveryReport × StateStore
  | [], s, report => (.ok report, s)
  | (id, row) :: rest, s, report =>
    let due := match row.leaseExpiresAt with
      | none => false
      | some lease => decide (lease.micros ≤ current.micros)
    if due = false then expireLeases clock current rest s report
    else
      let req := expireRequest id row.revision
      match s.expireReservationIfDue (clock req.requestId) id req.requestId row.revision (.aware current.aware) with
      | (.error e, s') => (.error e, s')
      | (.ok none, s') => expireLeases clock current rest s' report
      | (.ok (some _), s') =>
        expireLeases clock current rest s' { report with expiredReservations := report.expiredReservations ++ [id] }

def reconcileStartupState (clock : RequestClock) (current : UtcTime) (s : StateStore) :
    Except Exn StartupRecoveryReport × StateStore :=
  match recoverJobs clock ((s.jobRecords JobState.recoverable).map Prod.fst) s {} with
  | (.error e, s₁) => (.error e, s₁)
  | (.ok report, s₁) =>
    expireLeases clock current (s₁.reservationRecords [.leased]) s₁ report

/-! ### What every step keeps -/

/-- A request whose id is as long as those of the pass belongs to an entity that has ended. -/
def EntityTable.LongEnds {S : Type} (t : EntityTable S) (ended : S → Prop) : Prop :=
  ∀ id rid e, t.effects.get? (id, rid) = some e → id.length + 24 ≤ rid.length →
    ∃ row, t.rows.get? id = some row ∧ ended row.state

/-- The reservation states that nothing leaves. -/
def ReservationState.ended : List ReservationState := [released, expired]

namespace StateStore

/-- **What recovery needs to know of a store.** -/
structure Recoverable (s : StateStore) : Prop where
  jobs : s.jobs.LongEnds (· = .failed)
  reservations : s.reservations.LongEnds (· ∈ ReservationState.ended)
  bound : ∀ id b, s.bindings.get? id = some b →
    ∃ row, s.reservations.rows.get? id = some row ∧ row.state ∉ [ReservationState.candidate, .leased]

theorem recoverable_empty : Recoverable empty where
  jobs _ _ _ h := by cases h
  reservations _ _ _ h := by cases h
  bound _ _ h := by cases h

end StateStore

section
variable {S : Type} [DecidableEq S] [EntityState S] {t : EntityTable S} {ended : S → Prop}

omit [DecidableEq S] in
theorem EntityTable.LongEnds.moved (h : t.LongEnds ended) (hclosed : ∀ st, ended st → EntityState.allowed st = [])
    {id : String} {req : Request} {target : S} {row : EntityRow S} (hready : t.Ready id req target row)
    (hname : req.requestId.length < id.length + 24 ∨ ended target) (lease : Option UtcTime) :
    (t.moved id row req target lease).LongEnds ended := by
  intro id' rid e he hlong
  simp only [EntityTable.moved, Dict.get?_set] at he ⊢
  split at he
  · rename_i heq
    cases heq
    rw [if_pos rfl]
    exact ⟨_, rfl, hname.resolve_left (by omega)⟩
  · obtain ⟨row', hrow', hended⟩ := h id' rid e he hlong
    split
    · rename_i heq
      subst heq
      rw [hready.found] at hrow'
      cases hrow'
      have hallowed := hready.allowed
      rw [hclosed _ hended] at hallowed
      cases hallowed
    · exact ⟨row', hrow', hended⟩

omit [DecidableEq S] [EntityState S] in
theorem EntityTable.LongEnds.ensure (h : t.LongEnds ended) (id : String) (initial : S) :
    (t.ensure id initial).LongEnds ended := by
  intro id' rid e he hlong
  rw [EntityTable.effects_ensure] at he
  obtain ⟨row, hrow, hended⟩ := h id' rid e he hlong
  refine ⟨row, ?_, hended⟩
  rw [EntityTable.get?_ensure, if_neg]
  · exact hrow
  · rintro ⟨rfl, hnone⟩
    rw [hnone] at hrow
    cases hrow

end

namespace StateStore

variable {s : StateStore} {now : UtcTime} {id : String} {req : Request}

theorem failed_closed (st : JobState) (h : st = .failed) : EntityState.allowed st = [] := by
  subst h
  decide

theorem ended_closed (st : ReservationState) (h : st ∈ ReservationState.ended) : EntityState.allowed st = [] := by
  revert h
  cases st <;> decide

theorem past_lease {st target : ReservationState} (h : st ∉ [ReservationState.candidate, .leased])
    (hallowed : target ∈ EntityState.allowed st) : target ∉ [ReservationState.candidate, .leased] := by
  revert h hallowed
  cases st <;> cases target <;> decide

theorem Recoverable.ensureJob (h : s.Recoverable) (jobId : String) : (s.ensureJob jobId).2.Recoverable := by
  unfold StateStore.ensureJob
  split
  · exact h
  · exact ⟨h.jobs.ensure jobId .created, h.reservations, h.bound⟩

theorem Recoverable.ensureReservation (h : s.Recoverable) (id : String) : (s.ensureReservation id).2.Recoverable := by
  unfold StateStore.ensureReservation
  split
  · exact h
  · refine ⟨h.jobs, h.reservations.ensure id .candidate, fun id' b hb => ?_⟩
    obtain ⟨row, hrow, hstate⟩ := h.bound id' b hb
    refine ⟨row, ?_, hstate⟩
    rw [EntityTable.get?_ensure, if_neg]
    · exact hrow
    · rintro ⟨rfl, hnone⟩
      rw [hnone] at hrow
      cases hrow

theorem Recoverable.enforce (h : s.Recoverable) : (s.enforce now id req).2.Recoverable := by
  obtain ⟨hjobs, hreservations, hbindings⟩ := s.enforce_frame now id req
  refine ⟨by rw [hjobs]; exact h.jobs, by rw [hreservations]; exact h.reservations, ?_⟩
  rw [hbindings, hreservations]
  exact h.bound

theorem Recoverable.transitionJob (h : s.Recoverable) {target : JobState}
    (hname : req.requestId.length < id.length + 24 ∨ target = .failed) :
    (s.transitionJob now id req target).2.Recoverable := by
  have henforced : (s.enforce now id req).2.Recoverable := h.enforce
  have houtcome := s.transitionJob_cases now id req target
  generalize s.transitionJob now id req target = r at houtcome
  cases houtcome with
  | refused e | replayed e henforced' heffect hans => exact henforced
  | moved row henforced' hready =>
    exact ⟨h.jobs.moved failed_closed hready hname none, henforced.reservations, henforced.bound⟩

theorem Recoverable.reservationTransition (h : s.Recoverable) {target : ReservationState}
    {expiry : Option AwareDatetime} {binding : Option (String × String)}
    (hname : req.requestId.length < id.length + 24 ∨ target ∈ ReservationState.ended)
    (hbinding : binding ≠ none → target = .committed) :
    (s.reservationTransition now id req target expiry binding).2.Recoverable := by
  have henforced : (s.enforce now id req).2.Recoverable := h.enforce
  have houtcome := s.reservationTransition_cases now id req target expiry binding
  generalize s.reservationTransition now id req target expiry binding = r at houtcome
  cases houtcome with
  | refused e | replayed e henforced' heffect hans => exact henforced
  | moved row lease henforced' hready hcheck hlease hfree =>
    refine ⟨henforced.jobs, h.reservations.moved ended_closed hready hname lease, fun id' b hb => ?_⟩
    show ∃ r, (s.reservations.rows.set id ⟨target, row.revision + 1, lease⟩).get? id' = some r ∧ _
    rw [Dict.get?_set]
    split
    · -- the entity that moved: bound before, or committed now
      rename_i heq
      subst heq
      refine ⟨_, rfl, ?_⟩
      cases binding with
      | none =>
        obtain ⟨row', hrow', hstate⟩ := h.bound id' b hb
        rw [hready.found] at hrow'
        cases hrow'
        exact past_lease hstate hready.allowed
      | some pair =>
        rw [hbinding (by simp)]
        show ReservationState.committed ∉ _
        decide
    · rename_i hne
      refine h.bound id' b ?_
      cases binding with
      | none => exact hb
      | some pair =>
        have hb' : (s.bindings.set id _).get? id' = some b := hb
        rwa [Dict.get?_set_of_ne _ hne] at hb'

end StateStore

/-! ### Every step of a request keeps it -/

namespace SharedRequestCall

open StateStore (Recoverable)

variable (c : SharedRequestCall)

theorem keeps_storeCall {α : Type} (name : String) {f : UtcTime → StateStore → Except Exn α × StateStore}
    (h : ∀ now s, s.Recoverable → (f now s).2.Recoverable) :
    (c.storeCall name f).run.Keeps Recoverable := by
  refine keeps_call fun s hs => ?_
  split
  · exact hs
  · exact h _ s hs

theorem keeps_external (e : External) : (external e).run.Keeps Recoverable := by
  cases e <;> trivial

theorem keeps_getJob : c.getJob.run.Keeps Recoverable := by
  refine keeps_call fun s hs => ?_
  split <;> exact hs

theorem keeps_getReservation (id : String) : (getReservation id).run.Keeps Recoverable := by
  refine keeps_call fun s hs => ?_
  split <;> exact hs

theorem length_jobRequestId (target : JobState) : (c.jobRequestId target).length < c.jobId.length + 24 := by
  have hvalue : (lower target.value).length ≤ 10 := by cases target <;> decide
  have hsep : ":job:".length = 5 := by decide
  unfold jobRequestId
  rw [String.length_append, String.length_append, hsep]
  omega

variable {p : String × ℕ × String}

theorem length_reservationRequestId (hp : p ∈ c.reservationIds) (verb : String)
    (hverb : verb.length ≤ 8) : (c.reservationRequestId verb p.2.1).length < p.1.length + 24 := by
  obtain ⟨q, -, rfl⟩ := List.mem_map.mp hp
  have hcolon : ":".length = 1 := by decide
  have hcapacity : ":capacity:".length = 10 := by decide
  unfold reservationRequestId
  simp only [String.length_append, hcolon, hcapacity]
  omega

theorem keeps_moveJob (row : EntityRow JobState) (target : JobState) (fingerprint : String) :
    (c.moveJob row target fingerprint).run.Keeps Recoverable := by
  refine keeps_attempt (c.keeps_storeCall _ fun now s hs => ?_) fun _ => trivial
  exact hs.transitionJob (.inl (c.length_jobRequestId target))

theorem keeps_advance (target : JobState) : (c.advance target).run.Keeps Recoverable :=
  keeps_attempt c.keeps_getJob fun _ => c.keeps_moveJob _ _ _

variable {c}

theorem keeps_reserveOne (expires : AwareDatetime) (hp : p ∈ c.reservationIds) :
    (c.reserveOne expires p.1 p.2.1 p.2.2).run.Keeps Recoverable := by
  refine keeps_attempt (c.keeps_storeCall _ fun _ s hs => hs.ensureReservation p.1) fun _ => ?_
  refine keeps_attempt (c.keeps_storeCall _ fun now s hs => ?_) fun leased => ?_
  · rcases s.leaseReservation_snd now p.1 _ (.aware expires) with h | ⟨expiry, -, -, h⟩
    · rw [h]
      exact hs
    · rw [h]
      exact hs.reservationTransition (.inl (c.length_reservationRequestId hp "lease" (by decide)))
        fun hb => absurd rfl hb
  · refine keeps_attempt (c.keeps_storeCall _ fun now s hs => ?_) fun _ => trivial
    rcases s.commitReservation_snd now p.1 _ c.jobId ("inference:" ++ p.2.2) with h | h
    · rw [h]
      exact hs
    · rw [h]
      exact hs.reservationTransition (.inl (c.length_reservationRequestId hp "commit" (by decide))) fun _ => rfl

variable {ids : List (String × ℕ × String)}

theorem keeps_reserve (expires : AwareDatetime)
    (hids : ∀ p ∈ ids, p ∈ c.reservationIds) : (c.reserve expires ids).run.Keeps Recoverable := by
  induction ids with
  | nil => trivial
  | cons p rest ih =>
    exact keeps_attempt (keeps_reserveOne expires (hids p List.mem_cons_self))
      fun _ => ih fun q hq => hids q (List.mem_cons_of_mem _ hq)

theorem keeps_activateOne (hp : p ∈ c.reservationIds) : (c.activateOne p.1 p.2.1).run.Keeps Recoverable := by
  refine keeps_attempt (keeps_getReservation p.1) fun current => ?_
  split
  · refine keeps_attempt (c.keeps_storeCall _ fun now s hs => ?_) fun _ => trivial
    exact hs.reservationTransition (.inl (c.length_reservationRequestId hp "activate" (by decide)))
      fun hb => absurd rfl hb
  · trivial

theorem keeps_activate (hids : ∀ p ∈ ids, p ∈ c.reservationIds) : (c.activate ids).run.Keeps Recoverable := by
  induction ids with
  | nil => trivial
  | cons p rest ih =>
    exact keeps_attempt (keeps_activateOne (hids p List.mem_cons_self))
      fun _ => ih fun q hq => hids q (List.mem_cons_of_mem _ hq)

theorem keeps_releaseOne (hp : p ∈ c.reservationIds) : (c.releaseOne p.1 p.2.1).run.Keeps Recoverable := by
  have hread : Process.Keeps Recoverable (call fun s : StateStore => (s.reservations.rows.get? p.1, s)) :=
    keeps_call fun s hs => hs
  refine keeps_lift hread fun current _ => ?_
  cases current with
  | none => trivial
  | some row =>
    dsimp only
    split
    · refine keeps_attempt (c.keeps_storeCall _ fun now s hs => ?_) fun _ => trivial
      exact hs.reservationTransition (.inl (c.length_reservationRequestId hp "release" (by decide)))
        fun hb => absurd rfl hb
    · trivial

theorem keeps_release (hids : ∀ p ∈ ids, p ∈ c.reservationIds) : (c.release ids).run.Keeps Recoverable := by
  induction ids with
  | nil => trivial
  | cons p rest ih =>
    exact keeps_attempt (keeps_releaseOne (hids p List.mem_cons_self))
      fun _ => ih fun q hq => hids q (List.mem_cons_of_mem _ hq)

theorem keeps_terminal (target : JobState) (fingerprint : String) :
    (c.terminal target fingerprint).Keeps Recoverable := by
  refine keeps_bind (keeps_attempt c.keeps_getJob fun current => ?_) fun r => ?_
  · split
    · trivial
    · exact c.keeps_moveJob _ _ _
  · cases r <;> trivial

theorem keeps_prepare : c.prepare.run.Keeps Recoverable := by
  refine keeps_attempt (c.keeps_advance _) fun _ => ?_
  refine keeps_attempt (c.keeps_advance _) fun _ => ?_
  refine keeps_attempt (c.keeps_advance _) fun _ => ?_
  dsimp only
  split
  · exact keeps_reserve _ fun p hp => hp
  · trivial

theorem keeps_dispatch : c.dispatch.run.Keeps Recoverable := by
  refine keeps_attempt (keeps_external _) fun _ => ?_
  have hrest : (do
      external c.dispatchJob
      c.advance .preparing
      c.activate c.reservationIds
      c.advance .running
      external c.runner
      c.advance .verifying
      external c.verification
      c.advance .completed : RequestProcess Unit).run.Keeps Recoverable := by
    refine keeps_attempt (keeps_external _) fun _ => ?_
    refine keeps_attempt (c.keeps_advance _) fun _ => ?_
    refine keeps_attempt (keeps_activate fun p hp => hp) fun _ => ?_
    refine keeps_attempt (c.keeps_advance _) fun _ => ?_
    refine keeps_attempt (keeps_external _) fun _ => ?_
    refine keeps_attempt (c.keeps_advance _) fun _ => ?_
    refine keeps_attempt (keeps_external _) fun _ => ?_
    exact c.keeps_advance _
  cases c.leaseCapacity with
  | granted => exact hrest
  | refused => trivial
  | raises e => trivial

theorem keeps_tryBlock : c.tryBlock.KeepsTo Recoverable fun r => ∀ p ∈ r.2, p ∈ c.reservationIds := by
  refine keepsTo_bind keeps_prepare fun r _ => ?_
  cases r with
  | error e => exact fun p hp => by cases hp
  | ok u => exact keepsTo_bind keeps_dispatch fun _ _ => fun p hp => hp

theorem keeps_conclude (hids : ∀ p ∈ ids, p ∈ c.reservationIds)
    (outcome : Except RequestExn Unit) : (c.conclude ids outcome).run.Keeps Recoverable := by
  have hfinally : ∀ target fingerprint (e : RequestExn), (do
      let leaked ← c.terminal target fingerprint
      c.release ids
      throw (leaked.getD e) : RequestProcess Unit).run.Keeps Recoverable := by
    intro target fingerprint e
    refine keeps_lift (keeps_terminal _ _) fun leaked _ => ?_
    exact keeps_attempt (keeps_release hids) fun _ => trivial
  cases outcome with
  | ok u => exact keeps_release hids
  | error e => cases e <;> exact hfinally _ _ _

/-- **Every step of a request keeps the store recoverable**, whatever the others have done before it. -/
theorem keeps_complete : c.complete.run.Keeps Recoverable := by
  unfold complete
  split
  · trivial
  · unfold executeJob
    split
    · trivial
    · refine keeps_attempt (c.keeps_storeCall _ fun _ s hs => hs.ensureJob c.jobId) fun _ => ?_
      exact keeps_lift keeps_tryBlock fun r hr => keeps_conclude hr r.1

end SharedRequestCall

end ComputeMesh.Orchestrator
