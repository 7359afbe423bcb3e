import ComputeMesh.Orchestrator.ControlHandlers

/-!
# Commits and the end of a lease

A lease has a deadline, and `expire_reservation_if_due` is the only operation that looks at it.  A commit can
arrive by `commit_reservation`, by the generic transition and by a control message; none of the three compares
the clock with the deadline.

* `ReservationEvent` — the calls and messages a store receives, `StateStore.afterEvents` — a history of them;
* `CommitsLate` — a step in which a reservation goes from `LEASED` to `COMMITTED` when its lease is over;
* `DueCommit` — a commit arrives for such a reservation and nothing refuses it;
* `never_commits_late_iff` — **a history never commits late exactly when no such commit arrives.**
-/

namespace ComputeMesh.Orchestrator

open ComputeMesh.Protocol StateStore

/-! ### Histories of calls and messages -/

/-- What a store receives: a call of one of its methods, or a control message. -/
inductive ReservationEvent
  | call (c : StoreCall)
  | message (env : ControlEnvelope)

/-- The store after an event at time `now`. -/
def ReservationEvent.run (contracts : MessageContracts) (s : StateStore) (now : UtcTime) :
    ReservationEvent → StateStore
  | call c => c.run s now
  | message env => (ControlHandlers.dispatchControlEnvelope contracts s now env).2

/-- A step of a history: an event at its time. -/
def StateStore.nextEvent (contracts : MessageContracts) (s : StateStore)
    (e : UtcTime × ReservationEvent) : StateStore :=
  e.2.run contracts s e.1

/-- The clock of a history never goes back. -/
def ClockNondecreasing (history : List (UtcTime × ReservationEvent)) : Prop :=
  history.Pairwise fun a b => a.1.micros ≤ b.1.micros

namespace StateStore

def LeaseOver (s : StateStore) (now : UtcTime) (id : String) : Prop :=
  ∃ row lease, s.reservations.rows.get? id = some row ∧ row.state = .leased ∧
    row.leaseExpiresAt = some lease ∧ lease.micros ≤ now.micros

/-- **A late commit**: a reservation whose lease is over becomes `COMMITTED`. -/
def CommitsLate (s : StateStore) (now : UtcTime) (s' : StateStore) : Prop :=
  ∃ id, s.LeaseOver now id ∧ ∃ row, s'.reservations.rows.get? id = some row ∧ row.state = .committed

/-- Nothing stands against a commit but the clock: the enforcers let the request through, it is new, it names
the revision of the reservation, the job exists, and no binding is in the way. -/
structure CommitPasses (s : StateStore) (now : UtcTime) (id : String) (req : Request)
    (binding : Option (String × String)) : Prop where
  enforced : (s.enforce now id req).1 = .ok ()
  ready : ∃ row, s.reservations.Ready id req .committed row
  job : s.checkBinding binding = .ok ()
  free : binding ≠ none → s.bindings.contains id = false

end StateStore

/-! ### The commands that commit -/

/-- The commit a command asks for, with its binding. -/
def Command.commit? : Command → Option (String × Request × Option (String × String))
  | commitReservation id req jobId stageId =>
    if jobId = "" ∨ stageId = "" then none else some (id, req, some (jobId, stageId))
  | transitionReservation id req .committed => some (id, req, none)
  | _ => none

def ReservationEvent.commit? (contracts : MessageContracts) :
    ReservationEvent → Option (String × Request × Option (String × String))
  | call (.command c) => c.commit?
  | call _ => none
  | message env => (ControlHandlers.commandOf contracts env).bind Command.commit?

/-- An event brings a commit, which nothing refuses, for a lease that is over. -/
def StateStore.DueCommit (contracts : MessageContracts) (s : StateStore) (e : UtcTime × ReservationEvent) : Prop :=
  ∃ id req binding, e.2.commit? contracts = some (id, req, binding) ∧ s.LeaseOver e.1 id ∧
    s.CommitPasses e.1 id req binding

namespace StateStore

variable {s : StateStore} {now : UtcTime} {id : String} {req : Request}

theorem not_commitsLate_of_rows {s' : StateStore} (h : s'.reservations.rows = s.reservations.rows) :
    ¬s.CommitsLate now s' := by
  rintro ⟨id, ⟨row, lease, hrow, hleased, -, -⟩, row', hrow', hcommitted⟩
  rw [h, hrow] at hrow'
  cases hrow'
  rw [hleased] at hcommitted
  cases hcommitted

/-- **A commit that passes is performed**, whatever the clock shows. -/
theorem CommitPasses.committed {binding : Option (String × String)} (h : s.CommitPasses now id req binding)
    (expiry : Option AwareDatetime) :
    ∃ row, (s.reservationTransition now id req .committed expiry binding).2.reservations.rows.get? id
      = some row ∧ row.state = .committed := by
  obtain ⟨row, hready⟩ := h.ready
  have hframe := s.enforce_frame now id req
  have henforced := h.enforced
  rcases henforce : s.enforce now id req with ⟨r, s₁⟩
  rw [henforce] at hframe henforced
  have hr : r = .ok () := henforced
  subst hr
  obtain ⟨hjobs, hreservations, hbindings⟩ :
    s₁.jobs = s.jobs ∧ s₁.reservations = s.reservations ∧ s₁.bindings = s.bindings := hframe
  have hcheck : s₁.checkBinding binding = .ok () := by
    rw [← h.job]
    cases binding with
    | none => rfl
    | some b => simp only [checkBinding, hjobs]
  have hmoved : s.reservations.transition "reservation" id req .committed (s₁.checkBinding binding)
      (leaseText .committed expiry)
      = .ok (⟨.committed, row.revision + 1, req.requestId, true⟩,
        s.reservations.moved id row req .committed row.leaseExpiresAt) :=
    EntityTable.transition_of_ready hready hcheck rfl
  refine ⟨⟨.committed, row.revision + 1, row.leaseExpiresAt⟩, ?_, rfl⟩
  unfold reservationTransition
  simp only [henforce, hreservations, hmoved]
  cases binding with
  | none => exact Dict.get?_set_self _ _ _
  | some b =>
    have hfree : s₁.bindings.contains id = false := by
      rw [hbindings]
      exact h.free (by simp)
    simp only [hfree, Bool.true_eq_false, Bool.false_eq_true, if_false]
    exact Dict.get?_set_self _ _ _

/-- **When a transition commits late**: it is to `COMMITTED`, of a lease that is over, and nothing refuses
it. -/
theorem commitsLate_reservationTransition_iff (s : StateStore) (now : UtcTime) (id : String) (req : Request)
    (target : ReservationState) (expiry : Option AwareDatetime) (binding : Option (String × String)) :
    s.CommitsLate now (s.reservationTransition now id req target expiry binding).2 ↔
      target = .committed ∧ s.LeaseOver now id ∧ s.CommitPasses now id req binding := by
  constructor
  · obtain ⟨-, hframe, -⟩ := s.enforce_frame now id req
    have houtcome := s.reservationTransition_cases now id req target expiry binding
    generalize s.reservationTransition now id req target expiry binding = r at houtcome
    intro hlate
    cases houtcome with
    | refused e | replayed e henforced heffect hans => exact absurd hlate (not_commitsLate_of_rows (by rw [hframe]))
    | moved row lease henforced hready hcheck hlease hfree =>
      obtain ⟨id', hover, row', hrow', hcommitted⟩ := hlate
      have hset : (s.reservations.rows.set id ⟨target, row.revision + 1, lease⟩).get? id' = some row' := hrow'
      rw [Dict.get?_set] at hset
      by_cases hid : id' = id
      · rw [if_pos hid] at hset
        cases hset
        subst hid
        exact ⟨hcommitted, hover, henforced, ⟨row, hcommitted ▸ hready⟩, hcheck, hfree⟩
      · -- another reservation keeps its row
        rw [if_neg hid] at hset
        obtain ⟨row'', lease', hrow'', hleased, -, -⟩ := hover
        rw [hset] at hrow''
        cases hrow''
        rw [hleased] at hcommitted
        cases hcommitted
  · rintro ⟨rfl, hover, hpasses⟩
    exact ⟨id, hover, hpasses.committed expiry⟩

theorem not_commitsLate_ensureReservation (s : StateStore) (now : UtcTime) (id : String) :
    ¬s.CommitsLate now (s.ensureReservation id).2 := by
  unfold ensureReservation
  split
  · exact not_commitsLate_of_rows rfl
  · rintro ⟨id', ⟨row, lease, hrow, hleased, -, -⟩, row', hrow', hcommitted⟩
    rw [show (s.reservations.ensure id .candidate).rows.get? id' = _ from EntityTable.get?_ensure _ _ _ _]
      at hrow'
    split at hrow'
    · cases hrow'
      cases hcommitted
    · rw [hrow] at hrow'
      cases hrow'
      rw [hleased] at hcommitted
      cases hcommitted

end StateStore

/-! ### One event -/

namespace Command

open StateStore (CommitsLate LeaseOver CommitPasses)

theorem commitsLate_iff (c : Command) (s : StateStore) (now : UtcTime) : s.CommitsLate now (c.run s now).2 ↔
      ∃ id req binding, c.commit? = some (id, req, binding) ∧ s.LeaseOver now id ∧
        s.CommitPasses now id req binding := by
  cases c with
  | leaseReservation id req expiresAt =>
    refine iff_of_false ?_ (by rintro ⟨_, _, _, h, -⟩; cases h)
    show ¬s.CommitsLate now (s.leaseReservation now id req expiresAt).2
    rcases s.leaseReservation_snd now id req expiresAt with h | ⟨expiry, -, -, h⟩
    · rw [h]
      exact not_commitsLate_of_rows rfl
    · rw [h, commitsLate_reservationTransition_iff]
      rintro ⟨htarget, -⟩
      cases htarget
  | commitReservation id req jobId stageId =>
    show s.CommitsLate now (s.commitReservation now id req jobId stageId).2 ↔ _
    unfold StateStore.commitReservation
    by_cases hnames : jobId = "" ∨ stageId = ""
    · simp only [commit?, if_pos hnames]
      exact iff_of_false (not_commitsLate_of_rows rfl) (by rintro ⟨_, _, _, h, -⟩; cases h)
    · simp only [commit?, if_neg hnames, commitsLate_reservationTransition_iff]
      constructor
      · rintro ⟨-, hover, hpasses⟩
        exact ⟨id, req, _, rfl, hover, hpasses⟩
      · rintro ⟨_, _, _, h, hover, hpasses⟩
        cases h
        exact ⟨trivial, hover, hpasses⟩
  | transitionReservation id req target =>
    show s.CommitsLate now (s.reservationTransition now id req target none none).2 ↔ _
    rw [commitsLate_reservationTransition_iff]
    constructor
    · rintro ⟨rfl, hover, hpasses⟩
      exact ⟨id, req, none, rfl, hover, hpasses⟩
    · rintro ⟨id', req', binding, h, hover, hpasses⟩
      cases target <;> first | cases h; done | (cases h; exact ⟨rfl, hover, hpasses⟩)
  | transitionJob id req target =>
    refine iff_of_false (not_commitsLate_of_rows ?_) (by rintro ⟨_, _, _, h, -⟩; cases h)
    show (s.transitionJob now id req target).2.reservations.rows = _
    obtain ⟨-, hframe, -⟩ := s.enforce_frame now id req
    have houtcome := s.transitionJob_cases now id req target
    generalize s.transitionJob now id req target = r at houtcome
    cases houtcome <;> exact congrArg EntityTable.rows hframe

end Command

/-- **One event commits late exactly when it brings such a commit.** -/
theorem ReservationEvent.commitsLate_iff (contracts : MessageContracts) (s : StateStore)
    (e : UtcTime × ReservationEvent) :
    s.CommitsLate e.1 (s.nextEvent contracts e) ↔ s.DueCommit contracts e := by
  obtain ⟨now, event⟩ := e
  have hnone : ∀ {s' : StateStore}, ¬s.CommitsLate now s' → event.commit? contracts = none →
      (s.CommitsLate now s' ↔ s.DueCommit contracts (now, event)) := by
    intro s' hnot hcommit
    refine iff_of_false hnot ?_
    rintro ⟨id, req, binding, h, -⟩
    rw [show event.commit? contracts = some (id, req, binding) from h] at hcommit
    cases hcommit
  cases event with
  | call c =>
    cases c with
    | command c => exact c.commitsLate_iff s now
    | ensureJob jobId =>
      refine hnone (not_commitsLate_of_rows ?_) rfl
      show (s.ensureJob jobId).2.reservations.rows = _
      unfold ensureJob
      split <;> rfl
    | ensureReservation id => exact hnone (s.not_commitsLate_ensureReservation now id) rfl
    | expireIfDue id requestId expectedRevision due =>
      refine hnone ?_ rfl
      show ¬s.CommitsLate now (s.expireReservationIfDue now id requestId expectedRevision due).2
      rcases s.expireReservationIfDue_snd now id requestId expectedRevision due with
        h | ⟨d, row, -, -, -, h⟩
      · rw [h]
        exact not_commitsLate_of_rows rfl
      · rw [h, commitsLate_reservationTransition_iff]
        rintro ⟨htarget, -⟩
        cases htarget
  | message env =>
    have hdispatch := ControlHandlers.dispatch_snd contracts s now env
    rcases hcommand : ControlHandlers.commandOf contracts env with _ | c
    · refine hnone ?_ (by simp only [commit?, hcommand, Option.bind_none])
      show ¬s.CommitsLate now (ControlHandlers.dispatchControlEnvelope contracts s now env).2
      rw [hdispatch, hcommand]
      exact not_commitsLate_of_rows rfl
    · show s.CommitsLate now (ControlHandlers.dispatchControlEnvelope contracts s now env).2 ↔ _
      rw [hdispatch, hcommand]
      unfold StateStore.DueCommit
      simp only [commit?, hcommand, Option.bind_some]
      exact c.commitsLate_iff s now

/-! ### Every history -/

/-- No step of a history commits late. -/
def NeverCommitsLate (contracts : MessageContracts) (s : StateStore)
    (history : List (UtcTime × ReservationEvent)) : Prop :=
  Run.Along (StateStore.nextEvent contracts) (fun s e => ¬s.CommitsLate e.1 (s.nextEvent contracts e)) s history

/-- **Late commits.**  A history commits no reservation whose lease is over exactly when no commit for such a
reservation arrives that nothing but the clock could refuse. -/
theorem never_commits_late_iff (contracts : MessageContracts) (s : StateStore)
    (history : List (UtcTime × ReservationEvent)) :
    NeverCommitsLate contracts s history ↔
      Run.Along (StateStore.nextEvent contracts) (fun s e => ¬s.DueCommit contracts e) s history := by
  induction history generalizing s with
  | nil => exact Iff.rfl
  | cons e rest ih =>
    exact and_congr (not_congr (ReservationEvent.commitsLate_iff contracts s e)) (ih _)

/-- Contracts without a format checker; the sample history parses no date. -/
def sampleContracts : MessageContracts where
  isDateTime _ := true
  violation _ _ := ""
  fromisoformat _ := none

/-- `CommitReservation` for the reservation `r` at its revision 1. -/
def sampleCommit : ControlEnvelope where
  protocolMajor := 0
  protocolMinor := 2
  messageType := "CommitReservation"
  requestId := "q-2"
  correlationId := "c"
  actorId := "a"
  targetId := "r"
  issuedAt := sampleTime 90 (by decide)
  expiresAt := sampleTime 150 (by decide)
  expectedRevision := 1
  payload := (Dict.empty.set "job_id" (.str "job-1")).set "stage_id" (.str "s")

/-- A lease of a minute, and a commit after a hundred seconds. -/
def lateHistory : List (UtcTime × ReservationEvent) :=
  [(sampleTime 0 second_zero, .call (.ensureJob "job-1")), (sampleTime 0 second_zero, .call (.ensureReservation "r")),
    (sampleTime 0 second_zero, .call (.command (.leaseReservation "r"
      { requestId := "q-1", expectedRevision := 0 } (.aware (sampleTime 60 (by decide)).aware)))),
    (sampleTime 100 second_hundred, .message sampleCommit)]

/-- **A lease that is over is committed.** -/
theorem late_commit_accepted :
    ClockNondecreasing lateHistory ∧ ¬NeverCommitsLate sampleContracts .empty lateHistory := by
  constructor
  · show List.Pairwise _ _
    decide
  · intro h
    refine h.2.2.2.1 ⟨"r", ⟨⟨.leased, 1, some (sampleTime 60 (by decide))⟩, sampleTime 60 (by decide), ?_, rfl,
      rfl, by decide⟩, ⟨.committed, 2, some (sampleTime 60 (by decide))⟩, ?_, rfl⟩
    · decide
    · decide

end ComputeMesh.Orchestrator
