import ComputeMesh.Lib.Run
import ComputeMesh.Orchestrator.StoreSpec

/-!
# Histories of store calls

The public calls of the state store as data, so that a history of the store is a list of them, each with the
time the call read.

* `Command`, `StoreCall` — the calls, `Command.run`, `StoreCall.run` — what one does;
* `StateStore.grows_afterCalls` — **a history never loses an effect, an event or an attempt**;
* `StoreCall.JobsStep` — what one call can do to the table of jobs.
-/

namespace ComputeMesh.Orchestrator

/-! ### Commands and histories -/

/-- The commands of the store. -/
inductive Command
  | leaseReservation (id : String) (req : Request) (expiresAt : Datetime)
  | commitReservation (id : String) (req : Request) (jobId stageId : String)
  | transitionReservation (id : String) (req : Request) (target : ReservationState)
  | transitionJob (id : String) (req : Request) (target : JobState)

/-- What a command returns. -/
inductive CommandResult
  | job (result : TransitionResult JobState)
  | reservation (result : TransitionResult ReservationState)
  deriving DecidableEq

/-- The same state and revision with `changed=False`. -/
def CommandResult.replayed : CommandResult → CommandResult
  | job result => job { result with changed := false }
  | reservation result => reservation { result with changed := false }

namespace Command

def id : Command → String
  | leaseReservation id .. | commitReservation id .. | transitionReservation id .. | transitionJob id .. => id

def request : Command → Request
  | leaseReservation _ req _ | commitReservation _ req _ _ | transitionReservation _ req _
  | transitionJob _ req _ => req

/-- Perform a command at time `now`. -/
def run (s : StateStore) (now : UtcTime) : Command → Except Exn CommandResult × StateStore
  | leaseReservation id req expiresAt =>
    ((s.leaseReservation now id req expiresAt).1.map .reservation, (s.leaseReservation now id req expiresAt).2)
  | commitReservation id req jobId stageId =>
    ((s.commitReservation now id req jobId stageId).1.map .reservation,
      (s.commitReservation now id req jobId stageId).2)
  | transitionReservation id req target =>
    ((s.transitionReservation now id req target).1.map .reservation, (s.transitionReservation now id req target).2)
  | transitionJob id req target =>
    ((s.transitionJob now id req target).1.map .job, (s.transitionJob now id req target).2)

end Command

inductive StoreCall
  | command (c : Command)
  | ensureJob (jobId : String)
  | ensureReservation (reservationId : String)
  | expireIfDue (reservationId requestId : String) (expectedRevision : ℤ) (now : Datetime)

def StoreCall.run (s : StateStore) (now : UtcTime) : StoreCall → StateStore
  | command c => (c.run s now).2
  | ensureJob jobId => (s.ensureJob jobId).2
  | ensureReservation id => (s.ensureReservation id).2
  | expireIfDue id requestId expectedRevision due =>
    (s.expireReservationIfDue now id requestId expectedRevision due).2

def StateStore.afterCalls (s : StateStore) (history : List (UtcTime × StoreCall)) : StateStore :=
  Run.exec (fun s call => call.2.run s call.1) s history

/-! ### What the calls on reservations come to -/

namespace StateStore

theorem leaseReservation_snd (s : StateStore) (now : UtcTime) (id : String) (req : Request) (expiresAt : Datetime) :
    (s.leaseReservation now id req expiresAt).2 = s ∨
      ∃ expiry, expiresAt = .aware expiry ∧ now.micros < expiry.instant ∧
        (s.leaseReservation now id req expiresAt).2
          = (s.reservationTransition now id req .leased (some expiry) none).2 := by
  unfold leaseReservation
  split
  · exact .inl rfl
  · rename_i expiry
    split
    · exact .inl rfl
    · rename_i hfuture
      exact .inr ⟨expiry, rfl, not_le.mp hfuture, rfl⟩

theorem commitReservation_snd (s : StateStore) (now : UtcTime) (id : String) (req : Request)
    (jobId stageId : String) :
    (s.commitReservation now id req jobId stageId).2 = s ∨ (s.commitReservation now id req jobId stageId).2
        = (s.reservationTransition now id req .committed none (some (jobId, stageId))).2 := by
  unfold commitReservation
  split
  · exact .inl rfl
  · exact .inr rfl

theorem expireReservationIfDue_snd (s : StateStore) (clock : UtcTime) (id requestId : String)
    (expectedRevision : ℤ) (now : Datetime) :
    (s.expireReservationIfDue clock id requestId expectedRevision now).2 = s ∨
      ∃ d row, now = .aware d ∧ s.reservations.rows.get? id = some row ∧ leaseDue row d = .ok true ∧
        (s.expireReservationIfDue clock id requestId expectedRevision now).2
          = (s.reservationTransition clock id { requestId, expectedRevision } .expired none none).2 := by
  unfold expireReservationIfDue
  split
  · exact .inl rfl
  · rename_i d
    split
    · exact .inl rfl
    · rename_i row hrow
      split
      · exact .inl rfl
      · exact .inl rfl
      · rename_i hdue
        refine .inr ⟨d, row, rfl, hrow, hdue, ?_⟩
        show _ = (s.transitionReservation clock id { requestId, expectedRevision } .expired).2
        split
        · rename_i hr
          rw [hr]
        · rename_i hr
          rw [hr]

end StateStore

/-! ### Histories only grow the store -/

namespace StateStore

theorem grows_ensureJob (s : StateStore) (jobId : String) : Grows s (s.ensureJob jobId).2 := by
  unfold ensureJob
  split
  · exact .refl s
  · refine ⟨fun k e he => ?_, fun _ _ h => h, fun _ h => h, fun _ n h => ⟨n, h, le_rfl⟩⟩
    rw [EntityTable.effects_ensure]
    exact he

theorem grows_ensureReservation (s : StateStore) (id : String) : Grows s (s.ensureReservation id).2 := by
  unfold ensureReservation
  split
  · exact .refl s
  · refine ⟨fun _ _ h => h, fun k e he => ?_, fun _ h => h, fun _ n h => ⟨n, h, le_rfl⟩⟩
    rw [EntityTable.effects_ensure]
    exact he

end StateStore

theorem Command.grows_run (s : StateStore) (now : UtcTime) (c : Command) : s.Grows (c.run s now).2 := by
  cases c with
  | leaseReservation id req expiresAt =>
    show s.Grows (s.leaseReservation now id req expiresAt).2
    rcases s.leaseReservation_snd now id req expiresAt with h | ⟨expiry, -, -, h⟩
    · rw [h]
      exact .refl s
    · rw [h]
      exact s.grows_reservationTransition now id req _ _ _
  | commitReservation id req jobId stageId =>
    show s.Grows (s.commitReservation now id req jobId stageId).2
    rcases s.commitReservation_snd now id req jobId stageId with h | h
    · rw [h]
      exact .refl s
    · rw [h]
      exact s.grows_reservationTransition now id req _ _ _
  | transitionReservation id req target => exact s.grows_reservationTransition now id req target none none
  | transitionJob id req target => exact s.grows_transitionJob now id req target

theorem StoreCall.grows_run (s : StateStore) (now : UtcTime) (call : StoreCall) : s.Grows (call.run s now) := by
  cases call with
  | command c => exact c.grows_run s now
  | ensureJob jobId => exact s.grows_ensureJob jobId
  | ensureReservation id => exact s.grows_ensureReservation id
  | expireIfDue id requestId expectedRevision due =>
    show s.Grows (s.expireReservationIfDue now id requestId expectedRevision due).2
    rcases s.expireReservationIfDue_snd now id requestId expectedRevision due with
      h | ⟨d, row, -, -, -, h⟩
    · rw [h]
      exact .refl s
    · rw [h]
      exact s.grows_reservationTransition now id _ _ _ _

/-- **So does every history.** -/
theorem StateStore.grows_afterCalls (s : StateStore) (history : List (UtcTime × StoreCall)) :
    s.Grows (s.afterCalls history) :=
  Run.exec_of_forall (fun s' => s.Grows s') (fun s' call h => h.trans (call.2.grows_run s' call.1)) (.refl s) history

/-! ### The table of jobs -/

namespace StateStore

@[simp] theorem reservationTransition_jobs (s : StateStore) (now : UtcTime) (id : String) (req : Request)
    (target : ReservationState) (expiry : Option AwareDatetime) (binding : Option (String × String)) :
    (s.reservationTransition now id req target expiry binding).2.jobs = s.jobs := by
  obtain ⟨hjobs, -, -⟩ := s.enforce_frame now id req
  have houtcome := s.reservationTransition_cases now id req target expiry binding
  generalize s.reservationTransition now id req target expiry binding = r at houtcome
  cases houtcome with
  | refused e | replayed e henforced heffect hans | moved row lease henforced hready hcheck hlease hfree => exact hjobs

end StateStore

namespace StoreCall

/-- What a call can do to the table of jobs: nothing, add a job, or move one. -/
inductive JobsStep (s : StateStore) : StoreCall → EntityTable JobState → Prop
  | same (call : StoreCall) : JobsStep s call s.jobs
  | ensured (jobId : String) : JobsStep s (ensureJob jobId) (s.jobs.ensure jobId .created)
  | moved (jobId : String) (req : Request) (target : JobState) (row : EntityRow JobState)
      (hready : s.jobs.Ready jobId req target row) :
      JobsStep s (command (.transitionJob jobId req target)) (s.jobs.moved jobId row req target none)

theorem jobsStep_run (s : StateStore) (now : UtcTime) (call : StoreCall) : JobsStep s call (call.run s now).jobs := by
  cases call with
  | command c =>
    cases c with
    | leaseReservation id req expiresAt =>
      have hsame : (s.leaseReservation now id req expiresAt).2.jobs = s.jobs := by
        rcases s.leaseReservation_snd now id req expiresAt with h | ⟨expiry, -, -, h⟩
        · rw [h]
        · rw [h, s.reservationTransition_jobs]
      show JobsStep s _ (s.leaseReservation now id req expiresAt).2.jobs
      rw [hsame]
      exact .same _
    | commitReservation id req jobId stageId =>
      have hsame : (s.commitReservation now id req jobId stageId).2.jobs = s.jobs := by
        rcases s.commitReservation_snd now id req jobId stageId with h | h
        · rw [h]
        · rw [h, s.reservationTransition_jobs]
      show JobsStep s _ (s.commitReservation now id req jobId stageId).2.jobs
      rw [hsame]
      exact .same _
    | transitionReservation id req target =>
      show JobsStep s _ (s.reservationTransition now id req target none none).2.jobs
      rw [s.reservationTransition_jobs]
      exact .same _
    | transitionJob id req target =>
      show JobsStep s _ (s.transitionJob now id req target).2.jobs
      obtain ⟨hjobs, -, -⟩ := s.enforce_frame now id req
      have houtcome := s.transitionJob_cases now id req target
      generalize s.transitionJob now id req target = r at houtcome
      cases houtcome with
      | refused e | replayed e henforced heffect hans =>
        rw [hjobs]
        exact .same _
      | moved row henforced hready => exact .moved id req target row hready
  | ensureJob jobId =>
    show JobsStep s _ (s.ensureJob jobId).2.jobs
    unfold StateStore.ensureJob
    split
    · exact .same _
    · exact .ensured jobId
  | ensureReservation id =>
    have hsame : (s.ensureReservation id).2.jobs = s.jobs := by
      unfold StateStore.ensureReservation
      split <;> rfl
    show JobsStep s _ (s.ensureReservation id).2.jobs
    rw [hsame]
    exact .same _
  | expireIfDue id requestId expectedRevision due =>
    have hsame : (s.expireReservationIfDue now id requestId expectedRevision due).2.jobs = s.jobs := by
      rcases s.expireReservationIfDue_snd now id requestId expectedRevision due with
        h | ⟨d, row, -, -, -, h⟩
      · rw [h]
      · rw [h, s.reservationTransition_jobs]
    show JobsStep s _ (s.expireReservationIfDue now id requestId expectedRevision due).2.jobs
    rw [hsame]
    exact .same _

end StoreCall

end ComputeMesh.Orchestrator
