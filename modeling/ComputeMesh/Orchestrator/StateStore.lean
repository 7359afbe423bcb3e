import ComputeMesh.Orchestrator.StateMachine

/-!
# The SQLite state store

`SQLiteStateStore` of `persistence.py`, with the enforcers of `architecture_hardening_part13.py` it runs
first.  The connection is in autocommit mode: what the enforcers write is durable at once, and the
transaction that follows either commits all its writes or none.  A UTC time is kept as text to the
microsecond, so the columns hold the time itself.

* `StateStore.enforce` — what runs before the transaction, and outside it;
* `EntityTable.transition` — the transaction, for either kind of entity;
* `leaseReservation`, `commitReservation`, `transitionReservation`, `transitionJob`,
  `expireReservationIfDue` — the calls.
-/

namespace ComputeMesh.Orchestrator

open ComputeMesh.Text

/-! ### Tables -/

/-- A row of `entity_state`. -/
structure EntityRow (S : Type) where
  state : S
  revision : ℕ
  leaseExpiresAt : Option UtcTime
  deriving DecidableEq

/-- A row of `idempotency_effect`. -/
structure Effect (S : Type) where
  targetState : S
  resultState : S
  resultRevision : ℕ
  requestFingerprint : String
  deriving DecidableEq

/-- The rows of `entity_state` and `idempotency_effect` of one kind; effects by entity and request. -/
structure EntityTable (S : Type) where
  rows : Dict String (EntityRow S)
  effects : Dict (String × String) (Effect S)

/-- A row of `reservation_binding`. -/
structure ReservationBinding where
  jobId : String
  stageId : String
  requestId : String
  deriving DecidableEq

/-- The database. -/
structure StateStore where
  jobs : EntityTable JobState
  reservations : EntityTable ReservationState
  bindings : Dict String ReservationBinding
  deduplicatedEvents : List String
  explicitRetries : Dict String ℤ

/-- What every transition call passes on.  `commandMetadata` is the `expires_at` of a non-empty
dictionary, if there is one. -/
structure Request where
  requestId : String
  expectedRevision : ℤ
  requestFingerprint : String := ""
  commandMetadata : Option (Option ℚ) := none
  attemptNumber : Option ℤ := none
  deriving DecidableEq

/-! ### The transaction -/

namespace EntityTable

variable {S : Type} [DecidableEq S] [EntityState S]

def empty {S : Type} : EntityTable S := ⟨Dict.empty, Dict.empty⟩

/-- The transaction of `_transition`.  `check` is what is looked up for a binding, `leaseText` the lease
column of the updated row; the caller adds the binding. -/
def transition (t : EntityTable S) (kind entityId : String) (req : Request) (target : S)
    (check : Except Exn Unit) (leaseText : EntityRow S → Except Exn (Option UtcTime)) :
    Except Exn (TransitionResult S × EntityTable S) :=
  match t.effects.get? (entityId, req.requestId) with
  | some prior =>
    if prior.targetState ≠ target ∨ prior.requestFingerprint ≠ req.requestFingerprint then
      .error (.idempotencyConflict ("request_id " ++ quoted req.requestId ++
        " was already used for a different operation or payload"))
    else .ok (⟨prior.resultState, prior.resultRevision, req.requestId, false⟩, t)
  | none =>
    match t.rows.get? entityId with
    | none => .error (.key ("unknown " ++ kind ++ " " ++ quoted entityId))
    | some row =>
      if (row.revision : ℤ) ≠ req.expectedRevision then
        .error (.staleRevision ("expected revision " ++ toString req.expectedRevision ++
          ", current revision " ++ toString row.revision))
      else if target ∉ EntityState.allowed row.state then
        .error (.invalidTransition ("cannot transition from " ++ EntityState.value row.state ++ " to " ++
          EntityState.value target))
      else
        match check with
        | .error e => .error e
        | .ok () =>
          match leaseText row with
          | .error e => .error e
          | .ok lease =>
            .ok (⟨target, row.revision + 1, req.requestId, true⟩,
              { rows := t.rows.set entityId ⟨target, row.revision + 1, lease⟩
                effects := t.effects.set (entityId, req.requestId)
                  ⟨target, target, row.revision + 1, req.requestFingerprint⟩ })

/-- `INSERT OR IGNORE` of `_ensure`. -/
def ensure {S : Type} (t : EntityTable S) (entityId : String) (initialState : S) : EntityTable S :=
  if t.rows.contains entityId then t
  else { t with rows := t.rows.set entityId ⟨initialState, 0, none⟩ }

end EntityTable

/-! ### The store -/

namespace StateStore

def empty : StateStore := ⟨.empty, .empty, Dict.empty, [], Dict.empty⟩

/-- `EventDeduplicator.process_event`, of a request id that is not empty. -/
def processEvent (s : StateStore) (eventId : String) : StateStore :=
  if eventId ∈ s.deduplicatedEvents then s
  else { s with deduplicatedEvents := eventId :: s.deduplicatedEvents }

/-- `CommandExpirationEnforcer.validate_command`. -/
def validateCommand (expiresAt : Option ℚ) (currentTime : ℚ) : Except Exn Unit :=
  match expiresAt with
  | none => .error (.commandExpired "Command must have an 'expires_at' timestamp.")
  | some t =>
    if t ≤ currentTime then
      .error (.commandExpired ("Command expired at " ++ toString t ++ ", current time is " ++
        toString currentTime ++ "."))
    else .ok ()

/-- A command without metadata is not checked. -/
def validateMetadata (commandMetadata : Option (Option ℚ)) (currentTime : ℚ) : Except Exn Unit :=
  match commandMetadata with
  | none => .ok ()
  | some expiresAt => validateCommand expiresAt currentTime

/-- `ExplicitRetryEnforcer.register_attempt`. -/
def registerAttempt (s : StateStore) (entityId : String) (attemptNumber : ℤ) : Except Exn Unit × StateStore :=
  let lastAttempt := (s.explicitRetries.get? entityId).getD 0
  if attemptNumber ≤ lastAttempt then
    (.error (.implicitRetry ("Retry for job " ++ entityId ++ " must be an explicit new attempt. Attempt " ++
      toString attemptNumber ++ " is not greater than last attempt " ++ toString lastAttempt ++ ".")), s)
  else if 2 ^ 63 ≤ attemptNumber then
    (.error (.overflow "Python int too large to convert to SQLite INTEGER"), s)
  else (.ok (), { s with explicitRetries := s.explicitRetries.set entityId attemptNumber })

/-- The head of `_transition`: the request id and the enforcers, before `BEGIN IMMEDIATE`. -/
def enforce (s : StateStore) (now : UtcTime) (entityId : String) (req : Request) : Except Exn Unit × StateStore :=
  if req.requestId = "" then (.error (.value "request_id is required"), s)
  else
    let s₁ := s.processEvent req.requestId
    match validateMetadata req.commandMetadata now.timestamp with
    | .error e => (.error e, s₁)
    | .ok () =>
      match req.attemptNumber with
      | none => (.ok (), s₁)
      | some attempt => s₁.registerAttempt entityId attempt

def ensureJob (s : StateStore) (jobId : String) : Except Exn Unit × StateStore :=
  if jobId = "" then (.error (.value "entity_id is required"), s)
  else (.ok (), { s with jobs := s.jobs.ensure jobId .created })

def ensureReservation (s : StateStore) (reservationId : String) : Except Exn Unit × StateStore :=
  if reservationId = "" then (.error (.value "entity_id is required"), s)
  else (.ok (), { s with reservations := s.reservations.ensure reservationId .candidate })

def transitionJob (s : StateStore) (now : UtcTime) (jobId : String) (req : Request)
    (target : JobState) : Except Exn (TransitionResult JobState) × StateStore :=
  match s.enforce now jobId req with
  | (.error e, s₁) => (.error e, s₁)
  | (.ok (), s₁) =>
    match s₁.jobs.transition "job" jobId req target (.ok ()) (fun _ => .ok none) with
    | .error e => (.error e, s₁)
    | .ok (result, jobs) => (.ok result, { s₁ with jobs := jobs })

/-- The lease column of a reservation after a transition. -/
def leaseText (target : ReservationState) (leaseExpiresAt : Option AwareDatetime)
    (row : EntityRow ReservationState) : Except Exn (Option UtcTime) :=
  if target = .leased then
    match leaseExpiresAt with
    | none => .ok none
    | some expiry =>
      match expiry.astimezone with
      | none => .error (.overflow "date value out of range")
      | some utc => .ok (some utc)
  else if target.endsLease then .ok none
  else .ok row.leaseExpiresAt

/-- The job a binding names has to exist. -/
def checkBinding (s : StateStore) : Option (String × String) → Except Exn Unit
  | none => .ok ()
  | some (jobId, _) =>
    if s.jobs.rows.contains jobId then .ok () else .error (.key ("unknown job " ++ quoted jobId))

/-- `_transition` of a reservation. -/
def reservationTransition (s : StateStore) (now : UtcTime) (reservationId : String) (req : Request)
    (target : ReservationState) (leaseExpiresAt : Option AwareDatetime)
    (binding : Option (String × String)) :
    Except Exn (TransitionResult ReservationState) × StateStore :=
  match s.enforce now reservationId req with
  | (.error e, s₁) => (.error e, s₁)
  | (.ok (), s₁) =>
    match s₁.reservations.transition "reservation" reservationId req target (s₁.checkBinding binding)
        (leaseText target leaseExpiresAt) with
    | .error e => (.error e, s₁)
    | .ok (result, reservations) =>
      match binding with
      | none => (.ok result, { s₁ with reservations := reservations })
      | some (jobId, stageId) =>
        if result.changed = false then (.ok result, { s₁ with reservations := reservations })
        else if s₁.bindings.contains reservationId then
          (.error (.integrity "UNIQUE constraint failed: reservation_binding.reservation_id"), s₁)
        else
          (.ok result, { s₁ with
              reservations := reservations
              bindings := s₁.bindings.set reservationId ⟨jobId, stageId, req.requestId⟩ })

def leaseReservation (s : StateStore) (now : UtcTime) (reservationId : String) (req : Request)
    (expiresAt : Datetime) : Except Exn (TransitionResult ReservationState) × StateStore :=
  match expiresAt with
  | .naive _ => (.error (.value "expires_at must be timezone-aware"), s)
  | .aware expiry =>
    if expiry.instant ≤ now.micros then (.error (.value "expires_at must be in the future"), s)
    else s.reservationTransition now reservationId req .leased (some expiry) none

def commitReservation (s : StateStore) (now : UtcTime) (reservationId : String) (req : Request)
    (jobId stageId : String) : Except Exn (TransitionResult ReservationState) × StateStore :=
  if jobId = "" ∨ stageId = "" then (.error (.value "job_id and stage_id are required"), s)
  else s.reservationTransition now reservationId req .committed none (some (jobId, stageId))

def transitionReservation (s : StateStore) (now : UtcTime) (reservationId : String) (req : Request)
    (target : ReservationState) : Except Exn (TransitionResult ReservationState) × StateStore :=
  s.reservationTransition now reservationId req target none none

/-- The due test of `expire_reservation_if_due` on the row it has read. -/
def leaseDue (row : EntityRow ReservationState) (now : AwareDatetime) : Except Exn Bool :=
  match row.state, row.leaseExpiresAt with
  | .leased, some lease =>
    match now.astimezone with
    | none => .error (.overflow "date value out of range")
    | some utc => .ok (decide (lease.micros ≤ utc.micros))
  | _, _ => .ok false

/-- `expire_reservation_if_due`; `clock` is what the transition itself reads as the time. -/
def expireReservationIfDue (s : StateStore) (clock : UtcTime) (reservationId requestId : String)
    (expectedRevision : ℤ) (now : Datetime) :
    Except Exn (Option (TransitionResult ReservationState)) × StateStore :=
  match now with
  | .naive _ => (.error (.value "now must be timezone-aware"), s)
  | .aware d =>
    match s.reservations.rows.get? reservationId with
    | none => (.error (.key ("unknown reservation " ++ quoted reservationId)), s)
    | some row =>
      match leaseDue row d with
      | .error e => (.error e, s)
      | .ok false => (.ok none, s)
      | .ok true =>
        match s.transitionReservation clock reservationId
            { requestId := requestId, expectedRevision := expectedRevision } .expired with
        | (.error e, s') => (.error e, s')
        | (.ok result, s') => (.ok (some result), s')

end StateStore

/-! ### The clock of the sample runs -/

def sampleTime (second : ℤ) (h : 0 ≤ second ∧ second < 1000) : UtcTime :=
  ⟨63902908800000000 + second * 1000000, by omega, by unfold maxMicros; omega⟩

-- The seconds that samples of several modules read.
theorem second_zero : (0 : ℤ) ≤ 0 ∧ (0 : ℤ) < 1000 := by decide

theorem second_one : (0 : ℤ) ≤ 1 ∧ (1 : ℤ) < 1000 := by decide

theorem second_ten : (0 : ℤ) ≤ 10 ∧ (10 : ℤ) < 1000 := by decide

theorem second_hundred : (0 : ℤ) ≤ 100 ∧ (100 : ℤ) < 1000 := by decide

end ComputeMesh.Orchestrator
