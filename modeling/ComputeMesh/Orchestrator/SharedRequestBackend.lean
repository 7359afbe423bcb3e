import ComputeMesh.Lib.Process
import ComputeMesh.Orchestrator.StateStore

/-!
# The life of one shared request

`SharedRequestOrchestratedBackend.complete` as a process over the state store, with one step for every store
call, so that it can die between any two of them and run next to others.

What is not the store's (provider sessions, the local capacity table, the runner, the verification of its
evidence) may return or raise, as `SharedRequestCall` says; so may every store call, when the connection
refuses it.

* `reserve`, `activate`, `release` — the reservations of a job, one after the other;
* `terminal` — the job becomes `FAILED` or `CANCELLED`;
* `executeJob` — the whole body, with what its `except` and `finally` clauses do.
-/

namespace ComputeMesh.Orchestrator

open ComputeMesh.Text

/-! ### What a request meets -/

/-- The exceptions of a request. -/
inductive RequestExn
  | settlement (message : String)
  | cancelled
  | evidence
  | backend (typeName : String)
  | store (e : Exn)
  | other (typeName : String)
  deriving DecidableEq

/-- `type(exc).__name__`. -/
def Exn.typeName : Exn → String
  | .value _ => "ValueError"
  | .key _ => "KeyError"
  | .staleRevision _ => "StaleRevision"
  | .invalidTransition _ => "InvalidTransition"
  | .idempotencyConflict _ => "IdempotencyConflict"
  | .implicitRetry _ => "ImplicitRetryError"
  | .commandExpired _ => "CommandExpiredError"
  | .integrity _ => "IntegrityError"
  | .overflow _ => "OverflowError"

def RequestExn.typeName : RequestExn → String
  | .settlement _ => "SharedRequestSettlementError"
  | .cancelled => "SharedRequestCancelled"
  | .evidence => "SharedRequestEvidenceError"
  | .backend name => name
  | .store e => e.typeName
  | .other name => name

/-- What a step outside the store comes to. -/
inductive External
  | returns
  | raises (e : RequestExn)

/-- `lease_capacity` of the local table. -/
inductive LeaseOutcome
  | granted
  | refused
  | raises (e : RequestExn)

/-- One call of `complete`, with its placement and what it meets on its way.  `clock` is what the clock shows
when the request with the given id is made, `refuses` whether the connection refuses it. -/
structure SharedRequestCall where
  jobId : String
  modelId : String
  placementModelId : String
  decisionId : String
  providerNodeIds : List String
  leaseSeconds : ℤ
  clock : String → UtcTime
  refuses : String → Bool
  reserveProviderCapacity : External
  leaseCapacity : LeaseOutcome
  dispatchJob : External
  runner : External
  verification : External

/-- A process over the store that may raise. -/
abbrev RequestProcess (α : Type) := ExceptT RequestExn (Process StateStore) α

namespace SharedRequestCall

def storeCall {α : Type} (c : SharedRequestCall) (name : String)
    (f : UtcTime → StateStore → Except Exn α × StateStore) : RequestProcess α :=
  Process.attempt fun s =>
    if c.refuses name then (.error (.other "OperationalError"), s)
    else ((f (c.clock name) s).1.mapError .store, (f (c.clock name) s).2)

def external : External → RequestProcess Unit
  | .returns => pure ()
  | .raises e => throw e

/-- `store.get_job`. -/
def getJob (c : SharedRequestCall) : RequestProcess (EntityRow JobState) :=
  Process.attempt fun s =>
    match s.jobs.rows.get? c.jobId with
    | none => (.error (.store (.key ("unknown job " ++ quoted c.jobId))), s)
    | some row => (.ok row, s)

/-- `store.get_reservation`. -/
def getReservation (reservationId : String) : RequestProcess (EntityRow ReservationState) :=
  Process.attempt fun s =>
    match s.reservations.rows.get? reservationId with
    | none => (.error (.store (.key ("unknown reservation " ++ quoted reservationId))), s)
    | some row => (.ok row, s)

def jobRequestId (c : SharedRequestCall) (target : JobState) : String :=
  c.jobId ++ ":job:" ++ lower target.value

/-- `transition_job` from the revision that was read. -/
def moveJob (c : SharedRequestCall) (row : EntityRow JobState) (target : JobState) (fingerprint : String) :
    RequestProcess Unit := do
  let _ ← c.storeCall (c.jobRequestId target) fun now s =>
    s.transitionJob now c.jobId
      { requestId := c.jobRequestId target, expectedRevision := row.revision,
        requestFingerprint := fingerprint } target

def advance (c : SharedRequestCall) (target : JobState) : RequestProcess Unit := do
  let current ← c.getJob
  c.moveJob current target ("shared-request:" ++ c.decisionId ++ ":" ++ target.value)

def reservationRequestId (c : SharedRequestCall) (verb : String) (index : ℕ) : String :=
  c.jobId ++ ":" ++ verb ++ ":" ++ toString index

/-- `_reservation_ids`, each with its index and node. -/
def reservationIds (c : SharedRequestCall) : List (String × ℕ × String) :=
  c.providerNodeIds.zipIdx.map fun p =>
    (c.jobId ++ ":capacity:" ++ toString p.2 ++ ":" ++ p.1, p.2, p.1)

/-- One round of `_reserve`. -/
def reserveOne (c : SharedRequestCall) (expires : AwareDatetime) (reservationId : String) (index : ℕ)
    (nodeId : String) : RequestProcess Unit := do
  let fingerprint := "node=" ++ nodeId ++ ";job=" ++ c.jobId ++ ";placement=" ++ c.decisionId
  let _ ← c.storeCall (reservationId ++ ":ensure") fun _ s => s.ensureReservation reservationId
  let leased ← c.storeCall (c.reservationRequestId "lease" index) fun now s =>
    s.leaseReservation now reservationId
      { requestId := c.reservationRequestId "lease" index, expectedRevision := 0,
        requestFingerprint := fingerprint } (.aware expires)
  let _ ← c.storeCall (c.reservationRequestId "commit" index) fun now s =>
    s.commitReservation now reservationId
      { requestId := c.reservationRequestId "commit" index, expectedRevision := leased.revision,
        requestFingerprint := fingerprint } c.jobId ("inference:" ++ nodeId)

/-- `_reserve`, over the reservations still to make. -/
def reserve (c : SharedRequestCall) (expires : AwareDatetime) : List (String × ℕ × String) → RequestProcess Unit
  | [] => pure ()
  | (reservationId, index, nodeId) :: rest => do
    c.reserveOne expires reservationId index nodeId
    reserve c expires rest

/-- A reservation is dispatched while it is committed and its lease runs. -/
def dispatchable (row : EntityRow ReservationState) (now : UtcTime) : Bool :=
  match row.state, row.leaseExpiresAt with
  | .committed, some lease => decide (now.micros < lease.micros)
  | _, _ => false

/-- One round of `_activate`. -/
def activateOne (c : SharedRequestCall) (reservationId : String) (index : ℕ) : RequestProcess Unit := do
  let current ← getReservation reservationId
  if dispatchable current (c.clock (c.reservationRequestId "activate" index)) then
    let _ ← c.storeCall (c.reservationRequestId "activate" index) fun now s =>
      s.transitionReservation now reservationId
        { requestId := c.reservationRequestId "activate" index, expectedRevision := current.revision,
          requestFingerprint := "dispatch:" ++ c.jobId ++ ":" ++ c.decisionId } .active
  else throw (.settlement "capacity reservation is not dispatchable")

def activate (c : SharedRequestCall) : List (String × ℕ × String) → RequestProcess Unit
  | [] => pure ()
  | (reservationId, index, _) :: rest => do
    c.activateOne reservationId index
    activate c rest

/-- One round of `_release`; a reservation that is not there is passed over. -/
def releaseOne (c : SharedRequestCall) (reservationId : String) (index : ℕ) : RequestProcess Unit := do
  let current ← (Process.call fun s => (s.reservations.rows.get? reservationId, s) : Process StateStore _)
  match current with
  | none => pure ()
  | some row =>
    if row.state ∈ [ReservationState.committed, .active] then
      let _ ← c.storeCall (c.reservationRequestId "release" index) fun now s =>
        s.transitionReservation now reservationId
          { requestId := c.reservationRequestId "release" index, expectedRevision := row.revision,
            requestFingerprint := "release:" ++ c.jobId } .released
    else pure ()

def release (c : SharedRequestCall) : List (String × ℕ × String) → RequestProcess Unit
  | [] => pure ()
  | (reservationId, index, _) :: rest => do
    c.releaseOne reservationId index
    release c rest

/-- Whether `contextlib.suppress(OSError, ValueError, TypeError, KeyError, RuntimeError)` hides an exception of
the store; those of the driver are none of these. -/
def suppressed : RequestExn → Bool
  | .store (.integrity _) | .store (.overflow _) | .other _ => false
  | _ => true

/-- `_terminal`, with the exception it lets through. -/
def terminal (c : SharedRequestCall) (target : JobState) (fingerprint : String) :
    Process StateStore (Option RequestExn) := do
  let attempt : RequestProcess Unit := do
    let current ← c.getJob
    if current.state ∈ [JobState.failed, .cancelled, .completed, .settled] then pure ()
    else c.moveJob current target fingerprint
  match ← attempt.run with
  | .ok () => pure none
  | .error e => pure (if suppressed e then none else some e)

/-- The body up to the reservations. -/
def prepare (c : SharedRequestCall) : RequestProcess Unit := do
  c.advance .validating
  c.advance .planning
  c.advance .reserving
  let start := (c.clock (c.jobId ++ ":reserve")).micros + c.leaseSeconds * 1000000
  if h : 0 ≤ start ∧ start < maxMicros then
    c.reserve ⟨start, 0, h.1, h.2⟩ c.reservationIds
  else throw (.store (.overflow "date value out of range"))

/-- The body from the reservations on. -/
def dispatch (c : SharedRequestCall) : RequestProcess Unit := do
  external c.reserveProviderCapacity
  match c.leaseCapacity with
  | .granted => pure ()
  | .refused => throw (.settlement "insufficient local capacity for shared request")
  | .raises e => throw e
  external c.dispatchJob
  c.advance .preparing
  c.activate c.reservationIds
  c.advance .running
  external c.runner
  c.advance .verifying
  external c.verification
  c.advance .completed

/-- What the caller sees of an exception of the body. -/
def RequestExn.raised : RequestExn → RequestExn
  | .cancelled => .settlement "shared request was cancelled"
  | .settlement m => .settlement m
  | .backend name => .backend name
  | .evidence => .settlement "shared-request evidence verification failed"
  | .store _ | .other _ => .settlement "shared-request orchestration failed"

/-- The `try` block: its outcome, and what `reservations` holds then, which is nothing as long as `_reserve`
has not returned. -/
def tryBlock (c : SharedRequestCall) : Process StateStore (Except RequestExn Unit × List (String × ℕ × String)) := do
  match ← c.prepare.run with
  | .error e => pure (.error e, [])
  | .ok () => do
    let outcome ← c.dispatch.run
    pure (outcome, c.reservationIds)

/-- The `except` and `finally` clauses. -/
def conclude (c : SharedRequestCall) (ids : List (String × ℕ × String)) : Except RequestExn Unit → RequestProcess Unit
  | .ok () => c.release ids
  | .error .cancelled => do
    let leaked ← c.terminal .cancelled "shared-request-cancel:stop_new_billable_work"
    c.release ids
    throw (leaked.getD (RequestExn.raised .cancelled))
  | .error e => do
    let leaked ← c.terminal .failed ("shared-request-failure:" ++ e.typeName)
    c.release ids
    throw (leaked.getD (RequestExn.raised e))

/-- `execute_job` of `complete`. -/
def executeJob (c : SharedRequestCall) : RequestProcess Unit := do
  if c.modelId ≠ c.placementModelId then
    throw (.settlement "requested model does not match scheduler placement")
  else
    let _ ← c.storeCall (c.jobId ++ ":ensure") fun _ s => s.ensureJob c.jobId
    let r ← c.tryBlock
    c.conclude r.2 r.1

/-- `complete`: a command without a key is refused. -/
def complete (c : SharedRequestCall) : RequestProcess Unit := do
  if c.jobId = "" then
    throw (.other "StatefulIdempotencyError")
  else c.executeJob

end SharedRequestCall

end ComputeMesh.Orchestrator
