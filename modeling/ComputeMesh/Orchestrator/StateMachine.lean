import ComputeMesh.Lib.Datetime
import ComputeMesh.Lib.Dict
import ComputeMesh.Lib.Text

/-!
# Job and reservation state machines

`state_machine.py`: the states, the transitions allowed from each, and the in-memory machines with optimistic
revisions and a memory of the requests they have answered.  A method returns what the call returns or raises,
and the machine after it: one of them can raise after it has changed the machine.

* `RevisionedStateMachine.apply_` — the common step;
* `ReservationStateMachine` and `JobStateMachine` — the two machines.
-/

namespace ComputeMesh.Orchestrator

open ComputeMesh.Text

/-- The exceptions of the state store and the machines, with their messages. -/
inductive Exn
  | value (message : String)
  | key (message : String)
  | staleRevision (message : String)
  | invalidTransition (message : String)
  | idempotencyConflict (message : String)
  | implicitRetry (message : String)
  | commandExpired (message : String)
  | integrity (message : String)
  | overflow (message : String)
  deriving DecidableEq

/-- The exception classes. -/
inductive ExnClass
  | value
  | key
  | staleRevision
  | invalidTransition
  | idempotencyConflict
  | implicitRetry
  | commandExpired
  | integrity
  | overflow
  deriving DecidableEq

def Exn.cls : Exn → ExnClass
  | .value _ => .value
  | .key _ => .key
  | .staleRevision _ => .staleRevision
  | .invalidTransition _ => .invalidTransition
  | .idempotencyConflict _ => .idempotencyConflict
  | .implicitRetry _ => .implicitRetry
  | .commandExpired _ => .commandExpired
  | .integrity _ => .integrity
  | .overflow _ => .overflow

/-! ### States and transitions -/

inductive ReservationState
  | candidate
  | leased
  | committed
  | active
  | released
  | expired
  | rejected
  deriving DecidableEq

def ReservationState.value : ReservationState → String
  | candidate => "CANDIDATE"
  | leased => "LEASED"
  | committed => "COMMITTED"
  | active => "ACTIVE"
  | released => "RELEASED"
  | expired => "EXPIRED"
  | rejected => "REJECTED"

/-- `_RESERVATION_TRANSITIONS`. -/
def ReservationState.transitions : ReservationState → List ReservationState
  | candidate => [leased, rejected]
  | leased => [committed, expired, released]
  | committed => [active, released]
  | active => [released]
  | released => []
  | expired => []
  | rejected => []

inductive JobState
  | created
  | validating
  | planning
  | reserving
  | preparing
  | running
  | verifying
  | completed
  | settled
  | cancelled
  | failed
  | refunded
  deriving DecidableEq

namespace JobState

def value : JobState → String
  | created => "CREATED"
  | validating => "VALIDATING"
  | planning => "PLANNING"
  | reserving => "RESERVING"
  | preparing => "PREPARING"
  | running => "RUNNING"
  | verifying => "VERIFYING"
  | completed => "COMPLETED"
  | settled => "SETTLED"
  | cancelled => "CANCELLED"
  | failed => "FAILED"
  | refunded => "REFUNDED"

/-- `_JOB_FORWARD`. -/
def forward : JobState → List JobState
  | created => [validating]
  | validating => [planning]
  | planning => [reserving]
  | reserving => [preparing]
  | preparing => [running]
  | running => [verifying]
  | verifying => [completed]
  | completed => [settled, refunded]
  | settled => [refunded]
  | cancelled => []
  | failed => []
  | refunded => []

/-- `_JOB_CANCELLABLE`, which `_JOB_FAILABLE` copies. -/
def cancellable : List JobState :=
  [created, validating, planning, reserving, preparing, running, verifying]

def allowed (s : JobState) : List JobState :=
  s.forward ++ (if s ∈ cancellable then [cancelled] else []) ++ (if s ∈ cancellable then [failed] else [])

end JobState

/-- What the two kinds of entity give the generic code. -/
class EntityState (S : Type) where
  value : S → String
  allowed : S → List S

instance : EntityState ReservationState where
  value := ReservationState.value
  allowed := ReservationState.transitions

instance : EntityState JobState where
  value := JobState.value
  allowed := JobState.allowed

structure TransitionResult (S : Type) where
  state : S
  revision : ℕ
  requestId : String
  changed : Bool
  deriving DecidableEq

/-! ### The machines -/

structure RevisionedStateMachine (S : Type) where
  state : S
  revision : ℕ
  processed : Dict String (S × TransitionResult S)

namespace RevisionedStateMachine

def new {S : Type} (state : S) : RevisionedStateMachine S := ⟨state, 0, Dict.empty⟩

variable {S : Type} [DecidableEq S] [EntityState S]

/-- `_apply`, with the targets allowed from the machine's state. -/
def apply_ (m : RevisionedStateMachine S) (requestId : String) (expectedRevision : ℤ) (target : S) :
    Except Exn (TransitionResult S) × RevisionedStateMachine S :=
  if requestId = "" then (.error (.value "request_id is required"), m)
  else
    match m.processed.get? requestId with
    | some (previousTarget, previousResult) =>
      if previousTarget ≠ target then
        (.error (.idempotencyConflict ("request_id " ++ quoted requestId ++
          " was already used for target " ++ EntityState.value previousTarget)), m)
      else
        (.ok ⟨previousResult.state, previousResult.revision, requestId, false⟩, m)
    | none =>
      if expectedRevision ≠ m.revision then
        (.error (.staleRevision ("expected revision " ++ toString expectedRevision ++
          ", current revision " ++ toString m.revision)), m)
      else if target ∉ EntityState.allowed m.state then
        (.error (.invalidTransition ("cannot transition from " ++ EntityState.value m.state ++ " to " ++
          EntityState.value target)), m)
      else
        let result : TransitionResult S := ⟨target, m.revision + 1, requestId, true⟩
        (.ok result,
          ⟨target, m.revision + 1, m.processed.set requestId (target, result)⟩)

end RevisionedStateMachine

abbrev JobStateMachine := RevisionedStateMachine JobState

/-- `JobStateMachine.transition`. -/
def JobStateMachine.transition (m : JobStateMachine) (requestId : String) (expectedRevision : ℤ)
    (target : JobState) : Except Exn (TransitionResult JobState) × JobStateMachine :=
  m.apply_ requestId expectedRevision target

structure ReservationStateMachine where
  machine : RevisionedStateMachine ReservationState
  leaseExpiresAt : Option UtcTime

def ReservationState.endsLease : ReservationState → Bool
  | released | expired | rejected => true
  | candidate | leased | committed | active => false

namespace ReservationStateMachine

def new : ReservationStateMachine := ⟨.new .candidate, none⟩

def transition (m : ReservationStateMachine) (requestId : String) (expectedRevision : ℤ)
    (target : ReservationState) : Except Exn (TransitionResult ReservationState) × ReservationStateMachine :=
  match m.machine.apply_ requestId expectedRevision target with
  | (.error e, machine) => (.error e, { m with machine := machine })
  | (.ok result, machine) =>
    (.ok result,
      { machine := machine
        leaseExpiresAt := if result.changed && target.endsLease then none else m.leaseExpiresAt })

/-- `lease`, at the time `now` that it reads.  The expiry is converted to UTC only after the transition. -/
def lease (m : ReservationStateMachine) (now : UtcTime) (requestId : String) (expectedRevision : ℤ)
    (expiresAt : Datetime) : Except Exn (TransitionResult ReservationState) × ReservationStateMachine :=
  match expiresAt with
  | .naive _ => (.error (.value "expires_at must be timezone-aware"), m)
  | .aware expiry =>
    if expiry.instant ≤ now.micros then (.error (.value "expires_at must be in the future"), m)
    else
      match m.transition requestId expectedRevision .leased with
      | (.error e, m') => (.error e, m')
      | (.ok result, m') =>
        if result.changed then
          match expiry.astimezone with
          | none => (.error (.overflow "date value out of range"), m')
          | some utc => (.ok result, { m' with leaseExpiresAt := some utc })
        else (.ok result, m')

def expireIfDue (m : ReservationStateMachine) (requestId : String) (expectedRevision : ℤ)
    (now : Datetime) : Except Exn (Option (TransitionResult ReservationState)) × ReservationStateMachine :=
  match m.machine.state, m.leaseExpiresAt with
  | .leased, some lease =>
    match now with
    | .naive _ => (.error (.value "now must be timezone-aware"), m)
    | .aware d =>
      match d.astimezone with
      | none => (.error (.overflow "date value out of range"), m)
      | some utc =>
        if utc.micros < lease.micros then (.ok none, m)
        else
          match m.transition requestId expectedRevision .expired with
          | (.error e, m') => (.error e, m')
          | (.ok result, m') => (.ok (some result), m')
  | _, _ => (.ok none, m)

end ReservationStateMachine

end ComputeMesh.Orchestrator
