import ComputeMesh.Lib.Sha256
import ComputeMesh.Orchestrator.StoreCalls
import ComputeMesh.Protocol.Control

/-!
# Control messages to the state store

`handlers.py`: `dispatch_control_envelope` checks the payload of an envelope against the contract of its
message and performs the one store call the message stands for.

* `MessageContracts` — what the contract checker brings along: the format check of a date-time, the text of a
  violation, and the parser of ISO dates;
* `dispatchControlEnvelope` — the dispatch;
* `dispatch_snd` — **an envelope is refused, or is one command of the store.**
-/

namespace ComputeMesh.Orchestrator

open ComputeMesh.Text ComputeMesh.Protocol

/-- What the libraries decide: whether a text is a `date-time` for the format checker (every text is, where no
checker is installed), how a violated contract is described, and `datetime.fromisoformat`. -/
structure MessageContracts where
  isDateTime : String → Bool
  violation : String → Dict String Json → String
  fromisoformat : String → Option Datetime

/-- The exceptions of the dispatch. -/
inductive ControlExn
  | fault (error : StructuredError)
  | store (e : Exn)
  deriving DecidableEq

namespace ControlHandlers

def badPayload (env : ControlEnvelope) (message : String) : ControlExn :=
  .fault ⟨"INVALID_ARGUMENT", "invalid_argument", false, message, some env.requestId, []⟩

def fingerprint (env : ControlEnvelope) : String :=
  Sha256.sha256Hex (Json.obj [("message_type", .str env.messageType), ("payload", .ofDict env.payload)]).dumps

/-! ### The contracts of the three messages -/

def textProperty (payload : Dict String Json) (name : String) (minLength maxLength : ℕ) : Option String :=
  match payload.get? name with
  | some (.str text) => if minLength ≤ text.length ∧ text.length ≤ maxLength then some text else none
  | _ => none

/-- `additionalProperties: false`. -/
def onlyProperties (payload : Dict String Json) (names : List String) : Bool :=
  payload.entries.all fun e => decide (e.1 ∈ names)

/-- `reserve_capacity_payload.schema.json`: the text of `lease_expires_at` in a payload that conforms. -/
def reserveCapacityPayload (c : MessageContracts) (payload : Dict String Json) : Option String :=
  if onlyProperties payload ["lease_expires_at"] then
    match payload.get? "lease_expires_at" with
    | some (.str text) => if c.isDateTime text then some text else none
    | _ => none
  else none

/-- `commit_reservation_payload.schema.json`: job and stage. -/
def commitReservationPayload (payload : Dict String Json) : Option (String × String) :=
  if onlyProperties payload ["job_id", "stage_id"] then
    match textProperty payload "job_id" 1 128, textProperty payload "stage_id" 1 128 with
    | some jobId, some stageId => some (jobId, stageId)
    | _, _ => none
  else none

/-- `cancel_job_payload.schema.json`. -/
def cancelJobPayload (payload : Dict String Json) : Option Unit :=
  if onlyProperties payload ["reason", "cutoff_policy"] then
    match textProperty payload "reason" 1 512, payload.get? "cutoff_policy" with
    | some _, some (.str policy) => if policy = "stop_new_billable_work" then some () else none
    | _, _ => none
  else none

/-! ### The dispatch -/

/-- `_parse_lease`, of the text of the payload. -/
def parseLease (c : MessageContracts) (env : ControlEnvelope) (raw : String) : Except ControlExn UtcTime :=
  match c.fromisoformat raw with
  | none => .error (badPayload env "lease_expires_at must be RFC3339 date-time")
  | some (.naive _) => .error (badPayload env "lease_expires_at must include timezone")
  | some (.aware value) =>
    match value.astimezone with
    | none => .error (.store (.overflow "date value out of range"))
    | some utc => .ok utc

def request (env : ControlEnvelope) : Request :=
  { requestId := env.requestId
    expectedRevision := env.expectedRevision
    requestFingerprint := fingerprint env }

/-- A store command, with its exceptions as the dispatch lets them through. -/
def perform (s : StateStore) (now : UtcTime) (c : Command) : Except ControlExn CommandResult × StateStore :=
  ((c.run s now).1.mapError .store, (c.run s now).2)

/-- `dispatch_control_envelope`; a message whose contract is known has a call, so that its last `raise` is
never reached. -/
def dispatchControlEnvelope (c : MessageContracts) (s : StateStore) (now : UtcTime) (env : ControlEnvelope) :
    Except ControlExn CommandResult × StateStore :=
  let violation := badPayload env (c.violation env.messageType env.payload)
  if env.messageType = "ReserveCapacity" then
    match reserveCapacityPayload c env.payload with
    | none => (.error violation, s)
    | some raw =>
      match parseLease c env raw with
      | .error e => (.error e, s)
      | .ok expiresAt =>
        perform s now (.leaseReservation env.targetId (request env) (.aware expiresAt.aware))
  else if env.messageType = "CommitReservation" then
    match commitReservationPayload env.payload with
    | none => (.error violation, s)
    | some (jobId, stageId) => perform s now (.commitReservation env.targetId (request env) jobId stageId)
  else if env.messageType = "CancelJob" then
    match cancelJobPayload env.payload with
    | none => (.error violation, s)
    | some () => perform s now (.transitionJob env.targetId (request env) .cancelled)
  else
    (.error (.fault ⟨"UNSUPPORTED_MESSAGE", "incompatible", false,
      "unsupported message_type " ++ env.messageType, some env.requestId,
      [("message_type", env.messageType)]⟩), s)

/-- The command an envelope stands for, if its payload conforms. -/
def commandOf (c : MessageContracts) (env : ControlEnvelope) : Option Command :=
  if env.messageType = "ReserveCapacity" then
    match (reserveCapacityPayload c env.payload).map (parseLease c env) with
    | some (.ok expiresAt) => some (.leaseReservation env.targetId (request env) (.aware expiresAt.aware))
    | _ => none
  else if env.messageType = "CommitReservation" then
    (commitReservationPayload env.payload).map fun b =>
      .commitReservation env.targetId (request env) b.1 b.2
  else if env.messageType = "CancelJob" then
    (cancelJobPayload env.payload).map fun _ => .transitionJob env.targetId (request env) .cancelled
  else none

/-- **An envelope is refused and leaves the store alone, or is one command of the store.** -/
theorem dispatch_snd (c : MessageContracts) (s : StateStore) (now : UtcTime) (env : ControlEnvelope) :
    (dispatchControlEnvelope c s now env).2
      = match commandOf c env with
        | none => s
        | some command => (command.run s now).2 := by
  unfold dispatchControlEnvelope commandOf
  by_cases hreserve : env.messageType = "ReserveCapacity"
  · simp only [if_pos hreserve]
    rcases hp : reserveCapacityPayload c env.payload with _ | raw
    · rfl
    · rcases hl : parseLease c env raw with e | expiresAt
      · simp only [Option.map_some, hl]
      · simp only [Option.map_some, hl]
        rfl
  · by_cases hcommit : env.messageType = "CommitReservation"
    · simp only [if_neg hreserve, if_pos hcommit]
      rcases hp : commitReservationPayload env.payload with _ | ⟨jobId, stageId⟩ <;> rfl
    · by_cases hcancel : env.messageType = "CancelJob"
      · simp only [if_neg hreserve, if_neg hcommit, if_pos hcancel]
        rcases hp : cancelJobPayload env.payload with _ | u <;> rfl
      · simp only [if_neg hreserve, if_neg hcommit, if_neg hcancel]

end ControlHandlers

end ComputeMesh.Orchestrator
