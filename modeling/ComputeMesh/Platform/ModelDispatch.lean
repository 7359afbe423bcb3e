import ComputeMesh.Platform.LeaseCapacity

/-!
# Model dispatch

Calls of the lease-bound dispatcher, each a thread: it asks the router for candidates, reserves a lease on one of them,
announces the attempt, runs the executor under the lease and gives the lease back, and may then try again.

* `DispatchCall`, `DispatchPhase` — a call and how far it has come;
* `DispatchMove`, `DispatchCall.step` — one step of a call, with what the environment does at it: the router and the
  registry, the event sinks, the executor, a cancellation and the clock;
* `DispatchWorld.step` — any number of calls over one lease store.

The router is handed to the dispatcher, so its answers are part of the environment.
-/

namespace ComputeMesh.Platform

inductive DispatchFailure
  | dispatchError (message : String)
  | noCapableNode (message : String)
  | node (failure : NodeFailure)
  | lease (failure : LeaseFailure)
  | sink (message : String)
  | executor (kind : String)
  deriving DecidableEq, Repr

/-- The settings of a dispatcher. -/
structure Dispatcher where
  maxAttempts : ℕ := 1
  retryable : DispatchFailure → Bool
  bounds : 1 ≤ maxAttempts ∧ maxAttempts ≤ 8

/-- The arguments of `dispatch`, with the parts of the route requirement it reads. -/
structure DispatchRequest where
  sessionId : String
  turnId : String
  modelId : String
  requiredModel : Option String := none
  excludedNodeIds : List String := []
  payload : Json := .null
  idempotencyKey : String
  capacityLimit : ℤ := 1
  requestedSlots : ℤ := 1
  ttlSeconds : ℤ := 300

/-- What `dispatch` reads of a candidate of the router. -/
structure RouteCandidate where
  nodeId : String
  accepted : Bool

/-- What `dispatch` reads of a response: the texts of its node and its model, if it names them. -/
structure ModelResponse where
  nodeId : Option String := none
  model : Option String := none
  deriving DecidableEq, Repr

inductive ExecutorAnswer
  | object (response : ModelResponse)
  | nonObject
  | raised (failure : DispatchFailure)
  /-- An exception that is no `Exception`, such as an interrupt. -/
  | aborted (failure : DispatchFailure)

/-- What the event sink of the dispatcher does with an event: nothing, or raise. -/
abbrev DispatchSink := String → Except DispatchFailure Unit

/-- How a call goes on once its lease is given back. -/
inductive AfterRelease
  | answer (response : ModelResponse)
  | raise (failure : DispatchFailure)
  | retry (failure : DispatchFailure)

inductive DispatchPhase
  | entered
  | routing
  | reserving (candidates : List String) (denied : Bool)
  /-- The lease is reserved, and the attempt not yet announced. -/
  | reserved (leaseId : String) (lease : NodeLease)
  /-- The executor is running under the lease. -/
  | running (leaseId : String) (lease : NodeLease)
  | releasing (leaseId : String) (lease : NodeLease) (next : AfterRelease)
  | finished (outcome : Except DispatchFailure ModelResponse)

/-- A call of `dispatch`, with the ids of the leases it has reserved. -/
structure DispatchCall where
  dispatcher : Dispatcher
  request : DispatchRequest
  phase : DispatchPhase := .entered
  attempt : ℕ := 0
  excluded : List String
  lastError : Option DispatchFailure := none
  reservedIds : List String := []

namespace DispatchRequest

/-- `_validate_request`, of a payload that can be serialized. -/
def validate (q : DispatchRequest) : Except DispatchFailure Unit :=
  if (Json.dumps q.payload).utf8ByteSize > 4 * 1024 * 1024 then
    .error (.dispatchError "model request exceeds the dispatch size limit")
  else .ok ()

def attemptKey (q : DispatchRequest) (attempt : ℕ) : String :=
  if attempt = 0 then q.idempotencyKey else q.idempotencyKey ++ ":retry:" ++ toString (attempt + 1)

def leaseRequest (q : DispatchRequest) (nodeId : String) (attempt : ℕ) : LeaseRequest where
  nodeId := nodeId
  sessionId := q.sessionId
  turnId := q.turnId
  modelId := q.modelId
  requestedSlots := q.requestedSlots
  capacityLimit := q.capacityLimit
  ttlSeconds := q.ttlSeconds
  idempotencyKey := q.attemptKey attempt

end DispatchRequest

/-- One step of a call, with what the environment does at it. -/
inductive DispatchMove
  | enter (cancelled : Bool)
  | route (cancelled : Bool) (candidates : List RouteCandidate)
  | reserve (cancelled : Bool) (nodes : MeshNodes) (leaseSink : LeaseSink) (sink : DispatchSink) (hex : String) (now : ℚ)
  | announce (sink : DispatchSink)
  | answer (answer : ExecutorAnswer) (cancelled : Bool) (sink : DispatchSink)
  | release (leaseSink : LeaseSink) (now : ℚ)

namespace DispatchCall

variable {c : DispatchCall} {t : LeaseTable}

def cancelledError : DispatchFailure := .dispatchError "model dispatch was cancelled"

/-- The call raises. -/
def fail (c : DispatchCall) (failure : DispatchFailure) : DispatchCall := { c with phase := .finished (.error failure) }

/-- The checks before the first attempt. -/
def enter (c : DispatchCall) (cancelled : Bool) : DispatchCall :=
  if cancelled then c.fail cancelledError
  else if c.request.requiredModel.any fun model => model ≠ c.request.modelId then
    c.fail (.dispatchError "route requirement model does not match dispatch model")
  else
    match c.request.validate with
    | .error e => c.fail e
    | .ok _ => { c with phase := .routing }

/-- The start of an attempt: the candidates the router accepts and that are not excluded. -/
def route (c : DispatchCall) (cancelled : Bool) (candidates : List RouteCandidate) : DispatchCall :=
  if c.dispatcher.maxAttempts ≤ c.attempt then c.fail (.dispatchError "model dispatch exhausted its retry budget")
  else if cancelled then c.fail cancelledError
  else
    match (candidates.filter fun candidate => candidate.accepted && decide (candidate.nodeId ∉ c.excluded)).map
        RouteCandidate.nodeId with
    | [] =>
      if c.lastError.isSome then
        c.fail (.dispatchError "no fallback node satisfies the model capability requirement")
      else c.fail (.noCapableNode "no verified node satisfies the model capability requirement")
    | candidate :: rest => { c with phase := .reserving (candidate :: rest) false }

/-- What the call makes of the answer of `reserve` on a candidate. -/
def reserveAnswered (c : DispatchCall) (sink : DispatchSink) (candidate : String) (rest : List String) :
    Except LeaseFailure ((String × NodeLease) × LeaseTable) → DispatchCall
  | .error (.denied _) =>
    let c := { c with excluded := candidate :: c.excluded }
    match sink "mesh.dispatch.capacity_skipped" with
    | .error e => c.fail e
    | .ok _ => { c with phase := .reserving rest true }
  | .error e => c.fail (.lease e)
  | .ok ((leaseId, lease), _) =>
    let c := { c with reservedIds := leaseId :: c.reservedIds }
    if lease.status ≠ .active then
      c.fail (.dispatchError "dispatch idempotency key refers to a closed node lease")
    else { c with attempt := c.attempt + 1, phase := .reserved leaseId lease }

/-- The next candidate of the attempt. -/
def reserve (c : DispatchCall) (t : LeaseTable) (cancelled : Bool) (nodes : MeshNodes) (leaseSink : LeaseSink)
    (sink : DispatchSink) (hex : String) (now : ℚ) (candidates : List String) (denied : Bool) : DispatchCall × LeaseTable :=
  match candidates with
  | [] =>
    (c.fail (.dispatchError
      (if denied then "no capable node has available capacity" else "no capable node could be reserved")), t)
  | candidate :: rest =>
    if cancelled then (c.fail cancelledError, t)
    else
      match nodes.require candidate with
      | .error e => (c.fail (.node e), t)
      | .ok _ =>
        let answer := t.reserve nodes leaseSink (c.request.leaseRequest candidate c.attempt) hex now
        (c.reserveAnswered sink candidate rest answer, committed t answer)

/-- The event of the attempt, before the `try`. -/
def announce (c : DispatchCall) (sink : DispatchSink) (leaseId : String) (lease : NodeLease) : DispatchCall :=
  match sink "mesh.dispatch.started" with
  | .error e => c.fail e
  | .ok _ => { c with phase := .running leaseId lease }

/-- The checks of the executor's answer, up to the event of the completion. -/
def checkAnswer (c : DispatchCall) (nodeId : String) (cancelled : Bool) (sink : DispatchSink) :
    ExecutorAnswer → Except DispatchFailure ModelResponse
  | .raised e => .error e
  | .aborted e => .error e
  | .nonObject =>
    .error (if cancelled then cancelledError else .dispatchError "model executor returned a non-object response")
  | .object response =>
    if cancelled then .error cancelledError
    else if response.nodeId.any fun returned => returned ≠ nodeId then
      .error (.dispatchError "model response node binding mismatch")
    else if response.model.any fun returned => returned ≠ c.request.modelId then
      .error (.dispatchError "model response model binding mismatch")
    else sink "mesh.dispatch.completed" >>= fun _ => .ok response

/-- The `except` block. -/
def handle (c : DispatchCall) (sink : DispatchSink) (failure : DispatchFailure) : AfterRelease :=
  match sink "mesh.dispatch.failed" with
  | .error e => .raise e
  | .ok _ =>
    if c.dispatcher.maxAttempts ≤ c.attempt ∨ c.dispatcher.retryable failure = false then .raise failure
    else
      match sink "mesh.dispatch.retrying" with
      | .error e => .raise e
      | .ok _ => .retry failure

/-- How the call goes on after the executor's answer. -/
def next (c : DispatchCall) (nodeId : String) (cancelled : Bool) (sink : DispatchSink) (answer : ExecutorAnswer) :
    AfterRelease :=
  match answer, c.checkAnswer nodeId cancelled sink answer with
  | .aborted e, _ => .raise e
  | _, .ok response => .answer response
  | _, .error e => c.handle sink e

/-- The call once its lease is given back. -/
def goOn (c : DispatchCall) (nodeId : String) : AfterRelease → DispatchCall
  | .answer response => { c with phase := .finished (.ok response) }
  | .raise e => c.fail e
  | .retry e => { c with phase := .routing, excluded := nodeId :: c.excluded, lastError := some e }

/-- The `finally` block. -/
def release (c : DispatchCall) (t : LeaseTable) (leaseSink : LeaseSink) (now : ℚ) (leaseId : String) (lease : NodeLease)
    (next : AfterRelease) : DispatchCall × LeaseTable :=
  let answer := t.release leaseSink leaseId now
  (match answer with
    | .error e => c.fail (.lease e)
    | .ok _ => c.goOn lease.nodeId next,
    committed t answer)

/-- One step of the call.  A move that does not fit the phase changes nothing. -/
def step (t : LeaseTable) (c : DispatchCall) (move : DispatchMove) : DispatchCall × LeaseTable :=
  match c.phase, move with
  | .entered, .enter cancelled => (c.enter cancelled, t)
  | .routing, .route cancelled candidates => (c.route cancelled candidates, t)
  | .reserving candidates denied, .reserve cancelled nodes leaseSink sink hex now =>
    c.reserve t cancelled nodes leaseSink sink hex now candidates denied
  | .reserved leaseId lease, .announce sink => (c.announce sink leaseId lease, t)
  | .running leaseId lease, .answer answer cancelled sink =>
    ({ c with phase := .releasing leaseId lease (c.next lease.nodeId cancelled sink answer) }, t)
  | .releasing leaseId lease next, .release leaseSink now => c.release t leaseSink now leaseId lease next
  | _, _ => (c, t)

end DispatchCall

/-- The lease store, the calls, and the latest reading of the clock. -/
structure DispatchWorld where
  leases : LeaseTable := .empty
  calls : Dict ℕ DispatchCall := .empty
  clock : ℚ := 0

/-- A new call, or a step of one. -/
inductive DispatchInput
  | submit (i : ℕ) (dispatcher : Dispatcher) (request : DispatchRequest)
  | move (i : ℕ) (m : DispatchMove)

def DispatchMove.reading : DispatchMove → Option ℚ
  | .reserve _ _ _ _ _ now => some now
  | .release _ now => some now
  | _ => none

namespace DispatchWorld

/-- The latest reading of the clock after a move. -/
def clockAfter (clock : ℚ) (m : DispatchMove) : ℚ := (m.reading.map (max clock)).getD clock

def step (s : DispatchWorld) : DispatchInput → DispatchWorld
  | .submit i dispatcher request =>
    if s.calls.contains i then s
    else { s with calls := s.calls.set i { dispatcher, request, excluded := request.excludedNodeIds } }
  | .move i m =>
    match s.calls.get? i with
    | none => s
    | some c =>
      let after := c.step s.leases m
      { leases := after.2, calls := s.calls.set i after.1, clock := clockAfter s.clock m }

end DispatchWorld

end ComputeMesh.Platform
