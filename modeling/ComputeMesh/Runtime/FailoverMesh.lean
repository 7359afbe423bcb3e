import ComputeMesh.Lib.Fuel
import ComputeMesh.Lib.Hmac
import ComputeMesh.Lib.Json

/-!
# The failover mesh

`EndToEndLatencyOptimizer` and `AutonomousFailoverMeshFabric` of `runtime/autonomous_failover_mesh.py`, with what the
peers do as an input of each call.  A loop that waits for a peer is a function of its fuel.  The metrics and the
failover history, which nothing reads, are left out; `exchanges` records what went over the network.

* `getOptimalRoute` — the route a call takes;
* `performHandshake` — a handshake, to the authentication that it leaves behind;
* `connectToNode`, `handleConnectionFailure`, `executeWork` — the three calls;
* `MeshOp.run` — any call.
-/

namespace ComputeMesh.Runtime

open ComputeMesh.Sha256

/-- The exceptions: `OSError` with its subclasses `TimeoutError` and `ConnectionRefusedError`, and the others. -/
inductive MeshError
  | os (message : String)
  | other (name : String)
  deriving DecidableEq

/-- What `json.loads(data.decode("utf-8").strip())` raises. -/
inductive LoadsError
  | unicodeDecode
  | jsonDecode
  deriving DecidableEq

/-- The arithmetic of the floats, and reading JSON. -/
structure MeshLibrary (F : Type) where
  /-- `old * 0.7 + new * 0.3` -/
  ewma : F → F → F
  /-- `error_rate < 0.1` -/
  healthy : F → Bool
  zero : F
  one : F
  /-- the order of `(latency_ms, -bandwidth_mbps)`, on latency and bandwidth -/
  keyLe : F × F → F × F → Bool
  loads : List UInt8 → Except LoadsError Json
  str : Json → String

variable {F : Type}

/-! ### Routes -/

/-- `MeshRoute`, under its `route_id` in the optimizer's table. -/
structure MeshRoute (F : Type) where
  targetNodeId : String
  host : String
  port : ℤ
  latencyMs : F
  bandwidthMbps : F
  errorRate : F
  isActive : Bool := true

structure EndToEndLatencyOptimizer (F : Type) where
  routes : Dict String (MeshRoute F) := .empty

namespace EndToEndLatencyOptimizer

variable (lib : MeshLibrary F) (o : EndToEndLatencyOptimizer F)

def registerRoute (routeId targetNodeId host : String) (port : ℤ) (latencyMs bandwidthMbps : F) :
    EndToEndLatencyOptimizer F :=
  ⟨o.routes.set routeId { targetNodeId, host, port, latencyMs, bandwidthMbps, errorRate := lib.zero }⟩

/-- Change the route of an id, where there is one. -/
def update (routeId : String) (change : MeshRoute F → MeshRoute F) : EndToEndLatencyOptimizer F :=
  match o.routes.get? routeId with
  | none => o
  | some route => ⟨o.routes.set routeId (change route)⟩

def updateRouteMetrics (routeId : String) (latencyMs errorRate : F) : EndToEndLatencyOptimizer F :=
  o.update routeId fun route => { route with latencyMs := lib.ewma route.latencyMs latencyMs, errorRate }

/-- A failed route is taken out of the choice. -/
def deactivate (routeId : String) : EndToEndLatencyOptimizer F :=
  o.update routeId fun route => { route with isActive := false, errorRate := lib.one }

def candidates (targetNodeId : String) : List (String × MeshRoute F) :=
  o.routes.entries.filter fun entry =>
    decide (entry.2.targetNodeId = targetNodeId) && entry.2.isActive && lib.healthy entry.2.errorRate

/-- `get_optimal_route`: the lowest latency, then the highest bandwidth. -/
def getOptimalRoute (targetNodeId : String) : Option (String × MeshRoute F) :=
  ((o.candidates lib targetNodeId).insertionSort fun a b =>
    lib.keyLe (a.2.latencyMs, a.2.bandwidthMbps) (b.2.latencyMs, b.2.bandwidthMbps) = true).head?

end EndToEndLatencyOptimizer

/-! ### The peers -/

/-- What a `recv` gives: some bytes, the end of the stream, or an exception. -/
inductive Recv
  | bytes (first : UInt8) (rest : List UInt8)
  | closed
  | failed (e : MeshError)

/-- A handshake over a new connection: its fresh identifiers, and how the peer and the clock behave. -/
structure HandshakeAttempt where
  sessionId : String
  requestId : String
  connect : Except MeshError Unit
  sendall : Except MeshError Unit
  late : ℕ → Bool
  reply : ℕ → Recv

/-- A job sent over a new connection. -/
structure JobAttempt where
  sessionId : String
  connect : Except MeshError Unit
  reply : ℕ → Recv

/-- How the peers behave during one call: at the handshake of `connect_to_node`, at those of the replacement
routes in turn, and at the jobs in turn. -/
structure Peers where
  primary : HandshakeAttempt
  replacement : ℕ → HandshakeAttempt
  job : ℕ → JobAttempt

/-! ### The fabric -/

structure AutonomousFailoverMeshFabric (F : Type) where
  optimizer : EndToEndLatencyOptimizer F
  authSecret : Option String
  requirePeerAuth : Bool
  activeConnections : Dict String String := .empty
  lastHandshakeAuthenticated : Bool := false
  processedJobs : List String := []

/-- The secret, where one is configured; the empty text counts as none. -/
def AutonomousFailoverMeshFabric.secret (f : AutonomousFailoverMeshFabric F) : Option String :=
  f.authSecret.filter (· ≠ "")

/-- What went over the network: the request, and the answer as it was read. -/
inductive MeshExchange
  | handshake (targetNodeId routeId : String) (a : HandshakeAttempt) (answer : Option Json) (accepted : Bool)
  | job (jobId routeId : String) (request : List (String × Json)) (answer : Option Json)

/-- A fabric with the exchanges so far, the newest first. -/
structure MeshState (F : Type) where
  fabric : AutonomousFailoverMeshFabric F
  exchanges : List MeshExchange := []

namespace MeshState

variable (m : MeshState F)

def record (e : MeshExchange) : MeshState F := { m with exchanges := e :: m.exchanges }

def mapRoutes (change : EndToEndLatencyOptimizer F → EndToEndLatencyOptimizer F) : MeshState F :=
  { m with fabric := { m.fabric with optimizer := change m.fabric.optimizer } }

def setActive (targetNodeId tag : String) : MeshState F :=
  { m with fabric := { m.fabric with activeConnections := m.fabric.activeConnections.set targetNodeId tag } }

def dropActive (targetNodeId : String) : MeshState F :=
  { m with fabric := { m.fabric with activeConnections := m.fabric.activeConnections.erase targetNodeId } }

def addProcessed (jobId : String) : MeshState F :=
  { m with fabric := { m.fabric with processedJobs := jobId :: m.fabric.processedJobs } }

end MeshState

/-! ### Handshakes -/

/-- `hmac.compare_digest`, of a value that the peer sent. -/
def compareDigest (value : Json) (expected : String) : Except MeshError Bool :=
  match value with
  | .str text =>
    if text.toList.all fun c => decide (c.toNat < 128) then .ok (decide (text = expected))
    else .error (.other "TypeError")
  | _ => .error (.other "TypeError")

/-- The MAC that an acknowledgement has to carry. -/
def ackMac (key targetNodeId : String) (a : HandshakeAttempt) : String :=
  hmacHex key ("ACK:" ++ a.sessionId ++ ":" ++ a.requestId ++ ":" ++ targetNodeId)

def newline : UInt8 := 10

/-- The receive loop of a handshake: the bytes up to the first chunk with a newline, `none` where the peer closes
or sends too much. -/
def receiveHandshake (a : HandshakeAttempt) : ℕ → ℕ → List UInt8 → Option (Except MeshError (Option (List UInt8)))
  | 0, _, _ => none
  | fuel + 1, i, data =>
    if a.late i then some (.error (.os "Handshake timeout"))
    else
      match a.reply i with
      | .failed e => some (.error e)
      | .closed => some (.ok none)
      | .bytes first rest =>
        let data := data ++ (first :: rest).take (min 1024 (4096 - data.length + 1))
        if 4096 < data.length then some (.ok none)
        else if newline ∈ data then some (.ok (some data))
        else receiveHandshake a fuel (i + 1) data

/-- Whether a field of an answer is this text. -/
def fieldIs (fields : List (String × Json)) (key expected : String) : Bool :=
  match Dict.find key fields with
  | some (.str text) => decide (text = expected)
  | _ => false

/-- The checks of an acknowledgement: whether it is accepted, and whether the peer has authenticated itself. -/
def checkAck (f : AutonomousFailoverMeshFabric F) (targetNodeId : String) (a : HandshakeAttempt) (answer : Json) :
    Except MeshError (Bool × Bool) :=
  match answer with
  | .obj fields =>
    if !fieldIs fields "type" "ACK" || !fieldIs fields "session_id" a.sessionId
        || !fieldIs fields "request_id" a.requestId || !fieldIs fields "target_node_id" targetNodeId then
      .ok (false, false)
    else
      let respMac := (Dict.find "auth_mac" fields).getD .null
      if f.requirePeerAuth then
        match f.secret with
        | none => .ok (false, false)
        | some key =>
          if !respMac.truthy then .ok (false, false)
          else (compareDigest respMac (ackMac key targetNodeId a)).map fun same => (same, same)
      else
        match f.secret with
        | none => .ok (true, false)
        | some key =>
          if !respMac.truthy then .ok (true, false)
          else (compareDigest respMac (ackMac key targetNodeId a)).map fun same => (true, same)
  | _ => .error (.other "AttributeError")

structure HandshakeEnd where
  result : Except MeshError Bool
  authenticated : Bool := false
  answer : Option Json := none

/-- What `_perform_handshake` makes of the bytes it has received. -/
def endHandshake (lib : MeshLibrary F) (f : AutonomousFailoverMeshFabric F) (targetNodeId : String)
    (a : HandshakeAttempt) : Except MeshError (Option (List UInt8)) → HandshakeEnd
  | .error e => { result := .error e }
  | .ok none => { result := .ok false }
  | .ok (some data) =>
    match lib.loads data with
    | .error .jsonDecode => { result := .ok false }
    | .error .unicodeDecode => { result := .error (.other "UnicodeDecodeError") }
    | .ok answer =>
      match checkAck f targetNodeId a answer with
      | .error e => { result := .error e, answer := some answer }
      | .ok (accepted, authenticated) => { result := .ok accepted, authenticated, answer := some answer }

def performHandshake (lib : MeshLibrary F) (f : AutonomousFailoverMeshFabric F) (targetNodeId : String)
    (a : HandshakeAttempt) (fuel : ℕ) : Option HandshakeEnd :=
  match a.sendall with
  | .error e => some { result := .error e }
  | .ok () => (receiveHandshake a fuel 0 []).bind fun received => some (endHandshake lib f targetNodeId a received)

/-- What a handshake leaves on a new connection: a refused one raises an `OSError`. -/
def afterHandshake (targetNodeId routeId : String) (a : HandshakeAttempt) (m : MeshState F) (ended : HandshakeEnd) :
    Except MeshError Unit × MeshState F :=
  let m : MeshState F := { m with fabric := { m.fabric with lastHandshakeAuthenticated := ended.authenticated } }
  match ended.result with
  | .error e => (.error e, m.record (.handshake targetNodeId routeId a ended.answer false))
  | .ok false => (.error (.os "Handshake verification failed"),
      m.record (.handshake targetNodeId routeId a ended.answer false))
  | .ok true => (.ok (), m.record (.handshake targetNodeId routeId a ended.answer true))

/-- A new connection to a route with its handshake. -/
def probe (lib : MeshLibrary F) (targetNodeId routeId : String) (a : HandshakeAttempt) (fuel : ℕ) (m : MeshState F) :
    Option (Except MeshError Unit × MeshState F) :=
  match a.connect with
  | .error e => some (.error e, m.record (.handshake targetNodeId routeId a none false))
  | .ok () =>
    (performHandshake lib m.fabric targetNodeId a fuel).bind fun ended =>
      some (afterHandshake targetNodeId routeId a m ended)

/-! ### Connecting and failing over -/

/-- The probes of the replacement routes, from the `n`-th on. -/
def failoverLoop (lib : MeshLibrary F) (peers : Peers) (targetNodeId : String) : ℕ → ℕ → MeshState F →
    Option (Except MeshError Bool × MeshState F × ℕ)
  | 0, _, _ => none
  | fuel + 1, n, m =>
    match m.fabric.optimizer.getOptimalRoute lib targetNodeId with
    | none => some (.ok false, m.dropActive targetNodeId, n)
    | some (routeId, _) =>
      (probe lib targetNodeId routeId (peers.replacement n) fuel m).bind fun (result, m) =>
        match result with
        | .ok () => some (.ok true, m.setActive targetNodeId (routeId ++ "_LOCAL_UNAUTHENTICATED_ONLY"), n + 1)
        | .error (.os _) => failoverLoop lib peers targetNodeId fuel (n + 1) (m.mapRoutes (·.deactivate lib routeId))
        | .error e => some (.error e, m, n + 1)

def handleConnectionFailure (lib : MeshLibrary F) (peers : Peers) (targetNodeId failedRouteId : String) (n : ℕ)
    (fuel : ℕ) (m : MeshState F) : Option (Except MeshError Bool × MeshState F × ℕ) :=
  failoverLoop lib peers targetNodeId fuel n (m.mapRoutes (·.deactivate lib failedRouteId))

/-- The tag of a connection that `connect_to_node` records. -/
def statusTag (authenticated : Bool) : String :=
  if authenticated then "_AUTHENTICATED" else "_LOCAL_UNAUTHENTICATED_ONLY"

def connectToNode (lib : MeshLibrary F) (peers : Peers) (targetNodeId : String) (fuel : ℕ) (m : MeshState F) :
    Option (Except MeshError Bool × MeshState F × ℕ) :=
  match m.fabric.optimizer.getOptimalRoute lib targetNodeId with
  | none => some (.ok false, m, 0)
  | some (routeId, route) =>
    (probe lib targetNodeId routeId peers.primary fuel m).bind fun (result, m) =>
      match result with
      | .ok () =>
        some (.ok true, m.setActive targetNodeId (routeId ++ statusTag m.fabric.lastHandshakeAuthenticated), 0)
      | .error (.os _) =>
        handleConnectionFailure lib peers targetNodeId routeId 0 fuel
          (m.mapRoutes (·.updateRouteMetrics lib routeId route.latencyMs lib.one))
      | .error e => some (.error e, m, 0)

/-! ### Work -/

/-- The receive loop of a job: the bytes up to the first chunk with a newline or the end of the stream. -/
def receiveReply (reply : ℕ → Recv) : ℕ → ℕ → List UInt8 → Option (Except MeshError (List UInt8))
  | 0, _, _ => none
  | fuel + 1, i, data =>
    match reply i with
    | .failed e => some (.error e)
    | .closed => some (.ok data)
    | .bytes first rest =>
      let data := data ++ (first :: rest).take 1024
      if newline ∈ data then some (.ok data) else receiveReply reply fuel (i + 1) data

def jobRequest (secret : Option String) (jobId : String) (payload : Json) (a : JobAttempt) : List (String × Json) :=
  [("type", .str "JOB_EXECUTE"), ("job_id", .str jobId), ("session_id", .str a.sessionId), ("payload", payload)] ++
  (secret.map fun key => ("job_mac", .str (hmacHex key ("JOB:" ++ jobId ++ ":" ++ a.sessionId)))).toList

/-- One job sent to one route, to the answer as it is read. -/
def sendJob (lib : MeshLibrary F) (a : JobAttempt) (fuel : ℕ) : Option (Except MeshError Json) :=
  match a.connect with
  | .error e => some (.error e)
  | .ok () =>
    (receiveReply a.reply fuel 0 []).bind fun received =>
      match received with
      | .error e => some (.error e)
      | .ok [] => some (.error (.os "Empty response from worker"))
      | .ok data =>
        match lib.loads data with
        | .ok answer => some (.ok answer)
        | .error _ => some (.error (.other "ValueError"))

def resultMac (lib : MeshLibrary F) (key jobId : String) (status : Json) : String :=
  hmacHex key ("RESULT:" ++ jobId ++ ":" ++ match status with | .str text => text | other => lib.str other)

/-- The dicts that `execute_work` answers with itself. -/
def workError (reason jobId : String) : Json :=
  .obj [("status", .str "error"), ("reason", .str reason), ("job_id", .str jobId)]

def duplicateAnswer (jobId : String) : Json :=
  .obj [("status", .str "duplicate"), ("job_id", .str jobId), ("result", .str "already_executed")]

/-- What is made of an answer: only one that reports `success` or `duplicate` has to carry a MAC, and every other
marks the job as processed as it is. -/
def finishJob (lib : MeshLibrary F) (jobId : String) (answer : Json) (m : MeshState F) : Except MeshError Json × MeshState F :=
  match m.fabric.secret, answer with
  | none, _ => (.ok answer, m.addProcessed jobId)
  | some key, .obj fields =>
    if fieldIs fields "status" "success" || fieldIs fields "status" "duplicate" then
      match compareDigest ((Dict.find "result_mac" fields).getD (.str ""))
          (resultMac lib key jobId ((Dict.find "status" fields).getD .null)) with
      | .error e => (.error e, m)
      | .ok false => (.ok (workError "invalid_worker_result_mac" jobId), m)
      | .ok true => (.ok answer, m.addProcessed jobId)
    else (.ok answer, m.addProcessed jobId)
  | some _, _ => (.error (.other "AttributeError"), m)

/-- The loop of `execute_work`: the `i`-th job sent, the `n`-th replacement probed. -/
def workLoop (lib : MeshLibrary F) (peers : Peers) (targetNodeId jobId : String) (payload : Json) :
    ℕ → ℕ → ℕ → MeshState F → Option (Except MeshError Json × MeshState F)
  | 0, _, _, _ => none
  | fuel + 1, i, n, m =>
    match m.fabric.optimizer.getOptimalRoute lib targetNodeId with
    | none => some (.ok (workError "no_active_route" jobId), m)
    | some (routeId, route) =>
      (sendJob lib (peers.job i) fuel).bind fun sent =>
        let m := m.record (.job jobId routeId (jobRequest m.fabric.secret jobId payload (peers.job i)) sent.toOption)
        match sent with
        | .ok answer => some (finishJob lib jobId answer m)
        | .error (.os _) =>
          (handleConnectionFailure lib peers targetNodeId routeId n fuel
            (m.mapRoutes (·.updateRouteMetrics lib routeId route.latencyMs lib.one))).bind fun (result, m, n) =>
              match result with
              | .error e => some (.error e, m)
              | .ok false => some (.ok (workError "failover_exhausted" jobId), m)
              | .ok true => workLoop lib peers targetNodeId jobId payload fuel (i + 1) n m
        | .error e => some (.error e, m)

def executeWork (lib : MeshLibrary F) (peers : Peers) (targetNodeId jobId : String) (payload : Json) (fuel : ℕ)
    (m : MeshState F) : Option (Except MeshError Json × MeshState F) :=
  if jobId ∈ m.fabric.processedJobs then some (.ok (duplicateAnswer jobId), m)
  else if m.fabric.activeConnections.contains targetNodeId then
    workLoop lib peers targetNodeId jobId payload fuel 0 0 m
  else
    (connectToNode lib peers targetNodeId fuel m).bind fun (connected, m, n) =>
      match connected with
      | .error e => some (.error e, m)
      | .ok false => some (.ok (workError "node_unreachable" jobId), m)
      | .ok true => workLoop lib peers targetNodeId jobId payload fuel 0 n m

/-- A call of the fabric or of its optimizer, with the peers as they behave during it. -/
inductive MeshOp (F : Type)
  | registerRoute (routeId targetNodeId host : String) (port : ℤ) (latencyMs bandwidthMbps : F)
  | updateRouteMetrics (routeId : String) (latencyMs errorRate : F)
  | connectToNode (targetNodeId : String) (peers : Peers)
  | handleConnectionFailure (targetNodeId failedRouteId : String) (peers : Peers)
  | executeWork (targetNodeId jobId : String) (payload : Json) (peers : Peers)

/-- The mesh after a call; `none` while the fuel does not reach. -/
def MeshOp.run (lib : MeshLibrary F) (fuel : ℕ) (m : MeshState F) : MeshOp F → Option (MeshState F)
  | .registerRoute routeId targetNodeId host port latencyMs bandwidthMbps =>
    some (m.mapRoutes (·.registerRoute lib routeId targetNodeId host port latencyMs bandwidthMbps))
  | .updateRouteMetrics routeId latencyMs errorRate =>
    some (m.mapRoutes (·.updateRouteMetrics lib routeId latencyMs errorRate))
  | .connectToNode targetNodeId peers =>
    (Runtime.connectToNode lib peers targetNodeId fuel m).bind fun r => some r.2.1
  | .handleConnectionFailure targetNodeId failedRouteId peers =>
    (Runtime.handleConnectionFailure lib peers targetNodeId failedRouteId 0 fuel m).bind fun r => some r.2.1
  | .executeWork targetNodeId jobId payload peers =>
    (Runtime.executeWork lib peers targetNodeId jobId payload fuel m).bind fun r => some r.2

def runCalls (lib : MeshLibrary F) (fuel : ℕ) : MeshState F → List (MeshOp F) → Option (MeshState F)
  | m, [] => some m
  | m, op :: ops => (op.run lib fuel m).bind fun m => runCalls lib fuel m ops

end ComputeMesh.Runtime
