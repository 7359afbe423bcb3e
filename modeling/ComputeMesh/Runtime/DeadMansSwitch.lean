import ComputeMesh.Lib.Datetime
import ComputeMesh.Lib.Hex
import ComputeMesh.Lib.JsonAscii

/-!
# The dead man's switch of a node

`ExecutionLease` and `DeadMansLeaseGuard` of `runtime/safety/dead_mans_switch.py`.  Every method holds the lock for
all that it does and reads the clock at most once, so a method is a function of the guard and of that reading.

* `ExecutionLease.fromDict`, `canonicalBytes`, `isExpired` — a lease, what is signed of it, and when it ends;
* `DeadMansLeaseGuard.updateLease` — what a lease does to the guard, with the state that an exception leaves;
* `isAuthorized` / `assertAuthorized` — the two decision functions;
* `KillSwitchOp.run` — any operation of the guard.
-/

namespace ComputeMesh.Runtime

open ComputeMesh.Text

/-- The exceptions of the guard, with their texts. -/
inductive KillSwitchError
  | authorizationLeaseExpired (message : String)
  | emergencyKillTripped (message : String)
  | invalidLeaseSignature (message : String)
  | valueError (message : String)
  | conversionError (message : String)
  deriving DecidableEq

/-! ### What the guard calls -/

/-- The built-in conversions of values that are not strings, the decimals of `json.dumps(round(x, 3))`,
`datetime.fromisoformat`, the text of a time, of the error of `bytes.fromhex`, and `verify_ed25519_signature`. -/
structure LeaseLibrary (Seconds : Type) where
  str : Json → String
  float : Json → Except String Seconds
  dict : Json → Except String (Dict String Json)
  roundedRepr : Seconds → String
  fromisoformat : String → Option Datetime
  utcIso : UtcTime → String
  fromhexError : String → String
  verifyEd25519Signature : ByteArray → ByteArray → ByteArray → Bool

variable {Seconds : Type}

/-- `str(value or default)`. -/
def LeaseLibrary.strOr (lib : LeaseLibrary Seconds) (value : Option Json) (default : String) : String :=
  match value with
  | none => default
  | some (.str text) => if text = "" then default else text
  | some value => if value.truthy then lib.str value else default

/-! ### Leases -/

structure ExecutionLease (Seconds : Type) where
  leaseId : String
  nodeId : String
  issuedAtIso : String
  expiresAtIso : String
  ttlSeconds : Seconds
  scope : String := "cluster:all"
  triplineStatus : String := "armed"
  signatureHex : String := ""
  metadata : Dict String Json := .empty

namespace ExecutionLease

/-- `canonical_bytes`: compact JSON with sorted keys, in ASCII. -/
def canonicalBytes (lib : LeaseLibrary Seconds) (lease : ExecutionLease Seconds) : ByteArray :=
  (Json.dumpsObject
    [("lease_id", String.ofList (JsonAscii.asciiText lease.leaseId)),
     ("node_id", String.ofList (JsonAscii.asciiText lease.nodeId)),
     ("issued_at_iso", String.ofList (JsonAscii.asciiText lease.issuedAtIso)),
     ("expires_at_iso", String.ofList (JsonAscii.asciiText lease.expiresAtIso)),
     ("ttl_seconds", lib.roundedRepr lease.ttlSeconds),
     ("scope", String.ofList (JsonAscii.asciiText lease.scope)),
     ("tripline_status", String.ofList (JsonAscii.asciiText lease.triplineStatus))]).toUTF8

/-- `is_expired`: a text that is no datetime, or one without a time zone, counts as expired. -/
def isExpired (lib : LeaseLibrary Seconds) (lease : ExecutionLease Seconds) (now : UtcTime) : Bool :=
  match lib.fromisoformat lease.expiresAtIso with
  | some (.aware expires) => decide (expires.instant ≤ now.micros)
  | _ => true

def fromDict (lib : LeaseLibrary Seconds) (data : Dict String Json) :
    Except KillSwitchError (ExecutionLease Seconds) := do
  let ttlSeconds ← (lib.float (data.getD "ttl_seconds" (.float "0.0" (some 0)))).mapError .conversionError
  let metadata ← match data.get? "metadata" with
    | none => .ok .empty
    | some value => if value.truthy then (lib.dict value).mapError .conversionError else .ok .empty
  return {
    leaseId := lib.strOr (data.get? "lease_id") ""
    nodeId := lib.strOr (data.get? "node_id") ""
    issuedAtIso := lib.strOr (data.get? "issued_at_iso") ""
    expiresAtIso := lib.strOr (data.get? "expires_at_iso") ""
    ttlSeconds
    scope := lib.strOr (data.get? "scope") "cluster:all"
    triplineStatus := lib.strOr (data.get? "tripline_status") "armed"
    signatureHex := lib.strOr (data.get? "signature_hex") ""
    metadata }

/-- The statuses with which a supervisor takes its authorization back. -/
def revokes (lease : ExecutionLease Seconds) : Prop :=
  lease.triplineStatus = "tripped" ∨ lease.triplineStatus = "revoked"

instance (lease : ExecutionLease Seconds) : Decidable lease.revokes :=
  inferInstanceAs (Decidable (_ ∨ _))

end ExecutionLease

/-- What `update_lease` takes: a lease, or the dict that one is made from. -/
inductive LeaseInput (Seconds : Type)
  | object (lease : ExecutionLease Seconds)
  | dict (data : Dict String Json)

def LeaseInput.toLease (lib : LeaseLibrary Seconds) :
    LeaseInput Seconds → Except KillSwitchError (ExecutionLease Seconds)
  | .object lease => .ok lease
  | .dict data => ExecutionLease.fromDict lib data

/-! ### Trips of one fleet or node -/

/-- A row of `_fleet_trips` (`owner_id`) or of `_node_trips` (`node_id`). -/
structure ScopedTrip where
  scopeId : String
  isTripped : Bool
  tripReason : String
  tripTimestamp : String
  deriving DecidableEq

/-- What `trip_fleet` and `trip_node` do to their table; `missing` is the text of the `ValueError`. -/
def tripIn (missing : String) (trips : Dict String ScopedTrip) (scopeId reason stamp : String) :
    Except KillSwitchError (ScopedTrip × Dict String ScopedTrip) :=
  let clean := strip scopeId
  if clean = "" then .error (.valueError missing)
  else
    let trip : ScopedTrip := ⟨clean, true, reason, stamp⟩
    .ok (trip, trips.set clean trip)

/-- What `reset_fleet` and `reset_node` do to their table. -/
def resetIn (trips : Dict String ScopedTrip) (scopeId : String) : Bool × Dict String ScopedTrip :=
  let clean := strip scopeId
  if trips.contains clean then (true, trips.erase clean) else (false, trips)

/-- Whether a fleet or node has a row that says so; `None` and the empty name have none. -/
def trippedIn (trips : Dict String ScopedTrip) : Option String → Bool
  | none => false
  | some scopeId => if scopeId = "" then false else ((trips.get? (strip scopeId)).map (·.isTripped)).getD false

def reasonIn (trips : Dict String ScopedTrip) : Option String → Option String
  | none => none
  | some scopeId => if scopeId = "" then none else (trips.get? (strip scopeId)).map (·.tripReason)

/-! ### The guard -/

structure DeadMansLeaseGuard (Seconds : Type) where
  nodeId : String
  supervisorPublicKeyHex : Option String
  activeLease : Option (ExecutionLease Seconds) := none
  isTripped : Bool := false
  tripReason : Option String := none
  tripTimestamp : Option String := none
  fleetTrips : Dict String ScopedTrip := .empty
  nodeTrips : Dict String ScopedTrip := .empty

namespace DeadMansLeaseGuard

variable (lib : LeaseLibrary Seconds) (g : DeadMansLeaseGuard Seconds)

/-- A new guard. -/
def init (nodeId : String) (supervisorPublicKeyHex : Option String) : DeadMansLeaseGuard Seconds :=
  { nodeId := textOr nodeId "node-unknown", supervisorPublicKeyHex }

def trip (reason : String) (now : UtcTime) : DeadMansLeaseGuard Seconds :=
  { g with isTripped := true, tripReason := some reason, tripTimestamp := some (lib.utcIso now), activeLease := none }

def reset : DeadMansLeaseGuard Seconds :=
  { g with isTripped := false, tripReason := none, tripTimestamp := none, activeLease := none }

def tripFleet (ownerId reason : String) (now : UtcTime) :
    Except KillSwitchError (ScopedTrip × DeadMansLeaseGuard Seconds) := do
  let (trip, trips) ← tripIn "owner_id is required for fleet-scoped emergency stop" g.fleetTrips ownerId reason
    (lib.utcIso now)
  return (trip, { g with fleetTrips := trips })

def resetFleet (ownerId : String) : Bool × DeadMansLeaseGuard Seconds :=
  let (found, trips) := resetIn g.fleetTrips ownerId
  (found, { g with fleetTrips := trips })

def isFleetTripped (ownerId : Option String) : Bool := g.isTripped || trippedIn g.fleetTrips ownerId

def getFleetTripReason (ownerId : Option String) : Option String :=
  if g.isTripped then g.tripReason else reasonIn g.fleetTrips ownerId

def tripNode (nodeId reason : String) (now : UtcTime) :
    Except KillSwitchError (ScopedTrip × DeadMansLeaseGuard Seconds) := do
  let (trip, trips) ← tripIn "node_id is required for node-scoped emergency stop" g.nodeTrips nodeId reason
    (lib.utcIso now)
  return (trip, { g with nodeTrips := trips })

def resetNode (nodeId : String) : Bool × DeadMansLeaseGuard Seconds :=
  let (found, trips) := resetIn g.nodeTrips nodeId
  (found, { g with nodeTrips := trips })

def isNodeTripped (nodeId : Option String) : Bool := g.isTripped || trippedIn g.nodeTrips nodeId

def getNodeTripReason (nodeId : Option String) : Option String :=
  if g.isTripped then g.tripReason else reasonIn g.nodeTrips nodeId

/-- How Python writes an optional text into a message. -/
def shown (text : Option String) : String := text.getD "None"

/-- The signature check of `update_lease`. -/
def checkSignature (keyHex : String) (lease : ExecutionLease Seconds) : Except KillSwitchError Unit :=
  if lease.signatureHex = "" then .error (.invalidLeaseSignature "Lease missing required signature_hex")
  else
    match bytesFromHex keyHex, bytesFromHex lease.signatureHex with
    | none, _ => .error (.invalidLeaseSignature ("Signature decoding failed: " ++ lib.fromhexError keyHex))
    | some _, none =>
      .error (.invalidLeaseSignature ("Signature decoding failed: " ++ lib.fromhexError lease.signatureHex))
    | some publicKey, some signature =>
      if lib.verifyEd25519Signature publicKey (lease.canonicalBytes lib) signature then .ok ()
      else .error (.invalidLeaseSignature ("Ed25519 signature invalid on lease " ++ lease.leaseId))

/-- `update_lease`, once the lease is read: the answer, and the guard after it. -/
def ingest (lease : ExecutionLease Seconds) (verifySignature : Bool) (now : UtcTime) :
    Except KillSwitchError Bool × DeadMansLeaseGuard Seconds :=
  if g.isTripped then
    (.error (.emergencyKillTripped ("Kill switch is tripped: " ++ shown g.tripReason)), g)
  else if lease.revokes then
    -- the guard is tripped before anything of the lease is verified
    let reason := "Supervisor revoked authorization: " ++ lease.triplineStatus
    (.error (.emergencyKillTripped reason), g.trip lib reason now)
  else if lease.isExpired lib now then
    (.error (.authorizationLeaseExpired ("Received lease " ++ lease.leaseId ++ " is already expired")), g)
  else
    let key := g.supervisorPublicKeyHex.getD ""
    let checked := if verifySignature ∧ key ≠ "" then checkSignature lib key lease else .ok ()
    match checked with
    | .error e => (.error e, g)
    | .ok () => (.ok true, { g with activeLease := some lease })

def updateLease (input : LeaseInput Seconds) (verifySignature : Bool) (now : UtcTime) :
    Except KillSwitchError Bool × DeadMansLeaseGuard Seconds :=
  match input.toLease lib with
  | .error e => (.error e, g)
  | .ok lease => g.ingest lib lease verifySignature now

def isAuthorized (ownerId nodeId : Option String) (now : UtcTime) : Bool :=
  if g.isTripped then false
  else if ownerId.getD "" ≠ "" ∧ g.isFleetTripped ownerId then false
  else if nodeId.getD "" ≠ "" ∧ g.isNodeTripped nodeId then false
  else
    match g.activeLease with
    | none => false
    | some lease => !lease.isExpired lib now

def assertAuthorized (ownerId nodeId : Option String) (now : UtcTime) :
    Except KillSwitchError (ExecutionLease Seconds) :=
  if g.isTripped then
    .error (.emergencyKillTripped
      ("Execution blocked: Global Platform Kill Switch is active (" ++ shown g.tripReason ++ ")"))
  else if ownerId.getD "" ≠ "" ∧ g.isFleetTripped ownerId then
    .error (.emergencyKillTripped ("Execution blocked: Fleet '" ++ ownerId.getD "" ++ "' is stopped ("
      ++ shown (g.getFleetTripReason ownerId) ++ ")"))
  else if nodeId.getD "" ≠ "" ∧ g.isNodeTripped nodeId then
    .error (.emergencyKillTripped ("Execution blocked: Node '" ++ nodeId.getD "" ++ "' is stopped ("
      ++ shown (g.getNodeTripReason nodeId) ++ ")"))
  else
    match g.activeLease with
    | none => .error (.authorizationLeaseExpired "Execution blocked: No active positive authorization lease")
    | some lease =>
      if lease.isExpired lib now then
        .error (.authorizationLeaseExpired ("Execution blocked: Authorization lease " ++ lease.leaseId
          ++ " expired at " ++ lease.expiresAtIso))
      else .ok lease

end DeadMansLeaseGuard

/-- An operation of the guard, with the time at which it reads the clock. -/
inductive KillSwitchOp (Seconds : Type)
  | updateLease (input : LeaseInput Seconds) (verifySignature : Bool) (now : UtcTime)
  | trip (reason : String) (now : UtcTime)
  | reset
  | tripFleet (ownerId reason : String) (now : UtcTime)
  | resetFleet (ownerId : String)
  | tripNode (nodeId reason : String) (now : UtcTime)
  | resetNode (nodeId : String)

/-- The guard after an operation; an exception of a trip leaves it as it was. -/
def KillSwitchOp.run (lib : LeaseLibrary Seconds) (g : DeadMansLeaseGuard Seconds) :
    KillSwitchOp Seconds → DeadMansLeaseGuard Seconds
  | .updateLease input verifySignature now => (g.updateLease lib input verifySignature now).2
  | .trip reason now => g.trip lib reason now
  | .reset => g.reset
  | .tripFleet ownerId reason now =>
    match g.tripFleet lib ownerId reason now with
    | .ok (_, g') => g'
    | .error _ => g
  | .resetFleet ownerId => (g.resetFleet ownerId).2
  | .tripNode nodeId reason now =>
    match g.tripNode lib nodeId reason now with
    | .ok (_, g') => g'
    | .error _ => g
  | .resetNode nodeId => (g.resetNode nodeId).2

end ComputeMesh.Runtime
