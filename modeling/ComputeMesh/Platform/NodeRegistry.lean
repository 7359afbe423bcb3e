import ComputeMesh.Lib.Checks
import ComputeMesh.Lib.Json
import ComputeMesh.Lib.Table

/-!
# The node registry

The inventory of discovered nodes and the lifecycle that leads a node from its discovery to routing.  Every method that
changes a node reads its row, checks the state it is in and writes the row back, in one transaction.

* `NodeLifecycle`, `transitions` — the states and the transitions `_transition` permits;
* `NodeRecord.transition`, `change` — a change of one row, with `change_eq_ok_iff`;
* `discover`, `recordCapabilities`, …, `revoke` — the methods on one node;
* `reconcileStaleNodes`, `routableNodes` — the sweep over all nodes and the nodes that may be routed to.

The event journal is left out: nothing reads it.
-/

namespace ComputeMesh.Platform

open ComputeMesh.Text

inductive NodeFailure
  | valueError (message : String)
  | keyError (message : String)
  | stateConflict (message : String)
  deriving DecidableEq, Repr

inductive NodeLifecycle
  | discovered
  | reachable
  | capabilityProbed
  | identityVerified
  | authenticated
  | prepared
  | ready
  | active
  | draining
  | quarantined
  | failed
  | revoked
  deriving DecidableEq, Repr

namespace NodeLifecycle

def value : NodeLifecycle → String
  | discovered => "discovered"
  | reachable => "reachable"
  | capabilityProbed => "capability_probed"
  | identityVerified => "identity_verified"
  | authenticated => "authenticated"
  | prepared => "prepared"
  | ready => "ready"
  | active => "active"
  | draining => "draining"
  | quarantined => "quarantined"
  | failed => "failed"
  | revoked => "revoked"

def transitions : NodeLifecycle → List NodeLifecycle
  | discovered => [reachable, quarantined, revoked]
  | reachable => [capabilityProbed, quarantined, failed, revoked]
  | capabilityProbed => [identityVerified, quarantined, revoked]
  | identityVerified => [authenticated, quarantined, revoked]
  | authenticated => [prepared, quarantined, revoked]
  | prepared => [ready, quarantined, revoked]
  | ready => [active, draining, quarantined, revoked]
  | active => [draining, quarantined, revoked]
  | draining => [ready, quarantined, revoked]
  | quarantined => [reachable, revoked]
  | failed => [reachable, quarantined, revoked]
  | revoked => []

end NodeLifecycle

/-- The pattern of a SHA-256 digest. -/
def isDigest (text : String) : Bool :=
  text.toList.length = 64 && text.toList.all fun c => c.isDigit || ('a' ≤ c && c ≤ 'f') || ('A' ≤ c && c ≤ 'F')

/-- A row of `mesh_nodes`, stored under its node id. -/
structure NodeRecord where
  endpoint : String
  discoverySource : String
  status : NodeLifecycle := .discovered
  principalId : String := ""
  identityKeyId : String := ""
  capabilities : List String := []
  models : List (Dict String Json) := []
  profileRevision : Option ℕ := none
  benchmark : Dict String Json := .empty
  authRequired : Bool := false
  reason : String := ""
  version : ℕ := 1
  firstSeen : ℚ
  lastSeen : ℚ
  updatedAt : ℚ

abbrev MeshNodes := Dict String NodeRecord

namespace NodeRecord

variable {row row' : NodeRecord} {target : NodeLifecycle} {reason : String} {now : ℚ}

/-- A write: the version goes up, and the time of the update is kept. -/
def touch (row : NodeRecord) (now : ℚ) : NodeRecord := { row with version := row.version + 1, updatedAt := now }

def moved (row : NodeRecord) (target : NodeLifecycle) (reason : String) (now : ℚ) : NodeRecord :=
  { row.touch now with status := target, reason := firstChars 512 reason }

/-- `_transition`, on the row that was read. -/
def transition (row : NodeRecord) (target : NodeLifecycle) (reason : String) (now : ℚ) : Except NodeFailure NodeRecord :=
  if target ≠ row.status ∧ target ∉ row.status.transitions then
    .error (.stateConflict ("invalid node transition: " ++ row.status.value ++ " -> " ++ target.value))
  else .ok (row.moved target reason now)

theorem transition_eq_ok_iff : row.transition target reason now = .ok row' ↔
      (target = row.status ∨ target ∈ row.status.transitions) ∧ row' = row.moved target reason now := by
  rw [transition, ite_error_eq_ok_iff, Except.ok.injEq, not_and_or, not_not, not_not, eq_comm (a := row')]

/-- The row may be routed to. -/
def routable (row : NodeRecord) : Bool :=
  decide (row.status ∈ [NodeLifecycle.ready, .active]) && !row.authRequired && decide (row.identityKeyId ≠ "")
    && decide (row.principalId ≠ "")

end NodeRecord

/-- What a capability probe reports. -/
structure NodeInventory where
  capabilities : List String
  models : List (Dict String Json)
  profileRevision : ℤ

/-- `tuple(sorted(set(…)))` of the capabilities that are not empty. -/
def cleanCapabilities (capabilities : List String) : List String :=
  ((capabilities.filter fun value => value ≠ "").eraseDups).insertionSort (· ≤ ·)

/-- The checks of an inventory, which come before the transaction. -/
def checkInventory (inventory : NodeInventory) : Except NodeFailure Unit :=
  if ¬(0 ≤ inventory.profileRevision ∧ inventory.profileRevision ≤ 2 ^ 63 - 1) then
    .error (.valueError "profile_revision must be non-negative")
  else if (cleanCapabilities inventory.capabilities).length > 256
      ∨ (cleanCapabilities inventory.capabilities).any fun value => value.toList.length > 128 then
    .error (.valueError "capabilities are bounded")
  else if inventory.models.length > 512 then .error (.valueError "models are bounded")
  else .ok ()

def NodeRecord.probed (row : NodeRecord) (inventory : NodeInventory) (now : ℚ) : NodeRecord :=
  { row.touch now with
    capabilities := cleanCapabilities inventory.capabilities
    models := inventory.models
    profileRevision := some inventory.profileRevision.toNat
    lastSeen := now }

namespace MeshNodes

variable {t t' : MeshNodes} {nodeId : String} {row row' : NodeRecord}
  {f : NodeRecord → Except NodeFailure NodeRecord}

/-- `_require`, and `get`. -/
def require (t : MeshNodes) (nodeId : String) : Except NodeFailure NodeRecord :=
  match t.get? nodeId with
  | some row => .ok row
  | none => .error (.keyError ("unknown mesh node: " ++ nodeId))

/-- A transaction that reads the row of a node and writes it back. -/
def change (t : MeshNodes) (nodeId : String) (f : NodeRecord → Except NodeFailure NodeRecord) :
    Except NodeFailure (NodeRecord × MeshNodes) :=
  t.require nodeId >>= fun row => f row >>= fun row' => .ok (row', t.set nodeId row')

/-- **A transaction on one node** rewrites its row. -/
theorem change_eq_ok_iff :
    t.change nodeId f = .ok (row', t') ↔ ∃ row, t.get? nodeId = some row ∧ f row = .ok row' ∧ t' = t.set nodeId row' := by
  unfold change require
  rw [bind_eq_ok_iff]
  constructor
  · rintro ⟨row, hrow, hrest⟩
    obtain ⟨row'', hf, heq⟩ := bind_eq_ok_iff.mp hrest
    obtain ⟨rfl, rfl⟩ := Prod.mk.inj (Except.ok.inj heq)
    cases hget : t.get? nodeId with
    | none =>
      rw [hget] at hrow
      cases hrow
    | some found =>
      rw [hget] at hrow
      obtain rfl := Except.ok.inj hrow
      exact ⟨found, rfl, hf, rfl⟩
  · rintro ⟨row, hget, hf, rfl⟩
    refine ⟨row, by rw [hget], ?_⟩
    rw [hf]
    rfl

/-! ### The methods -/

def validateNode (nodeId endpoint discoverySource : String) : Except NodeFailure Unit :=
  if isIdentifier 160 nodeId = false then .error (.valueError "invalid node_id")
  else if ¬(1 ≤ endpoint.toList.length ∧ endpoint.toList.length ≤ 512) then
    .error (.valueError "endpoint must be 1..512 characters")
  else if ¬(1 ≤ discoverySource.toList.length ∧ discoverySource.toList.length ≤ 128) then
    .error (.valueError "discovery_source must be 1..128 characters")
  else .ok ()

/-- The row that a discovery leaves. -/
def seen (prior : Option NodeRecord) (endpoint discoverySource : String) (now : ℚ) : NodeRecord :=
  match prior with
  | none => { endpoint, discoverySource, firstSeen := now, lastSeen := now, updatedAt := now }
  | some row =>
    if row.status ≠ .revoked then { row.touch now with endpoint, discoverySource, lastSeen := now } else row

def discover (t : MeshNodes) (nodeId endpoint discoverySource : String) (now : ℚ) :
    Except NodeFailure (NodeRecord × MeshNodes) :=
  validateNode nodeId endpoint discoverySource >>= fun _ =>
    let row := seen (t.get? nodeId) endpoint discoverySource now
    .ok (row, t.set nodeId row)

def markReachable (t : MeshNodes) (nodeId : String) (now : ℚ) : Except NodeFailure (NodeRecord × MeshNodes) :=
  t.change nodeId fun row => row.transition .reachable "" now

def recordCapabilities (t : MeshNodes) (nodeId : String) (inventory : NodeInventory) (now : ℚ) :
    Except NodeFailure (NodeRecord × MeshNodes) :=
  checkInventory inventory >>= fun _ =>
    t.change nodeId fun row =>
      if row.status ≠ .reachable then
        .error (.stateConflict ("capability probe is not allowed in state " ++ row.status.value))
      else (row.probed inventory now).transition .capabilityProbed "" now

/-- The states in which an inventory may be refreshed. -/
def refreshable : List NodeLifecycle := [.capabilityProbed, .identityVerified, .authenticated, .prepared, .ready, .active]

def refreshVerifiedCapabilities (t : MeshNodes) (nodeId : String) (inventory : NodeInventory) (now : ℚ) :
    Except NodeFailure (NodeRecord × MeshNodes) :=
  checkInventory inventory >>= fun _ =>
    t.change nodeId fun row =>
      if row.status ∉ refreshable then
        .error (.stateConflict ("verified capability refresh is not allowed in state " ++ row.status.value))
      else if row.profileRevision.any fun prior => inventory.profileRevision < prior then
        .error (.stateConflict "profile revision moved backwards")
      else .ok (row.probed inventory now)

def verifyIdentity (t : MeshNodes) (nodeId identityKeyId evidenceDigest : String) (now : ℚ) :
    Except NodeFailure (NodeRecord × MeshNodes) :=
  if isIdentifier 160 identityKeyId = false ∨ isDigest evidenceDigest = false then
    .error (.valueError "identity evidence must contain a key id and sha256 digest")
  else
    t.change nodeId fun row =>
      if row.status ≠ .capabilityProbed then
        .error (.stateConflict "identity verification requires a completed capability probe")
      else { row.touch now with identityKeyId }.transition .identityVerified "" now

def markAuthenticated (t : MeshNodes) (nodeId principalId : String) (now : ℚ) :
    Except NodeFailure (NodeRecord × MeshNodes) :=
  if isIdentifier 160 principalId = false then .error (.valueError "invalid principal_id")
  else
    t.change nodeId fun row =>
      if row.status ≠ .identityVerified then
        .error (.stateConflict "authentication requires verified identity")
      else { row.touch now with principalId, authRequired := false }.transition .authenticated "" now

def markPrepared (t : MeshNodes) (nodeId preparationDigest : String) (now : ℚ) :
    Except NodeFailure (NodeRecord × MeshNodes) :=
  if isDigest preparationDigest = false then .error (.valueError "preparation_digest must be a sha256 digest")
  else
    t.change nodeId fun row =>
      if row.status ≠ .authenticated then .error (.stateConflict "preparation requires authentication")
      else { row.touch now with reason := "prepared:" ++ preparationDigest }.transition .prepared "" now

def recordBenchmark (t : MeshNodes) (nodeId : String) (accepted : Bool) (metrics : Dict String Json) (now : ℚ) :
    Except NodeFailure (NodeRecord × MeshNodes) :=
  if metrics.entries.length > 128 then .error (.valueError "benchmark metrics are bounded")
  else
    t.change nodeId fun row =>
      if row.status ≠ .prepared then
        .error (.stateConflict ("benchmark is not allowed in state " ++ row.status.value))
      else
        { row.touch now with benchmark := metrics }.transition (if accepted then .ready else .quarantined)
          (if accepted then "benchmark_accepted" else "benchmark_rejected") now

def markAuthenticationRequired (t : MeshNodes) (nodeId reason : String) (now : ℚ) :
    Except NodeFailure (NodeRecord × MeshNodes) :=
  t.change nodeId fun row =>
    if row.status = .revoked then .ok row
    else { row.touch now with authRequired := true, reason := firstChars 512 reason }.transition .quarantined reason now

def quarantine (t : MeshNodes) (nodeId reason : String) (now : ℚ) : Except NodeFailure (NodeRecord × MeshNodes) :=
  t.change nodeId fun row => row.transition .quarantined reason now

def activate (t : MeshNodes) (nodeId : String) (now : ℚ) : Except NodeFailure (NodeRecord × MeshNodes) :=
  t.change nodeId fun row => row.transition .active "scheduler_activated" now

def drain (t : MeshNodes) (nodeId reason : String) (now : ℚ) : Except NodeFailure (NodeRecord × MeshNodes) :=
  t.change nodeId fun row => row.transition .draining reason now

def revoke (t : MeshNodes) (nodeId reason : String) (now : ℚ) : Except NodeFailure (NodeRecord × MeshNodes) :=
  t.change nodeId fun row => row.transition .revoked reason now

/-- `routable_nodes`, in the order of their ids. -/
def routableNodes (t : MeshNodes) : List (String × NodeRecord) :=
  (t.filter fun _ row => row.routable).entries.insertionSort fun a b => a.1 ≤ b.1

theorem mem_routableNodes : (nodeId, row) ∈ t.routableNodes ↔ t.get? nodeId = some row ∧ row.routable = true := by
  rw [routableNodes, List.mem_insertionSort, Dict.mem_entries_iff, Dict.get?_filter, Option.filter_eq_some_iff]

/-- The reason of a stale node, from the text of its age. -/
def staleReason (age : String) : String := "heartbeat_stale:" ++ age ++ "s"

def stale (maxAge now : ℚ) (row : NodeRecord) : Bool :=
  decide (row.status ∈ [NodeLifecycle.ready, .active]) && decide (maxAge < now - row.lastSeen)

/-- `reconcile_stale_nodes`: every stale node is quarantined.  `ageText` writes an age with three digits. -/
def reconcileStaleNodes (ageText : ℚ → String) (t : MeshNodes) (maxAge current now : ℚ) :
    Except NodeFailure MeshNodes :=
  if maxAge ≤ 0 then .error (.valueError "max_age_seconds must be positive")
  else
    .ok (t.mapValues fun row =>
      if stale maxAge current row then
        row.moved .quarantined (staleReason (ageText (min (current - row.lastSeen) 9999999999))) now
      else row)

end MeshNodes

end ComputeMesh.Platform
