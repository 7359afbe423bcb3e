import ComputeMesh.Platform.NodeRegistry

/-!
# Node onboarding

The coordinator leads a node from its discovery to routing: it announces the node, probes it and takes it through the
methods of the registry, one after another, each in a transaction of its own.

* `NodeObservation`, `ProbeReport` — what a probe answers, and what of it vouches for a node;
* `NodeOp`, `NodeOp.run` — the methods of the registry on one node;
* `OnboardCall.plan` — **the next step of a call of `onboard`**, a method of the registry or a move on its own;
* `NodeTrail` — which observations a node owes its row to;
* `NodeWorld.step` — any number of such calls, next to any other callers of the registry.

A probe that answers with a mapping has it read into an observation, and raises when that is not possible; both are answers
of a probe here.
-/

namespace ComputeMesh.Platform

structure NodeIdentity where
  keyId : String
  principalId : String
  deriving DecidableEq, Repr

def NodeRecord.identity (row : NodeRecord) : NodeIdentity := ⟨row.identityKeyId, row.principalId⟩

/-- An identity that was observed at an address. -/
structure NodeEvidence where
  identity : NodeIdentity
  endpoint : String
  deriving DecidableEq, Repr

/-! ### What a probe answers -/

/-- `NodeOnboardingObservation`. -/
structure NodeObservation where
  inventory : NodeInventory
  identityKeyId : Option String := none
  identityEvidenceDigest : Option String := none
  principalId : Option String := none
  preparationDigest : Option String := none
  benchmarkAccepted : Option Bool := none
  benchmarkMetrics : Dict String Json := .empty
  authenticationRequired : Bool := false

/-- What of a probe vouches for the node: the observation with the identity it carries, and the address it was made at. -/
structure ProbeReport where
  observation : NodeObservation
  keyId : String
  evidenceDigest : String
  principalId : String
  endpoint : String

def ProbeReport.evidence (r : ProbeReport) : NodeEvidence := ⟨⟨r.keyId, r.principalId⟩, r.endpoint⟩

namespace NodeObservation

/-- The text, if there is one, has one to so many characters. -/
def bounded (n : ℕ) : Option String → Bool
  | none => true
  | some text => decide (1 ≤ text.toList.length ∧ text.toList.length ≤ n)

/-- `__post_init__`. -/
def check (o : NodeObservation) : Except NodeFailure Unit :=
  if ¬(0 ≤ o.inventory.profileRevision ∧ o.inventory.profileRevision ≤ 2 ^ 63 - 1) then
    .error (.valueError "profile_revision must be a non-negative integer")
  else if o.inventory.capabilities.length > 256 ∨ ¬o.inventory.capabilities.all fun value => bounded 128 (some value) then
    .error (.valueError "capabilities are bounded")
  else if o.inventory.models.length > 512 then .error (.valueError "models are bounded objects")
  else if o.benchmarkMetrics.entries.length > 128 then .error (.valueError "benchmark_metrics must be a bounded object")
  else if bounded 160 o.identityKeyId = false then .error (.valueError "identity_key_id is bounded")
  else if bounded 160 o.principalId = false then .error (.valueError "principal_id is bounded")
  else if o.identityEvidenceDigest.any fun digest => !isDigest digest then
    .error (.valueError "identity_evidence_digest must be a SHA-256 digest")
  else if o.preparationDigest.any fun digest => !isDigest digest then
    .error (.valueError "preparation_digest must be a SHA-256 digest")
  else .ok ()

/-- The report of an observation that carries a whole identity and asks for no authentication. -/
def report (o : NodeObservation) (endpoint : String) : Option ProbeReport :=
  if o.authenticationRequired then none
  else
    match o.identityKeyId, o.identityEvidenceDigest, o.principalId with
    | some keyId, some evidenceDigest, some principalId => some ⟨o, keyId, evidenceDigest, principalId, endpoint⟩
    | _, _, _ => none

end NodeObservation

inductive ProbeAnswer
  | observed (o : NodeObservation)
  /-- `NodeAuthenticationRequired`. -/
  | authenticationRequired (text : String)
  | raised
  /-- An exception that `onboard` does not catch. -/
  | escaped (kind : String)

inductive PrepareAnswer
  | absent
  | digest (text : String)
  | raised
  | escaped (kind : String)

inductive BenchmarkAnswer
  /-- No benchmark was given, or its answer is neither a pair nor a mapping. -/
  | absent
  | answered (accepted : Option Bool) (metrics : Dict String Json)
  | raised
  | escaped (kind : String)

/-! ### The methods of the registry -/

inductive NodeOp
  | discover (endpoint discoverySource : String)
  | get
  | markReachable
  | recordCapabilities (inventory : NodeInventory)
  | refreshVerifiedCapabilities (inventory : NodeInventory)
  | verifyIdentity (identityKeyId evidenceDigest : String)
  | markAuthenticated (principalId : String)
  | markPrepared (preparationDigest : String)
  | recordBenchmark (accepted : Bool) (metrics : Dict String Json)
  | markAuthenticationRequired (reason : String)
  | quarantine (reason : String)
  | activate
  | drain (reason : String)
  | revoke (reason : String)

def NodeOp.run (op : NodeOp) (t : MeshNodes) (nodeId : String) (now : ℚ) : Except NodeFailure (NodeRecord × MeshNodes) :=
  match op with
  | .discover endpoint discoverySource => t.discover nodeId endpoint discoverySource now
  | .get => (t.require nodeId).map fun row => (row, t)
  | .markReachable => t.markReachable nodeId now
  | .recordCapabilities inventory => t.recordCapabilities nodeId inventory now
  | .refreshVerifiedCapabilities inventory => t.refreshVerifiedCapabilities nodeId inventory now
  | .verifyIdentity identityKeyId evidenceDigest => t.verifyIdentity nodeId identityKeyId evidenceDigest now
  | .markAuthenticated principalId => t.markAuthenticated nodeId principalId now
  | .markPrepared preparationDigest => t.markPrepared nodeId preparationDigest now
  | .recordBenchmark accepted metrics => t.recordBenchmark nodeId accepted metrics now
  | .markAuthenticationRequired reason => t.markAuthenticationRequired nodeId reason now
  | .quarantine reason => t.quarantine nodeId reason now
  | .activate => t.activate nodeId now
  | .drain reason => t.drain nodeId reason now
  | .revoke reason => t.revoke nodeId reason now

/-- A use of the registry: the method, the node, what was observed of the node on that occasion, and the time. -/
structure NodeAccess where
  nodeId : String
  op : NodeOp
  evidence : Option NodeEvidence := none
  now : ℚ := 0

/-! ### The calls of `onboard` -/

/-- The arguments of `onboard`. -/
structure OnboardRequest where
  nodeId : String
  endpoint : String
  discoverySource : String := "lan"

structure NodeOnboardingResult where
  status : String
  node : NodeRecord
  manualPairingRequired : Bool := false
  reason : String := ""

inductive OnboardFailure
  | registry (failure : NodeFailure)
  | escaped (kind : String)

inductive OnboardPhase
  | entered
  | probing (node : NodeRecord)
  | pairing (reason : String)
  | failing (reason : String)
  | refetching (reason : String)
  | reading (r : ProbeReport)
  | working (r : ProbeReport) (node : NodeRecord)
  | finished (outcome : Except OnboardFailure NodeOnboardingResult)

structure OnboardCall where
  request : OnboardRequest
  phase : OnboardPhase := .entered

/-- One step of a call, with what the probe and the adapters answer and the time. -/
inductive OnboardMove
  | access (now : ℚ)
  | probe (answer : ProbeAnswer)
  | advance (prepare : PrepareAnswer) (benchmark : BenchmarkAnswer) (now : ℚ)

/-- What a step of a call is. -/
inductive OnboardPlan
  /-- The call takes no such step now. -/
  | idle
  | become (phase : OnboardPhase)
  | access (a : NodeAccess) (next : Except NodeFailure NodeRecord → OnboardPhase)

namespace OnboardCall

/-- `_quarantine`, for a failure inside `onboard`. -/
def failed : OnboardPhase := .failing "onboarding_failed"

/-- How the call goes on after a method inside the `try` block. -/
def inside (next : NodeRecord → OnboardPhase) : Except NodeFailure NodeRecord → OnboardPhase
  | .error _ => failed
  | .ok node => next node

/-- How the call goes on after a method outside of it. -/
def outside (next : NodeRecord → OnboardPhase) : Except NodeFailure NodeRecord → OnboardPhase
  | .error e => .finished (.error (.registry e))
  | .ok node => next node

/-- The result for a node that is not routable at the end. -/
def unready (node : NodeRecord) : NodeOnboardingResult :=
  ⟨"quarantined", node, false, if node.reason = "" then node.status.value else node.reason⟩

def probed (node : NodeRecord) : ProbeAnswer → OnboardPhase
  | .authenticationRequired text => .pairing (if text = "" then "manual_pairing_required" else text)
  | .raised => .failing "probe_failed"
  | .escaped kind => .finished (.error (.escaped kind))
  | .observed o =>
    match o.check with
    | .error _ => .failing "probe_failed"
    | .ok () =>
      match o.report node.endpoint with
      | none => .pairing "manual_pairing_required"
      | some r => .reading r

/-- The preparation of the node. -/
def prepareNode (access : NodeOp → (NodeRecord → OnboardPhase) → OnboardPlan) (r : ProbeReport) (node : NodeRecord)
    (prepare : PrepareAnswer) : OnboardPlan :=
  let required := OnboardPlan.become (.finished (.ok ⟨"preparation_required", node, false, "preparation_required"⟩))
  let marked := fun text => if text = "" then required else access (.markPrepared text) (.working r)
  match r.observation.preparationDigest, prepare with
  | some text, _ => marked text
  | none, .absent => required
  | none, .digest text => marked text
  | none, .raised => .become failed
  | none, .escaped kind => .become (.finished (.error (.escaped kind)))

def benchmarkNode (access : NodeOp → (NodeRecord → OnboardPhase) → OnboardPlan) (r : ProbeReport) (node : NodeRecord)
    (benchmark : BenchmarkAnswer) : OnboardPlan :=
  let marked := fun (accepted : Option Bool) (metrics : Dict String Json) =>
    match accepted with
    | none => OnboardPlan.become (.finished (.ok ⟨"benchmark_required", node, false, "benchmark_required"⟩))
    | some accepted =>
      access (.recordBenchmark accepted metrics) fun node =>
        .finished (.ok (if node.status ∈ [NodeLifecycle.ready, .active] then ⟨"ready", node, false, ""⟩ else unready node))
  match benchmark with
  | .absent => marked r.observation.benchmarkAccepted r.observation.benchmarkMetrics
  | .answered accepted metrics => marked accepted metrics
  | .raised => .become failed
  | .escaped kind => .become (.finished (.error (.escaped kind)))

/-- The gates of the `try` block.  Each method leaves the node in the state of the next gate, so the state that was read
last tells the gate. -/
def gate (access : NodeOp → (NodeRecord → OnboardPhase) → OnboardPlan) (r : ProbeReport) (node : NodeRecord)
    (prepare : PrepareAnswer) (benchmark : BenchmarkAnswer) : OnboardPlan :=
  match node.status with
  | .discovered | .quarantined | .failed => access .markReachable (.working r)
  | .reachable => access (.recordCapabilities r.observation.inventory) (.working r)
  | .ready | .active =>
    access (.refreshVerifiedCapabilities r.observation.inventory) fun node =>
      .finished (.ok ⟨"ready", node, false, "capabilities_refreshed"⟩)
  | .capabilityProbed => access (.verifyIdentity r.keyId r.evidenceDigest) (.working r)
  | .identityVerified => access (.markAuthenticated r.principalId) (.working r)
  | .authenticated => prepareNode access r node prepare
  | .prepared => benchmarkNode access r node benchmark
  | .draining | .revoked => .become (.finished (.ok (unready node)))

/-- **The next step of a call.** -/
def plan (c : OnboardCall) (m : OnboardMove) : OnboardPlan :=
  match c.phase, m with
  | .entered, .access now =>
    .access { nodeId := c.request.nodeId, op := .discover c.request.endpoint c.request.discoverySource, now } <|
      outside fun node =>
        if node.status = .revoked then .finished (.ok ⟨"failed", node, false, "node_revoked"⟩) else .probing node
  | .probing node, .probe answer => .become (probed node answer)
  | .pairing reason, .access now =>
    .access { nodeId := c.request.nodeId, op := .markAuthenticationRequired reason, now } <|
      outside fun node => .finished (.ok ⟨"manual_pairing_required", node, true, reason⟩)
  | .failing reason, .access now =>
    .access { nodeId := c.request.nodeId, op := .quarantine reason, now } fun
      | .error _ => .refetching reason
      | .ok node => .finished (.ok ⟨"failed", node, false, reason⟩)
  | .refetching reason, .access now =>
    .access { nodeId := c.request.nodeId, op := .get, now } <|
      outside fun node => .finished (.ok ⟨"failed", node, false, reason⟩)
  | .reading r, .access now => .access { nodeId := c.request.nodeId, op := .get, now } (inside (.working r))
  | .working r node, .advance prepare benchmark now =>
    gate (fun op next => .access { nodeId := c.request.nodeId, op, evidence := some r.evidence, now } (inside next))
      r node prepare benchmark
  | _, _ => .idle

end OnboardCall

/-! ### What a node owes its row to -/

/-- The stages of an admission. -/
inductive NodeStage
  | probed
  | identified (keyId : String)
  | authenticated (principalId : String)
  | prepared
  | benchmarked
  deriving DecidableEq, Repr

/-- The stages a node has passed since it became reachable last, newest first, and the identities that the observations
carried from which its endpoint, its capabilities and the time it was seen come. -/
structure NodeTrail where
  stages : List NodeStage := []
  endpoint : Option NodeIdentity := none
  capabilities : Option NodeIdentity := none
  lastSeen : Option NodeIdentity := none
  deriving DecidableEq, Repr

namespace NodeTrail

/-- An observation at the address that is recorded for the node vouches for it, and for the node being there. -/
def vouched (trail : NodeTrail) (evidence : Option NodeEvidence) (row : NodeRecord) : NodeTrail :=
  match evidence with
  | none => trail
  | some e =>
    if e.endpoint = row.endpoint then { trail with endpoint := some e.identity, lastSeen := some e.identity } else trail

/-- The inventory of the node is that of an observation. -/
def inventoried (trail : NodeTrail) (evidence : Option NodeEvidence) : NodeTrail :=
  { trail with capabilities := evidence.map (·.identity), lastSeen := evidence.map (·.identity) }

def passed (trail : NodeTrail) (stage : NodeStage) : NodeTrail := { trail with stages := stage :: trail.stages }

/-- What a method that has succeeded and left the row does to the trail of its node. -/
def after (trail : NodeTrail) (op : NodeOp) (evidence : Option NodeEvidence) (row : NodeRecord) : NodeTrail :=
  match op with
  | .discover _ _ =>
    if row.status = .revoked then trail else { trail with endpoint := none, lastSeen := none }.vouched evidence row
  | .markReachable => { trail with stages := [] }
  | .recordCapabilities _ => ((trail.passed .probed).inventoried evidence).vouched evidence row
  | .refreshVerifiedCapabilities _ => (trail.inventoried evidence).vouched evidence row
  | .verifyIdentity keyId _ => (trail.passed (.identified keyId)).vouched evidence row
  | .markAuthenticated principalId => (trail.passed (.authenticated principalId)).vouched evidence row
  | .markPrepared _ => (trail.passed .prepared).vouched evidence row
  | .recordBenchmark accepted _ => (if accepted then trail.passed .benchmarked else trail).vouched evidence row
  | .get | .markAuthenticationRequired _ | .quarantine _ | .activate | .drain _ | .revoke _ => trail

end NodeTrail

/-! ### Any number of calls -/

/-- The registry, with the trail of each node, and the calls of `onboard`. -/
structure NodeWorld where
  nodes : MeshNodes := .empty
  trails : Dict String NodeTrail := .empty
  calls : Dict ℕ OnboardCall := .empty

inductive NodeInput
  /-- A method of the registry, called by anyone, with what the caller has observed. -/
  | registry (a : NodeAccess)
  | reconcile (ageText : ℚ → String) (maxAge current now : ℚ)
  | submit (i : ℕ) (request : OnboardRequest)
  | move (i : ℕ) (m : OnboardMove)

namespace NodeWorld

def trail (s : NodeWorld) (nodeId : String) : NodeTrail := s.trails.getD nodeId {}

/-- A use of the registry. -/
def perform (s : NodeWorld) (a : NodeAccess) : Except NodeFailure NodeRecord × NodeWorld :=
  match a.op.run s.nodes a.nodeId a.now with
  | .error e => (.error e, s)
  | .ok (row, nodes) =>
    (.ok row, { s with nodes, trails := s.trails.set a.nodeId ((s.trail a.nodeId).after a.op a.evidence row) })

def step (s : NodeWorld) (input : NodeInput) : NodeWorld :=
  match input with
  | .registry a => (s.perform a).2
  | .reconcile ageText maxAge current now =>
    match s.nodes.reconcileStaleNodes ageText maxAge current now with
    | .error _ => s
    | .ok nodes => { s with nodes }
  | .submit i request => if s.calls.contains i then s else { s with calls := s.calls.set i { request } }
  | .move i m =>
    match s.calls.get? i with
    | none => s
    | some c =>
      match c.plan m with
      | .idle => s
      | .become phase => { s with calls := s.calls.set i { c with phase } }
      | .access a next =>
        let r := s.perform a
        { r.2 with calls := r.2.calls.set i { c with phase := next r.1 } }

/-- The use of the registry that an input is, if it is one. -/
def accessOf (s : NodeWorld) : NodeInput → Option NodeAccess
  | .registry a => some a
  | .reconcile _ _ _ _ | .submit _ _ => none
  | .move i m =>
    match s.calls.get? i with
    | none => none
    | some c =>
      match c.plan m with
      | .access a _ => some a
      | _ => none

end NodeWorld

end ComputeMesh.Platform
