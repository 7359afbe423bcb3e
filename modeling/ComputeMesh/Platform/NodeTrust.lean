import ComputeMesh.Lib.Run
import ComputeMesh.Platform.NodeOnboarding

/-!
# What routing rests on

A node that may be routed to, and the observations it owes its row to.

* `NodeOp.Effect`, `NodeOp.run_eq_ok` — what a method does to the row of its node;
* `NodeRecord.admission`, `NodeTrail.Sound` — **what the trail of a node says in each state**;
* `NodeOp.Vouched` — what has to be so at a step: the identity that is recorded for the node is the one observed;
* `routing_rests_on_identity` — every state of such a run routes to nodes that were admitted in order and whose row comes
  from observations of the recorded identity;
* `announced_elsewhere` — a bare announcement moves a routable node to another address.
-/

namespace ComputeMesh.Platform

open NodeLifecycle NodeLifecycle MeshNodes Option NodeRecord

variable {t t' : MeshNodes} {nodeId other : String} {row row' : NodeRecord} {prior : Option NodeRecord} {op : NodeOp}
  {target : NodeLifecycle} {reason : String} {now : ℚ} {trail : NodeTrail} {evidence : Option NodeEvidence}

/-! ### What a method does to a row -/

/-- The state and the reason that a method asks for which does nothing else. -/
def NodeOp.asks : NodeOp → Option (NodeLifecycle × String)
  | .markReachable => some (.reachable, "")
  | .quarantine reason => some (.quarantined, reason)
  | .activate => some (.active, "scheduler_activated")
  | .drain reason => some (.draining, reason)
  | .revoke reason => some (.revoked, reason)
  | _ => none

/-- The row that a method leaves, if it succeeds on the row of a node. -/
inductive NodeOp.Effect (now : ℚ) : NodeOp → Option NodeRecord → NodeRecord → Prop
  | discovered (prior : Option NodeRecord) (endpoint discoverySource : String) :
      Effect now (.discover endpoint discoverySource) prior (MeshNodes.seen prior endpoint discoverySource now)
  | got (row : NodeRecord) : Effect now .get (some row) row
  | moved {op : NodeOp} {row : NodeRecord} {target : NodeLifecycle} {reason : String}
      (hop : op.asks = some (target, reason)) (hmove : target = row.status ∨ target ∈ row.status.transitions) :
      Effect now op (some row) (row.moved target reason now)
  | recorded {row : NodeRecord} (inventory : NodeInventory) (hs : row.status = .reachable) :
      Effect now (.recordCapabilities inventory) (some row) ((row.probed inventory now).moved .capabilityProbed "" now)
  | refreshed {row : NodeRecord} (inventory : NodeInventory) (hs : row.status ∈ MeshNodes.refreshable) :
      Effect now (.refreshVerifiedCapabilities inventory) (some row) (row.probed inventory now)
  | identified {row : NodeRecord} (identityKeyId evidenceDigest : String) (hs : row.status = .capabilityProbed) :
      Effect now (.verifyIdentity identityKeyId evidenceDigest) (some row)
        ({ row.touch now with identityKeyId }.moved .identityVerified "" now)
  | authenticated {row : NodeRecord} (principalId : String) (hs : row.status = .identityVerified) :
      Effect now (.markAuthenticated principalId) (some row)
        ({ row.touch now with principalId, authRequired := false }.moved .authenticated "" now)
  | prepared {row : NodeRecord} (preparationDigest : String) (hs : row.status = .authenticated) :
      Effect now (.markPrepared preparationDigest) (some row)
        ({ row.touch now with reason := "prepared:" ++ preparationDigest }.moved .prepared "" now)
  | benchmarked {row : NodeRecord} (accepted : Bool) (metrics : Dict String Json) (reason : String)
      (hs : row.status = .prepared) :
      Effect now (.recordBenchmark accepted metrics) (some row)
        ({ row.touch now with benchmark := metrics }.moved (if accepted then .ready else .quarantined) reason now)
  | distrusted {row : NodeRecord} (reason : String) (hs : row.status ≠ .revoked) :
      Effect now (.markAuthenticationRequired reason) (some row)
        ({ row.touch now with authRequired := true, reason := Text.firstChars 512 reason }.moved .quarantined reason now)
  | distrustedRevoked {row : NodeRecord} (reason : String) (hs : row.status = .revoked) :
      Effect now (.markAuthenticationRequired reason) (some row) row

theorem NodeOp.effect_of_transition (hop : op.asks = some (target, reason))
    (h : t.change nodeId (fun row => row.transition target reason now) = .ok (row', t')) :
    NodeOp.Effect now op (t.get? nodeId) row' ∧ t' = t.set nodeId row' := by
  obtain ⟨row, hget, hrow, rfl⟩ := change_eq_ok_iff.mp h
  obtain ⟨hmove, rfl⟩ := transition_eq_ok_iff.mp hrow
  rw [hget]
  exact ⟨.moved hop hmove, rfl⟩

/-- A stage of the admission is passed from the state before it. -/
theorem NodeOp.effect_of_stage {s : NodeLifecycle} {failure : NodeRecord → NodeFailure} {f : NodeRecord → NodeRecord}
    (h : t.change nodeId (fun row => if row.status ≠ s then .error (failure row) else (f row).transition target reason now)
      = .ok (row', t'))
    (heffect : ∀ row, row.status = s → NodeOp.Effect now op (some row) ((f row).moved target reason now)) :
    NodeOp.Effect now op (t.get? nodeId) row' ∧ t' = t.set nodeId row' := by
  obtain ⟨row, hget, hrow, rfl⟩ := change_eq_ok_iff.mp h
  obtain ⟨hs, hrow⟩ := ite_error_eq_ok_iff.mp hrow
  obtain ⟨-, rfl⟩ := transition_eq_ok_iff.mp hrow
  rw [hget]
  exact ⟨heffect row (not_not.mp hs), rfl⟩

/-- **What a method that succeeds has done**: it has rewritten the row of its node and no other. -/
theorem NodeOp.run_eq_ok (h : op.run t nodeId now = .ok (row', t')) :
    NodeOp.Effect now op (t.get? nodeId) row' ∧ ∀ other, t'.get? other = if other = nodeId then some row' else t.get? other := by
  suffices hset : NodeOp.Effect now op (t.get? nodeId) row' ∧
      (t' = t.set nodeId row' ∨ t' = t ∧ t.get? nodeId = some row') by
    refine ⟨hset.1, fun other => ?_⟩
    rcases hset.2 with rfl | ⟨rfl, hget⟩
    · exact Dict.get?_set _ _ _ _
    · split
      · rename_i heq
        rw [heq, hget]
      · rfl
  cases op with
  | discover endpoint discoverySource =>
    obtain ⟨_, -, h⟩ := bind_eq_ok_iff.mp h
    obtain ⟨rfl, rfl⟩ := Prod.mk.inj (Except.ok.inj h)
    exact ⟨.discovered _ _ _, .inl rfl⟩
  | get =>
    unfold NodeOp.run require at h
    cases hget : t.get? nodeId with
    | none =>
      rw [hget] at h
      cases h
    | some row =>
      rw [hget] at h
      obtain ⟨rfl, rfl⟩ := Prod.mk.inj (Except.ok.inj h)
      exact ⟨.got row, .inr ⟨rfl, rfl⟩⟩
  | markReachable | quarantine reason | activate | drain reason | revoke reason =>
    exact And.imp id .inl (NodeOp.effect_of_transition rfl h)
  | recordCapabilities inventory =>
    obtain ⟨_, -, h⟩ := bind_eq_ok_iff.mp h
    exact And.imp id .inl (NodeOp.effect_of_stage h fun _ hs => .recorded inventory hs)
  | refreshVerifiedCapabilities inventory =>
    obtain ⟨_, -, h⟩ := bind_eq_ok_iff.mp h
    obtain ⟨row, hget, hrow, rfl⟩ := change_eq_ok_iff.mp h
    obtain ⟨hs, hrow⟩ := ite_error_eq_ok_iff.mp hrow
    obtain ⟨-, hrow⟩ := ite_error_eq_ok_iff.mp hrow
    obtain rfl := Except.ok.inj hrow
    rw [hget]
    exact ⟨.refreshed inventory (not_not.mp hs), .inl rfl⟩
  | verifyIdentity identityKeyId evidenceDigest =>
    obtain ⟨-, h⟩ := ite_error_eq_ok_iff.mp h
    exact And.imp id .inl (NodeOp.effect_of_stage h fun _ hs => .identified identityKeyId evidenceDigest hs)
  | markAuthenticated principalId =>
    obtain ⟨-, h⟩ := ite_error_eq_ok_iff.mp h
    exact And.imp id .inl (NodeOp.effect_of_stage h fun _ hs => .authenticated principalId hs)
  | markPrepared preparationDigest =>
    obtain ⟨-, h⟩ := ite_error_eq_ok_iff.mp h
    exact And.imp id .inl (NodeOp.effect_of_stage h fun _ hs => .prepared preparationDigest hs)
  | recordBenchmark accepted metrics =>
    obtain ⟨-, h⟩ := ite_error_eq_ok_iff.mp h
    exact And.imp id .inl (NodeOp.effect_of_stage h fun _ hs => .benchmarked accepted metrics _ hs)
  | markAuthenticationRequired reason =>
    obtain ⟨row, hget, hrow, rfl⟩ := change_eq_ok_iff.mp h
    rw [hget]
    split at hrow
    · rename_i hs
      obtain rfl := Except.ok.inj hrow
      exact ⟨.distrustedRevoked reason hs, .inl rfl⟩
    · rename_i hs
      obtain ⟨-, rfl⟩ := transition_eq_ok_iff.mp hrow
      exact ⟨.distrusted reason hs, .inl rfl⟩

/-! ### What the trail says -/

/-- The stages that lead to the state the row is in, newest first. -/
def NodeRecord.admission (row : NodeRecord) : List NodeStage :=
  match row.status with
  | .capabilityProbed => [.probed]
  | .identityVerified => [.identified row.identityKeyId, .probed]
  | .authenticated => [.authenticated row.principalId, .identified row.identityKeyId, .probed]
  | .prepared => [.prepared, .authenticated row.principalId, .identified row.identityKeyId, .probed]
  | .ready | .active =>
    [.benchmarked, .prepared, .authenticated row.principalId, .identified row.identityKeyId, .probed]
  | _ => []

structure NodeTrail.Sound (row : NodeRecord) (trail : NodeTrail) : Prop where
  /-- The node has passed the stages up to its state. -/
  stages : row.status ∈ .reachable :: MeshNodes.refreshable → trail.stages = row.admission
  /-- Its capabilities come from an observation of the key. -/
  key : row.status = .identityVerified → trail.capabilities.map (·.keyId) = some row.identityKeyId
  /-- They come from an observation of the key and the principal. -/
  carried : row.status ∈ [NodeLifecycle.authenticated, .prepared, .ready, .active] → trail.capabilities = some row.identity
  /-- So do the endpoint and the time it was seen. -/
  located : row.status ∈ [NodeLifecycle.ready, .active] →
    trail.endpoint = some row.identity ∧ trail.lastSeen = some row.identity

/-- What has to be so when a method is used on a node: where an identity is recorded, what was observed is that identity. -/
def NodeOp.Vouched (op : NodeOp) (evidence : Option NodeEvidence) (row : NodeRecord) (trail : NodeTrail) : Prop :=
  match op with
  | .discover endpoint _ =>
    row.status ∈ [NodeLifecycle.ready, .active] → evidence = some ⟨row.identity, endpoint⟩
  | .refreshVerifiedCapabilities _ =>
    (row.status = .identityVerified → evidence.map (·.identity.keyId) = some row.identityKeyId) ∧
      (row.status ∈ [NodeLifecycle.authenticated, .prepared, .ready, .active] →
        evidence.map (·.identity) = some row.identity)
  | .verifyIdentity identityKeyId _ =>
    row.status = .capabilityProbed → trail.capabilities.map (·.keyId) = some identityKeyId
  | .markAuthenticated principalId =>
    row.status = .identityVerified → trail.capabilities.map (·.principalId) = some principalId
  | .recordBenchmark accepted _ =>
    accepted = true → row.status = .prepared →
      (trail.vouched evidence row).endpoint = some row.identity ∧ (trail.vouched evidence row).lastSeen = some row.identity
  | .revoke _ => row.status ≠ .revoked
  | _ => True

namespace NodeTrail

@[simp] theorem stages_vouched : (trail.vouched evidence row).stages = trail.stages := by
  unfold vouched
  split
  · rfl
  · split <;> rfl

@[simp] theorem capabilities_vouched : (trail.vouched evidence row).capabilities = trail.capabilities := by
  unfold vouched
  split
  · rfl
  · split <;> rfl

theorem located_vouched (hendpoint : row'.endpoint = row.endpoint) (stage : NodeStage) :
    ((trail.passed stage).vouched evidence row').endpoint = (trail.vouched evidence row).endpoint ∧
      ((trail.passed stage).vouched evidence row').lastSeen = (trail.vouched evidence row).lastSeen := by
  unfold vouched
  cases evidence with
  | none => exact ⟨rfl, rfl⟩
  | some e =>
    dsimp only
    rw [hendpoint]
    split <;> exact ⟨rfl, rfl⟩

/-- The trail of a node that is not on its way to routing says nothing. -/
theorem Sound.of_unstaged (h : row.status ∉ NodeLifecycle.reachable :: MeshNodes.refreshable) : Sound row trail := by
  have hnot : ∀ {l : List NodeLifecycle}, l ⊆ .reachable :: refreshable → row.status ∉ l :=
    fun hsub hmem => h (hsub hmem)
  refine ⟨fun hs => absurd hs h, fun hs => absurd ?_ h, fun hs => absurd hs (hnot (by decide)),
    fun hs => absurd hs (hnot (by decide))⟩
  rw [hs]
  decide

/-- The stages of a node in a known state. -/
theorem Sound.stages_at (h : Sound row trail) {status : NodeLifecycle} (hs : row.status = status)
    (hlisted : status ∈ NodeLifecycle.reachable :: MeshNodes.refreshable) :
    trail.stages = NodeRecord.admission { row with status := status } := by
  subst hs
  exact h.stages hlisted

theorem Sound.early (hs : row.status = target) (htarget : target ∉ [.authenticated, .prepared, .ready, .active])
    (hstages : trail.stages = row.admission)
    (hkey : row.status = .identityVerified → trail.capabilities.map (·.keyId) = some row.identityKeyId) : Sound row trail := by
  have hnot : row.status ∉ [authenticated, .prepared, .ready, .active] := by rwa [hs]
  exact ⟨fun _ => hstages, hkey, fun hmem => absurd hmem hnot,
    fun hmem => absurd (List.mem_cons_of_mem _ (List.mem_cons_of_mem _ hmem)) hnot⟩

theorem Sound.announced (h : Sound row trail) {endpoint discoverySource : String}
    (hvouched : (NodeOp.discover endpoint discoverySource).Vouched evidence row trail) :
    Sound (MeshNodes.seen (some row) endpoint discoverySource now)
      (trail.after (.discover endpoint discoverySource) evidence (MeshNodes.seen (some row) endpoint discoverySource now)) := by
  by_cases hs : row.status = .revoked
  · refine Sound.of_unstaged ?_
    simp only [seen, hs, ne_eq, not_true_eq_false, if_false]
    decide
  · have hseen : seen (some row) endpoint discoverySource now
        = { row.touch now with endpoint, discoverySource, lastSeen := now } := if_pos hs
    have hafter : trail.after (.discover endpoint discoverySource) evidence
        { row.touch now with endpoint, discoverySource, lastSeen := now }
        = { trail with endpoint := none, lastSeen := none }.vouched evidence
            { row.touch now with endpoint, discoverySource, lastSeen := now } := if_neg hs
    rw [hseen, hafter]
    refine ⟨fun hmem => ?_, fun hkey => ?_, fun hmem => ?_, fun hmem => ?_⟩
    · rw [stages_vouched]
      exact h.stages hmem
    · rw [capabilities_vouched]
      exact h.key hkey
    · rw [capabilities_vouched]
      exact h.carried hmem
    · rw [hvouched hmem]
      unfold vouched
      dsimp only
      rw [if_pos rfl]
      exact ⟨rfl, rfl⟩

theorem Sound.transition (h : Sound row trail) (hop : op.asks = some (target, reason))
    (hmove : target = row.status ∨ target ∈ row.status.transitions) :
    Sound (row.moved target reason now) (trail.after op evidence (row.moved target reason now)) := by
  cases op with
  | markReachable =>
    obtain ⟨rfl, rfl⟩ := Prod.mk.inj (some.inj hop)
    exact Sound.early (show _ = reachable from rfl) (by decide) rfl nofun
  | quarantine reason' =>
    obtain ⟨rfl, rfl⟩ := Prod.mk.inj (some.inj hop)
    exact Sound.of_unstaged (show quarantined ∉ _ by decide)
  | drain reason' =>
    obtain ⟨rfl, rfl⟩ := Prod.mk.inj (some.inj hop)
    exact Sound.of_unstaged (show draining ∉ _ by decide)
  | revoke reason' =>
    obtain ⟨rfl, rfl⟩ := Prod.mk.inj (some.inj hop)
    exact Sound.of_unstaged (show revoked ∉ _ by decide)
  | activate =>
    obtain ⟨rfl, rfl⟩ := Prod.mk.inj (some.inj hop)
    have hs : row.status ∈ [ready, .active] := by
      cases hstatus : row.status with
      | ready | active => decide
      | _ =>
        rw [hstatus] at hmove
        exact absurd hmove (by decide)
    have hsub : ∀ {l : List NodeLifecycle}, [ready, .active] ⊆ l → row.status ∈ l := fun hsub => hsub hs
    refine ⟨fun _ => ?_, nofun, fun _ => h.carried (hsub (by decide)), fun _ => h.located hs⟩
    refine (h.stages (hsub (by decide))).trans ?_
    unfold admission
    simp only [List.mem_cons, List.not_mem_nil, or_false] at hs
    rcases hs with hs | hs <;> rw [hs] <;> rfl
  | _ => cases hop

theorem Sound.refreshed (h : Sound row trail) {inventory : NodeInventory} (hs : row.status ∈ MeshNodes.refreshable)
    (hvouched : (NodeOp.refreshVerifiedCapabilities inventory).Vouched evidence row trail) :
    Sound (row.probed inventory now)
      (trail.after (.refreshVerifiedCapabilities inventory) evidence (row.probed inventory now)) := by
  refine ⟨fun _ => ?_, fun hkey => ?_, fun hmem => ?_, fun hmem => ?_⟩
  · exact (stages_vouched.trans (h.stages (List.mem_cons_of_mem _ hs)))
  · have hcarried := hvouched.1 hkey
    unfold after
    rw [capabilities_vouched]
    cases evidence with
    | none => cases hcarried
    | some e => exact hcarried
  · unfold after
    rw [capabilities_vouched]
    exact hvouched.2 hmem
  · have hid : evidence.map (·.identity) = some row.identity := by
      refine hvouched.2 ?_
      revert hmem
      exact fun hmem => (show [ready, .active] ⊆ [.authenticated, .prepared, .ready, .active] by decide) hmem
    have hold := h.located hmem
    cases evidence with
    | none => cases hid
    | some e =>
      unfold after vouched
      dsimp only
      split
      · exact ⟨hid, hid⟩
      · exact ⟨hold.1, hid⟩

/-- **What a method does to the trail.** -/
theorem Sound.after (h : ∀ row, prior = some row → Sound row trail) (heffect : NodeOp.Effect now op prior row')
    (hvouched : ∀ row, prior = some row → op.Vouched evidence row trail) : Sound row' (trail.after op evidence row') := by
  cases heffect with
  | discovered prior endpoint discoverySource =>
    cases prior with
    | none => exact Sound.of_unstaged (show discovered ∉ _ by decide)
    | some row => exact (h row rfl).announced (hvouched row rfl)
  | got row => exact h row' rfl
  | moved hop hmove => exact (h _ rfl).transition hop hmove
  | @recorded row inventory hs =>
    exact Sound.early (show _ = capabilityProbed from rfl) (by decide)
      (stages_vouched.trans (congrArg (NodeStage.probed :: ·) ((h row rfl).stages_at hs (by decide)))) nofun
  | @refreshed row inventory hs => exact (h row rfl).refreshed hs (hvouched row rfl)
  | @identified row identityKeyId evidenceDigest hs =>
    exact Sound.early (show _ = identityVerified from rfl) (by decide)
      (stages_vouched.trans (congrArg (NodeStage.identified identityKeyId :: ·) ((h row rfl).stages_at hs (by decide))))
      fun _ => (congrArg (Option.map _) capabilities_vouched).trans (hvouched row rfl hs)
  | @authenticated row principalId hs =>
    have hcarried : trail.capabilities = some ⟨row.identityKeyId, principalId⟩ := by
      have hkey := (h row rfl).key hs
      have hprincipal := hvouched row rfl hs
      cases hid : trail.capabilities with
      | none =>
        rw [hid] at hkey
        cases hkey
      | some identity =>
        rw [hid] at hkey hprincipal
        exact congrArg some (congrArg₂ NodeIdentity.mk (some.inj hkey) (some.inj hprincipal))
    exact ⟨fun _ => stages_vouched.trans
        (congrArg (NodeStage.authenticated principalId :: ·) ((h row rfl).stages_at hs (by decide))), nofun,
      fun _ => capabilities_vouched.trans hcarried,
      fun hmem => absurd (show authenticated ∈ _ from hmem) (by decide)⟩
  | @prepared row preparationDigest hs =>
    exact ⟨fun _ => stages_vouched.trans (congrArg (NodeStage.prepared :: ·) ((h row rfl).stages_at hs (by decide))), nofun,
      fun _ => capabilities_vouched.trans ((h row rfl).carried (by rw [hs]; decide)),
      fun hmem => absurd (show prepared ∈ _ from hmem) (by decide)⟩
  | @benchmarked row accepted metrics reason hs =>
    cases accepted with
    | false => exact Sound.of_unstaged (show quarantined ∉ _ by decide)
    | true =>
      refine ⟨fun _ => stages_vouched.trans
          (congrArg (NodeStage.benchmarked :: ·) ((h row rfl).stages_at hs (by decide))), nofun,
        fun _ => capabilities_vouched.trans ((h row rfl).carried (by rw [hs]; decide)), fun _ => ?_⟩
      obtain ⟨hendpoint, hseen⟩ := hvouched row rfl rfl hs
      obtain ⟨hendpoint', hseen'⟩ := @located_vouched row ({ row.touch now with benchmark := metrics }.moved .ready reason now) trail evidence rfl .benchmarked
      exact ⟨hendpoint'.trans hendpoint, hseen'.trans hseen⟩
  | distrusted reason hs => exact Sound.of_unstaged (show quarantined ∉ _ by decide)
  | distrustedRevoked reason hs =>
    refine Sound.of_unstaged ?_
    rw [hs]
    decide

end NodeTrail

/-! ### Runs -/

namespace NodeWorld

variable {s : NodeWorld} {input : NodeInput} {a : NodeAccess}

/-- The nodes that may be routed to were admitted in order since they became reachable last, and their endpoints, their
capabilities and the times they were seen come from observations of the identity that is recorded for them. -/
def Trusted (s : NodeWorld) : Prop :=
  ∀ nodeId row, (nodeId, row) ∈ s.nodes.routableNodes →
    (s.trail nodeId).stages
        = [.benchmarked, .prepared, .authenticated row.principalId, .identified row.identityKeyId, .probed] ∧
      (s.trail nodeId).endpoint = some row.identity ∧ (s.trail nodeId).capabilities = some row.identity ∧
        (s.trail nodeId).lastSeen = some row.identity

/-- What a step leaves alone: an announcement without evidence the endpoints of the nodes that may be routed to and the
times they were seen, and every step the nodes that are revoked. -/
structure LeavesAlone (s : NodeWorld) (input : NodeInput) : Prop where
  announced : ∀ a endpoint discoverySource, s.accessOf input = some a → a.op = .discover endpoint discoverySource →
    a.evidence = none → ∀ nodeId row row', (nodeId, row) ∈ s.nodes.routableNodes →
      (s.step input).nodes.get? nodeId = some row' → row'.endpoint = row.endpoint ∧ row'.lastSeen = row.lastSeen
  revoked : ∀ nodeId row, s.nodes.get? nodeId = some row → row.status = .revoked →
    (s.step input).nodes.get? nodeId = some row

/-- What has to be so at a step. -/
def Vouched (s : NodeWorld) (input : NodeInput) : Prop :=
  ∀ a, s.accessOf input = some a → ∀ row, s.nodes.get? a.nodeId = some row →
    a.op.Vouched a.evidence row (s.trail a.nodeId)

/-- The trails say what they have to of every node. -/
def Sound (s : NodeWorld) : Prop := ∀ nodeId row, s.nodes.get? nodeId = some row → (s.trail nodeId).Sound row

theorem Sound.trusted (h : Sound s) : s.Trusted := by
  intro nodeId row hmem
  obtain ⟨hget, hroutable⟩ := mem_routableNodes.mp hmem
  have hs : row.status ∈ [ready, .active] := by
    simp only [routable, Bool.and_eq_true, decide_eq_true_eq] at hroutable
    exact hroutable.1.1.1
  have hsound := h nodeId row hget
  have hlater : ∀ {l : List NodeLifecycle}, [ready, .active] ⊆ l → row.status ∈ l := fun hsub => hsub hs
  obtain ⟨hendpoint, hseen⟩ := hsound.located hs
  refine ⟨(hsound.stages (hlater (by decide))).trans ?_, hendpoint, hsound.carried (hlater (by decide)), hseen⟩
  unfold admission
  simp only [List.mem_cons, List.not_mem_nil, or_false] at hs
  rcases hs with hs | hs <;> rw [hs]

/-- The nodes and the trails that a step leaves are those that its use of the registry leaves. -/
theorem step_of_access (ha : s.accessOf input = some a) :
    (s.step input).nodes = (s.perform a).2.nodes ∧ (s.step input).trails = (s.perform a).2.trails := by
  cases input with
  | registry a' =>
    obtain rfl := some.inj ha
    exact ⟨rfl, rfl⟩
  | reconcile ageText maxAge current now => cases ha
  | submit i request => cases ha
  | move i m =>
    unfold accessOf at ha
    unfold step
    dsimp only at ha ⊢
    cases hget : s.calls.get? i with
    | none =>
      rw [hget] at ha
      cases ha
    | some c =>
      rw [hget] at ha
      dsimp only at ha ⊢
      cases hplan : c.plan m with
      | access a' next =>
        rw [hplan] at ha
        obtain rfl := some.inj ha
        exact ⟨rfl, rfl⟩
      | _ =>
        rw [hplan] at ha
        cases ha

/-- A step that does not use the registry leaves the nodes as they are, or sweeps them. -/
theorem step_of_no_access (ha : s.accessOf input = none) :
    (s.step input).trails = s.trails ∧ ((s.step input).nodes = s.nodes ∨
      ∃ (maxAge current now : ℚ) (reason : NodeRecord → String), (s.step input).nodes = s.nodes.mapValues fun row =>
        if MeshNodes.stale maxAge current row then row.moved .quarantined (reason row) now else row) := by
  cases input with
  | registry a' => cases ha
  | reconcile ageText maxAge current now =>
    unfold step reconcileStaleNodes
    dsimp only
    split
    · exact ⟨rfl, .inl rfl⟩
    · rename_i nodes hswept
      obtain ⟨-, hswept⟩ := ite_error_eq_ok_iff.mp hswept
      obtain rfl := Except.ok.inj hswept
      exact ⟨rfl, .inr ⟨maxAge, current, now,
        fun row => staleReason (ageText (min (current - row.lastSeen) 9999999999)), rfl⟩⟩
  | submit i request =>
    unfold step
    dsimp only
    split <;> exact ⟨rfl, .inl rfl⟩
  | move i m =>
    unfold accessOf at ha
    unfold step
    dsimp only at ha ⊢
    cases hget : s.calls.get? i with
    | none => exact ⟨rfl, .inl rfl⟩
    | some c =>
      rw [hget] at ha
      dsimp only at ha ⊢
      cases hplan : c.plan m with
      | access a' next =>
        rw [hplan] at ha
        cases ha
      | _ => exact ⟨rfl, .inl rfl⟩

theorem perform_cases (s : NodeWorld) (a : NodeAccess) :
    ((s.perform a).2 = s) ∨ ∃ row', NodeOp.Effect a.now a.op (s.nodes.get? a.nodeId) row' ∧
      (∀ other, (s.perform a).2.nodes.get? other = if other = a.nodeId then some row' else s.nodes.get? other) ∧
        (s.perform a).2.trails = s.trails.set a.nodeId ((s.trail a.nodeId).after a.op a.evidence row') := by
  unfold perform
  split
  · exact .inl rfl
  · rename_i row' nodes hrun
    obtain ⟨heffect, hget⟩ := NodeOp.run_eq_ok hrun
    exact .inr ⟨row', heffect, hget, rfl⟩

theorem Sound.perform (h : Sound s)
    (hvouched : ∀ row, s.nodes.get? a.nodeId = some row → a.op.Vouched a.evidence row (s.trail a.nodeId)) :
    Sound (s.perform a).2 := by
  rcases perform_cases s a with hsame | ⟨row', heffect, hget, htrails⟩
  · rwa [hsame]
  · intro nodeId row hrow
    rw [hget] at hrow
    unfold trail
    rw [htrails, Dict.getD_set]
    split at hrow
    · rename_i heq
      obtain rfl := some.inj hrow
      rw [if_pos heq]
      exact NodeTrail.Sound.after (fun row hprior => h a.nodeId row hprior) heffect hvouched
    · rename_i hne
      rw [if_neg hne]
      exact h nodeId row hrow

/-- **A vouched step** keeps what the trails say. -/
theorem Sound.step (h : Sound s) (hvouched : s.Vouched input) : Sound (s.step input) := by
  intro nodeId row hget
  unfold trail
  cases haccess : s.accessOf input with
  | some a =>
    obtain ⟨hnodes, htrails⟩ := step_of_access haccess
    rw [hnodes] at hget
    rw [htrails]
    exact h.perform (hvouched a haccess) nodeId row hget
  | none =>
    obtain ⟨htrails, hnodes⟩ := step_of_no_access haccess
    rw [htrails]
    rcases hnodes with hnodes | ⟨maxAge, current, now, reason, hnodes⟩
    · rw [hnodes] at hget
      exact h nodeId row hget
    · rw [hnodes, Dict.get?_mapValues] at hget
      obtain ⟨before, hbefore, rfl⟩ := map_eq_some_iff.mp hget
      split
      · exact NodeTrail.Sound.of_unstaged (show quarantined ∉ _ by decide)
      · exact h nodeId before hbefore

theorem row_of_revoked (heffect : NodeOp.Effect now op (some row) row') (hs : row.status = .revoked)
    (hvouched : op.Vouched evidence row trail) : row' = row := by
  cases heffect with
  | discovered prior endpoint discoverySource => exact if_neg (not_not.mpr hs)
  | got row => rfl
  | @moved op _ target reason hop hmove =>
    rw [hs] at hmove
    obtain rfl : target = .revoked := hmove.resolve_right List.not_mem_nil
    cases op with
    | revoke reason' => exact absurd hs hvouched
    | _ => cases hop
  | recorded inventory hs' | identified _ _ hs' | authenticated _ hs' | prepared _ hs' | benchmarked _ _ _ hs' =>
    exact nomatch hs.symm.trans hs'
  | refreshed inventory hs' =>
    rw [hs] at hs'
    exact absurd hs' (by decide)
  | distrusted reason hs' => exact absurd hs hs'
  | distrustedRevoked reason hs' => rfl

theorem leavesAlone (hvouched : s.Vouched input) : s.LeavesAlone input := by
  constructor
  · intro a endpoint discoverySource haccess hop hevidence nodeId row row' hmem hget
    obtain ⟨hrow, hroutable⟩ := mem_routableNodes.mp hmem
    have hs : row.status ∈ [ready, .active] := by
      simp only [routable, Bool.and_eq_true, decide_eq_true_eq] at hroutable
      exact hroutable.1.1.1
    have hother : nodeId ≠ a.nodeId := by
      rintro rfl
      have hv := hvouched a haccess row hrow
      rw [hop, hevidence] at hv
      exact nomatch hv hs
    rw [(step_of_access haccess).1] at hget
    rcases perform_cases s a with hsame | ⟨_, -, hperformed, -⟩
    · rw [hsame] at hget
      obtain rfl := some.inj (hrow.symm.trans hget)
      exact ⟨rfl, rfl⟩
    · rw [hperformed, if_neg hother] at hget
      obtain rfl := some.inj (hrow.symm.trans hget)
      exact ⟨rfl, rfl⟩
  · intro nodeId row hget hs
    cases haccess : s.accessOf input with
    | none =>
      rcases (step_of_no_access haccess).2 with hnodes | ⟨maxAge, current, now, reason, hnodes⟩
      · rw [hnodes, hget]
      · have hfresh : stale maxAge current row = false := by
          unfold stale
          rw [hs]
          rfl
        rw [hnodes, Dict.get?_mapValues, hget]
        simp [hfresh]
    | some a =>
      rw [(step_of_access haccess).1]
      rcases perform_cases s a with hsame | ⟨row', heffect, hperformed, -⟩
      · rw [hsame, hget]
      · rw [hperformed]
        split
        · rename_i heq
          subst heq
          rw [hget] at heffect
          rw [row_of_revoked heffect hs (hvouched a haccess row hget)]
        · exact hget

end NodeWorld

/-- **Routing rests on the verified identity** in every run in which what is recorded is what was observed. -/
theorem routing_rests_on_identity (inputs : List NodeInput)
    (hvouched : Run.Along NodeWorld.step NodeWorld.Vouched {} inputs) :
    Run.Along NodeWorld.step (fun s input => s.Trusted ∧ s.LeavesAlone input) {} inputs ∧
      (Run.exec NodeWorld.step {} inputs).Trusted := by
  have hstart : NodeWorld.Sound {} := by
    intro nodeId row h
    cases h
  exact ⟨Run.along_of_along NodeWorld.Sound
      (fun _ _ h hv => ⟨⟨h.trusted, NodeWorld.leavesAlone hv⟩, h.step hv⟩) hstart hvouched,
    (Run.exec_of_along NodeWorld.Sound (fun _ _ h hv => h.step hv) hstart hvouched).trusted⟩

/-! ### An admission, and an announcement after it -/

def sampleObservation : NodeObservation where
  inventory := ⟨["chat"], [], 1⟩
  identityKeyId := some "key"
  identityEvidenceDigest := some "aaaaaaaaaaaaaaaaaaaaaaaaaaaaaaaaaaaaaaaaaaaaaaaaaaaaaaaaaaaaaaaa"
  principalId := some "principal"
  preparationDigest := some "bbbbbbbbbbbbbbbbbbbbbbbbbbbbbbbbbbbbbbbbbbbbbbbbbbbbbbbbbbbbbbbb"
  benchmarkAccepted := some true

/-- A call of `onboard` whose probe finds everything in order. -/
def admission : List NodeInput :=
  [.submit 0 { nodeId := "node", endpoint := "http://node" }, .move 0 (.access 1), .move 0 (.probe (.observed sampleObservation)),
    .move 0 (.access 2)] ++ List.replicate 6 (.move 0 (.advance .absent .absent 3))

instance (op : NodeOp) (evidence : Option NodeEvidence) (row : NodeRecord) (trail : NodeTrail) :
    Decidable (op.Vouched evidence row trail) := by
  unfold NodeOp.Vouched
  split <;> infer_instance

instance (s : NodeWorld) (input : NodeInput) : Decidable (s.Vouched input) :=
  inferInstanceAs (Decidable (∀ a ∈ s.accessOf input, ∀ row ∈ s.nodes.get? a.nodeId,
    a.op.Vouched a.evidence row (s.trail a.nodeId)))

theorem routing_rests_on_identity_admission :
    Run.Along NodeWorld.step (fun s input => s.Trusted ∧ s.LeavesAlone input) {} admission ∧
      (Run.exec NodeWorld.step {} admission).Trusted :=
  routing_rests_on_identity admission (by decide)

/-- **A bare announcement** moves a node that is routed to. -/
theorem announced_elsewhere : let s := Run.exec NodeWorld.step {} admission
    let input := NodeInput.registry { nodeId := "node", op := .discover "http://elsewhere" "lan", now := 4 }
    (s.step input).nodes.routableNodes.map (fun entry => (entry.1, entry.2.endpoint)) = [("node", "http://elsewhere")] ∧
      ¬s.LeavesAlone input ∧ ¬(s.step input).Trusted := by
  intro s input
  obtain ⟨hbefore, hafter, htrail⟩ :
      (s.nodes.get? "node").any (fun row => row.routable && row.endpoint == "http://node") = true ∧
      ((s.step input).nodes.get? "node").any (fun row => row.routable && row.endpoint == "http://elsewhere") = true ∧
      ((s.step input).trail "node").endpoint = none := by decide
  obtain ⟨row, hrow, hroutable⟩ := (any_eq_true _ _).mp hbefore
  obtain ⟨row', hrow', hroutable'⟩ := (any_eq_true _ _).mp hafter
  simp only [Bool.and_eq_true, beq_iff_eq] at hroutable hroutable'
  refine ⟨by decide, fun h => ?_, fun h => ?_⟩
  · have hsame := (h.announced _ _ _ rfl rfl rfl "node" row row'
      (mem_routableNodes.mpr ⟨hrow, hroutable.1⟩) hrow').1
    rw [hroutable.2, hroutable'.2] at hsame
    exact absurd hsame (by decide)
  · have htrusted := (h "node" row' (mem_routableNodes.mpr ⟨hrow', hroutable'.1⟩)).2.1
    rw [htrail] at htrusted
    cases htrusted

end ComputeMesh.Platform
