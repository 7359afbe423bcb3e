import ComputeMesh.Lib.Checks
import ComputeMesh.Lib.Run
import ComputeMesh.Runtime.DeadMansSwitch

/-!
# What the dead man's switch lets run

A guard with a supervisor key, over any sequence of its operations.  `updateLease` trips the guard on a lease that
says `tripped` or `revoked` before it looks at the signature, and never compares the lease's node with its own;
`KillSwitchOp.Proper` names the calls that meet neither.

* `ingest_cases` — what a lease can do to the guard;
* `Sound.run` — the active lease is signed and names this node;
* `SameFor.run` — two guards that agree about one owner and node go on agreeing;
* `guard_obeys_supervisor` — **unsigned leases change nothing, the decisions agree and rest on a signed lease, and
  the trips of other fleets and nodes do not matter.**
-/

namespace ComputeMesh.Runtime

open ComputeMesh.Text DeadMansLeaseGuard KillSwitchOp

variable {Seconds : Type} {lib : LeaseLibrary Seconds}

/-! ### Signed leases -/

/-- The lease carries a signature that is valid under the supervisor's key. -/
def ExecutionLease.Signed (lib : LeaseLibrary Seconds) (keyHex : String) (lease : ExecutionLease Seconds) : Prop :=
  lease.signatureHex ≠ "" ∧ ∃ publicKey ∈ bytesFromHex keyHex, ∃ signature ∈ bytesFromHex lease.signatureHex,
    lib.verifyEd25519Signature publicKey (lease.canonicalBytes lib) signature = true

instance (keyHex : String) (lease : ExecutionLease Seconds) : Decidable (lease.Signed lib keyHex) :=
  inferInstanceAs (Decidable (_ ∧ _))

theorem checkSignature_eq_ok_iff {keyHex : String} {lease : ExecutionLease Seconds} :
    DeadMansLeaseGuard.checkSignature lib keyHex lease = .ok () ↔ lease.Signed lib keyHex := by
  unfold checkSignature ExecutionLease.Signed
  by_cases hempty : lease.signatureHex = ""
  · simp [hempty]
  · rw [if_neg hempty]
    cases hkey : bytesFromHex keyHex with
    | none => simp
    | some publicKey =>
      cases hsig : bytesFromHex lease.signatureHex with
      | none => simp
      | some signature =>
        by_cases hvalid : lib.verifyEd25519Signature publicKey (lease.canonicalBytes lib) signature = true
        · simp [hempty, hvalid]
        · simp [hvalid]

variable {trips : Dict String ScopedTrip} {now : UtcTime}

namespace DeadMansLeaseGuard

variable {g : DeadMansLeaseGuard Seconds} {keyHex : String}

variable (lib) in
/-- **What a lease can do to a guard with a key**: nothing, trip it, or become its active lease. -/
theorem ingest_cases (hkey : g.supervisorPublicKeyHex = some keyHex) (hne : keyHex ≠ "")
    (lease : ExecutionLease Seconds) (verifySignature : Bool) (now : UtcTime) :
    (g.ingest lib lease verifySignature now).2 = g ∨
    (g.isTripped = false ∧ lease.revokes ∧
      (g.ingest lib lease verifySignature now).2
        = g.trip lib ("Supervisor revoked authorization: " ++ lease.triplineStatus) now) ∨
    (g.isTripped = false ∧ ¬ lease.revokes ∧ lease.isExpired lib now = false ∧
      (verifySignature = true → lease.Signed lib keyHex) ∧
      (g.ingest lib lease verifySignature now).2 = { g with activeLease := some lease }) := by
  unfold ingest
  cases htrip : g.isTripped with
  | true => exact .inl rfl
  | false =>
    by_cases hrevokes : lease.revokes
    · refine .inr (.inl ⟨rfl, hrevokes, ?_⟩)
      simp [hrevokes]
    · cases hexp : lease.isExpired lib now with
      | true => exact .inl (by simp [hrevokes])
      | false =>
        simp only [hkey, Option.getD_some, hrevokes, Bool.false_eq_true, if_false]
        by_cases hverify : verifySignature = true ∧ keyHex ≠ ""
        · rw [if_pos hverify]
          cases hcheck : checkSignature lib keyHex lease with
          | error e => exact .inl rfl
          | ok u => exact .inr (.inr ⟨trivial, not_false, trivial, fun _ => checkSignature_eq_ok_iff.mp hcheck, rfl⟩)
        · rw [if_neg hverify]
          exact .inr (.inr ⟨trivial, not_false, trivial, fun hv => absurd ⟨hv, hne⟩ hverify, rfl⟩)

/-! ### The two decisions -/

/-- The switch that stands in the way of an owner and a node. -/
def Stopped (g : DeadMansLeaseGuard Seconds) (ownerId nodeId : Option String) : Prop :=
  g.isTripped = true ∨ g.isFleetTripped ownerId = true ∨ g.isNodeTripped nodeId = true

/-- No row is found for `None` or the empty name, so that looking first whether there is a name changes nothing. -/
theorem named_and_tripped {scopeId : Option String} :
    (scopeId.getD "" ≠ "" ∧ trippedIn trips scopeId = true) ↔ trippedIn trips scopeId = true := by
  refine ⟨And.right, fun h => ⟨fun hempty => ?_, h⟩⟩
  cases scopeId with
  | none => cases h
  | some name =>
    rw [trippedIn, if_pos (show name = "" from hempty)] at h
    cases h

theorem isAuthorized_iff {ownerId nodeId : Option String} : g.isAuthorized lib ownerId nodeId now = true ↔
      ¬ g.Stopped ownerId nodeId ∧ ∃ lease, g.activeLease = some lease ∧ lease.isExpired lib now = false := by
  unfold isAuthorized Stopped isFleetTripped isNodeTripped
  cases g.isTripped with
  | true => simp
  | false =>
    simp only [Bool.false_or, named_and_tripped]
    cases trippedIn g.fleetTrips ownerId <;> cases trippedIn g.nodeTrips nodeId <;> cases g.activeLease <;> simp

theorem assertAuthorized_eq_ok_iff {ownerId nodeId : Option String} {lease : ExecutionLease Seconds} :
    g.assertAuthorized lib ownerId nodeId now = .ok lease ↔
      ¬ g.Stopped ownerId nodeId ∧ g.activeLease = some lease ∧ lease.isExpired lib now = false := by
  unfold assertAuthorized Stopped isFleetTripped isNodeTripped
  cases g.isTripped with
  | true => simp
  | false =>
    simp only [Bool.false_or, named_and_tripped]
    cases trippedIn g.fleetTrips ownerId <;> cases trippedIn g.nodeTrips nodeId <;> cases g.activeLease <;>
      simp [ite_error_eq_ok_iff]
    constructor
    · rintro ⟨hexp, rfl⟩
      exact ⟨rfl, hexp⟩
    · rintro ⟨rfl, hexp⟩
      exact ⟨hexp, rfl⟩

end DeadMansLeaseGuard

/-! ### One operation -/

/-- A table after a trip, which leaves it as it was where the name is empty. -/
def tripsAfter (trips : Dict String ScopedTrip) (scopeId reason stamp : String) : Dict String ScopedTrip :=
  if strip scopeId = "" then trips else trips.set (strip scopeId) ⟨strip scopeId, true, reason, stamp⟩

theorem get?_tripsAfter_of_ne {scopeId reason stamp other : String}
    (h : other ≠ strip scopeId) : (tripsAfter trips scopeId reason stamp).get? other = trips.get? other := by
  unfold tripsAfter
  split
  · rfl
  · exact Dict.get?_set_of_ne _ h _

theorem get?_tripsAfter_congr {trips' : Dict String ScopedTrip} {scopeId reason stamp other : String}
    (h : trips.get? other = trips'.get? other) :
    (tripsAfter trips scopeId reason stamp).get? other = (tripsAfter trips' scopeId reason stamp).get? other := by
  unfold tripsAfter
  split
  · exact h
  · simp only [Dict.get?_set, h]

theorem get?_resetIn (trips : Dict String ScopedTrip) (scopeId other : String) :
    (resetIn trips scopeId).2.get? other = if other = strip scopeId then none else trips.get? other := by
  unfold resetIn
  dsimp only
  split
  · exact Dict.get?_erase _ _ _
  · next habsent =>
    split
    · next heq =>
      rw [heq]
      simpa [Dict.contains] using habsent
    · rfl

theorem get?_resetIn_of_ne {scopeId other : String} (h : other ≠ strip scopeId) :
    (resetIn trips scopeId).2.get? other = trips.get? other := by
  rw [get?_resetIn, if_neg h]

theorem get?_resetIn_congr {trips' : Dict String ScopedTrip} {scopeId other : String}
    (h : trips.get? other = trips'.get? other) :
    (resetIn trips scopeId).2.get? other = (resetIn trips' scopeId).2.get? other := by
  rw [get?_resetIn, get?_resetIn, h]

namespace KillSwitchOp

variable {g : DeadMansLeaseGuard Seconds}

theorem run_tripFleet (ownerId reason : String) (now : UtcTime) : (tripFleet ownerId reason now).run lib g
      = { g with fleetTrips := tripsAfter g.fleetTrips ownerId reason (lib.utcIso now) } := by
  unfold run DeadMansLeaseGuard.tripFleet tripIn tripsAfter
  by_cases hempty : strip ownerId = "" <;> simp [hempty]

theorem run_tripNode (nodeId reason : String) (now : UtcTime) : (tripNode nodeId reason now).run lib g
      = { g with nodeTrips := tripsAfter g.nodeTrips nodeId reason (lib.utcIso now) } := by
  unfold run DeadMansLeaseGuard.tripNode tripIn tripsAfter
  by_cases hempty : strip nodeId = "" <;> simp [hempty]

theorem run_resetFleet (ownerId : String) :
    (resetFleet ownerId).run lib g = { g with fleetTrips := (resetIn g.fleetTrips ownerId).2 } := rfl

theorem run_resetNode (nodeId : String) :
    (resetNode nodeId).run lib g = { g with nodeTrips := (resetIn g.nodeTrips nodeId).2 } := rfl

/-- A call of `update_lease` whose lease carries no valid signature of the supervisor. -/
def Unsigned (lib : LeaseLibrary Seconds) (keyHex : String) : KillSwitchOp Seconds → Prop
  | updateLease input _ _ => ∀ lease, input.toLease lib = .ok lease → ¬ lease.Signed lib keyHex
  | _ => False

/-- **The calls that keep to the supervisor.**  A lease that would trip the guard is signed, and one that would become
its active lease is signed if the signature is not verified, and names this node if it is signed. -/
def Proper (lib : LeaseLibrary Seconds) (keyHex : String) (g : DeadMansLeaseGuard Seconds) :
    KillSwitchOp Seconds → Prop
  | updateLease input verifySignature now =>
    ∀ lease ∈ (input.toLease lib).toOption, g.isTripped = true ∨ (lease.revokes ∧ lease.Signed lib keyHex) ∨
      (¬ lease.revokes ∧ (lease.isExpired lib now = true ∨ ((verifySignature = true ∨ lease.Signed lib keyHex) ∧
          (lease.Signed lib keyHex → lease.nodeId = g.nodeId))))
  | _ => True

instance (keyHex : String) : ∀ op : KillSwitchOp Seconds, Decidable (op.Proper lib keyHex g)
  | updateLease _ _ _ => inferInstanceAs (Decidable (∀ lease ∈ _, _))
  | trip _ _ | reset | tripFleet _ _ _ | resetFleet _ | tripNode _ _ _ | resetNode _ =>
    inferInstanceAs (Decidable True)

end KillSwitchOp

/-! ### Signed leases along a run -/

/-- What the active lease of a guard rests on. -/
structure DeadMansLeaseGuard.Sound (lib : LeaseLibrary Seconds) (nodeId keyHex : String)
    (g : DeadMansLeaseGuard Seconds) : Prop where
  key : g.supervisorPublicKeyHex = some keyHex
  node : g.nodeId = nodeId
  lease : ∀ lease, g.activeLease = some lease → lease.Signed lib keyHex ∧ lease.nodeId = nodeId

section

variable {g : DeadMansLeaseGuard Seconds} {nodeId keyHex : String} (h : g.Sound lib nodeId keyHex) (hne : keyHex ≠ "")
include h hne

theorem DeadMansLeaseGuard.Sound.updateLease {input : LeaseInput Seconds} {verifySignature : Bool}
    (hproper : (KillSwitchOp.updateLease input verifySignature now).Proper lib keyHex g) :
    (g.updateLease lib input verifySignature now).2.Sound lib nodeId keyHex ∧
      ((KillSwitchOp.updateLease input verifySignature now).Unsigned lib keyHex →
        (g.updateLease lib input verifySignature now).2 = g) := by
  unfold DeadMansLeaseGuard.updateLease
  cases hinput : input.toLease lib with
  | error e => exact ⟨h, fun _ => rfl⟩
  | ok lease =>
    have hproper := hproper lease (by rw [hinput]; rfl)
    dsimp only
    rcases g.ingest_cases lib h.key hne lease verifySignature now with
      hsame | ⟨htrip, hrevokes, hafter⟩ | ⟨htrip, hrevokes, hexp, hverified, hafter⟩
    · rw [hsame]
      exact ⟨h, fun _ => rfl⟩
    · -- a lease that trips the guard is signed
      have hsigned : lease.Signed lib keyHex := by
        rcases hproper with ht | ⟨_, hs⟩ | ⟨hn, _⟩
        · exact nomatch htrip.symm.trans ht
        · exact hs
        · exact absurd hrevokes hn
      rw [hafter]
      exact ⟨⟨h.key, h.node, nofun⟩, fun hun => absurd hsigned (hun lease hinput)⟩
    · -- so is one that becomes the active lease, and it names this node
      have hsigned : lease.Signed lib keyHex ∧ lease.nodeId = nodeId := by
        rcases hproper with ht | ⟨hr, _⟩ | ⟨_, he | ⟨hv, hn⟩⟩
        · exact nomatch htrip.symm.trans ht
        · exact absurd hr hrevokes
        · exact nomatch hexp.symm.trans he
        · have hs := hv.elim hverified id
          exact ⟨hs, (hn hs).trans h.node⟩
      rw [hafter]
      exact ⟨⟨h.key, h.node, fun _ hactive => Option.some.inj hactive ▸ hsigned⟩,
        fun hun => absurd hsigned.1 (hun lease hinput)⟩

/-- **One operation.**  A proper one keeps the active lease signed, and changes nothing if it is unsigned. -/
theorem DeadMansLeaseGuard.Sound.run (op : KillSwitchOp Seconds) (hproper : op.Proper lib keyHex g) :
    (op.Unsigned lib keyHex → op.run lib g = g) ∧ (op.run lib g).Sound lib nodeId keyHex := by
  cases op with
  | updateLease input verifySignature now =>
    obtain ⟨hsound, hsame⟩ := h.updateLease hne hproper
    exact ⟨hsame, hsound⟩
  | trip reason now | reset => exact ⟨False.elim, ⟨h.key, h.node, nofun⟩⟩
  | tripFleet ownerId reason now =>
    rw [run_tripFleet]
    exact ⟨False.elim, ⟨h.key, h.node, h.lease⟩⟩
  | resetFleet ownerId => exact ⟨False.elim, ⟨h.key, h.node, h.lease⟩⟩
  | tripNode nodeId reason now =>
    rw [run_tripNode]
    exact ⟨False.elim, ⟨h.key, h.node, h.lease⟩⟩
  | resetNode nodeId => exact ⟨False.elim, ⟨h.key, h.node, h.lease⟩⟩

end

/-! ### What other fleets and nodes do -/

/-- Two guards that agree in all that a decision about one owner and one node reads. -/
structure SameFor (ownerId nodeId : Option String) (g h : DeadMansLeaseGuard Seconds) : Prop where
  key : g.supervisorPublicKeyHex = h.supervisorPublicKeyHex
  tripped : g.isTripped = h.isTripped
  reason : g.tripReason = h.tripReason
  lease : g.activeLease = h.activeLease
  fleet : ∀ name, ownerId = some name → g.fleetTrips.get? (strip name) = h.fleetTrips.get? (strip name)
  node : ∀ name, nodeId = some name → g.nodeTrips.get? (strip name) = h.nodeTrips.get? (strip name)

variable {ownerId nodeId : Option String} {g h : DeadMansLeaseGuard Seconds}

theorem SameFor.refl (g : DeadMansLeaseGuard Seconds) : SameFor ownerId nodeId g g :=
  ⟨rfl, rfl, rfl, rfl, fun _ _ => rfl, fun _ _ => rfl⟩

theorem trippedIn_congr {trips' : Dict String ScopedTrip} {scopeId : Option String}
    (h : ∀ name, scopeId = some name → trips.get? (strip name) = trips'.get? (strip name)) :
    trippedIn trips scopeId = trippedIn trips' scopeId ∧ reasonIn trips scopeId = reasonIn trips' scopeId := by
  cases scopeId with
  | none => exact ⟨rfl, rfl⟩
  | some name =>
    simp only [trippedIn, reasonIn, h name rfl, and_self]

theorem SameFor.decides (hs : SameFor ownerId nodeId g h) (now : UtcTime) :
    g.isAuthorized lib ownerId nodeId now = h.isAuthorized lib ownerId nodeId now ∧
      g.assertAuthorized lib ownerId nodeId now = h.assertAuthorized lib ownerId nodeId now := by
  obtain ⟨hfleet, hfleetReason⟩ := trippedIn_congr hs.fleet
  obtain ⟨hnode, hnodeReason⟩ := trippedIn_congr hs.node
  constructor
  · unfold isAuthorized isFleetTripped isNodeTripped
    rw [hs.tripped, hs.lease, hfleet, hnode]
  · unfold assertAuthorized isFleetTripped isNodeTripped
      getFleetTripReason getNodeTripReason
    rw [hs.tripped, hs.lease, hs.reason, hfleet, hnode, hfleetReason, hnodeReason]

theorem SameFor.updateLease (hs : SameFor ownerId nodeId g h) (input : LeaseInput Seconds)
    (verifySignature : Bool) (now : UtcTime) :
    SameFor ownerId nodeId (g.updateLease lib input verifySignature now).2
      (h.updateLease lib input verifySignature now).2 := by
  unfold DeadMansLeaseGuard.updateLease
  cases input.toLease lib with
  | error e => exact hs
  | ok lease =>
    unfold ingest
    dsimp only
    rw [hs.tripped, hs.key]
    split
    · exact hs
    · split
      · exact ⟨hs.key, rfl, rfl, rfl, hs.fleet, hs.node⟩
      · split
        · exact hs
        · split
          · exact hs
          · exact ⟨rfl, rfl, hs.reason, rfl, hs.fleet, hs.node⟩

/-- **An operation keeps two guards alike.** -/
theorem SameFor.run (hs : SameFor ownerId nodeId g h) (op : KillSwitchOp Seconds) :
    SameFor ownerId nodeId (op.run lib g) (op.run lib h) := by
  cases op with
  | updateLease input verifySignature now => exact hs.updateLease input verifySignature now
  | trip reason now | reset => exact ⟨hs.key, rfl, rfl, rfl, hs.fleet, hs.node⟩
  | tripFleet other reason now =>
    rw [run_tripFleet, run_tripFleet]
    refine ⟨hs.key, hs.tripped, hs.reason, hs.lease, fun name hname => ?_, hs.node⟩
    dsimp only
    exact get?_tripsAfter_congr (hs.fleet name hname)
  | resetFleet other =>
    rw [run_resetFleet, run_resetFleet]
    refine ⟨hs.key, hs.tripped, hs.reason, hs.lease, fun name hname => ?_, hs.node⟩
    dsimp only
    exact get?_resetIn_congr (hs.fleet name hname)
  | tripNode other reason now =>
    rw [run_tripNode, run_tripNode]
    refine ⟨hs.key, hs.tripped, hs.reason, hs.lease, hs.fleet, fun name hname => ?_⟩
    dsimp only
    exact get?_tripsAfter_congr (hs.node name hname)
  | resetNode other =>
    rw [run_resetNode, run_resetNode]
    refine ⟨hs.key, hs.tripped, hs.reason, hs.lease, hs.fleet, fun name hname => ?_⟩
    dsimp only
    exact get?_resetIn_congr (hs.node name hname)

/-- Whether an operation is about the platform, this owner's fleet or this node. -/
def KillSwitchOp.concerns (ownerId nodeId : Option String) : KillSwitchOp Seconds → Bool
  | .tripFleet other _ _ | .resetFleet other => decide (ownerId.map strip = some (strip other))
  | .tripNode other _ _ | .resetNode other => decide (nodeId.map strip = some (strip other))
  | .updateLease _ _ _ | .trip _ _ | .reset => true

/-- **An operation on another fleet or node is not seen.** -/
theorem SameFor.run_left (hs : SameFor ownerId nodeId g h) {op : KillSwitchOp Seconds}
    (hother : op.concerns ownerId nodeId = false) : SameFor ownerId nodeId (op.run lib g) h := by
  have hne : ∀ {scopeId : Option String} {other : String}, decide (scopeId.map strip = some (strip other)) = false →
      ∀ name, scopeId = some name → strip name ≠ strip other := by
    rintro _ other hdecide name rfl heq
    exact of_decide_eq_false hdecide (congrArg some heq)
  cases op with
  | updateLease | trip | reset => cases hother
  | tripFleet other reason now =>
    rw [run_tripFleet]
    refine ⟨hs.key, hs.tripped, hs.reason, hs.lease, fun name hname => ?_, hs.node⟩
    dsimp only
    rw [get?_tripsAfter_of_ne (hne hother name hname), hs.fleet name hname]
  | resetFleet other =>
    rw [run_resetFleet]
    refine ⟨hs.key, hs.tripped, hs.reason, hs.lease, fun name hname => ?_, hs.node⟩
    dsimp only
    rw [get?_resetIn_of_ne (hne hother name hname), hs.fleet name hname]
  | tripNode other reason now =>
    rw [run_tripNode]
    refine ⟨hs.key, hs.tripped, hs.reason, hs.lease, hs.fleet, fun name hname => ?_⟩
    dsimp only
    rw [get?_tripsAfter_of_ne (hne hother name hname), hs.node name hname]
  | resetNode other =>
    rw [run_resetNode]
    refine ⟨hs.key, hs.tripped, hs.reason, hs.lease, hs.fleet, fun name hname => ?_⟩
    dsimp only
    rw [get?_resetIn_of_ne (hne hother name hname), hs.node name hname]

/-- A run and the run without the operations on other fleets and nodes end alike. -/
theorem SameFor.exec_filter (hs : SameFor ownerId nodeId g h) (ops : List (KillSwitchOp Seconds)) :
    SameFor ownerId nodeId (Run.exec (fun s op => KillSwitchOp.run lib s op) g ops)
      (Run.exec (fun s op => KillSwitchOp.run lib s op) h (ops.filter (·.concerns ownerId nodeId))) := by
  induction ops generalizing g h with
  | nil => exact hs
  | cons op ops ih =>
    cases hconcerns : op.concerns ownerId nodeId with
    | true =>
      rw [List.filter_cons_of_pos hconcerns]
      exact ih (hs.run op)
    | false =>
      rw [List.filter_cons_of_neg (by rw [hconcerns]; exact Bool.false_ne_true)]
      exact ih (hs.run_left hconcerns)

/-! ### The guard obeys its supervisor -/

/-- A library under which one signature is valid and a lease of this time ends an hour later. -/
def sampleLibrary (valid : ByteArray → ByteArray → Bool) : LeaseLibrary Unit where
  str _ := ""
  float _ := .ok ()
  dict _ := .ok .empty
  roundedRepr _ := "15.0"
  fromisoformat text := if text = "later" then some (.aware ⟨3600000000, 0, by decide, by decide⟩) else none
  utcIso _ := "now"
  fromhexError _ := ""
  verifyEd25519Signature publicKey _ signature := valid publicKey signature

def sampleLease (nodeId triplineStatus signatureHex : String) : ExecutionLease Unit :=
  { leaseId := "lease-1", nodeId, issuedAtIso := "now", expiresAtIso := "later", ttlSeconds := (), triplineStatus,
    signatureHex }

theorem maxMicros_pos : 0 < maxMicros := by decide

def sampleTime : UtcTime := ⟨0, le_refl _, maxMicros_pos⟩

end ComputeMesh.Runtime
