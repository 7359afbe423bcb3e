import ComputeMesh.Lib.Shares

/-!
# Placement on two nodes

The candidates of `build_placement_decision` for documents that have passed its checks, and the `ExecutionPathOptimizer`
that goes over them.

* `sharedCandidate` — the layers between a coordinator and a worker, for any value of the rounded proportion;
* `sharedLayers_spec` — the layers stay between the bounds of the two nodes;
* `shared_within_memory_iff` — **the candidate that is returned has its layers, memory and split agree exactly if the
  latency is at most 50 milliseconds**: above, the optimizer replaces the split by nine tenths and one tenth.
-/

namespace ComputeMesh.Scheduler

structure NodeMemory where
  nodeId : String
  usableMemoryBytes : ℤ

structure LayerRange where
  nodeId : String
  startLayer : ℤ
  endLayerExclusive : ℤ
  deriving DecidableEq

structure MemoryModel where
  fixedCoordinatorBytes : ℤ
  estimatedLayerBytes : ℤ
  coordinatorMaxLayers : ℤ
  workerMaxLayers : ℤ
  deriving DecidableEq

inductive CandidateMode
  | localOnly
  | sharedContiguousLayers
  deriving DecidableEq

structure Candidate where
  mode : CandidateMode
  feasible : Bool
  layerRanges : List LayerRange
  tensorSplit : List ℚ
  memoryModel : Option MemoryModel := none
  explanation : String
  executionPathOptimized : Option Bool := none
  pathOptimizationApplied : Option String := none

/-- `RuntimeError`. -/
structure InternalError where
  message : String

/-! ## The optimizer -/

/-- The plan that is made of a candidate; it has all the keys that are asked for. -/
structure ExecutionPlan where
  providerNodeIds : List String
  networkLatencyMs : ℚ
  tensorSplit : List ℚ
  pathOptimizationApplied : Option String := none
  executionPathOptimized : Bool := false

def optimizeAndVerify (plan : ExecutionPlan) : ExecutionPlan :=
  if 1 < plan.providerNodeIds.length then
    match plan.tensorSplit with
    | first :: _ :: rest =>
      if 50 < plan.networkLatencyMs then
        let share := min (nearest (9 / 10)) (nearest (first * nearest (6 / 5)))
        { plan with
          tensorSplit := share :: nearest (1 - share) :: rest
          pathOptimizationApplied := some "latency_heuristic"
          executionPathOptimized := true }
      else { plan with pathOptimizationApplied := some "balanced_compute", executionPathOptimized := true }
    | _ => { plan with pathOptimizationApplied := some "balanced_compute", executionPathOptimized := true }
  else { plan with executionPathOptimized := true }

/-- The loop over the candidates, for one of them. -/
def Candidate.optimized (rttMsP50 : ℚ) (cand : Candidate) : Candidate :=
  if cand.feasible then
    let plan := optimizeAndVerify
      { providerNodeIds := cand.layerRanges.map LayerRange.nodeId
        networkLatencyMs := rttMsP50
        tensorSplit := cand.tensorSplit }
    { cand with
      executionPathOptimized := some plan.executionPathOptimized
      pathOptimizationApplied := plan.pathOptimizationApplied
      tensorSplit := plan.tensorSplit }
  else cand

/-! ## The candidates -/

/-- What `build_placement_decision` has found in its documents: the memory of the two nodes, the artifact, the number of
layers as `_resolve_layer_count` accepts it, the overhead of the policy, the two hard constraints of each node and the
measured round trip. -/
structure PlacementRequest where
  coordinator : NodeMemory
  worker : NodeMemory
  modelSize : ℤ
  layerCount : ℤ
  fixedModelOverheadFraction : ℚ
  coordinatorOk : Bool := true
  workerOk : Bool := true
  rttMsP50 : ℚ
  layers_valid : 2 ≤ layerCount ∧ layerCount ≤ 100000

structure PlacementDecision where
  localOnly : Candidate
  shared : Candidate
  mode : String

def Candidate.disable (candidate : Candidate) (reason : String) : Candidate :=
  { candidate with feasible := false, layerRanges := [], tensorSplit := [], explanation := reason }

/-- Where the layers go: the rounded proportion, held between the bounds and shifted. -/
def sharedLayers (coordMax workerMax layerCount rounded : ℤ) : ℤ × ℤ :=
  let workerLayers := min (min (max 1 rounded) workerMax) (layerCount - 1)
  let coordLayers := layerCount - workerLayers
  if coordMax < coordLayers then
    let shift := coordLayers - coordMax
    (coordLayers - shift, workerLayers + shift)
  else (coordLayers, workerLayers)

/-- **The layers stay between the bounds**, whatever the rounded proportion is. -/
theorem sharedLayers_spec {coordMax workerMax layerCount : ℤ} (rounded : ℤ) (hlayers : 2 ≤ layerCount)
    (hcoord : 1 ≤ coordMax) (hworker : 1 ≤ workerMax) (hsum : layerCount ≤ coordMax + workerMax) :
    ∃ coord worker, sharedLayers coordMax workerMax layerCount rounded = (coord, worker) ∧ coord + worker = layerCount ∧
      1 ≤ coord ∧ coord ≤ coordMax ∧ 1 ≤ worker ∧ worker ≤ workerMax := by
  simp only [sharedLayers]
  split
  · exact ⟨_, _, rfl, by omega, by omega, by omega, by omega, by omega⟩
  · exact ⟨_, _, rfl, by omega, by omega, by omega, by omega, by omega⟩

theorem nearest_nineTenths : nearest (9 / 10) = 8106479329266893 / 2 ^ 53 := by decide +kernel

theorem nearest_oneTenth : nearest (1 - nearest (9 / 10)) = 900719925474099 / 2 ^ 53 := by
  rw [nearest_nineTenths]
  decide +kernel

/-- **Above 50 milliseconds the split does not depend on the layers.** -/
theorem optimizeAndVerify_slow {plan : ExecutionPlan} {first second : ℚ} {rest : List ℚ}
    (hnodes : 1 < plan.providerNodeIds.length) (hsplit : plan.tensorSplit = first :: second :: rest) (hfirst : 1 ≤ first)
    (hslow : 50 < plan.networkLatencyMs) :
    (optimizeAndVerify plan).tensorSplit = nearest (9 / 10) :: nearest (1 - nearest (9 / 10)) :: rest := by
  have hfactor : 1 ≤ nearest (6 / 5) := one_le_nearest (by norm_num)
  have hraised : 1 ≤ nearest (first * nearest (6 / 5)) :=
    one_le_nearest (one_le_mul_of_one_le_of_one_le hfirst hfactor)
  have hcap : nearest (9 / 10) ≤ nearest (first * nearest (6 / 5)) := by
    refine le_trans ?_ hraised
    rw [nearest_nineTenths]
    norm_num
  simp only [optimizeAndVerify, if_pos hnodes, hsplit, if_pos hslow, min_eq_left hcap]

theorem optimizeAndVerify_fast {plan : ExecutionPlan} (hfast : plan.networkLatencyMs ≤ 50) :
    (optimizeAndVerify plan).tensorSplit = plan.tensorSplit := by
  unfold optimizeAndVerify
  split
  · split
    · rw [if_neg (not_lt.mpr hfast)]
    · rfl
  · rfl

theorem ratio_ne {coordLayers workerLayers : ℤ} (hworker : 1 ≤ workerLayers) (hall : coordLayers + workerLayers ≤ 100000) :
    nearest (9 / 10) * workerLayers ≠ nearest (1 - nearest (9 / 10)) * coordLayers := by
  intro heq
  rw [nearest_oneTenth, nearest_nineTenths, div_mul_eq_mul_div, div_mul_eq_mul_div, div_left_inj' (by norm_num)] at heq
  have hint : 8106479329266893 * workerLayers = 900719925474099 * coordLayers := by exact_mod_cast heq
  -- the remainder 2 of the two shares is far too small for a hundred thousand layers
  have hrest : 900719925474099 * (coordLayers - 9 * workerLayers) = 2 * workerLayers := by linarith
  rcases lt_or_ge 0 (coordLayers - 9 * workerLayers) with hpos | hneg
  · linarith
  · linarith

namespace PlacementRequest

variable (q : PlacementRequest) (rounded : ℤ)

/-- `fixed`. -/
def fixedBytes : ℤ := ⌈nearest (nearest q.modelSize * q.fixedModelOverheadFraction)⌉

def perLayer : ℤ := max 1 ⌈nearest ((max 1 (q.modelSize - q.fixedBytes) : ℤ) / q.layerCount)⌉

def coordMax : ℤ := min q.layerCount (max 0 (q.coordinator.usableMemoryBytes - q.fixedBytes) / q.perLayer)

def workerMax : ℤ := min q.layerCount (q.worker.usableMemoryBytes / q.perLayer)

def memoryModel : MemoryModel := ⟨q.fixedBytes, q.perLayer, q.coordMax, q.workerMax⟩

/-- `feasible`. -/
def Feasible : Prop := 1 ≤ q.coordMax ∧ 1 ≤ q.workerMax ∧ q.layerCount ≤ q.coordMax + q.workerMax

instance : Decidable q.Feasible := inferInstanceAs (Decidable (_ ∧ _ ∧ _))

/-- `round(layer_count * worker_max / total_capacity)`. -/
def roundedProportion : ℤ := roundEven (nearest (q.layerCount * q.workerMax / (q.coordMax + q.workerMax : ℤ)))

def localCandidate : Candidate :=
  if q.modelSize ≤ q.coordinator.usableMemoryBytes then
    { mode := .localOnly, feasible := true, layerRanges := [⟨q.coordinator.nodeId, 0, q.layerCount⟩], tensorSplit := [1]
      explanation := "selected coordinator memory budget can hold the complete artifact" }
  else
    { mode := .localOnly, feasible := false, layerRanges := [], tensorSplit := []
      explanation := "selected coordinator memory budget cannot hold the complete artifact" }

/-- The candidate of these numbers of layers. -/
def placed (layers : ℤ × ℤ) : Candidate :=
  { mode := .sharedContiguousLayers, feasible := true
    layerRanges := [⟨q.coordinator.nodeId, 0, layers.1⟩, ⟨q.worker.nodeId, layers.1, q.layerCount⟩]
    tensorSplit := [(layers.1 : ℚ), (layers.2 : ℚ)]
    memoryModel := some q.memoryModel
    explanation := "contiguous two-node candidate derived from conservative selected-device memory budgets only" }

/-- `_shared_candidate`; the rounded proportion is a parameter. -/
def sharedCandidate : Except InternalError Candidate :=
  if q.Feasible then
    let layers := sharedLayers q.coordMax q.workerMax q.layerCount rounded
    if layers.1 < 1 ∨ q.workerMax < layers.2 then
      .error ⟨"internal placement calculation exceeded memory bounds"⟩
    else .ok (q.placed layers)
  else .ok
    { mode := .sharedContiguousLayers, feasible := false, layerRanges := [], tensorSplit := []
      memoryModel := some q.memoryModel
      explanation := "combined conservative layer budgets cannot place at least one layer on each node" }

/-- The candidates after the hard constraints: the local and the shared one. -/
def constrained (shared : Candidate) : Candidate × Candidate :=
  if !q.coordinatorOk then
    (q.localCandidate.disable "coordinator hard constraints failed", shared.disable "coordinator hard constraints failed")
  else if !q.workerOk then (q.localCandidate, shared.disable "worker hard constraints failed")
  else (q.localCandidate, shared)

/-- The candidates and the recommended mode of `build_placement_decision`. -/
def buildPlacementDecision : Except InternalError PlacementDecision := do
  let candidates := q.constrained (← q.sharedCandidate rounded)
  return {
    localOnly := candidates.1.optimized q.rttMsP50
    shared := candidates.2.optimized q.rttMsP50
    mode := if candidates.2.feasible then "shared_experiment"
      else if candidates.1.feasible then "local_only" else "no_plan" }

/-! ## Layers, memory and split -/

/-- What is asked of a shared candidate that gives these numbers of layers to the two nodes. -/
structure Within (shared : Candidate) (coordLayers workerLayers : ℤ) : Prop where
  ranges : shared.layerRanges =
    [⟨q.coordinator.nodeId, 0, coordLayers⟩, ⟨q.worker.nodeId, coordLayers, q.layerCount⟩]
  all : coordLayers + workerLayers = q.layerCount
  one_each : 1 ≤ coordLayers ∧ 1 ≤ workerLayers
  coordinator_fits : q.fixedBytes + coordLayers * q.perLayer ≤ q.coordinator.usableMemoryBytes
  worker_fits : workerLayers * q.perLayer ≤ q.worker.usableMemoryBytes
  ratio : ∃ coordShare workerShare : ℚ, shared.tensorSplit = [coordShare, workerShare] ∧
    0 < coordShare ∧ 0 < workerShare ∧ coordShare * workerLayers = workerShare * coordLayers

/-- The decision is built, and its shared candidate, where it is feasible, is within the memory of the nodes. -/
def StaysWithin : Prop :=
  ∃ decision, q.buildPlacementDecision rounded = .ok decision ∧ (decision.shared.feasible = true →
    ∃ coordLayers workerLayers, q.Within decision.shared coordLayers workerLayers)

theorem perLayer_pos : 0 < q.perLayer := lt_of_lt_of_le one_pos (le_max_left _ _)

/-- The bounds are bounds of memory. -/
theorem fits_of_le {coordLayers workerLayers : ℤ} (hcoord : 1 ≤ coordLayers) (hcoordMax : coordLayers ≤ q.coordMax)
    (hworkerMax : workerLayers ≤ q.workerMax) :
    q.fixedBytes + coordLayers * q.perLayer ≤ q.coordinator.usableMemoryBytes ∧
      workerLayers * q.perLayer ≤ q.worker.usableMemoryBytes := by
  have hpos := q.perLayer_pos
  have hc : coordLayers * q.perLayer ≤ max 0 (q.coordinator.usableMemoryBytes - q.fixedBytes) :=
    (Int.le_ediv_iff_mul_le hpos).mp (hcoordMax.trans (min_le_right _ _))
  have hw : workerLayers * q.perLayer ≤ q.worker.usableMemoryBytes :=
    (Int.le_ediv_iff_mul_le hpos).mp (hworkerMax.trans (min_le_right _ _))
  have hone : 0 < coordLayers * q.perLayer := mul_pos hcoord hpos
  exact ⟨by omega, hw⟩

theorem sharedCandidate_feasible (hfeasible : q.Feasible) : ∃ coord worker,
    q.sharedCandidate rounded = .ok (q.placed (coord, worker)) ∧ coord + worker = q.layerCount ∧
      1 ≤ coord ∧ coord ≤ q.coordMax ∧ 1 ≤ worker ∧ worker ≤ q.workerMax := by
  obtain ⟨coord, worker, hlayers, hall, hcoord, hcoordMax, hworker, hworkerMax⟩ :=
    sharedLayers_spec rounded q.layers_valid.1 hfeasible.1 hfeasible.2.1 hfeasible.2.2
  refine ⟨coord, worker, ?_, hall, hcoord, hcoordMax, hworker, hworkerMax⟩
  have hin : ¬(coord < 1 ∨ q.workerMax < worker) := by omega
  simp only [sharedCandidate, if_pos hfeasible, hlayers, if_neg hin]

theorem build_shared {shared : Candidate} (h : q.sharedCandidate rounded = .ok shared) :
    ∃ decision, q.buildPlacementDecision rounded = .ok decision ∧
      decision.shared = (q.constrained shared).2.optimized q.rttMsP50 := by
  simp only [buildPlacementDecision, h]
  exact ⟨_, rfl, rfl⟩

theorem optimized_feasible (rttMsP50 : ℚ) (cand : Candidate) : (cand.optimized rttMsP50).feasible = cand.feasible := by
  unfold Candidate.optimized
  split <;> rfl

/-- The code's own condition for a feasible shared candidate. -/
def SharedFeasible : Prop := q.coordinatorOk = true ∧ q.workerOk = true ∧ q.Feasible

theorem constrained_feasible {shared : Candidate} (hshared : shared.feasible = true → q.Feasible)
    (h : (q.constrained shared).2.feasible = true) : q.SharedFeasible := by
  unfold constrained at h
  split at h
  · cases h
  · split at h
    · cases h
    · rename_i hcoordinator hworker
      exact ⟨by simpa using hcoordinator, by simpa using hworker, hshared h⟩

/-- What is returned for a feasible request stays within memory if the latency is low. -/
theorem within_placed {coord worker : ℤ} (hall : coord + worker = q.layerCount) (hcoord : 1 ≤ coord)
    (hcoordMax : coord ≤ q.coordMax) (hworker : 1 ≤ worker) (hworkerMax : worker ≤ q.workerMax)
    (hfast : q.rttMsP50 ≤ 50) : q.Within ((q.placed (coord, worker)).optimized q.rttMsP50) coord worker := by
  obtain ⟨hcoordFits, hworkerFits⟩ := q.fits_of_le hcoord hcoordMax hworkerMax
  refine ⟨rfl, hall, ⟨hcoord, hworker⟩, hcoordFits, hworkerFits, coord, worker, optimizeAndVerify_fast hfast, ?_, ?_,
    mul_comm _ _⟩
  · exact_mod_cast hcoord
  · exact_mod_cast hworker

theorem fast_of_within {coord worker coordLayers workerLayers : ℤ} (hall : coord + worker = q.layerCount)
    (hcoord : 1 ≤ coord) (hworker : 1 ≤ worker)
    (h : q.Within ((q.placed (coord, worker)).optimized q.rttMsP50) coordLayers workerLayers) : q.rttMsP50 ≤ 50 := by
  by_contra hslow
  have hranges := h.ranges
  obtain ⟨coordShare, workerShare, hsplit, -, -, hratio⟩ := h.ratio
  have hslow' : ((q.placed (coord, worker)).optimized q.rttMsP50).tensorSplit = _ :=
    optimizeAndVerify_slow (by simp [placed]) rfl (by exact_mod_cast hcoord) (not_le.mp hslow)
  rw [hslow'] at hsplit
  simp only [Candidate.optimized, placed, if_true, List.cons.injEq, LayerRange.mk.injEq, true_and, and_true] at hranges
  simp only [List.cons.injEq, and_true] at hsplit
  have hvalid := q.layers_valid
  have hall' := h.all
  obtain ⟨rfl, rfl⟩ := hsplit
  exact ratio_ne (by omega) (by omega) hratio

/-- **The shared candidate stays within memory, with a split in the ratio of the layers, exactly if it is infeasible or
the latency is at most 50 milliseconds**, whatever the rounded proportion is. -/
theorem shared_within_memory_iff : q.StaysWithin rounded ↔ (q.SharedFeasible → q.rttMsP50 ≤ 50) := by
  by_cases hfeasible : q.Feasible
  · obtain ⟨coord, worker, hcandidate, hall, hcoord, hcoordMax, hworker, hworkerMax⟩ :=
      q.sharedCandidate_feasible rounded hfeasible
    obtain ⟨decision, hdecision, hshared⟩ := q.build_shared rounded hcandidate
    have hstays : q.StaysWithin rounded ↔ (decision.shared.feasible = true →
        ∃ coordLayers workerLayers, q.Within decision.shared coordLayers workerLayers) := by
      simp [StaysWithin, hdecision]
    rw [hstays]
    constructor
    · rintro h ⟨hcoordinatorOk, hworkerOk, -⟩
      have hkept : decision.shared = (q.placed (coord, worker)).optimized q.rttMsP50 := by
        rw [hshared, constrained, hcoordinatorOk, hworkerOk]
        rfl
      obtain ⟨coordLayers, workerLayers, hwithin⟩ := h (by rw [hkept, optimized_feasible]; rfl)
      exact q.fast_of_within hall hcoord hworker (hkept ▸ hwithin)
    · intro h hreturned
      rw [hshared, optimized_feasible] at hreturned
      obtain ⟨hcoordinatorOk, hworkerOk, -⟩ := q.constrained_feasible (fun _ => hfeasible) hreturned
      have hkept : decision.shared = (q.placed (coord, worker)).optimized q.rttMsP50 := by
        rw [hshared, constrained, hcoordinatorOk, hworkerOk]
        rfl
      rw [hkept]
      exact ⟨coord, worker,
        q.within_placed hall hcoord hcoordMax hworker hworkerMax (h ⟨hcoordinatorOk, hworkerOk, hfeasible⟩)⟩
  · have hcandidate : ∃ shared : Candidate, q.sharedCandidate rounded = .ok shared ∧ shared.feasible = false :=
      ⟨_, if_neg hfeasible, rfl⟩
    obtain ⟨shared, hcandidate, hinfeasible⟩ := hcandidate
    obtain ⟨decision, hdecision, hshared⟩ := q.build_shared rounded hcandidate
    refine iff_of_true ⟨decision, hdecision, fun hreturned => ?_⟩ fun h => absurd h.2.2 hfeasible
    rw [hshared, optimized_feasible] at hreturned
    have hall := q.constrained_feasible (fun h => absurd h (by simp [hinfeasible])) hreturned
    exact absurd hall.2.2 hfeasible

/-- Two equal nodes over a slow network. -/
def slowPair : PlacementRequest :=
  { coordinator := ⟨"coordinator", 10⟩, worker := ⟨"worker", 10⟩, modelSize := 8, layerCount := 4
    fixedModelOverheadFraction := 0, rttMsP50 := 60, layers_valid := by omega }

/-- Two layers each, and a split of nine to one. -/
theorem slow_network_breaks_split : slowPair.roundedProportion = 2 ∧ ¬slowPair.StaysWithin 2 := by
  refine ⟨by decide +kernel, ?_⟩
  have hcandidate : slowPair.sharedCandidate 2 = .ok (slowPair.placed (2, 2)) := by
    have hfeasible : slowPair.Feasible := by decide +kernel
    rw [sharedCandidate, if_pos hfeasible]
    have hlayers : sharedLayers slowPair.coordMax slowPair.workerMax slowPair.layerCount 2 = (2, 2) := by decide +kernel
    have hin : ¬((2 : ℤ) < 1 ∨ slowPair.workerMax < 2) := by decide +kernel
    simp only [hlayers, if_neg hin]
  rintro ⟨decision, hdecision, hwithin⟩
  obtain ⟨decision', hdecision', hshared⟩ := slowPair.build_shared 2 hcandidate
  obtain rfl : decision' = decision := Except.ok.inj (hdecision'.symm.trans hdecision)
  obtain ⟨coordLayers, workerLayers, h⟩ := hwithin (by rw [hshared, optimized_feasible]; rfl)
  have hall : (2 : ℤ) + 2 = slowPair.layerCount := rfl
  have hfast := slowPair.fast_of_within hall (by decide) (by decide) (hshared ▸ h)
  exact absurd hfast (by decide)

end PlacementRequest

end ComputeMesh.Scheduler
