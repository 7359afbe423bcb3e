import ComputeMesh.Lib.Shares

/-!
# Sharding plans

`DynamicShardingEngine.calculate_sharding_plan`: the layers of a model over the nodes in proportion to their memory, with one
more layer for those whose share lost most when it was rounded down.

* `calculateShardingPlan` — the plan, with ratios that are exact; `none` is an `IndexError`;
* `distribute_spec` — the remaining layers go to different nodes, one to each;
* `sharding_plan_fits_iff` — **the plan always covers the layers, and fits exactly if the nodes that are given one more layer
  have room for it**.
-/

namespace ComputeMesh.Runtime

open List

structure NodeShardCapability where
  nodeId : String
  vramBytes : ℤ
  tflops : ℚ := 0
  bandwidthMbps : ℚ := 1000
  isLocal : Bool := false
  healthy : Bool := true
  tensorParallelSupported : Bool := true

structure ShardAssignment where
  nodeId : String
  startLayer : ℤ
  endLayer : ℤ
  allocatedVramBytes : ℤ
  assignedLayersCount : ℤ
  fraction : ℚ
  isLocal : Bool
  tensorParallelDegree : ℕ := 1
  estimatedTransferMs : ℚ := 0

/-- The reasons, with the numbers in their texts. -/
inductive ShardingReason
  | noHealthyNodes
  | insufficientVram (available required : ℤ)
  | success

structure ShardingPlan where
  modelId : String
  totalLayers : ℤ
  requiredVramBytes : ℤ
  assignments : List ShardAssignment
  feasible : Bool
  reason : ShardingReason
  estimatedPipelineLatencyMs : ℚ := 0
  tensorParallelEnabled : Bool

/-- The parameters of `calculate_sharding_plan`, without the nodes. -/
structure ShardingRequest where
  modelId : String
  totalLayers : ℤ
  modelVramBytes : ℤ
  reserveVramBytes : ℤ := 1024 ^ 3
  enableTensorParallel : Bool := false
  minBandwidthMbps : ℚ := 100

namespace ShardingRequest

section Sharding

variable (q : ShardingRequest)

/-- `n.vram_bytes - reserve_vram_bytes`. -/
def headroom (n : NodeShardCapability) : ℤ := n.vramBytes - q.reserveVramBytes

/-- `healthy_nodes`; `stale` are the nodes whose heartbeat has timed out. -/
def healthyNodes (stale : String → Bool) (nodes : List NodeShardCapability) : List NodeShardCapability :=
  nodes.filter fun n => n.healthy && !stale n.nodeId && decide (0 < q.headroom n) &&
    decide (q.minBandwidthMbps ≤ n.bandwidthMbps)

/-- The order of the keys `(is_local, tflops, vram_bytes)`. -/
def keyLe (a b : NodeShardCapability) : Bool :=
  (!a.isLocal && b.isLocal) || (a.isLocal == b.isLocal && (decide (a.tflops < b.tflops) ||
    (a.tflops == b.tflops && decide (a.vramBytes ≤ b.vramBytes))))

def sortedNodes (nodes : List NodeShardCapability) : List NodeShardCapability :=
  nodes.insertionSort fun a b => keyLe b a = true

def sumWeights (nodes : List NodeShardCapability) : ℤ := (nodes.map q.headroom).sum

def rawLayerCounts (nodes : List NodeShardCapability) : List ℚ :=
  nodes.map fun n => (q.headroom n : ℚ) / q.sumWeights nodes * q.totalLayers

/-- `assigned_layers`, before the remaining layers are distributed. -/
def roundedDown (nodes : List NodeShardCapability) : List ℤ := (q.rawLayerCounts nodes).map truncate

/-- `remainders`, the largest first. -/
def remainders (nodes : List NodeShardCapability) : List (ℚ × ℕ) :=
  ((q.rawLayerCounts nodes).map fun raw => raw - truncate raw).zipIdx.insertionSort fun a b => b.1 ≤ a.1

def remaining (nodes : List NodeShardCapability) : ℤ := q.totalLayers - (q.roundedDown nodes).sum

/-- One layer more for each of the first `k` indices. -/
def distribute (assignedLayers : List ℤ) : List (ℚ × ℕ) → ℕ → Option (List ℤ)
  | _, 0 => some assignedLayers
  | [], _ + 1 => none
  | r :: rest, k + 1 => distribute (assignedLayers.modify r.2 (· + 1)) rest k

/-- `int(layer_count * vram_per_layer)`. -/
def allocatedVram (layerCount : ℤ) : ℤ := truncate (layerCount * (q.modelVramBytes / max 1 (q.totalLayers : ℚ)))

def transferMs (node : NodeShardCapability) : ℚ :=
  if node.isLocal = true then 1 / 10 else 16384 / (max 1 node.bandwidthMbps * 1000000 / 8) * 1000

/-- The loop over the sorted nodes with their layers: each node that has some, with its assignment. -/
def assignFrom (nodeCount : ℕ) (currentLayer : ℤ) :
    List (NodeShardCapability × ℤ) → List (NodeShardCapability × ShardAssignment)
  | [] => []
  | (node, layerCount) :: rest =>
    if layerCount ≤ 0 then assignFrom nodeCount currentLayer rest
    else
      (node,
        { nodeId := node.nodeId, startLayer := currentLayer, endLayer := currentLayer + layerCount - 1
          allocatedVramBytes := q.allocatedVram layerCount
          assignedLayersCount := layerCount, fraction := roundTo (layerCount / max 1 (q.totalLayers : ℚ)) 4
          isLocal := node.isLocal
          tensorParallelDegree :=
            if q.enableTensorParallel && node.tensorParallelSupported && decide (1 < nodeCount) then min 2 nodeCount else 1
          estimatedTransferMs := roundTo (transferMs node) 3 }) ::
        assignFrom nodeCount (currentLayer + layerCount) rest

def servedNodes (nodes : List NodeShardCapability) : Option (List (NodeShardCapability × ShardAssignment)) :=
  (distribute (q.roundedDown nodes) (q.remainders nodes) (q.remaining nodes).toNat).map fun assignedLayers =>
    q.assignFrom nodes.length 0 (nodes.zip assignedLayers)

/-- `est_pipeline_latency`. -/
def pipelineLatency (nodes : List NodeShardCapability) (served : List (NodeShardCapability × ShardAssignment)) : ℚ :=
  let avgTflops := (nodes.map NodeShardCapability.tflops).sum / max 1 nodes.length
  let totalTransferMs := (served.map fun p => transferMs p.1 * p.2.assignedLayersCount).sum
  roundTo (q.modelVramBytes / 1024 ^ 3 * (100 / max 1 avgTflops) + totalTransferMs) 2

def calculateShardingPlan (stale : String → Bool) (nodes : List NodeShardCapability) : Option ShardingPlan :=
  let healthy := q.healthyNodes stale nodes
  let totalAvailVram := q.sumWeights healthy
  let refused (reason : ShardingReason) : ShardingPlan :=
    { modelId := q.modelId, totalLayers := q.totalLayers, requiredVramBytes := q.modelVramBytes
      assignments := [], feasible := false, reason, tensorParallelEnabled := q.enableTensorParallel }
  if healthy = [] then some (refused .noHealthyNodes)
  else if totalAvailVram < q.modelVramBytes then some (refused (.insufficientVram totalAvailVram q.modelVramBytes))
  else
    (q.servedNodes (sortedNodes healthy)).map fun served =>
      { modelId := q.modelId, totalLayers := q.totalLayers, requiredVramBytes := q.modelVramBytes
        assignments := served.map Prod.snd, feasible := true, reason := .success
        estimatedPipelineLatencyMs := q.pipelineLatency (sortedNodes healthy) served
        tensorParallelEnabled := q.enableTensorParallel }

/-- The nodes that are given one of the remaining layers have room for it. -/
def RemainderFits (nodes : List NodeShardCapability) : Prop :=
  ∀ r ∈ (q.remainders nodes).take (q.remaining nodes).toNat,
    ∀ node count, nodes[r.2]? = some node → (q.roundedDown nodes)[r.2]? = some count →
      q.allocatedVram (count + 1) ≤ q.headroom node

end Sharding

variable {q : ShardingRequest}

/-! ### The remaining layers -/

theorem sum_modify_succ {counts : List ℤ} {i : ℕ} (h : i < counts.length) :
    (counts.modify i (· + 1)).sum = counts.sum + 1 := by
  induction counts generalizing i with
  | nil => cases h
  | cons c counts ih =>
    cases i with
    | zero => simp [add_right_comm]
    | succ i => simp [ih (Nat.lt_of_succ_lt_succ h), add_assoc]

/-- **The remaining layers** go to different nodes. -/
theorem distribute_spec {order : List (ℚ × ℕ)} {counts : List ℤ} {k : ℕ} (hk : k ≤ order.length)
    (hlt : ∀ r ∈ order, r.2 < counts.length) (hnodup : (order.map Prod.snd).Nodup) :
    ∃ out, distribute counts order k = some out ∧ out.length = counts.length ∧ out.sum = counts.sum + k ∧
      ∀ i, out[i]? = counts[i]?.map fun c => if i ∈ (order.take k).map Prod.snd then c + 1 else c := by
  induction order generalizing counts k with
  | nil =>
    obtain rfl : k = 0 := Nat.le_zero.mp hk
    exact ⟨counts, rfl, rfl, by simp, fun i => by simp⟩
  | cons r rest ih =>
    cases k with
    | zero => exact ⟨counts, rfl, rfl, by simp, fun i => by simp⟩
    | succ k =>
      obtain ⟨hfresh, hnodup⟩ := nodup_cons.mp hnodup
      obtain ⟨out, hout, hlength, hsum, hget⟩ := @ih (counts.modify r.2 (· + 1)) k (Nat.le_of_succ_le_succ hk)
        (fun r' hr' => by simpa using hlt r' (mem_cons_of_mem _ hr')) hnodup
      refine ⟨out, hout, by simpa using hlength, ?_, fun i => ?_⟩
      · rw [hsum, sum_modify_succ (hlt r mem_cons_self)]
        push_cast
        ring
      · rw [hget, getElem?_modify, take_succ_cons, map_cons]
        by_cases hi : r.2 = i
        · subst hi
          have hout : r.2 ∉ (rest.map Prod.snd).take k := fun hmem => hfresh (mem_of_mem_take hmem)
          cases counts[r.2]? <;> simp [hout]
        · cases counts[i]? <;> simp [hi, Ne.symm hi]

/-! ### The shares -/

section Shares

variable {nodes : List NodeShardCapability} (hpos : ∀ n ∈ nodes, 0 < q.headroom n) (hne : nodes ≠ [])
  (hlayers : 1 ≤ q.totalLayers)

include hpos hne in
theorem sumWeights_pos : 0 < q.sumWeights nodes :=
  sum_pos _ (by simpa using hpos) (by simpa using hne)

include hpos hne hlayers in
theorem roundedDown_eq : q.roundedDown nodes = (q.rawLayerCounts nodes).map Int.floor := by
  refine map_congr_left fun raw hraw => ?_
  obtain ⟨n, hn, rfl⟩ := mem_map.mp hraw
  have hn := hpos n hn
  have hsum := sumWeights_pos hpos hne
  exact if_pos (by positivity)

include hpos hne in
theorem sum_rawLayerCounts : (q.rawLayerCounts nodes).sum = q.totalLayers := by
  have hsum : (q.sumWeights nodes : ℚ) ≠ 0 := by exact_mod_cast (sumWeights_pos hpos hne).ne'
  have hall : ∀ (l : List NodeShardCapability) (total : ℚ),
      (l.map fun n => (q.headroom n : ℚ) / total * q.totalLayers).sum
        = q.sumWeights l / total * q.totalLayers := by
    intro l total
    induction l with
    | nil => simp [sumWeights]
    | cons n l ih =>
      rw [map_cons, sum_cons, ih]
      simp only [sumWeights, map_cons, sum_cons]
      push_cast
      ring
  rw [rawLayerCounts, hall, div_self hsum, one_mul]

include hpos hne hlayers in
theorem remaining_bounds : 0 ≤ q.remaining nodes ∧ q.remaining nodes < nodes.length := by
  have hfloor := sum_floor_le (q.rawLayerCounts nodes)
  have hless := @sum_lt_floor_add (q.rawLayerCounts nodes) (by simpa [rawLayerCounts] using hne)
  rw [sum_rawLayerCounts hpos hne] at hfloor hless
  have hlength : (q.rawLayerCounts nodes).length = nodes.length := length_map _
  rw [hlength] at hless
  have hfloorZ := Int.cast_le.mp hfloor
  have hlessZ := Int.cast_lt.mp hless
  rw [remaining, roundedDown_eq hpos hne hlayers]
  omega

include hpos hne hlayers in
/-- **A share that is rounded down has room.** -/
theorem roundedDown_fits (hfits : q.modelVramBytes ≤ q.sumWeights nodes) {i : ℕ} {node : NodeShardCapability}
    {count : ℤ} (hnode : nodes[i]? = some node) (hcount : (q.roundedDown nodes)[i]? = some count) :
    0 ≤ count ∧ q.allocatedVram count ≤ q.headroom node := by
  have hsum := sumWeights_pos hpos hne
  have hn := hpos node (mem_of_getElem? hnode)
  rw [roundedDown_eq hpos hne hlayers, rawLayerCounts, map_map, getElem?_map, hnode] at hcount
  obtain rfl := Option.some.inj hcount
  have hshare : (0 : ℚ) ≤ q.headroom node / q.sumWeights nodes * q.totalLayers := by positivity
  have hzero := Int.floor_nonneg.mpr hshare
  have hroom : (⌊(q.headroom node : ℚ) / q.sumWeights nodes * q.totalLayers⌋ : ℚ) * q.modelVramBytes
      ≤ q.totalLayers * q.headroom node * 1 :=
    share_fits (by exact_mod_cast hzero) (by exact_mod_cast hsum) ((Int.floor_le _).trans_eq (mul_comm _ _)) zero_le_one
      (by rw [mul_one]; exact_mod_cast hfits)
  have hlayersQ : (0 : ℚ) < q.totalLayers := by exact_mod_cast hlayers
  have hmax : max (1 : ℚ) q.totalLayers = q.totalLayers := max_eq_right (by exact_mod_cast hlayers)
  refine ⟨hzero, truncate_le ?_⟩
  show (⌊(q.headroom node : ℚ) / q.sumWeights nodes * q.totalLayers⌋ : ℚ)
    * (q.modelVramBytes / max 1 (q.totalLayers : ℚ)) ≤ q.headroom node
  rw [hmax, ← mul_div_assoc, div_le_iff₀ hlayersQ]
  linarith

/-! ### The plan -/

theorem tiles_assignFrom (nodeCount : ℕ) (currentLayer : ℤ) (pairs : List (NodeShardCapability × ℤ))
    (hnonneg : ∀ e ∈ pairs, 0 ≤ e.2) :
    Tiles currentLayer (currentLayer + (pairs.map Prod.snd).sum)
      ((q.assignFrom nodeCount currentLayer pairs).map fun p => (p.2.startLayer, p.2.endLayer + 1)) := by
  induction pairs generalizing currentLayer with
  | nil => exact (add_zero _).symm
  | cons e rest ih =>
    obtain ⟨node, count⟩ := e
    obtain ⟨hcount, hrest⟩ := forall_mem_cons.mp hnonneg
    rw [assignFrom, map_cons, sum_cons, ← add_assoc]
    split
    · next hle =>
      obtain rfl : count = 0 := le_antisymm hle hcount
      rw [add_zero]
      exact ih _ hrest
    · refine ⟨rfl, ?_, ?_⟩
      · show currentLayer ≤ currentLayer + count - 1 + 1
        omega
      · show Tiles (currentLayer + count - 1 + 1) _ _
        rw [sub_add_cancel]
        exact ih _ hrest

theorem forall_assignFrom_iff (nodeCount : ℕ) (currentLayer : ℤ) (pairs : List (NodeShardCapability × ℤ)) :
    (∀ p ∈ q.assignFrom nodeCount currentLayer pairs, p.2.allocatedVramBytes ≤ q.headroom p.1) ↔
      ∀ e ∈ pairs, 0 < e.2 → q.allocatedVram e.2 ≤ q.headroom e.1 := by
  induction pairs generalizing currentLayer with
  | nil => simp [assignFrom]
  | cons e rest ih =>
    rw [assignFrom, forall_mem_cons]
    split
    · next hle =>
      rw [ih]
      exact (and_iff_right fun hlt => absurd hlt (not_lt.mpr hle)).symm
    · next hlt => rw [forall_mem_cons, ih, imp_iff_right (not_le.mp hlt)]

include hpos hne hlayers in
/-- **What the loop makes** of nodes that have room for the model together. -/
theorem servedNodes_spec (hfits : q.modelVramBytes ≤ q.sumWeights nodes) :
    ∃ served, q.servedNodes nodes = some served ∧
      Tiles 0 q.totalLayers (served.map fun p => (p.2.startLayer, p.2.endLayer + 1)) ∧
      ((∀ p ∈ served, p.2.allocatedVramBytes ≤ q.headroom p.1) ↔ q.RemainderFits nodes) := by
  obtain ⟨hleast, hmost⟩ := remaining_bounds hpos hne hlayers
  have hlength : (q.roundedDown nodes).length = nodes.length := by simp [roundedDown, rawLayerCounts]
  have hindices : ((q.remainders nodes).map Prod.snd).Perm (range nodes.length) := by
    refine ((perm_insertionSort _ _).map Prod.snd).trans ?_
    rw [zipIdx_map_snd, range_eq_range']
    simp [rawLayerCounts]
  have hk : (q.remaining nodes).toNat ≤ (q.remainders nodes).length := by
    have hcount := hindices.length_eq
    rw [length_map, length_range] at hcount
    omega
  obtain ⟨out, hout, houtLength, hsum, hget⟩ := @distribute_spec _ (q.roundedDown nodes) _ hk
    (fun r hr => by simpa [hlength] using hindices.subset (mem_map_of_mem hr)) (hindices.nodup_iff.mpr nodup_range)
  -- a node of the loop has its rounded share, and one more if it is among the first of `remainders`
  have hzip : ∀ e ∈ nodes.zip out, ∃ i c, nodes[i]? = some e.1 ∧ (q.roundedDown nodes)[i]? = some c ∧
      (if i ∈ ((q.remainders nodes).take (q.remaining nodes).toNat).map Prod.snd then c + 1 else c) = e.2 := by
    intro e he
    obtain ⟨i, hi⟩ := mem_iff_getElem?.mp he
    obtain ⟨hnode, hcount⟩ := getElem?_zip_eq_some.mp hi
    rw [hget, Option.map_eq_some_iff] at hcount
    obtain ⟨c, hc, he⟩ := hcount
    exact ⟨i, c, hnode, hc, he⟩
  refine ⟨_, by rw [servedNodes, hout]; rfl, ?_, ?_⟩
  · have hnonneg : ∀ e ∈ nodes.zip out, 0 ≤ e.2 := by
      intro e he
      obtain ⟨i, c, hnode, hc, he⟩ := hzip e he
      have hzero := (roundedDown_fits hpos hne hlayers hfits hnode hc).1
      rw [← he]
      split <;> omega
    have htiles := @tiles_assignFrom q nodes.length 0 _ hnonneg
    have hall : (q.roundedDown nodes).sum + ((q.remaining nodes).toNat : ℤ) = q.totalLayers := by
      rw [Int.toNat_of_nonneg hleast, remaining]
      omega
    rwa [map_snd_zip (by omega), hsum, zero_add, hall] at htiles
  · rw [forall_assignFrom_iff]
    constructor
    · intro hroom r hr node count hnode hcount
      have hone : out[r.2]? = some (count + 1) := by
        rw [hget, hcount, Option.map_some, if_pos (mem_map_of_mem hr)]
      have hzero := (roundedDown_fits hpos hne hlayers hfits hnode hcount).1
      have hmem : (nodes.zip out)[r.2]? = some (node, count + 1) := getElem?_zip_eq_some.mpr ⟨hnode, hone⟩
      exact hroom (node, count + 1) (mem_of_getElem? hmem) (by omega)
    · intro hroom e he _
      obtain ⟨i, c, hnode, hc, he⟩ := hzip e he
      rw [← he]
      split
      · next hmem =>
        obtain ⟨r, hr, rfl⟩ := mem_map.mp hmem
        exact hroom r hr e.1 c hnode hc
      · exact (roundedDown_fits hpos hne hlayers hfits hnode hc).2

end Shares

/-- **The sharding plan**: no index is past the nodes, a feasible plan covers the layers, and it fits exactly if the nodes
that are given one of the remaining layers have room for it. -/
theorem sharding_plan_fits_iff (q : ShardingRequest) (stale : String → Bool) (nodes : List NodeShardCapability)
    (hlayers : 1 ≤ q.totalLayers) :
    ∃ plan, q.calculateShardingPlan stale nodes = some plan ∧ (plan.feasible = true →
      Tiles 0 q.totalLayers (plan.assignments.map fun a => (a.startLayer, a.endLayer + 1)) ∧
      ((∃ served, q.servedNodes (sortedNodes (q.healthyNodes stale nodes)) = some served ∧
          plan.assignments = served.map Prod.snd ∧ ∀ p ∈ served, p.2.allocatedVramBytes ≤ q.headroom p.1) ↔
        q.RemainderFits (sortedNodes (q.healthyNodes stale nodes)))) := by
  simp only [calculateShardingPlan]
  split
  · exact ⟨_, rfl, nofun⟩
  next hne =>
  split
  · exact ⟨_, rfl, nofun⟩
  next hfits =>
  have hperm := perm_insertionSort (fun a b => keyLe b a = true) (q.healthyNodes stale nodes)
  have hpos : ∀ n ∈ sortedNodes (q.healthyNodes stale nodes), 0 < q.headroom n := by
    intro n hn
    have hmem := of_mem_filter (hperm.subset hn)
    simp only [Bool.and_eq_true, decide_eq_true_eq] at hmem
    exact hmem.1.2
  have hnonempty : sortedNodes (q.healthyNodes stale nodes) ≠ [] := fun hnil => hne (nil_perm.mp (hnil ▸ hperm))
  have hsum : q.sumWeights (sortedNodes (q.healthyNodes stale nodes)) = q.sumWeights (q.healthyNodes stale nodes) :=
    (hperm.map _).sum_eq
  obtain ⟨served, hserved, htiles, hiff⟩ := servedNodes_spec hpos hnonempty hlayers (by rw [hsum]; exact not_lt.mp hfits)
  rw [hserved]
  refine ⟨_, rfl, fun _ => ⟨?_, ?_⟩⟩
  · simpa [map_map, Function.comp_def] using htiles
  · simp only [Option.some.injEq, exists_eq_left', true_and]
    exact hiff

theorem eighty_layers_covered : ∃ plan,
    calculateShardingPlan ⟨"Qwen/70B", 80, 32 * 1024 ^ 3, 1024 ^ 3, false, 100⟩ (fun _ => false)
      [{ nodeId := "node-1", vramBytes := 24 * 1024 ^ 3 }, { nodeId := "node-2", vramBytes := 16 * 1024 ^ 3 }] = some plan ∧
    (plan.feasible = true → Tiles 0 80 (plan.assignments.map fun a => (a.startLayer, a.endLayer + 1))) := by
  obtain ⟨plan, hplan, hcovers⟩ := sharding_plan_fits_iff ⟨"Qwen/70B", 80, 32 * 1024 ^ 3, 1024 ^ 3, false, 100⟩
    (fun _ => false) [{ nodeId := "node-1", vramBytes := 24 * 1024 ^ 3 }, { nodeId := "node-2", vramBytes := 16 * 1024 ^ 3 }]
    (show 1 ≤ 80 by decide)
  exact ⟨plan, hplan, fun hfeasible => (hcovers hfeasible).1⟩

/-- One layer of two units over two nodes with room for one each: the plan is feasible, and the first node is given both. -/
theorem one_layer_overfills : ¬∀ (q : ShardingRequest) (nodes : List NodeShardCapability)
    (served : List (NodeShardCapability × ShardAssignment)), 1 ≤ q.totalLayers →
    ((q.calculateShardingPlan (fun _ => false) nodes).any fun plan => plan.feasible) = true →
    q.servedNodes (sortedNodes (q.healthyNodes (fun _ => false) nodes)) = some served →
    ∀ p ∈ served, p.2.allocatedVramBytes ≤ q.headroom p.1 := by
  intro hall
  let q : ShardingRequest := ⟨"model", 1, 2 * 2 ^ 30, 0, false, 100⟩
  have hover : (q.servedNodes (sortedNodes (q.healthyNodes (fun _ => false)
      [{ nodeId := "node-1", vramBytes := 2 ^ 30 }, { nodeId := "node-2", vramBytes := 2 ^ 30 }]))).any
      (fun served => served.any fun p => decide (q.headroom p.1 < p.2.allocatedVramBytes)) = true := by decide +kernel
  obtain ⟨served, hserved, hany⟩ := Option.any_eq_true _ _ |>.mp hover
  obtain ⟨p, hp, hless⟩ := any_eq_true.mp hany
  exact absurd (hall q _ served (by decide) (by decide +kernel) hserved p hp) (not_le.mpr (of_decide_eq_true hless))

end ShardingRequest

end ComputeMesh.Runtime
