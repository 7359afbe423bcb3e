import ComputeMesh.Lib.Shares

/-!
# Plans over several clusters

`MultiClusterFederator.calculate_cross_cluster_plan`: the layers of a model over the clusters, largest first, each with its
share rounded to the nearest, at least one, and what is left for the last.

* `calculateCrossClusterPlan` — the plan, with fractions that are exact;
* `serve_spec` — what the loop makes from any cluster on;
* `cross_cluster_plan_fits_iff` — **a plan always covers the layers, and fits exactly if the clusters that are given more
  than their share have room for it**.
-/

namespace ComputeMesh.Runtime

open List

structure ClusterNode where
  vramBytes : ℤ
  isActive : Bool := true

structure FederatedCluster where
  clusterId : String
  name : String
  region : String
  nodes : List ClusterNode

namespace FederatedCluster

def activeNodes (c : FederatedCluster) : List ClusterNode := c.nodes.filter ClusterNode.isActive

def totalVramBytes (c : FederatedCluster) : ℤ := (c.activeNodes.map ClusterNode.vramBytes).sum

end FederatedCluster

structure ClusterAssignment where
  clusterId : String
  clusterName : String
  region : String
  startLayer : ℤ
  endLayer : ℤ
  assignedLayersCount : ℤ
  allocatedVramGb : ℚ
  nodeCount : ℕ

inductive CrossClusterPlan
  | insufficient (modelId : String) (required available : ℤ)
  | feasible (modelId : String) (totalLayers : ℤ) (federatedVramGb : ℚ) (clusterAssignments : List ClusterAssignment)

/-- The parameters of `calculate_cross_cluster_plan`. -/
structure FederationRequest where
  modelId : String
  totalLayers : ℤ
  modelVramBytes : ℤ

namespace FederationRequest

section Federation

variable (q : FederationRequest) (totalVram : ℤ)

/-- `total_vram_bytes` of `get_federated_capacity`. -/
def federatedVram (clusters : List FederatedCluster) : ℤ := (clusters.map FederatedCluster.totalVramBytes).sum

def sortedClusters (clusters : List FederatedCluster) : List FederatedCluster :=
  (clusters.filter fun c => decide (0 < c.totalVramBytes)).insertionSort fun a b => b.totalVramBytes ≤ a.totalVramBytes

/-- `total_layers * fraction`. -/
def share (c : FederatedCluster) : ℚ := q.totalLayers * (c.totalVramBytes / totalVram)

def assignedLayers (currentLayer : ℤ) (c : FederatedCluster) : ℤ :=
  max 1 (min (q.totalLayers - currentLayer) (roundEven (q.share totalVram c)))

def assignment (start stop : ℤ) (c : FederatedCluster) : ClusterAssignment :=
  { clusterId := c.clusterId, clusterName := c.name, region := c.region, startLayer := start, endLayer := stop
    assignedLayersCount := stop - start
    allocatedVramGb := roundTo (truncate (q.modelVramBytes * ((stop - start) / q.totalLayers)) / 1024 ^ 3) 2
    nodeCount := c.activeNodes.length }

/-- The loop: the clusters that are served, with their assignments, and the next layer. -/
def serveFrom (currentLayer : ℤ) : List FederatedCluster → List (FederatedCluster × ClusterAssignment) × ℤ
  | [] => ([], currentLayer)
  | c :: rest =>
    if q.totalLayers ≤ currentLayer then ([], currentLayer)
    else
      let stop := min q.totalLayers (currentLayer + q.assignedLayers totalVram currentLayer c)
      let (served, next) := serveFrom stop rest
      (if 0 < stop - currentLayer then (c, q.assignment currentLayer stop c) :: served else served, next)

/-- The layers that remain go to the last assignment. -/
def catchRemaining : List (FederatedCluster × ClusterAssignment) × ℤ → List (FederatedCluster × ClusterAssignment)
  | (served, next) =>
    if next < q.totalLayers then
      served.dropLast ++ (served.getLast?.map fun p =>
        (p.1, { p.2 with endLayer := q.totalLayers
                         assignedLayersCount := p.2.assignedLayersCount + (q.totalLayers - next) })).toList
    else served

def served (clusters : List FederatedCluster) : List (FederatedCluster × ClusterAssignment) :=
  q.catchRemaining (q.serveFrom (federatedVram clusters) 0 (sortedClusters clusters))

def calculateCrossClusterPlan (clusters : List FederatedCluster) : CrossClusterPlan :=
  let totalVram := federatedVram clusters
  if totalVram < q.modelVramBytes then .insufficient q.modelId q.modelVramBytes totalVram
  else .feasible q.modelId q.totalLayers (roundTo (totalVram / 1024 ^ 3) 2) ((q.served clusters).map Prod.snd)

/-- A cluster has room for so many layers. -/
def Fits (c : FederatedCluster) (layers : ℤ) : Prop :=
  (q.modelVramBytes : ℚ) * layers / q.totalLayers ≤ c.totalVramBytes

def turn (currentLayer : ℤ) (c : FederatedCluster) : ℤ :=
  min (q.totalLayers - currentLayer) (q.assignedLayers totalVram currentLayer c)

/-- A cluster that is given more than its share has room for it, and so has the last for what is left. -/
def HasRoom (currentLayer : ℤ) : List FederatedCluster → Prop
  | [] => True
  | [last] => currentLayer < q.totalLayers → q.Fits last (q.totalLayers - currentLayer)
  | c :: next :: rest => currentLayer < q.totalLayers →
      (q.share totalVram c < q.turn totalVram currentLayer c → q.Fits c (q.turn totalVram currentLayer c)) ∧
        HasRoom (currentLayer + q.turn totalVram currentLayer c) (next :: rest)

end Federation

variable {q : FederationRequest} {totalVram : ℤ}

theorem hasRoom_of_le {currentLayer : ℤ} (h : q.totalLayers ≤ currentLayer) (clusters : List FederatedCluster) :
    q.HasRoom totalVram currentLayer clusters := by
  match clusters with
  | [] => exact trivial
  | [_] | _ :: _ :: _ => exact fun hlt => absurd hlt (not_lt.mpr h)

theorem serveFrom_of_le {currentLayer : ℤ} (h : q.totalLayers ≤ currentLayer) (clusters : List FederatedCluster) :
    q.serveFrom totalVram currentLayer clusters = ([], currentLayer) := by
  cases clusters with
  | nil => rfl
  | cons c rest => exact if_pos h

/-- **A share that is not rounded up has room.** -/
theorem fits_of_le_share (hlayers : 0 < q.totalLayers) (htotal : 0 < totalVram) (hfits : q.modelVramBytes ≤ totalVram)
    {c : FederatedCluster} {count : ℤ} (hcount : 0 ≤ count) (h : (count : ℚ) ≤ q.share totalVram c) : q.Fits c count := by
  have hroom : (count : ℚ) * q.modelVramBytes ≤ q.totalLayers * c.totalVramBytes * 1 :=
    share_fits (by exact_mod_cast hcount) (by exact_mod_cast htotal) h zero_le_one
      (by rw [mul_one]; exact_mod_cast hfits)
  rw [Fits, div_le_iff₀ (by exact_mod_cast hlayers)]
  linarith

theorem catchRemaining_cons {p : FederatedCluster × ClusterAssignment} {served : List (FederatedCluster × ClusterAssignment)}
    (h : served ≠ []) (next : ℤ) : q.catchRemaining (p :: served, next) = p :: q.catchRemaining (served, next) := by
  simp only [catchRemaining]
  split
  · rw [dropLast_cons_of_ne_nil h, getLast?_cons_of_ne_nil h, cons_append]
  · rfl

theorem serveFrom_ne_nil {currentLayer : ℤ} (h : currentLayer < q.totalLayers) (c : FederatedCluster)
    (rest : List FederatedCluster) : (q.serveFrom totalVram currentLayer (c :: rest)).1 ≠ [] := by
  have hone : 1 ≤ q.assignedLayers totalVram currentLayer c := le_max_left _ _
  rw [serveFrom, if_neg (not_le.mpr h)]
  simp only [show 0 < min q.totalLayers (currentLayer + q.assignedLayers totalVram currentLayer c) - currentLayer by omega,
    if_true]
  exact cons_ne_nil _ _

/-- What is asked of the assignments from a layer on. -/
structure CoversFrom (start : ℤ) (served : List (FederatedCluster × ClusterAssignment)) : Prop where
  tiles : Tiles start q.totalLayers (served.map fun p => (p.2.startLayer, p.2.endLayer))
  nonempty : ∀ p ∈ served, p.2.startLayer < p.2.endLayer

/-- **What the loop makes** from any cluster on. -/
theorem serve_spec (hlayers : 0 < q.totalLayers) (htotal : 0 < totalVram) (hfits : q.modelVramBytes ≤ totalVram)
    {currentLayer : ℤ} (hcurrent : currentLayer < q.totalLayers) {clusters : List FederatedCluster} (hne : clusters ≠ []) :
    q.CoversFrom currentLayer (q.catchRemaining (q.serveFrom totalVram currentLayer clusters)) ∧
      ((∀ p ∈ q.catchRemaining (q.serveFrom totalVram currentLayer clusters), q.Fits p.1 p.2.assignedLayersCount) ↔
        q.HasRoom totalVram currentLayer clusters) := by
  induction clusters generalizing currentLayer with
  | nil => exact absurd rfl hne
  | cons c rest ih =>
    have hone : 1 ≤ q.assignedLayers totalVram currentLayer c := le_max_left _ _
    have hstop : min q.totalLayers (currentLayer + q.assignedLayers totalVram currentLayer c)
        = currentLayer + q.turn totalVram currentLayer c := by
      rw [turn]
      omega
    have hturn : 0 < q.turn totalVram currentLayer c := by
      rw [turn]
      omega
    rw [serveFrom, if_neg (not_le.mpr hcurrent), hstop]
    have hend : currentLayer + q.turn totalVram currentLayer c ≤ q.totalLayers := by omega
    generalize hcount : q.turn totalVram currentLayer c = count at hturn hend
    have hpos : 0 < currentLayer + count - currentLayer := by omega
    simp only [hpos, if_true]
    cases rest with
    | nil =>
      -- the last cluster reaches the last layer, by its own share or by what is left
      have hlast : q.catchRemaining ([(c, q.assignment currentLayer (currentLayer + count) c)], currentLayer + count)
          = [(c, { q.assignment currentLayer (currentLayer + count) c with
              endLayer := q.totalLayers, assignedLayersCount := q.totalLayers - currentLayer })] := by
        simp only [catchRemaining, assignment]
        split
        · simp
          omega
        · simp [show currentLayer + count = q.totalLayers by omega]
      rw [serveFrom, hlast]
      refine ⟨⟨⟨rfl, hcurrent.le, rfl⟩, forall_mem_singleton.mpr hcurrent⟩, ?_⟩
      rw [forall_mem_singleton, HasRoom]
      exact (imp_iff_right hcurrent).symm
    | cons next rest =>
      have hroom : q.Fits c (q.assignment currentLayer (currentLayer + count) c).assignedLayersCount ↔
          (q.share totalVram c < count → q.Fits c count) := by
        show q.Fits c (currentLayer + count - currentLayer) ↔ _
        rw [add_sub_cancel_left]
        refine ⟨fun h _ => h, fun h => ?_⟩
        rcases lt_or_ge (q.share totalVram c) count with hlt | hge
        · exact h hlt
        · exact fits_of_le_share hlayers htotal hfits hturn.le hge
      rw [HasRoom, imp_iff_right hcurrent, hcount, ← hroom]
      by_cases hnext : currentLayer + count < q.totalLayers
      · obtain ⟨hcovers, hiff⟩ := ih hnext (cons_ne_nil _ _)
        rw [catchRemaining_cons (serveFrom_ne_nil hnext next rest), forall_mem_cons, hiff]
        have hlt : currentLayer < currentLayer + count := lt_add_of_pos_right _ hturn
        exact ⟨⟨⟨rfl, hlt.le, hcovers.tiles⟩, forall_mem_cons.mpr ⟨hlt, hcovers.nonempty⟩⟩, Iff.rfl⟩
      · have hlast : currentLayer + count = q.totalLayers := by omega
        rw [hlast, serveFrom_of_le le_rfl, catchRemaining, if_neg (lt_irrefl _)]
        refine ⟨⟨⟨rfl, hcurrent.le, rfl⟩, forall_mem_singleton.mpr hcurrent⟩, ?_⟩
        rw [forall_mem_singleton]
        exact (and_iff_left (hasRoom_of_le le_rfl _)).symm

/-- **The plan over the clusters**: it covers the layers, and fits exactly if the clusters that are given more than their
share have room for it. -/
theorem cross_cluster_plan_fits_iff (q : FederationRequest) (clusters : List FederatedCluster) (hlayers : 1 ≤ q.totalLayers)
    (hmodel : 1 ≤ q.modelVramBytes) (hfeasible : q.modelVramBytes ≤ federatedVram clusters) :
    (∃ gb, q.calculateCrossClusterPlan clusters = .feasible q.modelId q.totalLayers gb ((q.served clusters).map Prod.snd)) ∧
      q.CoversFrom 0 (q.served clusters) ∧
      ((∀ p ∈ q.served clusters, q.Fits p.1 p.2.assignedLayersCount) ↔
        q.HasRoom (federatedVram clusters) 0 (sortedClusters clusters)) := by
  have hne : sortedClusters clusters ≠ [] := by
    intro hnil
    have hfilter : (clusters.filter fun c => decide (0 < c.totalVramBytes)) = [] :=
      nil_perm.mp (hnil ▸ (perm_insertionSort _ _))
    have hle : ∀ l : List FederatedCluster, (∀ c ∈ l, ¬0 < c.totalVramBytes) → federatedVram l ≤ 0 := by
      intro l
      induction l with
      | nil => exact fun _ => le_refl 0
      | cons c l ih =>
        intro hl
        obtain ⟨hc, hl⟩ := forall_mem_cons.mp hl
        have hrest := ih hl
        simp only [federatedVram, map_cons, sum_cons] at hrest ⊢
        omega
    have hzero := hle clusters fun c hc hpos => by
      have hmem : c ∈ clusters.filter fun c => decide (0 < c.totalVramBytes) := mem_filter.mpr ⟨hc, decide_eq_true hpos⟩
      rw [hfilter] at hmem
      cases hmem
    omega
  refine ⟨⟨_, if_neg (not_lt.mpr hfeasible)⟩, ?_⟩
  exact serve_spec (by omega) (by omega) hfeasible (by omega) hne

theorem two_clusters_covered : CoversFrom (q := ⟨"model", 10, 40⟩) 0
    (served ⟨"model", 10, 40⟩ [⟨"a", "A", "eu", [⟨30, true⟩]⟩, ⟨"b", "B", "us", [⟨20, true⟩]⟩]) :=
  (cross_cluster_plan_fits_iff ⟨"model", 10, 40⟩ [⟨"a", "A", "eu", [⟨30, true⟩]⟩, ⟨"b", "B", "us", [⟨20, true⟩]⟩]
    (by decide) (by decide) (by decide)).2.1

/-- One layer over two equal clusters that have room for it together: the first is given the layer. -/
theorem one_layer_overfills_cluster : ¬∀ (q : FederationRequest) (clusters : List FederatedCluster), 1 ≤ q.totalLayers →
    1 ≤ q.modelVramBytes → q.modelVramBytes ≤ federatedVram clusters →
    ∀ p ∈ q.served clusters, q.Fits p.1 p.2.assignedLayersCount := by
  intro hall
  have hfits := hall ⟨"model", 1, 2 * 2 ^ 30⟩ [⟨"a", "A", "eu", [⟨2 ^ 30, true⟩]⟩, ⟨"b", "B", "us", [⟨2 ^ 30, true⟩]⟩]
    (by decide) (by decide) (by decide)
  have hover : (served ⟨"model", 1, 2 * 2 ^ 30⟩ [⟨"a", "A", "eu", [⟨2 ^ 30, true⟩]⟩, ⟨"b", "B", "us", [⟨2 ^ 30, true⟩]⟩]).any
      (fun p => decide ((p.1.totalVramBytes : ℚ) < (2 * 2 ^ 30 : ℤ) * p.2.assignedLayersCount / (1 : ℤ))) = true := by
    decide +kernel
  obtain ⟨p, hp, hless⟩ := any_eq_true.mp hover
  exact absurd (hfits p hp) (not_le.mpr (of_decide_eq_true hless))

end FederationRequest

end ComputeMesh.Runtime
