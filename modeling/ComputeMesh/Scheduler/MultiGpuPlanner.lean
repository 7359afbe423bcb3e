import ComputeMesh.Lib.Shares

/-!
# Plans for rigs of several devices

`plan_multi_gpu_rig`: the layers of a model in proportion to the memory of the devices, with at least one layer for a device
as long as there are more layers than devices left, and what is left for the last device.

* `planMultiGpuRig` — the plan, with ratios that are exact;
* `floored_fits` — a device that is given its rounded share has room for it;
* `feasible_plan_real_iff` — **when a feasible plan is a real one**: `HasRoom`, which looks at the minimum of one layer and
  at the last device.
-/

namespace ComputeMesh.Scheduler

structure GpuDeviceSpec where
  deviceId : ℤ
  name : String
  vendor : String
  vramBytes : ℤ
  pciBus : String := ""

structure GpuLayerAllocation where
  deviceId : ℤ
  name : String
  vendor : String
  layerStart : ℤ
  layerEnd : ℤ
  layersAssigned : ℤ
  vramUsedBytes : ℤ
  vramTotalBytes : ℤ
  utilizationPercent : ℚ
  deriving DecidableEq

inductive MultiGpuPlanningError
  | noDevices
  | invalidTotalLayers (totalLayers : ℤ)
  | invalidModelWeightBytes (modelWeightBytes : ℤ)
  deriving DecidableEq

/-- The status reasons, with the numbers in their texts. -/
inductive PlanStatus
  | insufficientVram (required usable : ℤ)
  | proportional
  deriving DecidableEq

structure MultiGpuPlan where
  modelId : String
  totalLayers : ℤ
  modelWeightBytes : ℤ
  totalRigVramBytes : ℤ
  allocations : List GpuLayerAllocation
  tensorSplitRatios : List ℚ
  isFeasible : Bool
  statusReason : PlanStatus
  deriving DecidableEq

/-- The parameters of `plan_multi_gpu_rig`, without the devices. -/
structure MultiGpuRequest where
  modelId : String
  totalLayers : ℤ
  modelWeightBytes : ℤ
  usableMemoryFraction : ℚ := 9 / 10
  kvCacheOverheadBytesPerLayer : ℤ := 16 * 1024 * 1024

namespace MultiGpuRequest

section Planner

variable (q : MultiGpuRequest) (totalRigVram : ℤ)

/-- `math.floor(total_layers * (dev.vram_bytes / total_rig_vram))`. -/
def flooredLayers (dev : GpuDeviceSpec) : ℤ := ⌊(q.totalLayers : ℚ) * (dev.vramBytes / totalRigVram)⌋

/-- Whether a device is given one layer for none, with `remaining` layers for it and the `following` devices. -/
def MinimumOfOne (remaining : ℤ) (following : List GpuDeviceSpec) (dev : GpuDeviceSpec) : Prop :=
  q.flooredLayers totalRigVram dev = 0 ∧ (following.length : ℤ) + 1 < remaining

instance (remaining : ℤ) (following : List GpuDeviceSpec) (dev : GpuDeviceSpec) :
    Decidable (q.MinimumOfOne totalRigVram remaining following dev) := inferInstanceAs (Decidable (_ ∧ _))

def layerCount (assignedLayers : ℤ) (dev : GpuDeviceSpec) : List GpuDeviceSpec → ℤ
  | [] => q.totalLayers - assignedLayers
  | next :: following =>
    if q.MinimumOfOne totalRigVram (q.totalLayers - assignedLayers) (next :: following) dev then 1
    else q.flooredLayers totalRigVram dev

/-- What a layer takes: `weight_per_layer` and the cache. -/
def bytesPerLayer : ℤ := q.modelWeightBytes / q.totalLayers + q.kvCacheOverheadBytesPerLayer

/-- One device of the loop.  `current_layer_idx` is `assigned_layers`. -/
def allocation (assignedLayers layerCount : ℤ) (dev : GpuDeviceSpec) : GpuLayerAllocation :=
  let devMemUsed := layerCount * (q.modelWeightBytes / q.totalLayers) + layerCount * q.kvCacheOverheadBytesPerLayer
  { deviceId := dev.deviceId, name := dev.name, vendor := dev.vendor
    layerStart := assignedLayers, layerEnd := assignedLayers + layerCount, layersAssigned := layerCount
    vramUsedBytes := devMemUsed, vramTotalBytes := dev.vramBytes
    utilizationPercent := if 0 < dev.vramBytes then roundTo (devMemUsed / dev.vramBytes * 100) 2 else 0 }

/-- The loop over the devices. -/
def allocate (assignedLayers : ℤ) : List GpuDeviceSpec → List GpuLayerAllocation
  | [] => []
  | dev :: rest =>
    let count := q.layerCount totalRigVram assignedLayers dev rest
    q.allocation assignedLayers count dev :: allocate (assignedLayers + count) rest

def planMultiGpuRig (devices : List GpuDeviceSpec) : Except MultiGpuPlanningError MultiGpuPlan :=
  let totalRigVram := (devices.map GpuDeviceSpec.vramBytes).sum
  let totalUsableVram := truncate (totalRigVram * q.usableMemoryFraction)
  let totalModelFootprint := q.modelWeightBytes + q.kvCacheOverheadBytesPerLayer * q.totalLayers
  if devices = [] then .error .noDevices
  else if q.totalLayers ≤ 0 then .error (.invalidTotalLayers q.totalLayers)
  else if q.modelWeightBytes ≤ 0 then .error (.invalidModelWeightBytes q.modelWeightBytes)
  else if totalUsableVram < totalModelFootprint then
    .ok ⟨q.modelId, q.totalLayers, q.modelWeightBytes, totalRigVram, [], [], false,
      .insufficientVram totalModelFootprint totalUsableVram⟩
  else
    .ok ⟨q.modelId, q.totalLayers, q.modelWeightBytes, totalRigVram, q.allocate totalRigVram 0 devices,
      devices.map fun dev => roundTo (dev.vramBytes / totalRigVram) 4, true, .proportional⟩

/-- The usable memory of a device. -/
def usableVram (vramBytes : ℤ) : ℤ := truncate (vramBytes * q.usableMemoryFraction)

structure RealFrom (start : ℤ) (allocations : List GpuLayerAllocation) : Prop where
  nonneg : ∀ a ∈ allocations, 0 ≤ a.layersAssigned
  tiles : Tiles start q.totalLayers (allocations.map fun a => (a.layerStart, a.layerEnd))
  fits : ∀ a ∈ allocations, a.vramUsedBytes ≤ q.usableVram a.vramTotalBytes

/-- A device that is given the minimum of one layer has room for it; the last device is not given fewer than none, and has
room for what is left. -/
def HasRoom (assignedLayers : ℤ) : List GpuDeviceSpec → Prop
  | [] => True
  | [last] => assignedLayers ≤ q.totalLayers ∧
      (q.totalLayers - assignedLayers) * q.bytesPerLayer ≤ q.usableVram last.vramBytes
  | dev :: next :: following =>
    (q.MinimumOfOne totalRigVram (q.totalLayers - assignedLayers) (next :: following) dev →
      q.bytesPerLayer ≤ q.usableVram dev.vramBytes) ∧
    HasRoom (assignedLayers + q.layerCount totalRigVram assignedLayers dev (next :: following)) (next :: following)

end Planner

variable {q : MultiGpuRequest}

/-! ### One device -/

section Total

variable {totalRigVram : ℤ} (hlayers : 0 < q.totalLayers) (htotal : 0 < totalRigVram)

include hlayers htotal

theorem flooredLayers_nonneg {dev : GpuDeviceSpec} (hvram : 0 < dev.vramBytes) : 0 ≤ q.flooredLayers totalRigVram dev := by
  have hshare : (0 : ℚ) ≤ q.totalLayers * (dev.vramBytes / totalRigVram) := by positivity
  exact Int.floor_nonneg.mpr hshare

variable (hfraction : 0 ≤ q.usableMemoryFraction)
  (hfits : q.modelWeightBytes + q.kvCacheOverheadBytesPerLayer * q.totalLayers
    ≤ truncate (totalRigVram * q.usableMemoryFraction))

include hfraction hfits

/-- **A rounded share has room**, for any overhead of a layer. -/
theorem floored_fits {dev : GpuDeviceSpec} (hvram : 0 < dev.vramBytes) :
    q.flooredLayers totalRigVram dev * q.bytesPerLayer ≤ q.usableVram dev.vramBytes := by
  have hcount := flooredLayers_nonneg hlayers htotal hvram
  have hlayersQ : (0 : ℚ) < q.totalLayers := by exact_mod_cast hlayers
  have hvramQ : (0 : ℚ) ≤ dev.vramBytes * q.usableMemoryFraction := by positivity
  have htotalQ : (0 : ℚ) ≤ totalRigVram * q.usableMemoryFraction := by positivity
  rw [usableVram, le_truncate_iff hvramQ]
  have hshare : (q.flooredLayers totalRigVram dev : ℚ)
      * ((q.modelWeightBytes + q.kvCacheOverheadBytesPerLayer * q.totalLayers : ℤ) : ℚ)
      ≤ q.totalLayers * dev.vramBytes * q.usableMemoryFraction :=
    share_fits (by exact_mod_cast hcount) (by exact_mod_cast htotal) (Int.floor_le _) hfraction
      ((le_truncate_iff htotalQ).mp hfits)
  have hweight : q.modelWeightBytes / q.totalLayers * q.totalLayers ≤ q.modelWeightBytes :=
    Int.ediv_mul_le _ (ne_of_gt hlayers)
  have hbytes : q.bytesPerLayer * q.totalLayers
      ≤ q.modelWeightBytes + q.kvCacheOverheadBytesPerLayer * q.totalLayers := by
    rw [bytesPerLayer, add_mul]
    exact add_le_add_left hweight _
  have hwhole := mul_le_mul_of_nonneg_left hbytes hcount
  have hwholeQ : (q.flooredLayers totalRigVram dev : ℚ) * (q.bytesPerLayer * q.totalLayers)
      ≤ q.totalLayers * dev.vramBytes * q.usableMemoryFraction := le_trans (by exact_mod_cast hwhole) hshare
  refine le_of_mul_le_mul_left ?_ hlayersQ
  push_cast
  linarith

omit hlayers htotal hfraction hfits in
theorem realFrom_cons_iff (assignedLayers count : ℤ) (dev : GpuDeviceSpec) (rest : List GpuLayerAllocation) :
    q.RealFrom assignedLayers (q.allocation assignedLayers count dev :: rest) ↔
      (0 ≤ count ∧ count * q.bytesPerLayer ≤ q.usableVram dev.vramBytes) ∧ q.RealFrom (assignedLayers + count) rest := by
  rw [bytesPerLayer, mul_add]
  constructor
  · rintro ⟨hnonneg, htiles, hfits⟩
    obtain ⟨hcount, hnonneg⟩ := List.forall_mem_cons.mp hnonneg
    obtain ⟨hused, hfits⟩ := List.forall_mem_cons.mp hfits
    exact ⟨⟨hcount, hused⟩, hnonneg, htiles.2.2, hfits⟩
  · rintro ⟨⟨hcount, hused⟩, hnonneg, htiles, hfits⟩
    exact ⟨List.forall_mem_cons.mpr ⟨hcount, hnonneg⟩, ⟨rfl, le_add_of_nonneg_right hcount, htiles⟩,
      List.forall_mem_cons.mpr ⟨hused, hfits⟩⟩

/-- **The loop**, from any device on. -/
theorem allocate_real_iff {devices : List GpuDeviceSpec} (hdevices : devices ≠ [])
    (hvram : ∀ dev ∈ devices, 0 < dev.vramBytes) (assignedLayers : ℤ) :
    q.RealFrom assignedLayers (q.allocate totalRigVram assignedLayers devices) ↔
      q.HasRoom totalRigVram assignedLayers devices := by
  induction devices generalizing assignedLayers with
  | nil => exact absurd rfl hdevices
  | cons dev rest ih =>
    rw [allocate, realFrom_cons_iff]
    cases rest with
    | nil =>
      have hend : q.RealFrom (assignedLayers + (q.totalLayers - assignedLayers)) [] :=
        ⟨nofun, add_sub_cancel _ _, nofun⟩
      simp only [layerCount, allocate, HasRoom, hend, and_true, sub_nonneg]
    | cons next following =>
      rw [ih (List.cons_ne_nil _ _) fun d hd => hvram d (List.mem_cons_of_mem _ hd), HasRoom]
      refine and_congr_left fun _ => ?_
      rw [layerCount]
      split
      · next hone => simp [hone]
      · next hfloor =>
        have hdev := hvram dev List.mem_cons_self
        simp only [hfloor, false_imp_iff, iff_true]
        exact ⟨flooredLayers_nonneg hlayers htotal hdev, floored_fits hlayers htotal hfraction hfits hdev⟩

end Total

/-! ### The plan -/

theorem deviceIds_allocate (totalRigVram assignedLayers : ℤ) (devices : List GpuDeviceSpec) :
    (q.allocate totalRigVram assignedLayers devices).map GpuLayerAllocation.deviceId
      = devices.map GpuDeviceSpec.deviceId := by
  induction devices generalizing assignedLayers with
  | nil => rfl
  | cons dev rest ih => exact congrArg (dev.deviceId :: ·) (ih _)

/-- **When a feasible plan is a real plan.** -/
theorem feasible_plan_real_iff {devices : List GpuDeviceSpec} {plan : MultiGpuPlan}
    (hvram : ∀ dev ∈ devices, 0 < dev.vramBytes) (hfraction : 0 ≤ q.usableMemoryFraction)
    (hplan : q.planMultiGpuRig devices = .ok plan) (hfeasible : plan.isFeasible = true) :
    (plan.allocations.map GpuLayerAllocation.deviceId = devices.map GpuDeviceSpec.deviceId ∧
        q.RealFrom 0 plan.allocations) ↔
      q.HasRoom (devices.map GpuDeviceSpec.vramBytes).sum 0 devices := by
  simp only [planMultiGpuRig] at hplan
  split at hplan
  · cases hplan
  next hdevices =>
  split at hplan
  · cases hplan
  next hlayers =>
  split at hplan
  · cases hplan
  split at hplan
  · cases hplan
    cases hfeasible
  next hfits =>
  cases hplan
  have htotal : 0 < (devices.map GpuDeviceSpec.vramBytes).sum :=
    List.sum_pos _ (by simpa using hvram) (by simpa using hdevices)
  rw [and_iff_right (deviceIds_allocate _ _ _)]
  exact allocate_real_iff (not_le.mp hlayers) htotal hfraction (not_lt.mp hfits) hdevices hvram 0

/-- Whether a call returns a feasible plan with a property. -/
def feasibleWith (result : Except MultiGpuPlanningError MultiGpuPlan) (p : MultiGpuPlan → Bool) : Bool :=
  match result with
  | .ok plan => plan.isFeasible && p plan
  | .error _ => false

theorem exists_of_feasibleWith {result : Except MultiGpuPlanningError MultiGpuPlan} {p : MultiGpuPlan → Bool}
    (h : feasibleWith result p = true) : ∃ plan, result = .ok plan ∧ plan.isFeasible = true ∧ p plan = true := by
  cases result with
  | error e => cases h
  | ok plan =>
    obtain ⟨hfeasible, hp⟩ := Bool.and_eq_true_iff.mp h
    exact ⟨plan, rfl, hfeasible, hp⟩

/-- Two equal devices and four layers. -/
theorem two_devices_real : ∃ plan,
    planMultiGpuRig ⟨"model", 4, 8, 1, 0⟩ [⟨0, "a", "amd", 4, ""⟩, ⟨1, "b", "amd", 4, ""⟩] = .ok plan ∧
      RealFrom ⟨"model", 4, 8, 1, 0⟩ 0 plan.allocations := by
  obtain ⟨plan, hplan, hfeasible, -⟩ := exists_of_feasibleWith
    (show feasibleWith (planMultiGpuRig ⟨"model", 4, 8, 1, 0⟩ [⟨0, "a", "amd", 4, ""⟩, ⟨1, "b", "amd", 4, ""⟩])
      (fun _ => true) = true by decide +kernel)
  refine ⟨plan, hplan, ((feasible_plan_real_iff (by decide) zero_le_one hplan hfeasible).mpr ?_).2⟩
  exact ⟨by decide +kernel, by decide +kernel, by decide +kernel⟩

/-- Ten layers over four small devices, one large one and a last small one: the last device is given fewer than none. -/
theorem last_device_below_zero : ¬∀ (q : MultiGpuRequest) (devices : List GpuDeviceSpec) (plan : MultiGpuPlan),
    (∀ dev ∈ devices, 0 < dev.vramBytes) → 0 < q.usableMemoryFraction → q.usableMemoryFraction ≤ 1 →
    q.planMultiGpuRig devices = .ok plan → plan.isFeasible = true → q.RealFrom 0 plan.allocations := by
  intro hall
  obtain ⟨plan, hplan, hfeasible, hbelow⟩ := exists_of_feasibleWith
    (show feasibleWith (planMultiGpuRig { modelId := "model", totalLayers := 10, modelWeightBytes := 10 * 2 ^ 30 }
        ([1, 1, 1, 1, 96, 1].map fun gib => ⟨0, "gpu", "amd", gib * 2 ^ 30, ""⟩))
      (fun plan => plan.allocations.any fun a => decide (a.layersAssigned < 0)) = true by decide +kernel)
  obtain ⟨a, hmem, hless⟩ := List.any_eq_true.mp hbelow
  have hreal := hall _ _ plan (by decide) (by norm_num) (by norm_num) hplan hfeasible
  exact absurd (hreal.nonneg a hmem) (not_le.mpr (of_decide_eq_true hless))

end MultiGpuRequest

end ComputeMesh.Scheduler
