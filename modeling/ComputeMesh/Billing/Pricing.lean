import ComputeMesh.Lib.Text

/-!
# The pricing engine

`services/common/pricing.py`: the catalog of model price tiers, the resolution of a model id to a tier and
the integer charge of a token execution.  Rates are micro-units per million tokens; the comparison figures
for cloud providers are display data and are not modelled.

* `calculateTokenChargeMicro_nonneg` — a charge is never negative, whatever the token counts;
* `calculateTokenChargeMicro_pos_iff` — it is positive exactly when some token count is.
-/

namespace ComputeMesh.Billing

open ComputeMesh.Text

/-- `ModelPriceTier`: the two rates of a model, in micro-units per million tokens. -/
structure ModelPriceTier where
  modelId : String
  promptMicroPerMillion : ℤ
  completionMicroPerMillion : ℤ

/-- `DEFAULT_PRICE_TIERS`, in the catalog's order. -/
def defaultPriceTiers : List ModelPriceTier :=
  [⟨"qwen/qwen2.5-0.5b-instruct", 50000, 150000⟩, ⟨"qwen/qwen2.5-1.5b-instruct", 80000, 180000⟩,
   ⟨"openbmb/minicpm5-2b", 80000, 180000⟩,
   ⟨"openbmb/minicpm-2b", 80000, 180000⟩,
   ⟨"qwen/qwen2.5-7b-instruct", 150000, 250000⟩,
   ⟨"meta-llama/llama-3.1-8b-instruct", 150000, 250000⟩,
   ⟨"llama/llama-3.1-8b-instruct", 150000, 250000⟩,
   ⟨"qwen/qwen2.5-14b-instruct", 300000, 600000⟩,
   ⟨"qwen/qwen2.5-32b-instruct", 500000, 900000⟩,
   ⟨"llama/llama-3.1-70b-instruct", 1000000, 1800000⟩,
   ⟨"meta-llama/llama-3.3-70b-instruct", 1000000, 1800000⟩,
   ⟨"qwen/qwen2.5-72b-instruct", 1000000, 1800000⟩,
   ⟨"deepseek-ai/deepseek-r1", 1200000, 3000000⟩,
   ⟨"mistralai/mistral-large-2407", 2000000, 6000000⟩,
   ⟨"qwen/qwen2.5-vl-7b-instruct", 200000, 350000⟩,
   ⟨"qwen/qwen2-vl-7b-instruct", 200000, 350000⟩,
   ⟨"meta-llama/llama-3.2-11b-vision-instruct", 250000, 400000⟩,
   ⟨"llava/llava-1.6-7b", 200000, 350000⟩]

def defaultTier : ModelPriceTier := ⟨"qwen/qwen2.5-7b-instruct", 150000, 250000⟩

/-- `get_price_tier`: an exact catalog id, else the first tier whose short name the id ends with or
abbreviates, else the default. -/
def getPriceTier (modelId : String) : ModelPriceTier :=
  let cleanId := lower (strip modelId)
  match defaultPriceTiers.find? (fun tier => tier.modelId == cleanId) with
  | some tier => tier
  | none =>
    match defaultPriceTiers.find? (fun tier =>
        endsWith cleanId (lastPart '/' tier.modelId) || startsWith (lastPart '/' tier.modelId) cleanId) with
    | some tier => tier
    | none => defaultTier

/-- `calculate_token_charge_micro`: nothing for no tokens, else the rounded-up price, at least one
micro-unit. -/
def calculateTokenChargeMicro (modelId : String) (promptTokens completionTokens : ℤ) : ℤ :=
  if promptTokens ≤ 0 ∧ completionTokens ≤ 0 then 0
  else
    let tier := getPriceTier modelId
    let rawMicro :=
      promptTokens * tier.promptMicroPerMillion + completionTokens * tier.completionMicroPerMillion
    max 1 (Int.fdiv (rawMicro + 999999) 1000000)

/-- `calculate_max_charge_micro`: the most that an execution within the limits can cost. -/
def calculateMaxChargeMicro (modelId : String) (promptEstimate maxCompletionTokens : ℤ) : ℤ :=
  calculateTokenChargeMicro modelId (max 1 promptEstimate) (max 1 maxCompletionTokens)

theorem calculateTokenChargeMicro_pos_iff (modelId : String) (promptTokens completionTokens : ℤ) :
    0 < calculateTokenChargeMicro modelId promptTokens completionTokens
      ↔ 0 < promptTokens ∨ 0 < completionTokens := by
  unfold calculateTokenChargeMicro
  split
  · constructor
    · intro h
      omega
    · intro h
      omega
  · constructor
    · intro _
      omega
    · intro _
      exact lt_of_lt_of_le one_pos (le_max_left _ _)

theorem calculateTokenChargeMicro_nonneg (modelId : String) (promptTokens completionTokens : ℤ) :
    0 ≤ calculateTokenChargeMicro modelId promptTokens completionTokens := by
  unfold calculateTokenChargeMicro
  split
  · exact le_refl 0
  · exact le_trans (by decide) (le_max_left _ _)

end ComputeMesh.Billing
