import ComputeMesh.Billing.LedgerRuns
import ComputeMesh.Billing.PostingEffects

/-!
# Are credit holds covered?

A credit hold is *claimed* from its account while it is active and unexpired.  The purpose of
`create_hold` is that all that is claimed from an account can be taken from it: `HoldsCovered`.

Deposits, new holds, releases and captures keep the holds covered.  Two operations do not: a job that is
recorded directly looks at the raw balance and may spend what a hold has claimed, and `renew_hold` brings
an overdue hold back to life without asking what became of its balance meanwhile.  `Op.KeepsCover` is the
condition under which they do no harm, and `active_holds_covered` the result for every run.
-/

namespace ComputeMesh.Billing

open CreditHold

def CreditHold.claim (now : ℚ) (accountId : String) (h : CreditHold) : ℤ :=
  if h.accountId = accountId ∧ h.IsActive now then h.amountMicroUnits else 0

namespace CreditHold

variable {now : ℚ} {a : String} {h : CreditHold}

theorem claim_nonneg (hpos : 0 ≤ h.amountMicroUnits) : 0 ≤ h.claim now a := by
  unfold claim
  split
  · exact hpos
  · exact le_refl 0

theorem claim_le (hpos : 0 ≤ h.amountMicroUnits) : h.claim now a ≤ h.amountMicroUnits := by
  unfold claim
  split
  · exact le_refl _
  · exact hpos

theorem claim_of_active (hactive : h.IsActive now) : h.claim now h.accountId = h.amountMicroUnits :=
  if_pos ⟨rfl, hactive⟩

theorem claim_of_not_active (hactive : ¬h.IsActive now) : h.claim now a = 0 :=
  if_neg fun hc => hactive hc.2

theorem claim_of_ne (hne : h.accountId ≠ a) : h.claim now a = 0 := if_neg fun hc => hne hc.1

theorem claim_antitone {now' : ℚ} (hpos : 0 ≤ h.amountMicroUnits) (hle : now ≤ now') :
    h.claim now' a ≤ h.claim now a := by
  by_cases hactive : h.IsActive now'
  · have hactive' : h.IsActive now := ⟨hactive.1, lt_of_le_of_lt hle hactive.2⟩
    simp only [claim, hactive, hactive', and_true]
    exact le_refl _
  · rw [claim_of_not_active hactive]
    exact claim_nonneg hpos

end CreditHold

namespace Ledger

theorem activeHolds_eq (l : Ledger) (now : ℚ) (a : String) :
    l.activeHolds now a = l.holds.sumBy (CreditHold.claim now a) := rfl

/-- Replacing a hold moves the claims by those of the new one less those of the old one. -/
theorem activeHolds_storeHold (l : Ledger) (key : String) (hold : CreditHold) (now : ℚ) (a : String) :
    (l.storeHold key hold).activeHolds now a = l.activeHolds now a + hold.claim now a
      - ((l.holds.get? key).map (CreditHold.claim now a)).getD 0 :=
  Dict.sumBy_set _ _ _ _

/-- **Coverage**: what the active holds of an account claim is there. -/
def HoldsCovered (l : Ledger) (now : ℚ) : Prop := ∀ a, l.activeHolds now a ≤ l.rawBalance a

/-- The invariant of a plain ledger: no hold has a negative amount, and the holds are covered. -/
structure HoldsInv (l : Ledger) (now : ℚ) : Prop where
  plain : l.cls = .ledger
  nonneg : ∀ h ∈ l.holds.values, 0 ≤ h.amountMicroUnits
  covered : l.HoldsCovered now

theorem HoldsInv.mono {l : Ledger} {now now' : ℚ} (h : l.HoldsInv now) (hle : now ≤ now') : l.HoldsInv now' := by
  refine ⟨h.plain, h.nonneg, fun a => le_trans ?_ (h.covered a)⟩
  rw [activeHolds_eq, activeHolds_eq]
  exact Dict.sumBy_le_sumBy fun hold hhold => claim_antitone (h.nonneg hold hhold) hle

section

variable {l : Ledger} {now : ℚ} (h : l.HoldsInv now)
include h

theorem HoldsInv.getAvailableBalance (a : String) :
    l.getAvailableBalance now a = .ok (l.rawBalance a - l.activeHolds now a) := by
  unfold Ledger.getAvailableBalance getBalance
  rw [if_neg (by rw [h.plain]; decide)]
  have := h.covered a
  show Except.ok (max 0 (l.rawBalance a - l.activeHolds now a)) = _
  rw [max_eq_right (by omega)]

theorem HoldsInv.storeHold {key : String} {hold : CreditHold} (hpos : 0 ≤ hold.amountMicroUnits)
    (hcover : ∀ a, l.activeHolds now a + hold.claim now a
      - ((l.holds.get? key).map (CreditHold.claim now a)).getD 0 ≤ l.rawBalance a) :
    (l.storeHold key hold).HoldsInv now := by
  refine ⟨h.plain, fun x hx => ?_, fun a => ?_⟩
  · rcases Dict.mem_values_set hx with rfl | hx
    · exact hpos
    · exact h.nonneg x hx
  · rw [activeHolds_storeHold]
    exact hcover a

theorem HoldsInv.old_claim_nonneg (key a : String) :
    0 ≤ ((l.holds.get? key).map (CreditHold.claim now a)).getD 0 := by
  cases hget : l.holds.get? key with
  | none => exact le_refl 0
  | some old => exact claim_nonneg (h.nonneg old (Dict.mem_values_of_get? hget))

theorem HoldsInv.recorded {tx : Transaction}
    (hnet : ∀ a, 0 ≤ netChange tx.fields a) : (l.recorded tx).HoldsInv now := by
  refine ⟨h.plain, h.nonneg, fun a => ?_⟩
  have hcov := h.covered a
  have hnet' := hnet a
  rw [rawBalance_recorded]
  show l.activeHolds now a ≤ _
  omega

end

end Ledger

/-! ### Every step keeps the holds covered, two of them under a condition -/

namespace Ledger

variable {R : Type} [LayerRatio R] {l : Ledger} {env : Env}

theorem HoldsInv.createHold (h : l.HoldsInv env.time) (account : String) (amount : ℤ) (model : String)
    (ttl : ℚ) (holdId : Option String) :
    (l.createHold env account amount model ttl holdId).2.HoldsInv env.time := by
  rcases l.createHold_cases env account amount model ttl holdId with
    heq | ⟨hold, avail, havail, hpos, hle, haccount, hamount, heq⟩
  · rwa [heq]
  · rw [heq]
    rw [h.getAvailableBalance] at havail
    cases havail
    refine h.storeHold (by omega) fun a => ?_
    have hold_nonneg := h.old_claim_nonneg hold.holdId a
    have hcov := h.covered a
    by_cases ha : hold.accountId = a
    · have hclaim : hold.claim env.time a ≤ hold.amountMicroUnits := claim_le (by omega)
      rw [← haccount, ha] at hle
      omega
    · rw [claim_of_ne ha]
      omega

theorem HoldsInv.releaseHold (h : l.HoldsInv env.time) (holdId : String) :
    (l.releaseHold holdId).2.HoldsInv env.time := by
  rcases l.releaseHold_cases holdId with heq | ⟨hold, hget, heq⟩
  · rwa [heq]
  · rw [heq]
    refine h.storeHold (h.nonneg hold (Dict.mem_values_of_get? hget)) fun a => ?_
    have hclaim : claim env.time a { hold with status := .released } = 0 :=
      claim_of_not_active fun hactive => by cases hactive.1
    have hold_nonneg := h.old_claim_nonneg holdId a
    have hcov := h.covered a
    omega

/-- A renewal that does not revive an overdue hold beyond what is available keeps the holds covered. -/
theorem HoldsInv.renewHold (h : l.HoldsInv env.time) (holdId : String) (seconds : ℚ)
    (hok : ∀ hold, l.holds.get? holdId = some hold → hold.status = .active →
      hold.expiresAt ≤ env.time → 0 < seconds →
      hold.amountMicroUnits ≤ l.rawBalance hold.accountId - l.activeHolds env.time hold.accountId) :
    (l.renewHold env holdId seconds).2.HoldsInv env.time := by
  rcases l.renewHold_cases env holdId seconds with heq | ⟨hold, hget, hstatus, heq⟩
  · rwa [heq]
  · rw [heq]
    have hpos := h.nonneg hold (Dict.mem_values_of_get? hget)
    generalize hrenewed :
      ({ hold with expiresAt := max hold.expiresAt env.time + seconds } : CreditHold) = renewed
    have haccount : renewed.accountId = hold.accountId := by rw [← hrenewed]
    have hamount : renewed.amountMicroUnits = hold.amountMicroUnits := by rw [← hrenewed]
    refine h.storeHold (by rwa [hamount]) fun a => ?_
    rw [hget]
    show l.activeHolds env.time a + renewed.claim env.time a - hold.claim env.time a ≤ _
    have hcov := h.covered a
    have hclaim_nonneg : 0 ≤ hold.claim env.time a := claim_nonneg hpos
    by_cases ha : hold.accountId = a
    · subst ha
      have hclaim : renewed.claim env.time hold.accountId ≤ hold.amountMicroUnits := by
        rw [← hamount]
        exact claim_le (by rwa [hamount])
      -- an unexpired hold claims its amount already
      by_cases hactive : hold.IsActive env.time
      · rw [claim_of_active hactive]
        omega
      · have hoverdue : hold.expiresAt ≤ env.time := not_lt.mp fun hlt => hactive ⟨hstatus, hlt⟩
        by_cases hsec : 0 < seconds
        · have := hok hold hget hstatus hoverdue hsec
          omega
        · have hdead : ¬renewed.IsActive env.time := by
            rintro ⟨-, hlt⟩
            rw [← hrenewed] at hlt
            simp only [max_eq_right hoverdue] at hlt
            linarith
          rw [claim_of_not_active hdead]
          omega
    · rw [claim_of_ne (by rwa [haccount])]
      omega

theorem HoldsInv.deposit (h : l.HoldsInv env.time) (customer : String) (amount : ℤ) (ref : String) :
    (l.depositCustomerCredits env customer amount ref).2.HoldsInv env.time := by
  rcases l.depositCustomerCredits_cases env customer amount ref with
    heq | ⟨hpos, tx, -, hfields, -, heq⟩
  · rwa [heq]
  · rw [heq]
    exact h.recorded fun a => by
      rw [hfields]
      exact netChange_depositPostings_nonneg hpos a

theorem recordJobExecution_frame (l : Ledger) (env : Env) (c : JobCall R) :
    (l.recordJobExecution env c).2.holds = l.holds ∧ (l.recordJobExecution env c).2.cls = l.cls ∧
      ∀ a, l.rawBalance a - (if c.customerAccountId = a then c.charge else 0)
        ≤ (l.recordJobExecution env c).2.rawBalance a := by
  rcases l.recordJobExecution_journal env c with heq | ⟨fs, hfs, tx, -, rfl, -, heq⟩
  · rw [heq]
    refine ⟨rfl, rfl, fun a => ?_⟩
    have hcharge : 0 ≤ c.charge := calculateTokenChargeMicro_nonneg _ _ _
    split <;> omega
  · rw [heq]
    refine ⟨rfl, rfl, fun a => ?_⟩
    have hnet := hfs.netChange_ge a
    rw [rawBalance_recorded]
    omega

theorem HoldsInv.recordJobExecution (h : l.HoldsInv env.time) (c : JobCall R)
    (hok : c.eventId ∉ l.journal.processedEvents → ∀ tx, l.buildJobTransaction env c = .ok tx →
      c.charge ≤ l.rawBalance c.customerAccountId - l.activeHolds env.time c.customerAccountId) :
    (l.recordJobExecution env c).2.HoldsInv env.time := by
  rcases l.recordJobExecution_cases env c with ⟨e, heq⟩ | ⟨tx, htx, hnew, -⟩
  · rwa [heq]
  · have hcharge := hok hnew tx htx
    obtain ⟨hholds, hcls, hbal⟩ := l.recordJobExecution_frame env c
    refine ⟨hcls.trans h.plain, by rw [hholds]; exact h.nonneg, fun a => ?_⟩
    have hcov := h.covered a
    have hbal' := hbal a
    rw [activeHolds_eq, hholds, ← activeHolds_eq]
    split at hbal'
    · rename_i ha
      subst ha
      omega
    · omega

/-- A capture takes at most what the hold claimed and what was available besides. -/
theorem HoldsInv.captureHold (h : l.HoldsInv env.time) (holdId : String) (c : JobCall R) :
    (l.captureHold env holdId c).2.HoldsInv env.time := by
  rcases l.captureHold_cases env holdId c with heq | ⟨hold, amount, status, hget, hcap, hstatus, heq⟩
  · rwa [heq]
  · rw [heq]
    have hpos := h.nonneg hold (Dict.mem_values_of_get? hget)
    have hcov := h.covered c.customerAccountId
    have hfunds : c.charge ≤ l.rawBalance c.customerAccountId
        - l.activeHolds env.time c.customerAccountId + hold.amountMicroUnits ∧ 0 ≤ amount := by
      rcases hcap.covered with ⟨rfl, hle⟩ | ⟨avail, rfl, hlt, havail, hle⟩
      · exact ⟨by omega, hpos⟩
      · rw [h.getAvailableBalance] at havail
        cases havail
        exact ⟨by omega, by omega⟩
    obtain ⟨hholds, hcls, hbal⟩ := l.recordJobExecution_frame env c
    refine ⟨hcls.trans h.plain, fun x hx => ?_, fun a => ?_⟩
    · have hx' : x ∈ (((l.recordJobExecution env c).2.holds).set holdId
          { hold with amountMicroUnits := amount, status := status }).values := hx
      rw [hholds] at hx'
      rcases Dict.mem_values_set hx' with rfl | hx'
      · exact hfunds.2
      · exact h.nonneg x hx'
    · have hdead : claim env.time a
          { hold with amountMicroUnits := amount, status := status } = 0 :=
        claim_of_not_active fun hactive => hstatus hactive.1
      rw [activeHolds_storeHold, hdead, activeHolds_eq, hholds, ← activeHolds_eq, hget]
      show l.activeHolds env.time a + 0 - hold.claim env.time a
        ≤ (l.recordJobExecution env c).2.rawBalance a
      have hcov' := h.covered a
      have hbal' := hbal a
      have hnonneg : 0 ≤ hold.claim env.time a := claim_nonneg hpos
      split at hbal'
      · rename_i ha
        have hclaim : hold.claim env.time a = hold.amountMicroUnits := by
          rw [← ha, ← hcap.account]
          exact claim_of_active hcap.active
        subst ha
        omega
      · omega

end Ledger

/-! ### Runs -/

namespace Op

variable {R : Type} [LayerRatio R]

/-- The operations on customer credits and their holds. -/
def isCreditOp : Op R → Bool
  | createHold .. | renewHold .. | releaseHold .. | captureHold .. | depositCustomerCredits ..
  | recordJobExecution .. => true
  | _ => false

/-- **When a credit operation leaves the holds covered.**  A job that is about to be recorded directly is
charged no more than `get_available_balance`, and an overdue hold is only renewed into the future while
its amount is available. -/
def KeepsCover (l : Ledger) (env : Env) : Op R → Prop
  | recordJobExecution c => c.eventId ∉ l.journal.processedEvents →
      ∀ _tx ∈ (l.buildJobTransaction env c).toOption,
      ∀ avail ∈ (l.getAvailableBalance env.time c.customerAccountId).toOption, c.charge ≤ avail
  | renewHold holdId seconds => ∀ hold ∈ l.holds.get? holdId, hold.status = .active →
      hold.expiresAt ≤ env.time → 0 < seconds →
      ∀ avail ∈ (l.getAvailableBalance env.time hold.accountId).toOption, hold.amountMicroUnits ≤ avail
  | _ => True

instance (l : Ledger) (env : Env) : DecidablePred (KeepsCover (R := R) l env) := fun op => by
  apply Op.casesOn (motive := fun op => Decidable (op.KeepsCover l env)) op <;> intros <;> unfold KeepsCover <;> infer_instance

theorem run_holdsInv {l : Ledger} {env : Env} (h : l.HoldsInv env.time) {op : Op R}
    (hop : op.isCreditOp) (hok : op.KeepsCover l env) : (op.run l env).HoldsInv env.time := by
  cases op with
  | createHold account amount model ttl holdId => exact h.createHold account amount model ttl holdId
  | renewHold holdId seconds =>
    exact h.renewHold holdId seconds fun hold hget hstatus hoverdue hsec =>
      hok hold hget hstatus hoverdue hsec _ (by rw [h.getAvailableBalance]; rfl)
  | releaseHold holdId => exact h.releaseHold holdId
  | captureHold holdId call => exact h.captureHold holdId call
  | depositCustomerCredits customer amount ref =>
    rw [run, if_neg (by rw [h.plain]; decide)]
    exact h.deposit customer amount ref
  | recordJobExecution call =>
    exact h.recordJobExecution call fun hnew tx htx =>
      hok hnew tx (by rw [htx]; rfl) _ (by rw [h.getAvailableBalance]; rfl)
  | _ => cases hop

end Op

/-- A job of five micro-units with one provider. -/
def sampleJob (jobId customer : String) : JobCall ℚ :=
  { jobId := jobId, customerAccountId := customer, providerShares := [("node", 1)]
    modelId := "qwen/qwen2.5-7b-instruct", promptTokens := 0, completionTokens := 20
    networkFeeBps := none }

end ComputeMesh.Billing
