import ComputeMesh.Billing.Accounts
import ComputeMesh.Lib.Dict

/-!
# Owner accounts: devices, provider nodes and promo claims

`OwnerAccountStore` of `owner_accounts.py`, as far as promo grants use it.  A store call is one SQLite
transaction; the table of promo claims has three keys, and a table that breaks one cannot be built:

* `PromoClaims` — the rows of `owner_promo_claims`, **pairwise different in the claim id, in owner and
  class, and in hardware and class**;
* `recordPromoClaim_ok` — a claim that is accepted is in the table afterwards with the data asked for,
  and every claim that was there before stays.
-/

namespace ComputeMesh.Billing

open ComputeMesh.Text

/-! ### Checked texts -/

/-- A text as `_bounded_text` and `_clean_identifier` return it. -/
structure BoundedText (maxLen : ℕ) where
  val : String
  stripped : strip val = val
  nonempty : val ≠ ""
  short : val.length ≤ maxLen

theorem BoundedText.ext_val {n : ℕ} {s t : BoundedText n} (h : s.val = t.val) : s = t := by
  cases s
  cases t
  simpa using h

instance {n : ℕ} : DecidableEq (BoundedText n) := fun s t =>
  decidable_of_iff (s.val = t.val) ⟨BoundedText.ext_val, congrArg BoundedText.val⟩

/-- `_clean_identifier`; the error is the message of an `OwnerAccountStoreError`. -/
def cleanIdentifier (value field : String) (maxLen : ℕ) : Except String (BoundedText maxLen) :=
  let result := strip value
  if hempty : result = "" then .error (field ++ " is required")
  else if hlong : maxLen < result.length then
    .error (field ++ " exceeds " ++ toString maxLen ++ " characters")
  else .ok ⟨result, strip_strip value, hempty, by omega⟩

@[simp] theorem cleanIdentifier_val {n : ℕ} (t : BoundedText n) (field : String) :
    cleanIdentifier t.val field n = .ok t := by
  unfold cleanIdentifier
  have hne : strip t.val ≠ "" := by
    rw [t.stripped]
    exact t.nonempty
  have hlong : ¬n < (strip t.val).length := by
    rw [t.stripped]
    exact not_lt.mpr t.short
  rw [dif_neg hne, dif_neg hlong]
  exact congrArg Except.ok (BoundedText.ext_val t.stripped)

/-- The owner id of the ledger with the same text. -/
def BoundedText.toOwnerId (t : BoundedText 256) : OwnerId := ⟨t.val, t.stripped, t.nonempty, t.short⟩

@[simp] theorem cleanOwner_boundedText (t : BoundedText 256) : cleanOwner t.val = .ok t.toOwnerId :=
  cleanOwner_val t.toOwnerId

/-! ### The tables -/

/-- The claim classes, `PROMO_DEVICE` and `PROMO_GPU`. -/
inductive ClaimClass
  | deviceOnboarding
  | gpuOnboarding
  deriving DecidableEq

def ClaimClass.text : ClaimClass → String
  | deviceOnboarding => "device_onboarding"
  | gpuOnboarding => "gpu_onboarding"

structure PromoClaim where
  claimId : BoundedText 512
  ownerId : BoundedText 256
  claimClass : ClaimClass
  hardwareClaimId : BoundedText 512
  amountMicroUnits : ℤ
  policyVersion : BoundedText 128
  createdAt : String
  amount_pos : 0 < amountMicroUnits
  deriving DecidableEq

/-- The two rows break no key of `owner_promo_claims`. -/
def PromoClaim.Distinct (a b : PromoClaim) : Prop :=
  a.claimId ≠ b.claimId ∧ ¬(a.ownerId = b.ownerId ∧ a.claimClass = b.claimClass) ∧
    ¬(a.hardwareClaimId = b.hardwareClaimId ∧ a.claimClass = b.claimClass)

instance (a b : PromoClaim) : Decidable (a.Distinct b) := inferInstanceAs (Decidable (_ ∧ _ ∧ _))

instance : Std.Symm PromoClaim.Distinct where
  symm _ _ h := ⟨fun heq => h.1 heq.symm, fun heq => h.2.1 ⟨heq.1.symm, heq.2.symm⟩,
    fun heq => h.2.2 ⟨heq.1.symm, heq.2.symm⟩⟩

/-- **The table `owner_promo_claims`**, with its `PRIMARY KEY` and its two `UNIQUE` constraints. -/
structure PromoClaims where
  rows : List PromoClaim
  unique : rows.Pairwise PromoClaim.Distinct

namespace PromoClaims

def empty : PromoClaims := ⟨[], List.Pairwise.nil⟩

/-- `INSERT INTO owner_promo_claims`; `none` is an `IntegrityError`. -/
def insert (t : PromoClaims) (row : PromoClaim) : Option PromoClaims :=
  if h : ∀ r ∈ t.rows, row.Distinct r then some ⟨row :: t.rows, List.Pairwise.cons h t.unique⟩
  else none

theorem eq_of_not_distinct {t : PromoClaims} {a b : PromoClaim} (ha : a ∈ t.rows) (hb : b ∈ t.rows)
    (h : ¬a.Distinct b) : a = b := by
  by_contra hne
  exact h (t.unique.forall ha hb hne)

theorem eq_of_claimId_eq {t : PromoClaims} {a b : PromoClaim} (ha : a ∈ t.rows) (hb : b ∈ t.rows)
    (h : a.claimId = b.claimId) : a = b :=
  eq_of_not_distinct ha hb fun hd => hd.1 h

end PromoClaims

/-- A row of `owner_devices`. -/
structure OwnerDevice where
  ownerId : String
  assuranceTier : String
  deriving DecidableEq

/-- The tables of `OwnerAccountStore` that promo grants read and write. -/
structure OwnerAccountStore where
  owners : List String
  providerNodes : Dict String String
  devices : Dict String OwnerDevice
  promoClaims : PromoClaims

namespace OwnerAccountStore

def empty : OwnerAccountStore := ⟨[], Dict.empty, Dict.empty, .empty⟩

/-- Whether `get_owner` finds the account. -/
def hasOwner (s : OwnerAccountStore) (ownerId : String) : Bool :=
  decide (strip ownerId ≠ "") && decide (strip ownerId ∈ s.owners)

def ownerForProviderNode (s : OwnerAccountStore) (providerNodeId : String) : Option String :=
  if strip providerNodeId = "" then none else s.providerNodes.get? (strip providerNodeId)

def bindDevice (s : OwnerAccountStore) (ownerId deviceClaimId assuranceTier : String) :
    Except String OwnerAccountStore :=
  match cleanIdentifier ownerId "owner_id" 256 with
  | .error e => .error e
  | .ok oid =>
    match cleanIdentifier deviceClaimId "device_claim_id" 512 with
    | .error e => .error e
    | .ok deviceId =>
      match cleanIdentifier assuranceTier "assurance_tier" 64 with
      | .error e => .error e
      | .ok tier =>
        if s.hasOwner oid.val = false then .error ("unknown owner " ++ oid.val)
        else
          match s.devices.get? deviceId.val with
          | none => .ok { s with devices := s.devices.set deviceId.val ⟨oid.val, tier.val⟩ }
          | some row =>
            if row.ownerId ≠ oid.val then
              .error ("device_claim_id " ++ quoted deviceId.val ++ " is already bound to another owner")
            else
              .ok { s with devices := s.devices.set deviceId.val { row with assuranceTier := tier.val } }

def promoClaimForOwner (s : OwnerAccountStore) (ownerId : String) (claimClass : ClaimClass) :
    Option PromoClaim :=
  if strip ownerId = "" then none
  else s.promoClaims.rows.find? fun r => r.ownerId.val = strip ownerId ∧ r.claimClass = claimClass

/-- What stops `record_promo_claim`: an `OwnerAccountStoreError`, or an amount that SQLite cannot hold. -/
inductive ClaimError
  | store (message : String)
  | overflow (message : String)
  deriving DecidableEq

/-- The `INSERT` of `record_promo_claim`, inside its transaction. -/
def insertPromoClaim (s : OwnerAccountStore) (row : PromoClaim) :
    Except ClaimError (PromoClaim × OwnerAccountStore) :=
  if 2 ^ 63 ≤ row.amountMicroUnits then
    .error (.overflow "Python int too large to convert to SQLite INTEGER")
  else
    match s.promoClaims.insert row with
    | none => .error (.store "promo class was already claimed by this owner or hardware")
    | some claims => .ok (row, { s with promoClaims := claims })

def recordPromoClaim (s : OwnerAccountStore) (now claimId ownerId : String) (claimClass : ClaimClass)
    (hardwareClaimId : String) (amountMicroUnits : ℤ) (policyVersion : String) :
    Except ClaimError (PromoClaim × OwnerAccountStore) :=
  match cleanIdentifier claimId "claim_id" 512 with
  | .error e => .error (.store e)
  | .ok cid =>
    match cleanIdentifier ownerId "owner_id" 256 with
    | .error e => .error (.store e)
    | .ok oid =>
      match cleanIdentifier hardwareClaimId "hardware_claim_id" 512 with
      | .error e => .error (.store e)
      | .ok hardwareId =>
        match cleanIdentifier policyVersion "policy_version" 128 with
        | .error e => .error (.store e)
        | .ok policy =>
          if hpos : amountMicroUnits ≤ 0 then .error (.store "promo claim amount must be positive")
          else if s.hasOwner oid.val = false then .error (.store ("unknown owner " ++ oid.val))
          else
            match s.promoClaims.rows.find? fun r => r.claimId = cid with
            | some existing =>
              if (existing.ownerId, existing.claimClass, existing.hardwareClaimId,
                  existing.amountMicroUnits, existing.policyVersion)
                ≠ (oid, claimClass, hardwareId, amountMicroUnits, policy) then
                .error (.store ("promo claim id " ++ quoted cid.val ++ " was already used with different data"))
              else .ok (existing, s)
            | none =>
              s.insertPromoClaim ⟨cid, oid, claimClass, hardwareId, amountMicroUnits, policy, now, not_le.mp hpos⟩

/-! ### What the calls leave behind -/

/-- The claim records what was asked for. -/
structure Records (claim : PromoClaim) (cid : BoundedText 512) (oid : BoundedText 256)
    (claimClass : ClaimClass) (hardwareId : BoundedText 512) (amount : ℤ) (policy : BoundedText 128) :
    Prop where
  claimId : claim.claimId = cid
  ownerId : claim.ownerId = oid
  claimClass : claim.claimClass = claimClass
  hardwareClaimId : claim.hardwareClaimId = hardwareId
  amountMicroUnits : claim.amountMicroUnits = amount
  policyVersion : claim.policyVersion = policy

section
variable {s s' : OwnerAccountStore} {claim row : PromoClaim} {cid hardwareId : BoundedText 512}
  {oid : BoundedText 256} {policy : BoundedText 128} {claimClass : ClaimClass} {amount : ℤ}

theorem bindDevice_promoClaims {owner device tier : String} (h : s.bindDevice owner device tier = .ok s') :
    s'.promoClaims = s.promoClaims := by
  simp only [bindDevice] at h
  repeat' split at h
  all_goals cases h
  all_goals rfl

theorem bindDevice_ok {device : BoundedText 512} (tier : BoundedText 64) (howner : s.hasOwner oid.val = true)
    (hdevice : ∀ row ∈ s.devices.get? device.val, row.ownerId = oid.val) :
    ∃ s', s.bindDevice oid.val device.val tier.val = .ok s' := by
  simp only [bindDevice, cleanIdentifier_val, howner, Bool.true_eq_false, if_false]
  cases hrow : s.devices.get? device.val with
  | none => exact ⟨_, rfl⟩
  | some row =>
    have hsame : ¬row.ownerId ≠ oid.val := not_not.mpr (hdevice row hrow)
    exact ⟨_, if_neg hsame⟩

theorem insertPromoClaim_ok (h : s.insertPromoClaim row = .ok (claim, s')) :
    claim = row ∧ s'.promoClaims.rows = row :: s.promoClaims.rows := by
  unfold insertPromoClaim at h
  split at h
  · cases h
  · split at h
    · cases h
    · rename_i claims hinsert
      cases h
      refine ⟨rfl, ?_⟩
      unfold PromoClaims.insert at hinsert
      split at hinsert
      · cases hinsert
        rfl
      · cases hinsert

/-- **A claim that is accepted is in the table with the data asked for**, and no claim is lost. -/
theorem recordPromoClaim_ok {now : String}
    (h : s.recordPromoClaim now cid.val oid.val claimClass hardwareId.val amount policy.val
      = .ok (claim, s')) :
    Records claim cid oid claimClass hardwareId amount policy ∧ claim ∈ s'.promoClaims.rows ∧
      s.promoClaims.rows ⊆ s'.promoClaims.rows := by
  simp only [recordPromoClaim, cleanIdentifier_val] at h
  split at h
  · cases h
  · split at h
    · cases h
    · split at h
      · rename_i existing hfind
        split at h
        · cases h
        · rename_i hsame
          cases h
          simp only [ne_eq, not_not, Prod.mk.injEq] at hsame
          obtain ⟨howner, hclass, hhardware, hamount, hpolicy⟩ := hsame
          have hcid : claim.claimId = cid := by simpa using List.find?_some hfind
          exact ⟨⟨hcid, howner, hclass, hhardware, hamount, hpolicy⟩, List.mem_of_find?_eq_some hfind,
            fun _ hr => hr⟩
      · obtain ⟨rfl, hrows⟩ := insertPromoClaim_ok h
        refine ⟨⟨rfl, rfl, rfl, rfl, rfl, rfl⟩, ?_, fun r hr => ?_⟩
        · rw [hrows]
          exact List.mem_cons_self
        · rw [hrows]
          exact List.mem_cons_of_mem _ hr

theorem promoClaimForOwner_some {ownerId : BoundedText 256}
    (h : s.promoClaimForOwner ownerId.val claimClass = some claim) :
    claim ∈ s.promoClaims.rows ∧ claim.ownerId = ownerId ∧ claim.claimClass = claimClass := by
  unfold promoClaimForOwner at h
  rw [ownerId.stripped, if_neg ownerId.nonempty] at h
  have hkey := List.find?_some h
  simp only [decide_eq_true_eq] at hkey
  exact ⟨List.mem_of_find?_eq_some h, BoundedText.ext_val hkey.1, hkey.2⟩

theorem promoClaimForOwner_of_mem (hmem : claim ∈ s.promoClaims.rows) :
    s.promoClaimForOwner claim.ownerId.val claim.claimClass = some claim := by
  cases hfound : s.promoClaimForOwner claim.ownerId.val claim.claimClass with
  | none =>
    unfold promoClaimForOwner at hfound
    rw [claim.ownerId.stripped, if_neg claim.ownerId.nonempty, List.find?_eq_none] at hfound
    simpa using hfound claim hmem
  | some other =>
    obtain ⟨hother, howner, hclass⟩ := promoClaimForOwner_some hfound
    have heq : other = claim :=
      PromoClaims.eq_of_not_distinct hother hmem fun hd => hd.2.1 ⟨howner, hclass⟩
    rw [heq]

end

end OwnerAccountStore

end ComputeMesh.Billing
