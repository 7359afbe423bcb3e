import ComputeMesh.Billing.OwnerAccounts
import ComputeMesh.Billing.OwnerCredits

/-!
# Signed promo grants

`signed_promo_grants.py` and `promo_recovery.py`: a decision of the private control plane is verified, its
device is bound, its claim is recorded in the owner store, and only then the ledger is credited under an
event made of the claim id.  The two stores are written separately, so `apply` is given as its sections, each
ending with one durable write, and as the whole call.

* `PromoDecisionVerifier.verify` — what a verified decision has been checked for is in the type of its
  fields; the Ed25519 check of a key is a parameter;
* `PromoStores.apply` — the whole call;
* `reconcileExistingPromoClaim` — the recovery of a claim whose grant was lost.
-/

namespace ComputeMesh.Billing

open ComputeMesh.Text ComputeMesh.Sha256

/-! ### Decisions -/

/-- `PromoGrantDecisionError`, or what the stores below raise through `apply`. -/
inductive PromoExn
  | decision (message : String)
  | overflow (message : String)
  | ledger (exn : Exn)
  deriving DecidableEq

def promoClaimId (ownerId claimClass hardwareClaimId policyVersion : String) : String :=
  let separator := String.singleton (Char.ofNat 0)
  let material := "v1" ++ separator ++ strip ownerId ++ separator ++ strip claimClass ++ separator ++
    strip hardwareClaimId ++ separator ++ strip policyVersion
  "promo_claim_v1_" ++ sha256Hex material

/-- `PromoGrantDecision`, as `verify` returns it. -/
structure PromoGrantDecision where
  decisionId : BoundedText 256
  issuedAt : ℤ
  expiresAt : ℤ
  ownerId : BoundedText 256
  claimId : BoundedText 512
  claimClass : ClaimClass
  hardwareClaimId : BoundedText 512
  assuranceTier : BoundedText 64
  nodeId : BoundedText 128
  amountMicroUnits : ℤ
  policyVersion : BoundedText 128
  evidenceDigest : BoundedText 128
  keyId : BoundedText 128
  amount_pos : 0 < amountMicroUnits
  canonical : claimId.val = promoClaimId ownerId.val claimClass.text hardwareClaimId.val policyVersion.val

/-- The `signature` object of an envelope, when it has exactly the required fields. -/
structure SignatureObject where
  algorithm : String
  keyId : String
  value : String

/-- An envelope by what `verify` reads of it: whether its fields are exactly the required ones, the text
`str(value or "")` of a text field, and an integer field if it is an integer. -/
structure PromoEnvelope where
  hasRequiredFields : Bool
  kind : String
  decisionId : String
  issuedAt : Option ℤ
  expiresAt : Option ℤ
  ownerId : String
  claimId : String
  claimClass : String
  hardwareClaimId : String
  assuranceTier : String
  nodeId : String
  amountMicroUnits : Option ℤ
  policyVersion : String
  evidenceDigest : String
  signature : Option SignatureObject

def boundedText (value field : String) (maxLen : ℕ) : Except PromoExn (BoundedText maxLen) :=
  let text := strip value
  if h : text = "" ∨ maxLen < text.length then .error (.decision ("invalid " ++ field))
  else .ok ⟨text, strip_strip value, fun he => h (.inl he), by omega⟩

/-- `_b64u_decode`, up to the bytes themselves: a text over the alphabet decodes unless one character is
left over, and `n` characters carry `6 n` bits. -/
def b64uDecode (value : String) : Except PromoExn String :=
  match boundedText value "signature value" 256 with
  | .error e => .error e
  | .ok text =>
    let alphabet := "ABCDEFGHIJKLMNOPQRSTUVWXYZabcdefghijklmnopqrstuvwxyz0123456789-_"
    if text.val.toList.any (fun c => decide (c ∉ alphabet.toList)) then
      .error (.decision "invalid signature encoding")
    else if text.val.length % 4 = 1 then .error (.decision "invalid signature encoding")
    else if text.val.length * 6 / 8 ≠ 64 then .error (.decision "invalid Ed25519 signature length")
    else .ok text.val

/-- `PromoDecisionVerifier`.  A trusted key is its signature check, of the third-party package. -/
structure PromoDecisionVerifier where
  keys : String → Option (String → PromoEnvelope → Bool)
  maxLifetimeSeconds : ℤ
  clockSkewSeconds : ℤ

/-- `int(now)`. -/
def truncate (now : ℚ) : ℤ := if 0 ≤ now then now.floor else now.ceil

namespace PromoDecisionVerifier

/-- The signature part of `verify`; it returns the key id. -/
def verifySignature (v : PromoDecisionVerifier) (e : PromoEnvelope) : Except PromoExn (BoundedText 128) :=
  match e.signature with
  | none => .error (.decision "invalid promo decision signature object")
  | some signature =>
    if signature.algorithm ≠ "Ed25519" then
      .error (.decision "unsupported promo decision signature algorithm")
    else do
      let keyId ← boundedText signature.keyId "signature key_id" 128
      match v.keys keyId.val with
      | none => .error (.decision "promo decision was signed by an untrusted key")
      | some check =>
        let signatureBytes ← b64uDecode signature.value
        if check signatureBytes e = false then .error (.decision "invalid promo decision signature")
        else .ok keyId

theorem amount_pos {amount : ℤ} (h : ¬amount ≤ 0) : 0 < amount := not_le.mp h

/-- The times and the amount of an envelope, checked. -/
def verifyTerms (v : PromoDecisionVerifier) (e : PromoEnvelope) (now : ℚ) :
    Except PromoExn (ℤ × ℤ × { amount : ℤ // 0 < amount }) :=
  match e.issuedAt, e.expiresAt, e.amountMicroUnits with
  | none, _, _ => .error (.decision "issued_at must be integer epoch seconds")
  | some _, none, _ => .error (.decision "expires_at must be integer epoch seconds")
  | some _, some _, none => .error (.decision "amount_micro_units must be a positive integer")
  | some issuedAt, some expiresAt, some amount =>
    if h : amount ≤ 0 then .error (.decision "amount_micro_units must be a positive integer")
    else if expiresAt ≤ issuedAt ∨ v.maxLifetimeSeconds < expiresAt - issuedAt then
      .error (.decision "promo decision lifetime exceeds policy")
    else if truncate now + v.clockSkewSeconds < issuedAt then
      .error (.decision "promo decision was issued too far in the future")
    else if expiresAt ≤ truncate now then .error (.decision "promo decision has expired")
    else .ok (issuedAt, expiresAt, ⟨amount, amount_pos h⟩)

/-- The class of a decision, one of `_ALLOWED_CLAIM_CLASSES`. -/
def verifyClass (value : String) : Except PromoExn ClaimClass := do
  let claimClass ← boundedText value "claim_class" 64
  if claimClass.val = ClaimClass.text .deviceOnboarding then .ok .deviceOnboarding
  else if claimClass.val = ClaimClass.text .gpuOnboarding then .ok .gpuOnboarding
  else .error (.decision "unsupported promo claim class")

def verify (v : PromoDecisionVerifier) (e : PromoEnvelope) (now : ℚ) :
    Except PromoExn PromoGrantDecision :=
  if e.hasRequiredFields = false then
    .error (.decision "promo decision has unknown or missing fields")
  else if e.kind ≠ "computemesh.promo_grant.v1" then
    .error (.decision "unsupported promo decision kind")
  else do
    let keyId ← v.verifySignature e
    let (issuedAt, expiresAt, amount) ← v.verifyTerms e now
    let ownerId ← boundedText e.ownerId "owner_id" 256
    let claimClass ← verifyClass e.claimClass
    let hardwareClaimId ← boundedText e.hardwareClaimId "hardware_claim_id" 512
    let policyVersion ← boundedText e.policyVersion "policy_version" 128
    let claimId ← boundedText e.claimId "claim_id" 512
    if h : claimId.val
        ≠ promoClaimId ownerId.val claimClass.text hardwareClaimId.val policyVersion.val then
      .error (.decision "promo decision claim_id is not canonical")
    else
      let decisionId ← boundedText e.decisionId "decision_id" 256
      let assuranceTier ← boundedText e.assuranceTier "assurance_tier" 64
      let nodeId ← boundedText e.nodeId "node_id" 128
      let evidenceDigest ← boundedText e.evidenceDigest "evidence_digest" 128
      .ok
        { decisionId, issuedAt, expiresAt, ownerId, claimId, claimClass, hardwareClaimId, assuranceTier,
          nodeId, amountMicroUnits := amount.val, policyVersion, evidenceDigest, keyId
          amount_pos := amount.property
          canonical := not_not.mp h }

end PromoDecisionVerifier

/-! ### Applying a decision -/

inductive LedgerStatus
  | credited
  | creditedRecovery
  | alreadyCredited
  deriving DecidableEq

/-- `PromoGrantApplyResult`; its other fields repeat those of the claim. -/
structure PromoGrantApplyResult where
  ledgerStatus : LedgerStatus
  claim : PromoClaim
  deriving DecidableEq

/-- The two durable stores. -/
structure PromoStores where
  owners : OwnerAccountStore
  ledger : Ledger

namespace PromoStores

/-- `apply` up to and including `bind_device`. -/
def bind (s : PromoStores) (v : PromoDecisionVerifier) (e : PromoEnvelope) (now : ℚ) :
    Except PromoExn (PromoGrantDecision × PromoStores) :=
  match v.verify e now with
  | .error exn => .error exn
  | .ok d =>
    if s.owners.hasOwner d.ownerId.val = false then
      .error (.decision "promo decision references an unknown owner")
    else if d.claimClass = .gpuOnboarding ∧ s.owners.ownerForProviderNode d.nodeId.val ≠ some d.ownerId.val then
      .error (.decision "GPU promo decision node is not bound to the decision owner")
    else
      match s.owners.bindDevice d.ownerId.val d.hardwareClaimId.val d.assuranceTier.val with
      | .error message => .error (.decision message)
      | .ok owners => .ok (d, { s with owners := owners })

/-- The claim of the owner and the class of the decision, read before anything is recorded. -/
def lookup (s : PromoStores) (d : PromoGrantDecision) : Option PromoClaim :=
  s.owners.promoClaimForOwner d.ownerId.val d.claimClass

/-- The claim section of `apply`: the claim that was read has to be this grant's, and without one the
claim is recorded. -/
def claim (s : PromoStores) (env : Env) (d : PromoGrantDecision) (existing : Option PromoClaim) :
    Except PromoExn (PromoClaim × PromoStores) :=
  match existing with
  | some c =>
    if (c.claimId, c.hardwareClaimId, c.amountMicroUnits, c.policyVersion)
        ≠ (d.claimId, d.hardwareClaimId, d.amountMicroUnits, d.policyVersion) then
      .error (.decision "promo claim class was already consumed by a different grant")
    else .ok (c, s)
  | none =>
    match s.owners.recordPromoClaim env.isoNow d.claimId.val d.ownerId.val d.claimClass
        d.hardwareClaimId.val d.amountMicroUnits d.policyVersion.val with
    | .error (.store message) => .error (.decision message)
    | .error (.overflow message) => .error (.overflow message)
    | .ok (c, owners) => .ok (c, { s with owners := owners })

/-- `grant_owner_promo_credits` with the `DuplicateEventError` of an earlier grant caught. -/
def grant (s : PromoStores) (env : Env) (ownerId claimId policyVersion : String) (amount : ℤ)
    (status : LedgerStatus) : Except PromoExn LedgerStatus × PromoStores :=
  match s.ledger.grantOwnerPromoCredits env ownerId amount claimId policyVersion with
  | (.ok _, ledger) => (.ok status, { s with ledger := ledger })
  | (.error (.duplicateEvent _), ledger) => (.ok .alreadyCredited, { s with ledger := ledger })
  | (.error exn, ledger) => (.error (.ledger exn), { s with ledger := ledger })

/-- The ledger section of `apply`. -/
def credit (s : PromoStores) (env : Env) (d : PromoGrantDecision) (c : PromoClaim) :
    Except PromoExn PromoGrantApplyResult × PromoStores :=
  match s.grant env d.ownerId.val d.claimId.val d.policyVersion.val d.amountMicroUnits .credited with
  | (.ok status, s') => (.ok ⟨status, c⟩, s')
  | (.error exn, s') => (.error exn, s')

/-- `SignedPromoGrantApplier.apply`. -/
def apply (s : PromoStores) (v : PromoDecisionVerifier) (env : Env) (e : PromoEnvelope) (now : ℚ) :
    Except PromoExn PromoGrantApplyResult × PromoStores :=
  match s.bind v e now with
  | .error exn => (.error exn, s)
  | .ok (d, s₁) =>
    match s₁.claim env d (s₁.lookup d) with
    | .error exn => (.error exn, s₁)
    | .ok (c, s₂) => s₂.credit env d c

def reconcileExistingPromoClaim (s : PromoStores) (env : Env) (ownerId : String)
    (claimClass : ClaimClass) : Except PromoExn (Option PromoGrantApplyResult) × PromoStores :=
  match s.owners.promoClaimForOwner ownerId claimClass with
  | none => (.ok none, s)
  | some c =>
    match s.grant env c.ownerId.val c.claimId.val c.policyVersion.val c.amountMicroUnits .creditedRecovery with
    | (.ok status, s') => (.ok (some ⟨status, c⟩), s')
    | (.error exn, s') => (.error exn, s')

end PromoStores

end ComputeMesh.Billing
