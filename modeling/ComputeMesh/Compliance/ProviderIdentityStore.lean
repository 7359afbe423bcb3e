import ComputeMesh.Compliance.ProviderIdentity
import ComputeMesh.Lib.Dict

/-!
# The store of provider identities and the gate in front of the marketplace

`services/compliance/provider_identity_store.py` and `fleet_gatekeeper.py`: one row an account, which its owner writes
and an operator reviews, a log of what happened to it, and the check that asks it.

* `Store.upsertIdentity` — a profile is made or changed; a material change of a verified one calls for another review;
* `Store.updateVerificationState` — the review;
* `Store.canOperateMarketplace` — the gate;
* `Store.canOperateMarketplace_true` — **it opens only for an account whose stored identity is verified.**

A call runs under the lock of the store and in one transaction. Generated tokens and clock readings are arguments of
the call that takes them.
-/

namespace ComputeMesh.Compliance

open ComputeMesh.Text

/-! ### Rows -/

/-- The columns that a profile writes. -/
structure Profile where
  entityType : EntityType
  legalName : String
  tradeName : Option String
  legalRepresentative : Option String
  actingPersonRelationship : Option String
  address : StructuredAddress
  email : String
  phone : Option String
  registry : Option BusinessRegistryInfo
  vatId : Option String
  deriving DecidableEq

/-- A row of `provider_identities`, under its id. -/
structure IdentityRow where
  accountId : String
  profile : Profile
  state : IdentityVerificationState
  stateReason : Option String
  stripeAccountId : Option String
  createdAt : String
  updatedAt : String
  verifiedAt : Option String
  deriving DecidableEq

/-- A row of `provider_identity_audit_log`. -/
structure AuditEntry where
  providerIdentityId : String
  accountId : String
  actor : String
  action : String
  previousState : String
  newState : String
  reason : Option String
  requestId : String
  createdAt : String
  deriving DecidableEq

/-- A row of `fleet_provider_bindings`, under its fleet. -/
structure FleetBinding where
  providerIdentityId : String
  accountId : String
  status : String
  marketplaceMode : String
  createdAt : String
  updatedAt : String
  deriving DecidableEq

/-- The tables. -/
structure Store where
  identities : Dict String IdentityRow
  evidence : List IdentityEvidence
  declarations : List LegalDeclaration
  audit : List AuditEntry
  bindings : Dict String FleetBinding

def Store.empty : Store := ⟨Dict.empty, [], [], [], Dict.empty⟩

/-- What a call raises: an error of its own, or that of a constraint of the tables. -/
inductive StoreError
  | refused (message : String)
  | integrity
  deriving DecidableEq

/-- `_row_to_identity`. -/
def IdentityRow.toIdentity (row : IdentityRow) (providerIdentityId : String) : ProviderIdentity :=
  { providerIdentityId := providerIdentityId
    accountId := row.accountId
    entityType := row.profile.entityType
    legalName := row.profile.legalName
    tradeName := anyOrNone row.profile.tradeName
    legalRepresentative := anyOrNone row.profile.legalRepresentative
    actingPersonRelationship := anyOrNone row.profile.actingPersonRelationship
    address := row.profile.address
    email := row.profile.email
    phone := anyOrNone row.profile.phone
    registryInfo := row.profile.registry.filter fun registry => decide (registry.registrationNumber ≠ "")
    vatId := anyOrNone row.profile.vatId
    identityState := row.state
    stateReason := anyOrNone row.stateReason
    stripeAccountId := anyOrNone row.stripeAccountId
    createdAt := row.createdAt
    updatedAt := row.updatedAt
    verifiedAt := anyOrNone row.verifiedAt }

def Store.rowOfAccount (s : Store) (accountId : String) : Option (String × IdentityRow) :=
  s.identities.entries.find? fun entry => decide (entry.2.accountId = accountId)

def Store.getIdentityByAccount (s : Store) (accountId : String) : Option ProviderIdentity :=
  (s.rowOfAccount accountId).map fun entry => entry.2.toIdentity entry.1

/-! ### Profiles -/

/-- An address as a caller passes it: made already, or the fields of one. -/
inductive AddressInput
  | made (address : StructuredAddress)
  | fields (line1 city postalCode countryCode : String) (line2 stateProvince : Option String)

def AddressInput.read : AddressInput → Except StoreError StructuredAddress
  | made address => .ok address
  | fields line1 city postalCode countryCode line2 stateProvince =>
    (StructuredAddress.new line1 city postalCode countryCode line2 stateProvince).mapError .refused

/-- A registry entry as a caller passes it. -/
inductive RegistryInput
  | made (registry : BusinessRegistryInfo)
  | fields (registryCountry registryName registrationNumber : String)

/-- Fields without a number are no entry. -/
def RegistryInput.read : RegistryInput → Except StoreError (Option BusinessRegistryInfo)
  | made registry => .ok (some registry)
  | fields registryCountry registryName registrationNumber =>
    if registrationNumber = "" then .ok none
    else
      match BusinessRegistryInfo.new registryCountry registryName registrationNumber with
      | .ok registry => .ok (some registry)
      | .error message => .error (.refused message)

/-- The arguments of `upsert_identity`. -/
structure IdentityForm where
  accountId : String
  entityType : String
  legalName : String
  address : AddressInput
  email : String
  tradeName : Option String
  legalRepresentative : Option String
  actingPersonRelationship : Option String
  phone : Option String
  registryInfo : Option RegistryInput
  vatId : Option String
  stripeAccountId : Option String
  actor : String
  requestId : String

/-- The columns that a form writes, or the error it is refused with. -/
def IdentityForm.read (form : IdentityForm) : Except StoreError Profile := do
  let some entityType := EntityType.parse form.entityType
    | .error (.refused (quoted form.entityType ++ " is not a valid EntityType"))
  let address ← form.address.read
  let registry ← match form.registryInfo with
    | some input => input.read
    | none => .ok none
  let legalName := strip form.legalName
  let email := lower (strip form.email)
  if legalName = "" then .error (.refused "legal_name is required")
  else if email = "" ∨ ¬email.toList.contains '@' then .error (.refused "valid email is required")
  else
    .ok
      { entityType := entityType
        legalName := legalName
        tradeName := stripIfAny form.tradeName
        legalRepresentative := stripIfAny form.legalRepresentative
        actingPersonRelationship := stripIfAny form.actingPersonRelationship
        address := address
        email := email
        phone := stripIfAny form.phone
        registry := registry
        vatId := stripIfAny form.vatId }

def materialChange (existing : ProviderIdentity) (profile : Profile) : Bool :=
  decide (existing.legalName ≠ profile.legalName) || decide (existing.entityType ≠ profile.entityType) ||
    decide (existing.address.line1 ≠ profile.address.line1) || decide (existing.address.city ≠ profile.address.city) ||
    decide (existing.address.postalCode ≠ profile.address.postalCode) ||
    decide (existing.address.countryCode ≠ profile.address.countryCode) ||
    decide (existing.registryInfo.map BusinessRegistryInfo.registrationNumber ≠
      profile.registry.map BusinessRegistryInfo.registrationNumber)

/-- Whether a profile calls for another review. -/
def needsReview (existing : ProviderIdentity) (profile : Profile) : Bool :=
  decide (existing.identityState = .verified) && materialChange existing profile

/-- The row that a profile leaves of an existing one. -/
def IdentityRow.updatedBy (row : IdentityRow) (id : String) (profile : Profile) (stripeAccountId : Option String)
    (now : String) : IdentityRow :=
  let existing := row.toIdentity id
  { row with
    profile := profile
    state := if needsReview existing profile then .reverificationRequired else existing.identityState
    stripeAccountId := (stripIfAny stripeAccountId).or row.stripeAccountId
    updatedAt := now
    verifiedAt := if needsReview existing profile then none else existing.verifiedAt }

/-- A row is written and an entry of the log with it. -/
def Store.write (s : Store) (id : String) (row : IdentityRow) (entry : AuditEntry) : Store :=
  { s with identities := s.identities.set id row, audit := s.audit ++ [entry] }

/-- `upsert_identity`, with the token of a new id, and the times of the row and of the entry in the log. -/
def Store.upsertIdentity (s : Store) (form : IdentityForm) (token now later : String) :
    Except StoreError (ProviderIdentity × Store) :=
  match form.read with
  | .error e => .error e
  | .ok profile =>
    match s.rowOfAccount form.accountId with
    | none =>
      let id := "prv_" ++ token
      if s.identities.contains id then .error .integrity
      else
        let row : IdentityRow :=
          { accountId := form.accountId
            profile := profile
            state := .pendingReview
            stateReason := none
            stripeAccountId := stripIfAny form.stripeAccountId
            createdAt := now
            updatedAt := now
            verifiedAt := none }
        .ok (row.toIdentity id, s.write id row
          ⟨id, form.accountId, form.actor, "provider_identity_created", "", IdentityVerificationState.pendingReview.value,
            some "Initial provider profile registration", form.requestId, later⟩)
    | some (id, row) =>
      let existing := row.toIdentity id
      let updated := row.updatedBy id profile form.stripeAccountId now
      .ok (updated.toIdentity id, s.write id updated
        ⟨id, form.accountId, form.actor, "provider_identity_updated", existing.identityState.value, updated.state.value,
          some (if needsReview existing profile then "Material identity fields modified after verification"
            else "Profile updated"), form.requestId, later⟩)

/-! ### Review, evidence, declarations and fleets -/

def Store.updateVerificationState (s : Store) (id : String) (newState : IdentityVerificationState)
    (actor reason requestId now later : String) : Except StoreError (ProviderIdentity × Store) :=
  match s.identities.get? id with
  | none => .error (.refused ("Provider " ++ quoted id ++ " does not exist"))
  | some row =>
    let verifiedAt :=
      if newState = .verified then some now else if newState ≠ .unverified then row.verifiedAt else none
    let reviewed :=
      { row with state := newState, stateReason := some reason, verifiedAt := verifiedAt, updatedAt := now }
    .ok (reviewed.toIdentity id, s.write id reviewed
      ⟨id, row.accountId, actor, "verification_state_transition", row.state.value, newState.value, some reason, requestId,
        later⟩)

def Store.addEvidence (s : Store) (id fieldScope status : String) (expiresAt : Option String) (token now : String) :
    Except StoreError (IdentityEvidence × Store) :=
  let item : IdentityEvidence := ⟨"evid_" ++ token, id, fieldScope, status, now, expiresAt⟩
  if s.identities.contains id ∧ ∀ e ∈ s.evidence, e.evidenceId ≠ item.evidenceId then
    .ok (item, { s with evidence := s.evidence ++ [item] })
  else .error .integrity

def Store.recordDeclaration (s : Store) (id accountId version declarationType token now later : String) :
    Except StoreError (LegalDeclaration × Store) :=
  let item : LegalDeclaration := ⟨"decl_" ++ token, id, accountId, declarationType, version, now⟩
  if s.identities.contains id ∧ ∀ d ∈ s.declarations, d.declarationId ≠ item.declarationId then
    .ok (item, { s with
      declarations := s.declarations ++ [item]
      audit := s.audit ++ [⟨id, accountId, "user", "legal_declaration_accepted", "", "",
        some ("Accepted " ++ declarationType ++ " (version " ++ version ++ ")"), "", later⟩] })
  else .error .integrity

def Store.bindFleet (s : Store) (fleetId id accountId status marketplaceMode now : String) :
    Except StoreError (FleetBinding × Store) :=
  let fleet := strip fleetId
  if fleet = "" then .error (.refused "fleet_id is required")
  else if s.identities.contains id ∧ status ∈ ["draft", "active", "suspended", "legacy_unverified"] then
    let createdAt := ((s.bindings.get? fleet).map FleetBinding.createdAt).getD now
    let binding : FleetBinding := ⟨id, accountId, status, marketplaceMode, createdAt, now⟩
    .ok (binding, { s with bindings := s.bindings.set fleet binding })
  else .error .integrity

/-! ### Retention -/

/-- A draft that is purged: incomplete, old and without a fleet. -/
def Store.isStaleDraft (s : Store) (cutoffDraft id : String) (row : IdentityRow) : Bool :=
  decide (row.state = .incomplete) && decide (row.createdAt < cutoffDraft) &&
    s.bindings.values.all fun binding => decide (binding.providerIdentityId ≠ id)

/-- The rows that refer to a purged draft go with it. -/
def Store.refersToStaleDraft (s : Store) (cutoffDraft id : String) : Bool :=
  (s.identities.get? id).any (s.isStaleDraft cutoffDraft id)

def AuditEntry.anonymized (entry : AuditEntry) : AuditEntry :=
  { entry with
    accountId := "anonymized"
    actor := "anonymized"
    reason := some "anonymized per retention policy" }

/-- `apply_retention_lifecycle`, of the two dates its rules lead to: the profiles it purges, the entries it anonymizes,
and the store. A draft that is purged has no fleet, so no binding refers to it. -/
def Store.applyRetentionLifecycle (s : Store) (cutoffDraft cutoffAudit : String) : (ℕ × ℕ) × Store :=
  let kept := s.identities.filter fun id row => !s.isStaleDraft cutoffDraft id row
  ((s.identities.entries.length - kept.entries.length,
      (s.audit.filter fun entry => decide (entry.createdAt < cutoffAudit)).length),
    { s with
      identities := kept
      evidence := s.evidence.filter fun e => !s.refersToStaleDraft cutoffDraft e.providerIdentityId
      declarations := s.declarations.filter fun d => !s.refersToStaleDraft cutoffDraft d.providerIdentityId
      audit := s.audit.map fun entry => if entry.createdAt < cutoffAudit then entry.anonymized else entry })

/-! ### The gate -/

/-- `list_declarations`: those of an identity, the latest first. -/
def Store.listDeclarations (s : Store) (id : String) : List LegalDeclaration :=
  (s.declarations.filter fun d => decide (d.providerIdentityId = id)).insertionSort fun a b => b.acceptedAt ≤ a.acceptedAt

def Store.listEvidence (s : Store) (id : String) : List IdentityEvidence :=
  (s.evidence.filter fun e => decide (e.providerIdentityId = id)).insertionSort fun a b => b.verifiedAt ≤ a.verifiedAt

/-- What a check is made for: the size of the operator's enterprise, whether the account has payouts, the time, and the
marketplace. -/
structure GateContext where
  size : PlatformEnterpriseSize
  payoutsEnabled : Bool
  now : String
  marketplaceMode : String
  counterpartyModel : String
  customerAudience : String

def Store.evaluateAccountCompliance (s : Store) (accountId : String) (c : GateContext) : ComplianceEvaluation :=
  match s.getIdentityByAccount accountId with
  | none =>
    evaluateProviderRequirements none [] [] false c.size c.now c.marketplaceMode c.counterpartyModel c.customerAudience
  | some identity =>
    evaluateProviderRequirements (some identity) (s.listDeclarations identity.providerIdentityId)
      (s.listEvidence identity.providerIdentityId) c.payoutsEnabled c.size c.now c.marketplaceMode c.counterpartyModel
      c.customerAudience

/-- The code an ineligible account is turned away with. -/
def ComplianceEvaluation.refusalCode (e : ComplianceEvaluation) : String :=
  if e.identityState = .suspended then "PROVIDER_SUSPENDED"
  else if e.identityState = .rejected then "PROVIDER_VERIFICATION_FAILED"
  else if e.identityState = .unverified then "PROVIDER_IDENTITY_REQUIRED"
  else if e.missingRequirements.any fun r => decide (r.code = "trader_declaration_missing") then
    "TRADER_DECLARATION_REQUIRED"
  else "PROVIDER_IDENTITY_INCOMPLETE"

/-- `can_operate_marketplace`; the fleet is not looked at. -/
def Store.canOperateMarketplace (s : Store) (accountId : String) (c : GateContext) :
    Bool × Option String × List MissingRequirement :=
  let evaluation := s.evaluateAccountCompliance accountId c
  if evaluation.eligible then (true, none, [])
  else (false, some evaluation.refusalCode, evaluation.missingRequirements)

/-! ### For whom it opens -/

theorem Store.get?_of_rowOfAccount {s : Store} {accountId id : String} {row : IdentityRow}
    (h : s.rowOfAccount accountId = some (id, row)) : s.identities.get? id = some row ∧ row.accountId = accountId := by
  refine ⟨(s.identities.mem_entries_iff id row).mp (List.mem_of_find?_eq_some h), ?_⟩
  simpa using List.find?_some h

/-- **The gate opens only for an account whose stored identity is verified, and then nothing is missing.** -/
theorem Store.canOperateMarketplace_true {s : Store} {accountId : String} {c : GateContext}
    (h : (s.canOperateMarketplace accountId c).1 = true) :
    ∃ id row, s.rowOfAccount accountId = some (id, row) ∧ row.state = .verified ∧
      (s.evaluateAccountCompliance accountId c).missingRequirements = [] := by
  have heligible : (s.evaluateAccountCompliance accountId c).eligible = true := by
    unfold canOperateMarketplace at h
    dsimp only at h
    split at h
    · assumption
    · cases h
  unfold evaluateAccountCompliance getIdentityByAccount at heligible ⊢
  cases hrow : s.rowOfAccount accountId with
  | none =>
    rw [hrow] at heligible
    cases heligible
  | some entry =>
    rw [hrow] at heligible
    obtain ⟨id, row⟩ := entry
    obtain ⟨hstate, hmissing⟩ := evaluateIdentity_eligible heligible
    exact ⟨id, row, rfl, hstate, hmissing⟩

end ComputeMesh.Compliance
