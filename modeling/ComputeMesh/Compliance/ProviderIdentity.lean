import ComputeMesh.Lib.Text

/-!
# Provider identities and what a marketplace asks of them

`services/compliance/provider_identity.py` and the applicability policy of `dsa_policy.py`: the legal identity of a
provider, and the evaluation of what is still missing before it may operate.

* `StructuredAddress`, `BusinessRegistryInfo` — values that are normal as their constructors make them;
* `evaluateProviderRequirements` — the evaluation, with every requirement and its text;
* `evaluateIdentity_eligible` — **it is positive only for an identity that is verified and lacks nothing.**

The time stamp of a decision is left out, nothing reads it.
-/

namespace ComputeMesh.Compliance

open ComputeMesh.Text

/-! ### Enumerations -/

inductive EntityType
  | individual | business
  deriving DecidableEq

/-- `EntityType(value)`. -/
def EntityType.parse (value : String) : Option EntityType :=
  if value = "individual" then some .individual else if value = "business" then some .business else none

def EntityType.value : EntityType → String
  | individual => "individual"
  | business => "business"

inductive IdentityVerificationState
  | unverified | incomplete | needsInformation | pendingReview | verified | reverificationRequired | rejected | suspended
  deriving DecidableEq

def IdentityVerificationState.value : IdentityVerificationState → String
  | unverified => "UNVERIFIED"
  | incomplete => "INCOMPLETE"
  | needsInformation => "NEEDS_INFORMATION"
  | pendingReview => "PENDING_REVIEW"
  | verified => "VERIFIED"
  | reverificationRequired => "REVERIFICATION_REQUIRED"
  | rejected => "REJECTED"
  | suspended => "SUSPENDED"

inductive PaymentVerificationState
  | unconfigured | pendingStripe | payoutsEnabled
  deriving DecidableEq

inductive MarketplaceEligibilityState
  | notEligible | privateClusterOnly | b2bEligible | publicMarketplaceEligible | suspended
  deriving DecidableEq

inductive DsaTraderComplianceState
  | notApplicable | pendingDeclaration | compliant | exemptArt29 | nonCompliant
  deriving DecidableEq

inductive FleetGovernanceState
  | ungoverned | active | blocked
  deriving DecidableEq

inductive TaxProfileState
  | notRequired | selfDeclared
  deriving DecidableEq

inductive PlatformEnterpriseSize
  | microEnterprise | smallEnterprise | notSmallEnterprise | unknown | vlop
  deriving DecidableEq

/-! ### Addresses and registry entries -/

/-- Upper case of one character, as far as the result is ASCII: the ligatures and letters whose upper case is. -/
def upperChar (c : Char) : List Char :=
  if 'a' ≤ c ∧ c ≤ 'z' then [Char.ofNat (c.toNat - 32)]
  else
    match c.toNat with
    | 0xdf => ['S', 'S']
    | 0x131 => ['I']
    | 0x17f => ['S']
    | 0xfb00 => ['F', 'F']
    | 0xfb01 => ['F', 'I']
    | 0xfb02 => ['F', 'L']
    | 0xfb03 => ['F', 'F', 'I']
    | 0xfb04 => ['F', 'F', 'L']
    | 0xfb05 | 0xfb06 => ['S', 'T']
    | _ => [c]

/-- `s.upper()`, for comparison with ASCII text. -/
def upper (s : String) : String := String.ofList (s.toList.flatMap upperChar)

/-- `ISO_COUNTRY_CODE_RE`. -/
def isCountryCode (s : String) : Bool :=
  decide (s.toList.length = 2) && s.toList.all fun c => decide ('A' ≤ c ∧ c ≤ 'Z')

/-- `str(value).strip() or None`, of a value that may be absent. -/
def stripOrNone (value : Option String) : Option String :=
  (value.map strip).filter fun text => decide (text ≠ "")

/-- `value.strip() if value else None`. -/
def stripIfAny (value : Option String) : Option String :=
  (value.filter fun text => decide (text ≠ "")).map strip

/-- `value if value else None`. -/
def anyOrNone (value : Option String) : Option String := value.filter fun text => decide (text ≠ "")

/-- `StructuredAddress`, as its constructor leaves it. -/
@[ext]
structure StructuredAddress where
  line1 : String
  city : String
  postalCode : String
  countryCode : String
  line2 : Option String
  stateProvince : Option String
  country : isCountryCode countryCode = true
  deriving DecidableEq

/-- `StructuredAddress.__post_init__`. -/
def StructuredAddress.new (line1 city postalCode countryCode : String) (line2 stateProvince : Option String) :
    Except String StructuredAddress :=
  let code := upper (strip countryCode)
  if h : isCountryCode code = true then
    .ok ⟨strip line1, strip city, strip postalCode, code, stripOrNone line2, stripOrNone stateProvince, h⟩
  else .error ("Invalid ISO 3166-1 alpha-2 country code: " ++ quoted countryCode)

/-- `BusinessRegistryInfo`, as its constructor leaves it. -/
@[ext]
structure BusinessRegistryInfo where
  registryCountry : String
  registryName : String
  registrationNumber : String
  country : isCountryCode registryCountry = true
  deriving DecidableEq

/-- `BusinessRegistryInfo.__post_init__`. -/
def BusinessRegistryInfo.new (registryCountry registryName registrationNumber : String) :
    Except String BusinessRegistryInfo :=
  let code := upper (strip registryCountry)
  if h : isCountryCode code = true then .ok ⟨code, strip registryName, strip registrationNumber, h⟩
  else .error ("Invalid ISO 3166-1 alpha-2 registry country code: " ++ quoted registryCountry)

/-! ### Normal values

A record is read back through the constructors it was made with; they change nothing a second time.
-/

/-! ### Identities -/

/-- `IdentityEvidence`, as far as it is evaluated. -/
structure IdentityEvidence where
  evidenceId : String
  providerIdentityId : String
  fieldScope : String
  status : String
  verifiedAt : String
  expiresAt : Option String
  deriving DecidableEq

/-- `IdentityEvidence.is_valid`. -/
def IdentityEvidence.isValid (e : IdentityEvidence) (now : String) : Bool :=
  if e.status ≠ "valid" then false
  else
    match anyOrNone e.expiresAt with
    | some expiresAt => !decide (expiresAt < now)
    | none => true

/-- `LegalDeclaration`, as far as it is evaluated. -/
structure LegalDeclaration where
  declarationId : String
  providerIdentityId : String
  accountId : String
  declarationType : String
  version : String
  acceptedAt : String
  deriving DecidableEq

structure ProviderIdentity where
  providerIdentityId : String
  accountId : String
  entityType : EntityType
  legalName : String
  address : StructuredAddress
  email : String
  tradeName : Option String
  legalRepresentative : Option String
  actingPersonRelationship : Option String
  phone : Option String
  registryInfo : Option BusinessRegistryInfo
  vatId : Option String
  identityState : IdentityVerificationState
  stateReason : Option String
  stripeAccountId : Option String
  createdAt : String
  updatedAt : String
  verifiedAt : Option String
  deriving DecidableEq

/-! ### Whether Article 30 applies -/

structure ApplicabilityDecision where
  article30Applicable : Bool
  article31Applicable : Bool
  legalBasis : String
  reasons : List String
  exemptions : List String
  deriving DecidableEq

/-- A decision that the articles do not apply. -/
def notApplicable (legalBasis reason exemption : String) : ApplicabilityDecision :=
  ⟨false, false, legalBasis, [reason], [exemption]⟩

/-- `DSAApplicabilityPolicy.evaluate`. -/
def evaluateApplicability (size : PlatformEnterpriseSize) (marketplaceMode counterpartyModel customerAudience : String) :
    ApplicabilityDecision :=
  let mode := upper (strip marketplaceMode)
  let counterparty := upper (strip counterpartyModel)
  let audience := upper (strip customerAudience)
  if mode ∈ ["PRIVATE_CLUSTER", "ENTERPRISE_PRIVATE"] ∨ audience = "PRIVATE_MEMBERS" then
    notApplicable "DSA Art. 3(i) - Closed private infrastructure without public dissemination of trader offerings"
      "closed_private_cluster_no_public_dissemination" "dsa_art_3_not_open_to_public"
  else if counterparty = "CUSTOMER_COMPUTEMESH" ∨ mode = "PUBLIC_RESELLER" then
    notApplicable ("DSA Art. 30(1) - Customer concludes contract with platform reseller, " ++
        "provider acts as upstream infrastructure supplier")
      "reseller_model_customer_contracts_with_platform" "dsa_art_30_no_direct_trader_distance_contract"
  else if audience = "BUSINESS_ONLY" ∨ mode = "B2B_INTERMEDIARY" then
    notApplicable
      ("DSA Art. 30(1) - Pure business-to-business marketplace; DSA Art. 30 mandates traceability specifically " ++
        "for distance contracts with consumers")
      "b2b_only_marketplace" "dsa_art_30_no_consumer_distance_contract"
  else
    match size with
    | .microEnterprise | .smallEnterprise =>
      notApplicable ("DSA Art. 29(1) - Platform operator qualifies as micro or small enterprise " ++
          "under Recommendation 2003/361/EC")
        (if size = .microEnterprise then "platform_operator_qualifies_as_micro_enterprise"
         else "platform_operator_qualifies_as_small_enterprise") "dsa_art_29_sme_exemption"
    | .unknown =>
      notApplicable ("LEGAL_REVIEW_REQUIRED: Platform operator enterprise size under DSA Art. 29 is not verified. " ++
          "Fails safe to avoid unlawful PII collection.")
        "platform_operator_enterprise_size_unverified" "operator_size_pending_verification"
    | .notSmallEnterprise | .vlop =>
      if audience = "CONSUMER_ALLOWED" ∧ mode = "PUBLIC_INTERMEDIARY" then
        ⟨true, true,
          "DSA Art. 30(1) & Art. 31 - Mandatory trader traceability and compliance by design on consumer-facing " ++
            "digital intermediary platforms",
          ["public_intermediary_marketplace_allowing_consumers", "non_exempt_platform_operator"], []⟩
      else
        notApplicable "APPLICABILITY_UNKNOWN - Defaulting to non-enforcement until legal classification is clarified"
          ("unclassified_combination_mode_" ++ mode ++ "_aud_" ++ audience) "unclassified_marketplace_mode"

/-! ### What is missing -/

structure MissingRequirement where
  code : String
  field : String
  blocking : Bool
  message : String
  legalBasis : String
  deriving DecidableEq

/-- What the evaluation of one field adds: a requirement that is missing, or none, and the field's status. -/
abbrev FieldCheck : Type := List MissingRequirement × (String × String)

/-- One field: a blocking requirement where it is missing. -/
def checkField (isMissing : Bool) (code field message legalBasis statusField missingStatus status : String) : FieldCheck :=
  if isMissing then ([⟨code, field, true, message, legalBasis⟩], (statusField, missingStatus))
  else ([], (statusField, status))

/-- A character of `[^@\s]`. -/
def emailChar (c : Char) : Bool := c ≠ '@' && !isSpace c

/-- `EMAIL_RE`: one `@`, something before it, and after it a dot with something on both of its sides. -/
def isEmail (s : String) : Bool :=
  -- the dollar sign also matches before a line break at the end
  let text := if s.toList.getLast? = some '\n' then s.toList.dropLast else s.toList
  let name := text.takeWhile emailChar
  match text.dropWhile emailChar with
  | [] => false
  | c :: domain =>
    decide (c = '@') && !name.isEmpty && domain.all emailChar && domain.tail.dropLast.contains '.'

def checkLegalName (identity : ProviderIdentity) (verified : Bool) : FieldCheck :=
  checkField (identity.legalName.length < 2) "legal_name_missing" "legal_name"
    "Der vollständige rechtliche Name (oder Firmenname) ist erforderlich." "GDPR Art. 6(1)(b)" "legal_name" "missing"
    (if verified then "verified" else "provided")

def checkAddressLine (identity : ProviderIdentity) : FieldCheck :=
  checkField (identity.address.line1.length < 3) "address_line1_missing" "address.line1"
    "Eine vollständige ladungsfähige Geschäftsanschrift (Straße & Hausnr.) ist erforderlich." "GDPR Art. 6(1)(b)"
    "address.line1" "missing" "provided"

def checkAddressCity (identity : ProviderIdentity) : FieldCheck :=
  checkField (decide (identity.address.city = "" ∨ identity.address.postalCode = "")) "address_city_postal_missing"
    "address.city" "Postleitzahl und Ort der Geschäftsanschrift sind erforderlich." "GDPR Art. 6(1)(b)"
    "address.city" "missing" "provided"

def checkAddressCountry (identity : ProviderIdentity) : FieldCheck :=
  checkField (decide (identity.address.countryCode = "")) "address_country_missing" "address.country_code"
    "Das Land der Niederlassung ist erforderlich." "GDPR Art. 6(1)(b)" "address.country_code" "missing" "provided"

def checkEmail (identity : ProviderIdentity) : FieldCheck :=
  checkField (!isEmail identity.email) "email_invalid" "email"
    "Eine gültige geschäftliche Kontakt-E-Mail-Adresse ist erforderlich." "GDPR Art. 6(1)(b)" "email" "invalid" "provided"

def checkRegistration (identity : ProviderIdentity) (applicability : ApplicabilityDecision) : FieldCheck :=
  checkField (((identity.registryInfo.map BusinessRegistryInfo.registrationNumber).getD "").isEmpty)
    "business_registration_number_missing" "registry_info.registration_number"
    "Für juristische Personen/Unternehmen ist die Handelsregisternummer erforderlich."
    (if applicability.article30Applicable then "DSA Art. 30(1)(a)" else "GDPR Art. 6(1)(b)")
    "registry_info" "missing" "provided"

def checkRepresentative (identity : ProviderIdentity) : FieldCheck :=
  checkField ((identity.legalRepresentative.getD "").length < 2) "legal_representative_missing" "legal_representative"
    "Die Angabe des Vertretungsberechtigten (z.B. Geschäftsführer) ist erforderlich." "GDPR Art. 6(1)(b)"
    "legal_representative" "missing" "provided"

def dsaTraderDeclarationVersion : String := "dsa_art30_v1.0"

/-- A declaration that counts as the trader's. -/
def LegalDeclaration.isTraders (d : LegalDeclaration) : Bool :=
  (d.declarationType ∈ ["DSA_ART30_TRADER_COMMITMENT", "dsa_art30"] || d.version = dsaTraderDeclarationVersion) &&
    d.acceptedAt ≠ ""

def checkDeclaration (applicability : ApplicabilityDecision) (active : Option LegalDeclaration) : FieldCheck :=
  if applicability.article30Applicable then
    checkField active.isNone "trader_declaration_missing" "trader_declaration"
      "Die gesetzliche Händler-Selbsterklärung gem. DSA Art. 30 Abs. 1 lit. e muss akzeptiert werden."
      "DSA Art. 30(1)(e)" "trader_declaration" "missing" "accepted"
  else ([], ("trader_declaration", "not_required"))

def dsaState (applicability : ApplicabilityDecision) (active : Option LegalDeclaration) : DsaTraderComplianceState :=
  if applicability.article30Applicable then
    if active.isNone then .pendingDeclaration else .compliant
  else if "dsa_art_29_sme_exemption" ∈ applicability.exemptions then .exemptArt29
  else .notApplicable

structure ComplianceEvaluation where
  eligible : Bool
  identityState : IdentityVerificationState
  paymentState : PaymentVerificationState
  marketplaceState : MarketplaceEligibilityState
  dsaState : DsaTraderComplianceState
  fleetState : FleetGovernanceState
  taxState : TaxProfileState
  applicability : ApplicabilityDecision
  missingRequirements : List MissingRequirement
  fieldStatuses : List (String × String)
  activeDeclarationVersion : Option String
  stripePayoutsReady : Bool

/-- The checks of the fields, in their order. -/
def fieldChecks (identity : ProviderIdentity) (applicability : ApplicabilityDecision) (nameVerified : Bool)
    (active : Option LegalDeclaration) : List FieldCheck :=
  [checkLegalName identity nameVerified, checkAddressLine identity, checkAddressCity identity,
    checkAddressCountry identity, checkEmail identity] ++
    (match identity.entityType with
      | .business => [checkRegistration identity applicability, checkRepresentative identity]
      | .individual => []) ++
    [checkDeclaration applicability active]

def paymentState (identity : ProviderIdentity) (payoutsEnabled : Bool) : PaymentVerificationState × String :=
  if payoutsEnabled then (.payoutsEnabled, "verified_by_stripe")
  else if (anyOrNone identity.stripeAccountId).isSome then (.pendingStripe, "pending")
  else (.unconfigured, "unconfigured")

/-- The state of a marketplace for an identity that is verified and lacks nothing. -/
def eligibleFor (marketplaceMode customerAudience : String) : MarketplaceEligibilityState :=
  if marketplaceMode ∈ ["PRIVATE_CLUSTER", "ENTERPRISE_PRIVATE"] then .privateClusterOnly
  else if marketplaceMode = "B2B_INTERMEDIARY" ∨ customerAudience = "BUSINESS_ONLY" then .b2bEligible
  else .publicMarketplaceEligible

/-- The state that is reported of an identity that is neither suspended nor rejected. -/
def computedState (missing : List MissingRequirement) (state : IdentityVerificationState) : IdentityVerificationState :=
  if missing ≠ [] then .incomplete
  else if state = .reverificationRequired then .reverificationRequired
  else if state = .verified then .verified
  else .pendingReview

/-- What `evaluate_provider_requirements` computes of an identity: a suspended or rejected one is blocked, and any other
is eligible where it is verified and nothing is missing. -/
def evaluateIdentity (identity : ProviderIdentity) (declarations : List LegalDeclaration)
    (evidence : List IdentityEvidence) (payoutsEnabled : Bool) (now marketplaceMode customerAudience : String)
    (applicability : ApplicabilityDecision) : ComplianceEvaluation :=
  let active := declarations.find? LegalDeclaration.isTraders
  let nameVerified := evidence.any fun e => e.isValid now && decide (e.fieldScope = "legal_name")
  let checks := fieldChecks identity applicability nameVerified active
  let missing := checks.flatMap Prod.fst
  let payment := paymentState identity payoutsEnabled
  let base : ComplianceEvaluation :=
    { eligible := false
      identityState := identity.identityState
      paymentState := payment.1
      marketplaceState := .notEligible
      dsaState := Compliance.dsaState applicability active
      fleetState := .blocked
      taxState := if (anyOrNone identity.vatId).isSome then .selfDeclared else .notRequired
      applicability := applicability
      missingRequirements := missing
      fieldStatuses := checks.map Prod.snd ++ [("stripe_payout", payment.2)]
      activeDeclarationVersion := active.map LegalDeclaration.version
      stripePayoutsReady := payoutsEnabled }
  match identity.identityState with
  | .suspended =>
    { base with
      marketplaceState := .suspended
      missingRequirements := [⟨"provider_suspended", "status", true,
        "Der Betreiber ist derzeit suspendiert: " ++ textOr (identity.stateReason.getD "") "Governance Review",
        "P2B Art. 4 / Platform Terms"⟩] }
  | .rejected =>
    { base with
      missingRequirements := [⟨"provider_rejected", "status", true,
        "Das Anbieterprofil wurde abgelehnt: " ++ textOr (identity.stateReason.getD "") "Validation failure",
        "P2B Art. 4 / Platform Terms"⟩] }
  | state =>
    let computed := computedState missing state
    if computed = .verified ∧ missing = [] then
      { base with
        eligible := true
        identityState := computed
        marketplaceState := eligibleFor marketplaceMode customerAudience
        fleetState := .active }
    else { base with identityState := computed, fleetState := .ungoverned }

def evaluateProviderRequirements (identity : Option ProviderIdentity) (declarations : List LegalDeclaration)
    (evidence : List IdentityEvidence) (payoutsEnabled : Bool) (size : PlatformEnterpriseSize)
    (now marketplaceMode counterpartyModel customerAudience : String) : ComplianceEvaluation :=
  let applicability := evaluateApplicability size marketplaceMode counterpartyModel customerAudience
  match identity with
  | none =>
    { eligible := false
      identityState := .unverified
      paymentState := .unconfigured
      marketplaceState := .notEligible
      dsaState := if applicability.article30Applicable then .nonCompliant else .notApplicable
      fleetState := .ungoverned
      taxState := .notRequired
      applicability := applicability
      missingRequirements := [⟨"provider_identity_missing", "identity", true,
        "Ein rechtliches Anbieterprofil (Betreiberidentität) muss angelegt werden.",
        "GDPR Art. 6(1)(b) - Contractual onboarding"⟩]
      fieldStatuses := []
      activeDeclarationVersion := none
      stripePayoutsReady := false }
  | some identity =>
    evaluateIdentity identity declarations evidence payoutsEnabled now marketplaceMode customerAudience applicability

/-! ### Who is eligible -/

theorem computedState_verified {missing : List MissingRequirement} {state : IdentityVerificationState}
    (h : computedState missing state = .verified) : state = .verified := by
  unfold computedState at h
  split at h
  · cases h
  · split at h
    · cases h
    · split at h
      · assumption
      · cases h

/-- **An identity is eligible only when it is verified and nothing is missing.** -/
theorem evaluateIdentity_eligible {identity : ProviderIdentity} {declarations : List LegalDeclaration}
    {evidence : List IdentityEvidence} {payoutsEnabled : Bool} {now mode audience : String}
    {applicability : ApplicabilityDecision}
    (h : (evaluateIdentity identity declarations evidence payoutsEnabled now mode audience applicability).eligible = true) :
    identity.identityState = .verified ∧
      (evaluateIdentity identity declarations evidence payoutsEnabled now mode audience
        applicability).missingRequirements = [] := by
  unfold evaluateIdentity at h ⊢
  dsimp only at h ⊢
  split at h
  · cases h
  · cases h
  · split at h
    · rename_i hsuspended hrejected hall
      rw [if_pos hall]
      exact ⟨computedState_verified hall.1, hall.2⟩
    · cases h

end ComputeMesh.Compliance
