import ComputeMesh.Compliance.ProviderIdentityStore
import ComputeMesh.Lib.Run

/-!
# What a review stands for

An operator reviews an identity and sets it to VERIFIED; its owner may write it again. Beside the store a run keeps,
for each identity, what it was when the state was last set to VERIFIED.

* `Move`, `next` — the calls of the store, and what a run keeps beside it;
* `Sound` — the invariant: what is verified is what was reviewed, and the log leads to the stored state;
* `reviewed_identity_verified` — **what holds in every state, as long as no call changes a part of a verified identity
  that `material_change` does not compare;**
* `verified_without_review` — such a call exchanges the representative and the identity stays verified.
-/

namespace ComputeMesh.Compliance

open ComputeMesh.Run Store

/-! ### Runs -/

/-- What a review is about: the kind of provider, its name, its whole address, its registry entry and who represents it. -/
structure Reviewed where
  entityType : EntityType
  legalName : String
  address : StructuredAddress
  registryInfo : Option BusinessRegistryInfo
  legalRepresentative : Option String
  deriving DecidableEq

def ProviderIdentity.reviewed (identity : ProviderIdentity) : Reviewed :=
  ⟨identity.entityType, identity.legalName, identity.address, identity.registryInfo, identity.legalRepresentative⟩

/-- A call, with its arguments, the tokens it draws and the times it reads. -/
inductive Move
  | upsert (form : IdentityForm) (token now later : String)
  | updateState (id : String) (newState : IdentityVerificationState) (actor reason requestId now later : String)
  | addEvidence (id fieldScope status : String) (expiresAt : Option String) (token now : String)
  | recordDeclaration (id accountId version declarationType token now later : String)
  | bindFleet (fleetId id accountId status marketplaceMode now : String)
  | applyRetention (cutoffDraft cutoffAudit : String)

/-- The store, and what each identity was when it was last set to VERIFIED. -/
structure World where
  store : Store
  reviewed : Dict String Reviewed

def World.start : World := ⟨Store.empty, Dict.empty⟩

/-- The store a call leaves; one that raises leaves it as it is. -/
def committed {α : Type} (s : Store) : Except StoreError (α × Store) → Store
  | .ok r => r.2
  | .error _ => s

def next (w : World) : Move → World
  | .upsert form token now later => { w with store := committed w.store (w.store.upsertIdentity form token now later) }
  | .updateState id newState actor reason requestId now later =>
    match w.store.updateVerificationState id newState actor reason requestId now later with
    | .error _ => w
    | .ok (identity, s) =>
      { store := s
        reviewed := if newState = .verified then w.reviewed.set id identity.reviewed else w.reviewed }
  | .addEvidence id fieldScope status expiresAt token now =>
    { w with store := committed w.store (w.store.addEvidence id fieldScope status expiresAt token now) }
  | .recordDeclaration id accountId version declarationType token now later =>
    { w with
      store := committed w.store (w.store.recordDeclaration id accountId version declarationType token now later) }
  | .bindFleet fleetId id accountId status marketplaceMode now =>
    { w with store := committed w.store (w.store.bindFleet fleetId id accountId status marketplaceMode now) }
  | .applyRetention cutoffDraft cutoffAudit =>
    { w with store := (w.store.applyRetentionLifecycle cutoffDraft cutoffAudit).2 }

/-- The state of an entry before and after, where it carries one. -/
def AuditEntry.transition (id : String) (entry : AuditEntry) : Option (String × String) :=
  if entry.providerIdentityId = id ∧ entry.newState ≠ "" then some (entry.previousState, entry.newState) else none

/-- The transitions that the log holds of an identity, in their order. -/
def Store.transitions (s : Store) (id : String) : List (String × String) := s.audit.filterMap (AuditEntry.transition id)

/-- Each transition leaves from where the one before it led. -/
def Linked (transitions : List (String × String)) : Prop := transitions.IsChain fun earlier later => later.1 = earlier.2

/-- What a run promises of a state it reaches. -/
structure Promise (w : World) : Prop where
  verified : ∀ accountId id row, w.store.rowOfAccount accountId = some (id, row) → row.state = .verified →
    w.reviewed.get? id = some (row.toIdentity id).reviewed
  gate : ∀ accountId c, (w.store.canOperateMarketplace accountId c).1 = true →
    ∃ id row, w.store.rowOfAccount accountId = some (id, row) ∧ row.state = .verified ∧
      w.reviewed.get? id = some (row.toIdentity id).reviewed ∧
      (w.store.evaluateAccountCompliance accountId c).missingRequirements = []
  linked : ∀ id, Linked (w.store.transitions id)
  current : ∀ id row, w.store.identities.get? id = some row →
    (w.store.transitions id).getLast?.map Prod.snd = some row.state.value

/-! ### When it holds -/

/-- A profile agrees with an identity on what `material_change` does not compare: the second line and the state of the
address, the country and the name of the register, and the representative. -/
def KeepsUncompared (existing : ProviderIdentity) (profile : Profile) : Prop :=
  existing.address.line2 = profile.address.line2 ∧ existing.address.stateProvince = profile.address.stateProvince ∧
    existing.registryInfo.map BusinessRegistryInfo.registryCountry =
      profile.registry.map BusinessRegistryInfo.registryCountry ∧
    existing.registryInfo.map BusinessRegistryInfo.registryName =
      profile.registry.map BusinessRegistryInfo.registryName ∧
    existing.legalRepresentative = anyOrNone profile.legalRepresentative

instance (existing : ProviderIdentity) (profile : Profile) : Decidable (KeepsUncompared existing profile) :=
  inferInstanceAs (Decidable (_ ∧ _))

/-- The generated id of a new identity was not used before, and a profile that is written over a verified identity
without a material change agrees with it on the rest. -/
def Covered (w : World) : Move → Prop
  | .upsert form token _ _ =>
    ∀ profile ∈ form.read.toOption,
      (w.store.rowOfAccount form.accountId = none → ∀ e ∈ w.store.audit, e.providerIdentityId ≠ "prv_" ++ token) ∧
      ∀ entry ∈ w.store.rowOfAccount form.accountId, entry.2.state = .verified →
        materialChange (entry.2.toIdentity entry.1) profile = false →
        KeepsUncompared (entry.2.toIdentity entry.1) profile
  | _ => True

instance (w : World) : DecidablePred (Covered w)
  | .upsert form token _ _ =>
    inferInstanceAs (Decidable (∀ profile ∈ form.read.toOption,
      (w.store.rowOfAccount form.accountId = none → ∀ e ∈ w.store.audit, e.providerIdentityId ≠ "prv_" ++ token) ∧
      ∀ entry ∈ w.store.rowOfAccount form.accountId, entry.2.state = .verified →
        materialChange (entry.2.toIdentity entry.1) profile = false →
        KeepsUncompared (entry.2.toIdentity entry.1) profile))
  | .updateState .. | .addEvidence .. | .recordDeclaration .. | .bindFleet .. | .applyRetention .. => isTrue trivial

/-! ### The invariant -/

/-- What is verified is what was reviewed, and the log leads to the stored state. -/
structure Sound (w : World) : Prop where
  verified : ∀ id row, w.store.identities.get? id = some row → row.state = .verified →
    w.reviewed.get? id = some (row.toIdentity id).reviewed
  linked : ∀ id, Linked (w.store.transitions id)
  current : ∀ id row, w.store.identities.get? id = some row →
    (w.store.transitions id).getLast?.map Prod.snd = some row.state.value

theorem Sound.start : Sound World.start := by
  refine ⟨fun id row h => ?_, fun id => List.IsChain.nil, fun id row h => ?_⟩ <;> cases h

variable {w : World}

theorem Sound.promise (h : Sound w) : Promise w where
  verified accountId id row hrow := h.verified id row (get?_of_rowOfAccount hrow).1
  gate accountId c hopen := by
    obtain ⟨id, row, hrow, hstate, hmissing⟩ := canOperateMarketplace_true hopen
    exact ⟨id, row, hrow, hstate, h.verified id row (get?_of_rowOfAccount hrow).1 hstate, hmissing⟩
  linked := h.linked
  current := h.current

theorem value_ne_empty (state : IdentityVerificationState) : state.value ≠ "" := by cases state <;> decide

theorem transitions_write (s : Store) (id id' : String) (row : IdentityRow) (entry : AuditEntry) :
    (s.write id row entry).transitions id' = s.transitions id' ++ (entry.transition id').toList := by
  unfold transitions write
  rw [List.filterMap_append]
  cases h : entry.transition id' with
  | none => simp [h]
  | some t => simp [h]

theorem Linked.snoc {l : List (String × String)} (h : Linked l) {t : String × String}
    (ht : ∀ last, l.getLast?.map Prod.snd = some last → t.1 = last) : Linked (l ++ [t]) := by
  refine List.isChain_append.mpr ⟨h, List.IsChain.singleton t, fun a ha b hb => ?_⟩
  cases hb
  exact ht a.2 (by rw [Option.mem_def.mp ha]; rfl)

/-- **A row and its entry are written**: the entry continues the log of the identity, and the row, where it is
verified, is what was reviewed. -/
theorem Sound.write (h : Sound w) {id : String} {row : IdentityRow} {entry : AuditEntry}
    {reviewed : Dict String Reviewed} (hentry : entry.providerIdentityId = id)
    (hnew : entry.newState = row.state.value)
    (hlink : ∀ last, (w.store.transitions id).getLast?.map Prod.snd = some last → entry.previousState = last)
    (hother : ∀ id', id' ≠ id → reviewed.get? id' = w.reviewed.get? id')
    (hreviewed : row.state = .verified → reviewed.get? id = some (row.toIdentity id).reviewed) :
    Sound ⟨w.store.write id row entry, reviewed⟩ := by
  have hself : entry.transition id = some (entry.previousState, row.state.value) := by
    have hcarries : entry.providerIdentityId = id ∧ entry.newState ≠ "" := ⟨hentry, by rw [hnew]; exact value_ne_empty _⟩
    rw [AuditEntry.transition, if_pos hcarries, hnew]
  have hquiet : ∀ id', id' ≠ id → entry.transition id' = none := by
    intro id' hne
    exact if_neg fun hcarries => hne (hcarries.1.symm.trans hentry)
  have hget : ∀ id' row', (w.store.identities.set id row).get? id' = some row' →
      id' = id ∧ row' = row ∨ id' ≠ id ∧ w.store.identities.get? id' = some row' := by
    intro id' row' hrow
    rcases Dict.get?_set_eq_some.mp hrow with ⟨hid, rfl⟩ | ⟨hid, hrow⟩
    · exact .inl ⟨hid, rfl⟩
    · exact .inr ⟨hid, hrow⟩
  refine ⟨fun id' row' hrow hstate => ?_, fun id' => ?_, fun id' row' hrow => ?_⟩
  · rcases hget id' row' hrow with ⟨rfl, rfl⟩ | ⟨hne, hold⟩
    · exact hreviewed hstate
    · show reviewed.get? id' = _
      rw [hother id' hne]
      exact h.verified id' row' hold hstate
  · show Linked ((w.store.write id row entry).transitions id')
    rw [transitions_write]
    by_cases hid : id' = id
    · subst hid
      rw [hself]
      exact (h.linked id').snoc hlink
    · rw [hquiet id' hid]
      simpa using h.linked id'
  · show ((w.store.write id row entry).transitions id').getLast?.map Prod.snd = _
    rw [transitions_write]
    rcases hget id' row' hrow with ⟨rfl, rfl⟩ | ⟨hne, hold⟩
    · rw [hself]
      simp
    · rw [hquiet id' hne]
      simpa using h.current id' row' hold

/-- What leaves the rows, and the transitions that the log holds, as they are, or takes rows away. -/
theorem Sound.fewer (h : Sound w) {s : Store}
    (hrows : ∀ id row, s.identities.get? id = some row → w.store.identities.get? id = some row)
    (hlog : ∀ id, s.transitions id = w.store.transitions id) : Sound { w with store := s } := by
  refine ⟨fun id row hrow hstate => h.verified id row (hrows id row hrow) hstate, fun id => ?_, fun id row hrow => ?_⟩
  · show Linked (s.transitions id)
    rw [hlog]
    exact h.linked id
  · show (s.transitions id).getLast?.map Prod.snd = _
    rw [hlog]
    exact h.current id row (hrows id row hrow)

/-! ### One call -/

theorem registry_eq {a b : Option BusinessRegistryInfo}
    (hcountry : a.map BusinessRegistryInfo.registryCountry = b.map BusinessRegistryInfo.registryCountry)
    (hname : a.map BusinessRegistryInfo.registryName = b.map BusinessRegistryInfo.registryName)
    (hnumber : a.map BusinessRegistryInfo.registrationNumber = b.map BusinessRegistryInfo.registrationNumber) :
    a = b := by
  cases a with
  | none =>
    cases b with
    | none => rfl
    | some b => cases hcountry
  | some a =>
    cases b with
    | none => cases hcountry
    | some b =>
      have hab : a = b :=
        BusinessRegistryInfo.ext (Option.some.inj hcountry) (Option.some.inj hname) (Option.some.inj hnumber)
      rw [hab]

/-- **A profile that changes nothing material, and agrees on the rest, leaves what was reviewed.** -/
theorem reviewed_updatedBy {row : IdentityRow} {id : String} {profile : Profile} {stripeAccountId : Option String}
    {now : String} (hmaterial : materialChange (row.toIdentity id) profile = false)
    (hkeeps : KeepsUncompared (row.toIdentity id) profile) :
    ((row.updatedBy id profile stripeAccountId now).toIdentity id).reviewed = (row.toIdentity id).reviewed := by
  obtain ⟨hline2, hprovince, hcountry, hname, hrepresentative⟩ := hkeeps
  simp only [materialChange, Bool.or_eq_false_iff, decide_eq_false_iff_not, not_not] at hmaterial
  obtain ⟨⟨⟨⟨⟨⟨hlegal, hentity⟩, hline1⟩, hcity⟩, hpostal⟩, hcode⟩, hnumber⟩ := hmaterial
  have haddress : row.profile.address = profile.address :=
    StructuredAddress.ext hline1 hcity hpostal hcode hline2 hprovince
  have hregistry : (row.toIdentity id).registryInfo = profile.registry := registry_eq hcountry hname hnumber
  have hread : ((row.updatedBy id profile stripeAccountId now).toIdentity id).registryInfo =
      (row.toIdentity id).registryInfo := by
    show profile.registry.filter _ = (row.toIdentity id).registryInfo
    rw [← hregistry]
    show (row.profile.registry.filter _).filter _ = row.profile.registry.filter _
    rw [Option.filter_filter]
    simp
  have hnames : (row.updatedBy id profile stripeAccountId now).profile = profile := rfl
  simp only [ProviderIdentity.reviewed, hread]
  simp only [IdentityRow.toIdentity, hnames] at hentity hlegal hrepresentative ⊢
  rw [← hentity, ← hlegal, ← haddress, ← hrepresentative]

theorem Sound.upsert (h : Sound w) {form : IdentityForm} {token now later : String}
    (hcovered : Covered w (.upsert form token now later)) : Sound (next w (.upsert form token now later)) := by
  show Sound ⟨committed w.store (w.store.upsertIdentity form token now later), w.reviewed⟩
  unfold upsertIdentity
  cases hread : form.read with
  | error e => exact h
  | ok profile =>
    cases hrow : w.store.rowOfAccount form.accountId with
    | none =>
      have hfresh := (hcovered profile (by rw [hread]; rfl)).1 hrow
      dsimp only
      split
      · exact h
      · refine h.write rfl rfl (fun last hlast => ?_) (fun _ _ => rfl) nofun
        -- the log holds nothing of a new id
        have hnothing : w.store.transitions ("prv_" ++ token) = [] :=
          List.filterMap_eq_nil_iff.mpr fun e he => if_neg fun hcarries => hfresh e he hcarries.1
        rw [hnothing] at hlast
        cases hlast
    | some entry =>
      obtain ⟨id, row⟩ := entry
      have hkeeps := (hcovered profile (by rw [hread]; rfl)).2 (id, row) hrow
      have hget := (get?_of_rowOfAccount hrow).1
      refine h.write rfl rfl (fun last hlast => ?_) (fun _ _ => rfl) (fun hstate => ?_)
      · exact Option.some.inj ((h.current id row hget).symm.trans hlast)
      · -- a row is verified after it only if it was, and then nothing material was changed
        have hneeds : needsReview (row.toIdentity id) profile = false := by
          by_contra hreview
          rw [Bool.not_eq_false] at hreview
          rw [IdentityRow.updatedBy] at hstate
          dsimp only at hstate
          rw [if_pos hreview] at hstate
          cases hstate
        have hwas : row.state = .verified := by
          rw [IdentityRow.updatedBy] at hstate
          dsimp only at hstate
          rw [if_neg (by simp [hneeds])] at hstate
          exact hstate
        have hmaterial : materialChange (row.toIdentity id) profile = false := by
          have hstored : (row.toIdentity id).identityState = .verified := hwas
          simpa [needsReview, hstored] using hneeds
        rw [reviewed_updatedBy hmaterial (hkeeps hwas hmaterial)]
        exact h.verified id row hget hwas

theorem Sound.updateState (h : Sound w) (id : String) (newState : IdentityVerificationState)
    (actor reason requestId now later : String) :
    Sound (next w (.updateState id newState actor reason requestId now later)) := by
  dsimp only [next, updateVerificationState]
  cases hrow : w.store.identities.get? id with
  | none => exact h
  | some row =>
    refine h.write rfl rfl (fun last hlast => ?_) (fun id' hne => ?_) (fun hstate => ?_)
    · exact Option.some.inj ((h.current id row hrow).symm.trans hlast)
    · split
      · exact Dict.get?_set_of_ne _ hne _
      · rfl
    · rw [if_pos hstate, Dict.get?_set, if_pos rfl]

/-- What a call commits is what it was called on, or what it returns. -/
theorem committed_of {α : Type} {s : Store} {r : Except StoreError (α × Store)} {good : Store → Prop} (hs : good s)
    (hr : ∀ a s', r = .ok (a, s') → good s') : good (committed s r) := by
  cases r with
  | error e => exact hs
  | ok r => exact hr r.1 r.2 rfl

theorem Sound.quiet (h : Sound w) {α : Type} {r : Except StoreError (α × Store)}
    (hr : ∀ a s, r = .ok (a, s) → s.identities = w.store.identities ∧ ∀ id, s.transitions id = w.store.transitions id) :
    Sound { w with store := committed w.store r } := by
  refine @committed_of _ _ _ (fun s => Sound { w with store := s }) h fun a s hok => ?_
  obtain ⟨hrows, hlog⟩ := hr a s hok
  exact h.fewer (fun id row hrow => by rw [← hrows]; exact hrow) hlog

theorem addEvidence_quiet {s s' : Store} {id fieldScope status token now : String} {expiresAt : Option String}
    {item : IdentityEvidence} (h : s.addEvidence id fieldScope status expiresAt token now = .ok (item, s')) :
    s'.identities = s.identities ∧ ∀ id, s'.transitions id = s.transitions id := by
  unfold addEvidence at h
  dsimp only at h
  split at h
  · cases h
    exact ⟨rfl, fun _ => rfl⟩
  · cases h

theorem recordDeclaration_quiet {s s' : Store} {id accountId version declarationType token now later : String}
    {item : LegalDeclaration}
    (h : s.recordDeclaration id accountId version declarationType token now later = .ok (item, s')) :
    s'.identities = s.identities ∧ ∀ id, s'.transitions id = s.transitions id := by
  unfold recordDeclaration at h
  dsimp only at h
  split at h
  · cases h
    refine ⟨rfl, fun id' => ?_⟩
    -- the entry of a declaration carries no state
    unfold transitions
    rw [List.filterMap_append]
    simp [AuditEntry.transition]
  · cases h

theorem bindFleet_quiet {s s' : Store} {fleetId id accountId status marketplaceMode now : String} {item : FleetBinding}
    (h : s.bindFleet fleetId id accountId status marketplaceMode now = .ok (item, s')) :
    s'.identities = s.identities ∧ ∀ id, s'.transitions id = s.transitions id := by
  unfold bindFleet at h
  dsimp only at h
  split at h
  · cases h
  · split at h
    · cases h
      exact ⟨rfl, fun _ => rfl⟩
    · cases h

theorem transitions_applyRetention (s : Store) (cutoffDraft cutoffAudit id : String) :
    (s.applyRetentionLifecycle cutoffDraft cutoffAudit).2.transitions id = s.transitions id := by
  show (s.audit.map _).filterMap _ = s.audit.filterMap _
  rw [List.filterMap_map]
  refine List.filterMap_congr fun entry _ => ?_
  show (if entry.createdAt < cutoffAudit then entry.anonymized else entry).transition id = entry.transition id
  split <;> rfl

/-- **Every call the condition allows keeps the state sound.** -/
theorem Sound.after (h : Sound w) {move : Move} (hcovered : Covered w move) : Sound (next w move) := by
  cases move with
  | upsert form token now later => exact h.upsert hcovered
  | updateState id newState actor reason requestId now later => exact h.updateState ..
  | addEvidence id fieldScope status expiresAt token now => exact h.quiet fun _ _ hok => addEvidence_quiet hok
  | recordDeclaration id accountId version declarationType token now later =>
    exact h.quiet fun _ _ hok => recordDeclaration_quiet hok
  | bindFleet fleetId id accountId status marketplaceMode now => exact h.quiet fun _ _ hok => bindFleet_quiet hok
  | applyRetention cutoffDraft cutoffAudit =>
    refine h.fewer (fun id row hrow => ?_) (transitions_applyRetention w.store cutoffDraft cutoffAudit)
    rw [applyRetentionLifecycle, Dict.get?_filter] at hrow
    exact (Option.filter_eq_some_iff.mp hrow).1

/-! ### Runs the condition holds along -/

/-- **Only the reviewed identity counts as verified.** Along every run that takes fresh ids, and writes no other line
two, province, register or representative over a verified identity without a material change, whatever is verified is
what was reviewed, the gate opens for nothing else and only where nothing is missing, and the log of every identity is a
chain that leads to its state. -/
theorem reviewed_identity_verified (moves : List Move) (hcovered : Along next Covered World.start moves) :
    Promise (exec next World.start moves) :=
  (exec_of_along Sound (fun _ _ h hok => h.after hok) Sound.start hcovered).promise

/-- A company with an office and a register entry, which somebody represents. -/
def sampleForm (representative : String) : IdentityForm :=
  { accountId := "acct"
    entityType := "business"
    legalName := "Mesh GmbH"
    address := .fields "Hauptstr. 1" "Berlin" "10115" "de" none none
    email := "office@mesh.example"
    tradeName := none
    legalRepresentative := some representative
    actingPersonRelationship := none
    phone := none
    registryInfo := some (.fields "de" "Amtsgericht Berlin" "HRB 1")
    vatId := none
    stripeAccountId := none
    actor := "user"
    requestId := "" }

/-- The company is registered and reviewed, and then written again. -/
def sampleMoves (representative : String) : List Move :=
  [.upsert (sampleForm "Ada") "01" "t1" "t1", .updateState "prv_01" .verified "operator" "documents checked" "" "t2" "t2",
    .upsert (sampleForm representative) "02" "t3" "t3"]

theorem reviewed_identity_verified_sample : Promise (exec next World.start (sampleMoves "Ada")) :=
  reviewed_identity_verified (sampleMoves "Ada") (by decide)

/-- **An identity stays verified, and may operate, when its representative is exchanged after the review.** -/
theorem verified_without_review : ¬Promise (exec next World.start (sampleMoves "Eve")) ∧
      ((exec next World.start (sampleMoves "Eve")).store.canOperateMarketplace "acct"
        ⟨.microEnterprise, false, "t4", "PUBLIC_INTERMEDIARY", "CUSTOMER_PROVIDER", "CONSUMER_ALLOWED"⟩).1 = true := by
  refine ⟨fun h => ?_, by decide⟩
  have hrow : ∃ entry ∈ (exec next World.start (sampleMoves "Eve")).store.rowOfAccount "acct",
      entry.2.state = .verified ∧
        (exec next World.start (sampleMoves "Eve")).reviewed.get? entry.1 ≠ some (entry.2.toIdentity entry.1).reviewed := by
    decide
  obtain ⟨⟨id, row⟩, hmem, hstate, hother⟩ := hrow
  exact hother (h.verified "acct" id row hmem hstate)

end ComputeMesh.Compliance
