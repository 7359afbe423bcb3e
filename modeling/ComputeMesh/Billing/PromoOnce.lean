import ComputeMesh.Billing.OwnerProgress
import ComputeMesh.Billing.PromoGrants

/-!
# Promo grants are applied once

Any number of `apply` calls run side by side, each from one durable write to the next; between the writes the
process may stop, the recovery may credit a claim, the ledger may serve other calls and accounts, nodes and
devices may change hands.

* `PromoService.next` — one step of the two stores and the calls under way;
* `PromoService.Sound` — **every promo transaction is the grant of a recorded claim**, and a call that has
  passed the claim write carries a recorded claim that is its decision's;
* `promo_applied_once` — what follows for owners, hardware and redelivery.
-/

namespace ComputeMesh.Billing

open ComputeMesh.Text OwnerAccountStore

/-! ### The grant of a claim -/

/-- The event id of the grant of a claim. -/
def PromoClaim.event (c : PromoClaim) : String := "owner-promo:" ++ c.claimId.val

/-- The transaction is the grant of the claim: its event, its owner's promo bucket, its amount. -/
structure PromoClaim.IsGrant (c : PromoClaim) (tx : Transaction) : Prop where
  event : tx.eventId = c.event
  fields : tx.fields = Ledger.bucketCreditPostings "expense:promo_grants" promoGrantExpense
    c.ownerId.toOwnerId .promo c.amountMicroUnits

/-- A promo transaction, by its event id. -/
def Transaction.IsPromo (tx : Transaction) : Prop := ∃ ref, tx.eventId = "owner-promo:" ++ ref

theorem Op.posts_not_promo {R : Type} {l : Ledger} {env : Env} {op : Op R} {tx : Transaction}
    (hop : "owner-promo:" ∉ op.eventTags) (h : op.Posts l env tx.eventId tx.fields) : ¬tx.IsPromo := by
  rintro ⟨ref, hpromo⟩
  obtain ⟨tag, htag, rest, hevent⟩ := Op.posts_eventTag h
  have hdiffers : ∀ t ∈ op.eventTags, ∃ n < 9, n ≤ t.toList.length ∧
      n ≤ "owner-promo:".toList.length ∧ t.toList.take n ≠ "owner-promo:".toList.take n := by
    cases op with
    | grantOwnerPromoCredits _ _ _ _ => simp [Op.eventTags] at hop
    | _ => simp only [Op.eventTags]; decide
  obtain ⟨n, -, hlen, hlen', htake⟩ := hdiffers tag htag
  exact append_ne_append n hlen hlen' htake rest ref (hevent.symm.trans hpromo)

namespace PromoStores

/-! ### The ledger section -/

/-- What a grant leaves behind: the event was there already, or its transaction is new. -/
inductive Granted (s s' : PromoStores) (event : String) (fs : List PostingFields) : Prop
  | before (hmem : event ∈ s.ledger.journal.processedEvents) (hs : s' = s)
  | now (tx : Transaction) (hnew : event ∉ s.ledger.journal.processedEvents)
      (hevent : tx.eventId = event) (hfields : tx.fields = fs)
      (hs : s' = { s with ledger := s.ledger.recorded tx })

/-- **A grant with checked data always succeeds**, and leaves its event in the ledger. -/
theorem grant_spec {s : PromoStores} (hw : s.ledger.journal.IsWritten) (env : Env)
    (owner : BoundedText 256) (claimId : BoundedText 512) (policy : BoundedText 128) {amount : ℤ}
    (hpos : 0 < amount) (status : LedgerStatus) :
    ∃ st s', s.grant env owner.val claimId.val policy.val amount status = (.ok st, s') ∧
      Granted s s' ("owner-promo:" ++ claimId.val) (Ledger.bucketCreditPostings "expense:promo_grants"
        promoGrantExpense owner.toOwnerId .promo amount) := by
  have htexts : ¬(claimId.val = "" ∨ policy.val = "") := by
    rintro (h | h)
    · exact claimId.nonempty h
    · exact policy.nonempty h
  unfold grant
  simp only [Ledger.grantOwnerPromoCredits, cleanOwner_boundedText, if_neg (not_le.mpr hpos),
    claimId.stripped, policy.stripped, if_neg htexts, Ledger.creditBucket]
  by_cases hmem : "owner-promo:" ++ claimId.val ∈ s.ledger.journal.processedEvents
  · rw [show s.ledger.ensureNewEvent ("owner-promo:" ++ claimId.val) = .error (.duplicateEvent _) from
      if_pos hmem]
    exact ⟨_, _, rfl, .before hmem rfl⟩
  · rw [Ledger.ensureNewEvent_ok_iff.mpr hmem]
    obtain ⟨tx, hcommit, hevent, hfields⟩ := Ledger.commitNew_transfer
      (Ledger.healthy_of_isWritten hw) (txId "owner_promo" ("owner-promo:" ++ claimId.val))
      ("owner-promo:" ++ claimId.val) env.isoNow
      s!"Promo grant {policy.val} for owner {owner.toOwnerId.val}" "expense:promo_grants"
      promoGrantExpense (ownerBucketAccount owner.toOwnerId .promo) Bucket.promo.accountType hpos
    simp only [hcommit]
    exact ⟨_, _, rfl, .now tx hmem hevent hfields rfl⟩

end PromoStores

/-! ### The machine -/

/-- Where an `apply` call stands between its durable writes. -/
inductive PromoStage
  | bound (d : PromoGrantDecision)
  | looked (d : PromoGrantDecision) (existing : Option PromoClaim)
  | claimed (d : PromoGrantDecision) (c : PromoClaim)

/-- The two stores and the calls under way. -/
structure PromoService where
  stores : PromoStores
  calls : ℕ → Option PromoStage

/-- The steps of the service: a whole `apply`; the start and the next section of an `apply` that others
interleave with; the process stopping; the recovery; a change of accounts, nodes or devices by other code;
another operation of the ledger. -/
inductive PromoStep (R : Type)
  | apply (v : PromoDecisionVerifier) (env : Env) (e : PromoEnvelope) (now : ℚ)
  | begin_ (call : ℕ) (v : PromoDecisionVerifier) (e : PromoEnvelope) (now : ℚ)
  | advance (call : ℕ) (env : Env)
  | crash (env : Env)
  | reconcile (env : Env) (ownerId : String) (claimClass : ClaimClass)
  | accounts (owners : List String) (providerNodes : Dict String String)
      (devices : Dict String OwnerDevice)
  | ledgerOp (env : Env) (op : Op R) (hop : "owner-promo:" ∉ op.eventTags)

namespace PromoService

variable {R : Type} [LayerRatio R]

/-- The next section of a call. -/
def advance (s : PromoService) (call : ℕ) (env : Env) : PromoService :=
  match s.calls call with
  | none => s
  | some (.bound d) =>
    { s with calls := Function.update s.calls call (some (.looked d (s.stores.lookup d))) }
  | some (.looked d existing) =>
    match s.stores.claim env d existing with
    | .error _ => { s with calls := Function.update s.calls call none }
    | .ok (c, stores) =>
      { stores := stores, calls := Function.update s.calls call (some (.claimed d c)) }
  | some (.claimed d c) =>
    { stores := (s.stores.credit env d c).2, calls := Function.update s.calls call none }

def next (s : PromoService) : PromoStep R → PromoService
  | .apply v env e now => { s with stores := (s.stores.apply v env e now).2 }
  | .begin_ call v e now =>
    match s.stores.bind v e now with
    | .error _ => s
    | .ok (d, stores) =>
      { stores := stores, calls := Function.update s.calls call (some (.bound d)) }
  | .advance call env => s.advance call env
  | .crash env =>
    match s.stores.ledger.restart env with
    | .error _ => s
    | .ok ledger => { stores := { s.stores with ledger := ledger }, calls := fun _ => none }
  | .reconcile env ownerId claimClass =>
    { s with stores := (s.stores.reconcileExistingPromoClaim env ownerId claimClass).2 }
  | .accounts owners nodes devices =>
    { s with stores := { s.stores with owners :=
        { s.stores.owners with owners := owners, providerNodes := nodes, devices := devices } } }
  | .ledgerOp env op _ => { s with stores := { s.stores with ledger := op.run s.stores.ledger env } }

/-- New stores, the ledger kept in a file. -/
def start (cls : LedgerClass) (networkFeeBps : ℤ) (wallet : String) : PromoService :=
  { stores := ⟨.empty, Ledger.fresh cls networkFeeBps wallet (newStorage true)⟩, calls := fun _ => none }

/-! ### The invariant -/

abbrev Matches (c : PromoClaim) (d : PromoGrantDecision) : Prop :=
  OwnerAccountStore.Records c d.claimId d.ownerId d.claimClass d.hardwareClaimId d.amountMicroUnits d.policyVersion

/-- What a call under way carries, against the recorded claims. -/
def StageOk (rows : List PromoClaim) : PromoStage → Prop
  | .bound _ => True
  | .looked d existing => ∀ c ∈ existing, c ∈ rows ∧ c.ownerId = d.ownerId ∧ c.claimClass = d.claimClass
  | .claimed d c => c ∈ rows ∧ Matches c d

theorem StageOk.mono {rows rows' : List PromoClaim} (hsub : rows ⊆ rows') {st : PromoStage}
    (h : StageOk rows st) : StageOk rows' st := by
  cases st with
  | bound d => trivial
  | looked d existing => exact fun c hc => ⟨hsub (h c hc).1, (h c hc).2⟩
  | claimed d c => exact ⟨hsub h.1, h.2⟩

/-- **The invariant of the two stores**: the ledger is what its file says, and every promo transaction is
the grant of a recorded claim. -/
structure StoresOk (s : PromoStores) : Prop where
  replay : s.ledger.journal.IsReplay
  written : s.ledger.journal.IsWritten
  granted : ∀ tx ∈ s.ledger.journal.transactions, tx.IsPromo → ∃ c ∈ s.owners.promoClaims.rows, c.IsGrant tx

/-- The invariant of the service. -/
structure Sound (s : PromoService) : Prop where
  stores : StoresOk s.stores
  calls : ∀ k st, s.calls k = some st → StageOk s.stores.owners.promoClaims.rows st

section
variable {s s' : PromoStores} {c : PromoClaim} {d : PromoGrantDecision}

theorem StoresOk.withOwners (h : StoresOk s) {owners : OwnerAccountStore}
    (hsub : s.owners.promoClaims.rows ⊆ owners.promoClaims.rows) :
    StoresOk { s with owners := owners } :=
  ⟨h.replay, h.written, fun tx htx hpromo =>
    let ⟨c, hc, hgrant⟩ := h.granted tx htx hpromo
    ⟨c, hsub hc, hgrant⟩⟩

theorem StoresOk.record (h : StoresOk s) {ledger : Ledger} {tx : Transaction}
    (hnew : tx.eventId ∉ s.ledger.journal.processedEvents)
    (hjournal : ledger.journal = (s.ledger.journal.recordTransaction tx).2)
    (hgrant : tx.IsPromo → ∃ c ∈ s.owners.promoClaims.rows, c.IsGrant tx) :
    StoresOk { s with ledger := ledger } := by
  refine ⟨?_, ?_, ?_⟩
  · show ledger.journal.IsReplay
    rw [hjournal]
    exact h.replay.record hnew
  · show ledger.journal.IsWritten
    rw [hjournal]
    exact h.written.record tx
  · intro t ht hpromo
    have ht' : t ∈ ledger.journal.transactions := ht
    rw [hjournal, show (s.ledger.journal.recordTransaction tx).2 = (s.ledger.recorded tx).journal from rfl,
      Ledger.recorded_transactions, List.mem_append] at ht'
    rcases ht' with ht' | ht'
    · exact h.granted t ht' hpromo
    · rw [List.mem_singleton] at ht'
      subst ht'
      exact hgrant hpromo

theorem StoresOk.of_granted (h : StoresOk s) (hc : c ∈ s.owners.promoClaims.rows)
    (hg : PromoStores.Granted s s' c.event (Ledger.bucketCreditPostings "expense:promo_grants"
      promoGrantExpense c.ownerId.toOwnerId .promo c.amountMicroUnits)) :
    StoresOk s' ∧ s'.owners = s.owners ∧ c.event ∈ s'.ledger.journal.processedEvents := by
  cases hg with
  | before hmem hs =>
    subst hs
    exact ⟨h, rfl, hmem⟩
  | now tx hnew hevent hfields hs =>
    subst hs
    refine ⟨h.record (by rwa [hevent]) rfl fun _ => ⟨c, hc, hevent, hfields⟩, rfl, ?_⟩
    rw [← hevent]
    simp

theorem StoresOk.credit (h : StoresOk s) (hc : c ∈ s.owners.promoClaims.rows) (hm : Matches c d) (env : Env) :
    ∃ st s', s.credit env d c = (.ok ⟨st, c⟩, s') ∧ StoresOk s' ∧ s'.owners = s.owners ∧
      c.event ∈ s'.ledger.journal.processedEvents := by
  obtain ⟨st, s', hgrant, hgranted⟩ := PromoStores.grant_spec h.written env d.ownerId d.claimId
    d.policyVersion d.amount_pos .credited
  refine ⟨st, s', by simp only [PromoStores.credit, hgrant], h.of_granted hc ?_⟩
  rw [PromoClaim.event, hm.claimId, hm.ownerId, hm.amountMicroUnits]
  exact hgranted

theorem StoresOk.reconcile (h : StoresOk s) (env : Env) (ownerId : String) (claimClass : ClaimClass) :
    StoresOk (s.reconcileExistingPromoClaim env ownerId claimClass).2 ∧
      (s.reconcileExistingPromoClaim env ownerId claimClass).2.owners = s.owners := by
  unfold PromoStores.reconcileExistingPromoClaim
  split
  · exact ⟨h, rfl⟩
  · rename_i c hfound
    have hc : c ∈ s.owners.promoClaims.rows := by
      unfold promoClaimForOwner at hfound
      split at hfound
      · cases hfound
      · exact List.mem_of_find?_eq_some hfound
    obtain ⟨st, s', hgrant, hgranted⟩ := PromoStores.grant_spec h.written env c.ownerId c.claimId
      c.policyVersion c.amount_pos .creditedRecovery
    rw [hgrant]
    obtain ⟨hok, howners, -⟩ := h.of_granted hc hgranted
    exact ⟨hok, howners⟩

theorem StoresOk.claim (h : StoresOk s) {env : Env} {existing : Option PromoClaim}
    (hst : StageOk s.owners.promoClaims.rows (.looked d existing))
    (hclaim : s.claim env d existing = .ok (c, s')) :
    StoresOk s' ∧ s.owners.promoClaims.rows ⊆ s'.owners.promoClaims.rows ∧
      c ∈ s'.owners.promoClaims.rows ∧ Matches c d := by
  unfold PromoStores.claim at hclaim
  split at hclaim
  · rename_i existing
    split at hclaim
    · cases hclaim
    · rename_i hsame
      cases hclaim
      simp only [ne_eq, not_not, Prod.mk.injEq] at hsame
      obtain ⟨hid, hhardware, hamount, hpolicy⟩ := hsame
      obtain ⟨hmem, howner, hclass⟩ := hst c rfl
      exact ⟨h, fun _ hr => hr, hmem, hid, howner, hclass, hhardware, hamount, hpolicy⟩
  · split at hclaim
    · cases hclaim
    · cases hclaim
    · rename_i owners hrecord
      cases hclaim
      obtain ⟨hrecords, hmem, hsub⟩ := recordPromoClaim_ok hrecord
      exact ⟨h.withOwners hsub, hsub, hmem, hrecords⟩

theorem bind_ok {v : PromoDecisionVerifier} {e : PromoEnvelope} {now : ℚ} (hbind : s.bind v e now = .ok (d, s')) :
    v.verify e now = .ok d ∧ ∃ owners, s' = { s with owners := owners } ∧
      owners.promoClaims = s.owners.promoClaims := by
  unfold PromoStores.bind at hbind
  split at hbind
  · cases hbind
  · rename_i d hverify
    split at hbind
    · cases hbind
    · split at hbind
      · cases hbind
      · split at hbind
        · cases hbind
        · rename_i owners hdevice
          cases hbind
          exact ⟨hverify, owners, rfl, bindDevice_promoClaims hdevice⟩

theorem stageOk_lookup (s : PromoStores) (d : PromoGrantDecision) :
    StageOk s.owners.promoClaims.rows (.looked d (s.lookup d)) := by
  intro c hc
  exact promoClaimForOwner_some hc

/-- **A whole call** keeps the invariant and loses no claim; when it succeeds, the claim it returns is
recorded, is its decision's, and has its event in the ledger. -/
theorem StoresOk.apply (h : StoresOk s) (v : PromoDecisionVerifier) (env : Env) (e : PromoEnvelope) (now : ℚ) :
    StoresOk (s.apply v env e now).2 ∧
      s.owners.promoClaims.rows ⊆ (s.apply v env e now).2.owners.promoClaims.rows ∧
      ∀ r, (s.apply v env e now).1 = .ok r → ∃ d, v.verify e now = .ok d ∧ Matches r.claim d ∧
        r.claim ∈ (s.apply v env e now).2.owners.promoClaims.rows ∧
        r.claim.event ∈ (s.apply v env e now).2.ledger.journal.processedEvents := by
  unfold PromoStores.apply
  split
  · exact ⟨h, fun _ hr => hr, fun r hr => by cases hr⟩
  · rename_i d s₁ hbind
    obtain ⟨hverify, owners, rfl, hrows⟩ := bind_ok hbind
    have hsub₁ : s.owners.promoClaims.rows ⊆ owners.promoClaims.rows := by rw [hrows]; exact fun _ hr => hr
    have h₁ := h.withOwners hsub₁
    split
    · exact ⟨h₁, hsub₁, fun r hr => by cases hr⟩
    · rename_i c s₂ hclaim
      obtain ⟨h₂, hsub₂, hmem, hm⟩ := h₁.claim (stageOk_lookup _ d) hclaim
      obtain ⟨st, s', hcredit, hok, howners, hevent⟩ := h₂.credit hmem hm env
      rw [hcredit, howners]
      refine ⟨hok, fun _ hr => hsub₂ (hsub₁ hr), ?_⟩
      rintro r hr
      cases hr
      exact ⟨d, hverify, hm, hmem, hevent⟩

end

/-! ### Steps and runs -/

section

variable {s : PromoService} (h : s.Sound) {stores : PromoStores} (hstores : StoresOk stores)
  (hsub : s.stores.owners.promoClaims.rows ⊆ stores.owners.promoClaims.rows)
include h hstores hsub

theorem Sound.withCall (call : ℕ)
    {st : Option PromoStage} (hst : ∀ t ∈ st, StageOk stores.owners.promoClaims.rows t) :
    Sound ⟨stores, Function.update s.calls call st⟩ := by
  refine ⟨hstores, fun k t hk => ?_⟩
  show StageOk stores.owners.promoClaims.rows t
  replace hk : Function.update s.calls call st k = some t := hk
  by_cases heq : k = call
  · subst heq
    rw [Function.update_self] at hk
    exact hst t hk
  · rw [Function.update_of_ne heq] at hk
    exact (h.calls k t hk).mono hsub

theorem Sound.withStores : Sound { s with stores := stores } :=
  ⟨hstores, fun k t hk => (h.calls k t hk).mono hsub⟩

end

theorem Sound.advance {s : PromoService} (h : s.Sound) (call : ℕ) (env : Env) : (s.advance call env).Sound := by
  unfold PromoService.advance
  split
  · exact h
  · rename_i d hcall
    refine h.withCall h.stores (fun _ hr => hr) call fun t ht => ?_
    cases ht
    exact stageOk_lookup s.stores d
  · rename_i d existing hcall
    split
    · exact h.withCall h.stores (fun _ hr => hr) call fun t ht => by cases ht
    · rename_i c stores hclaim
      obtain ⟨hok, hsub, hmem, hm⟩ := h.stores.claim (h.calls call _ hcall) hclaim
      refine h.withCall hok hsub call fun t ht => ?_
      cases ht
      exact ⟨hmem, hm⟩
  · rename_i d c hcall
    obtain ⟨hmem, hm⟩ := h.calls call _ hcall
    obtain ⟨st, stores, hcredit, hok, howners, -⟩ := h.stores.credit hmem hm env
    rw [hcredit]
    exact h.withCall hok (by rw [howners]; exact fun _ hr => hr) call fun t ht => by cases ht

/-- **Every step keeps the invariant.** -/
theorem Sound.next {s : PromoService} (h : s.Sound) (step : PromoStep R) : (s.next step).Sound := by
  cases step with
  | apply v env e now =>
    obtain ⟨hok, hsub, -⟩ := h.stores.apply v env e now
    exact h.withStores hok hsub
  | begin_ call v e now =>
    simp only [PromoService.next]
    split
    · exact h
    · rename_i d stores hbind
      obtain ⟨-, owners, rfl, hrows⟩ := bind_ok hbind
      have hsub : s.stores.owners.promoClaims.rows ⊆ owners.promoClaims.rows := by
        rw [hrows]
        exact fun _ hr => hr
      refine h.withCall (h.stores.withOwners hsub) hsub call fun t ht => ?_
      cases ht
      trivial
  | advance call env => exact h.advance call env
  | crash env =>
    simp only [PromoService.next, Ledger.restart, Journal.open_of_isWritten h.stores.written h.stores.replay]
    exact ⟨⟨h.stores.replay, h.stores.written, h.stores.granted⟩, fun k t hk => by cases hk⟩
  | reconcile env ownerId claimClass =>
    obtain ⟨hok, howners⟩ := h.stores.reconcile env ownerId claimClass
    exact h.withStores hok (by rw [howners]; exact fun _ hr => hr)
  | accounts owners nodes devices =>
    exact h.withStores (h.stores.withOwners fun _ hr => hr) fun _ hr => hr
  | ledgerOp env op hop =>
    refine h.withStores ?_ fun _ hr => hr
    rcases op.run_journal s.stores.ledger env with heq | ⟨tx, hunseen, hposts, heq⟩
    · exact ⟨by rw [heq]; exact h.stores.replay, by rw [heq]; exact h.stores.written,
        by rw [heq]; exact h.stores.granted⟩
    · exact h.stores.record (hunseen.not_mem h.stores.replay) heq fun hpromo =>
        absurd hpromo (Op.posts_not_promo hop hposts)

theorem sound_start (cls : LedgerClass) (networkFeeBps : ℤ) (wallet : String) :
    (start cls networkFeeBps wallet).Sound where
  stores := ⟨Journal.isReplay_empty _, rfl, fun tx htx => by cases htx⟩
  calls := fun k st hk => by cases hk

/-! ### Counting grants -/

/-- The promo transactions of the claims that satisfy `p`. -/
def promoGrants (s : PromoStores) (p : PromoClaim → Bool) : List Transaction :=
  s.ledger.journal.transactions.filter fun tx =>
    s.owners.promoClaims.rows.any fun c => p c && decide (tx.eventId = c.event)

theorem StoresOk.length_promoGrants_le {s : PromoStores} (h : StoresOk s) {p : PromoClaim → Bool}
    (hp : ∀ a ∈ s.owners.promoClaims.rows, ∀ b ∈ s.owners.promoClaims.rows, p a = true → p b = true →
      a = b) : (promoGrants s p).length ≤ 1 := by
  cases hgrants : promoGrants s p with
  | nil => simp
  | cons tx rest =>
    have hmem : tx ∈ promoGrants s p := by rw [hgrants]; exact List.mem_cons_self
    simp only [promoGrants, List.mem_filter, List.any_eq_true, Bool.and_eq_true, decide_eq_true_eq] at hmem
    obtain ⟨htx, c, hc, hpc, hevent⟩ := hmem
    -- all of them have the event of the one claim, and the ledger has an event once
    have hsub : (promoGrants s p).Sublist (s.ledger.journal.transactions.filter fun t => t.eventId = tx.eventId) := by
      apply List.monotone_filter_right
      intro t ht
      simp only [List.any_eq_true, Bool.and_eq_true, decide_eq_true_eq] at ht ⊢
      obtain ⟨c', hc', hpc', hevent'⟩ := ht
      rw [hevent', hevent, hp c' hc' c hc hpc' hpc]
    rw [← hgrants]
    calc (promoGrants s p).length
        ≤ (s.ledger.journal.transactions.filter fun t => t.eventId = tx.eventId).length := hsub.length_le
      _ = 1 := by rw [h.replay.filter_event htx]; rfl

theorem StoresOk.length_promoGrants_eq {s : PromoStores} (h : StoresOk s) {c : PromoClaim}
    (hc : c ∈ s.owners.promoClaims.rows) (hevent : c.event ∈ s.ledger.journal.processedEvents) :
    (promoGrants s fun b => decide (b = c)).length = 1 := by
  have hle := h.length_promoGrants_le (p := fun b => decide (b = c)) fun a _ b _ ha hb => by
    rw [of_decide_eq_true ha, of_decide_eq_true hb]
  obtain ⟨tx, htx, heq⟩ := (h.replay.events c.event).mp hevent
  have hmem : tx ∈ promoGrants s fun b => decide (b = c) := by
    simp only [promoGrants, List.mem_filter, List.any_eq_true, Bool.and_eq_true, decide_eq_true_eq]
    exact ⟨htx, c, hc, rfl, heq⟩
  have hpos := List.length_pos_of_mem hmem
  omega

/-- A redelivered decision of a recorded claim is accepted as long as its owner exists, its node is still
the owner's where the class asks for one, and nobody else holds its device. -/
theorem StoresOk.apply_redelivered {s : PromoStores} (h : StoresOk s) {c : PromoClaim}
    (hc : c ∈ s.owners.promoClaims.rows) {v : PromoDecisionVerifier} {e : PromoEnvelope} {now : ℚ}
    {d : PromoGrantDecision} (hverify : v.verify e now = .ok d) (hm : Matches c d)
    (howner : s.owners.hasOwner d.ownerId.val = true)
    (hnode : d.claimClass = .gpuOnboarding → s.owners.ownerForProviderNode d.nodeId.val = some d.ownerId.val)
    (hdevice : ∀ row ∈ s.owners.devices.get? d.hardwareClaimId.val, row.ownerId = d.ownerId.val)
    (env : Env) : ∃ r, (s.apply v env e now).1 = .ok r := by
  obtain ⟨owners, hbound⟩ := bindDevice_ok d.assuranceTier howner hdevice
  have hrows := bindDevice_promoClaims hbound
  have hbind : s.bind v e now = .ok (d, { s with owners := owners }) := by
    have hgpu : ¬(d.claimClass = .gpuOnboarding ∧
        s.owners.ownerForProviderNode d.nodeId.val ≠ some d.ownerId.val) := fun hn => hn.2 (hnode hn.1)
    simp only [PromoStores.bind, hverify, howner, hgpu, hbound, if_false, Bool.true_eq_false]
  have hc' : c ∈ owners.promoClaims.rows := by rwa [hrows]
  have hlookup : PromoStores.lookup { s with owners := owners } d = some c := by
    show owners.promoClaimForOwner d.ownerId.val d.claimClass = some c
    rw [← hm.ownerId, ← hm.claimClass]
    exact promoClaimForOwner_of_mem hc'
  have hclaim : PromoStores.claim { s with owners := owners } env d (some c)
      = .ok (c, { s with owners := owners }) := by
    simp only [PromoStores.claim, hm.claimId, hm.hardwareClaimId, hm.amountMicroUnits, hm.policyVersion,
      ne_eq, not_true_eq_false, if_false]
  have hok : StoresOk { s with owners := owners } :=
    h.withOwners (by rw [hrows]; exact fun _ hr => hr)
  obtain ⟨st, s', hcredit, -⟩ := hok.credit hc' hm env
  refine ⟨⟨st, c⟩, ?_⟩
  simp only [PromoStores.apply, hbind, hlookup, hclaim, hcredit]

/-- **Promo grants are applied once.**  After any run of `apply` calls, interleaved and stopped anywhere
between their writes, with recovery, other ledger traffic and changes of accounts, nodes and devices in
between: an owner has at most one promo transaction in a class, and so has a hardware claim; every promo
transaction is the grant of a recorded claim, to its owner and with its amount; and one redelivery of a
claim's decision that succeeds leaves the claim with exactly one grant.  It does succeed while the owner
exists, the node is the owner's where the class asks for it, and no one else holds the device. -/
theorem promo_applied_once (cls : LedgerClass) (networkFeeBps : ℤ) (wallet : String) (steps : List (PromoStep R)) :
    let s := (Run.exec next (start cls networkFeeBps wallet) steps).stores
    (∀ owner claimClass, (promoGrants s fun c =>
        decide (c.ownerId = owner ∧ c.claimClass = claimClass)).length ≤ 1) ∧
      (∀ hardware claimClass, (promoGrants s fun c =>
        decide (c.hardwareClaimId = hardware ∧ c.claimClass = claimClass)).length ≤ 1) ∧
      (∀ tx ∈ s.ledger.journal.transactions, tx.IsPromo →
        ∃ c ∈ s.owners.promoClaims.rows, c.IsGrant tx) ∧
      (∀ c ∈ s.owners.promoClaims.rows, ∀ v env e now d r, v.verify e now = .ok d →
        d.claimId = c.claimId → (s.apply v env e now).1 = .ok r →
        (promoGrants (s.apply v env e now).2 fun b => decide (b = c)).length = 1) ∧
      ∀ c ∈ s.owners.promoClaims.rows, ∀ v env e now d, v.verify e now = .ok d → Matches c d →
        s.owners.hasOwner d.ownerId.val = true →
        (d.claimClass = .gpuOnboarding →
          s.owners.ownerForProviderNode d.nodeId.val = some d.ownerId.val) →
        (∀ row ∈ s.owners.devices.get? d.hardwareClaimId.val, row.ownerId = d.ownerId.val) →
        ∃ r, (s.apply v env e now).1 = .ok r := by
  intro s
  have h : StoresOk s := (Run.exec_of_forall Sound (fun _ step hs => hs.next step)
    (sound_start cls networkFeeBps wallet) steps).stores
  refine ⟨fun owner claimClass => ?_, fun hardware claimClass => ?_, h.granted, ?_, ?_⟩
  · refine h.length_promoGrants_le fun a ha b hb hpa hpb => ?_
    have hpa := of_decide_eq_true hpa
    have hpb := of_decide_eq_true hpb
    exact PromoClaims.eq_of_not_distinct ha hb fun hd =>
      hd.2.1 ⟨hpa.1.trans hpb.1.symm, hpa.2.trans hpb.2.symm⟩
  · refine h.length_promoGrants_le fun a ha b hb hpa hpb => ?_
    have hpa := of_decide_eq_true hpa
    have hpb := of_decide_eq_true hpb
    exact PromoClaims.eq_of_not_distinct ha hb fun hd =>
      hd.2.2 ⟨hpa.1.trans hpb.1.symm, hpa.2.trans hpb.2.symm⟩
  · intro c hc v env e now d r hverify hid hr
    obtain ⟨hok, hsub, hresult⟩ := h.apply v env e now
    obtain ⟨d', hverify', hm, hmem, hevent⟩ := hresult r hr
    rw [hverify] at hverify'
    cases hverify'
    have heq : r.claim = c := PromoClaims.eq_of_claimId_eq hmem (hsub hc) (hm.claimId.trans hid)
    rw [heq] at hevent
    exact hok.length_promoGrants_eq (hsub hc) hevent
  · intro c hc v env e now d hverify hm howner hnode hdevice
    exact h.apply_redelivered hc hverify hm howner hnode hdevice env

/-! ### A sample run -/

/-- A verifier with one trusted key, and what that key signed. -/
def sampleVerifier : PromoDecisionVerifier where
  keys := fun keyId => if keyId = "promo-key-1" then
    some fun signature e => signature = String.ofList (List.replicate 86 'A') && e.decisionId = "promo_dec_1"
    else none
  maxLifetimeSeconds := 300
  clockSkewSeconds := 30

def sampleEnvelope : PromoEnvelope where
  hasRequiredFields := true
  kind := "computemesh.promo_grant.v1"
  decisionId := "promo_dec_1"
  issuedAt := some 1000
  expiresAt := some 1120
  ownerId := "alice"
  claimId := promoClaimId "alice" "device_onboarding" "cmhw_v1_machine_a" "onboarding-2026-09-v1"
  claimClass := "device_onboarding"
  hardwareClaimId := "cmhw_v1_machine_a"
  assuranceTier := "MULTI_SIGNAL_VERIFIED"
  nodeId := "node-a"
  amountMicroUnits := some 25000000
  policyVersion := "onboarding-2026-09-v1"
  evidenceDigest := "sha256:0"
  signature := some ⟨"Ed25519", "promo-key-1", String.ofList (List.replicate 86 'A')⟩

/-- The claim is written, and the process stops before the ledger is. -/
def sampleSteps : List (PromoStep ℚ) :=
  [.accounts ["alice"] Dict.empty Dict.empty, .begin_ 0 sampleVerifier sampleEnvelope 1010,
    .advance 0 (Env.atTime 1010), .advance 0 (Env.atTime 1010), .crash (Env.atTime 1020)]

def sampleStores : PromoStores := (Run.exec next (start .ownerCredit 1500 "w") sampleSteps).stores

theorem exists_boundedText {s field : String} {n : ℕ} (h : strip s = s ∧ s ≠ "" ∧ s.length ≤ n) :
    ∃ t : BoundedText n, boundedText s field n = .ok t ∧ t.val = s := by
  obtain ⟨hstrip, hne, hlen⟩ := h
  refine ⟨⟨s, hstrip, hne, hlen⟩, ?_, rfl⟩
  unfold boundedText
  simp only [hstrip]
  rw [dif_neg (by simp [hne, hlen])]

theorem exists_claimId (ownerId claimClass hardwareClaimId policyVersion : String) : ∃ id : BoundedText 512,
    boundedText (promoClaimId ownerId claimClass hardwareClaimId policyVersion) "claim_id" 512 = .ok id ∧
      id.val = promoClaimId ownerId claimClass hardwareClaimId policyVersion := by
  unfold promoClaimId
  extract_lets separator material
  have hdigest := Sha256.length_sha256Hex material
  have hlen : ("promo_claim_v1_" ++ Sha256.sha256Hex material).length = 79 := by
    rw [← String.length_toList, String.toList_append, List.length_append, hdigest]
    rfl
  refine exists_boundedText ⟨?_, fun h => by simp [h] at hlen, by omega⟩
  exact strip_append (c := 'p') (by decide) (by decide) (fun h => by simp [h] at hdigest) fun c hc =>
    isSpace_of_hex c (Sha256.mem_sha256Hex hc)

theorem b64uDecode_eq {s : String} (hstrip : strip s = s) (hlength : s.length = 86) (hletters : ∀ c ∈ s.toList, c = 'A') :
    b64uDecode s = .ok s := by
  have halphabet : ¬(s.toList.any fun c =>
      decide (c ∉ "ABCDEFGHIJKLMNOPQRSTUVWXYZabcdefghijklmnopqrstuvwxyz0123456789-_".toList)) = true := by
    rw [List.any_eq_true]
    rintro ⟨c, hc, hmem⟩
    rw [hletters c hc] at hmem
    exact absurd hmem (by decide)
  obtain ⟨t, ht, rfl⟩ := @exists_boundedText s "signature value" 256 ⟨hstrip, fun h => by simp [h] at hlength, by omega⟩
  unfold b64uDecode
  rw [ht]
  dsimp only
  rw [if_neg halphabet, if_neg (by omega), if_neg (by omega)]

theorem verifySignature_eq {v : PromoDecisionVerifier} {e : PromoEnvelope} {signature : SignatureObject}
    {keyId : BoundedText 128} {check : String → PromoEnvelope → Bool} {bytes : String} (hsig : e.signature = some signature)
    (halg : signature.algorithm = "Ed25519") (hkey : boundedText signature.keyId "signature key_id" 128 = .ok keyId)
    (htrust : v.keys keyId.val = some check) (hdecode : b64uDecode signature.value = .ok bytes)
    (hcheck : check bytes e = true) : v.verifySignature e = .ok keyId := by
  simp only [PromoDecisionVerifier.verifySignature, hsig, halg, hkey, htrust, hdecode, hcheck, bind, Except.bind]
  rw [if_neg (by decide), if_neg (by decide)]

theorem verifySignature_sample : ∃ keyId, sampleVerifier.verifySignature sampleEnvelope = .ok keyId := by
  obtain ⟨keyId, hkey, hval⟩ := @exists_boundedText "promo-key-1" "signature key_id" 128 (by decide)
  have htrusted : sampleVerifier.keys keyId.val = some fun signature e =>
      signature = String.ofList (List.replicate 86 'A') && e.decisionId = "promo_dec_1" := if_pos hval
  refine ⟨keyId, verifySignature_eq rfl rfl hkey htrusted (b64uDecode_eq ?_ String.length_ofList fun c hc => ?_) ?_⟩
  · unfold strip
    rw [String.toList_ofList]
    exact congrArg String.ofList (by decide)
  · rw [String.toList_ofList] at hc
    exact List.eq_of_mem_replicate hc
  · exact (Bool.and_eq_true _ _).mpr ⟨decide_eq_true rfl, decide_eq_true rfl⟩

theorem verify_eq {v : PromoDecisionVerifier} {e : PromoEnvelope} {now : ℚ} {keyId node digest policy : BoundedText 128}
    {issued expires : ℤ} {amount : { n : ℤ // 0 < n }} {decision owner : BoundedText 256} {tier : BoundedText 64}
    {hardware cid : BoundedText 512} {claimClass : ClaimClass} (hfields : e.hasRequiredFields = true)
    (hkind : e.kind = "computemesh.promo_grant.v1") (hkey : v.verifySignature e = .ok keyId)
    (hterms : v.verifyTerms e now = .ok (issued, expires, amount)) (howner : boundedText e.ownerId "owner_id" 256 = .ok owner)
    (hclass : PromoDecisionVerifier.verifyClass e.claimClass = .ok claimClass)
    (hhardware : boundedText e.hardwareClaimId "hardware_claim_id" 512 = .ok hardware)
    (hpolicy : boundedText e.policyVersion "policy_version" 128 = .ok policy)
    (hid : boundedText e.claimId "claim_id" 512 = .ok cid)
    (hcanonical : cid.val = promoClaimId owner.val claimClass.text hardware.val policy.val)
    (hdecision : boundedText e.decisionId "decision_id" 256 = .ok decision)
    (htier : boundedText e.assuranceTier "assurance_tier" 64 = .ok tier)
    (hnode : boundedText e.nodeId "node_id" 128 = .ok node)
    (hdigest : boundedText e.evidenceDigest "evidence_digest" 128 = .ok digest) :
    v.verify e now = .ok ⟨decision, issued, expires, owner, cid, claimClass, hardware, tier, node, amount.val, policy, digest,
      keyId, amount.property, hcanonical⟩ := by
  unfold PromoDecisionVerifier.verify
  simp only [hfields, hkind, hkey, hterms, howner, hclass, hhardware, hpolicy, hid, hdecision, htier, hnode, hdigest, bind,
    Except.bind]
  rw [if_neg (by decide), if_neg (by simp), dif_neg (not_not.mpr hcanonical)]

/-- The decision of the sample envelope, without its digest being computed. -/
theorem verify_sampleEnvelope : ∃ d, (∀ now, now = 1010 ∨ now = 1020 → sampleVerifier.verify sampleEnvelope now = .ok d) ∧
    d.ownerId.val = "alice" ∧ d.claimClass = .deviceOnboarding ∧ d.amountMicroUnits = 25000000 := by
  obtain ⟨keyId, hkey⟩ := verifySignature_sample
  obtain ⟨cid, hid, hcanonical⟩ :=
    exists_claimId "alice" "device_onboarding" "cmhw_v1_machine_a" "onboarding-2026-09-v1"
  have hterms : ∀ now, now = 1010 ∨ now = 1020 →
      sampleVerifier.verifyTerms sampleEnvelope now = .ok (1000, 1120, ⟨25000000, by decide⟩) := by
    rintro now (rfl | rfl) <;> decide
  have hclass : PromoDecisionVerifier.verifyClass "device_onboarding" = .ok .deviceOnboarding := by decide
  obtain ⟨owner, howner, hownerVal⟩ := @exists_boundedText "alice" "owner_id" 256 (by decide)
  obtain ⟨hardware, hhardware, hhardwareVal⟩ := @exists_boundedText "cmhw_v1_machine_a" "hardware_claim_id" 512
    (by decide)
  obtain ⟨policy, hpolicy, hpolicyVal⟩ := @exists_boundedText "onboarding-2026-09-v1" "policy_version" 128
    (by decide)
  obtain ⟨decision, hdecision, -⟩ := @exists_boundedText "promo_dec_1" "decision_id" 256 (by decide)
  obtain ⟨tier, htier, -⟩ := @exists_boundedText "MULTI_SIGNAL_VERIFIED" "assurance_tier" 64 (by decide)
  obtain ⟨node, hnode, -⟩ := @exists_boundedText "node-a" "node_id" 128 (by decide)
  obtain ⟨digest, hdigest, -⟩ := @exists_boundedText "sha256:0" "evidence_digest" 128 (by decide)
  have hsame : cid.val = promoClaimId owner.val (ClaimClass.text .deviceOnboarding) hardware.val policy.val := by
    rw [hcanonical, hownerVal, hhardwareVal, hpolicyVal]
    rfl
  exact ⟨_, fun now hnow => verify_eq rfl rfl hkey (hterms now hnow) howner hclass hhardware hpolicy hid hsame hdecision htier
    hnode hdigest, hownerVal, rfl, rfl⟩

/-- The accounts of the sample run, before and after the device of a decision is bound. -/
def aliceStore : OwnerAccountStore := ⟨["alice"], Dict.empty, Dict.empty, .empty⟩

def boundStore (d : PromoGrantDecision) : OwnerAccountStore :=
  { aliceStore with devices := Dict.empty.set d.hardwareClaimId.val ⟨d.ownerId.val, d.assuranceTier.val⟩ }

def sampleLedger : Ledger := Ledger.fresh .ownerCredit 1500 "w" (newStorage true)

def stoppedSteps (v : PromoDecisionVerifier) (e : PromoEnvelope) : List (PromoStep ℚ) :=
  [.accounts ["alice"] Dict.empty Dict.empty, .begin_ 0 v e 1010,
    .advance 0 (Env.atTime 1010), .advance 0 (Env.atTime 1010), .crash (Env.atTime 1020)]

section

variable {v : PromoDecisionVerifier} {e : PromoEnvelope} {d : PromoGrantDecision} {c : PromoClaim}

theorem advance_twice {s : PromoService} {call : ℕ} {env : Env} {stores : PromoStores}
    (hcall : s.calls call = some (.bound d)) (hclaim : s.stores.claim env d (s.stores.lookup d) = .ok (c, stores)) :
    ((s.advance call env).advance call env).stores = stores := by
  simp only [PromoService.advance, hcall, Function.update_self, hclaim]

theorem crash_stores {s : PromoService} (h : s.Sound) (env : Env) :
    (s.next (R := ℚ) (.crash env)).stores.owners = s.stores.owners ∧
      (s.next (R := ℚ) (.crash env)).stores.ledger.journal = s.stores.ledger.journal := by
  simp only [PromoService.next, Ledger.restart, Journal.open_of_isWritten h.stores.written h.stores.replay]
  exact ⟨trivial, trivial⟩

theorem hasOwner_alice {s : OwnerAccountStore} (h : s.owners = ["alice"]) : s.hasOwner "alice" = true := by
  unfold hasOwner
  rw [h]
  decide

theorem claim_boundStore (howner : d.ownerId.val = "alice") (hamount : d.amountMicroUnits < 2 ^ 63) :
    ∃ c claims, PromoStores.claim ⟨boundStore d, sampleLedger⟩ (Env.atTime 1010) d none
      = .ok (c, ⟨{ boundStore d with promoClaims := claims }, sampleLedger⟩) ∧ Matches c d ∧ claims.rows = [c] := by
  have hknown : (boundStore d).hasOwner d.ownerId.val = true := by
    rw [howner]
    exact hasOwner_alice rfl
  refine ⟨⟨d.claimId, d.ownerId, d.claimClass, d.hardwareClaimId, d.amountMicroUnits, d.policyVersion,
    (Env.atTime 1010).isoNow, d.amount_pos⟩, ⟨[_], List.pairwise_singleton _ _⟩, ?_, ⟨rfl, rfl, rfl, rfl, rfl, rfl⟩, rfl⟩
  unfold PromoStores.claim recordPromoClaim insertPromoClaim PromoClaims.insert
  simp only [cleanIdentifier_val]
  rw [dif_neg (not_le.mpr d.amount_pos), if_neg (by rw [hknown]; decide), if_neg (not_le.mpr hamount),
    dif_pos (by intro r hr; cases hr)]
  rfl

/-- When the process stops, the call has left a claim without a grant. -/
theorem stores_of_crash (hverify : v.verify e 1010 = .ok d) (howner : d.ownerId.val = "alice")
    (hclass : d.claimClass = .deviceOnboarding) (hamount : d.amountMicroUnits < 2 ^ 63) :
    let s := (Run.exec next (start .ownerCredit 1500 "w") (stoppedSteps v e)).stores
    ∃ c ∈ s.owners.promoClaims.rows, Matches c d ∧ s.owners.hasOwner d.ownerId.val = true ∧
      (∀ row ∈ s.owners.devices.get? d.hardwareClaimId.val, row.ownerId = d.ownerId.val) ∧
      s.ledger.journal.transactions = [] := by
  have hbind : PromoStores.bind ⟨aliceStore, sampleLedger⟩ v e 1010 = .ok (d, ⟨boundStore d, sampleLedger⟩) := by
    have hknown : aliceStore.hasOwner d.ownerId.val = true := by
      rw [howner]
      exact hasOwner_alice rfl
    unfold PromoStores.bind
    rw [hverify]
    simp only [hknown, hclass, bindDevice, cleanIdentifier_val]
    rfl
  obtain ⟨c, claims, hclaim, hm, hrows⟩ := claim_boundStore howner hamount
  have hstores : (Run.exec next (start .ownerCredit 1500 "w") (stoppedSteps v e).dropLast).stores
      = ⟨{ boundStore d with promoClaims := claims }, sampleLedger⟩ := by
    have hbegun : PromoService.next (R := ℚ) ⟨⟨aliceStore, sampleLedger⟩, fun _ => none⟩ (.begin_ 0 v e 1010)
        = ⟨⟨boundStore d, sampleLedger⟩, Function.update (fun _ => none) 0 (some (.bound d))⟩ := by
      rw [PromoService.next, hbind]
    have hnone : PromoStores.lookup ⟨boundStore d, sampleLedger⟩ d = none := by
      unfold PromoStores.lookup promoClaimForOwner
      split <;> rfl
    show (((PromoService.next (R := ℚ) ⟨⟨aliceStore, sampleLedger⟩, fun _ => none⟩ (.begin_ 0 v e 1010)).advance 0
      (Env.atTime 1010)).advance 0 (Env.atTime 1010)).stores = _
    rw [hbegun]
    exact advance_twice rfl (hnone.symm ▸ hclaim)
  intro s
  obtain ⟨howners, hjournal⟩ : s.owners = _ ∧ s.ledger.journal = _ :=
    crash_stores (Run.exec_of_forall Sound (fun _ step hs => hs.next step) (sound_start .ownerCredit 1500 "w")
      (stoppedSteps v e).dropLast) (Env.atTime 1020)
  rw [hstores] at howners hjournal
  refine ⟨c, ?_, hm, ?_, ?_, congrArg Journal.transactions hjournal⟩ <;> rw [howners]
  · exact hrows ▸ List.mem_singleton_self c
  · rw [howner]
    exact hasOwner_alice rfl
  · intro row hrow
    obtain rfl := Option.some.inj ((Dict.get?_set_self ..).symm.trans hrow)
    rfl

end

/-- The stores after some steps, as one function of them: two runs are compared without being evaluated. -/
def storesAfter (s : PromoService) (steps : List (PromoStep ℚ)) : PromoStores := (Run.exec next s steps).stores

theorem storesAfter_eq (s : PromoService) (steps : List (PromoStep ℚ)) :
    storesAfter s steps = (Run.exec next s steps).stores := rfl

theorem sampleStores_eq :
    sampleStores = (Run.exec next (start .ownerCredit 1500 "w") (stoppedSteps sampleVerifier sampleEnvelope)).stores :=
  (show sampleStores = storesAfter _ _ from rfl).trans (storesAfter_eq _ _)

/-- The claim of the sample run has no grant after the crash, and one after the decision is delivered
again. -/
theorem promo_applied_once_sample : ∃ c ∈ sampleStores.owners.promoClaims.rows,
      (promoGrants sampleStores fun b => decide (b = c)).length = 0 ∧
      (promoGrants (sampleStores.apply sampleVerifier (Env.atTime 1020) sampleEnvelope 1020).2
        fun b => decide (b = c)).length = 1 := by
  rw [sampleStores_eq]
  obtain ⟨d, hverify, howner, hclass, hamount⟩ := verify_sampleEnvelope
  obtain ⟨c, hc, hm, hknown, hdevice, hempty⟩ :=
    stores_of_crash (hverify 1010 (.inl rfl)) howner hclass (by rw [hamount]; decide)
  obtain ⟨-, -, -, hcredited, haccepted⟩ :=
    promo_applied_once .ownerCredit 1500 "w" (stoppedSteps sampleVerifier sampleEnvelope)
  obtain ⟨r, hr⟩ := haccepted c hc _ (Env.atTime 1020) _ 1020 d (hverify 1020 (.inr rfl)) hm hknown
    (fun hgpu => by rw [hclass] at hgpu; cases hgpu) hdevice
  refine ⟨c, hc, ?_, hcredited c hc _ _ _ _ d r (hverify 1020 (.inr rfl)) hm.claimId.symm hr⟩
  unfold promoGrants
  rw [hempty]
  rfl

end PromoService

end ComputeMesh.Billing
