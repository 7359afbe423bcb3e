import ComputeMesh.Gateway.GatewayAuth

/-!
# Automatic grants over a whole run

What the logins of a run credit, together with the jobs that spend the credit again.  Every path but that of a
registered key takes a balance of zero for the sign that there was no grant yet, and every path deposits before it asks
whether the account is banned.  `Orderly` names the calls where this goes well.

* `depositCredits_books` / `depositCredits_refuses` — when a deposit is recorded;
* `giveGrant_cases` — what is left where a grant may be due;
* `Booked` — the references of the grants of a run are in the journal;
* `authenticateRequest_lawful` — **an orderly call returns, credits nobody who is barred, and repeats no grant**;
* `automatic_grants_once` — **so does every run of orderly calls.**
-/

namespace ComputeMesh.Gateway

open ComputeMesh.Text ComputeMesh.Billing Ledger List Admission

/-! ### When a deposit is recorded -/

def LoginGrant.event (l : Ledger) (g : LoginGrant) : String :=
  if l.cls.isGateway = true ∧ Ledger.isDemoAccount g.accountId = false then
    "owner-purchase:" ++ strip g.paymentReference
  else "deposit:" ++ g.paymentReference

/-- The ledger accepts the deposit for a grant. -/
structure LoginGrant.Bookable (l : Ledger) (g : LoginGrant) : Prop where
  amount : 0 < g.amountMicroUnits
  fresh : g.event l ∉ l.journal.processedEvents
  owner : l.cls.isGateway = true → Ledger.isDemoAccount g.accountId = false →
    (∃ o, cleanOwner g.accountId = .ok o) ∧ strip g.paymentReference ≠ ""

theorem newTransaction_transfer (t e c d a₁ t₁ a₂ t₂ : String) {amount : ℤ} (h : 0 < amount) :
    ∃ tx, newTransaction t e c d
      [{ accountId := a₁, accountType := t₁, debitMicroUnits := amount },
       { accountId := a₂, accountType := t₂, creditMicroUnits := amount }] = .ok tx ∧ tx.eventId = e := by
  have hdebit : ∃ p, Posting.new { accountId := a₁, accountType := t₁, debitMicroUnits := amount } = .ok p := by
    unfold Posting.new
    rw [dif_neg (by dsimp only; omega), dif_neg (by dsimp only; omega)]
    exact ⟨_, rfl⟩
  have hcredit : ∃ p, Posting.new { accountId := a₂, accountType := t₂, creditMicroUnits := amount } = .ok p := by
    unfold Posting.new
    rw [dif_neg (by dsimp only; omega), dif_neg (by dsimp only; omega)]
    exact ⟨_, rfl⟩
  obtain ⟨p, hp⟩ := hdebit
  obtain ⟨q, hq⟩ := hcredit
  have hfields : fieldsOf [p, q] = [{ accountId := a₁, accountType := t₁, debitMicroUnits := amount },
      { accountId := a₂, accountType := t₂, creditMicroUnits := amount }] := by
    show [p.toPostingFields, q.toPostingFields] = _
    rw [Posting.new_ok hp, Posting.new_ok hq]
  have hdebits : totalDebits (fieldsOf [p, q]) = amount := by
    rw [hfields]
    simp [totalDebits]
  have hcredits : totalCredits (fieldsOf [p, q]) = amount := by
    rw [hfields]
    simp [totalCredits]
  simp only [newTransaction, newPostings, hp, hq, Transaction.new]
  rw [dif_neg (by rw [hdebits, hcredits]; exact not_not.mpr rfl), dif_neg (by rw [hdebits]; omega)]
  exact ⟨_, rfl, rfl⟩

/-- **A deposit that the ledger accepts is recorded under its event.** -/
theorem depositCredits_books {l : Ledger} {g : LoginGrant} (env : Billing.Env) (h : g.Bookable l) :
    ∃ tx, tx.eventId = g.event l ∧ depositCredits l env g = l.commit tx := by
  have hplain : "deposit:" ++ g.paymentReference ∉ l.journal.processedEvents →
      ∃ tx, tx.eventId = "deposit:" ++ g.paymentReference ∧
        l.depositCustomerCredits env g.accountId g.amountMicroUnits g.paymentReference = l.commit tx := by
    intro hfresh
    obtain ⟨tx, htx, hevent⟩ := newTransaction_transfer (txId "dep" ("deposit:" ++ g.paymentReference))
      ("deposit:" ++ g.paymentReference) env.isoNow s!"Prepaid credit top-up via {g.paymentReference}" "gateway:escrow"
      paymentGatewayEscrow g.accountId customerDeposit h.amount
    refine ⟨tx, hevent, ?_⟩
    unfold depositCustomerCredits
    rw [if_neg (not_le.mpr h.amount)]
    dsimp only
    rw [if_neg hfresh, htx]
    rfl
  have hfresh := h.fresh
  unfold LoginGrant.event at hfresh ⊢
  unfold depositCredits
  by_cases hgateway : l.cls.isGateway = true
  · rw [if_pos hgateway]
    unfold gatewayDepositCustomerCredits
    by_cases hdemo : isDemoAccount g.accountId = true
    · rw [if_neg (by rw [hdemo]; rintro ⟨-, h⟩; cases h)] at hfresh ⊢
      rw [if_pos hdemo]
      exact hplain hfresh
    · have hdemo' : isDemoAccount g.accountId = false := Bool.not_eq_true _ ▸ hdemo
      rw [if_pos ⟨hgateway, hdemo'⟩] at hfresh ⊢
      rw [if_neg hdemo]
      obtain ⟨⟨owner, howner⟩, hreference⟩ := h.owner hgateway hdemo'
      obtain ⟨tx, htx, hevent⟩ := newTransaction_transfer (txId "owner_purchase" ("owner-purchase:" ++ strip g.paymentReference))
        ("owner-purchase:" ++ strip g.paymentReference) env.isoNow
        s!"Purchased ComputeMesh credits for owner {owner.val}" "gateway:escrow" paymentGatewayEscrow
        (ownerBucketAccount owner .purchased) Bucket.purchased.accountType h.amount
      refine ⟨tx, hevent, ?_⟩
      unfold depositOwnerPurchasedCredits
      rw [howner]
      dsimp only
      rw [if_neg (not_le.mpr h.amount), if_neg hreference]
      unfold creditBucket ensureNewEvent
      rw [if_neg hfresh]
      dsimp only
      rw [htx]
      rfl
  · rw [if_neg (fun h => hgateway h.1)] at hfresh ⊢
    rw [if_neg hgateway]
    exact hplain hfresh

theorem depositCredits_refuses {l : Ledger} {g : LoginGrant} (env : Billing.Env) (h : ¬g.Bookable l) :
    ∃ e, depositCredits l env g = (.error e, l) := by
  have hplain : g.event l = "deposit:" ++ g.paymentReference →
      (l.cls.isGateway = true → isDemoAccount g.accountId = true) →
      ∃ e, l.depositCustomerCredits env g.accountId g.amountMicroUnits g.paymentReference = (.error e, l) := by
    intro hevent hdemo
    unfold depositCustomerCredits
    by_cases hamount : g.amountMicroUnits ≤ 0
    · rw [if_pos hamount]
      exact ⟨_, rfl⟩
    rw [if_neg hamount]
    dsimp only
    by_cases hseen : "deposit:" ++ g.paymentReference ∈ l.journal.processedEvents
    · rw [if_pos hseen]
      exact ⟨_, rfl⟩
    refine absurd ⟨not_le.mp hamount, hevent ▸ hseen, fun hgateway hno => ?_⟩ h
    rw [hdemo hgateway] at hno
    cases hno
  unfold depositCredits
  by_cases hgateway : l.cls.isGateway = true
  · rw [if_pos hgateway]
    unfold gatewayDepositCustomerCredits
    by_cases hdemo : isDemoAccount g.accountId = true
    · rw [if_pos hdemo]
      exact hplain (if_neg (by rw [hdemo]; rintro ⟨-, h⟩; cases h)) fun _ => hdemo
    have hdemo' : isDemoAccount g.accountId = false := Bool.not_eq_true _ ▸ hdemo
    rw [if_neg hdemo]
    unfold depositOwnerPurchasedCredits
    cases howner : cleanOwner g.accountId with
    | error e => exact ⟨e, rfl⟩
    | ok owner =>
      dsimp only
      by_cases hamount : g.amountMicroUnits ≤ 0
      · rw [if_pos hamount]
        exact ⟨_, rfl⟩
      rw [if_neg hamount]
      by_cases hreference : strip g.paymentReference = ""
      · rw [if_pos hreference]
        exact ⟨_, rfl⟩
      rw [if_neg hreference]
      unfold creditBucket ensureNewEvent
      by_cases hseen : "owner-purchase:" ++ strip g.paymentReference ∈ l.journal.processedEvents
      · rw [if_pos hseen]
        exact ⟨_, rfl⟩
      have hevent : g.event l = "owner-purchase:" ++ strip g.paymentReference := if_pos ⟨hgateway, hdemo'⟩
      exact absurd ⟨not_le.mp hamount, hevent ▸ hseen, fun _ _ => ⟨⟨owner, howner⟩, hreference⟩⟩ h
  · rw [if_neg hgateway]
    exact hplain (if_neg fun h => hgateway h.1) fun h => absurd h hgateway

/-- **A deposit leaves the ledger as it was, or records a new event.** -/
theorem depositCredits_cases (l : Ledger) (env : Billing.Env) (g : LoginGrant) :
    (∃ e, depositCredits l env g = (.error e, l)) ∨
      ∃ tx, tx.eventId = g.event l ∧ g.event l ∉ l.journal.processedEvents ∧ depositCredits l env g = l.commit tx := by
  by_cases h : g.Bookable l
  · obtain ⟨tx, hevent, hdeposit⟩ := depositCredits_books env h
    exact .inr ⟨tx, hevent, h.fresh, hdeposit⟩
  · exact .inl (depositCredits_refuses env h)

theorem commit_error {l : Ledger} {tx : Transaction} {e : Exn} (h : (l.commit tx).1 = .error e) :
    AuthExn.ofBilling e = .osError := by
  unfold commit Journal.recordTransaction Journal.appendToDisk at h
  split at h
  · cases h
  · rename_i hrecord
    cases h
    split at hrecord
    · cases hrecord
    · split at hrecord
      · cases hrecord
        rfl
      · cases hrecord

/-! ### What a login can leave -/

/-- The reference of a kind of grant that is made once for an account. -/
def fixedReference : GrantKind → String → Option String
  | .owner, account => some ("owner_grant_" ++ account)
  | .session, account => some ("session_grant_" ++ account)
  | .provider, account => some ("provider_grant_" ++ account)
  | .initial, _ | .providerSelf, _ | .teaser, _ => none

/-- **What holds of the grants of a run**: they are pairwise different, and the journal has their references. -/
structure Booked (s : AuthState) : Prop where
  once : s.grants.Nodup
  initial : ∀ account, (GrantKind.initial, account) ∈ s.grants →
    ∃ e ∈ s.ledger.journal.processedEvents, startsWith e ("deposit:initial_grant_" ++ account) = true
  fixed : ∀ kind account reference amount, (kind, account) ∈ s.grants → fixedReference kind account = some reference →
    LoginGrant.event s.ledger ⟨kind, account, amount, reference⟩ ∈ s.ledger.journal.processedEvents

/-- What the logins' grants look like. -/
structure Admission.Formed (a : Admission) : Prop where
  history : a.askHistory = true → a.grant.kind = .initial
  initial : a.grant.kind = .initial → a.bindToken.isSome = true ∧
    startsWith a.grant.paymentReference ("initial_grant_" ++ a.grant.accountId) = true
  fixed : ∀ reference, fixedReference a.grant.kind a.grant.accountId = some reference →
    a.grant.paymentReference = reference
  results : ∀ r, r = a.result ∨ r = a.ownerResult →
    r.accountId = some a.grant.accountId ∧ textOr (r.ownerId.getD "") a.grant.accountId = a.grant.accountId

/-- The grant's reference has a random part, and the history of the account is not asked for. -/
def Admission.Random (a : Admission) : Prop :=
  a.askHistory = false ∧ fixedReference a.grant.kind a.grant.accountId = none

theorem startsWith_self (text : String) : startsWith text text = true := by
  simp [startsWith]

theorem textOr_self (text : String) : textOr text text = text := by
  unfold textOr
  split
  · rfl
  · rfl

theorem textOr_textOr (text fallback : String) : textOr text (textOr text fallback) = textOr text fallback := by
  unfold textOr
  split <;> rfl

theorem credentialAdmission_formed {t a : String} {k : GrantKind} {m : ℤ} {r : String} {c : Bool}
    (hinitial : k = .initial → startsWith r ("initial_grant_" ++ a) = true)
    (hfixed : ∀ reference, fixedReference k a = some reference → r = reference) :
    (credentialAdmission t a k m r c).Formed where
  history h := nomatch h
  initial h := ⟨rfl, hinitial h⟩
  fixed := hfixed
  results := by
    rintro _ (rfl | rfl)
    · exact ⟨rfl, rfl⟩
    · exact ⟨rfl, textOr_self a⟩

variable {a : Admission}

theorem orElse_admits {x y : Login} (h : x.orElse y = .admits a) : x = .admits a ∨ y = .admits a := by
  cases x with
  | passes => exact .inr h
  | ends reply => cases h
  | admits b => exact .inl h

variable {env : AuthEnv} {token : String}

theorem registeredLogin_formed (h : registeredLogin env token = .admits a) : a.Formed := by
  unfold registeredLogin at h
  split at h
  · cases h
  · cases h
  · cases h
  · rename_i account _
    split at h
    · cases h
    · cases h
      exact
        { history := fun _ => rfl
          initial := fun _ => ⟨rfl, startsWith_self _⟩
          fixed := nofun
          results := by
            rintro r (rfl | rfl)
            · exact ⟨rfl, rfl⟩
            · exact ⟨rfl, textOr_self account⟩ }

theorem ownerKeyLogin_formed (h : ownerKeyLogin env token = .admits a) : a.Formed := by
  unfold ownerKeyLogin at h
  dsimp only at h
  split at h
  · split at h
    · cases h
    · cases h
    · rename_i account _
      cases h
      have hformed := credentialAdmission_formed (t := token) (a := account.accountId) (k := .owner) (m := 100000000)
        (r := "owner_grant_" ++ account.accountId) (c := true) nofun fun _ h => Option.some.inj h
      exact ⟨hformed.history, hformed.initial, hformed.fixed, hformed.results⟩
  · cases h

theorem providerTokenLogin_formed (h : providerTokenLogin env token = .admits a) : a.Formed := by
  unfold providerTokenLogin at h
  dsimp only at h
  split at h
  · split at h
    · cases h
      exact credentialAdmission_formed nofun nofun
    · cases h
  · cases h

theorem customerKeyLogin_formed (h : customerKeyLogin env token = .admits a) : a.Formed := by
  unfold customerKeyLogin at h
  dsimp only at h
  split at h
  · split at h
    · cases h
      refine credentialAdmission_formed (fun _ => ?_) nofun
      rw [← String.append_assoc, String.append_assoc]
      exact startsWith_append _ _
    · cases h
  · cases h

theorem sessionLogin_formed {headers : Option RequestHeaders}
    (h : sessionLogin env headers = .admits a) : a.Formed := by
  unfold sessionLogin at h
  dsimp only at h
  split at h
  · cases h
  · cases h
  · rename_i account _
    split at h
    · cases h
    · cases h
      have hformed := credentialAdmission_formed (t := account.ownerKey) (a := account.accountId) (k := .session)
        (m := 100000000) (r := "session_grant_" ++ account.accountId) (c := true) nofun
        fun _ h => Option.some.inj h
      exact ⟨hformed.history, hformed.initial, hformed.fixed, hformed.results⟩

variable {call : AuthCall}

theorem providerNodeLogin_formed (h : providerNodeLogin env call = .admits a) : a.Formed := by
  unfold providerNodeLogin at h
  dsimp only at h
  split at h
  · cases h
  · split at h
    · cases h
    · split at h
      · cases h
      · rename_i node _
        cases h
        exact
          { history := nofun
            initial := nofun
            fixed := fun _ h => Option.some.inj h
            results := by
              rintro r (rfl | rfl) <;> exact ⟨rfl, textOr_textOr _ _⟩ }

theorem teaserLogin_formed (h : teaserLogin env call = .admits a) : a.Formed := by
  unfold teaserLogin at h
  dsimp only at h
  split at h
  · split at h
    · cases h
    · cases h
      exact
        { history := nofun
          initial := nofun
          fixed := nofun
          results := by
            rintro r (rfl | rfl) <;> exact ⟨rfl, rfl⟩ }
  · cases h

theorem adminLogin_ne_admits : adminLogin env token ≠ .admits a := by
  intro h
  unfold adminLogin at h
  split at h
  · split at h <;> cases h
  · cases h

/-- **Every account that is admitted is admitted with a grant of its path.** -/
theorem login_formed (h : login env call = .admits a) : a.Formed := by
  unfold login at h
  rcases orElse_admits h with htoken | h
  · unfold tokenLogin at htoken
    split at htoken
    · cases htoken
    rcases orElse_admits htoken with hadmin | htoken
    · exact absurd hadmin adminLogin_ne_admits
    rcases orElse_admits htoken with hregistered | htoken
    · exact registeredLogin_formed hregistered
    rcases orElse_admits htoken with howner | htoken
    · exact ownerKeyLogin_formed howner
    rcases orElse_admits htoken with hprovider | hcustomer
    · exact providerTokenLogin_formed hprovider
    · exact customerKeyLogin_formed hcustomer
  rcases orElse_admits h with hsession | h
  · exact sessionLogin_formed hsession
  rcases orElse_admits h with hnode | hteaser
  · exact providerNodeLogin_formed hnode
  · exact teaserLogin_formed hteaser

/-! ### What a call leaves -/

def AuthState.granted (s : AuthState) (g : LoginGrant) (tx : Transaction) : AuthState :=
  ⟨s.ledger.recorded tx, s.grants ++ [(g.kind, g.accountId)]⟩

/-- **A grant changes nothing, or it is recorded under a new event of an account whose balance is zero.** -/
theorem giveGrant_state (env : AuthEnv) (s : AuthState) (g : LoginGrant) : (giveGrant env s g).2 = s ∨
      s.ledger.getBalance g.accountId = .ok 0 ∧ g.event s.ledger ∉ s.ledger.journal.processedEvents ∧
        ∃ tx, tx.eventId = g.event s.ledger ∧ (giveGrant env s g).2 = s.granted g tx := by
  unfold giveGrant
  cases hbalance : s.ledger.getBalance g.accountId with
  | error e => exact .inl rfl
  | ok balance =>
    dsimp only
    by_cases hzero : balance ≠ 0
    · rw [if_pos hzero]
      exact .inl rfl
    rw [if_neg hzero]
    rcases depositCredits_cases s.ledger env.billing g with ⟨e, hdeposit⟩ | ⟨tx, hevent, hfresh, hdeposit⟩
    · rw [hdeposit]
      dsimp only
      rw [if_neg (lt_irrefl _)]
      exact .inl rfl
    · refine .inr ⟨congrArg Except.ok (not_not.mp hzero), hfresh, tx, hevent, ?_⟩
      have hstate : (depositCredits s.ledger env.billing g).2 = s.ledger.recorded tx := by
        rw [hdeposit, commit_snd]
      have hlonger : s.ledger.journal.transactions.length <
          (depositCredits s.ledger env.billing g).2.journal.transactions.length := by
        rw [hstate, recorded_transactions, length_append, length_singleton]
        exact Nat.lt_succ_self _
      rw [if_pos hlonger, hstate]
      split <;> rfl

/-- **A grant that the ledger accepts is made, unless the journal cannot be written.** -/
theorem giveGrant_reply {env : AuthEnv} {s : AuthState} {g : LoginGrant} (hbookable : g.Bookable s.ledger) :
    (giveGrant env s g).1 = .ok () ∨ (∃ e, s.ledger.getBalance g.accountId = .error e ∧ (giveGrant env s g).1 = .error (.ofBilling e)) ∨
      ¬s.ledger.Healthy ∧ (giveGrant env s g).1 = .error .osError := by
  unfold giveGrant
  cases hbalance : s.ledger.getBalance g.accountId with
  | error e => exact .inr (.inl ⟨e, rfl, rfl⟩)
  | ok balance =>
    dsimp only
    by_cases hzero : balance ≠ 0
    · rw [if_pos hzero]
      exact .inl rfl
    rw [if_neg hzero]
    obtain ⟨tx, -, hdeposit⟩ := depositCredits_books env.billing hbookable
    rw [hdeposit]
    by_cases hhealthy : s.ledger.Healthy
    · rw [commit_of_healthy hhealthy]
      exact .inl rfl
    · cases hcommit : (s.ledger.commit tx).1 with
      | ok tx' => exact .inl rfl
      | error e => exact .inr (.inr ⟨hhealthy, congrArg Except.error (commit_error hcommit)⟩)

/-- A deposit may come: no owner credits are used on this path, and no history forbids it. -/
structure Admission.MayDeposit (s : AuthState) (a : Admission) : Prop where
  path : a.bindToken = none ∨ s.usesOwnerCredits = false
  history : a.askHistory = true → s.ledger.hasReceivedInitialGrant a.grant.accountId = false

variable {s : AuthState}

theorem grantAndReply_snd (env : AuthEnv)
    (h : ¬(a.askHistory = true ∧ s.ledger.hasReceivedInitialGrant a.grant.accountId = true)) :
    (a.grantAndReply env s).2 = (giveGrant env s a.grant).2 := by
  unfold grantAndReply
  rw [if_neg h]
  split <;> rename_i hgive <;> rw [hgive]

/-- **An admission leaves what there was, or its grant.** -/
theorem enter_state (env : AuthEnv) (s : AuthState) (a : Admission) : (a.enter env s).2 = s ∨
      a.MayDeposit s ∧ s.ledger.getBalance a.grant.accountId = .ok 0 ∧
        a.grant.event s.ledger ∉ s.ledger.journal.processedEvents ∧
        ∃ tx, tx.eventId = a.grant.event s.ledger ∧ (a.enter env s).2 = s.granted a.grant tx := by
  have hgrant : (a.bindToken = none ∨ s.usesOwnerCredits = false) →
      (a.grantAndReply env s).2 = s ∨
        a.MayDeposit s ∧ s.ledger.getBalance a.grant.accountId = .ok 0 ∧
          a.grant.event s.ledger ∉ s.ledger.journal.processedEvents ∧
          ∃ tx, tx.eventId = a.grant.event s.ledger ∧ (a.grantAndReply env s).2 = s.granted a.grant tx := by
    intro hpath
    by_cases hreceived : a.askHistory = true ∧ s.ledger.hasReceivedInitialGrant a.grant.accountId = true
    · unfold grantAndReply
      rw [if_pos hreceived]
      exact .inl rfl
    rw [grantAndReply_snd env hreceived]
    rcases giveGrant_state env s a.grant with hsame | ⟨hbalance, hfresh, tx, hevent, hgiven⟩
    · exact .inl hsame
    · refine .inr ⟨⟨hpath, fun hask => ?_⟩, hbalance, hfresh, tx, hevent, hgiven⟩
      by_contra hne
      exact hreceived ⟨hask, by simpa using hne⟩
  unfold enter
  split
  · rename_i hnone
    exact hgrant (.inl hnone)
  · by_cases howner : s.usesOwnerCredits = true
    · rw [if_pos howner]
      exact .inl rfl
    · rw [if_neg howner]
      exact hgrant (.inr (Bool.not_eq_true _ ▸ howner))

/-! ### Orderly calls -/

/-- **The first grant of its kind for an account that may log in**, which the ledger can record. -/
structure Admission.FirstGrant (env : AuthEnv) (s : AuthState) (a : Admission) : Prop where
  allowed : askBans env (strip a.grant.accountId) = .ok none
  unrepeated : a.Random → (a.grant.kind, a.grant.accountId) ∉ s.grants
  bookable : a.grant.Bookable s.ledger
  writable : s.ledger.Healthy ∨ a.handled .osError = true

/-- **Where an admission goes well**: the credential store, the ban registries and the ledger raise nothing that the path's
handler does not list, and an account whose balance is zero gets its first grant. -/
structure Admission.Orderly (env : AuthEnv) (s : AuthState) (a : Admission) : Prop where
  bans : a.guarded = true → ∀ e, checkFleetBanned env a.grant.accountId = .error (.raised e) → a.handled e = true
  binding : ∀ token, a.bindToken = some token → s.usesOwnerCredits = true →
    ∀ e, bindOwnerCredential env token a.grant.accountId = .error e → a.handled e = true
  balance : a.MayDeposit s → ∀ e, s.ledger.getBalance a.grant.accountId = .error e → a.handled (.ofBilling e) = true
  grant : a.MayDeposit s → s.ledger.getBalance a.grant.accountId = .ok 0 → a.FirstGrant env s

/-- **Where a call goes well**: finding out whom it is for raises nothing, and the admission goes well. -/
def OrderlyCall (env : AuthEnv) (s : AuthState) (call : AuthCall) : Prop :=
  match login env call with
  | .passes => True
  | .ends reply => ∃ r, reply = .ok r
  | .admits a => a.Orderly env s

/-- **What a call is to do**: it returns, every account that it credits is one whose ban state can be read and which is not
banned, and where it credits none it leaves the ledger as it was. -/
structure LawfulCall (env : AuthEnv) (s : AuthState) (call : AuthCall) : Prop where
  returns : ∃ r, (authenticateRequest env s call).1 = .ok r
  unbarred : ∃ credited, (authenticateRequest env s call).2.grants = s.grants ++ credited ∧
    (∀ g ∈ credited, askBans env (strip g.2) = .ok none) ∧ (credited = [] → (authenticateRequest env s call).2 = s)

theorem catching_ok {reply : Except AuthExn AuthResult} (h : ∀ e, reply = .error e → a.handled e = true) :
    ∃ r, a.catching reply = .ok r := by
  unfold catching
  cases reply with
  | ok r => exact ⟨r, rfl⟩
  | error e => exact ⟨_, if_pos (h e rfl)⟩

theorem reply_error (hformed : a.Formed) (h : a.Orderly env s)
    {r : AuthResult} (hr : r = a.result ∨ r = a.ownerResult) {e : AuthExn} (he : a.reply env r = .error e) :
    a.handled e = true := by
  obtain ⟨haccount, htarget⟩ := hformed.results r hr
  unfold reply at he
  split at he
  · rename_i hguarded
    unfold guardAuthResult at he
    rw [haccount] at he
    dsimp only at he
    split at he
    · cases he
    · rw [htarget] at he
      split at he
      · cases he
      · rename_i hraised
        cases he
        exact h.bans hguarded _ hraised
      · split at he <;> cases he
  · cases he

theorem grantAndReply_returns (hformed : a.Formed)
    (h : a.Orderly env s) (hpath : a.bindToken = none ∨ s.usesOwnerCredits = false) :
    ∃ r, (a.grantAndReply env s).1 = .ok r := by
  have hreply : ∃ r, a.catching (a.reply env a.result) = .ok r :=
    catching_ok fun e he => reply_error hformed h (.inl rfl) he
  unfold grantAndReply
  by_cases hreceived : a.askHistory = true ∧ s.ledger.hasReceivedInitialGrant a.grant.accountId = true
  · rw [if_pos hreceived]
    exact hreply
  rw [if_neg hreceived]
  have hdeposit : a.MayDeposit s := by
    refine ⟨hpath, fun hask => ?_⟩
    by_contra hne
    exact hreceived ⟨hask, by simpa using hne⟩
  have hgrant : ∀ e, (giveGrant env s a.grant).1 = .error e → a.handled e = true := by
    intro e he
    by_cases hzero : s.ledger.getBalance a.grant.accountId = .ok 0
    · have hfirst := h.grant hdeposit hzero
      rcases @giveGrant_reply env _ _ hfirst.bookable with hok | ⟨e', hbalance, herror⟩ | ⟨hunhealthy, herror⟩
      · rw [hok] at he
        cases he
      · rw [hzero] at hbalance
        cases hbalance
      · rw [herror] at he
        cases he
        exact hfirst.writable.resolve_left hunhealthy
    · unfold giveGrant at he
      split at he
      · rename_i e' hbalance
        cases he
        exact h.balance hdeposit e' hbalance
      · rename_i balance hbalance
        have hne : balance ≠ 0 := fun hz => hzero (by rw [hbalance, hz])
        rw [if_pos hne] at he
        cases he
  split
  · rename_i e s' hgive
    have herror : (giveGrant env s a.grant).1 = .error e := by rw [hgive]
    have hhandled : ∀ e', (.error e : Except AuthExn AuthResult) = .error e' → a.handled e' = true :=
      fun e' he' => Except.error.inj he' ▸ hgrant e herror
    exact catching_ok hhandled
  · exact hreply

/-- **An orderly admission returns.** -/
theorem enter_returns (hformed : a.Formed) (h : a.Orderly env s) : ∃ r, (a.enter env s).1 = .ok r := by
  unfold enter
  split
  · rename_i hnone
    exact grantAndReply_returns hformed h (.inl hnone)
  · rename_i token htoken
    by_cases howner : s.usesOwnerCredits = true
    · rw [if_pos howner]
      refine catching_ok fun e he => ?_
      unfold bindAndReply at he
      cases hbind : bindOwnerCredential env token a.grant.accountId with
      | error e' =>
        rw [hbind] at he
        cases he
        exact h.binding token htoken howner e hbind
      | ok u =>
        rw [hbind] at he
        exact reply_error hformed h (.inr rfl) he
    · rw [if_neg howner]
      exact grantAndReply_returns hformed h (.inr (Bool.not_eq_true _ ▸ howner))

/-! ### What an orderly call keeps -/

theorem startsWith_append_left {text start : String} (front : String) (h : startsWith text start = true) :
    startsWith (front ++ text) (front ++ start) = true := by
  unfold startsWith at *
  rw [String.toList_append, String.toList_append, isPrefixOf_iff_prefix] at *
  exact prefix_append_right_inj _ |>.mpr h

/-- **A first grant is booked besides the others.** -/
theorem Booked.granted (h : Booked s) (hformed : a.Formed)
    (hdeposit : a.MayDeposit s) (hfirst : a.FirstGrant env s) {tx : Transaction}
    (hevent : tx.eventId = a.grant.event s.ledger) : Booked (s.granted a.grant tx) := by
  have hkept : ∀ e ∈ s.ledger.journal.processedEvents, e ∈ (s.ledger.recorded tx).journal.processedEvents :=
    fun e he => (s.ledger.mem_processedEvents_recorded tx e).mpr (.inr he)
  have hnew : a.grant.event s.ledger ∈ (s.ledger.recorded tx).journal.processedEvents :=
    (s.ledger.mem_processedEvents_recorded tx _).mpr (.inl hevent.symm)
  have hfresh : (a.grant.kind, a.grant.accountId) ∉ s.grants := by
    intro hgranted
    by_cases hask : a.askHistory = true
    · -- the journal has an initial grant of the account, and the path has asked for one
      have hkind := hformed.history hask
      rw [hkind] at hgranted
      obtain ⟨e, he, hprefix⟩ := h.initial _ hgranted
      have hnone := hdeposit.history hask
      unfold hasReceivedInitialGrant at hnone
      exact absurd hprefix (any_eq_false.mp hnone e he)
    · cases hfixed : fixedReference a.grant.kind a.grant.accountId with
      | none => exact hfirst.unrepeated ⟨Bool.not_eq_true _ ▸ hask, hfixed⟩ hgranted
      | some reference =>
        -- the journal has the one reference of such a grant
        have hbooked := h.fixed _ _ reference a.grant.amountMicroUnits hgranted hfixed
        rw [← hformed.fixed reference hfixed] at hbooked
        exact hfirst.bookable.fresh hbooked
  refine ⟨?_, ?_, ?_⟩
  · exact nodup_append.mpr ⟨h.once, nodup_singleton _, fun x hx y hy hxy => by
      rw [mem_singleton] at hy
      exact hfresh (hy ▸ hxy ▸ hx)⟩
  · intro account haccount
    rcases mem_append.mp haccount with hold | hthis
    · obtain ⟨e, he, hprefix⟩ := h.initial account hold
      exact ⟨e, hkept e he, hprefix⟩
    · rw [mem_singleton, Prod.mk.injEq] at hthis
      obtain ⟨hkind, rfl⟩ := hthis
      obtain ⟨hbind, hreference⟩ := hformed.initial hkind.symm
      -- an initial grant is deposited only without owner credits
      have hplain : s.ledger.cls = .ledger := by
        rcases hdeposit.path with hnone | huses
        · rw [hnone] at hbind
          cases hbind
        · exact not_not.mp (of_decide_eq_false huses)
      have hdirect : a.grant.event s.ledger = "deposit:" ++ a.grant.paymentReference := by
        refine if_neg ?_
        rw [hplain]
        rintro ⟨hgateway, -⟩
        cases hgateway
      exact ⟨_, hnew, hdirect ▸ startsWith_append_left "deposit:" hreference⟩
  · intro kind account reference amount haccount hfixed
    rcases mem_append.mp haccount with hold | hthis
    · exact hkept _ (h.fixed kind account reference amount hold hfixed)
    · rw [mem_singleton, Prod.mk.injEq] at hthis
      obtain ⟨rfl, rfl⟩ := hthis
      rw [← hformed.fixed reference hfixed]
      exact hnew

/-- **An orderly call returns, credits nobody who is barred, and repeats no grant.** -/
theorem authenticateRequest_lawful (h : Booked s)
    (hcall : OrderlyCall env s call) : LawfulCall env s call ∧ Booked (authenticateRequest env s call).2 := by
  have hquiet : ∀ reply : Except AuthExn AuthResult, (∃ r, reply = .ok r) →
      authenticateRequest env s call = (reply, s) →
      LawfulCall env s call ∧ Booked (authenticateRequest env s call).2 := by
    intro reply hreply heq
    rw [heq]
    refine ⟨⟨heq ▸ hreply, [], ?_, nofun, fun _ => congrArg Prod.snd heq⟩, h⟩
    rw [heq, append_nil]
  unfold OrderlyCall at hcall
  cases hlogin : login env call with
  | passes => exact hquiet (.ok unauthorized) ⟨_, rfl⟩ (by rw [authenticateRequest, hlogin])
  | ends reply =>
    rw [hlogin] at hcall
    exact hquiet reply hcall (by rw [authenticateRequest, hlogin])
  | admits a =>
    rw [hlogin] at hcall
    have hformed := login_formed hlogin
    have heq : authenticateRequest env s call = a.enter env s := by rw [authenticateRequest, hlogin]
    have hreturns := enter_returns hformed hcall
    rcases enter_state env s a with hsame | ⟨hdeposit, hzero, -, tx, hevent, hgiven⟩
    · refine ⟨⟨heq ▸ hreturns, [], ?_, nofun, fun _ => heq ▸ hsame⟩, ?_⟩
      · rw [heq, hsame, append_nil]
      · rw [heq, hsame]
        exact h
    · have hfirst := hcall.grant hdeposit hzero
      refine ⟨⟨heq ▸ hreturns, [(a.grant.kind, a.grant.accountId)], ?_, ?_, nofun⟩, ?_⟩
      · rw [heq, hgiven]
        rfl
      · intro g hg
        rw [mem_singleton] at hg
        rw [hg]
        exact hfirst.allowed
      · rw [heq, hgiven]
        exact h.granted hformed hdeposit hfirst hevent

/-! ### Whole runs -/

/-- A call of the gateway, or a job that is executed and charged. -/
inductive AuthMove (R : Type)
  | login (env : AuthEnv) (call : AuthCall)
  | job (env : Billing.Env) (call : JobCall R)

section Runs

variable {R : Type} [LayerRatio R]

/-- What a move leaves. -/
def AuthState.next (s : AuthState) : AuthMove R → AuthState
  | .login env call => (authenticateRequest env s call).2
  | .job env call => { s with ledger := (s.ledger.recordJobExecution env call).2 }

/-- What the logins of a run are to do. -/
def AuthMove.Lawful (s : AuthState) : AuthMove R → Prop
  | .login env call => LawfulCall env s call
  | .job .. => True

/-- Where the logins of a run go well. -/
def AuthMove.Orderly (s : AuthState) : AuthMove R → Prop
  | .login env call => OrderlyCall env s call
  | .job .. => True

theorem Booked.job (h : Booked s) (env : Billing.Env) (call : JobCall R) : Booked (s.next (.job env call)) := by
  show Booked { s with ledger := (s.ledger.recordJobExecution env call).2 }
  rcases s.ledger.recordJobExecution_journal env call with heq | ⟨fs, -, tx, -, -, -, heq⟩
  · rw [heq]
    exact h
  · have hkept : ∀ e ∈ s.ledger.journal.processedEvents, e ∈ (s.ledger.recorded tx).journal.processedEvents :=
      fun e he => (s.ledger.mem_processedEvents_recorded tx e).mpr (.inr he)
    rw [heq]
    refine ⟨h.once, fun account haccount => ?_, fun kind account reference amount haccount hfixed => ?_⟩
    · obtain ⟨e, he, hprefix⟩ := h.initial account haccount
      exact ⟨e, hkept e he, hprefix⟩
    · exact hkept _ (h.fixed kind account reference amount haccount hfixed)

theorem next_lawful (s : AuthState) (move : AuthMove R) (h : Booked s) (hmove : move.Orderly s) :
    move.Lawful s ∧ Booked (s.next move) := by
  cases move with
  | login env call => exact authenticateRequest_lawful h hmove
  | job env call => exact ⟨trivial, h.job env call⟩

theorem booked_start (l : Ledger) : Booked ⟨l, []⟩ :=
  ⟨nodup_nil, nofun, nofun⟩

/-- **Automatic grants are credited once, to accounts that may log in, by calls that return, in every run of orderly
calls.** -/
theorem automatic_grants_once (l : Ledger) (moves : List (AuthMove R))
    (h : Run.Along AuthState.next (fun s move => move.Orderly s) ⟨l, []⟩ moves) :
    Run.Along AuthState.next (fun s move => move.Lawful s) ⟨l, []⟩ moves ∧
      (Run.exec AuthState.next ⟨l, []⟩ moves).grants.Nodup :=
  ⟨Run.along_of_along Booked next_lawful (booked_start l) h,
    (Run.exec_of_along Booked (fun s move hs hmove => (next_lawful s move hs hmove).2) (booked_start l) h).once⟩

end Runs

/-! ### Calls that go wrong -/

/-- A portal with one banned account, and one session for each cookie. -/
def sampleAuthEnv : AuthEnv where
  adminKey := ""
  registry := .ok [("cm_key_12345", "alice")]
  allowDynamicProviderTokens := false
  allowDynamicCustomerKeys := false
  resolveLatestOwnerKey _ := .ok none
  accountByOwnerKey _ := .ok none
  sessionAccount headers := .ok (headers.bind fun h => if h.cookie = "" then none else some ⟨h.cookie, "ok_key"⟩)
  fleetBans := ⟨fun id => .ok (decide (id = "mallory")), fun _ => .ok none⟩
  ownerAccountStore := none
  nodes := .ok []
  ipAddress _ := none
  isTeaserQuotaExceeded _ := false
  teaserGrantMicroUnits := 5
  billing := ⟨0, "", "00000000"⟩

def sampleAuthLedger : Ledger := .fresh .ledger 2500 "" none

def sampleTeaserCall : AuthCall := ⟨none, some "10.0.0.1", true⟩

def sampleSessionCall (account : String) : AuthCall := ⟨some { cookie := account }, some "10.0.0.1", false⟩

/-- A job that costs a teaser its whole grant. -/
def sampleTeaserJob : JobCall ℚ :=
  { jobId := "job", customerAccountId := "teaser_10_0_0_1", providerShares := [("node", 1)]
    modelId := "qwen/qwen2.5-7b-instruct", promptTokens := 0, completionTokens := 20
    networkFeeBps := none }

/-- A teaser's first grant, which a job spends. -/
theorem automatic_grants_once_sample : (Run.exec AuthState.next ⟨sampleAuthLedger, []⟩
      [.login sampleAuthEnv sampleTeaserCall, .job sampleAuthEnv.billing sampleTeaserJob]).grants.Nodup := by
  have hfirst : ∀ a : Admission, a.bindToken = none → a.guarded = false →
      a.grant = ⟨.teaser, "teaser_10_0_0_1", 5, "teaser_grant_teaser_10_0_0_1_00000000"⟩ →
      a.Orderly sampleAuthEnv ⟨sampleAuthLedger, []⟩ := by
    intro a hbind hguarded hgrant
    refine ⟨fun h => ?_, fun token h => ?_, nofun, fun _ _ => ⟨?_, nofun, ?_, .inl ?_⟩⟩
    · rw [hguarded] at h
      cases h
    · rw [hbind] at h
      cases h
    · rw [hgrant]
      rfl
    · rw [hgrant]
      exact ⟨by decide, by decide, nofun⟩
    · exact nofun
  have hcall : OrderlyCall sampleAuthEnv ⟨sampleAuthLedger, []⟩ sampleTeaserCall := hfirst _ rfl rfl rfl
  refine (automatic_grants_once sampleAuthLedger _ ?_).2
  exact ⟨hcall, trivial, trivial⟩

/-- **A banned account is credited before it is refused, a teaser that has spent its grant gets it again, and a token that is
not ASCII makes the call raise.** -/
theorem logins_go_wrong :
    let banned := authenticateRequest sampleAuthEnv ⟨sampleAuthLedger, []⟩ (sampleSessionCall "mallory")
    let twice := Run.exec AuthState.next ⟨sampleAuthLedger, []⟩
      [.login sampleAuthEnv sampleTeaserCall, .job sampleAuthEnv.billing sampleTeaserJob,
        .login { sampleAuthEnv with billing := ⟨1, "", "00000001"⟩ } sampleTeaserCall]
    banned.2.grants = [(.session, "mallory")] ∧ banned.2.ledger.rawBalance "mallory" = 100000000 ∧
      twice.grants.count (.teaser, "teaser_10_0_0_1") = 2 ∧
      (authenticateRequest sampleAuthEnv ⟨sampleAuthLedger, []⟩
        ⟨some { authorization := "Bearer clé_12345" }, none, false⟩).1 = .error .typeError := by
  decide

end ComputeMesh.Gateway
