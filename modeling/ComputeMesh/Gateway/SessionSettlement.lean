import ComputeMesh.Gateway.ConfidentialCoordinator

/-!
# A settlement of a metered session

What the ledger's part of a settlement does, and the whole of it when nothing disturbs it.

* `Keyed` — every row stands under its own id;
* `ChargeHeld` — **the ledger has the settlement of a session, and it pays what the stored receipt costs**;
* `settleEscrow_cases` — the ledger's part is refused, was done before, or is recorded;
* `exec_settleMeteredSession` — the three parts one after another.
-/

namespace ComputeMesh.Gateway

open ComputeMesh.Text ComputeMesh.Billing ComputeMesh.Protocol Process

/-- Every row stands under its own id. -/
def Keyed (rows : SessionRows) : Prop := ∀ jobId r, rows.get? jobId = some r → r.jobId = jobId

def ConfidentialSessionRecord.closed (r : ConfidentialSessionRecord) (finishedAt : String) : ConfidentialSessionRecord :=
  { r with state := .completed, updatedAt := finishedAt }

theorem Keyed.set {rows : SessionRows} (h : Keyed rows) {jobId : String} {r : ConfidentialSessionRecord}
    (hr : r.jobId = jobId) : Keyed (rows.set jobId r) := by
  intro jobId' r' hget
  rcases Dict.get?_set_eq_some.mp hget with ⟨heq, rfl⟩ | ⟨-, hget⟩
  · rw [heq]
    exact hr
  · exact h jobId' r' hget

namespace Coordinator

variable (c : Coordinator)

/-- **The ledger has the settlement of the session**, and it pays the quote of the stored receipt. -/
def ChargeHeld (l : Ledger) (session : ConfidentialSessionRecord) : Prop :=
  ∃ terms ref, c.settlementTerms session = .ok terms ∧ cleanReservationId session.holdId = .ok ref ∧
    l.HoldsSettlement ref terms.destinations terms.quote.customerChargeMicroUnits

variable {c : Coordinator} {session : ConfidentialSessionRecord} {terms : SettlementTerms}

theorem quote_ok {customerOwnerId providerNodeId : String} {gross : ℤ} {q : OwnerJobQuote}
    (h : c.quote customerOwnerId providerNodeId gross = .ok q) :
    IsQuote (strip customerOwnerId) q ∧ ∀ s ∈ q.providerShares, strip s.ownerId = s.ownerId := by
  unfold Coordinator.quote at h
  split at h
  · cases h
  · rename_i owner howner
    split at h
    · cases h
    · rename_i q' hquote
      cases h
      obtain ⟨hq, -, hshares⟩ := quoteOwnerJob_ok hquote
      refine ⟨hq, fun s hs => ?_⟩
      obtain ⟨share, hshare, hsame⟩ := hshares s hs
      rw [List.mem_singleton] at hshare
      unfold providerOwner at howner
      split at howner
      · cases howner
      · split at howner
        · cases howner
        · cases howner
          rw [hsame, hshare]
          exact strip_strip _

theorem settlementTerms_ok (h : c.settlementTerms session = .ok terms) :
    (session.state = .metered ∨ session.state = .completed) ∧ c.storedReceipt session = .ok terms.receipt ∧
      c.quote session.accountId session.nodeId (calculateTokenChargeMicro session.modelId terms.receipt.promptTokens
        terms.receipt.completionTokens) = .ok terms.quote ∧ quoteDestinations terms.quote = .ok terms.destinations := by
  unfold settlementTerms at h
  split at h
  · cases h
  · rename_i hstate
    have hstate : session.state = .metered ∨ session.state = .completed := by
      by_contra hnot
      exact hstate (not_or.mp hnot)
    split at h
    · cases h
    · rename_i receipt hreceipt
      split at h
      · cases h
      · rename_i quote hquote
        split at h
        · cases h
        · split at h
          · cases h
          · rename_i destinations hdestinations
            cases h
            exact ⟨hstate, hreceipt, hquote, hdestinations⟩

theorem exec_settleEscrow (env : Env) (session : ConfidentialSessionRecord) (terms : SettlementTerms) (s : GatewayState) :
    exec (settleEscrow env session terms) s
      = (match s.ledger.settleConfidentialReservation env session.accountId session.holdId
          terms.quote.customerChargeMicroUnits terms.destinations with
        | (.ok escrow, l) => (.ok escrow, { s with ledger := l })
        | (.error e, l) =>
          (.error (if isBillingError e then .coordinator "confidential financial settlement failed" else .ledger e),
            { s with ledger := l })) := by
  unfold settleEscrow
  exact exec_attempt _ s

/-- **The ledger's part of a settlement** is refused, was done before, or is recorded, whatever the clock says. -/
theorem settleEscrow_cases (hterms : c.settlementTerms session = .ok terms) (s : GatewayState) :
    (∀ env, ∃ e, Process.exec (settleEscrow env session terms) s = (.error e, s)) ∨
      (∃ escrow, c.ChargeHeld s.ledger session ∧
        ∀ env, Process.exec (settleEscrow env session terms) s = (.ok escrow, s)) ∨
      ∃ owner ref allocations, cleanReservationId session.holdId = .ok ref ∧
        s.ledger.transactionForEvent (settleEvent ref) = none ∧
        ∀ env, ∃ tx result,
          IsSettlement owner ref allocations terms.quote.customerChargeMicroUnits terms.destinations tx ∧
          c.ChargeHeld (s.ledger.recorded tx) session ∧
          Process.exec (settleEscrow env session terms) s = (result, { s with ledger := s.ledger.recorded tx }) := by
  obtain ⟨-, -, hquote, hdestinations⟩ := settlementTerms_ok hterms
  obtain ⟨hisQuote, hclean⟩ := quote_ok hquote
  have htotal := quoteDestinations_total hisQuote hdestinations
  rcases s.ledger.settle_outcomes session.accountId session.holdId terms.quote.customerChargeMicroUnits
      terms.destinations with hrefused | ⟨owner, ref, howner, href, ⟨escrow, hheld, hsettle⟩ | ⟨hnew, allocations, hsettle⟩⟩
  · refine .inl fun env => ?_
    obtain ⟨e, he⟩ := hrefused env
    exact ⟨_, by rw [exec_settleEscrow, he]⟩
  · exact .inr (.inl ⟨escrow, ⟨terms, ref, hterms, href, hheld⟩, fun env => by rw [exec_settleEscrow, hsettle]⟩)
  · refine .inr (.inr ⟨owner, ref, allocations, href, hnew, fun env => ?_⟩)
    obtain ⟨tx, result, hsettlement, hresult⟩ := hsettle env
    have hother : ∀ d ∈ terms.destinations, ∀ b, d.accountId ≠ ownerBucketAccount owner b := fun d hd b =>
      quoteDestinations_other hisQuote hclean hdestinations (cleanOwner_ok howner) hd b
    have hheld : (s.ledger.recorded tx).HoldsSettlement ref terms.destinations terms.quote.customerChargeMicroUnits := by
      refine ⟨tx, ?_, ?_⟩
      · rw [Ledger.transactionForEvent_recorded, if_pos hsettlement.event]
      · rw [hsettlement.fields]
        exact creditedTo_settlement hother htotal
    rw [exec_settleEscrow, hresult]
    cases result with
    | ok escrow | error e => exact ⟨tx, _, hsettlement, ⟨terms, ref, hterms, href, hheld⟩, rfl⟩

/-- The state after the end of a settlement: a metered session is completed. -/
def closedState (s : GatewayState) (session : ConfidentialSessionRecord) (finishedAt : String) : GatewayState :=
  if session.state = .metered then
    { s with sessions := s.sessions.set session.jobId (session.closed finishedAt) }
  else s

theorem exec_closeSession {s : GatewayState} (hget : s.sessions.get? session.jobId = some session)
    (terms : SettlementTerms) (clock : SettlementClock) (escrow : ConfidentialCreditSettlement) :
    ∃ settlement, Process.exec (closeSession clock session terms escrow) s
      = (.ok settlement, closedState s session clock.finishedAt) := by
  unfold closeSession closedState
  by_cases hmetered : session.state = .metered
  · have hfinish : finish clock.finishedAt session.jobId .completed s.sessions
        = (.ok (), s.sessions.set session.jobId (session.closed clock.finishedAt)) := by
      unfold finish
      rw [hget]
      exact if_pos (by rw [hmetered]; decide)
    have hclose : exec (finishSession clock.finishedAt session.jobId .completed) s
        = (.ok (session.closed clock.finishedAt),
          { s with sessions := s.sessions.set session.jobId (session.closed clock.finishedAt) }) := by
      unfold finishSession onSessions
      rw [exec_bind, exec_attempt, hfinish]
      unfold readBack getSession onSessions
      dsimp only
      rw [exec_bind, exec_attempt, Dict.get?_set_self]
      rfl
    rw [if_pos hmetered, if_pos hmetered]
    exact ⟨_, exec_bind_ok hclose⟩
  · rw [if_neg hmetered, if_neg hmetered]
    exact ⟨_, rfl⟩

theorem exec_settleMeteredSession (clock : SettlementClock) (jobId : String) (s : GatewayState) :
    exec (c.settleMeteredSession clock jobId) s
      = exec (match s.sessions.get? jobId with
        | none => throw (.coordinator "confidential session is not metered")
        | some session =>
          match c.settlementTerms session with
          | .error e => throw e
          | .ok terms => do
            let escrow ← settleEscrow clock.env session terms
            closeSession clock session terms escrow : GatewayProcess ConfidentialSettlement) s :=
  exec_bind_ok rfl

/-- **A settlement that nothing disturbs**: it is refused for good, finds the charge in the ledger, or records it. -/
theorem settle_cases {s : GatewayState} (hkeyed : Keyed s.sessions) (jobId : String) :
    (∀ clock, ∃ e, Process.exec (c.settleMeteredSession clock jobId) s = (.error e, s)) ∨
      ∃ r, s.sessions.get? jobId = some r ∧
        ((c.ChargeHeld s.ledger r ∧ ∀ clock, ∃ settlement, Process.exec (c.settleMeteredSession clock jobId) s
            = (.ok settlement, closedState s r clock.finishedAt)) ∨
          ∃ ref, cleanReservationId r.holdId = .ok ref ∧ s.ledger.transactionForEvent (settleEvent ref) = none ∧
            ∀ clock, ∃ tx, tx.eventId = settleEvent ref ∧ c.ChargeHeld (s.ledger.recorded tx) r ∧
              ((∃ e, Process.exec (c.settleMeteredSession clock jobId) s
                  = (.error e, { s with ledger := s.ledger.recorded tx })) ∨
                ∃ settlement, Process.exec (c.settleMeteredSession clock jobId) s
                  = (.ok settlement, closedState { s with ledger := s.ledger.recorded tx } r clock.finishedAt))) := by
  cases hget : s.sessions.get? jobId with
  | none => exact .inl fun clock => ⟨_, by rw [exec_settleMeteredSession, hget]; rfl⟩
  | some r =>
    have hjob : r.jobId = jobId := hkeyed jobId r hget
    cases hterms : c.settlementTerms r with
    | error e => exact .inl fun clock => ⟨e, by rw [exec_settleMeteredSession, hget]; dsimp only; rw [hterms]; rfl⟩
    | ok terms =>
      have hrun : ∀ clock, exec (c.settleMeteredSession clock jobId) s
          = exec (settleEscrow clock.env r terms >>= closeSession clock r terms) s := by
        intro clock
        rw [exec_settleMeteredSession, hget]
        dsimp only
        rw [hterms]
      rcases settleEscrow_cases hterms s with hrefused | ⟨escrow, hheld, hdone⟩ | ⟨_, ref, _, href, hnew, hrecord⟩
      · refine .inl fun clock => ?_
        obtain ⟨e, he⟩ := hrefused clock.env
        exact ⟨e, (hrun clock).trans (exec_bind_error he)⟩
      · refine .inr ⟨r, rfl, .inl ⟨hheld, fun clock => ?_⟩⟩
        obtain ⟨settlement, hclose⟩ := exec_closeSession (hjob ▸ hget) terms clock escrow
        exact ⟨settlement, (hrun clock).trans ((exec_bind_ok (hdone clock.env)).trans hclose)⟩
      · refine .inr ⟨r, rfl, .inr ⟨ref, href, hnew, fun clock => ?_⟩⟩
        obtain ⟨tx, result, hsettlement, hheld, hresult⟩ := hrecord clock.env
        refine ⟨tx, hsettlement.event, hheld, ?_⟩
        cases result with
        | error e => exact .inl ⟨e, (hrun clock).trans (exec_bind_error hresult)⟩
        | ok escrow =>
          have hget' : ({ s with ledger := s.ledger.recorded tx } : GatewayState).sessions.get? r.jobId = some r :=
            hjob ▸ hget
          obtain ⟨settlement, hclose⟩ := exec_closeSession hget' terms clock escrow
          exact .inr ⟨settlement, (hrun clock).trans ((exec_bind_ok hresult).trans hclose)⟩

end Coordinator

/-! ### A small gateway -/

/-- The noon of some day. -/
def noon : UtcTime := ⟨63000000000000000, by decide, by decide⟩

def byUpdatedAt (a b : ConfidentialSessionRecord) : Prop := a.updatedAt ≤ b.updatedAt

instance : DecidableRel byUpdatedAt := fun a b => inferInstanceAs (Decidable (a.updatedAt ≤ b.updatedAt))

instance : Std.Total byUpdatedAt := ⟨fun a b => String.le_total a.updatedAt b.updatedAt⟩

instance : IsTrans ConfidentialSessionRecord byUpdatedAt := ⟨fun _ _ _ => String.le_trans⟩

/-- A library to which every time is noon and every signature is good. -/
def sampleSessionLibrary : SessionLibrary where
  fromisoformat _ := some (.aware noon.aware)
  urlsafeB64decode text := some (List.replicate (if text = "key=" then 32 else 64) 0)
  ed25519Verifies _ _ _ := true
  utcIso _ := "2000-01-01T12:00:00Z"
  orderByUpdatedAt rows := rows.insertionSort byUpdatedAt
  order_perm rows := List.perm_insertionSort byUpdatedAt rows
  order_sorted rows := List.pairwise_insertionSort byUpdatedAt rows

/-- A coordinator whose nodes all belong to Bob. -/
def sampleCoordinator : Coordinator where
  lib := sampleSessionLibrary
  providerOwnerResolver _ := .ok (some "bob")
  marketplaceFeeBps := 2500
  selfComputeFeeBps := 1000
  marketplaceFee_range := by decide
  selfComputeFee_range := by decide

def sampleReceipt (jobId : String) (tokens : ℤ) : ConfidentialUsageReceipt where
  schemaVersion := 1
  receiptId := "00112233445566778899aabbccddeeff"
  accountId := "alice"
  jobId := jobId
  requestEnvelopeId := "00112233445566778899aabbccddeef0"
  responseId := "00112233445566778899aabbccddeef1"
  nodeId := "node-1"
  runtimeDigest := "digest"
  privacyClass := "CONFIDENTIAL"
  operation := "chat_completion"
  modelId := "qwen/qwen2.5-7b-instruct"
  promptTokens := tokens
  completionTokens := tokens
  finishedAt := "2000-01-01T11:00:00Z"
  signature := "signature"

/-- A job of Alice that was metered at some time. -/
def sampleSession (jobId : String) (tokens : ℤ) (updatedAt : String) : ConfidentialSessionRecord where
  jobId := jobId
  accountId := "alice"
  modelId := "qwen/qwen2.5-7b-instruct"
  privacyClass := "CONFIDENTIAL"
  operation := "chat_completion"
  maxPromptTokens := 1000
  maxCompletionTokens := 1000
  holdId := jobId
  nodeId := "node-1"
  runtimeDigest := "digest"
  meteringPublicKey := "key"
  expiresAt := "2000-01-01T12:00:00Z"
  state := .metered
  envelopeId := some "00112233445566778899aabbccddeef0"
  usageReceipt := some (sampleReceipt jobId tokens)
  updatedAt := updatedAt

/-- Alice's ledger, with a reservation for each of two jobs. -/
def sampleLedger : Ledger :=
  let l := (Ledger.fresh .payoutCapableConfidential 2500 "" none).depositOwnerPurchasedCredits (Env.atTime 0) "alice" 10 "p1"
  let l := l.2.reserveConfidentialCredits (Env.atTime 1) "alice" "job-1" 5
  (l.2.reserveConfidentialCredits (Env.atTime 1) "alice" "job-2" 5).2

end ComputeMesh.Gateway
