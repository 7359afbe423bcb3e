import ComputeMesh.Platform.SessionMoves

/-!
# Approvals over a run

The approvals of a store with what has happened to them so far: the decisions to approve that returned, and the uses.

* `ExactStep` — what a call is to do: an approval is used once, after a decision by someone entitled before its expiry,
  and for the request it was made for; a request gets an approval of its own; a late decision expires the approval;
* `resolveApproval_cases`, `consumeApproval_cases`, `createApproval_cases` — what the three calls do when they return;
* `Backed` — the invariant: an approval that is approved or used has its decision in the history;
* `approvals_exact_iff` — **exactly when** every call of a run is exact;
* `late_and_shared_approvals` — a late decision is rolled back, and a pending approval is handed to another principal.
-/

namespace ComputeMesh.Platform

open Text

variable {approvalId : String} {row : Approval}

namespace AgentSessionStore

variable {s s' : AgentSessionStore}

/-! ### What the calls do when they return -/

theorem requireApproval_eq_ok_iff :
    s.requireApproval approvalId = .ok row ↔ s.approvals.get? approvalId = some row := by
  rw [requireApproval]
  cases s.approvals.get? approvalId with
  | none => simp
  | some row => simp

theorem eq_of_compareDigest {a b : String} (h : compareDigest a b = .ok true) : a = b := by
  rw [compareDigest] at h
  split at h
  · exact of_decide_eq_true (Except.ok.inj h)
  · cases h

def Entitled (row : Approval) (principalId : Option String) (isAdmin : Bool) : Prop :=
  isAdmin = true ∨ principalId = some row.principalId

theorem entitled_of_authorizeDecision {principalId : Option String} {isAdmin : Bool}
    (h : authorizeDecision row principalId isAdmin = .ok ()) : Entitled row principalId isAdmin := by
  cases isAdmin with
  | true => exact .inl rfl
  | false =>
    cases principalId with
    | none => cases h
    | some caller =>
      obtain ⟨-, h⟩ := ite_error_eq_ok_iff.mp h
      obtain ⟨same, hsame, h⟩ := bind_eq_ok_iff.mp h
      cases same with
      | true => exact .inr (congrArg some (eq_of_compareDigest hsame).symm)
      | false => cases h

theorem resolveApproval_cases {reason : String} {principalId : Option String} {decision : ApprovalStatus}
    {isAdmin : Bool} {now : ℚ} {r : Approval × AgentSessionStore}
    (h : s.resolveApproval approvalId principalId decision reason isAdmin now = .ok r) :
    decision ∈ [ApprovalStatus.approved, .rejected] ∧ ∃ row, s.approvals.get? approvalId = some row ∧
      Entitled row principalId isAdmin ∧ row.status = .pending ∧ now < row.expiresAt ∧
      r.2.approvals = s.approvals.set approvalId (resolvedApproval row decision now (firstChars 512 reason)) := by
  obtain ⟨hdecision, h⟩ := ite_error_eq_ok_iff.mp h
  obtain ⟨row, hrow, h⟩ := bind_eq_ok_iff.mp h
  obtain ⟨_, hauthorized, h⟩ := bind_eq_ok_iff.mp h
  obtain ⟨hpending, h⟩ := ite_error_eq_ok_iff.mp h
  obtain ⟨hlate, h⟩ := ite_error_eq_ok_iff.mp h
  obtain rfl := Except.ok.inj h
  exact ⟨not_not.mp hdecision, row, requireApproval_eq_ok_iff.mp hrow, entitled_of_authorizeDecision hauthorized,
    not_not.mp hpending, not_le.mp hlate, rfl⟩

/-- The request names what the approval was made for. -/
structure Matches (a : ConsumeRequest) (row : Approval) : Prop where
  sessionId : row.sessionId = a.sessionId
  turnId : ∀ turnId ∈ a.turnId, row.turnId = some turnId
  toolId : row.toolId = a.toolId
  argumentsDigest : row.argumentsDigest = a.argumentsDigest

theorem consumeApproval_cases (hturns : s.turns.get? "" = none) {a : ConsumeRequest} {r : Approval × AgentSessionStore}
    (h : s.consumeApproval a = .ok r) : ∃ row, s.approvals.get? a.approvalId = some row ∧ Matches a row ∧
      row.status = .approved ∧ r.2.approvals = s.approvals.set a.approvalId { row with status := .consumed } := by
  obtain ⟨row, hrow, h⟩ := bind_eq_ok_iff.mp h
  obtain ⟨hsession, h⟩ := ite_error_eq_ok_iff.mp h
  obtain ⟨hturn, h⟩ := ite_error_eq_ok_iff.mp h
  obtain ⟨htool, h⟩ := ite_error_eq_ok_iff.mp h
  obtain ⟨same, hsame, h⟩ := bind_eq_ok_iff.mp h
  obtain ⟨hdigest, h⟩ := ite_error_eq_ok_iff.mp h
  obtain ⟨hstatus, h⟩ := ite_error_eq_ok_iff.mp h
  obtain ⟨hkey, h⟩ := ite_error_eq_ok_iff.mp h
  obtain rfl := Except.ok.inj h
  refine ⟨row, requireApproval_eq_ok_iff.mp hrow, ⟨not_not.mp hsession, fun turnId hmem => ?_, not_not.mp htool, ?_⟩,
    not_not.mp hstatus, rfl⟩
  · -- the foreign key rules the empty id out, which the comparison lets pass for an approval without a turn
    have hthere : s.turns.contains turnId = true := by
      by_contra hmissing
      exact hkey ⟨turnId, hmem, hmissing⟩
    have hne : turnId ≠ "" := by
      rintro rfl
      rw [Dict.contains, hturns] at hthere
      cases hthere
    have heq : row.turnId.getD "" = turnId := by
      by_contra hdiffers
      exact hturn ⟨by rw [hmem]; rfl, by rw [hmem]; exact hdiffers⟩
    cases hrowturn : row.turnId with
    | none =>
      rw [hrowturn] at heq
      exact absurd heq.symm hne
    | some id =>
      rw [hrowturn] at heq
      exact congrArg some heq
  · obtain rfl : same = true := by simpa using hdigest
    exact eq_of_compareDigest hsame

/-- The request passes all checks that come before the search for a duplicate. -/
def Requestable (s : AgentSessionStore) (a : ApprovalRequest) : Prop :=
  checkApproval a = .ok () ∧ (∃ session, s.sessions.get? a.sessionId = some session) ∧
    s.checkApprovalTurn a.sessionId a.turnId = .ok ()

theorem createApproval_cases {a : ApprovalRequest} {requestedAt checkedAt createdAt : ℚ}
    {r : (String × Approval) × AgentSessionStore}
    (h : s.createApproval a requestedAt checkedAt createdAt = .ok r) : Requestable s a ∧
      (s.pendingDuplicate a checkedAt = some r.1 ∧ r.2 = s ∨
        s.approvals.get? a.approvalId = none ∧ r.1 = (a.approvalId, requestedApproval a requestedAt createdAt) ∧
          r.2.approvals = s.approvals.set a.approvalId (requestedApproval a requestedAt createdAt)) := by
  obtain ⟨_, hcheck, h⟩ := bind_eq_ok_iff.mp h
  obtain ⟨session, hsession, h⟩ := bind_eq_ok_iff.mp h
  obtain ⟨_, hturn, h⟩ := bind_eq_ok_iff.mp h
  refine ⟨⟨hcheck, ⟨session, requireSession_eq_ok_iff.mp hsession⟩, hturn⟩, ?_⟩
  cases hduplicate : s.pendingDuplicate a checkedAt with
  | some e =>
    rw [hduplicate] at h
    obtain rfl := Except.ok.inj h
    exact .inl ⟨rfl, rfl⟩
  | none =>
    rw [hduplicate] at h
    obtain ⟨hfree, h⟩ := ite_error_eq_ok_iff.mp h
    obtain rfl := Except.ok.inj h
    have hnone : s.approvals.get? a.approvalId = none := by
      rw [Dict.contains, Option.isSome_iff_ne_none] at hfree
      exact not_not.mp hfree
    exact .inr ⟨hnone, rfl, rfl⟩

theorem createApproval_of_duplicate {a : ApprovalRequest} {requestedAt checkedAt createdAt : ℚ}
    {e : String × Approval} (hrequest : Requestable s a) (hduplicate : s.pendingDuplicate a checkedAt = some e) :
    s.createApproval a requestedAt checkedAt createdAt = .ok (e, s) := by
  obtain ⟨hcheck, ⟨session, hsession⟩, hturn⟩ := hrequest
  rw [createApproval, hcheck, ok_bind, requireSession_eq_ok_iff.mpr hsession, ok_bind, hturn, ok_bind, hduplicate]

theorem isDuplicate_of_pendingDuplicate {a : ApprovalRequest} {checkedAt : ℚ} {e : String × Approval}
    (h : s.pendingDuplicate a checkedAt = some e) :
    s.approvals.get? e.1 = some e.2 ∧ isDuplicate a checkedAt e.2 = true := by
  have hmem := (List.mem_insertionSort _).mp (List.mem_of_mem_head? h)
  obtain ⟨hentry, hduplicate⟩ := List.mem_filter.mp hmem
  exact ⟨(s.approvals.mem_entries_iff e.1 e.2).mp hentry, hduplicate⟩

end AgentSessionStore

open AgentSessionStore

/-! ### Histories -/

/-- A decision to approve, or a use. -/
inductive ApprovalEntry
  | approved (approvalId : String) (principalId : Option String) (isAdmin : Bool) (now : ℚ)
  | consumed (a : ConsumeRequest)

/-- A store with what has happened to its approvals. -/
structure ApprovalHistory where
  store : AgentSessionStore
  log : List ApprovalEntry

/-- What a call adds to the history. -/
def StoreOp.logged (s : AgentSessionStore) : StoreOp → List ApprovalEntry
  | resolveApproval approvalId principalId decision reason isAdmin now =>
    if decision = .approved ∧ (s.resolveApproval approvalId principalId decision reason isAdmin now).isOk then
      [.approved approvalId principalId isAdmin now]
    else []
  | consumeApproval a => if (s.consumeApproval a).isOk then [.consumed a] else []
  | _ => []

namespace ApprovalHistory

def start : ApprovalHistory := ⟨.empty, []⟩

def next (h : ApprovalHistory) (op : StoreOp) : ApprovalHistory := ⟨op.run h.store, h.log ++ op.logged h.store⟩

/-- The history has a decision to approve, made before the expiry and by someone entitled. -/
def Approved (h : ApprovalHistory) (approvalId : String) (row : Approval) : Prop :=
  ∃ principalId isAdmin now, .approved approvalId principalId isAdmin now ∈ h.log ∧ now < row.expiresAt ∧
    Entitled row principalId isAdmin

/-- How often the expiry of an approval has been recorded. -/
def expiredEvents (s : AgentSessionStore) (approvalId : String) : ℕ :=
  (s.events.filter fun e => e.eventType == "approval.expired" && e.approvalId == some approvalId).length

/-- A decision on a pending approval comes at or after its expiry, from someone whom the store accepts. -/
def DecidedLate (s : AgentSessionStore) : StoreOp → Prop
  | .resolveApproval approvalId principalId decision _ isAdmin now =>
    decision ∈ [ApprovalStatus.approved, .rejected] ∧ ∃ row, s.approvals.get? approvalId = some row ∧
      authorizeDecision row principalId isAdmin = .ok () ∧ row.status = .pending ∧ row.expiresAt ≤ now
  | _ => False

/-- A call does with the approvals what it should. -/
structure ExactStep (h : ApprovalHistory) (op : StoreOp) : Prop where
  once : ∀ a, .consumed a ∈ op.logged h.store → ∀ a', .consumed a' ∈ h.log → a'.approvalId ≠ a.approvalId
  backed : ∀ a, .consumed a ∈ op.logged h.store → ∃ row, h.store.approvals.get? a.approvalId = some row ∧
    Matches a row ∧ h.Approved a.approvalId row
  requested : ∀ a requestedAt checkedAt createdAt e s', op = .createApproval a requestedAt checkedAt createdAt →
    h.store.createApproval a requestedAt checkedAt createdAt = .ok (e, s') →
    e.2.sessionId = a.sessionId ∧ e.2.principalId = strip a.principalId ∧ e.2.turnId = a.turnId ∧
      e.2.toolId = strip a.toolId ∧ e.2.callId = strip a.callId ∧ e.2.argumentsDigest = strip a.argumentsDigest
  expired : ∀ approvalId principalId decision reason isAdmin now,
    op = .resolveApproval approvalId principalId decision reason isAdmin now → DecidedLate h.store op →
    ∃ row, (op.run h.store).approvals.get? approvalId = some row ∧ row.status = .expired ∧
      expiredEvents (op.run h.store) approvalId = 1

/-- No decision comes late, and a request that repeats a pending approval repeats one of its own principal and turn. -/
def Orderly (h : ApprovalHistory) (op : StoreOp) : Prop :=
  ¬DecidedLate h.store op ∧ ∀ a requestedAt checkedAt createdAt,
    op = .createApproval a requestedAt checkedAt createdAt → Requestable h.store a →
    ∀ e ∈ h.store.pendingDuplicate a checkedAt, e.2.principalId = strip a.principalId ∧ e.2.turnId = a.turnId

/-! ### The invariant -/

/-- Every approval that is approved or used has its decision in the history, and every use its approval. -/
structure Backed (h : ApprovalHistory) : Prop where
  unnamed : h.store.turns.get? "" = none
  approved : ∀ approvalId row, h.store.approvals.get? approvalId = some row →
    row.status ∈ [ApprovalStatus.approved, .consumed] → h.Approved approvalId row
  consumed : ∀ a, .consumed a ∈ h.log → ∃ row, h.store.approvals.get? a.approvalId = some row ∧ row.status = .consumed

theorem backed_start : Backed start := by
  refine ⟨rfl, fun approvalId row hget => ?_, fun a ha => ?_⟩
  · cases hget
  · cases ha

variable {h : ApprovalHistory}

theorem Approved.next (happroved : h.Approved approvalId row)
    (op : StoreOp) : (h.next op).Approved approvalId row := by
  obtain ⟨principalId, isAdmin, now, hmem, hrest⟩ := happroved
  exact ⟨principalId, isAdmin, now, List.mem_append_left _ hmem, hrest⟩

theorem unnamed_run {s : AgentSessionStore} (hs : s.turns.get? "" = none) (op : StoreOp) :
    (op.run s).turns.get? "" = none := by
  cases hget : (op.run s).turns.get? "" with
  | none => rfl
  | some row =>
    rcases (movedTurns_run s op).turns "" row hget with ⟨turn, hturn, -⟩ | ⟨hne, -⟩
    · rw [hs] at hturn
      cases hturn
    · exact absurd rfl hne

variable {op : StoreOp}

theorem Backed.quiet (hb : Backed h)
    (happrovals : (op.run h.store).approvals = h.store.approvals) (hlogged : op.logged h.store = []) :
    Backed (h.next op) := by
  have hlog : (h.next op).log = h.log := by rw [ApprovalHistory.next, hlogged, List.append_nil]
  refine ⟨unnamed_run hb.unnamed op, fun approvalId row hget hstatus => ?_, fun a ha => ?_⟩
  · rw [ApprovalHistory.next, happrovals] at hget
    exact (hb.approved approvalId row hget hstatus).next op
  · rw [hlog] at ha
    rw [ApprovalHistory.next, happrovals]
    exact hb.consumed a ha

theorem Backed.stored (hb : Backed h) (happrovals : (op.run h.store).approvals = h.store.approvals.set approvalId row)
    (hbefore : ∀ row, h.store.approvals.get? approvalId = some row → row.status ≠ .consumed)
    (happroved : row.status ∈ [ApprovalStatus.approved, .consumed] → (h.next op).Approved approvalId row)
    (hlogged : ∀ a, .consumed a ∈ op.logged h.store → a.approvalId = approvalId ∧ row.status = .consumed) :
    Backed (h.next op) := by
  refine ⟨unnamed_run hb.unnamed op, fun approvalId' row' hget hstatus => ?_, fun a ha => ?_⟩
  · rw [ApprovalHistory.next, happrovals] at hget
    rcases Dict.get?_set_eq_some.mp hget with ⟨heq, rfl⟩ | ⟨-, hget⟩
    · subst heq
      exact happroved hstatus
    · exact (hb.approved approvalId' row' hget hstatus).next op
  · rw [ApprovalHistory.next, happrovals]
    rcases List.mem_append.mp ha with hold | hnew
    · obtain ⟨row', hget, hstatus⟩ := hb.consumed a hold
      have hne : a.approvalId ≠ approvalId := fun heq => hbefore row' (heq ▸ hget) hstatus
      exact ⟨row', by rw [Dict.get?_set_of_ne _ hne, hget], hstatus⟩
    · obtain ⟨rfl, hstatus⟩ := hlogged a hnew
      exact ⟨row, Dict.get?_set_self _ _ _, hstatus⟩

/-- **The step lemma.** -/
theorem Backed.next (hb : Backed h) (op : StoreOp) : Backed (h.next op) := by
  cases hop : op.DecidesApproval with
  | false =>
    refine hb.quiet (movedBy_run h.store hop).approvals ?_
    cases op <;> first | rfl | cases hop
  | true =>
    cases op with
    | createApproval a requestedAt checkedAt createdAt =>
      cases hcall : h.store.createApproval a requestedAt checkedAt createdAt with
      | error e => exact hb.quiet (by rw [StoreOp.run, hcall, committed_error]) rfl
      | ok r =>
        have hrun : (StoreOp.createApproval a requestedAt checkedAt createdAt).run h.store = r.2 := by
          rw [StoreOp.run, hcall]
          rfl
        obtain ⟨-, ⟨-, hsame⟩ | ⟨hnone, -, happrovals⟩⟩ := createApproval_cases hcall
        · exact hb.quiet (by rw [hrun, hsame]) rfl
        · refine hb.stored (hrun ▸ happrovals) (fun row hget => ?_) (fun hstatus => ?_) (fun a' ha' => by cases ha')
          · rw [hnone] at hget
            cases hget
          · exact absurd hstatus (by simp [requestedApproval])
    | resolveApproval approvalId principalId decision reason isAdmin now =>
      cases hcall : h.store.resolveApproval approvalId principalId decision reason isAdmin now with
      | error e =>
        refine hb.quiet (by rw [StoreOp.run, hcall, committed_error]) ?_
        rw [StoreOp.logged, hcall, if_neg fun hand => absurd hand.2 Bool.false_ne_true]
      | ok r =>
        have hrun : (StoreOp.resolveApproval approvalId principalId decision reason isAdmin now).run h.store = r.2 := by
          rw [StoreOp.run, hcall]
          rfl
        obtain ⟨hdecision, row, hget, hentitled, hpending, hnow, happrovals⟩ := resolveApproval_cases hcall
        refine hb.stored (hrun ▸ happrovals) (fun row' hget' => ?_) (fun hstatus => ?_) (fun a ha => ?_)
        · obtain rfl := Option.some.inj (hget.symm.trans hget')
          rw [hpending]
          decide
        · have happroved : decision = .approved := by
            have hall : ∀ d ∈ [ApprovalStatus.approved, .rejected], d ∈ [ApprovalStatus.approved, .consumed] →
                d = .approved := by decide
            exact hall decision hdecision hstatus
          refine ⟨principalId, isAdmin, now, List.mem_append_right _ ?_, hnow, hentitled⟩
          rw [StoreOp.logged, hcall, if_pos ⟨happroved, rfl⟩]
          exact List.mem_singleton_self _
        · rw [StoreOp.logged] at ha
          split at ha
          · simp at ha
          · cases ha
    | consumeApproval a =>
      cases hcall : h.store.consumeApproval a with
      | error e =>
        refine hb.quiet (by rw [StoreOp.run, hcall, committed_error]) ?_
        rw [StoreOp.logged, hcall]
        rfl
      | ok r =>
        have hrun : (StoreOp.consumeApproval a).run h.store = r.2 := by
          rw [StoreOp.run, hcall]
          rfl
        obtain ⟨row, hget, -, hstatus, happrovals⟩ := consumeApproval_cases hb.unnamed hcall
        refine hb.stored (hrun ▸ happrovals) (fun row' hget' => ?_) (fun _ => ?_) (fun a' ha' => ?_)
        · obtain rfl := Option.some.inj (hget.symm.trans hget')
          rw [hstatus]
          decide
        · exact (hb.approved a.approvalId row hget (by rw [hstatus]; decide)).next (.consumeApproval a)
        · rw [StoreOp.logged, hcall] at ha'
          obtain ⟨-, rfl⟩ : _ ∧ a' = a := by simpa using ha'
          exact ⟨rfl, rfl⟩
    | _ => cases hop

/-! ### Exact runs -/

theorem consumed_of_logged {s : AgentSessionStore} {a : ConsumeRequest}
    (h : .consumed a ∈ op.logged s) : op = .consumeApproval a ∧ ∃ r, s.consumeApproval a = .ok r := by
  cases op with
  | consumeApproval a' =>
    rw [StoreOp.logged] at h
    cases hcall : s.consumeApproval a' with
    | error e =>
      rw [hcall] at h
      cases h
    | ok r =>
      rw [hcall] at h
      obtain ⟨-, rfl⟩ : _ ∧ a = a' := by simpa using h
      exact ⟨rfl, r, hcall⟩
  | resolveApproval approvalId principalId decision reason isAdmin now =>
    rw [StoreOp.logged] at h
    split at h
    · simp at h
    · cases h
  | _ => cases h

theorem resolve_of_decidedLate {s : AgentSessionStore} (h : DecidedLate s op) : op.run s = s := by
  cases op with
  | resolveApproval approvalId principalId decision reason isAdmin now =>
    obtain ⟨hdecision, row, hget, hauthorized, hpending, hlate⟩ := h
    rw [StoreOp.run, resolveApproval, if_neg (not_not.mpr hdecision), requireApproval_eq_ok_iff.mpr hget, ok_bind,
      hauthorized, ok_bind, if_neg (not_not.mpr hpending), if_pos hlate, committed_error]
  | _ => exact h.elim

theorem orderly_of_exactStep (hexact : ExactStep h op) : Orderly h op := by
  refine ⟨fun hlate => ?_, ?_⟩
  · have hsame := resolve_of_decidedLate hlate
    cases op with
    | resolveApproval approvalId principalId decision reason isAdmin now =>
      obtain ⟨row, hget, hexpired, -⟩ := hexact.expired _ _ _ _ _ _ rfl hlate
      obtain ⟨-, row', hget', -, hpending, -⟩ := hlate
      rw [hsame, hget'] at hget
      obtain rfl := Option.some.inj hget
      rw [hpending] at hexpired
      cases hexpired
    | _ => exact hlate.elim
  · rintro a requestedAt checkedAt createdAt rfl hrequest e hduplicate
    have hcall := (@createApproval_of_duplicate _ _ requestedAt _ createdAt) hrequest hduplicate
    obtain ⟨-, hprincipal, hturn, -⟩ := hexact.requested a requestedAt checkedAt createdAt e h.store rfl hcall
    exact ⟨hprincipal, hturn⟩

theorem exactStep_of_orderly (hb : Backed h) (horderly : Orderly h op) : ExactStep h op := by
  refine ⟨fun a ha a' ha' heq => ?_, fun a ha => ?_, ?_, fun _ _ _ _ _ _ _ hlate => absurd hlate horderly.1⟩
  · obtain ⟨-, r, hcall⟩ := consumed_of_logged ha
    obtain ⟨row, hget, -, hstatus, -⟩ := consumeApproval_cases hb.unnamed hcall
    obtain ⟨row', hget', hconsumed⟩ := hb.consumed a' ha'
    rw [heq, hget] at hget'
    obtain rfl := Option.some.inj hget'
    rw [hstatus] at hconsumed
    cases hconsumed
  · obtain ⟨-, r, hcall⟩ := consumed_of_logged ha
    obtain ⟨row, hget, hmatches, hstatus, -⟩ := consumeApproval_cases hb.unnamed hcall
    exact ⟨row, hget, hmatches, hb.approved a.approvalId row hget (by rw [hstatus]; decide)⟩
  · rintro a requestedAt checkedAt createdAt e s' rfl hcall
    obtain ⟨hrequest, ⟨hduplicate, -⟩ | ⟨-, rfl, -⟩⟩ := createApproval_cases hcall
    · obtain ⟨hprincipal, hturn⟩ := horderly.2 a requestedAt checkedAt createdAt rfl hrequest e hduplicate
      obtain ⟨-, hsame⟩ := isDuplicate_of_pendingDuplicate hduplicate
      simp only [isDuplicate, Bool.and_eq_true, beq_iff_eq] at hsame
      obtain ⟨⟨⟨⟨⟨hsession, htool⟩, hcallId⟩, hdigest⟩, -⟩, -⟩ := hsame
      exact ⟨hsession, hprincipal, hturn, htool, hcallId, hdigest⟩
    · exact ⟨rfl, rfl, rfl, rfl, rfl, rfl⟩

/-- **Exact runs.**  Every call of a run on a new database does with the approvals what it should if and only if no
decision on a pending approval comes at or after its expiry, and no request finds a pending duplicate of another principal
or turn. -/
theorem approvals_exact_iff (ops : List StoreOp) :
    Run.Along ApprovalHistory.next ExactStep start ops ↔ Run.Along ApprovalHistory.next Orderly start ops :=
  Run.along_iff_along Backed (fun _ op hb _ _ => hb.next op)
    (fun _ _ hb _ => ⟨orderly_of_exactStep, exactStep_of_orderly hb⟩) backed_start (fun _ _ => trivial)

def someDigest : String := "0123456789abcdef0123456789abcdef0123456789abcdef0123456789abcdef"

def someRequest (principalId approvalId : String) : ApprovalRequest :=
  { sessionId := "s", turnId := none, toolId := "tool", callId := "call", argumentsDigest := someDigest, principalId,
    approvalId }

/-- A decision that comes when the approval expires leaves it pending; and a second principal's request is answered with
the first one's approval. -/
theorem late_and_shared_approvals : ¬Run.Along ApprovalHistory.next ExactStep start [.createSession "s" "p",
      .createApproval (someRequest "p" "a") 0 0 0, .resolveApproval "a" (some "p") .approved "" false 300] ∧
    ¬Run.Along ApprovalHistory.next ExactStep start [.createSession "s" "p",
      .createApproval (someRequest "p" "a") 0 0 0, .createApproval (someRequest "q" "b") 1 1 1] := by
  constructor
  · rintro ⟨-, -, hexact, -⟩
    obtain ⟨row, hget, hstatus, -⟩ := hexact.expired "a" (some "p") .approved "" false 300 rfl
      ⟨by decide, requestedApproval (someRequest "p" "a") 0 0, by decide +kernel, by decide, rfl,
        by decide +kernel⟩
    have hafter : (reached [.createSession "s" "p", .createApproval (someRequest "p" "a") 0 0 0,
        .resolveApproval "a" (some "p") .approved "" false 300]).approvals.get? "a" = some row := hget
    have hpending : ((reached [.createSession "s" "p", .createApproval (someRequest "p" "a") 0 0 0,
        .resolveApproval "a" (some "p") .approved "" false 300]).approvals.get? "a").map Approval.status =
          some .pending := by decide +kernel
    rw [hafter, Option.map_some, hstatus] at hpending
    exact absurd hpending (by decide)
  · rintro ⟨-, -, hexact, -⟩
    have hcall : ((reached [.createSession "s" "p", .createApproval (someRequest "p" "a") 0 0 0]).createApproval
        (someRequest "q" "b") 1 1 1).toOption.map (fun r => r.1.2.principalId) = some "p" := by decide +kernel
    cases hresult : (reached [.createSession "s" "p", .createApproval (someRequest "p" "a") 0 0 0]).createApproval
        (someRequest "q" "b") 1 1 1 with
    | error e =>
      rw [hresult] at hcall
      cases hcall
    | ok r =>
      obtain ⟨-, hprincipal, -⟩ := hexact.requested (someRequest "q" "b") 1 1 1 r.1 r.2 rfl hresult
      rw [hresult] at hcall
      have hp : r.1.2.principalId = "p" := Option.some.inj hcall
      exact absurd (hp.symm.trans hprincipal) (by decide)

end ApprovalHistory

end ComputeMesh.Platform
