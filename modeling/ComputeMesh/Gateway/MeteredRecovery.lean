import ComputeMesh.Gateway.SessionSettlement

/-!
# The recovery of metered sessions

`reconcile_metered` called again and again.  A settlement that fails ends the call, and the next call meets the same
session first: the recovery makes progress up to the first session that cannot be settled.

* `workLeft` — what the recovery still has to do; a call that meets a session it can settle has less left;
* `Tracked` — a session that was metered is as it was, or completed with its charge in the ledger;
* `recovery_runs_to_the_first_failure` — **the recovery ends with every session completed, or at one that cannot be
  settled.**
-/

namespace ComputeMesh.Gateway

open ComputeMesh.Text ComputeMesh.Billing ComputeMesh.Protocol Process

namespace Coordinator

variable (c : Coordinator)

/-! ### What is left to do -/

def hasSettlement (l : Ledger) (r : ConfidentialSessionRecord) : Bool :=
  match cleanReservationId r.holdId with
  | .error _ => false
  | .ok ref => (l.transactionForEvent (settleEvent ref)).isSome

/-- What is left of a session: its settlement and its end. -/
def workOf (l : Ledger) (r : ConfidentialSessionRecord) : ℤ :=
  if r.state = .metered then (if hasSettlement l r then 1 else 2) else 0

/-- **What the recovery still has to do.** -/
def workLeft (s : GatewayState) : ℤ := s.sessions.sumBy (workOf s.ledger)

theorem workOf_nonneg (l : Ledger) (r : ConfidentialSessionRecord) : 0 ≤ workOf l r := by
  unfold workOf
  split
  · split <;> decide
  · exact le_refl 0

variable {r : ConfidentialSessionRecord}

theorem workOf_pos (l : Ledger) (h : r.state = .metered) : 0 < workOf l r := by
  unfold workOf
  rw [if_pos h]
  split <;> decide

theorem workLeft_nonneg (s : GatewayState) : 0 ≤ workLeft s := by
  refine List.sum_nonneg fun x hx => ?_
  obtain ⟨r, -, rfl⟩ := List.mem_map.mp hx
  exact workOf_nonneg s.ledger r

theorem hasSettlement_recorded {l : Ledger} (h : hasSettlement l r = true)
    (tx : Transaction) : hasSettlement (l.recorded tx) r = true := by
  unfold hasSettlement at h ⊢
  split
  · rename_i e he
    rw [he] at h
    exact h
  · rename_i ref href
    rw [href] at h
    rw [Ledger.transactionForEvent_recorded]
    split
    · rfl
    · exact h

theorem workOf_recorded_le (l : Ledger) (tx : Transaction) (r : ConfidentialSessionRecord) :
    workOf (l.recorded tx) r ≤ workOf l r := by
  unfold workOf
  split
  · by_cases h : hasSettlement l r = true
    · rw [if_pos h, if_pos (hasSettlement_recorded h tx)]
    · rw [if_neg h]
      split <;> decide
  · exact le_refl 0

theorem workLeft_recorded_le (s : GatewayState) (tx : Transaction) :
    workLeft { s with ledger := s.ledger.recorded tx } ≤ workLeft s :=
  Dict.sumBy_le_sumBy fun r _ => workOf_recorded_le s.ledger tx r

variable {ref : ReservationId}

theorem hasSettlement_eq (href : cleanReservationId r.holdId = .ok ref) (l : Ledger) :
    hasSettlement l r = (l.transactionForEvent (settleEvent ref)).isSome := by
  unfold hasSettlement
  rw [href]

variable {s : GatewayState}

theorem workLeft_recorded_lt {jobId : String} (hget : s.sessions.get? jobId = some r) (hmetered : r.state = .metered)
    (href : cleanReservationId r.holdId = .ok ref) (hnew : s.ledger.transactionForEvent (settleEvent ref) = none)
    {tx : Transaction} (hevent : tx.eventId = settleEvent ref) :
    workLeft { s with ledger := s.ledger.recorded tx } < workLeft s := by
  have hopen : hasSettlement s.ledger r = false := by rw [hasSettlement_eq href, hnew]; rfl
  have hsettled : hasSettlement (s.ledger.recorded tx) r = true := by
    rw [hasSettlement_eq href, Ledger.transactionForEvent_recorded, if_pos hevent]
    rfl
  have hbefore : workOf s.ledger r = 2 := by rw [workOf, if_pos hmetered, hopen]; rfl
  have hafter : workOf (s.ledger.recorded tx) r = 1 := by rw [workOf, if_pos hmetered, hsettled]; rfl
  have hothers : (s.sessions.erase jobId).sumBy (workOf (s.ledger.recorded tx))
      ≤ (s.sessions.erase jobId).sumBy (workOf s.ledger) :=
    Dict.sumBy_le_sumBy fun r _ => workOf_recorded_le s.ledger tx r
  rw [Dict.sumBy_erase, Dict.sumBy_erase, hget, Option.map_some, Option.getD_some, Option.map_some, Option.getD_some,
    hbefore, hafter] at hothers
  show s.sessions.sumBy (workOf (s.ledger.recorded tx)) < s.sessions.sumBy (workOf s.ledger)
  omega

theorem workLeft_closed (hget : s.sessions.get? r.jobId = some r)
    (finishedAt : String) : workLeft (closedState s r finishedAt) = workLeft s - workOf s.ledger r := by
  unfold closedState
  by_cases hmetered : r.state = .metered
  · have hclosed : workOf s.ledger (r.closed finishedAt) = 0 := if_neg (show ¬SessionState.completed = .metered by decide)
    rw [if_pos hmetered]
    show (s.sessions.set r.jobId (r.closed finishedAt)).sumBy (workOf s.ledger) = _
    rw [Dict.sumBy_set, hget, hclosed, Option.map_some, Option.getD_some, Int.add_zero]
    rfl
  · rw [if_neg hmetered, workOf, if_neg hmetered, Int.sub_zero]

/-! ### Sessions along the way -/

/-- **A session that was metered** is as it was, or completed with its charge in the ledger. -/
def Tracked (r : ConfidentialSessionRecord) (s : GatewayState) : Prop :=
  s.sessions.get? r.jobId = some r ∨
    c.ChargeHeld s.ledger r ∧ ∃ finishedAt, s.sessions.get? r.jobId = some (r.closed finishedAt)

variable {c}

theorem ChargeHeld.recorded {l : Ledger} {r : ConfidentialSessionRecord} (h : c.ChargeHeld l r) {ref : ReservationId}
    (hnew : l.transactionForEvent (settleEvent ref) = none) {tx : Transaction} (hevent : tx.eventId = settleEvent ref) :
    c.ChargeHeld (l.recorded tx) r := by
  obtain ⟨terms, ref', hterms, href', held, hheld, hpaid⟩ := h
  refine ⟨terms, ref', hterms, href', held, ?_, hpaid⟩
  rw [Ledger.transactionForEvent_recorded, if_neg, hheld]
  intro heq
  rw [← heq, hevent] at hheld
  rw [hnew] at hheld
  cases hheld

theorem Tracked.recorded {s : GatewayState} {r : ConfidentialSessionRecord} (h : c.Tracked r s) {ref : ReservationId}
    (hnew : s.ledger.transactionForEvent (settleEvent ref) = none) {tx : Transaction}
    (hevent : tx.eventId = settleEvent ref) : c.Tracked r { s with ledger := s.ledger.recorded tx } :=
  h.imp id fun ⟨hheld, hclosed⟩ => ⟨hheld.recorded hnew hevent, hclosed⟩

theorem Tracked.closed {r' : ConfidentialSessionRecord} (h : c.Tracked r s)
    (hmetered : r.state = .metered) (hget : s.sessions.get? r'.jobId = some r') (hheld : c.ChargeHeld s.ledger r')
    (finishedAt : String) : c.Tracked r (closedState s r' finishedAt) := by
  unfold closedState
  by_cases hmetered' : r'.state = .metered
  · rw [if_pos hmetered']
    by_cases hjob : r.jobId = r'.jobId
    · have hsame : r' = r := by
        rcases h with h | ⟨-, _, h⟩
        · rw [hjob, hget] at h
          exact Option.some.inj h
        · rw [hjob, hget] at h
          rw [Option.some.inj h] at hmetered'
          cases hmetered'
      subst hsame
      exact .inr ⟨hheld, finishedAt, Dict.get?_set_self _ _ _⟩
    · have hother : (s.sessions.set r'.jobId (r'.closed finishedAt)).get? r.jobId = s.sessions.get? r.jobId :=
        Dict.get?_set_of_ne _ hjob _
      rcases h with h | ⟨hheld, t, h⟩
      · exact .inl (hother.trans h)
      · exact .inr ⟨hheld, t, hother.trans h⟩
  · rw [if_neg hmetered']
    exact h

/-! ### One settlement and one call -/

variable (c) in
/-- What the recovery keeps to: no work is added, and no session is lost. -/
structure Advances (s s' : GatewayState) : Prop where
  keyed : Keyed s'.sessions
  work : workLeft s' ≤ workLeft s
  tracked : ∀ r, r.state = .metered → c.Tracked r s → c.Tracked r s'

theorem Advances.refl (h : Keyed s.sessions) : c.Advances s s := ⟨h, le_refl _, fun _ _ h => h⟩

theorem Advances.trans {t u : GatewayState} (h : c.Advances s t) (h' : c.Advances t u) : c.Advances s u :=
  ⟨h'.keyed, h'.work.trans h.work, fun r hr ht => h'.tracked r hr (h.tracked r hr ht)⟩

theorem advances_closed (hkeyed : Keyed s.sessions)
    (hget : s.sessions.get? r.jobId = some r) (hheld : c.ChargeHeld s.ledger r) (finishedAt : String) :
    c.Advances s (closedState s r finishedAt) := by
  refine ⟨?_, ?_, fun r' hr' htracked => htracked.closed hr' hget hheld finishedAt⟩
  · unfold closedState
    split
    · exact hkeyed.set rfl
    · exact hkeyed
  · have hwork := workOf_nonneg s.ledger r
    rw [workLeft_closed hget]
    omega

theorem advances_recorded (hkeyed : Keyed s.sessions)
    (hnew : s.ledger.transactionForEvent (settleEvent ref) = none) {tx : Transaction}
    (hevent : tx.eventId = settleEvent ref) : c.Advances s { s with ledger := s.ledger.recorded tx } :=
  ⟨hkeyed, workLeft_recorded_le s tx, fun _ _ htracked => htracked.recorded hnew hevent⟩

/-- **A settlement advances**, and takes work off unless it is refused for good. -/
theorem settle_advances (hkeyed : Keyed s.sessions) (jobId : String) :
    (∀ clock, ∃ e, Process.exec (c.settleMeteredSession clock jobId) s = (.error e, s)) ∨
      ∀ clock, c.Advances s (Process.exec (c.settleMeteredSession clock jobId) s).2 ∧
        ∀ r, s.sessions.get? jobId = some r → r.state = .metered →
          workLeft (Process.exec (c.settleMeteredSession clock jobId) s).2 < workLeft s := by
  rcases settle_cases (c := c) hkeyed jobId with hrefused | ⟨r, hget, hcases⟩
  · exact .inl hrefused
  · right
    intro clock
    have hjob : r.jobId = jobId := hkeyed jobId r hget
    have hget' : s.sessions.get? r.jobId = some r := hjob ▸ hget
    rcases hcases with ⟨hheld, hrun⟩ | ⟨ref, href, hnew, hrun⟩
    · obtain ⟨settlement, hrun⟩ := hrun clock
      rw [hrun]
      refine ⟨advances_closed hkeyed hget' hheld _, fun r' hr' hmetered => ?_⟩
      obtain rfl : r = r' := Option.some.inj (hget.symm.trans hr')
      have hpositive : 0 < workOf s.ledger r := workOf_pos s.ledger hmetered
      rw [workLeft_closed hget']
      omega
    · obtain ⟨tx, hevent, hheld, hrun⟩ := hrun clock
      have hrecord : c.Advances s { s with ledger := s.ledger.recorded tx } := advances_recorded hkeyed hnew hevent
      have hless : ∀ r', s.sessions.get? jobId = some r' → r'.state = .metered →
          workLeft { s with ledger := s.ledger.recorded tx } < workLeft s := by
        intro r' hr' hmetered
        obtain rfl : r = r' := Option.some.inj (hget.symm.trans hr')
        exact workLeft_recorded_lt hget hmetered href hnew hevent
      rcases hrun with ⟨e, hrun⟩ | ⟨settlement, hrun⟩
      · rw [hrun]
        exact ⟨hrecord, hless⟩
      · have hget'' : ({ s with ledger := s.ledger.recorded tx } : GatewayState).sessions.get? r.jobId = some r := hget'
        have hclose : c.Advances { s with ledger := s.ledger.recorded tx }
            (closedState { s with ledger := s.ledger.recorded tx } r clock.finishedAt) :=
          advances_closed hrecord.keyed hget'' hheld _
        rw [hrun]
        exact ⟨hrecord.trans hclose, fun r' hr' hmetered => hclose.work.trans_lt (hless r' hr' hmetered)⟩

theorem advances_settle (hkeyed : Keyed s.sessions) (clock : SettlementClock) (jobId : String) :
    c.Advances s (Process.exec (c.settleMeteredSession clock jobId) s).2 := by
  rcases settle_advances (c := c) hkeyed jobId with hrefused | hadvances
  · obtain ⟨e, he⟩ := hrefused clock
    rw [he]
    exact .refl hkeyed
  · exact (hadvances clock).1

theorem advances_settleEach (clock : String → SettlementClock) (page : List ConfidentialSessionRecord)
    (hkeyed : Keyed s.sessions) : c.Advances s (Process.exec (c.settleEach clock page) s).2 := by
  induction page generalizing s with
  | nil => exact .refl hkeyed
  | cons session rest ih =>
    have hfirst : c.Advances s _ := advances_settle hkeyed (clock session.jobId) session.jobId
    unfold settleEach
    rw [exec_bind]
    generalize exec (c.settleMeteredSession (clock session.jobId) session.jobId) s = r at hfirst
    obtain ⟨result, s'⟩ := r
    cases result with
    | error e => exact hfirst
    | ok settlement =>
      have hrest := ih hfirst.keyed
      dsimp only
      rw [exec_bind]
      generalize exec (c.settleEach clock rest) s' = r at hrest
      obtain ⟨result, s''⟩ := r
      cases result with
      | error e | ok settlements => exact hfirst.trans hrest

/-! ### The recovery -/

variable (c) in
/-- **A session that cannot be settled stands first**: no metered session is older, and every call raises and changes
nothing. -/
structure BlockedBy (limit : ℤ) (r : ConfidentialSessionRecord) (s : GatewayState) : Prop where
  metered : r.state = .metered ∧ s.sessions.get? r.jobId = some r
  first : ∀ r' ∈ meteredRows s.sessions, r.updatedAt ≤ r'.updatedAt
  refused : ∀ clock, ∃ e, Process.exec (c.settleMeteredSession clock r.jobId) s = (.error e, s)
  raises : ∀ clock, ∃ e, Process.exec (c.reconcileMetered clock limit) s = (.error e, s)

theorem mem_meteredRows {rows : SessionRows} (hkeyed : Keyed rows) :
    r ∈ meteredRows rows ↔ r.state = .metered ∧ rows.get? r.jobId = some r := by
  unfold meteredRows
  rw [List.mem_filter, Dict.mem_values_iff, decide_eq_true_iff]
  constructor
  · rintro ⟨⟨jobId, hget⟩, hmetered⟩
    exact ⟨hmetered, hkeyed jobId r hget ▸ hget⟩
  · rintro ⟨hmetered, hget⟩
    exact ⟨⟨r.jobId, hget⟩, hmetered⟩

variable {limit : ℤ}

theorem exec_reconcile (hlimit : 1 ≤ limit ∧ limit ≤ 1000) (clock : String → SettlementClock)
    (s : GatewayState) : Process.exec (c.reconcileMetered clock limit) s
      = Process.exec (c.settleEach clock ((c.lib.orderByUpdatedAt (meteredRows s.sessions)).take limit.toNat)) s := by
  have hpage : listMetered c.lib limit s.sessions
      = .ok ((c.lib.orderByUpdatedAt (meteredRows s.sessions)).take limit.toNat) := if_neg (not_not.mpr hlimit)
  unfold reconcileMetered onSessions
  rw [exec_bind, exec_attempt]
  dsimp only
  rw [hpage]

/-- **One call of the recovery**: there is nothing to do, the oldest session blocks it, or work is taken off. -/
theorem exec_reconcile_beyond (hlimit : 1000 < limit) (clock : String → SettlementClock) (s : GatewayState) :
    Process.exec (c.reconcileMetered clock limit) s
      = (.error (.value "invalid confidential metering reconciliation limit"), s) := by
  have hrefused : listMetered c.lib limit s.sessions
      = .error (.value "invalid confidential metering reconciliation limit") := if_pos (by omega)
  unfold reconcileMetered onSessions
  rw [exec_bind, exec_attempt]
  dsimp only
  rw [hrefused]

theorem reconcile_step (hlimit : 1 ≤ limit ∧ limit ≤ 1000) (hkeyed : Keyed s.sessions) :
    (meteredRows s.sessions = [] ∧ ∀ clock, Process.exec (c.reconcileMetered clock limit) s = (.ok [], s)) ∨
      (∃ r, c.BlockedBy limit r s) ∨
      ∀ clock, workLeft (Process.exec (c.reconcileMetered clock limit) s).2 < workLeft s := by
  have hperm := c.lib.order_perm (meteredRows s.sessions)
  have hsorted := c.lib.order_sorted (meteredRows s.sessions)
  have hrun := fun clock => exec_reconcile (c := c) hlimit clock s
  cases hpage : c.lib.orderByUpdatedAt (meteredRows s.sessions) with
  | nil =>
    rw [hpage] at hperm
    refine .inl ⟨hperm.nil_eq.symm, fun clock => ?_⟩
    rw [hrun, hpage, List.take_nil]
    rfl
  | cons r rest =>
    obtain ⟨n, hn⟩ : ∃ n, limit.toNat = n + 1 := ⟨limit.toNat - 1, by omega⟩
    rw [hpage] at hperm hsorted
    have hmem : r ∈ meteredRows s.sessions := hperm.mem_iff.mp List.mem_cons_self
    obtain ⟨hmetered, hget⟩ := (mem_meteredRows hkeyed).mp hmem
    have hfirst : ∀ clock, exec (c.reconcileMetered clock limit) s
        = exec (c.settleEach clock (r :: rest.take n)) s := by
      intro clock
      rw [hrun, hpage, hn, List.take_succ_cons]
    rcases settle_advances (c := c) hkeyed r.jobId with hrefused | hadvances
    · refine .inr (.inl ⟨r, ⟨hmetered, hget⟩, fun r' hr' => ?_, hrefused, fun clock => ?_⟩)
      · rcases List.mem_cons.mp (hperm.mem_iff.mpr hr') with rfl | hlater
        · exact String.le_refl _
        · exact List.rel_of_pairwise_cons hsorted hlater
      · obtain ⟨e, he⟩ := hrefused (clock r.jobId)
        rw [hfirst]
        exact ⟨e, exec_bind_error he⟩
    · refine .inr (.inr fun clock => ?_)
      obtain ⟨hadvance, hless⟩ := hadvances (clock r.jobId)
      have hless := hless r hget hmetered
      rw [hfirst]
      unfold settleEach
      rw [exec_bind]
      generalize exec (c.settleMeteredSession (clock r.jobId) r.jobId) s = run at hadvance hless
      obtain ⟨result, s'⟩ := run
      cases result with
      | error e => exact hless
      | ok settlement =>
        have hrest : c.Advances s' _ := advances_settleEach clock (rest.take n) hadvance.keyed
        dsimp only
        rw [exec_bind]
        generalize exec (c.settleEach clock (rest.take n)) s' = run at hrest
        obtain ⟨result, s''⟩ := run
        cases result <;> exact hrest.work.trans_lt hless

/-! ### Calls after calls -/

variable (c) in
/-- The state after a number of calls. -/
def reconcileRuns (limit : ℤ) (clocks : ℕ → String → SettlementClock) (s : GatewayState) : ℕ → GatewayState
  | 0 => s
  | n + 1 => (Process.exec (c.reconcileMetered (clocks n) limit) (reconcileRuns limit clocks s n)).2

variable (c) in
/-- The recovery is at its end: no session is metered, or one that cannot be settled stands first. -/
def Ended (limit : ℤ) (s : GatewayState) : Prop := meteredRows s.sessions = [] ∨ ∃ r, c.BlockedBy limit r s

section

variable (hlimit : 1 ≤ limit ∧ limit ≤ 1000)
include hlimit

theorem advances_reconcile (clock : String → SettlementClock) (hkeyed : Keyed s.sessions) :
    c.Advances s (Process.exec (c.reconcileMetered clock limit) s).2 := by
  rw [exec_reconcile hlimit]
  exact advances_settleEach clock _ hkeyed

theorem advances_reconcileRuns (clocks : ℕ → String → SettlementClock) (hkeyed : Keyed s.sessions) (n : ℕ) :
    c.Advances s (c.reconcileRuns limit clocks s n) := by
  induction n with
  | zero => exact .refl hkeyed
  | succ n ih => exact ih.trans (advances_reconcile hlimit (clocks n) ih.keyed)

theorem reconcile_of_ended (clock : String → SettlementClock) (hkeyed : Keyed s.sessions) (h : c.Ended limit s) :
    (Process.exec (c.reconcileMetered clock limit) s).2 = s := by
  rcases h with hnone | ⟨r, hblocked⟩
  · rcases reconcile_step (c := c) hlimit hkeyed with ⟨-, hrun⟩ | ⟨r, hblocked⟩ | hless
    · rw [hrun]
    · have hmem := (mem_meteredRows hkeyed).mpr hblocked.metered
      rw [hnone] at hmem
      cases hmem
    · rw [exec_reconcile hlimit, hnone, (c.lib.order_perm []).eq_nil, List.take_nil]
      rfl
  · obtain ⟨e, he⟩ := hblocked.raises clock
    rw [he]

/-- **The recovery comes to its end**, as every call before takes work off. -/
theorem reconcileRuns_ends (clocks : ℕ → String → SettlementClock) (hkeyed : Keyed s.sessions) :
    ∃ N, c.Ended limit (c.reconcileRuns limit clocks s N) ∧
      ∀ n ≥ N, c.reconcileRuns limit clocks s n = c.reconcileRuns limit clocks s N := by
  have hkeyedAt := fun n => (advances_reconcileRuns (c := c) hlimit clocks hkeyed n).keyed
  have hends : ∃ N, c.Ended limit (c.reconcileRuns limit clocks s N) := by
    by_contra hnever
    rw [not_exists] at hnever
    have hless : ∀ n : ℕ, workLeft (c.reconcileRuns limit clocks s n) + n ≤ workLeft s := by
      intro n
      induction n with
      | zero => exact le_of_eq (Int.add_zero _)
      | succ n ih =>
        rcases reconcile_step (c := c) hlimit (hkeyedAt n) with ⟨hnone, -⟩ | hblocked | hless
        · exact absurd (.inl hnone) (hnever n)
        · exact absurd (.inr hblocked) (hnever n)
        · have hstep := hless (clocks n)
          show workLeft (exec (c.reconcileMetered (clocks n) limit) (c.reconcileRuns limit clocks s n)).2 + _ ≤ _
          push_cast
          omega
    have hlast := hless ((workLeft s).toNat + 1)
    have hnonneg := workLeft_nonneg (c.reconcileRuns limit clocks s ((workLeft s).toNat + 1))
    push_cast at hlast
    omega
  obtain ⟨N, hN⟩ := hends
  refine ⟨N, hN, fun n hn => ?_⟩
  induction n, hn using Nat.le_induction with
  | base => rfl
  | succ n hn ih =>
    show (exec (c.reconcileMetered (clocks n) limit) (c.reconcileRuns limit clocks s n)).2 = _
    rw [ih]
    exact reconcile_of_ended hlimit _ (hkeyedAt N) hN

end

/-- **The recovery ends with every session completed, or at one that cannot be settled.** From some call on nothing
changes any more; every session that was metered is then completed with its charge in the ledger, or is as it was and
no older than a session whose settlement is refused; that session stands first, and every call raises. A limit beyond
1000 is refused. -/
theorem recovery_runs_to_the_first_failure (c : Coordinator) {limit : ℤ} (hlimit : 1 ≤ limit)
    (clocks : ℕ → String → SettlementClock) {s : GatewayState} (hkeyed : Keyed s.sessions) :
    (1000 < limit → ∀ clock, Process.exec (c.reconcileMetered clock limit) s
      = (.error (.value "invalid confidential metering reconciliation limit"), s)) ∧
    (limit ≤ 1000 → ∃ N, ∀ n ≥ N, ∀ r ∈ meteredRows s.sessions,
      (c.ChargeHeld (c.reconcileRuns limit clocks s n).ledger r ∧
        ∃ finishedAt, (c.reconcileRuns limit clocks s n).sessions.get? r.jobId = some (r.closed finishedAt)) ∨
      ((c.reconcileRuns limit clocks s n).sessions.get? r.jobId = some r ∧
        ∃ first, c.BlockedBy limit first (c.reconcileRuns limit clocks s n) ∧ first.updatedAt ≤ r.updatedAt)) := by
  constructor
  · exact fun hbeyond clock => exec_reconcile_beyond hbeyond clock s
  · intro hle
    obtain ⟨N, hended, hstays⟩ := reconcileRuns_ends (c := c) ⟨hlimit, hle⟩ clocks hkeyed
    refine ⟨N, fun n hn r hr => ?_⟩
    rw [hstays n hn]
    obtain ⟨hmetered, hget⟩ := (mem_meteredRows hkeyed).mp hr
    have hadvances := advances_reconcileRuns (c := c) ⟨hlimit, hle⟩ clocks hkeyed N
    rcases hadvances.tracked r hmetered (.inl hget) with hsame | hdone
    · have hmem : r ∈ meteredRows (c.reconcileRuns limit clocks s N).sessions :=
        (mem_meteredRows hadvances.keyed).mpr ⟨hmetered, hsame⟩
      rcases hended with hnone | ⟨first, hblocked⟩
      · rw [hnone] at hmem
        cases hmem
      · exact .inr ⟨hsame, first, hblocked, hblocked.first r hmem⟩
    · exact .inl hdone

/-! ### A receipt without tokens -/

/-- Two metered jobs of Alice, the older one with a receipt without tokens. -/
def blockedGateway : GatewayState where
  sessions := (Dict.empty.set "job-1" (sampleSession "job-1" 0 "2000-01-01T10:00:00Z")).set "job-2"
    (sampleSession "job-2" 5 "2000-01-01T11:00:00Z")
  ledger := sampleLedger
  log := []

theorem keyed_blockedGateway : Keyed blockedGateway.sessions := by
  have hempty : Keyed Dict.empty := fun jobId r h => nomatch h
  have hfirst := hempty.set (show (sampleSession "job-1" 0 "2000-01-01T10:00:00Z").jobId = "job-1" from rfl)
  exact hfirst.set (show (sampleSession "job-2" 5 "2000-01-01T11:00:00Z").jobId = "job-2" from rfl)

theorem recovery_runs_to_the_first_failure_sample : ∃ N, ∀ n ≥ N, ∀ r ∈ meteredRows blockedGateway.sessions,
      (sampleCoordinator.ChargeHeld (sampleCoordinator.reconcileRuns 100 (fun _ _ => ⟨Env.atTime 2, ""⟩)
          blockedGateway n).ledger r ∧
        ∃ finishedAt, (sampleCoordinator.reconcileRuns 100 (fun _ _ => ⟨Env.atTime 2, ""⟩)
          blockedGateway n).sessions.get? r.jobId = some (r.closed finishedAt)) ∨
      ((sampleCoordinator.reconcileRuns 100 (fun _ _ => ⟨Env.atTime 2, ""⟩) blockedGateway n).sessions.get? r.jobId
          = some r ∧
        ∃ first, sampleCoordinator.BlockedBy 100 first (sampleCoordinator.reconcileRuns 100
          (fun _ _ => ⟨Env.atTime 2, ""⟩) blockedGateway n) ∧ first.updatedAt ≤ r.updatedAt) :=
  (recovery_runs_to_the_first_failure sampleCoordinator (by decide) (fun _ _ => ⟨Env.atTime 2, ""⟩)
    keyed_blockedGateway).2 (by decide)

theorem reconcile_blockedGateway (hlimit : 1 ≤ limit) (clock : String → SettlementClock) :
    (Process.exec (sampleCoordinator.reconcileMetered clock limit) blockedGateway).2 = blockedGateway := by
  rcases le_or_gt limit 1000 with hle | hbeyond
  · obtain ⟨n, hn⟩ : ∃ n, limit.toNat = n + 1 := ⟨limit.toNat - 1, by omega⟩
    have horder : sampleSessionLibrary.orderByUpdatedAt (meteredRows blockedGateway.sessions)
        = [sampleSession "job-1" 0 "2000-01-01T10:00:00Z", sampleSession "job-2" 5 "2000-01-01T11:00:00Z"] := by
      decide
    have hterms : (sampleCoordinator.settlementTerms (sampleSession "job-1" 0 "2000-01-01T10:00:00Z")).isOk = false := by
      decide
    have hfirst : ∃ e, exec (sampleCoordinator.settleMeteredSession (clock "job-1") "job-1") blockedGateway
        = (.error e, blockedGateway) := by
      cases hrefused : sampleCoordinator.settlementTerms (sampleSession "job-1" 0 "2000-01-01T10:00:00Z") with
      | error e =>
        refine ⟨e, (exec_bind_ok (a := some (sampleSession "job-1" 0 "2000-01-01T10:00:00Z")) rfl).trans ?_⟩
        dsimp only
        rw [hrefused]
        rfl
      | ok terms =>
        rw [hrefused] at hterms
        cases hterms
    obtain ⟨e, he⟩ := hfirst
    rw [exec_reconcile ⟨hlimit, hle⟩]
    show (exec (settleEach sampleCoordinator clock
      ((sampleSessionLibrary.orderByUpdatedAt (meteredRows blockedGateway.sessions)).take limit.toNat)) blockedGateway).2 = _
    rw [horder, hn, List.take_succ_cons]
    exact congrArg Prod.snd (exec_bind_error he)
  · rw [exec_reconcile_beyond hbeyond]

/-- **A session that cannot be settled holds up the others**: the newer job can be settled, and no number of calls
settles it. -/
theorem older_failure_blocks_recovery :
    (∃ settlement s', Process.exec (sampleCoordinator.settleMeteredSession ⟨Env.atTime 2, ""⟩ "job-2") blockedGateway
      = (.ok settlement, s')) ∧
    ∀ (limit : ℤ), 1 ≤ limit → ∀ (clocks : ℕ → String → SettlementClock) (n : ℕ),
      ((sampleCoordinator.reconcileRuns limit clocks blockedGateway n).sessions.get? "job-2").map
        ConfidentialSessionRecord.state = some .metered := by
  constructor
  · have hok : (exec (sampleCoordinator.settleMeteredSession ⟨Env.atTime 2, ""⟩ "job-2")
        blockedGateway).1.isOk = true := by decide +kernel
    generalize exec (sampleCoordinator.settleMeteredSession ⟨Env.atTime 2, ""⟩ "job-2") blockedGateway = r at hok
    obtain ⟨result, s'⟩ := r
    cases result with
    | error e => cases hok
    | ok settlement => exact ⟨settlement, s', rfl⟩
  · intro limit hlimit clocks n
    have hstays : sampleCoordinator.reconcileRuns limit clocks blockedGateway n = blockedGateway := by
      induction n with
      | zero => rfl
      | succ n ih =>
        show (exec (sampleCoordinator.reconcileMetered (clocks n) limit)
          (sampleCoordinator.reconcileRuns limit clocks blockedGateway n)).2 = _
        rw [ih]
        exact reconcile_blockedGateway hlimit (clocks n)
    rw [hstays]
    rfl

end Coordinator

end ComputeMesh.Gateway
