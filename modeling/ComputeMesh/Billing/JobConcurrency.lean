import ComputeMesh.Billing.HoldCoverage

/-!
# Concurrent job executions

`record_job_execution` takes the lock three times: for its duplicate check, for reading the balance and for
recording.  `capture_hold` and the other operations keep it throughout.  A thread of the model stands
between two of these sections, and a step is one section of one thread or one whole locked operation.

A direct call that records is *current* when its two checks would still pass.  Nothing in the code makes
sure of that, and two calls for one job may both be recorded (`concurrent_job_billed_twice`).  In every run in
which the calls that record are current, `jobs_billed_once` holds.
-/

namespace ComputeMesh.Billing

variable {R : Type} [LayerRatio R]

/-- Where a direct call of `record_job_execution` stands. -/
inductive CallState (R : Type)
  | idle
  | checked (call : JobCall R)
  | ready (call : JobCall R) (tx : Transaction)

/-- Whether the checks of a call that is ready would still pass. -/
def CallState.IsCurrent (l : Ledger) : CallState R → Prop
  | .ready call _ => call.eventId ∉ l.journal.processedEvents ∧
      call.charge ≤ l.rawBalance call.customerAccountId
  | _ => True

instance (l : Ledger) : DecidablePred (CallState.IsCurrent (R := R) l)
  | .ready _ _ => inferInstanceAs (Decidable (_ ∧ _))
  | .idle | .checked _ => inferInstanceAs (Decidable True)

/-- A ledger shared by threads. -/
structure Shared (R : Type) where
  ledger : Ledger
  threads : ℕ → CallState R

/-- One lock-protected section. -/
inductive Section (R : Type)
  /-- A thread calls `record_job_execution` and makes the duplicate check. -/
  | begin_ (thread : ℕ) (call : JobCall R)
  /-- A thread reads the balance and builds the transaction. -/
  | readBalance (thread : ℕ) (env : Env)
  /-- A thread records its transaction. -/
  | record (thread : ℕ)
  /-- A credit operation under one lock, `capture_hold` among them. -/
  | locked (env : Env) (op : Op R) (credit : op.isCreditOp = true)

namespace Shared

/-- The ledger, with the thread moved on. -/
def withThread (s : Shared R) (thread : ℕ) (state : CallState R) : Shared R :=
  { s with threads := Function.update s.threads thread state }

/-- Perform one section. -/
def next (s : Shared R) : Section R → Shared R
  | .begin_ t call =>
    match s.threads t with
    | .idle =>
      match s.ledger.checkJobEvent call with
      | .error _ => s
      | .ok () => s.withThread t (.checked call)
    | _ => s
  | .readBalance t env =>
    match s.threads t with
    | .checked call =>
      match s.ledger.buildJobTransaction env call with
      | .error _ => s.withThread t .idle
      | .ok tx => s.withThread t (.ready call tx)
    | _ => s
  | .record t =>
    match s.threads t with
    | .ready _ tx => { s.withThread t .idle with ledger := (s.ledger.commit tx).2 }
    | _ => s
  | .locked env op _ => { s with ledger := op.run s.ledger env }

/-- The checks a direct call made still pass when it records: its job is not billed, and the balance of
its customer is at least its charge. -/
def Current (s : Shared R) : Section R → Prop
  | .record t => (s.threads t).IsCurrent s.ledger
  | _ => True

instance (s : Shared R) : DecidablePred s.Current
  | .record t => inferInstanceAs (Decidable ((s.threads t).IsCurrent s.ledger))
  | .begin_ .. | .readBalance .. | .locked .. => inferInstanceAs (Decidable True)

/-- What a thread that is ready carries: a transaction for its job. -/
def IsReady : CallState R → Prop
  | .ready call tx => tx.eventId = call.eventId ∧ IsJobPostings call tx.fields
  | _ => True

/-- **The invariant of the shared ledger.** -/
structure Inv (s : Shared R) : Prop where
  plain : s.ledger.cls = .ledger
  replay : s.ledger.journal.IsReplay
  nonneg : ∀ a, 0 ≤ s.ledger.rawBalance a
  ready : ∀ t, IsReady (s.threads t)

omit [LayerRatio R] in
theorem Inv.withThread {s : Shared R} (h : s.Inv) (t : ℕ) {state : CallState R} (hs : IsReady state) :
    (s.withThread t state).Inv := by
  refine ⟨h.plain, h.replay, h.nonneg, fun t' => ?_⟩
  show IsReady (Function.update s.threads t state t')
  by_cases ht : t' = t
  · subst ht
    rwa [Function.update_self]
  · rw [Function.update_of_ne ht]
    exact h.ready t'

end Shared

namespace Ledger

omit [LayerRatio R] in
theorem rawBalance_recorded_job_nonneg {l : Ledger} {c : JobCall R} {tx : Transaction}
    (hnonneg : ∀ a, 0 ≤ l.rawBalance a) (htx : IsJobPostings c tx.fields)
    (hcover : c.charge ≤ l.rawBalance c.customerAccountId) (a : String) :
    0 ≤ (l.recorded tx).rawBalance a := by
  have hnet := htx.netChange_ge a
  have ha := hnonneg a
  rw [rawBalance_recorded]
  split at hnet
  · rename_i heq
    subst heq
    omega
  · omega

theorem recordJobExecution_nonneg {l : Ledger} (hplain : l.cls = .ledger)
    (hnonneg : ∀ a, 0 ≤ l.rawBalance a) (env : Env) (c : JobCall R) (a : String) :
    0 ≤ (l.recordJobExecution env c).2.rawBalance a := by
  rcases l.recordJobExecution_cases env c with ⟨e, heq⟩ | ⟨tx, htx, -, heq⟩
  · rw [heq]
    exact hnonneg a
  · rw [heq, commit_snd]
    obtain ⟨-, hpostings, -, balance, hbalance, hcover⟩ := buildJobTransaction_ok htx
    rw [getBalance, if_neg (by rw [hplain]; decide)] at hbalance
    cases hbalance
    exact rawBalance_recorded_job_nonneg hnonneg hpostings hcover a

theorem run_creditOp_nonneg {l : Ledger} (hplain : l.cls = .ledger)
    (hnonneg : ∀ a, 0 ≤ l.rawBalance a) (env : Env) {op : Op R} (hop : op.isCreditOp) :
    (op.run l env).cls = .ledger ∧ ∀ a, 0 ≤ (op.run l env).rawBalance a := by
  cases op with
  | createHold account amount model ttl holdId =>
    rcases l.createHold_cases env account amount model ttl holdId with heq | ⟨_, _, -, -, -, -, -, heq⟩
    all_goals rw [Op.run, heq]; exact ⟨hplain, hnonneg⟩
  | renewHold holdId seconds =>
    rcases l.renewHold_cases env holdId seconds with heq | ⟨_, -, -, heq⟩
    all_goals rw [Op.run, heq]; exact ⟨hplain, hnonneg⟩
  | releaseHold holdId =>
    rcases l.releaseHold_cases holdId with heq | ⟨_, -, heq⟩
    all_goals rw [Op.run, heq]; exact ⟨hplain, hnonneg⟩
  | captureHold holdId call =>
    rcases l.captureHold_cases env holdId call with heq | ⟨_, _, _, -, -, -, heq⟩
    · rw [Op.run, heq]
      exact ⟨hplain, hnonneg⟩
    · rw [Op.run, heq]
      exact ⟨(l.recordJobExecution_frame env call).2.1.trans hplain,
        recordJobExecution_nonneg hplain hnonneg env call⟩
  | depositCustomerCredits customer amount ref =>
    rw [Op.run, if_neg (by rw [hplain]; decide)]
    rcases l.depositCustomerCredits_cases env customer amount ref with
      heq | ⟨hpos, tx, -, hfields, -, heq⟩
    · rw [heq]
      exact ⟨hplain, hnonneg⟩
    · rw [heq]
      refine ⟨hplain, fun a => ?_⟩
      have hnet : 0 ≤ netChange (depositPostings customer amount) a :=
        netChange_depositPostings_nonneg hpos a
      have ha := hnonneg a
      rw [rawBalance_recorded, hfields]
      omega
  | recordJobExecution call =>
    exact ⟨(l.recordJobExecution_frame env call).2.1.trans hplain,
      recordJobExecution_nonneg hplain hnonneg env call⟩
  | _ => cases hop

end Ledger

namespace Shared

theorem Inv.next {s : Shared R} (h : s.Inv) (section_ : Section R) (hcur : s.Current section_) :
    (s.next section_).Inv := by
  cases section_ with
  | begin_ t call =>
    simp only [Shared.next]
    split
    · split
      · exact h
      · exact h.withThread t trivial
    · exact h
  | readBalance t env =>
    simp only [Shared.next]
    split
    · split
      · exact h.withThread t trivial
      · rename_i tx htx
        obtain ⟨hevent, hpostings, -⟩ := Ledger.buildJobTransaction_ok htx
        exact h.withThread t ⟨hevent, hpostings⟩
    · exact h
  | record t =>
    simp only [Shared.next]
    simp only [Current] at hcur
    have hready := h.ready t
    split
    · rename_i call tx hthread
      rw [hthread] at hcur hready
      obtain ⟨hnew, hcover⟩ := hcur
      obtain ⟨hevent, hpostings⟩ := hready
      have hidle : (s.withThread t .idle).Inv := h.withThread t trivial
      rw [Ledger.commit_snd]
      refine ⟨h.plain, h.replay.record (by rwa [hevent]), ?_, hidle.ready⟩
      exact Ledger.rawBalance_recorded_job_nonneg h.nonneg hpostings hcover
    · exact h
  | locked env op hop =>
    obtain ⟨hplain, hnonneg⟩ := Ledger.run_creditOp_nonneg h.plain h.nonneg env hop
    exact ⟨hplain, op.run_isReplay env h.replay, hnonneg, h.ready⟩

/-- A new ledger with no call under way. -/
def start (networkFeeBps : ℤ) (wallet : String) (storage : Option Storage) : Shared R :=
  ⟨Ledger.fresh .ledger networkFeeBps wallet storage, fun _ => .idle⟩

end Shared

/-- **A job is billed at most once and no balance goes below zero**, in every interleaving in which the
direct calls that record are current. -/
theorem jobs_billed_once (networkFeeBps : ℤ) (wallet : String) (storage : Option Storage)
    (sections : List (Section R))
    (hcur : Run.Along Shared.next Shared.Current (Shared.start networkFeeBps wallet storage) sections) :
    let s := Run.exec Shared.next (Shared.start networkFeeBps wallet storage) sections
    (s.ledger.journal.transactions.map Transaction.eventId).Nodup ∧ ∀ a, 0 ≤ s.ledger.rawBalance a := by
  intro s
  have hstart : (Shared.start networkFeeBps wallet storage : Shared R).Inv :=
    ⟨rfl, Journal.isReplay_empty storage, fun a => le_refl 0, fun t => trivial⟩
  have hinv : s.Inv := Run.exec_of_along Shared.Inv (fun s i h hi => h.next i hi) hstart hcur
  exact ⟨hinv.replay.nodup, hinv.nonneg⟩

/-- Two calls one after the other and a capture meet the condition. -/
theorem jobs_billed_once_sample : let sections : List (Section ℚ) :=
      [.locked (Env.atTime 0) (.depositCustomerCredits "alice" 20 "p1") rfl,
       .locked (Env.atTime 0) (.createHold "alice" 10 "" 60 (some "h1")) rfl,
       .begin_ 0 (sampleJob "j1" "alice"), .begin_ 1 (sampleJob "j2" "alice"),
       .readBalance 1 (Env.atTime 1), .readBalance 0 (Env.atTime 1), .record 0, .record 1,
       .locked (Env.atTime 2) (.captureHold "h1" (sampleJob "j3" "alice")) rfl]
    let s := Run.exec Shared.next (Shared.start 2500 "" none) sections
    (s.ledger.journal.transactions.map Transaction.eventId).Nodup ∧ ∀ a, 0 ≤ s.ledger.rawBalance a := by
  intro sections
  exact jobs_billed_once 2500 "" none sections (by decide)

/-- Two calls for one job that both make their checks before either records are both recorded, and the
customer pays twice out of a balance that covered one charge. -/
theorem concurrent_job_billed_twice : ∃ sections : List (Section ℚ),
      let s := Run.exec Shared.next (Shared.start 2500 "" none) sections
      ¬(s.ledger.journal.transactions.map Transaction.eventId).Nodup ∧ s.ledger.rawBalance "alice" < 0 :=
  ⟨[.locked (Env.atTime 0) (.depositCustomerCredits "alice" 5 "p1") rfl,
    .begin_ 0 (sampleJob "j1" "alice"), .begin_ 1 (sampleJob "j1" "alice"),
    .readBalance 0 (Env.atTime 1), .readBalance 1 (Env.atTime 1), .record 0, .record 1],
    by decide⟩

end ComputeMesh.Billing
