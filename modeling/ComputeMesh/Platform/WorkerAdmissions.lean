import ComputeMesh.Platform.GateRefinement

/-!
# Two gates for the same calls

The gate in memory and the gate in the database get the same calls, next to the admissions that are outstanding.

* `Gates.step` — one call, to all of them;
* `ClearCall` — a call that both gates can tell apart from what they store;
* `Gates.Coincide` — they answer alike, report alike and keep the limits;
* `gates_coincide` — **they coincide along every run of clear calls**;
* `worker_id_rejected` — the call of a worker, which only one of them understands.
-/

namespace ComputeMesh.Platform

open List Outstanding

/-- A call, with its reading of the clock.  Only some callers pass a worker id. -/
inductive GateCall
  | acquire (q : GateRequest) (workerId : Option String) (now : ℚ)
  | release (q : GateRequest) (now : ℚ)

inductive GateAnswer
  | admitted (answer : Bool)
  | released
  deriving DecidableEq, Repr

def GateCall.now : GateCall → ℚ
  | .acquire _ _ now => now
  | .release _ now => now

/-- A call of the gate in memory, which has no parameter for a worker id. -/
def WorkerConcurrencyGate.call (budget : WorkerConcurrencyBudget) (gate : WorkerConcurrencyGate) :
    GateCall → Except GateError (GateAnswer × WorkerConcurrencyGate)
  | .acquire _ (some _) _ => .error (.typeError "try_acquire() got an unexpected keyword argument 'worker_id'")
  | .acquire q none _ => (gate.tryAcquire budget q).map fun r => (.admitted r.1, r.2)
  | .release q _ => (gate.release q).map fun gate => (.released, gate)

/-- A call of the gate in the database; a worker id that is not passed is empty. -/
def DurableWorkerConcurrencyGate.call (budget : WorkerConcurrencyBudget) (leaseSeconds : ℚ) (order : NewestFirst)
    (gate : DurableWorkerConcurrencyGate) : GateCall → Except GateError (GateAnswer × DurableWorkerConcurrencyGate)
  | .acquire q workerId now =>
    (gate.tryAcquire budget leaseSeconds q (workerId.getD "") now).map fun r => (.admitted r.1, r.2)
  | .release q now => (gate.release order q now).map fun gate => (.released, gate)

/-- What the call means for the outstanding admissions. -/
def Outstanding.call (budget : WorkerConcurrencyBudget) (held : Outstanding) :
    GateCall → Except GateError (GateAnswer × Outstanding)
  | .acquire q _ now => (held.acquire budget q now).map fun r => (.admitted r.1, r.2)
  | .release q _ => (held.release q).map fun held => (.released, held)

/-- Both gates, and the admissions that were acquired and not released. -/
structure Gates where
  memory : WorkerConcurrencyGate := {}
  durable : DurableWorkerConcurrencyGate := {}
  held : Outstanding := []

/-- The snapshots have the same entries, in any order. -/
structure SameSnapshot (a b : GateSnapshot) : Prop where
  global : a.activeGlobal = b.activeGlobal
  principals : ∀ p, a.activePrincipals.get? p = b.activePrincipals.get? p
  sessions : ∀ s, a.activeSessions.get? s = b.activeSessions.get? s
  tenants : ∀ t, a.activeTenants.get? t = b.activeTenants.get? t
  budget : a.budget = b.budget

/-- The snapshot counts the outstanding admissions. -/
structure Reports (a : GateSnapshot) (held : Outstanding) : Prop where
  global : a.activeGlobal = held.length
  principals : Tallies a.activePrincipals (held.map Admission.principalId)
  sessions : Tallies a.activeSessions (held.map Admission.sessionId)
  tenants : Tallies a.activeTenants held.tenants

/-- No admission has expired. -/
def NoneExpired (gate : DurableWorkerConcurrencyGate) (now : ℚ) : Prop :=
  ∀ row ∈ gate.rows, row.active = true → now < row.expiresAt

namespace Outstanding

/-- A call that both gates can tell apart from what they store. -/
def ClearCall (held : Outstanding) : GateCall → Prop
  | .acquire q workerId _ => q.validateIds ≠ .ok () ∨ (workerId = none ∧ held.keyApart q)
  | .release q _ => held.releaseClear q

end Outstanding

namespace Gates

variable (budget : WorkerConcurrencyBudget) (leaseSeconds : ℚ) (order : NewestFirst)

/-- One call, to both gates.  A call that raises leaves the gate as it was. -/
def step (s : Gates) (call : GateCall) : Gates where
  memory := committed s.memory (s.memory.call budget call)
  durable := committed s.durable (s.durable.call budget leaseSeconds order call)
  held := committed s.held (s.held.call budget call)

/-- The call is clear, and no admission has expired. -/
def Clear (s : Gates) (call : GateCall) : Prop := NoneExpired s.durable call.now ∧ s.held.ClearCall call

/-- What the two gates have in common at a call. -/
structure Coincide (s : Gates) (call : GateCall) : Prop where
  /-- They give the same answer or both reject the call, and the answer is the right one. -/
  answers : (s.memory.call budget call).toOption.map Prod.fst
    = (s.durable.call budget leaseSeconds order call).toOption.map Prod.fst
  purpose : (s.memory.call budget call).toOption.map Prod.fst = (s.held.call budget call).toOption.map Prod.fst
  /-- Afterwards they report the same, as long as nothing expires, and report what is outstanding. -/
  snapshots : ∀ now, NoneExpired (s.step budget leaseSeconds order call).durable now →
    SameSnapshot ((s.step budget leaseSeconds order call).memory.snapshot budget)
      ((s.step budget leaseSeconds order call).durable.snapshot budget now).1
  reports : Reports ((s.step budget leaseSeconds order call).memory.snapshot budget)
    (s.step budget leaseSeconds order call).held
  within : Within budget (s.step budget leaseSeconds order call).held

/-- What clear calls keep. -/
structure Sound (s : Gates) : Prop where
  memory : MemoryHolds s.memory s.held
  durable : DurableHolds s.durable s.held
  within : Within budget s.held
  valid : ∀ a ∈ s.held, a.principalId ≠ "" ∧ a.sessionId ≠ "" ∧ a.tenantId.length ≤ 160

end Gates

/-! ### The limits -/

section Limits

variable {budget : WorkerConcurrencyBudget} {held held' : Outstanding} {q : GateRequest} {now : ℚ}

theorem Within.start : Within budget [] :=
  ⟨Nat.zero_le _, fun _ => Nat.zero_le _, fun _ => Nat.zero_le _, fun _ _ _ => Nat.zero_le _⟩

theorem Within.sublist (h : Within budget held) (hsub : held'.Sublist held) : Within budget held' :=
  ⟨hsub.length_le.trans h.global, fun p => ((hsub.map _).count_le p).trans (h.principal p),
    fun s => ((hsub.map _).count_le s).trans (h.session s),
    fun limit hlimit t => (((hsub.map _).filter _).count_le t).trans (h.tenant limit hlimit t)⟩

theorem Within.granted (h : Within budget held) (hroom : held.full budget q = false) :
    Within budget (.granted q now :: held) := by
  unfold full at hroom
  simp only [Bool.or_eq_false_iff, decide_eq_false_iff_not, not_le] at hroom
  obtain ⟨⟨⟨hglobal, hprincipal⟩, hsession⟩, htenant⟩ := hroom
  refine ⟨hglobal, fun p => ?_, fun s => ?_, fun limit hlimit t => ?_⟩
  · rw [map_cons, count_cons]
    split
    · rename_i heq
      obtain rfl : q.principalId = p := eq_of_beq heq
      exact hprincipal
    · exact h.principal p
  · rw [map_cons, count_cons]
    split
    · rename_i heq
      obtain rfl : q.sessionId = s := eq_of_beq heq
      exact hsession
    · exact h.session s
  · unfold tenants
    rw [map_cons, filter_cons]
    split
    · rename_i hgiven
      rw [count_cons]
      split
      · rename_i heq
        obtain rfl : q.tenantId = t := eq_of_beq heq
        have hgiven : decide (q.tenantId ≠ "") = true := hgiven
        rw [hgiven, Bool.true_and, tenantLimitReached, hlimit] at htenant
        exact not_le.mp (of_decide_eq_false htenant)
      · exact h.tenant limit hlimit t
    · exact h.tenant limit hlimit t

end Limits

/-! ### Clear calls -/

namespace Gates

variable {budget : WorkerConcurrencyBudget} {leaseSeconds : ℚ} {order : NewestFirst} {s : Gates} {call : GateCall}
  {q : GateRequest}

theorem Sound.start : Sound budget {} :=
  ⟨⟨rfl, .empty, .empty, .empty, fun _ => rfl⟩, ⟨List.Perm.refl _, nodup_nil, nodup_nil, nofun⟩, .start, nofun⟩

theorem Sound.unknown (h : Sound budget s) (hbad : q.validateIds ≠ .ok ()) : s.held.unknown q := by
  unfold GateRequest.validateIds at hbad
  split at hbad
  · rename_i hempty
    rcases hempty with hp | hs
    · refine .inl fun hmem => ?_
      obtain ⟨a, ha, heq⟩ := mem_map.mp hmem
      exact (h.valid a ha).1 (heq.trans hp)
    · refine .inr (.inl fun hmem => ?_)
      obtain ⟨a, ha, heq⟩ := mem_map.mp hmem
      exact (h.valid a ha).2.1 (heq.trans hs)
  · split at hbad
    · rename_i hlong
      refine .inr (.inr ⟨fun hempty => ?_, fun hmem => ?_⟩)
      · rw [hempty] at hlong
        exact absurd hlong (by decide)
      · obtain ⟨a, ha, heq⟩ := mem_map.mp hmem
        have hle := (h.valid a ha).2.2
        rw [heq] at hle
        omega
    · exact absurd rfl hbad

end Gates

section Follow

variable {α α' β γ : Type} {holds : β → γ → Prop} {x : Except GateError (α × β)} {y : Except GateError (α × γ)}

theorem Follows.map (h : Follows holds x y) (f : α → α') :
    Follows holds (x.map fun r => (f r.1, r.2)) (y.map fun r => (f r.1, r.2)) := by
  cases x with
  | error e =>
    cases y with
    | error e' => trivial
    | ok r => exact h.elim
  | ok r =>
    cases y with
    | error e => exact h.elim
    | ok r' => exact ⟨congrArg f h.1, h.2⟩

theorem Follows.answers (h : Follows holds x y) : x.toOption.map Prod.fst = y.toOption.map Prod.fst := by
  cases x with
  | error e =>
    cases y with
    | error e' => rfl
    | ok r => exact h.elim
  | ok r =>
    cases y with
    | error e => exact h.elim
    | ok r' => exact congrArg some h.1

theorem Follows.committed {b : β} {c : γ} (h : Follows holds x y) (hold : holds b c) :
    holds (committed b x) (committed c y) := by
  cases x with
  | error e =>
    cases y with
    | error e' => exact hold
    | ok r => exact h.elim
  | ok r =>
    cases y with
    | error e => exact h.elim
    | ok r' => exact h.2

end Follow

namespace Gates

variable {budget : WorkerConcurrencyBudget} {leaseSeconds : ℚ} {order : NewestFirst} {s : Gates} {call : GateCall}
  {q : GateRequest} {now : ℚ}

theorem acquire_rejected (hbad : q.validateIds ≠ .ok ()) (workerId : Option String) :
    (∃ e, s.memory.call budget (.acquire q workerId now) = .error e) ∧
      (∃ e, s.durable.call budget leaseSeconds order (.acquire q workerId now) = .error e) ∧
        ∃ e, s.held.call budget (.acquire q workerId now) = .error e := by
  obtain ⟨e, he⟩ : ∃ e, q.validateIds = .error e := by
    cases hids : q.validateIds with
    | error e => exact ⟨e, rfl⟩
    | ok u => exact absurd hids hbad
  refine ⟨?_, ⟨e, ?_⟩, ⟨e, ?_⟩⟩
  · cases workerId with
    | some id => exact ⟨_, rfl⟩
    | none =>
      refine ⟨e, ?_⟩
      rw [WorkerConcurrencyGate.call, WorkerConcurrencyGate.tryAcquire, he]
      rfl
  · rw [DurableWorkerConcurrencyGate.call, DurableWorkerConcurrencyGate.tryAcquire, he]
    rfl
  · rw [call, acquire, he]
    rfl

theorem map_released {β : Type} (x : Except GateError β) :
    (x.map fun gate => ((), gate)).map (fun r => (GateAnswer.released, r.2)) = x.map fun gate => (.released, gate) := by
  cases x with
  | error e => rfl
  | ok gate => rfl

/-- **Both gates follow the outstanding admissions** at a clear call. -/
theorem Sound.follows (h : Sound budget s) (hclear : s.Clear call) :
    Follows MemoryHolds (s.memory.call budget call) (s.held.call budget call) ∧
      Follows DurableHolds (s.durable.call budget leaseSeconds order call) (s.held.call budget call) := by
  obtain ⟨hlive, hclear⟩ := hclear
  cases call with
  | acquire q workerId now =>
    rcases hclear with hbad | ⟨rfl, hapart⟩
    · obtain ⟨⟨e, he⟩, ⟨e', he'⟩, ⟨e'', he''⟩⟩ := (@acquire_rejected budget leaseSeconds order s _ now) hbad workerId
      rw [he, he', he'']
      exact ⟨trivial, trivial⟩
    · exact ⟨h.memory.tryAcquire.map GateAnswer.admitted, (h.durable.tryAcquire hlive hapart).map GateAnswer.admitted⟩
  | release q now =>
    have hmemory := (h.memory.release h.durable.distinct hclear h.unknown).map fun _ => GateAnswer.released
    have hdurable := ((@DurableHolds.release _ _ now) order h.durable hclear).map fun _ => GateAnswer.released
    rw [map_released, map_released] at hmemory hdurable
    exact ⟨hmemory, hdurable⟩

/-- What a call makes of the outstanding admissions: nothing, one more for which there was room, or one less. -/
theorem held_step (s : Gates) (call : GateCall) : (s.step budget leaseSeconds order call).held = s.held ∨
      (∃ q now, q.validateIds = .ok () ∧ s.held.full budget q = false ∧
        (s.step budget leaseSeconds order call).held = .granted q now :: s.held) ∨
      ∃ a, (s.step budget leaseSeconds order call).held = s.held.erase a := by
  cases call with
  | acquire q workerId now =>
    show committed s.held ((s.held.acquire budget q now).map _) = _ ∨ _
    unfold step call acquire
    dsimp only
    cases hids : q.validateIds with
    | error e => exact .inl rfl
    | ok u =>
      rw [ok_bind]
      cases q.key.bind s.held.named with
      | some a => exact .inl rfl
      | none =>
        dsimp only
        cases hfull : s.held.full budget q with
        | true => exact .inl rfl
        | false => exact .inr (.inl ⟨q, now, hids, hfull, rfl⟩)
  | release q now =>
    unfold step call release
    dsimp only
    cases q.validateIds with
    | error e => exact .inl rfl
    | ok u =>
      rw [ok_bind]
      cases s.held.target q with
      | none => exact .inl rfl
      | some a => exact .inr (.inr ⟨a, rfl⟩)

theorem Sound.within_step (h : Sound budget s) : Within budget (s.step budget leaseSeconds order call).held := by
  rcases (@held_step budget leaseSeconds order) s call with
    heq | ⟨q, now, -, hroom, heq⟩ | ⟨a, heq⟩
  · rw [heq]
    exact h.within
  · rw [heq]
    exact h.within.granted hroom
  · rw [heq]
    exact h.within.sublist erase_sublist

theorem Sound.step (h : Sound budget s) (hclear : s.Clear call) : Sound budget (s.step budget leaseSeconds order call) := by
  obtain ⟨hmemory, hdurable⟩ := (@Gates.Sound.follows _ leaseSeconds order) h hclear
  refine ⟨hmemory.committed h.memory, hdurable.committed h.durable, h.within_step, ?_⟩
  rcases (@held_step budget leaseSeconds order) s call with
    heq | ⟨q, now, hids, -, heq⟩ | ⟨a, heq⟩
  · rw [heq]
    exact h.valid
  · rw [heq]
    intro a hmem
    rcases mem_cons.mp hmem with rfl | hold
    · unfold GateRequest.validateIds at hids
      split at hids
      · cases hids
      · rename_i hnonempty
        split at hids
        · cases hids
        · rename_i hshort
          obtain ⟨hp, hs⟩ := not_or.mp hnonempty
          exact ⟨hp, hs, not_lt.mp hshort⟩
    · exact h.valid a hold
  · rw [heq]
    exact fun b hmem => h.valid b (erase_sublist.subset hmem)

theorem Sound.reports (h : Sound budget s) : Reports (s.memory.snapshot budget) s.held :=
  ⟨h.memory.global, h.memory.principals, h.memory.sessions, h.memory.tenants⟩

theorem Sound.sameSnapshot (h : Sound budget s) (hlive : NoneExpired s.durable now) :
    SameSnapshot (s.memory.snapshot budget) (s.durable.snapshot budget now).1 := by
  have hreclaim := DurableHolds.reclaimExpired_eq hlive
  have hperm := h.durable.rows
  unfold DurableWorkerConcurrencyGate.snapshot
  rw [hreclaim]
  refine ⟨?_, fun p => ?_, fun p => ?_, fun p => ?_, rfl⟩
  · have hlength := hperm.length_eq
    rw [length_map, length_map] at hlength
    exact h.memory.global.trans hlength.symm
  · exact h.memory.principals.get?_eq (Tallies.tally _) (h.durable.map_perm fun e => e.2.1).symm p
  · exact h.memory.sessions.get?_eq (Tallies.tally _) (h.durable.map_perm fun e => e.2.2.1).symm p
  · exact h.memory.tenants.get?_eq (Tallies.tally _) ((h.durable.map_perm fun e => e.2.2.2.1).symm.filter _) p

theorem Sound.coincide (h : Sound budget s) (hclear : s.Clear call) : Coincide budget leaseSeconds order s call := by
  obtain ⟨hmemory, hdurable⟩ := (@Gates.Sound.follows _ leaseSeconds order) h hclear
  have hnext := (@Gates.Sound.step _ leaseSeconds order) h hclear
  exact ⟨hmemory.answers.trans hdurable.answers.symm, hmemory.answers, fun now hlive => hnext.sameSnapshot hlive,
    hnext.reports, hnext.within⟩

end Gates

/-- **The gates coincide** along every run of clear calls during which no admission expires: the same answers, the same
reports, which are those of the admissions acquired and not released, and never more than the limits. -/
theorem gates_coincide (budget : WorkerConcurrencyBudget) (leaseSeconds : ℚ) (order : NewestFirst) (calls : List GateCall)
    (hclear : Run.Along (Gates.step budget leaseSeconds order) Gates.Clear {} calls) :
    Run.Along (Gates.step budget leaseSeconds order) (Gates.Coincide budget leaseSeconds order) {} calls :=
  Run.along_of_along (Gates.Sound budget) (fun _ _ h hnow => ⟨h.coincide hnow, h.step hnow⟩) Gates.Sound.start hclear

/-! ### Runs -/

/-- The order of a scan that keeps the first of the newest rows. -/
def NewestFirst.scan : NewestFirst where
  pick := List.argmax AdmissionRow.acquiredAt
  mem h := List.argmax_mem h
  newest h _ hmem := List.le_of_mem_argmax hmem h
  some_of_mem hmem hnone := List.ne_nil_of_mem hmem (List.argmax_eq_none.mp hnone)

def pairBudget : WorkerConcurrencyBudget where
  globalLimit := 2
  principalLimit := 2
  sessionLimit := 2
  tenantLimit := some 1
  inRange := by decide

/-- An admission with a key and one without, for different tenants, repeated, refused and given back in turn. -/
def mixedCalls : List GateCall :=
  [.acquire ⟨"p", "s", some "k", "t"⟩ none 0, .acquire ⟨"p", "s", some "k", "t"⟩ none 1,
    .acquire ⟨"p", "r", some "l", "t"⟩ none 2, .acquire ⟨"p", "s", none, ""⟩ none 3, .release ⟨"p", "s", none, ""⟩ 4,
    .release ⟨"p", "s", some "k", ""⟩ 5, .release ⟨"p", "s", some "k", ""⟩ 6, .acquire ⟨"", "s", none, ""⟩ (some "w") 7]

instance {held : Outstanding} {q : GateRequest} : Decidable (held.keyApart q) :=
  inferInstanceAs (Decidable (∀ a ∈ held, _ → _ ∧ _))

instance {held : Outstanding} {q : GateRequest} : Decidable (held.newestKeyless q) :=
  inferInstanceAs (Decidable ((∃ a ∈ held, _) ∧ ∀ a ∈ held, _ → (∀ b ∈ held, _ → _) → _ ∧ _))

instance {held : Outstanding} {q : GateRequest} : Decidable (held.releaseClear q) :=
  inferInstanceAs (Decidable (_ ∨ (∃ key, q.key = some key ∧ held.named key ≠ none) ∨ (_ ∧ _)))

instance {q : GateRequest} : Decidable (q.validateIds = .ok ()) :=
  match q.validateIds with
  | .ok () => .isTrue rfl
  | .error _ => .isFalse nofun

instance {held : Outstanding} : (call : GateCall) → Decidable (held.ClearCall call)
  | .acquire _ _ _ => inferInstanceAs (Decidable (¬_ ∨ (_ ∧ _)))
  | .release _ _ => inferInstanceAs (Decidable (Outstanding.releaseClear _ _))

instance (s : Gates) (call : GateCall) : Decidable (s.Clear call) :=
  inferInstanceAs (Decidable ((∀ row ∈ s.durable.rows, row.active = true → call.now < row.expiresAt) ∧ _))

theorem mixedCalls_coincide :
    Run.Along (Gates.step pairBudget 300 .scan) (Gates.Coincide pairBudget 300 .scan) {} mixedCalls :=
  gates_coincide pairBudget 300 .scan mixedCalls (by decide +kernel)

/-- **The call of a worker.**  It passes its worker id: the gate in the database admits it, and the gate in memory has no
parameter for it. -/
theorem worker_id_rejected :
    let call := GateCall.acquire ⟨"principal", "session", some "worker:turn", ""⟩ (some "worker") 0
    ({} : WorkerConcurrencyGate).call pairBudget call
        = .error (.typeError "try_acquire() got an unexpected keyword argument 'worker_id'") ∧
      (({} : DurableWorkerConcurrencyGate).call pairBudget 300 .scan call).toOption.map Prod.fst = some (.admitted true) ∧
        ¬Gates.Coincide pairBudget 300 .scan {} call := by
  intro call
  have hdurable : (({} : DurableWorkerConcurrencyGate).call pairBudget 300 .scan call).toOption.map Prod.fst
      = some (.admitted true) := by decide
  refine ⟨rfl, hdurable, fun h => ?_⟩
  exact nomatch h.answers.trans hdurable

end ComputeMesh.Platform
