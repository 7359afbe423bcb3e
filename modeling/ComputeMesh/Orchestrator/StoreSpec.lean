import ComputeMesh.Orchestrator.StateStore

/-!
# What the calls of the state store do

One lemma for each part of a call, so that later proofs do not open the definitions again.

* `EntityTable.transition_ok` — **a transaction that returns has replayed an effect or moved the entity**;
* `enforce_frame` — the enforcers touch no entity, no effect and no binding;
* `transitionJob_cases`, `reservationTransition_cases` — whole calls: refused, replayed or moved;
* `Grows` — effects, seen events and registered attempts are never lost.
-/

namespace ComputeMesh.Orchestrator

open ComputeMesh.Text

/-! ### The transaction -/

section
variable {S : Type}

/-- The table after a transition. -/
def EntityTable.moved (t : EntityTable S) (entityId : String) (row : EntityRow S) (req : Request)
    (target : S) (lease : Option UtcTime) : EntityTable S where
  rows := t.rows.set entityId ⟨target, row.revision + 1, lease⟩
  effects := t.effects.set (entityId, req.requestId) ⟨target, target, row.revision + 1, req.requestFingerprint⟩

variable [DecidableEq S] [EntityState S] {t t' : EntityTable S} {kind id : String} {req : Request}
  {target : S} {check : Except Exn Unit} {leaseText : EntityRow S → Except Exn (Option UtcTime)}
  {a : TransitionResult S}

structure Effect.Answers (e : Effect S) (req : Request) (target : S) : Prop where
  target : e.targetState = target
  fingerprint : e.requestFingerprint = req.requestFingerprint

def Effect.replay (e : Effect S) (requestId : String) : TransitionResult S :=
  ⟨e.resultState, e.resultRevision, requestId, false⟩

/-- The row may move to the target. -/
structure EntityTable.Ready (t : EntityTable S) (id : String) (req : Request) (target : S)
    (row : EntityRow S) : Prop where
  fresh : t.effects.get? (id, req.requestId) = none
  found : t.rows.get? id = some row
  revision : (row.revision : ℤ) = req.expectedRevision
  allowed : target ∈ EntityState.allowed row.state

/-- **What a transaction that returns has done.** -/
theorem EntityTable.transition_ok (h : t.transition kind id req target check leaseText = .ok (a, t')) :
    (∃ e, t.effects.get? (id, req.requestId) = some e ∧ e.Answers req target ∧
        a = e.replay req.requestId ∧ t' = t) ∨
      ∃ row lease, t.Ready id req target row ∧ check = .ok () ∧ leaseText row = .ok lease ∧
        a = ⟨target, row.revision + 1, req.requestId, true⟩ ∧ t' = t.moved id row req target lease := by
  unfold transition at h
  split at h
  · rename_i e he
    split at h
    · cases h
    · rename_i hsame
      cases h
      exact .inl ⟨e, he, ⟨not_not.mp fun hn => hsame (.inl hn), not_not.mp fun hn => hsame (.inr hn)⟩, rfl, rfl⟩
  · rename_i hfresh
    split at h
    · cases h
    · rename_i row hrow
      split at h
      · cases h
      · rename_i hrev
        split at h
        · cases h
        · rename_i hallowed
          split at h
          · cases h
          · split at h
            · cases h
            · rename_i lease hlease
              cases h
              exact .inr ⟨row, lease, ⟨hfresh, hrow, not_not.mp hrev, not_not.mp hallowed⟩, rfl,
                hlease, rfl, rfl⟩

theorem EntityTable.transition_of_answers {e : Effect S}
    (he : t.effects.get? (id, req.requestId) = some e) (hans : e.Answers req target) :
    t.transition kind id req target check leaseText = .ok (e.replay req.requestId, t) := by
  have hsame : ¬(e.targetState ≠ target ∨ e.requestFingerprint ≠ req.requestFingerprint) := by
    rintro (h | h)
    · exact h hans.target
    · exact h hans.fingerprint
  simp only [transition, he, if_neg hsame]
  rfl

theorem EntityTable.transition_of_ready {row : EntityRow S} {lease : Option UtcTime}
    (h : t.Ready id req target row) (hcheck : check = .ok ()) (hlease : leaseText row = .ok lease) :
    t.transition kind id req target check leaseText
      = .ok (⟨target, row.revision + 1, req.requestId, true⟩, t.moved id row req target lease) := by
  simp only [transition, h.fresh, h.found, hcheck, hlease]
  rw [if_neg (not_not.mpr h.revision), if_neg (not_not.mpr h.allowed)]
  rfl

omit [DecidableEq S] in
theorem EntityTable.Ready.effects_moved {row : EntityRow S} (h : t.Ready id req target row)
    (lease : Option UtcTime) (k : String × String) (e : Effect S) (he : t.effects.get? k = some e) :
    (t.moved id row req target lease).effects.get? k = some e := by
  have hne : k ≠ (id, req.requestId) := by
    rintro rfl
    rw [h.fresh] at he
    cases he
  rw [EntityTable.moved, Dict.get?_set_of_ne _ hne]
  exact he

omit [DecidableEq S] [EntityState S] in
@[simp] theorem EntityTable.effects_ensure (t : EntityTable S) (id : String) (initial : S) :
    (t.ensure id initial).effects = t.effects := by
  unfold ensure
  split <;> rfl

omit [DecidableEq S] [EntityState S] in
theorem EntityTable.get?_ensure (t : EntityTable S) (id : String) (initial : S) (k : String) :
    (t.ensure id initial).rows.get? k
      = if k = id ∧ t.rows.get? id = none then some ⟨initial, 0, none⟩ else t.rows.get? k := by
  unfold ensure Dict.contains
  cases hrow : t.rows.get? id with
  | none =>
    simp only [Option.isSome_none, Bool.false_eq_true, if_false, Dict.get?_set, and_true]
  | some row => simp

end

/-! ### The enforcers -/

namespace StateStore

section

variable (s : StateStore) (e : String)

@[simp] theorem processEvent_jobs : (s.processEvent e).jobs = s.jobs := by
  unfold processEvent
  split <;> rfl

@[simp] theorem processEvent_reservations : (s.processEvent e).reservations = s.reservations := by
  unfold processEvent
  split <;> rfl

@[simp] theorem processEvent_bindings : (s.processEvent e).bindings = s.bindings := by
  unfold processEvent
  split <;> rfl

theorem processEvent_withJobs : { s.processEvent e with jobs := s.jobs } = s.processEvent e := by
  unfold processEvent
  split <;> rfl

theorem processEvent_withReservations :
    { s.processEvent e with reservations := s.reservations } = s.processEvent e := by
  unfold processEvent
  split <;> rfl

end

section

variable (s : StateStore) (now : UtcTime)

theorem enforce_of_plain (entityId : String) {req : Request}
    (hreq : req.requestId ≠ "") (hmeta : req.commandMetadata = none) (hattempt : req.attemptNumber = none) :
    s.enforce now entityId req = (.ok (), s.processEvent req.requestId) := by
  simp only [enforce, if_neg hreq, hmeta, validateMetadata, hattempt]

theorem enforce_of_empty (entityId : String) {req : Request} (hreq : req.requestId = "") :
    s.enforce now entityId req = (.error (.value "request_id is required"), s) := by
  simp only [enforce, if_pos hreq]


theorem enforce_frame (entityId : String) (req : Request) : (s.enforce now entityId req).2.jobs = s.jobs ∧
      (s.enforce now entityId req).2.reservations = s.reservations ∧
      (s.enforce now entityId req).2.bindings = s.bindings := by
  have hevent := s.processEvent_bindings req.requestId
  have hattempt : ∀ (s : StateStore) n, (s.registerAttempt entityId n).2.jobs = s.jobs ∧
      (s.registerAttempt entityId n).2.reservations = s.reservations ∧
      (s.registerAttempt entityId n).2.bindings = s.bindings := by
    intro s n
    simp only [registerAttempt]
    split
    · exact ⟨rfl, rfl, rfl⟩
    · split
      · exact ⟨rfl, rfl, rfl⟩
      · exact ⟨rfl, rfl, rfl⟩
  simp only [enforce]
  split
  · exact ⟨rfl, rfl, rfl⟩
  · split
    · exact ⟨processEvent_jobs _ _, processEvent_reservations _ _, hevent⟩
    · split
      · exact ⟨processEvent_jobs _ _, processEvent_reservations _ _, hevent⟩
      · obtain ⟨hjobs, hreservations, hbindings⟩ := hattempt (s.processEvent req.requestId) _
        rw [hjobs, hreservations, hbindings]
        exact ⟨processEvent_jobs _ _, processEvent_reservations _ _, hevent⟩

/-! ### Whole calls -/

/-- What a call of `transition_job` comes to. -/
inductive JobOutcome (s : StateStore) (now : UtcTime) (jobId : String) (req : Request) (target : JobState) :
    Except Exn (TransitionResult JobState) × StateStore → Prop
  | refused (e : Exn) : JobOutcome s now jobId req target (.error e, (s.enforce now jobId req).2)
  | replayed (e : Effect JobState) (henforced : (s.enforce now jobId req).1 = .ok ())
      (heffect : s.jobs.effects.get? (jobId, req.requestId) = some e) (hans : e.Answers req target) :
      JobOutcome s now jobId req target (.ok (e.replay req.requestId), (s.enforce now jobId req).2)
  | moved (row : EntityRow JobState) (henforced : (s.enforce now jobId req).1 = .ok ())
      (hready : s.jobs.Ready jobId req target row) :
      JobOutcome s now jobId req target (.ok ⟨target, row.revision + 1, req.requestId, true⟩,
          { (s.enforce now jobId req).2 with jobs := s.jobs.moved jobId row req target none })

theorem transitionJob_cases (jobId : String) (req : Request)
    (target : JobState) : JobOutcome s now jobId req target (s.transitionJob now jobId req target) := by
  unfold transitionJob
  obtain ⟨hjobs, -, -⟩ := s.enforce_frame now jobId req
  rcases henforce : s.enforce now jobId req with ⟨r, s₁⟩
  have hsnd : (s.enforce now jobId req).2 = s₁ := by rw [henforce]
  rw [hsnd] at hjobs
  cases r with
  | error e =>
    rw [← hsnd]
    exact .refused e
  | ok u =>
    have hok : (s.enforce now jobId req).1 = .ok () := by rw [henforce]
    simp only [hjobs]
    rcases htrans : s.jobs.transition "job" jobId req target (.ok ()) (fun _ => .ok none) with e | ⟨a, jobs⟩
    · rw [← hsnd]
      exact .refused e
    · rcases EntityTable.transition_ok htrans with
        ⟨e, he, hans, rfl, rfl⟩ | ⟨row, lease, hready, -, hlease, rfl, rfl⟩
      · show JobOutcome s now jobId req target (_, { s₁ with jobs := s.jobs })
        rw [← hjobs, ← hsnd]
        exact .replayed e hok he hans
      · cases hlease
        rw [← hsnd]
        exact .moved row hok hready

/-- The bindings after a move, with the one asked for. -/
def bindingsAfter (s : StateStore) (reservationId requestId : String) :
    Option (String × String) → Dict String ReservationBinding
  | none => s.bindings
  | some (jobId, stageId) => s.bindings.set reservationId ⟨jobId, stageId, requestId⟩

/-- What a call of `_transition` for a reservation comes to. -/
inductive ReservationOutcome (s : StateStore) (now : UtcTime) (id : String) (req : Request)
    (target : ReservationState) (expiry : Option AwareDatetime) (binding : Option (String × String)) :
    Except Exn (TransitionResult ReservationState) × StateStore → Prop
  | refused (e : Exn) :
      ReservationOutcome s now id req target expiry binding (.error e, (s.enforce now id req).2)
  | replayed (e : Effect ReservationState) (henforced : (s.enforce now id req).1 = .ok ())
      (heffect : s.reservations.effects.get? (id, req.requestId) = some e) (hans : e.Answers req target) :
      ReservationOutcome s now id req target expiry binding (.ok (e.replay req.requestId), (s.enforce now id req).2)
  | moved (row : EntityRow ReservationState) (lease : Option UtcTime)
      (henforced : (s.enforce now id req).1 = .ok ()) (hready : s.reservations.Ready id req target row)
      (hcheck : s.checkBinding binding = .ok ()) (hlease : leaseText target expiry row = .ok lease)
      (hfree : binding ≠ none → s.bindings.contains id = false) :
      ReservationOutcome s now id req target expiry binding (.ok ⟨target, row.revision + 1, req.requestId, true⟩,
          { (s.enforce now id req).2 with
            reservations := s.reservations.moved id row req target lease
            bindings := s.bindingsAfter id req.requestId binding })

theorem reservationTransition_cases (id : String) (req : Request)
    (target : ReservationState) (expiry : Option AwareDatetime) (binding : Option (String × String)) :
    ReservationOutcome s now id req target expiry binding
      (s.reservationTransition now id req target expiry binding) := by
  unfold reservationTransition
  obtain ⟨hjobs, hreservations, hbindings⟩ := s.enforce_frame now id req
  rcases henforce : s.enforce now id req with ⟨r, s₁⟩
  have hsnd : (s.enforce now id req).2 = s₁ := by rw [henforce]
  rw [hsnd] at hjobs hreservations hbindings
  cases r with
  | error e =>
    rw [← hsnd]
    exact .refused e
  | ok u =>
    have hok : (s.enforce now id req).1 = .ok () := by rw [henforce]
    have hcheck : s₁.checkBinding binding = s.checkBinding binding := by
      cases binding with
      | none => rfl
      | some b => simp only [checkBinding, hjobs]
    simp only [hreservations, hcheck, hbindings]
    rcases htrans : s.reservations.transition "reservation" id req target (s.checkBinding binding)
      (leaseText target expiry) with e | ⟨a, reservations⟩
    · rw [← hsnd]
      exact .refused e
    · rcases EntityTable.transition_ok htrans with
        ⟨e, he, hans, rfl, rfl⟩ | ⟨row, lease, hready, hcheck, hlease, rfl, rfl⟩
      · -- a replay leaves the tables, with a binding or without
        have hsame : { s₁ with reservations := s.reservations, bindings := s.bindings } = s₁ := by
          rw [← hreservations, ← hbindings]
        cases binding with
        | none =>
          simp only [hsame]
          rw [← hsnd]
          exact .replayed e hok he hans
        | some b =>
          simp only [Effect.replay, if_true, hsame]
          rw [← hsnd]
          exact .replayed e hok he hans
      · cases binding with
        | none =>
          rw [← hsnd]
          exact .moved row lease hok hready hcheck hlease fun h => absurd rfl h
        | some b =>
          simp only [Bool.true_eq_false, if_false]
          split
          · rw [← hsnd]
            exact .refused _
          · rename_i hfree
            rw [← hsnd]
            exact .moved row lease hok hready hcheck hlease fun _ => by simpa using hfree

/-! ### Calls that succeed -/

/-- A plain request: no metadata and no attempt number. -/
structure PlainRequest (req : Request) : Prop where
  named : req.requestId ≠ ""
  noMetadata : req.commandMetadata = none
  noAttempt : req.attemptNumber = none

theorem transitionJob_of_ready {jobId : String} {req : Request}
    {target : JobState} {row : EntityRow JobState} (hplain : PlainRequest req)
    (hready : s.jobs.Ready jobId req target row) :
    s.transitionJob now jobId req target = (.ok ⟨target, row.revision + 1, req.requestId, true⟩,
        { s.processEvent req.requestId with jobs := s.jobs.moved jobId row req target none }) := by
  have htransition : s.jobs.transition "job" jobId req target (.ok ()) (fun _ => .ok none) = _ :=
    EntityTable.transition_of_ready hready rfl rfl
  simp only [transitionJob, s.enforce_of_plain now jobId hplain.named hplain.noMetadata hplain.noAttempt,
    processEvent_jobs, htransition]

theorem reservationTransition_of_ready {id : String} {req : Request}
    {target : ReservationState} {row : EntityRow ReservationState} {expiry : Option AwareDatetime}
    {lease : Option UtcTime} (hplain : PlainRequest req) (hready : s.reservations.Ready id req target row)
    (hlease : leaseText target expiry row = .ok lease) :
    s.reservationTransition now id req target expiry none = (.ok ⟨target, row.revision + 1, req.requestId, true⟩,
        { s.processEvent req.requestId with
          reservations := s.reservations.moved id row req target lease }) := by
  have htransition : s.reservations.transition "reservation" id req target (.ok ()) (leaseText target expiry)
      = _ := EntityTable.transition_of_ready hready rfl hlease
  simp only [reservationTransition, checkBinding,
    s.enforce_of_plain now id hplain.named hplain.noMetadata hplain.noAttempt, processEvent_reservations,
    htransition]

end

/-! ### What is never lost -/

/-- **The store grows**: effects stay as they were recorded, seen events stay seen, and the attempt
registered for an entity never goes down. -/
structure Grows (s s' : StateStore) : Prop where
  jobs : ∀ k e, s.jobs.effects.get? k = some e → s'.jobs.effects.get? k = some e
  reservations : ∀ k e, s.reservations.effects.get? k = some e → s'.reservations.effects.get? k = some e
  events : s.deduplicatedEvents ⊆ s'.deduplicatedEvents
  retries : ∀ id n, s.explicitRetries.get? id = some n → ∃ n', s'.explicitRetries.get? id = some n' ∧ n ≤ n'

theorem Grows.refl (s : StateStore) : Grows s s :=
  ⟨fun _ _ h => h, fun _ _ h => h, fun _ h => h, fun _ n h => ⟨n, h, le_rfl⟩⟩

theorem Grows.trans {s s' s'' : StateStore} (h : Grows s s') (h' : Grows s' s'') : Grows s s'' where
  jobs k e he := h'.jobs k e (h.jobs k e he)
  reservations k e he := h'.reservations k e (h.reservations k e he)
  events _ hx := h'.events (h.events hx)
  retries id n hn := by
    obtain ⟨n', hn', hle⟩ := h.retries id n hn
    obtain ⟨n'', hn'', hle'⟩ := h'.retries id n' hn'
    exact ⟨n'', hn'', le_trans hle hle'⟩

theorem grows_processEvent (s : StateStore) (e : String) : Grows s (s.processEvent e) := by
  unfold processEvent
  split
  · exact .refl s
  · exact ⟨fun _ _ h => h, fun _ _ h => h, fun _ h => List.mem_cons_of_mem _ h, fun _ n h => ⟨n, h, le_rfl⟩⟩

theorem grows_registerAttempt (s : StateStore) (id : String) (n : ℤ) : Grows s (s.registerAttempt id n).2 := by
  simp only [registerAttempt]
  split
  · exact .refl s
  · rename_i hnew
    split
    · exact .refl s
    · refine ⟨fun _ _ h => h, fun _ _ h => h, fun _ h => h, fun id' k hk => ?_⟩
      rw [Dict.get?_set]
      split
      · rename_i heq
        subst heq
        rw [hk, Option.getD_some] at hnew
        exact ⟨n, rfl, by omega⟩
      · exact ⟨k, hk, le_rfl⟩

theorem grows_enforce (s : StateStore) (now : UtcTime) (id : String) (req : Request) :
    Grows s (s.enforce now id req).2 := by
  simp only [enforce]
  split
  · exact .refl s
  · split
    · exact grows_processEvent s _
    · split
      · exact grows_processEvent s _
      · exact (grows_processEvent s _).trans (grows_registerAttempt _ _ _)

theorem grows_transitionJob (s : StateStore) (now : UtcTime) (jobId : String) (req : Request)
    (target : JobState) : Grows s (s.transitionJob now jobId req target).2 := by
  have hgrows := s.grows_enforce now jobId req
  have houtcome := s.transitionJob_cases now jobId req target
  generalize s.transitionJob now jobId req target = r at houtcome
  cases houtcome with
  | refused e => exact hgrows
  | replayed e henforced heffect hans => exact hgrows
  | moved row henforced hready =>
    exact ⟨hready.effects_moved none, hgrows.reservations, hgrows.events, hgrows.retries⟩

theorem grows_reservationTransition (s : StateStore) (now : UtcTime) (id : String) (req : Request)
    (target : ReservationState) (expiry : Option AwareDatetime) (binding : Option (String × String)) :
    Grows s (s.reservationTransition now id req target expiry binding).2 := by
  have hgrows := s.grows_enforce now id req
  have houtcome := s.reservationTransition_cases now id req target expiry binding
  generalize s.reservationTransition now id req target expiry binding = r at houtcome
  cases houtcome with
  | refused e => exact hgrows
  | replayed e henforced heffect hans => exact hgrows
  | moved row lease henforced hready hcheck hlease hfree =>
    exact ⟨hgrows.jobs, hready.effects_moved lease, hgrows.events, hgrows.retries⟩

end StateStore

end ComputeMesh.Orchestrator
