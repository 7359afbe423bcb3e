import ComputeMesh.Lib.Run
import ComputeMesh.Orchestrator.StoreSpec

/-!
# The state store refines the in-memory machines

The store and the machines were written separately.  Both decide a transition the same way: a request
answered before is a conflict or a replay, then the revision is compared, then the target.  `verdict` is that
decision on its own; each implementation is shown to follow it, and the simulation is about what the
decision reads.

* `apply_verdict` / `transition_verdict` — what the machine and the table do on each verdict;
* `Related` — the same entities with the same state, revision, lease and answered requests;
* `store_refines_machines` — **the same answers and the same states, call after call**.
-/

namespace ComputeMesh.Orchestrator

open ComputeMesh.Text StateStore ReservationStateMachine

/-! ### The decision both make -/

/-- What becomes of a transition request. -/
inductive Verdict (S : Type)
  | conflict
  | replay (state : S) (revision : ℕ)
  | stale
  | invalid
  | move

variable {requestId : String} {req : Request}

section
variable {S : Type} [DecidableEq S] [EntityState S]

/-- The decision: `prior` is the target, the state and the revision remembered for the request. -/
def verdict (prior : Option (S × S × ℕ)) (state : S) (revision : ℕ) (expectedRevision : ℤ) (target : S) :
    Verdict S :=
  match prior with
  | some (priorTarget, priorState, priorRevision) =>
    if priorTarget ≠ target then .conflict else .replay priorState priorRevision
  | none =>
    if expectedRevision ≠ revision then .stale
    else if target ∉ EntityState.allowed state then .invalid
    else .move

def RevisionedStateMachine.prior (m : RevisionedStateMachine S) (requestId : String) : Option (S × S × ℕ) :=
  (m.processed.get? requestId).map fun p => (p.1, p.2.state, p.2.revision)

def EntityTable.prior (t : EntityTable S) (entityId requestId : String) : Option (S × S × ℕ) :=
  (t.effects.get? (entityId, requestId)).map fun e => (e.targetState, e.resultState, e.resultRevision)

/-- The machine after a transition. -/
def RevisionedStateMachine.moved (m : RevisionedStateMachine S) (requestId : String) (target : S) :
    RevisionedStateMachine S :=
  ⟨target, m.revision + 1, m.processed.set requestId (target, ⟨target, m.revision + 1, requestId, true⟩)⟩

/-- The answer to a request, by class of error, on each verdict. -/
def Verdict.answer (requestId : String) (target : S) (revision : ℕ) : Verdict S → Except ExnClass (TransitionResult S)
  | .conflict => .error .idempotencyConflict
  | .replay state n => .ok ⟨state, n, requestId, false⟩
  | .stale => .error .staleRevision
  | .invalid => .error .invalidTransition
  | .move => .ok ⟨target, revision + 1, requestId, true⟩

/-- The result of a call up to the message of its error. -/
def answerOf {α : Type} (r : Except Exn α) : Except ExnClass α := r.mapError Exn.cls

/-- **The machine follows the verdict.** -/
theorem RevisionedStateMachine.apply_verdict (m : RevisionedStateMachine S)
    (hreq : requestId ≠ "") (expectedRevision : ℤ) (target : S) :
    let v := verdict (m.prior requestId) m.state m.revision expectedRevision target
    answerOf (m.apply_ requestId expectedRevision target).1 = v.answer requestId target m.revision ∧
      (m.apply_ requestId expectedRevision target).2
        = (match v with | .move => m.moved requestId target | _ => m) := by
  simp only [apply_, if_neg hreq, prior, verdict]
  cases m.processed.get? requestId with
  | some p =>
    simp only [Option.map_some]
    split
    · exact ⟨rfl, rfl⟩
    · exact ⟨rfl, rfl⟩
  | none =>
    simp only [Option.map_none]
    split
    · exact ⟨rfl, rfl⟩
    · split
      · exact ⟨rfl, rfl⟩
      · exact ⟨rfl, rfl⟩

/-- **The table follows the verdict**, where the fingerprint is the one remembered. -/
theorem EntityTable.transition_verdict {t : EntityTable S} {entityId : String} {row : EntityRow S}
    (hrow : t.rows.get? entityId = some row) (target : S)
    (hfp : ∀ e, t.effects.get? (entityId, req.requestId) = some e → e.targetState = target →
      e.requestFingerprint = req.requestFingerprint)
    (kind : String) (leaseText : EntityRow S → Except Exn (Option UtcTime)) :
    let r := t.transition kind entityId req target (.ok ()) leaseText
    match verdict (t.prior entityId req.requestId) row.state row.revision req.expectedRevision target with
    | .move =>
      match leaseText row with
      | .error e => r = .error e
      | .ok lease => r = .ok (⟨target, row.revision + 1, req.requestId, true⟩,
          t.moved entityId row req target lease)
    | v => answerOf (r.map Prod.fst) = v.answer req.requestId target row.revision ∧
        ∀ a t', r = .ok (a, t') → t' = t := by
  simp only [transition, prior, verdict]
  cases heffect : t.effects.get? (entityId, req.requestId) with
  | some e =>
    by_cases htarget : e.targetState = target
    · have hsame : ¬(e.targetState ≠ target ∨ e.requestFingerprint ≠ req.requestFingerprint) := by
        rintro (h | h)
        · exact h htarget
        · exact h (hfp e heffect htarget)
      simp only [Option.map_some, htarget, ne_eq, not_true_eq_false, if_false]
      rw [htarget] at hsame
      simp only [ne_eq, not_true_eq_false, false_or] at hsame
      simp only [hsame, or_self, if_false]
      refine ⟨rfl, fun a t' heq => ?_⟩
      cases heq
      rfl
    · simp only [Option.map_some, ne_eq, htarget, not_false_eq_true, true_or, if_true]
      exact ⟨rfl, fun a t' heq => by cases heq⟩
  | none =>
    simp only [Option.map_none, hrow]
    by_cases hrev : req.expectedRevision = row.revision
    · have hrev' : ¬(row.revision : ℤ) ≠ req.expectedRevision := not_not.mpr hrev.symm
      rw [if_neg hrev', if_neg (not_not.mpr hrev)]
      by_cases hallowed : target ∈ EntityState.allowed row.state
      · rw [if_neg (not_not.mpr hallowed), if_neg (not_not.mpr hallowed)]
        cases leaseText row with
        | error e => rfl
        | ok lease => rfl
      · rw [if_pos hallowed, if_pos hallowed]
        exact ⟨rfl, fun a t' heq => by cases heq⟩
    · have hrev' : (row.revision : ℤ) ≠ req.expectedRevision := fun heq => hrev heq.symm
      rw [if_pos hrev', if_pos hrev]
      exact ⟨rfl, fun a t' heq => by cases heq⟩

end

/-! ### The calls, on either side -/

/-- The operations both implementations have. -/
inductive StateOp
  | ensureJob (jobId : String)
  | ensureReservation (reservationId : String)
  | transitionJob (jobId requestId : String) (expectedRevision : ℤ) (target : JobState)
  | transitionReservation (reservationId requestId : String) (expectedRevision : ℤ)
      (target : ReservationState)
  | leaseReservation (reservationId requestId : String) (expectedRevision : ℤ) (expiresAt : Datetime)
  | expireIfDue (reservationId requestId : String) (expectedRevision : ℤ) (now : Datetime)

/-- What a call answers. -/
inductive Answer
  | ensured
  | job (result : TransitionResult JobState)
  | reservation (result : TransitionResult ReservationState)
  | notDue
  deriving DecidableEq

/-- The answer of `expire_if_due`. -/
def Answer.ofExpiry : Option (TransitionResult ReservationState) → Answer
  | none => .notDue
  | some result => .reservation result

/-- A call of the store at time `clock`; every call that takes a fingerprint is given `fingerprint`. -/
def StateStore.step (fingerprint : String) (s : StateStore) (clock : UtcTime) :
    StateOp → Except Exn Answer × StateStore
  | .ensureJob jobId => ((s.ensureJob jobId).1.map fun _ => .ensured, (s.ensureJob jobId).2)
  | .ensureReservation id =>
    ((s.ensureReservation id).1.map fun _ => .ensured, (s.ensureReservation id).2)
  | .transitionJob jobId requestId expectedRevision target =>
    let r := s.transitionJob clock jobId { requestId, expectedRevision, requestFingerprint := fingerprint } target
    (r.1.map .job, r.2)
  | .transitionReservation id requestId expectedRevision target =>
    let r := s.transitionReservation clock id
      { requestId, expectedRevision, requestFingerprint := fingerprint } target
    (r.1.map .reservation, r.2)
  | .leaseReservation id requestId expectedRevision expiresAt =>
    let r := s.leaseReservation clock id { requestId, expectedRevision, requestFingerprint := fingerprint } expiresAt
    (r.1.map .reservation, r.2)
  | .expireIfDue id requestId expectedRevision now =>
    let r := s.expireReservationIfDue clock id requestId expectedRevision now
    (r.1.map Answer.ofExpiry, r.2)

/-- A machine for each job and each reservation. -/
structure StateMachines where
  jobs : Dict String JobStateMachine
  reservations : Dict String ReservationStateMachine

namespace StateMachines

def empty : StateMachines := ⟨Dict.empty, Dict.empty⟩

/-- The same call on the machine it names, `none` where there is no machine to call.  The first call for an
entity makes its machine, and only the store asks for an id that is not empty. -/
def step (m : StateMachines) (clock : UtcTime) : StateOp → Option (Except Exn Answer) × StateMachines
  | .ensureJob jobId =>
    if jobId = "" then (none, m)
    else if m.jobs.contains jobId then (some (.ok .ensured), m)
    else (some (.ok .ensured), { m with jobs := m.jobs.set jobId (.new .created) })
  | .ensureReservation id =>
    if id = "" then (none, m)
    else if m.reservations.contains id then (some (.ok .ensured), m)
    else (some (.ok .ensured), { m with reservations := m.reservations.set id .new })
  | .transitionJob jobId requestId expectedRevision target =>
    match m.jobs.get? jobId with
    | none => (none, m)
    | some machine =>
      let r := machine.transition requestId expectedRevision target
      (some (r.1.map .job), { m with jobs := m.jobs.set jobId r.2 })
  | .transitionReservation id requestId expectedRevision target =>
    match m.reservations.get? id with
    | none => (none, m)
    | some machine =>
      let r := machine.transition requestId expectedRevision target
      (some (r.1.map .reservation), { m with reservations := m.reservations.set id r.2 })
  | .leaseReservation id requestId expectedRevision expiresAt =>
    match m.reservations.get? id with
    | none => (none, m)
    | some machine =>
      let r := machine.lease clock requestId expectedRevision expiresAt
      (some (r.1.map .reservation), { m with reservations := m.reservations.set id r.2 })
  | .expireIfDue id requestId expectedRevision now =>
    match m.reservations.get? id with
    | none => (none, m)
    | some machine =>
      let r := machine.expireIfDue requestId expectedRevision now
      (some (r.1.map Answer.ofExpiry), { m with reservations := m.reservations.set id r.2 })

end StateMachines

/-! ### The simulation relation -/

/-- What is asked of a call: an expiry to lease until has a UTC form, the time to expire at has a time zone,
and a transition to `EXPIRED` does not repeat a request id kept for expiries, unless the fingerprint is the
empty one that expiries use. -/
def StateOp.Within (fingerprint : String) (kept : String → String → Prop) : StateOp → Prop
  | .ensureJob _ | .ensureReservation _ | .transitionJob .. => True
  | .transitionReservation id requestId _ target =>
    target = .expired → kept id requestId → fingerprint = ""
  | .leaseReservation _ _ _ (.aware expiry) => expiry.astimezone.isSome
  | .leaseReservation _ _ _ (.naive _) => True
  | .expireIfDue id requestId _ (.aware _) => kept id requestId
  | .expireIfDue _ _ _ (.naive _) => False

section
variable {S : Type} [DecidableEq S] [EntityState S]

/-- An entity of the store and a machine: the same state, revision and answered requests, each under a
fingerprint that satisfies `P`. -/
structure SameEntity (P : String → Effect S → Prop) (t : EntityTable S) (entityId : String)
    (row : EntityRow S) (m : RevisionedStateMachine S) : Prop where
  state : row.state = m.state
  revision : row.revision = m.revision
  prior : ∀ requestId, t.prior entityId requestId = m.prior requestId
  fingerprints : ∀ requestId e, t.effects.get? (entityId, requestId) = some e → P requestId e

end

/-- The fingerprints of a reservation's effects: the constant one, or none for an expiry. -/
def ReservationFingerprint (fingerprint : String) (kept : String → String → Prop) (id requestId : String)
    (e : Effect ReservationState) : Prop :=
  e.requestFingerprint = fingerprint ∨ (e.requestFingerprint = "" ∧ e.targetState = .expired ∧ kept id requestId)

/-- A reservation of the store and its machine. -/
structure SameReservation (fingerprint : String) (kept : String → String → Prop)
    (t : EntityTable ReservationState) (id : String) (row : EntityRow ReservationState)
    (m : ReservationStateMachine) : Prop where
  entity : SameEntity (ReservationFingerprint fingerprint kept id) t id row m.machine
  lease : row.leaseExpiresAt = m.leaseExpiresAt
  candidate : row.state = .candidate → row.leaseExpiresAt = none
  expired : ∀ requestId e, t.effects.get? (id, requestId) = some e → e.targetState = .expired → row.state = .expired

/-- A table and the machines of its entities: every effect belongs to an entity, every entity has a machine
it is related to, and no machine is without one. -/
structure SameTable {S M : Type} (Rel : EntityTable S → String → EntityRow S → M → Prop)
    (t : EntityTable S) (ms : Dict String M) : Prop where
  known : ∀ id requestId, t.rows.get? id = none → t.effects.get? (id, requestId) = none
  missing : ∀ id, t.rows.get? id = none ↔ ms.get? id = none
  same : ∀ id row m, t.rows.get? id = some row → ms.get? id = some m → Rel t id row m

/-- **The simulation relation.** -/
structure Related (fingerprint : String) (kept : String → String → Prop) (s : StateStore)
    (m : StateMachines) : Prop where
  jobs : SameTable (SameEntity fun _ e => e.requestFingerprint = fingerprint) s.jobs m.jobs
  reservations : SameTable (SameReservation fingerprint kept) s.reservations m.reservations

/-! ### One entity -/

variable {expectedRevision : ℤ}

section
variable {S : Type} [DecidableEq S] [EntityState S] {P : String → Effect S → Prop} {t : EntityTable S}
  {id : String} {row : EntityRow S} {m : RevisionedStateMachine S}

omit [DecidableEq S] [EntityState S] in
theorem SameEntity.moved (h : SameEntity P t id row m) {req : Request} (target : S) (lease : Option UtcTime)
    (hP : P req.requestId ⟨target, target, row.revision + 1, req.requestFingerprint⟩) :
    SameEntity P (t.moved id row req target lease) id ⟨target, row.revision + 1, lease⟩
      (m.moved req.requestId target) where
  state := rfl
  revision := congrArg (· + 1) h.revision
  prior requestId := by
    have hprior := h.prior requestId
    simp only [EntityTable.prior, RevisionedStateMachine.prior, EntityTable.moved,
      RevisionedStateMachine.moved, Dict.get?_set, Prod.mk.injEq, true_and] at hprior ⊢
    by_cases heq : requestId = req.requestId
    · simp [heq, h.revision]
    · simp only [heq, if_false]
      exact hprior
  fingerprints requestId e he := by
    simp only [EntityTable.moved, Dict.get?_set, Prod.mk.injEq, true_and] at he
    split at he
    · rename_i heq
      cases he
      rw [heq]
      exact hP
    · exact h.fingerprints requestId e he

omit [DecidableEq S] [EntityState S] in
theorem EntityTable.effects_moved_of_ne (t : EntityTable S) {id' : String} (hne : id ≠ id') (row' : EntityRow S)
    (req : Request) (target : S) (lease : Option UtcTime) (requestId : String) :
    (t.moved id' row' req target lease).effects.get? (id, requestId) = t.effects.get? (id, requestId) :=
  Dict.get?_set_of_ne _ (fun heq => hne (congrArg Prod.fst heq)) _

omit [DecidableEq S] [EntityState S] in
theorem SameEntity.moved_other (h : SameEntity P t id row m) {id' : String} (hne : id ≠ id')
    (row' : EntityRow S) (req : Request) (target : S) (lease : Option UtcTime) :
    SameEntity P (t.moved id' row' req target lease) id row m := by
  have heffects := t.effects_moved_of_ne hne row' req target lease
  refine ⟨h.state, h.revision, fun requestId => ?_, fun requestId e he => ?_⟩
  · rw [← h.prior requestId, EntityTable.prior, EntityTable.prior, heffects]
  · rw [heffects] at he
    exact h.fingerprints requestId e he

/-- The outcome of a transaction: what it answers, and the table it leaves. -/
def EntityTable.settle (t : EntityTable S) (r : Except Exn (TransitionResult S × EntityTable S)) :
    Except Exn (TransitionResult S) × EntityTable S :=
  match r with
  | .error e => (.error e, t)
  | .ok (a, t') => (.ok a, t')

omit [DecidableEq S] [EntityState S] in
theorem EntityTable.settle_fst (t : EntityTable S) (r : Except Exn (TransitionResult S × EntityTable S)) :
    (t.settle r).1 = r.map Prod.fst := by
  cases r <;> rfl

omit [DecidableEq S] [EntityState S] in
theorem EntityTable.settle_snd {t : EntityTable S} {r : Except Exn (TransitionResult S × EntityTable S)}
    (h : ∀ a t', r = .ok (a, t') → t' = t) : (t.settle r).2 = t := by
  cases r with
  | error e => rfl
  | ok p => exact h p.1 p.2 rfl

theorem answerOf_eq_ok {α : Type} {r : Except Exn α} {a : α} (h : answerOf r = .ok a) : r = .ok a := by
  cases r with
  | error e => cases h
  | ok b => exact congrArg Except.ok (Except.ok.inj h)

theorem allowed_of_verdict_eq_move {prior : Option (S × S × ℕ)} {state target : S} {revision : ℕ}
    (h : verdict prior state revision expectedRevision target = .move) :
    target ∈ EntityState.allowed state := by
  unfold verdict at h
  split at h
  · split at h <;> cases h
  · split at h
    · cases h
    · split at h
      · cases h
      · rename_i hallowed
        exact not_not.mp hallowed

/-- **One call on one entity**: the same answer, and nothing or the same move on both sides. -/
theorem SameEntity.transition (h : SameEntity P t id row m) (hrow : t.rows.get? id = some row)
    (req : Request) (hreq : req.requestId ≠ "") (target : S)
    (hfp : ∀ e, t.effects.get? (id, req.requestId) = some e → e.targetState = target →
      e.requestFingerprint = req.requestFingerprint)
    (kind : String) (leaseText : EntityRow S → Except Exn (Option UtcTime)) {lease : Option UtcTime}
    (hlease : leaseText row = .ok lease) :
    let r := t.settle (t.transition kind id req target (.ok ()) leaseText)
    let a := m.apply_ req.requestId req.expectedRevision target
    (answerOf r.1 = answerOf a.1 ∧ r.2 = t ∧ a.2 = m ∧ ∀ x, a.1 = .ok x → x.changed = false) ∨
      (target ∈ EntityState.allowed row.state ∧
        r = (.ok ⟨target, row.revision + 1, req.requestId, true⟩, t.moved id row req target lease) ∧
        a = (.ok ⟨target, row.revision + 1, req.requestId, true⟩, m.moved req.requestId target)) := by
  intro r a
  have htable := EntityTable.transition_verdict hrow target hfp kind leaseText
  have hmachine := m.apply_verdict hreq req.expectedRevision target
  rw [← h.prior, ← h.state, ← h.revision] at hmachine
  cases hv : verdict (t.prior id req.requestId) row.state row.revision req.expectedRevision target with
  | move =>
    simp only [hv, hlease] at htable hmachine
    refine .inr ⟨allowed_of_verdict_eq_move hv, ?_, Prod.ext (answerOf_eq_ok hmachine.1) hmachine.2⟩
    show t.settle _ = _
    rw [htable]
    rfl
  | _ =>
    -- only on `move` does either side change anything
    simp only [hv] at htable hmachine
    refine .inl ⟨?_, EntityTable.settle_snd htable.2, hmachine.2, fun x hx => ?_⟩
    · rw [EntityTable.settle_fst, htable.1, ← hmachine.1]
    · have hanswer := hmachine.1.symm.trans (congrArg answerOf hx)
      cases hanswer <;> rfl

end

/-! ### Whole tables -/

section
variable {S M : Type} {Rel : EntityTable S → String → EntityRow S → M → Prop} {t : EntityTable S}
  {ms : Dict String M} {id : String} {row : EntityRow S} {m : M}

theorem SameTable.set_same (h : SameTable Rel t ms) (hm : ms.get? id = some m) : SameTable Rel t (ms.set id m) := by
  have hget : ∀ id', (ms.set id m).get? id' = ms.get? id' := by
    intro id'
    rw [Dict.get?_set]
    split
    · rename_i heq
      rw [heq, hm]
    · rfl
  exact ⟨h.known, fun id' => by rw [hget]; exact h.missing id', fun id' row' m' hrow hm' =>
    h.same id' row' m' hrow (by rwa [hget] at hm')⟩

theorem SameTable.set {t' : EntityTable S} (h : SameTable Rel t ms) (hrows : t'.rows = t.rows.set id row)
    (heffects : ∀ id' requestId, id' ≠ id → t'.effects.get? (id', requestId) = t.effects.get? (id', requestId))
    (hnew : Rel t' id row m) (hother : ∀ id' row' m', id' ≠ id → Rel t id' row' m' → Rel t' id' row' m') :
    SameTable Rel t' (ms.set id m) := by
  refine ⟨fun id' requestId hnone => ?_, fun id' => ?_, fun id' row' m' hrow' hm' => ?_⟩
  · rw [hrows, Dict.get?_set] at hnone
    split at hnone
    · cases hnone
    · rename_i hne
      rw [heffects id' requestId hne]
      exact h.known id' requestId hnone
  · rw [hrows, Dict.get?_set, Dict.get?_set]
    split
    · simp
    · exact h.missing id'
  · rw [hrows] at hrow'
    by_cases hid : id' = id
    · subst hid
      rw [Dict.get?_set_self] at hrow' hm'
      cases hrow'
      cases hm'
      exact hnew
    · rw [Dict.get?_set_of_ne _ hid] at hrow' hm'
      exact hother id' row' m' hid (h.same id' row' m' hrow' hm')

theorem SameTable.moved (h : SameTable Rel t ms) {req : Request} {target : S} {lease : Option UtcTime}
    {row' : EntityRow S} (hnew : Rel (t.moved id row' req target lease) id ⟨target, row'.revision + 1, lease⟩ m)
    (hother : ∀ id' row m', id' ≠ id → Rel t id' row m' → Rel (t.moved id row' req target lease) id' row m') :
    SameTable Rel (t.moved id row' req target lease) (ms.set id m) :=
  h.set rfl (fun _ requestId hne => t.effects_moved_of_ne hne row' req target lease requestId) hnew hother

/-- A new entity on both sides, of a table whose relation reads no other rows. -/
theorem SameTable.ensure (h : SameTable Rel t ms) (id : String) (initial : S) (first : M)
    (hnew : t.rows.get? id = none →
      Rel { t with rows := t.rows.set id ⟨initial, 0, none⟩ } id ⟨initial, 0, none⟩ first)
    (hother : ∀ id' row' m', id' ≠ id → Rel t id' row' m' →
      Rel { t with rows := t.rows.set id ⟨initial, 0, none⟩ } id' row' m') :
    SameTable Rel (t.ensure id initial) (if ms.contains id then ms else ms.set id first) := by
  unfold EntityTable.ensure Dict.contains
  cases hrow : t.rows.get? id with
  | some row =>
    have hm : ms.get? id ≠ none := fun hnone => by
      rw [(h.missing id).mpr hnone] at hrow
      cases hrow
    obtain ⟨m, hm⟩ := Option.ne_none_iff_exists'.mp hm
    rw [hm]
    exact h
  | none =>
    rw [(h.missing id).mp hrow]
    exact h.set rfl (fun _ _ _ => rfl) (hnew hrow) hother

/-- Without a row there is no effect to replay, and the call is refused. -/
theorem SameTable.transition_of_missing [DecidableEq S] [EntityState S] (h : SameTable Rel t ms)
    (hm : ms.get? id = none) (kind : String) (req : Request) (target : S) (check : Except Exn Unit)
    (leaseText : EntityRow S → Except Exn (Option UtcTime)) :
    ∃ e, t.transition kind id req target check leaseText = .error e := by
  have hrow := (h.missing id).mpr hm
  simp only [EntityTable.transition, h.known id req.requestId hrow, hrow]
  exact ⟨_, rfl⟩

end

/-! ### The calls of the store, without metadata and attempt number -/

namespace StateStore

theorem transitionJob_plain (s : StateStore) (now : UtcTime) (jobId : String)
    (hreq : req.requestId ≠ "") (hmeta : req.commandMetadata = none) (hattempt : req.attemptNumber = none)
    (target : JobState) :
    s.transitionJob now jobId req target =
      let r := s.jobs.settle (s.jobs.transition "job" jobId req target (.ok ()) fun _ => .ok none)
      (r.1, { s.processEvent req.requestId with jobs := r.2 }) := by
  simp only [transitionJob, s.enforce_of_plain now jobId hreq hmeta hattempt, processEvent_jobs]
  cases s.jobs.transition "job" jobId req target (.ok ()) fun _ => .ok none with
  | error e =>
    show (_, s.processEvent req.requestId) = (_, { s.processEvent req.requestId with jobs := s.jobs })
    rw [processEvent_withJobs]
    rfl
  | ok p => rfl

theorem reservationTransition_plain (s : StateStore) (now : UtcTime) (id : String)
    (hreq : req.requestId ≠ "") (hmeta : req.commandMetadata = none) (hattempt : req.attemptNumber = none)
    (target : ReservationState) (lease : Option AwareDatetime) :
    s.reservationTransition now id req target lease none =
      let r := s.reservations.settle (s.reservations.transition "reservation" id req target (.ok ())
        (leaseText target lease))
      (r.1, { s.processEvent req.requestId with reservations := r.2 }) := by
  simp only [reservationTransition, s.enforce_of_plain now id hreq hmeta hattempt,
    processEvent_reservations, checkBinding]
  cases s.reservations.transition "reservation" id req target (.ok ()) (leaseText target lease) with
  | error e =>
    show (_, s.processEvent req.requestId) = (_, { s.processEvent req.requestId with reservations := s.reservations })
    rw [processEvent_withReservations]
    rfl
  | ok p => rfl

end StateStore

/-! ### One call -/

theorem answerOf_map {α β : Type} (f : α → β) (r : Except Exn α) : answerOf (r.map f) = (answerOf r).map f := by
  cases r <;> rfl

/-- A call of the store against the same call of the machines: the same answer where there is a machine, an
error where there is none, and related states. -/
structure Simulates (fingerprint : String) (kept : String → String → Prop)
    (r : Except Exn Answer × StateStore) (a : Option (Except Exn Answer) × StateMachines) : Prop where
  answer : ∀ x, a.1 = some x → answerOf r.1 = answerOf x
  refused : a.1 = none → ∃ e, r.1 = .error e
  related : Related fingerprint kept r.2 a.2

namespace Simulates

variable {fingerprint : String} {kept : String → String → Prop} {s : StateStore} {m : StateMachines}

theorem missing {r : Except Exn Answer} (hr : ∃ e, r = .error e) (h : Related fingerprint kept s m) :
    Simulates fingerprint kept (r, s) (none, m) :=
  ⟨nofun, fun _ => hr, h⟩

theorem found {r a : Except Exn Answer} (hanswer : answerOf r = answerOf a) (h : Related fingerprint kept s m) :
    Simulates fingerprint kept (r, s) (some a, m) :=
  ⟨fun _ hx => by cases hx; exact hanswer, nofun, h⟩

theorem mapped {α : Type} {r a : Except Exn α} (f : α → Answer) (hanswer : answerOf r = answerOf a)
    (h : Related fingerprint kept s m) : Simulates fingerprint kept (r.map f, s) (some (a.map f), m) :=
  found (by rw [answerOf_map, answerOf_map, hanswer]) h

end Simulates

section
variable {fingerprint : String} {kept : String → String → Prop} {s : StateStore} {m : StateMachines}

theorem Related.processEvent (h : Related fingerprint kept s m) (e : String) :
    Related fingerprint kept (s.processEvent e) m :=
  ⟨by rw [processEvent_jobs]; exact h.jobs, by rw [processEvent_reservations]; exact h.reservations⟩

theorem SameTable.row_of_machine {S M : Type} {Rel : EntityTable S → String → EntityRow S → M → Prop}
    {t : EntityTable S} {ms : Dict String M} (h : SameTable Rel t ms) {id : String} {x : M}
    (hx : ms.get? id = some x) : ∃ row, t.rows.get? id = some row ∧ Rel t id row x := by
  cases hrow : t.rows.get? id with
  | none =>
    rw [(h.missing id).mp hrow] at hx
    cases hx
  | some row => exact ⟨row, rfl, h.same id row x hrow hx⟩

theorem Related.transitionJob (h : Related fingerprint kept s m) (clock : UtcTime)
    (jobId requestId : String) (expectedRevision : ℤ) (target : JobState) :
    Simulates fingerprint kept
      (s.step fingerprint clock (.transitionJob jobId requestId expectedRevision target))
      (m.step clock (.transitionJob jobId requestId expectedRevision target)) := by
  simp only [StateStore.step, StateMachines.step]
  by_cases hreq : requestId = ""
  · rw [StateStore.transitionJob, s.enforce_of_empty clock jobId hreq]
    cases hm : m.jobs.get? jobId with
    | none => exact .missing ⟨_, rfl⟩ h
    | some machine =>
      simp only [JobStateMachine.transition, RevisionedStateMachine.apply_, if_pos hreq]
      exact .found rfl ⟨h.jobs.set_same hm, h.reservations⟩
  · rw [transitionJob_plain s clock jobId hreq rfl rfl]
    have hreservations := (h.processEvent requestId).reservations
    cases hm : m.jobs.get? jobId with
    | none =>
      obtain ⟨e, he⟩ := h.jobs.transition_of_missing hm "job"
        { requestId, expectedRevision, requestFingerprint := fingerprint } target (.ok ()) fun _ => .ok none
      rw [he]
      exact .missing ⟨_, rfl⟩ ⟨h.jobs, hreservations⟩
    | some machine =>
      obtain ⟨row, hrow, hsame⟩ := h.jobs.row_of_machine hm
      have hstep := hsame.transition hrow { requestId, expectedRevision, requestFingerprint := fingerprint }
        hreq target (fun e he _ => hsame.fingerprints _ e he) "job" (fun _ => .ok none) rfl
      rcases hr : s.jobs.settle (s.jobs.transition "job" jobId
        { requestId, expectedRevision, requestFingerprint := fingerprint } target (.ok ())
        fun _ => .ok none) with ⟨r, jobs⟩
      rcases ha : machine.apply_ requestId expectedRevision target with ⟨a, machine'⟩
      simp only [hr, ha, JobStateMachine.transition] at hstep ⊢
      rcases hstep with ⟨hanswer, rfl, rfl, -⟩ | ⟨-, htable, hmachine⟩
      · exact .mapped _ hanswer ⟨h.jobs.set_same hm, hreservations⟩
      · cases htable
        cases hmachine
        exact .found rfl ⟨h.jobs.moved (hsame.moved target none rfl)
          fun id' row' m' hne hother => hother.moved_other hne _ _ _ _, hreservations⟩

/-! ### Calls on a reservation -/

theorem SameReservation.moved {t : EntityTable ReservationState} {id : String}
    {row : EntityRow ReservationState} {x : ReservationStateMachine}
    (h : SameReservation fingerprint kept t id row x) {req : Request} {target : ReservationState}
    (hallowed : target ∈ row.state.transitions) (lease : Option UtcTime)
    (hP : ReservationFingerprint fingerprint kept id req.requestId
      ⟨target, target, row.revision + 1, req.requestFingerprint⟩) :
    SameReservation fingerprint kept (t.moved id row req target lease) id
      ⟨target, row.revision + 1, lease⟩ ⟨x.machine.moved req.requestId target, lease⟩ where
  entity := h.entity.moved target lease hP
  lease := rfl
  candidate := by
    rintro rfl
    cases hstate : row.state <;> rw [hstate] at hallowed <;> simp [ReservationState.transitions] at hallowed
  expired requestId e he htarget := by
    simp only [EntityTable.moved, Dict.get?_set, Prod.mk.injEq, true_and] at he
    split at he
    · cases he
      exact htarget
    · rw [h.expired requestId e he htarget] at hallowed
      cases hallowed

variable {x : ReservationStateMachine}

theorem SameReservation.moved_other {t : EntityTable ReservationState} {id id' : String}
    {row : EntityRow ReservationState}
    (h : SameReservation fingerprint kept t id row x) (hne : id ≠ id') (row' : EntityRow ReservationState)
    (req : Request) (target : ReservationState) (lease : Option UtcTime) :
    SameReservation fingerprint kept (t.moved id' row' req target lease) id row x where
  entity := h.entity.moved_other hne row' req target lease
  lease := h.lease
  candidate := h.candidate
  expired requestId e he := by
    rw [t.effects_moved_of_ne hne] at he
    exact h.expired requestId e he

/-- **A transition of a reservation on both sides**: nothing, or the same move with the lease of the
store. -/
theorem Related.reservationTransition (h : Related fingerprint kept s m) (clock : UtcTime) {id : String}
    {row : EntityRow ReservationState}
    (hrow : s.reservations.rows.get? id = some row)
    (hsame : SameReservation fingerprint kept s.reservations id row x) (req : Request)
    (hmeta : req.commandMetadata = none) (hattempt : req.attemptNumber = none)
    (target : ReservationState) (expiry : Option AwareDatetime) {lease : Option UtcTime}
    (hlease : StateStore.leaseText target expiry row = .ok lease)
    (hfp : ∀ e, s.reservations.effects.get? (id, req.requestId) = some e → e.targetState = target →
      e.requestFingerprint = req.requestFingerprint)
    (hP : ReservationFingerprint fingerprint kept id req.requestId
      ⟨target, target, row.revision + 1, req.requestFingerprint⟩) :
    let r := s.reservationTransition clock id req target expiry none
    let a := x.machine.apply_ req.requestId req.expectedRevision target
    (answerOf r.1 = answerOf a.1 ∧ a.2 = x.machine ∧ (∀ y, a.1 = .ok y → y.changed = false) ∧
        Related fingerprint kept r.2 m) ∨
      (target ∈ row.state.transitions ∧
        r.1 = .ok ⟨target, row.revision + 1, req.requestId, true⟩ ∧
        a = (.ok ⟨target, row.revision + 1, req.requestId, true⟩, x.machine.moved req.requestId target) ∧
        Related fingerprint kept r.2 { m with
          reservations := m.reservations.set id ⟨x.machine.moved req.requestId target, lease⟩ }) := by
  intro r a
  by_cases hreq : req.requestId = ""
  · have hr : r = (.error (.value "request_id is required"), s) := by
      simp only [r, StateStore.reservationTransition, s.enforce_of_empty clock id hreq]
    have ha : a = (.error (.value "request_id is required"), x.machine) := if_pos hreq
    rw [hr, ha]
    exact .inl ⟨rfl, rfl, by rintro y ⟨⟩, h⟩
  · have hr : r = _ := s.reservationTransition_plain clock id hreq hmeta hattempt target expiry
    have hstep := hsame.entity.transition hrow req hreq target hfp "reservation"
      (leaseText target expiry) hlease
    rcases hsettle : s.reservations.settle (s.reservations.transition "reservation" id req target (.ok ())
      (leaseText target expiry)) with ⟨r₁, reservations⟩
    simp only [hsettle] at hstep hr
    rw [hr]
    have hjobs := (h.processEvent req.requestId).jobs
    rcases hstep with ⟨hanswer, rfl, hmachine, hunchanged⟩ | ⟨hallowed, htable, hmachine⟩
    · exact .inl ⟨hanswer, hmachine, hunchanged, hjobs, h.reservations⟩
    · cases htable
      exact .inr ⟨hallowed, rfl, hmachine, hjobs, h.reservations.moved (hsame.moved hallowed lease hP)
        fun id' row' m' hne hother => hother.moved_other hne _ _ _ _⟩

variable {target : ReservationState}

/-- A machine whose step changed nothing has the transition's answer and is what it was. -/
theorem ReservationStateMachine.transition_of_stayed

    (hm : (x.machine.apply_ requestId expectedRevision target).2 = x.machine)
    (hunchanged : ∀ y, (x.machine.apply_ requestId expectedRevision target).1 = .ok y → y.changed = false) :
    x.transition requestId expectedRevision target = ((x.machine.apply_ requestId expectedRevision target).1, x) := by
  unfold transition
  generalize x.machine.apply_ requestId expectedRevision target = r at hm hunchanged
  obtain ⟨a, machine⟩ := r
  cases hm
  cases a with
  | error e => rfl
  | ok y => simp only [hunchanged y rfl, Bool.false_and, Bool.false_eq_true, if_false]

theorem ReservationStateMachine.transition_of_moved {revision : ℕ}
    (ha : x.machine.apply_ requestId expectedRevision target
      = (.ok ⟨target, revision, requestId, true⟩, x.machine.moved requestId target)) :
    x.transition requestId expectedRevision target = (.ok ⟨target, revision, requestId, true⟩,
        ⟨x.machine.moved requestId target, if target.endsLease then none else x.leaseExpiresAt⟩) := by
  simp only [transition, ha, Bool.true_and]

theorem SameReservation.leaseText {t : EntityTable ReservationState} {id : String} {row : EntityRow ReservationState}
    (h : SameReservation fingerprint kept t id row x)
    (hallowed : target ∈ row.state.transitions) :
    StateStore.leaseText target none row
      = .ok (if target.endsLease then none else x.leaseExpiresAt) := by
  unfold StateStore.leaseText
  by_cases hleased : target = .leased
  · subst hleased
    have hcandidate : row.state = .candidate := by
      cases hstate : row.state <;> rw [hstate] at hallowed <;>
        simp [ReservationState.transitions] at hallowed
    rw [if_pos rfl, ← h.lease, h.candidate hcandidate]
    rfl
  · rw [if_neg hleased, ← h.lease]
    split <;> rfl

theorem leaseText_none (target : ReservationState) (row : EntityRow ReservationState) :
    ∃ lease, StateStore.leaseText target none row = .ok lease := by
  unfold leaseText
  split
  · exact ⟨_, rfl⟩
  · split
    · exact ⟨_, rfl⟩
    · exact ⟨_, rfl⟩

section

variable (h : Related fingerprint kept s m) (clock : UtcTime)
include h

/-- The generic transition of a reservation on both sides, under the fingerprint of the call. -/
theorem Related.plainTransition {id : String} (hx : m.reservations.get? id = some x) (req : Request)
    (hmeta : req.commandMetadata = none) (hattempt : req.attemptNumber = none)
    (target : ReservationState)
    (hfp : ∀ e, s.reservations.effects.get? (id, req.requestId) = some e → e.targetState = target →
      e.requestFingerprint = req.requestFingerprint)
    (hP : ∀ n, ReservationFingerprint fingerprint kept id req.requestId
      ⟨target, target, n, req.requestFingerprint⟩) :
    let r := s.transitionReservation clock id req target
    let a := x.transition req.requestId req.expectedRevision target
    answerOf r.1 = answerOf a.1 ∧
      Related fingerprint kept r.2 { m with reservations := m.reservations.set id a.2 } := by
  intro r a
  obtain ⟨row, hrow, hsame⟩ := h.reservations.row_of_machine hx
  obtain ⟨lease, hlease⟩ := leaseText_none target row
  rcases h.reservationTransition clock hrow hsame req hmeta hattempt target none hlease hfp (hP _) with
    ⟨hanswer, hm, hunchanged, hrelated⟩ | ⟨hallowed, hr, hmoved, hrelated⟩
  · have ha : a = _ := transition_of_stayed hm hunchanged
    rw [ha]
    exact ⟨hanswer, hrelated.jobs, hrelated.reservations.set_same hx⟩
  · have ha : a = _ := transition_of_moved hmoved
    rw [hsame.leaseText hallowed] at hlease
    cases hlease
    rw [ha]
    exact ⟨congrArg answerOf hr, hrelated⟩

theorem Related.reservationTransition_of_missing {id : String} (hx : m.reservations.get? id = none) (req : Request)
    (hmeta : req.commandMetadata = none) (hattempt : req.attemptNumber = none)
    (target : ReservationState) (expiry : Option AwareDatetime) :
    (∃ e, (s.reservationTransition clock id req target expiry none).1 = .error e) ∧
      Related fingerprint kept (s.reservationTransition clock id req target expiry none).2 m := by
  by_cases hreq : req.requestId = ""
  · rw [StateStore.reservationTransition, s.enforce_of_empty clock id hreq]
    exact ⟨⟨_, rfl⟩, h⟩
  · obtain ⟨e, he⟩ := h.reservations.transition_of_missing hx "reservation" req target (.ok ())
      (leaseText target expiry)
    rw [s.reservationTransition_plain clock id hreq hmeta hattempt, he]
    exact ⟨⟨_, rfl⟩, (h.processEvent req.requestId).jobs, h.reservations⟩

theorem Related.transitionReservation {id : String}
    (hop : (StateOp.transitionReservation id requestId expectedRevision target).Within fingerprint kept) :
    Simulates fingerprint kept
      (s.step fingerprint clock (.transitionReservation id requestId expectedRevision target))
      (m.step clock (.transitionReservation id requestId expectedRevision target)) := by
  simp only [step, StateMachines.step]
  cases hx : m.reservations.get? id with
  | none =>
    obtain ⟨⟨e, he⟩, hrelated⟩ := h.reservationTransition_of_missing clock hx
      { requestId, expectedRevision, requestFingerprint := fingerprint } rfl rfl target none
    exact .missing ⟨e, by rw [StateStore.transitionReservation, he]; rfl⟩ hrelated
  | some x =>
    obtain ⟨row, -, hsame⟩ := h.reservations.row_of_machine hx
    have hfp : ∀ e, s.reservations.effects.get? (id, requestId) = some e → e.targetState = target →
        e.requestFingerprint = fingerprint := by
      intro e he htarget
      rcases hsame.entity.fingerprints requestId e he with hfp | ⟨hfp, hexpired, hkept⟩
      · exact hfp
      · rw [hfp, hop (htarget.symm.trans hexpired) hkept]
    obtain ⟨hanswer, hrelated⟩ := h.plainTransition clock hx
      { requestId, expectedRevision, requestFingerprint := fingerprint } rfl rfl target hfp
      (fun n => .inl rfl)
    exact .mapped _ hanswer hrelated

theorem Related.futureLease {id : String} (hx : m.reservations.get? id = some x) (req : Request)
    (hmeta : req.commandMetadata = none) (hattempt : req.attemptNumber = none)
    (hfingerprint : req.requestFingerprint = fingerprint) {expiry : AwareDatetime}
    (hfuture : ¬expiry.instant ≤ clock.micros) (hutc : expiry.astimezone.isSome) :
    let r := s.reservationTransition clock id req .leased (some expiry) none
    let a := x.lease clock req.requestId req.expectedRevision (.aware expiry)
    answerOf r.1 = answerOf a.1 ∧
      Related fingerprint kept r.2 { m with reservations := m.reservations.set id a.2 } := by
  intro r a
  obtain ⟨row, hrow, hsame⟩ := h.reservations.row_of_machine hx
  obtain ⟨utc, hutc⟩ := Option.isSome_iff_exists.mp hutc
  have hlease : leaseText .leased (some expiry) row = .ok (some utc) := by
    simp only [leaseText, if_true, hutc]
  have hfp : ∀ e, s.reservations.effects.get? (id, req.requestId) = some e →
      e.targetState = .leased → e.requestFingerprint = req.requestFingerprint := by
    intro e he htarget
    rcases hsame.entity.fingerprints req.requestId e he with hfp | ⟨-, hexpired, -⟩
    · rw [hfp, hfingerprint]
    · rw [hexpired] at htarget
      cases htarget
  rcases h.reservationTransition clock hrow hsame req hmeta hattempt .leased (some expiry) hlease hfp
    (.inl hfingerprint) with ⟨hanswer, hm, hunchanged, hrelated⟩ | ⟨-, hr, hmoved, hrelated⟩
  · have ha : a = ((x.machine.apply_ req.requestId req.expectedRevision .leased).1, x) := by
      simp only [a, lease, if_neg hfuture,
        transition_of_stayed hm hunchanged]
      cases happly : (x.machine.apply_ req.requestId req.expectedRevision .leased).1 with
      | error e => rfl
      | ok y => simp only [hunchanged y happly, Bool.false_eq_true, if_false]
    rw [ha]
    exact ⟨hanswer, hrelated.jobs, hrelated.reservations.set_same hx⟩
  · have ha : a = (.ok ⟨.leased, row.revision + 1, req.requestId, true⟩,
        ⟨x.machine.moved req.requestId .leased, some utc⟩) := by
      simp only [a, lease, if_neg hfuture,
        transition_of_moved hmoved, if_true, hutc]
    rw [ha]
    exact ⟨congrArg answerOf hr, hrelated⟩

theorem Related.leaseReservation {id : String} {expiresAt : Datetime}
    (hop : (StateOp.leaseReservation id requestId expectedRevision expiresAt).Within fingerprint kept) :
    Simulates fingerprint kept (s.step fingerprint clock (.leaseReservation id requestId expectedRevision expiresAt))
      (m.step clock (.leaseReservation id requestId expectedRevision expiresAt)) := by
  -- both sides look at the expiry before anything else
  have hrefused : ∀ e, s.leaseReservation clock id
        { requestId, expectedRevision, requestFingerprint := fingerprint } expiresAt = (.error e, s) →
      (∀ x : ReservationStateMachine, x.lease clock requestId expectedRevision expiresAt = (.error e, x)) →
      Simulates fingerprint kept
        (s.step fingerprint clock (.leaseReservation id requestId expectedRevision expiresAt))
        (m.step clock (.leaseReservation id requestId expectedRevision expiresAt)) := by
    intro e hstore hmachine
    simp only [step, StateMachines.step, hstore]
    cases hx : m.reservations.get? id with
    | none => exact .missing ⟨_, rfl⟩ h
    | some x =>
      simp only [hmachine x]
      exact .found rfl ⟨h.jobs, h.reservations.set_same hx⟩
  cases expiresAt with
  | naive wall => exact hrefused _ rfl fun x => rfl
  | aware expiry =>
    by_cases hpast : expiry.instant ≤ clock.micros
    · exact hrefused (.value "expires_at must be in the future") (if_pos hpast) fun x => if_pos hpast
    · have hstore : s.leaseReservation clock id
          { requestId, expectedRevision, requestFingerprint := fingerprint } (.aware expiry)
          = s.reservationTransition clock id
            { requestId, expectedRevision, requestFingerprint := fingerprint } .leased (some expiry) none :=
        if_neg hpast
      simp only [step, StateMachines.step, hstore]
      cases hx : m.reservations.get? id with
      | none =>
        obtain ⟨⟨e, he⟩, hrelated⟩ := h.reservationTransition_of_missing clock hx
          { requestId, expectedRevision, requestFingerprint := fingerprint } rfl rfl .leased (some expiry)
        exact .missing ⟨e, by rw [he]; rfl⟩ hrelated
      | some x =>
        obtain ⟨hanswer, hrelated⟩ := h.futureLease clock hx
          { requestId, expectedRevision, requestFingerprint := fingerprint } rfl rfl rfl hpast hop
        exact .mapped _ hanswer hrelated

theorem Related.expireIfDue {id : String} {d : AwareDatetime}
    (hop : (StateOp.expireIfDue id requestId expectedRevision (.aware d)).Within fingerprint kept) :
    Simulates fingerprint kept
      (s.step fingerprint clock (.expireIfDue id requestId expectedRevision (.aware d)))
      (m.step clock (.expireIfDue id requestId expectedRevision (.aware d))) := by
  simp only [step, StateMachines.step, expireReservationIfDue]
  cases hx : m.reservations.get? id with
  | none =>
    simp only [(h.reservations.missing id).mpr hx]
    exact .missing ⟨_, rfl⟩ h
  | some x =>
    obtain ⟨row, hrow, hsame⟩ := h.reservations.row_of_machine hx
    simp only [hrow]
    have hquiet : ∀ r : Except Exn (Option (TransitionResult ReservationState)),
        Simulates fingerprint kept (r.map Answer.ofExpiry, s)
          (some (r.map Answer.ofExpiry), { m with reservations := m.reservations.set id x }) :=
      fun r => .found rfl ⟨h.jobs, h.reservations.set_same hx⟩
    by_cases hleased : row.state = .leased
    · have hstate : x.machine.state = .leased := hsame.entity.state.symm.trans hleased
      cases hlease : row.leaseExpiresAt with
      | none =>
        have hx' : x.leaseExpiresAt = none := hsame.lease.symm.trans hlease
        simp only [leaseDue, hleased, hlease, ReservationStateMachine.expireIfDue, hx', hstate]
        exact hquiet (.ok none)
      | some lease =>
        have hx' : x.leaseExpiresAt = some lease := hsame.lease.symm.trans hlease
        simp only [leaseDue, hleased, hlease, ReservationStateMachine.expireIfDue, hx', hstate]
        cases hutc : d.astimezone with
        | none => exact hquiet (.error (.overflow "date value out of range"))
        | some utc =>
          by_cases hdue : lease.micros ≤ utc.micros
          · have hfp : ∀ e, s.reservations.effects.get? (id, requestId) = some e →
                e.targetState = .expired → e.requestFingerprint = "" := by
              intro e he htarget
              rw [hsame.expired requestId e he htarget] at hleased
              cases hleased
            obtain ⟨hanswer, hrelated⟩ := h.plainTransition clock hx { requestId, expectedRevision } rfl rfl
              .expired hfp fun n => .inr ⟨rfl, rfl, hop⟩
            simp only [hdue, decide_true, not_lt.mpr hdue, if_false]
            rcases hr : s.transitionReservation clock id { requestId, expectedRevision } .expired
              with ⟨r, s'⟩
            rcases ha : x.transition requestId expectedRevision .expired with ⟨a, x'⟩
            simp only [hr, ha] at hanswer hrelated
            cases r with
            | error e =>
              cases a with
              | error e' => exact .found (congrArg Except.error (Except.error.inj hanswer)) hrelated
              | ok y => cases hanswer
            | ok y =>
              cases a with
              | error e' => cases hanswer
              | ok y' =>
                cases Except.ok.inj hanswer
                exact .found rfl hrelated
          · simp only [hdue, decide_false, not_le.mp hdue, if_true]
            exact hquiet (.ok none)
    · have hstate : x.machine.state ≠ .leased := fun heq => hleased (hsame.entity.state.trans heq)
      have hdue : leaseDue row d = .ok false := by
        unfold leaseDue
        split
        · rename_i heq _
          exact absurd heq hleased
        · rfl
      have hmachine : x.expireIfDue requestId expectedRevision (.aware d) = (.ok none, x) := by
        unfold ReservationStateMachine.expireIfDue
        split
        · rename_i heq _
          exact absurd heq hstate
        · rfl
      simp only [hdue, hmachine]
      exact hquiet (.ok none)

theorem Related.ensureJob (jobId : String) : Simulates fingerprint kept (s.step fingerprint clock (.ensureJob jobId))
      (m.step clock (.ensureJob jobId)) := by
  by_cases hid : jobId = ""
  · simp only [StateStore.step, StateStore.ensureJob, StateMachines.step, if_pos hid]
    exact .missing ⟨_, rfl⟩ h
  · have hjobs := h.jobs.ensure jobId .created (.new .created)
      (fun hnone => ⟨rfl, rfl, fun requestId => by
          simp [EntityTable.prior, RevisionedStateMachine.prior, RevisionedStateMachine.new,
            h.jobs.known jobId requestId hnone],
        fun requestId e he => by simp [h.jobs.known jobId requestId hnone] at he⟩)
      fun id' row' m' _ hother => ⟨hother.state, hother.revision, hother.prior, hother.fingerprints⟩
    simp only [StateStore.step, StateStore.ensureJob, StateMachines.step, if_neg hid]
    split at hjobs <;> rename_i hknown <;> simp only [hknown] <;> exact .found rfl ⟨hjobs, h.reservations⟩

theorem Related.ensureReservation (id : String) :
    Simulates fingerprint kept (s.step fingerprint clock (.ensureReservation id))
      (m.step clock (.ensureReservation id)) := by
  by_cases hid : id = ""
  · simp only [StateStore.step, StateStore.ensureReservation, StateMachines.step, if_pos hid]
    exact .missing ⟨_, rfl⟩ h
  · have hreservations := h.reservations.ensure id .candidate .new (fun hnone =>
        { entity := ⟨rfl, rfl, fun requestId => by
              simp [EntityTable.prior, RevisionedStateMachine.prior, new,
                RevisionedStateMachine.new, h.reservations.known id requestId hnone],
            fun requestId e he => by simp [h.reservations.known id requestId hnone] at he⟩
          lease := rfl
          candidate := fun _ => rfl
          expired := fun requestId e he => by simp [h.reservations.known id requestId hnone] at he })
      fun id' row' m' _ hother =>
        ⟨⟨hother.entity.state, hother.entity.revision, hother.entity.prior, hother.entity.fingerprints⟩,
          hother.lease, hother.candidate, hother.expired⟩
    simp only [StateStore.step, StateStore.ensureReservation, StateMachines.step, if_neg hid]
    split at hreservations <;> rename_i hknown <;> simp only [hknown] <;> exact .found rfl ⟨h.jobs, hreservations⟩

/-- **One call**, of any kind. -/
theorem Related.step {op : StateOp} (hop : op.Within fingerprint kept) :
    Simulates fingerprint kept (s.step fingerprint clock op) (m.step clock op) := by
  cases op with
  | ensureJob jobId => exact h.ensureJob clock jobId
  | ensureReservation id => exact h.ensureReservation clock id
  | transitionJob jobId requestId expectedRevision target =>
    exact h.transitionJob clock jobId requestId expectedRevision target
  | transitionReservation id requestId expectedRevision target => exact h.transitionReservation clock hop
  | leaseReservation id requestId expectedRevision expiresAt => exact h.leaseReservation clock hop
  | expireIfDue id requestId expectedRevision now =>
    cases now with
    | naive wall => cases hop
    | aware d => exact h.expireIfDue clock hop

end

end

/-! ### Runs -/

/-- The two agree on state, revision and lease expiry of every entity. -/
def Agree (s : StateStore) (m : StateMachines) : Prop :=
  (∀ id, (s.jobs.rows.get? id).map (fun row => (row.state, row.revision))
      = (m.jobs.get? id).map fun x => (x.state, x.revision)) ∧
    ∀ id, (s.reservations.rows.get? id).map (fun row => (row.state, row.revision, row.leaseExpiresAt))
      = (m.reservations.get? id).map fun x => (x.machine.state, x.machine.revision, x.leaseExpiresAt)

theorem Related.agree {fingerprint : String} {kept : String → String → Prop} {s : StateStore}
    {m : StateMachines} (h : Related fingerprint kept s m) : Agree s m := by
  refine ⟨fun id => ?_, fun id => ?_⟩
  · cases hm : m.jobs.get? id with
    | none => rw [(h.jobs.missing id).mpr hm]; rfl
    | some x =>
      obtain ⟨row, hrow, hsame⟩ := h.jobs.row_of_machine hm
      rw [hrow]
      simp [hsame.state, hsame.revision]
  · cases hm : m.reservations.get? id with
    | none => rw [(h.reservations.missing id).mpr hm]; rfl
    | some x =>
      obtain ⟨row, hrow, hsame⟩ := h.reservations.row_of_machine hm
      rw [hrow]
      simp [hsame.entity.state, hsame.entity.revision, hsame.lease]

/-- The store after a history of calls. -/
def StateStore.after (fingerprint : String) (s : StateStore) (ops : List (UtcTime × StateOp)) :
    StateStore :=
  Run.exec (fun s op => (s.step fingerprint op.1 op.2).2) s ops

/-- The machines after the same history. -/
def StateMachines.after (m : StateMachines) (ops : List (UtcTime × StateOp)) : StateMachines :=
  Run.exec (fun m op => (m.step op.1 op.2).2) m ops

/-- **The store refines the machines.**  From related states, after any history, the next call has the same
answer on both sides, up to the message of an error, and leaves the two in agreement on every entity; a call
that names no machine is refused by the store. -/
theorem store_refines_machines (fingerprint : String) (kept : String → String → Prop) {s : StateStore}
    {m : StateMachines} (h : Related fingerprint kept s m) (history : List (UtcTime × StateOp))
    (clock : UtcTime) (op : StateOp)
    (hops : ∀ o ∈ history, o.2.Within fingerprint kept) (hop : op.Within fingerprint kept) :
    (∀ x, ((m.after history).step clock op).1 = some x →
        answerOf ((s.after fingerprint history).step fingerprint clock op).1 = answerOf x) ∧
      (((m.after history).step clock op).1 = none →
        ∃ e, ((s.after fingerprint history).step fingerprint clock op).1 = .error e) ∧
      Agree ((s.after fingerprint history).step fingerprint clock op).2 ((m.after history).step clock op).2 := by
  have hrelated : Related fingerprint kept (s.after fingerprint history) (m.after history) :=
    Run.exec_simulates (Related fingerprint kept) (fun s m o hsm ho => (hsm.step o.1 ho).related) h hops
  have hstep := hrelated.step clock hop
  exact ⟨hstep.answer, hstep.refused, hstep.related.agree⟩

theorem related_empty (fingerprint : String) (kept : String → String → Prop) :
    Related fingerprint kept .empty .empty where
  jobs := ⟨fun _ _ _ => rfl, fun _ => iff_of_true rfl rfl, fun _ _ _ h => by cases h⟩
  reservations := ⟨fun _ _ _ => rfl, fun _ => iff_of_true rfl rfl, fun _ _ _ h => by cases h⟩

/-! ### Sample runs -/

/-- A reservation leased for ten seconds. -/
def sampleLease : List (UtcTime × StateOp) :=
  [(sampleTime 0 second_zero, .ensureReservation "res-1"), (sampleTime 0 second_zero,
      .leaseReservation "res-1" "lease" 0 (.aware (sampleTime 10 second_ten).aware))]

/-- When the lease of the sample run is due, store and machine expire it alike. -/
theorem store_refines_machines_sample : (∀ o ∈ sampleLease, o.2.Within "fp" fun _ r => r = "expire") ∧
      (((StateMachines.empty.after sampleLease).step (sampleTime 10 (by decide))
        (.expireIfDue "res-1" "expire" 1 (.aware (sampleTime 10 (by decide)).aware))).1.map answerOf
          = some (.ok (.reservation ⟨.expired, 2, "expire", true⟩))) ∧
      answerOf ((StateStore.empty.after "fp" sampleLease).step "fp" (sampleTime 10 (by decide))
        (.expireIfDue "res-1" "expire" 1 (.aware (sampleTime 10 (by decide)).aware))).1
          = .ok (.reservation ⟨.expired, 2, "expire", true⟩) := by
  have hops : ∀ o ∈ sampleLease, o.2.Within "fp" fun _ r => r = "expire" := by
    intro o ho
    simp only [sampleLease, List.mem_cons, List.not_mem_nil, or_false] at ho
    rcases ho with rfl | rfl
    · trivial
    · simp [StateOp.Within]
  have hmachine : ((StateMachines.empty.after sampleLease).step (sampleTime 10 (by decide))
      (.expireIfDue "res-1" "expire" 1 (.aware (sampleTime 10 (by decide)).aware))).1
        = some (.ok (.reservation ⟨.expired, 2, "expire", true⟩)) := by decide
  refine ⟨hops, by rw [hmachine]; rfl, ?_⟩
  exact (store_refines_machines "fp" (fun _ r => r = "expire") (related_empty _ _) sampleLease
    (sampleTime 10 (by decide))
    (.expireIfDue "res-1" "expire" 1 (.aware (sampleTime 10 (by decide)).aware)) hops rfl).1 _ hmachine

/-- An expiry in the last hour of year 9999, an hour west of UTC. -/
def lateExpiry : AwareDatetime := ⟨maxMicros - 1, -3600000000, by decide, by decide⟩

/-- **Where the two part.**  Under the constant fingerprint `fp`, a transition to `EXPIRED` that repeats the
request of the expiry is a conflict in the store, which recorded the expiry without a fingerprint, and a
replay in the machine.  And a lease until `lateExpiry` is refused on both sides, after the machine has moved
and before the store has. -/
theorem store_and_machine_differ : (let expired := sampleLease ++ [(sampleTime 10 (by decide),
        StateOp.expireIfDue "res-1" "expire" 1 (.aware (sampleTime 10 (by decide)).aware))]
      let again := StateOp.transitionReservation "res-1" "expire" 1 .expired
      ((StateMachines.empty.after expired).step (sampleTime 11 (by decide)) again).1.map answerOf
          = some (.ok (.reservation ⟨.expired, 2, "expire", false⟩)) ∧
        answerOf ((StateStore.empty.after "fp" expired).step "fp" (sampleTime 11 (by decide)) again).1
          = .error .idempotencyConflict) ∧
      (let created := [(sampleTime 0 (by decide), StateOp.ensureReservation "res-1")]
        let lease := StateOp.leaseReservation "res-1" "lease" 0 (.aware lateExpiry)
        ((((StateMachines.empty.after created).step (sampleTime 0 (by decide)) lease).2.reservations.get?
            "res-1").map fun x => (x.machine.state, x.machine.revision)) = some (.leased, 1) ∧
          ((((StateStore.empty.after "" created).step "" (sampleTime 0
            (by decide)) lease).2.reservations.rows.get? "res-1").map fun row => (row.state, row.revision))
            = some (.candidate, 0)) := by
  decide

end ComputeMesh.Orchestrator
