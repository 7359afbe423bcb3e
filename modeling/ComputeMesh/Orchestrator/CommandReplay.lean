import ComputeMesh.Orchestrator.StoreCalls

/-!
# Repeating an accepted command

A command that was accepted has its effect in the store, and nothing removes it.  Whether repeating the
command reaches that effect is another matter: the future check of a lease, the expiry of the command and the
registration of its attempt run first, outside the transaction.

* `StateStore.Enforced`, `EntityTable.Recorded` — what an accepted command leaves behind, and what growing
  keeps;
* `Command.InTime`, `Command.Unexpired` — the checks against the clock, at the time of the repetition;
* `accepted_command_repeats` — **the repetition changes nothing, and it returns the original outcome unless a
  check stands in its way**.
-/

namespace ComputeMesh.Orchestrator

/-! ### What an accepted command leaves behind -/

/-- The enforcers have let the request pass before. -/
structure StateStore.Enforced (s : StateStore) (id : String) (req : Request) : Prop where
  named : req.requestId ≠ ""
  seen : req.requestId ∈ s.deduplicatedEvents
  attempted : ∀ n, req.attemptNumber = some n → ∃ m, s.explicitRetries.get? id = some m ∧ n ≤ m

/-- The effect of the request, with the state and revision that were returned. -/
def EntityTable.Recorded {S : Type} (t : EntityTable S) (id : String) (req : Request) (target : S)
    (a : TransitionResult S) : Prop :=
  ∃ e, t.effects.get? (id, req.requestId) = some e ∧ e.Answers req target ∧
    e.replay req.requestId = { a with changed := false }

namespace StateStore

variable {s s' : StateStore} {now : UtcTime} {id : String} {req : Request}

theorem Enforced.grows (h : s.Enforced id req) (hgrows : s.Grows s') : s'.Enforced id req where
  named := h.named
  seen := hgrows.events h.seen
  attempted n hn := by
    obtain ⟨m, hm, hle⟩ := h.attempted n hn
    obtain ⟨m', hm', hle'⟩ := hgrows.retries id m hm
    exact ⟨m', hm', hle.trans hle'⟩

theorem mem_processEvent (s : StateStore) (e : String) : e ∈ (s.processEvent e).deduplicatedEvents := by
  unfold processEvent
  split
  · assumption
  · exact List.mem_cons_self

theorem processEvent_of_mem {e : String} (h : e ∈ s.deduplicatedEvents) : s.processEvent e = s :=
  if_pos h

theorem enforced_of_enforce (h : (s.enforce now id req).1 = .ok ()) : (s.enforce now id req).2.Enforced id req := by
  revert h
  rw [enforce]
  split
  · intro h
    cases h
  · rename_i hnamed
    have hseen := s.mem_processEvent req.requestId
    split
    · intro h
      cases h
    · split
      · rename_i hattempt
        exact fun _ => ⟨hnamed, hseen, fun n hn => by rw [hattempt] at hn; cases hn⟩
      · rename_i attempt hattempt
        simp only [registerAttempt]
        split
        · intro h
          cases h
        · split
          · intro h
            cases h
          · refine fun _ => ⟨hnamed, hseen, fun n hn => ⟨attempt, Dict.get?_set_self _ _ _, ?_⟩⟩
            rw [hattempt] at hn
            cases hn
            exact le_rfl

/-- **The enforcers on a request they have let pass**: they change nothing, and a registered attempt is not
registered again. -/
theorem Enforced.enforce_again (h : s.Enforced id req) (now : UtcTime) : (s.enforce now id req).2 = s ∧
      (validateMetadata req.commandMetadata now.timestamp = .ok () → req.attemptNumber = none →
        (s.enforce now id req).1 = .ok ()) ∧
      (validateMetadata req.commandMetadata now.timestamp = .ok () → req.attemptNumber ≠ none →
        ∃ m, (s.enforce now id req).1 = .error (.implicitRetry m)) ∧
      ∀ e, validateMetadata req.commandMetadata now.timestamp = .error e → (s.enforce now id req).1 = .error e := by
  simp only [enforce, if_neg h.named, processEvent_of_mem h.seen]
  cases hmeta : validateMetadata req.commandMetadata now.timestamp with
  | error e =>
    refine ⟨rfl, by rintro ⟨⟩, by rintro ⟨⟩, fun e' he' => ?_⟩
    cases he'
    rfl
  | ok u =>
    cases hattempt : req.attemptNumber with
    | none => exact ⟨rfl, fun _ _ => rfl, fun _ hn => absurd rfl hn, by rintro e ⟨⟩⟩
    | some n =>
      obtain ⟨m, hm, hle⟩ := h.attempted n hattempt
      simp only [registerAttempt, hm, Option.getD_some, if_pos hle]
      exact ⟨trivial, by rintro - ⟨⟩, fun _ _ => ⟨_, rfl⟩, by rintro e ⟨⟩⟩

/-- A job transition that returns has passed the enforcers and has its effect in the store. -/
theorem transitionJob_recorded {target : JobState} {a : TransitionResult JobState}
    (h : (s.transitionJob now id req target).1 = .ok a) :
    (s.transitionJob now id req target).2.Enforced id req ∧
      (s.transitionJob now id req target).2.jobs.Recorded id req target a := by
  obtain ⟨hjobs, -, -⟩ := s.enforce_frame now id req
  have houtcome := s.transitionJob_cases now id req target
  generalize s.transitionJob now id req target = r at h houtcome
  cases houtcome with
  | refused e => cases h
  | replayed e henforced heffect hans =>
    cases h
    refine ⟨enforced_of_enforce henforced, e, ?_, hans, rfl⟩
    rw [hjobs]
    exact heffect
  | moved row henforced hready =>
    cases h
    have hpassed := enforced_of_enforce henforced
    refine ⟨⟨hpassed.named, hpassed.seen, hpassed.attempted⟩,
      ⟨target, target, row.revision + 1, req.requestFingerprint⟩, ?_, ⟨rfl, rfl⟩, rfl⟩
    exact Dict.get?_set_self _ _ _

theorem reservationTransition_recorded {target : ReservationState} {expiry : Option AwareDatetime}
    {binding : Option (String × String)} {a : TransitionResult ReservationState}
    (h : (s.reservationTransition now id req target expiry binding).1 = .ok a) :
    (s.reservationTransition now id req target expiry binding).2.Enforced id req ∧
      (s.reservationTransition now id req target expiry binding).2.reservations.Recorded id req target a := by
  obtain ⟨-, hreservations, -⟩ := s.enforce_frame now id req
  have houtcome := s.reservationTransition_cases now id req target expiry binding
  generalize s.reservationTransition now id req target expiry binding = r at h houtcome
  cases houtcome with
  | refused e => cases h
  | replayed e henforced heffect hans =>
    cases h
    refine ⟨enforced_of_enforce henforced, e, ?_, hans, rfl⟩
    rw [hreservations]
    exact heffect
  | moved row lease henforced hready hcheck hlease hfree =>
    cases h
    have hpassed := enforced_of_enforce henforced
    refine ⟨⟨hpassed.named, hpassed.seen, hpassed.attempted⟩,
      ⟨target, target, row.revision + 1, req.requestFingerprint⟩, ?_, ⟨rfl, rfl⟩, rfl⟩
    exact Dict.get?_set_self _ _ _

/-- **A recorded job transition asked for again**: nothing changes, and past the enforcers the outcome is the
recorded one. -/
theorem transitionJob_again {target : JobState} {a : TransitionResult JobState} (hs : s.Enforced id req)
    (hr : s.jobs.Recorded id req target a) (now : UtcTime) :
    s.transitionJob now id req target = ((s.enforce now id req).1.map fun _ => { a with changed := false }, s) := by
  have hsame := (hs.enforce_again now).1
  rw [transitionJob]
  rcases henforce : s.enforce now id req with ⟨r, s₁⟩
  rw [henforce] at hsame
  subst hsame
  cases r with
  | error e => rfl
  | ok u =>
    obtain ⟨e, he, hans, hreplay⟩ := hr
    simp only [EntityTable.transition_of_answers he hans, hreplay]
    rfl

theorem reservationTransition_again {target : ReservationState} {a : TransitionResult ReservationState}
    (hs : s.Enforced id req) (hr : s.reservations.Recorded id req target a) (now : UtcTime)
    (expiry : Option AwareDatetime) (binding : Option (String × String)) :
    s.reservationTransition now id req target expiry binding
      = ((s.enforce now id req).1.map fun _ => { a with changed := false }, s) := by
  have hsame := (hs.enforce_again now).1
  rw [reservationTransition]
  rcases henforce : s.enforce now id req with ⟨r, s₁⟩
  rw [henforce] at hsame
  subst hsame
  cases r with
  | error e => rfl
  | ok u =>
    obtain ⟨e, he, hans, hreplay⟩ := hr
    simp only [EntityTable.transition_of_answers he hans, hreplay]
    cases binding with
    | none => rfl
    | some b => simp only [if_true]; rfl

end StateStore

/-! ### The repetition -/

namespace Command

/-- The effect of a command is in the store, with what the command returned. -/
def Recorded (s : StateStore) : Command → CommandResult → Prop
  | leaseReservation id req _, .reservation a => s.reservations.Recorded id req .leased a
  | commitReservation id req _ _, .reservation a => s.reservations.Recorded id req .committed a
  | transitionReservation id req target, .reservation a => s.reservations.Recorded id req target a
  | transitionJob id req target, .job a => s.jobs.Recorded id req target a
  | _, _ => False

/-- The arguments pass the checks that do not depend on the time. -/
def WellFormed : Command → Prop
  | leaseReservation _ _ (.naive _) => False
  | commitReservation _ _ jobId stageId => ¬(jobId = "" ∨ stageId = "")
  | _ => True

/-- A lease still ends in the future; every other command is always in time. -/
def InTime (now : UtcTime) : Command → Prop
  | leaseReservation _ _ (.naive _) => False
  | leaseReservation _ _ (.aware expiry) => now.micros < expiry.instant
  | _ => True

/-- The command has not expired. -/
def Unexpired (c : Command) (now : UtcTime) : Prop :=
  StateStore.validateMetadata c.request.commandMetadata now.timestamp = .ok ()

variable {s s' : StateStore} {now : UtcTime} {c : Command} {a : CommandResult}

theorem Recorded.grows (h : c.Recorded s a) (hgrows : s.Grows s') : c.Recorded s' a := by
  cases c <;> cases a <;> try cases h
  case transitionJob.job e h =>
    exact ⟨e, hgrows.jobs _ _ h.1, h.2⟩
  all_goals
    rename_i e h
    exact ⟨e, hgrows.reservations _ _ h.1, h.2⟩

theorem exists_ok_of_map {α β : Type} {f : α → β} {x : Except Exn α} {b : β} (h : x.map f = .ok b) :
    ∃ a, x = .ok a ∧ f a = b := by
  cases x with
  | error e => cases h
  | ok a => exact ⟨a, rfl, by cases h; rfl⟩

/-- **What an accepted command leaves behind.** -/
theorem recorded_of_run (h : (c.run s now).1 = .ok a) :
    c.WellFormed ∧ (c.run s now).2.Enforced c.id c.request ∧ c.Recorded (c.run s now).2 a := by
  cases c with
  | leaseReservation id req expiresAt =>
    simp only [run, StateStore.leaseReservation] at h ⊢
    cases expiresAt with
    | naive d => cases h
    | aware expiry =>
      dsimp only at h ⊢
      split at h
      · cases h
      · rename_i hfuture
        obtain ⟨b, hb, rfl⟩ := exists_ok_of_map h
        rw [if_neg hfuture]
        exact ⟨trivial, StateStore.reservationTransition_recorded hb⟩
  | commitReservation id req jobId stageId =>
    simp only [run, StateStore.commitReservation] at h ⊢
    split at h
    · cases h
    · rename_i hids
      obtain ⟨b, hb, rfl⟩ := exists_ok_of_map h
      rw [if_neg hids]
      exact ⟨hids, StateStore.reservationTransition_recorded hb⟩
  | transitionReservation id req target =>
    obtain ⟨b, hb, rfl⟩ := exists_ok_of_map h
    exact ⟨trivial, StateStore.reservationTransition_recorded hb⟩
  | transitionJob id req target =>
    obtain ⟨b, hb, rfl⟩ := exists_ok_of_map h
    exact ⟨trivial, StateStore.transitionJob_recorded hb⟩

theorem map_map {α β γ : Type} (f : α → β) (g : β → γ) (x : Except Exn α) : (x.map f).map g = x.map (g ∘ f) := by
  cases x <;> rfl

/-- **A recorded command asked for again.** -/
theorem run_again (hform : c.WellFormed) (hs : s.Enforced c.id c.request) (hr : c.Recorded s a) (now : UtcTime) :
    (c.run s now).2 = s ∧
      (c.InTime now → (c.run s now).1 = (s.enforce now c.id c.request).1.map fun _ => a.replayed) := by
  cases c with
  | leaseReservation id req expiresAt =>
    cases a with
    | job b => cases hr
    | reservation b =>
      cases expiresAt with
      | naive d => cases hform
      | aware expiry =>
        simp only [run, StateStore.leaseReservation]
        split
        · rename_i hpast
          exact ⟨rfl, fun hfuture => absurd hpast (not_le.mpr hfuture)⟩
        · have hagain : s.reservationTransition now id req .leased (some expiry) none = _ :=
            StateStore.reservationTransition_again hs hr now _ _
          rw [hagain]
          exact ⟨rfl, fun _ => map_map _ _ _⟩
  | commitReservation id req jobId stageId =>
    cases a with
    | job b => cases hr
    | reservation b =>
      have hagain : s.reservationTransition now id req .committed none (some (jobId, stageId)) = _ :=
        StateStore.reservationTransition_again hs hr now _ _
      simp only [run, StateStore.commitReservation]
      rw [if_neg hform, hagain]
      exact ⟨rfl, fun _ => map_map _ _ _⟩
  | transitionReservation id req target =>
    cases a with
    | job b => cases hr
    | reservation b =>
      have hagain : s.reservationTransition now id req target none none = _ :=
        StateStore.reservationTransition_again hs hr now _ _
      simp only [run, StateStore.transitionReservation]
      rw [hagain]
      exact ⟨rfl, fun _ => map_map _ _ _⟩
  | transitionJob id req target =>
    cases a with
    | reservation b => cases hr
    | job b =>
      have hagain : s.transitionJob now id req target = _ := StateStore.transitionJob_again hs hr now
      simp only [run]
      rw [hagain]
      exact ⟨rfl, fun _ => map_map _ _ _⟩

end Command

theorem StateStore.validateMetadata_error {commandMetadata : Option (Option ℚ)} {time : ℚ}
    (h : validateMetadata commandMetadata time ≠ .ok ()) :
    ∃ m, validateMetadata commandMetadata time = .error (.commandExpired m) := by
  revert h
  cases commandMetadata with
  | none => exact fun h => absurd rfl h
  | some expiresAt =>
    cases expiresAt with
    | none => exact fun _ => ⟨_, rfl⟩
    | some t =>
      simp only [validateMetadata, validateCommand]
      split
      · exact fun _ => ⟨_, rfl⟩
      · exact fun h => absurd rfl h

/-- **An accepted command repeated, after any history and at any time.**  The store does not change.  Where a
lease still ends in the future, a command without an attempt number that has not expired returns the original
state and revision as a replay; one with an attempt number is refused, as its attempt is not a new one; an
expired one is refused as expired. -/
theorem accepted_command_repeats (s : StateStore) (now : UtcTime) (c : Command) (a : CommandResult)
    (haccepted : (c.run s now).1 = .ok a) (history : List (UtcTime × StoreCall)) (later : UtcTime) :
    let s' := (c.run s now).2.afterCalls history
    (c.run s' later).2 = s' ∧
      (c.InTime later → c.Unexpired later → c.request.attemptNumber = none → (c.run s' later).1 = .ok a.replayed) ∧
      (c.InTime later → c.Unexpired later → c.request.attemptNumber ≠ none →
        ∃ m, (c.run s' later).1 = .error (.implicitRetry m)) ∧
      (c.InTime later → ¬c.Unexpired later → ∃ m, (c.run s' later).1 = .error (.commandExpired m)) := by
  intro s'
  obtain ⟨hform, henforced, hrecorded⟩ := Command.recorded_of_run haccepted
  have hgrows : (c.run s now).2.Grows s' := StateStore.grows_afterCalls _ history
  have henforced' := henforced.grows hgrows
  obtain ⟨hsame, houtcome⟩ := Command.run_again hform henforced' (hrecorded.grows hgrows) later
  obtain ⟨-, hpass, hretry, hexpired⟩ := henforced'.enforce_again later
  refine ⟨hsame, fun hin hmeta hattempt => ?_, fun hin hmeta hattempt => ?_, fun hin hmeta => ?_⟩
  · rw [houtcome hin, hpass hmeta hattempt]
    rfl
  · obtain ⟨m, hm⟩ := hretry hmeta hattempt
    exact ⟨m, by rw [houtcome hin, hm]; rfl⟩
  · obtain ⟨m, hm⟩ := StateStore.validateMetadata_error hmeta
    exact ⟨m, by rw [houtcome hin, hexpired _ hm]; rfl⟩

/-- The lease of the sample runs, for ten seconds. -/
def sampleLeaseCommand (attempt : Option ℤ) (expires : Option (Option ℚ)) : Command :=
  .leaseReservation "res-1" ⟨"lease", 0, "fp", expires, attempt⟩ (.aware (sampleTime 10 (by decide)).aware)

/-- A store with a reservation and a job. -/
def sampleStore : StateStore :=
  StateStore.empty.afterCalls
    [(sampleTime 0 (by decide), .ensureReservation "res-1"), (sampleTime 0 (by decide), .ensureJob "job-1")]

/-- What happens between the lease and its repetition. -/
def sampleHistory : List (UtcTime × StoreCall) :=
  [(sampleTime 1 (by decide), .command (.commitReservation "res-1"
    { requestId := "commit", expectedRevision := 1 } "job-1" "stage-1"))]

/-- The reservation has been committed in the meantime, and the lease is still answered as it was. -/
theorem accepted_command_repeats_sample :
    let s := ((sampleLeaseCommand none none).run sampleStore (sampleTime 0 (by decide))).2
    let s' := s.afterCalls sampleHistory
    ((sampleLeaseCommand none none).run s' (sampleTime 9 (by decide))).2 = s' ∧
      ((sampleLeaseCommand none none).run s' (sampleTime 9 (by decide))).1
        = .ok (.reservation ⟨.leased, 1, "lease", false⟩) := by
  have haccepted : ((sampleLeaseCommand none none).run sampleStore (sampleTime 0 (by decide))).1
      = .ok (.reservation ⟨.leased, 1, "lease", true⟩) := by decide
  obtain ⟨hsame, hreplayed, -⟩ := accepted_command_repeats sampleStore (sampleTime 0 (by decide))
    (sampleLeaseCommand none none) _ haccepted sampleHistory (sampleTime 9 (by decide))
  refine ⟨hsame, hreplayed ?_ rfl rfl⟩
  show (sampleTime 9 _).micros < (sampleTime 10 _).aware.instant
  decide

/-- **Accepted commands that are not replayed**: a lease with an attempt number repeated at once, a lease with
metadata repeated when the command has expired, and a lease repeated when it has ended itself. -/
theorem accepted_commands_refused : let repeated (c : Command) (later : UtcTime) :=
      ((c.run sampleStore (sampleTime 0 (by decide))).1.mapError Exn.cls,
        (c.run (c.run sampleStore (sampleTime 0 (by decide))).2 later).1.mapError Exn.cls)
    let leased : CommandResult := .reservation ⟨.leased, 1, "lease", true⟩
    repeated (sampleLeaseCommand (some 1) none) (sampleTime 1 (by decide)) = (.ok leased, .error .implicitRetry) ∧
      repeated (sampleLeaseCommand none (some (some 1767312005))) (sampleTime 5 (by decide))
        = (.ok leased, .error .commandExpired) ∧
      repeated (sampleLeaseCommand none none) (sampleTime 10 (by decide)) = (.ok leased, .error .value) := by
  decide +kernel

end ComputeMesh.Orchestrator
