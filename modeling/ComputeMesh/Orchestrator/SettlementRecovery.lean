import ComputeMesh.Orchestrator.BillingIntent
import ComputeMesh.Orchestrator.StoreCalls

/-!
# Completed work is settled once

Outbox, ledger and job store are written one after the other, and the process may die between any two writes.
What every write keeps is `OutboxSystem.Sound`: a job transaction is the one its intent froze, an intent is
marked recorded and a job settled only when the ledger has the event.

* `OutboxEvent`, `OutboxSystem.next` — the calls, the crashes, and what the rest of the system does meanwhile;
* `Sound.next` — **every event keeps the three stores consistent**, wherever it is cut off;
* `recordable`, `Unblocked` — which pending intents the ledger accepts in their turn, and that none of them
  comes after a refused one;
* `completed_work_settled_once` — the law of the outbox over whole runs.
-/

namespace ComputeMesh.Orchestrator

open ComputeMesh.Text OutboxSystem Process
open ComputeMesh.Billing (Ledger LayerRatio Env Transaction PostingFields Op)

variable {R : Type} [ShareRatio R]

/-! ### The invariant -/

namespace OutboxSystem

def JobIn (s : OutboxSystem R) (jobId : String) (state : JobState) : Prop :=
  ∃ row, s.store.jobs.rows.get? jobId = some row ∧ row.state = state

/-- The ledger has a transaction of the job. -/
def Billed (s : OutboxSystem R) (jobId : String) : Prop :=
  "job:" ++ jobId ∈ s.ledger.journal.processedEvents

/-- **The three stores are consistent.** -/
structure Sound (s : OutboxSystem R) : Prop where
  replay : s.ledger.journal.IsReplay
  written : s.ledger.journal.IsWritten
  keyed : ∀ jobId intent, s.intents.get? jobId = some intent → intent.jobId = jobId
  billed : ∀ tx ∈ s.ledger.journal.transactions, ∀ jobId, tx.eventId = "job:" ++ jobId →
    ∃ intent, s.intents.get? jobId = some intent ∧ intent.postings = .ok tx.fields
  recorded : ∀ jobId intent, s.intents.get? jobId = some intent → intent.status = .recorded → s.Billed jobId
  completed : ∀ jobId intent, s.intents.get? jobId = some intent → s.JobIn jobId .completed ∨ s.JobIn jobId .settled
  settled : ∀ jobId, s.JobIn jobId .settled → s.Billed jobId
  acknowledged : ∀ jobId revision effect,
    s.store.jobs.effects.get? (jobId, ackRequestId jobId revision) = some effect → s.JobIn jobId .settled

omit [ShareRatio R] in
theorem JobIn.unique {s : OutboxSystem R} {jobId : String} {a b : JobState} (ha : s.JobIn jobId a)
    (hb : s.JobIn jobId b) : a = b := by
  obtain ⟨row, hrow, rfl⟩ := ha
  obtain ⟨row', hrow', rfl⟩ := hb
  rw [hrow] at hrow'
  cases hrow'
  rfl

theorem Sound.healthy {s : OutboxSystem R} (h : s.Sound) : s.ledger.Healthy := by
  intro file hfile
  rw [h.written] at hfile
  cases hfile
  rfl

/-! ### The writes -/

/-- The intent a pass has read is the one of the table, up to its status. -/
def Holds (s : OutboxSystem R) (intent : BillingIntent R) : Prop :=
  ∃ row, s.intents.get? intent.jobId = some row ∧ row.toIntentCall = intent.toIntentCall ∧
    row.totalChargeMicroUnits = intent.totalChargeMicroUnits

end OutboxSystem

theorem BillingIntent.postings_congr {a b : BillingIntent R} (hcall : a.toIntentCall = b.toIntentCall)
    (htotal : a.totalChargeMicroUnits = b.totalChargeMicroUnits) : a.postings = b.postings := by
  cases a
  cases b
  simp only at hcall htotal
  subst hcall htotal
  rfl

namespace BillingIntent

/-- What recording an intent in a ledger comes to: it is there already, it is refused, or it is new. -/
inductive RecordOutcome (intent : BillingIntent R) (l : Ledger) : Except Billing.Exn Transaction × Ledger → Prop
  | duplicate (e : Billing.Exn) (hseen : intent.eventId ∈ l.journal.processedEvents) :
      RecordOutcome intent l (.error e, l)
  | refused (e : Billing.Exn) (hnew : intent.eventId ∉ l.journal.processedEvents) :
      RecordOutcome intent l (.error e, l)
  | recorded (tx : Transaction) (hnew : intent.eventId ∉ l.journal.processedEvents)
      (hevent : tx.eventId = intent.eventId) (hpostings : intent.postings = .ok tx.fields) :
      RecordOutcome intent l (.ok tx, l.recorded tx)

theorem recordIntentExact_cases (intent : BillingIntent R) {l : Ledger} (h : l.Healthy) (isoNow : String) :
    RecordOutcome intent l (intent.recordIntentExact l isoNow) := by
  fun_cases recordIntentExact with
  | case1 hseen => exact .duplicate _ hseen
  | case2 hnew | case3 hnew => exact .refused _ hnew
  | case4 hnew =>
    unfold transaction
    cases hpostings : intent.postings with
    | error e => exact .refused e hnew
    | ok fs =>
      cases htx : Billing.newTransaction (Billing.txId "job" intent.eventId) intent.eventId isoNow
          ("Inference execution for " ++ intent.jobId ++ " (" ++ intent.modelId ++ ", " ++
            toString intent.promptTokens ++ "+" ++ toString intent.completionTokens ++ " tokens)") fs with
      | error e =>
        simp only [htx, Ledger.commitNew]
        exact .refused e hnew
      | ok tx =>
        obtain ⟨-, hevent, -, -, hfields⟩ := Billing.newTransaction_ok htx
        simp only [htx, Ledger.commitNew, Ledger.commit_of_healthy h]
        exact .recorded tx hnew hevent (by rw [hpostings, hfields])

end BillingIntent

namespace OutboxSystem

variable {s : OutboxSystem R}

/-- One more transaction in the ledger, new to it, and one of an intent if its event is a job's. -/
theorem Sound.recorded_tx (h : s.Sound) {tx : Transaction} (hnew : tx.eventId ∉ s.ledger.journal.processedEvents)
    (hjob : ∀ jobId, tx.eventId = "job:" ++ jobId →
      ∃ row, s.intents.get? jobId = some row ∧ row.postings = .ok tx.fields) :
    Sound { s with ledger := s.ledger.recorded tx } := by
  have hgrow : ∀ jobId, s.Billed jobId → Billed { s with ledger := s.ledger.recorded tx } jobId :=
    fun jobId hb => (Ledger.mem_processedEvents_recorded _ _ _).mpr (.inr hb)
  refine ⟨h.replay.record hnew, h.written.record tx, h.keyed, ?_,
    fun jobId i hi hr => hgrow jobId (h.recorded jobId i hi hr), h.completed,
    fun jobId hj => hgrow jobId (h.settled jobId hj), h.acknowledged⟩
  intro tx' htx' jobId hid
  rw [Ledger.recorded_transactions, List.mem_append, List.mem_singleton] at htx'
  rcases htx' with htx' | rfl
  · exact h.billed tx' htx' jobId hid
  · exact hjob jobId hid

theorem Sound.record (h : s.Sound) {intent : BillingIntent R} {tx : Transaction} (hholds : s.Holds intent)
    (hnew : intent.eventId ∉ s.ledger.journal.processedEvents) (hevent : tx.eventId = intent.eventId)
    (hpostings : intent.postings = .ok tx.fields) :
    Sound { s with ledger := s.ledger.recorded tx } := by
  refine h.recorded_tx (by rwa [hevent]) fun jobId hid => ?_
  obtain ⟨row, hrow, hcall, htotal⟩ := hholds
  obtain rfl : jobId = intent.jobId := by
    rw [hevent] at hid
    exact (append_left_cancel hid).symm
  exact ⟨row, hrow, by rw [BillingIntent.postings_congr hcall htotal, hpostings]⟩

/-- A row written under the id of its job: a new one, or the old one with its status changed. -/
theorem Sound.set_intent (h : s.Sound) {row : BillingIntent R} {jobId : String} (hkey : row.jobId = jobId)
    (hold : ∀ i, s.intents.get? jobId = some i → row.postings = i.postings)
    (hrecorded : row.status = .recorded → s.Billed jobId)
    (hcompleted : s.JobIn jobId .completed ∨ s.JobIn jobId .settled) :
    Sound { s with intents := s.intents.set jobId row } := by
  refine ⟨h.replay, h.written, fun id i hi => ?_, fun tx htx id hid => ?_, fun id i hi hr => ?_,
    fun id i hi => ?_, h.settled, h.acknowledged⟩
  · rcases Dict.get?_set_eq_some.mp hi with ⟨rfl, rfl⟩ | ⟨-, hi⟩
    · exact hkey
    · exact h.keyed id i hi
  · obtain ⟨i, hi, hpostings⟩ := h.billed tx htx id hid
    rw [Dict.get?_set]
    split
    · rename_i heq
      exact ⟨row, rfl, (hold i (heq ▸ hi)).trans hpostings⟩
    · exact ⟨i, hi, hpostings⟩
  · rcases Dict.get?_set_eq_some.mp hi with ⟨rfl, rfl⟩ | ⟨-, hi⟩
    · exact hrecorded hr
    · exact h.recorded id i hi hr
  · rcases Dict.get?_set_eq_some.mp hi with ⟨rfl, rfl⟩ | ⟨-, hi⟩
    · exact hcompleted
    · exact h.completed id i hi

theorem Sound.mark (h : s.Sound) {row : BillingIntent R} {jobId isoNow : String}
    (hrow : s.intents.get? jobId = some row) (hbilled : s.Billed jobId) :
    Sound { s with intents := s.intents.set jobId (markedRow row isoNow) } := by
  refine h.set_intent (h.keyed jobId row hrow) (fun i hi => ?_) (fun _ => hbilled) (h.completed jobId row hrow)
  obtain rfl := Option.some.inj (hrow.symm.trans hi)
  exact BillingIntent.postings_congr rfl rfl

/-- The system once the job of this row is settled. -/
def acknowledged (s : OutboxSystem R) (jobId : String) (row : EntityRow JobState) : OutboxSystem R :=
  { s with
    store := { s.store.processEvent (ackRequestId jobId row.revision) with
      jobs := s.store.jobs.moved jobId row (ackRequest jobId row.revision) .settled none } }

omit [ShareRatio R] in
theorem ackRequestId_ne_empty (jobId : String) (revision : ℕ) : ackRequestId jobId revision ≠ "" := by
  refine ne_of_head ?_
  unfold ackRequestId
  rw [String.append_assoc, String.append_assoc, head_append (by decide)]
  decide

/-- **The acknowledgement of a completed job succeeds.** -/
theorem Sound.acknowledge (h : s.Sound) (now : UtcTime) {jobId : String} {row : EntityRow JobState}
    (hrow : s.store.jobs.rows.get? jobId = some row) (hcompleted : row.state = .completed) :
    s.acknowledgeJobSettlement now jobId = (.ok true, s.acknowledged jobId row) := by
  have hfresh : s.store.jobs.effects.get? (jobId, ackRequestId jobId row.revision) = none := by
    rcases heffect : s.store.jobs.effects.get? (jobId, ackRequestId jobId row.revision) with _ | e
    · rfl
    · have hstate := (h.acknowledged jobId row.revision e heffect).unique ⟨row, hrow, hcompleted⟩
      cases hstate
  have hready : s.store.jobs.Ready jobId (ackRequest jobId row.revision) .settled row :=
    ⟨hfresh, hrow, rfl, by rw [hcompleted]; decide⟩
  have hplain : StateStore.PlainRequest (ackRequest jobId row.revision) :=
    ⟨ackRequestId_ne_empty _ _, rfl, rfl⟩
  unfold acknowledgeJobSettlement
  simp only [getJob, hrow, s.store.transitionJob_of_ready now hplain hready]
  rw [if_neg (by rw [hcompleted]; decide), if_neg (not_not.mpr hcompleted)]
  rfl

omit [ShareRatio R] in
theorem jobIn_acknowledged (s : OutboxSystem R) {jobId : String} (row : EntityRow JobState) (id : String)
    (state : JobState) :
    (s.acknowledged jobId row).JobIn id state ↔ if id = jobId then state = .settled else s.JobIn id state := by
  unfold JobIn acknowledged EntityTable.moved
  simp only [Dict.get?_set]
  split
  · constructor
    · rintro ⟨r, hr, rfl⟩
      cases hr
      rfl
    · rintro rfl
      exact ⟨_, rfl, rfl⟩
  · exact Iff.rfl

theorem Sound.settle (h : s.Sound) {jobId : String} (row : EntityRow JobState) (hbilled : s.Billed jobId) :
    (s.acknowledged jobId row).Sound := by
  refine ⟨h.replay, h.written, h.keyed, h.billed, h.recorded, fun id i hi => ?_, fun id hid => ?_,
    fun id revision e he => ?_⟩
  · rw [jobIn_acknowledged, jobIn_acknowledged]
    split
    · exact .inr rfl
    · exact h.completed id i hi
  · rw [jobIn_acknowledged] at hid
    split at hid
    · rename_i heq
      rw [heq]
      exact hbilled
    · exact h.settled id hid
  · rw [jobIn_acknowledged]
    split
    · rfl
    · rename_i hne
      refine h.acknowledged id revision e ?_
      have hkey : (id, ackRequestId id revision) ≠ (jobId, ackRequestId jobId row.revision) := by
        intro heq
        exact hne (Prod.mk.inj heq).1
      have he' : (s.store.jobs.effects.set (jobId, ackRequestId jobId row.revision) _).get?
        (id, ackRequestId id revision) = some e := he
      rwa [Dict.get?_set_of_ne _ hkey] at he'

end OutboxSystem

/-- The ledger once an intent has had its turn, if it has the event or accepts the intent. -/
def BillingIntent.accepted (intent : BillingIntent R) (l : Ledger) (isoNow : String) : Option Ledger :=
  if intent.eventId ∈ l.journal.processedEvents then some l
  else
    match intent.recordIntentExact l isoNow with
    | (.ok _, l') => some l'
    | (.error _, _) => none

/-! ### The writes for one intent -/

namespace OutboxSystem

variable {s : OutboxSystem R} {intent : BillingIntent R}

theorem Sound.billIntent (h : s.Sound) (clock : JobClock) (hholds : s.Holds intent) :
    (∃ e, s.billIntent clock intent = (.error e, s) ∧
        intent.accepted s.ledger (clock intent.jobId).1 = none) ∨
      ∃ isNew l, s.billIntent clock intent = (.ok isNew, { s with ledger := l }) ∧
        intent.accepted s.ledger (clock intent.jobId).1 = some l ∧ Sound { s with ledger := l } ∧
        Billed { s with ledger := l } intent.jobId := by
  unfold OutboxSystem.billIntent BillingIntent.accepted
  by_cases hseen : intent.eventId ∈ s.ledger.journal.processedEvents
  · rw [if_pos hseen, if_pos hseen]
    exact .inr ⟨false, s.ledger, rfl, rfl, h, hseen⟩
  · rw [if_neg hseen, if_neg hseen]
    have houtcome := intent.recordIntentExact_cases h.healthy (clock intent.jobId).1
    generalize intent.recordIntentExact s.ledger (clock intent.jobId).1 = r at houtcome
    cases houtcome with
    | duplicate e hdup => exact absurd hdup hseen
    | refused e hnew => exact .inl ⟨.billing e, rfl, rfl⟩
    | recorded tx hnew hevent hpostings =>
      refine .inr ⟨true, s.ledger.recorded tx, rfl, rfl, h.record hholds hnew hevent hpostings, ?_⟩
      exact (Ledger.mem_processedEvents_recorded _ _ _).mpr (.inl hevent.symm)

omit [ShareRatio R] in
theorem Holds.mark {row other : BillingIntent R} {isoNow : String}
    (hrow : s.intents.get? row.jobId = some row) (h : s.Holds other) :
    Holds { s with intents := s.intents.set row.jobId (markedRow row isoNow) } other := by
  obtain ⟨row', hrow', hcall, htotal⟩ := h
  show ∃ r, (s.intents.set row.jobId (markedRow row isoNow)).get? other.jobId = some r ∧ _
  rw [Dict.get?_set]
  split
  · rename_i heq
    rw [heq, hrow] at hrow'
    cases hrow'
    exact ⟨_, rfl, hcall, htotal⟩
  · exact ⟨row', hrow', hcall, htotal⟩

theorem Sound.markRecorded (h : s.Sound) (isoNow : String) (hholds : s.Holds intent)
    (hbilled : s.Billed intent.jobId) :
    ∃ b intents, s.markRecorded isoNow intent.jobId = (.ok b, { s with intents := intents }) ∧
      Sound { s with intents := intents } ∧
      ∀ other, s.Holds other → Holds { s with intents := intents } other := by
  obtain ⟨row, hrow, -, -⟩ := hholds
  have hkey := h.keyed _ _ hrow
  simp only [OutboxSystem.markRecorded, hrow]
  split
  · refine ⟨true, _, rfl, h.mark hrow hbilled, fun other hother => ?_⟩
    rw [← hkey]
    exact hother.mark (by rw [hkey]; exact hrow)
  · exact ⟨false, s.intents, rfl, h, fun _ hother => hother⟩

theorem Sound.settleIntent (h : s.Sound) (clock : JobClock) (hholds : s.Holds intent)
    (hbilled : s.Billed intent.jobId) :
    ∃ b store, s.settleIntent clock intent = (.ok b, { s with store := store }) ∧
      Sound { s with store := store } ∧ JobIn { s with store := store } intent.jobId .settled ∧
      ∀ id state, id ≠ intent.jobId → (JobIn { s with store := store } id state ↔ s.JobIn id state) := by
  obtain ⟨row, hrow, -, -⟩ := hholds
  rcases h.completed _ _ hrow with ⟨job, hjob, hstate⟩ | ⟨job, hjob, hstate⟩
  · refine ⟨true, (s.acknowledged intent.jobId job).store, ?_, h.settle job hbilled, ?_, ?_⟩
    · simp only [OutboxSystem.settleIntent, getJob, hjob, if_pos hstate,
        h.acknowledge (clock intent.jobId).2 hjob hstate]
      rfl
    · exact (s.jobIn_acknowledged job _ _).mpr (by rw [if_pos rfl])
    · intro id state hne
      exact (s.jobIn_acknowledged job id state).trans (by rw [if_neg hne])
  · refine ⟨false, s.store, ?_, h, ⟨job, hjob, hstate⟩, fun _ _ _ => Iff.rfl⟩
    simp only [OutboxSystem.settleIntent, getJob, hjob]
    rw [if_neg (by rw [hstate]; decide), if_pos hstate]

/-- **The writes for one intent**: the first one is refused and nothing happens, or all three succeed. -/
theorem Sound.handleIntent (h : s.Sound) (clock : JobClock) (hholds : s.Holds intent) :
    (∃ e, s.billIntent clock intent = (.error e, s) ∧ intent.accepted s.ledger (clock intent.jobId).1 = none) ∨
      ∃ s₁ s₂ s₃ isNew marked settledNow, s.billIntent clock intent = (.ok isNew, s₁) ∧ s₁.Sound ∧
        s₁.markRecorded (clock intent.jobId).1 intent.jobId = (.ok marked, s₂) ∧ s₂.Sound ∧
        s₂.settleIntent clock intent = (.ok settledNow, s₃) ∧ s₃.Sound ∧
        intent.accepted s.ledger (clock intent.jobId).1 = some s₃.ledger ∧
        (∀ other, s.Holds other → s₃.Holds other) ∧ s₃.JobIn intent.jobId .settled ∧
        ∀ id state, id ≠ intent.jobId → (s₃.JobIn id state ↔ s.JobIn id state) := by
  rcases h.billIntent clock hholds with hrefused | ⟨isNew, l, hbill, hsome, hs₁, hbilled⟩
  · exact .inl hrefused
  · obtain ⟨marked, intents, hmark, hs₂, hkeep⟩ := hs₁.markRecorded (clock intent.jobId).1 hholds hbilled
    obtain ⟨settledNow, store, hsettle, hs₃, hsettled, hothers⟩ :=
      hs₂.settleIntent clock (hkeep intent hholds) hbilled
    exact .inr ⟨_, _, _, isNew, marked, settledNow, hbill, hs₁, hmark, hs₂, hsettle, hs₃, hsome,
      hkeep, hsettled, hothers⟩

/-! ### The first pass -/

/-- The intents that get their turn before one is refused, and the ledger after them. -/
def handled (clock : JobClock) : List (BillingIntent R) → Ledger → List String × Ledger
  | [], l => ([], l)
  | intent :: rest, l =>
    match intent.accepted l (clock intent.jobId).1 with
    | none => ([], l)
    | some l' => (intent.jobId :: (handled clock rest l').1, (handled clock rest l').2)

/-- What the pass has done: the handled jobs are settled, the others are where they were. -/
structure Replayed (clock : JobClock) (intents : List (BillingIntent R)) (s s' : OutboxSystem R) : Prop where
  sound : s'.Sound
  ledger : s'.ledger = (handled clock intents s.ledger).2
  settled : ∀ id ∈ (handled clock intents s.ledger).1, s'.JobIn id .settled
  others : ∀ id state, id ∉ (handled clock intents s.ledger).1 → (s'.JobIn id state ↔ s.JobIn id state)

/-- **The first pass**, wherever it is cut off and as a whole. -/
theorem Sound.replayIntents (clock : JobClock) (intents : List (BillingIntent R)) :
    ∀ (report : BillingOutboxReplayReport) {s : OutboxSystem R}, s.Sound → (∀ i ∈ intents, s.Holds i) →
      (replayIntents clock intents report).Always Sound s ∧
        Replayed clock intents s ((replayIntents clock intents report).run s).2 := by
  induction intents with
  | nil =>
    intro report s h hholds
    exact ⟨h, h, rfl, nofun, fun id state _ => Iff.rfl⟩
  | cons intent rest ih =>
    intro report s h hholds
    rcases h.handleIntent clock (hholds intent List.mem_cons_self) with
      ⟨e, hbill, hnone⟩ |
      ⟨s₁, s₂, s₃, isNew, marked, settledNow, hbill, hs₁, hmark, hs₂, hsettle, hs₃, hsome, hkeep, hsettled,
        hothers⟩
    · -- refused: the pass ends here
      have hrun : ((OutboxSystem.replayIntents clock (intent :: rest) report).run s).2 = s := by
        simp [OutboxSystem.replayIntents, hbill]
      have hhandled : handled clock (intent :: rest) s.ledger = ([], s.ledger) := by
        simp only [handled, hnone]
      refine ⟨always_bind (always_call h (by rw [hbill]; exact h)) ?_, ?_⟩
      · rw [run_call, hbill]
        exact h
      · rw [hrun]
        exact ⟨h, by rw [hhandled], by rw [hhandled]; nofun, fun id state _ => Iff.rfl⟩
    · obtain ⟨halways, hsound, hledger, hall, hsame⟩ := ih (report.add intent.jobId isNew settledNow) hs₃
        fun i hi => hkeep i (hholds i (List.mem_cons_of_mem _ hi))
      have hhandled : handled clock (intent :: rest) s.ledger
          = (intent.jobId :: (handled clock rest s₃.ledger).1, (handled clock rest s₃.ledger).2) := by
        simp only [handled, hsome]
      have hrun : ((OutboxSystem.replayIntents clock (intent :: rest) report).run s).2
          = ((OutboxSystem.replayIntents clock rest (report.add intent.jobId isNew settledNow)).run s₃).2 := by
        simp only [OutboxSystem.replayIntents, run_bind, run_call, hbill, hmark, hsettle]
      refine ⟨?_, ?_⟩
      · refine always_bind (always_call h (by rw [hbill]; exact hs₁)) ?_
        rw [run_call, hbill]
        refine always_bind (always_call hs₁ (by rw [hmark]; exact hs₂)) ?_
        rw [run_call, hmark]
        refine always_bind (always_call hs₂ (by rw [hsettle]; exact hs₃)) ?_
        rw [run_call, hsettle]
        exact halways
      · rw [hrun]
        refine ⟨hsound, by rw [hledger, hhandled], fun id hid => ?_, fun id state hid => ?_⟩
        · rw [hhandled] at hid
          by_cases hlater : id ∈ (handled clock rest s₃.ledger).1
          · exact hall id hlater
          · rcases List.mem_cons.mp hid with rfl | hid
            · exact (hsame _ _ hlater).mpr hsettled
            · exact absurd hid hlater
        · rw [hhandled, List.mem_cons, not_or] at hid
          exact (hsame id state hid.2).trans (hothers id state hid.1)

theorem Sound.holds_pending (h : s.Sound) {i : BillingIntent R} (hi : i ∈ s.pending) :
    s.intents.get? i.jobId = some i := by
  rw [pending, List.mem_insertionSort, List.mem_filter] at hi
  obtain ⟨jobId, hget⟩ := (s.intents.mem_values_iff i).mp hi.1
  rw [h.keyed _ _ hget]
  exact hget

theorem Sound.replayBillingOutbox (h : s.Sound) (clock : JobClock) : (replayBillingOutbox clock).Always Sound s ∧
      Replayed clock s.pending s ((replayBillingOutbox clock).run s).2 := by
  have hholds : ∀ i ∈ s.pending, s.Holds i := fun i hi => ⟨i, h.holds_pending hi, rfl, rfl⟩
  obtain ⟨halways, hreplayed⟩ := Sound.replayIntents clock s.pending {} h hholds
  exact ⟨always_bind (always_call h h) halways, hreplayed⟩

/-! ### The second pass -/

theorem Sound.reconcileJob (h : s.Sound) (clock : JobClock) (report : SettlementRecoveryReport)
    {jobId : String} (hjob : s.JobIn jobId .completed ∨ s.JobIn jobId .settled) :
    ∃ report' store, s.reconcileJob clock report jobId = (.ok report', { s with store := store }) ∧
      Sound { s with store := store } ∧ (s.Billed jobId → JobIn { s with store := store } jobId .settled) ∧
      ∀ id state, ¬(id = jobId ∧ s.Billed jobId) → (JobIn { s with store := store } id state ↔ s.JobIn id state) := by
  unfold OutboxSystem.reconcileJob
  by_cases hbilled : s.Billed jobId
  · have hseen : "job:" ++ jobId ∈ s.ledger.journal.processedEvents := hbilled
    rw [if_pos hseen]
    rcases hjob with ⟨row, hrow, hstate⟩ | ⟨row, hrow, hstate⟩
    · rw [h.acknowledge _ hrow hstate]
      refine ⟨_, (s.acknowledged jobId row).store, rfl, h.settle row hbilled, fun _ => ?_,
        fun id state hid => ?_⟩
      · exact (s.jobIn_acknowledged row _ _).mpr (by rw [if_pos rfl])
      · exact (s.jobIn_acknowledged row id state).trans (by rw [if_neg fun heq => hid ⟨heq, hbilled⟩])
    · have hack : s.acknowledgeJobSettlement (clock jobId).2 jobId = (.ok false, s) := by
        simp only [acknowledgeJobSettlement, getJob, hrow, if_pos hstate]
      rw [hack]
      exact ⟨report, s.store, rfl, h, fun _ => ⟨row, hrow, hstate⟩, fun _ _ _ => Iff.rfl⟩
  · have hunseen : "job:" ++ jobId ∉ s.ledger.journal.processedEvents := hbilled
    rw [if_neg hunseen]
    exact ⟨_, s.store, rfl, h, fun hb => absurd hb hbilled, fun _ _ _ => Iff.rfl⟩

/-- What the second pass has done. -/
structure Reconciled (jobs : List String) (s s' : OutboxSystem R) : Prop where
  sound : s'.Sound
  settled : ∀ id ∈ jobs, s.Billed id → s'.JobIn id .settled
  kept : ∀ id, s.JobIn id .settled → s'.JobIn id .settled
  others : ∀ id state, ¬s.Billed id → (s'.JobIn id state ↔ s.JobIn id state)

/-- **The second pass**, wherever it is cut off and as a whole. -/
theorem Sound.reconcileJobs (clock : JobClock) (jobs : List String) :
    ∀ (report : SettlementRecoveryReport) {s : OutboxSystem R}, s.Sound →
      (∀ id ∈ jobs, s.JobIn id .completed ∨ s.JobIn id .settled) →
      (reconcileJobs clock jobs report).Always Sound s ∧
        Reconciled jobs s ((reconcileJobs clock jobs report).run s).2 := by
  induction jobs with
  | nil =>
    intro report s h hjobs
    exact ⟨h, h, nofun, fun id hid => hid, fun id state _ => Iff.rfl⟩
  | cons jobId rest ih =>
    intro report s h hjobs
    obtain ⟨report', store, hstep, hs₁, hsettled, hothers⟩ :=
      h.reconcileJob clock report (hjobs jobId List.mem_cons_self)
    have hkept : ∀ id, s.JobIn id .settled → JobIn { s with store := store } id .settled := by
      intro id hid
      by_cases heq : id = jobId ∧ s.Billed jobId
      · rw [heq.1]
        exact hsettled heq.2
      · exact (hothers id .settled heq).mpr hid
    have hjobs₁ : ∀ id ∈ rest, JobIn { s with store := store } id .completed ∨
        JobIn { s with store := store } id .settled := by
      intro id hid
      by_cases heq : id = jobId ∧ s.Billed jobId
      · rw [heq.1]
        exact .inr (hsettled heq.2)
      · rw [hothers id _ heq, hothers id _ heq]
        exact hjobs id (List.mem_cons_of_mem _ hid)
    obtain ⟨halways, hsound, hall, hkeep, hsame⟩ := ih report' hs₁ hjobs₁
    have hrun : ((OutboxSystem.reconcileJobs clock (jobId :: rest) report).run s).2
        = ((OutboxSystem.reconcileJobs clock rest report').run { s with store := store }).2 := by
      simp only [OutboxSystem.reconcileJobs, run_bind, run_call, hstep]
    refine ⟨?_, ?_⟩
    · refine always_bind (always_call h (by rw [hstep]; exact hs₁)) ?_
      rw [run_call, hstep]
      exact halways
    · rw [hrun]
      refine ⟨hsound, fun id hid hbilled => ?_, fun id hid => hkeep id (hkept id hid), fun id state hnot => ?_⟩
      · rcases List.mem_cons.mp hid with rfl | hid
        · exact hkeep _ (hsettled hbilled)
        · exact hall id hid hbilled
      · have hne : ¬(id = jobId ∧ s.Billed jobId) := by
          rintro ⟨rfl, hbilled⟩
          exact hnot hbilled
        exact (hsame id state hnot).trans (hothers id state hne)

omit [ShareRatio R] in
theorem mem_completedJobs (s : OutboxSystem R) (id : String) :
    id ∈ s.completedJobs ↔ s.JobIn id .completed := by
  rw [completedJobs, List.mem_insertionSort, List.mem_map]
  constructor
  · rintro ⟨e, he, rfl⟩
    rw [List.mem_filter] at he
    exact ⟨e.2, Dict.find_eq_some_of_mem s.store.jobs.rows.nodupKeys he.1, by simpa using he.2⟩
  · rintro ⟨row, hrow, hstate⟩
    exact ⟨(id, row), List.mem_filter.mpr ⟨Dict.mem_of_find hrow, by simpa using hstate⟩, rfl⟩

theorem Sound.reconcileCompletedSettlements (h : s.Sound) (clock : JobClock) :
    (reconcileCompletedSettlements clock).Always Sound s ∧
      Reconciled s.completedJobs s ((reconcileCompletedSettlements clock).run s).2 := by
  obtain ⟨halways, hreconciled⟩ := Sound.reconcileJobs clock s.completedJobs {} h
    fun id hid => .inl ((s.mem_completedJobs id).mp hid)
  exact ⟨always_bind (always_call h h) halways, hreconciled⟩

end OutboxSystem

/-! ### Which intents can be recorded -/

/-- The pending intents that are new to the ledger and that it accepts, each in its turn; refused ones are
passed over. -/
def recordable (clock : OutboxSystem.JobClock) : List (BillingIntent R) → Ledger → List String
  | [], _ => []
  | intent :: rest, l =>
    match intent.recordIntentExact l (clock intent.jobId).1 with
    | (.ok _, l') => intent.jobId :: recordable clock rest l'
    | (.error _, _) => recordable clock rest l

/-- **No intent is blocked**: after one that the ledger refuses, there is none left that it would accept. -/
def Unblocked (clock : OutboxSystem.JobClock) : List (BillingIntent R) → Ledger → Prop
  | [], _ => True
  | intent :: rest, l =>
    match intent.accepted l (clock intent.jobId).1 with
    | none => recordable clock rest l = []
    | some l' => Unblocked clock rest l'

namespace BillingIntent

/-- The three ways an intent can have its turn. -/
inductive Turn (intent : BillingIntent R) (l : Ledger) (isoNow : String) : Prop
  | seen (hseen : intent.eventId ∈ l.journal.processedEvents) (haccepted : intent.accepted l isoNow = some l)
      (hrecord : ∃ e, intent.recordIntentExact l isoNow = (.error e, l))
  | refused (haccepted : intent.accepted l isoNow = none)
      (hrecord : ∃ e, intent.recordIntentExact l isoNow = (.error e, l))
  | recorded (tx : Transaction) (hnew : intent.eventId ∉ l.journal.processedEvents)
      (hevent : tx.eventId = intent.eventId) (haccepted : intent.accepted l isoNow = some (l.recorded tx))
      (hrecord : intent.recordIntentExact l isoNow = (.ok tx, l.recorded tx))

theorem turn (intent : BillingIntent R) {l : Ledger} (h : l.Healthy) (isoNow : String) : intent.Turn l isoNow := by
  have houtcome := intent.recordIntentExact_cases h isoNow
  have haccepted : ∀ r, intent.recordIntentExact l isoNow = r →
      intent.accepted l isoNow = if intent.eventId ∈ l.journal.processedEvents then some l else match r with
          | (.ok _, l') => some l'
          | (.error _, _) => none := by
    rintro r rfl
    rfl
  generalize hr : intent.recordIntentExact l isoNow = r at houtcome
  replace haccepted := haccepted r hr
  cases houtcome with
  | duplicate e hseen =>
    rw [if_pos hseen] at haccepted
    exact .seen hseen haccepted ⟨e, hr⟩
  | refused e hnew =>
    rw [if_neg hnew] at haccepted
    exact .refused haccepted ⟨e, hr⟩
  | recorded tx hnew hevent hpostings =>
    rw [if_neg hnew] at haccepted
    exact .recorded tx hnew hevent haccepted hr

end BillingIntent

open OutboxSystem (handled JobClock)

theorem recordable_of_error {clock : JobClock} {intent : BillingIntent R} {rest : List (BillingIntent R)}
    {l : Ledger} (h : ∃ e, intent.recordIntentExact l (clock intent.jobId).1 = (.error e, l)) :
    recordable clock (intent :: rest) l = recordable clock rest l := by
  obtain ⟨e, he⟩ := h
  simp only [recordable, he]

theorem recordable_of_ok {clock : JobClock} {intent : BillingIntent R} {rest : List (BillingIntent R)}
    {l l' : Ledger} {tx : Transaction}
    (h : intent.recordIntentExact l (clock intent.jobId).1 = (.ok tx, l')) :
    recordable clock (intent :: rest) l = intent.jobId :: recordable clock rest l' := by
  simp only [recordable, h]

section

variable (clock : JobClock) (intents : List (BillingIntent R))

theorem unbilled_of_recordable : ∀ {l : Ledger}, l.Healthy → ∀ id ∈ recordable clock intents l,
      "job:" ++ id ∉ l.journal.processedEvents := by
  induction intents with
  | nil => exact fun _ id hid => by cases hid
  | cons intent rest ih =>
    intro l hl id hid
    cases intent.turn hl (clock intent.jobId).1 with
    | seen hseen haccepted hrecord
    | refused haccepted hrecord => exact ih hl id (by rwa [recordable_of_error hrecord] at hid)
    | recorded tx hnew hevent haccepted hrecord =>
      rw [recordable_of_ok hrecord, List.mem_cons] at hid
      rcases hid with rfl | hid
      · exact hnew
      · intro hmem
        exact ih (Ledger.healthy_recorded hl tx) id hid ((Ledger.mem_processedEvents_recorded _ _ _).mpr (.inr hmem))

theorem unbilled_after_handled :
    ∀ {l : Ledger}, l.Healthy → ∀ id ∈ recordable clock intents l, id ∉ (handled clock intents l).1 →
      "job:" ++ id ∉ (handled clock intents l).2.journal.processedEvents := by
  induction intents with
  | nil => exact fun _ id hid => by cases hid
  | cons intent rest ih =>
    intro l hl id hid hnot
    cases intent.turn hl (clock intent.jobId).1 with
    | seen hseen haccepted hrecord =>
      rw [recordable_of_error hrecord] at hid
      simp only [handled, haccepted, List.mem_cons, not_or] at hnot ⊢
      exact ih hl id hid hnot.2
    | refused haccepted hrecord =>
      rw [recordable_of_error hrecord] at hid
      simp only [handled, haccepted]
      exact unbilled_of_recordable clock rest hl id hid
    | recorded tx hnew hevent haccepted hrecord =>
      rw [recordable_of_ok hrecord, List.mem_cons] at hid
      simp only [handled, haccepted, List.mem_cons, not_or] at hnot ⊢
      exact ih (Ledger.healthy_recorded hl tx) id (hid.resolve_left hnot.1) hnot.2

/-- **Unblocked means handled**: everything that can be recorded gets its turn. -/
theorem unblocked_iff : ∀ {l : Ledger}, l.Healthy →
      (Unblocked clock intents l ↔ ∀ id ∈ recordable clock intents l, id ∈ (handled clock intents l).1) := by
  induction intents with
  | nil => exact fun _ => iff_of_true trivial fun id hid => by cases hid
  | cons intent rest ih =>
    intro l hl
    cases intent.turn hl (clock intent.jobId).1 with
    | seen hseen haccepted hrecord =>
      rw [recordable_of_error hrecord]
      simp only [Unblocked, handled, haccepted, List.mem_cons]
      refine (ih hl).trans ⟨fun h id hid => .inr (h id hid), fun h id hid => (h id hid).resolve_left ?_⟩
      rintro rfl
      exact unbilled_of_recordable clock rest hl _ hid hseen
    | refused haccepted hrecord =>
      rw [recordable_of_error hrecord]
      simp only [Unblocked, handled, haccepted, List.not_mem_nil]
      exact List.eq_nil_iff_forall_not_mem
    | recorded tx hnew hevent haccepted hrecord =>
      rw [recordable_of_ok hrecord]
      simp only [Unblocked, handled, haccepted, List.mem_cons]
      refine (ih (Ledger.healthy_recorded hl tx)).trans ⟨fun h id hid => ?_, fun h id hid => ?_⟩
      · exact hid.imp_right (h id)
      · refine (h id (.inr hid)).resolve_left ?_
        rintro rfl
        exact unbilled_of_recordable clock rest (Ledger.healthy_recorded hl tx) _ hid
          ((Ledger.mem_processedEvents_recorded _ _ _).mpr (.inl hevent.symm))

end

/-! ### The law of the two passes -/

namespace OutboxSystem

variable {s : OutboxSystem R}

/-- The two passes of a restart, one after the other. -/
def recovered (s : OutboxSystem R) (clock clock' : JobClock) : OutboxSystem R :=
  ((reconcileCompletedSettlements clock').run ((replayBillingOutbox clock).run s).2).2

/-- A completed job whose intent can be recorded, or has been. -/
def Settleable (s : OutboxSystem R) (clock : JobClock) (jobId : String) : Prop :=
  s.JobIn jobId .completed ∧ (jobId ∈ recordable clock s.pending s.ledger ∨ s.Billed jobId)

theorem mem_handled_ledger (clock : JobClock) (intents : List (BillingIntent R)) :
    ∀ {l : Ledger} {e : String}, l.Healthy → e ∈ l.journal.processedEvents →
      e ∈ (handled clock intents l).2.journal.processedEvents := by
  induction intents with
  | nil => exact fun _ he => he
  | cons intent rest ih =>
    intro l e hl he
    cases intent.turn hl (clock intent.jobId).1 with
    | seen hseen haccepted hrecord =>
      simp only [handled, haccepted]
      exact ih hl he
    | refused haccepted hrecord =>
      simp only [handled, haccepted]
      exact he
    | recorded tx hnew hevent haccepted hrecord =>
      simp only [handled, haccepted]
      exact ih (Ledger.healthy_recorded hl tx) ((Ledger.mem_processedEvents_recorded _ _ _).mpr (.inr he))

theorem mem_of_recordable (clock : JobClock) (intents : List (BillingIntent R)) :
    ∀ {l : Ledger} {id : String}, id ∈ recordable clock intents l → ∃ i ∈ intents, i.jobId = id := by
  induction intents with
  | nil => exact fun hid => by cases hid
  | cons intent rest ih =>
    intro l id hid
    rw [recordable] at hid
    split at hid
    · rcases List.mem_cons.mp hid with rfl | hid
      · exact ⟨intent, List.mem_cons_self, rfl⟩
      · obtain ⟨i, hi, heq⟩ := ih hid
        exact ⟨i, List.mem_cons_of_mem _ hi, heq⟩
    · obtain ⟨i, hi, heq⟩ := ih hid
      exact ⟨i, List.mem_cons_of_mem _ hi, heq⟩

theorem Sound.completed_of_recordable (h : s.Sound) {clock : JobClock} {id : String}
    (hid : id ∈ recordable clock s.pending s.ledger) : s.JobIn id .completed := by
  obtain ⟨i, hi, rfl⟩ := mem_of_recordable clock s.pending hid
  refine (h.completed _ _ (h.holds_pending hi)).resolve_right fun hsettled => ?_
  exact unbilled_of_recordable clock s.pending h.healthy _ hid (h.settled _ hsettled)

/-- **A restart settles every completed job whose intent can be recorded, exactly when no intent is
blocked.** -/
theorem Sound.recovered_iff (h : s.Sound) (clock clock' : JobClock) :
    (∀ id, s.Settleable clock id → (s.recovered clock clock').JobIn id .settled) ↔
      Unblocked clock s.pending s.ledger := by
  obtain ⟨-, hreplayed⟩ := h.replayBillingOutbox clock
  obtain ⟨-, hreconciled⟩ := hreplayed.sound.reconcileCompletedSettlements clock'
  rw [unblocked_iff clock s.pending h.healthy]
  constructor
  · intro hall id hid
    by_contra hnot
    have hunbilled : ¬Billed ((OutboxSystem.replayBillingOutbox clock).run s).2 id := by
      unfold Billed
      rw [hreplayed.ledger]
      exact unbilled_after_handled clock s.pending h.healthy id hid hnot
    have hcompleted := h.completed_of_recordable hid
    have hsettled := hall id ⟨hcompleted, .inl hid⟩
    have hstill := (hreplayed.others id .settled hnot).mp
      ((hreconciled.others id .settled hunbilled).mp hsettled)
    cases hstill.unique hcompleted
  · rintro hhandled id ⟨hcompleted, hid⟩
    by_cases hmem : id ∈ (handled clock s.pending s.ledger).1
    · exact hreconciled.kept id (hreplayed.settled id hmem)
    · have hbilled : s.Billed id := hid.resolve_left fun hrec => hmem (hhandled id hrec)
      refine hreconciled.settled id ?_ ?_
      · exact (mem_completedJobs _ id).mpr ((hreplayed.others id .completed hmem).mpr hcompleted)
      · unfold Billed
        rw [hreplayed.ledger]
        exact mem_handled_ledger clock s.pending h.healthy hbilled

end OutboxSystem

/-! ### Runs -/

/-- A call of the job store that is not a settlement: no job is moved to `SETTLED` or `REFUNDED`, and no
request bears the name of an acknowledgement. -/
def StoreCall.LeavesSettlement : StoreCall → Prop
  | command (.transitionJob _ req target) =>
    target ≠ .settled ∧ target ≠ .refunded ∧ startsWith req.requestId "ledger-settlement-ack:" = false
  | _ => True

/-- What can happen to the system.  A pass may die after some of its steps, `crash` says after how many, and
the next process opens the ledger's file again.  `store` and `ledger` are what the rest of the system does
meanwhile. -/
inductive OutboxEvent (R : Type)
  | putPending (isoNow : String) (call : IntentCall R)
  | replay (clock : OutboxSystem.JobClock) (crash : Option (ℕ × Env))
  | reconcile (clock : OutboxSystem.JobClock) (crash : Option (ℕ × Env))
  | restart (env : Env)
  | store (now : UtcTime) (call : StoreCall)
  | ledger (env : Env) (op : Op R)

/-- Job transactions come from the outbox alone, settlements from its two passes. -/
def OutboxEvent.OfOutbox : OutboxEvent R → Prop
  | store _ call => call.LeavesSettlement
  | ledger _ op => "job:" ∉ op.eventTags
  | _ => True

namespace OutboxSystem

/-- A new process over what the last one left.  A ledger file that cannot be loaded leaves everything as it
was; a run never leaves one. -/
def restart (s : OutboxSystem R) (env : Env) : OutboxSystem R :=
  match s.ledger.restart env with
  | .ok l => { s with ledger := l }
  | .error _ => s

/-- A process that runs to its end, or dies. -/
def perform {α : Type} (s : OutboxSystem R) (p : Process (OutboxSystem R) α) : Option (ℕ × Env) → OutboxSystem R
  | none => (p.run s).2
  | some (n, env) => (p.after n s).restart env

def next (s : OutboxSystem R) : OutboxEvent R → OutboxSystem R
  | .putPending isoNow call => (s.putPending isoNow call).2
  | .replay clock crash => s.perform (replayBillingOutbox clock) crash
  | .reconcile clock crash => s.perform (reconcileCompletedSettlements clock) crash
  | .restart env => s.restart env
  | .store now call => { s with store := call.run s.store now }
  | .ledger env op => { s with ledger := op.run s.ledger env }

/-- A system that has done nothing yet, its ledger in a new file. -/
def start (cls : Billing.LedgerClass) (networkFeeBps : ℤ) (wallet : String) : OutboxSystem R :=
  ⟨.empty, Dict.empty, Ledger.fresh cls networkFeeBps wallet (some ⟨[], false⟩)⟩

variable {s : OutboxSystem R}

theorem sound_start (cls : Billing.LedgerClass) (networkFeeBps : ℤ) (wallet : String) :
    (start cls networkFeeBps wallet : OutboxSystem R).Sound where
  replay := Billing.Journal.isReplay_empty _
  written := rfl
  keyed _ _ h := by cases h
  billed _ h := by cases h
  recorded _ _ h := by cases h
  completed _ _ h := by cases h
  settled _ h := by
    obtain ⟨row, hrow, -⟩ := h
    cases hrow
  acknowledged _ _ _ h := by cases h

theorem Sound.of_journal (h : s.Sound) {l : Ledger} (hl : l.journal = s.ledger.journal) :
    Sound { s with ledger := l } := by
  refine ⟨?_, ?_, h.keyed, ?_, ?_, h.completed, ?_, h.acknowledged⟩
  · exact hl ▸ h.replay
  · exact hl ▸ h.written
  · intro tx htx jobId hid
    exact h.billed tx (by rwa [← hl]) jobId hid
  · intro jobId i hi hr
    show "job:" ++ jobId ∈ l.journal.processedEvents
    rw [hl]
    exact h.recorded jobId i hi hr
  · intro jobId hj
    show "job:" ++ jobId ∈ l.journal.processedEvents
    rw [hl]
    exact h.settled jobId hj

theorem Sound.restart (h : s.Sound) (env : Env) : (s.restart env).Sound := by
  have hopen := Billing.Journal.open_of_isWritten h.written h.replay
  unfold OutboxSystem.restart Ledger.restart
  rw [hopen]
  exact h.of_journal rfl

theorem Sound.perform {α : Type} {p : Process (OutboxSystem R) α} (h : p.Always Sound s)
    (crash : Option (ℕ × Env)) : (s.perform p crash).Sound := by
  cases crash with
  | none => exact h.run
  | some c => exact (h.after c.1).restart c.2

theorem Sound.insert (h : s.Sound) {row : BillingIntent R} {jobId : String} (hkey : row.jobId = jobId)
    (hnone : s.intents.get? jobId = none) (hpending : row.status = .pending)
    (hcompleted : s.JobIn jobId .completed) : Sound { s with intents := s.intents.set jobId row } :=
  h.set_intent hkey (fun _ hi => nomatch hnone.symm.trans hi) (fun hr => nomatch hpending.symm.trans hr)
    (.inl hcompleted)

theorem Sound.putPending (h : s.Sound) (isoNow : String) (call : IntentCall R) :
    (s.putPending isoNow call).2.Sound := by
  unfold OutboxSystem.putPending getJob
  cases hjob : s.store.jobs.rows.get? call.jobId with
  | none => exact h
  | some job =>
    by_cases hcompleted : job.state = .completed
    · simp only [hcompleted, ne_eq, not_true_eq_false, if_false]
      split
      · exact h
      · split
        · split
          · exact h
          · exact h
        · rename_i hnone
          unfold insertIntent
          split
          · exact h
          · split
            · exact h
            · exact h.insert rfl hnone rfl ⟨job, hjob, hcompleted⟩
    · simp only [ne_eq, hcompleted, not_false_eq_true, if_true]
      exact h

/-! ### What the rest of the system does -/

omit [ShareRatio R] in
theorem head_eventTag {op : Op R} {tag : String} (hop : "job:" ∉ op.eventTags) (h : tag ∈ op.eventTags) :
    tag.toList ≠ [] ∧ tag.toList.head? ≠ some 'j' := by
  have hall : ∀ t ∈ op.eventTags, t ≠ "job:" → t.toList ≠ [] ∧ t.toList.head? ≠ some 'j' := by
    cases op <;> simp [Op.eventTags]
  exact hall tag h fun heq => hop (heq ▸ h)

theorem Sound.ledgerOp (h : s.Sound) (env : Env) {op : Op R} (hop : "job:" ∉ op.eventTags) :
    Sound { s with ledger := op.run s.ledger env } := by
  rcases op.run_journal s.ledger env with heq | ⟨tx, hunseen, hposts, heq⟩
  · exact h.of_journal heq
  · obtain ⟨tag, htag, ref, hevent⟩ := Op.posts_eventTag hposts
    obtain ⟨hne, hhead⟩ := head_eventTag hop htag
    have hother : ∀ jobId, tx.eventId ≠ "job:" ++ jobId := by
      intro jobId
      rw [hevent]
      refine ne_of_head ?_
      rw [head_append hne, head_append (by decide)]
      exact hhead
    have hrecorded : Sound { s with ledger := s.ledger.recorded tx } :=
      h.recorded_tx (hunseen.not_mem h.replay) fun jobId hid => absurd hid (hother jobId)
    exact Sound.of_journal hrecorded heq

/-- The other tables of the store do not matter, nor does a job that is neither completed nor settled. -/
theorem Sound.of_jobs (h : s.Sound) {store : StateStore}
    (hcompleted : ∀ id, s.JobIn id .completed → JobIn { s with store := store } id .completed)
    (hsettled : ∀ id, JobIn { s with store := store } id .settled ↔ s.JobIn id .settled)
    (heffects : ∀ id revision e, store.jobs.effects.get? (id, ackRequestId id revision) = some e →
      s.store.jobs.effects.get? (id, ackRequestId id revision) = some e) :
    Sound { s with store := store } := by
  refine ⟨h.replay, h.written, h.keyed, h.billed, h.recorded, fun id i hi => ?_, fun id hid => ?_,
    fun id revision e he => ?_⟩
  · exact (h.completed id i hi).imp (hcompleted id) (hsettled id).mpr
  · exact h.settled id ((hsettled id).mp hid)
  · exact (hsettled id).mpr (h.acknowledged id revision e (heffects id revision e he))

omit [ShareRatio R] in
theorem startsWith_ackRequestId (jobId : String) (revision : ℕ) :
    startsWith (ackRequestId jobId revision) "ledger-settlement-ack:" = true := by
  unfold ackRequestId
  rw [String.append_assoc, String.append_assoc]
  exact startsWith_append _ _

theorem Sound.storeCall (h : s.Sound) (now : UtcTime) {call : StoreCall} (hcall : call.LeavesSettlement) :
    Sound { s with store := call.run s.store now } := by
  have hstep := call.jobsStep_run s.store now
  generalize hstore : call.run s.store now = store at hstep
  generalize hjobs : store.jobs = jobs at hstep
  cases hstep with
  | same =>
    refine h.of_jobs (fun id => ?_) (fun id => ?_) fun id revision e he => by rwa [hjobs] at he
    · unfold JobIn
      rw [hjobs]
      exact fun hid => hid
    · unfold JobIn
      rw [hjobs]
  | ensured jobId =>
    have hin : ∀ id state, state ≠ .created →
        (JobIn { s with store := store } id state ↔ s.JobIn id state) := by
      intro id state hstate
      unfold JobIn
      rw [hjobs, EntityTable.get?_ensure]
      split
      · rename_i hadded
        refine iff_of_false ?_ ?_
        · rintro ⟨row, hrow, rfl⟩
          cases hrow
          exact hstate rfl
        · rintro ⟨row, hrow, -⟩
          rw [hadded.1, hadded.2] at hrow
          cases hrow
      · exact Iff.rfl
    refine h.of_jobs (fun id => (hin id _ (by decide)).mpr) (fun id => hin id _ (by decide))
      fun id revision e he => ?_
    rwa [hjobs, EntityTable.effects_ensure] at he
  | moved jobId req target row hready =>
    obtain ⟨hsettled, hrefunded, hrequest⟩ := hcall
    have hstate : row.state ≠ .completed ∧ row.state ≠ .settled := by
      have hallowed : target ∈ JobState.allowed row.state := hready.allowed
      constructor
      · intro hrow
        rw [hrow] at hallowed
        simp [JobState.allowed, JobState.forward, JobState.cancellable, hsettled, hrefunded] at hallowed
      · intro hrow
        rw [hrow] at hallowed
        simp [JobState.allowed, JobState.forward, JobState.cancellable, hrefunded] at hallowed
    have hin : ∀ id state, JobIn { s with store := store } id state ↔
        if id = jobId then state = target else s.JobIn id state := by
      intro id state
      unfold JobIn
      rw [hjobs, EntityTable.moved, Dict.get?_set]
      split
      · constructor
        · rintro ⟨r, hr, heq⟩
          cases hr
          exact heq.symm
        · exact fun heq => ⟨_, rfl, heq.symm⟩
      · exact Iff.rfl
    have hbefore : ∀ state, s.JobIn jobId state → state = row.state := fun state hid =>
      hid.unique ⟨row, hready.found, rfl⟩
    refine h.of_jobs (fun id hid => ?_) (fun id => ?_) fun id revision e he => ?_
    · rw [hin]
      split
      · rename_i heq
        rw [heq] at hid
        exact absurd (hbefore _ hid).symm hstate.1
      · exact hid
    · rw [hin]
      split
      · rename_i heq
        rw [heq]
        exact iff_of_false (Ne.symm hsettled) fun hid => hstate.2 (hbefore _ hid).symm
      · exact Iff.rfl
    · have hkey : (id, ackRequestId id revision) ≠ (jobId, req.requestId) := by
        intro heq
        have hstarts := startsWith_ackRequestId id revision
        rw [(Prod.mk.inj heq).2, hrequest] at hstarts
        cases hstarts
      rw [hjobs, EntityTable.moved, Dict.get?_set_of_ne _ hkey] at he
      exact he

/-- **Every event keeps the stores consistent**, wherever it is cut off. -/
theorem Sound.next (h : s.Sound) {e : OutboxEvent R} (he : e.OfOutbox) : (s.next e).Sound := by
  cases e with
  | putPending isoNow call => exact h.putPending isoNow call
  | replay clock crash => exact Sound.perform (h.replayBillingOutbox clock).1 crash
  | reconcile clock crash => exact Sound.perform (h.reconcileCompletedSettlements clock).1 crash
  | restart env => exact h.restart env
  | store now call => exact h.storeCall now he
  | ledger env op => exact h.ledgerOp env he

/-- The ledger has a transaction of the job with the charge and the destinations its intent froze. -/
def Charged (s : OutboxSystem R) (intent : BillingIntent R) : Prop :=
  ∃ tx ∈ s.ledger.journal.transactions, tx.eventId = intent.eventId ∧ intent.postings = .ok tx.fields

theorem Sound.charged (h : s.Sound) {jobId : String} (hbilled : s.Billed jobId) :
    ∃ intent, s.intents.get? jobId = some intent ∧ s.Charged intent := by
  obtain ⟨tx, htx, hevent⟩ := (h.replay.events _).mp hbilled
  obtain ⟨intent, hget, hpostings⟩ := h.billed tx htx jobId hevent
  refine ⟨intent, hget, tx, htx, ?_, hpostings⟩
  rw [hevent, BillingIntent.eventId, h.keyed _ _ hget]

end OutboxSystem

/-- **Completed work is settled once.**  After every run of the outbox, with crashes after any write: no job
has two transactions; a recorded intent has its transaction, with the charge and destinations it froze, and so
has the intent of every settled job; and the two passes of a restart settle every completed job whose intent
can be recorded, exactly when no intent that can be recorded comes after a refused one. -/
theorem completed_work_settled_once (cls : Billing.LedgerClass) (networkFeeBps : ℤ) (wallet : String)
    (events : List (OutboxEvent R)) (hevents : ∀ e ∈ events, e.OfOutbox) :
    let s := Run.exec next (start cls networkFeeBps wallet) events
    (∀ jobId, (s.ledger.journal.transactions.filter fun tx => tx.eventId = "job:" ++ jobId).length ≤ 1) ∧
      (∀ jobId intent, s.intents.get? jobId = some intent → intent.status = .recorded → s.Charged intent) ∧
      (∀ jobId, s.JobIn jobId .settled → ∃ intent, s.intents.get? jobId = some intent ∧ s.Charged intent) ∧
      ∀ clock clock', (∀ jobId, s.Settleable clock jobId → (s.recovered clock clock').JobIn jobId .settled) ↔
        Unblocked clock s.pending s.ledger := by
  intro s
  have hstep : ∀ (s : OutboxSystem R) e, s.Sound → OutboxEvent.OfOutbox e → (s.next e).Sound :=
    fun s e hs he => hs.next he
  have h : s.Sound := Run.exec_of_forall_mem OutboxSystem.Sound hstep
    (sound_start cls networkFeeBps wallet) hevents
  refine ⟨fun jobId => ?_, fun jobId intent hget hrecorded => ?_, fun jobId hsettled => ?_, ?_⟩
  · by_cases hany : ∃ tx ∈ s.ledger.journal.transactions, tx.eventId = "job:" ++ jobId
    · obtain ⟨tx, htx, hevent⟩ := hany
      rw [← hevent, h.replay.filter_event htx]
      exact le_rfl
    · have hnil : (s.ledger.journal.transactions.filter fun tx => tx.eventId = "job:" ++ jobId) = [] := by
        rw [List.filter_eq_nil_iff]
        intro tx htx heq
        exact hany ⟨tx, htx, by simpa using heq⟩
      rw [hnil]
      exact Nat.zero_le _
  · obtain ⟨intent', hget', hcharged⟩ := h.charged (h.recorded jobId intent hget hrecorded)
    rw [hget] at hget'
    cases hget'
    exact hcharged
  · exact h.charged (h.settled jobId hsettled)
  · exact fun clock clock' => h.recovered_iff clock clock'

/-! ### Sample runs -/

instance decidableUnblocked (clock : JobClock) :
    ∀ (intents : List (BillingIntent R)) (l : Ledger), Decidable (Unblocked clock intents l)
  | [], _ => isTrue trivial
  | intent :: rest, l =>
    match haccepted : intent.accepted l (clock intent.jobId).1 with
    | none => decidable_of_iff (recordable clock rest l = []) (by simp only [Unblocked, haccepted])
    | some l' =>
      have := decidableUnblocked clock rest l'
      decidable_of_iff (Unblocked clock rest l') (by simp only [Unblocked, haccepted])

instance : DecidablePred StoreCall.LeavesSettlement
  | .command (.transitionJob ..) => inferInstanceAs (Decidable (_ ∧ _ ∧ _))
  | .command (.leaseReservation ..) | .command (.commitReservation ..)
  | .command (.transitionReservation ..) | .ensureJob _ | .ensureReservation _ | .expireIfDue .. =>
    isTrue trivial

instance : DecidablePred (OutboxEvent.OfOutbox (R := R))
  | .store _ call => inferInstanceAs (Decidable call.LeavesSettlement)
  | .ledger _ op => inferInstanceAs (Decidable ("job:" ∉ op.eventTags))
  | .putPending .. | .replay .. | .reconcile .. | .restart _ => isTrue trivial

instance (s : OutboxSystem R) (jobId : String) (state : JobState) : Decidable (s.JobIn jobId state) :=
  decidable_of_iff ((s.store.jobs.rows.get? jobId).map EntityRow.state = some state) (by
    unfold OutboxSystem.JobIn
    cases s.store.jobs.rows.get? jobId <;> simp)

/-- A job is created and goes through its states until it is completed. -/
def sampleJob (jobId : String) : List (OutboxEvent ℚ) :=
  .store (sampleTime 0 second_zero) (.ensureJob jobId) ::
    ([JobState.validating, .planning, .reserving, .preparing, .running, .verifying, .completed].zipIdx.map
      fun step => .store (sampleTime 1 second_one) (.command (.transitionJob jobId
        { requestId := jobId ++ ":" ++ step.1.value, expectedRevision := step.2 } step.1)))

/-- A job's intent: three hundred micro units, shared by two providers. -/
def sampleIntent (isoNow jobId accountId : String) : OutboxEvent ℚ :=
  .putPending isoNow ⟨jobId, accountId, "model", 100, 100, [("node-a", 1), ("node-b", 2)], 2500, 1, 2⟩

/-- Two completed jobs; the customer of the first has no credit, that of the second has. -/
def blockedRun : List (OutboxEvent ℚ) :=
  sampleJob "job-1" ++ sampleJob "job-2" ++ [.ledger (Env.atTime 0) (.depositCustomerCredits "funded" 1000 "pay-1"),
      sampleIntent "2026-01-01T00:00:02Z" "job-1" "broke",
      sampleIntent "2026-01-01T00:00:03Z" "job-2" "funded"]

def sampleClock : OutboxSystem.JobClock := fun _ => ("2026-01-01T00:00:10Z", sampleTime 10 second_ten)

/-- A completed job whose replay dies when the transaction has been written. -/
def crashedRun : List (OutboxEvent ℚ) :=
  sampleJob "job-2" ++ [.ledger (Env.atTime 0) (.depositCustomerCredits "funded" 1000 "pay-1"),
      sampleIntent "2026-01-01T00:00:03Z" "job-2" "funded",
      .replay sampleClock (some (2, Env.atTime 10))]

/-- The crash leaves the job billed and completed, and the passes of the restart settle it. -/
theorem completed_work_settled_once_sample :
    let s := Run.exec next (start .ledger 2500 "") crashedRun
    s.Billed "job-2" ∧ s.JobIn "job-2" .completed ∧ (s.recovered sampleClock sampleClock).JobIn "job-2" .settled := by
  have hbilled : (Run.exec next (start .ledger 2500 "") crashedRun).Billed "job-2" := by
    unfold OutboxSystem.Billed
    decide +kernel
  have hcompleted : (Run.exec next (start .ledger 2500 "") crashedRun).JobIn
      "job-2" .completed := by
    decide +kernel
  refine ⟨hbilled, hcompleted, ?_⟩
  exact ((completed_work_settled_once .ledger 2500 "" crashedRun (by decide)).2.2.2
    sampleClock sampleClock).mpr (by decide +kernel) "job-2" ⟨hcompleted, .inr hbilled⟩

/-- **One refused intent blocks the others.**  The first job's customer cannot pay; the second job is
completed and its intent can be recorded, and the two passes leave it completed. -/
theorem blocked_job_not_settled :
    let s := Run.exec next (start .ledger 2500 "") blockedRun
    s.Settleable sampleClock "job-2" ∧ (s.recovered sampleClock sampleClock).JobIn "job-2" .completed := by
  refine ⟨⟨?_, .inl ?_⟩, ?_⟩
  · decide +kernel
  · decide +kernel
  · decide +kernel

end ComputeMesh.Orchestrator
