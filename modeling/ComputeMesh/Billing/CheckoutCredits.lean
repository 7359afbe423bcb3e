import ComputeMesh.Billing.LedgerRuns
import ComputeMesh.Billing.StripeWebhook

/-!
# A paid checkout is credited once

Runs of webhook deliveries to a service over a file-backed `Ledger`, in which the append to the journal
file may fail at any delivery and the process may restart between two of them.

* `Ledger.Durable` — the invariant of the file: it can be loaded, no event is in it twice, and memory knows
  every event that is in it;
* `WebhookEvents.Rows` — the invariant of the event table: each row is about the event it is stored
  under, and a processed row's event has what it asks for;
* `checkout_credited_once` — **the file never holds two deposits of a session**, and it holds the
  deposit of every processed paid event as long as no event of a session is delivered while its deposit is
  in memory only.

The condition is needed: `_record_transaction` changes memory before it writes the file, so after an append
that failed the next delivery is told `DuplicateEventError` and the event is marked as processed
(`failed_append_loses_checkout`).
-/

namespace ComputeMesh.Billing

open ComputeMesh.Text List StripePaymentService Journal Transaction

/-! ### The journal file -/

variable {l : Ledger}

namespace Ledger

def fileLines (l : Ledger) : List TransactionDict :=
  match l.journal.storage with
  | none => []
  | some file => file.lines

/-- The ledger with a file whose next append fails, or does not. -/
def withAppend (l : Ledger) (appendFails : Bool) : Ledger :=
  { l with journal := { l.journal with
      storage := l.journal.storage.map fun file => { file with appendFails := appendFails } } }

/-- **The invariant of the file.** -/
def Durable (l : Ledger) : Prop :=
  ∃ (txs : List Transaction) (fails : Bool), l.journal.storage = some ⟨txs.map Transaction.toDict, fails⟩ ∧
      (txs.map Transaction.eventId).Nodup ∧
      ∀ tx ∈ txs, tx.eventId ∈ l.journal.processedEvents

def checkoutEvent (sessionId : String) : String := "deposit:" ++ checkoutReference sessionId

/-- The deposits of a session that the file holds. -/
def checkoutDeposits (l : Ledger) (sessionId : String) : List TransactionDict :=
  l.fileLines.filter fun line => line.eventId = checkoutEvent sessionId

theorem Durable.withAppend (h : l.Durable) (appendFails : Bool) : (l.withAppend appendFails).Durable := by
  obtain ⟨txs, fails, hstorage, hnodup, hmem⟩ := h
  refine ⟨txs, appendFails, ?_, hnodup, hmem⟩
  show l.journal.storage.map _ = _
  rw [hstorage]
  rfl

theorem fileLines_withAppend (l : Ledger) (appendFails : Bool) :
    (l.withAppend appendFails).fileLines = l.fileLines := by
  unfold fileLines withAppend
  cases l.journal.storage <;> rfl

theorem Durable.eventIds_nodup (h : l.Durable) : (l.fileLines.map TransactionDict.eventId).Nodup := by
  obtain ⟨txs, fails, hstorage, hnodup, -⟩ := h
  have hlines : l.fileLines.map TransactionDict.eventId = txs.map eventId := by
    rw [fileLines, hstorage]
    simp [toDict]
  rwa [hlines]

theorem Durable.length_checkoutDeposits_le (h : l.Durable) (sessionId : String) :
    (l.checkoutDeposits sessionId).length ≤ 1 := by
  have hnodup : ((l.checkoutDeposits sessionId).map TransactionDict.eventId).Nodup :=
    h.eventIds_nodup.sublist (filter_sublist.map _)
  have hsame : ∀ e ∈ (l.checkoutDeposits sessionId).map TransactionDict.eventId, e = checkoutEvent sessionId := by
    intro e he
    obtain ⟨line, hline, rfl⟩ := mem_map.mp he
    simpa using (mem_filter.mp hline).2
  rw [← length_map TransactionDict.eventId, eq_replicate_of_mem hsame]
  rw [eq_replicate_of_mem hsame, nodup_replicate] at hnodup
  simpa using hnodup

/-- The file holds a deposit of the session. -/
def HasDeposit (l : Ledger) (sessionId : String) : Prop :=
  checkoutEvent sessionId ∈ l.fileLines.map TransactionDict.eventId

instance (l : Ledger) (sessionId : String) : Decidable (l.HasDeposit sessionId) :=
  inferInstanceAs (Decidable (_ ∈ _))

theorem Durable.length_checkoutDeposits (h : l.Durable) {sessionId : String}
    (hdep : l.HasDeposit sessionId) : (l.checkoutDeposits sessionId).length = 1 := by
  obtain ⟨line, hline, hevent⟩ := mem_map.mp hdep
  have hmem : line ∈ l.checkoutDeposits sessionId := mem_filter.mpr ⟨hline, by simp [hevent]⟩
  have hpos := length_pos_of_mem hmem
  have hle := h.length_checkoutDeposits_le sessionId
  omega

/-! ### What a deposit and a restart do to the file -/

/-- What recording a transaction does to a file: nothing but a new line at the end, and that line is
there if no exception was raised. -/
theorem Durable.commit (h : l.Durable) {tx : Transaction} (hnew : tx.eventId ∉ l.journal.processedEvents) :
    (l.commit tx).2.Durable ∧ l.fileLines ⊆ (l.commit tx).2.fileLines ∧
      (∀ t, (l.commit tx).1 = .ok t → tx.toDict ∈ (l.commit tx).2.fileLines) ∧
      ∀ m, (l.commit tx).1 ≠ .error (.duplicateEvent m) := by
  obtain ⟨txs, fails, hstorage, hnodup, hmem⟩ := h
  have hfresh : tx.eventId ∉ txs.map eventId := by
    intro hin
    obtain ⟨t, ht, heq⟩ := mem_map.mp hin
    exact hnew (heq ▸ hmem t ht)
  have hpost : (l.journal.post tx).storage = some ⟨txs.map toDict, fails⟩ := hstorage
  have hold : ∀ t ∈ txs, t.eventId ∈ (l.journal.post tx).processedEvents := fun t ht =>
    mem_insert_of_mem (hmem t ht)
  cases fails with
  | true =>
    have hrec : l.commit tx
        = (.error (.os "journal append failed"), { l with journal := l.journal.post tx }) := by
      simp [Ledger.commit, recordTransaction, appendToDisk, hpost]
    rw [hrec]
    refine ⟨⟨txs, true, hpost, hnodup, hold⟩, ?_, ?_, ?_⟩
    · exact fun line hline => hline
    · intro t ht
      cases ht
    · intro m hm
      cases hm
  | false =>
    have hrec : l.commit tx = (.ok tx, { l with journal := { l.journal.post tx with
        storage := some ⟨txs.map toDict ++ [tx.toDict], false⟩ } }) := by
      simp [Ledger.commit, recordTransaction, appendToDisk, hpost]
    rw [hrec]
    refine ⟨⟨txs ++ [tx], false, by simp, ?_, ?_⟩, ?_, ?_, ?_⟩
    · rw [map_append, map_singleton, ← concat_eq_append]
      exact hnodup.concat hfresh
    · intro t ht
      rcases mem_append.mp ht with ht | ht
      · exact hold t ht
      · rw [mem_singleton.mp ht]
        exact mem_insert_self
    · intro line hline
      rw [fileLines, hstorage] at hline
      exact mem_append_left _ hline
    · intro t _
      exact mem_append_right _ (mem_singleton_self _)
    · intro m hm
      cases hm

/-- **What a deposit for a session does to the file.** -/
structure DepositEffect (l l' : Ledger) (result : Except Exn Transaction) (sessionId : String) :
    Prop where
  durable : l'.Durable
  cls : l'.cls = l.cls
  keeps : l.fileLines ⊆ l'.fileLines
  written : ∀ tx, result = .ok tx → l'.HasDeposit sessionId
  duplicate : ∀ m, result = .error (.duplicateEvent m) → l' = l ∧ checkoutEvent sessionId ∈ l.journal.processedEvents

theorem Durable.depositCredits (h : l.Durable) (hcls : l.cls = .ledger) (env : Env)
    (customer : String) (amount : ℤ) (sessionId : String) :
    DepositEffect l (l.depositCredits env customer amount (checkoutReference sessionId)).2
      (l.depositCredits env customer amount (checkoutReference sessionId)).1 sessionId := by
  have hgate : l.cls.isGateway = false := by rw [hcls]; rfl
  have hrefused : ∀ e : Exn, (∀ m, e ≠ .duplicateEvent m) →
      DepositEffect l l (.error e : Except Exn Transaction) sessionId := by
    intro e hne
    refine ⟨h, rfl, fun _ hl => hl, ?_, ?_⟩
    · intro tx htx
      cases htx
    · intro m hm
      cases hm
      exact absurd rfl (hne m)
  rw [Ledger.depositCredits, hgate]
  simp only [Bool.false_eq_true, if_false, depositCustomerCredits]
  split
  · exact hrefused _ fun m hm => by cases hm
  · split
    · rename_i hmem
      refine ⟨h, rfl, fun _ hl => hl, ?_, fun m _ => ⟨rfl, hmem⟩⟩
      intro tx htx
      cases htx
    · rename_i hnew
      unfold commitNew
      split
      · rename_i exn hexn
        obtain ⟨message, rfl⟩ := newTransaction_error hexn
        exact hrefused _ fun m hm => by cases hm
      · rename_i tx htx
        have hevent : tx.eventId = checkoutEvent sessionId := (newTransaction_ok htx).2.1
        obtain ⟨hdur, hkeeps, hwritten, hnodup⟩ :=
          h.commit (show tx.eventId ∉ l.journal.processedEvents by rw [hevent]; exact hnew)
        refine ⟨hdur, by rw [commit_snd]; rfl, hkeeps, ?_, ?_⟩
        · intro t ht
          exact mem_map.mpr ⟨tx.toDict, hwritten t ht, hevent⟩
        · intro m hm
          exact absurd hm (hnodup m)

theorem Durable.restart (h : l.Durable) (env : Env) :
    ∃ l', l.restart env = .ok l' ∧ l'.Durable ∧ l'.cls = l.cls ∧ l'.fileLines = l.fileLines := by
  obtain ⟨txs, fails, hstorage, hnodup, -⟩ := h
  have hload : open_ l.journal.storage
      = .ok (replay (some ⟨txs.map toDict, fails⟩) txs) := by
    rw [hstorage]
    exact loadLines_toDict txs _
  have hstore := replay_storage_eq (some ⟨txs.map toDict, fails⟩) txs
  refine ⟨{ l with
    journal := replay (some ⟨txs.map toDict, fails⟩) txs
    holds := Ledger.loadHolds env.time (l.holdsFile.getD [])
    ownerHolds := Dict.empty }, by rw [Ledger.restart, hload], ?_, rfl, ?_⟩
  · refine ⟨txs, fails, hstore, hnodup, ?_⟩
    intro tx htx
    exact mem_processedEvents_replay _ htx
  · show (match (replay (some ⟨txs.map toDict, fails⟩) txs).storage with
      | none => []
      | some file => file.lines) = l.fileLines
    rw [hstore, fileLines, hstorage]

end Ledger

/-! ### The event table -/

namespace WebhookEvents

/-- **The invariant of the event table**: every row is stored under its event's id, and what a processed
row's event asks for has been done. -/
def Rows (done : CheckoutEvent → Prop) (t : WebhookEvents) : Prop :=
  ∀ k row, Dict.get? t k = some row → strip row.payload.id = k ∧ (row.status = .processed → done row.payload)

/-- The row of the event that is being handled, if it is tracked, is its own. -/
def Begun (e : CheckoutEvent) (t : WebhookEvents) : Prop :=
  strip e.id ≠ "" → ∀ row, Dict.get? t (strip e.id) = some row → row.payload = e

variable {done done' : CheckoutEvent → Prop} {t : WebhookEvents} {e : CheckoutEvent}

theorem Rows.mono (h : Rows done t) (hmono : ∀ e, done e → done' e) : Rows done' t := fun k row hk =>
  ⟨(h k row hk).1, fun hp => hmono _ ((h k row hk).2 hp)⟩

theorem Rows.set_processing (h : Rows done t) : Rows done (Dict.set t (strip e.id) ⟨e, .processing, ""⟩) := by
  intro k row hk
  rcases Dict.get?_set_eq_some.mp hk with ⟨hkey, rfl⟩ | ⟨-, hk⟩
  · refine ⟨hkey.symm, ?_⟩
    intro hp
    cases hp
  · exact h k row hk

theorem begun_set_processing : Begun e (Dict.set t (strip e.id) ⟨e, .processing, ""⟩) := by
  intro _ row hrow
  rw [Dict.get?_set_self] at hrow
  cases hrow
  rfl

/-- `begin_webhook_event` leaves the table alone if the event is processed, and makes the event's row its
own otherwise. -/
theorem Rows.begin (h : Rows done t) :
    ((t.beginWebhookEvent e).1 = .alreadyProcessed ∧ (t.beginWebhookEvent e).2 = t) ∨
      (Rows done (t.beginWebhookEvent e).2 ∧ Begun e (t.beginWebhookEvent e).2) := by
  simp only [beginWebhookEvent]
  split
  · rename_i hempty
    exact .inr ⟨h, fun hne => absurd hempty hne⟩
  · split
    · split
      · exact .inl ⟨rfl, rfl⟩
      · exact .inr ⟨h.set_processing, begun_set_processing⟩
    · exact .inr ⟨h.set_processing, begun_set_processing⟩

theorem Rows.update (h : Rows done t) {eventId : String} {change : WebhookRow → WebhookRow}
    (hpayload : ∀ row, (change row).payload = row.payload)
    (hdone : ∀ row, eventId ≠ "" → Dict.get? t eventId = some row →
      (change row).status = .processed → done row.payload) : Rows done (t.update eventId change) := by
  unfold WebhookEvents.update
  split
  · exact h
  · rename_i hne
    split
    · exact h
    · rename_i row hrow
      intro k row' hk
      rcases Dict.get?_set_eq_some.mp hk with ⟨hkey, rfl⟩ | ⟨-, hk⟩
      · subst hkey
        rw [hpayload]
        exact ⟨(h k row hrow).1, hdone row hne hrow⟩
      · exact h k row' hk

theorem Rows.markWebhookFailed (h : Rows done t) (eventId error : String) :
    Rows done (t.markWebhookFailed eventId error) := by
  apply h.update
  · intro row
    rfl
  · intro row _ _ hstatus
    cases hstatus

/-- Marking the event that is being handled needs what the event asks for; a mark under an id that is not
stripped finds no row. -/
theorem Rows.markWebhookProcessed (h : Rows done t) (hbegun : Begun e t) (hdone : done e) :
    Rows done (t.markWebhookProcessed e.id) := by
  apply h.update
  · intro row
    rfl
  · intro row hne hrow _
    have hkey : strip e.id = e.id := by
      rw [← (h _ row hrow).1, strip_strip]
    rw [hbegun (by rwa [hkey]) row (by rwa [hkey])]
    exact hdone

end WebhookEvents

/-! ### Deliveries -/

/-- The event says that its session is paid, by the tests `process_webhook_event` makes. -/
def CheckoutEvent.ReportsPaid (e : CheckoutEvent) : Prop :=
  e.type = .asyncPaymentSucceeded ∨
    (e.type = .completed ∧ textOr e.paymentStatus "paid" ∈ ["paid", "no_payment_required"])

instance (e : CheckoutEvent) : Decidable e.ReportsPaid := inferInstanceAs (Decidable (_ ∨ _))

theorem resolveEvent_ignore {livemode : Option Bool} {sessions : Option SessionStore} {e : CheckoutEvent}
    {reason : String} (h : resolveEvent livemode sessions e = .ok (.ignore reason)) : ¬e.ReportsPaid := by
  unfold resolveEvent at h
  split at h
  · revert h
    fun_cases resolveSession with
    | case2 paymentStatus _ hunpaid =>
      rintro - (htype | ⟨-, hpaid⟩)
      · rw [htype] at hunpaid
        cases hunpaid.1
      · exact hunpaid.2 hpaid
    | case7 => fun_cases checkPaidAmount with | _ => exact nofun
    | _ => exact nofun
  · rename_i htype
    rintro (hpaid | ⟨hpaid, -⟩)
    · exact htype (.inr hpaid)
    · exact htype (.inl hpaid)

namespace StripePaymentService

/-- What a processed event asks for: the deposit of its session in the file, if it reports one paid. -/
def Credited (l : Ledger) (e : CheckoutEvent) : Prop := e.ReportsPaid → l.HasDeposit e.sessionId

/-- **The invariant of the service.** -/
structure Sound (s : StripePaymentService) : Prop where
  cls : s.ledger.cls = .ledger
  durable : s.ledger.Durable
  rows : s.webhookEvents.Rows (Credited s.ledger)

/-- The deposit of the event's session is not in memory only. -/
def NotInMemoryOnly (s : StripePaymentService) (e : CheckoutEvent) : Prop :=
  e.ReportsPaid → Ledger.checkoutEvent e.sessionId ∈ s.ledger.journal.processedEvents →
    s.ledger.HasDeposit e.sessionId

instance (s : StripePaymentService) (e : CheckoutEvent) : Decidable (s.NotInMemoryOnly e) :=
  inferInstanceAs (Decidable (_ → _ → _))

theorem Credited.mono {l l' : Ledger} (h : l.fileLines ⊆ l'.fileLines) (e : CheckoutEvent)
    (hc : Credited l e) : Credited l' e := by
  intro hpaid
  obtain ⟨line, hline, hevent⟩ := mem_map.mp (hc hpaid)
  exact mem_map.mpr ⟨line, h hline, hevent⟩

variable {s : StripePaymentService} {env : Env} {e : CheckoutEvent}

theorem Sound.fail (h : s.Sound) (exn : Exn) : (s.fail e exn).2.Sound :=
  ⟨h.cls, h.durable, h.rows.markWebhookFailed e.id exn.text⟩

theorem Sound.finish (h : s.Sound) (hbegun : s.webhookEvents.Begun e) (hdone : Credited s.ledger e)
    (result : WebhookResult) : (s.finish e result).2.Sound :=
  ⟨h.cls, h.durable, h.rows.markWebhookProcessed hbegun hdone⟩

theorem Sound.withSessions (h : s.Sound) (sessions : Option SessionStore) :
    { s with sessionStore := sessions }.Sound :=
  ⟨h.cls, h.durable, h.rows⟩

theorem Sound.afterDeposit (h : s.Sound) (hbegun : s.webhookEvents.Begun e)
    (hdone : Credited s.ledger e) (customer : String) (tx : Transaction) :
    (s.afterDeposit env e customer tx).2.Sound := by
  simp only [StripePaymentService.afterDeposit]
  split
  · exact (h.withSessions _).fail _
  · refine Sound.finish (h.withSessions _) ?_ ?_ _
    · exact hbegun
    · exact hdone

theorem Sound.withLedger (h : s.Sound) (hcls : l.cls = .ledger) (hdur : l.Durable)
    (hkeeps : s.ledger.fileLines ⊆ l.fileLines) : { s with ledger := l }.Sound :=
  ⟨hcls, hdur, h.rows.mono (Credited.mono hkeeps)⟩

theorem Sound.credit (h : s.Sound) (hbegun : s.webhookEvents.Begun e) (hpaid : e.ReportsPaid)
    (hmem : s.NotInMemoryOnly e) (customer : String) (amount : ℤ) :
    (s.credit env e customer amount).2.Sound := by
  have heffect := h.durable.depositCredits h.cls env customer amount e.sessionId
  unfold StripePaymentService.credit
  generalize s.ledger.depositCredits env customer amount (checkoutReference e.sessionId) = r at heffect ⊢
  obtain ⟨result, l⟩ := r
  have hsound : { s with ledger := l }.Sound :=
    h.withLedger (heffect.cls.trans h.cls) heffect.durable heffect.keeps
  split
  · rename_i tx l' hr
    cases hr
    exact hsound.afterDeposit hbegun (fun _ => heffect.written tx rfl) customer tx
  · rename_i m l' hr
    cases hr
    obtain ⟨hl, hprocessed⟩ := heffect.duplicate m rfl
    refine hsound.finish hbegun (fun _ => ?_) _
    rw [show l = s.ledger from hl]
    exact hmem hpaid hprocessed
  · rename_i exn l' hne hr
    cases hr
    exact hsound.fail exn

theorem resolveEvent_credit {livemode : Option Bool} {sessions : Option SessionStore} {e : CheckoutEvent}
    {customer : String} {amount : ℤ} (h : resolveEvent livemode sessions e = .ok (.credit customer amount)) :
    e.ReportsPaid := by
  unfold resolveEvent at h
  split at h
  · rename_i htype
    simp only [resolveSession] at h
    split at h
    · cases h
    · split at h
      · cases h
      · rename_i hpaid
        rcases htype with htype | htype
        · exact .inr ⟨htype, by_contra fun hnot => hpaid ⟨htype, hnot⟩⟩
        · exact .inl htype
  · cases h

theorem Sound.handle (h : s.Sound) (hbegun : s.webhookEvents.Begun e) (hmem : s.NotInMemoryOnly e) :
    (s.handle env e).2.Sound := by
  unfold StripePaymentService.handle
  split
  · exact h.fail _
  · rename_i reason hres
    exact h.finish hbegun (fun hpaid => absurd hpaid (resolveEvent_ignore hres)) _
  · rename_i customer amount hres
    exact h.credit hbegun (resolveEvent_credit hres) hmem customer amount

/-- **One delivery keeps the invariant**, unless it finds the deposit in memory only. -/
theorem Sound.processWebhookEvent (h : s.Sound) (hmem : s.NotInMemoryOnly e) :
    (s.processWebhookEvent env e).2.Sound := by
  unfold StripePaymentService.processWebhookEvent
  split
  · exact h
  · rename_i answer events hne hbegin
    rcases h.rows.begin (e := e) with ⟨halready, -⟩ | ⟨hrows, hbegun⟩
    · rw [hbegin] at halready
      exact absurd halready hne
    · rw [hbegin] at hrows hbegun
      have hsound : { s with webhookEvents := events }.Sound := ⟨h.cls, h.durable, hrows⟩
      exact hsound.handle hbegun hmem

theorem processWebhookEvent_ledger (s : StripePaymentService) (env : Env) (e : CheckoutEvent) :
    (s.processWebhookEvent env e).2.ledger = s.ledger ∨
      ∃ customer amount, (s.processWebhookEvent env e).2.ledger
        = (s.ledger.depositCredits env customer amount (checkoutReference e.sessionId)).2 := by
  unfold processWebhookEvent
  split
  · exact .inl rfl
  · unfold handle
    split
    · exact .inl rfl
    · exact .inl rfl
    · rename_i customer amount _
      refine .inr ⟨customer, amount, ?_⟩
      unfold credit
      split
      · rename_i hr
        rw [hr]
        simp only [afterDeposit]
        split <;> rfl
      · rename_i hr
        rw [hr]
        rfl
      · rename_i hr
        rw [hr]
        rfl

end StripePaymentService

/-! ### Runs -/

/-- What happens to the service: an event is delivered, with an append that fails or not; the process
restarts; a checkout is created, which stores its session. -/
inductive WebhookStep
  | deliver (env : Env) (appendFails : Bool) (event : CheckoutEvent)
  | restart (env : Env)
  | storeSession (record : StripeSessionRecord)

namespace StripePaymentService

/-- One step; a process whose ledger cannot be loaded does not come up. -/
def next (s : StripePaymentService) : WebhookStep → StripePaymentService
  | .deliver env appendFails event =>
    ({ s with ledger := s.ledger.withAppend appendFails }.processWebhookEvent env event).2
  | .restart env =>
    match s.ledger.restart env with
    | .ok ledger => { s with ledger := ledger }
    | .error _ => s
  | .storeSession record => { s with sessionStore := s.sessionStore.map fun store => store.upsert record }

/-- A service over a new file-backed `Ledger`. -/
def start (networkFeeBps : ℤ) (wallet : String) (sessions : Option SessionStore)
    (expectedLivemode : Option Bool) : StripePaymentService :=
  ⟨Ledger.fresh .ledger networkFeeBps wallet (some ⟨[], false⟩), Dict.empty, sessions, expectedLivemode⟩

/-- The condition: no event that reports a session paid is delivered while the session's deposit is in
memory and not in the file. -/
def Recovered (s : StripePaymentService) : WebhookStep → Prop
  | .deliver _ _ event => s.NotInMemoryOnly event
  | .restart _ | .storeSession _ => True

instance (s : StripePaymentService) : (step : WebhookStep) → Decidable (s.Recovered step)
  | .deliver _ _ event => inferInstanceAs (Decidable (s.NotInMemoryOnly event))
  | .restart _ | .storeSession _ => inferInstanceAs (Decidable True)

/-- The part of the invariant that every step keeps. -/
def FileSound (s : StripePaymentService) : Prop := s.ledger.cls = .ledger ∧ s.ledger.Durable

theorem FileSound.next {s : StripePaymentService} (h : s.FileSound) (step : WebhookStep) :
    (s.next step).FileSound := by
  obtain ⟨hcls, hdur⟩ := h
  cases step with
  | deliver env appendFails event =>
    have hdur' := hdur.withAppend appendFails
    rcases processWebhookEvent_ledger { s with ledger := s.ledger.withAppend appendFails } env event with
      heq | ⟨customer, amount, heq⟩
    · unfold FileSound
      rw [StripePaymentService.next, heq]
      exact ⟨hcls, hdur'⟩
    · have heffect := hdur'.depositCredits hcls env customer amount event.sessionId
      unfold FileSound
      rw [StripePaymentService.next, heq]
      exact ⟨heffect.cls.trans hcls, heffect.durable⟩
  | restart env =>
    obtain ⟨l, hrestart, hdur', hcls', -⟩ := hdur.restart env
    simp only [StripePaymentService.next, hrestart]
    exact ⟨hcls'.trans hcls, hdur'⟩
  | storeSession record => exact ⟨hcls, hdur⟩

theorem Sound.next {s : StripePaymentService} (h : s.Sound) {step : WebhookStep}
    (hok : s.Recovered step) : (s.next step).Sound := by
  cases step with
  | deliver env appendFails event =>
    have hlines := s.ledger.fileLines_withAppend appendFails
    have hsound : { s with ledger := s.ledger.withAppend appendFails }.Sound :=
      h.withLedger h.cls (h.durable.withAppend appendFails) (by rw [hlines]; exact fun _ hl => hl)
    apply hsound.processWebhookEvent
    intro hpaid hprocessed
    unfold Ledger.HasDeposit
    rw [hlines]
    exact hok hpaid hprocessed
  | restart env =>
    obtain ⟨l, hrestart, hdur, hcls, hlines⟩ := h.durable.restart env
    simp only [StripePaymentService.next, hrestart]
    exact h.withLedger (hcls.trans h.cls) hdur (by rw [hlines]; exact fun _ hl => hl)
  | storeSession record => exact h.withSessions _

theorem durable_fresh (networkFeeBps : ℤ) (wallet : String) :
    (Ledger.fresh .ledger networkFeeBps wallet (some ⟨[], false⟩)).Durable :=
  ⟨[], false, rfl, by simp, by simp⟩

theorem sound_start (networkFeeBps : ℤ) (wallet : String) (sessions : Option SessionStore)
    (expectedLivemode : Option Bool) : (start networkFeeBps wallet sessions expectedLivemode).Sound :=
  ⟨rfl, durable_fresh networkFeeBps wallet, fun k row hk => by cases hk⟩

/-- **A paid checkout is credited once.**  Whatever is delivered, whichever appends fail and whenever the
process restarts, the journal file never holds two deposits of a session.  If moreover no paid event of a
session is delivered while the session's deposit is in memory only, the file holds exactly one deposit
of the session of every event that reports it paid and is marked as processed. -/
theorem checkout_credited_once (networkFeeBps : ℤ) (wallet : String) (sessions : Option SessionStore)
    (expectedLivemode : Option Bool) (steps : List WebhookStep) :
    let s₀ := start networkFeeBps wallet sessions expectedLivemode
    let s := Run.exec next s₀ steps
    (∀ sessionId, (s.ledger.checkoutDeposits sessionId).length ≤ 1) ∧
      (Run.Along next Recovered s₀ steps → ∀ eventId row,
        s.webhookEvents.get? eventId = some row → row.status = .processed → row.payload.ReportsPaid →
          (s.ledger.checkoutDeposits row.payload.sessionId).length = 1) := by
  intro s₀ s
  have hsound := sound_start networkFeeBps wallet sessions expectedLivemode
  have hfile : s.FileSound :=
    Run.exec_of_forall FileSound (fun _ step h => h.next step) ⟨hsound.cls, hsound.durable⟩ steps
  refine ⟨hfile.2.length_checkoutDeposits_le, ?_⟩
  intro hok eventId row hrow hprocessed hpaid
  have hs : s.Sound := Run.exec_of_along Sound (fun _ _ h hstep => h.next hstep) hsound hok
  exact hfile.2.length_checkoutDeposits ((hs.rows eventId row hrow).2 hprocessed hpaid)

def sampleCheckout (eventId : String) : CheckoutEvent :=
  { id := eventId
    type := .completed
    sessionId := "cs_1"
    paymentStatus := "paid"
    currency := "usd"
    clientReferenceId := "alice"
    amountSubtotal := 100
    amountTotal := 100 }

/-- An append fails, the process is restarted, and the event is delivered again: it is credited. -/
theorem checkout_credited_once_sample : let s₀ := start 1000 "" none none
    let steps : List WebhookStep := [.deliver (Env.atTime 0) true (sampleCheckout "evt_1"),
      .restart (Env.atTime 0), .deliver (Env.atTime 0) false (sampleCheckout "evt_1")]
    Run.Along next Recovered s₀ steps ∧ ((Run.exec next s₀ steps).ledger.checkoutDeposits "cs_1").length = 1 := by
  intro s₀ steps
  have hok : Run.Along next Recovered s₀ steps := by decide
  have hrow : ∃ row, (Run.exec next s₀ steps).webhookEvents.get? "evt_1" = some row ∧
      row.status = .processed ∧ row.payload.ReportsPaid ∧ row.payload.sessionId = "cs_1" :=
    ⟨⟨sampleCheckout "evt_1", .processed, ""⟩, by decide⟩
  obtain ⟨row, hget, hprocessed, hpaid, hsession⟩ := hrow
  refine ⟨hok, ?_⟩
  rw [← hsession]
  exact (checkout_credited_once 1000 "" none none steps).2 hok "evt_1" row hget hprocessed hpaid

/-- **An append that fails loses the checkout**: the same event is delivered again to the same process, is
told that its deposit exists, and is marked as processed; the file is empty, and a restart forgets
the deposit. -/
theorem failed_append_loses_checkout :
    let steps : List WebhookStep := [.deliver (Env.atTime 0) true (sampleCheckout "evt_1"),
      .deliver (Env.atTime 0) false (sampleCheckout "evt_1")]
    let s := Run.exec next (start 1000 "" none none) steps
    (∃ row, s.webhookEvents.get? "evt_1" = some row ∧ row.status = .processed ∧
        row.payload.ReportsPaid ∧ row.payload.sessionId = "cs_1") ∧
      (s.ledger.checkoutDeposits "cs_1").length = 0 ∧
      (s.next (.restart (Env.atTime 0))).ledger.rawBalance "alice" = 0 :=
  ⟨⟨⟨sampleCheckout "evt_1", .processed, ""⟩, by decide⟩, by decide, by decide⟩

end StripePaymentService

end ComputeMesh.Billing
