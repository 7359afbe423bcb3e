import ComputeMesh.Lib.Run
import ComputeMesh.Platform.UsageLedger

/-!
# Hard quotas

A run of records and quota changes, next to what the first record under each key carried and returned.

* `inPeriod`, `periodStart_le_iff` — the start of a period is that of the UTC day or month;
* `fallsIn`, `used` — what a scope used in a period, by the ids as the quotas store them;
* `Ledgered.Hard` — what hard quotas promise of a call;
* `Ledgered.Plain` — no id that counts for a quota is padded, and no two records share a digest;
* `quotas_hard` — **every plain call keeps the promise**, `padded_id_unlimited` — a padded id escapes its quota.
-/

namespace ComputeMesh.Platform

open ComputeMesh.Text ComputeMesh.UtcCalendar UsageLedger

/-- The instant is in the same UTC period. -/
def inPeriod (period : QuotaPeriod) (now time : ℚ) : Prop :=
  match period with
  | .lifetime => True
  | .daily => gmtime time = gmtime now
  | .monthly => (gmtime time).year = (gmtime now).year ∧ (gmtime time).month = (gmtime now).month

instance (period : QuotaPeriod) (now time : ℚ) : Decidable (inPeriod period now time) := by
  cases period <;> unfold inPeriod <;> infer_instance

/-- **The instants since the start of a period** are those in it. -/
theorem periodStart_le_iff {period : QuotaPeriod} {now time : ℚ} (hpos : 0 ≤ time) (hle : time ≤ now) :
    periodStart period now ≤ time ↔ inPeriod period now time := by
  cases period with
  | lifetime => exact ⟨fun _ => trivial, fun _ => hpos⟩
  | daily => exact dayStart_le_iff hle
  | monthly => exact monthStart_le_iff hle

/-- The id under which a quota for the scope of a record is stored. -/
def UsageDelta.scopeId (d : UsageDelta) (scope : QuotaScope) : String := normalizedId scope (d.column scope)

def UsageDelta.fallsIn (d : UsageDelta) (scope : QuotaScope) (scopeId : String) : Prop := d.scopeId scope = scopeId

instance (d : UsageDelta) (scope : QuotaScope) (scopeId : String) : Decidable (d.fallsIn scope scopeId) :=
  inferInstanceAs (Decidable (_ = _))

namespace UsageLedger

def recordsIn (l : UsageLedger) (scope : QuotaScope) (scopeId : String) (period : QuotaPeriod) (now : ℚ) : List UsageRow :=
  l.records.values.filter fun row => decide (inPeriod period now row.recordedAt) && decide (row.delta.fallsIn scope scopeId)

def used (l : UsageLedger) (scope : QuotaScope) (scopeId : String) (period : QuotaPeriod) (now : ℚ) (f : UsageField) : ℕ :=
  sumOf (l.recordsIn scope scopeId period now) f

/-- No quota the record falls in is exceeded. -/
def WithinQuotas (l : UsageLedger) (delta : UsageDelta) (now : ℚ) : Prop :=
  ∀ scope scopeId period budget, l.quotas.get? (scope, scopeId, period) = some budget → delta.fallsIn scope scopeId →
    ∀ f limit, budget f = some limit → l.used scope scopeId period now f ≤ limit

end UsageLedger

/-- A call, with the digits of its random ids and its reading of the clock. -/
inductive UsageCall
  | record (delta : UsageDelta) (idempotencyKey : Option String) (budget : Option UsageBudget) (keyHex usageHex : String)
      (now : ℚ)
  | setQuota (quota : UsageQuota)
  | removeQuota (scope : QuotaScope) (scopeId : String) (period : QuotaPeriod)

/-- The ledger, the last reading of the clock, and the first record that was accepted under each key. -/
structure Ledgered where
  ledger : UsageLedger := {}
  clock : ℚ := 0
  first : Dict String (UsageDelta × UsageRecord) := .empty

namespace Ledgered

variable {s : Ledgered} {call : UsageCall} {delta : UsageDelta} {key keyHex usageHex : String}
  {given : Option String} {budget : Option UsageBudget} {now : ℚ} {r : UsageRecord} {l : UsageLedger}

/-- The result of a record becomes the first of its key, unless there is one. -/
def noted (first : Dict String (UsageDelta × UsageRecord)) (delta : UsageDelta) (key : String) :
    Except UsageFailure (UsageRecord × UsageLedger) → Dict String (UsageDelta × UsageRecord)
  | .ok (r, _) => if first.contains key then first else first.set key (delta, r)
  | .error _ => first

/-- One call.  A call that raises leaves the ledger as it was. -/
def step (s : Ledgered) : UsageCall → Ledgered
  | .record delta given budget keyHex usageHex now =>
    let key := UsageLedger.keyOf given keyHex
    let result := s.ledger.record delta key budget usageHex now
    ⟨committed s.ledger result, now, noted s.first delta key result⟩
  | .setQuota quota => { s with ledger := s.ledger.setQuota quota }
  | .removeQuota scope scopeId period => { s with ledger := committed s.ledger (s.ledger.removeQuota scope scopeId period) }

/-- What hard quotas promise of a call. -/
def Hard (s : Ledgered) : UsageCall → Prop
  | .record delta given budget keyHex usageHex now =>
    let key := UsageLedger.keyOf given keyHex
    match s.ledger.record delta key budget usageHex now with
    | .ok (r, l) =>
      match s.first.get? key with
      -- the record is a repetition: it returns the first one and counts for nothing
      | some (delta', r') => delta = delta' ∧ r = r' ∧ l = s.ledger
      | none => l.WithinQuotas delta now
    | .error _ =>
      (s.step (.record delta given budget keyHex usageHex now)).ledger = s.ledger ∧
        ∀ delta' r', s.first.get? key = some (delta', r') → delta ≠ delta'
  | .setQuota _ => True
  | .removeQuota _ _ _ => True

/-- The ids that count for a quota the record falls in are the stored one, in this record and in those before it. -/
def Unpadded (l : UsageLedger) (delta : UsageDelta) : Prop :=
  ∀ entry ∈ l.quotas.entries, delta.fallsIn entry.1.1 entry.1.2.1 →
    delta.column entry.1.1 = entry.1.2.1 ∧
      ∀ row ∈ l.records.values, row.delta.fallsIn entry.1.1 entry.1.2.1 → row.delta.column entry.1.1 = entry.1.2.1

/-- The record does not share its digest with another one under its key. -/
def NoCollision (l : UsageLedger) (delta : UsageDelta) (key : String) : Prop :=
  ∀ row ∈ l.records.get? key,
    delta.fingerprintText = row.delta.fingerprintText ∨ delta.fingerprint ≠ row.delta.fingerprint

/-- The clock does not go back, the ids are not padded and the digests are told apart. -/
def Plain (s : Ledgered) : UsageCall → Prop
  | .record delta given _ keyHex _ now =>
    s.clock ≤ now ∧ Unpadded s.ledger delta ∧ NoCollision s.ledger delta (UsageLedger.keyOf given keyHex)
  | .setQuota _ => True
  | .removeQuota _ _ _ => True

/-- What plain calls keep. -/
structure Sound (s : Ledgered) : Prop where
  clock : 0 ≤ s.clock
  first : ∀ key, s.first.get? key = (s.ledger.records.get? key).map fun row => (row.delta, row.record key)
  rows : ∀ row ∈ s.ledger.records.values,
    row.fingerprint = row.delta.fingerprint ∧ 0 ≤ row.recordedAt ∧ row.recordedAt ≤ s.clock
  /-- Every row has a key that passed the check. -/
  keys : ∀ key row, s.ledger.records.get? key = some row → isIdentifier 200 key = true
  /-- A quota has an id. -/
  quotas : ∀ k budget, s.ledger.quotas.get? k = some budget → k.2.1 ≠ ""

/-! ### One call -/

theorem inPeriod_self (period : QuotaPeriod) (now : ℚ) : inPeriod period now now := by
  cases period with
  | lifetime => trivial
  | daily => rfl
  | monthly => exact ⟨rfl, rfl⟩

/-- **What the check sums is what the scope used**, when no id is padded. -/
theorem Sound.recordsSince_eq (h : Sound s) (hclock : s.clock ≤ now) (hplain : Unpadded s.ledger delta)
    {scope : QuotaScope} {scopeId : String} {period : QuotaPeriod} {limits : UsageBudget}
    (hquota : s.ledger.quotas.get? (scope, scopeId, period) = some limits) (hin : delta.fallsIn scope scopeId) :
    s.ledger.recordsSince scope scopeId (periodStart period now) = s.ledger.recordsIn scope scopeId period now := by
  obtain ⟨hcolumn, hrows⟩ := hplain _ ((s.ledger.quotas.mem_entries_iff _ _).mpr hquota) hin
  have hnormal : normalizedId scope scopeId = scopeId := by
    have hstored : normalizedId scope (delta.column scope) = scopeId := hin
    rwa [hcolumn] at hstored
  refine List.filter_congr fun row hmem => ?_
  obtain ⟨-, hpos, hle⟩ := h.rows row hmem
  have hperiod : decide (periodStart period now ≤ row.recordedAt) = decide (inPeriod period now row.recordedAt) :=
    decide_eq_decide.mpr (periodStart_le_iff hpos (hle.trans hclock))
  have hscope : decide (row.delta.column scope = scopeId) = decide (row.delta.fallsIn scope scopeId) := by
    refine decide_eq_decide.mpr ⟨fun heq => ?_, hrows row hmem⟩
    show normalizedId scope (row.delta.column scope) = scopeId
    rw [heq, hnormal]
  rw [hperiod, hscope]

/-- **A record that passed the checks exceeds no quota.** -/
theorem Sound.withinQuotas (h : Sound s) (hclock : s.clock ≤ now) (hplain : Unpadded s.ledger delta)
    (hchecks : s.ledger.checkQuotas delta now = .ok ()) (hnew : s.ledger.records.get? key = none) {row : UsageRow}
    (hdelta : row.delta = delta) (htime : row.recordedAt = now) :
    UsageLedger.WithinQuotas { s.ledger with records := s.ledger.records.set key row } delta now := by
  intro scope scopeId period limits hquota hin f limit hlimit
  have hquota : s.ledger.quotas.get? (scope, scopeId, period) = some limits := hquota
  obtain ⟨hcolumn, -⟩ := hplain _ ((s.ledger.quotas.mem_entries_iff _ _).mpr hquota) hin
  have hcolumn : delta.column scope = scopeId := hcolumn
  have hid : scopeId ≠ "" := h.quotas _ _ hquota
  have hroom := room_of_checkQuotas hchecks (by rw [hcolumn]; exact hid) (by rw [hcolumn]; exact hquota) hlimit
  rw [hcolumn, h.recordsSince_eq hclock hplain hquota hin] at hroom
  have hone : (decide (inPeriod period now row.recordedAt) && decide (row.delta.fallsIn scope scopeId)) = true := by
    rw [htime, hdelta, decide_eq_true (inPeriod_self period now), decide_eq_true hin]
    rfl
  have hrecords : recordsIn { s.ledger with records := s.ledger.records.set key row } scope scopeId period now
      = s.ledger.recordsIn scope scopeId period now ++ [row] := by
    unfold recordsIn
    rw [Dict.values_set_of_get?_none hnew, List.filter_append]
    exact congrArg _ (List.filter_cons_of_pos hone)
  have hsum : sumOf (s.ledger.recordsIn scope scopeId period now ++ [row]) f
      = sumOf (s.ledger.recordsIn scope scopeId period now) f + delta.amount f := by
    rw [sumOf, List.map_append, List.sum_append, sumOf, List.map_singleton, List.sum_singleton, hdelta]
  rw [used, hrecords, hsum]
  exact hroom

theorem Sound.eq_of_fingerprint (h : Sound s) (hdistinct : NoCollision s.ledger delta key) {row : UsageRow}
    (hrow : s.ledger.records.get? key = some row) (hsame : row.fingerprint = delta.fingerprint) : delta = row.delta := by
  have hprint := (h.rows row (Dict.mem_values_of_get? hrow)).1
  rcases hdistinct row hrow with htext | hne
  · exact UsageDelta.fingerprintText_injective htext
  · exact absurd (hsame.symm.trans hprint) hne

theorem Sound.hard_record (h : Sound s) (hplain : s.Plain (.record delta given budget keyHex usageHex now)) :
    s.Hard (.record delta given budget keyHex usageHex now) := by
  obtain ⟨hclock, hunpadded, hdistinct⟩ := hplain
  unfold Hard
  dsimp only
  cases hresult : s.ledger.record delta (keyOf given keyHex) budget usageHex now with
  | error e =>
    refine ⟨?_, fun delta' r' hfirst heq => ?_⟩
    · show committed s.ledger (s.ledger.record delta (keyOf given keyHex) budget usageHex now) = s.ledger
      rw [hresult]
      rfl
    · rw [h.first] at hfirst
      obtain ⟨row, hrow, heq'⟩ := Option.map_eq_some_iff.mp hfirst
      obtain ⟨rfl, -⟩ := Prod.mk.inj heq'
      have hsame : ¬row.fingerprint ≠ delta.fingerprint := by
        rw [heq]
        exact not_not.mpr (h.rows row (Dict.mem_values_of_get? hrow)).1
      rw [record_of_get? (h.keys _ _ hrow) hrow, if_neg hsame] at hresult
      cases hresult
  | ok result =>
    obtain ⟨r, l⟩ := result
    dsimp only
    rw [h.first]
    rcases record_eq_ok hresult with ⟨row, hrow, hsame, rfl, rfl⟩ | ⟨hnew, hchecks, row, hdelta, htime, -, rfl, rfl⟩
    · rw [hrow]
      exact ⟨h.eq_of_fingerprint hdistinct hrow hsame, rfl, rfl⟩
    · rw [hnew]
      exact h.withinQuotas hclock hunpadded hchecks hnew hdelta htime

theorem Sound.step_record (h : Sound s) (hclock : s.clock ≤ now) :
    Sound (s.step (.record delta given budget keyHex usageHex now)) := by
  have hlater : ∀ row ∈ s.ledger.records.values,
      row.fingerprint = row.delta.fingerprint ∧ 0 ≤ row.recordedAt ∧ row.recordedAt ≤ now := fun row hmem =>
    ⟨(h.rows row hmem).1, (h.rows row hmem).2.1, (h.rows row hmem).2.2.trans hclock⟩
  show Sound ⟨committed s.ledger (s.ledger.record delta (keyOf given keyHex) budget usageHex now), now,
    noted s.first delta (keyOf given keyHex)
      (s.ledger.record delta (keyOf given keyHex) budget usageHex now)⟩
  generalize keyOf given keyHex = key
  cases hresult : s.ledger.record delta key budget usageHex now with
  | error e => exact ⟨h.clock.trans hclock, h.first, hlater, h.keys, h.quotas⟩
  | ok result =>
    obtain ⟨r, l⟩ := result
    rw [committed_ok, noted]
    rcases record_eq_ok hresult with
      ⟨row, hrow, -, rfl, rfl⟩ | ⟨hnew, -, row, hdelta, htime, hprint, rfl, rfl⟩
    · have hknown : s.first.contains key = true := by rw [Dict.contains, h.first, hrow]; rfl
      rw [if_pos hknown]
      exact ⟨h.clock.trans hclock, h.first, hlater, h.keys, h.quotas⟩
    · have hunknown : ¬s.first.contains key = true := by rw [Dict.contains, h.first, hnew]; exact Bool.false_ne_true
      rw [if_neg hunknown]
      refine ⟨h.clock.trans hclock, fun key' => ?_, fun row' hmem => ?_, fun key' row' hget => ?_, h.quotas⟩
      · show (s.first.set key (delta, row.record key)).get? key' = ((s.ledger.records.set key row).get? key').map _
        rw [Dict.get?_set, Dict.get?_set]
        split
        · rename_i heq
          rw [Option.map_some, hdelta, heq]
        · exact h.first key'
      · rcases Dict.mem_values_set hmem with rfl | hold
        · exact ⟨hprint.trans (congrArg UsageDelta.fingerprint hdelta.symm), htime ▸ h.clock.trans hclock, htime.le⟩
        · exact hlater row' hold
      · have hget : (s.ledger.records.set key row).get? key' = some row' := hget
        rw [Dict.get?_set] at hget
        split at hget
        · rename_i heq
          rw [heq]
          rw [record] at hresult
          have hkey := (ite_error_eq_ok_iff.mp hresult).1
          simpa using hkey
        · exact h.keys key' row' hget

theorem quotas_step_record (s : Ledgered) :
    (s.step (.record delta given budget keyHex usageHex now)).ledger.quotas = s.ledger.quotas := by
  refine committed_of (P := fun l : UsageLedger => l.quotas = s.ledger.quotas) rfl fun r l hresult => ?_
  rcases record_eq_ok hresult with ⟨_, -, -, -, rfl⟩ | ⟨-, -, _, -, -, -, -, rfl⟩ <;> rfl

theorem normalizedId_ne_empty {scope : QuotaScope} {scopeId : String} (h : checkScope scope scopeId = .ok ()) :
    normalizedId scope scopeId ≠ "" := by
  unfold normalizedId
  split
  · decide
  · rename_i hscope
    rw [checkScope, if_neg hscope] at h
    exact (ite_error_eq_ok_iff.mp h).1

/-- **Every plain call** keeps the promise, and what the next call relies on. -/
theorem Sound.step (h : Sound s) (hplain : s.Plain call) : s.Hard call ∧ Sound (s.step call) := by
  cases call with
  | record delta given budget keyHex usageHex now => exact ⟨h.hard_record hplain, h.step_record hplain.1⟩
  | setQuota quota =>
    refine ⟨trivial, h.clock, h.first, h.rows, h.keys, fun k limits hget => ?_⟩
    have hget : (s.ledger.quotas.set (quota.scope, normalizedId quota.scope quota.scopeId, quota.period) quota.budget).get? k
        = some limits := hget
    rw [Dict.get?_set] at hget
    split at hget
    · rename_i heq
      rw [heq]
      exact normalizedId_ne_empty quota.valid
    · exact h.quotas k limits hget
  | removeQuota scope scopeId period =>
    refine ⟨trivial, ?_⟩
    show Sound { s with ledger := committed s.ledger (s.ledger.removeQuota scope scopeId period) }
    unfold removeQuota
    cases checkScope scope scopeId with
    | error e => exact h
    | ok u =>
      refine ⟨h.clock, h.first, h.rows, h.keys, fun k limits hget => ?_⟩
      have hget : (s.ledger.quotas.erase (scope, normalizedId scope scopeId, period)).get? k = some limits := hget
      obtain ⟨-, hget⟩ := Dict.get?_erase_eq_some.mp hget
      exact h.quotas k limits hget

theorem Sound.start : Sound {} :=
  ⟨le_refl 0, fun _ => rfl, nofun, nofun, nofun⟩

end Ledgered

/-- **Quotas are hard** along every run of plain calls: no accepted record exceeds a quota it falls in, a repetition
returns the first record and counts for nothing, other data under a known key is rejected, and a rejection changes
nothing. -/
theorem quotas_hard (calls : List UsageCall) (hplain : Run.Along Ledgered.step Ledgered.Plain {} calls) :
    Run.Along Ledgered.step Ledgered.Hard {} calls :=
  Run.along_of_along Ledgered.Sound (fun _ _ h hnow => h.step hnow) Ledgered.Sound.start hplain

/-! ### Runs -/

def promptDelta (principalId : String) (tokens : ℕ) (short : principalId.toList.length ≤ 160) : UsageDelta where
  sessionId := "session"
  turnId := "turn"
  principalId := principalId
  amount f := if f = .promptTokens then tokens else 0
  ids := by decide
  short := by simpa using short
  executionIds := by decide

def promptLimit (tokens : ℕ) : UsageBudget := fun f => if f = .promptTokens then some tokens else none

instance (l : UsageLedger) (delta : UsageDelta) : Decidable (Ledgered.Unpadded l delta) :=
  inferInstanceAs (Decidable (∀ entry ∈ l.quotas.entries, _ → _ ∧ ∀ row ∈ l.records.values, _ → _))

theorem fingerprintText_eq_iff {d d' : UsageDelta} : d.fingerprintText = d'.fingerprintText ↔ d.members = d'.members :=
  JsonAscii.dumpsFlat_injective.eq_iff

instance (l : UsageLedger) (delta : UsageDelta) (key : String) : Decidable (Ledgered.NoCollision l delta key) :=
  decidable_of_iff
    (∀ row ∈ l.records.get? key, delta.members = row.delta.members ∨ delta.fingerprint ≠ row.delta.fingerprint)
    (by simp only [Ledgered.NoCollision, fingerprintText_eq_iff])

instance (s : Ledgered) : (call : UsageCall) → Decidable (s.Plain call)
  | .record _ _ _ _ _ _ => inferInstanceAs (Decidable (_ ∧ _ ∧ _))
  | .setQuota _ => inferInstanceAs (Decidable True)
  | .removeQuota _ _ _ => inferInstanceAs (Decidable True)

/-- A daily quota that one record fits in and a second does not before the next day, and a repetition of the first. -/
def dailyCalls : List UsageCall :=
  [.setQuota ⟨.principal, " alice ", .daily, promptLimit 10, by decide⟩,
    .record (promptDelta "alice" 6 (by decide)) (some "a") none "" "1" 100,
    .record (promptDelta "alice" 6 (by decide)) (some "b") none "" "2" 200,
    .record (promptDelta "alice" 6 (by decide)) (some "b") none "" "3" 86400,
    .removeQuota .principal "alice" .daily,
    .record (promptDelta "alice" 6 (by decide)) (some "a") none "" "4" 86401]

theorem dailyCalls_hard : Run.Along Ledgered.step Ledgered.Hard {} dailyCalls :=
  quotas_hard dailyCalls (by decide)

theorem Ledgered.Hard.withinQuotas {s : Ledgered} {delta : UsageDelta} {given : Option String} {budget : Option UsageBudget}
    {keyHex usageHex : String} {now : ℚ} (h : s.Hard (.record delta given budget keyHex usageHex now))
    (hnew : s.first.get? (UsageLedger.keyOf given keyHex) = none)
    (hchanged : (s.step (.record delta given budget keyHex usageHex now)).ledger ≠ s.ledger) :
    (s.step (.record delta given budget keyHex usageHex now)).ledger.WithinQuotas delta now := by
  have hstep : (s.step (.record delta given budget keyHex usageHex now)).ledger
      = committed s.ledger (s.ledger.record delta (keyOf given keyHex) budget usageHex now) := rfl
  unfold Ledgered.Hard at h
  dsimp only at h
  cases hresult : s.ledger.record delta (keyOf given keyHex) budget usageHex now with
  | error e =>
    rw [hstep, hresult] at hchanged
    exact absurd rfl hchanged
  | ok result =>
    rw [hresult] at h
    dsimp only at h
    rw [hnew] at h
    rw [hstep, hresult]
    exact h

/-- **A padded id** escapes its quota: the quota is stored for the stripped id, and the check looks for the padded one. -/
theorem padded_id_unlimited :
    let s := Ledgered.step {} (.setQuota ⟨.principal, " alice ", .lifetime, promptLimit 5, by decide⟩)
    let call := UsageCall.record (promptDelta " alice " 10 (by decide)) (some "a") none "" "1" 0
    s.ledger.quotas.get? (.principal, "alice", .lifetime) = some (promptLimit 5) ∧
      (s.step call).ledger.used .principal "alice" .lifetime 0 .promptTokens = 10 ∧ ¬s.Hard call := by
  intro s call
  have hused : (s.step call).ledger.used .principal "alice" .lifetime 0 .promptTokens = 10 := by decide
  have hbefore : s.ledger.used .principal "alice" .lifetime 0 .promptTokens = 0 := by decide
  refine ⟨rfl, hused, fun h => ?_⟩
  have hchanged : (s.step call).ledger ≠ s.ledger := by
    intro heq
    rw [heq, hbefore] at hused
    cases hused
  have hquota : (s.step call).ledger.quotas.get? (.principal, "alice", .lifetime) = some (promptLimit 5) := by
    rw [Ledgered.quotas_step_record]
    rfl
  have hin : (promptDelta " alice " 10 (by decide)).fallsIn .principal "alice" := by decide
  have hle := (h.withinQuotas rfl hchanged) .principal "alice" .lifetime (promptLimit 5) hquota hin .promptTokens 5 rfl
  rw [hused] at hle
  exact absurd hle (by decide)

end ComputeMesh.Platform
