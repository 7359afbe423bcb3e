import ComputeMesh.Platform.AgentSession
import ComputeMesh.Lib.Table

/-!
# The event outbox

Every event of a session is also a row of an outbox that dispatchers empty: a dispatcher claims a batch of rows under
a lease, delivers them, and acknowledges or releases each (`claim_pending_events`, `ack_pending_events` and
`release_pending_events` of `services/mcp/platform/session.py`).

* `Outbox` — the rows of `agent_events` by event id;
* `get?_claimed`, `get?_settle` — what a claim and what an acknowledge or a release does to each row;
* `settle_of_not_claimant` — **a consumer that is the claimant of none of the events changes nothing**;
* `claimed_iff`, `offered_of_claimable` — **what a claim returns**: every row that is open to it, or as many as were
  asked for, all of which come before.

The columns that none of these reads (turn, payload) are left out.
-/

namespace ComputeMesh.Platform

open List

structure OutboxEvent where
  sessionId : String
  sequence : ℕ
  eventType : String
  createdAt : ℚ
  dispatchedAt : Option ℚ := none
  claimedBy : Option String := none
  claimedAt : Option ℚ := none
  claimExpiresAt : Option ℚ := none
  outboxAttempts : ℕ := 0
  deriving DecidableEq, Repr

abbrev Outbox := Dict String OutboxEvent

namespace OutboxEvent

/-- `dispatched_at IS NULL AND (claimed_at IS NULL OR claim_expires_at IS NULL OR claim_expires_at <= ?)`. -/
def claimable (now : ℚ) (row : OutboxEvent) : Bool :=
  row.dispatchedAt.isNone && (row.claimedAt.isNone || row.claimExpiresAt.all fun expires => decide (expires ≤ now))

/-- `dispatched_at IS NULL AND claimed_by = ?`. -/
def claimedFor (consumer : String) (row : OutboxEvent) : Bool :=
  row.dispatchedAt.isNone && decide (row.claimedBy = some consumer)

def claim (consumer : String) (now lease : ℚ) (row : OutboxEvent) : OutboxEvent :=
  { row with
    claimedBy := some consumer, claimedAt := some now, claimExpiresAt := some (now + lease)
    outboxAttempts := row.outboxAttempts + 1 }

def dispatch (timestamp : ℚ) (row : OutboxEvent) : OutboxEvent :=
  { row with dispatchedAt := some timestamp, claimedBy := none, claimedAt := none, claimExpiresAt := none }

def unclaim (row : OutboxEvent) : OutboxEvent :=
  { row with claimedBy := none, claimedAt := none, claimExpiresAt := none }

/-- `ORDER BY created_at, sequence`. -/
def Before (a b : String × OutboxEvent) : Prop :=
  a.2.createdAt < b.2.createdAt ∨ a.2.createdAt = b.2.createdAt ∧ a.2.sequence ≤ b.2.sequence

instance : DecidableRel Before := fun _ _ => inferInstanceAs (Decidable (_ ∨ _))

instance : Std.Total Before where
  total a b := by
    rcases lt_trichotomy a.2.createdAt b.2.createdAt with h | h | h
    · exact .inl (.inl h)
    · rcases Nat.le_total a.2.sequence b.2.sequence with hs | hs
      · exact .inl (.inr ⟨h, hs⟩)
      · exact .inr (.inr ⟨h.symm, hs⟩)
    · exact .inr (.inl h)

instance : IsTrans (String × OutboxEvent) Before where
  trans a b c := by
    rintro (hab | ⟨hab, hs⟩) (hbc | ⟨hbc, ht⟩)
    · exact .inl (hab.trans hbc)
    · exact .inl (hbc ▸ hab)
    · exact .inl (hab ▸ hbc)
    · exact .inr ⟨hab.trans hbc, hs.trans ht⟩

end OutboxEvent

open OutboxEvent

namespace Outbox

variable {o o' : Outbox} {consumer : String} {now lease : ℚ} {limit : ℤ}

/-! ### The methods -/

/-- `_new_id("evt")`, from the digits the random id has. -/
def newEventId (hex : String) : String := "evt_" ++ hex

/-- `_append_event`, in the columns of the outbox; an id that is taken violates the primary key. -/
def appendEvent (o : Outbox) (hex sessionId eventType : String) (createdAt : ℚ) : Except StoreError (String × Outbox) :=
  let eventId := newEventId hex
  if o.contains eventId then .error (.integrityError "UNIQUE constraint failed: agent_events.event_id")
  else
    let sequences := (o.values.filter fun row => row.sessionId = sessionId).map OutboxEvent.sequence
    .ok (eventId, o.set eventId { sessionId, sequence := sequences.foldl max 0 + 1, eventType, createdAt })

/-- The characters that `[A-Za-z0-9_.:-]` matches. -/
def consumerChar (c : Char) : Bool :=
  ('A' ≤ c && c ≤ 'Z') || ('a' ≤ c && c ≤ 'z') || ('0' ≤ c && c ≤ '9') || c ∈ ['_', '.', ':', '-']

def validateOutboxConsumer (consumerId : String) : Except StoreError String :=
  let value := Text.strip consumerId
  if value.toList.all consumerChar ∧ 1 ≤ value.toList.length ∧ value.toList.length ≤ 160 then .ok value
  else .error (.valueError "consumer_id must be a bounded identifier")

/-- The first query of a claim: the ids of the rows that are open to it, in order, at most `pageLimit`. -/
def candidates (o : Outbox) (now : ℚ) (pageLimit : ℕ) : List String :=
  (((o.filter fun _ row => row.claimable now).entries.insertionSort Before).take pageLimit).map Prod.fst

/-- The last query of a claim: the rows among `eventIds` that name the consumer, in order. -/
def claimedEvents (o : Outbox) (eventIds : List String) (consumer : String) : List (String × OutboxEvent) :=
  (o.filter fun eventId row => decide (eventId ∈ eventIds) && decide (row.claimedBy = some consumer)).entries.insertionSort
    Before

/-- `max(1, min(int(limit), 1000))`. -/
def pageLimit (limit : ℤ) : ℕ := (max 1 (min limit 1000)).toNat

/-- The transaction of a claim. -/
def claimBatch (o : Outbox) (consumer : String) (limit : ℤ) (lease now : ℚ) : List (String × OutboxEvent) × Outbox :=
  let eventIds := o.candidates now (pageLimit limit)
  let o' := (Dict.updateEach (claimable now) (OutboxEvent.claim consumer now lease) eventIds o).2
  if eventIds = [] then ([], o') else (claimedEvents o' eventIds consumer, o')

def claimPendingEvents (o : Outbox) (consumerId : String) (limit : ℤ) (lease now : ℚ) :
    Except StoreError (List (String × OutboxEvent) × Outbox) :=
  validateOutboxConsumer consumerId >>= fun consumer =>
    if ¬(1 / 100 ≤ lease ∧ lease ≤ 86400) then
      .error (.valueError "lease_seconds must be between 0.01 and 86400")
    else .ok (o.claimBatch consumer limit lease now)

/-- `tuple(dict.fromkeys(str(value) for value in event_ids if str(value).strip()))`. -/
def namedIds (eventIds : List String) : List String := (eventIds.filter fun value => Text.strip value ≠ "").eraseDups

/-- A consumer changes the rows it is the claimant of, one event after the other. -/
def settleEvents (change : OutboxEvent → OutboxEvent) (tooMany : String) (o : Outbox) (consumerId : String)
    (eventIds : List String) : Except StoreError (ℕ × Outbox) :=
  validateOutboxConsumer consumerId >>= fun consumer =>
    if namedIds eventIds = [] then .ok (0, o)
    else if (namedIds eventIds).length > 1000 then .error (.valueError tooMany)
    else .ok (Dict.updateEach (claimedFor consumer) change (namedIds eventIds) o)

def ackPendingEvents (o : Outbox) (consumerId : String) (eventIds : List String) (timestamp : ℚ) :
    Except StoreError (ℕ × Outbox) :=
  settleEvents (OutboxEvent.dispatch timestamp) "at most 1000 event IDs may be acknowledged" o consumerId eventIds

def releasePendingEvents (o : Outbox) (consumerId : String) (eventIds : List String) : Except StoreError (ℕ × Outbox) :=
  settleEvents OutboxEvent.unclaim "at most 1000 event IDs may be released" o consumerId eventIds

/-! ### What a claim takes -/

theorem claimable_claim (hlease : 0 < lease) (row : OutboxEvent) :
    (row.claim consumer now lease).claimable now = false := by
  have hlater : ¬now + lease ≤ now := not_le.mpr (lt_add_of_pos_right now hlease)
  simp [claimable, claim, hlater]

variable {eventId : String}

theorem mem_candidates {n : ℕ} (h : eventId ∈ o.candidates now n) :
    ∃ row, o.get? eventId = some row ∧ row.claimable now = true := by
  obtain ⟨⟨k, row⟩, hmem, rfl⟩ := mem_map.mp h
  have hopen := (mem_insertionSort _).mp (mem_of_mem_take hmem)
  obtain ⟨hin, hclaimable⟩ := mem_filter.mp hopen
  exact ⟨row, (o.mem_entries_iff k row).mp hin, hclaimable⟩

theorem nodup_candidates (o : Outbox) (now : ℚ) (n : ℕ) : (o.candidates now n).Nodup := by
  have hsorted := (perm_insertionSort Before (o.filter fun _ row => row.claimable now).entries).map Prod.fst
  have hnodup := hsorted.nodup_iff.mpr (o.filter fun _ row => row.claimable now).nodupKeys
  exact hnodup.sublist ((take_sublist n _).map Prod.fst)

/-- **A claim reaches every open row**, unless as many rows as were asked for come before it. -/
theorem offered_of_claimable {n : ℕ} {row : OutboxEvent} (hget : o.get? eventId = some row)
    (hopen : row.claimable now = true) :
    eventId ∈ o.candidates now n ∨ (o.candidates now n).length = n ∧
      ∀ first ∈ o.candidates now n, ∃ row', o.get? first = some row' ∧ Before (first, row') (eventId, row) := by
  generalize hsort : (o.filter fun _ row => row.claimable now).entries.insertionSort Before = rows
  have hin : (eventId, row) ∈ rows := by
    rw [← hsort, mem_insertionSort]
    exact mem_filter.mpr ⟨(o.mem_entries_iff eventId row).mpr hget, hopen⟩
  have hordered : rows.Pairwise Before := hsort ▸ pairwise_insertionSort Before _
  rw [← take_append_drop n rows] at hin hordered
  rcases mem_append.mp hin with hfirst | hlater
  · exact .inl (mem_map.mpr ⟨(eventId, row), hsort ▸ hfirst, rfl⟩)
  · have hlength : n < rows.length := by
      by_contra hle
      rw [drop_eq_nil_of_le (not_lt.mp hle)] at hlater
      cases hlater
    refine .inr ⟨?_, fun first hmem => ?_⟩
    · rw [candidates, hsort, length_map, length_take, Nat.min_eq_left hlength.le]
    · obtain ⟨⟨k, row'⟩, htake, rfl⟩ := mem_map.mp hmem
      rw [hsort] at htake
      refine ⟨row', ?_, (pairwise_append.mp hordered).2.2 _ htake _ hlater⟩
      have hrow := (mem_insertionSort _).mp (hsort.symm ▸ mem_of_mem_take htake)
      exact (o.mem_entries_iff k row').mp (mem_filter.mp hrow).1

/-- **A claim rewrites the rows it takes.** -/
theorem get?_claimed (hlease : 0 < lease) (eventId : String) : (o.claimBatch consumer limit lease now).2.get? eventId
      = if eventId ∈ o.candidates now (pageLimit limit) then (o.get? eventId).map (claim consumer now lease)
        else o.get? eventId := by
  have hall : (o.claimBatch consumer limit lease now).2
      = (Dict.updateEach (claimable now) (claim consumer now lease) (o.candidates now (pageLimit limit)) o).2 := by
    unfold claimBatch
    dsimp only
    split <;> rfl
  rw [hall, Dict.get?_updateEach fun row => claimable_claim hlease row]
  by_cases hmem : eventId ∈ o.candidates now (pageLimit limit)
  · obtain ⟨row, hget, hopen⟩ := mem_candidates hmem
    rw [if_pos hmem, if_pos hmem, hget, Option.map_some, Option.map_some, if_pos hopen]
  · rw [if_neg hmem, if_neg hmem]

/-- What a claim returns: the rows it took, as it left them. -/
theorem claimed_iff (hlease : 0 < lease) {row : OutboxEvent} :
    (eventId, row) ∈ (o.claimBatch consumer limit lease now).1 ↔
      eventId ∈ o.candidates now (pageLimit limit) ∧
        (o.claimBatch consumer limit lease now).2.get? eventId = some row := by
  by_cases hnone : o.candidates now (pageLimit limit) = []
  · have hbatch : (o.claimBatch consumer limit lease now).1 = [] := by
      rw [claimBatch, if_pos hnone]
    rw [hbatch, hnone]
    exact iff_of_false not_mem_nil fun h => not_mem_nil h.1
  · have hbatch : (o.claimBatch consumer limit lease now).1 =
        claimedEvents (o.claimBatch consumer limit lease now).2 (o.candidates now (pageLimit limit)) consumer := by
      rw [claimBatch, if_neg hnone]
    rw [hbatch, claimedEvents, mem_insertionSort]
    show (eventId, row) ∈ filter _ _ ↔ _
    rw [mem_filter, Dict.mem_entries_iff]
    constructor
    · rintro ⟨hget, hkeep⟩
      exact ⟨of_decide_eq_true (Bool.and_eq_true_iff.mp hkeep).1, hget⟩
    · rintro ⟨hmem, hget⟩
      refine ⟨hget, Bool.and_eq_true_iff.mpr ⟨decide_eq_true hmem, decide_eq_true ?_⟩⟩
      rw [get?_claimed hlease, if_pos hmem] at hget
      obtain ⟨row₀, -, rfl⟩ := Option.map_eq_some_iff.mp hget
      rfl

theorem mem_batch_iff (hlease : 0 < lease) :
    eventId ∈ (o.claimBatch consumer limit lease now).1.map Prod.fst ↔ eventId ∈ o.candidates now (pageLimit limit) := by
  constructor
  · intro h
    obtain ⟨⟨k, row⟩, hmem, rfl⟩ := mem_map.mp h
    exact ((claimed_iff hlease).mp hmem).1
  · intro h
    obtain ⟨row, hget, -⟩ := mem_candidates h
    have hnew : (o.claimBatch consumer limit lease now).2.get? eventId = some (row.claim consumer now lease) := by
      rw [get?_claimed hlease, if_pos h, hget]
      rfl
    exact mem_map.mpr ⟨_, (claimed_iff hlease).mpr ⟨h, hnew⟩, rfl⟩

theorem length_claimed (hlease : 0 < lease) :
    (o.claimBatch consumer limit lease now).1.length = (o.candidates now (pageLimit limit)).length := by
  have hbatch : (((o.claimBatch consumer limit lease now).1).map Prod.fst).Nodup := by
    unfold claimBatch
    dsimp only
    split
    · exact nodup_nil
    · exact ((perm_insertionSort Before _).map Prod.fst).nodup_iff.mpr (Dict.nodupKeys _)
  have hperm := (perm_ext_iff_of_nodup hbatch (nodup_candidates o now (pageLimit limit))).mpr fun _ =>
    mem_batch_iff hlease
  have hlength := hperm.length_eq
  rwa [length_map] at hlength

/-! ### What an acknowledge or a release takes -/

theorem strip_newEventId (hex : String) : Text.strip (newEventId hex) ≠ "" := by
  intro h
  have hnil : Text.stripList (newEventId hex).toList = [] := by
    rw [← String.toList_ofList (l := Text.stripList _)]
    exact congrArg String.toList h
  have hchars : (newEventId hex).toList = 'e' :: ("vt_".toList ++ hex.toList) := by
    rw [newEventId, String.toList_append]
    rfl
  have hkept : ∀ cs : List Char, Text.stripList ('e' :: cs) ≠ [] := by
    intro cs hcs
    rw [Text.stripList, dropWhile_cons_of_neg (by decide), rdropWhile_eq_nil_iff] at hcs
    exact absurd (hcs 'e' mem_cons_self) (by decide)
  exact hkept _ (hchars ▸ hnil)

theorem mem_namedIds {eventIds : List String} :
    eventId ∈ namedIds eventIds ↔ eventId ∈ eventIds ∧ Text.strip eventId ≠ "" := by
  rw [namedIds, mem_eraseDups, mem_filter]
  simp

section Settle

variable {change : OutboxEvent → OutboxEvent} {tooMany consumerId : String} {eventIds : List String} {changed : ℕ}

/-- **The rows that a consumer changes** are those it is the claimant of. -/
theorem get?_settle (hgone : ∀ row, (change row).claimedBy = none)
    (hvalid : validateOutboxConsumer consumerId = .ok consumer)
    (h : settleEvents change tooMany o consumerId eventIds = .ok (changed, o')) (eventId : String) :
    o'.get? eventId
      = if eventId ∈ namedIds eventIds
        then (o.get? eventId).map fun row => if row.claimedFor consumer then change row else row
        else o.get? eventId := by
  rw [settleEvents, hvalid, ok_bind] at h
  split at h
  · rename_i hnone
    obtain ⟨-, rfl⟩ := Prod.mk.inj (Except.ok.inj h)
    rw [hnone, if_neg not_mem_nil]
  · obtain ⟨-, h⟩ := ite_error_eq_ok_iff.mp h
    obtain ⟨-, rfl⟩ : _ ∧ (Dict.updateEach _ _ _ o).2 = o' := Prod.mk.inj (Except.ok.inj h)
    refine Dict.get?_updateEach (fun row => ?_) _ o eventId
    simp [claimedFor, hgone]

/-- **A consumer that is the claimant of none of the events changes nothing.** -/
theorem settle_of_not_claimant (hvalid : validateOutboxConsumer consumerId = .ok consumer)
    (hnone : ∀ eventId ∈ eventIds, ∀ row, o.get? eventId = some row → row.claimedBy ≠ some consumer)
    (h : settleEvents change tooMany o consumerId eventIds = .ok (changed, o')) : changed = 0 ∧ o' = o := by
  rw [settleEvents, hvalid, ok_bind] at h
  split at h
  · obtain ⟨rfl, rfl⟩ := Prod.mk.inj (Except.ok.inj h)
    exact ⟨rfl, rfl⟩
  · obtain ⟨-, h⟩ := ite_error_eq_ok_iff.mp h
    rw [Dict.updateEach_of_not_hits] at h
    · obtain ⟨rfl, rfl⟩ := Prod.mk.inj (Except.ok.inj h)
      exact ⟨rfl, rfl⟩
    · intro eventId hmem
      rw [Bool.eq_false_iff, ne_eq, Dict.hits_iff]
      rintro ⟨row, hget, hclaimed⟩
      have howner := of_decide_eq_true (Bool.and_eq_true_iff.mp hclaimed).2
      exact hnone eventId (mem_namedIds.mp hmem).1 row hget howner

end Settle

end Outbox

end ComputeMesh.Platform
