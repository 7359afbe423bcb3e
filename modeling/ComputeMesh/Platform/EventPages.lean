import ComputeMesh.Lib.Run

/-!
# Pages of events

The events of a session, numbered as they are appended, and the pages in which a client reads them.  Whatever changes a
session appends its events with `_append_event`; nothing else writes the table, except the deletion of a session.

* `EventTable.appendEvent`, `listEvents`, `readEventPage` — the methods;
* `calls` — a client that follows `next_sequence` until `has_more` is false, with events appended between its calls;
* `numbered_exec` — the sequences of a session are `1..n`;
* `events_seen_once_iff` — **when a client sees every event once**: unless its pages are of the largest size and the first
  does not hold the session.
-/

namespace ComputeMesh.Platform

open ComputeMesh.Run List

/-- An event without its sequence. -/
structure NewEvent where
  sessionId : String
  turnId : Option String := none
  eventType : String
  deriving DecidableEq, Repr

/-- A row of `agent_events`. -/
structure StoredEvent extends NewEvent where
  sequence : ℕ
  deriving DecidableEq, Repr

structure EventPage where
  events : List StoredEvent
  nextSequence : ℤ
  hasMore : Bool
  cursorGap : Bool
  latestSequence : ℕ
  gapReason : String
  deriving DecidableEq, Repr

/-- The rows as they were inserted. -/
abbrev EventTable := List StoredEvent

namespace EventTable

variable (rows : EventTable) (sessionId : String)

/-- The rows of a session. -/
def ofSession : List StoredEvent := List.filter (fun e => e.sessionId == sessionId) rows

def latestEventSequence : ℕ := ((ofSession rows sessionId).map StoredEvent.sequence).max?.getD 0

def appendEvent (e : NewEvent) : EventTable := rows ++ [⟨e, latestEventSequence rows e.sessionId + 1⟩]

/-- The events of `delete_session`. -/
def deleteSession : EventTable := List.filter (fun e => e.sessionId != sessionId) rows

/-- `max(1, min(int(limit), 1000))`. -/
def clampLimit (limit : ℤ) : ℕ := (max 1 (min limit 1000)).toNat

def listEvents (afterSequence limit : ℤ) : List StoredEvent :=
  (((ofSession rows sessionId).filter fun e => decide (max 0 afterSequence < e.sequence)).insertionSort
    fun a b => a.sequence ≤ b.sequence).take (clampLimit limit)

/-- `read_event_page`, with the rows as they are at its last look. -/
def readEventPage (afterSequence limit : ℤ) : EventPage :=
  let cursor := max 0 afterSequence
  let pageLimit := clampLimit limit
  let events := listEvents rows sessionId cursor (pageLimit + 1)
  let latestSeq := latestEventSequence rows sessionId
  let visible := events.take pageLimit
  let gapReason :=
    if (latestSeq : ℤ) < cursor then "cursor_ahead_of_head"
    else if 0 < cursor ∧ visible.head?.any (fun e => decide (cursor + 1 < e.sequence)) = true then "missing_sequences"
    else ""
  ⟨visible, (visible.getLast?.map fun e => (e.sequence : ℤ)).getD cursor, decide (pageLimit < events.length),
    gapReason != "", latestSeq, gapReason⟩

end EventTable

open EventTable

/-- What is done to the events. -/
inductive EventOp
  | append (e : NewEvent)
  | deleteSession (sessionId : String)

def EventOp.run (rows : EventTable) : EventOp → EventTable
  | .append e => appendEvent rows e
  | .deleteSession sessionId => EventTable.deleteSession rows sessionId

/-! ### A client -/

section Client

variable (sessionId : String) (limit : ℤ)

/-- The calls of a client: the rows and the cursor of each.  Before every call but the first, events are appended. -/
def calls : EventTable → ℤ → List (List NewEvent) → List (EventTable × ℤ)
  | rows, cursor, [] => [(rows, cursor)]
  | rows, cursor, appended :: rest =>
    let page := readEventPage rows sessionId cursor limit
    (rows, cursor) :: if page.hasMore = true then calls (appended.foldl appendEvent rows) page.nextSequence rest else []

def pageOf (call : EventTable × ℤ) : EventPage := readEventPage call.1 sessionId call.2 limit

/-- What is asked of the calls of a client. -/
structure SeenOnce (client : List (EventTable × ℤ)) : Prop where
  numbered : ∀ call ∈ client, (ofSession call.1 sessionId).map StoredEvent.sequence
    = List.range' 1 (ofSession call.1 sessionId).length
  hasMore : ∀ call ∈ client, (pageOf sessionId limit call).hasMore = true ↔
    ∃ e ∈ ofSession call.1 sessionId, (pageOf sessionId limit call).nextSequence < e.sequence
  once : ∀ last ∈ client.getLast?, (pageOf sessionId limit last).hasMore = false →
    client.flatMap (fun call => (pageOf sessionId limit call).events) = ofSession last.1 sessionId

end Client

/-! ### The sequences of a session -/

/-- The sequences of every session are `1..n`. -/
def Numbered (rows : EventTable) : Prop :=
  ∀ sessionId, (ofSession rows sessionId).map StoredEvent.sequence = List.range' 1 (ofSession rows sessionId).length

variable {rows : EventTable} {sessionId : String}

theorem latestEventSequence_of_numbered (h : Numbered rows) (sessionId : String) :
    latestEventSequence rows sessionId = (ofSession rows sessionId).length := by
  rw [latestEventSequence, h sessionId]
  generalize (ofSession rows sessionId).length = n
  cases n with
  | zero => rfl
  | succ n =>
    have hmax : (range' 1 (n + 1)).max? = some (n + 1) := by
      rw [max?_eq_some_iff]
      constructor
      · simp
      · intro k hk
        simp only [mem_range'_1] at hk
        omega
    rw [hmax]
    rfl

theorem ofSession_appendEvent (rows : EventTable) (e : NewEvent) (sessionId : String) :
    ofSession (appendEvent rows e) sessionId = ofSession rows sessionId ++
      if e.sessionId = sessionId then [⟨e, latestEventSequence rows e.sessionId + 1⟩] else [] := by
  simp only [ofSession, appendEvent, filter_append]
  by_cases heq : e.sessionId = sessionId
  · simp [heq]
  · simp [heq]

theorem numbered_appendEvent (h : Numbered rows) (e : NewEvent) : Numbered (appendEvent rows e) := by
  intro sessionId
  rw [ofSession_appendEvent]
  by_cases heq : e.sessionId = sessionId
  · subst heq
    rw [if_pos rfl, map_append, h, length_append, length_singleton, range'_concat,
      latestEventSequence_of_numbered h]
    simp [Nat.add_comm]
  · rw [if_neg heq, append_nil]
    exact h sessionId

/-- **An operation keeps the numbering.** -/
theorem numbered_run (rows : EventTable) (op : EventOp) (h : Numbered rows) : Numbered (op.run rows) := by
  cases op with
  | append e => exact numbered_appendEvent h e
  | deleteSession deleted =>
    intro sessionId
    have hrows : ofSession (EventTable.deleteSession rows deleted) sessionId
        = if deleted = sessionId then [] else ofSession rows sessionId := by
      simp only [ofSession, EventTable.deleteSession, filter_filter]
      split
      · next heq => simp [heq]
      · next hne =>
        refine filter_congr fun e _ => ?_
        by_cases heq : e.sessionId = sessionId
        · simp [heq, Ne.symm hne]
        · simp [heq]
    show (ofSession (EventTable.deleteSession rows deleted) sessionId).map StoredEvent.sequence
      = range' 1 (ofSession (EventTable.deleteSession rows deleted) sessionId).length
    rw [hrows]
    split
    · rfl
    · exact h sessionId

/-- **The numbering holds in every table that is reached.** -/
theorem numbered_exec (ops : List EventOp) : Numbered (exec EventOp.run [] ops) :=
  exec_of_forall Numbered numbered_run (fun _ => rfl) ops

theorem numbered_foldl (h : Numbered rows) (appended : List NewEvent) : Numbered (appended.foldl appendEvent rows) := by
  induction appended generalizing rows with
  | nil => exact h
  | cons e appended ih => exact ih (numbered_appendEvent h e)

theorem ofSession_foldl (rows : EventTable) (appended : List NewEvent) (sessionId : String) :
    ofSession rows sessionId <+: ofSession (appended.foldl appendEvent rows) sessionId := by
  induction appended generalizing rows with
  | nil => exact prefix_rfl
  | cons e appended ih =>
    refine List.IsPrefix.trans ?_ (ih (appendEvent rows e))
    rw [ofSession_appendEvent]
    exact prefix_append _ _

/-! ### One page -/

theorem clampLimit_bounds (limit : ℤ) : 1 ≤ clampLimit limit ∧ clampLimit limit ≤ 1000 := by
  rw [clampLimit]
  omega

section

variable (h : Numbered rows) (sessionId : String)
include h

theorem listEvents_of_numbered (k : ℕ) (limit : ℤ) :
    listEvents rows sessionId k limit = ((ofSession rows sessionId).drop k).take (clampLimit limit) := by
  have hafter : ∀ (events : List StoredEvent) (m : ℕ), events.map StoredEvent.sequence = range' (m + 1) events.length →
      (events.filter fun e => decide (max 0 (k : ℤ) < e.sequence)) = events.drop (k - m) := by
    intro events
    induction events with
    | nil => simp
    | cons e events ih =>
      intro m hm
      rw [map_cons, length_cons, range'_succ] at hm
      obtain ⟨hhead, htail⟩ := cons.inj hm
      rw [filter_cons, hhead]
      by_cases hk : k ≤ m
      · rw [if_pos (by simp; omega), ih (m + 1) htail, show k - m = 0 by omega, show k - (m + 1) = 0 by omega]
        rfl
      · rw [if_neg (by simp; omega), ih (m + 1) htail, show k - m = (k - (m + 1)) + 1 by omega]
        rfl
  have hsorted : ((ofSession rows sessionId).drop k).Pairwise fun a b => a.sequence ≤ b.sequence := by
    refine List.Pairwise.drop (pairwise_map.mp ?_)
    rw [h sessionId]
    exact (pairwise_lt_range').imp fun hlt => le_of_lt hlt
  rw [listEvents, hafter _ 0 (h sessionId), Nat.sub_zero, hsorted.insertionSort_eq]

theorem last_of_take (k m : ℕ) :
    ((((ofSession rows sessionId).drop k).take m).getLast?.map fun e => (e.sequence : ℤ)).getD k
      = k + (min m ((ofSession rows sessionId).length - k) : ℕ) := by
  have hmap : (((ofSession rows sessionId).drop k).take m).map StoredEvent.sequence
      = range' (k + 1) (min m ((ofSession rows sessionId).length - k)) := by
    rw [map_take, map_drop, h sessionId, drop_range', Nat.mul_one, Nat.add_comm 1 k]
    rcases le_total m ((ofSession rows sessionId).length - k) with hle | hle
    · rw [take_range'_of_length_ge hle, min_eq_left hle]
    · rw [take_range'_of_length_le hle, min_eq_right hle]
  have hlast : ((((ofSession rows sessionId).drop k).take m).getLast?.map fun e => (e.sequence : ℤ))
      = ((((ofSession rows sessionId).drop k).take m).map StoredEvent.sequence).getLast?.map Nat.cast := by
    rw [getLast?_map, Option.map_map]
    rfl
  rw [hlast, hmap, getLast?_range']
  split
  · next hzero => simp [hzero]
  · simp only [Option.map_some, Option.getD_some]
    omega

/-- **A page**: as many of the events that are left as it takes. -/
theorem readEventPage_of_numbered (k : ℕ) (limit : ℤ) :
    (readEventPage rows sessionId k limit).events = ((ofSession rows sessionId).drop k).take (clampLimit limit) ∧
      (readEventPage rows sessionId k limit).nextSequence
        = k + (min (clampLimit limit) ((ofSession rows sessionId).length - k) : ℕ) ∧
      ((readEventPage rows sessionId k limit).hasMore = true ↔
        clampLimit limit < 1000 ∧ clampLimit limit < (ofSession rows sessionId).length - k) := by
  have hclamp := clampLimit_bounds limit
  have hmore : clampLimit ((clampLimit limit : ℤ) + 1) = min (clampLimit limit + 1) 1000 := by
    rw [clampLimit]
    omega
  have hevents : listEvents rows sessionId (max 0 (k : ℤ)) ((clampLimit limit : ℤ) + 1)
      = ((ofSession rows sessionId).drop k).take (min (clampLimit limit + 1) 1000) := by
    rw [max_eq_right (Int.natCast_nonneg k), listEvents_of_numbered h, hmore]
  have hvisible : (((ofSession rows sessionId).drop k).take (min (clampLimit limit + 1) 1000)).take (clampLimit limit)
      = ((ofSession rows sessionId).drop k).take (clampLimit limit) := by
    rw [take_take, show min (clampLimit limit) (min (clampLimit limit + 1) 1000) = clampLimit limit by omega]
  unfold readEventPage
  dsimp only
  rw [hevents, hvisible]
  refine ⟨rfl, ?_, ?_⟩
  · rw [max_eq_right (Int.natCast_nonneg k)]
    exact last_of_take h sessionId k _
  · rw [decide_eq_true_iff, length_take, length_drop]
    omega

theorem exists_left_iff (k : ℕ) (limit : ℤ) :
    (∃ e ∈ ofSession rows sessionId, (readEventPage rows sessionId k limit).nextSequence < e.sequence) ↔
      clampLimit limit < (ofSession rows sessionId).length - k := by
  obtain ⟨-, hnext, -⟩ := readEventPage_of_numbered h sessionId k limit
  have hmem : ∀ n : ℕ, (∃ e ∈ ofSession rows sessionId, n < e.sequence) ↔ n < (ofSession rows sessionId).length := by
    intro n
    have hmap : (∃ e ∈ ofSession rows sessionId, n < e.sequence) ↔
        ∃ m ∈ (ofSession rows sessionId).map StoredEvent.sequence, n < m := by simp
    rw [hmap, h sessionId]
    constructor
    · rintro ⟨m, hm, hlt⟩
      rw [mem_range'_1] at hm
      omega
    · intro hlt
      exact ⟨(ofSession rows sessionId).length, by rw [mem_range'_1]; omega, hlt⟩
  have hcast : ∀ e : StoredEvent, (readEventPage rows sessionId k limit).nextSequence < e.sequence ↔
      k + min (clampLimit limit) ((ofSession rows sessionId).length - k) < e.sequence := by
    intro e
    rw [hnext]
    omega
  have hclamp := clampLimit_bounds limit
  simp only [hcast, hmem]
  omega

/-! ### A client -/

theorem numbered_calls (limit cursor : ℤ) (batches : List (List NewEvent)) :
    ∀ call ∈ calls sessionId limit rows cursor batches, Numbered call.1 := by
  induction batches generalizing rows cursor with
  | nil =>
    intro call hcall
    obtain rfl := mem_singleton.mp hcall
    exact h
  | cons appended rest ih =>
    intro call hcall
    rw [calls] at hcall
    rcases mem_cons.mp hcall with rfl | hcall
    · exact h
    · split at hcall
      · exact ih (numbered_foldl h appended) _ call hcall
      · cases hcall

/-- A page below the largest size: all that is left, or as much as it takes, and the cursor after it. -/
theorem page_of_small {limit : ℤ} (hlimit : clampLimit limit < 1000) (k : ℕ) :
    ((readEventPage rows sessionId k limit).hasMore = true ↔
      ∃ e ∈ ofSession rows sessionId, (readEventPage rows sessionId k limit).nextSequence < e.sequence) ∧
    ((readEventPage rows sessionId k limit).hasMore = false →
      (readEventPage rows sessionId k limit).events = (ofSession rows sessionId).drop k) ∧
    ((readEventPage rows sessionId k limit).hasMore = true → k + clampLimit limit ≤ (ofSession rows sessionId).length ∧
      (readEventPage rows sessionId k limit).nextSequence = ((k + clampLimit limit : ℕ) : ℤ)) := by
  obtain ⟨hevents, hnext, hmore⟩ := readEventPage_of_numbered h sessionId k limit
  refine ⟨?_, fun hfalse => ?_, fun htrue => ?_⟩
  · rw [hmore, exists_left_iff h]
    exact and_iff_right hlimit
  · rw [Bool.eq_false_iff, ne_eq, hmore] at hfalse
    rw [hevents, take_of_length_le]
    rw [length_drop]
    omega
  · have hleft := (hmore.mp htrue).2
    rw [hnext]
    omega

/-- **A client with smaller pages** sees what is left after its cursor. -/
theorem seenOnce_of_small {limit : ℤ} (hlimit : clampLimit limit < 1000) {k : ℕ}
    (hk : k ≤ (ofSession rows sessionId).length) (batches : List (List NewEvent)) :
    (∀ call ∈ calls sessionId limit rows k batches, ((pageOf sessionId limit call).hasMore = true ↔
      ∃ e ∈ ofSession call.1 sessionId, (pageOf sessionId limit call).nextSequence < e.sequence)) ∧
    ∀ last ∈ (calls sessionId limit rows k batches).getLast?, ofSession rows sessionId <+: ofSession last.1 sessionId ∧
      ((pageOf sessionId limit last).hasMore = false →
        (calls sessionId limit rows k batches).flatMap (fun call => (pageOf sessionId limit call).events)
          = (ofSession last.1 sessionId).drop k) := by
  induction batches generalizing rows k with
  | nil =>
    obtain ⟨hmore, hend, -⟩ := page_of_small h sessionId hlimit k
    refine ⟨fun call hcall => ?_, fun last hlast => ?_⟩
    · obtain rfl := mem_singleton.mp hcall
      exact hmore
    · obtain rfl : (rows, (k : ℤ)) = last := Option.some.inj hlast
      refine ⟨prefix_rfl, fun hfalse => ?_⟩
      simpa [calls, pageOf] using hend hfalse
  | cons appended rest ih =>
    obtain ⟨hmore, hend, hgoes⟩ := page_of_small h sessionId hlimit k
    cases hhas : (readEventPage rows sessionId k limit).hasMore with
    | false =>
      have hcalls : calls sessionId limit rows k (appended :: rest) = [(rows, (k : ℤ))] := by simp [calls, hhas]
      rw [hcalls]
      refine ⟨fun call hcall => ?_, fun last hlast => ?_⟩
      · obtain rfl := mem_singleton.mp hcall
        exact hmore
      · obtain rfl : (rows, (k : ℤ)) = last := Option.some.inj hlast
        refine ⟨prefix_rfl, fun hfalse => ?_⟩
        simpa [pageOf] using hend hfalse
    | true =>
      obtain ⟨hle, hnext⟩ := hgoes hhas
      have hgrown := ofSession_foldl rows appended sessionId
      obtain ⟨ihmore, ihlast⟩ := ih (numbered_foldl h appended) (hle.trans hgrown.length_le)
      have hcalls : calls sessionId limit rows k (appended :: rest) = (rows, (k : ℤ)) ::
          calls sessionId limit (appended.foldl appendEvent rows) ((k + clampLimit limit : ℕ) : ℤ) rest := by
        simp only [calls, hhas, if_true, hnext]
      rw [hcalls]
      refine ⟨fun call hcall => ?_, fun last hlast => ?_⟩
      · rcases mem_cons.mp hcall with rfl | hcall
        · exact hmore
        · exact ihmore call hcall
      · have hrest : last ∈ (calls sessionId limit (appended.foldl appendEvent rows) ((k + clampLimit limit : ℕ) : ℤ)
            rest).getLast? := by
          cases hnonempty : calls sessionId limit (appended.foldl appendEvent rows) ((k + clampLimit limit : ℕ) : ℤ) rest with
          | nil => cases rest <;> simp [calls] at hnonempty
          | cons call others => rwa [hnonempty, getLast?_cons_cons] at hlast
        obtain ⟨hpre, honce⟩ := ihlast last hrest
        obtain ⟨more, hmoreEvents⟩ := hgrown.trans hpre
        refine ⟨⟨more, hmoreEvents⟩, fun hfalse => ?_⟩
        rw [flatMap_cons, honce hfalse, ← drop_drop, pageOf,
          (readEventPage_of_numbered h sessionId k limit).1, ← hmoreEvents,
          drop_append_of_le_length (by omega)]
        have hfull : clampLimit limit ≤ ((ofSession rows sessionId).drop k).length := by
          rw [length_drop]
          omega
        rw [drop_append_of_le_length hfull, ← append_assoc, take_append_drop]

/-- **A page of the largest size** never says that there is more. -/
theorem hasMore_of_large {limit : ℤ} (hlimit : 1000 ≤ limit) :
    clampLimit limit = 1000 ∧ (readEventPage rows sessionId 0 limit).hasMore = false := by
  have hclamp : clampLimit limit = 1000 := by
    rw [clampLimit]
    omega
  obtain ⟨-, -, hmore⟩ := readEventPage_of_numbered h sessionId 0 limit
  refine ⟨hclamp, ?_⟩
  rw [Bool.eq_false_iff, ne_eq]
  intro htrue
  have hless := (hmore.mp htrue).1
  omega

theorem calls_of_large {limit : ℤ} (hlimit : 1000 ≤ limit)
    (batches : List (List NewEvent)) : calls sessionId limit rows 0 batches = [(rows, 0)] := by
  cases batches with
  | nil => rfl
  | cons appended rest => simp [calls, (hasMore_of_large h sessionId hlimit).2]

theorem seenOnce_of_large {limit : ℤ} (hlimit : 1000 ≤ limit) (batches : List (List NewEvent)) :
    SeenOnce sessionId limit (calls sessionId limit rows 0 batches) ↔ (ofSession rows sessionId).length ≤ 1000 := by
  obtain ⟨hclamp, hfalse⟩ := hasMore_of_large h sessionId hlimit
  obtain ⟨hevents, -, -⟩ := readEventPage_of_numbered h sessionId 0 limit
  have hleft := exists_left_iff h sessionId 0 limit
  rw [hclamp, Nat.sub_zero] at hleft
  rw [calls_of_large h sessionId hlimit]
  constructor
  · intro hseen
    have hexact := hseen.hasMore (rows, 0) (mem_singleton_self _)
    rw [pageOf, hfalse] at hexact
    exact not_lt.mp fun hlt => Bool.false_ne_true (hexact.mpr (hleft.mpr hlt))
  · intro hle
    refine ⟨fun call hcall => ?_, fun call hcall => ?_, fun last hmem _ => ?_⟩
    · obtain rfl := mem_singleton.mp hcall
      exact h sessionId
    · obtain rfl := mem_singleton.mp hcall
      rw [pageOf, hfalse]
      exact ⟨fun hfalse => absurd hfalse Bool.false_ne_true, fun hlt => absurd (hleft.mp hlt) (not_lt.mpr hle)⟩
    · obtain rfl : (rows, (0 : ℤ)) = last := Option.some.inj hmem
      rw [flatMap_singleton]
      refine hevents.trans ?_
      rw [hclamp, drop_zero, take_of_length_le hle]

end

/-- **When a client sees every event once**: unless its pages are of the largest size and the first does not hold the
session. -/
theorem events_seen_once_iff (ops : List EventOp) (sessionId : String) (limit : ℤ) (batches : List (List NewEvent)) :
    SeenOnce sessionId limit (calls sessionId limit (exec EventOp.run [] ops) 0 batches) ↔
      limit < 1000 ∨ (ofSession (exec EventOp.run [] ops) sessionId).length ≤ 1000 := by
  have h := numbered_exec ops
  generalize exec EventOp.run [] ops = rows at h ⊢
  rcases lt_or_ge limit 1000 with hsmall | hlarge
  · have hlimit : clampLimit limit < 1000 := by
      rw [clampLimit]
      omega
    have hnumbered := numbered_calls h sessionId limit 0 batches
    obtain ⟨hmore, hlast⟩ := seenOnce_of_small h sessionId hlimit (Nat.zero_le _) batches
    refine ⟨fun _ => .inl hsmall, fun _ => ⟨fun call hcall => hnumbered call hcall sessionId, hmore, fun last hmem hfalse => ?_⟩⟩
    exact (hlast last hmem).2 hfalse
  · rw [seenOnce_of_large h sessionId hlarge, or_iff_right (not_lt.mpr hlarge)]

theorem length_ofSession_replicate (n : ℕ) (rows : EventTable) (e : NewEvent) :
    (ofSession (exec EventOp.run rows (List.replicate n (.append e))) e.sessionId).length
      = (ofSession rows e.sessionId).length + n := by
  induction n generalizing rows with
  | zero => rfl
  | succ n ih =>
    rw [replicate_succ, exec_cons, ih]
    show (ofSession (appendEvent rows e) e.sessionId).length + n = _
    rw [ofSession_appendEvent, if_pos rfl, length_append, length_singleton]
    omega

/-- A session of 1001 events, read in pages of 1000: the first page says that there is no more, and its client never sees
the last event. -/
theorem largest_page_ends_early : ¬∀ (ops : List EventOp) (sessionId : String) (limit : ℤ) (batches : List (List NewEvent)),
    SeenOnce sessionId limit (calls sessionId limit (exec EventOp.run [] ops) 0 batches) := by
  intro hall
  have hseen := hall (replicate 1001 (.append ⟨"s", none, "turn.progress"⟩)) "s" 1000 []
  have hle := (seenOnce_of_large (numbered_exec _) "s" (le_refl 1000) []).mp hseen
  have hlength := length_ofSession_replicate 1001 [] ⟨"s", none, "turn.progress"⟩
  dsimp only at hlength
  omega

end ComputeMesh.Platform
