import ComputeMesh.Platform.EventOutbox
import ComputeMesh.Lib.Run

/-!
# Delivering the outbox

`AgentEventOutboxDispatcher` of `services/mcp/platform/event_outbox.py` empties the outbox in passes: claim a batch, hand
each event to the sink, acknowledge it if the sink accepts it and release it if not.  Any number of passes run at
the same time, of any number of dispatchers; a pass can die between any two of its steps.

* `OutboxDispatcher` — a dispatcher with the limits its constructor checked;
* `Delivery.step` — one step of one pass, an append, or the clock moving on;
* `claimant`, `heldUntil` — who claimed an event last and which claim a consumer still has, read off the history of
  the calls and not off the rows;
* `Delivery.Sound` — what every step keeps: the rows say what the history says;
* `outbox_delivery` — **delivery is at-least-once and exclusive**, in every interleaving;
* `expired_claim_counts` — a claim that has expired counts until another consumer claims the event.
-/

namespace ComputeMesh.Platform

open OutboxEvent Outbox Option Dict

/-! ### Dispatchers and their passes -/

inductive DispatcherError
  | store (error : StoreError)
  | eventOutboxDispatchError (message : String)
  deriving DecidableEq, Repr

/-- A dispatcher with the limits that its constructor has checked. -/
structure OutboxDispatcher where
  consumerId : String
  batchSize : ℤ
  leaseSeconds : ℚ
  pollSeconds : ℚ
  validConsumer : validateOutboxConsumer consumerId = .ok consumerId
  batchBounds : 1 ≤ batchSize ∧ batchSize ≤ 1000
  leaseBounds : 1 / 100 ≤ leaseSeconds ∧ leaseSeconds ≤ 86400
  pollBounds : 1 / 100 ≤ pollSeconds ∧ pollSeconds ≤ 86400

theorem validate_strip {consumerId value : String} (h : validateOutboxConsumer (Text.strip consumerId) = .ok value) :
    validateOutboxConsumer (Text.strip consumerId) = .ok (Text.strip consumerId) := by
  unfold validateOutboxConsumer at h ⊢
  rw [Text.strip_strip] at h ⊢
  dsimp only at h ⊢
  split at h
  · rename_i hvalid
    exact if_pos hvalid
  · cases h

/-- The constructor. -/
def OutboxDispatcher.init (consumerId : String) (batch : ℤ) (lease poll : ℚ) : Except DispatcherError OutboxDispatcher :=
  match hvalid : validateOutboxConsumer (Text.strip consumerId) with
  | .error e => .error (.store e)
  | .ok _ =>
    if hbatch : 1 ≤ batch ∧ batch ≤ 1000 then
      if hlease : 1 / 100 ≤ lease ∧ lease ≤ 86400 then
        if hpoll : 1 / 100 ≤ poll ∧ poll ≤ 86400 then
          .ok ⟨Text.strip consumerId, batch, lease, poll, validate_strip hvalid, hbatch, hlease, hpoll⟩
        else .error (.eventOutboxDispatchError "poll_seconds is outside the supported range")
      else .error (.eventOutboxDispatchError "lease_seconds is outside the supported range")
    else .error (.eventOutboxDispatchError "batch_size must be between 1 and 1000")

/-- What a pass does next with the event in work. -/
inductive PassStage
  | sink | ack | release
  deriving DecidableEq, Repr

/-- A running `dispatch_once`: the event in work and those of the batch that come after it. -/
structure OutboxPass where
  dispatcher : OutboxDispatcher
  stage : PassStage
  event : String
  rest : List String

/-- What consumers did, as they know it: a claim returned the event, or an acknowledge or a release of it returned. -/
inductive ClaimAct
  | claimed (consumer eventId : String) (expires : ℚ)
  | settled (consumer eventId : String)

/-- Who claimed the event last and has neither acknowledged nor released it since, newest act first. -/
def claimant (eventId : String) : List ClaimAct → Option String
  | [] => none
  | .claimed c e _ :: acts => if e = eventId then some c else claimant eventId acts
  | .settled c e :: acts => if e = eventId ∧ claimant eventId acts = some c then none else claimant eventId acts

/-- Until when the consumer's last claim of the event lasts, if it has neither acknowledged nor released it since. -/
def heldUntil (consumer eventId : String) : List ClaimAct → Option ℚ
  | [] => none
  | .claimed c e expires :: acts => if c = consumer ∧ e = eventId then some expires else heldUntil consumer eventId acts
  | .settled c e :: acts => if c = consumer ∧ e = eventId then none else heldUntil consumer eventId acts

structure Delivery where
  outbox : Outbox
  now : ℚ
  passes : Dict ℕ OutboxPass
  /-- The events that the sink of some pass has accepted. -/
  accepted : List String
  history : List ClaimAct

inductive DeliveryStep
  | append (hex sessionId eventType : String) (createdAt : ℚ)
  | clock (time : ℚ)
  | claim (pass : ℕ) (dispatcher : OutboxDispatcher) (reading : ℚ)
  | sink (pass : ℕ) (accepts : Bool)
  | ack (pass : ℕ) (reading : ℚ)
  | ackRaises (pass : ℕ)
  | release (pass : ℕ)
  | releaseRaises (pass : ℕ)
  | crash (pass : ℕ)

namespace Delivery

def start (now : ℚ) : Delivery := ⟨Dict.empty, now, Dict.empty, [], []⟩

/-- The pass goes on with the next event of its batch, or is done. -/
def nextEvent (s : Delivery) (pass : ℕ) (p : OutboxPass) : Delivery :=
  match p.rest with
  | [] => { s with passes := s.passes.erase pass }
  | event :: rest => { s with passes := s.passes.set pass { p with stage := .sink, event, rest } }

def toStage (s : Delivery) (pass : ℕ) (p : OutboxPass) (stage : PassStage) : Delivery :=
  { s with passes := s.passes.set pass { p with stage } }

/-- A pass starts with a claim, by the clock as the process read it some time ago. -/
def claimFor (s : Delivery) (pass : ℕ) (d : OutboxDispatcher) (reading : ℚ) : Delivery :=
  match s.outbox.claimPendingEvents d.consumerId d.batchSize d.leaseSeconds reading with
  | .error _ => s
  | .ok (batch, outbox) =>
    let events := batch.map Prod.fst
    let acts := events.map fun event => ClaimAct.claimed d.consumerId event (reading + d.leaseSeconds)
    let s' := { s with outbox, history := acts ++ s.history }
    match events with
    | [] => s'
    | event :: rest => { s' with passes := s.passes.set pass ⟨d, .sink, event, rest⟩ }

/-- The sink accepts the event in work or raises. -/
def offer (s : Delivery) (pass : ℕ) (p : OutboxPass) (accepts : Bool) : Delivery :=
  if accepts then { s.toStage pass p .ack with accepted := p.event :: s.accepted } else s.toStage pass p .release

/-- The acknowledge of the event in work; a row count other than one is an error of the pass. -/
def acknowledge (s : Delivery) (pass : ℕ) (p : OutboxPass) (reading : ℚ) : Delivery :=
  match s.outbox.ackPendingEvents p.dispatcher.consumerId [p.event] reading with
  | .error _ => s.toStage pass p .release
  | .ok (changed, outbox) =>
    let s' := { s with outbox, history := .settled p.dispatcher.consumerId p.event :: s.history }
    if changed = 1 then s'.nextEvent pass p else s'.toStage pass p .release

def giveBack (s : Delivery) (pass : ℕ) (p : OutboxPass) : Delivery :=
  match s.outbox.releasePendingEvents p.dispatcher.consumerId [p.event] with
  | .error _ => s.nextEvent pass p
  | .ok (_, outbox) =>
    nextEvent { s with outbox, history := .settled p.dispatcher.consumerId p.event :: s.history } pass p

def atStage (s : Delivery) (pass : ℕ) (stage : PassStage) (act : OutboxPass → Delivery) : Delivery :=
  match s.passes.get? pass with
  | some p => if p.stage = stage then act p else s
  | none => s

/-- One step of the system.  A step that is not enabled changes nothing. -/
def step (s : Delivery) : DeliveryStep → Delivery
  | .append hex sessionId eventType createdAt =>
    { s with outbox := committed s.outbox (s.outbox.appendEvent hex sessionId eventType createdAt) }
  | .clock time => { s with now := max s.now time }
  | .claim pass d reading =>
    if s.passes.contains pass = false ∧ reading ≤ s.now then s.claimFor pass d reading else s
  | .sink pass accepts => s.atStage pass .sink fun p => s.offer pass p accepts
  | .ack pass reading => s.atStage pass .ack fun p => s.acknowledge pass p reading
  | .ackRaises pass => s.atStage pass .ack fun p => s.toStage pass p .release
  | .release pass => s.atStage pass .release fun p => s.giveBack pass p
  | .releaseRaises pass => s.atStage pass .release fun p => s.nextEvent pass p
  | .crash pass => { s with passes := s.passes.erase pass }

end Delivery

/-! ### The history -/

section History

variable {acts : List ClaimAct} {consumer eventId : String} {expires : ℚ}

/-- What a claim of a whole batch adds to the history. -/
def claimedAll (consumer : String) (expires : ℚ) (events : List String) : List ClaimAct :=
  events.map fun event => .claimed consumer event expires

theorem claimant_claimedAll (events : List String) : claimant eventId (claimedAll consumer expires events ++ acts)
      = if eventId ∈ events then some consumer else claimant eventId acts := by
  induction events with
  | nil => rfl
  | cons event events ih =>
    show (if event = eventId then some consumer else claimant eventId (claimedAll consumer expires events ++ acts)) = _
    rw [ih]
    by_cases h : event = eventId
    · rw [if_pos h, if_pos (h ▸ List.mem_cons_self)]
    · simp only [if_neg h, List.mem_cons, Ne.symm h, false_or]

theorem heldUntil_claimedAll (c : String) (events : List String) :
    heldUntil c eventId (claimedAll consumer expires events ++ acts)
      = if consumer = c ∧ eventId ∈ events then some expires else heldUntil c eventId acts := by
  induction events with
  | nil => simp [claimedAll]
  | cons event events ih =>
    show (if consumer = c ∧ event = eventId then some expires
      else heldUntil c eventId (claimedAll consumer expires events ++ acts)) = _
    rw [ih]
    by_cases hc : consumer = c
    · by_cases he : event = eventId
      · rw [if_pos ⟨hc, he⟩, if_pos ⟨hc, he ▸ List.mem_cons_self⟩]
      · simp only [hc, he, Ne.symm he, List.mem_cons, true_and, false_or, if_false]
    · simp only [hc, false_and, if_false]

end History

/-! ### The rows say what the history says -/

/-- The rows of the outbox as the history of the calls has them at a time. -/
structure RowsFollow (o : Outbox) (acts : List ClaimAct) (now : ℚ) : Prop where
  ids : ∀ e row, o.get? e = some row → Text.strip e ≠ ""
  claimant : ∀ e, claimant e acts = (o.get? e).bind OutboxEvent.claimedBy
  unclaimed : ∀ e row, o.get? e = some row → row.claimedBy = none → row.claimedAt = none
  claimed : ∀ e row c, o.get? e = some row → row.claimedBy = some c →
    row.dispatchedAt = none ∧ row.claimedAt ≠ none ∧
      ∃ expires, row.claimExpiresAt = some expires ∧ heldUntil c e acts = some expires
  live : ∀ e c expires, heldUntil c e acts = some expires → now < expires →
    ∃ row, o.get? e = some row ∧ row.claimedBy = some c

namespace RowsFollow

variable {o o' : Outbox} {acts : List ClaimAct} {now : ℚ} {consumer : String}

section

variable (h : RowsFollow o acts now)
include h

theorem later {now' : ℚ} (hle : now ≤ now') : RowsFollow o acts now' :=
  { h with live := fun e c expires hheld hlt => h.live e c expires hheld (hle.trans_lt hlt) }

theorem claimable_iff {e : String} {row : OutboxEvent} (hget : o.get? e = some row) (reading : ℚ) :
    row.claimable reading = true ↔ row.dispatchedAt = none ∧
      ∀ c expires, row.claimedBy = some c → heldUntil c e acts = some expires → expires ≤ reading := by
  cases hby : row.claimedBy with
  | none =>
    have hat : row.claimedAt = none := h.unclaimed e row hget hby
    simp [claimable, hat]
  | some c =>
    obtain ⟨hopen, hat, expires, hexpires, hheld⟩ := h.claimed e row c hget hby
    simp only [claimable, hopen, hexpires, isNone_none, Bool.true_and, all_some, Bool.or_eq_true,
      decide_eq_true_eq, isNone_iff_eq_none, hat, false_or, true_and, some.injEq]
    constructor
    · rintro hle c' expires' rfl hheld'
      obtain rfl := some.inj (hheld.symm.trans hheld')
      exact hle
    · intro hall
      exact hall c expires rfl hheld

theorem append {hex sessionId eventType eventId : String} {createdAt : ℚ}
    (hok : o.appendEvent hex sessionId eventType createdAt = .ok (eventId, o')) : RowsFollow o' acts now := by
  obtain ⟨hfresh, hok⟩ := ite_error_eq_ok_iff.mp hok
  obtain ⟨rfl, rfl⟩ := Prod.mk.inj (Except.ok.inj hok)
  have hnone : o.get? (newEventId hex) = none := by
    cases hget : o.get? (newEventId hex) with
    | none => rfl
    | some row => exact absurd (by rw [contains, hget]; rfl) hfresh
  refine ⟨fun e row hget => ?_, fun e => ?_, fun e row hget hby => ?_, fun e row c hget hby => ?_,
    fun e c expires hheld hlt => ?_⟩
  · rw [get?_set] at hget
    split at hget
    · rename_i heq
      exact heq ▸ strip_newEventId hex
    · exact h.ids e row hget
  · rw [h.claimant e, get?_set]
    split
    · rename_i heq
      rw [heq, hnone]
      rfl
    · rfl
  · rcases get?_set_eq_some.mp hget with ⟨-, hget⟩ | ⟨-, hget⟩
    · rw [← hget]
    · exact h.unclaimed e row hget hby
  · rcases get?_set_eq_some.mp hget with ⟨-, hget⟩ | ⟨-, hget⟩
    · rw [← hget] at hby
      cases hby
    · exact h.claimed e row c hget hby
  · obtain ⟨row, hget, hby⟩ := h.live e c expires hheld hlt
    refine ⟨row, ?_, hby⟩
    rw [get?_set_of_ne _ (fun heq => ?_), hget]
    rw [heq, hnone] at hget
    cases hget

/-- **A claim** adds to the history what it returned. -/
theorem claim {lease reading : ℚ} {limit : ℤ} (hlease : 0 < lease) (hreading : reading ≤ now) :
    RowsFollow (o.claimBatch consumer limit lease reading).2
      (claimedAll consumer (reading + lease) ((o.claimBatch consumer limit lease reading).1.map Prod.fst) ++ acts)
      now := by
  have hmem : ∀ e, e ∈ (o.claimBatch consumer limit lease reading).1.map Prod.fst
      ↔ e ∈ o.candidates reading (pageLimit limit) := fun e => mem_batch_iff hlease
  have hrow : ∀ e row, (o.claimBatch consumer limit lease reading).2.get? e = some row →
      (e ∈ o.candidates reading (pageLimit limit) ∧ ∃ row₀, o.get? e = some row₀ ∧ row₀.claimable reading = true ∧
        row = row₀.claim consumer reading lease) ∨
      (e ∉ o.candidates reading (pageLimit limit) ∧ o.get? e = some row) := by
    intro e row hget
    rw [get?_claimed hlease] at hget
    split at hget
    · rename_i hin
      obtain ⟨row₀, hget₀, hopen⟩ := mem_candidates hin
      rw [hget₀] at hget
      exact .inl ⟨hin, row₀, hget₀, hopen, (some.inj hget).symm⟩
    · rename_i hout
      exact .inr ⟨hout, hget⟩
  refine ⟨fun e row hget => ?_, fun e => ?_, fun e row hget hby => ?_, fun e row c hget hby => ?_,
    fun e c expires hheld hlt => ?_⟩
  · rcases hrow e row hget with ⟨-, row₀, hget₀, -, -⟩ | ⟨-, hget₀⟩
    · exact h.ids e row₀ hget₀
    · exact h.ids e row hget₀
  · rw [claimant_claimedAll, get?_claimed hlease]
    by_cases hin : e ∈ o.candidates reading (pageLimit limit)
    · obtain ⟨row₀, hget₀, -⟩ := mem_candidates hin
      rw [if_pos ((hmem e).mpr hin), if_pos hin, hget₀]
      rfl
    · rw [if_neg (mt (hmem e).mp hin), if_neg hin, h.claimant e]
  · rcases hrow e row hget with ⟨-, row₀, -, -, rfl⟩ | ⟨-, hget₀⟩
    · cases hby
    · exact h.unclaimed e row hget₀ hby
  · rw [heldUntil_claimedAll]
    rcases hrow e row hget with ⟨hin, row₀, hget₀, hopen, rfl⟩ | ⟨hout, hget₀⟩
    · obtain rfl : consumer = c := some.inj hby
      exact ⟨((h.claimable_iff hget₀ reading).mp hopen).1, some_ne_none _, reading + lease, rfl,
        if_pos ⟨rfl, (hmem e).mpr hin⟩⟩
    · obtain ⟨hnot, hat, expires, hexpires, hheld⟩ := h.claimed e row c hget₀ hby
      refine ⟨hnot, hat, expires, hexpires, ?_⟩
      rw [if_neg fun hboth => hout ((hmem e).mp hboth.2), hheld]
  · rw [heldUntil_claimedAll] at hheld
    split at hheld
    · rename_i hboth
      have hin := (hmem e).mp hboth.2
      obtain ⟨row₀, hget₀, -⟩ := mem_candidates hin
      refine ⟨row₀.claim consumer reading lease, ?_, congrArg some hboth.1⟩
      rw [get?_claimed hlease, if_pos hin, hget₀]
      rfl
    · obtain ⟨row, hget, hby⟩ := h.live e c expires hheld hlt
      refine ⟨row, ?_, hby⟩
      rw [get?_claimed hlease, if_neg (fun hin => ?_), hget]
      -- a claim that has not expired keeps the row from being a candidate
      obtain ⟨row₀, hget₀, hopen⟩ := mem_candidates hin
      obtain rfl := some.inj (hget.symm.trans hget₀)
      have hle := ((h.claimable_iff hget reading).mp hopen).2 c expires hby hheld
      exact absurd hlt (not_lt.mpr (hle.trans hreading))

/-- **An acknowledge or a release** ends the claim of its consumer, if that is the last one. -/
theorem settle {change : OutboxEvent → OutboxEvent} {tooMany event : String} {changed : ℕ}
    (hby : ∀ row, (change row).claimedBy = none) (hat : ∀ row, (change row).claimedAt = none)
    (hvalid : validateOutboxConsumer consumer = .ok consumer)
    (hok : settleEvents change tooMany o consumer [event] = .ok (changed, o')) :
    RowsFollow o' (.settled consumer event :: acts) now := by
  have hread := get?_settle hby hvalid hok
  -- the one row that changes is the consumer's
  have hmine : ∀ e row₀, o.get? e = some row₀ → e = event → row₀.claimedBy = some consumer →
      o'.get? e = some (change row₀) := by
    rintro e row₀ hget rfl howner
    have hnamed : e ∈ namedIds [e] := mem_namedIds.mpr ⟨List.mem_singleton_self e, h.ids e row₀ hget⟩
    have hclaimed : row₀.claimedFor consumer = true := by
      simp [claimedFor, howner, (h.claimed e row₀ consumer hget howner).1]
    rw [hread, if_pos hnamed, hget, map_some, if_pos hclaimed]
  have hkept : ∀ e, (∀ row₀, o.get? e = some row₀ → ¬(e = event ∧ row₀.claimedBy = some consumer)) →
      o'.get? e = o.get? e := by
    intro e hnot
    rw [hread]
    split
    · rename_i hnamed
      have heq : e = event := List.mem_singleton.mp (mem_namedIds.mp hnamed).1
      cases hget : o.get? e with
      | none => rfl
      | some row₀ =>
        have hother : row₀.claimedBy ≠ some consumer := fun howner => hnot row₀ hget ⟨heq, howner⟩
        have howner : row₀.claimedFor consumer = false := by simp [claimedFor, hother]
        rw [map_some, if_neg (by rw [howner]; decide)]
    · rfl
  have hrow : ∀ e row, o'.get? e = some row →
      (∃ row₀, o.get? e = some row₀ ∧ row = change row₀ ∧ e = event) ∨
        o.get? e = some row ∧ ¬(e = event ∧ row.claimedBy = some consumer) := by
    intro e row hget
    by_cases hchanged : ∃ row₀, o.get? e = some row₀ ∧ e = event ∧ row₀.claimedBy = some consumer
    · obtain ⟨row₀, hget₀, heq, howner⟩ := hchanged
      exact .inl ⟨row₀, hget₀, some.inj (hget.symm.trans (hmine e row₀ hget₀ heq howner)), heq⟩
    · have hsame := hkept e fun row₀ hget₀ hboth => hchanged ⟨row₀, hget₀, hboth⟩
      rw [hsame] at hget
      exact .inr ⟨hget, fun hboth => hchanged ⟨row, hget, hboth⟩⟩
  refine ⟨fun e row hget => ?_, fun e => ?_, fun e row hget hnone => ?_, fun e row c hget howner => ?_,
    fun e c expires hheld hlt => ?_⟩
  · rcases hrow e row hget with ⟨row₀, hget₀, -, -⟩ | ⟨hget₀, -⟩
    · exact h.ids e row₀ hget₀
    · exact h.ids e row hget₀
  · show (if event = e ∧ _ then _ else _) = _
    rw [h.claimant e]
    by_cases hchanged : ∃ row₀, o.get? e = some row₀ ∧ e = event ∧ row₀.claimedBy = some consumer
    · obtain ⟨row₀, hget₀, heq, howner⟩ := hchanged
      rw [hmine e row₀ hget₀ heq howner, hget₀, bind_some, bind_some, hby, if_pos ⟨heq.symm, howner⟩]
    · rw [hkept e fun row₀ hget₀ hboth => hchanged ⟨row₀, hget₀, hboth⟩]
      refine if_neg fun hboth => hchanged ?_
      obtain ⟨row₀, hget₀, howner⟩ := bind_eq_some_iff.mp hboth.2
      exact ⟨row₀, hget₀, hboth.1.symm, howner⟩
  · rcases hrow e row hget with ⟨row₀, -, rfl, -⟩ | ⟨hget₀, -⟩
    · exact hat row₀
    · exact h.unclaimed e row hget₀ hnone
  · rcases hrow e row hget with ⟨row₀, -, rfl, -⟩ | ⟨hget₀, hnot⟩
    · rw [hby] at howner
      cases howner
    · obtain ⟨hopen, hclaimed, expires, hexpires, hheld⟩ := h.claimed e row c hget₀ howner
      refine ⟨hopen, hclaimed, expires, hexpires, ?_⟩
      show (if consumer = c ∧ event = e then none else heldUntil c e acts) = some expires
      rw [if_neg fun hboth => hnot ⟨hboth.2.symm, by rw [howner, hboth.1]⟩, hheld]
  · obtain ⟨hother, hheld⟩ : ¬(consumer = c ∧ event = e) ∧ heldUntil c e acts = some expires := by
      rw [heldUntil] at hheld
      split at hheld
      · cases hheld
      · rename_i hother
        exact ⟨hother, hheld⟩
    obtain ⟨row, hget, howner⟩ := h.live e c expires hheld hlt
    refine ⟨row, ?_, howner⟩
    rw [hkept e fun row₀ hget₀ hboth => hother ?_, hget]
    obtain rfl := some.inj (hget.symm.trans hget₀)
    exact ⟨some.inj (hboth.2.symm.trans howner), hboth.1.symm⟩

end

end RowsFollow

/-! ### Every interleaving -/

namespace Delivery

/-- What every step of the system keeps. -/
structure Sound (s : Delivery) : Prop where
  rows : RowsFollow s.outbox s.history s.now
  accepting : ∀ pass p, s.passes.get? pass = some p → p.stage = .ack → p.event ∈ s.accepted
  dispatched : ∀ e row, s.outbox.get? e = some row → row.dispatchedAt ≠ none → e ∈ s.accepted

namespace Sound

variable {s : Delivery} {pass : ℕ} {p : OutboxPass}

theorem start (now : ℚ) : Sound (start now) :=
  ⟨⟨fun _ _ h => (nomatch h), fun _ => rfl, fun _ _ h => (nomatch h), fun _ _ _ h => (nomatch h),
    fun _ _ _ h => (nomatch h)⟩, fun _ _ h => (nomatch h), fun _ _ h => (nomatch h)⟩

section

variable (h : Sound s)
include h

/-- Dropping a pass, or giving it a stage in which nothing has to be accepted, changes nothing else. -/
theorem withPasses {passes : Dict ℕ OutboxPass}
    (hpasses : ∀ i q, passes.get? i = some q → q.stage = .ack → s.passes.get? i = some q ∨ q.event ∈ s.accepted) :
    Sound { s with passes } :=
  { h with
    accepting := fun i q hget hstage => by
      rcases hpasses i q hget hstage with hold | hnew
      · exact h.accepting i q hold hstage
      · exact hnew }

theorem erase (pass : ℕ) : Sound { s with passes := s.passes.erase pass } :=
  h.withPasses fun i q hget _ => by
    obtain ⟨-, hget⟩ := get?_erase_eq_some.mp hget
    exact .inl hget

theorem set {q : OutboxPass} (hq : q.stage = .ack → q.event ∈ s.accepted) :
    Sound { s with passes := s.passes.set pass q } :=
  h.withPasses fun i q' hget hstage => by
    rcases get?_set_eq_some.mp hget with ⟨-, rfl⟩ | ⟨-, hget⟩
    · exact .inr (hq hstage)
    · exact .inl hget

theorem toStage {stage : PassStage} (hstage : stage = .ack → p.event ∈ s.accepted) :
    Sound (s.toStage pass p stage) := h.set hstage

theorem nextEvent : Sound (s.nextEvent pass p) := by
  unfold Delivery.nextEvent
  split
  · exact h.erase pass
  · exact h.set nofun

theorem offer (accepts : Bool) : Sound (s.offer pass p accepts) := by
  unfold Delivery.offer
  split
  · have hmore : Sound { s with accepted := p.event :: s.accepted } :=
      ⟨h.rows, fun i q hget hstage => List.mem_cons_of_mem _ (h.accepting i q hget hstage),
        fun e row hget hat => List.mem_cons_of_mem _ (h.dispatched e row hget hat)⟩
    exact hmore.toStage fun _ => List.mem_cons_self
  · exact h.toStage nofun

theorem claimFor {d : OutboxDispatcher} {reading : ℚ} (hreading : reading ≤ s.now) :
    Sound (s.claimFor pass d reading) := by
  have hlease : 0 < d.leaseSeconds := lt_of_lt_of_le (by norm_num) d.leaseBounds.1
  have hok : s.outbox.claimPendingEvents d.consumerId d.batchSize d.leaseSeconds reading
      = .ok (s.outbox.claimBatch d.consumerId d.batchSize d.leaseSeconds reading) := by
    rw [claimPendingEvents, d.validConsumer, ok_bind, if_neg (not_not.mpr d.leaseBounds)]
  generalize hbatch : s.outbox.claimBatch d.consumerId d.batchSize d.leaseSeconds reading = r at hok
  obtain ⟨batch, outbox⟩ := r
  have hclaimed : Sound { s with
      outbox, history := claimedAll d.consumerId (reading + d.leaseSeconds) (batch.map Prod.fst) ++ s.history } := by
    have hrows := (@RowsFollow.claim _ _ _ d.consumerId h.rows _ _ d.batchSize) hlease hreading
    rw [hbatch] at hrows
    refine ⟨hrows, h.accepting, fun e row hget hat => ?_⟩
    have hread := (@get?_claimed s.outbox d.consumerId reading _ d.batchSize) hlease e
    rw [hbatch] at hread
    rw [hread] at hget
    split at hget
    · obtain ⟨row₀, hget₀, rfl⟩ := map_eq_some_iff.mp hget
      exact h.dispatched e row₀ hget₀ hat
    · exact h.dispatched e row hget hat
  unfold Delivery.claimFor
  rw [hok]
  dsimp only
  split
  · exact hclaimed
  · exact hclaimed.set (by rintro ⟨⟩)

theorem settle {change : OutboxEvent → OutboxEvent} {tooMany : String} {changed : ℕ} {outbox : Outbox}
    (hby : ∀ row, (change row).claimedBy = none) (hat : ∀ row, (change row).claimedAt = none)
    (hdispatch : ∀ row, (change row).dispatchedAt ≠ none → row.dispatchedAt ≠ none ∨ p.event ∈ s.accepted)
    (hok : settleEvents change tooMany s.outbox p.dispatcher.consumerId [p.event] = .ok (changed, outbox)) :
    Sound { s with outbox, history := .settled p.dispatcher.consumerId p.event :: s.history } := by
  refine ⟨h.rows.settle hby hat p.dispatcher.validConsumer hok, h.accepting, fun e row hget hrow => ?_⟩
  rw [get?_settle hby p.dispatcher.validConsumer hok] at hget
  split at hget
  · rename_i hnamed
    obtain ⟨row₀, hget₀, rfl⟩ := map_eq_some_iff.mp hget
    split at hrow
    · rcases hdispatch row₀ hrow with hold | haccepted
      · exact h.dispatched e row₀ hget₀ hold
      · rwa [List.mem_singleton.mp (mem_namedIds.mp hnamed).1]
    · exact h.dispatched e row₀ hget₀ hrow
  · exact h.dispatched e row hget hrow

theorem acknowledge (hget : s.passes.get? pass = some p) (hstage : p.stage = .ack) (reading : ℚ) :
    Sound (s.acknowledge pass p reading) := by
  unfold Delivery.acknowledge
  split
  · exact h.toStage nofun
  · rename_i changed outbox hok
    have hsettled := h.settle (fun _ => rfl) (fun _ => rfl) (fun _ _ => .inr (h.accepting pass p hget hstage)) hok
    dsimp only
    split
    · exact hsettled.nextEvent
    · exact hsettled.toStage nofun

theorem giveBack : Sound (s.giveBack pass p) := by
  unfold Delivery.giveBack
  split
  · exact h.nextEvent
  · rename_i changed outbox hok
    refine nextEvent (h.settle ?_ ?_ ?_ hok)
    · exact fun _ => rfl
    · exact fun _ => rfl
    · exact fun _ hrow => .inl hrow

theorem atStage {stage : PassStage} {act : OutboxPass → Delivery}
    (hact : ∀ p, s.passes.get? pass = some p → p.stage = stage → Sound (act p)) :
    Sound (s.atStage pass stage act) := by
  unfold Delivery.atStage
  split
  · rename_i p hget
    split
    · rename_i hstage
      exact hact p hget hstage
    · exact h
  · exact h

theorem appended {hex sessionId eventType eventId : String} {createdAt : ℚ} {outbox : Outbox}
    (hok : s.outbox.appendEvent hex sessionId eventType createdAt = .ok (eventId, outbox)) : Sound { s with outbox } := by
  refine ⟨h.rows.append hok, h.accepting, fun e row hget hat => ?_⟩
  obtain ⟨-, hok⟩ := ite_error_eq_ok_iff.mp hok
  obtain ⟨rfl, rfl⟩ := Prod.mk.inj (Except.ok.inj hok)
  rcases get?_set_eq_some.mp hget with ⟨-, hget⟩ | ⟨-, hget⟩
  · rw [← hget] at hat
    exact absurd rfl hat
  · exact h.dispatched e row hget hat

theorem append (hex sessionId eventType : String) (createdAt : ℚ) :
    Sound (s.step (.append hex sessionId eventType createdAt)) := by
  rw [Delivery.step]
  cases hok : s.outbox.appendEvent hex sessionId eventType createdAt with
  | error e => exact h
  | ok r => exact h.appended hok

/-- **Every step keeps it.** -/
theorem step (act : DeliveryStep) : Sound (s.step act) := by
  cases act with
  | append hex sessionId eventType createdAt => exact h.append hex sessionId eventType createdAt
  | clock time => exact ⟨h.rows.later (le_max_left _ _), h.accepting, h.dispatched⟩
  | claim pass d reading =>
    show Sound (if _ then _ else _)
    split
    · rename_i henabled
      exact h.claimFor henabled.2
    · exact h
  | sink pass accepts => exact h.atStage fun p _ _ => h.offer accepts
  | ack pass reading => exact h.atStage fun p hget hstage => h.acknowledge hget hstage reading
  | ackRaises pass => exact h.atStage fun p _ _ => h.toStage nofun
  | release pass => exact h.atStage fun p _ _ => h.giveBack
  | releaseRaises pass => exact h.atStage fun p _ _ => h.nextEvent
  | crash pass => exact h.erase pass

end

theorem run (now : ℚ) (steps : List DeliveryStep) : Sound (Run.exec Delivery.step (Delivery.start now) steps) :=
  Run.exec_of_forall Sound (fun _ act h => h.step act) (start now) steps

end Sound

/-! ### No event is lost -/

theorem outbox_nextEvent {s : Delivery} {pass : ℕ} {p : OutboxPass} : (s.nextEvent pass p).outbox = s.outbox := by
  unfold nextEvent
  split <;> rfl

/-- **An event stays in the outbox**, whatever happens. -/
theorem contains_step {s : Delivery} {e : String} (h : s.outbox.contains e = true) (act : DeliveryStep) :
    (s.step act).outbox.contains e = true := by
  have hsettled : ∀ {change tooMany changed outbox} {p : OutboxPass}, (∀ row, (change row).claimedBy = none) →
      settleEvents change tooMany s.outbox p.dispatcher.consumerId [p.event] = .ok (changed, outbox) →
      contains outbox e = true := by
    intro change tooMany changed outbox p hby hok
    rw [contains, get?_settle hby p.dispatcher.validConsumer hok]
    split
    · rwa [isSome_map]
    · exact h
  have hstage : ∀ pass stage (next : OutboxPass → Delivery), (∀ p, (next p).outbox.contains e = true) →
      (s.atStage pass stage next).outbox.contains e = true := by
    intro pass stage next hnext
    unfold atStage
    split
    · split
      · exact hnext _
      · exact h
    · exact h
  cases act with
  | append hex sessionId eventType createdAt =>
    rw [step]
    cases hok : s.outbox.appendEvent hex sessionId eventType createdAt with
    | error _ => exact h
    | ok r =>
      obtain ⟨-, hok⟩ := ite_error_eq_ok_iff.mp hok
      obtain rfl := Except.ok.inj hok
      show (get? (set _ _ _) e).isSome = true
      rw [get?_set]
      split
      · rfl
      · exact h
  | clock time => exact h
  | claim pass d reading =>
    rw [step]
    split
    · unfold claimFor
      split
      · exact h
      · rename_i batch outbox hok
        have hlease : 0 < d.leaseSeconds := lt_of_lt_of_le (by norm_num) d.leaseBounds.1
        rw [claimPendingEvents, d.validConsumer, ok_bind, if_neg (not_not.mpr d.leaseBounds)] at hok
        obtain rfl : (s.outbox.claimBatch d.consumerId d.batchSize d.leaseSeconds reading).2 = outbox :=
          congrArg Prod.snd (Except.ok.inj hok)
        have hclaimed : contains
            (s.outbox.claimBatch d.consumerId d.batchSize d.leaseSeconds reading).2 e = true := by
          rw [contains, get?_claimed hlease]
          split
          · rwa [isSome_map]
          · exact h
        dsimp only
        split <;> exact hclaimed
    · exact h
  | sink pass accepts =>
    refine hstage _ _ _ fun p => ?_
    unfold offer
    split <;> exact h
  | ack pass reading =>
    refine hstage _ _ _ fun p => ?_
    unfold acknowledge
    split
    · exact h
    · rename_i changed outbox hok
      have hkept := hsettled (fun _ => rfl) hok
      dsimp only
      split
      · rw [outbox_nextEvent]
        exact hkept
      · exact hkept
  | ackRaises pass => exact hstage _ _ _ fun p => h
  | release pass =>
    refine hstage _ _ _ fun p => ?_
    unfold giveBack
    split
    · rw [outbox_nextEvent]
      exact h
    · rename_i changed outbox hok
      rw [outbox_nextEvent]
      exact hsettled (fun _ => rfl) hok
  | releaseRaises pass =>
    refine hstage _ _ _ fun p => ?_
    rw [outbox_nextEvent]
    exact h
  | crash pass => exact h

/-! ### What the delivery promises -/

/-- An event is offered by a claim: it is returned, or as many events as the claim takes are returned, all of which
come before it. -/
def Offered (o : Outbox) (e : String) (row : OutboxEvent) (consumer : String) (limit : ℤ) (lease reading : ℚ) : Prop :=
  ∀ batch o', o.claimPendingEvents consumer limit lease reading = .ok (batch, o') →
    e ∈ batch.map Prod.fst ∨ batch.length = pageLimit limit ∧ ∀ first ∈ batch, Before first (e, row)

/-- What the outbox promises at any time. -/
structure AtLeastOnceExclusive (s : Delivery) : Prop where
  dispatched : ∀ e row, s.outbox.get? e = some row → row.dispatchedAt ≠ none → e ∈ s.accepted
  exclusive : ∀ e c c' expires expires', c ≠ c' → heldUntil c e s.history = some expires →
    heldUntil c' e s.history = some expires' → ¬(s.now < expires ∧ s.now < expires')
  acknowledges : ∀ consumerId consumer events timestamp changed o', validateOutboxConsumer consumerId = .ok consumer →
    (∀ e ∈ events, claimant e s.history ≠ some consumer) →
    s.outbox.ackPendingEvents consumerId events timestamp = .ok (changed, o') → changed = 0 ∧ o' = s.outbox
  releases : ∀ consumerId consumer events changed o', validateOutboxConsumer consumerId = .ok consumer →
    (∀ e ∈ events, claimant e s.history ≠ some consumer) →
    s.outbox.releasePendingEvents consumerId events = .ok (changed, o') → changed = 0 ∧ o' = s.outbox
  offered : ∀ e row reading, s.outbox.get? e = some row → row.dispatchedAt = none →
    (∀ c expires, claimant e s.history = some c → heldUntil c e s.history = some expires → expires ≤ reading) →
    ∀ consumer limit lease, Offered s.outbox e row consumer limit lease reading
  kept : ∀ e steps, s.outbox.contains e = true → (Run.exec step s steps).outbox.contains e = true

theorem offered_of_get? {o : Outbox} {e : String} {row : OutboxEvent} {reading : ℚ} (hget : o.get? e = some row)
    (hopen : row.claimable reading = true) (consumer : String) (limit : ℤ) (lease : ℚ) :
    Offered o e row consumer limit lease reading := by
  intro batch o' hok
  obtain ⟨value, -, hok⟩ := bind_eq_ok_iff.mp hok
  obtain ⟨hbounds, hok⟩ := ite_error_eq_ok_iff.mp hok
  have hlease : 0 < lease := lt_of_lt_of_le (by norm_num) (not_not.mp hbounds).1
  obtain rfl : (o.claimBatch value limit lease reading).1 = batch := congrArg Prod.fst (Except.ok.inj hok)
  rcases offered_of_claimable (n := pageLimit limit) hget hopen with hin | ⟨hfull, hbefore⟩
  · exact .inl ((mem_batch_iff hlease).mpr hin)
  · refine .inr ⟨(length_claimed hlease).trans hfull, fun first hfirst => ?_⟩
    obtain ⟨hin, hnew⟩ := (claimed_iff hlease).mp hfirst
    obtain ⟨row', hget', hle⟩ := hbefore first.1 hin
    rw [get?_claimed hlease, if_pos hin, hget'] at hnew
    -- a claim does not touch what the order looks at
    have hclaimed : first.2 = row'.claim value reading lease := (some.inj hnew).symm
    rw [Before, hclaimed]
    exact hle

/-- **Delivery is at-least-once and exclusive**, in every interleaving of any number of passes. -/
theorem outbox_delivery (now : ℚ) (steps : List DeliveryStep) :
    AtLeastOnceExclusive (Run.exec step (start now) steps) := by
  have h := Sound.run now steps
  have hnot : ∀ (events : List String) (consumer : String), (∀ e ∈ events, claimant e (Run.exec step (start now) steps).history ≠ some consumer) →
      ∀ e ∈ events, ∀ row, (Run.exec step (start now) steps).outbox.get? e = some row →
        row.claimedBy ≠ some consumer := by
    intro events consumer hnone e hmem row hget hby
    refine hnone e hmem ?_
    rw [h.rows.claimant, hget]
    exact hby
  refine ⟨h.dispatched, ?_, ?_, ?_, ?_, ?_⟩
  · rintro e c c' expires expires' hne hheld hheld' ⟨hlt, hlt'⟩
    obtain ⟨row, hget, hby⟩ := h.rows.live e c expires hheld hlt
    obtain ⟨row', hget', hby'⟩ := h.rows.live e c' expires' hheld' hlt'
    obtain rfl := some.inj (hget.symm.trans hget')
    exact hne (some.inj (hby.symm.trans hby'))
  · intro consumerId consumer events timestamp changed o' hvalid hnone hok
    exact settle_of_not_claimant hvalid (hnot events consumer hnone) hok
  · intro consumerId consumer events changed o' hvalid hnone hok
    exact settle_of_not_claimant hvalid (hnot events consumer hnone) hok
  · intro e row reading hget hopen hexpired consumer limit lease
    refine offered_of_get? hget ?_ consumer limit lease
    refine (h.rows.claimable_iff hget reading).mpr ⟨hopen, fun c expires hby hheld => hexpired c expires ?_ hheld⟩
    rw [h.rows.claimant, hget]
    exact hby
  · intro e later hin
    exact Run.exec_of_forall (fun s : Delivery => s.outbox.contains e = true) (fun _ act hs => contains_step hs act) hin later

/-- A dispatcher whose claims of two events last a second. -/
def briefDispatcher : OutboxDispatcher where
  consumerId := "a"
  batchSize := 2
  leaseSeconds := 1
  pollSeconds := 1
  validConsumer := by rfl
  batchBounds := by decide
  leaseBounds := by decide +kernel
  pollBounds := by decide +kernel

/-- Two events are claimed for a second, the sink accepts the first, and four more seconds go by. -/
def overdue : Delivery :=
  Run.exec step (start 0)
    [.append "1" "s" "turn.queued" 0, .append "2" "s" "turn.started" 0, .claim 0 briefDispatcher 0, .sink 0 true,
      .clock 5]

/-- **A claim takes no more events than its limit, and an expired claim that nobody has taken over still counts**: the
next claim of one event is not offered the second one, and the acknowledge of the first one is accepted. -/
theorem expired_claim_counts : heldUntil "a" "evt_2" overdue.history = some 1 ∧ overdue.now = 5 ∧
      (overdue.outbox.get? "evt_2").map OutboxEvent.dispatchedAt = some none ∧
      (overdue.outbox.claimPendingEvents "b" 1 60 5).toOption.map (fun r => r.1.map Prod.fst) = some ["evt_1"] ∧
      heldUntil "a" "evt_1" overdue.history = some 1 ∧
      ((overdue.step (.ack 0 5)).outbox.get? "evt_1").map OutboxEvent.dispatchedAt = some (some 5) := by
  decide +kernel

end Delivery

end ComputeMesh.Platform
