import ComputeMesh.Lib.Dict
import ComputeMesh.Lib.Run
import ComputeMesh.Lib.Text

/-!
# The requests of a provider

`ProviderPersistentClient` of `persistent_control_channel.py`: the reader of a connection registers each request in `active`
and starts a worker for it, and the worker removes the request when it is done.  Each connection has a map of its own.

* `dispatch` — what a move of the handler means for the worker of a request;
* `ProviderClient.step` — one step of the reader or of a worker;
* `active_exact` — **when the map holds just the requests that are executed**: as long as no worker is left by a way that
  forgets the map (`LeavesBehind`), and no id has blanks around it.
-/

namespace ComputeMesh.Orchestrator

open ComputeMesh.Text ComputeMesh.Run

/-- An exception of a class that `_dispatch_request` catches, or of another. -/
inductive HandlerExn
  | caught
  | other
  deriving DecidableEq

/-- What a handler does next.  A chunk may be no object, and sending it may fail. -/
inductive HandlerMove
  | returns
  | raises (e : HandlerExn)
  | yields (isObject done sendFails : Bool)
  | exhausted
  deriving DecidableEq

/-- A request frame, with `str(frame["request_id"])`; `accepted` if it is bound to the session revision and its handler is
enabled. -/
structure RequestFrame where
  requestId : String
  stream : Bool
  accepted : Bool := true

/-- A worker, with the id under which the reader has registered it. -/
structure ProviderWorker where
  requestId : String
  frame : RequestFrame
  cancelled : Bool := false
  running : Bool := true

/-- How a worker goes on: with a response, after which the request is unregistered, or by leaving the method before that. -/
inductive Dispatched
  | continues
  | responds
  | leaves
  deriving DecidableEq

/-- `_dispatch_request`, at a move of the handler. -/
def dispatch (w : ProviderWorker) (move : HandlerMove) : Dispatched :=
  if w.frame.accepted = false then .responds
  else
    match w.frame.stream, move with
    | _, .raises .caught => .responds
    | _, .raises .other => .leaves
    | true, .yields isObject done sendFails =>
      if w.cancelled || !isObject || sendFails then .responds else if done then .leaves else .continues
    | true, .exhausted => .responds
    | false, .returns => .responds
    | _, _ => .continues

/-- An exception that is not caught, or the final chunk of a stream. -/
def LeavesBehind (w : ProviderWorker) (move : HandlerMove) : Prop :=
  w.frame.accepted = true ∧ (move = .raises .other ∨
    (w.frame.stream = true ∧ w.cancelled = false ∧ move = .yields true true false))

theorem dispatch_eq_leaves_iff (w : ProviderWorker) (move : HandlerMove) :
    dispatch w move = .leaves ↔ LeavesBehind w move := by
  unfold dispatch LeavesBehind
  cases w.frame.accepted with
  | false => simp
  | true =>
    cases move with
    | returns => cases w.frame.stream <;> simp
    | raises e => cases e <;> simp
    | yields isObject done sendFails =>
      cases w.frame.stream <;> cases w.cancelled <;> cases isObject <;> cases done <;> cases sendFails <;> simp
    | exhausted => cases w.frame.stream <;> simp

def validateRequestId (value : String) : Option String :=
  let clean := strip value
  if 1 ≤ clean.toList.length ∧ clean.toList.length ≤ 160 ∧ clean.toList.any isSpace = false then some clean else none

/-- The client.  The cancel event under an id is the one of the worker with that index. -/
structure ProviderClient where
  connected : Bool := false
  active : Dict String ℕ := .empty
  workers : List ProviderWorker := []

inductive ProviderEvent
  | connect
  | ping
  | cancel (requestId : String)
  | request (frame : RequestFrame)
  | unexpected
  | handler (i : ℕ) (move : HandlerMove)

namespace ProviderClient

/-- The connection ends, and the events in the map are set. -/
def disconnect (s : ProviderClient) : ProviderClient :=
  { s with
    connected := false
    workers := s.workers.mapIdx fun i w => { w with cancelled := w.cancelled || s.active.values.contains i } }

/-- One step of the reader or of a worker. -/
def step (s : ProviderClient) : ProviderEvent → ProviderClient
  | .connect => if s.connected then s else { connected := true }
  | .ping => s
  | .cancel requestId =>
    if s.connected then
      match validateRequestId requestId with
      | none => s.disconnect
      | some requestId =>
        match s.active.get? requestId with
        | none => s
        | some i => { s with workers := s.workers.modify i fun w => { w with cancelled := true } }
    else s
  | .request frame =>
    if s.connected then
      match validateRequestId frame.requestId with
      | none => s.disconnect
      | some requestId =>
        if s.active.contains requestId then s.disconnect
        else
          { s with
            active := s.active.set requestId s.workers.length
            workers := s.workers ++ [{ requestId, frame }] }
    else s
  | .unexpected => if s.connected then s.disconnect else s
  | .handler i move =>
    match s.workers[i]? with
    | none => s
    | some w =>
      let ended := s.workers.modify i fun w => { w with running := false }
      if w.running then
        match dispatch w move with
        | .continues => s
        | .responds => { s with active := s.active.erase w.frame.requestId, workers := ended }
        | .leaves => { s with workers := ended }
      else s

/-- The map holds the requests that are executed. -/
def Exact (s : ProviderClient) : Prop :=
  ∀ requestId, s.active.contains requestId = true ↔ ∃ w ∈ s.workers, w.running = true ∧ w.requestId = requestId

/-- The condition on a step. -/
def Unregisters (s : ProviderClient) : ProviderEvent → Prop
  | .request frame => strip frame.requestId = frame.requestId
  | .handler i move => ∀ w, s.workers[i]? = some w → w.running = true → ¬LeavesBehind w move
  | _ => True

/-- **The invariant.** -/
structure Sound (s : ProviderClient) : Prop where
  registered : ∀ requestId i, s.active.get? requestId = some i →
    ∃ w, s.workers[i]? = some w ∧ w.running = true ∧ w.requestId = requestId
  running : ∀ i w, s.workers[i]? = some w → w.running = true →
    s.active.get? w.requestId = some i ∧ w.frame.requestId = w.requestId

variable {s s' : ProviderClient}

/-- What the invariant reads of a worker. -/
def core (w : ProviderWorker) : String × String × Bool := (w.requestId, w.frame.requestId, w.running)

theorem Sound.of_core (h : s.Sound) (hactive : s'.active = s.active)
    (hcore : ∀ i : ℕ, s'.workers[i]?.map core = s.workers[i]?.map core) : s'.Sound := by
  refine ⟨fun requestId i hget => ?_, fun i w hw hrunning => ?_⟩
  · rw [hactive] at hget
    obtain ⟨w, hw, hrunning, hid⟩ := h.registered requestId i hget
    have hcore := hcore i
    rw [hw, Option.map_some, Option.map_eq_some_iff] at hcore
    obtain ⟨w', hw', hcore⟩ := hcore
    simp only [core, Prod.mk.injEq] at hcore
    exact ⟨w', hw', hcore.2.2.trans hrunning, hcore.1.trans hid⟩
  · have hcore := (hcore i).symm
    rw [hw, Option.map_some, Option.map_eq_some_iff] at hcore
    obtain ⟨w', hw', hcore⟩ := hcore
    simp only [core, Prod.mk.injEq] at hcore
    obtain ⟨hget, hid⟩ := h.running i w' hw' (hcore.2.2.trans hrunning)
    rw [hactive, ← hcore.1, ← hcore.2.1]
    exact ⟨hget, hid⟩

theorem Sound.disconnect (h : s.Sound) : s.disconnect.Sound := by
  refine h.of_core rfl fun i => ?_
  simp only [ProviderClient.disconnect, List.getElem?_mapIdx, Option.map_map]
  rfl

theorem Sound.cancelled (h : s.Sound) (i : ℕ) :
    Sound { s with workers := s.workers.modify i fun w => { w with cancelled := true } } := by
  refine h.of_core rfl fun j => ?_
  rw [List.getElem?_modify]
  cases s.workers[j]? with
  | none => rfl
  | some w =>
    by_cases hij : i = j
    · simp [hij, core]
    · simp [hij]

theorem Sound.start (h : s.Sound) {requestId : String} {frame : RequestFrame} (hid : frame.requestId = requestId)
    (hfree : s.active.contains requestId = false) :
    Sound { s with
      active := s.active.set requestId s.workers.length
      workers := s.workers ++ [{ requestId, frame }] } := by
  have hnone : s.active.get? requestId = none := by simpa [Dict.contains] using hfree
  refine ⟨fun id i hget => ?_, fun i w hw hrunning => ?_⟩
  · rw [Dict.get?_set] at hget
    split at hget
    · next heq =>
      cases hget
      exact ⟨{ requestId, frame }, by simp, rfl, heq.symm⟩
    · obtain ⟨w, hw, hrest⟩ := h.registered id i hget
      exact ⟨w, by rw [List.getElem?_append_left (List.getElem?_eq_some_iff.mp hw).1, hw], hrest⟩
  · rcases Nat.lt_or_ge i s.workers.length with hlt | hge
    · rw [List.getElem?_append_left hlt] at hw
      obtain ⟨hget, hframe⟩ := h.running i w hw hrunning
      refine ⟨?_, hframe⟩
      rw [Dict.get?_set, if_neg]
      · exact hget
      · intro heq
        rw [heq, hnone] at hget
        cases hget
    · rw [List.getElem?_append_right hge, List.getElem?_singleton] at hw
      split at hw
      · next hzero =>
        cases hw
        obtain rfl : i = s.workers.length := by omega
        exact ⟨by rw [Dict.get?_set_self], hid⟩
      · cases hw

/-- A worker that unregisters its request. -/
theorem Sound.responds (h : s.Sound) {i : ℕ} {w : ProviderWorker} (hw : s.workers[i]? = some w)
    (hrunning : w.running = true) :
    Sound { s with
      active := s.active.erase w.frame.requestId
      workers := s.workers.modify i fun w => { w with running := false } } := by
  obtain ⟨hactive, hframe⟩ := h.running i w hw hrunning
  rw [hframe]
  refine ⟨fun id j hget => ?_, fun j w' hw' hrunning' => ?_⟩
  · rw [Dict.get?_erase] at hget
    split at hget
    · cases hget
    next hne =>
    obtain ⟨w', hw', hrest⟩ := h.registered id j hget
    have hij : i ≠ j := by
      rintro rfl
      rw [hw] at hw'
      cases hw'
      exact hne hrest.2.symm
    exact ⟨w', by rw [List.getElem?_modify, hw']; simp [hij], hrest⟩
  · rw [List.getElem?_modify, Option.map_eq_map, Option.map_eq_some_iff] at hw'
    obtain ⟨w₀, hw₀, rfl⟩ := hw'
    by_cases hij : i = j
    · simp [hij] at hrunning'
    · simp only [hij, if_false] at hrunning' ⊢
      obtain ⟨hget, hframe'⟩ := h.running j w₀ hw₀ hrunning'
      refine ⟨?_, hframe'⟩
      rw [Dict.get?_erase, if_neg]
      · exact hget
      · intro heq
        rw [heq, hactive] at hget
        exact hij (Option.some.inj hget)

/-- **A step keeps the invariant.** -/
theorem sound_step (s : ProviderClient) (event : ProviderEvent) (h : s.Sound) (hok : s.Unregisters event) :
    (s.step event).Sound := by
  fun_cases step with
  | case2 => exact ⟨nofun, nofun⟩
  | case4 | case8 | case9 | case12 => exact h.disconnect
  | case6 => exact h.cancelled _
  | case10 frame _ requestId hvalid hfree =>
    refine h.start ?_ (Bool.eq_false_iff.mpr hfree)
    rw [validateRequestId] at hvalid
    split at hvalid
    · exact hok.symm.trans (Option.some.inj hvalid)
    · cases hvalid
  | case16 _ _ _ hw _ hrunning => exact h.responds hw hrunning
  | case17 _ move w hw _ hrunning hleaves =>
    exact absurd ((dispatch_eq_leaves_iff w move).mp hleaves) (hok w hw hrunning)
  | _ => exact h

theorem Sound.exact (h : s.Sound) : s.Exact := by
  intro requestId
  rw [Dict.contains, Option.isSome_iff_exists]
  constructor
  · rintro ⟨i, hget⟩
    obtain ⟨w, hw, hrest⟩ := h.registered requestId i hget
    exact ⟨w, List.mem_of_getElem? hw, hrest⟩
  · rintro ⟨w, hmem, hrunning, rfl⟩
    obtain ⟨i, hw⟩ := List.mem_iff_getElem?.mp hmem
    exact ⟨i, (h.running i w hw hrunning).1⟩

end ProviderClient

end ComputeMesh.Orchestrator
