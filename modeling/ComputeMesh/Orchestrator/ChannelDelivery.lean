import ComputeMesh.Orchestrator.ControlChannel

/-!
# Frames reach exactly their call

What a connection guarantees as long as request ids tell its unfinished calls apart (`Channel.Distinct`), for
any interleaving of callers, reader, cancellations and closing.

* `firstResponse`, `readStream` — what the frames sent for a call say;
* `Content` — a pending object holds what those frames say, and nothing else;
* `Sound` — the invariant: a registration belongs to an unfinished call with that id, and the reader works on
  the one unfinished call that its frame is for;
* `responses_reach_their_requester` — **the guarantees of a run**;
* `timeout_removes_other` — two calls with one id, where the first one's timeout removes the second one.
-/

namespace ComputeMesh.Orchestrator

open List ChannelCall

/-! ### What frames and queues say -/

/-- How far a stream has got. -/
inductive StreamEnd
  | open
  | done
  | failed
  deriving DecidableEq

/-- The answer to a request: its first frame, if that is a response that succeeded. -/
def firstResponse : List ProviderFrame → Option WirePayload
  | [] => none
  | f :: _ => if f.stream then none else f.result

/-- The items of a stream, and how it ended: with the frame that says so, or with the first that is no item. -/
def readStream : List ProviderFrame → List WirePayload × StreamEnd
  | [] => ([], .open)
  | f :: fs =>
    match f.stream, f.result with
    | true, some payload =>
      if f.done then ([payload], .done) else (payload :: (readStream fs).1, (readStream fs).2)
    | _, _ => ([], .failed)

/-- The items of a queue up to its first mark. -/
def consume : List QueueItem → List WirePayload × StreamEnd
  | [] => ([], .open)
  | .item payload :: rest => (payload :: (consume rest).1, (consume rest).2)
  | .error _ :: _ => ([], .failed)
  | .done :: _ => ([], .done)

theorem consume_append_of_open {q : List QueueItem} (h : (consume q).2 = .open) (q' : List QueueItem) :
    consume (q ++ q') = ((consume q).1 ++ (consume q').1, (consume q').2) := by
  induction q with
  | nil => rfl
  | cons x rest ih =>
    cases x with
    | item payload =>
      have hrest := ih h
      simp only [cons_append, consume, hrest]
    | error e => cases h
    | done => cases h

theorem consume_append_of_ended {q : List QueueItem} (h : (consume q).2 ≠ .open) (q' : List QueueItem) :
    consume (q ++ q') = consume q := by
  induction q with
  | nil => exact absurd rfl h
  | cons x rest ih =>
    cases x with
    | item payload =>
      have hrest := ih h
      simp only [cons_append, consume, hrest]
    | error e => rfl
    | done => rfl

/-- What the reader puts into the queue of a stream for one frame. -/
def framePuts (f : ProviderFrame) : List QueueItem :=
  match f.stream, f.result with
  | true, some payload => .item payload :: if f.done then [.done] else []
  | true, none => [.error (f.failure "provider stream failed"), .done]
  | false, _ => [.error (f.failure "provider stream ended without stream frame"), .done]

theorem readStream_eq (fs : List ProviderFrame) : readStream fs = consume (fs.flatMap framePuts) := by
  induction fs with
  | nil => rfl
  | cons f fs ih =>
    rw [flatMap_cons]
    generalize fs.flatMap framePuts = rest at ih
    unfold readStream framePuts
    cases f.stream <;> cases f.result <;> cases f.done <;> simp [consume, ih]

variable {fs : List ProviderFrame}

theorem readStream_append_of_open (h : (readStream fs).2 = .open) (f : ProviderFrame) : readStream (fs ++ [f]) =
      ((readStream fs).1 ++ (consume (framePuts f)).1, (consume (framePuts f)).2) := by
  rw [readStream_eq] at h
  rw [readStream_eq, flatMap_append, consume_append_of_open h, ← readStream_eq]
  simp

theorem readStream_append_of_ended (h : (readStream fs).2 ≠ .open)
    (f : ProviderFrame) : readStream (fs ++ [f]) = readStream fs := by
  rw [readStream_eq] at h
  rw [readStream_eq, flatMap_append, consume_append_of_ended h, ← readStream_eq]

theorem readStream_extends (fs : List ProviderFrame) (f : ProviderFrame) :
    (readStream fs).1 <+: (readStream (fs ++ [f])).1 := by
  by_cases h : (readStream fs).2 = .open
  · rw [readStream_append_of_open h]
    exact prefix_append _ _
  · rw [readStream_append_of_ended h]

variable {payload : WirePayload}

theorem firstResponse_append
    (h : firstResponse fs = some payload) (f : ProviderFrame) : firstResponse (fs ++ [f]) = some payload := by
  cases fs with
  | nil => cases h
  | cons g gs => exact h

/-! ### What a pending object holds -/

/-- The entries that a list of operations puts into the queue. -/
def putsOf (todo : List PendingAction) : List QueueItem :=
  todo.filterMap fun
    | .put x => some x
    | _ => none

theorem putsOf_readerActions (f : ProviderFrame) : putsOf (readerActions true f) = framePuts f := by
  unfold readerActions framePuts putsOf
  cases f.stream <;> cases f.result <;> cases f.done <;> rfl

/-- The queue of a stream, with what the reader is about to put there. -/
def expected (call : ChannelCall) (work : List PendingAction) : List WirePayload × StreamEnd :=
  consume (call.queue ++ putsOf work)

/-- The call has this outcome, or will have it when its `finally` is done. -/
def CallPhase.HasOutcome (phase : CallPhase) (o : CallOutcome) : Prop := phase = .ending o ∨ phase = .finished o

/-- The frames sent for a call account for an outcome of it. -/
def Justified (call : ChannelCall) : CallOutcome → Prop
  | .response payload => call.streaming = false → firstResponse call.answers = some payload
  | .exhausted => call.streaming = true → readStream call.answers = (call.yielded, .done)
  | .raised _ | .abandoned => True

/-- What holds of a request: whether it is registered, and what the reader still has to do for it. -/
structure RequestFits (call : ChannelCall) (registered : Prop) (work : List PendingAction) : Prop where
  response : ∀ payload, call.response = some payload → firstResponse call.answers = some payload
  coming : ∀ payload, .setResponse payload ∈ work → firstResponse call.answers = some payload
  fresh : registered → .pop ∉ work → call.answers = []
  returned : ∀ payload, call.phase.HasOutcome (.response payload) → firstResponse call.answers = some payload

/-- What holds of a stream. -/
structure StreamFits (call : ChannelCall) (registered : Prop) (work : List PendingAction) : Prop where
  received : call.yielded <+: (readStream call.answers).1
  coming : call.isLive = true → call.yielded ++ (expected call work).1 <+: (readStream call.answers).1
  done : call.isLive = true → (expected call work).2 = .done →
    readStream call.answers = (call.yielded ++ (expected call work).1, .done)
  unbroken : call.isLive = true → registered → .pop ∉ work →
    (expected call work).2 = .open ∧ readStream call.answers = (call.yielded ++ (expected call work).1, .open)
  exhausted : call.phase.HasOutcome .exhausted → readStream call.answers = (call.yielded, .done)

/-- **A pending object holds what the frames for its call say.** -/
def Content (call : ChannelCall) (registered : Prop) (work : List PendingAction) : Prop :=
  if call.streaming then StreamFits call registered work else RequestFits call registered work

/-! ### What each operation keeps of it -/

variable {action : PendingAction} {rest : List PendingAction}

section Local

variable {call : ChannelCall} {registered : Prop} {work : List PendingAction}

theorem content_iff_request (h : call.streaming = false) :
    Content call registered work ↔ RequestFits call registered work := by
  rw [Content, h]
  exact Iff.rfl

theorem content_iff_stream (h : call.streaming = true) :
    Content call registered work ↔ StreamFits call registered work := by
  rw [Content, h]
  exact Iff.rfl

theorem Content.map {call' : ChannelCall} {registered' : Prop} {work' : List PendingAction}
    (h : Content call registered work) (hs : call'.streaming = call.streaming)
    (hrequest : call.streaming = false → RequestFits call registered work → RequestFits call' registered' work')
    (hstream : call.streaming = true → StreamFits call registered work → StreamFits call' registered' work') :
    Content call' registered' work' := by
  cases hcall : call.streaming with
  | false => exact (content_iff_request (hs.trans hcall)).mpr (hrequest hcall ((content_iff_request hcall).mp h))
  | true => exact (content_iff_stream (hs.trans hcall)).mpr (hstream hcall ((content_iff_stream hcall).mp h))

theorem Content.mono {registered' : Prop} (h : Content call registered work) (hr : registered' → registered) :
    Content call registered' work :=
  h.map rfl (fun _ h => { h with fresh := fun hreg => h.fresh (hr hreg) })
    fun _ h => { h with unbroken := fun hlive hreg => h.unbroken hlive (hr hreg) }

theorem content_new (requestId messageType : String) (streaming : Bool) :
    Content { requestId, messageType, streaming } registered [] := by
  cases streaming with
  | false =>
    exact (content_iff_request rfl).mpr ⟨nofun, nofun, fun _ _ => rfl, fun _ h => h.elim nofun nofun⟩
  | true =>
    exact (content_iff_stream rfl).mpr ⟨prefix_rfl, fun _ => prefix_rfl, nofun,
      fun _ _ _ => ⟨rfl, rfl⟩, fun h => h.elim nofun nofun⟩

theorem Content.readerStep (hne : action ≠ .pop)
    (h : Content call registered (action :: rest)) : Content (action.apply call) registered rest := by
  have hpop : PendingAction.pop ∉ rest → PendingAction.pop ∉ action :: rest := by
    intro hrest hmem
    rcases mem_cons.mp hmem with heq | hmem
    · exact hne heq.symm
    · exact hrest hmem
  refine h.map (by cases action <;> rfl) (fun _ h => ?_) fun _ h => ?_
  · have hcoming : ∀ payload, .setResponse payload ∈ rest → firstResponse call.answers = some payload :=
      fun payload hmem => h.coming payload (mem_cons_of_mem _ hmem)
    have hfresh : registered → .pop ∉ rest → call.answers = [] := fun hreg hrest => h.fresh hreg (hpop hrest)
    cases action with
    | setResponse payload =>
      refine ⟨fun payload' heq => ?_, hcoming, hfresh, h.returned⟩
      cases heq
      exact h.coming payload mem_cons_self
    | pop => exact absurd rfl hne
    | _ => exact ⟨h.response, hcoming, hfresh, h.returned⟩
  · have hunbroken := fun hlive hreg hrest => h.unbroken hlive hreg (hpop hrest)
    cases action with
    | put x =>
      have hexpected : expected ((PendingAction.put x).apply call) rest = expected call (.put x :: rest) := by
        show consume (call.queue ++ [x] ++ putsOf rest) = consume (call.queue ++ (x :: putsOf rest))
        rw [append_assoc, singleton_append]
      refine ⟨h.received, ?_, ?_, ?_, h.exhausted⟩
      · rw [hexpected]
        exact h.coming
      · rw [hexpected]
        exact h.done
      · rw [hexpected]
        exact hunbroken
    | pop => exact absurd rfl hne
    | _ => exact ⟨h.received, h.coming, h.done, hunbroken, h.exhausted⟩

theorem Content.pop (h : Content call registered (.pop :: rest)) : Content call False rest :=
  h.map rfl (fun _ h => ⟨h.response, fun payload hmem => h.coming payload (mem_cons_of_mem _ hmem),
      fun hf => hf.elim, h.returned⟩)
    fun _ h => ⟨h.received, h.coming, h.done, fun _ hf => hf.elim, h.exhausted⟩

theorem Content.answered (h : Content call registered work) (hreg : ¬ registered) (f : ProviderFrame) :
    Content (call.addAnswer f) registered work := by
  refine h.map rfl (fun _ h => ?_) fun _ h => ?_
  · exact ⟨fun payload hp => firstResponse_append (h.response payload hp) f,
      fun payload hp => firstResponse_append (h.coming payload hp) f, fun hr => absurd hr hreg,
      fun payload hp => firstResponse_append (h.returned payload hp) f⟩
  · have hdone : ∀ items, readStream call.answers = (items, .done) →
        readStream (call.answers ++ [f]) = (items, .done) := by
      intro items hitems
      rw [readStream_append_of_ended (by rw [hitems]; nofun), hitems]
    exact ⟨h.received.trans (readStream_extends _ f), fun hlive => (h.coming hlive).trans (readStream_extends _ f),
      fun hlive hend => hdone _ (h.done hlive hend), fun _ hr => absurd hr hreg,
      fun hphase => hdone _ (h.exhausted hphase)⟩

theorem Content.read (h : Content call registered []) (hreg : registered) (f : ProviderFrame) :
    Content (call.addAnswer f) registered (readerActions call.streaming f) := by
  refine h.map rfl (fun hs h => ?_) fun hs h => ?_
  · have hnil : call.answers = [] := h.fresh hreg not_mem_nil
    refine ⟨fun payload hp => ?_, ?_, ?_, fun payload hp => firstResponse_append (h.returned payload hp) f⟩
    · have hfirst := h.response payload hp
      rw [hnil] at hfirst
      cases hfirst
    · intro payload hmem
      rw [show (call.addAnswer f).answers = [f] by rw [addAnswer, hnil]; rfl]
      unfold readerActions at hmem
      cases hstream : f.stream <;> cases hresult : f.result <;> simp_all [firstResponse]
    · intro _ hpop
      exfalso
      apply hpop
      unfold readerActions
      cases f.stream <;> cases f.result <;> simp [hs]
  · rw [hs]
    have hexpected : expected (call.addAnswer f) (readerActions true f) = consume (call.queue ++ framePuts f) := by
      rw [expected, putsOf_readerActions]
      rfl
    have hqueue : call.isLive = true → (consume call.queue).2 = .open ∧
        readStream call.answers = (call.yielded ++ (consume call.queue).1, .open) := by
      intro hlive
      have := h.unbroken hlive hreg not_mem_nil
      rwa [expected, show putsOf [] = [] from rfl, append_nil] at this
    have hall : call.isLive = true →
        readStream (call.answers ++ [f]) =
          (call.yielded ++ (consume (call.queue ++ framePuts f)).1, (consume (call.queue ++ framePuts f)).2) := by
      intro hlive
      obtain ⟨hopen, hitems⟩ := hqueue hlive
      rw [readStream_append_of_open (by rw [hitems]), consume_append_of_open hopen, hitems]
      simp
    refine ⟨h.received.trans (readStream_extends _ f), ?_, ?_, ?_, ?_⟩
    · intro hlive
      rw [hexpected]
      show call.yielded ++ _ <+: (readStream (call.answers ++ [f])).1
      rw [hall hlive]
    · intro hlive hend
      rw [hexpected] at hend ⊢
      show readStream (call.answers ++ [f]) = _
      rw [hall hlive, hend]
      rfl
    · intro hlive _ hpop
      rw [hexpected]
      show _ ∧ readStream (call.answers ++ [f]) = _
      have hopen : (consume (call.queue ++ framePuts f)).2 = .open := by
        rw [consume_append_of_open (hqueue hlive).1]
        unfold readerActions at hpop
        unfold framePuts
        cases hstream : f.stream <;> cases hresult : f.result <;> cases hdone : f.done <;>
          simp_all [consume]
      exact ⟨hopen, by rw [hall hlive, hopen]; rfl⟩
    · intro hphase
      have := h.exhausted hphase
      show readStream (call.answers ++ [f]) = _
      rw [readStream_append_of_ended (by rw [this]; nofun), this]
      rfl

/-- The call has found an end in its queue, or will look for one there. -/
def HeardEnd (call : ChannelCall) : Prop := call.isLive = true → (consume call.queue).2 ≠ .open

/-- What a `cancel` or a `close` may still do to a call: no response, no items, and `done` only after an error. -/
def SafeNotice (heard : Prop) : List PendingAction → Prop
  | [] => True
  | .setError _ :: rest => SafeNotice heard rest
  | .setEvent :: rest => SafeNotice heard rest
  | .put (.error _) :: rest => SafeNotice True rest
  | .put .done :: rest => heard ∧ SafeNotice heard rest
  | .put (.item _) :: _ | .setResponse _ :: _ | .pop :: _ => False

theorem SafeNotice.mono {heard heard' : Prop} (h : heard → heard') :
    ∀ {todo : List PendingAction}, SafeNotice heard todo → SafeNotice heard' todo
  | [], _ => trivial
  | .setError _ :: rest, hs => @SafeNotice.mono _ _ h rest hs
  | .setEvent :: rest, hs => @SafeNotice.mono _ _ h rest hs
  | .put (.error _) :: _, hs => hs
  | .put .done :: rest, hs => ⟨h hs.1, @SafeNotice.mono _ _ h rest hs.2⟩
  | .put (.item _) :: _, hs => hs.elim
  | .setResponse _ :: _, hs => hs.elim
  | .pop :: _, hs => hs.elim

theorem safeNotice_cancelActions (heard : Prop) (requestId : String) (streaming : Bool) :
    SafeNotice heard (cancelActions requestId streaming) := by
  cases streaming with
  | false => exact trivial
  | true => exact ⟨trivial, trivial⟩

theorem safeNotice_closeActions (heard : Prop) (nodeId : String) (streaming : Bool) :
    SafeNotice heard (closeActions nodeId streaming) := by
  cases streaming <;> exact trivial

/-- A mark at the end of a queue that has one, or an error: the items before it are the same, and a stream that
ends well had ended so before. -/
theorem expected_put {x : QueueItem} (h : (consume call.queue).2 ≠ .open ∨ ∃ e, x = .error e) :
    (expected ((PendingAction.put x).apply call) work).1 <+: (expected call work).1 ∧
      ((expected ((PendingAction.put x).apply call) work).2 = .done →
        expected ((PendingAction.put x).apply call) work = expected call work) := by
  show (consume (call.queue ++ [x] ++ putsOf work)).1 <+: (consume (call.queue ++ putsOf work)).1 ∧
    ((consume (call.queue ++ [x] ++ putsOf work)).2 = .done →
      consume (call.queue ++ [x] ++ putsOf work) = consume (call.queue ++ putsOf work))
  rw [append_assoc]
  by_cases hend : (consume call.queue).2 = .open
  · obtain ⟨e, rfl⟩ := h.resolve_left (not_not.mpr hend)
    rw [consume_append_of_open hend, consume_append_of_open hend]
    refine ⟨?_, nofun⟩
    show (consume call.queue).1 ++ [] <+: _
    rw [append_nil]
    exact prefix_append _ _
  · rw [consume_append_of_ended hend, consume_append_of_ended hend]
    exact ⟨prefix_rfl, fun _ => rfl⟩

/-- An operation of a `cancel` or a `close`. -/
theorem Content.notice (h : Content call False work)
    (hsafe : SafeNotice (HeardEnd call) (action :: rest)) : Content (action.apply call) False work := by
  refine h.map (by cases action <;> rfl) (fun _ h => ?_) fun _ h => ?_
  · cases action with
    | setResponse payload | pop => exact hsafe.elim
    | _ => exact ⟨h.response, h.coming, h.fresh, h.returned⟩
  · cases action with
    | setResponse payload => exact hsafe.elim
    | put x =>
      have hput : call.isLive = true → (consume call.queue).2 ≠ .open ∨ ∃ e, x = .error e := by
        intro hlive
        cases x with
        | item payload => exact hsafe.elim
        | error e => exact .inr ⟨e, rfl⟩
        | done => exact .inl (hsafe.1 hlive)
      refine ⟨h.received, fun hlive => ?_, fun hlive hend => ?_, fun _ hf => hf.elim, h.exhausted⟩
      · have hprefix := ((@expected_put _ work) (hput hlive)).1
        exact ((prefix_append_right_inj call.yielded).mpr hprefix).trans (h.coming hlive)
      · have hsame := ((@expected_put _ work) (hput hlive)).2 hend
        rw [hsame] at hend ⊢
        exact h.done hlive hend
    | pop => exact hsafe.elim
    | _ => exact ⟨h.received, h.coming, h.done, fun _ hf => hf.elim, h.exhausted⟩

theorem SafeNotice.tail
    (hsafe : SafeNotice (HeardEnd call) (action :: rest)) : SafeNotice (HeardEnd (action.apply call)) rest := by
  cases action with
  | setResponse payload => exact hsafe.elim
  | setError e => exact hsafe
  | setEvent => exact hsafe
  | pop => exact hsafe.elim
  | put x =>
    have hheard : (consume call.queue).2 ≠ .open ∨ (∃ e, x = .error e) ∨ x = .done →
        HeardEnd ((PendingAction.put x).apply call) := by
      intro hx _
      show (consume (call.queue ++ [x])).2 ≠ .open
      by_cases hend : (consume call.queue).2 = .open
      · rw [consume_append_of_open hend]
        rcases hx.resolve_left (not_not.mpr hend) with ⟨e, rfl⟩ | rfl <;> nofun
      · rw [consume_append_of_ended hend]
        exact hend
    cases x with
    | item payload => exact hsafe.elim
    | error e => exact SafeNotice.mono (fun _ => hheard (.inr (.inl ⟨e, rfl⟩))) hsafe
    | done => exact hsafe.2.mono fun _ => hheard (.inr (.inr rfl))

theorem Content.sent (h : Content call registered work) (hlive : call.isLive = true) :
    Content { call with phase := .sent } registered work :=
  h.map rfl (fun _ h => ⟨h.response, h.coming, h.fresh, fun _ hp => hp.elim nofun nofun⟩)
    fun _ h => ⟨h.received, fun _ => h.coming hlive, fun _ => h.done hlive, fun _ => h.unbroken hlive,
      fun hp => hp.elim nofun nofun⟩

theorem CallPhase.HasOutcome.not_live {o : CallOutcome} (h : call.phase.HasOutcome o) : call.isLive ≠ true := by
  rcases h with h | h <;> rw [isLive, h] <;> nofun

theorem CallPhase.HasOutcome.unique {phase : CallPhase} {o o' : CallOutcome} (h : phase.HasOutcome o)
    (h' : phase.HasOutcome o') : o = o' := by
  rcases h with rfl | rfl <;> rcases h' with h' | h' <;> cases h' <;> rfl

theorem Content.quit {phase : CallPhase} {queue : List QueueItem} {o : CallOutcome}
    (h : Content call registered work) (ho : phase.HasOutcome o) (houtcome : Justified call o) :
    Content { call with queue, phase } registered work := by
  have hdead : ({ call with queue, phase } : ChannelCall).isLive ≠ true := ho.not_live
  refine h.map rfl (fun hs h => ⟨h.response, h.coming, h.fresh, fun payload hp => ?_⟩) fun hs h =>
    ⟨h.received, fun hl => absurd hl hdead, fun hl => absurd hl hdead, fun hl => absurd hl hdead, fun hp => ?_⟩
  · obtain rfl := ho.unique hp
    exact houtcome hs
  · obtain rfl := ho.unique hp
    exact houtcome hs

theorem Content.nextItem {rest : List QueueItem} (h : Content call registered work)
    (hs : call.streaming = true) (hlive : call.isLive = true) (hqueue : call.queue = .item payload :: rest) :
    Content { call with queue := rest, yielded := call.yielded ++ [payload] } registered work := by
  rw [content_iff_stream hs] at h
  have hexp : expected call work
      = (payload :: (expected { call with queue := rest, yielded := call.yielded ++ [payload] } work).1,
        (expected { call with queue := rest, yielded := call.yielded ++ [payload] } work).2) := by
    rw [expected, hqueue, expected]
    rfl
  have hsplit : ∀ items : List WirePayload, call.yielded ++ [payload] ++ items = call.yielded ++ payload :: items := by
    intro items
    rw [append_assoc, singleton_append]
  have hcoming := h.coming hlive
  have hdone := h.done hlive
  have hunbroken := h.unbroken hlive
  rw [hexp] at hcoming hdone hunbroken
  refine (content_iff_stream (by exact hs)).mpr ⟨?_, fun _ => ?_, fun _ hend => ?_, fun _ hreg hpop => ?_,
    fun hphase => absurd hlive (@CallPhase.HasOutcome.not_live call _ hphase)⟩
  · refine List.IsPrefix.trans ?_ hcoming
    show call.yielded ++ [payload] <+: _
    rw [prefix_append_right_inj]
    exact ⟨_, rfl⟩
  · show call.yielded ++ [payload] ++ _ <+: _
    rw [hsplit]
    exact hcoming
  · show readStream call.answers = (call.yielded ++ [payload] ++ _, _)
    rw [hsplit]
    exact hdone hend
  · show _ ∧ readStream call.answers = (call.yielded ++ [payload] ++ _, _)
    rw [hsplit]
    exact hunbroken hreg hpop

end Local

theorem Content.justified {call : ChannelCall} {registered : Prop} {work : List PendingAction} {o : CallOutcome}
    (h : Content call registered work) (ho : call.phase.HasOutcome o) : Justified call o := by
  cases o with
  | response payload => exact fun hs => ((content_iff_request hs).mp h).returned payload ho
  | exhausted => exact fun hs => ((content_iff_stream hs).mp h).exhausted ho
  | raised e => exact trivial
  | abandoned => exact trivial

/-! ### The invariant -/

namespace Channel

/-- The call is in the map. -/
def Registered (s : Channel) (c : ℕ) : Prop := ∃ requestId, s.pending.get? requestId = some c

/-- What the reader still has to do for a call. -/
def work (s : Channel) (c : ℕ) : List PendingAction :=
  match s.reader with
  | none => []
  | some r => if r.target = c then r.todo else []

/-- Once the event of a call is set, its registration is no longer touched. -/
def EventLast (todo : List PendingAction) : Prop :=
  ∀ before after, todo = before ++ .setEvent :: after → .pop ∉ after

/-- What holds of the frame in the hands of the reader. -/
structure ReadingFits (s : Channel) (r : Reading) : Prop where
  target : ∃ call, s.calls[r.target]? = some call ∧ call.requestId = r.correlationId
  only : ∀ c call, s.calls[c]? = some call → call.isOpen = true → call.requestId = r.correlationId → c = r.target
  eventLast : EventLast r.todo
  popped : .setEvent ∈ r.todo → .pop ∉ r.todo → ¬ s.Registered r.target

/-- **The invariant of a connection.** -/
structure Sound (s : Channel) : Prop where
  registered : ∀ requestId c, s.pending.get? requestId = some c →
    ∃ call, s.calls[c]? = some call ∧ call.requestId = requestId ∧ call.isOpen = true
  distinct : ∀ {c d : ℕ} {a b : ChannelCall}, s.calls[c]? = some a → s.calls[d]? = some b →
    a.isOpen = true → b.isOpen = true → a.requestId = b.requestId → c = d
  reading : ∀ r, s.reader = some r → s.ReadingFits r
  signalled : ∀ c call, s.calls[c]? = some call → call.event = true → ¬ s.Registered c
  noticed : ∀ n ∈ s.notices, ¬ s.Registered n.target ∧
    ∃ call, s.calls[n.target]? = some call ∧ SafeNotice (HeardEnd call) n.todo
  content : ∀ c call, s.calls[c]? = some call → Content call (s.Registered c) (s.work c)

theorem sound_opened (nodeId : String) : (opened nodeId).Sound where
  registered _ _ h := by cases h
  distinct h := by cases h
  reading _ h := by cases h
  signalled _ _ h := by cases h
  noticed _ h := by cases h
  content _ _ h := by cases h

variable {s s' : Channel}

variable {requestId : String}

theorem Registered.mono {c : ℕ} (h : ∀ requestId d, s'.pending.get? requestId = some d →
    s.pending.get? requestId = some d) (hc : s'.Registered c) : s.Registered c :=
  ⟨hc.choose, h _ _ hc.choose_spec⟩

theorem Sound.not_registered_pop (hs : s.Sound) {c : ℕ} {call : ChannelCall} (hc : s.calls[c]? = some call) :
    ¬ (s.pop call.requestId).Registered c := by
  rintro ⟨requestId, hget⟩
  rw [pop, Dict.get?_erase] at hget
  split at hget
  · cases hget
  · next hne =>
    obtain ⟨call', hc', hid, -⟩ := hs.registered requestId c hget
    rw [hc] at hc'
    cases hc'
    exact hne hid.symm

theorem get?_pop {requestId' : String} {c : ℕ}
    (h : (s.pop requestId).pending.get? requestId' = some c) : s.pending.get? requestId' = some c := by
  rw [pop] at h
  obtain ⟨-, h⟩ := Dict.get?_erase_eq_some.mp h
  exact h

theorem Sound.forget {pending : Dict String ℕ} (hs : s.Sound)
    (h : ∀ requestId c, pending.get? requestId = some c → s.pending.get? requestId = some c) :
    Sound { s with pending } where
  registered requestId c hget := hs.registered requestId c (h _ _ hget)
  distinct := hs.distinct
  reading r hr :=
    { hs.reading r hr with popped := fun he hp hreg => (hs.reading r hr).popped he hp (Registered.mono h hreg) }
  signalled c call hc hevent hreg := hs.signalled c call hc hevent (Registered.mono h hreg)
  noticed n hn := ⟨fun hreg => (hs.noticed n hn).1 (Registered.mono h hreg), (hs.noticed n hn).2⟩
  content c call hc := (hs.content c call hc).mono (Registered.mono h)

theorem Sound.withNotices {notices : List Notice} (hs : s.Sound) (h : ∀ n ∈ notices, ¬ s.Registered n.target ∧
      ∃ call, s.calls[n.target]? = some call ∧ SafeNotice (HeardEnd call) n.todo) :
    Sound { s with notices } :=
  ⟨hs.registered, hs.distinct, fun r hr => { hs.reading r hr with }, hs.signalled, h, hs.content⟩

variable {d : ℕ} {b : ChannelCall}

theorem getElem?_modify_eq_some {calls : List ChannelCall} {c : ℕ} {f : ChannelCall → ChannelCall}
    (h : (calls.modify c f)[d]? = some b) :
    (d = c ∧ ∃ a, calls[c]? = some a ∧ f a = b) ∨ (d ≠ c ∧ calls[d]? = some b) := by
  rw [getElem?_modify] at h
  by_cases hcd : c = d
  · subst hcd
    obtain ⟨a, ha, hfa⟩ := Option.map_eq_some_iff.mp h
    exact .inl ⟨rfl, a, ha, by simpa using hfa⟩
  · obtain ⟨a, ha, hfa⟩ := Option.map_eq_some_iff.mp h
    rw [if_neg hcd] at hfa
    exact .inr ⟨Ne.symm hcd, hfa ▸ ha⟩

/-- What a step on one call must keep of it. -/
structure Keeps (s' : Channel) (c : ℕ) (call call' : ChannelCall) : Prop where
  requestId : call'.requestId = call.requestId
  isOpen : call'.isOpen = true → call.isOpen = true
  registered : s'.Registered c → call'.isOpen = true
  event : call'.event = true → ¬ s'.Registered c
  heard : HeardEnd call → HeardEnd call'
  content : Content call' (s'.Registered c) (s'.work c)

/-- How the reader may move on. -/
def ReaderFrom (s s' : Channel) : Prop :=
  ∀ r', s'.reader = some r' → ∃ r, s.reader = some r ∧ r'.target = r.target ∧
    r'.correlationId = r.correlationId ∧ r'.todo <:+ r.todo ∧
    (.setEvent ∈ r'.todo → .pop ∉ r'.todo → ¬ s'.Registered r'.target)

section Update

variable {c : ℕ} {call : ChannelCall} {f : ChannelCall → ChannelCall} (hc : s.calls[c]? = some call)
  (hcalls : s'.calls = s.calls.modify c f) (hkeep : Keeps s' c call (f call))

include hc hcalls in
theorem get_update (hd : s'.calls[d]? = some b) : (d = c ∧ f call = b) ∨ (d ≠ c ∧ s.calls[d]? = some b) := by
  rw [hcalls] at hd
  rcases getElem?_modify_eq_some hd with ⟨rfl, a, ha, hfa⟩ | hother
  · rw [hc] at ha
    cases ha
    exact .inl ⟨rfl, hfa⟩
  · exact .inr hother

include hc hcalls in
theorem get_update_self : s'.calls[c]? = some (f call) := by
  rw [hcalls, getElem?_modify, hc]
  simp

include hcalls in
theorem get_update_of_ne (hd : s.calls[d]? = some b) (hne : d ≠ c) : s'.calls[d]? = some b := by
  rw [hcalls, getElem?_modify, hd]
  simp [Ne.symm hne]

include hc hcalls hkeep in
theorem before_update (hd : s'.calls[d]? = some b) :
    ∃ a : ChannelCall, s.calls[d]? = some a ∧ b.requestId = a.requestId ∧ (b.isOpen = true → a.isOpen = true) := by
  rcases get_update hc hcalls hd with ⟨rfl, rfl⟩ | ⟨_, hd⟩
  · exact ⟨call, hc, hkeep.requestId, hkeep.isOpen⟩
  · exact ⟨b, hd, rfl, id⟩

include hc hcalls hkeep in
theorem after_update {a : ChannelCall} (hd : s.calls[d]? = some a) :
    ∃ b : ChannelCall, s'.calls[d]? = some b ∧ b.requestId = a.requestId := by
  by_cases hdc : d = c
  · subst hdc
    rw [hc] at hd
    cases hd
    exact ⟨f call, get_update_self hc hcalls, hkeep.requestId⟩
  · exact ⟨a, get_update_of_ne hcalls hd hdc, rfl⟩

include hc hcalls hkeep in
/-- **A step on one call keeps the invariant**, if the frame in the hands of the reader fits. -/
theorem Sound.update_of_reading (hs : s.Sound) (hnotices : s'.notices = s.notices)
    (hpending : ∀ requestId d, s'.pending.get? requestId = some d → s.pending.get? requestId = some d)
    (hreading : ∀ r, s'.reader = some r → s'.ReadingFits r) (hwork : ∀ d, d ≠ c → s'.work d = s.work d) :
    s'.Sound := by
  refine ⟨?_, ?_, hreading, ?_, ?_, ?_⟩
  · intro requestId d hd
    obtain ⟨a, ha, hid, hopen⟩ := hs.registered requestId d (hpending _ _ hd)
    by_cases hdc : d = c
    · subst hdc
      rw [hc] at ha
      cases ha
      exact ⟨f call, get_update_self hc hcalls, hkeep.requestId.trans hid, hkeep.registered ⟨requestId, hd⟩⟩
    · exact ⟨a, get_update_of_ne hcalls ha hdc, hid, hopen⟩
  · intro d e b b' hd he hb hb' hid
    obtain ⟨a, ha, hida, hopena⟩ := before_update hc hcalls hkeep hd
    obtain ⟨a', ha', hida', hopena'⟩ := before_update hc hcalls hkeep he
    exact hs.distinct ha ha' (hopena hb) (hopena' hb') (by rw [← hida, ← hida', hid])
  · intro d b hd hevent
    rcases get_update hc hcalls hd with ⟨rfl, rfl⟩ | ⟨_, hd⟩
    · exact hkeep.event hevent
    · exact fun hreg => hs.signalled d b hd hevent (hreg.mono hpending)
  · intro n hn
    rw [hnotices] at hn
    obtain ⟨hnot, a, ha, hsafe⟩ := hs.noticed n hn
    refine ⟨fun hreg => hnot (hreg.mono hpending), ?_⟩
    by_cases hdc : n.target = c
    · rw [hdc] at ha ⊢
      rw [hc] at ha
      cases ha
      exact ⟨f call, get_update_self hc hcalls, hsafe.mono hkeep.heard⟩
    · exact ⟨a, get_update_of_ne hcalls ha hdc, hsafe⟩
  · intro d b hd
    rcases get_update hc hcalls hd with ⟨rfl, rfl⟩ | ⟨hne, hd⟩
    · exact hkeep.content
    · rw [hwork d hne]
      exact (hs.content d b hd).mono (Registered.mono hpending)

include hc hcalls hkeep in
theorem Sound.update (hs : s.Sound) (hnotices : s'.notices = s.notices)
    (hpending : ∀ requestId d, s'.pending.get? requestId = some d → s.pending.get? requestId = some d)
    (hreader : ReaderFrom s s') (hwork : ∀ d, d ≠ c → s'.work d = s.work d) : s'.Sound := by
  refine hs.update_of_reading hc hcalls hkeep hnotices hpending (fun r' hr' => ?_) hwork
  obtain ⟨r, hr, htarget, hcorrelation, hsuffix, hpopped⟩ := hreader r' hr'
  have hfits := hs.reading r hr
  refine ⟨?_, ?_, ?_, hpopped⟩
  · obtain ⟨a, ha, hid⟩ := hfits.target
    obtain ⟨b, hb, hida⟩ := after_update hc hcalls hkeep ha
    rw [htarget, hcorrelation]
    exact ⟨b, hb, hida.trans hid⟩
  · intro d b hd hb hid
    obtain ⟨a, ha, hida, hopena⟩ := before_update hc hcalls hkeep hd
    rw [htarget]
    exact hfits.only d a ha (hopena hb) (by rw [← hida, hid, hcorrelation])
  · intro before after heq
    obtain ⟨first, hfirst⟩ := hsuffix
    exact hfits.eventLast (first ++ before) after (by rw [← hfirst, heq, append_assoc])

end Update

theorem readerFrom_of_eq (hs : s.Sound) (hreader : s'.reader = s.reader)
    (hpending : ∀ requestId d, s'.pending.get? requestId = some d → s.pending.get? requestId = some d) :
    ReaderFrom s s' := by
  intro r hr
  rw [hreader] at hr
  exact ⟨r, hr, rfl, rfl, suffix_rfl, fun he hp hreg => (hs.reading r hr).popped he hp (hreg.mono hpending)⟩

theorem work_of_eq (hreader : s'.reader = s.reader) (d : ℕ) : s'.work d = s.work d := by
  rw [work, hreader, work]

/-! ### The steps -/

section

variable (hs : s.Sound) {c : ℕ} {call : ChannelCall}
include hs

theorem Sound.sent (hc : s.calls[c]? = some call)
    (hphase : call.phase = .registered) : (s.setPhase c .sent).Sound := by
  have hlive : call.isLive = true := by rw [isLive, hphase]
  have hopen : call.isOpen = true := by rw [isOpen, hphase]
  refine hs.update (c := c) hc rfl ?_ rfl (fun _ _ h => h) (readerFrom_of_eq hs rfl fun _ _ h => h)
    fun d _ => work_of_eq rfl d
  exact ⟨rfl, fun _ => hopen, fun _ => rfl, hs.signalled c call hc, fun h _ => h hlive,
    (hs.content c call hc).sent hlive⟩

theorem Sound.quit {f : ChannelCall → ChannelCall}
    {queue : List QueueItem} {phase : CallPhase} {o : CallOutcome} {pending : Dict String ℕ}
    (hc : s.calls[c]? = some call) (hf : f call = { call with queue, phase }) (hopen : call.isOpen = true)
    (hpending : ∀ requestId d, pending.get? requestId = some d → s.pending.get? requestId = some d)
    (ho : phase.HasOutcome o) (hregistered : Registered { s with pending } c → phase = .ending o)
    (houtcome : Justified call o) : (modifyCall { s with pending } c f).Sound := by
  refine hs.update (c := c) hc rfl ?_ rfl hpending (readerFrom_of_eq hs rfl hpending) fun d _ => work_of_eq rfl d
  rw [hf]
  refine ⟨rfl, fun _ => hopen, fun hreg => ?_, fun hevent hreg => hs.signalled c call hc hevent (hreg.mono hpending),
    fun _ hl => absurd hl ho.not_live, ((hs.content c call hc).mono (Registered.mono hpending)).quit ho houtcome⟩
  rw [isOpen, hregistered hreg]

theorem Sound.ending {f : ChannelCall → ChannelCall}
    {queue : List QueueItem} {o : CallOutcome} (hc : s.calls[c]? = some call) (hopen : call.isOpen = true)
    (hf : f call = { call with queue, phase := .ending o }) (houtcome : Justified call o) : (s.modifyCall c f).Sound :=
  (@Sound.quit _ hs _ _ _ _ _ _ s.pending) hc hf hopen (fun _ _ h => h) (.inl rfl) (fun _ => rfl) houtcome

theorem Sound.quitPop {phase : CallPhase} {o : CallOutcome}
    (hc : s.calls[c]? = some call) (hopen : call.isOpen = true) (ho : phase.HasOutcome o)
    (houtcome : Justified call o) : ((s.pop call.requestId).setPhase c phase).Sound :=
  hs.quit hc rfl hopen (fun _ _ => get?_pop) ho (fun hreg => absurd hreg (hs.not_registered_pop hc)) houtcome

end

theorem justified_answer {call : ChannelCall} {registered : Prop} {work : List PendingAction}
    (h : RequestFits call registered work) : Justified call (answer call) := by
  unfold answer
  split
  · exact trivial
  · next payload _ hresponse => exact fun _ => h.response payload hresponse
  · exact trivial

section

variable (hs : s.Sound) {c : ℕ} {call : ChannelCall} (hc : s.calls[c]? = some call) (hphase : call.phase = .sent)
include hs hc hphase

theorem Sound.wake (hevent : call.event = true) (hstreaming : call.streaming = false) :
    (s.setPhase c (.finished (answer call))).Sound := by
  have hopen : call.isOpen = true := by rw [isOpen, hphase]
  have hcontent := (content_iff_request hstreaming).mp (hs.content c call hc)
  exact (@Sound.quit _ hs _ _ _ _ _ _ s.pending) hc rfl hopen (fun _ _ h => h) (.inr rfl)
    (fun hreg => absurd hreg (hs.signalled c call hc hevent)) (justified_answer hcontent)

theorem Sound.timeout (e : ChannelExn) : ((s.pop call.requestId).setPhase c
      (if call.streaming then .ending (.raised e) else .finished (.raised e))).Sound := by
  have hopen : call.isOpen = true := by rw [isOpen, hphase]
  refine hs.quitPop (o := .raised e) hc hopen ?_ trivial
  cases call.streaming with
  | false => exact .inr rfl
  | true => exact .inl rfl

theorem Sound.next (hstreaming : call.streaming = true) : (s.next c call).Sound := by
  have hopen : call.isOpen = true := by rw [isOpen, hphase]
  have hlive : call.isLive = true := by rw [isLive, hphase]
  unfold Channel.next
  cases hqueue : call.queue with
  | nil => exact hs
  | cons x rest =>
    cases x with
    | item payload =>
      refine hs.update (c := c) hc rfl ?_ rfl (fun _ _ h => h) (readerFrom_of_eq hs rfl fun _ _ h => h)
        fun d _ => work_of_eq rfl d
      refine ⟨rfl, fun _ => hopen, fun _ => hopen, hs.signalled c call hc, fun h hl => ?_,
        (hs.content c call hc).nextItem hstreaming hlive hqueue⟩
      have := h hlive
      rw [hqueue] at this
      exact this
    | error e => exact hs.ending (o := .raised e) hc hopen rfl trivial
    | done =>
      refine hs.ending (o := .exhausted) hc hopen rfl fun _ => ?_
      have hexpected : expected call (s.work c) = ([], .done) := by
        rw [expected, hqueue]
        rfl
      have hdone := ((content_iff_stream hstreaming).mp (hs.content c call hc)).done hlive (by rw [hexpected])
      rwa [hexpected, append_nil] at hdone

theorem Sound.abandon : (s.setPhase c (.ending .abandoned)).Sound :=
  hs.ending (o := .abandoned) hc (by rw [isOpen, hphase]) rfl trivial

end

theorem Sound.sendFailed (hs : s.Sound) {c : ℕ} {call : ChannelCall} (hc : s.calls[c]? = some call)
    (hphase : call.phase = .registered) (e : ChannelExn) :
    ((s.pop call.requestId).setPhase c (.finished (.raised e))).Sound :=
  hs.quitPop (o := .raised e) hc (by rw [isOpen, hphase]) (.inr rfl) trivial

theorem Sound.finish (hs : s.Sound) {c : ℕ} {call : ChannelCall} {outcome : CallOutcome}
    (hc : s.calls[c]? = some call) (hphase : call.phase = .ending outcome) :
    ((s.pop call.requestId).setPhase c (.finished outcome)).Sound :=
  hs.quitPop hc (by rw [isOpen, hphase]) (.inr rfl) ((hs.content c call hc).justified (.inl hphase))

variable {r : Reading}

theorem work_target (hr : s.reader = some r) : s.work r.target = r.todo := by
  rw [work, hr]
  exact if_pos rfl

theorem work_of_ne (hr : s.reader = some r) (hd : d ≠ r.target) : s.work d = [] := by
  rw [work, hr]
  exact if_neg (Ne.symm hd)

theorem heardEnd_apply {call : ChannelCall} (action : PendingAction) (h : HeardEnd call) :
    HeardEnd (action.apply call) := by
  cases action with
  | put x =>
    intro hlive
    show (consume (call.queue ++ [x])).2 ≠ .open
    rw [consume_append_of_ended (h hlive)]
    exact h hlive
  | _ => exact h

theorem requestId_apply (action : PendingAction) (call : ChannelCall) :
    (action.apply call).requestId = call.requestId := by
  cases action <;> rfl

theorem isOpen_apply (action : PendingAction) (call : ChannelCall) : (action.apply call).isOpen = call.isOpen := by
  cases action <;> rfl

theorem event_of_apply {call : ChannelCall} (h : (action.apply call).event = true) :
    action = .setEvent ∨ call.event = true := by
  cases action with
  | setEvent => exact .inl rfl
  | _ => exact .inr h

theorem Sound.isOpen_of_registered (hs : s.Sound) {c : ℕ} {call : ChannelCall} (hc : s.calls[c]? = some call)
    (hreg : s.Registered c) : call.isOpen = true := by
  obtain ⟨requestId, hget⟩ := hreg
  obtain ⟨call', hc', -, hopen⟩ := hs.registered requestId c hget
  rw [hc] at hc'
  cases hc'
  exact hopen

theorem ReadingFits.popped_tail (hfits : s.ReadingFits r) (htodo : r.todo = action :: rest) (hne : action ≠ .pop)
    (hevent : .setEvent ∈ rest) (hpop : .pop ∉ rest) : ¬ s.Registered r.target := by
  apply hfits.popped
  · rw [htodo]
    exact mem_cons_of_mem _ hevent
  · rw [htodo]
    intro hmem
    rcases mem_cons.mp hmem with heq | hmem
    · exact hne heq.symm
    · exact hpop hmem

theorem ReadingFits.not_registered_of_event (hfits : s.ReadingFits r) (hs : s.Sound)
    {call : ChannelCall} (hc : s.calls[r.target]? = some call)
    (htodo : r.todo = action :: rest)
    (hevent : (action.apply call).event = true) : ¬ s.Registered r.target := by
  rcases event_of_apply hevent with rfl | hset
  · apply hfits.popped
    · rw [htodo]
      exact mem_cons_self
    · rw [htodo]
      intro hmem
      rcases mem_cons.mp hmem with heq | hmem
      · cases heq
      · exact hfits.eventLast [] rest (by rw [htodo]; rfl) hmem
  · exact hs.signalled r.target call hc hset

theorem readerAction_of_ne_pop (h : action ≠ .pop) :
    s.readerAction r action = s.modifyCall r.target fun call => action.apply call := by
  cases action with
  | pop => exact absurd rfl h
  | _ => rfl

section

variable (hs : s.Sound)
include hs

theorem Sound.readerDone (hr : s.reader = some r) (htodo : r.todo = []) : Sound { s with reader := none } := by
  refine ⟨hs.registered, hs.distinct, fun _ h => (by cases h), hs.signalled, hs.noticed, fun c call hc => ?_⟩
  have hwork : s.work c = [] := by
    rw [work, hr]
    show (if r.target = c then r.todo else []) = []
    rw [htodo, ite_self]
  have hcontent := hs.content c call hc
  rw [hwork] at hcontent
  exact hcontent

theorem Sound.readerStep (hr : s.reader = some r) : (s.readerStep r).Sound := by
  have hfits := hs.reading r hr
  obtain ⟨call, hc, hid⟩ := hfits.target
  unfold Channel.readerStep
  cases htodo : r.todo with
  | nil => exact hs.readerDone hr htodo
  | cons action rest =>
    have hcontent := hs.content r.target call hc
    rw [work_target hr, htodo] at hcontent
    by_cases hpop : action = .pop
    · subst hpop
      -- the registration that goes is the one of the call the frame is for
      have hgone : ¬ (s.pop r.correlationId).Registered r.target := by
        rw [← hid]
        exact hs.not_registered_pop hc
      refine hs.update (f := id) hc (modify_id _ _).symm ?_ rfl (fun _ _ => get?_pop) ?_ ?_
      · refine ⟨rfl, id, fun hreg => absurd hreg hgone, fun _ => hgone, id, ?_⟩
        rw [show work { s.readerAction r .pop with reader := some { r with todo := rest } } r.target = rest from
          if_pos rfl]
        exact hcontent.pop.mono hgone
      · intro r' hr'
        cases hr'
        exact ⟨r, hr, rfl, rfl, by rw [htodo]; exact suffix_cons _ _, fun _ _ => hgone⟩
      · intro d hd
        rw [work_of_ne hr hd]
        exact if_neg (Ne.symm hd)
    · show Sound { s.readerAction r action with reader := some { r with todo := rest } }
      rw [readerAction_of_ne_pop hpop]
      refine hs.update hc rfl ?_ rfl (fun _ _ h => h) ?_ ?_
      · refine ⟨requestId_apply action call, fun h => by rwa [isOpen_apply] at h, fun hreg => ?_, fun hevent => ?_,
          heardEnd_apply action, ?_⟩
        · rw [isOpen_apply]
          exact hs.isOpen_of_registered hc hreg
        · exact hfits.not_registered_of_event hs hc htodo hevent
        · rw [show work { s.modifyCall r.target fun call => action.apply call with
              reader := some { r with todo := rest } } r.target = rest from if_pos rfl]
          exact hcontent.readerStep hpop
      · intro r' hr'
        cases hr'
        refine ⟨r, hr, rfl, rfl, by rw [htodo]; exact suffix_cons _ _, fun hevent hnot => ?_⟩
        exact hfits.popped_tail htodo hpop hevent hnot
      · intro d hd
        rw [work_of_ne hr hd]
        exact if_neg (Ne.symm hd)

theorem Sound.noticeStep {i : ℕ} {n : Notice} (hn : s.notices[i]? = some n) : (s.noticeStep i n).Sound := by
  obtain ⟨hnot, call, hc, hsafe⟩ := hs.noticed n (mem_of_getElem? hn)
  unfold Channel.noticeStep
  cases htodo : n.todo with
  | nil => exact hs
  | cons action rest =>
    rw [htodo] at hsafe
    have hcontent : Content call False (s.work n.target) := (hs.content n.target call hc).mono False.elim
    have happly : (s.modifyCall n.target fun call => action.apply call).Sound := by
      refine hs.update (c := n.target) hc rfl ?_ rfl (fun _ _ h => h) (readerFrom_of_eq hs rfl fun _ _ h => h)
        fun d _ => work_of_eq rfl d
      exact ⟨requestId_apply action call, fun h => by rwa [isOpen_apply] at h, fun hreg => absurd hreg hnot,
        fun _ => hnot, heardEnd_apply action, (hcontent.notice hsafe).mono hnot⟩
    refine happly.withNotices fun m hm => ?_
    rcases mem_or_eq_of_mem_set hm with hold | rfl
    · exact happly.noticed m hold
    · refine ⟨hnot, action.apply call, ?_, hsafe.tail⟩
      show (s.calls.modify n.target _)[n.target]? = _
      rw [getElem?_modify, hc]
      simp

theorem Sound.cancel (requestId : String) : (s.cancel requestId).Sound := by
  unfold Channel.cancel
  cases hget : s.pending.get? requestId with
  | none => exact hs
  | some target =>
    obtain ⟨call, hc, hid, -⟩ := hs.registered requestId target hget
    show Sound (s.onCall target _)
    rw [onCall, hc]
    have hpop : (s.pop requestId).Sound := hs.forget fun _ _ => get?_pop
    refine hpop.withNotices fun n hn => ?_
    rcases mem_append.mp hn with hold | hnew
    · exact hpop.noticed n hold
    · obtain rfl := mem_singleton.mp hnew
      refine ⟨?_, call, hc, safeNotice_cancelActions _ _ _⟩
      rw [← hid]
      exact hs.not_registered_pop hc

theorem Sound.close : s.close.Sound := by
  have hforget : Sound { s with pending := .empty } := hs.forget fun _ _ h => by cases h
  refine hforget.withNotices fun n hn => ?_
  rcases mem_append.mp hn with hold | hnew
  · exact hforget.noticed n hold
  · obtain ⟨target, hmem, rfl⟩ := mem_map.mp hnew
    obtain ⟨requestId, hget⟩ := (Dict.mem_values_iff _ _).mp hmem
    obtain ⟨call, hc, -⟩ := hs.registered requestId target hget
    exact ⟨fun ⟨_, h⟩ => (by cases h), call, hc, safeNotice_closeActions _ _ _⟩

theorem Sound.start {requestId messageType : String} {streaming : Bool}
    (hfree : ∀ (c : ℕ) (call : ChannelCall), s.calls[c]? = some call → call.isOpen = true → call.requestId ≠ requestId)
    (hreader : ∀ r, s.reader = some r → r.correlationId ≠ requestId) :
    (s.start requestId messageType streaming).Sound := by
  have hget : ∀ {c : ℕ} {call : ChannelCall}, (s.start requestId messageType streaming).calls[c]? = some call ↔
      s.calls[c]? = some call ∨ (c = s.calls.length ∧ call = { requestId, messageType, streaming }) := by
    intro c call
    rw [Channel.start, getElem?_append]
    split
    · next hlt => exact ⟨.inl, fun h => h.resolve_right fun hlast => hlt.ne hlast.1⟩
    · next hge =>
      rw [getElem?_singleton, getElem?_eq_none (not_lt.mp hge)]
      constructor
      · intro h
        split at h
        · exact .inr ⟨by omega, (Option.some.inj h).symm⟩
        · cases h
      · rintro (h | ⟨rfl, rfl⟩)
        · cases h
        · rw [Nat.sub_self]
          rfl
  have hold : ∀ {c : ℕ} {call : ChannelCall}, s.calls[c]? = some call →
      (s.start requestId messageType streaming).calls[c]? = some call := fun h => hget.mpr (.inl h)
  -- what is registered now was registered before, or is the new call
  have hreg : ∀ c, (s.start requestId messageType streaming).Registered c →
      s.Registered c ∨ c = s.calls.length := by
    rintro c ⟨requestId', hc⟩
    rw [Channel.start] at hc
    rcases Dict.get?_set_eq_some.mp hc with ⟨-, hc⟩ | ⟨-, hc⟩
    · exact .inr hc.symm
    · exact .inl ⟨requestId', hc⟩
  have hne : ∀ {c : ℕ} {call : ChannelCall}, s.calls[c]? = some call → c ≠ s.calls.length := by
    rintro c call hc rfl
    rw [getElem?_eq_none le_rfl] at hc
    cases hc
  refine ⟨?_, ?_, ?_, ?_, ?_, ?_⟩
  · intro requestId' c hc
    rcases Dict.get?_set_eq_some.mp hc with ⟨heq, rfl⟩ | ⟨-, hc⟩
    · exact ⟨_, hget.mpr (.inr ⟨rfl, rfl⟩), heq.symm, rfl⟩
    · obtain ⟨call, hcall, hrest⟩ := hs.registered requestId' c hc
      exact ⟨call, hold hcall, hrest⟩
  · intro c d a b hc hd ha hb hid
    rcases hget.mp hc with hc | ⟨rfl, rfl⟩ <;> rcases hget.mp hd with hd | ⟨rfl, rfl⟩
    · exact hs.distinct hc hd ha hb hid
    · exact absurd hid (hfree c a hc ha)
    · exact absurd hid.symm (hfree d b hd hb)
    · rfl
  · intro r hr
    have hfits := hs.reading r hr
    obtain ⟨target, htarget, hid⟩ := hfits.target
    refine ⟨⟨target, hold htarget, hid⟩, ?_, hfits.eventLast, fun hevent hpop hr' =>
      hfits.popped hevent hpop ((hreg _ hr').resolve_right (hne htarget))⟩
    intro c call hc hopen hcall
    rcases hget.mp hc with hc | ⟨rfl, rfl⟩
    · exact hfits.only c call hc hopen hcall
    · exact absurd hcall.symm (hreader r hr)
  · intro c call hc hevent hr
    rcases hget.mp hc with hc | ⟨rfl, rfl⟩
    · exact hs.signalled c call hc hevent ((hreg c hr).resolve_right (hne hc))
    · cases hevent
  · intro n hn
    obtain ⟨hnot, call, hc, hsafe⟩ := hs.noticed n hn
    exact ⟨fun hr => hnot ((hreg _ hr).resolve_right (hne hc)), call, hold hc, hsafe⟩
  · intro c call hc
    rcases hget.mp hc with hc | ⟨rfl, rfl⟩
    · refine (hs.content c call hc).mono fun hr => ?_
      exact (hreg c hr).resolve_right (hne hc)
    · have hwork : (s.start requestId messageType streaming).work s.calls.length = [] := by
        rw [work]
        cases hr : (s.start requestId messageType streaming).reader with
        | none => rfl
        | some r =>
          obtain ⟨target, htarget, -⟩ := (hs.reading r hr).target
          exact if_neg (hne htarget)
      rw [hwork]
      exact content_new requestId messageType streaming

theorem Sound.answered {c : ℕ} {call : ChannelCall} (hc : s.calls[c]? = some call)
    (hreg : ¬ s.Registered c) (frame : ProviderFrame) :
    (s.modifyCall c fun call => call.addAnswer frame).Sound := by
  refine hs.update hc rfl ?_ rfl (fun _ _ h => h) (readerFrom_of_eq hs rfl fun _ _ h => h) fun d _ => work_of_eq rfl d
  exact ⟨rfl, id, fun hr => absurd hr hreg, hs.signalled c call hc, id, (hs.content c call hc).answered hreg frame⟩

end

theorem eventLast_readerActions (streaming : Bool) (f : ProviderFrame) : EventLast (readerActions streaming f) ∧
      (.setEvent ∈ readerActions streaming f → .pop ∈ readerActions streaming f) := by
  have hlast : ∀ todo : List PendingAction, .setEvent ∉ todo → EventLast (todo ++ [.setEvent]) := by
    intro todo hnot before after heq hpop
    have hafter : after = [] := by
      rcases append_eq_append_iff.mp heq with ⟨rest, hbefore, hrest⟩ | ⟨rest, htodo, hrest⟩
      · cases rest with
        | nil => simpa using hrest.symm
        | cons x rest => simp at hrest
      · cases rest with
        | nil => simpa using hrest.symm
        | cons x rest =>
          obtain ⟨rfl, -⟩ := cons.inj hrest
          exact absurd (htodo ▸ mem_append_right _ mem_cons_self) hnot
    rw [hafter] at hpop
    cases hpop
  have hnone : ∀ todo : List PendingAction, .setEvent ∉ todo → EventLast todo := by
    rintro todo hnot before after rfl
    exact absurd (mem_append_right _ mem_cons_self) hnot
  unfold readerActions
  cases f.stream <;> cases streaming <;> cases f.result <;> cases f.done <;> first
      | exact ⟨hlast [_, _] (by simp), by simp⟩
      | exact ⟨hlast [_, _, _] (by simp), by simp⟩
      | exact ⟨hnone _ (by simp), by simp⟩

variable {frame : ProviderFrame} {origin : Option ℕ}

theorem Sound.read (hs : s.Sound) (hidle : s.reader = none) (hsent : s.sentFor frame origin = true)
    (honly : ∀ (c : ℕ) (call : ChannelCall), s.calls[c]? = some call → call.isOpen = true →
      call.requestId = frame.correlationId → origin = some c) : (s.read frame origin).Sound := by
  cases origin with
  | none =>
    have hnone : s.pending.get? frame.correlationId = none := by
      by_contra hne
      obtain ⟨c, hget⟩ := Option.ne_none_iff_exists'.mp hne
      obtain ⟨call, hc, hid, hopen⟩ := hs.registered _ c hget
      cases honly c call hc hopen hid
    unfold Channel.read
    dsimp only
    rw [hnone]
    exact hs
  | some c =>
    obtain ⟨call, hc, hid⟩ : ∃ call, s.calls[c]? = some call ∧ call.requestId = frame.correlationId := by
      simpa [sentFor, Option.any_eq_true] using hsent
    unfold Channel.read
    dsimp only
    rw [show (s.modifyCall c fun call => call.addAnswer frame).pending = s.pending from rfl]
    cases hget : s.pending.get? frame.correlationId with
    | none =>
      refine hs.answered hc ?_ frame
      rintro ⟨requestId, hreg⟩
      obtain ⟨call', hc', hid', -⟩ := hs.registered requestId c hreg
      rw [hc] at hc'
      cases hc'
      rw [← hid', hid, hget] at hreg
      cases hreg
    | some target =>
      obtain ⟨call', hc', hid', hopen⟩ := hs.registered _ target hget
      obtain rfl : c = target := Option.some.inj (honly target call' hc' hopen hid')
      rw [hc] at hc'
      cases hc'
      have hself : (s.modifyCall c fun call => call.addAnswer frame).calls[c]? = some (call.addAnswer frame) :=
        get_update_self (f := fun call => call.addAnswer frame) hc rfl
      show Sound (onCall _ c _)
      rw [onCall, hself]
      have hreg : s.Registered c := ⟨frame.correlationId, hget⟩
      have hcontent := hs.content c call hc
      rw [show s.work c = [] by rw [work, hidle]] at hcontent
      have hkeep : Keeps { s.modifyCall c fun call => call.addAnswer frame with
          reader := some ⟨frame.correlationId, c, readerActions call.streaming frame⟩ } c call
          (call.addAnswer frame) := by
        refine ⟨rfl, id, fun _ => hopen, hs.signalled c call hc, id, ?_⟩
        rw [show work { s.modifyCall c fun call => call.addAnswer frame with
          reader := some ⟨frame.correlationId, c, readerActions call.streaming frame⟩ } c =
            readerActions call.streaming frame from if_pos rfl]
        exact hcontent.read hreg frame
      refine hs.update_of_reading hc rfl hkeep rfl (fun _ _ h => h) ?_ ?_
      · intro r hr
        cases hr
        obtain ⟨hlast, hpop⟩ := eventLast_readerActions call.streaming frame
        refine ⟨⟨_, hself, hid⟩, ?_, hlast, fun hevent hnot => absurd (hpop hevent) hnot⟩
        intro d b hd hb hbid
        obtain ⟨a, ha, hida, hopena⟩ := before_update hc rfl hkeep hd
        exact hs.distinct ha hc (hopena hb) hopen (by rw [← hida, hbid, hid])
      · intro d hd
        rw [show s.work d = [] by rw [work, hidle]]
        exact if_neg (Ne.symm hd)

theorem usesId_eq_true_iff {c : ℕ} : s.usesId requestId c = true ↔
    ∃ call, s.calls[c]? = some call ∧ call.requestId = requestId ∧ call.isOpen = true := by
  simp [usesId, Option.any_eq_true]

/-- **Every step that keeps request ids apart keeps the invariant.** -/
theorem Sound.step (hs : s.Sound) {event : ChannelEvent} (hdistinct : s.Distinct event) : (s.step event).Sound := by
  have honCall : ∀ (c : ℕ) (f : ChannelCall → Channel), (∀ call, s.calls[c]? = some call → (f call).Sound) →
      (s.onCall c f).Sound := by
    intro c f hf
    unfold onCall
    split
    · exact hs
    · next call hc => exact hf call hc
  cases event with
  | start requestId messageType streaming =>
    refine hs.start (fun c call hc hopen hid => ?_) fun r hr => hdistinct.2 r hr
    have hlt := (List.getElem?_eq_some_iff.mp hc).1
    have := hdistinct.1 c hlt
    rw [usesId_eq_true_iff.mpr ⟨call, hc, hid, hopen⟩] at this
    cases this
  | sent c =>
    refine honCall c _ fun call hc => ?_
    split
    · next hphase => exact hs.sent hc hphase
    · exact hs
  | sendFailed c =>
    refine honCall c _ fun call hc => ?_
    split
    · next hphase => exact hs.sendFailed hc hphase .sendFailed
    · exact hs
  | read frame origin =>
    show Sound (if _ then _ else _)
    split
    · next hready =>
      refine hs.read (Option.isNone_iff_eq_none.mp hready.1) hready.2 fun c call hc hopen hid => ?_
      exact hdistinct c (List.getElem?_eq_some_iff.mp hc).1 (usesId_eq_true_iff.mpr ⟨call, hc, hid, hopen⟩)
    · exact hs
  | readerStep =>
    unfold Channel.step
    dsimp only
    split
    · exact hs
    · next r hr => exact hs.readerStep hr
  | noticeStep i =>
    unfold Channel.step
    dsimp only
    split
    · exact hs
    · next n hn => exact hs.noticeStep hn
  | cancel requestId => exact hs.cancel requestId
  | close => exact hs.close
  | wake c =>
    refine honCall c _ fun call hc => ?_
    split
    · next hphase =>
      split
      · next hready => exact hs.wake hc hphase hready.1 (Bool.eq_false_iff.mpr hready.2)
      · exact hs
    · exact hs
  | timeout c =>
    refine honCall c _ fun call hc => ?_
    split
    · next hphase => exact hs.timeout hc hphase _
    · exact hs
  | next c =>
    refine honCall c _ fun call hc => ?_
    split
    · next hphase =>
      split
      · next hstreaming => exact hs.next hc hphase hstreaming
      · exact hs
    · exact hs
  | abandon c =>
    refine honCall c _ fun call hc => ?_
    split
    · next hphase =>
      split
      · exact hs.abandon hc hphase
      · exact hs
    · exact hs
  | finish c =>
    refine honCall c _ fun call hc => ?_
    split
    · next outcome hphase => exact hs.finish hc hphase
    · exact hs

/-! ### The guarantees of a run -/

theorem Sound.registration_step (hs : s.Sound) {event : ChannelEvent} (hdistinct : s.Distinct event) {a : ℕ}
    (hactor : s.actor event = some a) {c : ℕ}
    (hget : s.pending.get? requestId = some c) (hne : c ≠ a) :
    (s.step event).pending.get? requestId = some c := by
  obtain ⟨call, hc, hid, hopen⟩ := hs.registered requestId c hget
  -- a call that is not over removes no registration but its own
  have hpop : ∀ {b : ChannelCall}, s.calls[a]? = some b → b.isOpen = true →
      (s.pop b.requestId).pending.get? requestId = some c := by
    intro b hb hbopen
    rw [pop, Dict.get?_erase]
    split
    · next heq => exact absurd (hs.distinct hc hb hopen hbopen (hid.trans heq)) hne
    · exact hget
  have honCall : ∀ f : ChannelCall → Channel,
      (∀ called, s.calls[a]? = some called → (f called).pending.get? requestId = some c) →
      (s.onCall a f).pending.get? requestId = some c := by
    intro f hf
    unfold onCall
    split
    · exact hget
    · next called hcalled => exact hf called hcalled
  cases event with
  | start requestId' messageType streaming =>
    show (s.pending.set requestId' s.calls.length).get? requestId = some c
    rw [Dict.get?_set]
    split
    · next heq =>
      have hfree := hdistinct.1 c (List.getElem?_eq_some_iff.mp hc).1
      rw [usesId_eq_true_iff.mpr ⟨call, hc, hid.trans heq, hopen⟩] at hfree
      cases hfree
    · exact hget
  | read frame origin | noticeStep i | cancel requestId' | close => cases hactor
  | readerStep =>
    obtain ⟨r, hr, rfl⟩ := Option.map_eq_some_iff.mp hactor
    have hfits := hs.reading r hr
    show Dict.get? (match s.reader with
      | none => s
      | some r => s.readerStep r).pending requestId = some c
    rw [hr]
    show (s.readerStep r).pending.get? requestId = some c
    unfold Channel.readerStep
    cases r.todo with
    | nil => exact hget
    | cons action rest =>
      by_cases haction : action = .pop
      · subst haction
        show (s.pending.erase r.correlationId).get? requestId = some c
        rw [Dict.get?_erase]
        split
        · next heq => exact absurd (hfits.only c call hc hopen (hid.trans heq)) hne
        · exact hget
      · show (s.readerAction r action).pending.get? requestId = some c
        rw [readerAction_of_ne_pop haction]
        exact hget
  | sent b =>
    cases hactor
    refine honCall _ fun called hcalled => ?_
    split <;> exact hget
  | sendFailed b =>
    cases hactor
    refine honCall _ fun called hcalled => ?_
    split
    · next hphase => exact hpop hcalled (by rw [isOpen, hphase])
    · exact hget
  | wake b =>
    cases hactor
    refine honCall _ fun called hcalled => ?_
    split
    · split <;> exact hget
    · exact hget
  | timeout b =>
    cases hactor
    refine honCall _ fun called hcalled => ?_
    split
    · next hphase => exact hpop hcalled (by rw [isOpen, hphase])
    · exact hget
  | next b =>
    cases hactor
    refine honCall _ fun called hcalled => ?_
    split
    · split
      · unfold Channel.next
        split <;> exact hget
      · exact hget
    · exact hget
  | abandon b =>
    cases hactor
    refine honCall _ fun called hcalled => ?_
    split
    · split <;> exact hget
    · exact hget
  | finish b =>
    cases hactor
    refine honCall _ fun called hcalled => ?_
    split
    · next outcome hphase => exact hpop hcalled (by rw [isOpen, hphase])
    · exact hget

theorem readerStep_other (hd : d ≠ r.target) : (s.readerStep r).calls[d]? = s.calls[d]? := by
  unfold Channel.readerStep
  cases r.todo with
  | nil => rfl
  | cons action rest =>
    by_cases haction : action = .pop
    · subst haction
      rfl
    · show (s.readerAction r action).calls[d]? = s.calls[d]?
      rw [readerAction_of_ne_pop haction]
      show (s.calls.modify r.target _)[d]? = s.calls[d]?
      rw [getElem?_modify]
      simp [Ne.symm hd]

theorem read_eq (s : Channel) (frame : ProviderFrame) (origin : Option ℕ) :
    ∃ s' : Channel, s'.pending = s.pending ∧ s'.reader = s.reader ∧
      s.read frame origin = match s'.pending.get? frame.correlationId with
        | none => s'
        | some target =>
          s'.onCall target fun call =>
            { s' with reader := some ⟨frame.correlationId, target, readerActions call.streaming frame⟩ } := by
  cases origin with
  | none => exact ⟨s, rfl, rfl, rfl⟩
  | some c => exact ⟨s.modifyCall c fun call => call.addAnswer frame, rfl, rfl, rfl⟩

theorem get?_of_read (hidle : s.reader = none) (hreader : (s.read frame origin).reader = some r) :
    s.pending.get? frame.correlationId = some r.target := by
  obtain ⟨s', hpending, hidle', hread⟩ := read_eq s frame origin
  rw [hidle] at hidle'
  rw [hread, hpending] at hreader
  split at hreader
  · rw [hidle'] at hreader
    cases hreader
  · next target hget =>
    unfold onCall at hreader
    split at hreader
    · rw [hidle'] at hreader
      cases hreader
    · cases hreader
      exact hget

theorem Sound.target_of_read (hs : s.Sound)
    (hidle : s.reader = none) (hreader : (s.step (.read frame origin)).reader = some r) :
    ∃ call, s.calls[r.target]? = some call ∧ call.requestId = frame.correlationId ∧ call.isOpen = true := by
  unfold Channel.step at hreader
  dsimp only at hreader
  split at hreader
  · exact hs.registered _ _ (get?_of_read hidle hreader)
  · rw [hidle] at hreader
    cases hreader

/-- **The guarantees of a run** in which request ids tell the unfinished calls apart.  A frame goes to the
pending object of an unfinished call with its correlation id; no step made for one call removes the
registration of another; and a call gets what the provider sent for it, or an error: `request` returns the
payload of the first frame for it, a stream yields the payloads of its frames in their order, and all of them
up to the last one if it ends without an error. -/
theorem responses_reach_their_requester (nodeId : String) (events : List ChannelEvent)
    (hdistinct : Run.Along step Distinct (opened nodeId) events) :
    let s := Run.exec step (opened nodeId) events
    (∀ frame origin r, s.reader = none → (s.step (.read frame origin)).reader = some r →
        ∃ call, s.calls[r.target]? = some call ∧ call.requestId = frame.correlationId ∧ call.isOpen = true) ∧
      (∀ r d, s.reader = some r → d ≠ r.target → (s.step .readerStep).calls[d]? = s.calls[d]?) ∧
      (∀ event a requestId c, s.Distinct event → s.actor event = some a → c ≠ a →
        s.pending.get? requestId = some c → (s.step event).pending.get? requestId = some c) ∧
      (∀ (c : ℕ) (call : ChannelCall), s.calls[c]? = some call →
        (call.streaming = true → call.yielded <+: (readStream call.answers).1) ∧
          ∀ o, call.phase = .finished o → Justified call o) := by
  intro s
  have hs : s.Sound := Run.exec_of_along Sound (fun _ _ hs hok => hs.step hok) (sound_opened nodeId) hdistinct
  refine ⟨?_, ?_, ?_, ?_⟩
  · intro frame origin r hidle hreader
    exact hs.target_of_read hidle hreader
  · intro r d hr hd
    rw [show s.step .readerStep = match s.reader with
      | none => s
      | some r => s.readerStep r from rfl, hr]
    exact readerStep_other hd
  · intro event a requestId c hok hactor hne hget
    exact hs.registration_step hok hactor hget hne
  · intro c call hc
    have hcontent := hs.content c call hc
    refine ⟨fun hstreaming => ((content_iff_stream hstreaming).mp hcontent).received, fun o ho => ?_⟩
    exact Content.justified hcontent (.inr ho)

/-- One request, with the frame that answers it. -/
theorem responses_reach_their_requester_one : let answer : ProviderFrame := ⟨false, "r", true, some .empty, false, ""⟩
    let events : List ChannelEvent := [.start "r" "InferenceRequest" false, .sent 0, .read answer (some 0),
      .readerStep, .readerStep, .readerStep, .wake 0]
    let s := Run.exec step (opened "n") events
    (∀ frame origin r, s.reader = none → (s.step (.read frame origin)).reader = some r →
        ∃ call, s.calls[r.target]? = some call ∧ call.requestId = frame.correlationId ∧ call.isOpen = true) ∧
      (∀ r d, s.reader = some r → d ≠ r.target → (s.step .readerStep).calls[d]? = s.calls[d]?) ∧
      (∀ event a requestId c, s.Distinct event → s.actor event = some a → c ≠ a →
        s.pending.get? requestId = some c → (s.step event).pending.get? requestId = some c) ∧
      (∀ (c : ℕ) (call : ChannelCall), s.calls[c]? = some call →
        (call.streaming = true → call.yielded <+: (readStream call.answers).1) ∧
          ∀ o, call.phase = .finished o → Justified call o) := by
  intro answer events
  exact responses_reach_their_requester "n" events (by decide)

/-- Two calls with one id: the timeout of the first removes the registration of the second. -/
theorem timeout_removes_other : let s := Run.exec step (opened "n") [.start "r" "InferenceRequest" false, .sent 0,
      .start "r" "InferenceRequest" false, .sent 1]
    s.pending.get? "r" = some 1 ∧ s.actor (.timeout 0) = some 0 ∧ (s.step (.timeout 0)).pending.get? "r" = none := by
  decide

end Channel

end ComputeMesh.Orchestrator
