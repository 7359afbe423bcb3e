import ComputeMesh.Lib.Json
import ComputeMesh.Lib.Run

/-!
# The persistent control channel

`persistent_control_channel.py`: the server's side of one long-lived connection.  Any number of threads call
`request`, `request_stream`, `cancel` and `close`, and one reader thread hands the provider's frames to the
calls that wait for them.  What the threads share is the map from request ids to pending objects.

A step is one section under the lock of the map, one operation on a pending object (its error, its response,
its event, its queue), or one decision of a caller; between two steps of a thread every other thread may take
any number of steps.

* `ChannelCall` — a call with its pending object, and the frames that the provider sent for it;
* `readerActions` — what the reader does with a frame, step by step;
* `Channel.step` — **one step of any thread.**
-/

namespace ComputeMesh.Orchestrator

open ComputeMesh.Text

abbrev WirePayload := Dict String Json

/-- The exceptions a call ends in. -/
inductive ChannelExn
  | channelClosed (message : String)
  | requestTimeout (message : String)
  | requestCancelled (message : String)
  | persistentControlChannelError (message : String)
  | sendFailed
  | assertionError

/-- A frame of the provider with a correlation id: a `stream` frame, or a `response`.  `ok` says that the
field is `True`, `payload` is there if the field is an object, and `error` is the text of that field, or empty
if it is false. -/
structure ProviderFrame where
  stream : Bool
  correlationId : String
  ok : Bool
  payload : Option WirePayload
  done : Bool
  error : String

def ProviderFrame.result (f : ProviderFrame) : Option WirePayload := if f.ok then f.payload else none

/-- `str(frame.get("error") or fallback)[:512]`. -/
def ProviderFrame.failure (f : ProviderFrame) (fallback : String) : ChannelExn :=
  .persistentControlChannelError (firstChars 512 (textOr f.error fallback))

/-- What a stream queue holds. -/
inductive QueueItem
  | item (payload : WirePayload)
  | error (e : ChannelExn)
  | done

/-- How a call ends for its caller; a caller may also stop listening to a stream. -/
inductive CallOutcome
  | response (payload : WirePayload)
  | exhausted
  | raised (e : ChannelExn)
  | abandoned

/-- Where a call is: in the map but not sent, waiting, with only the `finally` of its stream left, or over. -/
inductive CallPhase
  | registered
  | sent
  | ending (outcome : CallOutcome)
  | finished (outcome : CallOutcome)

/-- A call of `request` or `request_stream`, with its `_Pending` and what its stream has yielded.  `answers`
are the frames that the provider sent for it, in the order the reader took them. -/
structure ChannelCall where
  requestId : String
  messageType : String
  streaming : Bool
  phase : CallPhase := .registered
  event : Bool := false
  response : Option WirePayload := none
  error : Option ChannelExn := none
  queue : List QueueItem := []
  yielded : List WirePayload := []
  answers : List ProviderFrame := []

namespace ChannelCall

/-- The call is not over. -/
def isOpen (call : ChannelCall) : Bool :=
  match call.phase with
  | .finished _ => false
  | _ => true

/-- The call has not heard its end. -/
def isLive (call : ChannelCall) : Bool :=
  match call.phase with
  | .registered | .sent => true
  | _ => false

def addAnswer (call : ChannelCall) (frame : ProviderFrame) : ChannelCall :=
  { call with answers := call.answers ++ [frame] }

end ChannelCall

/-! ### What threads do to a pending object -/

/-- An operation of another thread on a pending object, or on its registration. -/
inductive PendingAction
  | setResponse (payload : WirePayload)
  | setError (e : ChannelExn)
  | setEvent
  | put (item : QueueItem)
  | pop

/-- An operation on the pending object itself. -/
def PendingAction.apply (call : ChannelCall) : PendingAction → ChannelCall
  | .setResponse payload => { call with response := some payload }
  | .setError e => { call with error := some e }
  | .setEvent => { call with event := true }
  | .put item => { call with queue := call.queue ++ [item] }
  | .pop => call

/-- What the reader does with a frame once it has found the pending object. -/
def readerActions (streaming : Bool) (f : ProviderFrame) : List PendingAction :=
  match f.stream, streaming, f.result with
  | true, false, _ =>
    [.setError (.persistentControlChannelError "received stream data for a non-stream request"), .pop, .setEvent]
  | true, true, none => [.put (.error (f.failure "provider stream failed")), .put .done, .pop]
  | true, true, some payload => .put (.item payload) :: if f.done then [.put .done, .pop] else []
  | false, true, _ =>
    [.pop, .put (.error (f.failure "provider stream ended without stream frame")), .put .done, .setEvent]
  | false, false, some payload => [.pop, .setResponse payload, .setEvent]
  | false, false, none => [.pop, .setError (f.failure "provider request failed"), .setEvent]

/-- What `cancel` does with the pending object it has popped. -/
def cancelActions (requestId : String) (streaming : Bool) : List PendingAction :=
  let e := ChannelExn.requestCancelled ("request " ++ requestId ++ " was cancelled")
  [.setError e, .setEvent] ++ if streaming then [.put (.error e), .put .done] else []

/-- What `close` does with every pending object it has found. -/
def closeActions (nodeId : String) (streaming : Bool) : List PendingAction :=
  let e := ChannelExn.channelClosed ("node " ++ nodeId ++ " disconnected")
  [.setError e, .setEvent] ++ if streaming then [.put (.error e)] else []

/-! ### The channel -/

/-- A frame in the hands of the reader: the call it goes to, and what is left to do. -/
structure Reading where
  correlationId : String
  target : ℕ
  todo : List PendingAction

/-- What a `cancel` or a `close` has left to tell a call. -/
structure Notice where
  target : ℕ
  todo : List PendingAction

/-- A connection with every call ever made on it; `pending` names calls by their number. -/
structure Channel where
  nodeId : String
  pending : Dict String ℕ
  calls : List ChannelCall
  reader : Option Reading
  notices : List Notice

/-- A step.  In `read`, the reader takes a frame that the provider has sent for the call `origin`, or for no
call. -/
inductive ChannelEvent
  | start (requestId messageType : String) (streaming : Bool)
  | sent (c : ℕ)
  | sendFailed (c : ℕ)
  | read (frame : ProviderFrame) (origin : Option ℕ)
  | readerStep
  | noticeStep (i : ℕ)
  | cancel (requestId : String)
  | close
  | wake (c : ℕ)
  | timeout (c : ℕ)
  | next (c : ℕ)
  | abandon (c : ℕ)
  | finish (c : ℕ)

namespace Channel

/-- A connection that has just been opened. -/
def opened (nodeId : String) : Channel := ⟨nodeId, .empty, [], none, []⟩

def modifyCall (s : Channel) (c : ℕ) (f : ChannelCall → ChannelCall) : Channel :=
  { s with calls := s.calls.modify c f }

/-- `self._pending.pop(request_id, None)`. -/
def pop (s : Channel) (requestId : String) : Channel := { s with pending := s.pending.erase requestId }

/-- A step of a call that is where `phase` says. -/
def onCall (s : Channel) (c : ℕ) (f : ChannelCall → Channel) : Channel :=
  match s.calls[c]? with
  | none => s
  | some call => f call

def setPhase (s : Channel) (c : ℕ) (phase : CallPhase) : Channel :=
  s.modifyCall c fun call => { call with phase }

/-- Whether the provider can have sent a frame for `origin`: a call with the frame's correlation id, and none
only if there is no such call. -/
def sentFor (s : Channel) (frame : ProviderFrame) : Option ℕ → Bool
  | some c => s.calls[c]?.any fun call => decide (call.requestId = frame.correlationId)
  | none => s.calls.all fun call => decide (call.requestId ≠ frame.correlationId)

/-- `request` and `request_stream` up to the registration. -/
def start (s : Channel) (requestId messageType : String) (streaming : Bool) : Channel :=
  { s with
    pending := s.pending.set requestId s.calls.length
    calls := s.calls ++ [{ requestId, messageType, streaming }] }

/-- The reader takes a frame and looks its correlation id up. -/
def read (s : Channel) (frame : ProviderFrame) (origin : Option ℕ) : Channel :=
  let s' :=
    match origin with
    | none => s
    | some c => s.modifyCall c fun call => call.addAnswer frame
  match s'.pending.get? frame.correlationId with
  | none => s'
  | some target =>
    s'.onCall target fun call =>
      { s' with reader := some ⟨frame.correlationId, target, readerActions call.streaming frame⟩ }

/-- One operation of the reader, on the registration or on the pending object. -/
def readerAction (s : Channel) (r : Reading) (action : PendingAction) : Channel :=
  match action with
  | .pop => s.pop r.correlationId
  | action => s.modifyCall r.target fun call => action.apply call

/-- The next operation of the reader on the frame in its hands. -/
def readerStep (s : Channel) (r : Reading) : Channel :=
  match r.todo with
  | [] => { s with reader := none }
  | action :: rest => { s.readerAction r action with reader := some { r with todo := rest } }

/-- The next operation of a `cancel` or a `close`. -/
def noticeStep (s : Channel) (i : ℕ) (n : Notice) : Channel :=
  match n.todo with
  | [] => s
  | action :: rest =>
    { s.modifyCall n.target fun call => action.apply call with
      notices := s.notices.set i { n with todo := rest } }

/-- `cancel`, up to its section under the lock. -/
def cancel (s : Channel) (requestId : String) : Channel :=
  match s.pending.get? requestId with
  | none => s
  | some target =>
    s.onCall target fun call =>
      { s.pop requestId with notices := s.notices ++ [⟨target, cancelActions requestId call.streaming⟩] }

/-- `close`, up to its section under the lock. -/
def close (s : Channel) : Channel :=
  { s with
    pending := .empty
    notices := s.notices ++ s.pending.values.map fun target =>
      ⟨target, closeActions s.nodeId (s.calls[target]?.any fun call => call.streaming)⟩ }

/-- What `request` returns or raises when its event is set. -/
def answer (call : ChannelCall) : CallOutcome :=
  match call.error, call.response with
  | some e, _ => .raised e
  | none, some payload => .response payload
  | none, none => .raised .assertionError

def timeoutExn (s : Channel) (call : ChannelCall) : ChannelExn :=
  .requestTimeout ("node " ++ s.nodeId ++ " did not " ++ (if call.streaming then "finish " else "answer ") ++
    call.messageType)

/-- What a stream does with the next entry of its queue. -/
def next (s : Channel) (c : ℕ) (call : ChannelCall) : Channel :=
  match call.queue with
  | [] => s
  | .item payload :: rest =>
    s.modifyCall c fun call => { call with queue := rest, yielded := call.yielded ++ [payload] }
  | .error e :: rest => s.modifyCall c fun call => { call with queue := rest, phase := .ending (.raised e) }
  | .done :: rest => s.modifyCall c fun call => { call with queue := rest, phase := .ending .exhausted }

/-- **One step**; where the step is not possible nothing happens. -/
def step (s : Channel) : ChannelEvent → Channel
  | .start requestId messageType streaming => s.start requestId messageType streaming
  | .sent c => s.onCall c fun call =>
    match call.phase with
    | .registered => s.setPhase c .sent
    | _ => s
  | .sendFailed c => s.onCall c fun call =>
    match call.phase with
    | .registered => (s.pop call.requestId).setPhase c (.finished (.raised .sendFailed))
    | _ => s
  | .read frame origin => if s.reader.isNone ∧ s.sentFor frame origin then s.read frame origin else s
  | .readerStep =>
    match s.reader with
    | none => s
    | some r => s.readerStep r
  | .noticeStep i =>
    match s.notices[i]? with
    | none => s
    | some n => s.noticeStep i n
  | .cancel requestId => s.cancel requestId
  | .close => s.close
  | .wake c => s.onCall c fun call =>
    match call.phase with
    | .sent => if call.event ∧ ¬ call.streaming then s.setPhase c (.finished (answer call)) else s
    | _ => s
  | .timeout c => s.onCall c fun call =>
    match call.phase with
    | .sent =>
      let outcome := CallOutcome.raised (s.timeoutExn call)
      (s.pop call.requestId).setPhase c (if call.streaming then .ending outcome else .finished outcome)
    | _ => s
  | .next c => s.onCall c fun call =>
    match call.phase with
    | .sent => if call.streaming then s.next c call else s
    | _ => s
  | .abandon c => s.onCall c fun call =>
    match call.phase with
    | .sent => if call.streaming then s.setPhase c (.ending .abandoned) else s
    | _ => s
  | .finish c => s.onCall c fun call =>
    match call.phase with
    | .ending outcome => (s.pop call.requestId).setPhase c (.finished outcome)
    | _ => s

/-- The call that a step is made for: by its caller, or by the reader with a frame for it. -/
def actor (s : Channel) : ChannelEvent → Option ℕ
  | .start _ _ _ => some s.calls.length
  | .sent c | .sendFailed c | .wake c | .timeout c | .next c | .abandon c | .finish c => some c
  | .readerStep => s.reader.map Reading.target
  | _ => none

/-- The call `c` is not over and uses this request id. -/
def usesId (s : Channel) (requestId : String) (c : ℕ) : Bool :=
  s.calls[c]?.any fun call => decide (call.requestId = requestId) && call.isOpen

/-- A call starts with a request id that no unfinished call uses and that the reader has no frame for in its
hands, and a frame is taken for the one unfinished call with its id. -/
def Distinct (s : Channel) : ChannelEvent → Prop
  | .start requestId _ _ =>
    (∀ c < s.calls.length, s.usesId requestId c = false) ∧ ∀ r ∈ s.reader, r.correlationId ≠ requestId
  | .read frame origin => ∀ c < s.calls.length, s.usesId frame.correlationId c = true → origin = some c
  | _ => True

instance (s : Channel) : ∀ event, Decidable (s.Distinct event)
  | .start _ _ _ => inferInstanceAs (Decidable (_ ∧ _))
  | .read _ _ => inferInstanceAs (Decidable (∀ c < s.calls.length, _))
  | .sent _ | .sendFailed _ | .readerStep | .noticeStep _ | .cancel _ | .close | .wake _ | .timeout _ | .next _
  | .abandon _ | .finish _ => inferInstanceAs (Decidable True)

end Channel

end ComputeMesh.Orchestrator
