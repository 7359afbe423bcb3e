import ComputeMesh.Lib.ByteReader
import ComputeMesh.Lib.Run

/-!
# Control frames on a stream of bytes

A frame is a length of four bytes and a JSON document; the threads of a connection write their frames under one lock,
and the transport hands the bytes over in parts of its own choosing.

* `recvExact_spec` — the parts in which the bytes come do not matter;
* `recvFrame_of_isFrame`, `recvFrame_cases` — what is read from any bytes;
* `Senders.Sound` — the invariant of the writers: the bytes on the wire are the frames that were sent;
* `control_frames_delivered` — **what is sent is received**, and what `recv_frame` raises on any bytes.
-/

namespace ComputeMesh.Orchestrator

open List Option

/-- `MAX_FRAME_BYTES`. -/
def maxFrameBytes : ℕ := 2 * 1024 * 1024

inductive ControlError
  /-- `ChannelClosed`. -/
  | closed
  /-- `PersistentControlChannelError` with its text. -/
  | channel (message : String)
  /-- An exception of another class. -/
  | other (name : String)
  deriving DecidableEq

/-- What decoding bytes as UTF-8 and reading them as JSON comes to. -/
inductive Loaded (α : Type)
  | object (document : α)
  | otherRoot
  /-- `UnicodeError` or `JSONDecodeError`. -/
  | refused
  /-- An exception of another class: `RecursionError` for text that is nested too deeply, or the plain `ValueError` for an
  integer of too many digits. -/
  | raised (name : String)
  deriving DecidableEq

/-- The JSON library: `json.dumps` with the options of `send_frame`, in UTF-8, and `json.loads` of decoded bytes. -/
structure FrameCodec (α : Type) where
  dumps : α → List UInt8
  loads : List UInt8 → Loaded α

/-- A stream to read from: the bytes still to come, before the other side closes it, and how many of them, less one, each
`recv` returns at most. -/
structure Receiving where
  bytes : List UInt8
  splits : ℕ → ℕ

/-- `sock.recv(size)`. -/
def Receiving.recv (r : Receiving) (size : ℕ) : List UInt8 × Receiving :=
  (r.bytes.take (min size (r.splits 0 + 1)), ⟨r.bytes.drop (min size (r.splits 0 + 1)), fun k => r.splits (k + 1)⟩)

/-- `_recv_exact`. -/
def recvExact (size : ℕ) (r : Receiving) : Except ControlError (List UInt8) × Receiving :=
  if size = 0 then (.ok [], r)
  else
    match r.recv size with
    | ([], r') => (.error .closed, r')
    | (b :: data, r') => (recvExact (size - (b :: data).length) r').map (Except.map (b :: data ++ ·)) id
termination_by size
decreasing_by
  simp only [List.length_cons]
  omega

variable {α : Type} (codec : FrameCodec α)

/-- The packet of a document, with which `send_frame` writes it. -/
def packet (document : α) : Except ControlError (List UInt8) :=
  let raw := codec.dumps document
  if raw = [] ∨ maxFrameBytes < raw.length then .error (.channel "control frame exceeds size limit")
  else .ok ((littleEndian 4 raw.length).reverse ++ raw)

/-- What `recv_frame` makes of the bytes of a frame. -/
def readDocument (raw : List UInt8) : Except ControlError α :=
  match codec.loads raw with
  | .refused => .error (.channel "control frame is not UTF-8 JSON")
  | .raised name => .error (.other name)
  | .otherRoot => .error (.channel "control frame root must be an object")
  | .object document => .ok document

/-- `recv_frame`. -/
def recvFrame (r : Receiving) : Except ControlError α × Receiving :=
  match recvExact 4 r with
  | (.error e, r') => (.error e, r')
  | (.ok header, r') =>
    let size := ofLittleEndian header.reverse
    if size = 0 ∨ maxFrameBytes < size then (.error (.channel "invalid control frame length"), r')
    else
      match recvExact size r' with
      | (.error e, r'') => (.error e, r'')
      | (.ok raw, r'') => (readDocument codec raw, r'')

/-- `recv_frame` again and again, until it raises. -/
def recvAll : ℕ → Receiving → List α × Option ControlError
  | 0, _ => ([], none)
  | fuel + 1, r =>
    match recvFrame codec r with
    | (.error e, _) => ([], some e)
    | (.ok document, r') => (document :: (recvAll fuel r').1, (recvAll fuel r').2)

/-- The threads of a connection: what each of them has still to send; who holds the lock, with its document and what is
left of its packet; what was sent, and the bytes on the wire. -/
structure Senders (α : Type) where
  waiting : ℕ → List α
  sending : Option (ℕ × α × List UInt8)
  sent : List (ℕ × α)
  wire : List UInt8

inductive SendStep
  /-- A thread comes to the lock in `send_frame`. -/
  | enter (thread : ℕ)
  /-- `sendall` writes some more bytes. -/
  | write (count : ℕ)
  | release

def Senders.step (s : Senders α) : SendStep → Senders α
  | .enter thread =>
    match s.waiting thread with
    | [] => s
    | document :: rest =>
      match packet codec document, s.sending with
      | .error _, _ => { s with waiting := Function.update s.waiting thread rest }
      | .ok bytes, none =>
        { s with waiting := Function.update s.waiting thread rest, sending := some (thread, document, bytes) }
      | .ok _, some _ => s
  | .write count =>
    match s.sending with
    | some (thread, document, bytes) =>
      { s with sending := some (thread, document, bytes.drop count), wire := s.wire ++ bytes.take count }
    | none => s
  | .release =>
    match s.sending with
    | some (thread, document, []) => { s with sending := none, sent := s.sent ++ [(thread, document)] }
    | _ => s

def Senders.start (documents : ℕ → List α) : Senders α := ⟨documents, none, [], []⟩

/-- What a thread has sent. -/
def Senders.sentBy (s : Senders α) (thread : ℕ) : List α := (s.sent.filter (·.1 = thread)).map Prod.snd

/-! ### Reading -/

/-- The bytes begin with one whole frame. -/
def IsFrame (bytes raw rest : List UInt8) : Prop :=
  ∃ header, header.length = 4 ∧ ofLittleEndian header.reverse = raw.length ∧ raw ≠ [] ∧ raw.length ≤ maxFrameBytes ∧
    bytes = header ++ (raw ++ rest)

/-- **The parts in which the bytes come do not matter.** -/
theorem recvExact_spec (size : ℕ) (r : Receiving) :
    (recvExact size r).1 = (if size ≤ r.bytes.length then .ok (r.bytes.take size) else .error .closed) ∧
      (recvExact size r).2.bytes = r.bytes.drop size := by
  have hpart : ∀ {size : ℕ} {r r' : Receiving} {data}, r.recv size = (data, r') →
      data.length ≤ size ∧ r.bytes = data ++ r'.bytes := by
    intro size r r' data h
    obtain ⟨rfl, rfl⟩ := Prod.mk.inj h
    exact ⟨(length_take_le _ _).trans (min_le_left _ _), (take_append_drop _ _).symm⟩
  fun_induction recvExact size r with
  | case1 r => simp
  | case2 size r hsize r' hrecv =>
    have hbytes : r.bytes = r'.bytes := (hpart hrecv).2
    have hempty : r'.bytes = [] := by
      rcases take_eq_nil_iff.mp (Prod.mk.inj hrecv).1 with h | h
      · omega
      · exact hbytes ▸ h
    simp [hbytes, hempty, hsize]
  | case3 size r hsize b data r' hrecv ih =>
    obtain ⟨hle, hbytes⟩ := hpart hrecv
    rw [hbytes, take_append, take_of_length_le hle, drop_append, drop_of_length_le hle]
    refine ⟨?_, ih.2⟩
    rw [Prod.map_fst, ih.1, apply_ite (Except.map _)]
    refine if_congr ?_ rfl rfl
    rw [length_append]
    omega

theorem recvExact_append {r : Receiving} {data rest : List UInt8} (h : r.bytes = data ++ rest) :
    ∃ r', recvExact data.length r = (.ok data, r') ∧ r'.bytes = rest := by
  obtain ⟨hread, hleft⟩ := recvExact_spec data.length r
  rw [h, length_append, if_pos (Nat.le_add_right _ _), take_left] at hread
  rw [h, drop_left] at hleft
  exact ⟨_, Prod.ext hread rfl, hleft⟩

theorem recvExact_short {r : Receiving} {size : ℕ} (h : r.bytes.length < size) :
    ∃ r', recvExact size r = (.error .closed, r') :=
  ⟨_, Prod.ext ((recvExact_spec size r).1.trans (if_neg (not_le.mpr h))) rfl⟩

variable {r : Receiving}

theorem recvFrame_of_isFrame {raw rest : List UInt8} (h : IsFrame r.bytes raw rest) :
    ∃ r', recvFrame codec r = (readDocument codec raw, r') ∧ r'.bytes = rest := by
  obtain ⟨header, hlength, hsize, hne, hmax, hbytes⟩ := h
  obtain ⟨r', hheader, hrest⟩ := recvExact_append hbytes
  obtain ⟨r'', hraw, hlast⟩ := recvExact_append hrest
  have hpos := length_pos_iff.mpr hne
  rw [hlength] at hheader
  refine ⟨r'', ?_, hlast⟩
  simp only [recvFrame, hheader, hsize, hraw]
  rw [if_neg (by omega)]

/-- Bytes that begin with no whole frame make `recv_frame` raise one of its own exceptions. -/
theorem recvFrame_cases (r : Receiving) : (∃ raw rest, IsFrame r.bytes raw rest) ∨
    ∃ e, (recvFrame codec r).1 = .error e ∧ ∀ name, e ≠ .other name := by
  by_cases hfour : 4 ≤ r.bytes.length
  · have hbytes := (take_append_drop 4 r.bytes).symm
    have hlength : (r.bytes.take 4).length = 4 := length_take_of_le hfour
    obtain ⟨r', hheader, hrest⟩ := recvExact_append hbytes
    rw [hlength] at hheader
    by_cases hsize : ofLittleEndian (r.bytes.take 4).reverse = 0 ∨
        maxFrameBytes < ofLittleEndian (r.bytes.take 4).reverse
    · refine .inr ⟨.channel "invalid control frame length", ?_, nofun⟩
      simp only [recvFrame, hheader, if_pos hsize]
    · by_cases hwhole : ofLittleEndian (r.bytes.take 4).reverse ≤ (r.bytes.drop 4).length
      · have hraw := length_take_of_le hwhole
        refine .inl ⟨_, _, r.bytes.take 4, hlength, hraw.symm, ?_, by omega,
          by rw [take_append_drop, take_append_drop]⟩
        rw [← length_pos_iff]
        omega
      · obtain ⟨r'', hclosed⟩ := recvExact_short (r := r') (by rw [hrest]; exact not_le.mp hwhole)
        refine .inr ⟨.closed, ?_, nofun⟩
        simp only [recvFrame, hheader, if_neg hsize, hclosed]
  · obtain ⟨r', hclosed⟩ := recvExact_short (not_le.mp hfour)
    exact .inr ⟨.closed, by simp only [recvFrame, hclosed], nofun⟩

/-! ### What is written is read -/

variable {codec}

/-- The document can be sent. -/
def Fits (codec : FrameCodec α) (document : α) : Prop :=
  codec.dumps document ≠ [] ∧ (codec.dumps document).length ≤ maxFrameBytes

/-- The frames of documents, one after the other. -/
def frames (codec : FrameCodec α) (documents : List α) : List UInt8 :=
  documents.flatMap fun document =>
    (littleEndian 4 (codec.dumps document).length).reverse ++ codec.dumps document

theorem packet_of_fits {document : α} (h : Fits codec document) : packet codec document = .ok (frames codec [document]) := by
  rw [frames, flatMap_singleton]
  exact if_neg (not_or.mpr ⟨h.1, not_lt.mpr h.2⟩)

theorem isFrame_of_fits {raw : List UInt8} (hne : raw ≠ []) (hmax : raw.length ≤ maxFrameBytes) (rest : List UInt8) :
    IsFrame ((littleEndian 4 raw.length).reverse ++ (raw ++ rest)) raw rest := by
  refine ⟨_, ?_, ?_, hne, hmax, rfl⟩
  · rw [length_reverse, length_littleEndian]
  · rw [reverse_reverse]
    exact ofLittleEndian_littleEndian (hmax.trans_lt (by decide))

theorem recvAll_frames (hinverse : ∀ document, codec.loads (codec.dumps document) = .object document)
    {documents : List α} (hfit : ∀ document ∈ documents, Fits codec document) {fuel : ℕ}
    (hfuel : documents.length < fuel) (hbytes : r.bytes = frames codec documents) :
    recvAll codec fuel r = (documents, some .closed) := by
  induction documents generalizing r fuel with
  | nil =>
    obtain ⟨fuel, rfl⟩ := Nat.exists_eq_succ_of_ne_zero (Nat.ne_zero_of_lt hfuel)
    obtain ⟨r', hclosed⟩ := recvExact_short (show r.bytes.length < 4 by rw [hbytes]; exact Nat.zero_lt_succ 3)
    simp only [recvAll, recvFrame, hclosed]
  | cons document documents ih =>
    obtain ⟨fuel, rfl⟩ := Nat.exists_eq_succ_of_ne_zero (Nat.ne_zero_of_lt hfuel)
    obtain ⟨hne, hmax⟩ := hfit document mem_cons_self
    rw [frames, flatMap_cons, append_assoc] at hbytes
    obtain ⟨r', hread, hrest⟩ := recvFrame_of_isFrame codec (hbytes ▸ isFrame_of_fits hne hmax _)
    rw [readDocument, hinverse] at hread
    simp only [recvAll, hread, ih (fun d hd => hfit d (mem_cons_of_mem _ hd)) (Nat.lt_of_succ_lt_succ hfuel) hrest]

/-! ### Writing under the lock -/

namespace Senders

variable {s : Senders α} {documents : ℕ → List α}

/-- What was sent, and what is being sent. -/
def begun (s : Senders α) : List (ℕ × α) :=
  s.sent ++ (s.sending.map fun (thread, document, _) => (thread, document)).toList

/-- What the holder of the lock has still to write. -/
def left (s : Senders α) : List UInt8 := (s.sending.map fun (_, _, bytes) => bytes).getD []

structure Sound (codec : FrameCodec α) (documents : ℕ → List α) (s : Senders α) : Prop where
  wire : s.wire ++ s.left = frames codec (s.begun.map Prod.snd)
  order : ∀ thread, documents thread = ((s.begun.filter (·.1 = thread)).map Prod.snd) ++ s.waiting thread

theorem sound_start : (start documents).Sound codec documents := ⟨rfl, fun _ => rfl⟩

/-- **The step lemma.** -/
theorem Sound.step (h : s.Sound codec documents) (hfit : ∀ thread, ∀ document ∈ documents thread, Fits codec document)
    (move : SendStep) : (s.step codec move).Sound codec documents := by
  obtain ⟨hwire, horder⟩ := id h
  have hpacket : ∀ {thread document rest}, s.waiting thread = document :: rest →
      packet codec document = .ok (frames codec [document]) := by
    intro thread document rest hwaiting
    refine packet_of_fits (hfit thread document ?_)
    rw [horder thread, hwaiting]
    exact mem_append_right _ mem_cons_self
  fun_cases Senders.step with
  | case2 thread document rest hwaiting e he => exact nomatch (hpacket hwaiting).symm.trans he
  | case3 thread document rest hwaiting bytes hsending hbytes =>
    obtain rfl := Except.ok.inj ((hpacket hwaiting).symm.trans hbytes)
    simp only [left, begun, hsending, map_none, getD_none, toList_none, append_nil] at hwire horder
    refine ⟨by simp [left, begun, hwire, frames], fun other => ?_⟩
    by_cases heq : other = thread
    · subst heq
      simp [begun, horder other, hwaiting]
    · simp [begun, horder other, heq, Ne.symm heq]
  | case5 count thread document bytes hsending =>
    simp only [left, begun, hsending, map_some, getD_some] at hwire horder
    exact ⟨by simpa [left, begun] using hwire, horder⟩
  | case7 thread document hsending =>
    simp only [left, begun, hsending, map_some, getD_some, toList_some] at hwire horder
    exact ⟨by simpa [left, begun] using hwire, by simpa [left, begun] using horder⟩
  | _ => exact h

end Senders

/-- **Frames reach the other side whole and in order**, whoever else writes and however the bytes are split; and on any
bytes, what is read is one whole frame, and `recv_frame` raises an exception of another class only if `json.loads` does. -/
theorem control_frames_delivered (codec : FrameCodec α) :
    (∀ (documents : ℕ → List α) (moves : List SendStep) (splits : ℕ → ℕ) (fuel : ℕ),
      (∀ document, codec.loads (codec.dumps document) = .object document) →
      (∀ thread, ∀ document ∈ documents thread, Fits codec document) →
      let s := Run.exec (Senders.step codec) (.start documents) moves
      s.sending = none → s.sent.length < fuel →
        recvAll codec fuel ⟨s.wire, splits⟩ = (s.sent.map Prod.snd, some .closed) ∧
          ∀ thread, documents thread = s.sentBy thread ++ s.waiting thread) ∧
      ∀ r : Receiving,
        (∀ document, (recvFrame codec r).1 = .ok document →
          ∃ raw, IsFrame r.bytes raw (recvFrame codec r).2.bytes ∧ codec.loads raw = .object document) ∧
        ((∀ name, (recvFrame codec r).1 ≠ .error (.other name)) ↔
          ∀ raw rest, IsFrame r.bytes raw rest → ∀ name, codec.loads raw ≠ .raised name) := by
  refine ⟨?_, fun r => ⟨fun document hok => ?_, ?_⟩⟩
  · intro documents moves splits fuel hinverse hfit s hidle hfuel
    obtain ⟨hwire, horder⟩ : s.Sound codec documents :=
      Run.exec_of_forall (Senders.Sound codec documents) (fun _ move h => h.step hfit move) Senders.sound_start moves
    simp only [Senders.left, Senders.begun, hidle, map_none, getD_none, toList_none,
      append_nil] at hwire horder
    refine ⟨recvAll_frames hinverse (fun document hmem => ?_) (by rwa [length_map]) hwire, horder⟩
    obtain ⟨⟨thread, d⟩, hsent, rfl⟩ := mem_map.mp hmem
    refine hfit thread d ?_
    rw [horder thread]
    exact mem_append_left _ (mem_map.mpr ⟨_, mem_filter.mpr ⟨hsent, by simp⟩, rfl⟩)
  · rcases recvFrame_cases codec r with ⟨raw, rest, hframe⟩ | ⟨e, herror, -⟩
    · obtain ⟨r', hread, hrest⟩ := recvFrame_of_isFrame codec hframe
      refine ⟨raw, by rwa [hread, hrest], ?_⟩
      rw [hread, readDocument] at hok
      cases hloads : codec.loads raw with
      | object d =>
        rw [hloads] at hok
        rw [Except.ok.inj hok]
      | otherRoot | refused | raised name =>
        rw [hloads] at hok
        cases hok
    · cases herror.symm.trans hok
  · refine ⟨fun h raw rest hframe name hraised => ?_, fun h name hother => ?_⟩
    · obtain ⟨r', hread, -⟩ := recvFrame_of_isFrame codec hframe
      exact h name (by rw [hread, readDocument, hraised])
    · rcases recvFrame_cases codec r with ⟨raw, rest, hframe⟩ | ⟨e, herror, hown⟩
      · obtain ⟨r', hread, -⟩ := recvFrame_of_isFrame codec hframe
        rw [hread, readDocument] at hother
        cases hloads : codec.loads raw with
        | raised name' => exact h raw rest hframe name' hloads
        | object d | otherRoot | refused =>
          rw [hloads] at hother
          cases hother
      · exact hown name (Except.error.inj (herror.symm.trans hother))

/-- One document, and text that is nested too deeply: opening brackets. -/
def sampleCodec : FrameCodec Unit where
  dumps _ := [123, 125]
  loads raw :=
    if raw = [123, 125] then .object ()
    else if 100000 ≤ raw.length ∧ ∀ b ∈ raw, b = 91 then .raised "RecursionError" else .refused

theorem control_frames_delivered_sample :
    recvAll sampleCodec 3 ⟨[0, 0, 0, 2, 123, 125, 0, 0, 0, 2, 123, 125], fun k => k % 2⟩ = ([(), ()], some .closed) :=
  ((control_frames_delivered sampleCodec).1 (fun thread => if thread < 2 then [()] else [])
    [.enter 1, .write 3, .enter 0, .write 9, .release, .enter 0, .write 6, .release] (fun k => k % 2) 3 (fun _ => rfl)
    (fun _ _ _ => ⟨cons_ne_nil _ _, show 2 ≤ maxFrameBytes by decide⟩) (by decide) (by decide)).1

theorem nested_raises {n : ℕ} (h : 100000 ≤ n) (hmax : n ≤ maxFrameBytes) :
    (recvFrame sampleCodec ⟨(littleEndian 4 n).reverse ++ (List.replicate n 91 ++ []), fun _ => 0⟩).1
      = .error (.other "RecursionError") := by
  have hlength : (replicate n (91 : UInt8)).length = n := length_replicate
  have hframe := isFrame_of_fits (ne_nil_of_length_pos (by omega)) (hlength.trans_le hmax) []
  rw [hlength] at hframe
  obtain ⟨r', hread, -⟩ := recvFrame_of_isFrame sampleCodec (r := ⟨_, fun _ => 0⟩) hframe
  have hloads : sampleCodec.loads (replicate n 91) = .raised "RecursionError" := by
    refine (if_neg fun heq => ?_).trans (if_pos ⟨h.trans_eq hlength.symm, fun b hb => eq_of_mem_replicate hb⟩)
    have := hlength.symm.trans (congrArg length heq)
    rw [length_cons, length_singleton] at this
    omega
  rw [hread, readDocument, hloads]

/-- A frame of one hundred thousand brackets makes `recv_frame` raise a `RecursionError`. -/
theorem nested_frame_escapes :
    (recvFrame sampleCodec ⟨(littleEndian 4 100000).reverse ++ (List.replicate 100000 91 ++ []), fun _ => 0⟩).1
      = .error (.other "RecursionError") :=
  nested_raises le_rfl (by decide)

end ComputeMesh.Orchestrator
