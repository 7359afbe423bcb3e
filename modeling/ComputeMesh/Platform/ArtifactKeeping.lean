import ComputeMesh.Platform.ArtifactStore

/-!
# What a reference keeps

The invariant of the artifact store under all its calls, and what each of their steps does to it.

* `Shows`, `UnexpiredAt` — a reference shows the arguments of its put, and has not expired;
* `ArtifactWorld.Sound` — the invariant: files under their digests, rows for every reference, the bytes of the unexpired;
* `ArtifactWorld.Careful` — what is asked of a step: no purge removes a file between a put's look at it and its record,
  and a content that is stored is put again with the same MIME type and signature status only;
* `ArtifactWorld.Owes`, `Honoured` — what an answer says, and what is promised at every moment;
* `Sound.carry`, `Sound.withFiles` — the two rules for steps: those that leave the tables alone, and those on files.
-/

namespace ComputeMesh.Platform

open ComputeMesh.Text Dict ArtifactStore Option

/-- No two of these contents have the same digest. -/
def CollisionFree (C : List UInt8 → Prop) : Prop :=
  ∀ x y, C x → C y → Sha256.hexDigest x = Sha256.hexDigest y → x = y

/-- An expiry, if there is one, is still to come. -/
def UnexpiredAt (time : ℚ) (expiresAt : Option ℚ) : Prop := ∀ e, expiresAt = some e → time < e

theorem UnexpiredAt.earlier {time time' : ℚ} {expiresAt : Option ℚ} (h : UnexpiredAt time' expiresAt)
    (hle : time ≤ time') : UnexpiredAt time expiresAt := fun e he => lt_of_le_of_lt hle (h e he)

/-- A reference shows the arguments it was put with. -/
structure Shows (ref : ArtifactRef) (a : PutArguments) : Prop where
  artifactId : ref.artifactId = artifactIdOf a.data
  sessionId : ref.sessionId = a.sessionId
  turnId : ref.turnId = a.turnId
  principalId : ref.principalId = a.principalId
  name : ref.name = a.name
  producer : ref.producer = a.producer
  mimeType : ref.mimeType = a.mimeType
  sizeBytes : ref.sizeBytes = a.data.length
  expiresAt : ref.expiresAt = a.expiresAt
  signatureStatus : ref.signatureStatus = a.signatureStatus

/-! ### Names of files -/

@[simp] theorem digestOf_artifactIdOf (data : List UInt8) : digestOf (artifactIdOf data) = Sha256.hexDigest data := by
  have hdrop : (artifactIdOf data).toList.drop 7 = (Sha256.hexDigest data).toList := by
    rw [artifactIdOf, String.toList_append]
    exact List.drop_left' (by decide)
  have hstarts : startsWith (artifactIdOf data) "sha256:" = true := startsWith_append _ _
  rw [digestOf, if_pos hstarts, hdrop, String.ofList_toList]

theorem hexDigest_eq_of_storagePath {root : String} {x y : List UInt8}
    (h : storagePath root (artifactIdOf x) = storagePath root (artifactIdOf y)) :
    Sha256.hexDigest x = Sha256.hexDigest y := by
  simp only [storagePath, digestOf_artifactIdOf] at h
  exact (append_inj_of_length (by rw [Sha256.length_hexDigest, Sha256.length_hexDigest]) h).2

theorem artifactIdOf_eq {x y : List UInt8} (h : Sha256.hexDigest x = Sha256.hexDigest y) :
    artifactIdOf x = artifactIdOf y := by
  rw [artifactIdOf, artifactIdOf, h]

/-! ### The invariant -/

namespace ArtifactStore

/-- Where a content is stored. -/
def pathOf (s : ArtifactStore) (data : List UInt8) : String := storagePath s.root (artifactIdOf data)

/-- The reference is there, and shows what it was put with. -/
def Holds (s : ArtifactStore) (refId : String) (a : PutArguments) : Prop := ∃ ref, s.joined refId = some ref ∧ Shows ref a

/-- Files and rows belong to contents that were put; a reference has its artifact, and an unexpired one its file. -/
structure Sound (C : List UInt8 → Prop) (horizon : ℚ) (s : ArtifactStore) : Prop where
  files : ∀ path f, s.files.get? path = some f → C f.data ∧ path = s.pathOf f.data
  artifacts : ∀ id art, s.artifacts.get? id = some art →
    ∃ data, C data ∧ id = artifactIdOf data ∧ art.sizeBytes = data.length ∧ art.storagePath = s.pathOf data
  linked : ∀ refId r, s.refs.get? refId = some r → (s.artifacts.get? r.artifactId).isSome = true
  present : ∀ refId r, s.refs.get? refId = some r → UnexpiredAt horizon r.expiresAt →
    (s.files.get? (storagePath s.root r.artifactId)).isSome = true

theorem joined_eq_some {s : ArtifactStore} {refId : String} {ref : ArtifactRef} :
    s.joined refId = some ref ↔ ∃ r art, s.refs.get? refId = some r ∧ s.artifacts.get? r.artifactId = some art ∧
      refOf refId r art = ref := by
  simp [joined, bind_eq_some_iff]

end ArtifactStore

/-- Some of these references are to this artifact. -/
def Used (refs : Dict String ArtifactRefRow) (id : String) : Prop := ∃ refId r, refs.get? refId = some r ∧ r.artifactId = id

/-- A purge keeps the unexpired references, drops and selects contents that none of them is to, and nothing else. -/
structure OpenPurge.Sound (s : ArtifactStore) (horizon : ℚ) (p : OpenPurge) : Prop where
  timestamp : p.timestamp ≤ horizon
  refs : p.refs = s.keptRefs p.timestamp
  artifacts : ∀ id art, p.artifacts.get? id = some art → s.artifacts.get? id = some art
  used : ∀ id, Used p.refs id → p.artifacts.get? id = s.artifacts.get? id
  rows : ∀ row ∈ p.rows, ¬Used p.refs row.1 ∧ ∃ art, s.artifacts.get? row.1 = some art ∧ row.2 = art.storagePath

/-- A put is of one of the contents, and its file is there once it is ready. -/
structure PutCall.Sound (C : List UInt8 → Prop) (s : ArtifactStore) (c : PutCall) : Prop where
  content : C c.arguments.data
  ready : c.phase = .ready → (s.files.get? (s.pathOf c.arguments.data)).isSome = true

/-- A reader of a reference that had been returned has found it as it was put. -/
structure ReadCall.Sound (horizon : ℚ) (returned : List (String × PutArguments)) (c : ReadCall) : Prop where
  known : ∀ a, (c.refId, a) ∈ c.known → (c.refId, a) ∈ returned
  shows : ∀ a, (c.refId, a) ∈ c.known → UnexpiredAt horizon a.expiresAt → c.principalId = a.principalId ∧ Shows c.ref a
  measured : ∀ a marker, (c.refId, a) ∈ c.known → UnexpiredAt horizon a.expiresAt → c.phase = .measured marker →
    marker.2.1 = a.data.length

theorem ReadCall.Sound.later {horizon horizon' : ℚ} {returned returned' : List (String × PutArguments)} {c : ReadCall}
    (h : c.Sound horizon returned) (hle : horizon ≤ horizon') (hmore : ∀ x ∈ returned, x ∈ returned') :
    c.Sound horizon' returned' where
  known a ha := hmore _ (h.known a ha)
  shows a ha hlive := h.shows a ha (hlive.earlier hle)
  measured a marker ha hlive := h.measured a marker ha (hlive.earlier hle)

namespace ArtifactWorld

/-- **The invariant.** -/
structure Sound (C : List UInt8 → Prop) (w : ArtifactWorld) : Prop where
  store : w.store.Sound C w.horizon
  purge : ∀ p, w.purge = some p → p.Sound w.store w.horizon
  puts : ∀ call c, w.puts.get? call = some c → c.Sound C w.store
  returned : ∀ refId a, (refId, a) ∈ w.returned →
    C a.data ∧ (UnexpiredAt w.horizon a.expiresAt → w.store.Holds refId a)
  reads : ∀ call c, w.reads.get? call = some c → c.Sound w.horizon w.returned

/-- What is asked of a step. -/
def Careful (C : List UInt8 → Prop) (w : ArtifactWorld) (step : ℚ × ArtifactStep) : Prop :=
  match step.2 with
  | .put _ a => C a.data
  | .record call _ => ∀ c art, w.puts.get? call = some c →
    w.store.artifacts.get? (artifactIdOf c.arguments.data) = some art →
      art.mimeType = c.arguments.mimeType ∧ art.signatureStatus = c.arguments.signatureStatus
  | .unlink => ∀ p row rest, w.purge = some p → p.rows = row :: rest → ∀ call c, w.puts.get? call = some c →
    c.phase = .ready → artifactIdOf c.arguments.data ≠ row.1
  | _ => True

/-- What a reader is owed of an unexpired reference of its own. -/
def Yields (a : PutArguments) (kind : ReadKind) (result : Except ArtifactFailure Fetched) : Prop :=
  match kind with
  | .bytes => ∃ ref, Shows ref a ∧ result = .ok (.bytes ref a.data)
  | .chunk offset length => 0 ≤ offset → 1 ≤ length → length ≤ maxChunk → offset < a.data.length →
    ∃ ref, Shows ref a ∧
      result = .ok (.chunk ⟨ref, offset.toNat, (a.data.drop offset.toNat).take length.toNat, a.data.length⟩)

/-- What an answer says. -/
def Owes (w : ArtifactWorld) : ArtifactAnswer → Prop
  | .put a (.ok ref) => (ref.refId, a) ∈ w.returned ∧ Shows ref a
  | .put _ (.error _) => True
  | .read refId principalId kind known result => ∀ a, (refId, a) ∈ known → UnexpiredAt w.horizon a.expiresAt →
    (principalId = a.principalId → Yields a kind result) ∧
      (principalId ≠ a.principalId → ∃ failure, result = .error failure)
  | .listed sessionId principalId refs => (∀ ref ∈ refs, ref.principalId = principalId) ∧
    ∀ refId a, (refId, a) ∈ w.returned → UnexpiredAt w.horizon a.expiresAt → a.sessionId = sessionId →
      a.principalId = principalId → ∃ ref ∈ refs, ref.refId = refId ∧ Shows ref a
  | .purged _ => True

/-- **The promise**: the answer that was just given, and the bytes of every unexpired reference. -/
structure Honoured (w : ArtifactWorld) : Prop where
  answer : ∀ answer, w.answer = some answer → w.Owes answer
  live : ∀ refId a, (refId, a) ∈ w.returned → UnexpiredAt w.horizon a.expiresAt →
    ∃ f, w.store.files.get? (w.store.pathOf a.data) = some f ∧ f.data = a.data

variable {C : List UInt8 → Prop} {w : ArtifactWorld}

/-- **The bytes of an unexpired reference are there.** -/
theorem Sound.live (h : w.Sound C) (hC : CollisionFree C) {refId : String} {a : PutArguments}
    (hmem : (refId, a) ∈ w.returned) (hlive : UnexpiredAt w.horizon a.expiresAt) :
    ∃ f, w.store.files.get? (w.store.pathOf a.data) = some f ∧ f.data = a.data := by
  obtain ⟨hcontent, hholds⟩ := h.returned refId a hmem
  obtain ⟨ref, hjoined, hshows⟩ := hholds hlive
  obtain ⟨r, art, hr, -, rfl⟩ := joined_eq_some.mp hjoined
  have hexpiry : r.expiresAt = a.expiresAt := hshows.expiresAt
  have hid : r.artifactId = artifactIdOf a.data := hshows.artifactId
  have hpresent := h.store.present refId r hr (hexpiry ▸ hlive)
  rw [hid] at hpresent
  obtain ⟨f, hf⟩ := isSome_iff_exists.mp hpresent
  obtain ⟨hfile, hpath⟩ := h.store.files _ f hf
  exact ⟨f, hf, (hC _ _ hcontent hfile (hexDigest_eq_of_storagePath hpath)).symm⟩

/-! ### Steps that leave the tables alone -/

/-- The same tables and files. -/
structure SameStore (s s' : ArtifactStore) : Prop where
  root : s'.root = s.root
  files : s'.files = s.files
  artifacts : s'.artifacts = s.artifacts
  refs : s'.refs = s.refs

theorem SameStore.refl (s : ArtifactStore) : SameStore s s := ⟨rfl, rfl, rfl, rfl⟩

theorem SameStore.joined {s s' : ArtifactStore} (h : SameStore s s') (refId : String) : s'.joined refId = s.joined refId := by
  rw [ArtifactStore.joined, ArtifactStore.joined, h.refs, h.artifacts]

theorem SameStore.sound {s s' : ArtifactStore} (h : SameStore s s') {horizon horizon' : ℚ} (hle : horizon ≤ horizon')
    (hs : s.Sound C horizon) : s'.Sound C horizon' where
  files := by
    rw [h.files]
    intro path f hf
    rw [pathOf, h.root]
    exact hs.files path f hf
  artifacts := by
    rw [h.artifacts]
    intro id art hart
    obtain ⟨data, hdata⟩ := hs.artifacts id art hart
    refine ⟨data, ?_⟩
    rw [pathOf, h.root]
    exact hdata
  linked := by
    rw [h.refs, h.artifacts]
    exact hs.linked
  present := by
    rw [h.refs, h.files, h.root]
    exact fun refId r hr hlive => hs.present refId r hr (hlive.earlier hle)

/-- **The rule for steps that leave the tables, the files and the purge alone.** -/
theorem Sound.carry (h : w.Sound C) {w' : ArtifactWorld} (hstore : SameStore w.store w'.store)
    (hpurge : w'.purge = w.purge) (hreturned : w'.returned = w.returned) (hhorizon : w.horizon ≤ w'.horizon)
    (hputs : ∀ call c, w'.puts.get? call = some c → c.Sound C w.store)
    (hreads : ∀ call c, w'.reads.get? call = some c → c.Sound w'.horizon w.returned) : w'.Sound C where
  store := hstore.sound hhorizon h.store
  purge p hp := by
    obtain ⟨htime, hrefs, hartifacts, hused, hrows⟩ := h.purge p (hpurge ▸ hp)
    refine ⟨htime.trans hhorizon, ?_, ?_, ?_, ?_⟩
    · rw [hrefs, keptRefs, keptRefs, hstore.refs]
    · rw [hstore.artifacts]
      exact hartifacts
    · rw [hstore.artifacts]
      exact hused
    · rw [hstore.artifacts]
      exact hrows
  puts call c hc := by
    obtain ⟨hcontent, hready⟩ := hputs call c hc
    refine ⟨hcontent, ?_⟩
    rw [hstore.files, pathOf, hstore.root]
    exact hready
  returned refId a hmem := by
    obtain ⟨hcontent, hholds⟩ := h.returned refId a (hreturned ▸ hmem)
    refine ⟨hcontent, fun hlive => ?_⟩
    obtain ⟨ref, hjoined, hshows⟩ := hholds (hlive.earlier hhorizon)
    exact ⟨ref, (hstore.joined refId).trans hjoined, hshows⟩
  reads call c hc := hreturned ▸ hreads call c hc

/-- The start of every step: time goes on, and nothing has been answered. -/
def tick (w : ArtifactWorld) (time : ℚ) : ArtifactWorld := { w with horizon := max w.horizon time, answer := none }

theorem Sound.tick (h : w.Sound C) (time : ℚ) : (w.tick time).Sound C :=
  h.carry (.refl _) rfl rfl (le_max_left _ _) h.puts fun call c hc =>
    (h.reads call c hc).later (le_max_left _ _) fun _ hx => hx

theorem Sound.setPut (h : w.Sound C) (call : String) {c : PutCall} (hc : c.Sound C w.store) :
    ({ w with puts := w.puts.set call c } : ArtifactWorld).Sound C := by
  refine h.carry (.refl _) rfl rfl le_rfl ?_ h.reads
  intro call' c' hget
  rcases get?_set_eq_some.mp hget with ⟨-, rfl⟩ | ⟨-, hget⟩
  · exact hc
  · exact h.puts call' c' hget

theorem Sound.lookFor (h : w.Sound C) (call : String) {c : PutCall} (hc : c.Sound C w.store) :
    (w.lookFor call c).Sound C := by
  refine h.setPut call ⟨hc.content, ?_⟩
  intro hready
  by_cases hthere : w.store.files.contains (storagePath w.store.root (artifactIdOf c.arguments.data)) = true
  · exact hthere
  · dsimp only at hready
    rw [if_neg hthere] at hready
    cases hready

theorem Sound.answered (h : w.Sound C) (answer : Option ArtifactAnswer) :
    ({ w with answer := answer } : ArtifactWorld).Sound C :=
  h.carry (.refl _) rfl rfl le_rfl h.puts h.reads

theorem puts_erase {w : ArtifactWorld} (h : w.Sound C) {call call' : String} {c : PutCall}
    (hget : (w.puts.erase call).get? call' = some c) : c.Sound C w.store := by
  obtain ⟨-, hget⟩ := get?_erase_eq_some.mp hget
  exact h.puts call' c hget

theorem reads_erase {w : ArtifactWorld} (h : w.Sound C) {call call' : String} {c : ReadCall}
    (hget : (w.reads.erase call).get? call' = some c) : c.Sound w.horizon w.returned := by
  obtain ⟨-, hget⟩ := get?_erase_eq_some.mp hget
  exact h.reads call' c hget

theorem Sound.abandon (h : w.Sound C) (call : String) :
    ({ w with puts := w.puts.erase call, reads := w.reads.erase call } : ArtifactWorld).Sound C :=
  h.carry (.refl _) rfl rfl le_rfl (fun _ _ hget => puts_erase h hget) fun _ _ hget => reads_erase h hget

theorem Sound.finish (h : w.Sound C) (call : String) (c : ReadCall) (result : Except ArtifactFailure Fetched) :
    (w.finish call c result).Sound C :=
  h.carry (.refl _) rfl rfl le_rfl h.puts fun _ _ hget => reads_erase h hget

theorem Sound.goOn (h : w.Sound C) (call : String) {c : ReadCall} {phase : ReadPhase}
    (hc : ReadCall.Sound w.horizon w.returned { c with phase := phase }) : (w.goOn call c phase).Sound C := by
  refine h.carry (.refl _) rfl rfl le_rfl h.puts ?_
  intro call' c' hget
  simp only [ArtifactWorld.goOn] at hget
  rcases get?_set_eq_some.mp hget with ⟨-, rfl⟩ | ⟨-, hget⟩
  · exact hc
  · exact h.reads call' c' hget

/-! ### Puts -/

/-- **The rule for steps on files.**  The references are unchanged, and each file is still one of a content. -/
theorem Sound.withFiles (h : w.Sound C) {files : Dict String StoredFile} {puts : Dict String PutCall}
    {purge : Option OpenPurge}
    (hfiles : ∀ path f, files.get? path = some f → C f.data ∧ path = w.store.pathOf f.data)
    (hpresent : ∀ refId r, w.store.refs.get? refId = some r → UnexpiredAt w.horizon r.expiresAt →
      (files.get? (storagePath w.store.root r.artifactId)).isSome = true)
    (hpurge : ∀ p, purge = some p → p.Sound w.store w.horizon)
    (hputs : ∀ call c, puts.get? call = some c →
      C c.arguments.data ∧ (c.phase = .ready → (files.get? (w.store.pathOf c.arguments.data)).isSome = true)) :
    ({ w with store := { w.store with files := files }, puts := puts, purge := purge } : ArtifactWorld).Sound C where
  store := ⟨hfiles, h.store.artifacts, h.store.linked, hpresent⟩
  purge p hp := by
    obtain ⟨htime, hrefs, hartifacts, hused, hrows⟩ := hpurge p hp
    exact ⟨htime, hrefs, hartifacts, hused, hrows⟩
  puts call c hc := ⟨(hputs call c hc).1, (hputs call c hc).2⟩
  returned := h.returned
  reads := h.reads

theorem isSome_get?_set {d : Dict String StoredFile} {path path' : String} (f : StoredFile)
    (h : (d.get? path').isSome = true) : ((d.set path f).get? path').isSome = true := by
  rw [get?_set]
  split
  · rfl
  · exact h

theorem Sound.replaceFile (h : w.Sound C) (call : String) {c : PutCall} (hc : c.Sound C w.store) (inode : ℕ)
    (modified : ℤ) : (w.replaceFile call c inode modified).Sound C := by
  refine h.withFiles ?_ ?_ h.purge ?_
  · intro path f hf
    rw [get?_set] at hf
    split at hf
    case isTrue hpath =>
      cases hf
      exact ⟨hc.content, hpath⟩
    case isFalse => exact h.store.files path f hf
  · exact fun refId r hr hlive => isSome_get?_set _ (h.store.present refId r hr hlive)
  · intro call' c' hget
    rcases get?_set_eq_some.mp hget with ⟨-, rfl⟩ | ⟨-, hget⟩
    · refine ⟨hc.content, fun _ => ?_⟩
      rw [pathOf, get?_set_self]
      rfl
    · obtain ⟨hcontent, hready⟩ := h.puts call' c' hget
      exact ⟨hcontent, fun hphase => isSome_get?_set _ (hready hphase)⟩

end ArtifactWorld

namespace ArtifactStore

variable {s s' : ArtifactStore} {now : ℚ} {token : String} {a : PutArguments}

/-- `INSERT OR IGNORE`: the row that is under the content afterwards, and the others. -/
theorem exists_artifact (s : ArtifactStore) (now : ℚ) (a : PutArguments) :
    ∃ artifacts art, (if s.artifacts.contains (artifactIdOf a.data) then s.artifacts
        else s.artifacts.set (artifactIdOf a.data) (newArtifact s.root now a)) = artifacts ∧
      artifacts.get? (artifactIdOf a.data) = some art ∧
      (∀ id art', s.artifacts.get? id = some art' → artifacts.get? id = some art') ∧
      ∀ id art', artifacts.get? id = some art' →
        s.artifacts.get? id = some art' ∨ (id = artifactIdOf a.data ∧ art' = newArtifact s.root now a) := by
  by_cases hthere : s.artifacts.contains (artifactIdOf a.data) = true
  · obtain ⟨art, hart⟩ := isSome_iff_exists.mp hthere
    exact ⟨s.artifacts, art, if_pos hthere, hart, fun _ _ h => h, fun _ _ h => .inl h⟩
  · have hnone : s.artifacts.get? (artifactIdOf a.data) = none := by
      simpa [contains] using hthere
    refine ⟨_, newArtifact s.root now a, if_neg hthere, get?_set_self _ _ _, ?_, ?_⟩
    · intro id art' hart'
      have hne : id ≠ artifactIdOf a.data := by
        rintro rfl
        rw [hnone] at hart'
        cases hart'
      rw [get?_set_of_ne _ hne]
      exact hart'
    · intro id art' hart'
      rw [get?_set] at hart'
      split at hart'
      case isTrue hid => exact .inr ⟨hid, (some.inj hart').symm⟩
      case isFalse => exact .inl hart'

/-- **What the transaction of a put does.** -/
theorem recordPut_eq_ok {ref : ArtifactRef} (h : s.recordPut now token a = .ok (ref, s')) :
    s.refs.get? (refIdOf a token) = none ∧ ∃ artifacts art,
      s' = { s with artifacts := artifacts, refs := s.refs.set (refIdOf a token) (newRef now a) } ∧
      ref = refOf (refIdOf a token) (newRef now a) art ∧
      artifacts.get? (artifactIdOf a.data) = some art ∧
      (∀ id art', s.artifacts.get? id = some art' → artifacts.get? id = some art') ∧
      ∀ id art', artifacts.get? id = some art' →
        s.artifacts.get? id = some art' ∨ (id = artifactIdOf a.data ∧ art' = newArtifact s.root now a) := by
  obtain ⟨artifacts, art, heq, hart, hold, hnew⟩ := exists_artifact s now a
  rw [recordPut, heq] at h
  dsimp only at h
  split at h
  · cases h
  case isFalse habsent =>
    have hnone : s.refs.get? (refIdOf a token) = none := by simpa [contains] using habsent
    have hjoined : joined
        { s with artifacts := artifacts, refs := s.refs.set (refIdOf a token) (newRef now a) } (refIdOf a token)
          = some (refOf (refIdOf a token) (newRef now a) art) :=
      joined_eq_some.mpr ⟨newRef now a, art, get?_set_self _ _ _, hart, rfl⟩
    rw [hjoined] at h
    cases h
    exact ⟨hnone, artifacts, art, rfl, rfl, hart, hold, hnew⟩

theorem Holds.recordPut {ref : ArtifactRef} (h : s.recordPut now token a = .ok (ref, s')) {refId : String}
    {b : PutArguments} (hb : s.Holds refId b) : s'.Holds refId b := by
  obtain ⟨hnone, artifacts, art, rfl, -, -, hold, -⟩ := recordPut_eq_ok h
  obtain ⟨ref', hjoined, hshows⟩ := hb
  obtain ⟨r, art', hr, hart', rfl⟩ := joined_eq_some.mp hjoined
  have hne : refId ≠ refIdOf a token := by
    rintro rfl
    rw [hnone] at hr
    cases hr
  refine ⟨_, joined_eq_some.mpr ⟨r, art', ?_, hold _ _ hart', rfl⟩, hshows⟩
  exact (get?_set_of_ne _ hne _).trans hr

theorem Sound.recordPut {C : List UInt8 → Prop} {horizon : ℚ} (hs : s.Sound C horizon) (hcontent : C a.data)
    (hfile : (s.files.get? (s.pathOf a.data)).isSome = true) {ref : ArtifactRef}
    (h : s.recordPut now token a = .ok (ref, s')) : s'.Sound C horizon := by
  obtain ⟨hnone, artifacts, art, rfl, -, hart, hold, hnew⟩ := recordPut_eq_ok h
  refine ⟨hs.files, ?_, ?_, ?_⟩
  · intro id art' hart'
    rcases hnew id art' hart' with hthere | ⟨rfl, rfl⟩
    · exact hs.artifacts id art' hthere
    · exact ⟨a.data, hcontent, rfl, rfl, rfl⟩
  · intro refId r hr
    rcases get?_set_eq_some.mp hr with ⟨-, rfl⟩ | ⟨-, hr⟩
    · exact isSome_iff_exists.mpr ⟨art, hart⟩
    · obtain ⟨art', hart'⟩ := isSome_iff_exists.mp (hs.linked refId r hr)
      exact isSome_iff_exists.mpr ⟨art', hold _ _ hart'⟩
  · intro refId r hr hlive
    rcases get?_set_eq_some.mp hr with ⟨-, rfl⟩ | ⟨-, hr⟩
    · exact hfile
    · exact hs.present refId r hr hlive

/-- The returned reference shows its arguments, if the content was new or had the same MIME type and signature. -/
theorem Sound.shows_recordPut {C : List UInt8 → Prop} (hC : CollisionFree C) {horizon : ℚ} (hs : s.Sound C horizon)
    (hcontent : C a.data)
    (hsame : ∀ art, s.artifacts.get? (artifactIdOf a.data) = some art →
      art.mimeType = a.mimeType ∧ art.signatureStatus = a.signatureStatus)
    {ref : ArtifactRef} (h : s.recordPut now token a = .ok (ref, s')) : Shows ref a ∧ s'.joined ref.refId = some ref := by
  obtain ⟨-, artifacts, art, rfl, rfl, hart, -, hnew⟩ := recordPut_eq_ok h
  refine ⟨?_, joined_eq_some.mpr ⟨newRef now a, art, get?_set_self _ _ _, hart, rfl⟩⟩
  rcases hnew _ art hart with hthere | ⟨-, rfl⟩
  · obtain ⟨data, hdata, hid, hsize, -⟩ := hs.artifacts _ art hthere
    have hhex : Sha256.hexDigest a.data = Sha256.hexDigest data := by
      simpa only [digestOf_artifactIdOf] using congrArg digestOf hid
    obtain rfl : a.data = data := hC _ _ hcontent hdata hhex
    obtain ⟨hmime, hsign⟩ := hsame art hthere
    exact ⟨rfl, rfl, rfl, rfl, rfl, rfl, hmime, hsize, rfl, hsign⟩
  · exact ⟨rfl, rfl, rfl, rfl, rfl, rfl, rfl, rfl, rfl, rfl⟩

end ArtifactStore

namespace ArtifactWorld

variable {C : List UInt8 → Prop} {w : ArtifactWorld}

theorem Sound.recordCall (h : w.Sound C) (hC : CollisionFree C) (call token : String) {c : PutCall}
    (hc : c.Sound C w.store) (hready : c.phase = .ready) (hpurge : w.purge = none)
    (hsame : ∀ art, w.store.artifacts.get? (artifactIdOf c.arguments.data) = some art →
      art.mimeType = c.arguments.mimeType ∧ art.signatureStatus = c.arguments.signatureStatus) (now : ℚ) :
    (w.recordCall call token c now).Sound C ∧
      ∀ answer, (w.recordCall call token c now).answer = some answer → (w.recordCall call token c now).Owes answer := by
  unfold ArtifactWorld.recordCall
  split
  case h_1 failure hfail =>
    refine ⟨h.carry (.refl _) rfl rfl le_rfl (fun _ _ hget => puts_erase h hget) h.reads, ?_⟩
    intro answer hanswer
    cases hanswer
    trivial
  case h_2 ref store hok =>
    obtain ⟨hshows, hjoined⟩ := h.store.shows_recordPut hC hc.content hsame hok
    refine ⟨⟨h.store.recordPut hc.content (hc.ready hready) hok, ?_, ?_, ?_, ?_⟩, ?_⟩
    · intro p hp
      rw [show w.purge = some p from hp] at hpurge
      cases hpurge
    · intro call' c' hget
      obtain ⟨hcontent, hthere⟩ := puts_erase h hget
      obtain ⟨-, artifacts, art, rfl, -⟩ := recordPut_eq_ok hok
      exact ⟨hcontent, hthere⟩
    · intro refId a hmem
      rcases List.mem_cons.mp hmem with heq | hmem
      · cases heq
        exact ⟨hc.content, fun _ => ⟨ref, hjoined, hshows⟩⟩
      · obtain ⟨hcontent, hholds⟩ := h.returned refId a hmem
        exact ⟨hcontent, fun hlive => (hholds hlive).recordPut hok⟩
    · exact fun call' c' hget => (h.reads call' c' hget).later le_rfl fun x hx => List.mem_cons_of_mem _ hx
    · intro answer hanswer
      cases hanswer
      exact ⟨List.mem_cons_self, hshows⟩

end ArtifactWorld

/-! ### Reads -/

namespace ArtifactStore

variable {s : ArtifactStore} {now : ℚ} {refId principalId : String} {ref : ArtifactRef}

theorem getRef_eq_ok : s.getRef now refId principalId = .ok ref ↔
    s.joined refId = some ref ∧ ref.principalId = principalId ∧ UnexpiredAt now ref.expiresAt := by
  unfold getRef
  cases hjoined : s.joined refId with
  | none => simp
  | some found =>
    dsimp only
    have hexpiry : found.expiresAt.any (fun e => decide (e ≤ now)) = true ↔ ¬UnexpiredAt now found.expiresAt := by
      cases found.expiresAt <;> simp [UnexpiredAt]
    split
    · constructor
      · intro h
        cases h
      · rintro ⟨h, hprincipal, -⟩
        cases h
        contradiction
    · split
      · constructor
        · intro h
          cases h
        · rintro ⟨h, -, hlive⟩
          cases h
          exact absurd hlive (hexpiry.mp ‹_›)
      · constructor
        · intro h
          cases h
          exact ⟨rfl, not_not.mp ‹_›, not_not.mp fun hdead => absurd (hexpiry.mpr hdead) ‹_›⟩
        · rintro ⟨h, -, -⟩
          cases h
          rfl

theorem getRef_of_locate {kind : ReadKind} (h : s.locate now refId principalId kind = .ok ref) :
    s.getRef now refId principalId = .ok ref := by
  cases kind with
  | bytes => exact h
  | chunk offset length =>
    simp only [locate] at h
    split at h
    · cases h
    · obtain ⟨found, hfound, hrest⟩ := bind_eq_ok_iff.mp h
      split at hrest
      · cases hrest
      · cases hrest
        exact hfound

theorem locate_chunk_of_getRef {offset length : ℤ} (h : s.getRef now refId principalId = .ok ref) (hoffset : 0 ≤ offset)
    (hpos : 1 ≤ length) (hmax : length ≤ maxChunk) (hinside : offset < ref.sizeBytes) :
    s.locate now refId principalId (.chunk offset length) = .ok ref := by
  have hbounds : ¬(offset < 0 ∨ length < 1 ∨ maxChunk < length) := by
    rintro (hneg | hshort | hlong)
    · omega
    · omega
    · exact absurd hmax (not_le.mpr hlong)
  simp only [locate]
  rw [if_neg hbounds, h]
  exact if_neg (not_le.mpr hinside)

end ArtifactStore

namespace ArtifactWorld

variable {C : List UInt8 → Prop} {w : ArtifactWorld}

theorem Sound.getRef (h : w.Sound C) {refId : String} {a : PutArguments} (hmem : (refId, a) ∈ w.returned)
    (hlive : UnexpiredAt w.horizon a.expiresAt) {now : ℚ} (hnow : now ≤ w.horizon) :
    ∃ ref, w.store.getRef now refId a.principalId = .ok ref ∧ Shows ref a := by
  obtain ⟨ref, hjoined, hshows⟩ := (h.returned refId a hmem).2 hlive
  refine ⟨ref, getRef_eq_ok.mpr ⟨hjoined, hshows.principalId, ?_⟩, hshows⟩
  rw [hshows.expiresAt]
  exact hlive.earlier hnow

/-- **A reader begins.** -/
theorem Sound.read (h : w.Sound C) {now : ℚ} (hnow : now ≤ w.horizon) {call refId principalId : String} {kind : ReadKind}
    {ref : ArtifactRef} (hok : w.store.locate now refId principalId kind = .ok ref) :
    ({ w with reads := w.reads.set call ⟨refId, principalId, kind, ref, .located, w.returned⟩ } : ArtifactWorld).Sound C := by
  refine h.carry (.refl _) rfl rfl le_rfl h.puts ?_
  intro call' c hget
  rw [get?_set] at hget
  split at hget
  case isFalse => exact h.reads call' c hget
  case isTrue =>
    cases hget
    refine ⟨fun a ha => ha, ?_, ?_⟩
    · intro a ha hlive
      obtain ⟨found, hfound, hshows⟩ := h.getRef ha hlive hnow
      obtain ⟨hjoined, -, -⟩ := getRef_eq_ok.mp hfound
      obtain ⟨hjoined', hprincipal, -⟩ := getRef_eq_ok.mp (getRef_of_locate hok)
      obtain rfl := some.inj (hjoined.symm.trans hjoined')
      exact ⟨hprincipal.symm.trans hshows.principalId, hshows⟩
    · intro a marker ha hlive hphase
      cases hphase

/-- **A reader that is refused at once** was not owed what it asked for. -/
theorem Sound.owes_refused (h : w.Sound C) {now : ℚ} (hnow : now ≤ w.horizon) {refId principalId : String} {kind : ReadKind}
    {failure : ArtifactFailure} (hfail : w.store.locate now refId principalId kind = .error failure) :
    w.Owes (.read refId principalId kind w.returned (.error failure)) := by
  intro a ha hlive
  refine ⟨?_, fun _ => ⟨failure, rfl⟩⟩
  rintro rfl
  obtain ⟨ref, href, hshows⟩ := h.getRef ha hlive hnow
  cases kind with
  | bytes =>
    rw [locate, href] at hfail
    cases hfail
  | chunk offset length =>
    intro hoffset hpos hmax hinside
    rw [locate_chunk_of_getRef href hoffset hpos hmax (hshows.sizeBytes ▸ hinside)] at hfail
    cases hfail

theorem Sound.file (h : w.Sound C) (hC : CollisionFree C) {c : ReadCall} (hc : c.Sound w.horizon w.returned) {a : PutArguments}
    (ha : (c.refId, a) ∈ c.known) (hlive : UnexpiredAt w.horizon a.expiresAt) :
    ∃ f, w.store.files.get? (storagePath w.store.root c.ref.artifactId) = some f ∧ f.data = a.data := by
  rw [(hc.shows a ha hlive).2.artifactId]
  exact h.live hC (hc.known a ha) hlive

theorem Sound.finish_error (h : w.Sound C) {call : String} {c : ReadCall} {failure : ArtifactFailure}
    (hnone : ∀ a, (c.refId, a) ∈ c.known → UnexpiredAt w.horizon a.expiresAt → False) :
    (w.finish call c (.error failure)).Sound C ∧ ∀ answer, (w.finish call c (.error failure)).answer = some answer →
        (w.finish call c (.error failure)).Owes answer := by
  refine ⟨h.finish call c _, ?_⟩
  intro answer hanswer
  cases hanswer
  exact fun a ha hlive => (hnone a ha hlive).elim

theorem Sound.goOn_silent (h : w.Sound C) (hsilent : w.answer = none) {call : String} {c : ReadCall} {phase : ReadPhase}
    (hc : ReadCall.Sound w.horizon w.returned { c with phase := phase }) :
    (w.goOn call c phase).Sound C ∧
      ∀ answer, (w.goOn call c phase).answer = some answer → (w.goOn call c phase).Owes answer := by
  refine ⟨h.goOn call hc, ?_⟩
  intro answer hanswer
  rw [show (w.goOn call c phase).answer = w.answer from rfl, hsilent] at hanswer
  cases hanswer

theorem ReadCall_sound_phase {horizon : ℚ} {returned : List (String × PutArguments)} {c : ReadCall}
    (hc : c.Sound horizon returned) {phase : ReadPhase} (hphase : ∀ marker, phase ≠ .measured marker) :
    ReadCall.Sound horizon returned { c with phase := phase } :=
  ⟨hc.known, hc.shows, fun _ marker _ _ h => absurd h (hphase marker)⟩

theorem yields_deliver {a : PutArguments} {ref : ArtifactRef} (hshows : Shows ref a) (kind : ReadKind) :
    Yields a kind (kind.deliver ref a.data) := by
  cases kind with
  | bytes =>
    refine ⟨ref, hshows, if_neg ?_⟩
    rw [hshows.artifactId, digestOf_artifactIdOf]
    exact not_not.mpr rfl
  | chunk offset length =>
    intro _ _ _ _
    refine ⟨ref, hshows, ?_⟩
    rw [ReadKind.deliver, hshows.sizeBytes]

/-- **A reader's next step.** -/
theorem Sound.proceed (h : w.Sound C) (hC : CollisionFree C) (hsilent : w.answer = none) {call : String} {c : ReadCall}
    (hc : c.Sound w.horizon w.returned) :
    (w.proceed call c).Sound C ∧
      ∀ answer, (w.proceed call c).answer = some answer → (w.proceed call c).Owes answer := by
  have hfile : ∀ a, (c.refId, a) ∈ c.known → UnexpiredAt w.horizon a.expiresAt →
      ∃ f, w.store.files.get? (storagePath w.store.root c.ref.artifactId) = some f ∧ f.data = a.data :=
    fun a ha hlive => h.file hC hc ha hlive
  unfold ArtifactWorld.proceed
  generalize hget : w.store.files.get? (storagePath w.store.root c.ref.artifactId) = file at hfile ⊢
  cases hphase : c.phase with
  | located =>
    cases file with
    | none =>
      refine h.finish_error fun a ha hlive => ?_
      obtain ⟨f, hf, -⟩ := hfile a ha hlive
      cases hf
    | some f =>
      refine h.goOn_silent hsilent ⟨hc.known, hc.shows, ?_⟩
      intro a marker ha hlive hmarker
      cases hmarker
      obtain ⟨f', hf', hdata⟩ := hfile a ha hlive
      cases hf'
      exact congrArg List.length hdata
  | measured marker =>
    dsimp only
    split
    case isTrue hbad =>
      refine h.finish_error fun a ha hlive => ?_
      obtain ⟨f, hf, -⟩ := hfile a ha hlive
      rcases hbad with habsent | hsize
      · rw [habsent] at hf
        cases hf
      · exact hsize ((hc.measured a marker ha hlive hphase).trans (hc.shows a ha hlive).2.sizeBytes.symm)
    case isFalse =>
      split
      · exact h.goOn_silent hsilent (ReadCall_sound_phase hc (by rintro marker ⟨⟩))
      · exact h.goOn_silent hsilent (ReadCall_sound_phase hc (by rintro marker ⟨⟩))
  | hashing marker =>
    cases file with
    | none =>
      refine h.finish_error fun a ha hlive => ?_
      obtain ⟨f, hf, -⟩ := hfile a ha hlive
      cases hf
    | some g =>
      dsimp only
      split
      case isTrue hdigest =>
        refine h.finish_error fun a ha hlive => hdigest ?_
        obtain ⟨f, hf, hdata⟩ := hfile a ha hlive
        cases hf
        rw [(hc.shows a ha hlive).2.artifactId, digestOf_artifactIdOf, hdata]
      case isFalse =>
        have hgo : (w.goOn call c .verified).Sound C := h.goOn call (ReadCall_sound_phase hc (by rintro marker ⟨⟩))
        refine ⟨hgo.carry ⟨rfl, rfl, rfl, rfl⟩ rfl rfl le_rfl hgo.puts hgo.reads, ?_⟩
        intro answer hanswer
        rw [show w.answer = some answer from hanswer] at hsilent
        cases hsilent
  | verified =>
    cases file with
    | none =>
      refine h.finish_error fun a ha hlive => ?_
      obtain ⟨f, hf, -⟩ := hfile a ha hlive
      cases hf
    | some g =>
      refine ⟨h.finish call c _, ?_⟩
      intro answer hanswer
      cases hanswer
      intro a ha hlive
      obtain ⟨hprincipal, hshows⟩ := hc.shows a ha hlive
      obtain ⟨f, hf, hdata⟩ := hfile a ha hlive
      cases hf
      refine ⟨fun _ => ?_, fun hne => absurd hprincipal hne⟩
      rw [hdata]
      exact yields_deliver hshows c.kind

/-! ### Lists and purges -/

/-- **A list shows the unexpired references of its session and principal.** -/
theorem Sound.owes_listed (h : w.Sound C) {now : ℚ} (hnow : now ≤ w.horizon) (sessionId principalId : String) :
    w.Owes (.listed sessionId principalId (w.store.listForSession now sessionId principalId)) := by
  refine ⟨?_, ?_⟩
  · intro ref hmem
    rw [listForSession, List.mem_insertionSort, List.mem_filterMap] at hmem
    obtain ⟨⟨refId, r⟩, hrow, hpicked⟩ := hmem
    split at hpicked
    case isFalse => cases hpicked
    case isTrue hkeep =>
      obtain ⟨r', art, hr', -, rfl⟩ := joined_eq_some.mp hpicked
      rw [(mem_entries_iff _ _ _).mp hrow] at hr'
      cases hr'
      exact hkeep.2.1
  · intro refId a hmem hlive hsession hprincipal
    obtain ⟨ref, hjoined, hshows⟩ := (h.returned refId a hmem).2 hlive
    obtain ⟨r, art, hr, hart, rfl⟩ := joined_eq_some.mp hjoined
    refine ⟨_, ?_, rfl, hshows⟩
    rw [listForSession, List.mem_insertionSort, List.mem_filterMap]
    refine ⟨(refId, r), (mem_entries_iff _ _ _).mpr hr, ?_⟩
    have hsession' : r.sessionId = a.sessionId := hshows.sessionId
    have hprincipal' : r.principalId = a.principalId := hshows.principalId
    have hexpiry : r.expiresAt = a.expiresAt := hshows.expiresAt
    have hstill : r.expiresAt.all (fun e => decide (now < e)) = true := by
      rw [hexpiry, all_eq_true]
      exact fun e he => decide_eq_true (hlive.earlier hnow e he)
    rw [if_pos ⟨hsession'.trans hsession, hprincipal'.trans hprincipal, hstill⟩]
    exact hjoined

end ArtifactWorld

theorem get?_keptRefs {s : ArtifactStore} {timestamp : ℚ} {refId : String} {r : ArtifactRefRow} :
    (s.keptRefs timestamp).get? refId = some r ↔ s.refs.get? refId = some r ∧ UnexpiredAt timestamp r.expiresAt := by
  rw [keptRefs, get?_filter, filter_eq_some_iff]
  refine and_congr_right fun _ => ?_
  cases r.expiresAt <;> simp [UnexpiredAt]

theorem sound_beginPurge (s : ArtifactStore) {timestamp horizon : ℚ} (hle : timestamp ≤ horizon) :
    (s.beginPurge timestamp).Sound s horizon where
  timestamp := hle
  refs := rfl
  artifacts _ _ hart := hart
  used _ _ := rfl
  rows row hrow := by
    obtain ⟨⟨id, art⟩, hmem, rfl⟩ := List.mem_map.mp hrow
    obtain ⟨hentry, hkeep⟩ := List.mem_filter.mp hmem
    rw [Bool.and_eq_true, Bool.not_eq_true', List.any_eq_false] at hkeep
    refine ⟨?_, art, (mem_entries_iff _ _ _).mp hentry, rfl⟩
    rintro ⟨refId, r, hr, hid⟩
    exact hkeep.1 r (mem_values_of_get? hr) (beq_iff_eq.mpr hid)

namespace ArtifactWorld

variable {C : List UInt8 → Prop} {w : ArtifactWorld}

section

variable (h : w.Sound C) {p : OpenPurge} (hp : w.purge = some p)
include h hp

theorem Sound.used_of_live {refId : String} {r : ArtifactRefRow}
    (hr : w.store.refs.get? refId = some r) (hlive : UnexpiredAt w.horizon r.expiresAt) :
    p.refs.get? refId = some r := by
  rw [(h.purge p hp).refs]
  exact get?_keptRefs.mpr ⟨hr, hlive.earlier (h.purge p hp).timestamp⟩

/-- **A file is deleted** that no unexpired reference and no ready put needs. -/
theorem Sound.unlink {row : String × String} {rest : List (String × String)} (hrows : p.rows = row :: rest)
    (hputs : ∀ call c, w.puts.get? call = some c → c.phase = .ready → artifactIdOf c.arguments.data ≠ row.1) :
    ({ w with
      store := { w.store with files := w.store.files.erase row.2 }
      purge := some { p with artifacts := p.artifacts.erase row.1, rows := rest, removed := p.removed + 1 } } :
        ArtifactWorld).Sound C := by
  obtain ⟨htime, hrefs, hartifacts, hused, hselected⟩ := h.purge p hp
  obtain ⟨hunused, art, hart, hpath⟩ := hselected row (hrows ▸ List.mem_cons_self)
  obtain ⟨data, hdata, hid, -, hstored⟩ := h.store.artifacts row.1 art hart
  -- another content is another file
  have hother : ∀ data', artifactIdOf data' ≠ row.1 → w.store.pathOf data' ≠ row.2 := by
    intro data' hne heq
    rw [hpath, hstored] at heq
    exact hne ((artifactIdOf_eq (hexDigest_eq_of_storagePath heq)).trans hid.symm)
  refine h.withFiles ?_ ?_ ?_ ?_
  · intro path f hf
    obtain ⟨-, hf⟩ := get?_erase_eq_some.mp hf
    exact h.store.files path f hf
  · intro refId r hr hlive
    obtain ⟨art', hart'⟩ := isSome_iff_exists.mp (h.store.linked refId r hr)
    obtain ⟨data', -, hid', -⟩ := h.store.artifacts _ art' hart'
    have hne : artifactIdOf data' ≠ row.1 :=
      fun heq => hunused ⟨refId, r, h.used_of_live hp hr hlive, hid'.trans heq⟩
    have hkept : storagePath w.store.root r.artifactId ≠ row.2 := by
      rw [hid']
      exact hother data' hne
    rw [get?_erase_of_ne _ hkept]
    exact h.store.present refId r hr hlive
  · intro p' hp'
    cases hp'
    refine ⟨htime, hrefs, ?_, ?_, ?_⟩
    · intro id art' hart'
      obtain ⟨-, hart'⟩ := get?_erase_eq_some.mp hart'
      exact hartifacts id art' hart'
    · intro id hid'
      have hne : id ≠ row.1 := fun heq => hunused (heq ▸ hid')
      rw [get?_erase_of_ne _ hne]
      exact hused id hid'
    · exact fun row' hrow' => hselected row' (hrows ▸ List.mem_cons_of_mem _ hrow')
  · intro call c hc
    obtain ⟨hcontent, hready⟩ := h.puts call c hc
    refine ⟨hcontent, fun hphase => ?_⟩
    rw [get?_erase_of_ne _ (hother _ (hputs call c hc hphase))]
    exact hready hphase

/-- **A purge commits.** -/
theorem Sound.commit : ({ w with
      store := { w.store with refs := p.refs, artifacts := p.artifacts }
      purge := none
      answer := some (.purged p.removed) } : ArtifactWorld).Sound C := by
  obtain ⟨htime, hrefs, hartifacts, hused, -⟩ := h.purge p hp
  have hkept : ∀ refId r, p.refs.get? refId = some r → w.store.refs.get? refId = some r := by
    intro refId r hr
    rw [hrefs] at hr
    exact (get?_keptRefs.mp hr).1
  refine ⟨⟨h.store.files, ?_, ?_, ?_⟩, nofun, ?_, ?_, h.reads⟩
  · exact fun id art hart => h.store.artifacts id art (hartifacts id art hart)
  · intro refId r hr
    rw [hused r.artifactId ⟨refId, r, hr, rfl⟩]
    exact h.store.linked refId r (hkept refId r hr)
  · exact fun refId r hr hlive => h.store.present refId r (hkept refId r hr) hlive
  · exact fun call c hc => ⟨(h.puts call c hc).content, (h.puts call c hc).ready⟩
  · intro refId a hmem
    obtain ⟨hcontent, hholds⟩ := h.returned refId a hmem
    refine ⟨hcontent, fun hlive => ?_⟩
    obtain ⟨ref, hjoined, hshows⟩ := hholds hlive
    obtain ⟨r, art, hr, hart, rfl⟩ := joined_eq_some.mp hjoined
    have hexpiry : r.expiresAt = a.expiresAt := hshows.expiresAt
    have hstill := h.used_of_live hp hr (hexpiry ▸ hlive)
    refine ⟨_, joined_eq_some.mpr ⟨r, art, hstill, ?_, rfl⟩, hshows⟩
    exact (hused r.artifactId ⟨refId, r, hstill, rfl⟩).trans hart

end

end ArtifactWorld

end ComputeMesh.Platform
