import ComputeMesh.Lib.Json
import ComputeMesh.Lib.Sha256
import ComputeMesh.Platform.Environment

/-!
# The local workspace transport

A transport that keeps the files of an environment in a directory of its own.  It remembers the leases it issued with
their directories, and the answers of writes by their idempotency keys.

* `workspacePath`, `safePath` — the directory of an environment, and the file a request names in it;
* `leaseWorkspace` — the check of a presented lease;
* `localTransport` — the methods, over the transport with its files;
* `safePath_eq_ok` — **where a request's path leads.**

`touched` lists the files a call read or wrote, `issued` and `granted` the leases it handed out; the statements use them,
the calls do not.
-/

namespace ComputeMesh.Platform

open ComputeMesh.PosixPath ComputeMesh.Text List

/-- What a call reads from outside: the clock, at the check of the lease and later, two random tokens, and whether the
write of the temporary file fails. -/
structure WorkspaceEnv where
  now : ℚ
  later : ℚ
  leaseToken : String
  fileToken : String
  writeFails : Bool := false

/-- An entry of `_leases`. -/
structure WorkspaceLease where
  environmentId : String
  workspace : Path
  revision : ℤ

/-- The answers of the operations.  The text of a file is its data decoded; whether an answer is a replay is said of
writes with a key alone. -/
inductive WorkspaceAnswer
  | healthy (environmentId : String)
  | content (path : String) (data : List UInt8)
  | written (path : String) (sizeBytes : ℕ) (idempotencyReplay : Option Bool)
  | artifact (ref : String)
  deriving DecidableEq

/-- `dict(answer, idempotency_replay=flag)`. -/
def WorkspaceAnswer.flagged (flag : Bool) : WorkspaceAnswer → WorkspaceAnswer
  | written path sizeBytes _ => written path sizeBytes (some flag)
  | answer => answer

/-- The arguments of `put_bytes`. -/
structure ArtifactPut where
  data : List UInt8
  sessionId : String
  turnId : String
  principalId : String
  name : String
  mimeType : String
  refId : Option String

/-- The artifact store as the transport sees it, with the decoder of its contents. -/
structure ArtifactSink where
  b64decode : String → Option (List UInt8)
  putBytes : ArtifactPut → Except EnvironmentFailure String

structure LocalWorkspaceTransport where
  root : Path
  artifactStore : Option ArtifactSink
  principalId : String
  maxFileBytes : ℕ
  allowMesh : Bool
  leases : Dict String WorkspaceLease
  idempotency : Dict (String × String) (String × WorkspaceAnswer)

/-- The transport with the files it works on. -/
structure Workspaces extends LocalWorkspaceTransport where
  files : FileTree
  touched : List Path
  issued : Dict String EnvironmentSpec
  granted : List EnvironmentLease

namespace Workspaces

variable (w : Workspaces) (env : WorkspaceEnv)

/-- The directory of an environment, before it is resolved. -/
def candidate (spec : SpecFields) : Path := w.root ++ "sessions" :: (parts spec.sessionId ++ parts spec.environmentId)

def workspacePath (spec : SpecFields) : Except EnvironmentFailure (Path × Workspaces) :=
  let resolved := w.files.resolve (w.candidate spec)
  if ¬w.root <+: resolved then .error (.localWorkspace "workspace escaped transport root")
  else
    match w.files.mkdirs [] resolved with
    | none => .error (.os "not a directory")
    | some files => .ok (resolved, { w with files := files })

/-- The text of a request's path: `str(raw or "")`. -/
def pathText (raw : Option PayloadValue) : String :=
  match raw with
  | some value => if value.truthy then value.str else ""
  | none => ""

def relativePath (raw : Option PayloadValue) : Except EnvironmentFailure (List String) :=
  let value := pathText raw
  if value = "" ∨ hasText "\\" value = true then
    .error (.localWorkspace "workspace path must be a non-empty POSIX-relative path")
  else if isAbsolute value = true ∨ ".." ∈ parts value ∨ "." ∈ parts value then
    .error (.localWorkspace "workspace path escapes the environment")
  else .ok (parts value)

def safePath (workspace : Path) (raw : Option PayloadValue) : Except EnvironmentFailure Path :=
  relativePath raw >>= fun relative =>
    let target := w.files.resolve (workspace ++ relative)
    if ¬workspace <+: target then .error (.localWorkspace "workspace path escapes the environment")
    else if relative.inits.any (fun q => decide (q ≠ []) && w.files.isLink (workspace ++ q)) = true then
      .error (.localWorkspace "symlink paths are not allowed")
    else .ok target

/-- `_lease_workspace`: the expiry is the one the lease presents. -/
def leaseWorkspace (lease : EnvironmentLease) : Except EnvironmentFailure Path :=
  match w.leases.get? lease.leaseId with
  | none => .error (.localWorkspace "unknown workspace lease")
  | some record =>
    if record.environmentId ≠ lease.environmentId then .error (.localWorkspace "unknown workspace lease")
    else if lease.expiresAt ≤ env.now then .error (.localWorkspace "workspace lease has expired")
    else .ok record.workspace

def prepare (spec : EnvironmentSpec) : Except EnvironmentFailure EnvironmentLease × Workspaces :=
  if spec.kind ≠ .selfHosted ∧ ¬(w.allowMesh = true ∧ spec.kind = .mesh) then
    (.error (.localWorkspace "local workspace transport does not allow this environment kind"), w)
  else
    match w.workspacePath spec.toSpecFields with
    | .error failure => (.error failure, w)
    | .ok (workspace, w') =>
      let lease : EnvironmentLease := ⟨"localws_" ++ env.leaseToken, spec.environmentId, env.now,
        env.now + spec.leaseSeconds, 1⟩
      (.ok lease, { w' with
        leases := w'.leases.set lease.leaseId ⟨spec.environmentId, workspace, lease.revision⟩
        issued := w'.issued.set lease.leaseId spec
        granted := lease :: w'.granted })

def heartbeat (lease : EnvironmentLease) : Except EnvironmentFailure EnvironmentLease × Workspaces :=
  match w.leaseWorkspace env lease with
  | .error failure => (.error failure, w)
  | .ok workspace =>
    let renewed : EnvironmentLease := { lease with
      expiresAt := max lease.expiresAt (env.later + 1), revision := lease.revision + 1 }
    (.ok renewed, { w with
      leases := w.leases.set lease.leaseId ⟨lease.environmentId, workspace, renewed.revision⟩
      granted := renewed :: w.granted })

def idempotencyDigest (request : EnvironmentRequest) : String :=
  Sha256.sha256Hex (request.operation.value ++ "\x00" ++
    Json.dumpsObject (request.payload.entries.map fun field => (field.1, field.2.json)))

def idempotencyKey (lease : EnvironmentLease) (request : EnvironmentRequest) : Option (String × String) :=
  match request.idempotencyKey with
  | some key => if key = "" then none else some (lease.environmentId, key)
  | none => none

def replayIdempotent (lease : EnvironmentLease) (request : EnvironmentRequest) :
    Except EnvironmentFailure (Option WorkspaceAnswer) :=
  match idempotencyKey lease request with
  | none => .ok none
  | some key =>
    match w.idempotency.get? key with
    | none => .ok none
    | some (digest, answer) =>
      if digest ≠ idempotencyDigest request then
        .error (.localWorkspace "idempotency key reused with different workspace request")
      else .ok (some (answer.flagged true))

/-- `_remember_idempotent`, of an answer whose key was not in use. -/
def rememberIdempotent (lease : EnvironmentLease) (request : EnvironmentRequest) (answer : WorkspaceAnswer) :
    WorkspaceAnswer × Workspaces :=
  match idempotencyKey lease request with
  | none => (answer, w)
  | some key =>
    (answer.flagged false,
      { w with idempotency := w.idempotency.set key (idempotencyDigest request, answer.flagged false) })

/-- `WORKSPACE_READ`. -/
def read (workspace : Path) (request : EnvironmentRequest) : Except EnvironmentFailure WorkspaceAnswer × Workspaces :=
  match w.safePath workspace (request.payload.get? "path") with
  | .error failure => (.error failure, w)
  | .ok target =>
    match w.files target with
    | some (.file data) =>
      if w.maxFileBytes < data.length then (.error (.localWorkspace "workspace file exceeds the read limit"), w)
      else (.ok (.content (pathText (request.payload.get? "path")) data), { w with touched := target :: w.touched })
    | _ => (.error (.localWorkspace "workspace file not found"), w)

/-- The temporary file of a write: `.name.token.tmp` beside the target. -/
def temporaryOf (token : String) (target : Path) : Path :=
  target.dropLast ++ ["." ++ target.getLastD "" ++ "." ++ token ++ ".tmp"]

/-- Write the temporary file, which a link of that name would redirect, and put it in the place of the target. -/
def replaceFile (target : Path) (data : List UInt8) : Except EnvironmentFailure Unit × Workspaces :=
  let temporary := temporaryOf env.fileToken target
  let written := w.files.resolve temporary
  if w.files written = some .directory then (.error (.os "is a directory"), w)
  else
    let filled := w.files.put written (some (.file data))
    let touching := { w with files := filled.put temporary none, touched := written :: w.touched }
    if env.writeFails then (.error (.os "write failed"), touching)
    else if target = [] ∨ w.files target = some .directory then (.error (.os "is a directory"), touching)
    else (.ok (), { touching with
      files := touching.files.put target (filled temporary), touched := target :: touching.touched })

def utf8 (text : String) : List UInt8 := text.toList.flatMap String.utf8EncodeChar

/-- `WORKSPACE_WRITE`. -/
def write (workspace : Path) (lease : EnvironmentLease) (request : EnvironmentRequest) :
    Except EnvironmentFailure WorkspaceAnswer × Workspaces :=
  match w.replayIdempotent lease request with
  | .error failure => (.error failure, w)
  | .ok (some answer) => (.ok answer, w)
  | .ok none =>
    match w.safePath workspace (request.payload.get? "path") with
    | .error failure => (.error failure, w)
    | .ok target =>
      match request.payload.get? "content" with
      | some (.text content) =>
        if w.maxFileBytes < (utf8 content).length then
          (.error (.localWorkspace "workspace file exceeds the write limit"), w)
        else if w.files.isPresent target = true ∧ (request.payload.get? "overwrite").any PayloadValue.truthy = false then
          (.error (.localWorkspace "workspace file already exists"), w)
        else
          match w.files.mkdirs [] target.dropLast with
          | none => (.error (.os "not a directory"), w)
          | some files =>
            match { w with files := files }.replaceFile env target (utf8 content) with
            | (.error failure, w') => (.error failure, w')
            | (.ok (), w') =>
              let answer := w'.rememberIdempotent lease request
                (.written (pathText (request.payload.get? "path")) (utf8 content).length none)
              (.ok answer.1, answer.2)
      | _ => (.error (.localWorkspace "workspace content must be text"), w)

/-- `str(payload.get(key) or fallback)`. -/
def textOf (request : EnvironmentRequest) (key fallback : String) : String :=
  match request.payload.get? key with
  | some value => if value.truthy then value.str else fallback
  | none => fallback

/-- `ARTIFACT_WRITE`: the content goes to the artifact store, not to the workspace. -/
def artifactWrite (lease : EnvironmentLease) (request : EnvironmentRequest) :
    Except EnvironmentFailure WorkspaceAnswer :=
  match w.replayIdempotent lease request with
  | .error failure => .error failure
  | .ok (some answer) => .ok answer
  | .ok none =>
    match w.artifactStore with
    | none => .error (.localWorkspace "artifact store is not configured")
    | some sink =>
      match request.payload.get? "content_base64" with
      | some (.text encoded) =>
        match sink.b64decode encoded with
        | none => .error (.localWorkspace "artifact content is not valid base64")
        | some data =>
          if w.maxFileBytes < data.length then .error (.localWorkspace "artifact exceeds the workspace limit")
          else (sink.putBytes
            { data := data
              sessionId := lease.environmentId
              turnId := textOf request "turn_id" request.requestId
              principalId := w.principalId
              name := textOf request "name" "artifact.bin"
              mimeType := textOf request "mime_type" "application/octet-stream"
              refId := request.idempotencyKey }).map .artifact
      | _ => .error (.localWorkspace "artifact content_base64 is required")

def execute (lease : EnvironmentLease) (request : EnvironmentRequest) :
    Except EnvironmentFailure WorkspaceAnswer × Workspaces :=
  match w.leaseWorkspace env lease with
  | .error failure => (.error failure, w)
  | .ok workspace =>
    match request.operation with
    | .health => (.ok (.healthy lease.environmentId), w)
    | .workspaceRead => w.read workspace request
    | .workspaceWrite => w.write env workspace lease request
    | .artifactWrite => (w.artifactWrite lease request, w)
    | operation => (.error (.policyDenied ("local workspace operation is not supported: " ++ operation.value)), w)

def shutdown (lease : EnvironmentLease) : Except EnvironmentFailure Unit × Workspaces :=
  (.ok (), { w with leases := w.leases.erase lease.leaseId, issued := w.issued.erase lease.leaseId })

/-! ### What the calls keep -/

/-- The leases are the same, and no link is new. -/
structure Kept (w w' : Workspaces) : Prop where
  root : w'.root = w.root
  leases : w'.leases = w.leases
  issued : w'.issued = w.issued
  granted : w'.granted = w.granted
  links : ∀ p, w'.files.isLink p = true → w.files.isLink p = true

theorem Kept.refl (w : Workspaces) : Kept w w := ⟨rfl, rfl, rfl, rfl, fun _ h => h⟩

theorem Kept.trans {w w' w'' : Workspaces} (h : Kept w w') (h' : Kept w' w'') : Kept w w'' where
  root := h'.root.trans h.root
  leases := h'.leases.trans h.leases
  issued := h'.issued.trans h.issued
  granted := h'.granted.trans h.granted
  links p hp := h.links p (h'.links p hp)

/-- Nothing on or above this path is a link, and it has no double dots. -/
def Solid (w : Workspaces) (p : Path) : Prop := ".." ∉ p ∧ w.files.Plain [] p

theorem Solid.isLink {w : Workspaces} {p q : Path} (h : w.Solid p) (hq : q <+: p) (hne : q ≠ []) :
    w.files.isLink q = false := by
  have := h.2 q hq hne
  simpa using this

theorem relativePath_eq_ok {raw : Option PayloadValue} {relative : List String} (h : relativePath raw = .ok relative) :
    pathText raw ≠ "" ∧ ".." ∉ relative ∧ relative = parts (pathText raw) := by
  simp only [relativePath, ite_error_eq_ok_iff, not_or] at h
  obtain ⟨⟨hne, -⟩, ⟨-, hdots, -⟩, h⟩ := h
  cases h
  exact ⟨hne, hdots, rfl⟩

variable {workspace : Path}

/-- **Where a request's path leads**: to its components below the workspace, with no link on the way. -/
theorem safePath_eq_ok {target : Path} {raw : Option PayloadValue} (hsolid : w.Solid workspace)
    (h : w.safePath workspace raw = .ok target) :
    pathText raw ≠ "" ∧ target = workspace ++ parts (pathText raw) ∧ w.Solid target := by
  obtain ⟨relative, hrelative, h⟩ := bind_eq_ok_iff.mp h
  obtain ⟨hne, hdots, rfl⟩ := relativePath_eq_ok hrelative
  simp only [ite_error_eq_ok_iff] at h
  obtain ⟨-, hlinks, h⟩ := h
  have hplain : w.Solid (workspace ++ parts (pathText raw)) := by
    refine ⟨?_, ?_⟩
    · intro hmem
      rcases mem_append.mp hmem with hmem | hmem
      · exact hsolid.1 hmem
      · exact hdots hmem
    · intro q hq hqne
      show w.files.isLink q = false
      rcases prefix_or_prefix_of_prefix hq (prefix_append workspace _) with hup | ⟨r, rfl⟩
      · exact hsolid.isLink hup hqne
      · have hr : r <+: parts (pathText raw) := (prefix_append_right_inj workspace).mp hq
        by_cases hrne : r = []
        · subst hrne
          rw [append_nil] at hqne ⊢
          exact hsolid.isLink (prefix_refl _) hqne
        · by_contra hlink
          rw [Bool.not_eq_false] at hlink
          refine hlinks (any_eq_true.mpr ⟨r, (mem_inits r _).mpr hr, ?_⟩)
          simp [hrne, hlink]
  rw [FileTree.resolve_eq_self hplain.1 hplain.2] at h
  cases h
  exact ⟨hne, rfl, hplain⟩

variable {lease : EnvironmentLease}

theorem leaseWorkspace_eq_ok (h : w.leaseWorkspace env lease = .ok workspace) :
    ∃ record, w.leases.get? lease.leaseId = some record ∧ record.environmentId = lease.environmentId ∧
      env.now < lease.expiresAt ∧ record.workspace = workspace := by
  unfold leaseWorkspace at h
  split at h
  · cases h
  · rename_i record hget
    simp only [ite_error_eq_ok_iff, not_not, not_le] at h
    obtain ⟨hid, hlive, h⟩ := h
    cases h
    exact ⟨record, hget, hid, hlive, rfl⟩

theorem temporaryName_ne_dots (name token : String) : "." ++ name ++ "." ++ token ++ ".tmp" ≠ ".." := by
  intro h
  have hlength := congrArg (fun s : String => s.toList.length) h
  simp at hlength
  omega

/-- The temporary file beside a target that can be reached can be reached, if its own name is no link. -/
theorem solid_temporaryOf {target : Path} (hsolid : w.Solid target)
    (hfresh : w.files.isLink (temporaryOf env.fileToken target) = false) :
    w.Solid (temporaryOf env.fileToken target) := by
  refine ⟨?_, ?_⟩
  · intro hmem
    rcases mem_append.mp hmem with hmem | hmem
    · exact hsolid.1 (mem_of_mem_dropLast hmem)
    · exact temporaryName_ne_dots _ _ (mem_singleton.mp hmem).symm
  · intro q hq hne
    show w.files.isLink q = false
    rcases prefix_concat_iff.mp hq with rfl | hq
    · exact hfresh
    · exact hsolid.isLink (hq.trans ( dropLast_prefix target)) hne

/-- **What putting a file in place touches**: the temporary file and the target. -/
theorem replaceFile_spec {target : Path} (data : List UInt8) (hsolid : w.Solid target)
    (hfresh : w.files.isLink (temporaryOf env.fileToken target) = false) :
    Kept w (w.replaceFile env target data).2 ∧
      ∀ p ∈ (w.replaceFile env target data).2.touched,
        p ∈ w.touched ∨ p = temporaryOf env.fileToken target ∨ p = target := by
  have hresolve : w.files.resolve (temporaryOf env.fileToken target) = temporaryOf env.fileToken target := by
    have htemporary := w.solid_temporaryOf env hsolid hfresh
    exact FileTree.resolve_eq_self htemporary.1 htemporary.2
  have hfilled : (w.files.put (temporaryOf env.fileToken target) (some (.file data)))
      (temporaryOf env.fileToken target) = some (.file data) := by simp [FileTree.put]
  have hlinks : ∀ p, ((w.files.put (temporaryOf env.fileToken target) (some (.file data))).put
      (temporaryOf env.fileToken target) none).isLink p = true → w.files.isLink p = true :=
    fun p hp => FileTree.isLink_put (by simp) (FileTree.isLink_put (by simp) hp)
  simp only [replaceFile, hresolve]
  split
  · exact ⟨Kept.refl w, fun p hp => .inl hp⟩
  · split
    · refine ⟨⟨rfl, rfl, rfl, rfl, hlinks⟩, ?_⟩
      intro p hp
      rcases mem_cons.mp hp with rfl | hp
      · exact .inr (.inl rfl)
      · exact .inl hp
    · split
      · refine ⟨⟨rfl, rfl, rfl, rfl, hlinks⟩, ?_⟩
        intro p hp
        rcases mem_cons.mp hp with rfl | hp
        · exact .inr (.inl rfl)
        · exact .inl hp
      · rw [hfilled]
        refine ⟨⟨rfl, rfl, rfl, rfl, fun p hp => hlinks p (FileTree.isLink_put (by simp) hp)⟩, ?_⟩
        intro p hp
        rcases mem_cons.mp hp with rfl | hp
        · exact .inr (.inr rfl)
        · rcases mem_cons.mp hp with rfl | hp
          · exact .inr (.inl rfl)
          · exact .inl hp

theorem rememberIdempotent_spec (lease : EnvironmentLease) (request : EnvironmentRequest) (answer : WorkspaceAnswer) :
    Kept w (w.rememberIdempotent lease request answer).2 ∧
      (w.rememberIdempotent lease request answer).2.touched = w.touched := by
  unfold rememberIdempotent
  split
  · exact ⟨Kept.refl w, rfl⟩
  · exact ⟨⟨rfl, rfl, rfl, rfl, fun _ h => h⟩, rfl⟩

def fileOf (workspace : Path) (request : EnvironmentRequest) : Path :=
  workspace ++ parts (pathText (request.payload.get? "path"))

/-- No file has the name of a temporary file that leads elsewhere. -/
def FreshNames : Prop := ∀ target, w.files.isLink (temporaryOf env.fileToken target) = false

theorem read_spec (request : EnvironmentRequest) (hsolid : w.Solid workspace) : Kept w (w.read workspace request).2 ∧
      ∀ p ∈ (w.read workspace request).2.touched, p ∈ w.touched ∨
        (pathText (request.payload.get? "path") ≠ "" ∧ p = fileOf workspace request) := by
  fun_cases read with
  | case3 target htarget =>
    obtain ⟨hnamed, htarget, -⟩ := w.safePath_eq_ok hsolid htarget
    refine ⟨⟨rfl, rfl, rfl, rfl, fun _ h => h⟩, fun p hp => ?_⟩
    rcases mem_cons.mp hp with rfl | hp
    · exact .inr ⟨hnamed, htarget⟩
    · exact .inl hp
  | _ => exact ⟨Kept.refl w, fun p hp => .inl hp⟩

theorem write_spec (lease : EnvironmentLease) (request : EnvironmentRequest)
    (hsolid : w.Solid workspace) (hfresh : w.FreshNames env) :
    Kept w (w.write env workspace lease request).2 ∧
      ∀ p ∈ (w.write env workspace lease request).2.touched, p ∈ w.touched ∨
        (pathText (request.payload.get? "path") ≠ "" ∧
          (p = temporaryOf env.fileToken (fileOf workspace request) ∨ p = fileOf workspace request)) := by
  -- the directories above the target make no link, so the target can be reached as before
  have hreplaced : ∀ content {target files}, w.safePath workspace (request.payload.get? "path") = .ok target →
      w.files.mkdirs [] target.dropLast = some files →
      Kept w ({ w with files := files }.replaceFile env target (utf8 content)).2 ∧
        ∀ p ∈ ({ w with files := files }.replaceFile env target (utf8 content)).2.touched,
          p ∈ w.touched ∨ (pathText (request.payload.get? "path") ≠ "" ∧
            (p = temporaryOf env.fileToken (fileOf workspace request) ∨ p = fileOf workspace request)) := by
    intro content target files htarget hfiles
    obtain ⟨hnamed, htarget, htargetsolid⟩ := w.safePath_eq_ok hsolid htarget
    have hmade : Kept w { w with files := files } := ⟨rfl, rfl, rfl, rfl, fun p hp => FileTree.isLink_mkdirs hfiles hp⟩
    have hlinkless : ∀ {p}, w.files.isLink p = false → files.isLink p = false := by
      intro p hp
      rw [← Bool.not_eq_true] at hp ⊢
      exact fun h => hp (hmade.links p h)
    obtain ⟨hkept, htouched⟩ := { w with files := files }.replaceFile_spec env (utf8 content)
      (⟨htargetsolid.1, fun q hq hne => hlinkless (htargetsolid.2 q hq hne)⟩ : Solid { w with files := files } target)
      (hlinkless (hfresh target))
    refine ⟨hmade.trans hkept, fun p hp => ?_⟩
    rw [fileOf, ← htarget]
    exact (htouched p hp).imp_right fun hp => ⟨hnamed, hp⟩
  fun_cases write with
  | case7 _ target htarget content _ _ _ files hfiles failure w' hreplace =>
    have hspec := hreplaced content htarget hfiles
    rwa [hreplace] at hspec
  | case8 _ target htarget content _ _ _ files hfiles w' hreplace =>
    obtain ⟨hkept, hplaces⟩ := hreplaced content htarget hfiles
    rw [hreplace] at hkept hplaces
    obtain ⟨hremember, hsame⟩ := w'.rememberIdempotent_spec lease request
      (.written (pathText (request.payload.get? "path")) (utf8 content).length none)
    exact ⟨hkept.trans hremember, fun p hp => hplaces p (hsame ▸ hp)⟩
  | _ => exact ⟨Kept.refl w, fun p hp => .inl hp⟩

/-- A file that an operation may touch: the one the request names in the workspace or, for a write, the temporary file
beside it. -/
def Touches (workspace : Path) (request : EnvironmentRequest) (p : Path) : Prop :=
  pathText (request.payload.get? "path") ≠ "" ∧ ((request.operation = .workspaceRead ∧ p = fileOf workspace request) ∨
      (request.operation = .workspaceWrite ∧
        (p = temporaryOf env.fileToken (fileOf workspace request) ∨ p = fileOf workspace request)))

/-- **What an operation does**: it keeps the leases, makes no link, and touches files of the lease's workspace. -/
theorem execute_spec (lease : EnvironmentLease) (request : EnvironmentRequest)
    (hsolid : ∀ workspace, w.leaseWorkspace env lease = .ok workspace → w.Solid workspace) (hfresh : w.FreshNames env) :
    Kept w (w.execute env lease request).2 ∧ ∀ p ∈ (w.execute env lease request).2.touched, p ∈ w.touched ∨
        ∃ workspace, w.leaseWorkspace env lease = .ok workspace ∧ Touches env workspace request p := by
  fun_cases execute with
  | case3 workspace hworkspace hoperation =>
    obtain ⟨hkept, htouched⟩ := w.read_spec request (hsolid workspace hworkspace)
    refine ⟨hkept, fun p hp => (htouched p hp).imp_right ?_⟩
    exact fun ⟨hnamed, hp⟩ => ⟨workspace, hworkspace, hnamed, .inl ⟨hoperation, hp⟩⟩
  | case4 workspace hworkspace hoperation =>
    obtain ⟨hkept, htouched⟩ := w.write_spec env lease request (hsolid workspace hworkspace) hfresh
    refine ⟨hkept, fun p hp => (htouched p hp).imp_right ?_⟩
    exact fun ⟨hnamed, hp⟩ => ⟨workspace, hworkspace, hnamed, .inr ⟨hoperation, hp⟩⟩
  | _ => exact ⟨Kept.refl w, fun p hp => .inl hp⟩

/-- An operation that is answered was presented a lease that is known and has not expired. -/
theorem execute_eq_ok {request : EnvironmentRequest} {answer : WorkspaceAnswer}
    (h : (w.execute env lease request).1 = .ok answer) : ∃ workspace, w.leaseWorkspace env lease = .ok workspace := by
  unfold execute at h
  split at h
  · cases h
  · rename_i workspace hworkspace
    exact ⟨workspace, hworkspace⟩

theorem heartbeat_eq_ok {renewed : EnvironmentLease} (h : (w.heartbeat env lease).1 = .ok renewed) :
    ∃ workspace, w.leaseWorkspace env lease = .ok workspace := by
  unfold heartbeat at h
  split at h
  · cases h
  · rename_i workspace hworkspace
    exact ⟨workspace, hworkspace⟩

end Workspaces

/-- The methods as the transport of an executor. -/
def localTransport (env : WorkspaceEnv) : EnvironmentTransport Workspaces WorkspaceAnswer where
  prepare := fun spec w => w.prepare env spec
  heartbeat := fun lease w => w.heartbeat env lease
  execute := fun lease request w => w.execute env lease request
  shutdown := fun lease w => w.shutdown lease

end ComputeMesh.Platform
