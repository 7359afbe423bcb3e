import ComputeMesh.Lib.Checks
import ComputeMesh.Lib.Sha256
import ComputeMesh.Lib.Table
import ComputeMesh.Lib.Text

/-!
# The artifact store

Bytes are files named by their SHA-256, with a row for each content and a row for each reference to one.  A call is a
sequence of file operations and transactions; between them other calls can run.

* `checkPut`, `recordPut` — the checks of a put, and the transaction that records it;
* `getRef`, `listForSession` — the queries;
* `OpenPurge` — a purge between `BEGIN` and `COMMIT`, which deletes files on its way;
* `ArtifactWorld`, `ArtifactStep` — the store with the calls under way, and their steps in any order.

`horizon` is the latest time any call has read or was given, and `returned` lists the references that puts returned with
their arguments; the statements use them, the calls do not.
-/

namespace ComputeMesh.Platform

open ComputeMesh.Text

inductive ArtifactFailure
  | artifact (message : String)
  | accessDenied (message : String)
  | notFound (message : String)
  | value (message : String)
  deriving DecidableEq, Repr

/-- A row of `artifacts`, stored under its id. -/
structure ArtifactRow where
  storagePath : String
  mimeType : String
  sizeBytes : ℕ
  createdAt : ℚ
  expiresAt : Option ℚ
  signatureStatus : String
  deriving DecidableEq, Repr

/-- A row of `artifact_refs`, stored under its id. -/
structure ArtifactRefRow where
  artifactId : String
  sessionId : String
  turnId : String
  principalId : String
  name : String
  producer : String
  createdAt : ℚ
  expiresAt : Option ℚ
  deriving DecidableEq, Repr

structure ArtifactRef where
  refId : String
  artifactId : String
  sessionId : String
  turnId : String
  principalId : String
  name : String
  producer : String
  mimeType : String
  sizeBytes : ℕ
  createdAt : ℚ
  expiresAt : Option ℚ
  signatureStatus : String
  deriving DecidableEq, Repr

/-- One slice of an artifact. -/
structure ArtifactChunk where
  ref : ArtifactRef
  offset : ℕ
  data : List UInt8
  totalBytes : ℕ
  deriving DecidableEq, Repr

namespace ArtifactChunk

def endOffset (c : ArtifactChunk) : ℕ := c.offset + c.data.length

def complete (c : ArtifactChunk) : Bool := decide (c.totalBytes ≤ c.endOffset)

end ArtifactChunk

/-- A file, with its inode and the time of its last change. -/
structure StoredFile where
  data : List UInt8
  inode : ℕ
  modified : ℤ
  deriving DecidableEq, Repr

/-- What `stat` says of a file, which `_verified_files` remembers: its inode, size and time of change. -/
def StoredFile.marker (f : StoredFile) : ℕ × ℕ × ℤ := (f.inode, f.data.length, f.modified)

/-- The arguments of `put_bytes`. -/
structure PutArguments where
  data : List UInt8
  sessionId : String
  turnId : String
  principalId : String
  name : String
  mimeType : String
  producer : String := "agent"
  expiresAt : Option ℚ := none
  signatureStatus : String := "unsigned"
  refId : Option String := none
  deriving DecidableEq, Repr

structure ArtifactStore where
  root : String
  maxBytes : ℕ
  files : Dict String StoredFile
  artifacts : Dict String ArtifactRow
  refs : Dict String ArtifactRefRow
  verified : Dict String (ℕ × ℕ × ℤ)

/-- The id of a content. -/
def artifactIdOf (data : List UInt8) : String := "sha256:" ++ Sha256.hexDigest data

/-- `artifact_id.removeprefix("sha256:")`. -/
def digestOf (artifactId : String) : String :=
  if startsWith artifactId "sha256:" then String.ofList (artifactId.toList.drop 7) else artifactId

def storagePath (root artifactId : String) : String :=
  root ++ "/sha256/" ++ firstChars 2 (digestOf artifactId) ++ "/" ++ digestOf artifactId

/-- The characters of a MIME type beside the slash. -/
def mimeChar (c : Char) : Bool :=
  ('A' ≤ c && c ≤ 'Z') || ('a' ≤ c && c ≤ 'z') || ('0' ≤ c && c ≤ '9') || c ∈ ['.', '+', '-']

/-- `_MIME.fullmatch(text)`. -/
def isMime (text : String) : Bool :=
  match text.toList.splitOn '/' with
  | [type_, subtype] => type_ != [] && subtype != [] && type_.all mimeChar && subtype.all mimeChar
  | _ => false

/-- `_validate_name`. -/
def checkName (name : String) : Except ArtifactFailure Unit :=
  if ¬(1 ≤ name.toList.length ∧ name.toList.length ≤ 256) ∨ hasText "/" name = true ∨ hasText "\\" name = true ∨
      name = "." ∨ name = ".." then
    .error (.value "artifact name must be a single bounded filename")
  else .ok ()

namespace ArtifactStore

variable (s : ArtifactStore)

/-- The checks of `put_bytes`. -/
def checkPut (now : ℚ) (a : PutArguments) : Except ArtifactFailure Unit :=
  if s.maxBytes < a.data.length then .error (.artifact "artifact exceeds configured size limit")
  else checkName a.name >>= fun _ =>
    if isMime a.mimeType = false then .error (.value "mime_type must be a valid type/subtype")
    else if a.principalId = "" ∨ a.sessionId = "" ∨ a.turnId = "" then
      .error (.value "session_id, turn_id and principal_id are required")
    else if a.expiresAt.any (fun e => decide (e ≤ now)) = true then .error (.value "expires_at must be in the future")
    else .ok ()

/-- `_ref`, of a row of either table. -/
def refOf (refId : String) (r : ArtifactRefRow) (a : ArtifactRow) : ArtifactRef where
  refId := refId
  artifactId := r.artifactId
  sessionId := r.sessionId
  turnId := r.turnId
  principalId := r.principalId
  name := r.name
  producer := r.producer
  mimeType := a.mimeType
  sizeBytes := a.sizeBytes
  createdAt := r.createdAt
  expiresAt := r.expiresAt
  signatureStatus := a.signatureStatus

def joined (refId : String) : Option ArtifactRef :=
  (s.refs.get? refId).bind fun r => (s.artifacts.get? r.artifactId).map fun a => refOf refId r a

/-- The id of a new reference: the given one, or a random one. -/
def refIdOf (a : PutArguments) (token : String) : String :=
  match a.refId with
  | some refId => if refId = "" then "aref_" ++ token else refId
  | none => "aref_" ++ token

/-- The row of a content that is not stored yet. -/
def newArtifact (root : String) (now : ℚ) (a : PutArguments) : ArtifactRow :=
  ⟨storagePath root (artifactIdOf a.data), a.mimeType, a.data.length, now, a.expiresAt, a.signatureStatus⟩

def newRef (now : ℚ) (a : PutArguments) : ArtifactRefRow :=
  ⟨artifactIdOf a.data, a.sessionId, a.turnId, a.principalId, a.name, a.producer, now, a.expiresAt⟩

/-- The transaction of `put_bytes`: `INSERT OR IGNORE` of the content, `INSERT` of the reference, and the query of what
is returned. -/
def recordPut (now : ℚ) (token : String) (a : PutArguments) : Except ArtifactFailure (ArtifactRef × ArtifactStore) :=
  let refId := refIdOf a token
  let artifacts :=
    if s.artifacts.contains (artifactIdOf a.data) then s.artifacts
    else s.artifacts.set (artifactIdOf a.data) (newArtifact s.root now a)
  if s.refs.contains refId then .error (.artifact ("artifact reference already exists: " ++ refId))
  else
    let recorded := { s with artifacts := artifacts, refs := s.refs.set refId (newRef now a) }
    match recorded.joined refId with
    | some ref => .ok (ref, recorded)
    | none => .error (.artifact "no row")

def getRef (now : ℚ) (refId principalId : String) : Except ArtifactFailure ArtifactRef :=
  match s.joined refId with
  | none => .error (.notFound "artifact reference not found")
  | some ref =>
    if ref.principalId ≠ principalId then .error (.accessDenied "artifact reference belongs to a different principal")
    else if ref.expiresAt.any (fun e => decide (e ≤ now)) = true then .error (.notFound "artifact has expired")
    else .ok ref

def listForSession (now : ℚ) (sessionId principalId : String) : List ArtifactRef :=
  ((s.refs.entries.filterMap fun row =>
      if row.2.sessionId = sessionId ∧ row.2.principalId = principalId ∧ row.2.expiresAt.all (fun e => decide (now < e)) then
        s.joined row.1
      else none).insertionSort fun a b => a.createdAt ≤ b.createdAt)

end ArtifactStore

/-! ### Purges -/

/-- A purge whose transaction is open: the tables as it leaves them, and the contents it still has to remove. -/
structure OpenPurge where
  timestamp : ℚ
  refs : Dict String ArtifactRefRow
  artifacts : Dict String ArtifactRow
  rows : List (String × String)
  removed : ℕ

namespace ArtifactStore

variable (s : ArtifactStore)

/-- The references that a purge keeps. -/
def keptRefs (timestamp : ℚ) : Dict String ArtifactRefRow :=
  s.refs.filter fun _ r => !(r.expiresAt.any fun e => decide (e ≤ timestamp))

/-- The beginning of `purge_expired`: the references that have expired go, and the contents that no reference is left to
and that have no expiry or have expired are selected. -/
def beginPurge (timestamp : ℚ) : OpenPurge where
  timestamp := timestamp
  refs := s.keptRefs timestamp
  artifacts := s.artifacts
  rows := (s.artifacts.entries.filter fun row =>
    !((s.keptRefs timestamp).values.any fun r => r.artifactId == row.1) &&
      row.2.expiresAt.all fun e => decide (e ≤ timestamp)).map fun row => (row.1, row.2.storagePath)
  removed := 0

end ArtifactStore

/-! ### The calls under way -/

/-- Where a put stands: its file has not been looked for, is missing, or is there. -/
inductive PutPhase
  | started
  | missing
  | ready
  deriving DecidableEq, Repr

structure PutCall where
  arguments : PutArguments
  phase : PutPhase

/-- What a reader asks for. -/
inductive ReadKind
  | bytes
  | chunk (offset length : ℤ)
  deriving DecidableEq, Repr

/-- Where a reader stands: it has the reference, has its file's `stat`, has to hash the file, or may read it. -/
inductive ReadPhase
  | located
  | measured (marker : ℕ × ℕ × ℤ)
  | hashing (marker : ℕ × ℕ × ℤ)
  | verified
  deriving DecidableEq, Repr

/-- A reader with the reference it found; `known` are the puts that had returned when it began. -/
structure ReadCall where
  refId : String
  principalId : String
  kind : ReadKind
  ref : ArtifactRef
  phase : ReadPhase
  known : List (String × PutArguments)

/-- What a reader returns, with the reference it found. -/
inductive Fetched
  | bytes (ref : ArtifactRef) (data : List UInt8)
  | chunk (chunk : ArtifactChunk)
  deriving DecidableEq, Repr

/-- What the last step answered to its caller. -/
inductive ArtifactAnswer
  | put (arguments : PutArguments) (result : Except ArtifactFailure ArtifactRef)
  | read (refId principalId : String) (kind : ReadKind) (known : List (String × PutArguments))
      (result : Except ArtifactFailure Fetched)
  | listed (sessionId principalId : String) (refs : List ArtifactRef)
  | purged (removed : ℕ)

structure ArtifactWorld where
  store : ArtifactStore
  purge : Option OpenPurge
  puts : Dict String PutCall
  reads : Dict String ReadCall
  horizon : ℚ
  returned : List (String × PutArguments)
  answer : Option ArtifactAnswer

/-- A step of some call; calls under way have names.  A call can also die at any step, which `abandon` stands for. -/
inductive ArtifactStep
  | put (call : String) (arguments : PutArguments)
  | find (call : String)
  | replace (call : String) (inode : ℕ) (modified : ℤ)
  | record (call token : String)
  | abandon (call : String)
  | read (call refId principalId : String) (kind : ReadKind)
  | proceed (call : String)
  | list (sessionId principalId : String)
  | purge (timestamp : Option ℚ)
  | unlink
  | commit
  | rollback

/-- The most a chunk may hold. -/
def maxChunk : ℤ := 4 * 1024 * 1024

/-- The checks of a reader before its file is looked at. -/
def ArtifactStore.locate (s : ArtifactStore) (now : ℚ) (refId principalId : String) :
    ReadKind → Except ArtifactFailure ArtifactRef
  | .bytes => s.getRef now refId principalId
  | .chunk offset length =>
    if offset < 0 ∨ length < 1 ∨ maxChunk < length then .error (.value "artifact chunk bounds are invalid")
    else s.getRef now refId principalId >>= fun ref =>
      if (ref.sizeBytes : ℤ) ≤ offset then .error (.notFound "artifact chunk offset is outside the artifact")
      else .ok ref

/-- What is returned of the bytes of a file. -/
def ReadKind.deliver (ref : ArtifactRef) (data : List UInt8) : ReadKind → Except ArtifactFailure Fetched
  | .bytes =>
    if Sha256.hexDigest data ≠ digestOf ref.artifactId then .error (.artifact "artifact digest verification failed")
    else .ok (.bytes ref data)
  | .chunk offset length =>
    .ok (.chunk ⟨ref, offset.toNat, (data.drop offset.toNat).take length.toNat, ref.sizeBytes⟩)

namespace ArtifactWorld

variable (w : ArtifactWorld)

/-- A reader is done. -/
def finish (call : String) (c : ReadCall) (result : Except ArtifactFailure Fetched) : ArtifactWorld :=
  { w with reads := w.reads.erase call, answer := some (.read c.refId c.principalId c.kind c.known result) }

/-- A reader goes on. -/
def goOn (call : String) (c : ReadCall) (phase : ReadPhase) : ArtifactWorld :=
  { w with reads := w.reads.set call { c with phase := phase } }

/-- The next step of a reader: `stat`, `is_file` with the look into the cache, hashing, reading. -/
def proceed (call : String) (c : ReadCall) : ArtifactWorld :=
  let file := w.store.files.get? (storagePath w.store.root c.ref.artifactId)
  match c.phase with
  | .located =>
    match file with
    | none => w.finish call c (.error (.notFound "artifact bytes are missing"))
    | some f => w.goOn call c (.measured f.marker)
  | .measured marker =>
    if file = none ∨ marker.2.1 ≠ c.ref.sizeBytes then
      w.finish call c (.error (.artifact "artifact storage metadata does not match the reference"))
    else if w.store.verified.get? c.ref.artifactId = some marker then w.goOn call c .verified
    else w.goOn call c (.hashing marker)
  | .hashing marker =>
    match file with
    | none => w.finish call c (.error (.notFound "artifact bytes are missing"))
    | some g =>
      if Sha256.hexDigest g.data ≠ digestOf c.ref.artifactId then
        w.finish call c (.error (.artifact "artifact digest verification failed"))
      else
        { w.goOn call c .verified with
          store := { w.store with verified := w.store.verified.set c.ref.artifactId marker } }
  | .verified =>
    match file with
    | none => w.finish call c (.error (.notFound "artifact bytes are missing"))
    | some g => w.finish call c (c.kind.deliver c.ref g.data)

/-- The next step of a put, in its phase. -/
def lookFor (call : String) (c : PutCall) : ArtifactWorld :=
  let there := w.store.files.contains (storagePath w.store.root (artifactIdOf c.arguments.data))
  { w with puts := w.puts.set call ⟨c.arguments, if there = true then .ready else .missing⟩ }

def replaceFile (call : String) (c : PutCall) (inode : ℕ) (modified : ℤ) : ArtifactWorld :=
  let file : StoredFile := ⟨c.arguments.data, inode, modified⟩
  { w with
    store := { w.store with
      files := w.store.files.set (storagePath w.store.root (artifactIdOf c.arguments.data)) file }
    puts := w.puts.set call ⟨c.arguments, .ready⟩ }

def recordCall (call token : String) (c : PutCall) (now : ℚ) : ArtifactWorld :=
  match w.store.recordPut now token c.arguments with
  | .error failure => { w with puts := w.puts.erase call, answer := some (.put c.arguments (.error failure)) }
  | .ok (ref, store) =>
    { w with
      store := store
      puts := w.puts.erase call
      returned := (ref.refId, c.arguments) :: w.returned
      answer := some (.put c.arguments (.ok ref)) }

/-- A step at its time.  A put that is to be recorded waits while a purge holds the transaction, and so does another
purge. -/
def next (w₀ : ArtifactWorld) (step : ℚ × ArtifactStep) : ArtifactWorld :=
  let w := { w₀ with horizon := max w₀.horizon step.1, answer := none }
  match step.2 with
  | .put call a =>
    match w.store.checkPut step.1 a with
    | .error failure => { w with answer := some (.put a (.error failure)) }
    | .ok () => { w with puts := w.puts.set call ⟨a, .started⟩ }
  | .find call =>
    match w.puts.get? call with
    | some c => if c.phase = .started then w.lookFor call c else w
    | none => w
  | .replace call inode modified =>
    match w.puts.get? call with
    | some c => if c.phase = .missing then w.replaceFile call c inode modified else w
    | none => w
  | .record call token =>
    match w.puts.get? call with
    | some c => if c.phase = .ready ∧ w.purge.isNone = true then w.recordCall call token c step.1 else w
    | none => w
  | .abandon call => { w with puts := w.puts.erase call, reads := w.reads.erase call }
  | .read call refId principalId kind =>
    match w.store.locate step.1 refId principalId kind with
    | .error failure => { w with answer := some (.read refId principalId kind w.returned (.error failure)) }
    | .ok ref => { w with reads := w.reads.set call ⟨refId, principalId, kind, ref, .located, w.returned⟩ }
  | .proceed call =>
    match w.reads.get? call with
    | some c => w.proceed call c
    | none => w
  | .list sessionId principalId =>
    { w with answer := some (.listed sessionId principalId (w.store.listForSession step.1 sessionId principalId)) }
  | .purge timestamp =>
    if w.purge.isNone then
      { w with
        horizon := max w.horizon (timestamp.getD step.1)
        purge := some (w.store.beginPurge (timestamp.getD step.1)) }
    else w
  | .unlink =>
    match w.purge with
    | some p =>
      match p.rows with
      | row :: rest =>
        { w with
          store := { w.store with files := w.store.files.erase row.2 }
          purge := some { p with artifacts := p.artifacts.erase row.1, rows := rest, removed := p.removed + 1 } }
      | [] => w
    | none => w
  | .commit =>
    match w.purge with
    | some p =>
      if p.rows = [] then
        { w with
          store := { w.store with refs := p.refs, artifacts := p.artifacts }
          purge := none
          answer := some (.purged p.removed) }
      else w
    | none => w
  | .rollback => { w with purge := none }

end ArtifactWorld

end ComputeMesh.Platform
