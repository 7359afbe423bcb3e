import ComputeMesh.Lib.Checks
import ComputeMesh.Lib.Dict
import ComputeMesh.Lib.PosixPath

/-!
# Environments and their executor

An agent's environment is a checked specification; an executor drives it through a transport, whose leases it keeps and
presents, and lets through only the operations and paths of the specification.

* `EnvironmentSpec`, `EnvironmentLease`, `EnvironmentRequest` — the contracts, with their checks;
* `EnvironmentTransport` — what an executor needs of a transport, over any content `σ` the transport keeps;
* `BoundedEnvironmentExecutor` — its states and its methods;
* `allowed_of_policy` — **a path that the policy lets through lies below an allowed one.**

Events that an executor emits are left out: nothing reads them.
-/

namespace ComputeMesh.Platform

open ComputeMesh.PosixPath ComputeMesh.Text

inductive EnvironmentFailure
  | value (message : String)
  | assertion
  | os (message : String)
  | environment (message : String)
  | stateConflict (message : String)
  | expired (message : String)
  | policyDenied (message : String)
  | localWorkspace (message : String)
  deriving DecidableEq, Repr

inductive EnvironmentKind
  | none
  | selfHosted
  | mesh
  deriving DecidableEq, Repr

def EnvironmentKind.value : EnvironmentKind → String
  | none => "none"
  | selfHosted => "self_hosted"
  | mesh => "mesh"

inductive EnvironmentState
  | new
  | preparing
  | ready
  | running
  | draining
  | expired
  | revoked
  | closed
  | failed
  deriving DecidableEq, Repr

def EnvironmentState.value : EnvironmentState → String
  | new => "new"
  | preparing => "preparing"
  | ready => "ready"
  | running => "running"
  | draining => "draining"
  | expired => "expired"
  | revoked => "revoked"
  | closed => "closed"
  | failed => "failed"

inductive EnvironmentOperation
  | health
  | inference
  | toolCall
  | workspaceRead
  | workspaceWrite
  | artifactRead
  | artifactWrite
  | artifactStage
  | artifactStageStatus
  deriving DecidableEq, Repr

def EnvironmentOperation.value : EnvironmentOperation → String
  | health => "health"
  | inference => "inference"
  | toolCall => "tool_call"
  | workspaceRead => "workspace_read"
  | workspaceWrite => "workspace_write"
  | artifactRead => "artifact_read"
  | artifactWrite => "artifact_write"
  | artifactStage => "artifact_stage"
  | artifactStageStatus => "artifact_stage_status"

/-! ### The contracts -/

structure ResourceLimits where
  cpuMillis : ℤ := 1000
  memoryBytes : ℤ := 512 * 1024 * 1024
  vramBytes : ℤ := 0
  maxProcesses : ℤ := 32
  maxRuntimeSeconds : ℤ := 3600
  deriving DecidableEq, Repr

/-- `ResourceLimits.__post_init__`. -/
def ResourceLimits.check (r : ResourceLimits) : Except EnvironmentFailure Unit :=
  if ¬(1 ≤ r.cpuMillis ∧ r.cpuMillis ≤ 1000000) then .error (.value "cpu_millis must be between 1 and 1,000,000")
  else if ¬(1 ≤ r.memoryBytes ∧ r.memoryBytes ≤ 2 ^ 50) then
    .error (.value "memory_bytes is outside the supported bound")
  else if ¬(0 ≤ r.vramBytes ∧ r.vramBytes ≤ 2 ^ 50) then .error (.value "vram_bytes is outside the supported bound")
  else if ¬(1 ≤ r.maxProcesses ∧ r.maxProcesses ≤ 100000) then
    .error (.value "max_processes must be between 1 and 100,000")
  else if ¬(1 ≤ r.maxRuntimeSeconds ∧ r.maxRuntimeSeconds ≤ 7 * 24 * 3600) then
    .error (.value "max_runtime_seconds is outside the supported bound")
  else .ok ()

def validateRelativePath (path : String) : Except EnvironmentFailure Unit :=
  if path = "" ∨ 512 < path.toList.length ∨ hasText "\\" path = true then
    .error (.value "paths must be bounded POSIX-relative paths")
  else if isAbsolute path = true ∨ ".." ∈ parts path ∨ "." ∈ parts path then
    .error (.value "path allowlist entries must not escape the workspace")
  else .ok ()

/-- The fields of an environment's specification, as its caller passes them. -/
structure SpecFields where
  environmentId : String
  sessionId : String
  kind : EnvironmentKind := .mesh
  nodeId : Option String := none
  modelId : Option String := none
  allowedOperations : List EnvironmentOperation := [.health, .inference]
  allowedPaths : List String := []
  networkAllowlist : List String := []
  resources : ResourceLimits := {}
  leaseSeconds : ℤ := 300
  deriving DecidableEq, Repr

def checkId (field : String × String) : Except EnvironmentFailure Unit :=
  if isIdentifier 160 field.1 = false then .error (.value ("invalid " ++ field.2)) else .ok ()

def checkNetworkTarget (target : String) : Except EnvironmentFailure Unit :=
  if ¬(1 ≤ target.toList.length ∧ target.toList.length ≤ 256) then
    .error (.value "network allowlist entry is invalid")
  else .ok ()

/-- `EnvironmentSpec.__post_init__`, after that of its limits. -/
def SpecFields.check (s : SpecFields) : Except EnvironmentFailure Unit :=
  s.resources.check >>= fun _ =>
    checkEach checkId [(s.environmentId, "environment_id"), (s.sessionId, "session_id")] >>= fun _ =>
      if s.nodeId.any (fun nodeId => !isIdentifier 160 nodeId) = true then .error (.value "invalid node_id")
      else if s.modelId.any (fun modelId => !decide (1 ≤ modelId.toList.length ∧ modelId.toList.length ≤ 256)) = true then
        .error (.value "model_id must be 1..256 characters")
      else if ¬(1 ≤ s.leaseSeconds ∧ s.leaseSeconds ≤ s.resources.maxRuntimeSeconds) then
        .error (.value "lease_seconds must fit within max_runtime_seconds")
      else if 128 < s.allowedPaths.length ∨ 128 < s.networkAllowlist.length then
        .error (.value "environment allowlists are bounded to 128 entries")
      else checkEach validateRelativePath s.allowedPaths >>= fun _ =>
        checkEach checkNetworkTarget s.networkAllowlist >>= fun _ =>
          if s.kind = .none ∧ s.nodeId ≠ none then .error (.value "none environments cannot bind a node") else .ok ()

/-- `EnvironmentSpec`: the fields its constructor accepts. -/
structure EnvironmentSpec extends SpecFields where
  checked : toSpecFields.check = .ok ()

structure EnvironmentLease where
  leaseId : String
  environmentId : String
  issuedAt : ℚ
  expiresAt : ℚ
  revision : ℤ := 1
  deriving DecidableEq, Repr

/-- `EnvironmentLease.validate`. -/
def EnvironmentLease.validate (lease : EnvironmentLease) (now : ℚ) (environmentId : String) :
    Except EnvironmentFailure Unit :=
  if lease.environmentId ≠ environmentId then .error (.environment "lease belongs to a different environment")
  else if isIdentifier 160 lease.leaseId = false then .error (.environment "lease id is invalid")
  else if lease.expiresAt ≤ now then .error (.expired "environment lease has expired")
  else if lease.expiresAt ≤ lease.issuedAt ∨ lease.revision < 1 then .error (.environment "lease contract is invalid")
  else .ok ()

/-- A value of a payload: a text, or something else by its `str`, its JSON text and its truth. -/
inductive PayloadValue
  | text (text : String)
  | other (str json : String) (truthy : Bool)
  deriving DecidableEq, Repr

namespace PayloadValue

/-- `str(value)`. -/
def str : PayloadValue → String
  | text t => t
  | other s _ _ => s

/-- `bool(value)`. -/
def truthy : PayloadValue → Bool
  | text t => t != ""
  | other _ _ b => b

/-- `json.dumps(value, ensure_ascii=False, ..., default=str)`. -/
def json : PayloadValue → String
  | text t => jsonText t
  | other _ j _ => j

end PayloadValue

/-- A request, whatever its constructor would say of it. -/
structure EnvironmentRequest where
  requestId : String
  operation : EnvironmentOperation
  payload : Dict String PayloadValue := Dict.empty
  idempotencyKey : Option String := none

/-! ### The executor -/

/-- The contract of a transport over its content `σ`, with the answers `α` of its operations. -/
structure EnvironmentTransport (σ α : Type) where
  prepare : EnvironmentSpec → σ → Except EnvironmentFailure EnvironmentLease × σ
  heartbeat : EnvironmentLease → σ → Except EnvironmentFailure EnvironmentLease × σ
  execute : EnvironmentLease → EnvironmentRequest → σ → Except EnvironmentFailure α × σ
  shutdown : EnvironmentLease → σ → Except EnvironmentFailure Unit × σ

structure BoundedEnvironmentExecutor where
  spec : EnvironmentSpec
  state : EnvironmentState := .new
  lease : Option EnvironmentLease := none
  startedAt : Option ℚ := none

namespace BoundedEnvironmentExecutor

/-- `BoundedEnvironmentExecutor.__init__`: there is a transport exactly for the kinds that need one. -/
def new (spec : EnvironmentSpec) (hasTransport : Bool) : Except EnvironmentFailure BoundedEnvironmentExecutor :=
  if spec.kind = .none ∧ hasTransport = true then
    .error (.value "none environments cannot have an execution transport")
  else if spec.kind ≠ .none ∧ hasTransport = false then
    .error (.value "self_hosted and mesh environments require a transport")
  else .ok { spec := spec }

variable (e : BoundedEnvironmentExecutor)

def ensureRuntimeValid (now : ℚ) : Except EnvironmentFailure Unit × BoundedEnvironmentExecutor :=
  if e.startedAt.any (fun startedAt => decide (e.spec.resources.maxRuntimeSeconds ≤ now - startedAt)) = true then
    (.error (.expired "environment maximum runtime has expired"), { e with state := .expired })
  else
    match e.lease with
    | none => (.ok (), e)
    | some lease =>
      match lease.validate now e.spec.environmentId with
      | .error (.expired message) => (.error (.expired message), { e with state := .expired })
      | .error failure => (.error failure, e)
      | .ok () => (.ok (), e)

/-- Whether a path is one of the allowed ones or starts with one and a slash. -/
def pathAllowed (spec : SpecFields) (path : String) : Bool :=
  spec.allowedPaths.isEmpty ||
    spec.allowedPaths.any fun allowed => path == allowed || startsWith path (rstripSlash allowed ++ "/")

def validateRequestPolicy (spec : SpecFields) (request : EnvironmentRequest) : Except EnvironmentFailure Unit :=
  if request.operation ∉ spec.allowedOperations then
    .error (.policyDenied ("operation is not allowed: " ++ request.operation.value))
  else
    (match request.payload.get? "path" with
      | some raw =>
        if request.operation ∈ [EnvironmentOperation.workspaceRead, .workspaceWrite, .artifactStage,
            .artifactStageStatus] then
          validateRelativePath raw.str >>= fun _ =>
            if pathAllowed spec raw.str = false then .error (.policyDenied "path is outside the environment allowlist")
            else .ok ()
        else .ok ()
      | none => .ok ()) >>= fun _ =>
      match request.payload.get? "network_target" with
      | some target =>
        if target.str ∉ spec.networkAllowlist then
          .error (.policyDenied "network target is outside the environment allowlist")
        else .ok ()
      | none => .ok ()

variable {σ α : Type} (transport : EnvironmentTransport σ α)

/-- `prepare`, with the two times it reads. -/
def prepare (startedAt now : ℚ) (s : σ) : Except EnvironmentFailure EnvironmentState × BoundedEnvironmentExecutor × σ :=
  if e.state ≠ .new then
    (.error (.stateConflict ("cannot prepare environment in state " ++ e.state.value)), e, s)
  else
    let started := { e with startedAt := some startedAt }
    if e.spec.kind = .none then (.ok .ready, { started with state := .ready }, s)
    else
      match transport.prepare e.spec s with
      | (.error failure, s') => (.error failure, { started with state := .failed }, s')
      | (.ok lease, s') =>
        match lease.validate now e.spec.environmentId with
        | .error failure => (.error failure, { started with state := .failed }, s')
        | .ok () => (.ok .ready, { started with state := .ready, lease := some lease }, s')

/-- `heartbeat`, with the two times it reads. -/
def heartbeat (now later : ℚ) (s : σ) :
    Except EnvironmentFailure (Option EnvironmentLease) × BoundedEnvironmentExecutor × σ :=
  if e.state ∉ [EnvironmentState.ready, .running] then
    (.error (.stateConflict ("cannot heartbeat environment in state " ++ e.state.value)), e, s)
  else
    match e.ensureRuntimeValid now with
    | (.error failure, e') => (.error failure, e', s)
    | (.ok (), e') =>
      if e'.spec.kind = .none then (.ok none, e', s)
      else
        match e'.lease with
        | none => (.error .assertion, e', s)
        | some lease =>
          match transport.heartbeat lease s with
          | (.error failure, s') => (.error failure, e', s')
          | (.ok renewed, s') =>
            match renewed.validate later e'.spec.environmentId with
            | .error failure => (.error failure, e', s')
            | .ok () =>
              if renewed.revision ≤ lease.revision then
                (.error (.environment "heartbeat did not advance the lease revision"), e', s')
              else (.ok (some renewed), { e' with lease := some renewed }, s')

def execute (now : ℚ) (request : EnvironmentRequest) (s : σ) :
    Except EnvironmentFailure α × BoundedEnvironmentExecutor × σ :=
  if e.state ∉ [EnvironmentState.ready, .running] then
    (.error (.stateConflict ("cannot execute environment request in state " ++ e.state.value)), e, s)
  else
    match e.ensureRuntimeValid now with
    | (.error failure, e') => (.error failure, e', s)
    | (.ok (), e') =>
      match validateRequestPolicy e'.spec.toSpecFields request with
      | .error failure => (.error failure, e', s)
      | .ok () =>
        if e'.spec.kind = .none then
          (.error (.policyDenied "none environments do not execute environment operations"), e', s)
        else
          match e'.lease with
          | none => (.error .assertion, e', s)
          | some lease =>
            match transport.execute lease request s with
            | (.error failure, s') => (.error failure, { e' with state := .failed }, s')
            | (.ok answer, s') => (.ok answer, { e' with state := .ready }, s')

/-- Give the lease back, if there is one and a transport to take it. -/
def giveBack (s : σ) : Except EnvironmentFailure Unit × σ :=
  match e.lease with
  | some lease => if e.spec.kind = .none then (.ok (), s) else transport.shutdown lease s
  | none => (.ok (), s)

def shutdown (reason : String) (s : σ) :
    Except EnvironmentFailure EnvironmentState × BoundedEnvironmentExecutor × σ :=
  if e.state = .closed then (.ok .closed, e, s)
  else if ¬(1 ≤ reason.toList.length ∧ reason.toList.length ≤ 256) then
    (.error (.value "shutdown reason must be 1..256 characters"), e, s)
  else
    match e.giveBack transport s with
    | (.error failure, s') => (.error failure, { e with state := .failed }, s')
    | (.ok (), s') => (.ok .closed, { e with state := .closed }, s')

def revoke (reason : String) (s : σ) : Except EnvironmentFailure EnvironmentState × BoundedEnvironmentExecutor × σ :=
  if ¬(1 ≤ reason.toList.length ∧ reason.toList.length ≤ 256) then
    (.error (.value "revocation reason must be 1..256 characters"), e, s)
  else if e.state ∈ [EnvironmentState.closed, .revoked] then (.ok e.state, e, s)
  else
    match e.giveBack transport s with
    | (.error failure, s') => (.error failure, { e with state := .revoked }, s')
    | (.ok (), s') => (.ok .revoked, { e with state := .revoked }, s')

/-! ### What the policy lets through -/

theorem allowed_of_pathAllowed {spec : SpecFields} {path : String} (h : pathAllowed spec path = true)
    (hne : spec.allowedPaths ≠ []) : ∃ allowed ∈ spec.allowedPaths, parts allowed <+: parts path := by
  have hany : spec.allowedPaths.any (fun allowed =>
      path == allowed || startsWith path (rstripSlash allowed ++ "/")) = true := by
    simpa [pathAllowed, hne] using h
  obtain ⟨allowed, hmem, hallowed⟩ := List.any_eq_true.mp hany
  refine ⟨allowed, hmem, ?_⟩
  rcases Bool.or_eq_true_iff.mp hallowed with hsame | hstarts
  · rw [beq_iff_eq.mp hsame]
  · obtain ⟨rest, hrest⟩ := List.isPrefixOf_iff_prefix.mp hstarts
    have hpath : path = rstripSlash allowed ++ "/" ++ String.ofList rest := by
      apply String.toList_inj.mp
      rw [String.toList_append, String.toList_ofList, hrest]
    rw [hpath, parts_slash, parts_rstripSlash]
    exact List.prefix_append _ _

/-- **A path that the policy lets through lies below an allowed one.** -/
theorem allowed_of_policy {spec : SpecFields} {request : EnvironmentRequest} {raw : PayloadValue}
    (h : validateRequestPolicy spec request = .ok ())
    (hoperation : request.operation = .workspaceRead ∨ request.operation = .workspaceWrite)
    (hraw : request.payload.get? "path" = some raw) (hne : spec.allowedPaths ≠ []) :
    ∃ allowed ∈ spec.allowedPaths, parts allowed <+: parts raw.str := by
  have hlisted : request.operation ∈ [EnvironmentOperation.workspaceRead, .workspaceWrite, .artifactStage,
      .artifactStageStatus] := by
    rcases hoperation with h | h
    · simp [h]
    · simp [h]
  obtain ⟨-, h⟩ := ite_error_eq_ok_iff.mp h
  obtain ⟨_, hpath, -⟩ := bind_eq_ok_iff.mp h
  simp only [hraw, if_pos hlisted] at hpath
  obtain ⟨_, -, hpath⟩ := bind_eq_ok_iff.mp hpath
  obtain ⟨hallowed, -⟩ := ite_error_eq_ok_iff.mp hpath
  exact allowed_of_pathAllowed (by simpa using hallowed) hne

/-! ### What the methods do -/

variable {e} {transport}

theorem ensureRuntimeValid_spec (e : BoundedEnvironmentExecutor) (now : ℚ) :
    (e.ensureRuntimeValid now).2.spec = e.spec ∧ (e.ensureRuntimeValid now).2.lease = e.lease := by
  unfold ensureRuntimeValid
  split
  · exact ⟨rfl, rfl⟩
  · split
    · exact ⟨rfl, rfl⟩
    · split <;> exact ⟨rfl, rfl⟩

section

variable (e : BoundedEnvironmentExecutor) (transport : EnvironmentTransport σ α)

/-- **An execution** reaches the transport with the lease of the executor and a request its policy lets through, or
raises and leaves the transport alone. -/
theorem execute_spec (now : ℚ) (request : EnvironmentRequest) (s : σ) :
    (e.execute transport now request s).2.1.spec = e.spec ∧ (e.execute transport now request s).2.1.lease = e.lease ∧
      (((∃ failure, (e.execute transport now request s).1 = .error failure) ∧
          (e.execute transport now request s).2.2 = s) ∨
        ∃ lease, e.lease = some lease ∧ validateRequestPolicy e.spec.toSpecFields request = .ok () ∧
          (e.execute transport now request s).1 = (transport.execute lease request s).1 ∧
          (e.execute transport now request s).2.2 = (transport.execute lease request s).2) := by
  have hsame := e.ensureRuntimeValid_spec now
  fun_cases execute with
  | case1 => exact ⟨rfl, rfl, .inl ⟨⟨_, rfl⟩, rfl⟩⟩
  | case2 _ _ e' hvalid | case3 _ e' hvalid | case4 _ e' hvalid | case5 _ e' hvalid =>
    rw [hvalid] at hsame
    exact ⟨hsame.1, hsame.2, .inl ⟨⟨_, rfl⟩, rfl⟩⟩
  | case6 _ e' hvalid hpolicy _ lease hsome _ _ hexecute | case7 _ e' hvalid hpolicy _ lease hsome _ _ hexecute =>
    rw [hvalid] at hsame
    exact ⟨hsame.1, hsame.2, .inr ⟨lease, hsame.2 ▸ hsome, hsame.1 ▸ hpolicy, by rw [hexecute], by rw [hexecute]⟩⟩

/-- **A heartbeat** presents the lease of the executor, and what it keeps instead is what the transport returned. -/
theorem heartbeat_spec (now later : ℚ) (s : σ) : (e.heartbeat transport now later s).2.1.spec = e.spec ∧
      (((e.heartbeat transport now later s).2.2 = s ∧ (e.heartbeat transport now later s).2.1.lease = e.lease ∧
          ((∃ failure, (e.heartbeat transport now later s).1 = .error failure) ∨ e.spec.kind = .none)) ∨
        ∃ lease, e.lease = some lease ∧ (e.heartbeat transport now later s).2.2 = (transport.heartbeat lease s).2 ∧
          (((e.heartbeat transport now later s).2.1.lease = e.lease ∧
              ∃ failure, (e.heartbeat transport now later s).1 = .error failure) ∨
            ∃ renewed, (transport.heartbeat lease s).1 = .ok renewed ∧
              (e.heartbeat transport now later s).2.1.lease = some renewed)) := by
  have hsame := e.ensureRuntimeValid_spec now
  fun_cases heartbeat with
  | case1 => exact ⟨rfl, .inl ⟨rfl, rfl, .inl ⟨_, rfl⟩⟩⟩
  | case2 _ _ e' hvalid | case4 _ e' hvalid =>
    rw [hvalid] at hsame
    exact ⟨hsame.1, .inl ⟨rfl, hsame.2, .inl ⟨_, rfl⟩⟩⟩
  | case3 _ e' hvalid hkind =>
    rw [hvalid] at hsame
    exact ⟨hsame.1, .inl ⟨rfl, hsame.2, .inr (hsame.1 ▸ hkind)⟩⟩
  | case5 _ e' hvalid _ lease hsome _ _ hbeat | case6 _ e' hvalid _ lease hsome _ _ hbeat
  | case7 _ e' hvalid _ lease hsome _ _ hbeat =>
    rw [hvalid] at hsame
    exact ⟨hsame.1, .inr ⟨lease, hsame.2 ▸ hsome, by rw [hbeat], .inl ⟨hsame.2, _, rfl⟩⟩⟩
  | case8 _ e' hvalid _ lease hsome renewed _ hbeat =>
    rw [hvalid] at hsame
    exact ⟨hsame.1, .inr ⟨lease, hsame.2 ▸ hsome, by rw [hbeat], .inr ⟨renewed, by rw [hbeat], rfl⟩⟩⟩

/-- **A preparation** keeps the lease that the transport returned, or none. -/
theorem prepare_spec (startedAt now : ℚ) (s : σ) : (e.prepare transport startedAt now s).2.1.spec = e.spec ∧
      (((e.prepare transport startedAt now s).2.2 = s ∧ (e.prepare transport startedAt now s).2.1.lease = e.lease) ∨
        ((e.prepare transport startedAt now s).2.2 = (transport.prepare e.spec s).2 ∧
          ((e.prepare transport startedAt now s).2.1.lease = e.lease ∨
            ∃ lease, (transport.prepare e.spec s).1 = .ok lease ∧ e.spec.kind ≠ .none ∧
              (e.prepare transport startedAt now s).2.1.lease = some lease))) := by
  fun_cases prepare with
  | case1 | case2 => exact ⟨rfl, .inl ⟨rfl, rfl⟩⟩
  | case3 _ _ _ _ _ hprepare | case4 _ _ _ _ _ hprepare => exact ⟨rfl, .inr ⟨by rw [hprepare], .inl rfl⟩⟩
  | case5 _ _ hkind lease _ hprepare =>
    exact ⟨rfl, .inr ⟨by rw [hprepare], .inr ⟨lease, by rw [hprepare], hkind, rfl⟩⟩⟩

/-- **A shutdown** gives the lease of the executor back, or leaves the transport alone. -/
theorem shutdown_spec (reason : String) (s : σ) :
    (e.shutdown transport reason s).2.1.spec = e.spec ∧ (e.shutdown transport reason s).2.1.lease = e.lease ∧
      ((e.shutdown transport reason s).2.2 = s ∨ (e.shutdown transport reason s).2.2 = (e.giveBack transport s).2) := by
  fun_cases shutdown with
  | case1 | case2 => exact ⟨rfl, rfl, .inl rfl⟩
  | case3 _ _ _ _ hback | case4 _ _ _ hback => exact ⟨rfl, rfl, .inr (by rw [hback])⟩

theorem revoke_spec (reason : String) (s : σ) :
    (e.revoke transport reason s).2.1.spec = e.spec ∧ (e.revoke transport reason s).2.1.lease = e.lease ∧
      ((e.revoke transport reason s).2.2 = s ∨ (e.revoke transport reason s).2.2 = (e.giveBack transport s).2) := by
  fun_cases revoke with
  | case1 | case2 => exact ⟨rfl, rfl, .inl rfl⟩
  | case3 _ _ _ _ hback | case4 _ _ _ hback => exact ⟨rfl, rfl, .inr (by rw [hback])⟩

theorem giveBack_spec (s : σ) : (e.giveBack transport s).2 = s ∨ ∃ lease, e.lease = some lease ∧
      (e.giveBack transport s).2 = (transport.shutdown lease s).2 := by
  unfold giveBack
  split
  · rename_i lease hlease
    split
    · exact .inl rfl
    · exact .inr ⟨lease, hlease, rfl⟩
  · exact .inl rfl

end

end BoundedEnvironmentExecutor

end ComputeMesh.Platform
