import ComputeMesh.Lib.Run
import ComputeMesh.Platform.ToolContracts

/-!
# Tool execution

The executor behind which every tool is invoked: it checks the call, looks for the result of an earlier call with its
idempotency key, asks the circuit breaker, invokes the backend, and records the result.  Each of these is a step of its own,
and any number of calls share one store.

* `SafeToolExecutor.check` — the checks that need no store, with `check_eq_ok`;
* `ExecutionStore` — the results of keyed calls, and the breakers;
* `ToolRun.step` — **one step of a call**, with the backend's answer and the clock;
* `ToolWorld.step` — any number of calls over one store, with a log of what the backend was asked.

Hash, `str`, egress guard and verifier are parameters: the last two are handed to the executor.  Of the provenance of a
result only the approval is kept.
-/

namespace ComputeMesh.Platform

/-- What the egress guard says of the arguments of a call. -/
inductive EgressAnswer
  | allowed
  | denied (reason : String)
  | raised (error : String)

structure SafeToolExecutor where
  /-- The hash of a text. -/
  hash : String → String
  /-- `str` of a value. -/
  text : Json → String
  capabilities : Dict String ToolManifest
  egress : ToolManifest → Arguments → EgressAnswer := fun _ _ => .allowed
  verifier : Option (ToolManifest → Arguments → Json → Except String Json) := none
  breakerThreshold : ℕ := 3
  breakerCooldownSeconds : ℚ := 30
  bounds : 1 ≤ breakerThreshold ∧ 1 / 10 ≤ breakerCooldownSeconds := by decide +kernel

namespace SafeToolExecutor

variable {exec : SafeToolExecutor} {manifest : ToolManifest} {arguments : Arguments} {context : ToolExecutionContext}

/-- `set(permissions) - set(allowed)`, sorted. -/
def missingPermissions (permissions allowed : List String) : List String :=
  ((permissions.filter fun p => p ∉ allowed).eraseDups).insertionSort (· ≤ ·)

def preview (exec : SafeToolExecutor) (manifest : ToolManifest) (arguments : Arguments)
    (context : ToolExecutionContext) : ToolExecutionResult where
  status := .preview
  toolId := manifest.toolId
  mode := .preview
  result := .obj
    [("tool", manifest.written),
      ("argument_keys", .arr (((arguments.entries.map Prod.fst).insertionSort (· ≤ ·)).map .str)),
      ("arguments_hash", .str (argumentsHash exec.hash arguments)),
      ("requires_confirmation", .bool manifest.needsConfirmation),
      ("requires_idempotency_key", .bool (manifest.sideEffecting && !manifest.idempotent)),
      ("authorized", .bool context.authorized)]
  confirmationRequired := manifest.needsConfirmation

/-- The checks of `execute` on a known tool, before the store is asked: the result a call has at once, if it has one. -/
def check (exec : SafeToolExecutor) (manifest : ToolManifest) (arguments : Arguments) (context : ToolExecutionContext) :
    Except ToolExecutionResult Unit :=
  let refused := ToolExecutionResult.refused manifest.toolId context.mode
  if manifest.lifecycle ∈ [ToolLifecycle.disabled, .broken] then
    .error (refused ("tool lifecycle is " ++ manifest.lifecycle.value))
  else if manifest.ownerOnly = true ∧ context.isOwner = false then .error (refused "owner authorization required")
  else if missingPermissions manifest.permissions context.allowedPermissions ≠ [] then
    .error (refused ("missing permissions: " ++
      ", ".intercalate (missingPermissions manifest.permissions context.allowedPermissions)))
  else if context.mode = .preview then .error (exec.preview manifest arguments context)
  else if manifest.sideEffecting = true ∧ context.authorized = false then
    .error (refused "side-effect action is not authorized")
  else if context.mode = .confirm ∧ context.confirmed = false then
    .error
      { status := .confirmationRequired, toolId := manifest.toolId, mode := context.mode, confirmationRequired := true }
  else if manifest.needsConfirmation = true ∧ context.confirmed = false then
    .error { refused "confirmation required" with confirmationRequired := true }
  else if manifest.sideEffecting = true ∧ context.key = none ∧ manifest.idempotent = false then
    .error (refused "idempotency key required for non-idempotent write/execute action")
  else
    match exec.egress manifest arguments with
    | .raised error => .error (refused ("egress policy evaluation failed: " ++ error))
    | .denied reason => .error (refused ("egress blocked: " ++ reason))
    | .allowed => .ok ()

/-- What a call that passes the checks has. -/
structure Cleared (manifest : ToolManifest) (context : ToolExecutionContext) : Prop where
  authorized : manifest.sideEffecting = true → context.authorized = true
  confirmed : manifest.needsConfirmation = true → context.confirmed = true
  keyed : manifest.sideEffecting = true → manifest.idempotent = false → context.key ≠ none

theorem check_eq_ok (h : exec.check manifest arguments context = .ok ()) : Cleared manifest context := by
  obtain ⟨-, h⟩ := ite_error_eq_ok_iff.mp h
  obtain ⟨-, h⟩ := ite_error_eq_ok_iff.mp h
  obtain ⟨-, h⟩ := ite_error_eq_ok_iff.mp h
  obtain ⟨-, h⟩ := ite_error_eq_ok_iff.mp h
  obtain ⟨hauthorized, h⟩ := ite_error_eq_ok_iff.mp h
  obtain ⟨-, h⟩ := ite_error_eq_ok_iff.mp h
  obtain ⟨hconfirmed, h⟩ := ite_error_eq_ok_iff.mp h
  obtain ⟨hkeyed, -⟩ := ite_error_eq_ok_iff.mp h
  exact ⟨fun hs => eq_true_of_ne_false fun ha => hauthorized ⟨hs, ha⟩,
    fun hn => eq_true_of_ne_false fun hc => hconfirmed ⟨hn, hc⟩, fun hs hi hk => hkeyed ⟨hs, hk, hi⟩⟩

end SafeToolExecutor

/-! ### The store -/

/-- A row of `idempotency`. -/
structure RememberedResult where
  argumentsHash : String
  result : Json

/-- A row of `breaker`. -/
structure Breaker where
  failures : ℕ
  openedUntil : ℚ
  deriving DecidableEq, Repr

structure ExecutionStore where
  idempotency : Dict (String × String) RememberedResult := .empty
  breaker : Dict String Breaker := .empty

namespace ExecutionStore

/-- `replay`: the stored result, and nothing for `None`. -/
def replay (hash : String → String) (store : ExecutionStore) (toolId key : String) (arguments : Arguments) :
    Except String (Option Json) :=
  match store.idempotency.get? (toolId, key) with
  | none => .ok none
  | some row =>
    if row.argumentsHash ≠ argumentsHash hash arguments then .error "idempotency key reused with different arguments"
    else
      match row.result with
      | .null => .ok none
      | result => .ok (some result)

def remember (hash : String → String) (store : ExecutionStore) (toolId key : String) (arguments : Arguments)
    (result : Json) : ExecutionStore :=
  { store with idempotency := store.idempotency.set (toolId, key) ⟨argumentsHash hash arguments, result⟩ }

def breakerState (store : ExecutionStore) (toolId : String) : Breaker := store.breaker.getD toolId ⟨0, 0⟩

def setBreaker (store : ExecutionStore) (toolId : String) (b : Breaker) : ExecutionStore :=
  { store with breaker := store.breaker.set toolId b }

end ExecutionStore

/-! ### The calls -/

/-- An exception that a call does not catch. -/
structure ToolCrash where
  kind : String
  deriving DecidableEq, Repr

inductive BackendAnswer
  | returned (result : Json)
  | raised (error : String)
  | escaped (crash : ToolCrash)

inductive ToolPhase
  /-- The store is about to be asked for an earlier result. -/
  | looking
  /-- The breaker is about to be asked. -/
  | gating
  | invoking (attempt : ℕ)
  /-- The backend has returned, and the breaker is about to be told. -/
  | succeeding (result : Json)
  /-- The backend has failed, and the failures so far are about to be read. -/
  | failing (attempt : ℕ) (error : String)
  | counting (attempt : ℕ) (error : String) (failures : ℕ)
  /-- The result is about to be recorded under the key. -/
  | remembering (key : String) (result : Json)
  | finished (outcome : Except ToolCrash ToolExecutionResult)

/-- A call of `execute`. -/
structure ToolRun where
  manifest : ToolManifest
  arguments : Arguments
  context : ToolExecutionContext
  phase : ToolPhase

/-- What the backend was asked, and what it said. -/
structure ToolInvocation where
  manifest : ToolManifest
  arguments : Arguments
  key : Option String
  attempt : ℕ
  answer : BackendAnswer

/-- One step of a call, with the clock and, where the tool is invoked, the backend's answer. -/
inductive ToolMove
  | proceed (now : ℚ)
  | invoke (answer : BackendAnswer)

namespace ToolRun

variable {exec : SafeToolExecutor} {store : ExecutionStore} {run : ToolRun}

/-- `execute`, up to the first use of the store. -/
def start (exec : SafeToolExecutor) (toolId : String) (arguments : Arguments) (context : ToolExecutionContext) :
    Except ToolExecutionResult ToolRun :=
  match exec.capabilities.get? toolId with
  | none => .error (.refused toolId context.mode "tool manifest not found")
  | some manifest =>
    exec.check manifest arguments context >>= fun _ =>
      .ok ⟨manifest, arguments, context, if context.key = none then .gating else .looking⟩

/-- The result of a call whose tool has returned. -/
def completed (exec : SafeToolExecutor) (run : ToolRun) (result : Json) : ToolExecutionResult :=
  let verification : Json :=
    match exec.verifier with
    | none => .obj [("verified", .bool false), ("reason", .str "no verifier configured")]
    | some verify =>
      match verify run.manifest run.arguments result with
      | .ok verification => verification
      | .error error => .obj [("verified", .bool false), ("error", .str error)]
  { status := .completed, toolId := run.manifest.toolId, mode := run.context.mode
    result := if run.context.mode = .verify then .obj [("result", result), ("verification", verification)] else result }

/-- The result of a call that is answered from the store. -/
def replayed (run : ToolRun) (result : Json) : ToolExecutionResult :=
  { status := .completed, toolId := run.manifest.toolId, mode := run.context.mode, result, idempotencyReplay := true }

def refused (run : ToolRun) (error : String) : ToolExecutionResult := .refused run.manifest.toolId run.context.mode error

/-- The call ends with a result. -/
def done (result : ToolExecutionResult) : ToolPhase := .finished (.ok result)

/-- What follows the look for an earlier result. -/
def looked (run : ToolRun) : Except String (Option Json) → ToolPhase
  | .error error => done (run.refused error)
  | .ok (some result) => done (run.replayed result)
  | .ok none => .gating

/-- What follows an invocation. -/
def invoked (exec : SafeToolExecutor) (attempt : ℕ) : BackendAnswer → ToolPhase
  | .escaped crash => .finished (.error crash)
  | .raised error => .failing attempt error
  | .returned result =>
    match failureOf exec.text result with
    | some error => .failing attempt error
    | none => .succeeding result

/-- **One step of a call**: the phase it comes to, what it leaves of the store, and what it asked of the backend. -/
def step (exec : SafeToolExecutor) (store : ExecutionStore) (run : ToolRun) (move : ToolMove) :
    ToolPhase × ExecutionStore × List ToolInvocation :=
  let toolId := run.manifest.toolId
  match run.phase, move with
  | .looking, .proceed _ =>
    (run.looked (store.replay exec.hash toolId (run.context.key.getD "") run.arguments), store, [])
  | .gating, .proceed now =>
    (if now < (store.breakerState toolId).openedUntil then done (run.refused "circuit breaker open") else .invoking 1,
      store, [])
  | .invoking attempt, .invoke answer =>
    (invoked exec attempt answer, store, [⟨run.manifest, run.arguments, run.context.key, attempt, answer⟩])
  | .succeeding result, .proceed _ =>
    (match run.context.key with
      | none => done (completed exec run result)
      | some key => .remembering key result, store.setBreaker toolId ⟨0, 0⟩, [])
  | .failing attempt error, .proceed _ => (.counting attempt error (store.breakerState toolId).failures, store, [])
  | .counting attempt error failures, .proceed now =>
    (if run.manifest.attempts ≤ attempt then
        done { status := .failed, toolId, mode := run.context.mode, error }
      else .invoking (attempt + 1),
      store.setBreaker toolId
        ⟨failures + 1, if exec.breakerThreshold ≤ failures + 1 then now + exec.breakerCooldownSeconds else 0⟩, [])
  | .remembering key result, .proceed _ =>
    (done (completed exec run result), store.remember exec.hash toolId key run.arguments result, [])
  | phase, _ => (phase, store, [])

end ToolRun

/-! ### Any number of calls -/

structure ToolWorld where
  store : ExecutionStore := {}
  runs : Dict ℕ ToolRun := .empty
  /-- What the backend was asked and by which call, newest first. -/
  log : List (ℕ × ToolInvocation) := []

inductive ToolInput
  | submit (i : ℕ) (toolId : String) (arguments : Arguments) (context : ToolExecutionContext)
  | move (i : ℕ) (m : ToolMove)

/-- A step of the executor's calls; a call that is answered at once leaves nothing. -/
def ToolWorld.step (exec : SafeToolExecutor) (s : ToolWorld) (input : ToolInput) : ToolWorld :=
  match input with
  | .submit i toolId arguments context =>
    match s.runs.get? i, ToolRun.start exec toolId arguments context with
    | none, .ok run => { s with runs := s.runs.set i run }
    | _, _ => s
  | .move i m =>
    match s.runs.get? i with
    | none => s
    | some run =>
      let (phase, store, asked) := run.step exec s.store m
      { store, runs := s.runs.set i { run with phase }, log := asked.map (fun invocation => (i, invocation)) ++ s.log }

end ComputeMesh.Platform
