import ComputeMesh.Lib.Checks
import ComputeMesh.Lib.Json

/-!
# Tool contracts

The metadata of a tool, the context a call is made in, the result it has, and the grants that authorize a call.

* `SideEffectLevel.rank`, `ToolManifest` — what is known of a tool;
* `ToolManifest.sideEffecting`, `ToolManifest.needsConfirmation` — which calls are guarded;
* `ToolAuthorizationGrant.validate` — a grant is for one call;
* `failureOf` — whether the payload of a tool is a failure.

The hash is a parameter: a digest is the hash of a text.
-/

namespace ComputeMesh.Platform

inductive SideEffectLevel
  | none
  | read
  | writeReversible
  | writeIrreversible
  | execute
  deriving DecidableEq, Repr

def SideEffectLevel.rank : SideEffectLevel → ℕ
  | none => 0
  | read => 1
  | writeReversible => 2
  | writeIrreversible => 3
  | execute => 4

inductive ToolLifecycle
  | available
  | experimental
  | deprecated
  | disabled
  | broken
  deriving DecidableEq, Repr

def ToolLifecycle.value : ToolLifecycle → String
  | available => "AVAILABLE"
  | experimental => "EXPERIMENTAL"
  | deprecated => "DEPRECATED"
  | disabled => "DISABLED"
  | broken => "BROKEN"

inductive ToolMode
  | preview
  | confirm
  | execute
  | verify
  deriving DecidableEq, Repr

/-- The arguments of a call. -/
abbrev Arguments := Dict String Json

/-- `ToolManifest`.  What `to_dict` writes of it is kept as it is. -/
structure ToolManifest where
  toolId : String
  name : String
  lifecycle : ToolLifecycle := .available
  sideEffect : SideEffectLevel := .execute
  ownerOnly : Bool := false
  permissions : List String := []
  confirmationRequired : Bool := true
  idempotent : Bool := false
  retryLimit : ℤ := 0
  written : Json := .null

namespace ToolManifest

variable (manifest : ToolManifest)

/-- The tool writes or executes. -/
def sideEffecting : Bool := SideEffectLevel.writeReversible.rank ≤ manifest.sideEffect.rank

def needsConfirmation : Bool := manifest.confirmationRequired || manifest.sideEffecting

/-- How often a call may invoke the tool. -/
def attempts : ℕ :=
  if manifest.sideEffecting && !manifest.idempotent then 1 else (max 1 (manifest.retryLimit + 1)).toNat

end ToolManifest

/-- The digest of arguments: the hash of their compact text. -/
def argumentsHash (hash : String → String) (arguments : Arguments) : String := hash (Json.dumps (Json.ofDict arguments))

/-! ### Grants -/

inductive ToolFailure
  | permissionError (message : String)
  deriving DecidableEq, Repr

structure ToolAuthorizationGrant where
  toolId : String
  requestId : String
  argumentsHash : String
  authorized : Bool := false
  confirmed : Bool := false
  idempotencyKey : Option String := none
  allowedPermissions : List String := []
  expiresAt : ℚ := 0

namespace ToolAuthorizationGrant

def validate (hash : String → String) (grant : ToolAuthorizationGrant) (toolId : String) (requestId : Option String)
    (arguments : Arguments) (now : ℚ) : Except ToolFailure Unit :=
  if grant.toolId ≠ toolId then .error (.permissionError "tool authorization grant tool mismatch")
  else if grant.requestId ≠ requestId.getD "" then
    .error (.permissionError "tool authorization grant request mismatch")
  else if grant.expiresAt ≤ now then .error (.permissionError "tool authorization grant expired")
  else if grant.argumentsHash ≠ Platform.argumentsHash hash arguments then
    .error (.permissionError "tool authorization grant arguments mismatch")
  else .ok ()

end ToolAuthorizationGrant

/-! ### Calls and results -/

structure ToolExecutionContext where
  mode : ToolMode := .execute
  isOwner : Bool := false
  authorized : Bool := false
  confirmed : Bool := false
  ownerId : Option String := none
  idempotencyKey : Option String := none
  requestId : Option String := none
  allowedPermissions : List String := []

/-- The idempotency key, if there is one that is not empty. -/
def ToolExecutionContext.key (context : ToolExecutionContext) : Option String := context.idempotencyKey.filter (· ≠ "")

inductive ToolStatus
  | blocked
  | preview
  | confirmationRequired
  | completed
  | failed
  deriving DecidableEq, Repr

def ToolStatus.value : ToolStatus → String
  | blocked => "blocked"
  | preview => "preview"
  | confirmationRequired => "confirmation_required"
  | completed => "completed"
  | failed => "failed"

/-- `ToolExecutionResult`, with the approval that its provenance names. -/
structure ToolExecutionResult where
  status : ToolStatus
  toolId : String
  mode : ToolMode
  result : Json := .null
  error : String := ""
  confirmationRequired : Bool := false
  idempotencyReplay : Bool := false
  approvalId : Option String := none

/-- `_error`. -/
def ToolExecutionResult.refused (toolId : String) (mode : ToolMode) (error : String) : ToolExecutionResult :=
  { status := .blocked, toolId, mode, error }

/-- `normalize_tool_result`: the error of a payload whose status is `FAILURE`, an object that holds nothing but an error.
`text` is `str`. -/
def failureOf (text : Json → String) : Json → Option String
  | .obj [("error", value)] => if value.truthy then some (text value) else none
  | _ => none

end ComputeMesh.Platform
