import ComputeMesh.Lib.Checks
import ComputeMesh.Lib.JsonAscii
import ComputeMesh.Lib.Sha256
import ComputeMesh.Lib.UtcCalendar

/-!
# The usage ledger

What agent turns used, one row for each idempotency key, and the hard quotas for one scope and one UTC period.

* `UsageDelta`, `UsageQuota` — what is recorded and what limits it, with the checks of their constructors as fields;
* `fingerprint`, `fingerprintText_injective` — the digest that tells whether two records are the same;
* `checkBudget`, `checkQuotas`, `record`, `setQuota`, `removeQuota` — the methods;
* `record_eq_ok` — **what a record that returns has done**: it repeated a row, or passed every check.
-/

namespace ComputeMesh.Platform

open ComputeMesh.JsonAscii ComputeMesh.Text ComputeMesh.UtcCalendar

inductive UsageFailure
  | valueError (message : String)
  | limitExceeded (message : String)
  | conflict (message : String)
  | overflowError (message : String)
  | operationalError (message : String)
  | integrityError (message : String)
  deriving DecidableEq, Repr

/-- The counters of a record. -/
inductive UsageField
  | promptTokens
  | completionTokens
  | toolCalls
  | cpuMilliseconds
  | gpuMilliseconds
  | vramByteSeconds
  | networkBytes
  | artifactBytes
  | externalCostMicros
  deriving DecidableEq, Repr

namespace UsageField

/-- The counters in the order of their declaration. -/
def all : List UsageField :=
  [promptTokens, completionTokens, toolCalls, cpuMilliseconds, gpuMilliseconds, vramByteSeconds, networkBytes,
    artifactBytes, externalCostMicros]

theorem mem_all (f : UsageField) : f ∈ all := by cases f <;> decide

def name : UsageField → String
  | promptTokens => "prompt_tokens"
  | completionTokens => "completion_tokens"
  | toolCalls => "tool_calls"
  | cpuMilliseconds => "cpu_milliseconds"
  | gpuMilliseconds => "gpu_milliseconds"
  | vramByteSeconds => "vram_byte_seconds"
  | networkBytes => "network_bytes"
  | artifactBytes => "artifact_bytes"
  | externalCostMicros => "external_cost_micros"

end UsageField

/-- The limit of each counter, if it has one. -/
abbrev UsageBudget := UsageField → Option ℕ

/-- At most 32 ids of 1 to 160 characters. -/
def validIds (ids : List String) : Bool :=
  decide (ids.length ≤ 32) && ids.all fun id => 1 ≤ (strip id).toList.length && (strip id).toList.length ≤ 160

structure UsageDelta where
  sessionId : String
  turnId : String
  principalId : String := ""
  nodeId : String := ""
  modelId : String := ""
  amount : UsageField → ℕ := fun _ => 0
  tenantId : String := ""
  executionJobIds : List String := []
  executionNodeIds : List String := []
  ids : isIdentifier 160 sessionId = true ∧ isIdentifier 160 turnId = true
  short : ∀ id ∈ [principalId, nodeId, modelId, tenantId], id.toList.length ≤ 160
  executionIds : validIds executionJobIds = true ∧ validIds executionNodeIds = true

/-- The fields of a record, sorted by name. -/
def UsageDelta.members (d : UsageDelta) : List (String × Leaf) :=
  [("artifact_bytes", .nat (d.amount .artifactBytes)), ("completion_tokens", .nat (d.amount .completionTokens)),
    ("cpu_milliseconds", .nat (d.amount .cpuMilliseconds)), ("execution_job_ids", .texts d.executionJobIds),
    ("execution_node_ids", .texts d.executionNodeIds), ("external_cost_micros", .nat (d.amount .externalCostMicros)),
    ("gpu_milliseconds", .nat (d.amount .gpuMilliseconds)), ("model_id", .text d.modelId),
    ("network_bytes", .nat (d.amount .networkBytes)), ("node_id", .text d.nodeId), ("principal_id", .text d.principalId),
    ("prompt_tokens", .nat (d.amount .promptTokens)), ("session_id", .text d.sessionId), ("tenant_id", .text d.tenantId),
    ("tool_calls", .nat (d.amount .toolCalls)), ("turn_id", .text d.turnId),
    ("vram_byte_seconds", .nat (d.amount .vramByteSeconds))]

/-- `json.dumps(delta.__dict__, sort_keys=True, separators=(",", ":"))`. -/
def UsageDelta.fingerprintText (d : UsageDelta) : String := dumpsFlat d.members

def UsageDelta.fingerprint (d : UsageDelta) : String := Sha256.sha256Hex d.fingerprintText

/-- **The text of a record is that of no other record.** -/
theorem UsageDelta.fingerprintText_injective : Function.Injective UsageDelta.fingerprintText := by
  intro d d' h
  have hmembers := dumpsFlat_injective h
  obtain ⟨session, turn, principal, node, model, amount, tenant, jobs, nodes, _, _, _⟩ := d
  obtain ⟨session', turn', principal', node', model', amount', tenant', jobs', nodes', _, _, _⟩ := d'
  simp only [UsageDelta.members, List.cons.injEq, Prod.mk.injEq, Leaf.nat.injEq, Leaf.text.injEq, Leaf.texts.injEq,
    true_and, and_true] at hmembers
  obtain ⟨hartifact, hcompletion, hcpu, rfl, rfl, hcost, hgpu, rfl, hnetwork, rfl, rfl, hprompt, rfl, rfl, htool, rfl,
    hvram⟩ := hmembers
  obtain rfl : amount = amount' := by
    funext f
    cases f <;> assumption
  rfl

inductive QuotaScope
  | global
  | tenant
  | principal
  | session
  deriving DecidableEq, Repr

inductive QuotaPeriod
  | lifetime
  | daily
  | monthly
  deriving DecidableEq, Repr

def QuotaScope.text : QuotaScope → String
  | .global => "global"
  | .tenant => "tenant"
  | .principal => "principal"
  | .session => "session"

def QuotaPeriod.text : QuotaPeriod → String
  | .lifetime => "lifetime"
  | .daily => "daily"
  | .monthly => "monthly"

/-- What `UsageQuota.__post_init__` says of a scope. -/
def checkScope (scope : QuotaScope) (scopeId : String) : Except UsageFailure Unit :=
  if scope = .global then
    if scopeId ≠ "" ∧ scopeId ≠ "global" then
      .error (.valueError "global usage quota must use an empty or global scope_id")
    else .ok ()
  else if strip scopeId = "" then .error (.valueError "scoped usage quota requires a scope_id")
  else .ok ()

structure UsageQuota where
  scope : QuotaScope
  scopeId : String
  period : QuotaPeriod
  budget : UsageBudget
  valid : checkScope scope scopeId = .ok ()

def normalizedId (scope : QuotaScope) (scopeId : String) : String := if scope = .global then "global" else strip scopeId

/-- A row of `usage_records`, stored under its idempotency key. -/
structure UsageRow where
  usageId : String
  recordedAt : ℚ
  delta : UsageDelta
  fingerprint : String

structure UsageRecord where
  usageId : String
  idempotencyKey : String
  recordedAt : ℚ
  delta : UsageDelta

def UsageRow.record (row : UsageRow) (key : String) : UsageRecord := ⟨row.usageId, key, row.recordedAt, row.delta⟩

/-- The key of a row of `usage_quotas`. -/
abbrev QuotaKey := QuotaScope × String × QuotaPeriod

/-- The tables of the ledger. -/
structure UsageLedger where
  records : Dict String UsageRow := .empty
  quotas : Dict QuotaKey UsageBudget := .empty

def periodStart (period : QuotaPeriod) (now : ℚ) : ℚ :=
  match period with
  | .lifetime => 0
  | .daily => timegm (gmtime now)
  | .monthly => timegm { gmtime now with day := 1 }

/-- The largest integer a column holds, and one more. -/
def sqliteIntegerLimit : ℕ := 2 ^ 63

def sumOf (rows : List UsageRow) (f : UsageField) : ℕ := (rows.map fun row => row.delta.amount f).sum

/-- The sums of the counters, as the database computes them. -/
def totals (rows : List UsageRow) : Except UsageFailure (UsageField → ℕ) :=
  if UsageField.all.any fun f => sqliteIntegerLimit ≤ sumOf rows f then .error (.operationalError "integer overflow")
  else .ok (sumOf rows)

def checkBudget (totals : UsageField → ℕ) (delta : UsageDelta) (label : String) :
    Option UsageBudget → Except UsageFailure Unit
  | none => .ok ()
  | some budget =>
    checkEach (fun f => match budget f with
      | some limit =>
        if totals f + delta.amount f > limit then .error (.limitExceeded (label ++ " exceeded: " ++ f.name)) else .ok ()
      | none => .ok ()) UsageField.all

/-- The column of a record that a query for the scope compares. -/
def UsageDelta.column (d : UsageDelta) : QuotaScope → String
  | .global => "global"
  | .tenant => d.tenantId
  | .principal => d.principalId
  | .session => d.sessionId

/-- The scopes a record is checked against. -/
def UsageDelta.scopes (d : UsageDelta) : List (QuotaScope × String) :=
  [(.global, "global"), (.session, d.sessionId)] ++ (if d.principalId ≠ "" then [(.principal, d.principalId)] else [])
    ++ (if d.tenantId ≠ "" then [(.tenant, d.tenantId)] else [])

namespace UsageLedger

variable {l l' : UsageLedger} {delta : UsageDelta} {key usageHex : String} {budget : Option UsageBudget} {now : ℚ}
  {r : UsageRecord}

def recordsSince (l : UsageLedger) (scope : QuotaScope) (scopeId : String) (start : ℚ) : List UsageRow :=
  l.records.values.filter fun row => decide (start ≤ row.recordedAt) && decide (row.delta.column scope = scopeId)

def recordsOfSession (l : UsageLedger) (sessionId : String) : List UsageRow :=
  l.records.values.filter fun row => decide (row.delta.sessionId = sessionId)

/-- The periods in the order in which the index returns the quotas of a scope. -/
def periods : List QuotaPeriod := [.daily, .lifetime, .monthly]

def checkQuota (l : UsageLedger) (delta : UsageDelta) (now : ℚ) (scope : QuotaScope) (scopeId : String)
    (period : QuotaPeriod) : Except UsageFailure Unit :=
  match l.quotas.get? (scope, scopeId, period) with
  | some budget =>
    totals (l.recordsSince scope scopeId (periodStart period now)) >>= fun totals =>
      checkBudget totals delta (scope.text ++ " " ++ scopeId ++ " " ++ period.text ++ " quota") (some budget)
  | none => .ok ()

def checkQuotas (l : UsageLedger) (delta : UsageDelta) (now : ℚ) : Except UsageFailure Unit :=
  checkEach (fun scope => checkEach (l.checkQuota delta now scope.1 scope.2) periods) delta.scopes

/-- The insertion of a row. -/
def insert (l : UsageLedger) (key : String) (row : UsageRow) : Except UsageFailure UsageLedger :=
  if UsageField.all.any fun f => sqliteIntegerLimit ≤ row.delta.amount f then
    .error (.overflowError "Python int too large to convert to SQLite INTEGER")
  else if l.records.values.any fun other => other.usageId = row.usageId then
    .error (.integrityError "UNIQUE constraint failed: usage_records.usage_id")
  else .ok { l with records := l.records.set key row }

/-- The key of a record: the one that is given, or a new one. -/
def keyOf (idempotencyKey : Option String) (keyHex : String) : String := textOr (idempotencyKey.getD "") ("usage_" ++ keyHex)

/-- `record`, for a key and the digits of the random id. -/
def record (l : UsageLedger) (delta : UsageDelta) (key : String) (budget : Option UsageBudget) (usageHex : String)
    (now : ℚ) : Except UsageFailure (UsageRecord × UsageLedger) :=
  if isIdentifier 200 key = false then .error (.valueError "invalid usage idempotency key")
  else
    match l.records.get? key with
    | some row =>
      if row.fingerprint ≠ delta.fingerprint then
        .error (.conflict "usage idempotency key was reused with different data")
      else .ok (row.record key, l)
    | none =>
      let row := { usageId := "usage_" ++ usageHex, recordedAt := now, delta, fingerprint := delta.fingerprint }
      totals (l.recordsOfSession delta.sessionId) >>= fun totals =>
        checkBudget totals delta "usage budget" budget >>= fun _ =>
        l.checkQuotas delta now >>= fun _ =>
        l.insert key row >>= fun l => .ok (row.record key, l)

def setQuota (l : UsageLedger) (quota : UsageQuota) : UsageLedger :=
  { l with quotas := l.quotas.set (quota.scope, normalizedId quota.scope quota.scopeId, quota.period) quota.budget }

/-- `remove_quota`, with whether there was one. -/
def removeQuota (l : UsageLedger) (scope : QuotaScope) (scopeId : String) (period : QuotaPeriod) :
    Except UsageFailure (Bool × UsageLedger) :=
  checkScope scope scopeId >>= fun _ =>
    let key := (scope, normalizedId scope scopeId, period)
    .ok (l.quotas.contains key, { l with quotas := l.quotas.erase key })

/-! ### What the checks let through -/

theorem checkBudget_eq_ok_iff {totals : UsageField → ℕ} {label : String} {budget : UsageBudget} :
    checkBudget totals delta label (some budget) = .ok () ↔
      ∀ f limit, budget f = some limit → totals f + delta.amount f ≤ limit := by
  rw [checkBudget, checkEach_eq_ok_iff]
  constructor
  · intro h f limit hlimit
    have hf := h f f.mem_all
    rw [hlimit] at hf
    exact not_lt.mp (ite_error_eq_ok_iff.mp hf).1
  · intro h f _
    cases hlimit : budget f with
    | none => rfl
    | some limit => exact ite_error_eq_ok_iff.mpr ⟨not_lt.mpr (h f limit hlimit), rfl⟩

theorem mem_periods (period : QuotaPeriod) : period ∈ periods := by cases period <;> decide

theorem room_of_checkQuota {scope : QuotaScope} {scopeId : String} {period : QuotaPeriod} {budget : UsageBudget}
    (h : l.checkQuota delta now scope scopeId period = .ok ()) (hquota : l.quotas.get? (scope, scopeId, period) = some budget)
    {f : UsageField} {limit : ℕ} (hlimit : budget f = some limit) :
    sumOf (l.recordsSince scope scopeId (periodStart period now)) f + delta.amount f ≤ limit := by
  rw [checkQuota, hquota] at h
  obtain ⟨sums, hsums, hcheck⟩ := bind_eq_ok_iff.mp h
  obtain ⟨-, hsums⟩ := ite_error_eq_ok_iff.mp hsums
  obtain rfl := Except.ok.inj hsums
  exact checkBudget_eq_ok_iff.mp hcheck f limit hlimit

theorem room_of_checkQuotas {scope : QuotaScope} {period : QuotaPeriod} {budget : UsageBudget}
    (h : l.checkQuotas delta now = .ok ()) (hnamed : delta.column scope ≠ "")
    (hquota : l.quotas.get? (scope, delta.column scope, period) = some budget) {f : UsageField} {limit : ℕ}
    (hlimit : budget f = some limit) :
    sumOf (l.recordsSince scope (delta.column scope) (periodStart period now)) f + delta.amount f ≤ limit := by
  have hscope : (scope, delta.column scope) ∈ delta.scopes := by
    cases scope with
    | global | session => simp [UsageDelta.scopes, UsageDelta.column]
    | principal =>
      have hprincipal : delta.principalId ≠ "" := hnamed
      simp [UsageDelta.scopes, UsageDelta.column, hprincipal]
    | tenant =>
      have htenant : delta.tenantId ≠ "" := hnamed
      simp [UsageDelta.scopes, UsageDelta.column, htenant]
  have hperiods := checkEach_eq_ok_iff.mp (checkEach_eq_ok_iff.mp h _ hscope) period (mem_periods period)
  exact room_of_checkQuota hperiods hquota hlimit

/-- **What a record that returns has done**: it repeated the row of its key, or it passed every check and is the new row. -/
theorem record_eq_ok (h : l.record delta key budget usageHex now = .ok (r, l')) :
    (∃ row, l.records.get? key = some row ∧ row.fingerprint = delta.fingerprint ∧ r = row.record key ∧ l' = l) ∨
      (l.records.get? key = none ∧ l.checkQuotas delta now = .ok () ∧
        ∃ row : UsageRow, row.delta = delta ∧ row.recordedAt = now ∧ row.fingerprint = delta.fingerprint ∧
          r = row.record key ∧ l' = { l with records := l.records.set key row }) := by
  rw [record] at h
  obtain ⟨-, h⟩ := ite_error_eq_ok_iff.mp h
  cases hrow : l.records.get? key with
  | some row =>
    rw [hrow] at h
    obtain ⟨hsame, h⟩ := ite_error_eq_ok_iff.mp h
    obtain ⟨rfl, rfl⟩ := Prod.mk.inj (Except.ok.inj h)
    exact .inl ⟨row, rfl, not_not.mp hsame, rfl, rfl⟩
  | none =>
    rw [hrow] at h
    obtain ⟨sums, -, h⟩ := bind_eq_ok_iff.mp h
    obtain ⟨_, -, h⟩ := bind_eq_ok_iff.mp h
    obtain ⟨_, hquotas, h⟩ := bind_eq_ok_iff.mp h
    obtain ⟨inserted, hinsert, h⟩ := bind_eq_ok_iff.mp h
    obtain ⟨-, hinsert⟩ := ite_error_eq_ok_iff.mp hinsert
    obtain ⟨-, hinsert⟩ := ite_error_eq_ok_iff.mp hinsert
    obtain rfl := Except.ok.inj hinsert
    obtain ⟨rfl, rfl⟩ := Prod.mk.inj (Except.ok.inj h)
    exact .inr ⟨rfl, hquotas, _, rfl, rfl, rfl, rfl, rfl⟩

theorem record_of_get? {row : UsageRow} (hkey : isIdentifier 200 key = true) (hrow : l.records.get? key = some row) :
    l.record delta key budget usageHex now
      = if row.fingerprint ≠ delta.fingerprint then
          .error (.conflict "usage idempotency key was reused with different data")
        else .ok (row.record key, l) := by
  have hkey : ¬isIdentifier 200 key = false := by rw [hkey]; decide
  rw [record, if_neg hkey, hrow]

end UsageLedger

end ComputeMesh.Platform
