import ComputeMesh.Billing.LedgerRuns

/-!
# Who calls the gateway, and the credit a login gives

`GatewayAuthManager.authenticate_request` of `services/gateway/auth.py`.  Each login path first finds out whom a call is
for (`login`), which reads the headers, the environment and the stores but no ledger, and then admits that account
(`Admission.enter`): with owner credits it binds the credential, without them it may deposit a grant, and last it
looks whether the account is banned.

Environment variables, the portal's stores, the telemetry registry and the teaser sessions are what the call reads from
outside; each of them may raise.  `_api_keys` is left out: every lookup builds it anew, and nothing else here reads it.
-/

namespace ComputeMesh.Gateway

open ComputeMesh.Text ComputeMesh.Billing

/-! ### Exceptions and results -/

/-- The classes of exceptions that the handlers tell apart.  `BillingError`, `OwnerAccountStoreError` and
`FleetAccountStoreError` derive from `Exception` alone and are `other`. -/
inductive AuthExn
  | importError
  | osError
  | sqlite
  | runtime
  | value
  | typeError
  | credentialStore
  | other (message : String)
  deriving DecidableEq

/-- The class of an exception of the ledger. -/
def AuthExn.ofBilling : Exn → AuthExn
  | .os _ => .osError
  | .value _ => .value
  | e => .other e.text

/-- `except (ImportError, OSError, sqlite3.Error, RuntimeError, ValueError)`. -/
def ownerHandled : AuthExn → Bool
  | .importError | .osError | .sqlite | .runtime | .value | .credentialStore => true
  | .typeError | .other _ => false

/-- `except (ImportError, OSError, sqlite3.Error, RuntimeError, ValueError, TypeError)`. -/
def sessionHandled : AuthExn → Bool
  | .typeError => true
  | e => ownerHandled e

/-- No handler. -/
def unhandled (_ : AuthExn) : Bool := false

structure AuthResult where
  accountId : Option String := none
  ownerId : Option String := none
  canUseOwnerTools : Bool := false
  isTeaser : Bool := false
  isProviderSelfCompute : Bool := false
  isQuotaExceeded : Bool := false
  errorMessage : Option String := none
  statusCode : ℕ := 200
  deriving DecidableEq

/-- A result that only says that something cannot be looked up. -/
def unavailable (message : String) : AuthResult := { errorMessage := some message, statusCode := 503 }

/-! ### What a call reads -/

/-- The headers that are read here; one that is absent is empty. -/
structure RequestHeaders where
  authorization : String := ""
  xOwnerKey : String := ""
  xApiKey : String := ""
  xForwardedFor : String := ""
  xRealIp : String := ""
  cookie : String := ""

/-- The arguments of `authenticate_request`. -/
structure AuthCall where
  headers : Option RequestHeaders
  clientAddress : Option String
  allowTeaser : Bool

structure FleetAccount where
  accountId : String
  ownerKey : String

/-- An entry of `NODE_TELEMETRY_REGISTRY`. -/
structure TelemetryNode where
  nodeId : String
  isPeerRelay : Bool
  ownerId : Option String
  clientIp : Option String

/-- A store that answers whether an owner is banned, and why. -/
structure BanRegistry where
  isBanned : String → Except AuthExn Bool
  banReason : String → Except AuthExn (Option String)

structure OwnerAccountStore where
  ensureOwner : String → Except AuthExn Unit
  bindApiCredential : String → String → Except AuthExn Unit
  bans : BanRegistry

/-- What a call reads from outside.  `registry` is the registered keys as `refresh_registered_keys` finds them. -/
structure AuthEnv where
  adminKey : String
  registry : Except AuthExn (List (String × String))
  allowDynamicProviderTokens : Bool
  allowDynamicCustomerKeys : Bool
  resolveLatestOwnerKey : String → Except AuthExn (Option String)
  accountByOwnerKey : String → Except AuthExn (Option FleetAccount)
  sessionAccount : Option RequestHeaders → Except AuthExn (Option FleetAccount)
  fleetBans : BanRegistry
  ownerAccountStore : Option OwnerAccountStore
  nodes : Except AuthExn (List TelemetryNode)
  ipAddress : String → Option String
  isTeaserQuotaExceeded : String → Bool
  teaserGrantMicroUnits : ℤ
  billing : Billing.Env

/-! ### Tokens and addresses -/

/-- `value.removeprefix(start)`. -/
def removePrefix (value start : String) : String :=
  if startsWith value start then String.ofList (value.toList.drop start.toList.length) else value

def extractBearerToken : Option RequestHeaders → String
  | none => ""
  | some headers =>
    let authHeader := strip headers.authorization
    if startsWith authHeader "Bearer " then strip (removePrefix authHeader "Bearer ")
    else if strip headers.xOwnerKey ≠ "" then strip headers.xOwnerKey
    else strip headers.xApiKey

def trustedProxies : List String := ["127.0.0.1", "::1", "localhost"]

def resolveClientIp (env : AuthEnv) (headers : Option RequestHeaders) (clientAddress : Option String) : String :=
  match clientAddress, headers with
  | some peerIp, some headers =>
    if peerIp ∉ trustedProxies then peerIp
    else
      let forwarded := strip (String.ofList (headers.xForwardedFor.toList.takeWhile fun c => c != ','))
      match env.ipAddress forwarded, env.ipAddress (strip headers.xRealIp) with
      | some ip, _ => ip
      | none, some ip => ip
      | none, none => peerIp
  | some peerIp, none => peerIp
  | none, _ => "127.0.0.1"

/-- Whether a text is ASCII. -/
def isAscii (s : String) : Bool := s.toList.all fun c => c.toNat < 128

/-- `hmac.compare_digest` of two texts. -/
def compareDigest (a b : String) : Except AuthExn Bool :=
  if isAscii a ∧ isAscii b then .ok (decide (a = b)) else .error .typeError

/-- The loop of `_lookup_registered_key`. -/
def findRegisteredKey (token : String) : List (String × String) → Except AuthExn (Option String)
  | [] => .ok none
  | (registered, accountId) :: rest =>
    match compareDigest token registered with
    | .error e => .error e
    | .ok true => .ok (some accountId)
    | .ok false => findRegisteredKey token rest

def lookupRegisteredKey (env : AuthEnv) (token : String) : Except AuthExn (Option String) :=
  match env.registry with
  | .error e => .error e
  | .ok keys => findRegisteredKey token keys

/-- The characters of `[a-zA-Z0-9_\-\.]`. -/
def keyChar (c : Char) : Bool :=
  ('A' ≤ c && c ≤ 'Z') || ('a' ≤ c && c ≤ 'z') || ('0' ≤ c && c ≤ '9') || c ∈ ['_', '-', '.']

/-- `^[a-zA-Z0-9_\-\.]{least,most}$` on a text without a line break at its end. -/
def isKeyText (least most : ℕ) (s : String) : Bool :=
  s.toList.all keyChar && decide (least ≤ s.toList.length) && decide (s.toList.length ≤ most)

def apiCredentialId (token : String) : Except AuthExn String :=
  if token = "" then .error .value else .ok ("api_sha256:" ++ Sha256.sha256Hex token)

/-- `_bind_owner_credential`, in a manager that uses owner credits. -/
def bindOwnerCredential (env : AuthEnv) (token ownerId : String) : Except AuthExn Unit := do
  match env.ownerAccountStore with
  | none => .error .runtime
  | some store =>
    store.ensureOwner ownerId
    let credential ← apiCredentialId token
    store.bindApiCredential ownerId credential

/-! ### Bans -/

def BanRegistry.reason (bans : BanRegistry) (ownerId : String) : Except AuthExn String := do
  let info ← bans.banReason ownerId
  .ok (info.getD "Administrative suspension")

/-- What `_check_fleet_banned` asks the two stores, for an id that it asks about. -/
def askBans (env : AuthEnv) (ownerId : String) : Except AuthExn (Option String) := do
  if ← env.fleetBans.isBanned ownerId then
    let reason ← env.fleetBans.reason ownerId
    .ok (some reason)
  else
    match env.ownerAccountStore with
    | none => .ok none
    | some store =>
      if ← store.bans.isBanned ownerId then
        let reason ← store.bans.reason ownerId
        .ok (some reason)
      else .ok none

/-- What `_check_fleet_banned` can raise: that the state cannot be verified, or what it does not expect. -/
inductive BanFailure
  | lookup
  | raised (e : AuthExn)

def checkFleetBanned (env : AuthEnv) (ownerOrAccountId : String) : Except BanFailure (Option String) :=
  if ownerOrAccountId = "" ∨ ownerOrAccountId = "admin_root" ∨ ownerOrAccountId = "teaser" then .ok none
  else
    match askBans env (strip ownerOrAccountId) with
    | .ok reason => .ok reason
    | .error e => if ownerHandled e then .error .lookup else .error (.raised e)

def guardAuthResult (env : AuthEnv) (r : AuthResult) : Except AuthExn AuthResult :=
  match r.accountId with
  | none => .ok r
  | some accountId =>
    if accountId = "admin_root" then .ok r
    else
      let target := textOr (r.ownerId.getD "") accountId
      match checkFleetBanned env target with
      | .error .lookup =>
        .ok (unavailable "Fleet authorization temporarily unavailable: ban status cannot be verified")
      | .error (.raised e) => .error e
      | .ok reason =>
        match reason.getD "" with
        | "" => .ok r
        | text =>
          .ok { errorMessage := some ("Flotte/Konto '" ++ target ++
                  "' wurde durch den Master-Administrator dauerhaft gesperrt: " ++ text)
                statusCode := 403 }

/-! ### Grants -/

/-- The kinds of automatic grants. -/
inductive GrantKind
  | initial
  | owner
  | providerSelf
  | session
  | provider
  | teaser
  deriving DecidableEq

/-- A deposit that a login makes for an account whose balance is zero. -/
structure LoginGrant where
  kind : GrantKind
  accountId : String
  amountMicroUnits : ℤ
  paymentReference : String

/-- The ledger, and the grants that have been deposited so far. -/
structure AuthState where
  ledger : Ledger
  grants : List (GrantKind × String)

def AuthState.usesOwnerCredits (s : AuthState) : Bool := decide (s.ledger.cls ≠ .ledger)

/-- `self.ledger.deposit_customer_credits`, of whatever class the ledger is. -/
def depositCredits (l : Ledger) (env : Billing.Env) (g : LoginGrant) : Except Exn Transaction × Ledger :=
  if l.cls.isGateway then l.gatewayDepositCustomerCredits env g.accountId g.amountMicroUnits g.paymentReference
  else l.depositCustomerCredits env g.accountId g.amountMicroUnits g.paymentReference

/-- The deposit for an account whose balance is zero.  A grant counts once its transaction is in the journal. -/
def giveGrant (env : AuthEnv) (s : AuthState) (g : LoginGrant) : Except AuthExn Unit × AuthState :=
  match s.ledger.getBalance g.accountId with
  | .error e => (.error (.ofBilling e), s)
  | .ok balance =>
    if balance ≠ 0 then (.ok (), s)
    else
      match depositCredits s.ledger env.billing g with
      | (reply, l) =>
        let posted := s.ledger.journal.transactions.length < l.journal.transactions.length
        let grants := if posted then s.grants ++ [(g.kind, g.accountId)] else s.grants
        match reply with
        | .ok _ => (.ok (), ⟨l, grants⟩)
        | .error e => (.error (.ofBilling e), ⟨l, grants⟩)

/-- An account that a login path admits.  `bindToken` is the credential that is bound where owner credits are used,
and `ownerResult` what is returned there; `askHistory` is the question whether there was an initial grant;
`handled` and `failure` are the handler around it all. -/
structure Admission where
  bindToken : Option String
  ownerResult : AuthResult
  grant : LoginGrant
  askHistory : Bool
  result : AuthResult
  guarded : Bool
  handled : AuthExn → Bool
  failure : AuthResult

namespace Admission

variable (env : AuthEnv) (s : AuthState) (a : Admission)

/-- The handler. -/
def catching (reply : Except AuthExn AuthResult) : Except AuthExn AuthResult :=
  match reply with
  | .ok r => .ok r
  | .error e => if a.handled e then .ok a.failure else .error e

/-- The return of a result, through the guard where the path has one. -/
def reply (r : AuthResult) : Except AuthExn AuthResult := if a.guarded then guardAuthResult env r else .ok r

/-- The admission where owner credits are used. -/
def bindAndReply (token : String) : Except AuthExn AuthResult := do
  bindOwnerCredential env token a.grant.accountId
  a.reply env a.ownerResult

/-- The admission where a grant may be due. -/
def grantAndReply : Except AuthExn AuthResult × AuthState :=
  if a.askHistory ∧ s.ledger.hasReceivedInitialGrant a.grant.accountId then (a.catching (a.reply env a.result), s)
  else
    match giveGrant env s a.grant with
    | (.error e, s) => (a.catching (.error e), s)
    | (.ok (), s) => (a.catching (a.reply env a.result), s)

/-- The last part of a login path, for the account it has found. -/
def enter : Except AuthExn AuthResult × AuthState :=
  match a.bindToken with
  | none => a.grantAndReply env s
  | some token =>
    if s.usesOwnerCredits then (a.catching (a.bindAndReply env token), s) else a.grantAndReply env s

end Admission

/-! ### The login paths -/

/-- What a login path makes of a call: it is not for this path, the call ends there, or an account is admitted. -/
inductive Login
  | passes
  | ends (reply : Except AuthExn AuthResult)
  | admits (a : Admission)

/-- The next path, where one is not for the call. -/
def Login.orElse : Login → Login → Login
  | .passes, next => next
  | login, _ => login

/-- A login by a credential, without a handler. -/
def credentialAdmission (token accountId : String) (kind : GrantKind) (amount : ℤ) (reference : String)
    (selfCompute : Bool) : Admission where
  bindToken := some token
  ownerResult := { accountId := some accountId, ownerId := some accountId, isProviderSelfCompute := selfCompute }
  grant := ⟨kind, accountId, amount, reference⟩
  askHistory := false
  result := { accountId := some accountId, isProviderSelfCompute := selfCompute }
  guarded := true
  handled := unhandled
  failure := {}

/-- The administrator's key. -/
def adminLogin (env : AuthEnv) (token : String) : Login :=
  if env.adminKey ≠ "" ∧ 24 ≤ env.adminKey.length then
    match compareDigest token env.adminKey with
    | .error e => .ends (.error e)
    | .ok false => .passes
    | .ok true =>
      .ends (.ok { accountId := some "admin_root", ownerId := some "admin_root", canUseOwnerTools := true,
                   isProviderSelfCompute := true })
  else .passes

/-- A registered key. -/
def registeredLogin (env : AuthEnv) (token : String) : Login :=
  match lookupRegisteredKey env token with
  | .error .credentialStore => .ends (.ok (unavailable "Gateway key registry temporarily unavailable"))
  | .error e => .ends (.error e)
  | .ok none => .passes
  | .ok (some accountId) =>
    if accountId = "" then .passes
    else
      let a := credentialAdmission token accountId .initial 10000000 ("initial_grant_" ++ accountId)
        (startsWith token "cm_provider_")
      let selfCompute := ["cm_provider_", "inet-", "ok_", "cm_owner_"].any (startsWith token)
      .admits { a with
        askHistory := true
        result := { a.result with isProviderSelfCompute := selfCompute } }

/-- The key of a fleet's owner. -/
def ownerKeyLogin (env : AuthEnv) (token : String) : Login :=
  let failure := unavailable "Owner-key authorization temporarily unavailable"
  if ["inet-", "ok_", "cm_owner_", "owner_"].any (startsWith token) then
    let account := do
      let latest ← env.resolveLatestOwnerKey token
      env.accountByOwnerKey (textOr (latest.getD "") token)
    match account with
    | .error e => .ends (if ownerHandled e then .ok failure else .error e)
    | .ok none => .passes
    | .ok (some account) =>
      .admits { credentialAdmission token account.accountId .owner 100000000 ("owner_grant_" ++ account.accountId) true with
        handled := ownerHandled
        failure := failure }
  else .passes

/-- A provider token, where these are allowed. -/
def providerTokenLogin (env : AuthEnv) (token : String) : Login :=
  if startsWith token "cm_provider_" ∧ env.allowDynamicProviderTokens then
    let providerNodeId := strip (removePrefix token "cm_provider_")
    if isKeyText 3 64 providerNodeId then
      let accountId := "provider_self_" ++ providerNodeId
      .admits (credentialAdmission token accountId .providerSelf 100000000
        ("provider_self_grant_" ++ accountId ++ "_" ++ env.billing.tokenHex) true)
    else .passes
  else .passes

/-- A customer key that nobody registered, where these are allowed. -/
def customerKeyLogin (env : AuthEnv) (token : String) : Login :=
  if startsWith token "cm_live_" ∧ env.allowDynamicCustomerKeys then
    let custSuffix := strip (removePrefix token "cm_live_")
    if isKeyText 8 128 token then
      let accountId := "cust_" ++ custSuffix
      .admits (credentialAdmission token accountId .initial 10000000
        ("initial_grant_" ++ accountId ++ "_" ++ env.billing.tokenHex) false)
    else .passes
  else .passes

def sessionLogin (env : AuthEnv) (headers : Option RequestHeaders) : Login :=
  let failure := unavailable "Gateway session authorization temporarily unavailable"
  match env.sessionAccount headers with
  | .error e => .ends (if sessionHandled e then .ok failure else .error e)
  | .ok none => .passes
  | .ok (some account) =>
    if account.ownerKey = "" then .passes
    else
      .admits { credentialAdmission account.ownerKey account.accountId .session 100000000
          ("session_grant_" ++ account.accountId) true with
        handled := sessionHandled
        failure := failure }

/-- A node of the cluster that calls from its own address. -/
def providerNodeLogin (env : AuthEnv) (call : AuthCall) : Login :=
  let failure := unavailable "Provider authorization temporarily unavailable"
  let clientIp := resolveClientIp env call.headers call.clientAddress
  if clientIp = "" ∨ clientIp ∈ trustedProxies then .passes
  else
    match env.nodes with
    | .error e => .ends (if sessionHandled e then .ok failure else .error e)
    | .ok nodes =>
      match nodes.find? fun n => !n.isPeerRelay && decide (n.clientIp = some clientIp) with
      | none => .passes
      | some node =>
        let accountId := textOr (node.ownerId.getD "") ("provider_" ++ node.nodeId)
        let result : AuthResult := { accountId := some accountId, ownerId := node.ownerId, isProviderSelfCompute := true }
        .admits
          { bindToken := none
            ownerResult := result
            grant := ⟨.provider, accountId, 100000000, "provider_grant_" ++ accountId⟩
            askHistory := false
            result := result
            guarded := true
            handled := sessionHandled
            failure := failure }

/-- The account of a teaser: its address, with an underscore for every other character. -/
def teaserAccount (clientIp : String) : String :=
  "teaser_" ++ String.ofList (clientIp.toList.map fun c =>
    if ('a' ≤ c ∧ c ≤ 'z') ∨ ('A' ≤ c ∧ c ≤ 'Z') ∨ ('0' ≤ c ∧ c ≤ '9') ∨ c = '_' then c else '_')

/-- The free playground. -/
def teaserLogin (env : AuthEnv) (call : AuthCall) : Login :=
  if call.allowTeaser then
    let clientIp := resolveClientIp env call.headers call.clientAddress
    if env.isTeaserQuotaExceeded clientIp then .ends (.ok { isTeaser := true, isQuotaExceeded := true })
    else
      let accountId := teaserAccount clientIp
      let result : AuthResult := { accountId := some accountId, isTeaser := true }
      .admits
        { bindToken := none
          ownerResult := result
          grant := ⟨.teaser, accountId, env.teaserGrantMicroUnits,
            "teaser_grant_" ++ accountId ++ "_" ++ env.billing.tokenHex⟩
          askHistory := false
          result := result
          guarded := false
          handled := unhandled
          failure := {} }
  else .passes

/-- What no path is for. -/
def unauthorized : AuthResult where
  errorMessage := some "Missing or invalid Authorization header. Expected 'Bearer <api_key>'"
  statusCode := 401

/-- The paths of a call that brings a token. -/
def tokenLogin (env : AuthEnv) (token : String) : Login :=
  if token = "" then .passes
  else
    (adminLogin env token).orElse ((registeredLogin env token).orElse ((ownerKeyLogin env token).orElse
      ((providerTokenLogin env token).orElse (customerKeyLogin env token))))

/-- Whom a call is for: the first path that takes it. -/
def login (env : AuthEnv) (call : AuthCall) : Login :=
  (tokenLogin env (extractBearerToken call.headers)).orElse ((sessionLogin env call.headers).orElse
    ((providerNodeLogin env call).orElse (teaserLogin env call)))

def authenticateRequest (env : AuthEnv) (s : AuthState) (call : AuthCall) : Except AuthExn AuthResult × AuthState :=
  match login env call with
  | .passes => (.ok unauthorized, s)
  | .ends reply => (reply, s)
  | .admits a => a.enter env s

end ComputeMesh.Gateway
