import ComputeMesh.Billing.OwnerCredits

/-!
# Stripe checkout webhooks

`StripePaymentService.process_webhook_event` of `services/billing/stripe_integration.py` for the events of
Checkout Sessions, with the two stores it works on beside the ledger:

* `WebhookEvents` — the table `stripe_webhook_events` of `services/billing/accounting.py`, which says how
  far each Stripe event has got;
* `SessionStore` — `StripeSessionStore`, the optional cache of what each session was created for.

The payload is the verified one (`trusted=True`).  Account events (`account.updated`, `v2.core.account…`)
never reach the ledger and are left out, and so are the time stamps of the event table and the dollar
figures of the answer.
-/

namespace ComputeMesh.Billing

open ComputeMesh.Text

/-! ### Events and what they carry -/

inductive CheckoutEventType
  | completed
  | asyncPaymentSucceeded
  | asyncPaymentFailed
  | expired
  deriving DecidableEq

def CheckoutEventType.text : CheckoutEventType → String
  | completed => "checkout.session.completed"
  | asyncPaymentSucceeded => "checkout.session.async_payment_succeeded"
  | asyncPaymentFailed => "checkout.session.async_payment_failed"
  | expired => "checkout.session.expired"

/-- The payload of a checkout event: the parts `process_webhook_event` reads.  A text that is missing or
null is empty, a number 0; `metadataAmount` is what `int(...)` makes of `metadata.amount_micro_units`, or
the message of its `ValueError`. -/
structure CheckoutEvent where
  id : String
  type : CheckoutEventType
  sessionId : String
  paymentStatus : String := ""
  currency : String := ""
  metadataAmount : Except String ℤ := .ok 0
  clientReferenceId : String := ""
  metadataCustomerAccountId : String := ""
  customer : String := ""
  paymentIntent : String := ""
  livemode : Bool := false
  amountSubtotal : ℤ := 0
  amountTotal : ℤ := 0
  deriving DecidableEq

/-- `number or fallback`. -/
def numberOr (number fallback : ℤ) : ℤ := if number = 0 then fallback else number

def centsToMicroUnits (amountCents : ℤ) : ℤ := amountCents * 10000

/-! ### The table of webhook events -/

inductive WebhookStatus
  | processing
  | processed
  | failed
  deriving DecidableEq

/-- A row of `stripe_webhook_events`. -/
structure WebhookRow where
  payload : CheckoutEvent
  status : WebhookStatus
  error : String
  deriving DecidableEq

/-- The table, by its primary key. -/
abbrev WebhookEvents := Dict String WebhookRow

/-- What `begin_webhook_event` answers. -/
inductive BeginAnswer
  | untracked
  | new
  | retry
  | alreadyProcessed
  deriving DecidableEq

namespace WebhookEvents

/-- `begin_webhook_event`: it strips the id, the two marks below do not. -/
def beginWebhookEvent (t : WebhookEvents) (payload : CheckoutEvent) : BeginAnswer × WebhookEvents :=
  let eventId := strip payload.id
  if eventId = "" then (.untracked, t)
  else
    match Dict.get? t eventId with
    | some row =>
      if row.status = .processed then (.alreadyProcessed, t)
      else (.retry, Dict.set t eventId ⟨payload, .processing, ""⟩)
    | none => (.new, Dict.set t eventId ⟨payload, .processing, ""⟩)

/-- `UPDATE stripe_webhook_events … WHERE event_id = ?`, which a caller without an id leaves out. -/
def update (t : WebhookEvents) (eventId : String) (change : WebhookRow → WebhookRow) : WebhookEvents :=
  if eventId = "" then t
  else
    match Dict.get? t eventId with
    | none => t
    | some row => Dict.set t eventId (change row)

def markWebhookProcessed (t : WebhookEvents) (eventId : String) : WebhookEvents :=
  t.update eventId fun row => { row with status := .processed, error := "" }

def markWebhookFailed (t : WebhookEvents) (eventId error : String) : WebhookEvents :=
  t.update eventId fun row => { row with status := .failed, error := firstChars 1000 error }

end WebhookEvents

/-! ### The session store -/

structure StripeSessionRecord where
  sessionId : String
  customerAccountId : String
  amountMicroUnits : ℤ
  currency : String
  checkoutUrl : String
  stripeCustomerId : String := ""
  paymentIntentId : String := ""
  livemode : Bool := false
  creditedTransactionId : String := ""
  status : String := "created"
  createdAt : String := ""
  updatedAt : String := ""
  idempotencyKey : String := ""

/-- `StripeSessionStore`, by session id. -/
abbrev SessionStore := Dict String StripeSessionRecord

namespace SessionStore

def upsert (s : SessionStore) (record : StripeSessionRecord) : SessionStore :=
  Dict.set s record.sessionId record

/-- `mark_credited`, with a `livemode` given. -/
def markCredited (s : SessionStore) (env : Env)
    (sessionId transactionId stripeCustomerId paymentIntentId : String) (livemode : Bool) :
    SessionStore :=
  let existing : StripeSessionRecord :=
    match Dict.get? s sessionId with
    | some record => record
    | none =>
      { sessionId := sessionId
        customerAccountId := ""
        amountMicroUnits := 0
        currency := "usd"
        checkoutUrl := ""
        createdAt := env.isoNow }
  s.upsert { existing with
    stripeCustomerId := textOr stripeCustomerId existing.stripeCustomerId
    paymentIntentId := textOr paymentIntentId existing.paymentIntentId
    livemode := livemode
    creditedTransactionId := transactionId
    status := "credited"
    updatedAt := env.isoNow }

end SessionStore

/-! ### What an event asks for -/

/-- What the checks of `process_webhook_event` make of an event before the ledger is asked. -/
inductive Resolution
  | ignore (reason : String)
  | credit (customerAccountId : String) (amountMicroUnits : ℤ)

/-- The customer and amount of an event, completed from the cached session where the payload has none. -/
def resolveFromCache (expectedLivemode : Option Bool) (e : CheckoutEvent)
    (cached : Option StripeSessionRecord) (customer : String) (amount : ℤ) : Except Exn (String × ℤ) :=
  match cached with
  | none =>
    .ok (customer,
      if amount = 0 then centsToMicroUnits (numberOr e.amountSubtotal e.amountTotal) else amount)
  | some record =>
    -- the first look into the cache is made only if the payload names no customer
    let amount₁ := if customer = "" ∧ amount = 0 then record.amountMicroUnits else amount
    let customer₁ := textOr customer record.customerAccountId
    if expectedLivemode ≠ none ∧ expectedLivemode ≠ some record.livemode then
      .error (.stripe s!"Session {e.sessionId} livemode mismatch")
    else if record.customerAccountId ≠ "" ∧ customer₁ ≠ "" ∧ record.customerAccountId ≠ customer₁ then
      .error (.stripe s!"Session {e.sessionId} customer mismatch")
    else if record.amountMicroUnits ≠ 0 ∧ amount₁ ≠ 0 ∧ record.amountMicroUnits ≠ amount₁ then
      .error (.stripe s!"Session {e.sessionId} amount mismatch")
    else .ok (customer₁, numberOr amount₁ record.amountMicroUnits)

/-- The last checks: the amount against what was paid, and that there is something to credit. -/
def checkPaidAmount (e : CheckoutEvent) (customer : String) (amount : ℤ) : Except Exn Resolution :=
  if 0 < amount ∧ e.amountSubtotal ≠ 0 ∧ centsToMicroUnits e.amountSubtotal ≠ amount then
    .error (.stripe s!"Session {e.sessionId} amount mismatch")
  else if 0 < amount ∧ e.amountTotal ≠ 0 ∧ centsToMicroUnits e.amountTotal < amount then
    .error (.stripe s!"Session {e.sessionId} total paid amount below credit amount")
  else if customer = "" ∨ amount ≤ 0 then
    .error (.stripe s!"Cannot resolve customer or deposit amount for session {e.sessionId}")
  else .ok (.credit customer amount)

/-- The amount the metadata give, as `int` reads it. -/
def readMetadataAmount (e : CheckoutEvent) : Except Exn ℤ :=
  match e.metadataAmount with
  | .error message => .error (.value message)
  | .ok amount => .ok amount

/-- An event of a type that credits a session, from its session id on. -/
def resolveSession (expectedLivemode : Option Bool) (sessions : Option SessionStore)
    (e : CheckoutEvent) : Except Exn Resolution :=
  let paymentStatus := textOr e.paymentStatus "paid"
  let currency := lower (textOr e.currency "usd")
  if e.sessionId = "" then .error (.stripe "Missing session ID in webhook payload")
  else if e.type = .completed ∧ paymentStatus ∉ ["paid", "no_payment_required"] then
    .ok (.ignore s!"Checkout Session {e.sessionId} payment_status={paymentStatus}")
  else if currency ≠ "usd" then
    .error (.stripe s!"Unsupported Stripe Checkout currency for session {e.sessionId}: {currency}")
  else
    match readMetadataAmount e with
    | .error exn => .error exn
    | .ok amount =>
      if expectedLivemode ≠ none ∧ expectedLivemode ≠ some e.livemode then
        .error (.stripe "Stripe webhook livemode does not match STRIPE_API_KEY mode")
      else
        let customer := textOr e.clientReferenceId e.metadataCustomerAccountId
        let cached := sessions.bind fun s => Dict.get? s e.sessionId
        match resolveFromCache expectedLivemode e cached customer amount with
        | .error exn => .error exn
        | .ok (customer, amount) => checkPaidAmount e customer amount

/-- The body of `process_webhook_event` up to the deposit. -/
def resolveEvent (expectedLivemode : Option Bool) (sessions : Option SessionStore) (e : CheckoutEvent) :
    Except Exn Resolution :=
  if e.type = .completed ∨ e.type = .asyncPaymentSucceeded then
    resolveSession expectedLivemode sessions e
  else .ok (.ignore s!"Unhandled event type: {e.type.text}")

/-! ### The service -/

/-- `StripePaymentService` with a webhook event store, and the objects it works on. -/
structure StripePaymentService where
  ledger : Ledger
  webhookEvents : WebhookEvents
  sessionStore : Option SessionStore
  expectedLivemode : Option Bool

/-- The answers of `process_webhook_event`, each with the Stripe event it is about. -/
inductive WebhookResult
  | eventAlreadyProcessed (stripeEventId : String)
  | ignored (reason stripeEventId : String)
  | credited (transactionId customerAccountId stripeSessionId paymentReference stripeEventId : String)
  | depositAlreadyProcessed (sessionId customerAccountId stripeEventId : String)

/-- `f"stripe_checkout:{session_id}"`. -/
def checkoutReference (sessionId : String) : String := "stripe_checkout:" ++ sessionId

/-- `self.ledger.deposit_customer_credits`, of whatever class the ledger is. -/
def Ledger.depositCredits (l : Ledger) (env : Env) (customer : String) (amount : ℤ) (ref : String) :
    Except Exn Transaction × Ledger :=
  if l.cls.isGateway then l.gatewayDepositCustomerCredits env customer amount ref
  else l.depositCustomerCredits env customer amount ref

namespace StripePaymentService

def finish (s : StripePaymentService) (e : CheckoutEvent) (result : WebhookResult) :
    Except Exn WebhookResult × StripePaymentService :=
  (.ok result, { s with webhookEvents := s.webhookEvents.markWebhookProcessed e.id })

/-- The `except Exception` branch: mark the event and raise again. -/
def fail (s : StripePaymentService) (e : CheckoutEvent) (exn : Exn) :
    Except Exn WebhookResult × StripePaymentService :=
  (.error exn, { s with webhookEvents := s.webhookEvents.markWebhookFailed e.id exn.text })

/-- What follows a deposit that was recorded: the session store, the balance for the answer, the mark. -/
def afterDeposit (s : StripePaymentService) (env : Env) (e : CheckoutEvent) (customer : String)
    (tx : Transaction) : Except Exn WebhookResult × StripePaymentService :=
  let s' := { s with
    sessionStore := s.sessionStore.map fun (store : SessionStore) =>
      store.markCredited env e.sessionId tx.txId e.customer e.paymentIntent e.livemode }
  match s'.ledger.getBalance customer with
  | .error exn => s'.fail e exn
  | .ok _ =>
    s'.finish e (.credited tx.txId customer e.sessionId (checkoutReference e.sessionId) e.id)

/-- The deposit of an event that asks for one; `DuplicateEventError` counts as done. -/
def credit (s : StripePaymentService) (env : Env) (e : CheckoutEvent) (customer : String)
    (amount : ℤ) : Except Exn WebhookResult × StripePaymentService :=
  match s.ledger.depositCredits env customer amount (checkoutReference e.sessionId) with
  | (.ok tx, ledger) => { s with ledger := ledger }.afterDeposit env e customer tx
  | (.error (.duplicateEvent _), ledger) =>
    { s with ledger := ledger }.finish e (.depositAlreadyProcessed e.sessionId customer e.id)
  | (.error exn, ledger) => { s with ledger := ledger }.fail e exn

/-- The `try` block of `process_webhook_event`. -/
def handle (s : StripePaymentService) (env : Env) (e : CheckoutEvent) :
    Except Exn WebhookResult × StripePaymentService :=
  match resolveEvent s.expectedLivemode s.sessionStore e with
  | .error exn => s.fail e exn
  | .ok (.ignore reason) => s.finish e (.ignored reason e.id)
  | .ok (.credit customer amount) => s.credit env e customer amount

def processWebhookEvent (s : StripePaymentService) (env : Env) (e : CheckoutEvent) :
    Except Exn WebhookResult × StripePaymentService :=
  match s.webhookEvents.beginWebhookEvent e with
  | (.alreadyProcessed, _) => (.ok (.eventAlreadyProcessed e.id), s)
  | (_, events) => { s with webhookEvents := events }.handle env e

end StripePaymentService

end ComputeMesh.Billing
