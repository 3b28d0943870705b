import ControlPlane.Billing.InvoiceSync
import ControlPlane.Tenant.Service

/-!
# Webhook application service

What a payment webhook does to the tenant it resolves to.  Each handler first computes all its changes on the
session's rows (`confirmPayment`, `failPayment`, `cancelSubscription`), commits them, and only then does what follows:
putting the provisioning job on the queue and writing the audit entry.
-/

namespace ControlPlane

open Table Session.Proc

/-- The event types of the gateways; any other type is ignored. -/
inductive WebhookEventType where
  | paymentConfirmed | paymentFailed | subscriptionCancelled
  | other (name : String)
  deriving DecidableEq, Repr

def WebhookEventType.text : WebhookEventType → String
  | paymentConfirmed => "payment.confirmed"
  | paymentFailed => "payment.failed"
  | subscriptionCancelled => "subscription.cancelled"
  | other name => name

/-- A parsed webhook. -/
structure WebhookEvent where
  eventType : WebhookEventType
  tenantId : Option Nat
  subscriptionId : Option String
  customerRef : Option String
  raw : Json

structure InvoiceBackedContext where
  tenant : Option Tenant
  paymentAttempt : Option PaymentAttempt

/-- `ensure_subscription`: the tenant's subscription, created on the starter plan if there is none (a tenant without a
subscription has the plan slug `starter`). -/
def ensureSubscription (db : Db) (tenant : Tenant) : Except PyError (Subscription × Db) :=
  match db.subscriptionOf tenant.id with
  | some existing => .ok (existing, db)
  | none =>
    match getPlanBySlug db "starter" with
    | (some plan, db) =>
      upsertSubscriptionForTenant db tenant.id plan none .pending (some tenant.paymentProvider) none none
        tenant.dpoTransactionToken none
    | (none, _) => .error (.httpException 500 "Subscription plans are not initialized")

/-! ### Which attempt an event is about -/

/-- Append the text of a value that is present, not blank and not already there. -/
def addCandidate (candidates : List String) (value : Json) : List String :=
  match value with
  | .null => candidates
  | value =>
    let text := strip value.str
    if text ≠ "" ∧ text ∉ candidates then candidates ++ [text] else candidates

/-- `_provider_reference_candidates`. -/
def providerReferenceCandidates (raw : Json) (subscriptionId : Option String) : List String :=
  [ (subscriptionId.map Json.string).getD .null,
    raw.get "TransactionToken", raw.get "transaction_token", raw.get "trans_token", raw.get "TransToken",
    raw.get "transactionId", raw.get "transaction_id", raw.get "referenceId", raw.get "reference", raw.get "transid",
    raw.get "payment_token", raw.get "id",
    raw.nested ["data", "object", "id"], raw.nested ["data", "object", "payment_intent"] ].foldl addCandidate []

/-- The attempts a query for a provider (any, if empty) and a tenant (any, if none) finds. -/
def attemptsFor (db : Db) (provider : String) (tenantId : Option Nat) : List PaymentAttempt :=
  db.attempts.filter fun a => (provider = "" ∨ a.provider = provider) ∧ ∀ t ∈ tenantId, a.tenantId = t

/-- `_latest_payment_attempt_for_tenant`: the latest active attempt, or else the latest. -/
def latestPaymentAttemptForTenant (db : Db) (tenantId : Nat) (provider : String) : Option PaymentAttempt :=
  let attempts := attemptsFor db provider (some tenantId)
  (latestPaymentAttempt (attempts.filter fun a => a.status ∈ activePaymentAttemptStates)).or
    (latestPaymentAttempt attempts)

/-- `_resolve_invoice_backed_context`. -/
def resolveInvoiceBackedContext (db : Db) (provider : String) (tenantId : Option Nat)
    (subscriptionId : Option String) (raw : Json) : InvoiceBackedContext :=
  let references := providerReferenceCandidates raw subscriptionId
  let named := latestPaymentAttempt ((attemptsFor db provider tenantId).filter fun a =>
    ∃ reference ∈ references, a.providerReference = some reference)
  let paymentAttempt := named.or (tenantId.bind fun id => latestPaymentAttemptForTenant db id provider)
  let tenant := (tenantId.bind db.tenant?).or (paymentAttempt.bind fun a => db.tenant? a.tenantId)
  ⟨tenant, paymentAttempt⟩

/-! ### Settling and failing an attempt -/

/-- `SETTLED_INVOICE_STATES`. -/
def settledInvoiceStates : List InvoiceStatus := [.paid, .closed, .settled]

/-- `_invoice_is_settled` of the webhooks. -/
def invoiceIsSettled (invoice : BillingInvoice) : Bool :=
  invoice.paidAt.isSome || invoice.invoiceStatus ∈ settledInvoiceStates || invoice.amountDue ≤ 0

/-- `_settle_invoice_locally`. -/
def settleInvoiceLocally (invoice : BillingInvoice) (amount : Int) (now : Time) : BillingInvoice :=
  let previousAmountDue := invoice.amountDue
  let previousAmountPaid := invoice.amountPaid
  let settledAmount := max amount previousAmountDue
  { invoice with
    amountDue := 0
    amountPaid := max previousAmountPaid (previousAmountPaid + settledAmount)
    invoiceStatus := .paid
    collectionStage := some "settled"
    paidAt := invoice.paidAt.or (some now)
    lastSyncedAt := some now }

/-- `_merge_provider_response_snapshot`. -/
def mergeProviderResponseSnapshot (attempt : PaymentAttempt) (eventType : WebhookEventType) (now : Time) :
    PaymentAttempt :=
  { attempt with
    snapshot := { attempt.snapshot with
      lastWebhookEventType := some eventType.text, lastWebhookReceivedAt := some now } }

/-- `_provider_failure_reason`. -/
def providerFailureReason (raw : Json) : String :=
  let values := ["message", "status", "transactionStatus", "payment_status", "result", "resultcode"].map raw.get
  match values.find? fun value => match value with | .null => false | value => strip value.str != "" with
  | some value => value.str
  | none => "payment.failed"

/-- `_record_billing_event` of the webhooks. -/
def recordWebhookBillingEvent (db : Db) (tenant : Tenant) (subscription : Subscription) (attempt : PaymentAttempt)
    (eventType summary severity : String) (now : Time) : Db :=
  { db with
    events := insert db.events
      { id := fresh db.events, tenantId := tenant.id, subscriptionId := some subscription.id
        billingAccountId := (db.invoice? attempt.billingInvoiceId).map BillingInvoice.billingAccountId
        billingInvoiceId := some attempt.billingInvoiceId, paymentAttemptId := some attempt.id
        eventType := eventType, eventSource := "webhook", severity := severity, summary := summary
        createdAt := now } }

/-- `str(value).lower()` of a channel field, or else the channel the tenant has, or else `mobile_money`. -/
def paymentChannelOf (channel : Json) (tenant : Tenant) : Option String :=
  if channel.truthy then some (lower channel.str) else orText tenant.paymentChannel (some "mobile_money")

/-- `_apply_provider_payment_context`: the provider, token and channel of the event on the tenant's row, and the
checkout session id it names. -/
def applyProviderPaymentContext (tenant : Tenant) (provider : String) (raw : Json) : Tenant × Option String :=
  let tenant := { tenant with paymentProvider := if provider = "" then tenant.paymentProvider else provider }
  if provider = "stripe" then
    let value := raw.nested ["data", "object", "id"]
    ({ tenant with paymentChannel := orText tenant.paymentChannel (some "card") },
      if value.truthy then some value.str else none)
  else if provider = "dpo" then
    let value := Json.firstTruthy [raw.get "TransactionToken", raw.get "transaction_token"]
    let token := if value.truthy then some value.str else tenant.dpoTransactionToken
    ({ tenant with dpoTransactionToken := token
                   paymentChannel := orText tenant.paymentChannel (some "mobile_money") }, token)
  else if provider = "selcom" then
    let value := Json.firstTruthy [raw.get "reference", raw.get "transid", raw.get "payment_token"]
    let token := if value.truthy then some value.str else tenant.dpoTransactionToken
    ({ tenant with dpoTransactionToken := token, paymentChannel := paymentChannelOf (raw.get "channel") tenant },
      token)
  else if provider = "azampay" then
    let value := Json.firstTruthy [raw.get "transactionId", raw.get "transaction_id", raw.get "referenceId"]
    let token := if value.truthy then some value.str else tenant.dpoTransactionToken
    let channel := Json.firstTruthy [raw.get "channel", raw.get "paymentChannel"]
    ({ tenant with dpoTransactionToken := token, paymentChannel := paymentChannelOf channel tenant }, token)
  else
    (tenant, none)

/-- An invoice of a confirmed attempt, settled: by the ERP's own record if the ERP is asked and says so, else
locally. -/
def settleInvoice (client : PlatformErpClient) (db : Db) (tenant : Tenant) (invoice : BillingInvoice) (amount : Int)
    (now : Time) : Except PyError (BillingInvoice × Db) :=
  if client.isConfigured ∧ tenant.customerId?.isSome ∧ (orText invoice.erpInvoiceId none).isSome then do
    let (invoice, db) ← resyncOneInvoice client db tenant invoice now
    return (if invoiceIsSettled invoice then invoice else settleInvoiceLocally invoice amount now, db)
  else
    .ok (settleInvoiceLocally invoice amount now, db)

/-- The part of `_settle_invoice_backed_payment_confirmation` on the attempt's invoice, if it has one. -/
def settleInvoiceOf (client : PlatformErpClient) (db : Db) (tenant : Tenant) (attempt : PaymentAttempt) (now : Time) :
    Except PyError Db :=
  match db.invoice? attempt.billingInvoiceId with
  | none => .ok db
  | some invoice => do
    let (invoice, db) ← settleInvoice client db tenant invoice attempt.amount now
    return db.putInvoice { invoice with collectionStage := some "settled" }

/-- `_settle_invoice_backed_payment_confirmation`, for an event that is about an attempt. -/
def settleInvoiceBackedPaymentConfirmation (client : PlatformErpClient) (db : Db) (tenant : Tenant)
    (subscription : Subscription) (attempt : Option PaymentAttempt) (provider : String) (now : Time) :
    Except PyError Db :=
  match attempt with
  | none => .ok db
  | some attempt => do
    let db ← settleInvoiceOf client db tenant attempt now
    let attempt := mergeProviderResponseSnapshot { attempt with
      provider := if provider = "" then attempt.provider else provider, failureReason := none, status := .paid }
      .paymentConfirmed now
    return recordWebhookBillingEvent (db.putAttempt attempt) tenant subscription attempt "billing.payment_settled"
      ("Payment settled via " ++ provider) "info" now

/-- `_apply_invoice_backed_payment_failure`, for an event that is about an attempt. -/
def applyInvoiceBackedPaymentFailure (db : Db) (tenant : Tenant) (subscription : Subscription)
    (attempt : Option PaymentAttempt) (provider : String) (raw : Json) (now : Time) : Db :=
  match attempt with
  | none => db
  | some attempt =>
    let attempt := mergeProviderResponseSnapshot { attempt with
      provider := if provider = "" then attempt.provider else provider
      status := .failed, failureReason := some (providerFailureReason raw) } .paymentFailed now
    recordWebhookBillingEvent (db.putAttempt attempt) tenant subscription attempt "billing.payment_failed"
      ("Payment failed via " ++ provider) "warning" now

/-! ### The handlers -/

/-- What a handler's first part decided: an answer and nothing to commit, or changes for a tenant. -/
inductive Handled where
  | ignored (message : String)
  | changed (tenantId : Nat) (ownerEmail : Option String)
  deriving DecidableEq, Repr

/-- The answer when an event names no tenant. -/
def tenantMissingMessage (tenantId : Option Nat) : String :=
  if tenantId.isSome then "ignored:tenant-not-found" else "ignored:missing-tenant"

/-- A subscription row with the payment references of an event. -/
def withPaymentReferences (subscription : Subscription) (tenant : Tenant) (sessionId subscriptionId : Option String) :
    Subscription :=
  { subscription with
    paymentProvider := some tenant.paymentProvider
    providerCheckoutSessionId := orText sessionId subscription.providerCheckoutSessionId
    providerSubscriptionId := orText subscriptionId subscription.providerSubscriptionId }

/-- The end of a confirmed payment on the tenant's status: one that was suspended for billing, or is so now, becomes
active. -/
def liftBillingSuspension (before after : TenantStatus) : TenantStatus :=
  if before = .suspendedBilling ∨ after = .suspendedBilling then
    transitionOrKeep (if before = .suspendedBilling then .suspendedBilling else after) .active
  else
    after

/-- What `handle_payment_confirmed` changes before its first commit. -/
def confirmPayment (provider : String) (event : WebhookEvent) (now : Time) (client : PlatformErpClient) (db : Db) :
    Except PyError (Handled × Db) :=
  let context := resolveInvoiceBackedContext db provider event.tenantId event.subscriptionId event.raw
  match context.tenant with
  | none => .ok (.ignored (tenantMissingMessage event.tenantId), db)
  | some tenant =>
    match db.user? tenant.ownerId with
    | none => .error (.httpException 500 "Tenant owner missing")
    | some owner => do
      let (tenant, sessionId) := applyProviderPaymentContext tenant provider event.raw
      let (subscription, db) ← ensureSubscription db tenant
      let db ← settleInvoiceBackedPaymentConfirmation client db tenant subscription context.paymentAttempt provider now
      let before := tenant.status
      let (tenant, subscription, _) ← applyPaymentConfirmedTransition tenant subscription now
      let subscription := withPaymentReferences subscription tenant sessionId event.subscriptionId
      let subscription :=
        if tenant.paymentProvider = "stripe" then
          { subscription with providerCustomerId := orText event.customerRef subscription.providerCustomerId }
        else subscription
      let tenant := { tenant with status := liftBillingSuspension before tenant.status }
      return (.changed tenant.id (some owner.email), (db.putSubscription subscription).putTenant tenant)

def handlePaymentConfirmed (env : Env) (provider : String) (event : WebhookEvent) : Proc String := do
  match ← change env (confirmPayment provider event) with
  | .ignored message => return message
  | .changed tenantId ownerEmail =>
    commit env
    let _ ← enqueueProvisioningForPaidTenant env tenantId (ownerEmail.getD "")
    recordAuditEvent env "billing.payment_succeeded" "tenants" (some tenantId)
    return "processed:payment.confirmed"

/-- A tenant without a payment channel gets the default one of its provider. -/
def withDefaultChannel (tenant : Tenant) : Tenant :=
  let defaultChannel := if tenant.paymentProvider ∈ ["dpo", "selcom", "azampay"] then "mobile_money" else "card"
  { tenant with paymentChannel := orText tenant.paymentChannel (some defaultChannel) }

/-- What `handle_payment_failed` changes before its commit. -/
def failPayment (provider : String) (event : WebhookEvent) (now : Time) (_ : PlatformErpClient) (db : Db) :
    Except PyError (Handled × Db) :=
  let context := resolveInvoiceBackedContext db provider event.tenantId event.subscriptionId event.raw
  match context.tenant with
  | none => .ok (.ignored (tenantMissingMessage event.tenantId), db)
  | some tenant => do
    let ownerEmail := (db.user? tenant.ownerId).map User.email
    let (tenant, sessionId) := applyProviderPaymentContext tenant provider event.raw
    let tenant := withDefaultChannel tenant
    let (subscription, db) ← ensureSubscription db tenant
    let db := applyInvoiceBackedPaymentFailure db tenant subscription context.paymentAttempt provider event.raw now
    let (tenant, subscription, _) ← applyPaymentFailedTransition tenant subscription now
    let subscription := withPaymentReferences subscription tenant sessionId event.subscriptionId
    return (.changed tenant.id ownerEmail, (db.putSubscription subscription).putTenant tenant)

def handlePaymentFailed (env : Env) (provider : String) (event : WebhookEvent) : Proc String := do
  match ← change env (failPayment provider event) with
  | .ignored message => return message
  | .changed tenantId _ =>
    commit env
    recordAuditEvent env "billing.payment_failed" "tenants" (some tenantId)
    return "processed:payment.failed"

/-- `resolve_tenant_for_cancelled_subscription`. -/
def resolveTenantForCancelledSubscription (db : Db) (subscriptionId : String) : Option Tenant :=
  (db.subscriptions.find? fun s => s.providerSubscriptionId = some subscriptionId).bind fun s => db.tenant? s.tenantId

/-- The tenant a cancellation is for: the one the event names, or else the one with the event's subscription id. -/
def cancellationTenant (db : Db) (event : WebhookEvent) : Option Tenant :=
  (event.tenantId.bind db.tenant?).or
    ((orText event.subscriptionId none).bind (resolveTenantForCancelledSubscription db))

/-- What `handle_subscription_cancelled` changes before its commit. -/
def cancelSubscription (event : WebhookEvent) (now : Time) (_ : PlatformErpClient) (db : Db) :
    Except PyError (Handled × Db) :=
  match cancellationTenant db event with
  | none => .ok (.ignored "ignored:tenant-not-found", db)
  | some tenant => do
    let (subscription, db) ← ensureSubscription db tenant
    let (tenant, subscription, _) ← applySubscriptionCancelledTransition tenant subscription now
    let subscription :=
      { subscription with
        paymentProvider := some tenant.paymentProvider
        providerSubscriptionId := orText event.subscriptionId subscription.providerSubscriptionId }
    return (.changed tenant.id ((db.user? tenant.ownerId).map User.email),
      (db.putSubscription subscription).putTenant tenant)

def handleSubscriptionCancelled (env : Env) (event : WebhookEvent) : Proc String := do
  match ← change env (cancelSubscription event) with
  | .ignored message => return message
  | .changed tenantId _ =>
    commit env
    recordAuditEvent env "billing.subscription_cancelled" "tenants" (some tenantId)
    return "processed:subscription.cancelled"

def processEvent (env : Env) (provider : String) (event : WebhookEvent) : Proc String :=
  match event.eventType with
  | .paymentConfirmed => handlePaymentConfirmed env provider event
  | .paymentFailed => handlePaymentFailed env provider event
  | .subscriptionCancelled => handleSubscriptionCancelled env event
  | .other _ => pure "ignored"

end ControlPlane
