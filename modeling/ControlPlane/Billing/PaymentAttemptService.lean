import ControlPlane.Billing.InvoiceSync
import ControlPlane.Environment

/-!
# Payment attempts for an invoice

A new attempt is made only for an invoice that is payable as the ERP has it now and whose latest attempt is not still
active.
-/

namespace ControlPlane

open Table Session.Proc

/-- `TERMINAL_INVOICE_STATES`. -/
def terminalInvoiceStates : List InvoiceStatus :=
  [.paid, .closed, .cancelled, .canceled, .void, .voided, .writtenOff]

/-- `_invoice_is_payable`. -/
def invoiceIsPayable (invoice : BillingInvoice) : Bool :=
  invoice.invoiceStatus ∉ terminalInvoiceStates ∧ 0 < invoice.amountDue

/-- What the checks of `create_payment_attempt_for_invoice` say about the invoice as it is after the resync. -/
def checkPayable (db : Db) (invoice : BillingInvoice) : Except PyError Unit :=
  if ¬invoiceIsPayable invoice then
    .error (.invoicePaymentError "billing_invoice_not_payable")
  else if ∃ attempt ∈ latestPaymentAttempt (db.attemptsOf invoice.id), attempt.status ∈ activePaymentAttemptStates then
    .error (.invoicePaymentError "billing_payment_attempt_already_active")
  else
    .ok ()

/-- A provider asked for, by the caller or by the tenant's row, has to be the gateway's. -/
def checkProvider (gateway : PaymentGateway) (tenant : Tenant) (provider : Option String) : Except PyError Unit :=
  let requested := (orText (provider.map normalize) none).getD (normalize tenant.paymentProvider)
  if requested ≠ "" ∧ requested ≠ normalize gateway.providerName then
    .error (.invoicePaymentError "billing_provider_override_not_supported")
  else
    .ok ()

/-- The attempt a checkout makes for an invoice. -/
def newPaymentAttempt (db : Db) (tenant : Tenant) (invoice : BillingInvoice) (checkout : CheckoutResult)
    (now : Time) : PaymentAttempt :=
  { id := fresh db.attempts
    tenantId := tenant.id
    subscriptionId := (db.subscriptionOf tenant.id).map Subscription.id
    billingInvoiceId := invoice.id
    provider := checkout.provider
    providerReference := some checkout.sessionId
    amount := invoice.amountDue
    currency := (nonEmpty invoice.currency).getD "TZS"
    status := if checkout.checkoutUrl ≠ "" then .checkoutStarted else .created
    failureReason := none
    checkoutUrl := some checkout.checkoutUrl
    snapshot := ⟨none, none, none, none⟩
    createdAt := now
    updatedAt := now }

/-- What is written with a new attempt: the attempt, its event, and the checkout's references on the tenant and its
subscription. -/
def addPaymentAttempt (db : Db) (tenant : Tenant) (invoice : BillingInvoice) (checkout : CheckoutResult)
    (now : Time) : Db :=
  let attempt := newPaymentAttempt db tenant invoice checkout now
  let event : BillingEvent :=
    { id := fresh db.events, tenantId := tenant.id
      subscriptionId := (db.subscriptionOf tenant.id).map Subscription.id
      billingAccountId := (db.accountOf tenant.id).map BillingAccount.id
      billingInvoiceId := some invoice.id, paymentAttemptId := some attempt.id
      eventType := "billing.payment_attempt_created", eventSource := "api", severity := "info"
      summary := "Payment attempt created via " ++ checkout.provider, createdAt := now }
  let tenant := { tenant with
    paymentProvider := checkout.provider, paymentChannel := orText checkout.paymentChannel tenant.paymentChannel }
  let db := { db with attempts := insert db.attempts attempt, events := insert db.events event }
  let db := match db.subscriptionOf tenant.id with
    | some subscription => db.putSubscription { subscription with
        paymentProvider := some checkout.provider, providerCheckoutSessionId := some checkout.sessionId }
    | none => db
  db.putTenant tenant

/-- What `create_payment_attempt_for_invoice` changes before its commit; the result is the new attempt's id. -/
def preparePaymentAttempt (gateway : PaymentGateway) (tenant : Tenant) (owner : User) (invoice : BillingInvoice)
    (provider : Option String) (now : Time) (client : PlatformErpClient) (db : Db) : Except PyError (Nat × Db) := do
  let (invoice, db) ← resyncOneInvoice client db tenant invoice now
  checkPayable db invoice
  checkProvider gateway tenant provider
  let checkout ← gateway.createInvoiceCheckout invoice tenant owner
  return (fresh db.attempts, addPaymentAttempt db tenant invoice checkout now)

def createPaymentAttemptForInvoice (env : Env) (tenant : Tenant) (owner : User) (invoice : BillingInvoice)
    (provider : Option String) : Proc Nat := do
  let attemptId ← change env (preparePaymentAttempt env.gateway tenant owner invoice provider)
  commit env
  recordAuditEvent env "billing.payment_attempt_created" "payment_attempts" (some attemptId)
  return attemptId

end ControlPlane
