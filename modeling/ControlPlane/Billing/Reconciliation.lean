import ControlPlane.Billing.InvoiceSync
import ControlPlane.Tenant.Service
import Mathlib.Data.List.Sort

/-!
# Reconciliation

Bringing attempts, subscription and tenant in line with what the ERP says about each invoice of a tenant.  The loop
goes over all the tenant's invoices, and every settled one repairs the subscription and the tenant as a confirmed
payment would.
-/

namespace ControlPlane

open Table Session.Proc

/-- `RECONCILIATION_EXCEPTION_TYPES`. -/
def reconciliationExceptionTypes : List String :=
  ["erp_mismatch", "provider_reconciliation_mismatch", "reconciliation_required"]

structure InvoiceReconciliationResult where
  tenantId : Nat
  invoiceId : Nat
  invoiceStatus : InvoiceStatus
  settled : Bool
  paymentAttemptId : Option Nat
  paymentAttemptStatus : Option AttemptStatus
  paymentAttemptUpdated : Bool
  entitlementRestored : Bool
  provisioningRequeued : Bool
  tenantStatusChanged : Bool
  exceptionsOpened : Nat
  exceptionsResolved : Nat
  deriving DecidableEq, Repr

structure TenantBillingReconciliationResult where
  tenantId : Nat
  inspectedInvoiceCount : Nat
  reconciledInvoiceCount : Nat
  settledInvoiceCount : Nat
  paymentAttemptsUpdated : Nat
  entitlementRepairs : Nat
  provisioningRequeues : Nat
  exceptionsOpened : Nat
  exceptionsResolved : Nat
  lastInvoiceId : Option Nat
  deriving DecidableEq, Repr

/-- `_PaidRepairOutcome`. -/
structure PaidRepairOutcome where
  entitlementRestored : Bool
  tenantStatusChanged : Bool
  needsProvisioning : Bool
  deriving DecidableEq, Repr

/-- `_invoice_is_settled` of the reconciliation, which does not look at `paid_at`. -/
def reconciledInvoiceIsSettled (invoice : BillingInvoice) : Bool :=
  invoice.invoiceStatus ∈ [InvoiceStatus.paid, .closed, .settled] ∨ (invoice.amountDue ≤ 0 ∧ 0 < invoice.amountPaid)

/-- `_append_reconciliation_snapshot`. -/
def appendReconciliationSnapshot (attempt : PaymentAttempt) (invoiceStatus : InvoiceStatus) (now : Time) :
    PaymentAttempt :=
  { attempt with
    snapshot := { attempt.snapshot with
      reconciledStatus := some invoiceStatus.text, reconciledAt := some now } }

/-- `_record_billing_event` of the reconciliation. -/
def recordReconciliationEvent (db : Db) (tenant : Tenant) (subscription : Option Subscription)
    (invoice : BillingInvoice) (attempt : Option PaymentAttempt) (eventType summary severity : String)
    (now : Time) : Db :=
  { db with
    events := insert db.events
      { id := fresh db.events, tenantId := tenant.id, subscriptionId := subscription.map Subscription.id
        billingAccountId := (db.accountOf tenant.id).map BillingAccount.id, billingInvoiceId := some invoice.id
        paymentAttemptId := attempt.map PaymentAttempt.id, eventType := eventType
        eventSource := "billing_reconciliation", severity := severity, summary := summary, createdAt := now } }

/-- `_open_billing_exception`: the number of exceptions opened, one or none. -/
def openBillingException (db : Db) (tenant : Tenant) (subscription : Option Subscription) (invoice : BillingInvoice)
    (attempt : Option PaymentAttempt) (exceptionType reason : String) (now : Time) : Nat × Db :=
  let existing := latestBy (fun a b => a < b) BillingException.createdAt (db.exceptions.filter fun e =>
    e.tenantId = tenant.id ∧ e.billingInvoiceId = some invoice.id ∧
      e.paymentAttemptId = attempt.map PaymentAttempt.id ∧ e.exceptionType = exceptionType ∧ e.isOpen)
  match existing with
  | some existing =>
    (0, { db with exceptions := put db.exceptions { existing with reason := reason, resolvedAt := none } })
  | none =>
    (1, { db with
      exceptions := insert db.exceptions
        { id := fresh db.exceptions, tenantId := tenant.id, subscriptionId := subscription.map Subscription.id
          billingAccountId := (db.accountOf tenant.id).map BillingAccount.id, billingInvoiceId := some invoice.id
          paymentAttemptId := attempt.map PaymentAttempt.id, exceptionType := exceptionType, isOpen := true
          reason := reason, resolvedAt := none, createdAt := now } })

/-- An open exception of the invoice that its settlement resolves. -/
def resolvesWith (tenantId invoiceId : Nat) (e : BillingException) : Bool :=
  e.tenantId = tenantId ∧ e.billingInvoiceId = some invoiceId ∧ e.exceptionType ∈ reconciliationExceptionTypes ∧
    e.isOpen

/-- `_resolve_billing_exceptions`: the number of exceptions resolved. -/
def resolveBillingExceptions (db : Db) (tenantId invoiceId : Nat) (now : Time) : Nat × Db :=
  ((db.exceptions.filter (resolvesWith tenantId invoiceId)).length,
    { db with
      exceptions := db.exceptions.map fun e =>
        if resolvesWith tenantId invoiceId e then { e with isOpen := false, resolvedAt := some now } else e })

/-- The tenant status `_apply_paid_repair` leaves: `previous` is the status before the repair and `current` the one
after the confirmed-payment transition. -/
def repairedStatus (previous current : TenantStatus) (runtimeExists : Bool) : TenantStatus :=
  if previous = .suspendedBilling then
    transitionOrForce current (if runtimeExists then .active else .pending)
  else if previous = .pendingPayment ∧ current = .pendingPayment then
    transitionOrForce current .pending
  else if previous = .failed ∧ current = .failed then
    transitionOrForce current .pending
  else
    current

/-- `_apply_paid_repair`. -/
def applyPaidRepair (tenant : Tenant) (subscription : Subscription) (runtimeExists : Bool) (now : Time) :
    Except PyError (Tenant × Subscription × PaidRepairOutcome) := do
  let previousTenantStatus := tenant.status
  let previousSubscriptionStatus := subscription.status
  let tenant :=
    if previousTenantStatus = .failed then { tenant with status := transitionOrForce tenant.status .pending }
    else tenant
  let (tenant, subscription, snapshot) ← applyPaymentConfirmedTransition tenant subscription now
  let tenant := { tenant with status := repairedStatus previousTenantStatus tenant.status runtimeExists }
  return (tenant, subscription,
    { entitlementRestored := previousSubscriptionStatus ∉ paidSubscriptionStatuses ∨
        subscription.status ∈ paidSubscriptionStatuses ∨ snapshot.paymentConfirmed
      tenantStatusChanged := tenant.status ≠ previousTenantStatus
      needsProvisioning := tenant.status = .pending ∧ ¬runtimeExists })

/-- The attempt of a settled invoice, marked paid if it is not. -/
def payAttemptFromErp (db : Db) (attempt : Option PaymentAttempt) (invoice : BillingInvoice) (now : Time) :
    Option PaymentAttempt × Bool × Db :=
  match attempt with
  | some attempt =>
    if attempt.status ≠ .paid then
      let attempt := appendReconciliationSnapshot { attempt with status := .paid, failureReason := none }
        invoice.invoiceStatus now
      (some attempt, true, db.putAttempt attempt)
    else
      (some attempt, false, db)
  | none => (none, false, db)

/-- What `reconcile_invoice_settlement` does with a settled invoice: the result, and the owner's email when the tenant
has to be provisioned. -/
def reconcileSettledInvoice (client : PlatformErpClient) (db : Db) (tenant : Tenant)
    (subscription : Option Subscription) (invoice : BillingInvoice) (attempt : Option PaymentAttempt)
    (result : InvoiceReconciliationResult) (now : Time) :
    Except PyError ((InvoiceReconciliationResult × Option String) × Db) := do
  let (attempt, updated, db) := payAttemptFromErp db attempt invoice now
  let (resolved, db) := resolveBillingExceptions db tenant.id invoice.id now
  let result := { result with
    paymentAttemptStatus := attempt.map PaymentAttempt.status, paymentAttemptUpdated := updated
    exceptionsResolved := resolved }
  match subscription with
  | some subscription =>
    let runtimeExists := client.runtimeExists ((nonEmpty tenant.siteName).getD tenant.domain)
    let (tenant, subscription, repair) ← applyPaidRepair tenant subscription runtimeExists now
    let db := (db.putSubscription subscription).putTenant tenant
    let db := recordReconciliationEvent db tenant (some subscription) invoice attempt "billing.payment_reconciled"
      "Invoice settlement reconciled from ERP" "info" now
    let ownerEmail := if repair.needsProvisioning then (db.user? tenant.ownerId).map User.email else none
    return (({ result with entitlementRestored := repair.entitlementRestored
                           tenantStatusChanged := repair.tenantStatusChanged }, ownerEmail), db)
  | none =>
    let (opened, db) := openBillingException db tenant none invoice attempt "manual_finance_review_required"
      "Invoice settled in ERP but no subscription aggregate was available for entitlement repair" now
    let db := recordReconciliationEvent db tenant none invoice attempt "billing.payment_reconciled"
      "Invoice settlement reconciled from ERP without subscription repair" "warning" now
    return (({ result with exceptionsOpened := opened }, none), db)

/-- What `reconcile_invoice_settlement` does with an invoice that is not settled: a paid attempt of it is put up for
review. -/
def reconcileUnsettledInvoice (db : Db) (tenant : Tenant) (subscription : Option Subscription)
    (invoice : BillingInvoice) (attempt : Option PaymentAttempt) (result : InvoiceReconciliationResult) (now : Time) :
    (InvoiceReconciliationResult × Option String) × Db :=
  match attempt with
  | some attempt =>
    if attempt.status = .paid then
      let attempt := appendReconciliationSnapshot { attempt with status := .reconciliationRequired }
        invoice.invoiceStatus now
      let db := db.putAttempt attempt
      let (opened, db) := openBillingException db tenant subscription invoice (some attempt) "erp_mismatch"
        "ERP invoice remains open while the platform payment attempt is marked paid" now
      let db := recordReconciliationEvent db tenant subscription invoice (some attempt)
        "billing.payment_reconciliation_requested" "Payment requires ERP reconciliation review" "warning" now
      (({ result with paymentAttemptStatus := some .reconciliationRequired, exceptionsOpened := opened }, none), db)
    else
      ((result, none), db)
  | none => ((result, none), db)

/-- `invoice.subscription or tenant.subscription`. -/
def subscriptionOfInvoice (db : Db) (tenant : Tenant) (invoice : BillingInvoice) : Option Subscription :=
  (invoice.subscriptionId.bind (get? db.subscriptions)).or (db.subscriptionOf tenant.id)

/-- The invoice's row, which the caller has at hand. -/
def requireInvoiceRow (db : Db) (invoiceId : Nat) : Except PyError BillingInvoice :=
  match db.invoice? invoiceId with
  | some invoice => .ok invoice
  | none => .error .objectDeletedError

/-- What `reconcile_invoice_settlement` changes in the session's rows. -/
def reconcileInvoice (tenantId invoiceId : Nat) (now : Time) (client : PlatformErpClient) (db : Db) :
    Except PyError ((InvoiceReconciliationResult × Option String) × Db) := do
  let tenant ← requireTenant db tenantId
  let invoice ← requireInvoiceRow db invoiceId
  let (invoice, db) ← resyncOneInvoice client db tenant invoice now
  let attempt := latestPaymentAttempt (db.attemptsOf invoice.id)
  let subscription := subscriptionOfInvoice db tenant invoice
  let settled := reconciledInvoiceIsSettled invoice
  let result : InvoiceReconciliationResult :=
    { tenantId := tenant.id, invoiceId := invoice.id, invoiceStatus := invoice.invoiceStatus, settled := settled
      paymentAttemptId := attempt.map PaymentAttempt.id
      paymentAttemptStatus := attempt.map PaymentAttempt.status, paymentAttemptUpdated := false
      entitlementRestored := false, provisioningRequeued := false, tenantStatusChanged := false
      exceptionsOpened := 0, exceptionsResolved := 0 }
  if settled then
    reconcileSettledInvoice client db tenant subscription invoice attempt result now
  else
    return reconcileUnsettledInvoice db tenant subscription invoice attempt result now

/-- `reconcile_invoice_settlement`.  When the tenant has to be provisioned, the commit is left to the enqueueing. -/
def reconcileInvoiceSettlement (env : Env) (tenantId invoiceId : Nat) : Proc InvoiceReconciliationResult := do
  let (result, ownerEmail) ← change env (reconcileInvoice tenantId invoiceId)
  match ownerEmail with
  | some email =>
    let (_, enqueued) ← enqueueProvisioningForPaidTenant env tenantId email
    return { result with provisioningRequeued := enqueued }
  | none =>
    commit env
    return result

/-- One invoice's result added to a tenant's summary. -/
def TenantBillingReconciliationResult.add (summary : TenantBillingReconciliationResult)
    (outcome : InvoiceReconciliationResult) (invoiceId : Nat) : TenantBillingReconciliationResult :=
  { summary with
    inspectedInvoiceCount := summary.inspectedInvoiceCount + 1
    lastInvoiceId := some invoiceId
    settledInvoiceCount := summary.settledInvoiceCount + outcome.settled.toNat
    reconciledInvoiceCount := summary.reconciledInvoiceCount +
      (outcome.settled || outcome.exceptionsOpened != 0 || outcome.exceptionsResolved != 0).toNat
    paymentAttemptsUpdated := summary.paymentAttemptsUpdated + outcome.paymentAttemptUpdated.toNat
    entitlementRepairs := summary.entitlementRepairs + outcome.entitlementRestored.toNat
    provisioningRequeues := summary.provisioningRequeues + outcome.provisioningRequeued.toNat
    exceptionsOpened := summary.exceptionsOpened + outcome.exceptionsOpened
    exceptionsResolved := summary.exceptionsResolved + outcome.exceptionsResolved }

/-- The loop of `reconcile_tenant_billing` over the invoices it read. -/
def reconcileInvoices (env : Env) (tenantId : Nat) :
    List Nat → TenantBillingReconciliationResult → Proc TenantBillingReconciliationResult
  | [], summary => pure summary
  | invoiceId :: rest, summary => do
    let outcome ← reconcileInvoiceSettlement env tenantId invoiceId
    reconcileInvoices env tenantId rest (summary.add outcome invoiceId)

/-- `order_by(due_date.desc().nullslast(), created_at.desc())`: `a` may stand before `b`. -/
def dueBefore (a b : BillingInvoice) : Bool :=
  match a.dueDate, b.dueDate with
  | some due, some due' => due' < due || (due' == due && b.createdAt ≤ a.createdAt)
  | some _, none => true
  | none, some _ => false
  | none, none => b.createdAt ≤ a.createdAt

/-- The invoices `reconcile_tenant_billing` goes over, in its order. -/
def invoicesToReconcile (db : Db) (tenantId : Nat) (invoiceId : Option Nat) : List Nat :=
  (((db.invoicesOf tenantId).filter fun i => ∀ id ∈ invoiceId, i.id = id).insertionSort
    fun a b => dueBefore a b = true).map BillingInvoice.id

/-- The sync a tenant's invoices are shown, resynced or reconciled with. -/
def syncForTenant (tenantId limit : Nat) (now : Time) (client : PlatformErpClient) (db : Db) :
    Except PyError (Unit × Db) := do
  let tenant ← requireTenant db tenantId
  let (_, db) ← syncPlatformInvoicesForTenant client db tenant limit now
  return ((), db)

/-- `reconcile_tenant_billing`. -/
def reconcileTenantBilling (env : Env) (tenantId : Nat) (invoiceId : Option Nat) :
    Proc TenantBillingReconciliationResult := do
  change env (syncForTenant tenantId 50)
  let db ← read
  reconcileInvoices env tenantId (invoicesToReconcile db tenantId invoiceId)
    { tenantId := tenantId, inspectedInvoiceCount := 0, reconciledInvoiceCount := 0, settledInvoiceCount := 0
      paymentAttemptsUpdated := 0, entitlementRepairs := 0, provisioningRequeues := 0, exceptionsOpened := 0
      exceptionsResolved := 0, lastInvoiceId := none }

end ControlPlane
