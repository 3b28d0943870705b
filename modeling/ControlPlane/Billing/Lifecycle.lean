import ControlPlane.Models

/-!
# Billing lifecycle

The policy that turns a tenant's invoice, payment attempt and subscription into a billing state, an entitlement and an
operational state, and the three transitions that billing events apply to a tenant and its subscription.  Each of the
three asks `transitionStatus` first; the confirmed and the cancelled event write the tenant's status even when it
refuses.
-/

namespace ControlPlane

inductive BillingState where
  | draft | invoicingPending | paymentPending | paymentProcessing | pastDue | grace | suspended | closed
  | cancelled | paid
  deriving DecidableEq, Repr

inductive EntitlementState where
  | active | trialing | grace | pastDue | suspendedBilling | cancelled | terminated
  deriving DecidableEq, Repr

inductive LegacyBillingStatus where
  | paid | failed | cancelled | pending
  deriving DecidableEq, Repr

/-- `PAYMENT_PROCESSING_ATTEMPT_STATES`. -/
def paymentProcessingAttemptStates : List AttemptStatus :=
  [.checkoutStarted, .pendingProviderConfirmation, .settlementPending]

/-- `ACTIVE_PAYMENT_ATTEMPT_STATES`. -/
def activePaymentAttemptStates : List AttemptStatus :=
  [.created, .checkoutStarted, .pendingProviderConfirmation, .settlementPending]

/-- `TERMINAL_TENANT_STATUSES`. -/
def terminalTenantStatuses : List TenantStatus := [.pendingDeletion, .deleting, .deleted]

/-- `PAID_SUBSCRIPTION_STATUSES`. -/
def paidSubscriptionStatuses : List SubscriptionStatus := [.active, .trialing]

/-- `INVOICE_STATE_ALIASES`. -/
def invoiceStateAlias : InvoiceStatus → InvoiceStatus
  | .open_ => .paymentPending
  | .unpaid => .paymentPending
  | .invoiced => .paymentPending
  | .overdue => .pastDue
  | .settled => .paid
  | .void => .cancelled
  | .canceled => .cancelled
  | status => status

structure BillingLifecycleSnapshot where
  billingState : BillingState
  entitlementState : EntitlementState
  tenantOperationalState : TenantStatus
  paymentConfirmed : Bool
  billingBlocked : Bool
  provisioningAllowed : Bool
  requiresManualReview : Bool
  reasonCode : String
  legacyBillingStatus : LegacyBillingStatus
  source : String
  subscriptionStatus : SubscriptionStatus
  reasonLabel : String
  nextAction : Option String
  graceEndsAt : Option Time
  latestInvoiceId : Option Nat
  latestPaymentAttemptId : Option Nat
  deriving DecidableEq, Repr

/-- `_to_legacy_billing_status` of the tenant model. -/
def toLegacyBillingStatus : SubscriptionStatus → LegacyBillingStatus
  | .active => .paid
  | .trialing => .paid
  | .pastDue => .failed
  | .cancelled => .cancelled
  | .pending => .pending
  | .paused => .pending

/-- `_subscription_status_for_values`. -/
def subscriptionStatusForValues (subscription : Option SubscriptionStatus) (legacy : Option LegacyBillingStatus) :
    SubscriptionStatus :=
  if legacy = some .cancelled then
    .cancelled
  else if legacy = some .failed ∧ subscription ∉ [some .pastDue, some .cancelled, some .paused] then
    .pastDue
  else
    match subscription with
    | some status => status
    | none =>
      match legacy with
      | some .paid => .active
      | some .failed => .pastDue
      | some .cancelled => .cancelled
      | _ => .pending

def entitlementToLegacyBillingStatus : EntitlementState → LegacyBillingStatus
  | .active => .paid
  | .trialing => .paid
  | .cancelled => .cancelled
  | _ => .failed

/-- `subscription_status_for_tenant`: the subscription's status, read beside the tenant's derived legacy status. -/
def subscriptionStatusForTenant (subscription : Option Subscription) : SubscriptionStatus :=
  subscriptionStatusForValues (subscription.map Subscription.status)
    (some (toLegacyBillingStatus ((subscription.map Subscription.status).getD .pending)))

/-- The billing state an invoice status names by itself. -/
def InvoiceStatus.billingState? : InvoiceStatus → Option BillingState
  | .draft => some .draft
  | .invoicingPending => some .invoicingPending
  | .paymentPending => some .paymentPending
  | .paymentProcessing => some .paymentProcessing
  | .pastDue => some .pastDue
  | .grace => some .grace
  | .suspended => some .suspended
  | .closed => some .closed
  | .cancelled => some .cancelled
  | _ => none

def deriveBillingState (tenantStatus : TenantStatus) (subscriptionStatus : Option SubscriptionStatus)
    (invoiceStatus : Option InvoiceStatus) (paymentAttemptStatus : Option AttemptStatus) : BillingState :=
  let invoice := invoiceStatus.map invoiceStateAlias
  if paymentAttemptStatus = some .paid ∨ invoice = some .paid then .paid
  else if invoice = some .suspended then .suspended
  else if invoice = some .closed then .closed
  else if invoice = some .cancelled then .cancelled
  else if ∃ status ∈ paymentProcessingAttemptStates, paymentAttemptStatus = some status then .paymentProcessing
  else if ∃ status ∈ [AttemptStatus.created, .failed, .expired, .cancelled, .reconciliationRequired],
      paymentAttemptStatus = some status then .pastDue
  else
    match subscriptionStatus with
    | some .active => .paid
    | some .trialing => .paid
    | some .cancelled => .closed
    | some .pending => if tenantStatus = .suspendedBilling then .suspended else .paymentPending
    | some _ =>
      if tenantStatus ∈ [TenantStatus.active, .provisioning, .upgrading, .restoring] then .grace
      else if tenantStatus = .suspendedBilling then .suspended
      else .pastDue
    | none =>
      match invoice.bind InvoiceStatus.billingState? with
      | some state => state
      | none => if tenantStatus = .suspendedBilling then .suspended else .paymentPending

def deriveEntitlementState (billingState : BillingState) (subscriptionStatus : Option SubscriptionStatus) :
    EntitlementState :=
  if subscriptionStatus = some .trialing ∧ billingState ∈ [BillingState.paymentPending, .pastDue, .grace] then
    .trialing
  else if subscriptionStatus = some .cancelled ∨ billingState = .cancelled then .cancelled
  else if billingState = .paid ∨ billingState = .closed then .active
  else if billingState = .grace then .grace
  else if billingState = .suspended then .suspendedBilling
  else .pastDue

def deriveTenantOperationalState (current : TenantStatus) (entitlement : EntitlementState) : TenantStatus :=
  if current ∈ terminalTenantStatuses then current
  else if current = .suspendedAdmin then current
  else if current = .failed ∧ entitlement ∈ [EntitlementState.active, .trialing, .grace] then .activationBlocked
  else
    match entitlement with
    | .active | .trialing =>
      if current = .pendingPayment ∨ current = .suspendedBilling then .pending else current
    | .grace =>
      if current ∈ [TenantStatus.active, .provisioning, .upgrading, .restoring] then current else .pendingPayment
    | _ =>
      if current ∈ [TenantStatus.active, .provisioning, .upgrading, .restoring, .suspended, .suspendedBilling] then
        .suspendedBilling
      else .pendingPayment

def billingBlockedForState (entitlement : EntitlementState) (tenantStatus : TenantStatus) : Bool :=
  if tenantStatus = .pendingPayment ∨ tenantStatus = .suspendedBilling then true
  else entitlement ∈ [EntitlementState.pastDue, .suspendedBilling, .cancelled, .terminated]

/-- `_reason_details`: the reason code of a billing state and the next action it asks for. -/
def reasonDetails : Option BillingState → String × Option String
  | some .paymentPending => ("invoice_open_unpaid", some "pay_invoice")
  | some .pastDue => ("invoice_open_unpaid", some "pay_invoice")
  | some .grace => ("invoice_open_unpaid", some "pay_invoice")
  | some .paymentProcessing => ("payment_settlement_in_progress", some "await_payment_confirmation")
  | some .suspended => ("billing_suspension_required", some "pay_invoice")
  | some .cancelled => ("invoice_cancelled", none)
  | _ => ("billing_ok", none)

def reasonLabel (code : String) : String :=
  if code = "invoice_open_unpaid" then "Payment required before activation"
  else if code = "payment_settlement_in_progress" then "Payment is processing with the provider"
  else if code = "invoice_overdue_grace_active" then "Invoice overdue; tenant is still within grace period"
  else if code = "grace_expired_unpaid_invoice" then "Invoice remains unpaid after grace period"
  else if code = "invoice_cancelled" then "Invoice was cancelled"
  else "Billing lifecycle resolved"

def evaluateBillingLifecycle (tenantStatus : TenantStatus) (subscriptionStatus : Option SubscriptionStatus)
    (invoiceStatus : Option InvoiceStatus) (paymentAttemptStatus : Option AttemptStatus) :
    BillingLifecycleSnapshot :=
  let subscription := subscriptionStatusForValues subscriptionStatus none
  let billingState := deriveBillingState tenantStatus (some subscription) invoiceStatus paymentAttemptStatus
  let entitlement := deriveEntitlementState billingState (some subscription)
  let reason := reasonDetails (some billingState)
  { billingState := billingState
    entitlementState := entitlement
    tenantOperationalState := deriveTenantOperationalState tenantStatus entitlement
    paymentConfirmed := entitlement ∈ [EntitlementState.active, .trialing, .grace]
    billingBlocked := billingBlockedForState entitlement tenantStatus
    provisioningAllowed := entitlement ∈ [EntitlementState.active, .trialing]
    requiresManualReview := paymentAttemptStatus = some .reconciliationRequired
    reasonCode := reason.1
    legacyBillingStatus := entitlementToLegacyBillingStatus entitlement
    source := "legacy_status"
    subscriptionStatus := subscription
    reasonLabel := reasonLabel reason.1
    nextAction := reason.2
    graceEndsAt := none
    latestInvoiceId := none
    latestPaymentAttemptId := none }

/-- `_latest_billing_invoice`: the invoice with the latest due, issue and creation date; a missing date counts as the
earliest. -/
def latestBillingInvoice (invoices : List BillingInvoice) : Option BillingInvoice :=
  latestBy ltTimes3 (fun i => (i.dueDate.getD 0, i.issuedAt.getD 0, i.createdAt)) invoices

/-- `_latest_payment_attempt`. -/
def latestPaymentAttempt (attempts : List PaymentAttempt) : Option PaymentAttempt :=
  latestBy ltTimes (fun a => (a.updatedAt, a.createdAt)) attempts

/-- The default of `resolve_billing_lifecycle`'s grace period, which every caller takes. -/
def gracePeriod : Nat := days 3

/-- The invoice status, reason, next action and end of grace that `resolve_billing_lifecycle` reads off an invoice and
its latest attempt. -/
def resolveInvoice (invoice : BillingInvoice) (attempt : Option PaymentAttempt) (now : Time)
    (grace : Nat := gracePeriod) : InvoiceStatus × String × Option String × Option Time :=
  let attemptStatus := attempt.map PaymentAttempt.status
  let status := invoice.invoiceStatus
  if status ∈ [InvoiceStatus.cancelled, .canceled, .void, .voided, .writtenOff] then
    (.cancelled, "invoice_cancelled", none, none)
  else if attemptStatus = some .paid ∨ status ∈ [InvoiceStatus.paid, .settled, .closed] ∨ invoice.paidAt.isSome ∨
      (invoice.amountDue ≤ invoice.amountPaid ∧ 0 < invoice.amountDue) then
    (.paid, "billing_ok", none, none)
  else if ∃ s ∈ paymentProcessingAttemptStates, attemptStatus = some s then
    (.paymentProcessing, "payment_settlement_in_progress", some "await_payment_confirmation", none)
  else if ∃ due ∈ invoice.dueDate, due ≤ now then
    let graceEndsAt := invoice.dueDate.getD 0 + grace
    if now ≤ graceEndsAt then (.grace, "invoice_overdue_grace_active", some "pay_invoice", some graceEndsAt)
    else (.suspended, "grace_expired_unpaid_invoice", some "pay_invoice", some graceEndsAt)
  else if ∃ s ∈ activePaymentAttemptStates, attemptStatus = some s then
    (.paymentPending, "invoice_open_unpaid", some "complete_checkout", none)
  else
    let resolved := if status = .other "" then .paymentPending else invoiceStateAlias status
    let reason := reasonDetails resolved.billingState?
    (resolved, reason.1, reason.2, none)

/-- `resolve_billing_lifecycle` for a tenant row of the database. -/
def resolveBillingLifecycle (db : Db) (tenant : Tenant) (now : Time) (grace : Nat := gracePeriod) :
    BillingLifecycleSnapshot :=
  let subscriptionStatus := subscriptionStatusForTenant (db.subscriptionOf tenant.id)
  match latestBillingInvoice (db.invoicesOf tenant.id) with
  | none => evaluateBillingLifecycle tenant.status (some subscriptionStatus) none none
  | some invoice =>
    let attempt := latestPaymentAttempt (db.attemptsOf invoice.id)
    let (invoiceStatus, reasonCode, nextAction, graceEndsAt) := resolveInvoice invoice attempt now grace
    { evaluateBillingLifecycle tenant.status (some subscriptionStatus) (some invoiceStatus)
        (attempt.map PaymentAttempt.status) with
      reasonCode := reasonCode
      source := "billing_read_model"
      subscriptionStatus := subscriptionStatus
      reasonLabel := reasonLabel reasonCode
      nextAction := nextAction
      graceEndsAt := graceEndsAt
      latestInvoiceId := some invoice.id
      latestPaymentAttemptId := attempt.map PaymentAttempt.id }

/-- `evaluate_tenant_billing_policy`. -/
def evaluateTenantBillingPolicy (db : Db) (tenant : Tenant) (now : Time) : BillingLifecycleSnapshot :=
  resolveBillingLifecycle db tenant now

/-! ### The transitions of a billing event -/

/-- Assign `subscription.status`, which the model validates. -/
def setSubscriptionStatus (subscription : Subscription) (status : SubscriptionStatus) :
    Except PyError Subscription :=
  match validateSubscriptionStatusTransition (some subscription.status) status with
  | .ok () => .ok { subscription with status := status }
  | .error e => .error e

/-- The tenant status after a confirmed payment: the operational state of a paid tenant if the table allows it; a
refused `pending` is written all the same, any other refusal leaves the status. -/
def paymentConfirmedStatus (current target : TenantStatus) : TenantStatus :=
  match transitionStatus current target with
  | .ok status => status
  | .error _ => if target = .pending then .pending else current

def applyPaymentConfirmedTransition (tenant : Tenant) (subscription : Subscription) (now : Time) :
    Except PyError (Tenant × Subscription × BillingLifecycleSnapshot) := do
  let previousStatus := subscription.status
  let status := resolveTrialSubscriptionStatus subscription.status .paymentConfirmed subscription.trialEndsAt now
  let subscription ← setSubscriptionStatus subscription status
  let subscription :=
    if previousStatus = .trialing then { subscription with trialEndsAt := none } else subscription
  let snapshot := evaluateBillingLifecycle tenant.status (some subscription.status) (some .paid) (some .paid)
  let tenant := { tenant with status := paymentConfirmedStatus tenant.status snapshot.tenantOperationalState }
  return (tenant, subscription, snapshot)

/-- The tenant status after a failed payment: `pending_payment` before provisioning, `suspended_billing` later, and
when that is refused, `pending_payment` if it is allowed. -/
def paymentFailedStatus (current : TenantStatus) : TenantStatus :=
  let target := if current = .pending ∨ current = .pendingPayment then TenantStatus.pendingPayment
    else .suspendedBilling
  match transitionStatus current target with
  | .ok status => status
  | .error _ => if target = .pendingPayment then current else transitionOrKeep current .pendingPayment

def applyPaymentFailedTransition (tenant : Tenant) (subscription : Subscription) (now : Time) :
    Except PyError (Tenant × Subscription × BillingLifecycleSnapshot) := do
  let status := resolveTrialSubscriptionStatus subscription.status .paymentFailed subscription.trialEndsAt now
  let subscription ← setSubscriptionStatus subscription status
  let tenant := { tenant with status := paymentFailedStatus tenant.status }
  let snapshot := evaluateBillingLifecycle tenant.status (some subscription.status) (some .suspended) (some .failed)
  return (tenant, subscription, snapshot)

def applySubscriptionCancelledTransition (tenant : Tenant) (subscription : Subscription) (now : Time) :
    Except PyError (Tenant × Subscription × BillingLifecycleSnapshot) := do
  let status :=
    resolveTrialSubscriptionStatus subscription.status .subscriptionCancelled subscription.trialEndsAt now
  let subscription ← setSubscriptionStatus subscription status
  let subscription := { subscription with cancelledAt := subscription.cancelledAt.or (some now) }
  let tenant := { tenant with status := transitionOrForce tenant.status .suspendedBilling }
  let snapshot := evaluateBillingLifecycle tenant.status (some subscription.status) (some .closed) (some .cancelled)
  return (tenant, subscription, snapshot)

/-! ### What the transitions do -/

theorem setSubscriptionStatus_eq_ok {subscription subscription' : Subscription} {status : SubscriptionStatus} :
    setSubscriptionStatus subscription status = .ok subscription' ↔
      (subscription.status = status ∨ status ∈ allowedSubscriptionTransitions subscription.status) ∧
        subscription' = { subscription with status := status } := by
  rw [← validateSubscriptionStatusTransition_eq_ok]
  unfold setSubscriptionStatus
  split
  · rename_i h
    simp [h, eq_comm]
  · rename_i e h
    simp [h]

/-- The tenant status a confirmed payment leaves, before a billing suspension is lifted. -/
def confirmedStatus (current : TenantStatus) : TenantStatus :=
  paymentConfirmedStatus current (deriveTenantOperationalState current .active)

/-- A confirmed payment moves a tenant only out of `pending_payment` and `suspended_billing`, both times to
`pending`. -/
theorem confirmedStatus_eq (current : TenantStatus) :
    confirmedStatus current =
      if current = .pendingPayment ∨ current = .suspendedBilling then .pending else current := by
  cases current <;> decide

/-- A failed payment moves a tenant to `pending_payment` or `suspended_billing`, or not at all. -/
theorem paymentFailedStatus_eq (current : TenantStatus) :
    paymentFailedStatus current =
      if current = .pending then .pendingPayment
      else if current = .provisioning ∨ current = .active then .suspendedBilling
      else current := by
  cases current <;> decide

/-- A confirmed payment is refused for a cancelled subscription only; it makes any other one active. -/
theorem applyPaymentConfirmedTransition_ok {subscription : Subscription} (tenant : Tenant) (now : Time)
    (h : subscription.status ≠ .cancelled) :
    ∃ activated snapshot, applyPaymentConfirmedTransition tenant subscription now =
        .ok ({ tenant with status := confirmedStatus tenant.status }, activated, snapshot) ∧
      activated.id = subscription.id ∧ activated.tenantId = subscription.tenantId ∧ activated.status = .active := by
  have hset : setSubscriptionStatus subscription .active = .ok { subscription with status := .active } := by
    rw [setSubscriptionStatus_eq_ok]
    refine ⟨?_, rfl⟩
    revert h
    cases subscription.status <;> decide
  unfold applyPaymentConfirmedTransition
  simp only [resolveTrialSubscriptionStatus, hset]
  by_cases ht : subscription.status = .trialing
  · simp only [ht, if_true]
    exact ⟨_, _, rfl, rfl, rfl, rfl⟩
  · simp only [ht, if_false]
    exact ⟨_, _, rfl, rfl, rfl, rfl⟩

theorem applyPaymentConfirmedTransition_error {subscription : Subscription} (tenant : Tenant) (now : Time)
    (h : subscription.status = .cancelled) :
    applyPaymentConfirmedTransition tenant subscription now =
      .error (.invalidSubscriptionStatusTransition "cancelled" "active") := by
  unfold applyPaymentConfirmedTransition setSubscriptionStatus
  simp only [resolveTrialSubscriptionStatus, h]
  rfl

/-- A failed payment is refused for a paused or cancelled subscription only. -/
theorem applyPaymentFailedTransition_ok {subscription : Subscription} (tenant : Tenant) (now : Time)
    (h : subscription.status ∉ [SubscriptionStatus.paused, .cancelled]) :
    ∃ snapshot, applyPaymentFailedTransition tenant subscription now =
      .ok ({ tenant with status := paymentFailedStatus tenant.status }, { subscription with status := .pastDue },
        snapshot) := by
  have hset : setSubscriptionStatus subscription .pastDue = .ok { subscription with status := .pastDue } := by
    rw [setSubscriptionStatus_eq_ok]
    refine ⟨?_, rfl⟩
    revert h
    cases subscription.status <;> decide
  unfold applyPaymentFailedTransition
  simp only [resolveTrialSubscriptionStatus, hset]
  exact ⟨_, rfl⟩

theorem applyPaymentFailedTransition_error {subscription : Subscription} (tenant : Tenant) (now : Time)
    (h : subscription.status ∈ [SubscriptionStatus.paused, .cancelled]) :
    applyPaymentFailedTransition tenant subscription now =
      .error (.invalidSubscriptionStatusTransition subscription.status.text "past_due") := by
  unfold applyPaymentFailedTransition setSubscriptionStatus
  simp only [resolveTrialSubscriptionStatus]
  rcases List.mem_pair.1 h with h | h <;> rw [h] <;> rfl

/-- A cancellation is never refused, and it always leaves the tenant suspended for billing. -/
theorem applySubscriptionCancelledTransition_ok (tenant : Tenant) (subscription : Subscription) (now : Time) :
    ∃ snapshot, applySubscriptionCancelledTransition tenant subscription now =
      .ok ({ tenant with status := .suspendedBilling },
        { subscription with status := .cancelled, cancelledAt := subscription.cancelledAt.or (some now) }, snapshot) := by
  have hset : setSubscriptionStatus subscription .cancelled = .ok { subscription with status := .cancelled } := by
    rw [setSubscriptionStatus_eq_ok]
    refine ⟨?_, rfl⟩
    cases subscription.status <;> decide
  unfold applySubscriptionCancelledTransition
  simp only [resolveTrialSubscriptionStatus, hset, transitionOrForce_eq]
  exact ⟨_, rfl⟩

end ControlPlane
