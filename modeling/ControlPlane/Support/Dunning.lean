import ControlPlane.Billing.InvoiceSync

/-!
# Dunning

Which tenants are dunned, and until when they have grace.
-/

namespace ControlPlane

/-- `DUNNING_EXCLUDED_TENANT_STATUSES`. -/
def dunningExcludedTenantStatuses : List TenantStatus := [.deleted, .deleting, .pendingDeletion]

/-- `DUNNING_TENANT_STATUSES`. -/
def dunningTenantStatuses : List TenantStatus := [.pendingPayment, .suspendedBilling]

/-- `DUNNING_SUBSCRIPTION_STATUSES`. -/
def dunningSubscriptionStatuses : List SubscriptionStatus := [.pastDue, .cancelled, .paused]

def isBillingDunningCandidate (tenant : Tenant) (subscription : Option Subscription) : Bool :=
  if tenant.status ∈ dunningExcludedTenantStatuses then false
  else if tenant.status ∈ dunningTenantStatuses then true
  else subscriptionStatusForTenant subscription ∈ dunningSubscriptionStatuses

/-- `compute_dunning_windows`: when the next reminder is due and when grace ends. -/
def computeDunningWindows (tenant : Tenant) (subscription : Option Subscription) : Time × Time :=
  let (retryHours, graceHours) :=
    if tenant.status = .pendingPayment then (6, 48)
    else if tenant.status = .suspendedBilling then (12, 24)
    else if subscriptionStatusForTenant subscription ∈ dunningSubscriptionStatuses then (12, 48)
    else (24, 72)
  (tenant.updatedAt + hours retryHours, tenant.updatedAt + hours graceHours)

structure DunningContext where
  nextRetryAt : Time
  graceEndsAt : Time
  lastInvoiceId : Option String
  lastPaymentAttempt : Option Time
  invoiceDueAt : Option Time
  deriving DecidableEq, Repr

/-- `resolve_dunning_context`: the windows, the grace extended to three days after the ERP's latest invoice is due. -/
def resolveDunningContext (client : PlatformErpClient) (tenant : Tenant) (subscription : Option Subscription) :
    DunningContext :=
  let (nextRetryAt, graceEndsAt) := computeDunningWindows tenant subscription
  let invoices := match client.isConfigured, tenant.customerId? with
    | true, some customerId => (client.listInvoices customerId 1).toOption.getD []
    | _, _ => []
  match invoices with
  | [] => ⟨nextRetryAt, graceEndsAt, none, none, none⟩
  | latest :: _ =>
    let dueAt := latest.dueDate.parse
    { nextRetryAt := nextRetryAt
      graceEndsAt := max graceEndsAt ((dueAt.map (· + days 3)).getD graceEndsAt)
      lastInvoiceId := orText latest.name none
      lastPaymentAttempt := latest.postingDate.parse
      invoiceDueAt := dueAt }

end ControlPlane
