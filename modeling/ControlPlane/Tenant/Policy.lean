import ControlPlane.Billing.Lifecycle
import ControlPlane.Subscription.Service

/-!
# Which operations a tenant's status and billing allow
-/

namespace ControlPlane

/-- `PLAN_CHANGE_ALLOWED_STATUSES`. -/
def planChangeAllowedStatuses : List TenantStatus :=
  [.pendingPayment, .pending, .active, .suspended, .suspendedAdmin, .suspendedBilling, .failed]

/-- `BACKUP_ALLOWED_STATUSES`. -/
def backupAllowedStatuses : List TenantStatus := [.active, .suspended, .suspendedAdmin, .suspendedBilling]

/-- `DELETE_ALLOWED_STATUSES`. -/
def deleteAllowedStatuses : List TenantStatus :=
  [.pendingPayment, .pending, .provisioning, .active, .upgrading, .restoring, .suspended, .suspendedAdmin,
    .suspendedBilling, .failed]

/-- `SUBSCRIPTION_DELINQUENT_STATUSES`. -/
def subscriptionDelinquentStatuses : List SubscriptionStatus := [.pastDue, .cancelled, .paused, .pending]

/-- `tenant_billing_blocked`. -/
def tenantBillingBlocked (db : Db) (tenant : Tenant) (now : Time) : Bool :=
  (evaluateTenantBillingPolicy db tenant now).billingBlocked

def enforceBillingOperationPolicy (db : Db) (tenant : Tenant) (operation : String) (now : Time) :
    Except PyError Unit :=
  if operation = "Admin password reset" ∧
      subscriptionStatusForTenant (db.subscriptionOf tenant.id) ∈ subscriptionDelinquentStatuses then
    .error (.httpException 403 (operation ++ " is blocked until billing is restored"))
  else if tenantBillingBlocked db tenant now then
    .error (.httpException 403 (operation ++ " is blocked until billing is restored"))
  else
    .ok ()

def enforcePlanChangePolicy (tenant : Tenant) : Except PyError Unit :=
  if tenant.status ∉ planChangeAllowedStatuses then
    .error (.httpException 409 ("Plan changes are not allowed while tenant status is " ++ tenant.status.text))
  else
    .ok ()

/-- `validate_plan_change`; `lower().strip()` is what `normalize` does in the other order. -/
def validatePlanChange (currentPlan : String) (currentChosenApp requestedPlan requestedChosenApp : Option String)
    (allowedPlans : List String) : Except PyError (String × Option String) := do
  let plan := normalize ((orText requestedPlan none).getD currentPlan)
  raiseIf (plan ∉ allowedPlans) (.httpException 422 "Plan is not allowed")
  if plan = "business" then
    match orText (orText requestedChosenApp currentChosenApp) none with
    | none => throw (.httpException 422 "chosen_app is required for business plan")
    | some requested =>
      let chosenApp ← asUnprocessable (validateAppName requested)
      return (plan, some chosenApp)
  else
    raiseIf (orText requestedChosenApp none ≠ none)
      (.httpException 422 "chosen_app is only valid for business plan")
    return (plan, none)

def enforceBackupPolicy (db : Db) (tenant : Tenant) (now : Time) : Except PyError Unit :=
  if tenant.status ∉ backupAllowedStatuses then
    .error (.httpException 409 ("Backups are not allowed while tenant status is " ++ tenant.status.text))
  else if ¬(resolveBillingLifecycle db tenant now).paymentConfirmed then
    .error (.httpException 403 "Backups are only available for paid tenants")
  else
    .ok ()

def enforceRetryPolicy (db : Db) (tenant : Tenant) (now : Time) : Except PyError Unit :=
  if tenant.status ≠ .failed then
    .error (.httpException 409 "Tenant is not in failed state")
  else if ¬(resolveBillingLifecycle db tenant now).paymentConfirmed then
    .error (.httpException 403 "Retry provisioning is blocked until billing is restored")
  else
    .ok ()

def enforceDeletePolicy (tenant : Tenant) : Except PyError Unit :=
  if tenant.status ∉ deleteAllowedStatuses then
    .error (.httpException 409 ("Tenant cannot be deleted while status is " ++ tenant.status.text))
  else
    .ok ()

/-- `ensure_domain_operation_allowed`. -/
def ensureDomainOperationAllowed (tenant : Tenant) : Except PyError Unit :=
  if tenant.status ∈ [TenantStatus.deleted, .deleting, .pendingDeletion] then
    .error (.httpException 409 ("Domain operations are not allowed while tenant status is " ++ tenant.status.text))
  else
    .ok ()

/-- `legacy_backup_daily_limit_for_plan`; `none` is no limit. -/
def legacyBackupDailyLimitForPlan (planSlug : String) : Option Nat :=
  let slug := normalize planSlug
  if slug = "business" then some 3 else if slug = "enterprise" then none else some 1

end ControlPlane
