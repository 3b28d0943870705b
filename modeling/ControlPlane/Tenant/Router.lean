import ControlPlane.Tenant.Service

/-!
# Tenant endpoints

The user's requests that move a tenant or put a job on the queue, after authentication and the role check.
-/

namespace ControlPlane

open Table Session.Proc

/-- A tenant whose checkout is renewed waits for its payment again. -/
def backToPayment (tenant : Tenant) : Except PyError Tenant :=
  if tenant.status = .pending then transitionTenantStatus tenant .pendingPayment else .ok tenant

/-- The owner's row; a tenant without one is answered 404. -/
def requireOwner (db : Db) (tenant : Tenant) : Except PyError User :=
  match db.user? tenant.ownerId with
  | some owner => .ok owner
  | none => .error (.httpException 404 "Tenant owner not found")

/-- What `renew_checkout` changes before its commit. -/
def prepareRenewedCheckout (env : Env) (tenantId : Nat) (_ : Time) (_ : PlatformErpClient) (db : Db) :
    Except PyError (Unit × Db) := do
  let tenant ← requireTenant db tenantId
  raiseIf (tenant.status ≠ .pending ∧ tenant.status ≠ .pendingPayment)
    (.httpException 409 "Checkout renewal is only available before provisioning.")
  let owner ← requireOwner db tenant
  let checkout ← startCheckout env tenant owner
  let token := if checkout.provider ∈ ["dpo", "selcom", "azampay"] then some checkout.sessionId
    else tenant.dpoTransactionToken
  let tenant ← backToPayment { tenant with
    paymentProvider := checkout.provider, paymentChannel := checkout.paymentChannel, dpoTransactionToken := token }
  let subscription := db.subscriptionOf tenantId
  let (plan, db) ← requirePlanBySlug db (((subscription.bind db.planOf).map Plan.slug).getD "starter")
  let customer := if checkout.provider = "stripe" then some checkout.customerRef else none
  let (_, db) ← upsertSubscriptionForTenant (db.putTenant tenant) tenantId plan
    (subscription.bind Subscription.selectedApp) (subscriptionStatusForTenant subscription) (some checkout.provider)
    (subscription.bind Subscription.providerSubscriptionId) customer (some checkout.sessionId) none
  return ((), db)

def renewCheckout (env : Env) (tenantId : Nat) : Proc Unit := do
  change env (prepareRenewedCheckout env tenantId)
  commit env
  recordAuditEvent env "tenant.checkout_renewed" "tenants" (some tenantId)

/-- The checks an endpoint makes on a tenant before it does anything. -/
def checkTenant (env : Env) (tenantId : Nat) (check : Db → Tenant → Time → Except PyError Unit) : Proc Unit :=
  change env fun now _ db => do
    let tenant ← requireTenant db tenantId
    check db tenant now
    return ((), db)

def backupTenant (env : Env) (tenantId : Nat) : Proc Unit := do
  checkTenant env tenantId fun db tenant now => do
    enforceBackupPolicy db tenant now
    enforceBackupPlanLimit db tenantId now
  let _ ← enqueueBackup env tenantId

/-- `restore_tenant`: the task is put on the queue in the background, after the audit entry. -/
def restoreTenant (env : Env) (tenantId backupId : Nat) : Proc Unit := do
  checkTenant env tenantId fun db tenant now => do
    enforceBillingOperationPolicy db tenant "Restore" now
    ensureDomainOperationAllowed tenant
    raiseIf (((db.backup? backupId).map BackupManifest.tenantId) ≠ some tenantId)
      (.httpException 404 "Backup manifest not found")
  let job ← addJob env tenantId .restore
  recordAuditEvent env "tenant.restore_requested" "tenants" (some tenantId)
  let _ ← enqueue env (.restoreTenant job.id tenantId backupId)

def deleteTenant (env : Env) (tenantId : Nat) : Proc Unit := do
  checkTenant env tenantId fun _ tenant _ => enforceDeletePolicy tenant
  let _ ← enqueueDelete env tenantId

/-- What `retry_tenant_provisioning` changes before its first commit. -/
def prepareRetry (tenantId : Nat) (now : Time) (_ : PlatformErpClient) (db : Db) : Except PyError (Unit × Db) := do
  let tenant ← requireTenant db tenantId
  enforceRetryPolicy db tenant now
  let tenant ← transitionTenantStatus tenant .pending
  return ((), db.putTenant tenant)

def retryTenantProvisioning (env : Env) (tenantId : Nat) (userEmail : String) : Proc Unit := do
  change env (prepareRetry tenantId)
  commit env
  let _ ← enqueueProvisioningForPaidTenant env tenantId userEmail
  recordAuditEvent env "tenant.retry_provisioning" "tenants" (some tenantId)

end ControlPlane
