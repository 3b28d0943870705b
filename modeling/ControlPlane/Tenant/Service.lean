import ControlPlane.Environment
import ControlPlane.Subscription.Service
import ControlPlane.Tenant.Policy

/-!
# Tenant service

Creating a tenant and starting its checkout, and putting provisioning, backup and deletion jobs on the queue.  Each
commit of the code is a `commit` here, so a failure between two of them leaves what the first one wrote.
-/

namespace ControlPlane

open Table Session.Proc

/-- `transition_tenant_status` on a row. -/
def transitionTenantStatus (tenant : Tenant) (new : TenantStatus) : Except PyError Tenant :=
  match transitionStatus tenant.status new with
  | .ok status => .ok { tenant with status := status }
  | .error e => .error e

/-- An invalid transition answered as a conflict. -/
def asConflict {α : Type} : Except PyError α → Except PyError α
  | .error (.invalidTenantStatusTransition current new) =>
    .error (.httpException 409 (PyError.invalidTenantStatusTransition current new).message)
  | r => r

/-- The tenant's row; an id without a row is answered 404. -/
def requireTenant (db : Db) (tenantId : Nat) : Except PyError Tenant :=
  match db.tenant? tenantId with
  | some tenant => .ok tenant
  | none => .error (.httpException 404 "Tenant not found")

/-- The status change `enqueue_delete`, `suspend_tenant` and `unsuspend_tenant` make: along the table, or answered as a
conflict. -/
def moveTenantStatus (tenantId : Nat) (status : TenantStatus) (now : Time) (_ : PlatformErpClient) (db : Db) :
    Except PyError (Unit × Db) := do
  let tenant ← requireTenant db tenantId
  let tenant ← asConflict (transitionTenantStatus tenant status)
  return ((), db.putTenant { tenant with updatedAt := now })

/-! ### Creation -/

/-- The subscription status and trial end a new tenant starts with. -/
def trialStart (settings : Settings) (now : Time) : SubscriptionStatus × Option Time :=
  if settings.trialLifecycleEnabled ∧ 0 < settings.trialDefaultDays then
    (resolveTrialSubscriptionStatus .pending .trialStarted none now, some (now + days settings.trialDefaultDays))
  else
    (.pending, none)

/-- What `create_tenant_and_start_checkout` writes before its first commit: the organization, the tenant in
`pending_payment` and its subscription. -/
def prepareTenant (settings : Settings) (owner : User) (subdomain companyName plan : String)
    (chosenApp : Option String) (now : Time) (db : Db) : Except PyError ((Nat × Plan × Option String) × Db) := do
  raiseIf (¬(owner.isAdmin ∨ owner.emailVerified)) (.httpException 403
    "Email verification required before creating a workspace. Please verify your email and try again.")
  let cleanSubdomain ← asUnprocessable (validateSubdomain subdomain)
  let domain := cleanSubdomain ++ "." ++ settings.tenantDomainSuffix
  let (selectedPlan, db) ← requirePlanBySlug db plan
  let selectedApp ← validateSelectedAppForPlan selectedPlan chosenApp
  raiseIf (∃ t ∈ db.tenants, t.domain = domain) (.httpException 409 "Tenant domain already exists")
  let organization : Organization := ⟨fresh db.organizations, companyName, owner.id⟩
  let tenant : Tenant :=
    { id := fresh db.tenants, ownerId := owner.id, organizationId := some organization.id
      subdomain := cleanSubdomain, domain := domain, siteName := domain, companyName := companyName
      status := .pendingPayment, paymentProvider := "azampay", paymentChannel := none, dpoTransactionToken := none
      platformCustomerId := none, updatedAt := now }
  let db := { db with
    organizations := insert db.organizations organization, tenants := insert db.tenants tenant }
  let (trialStatus, trialEndsAt) := trialStart settings now
  let provider := orText (nonEmpty (normalize settings.activePaymentProvider)) (some "azampay")
  let (_, db) ← upsertSubscriptionForTenant db tenant.id selectedPlan selectedApp trialStatus provider none none none
    (some trialEndsAt)
  return ((tenant.id, selectedPlan, selectedApp), db)

/-- A checkout of the gateway; a gateway that is not configured, or a mock one where mocks are not allowed, is
answered 503. -/
def startCheckout (env : Env) (tenant : Tenant) (owner : User) : Except PyError CheckoutResult :=
  match env.gateway.createCheckout tenant owner with
  | .error (.runtimeError _) => .error (.httpException 503 "Billing provider is not configured for checkout")
  | .error (.valueError _) => .error (.httpException 503 "Billing provider is not configured for checkout")
  | .error e => .error e
  | .ok checkout =>
    if checkout.mockMode ∧ ¬env.settings.mockBillingAllowed then
      .error (.httpException 503 "Mock billing checkout is disabled in production mode")
    else
      .ok checkout

/-- What `create_tenant_and_start_checkout` writes once the checkout exists: the tenant moves to `pending`. -/
def recordCheckout (env : Env) (owner : User) (tenantId : Nat) (plan : Plan) (selectedApp : Option String)
    (trialStatus : SubscriptionStatus) (trialEndsAt : Option Time) (db : Db) : Except PyError (Unit × Db) := do
  let tenant ← requireTenant db tenantId
  let checkout ← startCheckout env tenant owner
  let token := if checkout.provider ∈ ["dpo", "selcom", "azampay"] then some checkout.sessionId else none
  let tenant ← transitionTenantStatus
    { tenant with paymentProvider := checkout.provider, paymentChannel := checkout.paymentChannel
                  dpoTransactionToken := token } .pending
  let customer := if checkout.provider = "stripe" then some checkout.customerRef else none
  let (_, db) ← upsertSubscriptionForTenant (db.putTenant tenant) tenantId plan selectedApp trialStatus
    (some checkout.provider) none customer (some checkout.sessionId) (some trialEndsAt)
  return ((), db)

def createTenantAndStartCheckout (env : Env) (owner : User) (subdomain companyName plan : String)
    (chosenApp : Option String) : Proc Nat := do
  let time ← utcnow env
  let (tenantId, selectedPlan, selectedApp) ← change env fun now _ db =>
    prepareTenant env.settings owner subdomain companyName plan chosenApp now db
  let (trialStatus, trialEndsAt) := trialStart env.settings time
  commit env
  modify fun db =>
    { db with memberships := insert db.memberships ⟨fresh db.memberships, tenantId, owner.id, "owner"⟩ }
  commit env
  change env fun _ _ db =>
    recordCheckout env owner tenantId selectedPlan selectedApp trialStatus trialEndsAt db
  commit env
  recordAuditEvent env "tenant.create" "tenants" (some tenantId)
  return tenantId

/-! ### Jobs -/

/-- The tenant's oldest create job that is queued, running or succeeded. -/
def liveCreateJob (db : Db) (tenantId : Nat) : Option Job :=
  latestBy (fun a b => b < a) Job.createdAt (db.jobs.filter fun j =>
    j.tenantId = tenantId ∧ j.type = .create ∧ j.status ∈ [JobStatus.queued, .running, .succeeded])

/-- A new queued job of a tenant. -/
def newJob (db : Db) (tenantId : Nat) (type : JobType) (now : Time) : Job :=
  { id := fresh db.jobs, tenantId := tenantId, type := type, status := .queued, rqJobId := none, error := none
    createdAt := now, startedAt := none, finishedAt := none }

/-- Add a queued job of a tenant and commit it. -/
def addJob (env : Env) (tenantId : Nat) (type : JobType) : Proc Job := do
  let job ← change env fun now _ db =>
    let job := newJob db tenantId type now
    .ok (job, { db with jobs := insert db.jobs job })
  commit env
  return job

/-- Put a job's task on the queue and commit the queue's id. -/
def enqueueJob (env : Env) (job : Job) (task : Task) : Proc Job := do
  let rqJobId ← enqueue env task
  let job := { job with rqJobId := some rqJobId }
  modify fun db => db.putJob job
  commit env
  return job

/-- `enqueue_provisioning_for_paid_tenant`.  An existing live job that is already on the queue is returned without a
commit: what the caller changed before stays uncommitted. -/
def enqueueProvisioningForPaidTenant (env : Env) (tenantId : Nat) (ownerEmail : String) : Proc (Job × Bool) := do
  let db ← read
  match liveCreateJob db tenantId with
  | some existing =>
    if existing.status = .queued ∧ existing.rqJobId = none then
      let job ← enqueueJob env existing (.provisionTenant existing.id tenantId ownerEmail)
      return (job, true)
    else
      return (existing, false)
  | none =>
    let job ← addJob env tenantId .create
    let job ← enqueueJob env job (.provisionTenant job.id tenantId ownerEmail)
    return (job, true)

/-- The daily limit `enforce_backup_plan_limit` derives from the plan; `none` is no limit. -/
def backupDailyLimit (db : Db) (tenantId : Nat) : Option Nat :=
  match (db.subscriptionOf tenantId).bind db.planOf with
  | some plan =>
    if plan.backupFrequency = "weekly" then some 1
    else if plan.backupFrequency = "daily" ∧ plan.isolationModel = "pooled" then some 3
    else none
  | none => legacyBackupDailyLimitForPlan "starter"

def enforceBackupPlanLimit (db : Db) (tenantId : Nat) (now : Time) : Except PyError Unit :=
  match backupDailyLimit db tenantId with
  | none => .ok ()
  | some limit =>
    let since := now - now % days 1
    let count := (db.auditLogs.filter fun a =>
      a.action = "tenant.backup_started" ∧ a.resourceId = some tenantId ∧ since ≤ a.createdAt).length
    if limit ≤ count then
      .error (.httpException 403 ("Plan limit reached: " ++ toString limit ++ " manual backup trigger(s) per day for " ++
        (((db.subscriptionOf tenantId).bind db.planOf).map Plan.slug).getD "starter"))
    else
      .ok ()

def enqueueBackup (env : Env) (tenantId : Nat) : Proc Job := do
  let job ← addJob env tenantId .backup
  let job ← enqueueJob env job (.backupTenant job.id tenantId)
  recordAuditEvent env "tenant.backup_started" "tenants" (some tenantId)
  return job

/-- `enqueue_delete`: the tenant's status is committed before the job exists. -/
def enqueueDelete (env : Env) (tenantId : Nat) : Proc Job := do
  change env (moveTenantStatus tenantId .pendingDeletion)
  commit env
  let job ← addJob env tenantId .delete
  let job ← enqueueJob env job (.deleteTenant job.id tenantId)
  recordAuditEvent env "tenant.delete" "tenants" (some tenantId)
  return job

end ControlPlane
