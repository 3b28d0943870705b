import ControlPlane.Billing.Reconciliation
import ControlPlane.Support.Dunning

/-!
# Scheduled cycles

The trial, dunning and reconciliation cycles: each selects its candidates with one query and then goes over them one
by one, committing after each.
-/

namespace ControlPlane

open Table Session.Proc

/-- `except Exception: db.rollback(); raise`. -/
def rollbackOnError (p : Proc Unit) : Proc Unit :=
  attempt p fun e => do
    rollback
    raise e

/-- The runtime name of a tenant and whether the ERP finds it. -/
def tenantRuntimeExists (client : PlatformErpClient) (tenant : Tenant) : Bool :=
  client.runtimeExists (strip ((nonEmpty tenant.siteName).getD tenant.domain))

/-! ### Trials -/

/-- The trialing subscriptions whose trial is over, the longest over first. -/
def expiredTrials (db : Db) (now : Time) : List Nat :=
  ((db.subscriptions.filter fun s => s.status = .trialing ∧ ∃ ends ∈ s.trialEndsAt, ends ≤ now).insertionSort
    fun a b => a.trialEndsAt.getD 0 ≤ b.trialEndsAt.getD 0).map Subscription.id

/-- The tenant status when a trial expires: back to `pending_payment` before provisioning, `suspended_billing` after,
each only if the table allows it. -/
def trialExpiredStatus (status : TenantStatus) : TenantStatus :=
  if status ∈ [TenantStatus.pending, .pendingPayment, .failed] then transitionOrKeep status .pendingPayment
  else if status ∉ [TenantStatus.suspendedBilling, .deleted, .deleting, .pendingDeletion] then
    transitionOrKeep status .suspendedBilling
  else status

/-- What the trial cycle changes for one candidate; the result is the tenant, if anything changed. -/
def expireTrial (subscriptionId : Nat) (now : Time) (db : Db) : Except PyError (Option Nat × Db) :=
  match get? db.subscriptions subscriptionId with
  | none => .ok (none, db)
  | some subscription =>
    match db.tenant? subscription.tenantId with
    | none => .ok (none, db)
    | some tenant =>
      let nextStatus :=
        resolveTrialSubscriptionStatus subscription.status .trialExpired subscription.trialEndsAt now
      if nextStatus ≠ .pastDue then
        .ok (none, db)
      else do
        let subscription ← setSubscriptionStatus subscription nextStatus
        let tenant := { tenant with status := trialExpiredStatus tenant.status, updatedAt := now }
        return (some tenant.id, (db.putSubscription subscription).putTenant tenant)

/-- The trial cycle's work on one candidate. -/
def trialCandidate (env : Env) (now : Time) (subscriptionId : Nat) : Proc Unit := do
  match ← change env fun _ _ db => expireTrial subscriptionId now db with
  | some tenantId => recordAuditEvent env "billing.trial_expired" "tenants" (some tenantId)
  | none => return ()

def runTrialLifecycleCycle (env : Env) (dryRun : Bool) : Proc Unit := do
  let now ← utcnow env
  if dryRun then
    return ()
  else
    rollbackOnError do
      let db ← read
      forEach (trialCandidate env now) (expiredTrials db now)
      commit env

/-! ### Dunning -/

/-- `RUNTIME_EXPECTED_STATUSES`. -/
def runtimeExpectedStatuses : List TenantStatus :=
  [.active, .suspended, .suspendedAdmin, .suspendedBilling, .upgrading, .restoring]

/-- The tenants the dunning query selects, the longest unchanged first, that are candidates with a visible runtime. -/
def dunningCandidates (client : PlatformErpClient) (db : Db) : List Nat :=
  let flagged := db.tenants.filter fun (t : Tenant) =>
    t.status ∈ dunningTenantStatuses ∨
      ∃ s ∈ db.subscriptionOf t.id, s.status ∈ [SubscriptionStatus.pastDue, .cancelled, .paused, .pending]
  let candidates := (flagged.insertionSort fun a b => a.updatedAt ≤ b.updatedAt).filter fun t =>
    isBillingDunningCandidate t (db.subscriptionOf t.id) &&
      (t.status ∉ runtimeExpectedStatuses || tenantRuntimeExists client t)
  candidates.map Tenant.id

/-- Whether the dunning cycle suspends a tenant: its grace is over, it is not suspended for billing or on its way out,
its subscription is not in good standing and its runtime exists. -/
def dunningEscalates (context : DunningContext) (tenant : Tenant) (subscription : Option Subscription)
    (runtimeExists : Bool) (now : Time) : Bool :=
  context.graceEndsAt ≤ now ∧ tenant.status ∉ [TenantStatus.suspendedBilling, .deleted, .deleting, .pendingDeletion] ∧
    subscriptionStatusForTenant subscription ∉ paidSubscriptionStatuses ∧ runtimeExists

/-- Stamp a tenant's `updated_at`. -/
def touchTenant (tenantId : Nat) (now : Time) (db : Db) : Db :=
  db.modifyTenant tenantId fun t => { t with updatedAt := now }

/-- Suspend a tenant for billing; a refusal of the table is overridden. -/
def escalateTenant (tenantId : Nat) (now : Time) (db : Db) : Db :=
  db.modifyTenant tenantId fun t => { t with status := transitionOrForce t.status .suspendedBilling, updatedAt := now }

/-- Remind a tenant of its payment if that is due. -/
def remindTenant (env : Env) (due : Bool) (now : Time) (tenantId : Nat) : Proc Unit :=
  if due then do
    modify (touchTenant tenantId now)
    recordAuditEvent env "billing.dunning_retry_due" "tenants" (some tenantId)
  else
    pure ()

/-- Suspend a tenant's runtime if its dunning has come to that. -/
def suspendIfEscalated (env : Env) (dryRun : Bool) (context : DunningContext) (now : Time) (tenantId : Nat) :
    Proc Unit := do
  let db ← read
  let tick ← Session.Proc.now
  match db.tenant? tenantId with
  | none => return ()
  | some tenant =>
    if dunningEscalates context tenant (db.subscriptionOf tenantId) (tenantRuntimeExists (env.erp tick) tenant) now ∧
        ¬dryRun then do
      modify (escalateTenant tenantId now)
      recordAuditEvent env "billing.dunning_escalated" "tenants" (some tenantId)
    else
      return ()

/-- The dunning cycle's work on one tenant. -/
def dunTenant (env : Env) (dryRun : Bool) (now : Time) (tenantId : Nat) : Proc Unit := do
  let db ← read
  let tick ← Session.Proc.now
  match db.tenant? tenantId with
  | none => return ()
  | some tenant =>
    let context := resolveDunningContext (env.erp tick) tenant (db.subscriptionOf tenantId)
    remindTenant env (context.nextRetryAt ≤ now ∧ ¬dryRun) now tenantId
    suspendIfEscalated env dryRun context now tenantId

def runBillingDunningCycle (env : Env) (dryRun : Bool) : Proc Unit := do
  let now ← utcnow env
  let tick ← Session.Proc.now
  rollbackOnError do
    let db ← read
    forEach (dunTenant env dryRun now) (dunningCandidates (env.erp tick) db)
    recordAuditEvent env "billing.dunning_cycle_completed" "billing" none
    if dryRun then return () else commit env

/-! ### Reconciliation -/

/-- Whether the reconciliation cycle looks at a tenant: its status, its subscription, one of its invoices or one of
its attempts asks for it. -/
def needsReconciliation (db : Db) (tenant : Tenant) : Bool :=
  tenant.status ∈ [TenantStatus.pendingPayment, .pending, .suspendedBilling, .failed] ||
    (db.subscriptions.any fun s =>
      s.tenantId = tenant.id ∧ s.status ∈ [SubscriptionStatus.pastDue, .pending, .cancelled]) ||
    (db.invoices.any fun i =>
      i.tenantId = tenant.id ∧ i.invoiceStatus ∈ [InvoiceStatus.paymentPending, .pastDue, .draft]) ||
    (db.attempts.any fun a =>
      a.tenantId = tenant.id ∧
        a.status ∈ [AttemptStatus.created, .checkoutStarted, .pendingProviderConfirmation, .settlementPending,
          .reconciliationRequired, .paid])

/-- The tenants of a reconciliation cycle, the longest unchanged first. -/
def reconciliationCandidates (db : Db) : List Nat :=
  ((db.tenants.filter (needsReconciliation db)).insertionSort fun a b => a.updatedAt ≤ b.updatedAt).map Tenant.id

/-- Reconcile one tenant of a cycle; a failure is rolled back and the cycle goes on. -/
def reconcileCandidate (env : Env) (tenantId : Nat) : Proc Unit :=
  attempt
    (do
      let _ ← reconcileTenantBilling env tenantId none
      pure ())
    (fun _ => rollback)

def runBillingReconciliationCycle (env : Env) : Proc Unit :=
  rollbackOnError do
    let db ← read
    forEach (reconcileCandidate env) (reconciliationCandidates db)
    recordAuditEvent env "billing.reconciliation_cycle_completed" "billing" none
    commit env

end ControlPlane
