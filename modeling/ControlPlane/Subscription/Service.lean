import ControlPlane.Bench.Validators
import ControlPlane.Models

/-!
# Plans and the subscription row of a tenant
-/

namespace ControlPlane

open Table

/-- The isolation models of `STRATEGY_REGISTRY`. -/
def supportedIsolationModels : List String := ["pooled", "silo_compose"]

/-- `DEFAULT_PLAN_CATALOG`. -/
def defaultPlanCatalog : List Plan :=
  [ { id := 1, slug := "starter", isActive := true, isolationModel := "pooled", backupFrequency := "weekly"
      entitlements := [⟨"erpnext", true, false⟩] },
    { id := 2, slug := "business", isActive := true, isolationModel := "pooled", backupFrequency := "daily"
      entitlements := ⟨"erpnext", true, false⟩ :: businessApps.map fun app => ⟨app, false, true⟩ },
    { id := 3, slug := "enterprise", isActive := true, isolationModel := "silo_compose", backupFrequency := "daily"
      entitlements := ⟨"erpnext", true, false⟩ :: businessApps.map fun app => ⟨app, true, false⟩ } ]

def ensureDefaultPlanCatalog (db : Db) : Db :=
  match db.plans with
  | [] => { db with plans := defaultPlanCatalog }
  | _ => db

def validatePlanIsolationModel (plan : Plan) : Except PyError Unit :=
  if normalize plan.isolationModel ∈ supportedIsolationModels then
    .ok ()
  else
    .error (.httpException 422 ("Unsupported isolation model '" ++ plan.isolationModel ++ "' for plan '" ++
      plan.slug ++ "'. Supported models: pooled, silo_compose"))

def requirePlanBySlug (db : Db) (planSlug : String) : Except PyError (Plan × Db) :=
  let db := ensureDefaultPlanCatalog db
  match db.plans.find? fun p => p.slug = normalize planSlug ∧ p.isActive with
  | some plan => .ok (plan, db)
  | none => .error (.httpException 422 "Unsupported plan")

/-- `get_plan_by_slug` with `active_only=False`. -/
def getPlanBySlug (db : Db) (planSlug : String) : Option Plan × Db :=
  let db := ensureDefaultPlanCatalog db
  (db.plans.find? fun p => p.slug = normalize planSlug, db)

/-- The message of a validation error, raised again as an HTTP error. -/
def asUnprocessable {α : Type} : Except PyError α → Except PyError α
  | .ok a => .ok a
  | .error e => .error (.httpException 422 e.message)

def validateSelectedAppForPlan (plan : Plan) (selectedApp : Option String) : Except PyError (Option String) :=
  let slug := normalize plan.slug
  match orText selectedApp none with
  | none => if slug = "business" then .error (.httpException 422 "chosen_app is required for business plan") else .ok none
  | some app =>
    if slug = "starter" then
      .error (.httpException 422 "starter plan does not support chosen_app")
    else if slug = "business" then do
      let normalized ← asUnprocessable (validateAppName app)
      let selectable := (plan.entitlements.filter PlanEntitlement.selectable).map PlanEntitlement.appSlug
      if selectable ≠ [] ∧ normalized ∉ selectable then
        throw (.httpException 422 "chosen_app is not selectable for this plan")
      if selectable = [] ∧ normalized ∉ businessApps then
        throw (.httpException 422 "chosen_app is not allowlisted for business plan")
      return some normalized
    else
      (asUnprocessable (validateAppName app)).map some

/-- `upsert_subscription_for_tenant`.  An existing row's status is assigned like any other and so validated;
`trialEndsAt` is `none` when the caller leaves the column as it is. -/
def upsertSubscriptionForTenant (db : Db) (tenantId : Nat) (plan : Plan) (selectedApp : Option String)
    (status : SubscriptionStatus) (paymentProvider providerSubscriptionId providerCustomerId
      providerCheckoutSessionId : Option String) (trialEndsAt : Option (Option Time)) :
    Except PyError (Subscription × Db) := do
  validatePlanIsolationModel plan
  match db.subscriptionOf tenantId with
  | some existing =>
    validateSubscriptionStatusTransition (some existing.status) status
    let subscription :=
      { existing with
        planId := plan.id, status := status, selectedApp := selectedApp, paymentProvider := paymentProvider
        providerSubscriptionId := providerSubscriptionId, providerCustomerId := providerCustomerId
        providerCheckoutSessionId := providerCheckoutSessionId
        trialEndsAt := trialEndsAt.getD existing.trialEndsAt }
    return (subscription, db.putSubscription subscription)
  | none =>
    let subscription : Subscription :=
      { id := fresh db.subscriptions, tenantId := tenantId, planId := plan.id, status := status, cancelledAt := none
        selectedApp := selectedApp, paymentProvider := paymentProvider
        providerSubscriptionId := providerSubscriptionId, providerCustomerId := providerCustomerId
        providerCheckoutSessionId := providerCheckoutSessionId, trialEndsAt := trialEndsAt.getD none }
    return (subscription, { db with subscriptions := insert db.subscriptions subscription })

theorem asUnprocessable_ok {α : Type} {r : Except PyError α} {a : α} (h : asUnprocessable r = .ok a) : r = .ok a := by
  cases r with
  | ok b => exact h
  | error e => cases h

/-! ### What plans and subscriptions leave alone -/

theorem requirePlanBySlug_frame {db db' : Db} {planSlug : String} {plan : Plan}
    (h : requirePlanBySlug db planSlug = .ok (plan, db')) : ∃ plans, db' = { db with plans := plans } := by
  unfold requirePlanBySlug ensureDefaultPlanCatalog at h
  dsimp only at h
  split at h
  · cases h
    split
    · exact ⟨_, rfl⟩
    · exact ⟨_, rfl⟩
  · cases h

theorem getPlanBySlug_frame (db : Db) (planSlug : String) :
    ∃ plans, (getPlanBySlug db planSlug).2 = { db with plans := plans } := by
  unfold getPlanBySlug ensureDefaultPlanCatalog
  dsimp only
  split
  · exact ⟨_, rfl⟩
  · exact ⟨_, rfl⟩

/-- The row an upsert writes is the tenant's subscription afterwards, in the status asked for. -/
theorem upsertSubscriptionForTenant_ok {db db' : Db} {tenantId : Nat} {plan : Plan} {selectedApp : Option String}
    {status : SubscriptionStatus} {provider subscriptionId customerId sessionId : Option String}
    {trialEndsAt : Option (Option Time)} {subscription : Subscription}
    (h : upsertSubscriptionForTenant db tenantId plan selectedApp status provider subscriptionId customerId sessionId
      trialEndsAt = .ok (subscription, db')) :
    subscription.status = status ∧ subscription.tenantId = tenantId ∧
      ∃ subscriptions, db' = { db with subscriptions := subscriptions } := by
  unfold upsertSubscriptionForTenant at h
  obtain ⟨u, -, h⟩ := bind_eq_ok.1 h
  split at h
  · rename_i existing hexisting
    obtain ⟨v, -, h⟩ := bind_eq_ok.1 h
    cases h
    have : existing.tenantId = tenantId := by
      unfold Db.subscriptionOf at hexisting
      simpa using List.find?_some hexisting
    exact ⟨rfl, this, _, rfl⟩
  · cases h
    exact ⟨rfl, rfl, _, rfl⟩

/-- An existing subscription is written again in its own status, whatever else changes. -/
theorem upsertSubscriptionForTenant_again {db : Db} {tenantId : Nat} {plan : Plan} {s : Subscription}
    (selectedApp provider subscriptionId customerId sessionId : Option String) (trialEndsAt : Option (Option Time))
    (hvalid : validatePlanIsolationModel plan = .ok ()) (hs : db.subscriptionOf tenantId = some s) :
    ∃ r, upsertSubscriptionForTenant db tenantId plan selectedApp s.status provider subscriptionId customerId sessionId
      trialEndsAt = .ok r := by
  unfold upsertSubscriptionForTenant
  rw [hvalid, hs]
  exact ⟨_, bind_eq_ok.2 ⟨(), rfl, bind_eq_ok.2 ⟨(), validateSubscriptionStatusTransition_eq_ok.2 (Or.inl rfl), rfl⟩⟩⟩

end ControlPlane
