import ControlPlane.Tenant.Members
import ControlPlane.TenantCreation

/-!
# Changing a tenant's plan

`Tenant.plan` and `Tenant.chosen_app` are properties.  A session that has just read the tenant reads both off its
subscription; what the setters keep on the object itself is gone then.  The system is the sequence of the requests that
create tenants and change plans.
-/

namespace ControlPlane

open Table Session Session.Proc

/-- `Tenant.plan` of a row that was just read. -/
def tenantPlan (db : Db) (tenantId : Nat) : String :=
  (((db.subscriptionOf tenantId).bind db.planOf).map Plan.slug).getD "starter"

/-- `Tenant.chosen_app` of a row that was just read. -/
def tenantChosenApp (db : Db) (tenantId : Nat) : Option String :=
  orText ((db.subscriptionOf tenantId).bind Subscription.selectedApp) none

/-- The setter of `Tenant.plan`: it only sets an attribute of the object. -/
def setTenantPlan (_tenantId : Nat) (_plan : String) (db : Db) : Db := db

/-- The setter of `Tenant.chosen_app`. -/
def setTenantChosenApp (tenantId : Nat) (chosenApp : Option String) (db : Db) : Db :=
  match db.subscriptionOf tenantId with
  | some subscription => db.putSubscription { subscription with selectedApp := chosenApp }
  | none => db

/-- The plan and the app that a request to change a tenant's plan is granted. -/
def grantedPlan (allowedPlans : List String) (tenant : Tenant) (plan chosenApp : Option String) (db : Db) :
    Except PyError (String × Option String) := do
  raiseIf (plan = none ∧ chosenApp = none) (.httpException 422 "No updates supplied")
  enforcePlanChangePolicy tenant
  validatePlanChange (tenantPlan db tenant.id) (tenantChosenApp db tenant.id) plan chosenApp allowedPlans

/-- What `update_tenant` writes. -/
def changePlan (allowedPlans : List String) (tenant : Tenant) (plan chosenApp : Option String) (db : Db) :
    Except PyError (Unit × Db) := do
  let (newPlan, newChosenApp) ← grantedPlan allowedPlans tenant plan chosenApp db
  return ((), setTenantChosenApp tenant.id newChosenApp (setTenantPlan tenant.id newPlan db))

/-- `update_tenant`. -/
def updateTenant (env : Env) (allowedPlans : List String) (userId tenantId : Nat) (plan chosenApp : Option String) :
    Proc Unit := do
  let user ← change env fun _ _ db => do
    let user ← requireUser db userId
    return (user, db)
  let tenant ← getAccessibleTenant env tenantId user
  requireRole env tenant user tenantRoleCanManageBilling
  change env fun _ _ db => changePlan allowedPlans tenant plan chosenApp db
  commit env
  recordAuditEvent env "tenant.plan_updated" "tenants" (some tenantId)

/-! ### Requests one after another -/

inductive PlanOp where
  | create (request : CreationRequest)
  | update (userId tenantId : Nat) (plan chosenApp : Option String)

structure PlanEvent where
  env : Env
  op : PlanOp

section
variable (allowedPlans : List String)

/-- What a request returns, and the session it leaves. -/
def planRun (db : Db) (e : PlanEvent) : Except PyError Unit × DbSession :=
  match e.op with
  | .create request => ((request.run e.env db []).1.map fun _ => (), (request.run e.env db []).2)
  | .update userId tenantId plan chosenApp =>
    updateTenant e.env allowedPlans userId tenantId plan chosenApp (opened db [])

/-- The committed rows after a request. -/
def planStep (db : Db) (e : PlanEvent) : Db := (planRun allowedPlans db e).2.saved

/-- The app may be selected on the plan. -/
def Plan.selects (plan : Plan) (app : String) : Prop :=
  let selectable := (plan.entitlements.filter PlanEntitlement.selectable).map PlanEntitlement.appSlug
  app ∈ selectable ∨ selectable = [] ∧ app ∈ businessApps

/-- A change that is accepted is what a tenant with a subscription reads as its plan and app afterwards. -/
def changeEffective (db : Db) (e : PlanEvent) : Prop :=
  match e.op with
  | .create _ => True
  | .update _ tenantId plan chosenApp =>
    (planRun allowedPlans db e).1 = .ok () → db.subscriptionOf tenantId ≠ none →
      (∀ text, orText plan none = some text → tenantPlan (planStep allowedPlans db e) tenantId = normalize text) ∧
      ∀ app, orText chosenApp none = some app →
        tenantChosenApp (planStep allowedPlans db e) tenantId = some (normalize app)

/-- A change that is granted to a tenant with a subscription names no plan but the tenant's own, and on the business plan
no app but one that the plan selects. -/
def staysOnPlan (db : Db) (e : PlanEvent) : Prop :=
  match e.op with
  | .create _ => True
  | .update _ tenantId plan chosenApp =>
    ∀ tenant granted s p, db.tenant? tenantId = some tenant →
      grantedPlan allowedPlans tenant plan chosenApp db = .ok granted → db.subscriptionOf tenantId = some s →
      db.planOf s = some p →
        (∀ text, orText plan none = some text → normalize text = p.slug) ∧
        ∀ app, orText chosenApp none = some app → normalize p.slug = "business" → p.selects (normalize app)

end

/-- The plan and the app of a tenant with a subscription pass `validate_selected_app_for_plan`. -/
def PlanAgrees (db : Db) (tenantId : Nat) : Prop :=
  ∀ s, db.subscriptionOf tenantId = some s → ∃ p app, db.planOf s = some p ∧
    validateSelectedAppForPlan p (tenantChosenApp db tenantId) = .ok app

theorem planAgrees_iff (db : Db) (tenantId : Nat) : PlanAgrees db tenantId ↔
    ((db.subscriptionOf tenantId).all fun s => (db.planOf s).any fun p =>
      (validateSelectedAppForPlan p (tenantChosenApp db tenantId)).isOk) = true := by
  unfold PlanAgrees
  cases db.subscriptionOf tenantId with
  | none => simp
  | some s =>
    simp only [Option.some.injEq, forall_eq', Option.all_some]
    cases db.planOf s with
    | none => simp
    | some p => cases h : validateSelectedAppForPlan p (tenantChosenApp db tenantId) <;> simp [h, Except.isOk, Except.toBool]

instance (db : Db) (tenantId : Nat) : Decidable (PlanAgrees db tenantId) :=
  decidable_of_iff _ (planAgrees_iff db tenantId).symm

/-- Ids are unique in `plans`, and `subscriptions` holds one row a tenant. -/
structure PlanRows (db : Db) : Prop where
  subscriptions : db.SubscriptionsUnique
  plans : (db.plans.map Plan.id).Nodup

end ControlPlane
