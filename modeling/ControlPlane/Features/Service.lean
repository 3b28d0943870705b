import ControlPlane.Base.ScopedRows
import ControlPlane.Base.Session
import ControlPlane.Identity.Router
import ControlPlane.Text

/-!
# Feature flags

The catalog of feature flags, the overrides that administrators set for tenants, and `require_feature`, which an
endpoint depends on.  The catalog is seeded when it is first needed, in the session of that request, which may or may
not commit.
-/

namespace ControlPlane

open Table Session Session.Proc

/-- A row of `feature_flags`. -/
structure FeatureFlag where
  id : Nat
  key : String
  defaultEnabled : Bool
  description : String
  createdAt : Time
  updatedAt : Time
  deriving DecidableEq, Repr

instance : Keyed FeatureFlag := ⟨FeatureFlag.id⟩

/-- A row of `tenant_features`. -/
structure TenantFeature where
  id : Nat
  tenantId : Nat
  featureId : Nat
  enabled : Bool
  createdAt : Time
  updatedAt : Time
  deriving DecidableEq, Repr

instance : Keyed TenantFeature := ⟨TenantFeature.id⟩

/-- The columns of `uq_tenant_features_tenant_feature`. -/
def TenantFeature.scope (override : TenantFeature) : Nat × Nat := (override.tenantId, override.featureId)

structure FeatureRows where
  featureFlags : List FeatureFlag
  tenantFeatures : List TenantFeature
  deriving DecidableEq, Repr

/-- The keys of the features, with their defaults and descriptions. -/
def FEATURE_REGISTRY : List (String × Bool × String) :=
  [("weekly_backup", false, "Weekly managed backups"),
    ("daily_backup", false, "Daily backup capability"),
    ("one_extra_app", false, "One selectable extra app"),
    ("s3_backup", false, "S3 offsite backup"),
    ("all_apps", false, "All app entitlements"),
    ("custom_domain", false, "Custom domain support"),
    ("sla_support", false, "SLA-backed support"),
    ("whatsapp_support", false, "WhatsApp support channel"),
    ("independent_upgrades", false, "Independent tenant upgrades"),
    ("dedicated_infra", false, "Dedicated infrastructure"),
    ("sso_login", false, "Future SSO login capability"),
    ("advanced_reporting", false, "Future advanced reporting capability")]

/-- `PLAN_FEATURES.get(plan_slug, set())`. -/
def PLAN_FEATURES (planSlug : String) : List String :=
  if planSlug = "starter" then ["weekly_backup"]
  else if planSlug = "business" then ["daily_backup", "one_extra_app"]
  else if planSlug = "enterprise" then
    ["daily_backup", "s3_backup", "all_apps", "custom_domain", "sla_support", "whatsapp_support",
      "independent_upgrades", "dedicated_infra"]
  else []

abbrev FeatureProc (α : Type) : Type := Session.Proc PyError FeatureRows Unit α

/-- What a request runs with: the rows of the control plane, the instant, which of its commits fail, and the order of
texts in the database. -/
structure FeatureEnv where
  db : Db
  now : Time
  commitFails : Nat → Bool
  textLe : String → String → Bool

namespace FeatureRows

/-- `db.query(FeatureFlag).filter(FeatureFlag.key == key).first()`. -/
def flag? (rows : FeatureRows) (key : String) : Option FeatureFlag := rows.featureFlags.find? fun flag => flag.key = key

/-- The key of an override's flag, by the join of the two tables. -/
def keyOf (rows : FeatureRows) (override : TenantFeature) : Option String :=
  (get? rows.featureFlags override.featureId).map FeatureFlag.key

/-- `get_tenant_feature_override`. -/
def getTenantFeatureOverride (rows : FeatureRows) (tenantId : Nat) (featureKey : String) : Option TenantFeature :=
  rows.tenantFeatures.find? fun override =>
    override.tenantId = tenantId ∧ rows.keyOf override = some (normalize featureKey)

/-- The rows that `ensure_feature_catalog` adds to a table that has none. -/
def seeded (now : Time) : List FeatureFlag :=
  FEATURE_REGISTRY.zipIdx.map fun ((key, defaultEnabled, description), i) =>
    ⟨i, key, defaultEnabled, description, now, now⟩

def ensureFeatureCatalog (now : Time) (rows : FeatureRows) : FeatureRows :=
  if rows.featureFlags = [] then { rows with featureFlags := seeded now } else rows

end FeatureRows

/-- An override that there is already, or one of a tenant that does not exist, is refused by the constraints. -/
def insertOverride (db : Db) (override : TenantFeature) (rows : FeatureRows) : Except PyError (Unit × FeatureRows) := do
  raiseIf (rows.tenantFeatures.any fun other => other.scope = override.scope)
    (.integrityError "uq_tenant_features_tenant_feature")
  raiseIf ((db.tenant? override.tenantId).isNone) (.integrityError "tenant_features.tenant_id")
  return ((), { rows with tenantFeatures := insert rows.tenantFeatures override })

structure TenantFeatureOverrideOut where
  id : Nat
  tenantId : Nat
  featureKey : String
  enabled : Bool
  createdAt : Time
  updatedAt : Time
  deriving DecidableEq, Repr

def TenantFeature.out (override : TenantFeature) (featureKey : String) : TenantFeatureOverrideOut :=
  ⟨override.id, override.tenantId, featureKey, override.enabled, override.createdAt, override.updatedAt⟩

inductive FeatureAnswer where
  | flags (flags : List FeatureFlag)
  | overrides (overrides : List TenantFeatureOverrideOut)
  | override (override : TenantFeatureOverrideOut)
  | deleted
  | allowed (tenantId : Nat)
  deriving DecidableEq, Repr

section

variable (env : FeatureEnv)

namespace FeatureEnv

def commit : FeatureProc Unit :=
  Session.Proc.commit (fun t => if env.commitFails t then some .operationalError else none) fun _ _ rows => rows

/-- `ensure_feature_catalog`, which flushes and does not commit. -/
def ensureFeatureCatalog : FeatureProc Unit := modify (FeatureRows.ensureFeatureCatalog env.now)

end FeatureEnv

def listFeatureFlags : FeatureProc FeatureAnswer := do
  env.ensureFeatureCatalog
  let rows ← read
  return .flags (rows.featureFlags.mergeSort fun a b => env.textLe a.key b.key)

def getFeatureFlag (featureKey : String) : FeatureProc FeatureFlag := do
  env.ensureFeatureCatalog
  let rows ← read
  match rows.flag? (normalize featureKey) with
  | some feature => return feature
  | none => raise (.httpException 404 "Feature flag not found")

def listTenantFeatureOverrides (tenantId : Nat) : FeatureProc FeatureAnswer := do
  env.ensureFeatureCatalog
  let rows ← read
  let joined := (rows.tenantFeatures.filter fun override => override.tenantId = tenantId).filterMap fun override =>
    (rows.keyOf override).map override.out
  return .overrides (joined.mergeSort fun a b => env.textLe a.featureKey b.featureKey)

/-- What `set_tenant_feature_override` adds to its session: a row, or a change of the row there is. -/
def saveOverride (tenantId : Nat) (featureKey : String) (feature : FeatureFlag) (enabled : Bool) :
    FeatureProc TenantFeature := do
  let rows ← read
  match rows.getTenantFeatureOverride tenantId featureKey with
  | none =>
    let override : TenantFeature := ⟨fresh rows.tenantFeatures, tenantId, feature.id, enabled, env.now, env.now⟩
    body (insertOverride env.db override)
    return override
  | some override =>
    let override := { override with
      enabled := enabled
      updatedAt := if override.enabled = enabled then override.updatedAt else env.now }
    modify fun rows => { rows with tenantFeatures := put rows.tenantFeatures override }
    return override

def setTenantFeatureOverride (tenantId : Nat) (featureKey : String) (enabled : Bool) : FeatureProc FeatureAnswer := do
  let feature ← getFeatureFlag env featureKey
  let override ← saveOverride env tenantId featureKey feature enabled
  env.commit
  return .override (override.out feature.key)

def removeTenantFeatureOverride (tenantId : Nat) (featureKey : String) : FeatureProc FeatureAnswer := do
  let rows ← read
  match rows.getTenantFeatureOverride tenantId featureKey with
  | none => return .deleted
  | some override =>
    modify fun rows => { rows with tenantFeatures := erase rows.tenantFeatures override.id }
    env.commit
    return .deleted

/-- `tenant.plan_slug`. -/
def planSlug (db : Db) (tenantId : Nat) : String :=
  (((db.subscriptionOf tenantId).bind db.planOf).map Plan.slug).getD "starter"

/-- `(tenant.plan_slug or tenant.plan or "unknown").strip().lower()`. -/
def shownPlan (db : Db) (tenantId : Nat) : String :=
  normalize (if planSlug db tenantId = "" then "unknown" else planSlug db tenantId)

def tenantHasFeature (tenantId : Nat) (featureKey : String) : FeatureProc Bool := do
  env.ensureFeatureCatalog
  let rows ← read
  match rows.getTenantFeatureOverride tenantId (normalize featureKey) with
  | some override => return override.enabled
  | none =>
    if normalize featureKey ∈ PLAN_FEATURES (normalize (planSlug env.db tenantId)) then return true
    else return ((rows.flag? (normalize featureKey)).map FeatureFlag.defaultEnabled).getD false

/-- `ensure_membership` makes a membership. -/
def FeatureEnv.addsMembership (tenant : Tenant) (user : User) : Bool :=
  (ensureMembership env.db tenant user).2.memberships ≠ env.db.memberships

/-- `require_feature`; a membership that `ensure_membership` makes is committed before the features are looked at. -/
def requireFeature (featureKey : String) (user : User) (tenantId : Nat) : FeatureProc FeatureAnswer := do
  match env.db.tenant? tenantId with
  | none => raise (.httpException 404 "Tenant not found")
  | some tenant =>
    match (ensureMembership env.db tenant user).1 with
    | .error error => raise error
    | .ok _ =>
      if env.addsMembership tenant user then env.commit
      if ← tenantHasFeature env tenantId (normalize featureKey) then return .allowed tenantId
      else raise (.httpException 403 ("Missing feature '" ++ normalize featureKey ++ "' for current plan '" ++
        shownPlan env.db tenantId ++ "'"))

/-- An endpoint behind `require_feature`, which shares its session and may commit it. -/
def guardedEndpoint (featureKey : String) (user : User) (tenantId : Nat) (commits : Bool) :
    FeatureProc FeatureAnswer := do
  let answer ← requireFeature env featureKey user tenantId
  if commits then env.commit
  return answer

end

/-! ### Runs -/

inductive FeatureRequest where
  | flags
  | overrides (tenantId : Nat)
  | put (tenantId : Nat) (featureKey : String) (enabled : Bool)
  | delete (tenantId : Nat) (featureKey : String)
  | guarded (featureKey : String) (user : User) (tenantId : Nat) (commits : Bool)

/-- A request, and what it runs with. -/
structure FeatureArrival where
  env : FeatureEnv
  request : FeatureRequest

def FeatureRequest.program (env : FeatureEnv) : FeatureRequest → FeatureProc FeatureAnswer
  | flags => listFeatureFlags env
  | overrides tenantId => listTenantFeatureOverrides env tenantId
  | put tenantId featureKey enabled => setTenantFeatureOverride env tenantId featureKey enabled
  | delete tenantId featureKey => removeTenantFeatureOverride env tenantId featureKey
  | guarded featureKey user tenantId commits => guardedEndpoint env featureKey user tenantId commits

namespace FeatureRows

/-- A request's answer, and the session it leaves. -/
def answer (rows : FeatureRows) (arrival : FeatureArrival) :
    Except PyError FeatureAnswer × Session.State FeatureRows Unit :=
  arrival.request.program arrival.env (opened rows ())

/-- What a request leaves in the database. -/
def step (rows : FeatureRows) (arrival : FeatureArrival) : FeatureRows := (rows.answer arrival).2.saved

end FeatureRows

end ControlPlane
