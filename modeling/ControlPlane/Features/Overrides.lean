import ControlPlane.Base.Runs
import ControlPlane.Features.Service
import ControlPlane.System

/-!
# What decides about a feature

Whatever administrators and tenants ask for, in any order, and whichever commits fail, the tables of the features say
what a map from tenants and keys to overrides says (`FeatureOverrides`): each request writes the map or leaves it, as
`FeatureOverrides.step` has it, and is answered by the map, the plan and the registry alone.  The catalog may be seeded
anew for each request, since not every request commits it, and no answer shows whether it was.
-/

namespace ControlPlane

open Table Session Session.Proc Runs

/-- The default of a feature in the registry. -/
def featureDefault (key : String) : Bool := ((FEATURE_REGISTRY.lookup key).map Prod.fst).getD false

/-- Which features of which tenants are overridden. -/
abbrev FeatureOverrides : Type := Nat × String → Option Bool

namespace FeatureOverrides

variable (overrides : FeatureOverrides)

/-- Whether an administrator may set the override of a tenant. -/
def Settable (env : FeatureEnv) (tenantId : Nat) (key : String) : Prop :=
  key ∈ FEATURE_REGISTRY.map Prod.fst ∧ ((overrides (tenantId, key)).isSome ∨ (env.db.tenant? tenantId).isSome)

instance (env : FeatureEnv) (tenantId : Nat) (key : String) : Decidable (overrides.Settable env tenantId key) :=
  inferInstanceAs (Decidable (_ ∧ _))

/-- What setting an override makes of the overrides. -/
def set (env : FeatureEnv) (tenantId : Nat) (key : String) (enabled : Bool) : FeatureOverrides :=
  if overrides.Settable env tenantId key ∧ env.commitFails 0 = false then
    Function.update overrides (tenantId, key) (some enabled)
  else overrides

/-- What removing one does. -/
def unset (env : FeatureEnv) (tenantId : Nat) (key : String) : FeatureOverrides :=
  if env.commitFails 0 then overrides else Function.update overrides (tenantId, key) none

/-- What a request makes of the overrides. -/
def step (arrival : FeatureArrival) : FeatureOverrides :=
  match arrival.request with
  | .put tenantId featureKey enabled => overrides.set arrival.env tenantId (normalize featureKey) enabled
  | .delete tenantId featureKey => overrides.unset arrival.env tenantId (normalize featureKey)
  | _ => overrides

/-- The override decides; without one, the plan and the default. -/
def allows (db : Db) (tenantId : Nat) (key : String) : Bool :=
  (overrides (tenantId, key)).getD
    (decide (key ∈ PLAN_FEATURES (normalize (planSlug db tenantId))) || featureDefault key)

/-- What `require_feature` says. -/
def required (env : FeatureEnv) (featureKey : String) (user : User) (tenantId : Nat) : Except PyError FeatureAnswer :=
  match env.db.tenant? tenantId with
  | none => .error (.httpException 404 "Tenant not found")
  | some tenant =>
    match (ensureMembership env.db tenant user).1 with
    | .error error => .error error
    | .ok _ =>
      if env.addsMembership tenant user ∧ env.commitFails 0 then .error .operationalError
      else if overrides.allows env.db tenantId (normalize featureKey) then .ok (.allowed tenantId)
      else .error (.httpException 403 ("Missing feature '" ++ normalize featureKey ++ "' for current plan '" ++
        shownPlan env.db tenantId ++ "'"))

/-- The commits that `require_feature` makes. -/
def commitsBefore (env : FeatureEnv) (user : User) (tenantId : Nat) : Nat :=
  if (env.db.tenant? tenantId).any fun tenant => env.addsMembership tenant user then 1 else 0

/-- What an endpoint behind it is answered. -/
def guard (env : FeatureEnv) (featureKey : String) (user : User) (tenantId : Nat) (commits : Bool) :
    Except PyError FeatureAnswer :=
  match overrides.required env featureKey user tenantId with
  | .ok answer =>
    if commits ∧ env.commitFails (commitsBefore env user tenantId) then .error .operationalError else .ok answer
  | .error error => .error error

/-- What a request is answered, to go by the overrides. -/
def Answers (env : FeatureEnv) : FeatureRequest → Except PyError FeatureAnswer → Prop
  | .flags, answer => ∃ flags, answer = .ok (.flags flags) ∧
      (flags.map FeatureFlag.key).Perm (FEATURE_REGISTRY.map Prod.fst) ∧
      ∀ flag ∈ flags, flag.defaultEnabled = featureDefault flag.key
  | .overrides tenantId, answer => ∃ listed, answer = .ok (.overrides listed) ∧
      (listed.map TenantFeatureOverrideOut.featureKey).Nodup ∧ (∀ out ∈ listed, out.tenantId = tenantId) ∧
      ∀ key enabled, (∃ out ∈ listed, out.featureKey = key ∧ out.enabled = enabled) ↔
        overrides (tenantId, key) = some enabled
  | .put tenantId featureKey enabled, answer =>
    if normalize featureKey ∉ FEATURE_REGISTRY.map Prod.fst then
      answer = .error (.httpException 404 "Feature flag not found")
    else if ¬overrides.Settable env tenantId (normalize featureKey) then
      answer = .error (.integrityError "tenant_features.tenant_id")
    else if env.commitFails 0 then answer = .error .operationalError
    else ∃ out, answer = .ok (.override out) ∧ out.tenantId = tenantId ∧ out.featureKey = normalize featureKey ∧
      out.enabled = enabled
  | .delete tenantId featureKey, answer =>
    if (overrides (tenantId, normalize featureKey)).isSome ∧ env.commitFails 0 then answer = .error .operationalError
    else answer = .ok .deleted
  | .guarded featureKey user tenantId commits, answer => answer = overrides.guard env featureKey user tenantId commits

end FeatureOverrides

/-! ### The catalog and the overrides in the tables -/

namespace FeatureRows

variable {rows : FeatureRows}

/-- The tenant of an override, and its key by the join. -/
def scopeOf (rows : FeatureRows) (override : TenantFeature) : Nat × Option String :=
  (override.tenantId, rows.keyOf override)

/-- The overrides in the tables. -/
def overrides (rows : FeatureRows) : FeatureOverrides := fun (tenantId, key) =>
  (ofScope rows.scopeOf rows.tenantFeatures (tenantId, some key)).map TenantFeature.enabled

/-- The catalog is the registry, and no tenant has two overrides of a feature. -/
structure Catalogued (rows : FeatureRows) : Prop where
  flags : UniqueScope FeatureFlag.key rows.featureFlags
  registered : (rows.featureFlags.map FeatureFlag.key).Perm (FEATURE_REGISTRY.map Prod.fst)
  defaults : ∀ flag ∈ rows.featureFlags, flag.defaultEnabled = featureDefault flag.key
  overrides : UniqueScope rows.scopeOf rows.tenantFeatures

/-- The tables are empty, or their catalog is there. -/
def Kept (rows : FeatureRows) : Prop := rows = ⟨[], []⟩ ∨ rows.Catalogued

theorem getTenantFeatureOverride_eq (rows : FeatureRows) (tenantId : Nat) (featureKey : String) :
    rows.getTenantFeatureOverride tenantId featureKey =
      ofScope rows.scopeOf rows.tenantFeatures (tenantId, some (normalize featureKey)) := by
  simp only [getTenantFeatureOverride, ofScope, scopeOf, Prod.mk.injEq]

theorem keys_seeded (now : Time) : (seeded now).map FeatureFlag.key = FEATURE_REGISTRY.map Prod.fst := rfl

theorem catalogued_seeded (now : Time) : Catalogued ⟨seeded now, []⟩ := by
  refine ⟨⟨?_, ?_⟩, ?_, ?_, .nil⟩
  · show ((seeded now).map FeatureFlag.id).Nodup
    rw [show (seeded now).map FeatureFlag.id = List.range 12 from rfl]
    exact List.nodup_range
  · rw [List.filter_eq_self.2 fun _ _ => rfl, keys_seeded]
    decide
  · exact .of_eq (keys_seeded now)
  · have hall : ∀ p ∈ (seeded now).map fun flag => (flag.key, flag.defaultEnabled), p.2 = featureDefault p.1 := by
      rw [show ((seeded now).map fun flag => (flag.key, flag.defaultEnabled)) =
        FEATURE_REGISTRY.map fun (key, enabled, _) => (key, enabled) from rfl]
      decide
    exact fun flag hflag => hall _ (List.mem_map_of_mem hflag)

/-- Seeding the catalog leaves the overrides. -/
theorem Kept.ensure (h : rows.Kept) (now : Time) :
    (rows.ensureFeatureCatalog now).Catalogued ∧ (rows.ensureFeatureCatalog now).overrides = rows.overrides := by
  obtain rfl | h := h
  · exact ⟨catalogued_seeded now, rfl⟩
  · have hne : rows.featureFlags ≠ [] := fun hnil => by
      have hperm := h.registered
      rw [hnil] at hperm
      exact absurd hperm.length_eq (by decide)
    rw [ensureFeatureCatalog, if_neg hne]
    exact ⟨h, rfl⟩

namespace Catalogued

variable (h : rows.Catalogued)
include h

theorem flag?_isSome (key : String) : (rows.flag? key).isSome = true ↔ key ∈ FEATURE_REGISTRY.map Prod.fst := by
  rw [flag?, ← h.registered.mem_iff, List.mem_map]
  exact ofScope_isSome FeatureFlag.key rows.featureFlags key

theorem flag?_default (key : String) :
    ((rows.flag? key).map FeatureFlag.defaultEnabled).getD false = featureDefault key := by
  cases hflag : rows.flag? key with
  | some flag =>
    obtain ⟨hmem, rfl⟩ := mem_of_ofScope (show ofScope FeatureFlag.key _ _ = _ from hflag)
    exact h.defaults flag hmem
  | none =>
    have hnot : key ∉ FEATURE_REGISTRY.map Prod.fst := by
      rw [← h.flag?_isSome, hflag]
      simp
    rw [featureDefault, List.lookup_eq_none_iff.2]
    · rfl
    · intro p hp
      simpa using fun heq : key = p.1 => hnot (heq ▸ List.mem_map_of_mem hp)

/-- The key of an override of a flag. -/
theorem keyOf_flag {key : String} {flag : FeatureFlag} (hflag : rows.flag? key = some flag) {override : TenantFeature}
    (hfeature : override.featureId = flag.id) : rows.keyOf override = some key := by
  obtain ⟨hmem, rfl⟩ := mem_of_ofScope (show ofScope FeatureFlag.key _ _ = _ from hflag)
  have hrow : get? rows.featureFlags (Keyed.key flag) = some flag := get?_of_mem h.flags.keys hmem
  rw [keyOf, hfeature]
  exact congrArg (Option.map FeatureFlag.key) hrow

theorem write {tenantFeatures : List TenantFeature} (hunique : UniqueScope rows.scopeOf tenantFeatures) :
    Catalogued { rows with tenantFeatures := tenantFeatures } := ⟨h.flags, h.registered, h.defaults, hunique⟩

end Catalogued

/-- What the overrides are after a write of one scope. -/
theorem overrides_update {tenantFeatures : List TenantFeature} {tenantId : Nat} {key : String}
    (row : Option TenantFeature)
    (hwrite : ofScope rows.scopeOf tenantFeatures =
      Function.update (ofScope rows.scopeOf rows.tenantFeatures) (tenantId, some key) row) :
    overrides { rows with tenantFeatures := tenantFeatures } =
      Function.update rows.overrides (tenantId, key) (row.map TenantFeature.enabled) := by
  funext ⟨tenantId', key'⟩
  show (ofScope rows.scopeOf tenantFeatures (tenantId', some key')).map _ = _
  rw [hwrite]
  by_cases hsame : (tenantId', key') = (tenantId, key)
  · obtain ⟨rfl, rfl⟩ := Prod.mk.inj hsame
    rw [Function.update_self, Function.update_self]
  · have hne : (tenantId', some key') ≠ (tenantId, some key) := fun heq => by
      obtain ⟨rfl, hkey⟩ := Prod.mk.inj heq
      exact hsame (Prod.ext rfl (Option.some.inj hkey))
    rw [Function.update_of_ne hsame, Function.update_of_ne hne]
    rfl

theorem overrides_isSome (rows : FeatureRows) (tenantId : Nat) (key : String) :
    (rows.overrides (tenantId, key)).isSome =
      (ofScope rows.scopeOf rows.tenantFeatures (tenantId, some key)).isSome := by
  rw [overrides, Option.isSome_map]

/-- The overrides of a tenant with their keys, as the join returns them. -/
def joined (rows : FeatureRows) (tenantId : Nat) : List TenantFeatureOverrideOut :=
  (rows.tenantFeatures.filter fun override => override.tenantId = tenantId).filterMap fun override =>
    (rows.keyOf override).map override.out

theorem mem_joined {tenantId : Nat} {out : TenantFeatureOverrideOut} : out ∈ rows.joined tenantId ↔
    ∃ override ∈ rows.tenantFeatures, rows.scopeOf override = (tenantId, some out.featureKey) ∧
      override.out out.featureKey = out := by
  rw [joined, List.mem_filterMap]
  constructor
  · rintro ⟨override, hmem, hout⟩
    obtain ⟨hmem, htenant⟩ := List.mem_filter.1 hmem
    obtain ⟨key, hkey, rfl⟩ := Option.map_eq_some_iff.1 hout
    exact ⟨override, hmem, by rw [scopeOf, of_decide_eq_true htenant, hkey]; rfl, rfl⟩
  · rintro ⟨override, hmem, hscope, hout⟩
    obtain ⟨htenant, hkey⟩ := Prod.mk.inj hscope
    exact ⟨override, List.mem_filter.2 ⟨hmem, decide_eq_true htenant⟩, by rw [hkey, Option.map_some, hout]⟩

theorem Catalogued.nodup_joined (h : rows.Catalogued) (tenantId : Nat) :
    ((rows.joined tenantId).map TenantFeatureOverrideOut.featureKey).Nodup := by
  have hscopes := h.overrides.scopes
  rw [List.filter_eq_self.2 fun _ _ => rfl, List.Nodup, List.pairwise_map] at hscopes
  rw [List.Nodup, List.pairwise_map, joined, List.pairwise_filterMap]
  refine (hscopes.filter _).imp_of_mem ?_
  intro a b ha hb hne out hout out' hout' hsame
  obtain ⟨key, hkey, rfl⟩ := Option.map_eq_some_iff.1 hout
  obtain ⟨key', hkey', rfl⟩ := Option.map_eq_some_iff.1 hout'
  have hkeys : key = key' := hsame
  have htenants : a.tenantId = b.tenantId :=
    (of_decide_eq_true (List.mem_filter.1 ha).2).trans (of_decide_eq_true (List.mem_filter.1 hb).2).symm
  exact hne (by rw [scopeOf, scopeOf, htenants, hkey, hkey', hkeys])

theorem Catalogued.overrides_eq_some (h : rows.Catalogued) {tenantId : Nat} {key : String} {enabled : Bool} :
    rows.overrides (tenantId, key) = some enabled ↔
      ∃ override ∈ rows.tenantFeatures, rows.scopeOf override = (tenantId, some key) ∧ override.enabled = enabled := by
  rw [FeatureRows.overrides, Option.map_eq_some_iff]
  constructor
  · rintro ⟨override, hrow, henabled⟩
    obtain ⟨hmem, hscope⟩ := mem_of_ofScope hrow
    exact ⟨override, hmem, hscope, henabled⟩
  · rintro ⟨override, hmem, hscope, henabled⟩
    exact ⟨override, (ofScope_eq_some h.overrides).2 ⟨hmem, hscope⟩, henabled⟩

end FeatureRows

/-! ### What the requests do -/

section
variable (env : FeatureEnv) {s : Session.State FeatureRows Unit}

theorem FeatureEnv.commit_fails (rows saved : FeatureRows) {tick : Nat} (hfails : env.commitFails tick = true) :
    env.commit ⟨rows, saved, (), tick⟩ = (.error .operationalError, ⟨saved, saved, (), tick + 1⟩) :=
  commit_error (if_pos hfails)

theorem FeatureEnv.commit_holds (rows saved : FeatureRows) {tick : Nat} (hholds : env.commitFails tick = false) :
    env.commit ⟨rows, saved, (), tick⟩ = (.ok (), ⟨rows, rows, (), tick + 1⟩) := commit_ok (if_neg (by simp [hholds]))

/-- The rows that a session works on when the catalog is there. -/
def seen (now : Time) (s : Session.State FeatureRows Unit) : Session.State FeatureRows Unit :=
  { s with work := s.work.ensureFeatureCatalog now }

theorem ensureFeatureCatalog_apply : env.ensureFeatureCatalog s = (.ok (), seen env.now s) := rfl

theorem getFeatureFlag_some {featureKey : String} {flag : FeatureFlag}
    (hflag : (seen env.now s).work.flag? (normalize featureKey) = some flag) :
    getFeatureFlag env featureKey s = (.ok flag, seen env.now s) := by
  unfold getFeatureFlag
  rw [bind_ok (ensureFeatureCatalog_apply env), bind_ok (read_apply _), hflag]
  rfl

theorem getFeatureFlag_none {featureKey : String} (hflag : (seen env.now s).work.flag? (normalize featureKey) = none) :
    getFeatureFlag env featureKey s = (.error (.httpException 404 "Feature flag not found"), seen env.now s) := by
  unfold getFeatureFlag
  rw [bind_ok (ensureFeatureCatalog_apply env), bind_ok (read_apply _), hflag]
  rfl

/-- An override is refused for want of the tenant, or written in its place in the map. -/
theorem saveOverride_cases (tenantId : Nat) {featureKey : String} {flag : FeatureFlag} (enabled : Bool)
    (h : s.work.Catalogued) (hflag : s.work.flag? (normalize featureKey) = some flag) :
    ((s.work.overrides (tenantId, normalize featureKey)).isSome = false ∧
      (env.db.tenant? tenantId).isSome = false ∧
      saveOverride env tenantId featureKey flag enabled s =
        (.error (.integrityError "tenant_features.tenant_id"), s)) ∨
    (((s.work.overrides (tenantId, normalize featureKey)).isSome ∨ (env.db.tenant? tenantId).isSome) ∧
      ∃ override rows, saveOverride env tenantId featureKey flag enabled s = (.ok override, { s with work := rows }) ∧
        rows.Catalogued ∧
        rows.overrides = Function.update s.work.overrides (tenantId, normalize featureKey) (some enabled) ∧
        override.tenantId = tenantId ∧ override.enabled = enabled) := by
  unfold saveOverride
  rw [bind_ok (read_apply s), FeatureRows.getTenantFeatureOverride_eq, FeatureRows.overrides_isSome]
  cases hold : ofScope s.work.scopeOf s.work.tenantFeatures (tenantId, some (normalize featureKey)) with
  | none =>
    let override : TenantFeature :=
      ⟨fresh s.work.tenantFeatures, tenantId, flag.id, enabled, env.now, env.now⟩
    have hscope : s.work.scopeOf override = (tenantId, some (normalize featureKey)) :=
      Prod.ext rfl (h.keyOf_flag hflag rfl)
    -- another row of the tenant and the flag would be in the map
    have hfree : ¬(s.work.tenantFeatures.any fun other => other.scope = override.scope) = true := by
      intro hany
      obtain ⟨other, hother, hsame⟩ := List.any_eq_true.1 hany
      obtain ⟨htenant, hfeature⟩ := Prod.mk.inj (of_decide_eq_true hsame)
      have hother' : s.work.scopeOf other = (tenantId, some (normalize featureKey)) := by
        rw [FeatureRows.scopeOf, htenant, h.keyOf_flag hflag hfeature]
      have hmem := (ofScope_isSome s.work.scopeOf s.work.tenantFeatures _).2 ⟨other, hother, hother'⟩
      rw [hold] at hmem
      cases hmem
    cases htenant : env.db.tenant? tenantId with
    | none =>
      refine Or.inl ⟨rfl, rfl, bind_error (body_error ?_)⟩
      rw [insertOverride, raiseIf, if_neg hfree, raiseIf, if_pos (by simp [htenant])]
      rfl
    | some tenant =>
      have hinsert : insertOverride env.db override s.work =
          .ok ((), { s.work with tenantFeatures := insert s.work.tenantFeatures override }) := by
        rw [insertOverride, raiseIf, if_neg hfree, raiseIf, if_neg (by simp [override, htenant])]
        rfl
      refine Or.inr ⟨Or.inr rfl, override, _, bind_ok (body_ok hinsert), ?_, ?_, rfl, rfl⟩
      · exact h.write (uniqueScope_insert h.overrides rfl (hscope ▸ hold))
      · refine FeatureRows.overrides_update (some override) ?_
        rw [ofScope_insert _ (hscope ▸ hold), hscope]
  | some old =>
    obtain ⟨hmem, hscope⟩ := mem_of_ofScope hold
    let override : TenantFeature := { old with
      enabled := enabled
      updatedAt := if old.enabled = enabled then old.updatedAt else env.now }
    have hscope' : s.work.scopeOf override = (tenantId, some (normalize featureKey)) := hscope
    refine Or.inr ⟨Or.inl rfl, override, _, bind_ok (modify_apply _ s), ?_, ?_, (Prod.mk.inj hscope).1, rfl⟩
    · exact h.write (h.overrides.put hmem rfl rfl rfl)
    · refine FeatureRows.overrides_update (some override) ?_
      have hwritten : ofScope s.work.scopeOf s.work.tenantFeatures (s.work.scopeOf override) = some old := by
        rw [hscope', hold]
      rw [ofScope_put h.overrides hwritten rfl, hscope']

theorem tenantHasFeature_eq (h : s.work.Kept) (tenantId : Nat) (featureKey : String) :
    tenantHasFeature env tenantId featureKey s =
      (.ok (s.work.overrides.allows env.db tenantId (normalize featureKey)), seen env.now s) := by
  obtain ⟨hseen, hsame⟩ := h.ensure env.now
  unfold tenantHasFeature
  rw [bind_ok (ensureFeatureCatalog_apply env), bind_ok (read_apply _), FeatureOverrides.allows, ← hsame,
    FeatureRows.overrides, FeatureRows.getTenantFeatureOverride_eq, normalize_normalize]
  dsimp only [seen]
  cases ofScope (s.work.ensureFeatureCatalog env.now).scopeOf (s.work.ensureFeatureCatalog env.now).tenantFeatures
    (tenantId, some (normalize featureKey)) with
  | some override => rfl
  | none =>
    dsimp only [Option.map_none, Option.getD_none]
    by_cases hplan : normalize featureKey ∈ PLAN_FEATURES (normalize (planSlug env.db tenantId))
    · rw [if_pos hplan, decide_eq_true hplan, Bool.true_or, pure_apply]
    · rw [if_neg hplan, decide_eq_false hplan, hseen.flag?_default, Bool.false_or, pure_apply]

/-- What is left of a request: its answer and the committed rows are as the map has them. -/
def FollowsOverrides (rows : FeatureRows) (arrival : FeatureArrival)
    (result : Except PyError FeatureAnswer × Session.State FeatureRows Unit) : Prop :=
  rows.overrides.Answers arrival.env arrival.request result.1 ∧ result.2.saved.Kept ∧
    result.2.saved.overrides = rows.overrides.step arrival

variable {rows : FeatureRows} (h : rows.Kept)
include h

/-- A request that ends with its commit, when the commit fails and when it holds. -/
theorem FollowsOverrides.commit {request : FeatureRequest} {answer : FeatureAnswer} {rows' : FeatureRows} {tick : Nat}
    (hfails : env.commitFails tick = true → rows.overrides.Answers env request (.error .operationalError) ∧
      rows.overrides = rows.overrides.step ⟨env, request⟩)
    (hholds : env.commitFails tick = false → rows.overrides.Answers env request (.ok answer) ∧
      rows'.Kept ∧ rows'.overrides = rows.overrides.step ⟨env, request⟩) :
    FollowsOverrides rows ⟨env, request⟩ ((env.commit >>= fun _ => pure answer) ⟨rows', rows, (), tick⟩) := by
  cases hcommit : env.commitFails tick with
  | true =>
    obtain ⟨hanswer, hsame⟩ := hfails hcommit
    rw [bind_error (env.commit_fails rows' rows hcommit)]
    exact ⟨hanswer, h, hsame⟩
  | false =>
    rw [bind_ok (env.commit_holds rows' rows hcommit)]
    exact hholds hcommit

theorem listFeatureFlags_follows : FollowsOverrides rows ⟨env, .flags⟩ (listFeatureFlags env (opened rows ())) := by
  obtain ⟨hseen, -⟩ := h.ensure env.now
  refine ⟨⟨_, rfl, ?_, fun flag hflag => ?_⟩, h, rfl⟩
  · exact ((List.mergeSort_perm ..).map FeatureFlag.key).trans hseen.registered
  · exact hseen.defaults flag ((List.mergeSort_perm ..).mem_iff.1 hflag)

theorem setTenantFeatureOverride_follows (tenantId : Nat) (featureKey : String) (enabled : Bool) :
    FollowsOverrides rows ⟨env, .put tenantId featureKey enabled⟩
      (setTenantFeatureOverride env tenantId featureKey enabled (opened rows ())) := by
  obtain ⟨hseen, hsame⟩ := h.ensure env.now
  have hregistered := hseen.flag?_isSome (normalize featureKey)
  have hrefused : ¬(rows.overrides.Settable env tenantId (normalize featureKey) ∧ env.commitFails 0 = false) →
      rows.overrides = rows.overrides.set env tenantId (normalize featureKey) enabled := fun hnot => by
    rw [FeatureOverrides.set, if_neg hnot]
  unfold setTenantFeatureOverride
  cases hflag : (rows.ensureFeatureCatalog env.now).flag? (normalize featureKey) with
  | none =>
    rw [hflag] at hregistered
    have hnot : normalize featureKey ∉ FEATURE_REGISTRY.map Prod.fst := fun hmem => by cases hregistered.2 hmem
    rw [bind_error (getFeatureFlag_none env (s := opened rows ()) hflag)]
    refine ⟨?_, h, hrefused fun hall => hnot hall.1.1⟩
    rw [FeatureOverrides.Answers, if_pos hnot]
  | some flag =>
    rw [hflag] at hregistered
    have hmem : normalize featureKey ∈ FEATURE_REGISTRY.map Prod.fst := hregistered.1 rfl
    have hsaves := saveOverride_cases env tenantId enabled (s := seen env.now (opened rows ())) hseen hflag
    rw [show (seen env.now (opened rows ())).work.overrides = rows.overrides from hsame] at hsaves
    rw [bind_ok (getFeatureFlag_some env (s := opened rows ()) hflag)]
    obtain ⟨hfree, hno, hsaves⟩ | ⟨hsome, override, rows', hsaves, hkept, hwritten, htenant, henabled⟩ := hsaves
    · have hnot : ¬rows.overrides.Settable env tenantId (normalize featureKey) := by
        rintro ⟨-, hsome | hsome⟩
        · rw [hfree] at hsome
          cases hsome
        · rw [hno] at hsome
          cases hsome
      rw [bind_error hsaves]
      refine ⟨?_, h, hrefused fun hall => hnot hall.1⟩
      rw [FeatureOverrides.Answers, if_neg (not_not.2 hmem), if_pos hnot]
    · have hsettable : rows.overrides.Settable env tenantId (normalize featureKey) := ⟨hmem, hsome⟩
      rw [bind_ok hsaves]
      show FollowsOverrides rows _ ((env.commit >>= fun _ => pure _) ⟨rows', rows, (), 0⟩)
      have hkey := (mem_of_ofScope (show ofScope FeatureFlag.key _ _ = _ from hflag)).2
      refine .commit env h (fun hfails => ⟨?_, ?_⟩) fun hholds => ⟨?_, Or.inr hkept, ?_⟩
      · rw [FeatureOverrides.Answers, if_neg (not_not.2 hmem), if_neg (not_not.2 hsettable), if_pos hfails]
      · exact hrefused fun hall => by rw [hfails] at hall; cases hall.2
      · rw [FeatureOverrides.Answers, if_neg (not_not.2 hmem), if_neg (not_not.2 hsettable),
          if_neg (by simp [hholds])]
        exact ⟨_, rfl, htenant, hkey, henabled⟩
      · show rows'.overrides = rows.overrides.set env tenantId (normalize featureKey) enabled
        rw [hwritten, FeatureOverrides.set, if_pos ⟨hsettable, hholds⟩]

theorem listTenantFeatureOverrides_follows (tenantId : Nat) :
    FollowsOverrides rows ⟨env, .overrides tenantId⟩ (listTenantFeatureOverrides env tenantId (opened rows ())) := by
  obtain ⟨hseen, hsame⟩ := h.ensure env.now
  refine ⟨⟨_, rfl, ?_, ?_, ?_⟩, h, rfl⟩
  · have hsorted := List.mergeSort_perm ((rows.ensureFeatureCatalog env.now).joined tenantId)
      fun a b => env.textLe a.featureKey b.featureKey
    exact (hsorted.map _).nodup_iff.2 (hseen.nodup_joined tenantId)
  · intro out hout
    obtain ⟨override, -, hscope, hrow⟩ := FeatureRows.mem_joined.1 ((List.mergeSort_perm ..).mem_iff.1 hout)
    rw [← hrow]
    exact (Prod.mk.inj hscope).1
  · intro key enabled
    rw [← hsame, hseen.overrides_eq_some]
    constructor
    · rintro ⟨out, hout, rfl, rfl⟩
      obtain ⟨override, hmem, hscope, hrow⟩ := FeatureRows.mem_joined.1 ((List.mergeSort_perm ..).mem_iff.1 hout)
      exact ⟨override, hmem, hscope, congrArg TenantFeatureOverrideOut.enabled hrow⟩
    · rintro ⟨override, hmem, hscope, rfl⟩
      refine ⟨override.out key, (List.mergeSort_perm ..).mem_iff.2 ?_, rfl, rfl⟩
      exact FeatureRows.mem_joined.2 ⟨override, hmem, hscope, rfl⟩

theorem removeTenantFeatureOverride_follows (tenantId : Nat) (featureKey : String) :
    FollowsOverrides rows ⟨env, .delete tenantId featureKey⟩
      (removeTenantFeatureOverride env tenantId featureKey (opened rows ())) := by
  have hsome := rows.overrides_isSome tenantId (normalize featureKey)
  unfold removeTenantFeatureOverride
  rw [bind_ok (read_apply _), show (opened rows ()).work = rows from rfl, FeatureRows.getTenantFeatureOverride_eq]
  cases hold : ofScope rows.scopeOf rows.tenantFeatures (tenantId, some (normalize featureKey)) with
  | none =>
    rw [hold] at hsome
    have hnone : rows.overrides (tenantId, normalize featureKey) = none := by simpa using hsome
    refine ⟨?_, h, ?_⟩
    · rw [FeatureOverrides.Answers, hnone, if_neg (by simp)]
      rfl
    · show rows.overrides = rows.overrides.unset env tenantId (normalize featureKey)
      rw [FeatureOverrides.unset, Function.update_eq_self_iff.2 hnone.symm, ite_self]
  | some override =>
    rw [hold] at hsome
    have hcatalogued : rows.Catalogued := h.resolve_left fun hnil => by
      rw [hnil] at hold
      cases hold
    have hkept := hcatalogued.write (uniqueScope_erase hcatalogued.overrides (Keyed.key override))
    have hwritten := FeatureRows.overrides_update none (ofScope_erase hcatalogued.overrides hold)
    show FollowsOverrides rows _ ((env.commit >>= fun _ => pure _)
      ⟨{ rows with tenantFeatures := erase rows.tenantFeatures (Keyed.key override) }, rows, (), 0⟩)
    refine .commit env h (fun hfails => ⟨?_, ?_⟩) fun hholds => ⟨?_, Or.inr hkept, hwritten.trans ?_⟩
    · rw [FeatureOverrides.Answers, if_pos ⟨hsome, hfails⟩]
    · show rows.overrides = rows.overrides.unset env tenantId (normalize featureKey)
      rw [FeatureOverrides.unset, if_pos hfails]
    · rw [FeatureOverrides.Answers, if_neg fun hall => by rw [hholds] at hall; cases hall.2]
    · show _ = rows.overrides.unset env tenantId (normalize featureKey)
      rw [FeatureOverrides.unset, if_neg (by simp [hholds])]
      rfl

omit h in
theorem ensureMembership_refused {db : Db} {tenant : Tenant} {user : User} {error : PyError}
    (h : (ensureMembership db tenant user).1 = .error error) : (ensureMembership db tenant user).2 = db := by
  unfold ensureMembership at h ⊢
  split
  · rfl
  · rename_i hadmin
    rw [if_neg hadmin] at h
    split
    · rfl
    · rename_i hmember
      rw [if_neg hmember] at h
      split
      · rename_i howner
        rw [if_pos howner] at h
        cases h
      · rfl

/-- The dependency answers by the overrides, and leaves a session that would commit no other overrides. -/
theorem requireFeature_eq (featureKey : String) (user : User) (tenantId : Nat) :
    ∃ rows' : FeatureRows, requireFeature env featureKey user tenantId (opened rows ()) =
      (rows.overrides.required env featureKey user tenantId,
        ⟨rows', rows, (), FeatureOverrides.commitsBefore env user tenantId⟩) ∧
      rows'.Kept ∧ rows'.overrides = rows.overrides := by
  obtain ⟨hseen, hsame⟩ := h.ensure env.now
  have hhas : ∀ tick, tenantHasFeature env tenantId (normalize featureKey) ⟨rows, rows, (), tick⟩ =
      (.ok (rows.overrides.allows env.db tenantId (normalize featureKey)),
        ⟨rows.ensureFeatureCatalog env.now, rows, (), tick⟩) := by
    intro tick
    have heq := tenantHasFeature_eq env (s := ⟨rows, rows, (), tick⟩) h tenantId (normalize featureKey)
    rwa [normalize_normalize] at heq
  unfold requireFeature FeatureOverrides.required FeatureOverrides.commitsBefore
  cases htenant : env.db.tenant? tenantId with
  | none => exact ⟨rows, rfl, h, rfl⟩
  | some tenant =>
    rw [Option.any_some]
    dsimp only
    cases hmember : (ensureMembership env.db tenant user).1 with
    | error error =>
      have hnone : env.addsMembership tenant user = false := by
        unfold FeatureEnv.addsMembership
        rw [ensureMembership_refused hmember]
        exact decide_eq_false (not_not.2 rfl)
      rw [hnone]
      exact ⟨rows, rfl, h, rfl⟩
    | ok done =>
      dsimp only
      cases hadds : env.addsMembership tenant user with
      | false =>
        refine ⟨rows.ensureFeatureCatalog env.now, ?_, Or.inr hseen, hsame⟩
        simp only [Bool.false_eq_true, if_false, false_and]
        show (tenantHasFeature env tenantId (normalize featureKey) >>= _) ⟨rows, rows, (), 0⟩ = _
        rw [bind_ok (hhas 0)]
        cases rows.overrides.allows env.db tenantId (normalize featureKey) <;> rfl
      | true =>
        cases hcommit : env.commitFails 0 with
        | true =>
          refine ⟨rows, ?_, h, rfl⟩
          rw [if_pos rfl, if_pos ⟨rfl, rfl⟩, if_pos rfl]
          exact bind_error (env.commit_fails rows rows hcommit)
        | false =>
          refine ⟨rows.ensureFeatureCatalog env.now, ?_, Or.inr hseen, hsame⟩
          rw [if_pos rfl, if_pos rfl]
          simp only [Bool.false_eq_true, and_false, if_false]
          rw [show (opened rows () : Session.State FeatureRows Unit) = ⟨rows, rows, (), 0⟩ from rfl,
            bind_ok (env.commit_holds rows rows hcommit), bind_ok (hhas 1)]
          cases rows.overrides.allows env.db tenantId (normalize featureKey) <;> rfl

theorem guardedEndpoint_follows (featureKey : String) (user : User) (tenantId : Nat) (commits : Bool) :
    FollowsOverrides rows ⟨env, .guarded featureKey user tenantId commits⟩
      (guardedEndpoint env featureKey user tenantId commits (opened rows ())) := by
  obtain ⟨rows', hrun, hkept, hsame⟩ := requireFeature_eq env h featureKey user tenantId
  unfold guardedEndpoint
  cases hrequired : rows.overrides.required env featureKey user tenantId with
  | error error =>
    rw [hrequired] at hrun
    rw [bind_error hrun]
    refine ⟨?_, h, rfl⟩
    rw [FeatureOverrides.Answers, FeatureOverrides.guard, hrequired]
  | ok answer =>
    rw [hrequired] at hrun
    rw [bind_ok hrun]
    cases commits with
    | false =>
      refine ⟨?_, h, rfl⟩
      rw [FeatureOverrides.Answers, FeatureOverrides.guard, hrequired]
      rfl
    | true =>
      show FollowsOverrides rows _ ((env.commit >>= fun _ => pure answer) ⟨rows', rows, (), _⟩)
      refine .commit env h (fun hfails => ⟨?_, rfl⟩) fun hholds => ⟨?_, hkept, hsame⟩
      · rw [FeatureOverrides.Answers, FeatureOverrides.guard, hrequired]
        exact (if_pos ⟨rfl, hfails⟩).symm
      · rw [FeatureOverrides.Answers, FeatureOverrides.guard, hrequired]
        exact (if_neg fun hall => by rw [hholds] at hall; cases hall.2).symm

omit h in
theorem answer_follows (h : rows.Kept) (arrival : FeatureArrival) :
    FollowsOverrides rows arrival (rows.answer arrival) := by
  obtain ⟨env, request⟩ := arrival
  cases request with
  | flags => exact listFeatureFlags_follows env h
  | overrides tenantId => exact listTenantFeatureOverrides_follows env h tenantId
  | put tenantId featureKey enabled => exact setTenantFeatureOverride_follows env h tenantId featureKey enabled
  | delete tenantId featureKey => exact removeTenantFeatureOverride_follows env h tenantId featureKey
  | guarded featureKey user tenantId commits => exact guardedEndpoint_follows env h featureKey user tenantId commits

end

/-- **The overrides decide, in every run.**  From empty tables or a catalog, and after any requests, every request is
answered as the map of the overrides has it, the map being what the requests before it made of it. -/
theorem features_follow_overrides {rows : FeatureRows} (h : rows.Kept) (arrivals : List FeatureArrival)
    (arrival : FeatureArrival) :
    (run FeatureRows.step rows arrivals).Kept ∧
      (run FeatureRows.step rows arrivals).overrides = run FeatureOverrides.step rows.overrides arrivals ∧
      (run FeatureOverrides.step rows.overrides arrivals).Answers arrival.env arrival.request
        ((run FeatureRows.step rows arrivals).answer arrival).1 := by
  induction arrivals generalizing rows with
  | nil => exact ⟨h, rfl, (answer_follows h arrival).1⟩
  | cons first arrivals ih =>
    obtain ⟨-, hkept, hstep⟩ := answer_follows h first
    have hnext := ih hkept
    rw [hstep] at hnext
    exact hnext

namespace Small

def featureEnv : FeatureEnv where
  db := (after [createTenant]).db
  now := 2000
  commitFails _ := false
  textLe a b := decide (a ≤ b)

/-- A tenant gets a feature its plan does not have; a commit fails when it is taken back. -/
def overridden : List FeatureArrival :=
  [⟨featureEnv, .put 1 " Daily_Backup" true⟩, ⟨featureEnv, .put 7 "sso_login" true⟩,
    ⟨{ featureEnv with commitFails := fun _ => true }, .delete 1 "daily_backup"⟩]

def guardedByOwner : FeatureArrival :=
  ⟨featureEnv, .guarded "daily_backup" ⟨1, "owner@example.com", false, true⟩ 1 true⟩

theorem override_decides :
    ((run FeatureRows.step ⟨[], []⟩ overridden).answer guardedByOwner).1 = .ok (.allowed 1) :=
  (features_follow_overrides (Or.inl rfl) overridden guardedByOwner).2.2.trans (by decide +kernel)

end Small

end ControlPlane
