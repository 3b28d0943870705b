import ControlPlane.Preserved
import ControlPlane.Tenant.PlanUpdate
import ControlPlane.Text

/-!
# Plan changes

A change that is granted writes the app of the new plan and leaves the old plan.  So it is what it says, and leaves a plan
and an app that belong together, as long as it stays on the tenant's plan; and there it has to name an app that the plan
selects, which it does not check either.
-/

namespace ControlPlane

open Table Session Session.Proc Runs

/-! ### Apps of a plan -/

theorem validateAppName_ok {appName app : String} (h : validateAppName appName = .ok app) :
    app = normalize appName ∧ app ∈ "erpnext" :: businessApps := by
  unfold validateAppName at h
  generalize normalize appName = cleaned at h ⊢
  dsimp only at h
  by_cases hpattern : ¬matchesAppPattern cleaned
  · rw [if_pos hpattern] at h
    cases h
  · rw [if_neg hpattern] at h
    by_cases hmem : cleaned ∉ "erpnext" :: businessApps
    · rw [if_pos hmem] at h
      cases h
    · rw [if_neg hmem] at h
      obtain rfl := Except.ok.inj h
      exact ⟨rfl, Decidable.not_not.1 hmem⟩

/-- A name on the list is a valid one as it stands. -/
theorem validateAppName_of_mem {app : String} (h : app ∈ "erpnext" :: businessApps) :
    validateAppName app = .ok app ∧ normalize app = app ∧ app ≠ "" := by
  have hall : ∀ app ∈ "erpnext" :: businessApps,
      validateAppName app = .ok app ∧ normalize app = app ∧ app ≠ "" := by decide +kernel
  exact hall app h

theorem orText_none_eq_some {text : Option String} {t : String} : orText text none = some t ↔ text = some t ∧ t ≠ "" := by
  unfold orText
  cases text with
  | none => simp
  | some t' =>
    by_cases h : t' = ""
    · simp only [h, if_true, Option.some.injEq]
      constructor
      · intro hnone
        cases hnone
      · rintro ⟨rfl, hne⟩
        exact absurd rfl hne
    · simp only [h, if_false, Option.some.injEq]
      constructor
      · rintro rfl
        exact ⟨rfl, h⟩
      · exact fun hand => hand.1

/-- The first of two texts that is not empty. -/
theorem orText_or {a b : Option String} {t : String} (h : orText (orText a b) none = some t) :
    orText a none = some t ∨ (orText a none = none ∧ orText b none = some t) := by
  cases ha : orText a none with
  | some t' =>
    obtain ⟨rfl, hne⟩ := orText_none_eq_some.1 ha
    have hfirst : orText (some t') b = some t' := if_neg hne
    rw [hfirst, ha] at h
    exact Or.inl h
  | none =>
    refine Or.inr ⟨rfl, ?_⟩
    have hsecond : orText a b = b := by
      cases a with
      | none => rfl
      | some t' =>
        by_cases hempty : t' = ""
        · exact if_pos hempty
        · cases (if_neg hempty : orText (some t') none = some t').symm.trans ha
    rw [hsecond] at h
    exact h

/-- Without an app a plan passes unless it is the business plan. -/
theorem selected_none {plan : Plan} (h : normalize plan.slug ≠ "business") :
    validateSelectedAppForPlan plan none = .ok none := by
  unfold validateSelectedAppForPlan orText
  exact if_neg h

theorem selected_business {plan : Plan} {app : String} (hslug : normalize plan.slug = "business")
    (happ : app ∈ "erpnext" :: businessApps) (h : plan.selects app) :
    validateSelectedAppForPlan plan (some app) = .ok (some app) := by
  obtain ⟨hvalid, -, hne⟩ := validateAppName_of_mem happ
  have hstarter : normalize plan.slug ≠ "starter" := by
    rw [hslug]
    decide
  unfold validateSelectedAppForPlan
  rw [orText_none_eq_some.2 ⟨rfl, hne⟩]
  dsimp only
  rw [if_neg hstarter, if_pos hslug, hvalid]
  unfold Plan.selects at h
  dsimp only at h
  generalize (plan.entitlements.filter PlanEntitlement.selectable).map PlanEntitlement.appSlug = selectable at h ⊢
  have hfirst : ¬(selectable ≠ [] ∧ app ∉ selectable) := by
    rintro ⟨hsome, hnot⟩
    rcases h with hmem | ⟨hempty, -⟩
    · exact hnot hmem
    · exact hsome hempty
  have hsecond : ¬(selectable = [] ∧ app ∉ businessApps) := by
    rintro ⟨hempty, hnot⟩
    rcases h with hmem | ⟨-, hmem⟩
    · rw [hempty] at hmem
      cases hmem
    · exact hnot hmem
  refine bind_eq_ok.2 ⟨app, rfl, ?_⟩
  rw [if_neg hfirst, if_neg hsecond]
  rfl

/-- What a plan selects with an app, case by case. -/
theorem selected_some {plan : Plan} {app : String} {selected : Option String} (hne : app ≠ "")
    (h : validateSelectedAppForPlan plan (some app) = .ok selected) :
    selected = some (normalize app) ∧ normalize app ∈ "erpnext" :: businessApps ∧ normalize plan.slug ≠ "starter" ∧
      (normalize plan.slug = "business" → plan.selects (normalize app)) := by
  unfold validateSelectedAppForPlan at h
  rw [orText_none_eq_some.2 ⟨rfl, hne⟩] at h
  dsimp only at h
  by_cases hstarter : normalize plan.slug = "starter"
  · rw [if_pos hstarter] at h
    cases h
  · rw [if_neg hstarter] at h
    by_cases hbusiness : normalize plan.slug = "business"
    · rw [if_pos hbusiness] at h
      obtain ⟨cleaned, hcleaned, h⟩ := bind_eq_ok.1 h
      obtain ⟨rfl, hmem⟩ := validateAppName_ok (asUnprocessable_ok hcleaned)
      unfold Plan.selects
      dsimp only
      generalize (plan.entitlements.filter PlanEntitlement.selectable).map PlanEntitlement.appSlug = selectable at h ⊢
      by_cases hfirst : selectable ≠ [] ∧ normalize app ∉ selectable
      · rw [if_pos hfirst] at h
        cases h
      · rw [if_neg hfirst] at h
        by_cases hsecond : selectable = [] ∧ normalize app ∉ businessApps
        · rw [if_pos hsecond] at h
          cases h
        · rw [if_neg hsecond] at h
          refine ⟨(Except.ok.inj h).symm, hmem, hstarter, fun _ => ?_⟩
          by_cases hempty : selectable = []
          · exact Or.inr ⟨hempty, by_contra fun hnot => hsecond ⟨hempty, hnot⟩⟩
          · exact Or.inl (by_contra fun hnot => hfirst ⟨hempty, hnot⟩)
    · rw [if_neg hbusiness] at h
      cases hvalid : asUnprocessable (validateAppName app) with
      | error e => rw [hvalid] at h; cases h
      | ok cleaned =>
        obtain ⟨rfl, hmem⟩ := validateAppName_ok (asUnprocessable_ok hvalid)
        rw [hvalid] at h
        exact ⟨(Except.ok.inj h).symm, hmem, hstarter, fun hb => absurd hb hbusiness⟩

/-- Without an app a plan passes unless it is the business plan, and selects none. -/
theorem selected_of_none {plan : Plan} {app selected : Option String} (hnone : orText app none = none)
    (h : validateSelectedAppForPlan plan app = .ok selected) :
    selected = none ∧ normalize plan.slug ≠ "business" := by
  unfold validateSelectedAppForPlan at h
  rw [hnone] at h
  dsimp only at h
  by_cases hbusiness : normalize plan.slug = "business"
  · rw [if_pos hbusiness] at h
    cases h
  · rw [if_neg hbusiness] at h
    exact ⟨(Except.ok.inj h).symm, hbusiness⟩

theorem selected_other {plan : Plan} {app : String} (hstarter : normalize plan.slug ≠ "starter")
    (hbusiness : normalize plan.slug ≠ "business") (happ : app ∈ "erpnext" :: businessApps) :
    validateSelectedAppForPlan plan (some app) = .ok (some app) := by
  obtain ⟨hvalid, -, hne⟩ := validateAppName_of_mem happ
  unfold validateSelectedAppForPlan
  rw [orText_none_eq_some.2 ⟨rfl, hne⟩]
  dsimp only
  rw [if_neg hstarter, if_neg hbusiness, hvalid]
  rfl

/-- What a plan has passed it passes again. -/
theorem selected_again {plan : Plan} {app selected : Option String}
    (h : validateSelectedAppForPlan plan app = .ok selected) :
    validateSelectedAppForPlan plan (orText selected none) = .ok selected := by
  cases happ : orText app none with
  | none =>
    obtain ⟨rfl, hbusiness⟩ := selected_of_none happ h
    exact selected_none hbusiness
  | some a =>
    obtain ⟨rfl, hne⟩ := orText_none_eq_some.1 happ
    obtain ⟨rfl, hmem, hstarter, hselects⟩ := selected_some hne h
    have hcleaned := (validateAppName_of_mem hmem).2.2
    rw [orText_none_eq_some.2 ⟨rfl, hcleaned⟩]
    by_cases hbusiness : normalize plan.slug = "business"
    · exact selected_business hbusiness hmem (hselects hbusiness)
    · exact selected_other hstarter hbusiness hmem

/-! ### What is granted -/

/-- A granted plan is the one that was asked for, or the one that is there.  An app comes with the business plan only. -/
theorem grantedPlan_ok {allowedPlans : List String} {tenant : Tenant} {plan chosenApp : Option String} {db : Db}
    {newPlan : String} {newChosenApp : Option String}
    (h : grantedPlan allowedPlans tenant plan chosenApp db = .ok (newPlan, newChosenApp)) :
    newPlan = normalize ((orText plan none).getD (tenantPlan db tenant.id)) ∧
      ((newPlan = "business" ∧ ∃ requested, orText (orText chosenApp (tenantChosenApp db tenant.id)) none = some requested ∧
          newChosenApp = some (normalize requested) ∧ normalize requested ∈ "erpnext" :: businessApps) ∨
        (newPlan ≠ "business" ∧ newChosenApp = none ∧ orText chosenApp none = none)) := by
  obtain ⟨u, -, h⟩ := bind_eq_ok.1 h
  obtain ⟨u', -, h⟩ := bind_eq_ok.1 h
  unfold validatePlanChange at h
  generalize normalize ((orText plan none).getD (tenantPlan db tenant.id)) = cleaned at h ⊢
  obtain ⟨u'', -, h⟩ := bind_eq_ok.1 h
  by_cases hbusiness : cleaned = "business"
  · rw [if_pos hbusiness] at h
    cases hrequested : orText (orText chosenApp (tenantChosenApp db tenant.id)) none with
    | none => rw [hrequested] at h; cases h
    | some requested =>
      rw [hrequested] at h
      obtain ⟨app, happ, h⟩ := bind_eq_ok.1 h
      obtain ⟨rfl, hmem⟩ := validateAppName_ok (asUnprocessable_ok happ)
      have heq := Except.ok.inj h
      obtain rfl := congrArg Prod.fst heq
      obtain rfl := congrArg Prod.snd heq
      exact ⟨rfl, Or.inl ⟨hbusiness, requested, rfl, rfl, hmem⟩⟩
  · rw [if_neg hbusiness] at h
    obtain ⟨v, hnone, h⟩ := bind_eq_ok.1 h
    have heq := Except.ok.inj h
    obtain rfl := congrArg Prod.fst heq
    obtain rfl := congrArg Prod.snd heq
    exact ⟨rfl, Or.inr ⟨hbusiness, rfl, Decidable.not_not.1 (raiseIf_eq_ok.1 hnone)⟩⟩

/-! ### Rows -/

/-- Every tenant's plan and app belong together, in rows with the keys of the tables. -/
structure PlansAgree (db : Db) : Prop where
  rows : PlanRows db
  agrees : ∀ tenantId, PlanAgrees db tenantId

theorem PlansAgree.congr {db db' : Db} (h : PlansAgree db) (hsubscriptions : db'.subscriptions = db.subscriptions)
    (hplans : db'.plans = db.plans) : PlansAgree db' := by
  have hof : ∀ t, db'.subscriptionOf t = db.subscriptionOf t := subscriptionOf_congr hsubscriptions
  refine ⟨⟨h.rows.subscriptions.congr hsubscriptions, hplans ▸ h.rows.plans⟩, fun t s hs => ?_⟩
  rw [hof] at hs
  obtain ⟨p, app, hp, happ⟩ := h.agrees t s hs
  refine ⟨p, app, ?_, ?_⟩
  · unfold Db.planOf
    rw [hplans]
    exact hp
  · unfold tenantChosenApp
    rw [hof]
    exact happ

/-- A row whose app passes its plan is written. -/
theorem PlansAgree.written {db db' : Db} {tenantId : Nat} {row : Subscription} {p : Plan} {app : Option String}
    (h : PlansAgree db) (hwritten : SubscriptionWritten db db' tenantId row) (hplans : db'.plans = db.plans)
    (hp : db.planOf row = some p) (happ : validateSelectedAppForPlan p (orText row.selectedApp none) = .ok app) :
    PlansAgree db' := by
  refine ⟨⟨hwritten.unique h.rows.subscriptions, hplans ▸ h.rows.plans⟩, fun t s hs => ?_⟩
  by_cases ht : t = tenantId
  · subst ht
    rw [hwritten.self] at hs
    obtain rfl := Option.some.inj hs
    refine ⟨p, app, ?_, ?_⟩
    · unfold Db.planOf at hp ⊢
      rw [hplans]
      exact hp
    · unfold tenantChosenApp
      rw [hwritten.self]
      exact happ
  · rw [hwritten.other h.rows.subscriptions.ids ht] at hs
    obtain ⟨p', app', hp', happ'⟩ := h.agrees t s hs
    refine ⟨p', app', ?_, ?_⟩
    · unfold Db.planOf at hp' ⊢
      rw [hplans]
      exact hp'
    · unfold tenantChosenApp at happ' ⊢
      rw [hwritten.other h.rows.subscriptions.ids ht]
      exact happ'

theorem setTenantChosenApp_written {db : Db} {tenantId : Nat} {s : Subscription} (h : db.subscriptionOf tenantId = some s)
    (chosenApp : Option String) :
    SubscriptionWritten db (setTenantChosenApp tenantId chosenApp db) tenantId { s with selectedApp := chosenApp } := by
  have htenant : s.tenantId = tenantId := tenantId_of_subscriptionOf h
  refine ⟨htenant, Or.inl ⟨s, h, rfl, ?_⟩⟩
  unfold setTenantChosenApp
  rw [h]
  rfl

/-! ### The change -/

theorem tenantPlan_of_row {db : Db} {tenantId : Nat} {s : Subscription} {p : Plan}
    (hs : db.subscriptionOf tenantId = some s) (hp : db.planOf s = some p) : tenantPlan db tenantId = p.slug := by
  unfold tenantPlan
  rw [hs, Option.bind_some, hp]
  rfl

/-- A granted plan that stays on the tenant's plan is that plan. -/
theorem granted_own {plan : Option String} {slug : String}
    (hstays : ∀ text, orText plan none = some text → normalize text = slug) :
    normalize ((orText plan none).getD slug) = normalize slug := by
  cases hplan : orText plan none with
  | none => rfl
  | some text => rw [Option.getD_some, ← hstays text hplan, normalize_normalize]

/-- A granted app passes the plan that the tenant has, if the request stays on it. -/
theorem granted_selected {allowedPlans : List String} {tenant : Tenant} {plan chosenApp : Option String} {db : Db}
    {newPlan : String} {newChosenApp : Option String} {p : Plan}
    (hgranted : grantedPlan allowedPlans tenant plan chosenApp db = .ok (newPlan, newChosenApp))
    (hslug : tenantPlan db tenant.id = p.slug)
    (hcurrent : ∃ app, validateSelectedAppForPlan p (tenantChosenApp db tenant.id) = .ok app)
    (hplan : ∀ text, orText plan none = some text → normalize text = p.slug)
    (happ : ∀ app, orText chosenApp none = some app → normalize p.slug = "business" → p.selects (normalize app)) :
    ∃ app, validateSelectedAppForPlan p (orText newChosenApp none) = .ok app := by
  obtain ⟨hnew, hcases⟩ := grantedPlan_ok hgranted
  rw [hslug, granted_own hplan] at hnew
  rcases hcases with ⟨hbusiness, requested, hrequested, rfl, hmem⟩ | ⟨hother, rfl, -⟩
  · have hp : normalize p.slug = "business" := hnew.symm.trans hbusiness
    have hselects : p.selects (normalize requested) := by
      rcases orText_or hrequested with hasked | ⟨-, hkept⟩
      · exact happ requested hasked hp
      · -- the app the tenant has was selected on the plan
        obtain ⟨selected, hselected⟩ := hcurrent
        obtain ⟨hsome, hne⟩ := orText_none_eq_some.1 hkept
        rw [hsome] at hselected
        exact (selected_some hne hselected).2.2.2 hp
    rw [orText_none_eq_some.2 ⟨rfl, (validateAppName_of_mem hmem).2.2⟩]
    exact ⟨_, selected_business hp hmem hselects⟩
  · have hp : normalize p.slug ≠ "business" := fun h => hother (hnew.trans h)
    exact ⟨none, selected_none hp⟩

/-- A granted change that stays on the plan leaves plans and apps that belong together. -/
theorem PlansAgree.changed {allowedPlans : List String} {tenant : Tenant} {plan chosenApp : Option String} {db : Db}
    {newPlan : String} {newChosenApp : Option String} (h : PlansAgree db)
    (hgranted : grantedPlan allowedPlans tenant plan chosenApp db = .ok (newPlan, newChosenApp))
    (hstays : ∀ s p, db.subscriptionOf tenant.id = some s → db.planOf s = some p →
      (∀ text, orText plan none = some text → normalize text = p.slug) ∧
      ∀ app, orText chosenApp none = some app → normalize p.slug = "business" → p.selects (normalize app)) :
    PlansAgree (setTenantChosenApp tenant.id newChosenApp db) := by
  cases hs : db.subscriptionOf tenant.id with
  | none =>
    unfold setTenantChosenApp
    rw [hs]
    exact h
  | some s =>
    obtain ⟨p, app, hp, hselected⟩ := h.agrees tenant.id s hs
    obtain ⟨hplan, happ⟩ := hstays s p hs hp
    obtain ⟨app', happ'⟩ := granted_selected hgranted (tenantPlan_of_row hs hp) ⟨app, hselected⟩ hplan happ
    have hplans : (setTenantChosenApp tenant.id newChosenApp db).plans = db.plans := by
      unfold setTenantChosenApp
      rw [hs]
      rfl
    exact h.written (setTenantChosenApp_written hs newChosenApp) hplans hp happ'

/-- What a tenant with a subscription reads after a granted change: its plan is the old one, its app the granted one. -/
theorem read_changed {db db' : Db} {tenantId : Nat} {s : Subscription} {newChosenApp : Option String}
    (hs : db.subscriptionOf tenantId = some s)
    (hsubscriptions : db'.subscriptions = (setTenantChosenApp tenantId newChosenApp db).subscriptions)
    (hplans : db'.plans = db.plans) :
    tenantPlan db' tenantId = tenantPlan db tenantId ∧ tenantChosenApp db' tenantId = orText newChosenApp none := by
  have hrow : db'.subscriptionOf tenantId = some { s with selectedApp := newChosenApp } := by
    rw [subscriptionOf_congr hsubscriptions]
    exact (setTenantChosenApp_written hs newChosenApp).self
  constructor
  · unfold tenantPlan Db.planOf
    rw [hrow, hs, hplans]
    rfl
  · unfold tenantChosenApp
    rw [hrow]
    rfl

/-- Of an accepted app it says what was asked for. -/
theorem granted_app {allowedPlans : List String} {tenant : Tenant} {plan chosenApp : Option String} {db : Db}
    {newPlan app : String} {newChosenApp : Option String}
    (hgranted : grantedPlan allowedPlans tenant plan chosenApp db = .ok (newPlan, newChosenApp))
    (happ : orText chosenApp none = some app) : orText newChosenApp none = some (normalize app) := by
  obtain ⟨-, ⟨-, requested, hrequested, rfl, hmem⟩ | ⟨-, -, hnone⟩⟩ := grantedPlan_ok hgranted
  · rcases orText_or hrequested with hasked | ⟨hnot, -⟩
    · obtain rfl := Option.some.inj (hasked.symm.trans happ)
      exact orText_none_eq_some.2 ⟨rfl, (validateAppName_of_mem hmem).2.2⟩
    · cases hnot.symm.trans happ
  · cases hnone.symm.trans happ

/-! ### The program of a change -/

/-- The rows have these subscriptions and plans. -/
def PlanTables (subscriptions : List Subscription) (plans : List Plan) (db : Db) : Prop :=
  db.subscriptions = subscriptions ∧ db.plans = plans

/-- Subscriptions, plans and tenants are those of `db`. -/
def SamePlans (db db' : Db) : Prop := PlanTables db.subscriptions db.plans db' ∧ db'.tenants = db.tenants

theorem planTables_frame (subscriptions : List Subscription) (plans : List Plan) :
    Frame (fun _ => True) (PlanTables subscriptions plans) fun _ => True where
  core db db' hcore h := by
    have hsubscriptions : db'.core.subscriptions = db.core.subscriptions := congrArg Db.subscriptions hcore
    have hplans : db'.core.plans = db.core.plans := congrArg Db.plans hcore
    exact ⟨hsubscriptions.trans h.1, hplans.trans h.2⟩
  flush _ _ _ _ h := h
  queue _ _ _ _ := trivial

theorem SamePlans.flush {db saved work : Db} (now : Time) (hsaved : SamePlans db saved) (hwork : SamePlans db work) :
    SamePlans db (Db.flush now saved work) := by
  refine ⟨hwork.1, ?_⟩
  have htenants : work.tenants = saved.tenants := hwork.2.trans hsaved.2.symm
  rw [Db.tenants_flush_of_eq htenants]
  exact hwork.2

theorem keeps_ensureTenantMembership (db : Db) (env : Env) (tenant : Tenant) (user : User) :
    Keeps (OnRows (SamePlans db)) (ensureTenantMembership env tenant user) := by
  unfold ensureTenantMembership
  split
  · exact .pure _
  · refine .bind .read fun rows => ?_
    split
    · exact .pure _
    · split
      · exact .bind (.modify fun _ h => h) fun _ => .bind (.commit fun _ _ _ hs hw => hs.flush _ hw) fun _ => .pure _
      · exact .raise _

theorem keeps_requireRole (db : Db) (env : Env) (tenant : Tenant) (user : User) (roles : List TenantRole) :
    Keeps (OnRows (SamePlans db)) (requireRole env tenant user roles) := by
  refine .bind (keeps_ensureTenantMembership db env tenant user) fun membership => ?_
  cases membership with
  | none => exact .pure _
  | some membership =>
    dsimp only
    split
    · exact .pure _
    · exact .raise _

/-- The tenant a request opens is the one of the committed rows. -/
theorem getAccessibleTenant_same (db : Db) (env : Env) (tenantId : Nat) (user : User) :
    Triple (OnRows (SamePlans db)) (getAccessibleTenant env tenantId user)
      (fun tenant s => OnRows (SamePlans db) s ∧ db.tenant? tenantId = some tenant) (OnRows (SamePlans db)) := by
  refine Triple.bind (R := fun tenant s => OnRows (SamePlans db) s ∧ db.tenant? tenantId = some tenant)
    (fun s hs => ?_) fun tenant => ?_
  · rw [change_apply]
    cases hread : requireTenant s.work tenantId with
    | error e => exact hs
    | ok tenant =>
      refine ⟨hs, ?_⟩
      have hrow := requireTenant_ok hread
      unfold Db.tenant? at hrow ⊢
      rw [← hs.1.2]
      exact hrow
  · refine Triple.of_fact fun htenant => Triple.bind (keeps_ensureTenantMembership db env tenant user) fun _ => ?_
    exact fun s hs => ⟨hs, htenant⟩

/-- A change of the tenant's plan that was granted on the rows `db`. -/
def PlanGranted (allowedPlans : List String) (tenantId : Nat) (plan chosenApp : Option String) (db db' : Db) : Prop :=
  ∃ tenant newPlan newChosenApp, db.tenant? tenantId = some tenant ∧
    grantedPlan allowedPlans tenant plan chosenApp db = .ok (newPlan, newChosenApp) ∧
    PlanTables (setTenantChosenApp tenant.id newChosenApp db).subscriptions db.plans db'

section
variable {allowedPlans : List String} {tenant : Tenant} {plan chosenApp : Option String} {db db' : Db}

theorem grantedPlan_congr (h : SamePlans db db') :
    grantedPlan allowedPlans tenant plan chosenApp db' = grantedPlan allowedPlans tenant plan chosenApp db := by
  unfold grantedPlan tenantPlan tenantChosenApp Db.planOf
  rw [subscriptionOf_congr h.1.1, h.1.2]

theorem setTenantChosenApp_congr (h : SamePlans db db') (t : Nat) (app : Option String) :
    (setTenantChosenApp t app db').subscriptions = (setTenantChosenApp t app db).subscriptions := by
  unfold setTenantChosenApp
  rw [subscriptionOf_congr h.1.1]
  cases db.subscriptionOf t with
  | none => exact h.1.1
  | some s =>
    show put db'.subscriptions _ = put db.subscriptions _
    rw [h.1.1]

theorem planGranted_frame (allowedPlans : List String) (tenantId : Nat) (plan chosenApp : Option String) (db : Db) :
    Frame (fun _ => True) (PlanGranted allowedPlans tenantId plan chosenApp db) fun _ => True where
  core rows rows' hcore h := by
    obtain ⟨tenant, newPlan, newChosenApp, htenant, hgranted, htables⟩ := h
    exact ⟨tenant, newPlan, newChosenApp, htenant, hgranted, (planTables_frame _ _).core rows rows' hcore htables⟩
  flush _ _ _ _ h := h
  queue _ _ _ _ := trivial

theorem setTenantChosenApp_plans (t : Nat) (app : Option String) : (setTenantChosenApp t app db).plans = db.plans := by
  unfold setTenantChosenApp
  split
  · rfl
  · rfl

end

/-- A request that returns has changed the rows as it was granted, and one that raises has changed them so or not at
all. -/
theorem updateTenant_ends (env : Env) (allowedPlans : List String) (userId tenantId : Nat) (plan chosenApp : Option String)
    (db : Db) :
    Triple (OnRows (SamePlans db)) (updateTenant env allowedPlans userId tenantId plan chosenApp)
      (fun _ s => PlanGranted allowedPlans tenantId plan chosenApp db s.saved)
      (fun s => SamePlans db s.saved ∨ PlanGranted allowedPlans tenantId plan chosenApp db s.saved) := by
  have hraised : ∀ s : DbSession, OnRows (SamePlans db) s →
      SamePlans db s.saved ∨ PlanGranted allowedPlans tenantId plan chosenApp db s.saved := fun s hs => Or.inl hs.2.1
  refine Triple.bind (R := fun _ => OnRows (SamePlans db)) ?_ fun user => ?_
  · refine Triple.conseq (keeps_change (J := SamePlans db) fun _ rows user rows' h hr => ?_) (fun _ h => h)
      (fun _ _ h => h) hraised
    obtain ⟨user', -, hr⟩ := bind_eq_ok.1 hr
    cases hr
    exact h
  refine Triple.bind (Triple.conseq (getAccessibleTenant_same db env tenantId user) (fun _ h => h) (fun _ _ h => h) hraised)
    fun tenant => ?_
  refine Triple.of_fact fun htenant => ?_
  refine Triple.bind (Triple.conseq (keeps_requireRole db env tenant user tenantRoleCanManageBilling) (fun _ h => h)
    (fun _ _ h => h) hraised) fun _ => ?_
  -- the change and its commit
  refine Triple.bind (R := fun _ s => SamePlans db s.saved ∧ PlanGranted allowedPlans tenantId plan chosenApp db s.work)
    (fun s hs => ?_) fun _ => ?_
  · rw [change_apply]
    cases hchange : changePlan allowedPlans tenant plan chosenApp s.work with
    | error e => exact hraised s hs
    | ok r =>
      obtain ⟨u, rows⟩ := r
      obtain ⟨⟨newPlan, newChosenApp⟩, hgranted, hr⟩ := bind_eq_ok.1 hchange
      cases hr
      rw [grantedPlan_congr hs.1] at hgranted
      refine ⟨hs.2.1, tenant, newPlan, newChosenApp, htenant, hgranted, setTenantChosenApp_congr hs.1 _ _, ?_⟩
      show (setTenantChosenApp tenant.id newChosenApp s.work).plans = db.plans
      rw [setTenantChosenApp_plans]
      exact hs.1.1.2
  · refine Triple.bind (R := fun _ => OnRows (PlanGranted allowedPlans tenantId plan chosenApp db))
      (Triple.commit (fun s hs _ => ⟨hs.2, hs.2, trivial⟩) fun s hs => Or.inl hs.1) fun _ => ?_
    refine Triple.conseq (Bookkeeping.recordAuditEvent env _ _ _ _ _ (planGranted_frame allowedPlans tenantId plan chosenApp
      db)) (fun _ h => h) (fun _ _ h => h.2.1) fun _ h => Or.inr h.2.1

/-! ### The program of a creation -/

/-- The plan is in the table, and the app is one that it passes. -/
structure Chosen (p : Plan) (app : Option String) (db : Db) : Prop where
  agree : PlansAgree db
  plan : get? db.plans p.id = some p
  app : ∃ selected, validateSelectedAppForPlan p (orText app none) = .ok selected

section
variable {db db' : Db} {p : Plan} {app : Option String}

theorem Chosen.congr (h : Chosen p app db) (hsubscriptions : db'.subscriptions = db.subscriptions)
    (hplans : db'.plans = db.plans) : Chosen p app db' :=
  ⟨h.agree.congr hsubscriptions hplans, hplans ▸ h.plan, h.app⟩

/-- Without plans nobody has a subscription, so the default catalogue may be put in. -/
theorem PlansAgree.catalog (h : PlansAgree db) : PlansAgree (ensureDefaultPlanCatalog db) := by
  unfold ensureDefaultPlanCatalog
  split
  · rename_i hplans
    have hids : (defaultPlanCatalog.map Plan.id).Nodup := by decide
    refine ⟨⟨h.rows.subscriptions.congr rfl, hids⟩, fun t s hs => ?_⟩
    obtain ⟨p, app, hp, -⟩ := h.agrees t s hs
    unfold Db.planOf at hp
    rw [hplans] at hp
    cases hp
  · exact h

theorem requirePlanBySlug_found {slug : String} (h : PlansAgree db) (hr : requirePlanBySlug db slug = .ok (p, db')) :
    PlansAgree db' ∧ get? db'.plans p.id = some p := by
  have hcatalog := h.catalog
  unfold requirePlanBySlug at hr
  generalize ensureDefaultPlanCatalog db = rows at hr hcatalog
  dsimp only at hr
  split at hr
  · rename_i plan hplan
    cases hr
    exact ⟨hcatalog, get?_of_mem hcatalog.rows.plans (List.mem_of_find?_eq_some hplan)⟩
  · cases hr

/-- The upserted row has the plan and the app it was given. -/
theorem upsertSubscriptionForTenant_chosen {tenantId : Nat} {plan : Plan} {selectedApp : Option String}
    {status : SubscriptionStatus} {provider subscriptionId customerId sessionId : Option String}
    {trialEndsAt : Option (Option Time)} {row : Subscription}
    (h : upsertSubscriptionForTenant db tenantId plan selectedApp status provider subscriptionId customerId sessionId
      trialEndsAt = .ok (row, db')) : row.planId = plan.id ∧ row.selectedApp = selectedApp := by
  unfold upsertSubscriptionForTenant at h
  obtain ⟨u, -, h⟩ := bind_eq_ok.1 h
  split at h
  · obtain ⟨v, -, h⟩ := bind_eq_ok.1 h
    cases h
    exact ⟨rfl, rfl⟩
  · cases h
    exact ⟨rfl, rfl⟩

theorem Chosen.upserted {tenantId : Nat} {status : SubscriptionStatus}
    {provider subscriptionId customerId sessionId : Option String} {trialEndsAt : Option (Option Time)} {row : Subscription}
    (h : Chosen p app db)
    (hr : upsertSubscriptionForTenant db tenantId p app status provider subscriptionId customerId sessionId trialEndsAt =
      .ok (row, db')) : Chosen p app db' := by
  obtain ⟨hplan, happ⟩ := upsertSubscriptionForTenant_chosen hr
  obtain ⟨-, -, subscriptions, hdb⟩ := upsertSubscriptionForTenant_ok hr
  obtain ⟨selected, hselected⟩ := h.app
  have hplans : db'.plans = db.plans := by rw [hdb]
  refine ⟨h.agree.written (upsertSubscriptionForTenant_written hr) hplans ?_ (happ ▸ hselected), hplans ▸ h.plan, h.app⟩
  unfold Db.planOf
  rw [hplan]
  exact h.plan

theorem prepareTenant_chosen {settings : Settings} {owner : User} {subdomain companyName plan : String}
    {chosenApp : Option String} {now : Time} {tenantId : Nat} (h : PlansAgree db)
    (hr : prepareTenant settings owner subdomain companyName plan chosenApp now db = .ok ((tenantId, p, app), db')) :
    Chosen p app db' := by
  obtain ⟨u, -, hr⟩ := bind_eq_ok.1 hr
  obtain ⟨cleanSubdomain, -, hr⟩ := bind_eq_ok.1 hr
  obtain ⟨⟨plan', db₁⟩, hplan, hr⟩ := bind_eq_ok.1 hr
  obtain ⟨selectedApp, hselected, hr⟩ := bind_eq_ok.1 hr
  obtain ⟨u', -, hr⟩ := bind_eq_ok.1 hr
  obtain ⟨⟨subscription, db₂⟩, hsub, hr⟩ := bind_eq_ok.1 hr
  obtain ⟨hagree, hfound⟩ := requirePlanBySlug_found h hplan
  have hchosen : Chosen plan' selectedApp db₁ := ⟨hagree, hfound, selectedApp, selected_again hselected⟩
  have hupserted := fun h => Chosen.upserted (p := plan') h hsub
  cases hr
  exact hupserted (hchosen.congr rfl rfl)

theorem recordCheckout_chosen {env : Env} {owner : User} {tenantId : Nat} {trialStatus : SubscriptionStatus}
    {trialEndsAt : Option Time} {u : Unit} (h : Chosen p app db)
    (hr : recordCheckout env owner tenantId p app trialStatus trialEndsAt db = .ok (u, db')) : Chosen p app db' := by
  obtain ⟨tenant, -, hr⟩ := bind_eq_ok.1 hr
  obtain ⟨checkout, -, hr⟩ := bind_eq_ok.1 hr
  obtain ⟨moved, -, hr⟩ := bind_eq_ok.1 hr
  obtain ⟨⟨subscription, db₁⟩, hsub, hr⟩ := bind_eq_ok.1 hr
  cases hr
  have hmoved : Chosen p app (db.putTenant moved) := h.congr rfl rfl
  exact hmoved.upserted hsub

theorem chosen_frame (p : Plan) (app : Option String) : Frame (fun _ => True) (Chosen p app) fun _ => True where
  core db db' hcore h := by
    have hsubscriptions : db'.core.subscriptions = db.core.subscriptions := congrArg Db.subscriptions hcore
    have hplans : db'.core.plans = db.core.plans := congrArg Db.plans hcore
    exact h.congr hsubscriptions hplans
  flush _ _ _ _ h := h.congr rfl rfl
  queue _ _ _ _ := trivial

end

/-- However a creation ends, plans and apps belong together in what it committed. -/
theorem createTenant_agrees (env : Env) (owner : User) (subdomain companyName plan : String) (chosenApp : Option String) :
    Triple (OnRows PlansAgree) (createTenantAndStartCheckout env owner subdomain companyName plan chosenApp)
      (fun _ s => PlansAgree s.saved) (fun s => PlansAgree s.saved) := by
  refine Triple.bind (R := fun _ => OnRows PlansAgree) (fun s hs => hs) fun time => ?_
  refine Triple.bind (R := fun r s => Chosen r.2.1 r.2.2 s.work ∧ PlansAgree s.saved) (fun s hs => ?_) fun r => ?_
  · rw [change_apply]
    cases hprepared : prepareTenant env.settings owner subdomain companyName plan chosenApp (env.clock s.tick) s.work with
    | error e => exact hs.2.1
    | ok prepared =>
      obtain ⟨⟨tenantId, p, app⟩, rows⟩ := prepared
      exact ⟨prepareTenant_chosen hs.1 hprepared, hs.2.1⟩
  · obtain ⟨tenantId, p, app⟩ := r
    dsimp only
    have hframe := chosen_frame p app
    refine Triple.bind (R := fun _ => OnRows (Chosen p app))
      (Triple.commit (fun s hs _ => ⟨hs.1.congr rfl rfl, hs.1.congr rfl rfl, trivial⟩) fun s hs => hs.2) fun _ => ?_
    refine Triple.conseq (P := OnRows (Chosen p app)) (R := fun _ => OnRows (Chosen p app)) (E := OnRows (Chosen p app)) ?_
      (fun _ h => h) (fun _ _ h => h.2.1.agree) fun _ h => h.2.1.agree
    refine Keeps.bind (.modify fun _ h => h.congr rfl rfl) fun _ => Keeps.bind (Bookkeeping.commit env _ _ hframe) fun _ => ?_
    refine Keeps.bind (keeps_change fun _ _ _ _ h hr => recordCheckout_chosen h hr) fun _ => ?_
    refine Keeps.bind (Bookkeeping.commit env _ _ hframe) fun _ => ?_
    exact Keeps.bind (Bookkeeping.recordAuditEvent env _ _ _ _ _ hframe) fun _ => Keeps.pure _

/-! ### Runs -/

section
variable {allowedPlans : List String} {db : Db} {e : PlanEvent}

/-- What a granted change leaves. -/
theorem PlanGranted.result {tenantId : Nat} {plan chosenApp : Option String} {db' : Db} (h : PlansAgree db)
    (hgranted : PlanGranted allowedPlans tenantId plan chosenApp db db')
    (hstays : ∀ tenant granted s p, db.tenant? tenantId = some tenant →
      grantedPlan allowedPlans tenant plan chosenApp db = .ok granted → db.subscriptionOf tenantId = some s →
      db.planOf s = some p →
        (∀ text, orText plan none = some text → normalize text = p.slug) ∧
        ∀ app, orText chosenApp none = some app → normalize p.slug = "business" → p.selects (normalize app)) :
    PlansAgree db' ∧ (db.subscriptionOf tenantId ≠ none →
      (∀ text, orText plan none = some text → tenantPlan db' tenantId = normalize text) ∧
      ∀ app, orText chosenApp none = some app → tenantChosenApp db' tenantId = some (normalize app)) := by
  obtain ⟨tenant, newPlan, newChosenApp, htenant, hok, htables⟩ := hgranted
  obtain rfl : tenant.id = tenantId := Db.tenant?_id htenant
  have hplans : db'.plans = (setTenantChosenApp tenant.id newChosenApp db).plans :=
    htables.2.trans (setTenantChosenApp_plans _ _).symm
  have hchanged := h.changed hok fun s p => hstays tenant _ s p htenant hok
  refine ⟨hchanged.congr htables.1 hplans, fun hsome => ?_⟩
  obtain ⟨s, hs⟩ := Option.ne_none_iff_exists'.1 hsome
  obtain ⟨p, -, hp, -⟩ := h.agrees tenant.id s hs
  obtain ⟨hplan, -⟩ := hstays tenant _ s p htenant hok hs hp
  obtain ⟨hreadPlan, hreadApp⟩ := read_changed hs htables.1 htables.2
  refine ⟨fun text htext => ?_, fun app hasked => ?_⟩
  · rw [hreadPlan, tenantPlan_of_row hs hp]
    exact (hplan text htext).symm
  · rw [hreadApp]
    exact granted_app hok hasked

/-- One request that stays on the tenant's plan. -/
theorem planStep_agrees (h : PlansAgree db) (hstays : staysOnPlan allowedPlans db e) :
    PlansAgree (planStep allowedPlans db e) ∧ changeEffective allowedPlans db e := by
  unfold staysOnPlan at hstays
  unfold changeEffective planStep planRun
  cases hop : e.op with
  | create request =>
    refine ⟨?_, trivial⟩
    have hends := createTenant_agrees e.env request.owner request.subdomain request.companyName request.plan
      request.chosenApp (opened db []) ⟨h, h, trivial⟩
    show PlansAgree (request.run e.env db []).2.saved
    unfold CreationRequest.run
    cases hrun : createTenantAndStartCheckout e.env request.owner request.subdomain request.companyName request.plan
        request.chosenApp (opened db []) with
    | mk r s =>
      rw [hrun] at hends
      cases r with
      | ok id => exact hends
      | error error => exact hends
  | update userId tenantId plan chosenApp =>
    rw [hop] at hstays
    dsimp only at hstays ⊢
    have hends := updateTenant_ends e.env allowedPlans userId tenantId plan chosenApp db (opened db [])
      ⟨⟨⟨rfl, rfl⟩, rfl⟩, ⟨⟨rfl, rfl⟩, rfl⟩, trivial⟩
    cases hrun : updateTenant e.env allowedPlans userId tenantId plan chosenApp (opened db []) with
    | mk r s =>
      rw [hrun] at hends
      cases r with
      | ok u =>
        obtain ⟨hagrees, hread⟩ := PlanGranted.result h hends hstays
        exact ⟨hagrees, fun _ hsome => hread hsome⟩
      | error error =>
        refine ⟨?_, fun hok => by cases hok⟩
        rcases hends with hsame | hgranted
        · exact h.congr hsame.1.1 hsame.1.2
        · exact (PlanGranted.result h hgranted hstays).1

end

/-- In every run whose granted changes stay on the tenant's plan, and on the business plan name apps that it selects, every
accepted change is effective and all plans and apps belong together. -/
theorem plan_changes_effective (allowedPlans : List String) (db : Db) (events : List PlanEvent) (hrows : PlanRows db)
    (hagrees : ∀ tenantId, PlanAgrees db tenantId)
    (hstays : Steps (planStep allowedPlans) (staysOnPlan allowedPlans) db events) :
    Always (planStep allowedPlans) (fun db' => ∀ tenantId, PlanAgrees db' tenantId) db events ∧
      Steps (planStep allowedPlans) (changeEffective allowedPlans) db events := by
  have hstart : PlansAgree db := ⟨hrows, hagrees⟩
  have hstep : ∀ db' e, PlansAgree db' → staysOnPlan allowedPlans db' e → PlansAgree (planStep allowedPlans db' e) :=
    fun _ _ h hC => (planStep_agrees h hC).1
  have halways : Always (planStep allowedPlans) PlansAgree db events := Always.of_steps hstep hstart hstays
  refine ⟨halways.mono fun _ h => h.agrees, ?_⟩
  exact Steps.mono_of hstep (fun _ _ h hC => (planStep_agrees h hC).2) hstart hstays

namespace Small

def allowedPlans : List String := ["starter", "business", "enterprise"]

/-- The owner creates a tenant on the business plan. -/
def onBusiness : PlanEvent := ⟨env, .create ⟨⟨1, "owner@example.com", false, true⟩, "acme", "Acme", "business", some "crm"⟩⟩

def onStarter : PlanEvent := ⟨env, .create ⟨⟨1, "owner@example.com", false, true⟩, "acme", "Acme", "starter", none⟩⟩

/-- The owner asks for a change. -/
def asks (plan chosenApp : Option String) : PlanEvent := ⟨env, .update 1 1 plan chosenApp⟩

end Small

/-- A tenant on the business plan takes another app of it. -/
theorem other_app_effective :
    Always (planStep Small.allowedPlans) (fun db => ∀ tenantId, PlanAgrees db tenantId) Small.world.db
        [Small.onBusiness, Small.asks (some " Business ") (some "HRMS")] ∧
      Steps (planStep Small.allowedPlans) (changeEffective Small.allowedPlans) Small.world.db
        [Small.onBusiness, Small.asks (some " Business ") (some "HRMS")] := by
  refine plan_changes_effective Small.allowedPlans Small.world.db _ ⟨⟨by decide, by decide⟩, by decide⟩ ?_ ?_
  · intro tenantId s hs
    cases hs
  · refine ⟨trivial, fun tenant granted s p _ _ hs hp => ?_, trivial⟩
    have hplan : ((planStep Small.allowedPlans Small.world.db Small.onBusiness).subscriptionOf 1).bind
        (planStep Small.allowedPlans Small.world.db Small.onBusiness).planOf = defaultPlanCatalog[1]? := by
      decide +kernel
    rw [hs, Option.bind_some, hp] at hplan
    obtain rfl := Option.some.inj hplan
    refine ⟨fun text htext => ?_, fun app happ _ => ?_⟩
    · obtain rfl : " Business " = text := Option.some.inj htext
      decide +kernel
    · obtain rfl : "HRMS" = app := Option.some.inj happ
      exact Or.inl (by decide +kernel)

set_option maxRecDepth 100000 in
/-- A change to another plan is accepted, writes the new plan's app and leaves the old plan; one to an app that the plan does
not select is accepted too. -/
theorem other_plan_not_effective :
    let business := planStep Small.allowedPlans Small.world.db Small.onBusiness
    let starter := planStep Small.allowedPlans Small.world.db Small.onStarter
    ((planRun Small.allowedPlans starter (Small.asks (some "business") (some "crm"))).1 = .ok () ∧
      ¬changeEffective Small.allowedPlans starter (Small.asks (some "business") (some "crm")) ∧
      ¬PlanAgrees (planStep Small.allowedPlans starter (Small.asks (some "business") (some "crm"))) 1) ∧
    ((planRun Small.allowedPlans business (Small.asks none (some "erpnext"))).1 = .ok () ∧
      ¬PlanAgrees (planStep Small.allowedPlans business (Small.asks none (some "erpnext"))) 1) := by
  refine ⟨⟨by decide +kernel, fun h => ?_, by decide +kernel⟩, by decide +kernel, by decide +kernel⟩
  have hread := (h (by decide +kernel) (by decide +kernel)).1 "business" rfl
  revert hread
  decide +kernel

end ControlPlane
