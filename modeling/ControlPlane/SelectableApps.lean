import ControlPlane.Bench.Domains
import ControlPlane.PlanChanges

/-!
# Selectable apps

The two checks of a plan and an app, over all of Unicode: the one of a creation reads the entitlements of the plan, the one
of an update looks at the slug and the list of apps.  On the catalogue they differ at two places.  On the business plan the
update takes `erpnext`, which the plan does not select; on the enterprise plan the creation takes any app on the list, and
the update none.
-/

namespace ControlPlane

namespace Cleaning

variable (cleaning : Cleaning)

def validateAppName (appName : String) : Except PyError String :=
  let cleaned := cleaning.clean appName
  if ¬matchesAppPattern cleaned then .error (.valueError "Invalid app name")
  else if cleaned ∉ "erpnext" :: businessApps then .error (.valueError "App is not allowlisted")
  else .ok cleaned

def validateSelectedAppForPlan (plan : Plan) (selectedApp : Option String) : Except PyError (Option String) :=
  let normalizedPlan := cleaning.clean plan.slug
  match orText selectedApp none with
  | none =>
    if normalizedPlan = "business" then .error (.httpException 422 "chosen_app is required for business plan")
    else .ok none
  | some app =>
    if normalizedPlan = "starter" then
      .error (.httpException 422 "starter plan does not support chosen_app")
    else if normalizedPlan = "business" then do
      let normalizedApp ← asUnprocessable (cleaning.validateAppName app)
      let selectable := (plan.entitlements.filter PlanEntitlement.selectable).map PlanEntitlement.appSlug
      if selectable ≠ [] ∧ normalizedApp ∉ selectable then
        throw (.httpException 422 "chosen_app is not selectable for this plan")
      if selectable = [] ∧ normalizedApp ∉ businessApps then
        throw (.httpException 422 "chosen_app is not allowlisted for business plan")
      return some normalizedApp
    else
      (asUnprocessable (cleaning.validateAppName app)).map some

/-- `validate_plan_change`; a text that is lowered and then stripped is the text stripped and then lowered. -/
def validatePlanChange (currentPlan : String) (currentChosenApp requestedPlan requestedChosenApp : Option String)
    (allowedPlans : List String) : Except PyError (String × Option String) := do
  let plan := cleaning.clean ((orText requestedPlan none).getD currentPlan)
  raiseIf (plan ∉ allowedPlans) (.httpException 422 "Plan is not allowed")
  if plan = "business" then
    match orText (orText requestedChosenApp currentChosenApp) none with
    | none => throw (.httpException 422 "chosen_app is required for business plan")
    | some requested =>
      let chosenApp ← asUnprocessable (cleaning.validateAppName requested)
      return (plan, some chosenApp)
  else
    raiseIf (orText requestedChosenApp none ≠ none)
      (.httpException 422 "chosen_app is only valid for business plan")
    return (plan, none)

/-- The app that a request names, cleaned. -/
def named (app : Option String) : Option String := (orText app none).map cleaning.clean

end Cleaning

/-! With Python's cleaning these are the checks of the requests that create and update tenants. -/

theorem Cleaning.unicode_validateSelectedAppForPlan (plan : Plan) (app : Option String) :
    Cleaning.unicode.validateSelectedAppForPlan plan app = ControlPlane.validateSelectedAppForPlan plan app := rfl

theorem Cleaning.unicode_validatePlanChange (currentPlan : String) (currentChosenApp requestedPlan app : Option String)
    (allowedPlans : List String) :
    Cleaning.unicode.validatePlanChange currentPlan currentChosenApp requestedPlan app allowedPlans =
      ControlPlane.validatePlanChange currentPlan currentChosenApp requestedPlan app allowedPlans := rfl

/-! ### What is accepted -/

/-- The apps that a creation takes on a plan, which its cleaned slug is given with. -/
def takenAtCreation (plan : Plan) (planSlug : String) : Option String → Prop
  | none => planSlug ≠ "business"
  | some name => planSlug ≠ "starter" ∧ name ∈ "erpnext" :: businessApps ∧ (planSlug = "business" → plan.selects name)

/-- The apps that an update takes on a plan. -/
def takenAtUpdate (planSlug : String) : Option String → Prop
  | none => planSlug ≠ "business"
  | some name => planSlug = "business" ∧ name ∈ "erpnext" :: businessApps

section
variable {cleaning : Cleaning} {plan : Plan} {app selected : Option String}

theorem Cleaning.named_some {text : String} (h : orText app none = some text) :
    cleaning.named app = some (cleaning.clean text) := by
  unfold Cleaning.named
  rw [h]
  rfl

theorem Cleaning.named_none (h : orText app none = none) : cleaning.named app = none := by
  unfold Cleaning.named
  rw [h]
  rfl

theorem orText_again (text : Option String) : orText (orText text none) none = orText text none := by
  cases h : orText text none with
  | none => rfl
  | some t => exact orText_none_eq_some.2 ⟨rfl, (orText_none_eq_some.1 h).2⟩

theorem map_eq_ok {ε α β : Type} {x : Except ε α} {f : α → β} {b : β} :
    x.map f = .ok b ↔ ∃ a, x = .ok a ∧ f a = b := by
  cases x with
  | error e => simp [Except.map]
  | ok a => simp [Except.map]

theorem Cleaning.validateAppName_iff {text name : String} :
    asUnprocessable (cleaning.validateAppName text) = .ok name ↔
      cleaning.clean text = name ∧ name ∈ "erpnext" :: businessApps := by
  unfold Cleaning.validateAppName
  dsimp only
  constructor
  · intro h
    have h := asUnprocessable_ok h
    by_cases hpattern : ¬matchesAppPattern (cleaning.clean text)
    · rw [if_pos hpattern] at h
      cases h
    · rw [if_neg hpattern] at h
      by_cases hmem : cleaning.clean text ∉ "erpnext" :: businessApps
      · rw [if_pos hmem] at h
        cases h
      · rw [if_neg hmem] at h
        cases h
        exact ⟨rfl, Decidable.not_not.1 hmem⟩
  · rintro ⟨rfl, hmem⟩
    -- every app on the list has the shape of a name
    have hall : ∀ name ∈ "erpnext" :: businessApps, matchesAppPattern name = true := by decide +kernel
    rw [if_neg (not_not.2 (hall _ hmem)), if_neg (not_not.2 hmem)]
    rfl

/-- The business plan passes an app that it selects. -/
theorem selectable_iff {selectable : List String} {name : String} {notSelectable notAllowlisted : PyError} :
    (do
      if selectable ≠ [] ∧ name ∉ selectable then
        throw notSelectable
      if selectable = [] ∧ name ∉ businessApps then
        throw notAllowlisted
      return some name : Except PyError (Option String)) = .ok selected ↔
      (name ∈ selectable ∨ selectable = [] ∧ name ∈ businessApps) ∧ some name = selected := by
  by_cases hempty : selectable = []
  · by_cases hmem : name ∈ businessApps
    · rw [if_neg fun h => h.1 hempty, if_neg fun h => h.2 hmem]
      exact ⟨fun h => ⟨Or.inr ⟨hempty, hmem⟩, Except.ok.inj h⟩, fun h => congrArg Except.ok h.2⟩
    · rw [if_neg fun h => h.1 hempty, if_pos ⟨hempty, hmem⟩]
      constructor
      · intro h
        cases h
      · rintro ⟨hin | hin, -⟩
        · rw [hempty] at hin
          cases hin
        · exact absurd hin.2 hmem
  · by_cases hmem : name ∈ selectable
    · rw [if_neg fun h => h.2 hmem, if_neg fun h => hempty h.1]
      exact ⟨fun h => ⟨Or.inl hmem, Except.ok.inj h⟩, fun h => congrArg Except.ok h.2⟩
    · rw [if_pos ⟨hempty, hmem⟩]
      constructor
      · intro h
        cases h
      · rintro ⟨hin | hin, -⟩
        · exact absurd hin hmem
        · exact absurd hin.1 hempty

theorem Cleaning.validateSelectedAppForPlan_of_none (htext : orText app none = none) :
    cleaning.validateSelectedAppForPlan plan app = .ok selected ↔
      none = selected ∧ takenAtCreation plan (cleaning.clean plan.slug) selected := by
  unfold Cleaning.validateSelectedAppForPlan
  rw [htext]
  dsimp only
  by_cases hbusiness : cleaning.clean plan.slug = "business"
  · rw [if_pos hbusiness]
    constructor
    · intro h
      cases h
    · rintro ⟨rfl, htaken⟩
      exact absurd hbusiness htaken
  · rw [if_neg hbusiness]
    constructor
    · intro h
      cases h
      exact ⟨rfl, hbusiness⟩
    · rintro ⟨rfl, -⟩
      rfl

theorem Cleaning.validateSelectedAppForPlan_of_some {text : String} (htext : orText app none = some text) :
    cleaning.validateSelectedAppForPlan plan app = .ok selected ↔
      some (cleaning.clean text) = selected ∧ takenAtCreation plan (cleaning.clean plan.slug) selected := by
  unfold Cleaning.validateSelectedAppForPlan
  rw [htext]
  dsimp only
  by_cases hstarter : cleaning.clean plan.slug = "starter"
  · rw [if_pos hstarter]
    constructor
    · intro h
      cases h
    · rintro ⟨rfl, htaken⟩
      exact absurd hstarter htaken.1
  · rw [if_neg hstarter]
    by_cases hbusiness : cleaning.clean plan.slug = "business"
    · -- the app has to be on the list and among those that the plan selects
      rw [if_pos hbusiness, bind_eq_ok]
      constructor
      · rintro ⟨name, hname, h⟩
        obtain ⟨rfl, hmem⟩ := Cleaning.validateAppName_iff.1 hname
        obtain ⟨hselects, rfl⟩ := selectable_iff.1 h
        exact ⟨rfl, hstarter, hmem, fun _ => hselects⟩
      · rintro ⟨rfl, htaken⟩
        exact ⟨_, Cleaning.validateAppName_iff.2 ⟨rfl, htaken.2.1⟩, selectable_iff.2 ⟨htaken.2.2 hbusiness, rfl⟩⟩
    · -- on any other plan the list is all that is asked
      rw [if_neg hbusiness]
      constructor
      · intro h
        obtain ⟨name, hname, rfl⟩ := map_eq_ok.1 h
        obtain ⟨rfl, hmem⟩ := Cleaning.validateAppName_iff.1 hname
        exact ⟨rfl, hstarter, hmem, fun hb => absurd hb hbusiness⟩
      · rintro ⟨rfl, htaken⟩
        rw [Cleaning.validateAppName_iff.2 ⟨rfl, htaken.2.1⟩]
        rfl

/-- A creation takes the app that is named, if the plan takes it. -/
theorem Cleaning.validateSelectedAppForPlan_iff :
    cleaning.validateSelectedAppForPlan plan app = .ok selected ↔
      cleaning.named app = selected ∧ takenAtCreation plan (cleaning.clean plan.slug) selected := by
  cases htext : orText app none with
  | none =>
    rw [Cleaning.named_none htext]
    exact Cleaning.validateSelectedAppForPlan_of_none htext
  | some text =>
    rw [Cleaning.named_some htext]
    exact Cleaning.validateSelectedAppForPlan_of_some htext

/-- An update of a tenant without an app takes the app that is named, if the plan it asks for is allowed and takes it. -/
theorem Cleaning.validatePlanChange_iff {currentPlan planSlug : String} {allowedPlans : List String}
    (hslug : cleaning.clean planSlug = planSlug) (hne : planSlug ≠ "") :
    (cleaning.validatePlanChange currentPlan none (some planSlug) app allowedPlans).map Prod.snd = .ok selected ↔
      planSlug ∈ allowedPlans ∧ cleaning.named app = selected ∧ takenAtUpdate planSlug selected := by
  have hplan : cleaning.clean ((orText (some planSlug) none).getD currentPlan) = planSlug := by
    rw [orText_none_eq_some.2 ⟨rfl, hne⟩]
    exact hslug
  have hcurrent : orText (orText app none) none = orText app none := orText_again app
  unfold Cleaning.validatePlanChange
  rw [hplan, hcurrent, map_eq_ok]
  constructor
  · rintro ⟨granted, h, rfl⟩
    obtain ⟨_, hallowed, h⟩ := bind_eq_ok.1 h
    refine ⟨Decidable.not_not.1 (raiseIf_eq_ok.1 hallowed), ?_⟩
    by_cases hbusiness : planSlug = "business"
    · rw [if_pos hbusiness] at h
      cases htext : orText app none with
      | none =>
        rw [htext] at h
        cases h
      | some text =>
        rw [htext] at h
        obtain ⟨name, hname, h⟩ := bind_eq_ok.1 h
        obtain ⟨rfl, hmem⟩ := Cleaning.validateAppName_iff.1 hname
        cases h
        exact ⟨Cleaning.named_some htext, hbusiness, hmem⟩
    · rw [if_neg hbusiness] at h
      obtain ⟨_, hnone, h⟩ := bind_eq_ok.1 h
      cases h
      exact ⟨Cleaning.named_none (Decidable.not_not.1 (raiseIf_eq_ok.1 hnone)), hbusiness⟩
  · rintro ⟨hallowed, rfl, htaken⟩
    refine ⟨(planSlug, cleaning.named app), bind_eq_ok.2 ⟨(), raiseIf_eq_ok.2 (not_not.2 hallowed), ?_⟩, rfl⟩
    cases htext : orText app none with
    | none =>
      rw [Cleaning.named_none htext] at htaken ⊢
      rw [if_neg htaken]
      exact bind_eq_ok.2 ⟨(), raiseIf_eq_ok.2 (not_not.2 rfl), rfl⟩
    | some text =>
      rw [Cleaning.named_some htext] at htaken ⊢
      rw [if_pos htaken.1]
      exact bind_eq_ok.2 ⟨_, Cleaning.validateAppName_iff.2 ⟨rfl, htaken.2⟩, rfl⟩

end

/-! ### The two on the catalogue -/

/-- The creation and the update of a tenant that has no app yet accept the same and give the same app. -/
def Cleaning.SameAtUpdate (cleaning : Cleaning) (allowedPlans : List String) (currentPlan : String) (plan : Plan)
    (app : Option String) : Prop :=
  ∀ selected, cleaning.validateSelectedAppForPlan plan app = .ok selected ↔
    (cleaning.validatePlanChange currentPlan none (some plan.slug) app allowedPlans).map Prod.snd = .ok selected

/-- The pairs that are accepted by both or refused by both.  An allowed plan differs for `erpnext` on the business plan and
for the apps on the list on the enterprise plan; another plan is never granted by an update, so it has to be refused by
the creation too. -/
def Cleaning.AcceptedAlike (cleaning : Cleaning) (allowedPlans : List String) (planSlug : String) (app : Option String) :
    Prop :=
  if planSlug ∈ allowedPlans then
    ¬(planSlug = "business" ∧ cleaning.named app = some "erpnext") ∧
      ¬(planSlug = "enterprise" ∧ ∃ name ∈ cleaning.named app, name ∈ "erpnext" :: businessApps)
  else
    (planSlug = "starter" ∧ cleaning.named app ≠ none) ∨
      (planSlug = "business" ∧ ∀ name ∈ cleaning.named app, name ∉ businessApps) ∨
        (planSlug = "enterprise" ∧ ∃ name ∈ cleaning.named app, name ∉ "erpnext" :: businessApps)

/-- The plans of the catalogue, and which app the business plan selects. -/
theorem catalogue_cases {plan : Plan} (h : plan ∈ defaultPlanCatalog) :
    plan.slug = "starter" ∨ (plan.slug = "business" ∧ ∀ name, plan.selects name ↔ name ∈ businessApps) ∨
      plan.slug = "enterprise" := by
  unfold defaultPlanCatalog at h
  simp only [List.mem_cons, List.not_mem_nil, or_false] at h
  rcases h with rfl | rfl | rfl
  · exact Or.inl rfl
  · refine Or.inr (Or.inl ⟨rfl, fun name => ?_⟩)
    exact ⟨fun h => h.elim id And.right, Or.inl⟩
  · exact Or.inr (Or.inr rfl)

section
variable {plan : Plan} (h : plan ∈ defaultPlanCatalog) (app : Option String)
include h

/-- Which apps creation and update take alike. -/
theorem taken_alike_iff :
    (takenAtCreation plan plan.slug app ↔ takenAtUpdate plan.slug app) ↔
      ¬(plan.slug = "business" ∧ app = some "erpnext") ∧
        ¬(plan.slug = "enterprise" ∧ ∃ name ∈ app, name ∈ "erpnext" :: businessApps) := by
  rcases catalogue_cases h with hplan | ⟨hplan, hselects⟩ | hplan
  · cases app with
    | none => simp [takenAtCreation, takenAtUpdate, hplan]
    | some name => simp [takenAtCreation, takenAtUpdate, hplan]
  · cases app with
    | none => simp [takenAtCreation, takenAtUpdate, hplan]
    | some name =>
      have hnot : name ∈ businessApps → name ≠ "erpnext" := by
        rintro hmem rfl
        revert hmem
        decide
      simp only [takenAtCreation, takenAtUpdate, hselects, hplan, List.mem_cons, Option.some.injEq]
      by_cases hname : name ∈ businessApps
      · simp [hname, hnot hname]
      · simp [hname]
  · cases app with
    | none => simp [takenAtCreation, takenAtUpdate, hplan]
    | some name => simp [takenAtCreation, takenAtUpdate, hplan]

/-- Which apps a creation refuses. -/
theorem not_takenAtCreation_iff :
    ¬takenAtCreation plan plan.slug app ↔
      (plan.slug = "starter" ∧ app ≠ none) ∨ (plan.slug = "business" ∧ ∀ name ∈ app, name ∉ businessApps) ∨
        (plan.slug = "enterprise" ∧ ∃ name ∈ app, name ∉ "erpnext" :: businessApps) := by
  rcases catalogue_cases h with hplan | ⟨hplan, hselects⟩ | hplan
  · cases app with
    | none => simp [takenAtCreation, hplan]
    | some name => simp [takenAtCreation, hplan]
  · cases app with
    | none => simp [takenAtCreation, hplan]
    | some name =>
      simp only [takenAtCreation, hselects, hplan, List.mem_cons]
      by_cases hname : name ∈ businessApps
      · simp [hname]
      · simp [hname]
  · cases app with
    | none => simp [takenAtCreation, hplan]
    | some name => simp [takenAtCreation, hplan]

end

/-- For the plans of the catalogue and every app, creation and update agree if and only if the pair is accepted alike. -/
theorem selected_app_same_iff (cleaning : Cleaning) (allowedPlans : List String) (currentPlan : String) {plan : Plan}
    (app : Option String) (h : plan ∈ defaultPlanCatalog) :
    cleaning.SameAtUpdate allowedPlans currentPlan plan app ↔ cleaning.AcceptedAlike allowedPlans plan.slug app := by
  have hname : plan.slug.toList.all isNameChar = true ∧ plan.slug ≠ "" := by
    have hall : ∀ plan ∈ defaultPlanCatalog, plan.slug.toList.all isNameChar = true ∧ plan.slug ≠ "" := by decide +kernel
    exact hall plan h
  have hslug := cleaning.clean_name _ hname.1
  -- both ask for the app that is named, so they are compared there
  have hsame : cleaning.SameAtUpdate allowedPlans currentPlan plan app ↔
      (takenAtCreation plan plan.slug (cleaning.named app) ↔
        plan.slug ∈ allowedPlans ∧ takenAtUpdate plan.slug (cleaning.named app)) := by
    unfold Cleaning.SameAtUpdate
    simp only [Cleaning.validateSelectedAppForPlan_iff, hslug, Cleaning.validatePlanChange_iff hslug hname.2]
    constructor
    · intro hall
      simpa using hall (cleaning.named app)
    · rintro hat selected
      constructor
      · rintro ⟨rfl, htaken⟩
        exact ⟨(hat.1 htaken).1, rfl, (hat.1 htaken).2⟩
      · rintro ⟨hallowed, rfl, htaken⟩
        exact ⟨rfl, hat.2 ⟨hallowed, htaken⟩⟩
  rw [hsame]
  unfold Cleaning.AcceptedAlike
  by_cases hallowed : plan.slug ∈ allowedPlans
  · rw [if_pos hallowed, and_iff_right hallowed]
    exact taken_alike_iff h _
  · rw [if_neg hallowed, ← not_takenAtCreation_iff h]
    exact ⟨fun hat htaken => hallowed (hat.1 htaken).1,
      fun hnot => ⟨fun htaken => absurd htaken hnot, fun hand => absurd hand.1 hallowed⟩⟩

namespace Small

/-- The business plan of the catalogue. -/
def businessPlan : Plan :=
  { id := 2, slug := "business", isActive := true, isolationModel := "pooled", backupFrequency := "daily"
    entitlements := ⟨"erpnext", true, false⟩ :: businessApps.map fun app => ⟨app, false, true⟩ }

end Small

/-- A business app is taken at both places. -/
theorem crm_same_at_update :
    Cleaning.unicode.SameAtUpdate Small.allowedPlans "starter" Small.businessPlan (some " CRM ") ↔
      Cleaning.unicode.AcceptedAlike Small.allowedPlans Small.businessPlan.slug (some " CRM ") :=
  selected_app_same_iff .unicode Small.allowedPlans "starter" (some " CRM ") (by decide +kernel)

/-- The update takes an app that the creation refuses on the same plan. -/
theorem erpnext_taken_at_update :
    ¬∀ (cleaning : Cleaning) (currentPlan : String) (plan : Plan) (app : Option String), plan ∈ defaultPlanCatalog →
      cleaning.SameAtUpdate Small.allowedPlans currentPlan plan app := by
  intro h
  have hsame := h .unicode "starter" Small.businessPlan (some "erpnext") (by decide +kernel) (some "erpnext")
  have hupdate : (Cleaning.unicode.validatePlanChange "starter" none (some "business") (some "erpnext")
      Small.allowedPlans).map Prod.snd = .ok (some "erpnext") := by decide +kernel
  have hcreation : Cleaning.unicode.validateSelectedAppForPlan Small.businessPlan (some "erpnext") ≠
      .ok (some "erpnext") := by decide +kernel
  exact hcreation (hsame.2 hupdate)

/-- On the enterprise plan it is the other way around. -/
example :
    (∀ plan ∈ defaultPlanCatalog.getLast?, Cleaning.unicode.validateSelectedAppForPlan plan (some "crm") = .ok (some "crm")) ∧
      Cleaning.unicode.validatePlanChange "enterprise" none (some "enterprise") (some "crm") Small.allowedPlans =
        .error (.httpException 422 "chosen_app is only valid for business plan") := by
  decide +kernel

end ControlPlane
