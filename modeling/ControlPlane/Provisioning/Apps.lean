import ControlPlane.Base.OrderedKeys
import ControlPlane.SelectableApps

/-!
# The apps that are installed

`derive_app_install_list` collects the mandatory entitlements of the plan, the selected app and, on the enterprise plan, a
fixed list.  It puts `erpnext` in where the plan has no entitlements and where nothing was collected, so it leaves it out
where something else was: a plan with entitlements of which none is `erpnext` and mandatory.
-/

namespace ControlPlane

/-- `LEGACY_ENTERPRISE_APPS`. -/
def legacyEnterpriseApps : List String :=
  ["crm", "hrms", "frappe_whatsapp", "posawesome", "lms", "helpdesk", "payments", "lending"]

/-- A subscription with its plan, as the ORM links them. -/
structure LoadedSubscription where
  plan : Option Plan
  selectedApp : Option String
  deriving DecidableEq, Repr

/-- A tenant with its subscription, and the attributes that the setters of `plan` and `chosen_app` leave on the object. -/
structure LoadedTenant where
  subscription : Option LoadedSubscription
  compatPlan : Option String
  compatChosenApp : Option String
  deriving DecidableEq, Repr

namespace LoadedTenant

variable (cleaning : Cleaning) (tenant : LoadedTenant)

/-- `Tenant.plan`. -/
def plan : String :=
  match tenant.subscription.bind LoadedSubscription.plan with
  | some plan => plan.slug
  | none => cleaning.clean ((orText tenant.compatPlan (some "starter")).getD "")

/-- `Tenant.chosen_app`. -/
def chosenApp : Option String :=
  orText (tenant.subscription.bind LoadedSubscription.selectedApp) tenant.compatChosenApp

/-- The entitlements of the plan, if there are any. -/
def entitlements : List PlanEntitlement :=
  ((tenant.subscription.bind LoadedSubscription.plan).map Plan.entitlements).getD []

/-- The app of the subscription or of the tenant. -/
def selectedApp : Option String :=
  orText (orText (tenant.subscription.bind LoadedSubscription.selectedApp) tenant.chosenApp) none

end LoadedTenant

namespace Cleaning

variable (cleaning : Cleaning)

/-- Adds the cleaned text, unless it is blank. -/
def addCleaned (apps : OrderedKeys String) (text : String) : OrderedKeys String :=
  let cleaned := cleaning.clean text
  if cleaned = "" then apps else apps.add cleaned

/-- One round of the loop over the entitlements. -/
def addMandatory (apps : OrderedKeys String) (entitlement : PlanEntitlement) : OrderedKeys String :=
  if entitlement.mandatory then cleaning.addCleaned apps entitlement.appSlug else apps

/-- What `derive_app_install_list` has collected before its last fallback. -/
def collectedApps (tenant : LoadedTenant) : OrderedKeys String :=
  let apps := tenant.entitlements.foldl cleaning.addMandatory .empty
  let apps := if tenant.entitlements = [] then apps.add "erpnext" else apps
  let apps :=
    match tenant.selectedApp with
    | some selectedApp => cleaning.addCleaned apps selectedApp
    | none => apps
  if cleaning.clean (tenant.plan cleaning) = "enterprise" then (apps.add "erpnext").addAll legacyEnterpriseApps else apps

def deriveAppInstallList (tenant : LoadedTenant) : List String :=
  let apps := cleaning.collectedApps tenant
  (if apps.keys = [] then apps.add "erpnext" else apps).keys

end Cleaning

/-! ### What is on the list -/

section
variable {cleaning : Cleaning} {tenant : LoadedTenant} {a : String}

/-- A mandatory entitlement whose slug is not blank, under its cleaned name. -/
def Cleaning.Requires (cleaning : Cleaning) (entitlements : List PlanEntitlement) (a : String) : Prop :=
  ∃ e ∈ entitlements, e.mandatory = true ∧ cleaning.clean e.appSlug = a ∧ a ≠ ""

theorem Cleaning.mem_addCleaned {apps : OrderedKeys String} {text : String} :
    a ∈ (cleaning.addCleaned apps text).keys ↔ a ∈ apps.keys ∨ (cleaning.clean text = a ∧ a ≠ "") := by
  unfold Cleaning.addCleaned
  dsimp only
  by_cases hblank : cleaning.clean text = ""
  · rw [if_pos hblank, hblank]
    constructor
    · exact Or.inl
    · rintro (ha | ⟨rfl, hne⟩)
      · exact ha
      · exact absurd rfl hne
  · rw [if_neg hblank, OrderedKeys.mem_add]
    refine or_congr_right ⟨?_, fun h => h.1.symm⟩
    rintro rfl
    exact ⟨rfl, hblank⟩

/-- The loop over the entitlements adds those that are mandatory. -/
theorem Cleaning.mem_mandatory {entitlements : List PlanEntitlement} {apps : OrderedKeys String} :
    a ∈ (entitlements.foldl cleaning.addMandatory apps).keys ↔ a ∈ apps.keys ∨ cleaning.Requires entitlements a := by
  unfold Cleaning.Requires
  induction entitlements generalizing apps with
  | nil => simp
  | cons e entitlements ih =>
    have hround : a ∈ (cleaning.addMandatory apps e).keys ↔
        a ∈ apps.keys ∨ (e.mandatory = true ∧ cleaning.clean e.appSlug = a ∧ a ≠ "") :=
      OrderedKeys.mem_ite Cleaning.mem_addCleaned
    rw [List.foldl_cons, ih, hround, List.exists_mem_cons_iff, or_assoc]

/-- Where the collected apps come from. -/
theorem Cleaning.mem_collectedApps :
    a ∈ (cleaning.collectedApps tenant).keys ↔
      cleaning.Requires tenant.entitlements a ∨ (tenant.entitlements = [] ∧ a = "erpnext") ∨
        (∃ selected ∈ tenant.selectedApp, cleaning.clean selected = a ∧ a ≠ "") ∨
        (cleaning.clean (tenant.plan cleaning) = "enterprise" ∧ (a = "erpnext" ∨ a ∈ legacyEnterpriseApps)) := by
  have hmandatory : a ∈ (tenant.entitlements.foldl cleaning.addMandatory .empty).keys ↔
      cleaning.Requires tenant.entitlements a := by
    rw [Cleaning.mem_mandatory]
    simp
  have hselected : ∀ apps : OrderedKeys String,
      a ∈ (match tenant.selectedApp with
        | some selectedApp => cleaning.addCleaned apps selectedApp
        | none => apps).keys ↔
      a ∈ apps.keys ∨ ∃ selected ∈ tenant.selectedApp, cleaning.clean selected = a ∧ a ≠ "" := by
    intro apps
    cases tenant.selectedApp with
    | none => simp
    | some selected => simpa using Cleaning.mem_addCleaned
  have henterprise : ∀ apps : OrderedKeys String,
      a ∈ ((apps.add "erpnext").addAll legacyEnterpriseApps).keys ↔
        a ∈ apps.keys ∨ (a = "erpnext" ∨ a ∈ legacyEnterpriseApps) := by
    intro apps
    rw [OrderedKeys.mem_addAll, OrderedKeys.mem_add, or_assoc]
  unfold Cleaning.collectedApps
  dsimp only
  rw [OrderedKeys.mem_ite (henterprise _), hselected, OrderedKeys.mem_ite OrderedKeys.mem_add, hmandatory, or_assoc,
    or_assoc]

/-- The list is what was collected, or `erpnext` if nothing was. -/
theorem Cleaning.mem_deriveAppInstallList :
    a ∈ cleaning.deriveAppInstallList tenant ↔
      a ∈ (cleaning.collectedApps tenant).keys ∨ ((cleaning.collectedApps tenant).keys = [] ∧ a = "erpnext") := by
  unfold Cleaning.deriveAppInstallList
  exact OrderedKeys.mem_ite OrderedKeys.mem_add

theorem Cleaning.deriveAppInstallList_nodup : (cleaning.deriveAppInstallList tenant).Nodup :=
  OrderedKeys.nodup _

/-! ### When nothing is missing -/

/-- The selected app passed the check of the tenant's plan, or of some plan if the tenant has none. -/
def Cleaning.SelectionPassed (cleaning : Cleaning) (tenant : LoadedTenant) : Prop :=
  ∃ plan requested, (∀ own ∈ tenant.subscription.bind LoadedSubscription.plan, plan = own) ∧
    cleaning.validateSelectedAppForPlan plan requested = .ok tenant.selectedApp

/-- The list has no duplicates and contains `erpnext`, every mandatory entitlement and the selected app. -/
structure Cleaning.InstallsAll (cleaning : Cleaning) (tenant : LoadedTenant) : Prop where
  nodup : (cleaning.deriveAppInstallList tenant).Nodup
  erpnext : "erpnext" ∈ cleaning.deriveAppInstallList tenant
  mandatory : ∀ e ∈ tenant.entitlements, e.mandatory = true →
    cleaning.clean e.appSlug ∈ cleaning.deriveAppInstallList tenant
  selected : ∀ app ∈ tenant.selectedApp, app ∈ cleaning.deriveAppInstallList tenant

/-- No mandatory entitlement is blank, and `erpnext` is a mandatory entitlement or selected, or put in: the plan has no
entitlements or is the enterprise plan, or nothing is mandatory and nothing selected. -/
structure Cleaning.ErpnextPutIn (cleaning : Cleaning) (tenant : LoadedTenant) : Prop where
  named : ∀ e ∈ tenant.entitlements, e.mandatory = true → cleaning.clean e.appSlug ≠ ""
  putIn : tenant.entitlements = [] ∨
    (∃ e ∈ tenant.entitlements, e.mandatory = true ∧ cleaning.clean e.appSlug = "erpnext") ∨
    tenant.selectedApp = some "erpnext" ∨ cleaning.clean (tenant.plan cleaning) = "enterprise" ∨
    ((∀ e ∈ tenant.entitlements, e.mandatory = false) ∧ tenant.selectedApp = none)

/-- A selected app that passed is one of the list, so it is its own cleaning. -/
theorem Cleaning.SelectionPassed.cleaned (h : cleaning.SelectionPassed tenant) :
    ∀ app ∈ tenant.selectedApp, cleaning.clean app = app ∧ app ≠ "" := by
  intro app happ
  obtain ⟨plan, requested, -, hpassed⟩ := h
  obtain ⟨-, htaken⟩ := Cleaning.validateSelectedAppForPlan_iff.1 hpassed
  rw [Option.mem_def.1 happ] at htaken
  have hname : ∀ name ∈ "erpnext" :: businessApps, name.toList.all isNameChar = true ∧ name ≠ "" := by decide +kernel
  obtain ⟨hchars, hne⟩ := hname app htaken.2.1
  exact ⟨cleaning.clean_name app hchars, hne⟩

/-- What is on the list has a name. -/
theorem Cleaning.ne_of_mem (h : a ∈ cleaning.deriveAppInstallList tenant) : a ≠ "" := by
  rcases Cleaning.mem_deriveAppInstallList.1 h with hcollected | ⟨-, rfl⟩
  · rcases Cleaning.mem_collectedApps.1 hcollected with hrequired | ⟨-, rfl⟩ | ⟨selected, -, -, hne⟩ | ⟨-, rfl | hlegacy⟩
    · obtain ⟨e, -, -, -, hne⟩ := hrequired
      exact hne
    · decide
    · exact hne
    · decide
    · rintro rfl
      revert hlegacy
      decide
  · decide

theorem Cleaning.InstallsAll.putIn (hpassed : cleaning.SelectionPassed tenant) (h : cleaning.InstallsAll tenant) :
    cleaning.ErpnextPutIn tenant := by
  have hnamed : ∀ e ∈ tenant.entitlements, e.mandatory = true → cleaning.clean e.appSlug ≠ "" :=
    fun e he hmandatory => Cleaning.ne_of_mem (h.mandatory e he hmandatory)
  refine ⟨hnamed, ?_⟩
  rcases Cleaning.mem_deriveAppInstallList.1 h.erpnext with hcollected | ⟨hempty, -⟩
  · rcases Cleaning.mem_collectedApps.1 hcollected with hrequired | ⟨hnone, -⟩ | ⟨selected, hselected, hclean, -⟩ |
      ⟨henterprise, -⟩
    · obtain ⟨e, he, hmandatory, hclean, -⟩ := hrequired
      exact Or.inr (Or.inl ⟨e, he, hmandatory, hclean⟩)
    · exact Or.inl hnone
    · rw [(hpassed.cleaned selected hselected).1] at hclean
      exact Or.inr (Or.inr (Or.inl (hclean ▸ Option.mem_def.1 hselected)))
    · exact Or.inr (Or.inr (Or.inr (Or.inl henterprise)))
  · -- nothing was collected, so nothing is mandatory and nothing selected
    have hnot : ∀ a, a ∉ (cleaning.collectedApps tenant).keys := by
      rw [hempty]
      exact fun _ => List.not_mem_nil
    refine Or.inr (Or.inr (Or.inr (Or.inr ⟨fun e he => ?_, ?_⟩)))
    · by_contra hmandatory
      rw [Bool.not_eq_false] at hmandatory
      exact hnot _ (Cleaning.mem_collectedApps.2 (Or.inl ⟨e, he, hmandatory, rfl, hnamed e he hmandatory⟩))
    · cases hselected : tenant.selectedApp with
      | none => rfl
      | some selected =>
        obtain ⟨hclean, hne⟩ := hpassed.cleaned selected hselected
        exact absurd (Cleaning.mem_collectedApps.2 (Or.inr (Or.inr (Or.inl ⟨selected, hselected, hclean, hne⟩))))
          (hnot selected)

theorem Cleaning.ErpnextPutIn.erpnext (h : cleaning.ErpnextPutIn tenant) :
    "erpnext" ∈ cleaning.deriveAppInstallList tenant := by
  rw [Cleaning.mem_deriveAppInstallList, Cleaning.mem_collectedApps]
  rcases h.putIn with hnone | ⟨e, he, hmandatory, hclean⟩ | hselected | henterprise | ⟨hnothing, hunselected⟩
  · exact Or.inl (Or.inr (Or.inl ⟨hnone, rfl⟩))
  · exact Or.inl (Or.inl ⟨e, he, hmandatory, hclean, by decide⟩)
  · have hclean : cleaning.clean "erpnext" = "erpnext" := cleaning.clean_name _ (by decide)
    exact Or.inl (Or.inr (Or.inr (Or.inl ⟨_, hselected, hclean, by decide⟩)))
  · exact Or.inl (Or.inr (Or.inr (Or.inr ⟨henterprise, Or.inl rfl⟩)))
  · by_cases hempty : (cleaning.collectedApps tenant).keys = []
    · exact Or.inr ⟨hempty, rfl⟩
    · -- what was collected is neither an entitlement nor selected
      obtain ⟨a, ha⟩ := List.exists_mem_of_ne_nil _ hempty
      rcases Cleaning.mem_collectedApps.1 ha with ⟨e, he, hmandatory, -⟩ | ⟨hnone, -⟩ | ⟨selected, hselected, -⟩ |
        ⟨henterprise, -⟩
      · rw [hnothing e he] at hmandatory
        cases hmandatory
      · exact Or.inl (Or.inr (Or.inl ⟨hnone, rfl⟩))
      · rw [hunselected] at hselected
        cases hselected
      · exact Or.inl (Or.inr (Or.inr (Or.inr ⟨henterprise, Or.inl rfl⟩)))

/-- For a selected app that passed, nothing is missing on the list if and only if `erpnext` is put in. -/
theorem installs_all_iff (cleaning : Cleaning) (tenant : LoadedTenant) (h : cleaning.SelectionPassed tenant) :
    cleaning.InstallsAll tenant ↔ cleaning.ErpnextPutIn tenant := by
  refine ⟨fun hall => hall.putIn h, fun hput => ?_⟩
  have hcollected : ∀ a, a ∈ (cleaning.collectedApps tenant).keys → a ∈ cleaning.deriveAppInstallList tenant :=
    fun a ha => Cleaning.mem_deriveAppInstallList.2 (Or.inl ha)
  refine ⟨Cleaning.deriveAppInstallList_nodup, hput.erpnext, fun e he hmandatory => ?_, fun app happ => ?_⟩
  · exact hcollected _ (Cleaning.mem_collectedApps.2 (Or.inl ⟨e, he, hmandatory, rfl, hput.named e he hmandatory⟩))
  · obtain ⟨hclean, hne⟩ := h.cleaned app happ
    exact hcollected _ (Cleaning.mem_collectedApps.2 (Or.inr (Or.inr (Or.inl ⟨app, happ, hclean, hne⟩))))

end

namespace Small

/-- A tenant on a plan with an app selected. -/
def loaded (plan : Plan) (selectedApp : Option String) : LoadedTenant := ⟨some ⟨some plan, selectedApp⟩, none, none⟩

/-- A business plan whose only entitlement is the app that may be selected. -/
def crmOnly : Plan := { businessPlan with entitlements := [⟨"crm", false, true⟩] }

end Small

theorem business_installs_all :
    Cleaning.unicode.InstallsAll (Small.loaded Small.businessPlan (some "crm")) ↔
      Cleaning.unicode.ErpnextPutIn (Small.loaded Small.businessPlan (some "crm")) :=
  installs_all_iff .unicode _ ⟨Small.businessPlan, some "CRM", fun _ hown => Option.some.inj hown, by decide +kernel⟩

example : Cleaning.unicode.deriveAppInstallList (Small.loaded Small.businessPlan (some "crm")) = ["erpnext", "crm"] := by
  decide +kernel

/-- A plan that only has an app to select is installed without `erpnext`. -/
theorem crm_only_without_erpnext :
    ¬∀ (cleaning : Cleaning) (tenant : LoadedTenant), cleaning.SelectionPassed tenant → cleaning.InstallsAll tenant := by
  intro h
  have hall := h .unicode (Small.loaded Small.crmOnly (some "crm"))
    ⟨Small.crmOnly, some "crm", fun _ hown => Option.some.inj hown, by decide +kernel⟩
  have hlist : Cleaning.unicode.deriveAppInstallList (Small.loaded Small.crmOnly (some "crm")) = ["crm"] := by
    decide +kernel
  have herpnext := hall.erpnext
  rw [hlist] at herpnext
  revert herpnext
  decide

end ControlPlane
