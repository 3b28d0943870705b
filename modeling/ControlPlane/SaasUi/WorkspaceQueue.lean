import ControlPlane.BillingGates
import ControlPlane.Tenant.PagedList

/-!
# The workspace queue

What the workspace pages show.  The page asks the API for a filtered page of tenants; where the API has no such
endpoint, it loads all tenants of the user and filters them itself.
-/

namespace ControlPlane.SaasUi

/-- The browser's `trim` and `toLowerCase`. -/
structure BrowserText where
  trim : String → String
  toLowerCase : String → String
  trim_space : ∀ text, trim (" " ++ text) = trim text
  toLowerCase_eq_empty : ∀ text, toLowerCase text = "" ↔ text = ""

/-- Functions that do on printable ASCII texts what the browser's do. -/
def BrowserText.ascii : BrowserText where
  trim := strip
  toLowerCase := lower
  trim_space := strip_space
  toLowerCase_eq_empty := lower_eq_empty

/-- What the list reads of a tenant that the API returns. -/
structure ListedTenant where
  id : Nat
  subdomain : String
  domain : String
  companyName : String
  status : String
  billingStatus : String
  paymentChannel : Option String
  deriving DecidableEq, Repr

/-- A tenant as the API returns it. -/
def listed (row : TenantRow) : ListedTenant where
  id := row.tenant.id
  subdomain := row.tenant.subdomain
  domain := row.tenant.domain
  companyName := row.tenant.companyName
  status := row.tenant.status.text
  billingStatus := (toLegacyBillingStatus ((row.subscription.map Subscription.status).getD .pending)).text
  paymentChannel := row.tenant.paymentChannel

/-- `LoadWorkspaceQueueParams`, but for the page. -/
structure LoadWorkspaceQueueParams where
  showStatusFilter : Bool
  statusFilter : Option (List String) := none
  statusFilterValue : String
  search : String
  planFilter : String
  billingFilter : Option (List String) := none
  paymentChannelFilter : Option (List String) := none
  billingFilterMode : FilterMode := .and
  deriving DecidableEq, Repr

/-! ### The filters of the page -/

variable (text : BrowserText)

/-- `normalizeWorkspaceQueueValue`. -/
def normalizeWorkspaceQueueValue (value : Option String) : String := text.toLowerCase (text.trim (value.getD ""))

/-- `value ? allowed.has(normalizeWorkspaceQueueValue(value)) : false`. -/
def isAllowed (allowed : List String) (value : Option String) : Bool :=
  (orText value none).any fun value => decide (normalizeWorkspaceQueueValue text (some value) ∈ allowed)

/-- `new Set(filter.map(normalizeWorkspaceQueueValue))`. -/
def allowedValues (filter : List String) : List String :=
  filter.map fun value => normalizeWorkspaceQueueValue text (some value)

/-- `applyWorkspaceQueueFallbackFilters`; a missing filter is an empty one. -/
def applyWorkspaceQueueFallbackFilters (tenants : List ListedTenant) (statusFilter billingFilter : List String)
    (billingFilterMode : FilterMode) (paymentChannelFilter : List String) : List ListedTenant :=
  let allowedStatus := allowedValues text statusFilter
  let allowedBilling := allowedValues text billingFilter
  let allowedChannel := allowedValues text paymentChannelFilter
  if statusFilter ≠ [] ∧ billingFilter ≠ [] ∧ billingFilterMode = .or then
    tenants.filter fun tenant =>
      decide (normalizeWorkspaceQueueValue text (some tenant.status) ∈ allowedStatus) ||
        isAllowed text allowedBilling (some tenant.billingStatus) || isAllowed text allowedChannel tenant.paymentChannel
  else
    let filtered := if statusFilter = [] then tenants
      else tenants.filter fun tenant => decide (normalizeWorkspaceQueueValue text (some tenant.status) ∈ allowedStatus)
    let filtered := if billingFilter = [] then filtered
      else filtered.filter fun tenant => isAllowed text allowedBilling (some tenant.billingStatus)
    if paymentChannelFilter = [] then filtered
    else filtered.filter fun tenant => isAllowed text allowedChannel tenant.paymentChannel

/-- `applyWorkspaceQueueSearchFallback`. -/
def applyWorkspaceQueueSearchFallback (tenants : List ListedTenant) (search : String) : List ListedTenant :=
  let term := text.toLowerCase (text.trim search)
  if term = "" then tenants
  else tenants.filter fun tenant =>
    [some tenant.companyName, some tenant.subdomain, some tenant.domain, tenant.paymentChannel].any fun value =>
      value.any fun value => decide (term.toList <:+: (text.toLowerCase value).toList)

/-- `resolveWorkspaceQueueStatusFilter`: one value, or a list of them. -/
def resolveWorkspaceQueueStatusFilter (params : LoadWorkspaceQueueParams) : Option (String ⊕ List String) :=
  if ¬params.showStatusFilter ∧ params.statusFilter.getD [] ≠ [] then params.statusFilter.map .inr
  else if params.statusFilterValue = "all" then none
  else some (.inl params.statusFilterValue)

/-- `Array.isArray(value) ? value : value ? [value] : []`. -/
def asList (value : Option (String ⊕ List String)) : List String :=
  match value with
  | some (.inr values) => values
  | some (.inl value) => if value = "" then [] else [value]
  | none => []

/-- `loadWorkspaceQueue` without the paged endpoint, on all tenants of the user: the visible ones. -/
def loadWorkspaceQueue (params : LoadWorkspaceQueueParams) (tenants : List ListedTenant) : List ListedTenant :=
  applyWorkspaceQueueSearchFallback text
    (applyWorkspaceQueueFallbackFilters text tenants (asList (resolveWorkspaceQueueStatusFilter params))
      (params.billingFilter.getD []) params.billingFilterMode (params.paymentChannelFilter.getD []))
    params.search

/-! ### What is asked of the API -/

/-- The values that `appendQueryValues` appends. -/
def appendQueryValues (values : List String) : List String :=
  ((values.flatMap splitComma).map text.trim).filter (· ≠ "")

/-- The query of `loadWorkspaceQueue` and `listTenantsPaged`; an empty parameter is not set. -/
def pagedQuery (params : LoadWorkspaceQueueParams) : PagedQuery where
  status := appendQueryValues text (asList (resolveWorkspaceQueueStatusFilter params))
  -- the page drops `all` and `listTenantsPaged` the empty text
  plan := if params.planFilter = "all" then none else orText (some params.planFilter) none
  billingStatus := appendQueryValues text (params.billingFilter.getD [])
  paymentChannel := appendQueryValues text (params.paymentChannelFilter.getD [])
  filterMode := params.billingFilterMode
  search := orText (some (text.trim params.search)) none

end ControlPlane.SaasUi
