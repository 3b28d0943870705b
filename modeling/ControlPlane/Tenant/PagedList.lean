import ControlPlane.Base.Patterns
import ControlPlane.Models
import ControlPlane.Text

/-!
# The lists of tenants

`list_tenants` and `list_tenants_paginated` before the page is cut out, in the order of the table.  The second one turns
the values of its query into a `WHERE` clause: values are split at commas and normalised, `suspended` stands for three
statuses, billing statuses stand for subscription statuses, and a column that is `NULL` passes no clause.
-/

namespace ControlPlane

open Patterns

/-- Python's `strip` and `lower`, and the lower case of the database, which `ILIKE` compares in. -/
structure ServerText where
  strip : String → String
  lower : String → String
  sqlLower : Char → Char
  strip_head : ∀ text, (strip text).toList.head? ≠ some ' '
  lower_head : ∀ text, (lower text).toList.head? = some ' ' → text.toList.head? = some ' '
  sqlLower_percent : sqlLower '%' = '%'
  sqlLower_sqlLower : ∀ c, sqlLower (sqlLower c) = sqlLower c

/-- Python's functions, and a database that knows the case of ASCII letters. -/
def ServerText.python : ServerText where
  strip := ControlPlane.strip
  lower := ControlPlane.lower
  sqlLower := Char.toLower
  strip_head := ControlPlane.strip_head
  lower_head := ControlPlane.lower_head
  sqlLower_percent := by decide
  sqlLower_sqlLower := toLower_toLower

/-- A row of the query: a tenant, with what the outer joins find for it. -/
structure TenantRow where
  tenant : Tenant
  subscription : Option Subscription
  plan : Option Plan
  deriving DecidableEq, Repr

/-- The user's tenants: his own, those he is a member of, and all of them for an administrator. -/
def isAccessible (db : Db) (user : User) (tenant : Tenant) : Bool :=
  user.isAdmin ∨ tenant.ownerId = user.id ∨ ∃ m ∈ db.memberships, m.tenantId = tenant.id ∧ m.userId = user.id

/-- `list_tenants`. -/
def listTenants (db : Db) (user : User) : List TenantRow :=
  (db.tenants.filter (isAccessible db user)).map fun tenant =>
    let subscription := db.subscriptionOf tenant.id
    ⟨tenant, subscription, subscription.bind db.planOf⟩

inductive FilterMode where
  | and | or
  deriving DecidableEq, Repr

/-- The query parameters of `list_tenants_paginated`; a parameter that may be repeated is the list of its values. -/
structure PagedQuery where
  status : List String
  plan : Option String
  billingStatus : List String
  paymentChannel : List String
  filterMode : FilterMode
  search : Option String
  deriving DecidableEq, Repr

/-- `text.split(",")`. -/
def splitComma (text : String) : List String := (text.toList.splitOn ',').map String.ofList

/-- `_normalize_filter_values`. -/
def normalizeFilterValues (text : ServerText) (values : List String) : List String :=
  (((values.flatMap splitComma).map fun part => text.lower (text.strip part)).filter fun value =>
    value ≠ "" ∧ value ≠ "all").eraseDups

/-- The values of the status filter, where `suspended` stands for three statuses. -/
def expandTenantStatusFilters (text : ServerText) (values : List String) : List String :=
  ((normalizeFilterValues text values).flatMap fun value =>
    if value = "suspended" then ["suspended", "suspended_admin", "suspended_billing"] else [value]).eraseDups

/-- What a billing status stands for. -/
def subscriptionStatusesNamed (value : String) : List String :=
  (([("paid", ["active", "trialing"]), ("active", ["active", "trialing"]), ("trialing", ["trialing"]),
    ("failed", ["past_due"]), ("past_due", ["past_due"]), ("cancelled", ["cancelled"]), ("paused", ["paused"]),
    ("unpaid", ["pending", "paused"]), ("pending", ["pending"])] : List (String × List String)).lookup value).getD
      [value]

/-- `_expand_subscription_status_filters`. -/
def expandSubscriptionStatusFilters (text : ServerText) (values : List String) : List String :=
  ((normalizeFilterValues text values).flatMap subscriptionStatusesNamed).eraseDups

/-! ### The clauses -/

/-- `column IN values`. -/
def sqlIn (values : List String) (column : Option String) : Bool := column.any fun value => decide (value ∈ values)

/-- `column ILIKE pattern`. -/
def ilike (text : ServerText) (pattern : String) (column : Option String) : Bool :=
  column.any fun value => like (pattern.toList.map text.sqlLower) (value.toList.map text.sqlLower)

/-- The clauses on status, subscription and payment channel. -/
def filterClauses (text : ServerText) (query : PagedQuery) : List (TenantRow → Bool) :=
  let expandedStatuses := expandTenantStatusFilters text query.status
  let billingStatuses := expandSubscriptionStatusFilters text query.billingStatus
  let paymentChannels := normalizeFilterValues text query.paymentChannel
  (if expandedStatuses = [] then [] else [fun row => sqlIn expandedStatuses (some row.tenant.status.text)]) ++
    (if billingStatuses = [] then []
      else [fun row => sqlIn billingStatuses (row.subscription.map fun s => s.status.text)]) ++
    (if paymentChannels = [] then [] else [fun row => sqlIn paymentChannels row.tenant.paymentChannel])

/-- The clauses joined as the query asks; without clauses every row passes. -/
def passesFilters (text : ServerText) (query : PagedQuery) (row : TenantRow) : Bool :=
  let clauses := filterClauses text query
  match query.filterMode with
  -- no filter is added when there are no clauses
  | .or => clauses.isEmpty || clauses.any fun clause => clause row
  | .and => clauses.all fun clause => clause row

def passesPlan (query : PagedQuery) (row : TenantRow) : Bool :=
  match query.plan with
  | none => true
  | some plan => plan = "" || plan = "all" || decide (row.plan.map Plan.slug = some plan)

def passesSearch (text : ServerText) (query : PagedQuery) (row : TenantRow) : Bool :=
  match query.search with
  | none => true
  | some search =>
    let term := "%" ++ text.strip search ++ "%"
    -- only the empty text is no search: blanks search for everything that is not `NULL`
    search = "" ||
      [some row.tenant.companyName, some row.tenant.subdomain, some row.tenant.domain,
        row.subscription.map fun s => s.status.text, row.tenant.paymentChannel, row.plan.map Plan.slug].any
        (ilike text term)

/-- `list_tenants_paginated`: the tenants that are counted and cut into pages. -/
def listTenantsPaginated (text : ServerText) (query : PagedQuery) (db : Db) (user : User) : List TenantRow :=
  (listTenants db user).filter fun row =>
    passesFilters text query row && passesPlan query row && passesSearch text query row

end ControlPlane
