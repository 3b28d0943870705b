import ControlPlane.Base.Clauses
import ControlPlane.SaasUi.WorkspaceQueue

/-!
# The fallback of the workspace queue

The page's own filters and the API's `WHERE` clause are filters on the same three columns: the tenant's status, its
subscription's status and its payment channel.  But the page knows no aliases and only four billing statuses, takes no
value apart at its commas, compares channels without case or blanks, joins by `or` only if statuses and billing statuses
are asked for, ignores the plan, and does not search all columns.  So the fallback shows what the API would if and only
if the filters of both keep nothing, or if no text and no plan is asked for and the values name the same on both sides.
-/

namespace ControlPlane.SaasUi

open Clauses Patterns

/-- A filter on the columns that both sides look at. -/
abbrev QueueFilter := Clauses.Filter TenantStatus (Option SubscriptionStatus) (Option String)

/-- Values make a clause, if there are any. -/
def clauseOf {σ : Type} (values : List String) (named : Set σ) : Option (Set σ) :=
  if values = [] then none else some named

/-- `billing_status` of a subscription's status. -/
def billingStatusText (status : Option SubscriptionStatus) : String :=
  (toLegacyBillingStatus (status.getD .pending)).text

/-- What the page's filters ask for. -/
def fallbackFilter (text : BrowserText) (params : LoadWorkspaceQueueParams) : QueueFilter :=
  let statuses := asList (resolveWorkspaceQueueStatusFilter params)
  let billing := params.billingFilter.getD []
  let channels := params.paymentChannelFilter.getD []
  { any := statuses ≠ [] ∧ billing ≠ [] ∧ params.billingFilterMode = .or
    first := clauseOf statuses
      {status | normalizeWorkspaceQueueValue text (some status.text) ∈ allowedValues text statuses}
    second := clauseOf billing {status | isAllowed text (allowedValues text billing) (some (billingStatusText status))}
    third := clauseOf channels {channel | isAllowed text (allowedValues text channels) channel} }

/-- What the API's clauses ask for. -/
def queryFilter (text : ServerText) (query : PagedQuery) : QueueFilter :=
  let statuses := expandTenantStatusFilters text query.status
  let billing := expandSubscriptionStatusFilters text query.billingStatus
  let channels := normalizeFilterValues text query.paymentChannel
  { any := query.filterMode = .or
    first := clauseOf statuses {status | status.text ∈ statuses}
    second := clauseOf billing {status | sqlIn billing (status.map SubscriptionStatus.text)}
    third := clauseOf channels {channel | sqlIn channels channel} }

/-- The columns of a row. -/
def columns (row : TenantRow) : TenantStatus × Option SubscriptionStatus × Option String :=
  (row.tenant.status, row.subscription.map Subscription.status, row.tenant.paymentChannel)

section

variable {σ : Type} {values : List String} {named : Set σ} {a : σ}

theorem clauseOf_eq_none : clauseOf values named = none ↔ values = [] := by
  unfold clauseOf
  split <;> simp_all

theorem mem_clauseOf {s : Set σ} (h : s ∈ clauseOf values named) : values ≠ [] ∧ s = named := by
  unfold clauseOf at h
  split at h
  · cases h
  · rename_i hne
    cases h
    exact ⟨hne, rfl⟩

theorem forall_clauseOf : (∀ s ∈ clauseOf values named, a ∈ s) ↔ (values ≠ [] → a ∈ named) := by
  unfold clauseOf
  split <;> simp_all

theorem exists_clauseOf : (∃ s ∈ clauseOf values named, a ∈ s) ↔ values ≠ [] ∧ a ∈ named := by
  unfold clauseOf
  split <;> simp_all

end

/-! ### What the API keeps -/

theorem passesFilters_iff {text : ServerText} {query : PagedQuery} {row : TenantRow} :
    passesFilters text query row = true ↔ columns row ∈ (queryFilter text query).keeps := by
  unfold passesFilters filterClauses
  cases hmode : query.filterMode
  · have hany : (queryFilter text query).any = false := by simp [queryFilter, hmode]
    rw [Filter.mem_keeps_of_all hany]
    simp only [queryFilter, forall_clauseOf]
    split <;> split <;> split <;> simp_all [sqlIn, columns, Function.comp_def]
  · have hany : (queryFilter text query).any = true := by simp [queryFilter, hmode]
    rw [Filter.mem_keeps_of_any hany]
    simp only [queryFilter, exists_clauseOf, Filter.NoClause, clauseOf_eq_none]
    split <;> split <;> split <;> simp_all [sqlIn, columns, Function.comp_def]

/-! ### What the page keeps -/

/-- The page's filters on one tenant. -/
def passesFallback (text : BrowserText) (params : LoadWorkspaceQueueParams) (tenant : ListedTenant) : Bool :=
  let statuses := asList (resolveWorkspaceQueueStatusFilter params)
  let billing := params.billingFilter.getD []
  let channels := params.paymentChannelFilter.getD []
  let byStatus := decide (normalizeWorkspaceQueueValue text (some tenant.status) ∈ allowedValues text statuses)
  let byBilling := isAllowed text (allowedValues text billing) (some tenant.billingStatus)
  let byChannel := isAllowed text (allowedValues text channels) tenant.paymentChannel
  if statuses ≠ [] ∧ billing ≠ [] ∧ params.billingFilterMode = .or then byStatus || byBilling || byChannel
  else (statuses = [] || byStatus) && (billing = [] || byBilling) && (channels = [] || byChannel)

/-- The page's search on one tenant. -/
def passesFallbackSearch (text : BrowserText) (params : LoadWorkspaceQueueParams) (tenant : ListedTenant) : Bool :=
  let term := text.toLowerCase (text.trim params.search)
  term = "" ||
    [some tenant.companyName, some tenant.subdomain, some tenant.domain, tenant.paymentChannel].any fun value =>
      value.any fun value => decide (term.toList <:+: (text.toLowerCase value).toList)

theorem filter_or {tenants : List ListedTenant} {p : Prop} [Decidable p] {keep : ListedTenant → Bool} :
    (if p then tenants else tenants.filter keep) = tenants.filter fun tenant => p || keep tenant := by
  by_cases h : p <;> simp [h]

theorem loadWorkspaceQueue_eq (text : BrowserText) (params : LoadWorkspaceQueueParams) (tenants : List ListedTenant) :
    loadWorkspaceQueue text params tenants =
      tenants.filter fun tenant => passesFallback text params tenant && passesFallbackSearch text params tenant := by
  unfold loadWorkspaceQueue applyWorkspaceQueueFallbackFilters applyWorkspaceQueueSearchFallback
  simp only [filter_or]
  split
  · rename_i hor
    simp only [List.filter_filter]
    refine List.filter_congr fun tenant _ => ?_
    rw [passesFallback, passesFallbackSearch, if_pos hor, Bool.and_comm]
  · rename_i hand
    simp only [List.filter_filter]
    refine List.filter_congr fun tenant _ => ?_
    rw [passesFallback, passesFallbackSearch, if_neg hand, Bool.and_comm]
    simp only [Bool.and_comm, Bool.and_left_comm]

theorem passesFallback_iff {text : BrowserText} {params : LoadWorkspaceQueueParams} {row : TenantRow} :
    passesFallback text params (listed row) = true ↔ columns row ∈ (fallbackFilter text params).keeps := by
  unfold passesFallback
  dsimp only
  split
  · rename_i hor
    have hany : (fallbackFilter text params).any = true := by simpa [fallbackFilter] using hor
    rw [Filter.mem_keeps_of_any hany]
    simp only [fallbackFilter, exists_clauseOf, Filter.NoClause, clauseOf_eq_none]
    simp only [Bool.or_eq_true, decide_eq_true_eq]
    by_cases hchannel : params.paymentChannelFilter.getD [] = []
    · simp [hor.1, hor.2.1, hchannel, listed, columns, billingStatusText, allowedValues, isAllowed]
    · simp [hor.1, hor.2.1, hchannel, listed, columns, billingStatusText, or_assoc]
  · rename_i hand
    have hany : (fallbackFilter text params).any = false := by simpa [fallbackFilter] using hand
    rw [Filter.mem_keeps_of_all hany]
    simp only [fallbackFilter, forall_clauseOf]
    simp only [Bool.and_eq_true, Bool.or_eq_true, decide_eq_true_eq]
    simp [listed, columns, billingStatusText, and_assoc, imp_iff_not_or]

/-! ### One side beside the other -/

theorem normalizeFilterValues_head {text : ServerText} {values : List String} {value : String}
    (h : value ∈ normalizeFilterValues text values) : value.toList.head? ≠ some ' ' := by
  unfold normalizeFilterValues at h
  obtain ⟨hmem, -⟩ := List.mem_filter.1 (List.mem_eraseDups.1 h)
  obtain ⟨part, -, rfl⟩ := List.mem_map.1 hmem
  intro hhead
  exact text.strip_head part (text.lower_head _ hhead)

theorem mem_allowedValues {text : BrowserText} {filter : List String} {value : String} (h : value ∈ filter) :
    normalizeWorkspaceQueueValue text (some value) ∈ allowedValues text filter :=
  List.mem_map_of_mem h

/-- A blank in front of a channel is nothing to the page. -/
theorem isAllowed_space {text : BrowserText} {channels : List String} {channel : String} (h : channel ∈ channels) :
    isAllowed text (allowedValues text channels) (some (" " ++ channel)) = true := by
  have hne : " " ++ channel ≠ "" := by
    intro heq
    have hlist := congrArg String.toList heq
    rw [String.toList_append] at hlist
    cases hlist
  have hmem := @mem_allowedValues text _ _ h
  unfold normalizeWorkspaceQueueValue at hmem
  simpa [isAllowed, orText, hne, normalizeWorkspaceQueueValue, text.trim_space] using hmem

section

variable {browser : BrowserText} {server : ServerText} {values : List String}

@[simp] theorem appendQueryValues_nil : appendQueryValues browser [] = [] := rfl

@[simp] theorem normalizeFilterValues_nil : normalizeFilterValues server [] = [] := rfl

@[simp] theorem expandTenantStatusFilters_nil : expandTenantStatusFilters server [] = [] := rfl

@[simp] theorem expandSubscriptionStatusFilters_nil : expandSubscriptionStatusFilters server [] = [] := rfl

end

theorem mirrors (browser : BrowserText) (server : ServerText) (params : LoadWorkspaceQueueParams) :
    Filter.Mirrors (fallbackFilter browser params) (queryFilter server (pagedQuery browser params)) where
  first := by
    intro h
    have hvalues := clauseOf_eq_none.1 h
    simp [queryFilter, clauseOf, pagedQuery, hvalues]
  second := by
    intro h
    have hvalues := clauseOf_eq_none.1 h
    simp [queryFilter, clauseOf, pagedQuery, hvalues]
  third := by
    intro h
    have hvalues := clauseOf_eq_none.1 h
    simp [queryFilter, clauseOf, pagedQuery, hvalues]
  any := by
    intro h
    -- the page joins by `or` only if the API does
    obtain ⟨hstatus, -, hmode⟩ := of_decide_eq_true h
    exact ⟨decide_eq_true hmode, fun hnone => hstatus (clauseOf_eq_none.1 hnone)⟩
  all := by
    intro h hmode
    have hnot := of_decide_eq_false h
    have hor := of_decide_eq_true hmode
    by_cases hstatus : asList (resolveWorkspaceQueueStatusFilter params) = []
    · exact Or.inl (clauseOf_eq_none.2 hstatus)
    · refine Or.inr (clauseOf_eq_none.2 ?_)
      by_contra hbilling
      exact hnot ⟨hstatus, hbilling, hor⟩
  apart := by
    intro s hs
    obtain ⟨hne, rfl⟩ := mem_clauseOf hs
    obtain ⟨channel, hchannel⟩ := List.exists_mem_of_ne_nil _ hne
    -- with a blank in front the page still takes it for the channel, and the API compares it as it is
    refine ⟨some (" " ++ channel), isAllowed_space hchannel, none, by simp [isAllowed, orText], fun t ht => ?_⟩
    obtain ⟨-, rfl⟩ := mem_clauseOf ht
    have hout : ¬sqlIn (normalizeFilterValues server (pagedQuery browser params).paymentChannel)
        (some (" " ++ channel)) = true := by
      intro hin
      refine normalizeFilterValues_head (of_decide_eq_true hin) ?_
      rw [String.toList_append]
      rfl
    exact ⟨fun hin => absurd hin hout, fun hin => by cases hin⟩

/-- A tenant without a subscription passes no clause that one with a subscription would not. -/
theorem keeps_subscribed {text : ServerText} {query : PagedQuery} {status : TenantStatus}
    {subscription : Option SubscriptionStatus} {channel : Option String}
    (h : (status, subscription, channel) ∈ (queryFilter text query).keeps) :
    ∃ s, (status, some s, channel) ∈ (queryFilter text query).keeps := by
  cases subscription with
  | some s => exact ⟨s, h⟩
  | none =>
    refine ⟨.pending, ?_⟩
    cases hany : (queryFilter text query).any
    · rw [Filter.mem_keeps_of_all hany] at h ⊢
      refine ⟨h.1, ?_, h.2.2⟩
      have hsecond := forall_clauseOf.1 h.2.1
      exact forall_clauseOf.2 fun hne => absurd (hsecond hne) (by simp [sqlIn])
    · rw [Filter.mem_keeps_of_any hany] at h ⊢
      rcases h with h | h | h | h
      · exact Or.inl h
      · exact Or.inr (Or.inl h)
      · exact absurd (exists_clauseOf.1 h).2 (by simp [sqlIn])
      · exact Or.inr (Or.inr (Or.inr h))

/-! ### Texts that are searched for -/

/-- A database with one tenant, whose subscription has a plan. -/
def queueDb (status : TenantStatus) (subscription : Option SubscriptionStatus) (channel : Option String)
    (companyName slug : String) : Db :=
  { Db.empty with
    tenants := [⟨1, 1, none, "", "", "", companyName, status, "azampay", channel, none, none, 0⟩]
    plans := [⟨1, slug, true, "pooled", "daily", []⟩]
    subscriptions := subscription.toList.map fun s => ⟨1, 1, 1, s, none, none, none, none, none, none, none⟩ }

/-- Its row. -/
def queueRow (status : TenantStatus) (subscription : Option SubscriptionStatus) (channel : Option String)
    (companyName slug : String) : TenantRow where
  tenant := ⟨1, 1, none, "", "", "", companyName, status, "azampay", channel, none, none, 0⟩
  subscription := subscription.map fun s => ⟨1, 1, 1, s, none, none, none, none, none, none, none⟩
  plan := subscription.map fun _ => ⟨1, slug, true, "pooled", "daily", []⟩

def operator : User := ⟨1, "", true, true⟩

section

variable {status : TenantStatus} {subscription : Option SubscriptionStatus} {channel : Option String}
  {companyName slug : String}

theorem listTenants_queueDb : listTenants (queueDb status subscription channel companyName slug) operator =
    [queueRow status subscription channel companyName slug] := by
  cases subscription <;> rfl

theorem columns_queueRow :
    columns (queueRow status subscription channel companyName slug) = (status, subscription, channel) := by
  cases subscription <;> rfl

/-- Some text is found by a search of the API. -/
theorem exists_ilike (text : ServerText) (term : String) :
    ∃ value, ilike text ("%" ++ term ++ "%") (some value) = true := by
  have hlast : (("%" ++ term ++ "%").toList.map text.sqlLower).getLast? ≠ some '\\' := by
    rw [String.toList_append, List.map_append, List.getLast?_append_of_ne_nil _ (by simp)]
    show some (text.sqlLower '%') ≠ some '\\'
    rw [text.sqlLower_percent]
    decide
  refine ⟨String.ofList (sample (("%" ++ term ++ "%").toList.map text.sqlLower)), ?_⟩
  -- the characters of the sample are in lower case already
  have hlower : (sample (("%" ++ term ++ "%").toList.map text.sqlLower)).map text.sqlLower =
      sample (("%" ++ term ++ "%").toList.map text.sqlLower) := by
    refine (List.map_congr_left fun c hc => ?_).trans (List.map_id _)
    obtain ⟨d, -, rfl⟩ := List.mem_map.1 (mem_of_mem_sample hc)
    exact text.sqlLower_sqlLower d
  show like _ ((String.ofList _).toList.map text.sqlLower) = true
  rw [String.toList_ofList, hlower]
  exact like_sample hlast

/-- The page finds a tenant by its name. -/
theorem passesFallbackSearch_name {text : BrowserText} {params : LoadWorkspaceQueueParams} :
    passesFallbackSearch text params (listed (queueRow status subscription channel (text.trim params.search) slug)) =
      true := by
  simp [passesFallbackSearch, listed, queueRow]

/-- The page does not find a tenant by its plan. -/
theorem passesFallbackSearch_nameless {text : BrowserText} {params : LoadWorkspaceQueueParams}
    (h : text.trim params.search ≠ "") :
    passesFallbackSearch text params (listed (queueRow status subscription none "" slug)) = false := by
  have hterm : text.toLowerCase (text.trim params.search) ≠ "" := fun h' => h ((text.toLowerCase_eq_empty _).1 h')
  have hempty : text.toLowerCase "" = "" := (text.toLowerCase_eq_empty "").2 rfl
  simp [passesFallbackSearch, listed, queueRow, hterm, hempty]

/-- Some text is found by the API as a tenant's name, and as the plan of a tenant with a subscription. -/
theorem exists_searched (text : ServerText) (query : PagedQuery) :
    ∃ value, (∀ status subscription channel slug,
        passesSearch text query (queueRow status subscription channel value slug) = true) ∧
      ∀ status s channel name, passesSearch text query (queueRow status (some s) channel name value) = true := by
  cases hsearch : query.search with
  | none => exact ⟨"", fun _ _ _ _ => by simp [passesSearch, hsearch], fun _ _ _ _ => by simp [passesSearch, hsearch]⟩
  | some search =>
    obtain ⟨value, hvalue⟩ := exists_ilike text (text.strip search)
    refine ⟨value, fun status subscription channel slug => ?_, fun status s channel name => ?_⟩
    · simp [passesSearch, hsearch, queueRow, hvalue]
    · simp [passesSearch, hsearch, queueRow, hvalue]

theorem passesSearch_of_blank {browser : BrowserText} {server : ServerText} {params : LoadWorkspaceQueueParams}
    (h : browser.trim params.search = "") (row : TenantRow) :
    passesSearch server (pagedQuery browser params) row = true := by
  simp [passesSearch, pagedQuery, h, orText]

theorem passesFallbackSearch_of_blank {text : BrowserText} {params : LoadWorkspaceQueueParams}
    (h : text.trim params.search = "") (tenant : ListedTenant) : passesFallbackSearch text params tenant = true := by
  have hempty : text.toLowerCase "" = "" := (text.toLowerCase_eq_empty "").2 rfl
  simp [passesFallbackSearch, h, hempty]

/-! ### The plan -/

/-- A plan is asked for. -/
def FiltersPlan (params : LoadWorkspaceQueueParams) : Prop := params.planFilter ≠ "all" ∧ params.planFilter ≠ ""

theorem passesPlan_of_not {text : BrowserText} {params : LoadWorkspaceQueueParams} (h : ¬FiltersPlan params)
    (row : TenantRow) : passesPlan (pagedQuery text params) row = true := by
  have hplan : (pagedQuery text params).plan = none := by
    unfold FiltersPlan at h
    by_cases hall : params.planFilter = "all"
    · simp [pagedQuery, hall]
    · have hempty : params.planFilter = "" := by
        by_contra hne
        exact h ⟨hall, hne⟩
      simp [pagedQuery, hempty, orText]
  simp [passesPlan, hplan]

theorem passesPlan_iff {text : BrowserText} {params : LoadWorkspaceQueueParams} (h : FiltersPlan params)
    (row : TenantRow) :
    passesPlan (pagedQuery text params) row = true ↔ row.plan.map Plan.slug = some params.planFilter := by
  simp [passesPlan, pagedQuery, orText, h.1, h.2]

end

/-! ### When the fallback agrees -/

instance : Nonempty TenantStatus := ⟨.active⟩

/-- The page's filters and the API's clauses keep nothing; or neither a text nor a plan is asked for, and they keep
everything, or ask for the same. -/
def FallbackAgrees (browser : BrowserText) (server : ServerText) (params : LoadWorkspaceQueueParams) : Prop :=
  let page := fallbackFilter browser params
  let api := queryFilter server (pagedQuery browser params)
  (page.KeepsNone ∧ api.KeepsNone) ∨
    (browser.trim params.search = "" ∧ ¬FiltersPlan params ∧ ((page.KeepsAll ∧ api.KeepsAll) ∨ page.SameNames api))

section

variable {browser : BrowserText} {server : ServerText} {params : LoadWorkspaceQueueParams}

/-- The fallback and the API decide alike on a row. -/
def AgreeOn (browser : BrowserText) (server : ServerText) (params : LoadWorkspaceQueueParams)
    (row : TenantRow) : Prop :=
  passesFallback browser params (listed row) = true ∧ passesFallbackSearch browser params (listed row) = true ↔
    passesFilters server (pagedQuery browser params) row = true ∧ passesPlan (pagedQuery browser params) row = true ∧
      passesSearch server (pagedQuery browser params) row = true

theorem lists_eq_of_agreeOn (h : ∀ row, AgreeOn browser server params row) (db : Db) (user : User) :
    loadWorkspaceQueue browser params ((listTenants db user).map listed) =
      (listTenantsPaginated server (pagedQuery browser params) db user).map listed := by
  rw [loadWorkspaceQueue_eq, List.filter_map, listTenantsPaginated]
  congr 1
  refine List.filter_congr fun row _ => Bool.eq_iff_iff.2 ?_
  rw [Function.comp_apply, Bool.and_eq_true, Bool.and_eq_true, Bool.and_eq_true, and_assoc]
  exact h row

theorem agreeOn_of_lists_eq
    (h : ∀ db user, loadWorkspaceQueue browser params ((listTenants db user).map listed) =
      (listTenantsPaginated server (pagedQuery browser params) db user).map listed)
    (status : TenantStatus) (subscription : Option SubscriptionStatus) (channel : Option String)
    (companyName slug : String) :
    AgreeOn browser server params (queueRow status subscription channel companyName slug) := by
  have hlists := h (queueDb status subscription channel companyName slug) operator
  rw [loadWorkspaceQueue_eq, listTenantsPaginated, listTenants_queueDb, List.map_singleton, List.filter_singleton,
    List.filter_singleton] at hlists
  unfold AgreeOn
  rw [← Bool.and_eq_true, ← Bool.and_eq_true, ← Bool.and_eq_true, ← Bool.eq_iff_iff, ← Bool.and_assoc]
  generalize (passesFilters server (pagedQuery browser params) _ && _ && _) = kept at hlists ⊢
  generalize (passesFallback browser params _ && _) = shown at hlists ⊢
  cases kept <;> cases shown <;> simp at hlists ⊢

theorem agreeOn_of_fallbackAgrees (h : FallbackAgrees browser server params) (row : TenantRow) :
    AgreeOn browser server params row := by
  have hkeeps : (fallbackFilter browser params).keeps = (queryFilter server (pagedQuery browser params)).keeps := by
    refine (Filter.keeps_eq_iff (mirrors browser server params)).2 ?_
    rcases h with hnone | ⟨-, -, hsame⟩
    · exact Or.inl hnone
    · exact Or.inr hsame
  unfold AgreeOn
  rw [passesFallback_iff, passesFilters_iff, ← hkeeps]
  rcases h with ⟨hnone, -⟩ | ⟨hsearch, hplan, -⟩
  · rw [Filter.keeps_eq_empty_iff.2 hnone]
    exact ⟨fun h => absurd h.1 (Set.notMem_empty _), fun h => absurd h.1 (Set.notMem_empty _)⟩
  · have hpage := passesFallbackSearch_of_blank hsearch (listed row)
    have hapi := @passesSearch_of_blank browser server params hsearch row
    have hslug := @passesPlan_of_not browser params hplan row
    exact ⟨fun h => ⟨h.1, hslug, hapi⟩, fun h => ⟨h.1, hpage⟩⟩

/-- What an agreement on a row says of its columns, if the page finds it by its name. -/
theorem keeps_of_named
    (h : ∀ status subscription channel companyName slug,
      AgreeOn browser server params (queueRow status subscription channel companyName slug))
    {status : TenantStatus} {subscription : Option SubscriptionStatus} {channel : Option String} (slug : String)
    (hkept : (status, subscription, channel) ∈ (fallbackFilter browser params).keeps) :
    (status, subscription, channel) ∈ (queryFilter server (pagedQuery browser params)).keeps ∧
      passesPlan (pagedQuery browser params)
        (queueRow status subscription channel (browser.trim params.search) slug) = true := by
  have hpage : passesFallback browser params
      (listed (queueRow status subscription channel (browser.trim params.search) slug)) = true := by
    rw [passesFallback_iff, columns_queueRow]
    exact hkept
  obtain ⟨hfilters, hplan, -⟩ :=
    (h status subscription channel (browser.trim params.search) slug).1 ⟨hpage, passesFallbackSearch_name⟩
  rw [passesFilters_iff, columns_queueRow] at hfilters
  exact ⟨hfilters, hplan⟩

/-- A row that the API keeps and finds is kept and found by the page. -/
theorem keeps_of_searched {status : TenantStatus} {subscription : Option SubscriptionStatus} {channel : Option String}
    {companyName slug : String}
    (h : AgreeOn browser server params (queueRow status subscription channel companyName slug))
    (hkept : (status, subscription, channel) ∈ (queryFilter server (pagedQuery browser params)).keeps)
    (hplan : passesPlan (pagedQuery browser params) (queueRow status subscription channel companyName slug) = true)
    (hsearch : passesSearch server (pagedQuery browser params)
      (queueRow status subscription channel companyName slug) = true) :
    (status, subscription, channel) ∈ (fallbackFilter browser params).keeps ∧
      passesFallbackSearch browser params (listed (queueRow status subscription channel companyName slug)) = true := by
  have hapi : passesFilters server (pagedQuery browser params)
      (queueRow status subscription channel companyName slug) = true := by
    rw [passesFilters_iff, columns_queueRow]
    exact hkept
  obtain ⟨hpage, hfound⟩ := h.2 ⟨hapi, hplan, hsearch⟩
  rw [passesFallback_iff, columns_queueRow] at hpage
  exact ⟨hpage, hfound⟩

variable (h : ∀ status subscription channel companyName slug,
  AgreeOn browser server params (queueRow status subscription channel companyName slug))

include h

/-- The page ignores the plan. -/
theorem keepsNone_of_plan (hplan : FiltersPlan params) :
    (fallbackFilter browser params).keeps = ∅ ∧ (queryFilter server (pagedQuery browser params)).keeps = ∅ := by
  have hpage : (fallbackFilter browser params).keeps = ∅ := by
    refine Set.eq_empty_iff_forall_notMem.2 ?_
    rintro ⟨status, subscription, channel⟩ hkept
    -- on a plan without a slug the page shows what the API does not
    have hslug := (passesPlan_iff hplan _).1 (keeps_of_named h "" hkept).2
    cases subscription with
    | none => cases hslug
    | some s => exact hplan.2 (Option.some.inj hslug).symm
  refine ⟨hpage, Set.eq_empty_iff_forall_notMem.2 ?_⟩
  rintro ⟨status, subscription, channel⟩ hkept
  -- and on the plan that is asked for, under a name that is found, the API keeps what the page does not
  obtain ⟨s, hkept⟩ := keeps_subscribed hkept
  obtain ⟨value, hvalue, -⟩ := exists_searched server (pagedQuery browser params)
  have hboth := keeps_of_searched (h status (some s) channel value params.planFilter) hkept
    ((passesPlan_iff hplan _).2 rfl) (hvalue status (some s) channel params.planFilter)
  rw [hpage] at hboth
  exact hboth.1

theorem keeps_eq_of_noPlan (hplan : ¬FiltersPlan params) :
    (fallbackFilter browser params).keeps = (queryFilter server (pagedQuery browser params)).keeps := by
  obtain ⟨value, hvalue, -⟩ := exists_searched server (pagedQuery browser params)
  ext ⟨status, subscription, channel⟩
  constructor
  · intro hkept
    exact (keeps_of_named h "" hkept).1
  · intro hkept
    exact (keeps_of_searched (h status subscription channel value "") hkept (passesPlan_of_not hplan _)
      (hvalue status subscription channel "")).1

/-- The page does not search the plans. -/
theorem keepsNone_of_search (hplan : ¬FiltersPlan params) (hsearch : browser.trim params.search ≠ "") :
    (fallbackFilter browser params).keeps = ∅ := by
  have hkeeps := keeps_eq_of_noPlan h hplan
  obtain ⟨value, -, hvalue⟩ := exists_searched server (pagedQuery browser params)
  by_contra hsome
  -- a tenant with a subscription and without a payment channel passes the filters
  obtain ⟨status, s, hkept⟩ : ∃ status s,
      (status, some s, none) ∈ (queryFilter server (pagedQuery browser params)).keeps := by
    by_cases hthird : (fallbackFilter browser params).third = none
    · obtain ⟨⟨status, subscription, channel⟩, hkept⟩ := Set.nonempty_iff_ne_empty.2 hsome
      rw [hkeeps] at hkept
      obtain ⟨s, hkept⟩ := keeps_subscribed hkept
      refine ⟨status, s, (Filter.keeps_third_congr fun t ht => ?_).1 hkept⟩
      rw [(mirrors browser server params).third hthird] at ht
      cases ht
    · rcases Filter.keeps_eq_of_third (mirrors browser server params) hthird hkeeps with ⟨hnone, -⟩ | ⟨-, hall⟩
      · exact absurd hnone hsome
      · exact ⟨.active, .pending, hall ▸ Set.mem_univ _⟩
  -- and the API finds it by its plan, if it has no name
  have hfound := (keeps_of_searched (h status (some s) none "" value) hkept (passesPlan_of_not hplan _)
    (hvalue status s none "")).2
  rw [passesFallbackSearch_nameless hsearch] at hfound
  cases hfound

theorem fallbackAgrees_of_agreeOn : FallbackAgrees browser server params := by
  by_cases hplan : FiltersPlan params
  · obtain ⟨hpage, hapi⟩ := keepsNone_of_plan h hplan
    exact Or.inl ⟨Filter.keeps_eq_empty_iff.1 hpage, Filter.keeps_eq_empty_iff.1 hapi⟩
  · have hkeeps := keeps_eq_of_noPlan h hplan
    by_cases hsearch : browser.trim params.search = ""
    · rcases (Filter.keeps_eq_iff (mirrors browser server params)).1 hkeeps with hnone | hsame
      · exact Or.inl hnone
      · exact Or.inr ⟨hsearch, hplan, hsame⟩
    · have hpage := keepsNone_of_search h hplan hsearch
      exact Or.inl ⟨Filter.keeps_eq_empty_iff.1 hpage, Filter.keeps_eq_empty_iff.1 (hkeeps ▸ hpage)⟩

omit h

/-- The fallback shows the tenants of the filtered endpoint, whatever is in the database and whoever asks, if and only
if `FallbackAgrees`. -/
theorem fallback_agrees_iff (browser : BrowserText) (server : ServerText) (params : LoadWorkspaceQueueParams) :
    (∀ (db : Db) (user : User), loadWorkspaceQueue browser params ((listTenants db user).map listed) =
      (listTenantsPaginated server (pagedQuery browser params) db user).map listed) ↔
      FallbackAgrees browser server params := by
  constructor
  · intro h
    exact fallbackAgrees_of_agreeOn (agreeOn_of_lists_eq h)
  · intro h
    exact lists_eq_of_agreeOn (agreeOn_of_fallbackAgrees h)

end

/-- The filters of the support page. -/
def Small.supportQueue : LoadWorkspaceQueueParams where
  showStatusFilter := false
  statusFilter := some ["failed", "suspended", "suspended_admin", "suspended_billing"]
  statusFilterValue := "all"
  search := ""
  planFilter := "all"
  billingFilter := some ["failed", "past_due", "unpaid"]
  billingFilterMode := .or

/-- An active tenant whose subscription is paused. -/
def Small.pausedWorkspace : Db :=
  { Db.empty with
    tenants := [⟨1, 1, none, "arusha", "arusha.example.com", "arusha.example.com", "Arusha Retail", .active, "azampay",
      some "card", none, none, 0⟩]
    plans := [⟨1, "business", true, "pooled", "daily", []⟩]
    subscriptions := [⟨1, 1, 1, .paused, none, none, none, none, none, none, none⟩] }

theorem paused_escalation_hidden :
    ¬∀ (browser : BrowserText) (server : ServerText) (params : LoadWorkspaceQueueParams) (db : Db) (user : User),
      loadWorkspaceQueue browser params ((listTenants db user).map listed) =
        (listTenantsPaginated server (pagedQuery browser params) db user).map listed := by
  intro h
  have hlists := h .ascii .python Small.supportQueue Small.pausedWorkspace operator
  revert hlists
  decide +kernel

end ControlPlane.SaasUi
