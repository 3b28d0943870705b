import ControlPlane.Subscription.Linked

/-!
# Tenant creation as a whole

`create_tenant_and_start_checkout` commits the tenant before it asks the gateway for a checkout.  Whatever fails after
that first commit leaves the tenant's rows, and a repeated request meets them as a taken domain.
-/

namespace ControlPlane

open Table Session Session.Proc

/-- What a request to create a tenant asks for. -/
structure CreationRequest where
  owner : User
  subdomain : String
  companyName : String
  plan : String
  chosenApp : Option String

namespace CreationRequest

/-- The request run in a new session. -/
def run (r : CreationRequest) (env : Env) (db : Db) (queue : List Task) : Except PyError Nat × DbSession :=
  createTenantAndStartCheckout env r.owner r.subdomain r.companyName r.plan r.chosenApp (opened db queue)

/-- The rows the request would commit first. -/
def prepare (r : CreationRequest) (env : Env) (db : Db) : Except PyError ((Nat × Plan × Option String) × Db) :=
  prepareTenant env.settings r.owner r.subdomain r.companyName r.plan r.chosenApp (env.clock 0) db

/-- Nothing stands in the request's way: the rows pass its checks, every checkout is accepted and no commit fails. -/
structure Unhindered (r : CreationRequest) (env : Env) (db : Db) : Prop where
  checks : ∃ prepared, r.prepare env db = .ok prepared
  checkout : ∀ tenant, ∃ checkout, startCheckout env tenant r.owner = .ok checkout
  commits : ∀ tick, env.commitFails tick = false

/-- Nothing after the first commit fails for the tenant it wrote. -/
def Completes (r : CreationRequest) (env : Env) (tenant : Tenant) : Prop :=
  (env.commitFails 1 = false ∧ env.commitFails 2 = false ∧ env.commitFails 3 = false) ∧
    ∃ checkout, startCheckout env tenant r.owner = .ok checkout

/-- A request that raised left no row, so that it succeeds as soon as nothing stands in its way. -/
def AllOrNothing (r : CreationRequest) (env : Env) (db : Db) (queue : List Task) : Prop :=
  ∀ e s, r.run env db queue = (.error e, s) →
    (s.saved.organizations = db.organizations ∧ s.saved.tenants = db.tenants ∧
      s.saved.subscriptions = db.subscriptions ∧ s.saved.memberships = db.memberships) ∧
    ∀ env', r.Unhindered env' db → ∃ tenantId s', r.run env' s.saved s.outside = (.ok tenantId, s')

end CreationRequest

/-- The request of the small world's owner. -/
def Small.creation : CreationRequest := ⟨⟨1, "owner@example.com", false, true⟩, "acme", "Acme", "starter", none⟩

/-- A gateway that has no price for the plan. -/
def Small.unpriced : Env :=
  { Small.env with gateway := { Small.gateway with
      createCheckout := fun _ _ => .error (.valueError "No Stripe price configured for plan 'starter'") } }

/-! ### The rows of a new tenant -/

/-- The rows that stand when the gateway is asked: the tenant waits for its payment, and its subscription is as a new
tenant's. -/
structure NewTenant (db : Db) (tenant : Tenant) (plan : Plan) (trialStatus : SubscriptionStatus) : Prop where
  row : db.tenant? tenant.id = some tenant
  alone : ∀ t ∈ db.tenants, t.id = tenant.id → t = tenant
  waiting : tenant.status = .pendingPayment
  isolation : validatePlanIsolationModel plan = .ok ()
  subscription : ∃ s, db.subscriptionOf tenant.id = some s ∧ s.status = trialStatus

/-- What passed the checks before the first commit is a new tenant's rows. -/
theorem prepareTenant_newTenant {settings : Settings} {owner : User} {subdomain companyName plan : String}
    {chosenApp : Option String} {now : Time} {db db' : Db} {tenantId : Nat} {selectedPlan : Plan}
    {selectedApp : Option String}
    (h : prepareTenant settings owner subdomain companyName plan chosenApp now db =
      .ok ((tenantId, selectedPlan, selectedApp), db')) :
    ∃ tenant, tenant.id = tenantId ∧ db'.tenants = insert db.tenants tenant ∧
      NewTenant db' tenant selectedPlan (trialStart settings now).1 := by
  obtain ⟨hfresh, tenant, htenants, hid, hstatus⟩ := prepareTenant_ok h
  obtain ⟨subscription, hwritten, hsub⟩ := prepareTenant_subscription h
  have hisolation : validatePlanIsolationModel selectedPlan = .ok () := by
    obtain ⟨u, -, h⟩ := bind_eq_ok.1 h
    obtain ⟨cleanSubdomain, -, h⟩ := bind_eq_ok.1 h
    obtain ⟨⟨plan', db₁⟩, -, h⟩ := bind_eq_ok.1 h
    obtain ⟨app, -, h⟩ := bind_eq_ok.1 h
    obtain ⟨u', -, h⟩ := bind_eq_ok.1 h
    obtain ⟨⟨subscription', db₂⟩, hupsert, h⟩ := bind_eq_ok.1 h
    cases h
    obtain ⟨v, hvalid, -⟩ := bind_eq_ok.1 hupsert
    exact hvalid
  refine ⟨tenant, hid, htenants, ?_, ?_, hstatus, hisolation, subscription, ?_, hsub⟩
  · have hfree : get? db.tenants (key tenant) = none := by
      show get? db.tenants tenant.id = none
      rw [hid, hfresh]
      exact get?_fresh db.tenants
    unfold Db.tenant?
    rw [htenants]
    exact get?_insert_self hfree
  · intro t ht hkey
    rw [htenants] at ht
    rcases mem_insert.1 ht with hold | rfl
    · have hlt := key_lt_fresh hold
      change t.id < fresh db.tenants at hlt
      omega
    · rfl
  · rw [hid]
    exact hwritten.self

theorem NewTenant.eq_of_row {db : Db} {tenant tenant' : Tenant} {plan : Plan} {trialStatus : SubscriptionStatus}
    (h : NewTenant db tenant plan trialStatus) (hrow : db.tenant? tenant.id = some tenant') : tenant = tenant' :=
  Option.some.inj (h.row.symm.trans hrow)

theorem NewTenant.congr {db db' : Db} {tenant : Tenant} {plan : Plan} {trialStatus : SubscriptionStatus}
    (h : NewTenant db tenant plan trialStatus) (htenants : db'.tenants = db.tenants)
    (hsubscriptions : db'.subscriptions = db.subscriptions) : NewTenant db' tenant plan trialStatus := by
  refine ⟨?_, htenants ▸ h.alone, h.waiting, h.isolation, ?_⟩
  · unfold Db.tenant?
    rw [htenants]
    exact h.row
  · rw [subscriptionOf_congr hsubscriptions]
    exact h.subscription

/-- A flush leaves the row of a tenant that was not committed before. -/
theorem NewTenant.flush {saved db : Db} {tenant : Tenant} {plan : Plan} {trialStatus : SubscriptionStatus}
    (h : NewTenant db tenant plan trialStatus) (now : Time) (hfresh : tenant.id = fresh saved.tenants) :
    NewTenant (Db.flush now saved db) tenant plan trialStatus := by
  have hkept : Db.onUpdate Tenant.updatedAt (fun u t => { t with updatedAt := u }) now saved.tenants tenant = tenant := by
    have hfree : get? saved.tenants (key tenant) = none := by
      show get? saved.tenants tenant.id = none
      rw [hfresh]
      exact get?_fresh saved.tenants
    unfold Db.onUpdate
    split
    · rfl
    · rw [hfree]
  refine ⟨?_, ?_, h.waiting, h.isolation, h.subscription⟩
  · rw [Db.tenant?_flush_map, h.row, Option.map_some, hkept]
  · intro t ht hid
    obtain ⟨old, hold, rfl⟩ := List.mem_map.1 ht
    have hsame : old.id = tenant.id := by
      rcases Db.onUpdate_eq_or Tenant.updatedAt (fun u (t : Tenant) => { t with updatedAt := u }) now saved.tenants old with
        heq | heq
      · rw [heq] at hid
        exact hid
      · rw [heq] at hid
        exact hid
    rw [h.alone old hold hsame, hkept]

/-- A flush changes no tenant's domain. -/
theorem flush_domains (now : Time) (saved work : Db) :
    (Db.flush now saved work).tenants.map Tenant.domain = work.tenants.map Tenant.domain := by
  unfold Db.flush
  rw [List.map_map]
  refine List.map_congr_left fun t _ => ?_
  rcases Db.onUpdate_eq_or Tenant.updatedAt (fun u (t : Tenant) => { t with updatedAt := u }) now saved.tenants t with
    h | h
  · rw [Function.comp_apply, h]
  · rw [Function.comp_apply, h]

theorem put_domains {tenants : List Tenant} {row : Tenant} (h : ∀ t ∈ tenants, t.id = row.id → t.domain = row.domain) :
    (put tenants row).map Tenant.domain = tenants.map Tenant.domain := by
  unfold put
  rw [List.map_map]
  refine List.map_congr_left fun t ht => ?_
  rw [Function.comp_apply]
  split
  · rename_i hid
    exact (h t ht hid).symm
  · rfl

/-- What the gateway refuses is not recorded. -/
theorem NewTenant.recordCheckout_refused {env : Env} {owner : User} {db : Db} {tenant : Tenant} {plan : Plan}
    {trialStatus : SubscriptionStatus} (h : NewTenant db tenant plan trialStatus) (selectedApp : Option String)
    (trialEndsAt : Option Time) {e : PyError} (hcheckout : startCheckout env tenant owner = .error e) :
    recordCheckout env owner tenant.id plan selectedApp trialStatus trialEndsAt db = .error e := by
  have hrequired : requireTenant db tenant.id = .ok tenant := by
    rw [requireTenant, h.row]
  unfold recordCheckout
  simp only [hrequired, Bind.bind, Except.bind, hcheckout]

/-- A checkout of the gateway is recorded without a further refusal: the tenant waits for its payment, and its
subscription stays in its status. -/
theorem NewTenant.recordCheckout_accepted {env : Env} {owner : User} {db : Db} {tenant : Tenant} {plan : Plan}
    {trialStatus : SubscriptionStatus} (h : NewTenant db tenant plan trialStatus) (selectedApp : Option String)
    (trialEndsAt : Option Time) {checkout : CheckoutResult} (hcheckout : startCheckout env tenant owner = .ok checkout) :
    ∃ db', recordCheckout env owner tenant.id plan selectedApp trialStatus trialEndsAt db = .ok ((), db') ∧
      db'.tenants.map Tenant.domain = db.tenants.map Tenant.domain := by
  obtain ⟨s, hs, rfl⟩ := h.subscription
  have hrequired : requireTenant db tenant.id = .ok tenant := by
    rw [requireTenant, h.row]
  have hmoved : ∀ row : Tenant, row.status = tenant.status →
      transitionTenantStatus row .pending = .ok { row with status := .pending } := by
    intro row hrow
    refine transitionTenantStatus_of_allowed (Or.inr ?_)
    rw [hrow, h.waiting]
    decide
  have hreturns : ∃ r, recordCheckout env owner tenant.id plan selectedApp s.status trialEndsAt db = .ok r := by
    refine bind_succeeds hrequired (bind_succeeds hcheckout (bind_succeeds (hmoved _ rfl) ?_))
    obtain ⟨r, hr⟩ := upsertSubscriptionForTenant_again selectedApp (some checkout.provider) none
      (if checkout.provider = "stripe" then some checkout.customerRef else none) (some checkout.sessionId)
      (some trialEndsAt) h.isolation (show (db.putTenant _).subscriptionOf tenant.id = some s from hs)
    exact bind_succeeds hr ⟨_, rfl⟩
  obtain ⟨⟨⟨⟩, db'⟩, hr⟩ := hreturns
  refine ⟨db', hr, ?_⟩
  obtain ⟨tenant', htenant', hr⟩ := bind_eq_ok.1 hr
  obtain ⟨checkout', -, hr⟩ := bind_eq_ok.1 hr
  obtain ⟨moved, hpending, hr⟩ := bind_eq_ok.1 hr
  obtain ⟨⟨subscription, db₁⟩, hsub, hr⟩ := bind_eq_ok.1 hr
  obtain ⟨-, rfl⟩ := transitionTenantStatus_ok hpending
  obtain ⟨-, -, subscriptions, rfl⟩ := upsertSubscriptionForTenant_ok hsub
  cases hr
  rw [hrequired] at htenant'
  cases htenant'
  exact put_domains fun t ht hid => (congrArg Tenant.domain (h.alone t ht hid)).trans rfl

namespace CreationRequest

/-! ### What a request leaves -/

/-- A request that its checks refuse leaves the rows. -/
theorem run_refused {r : CreationRequest} {env : Env} {db : Db} {e : PyError} (queue : List Task)
    (h : r.prepare env db = .error e) : r.run env db queue = (.error e, opened db queue) := by
  unfold run createTenantAndStartCheckout
  rw [bind_ok (utcnow_apply env _), bind_error (change_error h)]

/-- So does one whose first commit fails. -/
theorem run_lost {r : CreationRequest} {env : Env} {db db' : Db} {p : Nat × Plan × Option String} (queue : List Task)
    (h : r.prepare env db = .ok (p, db')) (hcommit : env.commitFails 0 = true) :
    ∃ e s, r.run env db queue = (.error e, s) ∧ s.saved = db := by
  unfold run createTenantAndStartCheckout
  rw [bind_ok (utcnow_apply env _), bind_ok (change_ok h)]
  dsimp only
  rw [commit_bind, if_pos (by exact hcommit)]
  exact ⟨_, _, rfl, rfl⟩

/-- An audit entry is lost when its commit fails, and the request with it. -/
theorem audited_lost {α : Type} {env : Env} (action resource : String) (id : Option Nat) (a : α) {s : DbSession}
    (h : env.commitFails s.tick = true) :
    (recordAuditEvent env action resource id >>= fun _ => (pure a : Proc α)) s =
      (.error .operationalError, { s with work := s.saved, tick := s.tick + 1 }) := by
  refine bind_error ?_
  unfold recordAuditEvent
  rw [bind_ok (utcnow_apply env s), bind_ok (modify_apply _ _)]
  exact commit_error (if_pos h)

theorem audited_done {α : Type} {env : Env} (action resource : String) (id : Option Nat) (a : α) {s : DbSession}
    (h : env.commitFails s.tick = false) :
    ∃ rows, rows.tenants = (Db.flush (env.clock s.tick) s.saved s.work).tenants ∧
      (recordAuditEvent env action resource id >>= fun _ => (pure a : Proc α)) s =
        (.ok a, { s with work := rows, saved := rows, tick := s.tick + 1 }) := by
  have haudit : ∃ rows, rows.tenants = (Db.flush (env.clock s.tick) s.saved s.work).tenants ∧
      recordAuditEvent env action resource id s =
        (.ok (), { s with work := rows, saved := rows, tick := s.tick + 1 }) := by
    unfold recordAuditEvent
    rw [bind_ok (utcnow_apply env s), bind_ok (modify_apply _ _), commit_apply, if_neg (by simp [h])]
    refine ⟨_, ?_, rfl⟩
    rfl
  obtain ⟨rows, hrows, hrun⟩ := haudit
  exact ⟨rows, hrows, bind_ok hrun⟩

/-- The last part of a request, from the checkout on: it returns when the gateway accepts and both commits succeed, and
the tenants stay. -/
theorem record_ends {env : Env} {owner : User} {s : DbSession} {tenant : Tenant} {plan : Plan}
    {trialStatus : SubscriptionStatus} (hnew : NewTenant s.work tenant plan trialStatus) (selectedApp : Option String)
    (trialEndsAt : Option Time) 
    (hsaved : s.saved.tenants.map Tenant.domain = s.work.tenants.map Tenant.domain) :
    ∃ result s', (do
      change env fun _ _ db => recordCheckout env owner tenant.id plan selectedApp trialStatus trialEndsAt db
      commit env
      recordAuditEvent env "tenant.create" "tenants" (some tenant.id)
      return tenant.id : Proc Nat) s = (result, s') ∧ 
      s'.saved.tenants.map Tenant.domain = s.work.tenants.map Tenant.domain ∧
      ((∃ tenantId, result = .ok tenantId) ↔ (env.commitFails s.tick = false ∧ env.commitFails (s.tick + 1) = false) ∧
        ∃ checkout, startCheckout env tenant owner = .ok checkout) := by
  cases hcheckout : startCheckout env tenant owner with
  | error e =>
    rw [bind_error (change_error (hnew.recordCheckout_refused selectedApp trialEndsAt hcheckout))]
    exact ⟨_, _, rfl, hsaved, by simp⟩
  | ok checkout =>
    obtain ⟨db', hrecord, hdomains⟩ := hnew.recordCheckout_accepted selectedApp trialEndsAt hcheckout
    rw [bind_ok (change_ok hrecord)]
    cases h₁ : env.commitFails s.tick with
    | true =>
      rw [commit_bind_lost _ (by exact h₁)]
      exact ⟨_, _, rfl, hsaved, by simp⟩
    | false =>
      rw [commit_bind_done _ (by exact h₁)]
      have hcommitted : (Db.flush (env.clock s.tick) s.saved db').tenants.map Tenant.domain =
          s.work.tenants.map Tenant.domain := by
        rw [flush_domains, hdomains]
      cases h₂ : env.commitFails (s.tick + 1) with
      | true =>
        rw [audited_lost _ _ _ _ (by exact h₂)]
        exact ⟨_, _, rfl, hcommitted, by simp⟩
      | false =>
        obtain ⟨rows, hrows, hrun⟩ := audited_done "tenant.create" "tenants" (some tenant.id) tenant.id
          (s := { s with
            work := Db.flush (env.clock s.tick) s.saved db', saved := Db.flush (env.clock s.tick) s.saved db'
            tick := s.tick + 1 }) h₂
        refine ⟨_, _, hrun, ?_, by simp⟩
        show rows.tenants.map Tenant.domain = s.work.tenants.map Tenant.domain
        rw [hrows, flush_domains]
        exact hcommitted

/-- Past its first commit a request ends as `Completes` says, and the tenant stays either way. -/
theorem run_committed {r : CreationRequest} {env : Env} {db db' : Db} {p : Nat × Plan × Option String}
    (queue : List Task) {tenant : Tenant} (h : r.prepare env db = .ok (p, db')) (hcommit : env.commitFails 0 = false)
    (hid : tenant.id = p.1) (hfresh : tenant.id = fresh db.tenants)
    (hnew : NewTenant db' tenant p.2.1 (trialStart env.settings (env.clock 0)).1) :
    ∃ result s', r.run env db queue = (result, s') ∧ 
      s'.saved.tenants.map Tenant.domain = db'.tenants.map Tenant.domain ∧
      ((∃ tenantId, result = .ok tenantId) ↔ r.Completes env tenant) := by
  obtain ⟨tenantId, selectedPlan, selectedApp⟩ := p
  dsimp only at hid hnew
  subst hid
  have hrows := hnew.flush (env.clock 0) hfresh
  unfold run createTenantAndStartCheckout Completes
  rw [bind_ok (utcnow_apply env _), bind_ok (change_ok h)]
  dsimp only
  rw [commit_bind_done _ (by exact hcommit), bind_ok (modify_apply _ _)]
  cases h₁ : env.commitFails 1 with
  | true =>
    rw [commit_bind_lost _ (by exact h₁)]
    exact ⟨_, _, rfl, flush_domains _ _ _, by simp⟩
  | false =>
    rw [commit_bind_done _ (by exact h₁)]
    -- it changes no tenant, so the flush writes it as it is
    have hunchanged : ∀ (now : Time) (rows : Db), rows.tenants = (Db.flush (env.clock 0) db db').tenants →
        rows.attempts = (Db.flush (env.clock 0) db db').attempts →
        Db.flush now (Db.flush (env.clock 0) db db') rows = rows := fun now rows => Db.flush_of_eq
    dsimp only [opened]
    rw [hunchanged _ _ (by rfl) (by rfl)]
    have hmember : NewTenant { Db.flush (env.clock 0) db db' with
        memberships := insert (Db.flush (env.clock 0) db db').memberships
          ⟨fresh (Db.flush (env.clock 0) db db').memberships, tenant.id, r.owner.id, "owner"⟩ } tenant selectedPlan
        (trialStart env.settings (env.clock 0)).1 := hrows.congr rfl rfl
    obtain ⟨result, s', hrun, hdomains, hreturns⟩ := @record_ends env r.owner ⟨_, _, queue, 2⟩ tenant selectedPlan _
      hmember selectedApp (trialStart env.settings (env.clock 0)).2 rfl
    exact ⟨result, s', hrun, hdomains.trans (flush_domains _ _ _), hreturns.trans (by simp)⟩

/-! ### When a request is all or nothing -/

/-- The rows a request would commit, and what they are of. -/
theorem prepare_newTenant {r : CreationRequest} {env : Env} {db db' : Db} {p : Nat × Plan × Option String}
    (h : r.prepare env db = .ok (p, db')) :
    ∃ tenant, tenant.id = p.1 ∧ tenant.id = fresh db.tenants ∧ db'.tenants = insert db.tenants tenant ∧
      NewTenant db' tenant p.2.1 (trialStart env.settings (env.clock 0)).1 := by
  obtain ⟨tenant, hid, htenants, hnew⟩ := prepareTenant_newTenant h
  exact ⟨tenant, hid, hid.trans (prepareTenant_ok h).1, htenants, hnew⟩

/-- With nothing in its way a request succeeds. -/
theorem Unhindered.succeeds {r : CreationRequest} {env : Env} {db : Db} (h : r.Unhindered env db) (queue : List Task) :
    ∃ tenantId s, r.run env db queue = (.ok tenantId, s) := by
  obtain ⟨⟨p, db'⟩, hprepared⟩ := h.checks
  obtain ⟨tenant, hid, hfresh, -, hnew⟩ := prepare_newTenant hprepared
  obtain ⟨result, s, hrun, -, hreturns⟩ := run_committed queue hprepared (h.commits 0) hid hfresh hnew
  obtain ⟨tenantId, rfl⟩ := hreturns.2 ⟨⟨h.commits 1, h.commits 2, h.commits 3⟩, h.checkout tenant⟩
  exact ⟨tenantId, s, hrun⟩

/-- A request is all or nothing exactly when it never gets as far as its first commit, or nothing fails after it. -/
theorem all_or_nothing_iff (r : CreationRequest) (env : Env) (db : Db) (queue : List Task) :
    r.AllOrNothing env db queue ↔
      ∀ tenantId selectedPlan selectedApp db',
        r.prepare env db = .ok ((tenantId, selectedPlan, selectedApp), db') → env.commitFails 0 = false →
        ∀ tenant, db'.tenant? tenantId = some tenant → r.Completes env tenant := by
  constructor
  · intro h tenantId selectedPlan selectedApp db' hprepared hcommit tenant hrow
    obtain ⟨new, hid, hfresh, htenants, hnew⟩ := prepare_newTenant hprepared
    dsimp only at hid
    obtain rfl : new = tenant := hnew.eq_of_row (by rw [hid]; exact hrow)
    obtain ⟨result, s, hrun, hdomains, hreturns⟩ := run_committed queue hprepared hcommit hid hfresh hnew
    cases result with
    | ok created => exact hreturns.1 ⟨created, rfl⟩
    | error e =>
      -- the request raised and left one tenant more
      obtain ⟨⟨-, hleft, -⟩, -⟩ := h e s hrun
      have hlength := congrArg List.length hdomains
      rw [List.length_map, List.length_map, hleft, htenants, Table.insert, List.length_append] at hlength
      simp at hlength
  · intro h e s hrun
    have hsaved : s.saved = db := by
      cases hprepared : r.prepare env db with
      | error refusal =>
        rw [run_refused queue hprepared] at hrun
        cases hrun
        rfl
      | ok prepared =>
        obtain ⟨⟨tenantId, selectedPlan, selectedApp⟩, db'⟩ := prepared
        cases hcommit : env.commitFails 0 with
        | true =>
          obtain ⟨e', s', hlost, hsaved⟩ := run_lost queue hprepared hcommit
          rw [hrun] at hlost
          cases hlost
          exact hsaved
        | false =>
          obtain ⟨tenant, hid, hfresh, -, hnew⟩ := prepare_newTenant hprepared
          have hcompletes := h _ _ _ _ hprepared hcommit tenant (by rw [← hnew.row, hid])
          obtain ⟨result, s', hcommitted, -, hreturns⟩ := run_committed queue hprepared hcommit hid hfresh hnew
          obtain ⟨created, rfl⟩ := hreturns.2 hcompletes
          rw [hrun] at hcommitted
          cases hcommitted
    rw [hsaved]
    exact ⟨⟨rfl, rfl, rfl, rfl⟩, fun env' henv' => henv'.succeeds s.outside⟩

set_option maxRecDepth 100000 in
/-- A gateway without a price for the plan: the request is answered 503, and again 409 when the price is there. -/
theorem unpriced_creation_remains :
    ¬Small.creation.AllOrNothing Small.unpriced Small.world.db [] ∧
      (Small.creation.run Small.unpriced Small.world.db []).1 =
        .error (.httpException 503 "Billing provider is not configured for checkout") ∧
      (Small.creation.run Small.env Small.world.db []).1 = .ok 1 ∧
      (Small.creation.run Small.env (Small.creation.run Small.unpriced Small.world.db []).2.saved []).1 =
        .error (.httpException 409 "Tenant domain already exists") := by
  refine ⟨fun h => ?_, by decide +kernel, by decide +kernel, by decide +kernel⟩
  have hleft := (h _ _ (Prod.ext (by decide +kernel : (Small.creation.run Small.unpriced Small.world.db []).1 =
    .error (.httpException 503 "Billing provider is not configured for checkout")) rfl)).1.2.1
  revert hleft
  decide +kernel

end CreationRequest

end ControlPlane
