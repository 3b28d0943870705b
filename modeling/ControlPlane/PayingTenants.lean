import ControlPlane.Subscription.Linked

/-!
# Paying tenants are not held for a payment

Every program that makes a subscription active takes its tenant out of `pending_payment` and `suspended_billing`, and every
program that puts a tenant there finds or leaves the subscription in another status.  The exception is the renewal of a
checkout, which is offered to any tenant that is still `pending`.
-/

namespace ControlPlane

open Table Session Session.Proc Runs

/-- The tenant's subscription is active, and the tenant waits for a payment. -/
def Db.payingHeld (db : Db) (tenantId : Nat) : Bool :=
  (db.subscriptionOf tenantId).any (fun s => s.status = .active) &&
    (db.tenantStatus tenantId).any fun status => status ∈ [TenantStatus.pendingPayment, .suspendedBilling]

/-- No paying tenant is held for a payment. -/
def Db.PayingNotHeld (db : Db) : Prop := ∀ tenantId, db.payingHeld tenantId = false

/-- A run of `provision_tenant` for the tenant would be refused its transition because the tenant waits for a payment,
though its subscription is active. -/
def Db.provisioningHeld (db : Db) (tenantId : Nat) : Bool :=
  (db.subscriptionOf tenantId).any (fun s => s.status = .active) && (db.tenant? tenantId).any fun tenant =>
    tenant.status ∈ [TenantStatus.pendingPayment, .suspendedBilling] &&
      !(transitionTenantStatus tenant .provisioning).isOk

/-- What a run keeps besides. -/
structure Db.PayingRows (db : Db) : Prop where
  filed : db.InvoicesFiled
  unique : db.SubscriptionsUnique
  linked : db.SubscriptionsLinked

/-- The plan with which a subscription's checkout is renewed is there, and its isolation model is supported. -/
def planRenewable (db : Db) (subscription : Subscription) : Bool :=
  match requirePlanBySlug db (((db.planOf subscription).map Plan.slug).getD "starter") with
  | .ok (plan, _) => normalize plan.isolationModel ∈ supportedIsolationModels
  | .error _ => false

/-- The checkout of a tenant is renewed that is `pending` and has an active subscription, and nothing stops the request: the
owner and the plan are there, the provider makes the checkout, and the commit succeeds. -/
def renewsPaid (w : World) (e : Event) : Bool :=
  match e.op with
  | .renewCheckout tenantId => (w.db.tenant? tenantId).any fun tenant =>
    tenant.status = .pending &&
      (w.db.subscriptionOf tenantId).any (fun s => s.status = .active && planRenewable w.db s) &&
      (w.db.user? tenant.ownerId).any (fun owner => (startCheckout e.env tenant owner).isOk) && !e.env.commitFails 0
  | _ => false

/-! ### Changes of one tenant -/

theorem payingHeld_congr {db db' : Db} {t : Nat} (hsubscription : db'.subscriptionOf t = db.subscriptionOf t)
    (hstatus : db'.tenantStatus t = db.tenantStatus t) : db'.payingHeld t = db.payingHeld t := by
  unfold Db.payingHeld
  rw [hsubscription, hstatus]

/-- A tenant whose subscription is not active is not held while it pays. -/
theorem payingHeld_of_subscription {db : Db} {t : Nat} {s : Subscription} (hs : db.subscriptionOf t = some s)
    (hstatus : s.status ≠ .active) : db.payingHeld t = false := by
  unfold Db.payingHeld
  rw [hs]
  simp [hstatus]

theorem payingHeld_of_status {db : Db} {t : Nat}
    (h : ∀ status, db.tenantStatus t = some status → status ∉ [TenantStatus.pendingPayment, .suspendedBilling]) :
    db.payingHeld t = false := by
  unfold Db.payingHeld
  cases hstatus : db.tenantStatus t with
  | none => simp
  | some status =>
    have hnot := h status hstatus
    rw [Option.any_some, decide_eq_false hnot, Bool.and_false]

namespace Db.PayingNotHeld

theorem congr {db db' : Db} (h : db.PayingNotHeld) (hsubscriptions : db'.subscriptions = db.subscriptions)
    (hstatus : ∀ t, db'.tenantStatus t = db.tenantStatus t) : db'.PayingNotHeld := by
  intro t
  rw [payingHeld_congr (subscriptionOf_congr hsubscriptions t) (hstatus t)]
  exact h t

/-- A tenant is moved to a status in which it does not wait for a payment, or while its subscription is not active. -/
theorem moved {db db' : Db} {tenantId : Nat} {status : TenantStatus} (h : db.PayingNotHeld)
    (hmoved : Moved db db' tenantId status) (hsubscriptions : db'.subscriptions = db.subscriptions)
    (hself : status ∉ [TenantStatus.pendingPayment, .suspendedBilling] ∨ db.tenantStatus tenantId = some status ∨
      ∀ s, db.subscriptionOf tenantId = some s → s.status ≠ .active) : db'.PayingNotHeld := by
  intro t
  have hsub := subscriptionOf_congr hsubscriptions t
  by_cases ht : t = tenantId
  · have hstatus := hmoved.tenantStatus t
    rw [if_pos ht] at hstatus
    rcases hself with hself | hself | hself
    · refine payingHeld_of_status fun st hst => ?_
      rw [hstatus] at hst
      obtain ⟨_, -, rfl⟩ := Option.map_eq_some_iff.1 hst
      exact hself
    · rw [payingHeld_congr hsub (by rw [hstatus, ht, hself]; rfl)]
      exact h t
    · unfold Db.payingHeld
      rw [hsub, ht]
      cases hs : db.subscriptionOf tenantId with
      | none => rfl
      | some s => simp [hself s hs]
  · rw [payingHeld_congr hsub (by rw [hmoved.tenantStatus, if_neg ht])]
    exact h t

/-- A tenant's subscription is written, and the tenant is moved: to another status than the two, or with a subscription that
is not active. -/
theorem written {db db' : Db} {tenantId : Nat} {row : Subscription} {status : TenantStatus} (h : db.PayingNotHeld)
    (hids : (db.subscriptions.map Subscription.id).Nodup) (hwritten : SubscriptionWritten db db' tenantId row)
    (hmoved : Moved db db' tenantId status)
    (hself : status ∉ [TenantStatus.pendingPayment, .suspendedBilling] ∨ row.status ≠ .active) : db'.PayingNotHeld := by
  intro t
  by_cases ht : t = tenantId
  · rw [ht]
    rcases hself with hself | hself
    · refine payingHeld_of_status fun st hst => ?_
      rw [hmoved.tenantStatus, if_pos rfl] at hst
      obtain ⟨_, -, rfl⟩ := Option.map_eq_some_iff.1 hst
      exact hself
    · exact payingHeld_of_subscription hwritten.self hself
  · rw [payingHeld_congr (hwritten.other hids ht) (by rw [hmoved.tenantStatus, if_neg ht])]
    exact h t

end Db.PayingNotHeld

/-! ### Reconciliation -/

theorem resyncOneInvoice_tenantId {client : PlatformErpClient} {db db' : Db} {tenant : Tenant}
    {invoice updated : BillingInvoice} {now : Time}
    (h : resyncOneInvoice client db tenant invoice now = .ok (updated, db')) (hown : invoice.tenantId = tenant.id) :
    updated.tenantId = tenant.id := by
  rcases resyncOneInvoice_ok h with ⟨rfl, -⟩ | ⟨customerId, item, -, -, -, hupsert, -⟩
  · exact hown
  · obtain ⟨-, db₂, found, due, paid, -, hfilled, -⟩ := upsertBillingInvoiceFromErpItem_ok hupsert
    rw [hfilled]
    rfl

/-- The subscription of an invoice is its tenant's. -/
theorem subscriptionOf_of_invoice {db : Db} {tenant : Tenant} {invoice : BillingInvoice} {s : Subscription}
    (hunique : db.SubscriptionsUnique) (hlinked : db.SubscriptionsLinked) (hrow : invoice ∈ db.invoices)
    (hown : invoice.tenantId = tenant.id) (h : subscriptionOfInvoice db tenant invoice = some s) :
    db.subscriptionOf tenant.id = some s := by
  unfold subscriptionOfInvoice at h
  rcases Option.or_eq_some_iff.1 h with hnamed | ⟨-, hnamed⟩
  · obtain ⟨id, hsid, hget⟩ := Option.bind_eq_some_iff.1 hnamed
    obtain ⟨s', hs', hs'id, hs't⟩ := hlinked invoice hrow id hsid
    have hsame : s = s' :=
      List.inj_on_of_nodup_map hunique.ids (mem_of_get? hget) hs' ((key_of_get? hget).trans hs'id.symm)
    rw [← hown, ← hs't, hsame]
    exact hunique.subscriptionOf hs'
  · exact hnamed

/-- A settled invoice makes its subscription active and moves the tenant; without a subscription neither is touched. -/
theorem reconcileSettledInvoice_rows {client : PlatformErpClient} {db db' : Db} {tenant : Tenant}
    {subscription : Option Subscription} {invoice : BillingInvoice} {attempt : Option PaymentAttempt}
    {result : InvoiceReconciliationResult} {now : Time} {r : InvoiceReconciliationResult × Option String}
    (h : reconcileSettledInvoice client db tenant subscription invoice attempt result now = .ok (r, db')) :
    (subscription = none ∧ db'.subscriptions = db.subscriptions ∧ db'.tenants = db.tenants) ∨
      ∃ (s row : Subscription) (runtimeExists : Bool), subscription = some s ∧ row.id = s.id ∧ row.tenantId = s.tenantId ∧
        row.status = .active ∧ db'.subscriptions = put db.subscriptions row ∧
        Moved db db' tenant.id (repairStatus tenant.status runtimeExists) := by
  obtain ⟨result', email⟩ := r
  obtain ⟨paid, updated, resolved, db₁, db₂, hpay, hresolve, -, hcases⟩ := reconcileSettledInvoice_parts rfl h
  obtain ⟨attempts, rfl⟩ := payAttemptFromErp_frame hpay
  cases hresolve
  rcases hcases with ⟨rfl, -, opened, db₃, hopen, rfl⟩ | ⟨s, activated, outcome, rfl, -, hrepair, ⟨hid, hactive⟩, -, rfl⟩
  · obtain ⟨exceptions, rfl⟩ := openBillingException_frame hopen
    exact Or.inl ⟨rfl, rfl, rfl⟩
  · exact Or.inr ⟨s, activated, client.runtimeExists ((nonEmpty tenant.siteName).getD tenant.domain), rfl, hid,
      applyPaidRepair_tenantId hrepair, hactive, rfl, { tenant with status := repairStatus tenant.status _ }, rfl, rfl, rfl,
      rfl⟩

/-- What a reconciliation of one of a tenant's invoices does to subscriptions and tenants: nothing, or the tenant's own
subscription is made active and the tenant moved. -/
theorem reconcileInvoice_subscription {tenantId invoiceId : Nat} {now : Time} {client : PlatformErpClient} {db db' : Db}
    {result : InvoiceReconciliationResult} {email : Option String} (hrows : db.PayingRows)
    (hbelong : InvoicesBelong [invoiceId] tenantId db)
    (h : reconcileInvoice tenantId invoiceId now client db = .ok ((result, email), db')) :
    (db'.subscriptions = db.subscriptions ∧ db'.tenants = db.tenants) ∨
      ∃ (tenant : Tenant) (row : Subscription) (runtimeExists : Bool), db.tenant? tenantId = some tenant ∧
        SubscriptionWritten db db' tenantId row ∧ row.status = .active ∧
        Moved db db' tenantId (repairStatus tenant.status runtimeExists) := by
  obtain ⟨tenant, htenant, hfound⟩ := bind_eq_ok.1 h
  obtain ⟨invoice, hinvoice, hstored⟩ := bind_eq_ok.1 hfound
  obtain ⟨⟨updated, db₁⟩, hresync, hrest⟩ := bind_eq_ok.1 hstored
  have htenant := requireTenant_ok htenant
  have hinvoice := requireInvoiceRow_ok hinvoice
  obtain rfl := Db.tenant?_id htenant
  obtain rfl : invoice.id = invoiceId := key_of_get? hinvoice
  have hupdated := resyncOneInvoice_tenantId hresync (hbelong invoice.id (List.mem_singleton_self _) invoice hinvoice)
  have hrow : updated ∈ db₁.invoices := mem_of_get? (resyncOneInvoice_row hinvoice hresync)
  have hlinked := hrows.linked.resync hresync
  obtain ⟨accounts, invoices, hframe⟩ := resyncOneInvoice_frame hresync
  have hsubscriptions : db₁.subscriptions = db.subscriptions := by rw [hframe]
  have htenants : db₁.tenants = db.tenants := by rw [hframe]
  have hjobs : db₁.jobs = db.jobs := by rw [hframe]
  dsimp only at hrest
  split at hrest
  · rcases reconcileSettledInvoice_rows hrest with ⟨-, hsame, hstay⟩ | ⟨s, row, runtimeExists, hs, hid, htenantId,
      hactive, hput, moved, hmoved, hmovedId, hstatus, hkept⟩
    · exact Or.inl ⟨hsame.trans hsubscriptions, hstay.trans htenants⟩
    · have hown : db.subscriptionOf tenant.id = some s := by
        rw [← subscriptionOf_congr hsubscriptions]
        exact subscriptionOf_of_invoice (hrows.unique.congr hsubscriptions) hlinked hrow hupdated hs
      rw [hsubscriptions] at hput
      rw [htenants] at hmoved
      exact Or.inr ⟨tenant, row, runtimeExists, htenant,
        ⟨htenantId.trans (tenantId_of_subscriptionOf hown), Or.inl ⟨s, hown, hid, hput⟩⟩, hactive,
        moved, hmoved, hmovedId, hstatus, hkept.trans hjobs⟩
  · obtain ⟨-, attempts, events, exceptions, rfl⟩ := reconcileUnsettledInvoice_frame (Except.ok.inj hrest)
    exact Or.inl ⟨hsubscriptions, htenants⟩

/-! ### What every step keeps -/

theorem Db.PayingRows.congr {db db' : Db} (h : db.PayingRows) (hinvoices : db'.invoices = db.invoices)
    (hsubscriptions : db'.subscriptions = db.subscriptions) : db'.PayingRows :=
  ⟨h.filed.congr hinvoices, h.unique.congr hsubscriptions, h.linked.congr hinvoices hsubscriptions⟩

theorem Db.PayingRows.written {db db' : Db} {tenantId : Nat} {row : Subscription} (h : db.PayingRows)
    (hwritten : SubscriptionWritten db db' tenantId row) (hinvoices : db'.invoices = db.invoices) : db'.PayingRows :=
  ⟨h.filed.congr hinvoices, hwritten.unique h.unique, h.linked.written h.unique.ids hwritten hinvoices⟩

theorem Db.PayingRows.resync {client : PlatformErpClient} {db db' : Db} {tenant : Tenant}
    {invoice updated : BillingInvoice} {now : Time} (h : db.PayingRows)
    (hresync : resyncOneInvoice client db tenant invoice now = .ok (updated, db')) : db'.PayingRows := by
  obtain ⟨accounts, invoices, hframe⟩ := resyncOneInvoice_frame hresync
  exact ⟨h.filed.resync hresync, h.unique.congr (by rw [hframe]), h.linked.resync hresync⟩

/-- An event writes its tenant's subscription and nothing else of the subscriptions. -/
theorem eventBody_payingRows {w : World} {e : Event} {provider : String} {event : WebhookEvent} {tick : Nat} {db db' : Db}
    {r : Handled} (h : db.PayingRows)
    (hr : eventBody provider event (e.env.clock tick) (e.env.erp tick) db = .ok (r, db')) : db'.PayingRows := by
  refine ⟨(invoicesFiled_ledger w e).handled h.filed hr, ?_, h.linked.handled h.unique hr⟩
  cases r with
  | ignored message =>
    rw [eventBody_ignored hr]
    exact h.unique
  | changed tenantId email =>
    obtain ⟨row, hwritten, -⟩ := eventBody_subscription hr
    exact hwritten.unique h.unique

theorem payingRows_preserved (w : World) (e : Event) (hw : w.db.PayingRows) : Preserved Db.PayingRows w e where
  core _ _ hcore h := h.congr (Db.invoices_of_core hcore) (Db.subscriptions_of_core hcore)
  flush _ _ _ _ h := h.congr rfl rfl
  invoiceIds _ h := h.filed.ids
  created _ _ _ _ _ _ _ _ _ _ h hr := by
    obtain ⟨row, hwritten, -⟩ := prepareTenant_subscription hr
    exact h.written hwritten (prepareTenant_ledger hr).invoices
  joined _ _ h := h.congr rfl rfl
  checkedOut _ _ _ _ _ _ _ _ _ _ h hr := by
    obtain ⟨row, hwritten⟩ := recordCheckout_subscription hr
    exact h.written hwritten (recordCheckout_ledger hr).invoices
  renewed _ _ _ _ hr := by
    obtain ⟨row, hwritten, -⟩ := prepareRenewedCheckout_subscription hr
    exact hw.written hwritten (prepareRenewedCheckout_ledger hr).1.invoices
  handled _ _ _ _ _ _ _ _ h hr := eventBody_payingRows (w := w) h hr
  synced tick tenantId limit db u db' h hr := by
    refine ⟨(invoicesFiled_ledger w e).synced tick tenantId limit db u db' h.filed hr, ?_, h.linked.sync hr⟩
    obtain ⟨tenant, -, hr⟩ := bind_eq_ok.1 hr
    obtain ⟨⟨rows, db₁⟩, hsync, hr⟩ := bind_eq_ok.1 hr
    obtain ⟨accounts, invoices, rfl⟩ := syncPlatformInvoicesForTenant_frame hsync
    cases hr
    exact h.unique.congr rfl
  attempted _ _ _ tenant _ _ _ _ _ hr := by
    obtain ⟨updated, db₁, checkout, hresync, -, -, -, rfl⟩ := preparePaymentAttempt_ledger hr
    have h₁ := hw.resync hresync
    have hinvoices := (addPaymentAttempt_ledger db₁ tenant updated checkout (e.env.clock 0)).invoices
    rcases addPaymentAttempt_subscription db₁ tenant updated checkout (e.env.clock 0) with hsame | ⟨s, row, -, -, hwritten⟩
    · exact h₁.congr hinvoices hsame
    · exact h₁.written hwritten hinvoices
  reconciled tick tenantId invoiceId db r db' h hbelong hr := by
    have hfiled := (invoicesFiled_ledger w e).reconciled h.filed hbelong hr
    obtain ⟨result, email⟩ := r
    obtain ⟨tenant, invoice, updated, db₁, -, -, hresync, hmarks⟩ := reconcileInvoice_ledger hr
    have hlinked : db'.invoices = db₁.invoices := by
      rcases hmarks with hsame | ⟨attempt, marked, -, -, hsame⟩
      · exact hsame.invoices
      · exact hsame.invoices
    obtain ⟨accounts, invoices, hframe⟩ := resyncOneInvoice_frame hresync
    have h₁ := h.resync hresync
    -- the repair writes the subscription after the sync, over the same invoices
    rcases reconcileInvoice_subscription h hbelong hr with ⟨hsame, -⟩ | ⟨tenant', row, runtimeExists, -, hwritten, -⟩
    · exact h₁.congr hlinked (by rw [hsame, hframe])
    · exact h₁.written (hwritten.congr (by rw [hframe]) rfl) hlinked
  expired _ _ _ _ _ h hr := by
    rcases expireTrial_subscription h.unique hr with rfl | ⟨tenant, s, row, -, -, -, hwritten, -⟩
    · exact h
    · exact h.written hwritten (expireTrial_ledger hr).1.invoices
  escalated _ _ _ _ _ h _ _ := h.congr rfl rfl
  moved _ _ _ h _ _ _ _ := h.congr rfl rfl
  registered _ _ _ _ h _ _ _ := h.congr rfl rfl

theorem step_payingRows {w : World} (e : Event) (h : w.db.PayingRows) : (step w e).db.PayingRows :=
  step_preserves (payingRows_preserved w e h) h

theorem eventStatus_paying (eventType : WebhookEventType) (current : TenantStatus) :
    eventStatus eventType current ∉ [TenantStatus.pendingPayment, .suspendedBilling] ∨
      eventSubscriptionStatus eventType ≠ .active := by
  cases eventType with
  | paymentConfirmed => exact Or.inl (by cases current <;> decide)
  | paymentFailed => exact Or.inr (by decide)
  | subscriptionCancelled => exact Or.inr (by decide)
  | other name => exact Or.inr (show SubscriptionStatus.pending ≠ .active by decide)

theorem trialStart_not_active (settings : Settings) (now : Time) : (trialStart settings now).1 ≠ .active := by
  unfold trialStart resolveTrialSubscriptionStatus
  split
  · show SubscriptionStatus.trialing ≠ .active
    decide
  · show SubscriptionStatus.pending ≠ .active
    decide

theorem subscriptionStatusForTenant_some (s : Subscription) : subscriptionStatusForTenant (some s) = s.status := by
  unfold subscriptionStatusForTenant
  rw [Option.map_some]
  cases s.status <;> rfl

/-! ### No other change holds a paying tenant -/

namespace Db.PayingNotHeld

/-- A tenant's row is replaced by one of the same status, or of one in which the tenant does not wait for a payment. -/
theorem putTenant {db : Db} {tenant moved : Tenant} (h : db.PayingNotHeld) (hrow : db.tenant? tenant.id = some tenant)
    (hid : moved.id = tenant.id)
    (hstatus : moved.status = tenant.status ∨ moved.status ∉ [TenantStatus.pendingPayment, .suspendedBilling]) :
    (db.putTenant moved).PayingNotHeld := by
  have hmoved : Moved db (db.putTenant moved) tenant.id moved.status := ⟨moved, rfl, hid, rfl, rfl⟩
  refine h.moved hmoved rfl ?_
  rcases hstatus with hsame | hnot
  · rw [hsame]
    exact Or.inr (Or.inl (Db.tenantStatus_of_tenant? hrow))
  · exact Or.inl hnot

/-- A new tenant starts with a trial or an unpaid subscription. -/
theorem prepareTenant {settings : Settings} {owner : User} {subdomain companyName plan : String} {app : Option String}
    {now : Time} {db db' : Db} {r : Nat × Plan × Option String} (h : db.PayingNotHeld)
    (hids : (db.subscriptions.map Subscription.id).Nodup)
    (hr : ControlPlane.prepareTenant settings owner subdomain companyName plan app now db = .ok (r, db')) :
    db'.PayingNotHeld := by
  intro t
  obtain ⟨row, hwritten, hstatus⟩ := prepareTenant_subscription hr
  obtain ⟨hid, tenant, hinsert, htenant, -⟩ := prepareTenant_ok hr
  by_cases ht : t = r.1
  · rw [ht]
    exact payingHeld_of_subscription hwritten.self (by rw [hstatus]; exact trialStart_not_active _ _)
  · have hfree : db.tenant? tenant.id = none := by
      rw [htenant, hid]
      exact get?_fresh db.tenants
    have hsame := Db.tenantStatus_insert hinsert hfree t
    rw [if_neg (by rw [htenant]; exact ht)] at hsame
    rw [payingHeld_congr (hwritten.other hids ht) hsame]
    exact h t

theorem recordCheckout {env : Env} {owner : User} {tenantId : Nat} {plan : Plan} {app : Option String}
    {status : SubscriptionStatus} {ends : Option Time} {db db' : Db} {u : Unit} (h : db.PayingNotHeld)
    (hids : (db.subscriptions.map Subscription.id).Nodup)
    (hr : ControlPlane.recordCheckout env owner tenantId plan app status ends db = .ok (u, db')) : db'.PayingNotHeld := by
  obtain ⟨row, hwritten⟩ := recordCheckout_subscription hr
  obtain ⟨tenant, htenant, -, hmoved⟩ := recordCheckout_ok hr
  rw [Db.tenant?_id htenant] at hmoved
  exact h.written hids hwritten hmoved (Or.inl (by decide))

/-- An event that makes the subscription active takes the tenant out of the two statuses. -/
theorem eventBody {provider : String} {event : WebhookEvent} {now : Time} {client : PlatformErpClient} {db db' : Db}
    {r : Handled} (h : db.PayingNotHeld) (hids : (db.subscriptions.map Subscription.id).Nodup)
    (hr : ControlPlane.eventBody provider event now client db = .ok (r, db')) : db'.PayingNotHeld := by
  cases r with
  | ignored message =>
    rw [eventBody_ignored hr]
    exact h
  | changed tenantId email =>
    obtain ⟨row, hwritten, hstatus⟩ := eventBody_subscription hr
    obtain ⟨tenant, -, rfl, -, -, hmoved⟩ := eventBody_changed hr
    refine h.written hids hwritten hmoved ?_
    rw [hstatus]
    exact eventStatus_paying event.eventType tenant.status

theorem syncForTenant {tenantId limit : Nat} {now : Time} {client : PlatformErpClient} {db db' : Db} {u : Unit}
    (h : db.PayingNotHeld) (hr : ControlPlane.syncForTenant tenantId limit now client db = .ok (u, db')) :
    db'.PayingNotHeld := by
  obtain ⟨tenant, -, hr⟩ := bind_eq_ok.1 hr
  obtain ⟨⟨rows, db₁⟩, hsync, hr⟩ := bind_eq_ok.1 hr
  obtain ⟨accounts, invoices, rfl⟩ := syncPlatformInvoicesForTenant_frame hsync
  cases hr
  exact h.congr rfl fun _ => rfl

/-- A payment attempt holds its tenant only while the subscription is not active. -/
theorem addPaymentAttempt {db : Db} {tenant : Tenant} (h : db.PayingNotHeld)
    (hids : (db.subscriptions.map Subscription.id).Nodup) (hrow : db.tenant? tenant.id = some tenant)
    (invoice : BillingInvoice) (checkout : CheckoutResult) (now : Time) :
    (addPaymentAttempt db tenant invoice checkout now).PayingNotHeld := by
  have htenant : db.tenantStatus tenant.id = some tenant.status := Db.tenantStatus_of_tenant? hrow
  have hmoved := addPaymentAttempt_moved db tenant invoice checkout now
  rcases addPaymentAttempt_subscription db tenant invoice checkout now with hsame | ⟨s, row, hs, hstatus, hwritten⟩
  · exact h.moved hmoved hsame (Or.inr (Or.inl htenant))
  · by_cases hactive : s.status = .active
    · -- a paying tenant is in neither of the two statuses, and stays where it is
      have hnot := h tenant.id
      unfold Db.payingHeld at hnot
      rw [hs, htenant, Option.any_some, Option.any_some, decide_eq_true hactive, Bool.true_and] at hnot
      exact h.written hids hwritten hmoved (Or.inl (of_decide_eq_false hnot))
    · exact h.written hids hwritten hmoved (Or.inr (by rw [hstatus]; exact hactive))

theorem reconcileInvoice {tenantId invoiceId : Nat} {now : Time} {client : PlatformErpClient} {db db' : Db}
    {r : InvoiceReconciliationResult × Option String} (h : db.PayingNotHeld) (hrows : db.PayingRows)
    (hbelong : InvoicesBelong [invoiceId] tenantId db)
    (hr : ControlPlane.reconcileInvoice tenantId invoiceId now client db = .ok (r, db')) : db'.PayingNotHeld := by
  obtain ⟨result, email⟩ := r
  rcases reconcileInvoice_subscription hrows hbelong hr with
    ⟨hsubscriptions, htenants⟩ | ⟨tenant, row, runtimeExists, -, hwritten, -, hmoved⟩
  · exact h.congr hsubscriptions fun t => Db.tenantStatus_congr htenants t
  · exact h.written hrows.unique.ids hwritten hmoved (Or.inl (repairStatus_not_held _ _))

theorem expireTrial {subscriptionId : Nat} {now : Time} {db db' : Db} {r : Option Nat} (h : db.PayingNotHeld)
    (hunique : db.SubscriptionsUnique) (hr : ControlPlane.expireTrial subscriptionId now db = .ok (r, db')) :
    db'.PayingNotHeld := by
  rcases expireTrial_subscription hunique hr with rfl | ⟨tenant, s, row, -, -, -, hwritten, hstatus, hmoved⟩
  · exact h
  · exact h.written hunique.ids hwritten hmoved (Or.inr (by rw [hstatus]; decide))

/-- Dunning escalates no tenant whose subscription is active. -/
theorem escalateTenant {context : DunningContext} {tenant : Tenant} {runtimeExists : Bool} {db : Db}
    (h : db.PayingNotHeld) (now : Time)
    (hdue : dunningEscalates context tenant (db.subscriptionOf tenant.id) runtimeExists now = true) :
    (escalateTenant tenant.id now db).PayingNotHeld := by
  intro t
  have hstatus := escalateTenant_tenantStatus tenant.id now db t
  by_cases ht : t = tenant.id
  · have hpaid := (of_decide_eq_true hdue).2.2.1
    have hsame : (ControlPlane.escalateTenant tenant.id now db).subscriptionOf tenant.id = db.subscriptionOf tenant.id :=
      rfl
    rw [ht]
    cases hs : db.subscriptionOf tenant.id with
    | none =>
      unfold Db.payingHeld
      rw [hsame, hs]
      rfl
    | some s =>
      refine payingHeld_of_subscription (hsame.trans hs) fun hactive => hpaid ?_
      rw [hs, subscriptionStatusForTenant_some, hactive]
      decide
  · rw [if_neg ht] at hstatus
    have hsame : (ControlPlane.escalateTenant tenant.id now db).payingHeld t = db.payingHeld t :=
      payingHeld_congr rfl hstatus
    rw [hsame]
    exact h t

end Db.PayingNotHeld

/-- Every step but the renewal of a checkout keeps paying tenants from being held. -/
theorem payingNotHeld_preserved (w : World) (e : Event) (hop : ∀ tenantId, e.op ≠ .renewCheckout tenantId)
    (hw : w.db.PayingRows ∧ w.db.PayingNotHeld) : Preserved (fun db => db.PayingRows ∧ db.PayingNotHeld) w e := by
  have hrows := payingRows_preserved w e hw.1
  exact {
    core := fun db db' hcore h => ⟨hrows.core db db' hcore h.1,
      h.2.congr (Db.subscriptions_of_core hcore) fun t => Db.tenantStatus_congr (Db.tenants_of_core hcore) t⟩
    flush := fun now saved work hs h => ⟨hrows.flush now saved work hs.1 h.1,
      h.2.congr rfl fun t => Db.tenantStatus_flush now saved work t⟩
    invoiceIds := fun db h => h.1.filed.ids
    created := fun he owner subdomain companyName plan app now db r db' h hr =>
      ⟨hrows.created he owner subdomain companyName plan app now db r db' h.1 hr,
        h.2.prepareTenant h.1.unique.ids hr⟩
    joined := fun db memberships h => ⟨hrows.joined db memberships h.1, h.2.congr rfl fun _ => rfl⟩
    checkedOut := fun he owner tenantId plan app status ends db u db' h hr =>
      ⟨hrows.checkedOut he owner tenantId plan app status ends db u db' h.1 hr,
        h.2.recordCheckout h.1.unique.ids hr⟩
    renewed := fun tenantId he => absurd he (hop tenantId)
    handled := fun delivery event he hparsed tick db r db' h hr =>
      ⟨hrows.handled delivery event he hparsed tick db r db' h.1 hr, h.2.eventBody h.1.unique.ids hr⟩
    synced := fun tick tenantId limit db u db' h hr =>
      ⟨hrows.synced tick tenantId limit db u db' h.1 hr, h.2.syncForTenant hr⟩
    attempted := fun invoiceId provider invoice tenant owner he hrow attemptId db' hr => by
      refine ⟨hrows.attempted invoiceId provider invoice tenant owner he hrow attemptId db' hr, ?_⟩
      obtain ⟨updated, db₁, checkout, hresync, -, -, -, rfl⟩ := preparePaymentAttempt_ledger hr
      obtain ⟨accounts, invoices, rfl⟩ := resyncOneInvoice_frame hresync
      have hown := (requireInvoice_ok hrow).2
      rw [← Db.tenant?_id hown] at hown
      have hsynced : Db.PayingNotHeld { w.db with accounts := accounts, invoices := invoices } :=
        hw.2.congr rfl fun _ => rfl
      exact hsynced.addPaymentAttempt hw.1.unique.ids hown updated checkout (e.env.clock 0)
    reconciled := fun tick tenantId invoiceId db r db' h hbelong hr =>
      ⟨hrows.reconciled tick tenantId invoiceId db r db' h.1 hbelong hr, h.2.reconcileInvoice h.1 hbelong hr⟩
    expired := fun subscriptionId now db r db' h hr =>
      ⟨hrows.expired subscriptionId now db r db' h.1 hr, h.2.expireTrial h.1.unique hr⟩
    escalated := fun context tenant runtimeExists now db h hrow hdue =>
      ⟨hrows.escalated context tenant runtimeExists now db h.1 hrow hdue, h.2.escalateTenant now hdue⟩
    moved := fun db tenant moved h hrow hid hcustomer hstatus =>
      ⟨hrows.moved db tenant moved h.1 hrow hid hcustomer hstatus, h.2.putTenant hrow hid hstatus⟩
    registered := fun he db tenant moved h hrow hid hstatus =>
      ⟨hrows.registered he db tenant moved h.1 hrow hid hstatus, h.2.putTenant hrow hid hstatus⟩ }

/-! ### The renewal of a checkout -/

/-- What the renewal of a checkout leaves of the rows that are not bookkeeping. -/
theorem step_renewCheckout {w : World} {e : Event} {tenantId : Nat} (he : e.op = .renewCheckout tenantId) :
    (∃ error, prepareRenewedCheckout e.env tenantId (e.env.clock 0) (e.env.erp 0) w.db = .error error ∧
        (step w e).db.core = w.db.core) ∨
      ∃ db, prepareRenewedCheckout e.env tenantId (e.env.clock 0) (e.env.erp 0) w.db = .ok ((), db) ∧
        (step w e).db.core = if e.env.commitFails 0 then w.db.core else (Db.flush (e.env.clock 0) w.db db).core := by
  have hstep : (step w e).db = (renewCheckout e.env tenantId (opened w.db w.queue)).2.saved := by
    unfold step
    rw [he]
    rfl
  rw [hstep]
  unfold renewCheckout
  rw [change_bind]
  cases hr : prepareRenewedCheckout e.env tenantId (e.env.clock 0) (e.env.erp 0) w.db with
  | error error =>
    refine Or.inl ⟨error, rfl, ?_⟩
    replace hr : prepareRenewedCheckout e.env tenantId (e.env.clock (opened w.db w.queue).tick)
      (e.env.erp (opened w.db w.queue).tick) (opened w.db w.queue).work = .error error := hr
    rw [hr]
    rfl
  | ok r =>
    obtain ⟨⟨⟩, db⟩ := r
    refine Or.inr ⟨db, rfl, ?_⟩
    replace hr : prepareRenewedCheckout e.env tenantId (e.env.clock (opened w.db w.queue).tick)
      (e.env.erp (opened w.db w.queue).tick) (opened w.db w.queue).work = .ok ((), db) := hr
    rw [hr]
    dsimp only
    rw [commit_bind]
    show (ite (e.env.commitFails 0 = true) _ _ : Except PyError Unit × DbSession).2.saved.core = _
    by_cases hc : e.env.commitFails 0 = true
    · rw [if_pos hc, if_pos hc]
      rfl
    · rw [if_neg hc, if_neg hc]
      exact ((Bookkeeping.recordAuditEvent e.env _ _ _).core rfl rfl).2

/-- A renewal that holds a paying tenant was of a `pending` tenant with an active subscription, and its request
succeeded. -/
theorem prepareRenewedCheckout_held {env : Env} {tenantId : Nat} {now : Time} {client : PlatformErpClient} {db db' : Db}
    {u : Unit} {tenant : Tenant} {s : Subscription} (h : prepareRenewedCheckout env tenantId now client db = .ok (u, db'))
    (htenant : db.tenant? tenantId = some tenant) (hs : db.subscriptionOf tenantId = some s) :
    planRenewable db s = true ∧ (db.user? tenant.ownerId).any (fun owner => (startCheckout env tenant owner).isOk) =
      true := by
  obtain ⟨tenant', htenant', h⟩ := bind_eq_ok.1 h
  obtain ⟨u', -, h⟩ := bind_eq_ok.1 h
  obtain ⟨owner, howner, h⟩ := bind_eq_ok.1 h
  obtain ⟨checkout, hcheckout, h⟩ := bind_eq_ok.1 h
  obtain ⟨waiting, -, h⟩ := bind_eq_ok.1 h
  obtain ⟨⟨plan, db₁⟩, hplan, h⟩ := bind_eq_ok.1 h
  obtain ⟨⟨subscription, db₂⟩, hsub, h⟩ := bind_eq_ok.1 h
  have hsame := requireTenant_ok htenant'
  rw [htenant] at hsame
  cases hsame
  constructor
  · rw [hs] at hplan
    unfold planRenewable
    replace hplan : requirePlanBySlug db (((db.planOf s).map Plan.slug).getD "starter") = .ok (plan, db₁) := hplan
    rw [hplan]
    obtain ⟨u'', hvalid, -⟩ := bind_eq_ok.1 hsub
    unfold validatePlanIsolationModel at hvalid
    split at hvalid
    · rename_i hmem
      exact decide_eq_true hmem
    · cases hvalid
  · unfold requireOwner at howner
    split at howner
    · rename_i row hrow
      cases howner
      rw [hrow, Option.any_some, hcheckout]
      rfl
    · cases howner

/-- The renewal of a `pending` tenant's checkout goes through when the owner, the provider and the plan allow it. -/
theorem prepareRenewedCheckout_returns {env : Env} {tenantId : Nat} (now : Time) (client : PlatformErpClient) {db : Db}
    {tenant : Tenant} {s : Subscription} (htenant : db.tenant? tenantId = some tenant)
    (hstatus : tenant.status = .pending) (hs : db.subscriptionOf tenantId = some s)
    (hplan : planRenewable db s = true)
    (howner : (db.user? tenant.ownerId).any (fun owner => (startCheckout env tenant owner).isOk) = true) :
    ∃ db', prepareRenewedCheckout env tenantId now client db = .ok ((), db') := by
  obtain ⟨owner, hrow, hcheckout⟩ := (Option.any_eq_true _ _).1 howner
  have hrequired : requireTenant db tenantId = .ok tenant := by
    unfold requireTenant
    rw [htenant]
  have hallowed : requireOwner db tenant = .ok owner := by
    unfold requireOwner
    rw [hrow]
  cases hstart : startCheckout env tenant owner with
  | error error =>
    rw [hstart] at hcheckout
    cases hcheckout
  | ok checkout =>
    unfold planRenewable at hplan
    split at hplan
    · rename_i plan db₁ hfound
      obtain ⟨plans, rfl⟩ := requirePlanBySlug_frame hfound
      have hvalid : validatePlanIsolationModel plan = .ok () := by
        unfold validatePlanIsolationModel
        rw [if_pos (of_decide_eq_true hplan)]
      have hsub : subscriptionStatusForTenant (db.subscriptionOf tenantId) = s.status := by
        rw [hs, subscriptionStatusForTenant_some]
      have hwaits : ∀ row : Tenant, row.status = .pending →
          backToPayment row = .ok { row with status := .pendingPayment } := by
        intro row hrow
        unfold backToPayment
        rw [if_pos hrow]
        exact transitionTenantStatus_of_allowed (Or.inr (by rw [hrow]; decide))
      suffices ∃ r, prepareRenewedCheckout env tenantId now client db = .ok r by
        obtain ⟨⟨⟨⟩, db'⟩, hr⟩ := this
        exact ⟨db', hr⟩
      -- no bind of the renewal can raise
      refine bind_succeeds hrequired ?_
      refine bind_succeeds ((raiseIf_eq_ok (u := ())).2 fun h => h.1 hstatus) ?_
      refine bind_succeeds hallowed (bind_succeeds hstart (bind_succeeds (hwaits _ hstatus) ?_))
      refine bind_succeeds (a := (plan, { db with plans := plans })) ?_ ?_
      · rw [hs]
        exact hfound
      · rw [hsub]
        exact (upsertSubscriptionForTenant_again _ _ _ _ _ _ hvalid (by exact hs)).elim fun r hr =>
          bind_succeeds hr ⟨_, rfl⟩
    · cases hplan

/-- The tenant whose checkout is renewed is held afterwards if its subscription is active. -/
theorem payingNotHeld_renewed {env : Env} {tenantId : Nat} {now : Time} {client : PlatformErpClient} {db db' : Db}
    {u : Unit} (hrows : db.PayingRows) (h : db.PayingNotHeld)
    (hr : prepareRenewedCheckout env tenantId now client db = .ok (u, db')) :
    db'.PayingNotHeld ↔ (db.subscriptionOf tenantId).any (fun s => s.status = .active) = false := by
  obtain ⟨row, hwritten, hstatus⟩ := prepareRenewedCheckout_subscription hr
  obtain ⟨tenant, htenant, -, hmoved⟩ := prepareRenewedCheckout_ok hr
  rw [Db.tenant?_id htenant] at hmoved
  cases hs : db.subscriptionOf tenantId with
  | none =>
    rw [hs] at hstatus
    refine iff_of_true (h.written hrows.unique.ids hwritten hmoved (Or.inr ?_)) rfl
    rw [hstatus]
    decide
  | some s =>
    rw [hs, subscriptionStatusForTenant_some] at hstatus
    by_cases hactive : s.status = .active
    · refine iff_of_false (fun hnot => ?_) (by simp [hactive])
      have hheld := hnot tenantId
      unfold Db.payingHeld at hheld
      rw [hwritten.self, hmoved.tenantStatus, if_pos rfl, Db.tenantStatus_of_tenant? htenant] at hheld
      simp [hstatus, hactive] at hheld
    · refine iff_of_true (h.written hrows.unique.ids hwritten hmoved (Or.inr ?_)) (by simp [hactive])
      rw [hstatus]
      exact hactive

/-- A renewal holds a paying tenant exactly when it is one of a tenant that is `pending` and pays. -/
theorem step_renewal_iff {w : World} {e : Event} {tenantId : Nat} (he : e.op = .renewCheckout tenantId)
    (hrows : w.db.PayingRows) (h : w.db.PayingNotHeld) : renewsPaid w e = false ↔ (step w e).db.PayingNotHeld := by
  unfold renewsPaid
  rw [he]
  dsimp only
  rcases step_renewCheckout he with ⟨error, hr, hcore⟩ | ⟨db, hr, hcore⟩
  · refine iff_of_true (Bool.eq_false_iff.2 fun hpaid => ?_)
      (h.congr (Db.subscriptions_of_core hcore) fun t => Db.tenantStatus_congr (Db.tenants_of_core hcore) t)
    obtain ⟨tenant, htenant, hpaid⟩ := (Option.any_eq_true _ _).1 hpaid
    simp only [Bool.and_eq_true, decide_eq_true_eq] at hpaid
    obtain ⟨⟨⟨hpending, hsub⟩, howner⟩, -⟩ := hpaid
    obtain ⟨s, hs, hs'⟩ := (Option.any_eq_true _ _).1 hsub
    obtain ⟨-, hplan⟩ := Bool.and_eq_true_iff.1 hs'
    obtain ⟨db', hok⟩ := prepareRenewedCheckout_returns (e.env.clock 0) (e.env.erp 0) htenant hpending hs hplan howner
    rw [hr] at hok
    cases hok
  · by_cases hc : e.env.commitFails 0 = true
    · rw [if_pos hc] at hcore
      refine iff_of_true ?_
        (h.congr (Db.subscriptions_of_core hcore) fun t => Db.tenantStatus_congr (Db.tenants_of_core hcore) t)
      simp [hc]
    · rw [if_neg hc] at hcore
      have hsame : (step w e).db.PayingNotHeld ↔ db.PayingNotHeld := by
        have hsub : (step w e).db.subscriptions = db.subscriptions := (Db.subscriptions_of_core hcore).trans rfl
        have hstatus : ∀ t, (step w e).db.tenantStatus t = db.tenantStatus t := fun t =>
          (Db.tenantStatus_congr (Db.tenants_of_core hcore) t).trans (Db.tenantStatus_flush _ _ _ t)
        exact ⟨fun hn => hn.congr hsub.symm fun t => (hstatus t).symm, fun hn => hn.congr hsub hstatus⟩
      rw [hsame, payingNotHeld_renewed hrows h hr]
      obtain ⟨tenant, htenant, hrenewable, -⟩ := prepareRenewedCheckout_ok hr
      rw [htenant, Option.any_some]
      cases hs : w.db.subscriptionOf tenantId with
      | none => simp
      | some s =>
        obtain ⟨hplan, howner⟩ := prepareRenewedCheckout_held hr htenant hs
        by_cases hactive : s.status = .active
        · have hnot := h tenantId
          unfold Db.payingHeld at hnot
          rw [hs, Db.tenantStatus_of_tenant? htenant] at hnot
          have hpending : tenant.status = .pending := by
            refine hrenewable.resolve_right fun hwaits => ?_
            simp [hactive, hwaits] at hnot
          simp [hactive, hpending, hplan, howner, hc]
        · simp [hactive]

theorem Db.PayingNotHeld.provisioning {db : Db} (h : db.PayingNotHeld) (tenantId : Nat) :
    db.provisioningHeld tenantId = false := by
  have hnot := h tenantId
  unfold Db.payingHeld at hnot
  unfold Db.provisioningHeld
  rcases Bool.and_eq_false_iff.1 hnot with hsub | hstatus
  · rw [hsub, Bool.false_and]
  · cases htenant : db.tenant? tenantId with
    | none => exact Bool.and_false _
    | some tenant =>
      rw [Db.tenantStatus_of_tenant? htenant, Option.any_some] at hstatus
      rw [Option.any_some, hstatus, Bool.false_and, Bool.and_false]

/-- A paying tenant is never held for a payment, nor its provisioning, as long as no checkout is renewed of a tenant that
pays already. -/
theorem paying_not_held_iff {w : World} {es : List Event} (hrows : w.db.PayingRows) (h : w.db.PayingNotHeld) :
    Steps step (fun w e => renewsPaid w e = false) w es ↔
      Always step (fun w => w.db.PayingNotHeld ∧ ∀ tenantId, w.db.provisioningHeld tenantId = false) w es := by
  have hstep : ∀ w e, (w.db.PayingRows ∧ w.db.PayingNotHeld) →
      (renewsPaid w e = false ↔ (step w e).db.PayingRows ∧ (step w e).db.PayingNotHeld) := by
    intro w e hw
    by_cases hop : ∃ tenantId, e.op = .renewCheckout tenantId
    · obtain ⟨tenantId, he⟩ := hop
      rw [step_renewal_iff he hw.1 hw.2]
      exact ⟨fun hn => ⟨step_payingRows e hw.1, hn⟩, And.right⟩
    · have hnot : ∀ tenantId, e.op ≠ .renewCheckout tenantId := fun tenantId he => hop ⟨tenantId, he⟩
      refine iff_of_true ?_ (step_preserves (payingNotHeld_preserved w e hnot hw) hw)
      unfold renewsPaid
      cases hop' : e.op with
      | renewCheckout tenantId => exact absurd hop' (hnot tenantId)
      | _ => rfl
  rw [steps_iff_always hstep ⟨hrows, h⟩]
  have hkept : Always step (fun w => w.db.PayingRows) w es :=
    Always.of_invariant (I := fun (w : World) => w.db.PayingRows) (fun _ e hw => step_payingRows e hw) hrows es
  constructor
  · exact Always.mono fun _ hw => ⟨hw.2, hw.2.provisioning⟩
  · exact fun hw => (hkept.and hw).mono fun _ hw => ⟨hw.1, hw.2.1⟩

/-! ### Runs from the small control plane -/

theorem Small.world_payingRows : Small.world.db.PayingRows :=
  ⟨⟨List.nodup_nil, (fun _ h => by cases h), List.nodup_nil⟩, ⟨List.nodup_nil, List.nodup_nil⟩, (fun _ h => by cases h)⟩

/-- The first tenant pays, and renews its checkout before it is provisioned. -/
def Small.renewedPaid : List Op := [createTenant, webhook .paymentConfirmed "paid", .renewCheckout 1]

set_option maxRecDepth 100000 in
/-- The tenant that has paid waits for its payment again, and its provisioning is refused. -/
theorem paying_tenant_held : (Small.after Small.renewedPaid).db.provisioningHeld 1 = true ∧
    ¬Always step (fun w => w.db.PayingNotHeld) Small.world (Small.events Small.renewedPaid) := by
  have hheld : (Small.after Small.renewedPaid).db.payingHeld 1 = true := by decide +kernel
  refine ⟨by decide +kernel, fun h => ?_⟩
  have hlast : (Small.after Small.renewedPaid).db.payingHeld 1 = false := h.last 1
  rw [hheld] at hlast
  cases hlast

set_option maxRecDepth 100000 in
/-- A checkout that is renewed before the payment holds nobody who pays. -/
theorem renewed_before_payment :
    Always step (fun w => w.db.PayingNotHeld ∧ ∀ t, w.db.provisioningHeld t = false) Small.world
      (Small.events [Small.createTenant, .renewCheckout 1, Small.webhook .paymentConfirmed "paid"]) :=
  (paying_not_held_iff Small.world_payingRows fun _ => rfl).1 (by decide +kernel)

end ControlPlane
