import ControlPlane.Preserved

/-!
# Invariants of the ledger

A property of the ledger that survives each way of writing it (`LedgerInvariant`) survives every step of the system.
The first such property is that the invoices are filed.
-/

namespace ControlPlane

open Table Session Session.Proc

/-- Every attempt has the tenant of its invoice. -/
def AttemptsLinked (db : Db) : Prop :=
  ∀ attempt ∈ db.attempts, ∀ invoice, db.invoice? attempt.billingInvoiceId = some invoice →
    invoice.tenantId = attempt.tenantId

/-- `J` survives what a step can do to the ledger. -/
structure LedgerInvariant (J : Db → Prop) (w : World) (e : Event) : Prop where
  ids : ∀ db, J db → (db.invoices.map BillingInvoice.id).Nodup
  same : ∀ db db', SameLedger db db' → SameCustomers db db' → J db → J db'
  customer : ((∃ index outside, e.op = .taskPhase index outside) ∨
    ∃ ownerId subdomain companyName plan app, e.op = .createTenant ownerId subdomain companyName plan app) →
      ∀ db db', SameLedger db db' → J db → J db'
  flush : ∀ now saved work, J saved → J work → J (Db.flush now saved work)
  resynced : ∀ tick db tenant invoice updated db', J db →
    (db.tenant? tenant.id).map Tenant.platformCustomerId = some tenant.platformCustomerId →
    db.invoice? invoice.id = some invoice → (AttemptsLinked db → invoice.tenantId = tenant.id) →
    resyncOneInvoice (e.env.erp tick) db tenant invoice (e.env.clock tick) = .ok (updated, db') → J db'
  settled : ∀ db invoice settled, J db → db.invoice? invoice.id = some invoice → Settled invoice settled →
    J (db.putInvoice settled)
  marked : ∀ db attempt marked, J db → attempt ∈ db.attempts → Marked attempt marked → J (db.putAttempt marked)
  synced : ∀ tick tenantId limit db u db', J db →
    syncForTenant tenantId limit (e.env.clock tick) (e.env.erp tick) db = .ok (u, db') → J db'
  attempted : J w.db → ∀ invoiceId provider invoice tenant owner, e.op = .createPaymentAttempt invoiceId provider →
    requireInvoice w.db invoiceId = .ok (invoice, tenant, owner) → ∀ attemptId db',
      preparePaymentAttempt e.env.gateway tenant owner invoice provider (e.env.clock 0) (e.env.erp 0) w.db =
        .ok (attemptId, db') → J db'

/-! ### What leaves the ledger alone -/

theorem prepareTenant_frame {settings : Settings} {owner : User} {subdomain companyName plan : String}
    {chosenApp : Option String} {now : Time} {db db' : Db} {r : Nat × Plan × Option String}
    (h : prepareTenant settings owner subdomain companyName plan chosenApp now db = .ok (r, db')) :
    ∃ organizations tenants plans subscriptions,
      db' = { db with organizations := organizations, tenants := tenants, plans := plans
                      subscriptions := subscriptions } := by
  obtain ⟨_, _, _, _, _, _, -, -, hsub⟩ := prepareTenant_parts h
  obtain ⟨-, -, subscriptions, rfl⟩ := upsertSubscriptionForTenant_ok hsub
  exact ⟨_, _, _, _, rfl⟩

theorem prepareTenant_ledger {settings : Settings} {owner : User} {subdomain companyName plan : String}
    {chosenApp : Option String} {now : Time} {db db' : Db} {r : Nat × Plan × Option String}
    (h : prepareTenant settings owner subdomain companyName plan chosenApp now db = .ok (r, db')) :
    SameLedger db db' := by
  obtain ⟨organizations, tenants, plans, subscriptions, rfl⟩ := prepareTenant_frame h
  exact ⟨rfl, rfl, rfl⟩

theorem recordCheckout_frame {env : Env} {owner : User} {tenantId : Nat} {plan : Plan} {selectedApp : Option String}
    {trialStatus : SubscriptionStatus} {trialEndsAt : Option Time} {db db' : Db} {u : Unit}
    (h : recordCheckout env owner tenantId plan selectedApp trialStatus trialEndsAt db = .ok (u, db')) :
    ∃ tenants subscriptions, db' = { db with tenants := tenants, subscriptions := subscriptions } := by
  obtain ⟨tenant, -, h⟩ := bind_eq_ok.1 h
  obtain ⟨checkout, -, h⟩ := bind_eq_ok.1 h
  obtain ⟨moved, -, h⟩ := bind_eq_ok.1 h
  obtain ⟨⟨subscription, db₁⟩, hsub, h⟩ := bind_eq_ok.1 h
  obtain ⟨-, -, subscriptions, rfl⟩ := upsertSubscriptionForTenant_ok hsub
  cases h
  exact ⟨_, _, rfl⟩

theorem recordCheckout_ledger {env : Env} {owner : User} {tenantId : Nat} {plan : Plan} {selectedApp : Option String}
    {trialStatus : SubscriptionStatus} {trialEndsAt : Option Time} {db db' : Db} {u : Unit}
    (h : recordCheckout env owner tenantId plan selectedApp trialStatus trialEndsAt db = .ok (u, db')) :
    SameLedger db db' := by
  obtain ⟨tenants, subscriptions, rfl⟩ := recordCheckout_frame h
  exact ⟨rfl, rfl, rfl⟩

theorem prepareRenewedCheckout_frame {env : Env} {tenantId : Nat} {now : Time} {client : PlatformErpClient}
    {db db' : Db} {u : Unit} (h : prepareRenewedCheckout env tenantId now client db = .ok (u, db')) :
    ∃ tenants plans subscriptions,
      db' = { db with tenants := tenants, plans := plans, subscriptions := subscriptions } := by
  obtain ⟨_, _, _, _, _, _, _, _, _, _, -, -, -, hsub⟩ := prepareRenewedCheckout_parts h
  obtain ⟨-, -, subscriptions, rfl⟩ := upsertSubscriptionForTenant_ok hsub
  exact ⟨_, _, _, rfl⟩

/-- A renewed checkout leaves the ledger, and its tenant the same customer. -/
theorem prepareRenewedCheckout_ledger {env : Env} {tenantId : Nat} {now : Time} {client : PlatformErpClient}
    {db db' : Db} {u : Unit} (h : prepareRenewedCheckout env tenantId now client db = .ok (u, db')) :
    SameLedger db db' ∧ SameCustomers db db' := by
  obtain ⟨tenant, waiting, _, _, _, _, _, _, _, _, hrow, -, ⟨hid, -, hcustomer⟩, hsub⟩ := prepareRenewedCheckout_parts h
  obtain ⟨-, -, subscriptions, rfl⟩ := upsertSubscriptionForTenant_ok hsub
  rw [← Db.tenant?_id hrow] at hrow
  exact ⟨⟨rfl, rfl, rfl⟩, .put hrow rfl hid hcustomer⟩

theorem expireTrial_frame {subscriptionId : Nat} {now : Time} {db db' : Db} {expired : Option Nat}
    (h : expireTrial subscriptionId now db = .ok (expired, db')) :
    ∃ tenants subscriptions, db' = { db with tenants := tenants, subscriptions := subscriptions } := by
  unfold expireTrial at h
  split at h
  · cases h; exact ⟨_, _, rfl⟩
  · split at h
    · cases h; exact ⟨_, _, rfl⟩
    · dsimp only at h
      split at h
      · cases h; exact ⟨_, _, rfl⟩
      · obtain ⟨pastDue, -, h⟩ := bind_eq_ok.1 h
        cases h
        exact ⟨_, _, rfl⟩

theorem expireTrial_ledger {subscriptionId : Nat} {now : Time} {db db' : Db} {expired : Option Nat}
    (h : expireTrial subscriptionId now db = .ok (expired, db')) : SameLedger db db' ∧ SameCustomers db db' := by
  unfold expireTrial at h
  split at h
  · cases h; exact ⟨.refl _, .of_tenants rfl⟩
  · split at h
    · cases h; exact ⟨.refl _, .of_tenants rfl⟩
    · rename_i tenant htenant
      dsimp only at h
      split at h
      · cases h; exact ⟨.refl _, .of_tenants rfl⟩
      · obtain ⟨pastDue, -, h⟩ := bind_eq_ok.1 h
        cases h
        rw [← Db.tenant?_id htenant] at htenant
        exact ⟨⟨rfl, rfl, rfl⟩, .put htenant rfl rfl rfl⟩

/-! ### The tenant rows an event and a reconciliation write -/

private theorem confirmPayment_customers {provider : String} {event : WebhookEvent} {now : Time}
    {client : PlatformErpClient} {db db' : Db} {tenantId : Nat} {email : Option String} {tenant : Tenant}
    (hrow : db.tenant? tenant.id = some tenant)
    (htenant : (resolveInvoiceBackedContext db provider event.tenantId event.subscriptionId event.raw).tenant =
      some tenant)
    (h : confirmPayment provider event now client db = .ok (.changed tenantId email, db')) : SameCustomers db db' := by
  rcases confirmPayment_parts h with ⟨message, hhandled, -⟩ | ⟨owner, found, paying, paid, subscription, activated,
    ensured, settled, -, hfound, -, -, hsub, hsettled, -, -, ⟨hid, -, hcustomer⟩, rfl⟩
  · cases hhandled
  · obtain rfl := Option.some.inj (htenant.symm.trans hfound)
    obtain ⟨-, plans, subscriptions, rfl⟩ := ensureSubscription_ok hsub
    obtain ⟨accounts, invoices, attempts, events, rfl⟩ := settleInvoiceBackedPaymentConfirmation_frame hsettled
    exact .put hrow rfl hid hcustomer

private theorem failPayment_customers {provider : String} {event : WebhookEvent} {now : Time}
    {client : PlatformErpClient} {db db' : Db} {tenantId : Nat} {email : Option String} {tenant : Tenant}
    (hrow : db.tenant? tenant.id = some tenant)
    (htenant : (resolveInvoiceBackedContext db provider event.tenantId event.subscriptionId event.raw).tenant =
      some tenant)
    (h : failPayment provider event now client db = .ok (.changed tenantId email, db')) : SameCustomers db db' := by
  rcases failPayment_parts h with ⟨message, hhandled, -⟩ | ⟨found, payer, failed, subscription, pastDue, ensured, -,
    hfound, -, hsub, -, -, ⟨hid, -, hcustomer⟩, rfl⟩
  · cases hhandled
  · obtain rfl := Option.some.inj (htenant.symm.trans hfound)
    obtain ⟨-, plans, subscriptions, rfl⟩ := ensureSubscription_ok hsub
    obtain ⟨attempts, events, hframe⟩ := applyInvoiceBackedPaymentFailure_frame
      { db with plans := plans, subscriptions := subscriptions } payer subscription
      (resolveInvoiceBackedContext db provider event.tenantId event.subscriptionId event.raw).paymentAttempt provider
      event.raw now
    refine .put hrow (congrArg (fun rows => Table.put rows _) ?_) hid hcustomer
    have htenants := congrArg Db.tenants hframe
    exact htenants

/-- An event leaves every tenant the same customer. -/
theorem eventBody_customers {provider : String} {event : WebhookEvent} {now : Time} {client : PlatformErpClient}
    {db db' : Db} {handled : Handled} (h : eventBody provider event now client db = .ok (handled, db')) :
    SameCustomers db db' := by
  cases handled with
  | ignored message =>
    rw [eventBody_ignored h]
    exact .of_tenants rfl
  | changed tenantId email =>
    obtain ⟨tenant, htenant, -⟩ := eventBody_changed h
    have hrow := eventTenant_row htenant
    unfold eventTenant at htenant
    unfold eventBody at h
    cases htype : event.eventType with
    | paymentConfirmed =>
      rw [htype] at h htenant
      exact confirmPayment_customers hrow htenant h
    | paymentFailed =>
      rw [htype] at h htenant
      exact failPayment_customers hrow htenant h
    | subscriptionCancelled =>
      rw [htype] at h htenant
      dsimp only at htenant
      rcases cancelSubscription_parts h with ⟨message, hhandled, -⟩ | ⟨ownerEmail, found, cancelled, subscription, ended,
        ensured, -, hfound, hsub, -, ⟨hid, -, hcustomer⟩, rfl⟩
      · cases hhandled
      · obtain rfl := Option.some.inj (htenant.symm.trans hfound)
        obtain ⟨-, plans, subscriptions, rfl⟩ := ensureSubscription_ok hsub
        exact .put hrow rfl hid hcustomer
    | other name =>
      rw [htype] at htenant
      cases htenant

private theorem reconcileSettledInvoice_customers {client : PlatformErpClient} {db db' : Db} {tenant : Tenant}
    {subscription : Option Subscription} {invoice : BillingInvoice} {attempt : Option PaymentAttempt}
    {result result' : InvoiceReconciliationResult} {now : Time} {email : Option String}
    (hrow : db.tenant? tenant.id = some tenant)
    (h : reconcileSettledInvoice client db tenant subscription invoice attempt result now =
      .ok ((result', email), db')) : SameCustomers db db' := by
  obtain ⟨paid, updated, resolved, db₁, db₂, hpay, hresolve, -, hcases⟩ := reconcileSettledInvoice_parts rfl h
  obtain ⟨attempts, rfl⟩ := payAttemptFromErp_frame hpay
  cases hresolve
  rcases hcases with ⟨-, -, opened, db₃, hopen, rfl⟩ | ⟨s, activated, outcome, -, -, -, -, -, rfl⟩
  · obtain ⟨exceptions, rfl⟩ := openBillingException_frame hopen
    exact .of_tenants rfl
  · exact .put hrow rfl rfl rfl

/-- So does a reconciliation. -/
theorem reconcileInvoice_customers {tenantId invoiceId : Nat} {now : Time} {client : PlatformErpClient} {db db' : Db}
    {result : InvoiceReconciliationResult} {email : Option String}
    (h : reconcileInvoice tenantId invoiceId now client db = .ok ((result, email), db')) : SameCustomers db db' := by
  obtain ⟨tenant, htenant, h⟩ := bind_eq_ok.1 h
  obtain ⟨invoice, -, h⟩ := bind_eq_ok.1 h
  obtain ⟨⟨resynced, db₁⟩, hresync, h⟩ := bind_eq_ok.1 h
  obtain ⟨accounts, invoices, hframe⟩ := resyncOneInvoice_frame hresync
  have hsynced : SameCustomers db db₁ := by
    rw [hframe]
    exact .of_tenants rfl
  have hrow : db₁.tenant? tenant.id = some tenant := by
    have hrow := requireTenant_ok htenant
    rw [← Db.tenant?_id hrow] at hrow
    rw [hframe]
    exact hrow
  refine hsynced.trans ?_
  dsimp only at h
  split at h
  · exact reconcileSettledInvoice_customers hrow h
  · obtain ⟨-, attempts, events, exceptions, rfl⟩ := reconcileUnsettledInvoice_frame (Except.ok.inj h)
    exact .of_tenants rfl

/-! ### From the ledger to the rows -/

namespace LedgerInvariant

variable {J : Db → Prop} {w : World} {e : Event} (h : LedgerInvariant J w e)
include h

/-- The settlement of an attempt keeps `J`. -/
theorem settle {tick : Nat} {db settledDb : Db} {tenant : Tenant} {attempt : PaymentAttempt} (hJ : J db)
    (hcustomer : (db.tenant? tenant.id).map Tenant.platformCustomerId = some tenant.platformCustomerId)
    (hmem : attempt ∈ db.attempts) (htenant : attempt.tenantId = tenant.id)
    (hsettle : SettledInvoice (e.env.erp tick) tenant (e.env.clock tick) attempt db settledDb) : J settledDb := by
  rcases hsettle with ⟨-, rfl⟩ | ⟨invoice, updated, settled, db₁, hinvoice, hupdated, hset, rfl⟩
  · exact hJ
  · have hrow : db.invoice? invoice.id = some invoice := by
      rw [show invoice.id = attempt.billingInvoiceId from key_of_get? hinvoice]
      exact hinvoice
    rcases hupdated with ⟨rfl, rfl⟩ | hresync
    · exact h.settled db₁ updated settled hJ hrow hset
    · refine h.settled db₁ updated settled ?_ (resyncOneInvoice_row hrow hresync) hset
      refine h.resynced tick db tenant invoice updated db₁ hJ hcustomer hrow (fun hlinked => ?_) hresync
      rw [hlinked attempt hmem invoice hinvoice, htenant]

/-- An event keeps `J`. -/
theorem handled {provider : String} {event : WebhookEvent} {tick : Nat} {db db' : Db} {r : Handled} (hJ : J db)
    (hr : eventBody provider event (e.env.clock tick) (e.env.erp tick) db = .ok (r, db')) : J db' := by
  have hcustomers := eventBody_customers hr
  cases eventBody_ledger hr with
  | untouched hsame => exact h.same db db' hsame hcustomers hJ
  | failed attempt htype hresolved hsame =>
    refine h.same _ db' hsame (SameCustomers.trans (.of_tenants rfl) hcustomers) ?_
    exact h.marked db attempt _ hJ (mem_attempts_of_resolved hresolved).1 (marked_failedAttempt _ _ _ _)
  | settled attempt tenant paying ensured settledDb htype hresolved htenant hpaying hensured hkept hsettle hsame =>
    have htenantRow := resolved_row htenant
    have hensuredJ : J ensured := h.same db ensured hensured hkept hJ
    have hmem : attempt ∈ ensured.attempts := by
      rw [hensured.attempts]
      exact (mem_attempts_of_resolved hresolved).1
    have hcustomer : (ensured.tenant? paying.id).map Tenant.platformCustomerId = some paying.platformCustomerId := by
      rw [hkept, hpaying.1, htenantRow, hpaying.2]
      rfl
    have hbelongs : attempt.tenantId = paying.id := (resolved_attempt_tenant hresolved htenant).trans hpaying.1.symm
    have hsettled : J settledDb := h.settle hensuredJ hcustomer hmem hbelongs hsettle
    obtain ⟨htenants, hattempts⟩ := hsettle.frame
    have hback : SameCustomers (settledDb.putAttempt (paidAttempt attempt provider (e.env.clock tick))) db :=
      SameCustomers.trans (.of_tenants htenants.symm) hkept.symm
    refine h.same _ db' hsame (hback.trans hcustomers) ?_
    refine h.marked settledDb attempt _ hsettled ?_ (marked_paidAttempt _ _ _)
    rw [hattempts]
    exact hmem

/-- A reconciliation of one of a tenant's invoices keeps `J`. -/
theorem reconciled {tick tenantId invoiceId : Nat} {db db' : Db} {r : InvoiceReconciliationResult × Option String}
    (hJ : J db) (hbelong : InvoicesBelong [invoiceId] tenantId db)
    (hr : reconcileInvoice tenantId invoiceId (e.env.clock tick) (e.env.erp tick) db = .ok (r, db')) : J db' := by
  obtain ⟨result, email⟩ := r
  have hcustomers := reconcileInvoice_customers hr
  obtain ⟨tenant, invoice, updated, db₁, htenant, hinvoice, hresync, hmarks⟩ := reconcileInvoice_ledger hr
  have hrow : db.invoice? invoice.id = some invoice := by
    rw [show invoice.id = invoiceId from key_of_get? hinvoice]
    exact hinvoice
  have hid := Db.tenant?_id htenant
  have hJ₁ : J db₁ := by
    refine h.resynced tick db tenant invoice updated db₁ hJ ?_ hrow (fun _ => ?_) hresync
    · rw [hid, htenant]; rfl
    · rw [hid]
      exact hbelong invoiceId (List.mem_singleton_self _) invoice hinvoice
  obtain ⟨accounts, invoices, rfl⟩ := resyncOneInvoice_frame hresync
  rcases hmarks with hsame | ⟨attempt, marked, hlatest, ⟨hmarked, -⟩, hsame⟩
  · exact h.same _ db' hsame (SameCustomers.trans (.of_tenants rfl) hcustomers) hJ₁
  · refine h.same _ db' hsame (SameCustomers.trans (.of_tenants rfl) hcustomers) ?_
    exact h.marked _ attempt marked hJ₁ (List.mem_filter.1 (mem_of_latestBy hlatest)).1 hmarked

/-- Changing a tenant's row leaves the ledger. -/
theorem moved {db : Db} {tenant moved : Tenant} (hJ : J db) (hrow : db.tenant? tenant.id = some tenant)
    (hid : moved.id = tenant.id) (hcustomer : moved.platformCustomerId = tenant.platformCustomerId) :
    J (db.putTenant moved) := h.same db _ ⟨rfl, rfl, rfl⟩ (.put hrow rfl hid hcustomer) hJ

/-- What each way of writing the ledger keeps, every step keeps. -/
theorem preserved (hJ : J w.db) : Preserved J w e where
  core db db' hcore hdb := h.same db db'
    ⟨Db.accounts_of_core hcore, Db.invoices_of_core hcore, Db.attempts_of_core hcore⟩
    (.of_tenants (Db.tenants_of_core hcore)) hdb
  flush := h.flush
  invoiceIds := h.ids
  created he _ _ _ _ _ _ _ _ _ hdb hr := h.customer (Or.inr he) _ _ (prepareTenant_ledger hr) hdb
  joined db _ hdb := h.same db _ ⟨rfl, rfl, rfl⟩ (.of_tenants rfl) hdb
  checkedOut he _ _ _ _ _ _ _ _ _ hdb hr := h.customer (Or.inr he) _ _ (recordCheckout_ledger hr) hdb
  renewed _ _ _ _ hr := h.same _ _ (prepareRenewedCheckout_ledger hr).1 (prepareRenewedCheckout_ledger hr).2 hJ
  handled _ _ _ _ _ _ _ _ hdb hr := h.handled hdb hr
  synced := h.synced
  attempted := h.attempted hJ
  reconciled _ _ _ _ _ _ hdb hbelong hr := h.reconciled hdb hbelong hr
  expired _ _ _ _ _ hdb hr := h.same _ _ (expireTrial_ledger hr).1 (expireTrial_ledger hr).2 hdb
  escalated _ tenant _ now db hdb hrow _ := by
    unfold escalateTenant
    rw [Db.modifyTenant_of_tenant? hrow]
    exact h.moved hdb hrow rfl rfl
  moved _ _ _ hdb hrow hid hcustomer _ := h.moved hdb hrow hid hcustomer
  registered he db _ _ hdb _ _ _ := h.customer (Or.inl he) db _ ⟨rfl, rfl, rfl⟩ hdb

end LedgerInvariant

/-! ### The invoices stay filed -/

theorem invoicesFiled_ledger (w : World) (e : Event) : LedgerInvariant Db.InvoicesFiled w e where
  ids _ hF := hF.ids
  same _ _ hsame _ hF := hF.congr hsame.invoices
  customer _ _ _ hsame hF := hF.congr hsame.invoices
  flush _ _ _ _ hF := hF.congr rfl
  resynced _ _ _ _ _ _ hF _ _ _ hresync := hF.resync hresync
  settled _ _ _ hF hrow hsettled := hF.put hrow hsettled.id hsettled.reference hsettled.number
  marked _ _ _ hF _ _ := hF.congr rfl
  synced tick tenantId limit db u db' hF hr := by
    obtain ⟨tenant, -, hr⟩ := bind_eq_ok.1 hr
    obtain ⟨⟨rows, db₁⟩, hsync, hr⟩ := bind_eq_ok.1 hr
    cases hr
    exact hF.sync hsync
  attempted hF invoiceId provider invoice tenant owner _ _ attemptId db' hr := by
    obtain ⟨updated, db₁, checkout, hresync, -, -, -, rfl⟩ := preparePaymentAttempt_ledger hr
    exact (hF.resync hresync).congr (addPaymentAttempt_ledger db₁ tenant updated checkout _).invoices

theorem step_invoicesFiled {w : World} (e : Event) (hF : w.db.InvoicesFiled) : (step w e).db.InvoicesFiled :=
  step_preserves ((invoicesFiled_ledger w e).preserved hF) hF

/-- In every run the invoices stay filed. -/
theorem run_invoicesFiled {w : World} (es : List Event) (hF : w.db.InvoicesFiled) :
    (Runs.run step w es).db.InvoicesFiled := by
  induction es generalizing w with
  | nil => exact hF
  | cons e es ih => exact ih (step_invoicesFiled e hF)

end ControlPlane
