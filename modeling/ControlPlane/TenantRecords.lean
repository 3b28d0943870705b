import ControlPlane.Base.Growth
import ControlPlane.Base.Runs
import ControlPlane.Changes
import ControlPlane.LedgerInvariant
import ControlPlane.Subscription.Writes

/-!
# Tenants and subscriptions over whole runs

A tenant is what it was created as for good: its owner, its organization and its domain.  Its subscription moves along the
table of transitions only, so a cancelled one stays cancelled.  Each function is described by what it writes over
(`Db.Rewrites`), each step by its changes, and any two moments of a run by `Db.TenantsKept`.
-/

namespace ControlPlane

open Table Session Runs

/-- What a tenant keeps. -/
structure Tenant.Kept (tenant tenant' : Tenant) : Prop where
  id : tenant'.id = tenant.id
  ownerId : tenant'.ownerId = tenant.ownerId
  organizationId : tenant'.organizationId = tenant.organizationId
  subdomain : tenant'.subdomain = tenant.subdomain
  domain : tenant'.domain = tenant.domain
  siteName : tenant'.siteName = tenant.siteName
  companyName : tenant'.companyName = tenant.companyName

theorem Tenant.Kept.refl (tenant : Tenant) : tenant.Kept tenant := ⟨rfl, rfl, rfl, rfl, rfl, rfl, rfl⟩

theorem Tenant.Kept.trans (a b c : Tenant) (h : a.Kept b) (h' : b.Kept c) : a.Kept c :=
  ⟨h'.id.trans h.id, h'.ownerId.trans h.ownerId, h'.organizationId.trans h.organizationId,
    h'.subdomain.trans h.subdomain, h'.domain.trans h.domain, h'.siteName.trans h.siteName,
    h'.companyName.trans h.companyName⟩

/-- The table of transitions allows it, in any number of moves. -/
def SubscriptionStatus.Reaches : SubscriptionStatus → SubscriptionStatus → Prop :=
  Relation.ReflTransGen fun status status' => status' ∈ allowedSubscriptionTransitions status

/-- What a subscription keeps: its tenant, a status that is reached along the table, and the time it was cancelled. -/
structure Subscription.Kept (subscription subscription' : Subscription) : Prop where
  id : subscription'.id = subscription.id
  tenantId : subscription'.tenantId = subscription.tenantId
  status : subscription.status.Reaches subscription'.status
  cancelledAt : ∀ time, subscription.cancelledAt = some time → subscription'.cancelledAt = some time

theorem Subscription.Kept.refl (subscription : Subscription) : subscription.Kept subscription :=
  ⟨rfl, rfl, .refl, fun _ h => h⟩

theorem Subscription.Kept.trans (a b c : Subscription) (h : a.Kept b) (h' : b.Kept c) : a.Kept c :=
  ⟨h'.id.trans h.id, h'.tenantId.trans h.tenantId, Relation.ReflTransGen.trans h.status h'.status,
    fun time ht => h'.cancelledAt time (h.cancelledAt time ht)⟩

/-- Nothing is reached from `cancelled`. -/
theorem SubscriptionStatus.reaches_of_cancelled {status : SubscriptionStatus} (h : cancelled.Reaches status) :
    status = cancelled := by
  induction h with
  | refl => rfl
  | tail _ hmove ih =>
    rw [ih] at hmove
    cases hmove

theorem SubscriptionStatus.reaches_of_valid {status status' : SubscriptionStatus}
    (h : status = status' ∨ status' ∈ allowedSubscriptionTransitions status) : status.Reaches status' := by
  rcases h with rfl | hmove
  · exact .refl
  · exact .single hmove

/-! ### What the transitions keep -/

theorem setSubscriptionStatus_kept {subscription subscription' : Subscription} {status : SubscriptionStatus}
    (h : setSubscriptionStatus subscription status = .ok subscription') : subscription.Kept subscription' := by
  obtain ⟨hvalid, rfl⟩ := setSubscriptionStatus_eq_ok.1 h
  exact ⟨rfl, rfl, SubscriptionStatus.reaches_of_valid hvalid, fun _ ht => ht⟩

theorem applyPaymentConfirmedTransition_kept {tenant tenant' : Tenant} {subscription subscription' : Subscription}
    {now : Time} {snapshot : BillingLifecycleSnapshot}
    (h : applyPaymentConfirmedTransition tenant subscription now = .ok (tenant', subscription', snapshot)) :
    tenant.Kept tenant' ∧ subscription.Kept subscription' := by
  obtain ⟨moved, hmoved, h⟩ := bind_eq_ok.1 h
  cases h
  have hkept := setSubscriptionStatus_kept hmoved
  refine ⟨⟨rfl, rfl, rfl, rfl, rfl, rfl, rfl⟩, ?_⟩
  split
  · exact ⟨hkept.id, hkept.tenantId, hkept.status, hkept.cancelledAt⟩
  · exact hkept

theorem applyPaymentFailedTransition_kept {tenant tenant' : Tenant} {subscription subscription' : Subscription}
    {now : Time} {snapshot : BillingLifecycleSnapshot}
    (h : applyPaymentFailedTransition tenant subscription now = .ok (tenant', subscription', snapshot)) :
    tenant.Kept tenant' ∧ subscription.Kept subscription' := by
  obtain ⟨moved, hmoved, h⟩ := bind_eq_ok.1 h
  cases h
  exact ⟨⟨rfl, rfl, rfl, rfl, rfl, rfl, rfl⟩, setSubscriptionStatus_kept hmoved⟩

theorem applySubscriptionCancelledTransition_kept {tenant tenant' : Tenant} {subscription subscription' : Subscription}
    {now : Time} {snapshot : BillingLifecycleSnapshot}
    (h : applySubscriptionCancelledTransition tenant subscription now = .ok (tenant', subscription', snapshot)) :
    tenant.Kept tenant' ∧ subscription.Kept subscription' := by
  obtain ⟨moved, hmoved, h⟩ := bind_eq_ok.1 h
  cases h
  have hkept := setSubscriptionStatus_kept hmoved
  refine ⟨⟨rfl, rfl, rfl, rfl, rfl, rfl, rfl⟩, hkept.id, hkept.tenantId, hkept.status, fun time ht => ?_⟩
  have hmovedAt := hkept.cancelledAt time ht
  show moved.cancelledAt.or (some now) = some time
  rw [hmovedAt]
  rfl

theorem applyPaidRepair_kept {tenant tenant' : Tenant} {subscription subscription' : Subscription} {runtimeExists : Bool}
    {now : Time} {outcome : PaidRepairOutcome}
    (h : applyPaidRepair tenant subscription runtimeExists now = .ok (tenant', subscription', outcome)) :
    tenant.Kept tenant' ∧ subscription.Kept subscription' := by
  obtain ⟨⟨moved, activated, snapshot⟩, hmoved, h⟩ := bind_eq_ok.1 h
  cases h
  obtain ⟨htenant, hsubscription⟩ := applyPaymentConfirmedTransition_kept hmoved
  refine ⟨?_, hsubscription⟩
  have hfirst : tenant.Kept
      (if tenant.status = .failed then { tenant with status := transitionOrForce tenant.status .pending } else tenant) := by
    split
    · exact ⟨rfl, rfl, rfl, rfl, rfl, rfl, rfl⟩
    · exact .refl tenant
  have hsecond := Tenant.Kept.trans _ _ _ hfirst htenant
  exact ⟨hsecond.id, hsecond.ownerId, hsecond.organizationId, hsecond.subdomain, hsecond.domain, hsecond.siteName,
    hsecond.companyName⟩

theorem applyProviderPaymentContext_kept (tenant : Tenant) (provider : String) (raw : Json) :
    tenant.Kept (applyProviderPaymentContext tenant provider raw).1 := by
  unfold applyProviderPaymentContext
  dsimp only
  split
  · exact ⟨rfl, rfl, rfl, rfl, rfl, rfl, rfl⟩
  split
  · exact ⟨rfl, rfl, rfl, rfl, rfl, rfl, rfl⟩
  split
  · exact ⟨rfl, rfl, rfl, rfl, rfl, rfl, rfl⟩
  split
  · exact ⟨rfl, rfl, rfl, rfl, rfl, rfl, rfl⟩
  · exact ⟨rfl, rfl, rfl, rfl, rfl, rfl, rfl⟩

/-! ### What a function writes over -/

/-- At most one tenant is written over, by a row that keeps what a tenant keeps. -/
def Db.RewritesTenant (db db' : Db) : Prop :=
  db'.tenants = db.tenants ∨
    ∃ old new, db.tenant? new.id = some old ∧ Tenant.Kept old new ∧ db'.tenants = put db.tenants new

/-- At most one subscription is written: over one that is there, or as the first of its tenant. -/
def Db.RewritesSubscription (db db' : Db) : Prop :=
  db'.subscriptions = db.subscriptions ∨
    (∃ old new, get? db.subscriptions new.id = some old ∧ Subscription.Kept old new ∧
      db'.subscriptions = put db.subscriptions new) ∨
    ∃ new : Subscription, new.id = fresh db.subscriptions ∧ (∀ s ∈ db.subscriptions, s.tenantId ≠ new.tenantId) ∧
      db'.subscriptions = insert db.subscriptions new

/-- What a function does to the tenants and the subscriptions. -/
structure Db.Rewrites (db db' : Db) : Prop where
  tenants : db.RewritesTenant db'
  subscriptions : db.RewritesSubscription db'

theorem rewritesTenant_put {db db' : Db} {old new : Tenant} (hrow : db.tenant? old.id = some old)
    (hrows : db'.tenants = put db.tenants new) (hkept : old.Kept new) : db.RewritesTenant db' := by
  refine Or.inr ⟨old, new, ?_, hkept, hrows⟩
  rw [hkept.id]
  exact hrow

theorem rewritesSubscription_put {db db' : Db} {old new : Subscription} (hrow : get? db.subscriptions old.id = some old)
    (hrows : db'.subscriptions = put db.subscriptions new) (hkept : old.Kept new) : db.RewritesSubscription db' := by
  refine Or.inr (Or.inl ⟨old, new, ?_, hkept, hrows⟩)
  rw [hkept.id]
  exact hrow

/-- A tenant's subscription written over, or the first one of a tenant. -/
theorem rewritesSubscription_written {db db' : Db} {tenantId : Nat} {row : Subscription} (hU : db.SubscriptionsUnique)
    (hwritten : SubscriptionWritten db db' tenantId row) (hkept : ∀ old, db.subscriptionOf tenantId = some old → old.Kept row) :
    db.RewritesSubscription db' := by
  rcases hwritten.rows with ⟨old, hold, hid, hrows⟩ | ⟨hnone, hfresh, hrows⟩
  · have hrow : get? db.subscriptions old.id = some old := get?_of_mem hU.ids (mem_of_subscriptionOf hold)
    exact rewritesSubscription_put hrow hrows (hkept old hold)
  · refine Or.inr (Or.inr ⟨row, hfresh, fun s hs heq => ?_, hrows⟩)
    have hnot := List.find?_eq_none.1 hnone s hs
    rw [heq, hwritten.tenant] at hnot
    simp at hnot

theorem upsertSubscriptionForTenant_kept {db db' : Db} {tenantId : Nat} {plan : Plan} {selectedApp : Option String}
    {status : SubscriptionStatus} {provider subscriptionId customerId sessionId : Option String}
    {trialEndsAt : Option (Option Time)} {row : Subscription}
    (h : upsertSubscriptionForTenant db tenantId plan selectedApp status provider subscriptionId customerId sessionId
      trialEndsAt = .ok (row, db')) (hU : db.SubscriptionsUnique) : db.RewritesSubscription db' := by
  refine rewritesSubscription_written hU (upsertSubscriptionForTenant_written h) fun old hold => ?_
  unfold upsertSubscriptionForTenant at h
  obtain ⟨u, -, h⟩ := bind_eq_ok.1 h
  rw [hold] at h
  obtain ⟨v, hvalid, h⟩ := bind_eq_ok.1 h
  cases h
  exact ⟨rfl, rfl, SubscriptionStatus.reaches_of_valid (validateSubscriptionStatusTransition_eq_ok.1 hvalid), fun _ ht => ht⟩

/-- The subscription a handler works on, written back. -/
theorem ensureSubscription_kept {db ensured db' : Db} {tenant : Tenant} {subscription row : Subscription}
    (hU : db.SubscriptionsUnique) (h : ensureSubscription db tenant = .ok (subscription, ensured))
    (hkept : subscription.Kept row) (hrows : db'.subscriptions = put ensured.subscriptions row) :
    db.RewritesSubscription db' := by
  refine rewritesSubscription_written hU (ensureSubscription_written h hkept.id hkept.tenantId hrows) fun old hold => ?_
  unfold ensureSubscription at h
  rw [hold] at h
  cases h
  exact hkept

/-! ### Requests -/

theorem recordCheckout_rewrites {env : Env} {owner : User} {tenantId : Nat} {plan : Plan} {selectedApp : Option String}
    {trialStatus : SubscriptionStatus} {trialEndsAt : Option Time} {db db' : Db} {u : Unit} (hU : db.SubscriptionsUnique)
    (h : recordCheckout env owner tenantId plan selectedApp trialStatus trialEndsAt db = .ok (u, db')) :
    db.Rewrites db' := by
  obtain ⟨tenant, htenant, h⟩ := bind_eq_ok.1 h
  obtain ⟨checkout, -, h⟩ := bind_eq_ok.1 h
  obtain ⟨moved, hmoved, h⟩ := bind_eq_ok.1 h
  obtain ⟨⟨subscription, db₁⟩, hsub, h⟩ := bind_eq_ok.1 h
  obtain ⟨-, rfl⟩ := transitionTenantStatus_ok hmoved
  have hrow := requireTenant_ok htenant
  rw [← Db.tenant?_id hrow] at hrow
  have hsubscriptions := upsertSubscriptionForTenant_kept hsub (hU.congr rfl)
  obtain ⟨-, -, subscriptions, rfl⟩ := upsertSubscriptionForTenant_ok hsub
  cases h
  exact ⟨rewritesTenant_put hrow rfl ⟨rfl, rfl, rfl, rfl, rfl, rfl, rfl⟩, hsubscriptions⟩

theorem backToPayment_kept {tenant tenant' : Tenant} (h : backToPayment tenant = .ok tenant') : tenant.Kept tenant' := by
  unfold backToPayment at h
  split at h
  · obtain ⟨-, rfl⟩ := transitionTenantStatus_ok h
    exact ⟨rfl, rfl, rfl, rfl, rfl, rfl, rfl⟩
  · cases h
    exact .refl tenant

theorem prepareRenewedCheckout_rewrites {env : Env} {tenantId : Nat} {now : Time} {client : PlatformErpClient}
    {db db' : Db} {u : Unit} (hU : db.SubscriptionsUnique)
    (h : prepareRenewedCheckout env tenantId now client db = .ok (u, db')) : db.Rewrites db' := by
  obtain ⟨tenant, htenant, h⟩ := bind_eq_ok.1 h
  obtain ⟨u, -, h⟩ := bind_eq_ok.1 h
  obtain ⟨owner, -, h⟩ := bind_eq_ok.1 h
  obtain ⟨checkout, -, h⟩ := bind_eq_ok.1 h
  obtain ⟨waiting, hwaiting, h⟩ := bind_eq_ok.1 h
  obtain ⟨⟨plan, db₁⟩, hplan, h⟩ := bind_eq_ok.1 h
  obtain ⟨⟨subscription, db₂⟩, hsub, h⟩ := bind_eq_ok.1 h
  obtain ⟨plans, rfl⟩ := requirePlanBySlug_frame hplan
  have hrow := requireTenant_ok htenant
  rw [← Db.tenant?_id hrow] at hrow
  have hkept := backToPayment_kept hwaiting
  have hsubscriptions := upsertSubscriptionForTenant_kept hsub (hU.congr rfl)
  obtain ⟨-, -, subscriptions, rfl⟩ := upsertSubscriptionForTenant_ok hsub
  cases h
  refine ⟨rewritesTenant_put hrow rfl ?_, hsubscriptions⟩
  exact ⟨hkept.id, hkept.ownerId, hkept.organizationId, hkept.subdomain, hkept.domain, hkept.siteName, hkept.companyName⟩

/-- A new attempt writes its tenant and its tenant's subscription over, with the provider of the attempt. -/
theorem addPaymentAttempt_rewrites (db : Db) {tenant : Tenant} (hU : db.SubscriptionsUnique)
    (hrow : db.tenant? tenant.id = some tenant) (invoice : BillingInvoice) (checkout : CheckoutResult) (now : Time) :
    db.Rewrites (addPaymentAttempt db tenant invoice checkout now) := by
  unfold addPaymentAttempt
  dsimp only
  split
  · rename_i subscription hsubscription
    have hold : db.subscriptionOf tenant.id = some subscription := hsubscription
    refine ⟨rewritesTenant_put hrow rfl ⟨rfl, rfl, rfl, rfl, rfl, rfl, rfl⟩, ?_⟩
    exact rewritesSubscription_put (get?_of_mem hU.ids (mem_of_subscriptionOf hold)) rfl
      ⟨rfl, rfl, .refl, fun _ ht => ht⟩
  · exact ⟨rewritesTenant_put hrow rfl ⟨rfl, rfl, rfl, rfl, rfl, rfl, rfl⟩, Or.inl rfl⟩

theorem preparePaymentAttempt_rewrites {gateway : PaymentGateway} {tenant : Tenant} {owner : User}
    {invoice : BillingInvoice} {provider : Option String} {now : Time} {client : PlatformErpClient} {db db' : Db}
    {attemptId : Nat} (hU : db.SubscriptionsUnique) (hrow : db.tenant? tenant.id = some tenant)
    (h : preparePaymentAttempt gateway tenant owner invoice provider now client db = .ok (attemptId, db')) :
    db.Rewrites db' := by
  obtain ⟨⟨resynced, db₁⟩, hresync, h⟩ := bind_eq_ok.1 h
  obtain ⟨u, -, h⟩ := bind_eq_ok.1 h
  obtain ⟨u', -, h⟩ := bind_eq_ok.1 h
  obtain ⟨checkout, -, h⟩ := bind_eq_ok.1 h
  obtain ⟨accounts, invoices, rfl⟩ := resyncOneInvoice_frame hresync
  cases h
  obtain ⟨htenants, hsubscriptions⟩ := addPaymentAttempt_rewrites { db with accounts := accounts, invoices := invoices }
    (hU.congr rfl) hrow resynced checkout now
  exact ⟨htenants, hsubscriptions⟩

/-! ### Webhooks -/

/-- The row of the tenant an event is for, and its subscription, written back. -/
theorem event_rewrites {db ensured db' : Db} {tenant payer paid : Tenant} {subscription row : Subscription}
    (hU : db.SubscriptionsUnique) (hrow : db.tenant? tenant.id = some tenant) (hpayer : tenant.Kept payer)
    (hsub : ensureSubscription db payer = .ok (subscription, ensured)) (htenants : db'.tenants = put db.tenants paid)
    (hsubscriptions : db'.subscriptions = put ensured.subscriptions row) (hpaid : payer.Kept paid)
    (hkept : subscription.Kept row) : db.Rewrites db' :=
  ⟨rewritesTenant_put hrow htenants (.trans _ _ _ hpayer hpaid), ensureSubscription_kept hU hsub hkept hsubscriptions⟩

theorem withPaymentReferences_kept (subscription : Subscription) (tenant : Tenant)
    (sessionId subscriptionId : Option String) :
    subscription.Kept (withPaymentReferences subscription tenant sessionId subscriptionId) :=
  ⟨rfl, rfl, .refl, fun _ ht => ht⟩

theorem confirmPayment_rewrites {provider : String} {event : WebhookEvent} {now : Time} {client : PlatformErpClient}
    {db db' : Db} {handled : Handled} (hU : db.SubscriptionsUnique)
    (h : confirmPayment provider event now client db = .ok (handled, db')) : db.Rewrites db' := by
  unfold confirmPayment at h
  dsimp only at h
  split at h
  · cases h
    exact ⟨Or.inl rfl, Or.inl rfl⟩
  · rename_i tenant htenant
    split at h
    · cases h
    · have hpayer := applyProviderPaymentContext_kept tenant provider event.raw
      generalize applyProviderPaymentContext tenant provider event.raw = context at h hpayer
      obtain ⟨payer, sessionId⟩ := context
      dsimp only at h hpayer
      obtain ⟨⟨subscription, ensured⟩, hsub, h⟩ := bind_eq_ok.1 h
      obtain ⟨settled, hsettled, h⟩ := bind_eq_ok.1 h
      obtain ⟨⟨paid, activated, snapshot⟩, hpaid, h⟩ := bind_eq_ok.1 h
      obtain ⟨hpaidKept, hactivated⟩ := applyPaymentConfirmedTransition_kept hpaid
      obtain ⟨-, plans, subscriptions, hensured⟩ := ensureSubscription_ok hsub
      obtain ⟨accounts, invoices, attempts, events, hframe⟩ := settleInvoiceBackedPaymentConfirmation_frame hsettled
      have htenants : settled.tenants = db.tenants := by rw [hframe, hensured]
      have hrows : settled.subscriptions = ensured.subscriptions := by rw [hframe]
      cases h
      refine event_rewrites hU (resolved_row htenant) hpayer hsub (congrArg (fun rows => put rows _) htenants)
        (congrArg (fun rows => put rows _) hrows) ?_ ?_
      · exact ⟨hpaidKept.id, hpaidKept.ownerId, hpaidKept.organizationId, hpaidKept.subdomain, hpaidKept.domain,
          hpaidKept.siteName, hpaidKept.companyName⟩
      · split
        · exact .trans _ _ _ hactivated ⟨rfl, rfl, .refl, fun _ ht => ht⟩
        · exact .trans _ _ _ hactivated (withPaymentReferences_kept _ _ _ _)

theorem failPayment_rewrites {provider : String} {event : WebhookEvent} {now : Time} {client : PlatformErpClient}
    {db db' : Db} {handled : Handled} (hU : db.SubscriptionsUnique)
    (h : failPayment provider event now client db = .ok (handled, db')) : db.Rewrites db' := by
  unfold failPayment at h
  dsimp only at h
  split at h
  · cases h
    exact ⟨Or.inl rfl, Or.inl rfl⟩
  · rename_i tenant htenant
    have hpayer := applyProviderPaymentContext_kept tenant provider event.raw
    generalize applyProviderPaymentContext tenant provider event.raw = context at h hpayer
    obtain ⟨payer, sessionId⟩ := context
    dsimp only at h hpayer
    obtain ⟨⟨subscription, ensured⟩, hsub, h⟩ := bind_eq_ok.1 h
    obtain ⟨⟨failed, pastDue, snapshot⟩, hfailed, h⟩ := bind_eq_ok.1 h
    obtain ⟨hfailedKept, hpastDue⟩ := applyPaymentFailedTransition_kept hfailed
    obtain ⟨-, plans, subscriptions, hensured⟩ := ensureSubscription_ok hsub
    obtain ⟨attempts, events, hframe⟩ := applyInvoiceBackedPaymentFailure_frame ensured (withDefaultChannel payer)
      subscription (resolveInvoiceBackedContext db provider event.tenantId event.subscriptionId event.raw).paymentAttempt
      provider event.raw now
    rw [hframe] at h
    have htenants : ensured.tenants = db.tenants := by rw [hensured]
    have hchannel : tenant.Kept (withDefaultChannel payer) :=
      .trans _ _ _ hpayer ⟨rfl, rfl, rfl, rfl, rfl, rfl, rfl⟩
    cases h
    exact event_rewrites hU (resolved_row htenant) hchannel hsub (congrArg (fun rows => put rows _) htenants) rfl
      hfailedKept (.trans _ _ _ hpastDue (withPaymentReferences_kept _ _ _ _))

theorem cancelSubscription_rewrites {event : WebhookEvent} {now : Time} {client : PlatformErpClient} {db db' : Db}
    {handled : Handled} (hU : db.SubscriptionsUnique) (hrow : ∀ tenant, cancellationTenant db event = some tenant →
      db.tenant? tenant.id = some tenant)
    (h : cancelSubscription event now client db = .ok (handled, db')) : db.Rewrites db' := by
  unfold cancelSubscription at h
  split at h
  · cases h
    exact ⟨Or.inl rfl, Or.inl rfl⟩
  · rename_i tenant htenant
    obtain ⟨⟨subscription, ensured⟩, hsub, h⟩ := bind_eq_ok.1 h
    obtain ⟨⟨cancelled, ended, snapshot⟩, hcancelled, h⟩ := bind_eq_ok.1 h
    obtain ⟨hcancelledKept, hended⟩ := applySubscriptionCancelledTransition_kept hcancelled
    obtain ⟨-, plans, subscriptions, hensured⟩ := ensureSubscription_ok hsub
    have htenants : ensured.tenants = db.tenants := by rw [hensured]
    cases h
    exact event_rewrites hU (hrow tenant htenant) (.refl tenant) hsub (congrArg (fun rows => put rows _) htenants) rfl
      hcancelledKept (.trans _ _ _ hended ⟨rfl, rfl, .refl, fun _ ht => ht⟩)

theorem eventBody_rewrites {provider : String} {event : WebhookEvent} {now : Time} {client : PlatformErpClient}
    {db db' : Db} {handled : Handled} (hU : db.SubscriptionsUnique)
    (h : eventBody provider event now client db = .ok (handled, db')) : db.Rewrites db' := by
  have hresolved : ∀ tenant, eventTenant provider event db = some tenant → db.tenant? tenant.id = some tenant :=
    fun tenant => eventTenant_row
  unfold eventBody at h
  unfold eventTenant at hresolved
  cases htype : event.eventType with
  | paymentConfirmed =>
    rw [htype] at h
    exact confirmPayment_rewrites hU h
  | paymentFailed =>
    rw [htype] at h
    exact failPayment_rewrites hU h
  | subscriptionCancelled =>
    rw [htype] at h hresolved
    exact cancelSubscription_rewrites hU hresolved h
  | other name =>
    rw [htype] at h
    cases h
    exact ⟨Or.inl rfl, Or.inl rfl⟩

/-! ### Reconciliation, cycles and tasks -/

theorem reconcileSettledInvoice_rewrites {client : PlatformErpClient} {db db' : Db} {tenant : Tenant}
    {subscription : Option Subscription} {invoice : BillingInvoice} {attempt : Option PaymentAttempt}
    {result : InvoiceReconciliationResult} {now : Time} {r : InvoiceReconciliationResult × Option String}
    (hrow : db.tenant? tenant.id = some tenant)
    (hsubscription : ∀ s ∈ subscription, get? db.subscriptions s.id = some s)
    (h : reconcileSettledInvoice client db tenant subscription invoice attempt result now = .ok (r, db')) :
    db.Rewrites db' := by
  obtain ⟨result', email⟩ := r
  obtain ⟨paid, updated, resolved, db₁, db₂, hpay, hresolve, -, hcases⟩ := reconcileSettledInvoice_parts rfl h
  obtain ⟨attempts, rfl⟩ := payAttemptFromErp_frame hpay
  cases hresolve
  rcases hcases with ⟨-, -, opened, db₃, hopen, rfl⟩ | ⟨s, activated, outcome, rfl, -, hrepair, -, -, rfl⟩
  · obtain ⟨exceptions, rfl⟩ := openBillingException_frame hopen
    exact ⟨Or.inl rfl, Or.inl rfl⟩
  · have hkept := (applyPaidRepair_kept hrepair).2
    refine ⟨rewritesTenant_put hrow rfl ⟨rfl, rfl, rfl, rfl, rfl, rfl, rfl⟩, ?_⟩
    exact rewritesSubscription_put (hsubscription s rfl) rfl hkept

theorem reconcileInvoice_rewrites {tenantId invoiceId : Nat} {now : Time} {client : PlatformErpClient} {db db' : Db}
    {r : InvoiceReconciliationResult × Option String} (hU : db.SubscriptionsUnique)
    (h : reconcileInvoice tenantId invoiceId now client db = .ok (r, db')) : db.Rewrites db' := by
  obtain ⟨tenant, htenant, h⟩ := bind_eq_ok.1 h
  obtain ⟨invoice, -, h⟩ := bind_eq_ok.1 h
  obtain ⟨⟨resynced, db₁⟩, hresync, h⟩ := bind_eq_ok.1 h
  obtain ⟨accounts, invoices, rfl⟩ := resyncOneInvoice_frame hresync
  have hrow := requireTenant_ok htenant
  rw [← Db.tenant?_id hrow] at hrow
  have hsynced : ({ db with accounts := accounts, invoices := invoices } : Db).tenant? tenant.id = some tenant := hrow
  dsimp only at h
  split at h
  · have hsubscription : ∀ s ∈ subscriptionOfInvoice { db with accounts := accounts, invoices := invoices } tenant resynced,
        get? db.subscriptions s.id = some s := by
      intro s hs
      -- the subscription is the one the invoice names, or the tenant's own
      rcases Option.or_eq_some_iff.1 hs with hnamed | ⟨-, hown⟩
      · obtain ⟨id, -, hget⟩ := Option.bind_eq_some_iff.1 hnamed
        have hid : s.id = id := key_of_get? hget
        rw [hid]
        exact hget
      · have hmem : s ∈ db.subscriptions := mem_of_subscriptionOf hown
        exact get?_of_mem hU.ids hmem
    obtain ⟨htenants, hsubscriptions⟩ := reconcileSettledInvoice_rewrites hsynced hsubscription h
    exact ⟨htenants, hsubscriptions⟩
  · obtain ⟨result, email⟩ := r
    obtain ⟨-, attempts, events, exceptions, rfl⟩ := reconcileUnsettledInvoice_frame (Except.ok.inj h)
    exact ⟨Or.inl rfl, Or.inl rfl⟩

theorem expireTrial_rewrites {subscriptionId : Nat} {now : Time} {db db' : Db} {expired : Option Nat}
    (h : expireTrial subscriptionId now db = .ok (expired, db')) : db.Rewrites db' := by
  unfold expireTrial at h
  split at h
  · cases h
    exact ⟨Or.inl rfl, Or.inl rfl⟩
  · rename_i subscription hsubscription
    split at h
    · cases h
      exact ⟨Or.inl rfl, Or.inl rfl⟩
    · rename_i tenant htenant
      dsimp only at h
      split at h
      · cases h
        exact ⟨Or.inl rfl, Or.inl rfl⟩
      · obtain ⟨pastDue, hpastDue, h⟩ := bind_eq_ok.1 h
        rw [← Db.tenant?_id htenant] at htenant
        have hid : subscription.id = subscriptionId := key_of_get? hsubscription
        rw [← hid] at hsubscription
        cases h
        refine ⟨rewritesTenant_put htenant rfl ⟨rfl, rfl, rfl, rfl, rfl, rfl, rfl⟩, ?_⟩
        exact rewritesSubscription_put hsubscription rfl (setSubscriptionStatus_kept hpastDue)

/-- A change of one row of the tenant table. -/
theorem modifyTenant_rewrites (db : Db) (tenantId : Nat) {f : Tenant → Tenant} (hf : ∀ tenant, Tenant.Kept tenant (f tenant)) :
    db.Rewrites (db.modifyTenant tenantId f) := by
  cases hrow : db.tenant? tenantId with
  | none =>
    rw [Db.modifyTenant_of_none hrow]
    exact ⟨Or.inl rfl, Or.inl rfl⟩
  | some tenant =>
    rw [Db.modifyTenant_of_tenant? hrow]
    rw [← Db.tenant?_id hrow] at hrow
    exact ⟨rewritesTenant_put hrow rfl (hf tenant), Or.inl rfl⟩

/-! ### The invariant -/

/-- No two tenants have one id or one domain, and no two subscriptions one id or one tenant. -/
structure Db.TenantsUnique (db : Db) : Prop where
  ids : (db.tenants.map Tenant.id).Nodup
  domains : (db.tenants.map Tenant.domain).Nodup
  subscriptions : db.SubscriptionsUnique

/-- The tenants and subscriptions of `db` are still there. -/
structure Db.TenantsKept (db db' : Db) : Prop where
  tenants : Grows Tenant.Kept db.tenants db'.tenants
  subscriptions : Grows Subscription.Kept db.subscriptions db'.subscriptions

theorem Db.TenantsKept.refl (db : Db) : db.TenantsKept db :=
  ⟨Grows.refl Tenant.Kept.refl db.tenants, Grows.refl Subscription.Kept.refl db.subscriptions⟩

/-- A column that a row keeps when it is written over its old self is the column it was. -/
theorem map_put_of_kept {α β : Type} [Keyed α] {rows : List α} {column : α → β} (hnd : (rows.map key).Nodup) {old new : α}
    (hrow : get? rows (key new) = some old) (hcolumn : column new = column old) :
    (put rows new).map column = rows.map column := by
  unfold put
  rw [List.map_map]
  refine List.map_congr_left fun a ha => ?_
  show column (if key a = key new then new else a) = column a
  split
  · rename_i hkey
    have hfound := get?_of_mem hnd ha
    rw [hkey, hrow] at hfound
    cases hfound
    exact hcolumn
  · rfl

/-- The rows are unique and go back to `db₀`. -/
def Db.Since (db₀ db : Db) : Prop := db.TenantsUnique ∧ db₀.TenantsKept db

theorem Db.Since.congr {db₀ db db' : Db} (h : db₀.Since db) (htenants : db'.tenants = db.tenants)
    (hsubscriptions : db'.subscriptions = db.subscriptions) : db₀.Since db' := by
  obtain ⟨hU, hK⟩ := h
  refine ⟨⟨?_, ?_, hU.subscriptions.congr hsubscriptions⟩, ?_, ?_⟩
  · rw [htenants]
    exact hU.ids
  · rw [htenants]
    exact hU.domains
  · rw [htenants]
    exact hK.tenants
  · rw [hsubscriptions]
    exact hK.subscriptions

theorem Db.Since.rewrites {db₀ db db' : Db} (h : db₀.Since db) (hdb' : db.Rewrites db') : db₀.Since db' := by
  obtain ⟨hU, hK⟩ := h
  have htenants : (db'.tenants.map Tenant.id).Nodup ∧ (db'.tenants.map Tenant.domain).Nodup ∧
      Grows Tenant.Kept db₀.tenants db'.tenants := by
    rcases hdb'.tenants with hsame | ⟨old, new, hrow, hkept, hput⟩
    · rw [hsame]
      exact ⟨hU.ids, hU.domains, hK.tenants⟩
    · rw [hput]
      refine ⟨?_, ?_, hK.tenants.put Tenant.Kept.trans Tenant.Kept.refl hU.ids hrow hkept⟩
      · rw [map_put_of_kept hU.ids hrow hkept.id]
        exact hU.ids
      · rw [map_put_of_kept hU.ids hrow hkept.domain]
        exact hU.domains
  have hsubscriptions : db'.SubscriptionsUnique ∧ Grows Subscription.Kept db₀.subscriptions db'.subscriptions := by
    rcases hdb'.subscriptions with hsame | ⟨old, new, hrow, hkept, hput⟩ | ⟨new, hid, hnone, hinsert⟩
    · exact ⟨hU.subscriptions.congr hsame, hsame ▸ hK.subscriptions⟩
    · refine ⟨⟨?_, ?_⟩, ?_⟩
      · rw [hput, map_put_of_kept hU.subscriptions.ids hrow hkept.id]
        exact hU.subscriptions.ids
      · rw [hput, map_put_of_kept hU.subscriptions.ids hrow hkept.tenantId]
        exact hU.subscriptions.tenants
      · rw [hput]
        exact hK.subscriptions.put Subscription.Kept.trans Subscription.Kept.refl hU.subscriptions.ids hrow hkept
    · refine ⟨⟨?_, ?_⟩, ?_⟩
      · rw [hinsert]
        exact nodup_insert_fresh hU.subscriptions.ids hid
      · rw [hinsert, Table.insert, List.map_append, List.nodup_append]
        refine ⟨hU.subscriptions.tenants, List.nodup_singleton _, ?_⟩
        intro t ht t' ht'
        obtain ⟨s, hs, rfl⟩ := List.mem_map.1 ht
        rw [List.mem_singleton.1 ht']
        exact hnone s hs
      · rw [hinsert]
        exact hK.subscriptions.insert new
  exact ⟨⟨htenants.1, htenants.2.1, hsubscriptions.1⟩, htenants.2.2, hsubscriptions.2⟩

/-- A new tenant has a domain of its own. -/
theorem Db.Since.created {db₀ db db' : Db} {settings : Settings} {owner : User} {subdomain companyName plan : String}
    {chosenApp : Option String} {now : Time} {r : Nat × Plan × Option String} (h : db₀.Since db)
    (hr : prepareTenant settings owner subdomain companyName plan chosenApp now db = .ok (r, db')) : db₀.Since db' := by
  obtain ⟨u, -, hr⟩ := bind_eq_ok.1 hr
  obtain ⟨cleanSubdomain, -, hr⟩ := bind_eq_ok.1 hr
  obtain ⟨⟨plan', db₁⟩, hplan, hr⟩ := bind_eq_ok.1 hr
  obtain ⟨app, -, hr⟩ := bind_eq_ok.1 hr
  obtain ⟨u', hfree, hr⟩ := bind_eq_ok.1 hr
  obtain ⟨⟨subscription, db₂⟩, hsub, hr⟩ := bind_eq_ok.1 hr
  obtain ⟨plans, rfl⟩ := requirePlanBySlug_frame hplan
  have hnew := raiseIf_eq_ok.1 hfree
  have hrows := upsertSubscriptionForTenant_kept hsub (h.1.subscriptions.congr rfl)
  obtain ⟨-, -, subscriptions, rfl⟩ := upsertSubscriptionForTenant_ok hsub
  cases hr
  have hwritten : db₀.Since { db with plans := plans, subscriptions := subscriptions } :=
    h.rewrites ⟨Or.inl rfl, hrows⟩
  obtain ⟨hU, hK⟩ := hwritten
  refine ⟨⟨nodup_insert_fresh h.1.ids rfl, ?_, hU.subscriptions.congr rfl⟩, hK.tenants.insert _, hK.subscriptions⟩
  show ((Table.insert db.tenants _).map Tenant.domain).Nodup
  rw [Table.insert, List.map_append, List.nodup_append]
  refine ⟨h.1.domains, List.nodup_singleton _, ?_⟩
  intro domain hdomain domain' hdomain'
  obtain ⟨tenant, htenant, rfl⟩ := List.mem_map.1 hdomain
  rw [List.mem_singleton.1 hdomain']
  exact fun heq => hnew ⟨tenant, htenant, heq⟩

/-- A flush stamps rows, and leaves what they keep. -/
theorem Db.Since.flush {db₀ saved work : Db} (now : Time) (h : db₀.Since work) : db₀.Since (Db.flush now saved work) := by
  have hrows : ∃ stamp : Tenant → Tenant, (∀ tenant, Tenant.Kept tenant (stamp tenant)) ∧
      (Db.flush now saved work).tenants = work.tenants.map stamp := by
    refine ⟨_, fun tenant => ?_, rfl⟩
    rcases Db.onUpdate_eq_or Tenant.updatedAt (fun now tenant => { tenant with updatedAt := now }) now saved.tenants tenant
      with heq | heq
    · rw [heq]
      exact .refl tenant
    · rw [heq]
      exact ⟨rfl, rfl, rfl, rfl, rfl, rfl, rfl⟩
  obtain ⟨stamp, hstamp, hrows⟩ := hrows
  obtain ⟨hU, hK⟩ := h
  have hids : (work.tenants.map stamp).map Tenant.id = work.tenants.map Tenant.id := by
    rw [List.map_map]
    exact List.map_congr_left fun tenant _ => (hstamp tenant).id
  have hdomains : (work.tenants.map stamp).map Tenant.domain = work.tenants.map Tenant.domain := by
    rw [List.map_map]
    exact List.map_congr_left fun tenant _ => (hstamp tenant).domain
  have hgrows : Grows Tenant.Kept db₀.tenants (work.tenants.map stamp) :=
    hK.tenants.map Tenant.Kept.trans fun tenant _ => hstamp tenant
  rw [← hrows] at hids hdomains hgrows
  refine ⟨⟨?_, ?_, hU.subscriptions.congr rfl⟩, hgrows, hK.subscriptions⟩
  · rw [hids]
    exact hU.ids
  · rw [hdomains]
    exact hU.domains

/-! ### Steps and runs -/

theorem Change.since {db₀ db db' : Db} {w : World} {e : Event} (hchange : Change w e db db') (h : db₀.Since db) :
    db₀.Since db' := by
  have hU := h.1.subscriptions
  cases hchange with
  | created _ hr => exact h.created hr
  | joined => exact h.congr rfl rfl
  | checkedOut _ hr => exact h.rewrites (recordCheckout_rewrites hU hr)
  | renewed _ hr => exact h.rewrites (prepareRenewedCheckout_rewrites hU hr)
  | handled _ _ _ _ hr => exact h.rewrites (eventBody_rewrites hU hr)
  | synced _ hr =>
    obtain ⟨accounts, invoices, rfl⟩ := syncForTenant_frame hr
    exact h.congr rfl rfl
  | attempted _ hinvoice hr =>
    have hrow := (requireInvoice_ok hinvoice).2
    rw [← Db.tenant?_id hrow] at hrow
    exact h.rewrites (preparePaymentAttempt_rewrites hU hrow hr)
  | reconciled _ _ _ hr => exact h.rewrites (reconcileInvoice_rewrites hU hr)
  | expired _ hr => exact h.rewrites (expireTrial_rewrites hr)
  | moved _ hr =>
    obtain ⟨tenant, htenant, hr⟩ := bind_eq_ok.1 hr
    obtain ⟨moved, hmoved, hr⟩ := bind_eq_ok.1 hr
    obtain ⟨-, rfl⟩ := transitionTenantStatus_ok (asConflict_ok hmoved)
    have hrow := requireTenant_ok htenant
    rw [← Db.tenant?_id hrow] at hrow
    cases hr
    exact h.rewrites ⟨rewritesTenant_put hrow rfl ⟨rfl, rfl, rfl, rfl, rfl, rfl, rfl⟩, Or.inl rfl⟩
  | retried _ hr =>
    obtain ⟨tenant, htenant, hr⟩ := bind_eq_ok.1 hr
    obtain ⟨u, -, hr⟩ := bind_eq_ok.1 hr
    obtain ⟨moved, hmoved, hr⟩ := bind_eq_ok.1 hr
    obtain ⟨-, rfl⟩ := transitionTenantStatus_ok hmoved
    have hrow := requireTenant_ok htenant
    rw [← Db.tenant?_id hrow] at hrow
    cases hr
    exact h.rewrites ⟨rewritesTenant_put hrow rfl ⟨rfl, rfl, rfl, rfl, rfl, rfl, rfl⟩, Or.inl rfl⟩
  | reminded => exact h.rewrites (modifyTenant_rewrites _ _ fun _ => ⟨rfl, rfl, rfl, rfl, rfl, rfl, rfl⟩)
  | escalated => exact h.rewrites (modifyTenant_rewrites _ _ fun _ => ⟨rfl, rfl, rfl, rfl, rfl, rfl, rfl⟩)
  | worked _ _ hrow hr =>
    obtain ⟨-, rfl⟩ := transitionTenantStatus_ok hr
    rw [← Db.tenant?_id hrow] at hrow
    exact h.rewrites ⟨rewritesTenant_put hrow rfl ⟨rfl, rfl, rfl, rfl, rfl, rfl, rfl⟩, Or.inl rfl⟩
  | failing => exact h.rewrites (modifyTenant_rewrites _ _ fun _ => ⟨rfl, rfl, rfl, rfl, rfl, rfl, rfl⟩)

theorem follows_since (db₀ : Db) (w : World) (e : Event) : Follows (fun db => db₀.Since db ∧ db.InvoicesFiled) w e where
  core db db' hcore h := by
    obtain ⟨hS, hF⟩ := h
    exact ⟨hS.congr (Db.tenants_of_core hcore) (Db.subscriptions_of_core hcore), hF.congr (Db.invoices_of_core hcore)⟩
  flush now saved work _ h := ⟨h.1.flush now, h.2.congr rfl⟩
  invoiceIds db h := h.2.ids
  single db db' hchange h := ⟨hchange.since h.1, hchange.invoicesFiled h.2⟩

theorem always_since {w : World} (es : List Event) (hU : w.db.TenantsUnique) (hF : w.db.InvoicesFiled) :
    Always step (fun w' => w.db.Since w'.db ∧ w'.db.InvoicesFiled) w es :=
  Always.of_invariant (I := fun w' => w.db.Since w'.db ∧ w'.db.InvoicesFiled)
    (fun w' e h => step_follows (follows_since w.db w' e) h) ⟨⟨hU, .refl _⟩, hF⟩ es

/-- At every moment of a run the ids and the domains of the tenants and the tenants of the subscriptions are unique, and at
every later one a tenant has its owner, its organization and its domain, and its subscription has only moved along the
table: one that was cancelled still is, since the same time. -/
theorem tenants_kept {w : World} (es es' : List Event) (hU : w.db.TenantsUnique) (hF : w.db.InvoicesFiled) :
    (run step w es).db.TenantsUnique ∧
    (∀ t tenant, (run step w es).db.tenant? t = some tenant →
      ∃ tenant', (run step w (es ++ es')).db.tenant? t = some tenant' ∧ tenant.Kept tenant') ∧
    ∀ t subscription, (run step w es).db.subscriptionOf t = some subscription →
      ∃ subscription', (run step w (es ++ es')).db.subscriptionOf t = some subscription' ∧
        subscription.Kept subscription' ∧ (subscription.status = .cancelled → subscription'.status = .cancelled) := by
  obtain ⟨⟨hmiddle, -⟩, hfiled⟩ := (always_since es hU hF).last
  rw [run_append]
  obtain ⟨⟨hlater, hkept⟩, -⟩ := (always_since es' hmiddle hfiled).last
  refine ⟨hmiddle, fun t tenant htenant => ?_, fun t subscription hsubscription => ?_⟩
  · exact hkept.tenants.get? (fun _ _ h => h.id) hlater.ids htenant
  · obtain ⟨subscription', hmem, hsame⟩ := hkept.subscriptions.mem (mem_of_subscriptionOf hsubscription)
    have hfound := hlater.subscriptions.subscriptionOf hmem
    rw [hsame.tenantId, tenantId_of_subscriptionOf hsubscription] at hfound
    refine ⟨subscription', hfound, hsame, fun hcancelled => ?_⟩
    have hreaches := hsame.status
    rw [hcancelled] at hreaches
    exact SubscriptionStatus.reaches_of_cancelled hreaches

namespace Small

/-- A subscription is cancelled, and pays after that. -/
def cancelledAndPaid : List Event :=
  events [webhook .subscriptionCancelled "cancelled", webhook .paymentConfirmed "paid"]

theorem cancelled_tenants_kept :
    (after [createTenant]).db.TenantsUnique ∧
    (∀ t tenant, (after [createTenant]).db.tenant? t = some tenant →
      ∃ tenant', (run step world (events [createTenant] ++ cancelledAndPaid)).db.tenant? t = some tenant' ∧
        tenant.Kept tenant') ∧
    ∀ t subscription, (after [createTenant]).db.subscriptionOf t = some subscription →
      ∃ subscription', (run step world (events [createTenant] ++ cancelledAndPaid)).db.subscriptionOf t =
        some subscription' ∧ subscription.Kept subscription' ∧
          (subscription.status = .cancelled → subscription'.status = .cancelled) :=
  tenants_kept (events [createTenant]) cancelledAndPaid ⟨by decide, by decide, by decide, by decide⟩
    ⟨by decide, by decide, by decide⟩

/-- The payment comes too late. -/
example : (run step world (events [createTenant] ++ cancelledAndPaid)).db.subscriptions.map
    (fun s => (s.tenantId, s.status, s.cancelledAt.isSome)) = [(1, .cancelled, true)] := by decide +kernel

end Small

end ControlPlane
