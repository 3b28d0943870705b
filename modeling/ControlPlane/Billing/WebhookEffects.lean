import ControlPlane.Billing.WebhookApplicationService
import ControlPlane.Frames

/-!
# What a webhook handler does to the rows

For each of `confirmPayment`, `failPayment` and `cancelSubscription`: which rows it writes when it succeeds, and when it
succeeds.
-/

namespace ControlPlane

open Table Session.Proc

/-- A provider's payment context changes none of the columns a billing event reads. -/
theorem applyProviderPaymentContext_frame (tenant : Tenant) (provider : String) (raw : Json) :
    (applyProviderPaymentContext tenant provider raw).1.id = tenant.id ∧
      (applyProviderPaymentContext tenant provider raw).1.status = tenant.status ∧
      (applyProviderPaymentContext tenant provider raw).1.platformCustomerId = tenant.platformCustomerId := by
  unfold applyProviderPaymentContext
  dsimp only
  split
  · exact ⟨rfl, rfl, rfl⟩
  · split
    · exact ⟨rfl, rfl, rfl⟩
    · split
      · exact ⟨rfl, rfl, rfl⟩
      · split
        · exact ⟨rfl, rfl, rfl⟩
        · exact ⟨rfl, rfl, rfl⟩

/-! ### Subscriptions -/

/-- Whether a tenant without a subscription can be given one: the starter plan is there and its isolation model is
supported. -/
def starterPlanUsable (db : Db) : Bool :=
  (getPlanBySlug db "starter").1.any fun plan => normalize plan.isolationModel ∈ supportedIsolationModels

/-- Whether a tenant has a subscription or can be given one. -/
def subscriptionAvailable (db : Db) (tenantId : Nat) : Bool :=
  (db.subscriptionOf tenantId).isSome || starterPlanUsable db

/-- A tenant's subscription, or a new pending one. -/
theorem ensureSubscription_ok {db db' : Db} {tenant : Tenant} {subscription : Subscription}
    (h : ensureSubscription db tenant = .ok (subscription, db')) :
    (db.subscriptionOf tenant.id = some subscription ∨
      db.subscriptionOf tenant.id = none ∧ subscription.status = .pending ∧ starterPlanUsable db = true) ∧
    ∃ plans subscriptions, db' = { db with plans := plans, subscriptions := subscriptions } := by
  unfold ensureSubscription at h
  split at h
  · rename_i existing hexisting
    cases h
    exact ⟨Or.inl hexisting, _, _, rfl⟩
  · rename_i hnone
    obtain ⟨plans, hplans⟩ := getPlanBySlug_frame db "starter"
    split at h
    · rename_i plan db₁ hplan
      have husable : starterPlanUsable db = true := by
        obtain ⟨u, hvalid, -⟩ := bind_eq_ok.1 h
        unfold validatePlanIsolationModel at hvalid
        unfold starterPlanUsable
        rw [hplan]
        split at hvalid
        · rename_i hmodel
          simpa using hmodel
        · cases hvalid
      rw [hplan] at hplans
      obtain rfl : db₁ = _ := hplans
      obtain ⟨hstatus, -, subscriptions, rfl⟩ := upsertSubscriptionForTenant_ok h
      exact ⟨Or.inr ⟨hnone, hstatus, husable⟩, plans, subscriptions, rfl⟩
    · cases h

theorem subscriptionAvailable_of {db : Db} {tenantId : Nat} {subscription : Subscription}
    (h : db.subscriptionOf tenantId = some subscription ∨
      db.subscriptionOf tenantId = none ∧ subscription.status = .pending ∧ starterPlanUsable db = true) :
    subscriptionAvailable db tenantId = true := by
  unfold subscriptionAvailable
  rcases h with h | ⟨-, -, h⟩
  · rw [h]; rfl
  · rw [h, Bool.or_true]

theorem subscriptionAvailable_congr {db db' : Db} (hplans : db'.plans = db.plans)
    (hsubscriptions : db'.subscriptions = db.subscriptions) (tenantId : Nat) :
    subscriptionAvailable db' tenantId = subscriptionAvailable db tenantId := by
  have hfound : (getPlanBySlug db' "starter").1 = (getPlanBySlug db "starter").1 := by
    unfold getPlanBySlug ensureDefaultPlanCatalog
    rw [hplans]
    split
    · rfl
    · dsimp only
      rw [hplans]
  unfold subscriptionAvailable starterPlanUsable Db.subscriptionOf
  rw [hfound, hsubscriptions]

theorem ensureSubscription_of_available {db : Db} {tenant : Tenant} (h : subscriptionAvailable db tenant.id = true) :
    ∃ subscription db', ensureSubscription db tenant = .ok (subscription, db') := by
  unfold subscriptionAvailable starterPlanUsable at h
  unfold ensureSubscription
  cases hsub : db.subscriptionOf tenant.id with
  | some existing => exact ⟨existing, db, rfl⟩
  | none =>
    obtain ⟨plans, hplans⟩ := getPlanBySlug_frame db "starter"
    rw [hsub, Option.isSome_none, Bool.false_or, Option.any_eq_true] at h
    obtain ⟨plan, hplan, hmodel⟩ := h
    generalize getPlanBySlug db "starter" = found at hplan hplans
    obtain ⟨plan?, db₁⟩ := found
    obtain rfl : plan? = some plan := hplan
    obtain rfl : db₁ = _ := hplans
    have hnone : Db.subscriptionOf { db with plans := plans } tenant.id = none := hsub
    have hvalid : validatePlanIsolationModel plan = .ok () := if_pos (by simpa using hmodel)
    simp only [upsertSubscriptionForTenant, hvalid, hnone, Bind.bind, Except.bind]
    exact ⟨_, _, rfl⟩

/-- The subscription a handler works on: what holds of the tenant's, and of a pending one, holds of it. -/
theorem ensureSubscription_spec {db : Db} {tenant : Tenant} (P : SubscriptionStatus → Prop)
    (havailable : subscriptionAvailable db tenant.id = true) (h : ∀ s ∈ db.subscriptionOf tenant.id, P s.status)
    (hpending : P .pending) :
    ∃ subscription ensured, ensureSubscription db tenant = .ok (subscription, ensured) ∧
      ensured.invoices = db.invoices ∧ P subscription.status := by
  obtain ⟨subscription, ensured, hsub⟩ := ensureSubscription_of_available havailable
  obtain ⟨hcases, plans, subscriptions, rfl⟩ := ensureSubscription_ok hsub
  refine ⟨subscription, _, hsub, rfl, ?_⟩
  rcases hcases with hsome | ⟨-, hnew, -⟩
  · exact h subscription hsome
  · rw [hnew]; exact hpending

/-! ### Settling -/

theorem settleInvoice_frame {client : PlatformErpClient} {db db' : Db} {tenant : Tenant}
    {invoice settled : BillingInvoice} {amount : Int} {now : Time}
    (h : settleInvoice client db tenant invoice amount now = .ok (settled, db')) :
    ∃ accounts invoices, db' = { db with accounts := accounts, invoices := invoices } := by
  unfold settleInvoice at h
  split at h
  · obtain ⟨⟨resynced, db₁⟩, hresync, h⟩ := bind_eq_ok.1 h
    cases h
    exact resyncOneInvoice_frame hresync
  · cases h; exact ⟨_, _, rfl⟩

/-- A settled invoice is settled, by the ERP's word or by the local entry. -/
theorem settleInvoice_settled {client : PlatformErpClient} {db db' : Db} {tenant : Tenant}
    {invoice settled : BillingInvoice} {amount : Int} {now : Time}
    (h : settleInvoice client db tenant invoice amount now = .ok (settled, db')) : invoiceIsSettled settled := by
  have hlocal : ∀ i, invoiceIsSettled (settleInvoiceLocally i amount now) := by
    intro i
    simp [invoiceIsSettled, settleInvoiceLocally, settledInvoiceStates]
  unfold settleInvoice at h
  split at h
  · obtain ⟨⟨resynced, db₁⟩, -, h⟩ := bind_eq_ok.1 h
    cases h
    split
    · rename_i hs
      exact hs
    · exact hlocal _
  · cases h; exact hlocal _

theorem settleInvoiceOf_frame {client : PlatformErpClient} {db db' : Db} {tenant : Tenant} {attempt : PaymentAttempt}
    {now : Time} (h : settleInvoiceOf client db tenant attempt now = .ok db') :
    ∃ accounts invoices, db' = { db with accounts := accounts, invoices := invoices } := by
  unfold settleInvoiceOf at h
  split at h
  · cases h; exact ⟨_, _, rfl⟩
  · obtain ⟨⟨settled, db₁⟩, hsettle, h⟩ := bind_eq_ok.1 h
    obtain ⟨accounts, invoices, rfl⟩ := settleInvoice_frame hsettle
    cases h
    exact ⟨accounts, _, rfl⟩

/-- A settlement writes accounts, invoices, the attempt and an event. -/
theorem settleInvoiceBackedPaymentConfirmation_frame {client : PlatformErpClient} {db db' : Db} {tenant : Tenant}
    {subscription : Subscription} {attempt : Option PaymentAttempt} {provider : String} {now : Time}
    (h : settleInvoiceBackedPaymentConfirmation client db tenant subscription attempt provider now = .ok db') :
    ∃ accounts invoices attempts events,
      db' = { db with accounts := accounts, invoices := invoices, attempts := attempts, events := events } := by
  unfold settleInvoiceBackedPaymentConfirmation at h
  split at h
  · cases h; exact ⟨_, _, _, _, rfl⟩
  · obtain ⟨db₁, hsettle, h⟩ := bind_eq_ok.1 h
    obtain ⟨accounts, invoices, rfl⟩ := settleInvoiceOf_frame hsettle
    cases h
    exact ⟨accounts, invoices, _, _, rfl⟩

theorem applyInvoiceBackedPaymentFailure_frame (db : Db) (tenant : Tenant) (subscription : Subscription)
    (attempt : Option PaymentAttempt) (provider : String) (raw : Json) (now : Time) :
    ∃ attempts events, applyInvoiceBackedPaymentFailure db tenant subscription attempt provider raw now =
      { db with attempts := attempts, events := events } := by
  unfold applyInvoiceBackedPaymentFailure
  split
  · exact ⟨_, _, rfl⟩
  · exact ⟨_, _, rfl⟩

/-! ### A confirmed payment -/

/-- The tenant status a confirmed payment leaves. -/
def paidStatus (current : TenantStatus) : TenantStatus := liftBillingSuspension current (confirmedStatus current)

theorem paidStatus_eq (current : TenantStatus) :
    paidStatus current =
      if current = .suspendedBilling then .active else if current = .pendingPayment then .pending else current := by
  cases current <;> decide

/-- What a confirmed payment changes when it changes anything: first the subscription is there (`ensured`), then the
attempt is settled (`settled`), and at last the subscription, which was not cancelled, is active (`activated`) and the
tenant in its new status (`paid`). -/
structure Confirmed (provider : String) (context : InvoiceBackedContext) (now : Time) (client : PlatformErpClient)
    (db db' : Db) (tenant paying paid : Tenant) (subscription activated : Subscription) (ensured settled : Db) :
    Prop where
  resolved : context.tenant = some tenant
  paying_eq : paying.id = tenant.id ∧ paying.platformCustomerId = tenant.platformCustomerId
  subscription_eq : db.subscriptionOf tenant.id = some subscription ∨
    db.subscriptionOf tenant.id = none ∧ subscription.status = .pending ∧ starterPlanUsable db = true
  notCancelled : subscription.status ≠ .cancelled
  ensured_eq : ∃ plans subscriptions, ensured = { db with plans := plans, subscriptions := subscriptions }
  settled_eq : settleInvoiceBackedPaymentConfirmation client ensured paying subscription context.paymentAttempt
    provider now = .ok settled
  activated_eq : activated.id = subscription.id ∧ activated.tenantId = subscription.tenantId ∧
    activated.status = .active
  paid_eq : paid.id = tenant.id ∧ paid.status = paidStatus tenant.status
  rows : db' = (settled.putSubscription activated).putTenant paid

theorem Confirmed.moved {provider : String} {context : InvoiceBackedContext} {now : Time} {client : PlatformErpClient}
    {db db' : Db} {tenant paying paid : Tenant} {subscription activated : Subscription} {ensured settled : Db}
    (h : Confirmed provider context now client db db' tenant paying paid subscription activated ensured settled) :
    Moved db db' tenant.id (paidStatus tenant.status) := by
  obtain ⟨plans, subscriptions, hensured⟩ := h.ensured_eq
  have hsettled := h.settled_eq
  rw [hensured] at hsettled
  obtain ⟨accounts, invoices, attempts, events, hframe⟩ := settleInvoiceBackedPaymentConfirmation_frame hsettled
  refine ⟨paid, ?_, h.paid_eq.1, h.paid_eq.2, ?_⟩
  · rw [h.rows, hframe]; rfl
  · rw [h.rows, hframe]; rfl

/-- The steps of a confirmed payment: the event has no tenant and is ignored, or the tenant is found with its owner and
goes through all of them. -/
theorem confirmPayment_parts {provider : String} {event : WebhookEvent} {now : Time} {client : PlatformErpClient}
    {db db' : Db} {handled : Handled} (h : confirmPayment provider event now client db = .ok (handled, db')) :
    (∃ message, handled = .ignored message ∧ db' = db ∧
      (resolveInvoiceBackedContext db provider event.tenantId event.subscriptionId event.raw).tenant = none) ∨
    ∃ (owner : User) (tenant paying paid : Tenant) (subscription activated : Subscription) (ensured settled : Db),
      handled = .changed tenant.id (some owner.email) ∧
      (resolveInvoiceBackedContext db provider event.tenantId event.subscriptionId event.raw).tenant = some tenant ∧
      db.user? tenant.ownerId = some owner ∧
      (paying.id = tenant.id ∧ paying.platformCustomerId = tenant.platformCustomerId) ∧
      ensureSubscription db paying = .ok (subscription, ensured) ∧
      settleInvoiceBackedPaymentConfirmation client ensured paying subscription
        (resolveInvoiceBackedContext db provider event.tenantId event.subscriptionId event.raw).paymentAttempt provider
        now = .ok settled ∧
      subscription.status ≠ .cancelled ∧
      (activated.id = subscription.id ∧ activated.tenantId = subscription.tenantId ∧ activated.status = .active) ∧
      (paid.id = tenant.id ∧ paid.status = paidStatus tenant.status ∧
        paid.platformCustomerId = tenant.platformCustomerId) ∧
      db' = (settled.putSubscription activated).putTenant paid := by
  unfold confirmPayment at h
  dsimp only at h
  split at h
  · rename_i hnone
    cases h
    exact Or.inl ⟨_, rfl, rfl, hnone⟩
  · rename_i tenant htenant
    split at h
    · cases h
    · rename_i owner howner
      obtain ⟨hid, hstatus, hcustomer⟩ := applyProviderPaymentContext_frame tenant provider event.raw
      generalize applyProviderPaymentContext tenant provider event.raw = context at h hid hstatus hcustomer
      obtain ⟨paying, sessionId⟩ := context
      dsimp only at h hid hstatus hcustomer
      obtain ⟨⟨subscription, ensured⟩, hsub, h⟩ := bind_eq_ok.1 h
      obtain ⟨settled, hsettled, h⟩ := bind_eq_ok.1 h
      obtain ⟨⟨paid, activated, snapshot⟩, hpaid, h⟩ := bind_eq_ok.1 h
      by_cases hc : subscription.status = .cancelled
      · rw [applyPaymentConfirmedTransition_error _ _ hc] at hpaid
        cases hpaid
      · obtain ⟨activated', snapshot', heq, hactivated⟩ := applyPaymentConfirmedTransition_ok paying now hc
        rw [heq] at hpaid
        cases hpaid
        cases h
        refine Or.inr ⟨owner, tenant, paying, _, subscription, _, ensured, settled, ?_, htenant, howner, ⟨hid, hcustomer⟩,
          hsub, hsettled, hc, ?_, ?_, rfl⟩
        · rw [← hid]
        · dsimp only
          split
          · exact hactivated
          · exact hactivated
        · exact ⟨hid, by rw [paidStatus, ← hstatus], hcustomer⟩

theorem confirmPayment_ok {provider : String} {event : WebhookEvent} {now : Time} {client : PlatformErpClient}
    {db db' : Db} {handled : Handled} (h : confirmPayment provider event now client db = .ok (handled, db')) :
    (∃ message, handled = .ignored message ∧ db' = db ∧
      (resolveInvoiceBackedContext db provider event.tenantId event.subscriptionId event.raw).tenant = none) ∨
    ∃ ownerEmail, ∃ (tenant paying paid : Tenant), ∃ subscription activated ensured settled,
      handled = .changed tenant.id ownerEmail ∧
      Confirmed provider (resolveInvoiceBackedContext db provider event.tenantId event.subscriptionId event.raw) now
        client db db' tenant paying paid subscription activated ensured settled := by
  rcases confirmPayment_parts h with hignored | ⟨owner, tenant, paying, paid, subscription, activated, ensured, settled,
    hhandled, htenant, -, hpaying, hsub, hsettled, hnot, hactivated, ⟨hid, hstatus, -⟩, hrows⟩
  · exact Or.inl hignored
  · obtain ⟨hsubscription, hensured⟩ := ensureSubscription_ok hsub
    rw [hpaying.1] at hsubscription
    exact Or.inr ⟨some owner.email, tenant, paying, paid, subscription, activated, ensured, settled, hhandled, htenant,
      hpaying, hsubscription, hnot, hensured, hsettled, hactivated, ⟨hid, hstatus⟩, hrows⟩

/-- A confirmed payment for a tenant with an owner and a subscription that is not cancelled succeeds if its settlement
does. -/
theorem confirmPayment_succeeds {provider : String} {event : WebhookEvent} {now : Time} {client : PlatformErpClient}
    {db : Db} {tenant : Tenant} {owner : User}
    (htenant : (resolveInvoiceBackedContext db provider event.tenantId event.subscriptionId event.raw).tenant =
      some tenant)
    (howner : db.user? tenant.ownerId = some owner) (havailable : subscriptionAvailable db tenant.id = true)
    (hstatus : ∀ s ∈ db.subscriptionOf tenant.id, s.status ≠ .cancelled)
    (hsettle : ∀ ensured paying subscription, ensured.invoices = db.invoices →
      Tenant.platformCustomerId paying = tenant.platformCustomerId →
      ∃ settled, settleInvoiceBackedPaymentConfirmation client ensured paying subscription
        (resolveInvoiceBackedContext db provider event.tenantId event.subscriptionId event.raw).paymentAttempt provider
        now = .ok settled) :
    ∃ db', confirmPayment provider event now client db = .ok (.changed tenant.id (some owner.email), db') := by
  obtain ⟨hid, -, hcustomer⟩ := applyProviderPaymentContext_frame tenant provider event.raw
  unfold confirmPayment
  simp only [htenant, howner]
  generalize applyProviderPaymentContext tenant provider event.raw = context at hid hcustomer
  obtain ⟨paying, sessionId⟩ := context
  dsimp only at hid hcustomer ⊢
  rw [← hid] at havailable hstatus
  obtain ⟨subscription, ensured, hsub, hinvoices, hnot⟩ :=
    ensureSubscription_spec (fun status => status ≠ .cancelled) havailable hstatus (by decide)
  obtain ⟨settled, hsettled⟩ := hsettle ensured paying subscription hinvoices hcustomer
  obtain ⟨activated, snapshot, heq, -⟩ := applyPaymentConfirmedTransition_ok paying now hnot
  simp only [Bind.bind, Except.bind, hsub, hsettled, heq, hid]
  exact ⟨_, rfl⟩

/-- A confirmed payment for a cancelled subscription raises. -/
theorem confirmPayment_cancelled {provider : String} {event : WebhookEvent} {now : Time} {client : PlatformErpClient}
    {db : Db} {tenant : Tenant} {subscription : Subscription}
    (htenant : (resolveInvoiceBackedContext db provider event.tenantId event.subscriptionId event.raw).tenant =
      some tenant)
    (hsub : db.subscriptionOf tenant.id = some subscription) (hstatus : subscription.status = .cancelled) :
    ∃ e, confirmPayment provider event now client db = .error e := by
  cases h : confirmPayment provider event now client db with
  | error e => exact ⟨e, rfl⟩
  | ok r =>
    obtain ⟨handled, db'⟩ := r
    rcases confirmPayment_ok h with ⟨m, -, -, hnone⟩ | ⟨email, tenant', paying, paid, subscription', _, _, _, -, hc⟩
    · rw [htenant] at hnone
      cases hnone
    · have ht := hc.resolved
      rw [htenant] at ht
      cases ht
      rcases hc.subscription_eq with h' | ⟨h', -⟩
      · rw [hsub] at h'
        cases h'
        exact absurd hstatus hc.notCancelled
      · rw [hsub] at h'
        cases h'

/-! ### A failed payment -/

/-- What a failed payment changes when it changes anything: the subscription is there (`ensured`), the attempt is
marked, the subscription, which was neither paused nor cancelled, is past due and the tenant in its new status. -/
structure Failed (provider : String) (raw : Json) (context : InvoiceBackedContext) (now : Time) (db db' : Db)
    (tenant paying failed : Tenant) (subscription pastDue : Subscription) (ensured : Db) : Prop where
  resolved : context.tenant = some tenant
  subscription_eq : db.subscriptionOf tenant.id = some subscription ∨
    db.subscriptionOf tenant.id = none ∧ subscription.status = .pending ∧ starterPlanUsable db = true
  notRefused : subscription.status ∉ [SubscriptionStatus.paused, .cancelled]
  ensured_eq : ∃ plans subscriptions, ensured = { db with plans := plans, subscriptions := subscriptions }
  pastDue_eq : pastDue.id = subscription.id ∧ pastDue.tenantId = subscription.tenantId ∧ pastDue.status = .pastDue
  failed_eq : failed.id = tenant.id ∧ failed.status = paymentFailedStatus tenant.status
  rows : db' = ((applyInvoiceBackedPaymentFailure ensured paying subscription context.paymentAttempt provider raw
    now).putSubscription pastDue).putTenant failed

theorem Failed.moved {provider : String} {raw : Json} {context : InvoiceBackedContext} {now : Time} {db db' : Db}
    {tenant paying failed : Tenant} {subscription pastDue : Subscription} {ensured : Db}
    (h : Failed provider raw context now db db' tenant paying failed subscription pastDue ensured) :
    Moved db db' tenant.id (paymentFailedStatus tenant.status) := by
  obtain ⟨plans, subscriptions, hensured⟩ := h.ensured_eq
  obtain ⟨attempts, events, hframe⟩ := applyInvoiceBackedPaymentFailure_frame ensured paying subscription
    context.paymentAttempt provider raw now
  refine ⟨failed, ?_, h.failed_eq.1, h.failed_eq.2, ?_⟩
  · rw [h.rows, hframe, hensured]; rfl
  · rw [h.rows, hframe, hensured]; rfl

/-- The steps of a failed payment. -/
theorem failPayment_parts {provider : String} {event : WebhookEvent} {now : Time} {client : PlatformErpClient}
    {db db' : Db} {handled : Handled} (h : failPayment provider event now client db = .ok (handled, db')) :
    (∃ message, handled = .ignored message ∧ db' = db ∧
      (resolveInvoiceBackedContext db provider event.tenantId event.subscriptionId event.raw).tenant = none) ∨
    ∃ (tenant payer failed : Tenant) (subscription pastDue : Subscription) (ensured : Db),
      handled = .changed tenant.id ((db.user? tenant.ownerId).map User.email) ∧
      (resolveInvoiceBackedContext db provider event.tenantId event.subscriptionId event.raw).tenant = some tenant ∧
      payer.id = tenant.id ∧ ensureSubscription db payer = .ok (subscription, ensured) ∧
      subscription.status ∉ [SubscriptionStatus.paused, .cancelled] ∧
      (pastDue.id = subscription.id ∧ pastDue.tenantId = subscription.tenantId ∧ pastDue.status = .pastDue) ∧
      (failed.id = tenant.id ∧ failed.status = paymentFailedStatus tenant.status ∧
        failed.platformCustomerId = tenant.platformCustomerId) ∧
      db' = ((applyInvoiceBackedPaymentFailure ensured payer subscription
        (resolveInvoiceBackedContext db provider event.tenantId event.subscriptionId event.raw).paymentAttempt provider
        event.raw now).putSubscription pastDue).putTenant failed := by
  unfold failPayment at h
  dsimp only at h
  split at h
  · rename_i hnone
    cases h
    exact Or.inl ⟨_, rfl, rfl, hnone⟩
  · rename_i tenant htenant
    obtain ⟨hid, hstatus, hcustomer⟩ := applyProviderPaymentContext_frame tenant provider event.raw
    generalize applyProviderPaymentContext tenant provider event.raw = context at h hid hstatus hcustomer
    obtain ⟨paying, sessionId⟩ := context
    dsimp only at h hid hstatus hcustomer
    replace hid : (withDefaultChannel paying).id = tenant.id := hid
    replace hstatus : (withDefaultChannel paying).status = tenant.status := hstatus
    replace hcustomer : (withDefaultChannel paying).platformCustomerId = tenant.platformCustomerId := hcustomer
    generalize withDefaultChannel paying = payer at h hid hstatus hcustomer
    obtain ⟨⟨subscription, ensured⟩, hsub, h⟩ := bind_eq_ok.1 h
    obtain ⟨⟨failed, pastDue, snapshot⟩, hfailed, h⟩ := bind_eq_ok.1 h
    by_cases hr : subscription.status ∈ [SubscriptionStatus.paused, .cancelled]
    · rw [applyPaymentFailedTransition_error _ _ hr] at hfailed
      cases hfailed
    · obtain ⟨snapshot', heq⟩ := applyPaymentFailedTransition_ok payer now hr
      rw [heq] at hfailed
      cases hfailed
      cases h
      refine Or.inr ⟨tenant, payer, _, subscription, _, ensured, ?_, htenant, hid, hsub, hr, ?_, ?_, rfl⟩
      · rw [← hid]
      · exact ⟨rfl, rfl, rfl⟩
      · exact ⟨hid, by rw [← hstatus], hcustomer⟩

theorem failPayment_ok {provider : String} {event : WebhookEvent} {now : Time} {client : PlatformErpClient}
    {db db' : Db} {handled : Handled} (h : failPayment provider event now client db = .ok (handled, db')) :
    (∃ message, handled = .ignored message ∧ db' = db ∧
      (resolveInvoiceBackedContext db provider event.tenantId event.subscriptionId event.raw).tenant = none) ∨
    ∃ ownerEmail, ∃ (tenant paying failed : Tenant), ∃ subscription pastDue ensured,
      handled = .changed tenant.id ownerEmail ∧
      Failed provider event.raw
        (resolveInvoiceBackedContext db provider event.tenantId event.subscriptionId event.raw) now db db' tenant paying
        failed subscription pastDue ensured := by
  rcases failPayment_parts h with hignored | ⟨tenant, payer, failed, subscription, pastDue, ensured, hhandled, htenant,
    hid, hsub, hnot, hpastDue, ⟨hfailedId, hstatus, -⟩, hrows⟩
  · exact Or.inl hignored
  · obtain ⟨hsubscription, hensured⟩ := ensureSubscription_ok hsub
    rw [hid] at hsubscription
    exact Or.inr ⟨_, tenant, payer, failed, subscription, pastDue, ensured, hhandled, htenant, hsubscription, hnot,
      hensured, hpastDue, ⟨hfailedId, hstatus⟩, hrows⟩

/-- A failed payment for a tenant whose subscription is neither paused nor cancelled succeeds. -/
theorem failPayment_succeeds {provider : String} {event : WebhookEvent} {now : Time} {client : PlatformErpClient}
    {db : Db} {tenant : Tenant}
    (htenant : (resolveInvoiceBackedContext db provider event.tenantId event.subscriptionId event.raw).tenant =
      some tenant)
    (havailable : subscriptionAvailable db tenant.id = true)
    (hstatus : ∀ s ∈ db.subscriptionOf tenant.id, s.status ∉ [SubscriptionStatus.paused, .cancelled]) :
    ∃ ownerEmail db', failPayment provider event now client db = .ok (.changed tenant.id ownerEmail, db') := by
  obtain ⟨hid, -, -⟩ := applyProviderPaymentContext_frame tenant provider event.raw
  unfold failPayment
  simp only [htenant]
  generalize applyProviderPaymentContext tenant provider event.raw = context at hid
  obtain ⟨paying, sessionId⟩ := context
  dsimp only at hid ⊢
  replace hid : (withDefaultChannel paying).id = tenant.id := hid
  generalize withDefaultChannel paying = payer at hid
  rw [← hid] at havailable hstatus
  obtain ⟨subscription, ensured, hsub, -, hnot⟩ :=
    ensureSubscription_spec (fun status => status ∉ [SubscriptionStatus.paused, .cancelled]) havailable hstatus
      (by decide)
  obtain ⟨snapshot, heq⟩ := applyPaymentFailedTransition_ok payer now hnot
  simp only [Bind.bind, Except.bind, hsub, heq, hid]
  exact ⟨_, _, rfl⟩

/-- A failed payment for a paused or cancelled subscription raises. -/
theorem failPayment_refused {provider : String} {event : WebhookEvent} {now : Time} {client : PlatformErpClient}
    {db : Db} {tenant : Tenant} {subscription : Subscription}
    (htenant : (resolveInvoiceBackedContext db provider event.tenantId event.subscriptionId event.raw).tenant =
      some tenant)
    (hsub : db.subscriptionOf tenant.id = some subscription)
    (hstatus : subscription.status ∈ [SubscriptionStatus.paused, .cancelled]) :
    ∃ e, failPayment provider event now client db = .error e := by
  cases h : failPayment provider event now client db with
  | error e => exact ⟨e, rfl⟩
  | ok r =>
    obtain ⟨handled, db'⟩ := r
    rcases failPayment_ok h with ⟨m, -, -, hnone⟩ | ⟨email, tenant', paying, failed, subscription', _, _, -, hf⟩
    · rw [htenant] at hnone
      cases hnone
    · have ht := hf.resolved
      rw [htenant] at ht
      cases ht
      rcases hf.subscription_eq with h' | ⟨h', -⟩
      · rw [hsub] at h'
        cases h'
        exact absurd hstatus hf.notRefused
      · rw [hsub] at h'
        cases h'

/-! ### A cancelled subscription -/

/-- The steps of a cancellation. -/
theorem cancelSubscription_parts {event : WebhookEvent} {now : Time} {client : PlatformErpClient} {db db' : Db}
    {handled : Handled} (h : cancelSubscription event now client db = .ok (handled, db')) :
    (∃ message, handled = .ignored message ∧ db' = db ∧ cancellationTenant db event = none) ∨
    ∃ (ownerEmail : Option String) (tenant cancelled : Tenant) (subscription ended : Subscription) (ensured : Db),
      handled = .changed tenant.id ownerEmail ∧ cancellationTenant db event = some tenant ∧
      ensureSubscription db tenant = .ok (subscription, ensured) ∧
      (ended.id = subscription.id ∧ ended.tenantId = subscription.tenantId ∧ ended.status = .cancelled) ∧
      (cancelled.id = tenant.id ∧ cancelled.status = .suspendedBilling ∧
        cancelled.platformCustomerId = tenant.platformCustomerId) ∧
      db' = (ensured.putSubscription ended).putTenant cancelled := by
  unfold cancelSubscription at h
  split at h
  · rename_i hnone
    cases h
    exact Or.inl ⟨_, rfl, rfl, hnone⟩
  · rename_i tenant htenant
    obtain ⟨⟨subscription, ensured⟩, hsub, h⟩ := bind_eq_ok.1 h
    obtain ⟨⟨cancelled, ended, snapshot⟩, hcancelled, h⟩ := bind_eq_ok.1 h
    obtain ⟨snapshot', heq⟩ := applySubscriptionCancelledTransition_ok tenant subscription now
    rw [heq] at hcancelled
    cases hcancelled
    cases h
    refine Or.inr ⟨_, tenant, _, subscription, _, ensured, rfl, htenant, hsub, ?_, ?_, rfl⟩
    · exact ⟨rfl, rfl, rfl⟩
    · exact ⟨rfl, rfl, rfl⟩

theorem cancelSubscription_ok {event : WebhookEvent} {now : Time} {client : PlatformErpClient} {db db' : Db}
    {handled : Handled} (h : cancelSubscription event now client db = .ok (handled, db')) :
    (∃ message, handled = .ignored message ∧ db' = db ∧ cancellationTenant db event = none) ∨
    ∃ ownerEmail tenant, handled = .changed tenant.id ownerEmail ∧ cancellationTenant db event = some tenant ∧
      subscriptionAvailable db tenant.id = true ∧ Moved db db' tenant.id .suspendedBilling := by
  rcases cancelSubscription_parts h with hignored | ⟨email, tenant, cancelled, subscription, ended, ensured, hhandled,
    htenant, hsub, -, ⟨hid, hstatus, -⟩, rfl⟩
  · exact Or.inl hignored
  · obtain ⟨hsubscription, plans, subscriptions, rfl⟩ := ensureSubscription_ok hsub
    exact Or.inr ⟨email, tenant, hhandled, htenant, subscriptionAvailable_of hsubscription, cancelled, rfl, hid, hstatus,
      rfl⟩

/-- A cancellation succeeds for every tenant whose subscription is there or can be made. -/
theorem cancelSubscription_succeeds {event : WebhookEvent} {now : Time} {client : PlatformErpClient} {db db₁ : Db}
    {tenant : Tenant} {subscription : Subscription} (htenant : cancellationTenant db event = some tenant)
    (hsub : ensureSubscription db tenant = .ok (subscription, db₁)) :
    ∃ ownerEmail db', cancelSubscription event now client db = .ok (.changed tenant.id ownerEmail, db') := by
  obtain ⟨snapshot, heq⟩ := applySubscriptionCancelledTransition_ok tenant subscription now
  unfold cancelSubscription
  simp only [htenant, Bind.bind, Except.bind, hsub, heq]
  exact ⟨_, _, rfl⟩

end ControlPlane
