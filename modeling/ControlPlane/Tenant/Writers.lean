import ControlPlane.Bookkeeping
import ControlPlane.System

/-!
# The writers of a tenant's status

One lemma for each change of the rows that can write a tenant's status, saying from which status to which it moves
which tenant, and that every other tenant stays as it is.
-/

namespace ControlPlane

open Table Session Session.Proc

/-- The table lets a tenant in status `a` move to `b`, or it is there already. -/
def Allowed (a b : TenantStatus) : Prop := a = b ∨ b ∈ allowedTransitions a

instance (a b : TenantStatus) : Decidable (Allowed a b) := inferInstanceAs (Decidable (_ ∨ _))

theorem transitionTenantStatus_ok {tenant tenant' : Tenant} {new : TenantStatus}
    (h : transitionTenantStatus tenant new = .ok tenant') :
    Allowed tenant.status new ∧ tenant' = { tenant with status := new } := by
  unfold transitionTenantStatus at h
  split at h
  · rename_i status hs
    obtain ⟨rfl, hallowed⟩ := transitionStatus_eq_ok.1 hs
    cases h
    exact ⟨hallowed, rfl⟩
  · cases h

theorem transitionTenantStatus_of_allowed {tenant : Tenant} {new : TenantStatus} (h : Allowed tenant.status new) :
    transitionTenantStatus tenant new = .ok { tenant with status := new } := by
  unfold transitionTenantStatus
  rw [transitionStatus_eq_ok.2 ⟨rfl, h⟩]

theorem transitionTenantStatus_of_refused {tenant : Tenant} {new : TenantStatus} (h : ¬Allowed tenant.status new) :
    transitionTenantStatus tenant new = .error (.invalidTenantStatusTransition tenant.status.text new.text) := by
  unfold transitionTenantStatus
  obtain ⟨hne, hmem⟩ := not_or.1 h
  have hrefused : transitionStatus tenant.status new =
      .error (.invalidTenantStatusTransition tenant.status.text new.text) := by
    unfold transitionStatus
    rw [if_neg hne, if_neg hmem]
  rw [hrefused]

theorem requireTenant_ok {db : Db} {tenantId : Nat} {tenant : Tenant} (h : requireTenant db tenantId = .ok tenant) :
    db.tenant? tenantId = some tenant := by
  unfold requireTenant at h
  split at h
  · rename_i tenant' htenant
    cases h
    exact htenant
  · cases h

theorem asConflict_ok {α : Type} {r : Except PyError α} {a : α} (h : asConflict r = .ok a) : r = .ok a := by
  unfold asConflict at h
  split at h
  · cases h
  · exact h

/-! ### Requests -/

theorem moveTenantStatus_ok {tenantId : Nat} {status : TenantStatus} {now : Time} {client : PlatformErpClient}
    {db db' : Db} {u : Unit} (h : moveTenantStatus tenantId status now client db = .ok (u, db')) :
    ∃ tenant, db.tenant? tenantId = some tenant ∧ Allowed tenant.status status ∧ Moved db db' tenant.id status := by
  obtain ⟨tenant, htenant, h⟩ := bind_eq_ok.1 h
  obtain ⟨moved, hmoved, h⟩ := bind_eq_ok.1 h
  obtain ⟨hallowed, rfl⟩ := transitionTenantStatus_ok (asConflict_ok hmoved)
  cases h
  exact ⟨tenant, requireTenant_ok htenant, hallowed, _, rfl, rfl, rfl, rfl⟩

theorem prepareRetry_ok {tenantId : Nat} {now : Time} {client : PlatformErpClient} {db db' : Db} {u : Unit}
    (h : prepareRetry tenantId now client db = .ok (u, db')) :
    ∃ tenant, db.tenant? tenantId = some tenant ∧ tenant.status = .failed ∧ Moved db db' tenant.id .pending := by
  obtain ⟨tenant, htenant, h⟩ := bind_eq_ok.1 h
  obtain ⟨u, hpolicy, h⟩ := bind_eq_ok.1 h
  obtain ⟨moved, hmoved, h⟩ := bind_eq_ok.1 h
  obtain ⟨-, rfl⟩ := transitionTenantStatus_ok hmoved
  cases h
  refine ⟨tenant, requireTenant_ok htenant, ?_, _, rfl, rfl, rfl, rfl⟩
  unfold enforceRetryPolicy at hpolicy
  by_contra hne
  rw [if_pos hne] at hpolicy
  cases hpolicy

theorem recordCheckout_ok {env : Env} {owner : User} {tenantId : Nat} {plan : Plan} {selectedApp : Option String}
    {trialStatus : SubscriptionStatus} {trialEndsAt : Option Time} {db db' : Db} {u : Unit}
    (h : recordCheckout env owner tenantId plan selectedApp trialStatus trialEndsAt db = .ok (u, db')) :
    ∃ tenant, db.tenant? tenantId = some tenant ∧ Allowed tenant.status .pending ∧
      Moved db db' tenant.id .pending := by
  obtain ⟨tenant, htenant, h⟩ := bind_eq_ok.1 h
  obtain ⟨checkout, -, h⟩ := bind_eq_ok.1 h
  obtain ⟨moved, hmoved, h⟩ := bind_eq_ok.1 h
  obtain ⟨⟨subscription, db₁⟩, hsub, h⟩ := bind_eq_ok.1 h
  obtain ⟨hallowed, rfl⟩ := transitionTenantStatus_ok hmoved
  obtain ⟨-, -, subscriptions, rfl⟩ := upsertSubscriptionForTenant_ok hsub
  cases h
  exact ⟨tenant, requireTenant_ok htenant, hallowed, _, rfl, rfl, rfl, rfl⟩

theorem backToPayment_ok {tenant tenant' : Tenant} (h : backToPayment tenant = .ok tenant')
    (hstatus : tenant.status = .pending ∨ tenant.status = .pendingPayment) :
    tenant' = { tenant with status := .pendingPayment } := by
  unfold backToPayment at h
  split at h
  · exact (transitionTenantStatus_ok h).2
  · rename_i hne
    have hpayment : tenant.status = .pendingPayment := hstatus.resolve_left hne
    cases h
    rw [← hpayment]

/-- The steps of a renewal: the tenant waits for its payment again, and its subscription is written in its status. -/
theorem prepareRenewedCheckout_parts {env : Env} {tenantId : Nat} {now : Time} {client : PlatformErpClient} {db db' : Db}
    {u : Unit} (h : prepareRenewedCheckout env tenantId now client db = .ok (u, db')) :
    ∃ (tenant waiting : Tenant) (plans : List Plan) (plan : Plan) (app provider subscriptionId customer session :
        Option String) (row : Subscription),
      db.tenant? tenantId = some tenant ∧ (tenant.status = .pending ∨ tenant.status = .pendingPayment) ∧
      (waiting.id = tenant.id ∧ waiting.status = .pendingPayment ∧
        waiting.platformCustomerId = tenant.platformCustomerId) ∧
      upsertSubscriptionForTenant (({ db with plans := plans } : Db).putTenant waiting) tenantId plan app
        (subscriptionStatusForTenant (db.subscriptionOf tenantId)) provider subscriptionId customer session none =
        .ok (row, db') := by
  obtain ⟨tenant, htenant, h⟩ := bind_eq_ok.1 h
  obtain ⟨u, hrenewable, h⟩ := bind_eq_ok.1 h
  obtain ⟨owner, -, h⟩ := bind_eq_ok.1 h
  obtain ⟨checkout, -, h⟩ := bind_eq_ok.1 h
  obtain ⟨waiting, hwaiting, h⟩ := bind_eq_ok.1 h
  obtain ⟨⟨plan, db₁⟩, hplan, h⟩ := bind_eq_ok.1 h
  obtain ⟨⟨subscription, db₂⟩, hsub, h⟩ := bind_eq_ok.1 h
  cases h
  have hstatus : tenant.status = .pending ∨ tenant.status = .pendingPayment := by
    have hnot := raiseIf_eq_ok.1 hrenewable
    by_contra hne
    exact hnot ⟨fun hp => hne (Or.inl hp), fun hp => hne (Or.inr hp)⟩
  have hmoved : waiting.id = tenant.id ∧ waiting.status = .pendingPayment ∧
      waiting.platformCustomerId = tenant.platformCustomerId := by
    rw [backToPayment_ok hwaiting hstatus]
    exact ⟨rfl, rfl, rfl⟩
  obtain ⟨plans, rfl⟩ := requirePlanBySlug_frame hplan
  exact ⟨tenant, waiting, plans, plan, _, _, _, _, _, subscription, requireTenant_ok htenant, hstatus, hmoved, hsub⟩

theorem prepareRenewedCheckout_ok {env : Env} {tenantId : Nat} {now : Time} {client : PlatformErpClient} {db db' : Db}
    {u : Unit} (h : prepareRenewedCheckout env tenantId now client db = .ok (u, db')) :
    ∃ tenant, db.tenant? tenantId = some tenant ∧ (tenant.status = .pending ∨ tenant.status = .pendingPayment) ∧
      Moved db db' tenant.id .pendingPayment := by
  obtain ⟨tenant, waiting, _, _, _, _, _, _, _, _, htenant, hstatus, hwaiting, hsub⟩ := prepareRenewedCheckout_parts h
  obtain ⟨-, -, subscriptions, rfl⟩ := upsertSubscriptionForTenant_ok hsub
  exact ⟨tenant, htenant, hstatus, waiting, rfl, hwaiting.1, hwaiting.2.1, rfl⟩

/-- The steps of a creation: a new tenant waits for its payment, and its subscription is written. -/
theorem prepareTenant_parts {settings : Settings} {owner : User} {subdomain companyName plan : String}
    {chosenApp : Option String} {now : Time} {db db' : Db} {r : Nat × Plan × Option String}
    (h : prepareTenant settings owner subdomain companyName plan chosenApp now db = .ok (r, db')) :
    ∃ (tenant : Tenant) (organizations : List Organization) (plans : List Plan) (app provider : Option String)
        (row : Subscription),
      r.1 = fresh db.tenants ∧ (tenant.id = r.1 ∧ tenant.status = .pendingPayment) ∧
      upsertSubscriptionForTenant
        { db with plans := plans, organizations := organizations, tenants := insert db.tenants tenant } r.1 r.2.1 app
        (trialStart settings now).1 provider none none none (some (trialStart settings now).2) = .ok (row, db') := by
  obtain ⟨u, -, h⟩ := bind_eq_ok.1 h
  obtain ⟨cleanSubdomain, -, h⟩ := bind_eq_ok.1 h
  obtain ⟨⟨plan', db₁⟩, hplan, h⟩ := bind_eq_ok.1 h
  obtain ⟨app, -, h⟩ := bind_eq_ok.1 h
  obtain ⟨u', -, h⟩ := bind_eq_ok.1 h
  obtain ⟨⟨subscription, db₂⟩, hsub, h⟩ := bind_eq_ok.1 h
  obtain ⟨plans, rfl⟩ := requirePlanBySlug_frame hplan
  cases h
  refine ⟨_, _, plans, _, _, subscription, rfl, ?_, hsub⟩
  exact ⟨rfl, rfl⟩

/-- A new tenant has an id no tenant had, and waits for its payment. -/
theorem prepareTenant_ok {settings : Settings} {owner : User} {subdomain companyName plan : String}
    {chosenApp : Option String} {now : Time} {db db' : Db} {tenantId : Nat} {selectedPlan : Plan}
    {selectedApp : Option String}
    (h : prepareTenant settings owner subdomain companyName plan chosenApp now db =
      .ok ((tenantId, selectedPlan, selectedApp), db')) :
    tenantId = fresh db.tenants ∧ ∃ tenant : Tenant, db'.tenants = insert db.tenants tenant ∧ tenant.id = tenantId ∧
      tenant.status = .pendingPayment := by
  obtain ⟨tenant, _, _, _, _, _, hfresh, hnew, hsub⟩ := prepareTenant_parts h
  obtain ⟨-, -, subscriptions, rfl⟩ := upsertSubscriptionForTenant_ok hsub
  exact ⟨hfresh, tenant, rfl, hnew.1, hnew.2⟩

theorem addPaymentAttempt_moved (db : Db) (tenant : Tenant) (invoice : BillingInvoice) (checkout : CheckoutResult)
    (now : Time) : Moved db (addPaymentAttempt db tenant invoice checkout now) tenant.id tenant.status := by
  unfold addPaymentAttempt
  dsimp only
  split
  · exact ⟨_, rfl, rfl, rfl, rfl⟩
  · exact ⟨_, rfl, rfl, rfl, rfl⟩

/-- A new attempt leaves its tenant in its status. -/
theorem preparePaymentAttempt_ok {gateway : PaymentGateway} {tenant : Tenant} {owner : User}
    {invoice : BillingInvoice} {provider : Option String} {now : Time} {client : PlatformErpClient} {db db' : Db}
    {attemptId : Nat}
    (h : preparePaymentAttempt gateway tenant owner invoice provider now client db = .ok (attemptId, db')) :
    Moved db db' tenant.id tenant.status := by
  obtain ⟨⟨resynced, db₁⟩, hresync, h⟩ := bind_eq_ok.1 h
  obtain ⟨u, -, h⟩ := bind_eq_ok.1 h
  obtain ⟨u', -, h⟩ := bind_eq_ok.1 h
  obtain ⟨checkout, -, h⟩ := bind_eq_ok.1 h
  obtain ⟨accounts, invoices, rfl⟩ := resyncOneInvoice_frame hresync
  cases h
  exact addPaymentAttempt_moved _ tenant resynced checkout now

theorem syncForTenant_frame {tenantId limit : Nat} {now : Time} {client : PlatformErpClient} {db db' : Db} {u : Unit}
    (h : syncForTenant tenantId limit now client db = .ok (u, db')) :
    ∃ accounts invoices, db' = { db with accounts := accounts, invoices := invoices } := by
  obtain ⟨tenant, -, h⟩ := bind_eq_ok.1 h
  obtain ⟨⟨rows, db₁⟩, hsync, h⟩ := bind_eq_ok.1 h
  cases h
  exact syncPlatformInvoicesForTenant_frame hsync

/-! ### Cycles -/

theorem expireTrial_ok {subscriptionId : Nat} {now : Time} {db db' : Db} {expired : Option Nat}
    (h : expireTrial subscriptionId now db = .ok (expired, db')) :
    (expired = none ∧ db' = db) ∨ ∃ tenant, expired = some tenant.id ∧ db.tenant? tenant.id = some tenant ∧
      Moved db db' tenant.id (trialExpiredStatus tenant.status) := by
  unfold expireTrial at h
  split at h
  · cases h; exact Or.inl ⟨rfl, rfl⟩
  · rename_i subscription hsub
    split at h
    · cases h; exact Or.inl ⟨rfl, rfl⟩
    · rename_i tenant htenant
      dsimp only at h
      split at h
      · cases h; exact Or.inl ⟨rfl, rfl⟩
      · obtain ⟨pastDue, -, h⟩ := bind_eq_ok.1 h
        cases h
        rw [← Db.tenant?_id htenant] at htenant
        exact Or.inr ⟨tenant, rfl, htenant, _, rfl, rfl, rfl, rfl⟩

theorem touchTenant_tenantStatus (tenantId : Nat) (now : Time) (db : Db) (t : Nat) :
    (touchTenant tenantId now db).tenantStatus t = db.tenantStatus t := by
  unfold touchTenant
  rw [Db.tenantStatus_modifyTenant]
  · split <;> rfl
  · exact fun _ => rfl

theorem escalateTenant_tenantStatus (tenantId : Nat) (now : Time) (db : Db) (t : Nat) :
    (escalateTenant tenantId now db).tenantStatus t =
      if t = tenantId then (db.tenantStatus t).map fun _ => .suspendedBilling else db.tenantStatus t := by
  unfold escalateTenant
  rw [Db.tenantStatus_modifyTenant]
  · simp only [transitionOrForce_eq, Db.tenantStatus, Option.map_map]
    rfl
  · exact fun _ => rfl

/-! ### Reconciliation -/

/-- The tenant status a paid repair leaves. -/
def repairStatus (previous : TenantStatus) (runtimeExists : Bool) : TenantStatus :=
  repairedStatus previous (confirmedStatus (if previous = .failed then .pending else previous)) runtimeExists

theorem repairStatus_eq (previous : TenantStatus) (runtimeExists : Bool) :
    repairStatus previous runtimeExists =
      if previous = .suspendedBilling then (if runtimeExists then .active else .pending)
      else if previous = .pendingPayment ∨ previous = .failed then .pending
      else previous := by
  cases previous <;> cases runtimeExists <;> decide

theorem repairStatus_not_held (status : TenantStatus) (runtimeExists : Bool) :
    repairStatus status runtimeExists ∉ [TenantStatus.pendingPayment, .suspendedBilling] := by
  cases status <;> cases runtimeExists <;> decide

/-- The statuses from which a repair leaves a tenant `pending`. -/
theorem repairStatus_eq_pending (status : TenantStatus) (runtimeExists : Bool) :
    repairStatus status runtimeExists = .pending ↔
      status ∈ if runtimeExists then [TenantStatus.pendingPayment, .pending, .failed]
        else [TenantStatus.pendingPayment, .pending, .failed, .suspendedBilling] := by
  cases status <;> cases runtimeExists <;> decide

theorem applyPaidRepair_ok {subscription : Subscription} (tenant : Tenant) (runtimeExists : Bool) (now : Time)
    (h : subscription.status ≠ .cancelled) :
    ∃ activated outcome, applyPaidRepair tenant subscription runtimeExists now =
        .ok ({ tenant with status := repairStatus tenant.status runtimeExists }, activated, outcome) ∧
      activated.id = subscription.id ∧ activated.status = .active ∧
      (outcome.needsProvisioning = true ↔
        repairStatus tenant.status runtimeExists = .pending ∧ runtimeExists = false) := by
  unfold applyPaidRepair
  by_cases hf : tenant.status = .failed
  · obtain ⟨activated, snapshot, heq, hid, -, hactive⟩ := applyPaymentConfirmedTransition_ok
      { tenant with status := .pending } now h
    simp only [hf, if_true, transitionOrForce_eq, heq, Bind.bind, Except.bind]
    refine ⟨activated, _, rfl, hid, hactive, ?_⟩
    simp [repairStatus]
  · obtain ⟨activated, snapshot, heq, hid, -, hactive⟩ := applyPaymentConfirmedTransition_ok tenant now h
    have hrepair : repairStatus tenant.status runtimeExists =
        repairedStatus tenant.status (confirmedStatus tenant.status) runtimeExists := by
      rw [repairStatus, if_neg hf]
    rw [hrepair]
    simp only [hf, if_false, heq, Bind.bind, Except.bind]
    refine ⟨activated, _, rfl, hid, hactive, ?_⟩
    simp

theorem applyPaidRepair_error {subscription : Subscription} (tenant : Tenant) (runtimeExists : Bool) (now : Time)
    (h : subscription.status = .cancelled) : ∃ e, applyPaidRepair tenant subscription runtimeExists now = .error e := by
  unfold applyPaidRepair
  dsimp only
  rw [applyPaymentConfirmedTransition_error _ _ h]
  exact ⟨_, rfl⟩

/-- The repair `reconcile_invoice_settlement` makes for an invoice: none, unless the invoice as the ERP has it now is
settled and has a subscription that is not cancelled. -/
def paidRepair (tenantId invoiceId : Nat) (now : Time) (client : PlatformErpClient) (db : Db) :
    Option (Tenant × Subscription × Bool) :=
  match db.tenant? tenantId, db.invoice? invoiceId with
  | some tenant, some invoice =>
    match resyncOneInvoice client db tenant invoice now with
    | .ok (invoice, db) =>
      if reconciledInvoiceIsSettled invoice then
        match subscriptionOfInvoice db tenant invoice with
        | some subscription =>
          if subscription.status = .cancelled then none
          else some (tenant, subscription, client.runtimeExists ((nonEmpty tenant.siteName).getD tenant.domain))
        | none => none
      else none
    | .error _ => none
  | _, _ => none

theorem payAttemptFromErp_frame {db db' : Db} {attempt attempt' : Option PaymentAttempt} {invoice : BillingInvoice}
    {now : Time} {updated : Bool} (h : payAttemptFromErp db attempt invoice now = (attempt', updated, db')) :
    ∃ attempts, db' = { db with attempts := attempts } := by
  unfold payAttemptFromErp at h
  split at h
  · split at h
    · cases h; exact ⟨_, rfl⟩
    · cases h; exact ⟨_, rfl⟩
  · cases h; exact ⟨_, rfl⟩

theorem openBillingException_frame {db db' : Db} {tenant : Tenant} {subscription : Option Subscription}
    {invoice : BillingInvoice} {attempt : Option PaymentAttempt} {exceptionType reason : String} {now : Time}
    {opened : Nat}
    (h : openBillingException db tenant subscription invoice attempt exceptionType reason now = (opened, db')) :
    ∃ exceptions, db' = { db with exceptions := exceptions } := by
  unfold openBillingException at h
  dsimp only at h
  split at h
  · cases h; exact ⟨_, rfl⟩
  · cases h; exact ⟨_, rfl⟩

theorem reconcileUnsettledInvoice_frame {db db' : Db} {tenant : Tenant} {subscription : Option Subscription}
    {invoice : BillingInvoice} {attempt : Option PaymentAttempt} {result result' : InvoiceReconciliationResult}
    {now : Time} {email : Option String}
    (h : reconcileUnsettledInvoice db tenant subscription invoice attempt result now = ((result', email), db')) :
    email = none ∧ ∃ attempts events exceptions,
      db' = { db with attempts := attempts, events := events, exceptions := exceptions } := by
  unfold reconcileUnsettledInvoice at h
  split at h
  · split at h
    · dsimp only at h
      generalize hopen : openBillingException _ tenant subscription invoice _ "erp_mismatch" _ now = p at h
      obtain ⟨opened, db₁⟩ := p
      obtain ⟨exceptions, rfl⟩ := openBillingException_frame hopen
      cases h
      exact ⟨rfl, _, _, exceptions, rfl⟩
    · cases h; exact ⟨rfl, _, _, _, rfl⟩
  · cases h; exact ⟨rfl, _, _, _, rfl⟩

/-- What a paid repair changes: nothing of tenants, subscriptions and jobs when there is none, and else the subscription
is made active and the tenant moved.  The owner's email is asked for only when the tenant has to be provisioned. -/
def RepairEffect (db db' : Db) (email : Option String) : Option (Tenant × Subscription × Bool) → Prop
  | none => email = none ∧ db'.tenants = db.tenants ∧ db'.subscriptions = db.subscriptions ∧ db'.jobs = db.jobs
  | some (tenant, subscription, runtimeExists) =>
    Moved db db' tenant.id (repairStatus tenant.status runtimeExists) ∧
      (∃ activated : Subscription, db'.subscriptions = put db.subscriptions activated ∧
        activated.id = subscription.id ∧ activated.status = .active) ∧
      (email ≠ none → repairStatus tenant.status runtimeExists = .pending ∧ runtimeExists = false)

theorem RepairEffect.jobs {db db' : Db} {email : Option String} {repair : Option (Tenant × Subscription × Bool)}
    (h : RepairEffect db db' email repair) : db'.jobs = db.jobs := by
  cases repair with
  | none => exact h.2.2.2
  | some repair => exact h.1.jobs

/-- The steps in which a settled invoice is reconciled.  The attempt is paid and the exceptions are resolved; then a review
is asked for, if there is no subscription, or the repair is written. -/
theorem reconcileSettledInvoice_parts {client : PlatformErpClient} {db db' : Db} {tenant : Tenant}
    {subscription : Option Subscription} {invoice : BillingInvoice} {attempt : Option PaymentAttempt}
    {result result' : InvoiceReconciliationResult} {now : Time} {email : Option String} {runtimeExists : Bool}
    (hruntime : client.runtimeExists ((nonEmpty tenant.siteName).getD tenant.domain) = runtimeExists)
    (h : reconcileSettledInvoice client db tenant subscription invoice attempt result now =
      .ok ((result', email), db')) :
    ∃ (paid : Option PaymentAttempt) (updated : Bool) (resolved : Nat) (db₁ db₂ : Db),
      payAttemptFromErp db attempt invoice now = (paid, updated, db₁) ∧
      resolveBillingExceptions db₁ tenant.id invoice.id now = (resolved, db₂) ∧ result'.invoiceId = result.invoiceId ∧
      ((subscription = none ∧ email = none ∧ ∃ opened db₃,
          openBillingException db₂ tenant none invoice paid "manual_finance_review_required"
            "Invoice settled in ERP but no subscription aggregate was available for entitlement repair" now =
            (opened, db₃) ∧
          db' = recordReconciliationEvent db₃ tenant none invoice paid "billing.payment_reconciled"
            "Invoice settlement reconciled from ERP without subscription repair" "warning" now) ∨
        ∃ s activated outcome, subscription = some s ∧ s.status ≠ .cancelled ∧
          applyPaidRepair tenant s runtimeExists now =
            .ok ({ tenant with status := repairStatus tenant.status runtimeExists }, activated, outcome) ∧
          (activated.id = s.id ∧ activated.status = .active) ∧
          email = (if outcome.needsProvisioning then (db.user? tenant.ownerId).map User.email else none) ∧
          db' = recordReconciliationEvent
            ((db₂.putSubscription activated).putTenant { tenant with status := repairStatus tenant.status runtimeExists })
            { tenant with status := repairStatus tenant.status runtimeExists } (some activated) invoice paid
            "billing.payment_reconciled" "Invoice settlement reconciled from ERP" "info" now) := by
  unfold reconcileSettledInvoice at h
  generalize hpay : payAttemptFromErp db attempt invoice now = p at h
  obtain ⟨paid, updated, db₁⟩ := p
  dsimp only at h
  generalize hresolve : resolveBillingExceptions db₁ tenant.id invoice.id now = p at h
  obtain ⟨resolved, db₂⟩ := p
  cases subscription with
  | none =>
    dsimp only at h
    generalize hopen : openBillingException db₂ tenant none invoice paid "manual_finance_review_required" _ now = p at h
    obtain ⟨opened, db₃⟩ := p
    cases h
    exact ⟨paid, updated, resolved, db₁, db₂, rfl, hresolve, rfl, Or.inl ⟨rfl, rfl, opened, db₃, hopen, rfl⟩⟩
  | some s =>
    dsimp only at h
    rw [hruntime] at h
    obtain ⟨⟨repaired, activated, outcome⟩, hrepair, h⟩ := bind_eq_ok.1 h
    have hnot : s.status ≠ .cancelled := by
      intro hcancelled
      obtain ⟨e, he⟩ := applyPaidRepair_error tenant runtimeExists now hcancelled
      rw [he] at hrepair
      cases hrepair
    obtain ⟨activated', outcome', heq, hid, hactive, -⟩ := applyPaidRepair_ok tenant runtimeExists now hnot
    rw [heq] at hrepair
    cases hrepair
    have husers : db₂.users = db.users := by
      obtain ⟨attempts, rfl⟩ := payAttemptFromErp_frame hpay
      cases hresolve
      rfl
    cases h
    refine ⟨paid, updated, resolved, db₁, db₂, rfl, hresolve, rfl, Or.inr ⟨s, activated, outcome, rfl, hnot, heq,
      ⟨hid, hactive⟩, ?_, rfl⟩⟩
    unfold Db.user?
    rw [← husers]
    rfl

theorem reconcileSettledInvoice_ok {client : PlatformErpClient} {db db' : Db} {tenant : Tenant}
    {subscription : Option Subscription} {invoice : BillingInvoice} {attempt : Option PaymentAttempt}
    {result result' : InvoiceReconciliationResult} {now : Time} {email : Option String}
    (h : reconcileSettledInvoice client db tenant subscription invoice attempt result now =
      .ok ((result', email), db')) :
    (∀ s ∈ subscription, s.status ≠ .cancelled) ∧
      RepairEffect db db' email (subscription.map fun s =>
        (tenant, s, client.runtimeExists ((nonEmpty tenant.siteName).getD tenant.domain))) := by
  obtain ⟨paid, updated, resolved, db₁, db₂, hpay, hresolve, -, hcases⟩ := reconcileSettledInvoice_parts rfl h
  obtain ⟨attempts, rfl⟩ := payAttemptFromErp_frame hpay
  cases hresolve
  rcases hcases with ⟨rfl, rfl, opened, db₃, hopen, rfl⟩ | ⟨s, activated, outcome, rfl, hnot, hrepair, ⟨hid, hactive⟩, rfl,
    rfl⟩
  · obtain ⟨exceptions, rfl⟩ := openBillingException_frame hopen
    exact ⟨fun s hs => (by cases hs), rfl, rfl, rfl, rfl⟩
  · refine ⟨?_, ⟨_, rfl, rfl, rfl, rfl⟩, ⟨activated, rfl, hid, hactive⟩, fun hemail => ?_⟩
    · intro s' hs'
      cases hs'
      exact hnot
    · obtain ⟨activated', outcome', heq, -, -, hneeds⟩ := applyPaidRepair_ok tenant
        (client.runtimeExists ((nonEmpty tenant.siteName).getD tenant.domain)) now hnot
      rw [heq] at hrepair
      cases hrepair
      refine hneeds.1 ?_
      by_contra hnone
      exact hemail (if_neg hnone)

/-- A subscription that is not cancelled can be repaired: the reconciliation of the settled invoice goes through, and asks
for a provisioning where the repair leaves the tenant `pending` without a runtime. -/
theorem reconcileSettledInvoice_repaired (client : PlatformErpClient) (db : Db) (tenant : Tenant) {s : Subscription}
    (invoice : BillingInvoice) (attempt : Option PaymentAttempt) (result : InvoiceReconciliationResult) (now : Time)
    (h : s.status ≠ .cancelled) :
    ∃ result' email db',
      reconcileSettledInvoice client db tenant (some s) invoice attempt result now = .ok ((result', email), db') ∧
        result'.settled = result.settled ∧ result'.invoiceId = result.invoiceId ∧
        (email ≠ none ↔ (repairStatus tenant.status
            (client.runtimeExists ((nonEmpty tenant.siteName).getD tenant.domain)) = .pending ∧
          client.runtimeExists ((nonEmpty tenant.siteName).getD tenant.domain) = false) ∧
          (db.user? tenant.ownerId).isSome = true) := by
  unfold reconcileSettledInvoice
  rcases hpay : payAttemptFromErp db attempt invoice now with ⟨paid, updated, db₁⟩
  obtain ⟨attempts, rfl⟩ := payAttemptFromErp_frame hpay
  obtain ⟨activated, outcome, heq, -, -, hneeds⟩ := applyPaidRepair_ok tenant
    (client.runtimeExists ((nonEmpty tenant.siteName).getD tenant.domain)) now h
  dsimp only
  rw [heq]
  refine ⟨_, _, _, rfl, rfl, rfl, ?_⟩
  rw [← hneeds]
  show (if outcome.needsProvisioning = true then (db.user? tenant.ownerId).map User.email else none) ≠ none ↔ _
  cases outcome.needsProvisioning <;> cases db.user? tenant.ownerId <;> simp

theorem requireInvoiceRow_ok {db : Db} {invoiceId : Nat} {invoice : BillingInvoice}
    (h : requireInvoiceRow db invoiceId = .ok invoice) : db.invoice? invoiceId = some invoice := by
  unfold requireInvoiceRow at h
  split at h
  · rename_i invoice' hinvoice
    cases h
    exact hinvoice
  · cases h

/-- Reconciling an invoice makes its `paidRepair` and changes no status beyond it. -/
theorem reconcileInvoice_ok {tenantId invoiceId : Nat} {now : Time} {client : PlatformErpClient} {db db' : Db}
    {result : InvoiceReconciliationResult} {email : Option String}
    (h : reconcileInvoice tenantId invoiceId now client db = .ok ((result, email), db')) :
    RepairEffect db db' email (paidRepair tenantId invoiceId now client db) := by
  obtain ⟨tenant, htenant, h⟩ := bind_eq_ok.1 h
  obtain ⟨invoice, hinvoice, h⟩ := bind_eq_ok.1 h
  obtain ⟨⟨resynced, db₁⟩, hresync, h⟩ := bind_eq_ok.1 h
  obtain ⟨accounts, invoices, hframe⟩ := resyncOneInvoice_frame hresync
  unfold paidRepair
  rw [requireTenant_ok htenant, requireInvoiceRow_ok hinvoice]
  dsimp only at h ⊢
  rw [hresync]
  dsimp only
  split at h
  · rename_i hsettled
    rw [if_pos hsettled]
    obtain ⟨hnot, heffect⟩ := reconcileSettledInvoice_ok h
    cases hsub : subscriptionOfInvoice db₁ tenant resynced with
    | none =>
      rw [hsub, hframe] at heffect
      exact heffect
    | some s =>
      rw [hsub] at hnot
      rw [hsub, hframe] at heffect
      dsimp only
      rw [if_neg (hnot s rfl)]
      exact heffect
  · rename_i hsettled
    rw [if_neg hsettled]
    obtain ⟨hemail, attempts, events, exceptions, rfl⟩ := reconcileUnsettledInvoice_frame (Except.ok.inj h)
    rw [hframe]
    exact ⟨hemail, rfl, rfl, rfl⟩

/-- A visit that has a repair to make goes through, finds its invoice settled, and asks for a provisioning where the
repair leaves the tenant `pending` without a runtime. -/
theorem reconcileInvoice_repaired {tenantId invoiceId : Nat} {now : Time} {client : PlatformErpClient} {db : Db}
    {tenant : Tenant} {subscription : Subscription} {runtimeExists : Bool}
    (h : paidRepair tenantId invoiceId now client db = some (tenant, subscription, runtimeExists)) :
    ∃ result email db', reconcileInvoice tenantId invoiceId now client db = .ok ((result, email), db') ∧
      result.settled = true ∧
      (email ≠ none ↔ (repairStatus tenant.status runtimeExists = .pending ∧ runtimeExists = false) ∧
        (db.user? tenant.ownerId).isSome = true) := by
  unfold paidRepair at h
  split at h
  · rename_i row invoice htenant hinvoice
    split at h
    · rename_i resynced db₁ hresync
      obtain ⟨accounts, invoices, hframe⟩ := resyncOneInvoice_frame hresync
      split at h
      · rename_i hsettled
        split at h
        · rename_i s hsub
          split at h
          · cases h
          · rename_i hnot
            cases h
            obtain ⟨result, email, db', heq, hresult, -, hemail⟩ := reconcileSettledInvoice_repaired client db₁ tenant
              resynced (latestPaymentAttempt (db₁.attemptsOf resynced.id))
              { tenantId := tenant.id, invoiceId := resynced.id, invoiceStatus := resynced.invoiceStatus
                settled := reconciledInvoiceIsSettled resynced
                paymentAttemptId := (latestPaymentAttempt (db₁.attemptsOf resynced.id)).map PaymentAttempt.id
                paymentAttemptStatus := (latestPaymentAttempt (db₁.attemptsOf resynced.id)).map PaymentAttempt.status
                paymentAttemptUpdated := false, entitlementRestored := false, provisioningRequeued := false
                tenantStatusChanged := false, exceptionsOpened := 0, exceptionsResolved := 0 } now hnot
            refine ⟨result, email, db', ?_, hresult.trans hsettled, ?_⟩
            · unfold reconcileInvoice requireTenant requireInvoiceRow
              rw [htenant, hinvoice]
              simp only [Bind.bind, Except.bind]
              rw [hresync]
              dsimp only
              rw [if_pos hsettled, hsub]
              exact heq
            · rw [hframe] at hemail
              exact hemail
        · cases h
      · cases h
    · cases h
  · cases h

theorem paidRepair_tenant {tenantId invoiceId : Nat} {now : Time} {client : PlatformErpClient} {db : Db}
    {tenant : Tenant} {subscription : Subscription} {runtimeExists : Bool}
    (h : paidRepair tenantId invoiceId now client db = some (tenant, subscription, runtimeExists)) :
    db.tenant? tenantId = some tenant := by
  unfold paidRepair at h
  split at h
  · rename_i tenant' invoice htenant hinvoice
    split at h
    · split at h
      · split at h
        · split at h
          · cases h
          · cases h
            exact htenant
        · cases h
      · cases h
    · cases h
  · cases h

end ControlPlane
