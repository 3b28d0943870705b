import ControlPlane.System
import ControlPlane.Tenant.Policy

/-!
# The two billing gates

The web pages decide from the two status texts of a tenant whether its actions are blocked for billing, and the API
decides from the whole billing lifecycle: subscription, latest invoice, its latest attempt and the date.  What the
latest invoice comes to for the lifecycle is one of four standings, and a table of the standings says for each
subscription when the two gates agree.
-/

namespace ControlPlane

/-! ### The gate of the web pages -/

/-- `BILLING_BLOCKED_STATUSES`. -/
def billingBlockedStatuses : List String := ["pending_payment", "suspended_billing"]

/-- `BILLING_DELINQUENT_STATUSES`. -/
def billingDelinquentStatuses : List String := ["past_due", "failed", "unpaid", "cancelled", "paused", "pending"]

/-- The two fields of a tenant that the gate reads. -/
structure TenantOut where
  status : String
  billingStatus : Option String
  deriving DecidableEq, Repr

def isTenantBillingBlockedStatus (tenant : Option TenantOut) : Bool :=
  match tenant with
  | none => false
  | some tenant =>
    if normalize tenant.status ∈ billingBlockedStatuses then true
    else normalize (tenant.billingStatus.getD "") ∈ billingDelinquentStatuses

def LegacyBillingStatus.text : LegacyBillingStatus → String
  | .paid => "paid"
  | .failed => "failed"
  | .cancelled => "cancelled"
  | .pending => "pending"

/-- `Tenant.subscription_status` of a row that was just read. -/
def tenantSubscriptionStatus (db : Db) (tenantId : Nat) : SubscriptionStatus :=
  ((db.subscriptionOf tenantId).map Subscription.status).getD .pending

/-- What the API returns for a tenant. -/
def tenantOut (db : Db) (tenant : Tenant) : TenantOut :=
  ⟨tenant.status.text, some (toLegacyBillingStatus (tenantSubscriptionStatus db tenant.id)).text⟩

/-! ### What an invoice comes to -/

inductive InvoiceStanding where
  | paid | voided | lapsed | outstanding
  deriving DecidableEq, Repr

/-- The statuses of an invoice that is cancelled for the lifecycle. -/
def voidedInvoiceStatuses : List InvoiceStatus := [.cancelled, .canceled, .void, .voided, .writtenOff]

/-- The columns of an invoice that is paid for the lifecycle, whatever its attempt. -/
def BillingInvoice.hasPaidColumns (invoice : BillingInvoice) : Bool :=
  invoice.invoiceStatus ∈ [InvoiceStatus.paid, .settled, .closed] ∨ invoice.paidAt.isSome ∨
    (invoice.amountDue ≤ invoice.amountPaid ∧ 0 < invoice.amountDue)

/-- An unpaid invoice has run out: its grace period is over and no payment is processing, or it is not due yet, no
payment is under way and its status says so. -/
def BillingInvoice.hasLapsed (invoice : BillingInvoice) (attempt : Option AttemptStatus) (now : Time)
    (grace : Nat := gracePeriod) : Bool :=
  if ∃ s ∈ attempt, s ∈ paymentProcessingAttemptStates then false
  else if ∃ due ∈ invoice.dueDate, due ≤ now then invoice.dueDate.getD 0 + grace < now
  else (∀ s ∈ attempt, s ∉ activePaymentAttemptStates) ∧ invoice.invoiceStatus = .suspended

theorem BillingInvoice.hasLapsed_iff {invoice : BillingInvoice} {attempt : Option AttemptStatus} {now : Time}
    {grace : Nat} :
    invoice.hasLapsed attempt now grace = true ↔
      (∀ s ∈ attempt, s ∉ paymentProcessingAttemptStates) ∧
        ((∃ due ∈ invoice.dueDate, due + grace < now) ∨
          (∀ due ∈ invoice.dueDate, now < due) ∧ (∀ s ∈ attempt, s ∉ activePaymentAttemptStates) ∧
            invoice.invoiceStatus = .suspended) := by
  unfold BillingInvoice.hasLapsed
  by_cases hprocessing : ∃ s ∈ attempt, s ∈ paymentProcessingAttemptStates
  · obtain ⟨s, hs, hin⟩ := hprocessing
    rw [if_pos ⟨s, hs, hin⟩]
    exact ⟨(fun h => by cases h), fun h => absurd hin (h.1 s hs)⟩
  have hidle : ∀ s ∈ attempt, s ∉ paymentProcessingAttemptStates := fun s hs hin => hprocessing ⟨s, hs, hin⟩
  rw [if_neg hprocessing, and_iff_right hidle]
  cases hdate : invoice.dueDate with
  | none => simp
  | some due =>
    simp only [Option.mem_def, Option.some.injEq, exists_eq_left', forall_eq', Option.getD_some]
    by_cases hdue : due ≤ now
    · simp [hdue, not_lt.2 hdue]
    · have hlate : ¬due + grace < now := fun h => hdue ((Nat.le_add_right due grace).trans h.le)
      simp [hdue, hlate, not_le.1 hdue]

def invoiceStanding (invoice : BillingInvoice) (attempt : Option AttemptStatus) (now : Time)
    (grace : Nat := gracePeriod) : InvoiceStanding :=
  if attempt = some .paid then .paid
  else if invoice.invoiceStatus ∈ voidedInvoiceStatuses then .voided
  else if invoice.hasPaidColumns then .paid
  else if invoice.hasLapsed attempt now grace then .lapsed
  else .outstanding

/-- The standing of a tenant's latest invoice and the status of its latest attempt.  A tenant without an invoice counts
as one with an outstanding invoice that nobody tried to pay. -/
def Db.latestStanding (db : Db) (tenantId : Nat) (now : Time) (grace : Nat := gracePeriod) :
    InvoiceStanding × Option AttemptStatus :=
  match latestBillingInvoice (db.invoicesOf tenantId) with
  | none => (.outstanding, none)
  | some invoice =>
    let attempt := (latestPaymentAttempt (db.attemptsOf invoice.id)).map PaymentAttempt.status
    (invoiceStanding invoice attempt now grace, attempt)

/-- The statuses in which a tenant with a delinquent subscription gets a grace period. -/
def graceTenantStatuses : List TenantStatus := [.active, .provisioning, .upgrading, .restoring]

/-- The latest invoice says what the subscription says. -/
def gatesMeetAt (status : TenantStatus) (subscription : SubscriptionStatus)
    (latest : InvoiceStanding × Option AttemptStatus) : Prop :=
  match subscription with
  | .active => latest.1 = .paid ∨ (latest.1 = .outstanding ∧ latest.2 = none)
  | .trialing => latest.1 = .paid ∨ (latest.1 = .outstanding ∧ ∀ s ∈ latest.2, s ∉ paymentProcessingAttemptStates)
  | .pending => latest.1 ≠ .paid
  | .pastDue | .paused => latest.1 ≠ .paid ∧ ¬(status ∈ graceTenantStatuses ∧ latest = (.outstanding, none))
  | .cancelled => True

/-- The two gates can agree about a tenant: its own status blocks it, or its latest invoice says what its subscription
says. -/
def gatesMeet (db : Db) (tenant : Tenant) (now : Time) : Prop :=
  (tenant.status = .pendingPayment ∨ tenant.status = .suspendedBilling) ∨
    gatesMeetAt tenant.status (tenantSubscriptionStatus db tenant.id) (db.latestStanding tenant.id now)

/-! ### The API's gate reads the standing -/

/-- The lifecycle's billing state of an invoice's standing. -/
def standingState (status : TenantStatus) (subscription : SubscriptionStatus) (standing : InvoiceStanding)
    (attempt : Option AttemptStatus) : BillingState :=
  match standing with
  | .paid => .paid
  | .voided => .cancelled
  | .lapsed => .suspended
  | .outstanding => deriveBillingState status (some subscription) none attempt

/-- The status the lifecycle resolves for an invoice. -/
theorem resolveInvoice_status (invoice : BillingInvoice) (attempt : Option PaymentAttempt) (now : Time)
    (grace : Nat) :
    (resolveInvoice invoice attempt now grace).1 =
      if invoice.invoiceStatus ∈ voidedInvoiceStatuses then .cancelled
      else if attempt.map PaymentAttempt.status = some .paid ∨ invoice.hasPaidColumns then .paid
      else if ∃ s ∈ paymentProcessingAttemptStates, attempt.map PaymentAttempt.status = some s then .paymentProcessing
      else if ∃ due ∈ invoice.dueDate, due ≤ now then
        if now ≤ invoice.dueDate.getD 0 + grace then .grace else .suspended
      else if ∃ s ∈ activePaymentAttemptStates, attempt.map PaymentAttempt.status = some s then .paymentPending
      else if invoice.invoiceStatus = .other "" then .paymentPending
      else invoiceStateAlias invoice.invoiceStatus := by
  have hcolumns : (invoice.hasPaidColumns = true) = (invoice.invoiceStatus ∈ [InvoiceStatus.paid, .settled, .closed] ∨
      invoice.paidAt.isSome ∨ (invoice.amountDue ≤ invoice.amountPaid ∧ 0 < invoice.amountDue)) :=
    decide_eq_true_eq
  unfold resolveInvoice voidedInvoiceStatuses
  simp only [hcolumns]
  split_ifs <;> rfl

/-- An invoice that is neither cancelled nor paid by its own status comes to no final state by it, and to a suspension
only by that very status. -/
theorem invoiceStateAlias_open {status : InvoiceStatus} (hvoided : status ∉ voidedInvoiceStatuses)
    (hpaid : status ∉ [InvoiceStatus.paid, .settled, .closed]) :
    invoiceStateAlias (invoiceStateAlias status) ∉ [InvoiceStatus.paid, .closed, .cancelled] ∧
      (invoiceStateAlias (invoiceStateAlias status) = .suspended ↔ status = .suspended) := by
  revert hvoided hpaid
  cases status <;> simp [invoiceStateAlias, voidedInvoiceStatuses]

/-- What the lifecycle resolves, read through the aliases, by the invoice's standing. -/
def resolvesTo (standing : InvoiceStanding) (attempt : Option AttemptStatus) (resolved : InvoiceStatus) : Prop :=
  match standing with
  | .paid => attempt = some .paid ∨ resolved = .paid
  | .voided => attempt ≠ some .paid ∧ resolved = .cancelled
  | .lapsed => attempt ≠ some .paid ∧ resolved = .suspended
  | .outstanding => attempt ≠ some .paid ∧ resolved ∉ [InvoiceStatus.paid, .suspended, .closed, .cancelled]

theorem resolveInvoice_standing (invoice : BillingInvoice) (attempt : Option PaymentAttempt) (now : Time)
    (grace : Nat) :
    resolvesTo (invoiceStanding invoice (attempt.map PaymentAttempt.status) now grace)
      (attempt.map PaymentAttempt.status) (invoiceStateAlias (resolveInvoice invoice attempt now grace).1) := by
  rw [resolveInvoice_status]
  generalize attempt.map PaymentAttempt.status = status
  unfold invoiceStanding
  by_cases hpaid : status = some .paid
  · rw [if_pos hpaid]
    exact Or.inl hpaid
  by_cases hvoided : invoice.invoiceStatus ∈ voidedInvoiceStatuses
  · rw [if_neg hpaid, if_pos hvoided, if_pos hvoided]
    exact ⟨hpaid, rfl⟩
  by_cases hcolumns : invoice.hasPaidColumns = true
  · rw [if_neg hpaid, if_neg hvoided, if_pos hcolumns, if_neg hvoided, if_pos (Or.inr hcolumns)]
    exact Or.inr rfl
  -- from here on the invoice is open: the attempt decides first, then the dates, then the status
  have hopen : invoice.invoiceStatus ∉ [InvoiceStatus.paid, .settled, .closed] := by
    intro h
    exact hcolumns (decide_eq_true (Or.inl h))
  obtain ⟨hfinal, hsuspended⟩ := invoiceStateAlias_open hvoided hopen
  rw [if_neg hpaid, if_neg hvoided, if_neg hcolumns, if_neg hvoided, if_neg (not_or.2 ⟨hpaid, hcolumns⟩)]
  by_cases hprocessing : ∃ s ∈ paymentProcessingAttemptStates, status = some s
  · -- a payment that is processing keeps the invoice outstanding, however late it is
    obtain ⟨s, hs, hstatus⟩ := hprocessing
    have hlapsed : invoice.hasLapsed status now grace = false := if_pos ⟨s, hstatus, hs⟩
    rw [hlapsed, if_neg Bool.false_ne_true, if_pos ⟨s, hs, hstatus⟩]
    exact ⟨hpaid, by decide⟩
  have hlapsed : invoice.hasLapsed status now grace =
      if ∃ due ∈ invoice.dueDate, due ≤ now then decide (invoice.dueDate.getD 0 + grace < now)
      else decide ((∀ s ∈ status, s ∉ activePaymentAttemptStates) ∧ invoice.invoiceStatus = .suspended) :=
    if_neg fun ⟨s, hstatus, hs⟩ => hprocessing ⟨s, hs, hstatus⟩
  rw [if_neg hprocessing]
  by_cases hdue : ∃ due ∈ invoice.dueDate, due ≤ now
  · rw [if_pos hdue] at hlapsed ⊢
    by_cases hgrace : now ≤ invoice.dueDate.getD 0 + grace
    · rw [if_pos hgrace, hlapsed, decide_eq_false (not_lt.2 hgrace), if_neg Bool.false_ne_true]
      exact ⟨hpaid, by decide⟩
    · rw [if_neg hgrace, hlapsed, decide_eq_true (not_le.1 hgrace), if_pos rfl]
      exact ⟨hpaid, rfl⟩
  rw [if_neg hdue] at hlapsed ⊢
  by_cases hactive : ∃ s ∈ activePaymentAttemptStates, status = some s
  · obtain ⟨s, hs, hstatus⟩ := hactive
    rw [hlapsed, decide_eq_false fun h => h.1 s hstatus hs, if_neg Bool.false_ne_true, if_pos ⟨s, hs, hstatus⟩]
    exact ⟨hpaid, by decide⟩
  have hidle : ∀ s ∈ status, s ∉ activePaymentAttemptStates := fun s hs hin => hactive ⟨s, hin, hs⟩
  rw [if_neg hactive]
  by_cases hs : invoice.invoiceStatus = .suspended
  · rw [hlapsed, decide_eq_true ⟨hidle, hs⟩, if_pos rfl, if_neg (by rw [hs]; decide)]
    exact ⟨hpaid, hsuspended.2 hs⟩
  rw [hlapsed, decide_eq_false fun h => hs h.2, if_neg Bool.false_ne_true]
  by_cases hempty : invoice.invoiceStatus = .other ""
  · rw [if_pos hempty]
    exact ⟨hpaid, by decide⟩
  rw [if_neg hempty]
  refine ⟨hpaid, fun h => ?_⟩
  rcases List.mem_cons.1 h with h | h
  · exact hfinal (by rw [h]; decide)
  rcases List.mem_cons.1 h with h | h
  · exact hs (hsuspended.1 h)
  · exact hfinal (List.mem_cons_of_mem _ h)

/-! ### The lifecycle's billing state and the block -/

/-- An outstanding invoice leaves the billing state to the attempt and the subscription. -/
theorem deriveBillingState_of_resolvesTo {standing : InvoiceStanding} {attempt : Option AttemptStatus}
    {resolved : InvoiceStatus} (h : resolvesTo standing attempt (invoiceStateAlias resolved)) (status : TenantStatus)
    (subscription : SubscriptionStatus) :
    deriveBillingState status (some subscription) (some resolved) attempt =
      standingState status subscription standing attempt := by
  unfold deriveBillingState standingState
  dsimp only
  rw [Option.map_some]
  cases standing with
  | paid => exact if_pos (h.imp_right (congrArg some))
  | voided =>
    obtain ⟨hattempt, hresolved⟩ := h
    rw [hresolved, if_neg (by simp [hattempt])]
    rfl
  | lapsed =>
    obtain ⟨hattempt, hresolved⟩ := h
    rw [hresolved, if_neg (by simp [hattempt])]
    rfl
  | outstanding =>
    obtain ⟨hattempt, hresolved⟩ := h
    simp only [List.mem_cons, List.not_mem_nil, or_false, not_or] at hresolved
    obtain ⟨hpaid, hsuspended, hclosed, hcancelled⟩ := hresolved
    unfold deriveBillingState
    simp only [Option.some.injEq, hattempt, hpaid, hsuspended, hclosed, hcancelled, Option.map_none]
    cases subscription <;> rfl

/-- The billing block of a tenant whose own status does not block it. -/
def blockedAt (status : TenantStatus) (subscription : SubscriptionStatus)
    (latest : InvoiceStanding × Option AttemptStatus) : Bool :=
  deriveEntitlementState (standingState status subscription latest.1 latest.2) (some subscription) ∈
    [EntitlementState.pastDue, .suspendedBilling, .cancelled, .terminated]

theorem subscriptionStatusForTenant_eq (db : Db) (tenantId : Nat) :
    subscriptionStatusForTenant (db.subscriptionOf tenantId) = tenantSubscriptionStatus db tenantId := by
  unfold subscriptionStatusForTenant tenantSubscriptionStatus
  cases db.subscriptionOf tenantId with
  | none => rfl
  | some subscription =>
    dsimp only [Option.map_some, Option.getD_some]
    cases subscription.status <;> rfl

theorem subscriptionStatusForValues_some (status : SubscriptionStatus) :
    subscriptionStatusForValues (some status) none = status := by
  simp [subscriptionStatusForValues]

theorem tenantBillingBlocked_eq (db : Db) (tenant : Tenant) (now : Time) :
    tenantBillingBlocked db tenant now =
      if tenant.status = .pendingPayment ∨ tenant.status = .suspendedBilling then true
      else blockedAt tenant.status (tenantSubscriptionStatus db tenant.id) (db.latestStanding tenant.id now) := by
  unfold tenantBillingBlocked evaluateTenantBillingPolicy resolveBillingLifecycle Db.latestStanding blockedAt
  dsimp only
  rw [subscriptionStatusForTenant_eq]
  cases latestBillingInvoice (db.invoicesOf tenant.id) with
  | none =>
    unfold evaluateBillingLifecycle billingBlockedForState
    dsimp only
    rw [subscriptionStatusForValues_some]
    rfl
  | some invoice =>
    unfold evaluateBillingLifecycle billingBlockedForState
    dsimp only [Option.map_some]
    rw [subscriptionStatusForValues_some,
      deriveBillingState_of_resolvesTo (resolveInvoice_standing invoice _ now gracePeriod)]

/-! ### The gates agree by the table -/

/-- The billing state of an outstanding invoice, by the attempt alone where there is one. -/
theorem standingState_outstanding (status : TenantStatus) (subscription : SubscriptionStatus) (attempt : AttemptStatus)
    (h : attempt ≠ .paid) :
    standingState status subscription .outstanding (some attempt) =
      if attempt ∈ paymentProcessingAttemptStates then .paymentProcessing else .pastDue := by
  revert h
  cases attempt <;> intro h <;> first | rfl | exact absurd rfl h

/-- Without an attempt an outstanding invoice is ignored. -/
theorem standingState_idle (status : TenantStatus) (subscription : SubscriptionStatus) :
    standingState status subscription .outstanding none =
      match subscription with
      | .active | .trialing => .paid
      | .cancelled => .closed
      | .pending => if status = .suspendedBilling then .suspended else .paymentPending
      | .pastDue | .paused =>
        if status ∈ graceTenantStatuses then .grace
        else if status = .suspendedBilling then .suspended
        else .pastDue := by
  cases subscription <;> rfl

/-- Where no invoice is outstanding the standing alone decides the block. -/
theorem blockedAt_settled (status : TenantStatus) (subscription : SubscriptionStatus) (attempt : Option AttemptStatus) :
    (blockedAt status subscription (.paid, attempt) = decide (subscription = .cancelled)) ∧
      blockedAt status subscription (.voided, attempt) = true ∧
      blockedAt status subscription (.lapsed, attempt) = true := by
  cases subscription <;> exact ⟨rfl, rfl, rfl⟩

theorem blockedAt_outstanding (status : TenantStatus) (subscription : SubscriptionStatus) (attempt : AttemptStatus)
    (h : attempt ≠ .paid) :
    blockedAt status subscription (.outstanding, some attempt) =
      decide (subscription ≠ .trialing ∨ attempt ∈ paymentProcessingAttemptStates) := by
  unfold blockedAt
  dsimp only
  rw [standingState_outstanding status subscription attempt h]
  cases subscription <;> by_cases hp : attempt ∈ paymentProcessingAttemptStates <;> simp [hp, deriveEntitlementState]

theorem blockedAt_idle (status : TenantStatus) (subscription : SubscriptionStatus) :
    blockedAt status subscription (.outstanding, none) =
      decide (subscription ∈ [SubscriptionStatus.cancelled, .pending] ∨
        subscription ∈ [SubscriptionStatus.pastDue, .paused] ∧ status ∉ graceTenantStatuses) := by
  unfold blockedAt
  dsimp only
  rw [standingState_idle]
  cases subscription with
  | active | trialing | cancelled => rfl
  | pending => by_cases hs : status = .suspendedBilling <;> simp [hs, deriveEntitlementState]
  | pastDue | paused =>
    by_cases hg : status ∈ graceTenantStatuses
    · simp [hg, deriveEntitlementState]
    · dsimp only
      rw [if_neg hg]
      by_cases hs : status = .suspendedBilling
      · rw [if_pos hs]
        simp [hg, deriveEntitlementState]
      · rw [if_neg hs]
        simp [hg, deriveEntitlementState]

/-- The table is right, subscription by subscription. -/
theorem blockedAt_iff (status : TenantStatus) (subscription : SubscriptionStatus)
    (latest : InvoiceStanding × Option AttemptStatus) (hpaid : latest.2 = some .paid → latest.1 = .paid) :
    decide (subscription ∉ paidSubscriptionStatuses) = blockedAt status subscription latest ↔
      gatesMeetAt status subscription latest := by
  obtain ⟨standing, attempt⟩ := latest
  obtain ⟨h₁, h₂, h₃⟩ := blockedAt_settled status subscription attempt
  cases standing with
  | paid => rw [h₁]; cases subscription <;> simp [gatesMeetAt, paidSubscriptionStatuses]
  | voided => rw [h₂]; cases subscription <;> simp [gatesMeetAt, paidSubscriptionStatuses]
  | lapsed => rw [h₃]; cases subscription <;> simp [gatesMeetAt, paidSubscriptionStatuses]
  | outstanding =>
    cases attempt with
    | none =>
      rw [blockedAt_idle]
      cases subscription <;> simp [gatesMeetAt, paidSubscriptionStatuses]
    | some attempt =>
      rw [blockedAt_outstanding status subscription attempt fun h => by simpa using hpaid (congrArg some h)]
      cases subscription <;> simp [gatesMeetAt, paidSubscriptionStatuses]

theorem Db.latestStanding_paid (db : Db) (tenantId : Nat) (now : Time) (grace : Nat)
    (h : (db.latestStanding tenantId now grace).2 = some .paid) : (db.latestStanding tenantId now grace).1 = .paid := by
  unfold Db.latestStanding at h ⊢
  cases hlatest : latestBillingInvoice (db.invoicesOf tenantId) with
  | none =>
    rw [hlatest] at h
    cases h
  | some invoice =>
    rw [hlatest] at h
    exact if_pos h

theorem isTenantBillingBlockedStatus_eq (db : Db) (tenant : Tenant) :
    isTenantBillingBlockedStatus (some (tenantOut db tenant)) =
      if tenant.status = .pendingPayment ∨ tenant.status = .suspendedBilling then true
      else decide (tenantSubscriptionStatus db tenant.id ∉ paidSubscriptionStatuses) := by
  have htenant : (normalize tenant.status.text ∈ billingBlockedStatuses) ↔
      tenant.status = .pendingPayment ∨ tenant.status = .suspendedBilling := by
    cases tenant.status <;> decide
  have hbilling : (normalize (toLegacyBillingStatus (tenantSubscriptionStatus db tenant.id)).text ∈
      billingDelinquentStatuses) ↔ tenantSubscriptionStatus db tenant.id ∉ paidSubscriptionStatuses := by
    cases tenantSubscriptionStatus db tenant.id <;> decide
  unfold isTenantBillingBlockedStatus tenantOut
  dsimp only [Option.getD_some]
  simp only [htenant, hbilling]

/-- The pages and the API block a tenant's actions for billing together if the tenant's own status blocks it or its
latest invoice says what its subscription says, and only then. -/
theorem gates_agree_iff (db : Db) (tenant : Tenant) (now : Time) :
    isTenantBillingBlockedStatus (some (tenantOut db tenant)) = tenantBillingBlocked db tenant now ↔
      gatesMeet db tenant now := by
  rw [isTenantBillingBlockedStatus_eq, tenantBillingBlocked_eq]
  unfold gatesMeet
  by_cases hstatus : tenant.status = .pendingPayment ∨ tenant.status = .suspendedBilling
  · rw [if_pos hstatus, if_pos hstatus]
    simp only [hstatus, true_or]
  · rw [if_neg hstatus, if_neg hstatus, blockedAt_iff _ _ _ (db.latestStanding_paid tenant.id now gracePeriod)]
    simp only [hstatus, false_or]

/-- An active tenant with an active subscription and an open invoice that was due at 1000. -/
def Small.overdue : Db :=
  { Small.billed.db with
    tenants := Small.billed.db.tenants.map fun tenant => { tenant with status := .active }
    subscriptions := Small.billed.db.subscriptions.map fun s => { s with status := .active }
    invoices := [{ Small.invoice with dueDate := some 1000 }] }

set_option maxRecDepth 100000 in
/-- Four days later the pages let the tenant act and the API does not. -/
theorem overdue_gates_differ :
    Small.overdue.tenants.map (fun tenant => isTenantBillingBlockedStatus (some (tenantOut Small.overdue tenant))) =
        [false] ∧
      Small.overdue.tenants.map (fun tenant => tenantBillingBlocked Small.overdue tenant (1000 + days 4)) = [true] := by
  decide +kernel

end ControlPlane
