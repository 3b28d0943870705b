import ControlPlane.Entitlement

/-!
# Voided invoices

A cancelled invoice and a cancelled subscription are not the same, but the lifecycle gives both the entitlement
`cancelled`: the tenant of a voided invoice counts as one that has cancelled its subscription, and voiding the latest
invoice blocks a tenant that was not blocked before.
-/

namespace ControlPlane

/-- The database with the status of an invoice changed. -/
def Db.setInvoiceStatus (db : Db) (id : Nat) (status : InvoiceStatus) : Db :=
  { db with invoices := db.invoices.map fun i => if i.id = id then { i with invoiceStatus := status } else i }

/-- Cancelling an invoice is not cancelling the subscription: the tenant's entitlement is not a cancelled one, and if
its subscription is active or a trial, then voiding its latest invoice does not block it. -/
structure VoidingIsNotCancelling (db : Db) (tenant : Tenant) (now : Time) (grace : Nat) : Prop where
  entitled : (resolveBillingLifecycle db tenant now grace).entitlementState ≠ .cancelled
  unblocked : tenantSubscriptionStatus db tenant.id ∈ paidSubscriptionStatuses →
    ∀ invoice ∈ latestBillingInvoice (db.invoicesOf tenant.id), ∀ status ∈ voidedInvoiceStatuses,
      (resolveBillingLifecycle db tenant now grace).billingBlocked = false →
        (resolveBillingLifecycle (db.setInvoiceStatus invoice.id status) tenant now grace).billingBlocked = false

/-- An unpaid invoice blocks a tenant with a paid subscription as it is: it has run out, or it has an unpaid attempt,
which for a trial must be processing. -/
def BillingInvoice.Blocks (invoice : BillingInvoice) (attempt : Option AttemptStatus)
    (subscription : SubscriptionStatus) (now : Time) (grace : Nat) : Prop :=
  invoice.hasPaidColumns = false ∧
    (invoice.hasLapsed attempt now grace = true ∨ (∃ s ∈ attempt, s ∈ paymentProcessingAttemptStates) ∨
      subscription = .active ∧ attempt.isSome = true)

/-- Voiding the latest invoice changes nothing that matters: there is none, or its latest attempt is paid, or it is not
cancelled and, where the subscription is active or a trial, the tenant is blocked anyway. -/
def Db.VoidingIsHarmless (db : Db) (tenant : Tenant) (now : Time) (grace : Nat) : Prop :=
  ∀ invoice ∈ latestBillingInvoice (db.invoicesOf tenant.id),
    let attempt := (latestPaymentAttempt (db.attemptsOf invoice.id)).map PaymentAttempt.status
    attempt = some .paid ∨
      invoice.invoiceStatus ∉ voidedInvoiceStatuses ∧
        (tenantSubscriptionStatus db tenant.id ∈ paidSubscriptionStatuses →
          tenant.status ∈ [TenantStatus.pendingPayment, .suspendedBilling] ∨
            invoice.Blocks attempt (tenantSubscriptionStatus db tenant.id) now grace)

/-! ### The changed invoice -/

theorem latestBillingInvoice_setInvoiceStatus (db : Db) (tenantId id : Nat) (status : InvoiceStatus) :
    latestBillingInvoice ((db.setInvoiceStatus id status).invoicesOf tenantId) =
      (latestBillingInvoice (db.invoicesOf tenantId)).map fun i =>
        if i.id = id then { i with invoiceStatus := status } else i := by
  have hown : (db.setInvoiceStatus id status).invoicesOf tenantId =
      (db.invoicesOf tenantId).map fun i => if i.id = id then { i with invoiceStatus := status } else i := by
    unfold Db.setInvoiceStatus Db.invoicesOf
    dsimp only
    rw [List.filter_map]
    congr 1
    refine List.filter_congr fun i _ => ?_
    dsimp only [Function.comp_apply]
    split <;> rfl
  rw [hown]
  refine latestBy_map (fun i => ?_) _
  split <;> rfl

/-- The voided invoice's standing. -/
theorem Db.latestStanding_setInvoiceStatus {db : Db} {tenantId : Nat} {invoice : BillingInvoice}
    (hlatest : latestBillingInvoice (db.invoicesOf tenantId) = some invoice) {status : InvoiceStatus}
    (hstatus : status ∈ voidedInvoiceStatuses) (now : Time) (grace : Nat) :
    (db.setInvoiceStatus invoice.id status).latestStanding tenantId now grace =
      let attempt := (latestPaymentAttempt (db.attemptsOf invoice.id)).map PaymentAttempt.status
      (if attempt = some .paid then .paid else .voided, attempt) := by
  unfold Db.latestStanding
  rw [latestBillingInvoice_setInvoiceStatus, hlatest]
  dsimp only [Option.map_some]
  rw [if_pos rfl]
  unfold invoiceStanding
  dsimp only
  rw [if_pos hstatus]
  rfl

/-! ### The block -/

theorem resolveBillingLifecycle_billingBlocked (db : Db) (tenant : Tenant) (now : Time) (grace : Nat) :
    (resolveBillingLifecycle db tenant now grace).billingBlocked =
      billingBlockedForState (resolveBillingLifecycle db tenant now grace).entitlementState tenant.status := by
  unfold resolveBillingLifecycle evaluateBillingLifecycle
  cases latestBillingInvoice (db.invoicesOf tenant.id) <;> rfl

section

variable {status : TenantStatus} {subscription : SubscriptionStatus}

/-- Without a cancelled subscription only a cancelled invoice makes the entitlement a cancelled one. -/
theorem standingEntitlement_eq_cancelled_iff (hsubscription : subscription ≠ .cancelled)
    (latest : InvoiceStanding × Option AttemptStatus) (hpaid : latest.2 = some .paid → latest.1 = .paid) :
    standingEntitlement status subscription latest = .cancelled ↔ latest.1 = .voided := by
  obtain ⟨standing, attempt⟩ := latest
  cases standing with
  | paid =>
    rw [standingEntitlement_paid status attempt hsubscription]
    simp
  | voided =>
    rw [standingEntitlement_voided]
    simp
  | lapsed =>
    rw [standingEntitlement_lapsed status attempt hsubscription]
    simp
  | outstanding =>
    cases attempt with
    | some tried =>
      rw [standingEntitlement_tried status hsubscription fun h => by simpa using hpaid (congrArg some h)]
      split_ifs <;> simp
    | none =>
      rw [standingEntitlement_idle]
      cases subscription with
      | cancelled => exact absurd rfl hsubscription
      | active | trialing => simp
      | pending | pastDue | paused =>
        dsimp only
        split_ifs <;> simp

/-- An invoice with a paid subscription blocks by its own columns, its attempt and the date. -/
theorem billingBlocked_standing_iff (hsubscription : subscription ∈ paidSubscriptionStatuses)
    (hstatus : status ∉ [TenantStatus.pendingPayment, .suspendedBilling]) (invoice : BillingInvoice)
    {attempt : Option AttemptStatus} (hattempt : attempt ≠ some .paid)
    (hvoided : invoice.invoiceStatus ∉ voidedInvoiceStatuses) (now : Time) (grace : Nat) :
    billingBlockedForState
        (standingEntitlement status subscription (invoiceStanding invoice attempt now grace, attempt)) status = true ↔
      invoice.Blocks attempt subscription now grace := by
  have hcancelled : subscription ≠ .cancelled := by
    rintro rfl
    revert hsubscription
    decide
  have hcases : subscription = .active ∨ subscription = .trialing := by
    simpa [paidSubscriptionStatuses] using hsubscription
  unfold billingBlockedForState BillingInvoice.Blocks invoiceStanding
  rw [if_neg (by simpa using hstatus), if_neg hattempt, if_neg hvoided, decide_eq_true_eq]
  by_cases hcolumns : invoice.hasPaidColumns = true
  · rw [if_pos hcolumns, standingEntitlement_paid status attempt hcancelled]
    simp [hcolumns]
  rw [if_neg hcolumns, and_iff_right (eq_false_of_ne_true hcolumns)]
  by_cases hlapsed : invoice.hasLapsed attempt now grace = true
  · rw [if_pos hlapsed, standingEntitlement_lapsed status attempt hcancelled]
    simp [hlapsed]
  rw [if_neg hlapsed, or_iff_right hlapsed]
  cases attempt with
  | none =>
    rw [standingEntitlement_idle]
    rcases hcases with rfl | rfl <;> simp
  | some tried =>
    rw [standingEntitlement_tried status hcancelled fun h => hattempt (congrArg some h)]
    by_cases hprocessing : tried ∈ paymentProcessingAttemptStates <;> rcases hcases with rfl | rfl <;>
      simp [hprocessing]

/-- A tenant that its own status blocks stays blocked. -/
theorem billingBlockedForState_status (h : status ∈ [TenantStatus.pendingPayment, .suspendedBilling])
    (entitlement : EntitlementState) : billingBlockedForState entitlement status = true :=
  if_pos (by simpa using h)

/-- Where the voided invoice's attempt is paid the tenant stays entitled, and otherwise it is blocked. -/
theorem billingBlocked_voided (hsubscription : subscription ∈ paidSubscriptionStatuses)
    (hstatus : status ∉ [TenantStatus.pendingPayment, .suspendedBilling]) (attempt : Option AttemptStatus) :
    billingBlockedForState
        (standingEntitlement status subscription (if attempt = some .paid then .paid else .voided, attempt)) status =
      decide (attempt ≠ some .paid) := by
  have hcancelled : subscription ≠ .cancelled := by
    rintro rfl
    revert hsubscription
    decide
  unfold billingBlockedForState
  rw [if_neg (by simpa using hstatus)]
  by_cases hattempt : attempt = some .paid
  · rw [if_pos hattempt, standingEntitlement_paid status attempt hcancelled]
    simp [hattempt]
  · rw [if_neg hattempt, standingEntitlement_voided]
    simp [hattempt]

end

/-! ### The latest invoice -/

/-- Without a cancelled subscription the tenant's entitlement is a cancelled one where its latest invoice is voided. -/
theorem entitlementState_eq_cancelled_iff {db : Db} {tenant : Tenant}
    (hsubscription : tenantSubscriptionStatus db tenant.id ≠ .cancelled) (now : Time) (grace : Nat) :
    (resolveBillingLifecycle db tenant now grace).entitlementState = .cancelled ↔
      (db.latestStanding tenant.id now grace).1 = .voided := by
  rw [(resolveBillingLifecycle_state db tenant now grace).2]
  exact standingEntitlement_eq_cancelled_iff hsubscription _ (db.latestStanding_paid tenant.id now grace)

section

variable {db : Db} {tenant : Tenant} {invoice : BillingInvoice} {attempt : Option AttemptStatus}
  (hlatest : latestBillingInvoice (db.invoicesOf tenant.id) = some invoice)
  (hattempt : (latestPaymentAttempt (db.attemptsOf invoice.id)).map PaymentAttempt.status = attempt)
  (now : Time) (grace : Nat)

include hlatest hattempt

theorem latestStanding_latest :
    db.latestStanding tenant.id now grace = (invoiceStanding invoice attempt now grace, attempt) := by
  unfold Db.latestStanding
  rw [hlatest, ← hattempt]

theorem billingBlocked_latest :
    (resolveBillingLifecycle db tenant now grace).billingBlocked =
      billingBlockedForState (standingEntitlement tenant.status (tenantSubscriptionStatus db tenant.id)
        (invoiceStanding invoice attempt now grace, attempt)) tenant.status := by
  rw [resolveBillingLifecycle_billingBlocked, (resolveBillingLifecycle_state db tenant now grace).2,
    latestStanding_latest hlatest hattempt]

/-- The block after the latest invoice is voided. -/
theorem billingBlocked_setInvoiceStatus {status : InvoiceStatus} (hstatus : status ∈ voidedInvoiceStatuses) :
    (resolveBillingLifecycle (db.setInvoiceStatus invoice.id status) tenant now grace).billingBlocked =
      billingBlockedForState (standingEntitlement tenant.status (tenantSubscriptionStatus db tenant.id)
        (if attempt = some .paid then .paid else .voided, attempt)) tenant.status := by
  rw [resolveBillingLifecycle_billingBlocked, (resolveBillingLifecycle_state _ tenant now grace).2,
    Db.latestStanding_setInvoiceStatus hlatest hstatus, ← hattempt]
  rfl

/-- A paid attempt outweighs the cancelled invoice. -/
theorem notCancelling_of_paid (hsubscription : tenantSubscriptionStatus db tenant.id ≠ .cancelled)
    (hpaid : attempt = some .paid) : VoidingIsNotCancelling db tenant now grace where
  entitled h := by
    have hvoided := (entitlementState_eq_cancelled_iff hsubscription now grace).1 h
    rw [latestStanding_latest hlatest hattempt] at hvoided
    unfold invoiceStanding at hvoided
    rw [if_pos hpaid] at hvoided
    cases hvoided
  unblocked := by
    intro hsub invoice' hmem status hstatus hfree
    rw [hlatest] at hmem
    cases hmem
    by_cases hblocked : tenant.status ∈ [TenantStatus.pendingPayment, .suspendedBilling]
    · rw [billingBlocked_latest hlatest hattempt, billingBlockedForState_status hblocked] at hfree
      cases hfree
    · rw [billingBlocked_setInvoiceStatus hlatest hattempt now grace hstatus, billingBlocked_voided hsub hblocked]
      simp [hpaid]

/-- An invoice that is voided as it is makes the entitlement a cancelled one. -/
theorem not_notCancelling_of_voided (hsubscription : tenantSubscriptionStatus db tenant.id ≠ .cancelled)
    (hpaid : attempt ≠ some .paid) (hvoided : invoice.invoiceStatus ∈ voidedInvoiceStatuses) :
    ¬VoidingIsNotCancelling db tenant now grace := by
  intro h
  refine h.entitled ((entitlementState_eq_cancelled_iff hsubscription now grace).2 ?_)
  rw [latestStanding_latest hlatest hattempt]
  unfold invoiceStanding
  rw [if_neg hpaid, if_pos hvoided]

/-- Voiding an unpaid invoice blocks its tenant, so it is harmless where the tenant is blocked as it is. -/
theorem notCancelling_iff_blocked (hsubscription : tenantSubscriptionStatus db tenant.id ≠ .cancelled)
    (hpaid : attempt ≠ some .paid) (hvoided : invoice.invoiceStatus ∉ voidedInvoiceStatuses) :
    VoidingIsNotCancelling db tenant now grace ↔
      (tenantSubscriptionStatus db tenant.id ∈ paidSubscriptionStatuses →
        tenant.status ∈ [TenantStatus.pendingPayment, .suspendedBilling] ∨
          invoice.Blocks attempt (tenantSubscriptionStatus db tenant.id) now grace) := by
  have hbefore := billingBlocked_latest hlatest hattempt now grace
  constructor
  · intro h hsub
    by_contra hfree
    obtain ⟨hblocked, hfree⟩ := not_or.1 hfree
    have hnot := (billingBlocked_standing_iff hsub hblocked invoice hpaid hvoided now grace).not.2 hfree
    have hturned := h.unblocked hsub invoice hlatest .cancelled (by decide)
      (by rw [hbefore]; exact eq_false_of_ne_true hnot)
    rw [billingBlocked_setInvoiceStatus hlatest hattempt now grace (by decide), billingBlocked_voided hsub hblocked]
      at hturned
    simp [hpaid] at hturned
  · intro h
    refine ⟨fun hcancelled => ?_, fun hsub invoice' hmem status _ hfree => ?_⟩
    · have hstanding := (entitlementState_eq_cancelled_iff hsubscription now grace).1 hcancelled
      rw [latestStanding_latest hlatest hattempt] at hstanding
      unfold invoiceStanding at hstanding
      rw [if_neg hpaid, if_neg hvoided] at hstanding
      split_ifs at hstanding
    · rw [hbefore] at hfree
      by_cases hblocked : tenant.status ∈ [TenantStatus.pendingPayment, .suspendedBilling]
      · rw [billingBlockedForState_status hblocked] at hfree
        cases hfree
      · rw [(billingBlocked_standing_iff hsub hblocked invoice hpaid hvoided now grace).2
          ((h hsub).resolve_left hblocked)] at hfree
        cases hfree

end

/-- Cancelling an invoice differs from cancelling the subscription exactly where voiding the latest invoice is
harmless. -/
theorem voiding_is_not_cancelling_iff (db : Db) (tenant : Tenant) (now : Time) (grace : Nat)
    (hsubscription : tenantSubscriptionStatus db tenant.id ≠ .cancelled) :
    VoidingIsNotCancelling db tenant now grace ↔ db.VoidingIsHarmless tenant now grace := by
  unfold Db.VoidingIsHarmless
  cases hlatest : latestBillingInvoice (db.invoicesOf tenant.id) with
  | none =>
    have hstanding : db.latestStanding tenant.id now grace = (.outstanding, none) := by
      unfold Db.latestStanding
      rw [hlatest]
    refine iff_of_true ⟨fun h => ?_, fun _ invoice hmem => ?_⟩ fun invoice hmem => by cases hmem
    · have hvoided := (entitlementState_eq_cancelled_iff hsubscription now grace).1 h
      rw [hstanding] at hvoided
      cases hvoided
    · rw [hlatest] at hmem
      cases hmem
  | some invoice =>
    simp only [Option.mem_def, Option.some.injEq, forall_eq']
    generalize hattempt : (latestPaymentAttempt (db.attemptsOf invoice.id)).map PaymentAttempt.status = attempt
    by_cases hpaid : attempt = some .paid
    · exact iff_of_true (notCancelling_of_paid hlatest hattempt now grace hsubscription hpaid) (Or.inl hpaid)
    rw [or_iff_right hpaid]
    by_cases hvoided : invoice.invoiceStatus ∈ voidedInvoiceStatuses
    · exact iff_of_false (not_notCancelling_of_voided hlatest hattempt now grace hsubscription hpaid hvoided)
        fun h => h.1 hvoided
    rw [and_iff_right hvoided]
    exact notCancelling_iff_blocked hlatest hattempt now grace hsubscription hpaid hvoided

/-- The open invoice of a delinquent tenant is no cancellation. -/
theorem open_invoice_is_not_cancelling :
    VoidingIsNotCancelling (Small.ledger .pastDue [Small.invoice] []) (Small.tenantIn .active) 2000 gracePeriod :=
  (voiding_is_not_cancelling_iff _ (Small.tenantIn .active) 2000 gracePeriod (by decide)).2 (by
    rintro invoice hmem
    obtain rfl : Small.invoice = invoice := Option.some.inj hmem
    exact Or.inr ⟨by decide, fun h => absurd h (by decide)⟩)

/-- Voiding the only invoice of an active subscription cancels the tenant's entitlement and blocks it. -/
theorem voided_invoice_cancels :
    tenantSubscriptionStatus (Small.ledger .active [Small.invoice] []) 1 = .active ∧
      (resolveBillingLifecycle (Small.ledger .active [Small.invoice] []) (Small.tenantIn .active) 2000).billingBlocked =
        false ∧
      (resolveBillingLifecycle ((Small.ledger .active [Small.invoice] []).setInvoiceStatus 1 .cancelled)
        (Small.tenantIn .active) 2000).entitlementState = .cancelled ∧
      (resolveBillingLifecycle ((Small.ledger .active [Small.invoice] []).setInvoiceStatus 1 .cancelled)
        (Small.tenantIn .active) 2000).billingBlocked = true := by
  decide

end ControlPlane
