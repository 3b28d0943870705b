import ControlPlane.Entitlement
import Mathlib.Tactic.MkIffOfInductiveProp

/-!
# The reason shown

The lifecycle chooses the reason it shows from the latest invoice, its attempt and the date, and then computes the
billing state anew by a second cascade, in which the attempt and the subscription come first.  The reason says what the
state is exactly when the second cascade ends where the first one did.
-/

namespace ControlPlane

/-- A reason fits a billing state. -/
@[mk_iff reasonFits_iff]
structure ReasonFits (code : String) (state : BillingState) : Prop where
  graceActive : code = "invoice_overdue_grace_active" → state = .grace
  graceExpired : code = "grace_expired_unpaid_invoice" → state = .suspended
  inProgress : code = "payment_settlement_in_progress" → state = .paymentProcessing
  cancelled : code = "invoice_cancelled" → state = .cancelled
  resolved : code = "billing_ok" → state = .paid ∨ state = .closed

/-- An open invoice, and one that is suspended by its own status, ask nothing. -/
theorem reasonFits_open {code : String} (h : code = "invoice_open_unpaid" ∨ code = "billing_suspension_required")
    (state : BillingState) : ReasonFits code state := by
  rcases h with rfl | rfl <;> simp [reasonFits_iff]

/-! ### The reason of an invoice -/

/-- The lifecycle has no reason of its own for an invoice with this status. -/
def InvoiceStatus.hasNoReason : InvoiceStatus → Bool
  | .draft | .invoicingPending => true
  | .other text => text ≠ ""
  | _ => false

/-- The reason that an invoice's own status gives. -/
def InvoiceStatus.ownReason (status : InvoiceStatus) : String :=
  (reasonDetails (if status = .other "" then InvoiceStatus.paymentPending else invoiceStateAlias status).billingState?).1

theorem resolveInvoice_reason (invoice : BillingInvoice) (attempt : Option PaymentAttempt) (now : Time)
    (grace : Nat) :
    (resolveInvoice invoice attempt now grace).2.1 =
      if invoice.invoiceStatus ∈ voidedInvoiceStatuses then "invoice_cancelled"
      else if attempt.map PaymentAttempt.status = some .paid ∨ invoice.hasPaidColumns then "billing_ok"
      else if ∃ s ∈ paymentProcessingAttemptStates, attempt.map PaymentAttempt.status = some s then
        "payment_settlement_in_progress"
      else if ∃ due ∈ invoice.dueDate, due ≤ now then
        if now ≤ invoice.dueDate.getD 0 + grace then "invoice_overdue_grace_active" else "grace_expired_unpaid_invoice"
      else if ∃ s ∈ activePaymentAttemptStates, attempt.map PaymentAttempt.status = some s then "invoice_open_unpaid"
      else invoice.invoiceStatus.ownReason := by
  have hcolumns : (invoice.hasPaidColumns = true) = (invoice.invoiceStatus ∈ [InvoiceStatus.paid, .settled, .closed] ∨
      invoice.paidAt.isSome ∨ (invoice.amountDue ≤ invoice.amountPaid ∧ 0 < invoice.amountDue)) :=
    decide_eq_true_eq
  unfold resolveInvoice voidedInvoiceStatuses InvoiceStatus.ownReason
  simp only [hcolumns]
  split_ifs <;> rfl

/-- The own status of an invoice that is neither cancelled nor paid. -/
theorem InvoiceStatus.ownReason_open {status : InvoiceStatus} (hvoided : status ∉ voidedInvoiceStatuses)
    (hpaid : status ∉ [InvoiceStatus.paid, .settled, .closed]) :
    (status = .paymentProcessing ∧ status.ownReason = "payment_settlement_in_progress") ∨
      (status.hasNoReason = true ∧ status.ownReason = "billing_ok") ∨
      (status ≠ .paymentProcessing ∧ status.hasNoReason = false ∧
        (status.ownReason = "invoice_open_unpaid" ∨ status.ownReason = "billing_suspension_required")) := by
  cases status with
  | other text =>
    by_cases htext : text = ""
    · subst htext
      exact Or.inr (Or.inr ⟨by simp, rfl, Or.inl rfl⟩)
    · refine Or.inr (Or.inl ⟨decide_eq_true htext, ?_⟩)
      unfold InvoiceStatus.ownReason
      rw [if_neg (by simpa using htext)]
      rfl
  | draft | invoicingPending => exact Or.inr (Or.inl ⟨rfl, rfl⟩)
  | paymentProcessing => exact Or.inl ⟨rfl, rfl⟩
  | suspended => exact Or.inr (Or.inr ⟨by simp, rfl, Or.inr rfl⟩)
  | paymentPending | pastDue | grace | open_ | unpaid | invoiced | overdue =>
    exact Or.inr (Or.inr ⟨by simp, rfl, Or.inl rfl⟩)
  | paid | settled | closed => exact absurd (by decide) hpaid
  | cancelled | canceled | void | voided | writtenOff => exact absurd (by decide) hvoided

/-- The two cascades end in one place.  A cancelled invoice must have no paid attempt; a paid one and one with a payment
processing are no question; in its grace period an invoice must have no attempt, and a delinquent subscription of a
tenant that is running; and one that is not due yet must have a status that leads to a reason, or no attempt and a
subscription that is paid or cancelled. -/
def BillingInvoice.CascadesMeet (invoice : BillingInvoice) (attempt : Option AttemptStatus) (status : TenantStatus)
    (subscription : SubscriptionStatus) (now : Time) (grace : Nat) : Prop :=
  if invoice.invoiceStatus ∈ voidedInvoiceStatuses then attempt ≠ some .paid
  else if attempt = some .paid ∨ invoice.hasPaidColumns then True
  else if ∃ s ∈ paymentProcessingAttemptStates, attempt = some s then True
  else if ∃ due ∈ invoice.dueDate, due ≤ now then
    invoice.dueDate.getD 0 + grace < now ∨
      attempt = none ∧ subscription ∈ [SubscriptionStatus.pastDue, .paused] ∧ status ∈ graceTenantStatuses
  else if ∃ s ∈ activePaymentAttemptStates, attempt = some s then True
  else
    invoice.invoiceStatus ≠ .paymentProcessing ∧
      (invoice.invoiceStatus.hasNoReason = true →
        attempt = none ∧ subscription ∈ [SubscriptionStatus.active, .trialing, .cancelled])

section

variable (status : TenantStatus) (subscription : SubscriptionStatus)

/-- Where no payment is processing, an outstanding invoice is in its grace period only if nobody has tried to pay it
and a delinquent subscription belongs to a running tenant. -/
theorem standingState_outstanding_grace_iff {attempt : Option AttemptStatus} (hpaid : attempt ≠ some .paid)
    (hprocessing : ¬∃ s ∈ paymentProcessingAttemptStates, attempt = some s) :
    standingState status subscription .outstanding attempt = .grace ↔
      attempt = none ∧ subscription ∈ [SubscriptionStatus.pastDue, .paused] ∧ status ∈ graceTenantStatuses := by
  cases attempt with
  | some tried =>
    have hidle : tried ∉ paymentProcessingAttemptStates := fun h => hprocessing ⟨tried, h, rfl⟩
    rw [standingState_outstanding status subscription tried fun h => hpaid (congrArg some h), if_neg hidle]
    simp
  | none =>
    rw [standingState_idle]
    cases subscription with
    | active | trialing | cancelled => simp
    | pending =>
      simp
      split_ifs <;> decide
    | pastDue | paused =>
      simp
      split_ifs with hg <;> simp [hg]

/-- Nor is its payment processing. -/
theorem standingState_outstanding_ne_processing {attempt : Option AttemptStatus} (hpaid : attempt ≠ some .paid)
    (hprocessing : ¬∃ s ∈ paymentProcessingAttemptStates, attempt = some s) :
    standingState status subscription .outstanding attempt ≠ .paymentProcessing := by
  cases attempt with
  | some tried =>
    have hidle : tried ∉ paymentProcessingAttemptStates := fun h => hprocessing ⟨tried, h, rfl⟩
    rw [standingState_outstanding status subscription tried fun h => hpaid (congrArg some h), if_neg hidle]
    decide
  | none =>
    rw [standingState_idle]
    cases subscription with
    | active | trialing | cancelled => simp
    | pending | pastDue | paused =>
      dsimp only
      split_ifs <;> decide

/-- It is as good as paid only if nobody has tried to pay it and the subscription says so. -/
theorem standingState_outstanding_resolved_iff {attempt : Option AttemptStatus} (hpaid : attempt ≠ some .paid) :
    (standingState status subscription .outstanding attempt = .paid ∨
        standingState status subscription .outstanding attempt = .closed) ↔
      attempt = none ∧ subscription ∈ [SubscriptionStatus.active, .trialing, .cancelled] := by
  cases attempt with
  | some tried =>
    rw [standingState_outstanding status subscription tried fun h => hpaid (congrArg some h)]
    split_ifs <;> simp
  | none =>
    rw [standingState_idle]
    cases subscription with
    | active | trialing | cancelled => simp
    | pending | pastDue | paused =>
      simp
      split_ifs <;> simp

/-- Where no payment is processing, an invoice that is due has lapsed once its grace period is over. -/
theorem BillingInvoice.hasLapsed_of_due {invoice : BillingInvoice} {attempt : Option AttemptStatus} {now due : Time}
    (hprocessing : ¬∃ s ∈ paymentProcessingAttemptStates, attempt = some s) (hdate : due ∈ invoice.dueDate)
    (hdue : due ≤ now) (grace : Nat) :
    invoice.hasLapsed attempt now grace = true ↔ due + grace < now := by
  rw [BillingInvoice.hasLapsed_iff]
  constructor
  · rintro ⟨-, ⟨due', hdate', hlate⟩ | ⟨hdates, -⟩⟩
    · obtain rfl := Option.mem_unique hdate hdate'
      exact hlate
    · exact absurd hdue (not_le.2 (hdates due hdate))
  · exact fun hlate => ⟨fun s hs hin => hprocessing ⟨s, hin, hs⟩, Or.inl ⟨due, hdate, hlate⟩⟩

/-- An invoice that is not due has lapsed only where its status says that it is suspended. -/
theorem BillingInvoice.not_hasLapsed_of_notDue {invoice : BillingInvoice} {attempt : Option AttemptStatus} {now : Time}
    {grace : Nat} (hdue : ¬∃ due ∈ invoice.dueDate, due ≤ now) (hsuspended : invoice.invoiceStatus ≠ .suspended) :
    ¬invoice.hasLapsed attempt now grace = true := by
  intro h
  rcases (BillingInvoice.hasLapsed_iff.1 h).2 with ⟨due, hdate, hlate⟩ | ⟨-, -, h⟩
  · exact hdue ⟨due, hdate, (Nat.le_add_right due grace).trans hlate.le⟩
  · exact hsuspended h

/-- The reason of the first cascade fits the state of the second one exactly when they end in one place. -/
theorem reasonFits_iff_cascadesMeet (invoice : BillingInvoice) (attempt : Option PaymentAttempt) (now : Time)
    (grace : Nat) :
    ReasonFits (resolveInvoice invoice attempt now grace).2.1
        (standingState status subscription (invoiceStanding invoice (attempt.map PaymentAttempt.status) now grace)
          (attempt.map PaymentAttempt.status)) ↔
      invoice.CascadesMeet (attempt.map PaymentAttempt.status) status subscription now grace := by
  rw [resolveInvoice_reason]
  generalize attempt.map PaymentAttempt.status = attempt
  unfold BillingInvoice.CascadesMeet invoiceStanding
  -- the two cascades side by side, in the order in which the reason is chosen
  by_cases hvoided : invoice.invoiceStatus ∈ voidedInvoiceStatuses
  · rw [if_pos hvoided, if_pos hvoided, if_pos hvoided]
    by_cases hpaid : attempt = some .paid
    · rw [if_pos hpaid]
      simp [reasonFits_iff, standingState, hpaid]
    · rw [if_neg hpaid]
      simp [reasonFits_iff, standingState, hpaid]
  rw [if_neg hvoided, if_neg hvoided, if_neg hvoided]
  by_cases hpaid : attempt = some .paid ∨ invoice.hasPaidColumns = true
  · have hstanding : (if attempt = some .paid then InvoiceStanding.paid
        else if invoice.hasPaidColumns = true then .paid
        else if invoice.hasLapsed attempt now grace = true then .lapsed else .outstanding) = .paid := by
      rcases hpaid with h | h
      · exact if_pos h
      · rw [if_pos h, ite_self]
    rw [if_pos hpaid, if_pos hpaid, hstanding]
    simp [reasonFits_iff, standingState]
  rw [if_neg hpaid, if_neg hpaid]
  obtain ⟨hpaid, hcolumns⟩ := not_or.1 hpaid
  rw [if_neg hpaid, if_neg hcolumns]
  by_cases hprocessing : ∃ s ∈ paymentProcessingAttemptStates, attempt = some s
  · rw [if_pos hprocessing, if_pos hprocessing]
    obtain ⟨s, hs, rfl⟩ := hprocessing
    have hlapsed : ¬invoice.hasLapsed (some s) now grace = true := fun h =>
      (BillingInvoice.hasLapsed_iff.1 h).1 s rfl hs
    rw [if_neg hlapsed, standingState_outstanding status subscription s fun h => hpaid (congrArg some h), if_pos hs]
    simp [reasonFits_iff]
  rw [if_neg hprocessing, if_neg hprocessing]
  -- neither paid nor processing: the due date decides, and after it the status of the invoice
  by_cases hdue : ∃ due ∈ invoice.dueDate, due ≤ now
  · rw [if_pos hdue, if_pos hdue]
    obtain ⟨due, hdate, hdue⟩ := hdue
    have hgetD : invoice.dueDate.getD 0 = due := by rw [Option.mem_def.1 hdate, Option.getD_some]
    rw [hgetD]
    have hlapsed := BillingInvoice.hasLapsed_of_due hprocessing hdate hdue grace
    by_cases hgrace : now ≤ due + grace
    · rw [if_pos hgrace, if_neg (hlapsed.not.2 (not_lt.2 hgrace)), or_iff_right (not_lt.2 hgrace),
        ← standingState_outstanding_grace_iff status subscription hpaid hprocessing]
      simp [reasonFits_iff]
    · rw [if_neg hgrace, if_pos (hlapsed.2 (not_le.1 hgrace))]
      simp [reasonFits_iff, standingState, not_le.1 hgrace]
  rw [if_neg hdue, if_neg hdue]
  by_cases hactive : ∃ s ∈ activePaymentAttemptStates, attempt = some s
  · rw [if_pos hactive, if_pos hactive]
    exact iff_true_intro (reasonFits_open (Or.inl rfl) _)
  rw [if_neg hactive, if_neg hactive]
  have hopen : invoice.invoiceStatus ∉ [InvoiceStatus.paid, .settled, .closed] := fun h =>
    hcolumns (decide_eq_true (Or.inl h))
  rcases InvoiceStatus.ownReason_open hvoided hopen with ⟨hstatus, hreason⟩ | ⟨hnone, hreason⟩ | ⟨hstatus, hnone, hreason⟩
  · -- the status says that a payment is processing, and no attempt bears it out
    rw [if_neg (BillingInvoice.not_hasLapsed_of_notDue hdue (by rw [hstatus]; decide)), hreason]
    have hstate := standingState_outstanding_ne_processing status subscription hpaid hprocessing
    simp [reasonFits_iff, hstate, hstatus]
  · have hstatus : invoice.invoiceStatus ≠ .paymentProcessing ∧ invoice.invoiceStatus ≠ .suspended := by
      constructor <;> intro h <;> rw [h] at hnone <;> cases hnone
    rw [if_neg (BillingInvoice.not_hasLapsed_of_notDue hdue hstatus.2), hreason, and_iff_right hstatus.1,
      forall_prop_of_true hnone,
      ← standingState_outstanding_resolved_iff status subscription hpaid]
    simp [reasonFits_iff]
  · refine iff_of_true (reasonFits_open hreason _) ⟨hstatus, fun h => ?_⟩
    rw [hnone] at h
    cases h

end

/-- The snapshot of a tenant with an invoice shows a reason that fits its state exactly when the two cascades end in one
place. -/
theorem shown_reason_fits_iff (db : Db) (tenant : Tenant) (now : Time) (grace : Nat) (invoice : BillingInvoice)
    (hlatest : latestBillingInvoice (db.invoicesOf tenant.id) = some invoice) :
    ReasonFits (resolveBillingLifecycle db tenant now grace).reasonCode
        (resolveBillingLifecycle db tenant now grace).billingState ↔
      invoice.CascadesMeet ((latestPaymentAttempt (db.attemptsOf invoice.id)).map PaymentAttempt.status) tenant.status
        (tenantSubscriptionStatus db tenant.id) now grace := by
  have hreason : (resolveBillingLifecycle db tenant now grace).reasonCode =
      (resolveInvoice invoice (latestPaymentAttempt (db.attemptsOf invoice.id)) now grace).2.1 := by
    unfold resolveBillingLifecycle
    rw [hlatest]
  rw [hreason, (resolveBillingLifecycle_state db tenant now grace).1,
    ← reasonFits_iff_cascadesMeet tenant.status (tenantSubscriptionStatus db tenant.id)]
  unfold Db.latestStanding
  rw [hlatest]

/-- A delinquent tenant that is running is shown its grace period. -/
theorem delinquent_reason_fits :
    ReasonFits
      (resolveBillingLifecycle (Small.ledger .pastDue [{ Small.invoice with dueDate := some 1000 }] [])
        (Small.tenantIn .active) 2000 gracePeriod).reasonCode
      (resolveBillingLifecycle (Small.ledger .pastDue [{ Small.invoice with dueDate := some 1000 }] [])
        (Small.tenantIn .active) 2000 gracePeriod).billingState :=
  (shown_reason_fits_iff _ (Small.tenantIn .active) 2000 gracePeriod _ rfl).2 (by
    unfold BillingInvoice.CascadesMeet
    decide)

/-- After a failed checkout the tenant is told that it is within its grace period, while its state is past due. -/
theorem failed_checkout_reason_misleads :
    (resolveBillingLifecycle
        (Small.ledger .pastDue [{ Small.invoice with dueDate := some 1000 }] [Small.tried .failed])
        (Small.tenantIn .active) 2000).reasonCode = "invoice_overdue_grace_active" ∧
      (resolveBillingLifecycle
        (Small.ledger .pastDue [{ Small.invoice with dueDate := some 1000 }] [Small.tried .failed])
        (Small.tenantIn .active) 2000).billingState = .pastDue := by
  decide

end ControlPlane
