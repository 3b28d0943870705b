import ControlPlane.BillingGates
import ControlPlane.PaidNotions

/-!
# Entitlement

The entitlement that the lifecycle resolves is read off a table: the tenant's own status, its subscription, the
standing of its latest invoice and the status of that invoice's latest attempt.  Entitlements are ordered by what they
allow, and as time goes by a tenant only goes down in that order.  A trial is shown as one while a payment was tried
and none is processing; where nobody has tried to pay, it is shown as paid.
-/

namespace ControlPlane

/-! ### The order of the entitlements -/

/-- How much an entitlement allows: an active one and a trial the most, a suspended and a cancelled one nothing. -/
def EntitlementState.rank : EntitlementState → Nat
  | .active | .trialing => 3
  | .grace => 2
  | .pastDue => 1
  | .suspendedBilling | .cancelled | .terminated => 0

theorem EntitlementState.rank_le (entitlement : EntitlementState) : entitlement.rank ≤ 3 := by
  cases entitlement <;> decide

/-! ### The table -/

/-- The entitlement of a tenant by its status, its subscription and the standing of its latest invoice. -/
def standingEntitlement (status : TenantStatus) (subscription : SubscriptionStatus)
    (latest : InvoiceStanding × Option AttemptStatus) : EntitlementState :=
  deriveEntitlementState (standingState status subscription latest.1 latest.2) (some subscription)

/-- The lifecycle resolves what the table says. -/
theorem resolveBillingLifecycle_state (db : Db) (tenant : Tenant) (now : Time) (grace : Nat) :
    (resolveBillingLifecycle db tenant now grace).billingState =
        standingState tenant.status (tenantSubscriptionStatus db tenant.id) (db.latestStanding tenant.id now grace).1
          (db.latestStanding tenant.id now grace).2 ∧
      (resolveBillingLifecycle db tenant now grace).entitlementState =
        standingEntitlement tenant.status (tenantSubscriptionStatus db tenant.id)
          (db.latestStanding tenant.id now grace) := by
  unfold resolveBillingLifecycle Db.latestStanding standingEntitlement
  dsimp only
  rw [subscriptionStatusForTenant_eq]
  cases latestBillingInvoice (db.invoicesOf tenant.id) with
  | none =>
    unfold evaluateBillingLifecycle
    dsimp only
    rw [subscriptionStatusForValues_some]
    exact ⟨rfl, rfl⟩
  | some invoice =>
    unfold evaluateBillingLifecycle
    dsimp only [Option.map_some]
    rw [subscriptionStatusForValues_some,
      deriveBillingState_of_resolvesTo (resolveInvoice_standing invoice _ now grace)]
    exact ⟨rfl, rfl⟩

section

variable (status : TenantStatus) {subscription : SubscriptionStatus} (attempt : Option AttemptStatus)

/-- A cancelled subscription entitles to nothing, whatever is paid. -/
theorem standingEntitlement_cancelled (latest : InvoiceStanding × Option AttemptStatus) :
    standingEntitlement status .cancelled latest = .cancelled := by
  unfold standingEntitlement
  cases standingState status .cancelled latest.1 latest.2 <;> rfl

theorem standingEntitlement_paid (h : subscription ≠ .cancelled) :
    standingEntitlement status subscription (.paid, attempt) = .active := by
  revert h
  cases subscription <;> intro h <;> first | rfl | exact absurd rfl h

theorem standingEntitlement_voided : standingEntitlement status subscription (.voided, attempt) = .cancelled := by
  cases subscription <;> rfl

theorem standingEntitlement_lapsed (h : subscription ≠ .cancelled) :
    standingEntitlement status subscription (.lapsed, attempt) = .suspendedBilling := by
  revert h
  cases subscription <;> intro h <;> first | rfl | exact absurd rfl h

/-- An unpaid attempt takes the entitlement away, except from a trial that has no payment processing. -/
theorem standingEntitlement_tried (hsubscription : subscription ≠ .cancelled) {tried : AttemptStatus}
    (htried : tried ≠ .paid) :
    standingEntitlement status subscription (.outstanding, some tried) =
      if subscription = .trialing ∧ tried ∉ paymentProcessingAttemptStates then .trialing else .pastDue := by
  unfold standingEntitlement
  dsimp only
  rw [standingState_outstanding status subscription tried htried]
  revert hsubscription
  cases subscription <;> intro hsubscription <;> by_cases hp : tried ∈ paymentProcessingAttemptStates <;>
    first | exact absurd rfl hsubscription | simp [hp, deriveEntitlementState]

/-- Without an attempt the subscription decides. -/
theorem standingEntitlement_idle :
    standingEntitlement status subscription (.outstanding, none) =
      match subscription with
      | .active | .trialing => .active
      | .cancelled => .cancelled
      | .pending => if status = .suspendedBilling then .suspendedBilling else .pastDue
      | .pastDue | .paused =>
        if status ∈ graceTenantStatuses then .grace
        else if status = .suspendedBilling then .suspendedBilling
        else .pastDue := by
  unfold standingEntitlement
  dsimp only
  rw [standingState_idle]
  cases subscription with
  | active | trialing | cancelled => rfl
  | pending => by_cases hs : status = .suspendedBilling <;> simp [hs, deriveEntitlementState]
  | pastDue | paused =>
    by_cases hg : status ∈ graceTenantStatuses
    · simp [hg, deriveEntitlementState]
    · by_cases hs : status = .suspendedBilling
      · simp [hs, deriveEntitlementState, graceTenantStatuses]
      · simp [hg, hs, deriveEntitlementState]

/-- Nothing is worse than a lapsed invoice. -/
theorem standingEntitlement_lapsed_rank (subscription : SubscriptionStatus) :
    (standingEntitlement status subscription (.lapsed, attempt)).rank = 0 := by
  cases subscription <;> rfl

end

/-! ### Time -/

/-- An invoice that has lapsed stays lapsed, unless its own status said so before it was due. -/
theorem BillingInvoice.hasLapsed_later {invoice : BillingInvoice} {attempt : Option AttemptStatus} {now later : Time}
    (grace : Nat) (hle : now ≤ later) (hstatus : invoice.invoiceStatus ≠ .suspended)
    (h : invoice.hasLapsed attempt now grace = true) : invoice.hasLapsed attempt later grace = true := by
  rw [BillingInvoice.hasLapsed_iff] at h ⊢
  obtain ⟨hprocessing, ⟨due, hdate, hdue⟩ | ⟨-, -, hsuspended⟩⟩ := h
  · exact ⟨hprocessing, Or.inl ⟨due, hdate, hdue.trans_le hle⟩⟩
  · exact absurd hsuspended hstatus

/-- The standing of an invoice changes with time only by lapsing. -/
theorem invoiceStanding_later {invoice : BillingInvoice} {attempt : Option AttemptStatus} {now later : Time}
    (grace : Nat) (hle : now ≤ later) (hstatus : invoice.invoiceStatus ≠ .suspended) :
    invoiceStanding invoice attempt later grace = invoiceStanding invoice attempt now grace ∨
      invoiceStanding invoice attempt later grace = .lapsed := by
  unfold invoiceStanding
  by_cases hpaid : attempt = some .paid
  · exact Or.inl (by rw [if_pos hpaid, if_pos hpaid])
  by_cases hvoided : invoice.invoiceStatus ∈ voidedInvoiceStatuses
  · exact Or.inl (by rw [if_neg hpaid, if_neg hpaid, if_pos hvoided, if_pos hvoided])
  by_cases hcolumns : invoice.hasPaidColumns = true
  · exact Or.inl (by rw [if_neg hpaid, if_neg hpaid, if_neg hvoided, if_neg hvoided, if_pos hcolumns, if_pos hcolumns])
  rw [if_neg hpaid, if_neg hvoided, if_neg hcolumns, if_neg hpaid, if_neg hvoided, if_neg hcolumns]
  by_cases hlater : invoice.hasLapsed attempt later grace = true
  · exact Or.inr (if_pos hlater)
  · have hnow : ¬invoice.hasLapsed attempt now grace = true := fun h =>
      hlater (BillingInvoice.hasLapsed_later grace hle hstatus h)
    exact Or.inl (by rw [if_neg hlater, if_neg hnow])

theorem Db.latestStanding_later {db : Db} {tenantId : Nat} {now later : Time} {grace : Nat} (hle : now ≤ later)
    (hstatus : ∀ invoice ∈ db.invoicesOf tenantId, invoice.invoiceStatus ≠ .suspended) :
    db.latestStanding tenantId later grace = db.latestStanding tenantId now grace ∨
      (db.latestStanding tenantId later grace).1 = .lapsed := by
  unfold Db.latestStanding
  cases hlatest : latestBillingInvoice (db.invoicesOf tenantId) with
  | none => exact Or.inl rfl
  | some invoice =>
    rcases invoiceStanding_later grace hle (hstatus invoice (mem_of_latestBy hlatest)) with h | h
    · exact Or.inl (by dsimp only; rw [h])
    · exact Or.inr h

/-- Time alone never improves a tenant's entitlement. -/
theorem entitlement_never_improves (db : Db) (tenant : Tenant) (grace : Nat) {now later : Time} (hle : now ≤ later)
    (hstatus : ∀ invoice ∈ db.invoicesOf tenant.id, invoice.invoiceStatus ∈ writtenInvoiceStatuses) :
    (resolveBillingLifecycle db tenant later grace).entitlementState.rank ≤
      (resolveBillingLifecycle db tenant now grace).entitlementState.rank := by
  have hopen : ∀ invoice ∈ db.invoicesOf tenant.id, invoice.invoiceStatus ≠ .suspended := by
    intro invoice hmem hsuspended
    have hwritten := hstatus invoice hmem
    rw [hsuspended] at hwritten
    revert hwritten
    decide
  rw [(resolveBillingLifecycle_state db tenant later grace).2, (resolveBillingLifecycle_state db tenant now grace).2]
  rcases Db.latestStanding_later hle hopen with h | h
  · rw [h]
  · rw [show db.latestStanding tenant.id later grace = (.lapsed, (db.latestStanding tenant.id later grace).2) from
      Prod.ext h rfl, standingEntitlement_lapsed_rank]
    exact Nat.zero_le _

/-- The tenant of the examples. -/
def Small.tenantIn (status : TenantStatus) : Tenant :=
  ⟨1, 1, some 1, "acme", "acme.example.com", "acme.example.com", "Acme", status, "stripe", none, none, some "CUST-1",
    1000⟩

/-- Its ledger: one subscription, some invoices and some attempts to pay them. -/
def Small.ledger (status : SubscriptionStatus) (invoices : List BillingInvoice) (attempts : List PaymentAttempt) : Db :=
  { Db.empty with
    tenants := [Small.tenantIn .active]
    subscriptions := [⟨1, 1, 1, status, none, none, none, none, none, none, none⟩]
    invoices := invoices
    attempts := attempts }

/-- An attempt to pay its first invoice. -/
def Small.tried (status : AttemptStatus) : PaymentAttempt :=
  ⟨1, 1, some 1, 1, "stripe", some "cs_1", 5000, "TZS", status, none, none, ⟨none, none, none, none⟩, 1000, 1000⟩

/-- The grace of a delinquent tenant with an overdue invoice does not come back after it is over. -/
theorem overdue_entitlement_never_improves :
    (resolveBillingLifecycle (Small.ledger .pastDue [{ Small.invoice with dueDate := some 1000 }] [])
        (Small.tenantIn .active) (1000 + days 4) gracePeriod).entitlementState.rank ≤
      (resolveBillingLifecycle (Small.ledger .pastDue [{ Small.invoice with dueDate := some 1000 }] [])
        (Small.tenantIn .active) 1000 gracePeriod).entitlementState.rank :=
  entitlement_never_improves _ _ gracePeriod (by decide) (by decide)

/-! ### Trials -/

/-- A tenant's latest invoice is cancelled or past its grace period. -/
def Db.latestIsOver (db : Db) (tenantId : Nat) (now : Time) (grace : Nat) : Prop :=
  ∃ invoice ∈ latestBillingInvoice (db.invoicesOf tenantId),
    invoice.invoiceStatus ∈ voidedInvoiceStatuses ∨ ∃ due ∈ invoice.dueDate, due + grace < now

/-- A snapshot shows a trial as one: it does not say that the tenant has paid, and unless the latest invoice is over it
says that the tenant is on trial. -/
def BillingLifecycleSnapshot.ShowsTrial (snapshot : BillingLifecycleSnapshot) (latestIsOver : Prop) : Prop :=
  snapshot.billingState ≠ .paid ∧ (¬latestIsOver → snapshot.entitlementState = .trialing)

/-- An unsettled invoice lets the trial be seen: it is cancelled, or less is paid than is due and it is past its grace
period or was tried to be paid.  The try must be over, or have come to no checkout yet; and an invoice that is
suspended by its own status must be due or have a try that came to no checkout. -/
def BillingInvoice.LeavesTrial (invoice : BillingInvoice) (attempt : Option AttemptStatus) (now : Time)
    (grace : Nat) : Prop :=
  invoice.invoiceStatus ∈ voidedInvoiceStatuses ∨ invoice.amountPaid < invoice.amountDue ∧
    ((∃ due ∈ invoice.dueDate, due + grace < now) ∨
      ∃ tried ∈ attempt, tried ∉ paymentProcessingAttemptStates ∧
        (invoice.invoiceStatus = .suspended → tried = .created ∨ ∃ due ∈ invoice.dueDate, due ≤ now))

/-- An unsettled invoice is paid for the lifecycle only by its amounts. -/
theorem hasPaidColumns_of_unsettled {invoice : BillingInvoice} (h : invoiceIsSettled invoice = false) :
    invoice.hasPaidColumns = true ↔ invoice.amountDue ≤ invoice.amountPaid := by
  simp only [invoiceIsSettled, settledInvoiceStates, Bool.or_eq_false_iff, decide_eq_false_iff_not, not_le,
    List.mem_cons, List.not_mem_nil, or_false, not_or, Option.isSome_eq_false_iff, Option.isNone_iff_eq_none] at h
  obtain ⟨⟨hpaidAt, hpaid, hclosed, hsettled⟩, hdue⟩ := h
  simp [BillingInvoice.hasPaidColumns, hpaidAt, hpaid, hclosed, hsettled, hdue]

/-- What the table says of a trial and its latest invoice. -/
theorem showsTrial_iff (status : TenantStatus) (invoice : BillingInvoice) (attempt : Option AttemptStatus) (now : Time)
    (grace : Nat) (hunsettled : invoiceIsSettled invoice = false) (hunpaid : attempt ≠ some .paid) :
    (standingState status .trialing (invoiceStanding invoice attempt now grace) attempt ≠ .paid ∧
      (¬(invoice.invoiceStatus ∈ voidedInvoiceStatuses ∨ ∃ due ∈ invoice.dueDate, due + grace < now) →
        standingEntitlement status .trialing (invoiceStanding invoice attempt now grace, attempt) = .trialing)) ↔
      invoice.LeavesTrial attempt now grace := by
  have hcolumns := hasPaidColumns_of_unsettled hunsettled
  unfold BillingInvoice.LeavesTrial invoiceStanding
  rw [if_neg hunpaid]
  by_cases hvoided : invoice.invoiceStatus ∈ voidedInvoiceStatuses
  · rw [if_pos hvoided]
    exact ⟨fun _ => Or.inl hvoided, fun _ => ⟨by simp [standingState], fun h => absurd (Or.inl hvoided) h⟩⟩
  rw [if_neg hvoided]
  by_cases hpaid : invoice.amountDue ≤ invoice.amountPaid
  · rw [if_pos (hcolumns.2 hpaid)]
    refine ⟨fun h => absurd rfl h.1, fun h => ?_⟩
    rcases h with h | h
    · exact absurd h hvoided
    · omega
  rw [if_neg (fun h => hpaid (hcolumns.1 h))]
  simp only [hvoided, false_or, not_le.1 hpaid, true_and]
  by_cases hlapsed : invoice.hasLapsed attempt now grace = true
  · -- a lapsed invoice is excused by its date, not by a status that says it is suspended
    rw [if_pos hlapsed, standingEntitlement_lapsed status attempt (by decide)]
    obtain ⟨-, hpast | ⟨hdates, hidle, hsuspended⟩⟩ := BillingInvoice.hasLapsed_iff.1 hlapsed
    · exact ⟨fun _ => Or.inl hpast, fun _ => ⟨by simp [standingState], fun h => absurd hpast h⟩⟩
    · have hnot : ¬∃ due ∈ invoice.dueDate, due + grace < now := by
        rintro ⟨due, hmem, hdue⟩
        exact absurd (hdates due hmem) (not_lt.2 ((Nat.le_add_right due grace).trans hdue.le))
      refine ⟨fun h => (by cases h.2 hnot), fun h => ?_⟩
      rcases h with h | ⟨tried, hmem, -, h⟩
      · exact absurd h hnot
      rcases h hsuspended with h | ⟨due, hdate, hdue⟩
      · exact absurd (by rw [h]; decide) (hidle tried hmem)
      · exact absurd hdue (not_le.2 (hdates due hdate))
  rw [if_neg hlapsed]
  -- outstanding and in time: only the attempt tells a trial from a payment that is processing
  rw [BillingInvoice.hasLapsed_iff] at hlapsed
  cases attempt with
  | none =>
    rw [standingState_idle]
    refine ⟨fun h => absurd rfl h.1, fun h => ?_⟩
    rcases h with h | ⟨tried, hmem, -⟩
    · exact absurd ⟨by simp, Or.inl h⟩ hlapsed
    · cases hmem
  | some tried =>
    have htried : tried ≠ .paid := fun h => hunpaid (congrArg some h)
    rw [standingState_outstanding status .trialing tried htried,
      standingEntitlement_tried status (by decide) htried]
    simp only [Option.mem_def, Option.some.injEq, exists_eq_left', forall_eq', true_and] at hlapsed ⊢
    by_cases hprocessing : tried ∈ paymentProcessingAttemptStates
    · simp [hprocessing]
    rw [if_pos hprocessing, if_neg hprocessing]
    refine iff_of_true ⟨by decide, fun _ => rfl⟩ (Or.inr ⟨hprocessing, fun hsuspended => ?_⟩)
    by_cases hdue : ∃ due, invoice.dueDate = some due ∧ due ≤ now
    · exact Or.inr hdue
    · -- not due and not lapsed although its status says suspended: the try is under way
      have hactive : tried ∈ activePaymentAttemptStates := by
        by_contra hidle
        have hdates : ∀ due, invoice.dueDate = some due → now < due :=
          fun due hdate => not_le.1 fun h => hdue ⟨due, hdate, h⟩
        exact hlapsed ⟨hprocessing, Or.inr ⟨hdates, hidle, hsuspended⟩⟩
      exact Or.inl ((List.mem_cons.1 hactive).resolve_right hprocessing)

/-- A trial nobody paid for is shown as one exactly when the tenant's latest invoice leaves it to be seen. -/
theorem trial_shown_iff (db : Db) (tenant : Tenant) (now : Time) (grace : Nat)
    (htrial : tenantSubscriptionStatus db tenant.id = .trialing)
    (hunsettled : ∀ invoice ∈ db.invoicesOf tenant.id, invoiceIsSettled invoice = false)
    (hunpaid : ∀ invoice ∈ db.invoicesOf tenant.id, ∀ attempt ∈ db.attemptsOf invoice.id, attempt.status ≠ .paid) :
    (resolveBillingLifecycle db tenant now grace).ShowsTrial (db.latestIsOver tenant.id now grace) ↔
      ∃ invoice ∈ latestBillingInvoice (db.invoicesOf tenant.id),
        invoice.LeavesTrial ((latestPaymentAttempt (db.attemptsOf invoice.id)).map PaymentAttempt.status) now grace := by
  obtain ⟨hbilling, hentitlement⟩ := resolveBillingLifecycle_state db tenant now grace
  unfold BillingLifecycleSnapshot.ShowsTrial Db.latestIsOver
  rw [hbilling, hentitlement, htrial]
  unfold Db.latestStanding
  cases hlatest : latestBillingInvoice (db.invoicesOf tenant.id) with
  | none =>
    refine ⟨fun h => absurd rfl h.1, fun h => ?_⟩
    obtain ⟨invoice, hmem, -⟩ := h
    cases hmem
  | some invoice =>
    have hmem := mem_of_latestBy hlatest
    have hattempt : (latestPaymentAttempt (db.attemptsOf invoice.id)).map PaymentAttempt.status ≠ some .paid := by
      intro h
      obtain ⟨attempt, hattempt, hpaid⟩ := Option.map_eq_some_iff.1 h
      exact hunpaid invoice hmem attempt (mem_of_latestBy hattempt) hpaid
    have hshown := showsTrial_iff tenant.status invoice _ now grace (hunsettled invoice hmem) hattempt
    simpa only [Option.mem_def, Option.some.injEq, exists_eq_left'] using hshown

/-- A trial whose latest checkout failed is shown as one. -/
theorem failed_trial_shown :
    (resolveBillingLifecycle (Small.ledger .trialing [Small.invoice] [Small.tried .failed]) (Small.tenantIn .active) 2000
      gracePeriod).ShowsTrial
        ((Small.ledger .trialing [Small.invoice] [Small.tried .failed]).latestIsOver 1 2000 gracePeriod) :=
  (trial_shown_iff _ (Small.tenantIn .active) 2000 gracePeriod (by decide) (by decide) (by decide)).2
    ⟨Small.invoice, by decide, Or.inr ⟨by decide, Or.inr ⟨.failed, by decide, by decide, by decide⟩⟩⟩

/-- The ledger of a trial with an open invoice that nobody has tried to pay. -/
def Small.untriedTrial : Db := Small.ledger .trialing [Small.invoice] []

/-- It is shown as paid. -/
theorem untried_trial_shown_paid :
    tenantSubscriptionStatus Small.untriedTrial 1 = .trialing ∧
      (∀ invoice ∈ Small.untriedTrial.invoicesOf 1, invoiceIsSettled invoice = false) ∧
      Small.untriedTrial.attempts = [] ∧
      (resolveBillingLifecycle Small.untriedTrial (Small.tenantIn .active) 2000).billingState = .paid ∧
      (resolveBillingLifecycle Small.untriedTrial (Small.tenantIn .active) 2000).entitlementState = .active := by
  decide

end ControlPlane
