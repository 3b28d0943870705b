import ControlPlane.Entitlement

/-!
# Hidden debt

The lifecycle looks at a tenant's latest invoice only, and it takes that invoice for paid when the amount that was paid
is not below the amount that is still due.  So an invoice of which half is paid entitles a tenant that owes the other
half, and a new invoice can take the place of an older one that is overdue.
-/

namespace ControlPlane

open Table

/-! ### An outstanding balance -/

/-- Without a paid subscription the lifecycle reports an outstanding invoice as anything but paid. -/
theorem standingState_outstanding_ne_paid (status : TenantStatus) {subscription : SubscriptionStatus}
    (hsubscription : subscription ∉ paidSubscriptionStatuses) {attempt : Option AttemptStatus}
    (hattempt : attempt ≠ some .paid) : standingState status subscription .outstanding attempt ≠ .paid := by
  cases attempt with
  | some tried =>
    rw [standingState_outstanding status subscription tried fun h => hattempt (congrArg some h)]
    split_ifs <;> decide
  | none =>
    rw [standingState_idle]
    revert hsubscription
    cases subscription <;> intro hsubscription <;> simp [paidSubscriptionStatuses] at hsubscription ⊢ <;>
      split_ifs <;> simp

/-- An invoice of which something is due is paid for the lifecycle, where no status, date or attempt says so, if as
much was paid as is still due, and only then. -/
theorem outstanding_balance_iff (db : Db) (tenant : Tenant) (now : Time) (grace : Nat) (invoice : BillingInvoice)
    (hlatest : latestBillingInvoice (db.invoicesOf tenant.id) = some invoice) (hdue : 0 < invoice.amountDue)
    (hstatus : invoice.invoiceStatus ∉ [InvoiceStatus.paid, .settled, .closed, .cancelled])
    (hpaidAt : invoice.paidAt = none) (hattempts : ∀ attempt ∈ db.attemptsOf invoice.id, attempt.status ≠ .paid)
    (hsubscription : tenantSubscriptionStatus db tenant.id ∉ paidSubscriptionStatuses) :
    (resolveBillingLifecycle db tenant now grace).billingState ≠ .paid ↔
      invoice.amountPaid < invoice.amountDue ∨ invoice.invoiceStatus ∈ voidedInvoiceStatuses := by
  have hattempt : (latestPaymentAttempt (db.attemptsOf invoice.id)).map PaymentAttempt.status ≠ some .paid := by
    intro h
    obtain ⟨attempt, hattempt, hpaid⟩ := Option.map_eq_some_iff.1 h
    exact hattempts attempt (mem_of_latestBy hattempt) hpaid
  have hcolumns : invoice.hasPaidColumns = true ↔ invoice.amountDue ≤ invoice.amountPaid := by
    simp only [List.mem_cons, List.not_mem_nil, or_false, not_or] at hstatus
    simp [BillingInvoice.hasPaidColumns, hstatus, hpaidAt, hdue]
  rw [(resolveBillingLifecycle_state db tenant now grace).1]
  unfold Db.latestStanding
  rw [hlatest]
  dsimp only
  generalize (latestPaymentAttempt (db.attemptsOf invoice.id)).map PaymentAttempt.status = attempt at hattempt ⊢
  unfold invoiceStanding
  rw [if_neg hattempt]
  by_cases hvoided : invoice.invoiceStatus ∈ voidedInvoiceStatuses
  · rw [if_pos hvoided]
    exact iff_of_true (by simp [standingState]) (Or.inr hvoided)
  rw [if_neg hvoided]
  by_cases hpaid : invoice.amountDue ≤ invoice.amountPaid
  · rw [if_pos (hcolumns.2 hpaid)]
    exact iff_of_false (fun h => h rfl) (not_or.2 ⟨not_lt.2 hpaid, hvoided⟩)
  rw [if_neg fun h => hpaid (hcolumns.1 h)]
  refine iff_of_true ?_ (Or.inl (not_le.1 hpaid))
  by_cases hlapsed : invoice.hasLapsed attempt now grace = true
  · rw [if_pos hlapsed]
    simp [standingState]
  · rw [if_neg hlapsed]
    exact standingState_outstanding_ne_paid tenant.status hsubscription hattempt

/-- An invoice of which less is paid than is due. -/
theorem mostly_due_balance_unpaid :
    (resolveBillingLifecycle (Small.ledger .pastDue [{ Small.invoice with amountDue := 6000, amountPaid := 4000 }] [])
      (Small.tenantIn .active) 2000 gracePeriod).billingState ≠ .paid :=
  (outstanding_balance_iff _ (Small.tenantIn .active) 2000 gracePeriod _ rfl (by decide) (by decide) rfl (by decide)
    (by decide)).2 (Or.inl (by decide))

/-- The item of an invoice of 100 of which 60 is paid. -/
def Small.mostlyPaidItem : ErpItem :=
  { openItem with status := some "Partly Paid", outstandingAmount := .number false 40 0,
                  grandTotal := .number false 100 0 }

/-- A tenant whose subscription is past due and whose only invoice the sync has written from that item. -/
def Small.mostlyPaid : Db :=
  match upsertBillingInvoiceFromErpItem [] (Small.ledger .pastDue [] []) (Small.tenantIn .active)
    ⟨1, 1, some 1, some "CUST-1", "TZS", "active"⟩ Small.mostlyPaidItem 1000 with
  | .ok (_, db) => db
  | .error _ => Db.empty

/-- It owes 40 and is taken to have paid. -/
theorem mostly_paid_taken_for_paid :
    Small.mostlyPaid.invoices.map (fun i => (i.amountDue, i.amountPaid, i.invoiceStatus, i.paidAt)) =
        [(4000, 6000, .paymentPending, none)] ∧
      latestBillingInvoice (Small.mostlyPaid.invoicesOf 1) = Small.mostlyPaid.invoices.head? ∧
      Small.mostlyPaid.attempts = [] ∧ tenantSubscriptionStatus Small.mostlyPaid 1 = .pastDue ∧
      (resolveBillingLifecycle Small.mostlyPaid (Small.tenantIn .active) 2000).billingState = .paid := by
  decide +kernel

/-! ### A new invoice -/

/-- An open invoice of a tenant of which something is due and that nobody has tried to pay. -/
structure BillingInvoice.IsNewDebt (invoice : BillingInvoice) (db : Db) (tenantId : Nat) : Prop where
  tenant : invoice.tenantId = tenantId
  due : 0 < invoice.amountDue
  notVoided : invoice.invoiceStatus ∉ voidedInvoiceStatuses
  notPaid : invoice.invoiceStatus ∉ [InvoiceStatus.paid, .settled, .closed]
  paidAt : invoice.paidAt = none
  untried : db.attemptsOf invoice.id = []

/-- The database with one more invoice. -/
def Db.addInvoice (db : Db) (invoice : BillingInvoice) : Db := { db with invoices := insert db.invoices invoice }

/-- A new invoice comes after the latest one by its due, issue and creation date. -/
def Db.becomesLatest (db : Db) (tenantId : Nat) (invoice : BillingInvoice) : Prop :=
  ∀ latest ∈ latestBillingInvoice (db.invoicesOf tenantId),
    ltTimes3 (latest.dueDate.getD 0, latest.issuedAt.getD 0, latest.createdAt)
      (invoice.dueDate.getD 0, invoice.issuedAt.getD 0, invoice.createdAt) = true

instance (db : Db) (tenantId : Nat) (invoice : BillingInvoice) : Decidable (db.becomesLatest tenantId invoice) :=
  inferInstanceAs (Decidable (∀ latest ∈ latestBillingInvoice (db.invoicesOf tenantId), _))

/-- A new invoice that nobody has tried to pay hides what the latest one before it says.  One that counts as paid by
its amounts hides whatever is not paid; an outstanding one hides a cancelled or a lapsed one, and one that was tried to
be paid, as far as the subscription allows more than they do. -/
def hidesDebt (status : TenantStatus) (subscription : SubscriptionStatus)
    (latest : InvoiceStanding × Option AttemptStatus) (new : InvoiceStanding) : Prop :=
  subscription ≠ .cancelled ∧
    match new, latest with
    | .paid, (.voided, _) | .paid, (.lapsed, _) => True
    | .paid, (.outstanding, some tried) => ¬(subscription = .trialing ∧ tried ∉ paymentProcessingAttemptStates)
    | .paid, (.outstanding, none) => subscription ∉ paidSubscriptionStatuses
    | .outstanding, (.voided, _) | .outstanding, (.lapsed, _) =>
      subscription ∈ paidSubscriptionStatuses ∨ status ≠ .suspendedBilling
    | .outstanding, (.outstanding, some tried) =>
      subscription = .active ∨ subscription = .trialing ∧ tried ∈ paymentProcessingAttemptStates ∨
        subscription ∈ [SubscriptionStatus.pastDue, .paused] ∧ status ∈ graceTenantStatuses
    | _, _ => False

/-- What an outstanding invoice leaves to the subscription. -/
theorem standingEntitlement_idle_rank (status : TenantStatus) {subscription : SubscriptionStatus}
    (h : subscription ≠ .cancelled) :
    (standingEntitlement status subscription (.outstanding, none)).rank =
      if subscription ∈ paidSubscriptionStatuses then 3
      else if subscription ∈ [SubscriptionStatus.pastDue, .paused] ∧ status ∈ graceTenantStatuses then 2
      else if status = .suspendedBilling then 0
      else 1 := by
  rw [standingEntitlement_idle]
  cases subscription with
  | active | trialing => rfl
  | cancelled => exact absurd rfl h
  | pending =>
    simp [paidSubscriptionStatuses]
    split_ifs <;> rfl
  | pastDue | paused =>
    simp [paidSubscriptionStatuses]
    split_ifs <;> rfl

theorem standingEntitlement_idle_pos_iff (status : TenantStatus) {subscription : SubscriptionStatus}
    (h : subscription ≠ .cancelled) :
    0 < (standingEntitlement status subscription (.outstanding, none)).rank ↔
      subscription ∈ paidSubscriptionStatuses ∨ status ≠ .suspendedBilling := by
  rw [standingEntitlement_idle_rank status h]
  by_cases hpaid : subscription ∈ paidSubscriptionStatuses
  · simp [hpaid]
  by_cases hsuspended : status = .suspendedBilling
  · simp [hpaid, hsuspended, graceTenantStatuses]
  · simp only [hpaid, hsuspended, if_false, false_or, ne_eq, not_false_eq_true, iff_true]
    split_ifs <;> decide

/-- The new invoice entitles to more than the old one exactly when it hides it. -/
theorem standingEntitlement_rank_lt_iff (status : TenantStatus) (subscription : SubscriptionStatus)
    {latest : InvoiceStanding × Option AttemptStatus} (hlatest : latest.2 = some .paid → latest.1 = .paid)
    {new : InvoiceStanding} (hnew : new ≠ .voided) :
    (standingEntitlement status subscription latest).rank < (standingEntitlement status subscription (new, none)).rank ↔
      hidesDebt status subscription latest new := by
  unfold hidesDebt
  by_cases hcancelled : subscription = .cancelled
  · subst hcancelled
    rw [standingEntitlement_cancelled, standingEntitlement_cancelled]
    simp
  rw [and_iff_right hcancelled]
  -- by the standing of the new invoice, and for a new debt by that of the old one
  obtain ⟨standing, attempt⟩ := latest
  cases new with
  | voided => exact absurd rfl hnew
  | lapsed =>
    rw [standingEntitlement_lapsed_rank]
    simp
  | paid =>
    rw [standingEntitlement_paid status none hcancelled]
    cases standing with
    | paid =>
      rw [standingEntitlement_paid status attempt hcancelled]
      simp
    | voided =>
      rw [standingEntitlement_voided]
      simp [EntitlementState.rank]
    | lapsed =>
      rw [standingEntitlement_lapsed status attempt hcancelled]
      simp [EntitlementState.rank]
    | outstanding =>
      cases attempt with
      | none =>
        rw [standingEntitlement_idle]
        cases subscription <;> simp [EntitlementState.rank, paidSubscriptionStatuses] at hcancelled ⊢ <;>
          split_ifs <;> simp
      | some tried =>
        have htried : tried ≠ .paid := fun h => by simpa using hlatest (congrArg some h)
        rw [standingEntitlement_tried status hcancelled htried]
        split_ifs with h
        · simp [EntitlementState.rank, h]
        · simp [EntitlementState.rank, h]
  | outstanding =>
    cases standing with
    | paid =>
      rw [standingEntitlement_paid status attempt hcancelled]
      exact iff_of_false (not_lt.2 (EntitlementState.rank_le _)) (by simp)
    | voided =>
      rw [standingEntitlement_voided]
      exact standingEntitlement_idle_pos_iff status hcancelled
    | lapsed =>
      rw [standingEntitlement_lapsed status attempt hcancelled]
      exact standingEntitlement_idle_pos_iff status hcancelled
    | outstanding =>
      cases attempt with
      | none => simp
      | some tried =>
        have htried : tried ≠ .paid := fun h => by simpa using hlatest (congrArg some h)
        rw [standingEntitlement_tried status hcancelled htried, standingEntitlement_idle_rank status hcancelled]
        by_cases hp : tried ∈ paymentProcessingAttemptStates <;> by_cases hg : status ∈ graceTenantStatuses <;>
          cases subscription <;> simp [hp, hg, paidSubscriptionStatuses, EntitlementState.rank] at hcancelled ⊢ <;>
          split_ifs <;> decide

/-- A new debt is paid by its amounts, has lapsed or is outstanding. -/
theorem invoiceStanding_newDebt {invoice : BillingInvoice} {db : Db} {tenantId : Nat} (h : invoice.IsNewDebt db tenantId)
    (now : Time) (grace : Nat) : invoiceStanding invoice none now grace ≠ .voided := by
  unfold invoiceStanding
  rw [if_neg (by simp), if_neg h.notVoided]
  split_ifs <;> decide

theorem latestBillingInvoice_append (invoices : List BillingInvoice) (invoice : BillingInvoice) :
    latestBillingInvoice (invoices ++ [invoice]) =
      some ((latestBillingInvoice invoices).elim invoice fun latest =>
        if ltTimes3 (latest.dueDate.getD 0, latest.issuedAt.getD 0, latest.createdAt)
            (invoice.dueDate.getD 0, invoice.issuedAt.getD 0, invoice.createdAt) then invoice
        else latest) :=
  latestBy_append_singleton ltTimes3 _ invoices invoice

theorem Db.latestStanding_addInvoice {db : Db} {tenantId : Nat} {invoice : BillingInvoice}
    (h : invoice.IsNewDebt db tenantId) (now : Time) (grace : Nat) :
    (db.addInvoice invoice).latestStanding tenantId now grace =
      if db.becomesLatest tenantId invoice then (invoiceStanding invoice none now grace, none)
      else db.latestStanding tenantId now grace := by
  have hown : (db.addInvoice invoice).invoicesOf tenantId = db.invoicesOf tenantId ++ [invoice] := by
    unfold Db.invoicesOf Db.addInvoice Table.insert
    simp [List.filter_append, h.tenant]
  have hadded : ∀ id, (db.addInvoice invoice).attemptsOf id = db.attemptsOf id := fun id => rfl
  by_cases hlater : db.becomesLatest tenantId invoice
  · rw [if_pos hlater]
    unfold Db.latestStanding
    rw [hown, latestBillingInvoice_append]
    cases hlatest : latestBillingInvoice (db.invoicesOf tenantId) with
    | none =>
      dsimp only [Option.elim_none]
      rw [hadded, h.untried]
      rfl
    | some latest =>
      dsimp only [Option.elim_some]
      rw [if_pos (hlater latest hlatest), hadded, h.untried]
      rfl
  · rw [if_neg hlater]
    unfold Db.becomesLatest at hlater
    push Not at hlater
    obtain ⟨latest, hlatest, hnot⟩ := hlater
    unfold Db.latestStanding
    rw [hown, latestBillingInvoice_append, Option.mem_def.1 hlatest]
    dsimp only [Option.elim_some]
    rw [if_neg hnot, hadded]

/-- Adding an open invoice that nobody has tried to pay leaves the tenant's entitlement no better than it was, unless
the invoice becomes the latest and hides what the one before it says, and then it is better. -/
theorem new_debt_rank_le_iff (db : Db) (tenant : Tenant) (now : Time) (grace : Nat) (invoice : BillingInvoice)
    (h : invoice.IsNewDebt db tenant.id) :
    (resolveBillingLifecycle (db.addInvoice invoice) tenant now grace).entitlementState.rank ≤
        (resolveBillingLifecycle db tenant now grace).entitlementState.rank ↔
      ¬(db.becomesLatest tenant.id invoice ∧
        hidesDebt tenant.status (tenantSubscriptionStatus db tenant.id) (db.latestStanding tenant.id now grace)
          (invoiceStanding invoice none now grace)) := by
  rw [(resolveBillingLifecycle_state (db.addInvoice invoice) tenant now grace).2,
    (resolveBillingLifecycle_state db tenant now grace).2, Db.latestStanding_addInvoice h,
    show tenantSubscriptionStatus (db.addInvoice invoice) tenant.id = tenantSubscriptionStatus db tenant.id from rfl,
    ← not_lt, not_iff_not]
  by_cases hlatest : db.becomesLatest tenant.id invoice
  · rw [if_pos hlatest, and_iff_right hlatest]
    exact standingEntitlement_rank_lt_iff tenant.status _ (db.latestStanding_paid tenant.id now grace)
      (invoiceStanding_newDebt h now grace)
  · rw [if_neg hlatest]
    exact iff_of_false (lt_irrefl _) fun h => hlatest h.1

/-- An invoice due later, of which nothing is paid. -/
def Small.newInvoice (due : Time) : BillingInvoice :=
  { Small.invoice with id := 2, erpInvoiceId := some "INV-2", invoiceNumber := some "INV-2", dueDate := some due }

/-- The ledger of an active subscription with one invoice that was due at 1000. -/
def Small.oldDebt : Db := Small.ledger .active [{ Small.invoice with dueDate := some 1000 }] []

theorem Small.invoice_open :
    0 < Small.invoice.amountDue ∧ Small.invoice.invoiceStatus ∉ voidedInvoiceStatuses ∧
      Small.invoice.invoiceStatus ∉ [InvoiceStatus.paid, .settled, .closed] := by decide

theorem Small.newInvoice_isNewDebt (due : Time) : (Small.newInvoice due).IsNewDebt Small.oldDebt 1 :=
  ⟨rfl, Small.invoice_open.1, Small.invoice_open.2.1, Small.invoice_open.2.2, rfl, rfl⟩

/-- An invoice that was due earlier does not help. -/
theorem older_debt_rank_le :
    (resolveBillingLifecycle (Small.oldDebt.addInvoice (Small.newInvoice 900)) (Small.tenantIn .active) (1000 + days 4)
        gracePeriod).entitlementState.rank ≤
      (resolveBillingLifecycle Small.oldDebt (Small.tenantIn .active) (1000 + days 4) gracePeriod).entitlementState.rank :=
  (new_debt_rank_le_iff Small.oldDebt (Small.tenantIn .active) (1000 + days 4) gracePeriod (Small.newInvoice 900)
    (Small.newInvoice_isNewDebt 900)).2 fun h => absurd h.1 (by decide)

/-- Four days after the old invoice was due the tenant is suspended, and a new invoice that is due in a month makes it
active again. -/
theorem new_debt_hides_old :
    (Small.newInvoice (1000 + days 30)).IsNewDebt Small.oldDebt 1 ∧
      (resolveBillingLifecycle Small.oldDebt (Small.tenantIn .active) (1000 + days 4)).entitlementState =
        .suspendedBilling ∧
      (resolveBillingLifecycle (Small.oldDebt.addInvoice (Small.newInvoice (1000 + days 30))) (Small.tenantIn .active)
        (1000 + days 4)).entitlementState = .active :=
  ⟨Small.newInvoice_isNewDebt _, by decide, by decide⟩

end ControlPlane
