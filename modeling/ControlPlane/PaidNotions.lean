import ControlPlane.System

/-!
# The notions of a paid invoice

The webhooks, the reconciliation and the billing lifecycle each decide from the columns of an invoice whether it is
paid, and a checkout decides whether it can still be paid.  They test different columns: the reconciliation never looks
at `paid_at`, the webhooks take an invoice with nothing due for settled whatever its status, and the lifecycle compares
what was paid with what is still due.  They agree on exactly the invoices whose columns match each other.
-/

namespace ControlPlane

/-- The statuses that the invoice sync and a local settlement write. -/
def writtenInvoiceStatuses : List InvoiceStatus := [.cancelled, .paid, .pastDue, .draft, .paymentPending]

theorem normalizeInvoiceStatus_written (item : ErpItem) (amountDue amountPaid : Int) :
    normalizeInvoiceStatus item amountDue amountPaid ∈ writtenInvoiceStatuses := by
  unfold normalizeInvoiceStatus
  dsimp only
  split_ifs <;> decide

theorem fillInvoice_written (invoice : BillingInvoice) (tenant : Tenant) (subscription : Option Subscription)
    (account : BillingAccount) (item : ErpItem) (amountDue amountPaid : Int) (now : Time) :
    (fillInvoice invoice tenant subscription account item amountDue amountPaid now).invoiceStatus ∈
      writtenInvoiceStatuses := by
  simp only [fillInvoice]
  exact normalizeInvoiceStatus_written item amountDue amountPaid

theorem settleInvoiceLocally_written (invoice : BillingInvoice) (amount : Int) (now : Time) :
    (settleInvoiceLocally invoice amount now).invoiceStatus ∈ writtenInvoiceStatuses := by
  rw [show (settleInvoiceLocally invoice amount now).invoiceStatus = .paid from rfl]
  decide

/-- Whether `resolve_billing_lifecycle` takes the paid branch for an invoice that has no payment attempt. -/
def resolvesPaid (invoice : BillingInvoice) (now : Time) : Bool :=
  (resolveInvoice invoice none now).1 = .paid

/-- What four modules say of an invoice agrees. -/
structure PaidNotionsAgree (invoice : BillingInvoice) (now : Time) : Prop where
  reconciliation : reconciledInvoiceIsSettled invoice = invoiceIsSettled invoice
  lifecycle : resolvesPaid invoice now = invoiceIsSettled invoice
  cancelled : invoice.invoiceStatus = .cancelled →
    ¬(invoiceIsSettled invoice ∨ reconciledInvoiceIsSettled invoice ∨ resolvesPaid invoice now)
  exclusive : invoiceIsPayable invoice →
    ¬(invoiceIsSettled invoice ∨ reconciledInvoiceIsSettled invoice ∨ resolvesPaid invoice now)
  exhaustive : invoice.invoiceStatus ∉ [InvoiceStatus.draft, .cancelled] →
    invoiceIsPayable invoice ∨ invoiceIsSettled invoice

/-- The columns of an invoice match each other: a cancelled one has something due and no date of payment; one that is
neither paid nor cancelled has a date of payment and something paid if nothing is due, and otherwise no such date and
less paid than due. -/
def BillingInvoice.ColumnsMatch (invoice : BillingInvoice) : Prop :=
  match invoice.invoiceStatus with
  | .paid => True
  | .cancelled => invoice.paidAt = none ∧ 0 < invoice.amountDue
  | _ =>
    if invoice.amountDue = 0 then invoice.paidAt.isSome ∧ 0 < invoice.amountPaid
    else invoice.paidAt = none ∧ invoice.amountPaid < invoice.amountDue

instance (invoice : BillingInvoice) : Decidable invoice.ColumnsMatch := by
  unfold BillingInvoice.ColumnsMatch
  split <;> infer_instance

/-- An invoice that was settled locally is paid for all of them. -/
theorem settleInvoiceLocally_columnsMatch (invoice : BillingInvoice) (amount : Int) (now : Time) :
    (settleInvoiceLocally invoice amount now).ColumnsMatch := trivial

/-! ### The four predicates, status by status -/

section
variable {invoice : BillingInvoice}

theorem paidNotionsAgree_of_paid (now : Time) (h : invoice.invoiceStatus = .paid) : PaidNotionsAgree invoice now := by
  have hsettled : invoiceIsSettled invoice = true := by simp [invoiceIsSettled, settledInvoiceStates, h]
  have hreconciled : reconciledInvoiceIsSettled invoice = true := by simp [reconciledInvoiceIsSettled, h]
  have hresolved : resolvesPaid invoice now = true := by simp [resolvesPaid, resolveInvoice, h]
  have hpayable : invoiceIsPayable invoice = false := by simp [invoiceIsPayable, terminalInvoiceStates, h]
  refine ⟨by rw [hreconciled, hsettled], by rw [hresolved, hsettled], fun hc => ?_, fun hp => ?_, fun _ => Or.inr hsettled⟩
  · rw [h] at hc; cases hc
  · rw [hpayable] at hp; cases hp

/-- A cancelled invoice is never paid for the lifecycle. -/
theorem resolvesPaid_of_cancelled (now : Time) (h : invoice.invoiceStatus = .cancelled) :
    resolvesPaid invoice now = false := by
  simp [resolvesPaid, resolveInvoice, h]

theorem paidNotionsAgree_of_cancelled (now : Time) (h : invoice.invoiceStatus = .cancelled) :
    PaidNotionsAgree invoice now ↔ invoice.paidAt = none ∧ 0 < invoice.amountDue := by
  have hresolved := resolvesPaid_of_cancelled now h
  have hpayable : invoiceIsPayable invoice = false := by simp [invoiceIsPayable, terminalInvoiceStates, h]
  have hsettled : invoiceIsSettled invoice = true ↔ ¬(invoice.paidAt = none ∧ 0 < invoice.amountDue) := by
    simp [invoiceIsSettled, settledInvoiceStates, h, Option.isSome_iff_ne_none, not_and_or, -not_and]
  constructor
  · intro hagree
    -- the lifecycle says no, so the webhooks have to say no
    have hno : ¬invoiceIsSettled invoice = true := by rw [← hagree.lifecycle, hresolved]; decide
    exact not_not.1 fun hmatch => hno (hsettled.2 hmatch)
  · rintro ⟨hpaid, hpos⟩
    have hno : invoiceIsSettled invoice = false :=
      Bool.eq_false_iff.2 fun hyes => hsettled.1 hyes ⟨hpaid, hpos⟩
    have hreconciled : reconciledInvoiceIsSettled invoice = false := by
      simp only [reconciledInvoiceIsSettled, h, decide_eq_false_iff_not]
      simp
      omega
    refine ⟨by rw [hreconciled, hno], by rw [hresolved, hno], fun _ => ?_, fun hp => ?_, fun hc => ?_⟩
    · simp [hno, hreconciled, hresolved]
    · rw [hpayable] at hp; cases hp
    · rw [h] at hc; exact absurd (by decide) hc

/-- The statuses of an invoice that is neither paid nor cancelled. -/
def openInvoiceStatuses : List InvoiceStatus := [.pastDue, .draft, .paymentPending]

theorem resolvesPaid_of_open (now : Time) (h : invoice.invoiceStatus ∈ openInvoiceStatuses) :
    resolvesPaid invoice now = true ↔
      invoice.paidAt.isSome ∨ (invoice.amountDue ≤ invoice.amountPaid ∧ 0 < invoice.amountDue) := by
  have hstatus : invoice.invoiceStatus = .pastDue ∨ invoice.invoiceStatus = .draft ∨
      invoice.invoiceStatus = .paymentPending := by
    simpa [openInvoiceStatuses] using h
  by_cases hpaid : invoice.paidAt.isSome ∨ (invoice.amountDue ≤ invoice.amountPaid ∧ 0 < invoice.amountDue)
  · rcases hstatus with h | h | h <;> simp [resolvesPaid, resolveInvoice, h, hpaid]
  · rcases hstatus with h | h | h <;>
      (simp only [resolvesPaid, resolveInvoice, h, hpaid]
       simp [paymentProcessingAttemptStates, activePaymentAttemptStates, invoiceStateAlias]
       split_ifs <;> simp)

theorem invoiceIsSettled_of_open (h : invoice.invoiceStatus ∈ openInvoiceStatuses) :
    invoiceIsSettled invoice = true ↔ invoice.paidAt.isSome ∨ invoice.amountDue ≤ 0 := by
  have hstatus : invoice.invoiceStatus ∉ settledInvoiceStates := by
    intro hs
    revert h hs
    cases invoice.invoiceStatus <;> simp [openInvoiceStatuses, settledInvoiceStates]
  simp [invoiceIsSettled, hstatus]

theorem reconciledInvoiceIsSettled_of_open (h : invoice.invoiceStatus ∈ openInvoiceStatuses) :
    reconciledInvoiceIsSettled invoice = true ↔ invoice.amountDue ≤ 0 ∧ 0 < invoice.amountPaid := by
  have hstatus : invoice.invoiceStatus ∉ [InvoiceStatus.paid, .closed, .settled] := by
    intro hs
    revert h hs
    cases invoice.invoiceStatus <;> simp [openInvoiceStatuses]
  simp only [reconciledInvoiceIsSettled, hstatus, false_or, decide_eq_true_eq]

theorem invoiceIsPayable_of_open (h : invoice.invoiceStatus ∈ openInvoiceStatuses) :
    invoiceIsPayable invoice = true ↔ 0 < invoice.amountDue := by
  have hstatus : invoice.invoiceStatus ∉ terminalInvoiceStates := by
    intro hs
    revert h hs
    cases invoice.invoiceStatus <;> simp [openInvoiceStatuses, terminalInvoiceStates]
  simp only [invoiceIsPayable, hstatus, not_false_eq_true, true_and, decide_eq_true_eq]

theorem paidNotionsAgree_of_open (now : Time) (hdue : 0 ≤ invoice.amountDue)
    (h : invoice.invoiceStatus ∈ openInvoiceStatuses) :
    PaidNotionsAgree invoice now ↔
      (if invoice.amountDue = 0 then invoice.paidAt.isSome ∧ 0 < invoice.amountPaid
        else invoice.paidAt = none ∧ invoice.amountPaid < invoice.amountDue) := by
  have hsettled := invoiceIsSettled_of_open h
  have hreconciled := reconciledInvoiceIsSettled_of_open h
  have hresolved := resolvesPaid_of_open now h
  have hpayable := invoiceIsPayable_of_open h
  have hnot : invoice.invoiceStatus ≠ .cancelled := by
    intro hc
    rw [hc] at h
    revert h
    decide
  constructor
  · intro hagree
    have h₁ := hsettled.symm.trans ((Bool.eq_iff_iff.1 hagree.reconciliation).symm.trans hreconciled)
    have h₂ := hsettled.symm.trans ((Bool.eq_iff_iff.1 hagree.lifecycle).symm.trans hresolved)
    cases hpaid : invoice.paidAt <;> simp [hpaid] at h₁ h₂ ⊢ <;> omega
  · intro hmatch
    have hsame : ((invoice.amountDue ≤ 0 ∧ 0 < invoice.amountPaid) ↔ (invoice.paidAt.isSome ∨ invoice.amountDue ≤ 0)) ∧
        ((invoice.paidAt.isSome ∨ (invoice.amountDue ≤ invoice.amountPaid ∧ 0 < invoice.amountDue)) ↔
          (invoice.paidAt.isSome ∨ invoice.amountDue ≤ 0)) ∧
        (0 < invoice.amountDue ↔ ¬(invoice.paidAt.isSome ∨ invoice.amountDue ≤ 0)) := by
      cases hpaid : invoice.paidAt <;> simp [hpaid] at hmatch ⊢ <;> omega
    obtain ⟨h₁, h₂, h₃⟩ := hsame
    refine ⟨Bool.eq_iff_iff.2 ?_, Bool.eq_iff_iff.2 ?_, fun hc => absurd hc hnot, fun hp => ?_, fun _ => ?_⟩
    · rw [hreconciled, hsettled, h₁]
    · rw [hresolved, hsettled, h₂]
    · rw [hpayable, h₃] at hp
      rw [hreconciled, hresolved, hsettled, h₁, h₂]
      simpa using hp
    · rw [hpayable, hsettled, h₃]
      exact (Classical.em _).symm

end

/-- For an invoice with a status that the sync or a local settlement writes, the notions of a paid invoice agree when
its columns match each other, and only then. -/
theorem paidNotionsAgree_iff (invoice : BillingInvoice) (now : Time)
    (hstatus : invoice.invoiceStatus ∈ writtenInvoiceStatuses) (hdue : 0 ≤ invoice.amountDue) :
    PaidNotionsAgree invoice now ↔ invoice.ColumnsMatch := by
  have hcases : invoice.invoiceStatus = .cancelled ∨ invoice.invoiceStatus = .paid ∨
      invoice.invoiceStatus ∈ openInvoiceStatuses := by
    simpa [writtenInvoiceStatuses, openInvoiceStatuses] using hstatus
  unfold BillingInvoice.ColumnsMatch
  rcases hcases with h | h | h
  · rw [paidNotionsAgree_of_cancelled now h, h]
  · rw [h]
    exact iff_true_intro (paidNotionsAgree_of_paid now h)
  · rw [paidNotionsAgree_of_open now hdue h]
    revert h
    cases invoice.invoiceStatus <;> simp [openInvoiceStatuses]

/-- The world after the sync of an invoice of 100 of which one half was paid in the ERP. -/
def Small.halfPaid : World :=
  let item := { openItem with grandTotal := .number false 100 0 }
  step Small.linked ⟨{ env with erp := fun _ => { erp with isConfigured := true, listInvoices := fun _ _ => .ok [item] } },
    .resyncTenantInvoices 1 20⟩

set_option maxRecDepth 100000 in
/-- The lifecycle compares the half that was paid with the half that is due and takes the invoice for paid, while the
others take it for open and payable. -/
theorem half_paid_invoice_resolves_paid :
    ¬∀ invoice ∈ Small.halfPaid.db.invoices, PaidNotionsAgree invoice 2000 := by
  intro h
  have hresolved := (h { Small.invoice with amountPaid := 5000, collectionStage := some "payment_pending"
                                            lastSyncedAt := some 1000 } (by decide +kernel)).lifecycle
  revert hresolved
  decide +kernel

/-- The invoice as it was before the sync, with nothing paid. -/
theorem open_invoice_notions_agree : PaidNotionsAgree Small.invoice 2000 :=
  (paidNotionsAgree_iff Small.invoice 2000 (by decide) (by decide)).2 (by decide)

end ControlPlane
