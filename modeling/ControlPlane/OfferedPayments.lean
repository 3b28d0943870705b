import ControlPlane.ChargedAgain
import ControlPlane.Billing.ReadModels

/-!
# The payments the billing pages offer

A page offers a payment for an invoice by the invoice's status and, on the workspace, by the tenant's latest attempt.
The server asks for an amount due and looks at the latest attempt of the invoice.  What is offered is accepted exactly
when every open invoice has something due and no payment of its own under way.
-/

namespace ControlPlane

open Table

/-- The first two checks of `create_payment_attempt_for_invoice`, after its resync. -/
def paymentChecks (client : PlatformErpClient) (db : Db) (tenant : Tenant) (invoice : BillingInvoice) (now : Time) :
    Except PyError Unit := do
  let (invoice, db) ← resyncOneInvoice client db tenant invoice now
  checkPayable db invoice

/-- The ERP still has the invoice as the row has it: resyncing it goes through and leaves status and amount due. -/
def ErpUnchanged (client : PlatformErpClient) (db : Db) (tenant : Tenant) (invoice : BillingInvoice) (now : Time) :
    Prop :=
  ∃ updated db', resyncOneInvoice client db tenant invoice now = .ok (updated, db') ∧ updated.id = invoice.id ∧
    updated.invoiceStatus = invoice.invoiceStatus ∧ updated.amountDue = invoice.amountDue

instance (client : PlatformErpClient) (db : Db) (tenant : Tenant) (invoice : BillingInvoice) (now : Time) :
    Decidable (ErpUnchanged client db tenant invoice now) :=
  match h : resyncOneInvoice client db tenant invoice now with
  | .error _ => isFalse fun ⟨_, _, hok, _⟩ => by rw [h] at hok; cases hok
  | .ok (updated, db') =>
    decidable_of_iff (updated.id = invoice.id ∧ updated.invoiceStatus = invoice.invoiceStatus ∧
        updated.amountDue = invoice.amountDue)
      ⟨fun hsame => ⟨updated, db', h, hsame⟩, fun ⟨_, _, hok, hsame⟩ => by rw [h] at hok; cases hok; exact hsame⟩

/-- What the two pages of a tenant offer to pay passes the server's checks. -/
structure OffersPass (client : PlatformErpClient) (db : Db) (tenant : Tenant) (baseUrl : Option String) (now : Time) :
    Prop where
  workspace : (buildWorkspace db tenant baseUrl now).actions.canCreatePaymentAttempt = true →
    ∃ invoice, (openInvoices db tenant.id).head? = some invoice ∧ paymentChecks client db tenant invoice now = .ok ()
  detail : ∀ invoice ∈ db.invoicesOf tenant.id,
    (buildInvoiceDetail db invoice tenant baseUrl now).availableActions.canPay = true →
      paymentChecks client db tenant invoice now = .ok ()

/-- Something is due for the invoice and its latest attempt is not active. -/
def Db.awaitsPayment (db : Db) (invoice : BillingInvoice) : Prop :=
  0 < invoice.amountDue ∧
    ∀ attempt ∈ latestPaymentAttempt (db.attemptsOf invoice.id), attempt.status ∉ activePaymentAttemptStates

instance (db : Db) (invoice : BillingInvoice) : Decidable (db.awaitsPayment invoice) := by
  unfold Db.awaitsPayment
  infer_instance

section
variable {client : PlatformErpClient} {db : Db} {tenant : Tenant} {invoice : BillingInvoice} {now : Time}

/-- An invoice the ERP has as it is passes the checks by its own columns and attempts. -/
theorem paymentChecks_iff (h : ErpUnchanged client db tenant invoice now) :
    paymentChecks client db tenant invoice now = .ok () ↔
      invoice.invoiceStatus ∉ terminalInvoiceStates ∧ db.awaitsPayment invoice := by
  obtain ⟨updated, db', hresync, hid, hstatus, hdue⟩ := h
  obtain ⟨accounts, invoices, rfl⟩ := resyncOneInvoice_frame hresync
  have hchecks : paymentChecks client db tenant invoice now =
      checkPayable { db with accounts := accounts, invoices := invoices } updated := by
    unfold paymentChecks
    rw [hresync]
    rfl
  have hpayable : invoiceIsPayable updated = true ↔
      invoice.invoiceStatus ∉ terminalInvoiceStates ∧ 0 < invoice.amountDue := by
    unfold invoiceIsPayable
    rw [hstatus, hdue, decide_eq_true_eq]
  have hactive : (∃ attempt ∈ latestPaymentAttempt (db.attemptsOf invoice.id),
      attempt.status ∈ activePaymentAttemptStates) ↔ ¬∀ attempt ∈ latestPaymentAttempt (db.attemptsOf invoice.id),
        attempt.status ∉ activePaymentAttemptStates := by
    push Not
    rfl
  rw [hchecks]
  unfold checkPayable Db.awaitsPayment
  rw [show Db.attemptsOf { db with accounts := accounts, invoices := invoices } updated.id = db.attemptsOf invoice.id by
    rw [hid]; rfl]
  by_cases hp : invoiceIsPayable updated = true
  · obtain ⟨hopen, hpos⟩ := hpayable.1 hp
    rw [if_neg (not_not.2 hp)]
    by_cases ha : ∃ attempt ∈ latestPaymentAttempt (db.attemptsOf invoice.id),
        attempt.status ∈ activePaymentAttemptStates
    · rw [if_pos ha]
      exact ⟨fun h => (by cases h), fun h => absurd h.2.2 (hactive.1 ha)⟩
    · rw [if_neg ha]
      exact iff_of_true rfl ⟨hopen, hpos, not_not.1 fun h => ha (hactive.2 h)⟩
  · rw [if_pos hp]
    exact ⟨fun h => (by cases h), fun h => absurd (hpayable.2 ⟨h.1, h.2.1⟩) hp⟩

/-- The detail page offers every invoice whose status is not terminal. -/
theorem canPay_iff (baseUrl : Option String) :
    (buildInvoiceDetail db invoice tenant baseUrl now).availableActions.canPay = true ↔
      invoice.invoiceStatus ∉ terminalInvoiceStates := by
  unfold buildInvoiceDetail buildInvoiceSummary
  dsimp only
  rw [decide_eq_true_eq]
  by_cases hempty : invoice.invoiceStatus = .other ""
  · rw [if_pos hempty, hempty]
    decide
  · rw [if_neg hempty]

theorem mem_openInvoices : invoice ∈ openInvoices db tenant.id ↔
    invoice ∈ db.invoicesOf tenant.id ∧ invoice.invoiceStatus ∉ terminalInvoiceStates := by
  unfold openInvoices sortedInvoices sortedLatestFirst
  rw [List.mem_filter, List.mem_insertionSort, decide_eq_true_eq]

/-- The workspace offers a payment of its first open invoice, whatever that invoice's own attempts. -/
theorem canCreatePaymentAttempt_open {baseUrl : Option String}
    (h : (buildWorkspace db tenant baseUrl now).actions.canCreatePaymentAttempt = true) :
    ∃ invoice, (openInvoices db tenant.id).head? = some invoice := by
  unfold buildWorkspace at h
  dsimp only at h
  exact Option.isSome_iff_exists.1 (Bool.and_eq_true_iff.1 h).1

end

/-- While the ERP has the tenant's invoices as they are, what the pages offer to pay passes the server's checks when every
open invoice awaits a payment, and only then. -/
theorem offers_pass_iff (client : PlatformErpClient) (db : Db) (tenant : Tenant) (baseUrl : Option String) (now : Time)
    (hsynced : ∀ invoice ∈ db.invoicesOf tenant.id, ErpUnchanged client db tenant invoice now) :
    OffersPass client db tenant baseUrl now ↔
      ∀ invoice ∈ db.invoicesOf tenant.id, invoice.invoiceStatus ∉ terminalInvoiceStates →
        db.awaitsPayment invoice := by
  constructor
  · intro h invoice hinvoice hopen
    have hpass := h.detail invoice hinvoice ((canPay_iff baseUrl).2 hopen)
    exact ((paymentChecks_iff (hsynced invoice hinvoice)).1 hpass).2
  · intro h
    have hpass : ∀ invoice ∈ db.invoicesOf tenant.id, invoice.invoiceStatus ∉ terminalInvoiceStates →
        paymentChecks client db tenant invoice now = .ok () := by
      intro invoice hinvoice hopen
      exact (paymentChecks_iff (hsynced invoice hinvoice)).2 ⟨hopen, h invoice hinvoice hopen⟩
    constructor
    · intro hoffer
      obtain ⟨invoice, hhead⟩ := canCreatePaymentAttempt_open hoffer
      obtain ⟨hinvoice, hopen⟩ := mem_openInvoices.1 (List.mem_of_head? hhead)
      exact ⟨invoice, hhead, hpass invoice hinvoice hopen⟩
    · intro invoice hinvoice hoffer
      exact hpass invoice hinvoice ((canPay_iff baseUrl).1 hoffer)

namespace Small

/-- A tenant that is a customer of the ERP. -/
def acme : Tenant :=
  { id := 1, ownerId := 1, organizationId := some 1, subdomain := "acme", domain := "acme.example.com"
    siteName := "acme.example.com", companyName := "Acme", status := .pending, paymentProvider := "stripe"
    paymentChannel := none, dpoTransactionToken := none, platformCustomerId := some "CUST-1", updatedAt := 1002 }

def attempt : PaymentAttempt :=
  { id := 1, tenantId := 1, subscriptionId := some 1, billingInvoiceId := 1, provider := "stripe"
    providerReference := some "cs_1", amount := 5000, currency := "TZS", status := .checkoutStarted
    failureReason := none, checkoutUrl := some "https://pay.example.com/cs_1", snapshot := ⟨none, none, none, none⟩
    createdAt := 1000, updatedAt := 1000 }

/-- A checkout of the first invoice is under way; a later one, for an invoice that is due earlier, has failed. -/
def crossedAttempts : Db :=
  { linked.db with
    invoices := [{ invoice with dueDate := some 9000 },
      { invoice with id := 2, erpInvoiceId := none, invoiceNumber := none, dueDate := some 8000 }]
    attempts := [attempt, { attempt with id := 2, billingInvoiceId := 2, status := .failed, updatedAt := 1500 }] }

end Small

set_option maxRecDepth 100000 in
/-- Nothing of the tenant's only invoice is under way, and the ERP has it as the row. -/
theorem linked_offers_pass :
    OffersPass ((Small.openErpAt 1).erp 0) Small.linked.db Small.acme none 2000 :=
  (offers_pass_iff ((Small.openErpAt 1).erp 0) Small.linked.db Small.acme none 2000 (by decide +kernel)).2
    (by decide +kernel)

set_option maxRecDepth 100000 in
/-- Both pages offer to pay the first invoice, the ERP is as it was, and the server refuses. -/
theorem crossedAttempts_offer_refused :
    (buildWorkspace Small.crossedAttempts Small.acme none 2000).actions.canCreatePaymentAttempt = true ∧
      (openInvoices Small.crossedAttempts Small.acme.id).head?.map BillingInvoice.id = some 1 ∧
      ∀ invoice ∈ Small.crossedAttempts.invoices.take 1,
        ErpUnchanged Small.erp Small.crossedAttempts Small.acme invoice 2000 ∧
        (buildInvoiceDetail Small.crossedAttempts invoice Small.acme none 2000).availableActions.canPay = true ∧
        paymentChecks Small.erp Small.crossedAttempts Small.acme invoice 2000 =
          .error (.invoicePaymentError "billing_payment_attempt_already_active") := by
  decide +kernel

end ControlPlane
