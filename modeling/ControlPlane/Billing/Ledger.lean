import ControlPlane.Billing.Delivery
import ControlPlane.Billing.Filing
import ControlPlane.Workers.Watched

/-!
# The ledger

Accounts, invoices and payment attempts, and the few ways in which the programs write them: an invoice is resynced from
the ERP or settled, an attempt is marked, a tenant's invoices are synced, and a new attempt is made.  Everything else
leaves the ledger as it is.
-/

namespace ControlPlane

open Table Session Session.Proc

/-- Two databases with one ledger. -/
structure SameLedger (db db' : Db) : Prop where
  accounts : db'.accounts = db.accounts
  invoices : db'.invoices = db.invoices
  attempts : db'.attempts = db.attempts

/-- Two databases in which every tenant is the same customer of the ERP. -/
def SameCustomers (db db' : Db) : Prop :=
  ∀ t, (db'.tenant? t).map Tenant.platformCustomerId = (db.tenant? t).map Tenant.platformCustomerId

namespace SameLedger

theorem refl (db : Db) : SameLedger db db := ⟨rfl, rfl, rfl⟩

theorem trans {db db' db'' : Db} (h : SameLedger db db') (h' : SameLedger db' db'') : SameLedger db db'' :=
  ⟨h'.accounts.trans h.accounts, h'.invoices.trans h.invoices, h'.attempts.trans h.attempts⟩

end SameLedger

namespace SameCustomers

theorem of_tenants {db db' : Db} (h : db'.tenants = db.tenants) : SameCustomers db db' := by
  intro t
  unfold Db.tenant?
  rw [h]

theorem trans {db db' db'' : Db} (h : SameCustomers db db') (h' : SameCustomers db' db'') : SameCustomers db db'' :=
  fun t => (h' t).trans (h t)

theorem symm {db db' : Db} (h : SameCustomers db db') : SameCustomers db' db := fun t => (h t).symm

/-- A write of a tenant's row that leaves its customer id. -/
theorem put {db db' : Db} {tenant row : Tenant} (htenant : db.tenant? tenant.id = some tenant)
    (h : db'.tenants = Table.put db.tenants row) (hid : row.id = tenant.id)
    (hcustomer : row.platformCustomerId = tenant.platformCustomerId) : SameCustomers db db' := by
  intro t
  unfold Db.tenant? at htenant ⊢
  rw [h, get?_put]
  show Option.map _ (if t = row.id then _ else _) = _
  split
  · rename_i ht
    rw [ht, hid, htenant]
    exact congrArg some hcustomer
  · rfl

end SameCustomers

/-- An attempt as a provider's event or a reconciliation marks it: no attempt becomes active that way, and its invoice,
tenant and amount stay. -/
structure Marked (attempt marked : PaymentAttempt) : Prop where
  id : marked.id = attempt.id
  tenant : marked.tenantId = attempt.tenantId
  invoice : marked.billingInvoiceId = attempt.billingInvoiceId
  amount : marked.amount = attempt.amount
  status : marked.status ∈ [AttemptStatus.paid, .failed, .reconciliationRequired]

/-- An attempt whose payment was confirmed. -/
def paidAttempt (attempt : PaymentAttempt) (provider : String) (now : Time) : PaymentAttempt :=
  mergeProviderResponseSnapshot { attempt with
    provider := if provider = "" then attempt.provider else provider, failureReason := none, status := .paid }
    .paymentConfirmed now

/-- An attempt whose payment failed. -/
def failedAttempt (attempt : PaymentAttempt) (provider : String) (raw : Json) (now : Time) : PaymentAttempt :=
  mergeProviderResponseSnapshot { attempt with
    provider := if provider = "" then attempt.provider else provider
    status := .failed, failureReason := some (providerFailureReason raw) } .paymentFailed now

theorem marked_paidAttempt (attempt : PaymentAttempt) (provider : String) (now : Time) :
    Marked attempt (paidAttempt attempt provider now) := ⟨rfl, rfl, rfl, rfl, List.mem_cons_self ..⟩

theorem marked_failedAttempt (attempt : PaymentAttempt) (provider : String) (raw : Json) (now : Time) :
    Marked attempt (failedAttempt attempt provider raw now) :=
  ⟨rfl, rfl, rfl, rfl, List.mem_cons_of_mem _ (List.mem_cons_self ..)⟩

/-- An invoice as a confirmed payment leaves it: settled locally, or with a new stage, and with its reference, tenant and
account. -/
structure Settled (invoice settled : BillingInvoice) : Prop where
  id : settled.id = invoice.id
  tenant : settled.tenantId = invoice.tenantId
  account : settled.billingAccountId = invoice.billingAccountId
  subscription : settled.subscriptionId = invoice.subscriptionId
  reference : settled.erpInvoiceId = invoice.erpInvoiceId
  number : settled.invoiceNumber = invoice.invoiceNumber
  created : settled.createdAt = invoice.createdAt
  columns : settled = { invoice with collectionStage := some "settled" } ∨
    ∃ amount now, settled = settleInvoiceLocally invoice amount now

/-! ### Which rows an event works on -/

theorem mem_attempts_of_resolved {db : Db} {provider : String} {tenantId : Option Nat} {subscriptionId : Option String}
    {raw : Json} {attempt : PaymentAttempt}
    (h : (resolveInvoiceBackedContext db provider tenantId subscriptionId raw).paymentAttempt = some attempt) :
    attempt ∈ db.attempts ∧ ∀ t ∈ tenantId, attempt.tenantId = t := by
  have hfor : ∀ t provider, attempt ∈ attemptsFor db provider t →
      attempt ∈ db.attempts ∧ ∀ t' ∈ t, attempt.tenantId = t' := by
    intro t provider hmem
    obtain ⟨hmem, hcond⟩ := List.mem_filter.1 hmem
    exact ⟨hmem, (of_decide_eq_true hcond).2⟩
  unfold resolveInvoiceBackedContext at h
  rcases Option.or_eq_some_iff.1 h with h | ⟨-, h⟩
  · exact hfor _ _ (List.mem_filter.1 (mem_of_latestBy h)).1
  · obtain ⟨t, ht, h⟩ := Option.bind_eq_some_iff.1 h
    unfold latestPaymentAttemptForTenant at h
    rw [ht]
    rcases Option.or_eq_some_iff.1 h with h | ⟨-, h⟩
    · exact hfor _ _ (List.mem_filter.1 (mem_of_latestBy h)).1
    · exact hfor _ _ (mem_of_latestBy h)

/-- The attempt an event is about belongs to the event's tenant. -/
theorem resolved_attempt_tenant {db : Db} {provider : String} {tenantId : Option Nat} {subscriptionId : Option String}
    {raw : Json} {attempt : PaymentAttempt} {tenant : Tenant}
    (hattempt : (resolveInvoiceBackedContext db provider tenantId subscriptionId raw).paymentAttempt = some attempt)
    (htenant : (resolveInvoiceBackedContext db provider tenantId subscriptionId raw).tenant = some tenant) :
    attempt.tenantId = tenant.id := by
  have hmem := (mem_attempts_of_resolved hattempt).2
  have htenant' : (tenantId.bind db.tenant?).or
      ((resolveInvoiceBackedContext db provider tenantId subscriptionId raw).paymentAttempt.bind
        fun a => db.tenant? a.tenantId) = some tenant := htenant
  rw [hattempt] at htenant'
  rcases Option.or_eq_some_iff.1 htenant' with h | ⟨-, h⟩
  · obtain ⟨t, ht, hrow⟩ := Option.bind_eq_some_iff.1 h
    rw [hmem t ht, Db.tenant?_id hrow]
  · exact (Db.tenant?_id h).symm

/-! ### Settling an attempt's invoice -/

/-- The row an item was filed in is the one its id finds. -/
theorem upsertBillingInvoiceFromErpItem_row {db db' : Db} {tenant : Tenant} {account : BillingAccount} {item : ErpItem}
    {now : Time} {invoice : BillingInvoice}
    (h : upsertBillingInvoiceFromErpItem db.invoices db tenant account item now = .ok (invoice, db')) :
    db'.invoice? invoice.id = some invoice := by
  obtain ⟨-, db₁, found, due, paid, hfound, hinvoice, rfl⟩ := upsertBillingInvoiceFromErpItem_ok h
  have hid : invoice.id = found.id := by rw [hinvoice]; rfl
  have hrow : ∃ row, db₁.invoice? found.id = some row := by
    unfold findOrAddInvoice at hfound
    split at hfound
    · rename_i row hrow
      cases hfound
      have hmem := List.mem_of_find?_eq_some hrow
      cases hget : db.invoice? row.id with
      | some r =>
        refine ⟨r, ?_⟩
        show db.invoice? r.id = some r
        rw [show r.id = row.id from key_of_get? hget, hget]
      | none =>
        unfold Db.invoice? get? at hget
        have := List.find?_eq_none.1 hget row hmem
        simp [key] at this
    · cases hfound
      exact ⟨_, get?_insert_self (get?_fresh db.invoices)⟩
  obtain ⟨row, hrow⟩ := hrow
  unfold Db.invoice? Db.putInvoice
  rw [← hid] at hrow
  exact get?_put_self hrow

/-- The invoice a resync gives back is a row of the database. -/
theorem resyncOneInvoice_row {client : PlatformErpClient} {db db' : Db} {tenant : Tenant}
    {invoice updated : BillingInvoice} {now : Time} (hrow : db.invoice? invoice.id = some invoice)
    (h : resyncOneInvoice client db tenant invoice now = .ok (updated, db')) :
    db'.invoice? updated.id = some updated := by
  rcases resyncOneInvoice_ok h with ⟨rfl, rfl | rfl⟩ | ⟨customerId, item, -, -, -, hupsert, -⟩
  · exact hrow
  · unfold Db.invoice?
    rw [ensureBillingAccount_invoices]
    exact hrow
  · exact upsertBillingInvoiceFromErpItem_row hupsert

/-- What a settlement does to an attempt's invoice: it is resynced, or not, and then settled. -/
def SettledInvoice (client : PlatformErpClient) (tenant : Tenant) (now : Time) (attempt : PaymentAttempt) (db db' : Db) :
    Prop :=
  db.invoice? attempt.billingInvoiceId = none ∧ db' = db ∨
    ∃ invoice updated settled db₁, db.invoice? attempt.billingInvoiceId = some invoice ∧
      (updated = invoice ∧ db₁ = db ∨ resyncOneInvoice client db tenant invoice now = .ok (updated, db₁)) ∧
      Settled updated settled ∧ db' = db₁.putInvoice settled

theorem SettledInvoice.frame {client : PlatformErpClient} {tenant : Tenant} {now : Time} {attempt : PaymentAttempt}
    {db db' : Db} (h : SettledInvoice client tenant now attempt db db') :
    db'.tenants = db.tenants ∧ db'.attempts = db.attempts := by
  rcases h with ⟨-, rfl⟩ | ⟨invoice, updated, settled, db₁, -, hupdated, -, rfl⟩
  · exact ⟨rfl, rfl⟩
  · rcases hupdated with ⟨-, rfl⟩ | hresync
    · exact ⟨rfl, rfl⟩
    · obtain ⟨accounts, invoices, rfl⟩ := resyncOneInvoice_frame hresync
      exact ⟨rfl, rfl⟩

theorem settleInvoiceOf_ok {client : PlatformErpClient} {db db' : Db} {tenant : Tenant} {attempt : PaymentAttempt}
    {now : Time} (h : settleInvoiceOf client db tenant attempt now = .ok db') :
    SettledInvoice client tenant now attempt db db' := by
  unfold settleInvoiceOf at h
  split at h
  · rename_i hnone
    cases h
    exact Or.inl ⟨hnone, rfl⟩
  · rename_i invoice hinvoice
    obtain ⟨⟨settled, db₁⟩, hsettle, h⟩ := bind_eq_ok.1 h
    cases h
    unfold settleInvoice at hsettle
    split at hsettle
    · obtain ⟨⟨updated, db₂⟩, hresync, hsettle⟩ := bind_eq_ok.1 hsettle
      cases hsettle
      refine Or.inr ⟨invoice, updated, _, _, hinvoice, Or.inr hresync, ?_, rfl⟩
      split
      · exact ⟨rfl, rfl, rfl, rfl, rfl, rfl, rfl, Or.inl rfl⟩
      · exact ⟨rfl, rfl, rfl, rfl, rfl, rfl, rfl, Or.inr ⟨_, _, rfl⟩⟩
    · cases hsettle
      refine Or.inr ⟨invoice, invoice, _, _, hinvoice, Or.inl ⟨rfl, rfl⟩, ?_, rfl⟩
      exact ⟨rfl, rfl, rfl, rfl, rfl, rfl, rfl, Or.inr ⟨_, _, rfl⟩⟩

/-! ### What an event does to the ledger -/

/-- What an event does to the ledger: nothing, or it marks the attempt it is about, having settled its invoice if the
payment was confirmed. -/
inductive EventLedger (provider : String) (event : WebhookEvent) (now : Time) (client : PlatformErpClient)
    (db db' : Db) : Prop where
  | untouched (h : SameLedger db db')
  | failed (attempt : PaymentAttempt) (type : event.eventType = .paymentFailed)
      (resolved : (resolveInvoiceBackedContext db provider event.tenantId event.subscriptionId
        event.raw).paymentAttempt = some attempt)
      (h : SameLedger (db.putAttempt (failedAttempt attempt provider event.raw now)) db')
  | settled (attempt : PaymentAttempt) (tenant paying : Tenant) (ensured settledDb : Db)
      (type : event.eventType = .paymentConfirmed)
      (resolved : (resolveInvoiceBackedContext db provider event.tenantId event.subscriptionId
        event.raw).paymentAttempt = some attempt)
      (resolvedTenant : (resolveInvoiceBackedContext db provider event.tenantId event.subscriptionId
        event.raw).tenant = some tenant)
      (paying_eq : paying.id = tenant.id ∧ paying.platformCustomerId = tenant.platformCustomerId)
      (ensured_eq : SameLedger db ensured) (customers : SameCustomers db ensured)
      (settle : SettledInvoice client paying now attempt ensured settledDb)
      (h : SameLedger (settledDb.putAttempt (paidAttempt attempt provider now)) db')

/-- What a settlement does to the ledger, for the attempt it is about. -/
theorem settleInvoiceBackedPaymentConfirmation_ledger {client : PlatformErpClient} {db db' : Db} {tenant : Tenant}
    {subscription : Subscription} {attempt : Option PaymentAttempt} {provider : String} {now : Time}
    (h : settleInvoiceBackedPaymentConfirmation client db tenant subscription attempt provider now = .ok db') :
    attempt = none ∧ db' = db ∨ ∃ a settled, attempt = some a ∧ SettledInvoice client tenant now a db settled ∧
      SameLedger (settled.putAttempt (paidAttempt a provider now)) db' := by
  unfold settleInvoiceBackedPaymentConfirmation at h
  split at h
  · cases h
    exact Or.inl ⟨rfl, rfl⟩
  · rename_i a
    obtain ⟨settled, hsettle, h⟩ := bind_eq_ok.1 h
    cases h
    exact Or.inr ⟨a, settled, rfl, settleInvoiceOf_ok hsettle, ⟨rfl, rfl, rfl⟩⟩

theorem settleInvoiceBackedPaymentConfirmation_some {client : PlatformErpClient} {db db' : Db} {tenant : Tenant}
    {subscription : Subscription} {attempt : PaymentAttempt} {provider : String} {now : Time}
    (h : settleInvoiceBackedPaymentConfirmation client db tenant subscription (some attempt) provider now = .ok db') :
    ∃ settled, settleInvoiceOf client db tenant attempt now = .ok settled ∧ db'.invoices = settled.invoices ∧
      db'.attempts = put db.attempts (paidAttempt attempt provider now) := by
  obtain ⟨settled, hsettle, h⟩ := bind_eq_ok.1 h
  obtain ⟨accounts, invoices, rfl⟩ := settleInvoiceOf_frame hsettle
  cases h
  exact ⟨_, hsettle, rfl, rfl⟩

theorem eventBody_ledger {provider : String} {event : WebhookEvent} {now : Time} {client : PlatformErpClient}
    {db db' : Db} {handled : Handled} (h : eventBody provider event now client db = .ok (handled, db')) :
    EventLedger provider event now client db db' := by
  have hsame : ∀ {d : Db} {s : Subscription} {t : Tenant}, SameLedger d ((d.putSubscription s).putTenant t) :=
    ⟨rfl, rfl, rfl⟩
  unfold eventBody at h
  split at h
  · rename_i htype
    rcases confirmPayment_ok h with ⟨m, -, rfl, -⟩ | ⟨_, tenant, paying, paid, s, activated, ensured, settled, -, hc⟩
    · exact .untouched (.refl _)
    · obtain ⟨plans, subscriptions, hensured⟩ := hc.ensured_eq
      have hledger : SameLedger db ensured := by rw [hensured]; exact ⟨rfl, rfl, rfl⟩
      have hcustomers : SameCustomers db ensured := by rw [hensured]; exact .of_tenants rfl
      rcases settleInvoiceBackedPaymentConfirmation_ledger hc.settled_eq with
        ⟨-, hdb⟩ | ⟨attempt, settledDb, hattempt, hsettle, hput⟩
      · rw [hc.rows, hdb]
        exact .untouched (hledger.trans hsame)
      · rw [hc.rows]
        exact .settled attempt tenant paying ensured settledDb htype hattempt hc.resolved hc.paying_eq hledger hcustomers
          hsettle (hput.trans hsame)
  · rename_i htype
    rcases failPayment_ok h with ⟨m, -, rfl, -⟩ | ⟨_, tenant, paying, failed, s, pastDue, ensured, -, hf⟩
    · exact .untouched (.refl _)
    · obtain ⟨plans, subscriptions, hensured⟩ := hf.ensured_eq
      have hledger : SameLedger db ensured := by rw [hensured]; exact ⟨rfl, rfl, rfl⟩
      rw [hf.rows]
      unfold applyInvoiceBackedPaymentFailure
      split
      · exact .untouched (hledger.trans hsame)
      · rename_i attempt hattempt
        refine .failed attempt htype hattempt ⟨hledger.accounts, hledger.invoices, ?_⟩
        rw [hensured]
        rfl
  · rcases cancelSubscription_parts h with ⟨m, -, rfl, -⟩ | ⟨_, _, _, _, _, _, -, -, hsub, -, -, rfl⟩
    · exact .untouched (.refl _)
    · obtain ⟨-, plans, subscriptions, rfl⟩ := ensureSubscription_ok hsub
      exact .untouched ⟨rfl, rfl, rfl⟩
  · cases h
    exact .untouched (.refl _)

/-! ### What a reconciliation does to the ledger -/

theorem openBillingException_ledger {db db' : Db} {tenant : Tenant} {subscription : Option Subscription}
    {invoice : BillingInvoice} {attempt : Option PaymentAttempt} {exceptionType reason : String} {now : Time}
    {opened : Nat}
    (h : openBillingException db tenant subscription invoice attempt exceptionType reason now = (opened, db')) :
    SameLedger db db' := by
  obtain ⟨exceptions, rfl⟩ := openBillingException_frame h
  exact ⟨rfl, rfl, rfl⟩

/-- A reconciliation marks at most the latest attempt of the invoice it looks at, with a status. -/
def MarksLatest (status : AttemptStatus) (invoice : BillingInvoice) (db db' : Db) : Prop :=
  SameLedger db db' ∨ ∃ attempt marked, latestPaymentAttempt (db.attemptsOf invoice.id) = some attempt ∧
    (Marked attempt marked ∧ marked.status = status) ∧ SameLedger (db.putAttempt marked) db'

theorem reconcileSettledInvoice_ledger {client : PlatformErpClient} {db db' : Db} {tenant : Tenant}
    {subscription : Option Subscription} {invoice : BillingInvoice} {result result' : InvoiceReconciliationResult}
    {now : Time} {email : Option String}
    (h : reconcileSettledInvoice client db tenant subscription invoice
      (latestPaymentAttempt (db.attemptsOf invoice.id)) result now = .ok ((result', email), db')) :
    MarksLatest .paid invoice db db' := by
  have hpaid : ∀ attempt' updated db₁, payAttemptFromErp db (latestPaymentAttempt (db.attemptsOf invoice.id)) invoice
      now = (attempt', updated, db₁) → MarksLatest .paid invoice db db₁ := by
    intro attempt' updated db₁ hpay
    unfold payAttemptFromErp at hpay
    split at hpay
    · rename_i attempt hattempt
      split at hpay
      · cases hpay
        refine Or.inr ⟨attempt, _, hattempt, ?_, .refl _⟩
        exact ⟨⟨rfl, rfl, rfl, rfl, List.mem_cons_self ..⟩, rfl⟩
      · cases hpay
        exact Or.inl (.refl _)
    · cases hpay
      exact Or.inl (.refl _)
  have hthen : ∀ {db₁ db₂ : Db}, MarksLatest .paid invoice db db₁ → SameLedger db₁ db₂ → MarksLatest .paid invoice db db₂ := by
    rintro db₁ db₂ (h | ⟨attempt, marked, hlatest, hmark, h⟩) hsame
    · exact Or.inl (h.trans hsame)
    · exact Or.inr ⟨attempt, marked, hlatest, hmark, h.trans hsame⟩
  obtain ⟨paid, updated, resolved, db₁, db₂, hpay, hresolve, -, hcases⟩ := reconcileSettledInvoice_parts rfl h
  have hmarks := hpaid _ _ _ hpay
  cases hresolve
  have hresolved : SameLedger db₁ (resolveBillingExceptions db₁ tenant.id invoice.id now).2 := ⟨rfl, rfl, rfl⟩
  rcases hcases with ⟨-, -, opened, db₃, hopen, rfl⟩ | ⟨s, activated, outcome, -, -, -, -, -, rfl⟩
  · exact hthen hmarks (hresolved.trans ((openBillingException_ledger hopen).trans ⟨rfl, rfl, rfl⟩))
  · exact hthen hmarks (hresolved.trans ⟨rfl, rfl, rfl⟩)

theorem reconcileUnsettledInvoice_ledger {db db' : Db} {tenant : Tenant} {subscription : Option Subscription}
    {invoice : BillingInvoice} {result result' : InvoiceReconciliationResult} {now : Time} {email : Option String}
    (h : reconcileUnsettledInvoice db tenant subscription invoice (latestPaymentAttempt (db.attemptsOf invoice.id))
      result now = ((result', email), db')) : MarksLatest .reconciliationRequired invoice db db' := by
  unfold reconcileUnsettledInvoice at h
  split at h
  · rename_i attempt hattempt
    split at h
    · dsimp only at h
      generalize hopen : openBillingException _ tenant subscription invoice _ "erp_mismatch" _ now = p at h
      obtain ⟨opened, db₁⟩ := p
      cases h
      refine Or.inr ⟨attempt, _, hattempt, ?_, (openBillingException_ledger hopen).trans ⟨rfl, rfl, rfl⟩⟩
      refine ⟨⟨rfl, rfl, rfl, rfl, ?_⟩, rfl⟩
      exact List.mem_cons_of_mem _ (List.mem_cons_of_mem _ (List.mem_cons_self ..))
    · cases h
      exact Or.inl (.refl _)
  · cases h
    exact Or.inl (.refl _)

/-- What reconciling an invoice does to the ledger: the invoice is resynced, and the latest attempt of the invoice that
comes back is marked, or none. -/
theorem reconcileInvoice_ledger {tenantId invoiceId : Nat} {now : Time} {client : PlatformErpClient} {db db' : Db}
    {result : InvoiceReconciliationResult} {email : Option String}
    (h : reconcileInvoice tenantId invoiceId now client db = .ok ((result, email), db')) :
    ∃ tenant invoice updated db₁, db.tenant? tenantId = some tenant ∧ db.invoice? invoiceId = some invoice ∧
      resyncOneInvoice client db tenant invoice now = .ok (updated, db₁) ∧
        MarksLatest (if reconciledInvoiceIsSettled updated then .paid else .reconciliationRequired) updated db₁ db' := by
  obtain ⟨tenant, htenant, h⟩ := bind_eq_ok.1 h
  obtain ⟨invoice, hinvoice, h⟩ := bind_eq_ok.1 h
  obtain ⟨⟨updated, db₁⟩, hresync, h⟩ := bind_eq_ok.1 h
  refine ⟨tenant, invoice, updated, db₁, requireTenant_ok htenant, requireInvoiceRow_ok hinvoice, hresync, ?_⟩
  dsimp only at h
  split at h
  · rename_i hsettled
    rw [if_pos hsettled]
    exact reconcileSettledInvoice_ledger h
  · rename_i hsettled
    rw [if_neg hsettled]
    exact reconcileUnsettledInvoice_ledger (Except.ok.inj h)

/-! ### What a new attempt does to the ledger -/

theorem addPaymentAttempt_ledger (db : Db) (tenant : Tenant) (invoice : BillingInvoice) (checkout : CheckoutResult)
    (now : Time) :
    SameLedger { db with attempts := insert db.attempts (newPaymentAttempt db tenant invoice checkout now) }
      (addPaymentAttempt db tenant invoice checkout now) := by
  unfold addPaymentAttempt
  dsimp only
  split
  · exact ⟨rfl, rfl, rfl⟩
  · exact ⟨rfl, rfl, rfl⟩

theorem addPaymentAttempt_customers {db : Db} {tenant : Tenant} (invoice : BillingInvoice) (checkout : CheckoutResult)
    (now : Time) (hrow : db.tenant? tenant.id = some tenant) :
    SameCustomers db (addPaymentAttempt db tenant invoice checkout now) := by
  unfold addPaymentAttempt
  dsimp only
  split
  · exact .put hrow rfl rfl rfl
  · exact .put hrow rfl rfl rfl

/-- A new attempt is made for the invoice as the resync gives it back, if that is payable and the provider is the
gateway's. -/
theorem preparePaymentAttempt_ledger {gateway : PaymentGateway} {tenant : Tenant} {owner : User}
    {invoice : BillingInvoice} {provider : Option String} {now : Time} {client : PlatformErpClient} {db db' : Db}
    {attemptId : Nat}
    (h : preparePaymentAttempt gateway tenant owner invoice provider now client db = .ok (attemptId, db')) :
    ∃ updated db₁ checkout, resyncOneInvoice client db tenant invoice now = .ok (updated, db₁) ∧
      checkPayable db₁ updated = .ok () ∧ checkProvider gateway tenant provider = .ok () ∧
      gateway.createInvoiceCheckout updated tenant owner = .ok checkout ∧
      db' = addPaymentAttempt db₁ tenant updated checkout now := by
  obtain ⟨⟨updated, db₁⟩, hresync, h⟩ := bind_eq_ok.1 h
  obtain ⟨u, hpayable, h⟩ := bind_eq_ok.1 h
  obtain ⟨u', hprovider, h⟩ := bind_eq_ok.1 h
  obtain ⟨checkout, hcheckout, h⟩ := bind_eq_ok.1 h
  cases h
  exact ⟨updated, db₁, checkout, hresync, hpayable, hprovider, hcheckout, rfl⟩

/-! ### Whose invoices a resync writes -/

/-- The invoices with some ids are a tenant's, as far as they are there. -/
def InvoicesBelong (ids : List Nat) (tenantId : Nat) (db : Db) : Prop :=
  ∀ id ∈ ids, ∀ invoice, db.invoice? id = some invoice → invoice.tenantId = tenantId

theorem InvoicesBelong.congr {ids : List Nat} {tenantId : Nat} {db db' : Db} (h : InvoicesBelong ids tenantId db)
    (heq : db'.invoices = db.invoices) : InvoicesBelong ids tenantId db' := by
  intro id hid invoice hrow
  unfold Db.invoice? at hrow
  rw [heq] at hrow
  exact h id hid invoice hrow

/-- An item filed for a tenant leaves the tenant's invoices its own. -/
theorem InvoicesBelong.upsert {ids : List Nat} {flushed : List BillingInvoice} {db db' : Db} {tenant : Tenant}
    {account : BillingAccount} {item : ErpItem} {now : Time} {invoice : BillingInvoice}
    (hb : InvoicesBelong ids tenant.id db)
    (h : upsertBillingInvoiceFromErpItem flushed db tenant account item now = .ok (invoice, db')) :
    InvoicesBelong ids tenant.id db' := by
  obtain ⟨-, db₁, found, due, paid, hfound, hinvoice, rfl⟩ := upsertBillingInvoiceFromErpItem_ok h
  have hb₁ : InvoicesBelong ids tenant.id db₁ := by
    unfold findOrAddInvoice at hfound
    split at hfound
    · cases hfound
      exact hb
    · cases hfound
      intro id hid row hrow
      unfold Db.invoice? at hrow
      rw [get?_insert] at hrow
      rcases Option.or_eq_some_iff.1 hrow with hrow | ⟨-, hrow⟩
      · exact hb id hid row hrow
      · split at hrow
        · cases hrow; rfl
        · cases hrow
  intro id hid row hrow
  unfold Db.invoice? Db.putInvoice at hrow
  dsimp only at hrow
  rw [get?_put] at hrow
  split at hrow
  · obtain ⟨old, -, rfl⟩ := Option.map_eq_some_iff.1 hrow
    rw [hinvoice]; rfl
  · exact hb₁ id hid row hrow

theorem InvoicesBelong.resync {ids : List Nat} {client : PlatformErpClient} {db db' : Db} {tenant : Tenant}
    {invoice updated : BillingInvoice} {now : Time} (hb : InvoicesBelong ids tenant.id db)
    (h : resyncOneInvoice client db tenant invoice now = .ok (updated, db')) : InvoicesBelong ids tenant.id db' := by
  have hb' : InvoicesBelong ids tenant.id (ensureBillingAccount db tenant).1 :=
    hb.congr (ensureBillingAccount_invoices db tenant)
  rcases resyncOneInvoice_ok h with ⟨-, rfl | rfl⟩ | ⟨customerId, item, -, -, -, hrow, -⟩
  · exact hb
  · exact hb'
  · exact hb'.upsert hrow

theorem InvoicesBelong.reconcile {ids : List Nat} {tenantId invoiceId : Nat} {now : Time} {client : PlatformErpClient}
    {db db' : Db} {r : InvoiceReconciliationResult × Option String} (hb : InvoicesBelong ids tenantId db)
    (h : reconcileInvoice tenantId invoiceId now client db = .ok (r, db')) : InvoicesBelong ids tenantId db' := by
  obtain ⟨result, email⟩ := r
  obtain ⟨tenant, invoice, updated, db₁, htenant, -, hresync, hmarks⟩ := reconcileInvoice_ledger h
  rw [← Db.tenant?_id htenant] at hb ⊢
  have hb₁ := hb.resync hresync
  rcases hmarks with hsame | ⟨attempt, marked, -, -, hsame⟩
  · exact hb₁.congr hsame.invoices
  · exact hb₁.congr hsame.invoices

end ControlPlane
