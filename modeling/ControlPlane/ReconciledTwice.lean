import ControlPlane.BillingExceptions
import ControlPlane.OldInvoices
import ControlPlane.PayingTenants
import ControlPlane.SyncedInvoices
import ControlPlane.Billing.Refreshes
import Mathlib.Data.List.Find

/-!
# Reconciling twice

A reconciliation that comes to a settled invoice records it as repaired and writes a billing event, whether or not it was
repaired before.  Where it comes to no such invoice, what the sync changes is what the resyncs change back, so that a
second reconciliation finds the books as the first one left them.
-/

namespace ControlPlane

open Table Session Session.Proc

/-- The books are as they were, up to the times of the syncs. -/
structure Db.SameBooks (db db' : Db) : Prop where
  invoices : db'.invoices.map BillingInvoice.unsynced = db.invoices.map BillingInvoice.unsynced
  attempts : db'.attempts = db.attempts
  subscriptions : db'.subscriptions = db.subscriptions
  statuses : ∀ t, db'.tenantStatus t = db.tenantStatus t
  exceptions : db'.exceptions = db.exceptions
  events : db'.events = db.events
  jobs : db'.jobs = db.jobs

/-- Reconciling a tenant changes nothing of the books, in the session or as committed, and reports nothing done. -/
def ReconcilesIdly (env : Env) (tenantId : Nat) (invoiceId : Option Nat) (s : DbSession) : Prop :=
  ∃ summary s', reconcileTenantBilling env tenantId invoiceId s = (.ok summary, s') ∧
    s.work.SameBooks s'.work ∧ s.saved.SameBooks s'.saved ∧
    summary.paymentAttemptsUpdated = 0 ∧ summary.entitlementRepairs = 0 ∧ summary.provisioningRequeues = 0

/-- The reconciliation goes over the invoice. -/
def BillingInvoice.InScope (tenantId : Nat) (invoiceId : Option Nat) (invoice : BillingInvoice) : Prop :=
  invoice.tenantId = tenantId ∧ ∀ id ∈ invoiceId, invoice.id = id

/-- What the ERP lists for a customer, as a reconciliation asks for it. -/
def PlatformErpClient.listed (client : PlatformErpClient) (customerId : Option String) : Except PyError (List ErpItem) :=
  match client.isConfigured, customerId with
  | true, some customerId => client.listInvoices customerId 50
  | _, _ => .ok []

/-- The item of a list that says what an invoice is. -/
def BillingInvoice.listedIn (invoice : BillingInvoice) (items : List ErpItem) : Option ErpItem :=
  invoice.erpInvoiceId.bind (lastListed items)

/-- Nothing of a tenant is left to reconcile: no invoice that the reconciliation goes over is settled or has a latest attempt
that is paid, and none that it passes over is listed as paid at no date, unless it was filed at the time that it is. -/
structure NothingDue (client : PlatformErpClient) (tenantId : Nat) (invoiceId : Option Nat) (now : Time) (db : Db) :
    Prop where
  unsettled : ∀ invoice ∈ db.invoices, invoice.InScope tenantId invoiceId → reconciledInvoiceIsSettled invoice = false
  unpaid : ∀ invoice ∈ db.invoices, invoice.InScope tenantId invoiceId →
    ∀ attempt ∈ latestPaymentAttempt (db.attemptsOf invoice.id), attempt.status ≠ .paid
  dated : ∀ invoice ∈ db.invoices, (∃ id ∈ invoiceId, invoice.id ≠ id) → ∀ tenant ∈ db.tenant? tenantId,
    ∀ items, client.listed tenant.customerId? = .ok items → ∀ item ∈ invoice.listedIn items,
      item.stampsPayment = true → invoice.paidAt = some now

/-! ### One invoice -/

/-- A subscription written with the tenant that it has is found for the same tenants as before. -/
theorem subscriptionOf_put_id {db db' : Db} {s row : Subscription} (hids : (db.subscriptions.map Subscription.id).Nodup)
    (hmem : s ∈ db.subscriptions) (hid : row.id = s.id) (htenant : row.tenantId = s.tenantId)
    (h : db'.subscriptions = put db.subscriptions row) (t : Nat) :
    (db'.subscriptionOf t).map Subscription.id = (db.subscriptionOf t).map Subscription.id := by
  have hrow : ∀ a ∈ db.subscriptions, key a = key row → a = s := fun a ha hkey =>
    List.inj_on_of_nodup_map hids ha hmem (hkey.trans hid)
  have hfind : (db.subscriptions.find? fun a => (if key a = key row then row else a).tenantId = t) =
      db.subscriptions.find? fun a => a.tenantId = t := by
    refine List.find?_congr fun a ha => ?_
    split
    · rename_i hkey
      rw [hrow a ha hkey, htenant]
    · rfl
  unfold Db.subscriptionOf put at *
  rw [h, List.find?_map, Option.map_map]
  show (db.subscriptions.find? fun a => (if key a = key row then row else a).tenantId = t).map _ = _
  rw [hfind]
  cases hfound : db.subscriptions.find? fun a => a.tenantId = t with
  | none => rfl
  | some a =>
    show some (if key a = key row then row else a).id = some a.id
    split
    · rename_i hkey
      rw [hrow a (List.mem_of_find?_eq_some hfound) hkey, hid]
    · rfl

theorem mem_of_subscriptionOfInvoice {db : Db} {tenant : Tenant} {invoice : BillingInvoice} {s : Subscription}
    (h : subscriptionOfInvoice db tenant invoice = some s) : s ∈ db.subscriptions := by
  rcases Option.or_eq_some_iff.1 h with hnamed | ⟨-, hown⟩
  · obtain ⟨id, -, hget⟩ := Option.bind_eq_some_iff.1 hnamed
    exact mem_of_get? hget
  · exact List.mem_of_find?_eq_some hown

/-- A tenant that is the same customer of the ERP has the same customer id. -/
theorem SameCustomers.customerId {db db' : Db} (h : SameCustomers db db') (t : Nat) :
    (db'.tenant? t).map Tenant.customerId? = (db.tenant? t).map Tenant.customerId? := by
  have hsame := congrArg (Option.map fun customerId => orText customerId none) (h t)
  rw [Option.map_map, Option.map_map] at hsame
  exact hsame

theorem recordReconciliationEvent_length (db : Db) (tenant : Tenant) (subscription : Option Subscription)
    (invoice : BillingInvoice) (attempt : Option PaymentAttempt) (eventType summary severity : String) (now : Time) :
    (recordReconciliationEvent db tenant subscription invoice attempt eventType summary severity now).events.length =
      db.events.length + 1 := by
  unfold recordReconciliationEvent Table.insert
  exact List.length_append

/-- A settled invoice is recorded as reconciled. -/
theorem reconcileSettledInvoice_events {client : PlatformErpClient} {db db' : Db} {tenant : Tenant}
    {subscription : Option Subscription} {invoice : BillingInvoice} {attempt : Option PaymentAttempt}
    {result result' : InvoiceReconciliationResult} {now : Time} {email : Option String}
    (h : reconcileSettledInvoice client db tenant subscription invoice attempt result now =
      .ok ((result', email), db')) : db'.events.length = db.events.length + 1 := by
  obtain ⟨paid, updated, resolved, db₁, db₂, hpay, hresolve, -, hcases⟩ := reconcileSettledInvoice_parts rfl h
  obtain ⟨attempts, rfl⟩ := payAttemptFromErp_frame hpay
  cases hresolve
  rcases hcases with ⟨-, -, opened, db₃, hopen, rfl⟩ | ⟨s, activated, outcome, -, -, -, -, -, rfl⟩
  · obtain ⟨exceptions, rfl⟩ := openBillingException_frame hopen
    exact recordReconciliationEvent_length ..
  · exact recordReconciliationEvent_length ..

/-- An unsettled invoice is put up for review if its attempt is paid, and else nothing is done. -/
theorem reconcileUnsettledInvoice_cases (db : Db) (tenant : Tenant) (subscription : Option Subscription)
    (invoice : BillingInvoice) (attempt : Option PaymentAttempt) (result : InvoiceReconciliationResult) (now : Time) :
    (∃ a ∈ attempt, a.status = .paid) ∧
        (reconcileUnsettledInvoice db tenant subscription invoice attempt result now).2.events.length =
          db.events.length + 1 ∨
      (∀ a ∈ attempt, a.status ≠ .paid) ∧
        reconcileUnsettledInvoice db tenant subscription invoice attempt result now = ((result, none), db) := by
  unfold reconcileUnsettledInvoice
  cases attempt with
  | none => exact Or.inr ⟨fun a ha => (by cases ha), rfl⟩
  | some attempt =>
    dsimp only
    by_cases hpaid : attempt.status = .paid
    · rw [if_pos hpaid]
      refine Or.inl ⟨⟨attempt, rfl, hpaid⟩, ?_⟩
      dsimp only
      rw [recordReconciliationEvent_length]
      generalize hopen : openBillingException _ tenant subscription invoice _ "erp_mismatch" _ now = p
      obtain ⟨opened, db₁⟩ := p
      obtain ⟨exceptions, rfl⟩ := openBillingException_frame hopen
      rfl
    · rw [if_neg hpaid]
      refine Or.inr ⟨fun a ha => ?_, rfl⟩
      cases ha
      exact hpaid

/-- Nothing is done about an invoice that the resync leaves unsettled with no latest attempt that is paid. -/
theorem reconcileInvoice_idle {tenantId invoiceId : Nat} {now : Time} {client : PlatformErpClient} {db db' : Db}
    {tenant : Tenant} {invoice updated : BillingInvoice} (htenant : db.tenant? tenantId = some tenant)
    (hinvoice : db.invoice? invoiceId = some invoice)
    (hresync : resyncOneInvoice client db tenant invoice now = .ok (updated, db'))
    (hunsettled : reconciledInvoiceIsSettled updated = false)
    (hunpaid : ∀ attempt ∈ latestPaymentAttempt (db'.attemptsOf updated.id), attempt.status ≠ .paid) :
    ∃ result : InvoiceReconciliationResult, reconcileInvoice tenantId invoiceId now client db = .ok ((result, none), db') ∧
      result.paymentAttemptUpdated = false ∧ result.entitlementRestored = false ∧ result.provisioningRequeued = false := by
  have hrequired : requireTenant db tenantId = .ok tenant := by
    unfold requireTenant
    rw [htenant]
  have hthere : requireInvoiceRow db invoiceId = .ok invoice := by
    unfold requireInvoiceRow
    rw [hinvoice]
  let attempt := latestPaymentAttempt (db'.attemptsOf updated.id)
  let result : InvoiceReconciliationResult :=
    { tenantId := tenant.id, invoiceId := updated.id, invoiceStatus := updated.invoiceStatus, settled := false
      paymentAttemptId := attempt.map PaymentAttempt.id
      paymentAttemptStatus := attempt.map PaymentAttempt.status, paymentAttemptUpdated := false
      entitlementRestored := false, provisioningRequeued := false, tenantStatusChanged := false
      exceptionsOpened := 0, exceptionsResolved := 0 }
  refine ⟨result, bind_eq_ok.2 ⟨tenant, hrequired, bind_eq_ok.2 ⟨invoice, hthere, bind_eq_ok.2 ⟨(updated, db'), hresync,
    ?_⟩⟩⟩, rfl, rfl, rfl⟩
  dsimp only
  rw [hunsettled, if_neg Bool.false_ne_true]
  rcases reconcileUnsettledInvoice_cases db' tenant (subscriptionOfInvoice db' tenant updated) updated attempt result now
    with ⟨⟨paid, hpaid, hstatus⟩, -⟩ | ⟨-, hsame⟩
  · exact absurd hstatus (hunpaid paid hpaid)
  · exact congrArg Except.ok hsame

/-! ### The sync of a reconciliation -/

/-- What the sync of a reconciliation leaves, with the items the ERP listed. -/
structure SyncedFor (client : PlatformErpClient) (tenant : Tenant) (now : Time) (items : List ErpItem) (db db' : Db) :
    Prop where
  listed : client.listed tenant.customerId? = .ok items
  readable : ∀ item ∈ items, item.reference ≠ "" ∧ ∃ amounts, item.amounts = .ok amounts
  customer : items ≠ [] → client.isConfigured = true ∧ tenant.customerId?.isSome = true
  filed : db'.InvoicesFiled
  frame : db' = { db with accounts := db'.accounts, invoices := db'.invoices }
  accounts : client.isConfigured = true → tenant.customerId?.isSome = true →
    db'.accounts = (ensureBillingAccount db tenant).1.accounts
  items : ItemsLeft db.invoices tenant (db.subscriptionOf tenant.id) (ensureBillingAccount db tenant).2 now items db db'

section

variable {client : PlatformErpClient} {tenant : Tenant} {tenantId : Nat} {now : Time} {items : List ErpItem} {db db' : Db}

/-- A sync that has nothing to list changes nothing. -/
theorem itemsLeft_nil {subscription : Option Subscription} {account : BillingAccount} (hF : db.InvoicesFiled) :
    ItemsLeft db.invoices tenant subscription account now [] db db where
  ids := hF.ids
  references := (List.append_nil _).symm
  entries _ := rfl
  rows _ row hrow := Or.inr ⟨by cases row.erpInvoiceId <;> rfl, hrow⟩

theorem syncForTenant_ok {u : Unit} (hF : db.InvoicesFiled) (htenant : db.tenant? tenantId = some tenant)
    (h : syncForTenant tenantId 50 now client db = .ok (u, db')) : ∃ items, SyncedFor client tenant now items db db' := by
  obtain ⟨tenant', htenant', h⟩ := bind_eq_ok.1 h
  rw [requireTenant_ok htenant'] at htenant
  obtain rfl := Option.some.inj htenant
  obtain ⟨⟨rows, db₁⟩, hsync, h⟩ := bind_eq_ok.1 h
  cases h
  have hidle : client.isConfigured = false ∨ tenant'.customerId? = none →
      ∃ items, SyncedFor client tenant' now items db db' := by
    intro hnone
    obtain ⟨hlisted, hstays⟩ : client.listed tenant'.customerId? = .ok [] ∧ db' = db := by
      unfold PlatformErpClient.listed
      unfold syncPlatformInvoicesForTenant at hsync
      rcases hnone with hnone | hnone
      · rw [hnone] at hsync ⊢
        cases hsync
        exact ⟨rfl, rfl⟩
      · rw [hnone] at hsync ⊢
        cases hconfigured : client.isConfigured with
        | true => rw [hconfigured] at hsync; cases hsync; exact ⟨rfl, rfl⟩
        | false => rw [hconfigured] at hsync; cases hsync; exact ⟨rfl, rfl⟩
    rw [hstays]
    refine ⟨[], hlisted, fun item hmem => (by cases hmem), fun hne => absurd rfl hne, hF, rfl, fun hconfigured hsome => ?_,
      itemsLeft_nil hF⟩
    rcases hnone with hnone | hnone
    · rw [hnone] at hconfigured
      cases hconfigured
    · rw [hnone] at hsome
      cases hsome
  cases hconfigured : client.isConfigured with
  | false => exact hidle (Or.inl hconfigured)
  | true =>
    cases hcustomer : tenant'.customerId? with
    | none => exact hidle (Or.inr hcustomer)
    | some customerId =>
      obtain ⟨items, hlisted⟩ : ∃ items, client.listInvoices customerId 50 = .ok items := by
        unfold syncPlatformInvoicesForTenant at hsync
        rw [hconfigured, hcustomer] at hsync
        obtain ⟨items, hlisted, -⟩ := bind_eq_ok.1 hsync
        exact ⟨items, hlisted⟩
      have hleft := syncPlatformInvoicesForTenant_left hF hconfigured hcustomer hlisted hsync
      obtain ⟨hitems, -⟩ := (syncPlatformInvoicesForTenant_eq_ok hconfigured hcustomer hlisted).1 hsync
      refine ⟨items, ?_, upsertItems_isOk.1 ⟨_, hitems⟩, fun _ => ⟨hconfigured, by rw [hcustomer]; rfl⟩, hleft.filed, ?_,
        fun _ _ => ?_, hleft.items⟩
      · unfold PlatformErpClient.listed
        rw [hconfigured, hcustomer]
        exact hlisted
      · have hframe := hleft.frame
        rw [hframe]
      · rw [hleft.frame]

/-- A list whose references are all filed is synced. -/
theorem syncForTenant_succeeds (hF : db.InvoicesFiled) (htenant : db.tenant? tenantId = some tenant)
    (hlisted : client.listed tenant.customerId? = .ok items)
    (hreadable : ∀ item ∈ items, item.reference ≠ "" ∧ ∃ amounts, item.amounts = .ok amounts)
    (hfiled : newReferences db.invoices items = []) :
    ∃ db', syncForTenant tenantId 50 now client db = .ok ((), db') := by
  suffices hsync : ∃ r, syncPlatformInvoicesForTenant client db tenant 50 now = .ok r by
    obtain ⟨⟨rows, db'⟩, hsync⟩ := hsync
    have hrequired : requireTenant db tenantId = .ok tenant := by
      unfold requireTenant
      rw [htenant]
    exact ⟨db', bind_eq_ok.2 ⟨tenant, hrequired, bind_eq_ok.2 ⟨(rows, db'), hsync, rfl⟩⟩⟩
  unfold PlatformErpClient.listed at hlisted
  cases hconfigured : client.isConfigured with
  | false =>
    unfold syncPlatformInvoicesForTenant
    rw [hconfigured]
    exact ⟨_, rfl⟩
  | true =>
    cases hcustomer : tenant.customerId? with
    | none =>
      unfold syncPlatformInvoicesForTenant
      rw [hconfigured, hcustomer]
      exact ⟨_, rfl⟩
    | some customerId =>
      rw [hconfigured, hcustomer] at hlisted
      obtain ⟨rows, db', hsync⟩ := (@syncPlatformInvoicesForTenant_isOk client db tenant customerId 50 items now hF hconfigured
        hcustomer hlisted fun item hmem => (hreadable item hmem).1).2
          ⟨fun item hmem => (hreadable item hmem).2, by rw [hfiled]; exact List.nodup_nil⟩
      exact ⟨(rows, db'), hsync⟩

namespace SyncedFor

variable (h : SyncedFor client tenant now items db db')
include h

/-- Each row is as the last item listed with its reference says, or as it was. -/
theorem rows {row : BillingInvoice} (hrow : row ∈ db'.invoices) :
    (∃ item, row.listedIn items = some item ∧
      row.FilledBy tenant (db.subscriptionOf tenant.id) (ensureBillingAccount db tenant).2 now item) ∨
      row.listedIn items = none ∧ row ∈ db.invoices := h.items.rows h.filed.references row hrow

theorem well (hwell : db.WellFiled) : db'.WellFiled := by
  refine ⟨h.filed, fun row hrow reference hreference => ?_, ?_⟩
  · rcases h.rows hrow with ⟨item, -, hfilled⟩ | ⟨-, hold⟩
    · rw [hfilled.reference] at hreference
      cases hreference
      exact strip_strip _
    · exact hwell.stripped row hold reference hreference
  · rw [h.frame]
    exact hwell.subscriptionIds

end SyncedFor

end

/-! ### A reconciliation -/

theorem mem_invoicesToReconcile {db : Db} {tenantId id : Nat} {invoiceId : Option Nat} :
    id ∈ invoicesToReconcile db tenantId invoiceId ↔
      ∃ invoice ∈ db.invoices, invoice.InScope tenantId invoiceId ∧ invoice.id = id := by
  unfold invoicesToReconcile Db.invoicesOf BillingInvoice.InScope
  simp only [List.mem_map, List.mem_insertionSort, List.mem_filter, decide_eq_true_eq]
  constructor
  · rintro ⟨invoice, ⟨⟨hmem, htenant⟩, hid⟩, hkey⟩
    exact ⟨invoice, hmem, ⟨htenant, hid⟩, hkey⟩
  · rintro ⟨invoice, hmem, ⟨htenant, hid⟩, hkey⟩
    exact ⟨invoice, ⟨⟨hmem, htenant⟩, hid⟩, hkey⟩

/-- The summary a reconciliation begins with. -/
def emptySummary (tenantId : Nat) : TenantBillingReconciliationResult :=
  { tenantId := tenantId, inspectedInvoiceCount := 0, reconciledInvoiceCount := 0, settledInvoiceCount := 0
    paymentAttemptsUpdated := 0, entitlementRepairs := 0, provisioningRequeues := 0, exceptionsOpened := 0
    exceptionsResolved := 0, lastInvoiceId := none }

theorem reconcileTenantBilling_apply (env : Env) (tenantId : Nat) (invoiceId : Option Nat) (s : DbSession) :
    reconcileTenantBilling env tenantId invoiceId s =
      match syncForTenant tenantId 50 (env.clock s.tick) (env.erp s.tick) s.work with
      | .ok (_, db) => reconcileInvoices env tenantId (invoicesToReconcile db tenantId invoiceId) (emptySummary tenantId)
          { s with work := db }
      | .error e => (.error e, s) := by
  unfold reconcileTenantBilling
  rw [change_bind]
  cases syncForTenant tenantId 50 (env.clock s.tick) (env.erp s.tick) s.work with
  | ok r => rfl
  | error e => rfl

/-- A reconciliation that returned has synced, and gone over the invoices. -/
theorem reconcileTenantBilling_returned {env : Env} {tenantId : Nat} {invoiceId : Option Nat} {s s' : DbSession}
    {summary : TenantBillingReconciliationResult}
    (h : reconcileTenantBilling env tenantId invoiceId s = (.ok summary, s')) :
    ∃ db, syncForTenant tenantId 50 (env.clock s.tick) (env.erp s.tick) s.work = .ok ((), db) ∧
      reconcileInvoices env tenantId (invoicesToReconcile db tenantId invoiceId) (emptySummary tenantId)
        { s with work := db } = (.ok summary, s') := by
  rw [reconcileTenantBilling_apply] at h
  split at h
  · rename_i u db hsync
    exact ⟨db, hsync, h⟩
  · cases h

/-! ### The tenant of the reconciliations -/

/-- What the reconciliations of a tenant have in common: the ERP's client, and the tenant's row, subscription and account as
the first of them found them. -/
structure BilledTenant where
  client : PlatformErpClient
  tenant : Tenant
  subscription : Option Subscription
  account : BillingAccount

namespace BilledTenant

variable (b : BilledTenant)

/-- The item a resync of an invoice gets. -/
def itemOf (invoice : BillingInvoice) : Except PyError (Option ErpItem) :=
  b.client.itemFor b.tenant.customerId? invoice.asked

/-- The invoice is as its item leaves it. -/
def Fresh (invoice : BillingInvoice) : Prop :=
  ∃ item time, b.itemOf invoice = .ok (some item) ∧ invoice.FilledBy b.tenant b.subscription b.account time item

/-- An invoice that a visit leaves: as its item says, or without one as it was. -/
def Left (base : List BillingInvoice) (invoice : BillingInvoice) : Prop :=
  b.itemOf invoice = .ok none ∧ invoice ∈ base ∨ b.Fresh invoice

/-- What no reconciliation of the tenant changes. -/
structure Standing (db : Db) : Prop where
  well : db.WellFiled
  customer : (db.tenant? b.tenant.id).map Tenant.customerId? = some b.tenant.customerId?
  subscription : (db.subscriptionOf b.tenant.id).map Subscription.id = b.subscription.map Subscription.id
  account : b.client.isConfigured = true → b.tenant.customerId?.isSome = true → db.AccountReady b.tenant.id b.account

variable {b}

theorem Standing.congr {db db' : Db} (h : b.Standing db) (hinvoices : db'.invoices = db.invoices)
    (hids : (db'.subscriptions.map Subscription.id).Nodup)
    (hsubscription : (db'.subscriptionOf b.tenant.id).map Subscription.id =
      (db.subscriptionOf b.tenant.id).map Subscription.id)
    (haccounts : db'.accounts = db.accounts)
    (hcustomer : (db'.tenant? b.tenant.id).map Tenant.customerId? = (db.tenant? b.tenant.id).map Tenant.customerId?) :
    b.Standing db' := by
  exact ⟨⟨h.well.filed.congr hinvoices, h.well.stripped.congr hinvoices, hids⟩, hcustomer.trans h.customer,
    hsubscription.trans h.subscription, fun hconfigured hsome => (h.account hconfigured hsome).congr haccounts⟩

theorem steady_standing (invoices : List BillingInvoice) (n : Nat) :
    Steady fun db => b.Standing db ∧ db.invoices = invoices ∧ n ≤ db.events.length where
  core db db' hcore h := by
    obtain ⟨hstanding, hinvoices, hevents⟩ := h
    have hsubscriptions := Db.subscriptions_of_core hcore
    have hsame : db'.events = db.events := show db'.core.events = db.core.events from congrArg Db.events hcore
    refine ⟨hstanding.congr (Db.invoices_of_core hcore) (by rw [hsubscriptions]; exact hstanding.well.subscriptionIds)
      ?_ (Db.accounts_of_core hcore) ?_, (Db.invoices_of_core hcore).trans hinvoices, by rw [hsame]; exact hevents⟩
    · unfold Db.subscriptionOf
      rw [hsubscriptions]
    · unfold Db.tenant?
      rw [Db.tenants_of_core hcore]
  flush now saved work h := by
    obtain ⟨hstanding, hinvoices, hevents⟩ := h
    refine ⟨hstanding.congr rfl hstanding.well.subscriptionIds rfl rfl ?_, hinvoices, hevents⟩
    obtain ⟨stamp, hflush⟩ := Db.tenant?_flush now saved work b.tenant.id
    rw [hflush, Option.map_map]
    rfl

/-- A visit of an invoice: its row stays or is as its item leaves it, and if the invoice is settled or has a latest attempt
that is paid, a billing event is written. -/
structure Visited (b : BilledTenant) (db : Db) (invoice updated : BillingInvoice) (db' : Db) : Prop where
  row : db.invoice? invoice.id = some invoice
  entry : updated.entry = invoice.entry
  left : b.itemOf invoice = .ok none ∧ updated = invoice ∨ b.Fresh updated
  invoices : db'.invoices = put db.invoices updated
  standing : b.Standing db'
  events : db.events.length ≤ db'.events.length
  recorded : reconciledInvoiceIsSettled updated = true ∨
    (∃ attempt ∈ latestPaymentAttempt (db.attemptsOf updated.id), attempt.status = .paid) →
      db.events.length < db'.events.length

theorem Standing.resync {db db' : Db} {tenant : Tenant} {invoice updated : BillingInvoice} {now : Time}
    (h : b.Standing db) (hnames : b.client.AnswersByName) (htenant : db.tenant? b.tenant.id = some tenant)
    (hrow : db.invoice? invoice.id = some invoice)
    (hr : resyncOneInvoice b.client db tenant invoice now = .ok (updated, db')) :
    updated.entry = invoice.entry ∧ (b.itemOf invoice = .ok none ∧ updated = invoice ∨ b.Fresh updated) ∧
      db' = db.putInvoice updated ∧ b.Standing db' := by
  have hid := Db.tenant?_id htenant
  have hcustomer : tenant.customerId? = b.tenant.customerId? := by
    have hsame := h.customer
    rw [htenant] at hsame
    exact Option.some.inj hsame
  have hready : b.client.isConfigured = true → tenant.customerId?.isSome = true →
      db.AccountReady tenant.id b.account := by
    rw [hid, hcustomer]
    exact h.account
  have hF := h.well.filed
  have hleft := resyncOneInvoice_row_left h.well hnames hready hrow hr
  rw [hcustomer] at hleft
  rcases hleft with ⟨hnone, rfl, rfl⟩ | ⟨item, hitem, hfilled, hentry, rfl⟩
  · refine ⟨rfl, Or.inl ⟨hnone, rfl⟩, ?_, h⟩
    have hsame : put db'.invoices updated = db'.invoices := put_of_get? hF.ids hrow
    unfold Db.putInvoice
    rw [hsame]
  · have hfiled := hF.resync hr
    have hmem : updated ∈ (db.putInvoice updated).invoices := mem_of_get? (resyncOneInvoice_row hrow hr)
    have hasked : updated.asked = invoice.asked :=
      BillingInvoice.asked_congr (hF.same invoice (mem_of_get? hrow)) (hfiled.same updated hmem) hentry
    refine ⟨hentry, Or.inr ⟨item, now, ?_, hfilled.congr hid.symm ?_⟩, rfl, ⟨⟨hfiled, ?_, h.well.subscriptionIds⟩,
      h.customer, h.subscription, fun hconfigured hsome => (h.account hconfigured hsome).congr rfl⟩⟩
    · unfold itemOf
      rw [hasked]
      exact hitem
    · rw [hid]
      exact h.subscription.symm
    · intro row hrowMem
      rcases mem_put hrowMem with rfl | hold
      · rw [show row.erpInvoiceId = invoice.erpInvoiceId from congrArg (fun e => e.2.2) hentry]
        exact h.well.stripped invoice (mem_of_get? hrow)
      · exact h.well.stripped row hold

theorem Standing.reconcile {db db' : Db} {invoiceId : Nat} {now : Time} {result : InvoiceReconciliationResult}
    {email : Option String} (h : b.Standing db) (hnames : b.client.AnswersByName)
    (hr : reconcileInvoice b.tenant.id invoiceId now b.client db = .ok ((result, email), db')) :
    ∃ invoice updated, invoice.id = invoiceId ∧ b.Visited db invoice updated db' ∧
      (reconciledInvoiceIsSettled updated = false → email = none) := by
  have hcustomers := reconcileInvoice_customers hr
  obtain ⟨tenant, htenant, hr⟩ := bind_eq_ok.1 hr
  obtain ⟨invoice, hinvoice, hr⟩ := bind_eq_ok.1 hr
  obtain ⟨⟨updated, db₁⟩, hresync, hr⟩ := bind_eq_ok.1 hr
  have htenant := requireTenant_ok htenant
  have hinvoice := requireInvoiceRow_ok hinvoice
  have hkey : invoice.id = invoiceId := key_of_get? hinvoice
  rw [← hkey] at hinvoice
  obtain ⟨hentry, hleft, rfl, hstanding⟩ := h.resync hnames htenant hinvoice hresync
  refine ⟨invoice, updated, hkey, ?_⟩
  have hcustomer := SameCustomers.customerId hcustomers b.tenant.id
  dsimp only at hr
  cases hsettled : reconciledInvoiceIsSettled updated with
  | true =>
    rw [hsettled, if_pos rfl] at hr
    have hevents := reconcileSettledInvoice_events hr
    obtain ⟨haccounts, hinvoices⟩ : db'.accounts = (db.putInvoice updated).accounts ∧
        db'.invoices = (db.putInvoice updated).invoices := by
      rcases reconcileSettledInvoice_ledger hr with hsame | ⟨attempt, marked, -, -, hsame⟩
      · exact ⟨hsame.accounts, hsame.invoices⟩
      · exact ⟨hsame.accounts, hsame.invoices⟩
    have hlonger : db.events.length < db'.events.length := by
      rw [hevents]
      exact Nat.lt_succ_self _
    refine ⟨⟨hinvoice, hentry, hleft, hinvoices, ?_, hlonger.le, fun _ => hlonger⟩, fun hopen => by cases hopen⟩
    rcases reconcileSettledInvoice_rows hr with ⟨-, hsame, -⟩ | ⟨s, row, runtimeExists, hs, hid, htenantId, -, hput, -⟩
    · refine hstanding.congr hinvoices (by rw [hsame]; exact hstanding.well.subscriptionIds) ?_ haccounts hcustomer
      unfold Db.subscriptionOf
      rw [hsame]
    · refine hstanding.congr hinvoices ?_ ?_ haccounts hcustomer
      · rw [hput]
        exact (map_key_put _ row).symm ▸ hstanding.well.subscriptionIds
      · exact subscriptionOf_put_id hstanding.well.subscriptionIds (mem_of_subscriptionOfInvoice hs) hid htenantId hput _
  | false =>
    rw [hsettled, if_neg Bool.false_ne_true] at hr
    have hr := Except.ok.inj hr
    obtain ⟨rfl, attempts, events, exceptions, hframe⟩ := reconcileUnsettledInvoice_frame hr
    have hstanding' : b.Standing db' := by
      rw [hframe]
      refine hstanding.congr rfl hstanding.well.subscriptionIds rfl rfl rfl
    have hinvoices : db'.invoices = (db.putInvoice updated).invoices := by rw [hframe]
    rcases reconcileUnsettledInvoice_cases (db.putInvoice updated) tenant
      (subscriptionOfInvoice (db.putInvoice updated) tenant updated) updated
      (latestPaymentAttempt ((db.putInvoice updated).attemptsOf updated.id)) _ now with ⟨hpaid, hevents⟩ | ⟨hunpaid, hsame⟩
    · rw [hr] at hevents
      have hlonger : db.events.length < db'.events.length := by
        rw [hevents]
        exact Nat.lt_succ_self _
      exact ⟨⟨hinvoice, hentry, hleft, hinvoices, hstanding', hlonger.le, fun _ => hlonger⟩, fun _ => rfl⟩
    · rw [hr] at hsame
      obtain rfl : db' = db.putInvoice updated := congrArg Prod.snd hsame
      refine ⟨⟨hinvoice, hentry, hleft, hinvoices, hstanding', Nat.le_refl _, fun hdue => ?_⟩, fun _ => rfl⟩
      rcases hdue with hdue | ⟨attempt, hattempt, hpaid⟩
      · rw [hsettled] at hdue
        cases hdue
      · exact absurd hpaid (hunpaid attempt hattempt)

/-- The row a visit leaves, if each row was in the base or fresh. -/
theorem left_of_rows {base rows : List BillingInvoice} {invoice updated : BillingInvoice}
    (hrows : ∀ i ∈ rows, i ∈ base ∨ b.Fresh i) (hmem : invoice ∈ rows)
    (h : b.itemOf invoice = .ok none ∧ updated = invoice ∨ b.Fresh updated) : b.Left base updated := by
  rcases h with ⟨hnone, hsame⟩ | hfresh
  · rw [hsame]
    refine Or.inl ⟨hnone, (hrows invoice hmem).resolve_right ?_⟩
    rintro ⟨item, time, hitem, -⟩
    rw [hnone] at hitem
    cases hitem
  · exact Or.inr hfresh

namespace Visited

variable {db db' : Db} {invoice updated : BillingInvoice} (h : b.Visited db invoice updated db')
include h

theorem id : updated.id = invoice.id := congrArg Prod.fst h.entry

theorem mem : updated ∈ db'.invoices := by
  have hrow : get? db.invoices (key updated) = some invoice := by
    rw [show key updated = invoice.id from h.id]
    exact h.row
  rw [h.invoices]
  exact mem_of_get? (get?_put_self hrow)

theorem rows {row : BillingInvoice} (hmem : row ∈ db'.invoices) :
    row = updated ∨ row ∈ db.invoices ∧ row.id ≠ invoice.id := by
  by_cases hid : row.id = invoice.id
  · exact Or.inl (List.inj_on_of_nodup_map h.standing.well.filed.ids hmem h.mem (hid.trans h.id.symm))
  · rw [h.invoices] at hmem
    refine (mem_put hmem).imp_right fun hold => ⟨hold, hid⟩

theorem entries (hids : (db.invoices.map BillingInvoice.id).Nodup) :
    db'.invoices.map BillingInvoice.entry = db.invoices.map BillingInvoice.entry := by
  rw [h.invoices, ← List.filterMap_eq_map]
  refine filterMap_put fun a ha hkey => ?_
  have hsame : a = invoice := List.inj_on_of_nodup_map hids ha (mem_of_get? h.row) (hkey.trans h.id)
  rw [hsame]
  exact congrArg some h.entry.symm

theorem leftIn {base : List BillingInvoice} (hrows : ∀ i ∈ db.invoices, i ∈ base ∨ b.Fresh i) : b.Left base updated :=
  left_of_rows hrows (mem_of_get? h.row) h.left

end Visited

/-! ### The invoices of a loop -/

/-- What a loop over invoices leaves that returned: the rows it went over, as they are left by a visit, and the others. -/
structure Swept (b : BilledTenant) (base : List BillingInvoice) (ids : List Nat) (s s' : DbSession) : Prop where
  standing : b.Standing s'.work
  entries : s'.work.invoices.map BillingInvoice.entry = s.work.invoices.map BillingInvoice.entry
  rows : ∀ row ∈ s'.work.invoices, row ∈ base ∨ b.Fresh row
  visited : ∀ row ∈ s'.work.invoices, row.id ∈ ids → b.Left base row
  others : ∀ row ∈ s'.work.invoices, row.id ∉ ids → row ∈ s.work.invoices
  events : s.work.events.length ≤ s'.work.events.length
  recorded : ∀ row ∈ s'.work.invoices, row.id ∈ ids → reconciledInvoiceIsSettled row = true →
    s.work.events.length < s'.work.events.length
  committed : ids ≠ [] → s'.saved = s'.work ∨
    ∃ row ∈ s'.work.invoices, row.id ∈ ids ∧ reconciledInvoiceIsSettled row = true

theorem reconcileInvoiceSettlement_committed {env : Env} {tenantId invoiceId : Nat} {s s' : DbSession}
    {outcome result : InvoiceReconciliationResult} {db : Db}
    (hr : reconcileInvoice tenantId invoiceId (env.clock s.tick) (env.erp s.tick) s.work = .ok ((result, none), db))
    (h : reconcileInvoiceSettlement env tenantId invoiceId s = (.ok outcome, s')) : s'.saved = s'.work := by
  unfold reconcileInvoiceSettlement at h
  rw [change_bind, hr] at h
  obtain ⟨u, s₁, hcommit, h⟩ := of_bind_returned h
  cases h
  exact commit_returned hcommit

section

variable {env : Env} (herp : ∀ tick, env.erp tick = b.client) (hnames : b.client.AnswersByName)
include herp hnames

/-- A visit that returned; what came of an unsettled invoice is committed. -/
theorem Standing.visit {invoiceId : Nat} {s s' : DbSession} {outcome : InvoiceReconciliationResult}
    (h : b.Standing s.work) (hr : reconcileInvoiceSettlement env b.tenant.id invoiceId s = (.ok outcome, s')) :
    ∃ invoice updated, invoice.id = invoiceId ∧ b.Visited s.work invoice updated s'.work ∧
      (reconciledInvoiceIsSettled updated = false → s'.saved = s'.work) := by
  obtain ⟨⟨result, email⟩, db, hreconcile, hkeeps⟩ := reconcileInvoiceSettlement_ok hr
  have hreconciled := hreconcile
  rw [herp] at hreconciled
  obtain ⟨invoice, updated, hid, hvisited, hemail⟩ := h.reconcile hnames hreconciled
  obtain ⟨hstanding, hinvoices, hevents⟩ := hkeeps _ (steady_standing db.invoices db.events.length)
    ⟨hvisited.standing, rfl, Nat.le_refl _⟩
  refine ⟨invoice, updated, hid, ⟨hvisited.row, hvisited.entry, hvisited.left, hinvoices.trans hvisited.invoices, hstanding,
    hvisited.events.trans hevents, fun hdue => (hvisited.recorded hdue).trans_le hevents⟩, fun hopen => ?_⟩
  rw [hemail hopen] at hreconcile
  exact reconcileInvoiceSettlement_committed hreconcile hr

theorem Standing.sweep {base : List BillingInvoice} {ids : List Nat} {s s' : DbSession}
    {summary summary' : TenantBillingReconciliationResult} (hs : b.Standing s.work)
    (hrows : ∀ row ∈ s.work.invoices, row ∈ base ∨ b.Fresh row)
    (h : reconcileInvoices env b.tenant.id ids summary s = (.ok summary', s')) : b.Swept base ids s s' := by
  induction ids generalizing s summary with
  | nil =>
    cases h
    exact ⟨hs, rfl, hrows, fun _ _ hnone => (by cases hnone), fun _ hrow _ => hrow, Nat.le_refl _,
      fun _ _ hnone => (by cases hnone), fun hne => absurd rfl hne⟩
  | cons id ids ih =>
    unfold reconcileInvoices at h
    obtain ⟨outcome, s₁, hvisit, h⟩ := of_bind_returned h
    obtain ⟨invoice, updated, hid, hvisited, hcommitted⟩ := hs.visit herp hnames hvisit
    have hleft := hvisited.leftIn hrows
    have hrows₁ : ∀ row ∈ s₁.work.invoices, row ∈ base ∨ b.Fresh row := by
      intro row hrow
      rcases hvisited.rows hrow with rfl | ⟨hold, -⟩
      · exact hleft.imp_left fun hnone => hnone.2
      · exact hrows row hold
    have hrest := ih hvisited.standing hrows₁ h
    -- a row with the id of the first visit that the rest passes over is the one the visit left
    have hfirst : ∀ row ∈ s'.work.invoices, row.id ∉ ids → row.id = id → row = updated := by
      intro row hrow hnot hkey
      rcases hvisited.rows (hrest.others row hrow hnot) with rfl | ⟨-, hne⟩
      · rfl
      · exact absurd (hkey.trans hid.symm) hne
    refine ⟨hrest.standing, hrest.entries.trans (hvisited.entries hs.well.filed.ids), hrest.rows, fun row hrow hmem => ?_,
      fun row hrow hnot => ?_, hvisited.events.trans hrest.events, fun row hrow hmem hsettled => ?_, fun _ => ?_⟩
    · by_cases hlater : row.id ∈ ids
      · exact hrest.visited row hrow hlater
      · rw [hfirst row hrow hlater ((List.mem_cons.1 hmem).resolve_right hlater)]
        exact hleft
    · rw [List.mem_cons, not_or] at hnot
      rcases hvisited.rows (hrest.others row hrow hnot.2) with rfl | ⟨hold, -⟩
      · exact absurd (hvisited.id.trans hid) hnot.1
      · exact hold
    · by_cases hlater : row.id ∈ ids
      · exact hvisited.events.trans_lt (hrest.recorded row hrow hlater hsettled)
      · rw [hfirst row hrow hlater ((List.mem_cons.1 hmem).resolve_right hlater)] at hsettled
        exact (hvisited.recorded (Or.inl hsettled)).trans_le hrest.events
    · by_cases hlast : ids = []
      · subst hlast
        cases h
        cases hsettled : reconciledInvoiceIsSettled updated with
        | false => exact Or.inl (hcommitted hsettled)
        | true => exact Or.inr ⟨updated, hvisited.mem, List.mem_singleton.2 (hvisited.id.trans hid), hsettled⟩
      · rcases hrest.committed hlast with hsaved | ⟨row, hrow, hmem, hsettled⟩
        · exact Or.inl hsaved
        · exact Or.inr ⟨row, hrow, List.mem_cons_of_mem _ hmem, hsettled⟩

end

/-! ### Rows before and after -/

/-- A row that a sync leaves: as the last item listed with its reference says, or as it was. -/
def Listed (b : BilledTenant) (now : Time) (items : List ErpItem) (base : List BillingInvoice) (row : BillingInvoice) : Prop :=
  (∃ item, row.listedIn items = some item ∧ row.FilledBy b.tenant b.subscription b.account now item) ∨
    row.listedIn items = none ∧ row ∈ base

/-- Two rows are one, or left by one item. -/
def Alike (b : BilledTenant) (row row' : BillingInvoice) : Prop :=
  row' = row ∨ ∃ item time time', row.FilledBy b.tenant b.subscription b.account time item ∧
    row'.FilledBy b.tenant b.subscription b.account time' item

/-- The tenant as a first sync finds it. -/
def found (client : PlatformErpClient) (tenant : Tenant) (db : Db) : BilledTenant :=
  ⟨client, tenant, db.subscriptionOf tenant.id, (ensureBillingAccount db tenant).2⟩

theorem found_synced {client : PlatformErpClient} {tenant : Tenant} {now : Time} {items : List ErpItem} {db db' : Db}
    (hwell : db.WellFiled) (htenant : db.tenant? tenant.id = some tenant) (h : SyncedFor client tenant now items db db') :
    (found client tenant db).Standing db' ∧
      ∀ row ∈ db'.invoices, (found client tenant db).Listed now items db.invoices row := by
  refine ⟨⟨h.well hwell, ?_, ?_, fun hconfigured hsome => ?_⟩, fun row hrow => h.rows hrow⟩
  · rw [h.frame]
    exact congrArg (Option.map Tenant.customerId?) htenant
  · rw [h.frame]
    rfl
  · exact ensureBillingAccount_ready hsome (h.accounts hconfigured hsome)

/-- A sync later on. -/
theorem Standing.synced {tenant : Tenant} {now : Time} {items : List ErpItem} {db db' : Db} (hs : b.Standing db)
    (htenant : db.tenant? b.tenant.id = some tenant) (h : SyncedFor b.client tenant now items db db') :
    b.Standing db' ∧ ∀ row ∈ db'.invoices, b.Listed now items db.invoices row := by
  have hid := Db.tenant?_id htenant
  have hcustomer : tenant.customerId? = b.tenant.customerId? := by
    have hsame := hs.customer
    rw [htenant] at hsame
    exact Option.some.inj hsame
  have hready : b.client.isConfigured = true → tenant.customerId?.isSome = true →
      ensureBillingAccount db tenant = (db, b.account) := by
    intro hconfigured hsome
    rw [hcustomer] at hsome
    have haccount := hs.account hconfigured hsome
    rw [← hid] at haccount
    exact haccount.ensure
  refine ⟨⟨h.well hs.well, ?_, ?_, fun hconfigured hsome => ?_⟩, fun row hrow => ?_⟩
  · rw [h.frame]
    exact hs.customer
  · rw [h.frame]
    exact hs.subscription
  · refine (hs.account hconfigured hsome).congr ?_
    rw [← hcustomer] at hsome
    rw [h.accounts hconfigured hsome, hready hconfigured hsome]
  · rcases h.rows hrow with ⟨item, hlisted, hfilled⟩ | hold
    · refine Or.inl ⟨item, hlisted, ?_⟩
      obtain ⟨reference, -, hlast⟩ := Option.bind_eq_some_iff.1 hlisted
      obtain ⟨hconfigured, hsome⟩ := h.customer (List.ne_nil_of_mem (lastListed_reference hlast).1)
      rw [hready hconfigured hsome] at hfilled
      refine hfilled.congr hid.symm ?_
      rw [hid]
      exact hs.subscription.symm
    · exact Or.inr hold

namespace Alike

variable {row row' : BillingInvoice}

theorem settled (h : b.Alike row row') : reconciledInvoiceIsSettled row' = reconciledInvoiceIsSettled row := by
  rcases h with rfl | ⟨item, time, time', hfilled, hfilled'⟩
  · rfl
  · exact hfilled.settled_congr hfilled'

/-- Two rows that are alike and not settled differ in when they were synced only. -/
theorem unsynced (h : b.Alike row row') (hentry : row'.entry = row.entry) (hopen : reconciledInvoiceIsSettled row = false) :
    row'.unsynced = row.unsynced := by
  rcases h with rfl | ⟨item, time, time', hfilled, hfilled'⟩
  · rfl
  · refine hfilled.agree hfilled' hentry (Bool.eq_false_iff.2 fun hstamp => ?_)
    rw [hfilled.settled_of_stamps hstamp] at hopen
    cases hopen

theorem tenantId (h : b.Alike row row') : row'.tenantId = row.tenantId := by
  rcases h with rfl | ⟨item, time, time', hfilled, hfilled'⟩
  · rfl
  · rw [hfilled.tenantId, hfilled'.tenantId]

end Alike

section

variable {db : Db} {base base₁ base₂ : List BillingInvoice} {items : List ErpItem} {now later : Time}
  {row row' : BillingInvoice}

/-- Two syncs of one list leave rows alike. -/
theorem Listed.alike (h : b.Listed now items base row) (h' : b.Listed later items db.invoices row')
    (hids : (db.invoices.map BillingInvoice.id).Nodup) (hrow : row ∈ db.invoices) (hentry : row'.entry = row.entry) :
    b.Alike row row' := by
  have hlisted : row'.listedIn items = row.listedIn items := by
    unfold BillingInvoice.listedIn
    rw [show row'.erpInvoiceId = row.erpInvoiceId from congrArg (fun e => e.2.2) hentry]
  rcases h' with ⟨item, hitem, hfilled'⟩ | ⟨hnone, hold⟩
  · rcases h with ⟨item', hitem', hfilled⟩ | ⟨hnone, -⟩
    · rw [hlisted, hitem'] at hitem
      obtain rfl := Option.some.inj hitem
      exact Or.inr ⟨item', now, later, hfilled, hfilled'⟩
    · rw [hlisted, hnone] at hitem
      cases hitem
  · exact Or.inl (List.inj_on_of_nodup_map hids hold hrow (congrArg Prod.fst hentry))

/-- Two visits leave rows alike, if the syncs before them did. -/
theorem Left.alike (h : b.Left base₁ row) (h' : b.Left base₂ row') (hitem : b.itemOf row' = b.itemOf row)
    (hbase : row ∈ base₁ → row' ∈ base₂ → b.Alike row row') : b.Alike row row' := by
  rcases h with ⟨hnone, hold⟩ | ⟨item, time, hfound, hfilled⟩
  · rcases h' with ⟨-, hold'⟩ | ⟨item', time', hfound', -⟩
    · exact hbase hold hold'
    · rw [hitem, hnone] at hfound'
      cases hfound'
  · rcases h' with ⟨hnone', -⟩ | ⟨item', time', hfound', hfilled'⟩
    · rw [hitem, hfound] at hnone'
      cases hnone'
    · rw [hitem, hfound] at hfound'
      cases hfound'
      exact Or.inr ⟨item, time, time', hfilled, hfilled'⟩

end

/-! ### A loop with nothing due -/

/-- A session in which a reconciliation has changed invoices only. -/
structure Quiet (b : BilledTenant) (db : Db) (base : List BillingInvoice) (s : DbSession) : Prop where
  standing : b.Standing s.work
  frame : s.work = { db with accounts := s.work.accounts, invoices := s.work.invoices }
  tenants : s.saved.tenants = db.tenants
  attempts : s.saved.attempts = db.attempts
  entries : s.work.invoices.map BillingInvoice.entry = db.invoices.map BillingInvoice.entry
  rows : ∀ row ∈ s.work.invoices, row ∈ base ∨ b.Fresh row

/-- A row that the reconciliation before left, and a visit will not do anything about. -/
structure Settling (b : BilledTenant) (db : Db) (base base' : List BillingInvoice) (row : BillingInvoice) : Prop where
  mem : row ∈ db.invoices
  left : b.Left base row
  unsettled : reconciledInvoiceIsSettled row = false
  alike : ∀ row', row'.entry = row.entry → row ∈ base → row' ∈ base' → b.Alike row row'

theorem itemOf_congr {db db' : Db} {row row' : BillingInvoice} (h : b.Standing db) (h' : b.Standing db')
    (hrow : row ∈ db.invoices) (hrow' : row' ∈ db'.invoices) (hentry : row'.entry = row.entry) :
    b.itemOf row' = b.itemOf row := by
  unfold itemOf
  rw [BillingInvoice.asked_congr (h.well.filed.same row hrow) (h'.well.filed.same row' hrow') hentry]

/-- A row that was left by a visit can be resynced. -/
theorem Left.resyncs {base : List BillingInvoice} {row : BillingInvoice} {db : Db} (h : b.Left base row)
    (hs : b.Standing db) (hrow : row ∈ db.invoices) :
    b.itemOf row = .ok none ∨ ∃ item, b.itemOf row = .ok (some item) ∧ item.reference ≠ "" ∧
      ∃ amounts, item.amounts = .ok amounts := by
  rcases h with ⟨hnone, -⟩ | ⟨item, time, hitem, hfilled⟩
  · exact Or.inl hnone
  · refine Or.inr ⟨item, hitem, ?_, _, hfilled.amounts⟩
    have hasked : row.asked ≠ "" := by
      intro hempty
      unfold itemOf PlatformErpClient.itemFor at hitem
      split at hitem
      · rw [if_pos hempty] at hitem
        cases hitem
      · cases hitem
    have herp := BillingInvoice.erpInvoiceId_of_asked (hs.well.filed.same row hrow) (hs.well.stripped row hrow) hasked
    rw [hfilled.reference] at herp
    rw [Option.some.inj herp]
    exact hasked

section

variable {env : Env} (hcommits : ∀ tick, env.commitFails tick = false) (herp : ∀ tick, env.erp tick = b.client)
  (hnames : b.client.AnswersByName)
include hcommits herp hnames

/-- A visit of a row that is not settled and whose latest attempt is not paid changes the row only, back to what it was. -/
theorem Quiet.visit {db : Db} {base base' : List BillingInvoice} {row : BillingInvoice} {s : DbSession}
    (hq : b.Quiet db base' s) (hdb : b.Standing db) (hrow : b.Settling db base base' row)
    (hunpaid : ∀ attempt ∈ latestPaymentAttempt (db.attemptsOf row.id), attempt.status ≠ .paid) :
    ∃ outcome s', reconcileInvoiceSettlement env b.tenant.id row.id s = (.ok outcome, s') ∧ b.Quiet db base' s' ∧
      s'.saved = s'.work ∧ outcome.paymentAttemptUpdated = false ∧ outcome.entitlementRestored = false ∧
      outcome.provisioningRequeued = false := by
  have hF := hq.standing.well.filed
  obtain ⟨invoice, hinvoice, hentry⟩ : ∃ invoice ∈ s.work.invoices, invoice.entry = row.entry := by
    have hmem : row.entry ∈ db.invoices.map BillingInvoice.entry := List.mem_map_of_mem hrow.mem
    rw [← hq.entries] at hmem
    obtain ⟨invoice, hinvoice, hentry⟩ := List.mem_map.1 hmem
    exact ⟨invoice, hinvoice, hentry⟩
  have hid : invoice.id = row.id := congrArg Prod.fst hentry
  have hget : s.work.invoice? invoice.id = some invoice := get?_of_mem hF.ids hinvoice
  obtain ⟨tenant, htenant, hcustomer⟩ := Option.map_eq_some_iff.1 hq.standing.customer
  have htid := Db.tenant?_id htenant
  have hitem := itemOf_congr hdb hq.standing hrow.mem hinvoice hentry
  -- the resync gets what it got before
  obtain ⟨updated, db', hresync⟩ : ∃ updated db',
      resyncOneInvoice b.client s.work tenant invoice (env.clock s.tick) = .ok (updated, db') := by
    refine @resyncOneInvoice_returns b.client s.work tenant b.account (env.clock s.tick) invoice hF ?_ ?_
    · rw [htid, hcustomer]
      exact hq.standing.account
    · rw [hcustomer]
      have hresyncs := hrow.left.resyncs hdb hrow.mem
      rw [← hitem] at hresyncs
      exact hresyncs
  obtain ⟨hupdated, hleft, rfl, hstanding⟩ := hq.standing.resync hnames htenant hget hresync
  have hentry' : updated.entry = row.entry := hupdated.trans hentry
  have hid' : updated.id = row.id := congrArg Prod.fst hentry'
  have hmem : updated ∈ (s.work.putInvoice updated).invoices := mem_of_get? (resyncOneInvoice_row hget hresync)
  have halike : b.Alike row updated := by
    refine hrow.left.alike (left_of_rows hq.rows hinvoice hleft) ?_ (hrow.alike updated hentry')
    exact itemOf_congr hdb hstanding hrow.mem hmem hentry'
  have hunsettled : reconciledInvoiceIsSettled updated = false := halike.settled.trans hrow.unsettled
  have hattempts : (s.work.putInvoice updated).attemptsOf updated.id = db.attemptsOf row.id := by
    rw [hid', hq.frame]
    rfl
  have hvisited : b.Visited s.work invoice updated (s.work.putInvoice updated) := by
    refine ⟨hget, hupdated, hleft, rfl, hstanding, Nat.le_refl _, fun hdue => ?_⟩
    rcases hdue with hsettled | ⟨attempt, hattempt, hpaid⟩
    · rw [hunsettled] at hsettled
      cases hsettled
    · rw [show s.work.attemptsOf updated.id = db.attemptsOf row.id from hattempts] at hattempt
      exact absurd hpaid (hunpaid attempt hattempt)
  have hquiet : ∀ saved tick outside, saved = s.work.putInvoice updated →
      b.Quiet db base' ⟨s.work.putInvoice updated, saved, outside, tick⟩ := by
    rintro saved tick outside rfl
    refine ⟨hstanding, ?_, ?_, ?_, (hvisited.entries hF.ids).trans hq.entries, fun i hi => ?_⟩
    · rw [hq.frame]
      rfl
    · rw [hq.frame]
      rfl
    · rw [hq.frame]
      rfl
    · rcases hvisited.rows hi with rfl | ⟨hold, -⟩
      · exact (left_of_rows hq.rows hinvoice hleft).imp_left fun hnone => hnone.2
      · exact hq.rows i hold
  have hflush : Db.flush (env.clock s.tick) s.saved (s.work.putInvoice updated) = s.work.putInvoice updated := by
    refine Db.flush_of_eq ?_ ?_
    · rw [hq.tenants, hq.frame]
      rfl
    · rw [hq.attempts, hq.frame]
      rfl
  obtain ⟨result, hresult, hflags⟩ : ∃ result : InvoiceReconciliationResult,
      reconcileInvoice b.tenant.id row.id (env.clock s.tick) (env.erp s.tick) s.work =
        .ok ((result, none), s.work.putInvoice updated) ∧
      result.paymentAttemptUpdated = false ∧ result.entitlementRestored = false ∧ result.provisioningRequeued = false := by
    rw [herp]
    rw [hid] at hget
    refine reconcileInvoice_idle htenant hget hresync hunsettled ?_
    rw [hattempts]
    exact hunpaid
  refine ⟨result, ⟨s.work.putInvoice updated, s.work.putInvoice updated, s.outside, s.tick + 1⟩, ?_, hquiet _ _ _ rfl, rfl,
    hflags⟩
  unfold reconcileInvoiceSettlement
  rw [change_bind, hresult]
  dsimp only
  rw [commit_bind_done _ (hcommits _)]
  dsimp only
  rw [hflush]
  rfl

/-- A loop over such rows returns, and reports nothing done. -/
theorem Quiet.sweep {db : Db} {base base' : List BillingInvoice} {ids : List Nat} {s : DbSession}
    (summary : TenantBillingReconciliationResult) (hq : b.Quiet db base' s) (hdb : b.Standing db)
    (hrows : ∀ id ∈ ids, ∃ row, row.id = id ∧ b.Settling db base base' row ∧
      ∀ attempt ∈ latestPaymentAttempt (db.attemptsOf row.id), attempt.status ≠ .paid) :
    ∃ summary' s', reconcileInvoices env b.tenant.id ids summary s = (.ok summary', s') ∧ b.Quiet db base' s' ∧
      (ids = [] ∧ s' = s ∨ s'.saved = s'.work) ∧
      summary'.paymentAttemptsUpdated = summary.paymentAttemptsUpdated ∧
      summary'.entitlementRepairs = summary.entitlementRepairs ∧
      summary'.provisioningRequeues = summary.provisioningRequeues := by
  induction ids generalizing s summary with
  | nil => exact ⟨summary, s, rfl, hq, Or.inl ⟨rfl, rfl⟩, rfl, rfl, rfl⟩
  | cons id ids ih =>
    obtain ⟨row, rfl, hrow, hunpaid⟩ := hrows id (List.mem_cons_self ..)
    obtain ⟨outcome, s₁, hvisit, hq₁, hsaved, hupdated, hrestored, hrequeued⟩ :=
      hq.visit hcommits herp hnames hdb hrow hunpaid
    obtain ⟨summary', s', hrest, hq', hend, hattempts, hrepairs, hrequeues⟩ := ih (summary.add outcome row.id) hq₁
      fun id hid => hrows id (List.mem_cons_of_mem _ hid)
    refine ⟨summary', s', ?_, hq', Or.inr ?_, hattempts.trans ?_, hrepairs.trans ?_, hrequeues.trans ?_⟩
    · unfold reconcileInvoices
      rw [bind_ok hvisit]
      exact hrest
    · rcases hend with ⟨-, rfl⟩ | hsaved'
      · exact hsaved
      · exact hsaved'
    · unfold TenantBillingReconciliationResult.add
      rw [hupdated]
      rfl
    · unfold TenantBillingReconciliationResult.add
      rw [hrestored]
      rfl
    · unfold TenantBillingReconciliationResult.add
      rw [hrequeued]
      rfl

/-- A loop that returned without a new billing event came to no row whose latest attempt is paid. -/
theorem Quiet.unpaid {db : Db} {base base' : List BillingInvoice} {ids : List Nat} {s s' : DbSession}
    {summary summary' : TenantBillingReconciliationResult} (hq : b.Quiet db base' s) (hdb : b.Standing db)
    (hrows : ∀ id ∈ ids, ∃ row, row.id = id ∧ b.Settling db base base' row)
    (h : reconcileInvoices env b.tenant.id ids summary s = (.ok summary', s'))
    (hevents : s'.work.events.length = s.work.events.length) :
    ∀ id ∈ ids, ∀ attempt ∈ latestPaymentAttempt (db.attemptsOf id), attempt.status ≠ .paid := by
  induction ids generalizing s summary with
  | nil => exact fun id hid => by cases hid
  | cons id ids ih =>
    obtain ⟨row, rfl, hrow⟩ := hrows id (List.mem_cons_self ..)
    unfold reconcileInvoices at h
    obtain ⟨outcome, s₁, hvisit, h⟩ := of_bind_returned h
    obtain ⟨invoice, updated, hid, hvisited, -⟩ := hq.standing.visit herp hnames hvisit
    have hrows₁ : ∀ i ∈ s₁.work.invoices, i ∈ base' ∨ b.Fresh i := by
      intro i hi
      rcases hvisited.rows hi with rfl | ⟨hold, -⟩
      · exact (hvisited.leftIn hq.rows).imp_left fun hnone => hnone.2
      · exact hq.rows i hold
    have hrest := hvisited.standing.sweep herp hnames hrows₁ h
    have hunpaid : ∀ attempt ∈ latestPaymentAttempt (db.attemptsOf row.id), attempt.status ≠ .paid := by
      intro attempt hattempt hpaid
      have hattempts : s.work.attemptsOf updated.id = db.attemptsOf row.id := by
        rw [hvisited.id, hid, hq.frame]
        rfl
      rw [← hattempts] at hattempt
      have hlonger := hvisited.recorded (Or.inr ⟨attempt, hattempt, hpaid⟩)
      exact absurd hevents (hlonger.trans_le hrest.events).ne'
    -- so the visit was one that does nothing, and the rest of the loop starts from the same books
    obtain ⟨outcome', s₁', hvisit', hq₁, -⟩ := hq.visit hcommits herp hnames hdb hrow hunpaid
    obtain rfl : s₁ = s₁' := congrArg Prod.snd (hvisit.symm.trans hvisit')
    have hevents₁ : s'.work.events.length = s₁.work.events.length := by
      rw [hevents, hq.frame, hq₁.frame]
    intro id hid'
    rcases List.mem_cons.1 hid' with rfl | hlater
    · exact hunpaid
    · exact ih hq₁ (fun id hid => hrows id (List.mem_cons_of_mem _ hid)) h hevents₁ id hlater

end

/-! ### Between two reconciliations -/

/-- What a reconciliation of the tenant leaves: the invoices it went over as the visits left them, and the others as its sync
did. -/
structure Reconciled (b : BilledTenant) (invoiceId : Option Nat) (items : List ErpItem) (base : List BillingInvoice)
    (s : DbSession) : Prop where
  standing : b.Standing s.work
  listed : b.client.listed b.tenant.customerId? = .ok items
  readable : ∀ item ∈ items, item.reference ≠ "" ∧ ∃ amounts, item.amounts = .ok amounts
  filed : newReferences s.work.invoices items = []
  synced : ∃ now old, ∀ row ∈ base, b.Listed now items old row
  rows : ∀ row ∈ s.work.invoices, row ∈ base ∨ b.Fresh row
  visited : ∀ row ∈ s.work.invoices, row.InScope b.tenant.id invoiceId → b.Left base row
  passed : ∀ row ∈ s.work.invoices, (∃ id ∈ invoiceId, row.id ≠ id) → row ∈ base
  committed : s.saved = s.work ∨ ∀ row ∈ s.work.invoices, row.InScope b.tenant.id invoiceId →
    ∃ row ∈ s.work.invoices, row.InScope b.tenant.id invoiceId ∧ reconciledInvoiceIsSettled row = true

/-- A reconciliation that returned leaves the tenant reconciled. -/
theorem reconciled_of_returned {env : Env} {client : PlatformErpClient} (herp : ∀ tick, env.erp tick = client)
    (hnames : client.AnswersByName) {tenantId : Nat} {invoiceId : Option Nat} {s s' : DbSession}
    {summary : TenantBillingReconciliationResult} (hwell : s.work.WellFiled)
    (h : reconcileTenantBilling env tenantId invoiceId s = (.ok summary, s')) :
    ∃ (b : BilledTenant) (items : List ErpItem) (base : List BillingInvoice), b.client = client ∧ b.tenant.id = tenantId ∧
      b.Reconciled invoiceId items base s' := by
  obtain ⟨db, hsync, hloop⟩ := reconcileTenantBilling_returned h
  rw [herp] at hsync
  obtain ⟨tenant, htenant⟩ : ∃ tenant, s.work.tenant? tenantId = some tenant := by
    obtain ⟨tenant, htenant, -⟩ := bind_eq_ok.1 hsync
    exact ⟨tenant, requireTenant_ok htenant⟩
  obtain ⟨items, hsynced⟩ := syncForTenant_ok hwell.filed htenant hsync
  obtain rfl := Db.tenant?_id htenant
  obtain ⟨hstanding, hlisted⟩ := found_synced hwell htenant hsynced
  have hswept := hstanding.sweep herp hnames (s := { s with work := db }) (fun row hrow => Or.inl hrow) hloop
  have hF := hstanding.well.filed
  -- the rows of the loop are those in scope, before it and after it
  have hscope : ∀ row ∈ s'.work.invoices, row.id ∈ invoicesToReconcile db tenant.id invoiceId →
      row.InScope tenant.id invoiceId := by
    intro row hrow hid
    obtain ⟨old, hold, hin, hkey⟩ := mem_invoicesToReconcile.1 hid
    refine ⟨?_, fun id hid => hkey.symm.trans (hin.2 id hid)⟩
    rcases hswept.visited row hrow hid with ⟨-, hbase⟩ | ⟨item, time, -, hfilled⟩
    · rw [List.inj_on_of_nodup_map hF.ids hbase hold hkey.symm]
      exact hin.1
    · exact hfilled.tenantId
  refine ⟨found client tenant s.work, items, db.invoices, rfl, rfl, hswept.standing, hsynced.listed, hsynced.readable, ?_,
    ⟨_, _, hlisted⟩, hswept.rows, fun row hrow hin => ?_, fun row hrow hpassed => ?_, ?_⟩
  · rw [newReferences_congr items hswept.entries]
    exact hsynced.items.newReferences_nil
  · refine hswept.visited row hrow ?_
    by_contra hnot
    exact hnot (mem_invoicesToReconcile.2 ⟨row, hswept.others row hrow hnot, hin, rfl⟩)
  · refine hswept.others row hrow fun hid => ?_
    obtain ⟨id, hmem, hne⟩ := hpassed
    exact hne ((hscope row hrow hid).2 id hmem)
  · by_cases hnone : invoicesToReconcile db tenant.id invoiceId = []
    · refine Or.inr fun row hrow hin => ?_
      have hid : row.id ∈ invoicesToReconcile db tenant.id invoiceId := by
        by_contra hnot
        exact hnot (mem_invoicesToReconcile.2 ⟨row, hswept.others row hrow hnot, hin, rfl⟩)
      rw [hnone] at hid
      cases hid
    · rcases hswept.committed hnone with hsaved | ⟨row, hrow, hid, hsettled⟩
      · exact Or.inl hsaved
      · exact Or.inr fun _ _ _ => ⟨row, hrow, hscope row hrow hid, hsettled⟩

/-- What the sync of the next reconciliation leaves. -/
structure SyncedAgain (b : BilledTenant) (items : List ErpItem) (base : List BillingInvoice) (now : Time) (db db' : Db) :
    Prop where
  standing : b.Standing db'
  frame : db' = { db with accounts := db'.accounts, invoices := db'.invoices }
  entries : db'.invoices.map BillingInvoice.entry = db.invoices.map BillingInvoice.entry
  listed : ∀ row ∈ db'.invoices, b.Listed now items db.invoices row
  alike : ∀ row ∈ db.invoices, ∀ row' ∈ db'.invoices, row'.entry = row.entry → row ∈ base → b.Alike row row'

namespace Reconciled

variable {invoiceId : Option Nat} {items : List ErpItem} {base : List BillingInvoice} {s : DbSession} {now : Time}
  (h : b.Reconciled invoiceId items base s)
include h

theorem customer : ∃ tenant, s.work.tenant? b.tenant.id = some tenant ∧ tenant.customerId? = b.tenant.customerId? :=
  Option.map_eq_some_iff.1 h.standing.customer

theorem syncs : ∃ db', syncForTenant b.tenant.id 50 now b.client s.work = .ok ((), db') := by
  obtain ⟨tenant, htenant, hcustomer⟩ := h.customer
  refine syncForTenant_succeeds h.standing.well.filed htenant ?_ h.readable h.filed
  rw [hcustomer]
  exact h.listed

theorem syncedAgain {db' : Db} (hsync : syncForTenant b.tenant.id 50 now b.client s.work = .ok ((), db')) :
    b.SyncedAgain items base now s.work db' := by
  obtain ⟨tenant, htenant, hcustomer⟩ := h.customer
  obtain ⟨items', hsynced⟩ := syncForTenant_ok h.standing.well.filed htenant hsync
  obtain rfl : items' = items := by
    have hlisted := hsynced.listed
    rw [hcustomer, h.listed] at hlisted
    exact (Except.ok.inj hlisted).symm
  obtain ⟨hstanding, hlisted⟩ := h.standing.synced htenant hsynced
  refine ⟨hstanding, hsynced.frame, hsynced.items.entries h.filed, hlisted, fun row hrow row' hrow' hentry hbase => ?_⟩
  obtain ⟨first, old, hold⟩ := h.synced
  exact (hold row hbase).alike (hlisted row' hrow') h.standing.well.filed.ids hrow hentry

/-- Rows with one entry are the tenant's or not, before the next sync and after it. -/
theorem tenantId_congr {db' : Db} (hagain : b.SyncedAgain items base now s.work db') {row row' : BillingInvoice}
    (hrow : row ∈ s.work.invoices) (hrow' : row' ∈ db'.invoices) (hentry : row'.entry = row.entry) :
    row'.tenantId = row.tenantId := by
  rcases h.rows row hrow with hbase | ⟨item, time, -, hfilled⟩
  · exact (hagain.alike row hrow row' hrow' hentry hbase).tenantId
  · rcases hagain.listed row' hrow' with ⟨item', -, hfilled'⟩ | ⟨-, hold⟩
    · rw [hfilled.tenantId, hfilled'.tenantId]
    · rw [List.inj_on_of_nodup_map h.standing.well.filed.ids hold hrow (congrArg Prod.fst hentry)]

/-- The next reconciliation goes over the rows in scope. -/
theorem mem_scope {db' : Db} (hagain : b.SyncedAgain items base now s.work db') {row : BillingInvoice}
    (hrow : row ∈ s.work.invoices) :
    row.id ∈ invoicesToReconcile db' b.tenant.id invoiceId ↔ row.InScope b.tenant.id invoiceId := by
  obtain ⟨row', hrow', hentry⟩ : ∃ row' ∈ db'.invoices, row'.entry = row.entry := by
    have hmem : row.entry ∈ s.work.invoices.map BillingInvoice.entry := List.mem_map_of_mem hrow
    rw [← hagain.entries] at hmem
    exact List.mem_map.1 hmem
  have hid : row'.id = row.id := congrArg Prod.fst hentry
  have hscope : row'.InScope b.tenant.id invoiceId ↔ row.InScope b.tenant.id invoiceId := by
    unfold BillingInvoice.InScope
    rw [h.tenantId_congr hagain hrow hrow' hentry, hid]
  rw [mem_invoicesToReconcile, ← hscope]
  constructor
  · rintro ⟨other, hother, hin, hkey⟩
    rwa [← List.inj_on_of_nodup_map hagain.standing.well.filed.ids hother hrow' (hkey.trans hid.symm)]
  · exact fun hin => ⟨row', hrow', hin, hid⟩

/-- The rows the next reconciliation goes over. -/
theorem scope_rows {db' : Db} (hagain : b.SyncedAgain items base now s.work db') {id : Nat}
    (hid : id ∈ invoicesToReconcile db' b.tenant.id invoiceId) :
    ∃ row ∈ s.work.invoices, row.id = id ∧ row.InScope b.tenant.id invoiceId := by
  obtain ⟨row', hrow', -, hkey⟩ := mem_invoicesToReconcile.1 hid
  obtain ⟨row, hrow, hentry⟩ : ∃ row ∈ s.work.invoices, row.entry = row'.entry := by
    have hmem : row'.entry ∈ db'.invoices.map BillingInvoice.entry := List.mem_map_of_mem hrow'
    rw [hagain.entries] at hmem
    exact List.mem_map.1 hmem
  have hsame : row.id = id := (congrArg Prod.fst hentry).trans hkey
  refine ⟨row, hrow, hsame, (h.mem_scope hagain hrow).1 ?_⟩
  rw [hsame]
  exact hid

theorem settling {db' : Db} (hagain : b.SyncedAgain items base now s.work db') {row : BillingInvoice}
    (hrow : row ∈ s.work.invoices) (hin : row.InScope b.tenant.id invoiceId)
    (hopen : reconciledInvoiceIsSettled row = false) : b.Settling s.work base db'.invoices row :=
  ⟨hrow, h.visited row hrow hin, hopen,
    fun row' hentry hbase hbase' => hagain.alike row hrow row' hbase' hentry hbase⟩

/-- With nothing due, the rows the next reconciliation leaves are those before it, but for the times of the syncs. -/
theorem unsynced_again {db' : Db} {s' : DbSession} (hagain : b.SyncedAgain items base now s.work db')
    (hdue : NothingDue b.client b.tenant.id invoiceId now s.work)
    (hswept : b.Swept db'.invoices (invoicesToReconcile db' b.tenant.id invoiceId) { s with work := db' } s')
    {row row' : BillingInvoice} (hrow : row ∈ s.work.invoices) (hrow' : row' ∈ s'.work.invoices)
    (hentry : row'.entry = row.entry) : row'.unsynced = row.unsynced := by
  have hid : row'.id = row.id := congrArg Prod.fst hentry
  by_cases hin : row.InScope b.tenant.id invoiceId
  · have hmem : row'.id ∈ invoicesToReconcile db' b.tenant.id invoiceId := by
      rw [hid]
      exact (h.mem_scope hagain hrow).2 hin
    have hopen := hdue.unsettled row hrow hin
    have halike := (h.visited row hrow hin).alike (hswept.visited row' hrow' hmem)
      (itemOf_congr h.standing hswept.standing hrow hrow' hentry)
      ((h.settling hagain hrow hin hopen).alike row' hentry)
    exact halike.unsynced hentry hopen
  · have hsynced : row' ∈ db'.invoices := by
      refine hswept.others row' hrow' fun hmem => hin ((h.mem_scope hagain hrow).1 ?_)
      rw [← hid]
      exact hmem
    rcases hagain.listed row' hsynced with ⟨item, hitem, hfilled'⟩ | ⟨-, hold⟩
    · -- a listed row is the tenant's, so the reconciliation passed over it for its id
      have htenant : row.tenantId = b.tenant.id := by
        rw [← h.tenantId_congr hagain hrow hsynced hentry]
        exact hfilled'.tenantId
      have hpassed : ∃ id ∈ invoiceId, row.id ≠ id := by
        by_contra hnone
        refine hin ⟨htenant, fun id hmem => ?_⟩
        by_contra hne
        exact hnone ⟨id, hmem, hne⟩
      have hlisted : row.listedIn items = some item := by
        rw [← hitem]
        unfold BillingInvoice.listedIn
        rw [show row'.erpInvoiceId = row.erpInvoiceId from congrArg (fun e => e.2.2) hentry]
      obtain ⟨first, old, hold⟩ := h.synced
      rcases hold row (h.passed row hrow hpassed) with ⟨item', hitem', hfilled⟩ | ⟨hnone, -⟩
      · rw [hlisted] at hitem'
        obtain rfl := Option.some.inj hitem'
        refine hfilled.unsynced_of_paidAt hfilled' hentry ?_
        cases hstamp : item.stampsPayment with
        | false => rw [hfilled.unstamped hstamp, hfilled'.unstamped hstamp]
        | true =>
          obtain ⟨tenant, hfound, hcustomer⟩ := h.customer
          have hlist := h.listed
          rw [← hcustomer] at hlist
          rw [hfilled'.stamped hstamp, hdue.dated row hrow hpassed tenant hfound items hlist item hlisted hstamp]
      · rw [hlisted] at hnone
        cases hnone
    · rw [List.inj_on_of_nodup_map h.standing.well.filed.ids hold hrow hid]

theorem invoices_again {db' : Db} {s' : DbSession} (hagain : b.SyncedAgain items base now s.work db')
    (hdue : NothingDue b.client b.tenant.id invoiceId now s.work)
    (hswept : b.Swept db'.invoices (invoicesToReconcile db' b.tenant.id invoiceId) { s with work := db' } s') :
    s'.work.invoices.map BillingInvoice.unsynced = s.work.invoices.map BillingInvoice.unsynced :=
  map_eq_of_map_eq (hswept.entries.trans hagain.entries) fun _ hrow' _ hrow hentry =>
    h.unsynced_again hagain hdue hswept hrow hrow' hentry

/-- With nothing due, a reconciliation does nothing. -/
theorem idle {env : Env} (hcommits : ∀ tick, env.commitFails tick = false) (herp : ∀ tick, env.erp tick = b.client)
    (hnames : b.client.AnswersByName) (hdue : NothingDue b.client b.tenant.id invoiceId (env.clock s.tick) s.work) :
    ReconcilesIdly env b.tenant.id invoiceId s := by
  obtain ⟨db', hsync⟩ : ∃ db', syncForTenant b.tenant.id 50 (env.clock s.tick) b.client s.work = .ok ((), db') := h.syncs
  have hagain := h.syncedAgain hsync
  have hrun : ∀ summary s', reconcileInvoices env b.tenant.id (invoicesToReconcile db' b.tenant.id invoiceId)
      (emptySummary b.tenant.id) { s with work := db' } = (.ok summary, s') →
      reconcileTenantBilling env b.tenant.id invoiceId s = (.ok summary, s') := by
    intro summary s' hloop
    rw [reconcileTenantBilling_apply, herp, hsync]
    exact hloop
  have hsame : ∀ {s' : DbSession}, b.Swept db'.invoices (invoicesToReconcile db' b.tenant.id invoiceId)
      { s with work := db' } s' → s'.work = { s.work with accounts := s'.work.accounts, invoices := s'.work.invoices } →
      s.work.SameBooks s'.work := by
    intro s' hswept hframe
    refine ⟨h.invoices_again hagain hdue hswept, ?_, ?_, fun t => ?_, ?_, ?_, ?_⟩
    · rw [hframe]
    · rw [hframe]
    · rw [hframe]
      rfl
    · rw [hframe]
    · rw [hframe]
    · rw [hframe]
  by_cases hnone : invoicesToReconcile db' b.tenant.id invoiceId = []
  · have hloop : reconcileInvoices env b.tenant.id (invoicesToReconcile db' b.tenant.id invoiceId)
        (emptySummary b.tenant.id) { s with work := db' } = (.ok (emptySummary b.tenant.id), { s with work := db' }) := by
      rw [hnone]
      rfl
    have hswept := hagain.standing.sweep herp hnames (s := { s with work := db' }) (fun row hrow => Or.inl hrow) hloop
    refine ⟨_, _, hrun _ _ hloop, hsame hswept hagain.frame, ?_, rfl, rfl, rfl⟩
    exact ⟨rfl, rfl, rfl, fun _ => rfl, rfl, rfl, rfl⟩
  · -- some invoice is in scope and unsettled, so the last visit before committed what there was
    have hsaved : s.saved = s.work := by
      refine h.committed.resolve_right fun hsettled => ?_
      obtain ⟨id, hid⟩ := List.exists_mem_of_ne_nil _ hnone
      obtain ⟨row, hrow, -, hin⟩ := h.scope_rows hagain hid
      obtain ⟨row', hrow', hin', hdone⟩ := hsettled row hrow hin
      rw [hdue.unsettled row' hrow' hin'] at hdone
      cases hdone
    have hquiet : b.Quiet s.work db'.invoices { s with work := db' } :=
      ⟨hagain.standing, hagain.frame, congrArg Db.tenants hsaved, congrArg Db.attempts hsaved, hagain.entries,
        fun row hrow => Or.inl hrow⟩
    have hrows : ∀ id ∈ invoicesToReconcile db' b.tenant.id invoiceId, ∃ row, row.id = id ∧
        b.Settling s.work base db'.invoices row ∧
        ∀ attempt ∈ latestPaymentAttempt (s.work.attemptsOf row.id), attempt.status ≠ .paid := by
      intro id hid
      obtain ⟨row, hrow, rfl, hin⟩ := h.scope_rows hagain hid
      exact ⟨row, rfl, h.settling hagain hrow hin (hdue.unsettled row hrow hin), hdue.unpaid row hrow hin⟩
    obtain ⟨summary, s', hloop, hquiet', hend, hattempts, hrepairs, hrequeues⟩ :=
      hquiet.sweep hcommits herp hnames (emptySummary b.tenant.id) h.standing hrows
    have hswept := hagain.standing.sweep herp hnames (s := { s with work := db' }) (fun row hrow => Or.inl hrow) hloop
    have hbooks := hsame hswept hquiet'.frame
    refine ⟨summary, s', hrun _ _ hloop, hbooks, ?_, hattempts, hrepairs, hrequeues⟩
    rw [hsaved, hend.resolve_left fun hempty => hnone hempty.1]
    exact hbooks

/-- A reconciliation that does nothing found nothing due. -/
theorem due {env : Env} (hcommits : ∀ tick, env.commitFails tick = false) (herp : ∀ tick, env.erp tick = b.client)
    (hnames : b.client.AnswersByName) (hidle : ReconcilesIdly env b.tenant.id invoiceId s) :
    NothingDue b.client b.tenant.id invoiceId (env.clock s.tick) s.work := by
  obtain ⟨summary, s', hrun, hbooks, -⟩ := hidle
  obtain ⟨db', hsync, hloop⟩ := reconcileTenantBilling_returned hrun
  rw [herp] at hsync
  have hagain := h.syncedAgain hsync
  have hswept := hagain.standing.sweep herp hnames (s := { s with work := db' }) (fun row hrow => Or.inl hrow) hloop
  have hevents : s'.work.events.length = db'.events.length := by
    rw [hbooks.events, hagain.frame]
  have hafter : ∀ row ∈ s.work.invoices, ∃ row' ∈ s'.work.invoices, row'.entry = row.entry := by
    intro row hrow
    have hmem : row.entry ∈ s.work.invoices.map BillingInvoice.entry := List.mem_map_of_mem hrow
    rw [← hagain.entries] at hmem
    have hmem' : row.entry ∈ s'.work.invoices.map BillingInvoice.entry := by
      rw [hswept.entries]
      exact hmem
    exact List.mem_map.1 hmem'
  have hunsettled : ∀ row ∈ s.work.invoices, row.InScope b.tenant.id invoiceId →
      reconciledInvoiceIsSettled row = false := by
    intro row hrow hin
    obtain ⟨row', hrow', hentry⟩ := hafter row hrow
    have hid : row'.id = row.id := congrArg Prod.fst hentry
    have hmem : row'.id ∈ invoicesToReconcile db' b.tenant.id invoiceId := by
      rw [hid]
      exact (h.mem_scope hagain hrow).2 hin
    have halike := (h.visited row hrow hin).alike (hswept.visited row' hrow' hmem)
      (itemOf_congr h.standing hswept.standing hrow hrow' hentry)
      fun hbase hbase' => hagain.alike row hrow row' hbase' hentry hbase
    refine Bool.eq_false_iff.2 fun hsettled => ?_
    rw [← halike.settled] at hsettled
    exact absurd hevents (hswept.recorded row' hrow' hmem hsettled).ne'
  refine ⟨hunsettled, fun row hrow hin => ?_, fun row hrow hpassed tenant hfound items' hlist item hlisted hstamp => ?_⟩
  · have hsaved : s.saved = s.work := by
      refine h.committed.resolve_right fun hsettled => ?_
      obtain ⟨row', hrow', hin', hdone⟩ := hsettled row hrow hin
      rw [hunsettled row' hrow' hin'] at hdone
      cases hdone
    have hquiet : b.Quiet s.work db'.invoices { s with work := db' } :=
      ⟨hagain.standing, hagain.frame, congrArg Db.tenants hsaved, congrArg Db.attempts hsaved, hagain.entries,
        fun row hrow => Or.inl hrow⟩
    have hrows : ∀ id ∈ invoicesToReconcile db' b.tenant.id invoiceId, ∃ row, row.id = id ∧
        b.Settling s.work base db'.invoices row := by
      intro id hid
      obtain ⟨row', hrow', rfl, hin'⟩ := h.scope_rows hagain hid
      exact ⟨row', rfl, h.settling hagain hrow' hin' (hunsettled row' hrow' hin')⟩
    exact hquiet.unpaid hcommits herp hnames h.standing hrows hloop hevents row.id ((h.mem_scope hagain hrow).2 hin)
  · -- the sync stamps the payment anew, and no visit comes to the row
    obtain ⟨tenant', hfound', hcustomer⟩ := h.customer
    rw [hfound'] at hfound
    obtain rfl := Option.some.inj hfound
    rw [hcustomer, h.listed] at hlist
    obtain rfl := Except.ok.inj hlist
    obtain ⟨row', hrow', hentry⟩ := hafter row hrow
    have hid : row'.id = row.id := congrArg Prod.fst hentry
    have hsynced : row' ∈ db'.invoices := by
      refine hswept.others row' hrow' fun hmem => ?_
      rw [hid] at hmem
      obtain ⟨id, hmemId, hne⟩ := hpassed
      exact hne (((h.mem_scope hagain hrow).1 hmem).2 id hmemId)
    have hlisted' : row'.listedIn items = some item := by
      rw [← hlisted]
      unfold BillingInvoice.listedIn
      rw [show row'.erpInvoiceId = row.erpInvoiceId from congrArg (fun e => e.2.2) hentry]
    have hpaidAt : row'.paidAt = row.paidAt := by
      have hmem : row'.unsynced ∈ s'.work.invoices.map BillingInvoice.unsynced := List.mem_map_of_mem hrow'
      rw [hbooks.invoices] at hmem
      obtain ⟨row'', hrow'', hsame⟩ := List.mem_map.1 hmem
      have hkey : row''.id = row'.id := show row''.unsynced.id = row'.unsynced.id by rw [hsame]
      obtain rfl := List.inj_on_of_nodup_map h.standing.well.filed.ids hrow'' hrow (hkey.trans hid)
      exact show row'.unsynced.paidAt = row''.unsynced.paidAt by rw [hsame]
    rcases hagain.listed row' hsynced with ⟨item', hitem', hfilled'⟩ | ⟨hnone, -⟩
    · rw [hlisted'] at hitem'
      obtain rfl := Option.some.inj hitem'
      rw [← hpaidAt, hfilled'.stamped hstamp]
    · rw [hlisted'] at hnone
      cases hnone

end Reconciled

end BilledTenant

/-! ### In a run -/

theorem referencesStripped_ledger (w : World) (e : Event) :
    LedgerInvariant (fun db => db.InvoicesFiled ∧ db.ReferencesStripped) w e where
  ids _ h := h.1.ids
  same _ _ hsame _ h := ⟨h.1.congr hsame.invoices, h.2.congr hsame.invoices⟩
  customer _ _ _ hsame h := ⟨h.1.congr hsame.invoices, h.2.congr hsame.invoices⟩
  flush _ _ _ _ h := ⟨h.1.congr rfl, h.2.congr rfl⟩
  resynced _ _ _ _ _ _ h _ _ _ hresync := ⟨h.1.resync hresync, h.2.resync hresync⟩
  settled _ _ _ h hrow hsettled := by
    refine ⟨h.1.put hrow hsettled.id hsettled.reference hsettled.number, fun i hi reference hreference => ?_⟩
    rcases mem_put hi with rfl | hi
    · rw [hsettled.reference] at hreference
      exact h.2 _ (mem_of_get? hrow) reference hreference
    · exact h.2 i hi reference hreference
  marked _ _ _ h _ _ := ⟨h.1.congr rfl, h.2.congr rfl⟩
  synced tick tenantId limit db u db' h hr := by
    obtain ⟨tenant, -, hr⟩ := bind_eq_ok.1 hr
    obtain ⟨⟨rows, db₁⟩, hsync, hr⟩ := bind_eq_ok.1 hr
    cases hr
    exact ⟨h.1.sync hsync, h.2.sync hsync⟩
  attempted h invoiceId provider invoice tenant owner _ _ attemptId db' hr := by
    obtain ⟨updated, db₁, checkout, hresync, -, -, -, rfl⟩ := preparePaymentAttempt_ledger hr
    have hadded := (addPaymentAttempt_ledger db₁ tenant updated checkout (e.env.clock 0)).invoices
    exact ⟨(h.1.resync hresync).congr hadded, (h.2.resync hresync).congr hadded⟩

theorem step_referencesStripped {w : World} (e : Event) (h : w.db.InvoicesFiled ∧ w.db.ReferencesStripped) :
    (step w e).db.InvoicesFiled ∧ (step w e).db.ReferencesStripped :=
  step_preserves ((referencesStripped_ledger w e).preserved h) h

/-- In every run the rows stay well filed. -/
theorem run_wellFiled {w : World} (es : List Event) (hrows : w.db.PayingRows) (hstripped : w.db.ReferencesStripped) :
    (Runs.run step w es).db.WellFiled := by
  induction es generalizing w with
  | nil => exact ⟨hrows.filed, hstripped, hrows.unique.ids⟩
  | cons e es ih => exact ih (step_payingRows e hrows) (step_referencesStripped e ⟨hrows.filed, hstripped⟩).2

/-! ### The second reconciliation -/

/-- When a reconciliation has returned and the ERP's data stays as it is, a second one does nothing exactly if the first one
left nothing due: no invoice it went over is settled or has a latest attempt that is paid, and none it passed over is stamped
paid anew. -/
theorem reconciled_twice_iff {env : Env} {client : PlatformErpClient} (hcommits : ∀ tick, env.commitFails tick = false)
    (herp : ∀ tick, env.erp tick = client) (hnames : client.AnswersByName) {tenantId : Nat} {invoiceId : Option Nat}
    {s s' : DbSession} {summary : TenantBillingReconciliationResult} (hwell : s.work.WellFiled)
    (h : reconcileTenantBilling env tenantId invoiceId s = (.ok summary, s')) :
    ReconcilesIdly env tenantId invoiceId s' ↔ NothingDue client tenantId invoiceId (env.clock s'.tick) s'.work := by
  obtain ⟨b, items, base, rfl, rfl, hreconciled⟩ := BilledTenant.reconciled_of_returned herp hnames hwell h
  exact ⟨hreconciled.due hcommits herp hnames, hreconciled.idle hcommits herp hnames⟩

/-- An environment whose ERP has one invoice. -/
def Small.oneInvoice (item : ErpItem) : Env :=
  { env with erp := fun _ => { Small.listing [item] with
      getInvoice := fun reference => .ok (if reference = "INV-1" then item else ErpItem.empty) } }

/-- The session after a first reconciliation of the tenant with its invoice. -/
def Small.reconciled (item : ErpItem) : DbSession :=
  (reconcileTenantBilling (oneInvoice item) 1 none (opened linked.db [])).2

set_option maxRecDepth 100000 in
/-- The invoice is paid: a second reconciliation writes another billing event. -/
theorem paid_invoice_repaired_again :
    (reconcileTenantBilling (Small.oneInvoice (Small.paidItem "INV-1" 10)) 1 none (opened Small.linked.db [])).1.isOk =
      true ∧
    ¬ReconcilesIdly (Small.oneInvoice (Small.paidItem "INV-1" 10)) 1 none (Small.reconciled (Small.paidItem "INV-1" 10)) := by
  refine ⟨by decide +kernel, ?_⟩
  rintro ⟨summary, s', hrun, hbooks, -⟩
  have hevents := congrArg List.length hbooks.events
  rw [show s' = _ from congrArg Prod.snd hrun.symm] at hevents
  revert hevents
  decide +kernel

theorem returned_of_isOk {α : Type} {p : Except PyError α × DbSession} (h : p.1.isOk = true) : ∃ a, p = (.ok a, p.2) := by
  obtain ⟨r, s⟩ := p
  cases r with
  | ok a => exact ⟨a, rfl⟩
  | error e => cases h

set_option maxRecDepth 100000 in
/-- An open invoice is reconciled again to no effect. -/
theorem open_invoice_reconciled_twice :
    ReconcilesIdly (Small.oneInvoice Small.openItem) 1 none (Small.reconciled Small.openItem) := by
  have hnames : ((Small.oneInvoice Small.openItem).erp 0).AnswersByName := by
    intro reference item hanswer
    obtain rfl := Except.ok.inj hanswer
    by_cases hreference : reference = "INV-1"
    · rw [if_pos hreference, hreference]
      exact Or.inr rfl
    · exact Or.inl (if_neg hreference)
  have hwell : Small.linked.db.WellFiled := by
    refine ⟨⟨by decide +kernel, by decide +kernel, by decide +kernel⟩, ?_, by decide +kernel⟩
    unfold Db.ReferencesStripped
    decide +kernel
  obtain ⟨summary, hrun⟩ := returned_of_isOk
    (show (reconcileTenantBilling (Small.oneInvoice Small.openItem) 1 none (opened Small.linked.db [])).1.isOk = true by
      decide +kernel)
  refine (reconciled_twice_iff (fun _ => rfl) (fun _ => rfl) hnames hwell hrun).2 ⟨?_, ?_, ?_⟩
  · unfold BillingInvoice.InScope
    decide +kernel
  · unfold BillingInvoice.InScope
    decide +kernel
  · rintro invoice - ⟨id, hid, -⟩
    cases hid

end ControlPlane
