import ControlPlane.Billing.Lifecycle
import ControlPlane.Support.PlatformErpClient

/-!
# Invoice sync

Copying ERP invoice items into `billing_invoices`.  An item is matched to a row by its reference, looked up in the
rows as they were flushed last: the session does not flush before a query, so two items with one reference that no row
has yet make two rows, which the uniqueness constraints refuse at the next flush.
-/

namespace ControlPlane

open Table

/-- The reference an item is filed under. -/
def ErpItem.reference (item : ErpItem) : String :=
  strip ((orText item.name (orText item.invoiceNumber (orText item.invoice none))).getD "")

/-- `_normalize_invoice_status`. -/
def normalizeInvoiceStatus (item : ErpItem) (amountDue amountPaid : Int) : InvoiceStatus :=
  let raw := normalize ((orText item.status none).getD "")
  if raw ∈ ["cancelled", "canceled", "void", "voided", "credit note issued"] then .cancelled
  else if amountDue ≤ 0 ∧ 0 < amountPaid then .paid
  else if raw ∈ ["paid", "settled", "closed"] then .paid
  else if raw ∈ ["overdue", "past due"] then .pastDue
  else if raw = "draft" then .draft
  else .paymentPending

/-- A tenant's customer id, if the column holds a non-empty text. -/
def Tenant.customerId? (tenant : Tenant) : Option String := orText tenant.platformCustomerId none

/-- `ensure_billing_account`: the tenant's account, created (and flushed) if it has none. -/
def ensureBillingAccount (db : Db) (tenant : Tenant) : Db × BillingAccount :=
  match db.accountOf tenant.id with
  | some existing =>
    if tenant.customerId?.isSome ∧ (orText existing.erpCustomerId none).isNone then
      let existing := { existing with erpCustomerId := tenant.platformCustomerId }
      ({ db with accounts := put db.accounts existing }, existing)
    else
      (db, existing)
  | none =>
    let account : BillingAccount :=
      { id := fresh db.accounts
        tenantId := tenant.id
        customerId := some tenant.ownerId
        erpCustomerId := tenant.platformCustomerId
        currency := "TZS"
        status := if tenant.customerId?.isSome then "linked" else "erp_missing" }
    ({ db with accounts := insert db.accounts account }, account)

/-- The row an item is filed in: the flushed row with its reference as ERP id or invoice number, or a new one. -/
def findOrAddInvoice (flushed : List BillingInvoice) (db : Db) (tenant : Tenant) (account : BillingAccount)
    (reference : String) (now : Time) : Db × BillingInvoice :=
  match flushed.find? fun i => i.erpInvoiceId = some reference ∨ i.invoiceNumber = some reference with
  | some found => (db, (db.invoice? found.id).getD found)
  | none =>
    let invoice : BillingInvoice :=
      { id := fresh db.invoices
        tenantId := tenant.id
        subscriptionId := (db.subscriptionOf tenant.id).map Subscription.id
        billingAccountId := account.id
        erpInvoiceId := some reference
        invoiceNumber := some reference
        amountDue := 0
        amountPaid := 0
        currency := "TZS"
        invoiceStatus := .paymentPending
        collectionStage := none
        dueDate := none
        issuedAt := none
        paidAt := none
        lastSyncedAt := none
        createdAt := now }
    ({ db with invoices := insert db.invoices invoice }, invoice)

/-- The columns of an invoice row as an item sets them. -/
def fillInvoice (invoice : BillingInvoice) (tenant : Tenant) (subscription : Option Subscription)
    (account : BillingAccount) (item : ErpItem) (amountDue amountPaid : Int) (now : Time) : BillingInvoice :=
  let status := normalizeInvoiceStatus item amountDue amountPaid
  { invoice with
    tenantId := tenant.id
    subscriptionId := subscription.map Subscription.id
    billingAccountId := account.id
    erpInvoiceId := some item.reference
    invoiceNumber := some item.reference
    amountDue := amountDue
    amountPaid := amountPaid
    currency := (orText item.currency (orText (some account.currency) none)).getD "TZS"
    invoiceStatus := status
    collectionStage := nonEmpty (normalize ((orText item.status (some status.text)).getD ""))
    dueDate := item.dueDate.parse
    issuedAt := item.postingDate.parse
    paidAt :=
      if item.paidAt.truthy then item.paidAt.parse
      else if status = .paid ∧ 0 < amountPaid then some now
      else none
    lastSyncedAt := some now }

/-- What an item says was paid: the part of its total that is not due, or its paid amount if it has no total. -/
def ErpItem.amountPaid (item : ErpItem) (amountTotal amountDue : Int) : Except PyError Int :=
  if amountTotal ≠ 0 then .ok (max (amountTotal - amountDue) 0) else toMinorUnits item.paidAmount

/-- `upsert_billing_invoice_from_erp_item`. -/
def upsertBillingInvoiceFromErpItem (flushed : List BillingInvoice) (db : Db) (tenant : Tenant)
    (account : BillingAccount) (item : ErpItem) (now : Time) : Except PyError (BillingInvoice × Db) :=
  if item.reference = "" then
    .error (.valueError "ERP invoice item missing name")
  else do
    let (db, invoice) := findOrAddInvoice flushed db tenant account item.reference now
    let amountDue ← toMinorUnits item.outstandingAmount
    let amountTotal ← toMinorUnits item.grandTotal
    let amountPaid ← item.amountPaid amountTotal amountDue
    let invoice := fillInvoice invoice tenant (db.subscriptionOf tenant.id) account item amountDue amountPaid now
    return (invoice, db.putInvoice invoice)

/-- `db.flush()` after invoice writes: the two uniqueness constraints of `billing_invoices`. -/
def flushInvoices (db : Db) : Except PyError Db :=
  if ¬(db.invoices.filterMap BillingInvoice.erpInvoiceId).Nodup then
    .error (.integrityError "billing_invoices.erp_invoice_id")
  else if ¬(db.invoices.filterMap BillingInvoice.invoiceNumber).Nodup then
    .error (.integrityError "billing_invoices.invoice_number")
  else
    .ok db

/-- The items of a sync, one after another; `flushed` stays what it was before the first. -/
def upsertItems (flushed : List BillingInvoice) (tenant : Tenant) (account : BillingAccount) (now : Time) :
    List ErpItem → Db → Except PyError (List BillingInvoice × Db)
  | [], db => .ok ([], db)
  | item :: items, db => do
    let (invoice, db) ← upsertBillingInvoiceFromErpItem flushed db tenant account item now
    let (invoices, db) ← upsertItems flushed tenant account now items db
    return (invoice :: invoices, db)

/-- `sync_platform_invoices_for_tenant`. -/
def syncPlatformInvoicesForTenant (client : PlatformErpClient) (db : Db) (tenant : Tenant) (limit : Nat)
    (now : Time) : Except PyError (List BillingInvoice × Db) :=
  match client.isConfigured, tenant.customerId? with
  | true, some customerId => do
    let (db, account) := ensureBillingAccount db tenant
    let items ← client.listInvoices customerId limit
    let (invoices, db) ← upsertItems db.invoices tenant account now items db
    let db ← flushInvoices db
    return (invoices, db)
  | _, _ => .ok (db.invoicesOf tenant.id, db)

/-- The item the ERP has for a reference: `get_invoice`, or when that raises the first match of `list_invoices`. -/
def fetchInvoiceItem (client : PlatformErpClient) (customerId reference : String) :
    Except PyError (Option ErpItem) :=
  match client.getInvoice reference with
  | .ok item => .ok (some item)
  | .error _ => do
    let entries ← client.listInvoices customerId 50
    return entries.find? fun entry => strip ((orText entry.name none).getD "") = reference

/-- `resync_one_invoice`: the invoice as the ERP has it now.  The row returned is the one the ERP's item is filed in,
which need not be the row asked for. -/
def resyncOneInvoice (client : PlatformErpClient) (db : Db) (tenant : Tenant) (invoice : BillingInvoice)
    (now : Time) : Except PyError (BillingInvoice × Db) :=
  match client.isConfigured, tenant.customerId? with
  | true, some customerId =>
    let reference := strip ((orText invoice.erpInvoiceId (orText invoice.invoiceNumber none)).getD "")
    if reference = "" then
      .ok (invoice, db)
    else do
      let (db, account) := ensureBillingAccount db tenant
      match ← fetchInvoiceItem client customerId reference with
      | none => return (invoice, db)
      | some item =>
        let (updated, db) ← upsertBillingInvoiceFromErpItem db.invoices db tenant account item now
        let db ← flushInvoices db
        return (updated, db)
  | _, _ => .ok (invoice, db)

/-! ### What a sync leaves alone -/

theorem ensureBillingAccount_frame {db db' : Db} {tenant : Tenant} {account : BillingAccount}
    (h : ensureBillingAccount db tenant = (db', account)) : ∃ accounts, db' = { db with accounts := accounts } := by
  unfold ensureBillingAccount at h
  split at h
  · split at h
    · cases h; exact ⟨_, rfl⟩
    · cases h; exact ⟨db.accounts, rfl⟩
  · cases h; exact ⟨_, rfl⟩

theorem findOrAddInvoice_frame {flushed : List BillingInvoice} {db db' : Db} {tenant : Tenant}
    {account : BillingAccount} {reference : String} {now : Time} {invoice : BillingInvoice}
    (h : findOrAddInvoice flushed db tenant account reference now = (db', invoice)) :
    ∃ invoices, db' = { db with invoices := invoices } := by
  unfold findOrAddInvoice at h
  split at h
  · cases h; exact ⟨db.invoices, rfl⟩
  · cases h; exact ⟨_, rfl⟩

theorem upsertBillingInvoiceFromErpItem_frame {flushed : List BillingInvoice} {db db' : Db} {tenant : Tenant}
    {account : BillingAccount} {item : ErpItem} {now : Time} {invoice : BillingInvoice}
    (h : upsertBillingInvoiceFromErpItem flushed db tenant account item now = .ok (invoice, db')) :
    ∃ invoices, db' = { db with invoices := invoices } := by
  unfold upsertBillingInvoiceFromErpItem at h
  split at h
  · cases h
  · split at h
    rename_i db₁ found hfound
    obtain ⟨invoices, rfl⟩ := findOrAddInvoice_frame hfound
    obtain ⟨due, -, h⟩ := bind_eq_ok.1 h
    obtain ⟨total, -, h⟩ := bind_eq_ok.1 h
    obtain ⟨paid, -, h⟩ := bind_eq_ok.1 h
    cases h
    exact ⟨_, rfl⟩

theorem flushInvoices_eq {db db' : Db} (h : flushInvoices db = .ok db') : db' = db := by
  unfold flushInvoices at h
  split at h
  · cases h
  · split at h
    · cases h
    · cases h; rfl

theorem upsertItems_frame {flushed : List BillingInvoice} {tenant : Tenant} {account : BillingAccount} {now : Time}
    {items : List ErpItem} {db db' : Db} {rows : List BillingInvoice}
    (h : upsertItems flushed tenant account now items db = .ok (rows, db')) :
    ∃ invoices, db' = { db with invoices := invoices } := by
  induction items generalizing db rows with
  | nil =>
    cases h
    exact ⟨_, rfl⟩
  | cons item items ih =>
    obtain ⟨⟨invoice, db₁⟩, h₁, h⟩ := bind_eq_ok.1 h
    obtain ⟨⟨rest, db₂⟩, h₂, h⟩ := bind_eq_ok.1 h
    cases h
    obtain ⟨i₁, rfl⟩ := upsertBillingInvoiceFromErpItem_frame h₁
    obtain ⟨i₂, rfl⟩ := ih h₂
    exact ⟨i₂, rfl⟩

theorem syncPlatformInvoicesForTenant_frame {client : PlatformErpClient} {db db' : Db} {tenant : Tenant} {limit : Nat}
    {now : Time} {rows : List BillingInvoice}
    (h : syncPlatformInvoicesForTenant client db tenant limit now = .ok (rows, db')) :
    ∃ accounts invoices, db' = { db with accounts := accounts, invoices := invoices } := by
  unfold syncPlatformInvoicesForTenant at h
  split at h
  · split at h
    rename_i db₁ account haccount
    obtain ⟨accounts, rfl⟩ := ensureBillingAccount_frame haccount
    obtain ⟨items, -, h⟩ := bind_eq_ok.1 h
    obtain ⟨⟨written, db₂⟩, hitems, h⟩ := bind_eq_ok.1 h
    obtain ⟨db₃, hflush, h⟩ := bind_eq_ok.1 h
    cases h
    obtain rfl := flushInvoices_eq hflush
    obtain ⟨invoices, rfl⟩ := upsertItems_frame hitems
    exact ⟨accounts, invoices, rfl⟩
  · cases h
    exact ⟨_, _, rfl⟩

theorem resyncOneInvoice_frame {client : PlatformErpClient} {db db' : Db} {tenant : Tenant}
    {invoice updated : BillingInvoice} {now : Time}
    (h : resyncOneInvoice client db tenant invoice now = .ok (updated, db')) :
    ∃ accounts invoices, db' = { db with accounts := accounts, invoices := invoices } := by
  unfold resyncOneInvoice at h
  split at h
  · dsimp only at h
    split at h
    · cases h
      exact ⟨_, _, rfl⟩
    · generalize haccount : ensureBillingAccount db tenant = p at h
      obtain ⟨db₁, account⟩ := p
      obtain ⟨accounts, rfl⟩ := ensureBillingAccount_frame haccount
      obtain ⟨found, -, h⟩ := bind_eq_ok.1 h
      split at h
      · cases h
        exact ⟨accounts, _, rfl⟩
      · obtain ⟨⟨row, db₂⟩, hrow, h⟩ := bind_eq_ok.1 h
        obtain ⟨db₃, hflush, h⟩ := bind_eq_ok.1 h
        cases h
        obtain rfl := flushInvoices_eq hflush
        obtain ⟨invoices, rfl⟩ := upsertBillingInvoiceFromErpItem_frame hrow
        exact ⟨accounts, invoices, rfl⟩
  · cases h
    exact ⟨_, _, rfl⟩

end ControlPlane
