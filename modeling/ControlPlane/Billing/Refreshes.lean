import ControlPlane.Billing.LastItems
import ControlPlane.Billing.Reconciliation

/-!
# What a resync leaves

A resync of a filed invoice asks the ERP under the row's reference and files the answer in that very row, if the ERP's
client answers with the document it was asked for.  So the row it leaves is told by the reference, up to the times of the
sync and of a payment without a date.
-/

namespace ControlPlane

open Table

/-- The ERP's client answers with the document of the name it was asked for, or with the empty object. -/
def PlatformErpClient.AnswersByName (client : PlatformErpClient) : Prop :=
  ∀ reference item, client.getInvoice reference = .ok item → item = ErpItem.empty ∨ item.name = some reference

/-- The reference under which a resync asks for an invoice. -/
def BillingInvoice.asked (invoice : BillingInvoice) : String :=
  strip ((orText invoice.erpInvoiceId (orText invoice.invoiceNumber none)).getD "")

/-- The item a resync gets for a reference of a customer, if it asks for one. -/
def PlatformErpClient.itemFor (client : PlatformErpClient) (customerId : Option String) (reference : String) :
    Except PyError (Option ErpItem) :=
  match client.isConfigured, customerId with
  | true, some customerId => if reference = "" then .ok none else fetchInvoiceItem client customerId reference
  | _, _ => .ok none

/-- Invoices are filed under references as a sync strips them. -/
def Db.ReferencesStripped (db : Db) : Prop :=
  ∀ invoice ∈ db.invoices, ∀ reference ∈ invoice.erpInvoiceId, strip reference = reference

/-- The rows as the programs file them: invoices under stripped references, and no two subscriptions with one id. -/
structure Db.WellFiled (db : Db) : Prop where
  filed : db.InvoicesFiled
  stripped : db.ReferencesStripped
  subscriptionIds : (db.subscriptions.map Subscription.id).Nodup

/-! ### References -/

theorem BillingInvoice.erpInvoiceId_of_asked {invoice : BillingInvoice}
    (hsame : invoice.invoiceNumber = invoice.erpInvoiceId)
    (hstripped : ∀ reference ∈ invoice.erpInvoiceId, strip reference = reference) (hne : invoice.asked ≠ "") :
    invoice.erpInvoiceId = some invoice.asked := by
  unfold BillingInvoice.asked at hne ⊢
  rw [hsame] at hne ⊢
  cases hreference : invoice.erpInvoiceId with
  | none =>
    rw [hreference] at hne
    exact absurd rfl hne
  | some reference =>
    rw [hreference] at hne
    by_cases hempty : reference = ""
    · subst hempty
      exact absurd rfl hne
    · have hor : orText (some reference) (orText (some reference) none) = some reference := if_neg hempty
      rw [hor, Option.getD_some, hstripped reference hreference]

/-- An item is filed under its stripped reference. -/
theorem Db.ReferencesStripped.upsert {flushed : List BillingInvoice} {db db' : Db} {tenant : Tenant}
    {account : BillingAccount} {item : ErpItem} {now : Time} {invoice : BillingInvoice} (hdb : db.ReferencesStripped)
    (h : upsertBillingInvoiceFromErpItem flushed db tenant account item now = .ok (invoice, db')) :
    db'.ReferencesStripped := by
  obtain ⟨-, db₁, found, due, paid, hfound, hinvoice, rfl⟩ := upsertBillingInvoiceFromErpItem_ok h
  have hadded : db₁.ReferencesStripped := by
    unfold findOrAddInvoice at hfound
    split at hfound
    · cases hfound
      exact hdb
    · cases hfound
      intro i hi reference hreference
      rcases mem_insert.1 hi with hi | rfl
      · exact hdb i hi reference hreference
      · cases hreference
        exact strip_strip _
  intro i hi reference hreference
  rcases mem_put hi with rfl | hi
  · rw [hinvoice] at hreference
    cases hreference
    exact strip_strip _
  · exact hadded i hi reference hreference

theorem Db.ReferencesStripped.congr {db db' : Db} (h : db.ReferencesStripped) (heq : db'.invoices = db.invoices) :
    db'.ReferencesStripped := by
  intro invoice hmem
  rw [heq] at hmem
  exact h invoice hmem

theorem Db.ReferencesStripped.resync {client : PlatformErpClient} {db db' : Db} {tenant : Tenant}
    {invoice updated : BillingInvoice} {now : Time} (hdb : db.ReferencesStripped)
    (h : resyncOneInvoice client db tenant invoice now = .ok (updated, db')) : db'.ReferencesStripped := by
  have hensured := hdb.congr (ensureBillingAccount_invoices db tenant)
  rcases resyncOneInvoice_ok h with ⟨-, rfl | rfl⟩ | ⟨customerId, item, -, -, -, hupsert, -⟩
  · exact hdb
  · exact hensured
  · exact hensured.upsert hupsert

theorem Db.ReferencesStripped.sync {client : PlatformErpClient} {db db' : Db} {tenant : Tenant} {limit : Nat} {now : Time}
    {rows : List BillingInvoice} (hdb : db.ReferencesStripped)
    (h : syncPlatformInvoicesForTenant client db tenant limit now = .ok (rows, db')) : db'.ReferencesStripped := by
  rcases syncPlatformInvoicesForTenant_ok h with rfl | ⟨customerId, items, -, -, -, hitems, -⟩
  · exact hdb
  · refine upsertItems_keeps (J := Db.ReferencesStripped) (fun item db invoice db' hupsert hdb => hdb.upsert hupsert) hitems ?_
    exact hdb.congr (ensureBillingAccount_invoices db tenant)

/-- Rows with one entry are asked for under one reference. -/
theorem BillingInvoice.asked_congr {invoice invoice' : BillingInvoice}
    (hsame : invoice.invoiceNumber = invoice.erpInvoiceId) (hsame' : invoice'.invoiceNumber = invoice'.erpInvoiceId)
    (hentry : invoice'.entry = invoice.entry) : invoice'.asked = invoice.asked := by
  have hreference : invoice'.erpInvoiceId = invoice.erpInvoiceId := congrArg (fun e => e.2.2) hentry
  unfold BillingInvoice.asked
  rw [hsame, hsame', hreference]

/-- An item found under a reference has it. -/
theorem fetchInvoiceItem_reference {client : PlatformErpClient} (hnames : client.AnswersByName) {customerId reference : String}
    {item : ErpItem} (hstripped : strip reference = reference) (hne : reference ≠ "") (hitem : item.reference ≠ "")
    (h : fetchInvoiceItem client customerId reference = .ok (some item)) : item.reference = reference := by
  have hnamed : ∀ name, item.name = some name → name ≠ "" → item.reference = strip name := by
    intro name hname hnonempty
    unfold ErpItem.reference
    have hor : orText (some name) (orText item.invoiceNumber (orText item.invoice none)) = some name := if_neg hnonempty
    rw [hname, hor, Option.getD_some]
  unfold fetchInvoiceItem at h
  split at h
  · rename_i answered hanswered
    cases h
    rcases hnames reference item hanswered with hempty | hname
    · rw [hempty] at hitem
      exact absurd (by decide) hitem
    · rw [hnamed reference hname hne, hstripped]
  · obtain ⟨entries, -, h⟩ := bind_eq_ok.1 h
    have hfound := List.find?_some (Except.ok.inj h)
    have hstrip : strip ((orText item.name none).getD "") = reference := by simpa using hfound
    cases hname : item.name with
    | none =>
      rw [hname] at hstrip
      exact absurd hstrip.symm hne
    | some name =>
      rw [hname] at hstrip
      by_cases hempty : name = ""
      · subst hempty
        exact absurd hstrip.symm hne
      · have hor : orText (some name) none = some name := if_neg hempty
        rw [hor, Option.getD_some] at hstrip
        rw [hnamed name hname hempty, hstrip]

/-! ### A resync -/

section

variable {client : PlatformErpClient} {db db' : Db} {tenant : Tenant} {account : BillingAccount} {now : Time}
  {invoice updated : BillingInvoice} {item : ErpItem}

/-- A resync with the item it gets, for a tenant whose account is ready. -/
theorem resyncOneInvoice_eq
    (hready : client.isConfigured = true → tenant.customerId?.isSome = true → db.AccountReady tenant.id account) :
    resyncOneInvoice client db tenant invoice now =
      match client.itemFor tenant.customerId? invoice.asked with
      | .error e => .error e
      | .ok none => .ok (invoice, db)
      | .ok (some item) => do
        let (updated, db) ← upsertBillingInvoiceFromErpItem db.invoices db tenant account item now
        let db ← flushInvoices db
        return (updated, db) := by
  unfold resyncOneInvoice PlatformErpClient.itemFor BillingInvoice.asked
  cases hconfigured : client.isConfigured with
  | false => rfl
  | true =>
    cases hcustomer : tenant.customerId? with
    | none => rfl
    | some customerId =>
      have haccount := (hready hconfigured (by rw [hcustomer]; rfl)).ensure
      dsimp only
      split
      · rfl
      · rw [haccount]
        dsimp only
        cases fetchInvoiceItem client customerId
            (strip ((orText invoice.erpInvoiceId (orText invoice.invoiceNumber none)).getD "")) with
        | error e => rfl
        | ok found => cases found <;> rfl

/-- What a resync of a row leaves: the row as it was, or as the item says that the ERP has under the row's reference. -/
theorem resyncOneInvoice_row_left (hwell : db.WellFiled) (hnames : client.AnswersByName)
    (hready : client.isConfigured = true → tenant.customerId?.isSome = true → db.AccountReady tenant.id account)
    (hrow : db.invoice? invoice.id = some invoice)
    (h : resyncOneInvoice client db tenant invoice now = .ok (updated, db')) :
    (client.itemFor tenant.customerId? invoice.asked = .ok none ∧ updated = invoice ∧ db' = db) ∨
      ∃ item, client.itemFor tenant.customerId? invoice.asked = .ok (some item) ∧
        updated.FilledBy tenant (db.subscriptionOf tenant.id) account now item ∧ updated.entry = invoice.entry ∧
        db' = db.putInvoice updated := by
  have hF := hwell.filed
  have hmem := mem_of_get? hrow
  rw [resyncOneInvoice_eq hready] at h
  cases hitem : client.itemFor tenant.customerId? invoice.asked with
  | error e =>
    rw [hitem] at h
    cases h
  | ok found =>
    rw [hitem] at h
    cases found with
    | none =>
      cases h
      exact Or.inl ⟨rfl, rfl, rfl⟩
    | some item =>
      obtain ⟨⟨written, db₁⟩, hupsert, h⟩ := bind_eq_ok.1 h
      obtain ⟨db₂, hflush, h⟩ := bind_eq_ok.1 h
      cases h
      obtain rfl := flushInvoices_eq hflush
      obtain ⟨hne, -⟩ := upsertBillingInvoiceFromErpItem_ok hupsert
      obtain ⟨hfilled, hfiled⟩ := upsertBillingInvoiceFromErpItem_filled (Db.stillFiled_self hF.ids) hF.same hupsert
      -- the item was asked for under the row's reference, which it has
      have hreference : invoice.erpInvoiceId = some item.reference := by
        unfold PlatformErpClient.itemFor at hitem
        split at hitem
        · split at hitem
          · cases hitem
          · rename_i hasked
            have herp := BillingInvoice.erpInvoiceId_of_asked (hF.same invoice hmem) (hwell.stripped invoice hmem) hasked
            rw [fetchInvoiceItem_reference hnames (strip_strip _) hasked hne hitem]
            exact herp
        · cases hitem
      refine Or.inr ⟨item, rfl, hfilled, ?_⟩
      cases hfiled with
      | again row hflushed hget hentry =>
        have hrowRef : row.erpInvoiceId = some item.reference := by
          rw [← hfilled.reference]
          exact (congrArg (fun e => e.2.2) hentry).symm
        obtain rfl := eq_of_reference hF.references (mem_of_get? hget) hmem hrowRef hreference
        exact ⟨hentry, rfl⟩
      | anew hnone hid => exact absurd hreference (hnone invoice hmem)

/-- A resync succeeds if there is nothing to file, or an item with a reference and amounts that can be read. -/
theorem resyncOneInvoice_returns (hF : db.InvoicesFiled)
    (hready : client.isConfigured = true → tenant.customerId?.isSome = true → db.AccountReady tenant.id account)
    (h : client.itemFor tenant.customerId? invoice.asked = .ok none ∨
      ∃ item, client.itemFor tenant.customerId? invoice.asked = .ok (some item) ∧ item.reference ≠ "" ∧
        ∃ amounts, item.amounts = .ok amounts) :
    ∃ updated db', resyncOneInvoice client db tenant invoice now = .ok (updated, db') := by
  rw [resyncOneInvoice_eq hready]
  rcases h with hnone | ⟨item, hsome, hitem⟩
  · rw [hnone]
    exact ⟨invoice, db, rfl⟩
  · rw [hsome]
    obtain ⟨⟨updated, db'⟩, hupsert⟩ := (@upsertBillingInvoiceFromErpItem_isOk db.invoices db tenant account now item).2 hitem
    refine ⟨updated, db', bind_eq_ok.2 ⟨(updated, db'), hupsert, bind_eq_ok.2 ⟨db', ?_, rfl⟩⟩⟩
    exact (hF.upsert hupsert).flushInvoices

end

/-! ### Two rows that one item left -/

namespace BillingInvoice.FilledBy

variable {tenant tenant' : Tenant} {subscription subscription' : Option Subscription} {account : BillingAccount}
  {now later : Time} {item : ErpItem} {invoice invoice' : BillingInvoice}

/-- Of a tenant and its subscription an item files the ids. -/
theorem congr (h : invoice.FilledBy tenant subscription account now item) (hid : tenant'.id = tenant.id)
    (hsubscription : subscription'.map Subscription.id = subscription.map Subscription.id) :
    invoice.FilledBy tenant' subscription' account now item := by
  obtain ⟨due, paid, hamounts, hfill⟩ := h
  refine ⟨due, paid, hamounts, hfill.trans ?_⟩
  unfold fillInvoice
  rw [hid, hsubscription]

theorem tenantId (h : invoice.FilledBy tenant subscription account now item) : invoice.tenantId = tenant.id := by
  obtain ⟨due, paid, -, hfill⟩ := h
  rw [hfill]
  rfl

theorem invoiceStatus (h : invoice.FilledBy tenant subscription account now item) :
    invoice.invoiceStatus = normalizeInvoiceStatus item invoice.amountDue invoice.amountPaid := by
  obtain ⟨due, paid, -, hfill⟩ := h
  have hdue : invoice.amountDue = due := by rw [hfill]; rfl
  have hpaid : invoice.amountPaid = paid := by rw [hfill]; rfl
  rw [hdue, hpaid, hfill]
  unfold fillInvoice
  dsimp only

/-- One item leaves every row settled, or none. -/
theorem settled_congr (h : invoice.FilledBy tenant subscription account now item)
    (h' : invoice'.FilledBy tenant' subscription' account later item) :
    reconciledInvoiceIsSettled invoice' = reconciledInvoiceIsSettled invoice := by
  have hamounts := h'.amounts
  rw [h.amounts] at hamounts
  obtain ⟨hdue, hpaid⟩ := Prod.mk.inj (Except.ok.inj hamounts)
  have hstatus := h'.invoiceStatus
  rw [← hdue, ← hpaid, ← h.invoiceStatus] at hstatus
  unfold reconciledInvoiceIsSettled
  rw [hstatus, hdue, hpaid]

/-- An item that stamps the payment leaves the row settled. -/
theorem settled_of_stamps (h : invoice.FilledBy tenant subscription account now item) (hstamp : item.stampsPayment = true) :
    reconciledInvoiceIsSettled invoice = true := by
  unfold ErpItem.stampsPayment at hstamp
  rw [h.amounts] at hstamp
  have hpaid := (of_decide_eq_true hstamp).2.1
  unfold reconciledInvoiceIsSettled
  rw [h.invoiceStatus, hpaid]
  rfl

end BillingInvoice.FilledBy

end ControlPlane
