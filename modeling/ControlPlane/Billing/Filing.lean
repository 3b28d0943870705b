import ControlPlane.Billing.InvoiceSync

/-!
# How invoices are filed

Every invoice row is filed under one reference, its ERP id and its invoice number at once, and no two rows under the
same (`Db.InvoicesFiled`).  A write of the sync keeps that, so a resync is never refused by the uniqueness constraints:
it succeeds as soon as the ERP answers with an item that can be read.
-/

namespace ControlPlane

open Table

/-- Invoice ids are unique, each invoice is filed under its reference twice, and no reference is used twice. -/
structure Db.InvoicesFiled (db : Db) : Prop where
  ids : (db.invoices.map BillingInvoice.id).Nodup
  same : ∀ invoice ∈ db.invoices, invoice.invoiceNumber = invoice.erpInvoiceId
  references : (db.invoices.filterMap BillingInvoice.erpInvoiceId).Nodup

/-- An item the sync can file: it has a reference, and its amounts can be read. -/
structure ErpItem.Readable (item : ErpItem) : Prop where
  reference : item.reference ≠ ""
  outstanding : ∃ due, toMinorUnits item.outstandingAmount = .ok due
  total : ∃ total, toMinorUnits item.grandTotal = .ok total
  paid : ∃ paid, toMinorUnits item.paidAmount = .ok paid

/-- The ERP answers every request for an invoice, with an item that can be read. -/
def PlatformErpClient.Answers (client : PlatformErpClient) : Prop :=
  ∀ customerId reference, ∃ found, fetchInvoiceItem client customerId reference = .ok found ∧
    ∀ item ∈ found, item.Readable

/-! ### One item -/

/-- Where an item with a reference goes: into the row that has the reference, or into a new one. -/
theorem findOrAddInvoice_cases {flushed : List BillingInvoice} (db : Db) (tenant : Tenant) (account : BillingAccount)
    (reference : String) (now : Time) (hsame : ∀ i ∈ flushed, i.invoiceNumber = i.erpInvoiceId) :
    (∃ found ∈ flushed, found.erpInvoiceId = some reference ∧
      findOrAddInvoice flushed db tenant account reference now = (db, (db.invoice? found.id).getD found)) ∨
    (∀ i ∈ flushed, i.erpInvoiceId ≠ some reference) ∧
      ∃ added : BillingInvoice, added.id = fresh db.invoices ∧ added.erpInvoiceId = some reference ∧
        findOrAddInvoice flushed db tenant account reference now =
          ({ db with invoices := insert db.invoices added }, added) := by
  unfold findOrAddInvoice
  cases hfind : flushed.find? fun i => i.erpInvoiceId = some reference ∨ i.invoiceNumber = some reference with
  | some found =>
    have hmem := List.mem_of_find?_eq_some hfind
    have href : found.erpInvoiceId = some reference ∨ found.invoiceNumber = some reference := by
      simpa using List.find?_some hfind
    rw [hsame found hmem, or_self] at href
    exact Or.inl ⟨found, hmem, href, rfl⟩
  | none =>
    refine Or.inr ⟨fun i hi he => ?_, _, rfl, rfl, rfl⟩
    have := List.find?_eq_none.1 hfind i hi
    simp [he] at this

/-- What `upsert_billing_invoice_from_erp_item` writes. -/
theorem upsertBillingInvoiceFromErpItem_ok {flushed : List BillingInvoice} {db db' : Db} {tenant : Tenant}
    {account : BillingAccount} {item : ErpItem} {now : Time} {invoice : BillingInvoice}
    (h : upsertBillingInvoiceFromErpItem flushed db tenant account item now = .ok (invoice, db')) :
    item.reference ≠ "" ∧ ∃ db₁ found due paid, findOrAddInvoice flushed db tenant account item.reference now =
        (db₁, found) ∧
      invoice = fillInvoice found tenant (db₁.subscriptionOf tenant.id) account item due paid now ∧
      db' = db₁.putInvoice invoice := by
  unfold upsertBillingInvoiceFromErpItem at h
  split at h
  · cases h
  · rename_i href
    generalize hfound : findOrAddInvoice flushed db tenant account item.reference now = p at h
    obtain ⟨db₁, found⟩ := p
    obtain ⟨due, -, h⟩ := bind_eq_ok.1 h
    obtain ⟨total, -, h⟩ := bind_eq_ok.1 h
    obtain ⟨paid, -, h⟩ := bind_eq_ok.1 h
    cases h
    exact ⟨href, db₁, found, due, paid, rfl, rfl, rfl⟩

/-- An item that can be read is filed. -/
theorem upsertBillingInvoiceFromErpItem_succeeds {item : ErpItem} (flushed : List BillingInvoice) (db : Db)
    (tenant : Tenant) (account : BillingAccount) (now : Time) (h : item.Readable) :
    ∃ invoice db', upsertBillingInvoiceFromErpItem flushed db tenant account item now = .ok (invoice, db') := by
  obtain ⟨due, hdue⟩ := h.outstanding
  obtain ⟨total, htotal⟩ := h.total
  obtain ⟨paid, hpaid⟩ := h.paid
  unfold upsertBillingInvoiceFromErpItem
  rw [if_neg h.reference]
  generalize findOrAddInvoice flushed db tenant account item.reference now = p
  obtain ⟨db₁, found⟩ := p
  simp only [hdue, htotal, Bind.bind, Except.bind, ErpItem.amountPaid]
  by_cases ht : total ≠ 0
  · rw [if_pos ht]
    exact ⟨_, _, rfl⟩
  · rw [if_neg ht, hpaid]
    exact ⟨_, _, rfl⟩

/-- A written item leaves ids unique. -/
theorem upsertBillingInvoiceFromErpItem_ids {flushed : List BillingInvoice} {db db' : Db} {tenant : Tenant}
    {account : BillingAccount} {item : ErpItem} {now : Time} {invoice : BillingInvoice}
    (h : upsertBillingInvoiceFromErpItem flushed db tenant account item now = .ok (invoice, db'))
    (hids : (db.invoices.map BillingInvoice.id).Nodup) : (db'.invoices.map BillingInvoice.id).Nodup := by
  obtain ⟨-, db₁, found, due, paid, hfound, -, rfl⟩ := upsertBillingInvoiceFromErpItem_ok h
  have hadded : (db₁.invoices.map BillingInvoice.id).Nodup := by
    unfold findOrAddInvoice at hfound
    split at hfound
    · cases hfound
      exact hids
    · cases hfound
      exact nodup_insert_fresh hids rfl
  exact (map_key_put db₁.invoices invoice).symm ▸ hadded

/-- It leaves every row filed under its reference twice. -/
theorem upsertBillingInvoiceFromErpItem_filed {flushed : List BillingInvoice} {db db' : Db} {tenant : Tenant}
    {account : BillingAccount} {item : ErpItem} {now : Time} {invoice : BillingInvoice}
    (h : upsertBillingInvoiceFromErpItem flushed db tenant account item now = .ok (invoice, db'))
    (hsame : ∀ i ∈ db.invoices, i.invoiceNumber = i.erpInvoiceId) :
    ∀ i ∈ db'.invoices, i.invoiceNumber = i.erpInvoiceId := by
  obtain ⟨-, db₁, found, due, paid, hfound, hinvoice, rfl⟩ := upsertBillingInvoiceFromErpItem_ok h
  have hadded : ∀ i ∈ db₁.invoices, i.invoiceNumber = i.erpInvoiceId := by
    unfold findOrAddInvoice at hfound
    split at hfound
    · cases hfound
      exact hsame
    · cases hfound
      intro i hi
      rcases mem_insert.1 hi with hi | rfl
      · exact hsame i hi
      · rfl
  intro i hi
  rcases mem_put hi with rfl | hi
  · rw [hinvoice]; rfl
  · exact hadded i hi

/-- A flush that is not refused found no reference used twice. -/
theorem flushInvoices_ok {db db' : Db} (h : flushInvoices db = .ok db') :
    (db.invoices.filterMap BillingInvoice.erpInvoiceId).Nodup := by
  unfold flushInvoices at h
  split at h
  · cases h
  · rename_i hnd
    exact not_not.1 hnd

theorem Db.InvoicesFiled.flushInvoices {db : Db} (h : db.InvoicesFiled) : flushInvoices db = .ok db := by
  have hnumbers : db.invoices.filterMap BillingInvoice.invoiceNumber =
      db.invoices.filterMap BillingInvoice.erpInvoiceId := List.filterMap_congr h.same
  unfold ControlPlane.flushInvoices
  rw [if_neg (not_not.2 h.references), hnumbers, if_neg (not_not.2 h.references)]

/-- An item filed among the flushed rows, as a resync files it, leaves the invoices filed. -/
theorem Db.InvoicesFiled.upsert {db db' : Db} {tenant : Tenant} {account : BillingAccount} {item : ErpItem}
    {now : Time} {invoice : BillingInvoice} (hF : db.InvoicesFiled)
    (h : upsertBillingInvoiceFromErpItem db.invoices db tenant account item now = .ok (invoice, db')) :
    db'.InvoicesFiled := by
  refine ⟨upsertBillingInvoiceFromErpItem_ids h hF.ids, upsertBillingInvoiceFromErpItem_filed h hF.same, ?_⟩
  obtain ⟨-, db₁, found, due, paid, hfound, hinvoice, rfl⟩ := upsertBillingInvoiceFromErpItem_ok h
  have herp : invoice.erpInvoiceId = some item.reference := by rw [hinvoice]; rfl
  have hid : invoice.id = found.id := by rw [hinvoice]; rfl
  show ((put db₁.invoices invoice).filterMap BillingInvoice.erpInvoiceId).Nodup
  rcases findOrAddInvoice_cases db tenant account item.reference now hF.same with
    ⟨row, hrow, href, heq⟩ | ⟨hnone, added, hfresh, href, heq⟩
  · rw [heq] at hfound
    cases hfound
    have hget : db.invoice? row.id = some row := get?_of_mem hF.ids hrow
    rw [filterMap_put]
    · exact hF.references
    · intro a ha hk
      have : a = row := by
        have haget := get?_of_mem hF.ids ha
        rw [show key a = row.id by rw [hk, show key invoice = invoice.id from rfl, hid, hget]; rfl] at haget
        exact Option.some.inj (haget.symm.trans hget)
      rw [this, href, herp]
  · rw [heq] at hfound
    cases hfound
    rw [filterMap_put]
    · show ((insert db.invoices found).filterMap BillingInvoice.erpInvoiceId).Nodup
      rw [Table.insert, List.filterMap_append, List.nodup_append]
      refine ⟨hF.references, ?_, ?_⟩
      · simp [href]
      · intro a ha b hb
        obtain ⟨i, hi, hia⟩ := List.mem_filterMap.1 ha
        simp only [List.filterMap_cons, href, List.filterMap_nil, List.mem_singleton] at hb
        rintro rfl
        exact hnone i hi (hia.trans (congrArg some hb))
    · intro a ha hk
      rcases mem_insert.1 ha with ha | rfl
      · have hlt := key_lt_fresh ha
        have : key invoice = fresh db.invoices := by
          show invoice.id = _
          rw [hid, hfresh]
        omega
      · rw [href, herp]

/-! ### A resync -/

theorem ensureBillingAccount_invoices (db : Db) (tenant : Tenant) :
    (ensureBillingAccount db tenant).1.invoices = db.invoices := by
  cases h : ensureBillingAccount db tenant with
  | mk db' account =>
    obtain ⟨accounts, rfl⟩ := ensureBillingAccount_frame h
    rfl

theorem Db.InvoicesFiled.congr {db db' : Db} (h : db.InvoicesFiled) (heq : db'.invoices = db.invoices) :
    db'.InvoicesFiled := ⟨heq ▸ h.ids, heq ▸ h.same, heq ▸ h.references⟩

/-- What `resync_one_invoice` does: nothing to the invoices, or it files one item the ERP answered with. -/
theorem resyncOneInvoice_ok {client : PlatformErpClient} {db db' : Db} {tenant : Tenant}
    {invoice updated : BillingInvoice} {now : Time}
    (h : resyncOneInvoice client db tenant invoice now = .ok (updated, db')) :
    (updated = invoice ∧ (db' = db ∨ db' = (ensureBillingAccount db tenant).1)) ∨
    ∃ customerId item, tenant.customerId? = some customerId ∧ client.isConfigured = true ∧
      fetchInvoiceItem client customerId
        (strip ((orText invoice.erpInvoiceId (orText invoice.invoiceNumber none)).getD "")) = .ok (some item) ∧
      upsertBillingInvoiceFromErpItem (ensureBillingAccount db tenant).1.invoices (ensureBillingAccount db tenant).1
        tenant (ensureBillingAccount db tenant).2 item now = .ok (updated, db') ∧
      flushInvoices db' = .ok db' := by
  unfold resyncOneInvoice at h
  split at h
  · rename_i customerId hconfigured hcustomer
    dsimp only at h
    split at h
    · cases h
      exact Or.inl ⟨rfl, Or.inl rfl⟩
    · obtain ⟨found, hfound, h⟩ := bind_eq_ok.1 h
      cases found with
      | none =>
        cases h
        exact Or.inl ⟨rfl, Or.inr rfl⟩
      | some item =>
        obtain ⟨⟨row, db₂⟩, hrow, h⟩ := bind_eq_ok.1 h
        obtain ⟨db₃, hflush, h⟩ := bind_eq_ok.1 h
        cases h
        obtain rfl := flushInvoices_eq hflush
        exact Or.inr ⟨customerId, item, hcustomer, hconfigured, hfound, hrow, hflush⟩
  · cases h
    exact Or.inl ⟨rfl, Or.inl rfl⟩

theorem resyncOneInvoice_ids {client : PlatformErpClient} {db db' : Db} {tenant : Tenant}
    {invoice updated : BillingInvoice} {now : Time}
    (h : resyncOneInvoice client db tenant invoice now = .ok (updated, db'))
    (hids : (db.invoices.map BillingInvoice.id).Nodup) : (db'.invoices.map BillingInvoice.id).Nodup := by
  have hids' : ((ensureBillingAccount db tenant).1.invoices.map BillingInvoice.id).Nodup :=
    (ensureBillingAccount_invoices db tenant).symm ▸ hids
  rcases resyncOneInvoice_ok h with ⟨-, rfl | rfl⟩ | ⟨customerId, item, -, -, -, hrow, -⟩
  · exact hids
  · exact hids'
  · exact upsertBillingInvoiceFromErpItem_ids hrow hids'

theorem Db.InvoicesFiled.resync {client : PlatformErpClient} {db db' : Db} {tenant : Tenant}
    {invoice updated : BillingInvoice} {now : Time} (hF : db.InvoicesFiled)
    (h : resyncOneInvoice client db tenant invoice now = .ok (updated, db')) : db'.InvoicesFiled := by
  have hF' : (ensureBillingAccount db tenant).1.InvoicesFiled := hF.congr (ensureBillingAccount_invoices db tenant)
  rcases resyncOneInvoice_ok h with ⟨-, rfl | rfl⟩ | ⟨customerId, item, -, -, -, hrow, -⟩
  · exact hF
  · exact hF'
  · exact hF'.upsert hrow

/-! ### A sync -/

/-- What every item leaves as it is, the items of a sync leave. -/
theorem upsertItems_keeps {J : Db → Prop} {flushed : List BillingInvoice} {tenant : Tenant} {account : BillingAccount}
    {now : Time} {items : List ErpItem} {db db' : Db} {rows : List BillingInvoice}
    (hJ : ∀ item db invoice db', upsertBillingInvoiceFromErpItem flushed db tenant account item now =
      .ok (invoice, db') → J db → J db')
    (h : upsertItems flushed tenant account now items db = .ok (rows, db')) (hdb : J db) : J db' := by
  induction items generalizing db rows with
  | nil =>
    cases h
    exact hdb
  | cons item items ih =>
    obtain ⟨⟨invoice, db₁⟩, h₁, h⟩ := bind_eq_ok.1 h
    obtain ⟨⟨rest, db₂⟩, h₂, h⟩ := bind_eq_ok.1 h
    cases h
    exact ih h₂ (hJ item db invoice db₁ h₁ hdb)

/-- The items of a sync leave ids unique. -/
theorem upsertItems_ids {flushed : List BillingInvoice} {tenant : Tenant} {account : BillingAccount} {now : Time}
    {items : List ErpItem} {db db' : Db} {rows : List BillingInvoice}
    (h : upsertItems flushed tenant account now items db = .ok (rows, db'))
    (hids : (db.invoices.map BillingInvoice.id).Nodup) : (db'.invoices.map BillingInvoice.id).Nodup :=
  upsertItems_keeps (J := fun db => (db.invoices.map BillingInvoice.id).Nodup)
    (fun _ _ _ _ h => upsertBillingInvoiceFromErpItem_ids h) h hids

/-- They leave every row filed under its reference twice. -/
theorem upsertItems_filed {flushed : List BillingInvoice} {tenant : Tenant} {account : BillingAccount} {now : Time}
    {items : List ErpItem} {db db' : Db} {rows : List BillingInvoice}
    (h : upsertItems flushed tenant account now items db = .ok (rows, db'))
    (hsame : ∀ i ∈ db.invoices, i.invoiceNumber = i.erpInvoiceId) :
    ∀ i ∈ db'.invoices, i.invoiceNumber = i.erpInvoiceId :=
  upsertItems_keeps (J := fun db => ∀ i ∈ db.invoices, i.invoiceNumber = i.erpInvoiceId)
    (fun _ _ _ _ h => upsertBillingInvoiceFromErpItem_filed h) h hsame

/-- What a sync does: nothing, or it files the items the ERP lists. -/
theorem syncPlatformInvoicesForTenant_ok {client : PlatformErpClient} {db db' : Db} {tenant : Tenant} {limit : Nat}
    {now : Time} {rows : List BillingInvoice}
    (h : syncPlatformInvoicesForTenant client db tenant limit now = .ok (rows, db')) :
    db' = db ∨ ∃ customerId items, tenant.customerId? = some customerId ∧ client.isConfigured = true ∧
      client.listInvoices customerId limit = .ok items ∧
      upsertItems (ensureBillingAccount db tenant).1.invoices tenant (ensureBillingAccount db tenant).2 now items
        (ensureBillingAccount db tenant).1 = .ok (rows, db') ∧ flushInvoices db' = .ok db' := by
  unfold syncPlatformInvoicesForTenant at h
  split at h
  · rename_i customerId hconfigured hcustomer
    obtain ⟨items, hlisted, h⟩ := bind_eq_ok.1 h
    obtain ⟨⟨written, db₂⟩, hitems, h⟩ := bind_eq_ok.1 h
    obtain ⟨db₃, hflush, h⟩ := bind_eq_ok.1 h
    cases h
    obtain rfl := flushInvoices_eq hflush
    exact Or.inr ⟨customerId, items, hcustomer, hconfigured, hlisted, hitems, hflush⟩
  · cases h
    exact Or.inl rfl

theorem syncPlatformInvoicesForTenant_ids {client : PlatformErpClient} {db db' : Db} {tenant : Tenant} {limit : Nat}
    {now : Time} {rows : List BillingInvoice}
    (h : syncPlatformInvoicesForTenant client db tenant limit now = .ok (rows, db'))
    (hids : (db.invoices.map BillingInvoice.id).Nodup) : (db'.invoices.map BillingInvoice.id).Nodup := by
  rcases syncPlatformInvoicesForTenant_ok h with rfl | ⟨customerId, items, -, -, -, hitems, -⟩
  · exact hids
  · exact upsertItems_ids hitems ((ensureBillingAccount_invoices db tenant).symm ▸ hids)

/-- A sync leaves the invoices filed: what its items could break is refused at the flush. -/
theorem Db.InvoicesFiled.sync {client : PlatformErpClient} {db db' : Db} {tenant : Tenant} {limit : Nat} {now : Time}
    {rows : List BillingInvoice} (hF : db.InvoicesFiled)
    (h : syncPlatformInvoicesForTenant client db tenant limit now = .ok (rows, db')) : db'.InvoicesFiled := by
  rcases syncPlatformInvoicesForTenant_ok h with rfl | ⟨customerId, items, -, -, -, hitems, hflush⟩
  · exact hF
  · have hF₁ := hF.congr (ensureBillingAccount_invoices db tenant)
    exact ⟨upsertItems_ids hitems hF₁.ids, upsertItems_filed hitems hF₁.same, flushInvoices_ok hflush⟩

/-- A row written with the reference it has leaves the invoices filed. -/
theorem Db.InvoicesFiled.put {db : Db} {invoice written : BillingInvoice} (hF : db.InvoicesFiled)
    (hrow : db.invoice? invoice.id = some invoice) (hid : written.id = invoice.id)
    (hreference : written.erpInvoiceId = invoice.erpInvoiceId)
    (hnumber : written.invoiceNumber = invoice.invoiceNumber) : (db.putInvoice written).InvoicesFiled := by
  refine ⟨?_, fun i hi => ?_, ?_⟩
  · exact (map_key_put db.invoices written).symm ▸ hF.ids
  · rcases mem_put hi with rfl | hi
    · rw [hnumber, hreference]
      exact hF.same invoice (mem_of_get? hrow)
    · exact hF.same i hi
  · show ((Table.put db.invoices written).filterMap BillingInvoice.erpInvoiceId).Nodup
    rw [filterMap_put]
    · exact hF.references
    · intro a ha hk
      have haget := get?_of_mem hF.ids ha
      rw [show key a = invoice.id from hk.trans hid] at haget
      have : a = invoice := Option.some.inj (haget.symm.trans hrow)
      rw [this, hreference]

/-- A resync succeeds when the ERP answers and the invoices are filed. -/
theorem resyncOneInvoice_succeeds {client : PlatformErpClient} {db : Db} (tenant : Tenant) (invoice : BillingInvoice)
    (now : Time) (hanswers : client.Answers) (hF : db.InvoicesFiled) :
    ∃ updated db', resyncOneInvoice client db tenant invoice now = .ok (updated, db') := by
  unfold resyncOneInvoice
  split
  · rename_i customerId hconfigured hcustomer
    dsimp only
    split
    · exact ⟨_, _, rfl⟩
    · obtain ⟨found, hfound, hreadable⟩ := hanswers customerId
        (strip ((orText invoice.erpInvoiceId (orText invoice.invoiceNumber none)).getD ""))
      rw [hfound]
      cases found with
      | none => exact ⟨_, _, rfl⟩
      | some item =>
        obtain ⟨row, db₂, hrow⟩ := upsertBillingInvoiceFromErpItem_succeeds (ensureBillingAccount db tenant).1.invoices
          (ensureBillingAccount db tenant).1 tenant (ensureBillingAccount db tenant).2 now (hreadable item rfl)
        have hF' : (ensureBillingAccount db tenant).1.InvoicesFiled :=
          hF.congr (ensureBillingAccount_invoices db tenant)
        have hflush := (hF'.upsert hrow).flushInvoices
        refine ⟨row, db₂, ?_⟩
        simp only [Bind.bind, Except.bind, hrow, hflush]
        rfl
  · exact ⟨_, _, rfl⟩

end ControlPlane
