import ControlPlane.Billing.Ledger
import ControlPlane.Text

/-!
# Whose references the ERP answers with

The sync looks a reference up in the invoices of all tenants and writes the row it finds as the syncing tenant's.  As
long as some `owner` assigns to each reference the one tenant for which the ERP answers with it, a sync leaves every
invoice with the tenant it has, in that tenant's account.
-/

namespace ControlPlane

open Table

/-- The invoices that there were are there, each with the tenant it had. -/
def Db.KeepsTenants (db db' : Db) : Prop :=
  ∀ id invoice, db.invoice? id = some invoice → ∃ row, db'.invoice? id = some row ∧ row.tenantId = invoice.tenantId

namespace Db.KeepsTenants

theorem refl (db : Db) : db.KeepsTenants db := fun _ invoice hrow => ⟨invoice, hrow, rfl⟩

theorem trans {db db' db'' : Db} (h : db.KeepsTenants db') (h' : db'.KeepsTenants db'') : db.KeepsTenants db'' := by
  intro id invoice hrow
  obtain ⟨row, hrow', htenant⟩ := h id invoice hrow
  obtain ⟨row', hrow'', htenant'⟩ := h' id row hrow'
  exact ⟨row', hrow'', htenant'.trans htenant⟩

theorem congr {db db' db'' : Db} (h : db.KeepsTenants db') (heq : db''.invoices = db'.invoices) :
    db.KeepsTenants db'' := by
  intro id invoice hrow
  obtain ⟨row, hrow', htenant⟩ := h id invoice hrow
  refine ⟨row, ?_, htenant⟩
  unfold Db.invoice?
  rw [heq]
  exact hrow'

/-- A row written with the tenant that it has. -/
theorem put {db : Db} {old new : BillingInvoice} (hrow : db.invoice? new.id = some old)
    (htenant : new.tenantId = old.tenantId) : db.KeepsTenants (db.putInvoice new) := by
  intro id invoice hinvoice
  by_cases hid : id = new.id
  · subst hid
    rw [hrow] at hinvoice
    cases hinvoice
    exact ⟨new, get?_put_self hrow, htenant⟩
  · refine ⟨invoice, ?_, rfl⟩
    have hput : get? (Table.put db.invoices new) id = get? db.invoices id := get?_put_of_ne db.invoices hid
    exact hput.trans hinvoice

end Db.KeepsTenants

/-- An invoice is filed under a reference of its tenant, as a sync strips it, and in an account of its tenant. -/
structure BillingInvoice.OwnedBy (owner : String → Nat) (accounts : List BillingAccount) (invoice : BillingInvoice) :
    Prop where
  reference : ∃ reference, invoice.erpInvoiceId = some reference ∧ reference ≠ "" ∧ strip reference = reference ∧
    owner reference = invoice.tenantId
  account : ∃ account, get? accounts invoice.billingAccountId = some account ∧ account.tenantId = invoice.tenantId

/-- Every invoice is its tenant's. -/
structure Db.OwnedBy (owner : String → Nat) (db : Db) : Prop where
  ids : (db.invoices.map BillingInvoice.id).Nodup
  accountIds : (db.accounts.map BillingAccount.id).Nodup
  rows : ∀ invoice ∈ db.invoices, invoice.OwnedBy owner db.accounts

/-- What the ERP answers a tenant with is that tenant's: what it lists for the tenant's customer id, and what it has
under a reference of the tenant. -/
structure PlatformErpClient.Respects (client : PlatformErpClient) (owner : String → Nat) (db : Db) : Prop where
  listed : ∀ id tenant, db.tenant? id = some tenant → ∀ customerId ∈ tenant.customerId?, ∀ limit items,
    client.listInvoices customerId limit = .ok items → ∀ item ∈ items, item.reference ≠ "" → owner item.reference = id
  fetched : ∀ reference item, client.getInvoice reference = .ok item → item.reference ≠ "" →
    owner item.reference = owner reference

/-! ### Accounts -/

theorem Db.OwnedBy.congr {owner : String → Nat} {db db' : Db} (h : db.OwnedBy owner)
    (hinvoices : db'.invoices = db.invoices) (haccounts : db'.accounts = db.accounts) : db'.OwnedBy owner := by
  refine ⟨?_, ?_, ?_⟩
  · rw [hinvoices]
    exact h.ids
  · rw [haccounts]
    exact h.accountIds
  · rw [hinvoices, haccounts]
    exact h.rows

/-- The invoices stay their tenants' where every account stays, with its tenant. -/
theorem Db.OwnedBy.accounts {owner : String → Nat} {db : Db} {accounts : List BillingAccount} (h : db.OwnedBy owner)
    (hids : (accounts.map BillingAccount.id).Nodup)
    (hkept : ∀ id account, get? db.accounts id = some account →
      ∃ row, get? accounts id = some row ∧ row.tenantId = account.tenantId) :
    ({ db with accounts := accounts } : Db).OwnedBy owner := by
  refine ⟨h.ids, hids, fun invoice hmem => ⟨(h.rows invoice hmem).reference, ?_⟩⟩
  obtain ⟨account, hrow, htenant⟩ := (h.rows invoice hmem).account
  obtain ⟨row, hrow', htenant'⟩ := hkept _ account hrow
  exact ⟨row, hrow', htenant'.trans htenant⟩

/-- The account of a tenant is a row, and the invoices are their tenants' with it. -/
theorem Db.OwnedBy.ensureBillingAccount {owner : String → Nat} {db db' : Db} {tenant : Tenant}
    {account : BillingAccount} (h : db.OwnedBy owner) (he : ensureBillingAccount db tenant = (db', account)) :
    db'.OwnedBy owner ∧ get? db'.accounts account.id = some account ∧ account.tenantId = tenant.id := by
  unfold ControlPlane.ensureBillingAccount at he
  split at he
  · rename_i existing hexisting
    have hrow : get? db.accounts existing.id = some existing :=
      get?_of_mem h.accountIds (List.mem_of_find?_eq_some hexisting)
    have htenant : existing.tenantId = tenant.id := by
      have := List.find?_some hexisting
      exact of_decide_eq_true this
    split at he
    · cases he
      refine ⟨h.accounts ?_ fun id account haccount => ?_, get?_put_self hrow, htenant⟩
      · exact (map_key_put db.accounts { existing with erpCustomerId := tenant.platformCustomerId }).symm ▸ h.accountIds
      · by_cases hid : id = existing.id
        · subst hid
          rw [hrow] at haccount
          cases haccount
          exact ⟨_, get?_put_self hrow, rfl⟩
        · have hother : get? (put db.accounts { existing with erpCustomerId := tenant.platformCustomerId }) id =
              get? db.accounts id := get?_put_of_ne db.accounts hid
          exact ⟨account, hother.trans haccount, rfl⟩
    · cases he
      exact ⟨h, hrow, htenant⟩
  · cases he
    refine ⟨h.accounts (nodup_insert_fresh h.accountIds rfl) fun id account haccount => ?_, ?_, rfl⟩
    · exact ⟨account, get?_insert_of_some haccount, rfl⟩
    · exact get?_insert_self (get?_fresh db.accounts)

/-! ### One item -/

theorem Db.OwnedBy.put {owner : String → Nat} {db : Db} {new : BillingInvoice} (h : db.OwnedBy owner)
    (hnew : new.OwnedBy owner db.accounts) : (db.putInvoice new).OwnedBy owner := by
  refine ⟨?_, h.accountIds, fun invoice hmem => ?_⟩
  · exact (map_key_put db.invoices new).symm ▸ h.ids
  · rcases mem_put hmem with rfl | hmem
    · exact hnew
    · exact h.rows invoice hmem

theorem Db.OwnedBy.insert {owner : String → Nat} {db : Db} {new : BillingInvoice} (h : db.OwnedBy owner)
    (hid : new.id = fresh db.invoices) (hnew : new.OwnedBy owner db.accounts) :
    ({ db with invoices := Table.insert db.invoices new } : Db).OwnedBy owner := by
  refine ⟨nodup_insert_fresh h.ids hid, h.accountIds, fun invoice hmem => ?_⟩
  rcases mem_insert.1 hmem with hmem | rfl
  · exact h.rows invoice hmem
  · exact hnew

/-- The rows that were flushed are there, each under the reference it had. -/
def Db.StillFiled (flushed : List BillingInvoice) (db : Db) : Prop :=
  ∀ old ∈ flushed, ∃ row, db.invoice? old.id = some row ∧ row.erpInvoiceId = old.erpInvoiceId

theorem Db.stillFiled_self {db : Db} (hids : (db.invoices.map BillingInvoice.id).Nodup) : db.StillFiled db.invoices :=
  fun old hold => ⟨old, get?_of_mem hids hold, rfl⟩

section

variable {owner : String → Nat} {flushed : List BillingInvoice} {db db' : Db} {tenant : Tenant}
  {account : BillingAccount} {now : Time}

/-- An item of a tenant, filed for that tenant, goes into a row that is the tenant's already, or a new one. -/
theorem Db.OwnedBy.upsert {item : ErpItem} {invoice : BillingInvoice} (h : db.OwnedBy owner)
    (hstill : db.StillFiled flushed) (hsame : ∀ i ∈ flushed, i.invoiceNumber = i.erpInvoiceId)
    (haccount : get? db.accounts account.id = some account ∧ account.tenantId = tenant.id)
    (howner : item.reference ≠ "" → owner item.reference = tenant.id)
    (hr : upsertBillingInvoiceFromErpItem flushed db tenant account item now = .ok (invoice, db')) :
    db'.OwnedBy owner ∧ db'.StillFiled flushed ∧ db.KeepsTenants db' ∧ invoice.tenantId = tenant.id := by
  obtain ⟨hne, db₁, found, due, paid, hfound, hinvoice, rfl⟩ := upsertBillingInvoiceFromErpItem_ok hr
  have hid : invoice.id = found.id := by rw [hinvoice]; rfl
  have htenant : invoice.tenantId = tenant.id := by rw [hinvoice]; rfl
  have herp : invoice.erpInvoiceId = some item.reference := by rw [hinvoice]; rfl
  have howned : invoice.OwnedBy owner db.accounts := by
    refine ⟨⟨item.reference, herp, hne, strip_strip _, ?_⟩, account, ?_, ?_⟩
    · rw [howner hne, htenant]
    · rw [hinvoice]
      exact haccount.1
    · rw [htenant]
      exact haccount.2
  rcases findOrAddInvoice_cases db tenant account item.reference now hsame with
    ⟨old, hold, hreference, heq⟩ | ⟨hnone, added, hfresh, hreference, heq⟩
  · -- the row that has the reference is its owner's, who is the tenant
    rw [heq] at hfound
    cases hfound
    obtain ⟨row, hrow, hsameRef⟩ := hstill old hold
    rw [hrow, Option.getD_some] at hid
    have hrowId : row.id = old.id := key_of_get? hrow
    have hget : db.invoice? invoice.id = some row := by
      rw [hid, hrowId]
      exact hrow
    have hrowTenant : row.tenantId = tenant.id := by
      obtain ⟨reference, href, -, -, hown⟩ := (h.rows row (mem_of_get? hrow)).reference
      rw [hsameRef, hreference] at href
      cases href
      rw [← hown, howner hne]
    refine ⟨h.put howned, fun other hother => ?_, .put hget (htenant.trans hrowTenant.symm), htenant⟩
    obtain ⟨row', hrow', href'⟩ := hstill other hother
    by_cases hsameId : other.id = invoice.id
    · refine ⟨invoice, ?_, ?_⟩
      · rw [hsameId]
        exact get?_put_self hget
      · rw [hsameId, hget] at hrow'
        cases hrow'
        rw [herp, ← href', hsameRef, hreference]
    · exact ⟨row', (get?_put_of_ne db.invoices hsameId).trans hrow', href'⟩
  · rw [heq] at hfound
    cases hfound
    -- a row that was added for the item is written once more under its own id
    have hput : ({ db with invoices := Table.insert db.invoices found } : Db).putInvoice invoice =
        { db with invoices := Table.insert db.invoices invoice } := by
      unfold Db.putInvoice
      rw [put_insert_fresh hfresh hid]
    rw [hput]
    refine ⟨h.insert (hid.trans hfresh) howned, fun other hother => ?_, fun id row hrow => ?_, htenant⟩
    · obtain ⟨row', hrow', href'⟩ := hstill other hother
      exact ⟨row', get?_insert_of_some hrow', href'⟩
    · exact ⟨row, get?_insert_of_some hrow, rfl⟩

/-- So do the items of a sync, one after another. -/
theorem Db.OwnedBy.upsertItems {items : List ErpItem} {rows : List BillingInvoice} (h : db.OwnedBy owner)
    (hstill : db.StillFiled flushed) (hsame : ∀ i ∈ flushed, i.invoiceNumber = i.erpInvoiceId)
    (haccount : get? db.accounts account.id = some account ∧ account.tenantId = tenant.id)
    (howner : ∀ item ∈ items, item.reference ≠ "" → owner item.reference = tenant.id)
    (hr : upsertItems flushed tenant account now items db = .ok (rows, db')) :
    db'.OwnedBy owner ∧ db.KeepsTenants db' := by
  induction items generalizing db rows with
  | nil =>
    cases hr
    exact ⟨h, .refl _⟩
  | cons item items ih =>
    obtain ⟨⟨invoice, db₁⟩, hitem, hr⟩ := bind_eq_ok.1 hr
    obtain ⟨⟨rest, db₂⟩, hrest, hr⟩ := bind_eq_ok.1 hr
    cases hr
    obtain ⟨h₁, hstill₁, hkept₁, -⟩ := h.upsert hstill hsame haccount (howner item (List.mem_cons_self ..)) hitem
    have haccount₁ : get? db₁.accounts account.id = some account ∧ account.tenantId = tenant.id := by
      obtain ⟨invoices, rfl⟩ := upsertBillingInvoiceFromErpItem_frame hitem
      exact haccount
    obtain ⟨h₂, hkept₂⟩ := ih h₁ hstill₁ haccount₁ (fun item hmem => howner item (List.mem_cons_of_mem _ hmem)) hrest
    exact ⟨h₂, hkept₁.trans hkept₂⟩

end

/-! ### A sync and a resync -/

section

variable {owner : String → Nat} {client : PlatformErpClient} {base db db' : Db} {tenant row : Tenant} {now : Time}

/-- A sync for a tenant with the customer id it has in `base`. -/
theorem Db.OwnedBy.sync {limit : Nat} {rows : List BillingInvoice} (h : db.OwnedBy owner) (hF : db.InvoicesFiled)
    (herp : client.isConfigured = true → client.Respects owner base) (hrow : base.tenant? tenant.id = some row)
    (hcustomer : row.platformCustomerId = tenant.platformCustomerId)
    (hr : syncPlatformInvoicesForTenant client db tenant limit now = .ok (rows, db')) :
    db'.OwnedBy owner ∧ db.KeepsTenants db' := by
  unfold syncPlatformInvoicesForTenant at hr
  split at hr
  · rename_i customerId hconfigured hcustomerId
    have hinvoices := ensureBillingAccount_invoices db tenant
    generalize haccount : ControlPlane.ensureBillingAccount db tenant = p at hr hinvoices
    obtain ⟨db₁, account⟩ := p
    obtain ⟨h₁, hthere⟩ := h.ensureBillingAccount haccount
    dsimp only at hr hinvoices
    obtain ⟨items, hitems, hr⟩ := bind_eq_ok.1 hr
    obtain ⟨⟨written, db₂⟩, hwritten, hr⟩ := bind_eq_ok.1 hr
    obtain ⟨db₃, hflush, hr⟩ := bind_eq_ok.1 hr
    cases hr
    obtain rfl := flushInvoices_eq hflush
    have hlisted : ∀ item ∈ items, item.reference ≠ "" → owner item.reference = tenant.id := by
      refine (herp hconfigured).listed tenant.id row hrow customerId ?_ limit items hitems
      unfold Tenant.customerId? at hcustomerId ⊢
      rw [hcustomer]
      exact hcustomerId
    have hsame : ∀ i ∈ db₁.invoices, i.invoiceNumber = i.erpInvoiceId := by
      rw [hinvoices]
      exact hF.same
    obtain ⟨h₂, hkept⟩ := h₁.upsertItems (Db.stillFiled_self h₁.ids) hsame hthere hlisted hwritten
    exact ⟨h₂, (Db.KeepsTenants.congr (.refl db) hinvoices).trans hkept⟩
  · cases hr
    exact ⟨h, .refl db⟩

/-- A resync of one of the tenant's invoices; what it gives back is the tenant's. -/
theorem Db.OwnedBy.resync {invoice updated : BillingInvoice} (h : db.OwnedBy owner) (hF : db.InvoicesFiled)
    (herp : client.isConfigured = true → client.Respects owner base) (hrow : base.tenant? tenant.id = some row)
    (hcustomer : row.platformCustomerId = tenant.platformCustomerId) (hinvoice : db.invoice? invoice.id = some invoice)
    (htenant : invoice.tenantId = tenant.id)
    (hr : resyncOneInvoice client db tenant invoice now = .ok (updated, db')) :
    db'.OwnedBy owner ∧ db.KeepsTenants db' ∧ updated.tenantId = tenant.id := by
  have hinvoices := ensureBillingAccount_invoices db tenant
  have hensured := h.ensureBillingAccount (show _ = ((ControlPlane.ensureBillingAccount db tenant).1,
    (ControlPlane.ensureBillingAccount db tenant).2) from rfl)
  have hkept : db.KeepsTenants (ControlPlane.ensureBillingAccount db tenant).1 := .congr (.refl db) hinvoices
  rcases resyncOneInvoice_ok hr with ⟨rfl, rfl | rfl⟩ | ⟨customerId, item, hcustomerId, hconfigured, hfetch, hupsert, -⟩
  · exact ⟨h, .refl _, htenant⟩
  · exact ⟨hensured.1, hkept, htenant⟩
  · obtain ⟨reference, href, hne, hstrip, hown⟩ := (h.rows invoice (mem_of_get? hinvoice)).reference
    have hasked : strip ((orText invoice.erpInvoiceId (orText invoice.invoiceNumber none)).getD "") = reference := by
      rw [href, show orText (some reference) _ = some reference from if_neg hne]
      exact hstrip
    rw [hasked] at hfetch
    have howner : item.reference ≠ "" → owner item.reference = tenant.id := by
      intro hitem
      unfold fetchInvoiceItem at hfetch
      split at hfetch
      · rename_i got hgot
        cases hfetch
        rw [(herp hconfigured).fetched reference item hgot hitem, hown, htenant]
      · obtain ⟨entries, hentries, hfetch⟩ := bind_eq_ok.1 hfetch
        have hfind := Except.ok.inj hfetch
        refine (herp hconfigured).listed tenant.id row hrow customerId ?_ 50 entries hentries item
          (List.mem_of_find?_eq_some hfind) hitem
        unfold Tenant.customerId? at hcustomerId ⊢
        rw [hcustomer]
        exact hcustomerId
    have hsame : ∀ i ∈ (ControlPlane.ensureBillingAccount db tenant).1.invoices, i.invoiceNumber = i.erpInvoiceId := by
      rw [hinvoices]
      exact hF.same
    obtain ⟨h', -, hkept', htenant'⟩ := hensured.1.upsert (Db.stillFiled_self hensured.1.ids) hsame hensured.2 howner
      hupsert
    exact ⟨h', hkept.trans hkept', htenant'⟩

end

end ControlPlane
