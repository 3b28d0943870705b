import ControlPlane.Base.Growth
import ControlPlane.Base.Runs
import ControlPlane.Billing.NewAttempts
import ControlPlane.TenantIsolation

/-!
# Billing records over whole runs

The accounts, invoices, attempts and events of the ledger refer to one another, and no reference is ever left without its
row (`Db.LedgerSound`, `EventsSound`).  Between two moments of a run the ledger only grows (`Db.LedgerGrown`): an account
stays its tenant's, an invoice keeps its reference, an attempt goes on to its end, and the events are a log.
-/

namespace ControlPlane

open Table Session Runs

/-! ### What rows keep -/

/-- What an account keeps.  A customer id that it has been linked to stays. -/
structure BillingAccount.Kept (account account' : BillingAccount) : Prop where
  id : account'.id = account.id
  tenantId : account'.tenantId = account.tenantId
  customerId : account'.customerId = account.customerId
  currency : account'.currency = account.currency
  erpCustomerId : (orText account.erpCustomerId none).isSome → account'.erpCustomerId = account.erpCustomerId

theorem BillingAccount.Kept.refl (account : BillingAccount) : account.Kept account := ⟨rfl, rfl, rfl, rfl, fun _ => rfl⟩

theorem BillingAccount.Kept.trans (a b c : BillingAccount) (h : a.Kept b) (h' : b.Kept c) : a.Kept c where
  id := h'.id.trans h.id
  tenantId := h'.tenantId.trans h.tenantId
  customerId := h'.customerId.trans h.customerId
  currency := h'.currency.trans h.currency
  erpCustomerId hlinked := by
    have hsame := h.erpCustomerId hlinked
    rw [h'.erpCustomerId (by rw [hsame]; exact hlinked), hsame]

/-- What an invoice keeps.  Its tenant and its account are not among it: they are those of the tenant for which the ERP
listed it last. -/
structure BillingInvoice.Kept (invoice invoice' : BillingInvoice) : Prop where
  id : invoice'.id = invoice.id
  erpInvoiceId : invoice'.erpInvoiceId = invoice.erpInvoiceId
  invoiceNumber : invoice'.invoiceNumber = invoice.invoiceNumber
  createdAt : invoice'.createdAt = invoice.createdAt

theorem BillingInvoice.Kept.refl (invoice : BillingInvoice) : invoice.Kept invoice := ⟨rfl, rfl, rfl, rfl⟩

theorem BillingInvoice.Kept.trans (a b c : BillingInvoice) (h : a.Kept b) (h' : b.Kept c) : a.Kept c where
  id := h'.id.trans h.id
  erpInvoiceId := h'.erpInvoiceId.trans h.erpInvoiceId
  invoiceNumber := h'.invoiceNumber.trans h.invoiceNumber
  createdAt := h'.createdAt.trans h.createdAt

theorem Marked.advanced {attempt marked : PaymentAttempt} (h : Marked attempt marked) : Advanced attempt marked :=
  ⟨h.id, h.tenant, h.invoice, h.amount, Or.inr h.status⟩

/-- The ledger has only been added to. -/
structure Db.LedgerGrown (db db' : Db) : Prop where
  accounts : Grows BillingAccount.Kept db.accounts db'.accounts
  invoices : Grows BillingInvoice.Kept db.invoices db'.invoices
  attempts : Grows ControlPlane.Advanced db.attempts db'.attempts

namespace Db.LedgerGrown

theorem refl (db : Db) : db.LedgerGrown db :=
  ⟨.refl BillingAccount.Kept.refl _, .refl BillingInvoice.Kept.refl _, .refl ControlPlane.Advanced.refl _⟩

theorem trans {db db' db'' : Db} (h : db.LedgerGrown db') (h' : db'.LedgerGrown db'') : db.LedgerGrown db'' where
  accounts := h.accounts.trans BillingAccount.Kept.trans h'.accounts
  invoices := h.invoices.trans BillingInvoice.Kept.trans h'.invoices
  attempts := h.attempts.trans (fun _ _ _ hab hbc => hab.trans hbc) h'.attempts

theorem of_same {db db' : Db} (h : SameLedger db db') : db.LedgerGrown db' := by
  refine ⟨?_, ?_, ?_⟩
  · rw [h.accounts]
    exact .refl BillingAccount.Kept.refl _
  · rw [h.invoices]
    exact .refl BillingInvoice.Kept.refl _
  · rw [h.attempts]
    exact .refl ControlPlane.Advanced.refl _

end Db.LedgerGrown

/-! ### References that lead to a row -/

/-- The invoice is filed under an account of its tenant. -/
def BillingInvoice.HasAccount (accounts : List BillingAccount) (invoice : BillingInvoice) : Prop :=
  ∃ account, get? accounts invoice.billingAccountId = some account ∧ account.tenantId = invoice.tenantId

/-- Ids are unique, and an invoice's account and an attempt's invoice are there. -/
structure Db.LedgerSound (db : Db) : Prop where
  filed : db.InvoicesFiled
  accountIds : (db.accounts.map BillingAccount.id).Nodup
  accountTenants : (db.accounts.map BillingAccount.tenantId).Nodup
  attemptIds : (db.attempts.map PaymentAttempt.id).Nodup
  invoices : ∀ invoice ∈ db.invoices, invoice.HasAccount db.accounts
  attempts : ∀ attempt ∈ db.attempts, ∃ invoice, db.invoice? attempt.billingInvoiceId = some invoice

theorem BillingInvoice.HasAccount.grown {accounts accounts' : List BillingAccount} {invoice : BillingInvoice}
    (h : invoice.HasAccount accounts) (hgrown : Grows BillingAccount.Kept accounts accounts')
    (hids : (accounts'.map BillingAccount.id).Nodup) : invoice.HasAccount accounts' := by
  obtain ⟨account, hrow, htenant⟩ := h
  obtain ⟨account', hrow', hkept⟩ := hgrown.get? (fun _ _ h => h.id) hids hrow
  exact ⟨account', hrow', hkept.tenantId.trans htenant⟩

theorem Db.LedgerGrown.invoice? {db db' : Db} (h : db.LedgerGrown db') (hids : (db'.invoices.map BillingInvoice.id).Nodup)
    {id : Nat} {invoice : BillingInvoice} (hrow : db.invoice? id = some invoice) :
    ∃ invoice', db'.invoice? id = some invoice' ∧ invoice.Kept invoice' :=
  h.invoices.get? (fun _ _ hkept => hkept.id) hids hrow

theorem Db.LedgerSound.of_same {db db' : Db} (h : db.LedgerSound) (hsame : SameLedger db db') : db'.LedgerSound := by
  obtain ⟨haccounts, hinvoices, hattempts⟩ := hsame
  refine ⟨h.filed.congr hinvoices, ?_, ?_, ?_, ?_, ?_⟩
  · rw [haccounts]
    exact h.accountIds
  · rw [haccounts]
    exact h.accountTenants
  · rw [hattempts]
    exact h.attemptIds
  · rw [hinvoices, haccounts]
    exact h.invoices
  · unfold Db.invoice?
    rw [hattempts, hinvoices]
    exact h.attempts

/-- Attempts that go on, of the invoices that they were for. -/
theorem Db.LedgerSound.advance {db : Db} {attempts : List PaymentAttempt} (h : db.LedgerSound)
    (hrows : List.Forall₂ ControlPlane.Advanced db.attempts attempts) :
    ({ db with attempts := attempts } : Db).LedgerSound ∧ db.LedgerGrown { db with attempts := attempts } := by
  have hgrown : Grows ControlPlane.Advanced db.attempts attempts := ⟨attempts, [], (List.append_nil _).symm, hrows⟩
  have hids : attempts.map PaymentAttempt.id = db.attempts.map PaymentAttempt.id := by
    have hadvanced : db.Advanced { db with attempts := attempts } := hrows
    exact hadvanced.ids
  refine ⟨⟨h.filed.congr rfl, h.accountIds, h.accountTenants, ?_, h.invoices, fun attempt hmem => ?_⟩,
    .refl BillingAccount.Kept.refl _, .refl BillingInvoice.Kept.refl _, hgrown⟩
  · show (attempts.map PaymentAttempt.id).Nodup
    rw [hids]
    exact h.attemptIds
  · obtain ⟨old, hold, hadvanced⟩ := exists_of_forall₂ hrows hmem
    rw [hadvanced.invoice]
    exact h.attempts old hold

theorem Db.LedgerSound.mark {db : Db} {attempt marked : PaymentAttempt} (h : db.LedgerSound) (hmem : attempt ∈ db.attempts)
    (hmarked : Marked attempt marked) :
    (db.putAttempt marked).LedgerSound ∧ db.LedgerGrown (db.putAttempt marked) := by
  have hadvanced : db.Advanced (db.putAttempt marked) := (Db.Advanced.refl db).mark h.attemptIds hmem hmarked
  exact h.advance hadvanced

theorem Db.LedgerSound.flush {db : Db} (now : Time) (saved : Db) (h : db.LedgerSound) :
    (Db.flush now saved db).LedgerSound ∧ db.LedgerGrown (Db.flush now saved db) := by
  have hadvanced : db.Advanced (Db.flush now saved db) := (Db.Advanced.refl db).flush now saved
  obtain ⟨hsound, hgrown⟩ := h.advance hadvanced
  have hsame : SameLedger { db with attempts := (Db.flush now saved db).attempts } (Db.flush now saved db) := ⟨rfl, rfl, rfl⟩
  exact ⟨hsound.of_same hsame, hgrown.trans (.of_same hsame)⟩

/-- An invoice is settled in its place. -/
theorem Db.LedgerSound.settle {db : Db} {invoice settled : BillingInvoice} (h : db.LedgerSound)
    (hrow : db.invoice? invoice.id = some invoice) (hsettled : Settled invoice settled) :
    (db.putInvoice settled).LedgerSound ∧ db.LedgerGrown (db.putInvoice settled) := by
  have hget : get? db.invoices (key settled) = some invoice := by
    rw [show key settled = invoice.id from hsettled.id]
    exact hrow
  have hfiled := h.filed.put hrow hsettled.id hsettled.reference hsettled.number
  have hgrows : Grows BillingInvoice.Kept db.invoices (put db.invoices settled) :=
    (Grows.refl BillingInvoice.Kept.refl _).put BillingInvoice.Kept.trans BillingInvoice.Kept.refl h.filed.ids hget
      ⟨hsettled.id, hsettled.reference, hsettled.number, hsettled.created⟩
  refine ⟨⟨hfiled, h.accountIds, h.accountTenants, h.attemptIds, fun row hmem => ?_, fun attempt hmem => ?_⟩,
    .refl BillingAccount.Kept.refl _, hgrows, .refl ControlPlane.Advanced.refl _⟩
  · rcases mem_put hmem with rfl | hmem
    · obtain ⟨account, haccount, htenant⟩ := h.invoices invoice (mem_of_get? hrow)
      refine ⟨account, ?_, htenant.trans hsettled.tenant.symm⟩
      rw [hsettled.account]
      exact haccount
    · exact h.invoices row hmem
  · obtain ⟨row, hrow'⟩ := h.attempts attempt hmem
    obtain ⟨row', hrow'', -⟩ := hgrows.get? (fun _ _ hkept => hkept.id) hfiled.ids hrow'
    exact ⟨row', hrow''⟩

/-! ### Accounts -/

/-- The account of a tenant is there after it is ensured. -/
theorem Db.LedgerSound.ensureBillingAccount {db db' : Db} {tenant : Tenant} {account : BillingAccount}
    (h : db.LedgerSound) (he : ensureBillingAccount db tenant = (db', account)) :
    db'.LedgerSound ∧ db.LedgerGrown db' ∧ get? db'.accounts account.id = some account ∧ account.tenantId = tenant.id := by
  have hgrow : ∀ accounts, Grows BillingAccount.Kept db.accounts accounts → (accounts.map BillingAccount.id).Nodup →
      (accounts.map BillingAccount.tenantId).Nodup → ({ db with accounts := accounts } : Db).LedgerSound ∧
        db.LedgerGrown { db with accounts := accounts } := fun accounts hgrows hids htenants =>
    ⟨⟨h.filed.congr rfl, hids, htenants, h.attemptIds, fun invoice hmem => (h.invoices invoice hmem).grown hgrows hids,
      h.attempts⟩, hgrows, .refl BillingInvoice.Kept.refl _, .refl ControlPlane.Advanced.refl _⟩
  unfold ControlPlane.ensureBillingAccount at he
  split at he
  · rename_i existing hexisting
    have hrow : get? db.accounts existing.id = some existing :=
      get?_of_mem h.accountIds (List.mem_of_find?_eq_some hexisting)
    have htenant : existing.tenantId = tenant.id := by
      have hfound := List.find?_some hexisting
      exact of_decide_eq_true hfound
    split at he
    · rename_i hunlinked
      cases he
      have hkept : existing.Kept { existing with erpCustomerId := tenant.platformCustomerId } := by
        refine ⟨rfl, rfl, rfl, rfl, fun hlinked => ?_⟩
        rw [Option.isNone_iff_eq_none.1 hunlinked.2] at hlinked
        cases hlinked
      have hgrows : Grows BillingAccount.Kept db.accounts
          (put db.accounts { existing with erpCustomerId := tenant.platformCustomerId }) :=
        (Grows.refl BillingAccount.Kept.refl _).put BillingAccount.Kept.trans BillingAccount.Kept.refl h.accountIds hrow hkept
      have htenants : (put db.accounts { existing with erpCustomerId := tenant.platformCustomerId }).map
          BillingAccount.tenantId = db.accounts.map BillingAccount.tenantId := by
        unfold Table.put
        rw [List.map_map]
        refine List.map_congr_left fun row hmem => ?_
        show BillingAccount.tenantId (if _ then _ else row) = row.tenantId
        split
        · rename_i hkey
          have hfound := get?_of_mem h.accountIds hmem
          rw [hkey] at hfound
          cases hrow.symm.trans hfound
          rfl
        · rfl
      obtain ⟨hsound, hgrown⟩ := hgrow _ hgrows ((map_key_put db.accounts _).symm ▸ h.accountIds)
        (by rw [htenants]; exact h.accountTenants)
      exact ⟨hsound, hgrown, get?_put_self hrow, htenant⟩
    · cases he
      exact ⟨h, .refl db, hrow, htenant⟩
  · rename_i hnone
    obtain ⟨hdb, haccount⟩ := Prod.mk.inj he
    have htenant : account.tenantId = tenant.id := by rw [← haccount]
    have hfresh : account.id = fresh db.accounts := by rw [← haccount]
    rw [haccount] at hdb
    obtain rfl := hdb
    have hnew : tenant.id ∉ db.accounts.map BillingAccount.tenantId := by
      intro hmem
      obtain ⟨row, hmem, htenant⟩ := List.mem_map.1 hmem
      have hother := List.find?_eq_none.1 hnone row hmem
      exact hother (decide_eq_true htenant)
    have htenants : ((insert db.accounts account).map BillingAccount.tenantId).Nodup := by
      unfold Table.insert
      rw [List.map_append, List.map_singleton, htenant]
      refine List.nodup_append.2 ⟨h.accountTenants, List.nodup_singleton _, fun a ha b hb heq => ?_⟩
      rw [heq, List.mem_singleton.1 hb] at ha
      exact hnew ha
    obtain ⟨hsound, hgrown⟩ := hgrow _ ((Grows.refl BillingAccount.Kept.refl _).insert account)
      (nodup_insert_fresh h.accountIds hfresh) htenants
    have hnone : get? db.accounts (key account) = none := by
      rw [show key account = fresh db.accounts from hfresh]
      exact get?_fresh db.accounts
    exact ⟨hsound, hgrown, get?_insert_self hnone, htenant⟩

/-! ### Invoices -/

/-- The invoices within a sync: the flushed rows are there, each under its reference, and each row has its account. -/
structure Filing (flushed : List BillingInvoice) (db : Db) : Prop where
  ids : (db.invoices.map BillingInvoice.id).Nodup
  grows : Grows BillingInvoice.Kept flushed db.invoices
  rows : ∀ invoice ∈ db.invoices, invoice.HasAccount db.accounts

section

variable {flushed : List BillingInvoice} {db db' : Db} {tenant : Tenant} {account : BillingAccount} {now : Time}

theorem Filing.upsert {item : ErpItem} {invoice : BillingInvoice} (h : Filing flushed db)
    (hsame : ∀ i ∈ flushed, i.invoiceNumber = i.erpInvoiceId)
    (haccount : get? db.accounts account.id = some account ∧ account.tenantId = tenant.id)
    (hr : upsertBillingInvoiceFromErpItem flushed db tenant account item now = .ok (invoice, db')) : Filing flushed db' := by
  have hids := upsertBillingInvoiceFromErpItem_ids hr h.ids
  obtain ⟨-, db₁, found, due, paid, hfound, hinvoice, rfl⟩ := upsertBillingInvoiceFromErpItem_ok hr
  have hid : invoice.id = found.id := by
    rw [hinvoice]
    rfl
  have hreference : invoice.erpInvoiceId = some item.reference ∧ invoice.invoiceNumber = some item.reference := by
    rw [hinvoice]
    exact ⟨rfl, rfl⟩
  have hcreated : invoice.createdAt = found.createdAt := by
    rw [hinvoice]
    rfl
  have hhas : invoice.HasAccount db.accounts := by
    rw [hinvoice]
    exact ⟨account, haccount.1, haccount.2⟩
  rcases findOrAddInvoice_cases db tenant account item.reference now hsame with
    ⟨old, hold, holdReference, heq⟩ | ⟨-, added, hfresh, -, heq⟩
  · rw [heq] at hfound
    cases hfound
    obtain ⟨row, hrow, hkept⟩ := h.grows.mem hold
    have hget : db.invoice? old.id = some row := by
      rw [← hkept.id]
      exact get?_of_mem h.ids hrow
    rw [hget, Option.getD_some] at hid hcreated
    have hgetInvoice : get? db.invoices (key invoice) = some row := by
      rw [show key invoice = row.id from hid]
      exact get?_of_mem h.ids hrow
    refine ⟨hids, h.grows.put BillingInvoice.Kept.trans BillingInvoice.Kept.refl h.ids hgetInvoice ⟨hid, ?_, ?_, hcreated⟩,
      fun other hmem => ?_⟩
    · rw [hreference.1, hkept.erpInvoiceId, holdReference]
    · rw [hreference.2, hkept.invoiceNumber, hsame old hold, holdReference]
    · rcases mem_put hmem with rfl | hmem
      · exact hhas
      · exact h.rows other hmem
  · rw [heq] at hfound
    cases hfound
    have hput : put (insert db.invoices found) invoice = insert db.invoices invoice := put_insert_fresh hfresh hid
    refine ⟨hids, ?_, fun other hmem => ?_⟩
    · show Grows BillingInvoice.Kept flushed (put (insert db.invoices found) invoice)
      rw [hput]
      exact h.grows.insert invoice
    · replace hmem : other ∈ put (insert db.invoices found) invoice := hmem
      rw [hput] at hmem
      rcases mem_insert.1 hmem with hmem | rfl
      · exact h.rows other hmem
      · exact hhas

theorem Filing.upsertItems {items : List ErpItem} {rows : List BillingInvoice} (h : Filing flushed db)
    (hsame : ∀ i ∈ flushed, i.invoiceNumber = i.erpInvoiceId)
    (haccount : get? db.accounts account.id = some account ∧ account.tenantId = tenant.id)
    (hr : upsertItems flushed tenant account now items db = .ok (rows, db')) : Filing flushed db' := by
  refine (upsertItems_keeps (J := fun db' => Filing flushed db' ∧ db'.accounts = db.accounts) ?_ hr ⟨h, rfl⟩).1
  rintro item db₁ invoice db₂ hitem ⟨h₁, haccounts⟩
  have hthere : get? db₁.accounts account.id = some account ∧ account.tenantId = tenant.id := by
    rw [haccounts]
    exact haccount
  refine ⟨h₁.upsert hsame hthere hitem, ?_⟩
  obtain ⟨invoices, rfl⟩ := upsertBillingInvoiceFromErpItem_frame hitem
  exact haccounts

/-- What a sync files, in a ledger that was sound. -/
theorem Db.LedgerSound.filed_by {invoices : List BillingInvoice} (h : db.LedgerSound)
    (hfiling : Filing db.invoices { db with invoices := invoices })
    (hfiled : ({ db with invoices := invoices } : Db).InvoicesFiled) :
    ({ db with invoices := invoices } : Db).LedgerSound ∧ db.LedgerGrown { db with invoices := invoices } := by
  refine ⟨⟨hfiled, h.accountIds, h.accountTenants, h.attemptIds, hfiling.rows, fun attempt hmem => ?_⟩,
    .refl BillingAccount.Kept.refl _, hfiling.grows, .refl ControlPlane.Advanced.refl _⟩
  obtain ⟨row, hrow⟩ := h.attempts attempt hmem
  obtain ⟨row', hrow', -⟩ := hfiling.grows.get? (fun _ _ hkept => hkept.id) hfiled.ids hrow
  exact ⟨row', hrow'⟩

theorem Db.LedgerSound.filing (h : db.LedgerSound) : Filing db.invoices db :=
  ⟨h.filed.ids, .refl BillingInvoice.Kept.refl _, h.invoices⟩

theorem Db.LedgerSound.resync {client : PlatformErpClient} {invoice updated : BillingInvoice} (h : db.LedgerSound)
    (hr : resyncOneInvoice client db tenant invoice now = .ok (updated, db')) :
    db'.LedgerSound ∧ db.LedgerGrown db' := by
  obtain ⟨hsound, hgrown, haccount⟩ := h.ensureBillingAccount
    (show ControlPlane.ensureBillingAccount db tenant = (_, (ControlPlane.ensureBillingAccount db tenant).2) from rfl)
  have hfiled := h.filed.resync hr
  rcases resyncOneInvoice_ok hr with ⟨-, rfl | rfl⟩ | ⟨customerId, item, -, -, -, hrow, -⟩
  · exact ⟨h, .refl _⟩
  · exact ⟨hsound, hgrown⟩
  · have hfiling := hsound.filing.upsert hsound.filed.same haccount hrow
    obtain ⟨invoices, rfl⟩ := upsertBillingInvoiceFromErpItem_frame hrow
    obtain ⟨hsound', hgrown'⟩ := hsound.filed_by hfiling hfiled
    exact ⟨hsound', hgrown.trans hgrown'⟩

theorem Db.LedgerSound.sync {client : PlatformErpClient} {limit : Nat} {rows : List BillingInvoice} (h : db.LedgerSound)
    (hr : syncPlatformInvoicesForTenant client db tenant limit now = .ok (rows, db')) :
    db'.LedgerSound ∧ db.LedgerGrown db' := by
  obtain ⟨hsound, hgrown, haccount⟩ := h.ensureBillingAccount
    (show ControlPlane.ensureBillingAccount db tenant = (_, (ControlPlane.ensureBillingAccount db tenant).2) from rfl)
  have hfiled := h.filed.sync hr
  rcases syncPlatformInvoicesForTenant_ok hr with rfl | ⟨customerId, items, -, -, -, hitems, -⟩
  · exact ⟨h, .refl _⟩
  · have hfiling := hsound.filing.upsertItems hsound.filed.same haccount hitems
    obtain ⟨invoices, rfl⟩ := upsertItems_frame hitems
    obtain ⟨hsound', hgrown'⟩ := hsound.filed_by hfiling hfiled
    exact ⟨hsound', hgrown.trans hgrown'⟩

end

/-! ### The ledger of a step -/

/-- A new attempt, for the invoice that came back from its resync. -/
theorem Db.LedgerSound.attempt {db db' : Db} {tenant : Tenant} {invoice updated : BillingInvoice}
    (checkout : CheckoutResult) {client : PlatformErpClient} {now : Time} (h : db.LedgerSound)
    (hrow : db.invoice? invoice.id = some invoice)
    (hr : resyncOneInvoice client db tenant invoice now = .ok (updated, db')) :
    (addPaymentAttempt db' tenant updated checkout now).LedgerSound ∧
      db.LedgerGrown (addPaymentAttempt db' tenant updated checkout now) := by
  obtain ⟨hsound, hgrown⟩ := h.resync hr
  have hupdated := resyncOneInvoice_row hrow hr
  have hledger := addPaymentAttempt_ledger db' tenant updated checkout now
  have hadded : ({ db' with attempts := insert db'.attempts (newPaymentAttempt db' tenant updated checkout now) } :
      Db).LedgerSound := by
    refine ⟨hsound.filed.congr rfl, hsound.accountIds, hsound.accountTenants, nodup_insert_fresh hsound.attemptIds rfl,
      hsound.invoices, fun attempt hmem => ?_⟩
    rcases mem_insert.1 hmem with hmem | rfl
    · exact hsound.attempts attempt hmem
    · exact ⟨updated, hupdated⟩
  have hgrown' : db'.LedgerGrown
      { db' with attempts := insert db'.attempts (newPaymentAttempt db' tenant updated checkout now) } :=
    ⟨.refl BillingAccount.Kept.refl _, .refl BillingInvoice.Kept.refl _, (Grows.refl ControlPlane.Advanced.refl _).insert _⟩
  exact ⟨hadded.of_same hledger, (hgrown.trans hgrown').trans (.of_same hledger)⟩

/-- What a step does to the ledger keeps it sound and adds to it. -/
theorem sound_ledger (db₀ : Db) (w : World) (e : Event) :
    LedgerInvariant (fun db => db.LedgerSound ∧ db₀.LedgerGrown db) w e := by
  have hgo : ∀ {db db' : Db}, db.LedgerSound ∧ db₀.LedgerGrown db → db'.LedgerSound ∧ db.LedgerGrown db' →
      db'.LedgerSound ∧ db₀.LedgerGrown db' := fun h h' => ⟨h'.1, h.2.trans h'.2⟩
  refine
    { ids := fun db h => h.1.filed.ids
      same := fun db db' hsame _ h => hgo h ⟨h.1.of_same hsame, .of_same hsame⟩
      customer := fun _ db db' hsame h => hgo h ⟨h.1.of_same hsame, .of_same hsame⟩
      flush := fun now saved work _ h => hgo h (h.1.flush now saved)
      resynced := fun tick db tenant invoice updated db' h _ _ _ hr => hgo h (h.1.resync hr)
      settled := fun db invoice settled h hrow hsettled => hgo h (h.1.settle hrow hsettled)
      marked := fun db attempt marked h hmem hmarked => hgo h (h.1.mark hmem hmarked)
      synced := ?_
      attempted := ?_ }
  · intro tick tenantId limit db u db' h hr
    obtain ⟨tenant, -, hr⟩ := bind_eq_ok.1 hr
    obtain ⟨⟨rows, db₁⟩, hsync, hr⟩ := bind_eq_ok.1 hr
    cases hr
    exact hgo h (h.1.sync hsync)
  · intro h invoiceId provider invoice tenant owner _ hinvoice attemptId db' hr
    obtain ⟨hinvoiceRow, -⟩ := requireInvoice_ok hinvoice
    have hrow : w.db.invoice? invoice.id = some invoice := by
      rw [show invoice.id = invoiceId from key_of_get? hinvoiceRow]
      exact hinvoiceRow
    obtain ⟨updated, db₁, checkout, hresync, -, -, -, rfl⟩ := preparePaymentAttempt_ledger hr
    exact hgo h (h.1.attempt checkout hrow hresync)

/-! ### Events -/

/-- The event names an invoice that is there, and if it names an attempt, an attempt of that invoice. -/
def BillingEvent.Sound (db : Db) (row : BillingEvent) : Prop :=
  ∃ invoice, row.billingInvoiceId.bind db.invoice? = some invoice ∧ ∀ id, row.paymentAttemptId = some id →
    ∃ attempt, db.attempt? id = some attempt ∧ attempt.billingInvoiceId = invoice.id

/-- Every billing event leads to its invoice and its attempt. -/
def Db.EventsSound (db : Db) : Prop := ∀ row ∈ db.events, row.Sound db

theorem BillingEvent.Sound.grown {db db' : Db} {row : BillingEvent} (h : row.Sound db) (hsound : db'.LedgerSound)
    (hgrown : db.LedgerGrown db') : row.Sound db' := by
  obtain ⟨invoice, hinvoice, hattempt⟩ := h
  obtain ⟨invoiceId, hid, hrow⟩ := Option.bind_eq_some_iff.1 hinvoice
  obtain ⟨invoice', hrow', hkept⟩ := hgrown.invoice? hsound.filed.ids hrow
  refine ⟨invoice', ?_, fun id hattemptId => ?_⟩
  · rw [hid]
    exact hrow'
  · obtain ⟨attempt, hget, hfor⟩ := hattempt id hattemptId
    obtain ⟨attempt', hget', hadvanced⟩ := hgrown.attempts.get? (fun _ _ h => h.id) hsound.attemptIds hget
    exact ⟨attempt', hget', by rw [hadvanced.invoice, hfor, hkept.id]⟩

/-- At most one event is filed, and it leads to its rows. -/
def Db.FilesEvent (db db' : Db) : Prop :=
  db'.events = db.events ∨ ∃ row : BillingEvent, row.Sound db' ∧ db'.events = insert db.events row

theorem Db.EventsSound.filed {db db' : Db} (h : db.EventsSound) (hfiles : db.FilesEvent db') (hsound : db'.LedgerSound)
    (hgrown : db.LedgerGrown db') : db'.EventsSound := by
  have hold : ∀ row ∈ db.events, row.Sound db' := fun row hmem => (h row hmem).grown hsound hgrown
  rcases hfiles with hsame | ⟨row, hrow, hrows⟩
  · unfold Db.EventsSound
    rw [hsame]
    exact hold
  · intro other hmem
    rw [hrows] at hmem
    rcases mem_insert.1 hmem with hmem | rfl
    · exact hold other hmem
    · exact hrow

theorem Db.FilesEvent.isPrefix {db db' : Db} (h : db.FilesEvent db') : db.events <+: db'.events := by
  rcases h with hsame | ⟨row, -, hrows⟩
  · rw [hsame]
  · rw [hrows]
    exact List.prefix_append _ _

/-- An event about an attempt, under the attempt's invoice. -/
theorem BillingEvent.Records.sound {db : Db} {row : BillingEvent} {tenantId : Nat} {attempt : PaymentAttempt}
    (h : row.Records tenantId attempt) (hsound : db.LedgerSound) (hmem : attempt ∈ db.attempts) : row.Sound db := by
  obtain ⟨invoice, hrow⟩ := hsound.attempts attempt hmem
  refine ⟨invoice, ?_, fun id hid => ⟨attempt, ?_, ?_⟩⟩
  · rw [h.invoice]
    exact hrow
  · rw [h.attempt] at hid
    cases hid
    exact get?_of_mem hsound.attemptIds hmem
  · have hid : invoice.id = attempt.billingInvoiceId := key_of_get? hrow
    exact hid.symm

/-- What a reconciliation records is about the invoice it resynced, and the latest attempt of that. -/
def FiledFor (invoice : BillingInvoice) (attempt : Option PaymentAttempt) (db db' : Db) : Prop :=
  db'.events = db.events ∨ ∃ row : BillingEvent, row.billingInvoiceId = some invoice.id ∧
    row.paymentAttemptId = attempt.map PaymentAttempt.id ∧ db'.events = insert db.events row

theorem reconcileSettledInvoice_filed {client : PlatformErpClient} {db db' : Db} {tenant : Tenant}
    {subscription : Option Subscription} {invoice : BillingInvoice} {attempt : Option PaymentAttempt}
    {result result' : InvoiceReconciliationResult} {now : Time} {email : Option String}
    (h : reconcileSettledInvoice client db tenant subscription invoice attempt result now =
      .ok ((result', email), db')) : FiledFor invoice attempt db db' := by
  obtain ⟨paid, updated, resolved, db₁, db₂, hpay, hresolve, -, hcases⟩ := reconcileSettledInvoice_parts rfl h
  have hid : paid.map PaymentAttempt.id = attempt.map PaymentAttempt.id := by
    unfold payAttemptFromErp at hpay
    split at hpay
    · dsimp only at hpay
      split at hpay
      · cases hpay
        rfl
      · cases hpay
        rfl
    · cases hpay
      rfl
  obtain ⟨attempts, rfl⟩ := payAttemptFromErp_frame hpay
  cases hresolve
  rcases hcases with ⟨-, -, opened, db₃, hopen, rfl⟩ | ⟨s, activated, outcome, -, -, -, -, -, rfl⟩
  · obtain ⟨exceptions, rfl⟩ := openBillingException_frame hopen
    exact Or.inr ⟨_, rfl, hid, rfl⟩
  · exact Or.inr ⟨_, rfl, hid, rfl⟩

theorem reconcileUnsettledInvoice_filed {db db' : Db} {tenant : Tenant} {subscription : Option Subscription}
    {invoice : BillingInvoice} {attempt : Option PaymentAttempt} {result : InvoiceReconciliationResult} {now : Time}
    {r : InvoiceReconciliationResult × Option String}
    (h : reconcileUnsettledInvoice db tenant subscription invoice attempt result now = (r, db')) :
    FiledFor invoice attempt db db' := by
  unfold reconcileUnsettledInvoice at h
  split at h
  · split at h
    · dsimp only at h
      generalize hopen : openBillingException _ tenant subscription invoice _ "erp_mismatch" _ now = p at h
      obtain ⟨opened, db₁⟩ := p
      obtain ⟨exceptions, rfl⟩ := openBillingException_frame hopen
      cases h
      exact Or.inr ⟨_, rfl, rfl, rfl⟩
    · cases h
      exact Or.inl rfl
  · cases h
    exact Or.inl rfl

theorem reconcileInvoice_files {tenantId invoiceId : Nat} {now : Time} {client : PlatformErpClient} {db db' : Db}
    {r : InvoiceReconciliationResult × Option String} (h : db.LedgerSound)
    (hr : reconcileInvoice tenantId invoiceId now client db = .ok (r, db')) : db.FilesEvent db' := by
  obtain ⟨result, email⟩ := r
  obtain ⟨tenant, -, hr⟩ := bind_eq_ok.1 hr
  obtain ⟨invoice, hinvoice, hr⟩ := bind_eq_ok.1 hr
  obtain ⟨⟨updated, db₁⟩, hresync, hr⟩ := bind_eq_ok.1 hr
  have hget : db.invoice? invoice.id = some invoice := by
    have hrow := requireInvoiceRow_ok hinvoice
    rw [show invoice.id = invoiceId from key_of_get? hrow]
    exact hrow
  have hrow := resyncOneInvoice_row hget hresync
  obtain ⟨hsound, -⟩ := h.resync hresync
  obtain ⟨⟨status, hmarks⟩, hfiled⟩ : (∃ status, MarksLatest status updated db₁ db') ∧
      FiledFor updated (latestPaymentAttempt (db₁.attemptsOf updated.id)) db₁ db' := by
    dsimp only at hr
    split at hr
    · exact ⟨⟨_, reconcileSettledInvoice_ledger hr⟩, reconcileSettledInvoice_filed hr⟩
    · have hr := Except.ok.inj hr
      exact ⟨⟨_, reconcileUnsettledInvoice_ledger hr⟩, reconcileUnsettledInvoice_filed hr⟩
  have hlater : db'.LedgerSound ∧ db₁.LedgerGrown db' := by
    rcases hmarks with hsame | ⟨attempt, marked, hlatest, ⟨hmarked, -⟩, hsame⟩
    · exact ⟨hsound.of_same hsame, .of_same hsame⟩
    · obtain ⟨hmem, -⟩ := List.mem_filter.1 (mem_of_latestBy hlatest)
      obtain ⟨hsound', hgrown⟩ := hsound.mark hmem hmarked
      exact ⟨hsound'.of_same hsame, hgrown.trans (.of_same hsame)⟩
  obtain ⟨accounts, invoices, hframe⟩ := resyncOneInvoice_frame hresync
  have hevents : db₁.events = db.events := by rw [hframe]
  rcases hfiled with hsame | ⟨row, hrowInvoice, hrowAttempt, hrows⟩
  · exact Or.inl (hsame.trans hevents)
  · refine Or.inr ⟨row, BillingEvent.Sound.grown ?_ hlater.1 hlater.2, by rw [hrows, hevents]⟩
    refine ⟨updated, by rw [hrowInvoice]; exact hrow, fun id hid => ?_⟩
    rw [hrowAttempt] at hid
    obtain ⟨attempt, hlatest, rfl⟩ := Option.map_eq_some_iff.1 hid
    obtain ⟨hmem, hfor⟩ := List.mem_filter.1 (mem_of_latestBy hlatest)
    exact ⟨attempt, get?_of_mem hsound.attemptIds hmem, of_decide_eq_true hfor⟩

theorem preparePaymentAttempt_files {env : Env} {tenant : Tenant} {owner : User} {invoice : BillingInvoice}
    {provider : Option String} {attemptId : Nat} {now : Time} {client : PlatformErpClient} {db db' : Db}
    (h : db.LedgerSound) (hrow : db.invoice? invoice.id = some invoice)
    (hr : preparePaymentAttempt env.gateway tenant owner invoice provider now client db = .ok (attemptId, db')) :
    db.FilesEvent db' := by
  obtain ⟨updated, db₁, checkout, hresync, -, -, -, rfl⟩ := preparePaymentAttempt_ledger hr
  obtain ⟨hsound, -⟩ := h.attempt checkout hrow hresync
  have hattempt : newPaymentAttempt db₁ tenant updated checkout now ∈
      (addPaymentAttempt db₁ tenant updated checkout now).attempts := by
    rw [(addPaymentAttempt_ledger db₁ tenant updated checkout now).attempts]
    exact mem_insert.2 (Or.inr rfl)
  have hevents : db₁.events = db.events := by
    obtain ⟨accounts, invoices, rfl⟩ := resyncOneInvoice_frame hresync
    rfl
  obtain ⟨row, hrecords, hrows⟩ : ∃ row : BillingEvent,
      row.Records tenant.id (newPaymentAttempt db₁ tenant updated checkout now) ∧
        (addPaymentAttempt db₁ tenant updated checkout now).events = insert db₁.events row := by
    unfold addPaymentAttempt
    dsimp only
    split
    · exact ⟨_, ⟨rfl, rfl, rfl⟩, rfl⟩
    · exact ⟨_, ⟨rfl, rfl, rfl⟩, rfl⟩
  exact Or.inr ⟨row, hrecords.sound hsound hattempt, by rw [hrows, hevents]⟩

/-- A change files at most one event. -/
theorem Change.filesEvent {w : World} {e : Event} {db db' : Db} (hchange : Change w e db db') (h : db.LedgerSound)
    (hlater : db'.LedgerSound ∧ db.LedgerGrown db') : db.FilesEvent db' := by
  cases hchange with
  | created _ hr =>
    obtain ⟨organizations, tenants, plans, subscriptions, rfl⟩ := prepareTenant_frame hr
    exact Or.inl rfl
  | checkedOut _ hr =>
    obtain ⟨tenants, subscriptions, rfl⟩ := recordCheckout_frame hr
    exact Or.inl rfl
  | renewed _ hr =>
    obtain ⟨tenants, plans, subscriptions, rfl⟩ := prepareRenewedCheckout_frame hr
    exact Or.inl rfl
  | handled _ _ _ _ hr =>
    rcases eventBody_recorded hr with hsame | ⟨attempt, row, hmem, hrecords, hrows⟩
    · exact Or.inl hsame
    · exact Or.inr ⟨row, (hrecords.sound h hmem).grown hlater.1 hlater.2, hrows⟩
  | synced _ hr =>
    obtain ⟨accounts, invoices, rfl⟩ := syncForTenant_frame hr
    exact Or.inl rfl
  | attempted _ hinvoice hr =>
    obtain ⟨hinvoiceRow, -⟩ := requireInvoice_ok hinvoice
    obtain rfl := key_of_get? hinvoiceRow
    exact preparePaymentAttempt_files h hinvoiceRow hr
  | reconciled _ _ _ hr => exact reconcileInvoice_files h hr
  | expired _ hr =>
    obtain ⟨tenants, subscriptions, rfl⟩ := expireTrial_frame hr
    exact Or.inl rfl
  | moved _ hr =>
    obtain ⟨tenant, -, hr⟩ := bind_eq_ok.1 hr
    obtain ⟨moved, -, hr⟩ := bind_eq_ok.1 hr
    cases hr
    exact Or.inl rfl
  | retried _ hr =>
    obtain ⟨tenant, -, hr⟩ := bind_eq_ok.1 hr
    obtain ⟨u, -, hr⟩ := bind_eq_ok.1 hr
    obtain ⟨moved, -, hr⟩ := bind_eq_ok.1 hr
    cases hr
    exact Or.inl rfl
  | _ => exact Or.inl rfl

/-! ### Runs -/

/-- The ledger and its events, as far as they go back to `db`. -/
structure Db.Records (db db' : Db) : Prop where
  ledger : db'.LedgerSound
  events : db'.EventsSound
  grown : db.LedgerGrown db'
  log : db.events <+: db'.events

theorem follows_records (db₀ : Db) (w : World) (e : Event) : Follows db₀.Records w e where
  core db db' hcore h := by
    have hsame : SameLedger db db' := ⟨Db.accounts_of_core hcore, Db.invoices_of_core hcore, Db.attempts_of_core hcore⟩
    have hevents : db'.events = db.events := show db'.core.events = db.core.events from congrArg Db.events hcore
    have hsound := h.ledger.of_same hsame
    refine ⟨hsound, h.events.filed (Or.inl hevents) hsound (.of_same hsame), h.grown.trans (.of_same hsame), ?_⟩
    rw [hevents]
    exact h.log
  flush now saved work _ h := by
    obtain ⟨hsound, hgrown⟩ := h.ledger.flush now saved
    exact ⟨hsound, h.events.filed (Or.inl rfl) hsound hgrown, h.grown.trans hgrown, h.log⟩
  invoiceIds db h := h.ledger.filed.ids
  single db db' hchange h := by
    have hlater := (sound_ledger db w e).single hchange ⟨h.ledger, .refl db⟩
    have hfiles := hchange.filesEvent h.ledger hlater
    exact ⟨hlater.1, h.events.filed hfiles hlater.1 hlater.2, h.grown.trans hlater.2, h.log.trans hfiles.isPrefix⟩

theorem always_records {w : World} (es : List Event) (h : w.db.LedgerSound) (hevents : w.db.EventsSound) :
    Always step (fun w' => w.db.Records w'.db) w es :=
  Always.of_invariant (I := fun w' : World => w.db.Records w'.db) (fun w' e hw' => step_follows (follows_records w.db w' e) hw')
    ⟨h, hevents, .refl _, List.prefix_refl _⟩ es

/-- At every moment of a run each invoice has its account, each attempt its invoice and each billing event its invoice and
attempt; and up to any later moment no account, invoice or attempt is lost or becomes another one, no attempt becomes active
again, and the events are a log. -/
theorem ledger_kept {w : World} (es es' : List Event) (h : w.db.LedgerSound) (hevents : w.db.EventsSound) :
    (run step w es).db.LedgerSound ∧ (run step w es).db.EventsSound ∧
      (run step w es).db.LedgerGrown (run step w (es ++ es')).db ∧
      (run step w es).db.events <+: (run step w (es ++ es')).db.events := by
  have hmiddle := (always_records es h hevents).last
  have hlater := (always_records es' hmiddle.ledger hmiddle.events).last
  rw [run_append]
  exact ⟨hmiddle.ledger, hmiddle.events, hlater.grown, hlater.log⟩

namespace Small

/-- The invoice is to be paid, and its checkout is confirmed. -/
def paidByCard : List Event := [⟨openErpAt 1, .createPaymentAttempt 1 none⟩]

def confirmedThen : List Event := [⟨openErpAt 2, checkoutWebhook .paymentConfirmed 1 "paid"⟩]

theorem linked_ledger_kept :
    (run step linked paidByCard).db.LedgerSound ∧ (run step linked paidByCard).db.EventsSound ∧
      (run step linked paidByCard).db.LedgerGrown (run step linked (paidByCard ++ confirmedThen)).db ∧
      (run step linked paidByCard).db.events <+: (run step linked (paidByCard ++ confirmedThen)).db.events := by
  have hattempts : linked.db.attempts = [] := by decide +kernel
  have hevents : linked.db.events = [] := by decide +kernel
  refine ledger_kept paidByCard confirmedThen ⟨⟨?_, ?_, ?_⟩, ?_, ?_, ?_, ?_, ?_⟩ ?_
  · decide
  · decide
  · decide
  · decide
  · decide
  · rw [hattempts]
    exact List.nodup_nil
  · intro row hmem
    obtain rfl := List.mem_singleton.1 hmem
    exact ⟨_, rfl, rfl⟩
  · intro attempt hmem
    rw [hattempts] at hmem
    cases hmem
  · intro row hmem
    rw [hevents] at hmem
    cases hmem

/-- The attempt that was active is paid, and both moments have their event. -/
example : (run step linked (paidByCard ++ confirmedThen)).db.attempts.map PaymentAttempt.status = [.paid] ∧
    (run step linked (paidByCard ++ confirmedThen)).db.events.map BillingEvent.paymentAttemptId = [some 1, some 1] := by
  decide +kernel

end Small

end ControlPlane
