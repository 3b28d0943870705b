import ControlPlane.Billing.LastItems
import ControlPlane.Entitlement
import ControlPlane.Support.MinorUnits

/-!
# Syncing twice

A sync files each reference the ERP lists once, a second one changes only when the rows were synced, and the amounts of a
row come to the total: `SyncsOnce`.  The code does all of that exactly for a `CleanList`: a reference no row
has is listed once, the rows' last items do not have a payment stamped, and the amounts round to what they come to.
-/

namespace ControlPlane

open Table

/-- Zero, what is outstanding and the total come in this order, and the total is above zero. -/
def ErpItem.InRange (item : ErpItem) : Prop :=
  ∃ outstanding total, item.outstandingAmount.value = some outstanding ∧ item.grandTotal.value = some total ∧
    0 ≤ outstanding ∧ outstanding ≤ total ∧ 0 < total

/-- A sync of the listed items succeeds, leaves one invoice for each reference, and changes nothing but the times of the
syncs when it is repeated; the stored amounts of an item in range come to its total. -/
def SyncsOnce (client : PlatformErpClient) (tenant : Tenant) (limit : Nat) (items : List ErpItem) (now : Time) (db : Db) :
    Prop :=
  ∃ rows db', syncPlatformInvoicesForTenant client db tenant limit now = .ok (rows, db') ∧
    (∀ item ∈ items, (db'.invoices.filter fun i => i.erpInvoiceId = some item.reference).length = 1) ∧
    (∀ later, now ≤ later → ∃ rows' db'', syncPlatformInvoicesForTenant client db' tenant limit later =
      .ok (rows', db'') ∧ db''.unsynced = db'.unsynced) ∧
    ∀ item ∈ items, item.InRange → ∀ invoice ∈ db'.invoices, invoice.erpInvoiceId = some item.reference →
      toMinorUnits item.grandTotal = .ok (invoice.amountDue + invoice.amountPaid)

/-- The total of an item is that of the last one with its reference, or what that one has outstanding if it is more; if
the last one has no total, it is what that one has outstanding and paid. -/
def ErpItem.MatchesTotal (last item : ErpItem) : Prop :=
  ∃ total due lastTotal, toMinorUnits item.grandTotal = .ok total ∧ toMinorUnits last.outstandingAmount = .ok due ∧
    toMinorUnits last.grandTotal = .ok lastTotal ∧
    ((lastTotal ≠ 0 ∧ total = max lastTotal due) ∨ (lastTotal = 0 ∧ toMinorUnits last.paidAmount = .ok (total - due)))

/-- The lists that a sync files as it is meant to. -/
structure CleanList (invoices : List BillingInvoice) (items : List ErpItem) : Prop where
  readable : ∀ item ∈ items, ∃ amounts, item.amounts = .ok amounts
  distinct : (newReferences invoices items).Nodup
  unstamped : ∀ item ∈ items, lastListed items item.reference = some item → item.stampsPayment = false
  ownTotal : ∀ item ∈ items, item.InRange → lastListed items item.reference = some item →
    toMinorUnits item.grandTotal = .ok 0 → toMinorUnits item.paidAmount = .ok 0
  laterTotal : ∀ item ∈ items, item.InRange → ∀ last, lastListed items item.reference = some last → last ≠ item →
    last.MatchesTotal item

/-! ### Amounts -/

theorem ErpItem.amounts_ok {item : ErpItem} {due paid : Int} (h : item.amounts = .ok (due, paid)) :
    ∃ total, toMinorUnits item.outstandingAmount = .ok due ∧ toMinorUnits item.grandTotal = .ok total ∧
      ((total ≠ 0 ∧ paid = max (total - due) 0) ∨ (total = 0 ∧ toMinorUnits item.paidAmount = .ok paid)) := by
  obtain ⟨due', hdue, h⟩ := bind_eq_ok.1 h
  obtain ⟨total, htotal, h⟩ := bind_eq_ok.1 h
  obtain ⟨paid', hpaid, h⟩ := bind_eq_ok.1 h
  cases h
  refine ⟨total, hdue, htotal, ?_⟩
  unfold ErpItem.amountPaid at hpaid
  split at hpaid
  · rename_i hne
    exact Or.inl ⟨hne, (Except.ok.inj hpaid).symm⟩
  · rename_i heq
    exact Or.inr ⟨not_not.1 heq, hpaid⟩

theorem ErpItem.matchesTotal_iff {last : ErpItem} (item : ErpItem) {due paid : Int}
    (h : last.amounts = .ok (due, paid)) :
    last.MatchesTotal item ↔ toMinorUnits item.grandTotal = .ok (due + paid) := by
  obtain ⟨lastTotal, hdue, hlastTotal, hpaid⟩ := ErpItem.amounts_ok h
  constructor
  · rintro ⟨total, due', lastTotal', htotal, hdue', hlastTotal', hcases⟩
    rw [hdue] at hdue'
    rw [hlastTotal] at hlastTotal'
    cases hdue'
    cases hlastTotal'
    rw [htotal]
    congr 1
    rcases hcases with ⟨hne, hmax⟩ | ⟨hzero, hrest⟩
    · obtain ⟨-, hpaid⟩ := hpaid.resolve_right fun hpaid => hne hpaid.1
      omega
    · obtain ⟨-, hpaid⟩ := hpaid.resolve_left fun hpaid => hpaid.1 hzero
      rw [hrest] at hpaid
      cases hpaid
      omega
  · intro htotal
    refine ⟨due + paid, due, lastTotal, htotal, hdue, hlastTotal, ?_⟩
    rcases hpaid with ⟨hne, hpaid⟩ | ⟨hzero, hpaid⟩
    · exact Or.inl ⟨hne, by omega⟩
    · exact Or.inr ⟨hzero, by rw [hpaid]; congr 1; omega⟩

/-- The amounts of an item in range come to its total, unless that rounds to nothing and something was paid. -/
theorem ErpItem.InRange.comesToTotal_iff {item : ErpItem} (hrange : item.InRange) {due paid : Int}
    (h : item.amounts = .ok (due, paid)) :
    (toMinorUnits item.grandTotal = .ok 0 → toMinorUnits item.paidAmount = .ok 0) ↔
      toMinorUnits item.grandTotal = .ok (due + paid) := by
  obtain ⟨total, hdue, htotal, hpaid⟩ := ErpItem.amounts_ok h
  obtain ⟨outstanding, value, houtstanding, hvalue, hnonneg, hle, -⟩ := hrange
  obtain ⟨hdue₀, hdueTotal⟩ := toMinorUnits_le houtstanding hvalue hnonneg hle hdue htotal
  rw [htotal]
  rcases hpaid with ⟨hne, hpaid⟩ | ⟨rfl, hpaid⟩
  · refine iff_of_true (fun hzero => absurd (Except.ok.inj hzero) hne) ?_
    congr 1
    omega
  · rw [hpaid]
    have hzero : due = 0 := by omega
    subst hzero
    constructor
    · intro hpaid₀
      rw [Except.ok.inj (hpaid₀ rfl)]
      rfl
    · intro hsum _
      have hsum := Except.ok.inj hsum
      congr 1
      omega

/-! ### A sync -/

section

variable {client : PlatformErpClient} {db db' : Db} {tenant : Tenant} {customerId : String} {limit : Nat}
  {items : List ErpItem} {now : Time} {rows : List BillingInvoice}

theorem syncPlatformInvoicesForTenant_eq_ok (hconfigured : client.isConfigured = true)
    (hcustomer : tenant.customerId? = some customerId) (hlisted : client.listInvoices customerId limit = .ok items) :
    syncPlatformInvoicesForTenant client db tenant limit now = .ok (rows, db') ↔
      upsertItems (ensureBillingAccount db tenant).1.invoices tenant (ensureBillingAccount db tenant).2 now items
        (ensureBillingAccount db tenant).1 = .ok (rows, db') ∧ flushInvoices db' = .ok db' := by
  unfold syncPlatformInvoicesForTenant
  rw [hconfigured, hcustomer]
  dsimp only
  rw [hlisted]
  generalize ensureBillingAccount db tenant = p
  obtain ⟨db₁, account⟩ := p
  constructor
  · intro h
    obtain ⟨items', hitems', h⟩ := bind_eq_ok.1 h
    cases hitems'
    obtain ⟨⟨written, db₂⟩, hitems, h⟩ := bind_eq_ok.1 h
    obtain ⟨db₃, hflush, h⟩ := bind_eq_ok.1 h
    cases h
    obtain rfl := flushInvoices_eq hflush
    exact ⟨hitems, hflush⟩
  · rintro ⟨hitems, hflush⟩
    refine bind_eq_ok.2 ⟨items, rfl, bind_eq_ok.2 ⟨(rows, db'), hitems, bind_eq_ok.2 ⟨db', hflush, rfl⟩⟩⟩

/-- What a sync leaves. -/
structure SyncLeft (tenant : Tenant) (now : Time) (items : List ErpItem) (db db' : Db) : Prop where
  filed : db'.InvoicesFiled
  frame : db' = { db with accounts := (ensureBillingAccount db tenant).1.accounts, invoices := db'.invoices }
  items : ItemsLeft db.invoices tenant (db.subscriptionOf tenant.id) (ensureBillingAccount db tenant).2 now items db db'

theorem syncPlatformInvoicesForTenant_left (hF : db.InvoicesFiled) (hconfigured : client.isConfigured = true)
    (hcustomer : tenant.customerId? = some customerId) (hlisted : client.listInvoices customerId limit = .ok items)
    (h : syncPlatformInvoicesForTenant client db tenant limit now = .ok (rows, db')) :
    SyncLeft tenant now items db db' := by
  refine ⟨hF.sync h, ?_, ?_⟩
  · obtain ⟨hitems, -⟩ := (syncPlatformInvoicesForTenant_eq_ok hconfigured hcustomer hlisted).1 h
    obtain ⟨invoices, hframe⟩ := upsertItems_frame hitems
    generalize haccount : ensureBillingAccount db tenant = p at hframe
    obtain ⟨db₁, account⟩ := p
    obtain ⟨accounts, rfl⟩ := ensureBillingAccount_frame haccount
    rw [hframe]
  · obtain ⟨hitems, -⟩ := (syncPlatformInvoicesForTenant_eq_ok hconfigured hcustomer hlisted).1 h
    have hinvoices := ensureBillingAccount_invoices db tenant
    have hsubscription : (ensureBillingAccount db tenant).1.subscriptionOf tenant.id = db.subscriptionOf tenant.id := by
      generalize haccount : ensureBillingAccount db tenant = p
      obtain ⟨db₁, account⟩ := p
      obtain ⟨accounts, rfl⟩ := ensureBillingAccount_frame haccount
      rfl
    have hF₁ := hF.congr hinvoices
    obtain ⟨hids, hreferences, hentries, hrows⟩ := upsertItems_left hsubscription hF₁.ids
      (Db.stillFiled_self hF₁.ids) hF₁.same hitems
    unfold Db.references at hreferences hrows
    rw [hinvoices] at hreferences hentries hrows
    exact ⟨hids, hreferences, hentries, hrows⟩

/-- A sync is refused exactly for an item that cannot be read and for a reference that is new and listed again. -/
theorem syncPlatformInvoicesForTenant_isOk (hF : db.InvoicesFiled) (hconfigured : client.isConfigured = true)
    (hcustomer : tenant.customerId? = some customerId) (hlisted : client.listInvoices customerId limit = .ok items)
    (hreferences : ∀ item ∈ items, item.reference ≠ "") :
    (∃ rows db', syncPlatformInvoicesForTenant client db tenant limit now = .ok (rows, db')) ↔
      (∀ item ∈ items, ∃ amounts, item.amounts = .ok amounts) ∧ (newReferences db.invoices items).Nodup := by
  have hinvoices := ensureBillingAccount_invoices db tenant
  have hF₁ := hF.congr hinvoices
  constructor
  · rintro ⟨rows, db', h⟩
    have hleft := syncPlatformInvoicesForTenant_left hF hconfigured hcustomer hlisted h
    obtain ⟨hitems, -⟩ := (syncPlatformInvoicesForTenant_eq_ok hconfigured hcustomer hlisted).1 h
    refine ⟨fun item hmem => (upsertItems_isOk.1 ⟨_, hitems⟩ item hmem).2, ?_⟩
    have hnodup : db'.references.Nodup := hleft.filed.references
    rw [hleft.items.references] at hnodup
    exact (List.nodup_append.1 hnodup).2.1
  · rintro ⟨hreadable, hdistinct⟩
    obtain ⟨⟨rows, db'⟩, hitems⟩ := (@upsertItems_isOk (ensureBillingAccount db tenant).1.invoices
      (ensureBillingAccount db tenant).1 tenant (ensureBillingAccount db tenant).2 now items).2
        fun item hmem => ⟨hreferences item hmem, hreadable item hmem⟩
    refine ⟨rows, db', (syncPlatformInvoicesForTenant_eq_ok hconfigured hcustomer hlisted).2 ⟨hitems, ?_⟩⟩
    have hleft := upsertItems_left rfl hF₁.ids (Db.stillFiled_self hF₁.ids) hF₁.same hitems
    have hfiled : db'.InvoicesFiled := by
      refine ⟨hleft.ids, upsertItems_filed hitems hF₁.same, ?_⟩
      show db'.references.Nodup
      rw [hleft.references, List.nodup_append]
      rw [hinvoices]
      refine ⟨hF₁.references, hdistinct, ?_⟩
      rintro reference hold _ hnew rfl
      obtain ⟨invoice, hmem, hreference⟩ := List.mem_filterMap.1 hold
      rw [hinvoices] at hmem
      exact of_decide_eq_true (List.mem_filter.1 hnew).2 invoice hmem hreference
    exact hfiled.flushInvoices

namespace SyncLeft

variable (h : SyncLeft tenant now items db db')
include h

theorem count_reference {item : ErpItem} (hmem : item ∈ items) :
    (db'.invoices.filter fun i => i.erpInvoiceId = some item.reference).length = 1 := by
  have hcount := List.count_eq_one_of_mem h.filed.references (h.items.mem_references hmem)
  rw [List.count_filterMap, List.countP_eq_length_filter] at hcount
  rw [← hcount]
  congr 2
  funext i
  exact (Bool.beq_eq_decide_eq _ _).symm

/-- The row of a listed reference is as the last item with that reference leaves it. -/
theorem filledBy {last : ErpItem} {invoice : BillingInvoice} {reference : String} (hinvoice : invoice ∈ db'.invoices)
    (hreference : invoice.erpInvoiceId = some reference) (hlast : lastListed items reference = some last) :
    invoice.FilledBy tenant (db.subscriptionOf tenant.id) (ensureBillingAccount db tenant).2 now last := by
  rcases h.items.rows h.filed.references invoice hinvoice with ⟨item, hitem, hfilled⟩ | ⟨hnone, -⟩
  · rw [hreference, Option.bind_some, hlast] at hitem
    cases hitem
    exact hfilled
  · rw [hreference, Option.bind_some, hlast] at hnone
    cases hnone

theorem subscriptionOf : db'.subscriptionOf tenant.id = db.subscriptionOf tenant.id := by
  rw [h.frame]
  rfl

theorem account_again (hcustomer : tenant.customerId? = some customerId) :
    ensureBillingAccount db' tenant = (db', (ensureBillingAccount db tenant).2) := by
  refine ensureBillingAccount_again (by rw [hcustomer]; rfl) ?_
  rw [h.frame]

end SyncLeft

end

/-- Two lists with one column in common have every other in common that is a matter of that one. -/
theorem map_eq_of_map_eq {α β γ : Type} {f : α → β} {g : α → γ} {l l' : List α} (hf : l.map f = l'.map f)
    (hg : ∀ a ∈ l, ∀ b ∈ l', f a = f b → g a = g b) : l.map g = l'.map g := by
  induction l generalizing l' with
  | nil =>
    rw [List.map_nil, eq_comm, List.map_eq_nil_iff] at hf
    rw [hf, List.map_nil]
  | cons a l ih =>
    cases l' with
    | nil => cases hf
    | cons b l' =>
      obtain ⟨hhead, htail⟩ := List.cons.inj hf
      rw [List.map_cons, List.map_cons, hg a (List.mem_cons_self ..) b (List.mem_cons_self ..) hhead]
      rw [ih htail fun c hc d hd => hg c (List.mem_cons_of_mem _ hc) d (List.mem_cons_of_mem _ hd)]

section

variable {db db' db'' : Db} {tenant : Tenant} {customerId : String} {items : List ErpItem} {now later : Time}

/-- A second sync changes nothing but the times of the syncs, unless an item stamps a payment. -/
theorem SyncLeft.unsynced_again (h : SyncLeft tenant now items db db') (h' : SyncLeft tenant later items db' db'')
    (hcustomer : tenant.customerId? = some customerId)
    (hunstamped : ∀ item ∈ items, lastListed items item.reference = some item → item.stampsPayment = false) :
    db''.unsynced = db'.unsynced := by
  have haccount := h.account_again hcustomer
  have hframe := h'.frame
  rw [haccount] at hframe
  have hrows : db''.invoices.map BillingInvoice.unsynced = db'.invoices.map BillingInvoice.unsynced := by
    refine map_eq_of_map_eq (h'.items.entries h.items.newReferences_nil) fun a ha b hb hentry => ?_
    have hreference : a.erpInvoiceId = b.erpInvoiceId := congrArg (fun e => e.2.2) hentry
    rcases h'.items.rows h'.filed.references a ha with ⟨item, hitem, hfilled⟩ | ⟨-, hkept⟩
    · -- both rows are as the same item leaves them
      obtain ⟨reference, href, hlast⟩ := Option.bind_eq_some_iff.1 hitem
      have hfilled' := h.filledBy hb (hreference.symm.trans href) hlast
      obtain ⟨hlisted, hitemRef⟩ := lastListed_reference hlast
      rw [haccount, h.subscriptionOf] at hfilled
      refine hfilled'.agree hfilled hentry (hunstamped item hlisted ?_)
      rw [hitemRef]
      exact hlast
    · -- the row was not written again
      have hid : a.id = b.id := congrArg Prod.fst hentry
      rw [List.inj_on_of_nodup_map h.filed.ids hkept hb hid]
  unfold Db.unsynced
  rw [hrows, hframe]

/-- A payment stamped anew has a new time. -/
theorem SyncLeft.stamped_again (h : SyncLeft tenant now items db db') (h' : SyncLeft tenant later items db' db'')
    {item : ErpItem} (hmem : item ∈ items) (hlast : lastListed items item.reference = some item)
    (hstamp : item.stampsPayment = true) (hsame : db''.unsynced = db'.unsynced) : later = now := by
  obtain ⟨b, hb, hreference⟩ := List.mem_filterMap.1 (h.items.mem_references hmem)
  have hrows : db''.invoices.map BillingInvoice.unsynced = db'.invoices.map BillingInvoice.unsynced :=
    congrArg Db.invoices hsame
  have hmapped : b.unsynced ∈ db''.invoices.map BillingInvoice.unsynced := by
    rw [hrows]
    exact List.mem_map_of_mem hb
  obtain ⟨a, ha, hab⟩ := List.mem_map.1 hmapped
  have hreference' : a.erpInvoiceId = some item.reference := by
    rw [← hreference]
    show a.unsynced.erpInvoiceId = b.unsynced.erpInvoiceId
    rw [hab]
  have hpaidAt : a.paidAt = b.paidAt := show a.unsynced.paidAt = b.unsynced.paidAt by rw [hab]
  rw [(h.filledBy hb hreference hlast).stamped hstamp, (h'.filledBy ha hreference' hlast).stamped hstamp] at hpaidAt
  exact Option.some.inj hpaidAt

/-- The stored amounts of a listed item come to its total exactly if its list is clean in that. -/
theorem SyncLeft.total_iff (h : SyncLeft tenant now items db db') {item : ErpItem} (hmem : item ∈ items)
    (hrange : item.InRange) :
    (∀ invoice ∈ db'.invoices, invoice.erpInvoiceId = some item.reference →
        toMinorUnits item.grandTotal = .ok (invoice.amountDue + invoice.amountPaid)) ↔
      (lastListed items item.reference = some item → toMinorUnits item.grandTotal = .ok 0 →
        toMinorUnits item.paidAmount = .ok 0) ∧
      ∀ last, lastListed items item.reference = some last → last ≠ item → last.MatchesTotal item := by
  obtain ⟨last, hlast⟩ := lastListed_isSome hmem
  obtain ⟨row, hrow, hreference⟩ := List.mem_filterMap.1 (h.items.mem_references hmem)
  have hamounts := (h.filledBy hrow hreference hlast).amounts
  have hrows : (∀ invoice ∈ db'.invoices, invoice.erpInvoiceId = some item.reference →
      toMinorUnits item.grandTotal = .ok (invoice.amountDue + invoice.amountPaid)) ↔
      toMinorUnits item.grandTotal = .ok (row.amountDue + row.amountPaid) := by
    refine ⟨fun hall => hall row hrow hreference, fun htotal invoice hinvoice href => ?_⟩
    rw [eq_of_reference h.filed.references hinvoice hrow href hreference]
    exact htotal
  rw [hrows]
  by_cases hown : last = item
  · subst hown
    rw [← hrange.comesToTotal_iff hamounts]
    constructor
    · intro hzero
      refine ⟨fun _ => hzero, fun other hother hne => ?_⟩
      rw [hlast] at hother
      exact absurd (Option.some.inj hother).symm hne
    · exact fun hall => hall.1 hlast
  · rw [← ErpItem.matchesTotal_iff item hamounts]
    constructor
    · intro hmatches
      refine ⟨fun hsame => ?_, fun other hother _ => ?_⟩
      · rw [hlast] at hsame
        exact absurd (Option.some.inj hsame) hown
      · rw [hlast] at hother
        rwa [← Option.some.inj hother]
    · exact fun hall => hall.2 last hlast hown

/-- A sync of listed items that all have a reference does what it is meant to exactly for a clean list. -/
theorem syncsOnce_iff {client : PlatformErpClient} {limit : Nat} (hF : db.InvoicesFiled)
    (hconfigured : client.isConfigured = true) (hcustomer : tenant.customerId? = some customerId)
    (hlisted : client.listInvoices customerId limit = .ok items) (hreferences : ∀ item ∈ items, item.reference ≠ "") :
    SyncsOnce client tenant limit items now db ↔ CleanList db.invoices items := by
  constructor
  · rintro ⟨rows, db', hsync, -, hagain, htotals⟩
    have hleft := syncPlatformInvoicesForTenant_left hF hconfigured hcustomer hlisted hsync
    obtain ⟨hreadable, hdistinct⟩ :=
      (syncPlatformInvoicesForTenant_isOk hF hconfigured hcustomer hlisted hreferences).1 ⟨rows, db', hsync⟩
    refine ⟨hreadable, hdistinct, fun item hmem hlast => ?_, fun item hmem hrange => ?_, fun item hmem hrange => ?_⟩
    · by_contra hstamp
      obtain ⟨rows', db'', hsync', hsame⟩ := hagain (now + 1) (Nat.le_succ now)
      have hleft' := syncPlatformInvoicesForTenant_left hleft.filed hconfigured hcustomer hlisted hsync'
      exact Nat.succ_ne_self now (hleft.stamped_again hleft' hmem hlast (by simpa using hstamp) hsame)
    · exact ((hleft.total_iff hmem hrange).1 (htotals item hmem hrange)).1
    · exact ((hleft.total_iff hmem hrange).1 (htotals item hmem hrange)).2
  · intro hclean
    obtain ⟨rows, db', hsync⟩ := (@syncPlatformInvoicesForTenant_isOk client db tenant customerId limit items now hF
      hconfigured hcustomer hlisted hreferences).2 ⟨hclean.readable, hclean.distinct⟩
    have hleft := syncPlatformInvoicesForTenant_left hF hconfigured hcustomer hlisted hsync
    refine ⟨rows, db', hsync, fun item hmem => hleft.count_reference hmem, fun later _ => ?_, fun item hmem hrange => ?_⟩
    · obtain ⟨rows', db'', hsync'⟩ := (@syncPlatformInvoicesForTenant_isOk client db' tenant customerId limit items later
        hleft.filed hconfigured hcustomer hlisted hreferences).2
        ⟨hclean.readable, by rw [hleft.items.newReferences_nil]; exact List.nodup_nil⟩
      have hleft' := syncPlatformInvoicesForTenant_left hleft.filed hconfigured hcustomer hlisted hsync'
      exact ⟨rows', db'', hsync', hleft.unsynced_again hleft' hcustomer hclean.unstamped⟩
    · exact (hleft.total_iff hmem hrange).2 ⟨hclean.ownTotal item hmem hrange, hclean.laterTotal item hmem hrange⟩

end

/-- An ERP that lists some items. -/
def Small.listing (items : List ErpItem) : PlatformErpClient :=
  { Small.erp with isConfigured := true, listInvoices := fun _ _ => .ok items }

/-- An invoice that is not filed yet and is listed twice is added twice, which the flush refuses. -/
theorem listed_twice_refused :
    ¬SyncsOnce (Small.listing [Small.openItem, Small.openItem]) (Small.tenantIn .active) 50
      [Small.openItem, Small.openItem] 1000 (Small.ledger .active [] []) := by
  rintro ⟨rows, db', hsync, -⟩
  have hrefused : syncPlatformInvoicesForTenant (Small.listing [Small.openItem, Small.openItem])
      (Small.ledger .active [] []) (Small.tenantIn .active) 50 1000 =
        .error (.integrityError "billing_invoices.erp_invoice_id") := rfl
  rw [hrefused] at hsync
  cases hsync

/-- A paid invoice without a payment date is given a new one by every sync. -/
example : ErpItem.stampsPayment { Small.openItem with outstandingAmount := .number false 0 0 } = true := by decide

/-- An open invoice is synced as it is meant to be. -/
theorem open_item_syncs_once :
    SyncsOnce (Small.listing [Small.openItem]) (Small.tenantIn .active) 50 [Small.openItem] 1000
      (Small.ledger .active [] []) := by
  have hone : ∀ item ∈ [Small.openItem], item = Small.openItem := fun item hmem => List.mem_singleton.1 hmem
  refine (syncsOnce_iff ⟨by decide, by decide, by decide⟩ rfl rfl rfl (by decide)).2 ⟨?_, by decide, ?_, ?_, ?_⟩
  · intro item hmem
    rw [hone item hmem]
    exact ⟨(5000, 0), rfl⟩
  · intro item hmem _
    rw [hone item hmem]
    decide
  · intro item hmem _ _ hzero
    rw [hone item hmem] at hzero
    exact absurd hzero (by decide)
  · intro item hmem _ last hlast hne
    obtain rfl := hone item hmem
    exact absurd (hone last (lastListed_reference hlast).1) hne

end ControlPlane
