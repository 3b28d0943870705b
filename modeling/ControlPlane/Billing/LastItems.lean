import ControlPlane.Billing.Owners

/-!
# What the items of a sync leave

Each item of a sync is filed in the row that has its reference, or in a new one.  A row keeps its id, its creation time and
its reference, and every other column is what the last item filed in it says.
-/

namespace ControlPlane

open Table

/-! ### Items -/

/-- What an item says is due and was paid. -/
def ErpItem.amounts (item : ErpItem) : Except PyError (Int × Int) := do
  let amountDue ← toMinorUnits item.outstandingAmount
  let amountTotal ← toMinorUnits item.grandTotal
  let amountPaid ← item.amountPaid amountTotal amountDue
  return (amountDue, amountPaid)

/-- An item is filed as paid, at a time that it does not say. -/
def ErpItem.stampsPayment (item : ErpItem) : Bool :=
  match item.amounts with
  | .ok (due, paid) => item.paidAt.truthy = false ∧ normalizeInvoiceStatus item due paid = .paid ∧ 0 < paid
  | .error _ => false

/-- The last item of a list with a reference. -/
def lastListed (items : List ErpItem) (reference : String) : Option ErpItem :=
  items.reverse.find? fun item => item.reference = reference

/-- The references of some items under which no invoice is filed, as often as they are listed. -/
def newReferences (invoices : List BillingInvoice) (items : List ErpItem) : List String :=
  (items.map ErpItem.reference).filter fun reference => ∀ i ∈ invoices, i.erpInvoiceId ≠ some reference

theorem lastListed_cons (item : ErpItem) (items : List ErpItem) (reference : String) :
    lastListed (item :: items) reference =
      (lastListed items reference).or (if item.reference = reference then some item else none) := by
  have hitem : [item].find? (fun item => decide (item.reference = reference)) =
      if item.reference = reference then some item else none := by
    by_cases h : item.reference = reference <;> simp [h]
  unfold lastListed
  rw [List.reverse_cons, List.find?_append, hitem]

theorem lastListed_reference {items : List ErpItem} {reference : String} {item : ErpItem}
    (h : lastListed items reference = some item) : item ∈ items ∧ item.reference = reference :=
  ⟨List.mem_reverse.1 (List.mem_of_find?_eq_some h), by simpa using List.find?_some h⟩

theorem lastListed_isSome {items : List ErpItem} {item : ErpItem} (h : item ∈ items) :
    ∃ last, lastListed items item.reference = some last :=
  Option.isSome_iff_exists.1 (List.find?_isSome.2 ⟨item, List.mem_reverse.2 h, by simp⟩)

theorem newReferences_cons (invoices : List BillingInvoice) (item : ErpItem) (items : List ErpItem) :
    newReferences invoices (item :: items) = newReferences invoices [item] ++ newReferences invoices items := by
  unfold newReferences
  rw [List.map_cons, ← List.singleton_append, List.filter_append]
  rfl

theorem newReferences_filed {invoices : List BillingInvoice} {item : ErpItem}
    (h : ∃ i ∈ invoices, i.erpInvoiceId = some item.reference) : newReferences invoices [item] = [] := by
  obtain ⟨i, hi, hfiled⟩ := h
  refine List.filter_eq_nil_iff.2 fun reference hmem hnone => ?_
  obtain rfl : reference = item.reference := List.mem_singleton.1 hmem
  exact of_decide_eq_true hnone i hi hfiled

theorem newReferences_none {invoices : List BillingInvoice} {item : ErpItem}
    (h : ∀ i ∈ invoices, i.erpInvoiceId ≠ some item.reference) : newReferences invoices [item] = [item.reference] := by
  refine List.filter_eq_self.2 fun reference hmem => ?_
  obtain rfl : reference = item.reference := List.mem_singleton.1 hmem
  exact decide_eq_true h

/-! ### Rows -/

/-- What of an invoice row no item changes, once the row is filed. -/
def BillingInvoice.entry (invoice : BillingInvoice) : Nat × Time × Option String :=
  (invoice.id, invoice.createdAt, invoice.erpInvoiceId)

/-- References are new or not by the references that are filed. -/
theorem newReferences_congr {invoices invoices' : List BillingInvoice} (items : List ErpItem)
    (h : invoices'.map BillingInvoice.entry = invoices.map BillingInvoice.entry) :
    newReferences invoices' items = newReferences invoices items := by
  have hmem : ∀ {rows rows' : List BillingInvoice} {reference : String},
      rows'.map BillingInvoice.entry = rows.map BillingInvoice.entry → (∀ i ∈ rows, i.erpInvoiceId ≠ some reference) →
        ∀ i ∈ rows', i.erpInvoiceId ≠ some reference := by
    intro rows rows' reference hentries hnone i hi hreference
    have hentry : i.entry ∈ rows.map BillingInvoice.entry := by
      rw [← hentries]
      exact List.mem_map_of_mem hi
    obtain ⟨i', hi', hsame⟩ := List.mem_map.1 hentry
    exact hnone i' hi' ((congrArg (fun e => e.2.2) hsame).trans hreference)
  unfold newReferences
  refine List.filter_congr fun reference _ => ?_
  rw [decide_eq_decide]
  exact ⟨hmem h.symm, hmem h⟩

/-- The references of the invoices. -/
def Db.references (db : Db) : List String := db.invoices.filterMap BillingInvoice.erpInvoiceId

/-- An invoice is as an item leaves it. -/
def BillingInvoice.FilledBy (tenant : Tenant) (subscription : Option Subscription) (account : BillingAccount) (now : Time)
    (item : ErpItem) (invoice : BillingInvoice) : Prop :=
  ∃ due paid, item.amounts = .ok (due, paid) ∧
    invoice = fillInvoice invoice tenant subscription account item due paid now

section

variable {flushed : List BillingInvoice} {db db' : Db} {tenant : Tenant} {account : BillingAccount} {now : Time}
  {item : ErpItem} {invoice : BillingInvoice}

theorem BillingInvoice.FilledBy.reference {subscription : Option Subscription}
    (h : invoice.FilledBy tenant subscription account now item) : invoice.erpInvoiceId = some item.reference := by
  obtain ⟨due, paid, -, hfill⟩ := h
  rw [hfill]
  rfl

/-- An item that has a reference and amounts that can be read is filed, in the row that is found for it or added. -/
theorem upsertBillingInvoiceFromErpItem_iff {updated : BillingInvoice} :
    (∃ db', upsertBillingInvoiceFromErpItem flushed db tenant account item now = .ok (updated, db')) ↔
      item.reference ≠ "" ∧ ∃ amounts, item.amounts = .ok amounts ∧
        fillInvoice (findOrAddInvoice flushed db tenant account item.reference now).2 tenant
          (db.subscriptionOf tenant.id) account item amounts.1 amounts.2 now = updated := by
  have hsubscription : (findOrAddInvoice flushed db tenant account item.reference now).1.subscriptionOf tenant.id =
      db.subscriptionOf tenant.id := by
    unfold findOrAddInvoice
    split <;> rfl
  unfold upsertBillingInvoiceFromErpItem ErpItem.amounts
  by_cases hreference : item.reference = ""
  · rw [if_pos hreference]
    exact iff_of_false (fun ⟨_, h⟩ => by cases h) fun h => h.1 hreference
  · rw [if_neg hreference]
    refine Iff.trans ?_ (and_iff_right hreference).symm
    dsimp only
    rw [hsubscription]
    constructor
    · rintro ⟨db', h⟩
      obtain ⟨due, hdue, h⟩ := bind_eq_ok.1 h
      obtain ⟨total, htotal, h⟩ := bind_eq_ok.1 h
      obtain ⟨paid, hpaid, h⟩ := bind_eq_ok.1 h
      cases h
      exact ⟨(due, paid), bind_eq_ok.2 ⟨due, hdue, bind_eq_ok.2 ⟨total, htotal, bind_eq_ok.2 ⟨paid, hpaid, rfl⟩⟩⟩, rfl⟩
    · rintro ⟨amounts, h, rfl⟩
      obtain ⟨due, hdue, h⟩ := bind_eq_ok.1 h
      obtain ⟨total, htotal, h⟩ := bind_eq_ok.1 h
      obtain ⟨paid, hpaid, h⟩ := bind_eq_ok.1 h
      cases h
      exact ⟨_, bind_eq_ok.2 ⟨due, hdue, bind_eq_ok.2 ⟨total, htotal, bind_eq_ok.2 ⟨paid, hpaid, rfl⟩⟩⟩⟩

/-- Filing an item is refused only for want of a reference or of amounts that can be read. -/
theorem upsertBillingInvoiceFromErpItem_isOk : (∃ r, upsertBillingInvoiceFromErpItem flushed db tenant account item now =
    .ok r) ↔ item.reference ≠ "" ∧ ∃ amounts, item.amounts = .ok amounts := by
  constructor
  · rintro ⟨⟨updated, db'⟩, h⟩
    obtain ⟨hreference, amounts, hamounts, -⟩ := upsertBillingInvoiceFromErpItem_iff.1 ⟨db', h⟩
    exact ⟨hreference, amounts, hamounts⟩
  · rintro ⟨hreference, amounts, hamounts⟩
    obtain ⟨db', h⟩ := upsertBillingInvoiceFromErpItem_iff.2 ⟨hreference, amounts, hamounts, rfl⟩
    exact ⟨_, h⟩

/-- Where an item is filed: in the row that has its reference, or in a new one. -/
inductive Filed (flushed : List BillingInvoice) (db : Db) (item : ErpItem) (invoice : BillingInvoice) : Db → Prop
  | again (row : BillingInvoice) (hflushed : ∃ i ∈ flushed, i.erpInvoiceId = some item.reference)
      (hrow : db.invoice? invoice.id = some row) (hentry : invoice.entry = row.entry) :
      Filed flushed db item invoice (db.putInvoice invoice)
  | anew (hnone : ∀ i ∈ flushed, i.erpInvoiceId ≠ some item.reference) (hid : invoice.id = fresh db.invoices) :
      Filed flushed db item invoice { db with invoices := insert db.invoices invoice }

theorem upsertBillingInvoiceFromErpItem_filled (hstill : db.StillFiled flushed)
    (hsame : ∀ i ∈ flushed, i.invoiceNumber = i.erpInvoiceId)
    (h : upsertBillingInvoiceFromErpItem flushed db tenant account item now = .ok (invoice, db')) :
    invoice.FilledBy tenant (db.subscriptionOf tenant.id) account now item ∧ Filed flushed db item invoice db' := by
  unfold upsertBillingInvoiceFromErpItem at h
  split at h
  · cases h
  generalize hfound : findOrAddInvoice flushed db tenant account item.reference now = p at h
  obtain ⟨db₁, found⟩ := p
  obtain ⟨due, hdue, h⟩ := bind_eq_ok.1 h
  obtain ⟨total, htotal, h⟩ := bind_eq_ok.1 h
  obtain ⟨paid, hpaid, h⟩ := bind_eq_ok.1 h
  cases h
  have hamounts : item.amounts = .ok (due, paid) := by
    unfold ErpItem.amounts
    rw [hdue, htotal]
    dsimp only [Bind.bind, Except.bind]
    rw [hpaid]
    rfl
  rcases findOrAddInvoice_cases db tenant account item.reference now hsame with
    ⟨old, hold, hreference, heq⟩ | ⟨hnone, added, hfresh, hreference, heq⟩
  · rw [heq] at hfound
    cases hfound
    obtain ⟨row, hrow, hsameRef⟩ := hstill old hold
    rw [hrow, Option.getD_some]
    refine ⟨⟨due, paid, hamounts, rfl⟩, .again row ⟨old, hold, hreference⟩ ?_ ?_⟩
    · have hid : row.id = old.id := key_of_get? hrow
      show db.invoice? row.id = some row
      rw [hid]
      exact hrow
    · unfold BillingInvoice.entry
      rw [hsameRef, hreference]
      rfl
  · rw [heq] at hfound
    cases hfound
    -- the row that was just added is written over
    have hput : ∀ invoice : BillingInvoice, invoice.id = found.id →
        ({ db with invoices := insert db.invoices found } : Db).putInvoice invoice =
          { db with invoices := insert db.invoices invoice } := by
      intro invoice hid
      unfold Db.putInvoice
      rw [put_insert_fresh hfresh hid]
    refine ⟨⟨due, paid, hamounts, rfl⟩, ?_⟩
    rw [hput (fillInvoice found tenant _ account item due paid now) rfl]
    exact .anew hnone hfresh

namespace Filed

theorem ids (h : Filed flushed db item invoice db') (hids : (db.invoices.map BillingInvoice.id).Nodup) :
    (db'.invoices.map BillingInvoice.id).Nodup := by
  cases h with
  | again row hflushed hrow hentry => exact (map_key_put db.invoices invoice).symm ▸ hids
  | anew hnone hid => exact nodup_insert_fresh hids hid

theorem mem (h : Filed flushed db item invoice db') : invoice ∈ db'.invoices := by
  cases h with
  | again row hflushed hrow hentry => exact mem_of_get? (get?_put_self hrow)
  | anew hnone hid => exact mem_insert.2 (Or.inr rfl)

theorem rows (h : Filed flushed db item invoice db') : ∀ row ∈ db'.invoices, row = invoice ∨ row ∈ db.invoices := by
  intro row hmem
  cases h with
  | again old hflushed hrow hentry => exact mem_put hmem
  | anew hnone hid => exact (mem_insert.1 hmem).symm

/-- The row an item is filed in again has the id, the creation time and the reference that it had. -/
theorem entry_of_key (hids : (db.invoices.map BillingInvoice.id).Nodup) {row : BillingInvoice}
    (hrow : db.invoice? invoice.id = some row) (hentry : invoice.entry = row.entry) :
    ∀ a ∈ db.invoices, key a = key invoice → a.entry = invoice.entry := by
  intro a ha hkey
  have haget : db.invoice? (key a) = some a := get?_of_mem hids ha
  rw [hkey, show key invoice = invoice.id from rfl, hrow] at haget
  cases haget
  exact hentry.symm

theorem stillFiled (h : Filed flushed db item invoice db') (hids : (db.invoices.map BillingInvoice.id).Nodup)
    (hstill : db.StillFiled flushed) : db'.StillFiled flushed := by
  intro other hother
  obtain ⟨row', hrow', href'⟩ := hstill other hother
  cases h with
  | again row hflushed hrow hentry =>
    by_cases hsameId : other.id = invoice.id
    · refine ⟨invoice, ?_, ?_⟩
      · rw [hsameId]
        exact get?_put_self hrow
      · rw [hsameId] at hrow'
        have hmem : row' ∈ db.invoices := mem_of_get? hrow'
        have hsame := entry_of_key hids hrow hentry row' hmem (key_of_get? hrow')
        rw [← href']
        exact (congrArg (fun e => e.2.2) hsame).symm
    · exact ⟨row', (get?_put_of_ne db.invoices hsameId).trans hrow', href'⟩
  | anew hnone hid => exact ⟨row', get?_insert_of_some hrow', href'⟩

theorem references (h : Filed flushed db item invoice db') (hids : (db.invoices.map BillingInvoice.id).Nodup)
    (href : invoice.erpInvoiceId = some item.reference) :
    db'.references = db.references ++ newReferences flushed [item] := by
  unfold Db.references
  cases h with
  | again row hflushed hrow hentry =>
    rw [newReferences_filed hflushed, List.append_nil]
    exact filterMap_put fun a ha hkey => congrArg (fun e => e.2.2) (entry_of_key hids hrow hentry a ha hkey)
  | anew hnone hid =>
    rw [newReferences_none hnone]
    show (Table.insert db.invoices invoice).filterMap BillingInvoice.erpInvoiceId = _
    rw [Table.insert, List.filterMap_append, List.filterMap_cons, href, List.filterMap_nil]

theorem entries (h : Filed flushed db item invoice db') (hids : (db.invoices.map BillingInvoice.id).Nodup)
    (hfiled : newReferences flushed [item] = []) :
    db'.invoices.map BillingInvoice.entry = db.invoices.map BillingInvoice.entry := by
  cases h with
  | again row hflushed hrow hentry =>
    show (put db.invoices invoice).map BillingInvoice.entry = _
    rw [← List.filterMap_eq_map]
    exact filterMap_put fun a ha hkey => congrArg some (entry_of_key hids hrow hentry a ha hkey)
  | anew hnone hid =>
    rw [newReferences_none hnone] at hfiled
    cases hfiled

end Filed

/-! ### Lists of items -/

/-- A list is refused only for an item without a reference or with amounts that cannot be read. -/
theorem upsertItems_isOk {items : List ErpItem} : (∃ r, upsertItems flushed tenant account now items db = .ok r) ↔
    ∀ item ∈ items, item.reference ≠ "" ∧ ∃ amounts, item.amounts = .ok amounts := by
  induction items generalizing db with
  | nil => exact ⟨fun _ _ hmem => (by cases hmem), fun _ => ⟨_, rfl⟩⟩
  | cons item items ih =>
    rw [List.forall_mem_cons, ← @upsertBillingInvoiceFromErpItem_isOk flushed db tenant account now item]
    constructor
    · rintro ⟨r, h⟩
      obtain ⟨⟨invoice, db₁⟩, hitem, h⟩ := bind_eq_ok.1 h
      obtain ⟨rest, hrest, -⟩ := bind_eq_ok.1 h
      exact ⟨⟨_, hitem⟩, ih.1 ⟨rest, hrest⟩⟩
    · rintro ⟨⟨⟨invoice, db₁⟩, hitem⟩, hall⟩
      obtain ⟨⟨invoices, db₂⟩, hrest⟩ := (@ih db₁).2 hall
      refine ⟨(invoice :: invoices, db₂), ?_⟩
      rw [upsertItems, hitem]
      dsimp only [Bind.bind, Except.bind]
      rw [hrest]
      rfl

theorem eq_of_reference {invoices : List BillingInvoice} (hnodup : (invoices.filterMap BillingInvoice.erpInvoiceId).Nodup)
    {a b : BillingInvoice} (ha : a ∈ invoices) (hb : b ∈ invoices) {reference : String}
    (hreference : a.erpInvoiceId = some reference) (hreference' : b.erpInvoiceId = some reference) : a = b := by
  induction invoices with
  | nil => cases ha
  | cons row rows ih =>
    have hlater : ∀ c ∈ rows, c.erpInvoiceId = some reference → row.erpInvoiceId ≠ some reference := by
      intro c hc hcref hrow
      rw [List.filterMap_cons, hrow, List.nodup_cons] at hnodup
      exact hnodup.1 (List.mem_filterMap.2 ⟨c, hc, hcref⟩)
    have hrest : (rows.filterMap BillingInvoice.erpInvoiceId).Nodup :=
      hnodup.sublist ((List.sublist_cons_self row rows).filterMap _)
    rcases List.mem_cons.1 ha with hfirst | hlaterA
    · rcases List.mem_cons.1 hb with hfirst' | hlaterB
      · rw [hfirst, hfirst']
      · rw [hfirst] at hreference
        exact absurd hreference (hlater b hlaterB hreference')
    · rcases List.mem_cons.1 hb with hfirst' | hlaterB
      · rw [hfirst'] at hreference'
        exact absurd hreference' (hlater a hlaterA hreference)
      · exact ih hrest hlaterA hlaterB

/-- What a list of items leaves: the row of each reference is as the last item with that reference says. -/
structure ItemsLeft (flushed : List BillingInvoice) (tenant : Tenant) (subscription : Option Subscription)
    (account : BillingAccount) (now : Time) (items : List ErpItem) (db db' : Db) : Prop where
  ids : (db'.invoices.map BillingInvoice.id).Nodup
  references : db'.references = db.references ++ newReferences flushed items
  entries : newReferences flushed items = [] → db'.invoices.map BillingInvoice.entry = db.invoices.map BillingInvoice.entry
  rows : db'.references.Nodup → ∀ row ∈ db'.invoices,
    (∃ item, row.erpInvoiceId.bind (lastListed items) = some item ∧ row.FilledBy tenant subscription account now item) ∨
      (row.erpInvoiceId.bind (lastListed items) = none ∧ row ∈ db.invoices)

namespace ItemsLeft

variable {subscription : Option Subscription} {items : List ErpItem}

/-- Every reference that was listed is filed. -/
theorem mem_references (h : ItemsLeft db.invoices tenant subscription account now items db db') {item : ErpItem}
    (hmem : item ∈ items) : item.reference ∈ db'.references := by
  rw [h.references, List.mem_append]
  by_cases hfiled : ∃ i ∈ db.invoices, i.erpInvoiceId = some item.reference
  · obtain ⟨invoice, hinvoice, hreference⟩ := hfiled
    exact Or.inl (List.mem_filterMap.2 ⟨invoice, hinvoice, hreference⟩)
  · refine Or.inr (List.mem_filter.2 ⟨List.mem_map_of_mem hmem, decide_eq_true fun invoice hinvoice href => ?_⟩)
    exact hfiled ⟨invoice, hinvoice, href⟩

/-- No reference is new when the list is filed again. -/
theorem newReferences_nil (h : ItemsLeft db.invoices tenant subscription account now items db db') :
    newReferences db'.invoices items = [] := by
  refine List.filter_eq_nil_iff.2 fun reference hmem hnew => ?_
  obtain ⟨item, hitem, rfl⟩ := List.mem_map.1 hmem
  obtain ⟨invoice, hinvoice, hreference⟩ := List.mem_filterMap.1 (h.mem_references hitem)
  exact of_decide_eq_true hnew invoice hinvoice hreference

end ItemsLeft

theorem upsertItems_left {subscription : Option Subscription} {items : List ErpItem} {invoices : List BillingInvoice}
    (hsubscription : db.subscriptionOf tenant.id = subscription) (hids : (db.invoices.map BillingInvoice.id).Nodup)
    (hstill : db.StillFiled flushed) (hsame : ∀ i ∈ flushed, i.invoiceNumber = i.erpInvoiceId)
    (h : upsertItems flushed tenant account now items db = .ok (invoices, db')) :
    ItemsLeft flushed tenant subscription account now items db db' := by
  induction items generalizing db invoices with
  | nil =>
    cases h
    refine ⟨hids, (List.append_nil _).symm, fun _ => rfl, fun _ row hmem => Or.inr ⟨?_, hmem⟩⟩
    cases row.erpInvoiceId with
    | none => rfl
    | some reference => rfl
  | cons item items ih =>
    obtain ⟨⟨invoice, db₁⟩, hitem, h⟩ := bind_eq_ok.1 h
    obtain ⟨⟨rest, db₂⟩, hrest, h⟩ := bind_eq_ok.1 h
    cases h
    obtain ⟨hfill, hfiled⟩ := upsertBillingInvoiceFromErpItem_filled hstill hsame hitem
    have hsubscription₁ : db₁.subscriptionOf tenant.id = subscription := by
      obtain ⟨invoices₁, rfl⟩ := upsertBillingInvoiceFromErpItem_frame hitem
      exact hsubscription
    rw [hsubscription] at hfill
    have href := hfill.reference
    have hrefs := hfiled.references hids href
    obtain ⟨hids', hreferences, hentries, hrows⟩ := ih hsubscription₁ (hfiled.ids hids) (hfiled.stillFiled hids hstill)
      hrest
    refine ⟨hids', ?_, fun hnone => ?_, fun hnodup row hmem => ?_⟩
    · rw [hreferences, hrefs, newReferences_cons flushed item items, List.append_assoc]
    · rw [newReferences_cons, List.append_eq_nil_iff] at hnone
      rw [hentries hnone.2, hfiled.entries hids hnone.1]
    · have hnodup₁ : db₁.references.Nodup := by
        rw [hreferences] at hnodup
        exact (List.nodup_append.1 hnodup).1
      rcases hrows hnodup row hmem with ⟨later, hlast, hfilled⟩ | ⟨hnone, hmem₁⟩
      · refine Or.inl ⟨later, ?_, hfilled⟩
        obtain ⟨reference, hreference, hlast⟩ := Option.bind_eq_some_iff.1 hlast
        rw [hreference, Option.bind_some, lastListed_cons, hlast]
        rfl
      · -- no later item has the row's reference
        by_cases hsameRef : row.erpInvoiceId = some item.reference
        · obtain rfl := eq_of_reference hnodup₁ hmem₁ hfiled.mem hsameRef href
          refine Or.inl ⟨item, ?_, hfill⟩
          rw [hsameRef, Option.bind_some] at hnone ⊢
          rw [lastListed_cons, hnone, if_pos rfl]
          rfl
        · refine Or.inr ⟨?_, ?_⟩
          · cases hreference : row.erpInvoiceId with
            | none => rfl
            | some reference =>
              rw [hreference, Option.bind_some] at hnone
              rw [Option.bind_some, lastListed_cons, hnone, if_neg fun heq => hsameRef (by rw [hreference, heq])]
              rfl
          · rcases hfiled.rows row hmem₁ with rfl | hmem
            · exact absurd href hsameRef
            · exact hmem

end

/-! ### Two rows that one item left -/

/-- An invoice without the time of its last sync. -/
def BillingInvoice.unsynced (invoice : BillingInvoice) : BillingInvoice := { invoice with lastSyncedAt := none }

/-- The rows without the times of the last syncs. -/
def Db.unsynced (db : Db) : Db := { db with invoices := db.invoices.map BillingInvoice.unsynced }

namespace BillingInvoice.FilledBy

variable {tenant : Tenant} {subscription : Option Subscription} {account : BillingAccount} {now later : Time}
  {item : ErpItem} {invoice invoice' : BillingInvoice}

theorem amounts (h : invoice.FilledBy tenant subscription account now item) :
    item.amounts = .ok (invoice.amountDue, invoice.amountPaid) := by
  obtain ⟨due, paid, hamounts, hfill⟩ := h
  rw [hfill]
  exact hamounts

/-- Two rows with one entry that an item left at two times differ in when they were synced, and in when they were paid. -/
theorem unsynced_of_paidAt (h : invoice.FilledBy tenant subscription account now item)
    (h' : invoice'.FilledBy tenant subscription account later item) (hentry : invoice'.entry = invoice.entry)
    (hpaidAt : invoice'.paidAt = invoice.paidAt) : invoice'.unsynced = invoice.unsynced := by
  obtain ⟨due, paid, hamounts, hfill⟩ := h
  obtain ⟨due', paid', hamounts', hfill'⟩ := h'
  obtain ⟨rfl, rfl⟩ : due = due' ∧ paid = paid' := by
    rw [hamounts] at hamounts'
    simpa using hamounts'
  have hid : invoice'.id = invoice.id := congrArg Prod.fst hentry
  have hcreated : invoice'.createdAt = invoice.createdAt := congrArg (fun e => e.2.1) hentry
  calc invoice'.unsynced
      = { fillInvoice invoice' tenant subscription account item due paid later with
          paidAt := invoice'.paidAt, lastSyncedAt := none } := by
        rw [← hfill']
        rfl
    _ = { fillInvoice invoice tenant subscription account item due paid now with
          paidAt := invoice.paidAt, lastSyncedAt := none } := by
        unfold fillInvoice
        dsimp only
        rw [hid, hcreated, hpaidAt]
    _ = invoice.unsynced := by
        rw [← hfill]
        rfl

/-- An item that does not stamp the payment leaves the date it says. -/
theorem unstamped (h : invoice.FilledBy tenant subscription account now item) (hstamp : item.stampsPayment = false) :
    invoice.paidAt = if item.paidAt.truthy then item.paidAt.parse else none := by
  obtain ⟨due, paid, hamounts, hfill⟩ := h
  have hno : item.paidAt.truthy = true ∨ ¬(normalizeInvoiceStatus item due paid = .paid ∧ 0 < paid) := by
    unfold ErpItem.stampsPayment at hstamp
    rw [hamounts] at hstamp
    by_cases htruthy : item.paidAt.truthy = true
    · exact Or.inl htruthy
    · exact Or.inr fun hpaid => of_decide_eq_false hstamp ⟨by simpa using htruthy, hpaid⟩
  rw [hfill]
  unfold fillInvoice
  dsimp only
  rcases hno with htruthy | hno
  · rw [if_pos htruthy, if_pos htruthy]
  · rw [if_neg hno]

/-- If the item says when they were paid, or that they were not, they differ in when they were synced only. -/
theorem agree (h : invoice.FilledBy tenant subscription account now item)
    (h' : invoice'.FilledBy tenant subscription account later item) (hentry : invoice'.entry = invoice.entry)
    (hstamp : item.stampsPayment = false) : invoice'.unsynced = invoice.unsynced :=
  unsynced_of_paidAt h h' hentry ((h'.unstamped hstamp).trans (h.unstamped hstamp).symm)

/-- An item that stamps the payment leaves the time it was filed. -/
theorem stamped (h : invoice.FilledBy tenant subscription account now item) (hstamp : item.stampsPayment = true) :
    invoice.paidAt = some now := by
  obtain ⟨due, paid, hamounts, hfill⟩ := h
  unfold ErpItem.stampsPayment at hstamp
  rw [hamounts] at hstamp
  obtain ⟨htruthy, hpaid⟩ := of_decide_eq_true hstamp
  rw [hfill]
  unfold fillInvoice
  dsimp only
  rw [htruthy, if_neg (by decide), if_pos hpaid]

end BillingInvoice.FilledBy

/-! ### Accounts -/

/-- A tenant has its account, and the account its customer id. -/
structure Db.AccountReady (db : Db) (tenantId : Nat) (account : BillingAccount) : Prop where
  found : db.accountOf tenantId = some account
  customer : (orText account.erpCustomerId none).isSome = true

theorem Db.AccountReady.congr {db db' : Db} {tenantId : Nat} {account : BillingAccount}
    (h : db.AccountReady tenantId account) (haccounts : db'.accounts = db.accounts) : db'.AccountReady tenantId account := by
  refine ⟨?_, h.customer⟩
  unfold Db.accountOf
  rw [haccounts]
  exact h.found

/-- An account that is ready is taken as it is. -/
theorem Db.AccountReady.ensure {db : Db} {tenant : Tenant} {account : BillingAccount}
    (h : db.AccountReady tenant.id account) : ensureBillingAccount db tenant = (db, account) := by
  unfold ensureBillingAccount
  rw [h.found]
  refine if_neg fun hnone => ?_
  have hmissing := hnone.2
  rw [Option.isNone_iff_eq_none] at hmissing
  have hcustomer := h.customer
  rw [hmissing] at hcustomer
  cases hcustomer

/-- A customer's account is ready once it was asked for. -/
theorem ensureBillingAccount_ready {db db' : Db} {tenant : Tenant} (hcustomer : tenant.customerId?.isSome = true)
    (haccounts : db'.accounts = (ensureBillingAccount db tenant).1.accounts) :
    db'.AccountReady tenant.id (ensureBillingAccount db tenant).2 := by
  suffices hready : db'.accountOf tenant.id = some (ensureBillingAccount db tenant).2 ∧
      (orText (ensureBillingAccount db tenant).2.erpCustomerId none).isSome = true from ⟨hready.1, hready.2⟩
  unfold Db.accountOf
  rw [haccounts]
  unfold ensureBillingAccount
  cases hexisting : db.accountOf tenant.id with
  | some existing =>
    have hold := hexisting
    unfold Db.accountOf at hold
    dsimp only
    split
    · exact ⟨find?_put_self hold rfl (by simpa using List.find?_some hold), hcustomer⟩
    · rename_i hset
      refine ⟨hold, ?_⟩
      cases hnone : orText existing.erpCustomerId none with
      | some id => rfl
      | none => exact absurd ⟨hcustomer, by rw [hnone]; rfl⟩ hset
  | none =>
    have hnone := hexisting
    unfold Db.accountOf at hnone
    refine ⟨?_, hcustomer⟩
    dsimp only
    rw [Table.insert, List.find?_append, hnone]
    simp

/-- A tenant's billing account is made once. -/
theorem ensureBillingAccount_again {db db' : Db} {tenant : Tenant} (hcustomer : tenant.customerId?.isSome = true)
    (haccounts : db'.accounts = (ensureBillingAccount db tenant).1.accounts) :
    ensureBillingAccount db' tenant = (db', (ensureBillingAccount db tenant).2) :=
  (ensureBillingAccount_ready hcustomer haccounts).ensure

end ControlPlane
