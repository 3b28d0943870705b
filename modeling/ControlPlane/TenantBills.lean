import ControlPlane.Billing.LastItems
import ControlPlane.TenantIsolation

/-!
# The bills that a step brings a tenant

A billing operation files items of the ERP in invoices, settles invoices and makes and marks attempts.  What an invoice of a
tenant may be while a step runs (`Event.MayBill`), and what an attempt for it may come to (`Event.MayMark`, `Event.MayTry`),
is read off the rows before the step, the event that is delivered and the items that the ERP answers with.  The latest invoice
of the tenant after the step is one of these (`step_latestStanding`).
-/

namespace ControlPlane

open Table Session

/-! ### The latest invoice -/

/-- What makes an invoice the latest: its due date, its issue date and its creation; a missing date counts as the
earliest. -/
def BillingInvoice.dates (invoice : BillingInvoice) : Time × Time × Time :=
  (invoice.dueDate.getD 0, invoice.issuedAt.getD 0, invoice.createdAt)

/-- The invoice is the latest rather than `best`: its dates are later, or they are the same and it was not added after. -/
def BillingInvoice.outranks (invoice best : BillingInvoice) : Prop :=
  ltTimes3 best.dates invoice.dates = true ∨ invoice.dates = best.dates ∧ invoice.id ≤ best.id

/-- The invoices stand in the order in which they were added. -/
def Db.InvoicesInOrder (db : Db) : Prop := (db.invoices.map BillingInvoice.id).Pairwise (· < ·)

theorem ltTimes3_asymm (a b : Time × Time × Time) (h : ltTimes3 a b = true) : ltTimes3 b a = false := by
  simp only [ltTimes3, ltTimes, Bool.or_eq_true, decide_eq_true_eq, Bool.and_eq_true, beq_iff_eq] at h
  simp only [ltTimes3, ltTimes, Bool.or_eq_false_iff, decide_eq_false_iff_not, Bool.and_eq_false_iff, beq_eq_false_iff_ne]
  unfold Time at *
  omega

theorem ltTimes3_conn (a b c : Time × Time × Time) (h : ltTimes3 a c = true) :
    ltTimes3 a b = true ∨ ltTimes3 b c = true := by
  simp only [ltTimes3, ltTimes, Bool.or_eq_true, decide_eq_true_eq, Bool.and_eq_true, beq_iff_eq] at *
  unfold Time at *
  omega

theorem eq_of_not_ltTimes3 {a b : Time × Time × Time} (h : ltTimes3 a b = false) (h' : ltTimes3 b a = false) : a = b := by
  obtain ⟨a₁, a₂, a₃⟩ := a
  obtain ⟨b₁, b₂, b₃⟩ := b
  simp only [ltTimes3, ltTimes, Bool.or_eq_false_iff, decide_eq_false_iff_not, Bool.and_eq_false_iff,
    beq_eq_false_iff_ne] at h h'
  rw [Prod.mk.injEq, Prod.mk.injEq]
  unfold Time at *
  omega

theorem Db.InvoicesInOrder.ids {db : Db} (h : db.InvoicesInOrder) : (db.invoices.map BillingInvoice.id).Nodup :=
  List.Pairwise.imp Nat.ne_of_lt h

theorem Db.InvoicesInOrder.put {db : Db} (h : db.InvoicesInOrder) (invoice : BillingInvoice) :
    (db.putInvoice invoice).InvoicesInOrder := by
  have hids : (Table.put db.invoices invoice).map BillingInvoice.id = db.invoices.map BillingInvoice.id :=
    map_key_put db.invoices invoice
  show ((Table.put db.invoices invoice).map BillingInvoice.id).Pairwise (· < ·)
  rw [hids]
  exact h

theorem Db.InvoicesInOrder.insert {db : Db} (h : db.InvoicesInOrder) {invoice : BillingInvoice}
    (hid : invoice.id = fresh db.invoices) :
    ({ db with invoices := Table.insert db.invoices invoice } : Db).InvoicesInOrder := by
  show ((Table.insert db.invoices invoice).map BillingInvoice.id).Pairwise (· < ·)
  rw [Table.insert, List.map_append, List.pairwise_append]
  refine ⟨h, List.pairwise_singleton _ _, fun a ha b hb => ?_⟩
  obtain ⟨row, hmem, rfl⟩ := List.mem_map.1 ha
  rw [List.mem_singleton.1 hb, hid]
  exact key_lt_fresh hmem

theorem Db.InvoicesInOrder.congr {db db' : Db} (h : db.InvoicesInOrder) (heq : db'.invoices = db.invoices) :
    db'.InvoicesInOrder := by
  unfold Db.InvoicesInOrder
  rw [heq]
  exact h

theorem Db.InvoicesInOrder.upsert {flushed : List BillingInvoice} {db db' : Db} {tenant : Tenant} {account : BillingAccount}
    {item : ErpItem} {now : Time} {invoice : BillingInvoice} (h : db.InvoicesInOrder)
    (hr : upsertBillingInvoiceFromErpItem flushed db tenant account item now = .ok (invoice, db')) : db'.InvoicesInOrder := by
  obtain ⟨-, db₁, found, due, paid, hfound, -, rfl⟩ := upsertBillingInvoiceFromErpItem_ok hr
  have h₁ : db₁.InvoicesInOrder := by
    unfold findOrAddInvoice at hfound
    split at hfound
    · cases hfound
      exact h
    · cases hfound
      exact h.insert rfl
  exact h₁.put invoice

theorem Db.InvoicesInOrder.resync {client : PlatformErpClient} {db db' : Db} {tenant : Tenant}
    {invoice updated : BillingInvoice} {now : Time} (h : db.InvoicesInOrder)
    (hr : resyncOneInvoice client db tenant invoice now = .ok (updated, db')) : db'.InvoicesInOrder := by
  have hensured := h.congr (ensureBillingAccount_invoices db tenant)
  rcases resyncOneInvoice_ok hr with ⟨-, rfl | rfl⟩ | ⟨customerId, item, -, -, -, hupsert, -⟩
  · exact h
  · exact hensured
  · exact hensured.upsert hupsert

theorem Db.InvoicesInOrder.sync {client : PlatformErpClient} {db db' : Db} {tenantId limit : Nat} {now : Time} {u : Unit}
    (h : db.InvoicesInOrder) (hr : syncForTenant tenantId limit now client db = .ok (u, db')) : db'.InvoicesInOrder := by
  obtain ⟨tenant, -, hr⟩ := bind_eq_ok.1 hr
  obtain ⟨⟨rows, db₁⟩, hsync, hr⟩ := bind_eq_ok.1 hr
  cases hr
  rcases syncPlatformInvoicesForTenant_ok hsync with rfl | ⟨customerId, items, -, -, -, hitems, -⟩
  · exact h
  · exact upsertItems_keeps (fun _ _ _ _ hitem h => h.upsert hitem) hitems
      (h.congr (ensureBillingAccount_invoices db tenant))

/-- The latest invoice of a tenant has no later one beside it, and was added before those that have its dates. -/
theorem latestBillingInvoice_latest {db : Db} {t : Nat} {latest : BillingInvoice} (hordered : db.InvoicesInOrder)
    (h : latestBillingInvoice (db.invoicesOf t) = some latest) : ∀ invoice ∈ db.invoicesOf t,
      ltTimes3 latest.dates invoice.dates = false ∧
        (invoice.id < latest.id → ltTimes3 invoice.dates latest.dates = true) := by
  have hsorted : (db.invoicesOf t).Pairwise fun x y => x.id < y.id := (List.pairwise_map.1 hordered).filter _
  have hlatest : latestBy ltTimes3 BillingInvoice.dates (db.invoicesOf t) = some latest := h
  exact latestBy_latest ltTimes3_asymm ltTimes3_conn hsorted hlatest

/-- The latest invoice and its latest attempt are found in the bills. -/
theorem latestStanding_congr {db db' : Db} (hinvoices : db'.invoices = db.invoices) (hattempts : db'.attempts = db.attempts)
    (t : Nat) (now : Time) (grace : Nat) : db'.latestStanding t now grace = db.latestStanding t now grace := by
  unfold Db.latestStanding Db.invoicesOf Db.attemptsOf
  rw [hinvoices, hattempts]

/-! ### What a step may bring -/

/-- An item with which the ERP answers: it lists it for a customer, or has it for a reference. -/
def PlatformErpClient.Lists (client : PlatformErpClient) (item : ErpItem) : Prop :=
  client.isConfigured = true ∧ ∃ customerId limit items, client.listInvoices customerId limit = .ok items ∧ item ∈ items

/-- An item with which the ERP answers for a reference. -/
def PlatformErpClient.Fetches (client : PlatformErpClient) (item : ErpItem) : Prop :=
  client.isConfigured = true ∧ ∃ customerId reference, fetchInvoiceItem client customerId reference = .ok (some item)

/-- The ERP is asked for the invoices of `t` in the step and may answer with the item: a confirmed payment and a new attempt
ask for one invoice, a sync for the list, a reconciliation for both. -/
def Event.MayAsk (w : World) (e : Event) (t : Nat) (item : ErpItem) : Prop :=
  ∃ tick, match e.op with
    | .webhook _ => handledEvent w e t = some .paymentConfirmed ∧ (e.env.erp tick).Fetches item
    | .createPaymentAttempt .. => (e.env.erp tick).Fetches item
    | .resyncTenantInvoices .. => (e.env.erp tick).Lists item
    | .reconcileBillingInvoice _ | .resyncTenantSettlement _ | .reconciliationCycle =>
      (e.env.erp tick).Lists item ∨ (e.env.erp tick).Fetches item
    | _ => False

/-- An invoice of the tenant `t` as it may be while a step runs, where `owner` says whose the references are: as it was, as an
item of the tenant's fills it, or as a confirmed payment settles it. -/
inductive Event.MayBill (owner : String → Nat) (w : World) (e : Event) (t : Nat) : BillingInvoice → Prop where
  | asIs {row : BillingInvoice} (hmem : row ∈ w.db.invoices) (htenant : row.tenantId = t) : MayBill owner w e t row
  | filed {row : BillingInvoice} {item : ErpItem} {tenant : Tenant} {subscription : Option Subscription}
      {account : BillingAccount} {now : Time} (hasked : e.MayAsk w t item) (howner : owner item.reference = t)
      (hfilled : row.FilledBy tenant subscription account now item)
      (hentry : (∃ before ∈ w.db.invoices, row.entry = before.entry) ∨
        ∀ before ∈ w.db.invoices, before.id ≠ row.id ∧ before.erpInvoiceId ≠ row.erpInvoiceId) : MayBill owner w e t row
  | settled {row settled : BillingInvoice} (hrow : MayBill owner w e t row)
      (hconfirmed : handledEvent w e t = some .paymentConfirmed)
      (hsettled : settled = { row with collectionStage := some "settled" } ∨
        ∃ amount now, settled = settleInvoiceLocally row amount now) : MayBill owner w e t settled

/-- The invoice for which a new attempt is made, as the ERP gives it back: it has to be payable. -/
def Event.Tried (w : World) (e : Event) (invoiceId : Nat) (row : BillingInvoice) : Prop :=
  ∃ invoice tenant owner db', requireInvoice w.db invoiceId = .ok (invoice, tenant, owner) ∧
    resyncOneInvoice (e.env.erp 0) w.db tenant invoice (e.env.clock 0) = .ok (row, db') ∧ checkPayable db' row = .ok ()

/-- The invoice is the one that the attempt named by the delivered event is for. -/
def Event.Names (w : World) (e : Event) (row : BillingInvoice) : Prop :=
  ∃ delivery event tick attempt, e.op = .webhook delivery ∧ deliveredEvent e.env w.db delivery = some (event, tick) ∧
    (resolveInvoiceBackedContext w.db (delivery.provider e.env) event.tenantId event.subscriptionId
      event.raw).paymentAttempt = some attempt ∧ attempt.billingInvoiceId = row.id

/-- The status that a step may give an attempt for an invoice of `t`, which is `row` at the time: a new attempt waits, an event
that is handled for the tenant marks the attempt that it names, and a reconciliation marks an attempt as its invoice is
settled or not. -/
def Event.MayMark (w : World) (e : Event) (t : Nat) (row : BillingInvoice) (status : AttemptStatus) : Prop :=
  match e.op with
  | .webhook _ => e.Names w row ∧ (handledEvent w e t = some .paymentConfirmed ∧ status = .paid ∨
      handledEvent w e t = some .paymentFailed ∧ status = .failed)
  | .createPaymentAttempt invoiceId _ => e.Tried w invoiceId row ∧ (status = .created ∨ status = .checkoutStarted)
  | .reconcileBillingInvoice _ | .resyncTenantSettlement _ | .reconciliationCycle =>
    w.db.attemptsOf row.id ≠ [] ∧ status = if reconciledInvoiceIsSettled row then .paid else .reconciliationRequired
  | _ => False

/-- The step may mark an attempt for the invoice with this id. -/
def Event.Marks (owner : String → Nat) (w : World) (e : Event) (t id : Nat) (status : AttemptStatus) : Prop :=
  ∃ row, e.MayBill owner w t row ∧ row.id = id ∧ e.MayMark w t row status

/-- A status that the latest attempt for the invoice with this id may have while the step runs: the one it has, or, if the
step may mark an attempt for the invoice, that mark or the status of any attempt for it. -/
def Event.MayTry (owner : String → Nat) (w : World) (e : Event) (t id : Nat) (status : Option AttemptStatus) : Prop :=
  status = (latestPaymentAttempt (w.db.attemptsOf id)).map PaymentAttempt.status ∨
    ∃ mark, e.Marks owner w t id mark ∧
      (status = some mark ∨ ∃ attempt ∈ w.db.attemptsOf id, status = some attempt.status)

/-- If the step asks the ERP, the billing records are separate, the ERP answers no tenant with a reference of another, and if
the step concerns the tenant `t`, every bill that it may bring `t` fits `P`: it does not outrank the tenant's latest invoice,
or its standing and the status of its latest attempt satisfy `P`, and the latest invoice itself does not get earlier dates. -/
def Event.Fits (P : InvoiceStanding × Option AttemptStatus → Prop) (t : Nat) (time : Time) (w : World) (e : Event) : Prop :=
  e.op.asksErp = true → w.db.WellKept ∧ ∃ owner : String → Nat,
    (∀ invoice ∈ w.db.invoices, ∀ reference ∈ invoice.erpInvoiceId, owner reference = invoice.tenantId) ∧
    (∀ tick, (e.env.erp tick).isConfigured = true → (e.env.erp tick).Respects owner w.db) ∧
    (e.concerns w t = true → ∀ row, e.MayBill owner w t row →
      (∀ best ∈ latestBillingInvoice (w.db.invoicesOf t), row.id = best.id → row.outranks best) ∧
      ((∀ best ∈ latestBillingInvoice (w.db.invoicesOf t), row.outranks best) →
        ∀ status, e.MayTry owner w t row.id status → P (invoiceStanding row status time, status)))

theorem Event.Fits.keepsApart {P : InvoiceStanding × Option AttemptStatus → Prop} {t : Nat} {time : Time} {w : World}
    {e : Event} (h : e.Fits P t time w) : ErpKeepsApart w e := fun hasks => by
  obtain ⟨-, owner, hright, herp, -⟩ := h hasks
  exact ⟨owner, hright, herp⟩

/-! ### Within a step -/

/-- What a step that asks the ERP is promised, and the rows that it finds. -/
structure Event.Asking (owner : String → Nat) (w : World) (e : Event) : Prop where
  asks : e.op.asksErp = true
  tidy : w.db.Tidy
  ordered : w.db.InvoicesInOrder
  right : ∀ invoice ∈ w.db.invoices, ∀ reference ∈ invoice.erpInvoiceId, owner reference = invoice.tenantId
  respects : ∀ tick, (e.env.erp tick).isConfigured = true → (e.env.erp tick).Respects owner w.db

/-- The attempts for an invoice are as before the step, or the step may mark one and their statuses are among those that it
may bring. -/
def Event.TriesWithin (owner : String → Nat) (w : World) (e : Event) (t id : Nat) (db : Db) : Prop :=
  db.attemptsOf id = w.db.attemptsOf id ∨
    (∃ mark, e.Marks owner w t id mark) ∧ (∀ attempt ∈ db.attemptsOf id, e.MayTry owner w t id (some attempt.status)) ∧
      (w.db.attemptsOf id ≠ [] → db.attemptsOf id ≠ [])

/-- What the rows of a session have within a step: the invoices of `t` and their attempts are what the step may bring. -/
structure Event.BillsWithin (owner : String → Nat) (w : World) (e : Event) (t : Nat) (db : Db) : Prop where
  ordered : db.InvoicesInOrder
  kept : w.db.KeepsTenants db
  linked : ∀ attempt ∈ db.attempts, ∃ invoice, db.invoice? attempt.billingInvoiceId = some invoice
  rows : ∀ row ∈ db.invoices, row.tenantId = t → e.MayBill owner w t row
  tries : ∀ row ∈ db.invoices, row.tenantId = t → e.TriesWithin owner w t row.id db

section

variable {owner : String → Nat} {w : World} {e : Event} {t id : Nat} {db db' : Db}

theorem Event.TriesWithin.latest (h : e.TriesWithin owner w t id db) :
    e.MayTry owner w t id ((latestPaymentAttempt (db.attemptsOf id)).map PaymentAttempt.status) := by
  rcases h with hsame | ⟨-, hmay, hsome⟩
  · rw [hsame]
    exact Or.inl rfl
  · cases hlatest : latestPaymentAttempt (db.attemptsOf id) with
    | some attempt => exact hmay attempt (mem_of_latestBy hlatest)
    | none =>
      have hempty : w.db.attemptsOf id = [] := by
        by_contra hne
        exact hsome hne (latestBy_eq_none.1 hlatest)
      refine Or.inl ?_
      rw [hempty]
      rfl

/-- The attempts that a step marked or not: a status that one of them had, or the mark. -/
theorem Event.TriesWithin.mayTry {mark : AttemptStatus} (h : e.TriesWithin owner w t id db)
    (hmark : e.Marks owner w t id mark) : ∀ attempt ∈ db.attemptsOf id, e.MayTry owner w t id (some attempt.status) := by
  intro attempt hmem
  rcases h with hsame | ⟨-, hmay, -⟩
  · rw [hsame] at hmem
    exact Or.inr ⟨mark, hmark, Or.inr ⟨attempt, hmem, rfl⟩⟩
  · exact hmay attempt hmem

theorem Event.TriesWithin.congr (h : e.TriesWithin owner w t id db) (heq : db'.attemptsOf id = db.attemptsOf id) :
    e.TriesWithin owner w t id db' := by
  unfold Event.TriesWithin
  rw [heq]
  exact h

/-- An invoice of the step is one of those before it, under its reference, or a new one under a new reference. -/
theorem Event.MayBill.entry {row : BillingInvoice} (h : e.MayBill owner w t row) :
    (∃ before ∈ w.db.invoices, row.entry = before.entry) ∨
      ∀ before ∈ w.db.invoices, before.id ≠ row.id ∧ before.erpInvoiceId ≠ row.erpInvoiceId := by
  induction h with
  | asIs hmem htenant => exact Or.inl ⟨_, hmem, rfl⟩
  | filed hasked howner hfilled hentry => exact hentry
  | settled hrow hconfirmed hsettled ih =>
    rcases hsettled with rfl | ⟨amount, now, rfl⟩
    · exact ih
    · exact ih

/-! ### The rows before the step -/

theorem attemptsOf_of_unlinked (hlinked : ∀ attempt ∈ db.attempts, ∃ invoice,
    db.invoice? attempt.billingInvoiceId = some invoice) (hnone : db.invoice? id = none) : db.attemptsOf id = [] := by
  refine List.filter_eq_nil_iff.2 fun attempt hmem hid => ?_
  obtain ⟨invoice, hrow⟩ := hlinked attempt hmem
  rw [of_decide_eq_true hid, hnone] at hrow
  cases hrow

theorem Event.Asking.unlinked (h : e.Asking owner w) (id : Nat) (hnone : w.db.invoice? id = none) :
    w.db.attemptsOf id = [] := by
  refine attemptsOf_of_unlinked (fun attempt hmem => ?_) hnone
  obtain ⟨invoice, hrow, -⟩ := h.tidy.wellKept.separate.attempts attempt hmem
  exact ⟨invoice, hrow⟩

theorem Event.BillsWithin.start (hstart : e.Asking owner w) : e.BillsWithin owner w t w.db where
  ordered := hstart.ordered
  kept := .refl _
  linked attempt hmem := by
    obtain ⟨invoice, hrow, -⟩ := hstart.tidy.wellKept.separate.attempts attempt hmem
    exact ⟨invoice, hrow⟩
  rows _ hmem htenant := .asIs hmem htenant
  tries _ _ _ := Or.inl rfl

theorem Event.BillsWithin.congr (h : e.BillsWithin owner w t db) (hinvoices : db'.invoices = db.invoices)
    (hattempts : db'.attempts = db.attempts) : e.BillsWithin owner w t db' where
  ordered := h.ordered.congr hinvoices
  kept := h.kept.congr hinvoices
  linked attempt hmem := by
    unfold Db.invoice?
    rw [hinvoices]
    rw [hattempts] at hmem
    exact h.linked attempt hmem
  rows row hmem := h.rows row (hinvoices ▸ hmem)
  tries row hmem htenant := by
    refine (h.tries row (hinvoices ▸ hmem) htenant).congr ?_
    unfold Db.attemptsOf
    rw [hattempts]

/-! ### Invoices -/

/-- A row of the tenant's that was not there before the step, under a reference that no row had when the sync began: no row
before the step has its id or its reference. -/
theorem Event.BillsWithin.unfiled {start : Db} {row : BillingInvoice} {reference : String} (hasking : e.Asking owner w)
    (hstart : e.BillsWithin owner w t start) (hnew : w.db.invoice? row.id = none)
    (hreference : row.erpInvoiceId = some reference) (howner : owner reference = t)
    (hnone : ∀ i ∈ start.invoices, i.erpInvoiceId ≠ some reference) :
    ∀ before ∈ w.db.invoices, before.id ≠ row.id ∧ before.erpInvoiceId ≠ row.erpInvoiceId := by
  intro before hbefore
  have hget := get?_of_mem hasking.ordered.ids hbefore
  refine ⟨fun hsameId => ?_, fun hsameReference => ?_⟩
  · rw [show key before = row.id from hsameId] at hget
    rw [show w.db.invoice? row.id = some before from hget] at hnew
    cases hnew
  · -- an invoice with the reference is of the tenant, and was found when the sync began
    rw [hreference] at hsameReference
    have hbeforeTenant : before.tenantId = t :=
      (hasking.right before hbefore reference hsameReference).symm.trans howner
    obtain ⟨found, hfound, hfoundTenant⟩ := hstart.kept before.id before hget
    have hfoundId : found.id = before.id := key_of_get? hfound
    rcases (hstart.rows found (mem_of_get? hfound) (hfoundTenant.trans hbeforeTenant)).entry with
      ⟨before', hbefore', hentry⟩ | hnot
    · have hid : before'.id = before.id := (congrArg Prod.fst hentry).symm.trans hfoundId
      have hget' := get?_of_mem hasking.ordered.ids hbefore'
      rw [show key before' = key before from hid, hget] at hget'
      cases hget'
      exact hnone found (mem_of_get? hfound) ((congrArg (fun entry => entry.2.2) hentry).trans hsameReference)
    · exact (hnot before hbefore).1 hfoundId.symm

/-- An item filed for the tenant that its reference belongs to. -/
theorem Event.BillsWithin.upsert {start : Db} {tenant : Tenant} {account : BillingAccount} {item : ErpItem} {now : Time}
    {invoice : BillingInvoice} (hasking : e.Asking owner w) (h : e.BillsWithin owner w t db)
    (hstart : e.BillsWithin owner w t start) (hstill : db.StillFiled start.invoices)
    (hsame : ∀ i ∈ start.invoices, i.invoiceNumber = i.erpInvoiceId)
    (hkept : db.KeepsTenants db') (howner : owner item.reference = tenant.id)
    (hasked : tenant.id = t → e.MayAsk w t item)
    (hr : upsertBillingInvoiceFromErpItem start.invoices db tenant account item now = .ok (invoice, db')) :
    e.BillsWithin owner w t db' := by
  have hattempts : db'.attempts = db.attempts := by
    obtain ⟨invoices, rfl⟩ := upsertBillingInvoiceFromErpItem_frame hr
    rfl
  obtain ⟨hfilled, hfiled⟩ := upsertBillingInvoiceFromErpItem_filled hstill hsame hr
  have htenant : invoice.tenantId = tenant.id := by
    obtain ⟨due, paid, -, hfill⟩ := hfilled
    rw [hfill]
    rfl
  have hlinked : ∀ attempt ∈ db'.attempts, ∃ invoice, db'.invoice? attempt.billingInvoiceId = some invoice := by
    intro attempt hmem
    rw [hattempts] at hmem
    obtain ⟨invoice, hrow⟩ := h.linked attempt hmem
    obtain ⟨row, hrow', -⟩ := hkept _ invoice hrow
    exact ⟨row, hrow'⟩
  have hsameAttempts : ∀ id, db'.attemptsOf id = db.attemptsOf id := fun id => by
    unfold Db.attemptsOf
    rw [hattempts]
  cases hfiled with
  | again row hflushed hrow hentry =>
    have hput : (db.putInvoice invoice).invoice? invoice.id = some invoice := get?_put_self hrow
    have hrowTenant : row.tenantId = invoice.tenantId := by
      obtain ⟨row', hrow', hsameTenant⟩ := hkept _ row hrow
      rw [hput] at hrow'
      cases hrow'
      exact hsameTenant.symm
    have hrowId : row.id = invoice.id := key_of_get? hrow
    refine ⟨?_, h.kept.trans hkept, hlinked, fun other hmem hother => ?_, fun other hmem hother => ?_⟩
    · exact h.ordered.put invoice
    · rcases mem_put hmem with rfl | hmem
      · refine .filed (hasked (htenant ▸ hother)) (howner.trans (htenant ▸ hother)) hfilled ?_
        have hbefore := (h.rows row (mem_of_get? hrow) (hrowTenant.trans hother)).entry
        rw [hentry]
        have hrowReference : other.erpInvoiceId = row.erpInvoiceId := congrArg (fun entry => entry.2.2) hentry
        rw [hrowReference, ← hrowId]
        exact hbefore
      · exact h.rows other hmem hother
    · refine Event.TriesWithin.congr ?_ (hsameAttempts other.id)
      rcases mem_put hmem with rfl | hmem
      · rw [← hrowId]
        exact h.tries row (mem_of_get? hrow) (hrowTenant.trans hother)
      · exact h.tries other hmem hother
  | anew hnone hid =>
    have hfresh : db.invoice? invoice.id = none := by
      rw [hid]
      exact get?_fresh db.invoices
    -- a row with the id would be there still
    have hnew : w.db.invoice? invoice.id = none := by
      cases hrow : w.db.invoice? invoice.id with
      | none => rfl
      | some before =>
        obtain ⟨row, hrow', -⟩ := h.kept _ before hrow
        rw [hfresh] at hrow'
        cases hrow'
    refine ⟨?_, h.kept.trans hkept, hlinked, fun other hmem hother => ?_, fun other hmem hother => ?_⟩
    · exact h.ordered.insert hid
    · rcases mem_insert.1 hmem with hmem | rfl
      · exact h.rows other hmem hother
      · have howned : owner item.reference = t := howner.trans (htenant ▸ hother)
        exact .filed (hasked (htenant ▸ hother)) howned hfilled
          (Or.inr (hstart.unfiled hasking hnew hfilled.reference howned hnone))
    · refine Event.TriesWithin.congr ?_ (hsameAttempts other.id)
      rcases mem_insert.1 hmem with hmem | rfl
      · exact h.tries other hmem hother
      · refine Or.inl ?_
        rw [attemptsOf_of_unlinked h.linked hfresh, hasking.unlinked _ hnew]

/-- An invoice of a confirmed payment, settled. -/
theorem Event.BillsWithin.settle {invoice settled : BillingInvoice} (h : e.BillsWithin owner w t db)
    (hrow : db.invoice? invoice.id = some invoice) (hsettled : Settled invoice settled)
    (hconfirmed : invoice.tenantId = t → handledEvent w e t = some .paymentConfirmed) :
    e.BillsWithin owner w t (db.putInvoice settled) := by
  have hkept : db.KeepsTenants (db.putInvoice settled) := .put (by rw [hsettled.id]; exact hrow) hsettled.tenant
  refine ⟨?_, h.kept.trans hkept, fun attempt hmem => ?_, fun row hmem htenant => ?_, fun row hmem htenant => ?_⟩
  · exact h.ordered.put settled
  · obtain ⟨row, hattempt⟩ := h.linked attempt hmem
    obtain ⟨row', hrow', -⟩ := hkept _ row hattempt
    exact ⟨row', hrow'⟩
  · rcases mem_put hmem with rfl | hmem
    · have hinvoice := hsettled.tenant.symm.trans htenant
      exact .settled (h.rows invoice (mem_of_get? hrow) hinvoice) (hconfirmed hinvoice) hsettled.columns
    · exact h.rows row hmem htenant
  · rcases mem_put hmem with rfl | hmem
    · rw [hsettled.id]
      exact h.tries invoice (mem_of_get? hrow) (hsettled.tenant.symm.trans htenant)
    · exact h.tries row hmem htenant

/-! ### Attempts -/

/-- An attempt that is marked. -/
theorem Event.BillsWithin.mark {attempt marked : PaymentAttempt} (h : e.BillsWithin owner w t db)
    (hids : (db.attempts.map PaymentAttempt.id).Nodup) (hmem : attempt ∈ db.attempts) (hmarked : Marked attempt marked)
    (hmay : ∀ row ∈ db.invoices, row.tenantId = t → row.id = attempt.billingInvoiceId →
      e.MayMark w t row marked.status) : e.BillsWithin owner w t (db.putAttempt marked) := by
  have hget : get? db.attempts (key marked) = some attempt := by
    rw [show key marked = attempt.id from hmarked.id]
    exact get?_of_mem hids hmem
  refine ⟨h.ordered, h.kept.congr rfl, fun row hrow => ?_, h.rows, fun row hrow htenant => ?_⟩
  · rcases mem_put hrow with rfl | hrow
    · rw [hmarked.invoice]
      exact h.linked attempt hmem
    · exact h.linked row hrow
  · by_cases hfor : attempt.billingInvoiceId = row.id
    · have hmark : e.Marks owner w t row.id marked.status :=
        ⟨row, h.rows row hrow htenant, rfl, hmay row hrow htenant hfor.symm⟩
      refine Or.inr ⟨⟨_, hmark⟩, fun a ha => ?_, fun _ hempty => ?_⟩
      · obtain ⟨ha, hid⟩ := List.mem_filter.1 ha
        rcases mem_put ha with rfl | ha
        · exact Or.inr ⟨_, hmark, Or.inl rfl⟩
        · exact (h.tries row hrow htenant).mayTry hmark a (List.mem_filter.2 ⟨ha, hid⟩)
      · have hput : marked ∈ (db.putAttempt marked).attemptsOf row.id := by
          refine List.mem_filter.2 ⟨mem_of_get? (get?_put_self hget), decide_eq_true ?_⟩
          rw [hmarked.invoice]
          exact hfor
        rw [hempty] at hput
        cases hput
    · refine (h.tries row hrow htenant).congr ?_
      refine share_put_of_get? hids hget (decide_eq_false hfor) (decide_eq_false ?_)
      rw [hmarked.invoice]
      exact hfor

/-- A new attempt. -/
theorem Event.BillsWithin.attempt {attempt : PaymentAttempt} (h : e.BillsWithin owner w t db)
    (hinvoice : ∃ invoice, db.invoice? attempt.billingInvoiceId = some invoice)
    (hmay : ∀ row ∈ db.invoices, row.tenantId = t → row.id = attempt.billingInvoiceId →
      e.MayMark w t row attempt.status) :
    e.BillsWithin owner w t { db with attempts := insert db.attempts attempt } := by
  refine ⟨h.ordered, h.kept.congr rfl, fun row hrow => ?_, h.rows, fun row hrow htenant => ?_⟩
  · rcases mem_insert.1 hrow with hrow | rfl
    · exact h.linked row hrow
    · exact hinvoice
  · by_cases hfor : attempt.billingInvoiceId = row.id
    · have hmark : e.Marks owner w t row.id attempt.status :=
        ⟨row, h.rows row hrow htenant, rfl, hmay row hrow htenant hfor.symm⟩
      refine Or.inr ⟨⟨_, hmark⟩, fun a ha => ?_, fun _ hempty => ?_⟩
      · obtain ⟨ha, hid⟩ := List.mem_filter.1 ha
        rcases mem_insert.1 ha with ha | rfl
        · exact (h.tries row hrow htenant).mayTry hmark a (List.mem_filter.2 ⟨ha, hid⟩)
        · exact Or.inr ⟨_, hmark, Or.inl rfl⟩
      · have hnew : attempt ∈ Db.attemptsOf { db with attempts := insert db.attempts attempt } row.id :=
          List.mem_filter.2 ⟨mem_insert.2 (Or.inr rfl), decide_eq_true hfor⟩
        rw [hempty] at hnew
        cases hnew
    · exact (h.tries row hrow htenant).congr (share_insert (decide_eq_false hfor))

theorem attemptsOf_flush (now : Time) (saved work : Db) (id : Nat) : (Db.flush now saved work).attemptsOf id =
    (work.attemptsOf id).map
      (Db.onUpdate PaymentAttempt.updatedAt (fun u r => { r with updatedAt := u }) now saved.attempts) := by
  unfold Db.attemptsOf Db.flush
  dsimp only
  rw [List.filter_map]
  congr 1
  refine List.filter_congr fun a _ => ?_
  obtain ⟨stamp, heq⟩ := Db.onUpdate_attempt now saved.attempts a
  rw [Function.comp_apply, heq]

/-- Attempts for an invoice that are as they were committed are not stamped. -/
theorem attemptsOf_flush_of_eq {now : Time} {saved work : Db} (h : work.attemptsOf id = saved.attemptsOf id) :
    (Db.flush now saved work).attemptsOf id = work.attemptsOf id := by
  rw [attemptsOf_flush, h]
  refine (List.map_congr_left fun a ha => ?_).trans (List.map_id _)
  exact Db.onUpdate_of_mem (List.mem_filter.1 ha).1

/-- Attempts that the step may mark, stamped. -/
theorem Event.TriesWithin.flush {now : Time} {saved work : Db} {mark : AttemptStatus}
    (h : e.TriesWithin owner w t id work) (hmark : e.Marks owner w t id mark) :
    e.TriesWithin owner w t id (Db.flush now saved work) := by
  refine Or.inr ⟨⟨mark, hmark⟩, fun a ha => ?_, fun hne hempty => ?_⟩
  · rw [attemptsOf_flush] at ha
    obtain ⟨a', ha', rfl⟩ := List.mem_map.1 ha
    obtain ⟨stamp, heq⟩ := Db.onUpdate_attempt now saved.attempts a'
    rw [heq]
    exact h.mayTry hmark a' ha'
  · rw [attemptsOf_flush, List.map_eq_nil_iff] at hempty
    rcases h with hsame | ⟨-, -, hsome⟩
    · exact hne (hsame ▸ hempty)
    · exact hsome hne hempty

/-- A flush stamps the attempts that were changed, which are attempts that the step may mark. -/
theorem Event.BillsWithin.flush {saved work : Db} (now : Time) (hasking : e.Asking owner w)
    (hsaved : e.BillsWithin owner w t saved) (hwork : e.BillsWithin owner w t work) :
    e.BillsWithin owner w t (Db.flush now saved work) := by
  refine ⟨hwork.ordered, hwork.kept.congr rfl, fun attempt hmem => ?_, hwork.rows, fun row hmem htenant => ?_⟩
  · obtain ⟨a, ha, stamp, rfl⟩ := Db.mem_attempts_flush hmem
    exact hwork.linked a ha
  · rcases hwork.tries row hmem htenant with hsame | ⟨⟨mark, hmark⟩, -⟩
    · -- the attempts are as before the step, and are stamped only where a commit has marked one
      have hmemWork : work.invoice? row.id = some row := get?_of_mem hwork.ordered.ids hmem
      cases hbefore : w.db.invoice? row.id with
      | none =>
        refine Or.inl ?_
        rw [attemptsOf_flush, hsame, hasking.unlinked _ hbefore]
        rfl
      | some before =>
        obtain ⟨row', hrow', htenant'⟩ := hsaved.kept _ before hbefore
        have hbeforeTenant : row'.tenantId = t := by
          obtain ⟨row'', hrow'', hsameTenant⟩ := hwork.kept _ before hbefore
          rw [hmemWork] at hrow''
          cases hrow''
          rw [htenant', ← hsameTenant]
          exact htenant
        have hsavedTries := hsaved.tries row' (mem_of_get? hrow') hbeforeTenant
        rw [show row'.id = row.id from key_of_get? hrow'] at hsavedTries
        rcases hsavedTries with hsame' | ⟨⟨mark, hmark⟩, -⟩
        · exact Or.inl ((attemptsOf_flush_of_eq (hsame.trans hsame'.symm)).trans hsame)
        · exact Event.TriesWithin.flush (Or.inl hsame) hmark
    · exact (hwork.tries row hmem htenant).flush hmark

/-! ### Syncs -/

/-- What the session knows of the ledger beside the bills of `t`. -/
structure Event.LedgerWithin (owner : String → Nat) (w : World) (e : Event) (t : Nat) (db : Db) : Prop where
  apart : ApartWithin owner w db
  attempts : AttemptRows db
  bills : e.BillsWithin owner w t db

theorem Event.Asking.start (h : e.Asking owner w) : e.LedgerWithin owner w t w.db := by
  have hkept := h.tidy.wellKept
  refine ⟨⟨hkept.filed, ⟨hkept.filed.ids, hkept.accountIds, fun invoice hmem => ⟨?_, hkept.separate.invoices invoice hmem⟩⟩,
    hkept.separate.attempts, .of_tenants rfl, .refl _⟩, h.tidy.attempts, .start h⟩
  obtain ⟨reference, href, hne, hstrip⟩ := hkept.references invoice hmem
  exact ⟨reference, href, hne, hstrip, h.right invoice hmem reference href⟩

/-- A resync of an invoice of its tenant. -/
theorem Event.LedgerWithin.resync {tenant : Tenant} {invoice updated : BillingInvoice} {tick : Nat}
    (hasking : e.Asking owner w) (h : e.LedgerWithin owner w t db)
    (hcustomer : (db.tenant? tenant.id).map Tenant.platformCustomerId = some tenant.platformCustomerId)
    (hrow : db.invoice? invoice.id = some invoice) (hown : invoice.tenantId = tenant.id)
    (hasked : tenant.id = t → ∀ item, (e.env.erp tick).Fetches item → e.MayAsk w t item)
    (hr : resyncOneInvoice (e.env.erp tick) db tenant invoice (e.env.clock tick) = .ok (updated, db')) :
    e.LedgerWithin owner w t db' ∧ updated.tenantId = tenant.id := by
  obtain ⟨committed, hcommitted, hsame⟩ := h.apart.tenant hcustomer
  obtain ⟨howned, hkept, hupdated⟩ :=
    h.apart.owned.resync h.apart.filed (hasking.respects tick) hcommitted hsame hrow hown hr
  refine ⟨⟨(apart_ledger hasking.asks hasking.respects).resynced tick db tenant invoice updated db' h.apart hcustomer hrow
    (fun _ => hown) hr, (attemptRows_ledger w e).resynced tick db tenant invoice updated db' h.attempts hcustomer hrow
    (fun _ => hown) hr, ?_⟩, hupdated⟩
  have hinvoices := ensureBillingAccount_invoices db tenant
  have hensured : e.BillsWithin owner w t (ensureBillingAccount db tenant).1 := by
    refine h.bills.congr hinvoices ?_
    obtain ⟨accounts, hframe⟩ := ensureBillingAccount_frame (show ensureBillingAccount db tenant =
      ((ensureBillingAccount db tenant).1, (ensureBillingAccount db tenant).2) from rfl)
    rw [hframe]
  rcases resyncOneInvoice_ok hr with ⟨-, rfl | rfl⟩ | ⟨customerId, item, -, hconfigured, hfetch, hupsert, -⟩
  · exact h.bills
  · exact hensured
  · have hupdatedRow := mem_of_get? (upsertBillingInvoiceFromErpItem_row hupsert)
    have hstill := Db.stillFiled_self hensured.ordered.ids
    have hnumbers : ∀ i ∈ (ensureBillingAccount db tenant).1.invoices, i.invoiceNumber = i.erpInvoiceId := by
      rw [hinvoices]
      exact h.apart.filed.same
    have howner : owner item.reference = tenant.id := by
      obtain ⟨reference, href, -, -, howns⟩ := (howned.rows updated hupdatedRow).reference
      rw [(upsertBillingInvoiceFromErpItem_filled hstill hnumbers hupsert).1.reference] at href
      cases href
      rw [howns, hupdated]
    have hkept' : (ensureBillingAccount db tenant).1.KeepsTenants db' := by
      intro id row hid
      refine hkept id row ?_
      unfold Db.invoice? at hid ⊢
      rw [← hinvoices]
      exact hid
    exact hensured.upsert hasking hensured hstill hnumbers hkept' howner
      (fun ht => hasked ht item ⟨hconfigured, customerId, _, hfetch⟩) hupsert

/-- The items of a sync, one after another. -/
theorem Event.BillsWithin.upsertItems {start : Db} {tenant : Tenant} {account : BillingAccount} {now : Time}
    {items : List ErpItem} {rows : List BillingInvoice} (hasking : e.Asking owner w) (h : e.BillsWithin owner w t db)
    (hstart : e.BillsWithin owner w t start) (howned : db.OwnedBy owner) (hstill : db.StillFiled start.invoices)
    (hsame : ∀ i ∈ start.invoices, i.invoiceNumber = i.erpInvoiceId)
    (haccount : get? db.accounts account.id = some account ∧ account.tenantId = tenant.id)
    (howner : ∀ item ∈ items, item.reference ≠ "" → owner item.reference = tenant.id)
    (hasked : tenant.id = t → ∀ item ∈ items, e.MayAsk w t item)
    (hr : upsertItems start.invoices tenant account now items db = .ok (rows, db')) : e.BillsWithin owner w t db' := by
  induction items generalizing db rows with
  | nil =>
    cases hr
    exact h
  | cons item items ih =>
    obtain ⟨⟨invoice, db₁⟩, hitem, hr⟩ := bind_eq_ok.1 hr
    obtain ⟨⟨rest, db₂⟩, hrest, hr⟩ := bind_eq_ok.1 hr
    cases hr
    have hfirst := howner item (List.mem_cons_self ..)
    obtain ⟨howned₁, hstill₁, hkept₁, -⟩ := howned.upsert hstill hsame haccount hfirst hitem
    have h₁ := h.upsert hasking hstart hstill hsame hkept₁ (hfirst (upsertBillingInvoiceFromErpItem_ok hitem).1)
      (fun ht => hasked ht item (List.mem_cons_self ..)) hitem
    have haccount₁ : get? db₁.accounts account.id = some account ∧ account.tenantId = tenant.id := by
      obtain ⟨invoices, rfl⟩ := upsertBillingInvoiceFromErpItem_frame hitem
      exact haccount
    exact ih h₁ howned₁ hstill₁ haccount₁ (fun item hmem => howner item (List.mem_cons_of_mem _ hmem))
      (fun ht item hmem => hasked ht item (List.mem_cons_of_mem _ hmem)) hrest

/-- A sync of the invoices of a tenant. -/
theorem Event.LedgerWithin.sync {tenantId limit tick : Nat} {u : Unit} (hasking : e.Asking owner w)
    (h : e.LedgerWithin owner w t db) (hasked : tenantId = t → ∀ item, (e.env.erp tick).Lists item → e.MayAsk w t item)
    (hr : syncForTenant tenantId limit (e.env.clock tick) (e.env.erp tick) db = .ok (u, db')) :
    e.LedgerWithin owner w t db' := by
  refine ⟨(apart_ledger hasking.asks hasking.respects).synced tick tenantId limit db u db' h.apart hr,
    (attemptRows_ledger w e).synced tick tenantId limit db u db' h.attempts hr, ?_⟩
  obtain ⟨tenant, htenant, hr⟩ := bind_eq_ok.1 hr
  obtain ⟨⟨rows, db₀⟩, hsync, hr⟩ := bind_eq_ok.1 hr
  cases hr
  have hrow := requireTenant_ok htenant
  obtain rfl := Db.tenant?_id hrow
  obtain ⟨committed, hcommitted, hsame⟩ := h.apart.tenant (congrArg (Option.map Tenant.platformCustomerId) hrow)
  unfold syncPlatformInvoicesForTenant at hsync
  split at hsync
  · rename_i customerId hconfigured hcustomerId
    have hinvoices := ensureBillingAccount_invoices db tenant
    generalize haccount : ensureBillingAccount db tenant = p at hsync hinvoices
    obtain ⟨db₁, account⟩ := p
    obtain ⟨howned, hthere⟩ := h.apart.owned.ensureBillingAccount haccount
    dsimp only at hsync hinvoices
    obtain ⟨items, hitems, hsync⟩ := bind_eq_ok.1 hsync
    obtain ⟨⟨written, db₂⟩, hwritten, hsync⟩ := bind_eq_ok.1 hsync
    obtain ⟨db₃, hflush, hsync⟩ := bind_eq_ok.1 hsync
    cases hsync
    obtain rfl := flushInvoices_eq hflush
    have hlisted : ∀ item ∈ items, item.reference ≠ "" → owner item.reference = tenant.id := by
      refine (hasking.respects tick hconfigured).listed tenant.id committed hcommitted customerId ?_ limit items hitems
      unfold Tenant.customerId? at hcustomerId ⊢
      rw [hsame]
      exact hcustomerId
    have hnumbers : ∀ i ∈ db₁.invoices, i.invoiceNumber = i.erpInvoiceId := by
      rw [hinvoices]
      exact h.apart.filed.same
    have hensured : e.BillsWithin owner w t db₁ := by
      refine h.bills.congr hinvoices ?_
      obtain ⟨accounts, rfl⟩ := ensureBillingAccount_frame haccount
      rfl
    exact hensured.upsertItems hasking hensured howned (Db.stillFiled_self howned.ids) hnumbers hthere hlisted
      (fun ht item hmem => hasked ht item ⟨hconfigured, customerId, limit, items, hitems, hmem⟩) hwritten
  · cases hsync
    exact h.bills

end

end ControlPlane
