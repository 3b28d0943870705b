import ControlPlane.Billing.Owners
import ControlPlane.LedgerInvariant

/-!
# Whose billing records they are

An invoice names its tenant, its account names one, and so does every attempt to pay it.  The sync files an item of the
ERP in whichever invoice has its reference, and writes the tenant it syncs into it.  The three agree as long as the ERP
answers no two tenants with one reference.
-/

namespace ControlPlane

open Table Session Session.Proc Runs

/-- Every attempt has the tenant of its invoice, and every invoice the tenant of its account. -/
structure Db.Separate (db : Db) : Prop where
  attempts : ∀ attempt ∈ db.attempts, ∃ invoice, db.invoice? attempt.billingInvoiceId = some invoice ∧
    invoice.tenantId = attempt.tenantId
  invoices : ∀ invoice ∈ db.invoices, ∃ account, get? db.accounts invoice.billingAccountId = some account ∧
    account.tenantId = invoice.tenantId

/-- A ledger whose records are separate, with every invoice filed under a stripped reference. -/
structure Db.WellKept (db : Db) : Prop where
  filed : db.InvoicesFiled
  accountIds : (db.accounts.map BillingAccount.id).Nodup
  references : ∀ invoice ∈ db.invoices, ∃ reference, invoice.erpInvoiceId = some reference ∧ reference ≠ "" ∧
    strip reference = reference
  separate : db.Separate

/-- The operations that ask the ERP for invoices. -/
def Op.asksErp : Op → Bool
  | .webhook _ | .resyncTenantInvoices .. | .createPaymentAttempt .. | .reconcileBillingInvoice _
  | .resyncTenantSettlement _ | .reconciliationCycle => true
  | _ => false

/-- The ERP, if it is asked, answers no tenant with a reference of another: some assignment of references to tenants is
right about the invoices there are and respected by all that the ERP answers. -/
def ErpKeepsApart (w : World) (e : Event) : Prop :=
  e.op.asksErp = true → ∃ owner : String → Nat,
    (∀ invoice ∈ w.db.invoices, ∀ reference ∈ invoice.erpInvoiceId, owner reference = invoice.tenantId) ∧
      ∀ tick, (e.env.erp tick).isConfigured = true → (e.env.erp tick).Respects owner w.db

/-! ### Steps that do not ask the ERP -/

theorem sameLedger_preserved (base : Db) (w : World) (e : Event) : CreationPreserved (SameLedger base) w e where
  core _ _ hcore h := h.trans
    ⟨Db.accounts_of_core hcore, Db.invoices_of_core hcore, Db.attempts_of_core hcore⟩
  flush now saved work hs hw := by
    refine ⟨hw.accounts, hw.invoices, ?_⟩
    rw [Db.attempts_flush_of_eq (hw.attempts.trans hs.attempts.symm)]
    exact hw.attempts
  escalated context tenant runtimeExists now db h hrow hdue := h.trans ⟨rfl, rfl, rfl⟩
  moved db tenant moved h _ _ _ _ := h.trans ⟨rfl, rfl, rfl⟩
  registered _ db tenant moved h _ _ _ := h.trans ⟨rfl, rfl, rfl⟩
  created _ _ _ _ _ _ _ _ _ _ h hr := h.trans (prepareTenant_ledger hr)
  joined _ _ h := h.trans ⟨rfl, rfl, rfl⟩
  checkedOut _ _ _ _ _ _ _ _ _ _ h hr := h.trans (recordCheckout_ledger hr)

/-- A step that does not ask the ERP leaves the ledger. -/
theorem step_sameLedger {w : World} {e : Event} (he : e.op.asksErp = false) : SameLedger w.db (step w e).db := by
  have h := sameLedger_preserved w.db w e
  by_cases hmoves : e.op.movesTenantsOnly = true
  · exact step_preservesTenants h.toTenantsPreserved hmoves (.refl _)
  unfold step
  cases hop : e.op with
  | createTenant => exact preserved_of_keeps (.refl _) (h.createTenant hop)
  | renewCheckout tenantId =>
    refine (onRows_first (SameLedger.refl _) (fun u db' hr => ?_) fun _ => .bind h.commit fun _ => h.audit _ _ _).2.1
    exact (prepareRenewedCheckout_ledger hr).1
  | trialCycle dryRun =>
    refine (onRows_runTrialLifecycleCycle ⟨h.core, h.flush, fun _ _ _ _ => trivial⟩ dryRun
      ⟨.refl _, .refl _, trivial⟩ fun subscriptionId db r db' hsame hr => ?_).2.1
    exact hsame.trans (expireTrial_ledger hr).1
  | webhook | resyncTenantInvoices | createPaymentAttempt | reconcileBillingInvoice | resyncTenantSettlement
  | reconciliationCycle =>
    rw [hop] at he
    cases he
  | _ =>
    rw [hop] at hmoves
    exact absurd rfl hmoves

/-! ### Steps that ask it -/

theorem attempts_of_kept {db db' : Db} (h : ∀ attempt ∈ db.attempts, ∃ invoice,
    db.invoice? attempt.billingInvoiceId = some invoice ∧ invoice.tenantId = attempt.tenantId)
    (hkept : db.KeepsTenants db') (heq : db'.attempts = db.attempts) : ∀ attempt ∈ db'.attempts, ∃ invoice,
      db'.invoice? attempt.billingInvoiceId = some invoice ∧ invoice.tenantId = attempt.tenantId := by
  intro attempt hmem
  rw [heq] at hmem
  obtain ⟨invoice, hrow, htenant⟩ := h attempt hmem
  obtain ⟨row, hrow', htenant'⟩ := hkept _ invoice hrow
  exact ⟨row, hrow', htenant'.trans htenant⟩

/-- What the rows of a session have within a step on `w`. -/
structure ApartWithin (owner : String → Nat) (w : World) (db : Db) : Prop where
  filed : db.InvoicesFiled
  owned : db.OwnedBy owner
  attempts : ∀ attempt ∈ db.attempts, ∃ invoice, db.invoice? attempt.billingInvoiceId = some invoice ∧
    invoice.tenantId = attempt.tenantId
  customers : SameCustomers w.db db
  kept : w.db.KeepsTenants db

namespace ApartWithin

variable {owner : String → Nat} {w : World} {db db' : Db}

theorem congr (h : ApartWithin owner w db) (hsame : SameLedger db db') (hcustomers : SameCustomers db db') :
    ApartWithin owner w db' where
  filed := h.filed.congr hsame.invoices
  owned := h.owned.congr hsame.invoices hsame.accounts
  attempts := attempts_of_kept h.attempts (.congr (.refl db) hsame.invoices) hsame.attempts
  customers := h.customers.trans hcustomers
  kept := h.kept.congr hsame.invoices

/-- Writing invoices and accounts so that every invoice stays its tenant's. -/
theorem write (h : ApartWithin owner w db) (hfiled : db'.InvoicesFiled) (howned : db'.OwnedBy owner)
    (hkept : db.KeepsTenants db') (hattempts : db'.attempts = db.attempts) (htenants : db'.tenants = db.tenants) :
    ApartWithin owner w db' where
  filed := hfiled
  owned := howned
  attempts := attempts_of_kept h.attempts hkept hattempts
  customers := h.customers.trans (.of_tenants htenants)
  kept := h.kept.trans hkept

/-- A new attempt for an invoice of its tenant. -/
theorem add (h : ApartWithin owner w db) {attempt : PaymentAttempt}
    (hattempt : ∃ invoice, db.invoice? attempt.billingInvoiceId = some invoice ∧ invoice.tenantId = attempt.tenantId) :
    ApartWithin owner w { db with attempts := insert db.attempts attempt } where
  filed := h.filed.congr rfl
  owned := h.owned.congr rfl rfl
  attempts row hmem := by
    rcases mem_insert.1 hmem with hmem | rfl
    · exact h.attempts row hmem
    · exact hattempt
  customers := h.customers.trans (.of_tenants rfl)
  kept := h.kept.congr rfl

theorem flush {saved work : Db} (now : Time) (h : ApartWithin owner w work) :
    ApartWithin owner w (Db.flush now saved work) where
  filed := h.filed.congr rfl
  owned := h.owned.congr rfl rfl
  attempts attempt hmem := by
    obtain ⟨row, hrow, stamp, rfl⟩ := Db.mem_attempts_flush hmem
    exact h.attempts row hrow
  customers := by
    intro t
    obtain ⟨stamp, hrow⟩ := Db.tenant?_flush now saved work t
    rw [← h.customers t, hrow, Option.map_map]
    rfl
  kept := h.kept.congr rfl

/-- The row of the committed tenant that a session's tenant with a customer id comes from. -/
theorem tenant (h : ApartWithin owner w db) {row : Tenant}
    (hrow : (db.tenant? row.id).map Tenant.platformCustomerId = some row.platformCustomerId) :
    ∃ committed, w.db.tenant? row.id = some committed ∧ committed.platformCustomerId = row.platformCustomerId := by
  rw [h.customers] at hrow
  exact Option.map_eq_some_iff.1 hrow

end ApartWithin

theorem apart_ledger {owner : String → Nat} {w : World} {e : Event} (he : e.op.asksErp = true)
    (herp : ∀ tick, (e.env.erp tick).isConfigured = true → (e.env.erp tick).Respects owner w.db) :
    LedgerInvariant (ApartWithin owner w) w e where
  ids _ hJ := hJ.filed.ids
  same _ _ hsame hcustomers hJ := hJ.congr hsame hcustomers
  customer hop := by
    exfalso
    rcases hop with ⟨index, outside, hop⟩ | ⟨ownerId, subdomain, companyName, plan, app, hop⟩
    · rw [hop] at he
      cases he
    · rw [hop] at he
      cases he
  flush now _ _ _ hJ := hJ.flush now
  resynced tick db tenant invoice updated db' hJ hcustomer hrow htenant hr := by
    -- the ERP is asked for the customer of the committed tenant
    obtain ⟨committed, hcommitted, hsame⟩ := hJ.tenant hcustomer
    have hlinked : AttemptsLinked db := by
      intro attempt hmem invoice' hinvoice'
      obtain ⟨row, hrow', hrowTenant⟩ := hJ.attempts attempt hmem
      rw [hinvoice'] at hrow'
      cases hrow'
      exact hrowTenant
    obtain ⟨howned, hkept, -⟩ := hJ.owned.resync hJ.filed (herp tick) hcommitted hsame hrow (htenant hlinked) hr
    have hfiled := hJ.filed.resync hr
    obtain ⟨accounts, invoices, rfl⟩ := resyncOneInvoice_frame hr
    exact hJ.write hfiled howned hkept rfl rfl
  settled db invoice settled hJ hrow hsettled := by
    have hold : db.invoice? settled.id = some invoice := by
      rw [hsettled.id]
      exact hrow
    have hinvoice := hJ.owned.rows invoice (mem_of_get? hrow)
    have hnew : settled.OwnedBy owner db.accounts := by
      refine ⟨?_, ?_⟩
      · rw [hsettled.reference, hsettled.tenant]
        exact hinvoice.reference
      · rw [hsettled.account, hsettled.tenant]
        exact hinvoice.account
    exact hJ.write (hJ.filed.put hrow hsettled.id hsettled.reference hsettled.number) (hJ.owned.put hnew)
      (.put hold hsettled.tenant) rfl rfl
  marked db attempt marked hJ hmem hmarked := by
    refine ⟨hJ.filed.congr rfl, hJ.owned.congr rfl rfl, fun row hrow => ?_, hJ.customers.trans (.of_tenants rfl),
      hJ.kept.congr rfl⟩
    rcases mem_put hrow with rfl | hrow
    · rw [hmarked.invoice, hmarked.tenant]
      exact hJ.attempts attempt hmem
    · exact hJ.attempts row hrow
  synced tick tenantId limit db u db' hJ hr := by
    have hframe := syncForTenant_frame hr
    obtain ⟨tenant, htenant, hr⟩ := bind_eq_ok.1 hr
    obtain ⟨⟨rows, db₁⟩, hsync, hr⟩ := bind_eq_ok.1 hr
    cases hr
    have hrow := requireTenant_ok htenant
    rw [← Db.tenant?_id hrow] at hrow
    obtain ⟨committed, hcommitted, hsame⟩ := hJ.tenant (congrArg (Option.map Tenant.platformCustomerId) hrow)
    obtain ⟨howned, hkept⟩ := hJ.owned.sync hJ.filed (herp tick) hcommitted hsame hsync
    have hfiled := hJ.filed.sync hsync
    obtain ⟨accounts, invoices, rfl⟩ := hframe
    exact hJ.write hfiled howned hkept rfl rfl
  attempted hJ invoiceId provider invoice tenant owner' _ hreq attemptId db' hr := by
    obtain ⟨hinvoice, htenant⟩ := requireInvoice_ok hreq
    have hinvoiceRow : w.db.invoice? invoice.id = some invoice := by
      rw [show invoice.id = invoiceId from key_of_get? hinvoice]
      exact hinvoice
    have hid : tenant.id = invoice.tenantId := Db.tenant?_id htenant
    rw [← hid] at htenant
    -- the new attempt points to an invoice that was synced for its own tenant just before
    obtain ⟨updated, db₁, checkout, hresync, -, -, -, rfl⟩ := preparePaymentAttempt_ledger hr
    obtain ⟨howned, hkept, hupdated⟩ := hJ.owned.resync hJ.filed (herp 0) htenant rfl hinvoiceRow hid.symm hresync
    have hfiled := hJ.filed.resync hresync
    have hrow := resyncOneInvoice_row hinvoiceRow hresync
    obtain ⟨accounts, invoices, rfl⟩ := resyncOneInvoice_frame hresync
    have hresynced := hJ.write hfiled howned hkept rfl rfl
    have hcustomers := addPaymentAttempt_customers updated checkout (e.env.clock 0)
      (show Db.tenant? { w.db with accounts := accounts, invoices := invoices } tenant.id = some tenant from htenant)
    refine (hresynced.add ⟨updated, hrow, hupdated⟩).congr (addPaymentAttempt_ledger _ tenant updated checkout _) ?_
    exact SameCustomers.trans (.of_tenants rfl) hcustomers

/-! ### Every run -/

/-- A step that keeps the tenants apart leaves the ledger well kept, and every invoice with its tenant. -/
theorem step_wellKept {w : World} {e : Event} (h : w.db.WellKept) (hC : ErpKeepsApart w e) :
    (step w e).db.WellKept ∧ w.db.KeepsTenants (step w e).db := by
  cases he : e.op.asksErp with
  | false =>
    have hsame := step_sameLedger (w := w) he
    have hkept : w.db.KeepsTenants (step w e).db := .congr (.refl _) hsame.invoices
    refine ⟨⟨h.filed.congr hsame.invoices, ?_, ?_, attempts_of_kept h.separate.attempts hkept hsame.attempts, ?_⟩, hkept⟩
    · rw [hsame.accounts]
      exact h.accountIds
    · rw [hsame.invoices]
      exact h.references
    · rw [hsame.invoices, hsame.accounts]
      exact h.separate.invoices
  | true =>
    obtain ⟨owner, hright, herp⟩ := hC he
    have hstart : ApartWithin owner w w.db := by
      refine ⟨h.filed, ⟨h.filed.ids, h.accountIds, fun invoice hmem => ⟨?_, h.separate.invoices invoice hmem⟩⟩,
        h.separate.attempts, .of_tenants rfl, .refl _⟩
      obtain ⟨reference, href, hne, hstrip⟩ := h.references invoice hmem
      exact ⟨reference, href, hne, hstrip, hright invoice hmem reference href⟩
    have hend := step_preserves ((apart_ledger he herp).preserved hstart) hstart
    refine ⟨⟨hend.filed, hend.owned.accountIds, fun invoice hmem => ?_, hend.attempts, fun invoice hmem => ?_⟩, hend.kept⟩
    · obtain ⟨reference, href, hne, hstrip, -⟩ := (hend.owned.rows invoice hmem).reference
      exact ⟨reference, href, hne, hstrip⟩
    · exact (hend.owned.rows invoice hmem).account

/-- Over every run in which the ERP answers no tenant with a reference of another, the billing records stay separate in
every state, and no step changes the tenant of an invoice. -/
theorem records_never_mix {w : World} {es : List Event} (h : w.db.WellKept) (hC : Steps step ErpKeepsApart w es) :
    Always step (fun w => w.db.Separate) w es ∧ Steps step (fun w e => w.db.KeepsTenants (step w e).db) w es := by
  have hstep : ∀ (w : World) (e : Event), w.db.WellKept → ErpKeepsApart w e → (step w e).db.WellKept :=
    fun _ _ h hC => (step_wellKept h hC).1
  have hkept : Always step (fun w => w.db.WellKept) w es := .of_steps (I := fun w : World => w.db.WellKept) hstep h hC
  refine ⟨hkept.mono fun _ h => h.separate, ?_⟩
  exact .mono_of (I := fun w : World => w.db.WellKept) hstep (fun _ _ h hC => (step_wellKept h hC).2) h hC

/-- Two tenants, each a customer of its own, and an invoice of the first. -/
def Small.neighbours : World :=
  let w := Small.after [Small.createTenant, .createTenant 1 "globex" "Globex" "starter" none]
  { w with db := { w.db with
      tenants := w.db.tenants.map fun tenant => { tenant with platformCustomerId := some ("CUST-" ++ toString tenant.id) }
      accounts := [⟨1, 1, some 1, some "CUST-1", "TZS", "active"⟩], invoices := [Small.invoice] } }

/-- A checkout of the first tenant's invoice, and a sync of the second tenant's invoices. -/
def Small.neighboursSync (env : Nat → Env) : List Event :=
  [⟨env 1, .createPaymentAttempt 1 none⟩, ⟨env 2, .resyncTenantInvoices 2 20⟩]

private theorem neighbours_wellKept : Small.neighbours.db.WellKept where
  filed := ⟨by decide +kernel, by decide +kernel, by decide +kernel⟩
  accountIds := by decide +kernel
  references invoice hmem := by
    obtain rfl : invoice = Small.invoice := List.mem_singleton.1 hmem
    exact ⟨"INV-1", rfl, by decide, by decide⟩
  separate := by
    refine ⟨fun attempt hmem => ?_, fun invoice hmem => ?_⟩
    · have hnone : Small.neighbours.db.attempts = [] := by decide +kernel
      rw [hnone] at hmem
      cases hmem
    · obtain rfl : invoice = Small.invoice := List.mem_singleton.1 hmem
      exact ⟨_, rfl, rfl⟩

set_option maxRecDepth 100000 in
theorem neighbours_sync_run :
    let w := run step Small.neighbours (Small.neighboursSync Small.openErpAt)
    w.db.attempts.map (fun a => (a.tenantId, a.billingInvoiceId)) = [(1, 1)] ∧
      (w.db.invoice? 1).map BillingInvoice.tenantId = some 2 := by
  decide +kernel

/-- The ERP lists the first tenant's invoice for the second one too, and the sync makes it the second one's: its attempt
stays the first one's. -/
theorem neighbours_mixed : Small.neighbours.db.WellKept ∧
    ¬Always step (fun w => w.db.Separate) Small.neighbours (Small.neighboursSync Small.openErpAt) := by
  refine ⟨neighbours_wellKept, fun h => ?_⟩
  obtain ⟨hattempts, hinvoice⟩ := neighbours_sync_run
  obtain ⟨attempt, hmem, hattempt⟩ := List.mem_map.1
    (show (1, 1) ∈ _ from hattempts ▸ List.mem_singleton_self ((1, 1) : Nat × Nat))
  obtain ⟨htenant, hid⟩ := Prod.mk.inj hattempt
  obtain ⟨invoice, hrow, hsame⟩ := h.last.attempts attempt hmem
  rw [hid] at hrow
  rw [hrow, Option.map_some, hsame, htenant] at hinvoice
  cases hinvoice

/-- An environment whose ERP lists the invoice for the first tenant only. -/
def Small.ownErpAt (n : Nat) : Env :=
  { Small.openErpAt n with erp := fun tick => { (Small.openErpAt n).erp tick with
      listInvoices := fun customerId _ => .ok (if customerId = "CUST-1" then [Small.openItem] else []) } }

private theorem ownErp_keepsApart {w : World} {n : Nat} {op : Op}
    (hinvoices : ∀ invoice ∈ w.db.invoices, invoice.tenantId = 1)
    (htenants : ∀ tenant ∈ w.db.tenants, tenant.customerId? = some "CUST-1" → tenant.id = 1) :
    ErpKeepsApart w ⟨Small.ownErpAt n, op⟩ := by
  refine fun _ => ⟨fun _ => 1, fun invoice hmem _ _ => (hinvoices invoice hmem).symm, fun tick _ => ⟨?_, ?_⟩⟩
  · intro id tenant hrow customerId hcustomer limit items hlisted item hitem _
    have hitems : (if customerId = "CUST-1" then [Small.openItem] else []) = items := Except.ok.inj hlisted
    rw [← hitems] at hitem
    split at hitem
    · rename_i hfirst
      rw [hfirst] at hcustomer
      rw [← Db.tenant?_id hrow, htenants tenant (mem_of_get? hrow) hcustomer]
    · cases hitem
  · exact fun _ _ _ _ => rfl

set_option maxRecDepth 100000 in
/-- Where it lists the invoice for the first tenant only, the records stay separate. -/
theorem records_never_mix_neighbours :
    Always step (fun w => w.db.Separate) Small.neighbours (Small.neighboursSync Small.ownErpAt) ∧
      Steps step (fun w e => w.db.KeepsTenants (step w e).db) Small.neighbours (Small.neighboursSync Small.ownErpAt) :=
  records_never_mix neighbours_wellKept
    ⟨ownErp_keepsApart (by decide +kernel) (by decide +kernel), ownErp_keepsApart (by decide +kernel) (by decide +kernel),
      trivial⟩

end ControlPlane
