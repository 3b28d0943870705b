import ControlPlane.Base.Shares
import ControlPlane.BillingExceptions
import ControlPlane.PayingTenants
import ControlPlane.SeparateLedgers

/-!
# The shares of the tenants

Each table with a tenant column has a share for each tenant, and the shares of one tenant together are what the platform
knows of it (`Db.shareOf`).  What a program writes for one tenant leaves the share of every other one (`Db.Beside`): for each
writer of the rows there is one lemma that says so.
-/

namespace ControlPlane

open Table Session

/-- The rows of a tenant, as a database of its own. -/
def Db.shareOf (t : Nat) (db : Db) : Db :=
  { Db.empty with
    tenants := share (fun row => row.id = t) db.tenants
    memberships := share (fun row => row.tenantId = t) db.memberships
    subscriptions := share (fun row => row.tenantId = t) db.subscriptions
    accounts := share (fun row => row.tenantId = t) db.accounts
    invoices := share (fun row => row.tenantId = t) db.invoices
    attempts := share (fun row => row.tenantId = t) db.attempts
    events := share (fun row => row.tenantId = t) db.events
    exceptions := share (fun row => row.tenantId = t) db.exceptions }

/-- Nothing of the tenant `t` has changed. -/
structure Db.Beside (t : Nat) (db db' : Db) : Prop where
  tenants : share (fun row => row.id = t) db'.tenants = share (fun row => row.id = t) db.tenants
  memberships : share (fun row => row.tenantId = t) db'.memberships = share (fun row => row.tenantId = t) db.memberships
  subscriptions : share (fun row => row.tenantId = t) db'.subscriptions =
    share (fun row => row.tenantId = t) db.subscriptions
  accounts : share (fun row => row.tenantId = t) db'.accounts = share (fun row => row.tenantId = t) db.accounts
  invoices : share (fun row => row.tenantId = t) db'.invoices = share (fun row => row.tenantId = t) db.invoices
  attempts : share (fun row => row.tenantId = t) db'.attempts = share (fun row => row.tenantId = t) db.attempts
  events : share (fun row => row.tenantId = t) db'.events = share (fun row => row.tenantId = t) db.events
  exceptions : share (fun row => row.tenantId = t) db'.exceptions = share (fun row => row.tenantId = t) db.exceptions

theorem Db.Beside.shareOf {t : Nat} {db db' : Db} (h : db.Beside t db') : db'.shareOf t = db.shareOf t := by
  unfold Db.shareOf
  rw [h.tenants, h.memberships, h.subscriptions, h.accounts, h.invoices, h.attempts, h.events, h.exceptions]

theorem Db.Beside.refl (t : Nat) (db : Db) : db.Beside t db := ⟨rfl, rfl, rfl, rfl, rfl, rfl, rfl, rfl⟩

theorem Db.Beside.trans {t : Nat} {db db' db'' : Db} (h : db.Beside t db') (h' : db'.Beside t db'') : db.Beside t db'' where
  tenants := h'.tenants.trans h.tenants
  memberships := h'.memberships.trans h.memberships
  subscriptions := h'.subscriptions.trans h.subscriptions
  accounts := h'.accounts.trans h.accounts
  invoices := h'.invoices.trans h.invoices
  attempts := h'.attempts.trans h.attempts
  events := h'.events.trans h.events
  exceptions := h'.exceptions.trans h.exceptions

/-! ### One table -/

section

variable {t : Nat} {db db' : Db}

theorem share_putTenant {rows : List Tenant} {row : Tenant} (h : row.id ≠ t) :
    share (fun row => row.id = t) (put rows row) = share (fun row => row.id = t) rows := by
  refine share_put (decide_eq_false h) fun a _ hkey => decide_eq_false fun ha => h ?_
  have hid : a.id = row.id := hkey
  rw [← hid, ha]

theorem share_moved {id : Nat} {status : TenantStatus} (h : Moved db db' id status) (ht : id ≠ t) :
    share (fun row => row.id = t) db'.tenants = share (fun row => row.id = t) db.tenants := by
  obtain ⟨row, htenants, rfl, -⟩ := h
  rw [htenants]
  exact share_putTenant ht

theorem share_written {tenantId : Nat} {row : Subscription} (h : SubscriptionWritten db db' tenantId row)
    (hids : (db.subscriptions.map Subscription.id).Nodup) (ht : tenantId ≠ t) :
    share (fun row => row.tenantId = t) db'.subscriptions = share (fun row => row.tenantId = t) db.subscriptions := by
  have hrow : decide (row.tenantId = t) = false := by
    rw [h.tenant]
    exact decide_eq_false ht
  rcases h.rows with ⟨old, hold, hid, hrows⟩ | ⟨-, -, hrows⟩
  · rw [hrows]
    have hget : get? db.subscriptions (key row) = some old := by
      rw [show key row = old.id from hid]
      exact get?_of_mem hids (mem_of_subscriptionOf hold)
    refine share_put_of_get? hids hget ?_ hrow
    rw [tenantId_of_subscriptionOf hold]
    exact decide_eq_false ht
  · rw [hrows]
    exact share_insert hrow

theorem share_marked {attempt marked : PaymentAttempt} (hids : (db.attempts.map PaymentAttempt.id).Nodup)
    (hmem : attempt ∈ db.attempts) (hmarked : Marked attempt marked) (ht : attempt.tenantId ≠ t) :
    share (fun row => row.tenantId = t) (put db.attempts marked) = share (fun row => row.tenantId = t) db.attempts := by
  have hget : get? db.attempts (key marked) = some attempt := by
    rw [show key marked = attempt.id from hmarked.id]
    exact get?_of_mem hids hmem
  refine share_put_of_get? hids hget (decide_eq_false ht) ?_
  rw [hmarked.tenant]
  exact decide_eq_false ht

theorem share_account {tenant : Tenant} {account : BillingAccount} (hids : (db.accounts.map BillingAccount.id).Nodup)
    (h : ensureBillingAccount db tenant = (db', account)) (ht : tenant.id ≠ t) :
    share (fun row => row.tenantId = t) db'.accounts = share (fun row => row.tenantId = t) db.accounts := by
  unfold ensureBillingAccount at h
  split at h
  · rename_i existing hexisting
    have htenant : existing.tenantId = tenant.id := by
      have hfound := List.find?_some hexisting
      exact of_decide_eq_true hfound
    have hout : decide (existing.tenantId = t) = false := by
      rw [htenant]
      exact decide_eq_false ht
    have hget : get? db.accounts existing.id = some existing := get?_of_mem hids (List.mem_of_find?_eq_some hexisting)
    split at h
    · cases h
      exact share_put_of_get? hids hget hout hout
    · cases h
      rfl
  · cases h
    exact share_insert (decide_eq_false ht)

/-- An item that is filed for a tenant, in an invoice that was that tenant's. -/
theorem share_upsert {flushed : List BillingInvoice} {tenant : Tenant} {account : BillingAccount} {item : ErpItem}
    {now : Time} {invoice : BillingInvoice} (hids : (db.invoices.map BillingInvoice.id).Nodup)
    (hkept : db.KeepsTenants db') (h : upsertBillingInvoiceFromErpItem flushed db tenant account item now =
      .ok (invoice, db')) (ht : tenant.id ≠ t) :
    share (fun row => row.tenantId = t) db'.invoices = share (fun row => row.tenantId = t) db.invoices := by
  obtain ⟨-, db₁, found, due, paid, hfound, hinvoice, rfl⟩ := upsertBillingInvoiceFromErpItem_ok h
  have htenant : invoice.tenantId = tenant.id := by
    rw [hinvoice]
    rfl
  have hout : decide (invoice.tenantId = t) = false := by
    rw [htenant]
    exact decide_eq_false ht
  have hadded : db₁ = db ∨ ∃ added : BillingInvoice, added.tenantId = tenant.id ∧
      db₁ = { db with invoices := insert db.invoices added } := by
    unfold findOrAddInvoice at hfound
    split at hfound
    · cases hfound
      exact Or.inl rfl
    · cases hfound
      exact Or.inr ⟨_, rfl, rfl⟩
  -- a row under the invoice's id that was there before is the invoice now, with the tenant it had
  have hold : ∀ a ∈ db.invoices, key a = key invoice → decide (a.tenantId = t) = false := by
    intro a ha hkey
    obtain ⟨row, hrow, hsame⟩ := hkept a.id a (get?_of_mem hids ha)
    have hrowId : row.id = invoice.id := (key_of_get? hrow).trans hkey
    rcases mem_put (mem_of_get? hrow) with rfl | hmem
    · rw [← hsame]
      exact hout
    · have hfind : get? (put db₁.invoices invoice) (key invoice) = some row := by
        rw [← show a.id = key invoice from hkey]
        exact hrow
      rw [get?_put, if_pos rfl] at hfind
      obtain ⟨_, -, rfl⟩ := Option.map_eq_some_iff.1 hfind
      rw [← hsame]
      exact hout
  rcases hadded with rfl | ⟨added, haddedTenant, rfl⟩
  · exact share_put hout hold
  · have hnew : decide (added.tenantId = t) = false := by
      rw [haddedTenant]
      exact decide_eq_false ht
    have hput : share (fun row => row.tenantId = t) (put (insert db.invoices added) invoice) =
        share (fun row => row.tenantId = t) (insert db.invoices added) := by
      refine share_put hout fun a ha hkey => ?_
      rcases mem_insert.1 ha with ha | rfl
      · exact hold a ha hkey
      · exact hnew
    exact hput.trans (share_insert hnew)

end

/-! ### The ledger of another tenant -/

section

variable {owner : String → Nat} {w : World} {t : Nat} {db db' : Db} {client : PlatformErpClient} {tenant : Tenant}
  {now : Time}

/-- A resync of an invoice of its tenant. -/
theorem ApartWithin.resync {invoice updated : BillingInvoice} (h : ApartWithin owner w db)
    (herp : client.isConfigured = true → client.Respects owner w.db)
    (hcustomer : (db.tenant? tenant.id).map Tenant.platformCustomerId = some tenant.platformCustomerId)
    (hrow : db.invoice? invoice.id = some invoice) (hown : invoice.tenantId = tenant.id)
    (hr : resyncOneInvoice client db tenant invoice now = .ok (updated, db')) (ht : tenant.id ≠ t) :
    db.Beside t db' ∧ updated.tenantId = tenant.id ∧ ApartWithin owner w db' := by
  obtain ⟨committed, hcommitted, hsame⟩ := h.tenant hcustomer
  obtain ⟨howned, hkept, hupdated⟩ := h.owned.resync h.filed herp hcommitted hsame hrow hown hr
  have hfiled := h.filed.resync hr
  have hshares : share (fun row => row.tenantId = t) db'.accounts = share (fun row => row.tenantId = t) db.accounts ∧
      share (fun row => row.tenantId = t) db'.invoices = share (fun row => row.tenantId = t) db.invoices := by
    have hensured := share_account (t := t) h.owned.accountIds
      (show ensureBillingAccount db tenant = ((ensureBillingAccount db tenant).1, (ensureBillingAccount db tenant).2) from rfl)
      ht
    have hinvoices := ensureBillingAccount_invoices db tenant
    rcases resyncOneInvoice_ok hr with ⟨-, rfl | rfl⟩ | ⟨customerId, item, -, -, -, hupsert, -⟩
    · exact ⟨rfl, rfl⟩
    · exact ⟨hensured, by rw [hinvoices]⟩
    · have hids : ((ensureBillingAccount db tenant).1.invoices.map BillingInvoice.id).Nodup := by
        rw [hinvoices]
        exact h.filed.ids
      have hkept' : (ensureBillingAccount db tenant).1.KeepsTenants db' := by
        intro id row hid
        refine hkept id row ?_
        unfold Db.invoice? at hid ⊢
        rw [← hinvoices]
        exact hid
      have hfiledRows := share_upsert (t := t) hids hkept' hupsert ht
      obtain ⟨invoices, hframe⟩ := upsertBillingInvoiceFromErpItem_frame hupsert
      refine ⟨?_, ?_⟩
      · rw [hframe]
        exact hensured
      · rw [hfiledRows, hinvoices]
  obtain ⟨accounts, invoices, rfl⟩ := resyncOneInvoice_frame hr
  refine ⟨⟨rfl, rfl, rfl, hshares.1, hshares.2, rfl, rfl, rfl⟩, hupdated, ?_⟩
  exact h.write hfiled howned hkept rfl rfl

/-- The items of a sync, one after another. -/
theorem share_upsertItems {flushed : List BillingInvoice} {account : BillingAccount} {items : List ErpItem}
    {rows : List BillingInvoice} (h : db.OwnedBy owner) (hstill : db.StillFiled flushed)
    (hsame : ∀ i ∈ flushed, i.invoiceNumber = i.erpInvoiceId)
    (haccount : get? db.accounts account.id = some account ∧ account.tenantId = tenant.id)
    (howner : ∀ item ∈ items, item.reference ≠ "" → owner item.reference = tenant.id)
    (hr : upsertItems flushed tenant account now items db = .ok (rows, db')) (ht : tenant.id ≠ t) :
    share (fun row => row.tenantId = t) db'.invoices = share (fun row => row.tenantId = t) db.invoices := by
  induction items generalizing db rows with
  | nil =>
    cases hr
    rfl
  | cons item items ih =>
    obtain ⟨⟨invoice, db₁⟩, hitem, hr⟩ := bind_eq_ok.1 hr
    obtain ⟨⟨rest, db₂⟩, hrest, hr⟩ := bind_eq_ok.1 hr
    cases hr
    obtain ⟨h₁, hstill₁, hkept₁, -⟩ := h.upsert hstill hsame haccount (howner item (List.mem_cons_self ..)) hitem
    have hfirst := share_upsert (t := t) h.ids hkept₁ hitem ht
    have haccount₁ : get? db₁.accounts account.id = some account ∧ account.tenantId = tenant.id := by
      obtain ⟨invoices, rfl⟩ := upsertBillingInvoiceFromErpItem_frame hitem
      exact haccount
    exact (ih h₁ hstill₁ haccount₁ (fun item hmem => howner item (List.mem_cons_of_mem _ hmem)) hrest).trans hfirst

/-- A sync of the invoices of a tenant. -/
theorem ApartWithin.sync {tenantId limit : Nat} {u : Unit} (h : ApartWithin owner w db)
    (herp : client.isConfigured = true → client.Respects owner w.db)
    (hr : syncForTenant tenantId limit now client db = .ok (u, db')) (ht : tenantId ≠ t) : db.Beside t db' := by
  have hframe := syncForTenant_frame hr
  obtain ⟨tenant, htenant, hr⟩ := bind_eq_ok.1 hr
  obtain ⟨⟨rows, db₀⟩, hsync, hr⟩ := bind_eq_ok.1 hr
  cases hr
  have hrow := requireTenant_ok htenant
  obtain rfl := Db.tenant?_id hrow
  obtain ⟨committed, hcommitted, hsame⟩ := h.tenant (congrArg (Option.map Tenant.platformCustomerId) hrow)
  have hshares : share (fun row => row.tenantId = t) db'.accounts = share (fun row => row.tenantId = t) db.accounts ∧
      share (fun row => row.tenantId = t) db'.invoices = share (fun row => row.tenantId = t) db.invoices := by
    unfold syncPlatformInvoicesForTenant at hsync
    split at hsync
    · rename_i customerId hconfigured hcustomerId
      have hinvoices := ensureBillingAccount_invoices db tenant
      generalize haccount : ensureBillingAccount db tenant = p at hsync hinvoices
      obtain ⟨db₁, account⟩ := p
      obtain ⟨h₁, hthere⟩ := h.owned.ensureBillingAccount haccount
      have hensured := share_account (t := t) h.owned.accountIds haccount ht
      dsimp only at hsync hinvoices
      obtain ⟨items, hitems, hsync⟩ := bind_eq_ok.1 hsync
      obtain ⟨⟨written, db₂⟩, hwritten, hsync⟩ := bind_eq_ok.1 hsync
      obtain ⟨db₃, hflush, hsync⟩ := bind_eq_ok.1 hsync
      cases hsync
      obtain rfl := flushInvoices_eq hflush
      have hlisted : ∀ item ∈ items, item.reference ≠ "" → owner item.reference = tenant.id := by
        refine (herp hconfigured).listed tenant.id committed hcommitted customerId ?_ limit items hitems
        unfold Tenant.customerId? at hcustomerId ⊢
        rw [hsame]
        exact hcustomerId
      have hnumbers : ∀ i ∈ db₁.invoices, i.invoiceNumber = i.erpInvoiceId := by
        rw [hinvoices]
        exact h.filed.same
      have hrows := share_upsertItems (t := t) h₁ (Db.stillFiled_self h₁.ids) hnumbers hthere hlisted hwritten ht
      obtain ⟨invoices, hitemsFrame⟩ := upsertItems_frame hwritten
      refine ⟨?_, ?_⟩
      · rw [hitemsFrame]
        exact hensured
      · rw [hrows, hinvoices]
    · cases hsync
      exact ⟨rfl, rfl⟩
  obtain ⟨accounts, invoices, rfl⟩ := hframe
  exact ⟨rfl, rfl, rfl, hshares.1, hshares.2, rfl, rfl, rfl⟩

/-- The settlement of an attempt of a tenant. -/
theorem ApartWithin.settle {attempt : PaymentAttempt} (h : ApartWithin owner w db)
    (herp : client.isConfigured = true → client.Respects owner w.db)
    (hcustomer : (db.tenant? tenant.id).map Tenant.platformCustomerId = some tenant.platformCustomerId)
    (hmem : attempt ∈ db.attempts) (htenant : attempt.tenantId = tenant.id)
    (hsettle : SettledInvoice client tenant now attempt db db') (ht : tenant.id ≠ t) : db.Beside t db' := by
  rcases hsettle with ⟨-, rfl⟩ | ⟨invoice, updated, settled, db₁, hinvoice, hupdated, hset, rfl⟩
  · exact .refl t _
  · have hrow : db.invoice? invoice.id = some invoice := by
      rw [show invoice.id = attempt.billingInvoiceId from key_of_get? hinvoice]
      exact hinvoice
    have hown : invoice.tenantId = tenant.id := by
      obtain ⟨row, hattempt, hsame⟩ := h.attempts attempt hmem
      rw [hinvoice] at hattempt
      cases hattempt
      rw [hsame, htenant]
    have hsynced : db.Beside t db₁ ∧ updated.tenantId = tenant.id ∧ db₁.InvoicesFiled ∧
        db₁.invoice? updated.id = some updated := by
      rcases hupdated with ⟨rfl, rfl⟩ | hresync
      · exact ⟨.refl t _, hown, h.filed, hrow⟩
      · obtain ⟨hbeside, htenantId, hapart⟩ := h.resync herp hcustomer hrow hown hresync ht
        exact ⟨hbeside, htenantId, hapart.filed, resyncOneInvoice_row hrow hresync⟩
    obtain ⟨hbeside, htenantId, hfiled, hupdatedRow⟩ := hsynced
    have hget : get? db₁.invoices (key settled) = some updated := by
      rw [show key settled = updated.id from hset.id]
      exact hupdatedRow
    have hout : decide (updated.tenantId = t) = false := by
      rw [htenantId]
      exact decide_eq_false ht
    have hout' : decide (settled.tenantId = t) = false := by
      rw [hset.tenant]
      exact hout
    have hput := share_put_of_get? (p := fun row : BillingInvoice => row.tenantId = t) hfiled.ids hget hout hout'
    exact hbeside.trans ⟨rfl, rfl, rfl, rfl, hput, rfl, rfl, rfl⟩

end

/-! ### Events of another tenant -/

/-- The billing event is a tenant's, and about an attempt and its invoice. -/
structure BillingEvent.Records (row : BillingEvent) (tenantId : Nat) (attempt : PaymentAttempt) : Prop where
  tenantId : row.tenantId = tenantId
  invoice : row.billingInvoiceId = some attempt.billingInvoiceId
  attempt : row.paymentAttemptId = some attempt.id

theorem settleInvoiceBackedPaymentConfirmation_recorded {client : PlatformErpClient} {db db' : Db} {tenant : Tenant}
    {subscription : Subscription} {attempt : Option PaymentAttempt} {provider : String} {now : Time}
    (h : settleInvoiceBackedPaymentConfirmation client db tenant subscription attempt provider now = .ok db') :
    db'.events = db.events ∨ ∃ (a : PaymentAttempt) (row : BillingEvent), attempt = some a ∧ row.Records tenant.id a ∧
      db'.events = insert db.events row := by
  unfold settleInvoiceBackedPaymentConfirmation at h
  split at h
  · cases h
    exact Or.inl rfl
  · rename_i a
    obtain ⟨settled, hsettle, h⟩ := bind_eq_ok.1 h
    obtain ⟨accounts, invoices, rfl⟩ := settleInvoiceOf_frame hsettle
    cases h
    exact Or.inr ⟨a, _, rfl, ⟨rfl, rfl, rfl⟩, rfl⟩

theorem applyInvoiceBackedPaymentFailure_recorded (db : Db) (tenant : Tenant) (subscription : Subscription)
    (attempt : Option PaymentAttempt) (provider : String) (raw : Json) (now : Time) :
    (applyInvoiceBackedPaymentFailure db tenant subscription attempt provider raw now).events = db.events ∨
      ∃ (a : PaymentAttempt) (row : BillingEvent), attempt = some a ∧ row.Records tenant.id a ∧
        (applyInvoiceBackedPaymentFailure db tenant subscription attempt provider raw now).events =
          insert db.events row := by
  unfold applyInvoiceBackedPaymentFailure
  split
  · exact Or.inl rfl
  · rename_i a
    exact Or.inr ⟨a, _, rfl, ⟨rfl, rfl, rfl⟩, rfl⟩

/-- An event that changes anything records at most one billing event, for its tenant and about the attempt it names. -/
theorem eventBody_recorded {provider : String} {event : WebhookEvent} {now : Time} {client : PlatformErpClient}
    {db db' : Db} {tenantId : Nat} {email : Option String}
    (h : eventBody provider event now client db = .ok (.changed tenantId email, db')) :
    db'.events = db.events ∨ ∃ (a : PaymentAttempt) (row : BillingEvent), a ∈ db.attempts ∧ row.Records tenantId a ∧
      db'.events = insert db.events row := by
  unfold eventBody at h
  split at h
  · rcases confirmPayment_parts h with ⟨message, hhandled, -⟩ | ⟨owner, tenant, paying, paid, subscription, activated,
      ensured, settled, hhandled, -, -, ⟨hid, -⟩, hsub, hsettled, -, -, -, rfl⟩
    · cases hhandled
    · cases hhandled
      obtain ⟨-, plans, subscriptions, rfl⟩ := ensureSubscription_ok hsub
      rw [← hid]
      rcases settleInvoiceBackedPaymentConfirmation_recorded hsettled with hsame | ⟨a, row, hattempt, hrow, hrows⟩
      · exact Or.inl hsame
      · exact Or.inr ⟨a, row, (mem_attempts_of_resolved hattempt).1, hrow, hrows⟩
  · rcases failPayment_parts h with ⟨message, hhandled, -⟩ | ⟨tenant, payer, failed, subscription, pastDue, ensured,
      hhandled, -, hid, hsub, -, -, -, rfl⟩
    · cases hhandled
    · cases hhandled
      obtain ⟨-, plans, subscriptions, rfl⟩ := ensureSubscription_ok hsub
      rw [← hid]
      rcases applyInvoiceBackedPaymentFailure_recorded { db with plans := plans, subscriptions := subscriptions } payer
        subscription (resolveInvoiceBackedContext db provider event.tenantId event.subscriptionId event.raw).paymentAttempt
        provider event.raw now with hsame | ⟨a, row, hattempt, hrow, hrows⟩
      · exact Or.inl hsame
      · exact Or.inr ⟨a, row, (mem_attempts_of_resolved hattempt).1, hrow, hrows⟩
  · rcases cancelSubscription_parts h with ⟨message, hhandled, -⟩ | ⟨_, _, _, _, _, _, -, -, hsub, -, -, rfl⟩
    · cases hhandled
    · obtain ⟨-, plans, subscriptions, rfl⟩ := ensureSubscription_ok hsub
      exact Or.inl rfl
  · cases h

theorem share_recorded {t tenantId : Nat} {rows rows' : List BillingEvent} {P : PaymentAttempt → Prop}
    (h : rows' = rows ∨ ∃ (a : PaymentAttempt) (row : BillingEvent), P a ∧ row.Records tenantId a ∧
      rows' = insert rows row) (ht : tenantId ≠ t) :
    share (fun row => row.tenantId = t) rows' = share (fun row => row.tenantId = t) rows := by
  rcases h with rfl | ⟨a, row, -, hrow, rfl⟩
  · rfl
  · refine share_insert ?_
    rw [hrow.tenantId]
    exact decide_eq_false ht

section

variable {owner : String → Nat} {w : World} {t : Nat} {db db' : Db} {client : PlatformErpClient} {now : Time}

/-- What a confirmed or failed payment does to the ledger of another tenant. -/
theorem ApartWithin.eventLedger {provider : String} {event : WebhookEvent} {tenant : Tenant} (h : ApartWithin owner w db)
    (herp : client.isConfigured = true → client.Respects owner w.db)
    (hids : (db.attempts.map PaymentAttempt.id).Nodup)
    (htenant : (resolveInvoiceBackedContext db provider event.tenantId event.subscriptionId event.raw).tenant = some tenant)
    (hledger : EventLedger provider event now client db db') (ht : tenant.id ≠ t) :
    share (fun row => row.tenantId = t) db'.accounts = share (fun row => row.tenantId = t) db.accounts ∧
      share (fun row => row.tenantId = t) db'.invoices = share (fun row => row.tenantId = t) db.invoices ∧
      share (fun row => row.tenantId = t) db'.attempts = share (fun row => row.tenantId = t) db.attempts := by
  cases hledger with
  | untouched hsame => exact ⟨by rw [hsame.accounts], by rw [hsame.invoices], by rw [hsame.attempts]⟩
  | failed attempt htype hresolved hsame =>
    have hown := resolved_attempt_tenant hresolved htenant
    have hmem := (mem_attempts_of_resolved hresolved).1
    have hput := share_marked (t := t) hids hmem (marked_failedAttempt attempt provider event.raw now) (hown ▸ ht)
    exact ⟨by rw [hsame.accounts]; rfl, by rw [hsame.invoices]; rfl, by rw [hsame.attempts]; exact hput⟩
  | settled attempt found paying ensured settledDb htype hresolved hfound hpaying hensured hkept hsettle hsame =>
    obtain rfl := Option.some.inj (htenant.symm.trans hfound)
    have hown := (resolved_attempt_tenant hresolved htenant).trans hpaying.1.symm
    have hmem : attempt ∈ ensured.attempts := by
      rw [hensured.attempts]
      exact (mem_attempts_of_resolved hresolved).1
    have hcustomer : (ensured.tenant? paying.id).map Tenant.platformCustomerId = some paying.platformCustomerId := by
      rw [hkept, hpaying.1, resolved_row htenant, hpaying.2]
      rfl
    have hpayer : paying.id ≠ t := by
      rw [hpaying.1]
      exact ht
    have hbeside := (h.congr hensured hkept).settle herp hcustomer hmem hown hsettle hpayer
    have hattempts := hsettle.frame.2
    have hids' : (settledDb.attempts.map PaymentAttempt.id).Nodup := by
      rw [hattempts, hensured.attempts]
      exact hids
    have hput := share_marked (t := t) hids' (hattempts ▸ hmem) (marked_paidAttempt attempt provider now) (hown ▸ hpayer)
    refine ⟨?_, ?_, ?_⟩
    · rw [hsame.accounts, ← hensured.accounts]
      exact hbeside.accounts
    · rw [hsame.invoices, ← hensured.invoices]
      exact hbeside.invoices
    · rw [hsame.attempts, ← hensured.attempts, ← hattempts]
      exact hput

/-- An event leaves the tenants it is not for. -/
theorem ApartWithin.event {provider : String} {event : WebhookEvent} {handled : Handled} (h : ApartWithin owner w db)
    (herp : client.isConfigured = true → client.Respects owner w.db) (hU : db.SubscriptionsUnique)
    (hids : (db.attempts.map PaymentAttempt.id).Nodup)
    (hr : eventBody provider event now client db = .ok (handled, db'))
    (ht : ∀ tenant, eventTenant provider event db = some tenant → tenant.id ≠ t) : db.Beside t db' := by
  cases handled with
  | ignored message =>
    rw [eventBody_ignored hr]
    exact .refl t db
  | changed tenantId email =>
    obtain ⟨tenant, htenant, rfl, -, -, hmoved⟩ := eventBody_changed hr
    obtain ⟨row, hwritten, -⟩ := eventBody_subscription hr
    have hne := ht tenant htenant
    have hledger : share (fun row => row.tenantId = t) db'.accounts = share (fun row => row.tenantId = t) db.accounts ∧
        share (fun row => row.tenantId = t) db'.invoices = share (fun row => row.tenantId = t) db.invoices ∧
        share (fun row => row.tenantId = t) db'.attempts = share (fun row => row.tenantId = t) db.attempts := by
      unfold eventTenant at htenant
      cases htype : event.eventType with
      | paymentConfirmed =>
        rw [htype] at htenant
        exact h.eventLedger herp hids htenant (eventBody_ledger hr) hne
      | paymentFailed =>
        rw [htype] at htenant
        exact h.eventLedger herp hids htenant (eventBody_ledger hr) hne
      | subscriptionCancelled =>
        unfold eventBody at hr
        rw [htype] at hr
        rcases cancelSubscription_parts hr with ⟨message, hhandled, -⟩ | ⟨_, _, _, _, _, _, -, -, hsub, -, -, rfl⟩
        · cases hhandled
        · obtain ⟨-, plans, subscriptions, rfl⟩ := ensureSubscription_ok hsub
          exact ⟨rfl, rfl, rfl⟩
      | other name =>
        rw [htype] at htenant
        cases htenant
    have htenants := share_moved hmoved hne
    have hsubscriptions := share_written hwritten hU.ids hne
    have hevents := share_recorded (eventBody_recorded hr) hne
    obtain ⟨tenants, plans, subscriptions, accounts, invoices, attempts, events, rfl⟩ := eventBody_frame hr
    exact ⟨htenants, rfl, hsubscriptions, hledger.1, hledger.2.1, hledger.2.2, hevents, rfl⟩

/-! ### Reconciliation of another tenant -/

theorem share_resolved (db : Db) {tenantId : Nat} (invoiceId : Nat) (now : Time) (ht : tenantId ≠ t) :
    share (fun row => row.tenantId = t) (resolveBillingExceptions db tenantId invoiceId now).2.exceptions =
      share (fun row => row.tenantId = t) db.exceptions := by
  refine share_map (fun e _ => ?_) fun e _ hin => ?_
  · split <;> rfl
  · have hne : e.tenantId ≠ tenantId := fun heq => ht (heq.symm.trans (of_decide_eq_true hin))
    rw [if_neg]
    intro hresolves
    exact hne (of_decide_eq_true hresolves).1

theorem share_opened {tenant : Tenant} {subscription : Option Subscription} {invoice : BillingInvoice}
    {attempt : Option PaymentAttempt} {exceptionType reason : String} {count : Nat}
    (h : openBillingException db tenant subscription invoice attempt exceptionType reason now = (count, db'))
    (hids : (db.exceptions.map BillingException.id).Nodup) (ht : tenant.id ≠ t) :
    share (fun row => row.tenantId = t) db'.exceptions = share (fun row => row.tenantId = t) db.exceptions := by
  unfold openBillingException at h
  dsimp only at h
  split at h
  · rename_i existing hexisting
    obtain ⟨hmem, hscope⟩ := List.mem_filter.1 (mem_of_latestBy hexisting)
    have hout : decide (existing.tenantId = t) = false := by
      rw [(of_decide_eq_true hscope).1]
      exact decide_eq_false ht
    have hget : get? db.exceptions existing.id = some existing := get?_of_mem hids hmem
    cases h
    exact share_put_of_get? hids hget hout hout
  · cases h
    exact share_insert (decide_eq_false ht)

/-- The latest attempt of an invoice is its tenant's. -/
theorem ApartWithin.latest {invoice : BillingInvoice} {attempt : PaymentAttempt} (h : ApartWithin owner w db)
    (hrow : db.invoice? invoice.id = some invoice)
    (hattempt : latestPaymentAttempt (db.attemptsOf invoice.id) = some attempt) :
    attempt ∈ db.attempts ∧ attempt.tenantId = invoice.tenantId := by
  obtain ⟨hmem, hinvoice⟩ := List.mem_filter.1 (mem_of_latestBy hattempt)
  obtain ⟨row, hget, htenant⟩ := h.attempts attempt hmem
  rw [of_decide_eq_true hinvoice, hrow] at hget
  cases hget
  exact ⟨hmem, htenant.symm⟩

theorem share_paid {attempt paid : Option PaymentAttempt} {invoice : BillingInvoice} {updated : Bool}
    (hids : (db.attempts.map PaymentAttempt.id).Nodup) (hown : ∀ a ∈ attempt, a ∈ db.attempts ∧ a.tenantId ≠ t)
    (h : payAttemptFromErp db attempt invoice now = (paid, updated, db')) :
    share (fun row => row.tenantId = t) db'.attempts = share (fun row => row.tenantId = t) db.attempts := by
  unfold payAttemptFromErp at h
  split at h
  · rename_i a
    obtain ⟨hmem, hne⟩ := hown a rfl
    dsimp only at h
    split at h
    · cases h
      refine share_marked hids hmem ⟨rfl, rfl, rfl, rfl, ?_⟩ hne
      exact List.mem_cons_self ..
    · cases h
      rfl
  · cases h
    rfl

theorem reconcileSettledInvoice_beside {tenant : Tenant} {subscription : Option Subscription} {invoice : BillingInvoice}
    {attempt : Option PaymentAttempt} {result : InvoiceReconciliationResult} {r : InvoiceReconciliationResult × Option String}
    (hU : db.SubscriptionsUnique) (hattempts : (db.attempts.map PaymentAttempt.id).Nodup)
    (hexceptions : (db.exceptions.map BillingException.id).Nodup)
    (hown : ∀ a ∈ attempt, a ∈ db.attempts ∧ a.tenantId ≠ t)
    (hsubscription : ∀ s ∈ subscription, db.subscriptionOf tenant.id = some s)
    (h : reconcileSettledInvoice client db tenant subscription invoice attempt result now = .ok (r, db'))
    (ht : tenant.id ≠ t) : db.Beside t db' := by
  obtain ⟨result', email⟩ := r
  obtain ⟨paid, updated, resolved, db₁, db₂, hpay, hresolve, -, hcases⟩ := reconcileSettledInvoice_parts rfl h
  have hpaid := share_paid hattempts hown hpay
  obtain ⟨attempts, rfl⟩ := payAttemptFromErp_frame hpay
  have hresolved := share_resolved { db with attempts := attempts } invoice.id now ht
  cases hresolve
  rcases hcases with ⟨-, -, opened, db₃, hopen, rfl⟩ | ⟨s, activated, outcome, rfl, -, hrepair, ⟨hid, -⟩, -, rfl⟩
  · have hids : ((resolveBillingExceptions { db with attempts := attempts } tenant.id invoice.id now).2.exceptions.map
        BillingException.id).Nodup := by
      have hsame : (resolveBillingExceptions { db with attempts := attempts } tenant.id invoice.id now).2.exceptions.map
          BillingException.id = db.exceptions.map BillingException.id := by
        unfold resolveBillingExceptions
        rw [List.map_map]
        refine List.map_congr_left fun e _ => ?_
        show BillingException.id (if _ then _ else e) = e.id
        split <;> rfl
      rw [hsame]
      exact hexceptions
    have hopened := share_opened hopen hids ht
    obtain ⟨exceptions, rfl⟩ := openBillingException_frame hopen
    exact ⟨rfl, rfl, rfl, rfl, rfl, hpaid, share_insert (decide_eq_false ht), hopened.trans hresolved⟩
  · have hsub := hsubscription s rfl
    have hwritten : SubscriptionWritten db
        { db with subscriptions := put db.subscriptions activated } tenant.id activated := by
      refine ⟨(applyPaidRepair_tenantId hrepair).trans (tenantId_of_subscriptionOf hsub), Or.inl ⟨s, hsub, hid, rfl⟩⟩
    have hwrittenShare := share_written hwritten hU.ids ht
    exact ⟨share_putTenant ht, rfl, hwrittenShare, rfl, rfl, hpaid, share_insert (decide_eq_false ht), hresolved⟩

theorem reconcileUnsettledInvoice_beside {tenant : Tenant} {subscription : Option Subscription} {invoice : BillingInvoice}
    {attempt : Option PaymentAttempt} {result : InvoiceReconciliationResult} {r : InvoiceReconciliationResult × Option String}
    (hattempts : (db.attempts.map PaymentAttempt.id).Nodup) (hexceptions : (db.exceptions.map BillingException.id).Nodup)
    (hown : ∀ a ∈ attempt, a ∈ db.attempts ∧ a.tenantId ≠ t)
    (h : reconcileUnsettledInvoice db tenant subscription invoice attempt result now = (r, db')) (ht : tenant.id ≠ t) :
    db.Beside t db' := by
  unfold reconcileUnsettledInvoice at h
  split at h
  · rename_i a
    obtain ⟨hmem, hne⟩ := hown a rfl
    split at h
    · dsimp only at h
      generalize hopen : openBillingException _ tenant subscription invoice _ "erp_mismatch" _ now = p at h
      obtain ⟨opened, db₁⟩ := p
      have hopened := share_opened hopen hexceptions ht
      obtain ⟨exceptions, rfl⟩ := openBillingException_frame hopen
      cases h
      have hmarked : share (fun row => row.tenantId = t) (put db.attempts (appendReconciliationSnapshot
          { a with status := .reconciliationRequired } invoice.invoiceStatus now)) =
          share (fun row => row.tenantId = t) db.attempts := by
        refine share_marked hattempts hmem ⟨rfl, rfl, rfl, rfl, ?_⟩ hne
        exact List.mem_cons_of_mem _ (List.mem_cons_of_mem _ (List.mem_cons_self ..))
      exact ⟨rfl, rfl, rfl, rfl, rfl, hmarked, share_insert (decide_eq_false ht), hopened⟩
    · cases h
      exact .refl t _
  · cases h
    exact .refl t _

/-- A reconciliation of one of a tenant's invoices leaves the other tenants. -/
theorem ApartWithin.reconcile {tenantId invoiceId : Nat} {r : InvoiceReconciliationResult × Option String}
    (h : ApartWithin owner w db) (herp : client.isConfigured = true → client.Respects owner w.db) (hrows : db.PayingRows)
    (hattempts : (db.attempts.map PaymentAttempt.id).Nodup) (hexceptions : (db.exceptions.map BillingException.id).Nodup)
    (hbelongs : InvoicesBelong [invoiceId] tenantId db)
    (hr : reconcileInvoice tenantId invoiceId now client db = .ok (r, db')) (ht : tenantId ≠ t) : db.Beside t db' := by
  obtain ⟨tenant, htenant, hfound⟩ := bind_eq_ok.1 hr
  obtain ⟨invoice, hinvoice, hstored⟩ := bind_eq_ok.1 hfound
  obtain ⟨⟨resynced, db₁⟩, hresync, hrest⟩ := bind_eq_ok.1 hstored
  have hrow := requireTenant_ok htenant
  have hget := requireInvoiceRow_ok hinvoice
  obtain rfl := Db.tenant?_id hrow
  obtain rfl : invoice.id = invoiceId := key_of_get? hget
  have hown := hbelongs invoice.id (List.mem_singleton_self _) invoice hget
  have hcustomer := congrArg (Option.map Tenant.platformCustomerId) hrow
  obtain ⟨hbeside, hresyncedTenant, hapart⟩ := h.resync herp hcustomer hget hown hresync ht
  have hresyncedRow := resyncOneInvoice_row hget hresync
  have hrows₁ := hrows.resync hresync
  obtain ⟨accounts, invoices, hframe⟩ := resyncOneInvoice_frame hresync
  have hattempts₁ : (db₁.attempts.map PaymentAttempt.id).Nodup := by
    rw [hframe]
    exact hattempts
  have hexceptions₁ : (db₁.exceptions.map BillingException.id).Nodup := by
    rw [hframe]
    exact hexceptions
  have hlatest : ∀ a ∈ latestPaymentAttempt (db₁.attemptsOf resynced.id), a ∈ db₁.attempts ∧ a.tenantId ≠ t := by
    intro a ha
    obtain ⟨hmem, htenantId⟩ := hapart.latest hresyncedRow ha
    refine ⟨hmem, ?_⟩
    rw [htenantId, hresyncedTenant]
    exact ht
  refine hbeside.trans ?_
  dsimp only at hrest
  split at hrest
  · refine reconcileSettledInvoice_beside hrows₁.unique hattempts₁ hexceptions₁ hlatest (fun s hs => ?_) hrest ht
    exact subscriptionOf_of_invoice hrows₁.unique hrows₁.linked (mem_of_get? hresyncedRow) hresyncedTenant hs
  · exact reconcileUnsettledInvoice_beside hattempts₁ hexceptions₁ hlatest (Except.ok.inj hrest) ht

end

end ControlPlane
