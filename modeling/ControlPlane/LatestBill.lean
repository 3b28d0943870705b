import ControlPlane.TenantBills

/-!
# The latest bill after a step

The changes of a step that asks the ERP keep to what the step may bring a tenant, so that the tenant's latest invoice
afterwards is one of which `Event.Fits` speaks.
-/

namespace ControlPlane

open Table Session

section

variable {owner : String → Nat} {w : World} {e : Event} {t : Nat} {db db' : Db}

/-! ### Events -/

theorem Event.LedgerWithin.congr (h : e.LedgerWithin owner w t db) (hsame : SameLedger db db')
    (hcustomers : SameCustomers db db') : e.LedgerWithin owner w t db' where
  apart := h.apart.congr hsame hcustomers
  attempts := ⟨h.attempts.filed.congr hsame.invoices, hsame.attempts ▸ h.attempts.ids⟩
  bills := h.bills.congr hsame.invoices hsame.attempts

/-- The invoice of an attempt is the attempt's tenant's. -/
theorem Event.LedgerWithin.rowOf {attempt : PaymentAttempt} {row : BillingInvoice} (h : e.LedgerWithin owner w t db)
    (hmem : attempt ∈ db.attempts) (hrow : row ∈ db.invoices) (hid : row.id = attempt.billingInvoiceId) :
    row.tenantId = attempt.tenantId := by
  obtain ⟨invoice, hinvoice, htenant⟩ := h.apart.attempts attempt hmem
  have hget := get?_of_mem h.apart.filed.ids hrow
  rw [show key row = attempt.billingInvoiceId from hid, show get? db.invoices attempt.billingInvoiceId = some invoice from
    hinvoice] at hget
  cases hget
  exact htenant

/-- An attempt that is marked, as the step may mark one of its tenant. -/
theorem Event.LedgerWithin.mark {attempt marked : PaymentAttempt} (hasking : e.Asking owner w)
    (h : e.LedgerWithin owner w t db) (hmem : attempt ∈ db.attempts) (hmarked : Marked attempt marked)
    (hmay : attempt.tenantId = t → ∀ row ∈ db.invoices, row.id = attempt.billingInvoiceId →
      e.MayMark w t row marked.status) : e.LedgerWithin owner w t (db.putAttempt marked) where
  apart := (apart_ledger hasking.asks hasking.respects).marked db attempt marked h.apart hmem hmarked
  attempts := (attemptRows_ledger w e).marked db attempt marked h.attempts hmem hmarked
  bills := h.bills.mark h.attempts.ids hmem hmarked fun row hrow htenant hid =>
    hmay ((h.rowOf hmem hrow hid).symm.trans htenant) row hrow hid

/-- The settlement of an attempt, for the tenant that a confirmed payment is handled for. -/
theorem Event.LedgerWithin.settle {delivery : WebhookDelivery} {tick : Nat} {tenant : Tenant} {attempt : PaymentAttempt}
    (hasking : e.Asking owner w) (h : e.LedgerWithin owner w t db) (he : e.op = .webhook delivery)
    (hconfirmed : tenant.id = t → handledEvent w e t = some .paymentConfirmed)
    (hcustomer : (db.tenant? tenant.id).map Tenant.platformCustomerId = some tenant.platformCustomerId)
    (hmem : attempt ∈ db.attempts) (htenant : attempt.tenantId = tenant.id)
    (hsettle : SettledInvoice (e.env.erp tick) tenant (e.env.clock tick) attempt db db') : e.LedgerWithin owner w t db' := by
  rcases hsettle with ⟨-, rfl⟩ | ⟨invoice, updated, settled, db₁, hinvoice, hupdated, hset, rfl⟩
  · exact h
  · have hid : invoice.id = attempt.billingInvoiceId := key_of_get? hinvoice
    have hrow : db.invoice? invoice.id = some invoice := by
      rw [hid]
      exact hinvoice
    have hown : invoice.tenantId = tenant.id := (h.rowOf hmem (mem_of_get? hinvoice) hid).trans htenant
    have hsynced : e.LedgerWithin owner w t db₁ ∧ updated.tenantId = tenant.id ∧
        db₁.invoice? updated.id = some updated := by
      rcases hupdated with ⟨rfl, rfl⟩ | hresync
      · exact ⟨h, hown, hrow⟩
      · have hasked : tenant.id = t → ∀ item, (e.env.erp tick).Fetches item → e.MayAsk w t item := by
          intro ht item hfetches
          refine ⟨tick, ?_⟩
          rw [he]
          exact ⟨hconfirmed ht, hfetches⟩
        obtain ⟨h₁, hupdatedTenant⟩ := h.resync hasking hcustomer hrow hown hasked hresync
        exact ⟨h₁, hupdatedTenant, resyncOneInvoice_row hrow hresync⟩
    obtain ⟨h₁, hupdatedTenant, hupdatedRow⟩ := hsynced
    exact ⟨(apart_ledger hasking.asks hasking.respects).settled db₁ updated settled h₁.apart hupdatedRow hset,
      (attemptRows_ledger w e).settled db₁ updated settled h₁.attempts hupdatedRow hset,
      h₁.bills.settle hupdatedRow hset fun ht => hconfirmed (hupdatedTenant.symm.trans ht)⟩

/-- The attempt that an event works on is one that the delivered event names. -/
theorem Event.names_of_resolved {delivery : WebhookDelivery} {event : WebhookEvent} {tick : Nat}
    {attempt : PaymentAttempt} {row : BillingInvoice} (he : e.op = .webhook delivery)
    (hdelivered : deliveredEvent e.env w.db delivery = some (event, tick)) (hcore : db.core = w.db.core)
    (hresolved : (resolveInvoiceBackedContext db (delivery.provider e.env) event.tenantId event.subscriptionId
      event.raw).paymentAttempt = some attempt) (hid : row.id = attempt.billingInvoiceId) : e.Names w row := by
  refine ⟨delivery, event, tick, attempt, he, hdelivered, ?_, hid.symm⟩
  have hsame : ∀ d : Db, (resolveInvoiceBackedContext d.core (delivery.provider e.env) event.tenantId event.subscriptionId
      event.raw).paymentAttempt = (resolveInvoiceBackedContext d (delivery.provider e.env) event.tenantId
      event.subscriptionId event.raw).paymentAttempt := fun _ => rfl
  rw [← hsame w.db, ← hcore, hsame]
  exact hresolved

/-- An event that is handled. -/
theorem Event.LedgerWithin.handled {delivery : WebhookDelivery} {event : WebhookEvent} {tick tenantId : Nat}
    {email : Option String} (hasking : e.Asking owner w) (h : e.LedgerWithin owner w t db) (he : e.op = .webhook delivery)
    (hdelivered : deliveredEvent e.env w.db delivery = some (event, tick)) (hcommit : e.env.commitFails tick = false)
    (hcore : db.core = w.db.core)
    (hr : eventBody (delivery.provider e.env) event (e.env.clock tick) (e.env.erp tick) db =
      .ok (.changed tenantId email, db')) : e.LedgerWithin owner w t db' := by
  have hcustomers := eventBody_customers hr
  have hhandled := (handledEvent_of_changed he hdelivered hcommit hcore hr).1
  obtain ⟨tenant, htenant, rfl, -⟩ := eventBody_changed hr
  cases eventBody_ledger hr with
  | untouched hsame => exact h.congr hsame hcustomers
  | failed attempt htype hresolved hsame =>
    unfold eventTenant at htenant
    rw [htype] at htenant hhandled
    have hown : attempt.tenantId = tenant.id := resolved_attempt_tenant hresolved htenant
    refine Event.LedgerWithin.congr ?_ hsame (SameCustomers.trans (.of_tenants rfl) hcustomers)
    refine h.mark hasking (mem_attempts_of_resolved hresolved).1 (marked_failedAttempt _ _ _ _) fun ht row _ hid => ?_
    obtain rfl := hown.symm.trans ht
    unfold Event.MayMark
    rw [he]
    exact ⟨names_of_resolved he hdelivered hcore hresolved hid, Or.inr ⟨hhandled, rfl⟩⟩
  | settled attempt found paying ensured settledDb htype hresolved hfound hpaying hensured hkept hsettle hsame =>
    unfold eventTenant at htenant
    rw [htype] at htenant hhandled
    obtain rfl := Option.some.inj (htenant.symm.trans hfound)
    have hown : attempt.tenantId = paying.id := (resolved_attempt_tenant hresolved htenant).trans hpaying.1.symm
    have hmem : attempt ∈ ensured.attempts := by
      rw [hensured.attempts]
      exact (mem_attempts_of_resolved hresolved).1
    have hcustomer : (ensured.tenant? paying.id).map Tenant.platformCustomerId = some paying.platformCustomerId := by
      rw [hkept, hpaying.1, resolved_row htenant, hpaying.2]
      rfl
    have hconfirmed : paying.id = t → handledEvent w e t = some .paymentConfirmed := by
      intro ht
      rw [← ht, hpaying.1]
      exact hhandled
    have hsettled := (h.congr hensured hkept).settle hasking he hconfirmed hcustomer hmem hown hsettle
    obtain ⟨htenants, hattempts⟩ := hsettle.frame
    have hback : SameCustomers (settledDb.putAttempt (paidAttempt attempt (delivery.provider e.env) (e.env.clock tick))) db :=
      SameCustomers.trans (.of_tenants htenants.symm) hkept.symm
    refine Event.LedgerWithin.congr ?_ hsame (hback.trans hcustomers)
    refine hsettled.mark hasking (hattempts ▸ hmem) (marked_paidAttempt _ _ _) fun ht row _ hid => ?_
    unfold Event.MayMark
    rw [he]
    exact ⟨names_of_resolved he hdelivered hcore hresolved hid, Or.inl ⟨hconfirmed (hown.symm.trans ht), rfl⟩⟩

/-! ### A new attempt and a reconciliation -/

/-- A new attempt for an invoice of its tenant. -/
theorem Event.LedgerWithin.attempted {invoiceId attemptId : Nat} {provider : Option String} {invoice : BillingInvoice}
    {tenant : Tenant} {user : User} (hasking : e.Asking owner w) (h : e.LedgerWithin owner w t w.db)
    (he : e.op = .createPaymentAttempt invoiceId provider)
    (hinvoice : requireInvoice w.db invoiceId = .ok (invoice, tenant, user))
    (hr : preparePaymentAttempt e.env.gateway tenant user invoice provider (e.env.clock 0) (e.env.erp 0) w.db =
      .ok (attemptId, db')) : e.BillsWithin owner w t db' := by
  obtain ⟨hinvoiceRow, htenantRow⟩ := requireInvoice_ok hinvoice
  have hget : w.db.invoice? invoice.id = some invoice := by
    rw [show invoice.id = invoiceId from key_of_get? hinvoiceRow]
    exact hinvoiceRow
  have hid := Db.tenant?_id htenantRow
  rw [← hid] at htenantRow
  obtain ⟨updated, db₁, checkout, hresync, hpayable, -, -, rfl⟩ := preparePaymentAttempt_ledger hr
  have hasked : tenant.id = t → ∀ item, (e.env.erp 0).Fetches item → e.MayAsk w t item := by
    intro _ item hfetches
    refine ⟨0, ?_⟩
    rw [he]
    exact hfetches
  obtain ⟨h₁, -⟩ := h.resync hasking (congrArg (Option.map Tenant.platformCustomerId) htenantRow) hget hid.symm hasked hresync
  have hledger := addPaymentAttempt_ledger db₁ tenant updated checkout (e.env.clock 0)
  refine Event.BillsWithin.congr (h₁.bills.attempt ⟨updated, resyncOneInvoice_row hget hresync⟩ fun row hrow _ hrowId => ?_)
    hledger.invoices hledger.attempts
  -- the attempt is for the invoice that the resync gave back
  obtain rfl : row = updated := by
    have hupdated := get?_of_mem h₁.apart.filed.ids hrow
    rw [show key row = updated.id from hrowId, show get? db₁.invoices updated.id = some updated from
      resyncOneInvoice_row hget hresync] at hupdated
    cases hupdated
    rfl
  unfold Event.MayMark
  rw [he]
  refine ⟨⟨invoice, tenant, user, db₁, hinvoice, hresync, hpayable⟩, ?_⟩
  unfold newPaymentAttempt
  dsimp only
  split
  · exact Or.inr rfl
  · exact Or.inl rfl

/-- The operations that reconcile invoices. -/
theorem reconciliations_op {v : Nat × Nat × DbSession} (h : v ∈ reconciliations w e) :
    (∃ invoiceId, e.op = .reconcileBillingInvoice invoiceId) ∨ (∃ tenantId, e.op = .resyncTenantSettlement tenantId) ∨
      e.op = .reconciliationCycle := by
  unfold reconciliations at h
  split at h
  · rename_i invoiceId he
    exact Or.inl ⟨invoiceId, he⟩
  · rename_i tenantId he
    exact Or.inr (Or.inl ⟨tenantId, he⟩)
  · rename_i he
    exact Or.inr (Or.inr he)
  · cases h

theorem Event.mayAsk_of_reconciliation {v : Nat × Nat × DbSession} {tick : Nat} {item : ErpItem}
    (h : v ∈ reconciliations w e) (hfetches : (e.env.erp tick).Fetches item) : e.MayAsk w t item := by
  refine ⟨tick, ?_⟩
  rcases reconciliations_op h with ⟨invoiceId, he⟩ | ⟨tenantId, he⟩ | he
  · rw [he]
    exact Or.inr hfetches
  · rw [he]
    exact Or.inr hfetches
  · rw [he]
    exact Or.inr hfetches

theorem Event.mayMark_of_reconciliation {v : Nat × Nat × DbSession} (h : v ∈ reconciliations w e) (row : BillingInvoice)
    (status : AttemptStatus) : e.MayMark w t row status ↔
      w.db.attemptsOf row.id ≠ [] ∧ status = if reconciledInvoiceIsSettled row then .paid else .reconciliationRequired := by
  unfold Event.MayMark
  rcases reconciliations_op h with ⟨invoiceId, he⟩ | ⟨tenantId, he⟩ | he
  · rw [he]
  · rw [he]
  · rw [he]

/-- A reconciliation of one of a tenant's invoices. -/
theorem Event.LedgerWithin.reconciled {tenantId invoiceId : Nat} {s : DbSession}
    {r : InvoiceReconciliationResult × Option String} (hasking : e.Asking owner w) (h : e.LedgerWithin owner w t s.work)
    (hvisit : (tenantId, invoiceId, s) ∈ reconciliations w e) (hbelongs : InvoicesBelong [invoiceId] tenantId s.work)
    (hr : reconcileInvoice tenantId invoiceId (e.env.clock s.tick) (e.env.erp s.tick) s.work = .ok (r, db')) :
    e.BillsWithin owner w t db' := by
  obtain ⟨result, email⟩ := r
  obtain ⟨tenant, invoice, updated, db₁, htenant, hinvoice, hresync, hmarks⟩ := reconcileInvoice_ledger hr
  have hrow : s.work.invoice? invoice.id = some invoice := by
    rw [show invoice.id = invoiceId from key_of_get? hinvoice]
    exact hinvoice
  obtain rfl := Db.tenant?_id htenant
  have hown : invoice.tenantId = tenant.id := hbelongs invoiceId (List.mem_singleton_self _) invoice hinvoice
  obtain ⟨h₁, hupdatedTenant⟩ := h.resync hasking (congrArg (Option.map Tenant.platformCustomerId) htenant) hrow hown
    (fun _ _ => mayAsk_of_reconciliation hvisit) hresync
  rcases hmarks with hsame | ⟨attempt, marked, hlatest, ⟨hmarked, hstatus⟩, hsame⟩
  · exact h₁.bills.congr hsame.invoices hsame.attempts
  · refine Event.BillsWithin.congr ?_ hsame.invoices hsame.attempts
    have hupdatedRow : db₁.invoice? updated.id = some updated := resyncOneInvoice_row hrow hresync
    obtain ⟨hmem, hfor⟩ := List.mem_filter.1 (mem_of_latestBy hlatest)
    have hid : attempt.billingInvoiceId = updated.id := of_decide_eq_true hfor
    refine h₁.bills.mark h₁.attempts.ids hmem hmarked fun row hrow' hrowTenant hrowId => ?_
    obtain rfl : row = updated := by
      have hget := get?_of_mem h₁.apart.filed.ids hrow'
      rw [show key row = updated.id from hrowId.trans hid, show get? db₁.invoices updated.id = some updated from
        hupdatedRow] at hget
      cases hget
      rfl
    refine (mayMark_of_reconciliation hvisit row marked.status).2 ⟨fun hempty => ?_, hstatus⟩
    -- an attempt there is was there before the step, or another was when it was marked
    rcases h₁.bills.tries row hrow' hrowTenant with hsameAttempts | ⟨⟨mark, other, -, hother, hmay⟩, -⟩
    · have hattempt := mem_of_latestBy hlatest
      rw [hsameAttempts, hempty] at hattempt
      cases hattempt
    · refine ((mayMark_of_reconciliation hvisit other mark).1 hmay).1 ?_
      rw [hother]
      exact hempty

/-! ### Steps -/

/-- Every change of a step that asks the ERP keeps to what the step may bring. -/
theorem Change.ledgerWithin (hasking : e.Asking owner w) (hchange : Change w e db db') (h : e.LedgerWithin owner w t db) :
    e.LedgerWithin owner w t db' := by
  have happart := (apart_ledger hasking.asks hasking.respects).single hchange h.apart
  have hattempts := (attemptRows_ledger w e).single hchange h.attempts
  have hasks := hasking.asks
  -- the other operations do not ask the ERP
  have hnot : ∀ {op : Op}, e.op = op → op.asksErp = false → e.LedgerWithin owner w t db' := by
    intro op he hop
    rw [he, hop] at hasks
    cases hasks
  have hcreation : e.op.creation → e.LedgerWithin owner w t db' := fun ⟨_, _, _, _, _, he⟩ => hnot he rfl
  cases hchange with
  | created he => exact hcreation he
  | joined _ he => exact hcreation he
  | checkedOut he => exact hcreation he
  | renewed he => exact hnot he rfl
  | handled he hdelivered hcommit hcore hr => exact h.handled hasking he hdelivered hcommit hcore hr
  | @synced tenantId limit tick _ _ _ he hr =>
    refine h.sync hasking (fun ht item hlists => ⟨tick, ?_⟩) hr
    unfold Op.reconciles at he
    cases hop : e.op with
    | resyncTenantInvoices id limit => exact hlists
    | reconcileBillingInvoice id => exact Or.inl hlists
    | resyncTenantSettlement id => exact Or.inl hlists
    | reconciliationCycle => exact Or.inl hlists
    | _ =>
      rw [hop] at he
      exact he.elim
  | attempted he hinvoice hr => exact ⟨happart, hattempts, h.attempted hasking he hinvoice hr⟩
  | reconciled he hvisit hbelongs hr => exact ⟨happart, hattempts, h.reconciled hasking hvisit hbelongs hr⟩
  | expired he => exact hnot he rfl
  | moved he => rcases he with ⟨he, -⟩ | ⟨he, -⟩ | ⟨he, -⟩ <;> exact hnot he rfl
  | retried he => exact hnot he rfl
  | reminded _ _ he => exact hnot he rfl
  | escalated _ _ he => exact hnot he rfl
  | worked _ he =>
    obtain ⟨index, outside, running, he, -⟩ := he
    exact hnot he rfl
  | failing _ he =>
    obtain ⟨index, outside, running, he, -⟩ := he
    exact hnot he rfl

theorem follows_ledgerWithin (hasking : e.Asking owner w) : Follows (e.LedgerWithin owner w t) w e where
  core _ _ hcore h := h.congr ⟨Db.accounts_of_core hcore, Db.invoices_of_core hcore, Db.attempts_of_core hcore⟩
    (.of_tenants (Db.tenants_of_core hcore))
  flush now saved work hsaved hwork := ⟨hwork.apart.flush now,
    (attemptRows_ledger w e).flush now saved work hsaved.attempts hwork.attempts,
    hsaved.bills.flush now hasking hwork.bills⟩
  invoiceIds _ h := h.apart.filed.ids
  single _ _ hchange h := hchange.ledgerWithin hasking h

/-- The latest invoice of a tenant, when all that a step may bring the tenant satisfies `P`. -/
theorem Event.BillsWithin.latestStanding {P : InvoiceStanding × Option AttemptStatus → Prop} {time : Time}
    (hordered : w.db.InvoicesInOrder) (h : e.BillsWithin owner w t db) (hbefore : P (w.db.latestStanding t time))
    (hfits : ∀ row, e.MayBill owner w t row →
      (∀ best ∈ latestBillingInvoice (w.db.invoicesOf t), row.id = best.id → row.outranks best) ∧
      ((∀ best ∈ latestBillingInvoice (w.db.invoicesOf t), row.outranks best) →
        ∀ status, e.MayTry owner w t row.id status → P (invoiceStanding row status time, status))) :
    P (db.latestStanding t time) := by
  have hstill : ∀ best ∈ latestBillingInvoice (w.db.invoicesOf t), ∃ row ∈ db.invoicesOf t, row.id = best.id := by
    intro best hbest
    obtain ⟨hmem, htenant⟩ := List.mem_filter.1 (mem_of_latestBy hbest)
    obtain ⟨row, hrow, hsame⟩ := h.kept best.id best (get?_of_mem hordered.ids hmem)
    refine ⟨row, List.mem_filter.2 ⟨mem_of_get? hrow, decide_eq_true ?_⟩, key_of_get? hrow⟩
    rw [hsame]
    exact of_decide_eq_true htenant
  unfold Db.latestStanding
  cases hlatest : latestBillingInvoice (db.invoicesOf t) with
  | none =>
    have hnone : latestBillingInvoice (w.db.invoicesOf t) = none := by
      refine Option.eq_none_iff_forall_not_mem.2 fun best hbest => ?_
      obtain ⟨row, hmem, -⟩ := hstill best hbest
      rw [latestBy_eq_none.1 hlatest] at hmem
      cases hmem
    unfold Db.latestStanding at hbefore
    rw [hnone] at hbefore
    exact hbefore
  | some latest =>
    obtain ⟨hmem, htenant⟩ := List.mem_filter.1 (mem_of_latestBy hlatest)
    have hrow := h.rows latest hmem (of_decide_eq_true htenant)
    refine (hfits latest hrow).2 (fun best hbest => ?_) _ (h.tries latest hmem (of_decide_eq_true htenant)).latest
    -- the latest invoice there was is no earlier than it was, and the latest one comes after it
    obtain ⟨row, hrowMem, hid⟩ := hstill best hbest
    obtain ⟨hrowMem', hrowTenant⟩ := List.mem_filter.1 hrowMem
    have houtranks := (hfits row (h.rows row hrowMem' (of_decide_eq_true hrowTenant))).1 best hbest hid
    obtain ⟨hnotLater, hearlier⟩ := latestBillingInvoice_latest h.ordered hlatest row hrowMem
    unfold BillingInvoice.outranks at houtranks ⊢
    rcases houtranks with hlater | ⟨hdates, -⟩
    · rcases ltTimes3_conn _ latest.dates _ hlater with hlt | hlt
      · exact Or.inl hlt
      · rw [hnotLater] at hlt
        cases hlt
    · rw [hdates] at hnotLater hearlier
      rw [hid] at hearlier
      cases hlt : ltTimes3 best.dates latest.dates with
      | true => exact Or.inl rfl
      | false =>
        refine Or.inr ⟨eq_of_not_ltTimes3 hnotLater hlt, ?_⟩
        by_contra hafter
        rw [hearlier (Nat.lt_of_not_le hafter)] at hlt
        cases hlt

end

/-- The attempts for an invoice of a tenant are the tenant's. -/
theorem Db.WellKept.attemptsOf {db : Db} {t : Nat} {invoice : BillingInvoice} (h : db.WellKept)
    (hmem : invoice ∈ db.invoicesOf t) : db.attemptsOf invoice.id =
      (share (fun row => row.tenantId = t) db.attempts).filter fun row => row.billingInvoiceId = invoice.id := by
  obtain ⟨hrow, htenant⟩ := List.mem_filter.1 hmem
  unfold share
  rw [List.filter_filter]
  refine List.filter_congr fun attempt hattempt => ?_
  by_cases hfor : attempt.billingInvoiceId = invoice.id
  · obtain ⟨found, hfound, hsame⟩ := h.separate.attempts attempt hattempt
    rw [hfor, show db.invoice? invoice.id = some invoice from get?_of_mem h.filed.ids hrow] at hfound
    cases hfound
    rw [← hsame, htenant, Bool.and_true]
  · rw [decide_eq_false hfor, Bool.false_and]

/-- A tenant's bills are among its own rows. -/
theorem Db.Beside.latestStanding {db db' : Db} {t : Nat} (h : db.Beside t db') (hbefore : db.WellKept)
    (hafter : db'.WellKept) (time : Time) : db'.latestStanding t time = db.latestStanding t time := by
  have hinvoices : db'.invoicesOf t = db.invoicesOf t := h.invoices
  unfold Db.latestStanding
  rw [hinvoices]
  cases hlatest : latestBillingInvoice (db.invoicesOf t) with
  | none => rfl
  | some invoice =>
    have hmem := mem_of_latestBy hlatest
    dsimp only
    rw [hafter.attemptsOf (hinvoices ▸ hmem), hbefore.attemptsOf hmem, h.attempts]

/-! ### Rows that every run keeps -/

/-- Rows with unique ids, in which every invoice is filed under its tenant's subscription and the invoices stand in the order
in which they were added. -/
structure Db.Orderly (db : Db) : Prop where
  rows : db.PayingRows
  attempts : AttemptRows db
  exceptions : ExceptionsUnique db.exceptions
  invoices : db.InvoicesInOrder

theorem Db.Orderly.tidy {db : Db} (h : db.Orderly) (hkept : db.WellKept) : db.Tidy :=
  ⟨hkept, h.rows, h.attempts, h.exceptions⟩

/-- Rows without billing exceptions. -/
theorem Db.PayingRows.orderly {db : Db} (h : db.PayingRows) (hattempts : (db.attempts.map PaymentAttempt.id).Nodup)
    (hinvoices : db.InvoicesInOrder) (hexceptions : db.exceptions = []) : db.Orderly := by
  refine ⟨h, ⟨h.filed, hattempts⟩, ?_, hinvoices⟩
  rw [hexceptions]
  exact .nil

theorem invoicesInOrder_ledger (w : World) (e : Event) : LedgerInvariant Db.InvoicesInOrder w e where
  ids _ h := h.ids
  same _ _ hsame _ h := h.congr hsame.invoices
  customer _ _ _ hsame h := h.congr hsame.invoices
  flush _ _ _ _ h := h.congr rfl
  resynced _ _ _ _ _ _ h _ _ _ hr := h.resync hr
  settled _ _ settled h _ _ := h.put settled
  marked _ _ _ h _ _ := h.congr rfl
  synced _ _ _ _ _ _ h hr := h.sync hr
  attempted h _ _ _ _ _ _ _ _ _ hr := by
    obtain ⟨updated, db₁, checkout, hresync, -, -, -, rfl⟩ := preparePaymentAttempt_ledger hr
    exact (h.resync hresync).congr (addPaymentAttempt_ledger db₁ _ updated checkout _).invoices

theorem step_orderly {w : World} (e : Event) (h : w.db.Orderly) : (step w e).db.Orderly where
  rows := step_payingRows e h.rows
  attempts := step_attemptRows e h.attempts
  exceptions := (step_exceptions e h.rows.filed.ids h.exceptions).2.unique
  invoices := step_preserves ((invoicesInOrder_ledger w e).preserved h.invoices) h.invoices

/-- After a step that fits `P`, the latest invoice of a tenant satisfies `P` as it did before. -/
theorem step_latestStanding {P : InvoiceStanding × Option AttemptStatus → Prop} {w : World} {e : Event} {t : Nat}
    {time : Time} (h : w.db.Orderly) (hfits : e.Fits P t time w) (hbefore : P (w.db.latestStanding t time)) :
    P ((step w e).db.latestStanding t time) := by
  cases hasks : e.op.asksErp with
  | false =>
    have hledger := step_sameLedger (w := w) hasks
    rw [latestStanding_congr hledger.invoices hledger.attempts]
    exact hbefore
  | true =>
    obtain ⟨hkept, owner, hright, hrespects, hbills⟩ := hfits hasks
    have htidy := h.tidy hkept
    cases hconcerns : e.concerns w t with
    | false =>
      rw [(step_beside htidy hfits.keepsApart hconcerns).latestStanding hkept (step_wellKept hkept hfits.keepsApart).1]
      exact hbefore
    | true =>
      have hasking : e.Asking owner w := ⟨hasks, htidy, h.invoices, hright, hrespects⟩
      exact (step_follows (follows_ledgerWithin hasking) hasking.start).bills.latestStanding h.invoices hbefore
        (hbills hconcerns)

/-! ### A sync -/

/-- An invoice of a tenant that outranks the latest one is the latest one. -/
theorem eq_of_outranks {db : Db} {t : Nat} {row best : BillingInvoice} (hordered : db.InvoicesInOrder)
    (hbest : latestBillingInvoice (db.invoicesOf t) = some best) (hrow : row ∈ db.invoicesOf t)
    (houtranks : row.outranks best) : row = best := by
  obtain ⟨hnotLater, hearlier⟩ := latestBillingInvoice_latest hordered hbest row hrow
  rcases houtranks with hlater | ⟨hdates, hid⟩
  · rw [hnotLater] at hlater
    cases hlater
  · rcases Nat.lt_or_eq_of_le hid with hlt | hid
    · have hbefore := hearlier hlt
      rw [ltTimes3_asymm _ _ hbefore] at hnotLater
      rw [hdates] at hbefore
      have hnot := ltTimes3_asymm _ _ hbefore
      rw [hbefore] at hnot
      cases hnot
    · have hget := get?_of_mem hordered.ids (List.mem_filter.1 hrow).1
      rw [show key row = key best from hid,
        get?_of_mem hordered.ids (List.mem_filter.1 (mem_of_latestBy hbest)).1] at hget
      cases hget
      rfl

/-- A sync of a tenant's invoices fits `P` when the tenant's latest invoice satisfies it and so does every item that the ERP
lists for the tenant, filed in its row or in a new one. -/
theorem Event.fits_of_sync {P : InvoiceStanding × Option AttemptStatus → Prop} {w : World} {e : Event} {t limit : Nat}
    {time : Time} {owner : String → Nat} (he : e.op = .resyncTenantInvoices t limit) (hordered : w.db.InvoicesInOrder)
    (hkept : w.db.WellKept)
    (hright : ∀ invoice ∈ w.db.invoices, ∀ reference ∈ invoice.erpInvoiceId, owner reference = invoice.tenantId)
    (hrespects : ∀ tick, (e.env.erp tick).isConfigured = true → (e.env.erp tick).Respects owner w.db)
    (hbefore : P (w.db.latestStanding t time))
    (hitems : ∀ tick item, (e.env.erp tick).Lists item → owner item.reference = t →
      ∀ row tenant subscription account now, row.FilledBy tenant subscription account now item →
        ((∃ before ∈ w.db.invoices, row.entry = before.entry) ∨
          ∀ before ∈ w.db.invoices, before.id ≠ row.id ∧ before.erpInvoiceId ≠ row.erpInvoiceId) →
        let status := (latestPaymentAttempt (w.db.attemptsOf row.id)).map PaymentAttempt.status
        (∀ best ∈ latestBillingInvoice (w.db.invoicesOf t), row.id = best.id → row.outranks best) ∧
          P (invoiceStanding row status time, status)) : e.Fits P t time w := by
  intro _
  refine ⟨hkept, owner, hright, hrespects, fun _ row hrow => ?_⟩
  have hnone : handledEvent w e t = none := by
    unfold handledEvent
    rw [he]
  have hstatus : ∀ {status}, e.MayTry owner w t row.id status →
      status = (latestPaymentAttempt (w.db.attemptsOf row.id)).map PaymentAttempt.status := by
    rintro status (hsame | ⟨mark, ⟨other, -, -, hmark⟩, -⟩)
    · exact hsame
    · unfold Event.MayMark at hmark
      rw [he] at hmark
      cases hmark
  cases hrow with
  | asIs hmem htenant =>
    have hrow : row ∈ w.db.invoicesOf t := List.mem_filter.2 ⟨hmem, decide_eq_true htenant⟩
    refine ⟨fun best hbest hid => ?_, fun houtranks status hmay => ?_⟩
    · have hget := get?_of_mem hordered.ids hmem
      rw [show key row = key best from hid,
        get?_of_mem hordered.ids (List.mem_filter.1 (mem_of_latestBy hbest)).1] at hget
      cases hget
      exact Or.inr ⟨rfl, Nat.le_refl _⟩
    · rw [hstatus hmay]
      unfold Db.latestStanding at hbefore
      cases hlatest : latestBillingInvoice (w.db.invoicesOf t) with
      | none =>
        rw [latestBy_eq_none.1 hlatest] at hrow
        cases hrow
      | some best =>
        rw [hlatest] at hbefore
        obtain rfl := eq_of_outranks hordered hlatest hrow (houtranks best hlatest)
        exact hbefore
  | filed hasked howner hfilled hentry =>
    obtain ⟨tick, hasked⟩ := hasked
    rw [he] at hasked
    obtain ⟨hdates, hstands⟩ := hitems tick _ hasked howner row _ _ _ _ hfilled hentry
    refine ⟨hdates, fun _ status hmay => ?_⟩
    rw [hstatus hmay]
    exact hstands
  | settled _ hconfirmed =>
    rw [hnone] at hconfirmed
    cases hconfirmed

/-- A ledger of one tenant with the open invoice. -/
theorem Small.wellKept_of_open {db : Db} (hinvoices : db.invoices = [Small.invoice])
    (hids : (db.accounts.map BillingAccount.id).Nodup) (haccount : (get? db.accounts 1).map BillingAccount.tenantId = some 1)
    (hattempts : ∀ attempt ∈ db.attempts, attempt.billingInvoiceId = 1 ∧ attempt.tenantId = 1) : db.WellKept := by
  have hrow : ∀ invoice ∈ db.invoices, invoice = Small.invoice := by
    intro invoice hmem
    rw [hinvoices] at hmem
    exact List.mem_singleton.1 hmem
  refine ⟨⟨?_, ?_, ?_⟩, hids, fun invoice hmem => ?_, ⟨fun attempt hmem => ?_, fun invoice hmem => ?_⟩⟩
  · rw [hinvoices]
    decide
  · rw [hinvoices]
    decide
  · rw [hinvoices]
    decide
  · obtain rfl := hrow invoice hmem
    exact ⟨"INV-1", rfl, by decide, by decide +kernel⟩
  · obtain ⟨hinvoice, htenant⟩ := hattempts attempt hmem
    refine ⟨Small.invoice, ?_, htenant.symm⟩
    rw [hinvoice, Db.invoice?, hinvoices]
    rfl
  · obtain rfl := hrow invoice hmem
    exact Option.map_eq_some_iff.1 haccount

theorem Small.openItem_listed {n tick : Nat} {item : ErpItem} (h : ((Small.openErpAt n).erp tick).Lists item) :
    item = Small.openItem := by
  obtain ⟨-, customerId, limit, items, hitems, hmem⟩ := h
  rw [← Except.ok.inj hitems] at hmem
  exact List.mem_singleton.1 hmem

/-- Columns of an invoice of which nothing is paid, nothing lapsed and nothing is voided. -/
theorem invoiceStanding_outstanding {row : BillingInvoice} {status : Option AttemptStatus} (time : Time)
    (hunpaid : status ≠ some .paid) (hstatus : row.invoiceStatus = .paymentPending) (hpaid : row.paidAt = none)
    (hdue : row.dueDate = none) (hamountDue : 0 < row.amountDue) (hamountPaid : row.amountPaid = 0) :
    invoiceStanding row status time = .outstanding := by
  have hdue' : ¬row.amountDue ≤ 0 := by omega
  unfold invoiceStanding BillingInvoice.hasPaidColumns BillingInvoice.hasLapsed
  rw [hstatus, hpaid, hdue, hamountPaid, if_neg hunpaid]
  simp [voidedInvoiceStatuses, hdue']

/-- A row that the item of the open invoice fills. -/
theorem Small.openItem_fills {row : BillingInvoice} {tenant : Tenant} {subscription : Option Subscription}
    {account : BillingAccount} {now : Time} {status : Option AttemptStatus} (time : Time) (hunpaid : status ≠ some .paid)
    (h : row.FilledBy tenant subscription account now Small.openItem) :
    row.dueDate = none ∧ row.issuedAt = none ∧ invoiceStanding row status time = .outstanding := by
  obtain ⟨due, paid, hamounts, hfill⟩ := h
  have heq : Small.openItem.amounts = .ok (5000, 0) := by decide +kernel
  rw [heq] at hamounts
  cases hamounts
  have hdue : (0 : Int) < 5000 := by decide
  rw [hfill]
  exact ⟨rfl, rfl, invoiceStanding_outstanding time hunpaid rfl rfl rfl hdue rfl⟩

/-- A sync that lists the open invoice again fits what an open invoice satisfies. -/
theorem Small.openSync_fits {P : InvoiceStanding × Option AttemptStatus → Prop} {w : World} {n : Nat} {time : Time}
    (hkept : w.db.WellKept) (hinvoices : w.db.invoices = [Small.invoice]) (htenants : ∀ tenant ∈ w.db.tenants, tenant.id = 1)
    (hunpaid : (latestPaymentAttempt (w.db.attemptsOf 1)).map PaymentAttempt.status ≠ some .paid)
    (hopen : P (.outstanding, (latestPaymentAttempt (w.db.attemptsOf 1)).map PaymentAttempt.status)) :
    Event.Fits P 1 time w ⟨Small.openErpAt n, .resyncTenantInvoices 1 20⟩ := by
  have honly : ∀ invoice ∈ w.db.invoices, invoice = Small.invoice := by
    intro invoice hmem
    rw [hinvoices] at hmem
    exact List.mem_singleton.1 hmem
  have hmem : Small.invoice ∈ w.db.invoices := by
    rw [hinvoices]
    exact List.mem_singleton_self _
  have hlatest : latestBillingInvoice (w.db.invoicesOf 1) = some Small.invoice := by
    unfold Db.invoicesOf
    rw [hinvoices]
    rfl
  have hright : ∀ invoice ∈ w.db.invoices, ∀ reference ∈ invoice.erpInvoiceId, (fun _ : String => 1) reference =
      invoice.tenantId := by
    intro invoice hrow reference _
    rw [honly invoice hrow]
    rfl
  refine Event.fits_of_sync rfl ?_ hkept hright (fun tick _ => ⟨?_, fun _ _ _ _ => rfl⟩) ?_ ?_
  · unfold Db.InvoicesInOrder
    rw [hinvoices]
    exact List.pairwise_singleton _ _
  · intro id tenant hrow customerId _ limit items _ item _ _
    rw [← Db.tenant?_id hrow]
    exact (htenants tenant (mem_of_get? hrow)).symm
  · unfold Db.latestStanding
    rw [hlatest]
    dsimp only
    rw [show Small.invoice.id = 1 from rfl, invoiceStanding_outstanding time hunpaid rfl rfl rfl (by decide) rfl]
    exact hopen
  · intro tick item hlists _ row tenant subscription account now hfilled hentry
    obtain rfl := Small.openItem_listed hlists
    -- the item has the invoice's reference, so it is filed in its row
    have hsame : row.entry = Small.invoice.entry := by
      rcases hentry with ⟨before, hbefore, hentry⟩ | hnew
      · rw [hentry, honly before hbefore]
      · exact absurd hfilled.reference.symm (hnew Small.invoice hmem).2
    have hid : row.id = 1 := congrArg Prod.fst hsame
    have hcreated : row.createdAt = Small.invoice.createdAt := congrArg (fun entry => entry.2.1) hsame
    obtain ⟨hdue, hissued, hstands⟩ := Small.openItem_fills time hunpaid hfilled
    dsimp only
    rw [hid]
    refine ⟨fun best hbest _ => ?_, ?_⟩
    · obtain rfl := Option.some.inj (hlatest.symm.trans hbest)
      refine Or.inr ⟨?_, Nat.le_of_eq hid⟩
      unfold BillingInvoice.dates
      rw [hdue, hissued, hcreated]
      rfl
    · rw [hstands]
      exact hopen

end ControlPlane
