import ControlPlane.OneCheckout
import ControlPlane.SubscriptionMoves
import ControlPlane.TenantShares

/-!
# Tenants beside each other

A request, an event or a task concerns one tenant (`Event.concerns`), and a cycle all of them.  A step leaves the share of
every tenant that it does not concern, as long as the ERP answers no tenant with a reference of another.
-/

namespace ControlPlane

open Table Session Runs

/-! ### The changes of a step -/

theorem attemptRows_ledger (w : World) (e : Event) : LedgerInvariant AttemptRows w e where
  ids _ h := h.filed.ids
  same _ _ hsame _ h := ⟨h.filed.congr hsame.invoices, hsame.attempts ▸ h.ids⟩
  customer _ _ _ hsame h := ⟨h.filed.congr hsame.invoices, hsame.attempts ▸ h.ids⟩
  flush now saved work _ h := by
    refine ⟨h.filed.congr rfl, ?_⟩
    rw [Db.map_attempts_flush now saved work fun _ _ => rfl]
    exact h.ids
  resynced _ _ _ _ _ _ h _ _ _ hresync := by
    refine ⟨h.filed.resync hresync, ?_⟩
    obtain ⟨accounts, invoices, rfl⟩ := resyncOneInvoice_frame hresync
    exact h.ids
  settled _ _ _ h hrow hsettled := ⟨h.filed.put hrow hsettled.id hsettled.reference hsettled.number, h.ids⟩
  marked db _ marked h _ _ := ⟨h.filed.congr rfl, (map_key_put db.attempts marked).symm ▸ h.ids⟩
  synced tick tenantId limit db u db' h hr := by
    refine ⟨(invoicesFiled_ledger w e).synced tick tenantId limit db u db' h.filed hr, ?_⟩
    obtain ⟨accounts, invoices, rfl⟩ := syncForTenant_frame hr
    exact h.ids
  attempted h invoiceId provider invoice tenant owner hop hinvoice attemptId db' hr := by
    refine ⟨(invoicesFiled_ledger w e).attempted h.filed invoiceId provider invoice tenant owner hop hinvoice attemptId db' hr,
      ?_⟩
    obtain ⟨updated, db₁, checkout, hresync, -, -, -, rfl⟩ := preparePaymentAttempt_ledger hr
    rw [(addPaymentAttempt_ledger db₁ tenant updated checkout (e.env.clock 0)).attempts]
    obtain ⟨accounts, invoices, rfl⟩ := resyncOneInvoice_frame hresync
    exact nodup_insert_fresh h.ids rfl

/-- Only a reconciliation writes exceptions. -/
theorem Change.exceptions {w : World} {e : Event} {db db' : Db} (hchange : Change w e db db')
    (h : ExceptionsUnique db.exceptions) : ExceptionsUnique db'.exceptions := by
  have hsame : db'.exceptions = db.exceptions → ExceptionsUnique db'.exceptions := fun heq => heq.symm ▸ h
  cases hchange with
  | created _ hr =>
    obtain ⟨organizations, tenants, plans, subscriptions, rfl⟩ := prepareTenant_frame hr
    exact h
  | checkedOut _ hr =>
    obtain ⟨tenants, subscriptions, rfl⟩ := recordCheckout_frame hr
    exact h
  | renewed _ hr =>
    obtain ⟨tenants, plans, subscriptions, rfl⟩ := prepareRenewedCheckout_frame hr
    exact h
  | handled _ _ _ _ hr =>
    obtain ⟨tenants, plans, subscriptions, accounts, invoices, attempts, events, rfl⟩ := eventBody_frame hr
    exact h
  | synced _ hr =>
    obtain ⟨accounts, invoices, rfl⟩ := syncForTenant_frame hr
    exact h
  | attempted _ _ hr => exact hsame (preparePaymentAttempt_exceptions hr)
  | reconciled _ _ _ hr => exact ((reconcileInvoice_exceptions hr).1 h).unique
  | expired _ hr =>
    obtain ⟨tenants, subscriptions, rfl⟩ := expireTrial_frame hr
    exact h
  | moved _ hr =>
    obtain ⟨tenant, -, hr⟩ := bind_eq_ok.1 hr
    obtain ⟨moved, -, hr⟩ := bind_eq_ok.1 hr
    cases hr
    exact h
  | retried _ hr =>
    obtain ⟨tenant, -, hr⟩ := bind_eq_ok.1 hr
    obtain ⟨u, -, hr⟩ := bind_eq_ok.1 hr
    obtain ⟨moved, -, hr⟩ := bind_eq_ok.1 hr
    cases hr
    exact h
  | _ => exact h

/-! ### Whom a step concerns -/

/-- Whether a step concerns the tenant `t`: the request names it, or an invoice of it, the delivered event is for it, the task
is one of its tasks, or the step is a cycle, which goes over all tenants. -/
def Event.concerns (w : World) (e : Event) (t : Nat) : Bool :=
  match e.op with
  | .createTenant .. => fresh w.db.tenants = t
  | .renewCheckout id | .resyncTenantInvoices id _ | .resyncTenantSettlement id | .backupTenant id | .restoreTenant id _
  | .deleteTenant id | .retryProvisioning id _ | .suspendTenant id | .unsuspendTenant id => id = t
  | .webhook delivery =>
    match delivery.parsed with
    | .ok event => (eventTenant (delivery.provider e.env) event w.db).any fun tenant => tenant.id = t
    | .error _ => false
  | .createPaymentAttempt invoiceId _ | .reconcileBillingInvoice invoiceId =>
    (w.db.invoice? invoiceId).any fun invoice => invoice.tenantId = t
  | .reconciliationCycle | .trialCycle _ | .dunningCycle _ => true
  | .startTask _ => false
  | .taskPhase index _ => (w.running[index]?).any fun running => running.task.tenantId = t

/-- A creation concerns the tenant that it creates. -/
theorem concerns_creation {w : World} {e : Event} {t : Nat} (he : e.op.creation) (ht : e.concerns w t = false) :
    fresh w.db.tenants ≠ t := by
  obtain ⟨ownerId, subdomain, companyName, plan, app, hop⟩ := he
  unfold Event.concerns at ht
  rw [hop] at ht
  exact of_decide_eq_false ht

theorem concerns_reconciles {w : World} {e : Event} {t tenantId : Nat} (he : e.op.reconciles w tenantId)
    (ht : e.concerns w t = false) : e.op.asksErp = true ∧ tenantId ≠ t := by
  unfold Event.concerns at ht
  unfold Op.reconciles at he
  cases hop : e.op with
  | resyncTenantInvoices id limit =>
    rw [hop] at he ht
    obtain rfl : id = tenantId := he
    exact ⟨rfl, of_decide_eq_false ht⟩
  | resyncTenantSettlement id =>
    rw [hop] at he ht
    obtain rfl : id = tenantId := he
    exact ⟨rfl, of_decide_eq_false ht⟩
  | reconcileBillingInvoice invoiceId =>
    rw [hop] at he ht
    obtain ⟨invoice, hrow, rfl⟩ := Option.map_eq_some_iff.1 he
    dsimp only at ht
    rw [hrow] at ht
    exact ⟨rfl, of_decide_eq_false ht⟩
  | reconciliationCycle =>
    rw [hop] at ht
    cases ht
  | _ =>
    rw [hop] at he
    exact he.elim

theorem concerns_asks {w : World} {e : Event} {t tenantId : Nat} {status : TenantStatus} (he : e.op.asks tenantId status)
    (ht : e.concerns w t = false) : tenantId ≠ t := by
  unfold Event.concerns at ht
  rcases he with ⟨hop, -⟩ | ⟨hop, -⟩ | ⟨hop, -⟩
  · rw [hop] at ht
    exact of_decide_eq_false ht
  · rw [hop] at ht
    exact of_decide_eq_false ht
  · rw [hop] at ht
    exact of_decide_eq_false ht

theorem concerns_runs {w : World} {e : Event} {t : Nat} {task : Task} (he : e.op.runs w task)
    (ht : e.concerns w t = false) : task.tenantId ≠ t := by
  obtain ⟨index, outside, running, hop, hrow, rfl⟩ := he
  unfold Event.concerns at ht
  rw [hop] at ht
  dsimp only at ht
  rw [hrow] at ht
  exact of_decide_eq_false ht

/-! ### Steps -/

/-- What the rows of a session have within a step that does not concern `t`. -/
structure BesideWithin (owner : String → Nat) (w : World) (e : Event) (t : Nat) (db : Db) : Prop where
  beside : w.db.Beside t db
  rows : db.PayingRows
  attempts : AttemptRows db
  exceptions : ExceptionsUnique db.exceptions
  apart : e.op.asksErp = true → ApartWithin owner w db

theorem Change.beside {owner : String → Nat} {w : World} {e : Event} {t : Nat} {db db' : Db}
    (hchange : Change w e db db') (h : BesideWithin owner w e t db)
    (herp : e.op.asksErp = true → ∀ tick, (e.env.erp tick).isConfigured = true → (e.env.erp tick).Respects owner w.db)
    (ht : e.concerns w t = false) : db.Beside t db' := by
  have hU := h.rows.unique
  have htenants : ∀ {db : Db} {row : Tenant}, row.id ≠ t → db.Beside t (db.putTenant row) := fun hne =>
    ⟨share_putTenant hne, rfl, rfl, rfl, rfl, rfl, rfl, rfl⟩
  have hmodify : ∀ {db : Db} (id : Nat) (f : Tenant → Tenant), (∀ tenant, (f tenant).id = tenant.id) → id ≠ t →
      db.Beside t (db.modifyTenant id f) := by
    intro db id f hid hne
    cases hrow : db.tenant? id with
    | none =>
      rw [Db.modifyTenant_of_none hrow]
      exact .refl t _
    | some tenant =>
      rw [Db.modifyTenant_of_tenant? hrow]
      refine htenants ?_
      rw [hid, Db.tenant?_id hrow]
      exact hne
  cases hchange with
  | created he hr =>
    have hne := concerns_creation he ht
    obtain ⟨row, hwritten, -⟩ := prepareTenant_subscription hr
    obtain ⟨tenant, _, _, _, _, _, hfresh, ⟨hid, -⟩, hsub⟩ := prepareTenant_parts hr
    rw [hfresh] at hwritten hid
    have hsubscriptions := share_written hwritten hU.ids hne
    obtain ⟨-, -, subscriptions, rfl⟩ := upsertSubscriptionForTenant_ok hsub
    refine ⟨share_insert ?_, rfl, hsubscriptions, rfl, rfl, rfl, rfl, rfl⟩
    rw [hid]
    exact decide_eq_false hne
  | joined userId he =>
    exact ⟨rfl, share_insert (decide_eq_false (concerns_creation he ht)), rfl, rfl, rfl, rfl, rfl, rfl⟩
  | checkedOut he hr =>
    have hne := concerns_creation he ht
    obtain ⟨row, hwritten⟩ := recordCheckout_subscription hr
    obtain ⟨tenant, htenant, -, hmoved⟩ := recordCheckout_ok hr
    rw [Db.tenant?_id htenant] at hmoved
    have hsubscriptions := share_written hwritten hU.ids hne
    have hrows := share_moved hmoved hne
    obtain ⟨tenants, subscriptions, rfl⟩ := recordCheckout_frame hr
    exact ⟨hrows, rfl, hsubscriptions, rfl, rfl, rfl, rfl, rfl⟩
  | @renewed tenantId u _ he hr =>
    have hne : tenantId ≠ t := by
      unfold Event.concerns at ht
      rw [he] at ht
      exact of_decide_eq_false ht
    obtain ⟨row, hwritten, -⟩ := prepareRenewedCheckout_subscription hr
    obtain ⟨tenant, htenant, -, hmoved⟩ := prepareRenewedCheckout_ok hr
    rw [Db.tenant?_id htenant] at hmoved
    have hsubscriptions := share_written hwritten hU.ids hne
    have hrows := share_moved hmoved hne
    obtain ⟨tenants, plans, subscriptions, rfl⟩ := prepareRenewedCheckout_frame hr
    exact ⟨hrows, rfl, hsubscriptions, rfl, rfl, rfl, rfl, rfl⟩
  | handled he hdelivered hcommit hcore hr =>
    have hasks : e.op.asksErp = true := by
      rw [he]
      rfl
    refine (h.apart hasks).event (herp hasks _) hU h.attempts.ids hr fun tenant htenant => ?_
    rw [eventTenant_of_core hcore] at htenant
    unfold Event.concerns at ht
    rw [he] at ht
    dsimp only at ht
    rw [parsed_of_delivered hdelivered] at ht
    dsimp only at ht
    rw [htenant] at ht
    exact of_decide_eq_false ht
  | synced he hr =>
    obtain ⟨hasks, hne⟩ := concerns_reconciles he ht
    exact (h.apart hasks).sync (herp hasks _) hr hne
  | @attempted invoiceId attemptId provider invoice tenant user _ he hinvoice hr =>
    have hasks : e.op.asksErp = true := by
      rw [he]
      rfl
    have happart := h.apart hasks
    obtain ⟨hinvoiceRow, htenantRow⟩ := requireInvoice_ok hinvoice
    have hid := Db.tenant?_id htenantRow
    have hne : tenant.id ≠ t := by
      rw [hid]
      unfold Event.concerns at ht
      rw [he] at ht
      dsimp only at ht
      rw [hinvoiceRow] at ht
      exact of_decide_eq_false ht
    have hget : w.db.invoice? invoice.id = some invoice := by
      rw [show invoice.id = invoiceId from key_of_get? hinvoiceRow]
      exact hinvoiceRow
    rw [← hid] at htenantRow
    obtain ⟨updated, db₁, checkout, hresync, -, -, -, rfl⟩ := preparePaymentAttempt_ledger hr
    have hcustomer := congrArg (Option.map Tenant.platformCustomerId) htenantRow
    obtain ⟨hbeside, -, -⟩ := happart.resync (herp hasks 0) hcustomer hget hid.symm hresync hne
    have hU₁ : db₁.SubscriptionsUnique := by
      obtain ⟨accounts, invoices, rfl⟩ := resyncOneInvoice_frame hresync
      exact hU.congr rfl
    refine hbeside.trans ?_
    have hrows := share_moved (addPaymentAttempt_moved db₁ tenant updated checkout (e.env.clock 0)) hne
    have hsubscriptions : share (fun row => row.tenantId = t)
        (addPaymentAttempt db₁ tenant updated checkout (e.env.clock 0)).subscriptions =
        share (fun row => row.tenantId = t) db₁.subscriptions := by
      rcases addPaymentAttempt_subscription db₁ tenant updated checkout (e.env.clock 0) with
        hsame | ⟨s, row, -, -, hwritten⟩
      · rw [hsame]
      · exact share_written hwritten hU₁.ids hne
    revert hrows hsubscriptions
    unfold addPaymentAttempt
    dsimp only
    split
    · exact fun hrows hsubscriptions => ⟨hrows, rfl, hsubscriptions, rfl, rfl, share_insert (decide_eq_false hne),
        share_insert (decide_eq_false hne), rfl⟩
    · exact fun hrows hsubscriptions => ⟨hrows, rfl, hsubscriptions, rfl, rfl, share_insert (decide_eq_false hne),
        share_insert (decide_eq_false hne), rfl⟩
  | reconciled he hvisit hbelongs hr =>
    obtain ⟨hasks, hne⟩ := concerns_reconciles he ht
    exact (h.apart hasks).reconcile (herp hasks _) h.rows h.attempts.ids h.exceptions.keys hbelongs hr hne
  | expired he hr =>
    unfold Event.concerns at ht
    rw [he] at ht
    cases ht
  | moved he hr =>
    have hne := concerns_asks he ht
    obtain ⟨tenant, htenant, hr⟩ := bind_eq_ok.1 hr
    obtain ⟨moved, hmoved, hr⟩ := bind_eq_ok.1 hr
    obtain ⟨-, rfl⟩ := transitionTenantStatus_ok (asConflict_ok hmoved)
    rw [← Db.tenant?_id (requireTenant_ok htenant)] at hne
    cases hr
    exact htenants hne
  | @retried tenantId email now client u _ _ he hr =>
    have hne : tenantId ≠ t := by
      unfold Event.concerns at ht
      rw [he] at ht
      exact of_decide_eq_false ht
    obtain ⟨tenant, htenant, hr⟩ := bind_eq_ok.1 hr
    obtain ⟨u, -, hr⟩ := bind_eq_ok.1 hr
    obtain ⟨moved, hmoved, hr⟩ := bind_eq_ok.1 hr
    obtain ⟨-, rfl⟩ := transitionTenantStatus_ok hmoved
    rw [← Db.tenant?_id (requireTenant_ok htenant)] at hne
    cases hr
    exact htenants hne
  | reminded tenantId now he =>
    unfold Event.concerns at ht
    rw [he] at ht
    cases ht
  | escalated tenantId now he =>
    unfold Event.concerns at ht
    rw [he] at ht
    cases ht
  | worked stamp he hrow hr =>
    have hne := concerns_runs he ht
    obtain ⟨-, rfl⟩ := transitionTenantStatus_ok hr
    rw [← Db.tenant?_id hrow] at hne
    exact htenants hne
  | failing customerId he => exact hmodify _ _ (fun _ => rfl) (concerns_runs he ht)

/-- Rows that are as they were committed are not stamped. -/
theorem Db.Beside.flush {t : Nat} {db saved work : Db} (now : Time) (hsaved : db.Beside t saved) (hwork : db.Beside t work) :
    db.Beside t (Db.flush now saved work) := by
  have htenants : share (fun row => row.id = t) (Db.flush now saved work).tenants =
      share (fun row => row.id = t) work.tenants := by
    refine share_map (fun a _ => ?_) fun a ha hin => ?_
    · rcases Db.onUpdate_eq_or Tenant.updatedAt (fun u (r : Tenant) => { r with updatedAt := u }) now saved.tenants a with
        heq | heq
      · rw [heq]
      · rw [heq]
    · have hmem : a ∈ share (fun row : Tenant => row.id = t) saved.tenants := by
        rw [hsaved.tenants, ← hwork.tenants]
        exact mem_share.2 ⟨ha, hin⟩
      exact Db.onUpdate_of_mem (mem_share.1 hmem).1
  have hattempts : share (fun row => row.tenantId = t) (Db.flush now saved work).attempts =
      share (fun row => row.tenantId = t) work.attempts := by
    refine share_map (fun a _ => ?_) fun a ha hin => ?_
    · obtain ⟨stamp, heq⟩ := Db.onUpdate_attempt now saved.attempts a
      rw [heq]
    · have hmem : a ∈ share (fun row : PaymentAttempt => row.tenantId = t) saved.attempts := by
        rw [hsaved.attempts, ← hwork.attempts]
        exact mem_share.2 ⟨ha, hin⟩
      exact Db.onUpdate_of_mem (mem_share.1 hmem).1
  exact hwork.trans ⟨htenants, rfl, rfl, rfl, rfl, hattempts, rfl, rfl⟩

theorem Db.Beside.core {t : Nat} {db db' db'' : Db} (h : db.Beside t db') (hcore : db''.core = db'.core) :
    db.Beside t db'' := by
  have hmemberships : db''.memberships = db'.memberships :=
    show db''.core.memberships = db'.core.memberships from congrArg Db.memberships hcore
  have hevents : db''.events = db'.events := show db''.core.events = db'.core.events from congrArg Db.events hcore
  refine h.trans ⟨?_, ?_, ?_, ?_, ?_, ?_, ?_, ?_⟩
  · rw [Db.tenants_of_core hcore]
  · rw [hmemberships]
  · rw [Db.subscriptions_of_core hcore]
  · rw [Db.accounts_of_core hcore]
  · rw [Db.invoices_of_core hcore]
  · rw [Db.attempts_of_core hcore]
  · rw [hevents]
  · rw [Db.exceptions_of_core hcore]

theorem follows_beside {owner : String → Nat} {w : World} {e : Event} {t : Nat}
    (herp : e.op.asksErp = true → ∀ tick, (e.env.erp tick).isConfigured = true → (e.env.erp tick).Respects owner w.db)
    (ht : e.concerns w t = false) : Follows (BesideWithin owner w e t) w e where
  core db db' hcore h := by
    have hattempts : AttemptRows db' := by
      refine ⟨h.attempts.filed.congr (Db.invoices_of_core hcore), ?_⟩
      rw [Db.attempts_of_core hcore]
      exact h.attempts.ids
    have hexceptions : ExceptionsUnique db'.exceptions := by
      rw [Db.exceptions_of_core hcore]
      exact h.exceptions
    refine ⟨h.beside.core hcore, h.rows.congr (Db.invoices_of_core hcore) (Db.subscriptions_of_core hcore), hattempts,
      hexceptions, fun hasks => (h.apart hasks).congr ?_ (.of_tenants (Db.tenants_of_core hcore))⟩
    exact ⟨Db.accounts_of_core hcore, Db.invoices_of_core hcore, Db.attempts_of_core hcore⟩
  flush now saved work hsaved hwork :=
    ⟨hsaved.beside.flush now hwork.beside, hwork.rows.congr rfl rfl,
      (attemptRows_ledger w e).flush now saved work hsaved.attempts hwork.attempts, hwork.exceptions,
      fun hasks => (hwork.apart hasks).flush now⟩
  invoiceIds db h := h.rows.filed.ids
  single db db' hchange h := by
    refine ⟨h.beside.trans (hchange.beside h herp ht), hchange.payingRows h.rows,
      (attemptRows_ledger w e).single hchange h.attempts, hchange.exceptions h.exceptions, fun hasks => ?_⟩
    exact (apart_ledger hasks (herp hasks)).single hchange (h.apart hasks)

/-! ### Runs -/

/-- Rows whose ids are unique, with every invoice filed under its tenant and its tenant's subscription. -/
structure Db.Tidy (db : Db) : Prop where
  wellKept : db.WellKept
  rows : db.PayingRows
  attempts : AttemptRows db
  exceptions : ExceptionsUnique db.exceptions

theorem step_tidy {w : World} {e : Event} (h : w.db.Tidy) (hapart : ErpKeepsApart w e) : (step w e).db.Tidy where
  wellKept := (step_wellKept h.wellKept hapart).1
  rows := step_payingRows e h.rows
  attempts := step_attemptRows e h.attempts
  exceptions := (step_exceptions e h.rows.filed.ids h.exceptions).2.unique

/-- A step leaves every tenant that it does not concern. -/
theorem step_beside {w : World} {e : Event} {t : Nat} (h : w.db.Tidy) (hapart : ErpKeepsApart w e)
    (ht : e.concerns w t = false) : w.db.Beside t (step w e).db := by
  have hstep : ∀ owner : String → Nat, (e.op.asksErp = true → ApartWithin owner w w.db ∧
      ∀ tick, (e.env.erp tick).isConfigured = true → (e.env.erp tick).Respects owner w.db) →
        w.db.Beside t (step w e).db := fun owner howner =>
    (step_follows (follows_beside (fun hasks => (howner hasks).2) ht)
      ⟨.refl t w.db, h.rows, h.attempts, h.exceptions, fun hasks => (howner hasks).1⟩).beside
  cases hasks : e.op.asksErp with
  | false =>
    refine hstep (fun _ => 0) fun hasks' => ?_
    rw [hasks] at hasks'
    cases hasks'
  | true =>
    obtain ⟨owner, hright, herp⟩ := hapart hasks
    refine hstep owner fun _ => ⟨?_, herp⟩
    have hkept := h.wellKept
    refine ⟨hkept.filed, ⟨hkept.filed.ids, hkept.accountIds, fun invoice hmem => ⟨?_, hkept.separate.invoices invoice hmem⟩⟩,
      hkept.separate.attempts, .of_tenants rfl, .refl _⟩
    obtain ⟨reference, href, hne, hstrip⟩ := hkept.references invoice hmem
    exact ⟨reference, href, hne, hstrip, hright invoice hmem reference href⟩

/-- Over every run in which the ERP answers no tenant with a reference of another and no step concerns the tenant `t`, all
that the platform knows of `t` stays as it is: its row, its members, its subscription and its billing records. -/
theorem tenant_isolated {w : World} {es : List Event} {t : Nat} (h : w.db.Tidy)
    (hsteps : Steps step (fun w e => ErpKeepsApart w e ∧ e.concerns w t = false) w es) :
    Always step (fun w' => w'.db.shareOf t = w.db.shareOf t) w es := by
  have hrun : Always step (fun w' => w'.db.Tidy ∧ w.db.Beside t w'.db) w es := by
    refine Always.of_steps (I := fun w' : World => w'.db.Tidy ∧ w.db.Beside t w'.db) (fun w' e hw' hC => ?_)
      ⟨h, .refl t w.db⟩ hsteps
    obtain ⟨htidy, hbeside⟩ := hw'
    exact ⟨step_tidy htidy hC.1, hbeside.trans (step_beside htidy hC.1 hC.2)⟩
  exact hrun.mono fun w' hw' => hw'.2.shareOf

namespace Small

/-- An item of the ERP for an invoice of 50 of a twin. -/
def twinItem (n : Nat) : ErpItem := { openItem with name := some ("INV-" ++ toString n) }

/-- Two tenants of one owner, each a customer of its own with an open invoice. -/
def twins : World :=
  let w := after [createTenant, .createTenant 1 "globex" "Globex" "starter" none]
  { w with db := { w.db with
      tenants := w.db.tenants.map fun tenant => { tenant with platformCustomerId := some ("CUST-" ++ toString tenant.id) }
      accounts := [⟨1, 1, some 1, some "CUST-1", "TZS", "active"⟩, ⟨2, 2, some 1, some "CUST-2", "TZS", "active"⟩]
      invoices := [invoice, { invoice with
        id := 2, tenantId := 2, subscriptionId := some 2, billingAccountId := 2, erpInvoiceId := some "INV-2"
        invoiceNumber := some "INV-2" }] } }

/-- An environment whose ERP has each twin's invoice as open, for its own customer. -/
def twinErpAt (n : Nat) : Env :=
  { envAt n with erp := fun _ => { erp with
      isConfigured := true
      listInvoices := fun customerId _ => .ok (if customerId = "CUST-1" then [twinItem 1] else [twinItem 2])
      getInvoice := fun reference => .ok (if reference = "INV-1" then twinItem 1 else twinItem 2) } }

/-- Whose invoice a reference is. -/
def twinOf (reference : String) : Nat := if reference = "INV-1" then 1 else 2

/-- The first one is synced and starts a checkout, pays it, its provisioning is started, and it is suspended. -/
def firstOnly : List Event :=
  [⟨twinErpAt 1, .resyncTenantInvoices 1 20⟩, ⟨twinErpAt 2, .createPaymentAttempt 1 none⟩,
    ⟨twinErpAt 3, checkoutWebhook .paymentConfirmed 2 "paid"⟩, ⟨twinErpAt 4, .startTask 0⟩,
    ⟨twinErpAt 5, .suspendTenant 1⟩]

set_option maxRecDepth 100000 in
private theorem twins_tidy : twins.db.Tidy := by
  have hfiled : twins.db.InvoicesFiled := ⟨by decide +kernel, by decide +kernel, by decide +kernel⟩
  have hno : twins.db.attempts = [] := by decide +kernel
  refine ⟨⟨hfiled, by decide +kernel, fun invoice hmem => ?_, ⟨fun attempt hmem => ?_, fun invoice hmem => ?_⟩⟩,
    ⟨hfiled, ⟨by decide +kernel, by decide +kernel⟩, ?_⟩, ⟨hfiled, ?_⟩, ?_⟩
  · rcases List.mem_pair.1 hmem with rfl | rfl
    · exact ⟨"INV-1", rfl, by decide, by decide⟩
    · exact ⟨"INV-2", rfl, by decide, by decide⟩
  · rw [hno] at hmem
    cases hmem
  · rcases List.mem_pair.1 hmem with rfl | rfl
    · exact ⟨_, rfl, rfl⟩
    · exact ⟨_, rfl, rfl⟩
  · unfold Db.SubscriptionsLinked Db.HasSubscription
    decide +kernel
  · rw [hno]
    exact List.nodup_nil
  · exact .nil

private theorem twinErp_keepsApart {w : World} {n : Nat} {op : Op}
    (hinvoices : ∀ invoice ∈ w.db.invoices, ∀ reference ∈ invoice.erpInvoiceId, twinOf reference = invoice.tenantId)
    (htenants : ∀ tenant ∈ w.db.tenants, tenant.customerId? = some "CUST-1" ∧ tenant.id = 1 ∨
      tenant.customerId? = some "CUST-2" ∧ tenant.id = 2) :
    ErpKeepsApart w ⟨twinErpAt n, op⟩ := by
  refine fun _ => ⟨twinOf, hinvoices, fun tick _ => ⟨?_, ?_⟩⟩
  · intro id tenant hrow customerId hcustomer limit items hlisted item hitem _
    have hitems : (if customerId = "CUST-1" then [twinItem 1] else [twinItem 2]) = items := Except.ok.inj hlisted
    rw [← hitems] at hitem
    rw [← Db.tenant?_id hrow]
    rcases htenants tenant (mem_of_get? hrow) with ⟨hname, hid⟩ | ⟨hname, hid⟩
    · rw [Option.mem_def, hname, Option.some.injEq] at hcustomer
      rw [if_pos hcustomer.symm] at hitem
      rw [List.mem_singleton.1 hitem, hid]
      decide +kernel
    · rw [Option.mem_def, hname, Option.some.injEq] at hcustomer
      rw [← hcustomer, if_neg (by decide)] at hitem
      rw [List.mem_singleton.1 hitem, hid]
      decide +kernel
  · intro reference item hfound _
    have hitem : (if reference = "INV-1" then twinItem 1 else twinItem 2) = item := Except.ok.inj hfound
    rw [← hitem]
    by_cases href : reference = "INV-1"
    · rw [if_pos href, href]
      decide +kernel
    · rw [if_neg href, show twinOf reference = 2 from if_neg href]
      decide +kernel

set_option maxRecDepth 100000 in
theorem twins_isolated : Always step (fun w' => w'.db.shareOf 2 = twins.db.shareOf 2) twins firstOnly :=
  tenant_isolated twins_tidy
    ⟨⟨twinErp_keepsApart (by decide +kernel) (by decide +kernel), by decide +kernel⟩,
      ⟨twinErp_keepsApart (by decide +kernel) (by decide +kernel), by decide +kernel⟩,
      ⟨twinErp_keepsApart (by decide +kernel) (by decide +kernel), by decide +kernel⟩,
      ⟨twinErp_keepsApart (by decide +kernel) (by decide +kernel), by decide +kernel⟩,
      ⟨twinErp_keepsApart (by decide +kernel) (by decide +kernel), by decide +kernel⟩, trivial⟩

set_option maxRecDepth 100000 in
/-- The first tenant is suspended, with its invoice paid; the second one waits for its payment. -/
example : (run step twins firstOnly).db.tenants.map Tenant.status = [.suspendedAdmin, .pending] ∧
    (run step twins firstOnly).db.attempts.map PaymentAttempt.status = [.paid] := by decide +kernel

end Small

end ControlPlane
