import ControlPlane.Billing.Ledger

/-!
# Properties of the rows that every step keeps

`Preserved J w e` lists the changes of the rows that the programs of a step can make, and says that each keeps `J`.  The
walk over the programs is made once, in `step_preserves`: the committed rows after the step have `J` again.  An invariant of
the rows is then a matter of the changes alone.
-/

namespace ControlPlane

open Table Session Session.Proc

/-- The changes of the tenants' rows that a step can make without billing rows keep `J`, and so do a flush and whatever
keeps the books. -/
structure TenantsPreserved (J : Db → Prop) (w : World) (e : Event) : Prop where
  core : ∀ db db', db'.core = db.core → J db → J db'
  flush : ∀ now saved work, J saved → J work → J (Db.flush now saved work)
  escalated : ∀ context tenant runtimeExists now db, J db → db.tenant? tenant.id = some tenant →
    dunningEscalates context tenant (db.subscriptionOf tenant.id) runtimeExists now = true →
      J (escalateTenant tenant.id now db)
  moved : ∀ db tenant moved, J db → db.tenant? tenant.id = some tenant → Tenant.id moved = tenant.id →
    moved.platformCustomerId = tenant.platformCustomerId → (moved.status = tenant.status ∨
      moved.status ∉ [TenantStatus.pendingPayment, .suspendedBilling]) → J (db.putTenant moved)
  registered : (∃ index outside, e.op = .taskPhase index outside) → ∀ db tenant moved, J db →
    db.tenant? tenant.id = some tenant → Tenant.id moved = tenant.id → (moved.status = tenant.status ∨
      moved.status ∉ [TenantStatus.pendingPayment, .suspendedBilling]) → J (db.putTenant moved)

/-- So do the changes by which a tenant is created. -/
structure CreationPreserved (J : Db → Prop) (w : World) (e : Event) : Prop extends TenantsPreserved J w e where
  created : (∃ ownerId subdomain companyName plan app, e.op = .createTenant ownerId subdomain companyName plan app) →
    ∀ owner subdomain companyName plan app now db r db', J db →
      prepareTenant e.env.settings owner subdomain companyName plan app now db = .ok (r, db') → J db'
  joined : ∀ db memberships, J db → J { db with memberships := memberships }
  checkedOut : (∃ ownerId subdomain companyName plan app, e.op = .createTenant ownerId subdomain companyName plan app) →
    ∀ owner tenantId plan app status ends db u db', J db →
      recordCheckout e.env owner tenantId plan app status ends db = .ok (u, db') → J db'

/-- The changes of a step keep `J`.  The first change of `renew_checkout` and of `create_payment_attempt_for_invoice` is
made on the committed rows, so there `J` is only asked of its result. -/
structure Preserved (J : Db → Prop) (w : World) (e : Event) : Prop extends CreationPreserved J w e where
  invoiceIds : ∀ db, J db → (db.invoices.map BillingInvoice.id).Nodup
  renewed : ∀ tenantId, e.op = .renewCheckout tenantId → ∀ u db',
    prepareRenewedCheckout e.env tenantId (e.env.clock 0) (e.env.erp 0) w.db = .ok (u, db') → J db'
  handled : ∀ delivery event, e.op = .webhook delivery → delivery.parsed = .ok event → ∀ tick db r db', J db →
    eventBody (delivery.provider e.env) event (e.env.clock tick) (e.env.erp tick) db = .ok (r, db') → J db'
  synced : ∀ tick tenantId limit db u db', J db →
    syncForTenant tenantId limit (e.env.clock tick) (e.env.erp tick) db = .ok (u, db') → J db'
  attempted : ∀ invoiceId provider invoice tenant owner, e.op = .createPaymentAttempt invoiceId provider →
    requireInvoice w.db invoiceId = .ok (invoice, tenant, owner) → ∀ attemptId db',
      preparePaymentAttempt e.env.gateway tenant owner invoice provider (e.env.clock 0) (e.env.erp 0) w.db =
        .ok (attemptId, db') → J db'
  reconciled : ∀ tick tenantId invoiceId db r db', J db → InvoicesBelong [invoiceId] tenantId db →
    reconcileInvoice tenantId invoiceId (e.env.clock tick) (e.env.erp tick) db = .ok (r, db') → J db'
  expired : ∀ subscriptionId now db r db', J db → expireTrial subscriptionId now db = .ok (r, db') → J db'

/-- `J` holds of a session, of its own rows and of the committed ones. -/
def OnRows (J : Db → Prop) : DbSession → Prop := Rows J fun _ => True

section

variable {J : Db → Prop}

theorem keeps_change {α : Type} {env : Env} {f : Time → PlatformErpClient → Db → Except PyError (α × Db)}
    (hf : ∀ tick db a db', J db → f (env.clock tick) (env.erp tick) db = .ok (a, db') → J db') :
    Keeps (OnRows J) (change env f) := by
  intro s hs
  rw [change_apply]
  cases h : f (env.clock s.tick) (env.erp s.tick) s.work with
  | error e => exact hs
  | ok r => exact ⟨hf s.tick s.work r.1 r.2 hs.1 h, hs.2⟩

/-- A first change and what follows it, on the committed rows. -/
theorem onRows_first {α β : Type} {env : Env} {f : Time → PlatformErpClient → Db → Except PyError (α × Db)}
    {g : α → Proc β} {db : Db} {queue : List Task} (hJ : J db)
    (hf : ∀ a db', f (env.clock 0) (env.erp 0) db = .ok (a, db') → J db') (hg : ∀ a, Keeps (OnRows J) (g a)) :
    OnRows J ((change env f >>= g) (opened db queue)).2 := by
  have hchanged := change_apply env f (opened db queue)
  have hrows : f (env.clock (opened db queue : DbSession).tick) (env.erp (opened db queue : DbSession).tick)
      (opened db queue : DbSession).work = f (env.clock 0) (env.erp 0) db := rfl
  rw [hrows] at hchanged
  cases h : f (env.clock 0) (env.erp 0) db with
  | error e =>
    rw [h] at hchanged
    rw [bind_error hchanged]
    exact ⟨hJ, hJ, trivial⟩
  | ok r =>
    rw [h] at hchanged
    rw [bind_ok hchanged]
    exact (hg r.1).apply ⟨hf r.1 r.2 h, hJ, trivial⟩

theorem preserved_of_keeps {α : Type} {w : World} {p : Proc α} (hJ : J w.db) (hp : Keeps (OnRows J) p) :
    J (perform w p).db :=
  (hp.apply ⟨hJ, hJ, trivial⟩).2.1

theorem keeps_rollbackOnError {p : Proc Unit} (hp : Keeps (OnRows J) p) : Keeps (OnRows J) (rollbackOnError p) :=
  .attempt hp fun _ => .bind .rollback fun _ => .raise _

/-- The trial cycle keeps what the end of a trial, as of the time it reads first, keeps. -/
theorem onRows_runTrialLifecycleCycle {env : Env} (hframe : Frame (fun _ => True) J fun _ => True) (dryRun : Bool)
    {s : DbSession} (hs : OnRows J s)
    (hexpired : ∀ subscriptionId db r db', J db → expireTrial subscriptionId (env.clock s.tick) db = .ok (r, db') → J db') :
    OnRows J (runTrialLifecycleCycle env dryRun s).2 := by
  have hbooks : ∀ {α : Type} {p : Proc α}, Bookkeeping (fun _ => True) p → Keeps (OnRows J) p := fun hp => hp _ _ hframe
  unfold runTrialLifecycleCycle
  rw [bind_ok (utcnow_apply env s)]
  split
  · exact hs
  · refine (keeps_rollbackOnError (.bind .read fun db => .bind (.forEach (fun id => ?_) _) fun _ =>
      hbooks (.commit env))).apply hs
    refine .bind (keeps_change fun tick db r db' => hexpired id db r db') fun expired => ?_
    cases expired with
    | none => exact .pure _
    | some tenantId => exact hbooks (.recordAuditEvent env _ _ _)

theorem keeps_checkTenant (env : Env) (tenantId : Nat) (check : Db → Tenant → Time → Except PyError Unit) :
    Keeps (OnRows J) (checkTenant env tenantId check) := by
  refine keeps_change fun tick db u db' hJ hr => ?_
  obtain ⟨tenant, -, hr⟩ := bind_eq_ok.1 hr
  obtain ⟨u, -, hr⟩ := bind_eq_ok.1 hr
  cases hr
  exact hJ

theorem keeps_loadEntities (env : Env) (task : Task) :
    Keeps (OnRows J) (change env fun _ _ db => do return (← loadEntities db task, db)) := by
  refine keeps_change fun tick db r db' hJ hr => ?_
  obtain ⟨entities, -, hr⟩ := bind_eq_ok.1 hr
  cases hr
  exact hJ

theorem task_statuses (task : Task) :
    (∀ st ∈ task.enterStatus, st ∉ [TenantStatus.pendingPayment, .suspendedBilling]) ∧
      (∀ st ∈ task.completeStatus, st ∉ [TenantStatus.pendingPayment, .suspendedBilling]) ∧
      ∀ error, ∀ st ∈ task.failStatus error, st ∉ [TenantStatus.pendingPayment, .suspendedBilling] := by
  refine ⟨?_, ?_, ?_⟩
  · intro st hst
    cases task <;> cases hst <;> decide
  · intro st hst
    cases task <;> cases hst <;> decide
  · intro error st hst
    rcases failStatus_eq_or hst with rfl | rfl <;> decide

/-- `p` leaves the invoices of the session, unless it raises. -/
def LeavesInvoices {α : Type} (p : Proc α) : Prop := ∀ invoices, Triple (fun s : DbSession => s.work.invoices = invoices) p
  (fun _ s => s.work.invoices = invoices) fun _ => True

theorem steady_invoices (invoices : List BillingInvoice) : Steady fun db => db.invoices = invoices where
  core _ _ hcore h := (Db.invoices_of_core hcore).trans h
  flush _ _ _ h := h

theorem leavesInvoices_commit (env : Env) : LeavesInvoices (commit env) := fun invoices =>
  (steady_invoices invoices).commit env

theorem leavesInvoices_enqueueProvisioning (env : Env) (tenantId : Nat) (email : String) :
    LeavesInvoices (enqueueProvisioningForPaidTenant env tenantId email) := fun invoices =>
  (steady_invoices invoices).enqueueProvisioning env tenantId email

/-- Such a program keeps a tenant's invoices its own. -/
theorem belongs_of_leavesInvoices {α : Type} {p : Proc α} (hp : Keeps (OnRows J) p) (hinvoices : LeavesInvoices p)
    (ids : List Nat) (tenantId : Nat) :
    Triple (fun s => OnRows J s ∧ InvoicesBelong ids tenantId s.work) p
      (fun _ s => OnRows J s ∧ InvoicesBelong ids tenantId s.work) (OnRows J) := by
  rintro s ⟨hs, hb⟩
  have h := (Triple.and hp (hinvoices s.work.invoices)) s ⟨hs, rfl⟩
  cases hps : p s with
  | mk r s' =>
    rw [hps] at h
    cases r with
    | ok a => exact ⟨h.1, hb.congr h.2⟩
    | error e => exact h.1

end

namespace TenantsPreserved

variable {J : Db → Prop} {w : World} {e : Event} (h : TenantsPreserved J w e)
include h

theorem books {α : Type} {p : Proc α} (hp : Bookkeeping (fun _ => True) p) : Keeps (OnRows J) p :=
  hp _ _ ⟨h.core, h.flush, fun _ _ _ _ => trivial⟩

theorem commit : Keeps (OnRows J) (commit e.env) := Keeps.commit fun _ _ _ => h.flush _ _ _

theorem audit (action resource : String) (id : Option Nat) :
    Keeps (OnRows J) (recordAuditEvent e.env action resource id) :=
  h.books (.recordAuditEvent e.env _ _ _)

/-- Changing a row of the tenant table, if it is there. -/
theorem modifyTenant {f : Tenant → Tenant} (hid : ∀ t, (f t).id = t.id)
    (hcustomer : ∀ t, (f t).platformCustomerId = t.platformCustomerId)
    (hstatus : ∀ t, (f t).status = t.status) {db : Db} (hJ : J db) (id : Nat) : J (db.modifyTenant id f) := by
  cases hrow : db.tenant? id with
  | none =>
    rw [Db.modifyTenant_of_none hrow]
    exact hJ
  | some tenant =>
    rw [Db.modifyTenant_of_tenant? hrow]
    have htenant : db.tenant? tenant.id = some tenant := by
      rw [Db.tenant?_id hrow]; exact hrow
    exact h.moved db tenant (f tenant) hJ htenant (hid tenant) (hcustomer tenant) (Or.inl (hstatus tenant))

theorem moveTenantStatus {tenantId : Nat} {status : TenantStatus}
    (hstatus : status ∉ [TenantStatus.pendingPayment, .suspendedBilling]) :
    Keeps (OnRows J) (change e.env (ControlPlane.moveTenantStatus tenantId status)) := by
  refine keeps_change fun tick db u db' hJ hr => ?_
  obtain ⟨tenant, htenant, hr⟩ := bind_eq_ok.1 hr
  obtain ⟨moved, hmoved, hr⟩ := bind_eq_ok.1 hr
  obtain ⟨-, rfl⟩ := transitionTenantStatus_ok (asConflict_ok hmoved)
  cases hr
  have hrow := requireTenant_ok htenant
  rw [← Db.tenant?_id hrow] at hrow
  exact h.moved db tenant _ hJ hrow rfl rfl (Or.inr hstatus)

theorem retryTenantProvisioning (tenantId : Nat) (userEmail : String) :
    Keeps (OnRows J) (retryTenantProvisioning e.env tenantId userEmail) := by
  refine .bind (keeps_change fun tick db u db' hJ hr => ?_) fun _ => .bind h.commit fun _ =>
    .bind (h.books (.enqueueProvisioningForPaidTenant e.env _ _ fun _ => trivial)) fun _ => h.audit _ _ _
  obtain ⟨tenant, htenant, hr⟩ := bind_eq_ok.1 hr
  obtain ⟨u, -, hr⟩ := bind_eq_ok.1 hr
  obtain ⟨moved, hmoved, hr⟩ := bind_eq_ok.1 hr
  obtain ⟨-, rfl⟩ := transitionTenantStatus_ok hmoved
  cases hr
  have hrow := requireTenant_ok htenant
  rw [← Db.tenant?_id hrow] at hrow
  exact h.moved db tenant _ hJ hrow rfl rfl (Or.inr (show TenantStatus.pending ∉ _ by decide))

theorem backupTenant (tenantId : Nat) : Keeps (OnRows J) (backupTenant e.env tenantId) :=
  .bind (keeps_checkTenant e.env tenantId _) fun _ =>
    .bind (h.books (.enqueueBackup e.env tenantId fun _ => trivial)) fun _ => .pure _

theorem restoreTenant (tenantId backupId : Nat) : Keeps (OnRows J) (restoreTenant e.env tenantId backupId) :=
  .bind (keeps_checkTenant e.env tenantId _) fun _ =>
    .bind (h.books (.addJob e.env tenantId .restore)) fun _ => .bind (h.audit _ _ _) fun _ =>
      .bind (h.books (.enqueue e.env trivial)) fun _ => .pure _

theorem deleteTenant (tenantId : Nat) : Keeps (OnRows J) (deleteTenant e.env tenantId) := by
  refine .bind (keeps_checkTenant e.env tenantId _) fun _ => .bind ?_ fun _ => .pure _
  exact .bind (h.moveTenantStatus (by decide)) fun _ => .bind h.commit fun _ =>
    .bind (h.books (.addJob e.env tenantId .delete)) fun job =>
      .bind (h.books (.enqueueJob e.env job trivial)) fun _ => .bind (h.audit _ _ _) fun _ => .pure _

theorem remindTenant (due : Bool) (now : Time) (tenantId : Nat) :
    Keeps (OnRows J) (remindTenant e.env due now tenantId) := by
  unfold ControlPlane.remindTenant
  split
  · refine .bind (.modify fun db hJ => ?_) fun _ => h.audit _ _ _
    unfold touchTenant
    exact h.modifyTenant (f := fun t => { t with updatedAt := now }) (fun _ => rfl) (fun _ => rfl) (fun _ => rfl) hJ
      tenantId
  · exact .pure _

theorem suspendIfEscalated (dryRun : Bool) (context : DunningContext) (now : Time) (tenantId : Nat) :
    Keeps (OnRows J) (suspendIfEscalated e.env dryRun context now tenantId) := by
  intro s hs
  unfold ControlPlane.suspendIfEscalated
  rw [bind_ok (read_apply s), bind_ok (now_apply s)]
  cases hrow : s.work.tenant? tenantId with
  | none => exact hs
  | some tenant =>
    dsimp only
    split
    · rename_i hdue
      have hid := Db.tenant?_id hrow
      rw [← hid] at hrow hdue
      refine h.audit _ _ _ _ ⟨?_, hs.2⟩
      rw [← hid]
      exact h.escalated context tenant _ now s.work hs.1 hrow hdue.1
    · exact hs

theorem runBillingDunningCycle (dryRun : Bool) : Keeps (OnRows J) (runBillingDunningCycle e.env dryRun) := by
  refine .bind (h.books (.utcnow e.env)) fun now => .bind .now fun tick =>
    keeps_rollbackOnError (.bind .read fun db => .bind (.forEach (fun tenantId => ?_) _) fun _ =>
      .bind (h.audit _ _ _) fun _ => ?_)
  · refine .bind .read fun db => .bind .now fun tick => ?_
    cases db.tenant? tenantId with
    | none => exact .pure _
    | some tenant => exact .bind (h.remindTenant _ now tenantId) fun _ => h.suspendIfEscalated dryRun _ now tenantId
  · split
    · exact .pure _
    · exact h.commit

/-- A task asks for none of the two statuses in which a tenant waits for its payment. -/
theorem moveTenant (he : ∃ index outside, e.op = .taskPhase index outside) (task : Task) (customerId : Option String)
    {status : Option TenantStatus} (stamp : Bool)
    (hstatus : ∀ st ∈ status, st ∉ [TenantStatus.pendingPayment, .suspendedBilling]) :
    Keeps (OnRows J) (moveTenant e.env task customerId status stamp) := by
  refine .bind (keeps_change fun tick db outcome db' hJ hr => ?_) fun outcome => ?_
  · split at hr
    · cases hr; exact hJ
    · cases hr
    · rename_i st tenant hrow
      split at hr
      · rename_i moved hmoved
        obtain ⟨-, rfl⟩ := transitionTenantStatus_ok hmoved
        cases hr
        rw [← Db.tenant?_id hrow] at hrow
        exact h.registered he db tenant _ hJ hrow rfl (Or.inr (hstatus st rfl))
      · cases hr; exact hJ
  · cases outcome with
    | none => exact .bind h.commit fun _ => .pure _
    | some error => exact .pure _

theorem taskPhase (he : ∃ index outside, e.op = .taskPhase index outside) (task : Task) (phase : Phase)
    (outside : Except PyError String) : Keeps (OnRows J) (taskPhase e.env task phase outside) := by
  obtain ⟨henter, hcomplete, hfail⟩ := task_statuses task
  have hjob : ∀ f, Keeps (OnRows J) (updateJob e.env task f) := fun f => h.books (.updateJob e.env task f)
  unfold ControlPlane.taskPhase
  cases phase with
  | begin => exact .bind (keeps_loadEntities e.env task) fun _ => .bind (hjob _) fun _ => .pure _
  | enter =>
    refine .bind (h.moveTenant he task none false henter) fun outcome => ?_
    cases outcome <;> exact .pure _
  | work =>
    refine .bind (h.books (.recordStart e.env task)) fun _ => .bind .read fun db => ?_
    cases manifestFound db task with
    | false => exact .pure _
    | true =>
      cases outside with
      | error error => exact .pure _
      | ok result => exact .bind (h.books (.addManifest e.env task result)) fun _ => .pure _
  | complete result =>
    refine .bind (h.moveTenant he task _ true hcomplete) fun outcome => ?_
    cases outcome <;> exact .pure _
  | close =>
    refine .bind (hjob _) fun _ => ?_
    split
    · exact .pure _
    · exact .bind (h.audit _ _ _) fun _ => .pure _
  | failing error dirtyCustomerId =>
    refine .bind (keeps_loadEntities e.env task) fun _ => .bind (.modify fun db hJ => ?_) fun _ => .bind h.commit fun _ =>
      .pure _
    cases hrow : db.tenant? task.tenantId with
    | none =>
      rw [Db.modifyTenant_of_none hrow]
      exact hJ
    | some tenant =>
      rw [Db.modifyTenant_of_tenant? hrow]
      have htenant : db.tenant? tenant.id = some tenant := by
        rw [Db.tenant?_id hrow]; exact hrow
      exact h.registered he db tenant _ hJ htenant rfl (Or.inl rfl)
  | marking error =>
    refine .bind (h.moveTenant he task none _ (hfail error)) fun outcome => ?_
    cases outcome with
    | none => exact .pure _
    | some refused => exact .raise _
  | closing error =>
    dsimp only
    split
    · exact .bind (hjob _) fun _ => .bind (h.audit _ _ _) fun _ => .pure _
    · exact .bind (hjob _) fun _ => .bind (h.audit _ _ _) fun _ => .pure _
  | refused error => exact .bind (keeps_loadEntities e.env task) fun _ => .bind (hjob _) fun _ => .pure _

end TenantsPreserved

theorem CreationPreserved.createTenant {J : Db → Prop} {w : World} {e : Event} (h : CreationPreserved J w e)
    {ownerId : Nat} {subdomain companyName plan : String} {chosenApp : Option String}
    (he : e.op = .createTenant ownerId subdomain companyName plan chosenApp) :
    Keeps (OnRows J) (createTenant e.env ownerId subdomain companyName plan chosenApp) := by
  refine .bind .read fun db => ?_
  cases db.user? ownerId with
  | none => exact .raise _
  | some owner =>
    refine .bind ?_ fun _ => .pure _
    refine .bind (h.books (.utcnow e.env)) fun time => .bind (keeps_change ?_) fun r => ?_
    · exact fun tick db r db' hJ hr => h.created ⟨_, _, _, _, _, he⟩ _ _ _ _ _ _ _ _ _ hJ hr
    · refine .bind h.commit fun _ => .bind (.modify fun db hJ => h.joined db _ hJ) fun _ => .bind h.commit fun _ => ?_
      refine .bind (keeps_change fun tick db u db' hJ hr => ?_) fun _ => .bind h.commit fun _ =>
        .bind (h.audit _ _ _) fun _ => .pure _
      exact h.checkedOut ⟨_, _, _, _, _, he⟩ _ _ _ _ _ _ _ _ _ hJ hr

namespace Preserved

variable {J : Db → Prop} {w : World} {e : Event} (h : Preserved J w e)
include h

/-! ### Webhooks -/

theorem processEvent {delivery : WebhookDelivery} {event : WebhookEvent} (he : e.op = .webhook delivery)
    (hparsed : delivery.parsed = .ok event) :
    Keeps (OnRows J) (processEvent e.env (delivery.provider e.env) event) := by
  rw [processEvent_eq]
  refine .bind (keeps_change fun tick db r db' => h.handled delivery event he hparsed tick db r db') fun handled => ?_
  cases handled with
  | ignored message => exact .pure _
  | changed tenantId email =>
    exact .bind h.commit fun _ => h.books
      (eventFollowUp_bookkeeping e.env event.eventType tenantId email fun _ _ _ => trivial)

theorem handleGatewayWebhook {delivery : WebhookDelivery} (he : e.op = .webhook delivery) :
    Keeps (OnRows J) (handleGatewayWebhook e.env delivery) := by
  unfold ControlPlane.handleGatewayWebhook
  split
  · exact .raise _
  split
  · exact h.books ((rejectDelivery_idle e.env _ _ _ _ _).mono fun _ hno => hno.elim)
  · cases hparsed : delivery.parsed with
    | error error => exact h.books ((refuseUnparsed_idle e.env _ _ _).mono fun _ hno => hno.elim)
    | ok event =>
      refine .bind (h.books (.ensureOutboxEvent e.env _ event)) fun row => ?_
      split
      · exact h.books ((answerDuplicate_idle e.env _ event).mono fun _ hno => hno.elim)
      · refine .bind (h.books (.markOutbox e.env row.id _)) fun _ => ?_
        refine .bind (.attempt (h.processEvent he hparsed) fun error => ?_) fun response => ?_
        · exact h.books (.recordProcessingFailure e.env _ event row.id error)
        · exact .bind (h.books (.markOutbox e.env row.id _)) fun _ =>
            .bind (h.books (.recordPaymentEvent e.env _ _ _ _ _ _ _)) fun _ => .pure _

/-! ### Reconciliation -/

/-- A visit of the reconciliation keeps the tenant's invoices its own. -/
theorem reconcileInvoiceSettlement {tenantId invoiceId : Nat} {ids : List Nat} (hmem : invoiceId ∈ ids) :
    Triple (fun s => OnRows J s ∧ InvoicesBelong ids tenantId s.work)
      (reconcileInvoiceSettlement e.env tenantId invoiceId)
      (fun _ s => OnRows J s ∧ InvoicesBelong ids tenantId s.work) (OnRows J) := by
  refine Triple.bind (R := fun _ s => OnRows J s ∧ InvoicesBelong ids tenantId s.work) ?_ fun r => ?_
  · rintro s ⟨hs, hb⟩
    rw [change_apply]
    cases hr : reconcileInvoice tenantId invoiceId (e.env.clock s.tick) (e.env.erp s.tick) s.work with
    | error error => exact hs
    | ok r =>
      have hbelongs : InvoicesBelong [invoiceId] tenantId s.work := by
        intro id hid invoice hrow
        rw [List.mem_singleton.1 hid] at hrow
        exact hb invoiceId hmem invoice hrow
      exact ⟨⟨h.reconciled _ _ _ _ _ _ hs.1 hbelongs hr, hs.2⟩, hb.reconcile hr⟩
  · obtain ⟨result, email⟩ := r
    cases email with
    | none =>
      refine Triple.bind (belongs_of_leavesInvoices h.commit (leavesInvoices_commit e.env) ids tenantId) ?_
      exact fun _ _ hs => hs
    | some address =>
      refine Triple.bind (belongs_of_leavesInvoices ?_ (leavesInvoices_enqueueProvisioning e.env tenantId address) ids
        tenantId) ?_
      · exact h.books (.enqueueProvisioningForPaidTenant e.env tenantId address fun _ => trivial)
      · exact fun _ _ hs => hs

theorem reconcileInvoices {tenantId : Nat} {ids all : List Nat} (hmem : ∀ id ∈ ids, id ∈ all)
    (summary : TenantBillingReconciliationResult) :
    Triple (fun s => OnRows J s ∧ InvoicesBelong all tenantId s.work)
      (reconcileInvoices e.env tenantId ids summary) (fun _ => OnRows J) (OnRows J) := by
  induction ids generalizing summary with
  | nil => exact fun s hs => hs.1
  | cons id ids ih =>
    exact Triple.bind (h.reconcileInvoiceSettlement (hmem id (List.mem_cons_self ..))) fun _ =>
      ih (fun id' hid' => hmem id' (List.mem_cons_of_mem _ hid')) _

theorem reconcileTenantBilling (tenantId : Nat) (invoiceId : Option Nat) :
    Keeps (OnRows J) (reconcileTenantBilling e.env tenantId invoiceId) := by
  refine .bind (keeps_change fun tick db u db' => h.synced tick tenantId 50 db u db') fun _ s hs => ?_
  rw [bind_ok (read_apply s)]
  refine h.reconcileInvoices (fun _ hid => hid) _ s ⟨hs, fun id hid invoice hrow => ?_⟩
  -- the ids are those of the tenant's rows, and no other row has one of them
  obtain ⟨row, hsorted, rfl⟩ := List.mem_map.1 hid
  have hlisted := (List.mem_filter.1 ((List.mem_insertionSort _).1 hsorted)).1
  obtain ⟨hmem, htenant⟩ := List.mem_filter.1 hlisted
  have hget : s.work.invoice? row.id = some row := get?_of_mem (h.invoiceIds s.work hs.1) hmem
  rw [hget] at hrow
  cases hrow
  exact of_decide_eq_true htenant

theorem resyncTenantInvoices (tenantId limit : Nat) :
    Keeps (OnRows J) (resyncTenantInvoices e.env tenantId limit) :=
  .bind (keeps_change fun tick db u db' => h.synced tick tenantId limit db u db') fun _ => .bind h.commit fun _ =>
    h.audit _ _ _

theorem reconcileBillingInvoice (invoiceId : Nat) : Keeps (OnRows J) (reconcileBillingInvoice e.env invoiceId) := by
  refine .bind .read fun db => ?_
  cases db.invoice? invoiceId with
  | none => exact .raise _
  | some invoice => exact .bind (h.reconcileTenantBilling _ _) fun _ => h.audit _ _ _

/-! ### Cycles -/

theorem runBillingReconciliationCycle : Keeps (OnRows J) (runBillingReconciliationCycle e.env) := by
  refine keeps_rollbackOnError (.bind .read fun db => .bind (.forEach (fun tenantId => ?_) _) fun _ =>
    .bind (h.audit _ _ _) fun _ => h.commit)
  exact .attempt (.bind (h.reconcileTenantBilling tenantId none) fun _ => .pure _) fun _ => .rollback

theorem runTrialLifecycleCycle (dryRun : Bool) (hJ : J w.db) : J (perform w (runTrialLifecycleCycle e.env dryRun)).db :=
  (onRows_runTrialLifecycleCycle ⟨h.core, h.flush, fun _ _ _ _ => trivial⟩ dryRun (s := opened w.db w.queue)
    ⟨hJ, hJ, trivial⟩ fun id => h.expired id _).2.1

/-! ### A step -/

theorem createPaymentAttempt {invoiceId : Nat} {provider : Option String} (hJ : J w.db)
    (he : e.op = .createPaymentAttempt invoiceId provider) :
    J (perform w (createInvoicePaymentAttempt e.env invoiceId provider)).db := by
  show J (createInvoicePaymentAttempt e.env invoiceId provider (opened w.db w.queue)).2.saved
  unfold createInvoicePaymentAttempt
  rw [bind_ok (read_apply _), show (opened w.db w.queue : DbSession).work = w.db from rfl]
  cases hrow : requireInvoice w.db invoiceId with
  | error error => exact hJ
  | ok r =>
    obtain ⟨invoice, tenant, owner⟩ := r
    refine (onRows_first hJ (h.attempted invoiceId provider invoice tenant owner he hrow) fun attemptId => ?_).2.1
    exact .bind h.commit fun _ => .bind (h.audit _ _ _) fun _ => .pure _

end Preserved

/-- The steps that change no billing rows: the dunning, backups, restores and deletions, the retry of a provisioning, the
administrator's suspensions and the worker's tasks. -/
def Op.movesTenantsOnly : Op → Bool
  | .dunningCycle _ | .backupTenant _ | .restoreTenant .. | .deleteTenant _ | .retryProvisioning .. | .suspendTenant _
  | .unsuspendTenant _ | .startTask _ | .taskPhase .. => true
  | _ => false

/-- Such a step keeps what the changes of the tenants' rows keep. -/
theorem step_preservesTenants {J : Db → Prop} {w : World} {e : Event} (h : TenantsPreserved J w e)
    (he : e.op.movesTenantsOnly = true) (hJ : J w.db) : J (step w e).db := by
  unfold step
  cases hop : e.op with
  | dunningCycle => exact preserved_of_keeps hJ (h.runBillingDunningCycle _)
  | backupTenant => exact preserved_of_keeps hJ (h.backupTenant _)
  | restoreTenant => exact preserved_of_keeps hJ (h.restoreTenant _ _)
  | deleteTenant => exact preserved_of_keeps hJ (h.deleteTenant _)
  | retryProvisioning => exact preserved_of_keeps hJ (h.retryTenantProvisioning _ _)
  | suspendTenant =>
    exact preserved_of_keeps hJ (.bind (h.moveTenantStatus (by decide)) fun _ => .bind h.commit fun _ => h.audit _ _ _)
  | unsuspendTenant =>
    exact preserved_of_keeps hJ (.bind (h.moveTenantStatus (by decide)) fun _ => .bind h.commit fun _ => h.audit _ _ _)
  | startTask entry =>
    dsimp only
    split
    · exact hJ
    · exact hJ
  | taskPhase index outside =>
    dsimp only
    unfold advanceTask
    cases w.running[index]? with
    | none => exact hJ
    | some running => exact preserved_of_keeps hJ (h.taskPhase ⟨index, outside, hop⟩ _ _ _)
  | _ =>
    rw [hop] at he
    cases he

/-- A step keeps what its changes keep. -/
theorem step_preserves {J : Db → Prop} {w : World} {e : Event} (h : Preserved J w e) (hJ : J w.db) :
    J (step w e).db := by
  by_cases hmoves : e.op.movesTenantsOnly = true
  · exact step_preservesTenants h.toTenantsPreserved hmoves hJ
  unfold step
  cases he : e.op with
  | createTenant => exact preserved_of_keeps hJ (h.createTenant he)
  | renewCheckout tenantId =>
    exact (onRows_first hJ (h.renewed tenantId he) fun _ => .bind h.commit fun _ => h.audit _ _ _).2.1
  | webhook delivery => exact preserved_of_keeps hJ (h.handleGatewayWebhook he)
  | resyncTenantInvoices => exact preserved_of_keeps hJ (h.resyncTenantInvoices _ _)
  | createPaymentAttempt => exact h.createPaymentAttempt hJ he
  | reconcileBillingInvoice => exact preserved_of_keeps hJ (h.reconcileBillingInvoice _)
  | resyncTenantSettlement tenantId =>
    exact preserved_of_keeps hJ (.bind (h.reconcileTenantBilling tenantId none) fun _ => h.audit _ _ _)
  | reconciliationCycle => exact preserved_of_keeps hJ h.runBillingReconciliationCycle
  | trialCycle dryRun => exact h.runTrialLifecycleCycle dryRun hJ
  | _ =>
    rw [he] at hmoves
    exact absurd rfl hmoves

end ControlPlane
