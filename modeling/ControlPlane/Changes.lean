import ControlPlane.LedgerInvariant
import ControlPlane.Permits

/-!
# What a step changes

`Change w e` has one constructor for each function of the program that changes the rows of tenants, subscriptions and bills
within a step `e` from `w`, with what the step knows about its arguments: the tenant of the request, the committed rows a
first change is made on, the task that is running.  `step_changes` says that the rows after a step come about by such
changes, flushes and bookkeeping, so a property of whole runs is a case distinction over the changes.
-/

namespace ControlPlane

open Table Session Session.Proc

/-- The operation is a creation of a tenant. -/
def Op.creation (op : Op) : Prop :=
  ∃ ownerId subdomain companyName plan app, op = .createTenant ownerId subdomain companyName plan app

/-- The operation syncs and reconciles the invoices of a tenant. -/
def Op.reconciles (w : World) (op : Op) (tenantId : Nat) : Prop :=
  match op with
  | .resyncTenantInvoices id _ | .resyncTenantSettlement id => id = tenantId
  | .reconcileBillingInvoice invoiceId => (w.db.invoice? invoiceId).map BillingInvoice.tenantId = some tenantId
  | .reconciliationCycle => True
  | _ => False

/-- The status an owner's deletion or an administrator asks the table for. -/
def Op.asks (op : Op) (tenantId : Nat) (status : TenantStatus) : Prop :=
  op = .deleteTenant tenantId ∧ status = .pendingDeletion ∨ op = .suspendTenant tenantId ∧ status = .suspendedAdmin ∨
    op = .unsuspendTenant tenantId ∧ status = .active

/-- The operation runs a phase of a task. -/
def Op.runs (w : World) (op : Op) (task : Task) : Prop :=
  ∃ index outside running, op = .taskPhase index outside ∧ w.running[index]? = some running ∧ running.task = task

/-- A single change of a step. -/
inductive Change (w : World) (e : Event) : Db → Db → Prop where
  | created {owner : User} {subdomain companyName plan : String} {app : Option String} {now : Time}
      {r : Nat × Plan × Option String} {db' : Db} (he : e.op.creation)
      (h : prepareTenant e.env.settings owner subdomain companyName plan app now w.db = .ok (r, db')) : Change w e w.db db'
  | joined {db : Db} (userId : Nat) (he : e.op.creation) :
      Change w e db { db with
        memberships := insert db.memberships ⟨fresh db.memberships, fresh w.db.tenants, userId, "owner"⟩ }
  | checkedOut {owner : User} {plan : Plan} {app : Option String} {status : SubscriptionStatus} {ends : Option Time}
      {u : Unit} {db db' : Db} (he : e.op.creation)
      (h : recordCheckout e.env owner (fresh w.db.tenants) plan app status ends db = .ok (u, db')) : Change w e db db'
  | renewed {tenantId : Nat} {u : Unit} {db' : Db} (he : e.op = .renewCheckout tenantId)
      (h : prepareRenewedCheckout e.env tenantId (e.env.clock 0) (e.env.erp 0) w.db = .ok (u, db')) : Change w e w.db db'
  | handled {delivery : WebhookDelivery} {event : WebhookEvent} {tick tenantId : Nat} {email : Option String} {db db' : Db}
      (he : e.op = .webhook delivery) (hdelivered : deliveredEvent e.env w.db delivery = some (event, tick))
      (hcommit : e.env.commitFails tick = false) (hcore : db.core = w.db.core)
      (h : eventBody (delivery.provider e.env) event (e.env.clock tick) (e.env.erp tick) db =
        .ok (.changed tenantId email, db')) : Change w e db db'
  | synced {tenantId limit tick : Nat} {u : Unit} {db db' : Db} (he : e.op.reconciles w tenantId)
      (h : syncForTenant tenantId limit (e.env.clock tick) (e.env.erp tick) db = .ok (u, db')) : Change w e db db'
  | attempted {invoiceId attemptId : Nat} {provider : Option String} {invoice : BillingInvoice} {tenant : Tenant}
      {owner : User} {db' : Db} (he : e.op = .createPaymentAttempt invoiceId provider)
      (hinvoice : requireInvoice w.db invoiceId = .ok (invoice, tenant, owner))
      (h : preparePaymentAttempt e.env.gateway tenant owner invoice provider (e.env.clock 0) (e.env.erp 0) w.db =
        .ok (attemptId, db')) : Change w e w.db db'
  | reconciled {tenantId invoiceId : Nat} {s : DbSession} {r : InvoiceReconciliationResult × Option String} {db' : Db}
      (he : e.op.reconciles w tenantId) (hvisit : (tenantId, invoiceId, s) ∈ reconciliations w e)
      (hbelongs : InvoicesBelong [invoiceId] tenantId s.work)
      (h : reconcileInvoice tenantId invoiceId (e.env.clock s.tick) (e.env.erp s.tick) s.work = .ok (r, db')) :
      Change w e s.work db'
  | expired {subscriptionId : Nat} {r : Option Nat} {db db' : Db} (he : e.op = .trialCycle false)
      (h : expireTrial subscriptionId (e.env.clock 0) db = .ok (r, db')) : Change w e db db'
  | moved {tenantId : Nat} {status : TenantStatus} {now : Time} {client : PlatformErpClient} {u : Unit} {db db' : Db}
      (he : e.op.asks tenantId status) (h : moveTenantStatus tenantId status now client db = .ok (u, db')) : Change w e db db'
  | retried {tenantId : Nat} {email : String} {now : Time} {client : PlatformErpClient} {u : Unit} {db db' : Db}
      (he : e.op = .retryProvisioning tenantId email) (h : prepareRetry tenantId now client db = .ok (u, db')) :
      Change w e db db'
  | reminded {dryRun : Bool} {db : Db} (tenantId : Nat) (now : Time) (he : e.op = .dunningCycle dryRun) :
      Change w e db (touchTenant tenantId now db)
  | escalated {dryRun : Bool} {db : Db} (tenantId : Nat) (now : Time) (he : e.op = .dunningCycle dryRun) :
      Change w e db (escalateTenant tenantId now db)
  | worked {task : Task} {status : TenantStatus} {customerId : Option String} {tenant moved : Tenant} {db : Db}
      (stamp : Time) (he : e.op.runs w task) (hrow : db.tenant? task.tenantId = some tenant)
      (h : transitionTenantStatus tenant status = .ok moved) :
      Change w e db (db.putTenant { moved with
        platformCustomerId := customerId.or moved.platformCustomerId, updatedAt := stamp })
  | failing {task : Task} {db : Db} (customerId : Option String) (he : e.op.runs w task) :
      Change w e db (db.modifyTenant task.tenantId fun tenant =>
        { tenant with platformCustomerId := customerId.or tenant.platformCustomerId })

/-- Every change of the step keeps `J`, and so do a flush and whatever keeps the books. -/
structure Follows (J : Db → Prop) (w : World) (e : Event) : Prop where
  core : ∀ db db', db'.core = db.core → J db → J db'
  flush : ∀ now saved work, J saved → J work → J (Db.flush now saved work)
  invoiceIds : ∀ db, J db → (db.invoices.map BillingInvoice.id).Nodup
  single : ∀ db db', Change w e db db' → J db → J db'

namespace Follows

variable {J : Db → Prop} {w : World} {e : Event} (h : Follows J w e)
include h

theorem books {α : Type} {p : Proc α} (hp : Bookkeeping (fun _ => True) p) : Keeps (OnRows J) p :=
  hp _ _ ⟨h.core, h.flush, fun _ _ _ _ => trivial⟩

theorem commit : Keeps (OnRows J) (commit e.env) := Keeps.commit fun _ _ _ => h.flush _ _ _

theorem audit (action resource : String) (id : Option Nat) :
    Keeps (OnRows J) (recordAuditEvent e.env action resource id) := h.books (.recordAuditEvent e.env _ _ _)

/-- What a request does first, it does on the committed rows. -/
theorem first {α β : Type} {f : Time → PlatformErpClient → Db → Except PyError (α × Db)} {g : α → Proc β} (hJ : J w.db)
    (hf : ∀ a db', f (e.env.clock 0) (e.env.erp 0) w.db = .ok (a, db') → Change w e w.db db')
    (hg : ∀ a db', f (e.env.clock 0) (e.env.erp 0) w.db = .ok (a, db') → Keeps (OnRows J) (g a)) :
    J (perform w (change e.env f >>= g)).db := by
  show J ((change e.env f >>= g) (opened w.db w.queue)).2.saved
  rw [change_bind]
  cases hr : f (e.env.clock 0) (e.env.erp 0) w.db with
  | error error =>
    rw [show f (e.env.clock (opened w.db w.queue : DbSession).tick) (e.env.erp (opened w.db w.queue : DbSession).tick)
      (opened w.db w.queue : DbSession).work = _ from hr]
    exact hJ
  | ok r =>
    obtain ⟨a, db'⟩ := r
    rw [show f (e.env.clock (opened w.db w.queue : DbSession).tick) (e.env.erp (opened w.db w.queue : DbSession).tick)
      (opened w.db w.queue : DbSession).work = _ from hr]
    have hdb' : J db' := h.single _ _ (hf a db' hr) hJ
    exact ((hg a db' hr).apply ⟨hdb', hJ, trivial⟩).2.1

/-! ### Requests -/

theorem createTenant {ownerId : Nat} {subdomain companyName plan : String} {chosenApp : Option String} (hJ : J w.db)
    (he : e.op = .createTenant ownerId subdomain companyName plan chosenApp) :
    J (perform w (createTenant e.env ownerId subdomain companyName plan chosenApp)).db := by
  have hcreation : e.op.creation := ⟨_, _, _, _, _, he⟩
  show J (ControlPlane.createTenant e.env ownerId subdomain companyName plan chosenApp (opened w.db w.queue)).2.saved
  unfold ControlPlane.createTenant
  rw [bind_ok (read_apply _)]
  cases (opened w.db w.queue : DbSession).work.user? ownerId with
  | none => exact hJ
  | some owner =>
    dsimp only
    unfold createTenantAndStartCheckout
    rw [bind_assoc, bind_ok (utcnow_apply e.env _), bind_assoc]
    refine h.first (w := w) hJ (fun r db' hr => .created hcreation hr) fun r db' hr => ?_
    obtain ⟨tenantId, selectedPlan, selectedApp⟩ := r
    obtain ⟨rfl, -⟩ := prepareTenant_ok hr
    refine .bind (.bind h.commit fun _ => .bind (.modify fun db hdb => ?_) fun _ => .bind h.commit fun _ =>
      .bind ?_ fun _ => .bind h.commit fun _ => .bind (h.audit _ _ _) fun _ => .pure _) fun _ => .pure _
    · exact h.single _ _ (.joined owner.id hcreation) hdb
    · exact keeps_change fun tick db u db' hdb hr => h.single _ _ (.checkedOut hcreation hr) hdb

theorem renewCheckout {tenantId : Nat} (hJ : J w.db) (he : e.op = .renewCheckout tenantId) :
    J (perform w (renewCheckout e.env tenantId)).db :=
  h.first hJ (fun _ _ hr => .renewed he hr) fun _ _ _ => .bind h.commit fun _ => h.audit _ _ _

theorem createPaymentAttempt {invoiceId : Nat} {provider : Option String} (hJ : J w.db)
    (he : e.op = .createPaymentAttempt invoiceId provider) :
    J (perform w (createInvoicePaymentAttempt e.env invoiceId provider)).db := by
  show J (createInvoicePaymentAttempt e.env invoiceId provider (opened w.db w.queue)).2.saved
  unfold createInvoicePaymentAttempt
  rw [bind_ok (read_apply _), show (opened w.db w.queue : DbSession).work = w.db from rfl]
  cases hrow : requireInvoice w.db invoiceId with
  | error error => exact hJ
  | ok r =>
    obtain ⟨invoice, tenant, owner⟩ := r
    exact h.first hJ (fun _ _ hr => .attempted he hrow hr) fun _ _ _ =>
      .bind h.commit fun _ => .bind (h.audit _ _ _) fun _ => .pure _

theorem moveTenantStatus {tenantId : Nat} {status : TenantStatus} (he : e.op.asks tenantId status) :
    Keeps (OnRows J) (change e.env (moveTenantStatus tenantId status)) :=
  keeps_change fun _ _ _ _ hdb hr => h.single _ _ (.moved he hr) hdb

theorem deleteTenant {tenantId : Nat} (he : e.op = .deleteTenant tenantId) :
    Keeps (OnRows J) (deleteTenant e.env tenantId) := by
  refine .bind (keeps_checkTenant e.env tenantId _) fun _ => .bind ?_ fun _ => .pure _
  exact .bind (h.moveTenantStatus (Or.inl ⟨he, rfl⟩)) fun _ => .bind h.commit fun _ =>
    .bind (h.books (.addJob e.env tenantId .delete)) fun job =>
      .bind (h.books (.enqueueJob e.env job trivial)) fun _ => .bind (h.audit _ _ _) fun _ => .pure _

theorem retryTenantProvisioning {tenantId : Nat} {userEmail : String} (he : e.op = .retryProvisioning tenantId userEmail) :
    Keeps (OnRows J) (retryTenantProvisioning e.env tenantId userEmail) := by
  refine .bind (keeps_change fun tick db u db' hdb hr => h.single _ _ (.retried he hr) hdb) fun _ => .bind h.commit fun _ =>
    .bind (h.books (.enqueueProvisioningForPaidTenant e.env _ _ fun _ => trivial)) fun _ => h.audit _ _ _

/-! ### Webhooks -/

/-- The event of a delivery is handled on the rows that the step found, but for the books. -/
theorem processEvent {delivery : WebhookDelivery} {event : WebhookEvent} {tick : Nat} (hJ : J w.db)
    (he : e.op = .webhook delivery) (hdelivered : deliveredEvent e.env w.db delivery = some (event, tick))
    (outbox : List PaymentEventOutbox) (queue : List Task) :
    J (processEvent e.env (delivery.provider e.env) event (quiet w.db outbox queue tick)).2.saved := by
  have hquiet : J { w.db with outbox := outbox } := h.core w.db _ rfl hJ
  rw [processEvent_eq, change_bind]
  cases hr : eventBody (delivery.provider e.env) event (e.env.clock tick) (e.env.erp tick)
      { w.db with outbox := outbox } with
  | error error =>
    rw [show eventBody (delivery.provider e.env) event (e.env.clock (quiet w.db outbox queue tick).tick)
      (e.env.erp (quiet w.db outbox queue tick).tick) (quiet w.db outbox queue tick).work = _ from hr]
    exact hquiet
  | ok r =>
    rw [show eventBody (delivery.provider e.env) event (e.env.clock (quiet w.db outbox queue tick).tick)
      (e.env.erp (quiet w.db outbox queue tick).tick) (quiet w.db outbox queue tick).work = _ from hr]
    obtain ⟨handled, db'⟩ := r
    cases handled with
    | ignored message => exact hquiet
    | changed tenantId email =>
      dsimp only
      -- a commit that fails drops the changes, and one that goes through was due when the event was delivered
      rw [commit_bind]
      split
      · exact hquiet
      · rename_i hcommit
        have hchange : Change w e { w.db with outbox := outbox } db' :=
          .handled he hdelivered (Bool.eq_false_iff.2 hcommit) (by rfl) hr
        have hdb' : J db' := h.single _ _ hchange hquiet
        have hflushed := h.flush (e.env.clock tick) _ db' hquiet hdb'
        exact ((h.books (eventFollowUp_bookkeeping e.env event.eventType tenantId email fun _ _ _ => trivial)).apply
          ⟨hflushed, hflushed, trivial⟩).2.1

theorem handleGatewayWebhook {delivery : WebhookDelivery} (hJ : J w.db) (he : e.op = .webhook delivery) :
    J (perform w (handleGatewayWebhook e.env delivery)).db := by
  have hcore := handleGatewayWebhook_core e.env w.db delivery w.queue
  cases hdelivered : deliveredEvent e.env w.db delivery with
  | none =>
    rw [hdelivered] at hcore
    exact h.core _ _ hcore.1 hJ
  | some delivered =>
    obtain ⟨event, tick⟩ := delivered
    rw [hdelivered] at hcore
    obtain ⟨outbox, hsaved, -⟩ := hcore
    exact h.core _ _ hsaved (h.processEvent hJ he hdelivered outbox w.queue)

/-! ### Reconciliation -/

theorem syncForTenant {tenantId : Nat} (limit : Nat) (he : e.op.reconciles w tenantId) :
    Keeps (OnRows J) (change e.env (syncForTenant tenantId limit)) :=
  keeps_change fun _ _ _ _ hdb hr => h.single _ _ (.synced he hr) hdb

/-- A visit of the reconciliation keeps the tenant's invoices its own. -/
theorem reconcileInvoiceSettlement {tenantId invoiceId : Nat} {ids : List Nat} (he : e.op.reconciles w tenantId)
    (hmem : invoiceId ∈ ids) :
    Triple (fun s => (OnRows J s ∧ InvoicesBelong ids tenantId s.work) ∧ (tenantId, invoiceId, s) ∈ reconciliations w e)
      (reconcileInvoiceSettlement e.env tenantId invoiceId)
      (fun _ s => OnRows J s ∧ InvoicesBelong ids tenantId s.work) (OnRows J) := by
  refine Triple.bind (R := fun _ s => OnRows J s ∧ InvoicesBelong ids tenantId s.work) ?_ fun r => ?_
  · rintro s ⟨⟨hs, hb⟩, hvisit⟩
    rw [change_apply]
    cases hr : reconcileInvoice tenantId invoiceId (e.env.clock s.tick) (e.env.erp s.tick) s.work with
    | error error => exact hs
    | ok r =>
      have hbelongs : InvoicesBelong [invoiceId] tenantId s.work := by
        intro id hid invoice hrow
        rw [List.mem_singleton.1 hid] at hrow
        exact hb invoiceId hmem invoice hrow
      have hchange : Change w e s.work r.2 := .reconciled he hvisit hbelongs hr
      exact ⟨⟨h.single _ _ hchange hs.1, hs.2⟩, hb.reconcile hr⟩
  · obtain ⟨result, email⟩ := r
    cases email with
    | none =>
      refine Triple.bind (belongs_of_leavesInvoices h.commit (leavesInvoices_commit e.env) ids tenantId) ?_
      exact fun _ _ hs => hs
    | some address =>
      refine Triple.bind (belongs_of_leavesInvoices ?_ (leavesInvoices_enqueueProvisioning e.env tenantId address) ids
        tenantId) ?_
      · exact h.books (.enqueueProvisioningForPaidTenant e.env tenantId address fun _ => trivial)
      · exact fun _ _ hs => hs

theorem reconcileInvoices {tenantId : Nat} {ids all : List Nat} (he : e.op.reconciles w tenantId)
    (hmem : ∀ id ∈ ids, id ∈ all) (summary : TenantBillingReconciliationResult) {s : DbSession} (hs : OnRows J s)
    (hb : InvoicesBelong all tenantId s.work)
    (hvisits : ∀ v ∈ visits (ControlPlane.reconcileInvoiceSettlement e.env tenantId) ids s,
      (tenantId, v) ∈ reconciliations w e) : OnRows J (reconcileInvoices e.env tenantId ids summary s).2 := by
  induction ids generalizing s summary with
  | nil => exact hs
  | cons id ids ih =>
    have hhead := h.reconcileInvoiceSettlement he (hmem id (List.mem_cons_self ..)) s
      ⟨⟨hs, hb⟩, hvisits (id, s) (List.mem_cons_self ..)⟩
    unfold ControlPlane.reconcileInvoices
    rw [bind_apply]
    cases hr : ControlPlane.reconcileInvoiceSettlement e.env tenantId id s with
    | mk r s' =>
      rw [hr] at hhead
      cases r with
      | error error => exact hhead
      | ok outcome =>
        refine ih (fun id' hid' => hmem id' (List.mem_cons_of_mem _ hid')) _ hhead.1 hhead.2 fun v hv => hvisits v ?_
        rw [visits, hr]
        exact List.mem_cons_of_mem _ hv

theorem reconcileTenantBilling {tenantId : Nat} (invoiceId : Option Nat) (he : e.op.reconciles w tenantId)
    {s : DbSession} (hs : OnRows J s)
    (hvisits : ∀ v ∈ reconciliationVisits e.env tenantId invoiceId s, (tenantId, v) ∈ reconciliations w e) :
    OnRows J (reconcileTenantBilling e.env tenantId invoiceId s).2 := by
  refine Keeps.holds_bind ((h.syncForTenant 50 he).apply hs) fun u s₁ hr hs₁ => ?_
  unfold reconciliationVisits at hvisits
  rw [hr] at hvisits
  rw [bind_ok (read_apply s₁)]
  refine h.reconcileInvoices he (fun _ hid => hid) _ hs₁ (fun id hid invoice hrow => ?_) hvisits
  -- the ids are those of the tenant's rows, and no other row has one of them
  obtain ⟨row, hsorted, rfl⟩ := List.mem_map.1 hid
  have hlisted := (List.mem_filter.1 ((List.mem_insertionSort _).1 hsorted)).1
  obtain ⟨hmem, htenant⟩ := List.mem_filter.1 hlisted
  have hget : s₁.work.invoice? row.id = some row := get?_of_mem (h.invoiceIds s₁.work hs₁.1) hmem
  rw [hget] at hrow
  cases hrow
  exact of_decide_eq_true htenant

theorem reconcileBillingInvoice {invoiceId : Nat} (hJ : J w.db) (he : e.op = .reconcileBillingInvoice invoiceId) :
    J (perform w (reconcileBillingInvoice e.env invoiceId)).db := by
  show J (ControlPlane.reconcileBillingInvoice e.env invoiceId (opened w.db w.queue)).2.saved
  unfold ControlPlane.reconcileBillingInvoice
  rw [bind_ok (read_apply _), show (opened w.db w.queue : DbSession).work = w.db from rfl]
  cases hrow : w.db.invoice? invoiceId with
  | none => exact hJ
  | some invoice =>
    have hreconciles : e.op.reconciles w invoice.tenantId := by
      rw [he]
      show (w.db.invoice? invoiceId).map BillingInvoice.tenantId = some invoice.tenantId
      rw [hrow]
      rfl
    refine (Keeps.holds_bind (h.reconcileTenantBilling (some invoiceId) hreconciles ⟨hJ, hJ, trivial⟩
      fun v hv => ?_) fun _ _ _ hs => (h.audit _ _ _).apply hs).2.1
    unfold reconciliations
    rw [he]
    dsimp only
    rw [hrow]
    exact List.mem_map_of_mem hv

theorem resyncTenantSettlement {tenantId : Nat} (hJ : J w.db) (he : e.op = .resyncTenantSettlement tenantId) :
    J (perform w (resyncTenantSettlement e.env tenantId)).db := by
  have hreconciles : e.op.reconciles w tenantId := by
    rw [he]
    exact rfl
  refine (Keeps.holds_bind (h.reconcileTenantBilling none hreconciles ⟨hJ, hJ, trivial⟩ fun v hv => ?_)
    fun _ _ _ hs => (h.audit _ _ _).apply hs).2.1
  unfold reconciliations
  rw [he]
  exact List.mem_map_of_mem hv

/-! ### Cycles -/

theorem runBillingReconciliationCycle (hJ : J w.db) (he : e.op = .reconciliationCycle) :
    J (perform w (runBillingReconciliationCycle e.env)).db := by
  have hreconciles : ∀ tenantId, e.op.reconciles w tenantId := by
    intro tenantId
    rw [he]
    trivial
  have hopened : OnRows J (opened w.db w.queue) := ⟨hJ, hJ, trivial⟩
  show J (ControlPlane.runBillingReconciliationCycle e.env (opened w.db w.queue)).2.saved
  unfold ControlPlane.runBillingReconciliationCycle
  refine (Keeps.holds_attempt (I := OnRows J) ?_ fun _ => .bind .rollback fun _ => .raise _).2.1
  rw [bind_ok (read_apply _)]
  refine Keeps.holds_bind (forEach_keeps hopened fun v hv hI => ?_) fun _ s₁ _ hs₁ =>
    (Keeps.bind (h.audit _ _ _) fun _ => h.commit).apply hs₁
  refine Keeps.holds_attempt (Keeps.holds_bind (h.reconcileTenantBilling none (hreconciles v.1) hI
    fun u hu => ?_) fun _ _ _ hs₁ => hs₁) fun _ => .rollback
  unfold reconciliations
  rw [he]
  exact List.mem_flatMap.2 ⟨v, hv, List.mem_map_of_mem hu⟩

theorem runTrialLifecycleCycle {dryRun : Bool} (hJ : J w.db) (he : e.op = .trialCycle dryRun) :
    J (perform w (runTrialLifecycleCycle e.env dryRun)).db := by
  cases dryRun with
  | true => exact hJ
  | false =>
    exact (onRows_runTrialLifecycleCycle ⟨h.core, h.flush, fun _ _ _ _ => trivial⟩ false (s := opened w.db w.queue)
      ⟨hJ, hJ, trivial⟩ fun _ _ _ _ hdb hr => h.single _ _ (.expired he hr) hdb).2.1

theorem runBillingDunningCycle {dryRun : Bool} (he : e.op = .dunningCycle dryRun) :
    Keeps (OnRows J) (runBillingDunningCycle e.env dryRun) := by
  refine .bind (h.books (.utcnow e.env)) fun now => .bind .now fun tick =>
    keeps_rollbackOnError (.bind .read fun db => .bind (.forEach (fun tenantId => ?_) _) fun _ =>
      .bind (h.audit _ _ _) fun _ => ?_)
  · refine .bind .read fun db => .bind .now fun tick => ?_
    cases db.tenant? tenantId with
    | none => exact .pure _
    | some tenant =>
      refine .bind ?_ fun _ => .bind .read fun db => .bind .now fun tick => ?_
      · unfold remindTenant
        split
        · exact .bind (.modify fun db hdb => h.single _ _ (.reminded tenantId now he) hdb) fun _ => h.audit _ _ _
        · exact .pure _
      · cases db.tenant? tenantId with
        | none => exact .pure _
        | some tenant =>
          dsimp only
          split
          · exact .bind (.modify fun db hdb => h.single _ _ (.escalated tenantId now he) hdb) fun _ => h.audit _ _ _
          · exact .pure _
  · split
    · exact .pure _
    · exact h.commit

/-! ### Tasks -/

theorem moveTenant {task : Task} (customerId : Option String) (status : Option TenantStatus) (stamp : Bool)
    (he : e.op.runs w task) : Keeps (OnRows J) (moveTenant e.env task customerId status stamp) := by
  refine .bind (keeps_change fun tick db outcome db' hdb hr => ?_) fun outcome => ?_
  · split at hr
    · cases hr; exact hdb
    · cases hr
    · rename_i st tenant hrow
      split at hr
      · rename_i moved hmoved
        cases hr
        exact h.single _ _ (.worked _ he hrow hmoved) hdb
      · cases hr; exact hdb
  · cases outcome with
    | none => exact .bind h.commit fun _ => .pure _
    | some error => exact .pure _

theorem taskPhase {task : Task} (phase : Phase) (outside : Except PyError String) (he : e.op.runs w task) :
    Keeps (OnRows J) (taskPhase e.env task phase outside) := by
  have hjob : ∀ f, Keeps (OnRows J) (updateJob e.env task f) := fun f => h.books (.updateJob e.env task f)
  unfold ControlPlane.taskPhase
  cases phase with
  | begin => exact .bind (keeps_loadEntities e.env task) fun _ => .bind (hjob _) fun _ => .pure _
  | enter =>
    refine .bind (h.moveTenant none _ false he) fun outcome => ?_
    cases outcome <;> exact .pure _
  | work =>
    refine .bind (h.books (.recordStart e.env task)) fun _ => .bind .read fun db => ?_
    cases manifestFound db task with
    | false => exact .pure _
    | true =>
      cases outside with
      | error error => exact .pure _
      | ok result => exact .bind (h.books (.addManifest e.env task result)) fun _ => .pure _
  | complete result =>
    refine .bind (h.moveTenant _ _ true he) fun outcome => ?_
    cases outcome <;> exact .pure _
  | close =>
    refine .bind (hjob _) fun _ => ?_
    cases outside with
    | error error => exact .pure _
    | ok result => exact .bind (h.audit _ _ _) fun _ => .pure _
  | failing error dirtyCustomerId =>
    exact .bind (keeps_loadEntities e.env task) fun _ =>
      .bind (.modify fun db hdb => h.single _ _ (.failing dirtyCustomerId he) hdb) fun _ => .bind h.commit fun _ => .pure _
  | marking error =>
    refine .bind (h.moveTenant none _ _ he) fun outcome => ?_
    cases outcome with
    | none => exact .pure _
    | some refused => exact .raise _
  | closing error =>
    dsimp only
    split
    · exact .bind (hjob _) fun _ => .bind (h.audit _ _ _) fun _ => .pure _
    · exact .bind (hjob _) fun _ => .bind (h.audit _ _ _) fun _ => .pure _
  | refused error => exact .bind (keeps_loadEntities e.env task) fun _ => .bind (hjob _) fun _ => .pure _

end Follows

/-- The rows after a step have whatever the changes of the step, flushes and bookkeeping keep. -/
theorem step_follows {J : Db → Prop} {w : World} {e : Event} (h : Follows J w e) (hJ : J w.db) : J (step w e).db := by
  have hmoves : ∀ {tenantId : Nat} {status : TenantStatus} (action : String), e.op.asks tenantId status →
      Keeps (OnRows J) (do
        change e.env (moveTenantStatus tenantId status)
        commit e.env
        recordAuditEvent e.env action "tenants" (some tenantId)) := fun action hasks =>
    .bind (h.moveTenantStatus hasks) fun _ => .bind h.commit fun _ => h.audit _ _ _
  unfold step
  cases he : e.op with
  | createTenant => exact h.createTenant hJ he
  | renewCheckout => exact h.renewCheckout hJ he
  | webhook => exact h.handleGatewayWebhook hJ he
  | resyncTenantInvoices tenantId limit =>
    have hreconciles : e.op.reconciles w tenantId := by
      rw [he]
      exact rfl
    exact preserved_of_keeps hJ (.bind (h.syncForTenant limit hreconciles) fun _ => .bind h.commit fun _ => h.audit _ _ _)
  | createPaymentAttempt => exact h.createPaymentAttempt hJ he
  | reconcileBillingInvoice => exact h.reconcileBillingInvoice hJ he
  | resyncTenantSettlement => exact h.resyncTenantSettlement hJ he
  | reconciliationCycle => exact h.runBillingReconciliationCycle hJ he
  | trialCycle => exact h.runTrialLifecycleCycle hJ he
  | dunningCycle => exact preserved_of_keeps hJ (h.runBillingDunningCycle he)
  | backupTenant tenantId =>
    exact preserved_of_keeps hJ (.bind (keeps_checkTenant e.env tenantId _) fun _ =>
      .bind (h.books (.enqueueBackup e.env tenantId fun _ => trivial)) fun _ => .pure _)
  | restoreTenant tenantId =>
    exact preserved_of_keeps hJ (.bind (keeps_checkTenant e.env tenantId _) fun _ =>
      .bind (h.books (.addJob e.env tenantId .restore)) fun _ => .bind (h.audit _ _ _) fun _ =>
        .bind (h.books (.enqueue e.env trivial)) fun _ => .pure _)
  | deleteTenant => exact preserved_of_keeps hJ (h.deleteTenant he)
  | retryProvisioning => exact preserved_of_keeps hJ (h.retryTenantProvisioning he)
  | suspendTenant => exact preserved_of_keeps hJ (hmoves _ (Or.inr (Or.inl ⟨he, rfl⟩)))
  | unsuspendTenant => exact preserved_of_keeps hJ (hmoves _ (Or.inr (Or.inr ⟨he, rfl⟩)))
  | startTask entry =>
    dsimp only
    split
    · exact hJ
    · exact hJ
  | taskPhase index outside =>
    dsimp only
    unfold advanceTask
    cases hrow : w.running[index]? with
    | none => exact hJ
    | some running =>
      exact preserved_of_keeps hJ (h.taskPhase running.phase outside ⟨index, outside, running, he, hrow, rfl⟩)

/-! ### The ledger -/

/-- An invariant of the ledger survives every change. -/
theorem LedgerInvariant.single {J : Db → Prop} {w : World} {e : Event} (h : LedgerInvariant J w e) {db db' : Db}
    (hchange : Change w e db db') (hJ : J db) : J db' := by
  have hput : ∀ {db : Db} {tenant moved : Tenant}, J db → db.tenant? tenant.id = some tenant → moved.id = tenant.id →
      moved.platformCustomerId = tenant.platformCustomerId → J (db.putTenant moved) := fun hJ hrow hid hcustomer =>
    h.moved hJ hrow hid hcustomer
  have hmodify : ∀ {db : Db} (id : Nat) (f : Tenant → Tenant), (∀ t, (f t).id = t.id) →
      (∀ t, (f t).platformCustomerId = t.platformCustomerId) → J db → J (db.modifyTenant id f) := by
    intro db id f hid hcustomer hJ
    cases hrow : db.tenant? id with
    | none =>
      rw [Db.modifyTenant_of_none hrow]
      exact hJ
    | some tenant =>
      rw [Db.modifyTenant_of_tenant? hrow]
      rw [← Db.tenant?_id hrow] at hrow
      exact hput hJ hrow (hid tenant) (hcustomer tenant)
  cases hchange with
  | created he hr => exact h.customer (Or.inr he) _ _ (prepareTenant_ledger hr) hJ
  | joined userId he => exact h.same db _ ⟨rfl, rfl, rfl⟩ (.of_tenants rfl) hJ
  | checkedOut he hr => exact h.customer (Or.inr he) _ _ (recordCheckout_ledger hr) hJ
  | renewed he hr => exact h.same _ _ (prepareRenewedCheckout_ledger hr).1 (prepareRenewedCheckout_ledger hr).2 hJ
  | handled he hdelivered hcommit hcore hr => exact h.handled hJ hr
  | synced he hr => exact h.synced _ _ _ _ _ _ hJ hr
  | attempted he hinvoice hr => exact h.attempted hJ _ _ _ _ _ he hinvoice _ _ hr
  | reconciled he hvisit hbelongs hr => exact h.reconciled hJ hbelongs hr
  | expired he hr => exact h.same _ _ (expireTrial_ledger hr).1 (expireTrial_ledger hr).2 hJ
  | moved he hr =>
    obtain ⟨tenant, htenant, hr⟩ := bind_eq_ok.1 hr
    obtain ⟨moved, hmoved, hr⟩ := bind_eq_ok.1 hr
    obtain ⟨-, rfl⟩ := transitionTenantStatus_ok (asConflict_ok hmoved)
    cases hr
    have hrow := requireTenant_ok htenant
    rw [← Db.tenant?_id hrow] at hrow
    exact hput hJ hrow rfl rfl
  | retried he hr =>
    obtain ⟨tenant, htenant, hr⟩ := bind_eq_ok.1 hr
    obtain ⟨u, -, hr⟩ := bind_eq_ok.1 hr
    obtain ⟨moved, hmoved, hr⟩ := bind_eq_ok.1 hr
    obtain ⟨-, rfl⟩ := transitionTenantStatus_ok hmoved
    cases hr
    have hrow := requireTenant_ok htenant
    rw [← Db.tenant?_id hrow] at hrow
    exact hput hJ hrow rfl rfl
  | reminded tenantId now he =>
    unfold touchTenant
    exact hmodify tenantId (fun t => { t with updatedAt := now }) (fun _ => rfl) (fun _ => rfl) hJ
  | escalated tenantId now he =>
    unfold escalateTenant
    exact hmodify tenantId
      (fun t => { t with status := transitionOrForce t.status .suspendedBilling, updatedAt := now }) (fun _ => rfl)
      (fun _ => rfl) hJ
  | worked stamp he hrow hr =>
    obtain ⟨index, outside, running, hop, -, -⟩ := he
    exact h.customer (Or.inl ⟨index, outside, hop⟩) db _ ⟨rfl, rfl, rfl⟩ hJ
  | failing customerId he =>
    obtain ⟨index, outside, running, hop, -, -⟩ := he
    exact h.customer (Or.inl ⟨index, outside, hop⟩) db _ ⟨rfl, rfl, rfl⟩ hJ

theorem Change.invoicesFiled {w : World} {e : Event} {db db' : Db} (hchange : Change w e db db')
    (hF : db.InvoicesFiled) : db'.InvoicesFiled := (invoicesFiled_ledger w e).single hchange hF

end ControlPlane
