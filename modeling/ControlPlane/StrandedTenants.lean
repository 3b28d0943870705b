import ControlPlane.ProvisioningCalls

/-!
# Paid tenants that wait for provisioning

A tenant that is `pending` gets on only through a create job.  `enqueue_provisioning_for_paid_tenant` looks for the
tenant's oldest create job that is queued, running or succeeded and is content with it; a job that succeeded long ago
stands in the way of a new one.  The reconciliation does not even come to it when the ERP shows a runtime.
-/

namespace ControlPlane

open Table Session Session.Proc Runs

/-- A create job of the tenant is running, or queued with an id of the queue. -/
def Db.provisioningUnderWay (db : Db) (tenantId : Nat) : Bool :=
  db.jobs.any fun j =>
    j.tenantId = tenantId ∧ j.type = .create ∧ (j.status = .running ∨ (j.status = .queued ∧ j.rqJobId.isSome))

theorem Db.provisioningUnderWay_congr {db db' : Db} (h : db'.jobs = db.jobs) (tenantId : Nat) :
    db'.provisioningUnderWay tenantId = db.provisioningUnderWay tenantId := by
  unfold Db.provisioningUnderWay
  rw [h]

/-- A tenant that the session has as `pending` has a create job under way. -/
def NotStranded (tenantId : Nat) (s : DbSession) : Prop :=
  s.work.tenantStatus tenantId = some .pending → s.work.provisioningUnderWay tenantId = true

instance (tenantId : Nat) (s : DbSession) : Decidable (NotStranded tenantId s) := by
  unfold NotStranded
  infer_instance

/-- The three ways in which a paid tenant's provisioning is taken up. -/
inductive RepairEntry where
  | confirmed (provider : String) (event : WebhookEvent)
  | reconciled (tenantId invoiceId : Nat)
  | retried (tenantId : Nat) (userEmail : String)

namespace RepairEntry

def run (env : Env) : RepairEntry → Proc Unit
  | confirmed provider event => do let _ ← handlePaymentConfirmed env provider event
  | reconciled tenantId invoiceId => do let _ ← reconcileInvoiceSettlement env tenantId invoiceId
  | retried tenantId userEmail => retryTenantProvisioning env tenantId userEmail

/-- The tenant an entry takes up, as it is before: that of the event, that of an invoice which the reconciliation finds
settled, or that of the retry. -/
def tenant (env : Env) (s : DbSession) : RepairEntry → Option Tenant
  | confirmed provider event =>
    (resolveInvoiceBackedContext s.work provider event.tenantId event.subscriptionId event.raw).tenant
  | reconciled tenantId invoiceId =>
    match reconcileInvoice tenantId invoiceId (env.clock s.tick) (env.erp s.tick) s.work with
    | .ok ((result, _), _) => if result.settled then s.work.tenant? tenantId else none
    | .error _ => none
  | retried tenantId _ => s.work.tenant? tenantId

end RepairEntry

/-- The tenant's create jobs do not stand in the way: there is none but failed and cancelled ones, or the oldest of the
others was never put on the queue, or one is under way. -/
def Db.provisionable (db : Db) (tenantId : Nat) : Bool :=
  provisioningMissing db tenantId || db.provisioningUnderWay tenantId

/-- A tenant that an entry leaves `pending` is not left to a create job that has succeeded; and a reconciliation that
sees a runtime of it, or no subscription, finds a create job under way. -/
def RepairEntry.takesUp (env : Env) (s : DbSession) (tenant : Tenant) : RepairEntry → Prop
  | confirmed _ _ => tenant.status ∈ [TenantStatus.pendingPayment, .pending] → s.work.provisionable tenant.id = true
  | retried _ _ => s.work.provisionable tenant.id = true
  | reconciled tenantId invoiceId =>
    match paidRepair tenantId invoiceId (env.clock s.tick) (env.erp s.tick) s.work with
    | none => tenant.status = .pending → s.work.provisioningUnderWay tenant.id = true
    | some (_, _, true) =>
      tenant.status ∈ [TenantStatus.pendingPayment, .pending, .failed] → s.work.provisioningUnderWay tenant.id = true
    | some (_, _, false) =>
      tenant.status ∈ [TenantStatus.pendingPayment, .pending, .failed, .suspendedBilling] →
        s.work.provisionable tenant.id = true

/-! ### What the enqueueing leaves -/

theorem mem_of_liveCreateJob {db : Db} {tenantId : Nat} {job : Job} (h : liveCreateJob db tenantId = some job) :
    job ∈ db.jobs ∧ job.tenantId = tenantId ∧ job.type = .create := by
  have hmem := List.mem_filter.1 (mem_of_latestBy h)
  have hjob := of_decide_eq_true hmem.2
  exact ⟨hmem.1, hjob.1, hjob.2.1⟩

/-- A job that was put on the queue is under way. -/
theorem underWay_of_queued {db : Db} {job : Job} (rqJobId : Nat) (hmem : ∃ row ∈ db.jobs, row.id = job.id)
    (htype : job.type = .create) (hstatus : job.status = .queued) :
    (db.putJob { job with rqJobId := some rqJobId }).provisioningUnderWay job.tenantId = true := by
  obtain ⟨row, hrow, hid⟩ := hmem
  unfold Db.provisioningUnderWay
  refine List.any_eq_true.2 ⟨{ job with rqJobId := some rqJobId }, List.mem_map.2 ⟨row, hrow, if_pos hid⟩, ?_⟩
  exact decide_eq_true ⟨rfl, htype, Or.inr ⟨hstatus, rfl⟩⟩

/-- Putting a job on the queue, when it returns, leaves a queued create job under way. -/
theorem enqueueJob_underWay {env : Env} (job : Job) {queued : Job} {task : Task} {s s' : DbSession}
    (h : enqueueJob env job task s = (.ok queued, s')) (hmem : ∃ row ∈ s.work.jobs, row.id = job.id)
    (htype : job.type = .create) (hstatus : job.status = .queued) :
    s'.work.provisioningUnderWay job.tenantId = true := by
  rw [enqueueJob_apply] at h
  dsimp only at h
  split at h
  · cases h
  · split at h
    · cases h
    · cases h
      exact underWay_of_queued s.outside.length hmem htype hstatus

/-- What the enqueueing leaves when it returns: the tenants' statuses, and a create job under way unless the live one
has succeeded. -/
theorem enqueueProvisioning_ok {env : Env} {tenantId : Nat} {email : String} {s s' : DbSession} {r : Job × Bool}
    (h : enqueueProvisioningForPaidTenant env tenantId email s = (.ok r, s')) :
    (∀ t, s'.work.tenantStatus t = s.work.tenantStatus t) ∧
      s'.work.provisioningUnderWay tenantId = s.work.provisionable tenantId := by
  constructor
  · intro t
    have hsteady : Steady fun db => db.tenantStatus t = s.work.tenantStatus t :=
      ⟨fun db db' hcore hdb => by rw [Db.tenantStatus_congr (Db.tenants_of_core hcore)]; exact hdb,
        fun now saved work hwork => by rw [Db.tenantStatus_flush]; exact hwork⟩
    exact (hsteady.enqueueProvisioning env tenantId email).of_ok rfl h
  · unfold Db.provisionable
    cases hmissing : provisioningMissing s.work tenantId with
    | false =>
      obtain ⟨job, heq⟩ := enqueueProvisioningForPaidTenant_of_not_missing env email hmissing
      rw [heq] at h
      cases h
      rfl
    | true =>
      rw [Bool.true_or]
      unfold enqueueProvisioningForPaidTenant at h
      rw [bind_ok (read_apply s)] at h
      -- a job is missing: none is live, or the live one was never put on the queue
      cases hlive : liveCreateJob s.work tenantId with
      | none =>
        rw [hlive] at h
        dsimp only at h
        obtain ⟨job, s₁, hadd, h⟩ := of_bind_returned h
        obtain ⟨queued, s₂, henqueue, h⟩ := of_bind_returned h
        cases h
        rw [addJob_apply] at hadd
        dsimp only at hadd
        split at hadd
        · cases hadd
        · cases hadd
          refine enqueueJob_underWay (newJob s.work tenantId .create (env.clock s.tick)) henqueue ?_ rfl rfl
          exact ⟨_, Table.mem_insert.2 (Or.inr rfl), rfl⟩
      | some job =>
        obtain ⟨hmem, htenant, htype⟩ := mem_of_liveCreateJob hlive
        unfold provisioningMissing at hmissing
        rw [hlive] at h hmissing
        dsimp only at h
        rw [if_pos (of_decide_eq_true hmissing)] at h
        obtain ⟨queued, s₁, henqueue, h⟩ := of_bind_returned h
        cases h
        rw [← htenant]
        exact enqueueJob_underWay job henqueue ⟨job, hmem, rfl⟩ htype (of_decide_eq_true hmissing).1

theorem recordAuditEvent_jobs {env : Env} {action resource : String} {id : Option Nat} {s s' : DbSession} {u : Unit}
    (h : recordAuditEvent env action resource id s = (.ok u, s')) :
    s'.work.jobs = s.work.jobs ∧ ∀ t, s'.work.tenantStatus t = s.work.tenantStatus t := by
  unfold recordAuditEvent at h
  rw [bind_ok (utcnow_apply env s), bind_ok (modify_apply _ _), commit_apply] at h
  split at h
  · cases h
  · cases h
    refine ⟨rfl, fun t => ?_⟩
    rw [Db.tenantStatus_flush]
    rfl

theorem notStranded_congr {tenantId : Nat} {s s' : DbSession} (hjobs : s'.work.jobs = s.work.jobs)
    (hstatus : ∀ t, s'.work.tenantStatus t = s.work.tenantStatus t) :
    NotStranded tenantId s' ↔ NotStranded tenantId s := by
  unfold NotStranded
  rw [hstatus, Db.provisioningUnderWay_congr hjobs]

/-- A call that returns leaves its tenant not stranded exactly when the tenant is not `pending` or its create jobs do not
stand in the way. -/
theorem notStranded_of_call {env : Env} {tenantId : Nat} {email : String} {s s' : DbSession} {r : Job × Bool}
    (h : enqueueProvisioningForPaidTenant env tenantId email s = (.ok r, s')) :
    NotStranded tenantId s' ↔
      (s.work.tenantStatus tenantId = some .pending → s.work.provisionable tenantId = true) := by
  obtain ⟨hstatus, hunderWay⟩ := enqueueProvisioning_ok h
  unfold NotStranded
  rw [hstatus, hunderWay]

theorem provisionable_congr {db db' : Db} (h : db'.jobs = db.jobs) (tenantId : Nat) :
    db'.provisionable tenantId = db.provisionable tenantId := by
  unfold Db.provisionable
  rw [provisioningMissing_congr h, Db.provisioningUnderWay_congr h]

/-! ### The owner is asked for -/

theorem applyPaidRepair_needs {tenant tenant' : Tenant} {subscription subscription' : Subscription}
    {runtimeExists : Bool} {now : Time} {outcome : PaidRepairOutcome}
    (h : applyPaidRepair tenant subscription runtimeExists now = .ok (tenant', subscription', outcome)) :
    outcome.needsProvisioning = decide (tenant'.status = .pending ∧ ¬runtimeExists = true) := by
  unfold applyPaidRepair at h
  obtain ⟨r, -, h⟩ := bind_eq_ok.1 h
  cases h
  rfl

theorem reconcileSettledInvoice_email {client : PlatformErpClient} {db db' : Db} {tenant : Tenant}
    {subscription : Subscription} {invoice : BillingInvoice} {attempt : Option PaymentAttempt}
    {result result' : InvoiceReconciliationResult} {now : Time} {email : Option String}
    (h : reconcileSettledInvoice client db tenant (some subscription) invoice attempt result now =
      .ok ((result', email), db')) :
    let runtimeExists := client.runtimeExists ((nonEmpty tenant.siteName).getD tenant.domain)
    email = if repairStatus tenant.status runtimeExists = .pending ∧ ¬runtimeExists = true
      then (db.user? tenant.ownerId).map User.email else none := by
  obtain ⟨paid, updated, resolved, db₁, db₂, -, -, -, hcases⟩ := reconcileSettledInvoice_parts rfl h
  rcases hcases with ⟨hnone, -⟩ | ⟨s, activated, outcome, hs, -, hrepair, -, hemail, -⟩
  · cases hnone
  · have hneeds := applyPaidRepair_needs hrepair
    rw [hemail, hneeds]
    simp only [decide_eq_true_eq]

/-- The owner's email is asked for exactly when the repair leaves the tenant `pending` without a runtime. -/
theorem reconcileInvoice_email {tenantId invoiceId : Nat} {now : Time} {client : PlatformErpClient} {db db' : Db}
    {result : InvoiceReconciliationResult} {email : Option String} {tenant : Tenant} {subscription : Subscription}
    {runtimeExists : Bool} (h : reconcileInvoice tenantId invoiceId now client db = .ok ((result, email), db'))
    (hrepair : paidRepair tenantId invoiceId now client db = some (tenant, subscription, runtimeExists)) :
    email = if repairStatus tenant.status runtimeExists = .pending ∧ ¬runtimeExists = true
      then (db.user? tenant.ownerId).map User.email else none := by
  obtain ⟨row, hrow, h⟩ := bind_eq_ok.1 h
  obtain ⟨invoice, hinvoice, h⟩ := bind_eq_ok.1 h
  obtain ⟨⟨resynced, db₁⟩, hresync, h⟩ := bind_eq_ok.1 h
  obtain ⟨accounts, invoices, hframe⟩ := resyncOneInvoice_frame hresync
  unfold paidRepair at hrepair
  rw [requireTenant_ok hrow, requireInvoiceRow_ok hinvoice] at hrepair
  dsimp only at h hrepair
  rw [hresync] at hrepair
  dsimp only at hrepair
  split at hrepair
  · rename_i hsettled
    rw [if_pos hsettled] at h
    cases hsub : subscriptionOfInvoice db₁ row resynced with
    | none =>
      rw [hsub] at hrepair
      cases hrepair
    | some s =>
      rw [hsub] at h hrepair
      dsimp only at hrepair
      split at hrepair
      · cases hrepair
      · cases hrepair
        have hemail := reconcileSettledInvoice_email h
        rw [hframe] at hemail
        exact hemail
  · cases hrepair

/-! ### The entries -/

/-- A confirmed payment that succeeds, for a tenant, comes to its call. -/
theorem confirmed_call {env : Env} {provider : String} {event : WebhookEvent} {s s' : DbSession} {tenant : Tenant}
    {message : String} (h : handlePaymentConfirmed env provider event s = (.ok message, s'))
    (htenant : (resolveInvoiceBackedContext s.work provider event.tenantId event.subscriptionId event.raw).tenant =
      some tenant) :
    ∃ call, confirmationCall env provider event s = some call ∧ call.tenantId = tenant.id ∧
      call.status = some (paidStatus tenant.status) ∧ call.session.work.jobs = s.work.jobs := by
  obtain ⟨handled, s₁, hchange, h⟩ := of_bind_returned h
  have hconfirm := hchange
  rw [change_apply] at hconfirm
  split at hconfirm
  · rename_i a db hbody
    cases hconfirm
    rcases confirmPayment_ok hbody with ⟨m, -, -, hnone⟩ | ⟨_, row, _, _, _, _, _, _, rfl, hc⟩
    · rw [htenant] at hnone
      cases hnone
    · have hrow := hc.resolved
      rw [htenant] at hrow
      cases hrow
      dsimp only at h
      obtain ⟨u, s₂, hcommit, -⟩ := of_bind_returned h
      refine ⟨⟨tenant.id, s₂⟩, ?_, rfl, ?_⟩
      · unfold confirmationCall
        rw [hchange]
        dsimp only
        rw [hcommit]
      · rw [commit_apply] at hcommit
        split at hcommit
        · cases hcommit
        · cases hcommit
          refine ⟨?_, hc.moved.jobs⟩
          unfold ProvisioningCall.status
          dsimp only
          rw [Db.tenantStatus_flush, hc.moved.tenantStatus, if_pos rfl, Db.tenantStatus_of_tenant? (resolved_row htenant)]
          rfl
  · cases hconfirm

private theorem confirmed_iff {env : Env} {provider : String} {event : WebhookEvent} {s s' : DbSession}
    {tenant : Tenant} {message : String} (h : handlePaymentConfirmed env provider event s = (.ok message, s'))
    (htenant : (RepairEntry.confirmed provider event).tenant env s = some tenant) :
    NotStranded tenant.id s' ↔ (RepairEntry.confirmed provider event).takesUp env s tenant := by
  obtain ⟨call, hcall, hid, hstatus, hjobs⟩ := confirmed_call h htenant
  obtain ⟨email, heq⟩ := handlePaymentConfirmed_of_call hcall
  rw [heq] at h
  obtain ⟨r, s₁, henqueue, h⟩ := of_bind_returned h
  obtain ⟨u, s₂, haudit, h⟩ := of_bind_returned h
  cases h
  obtain ⟨hsame, hstatuses⟩ := recordAuditEvent_jobs haudit
  unfold ProvisioningCall.status at hstatus
  rw [notStranded_congr hsame hstatuses, ← hid, notStranded_of_call henqueue, hstatus, provisionable_congr hjobs, hid]
  show (some (paidStatus tenant.status) = some .pending → _) ↔
    (tenant.status ∈ [TenantStatus.pendingPayment, .pending] → _)
  rw [Option.some.injEq, paidStatus_eq_pending]

private theorem retried_iff {env : Env} {tenantId : Nat} {userEmail : String} {s s' : DbSession} {tenant : Tenant}
    {u : Unit} (h : retryTenantProvisioning env tenantId userEmail s = (.ok u, s'))
    (htenant : s.work.tenant? tenantId = some tenant) :
    NotStranded tenant.id s' ↔ s.work.provisionable tenant.id = true := by
  obtain ⟨call, hcall⟩ : ∃ call, retryCall env tenantId s = some call := by
    obtain ⟨u₁, s₁, hprepare, h⟩ := of_bind_returned h
    obtain ⟨u₂, s₂, hcommit, -⟩ := of_bind_returned h
    refine ⟨⟨tenantId, s₂⟩, ?_⟩
    unfold retryCall
    rw [hprepare]
    dsimp only
    rw [hcommit]
  obtain ⟨heq, hid, hstatus, hjobs⟩ := retryCall_some hcall
  rw [heq] at h
  obtain ⟨r, s₁, henqueue, haudit⟩ := of_bind_returned h
  rw [← hid] at henqueue
  obtain ⟨hsame, hstatuses⟩ := recordAuditEvent_jobs haudit
  have hkey : tenant.id = call.tenantId := by rw [hid, Db.tenant?_id htenant]
  unfold ProvisioningCall.status at hstatus
  rw [notStranded_congr hsame hstatuses, hkey, notStranded_of_call henqueue, hstatus, provisionable_congr hjobs]
  exact ⟨fun h => h rfl, fun h _ => h⟩

/-- A reconciliation that returns leaves its tenant by the rows it has written, with a create job asked for where it has
an email for it. -/
theorem reconcileInvoiceSettlement_left {env : Env} {tenantId invoiceId : Nat} {s s' : DbSession}
    {outcome : InvoiceReconciliationResult}
    (h : reconcileInvoiceSettlement env tenantId invoiceId s = (.ok outcome, s')) :
    ∃ result email db,
      reconcileInvoice tenantId invoiceId (env.clock s.tick) (env.erp s.tick) s.work = .ok ((result, email), db) ∧
        (NotStranded tenantId s' ↔ (db.tenantStatus tenantId = some .pending →
          (if email = none then db.provisioningUnderWay tenantId else db.provisionable tenantId) = true)) := by
  obtain ⟨⟨result, email⟩, s₁, hchange, h⟩ := of_bind_returned h
  rw [change_apply] at hchange
  split at hchange
  · rename_i r db hreconcile
    cases hchange
    refine ⟨result, email, db, hreconcile, ?_⟩
    cases email with
    | none =>
      rw [if_pos rfl]
      obtain ⟨u, s₂, hcommit, h⟩ := of_bind_returned h
      cases h
      rw [commit_apply] at hcommit
      split at hcommit
      · cases hcommit
      · cases hcommit
        exact notStranded_congr (s := { s with work := db }) rfl fun t => Db.tenantStatus_flush ..
    | some email =>
      rw [if_neg (Option.some_ne_none email)]
      obtain ⟨r, s₂, henqueue, h⟩ := of_bind_returned h
      cases h
      exact notStranded_of_call henqueue
  · cases hchange

private theorem reconciled_iff {env : Env} {tenantId invoiceId : Nat} {s s' : DbSession} {tenant : Tenant}
    {outcome : InvoiceReconciliationResult}
    (h : reconcileInvoiceSettlement env tenantId invoiceId s = (.ok outcome, s'))
    (htenant : (RepairEntry.reconciled tenantId invoiceId).tenant env s = some tenant)
    (howner : (s.work.user? tenant.ownerId).isSome = true) :
    NotStranded tenant.id s' ↔ (RepairEntry.reconciled tenantId invoiceId).takesUp env s tenant := by
  have hrow : s.work.tenant? tenantId = some tenant := by
    unfold RepairEntry.tenant at htenant
    dsimp only at htenant
    split at htenant
    · split at htenant
      · exact htenant
      · cases htenant
    · cases htenant
  obtain rfl := Db.tenant?_id hrow
  have hbefore := Db.tenantStatus_of_tenant? hrow
  obtain ⟨result, email, db, hreconcile, hleft⟩ := reconcileInvoiceSettlement_left h
  have heffect := reconcileInvoice_ok hreconcile
  rw [hleft]
  cases hrepair : paidRepair tenant.id invoiceId (env.clock s.tick) (env.erp s.tick) s.work with
  | none =>
    rw [hrepair] at heffect
    obtain ⟨hemail, htenants, -, hjobs⟩ := heffect
    simp only [RepairEntry.takesUp, hrepair]
    rw [if_pos hemail, Db.tenantStatus_congr htenants, Db.provisioningUnderWay_congr hjobs, hbefore, Option.some.injEq]
  | some repair =>
    obtain ⟨row, subscription, runtimeExists⟩ := repair
    obtain rfl : row = tenant := Option.some.inj ((paidRepair_tenant hrepair).symm.trans hrow)
    have hasked := reconcileInvoice_email hreconcile hrepair
    rw [hrepair] at heffect
    obtain ⟨hmoved, -, -⟩ := heffect
    have hstatus : db.tenantStatus row.id = some (repairStatus row.status runtimeExists) := by
      rw [hmoved.tenantStatus, if_pos rfl, hbefore]
      rfl
    simp only [RepairEntry.takesUp, hrepair]
    rw [hstatus, Option.some.injEq]
    have hpending := repairStatus_eq_pending row.status runtimeExists
    cases runtimeExists with
    | true =>
      have hemail : email = none := by
        rw [hasked]
        exact if_neg fun hboth => hboth.2 rfl
      rw [if_pos rfl] at hpending
      rw [if_pos hemail, hpending, Db.provisioningUnderWay_congr hmoved.jobs]
    | false =>
      rw [if_neg Bool.false_ne_true] at hpending
      dsimp only
      rw [← hpending]
      refine forall_congr' fun hleft => ?_
      -- a tenant that is left `pending` has an owner to write to
      rw [if_pos ⟨hleft, Bool.false_ne_true⟩] at hasked
      obtain ⟨user, huser⟩ := Option.isSome_iff_exists.1 howner
      rw [huser, Option.map_some] at hasked
      subst hasked
      rw [if_neg (Option.some_ne_none user.email), provisionable_congr hmoved.jobs]

/-- An entry that succeeds leaves the paid tenant it takes up with a create job under way, or in another status than
`pending`, exactly when the tenant's create jobs and the runtime the ERP shows do not stand in the way. -/
theorem not_stranded_iff {env : Env} {entry : RepairEntry} {s s' : DbSession} {tenant : Tenant}
    (hok : entry.run env s = (.ok (), s')) (htenant : entry.tenant env s = some tenant)
    (howner : (s.work.user? tenant.ownerId).isSome = true) :
    NotStranded tenant.id s' ↔ entry.takesUp env s tenant := by
  cases entry with
  | confirmed provider event =>
    obtain ⟨message, s₁, h, hpure⟩ := of_bind_returned hok
    cases hpure
    exact confirmed_iff h htenant
  | reconciled tenantId invoiceId =>
    obtain ⟨outcome, s₁, h, hpure⟩ := of_bind_returned hok
    cases hpure
    exact reconciled_iff h htenant howner
  | retried tenantId userEmail => exact retried_iff hok htenant

/-! ### A tenant whose deletion has failed -/

/-- A tenant that was provisioned and then asked to be deleted, which failed. -/
def Small.failedDeletion : DbSession :=
  let deletion := [Op.deleteTenant 1, .startTask 1, .taskPhase 0 (.ok "done"), .taskPhase 0 (.ok "done")] ++
    List.replicate 4 (.taskPhase 0 (.error .operationalError))
  let w := Runs.run step Small.world
    (events ([createTenant, webhook .paymentConfirmed "paid"] ++ runTask 0 5 ++ deletion))
  opened w.db w.queue

/-- The retry of the provisioning. -/
def Small.retry : RepairEntry := .retried 1 "owner@example.com"

set_option maxRecDepth 100000 in
/-- The retry succeeds and leaves the tenant `pending`, for its first create job has succeeded. -/
theorem retried_after_success :
    (Small.retry.run Small.env Small.failedDeletion).1.isOk = true ∧
      ¬NotStranded 1 (Small.retry.run Small.env Small.failedDeletion).2 := by
  decide +kernel

/-- A tenant whose provisioning has failed. -/
def Small.failedProvisioning : DbSession :=
  let w := Runs.run step Small.world
    (events ([createTenant, webhook .paymentConfirmed "paid", .startTask 0, .taskPhase 0 (.ok "done"),
      .taskPhase 0 (.ok "done")] ++ List.replicate 4 (.taskPhase 0 (.error .operationalError))))
  opened w.db w.queue

set_option maxRecDepth 100000 in
/-- The retry of a provisioning that has failed creates a job. -/
theorem retried_after_failure : NotStranded 1 (Small.retry.run Small.env Small.failedProvisioning).2 := by
  have hok : (Small.retry.run Small.env Small.failedProvisioning).1 = .ok () := by decide +kernel
  have hrow : (Small.retry.tenant Small.env Small.failedProvisioning).any (fun tenant =>
      decide (tenant.id = 1 ∧ (Small.failedProvisioning.work.user? tenant.ownerId).isSome = true ∧
        Small.failedProvisioning.work.provisionable tenant.id = true)) = true := by decide +kernel
  obtain ⟨tenant, htenant, hall⟩ := (Option.any_eq_true _ _).1 hrow
  obtain ⟨hid, howner, hprovisionable⟩ := of_decide_eq_true hall
  rw [← hid]
  exact (not_stranded_iff (Prod.ext hok rfl) htenant howner).2 hprovisionable

end ControlPlane
