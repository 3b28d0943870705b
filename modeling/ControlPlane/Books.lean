import ControlPlane.Base.Parts
import ControlPlane.Billing.Recording
import ControlPlane.LedgerInvariant
import ControlPlane.StrandedTenants

/-!
# The books over whole runs

Jobs, backups, outbox rows, payment events and audit entries are written by every program, and always committed at once.
`Books.Kept C K` lists the single writes that can happen to them and to the queue, with create jobs for the tenants in `C`
only; `step_books` goes over all the programs of a step and finds nothing else, if its calls of
`enqueue_provisioning_for_paid_tenant` are for tenants in `C`.  An invariant of the books and the queue is then a matter
of these writes.
-/

namespace ControlPlane

open Table Session Session.Proc

/-- The rows that keep the books. -/
structure Books where
  jobs : List Job
  backups : List BackupManifest
  outbox : List PaymentEventOutbox
  paymentEvents : List PaymentEvent
  auditLogs : List AuditLog

def Db.books (db : Db) : Books := ⟨db.jobs, db.backups, db.outbox, db.paymentEvents, db.auditLogs⟩

/-- The type of the job a task is put on the queue for. -/
def Task.jobType : Task → JobType
  | provisionTenant .. => .create
  | backupTenant .. => .backup
  | restoreTenant .. => .restore
  | deleteTenant .. => .delete

/-- A task is for a job: it names the job and the job's tenant, and does what the job is about. -/
structure Task.For (task : Task) (job : Job) : Prop where
  jobId : task.jobId = job.id
  tenantId : task.tenantId = job.tenantId
  type : task.jobType = job.type

/-- What a worker may change of a job: its progress, and it is no longer queued. -/
structure Job.Worked (job job' : Job) : Prop where
  id : job'.id = job.id
  tenantId : job'.tenantId = job.tenantId
  type : job'.type = job.type
  rqJobId : job'.rqJobId = job.rqJobId
  createdAt : job'.createdAt = job.createdAt
  status : job'.status ≠ .queued

/-- What a delivery may change of the outbox row it has found or filed: its progress, and only while it is not yet
processed. -/
structure PaymentEventOutbox.Marked (row row' : PaymentEventOutbox) : Prop where
  pending : row.status ≠ .processed
  rest : row' = { row with
    status := row'.status, attempts := row'.attempts, lastError := row'.lastError, processedAt := row'.processedAt }
  attempts : row.attempts ≤ row'.attempts

theorem PaymentEventOutbox.Marked.id {row row' : PaymentEventOutbox} (h : row.Marked row') : row'.id = row.id := by
  rw [h.rest]

theorem PaymentEventOutbox.Marked.dedupKey {row row' : PaymentEventOutbox} (h : row.Marked row') :
    row'.dedupKey = row.dedupKey := by
  rw [h.rest]

/-- The writes of jobs, of the queue, of backups and of audit entries keep `K`, if create jobs are made and put on the queue
for the tenants in `C` only. -/
structure Books.Worked (C : Nat → Prop) (K : Books → List Task → Prop) : Prop where
  ids : ∀ b q, K b q → (b.jobs.map Job.id).Nodup
  audited : ∀ b q row, K b q → AuditLog.id row = fresh b.auditLogs →
    K { b with auditLogs := insert b.auditLogs row } q
  jobAdded : ∀ b q job, K b q → Job.id job = fresh b.jobs → job.rqJobId = none → job.status = .queued →
    (job.type = .create → C job.tenantId) → K { b with jobs := insert b.jobs job } q
  enqueued : ∀ b q job task, K b q → get? b.jobs (Job.id job) = some job → Task.For task job →
    (job.type = .create → C job.tenantId) → K b (q ++ [task])
  linked : ∀ b q job task, K b q → get? b.jobs (Job.id job) = some job → Task.For task job → job.rqJobId = none →
    (job.type = .create → C job.tenantId) →
      K { b with jobs := put b.jobs { job with rqJobId := some q.length } } (q ++ [task])
  worked : ∀ b q task job job', K b q → task ∈ q → get? b.jobs (Task.jobId task) = some job → Job.Worked job job' →
    K { b with jobs := put b.jobs job' } q
  manifest : ∀ b q jobId tenantId row, K b q → Task.backupTenant jobId tenantId ∈ q →
    BackupManifest.id row = fresh b.backups → row.jobId = jobId → row.tenantId = tenantId →
      K { b with backups := insert b.backups row } q

/-- So do those of the outbox and of the payment events. -/
structure Books.Kept (C : Nat → Prop) (K : Books → List Task → Prop) : Prop extends Books.Worked C K where
  outboxIds : ∀ b q, K b q → (b.outbox.map PaymentEventOutbox.id).Nodup
  recorded : ∀ b q row, K b q → PaymentEvent.id row = fresh b.paymentEvents →
    K { b with paymentEvents := insert b.paymentEvents row } q
  filed : ∀ b q row, K b q → PaymentEventOutbox.id row = fresh b.outbox →
    (∀ o ∈ b.outbox, PaymentEventOutbox.dedupKey o ≠ row.dedupKey) → row.status = .pending →
      K { b with outbox := insert b.outbox row } q
  marked : ∀ b q row row', K b q → get? b.outbox (PaymentEventOutbox.id row) = some row →
    PaymentEventOutbox.Marked row row' → K { b with outbox := put b.outbox row' } q

/-- The session has the books as they are committed, and `K` holds of them and of the queue. -/
abbrev Booked (K : Books → List Task → Prop) : DbSession → Prop := Agreed Db.books K

/-! ### The programs that keep the books -/

section

variable {K : Books → List Task → Prop}

theorem booked_commit (env : Env) : Keeps (Booked K) (commit env) := Agreed.commit fun _ _ _ => rfl

theorem booked_utcnow (env : Env) : Keeps (Booked K) (utcnow env) := .bind .now fun _ => .pure _

/-- A change that leaves the books alone. -/
theorem booked_change {α : Type} {env : Env} {f : Time → PlatformErpClient → Db → Except PyError (α × Db)}
    (hf : ∀ now client db a db', f now client db = .ok (a, db') → db'.books = db.books) :
    Keeps (Booked K) (change env f) :=
  .bind .now fun _ => Agreed.body fun db a db' h => hf _ _ db a db' h

theorem booked_recordAuditEvent (env : Env) (action resource : String) (id : Option Nat)
    (haudited : ∀ b q row, K b q → AuditLog.id row = fresh b.auditLogs →
      K { b with auditLogs := insert b.auditLogs row } q) :
    Keeps (Booked K) (recordAuditEvent env action resource id) := by
  refine .bind (booked_utcnow env) fun time => ?_
  exact Agreed.write (fun _ _ _ => rfl) fun db q hK => haudited db.books q _ hK rfl

theorem moveTenantStatus_books (env : Env) (tenantId : Nat) (status : TenantStatus) :
    Keeps (Booked K) (change env (moveTenantStatus tenantId status)) := by
  refine booked_change fun now client db u db' hr => ?_
  obtain ⟨tenant, -, hr⟩ := bind_eq_ok.1 hr
  obtain ⟨moved, -, hr⟩ := bind_eq_ok.1 hr
  cases hr
  rfl

theorem checkTenant_books (env : Env) (tenantId : Nat) (check : Db → Tenant → Time → Except PyError Unit) :
    Keeps (Booked K) (checkTenant env tenantId check) := by
  refine booked_change fun now client db u db' hr => ?_
  obtain ⟨tenant, -, hr⟩ := bind_eq_ok.1 hr
  obtain ⟨u, -, hr⟩ := bind_eq_ok.1 hr
  cases hr
  rfl

/-- A job that a program has just added or found, not yet on the queue. -/
def Waiting (K : Books → List Task → Prop) (job : Job) (b : Books) (q : List Task) : Prop :=
  K b q ∧ get? b.jobs job.id = some job ∧ job.rqJobId = none

end

namespace Books.Worked

variable {C : Nat → Prop} {K : Books → List Task → Prop} (h : Books.Worked C K)
include h

theorem audit (env : Env) (action resource : String) (id : Option Nat) :
    Keeps (Booked K) (recordAuditEvent env action resource id) := booked_recordAuditEvent env _ _ _ h.audited

theorem addJob (env : Env) {tenantId : Nat} (type : JobType) (hC : type = .create → C tenantId) :
    Triple (Booked K) (addJob env tenantId type)
      (fun job s => Booked (Waiting K job) s ∧ (job.tenantId = tenantId ∧ job.type = type)) (Booked K) := by
  intro s hs
  rw [addJob_apply]
  dsimp only
  split
  · exact ⟨rfl, hs.holds⟩
  · have hK : K s.work.books s.outside := by
      rw [hs.same]
      exact hs.holds
    refine ⟨⟨rfl, ?_, ?_, rfl⟩, rfl, rfl⟩
    · exact h.jobAdded _ _ (newJob s.work tenantId type (env.clock s.tick)) hK rfl rfl rfl hC
    · exact get?_insert_self (get?_fresh s.work.jobs)

theorem enqueueJob (env : Env) {job : Job} {task : Task} (htask : task.For job)
    (hC : job.type = .create → C job.tenantId) :
    Triple (Booked (Waiting K job)) (enqueueJob env job task) (fun _ => Booked K) (Booked K) := by
  intro s hs
  obtain ⟨hsaved, hrow, hnone⟩ := hs.holds
  rw [enqueueJob_apply]
  dsimp only
  split
  · exact ⟨hs.same, hsaved⟩
  split
  · exact ⟨rfl, h.enqueued _ _ job task hsaved hrow htask hC⟩
  · refine ⟨rfl, ?_⟩
    have hwritten := h.linked _ _ job task hsaved hrow htask hnone hC
    rw [← hs.same] at hwritten
    exact hwritten

theorem enqueueProvisioningForPaidTenant (env : Env) {tenantId : Nat} (ownerEmail : String) (hC : C tenantId) :
    Keeps (Booked K) (enqueueProvisioningForPaidTenant env tenantId ownerEmail) := by
  intro s hs
  unfold ControlPlane.enqueueProvisioningForPaidTenant
  rw [bind_ok (read_apply s)]
  cases hlive : liveCreateJob s.work tenantId with
  | none =>
    refine Triple.bind (h.addJob env .create fun _ => hC) (fun job => ?_) s hs
    refine Triple.of_fact fun ⟨htenant, htype⟩ => ?_
    have hfor : (Task.provisionTenant job.id tenantId ownerEmail).For job := ⟨rfl, htenant.symm, htype.symm⟩
    exact Triple.bind (h.enqueueJob env hfor fun _ => htenant ▸ hC) fun _ => Keeps.pure _
  | some existing =>
    dsimp only
    split
    · rename_i hqueued
      obtain ⟨hmem, htenant, htype⟩ := mem_of_liveCreateJob hlive
      have hids : (s.work.jobs.map key).Nodup := by
        have hnodup := h.ids _ _ hs.holds
        rw [← hs.same] at hnodup
        exact hnodup
      have hrow : get? s.saved.books.jobs existing.id = some existing := by
        rw [← hs.same]
        exact get?_of_mem hids hmem
      have hfor : (Task.provisionTenant existing.id tenantId ownerEmail).For existing :=
        ⟨rfl, htenant.symm, htype.symm⟩
      have hwaiting : Booked (Waiting K existing) s := ⟨hs.same, hs.holds, hrow, hqueued.2⟩
      exact Triple.bind (h.enqueueJob env hfor fun _ => htenant ▸ hC) (fun _ => Keeps.pure _) s hwaiting
    · exact hs

/-- Putting a tenant's provisioning on the queue asks that the tenant is in `C` only if it does anything. -/
theorem holds_enqueueProvisioning {env : Env} {tenantId : Nat} {ownerEmail : String} {s : DbSession} (hs : Booked K s)
    (hC : provisioningDue env s.work tenantId s.tick = true → C tenantId) :
    Booked K (ControlPlane.enqueueProvisioningForPaidTenant env tenantId ownerEmail s).2 := by
  cases hdue : provisioningDue env s.work tenantId s.tick with
  | true => exact (h.enqueueProvisioningForPaidTenant env ownerEmail (hC hdue)).apply hs
  | false =>
    obtain ⟨hsaved, houtside, hwork⟩ := enqueueProvisioning_of_not_due ownerEmail hdue
    refine ⟨?_, ?_⟩
    · rcases hwork with hwork | hwork
      · rw [hwork, hsaved]
        exact hs.same
      · rw [hwork, hsaved]
    · rw [hsaved, houtside]
      exact hs.holds

theorem enqueueBackup (env : Env) (tenantId : Nat) : Keeps (Booked K) (enqueueBackup env tenantId) := by
  refine Triple.bind (h.addJob env .backup nofun) fun job => Triple.of_fact fun ⟨htenant, htype⟩ => ?_
  have hfor : (Task.backupTenant job.id tenantId).For job := ⟨rfl, htenant.symm, htype.symm⟩
  exact Triple.bind (h.enqueueJob env hfor fun hcreate => by rw [htype] at hcreate; cases hcreate) fun _ =>
    Keeps.bind (h.audit env _ _ _) fun _ => Keeps.pure _

theorem enqueueDelete (env : Env) (tenantId : Nat) : Keeps (Booked K) (enqueueDelete env tenantId) := by
  refine .bind (moveTenantStatus_books env tenantId _) fun _ => .bind (booked_commit env) fun _ => ?_
  refine Triple.bind (h.addJob env .delete nofun) fun job => Triple.of_fact fun ⟨htenant, htype⟩ => ?_
  have hfor : (Task.deleteTenant job.id tenantId).For job := ⟨rfl, htenant.symm, htype.symm⟩
  exact Triple.bind (h.enqueueJob env hfor fun hcreate => by rw [htype] at hcreate; cases hcreate) fun _ =>
    Keeps.bind (h.audit env _ _ _) fun _ => Keeps.pure _

theorem restoreTenant (env : Env) (tenantId backupId : Nat) :
    Keeps (Booked K) (restoreTenant env tenantId backupId) := by
  refine .bind (checkTenant_books env tenantId _) fun _ => ?_
  refine Triple.bind (h.addJob env .restore nofun) fun job => Triple.of_fact fun ⟨htenant, htype⟩ => ?_
  have hfor : (Task.restoreTenant job.id tenantId backupId).For job := ⟨rfl, htenant.symm, htype.symm⟩
  -- the audit entry between the job and its queue entry leaves the job as it is
  have haudit : Keeps (Booked (Waiting K job)) (recordAuditEvent env "tenant.restore_requested" "tenants" (some tenantId)) :=
    booked_recordAuditEvent env _ _ _ fun b q row hb hid => ⟨h.audited b q row hb.1 hid, hb.2⟩
  refine Triple.bind (R := fun _ => Booked (Waiting K job)) (E := Booked K) ?_ fun _ => ?_
  · exact Triple.conseq haudit (fun _ hs => hs) (fun _ _ hs => hs) fun _ hs => hs.mono fun _ _ hK => hK.1
  · refine Triple.bind (R := fun _ => Booked K) (fun s hs => ?_) fun _ => Keeps.pure _
    rw [enqueue_apply]
    split
    · exact ⟨hs.same, hs.holds.1⟩
    · refine ⟨hs.same, h.enqueued _ _ job _ hs.holds.1 hs.holds.2.1 hfor fun hcreate => ?_⟩
      rw [htype] at hcreate
      cases hcreate

/-! ### Tasks -/

/-- A worker's progress on the job of a task that is on the queue. -/
theorem updateJob (env : Env) {task : Task} {f : Time → Job → Job} (hf : ∀ time job, Job.Worked job (f time job)) :
    Keeps (Booked fun b q => K b q ∧ task ∈ q) (updateJob env task f) := by
  refine .bind (booked_utcnow env) fun time => Agreed.write (fun _ _ _ => rfl) fun db q ⟨hK, htask⟩ => ⟨?_, htask⟩
  have hwritten : K { db.books with jobs := Table.modify db.jobs task.jobId (f time) } q := by
    cases hrow : get? db.jobs task.jobId with
    | none =>
      rw [modify_of_get?_none hrow]
      exact hK
    | some job =>
      rw [modify_of_get? hrow]
      exact h.worked _ _ task job _ hK htask hrow (hf time job)
  exact hwritten

theorem addManifest (env : Env) (task : Task) (filePath : String) :
    Keeps (Booked fun b q => K b q ∧ task ∈ q) (addManifest env task filePath) := by
  cases task with
  | backupTenant jobId tenantId =>
    refine .bind (booked_utcnow env) fun time => Agreed.write (fun _ _ _ => rfl) fun db q ⟨hK, htask⟩ => ⟨?_, htask⟩
    exact h.manifest _ _ jobId tenantId _ hK htask rfl rfl rfl
  | _ => exact .pure _

end Books.Worked

theorem loadEntities_books (env : Env) (task : Task) {K : Books → List Task → Prop} :
    Keeps (Booked K) (change env fun _ _ db => do return (← loadEntities db task, db)) := by
  refine booked_change fun now client db r db' hr => ?_
  obtain ⟨entities, -, hr⟩ := bind_eq_ok.1 hr
  cases hr
  rfl

theorem moveTenant_books (env : Env) (task : Task) (customerId : Option String) (status : Option TenantStatus)
    (stamp : Bool) {K : Books → List Task → Prop} : Keeps (Booked K) (moveTenant env task customerId status stamp) := by
  refine .bind (booked_change fun now client db outcome db' hr => ?_) fun outcome => ?_
  · split at hr
    · cases hr; rfl
    · cases hr
    · split at hr
      · cases hr; rfl
      · cases hr; rfl
  · cases outcome with
    | none => exact .bind (booked_commit env) fun _ => .pure _
    | some error => exact .pure _

/-- A phase of a task that is on the queue. -/
theorem Books.Worked.taskPhase {C : Nat → Prop} {K : Books → List Task → Prop} (h : Books.Worked C K) (env : Env) (task : Task)
    (phase : Phase) (outside : Except PyError String) :
    Keeps (Booked fun b q => K b q ∧ task ∈ q) (taskPhase env task phase outside) := by
  have haudit : ∀ stage, Keeps (Booked fun b q => K b q ∧ task ∈ q)
      (recordAuditEvent env (task.auditAction stage) "tenants" (some task.tenantId)) := fun stage =>
    booked_recordAuditEvent env _ _ _ fun b q row hb hid => ⟨h.audited b q row hb.1 hid, hb.2⟩
  have hrunning : Keeps (Booked fun b q => K b q ∧ task ∈ q) (markJobRunning env task) :=
    h.updateJob env fun time job => ⟨rfl, rfl, rfl, rfl, rfl, fun hq => by cases hq⟩
  have hsuccess : Keeps (Booked fun b q => K b q ∧ task ∈ q) (markJobSuccess env task) :=
    h.updateJob env fun time job => ⟨rfl, rfl, rfl, rfl, rfl, fun hq => by cases hq⟩
  have hfailed : ∀ error, Keeps (Booked fun b q => K b q ∧ task ∈ q) (markJobFailed env task error) := fun error =>
    h.updateJob env fun time job => ⟨rfl, rfl, rfl, rfl, rfl, fun hq => by cases hq⟩
  unfold ControlPlane.taskPhase
  cases phase with
  | begin => exact .bind (loadEntities_books env task) fun _ => .bind hrunning fun _ => .pure _
  | enter =>
    refine .bind (moveTenant_books env task none _ false) fun outcome => ?_
    cases outcome <;> exact .pure _
  | work =>
    refine .bind ?_ fun _ => .bind .read fun db => ?_
    · unfold recordStart
      split
      · exact haudit _
      · exact .pure _
    · cases manifestFound db task with
      | false => exact .pure _
      | true =>
        cases outside with
        | error error => exact .pure _
        | ok result => exact .bind (h.addManifest env task result) fun _ => .pure _
  | complete result =>
    refine .bind (moveTenant_books env task _ _ true) fun outcome => ?_
    cases outcome <;> exact .pure _
  | close =>
    refine .bind hsuccess fun _ => ?_
    cases outside with
    | error error => exact .pure _
    | ok result => exact .bind (haudit _) fun _ => .pure _
  | failing error dirtyCustomerId =>
    exact .bind (loadEntities_books env task) fun _ => .bind (Agreed.modify fun _ => rfl) fun _ =>
      .bind (booked_commit env) fun _ => .pure _
  | marking error =>
    refine .bind (moveTenant_books env task none _ _) fun outcome => ?_
    cases outcome with
    | none => exact .pure _
    | some refused => exact .raise _
  | closing error =>
    dsimp only
    split
    · exact .bind hsuccess fun _ => .bind (haudit _) fun _ => .pure _
    · exact .bind (hfailed error) fun _ => .bind (haudit _) fun _ => .pure _
  | refused error => exact .bind (loadEntities_books env task) fun _ => .bind (hfailed error) fun _ => .pure _

/-! ### Webhooks and billing -/

theorem eventBody_books {provider : String} {event : WebhookEvent} {now : Time} {client : PlatformErpClient}
    {db db' : Db} {handled : Handled} (h : eventBody provider event now client db = .ok (handled, db')) :
    db'.books = db.books := by
  obtain ⟨tenants, plans, subscriptions, accounts, invoices, attempts, events, rfl⟩ := eventBody_frame h
  rfl

/-- Reconciling an invoice writes no books. -/
theorem reconcileInvoice_books {tenantId invoiceId : Nat} {now : Time} {client : PlatformErpClient} {db db' : Db}
    {r : InvoiceReconciliationResult × Option String}
    (h : reconcileInvoice tenantId invoiceId now client db = .ok (r, db')) : db'.books = db.books := by
  obtain ⟨result, email⟩ := r
  obtain ⟨tenant, -, h⟩ := bind_eq_ok.1 h
  obtain ⟨invoice, -, h⟩ := bind_eq_ok.1 h
  obtain ⟨⟨resynced, db₁⟩, hresync, h⟩ := bind_eq_ok.1 h
  obtain ⟨accounts, invoices, rfl⟩ := resyncOneInvoice_frame hresync
  dsimp only at h
  split at h
  · obtain ⟨paid, updated, resolved, db₂, db₃, hpay, hresolve, -, hcases⟩ := reconcileSettledInvoice_parts rfl h
    obtain ⟨attempts, rfl⟩ := payAttemptFromErp_frame hpay
    cases hresolve
    rcases hcases with ⟨-, -, opened, db₄, hopen, rfl⟩ | ⟨s, activated, outcome, -, -, -, -, -, rfl⟩
    · obtain ⟨exceptions, rfl⟩ := openBillingException_frame hopen
      rfl
    · rfl
  · obtain ⟨-, attempts, events, exceptions, rfl⟩ := reconcileUnsettledInvoice_frame (Except.ok.inj h)
    rfl

theorem syncForTenant_books {tenantId limit : Nat} {now : Time} {client : PlatformErpClient} {db db' : Db} {u : Unit}
    (h : syncForTenant tenantId limit now client db = .ok (u, db')) : db'.books = db.books := by
  obtain ⟨accounts, invoices, rfl⟩ := syncForTenant_frame h
  rfl

theorem addPaymentAttempt_books (db : Db) (tenant : Tenant) (invoice : BillingInvoice) (checkout : CheckoutResult)
    (now : Time) : (addPaymentAttempt db tenant invoice checkout now).books = db.books := by
  unfold addPaymentAttempt
  dsimp only
  split
  · rfl
  · rfl

theorem preparePaymentAttempt_books {gateway : PaymentGateway} {tenant : Tenant} {owner : User}
    {invoice : BillingInvoice} {provider : Option String} {now : Time} {client : PlatformErpClient} {db db' : Db}
    {attemptId : Nat}
    (h : preparePaymentAttempt gateway tenant owner invoice provider now client db = .ok (attemptId, db')) :
    db'.books = db.books := by
  obtain ⟨⟨resynced, db₁⟩, hresync, h⟩ := bind_eq_ok.1 h
  obtain ⟨u, -, h⟩ := bind_eq_ok.1 h
  obtain ⟨u', -, h⟩ := bind_eq_ok.1 h
  obtain ⟨checkout, -, h⟩ := bind_eq_ok.1 h
  obtain ⟨accounts, invoices, rfl⟩ := resyncOneInvoice_frame hresync
  cases h
  exact addPaymentAttempt_books _ tenant resynced checkout now

namespace Books.Worked

variable {C : Nat → Prop} {K : Books → List Task → Prop} (h : Books.Worked C K)
include h

/-- The outbox stays as it is in all of these writes. -/
theorem outbox (P : List PaymentEventOutbox → Prop) : Books.Worked C fun b q => K b q ∧ P b.outbox where
  ids b q hb := h.ids b q hb.1
  audited b q row hb hid := ⟨h.audited b q row hb.1 hid, hb.2⟩
  jobAdded b q job hb hid hnone hqueued hC := ⟨h.jobAdded b q job hb.1 hid hnone hqueued hC, hb.2⟩
  enqueued b q job task hb hrow htask hC := ⟨h.enqueued b q job task hb.1 hrow htask hC, hb.2⟩
  linked b q job task hb hrow htask hnone hC := ⟨h.linked b q job task hb.1 hrow htask hnone hC, hb.2⟩
  worked b q task job job' hb htask hrow hjob := ⟨h.worked b q task job job' hb.1 htask hrow hjob, hb.2⟩
  manifest b q jobId tenantId row hb htask hid hjob htenant :=
    ⟨h.manifest b q jobId tenantId row hb.1 htask hid hjob htenant, hb.2⟩

theorem eventFollowUp {env : Env} {eventType : WebhookEventType} {tenantId : Nat} {email : Option String}
    {s : DbSession} (hs : Booked K s)
    (hC : eventType = .paymentConfirmed → provisioningDue env s.work tenantId s.tick = true → C tenantId) :
    Booked K (eventFollowUp env eventType tenantId email s).2 := by
  unfold ControlPlane.eventFollowUp
  cases eventType with
  | paymentConfirmed =>
    exact Keeps.holds_bind (h.holds_enqueueProvisioning hs (hC rfl)) fun _ _ _ hs₁ =>
      (Keeps.bind (h.audit env _ _ _) fun _ => .pure _).apply hs₁
  | paymentFailed => exact (Keeps.bind (h.audit env _ _ _) fun _ => .pure _).apply hs
  | subscriptionCancelled => exact (Keeps.bind (h.audit env _ _ _) fun _ => .pure _).apply hs
  | other name => exact hs

/-- The handler of an event asks it of the tenant whose payment it confirms. -/
theorem processEvent {env : Env} {provider : String} {event : WebhookEvent} {s : DbSession} (hs : Booked K s)
    (hC : event.eventType = .paymentConfirmed → ∀ call ∈ confirmationCall env provider event s,
      call.provisions env = true → C call.tenantId) : Booked K (processEvent env provider event s).2 := by
  rw [processEvent_eq]
  have hbody : Keeps (Booked K) (change env (eventBody provider event)) :=
    booked_change fun now client db handled db' hr => eventBody_books hr
  refine Keeps.holds_bind (hbody.apply hs) fun handled s₁ hchange hs₁ => ?_
  cases handled with
  | ignored message => exact hs₁
  | changed tenantId email =>
    refine Keeps.holds_bind ((booked_commit env).apply hs₁) fun u s₂ hcommit hs₂ => ?_
    refine h.eventFollowUp hs₂ fun htype hdue => hC htype ⟨tenantId, s₂⟩ ?_ hdue
    have hconfirm : eventBody provider event = confirmPayment provider event := by
      funext now client db
      rw [eventBody, htype]
    rw [hconfirm] at hchange
    unfold confirmationCall
    rw [hchange]
    dsimp only
    rw [hcommit]
    rfl

/-- The repair of an invoice asks it of the tenant it leaves `pending`. -/
theorem reconcileInvoiceSettlement {env : Env} {tenantId invoiceId : Nat} {s : DbSession} (hs : Booked K s)
    (hC : ∀ call ∈ repairCall env tenantId invoiceId s, call.provisions env = true → C call.tenantId) :
    Booked K (reconcileInvoiceSettlement env tenantId invoiceId s).2 := by
  have hbody : Keeps (Booked K) (change env (reconcileInvoice tenantId invoiceId)) :=
    booked_change fun now client db r db' hr => reconcileInvoice_books hr
  refine Keeps.holds_bind (hbody.apply hs) fun r s₁ hchange hs₁ => ?_
  obtain ⟨result, email⟩ := r
  cases email with
  | none => exact (Keeps.bind (booked_commit env) fun _ => .pure _).apply hs₁
  | some address =>
    refine Keeps.holds_bind (h.holds_enqueueProvisioning hs₁ fun hdue => hC ⟨tenantId, s₁⟩ ?_ hdue) fun _ _ _ hs₂ => hs₂
    unfold repairCall
    rw [hchange]
    rfl

theorem reconcileInvoices {env : Env} {tenantId : Nat} {ids : List Nat} {s : DbSession} (hs : Booked K s)
    (hC : ∀ v ∈ visits (ControlPlane.reconcileInvoiceSettlement env tenantId) ids s, ∀ call ∈ repairCall env tenantId v.1 v.2,
      call.provisions env = true → C call.tenantId) (summary : TenantBillingReconciliationResult) :
    Booked K (reconcileInvoices env tenantId ids summary s).2 := by
  induction ids generalizing s summary with
  | nil => exact hs
  | cons id ids ih =>
    have hhead := h.reconcileInvoiceSettlement hs (hC (id, s) (List.mem_cons_self ..))
    refine Keeps.holds_bind hhead fun outcome s₁ hr hs₁ => ih hs₁ (fun v hv => hC v ?_) _
    rw [visits, hr]
    exact List.mem_cons_of_mem _ hv

theorem reconcileTenantBilling {env : Env} {tenantId : Nat} {invoiceId : Option Nat} {s : DbSession} (hs : Booked K s)
    (hC : ∀ v ∈ reconciliationVisits env tenantId invoiceId s, ∀ call ∈ repairCall env tenantId v.1 v.2,
      call.provisions env = true → C call.tenantId) :
    Booked K (reconcileTenantBilling env tenantId invoiceId s).2 := by
  have hsync : Keeps (Booked K) (change env (syncForTenant tenantId 50)) :=
    booked_change fun now client db u db' hr => syncForTenant_books hr
  refine Keeps.holds_bind (hsync.apply hs) fun u s₁ hr hs₁ => ?_
  unfold reconciliationVisits at hC
  rw [hr] at hC
  rw [bind_ok (read_apply s₁)]
  exact h.reconcileInvoices hs₁ hC _

end Books.Worked

namespace Books.Kept

variable {C : Nat → Prop} {K : Books → List Task → Prop} (h : Books.Kept C K)
include h

theorem recordPaymentEvent (env : Env) (provider eventType processingStatus : String) (httpStatus : Nat)
    (message : String) (event : Option WebhookEvent) (payload : Json) :
    Keeps (Booked K) (recordPaymentEvent env provider eventType processingStatus httpStatus message event payload) := by
  refine .attempt ?_ fun _ => Agreed.rollback
  intro s hs
  rw [bind_ok (read_apply s)]
  have hK : K s.work.books s.outside := by
    rw [hs.same]
    exact hs.holds
  have hadded := h.recorded s.work.books s.outside
    (newPaymentEvent provider eventType processingStatus httpStatus message event s.work) hK rfl
  rw [bind_ok (modify_apply _ s)]
  unfold ControlPlane.commitRow
  split
  · exact ⟨rfl, hs.holds⟩
  · rw [commit_apply]
    split
    · exact ⟨rfl, hs.holds⟩
    · exact ⟨rfl, hadded⟩

/-- Filing an event finds or adds its row. -/
theorem ensureOutboxEvent (env : Env) (provider : String) (event : WebhookEvent) :
    Triple (Booked K) (ensureOutboxEvent env provider event)
      (fun row => Booked fun b q => K b q ∧ get? b.outbox row.id = some row) (Booked K) := by
  intro s hs
  have hK : K s.work.books s.outside := by
    rw [hs.same]
    exact hs.holds
  unfold ControlPlane.ensureOutboxEvent
  rw [bind_ok (read_apply s)]
  cases hrow : outboxRow? env.settings provider event s.work with
  | some existing =>
    have hmem : existing ∈ s.work.books.outbox := List.mem_of_find?_eq_some hrow
    refine ⟨hs.same, hs.holds, ?_⟩
    rw [← hs.same]
    exact get?_of_mem (h.outboxIds _ _ hK) hmem
  | none =>
    have hnew : ∀ o ∈ s.work.outbox, o.dedupKey ≠ buildOutboxDedupKey env.settings provider event := by
      intro o ho hkey
      have hno := List.find?_eq_none.1 hrow o ho
      exact hno (decide_eq_true hkey)
    have hfiled := h.filed s.work.books s.outside (newOutboxEvent env.settings provider event s.work) hK rfl hnew rfl
    have hfound : get? (insert s.work.outbox (newOutboxEvent env.settings provider event s.work)) (fresh s.work.outbox) =
        some (newOutboxEvent env.settings provider event s.work) := get?_insert_self (get?_fresh s.work.outbox)
    dsimp only
    rw [bind_ok (modify_apply _ s)]
    unfold ControlPlane.commitRow
    split
    · exact ⟨rfl, hs.holds⟩
    · rw [commit_bind]
      split
      · exact ⟨rfl, hs.holds⟩
      · exact ⟨rfl, hfiled, hfound⟩

/-- Marking the row a delivery works on, while it is not yet processed. -/
theorem markOutbox (env : Env) {row : PaymentEventOutbox} {f : Time → PaymentEventOutbox → PaymentEventOutbox}
    (hf : ∀ time, row.Marked (f time row)) :
    Triple (Booked fun b q => K b q ∧ get? b.outbox row.id = some row) (markOutbox env row.id f)
      (fun _ s => ∃ time, Booked (fun b q => K b q ∧ get? b.outbox row.id = some (f time row)) s) (Booked K) := by
  intro s hs
  obtain ⟨hK, hrow⟩ := hs.holds
  unfold ControlPlane.markOutbox
  rw [bind_ok (utcnow_apply env s), bind_ok (modify_apply _ s), commit_apply]
  dsimp only
  split
  · exact ⟨rfl, hK⟩
  · have hwork : get? s.work.outbox row.id = some row := by
      rw [show s.work.outbox = s.saved.outbox from congrArg Books.outbox hs.same]
      exact hrow
    have hkey : key (f (env.clock s.tick) row) = key row := (hf (env.clock s.tick)).id
    have hmarked := h.marked s.work.books s.outside row (f (env.clock s.tick) row) (by rw [hs.same]; exact hK) hwork (hf _)
    refine ⟨env.clock s.tick, rfl, ?_, ?_⟩
    · rw [modify_of_get? hwork]
      exact hmarked
    · exact get?_modify_self hkey hwork

/-- A delivery that reaches its handler has marked the row of its event, which was not processed. -/
theorem markedOutbox {env : Env} {db : Db} {delivery : WebhookDelivery} {queue : List Task} {event : WebhookEvent}
    {tick : Nat} (hK : K db.books queue) (hdelivered : deliveredEvent env db delivery = some (event, tick)) :
    ∃ row, ((outboxRow? env.settings (delivery.provider env) event db).getD
        (newOutboxEvent env.settings (delivery.provider env) event db)).id = row.id ∧ row.status ≠ .processed ∧
      Booked (fun b q => K b q ∧ get? b.outbox row.id = some row)
        (quiet db (ControlPlane.markedOutbox env.settings (delivery.provider env) event db) queue tick) := by
  have hmark : ∀ (b : Books) (row : PaymentEventOutbox), K b queue → get? b.outbox row.id = some row →
      row.status ≠ .processed → K { b with outbox := Table.modify b.outbox row.id markProcessing } queue ∧
        get? (Table.modify b.outbox row.id markProcessing) row.id = some (markProcessing row) := by
    intro b row hb hrow hstatus
    rw [modify_of_get? hrow]
    exact ⟨h.marked b queue row (markProcessing row) hb hrow ⟨hstatus, rfl, Nat.le_succ _⟩,
      get?_put_self (r := markProcessing row) hrow⟩
  have hopen : ∀ row, (markProcessing row).status ≠ .processed := fun row heq => by cases heq
  unfold deliveredEvent at hdelivered
  split at hdelivered
  · cases hdelivered
  split at hdelivered
  · cases hdelivered
  rename_i parsed hparsed
  unfold ControlPlane.markedOutbox
  cases hrow : outboxRow? env.settings (delivery.provider env) parsed db with
  | some row =>
    rw [hrow] at hdelivered
    dsimp only at hdelivered
    split at hdelivered
    · cases hdelivered
    · rename_i hnot
      cases hdelivered
      have hfound : get? db.outbox row.id = some row :=
        get?_of_mem (h.outboxIds _ _ hK) (List.mem_of_find?_eq_some hrow)
      obtain ⟨hkept, hget⟩ := hmark db.books row hK hfound fun hp => hnot (Or.inl hp)
      rw [hrow]
      exact ⟨markProcessing row, rfl, hopen row, rfl, hkept, hget⟩
  | none =>
    rw [hrow] at hdelivered
    dsimp only at hdelivered
    split at hdelivered
    · cases hdelivered
    split at hdelivered
    · cases hdelivered
    · cases hdelivered
      rw [hrow]
      have hnew : ∀ o ∈ db.outbox, o.dedupKey ≠ buildOutboxDedupKey env.settings (delivery.provider env) event :=
        fun o ho hkey => List.find?_eq_none.1 hrow o ho (decide_eq_true hkey)
      have hfiled := h.filed db.books queue (newOutboxEvent env.settings (delivery.provider env) event db) hK rfl hnew rfl
      obtain ⟨hkept, hget⟩ := hmark _ _ hfiled (get?_insert_self (get?_fresh db.outbox)) fun heq => by cases heq
      exact ⟨markProcessing (newOutboxEvent env.settings (delivery.provider env) event db), rfl, hopen _, rfl, hkept, hget⟩

/-- The handler of an event whose outbox row is marked. -/
theorem runHandler {env : Env} {provider : String} {event : WebhookEvent} {row : PaymentEventOutbox}
    (hrow : row.status ≠ .processed) {s : DbSession} (hs : Booked (fun b q => K b q ∧ get? b.outbox row.id = some row) s)
    (hC : event.eventType = .paymentConfirmed → ∀ call ∈ confirmationCall env provider event s,
      call.provisions env = true → C call.tenantId) : Booked K (runHandler env provider event row.id s).2 := by
  have hworked := h.toWorked.outbox fun o => get? o row.id = some row
  have hprocess : Booked _ (ControlPlane.processEvent env provider event s).2 := hworked.processEvent hs hC
  have hmark : ∀ f : Time → PaymentEventOutbox → PaymentEventOutbox, (∀ time, row.Marked (f time row)) →
      Triple (Booked fun b q => K b q ∧ get? b.outbox row.id = some row) (ControlPlane.markOutbox env row.id f)
        (fun _ => Booked K) (Booked K) := by
    intro f hf
    refine Triple.conseq (h.markOutbox env hf) (fun _ hs => hs) (fun _ s hs => ?_) fun _ hs => hs
    obtain ⟨time, hs⟩ := hs
    exact hs.mono fun _ _ hK => hK.1
  have hdone : ∀ response, Triple (Booked fun b q => K b q ∧ get? b.outbox row.id = some row) (do
      ControlPlane.markOutbox env row.id fun time o =>
        { o with status := .processed, lastError := none, processedAt := some time }
      ControlPlane.recordPaymentEvent env provider event.eventType.text (resolveProcessingStatus response) 200 response
        (some event) event.raw
      return response) (fun _ => Booked K) (Booked K) := fun response =>
    Triple.bind (hmark _ fun time => ⟨hrow, rfl, Nat.le_refl _⟩) fun _ =>
      Keeps.bind (h.recordPaymentEvent env _ _ _ _ _ _ _) fun _ => Keeps.pure _
  have hfailure : ∀ error, Triple (Booked fun b q => K b q ∧ get? b.outbox row.id = some row)
      (recordProcessingFailure env provider event row.id error) (fun _ _ => False) (Booked K) := by
    intro error
    have hrollback : Triple (Booked fun b q => K b q ∧ get? b.outbox row.id = some row) (rollback : Proc Unit)
        (fun _ => Booked fun b q => K b q ∧ get? b.outbox row.id = some row) (Booked K) := fun s hs => ⟨rfl, hs.holds⟩
    exact Triple.bind hrollback fun _ => Triple.bind (hmark _ fun time => ⟨hrow, rfl, Nat.le_refl _⟩) fun _ =>
      Triple.bind (R := fun _ => Booked K) (h.recordPaymentEvent env _ _ _ _ _ _ _) fun _ => Triple.raise _
  unfold ControlPlane.runHandler
  rw [bind_apply]
  unfold attempt
  cases hp : ControlPlane.processEvent env provider event s with
  | mk r s' =>
    rw [hp] at hprocess
    cases r with
    | ok response => exact (hdone response s' hprocess).snd
    | error error => exact (Triple.bind (hfailure error) (fun response s hs => hs.elim) s' hprocess).snd

theorem rejectDelivery (env : Env) (provider eventType processingStatus message : String) (payload : Json) :
    Keeps (Booked K) (rejectDelivery env provider eventType processingStatus message payload) :=
  .bind (h.recordPaymentEvent env _ _ _ _ _ _ _) fun _ => .raise _

/-- A delivery that reaches no handler only records. -/
theorem handleGatewayWebhook_idle {env : Env} {db : Db} {delivery : WebhookDelivery} {queue : List Task}
    (hK : K db.books queue) (hidle : deliveredEvent env db delivery = none) :
    Booked K (handleGatewayWebhook env delivery (opened db queue)).2 := by
  have hopened : Booked K (opened db queue) := Agreed.opened hK
  unfold deliveredEvent at hidle
  unfold ControlPlane.handleGatewayWebhook
  cases hdecode : delivery.decoded with
  | error error => exact hopened
  | ok payload =>
  dsimp only
  by_cases hm : delivery.mismatched env
  · rw [if_pos hm]
    exact (h.rejectDelivery env _ _ _ _ _).apply hopened
  rw [if_neg hm]
  rw [if_neg (by simp [hm, WebhookDelivery.decodeError, hdecode])] at hidle
  cases hparsed : delivery.parsed with
  | error error =>
    cases error with
    | valueError message => exact (h.rejectDelivery env _ _ _ _ _).apply hopened
    | _ => exact hopened
  | ok event =>
  rw [hparsed] at hidle
  dsimp only at hidle ⊢
  unfold ControlPlane.handleEvent
  cases hrow : outboxRow? env.settings (delivery.provider env) event db with
  | some row =>
    rw [hrow] at hidle
    have hfound : ControlPlane.ensureOutboxEvent env (delivery.provider env) event (opened db queue) = _ :=
      ensureOutboxEvent_of_some hrow
    rw [bind_ok hfound]
    split
    · exact (Keeps.bind (h.recordPaymentEvent env _ _ _ _ _ _ _) fun _ => Keeps.pure _).apply hopened
    · rename_i hopen
      -- the mark of the row is the commit that fails
      have h0 : env.commitFails 0 = true := by simpa [hopen] using hidle
      have hmark := processOutboxEvent_unmarked (delivery.provider env) event row.id db queue h0
      rw [show (opened db queue : DbSession) = ⟨db, db, queue, 0⟩ from rfl, hmark]
      exact ⟨rfl, hK⟩
  | none =>
    rw [hrow] at hidle
    dsimp only at hidle
    have hensure := ensureOutboxEvent_of_none queue 0 hrow
    have hfiled := h.ensureOutboxEvent env (delivery.provider env) event (⟨db, db, queue, 0⟩ : DbSession) hopened
    rw [show (opened db queue : DbSession) = ⟨db, db, queue, 0⟩ from rfl, bind_apply]
    rw [hensure] at hfiled ⊢
    by_cases hfits : env.settings.columnsEnforced ∧
        ¬(newOutboxEvent env.settings (delivery.provider env) event db).fits env.settings
    · rw [if_pos hfits]
      exact ⟨rfl, hK⟩
    rw [if_neg hfits] at hfiled hidle ⊢
    cases h0 : env.commitFails 0 with
    | true => exact ⟨rfl, hK⟩
    | false =>
      rw [h0] at hfiled hidle
      have h1 : env.commitFails 1 = true := by simpa using hidle
      have hmark := processOutboxEvent_unmarked (delivery.provider env) event
        (newOutboxEvent env.settings (delivery.provider env) event db).id
        { db with outbox := insert db.outbox (newOutboxEvent env.settings (delivery.provider env) event db) } queue h1
      have hpending : (newOutboxEvent env.settings (delivery.provider env) event db).status ≠ .processed :=
        show OutboxStatus.pending ≠ .processed by decide
      have hkept : Booked K (quiet db (insert db.outbox (newOutboxEvent env.settings (delivery.provider env) event db))
          queue 1) := Agreed.mono (fun _ _ hK => hK.1) hfiled
      have hopen : (if (newOutboxEvent env.settings (delivery.provider env) event db).status = .processed then
          answerDuplicate env (delivery.provider env) event
        else processOutboxEvent env (delivery.provider env) event
          (newOutboxEvent env.settings (delivery.provider env) event db).id) = _ := if_neg hpending
      rw [if_neg Bool.false_ne_true]
      show Booked K ((if (newOutboxEvent env.settings (delivery.provider env) event db).status = .processed then _
        else _ : Proc String) _).2
      rw [hopen]
      unfold quiet at hkept ⊢
      rw [hmark]
      exact ⟨rfl, hkept.holds⟩

/-- A delivery asks for a provisioning only in the handler of its event. -/
theorem handleGatewayWebhook {env : Env} {db : Db} {delivery : WebhookDelivery} {queue : List Task}
    (hK : K db.books queue)
    (hC : ∀ event tick, deliveredEvent env db delivery = some (event, tick) → event.eventType = .paymentConfirmed →
      ∀ call ∈ confirmationCall env (delivery.provider env) event
          (quiet db (ControlPlane.markedOutbox env.settings (delivery.provider env) event db) queue tick),
        call.provisions env = true → C call.tenantId) :
    Booked K (handleGatewayWebhook env delivery (opened db queue)).2 := by
  cases hdelivered : deliveredEvent env db delivery with
  | none => exact h.handleGatewayWebhook_idle hK hdelivered
  | some delivered =>
    obtain ⟨event, tick⟩ := delivered
    rw [handleGatewayWebhook_delivered queue hdelivered]
    obtain ⟨row, hid, hopen, hmarked⟩ := h.markedOutbox hK hdelivered
    rw [hid]
    exact h.runHandler hopen hmarked (hC event tick hdelivered)

end Books.Kept

/-! ### A step -/

theorem booked_rollbackOnError {K : Books → List Task → Prop} {p : Proc Unit} (hp : Keeps (Booked K) p) :
    Keeps (Booked K) (rollbackOnError p) :=
  .attempt hp fun _ => .bind Agreed.rollback fun _ => .raise _

theorem prepareRetry_books {tenantId : Nat} {now : Time} {client : PlatformErpClient} {db db' : Db} {u : Unit}
    (h : prepareRetry tenantId now client db = .ok (u, db')) : db'.books = db.books := by
  obtain ⟨tenant, -, h⟩ := bind_eq_ok.1 h
  obtain ⟨v, -, h⟩ := bind_eq_ok.1 h
  obtain ⟨moved, -, h⟩ := bind_eq_ok.1 h
  cases h
  rfl

namespace Books.Worked

variable {C : Nat → Prop} {K : Books → List Task → Prop} (h : Books.Worked C K)
include h

theorem createTenant (env : Env) (ownerId : Nat) (subdomain companyName plan : String) (chosenApp : Option String) :
    Keeps (Booked K) (createTenant env ownerId subdomain companyName plan chosenApp) := by
  refine .bind .read fun db => ?_
  cases db.user? ownerId with
  | none => exact .raise _
  | some owner =>
    refine .bind (.bind (booked_utcnow env) fun time => .bind ?_ fun r => ?_) fun _ => .pure _
    · refine booked_change fun now client db r db' hr => ?_
      obtain ⟨organizations, tenants, plans, subscriptions, rfl⟩ := prepareTenant_frame hr
      rfl
    · refine .bind (booked_commit env) fun _ => .bind (Agreed.modify fun _ => rfl) fun _ =>
        .bind (booked_commit env) fun _ => .bind ?_ fun _ => .bind (booked_commit env) fun _ =>
          .bind (h.audit env _ _ _) fun _ => .pure _
      refine booked_change fun now client db u db' hr => ?_
      obtain ⟨tenants, subscriptions, rfl⟩ := recordCheckout_frame hr
      rfl

theorem renewCheckout (env : Env) (tenantId : Nat) : Keeps (Booked K) (renewCheckout env tenantId) := by
  refine .bind (booked_change fun now client db u db' hr => ?_) fun _ => .bind (booked_commit env) fun _ => h.audit env _ _ _
  obtain ⟨tenants, plans, subscriptions, rfl⟩ := prepareRenewedCheckout_frame hr
  rfl

theorem createInvoicePaymentAttempt (env : Env) (invoiceId : Nat) (provider : Option String) :
    Keeps (Booked K) (createInvoicePaymentAttempt env invoiceId provider) := by
  refine .bind .read fun db => ?_
  cases requireInvoice db invoiceId with
  | error error => exact .raise _
  | ok r =>
    obtain ⟨invoice, tenant, owner⟩ := r
    refine .bind (booked_change fun now client db attemptId db' hr => preparePaymentAttempt_books hr) fun _ => ?_
    exact .bind (booked_commit env) fun _ => .bind (h.audit env _ _ _) fun _ => .pure _

theorem reconcileBillingInvoice {env : Env} {invoiceId : Nat} {s : DbSession} (hs : Booked K s)
    (hC : ∀ invoice, s.work.invoice? invoiceId = some invoice →
      ∀ v ∈ reconciliationVisits env invoice.tenantId (some invoiceId) s,
        ∀ call ∈ repairCall env invoice.tenantId v.1 v.2, call.provisions env = true → C call.tenantId) :
    Booked K (reconcileBillingInvoice env invoiceId s).2 := by
  unfold ControlPlane.reconcileBillingInvoice
  rw [bind_ok (read_apply s)]
  cases hrow : s.work.invoice? invoiceId with
  | none => exact hs
  | some invoice =>
    exact Keeps.holds_bind (h.reconcileTenantBilling hs (hC invoice hrow)) fun _ _ _ hs₁ => (h.audit env _ _ _).apply hs₁

theorem retryTenantProvisioning {env : Env} {tenantId : Nat} {userEmail : String} {s : DbSession} (hs : Booked K s)
    (hC : ∀ call ∈ retryCall env tenantId s, call.provisions env = true → C call.tenantId) :
    Booked K (retryTenantProvisioning env tenantId userEmail s).2 := by
  have hprepare : Keeps (Booked K) (change env (prepareRetry tenantId)) :=
    booked_change fun _ _ _ _ _ hr => prepareRetry_books hr
  refine Keeps.holds_bind (hprepare.apply hs) fun u s₁ hchange hs₁ => ?_
  refine Keeps.holds_bind ((booked_commit env).apply hs₁) fun u' s₂ hcommit hs₂ => ?_
  refine Keeps.holds_bind (h.holds_enqueueProvisioning hs₂ fun hdue => hC ⟨tenantId, s₂⟩ ?_ hdue) fun _ _ _ hs₃ =>
    (h.audit env _ _ _).apply hs₃
  unfold retryCall
  rw [hchange]
  dsimp only
  rw [hcommit]
  rfl

theorem runTrialLifecycleCycle (env : Env) (dryRun : Bool) : Keeps (Booked K) (runTrialLifecycleCycle env dryRun) := by
  refine .bind (booked_utcnow env) fun now => ?_
  split
  · exact .pure _
  · refine booked_rollbackOnError (.bind .read fun db => .bind (.forEach (fun id => ?_) _) fun _ => booked_commit env)
    refine .bind (booked_change fun _ client db r db' hr => ?_) fun expired => ?_
    · obtain ⟨tenants, subscriptions, rfl⟩ := expireTrial_frame hr
      rfl
    · cases expired with
      | none => exact .pure _
      | some tenantId => exact h.audit env _ _ _

theorem dunTenant (env : Env) (dryRun : Bool) (now : Time) (tenantId : Nat) :
    Keeps (Booked K) (dunTenant env dryRun now tenantId) := by
  refine .bind .read fun db => .bind .now fun tick => ?_
  cases db.tenant? tenantId with
  | none => exact .pure _
  | some tenant =>
    refine .bind ?_ fun _ => .bind .read fun db => .bind .now fun tick => ?_
    · unfold remindTenant
      split
      · exact .bind (Agreed.modify fun _ => rfl) fun _ => h.audit env _ _ _
      · exact .pure _
    · cases db.tenant? tenantId with
      | none => exact .pure _
      | some tenant =>
        dsimp only
        split
        · exact .bind (Agreed.modify fun _ => rfl) fun _ => h.audit env _ _ _
        · exact .pure _

theorem runBillingDunningCycle (env : Env) (dryRun : Bool) : Keeps (Booked K) (runBillingDunningCycle env dryRun) := by
  refine .bind (booked_utcnow env) fun now => .bind .now fun tick => booked_rollbackOnError ?_
  refine .bind .read fun db => .bind (.forEach (fun tenantId => h.dunTenant env dryRun now tenantId) _) fun _ =>
    .bind (h.audit env _ _ _) fun _ => ?_
  split
  · exact .pure _
  · exact booked_commit env

theorem runBillingReconciliationCycle {env : Env} {s : DbSession} (hs : Booked K s)
    (hC : ∀ v ∈ cycleVisits env s, ∀ call ∈ repairCall env v.1 v.2.1 v.2.2, call.provisions env = true →
      C call.tenantId) :
    Booked K (runBillingReconciliationCycle env s).2 := by
  refine Keeps.holds_attempt ?_ fun _ => .bind Agreed.rollback fun _ => .raise _
  rw [bind_ok (read_apply s)]
  refine Keeps.holds_bind (forEach_keeps hs fun v hv hI => ?_) fun _ s₁ _ hs₁ =>
    (Keeps.bind (h.audit env _ _ _) fun _ => booked_commit env).apply hs₁
  refine Keeps.holds_attempt (Keeps.holds_bind (h.reconcileTenantBilling hI fun u hu => ?_) fun _ _ _ hs₁ => hs₁)
    fun _ => Agreed.rollback
  exact hC (v.1, u) (List.mem_flatMap.2 ⟨v, hv, List.mem_map_of_mem hu⟩)

end Books.Worked

theorem booked_perform {K : Books → List Task → Prop} {α : Type} {w : World} {p : Proc α} (hK : K w.db.books w.queue)
    (hp : Keeps (Booked K) p) : K (perform w p).db.books (perform w p).queue :=
  (hp.apply (Agreed.opened hK)).holds

/-- A step keeps what the single writes of the books and of the queue keep, if its calls that provision are for the tenants
in `C`. -/
theorem step_books {C : Nat → Prop} {K : Books → List Task → Prop} (h : Books.Kept C K) {w : World} {e : Event}
    (hrunning : ∀ running ∈ w.running, running.task ∈ w.queue)
    (hcalls : ∀ call ∈ provisioningCalls w e, call.provisions e.env = true → C call.tenantId) (hK : K w.db.books w.queue) :
    K (step w e).db.books (step w e).queue := by
  have hopened : Booked K (opened w.db w.queue) := Agreed.opened hK
  have hmove : ∀ tenantId status action, Keeps (Booked K) (do
      change e.env (moveTenantStatus tenantId status)
      commit e.env
      recordAuditEvent e.env action "tenants" (some tenantId)) := fun tenantId status action =>
    .bind (moveTenantStatus_books e.env tenantId status) fun _ => .bind (booked_commit e.env) fun _ => h.audit e.env _ _ _
  have hvisit : ∀ v ∈ reconciliations w e, (e.op = .reconciliationCycle ∨ ∃ id, e.op = .reconcileBillingInvoice id ∨
      e.op = .resyncTenantSettlement id) → ∀ call ∈ repairCall e.env v.1 v.2.1 v.2.2, call.provisions e.env = true →
        C call.tenantId := by
    intro v hv hop call hcall
    refine hcalls call ?_
    unfold provisioningCalls
    rcases hop with hop | ⟨id, hop | hop⟩
    all_goals
      rw [hop]
      exact List.mem_filterMap.2 ⟨v, hv, hcall⟩
  unfold step
  cases hop : e.op with
  | createTenant => exact booked_perform hK (h.createTenant e.env _ _ _ _ _)
  | renewCheckout => exact booked_perform hK (h.renewCheckout e.env _)
  | webhook delivery =>
    refine (h.handleGatewayWebhook hK fun event tick hdelivered htype call hcall => hcalls call ?_).holds
    unfold provisioningCalls
    rw [hop]
    dsimp only
    rw [hdelivered]
    dsimp only
    rw [if_pos htype]
    exact Option.mem_toList.2 hcall
  | resyncTenantInvoices tenantId limit =>
    refine booked_perform hK (.bind (booked_change fun _ _ _ _ _ hr => syncForTenant_books hr) fun _ => ?_)
    exact .bind (booked_commit e.env) fun _ => h.audit e.env _ _ _
  | createPaymentAttempt => exact booked_perform hK (h.createInvoicePaymentAttempt e.env _ _)
  | reconcileBillingInvoice invoiceId =>
    refine (h.reconcileBillingInvoice hopened fun invoice hrow v hv => ?_).holds
    refine hvisit (invoice.tenantId, v) ?_ (Or.inr ⟨invoiceId, Or.inl hop⟩)
    unfold reconciliations
    rw [hop]
    dsimp only
    rw [show w.db.invoice? invoiceId = some invoice from hrow]
    exact List.mem_map_of_mem hv
  | resyncTenantSettlement tenantId =>
    refine (Keeps.holds_bind (h.reconcileTenantBilling hopened fun v hv => ?_) fun _ _ _ hs =>
      (h.audit e.env _ _ _).apply hs).holds
    refine hvisit (tenantId, v) ?_ (Or.inr ⟨tenantId, Or.inr hop⟩)
    unfold reconciliations
    rw [hop]
    exact List.mem_map_of_mem hv
  | reconciliationCycle =>
    refine (h.runBillingReconciliationCycle hopened fun v hv => hvisit v ?_ (Or.inl hop)).holds
    unfold reconciliations
    rw [hop]
    exact hv
  | trialCycle => exact booked_perform hK (h.runTrialLifecycleCycle e.env _)
  | dunningCycle => exact booked_perform hK (h.runBillingDunningCycle e.env _)
  | backupTenant tenantId =>
    refine booked_perform hK (.bind (checkTenant_books e.env tenantId _) fun _ => ?_)
    exact .bind (h.enqueueBackup e.env tenantId) fun _ => .pure _
  | restoreTenant => exact booked_perform hK (h.restoreTenant e.env _ _)
  | deleteTenant tenantId =>
    refine booked_perform hK (.bind (checkTenant_books e.env tenantId _) fun _ => ?_)
    exact .bind (h.enqueueDelete e.env tenantId) fun _ => .pure _
  | retryProvisioning tenantId =>
    refine (h.retryTenantProvisioning hopened fun call hcall => hcalls call ?_).holds
    unfold provisioningCalls
    rw [hop]
    exact Option.mem_toList.2 hcall
  | suspendTenant => exact booked_perform hK (hmove _ _ _)
  | unsuspendTenant => exact booked_perform hK (hmove _ _ _)
  | startTask entry =>
    dsimp only
    split
    · exact hK
    · exact hK
  | taskPhase index outside =>
    dsimp only
    unfold advanceTask
    cases hrow : w.running[index]? with
    | none => exact hK
    | some running =>
      have htask : running.task ∈ w.queue := hrunning running (List.mem_of_getElem? hrow)
      have hphase := h.taskPhase e.env running.task running.phase outside
      exact (booked_perform (K := fun b q => K b q ∧ running.task ∈ q) ⟨hK, htask⟩ hphase).1

end ControlPlane
