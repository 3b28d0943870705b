import ControlPlane.Billing.WebhookService
import ControlPlane.Frames
import ControlPlane.Workers.Tasks

/-!
# The programs that keep the books

Jobs, outbox rows, payment events and audit entries are written around the changes that matter; here is what each of
these programs leaves alone, and the one case in which putting a paid tenant's provisioning on the queue does
nothing.
-/

namespace ControlPlane

open Table Session Session.Proc

namespace Bookkeeping

variable {Q : Task → Prop}

theorem addJob (env : Env) (tenantId : Nat) (type : JobType) : Bookkeeping Q (addJob env tenantId type) := by
  refine bind (change fun now client db a db' h => ?_) fun job => bind (commit env) fun _ => pure job
  cases h
  rfl

theorem enqueueJob (env : Env) (job : Job) {task : Task} (hQ : Q task) : Bookkeeping Q (enqueueJob env job task) :=
  bind (enqueue env hQ) fun _ => bind (modify fun _ => rfl) fun _ => bind (commit env) fun _ => pure _

theorem enqueueProvisioningForPaidTenant (env : Env) (tenantId : Nat) (ownerEmail : String)
    (hQ : ∀ jobId, Q (.provisionTenant jobId tenantId ownerEmail)) :
    Bookkeeping Q (enqueueProvisioningForPaidTenant env tenantId ownerEmail) := by
  refine bind read fun db => ?_
  cases liveCreateJob db tenantId with
  | none => exact bind (addJob env tenantId .create) fun job => bind (enqueueJob env job (hQ job.id)) fun _ => pure _
  | some existing =>
    dsimp only
    split
    · exact bind (enqueueJob env existing (hQ existing.id)) fun _ => pure _
    · exact pure _

theorem enqueueBackup (env : Env) (tenantId : Nat) (hQ : ∀ jobId, Q (.backupTenant jobId tenantId)) :
    Bookkeeping Q (enqueueBackup env tenantId) :=
  bind (addJob env tenantId .backup) fun job => bind (enqueueJob env job (hQ job.id)) fun _ =>
    bind (recordAuditEvent env _ _ _) fun _ => pure _

theorem markOutbox (env : Env) (id : Nat) (f : Time → PaymentEventOutbox → PaymentEventOutbox) :
    Bookkeeping Q (markOutbox env id f) :=
  bind (utcnow env) fun _ => bind (modify fun _ => rfl) fun _ => commit env

theorem commitRow (env : Env) (fits : Bool) : Bookkeeping Q (commitRow env fits) := by
  unfold ControlPlane.commitRow
  split
  · exact bind rollback fun _ => raise _
  · exact commit env

theorem ensureOutboxEvent (env : Env) (provider : String) (event : WebhookEvent) :
    Bookkeeping Q (ensureOutboxEvent env provider event) := by
  refine bind read fun db => ?_
  cases outboxRow? env.settings provider event db with
  | some existing => exact pure _
  | none => exact bind (modify fun _ => rfl) fun _ => bind (commitRow env _) fun _ => pure _

theorem recordPaymentEvent (env : Env) (provider eventType processingStatus : String) (httpStatus : Nat)
    (message : String) (event : Option WebhookEvent) (payload : Json) :
    Bookkeeping Q (recordPaymentEvent env provider eventType processingStatus httpStatus message event payload) :=
  attempt (bind read fun _ => bind (modify fun _ => rfl) fun _ => commitRow env _) fun _ => rollback

theorem recordProcessingFailure (env : Env) (provider : String) (event : WebhookEvent) (outboxId : Nat)
    (e : PyError) : Bookkeeping Q (recordProcessingFailure env provider event outboxId e) :=
  bind rollback fun _ => bind (markOutbox env outboxId _) fun _ =>
    bind (recordPaymentEvent env _ _ _ _ _ _ _) fun _ => raise _

theorem updateJob (env : Env) (task : Task) (f : Time → Job → Job) : Bookkeeping Q (updateJob env task f) :=
  bind (utcnow env) fun _ => bind (modify fun _ => rfl) fun _ => commit env

theorem recordStart (env : Env) (task : Task) : Bookkeeping Q (recordStart env task) := by
  unfold ControlPlane.recordStart
  split
  · exact recordAuditEvent env _ _ _
  · exact pure ()

theorem addManifest (env : Env) (task : Task) (filePath : String) : Bookkeeping Q (addManifest env task filePath) := by
  cases task with
  | backupTenant jobId tenantId => exact bind (utcnow env) fun _ => bind (modify fun _ => rfl) fun _ => commit env
  | _ => exact pure ()

end Bookkeeping

/-! ### Jobs -/

theorem addJob_apply (env : Env) (tenantId : Nat) (type : JobType) (s : DbSession) :
    addJob env tenantId type s =
      let job := newJob s.work tenantId type (env.clock s.tick)
      let rows := Db.flush (env.clock s.tick) s.saved { s.work with jobs := insert s.work.jobs job }
      if env.commitFails s.tick then (.error .operationalError, { s with work := s.saved, tick := s.tick + 1 })
      else (.ok job, { s with work := rows, saved := rows, tick := s.tick + 1 }) := by
  unfold addJob
  rw [change_bind]
  dsimp only
  rw [commit_bind]
  split
  · rfl
  · rfl

theorem enqueueJob_apply (env : Env) (job : Job) (task : Task) (s : DbSession) :
    enqueueJob env job task s =
      let queued := { job with rqJobId := some s.outside.length }
      let rows := Db.flush (env.clock (s.tick + 1)) s.saved (s.work.putJob queued)
      if env.queueFails s.tick then (.error (.queueError "redis unavailable"), { s with tick := s.tick + 1 })
      else if env.commitFails (s.tick + 1) then
        (.error .operationalError, ⟨s.saved, s.saved, s.outside ++ [task], s.tick + 2⟩)
      else (.ok queued, ⟨rows, rows, s.outside ++ [task], s.tick + 2⟩) := by
  unfold enqueueJob
  rw [bind_apply, enqueue_apply]
  cases env.queueFails s.tick with
  | true => rfl
  | false =>
    dsimp only
    rw [if_neg Bool.false_ne_true, if_neg Bool.false_ne_true]
    dsimp only
    rw [bind_ok (modify_apply _ _), commit_bind]
    dsimp only
    split
    · rfl
    · rfl

/-! ### What stays in the session -/

/-- A property of a session's own rows that neither bookkeeping nor a flush touches. -/
structure Steady (K : Db → Prop) : Prop where
  core : ∀ db db', db'.core = db.core → K db → K db'
  flush : ∀ now saved work, K work → K (Db.flush now saved work)

namespace Steady

variable {K : Db → Prop}

theorem commit (h : Steady K) (env : Env) : KeepsWork K (commit env) :=
  KeepsWork.commit fun t saved work hw => h.flush (env.clock t) saved work hw

theorem recordAuditEvent (h : Steady K) (env : Env) (action resource : String) (id : Option Nat) :
    KeepsWork K (recordAuditEvent env action resource id) :=
  .bind (fun _ hs => hs) fun _ => .bind (.modify fun db hdb => h.core db _ rfl hdb) fun _ => h.commit env

theorem addJob (h : Steady K) (env : Env) (tenantId : Nat) (type : JobType) : KeepsWork K (addJob env tenantId type) := by
  refine .bind (fun s hs => ?_) fun job => .bind (h.commit env) fun _ => .pure job
  rw [change_apply]
  exact h.core s.work _ rfl hs

theorem enqueueJob (h : Steady K) (env : Env) (job : Job) (task : Task) : KeepsWork K (enqueueJob env job task) :=
  .bind .call fun _ => .bind (.modify fun db hdb => h.core db _ rfl hdb) fun _ => .bind (h.commit env) fun _ => .pure _

theorem enqueueProvisioning (h : Steady K) (env : Env) (tenantId : Nat) (email : String) :
    KeepsWork K (enqueueProvisioningForPaidTenant env tenantId email) := by
  refine .bind .read fun db => ?_
  cases liveCreateJob db tenantId with
  | none => exact .bind (h.addJob env tenantId .create) fun job => .bind (h.enqueueJob env job _) fun _ => .pure _
  | some existing =>
    dsimp only
    split
    · exact .bind (h.enqueueJob env existing _) fun _ => .pure _
    · exact .pure _

end Steady

/-! ### Provisioning that is already under way -/

/-- Whether putting a tenant's provisioning on the queue does anything: it has no live create job, or one that never
got onto the queue. -/
def provisioningMissing (db : Db) (tenantId : Nat) : Bool :=
  match liveCreateJob db tenantId with
  | none => true
  | some job => job.status = .queued ∧ job.rqJobId = none

theorem enqueueProvisioningForPaidTenant_of_not_missing (env : Env) (ownerEmail : String) {tenantId : Nat}
    {s : DbSession} (h : provisioningMissing s.work tenantId = false) :
    ∃ job, enqueueProvisioningForPaidTenant env tenantId ownerEmail s = (.ok (job, false), s) := by
  unfold provisioningMissing at h
  unfold enqueueProvisioningForPaidTenant
  rw [bind_ok (read_apply s)]
  split at h
  · cases h
  · rename_i job hjob
    have hnot : ¬(job.status = .queued ∧ job.rqJobId = none) := by simpa using h
    rw [hjob]
    dsimp only
    rw [if_neg hnot]
    exact ⟨job, rfl⟩

theorem provisioningMissing_congr {db db' : Db} (h : db'.jobs = db.jobs) (tenantId : Nat) :
    provisioningMissing db' tenantId = provisioningMissing db tenantId := by
  unfold provisioningMissing liveCreateJob
  rw [h]

end ControlPlane
