import ControlPlane.Deletion
import ControlPlane.Records

/-!
# Who gets a create job

The create jobs of a tenant and its provisionings on the queue are what `enqueue_provisioning_for_paid_tenant` writes:
a step that changes them comes to a call of it for that tenant, one that is due (`provisioned_by_call`).  The callers that
reconcile or retry make sure that the tenant is `pending`; the handler of a confirmed payment does not, so a payment that
comes late gets a deleted tenant a job.
-/

namespace ControlPlane

open Table Session Session.Proc Runs

/-- The create jobs of a tenant, each with its entry on the queue. -/
def createJobs (jobs : List Job) (t : Nat) : List (Nat × Option Nat) :=
  jobs.filterMap fun job => if job.type = .create ∧ job.tenantId = t then some (job.id, job.rqJobId) else none

/-- The step creates a job for the tenant or puts one on the queue. -/
def ProvisionedIn (w : World) (e : Event) (t : Nat) : Prop :=
  createJobs (step w e).db.jobs t ≠ createJobs w.db.jobs t ∨
    provisionings (step w e).queue t ≠ provisionings w.queue t

/-- Every create job that the step creates or puts on the queue is made by a call of
`enqueue_provisioning_for_paid_tenant`, and every such call that makes one is for a tenant that is `pending`. -/
structure ProvisionsPending (w : World) (e : Event) : Prop where
  called : ∀ t, ProvisionedIn w e t →
    ∃ call ∈ provisioningCalls w e, call.tenantId = t ∧ call.provisions e.env = true
  pending : ∀ call ∈ provisioningCalls w e, call.provisions e.env = true → call.status = some .pending

/-! ### What a call does -/

theorem provisionings_append (queue : List Task) (task : Task) (t : Nat) :
    provisionings (queue ++ [task]) t = provisionings queue t ++ if task.provisions t then [task] else [] := by
  unfold provisionings
  rw [List.filter_append]
  cases h : task.provisions t with
  | true => simp [h]
  | false => simp [h]

/-- Putting a job on the queue leaves the task there, unless the queue refuses it. -/
theorem enqueueJob_queue (env : Env) (job : Job) (task : Task) (s : DbSession) :
    if env.queueFails s.tick then (enqueueJob env job task s).2.saved = s.saved
    else (enqueueJob env job task s).2.outside = s.outside ++ [task] := by
  rw [enqueueJob_apply]
  dsimp only
  cases env.queueFails s.tick with
  | true => rfl
  | false =>
    rw [if_neg Bool.false_ne_true, if_neg Bool.false_ne_true]
    split
    · rfl
    · rfl

/-- A call that is due puts the tenant's provisioning on the queue, or at least creates its job. -/
theorem enqueueProvisioning_of_due {env : Env} {tenantId : Nat} {s : DbSession} (ownerEmail : String)
    (hjobs : s.work.jobs = s.saved.jobs) (h : provisioningDue env s.work tenantId s.tick = true) :
    createJobs (enqueueProvisioningForPaidTenant env tenantId ownerEmail s).2.saved.jobs tenantId ≠
        createJobs s.saved.jobs tenantId ∨
      provisionings (enqueueProvisioningForPaidTenant env tenantId ownerEmail s).2.outside tenantId ≠
        provisionings s.outside tenantId := by
  have hqueue : ∀ jobId (queue : List Task),
      provisionings (queue ++ [.provisionTenant jobId tenantId ownerEmail]) tenantId ≠ provisionings queue tenantId := by
    intro jobId queue
    rw [provisionings_append]
    simp [Task.provisions]
  unfold provisioningDue at h
  unfold enqueueProvisioningForPaidTenant
  rw [bind_ok (read_apply s)]
  cases hlive : liveCreateJob s.work tenantId with
  | none =>
    rw [hlive] at h
    have hcommit : ¬env.commitFails s.tick = true := by simpa using h
    have hadded := addJob_apply env tenantId .create s
    dsimp only at hadded ⊢
    rw [if_neg hcommit] at hadded
    rw [bind_ok hadded, bind_pure_snd]
    have hput := enqueueJob_queue env (newJob s.work tenantId .create (env.clock s.tick))
      (.provisionTenant (newJob s.work tenantId .create (env.clock s.tick)).id tenantId ownerEmail)
      ((addJob env tenantId .create s).2)
    rw [hadded] at hput
    split at hput
    · -- the queue refuses the task, and the job is left without an entry
      refine Or.inl ?_
      rw [hput]
      show createJobs (insert s.work.jobs (newJob s.work tenantId .create (env.clock s.tick))) tenantId ≠ _
      rw [hjobs]
      unfold createJobs Table.insert
      simp [newJob]
    · refine Or.inr ?_
      rw [hput]
      exact hqueue _ _
  | some job =>
    rw [hlive] at h
    have hdue : (job.status = .queued ∧ job.rqJobId = none) ∧ ¬env.queueFails s.tick = true := by
      simpa [and_assoc] using h
    dsimp only
    rw [if_pos hdue.1, bind_pure_snd]
    have hput := enqueueJob_queue env job (.provisionTenant job.id tenantId ownerEmail) s
    rw [if_neg hdue.2] at hput
    rw [hput]
    exact Or.inr (hqueue _ _)

/-- A call creates a job or puts one on the queue exactly if it is due. -/
theorem provisions_iff {env : Env} {call : ProvisioningCall} (ownerEmail : String)
    (hjobs : call.session.work.jobs = call.session.saved.jobs) :
    call.provisions env = true ↔
      (createJobs (enqueueProvisioningForPaidTenant env call.tenantId ownerEmail call.session).2.saved.jobs call.tenantId ≠
          createJobs call.session.saved.jobs call.tenantId ∨
        provisionings (enqueueProvisioningForPaidTenant env call.tenantId ownerEmail call.session).2.outside call.tenantId ≠
          provisionings call.session.outside call.tenantId) := by
  constructor
  · exact enqueueProvisioning_of_due ownerEmail hjobs
  · intro hchanged
    rw [← Bool.not_eq_false]
    intro hdue
    obtain ⟨hsaved, houtside, -⟩ := enqueueProvisioning_of_not_due ownerEmail hdue
    rw [hsaved, houtside] at hchanged
    exact hchanged.elim (fun h => h rfl) fun h => h rfl

/-! ### Only calls -/

/-- A job that is written over its old self, with the same queue entry or with one that does not count. -/
theorem createJobs_put {jobs : List Job} {job job' : Job} {t : Nat} (hids : (jobs.map key).Nodup)
    (hrow : get? jobs job.id = some job) (hid : job'.id = job.id) (htype : job'.type = job.type)
    (htenant : job'.tenantId = job.tenantId) (h : job.type = .create → job.tenantId = t → job'.rqJobId = job.rqJobId) :
    createJobs (put jobs job') t = createJobs jobs t := by
  have hfound : get? jobs (key job') = some job := by
    rw [show key job' = job.id from hid]
    exact hrow
  refine filterMap_put fun old hold hkey => ?_
  have heq : old = job := by
    have hget := get?_of_mem hids hold
    rw [hkey, hfound] at hget
    exact (Option.some.inj hget).symm
  rw [heq, hid, htype, htenant]
  split
  · rename_i hcreate
    rw [h hcreate.1 hcreate.2]
  · rfl

/-- The create jobs of a tenant and its provisionings on the queue are untouched by what is written for others. -/
def Books.Untouched (t : Nat) (jobs : List (Nat × Option Nat)) (tasks : List Task) (b : Books) (q : List Task) : Prop :=
  b.Consistent q ∧ createJobs b.jobs t = jobs ∧ provisionings q t = tasks

theorem provisions_of_for {task : Task} {job : Job} {t : Nat} (hfor : task.For job) (h : task.provisions t = true) :
    job.type = .create ∧ job.tenantId = t := by
  cases task with
  | provisionTenant jobId tenantId ownerEmail =>
    have hid : tenantId = t := of_decide_eq_true h
    exact ⟨hfor.type.symm, hfor.tenantId.symm.trans hid⟩
  | _ => cases h

theorem Books.untouched_kept (t : Nat) (jobs : List (Nat × Option Nat)) (tasks : List Task) :
    Books.Kept (fun tenantId => tenantId ≠ t) (Books.Untouched t jobs tasks) := by
  have hC := Books.consistent_kept fun tenantId => tenantId ≠ t
  have hother : ∀ {task : Task} {job : Job}, task.For job → (job.type = .create → job.tenantId ≠ t) → ∀ q,
      provisionings (q ++ [task]) t = provisionings q t := by
    intro task job hfor hjob q
    rw [provisionings_append, if_neg, List.append_nil]
    intro hprovisions
    obtain ⟨htype, htenant⟩ := provisions_of_for hfor hprovisions
    exact hjob htype htenant
  exact {
    ids := fun b q hb => hb.1.jobIds
    outboxIds := fun b q hb => hb.1.outboxIds
    audited := fun b q row hb hid => ⟨hC.audited b q row hb.1 hid, hb.2⟩
    recorded := fun b q row hb hid => ⟨hC.recorded b q row hb.1 hid, hb.2⟩
    manifest := fun b q jobId tenantId row hb htask hid hjob htenant =>
      ⟨hC.manifest b q jobId tenantId row hb.1 htask hid hjob htenant, hb.2⟩
    filed := fun b q row hb hid hnew hpending => ⟨hC.filed b q row hb.1 hid hnew hpending, hb.2⟩
    marked := fun b q row row' hb hrow hmarked => ⟨hC.marked b q row row' hb.1 hrow hmarked, hb.2⟩
    jobAdded := fun b q job hb hid hnone hqueued hjob => by
      refine ⟨hC.jobAdded b q job hb.1 hid hnone hqueued hjob, ?_, hb.2.2⟩
      rw [← hb.2.1]
      unfold createJobs Table.insert
      rw [List.filterMap_append]
      simp only [List.filterMap_cons, List.filterMap_nil]
      rw [if_neg fun hcreate => hjob hcreate.1 hcreate.2, List.append_nil]
    enqueued := fun b q job task hb hrow hfor hjob =>
      ⟨hC.enqueued b q job task hb.1 hrow hfor hjob, hb.2.1, (hother hfor hjob q).trans hb.2.2⟩
    linked := fun b q job task hb hrow hfor hnone hjob => by
      refine ⟨hC.linked b q job task hb.1 hrow hfor hnone hjob, ?_, (hother hfor hjob q).trans hb.2.2⟩
      rw [← hb.2.1]
      exact createJobs_put hb.1.jobIds hrow rfl rfl rfl fun htype htenant => absurd htenant (hjob htype)
    worked := fun b q task job job' hb htask hrow hjob => by
      refine ⟨hC.worked b q task job job' hb.1 htask hrow hjob, ?_, hb.2.2⟩
      rw [← hb.2.1]
      rw [← key_of_get? hrow] at hrow
      exact createJobs_put hb.1.jobIds hrow hjob.id hjob.type hjob.tenantId fun _ _ => hjob.rqJobId }

/-- A step that creates a job for a tenant or puts one on the queue comes to a call that does. -/
theorem provisioned_by_call {w : World} {e : Event} {t : Nat} (hw : w.Consistent) (h : ProvisionedIn w e t) :
    ∃ call ∈ provisioningCalls w e, call.tenantId = t ∧ call.provisions e.env = true := by
  by_contra hnone
  have hcalls : ∀ call ∈ provisioningCalls w e, call.provisions e.env = true → call.tenantId ≠ t :=
    fun call hcall hdue ht => hnone ⟨call, hcall, ht, hdue⟩
  obtain ⟨-, hjobs, hqueue⟩ := step_books
    (Books.untouched_kept t (createJobs w.db.jobs t) (provisionings w.queue t)) hw.running hcalls ⟨hw.books, rfl, rfl⟩
  exact h.elim (fun hchanged => hchanged hjobs) fun hchanged => hchanged hqueue

/-! ### Only pending tenants -/

theorem provisionsPending_iff {w : World} {e : Event} (hw : w.Consistent) :
    ProvisionsPending w e ↔ confirmsProvisionable w e = true := by
  rw [← calls_pending_iff]
  exact ⟨fun h => h.pending, fun h => ⟨fun _ => provisioned_by_call hw, h⟩⟩

/-- In a run the create jobs are created and put on the queue for `pending` tenants only, exactly when each payment it
confirms is one of a tenant that is provisionable or whose provisioning is under way or done. -/
theorem steps_provisionsPending_iff {w : World} (es : List Event) (hw : w.Consistent) :
    Steps step ProvisionsPending w es ↔ Steps step (fun w e => confirmsProvisionable w e = true) w es :=
  steps_congr (fun _ e h => (step_grown e h (.refl _ _)).1) (fun _ _ h => provisionsPending_iff h) hw

/-! ### A payment for a deleted tenant -/

namespace Small

/-- A tenant is created and deleted, and then its first payment is confirmed. -/
def paidAfterDeletion : List Event :=
  events ([createTenant, .deleteTenant 1] ++ runTask 0 5 ++ [webhook .paymentConfirmed "late"])

/-- A tenant is created and paid for, which gets it a create job. -/
def paidInTime : List Event := events [createTenant, webhook .paymentConfirmed "paid"]

end Small

set_option maxRecDepth 100000 in
theorem provisionsPending_in_time :
    Steps step (fun w e => confirmsProvisionable w e = true) Small.world Small.paidInTime ∧
      Steps step ProvisionsPending Small.world Small.paidInTime := by
  have hsteps : Steps step (fun w e => confirmsProvisionable w e = true) Small.world Small.paidInTime := by
    decide +kernel
  exact ⟨hsteps, (steps_provisionsPending_iff Small.paidInTime Small.world_consistent).2 hsteps⟩

set_option maxRecDepth 100000 in
/-- The late payment gets the deleted tenant a create job. -/
theorem provisioned_after_deletion : ¬Steps step ProvisionsPending Small.world Small.paidAfterDeletion := by
  intro h
  have hsteps := Steps.mono (fun w e hp => (calls_pending_iff w e).1 hp.pending) h
  revert hsteps
  decide +kernel

end ControlPlane
