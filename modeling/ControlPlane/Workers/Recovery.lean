import ControlPlane.Bookkeeping
import ControlPlane.System
import ControlPlane.Workers.Cycles

/-!
# Recovery of stuck jobs

What a worker does before it starts: jobs that were running when another worker died are to be marked failed.  The query
asks for a column that the table of jobs does not have, so the recovery raises before it looks at a single job, and the
worker does not start.  Over a column that exists it would still leave every tenant in the status the dead worker left.
-/

namespace ControlPlane

open Table Session Session.Proc

/-- The columns of `Job` with a time, by the name that a query uses; NULL is `none`. -/
def jobTimeColumn (name : String) : Except PyError (Job → Option Time) :=
  if name = "created_at" then .ok fun job => some job.createdAt
  else if name = "started_at" then .ok Job.startedAt
  else if name = "finished_at" then .ok Job.finishedAt
  else .error (.attributeError ("type object 'Job' has no attribute '" ++ name ++ "'"))

/-- `timedelta(minutes=30)`. -/
def stuckAfter : Nat := 30 * 60000000

/-- `append_log`, which commits, and `mark_job_failed`. -/
def recoverJob (env : Env) (jobId : Nat) : Proc Unit := do
  commit env
  let time ← utcnow env
  modify fun db =>
    { db with
      jobs := Table.modify db.jobs jobId fun job =>
        { job with status := .failed, error := some "recovered_after_worker_restart", finishedAt := some time } }
  commit env

def recoverJobs (env : Env) : List Job → Proc Unit
  | [] => pure ()
  | job :: rest => do
    recoverJob env job.id
    recoverJobs env rest

/-- `_recover_stuck_jobs` over a table with the given columns. -/
def recoverStuckJobsOn (column : String → Except PyError (Job → Option Time)) (env : Env) : Proc Unit :=
  rollbackOnError do
    let cutoff := (← utcnow env) - stuckAfter
    match column "updated_at" with
    | .error e => raise e
    | .ok updatedAt =>
      let db ← read
      let stuckJobs := db.jobs.filter fun job => job.status = .running ∧ ∃ t ∈ updatedAt job, t < cutoff
      recoverJobs env stuckJobs
      if stuckJobs ≠ [] then
        commit env

def recoverStuckJobs (env : Env) : Proc Unit := recoverStuckJobsOn jobTimeColumn env

/-- The job runs and was started longer ago than the recovery waits. -/
def Job.stuckAt (job : Job) (now : Time) : Prop :=
  job.status = .running ∧ ∃ started ∈ job.startedAt, started + stuckAfter < now

def Job.isLive (job : Job) : Prop := job.status = .queued ∨ job.status = .running

/-- The recovery completes, fails exactly the stuck jobs, and leaves no tenant in the middle of something whose only live
job was one of them. -/
structure RecoversStuckJobs (env : Env) (db : Db) (queue : List Task) : Prop where
  completes : (recoverStuckJobs env (opened db queue)).1 = .ok ()
  fails : ∀ job ∈ db.jobs, job.stuckAt (env.clock 0) →
    ∃ job' ∈ (recoverStuckJobs env (opened db queue)).2.saved.jobs, job'.id = job.id ∧ job'.status = .failed
  keeps : ∀ job ∈ db.jobs, ¬job.stuckAt (env.clock 0) → job ∈ (recoverStuckJobs env (opened db queue)).2.saved.jobs
  frees : ∀ tenant ∈ (recoverStuckJobs env (opened db queue)).2.saved.tenants,
    (∃ job ∈ db.jobs, job.tenantId = tenant.id ∧ job.stuckAt (env.clock 0) ∧
      ∀ other ∈ db.jobs, other.tenantId = tenant.id → other.isLive → other = job) →
    tenant.status ∉ [TenantStatus.provisioning, .restoring, .deleting]

/-! ### What the recovery does -/

/-- The recovery raises on every database and changes nothing. -/
theorem recoverStuckJobs_raises (env : Env) (db : Db) (queue : List Task) :
    recoverStuckJobs env (opened db queue) =
      (.error (.attributeError "type object 'Job' has no attribute 'updated_at'"), opened db queue) := by
  have hmissing : jobTimeColumn "updated_at" =
      .error (.attributeError "type object 'Job' has no attribute 'updated_at'") := rfl
  unfold recoverStuckJobs recoverStuckJobsOn
  rw [hmissing]
  rfl

/-- So no recovery does what it is for. -/
theorem recovery_never_completes (env : Env) (db : Db) (queue : List Task) : ¬RecoversStuckJobs env db queue := by
  intro h
  have hcompletes := h.completes
  rw [recoverStuckJobs_raises] at hcompletes
  cases hcompletes

namespace Small

/-- A worker died while it provisioned the tenant, an hour before the clock of this environment. -/
def crashed : Env × Db :=
  ({ env with clock := fun _ => hours 1 },
    { Db.empty with
      tenants := [
        { id := 1, ownerId := 1, organizationId := none, subdomain := "acme", domain := "acme.erp.blenkotechnologies.co.tz"
          siteName := "acme", companyName := "Acme", status := .provisioning, paymentProvider := "stripe"
          paymentChannel := none, dpoTransactionToken := none, platformCustomerId := none, updatedAt := 0 }]
      jobs := [⟨1, 1, .create, .running, none, none, 0, some 0, none⟩] })

end Small

/-- The job of a worker that died is not recovered. -/
theorem crashed_not_recovered :
    ¬∀ (env : Env) (db : Db) (queue : List Task), RecoversStuckJobs env db queue := by
  intro h
  have hcompletes := (h Small.crashed.1 Small.crashed.2 []).completes
  have hraised : (recoverStuckJobs Small.crashed.1 (opened Small.crashed.2 [])).1 =
      .error (.attributeError "type object 'Job' has no attribute 'updated_at'") := rfl
  cases hraised.symm.trans hcompletes

/-- Over the column that tells when a job was started, the job is failed and the tenant stays in provisioning. -/
example :
    let s := (recoverStuckJobsOn (fun _ => .ok Job.startedAt) Small.crashed.1 (opened Small.crashed.2 [])).2
    s.saved.jobs.map Job.status = [.failed] ∧ s.saved.tenants.map Tenant.status = [.provisioning] := by
  decide

end ControlPlane
