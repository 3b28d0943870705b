import ControlPlane.Tenant.Service
import Mathlib.Data.List.Infix

/-!
# Worker tasks

`provision_tenant`, `backup_tenant`, `restore_tenant` and `delete_tenant`.  A task is not one transaction: it commits
between the points where it reads the tenant's status again, and anything may happen to the tenant in between.  So a
task is given here as its `Phase`s, each of which starts and ends with nothing uncommitted; what the bench, the
provisioning strategy and the ERP do in a phase is an input of it.

The log lines of a job are left out, and so are the commits of the main part that write nothing else: where one of them
fails, the task ends with the rows that it leaves where its next commit fails.
-/

namespace ControlPlane

open Table Session.Proc

/-- Where a running task is.  `complete` holds what the outside work gave (the customer id), and the three last phases
the exception being handled; `failing` also holds a customer id set and not committed before the exception. -/
inductive Phase where
  | begin
  | enter
  | work
  | complete (result : String)
  | close
  | failing (error : PyError) (dirtyCustomerId : Option String)
  | marking (error : PyError)
  | closing (error : PyError)
  | refused (error : PyError)
  deriving DecidableEq, Repr

def Task.jobId : Task → Nat
  | provisionTenant jobId _ _ => jobId
  | backupTenant jobId _ => jobId
  | restoreTenant jobId _ _ => jobId
  | deleteTenant jobId _ => jobId

def Task.tenantId : Task → Nat
  | provisionTenant _ tenantId _ => tenantId
  | backupTenant _ tenantId => tenantId
  | restoreTenant _ tenantId _ => tenantId
  | deleteTenant _ tenantId => tenantId

/-- The status a task moves its tenant to before its outside work; a backup moves it nowhere. -/
def Task.enterStatus : Task → Option TenantStatus
  | provisionTenant .. => some .provisioning
  | backupTenant .. => none
  | restoreTenant .. => some .restoring
  | deleteTenant .. => some .deleting

/-- The status a task moves its tenant to when its outside work is done. -/
def Task.completeStatus : Task → Option TenantStatus
  | provisionTenant .. => some .active
  | backupTenant .. => none
  | restoreTenant .. => some .active
  | deleteTenant .. => some .deleted

/-- `_is_delete_site_not_found`: the bench said the site does not exist. -/
def isDeleteSiteNotFound : PyError → Bool
  | .benchCommandError stdout stderr =>
    let output := (lower (stderr ++ "\n" ++ stdout)).toList
    ["does not exist", "incorrectsitepath", "404 not found", "site does not exist"].any fun marker =>
      marker.toList <:+: output
  | _ => false

/-- A deletion whose site is already gone counts as done. -/
def Task.treatedAsDone (task : Task) (error : PyError) : Bool :=
  match task with
  | deleteTenant .. => isDeleteSiteNotFound error
  | _ => false

/-- The status a task's exception handler moves its tenant to. -/
def Task.failStatus (task : Task) (error : PyError) : Option TenantStatus :=
  match task with
  | backupTenant .. => none
  | deleteTenant .. => some (if task.treatedAsDone error then .deleted else .failed)
  | _ => some .failed

/-- `_load_entities`. -/
def loadEntities (db : Db) (task : Task) : Except PyError (Job × Tenant) :=
  match db.job? task.jobId, db.tenant? task.tenantId with
  | some job, some tenant => .ok (job, tenant)
  | _, _ => .error (.runtimeError "Job or tenant not found")

/-- Change the task's job row and commit. -/
def updateJob (env : Env) (task : Task) (f : Time → Job → Job) : Proc Unit := do
  let time ← utcnow env
  Session.Proc.modify fun db => { db with jobs := Table.modify db.jobs task.jobId (f time) }
  commit env

def markJobRunning (env : Env) (task : Task) : Proc Unit :=
  updateJob env task fun time job => { job with status := .running, startedAt := some time }

def markJobSuccess (env : Env) (task : Task) : Proc Unit :=
  updateJob env task fun time job => { job with status := .succeeded, finishedAt := some time }

def markJobFailed (env : Env) (task : Task) (error : PyError) : Proc Unit :=
  updateJob env task fun time job =>
    { job with status := .failed, error := some error.message, finishedAt := some time }

/-- The audit action of a task at one of its ends. -/
def Task.auditAction (task : Task) (stage : String) : String :=
  match task with
  | provisionTenant .. => "tenant.provision_" ++ stage
  | backupTenant .. => "tenant.backup_" ++ stage
  | restoreTenant .. => "tenant.restore_" ++ stage
  | deleteTenant .. => "tenant.delete_" ++ (if stage = "succeeded" then "completed" else stage)

/-- Move the tenant of a task to a status the task asks for, and commit.  A deletion does not ask the table when the
tenant is already `deleting`. -/
def moveTenant (env : Env) (task : Task) (customerId : Option String) (status : Option TenantStatus)
    (stamp : Bool) : Proc (Option PyError) := do
  let outcome ← change env fun now _ db =>
    match status, db.tenant? task.tenantId with
    | none, _ => .ok (none, db)
    | some _, none => .error .objectDeletedError
    | some status, some tenant =>
      match transitionTenantStatus tenant status with
      | .ok moved =>
        .ok (none, db.putTenant { moved with
          platformCustomerId := customerId.or moved.platformCustomerId
          updatedAt := if stamp then now else moved.updatedAt })
      | .error e => .ok (some e, db)
  match outcome with
  | none => commit env; return none
  | some e => return some e

/-- What follows an exception of a task's main part: a deletion handles a refused transition by itself. -/
def Task.onException (task : Task) (error : PyError) (dirtyCustomerId : Option String) : Phase :=
  match task, error with
  | deleteTenant .., .invalidTenantStatusTransition .. => .refused error
  | _, _ => .failing error dirtyCustomerId

/-- The backup a restore is asked for, if it is one of the tenant's. -/
def manifestFound (db : Db) (task : Task) : Bool :=
  match task with
  | .restoreTenant _ tenantId backupId => ((db.backup? backupId).map BackupManifest.tenantId) = some tenantId
  | _ => true

/-- What a finished backup leaves: its manifest. -/
def addManifest (env : Env) (task : Task) (filePath : String) : Proc Unit :=
  match task with
  | .backupTenant jobId tenantId => do
    let time ← utcnow env
    Session.Proc.modify fun db =>
      { db with backups := insert db.backups ⟨fresh db.backups, tenantId, jobId, filePath, time⟩ }
    commit env
  | _ => pure ()

/-- The audit entry with which a provisioning or a restore starts. -/
def recordStart (env : Env) (task : Task) : Proc Unit :=
  if task.enterStatus = some .provisioning ∨ task.enterStatus = some .restoring then
    recordAuditEvent env (task.auditAction "started") "tenants" (some task.tenantId)
  else
    pure ()

/-- One phase of a task.  `outside` is what the outside work of the phase gives or raises: the strategy, the bench and
the customer registration in `work`, the certificate sync in `close`.  The result is the next phase, or none when the
task is over. -/
def taskPhase (env : Env) (task : Task) (phase : Phase) (outside : Except PyError String) : Proc (Option Phase) := do
  match phase with
  | .begin =>
    let _ ← change env fun _ _ db => do return (← loadEntities db task, db)
    markJobRunning env task
    return some .enter
  | .enter =>
    match ← moveTenant env task none task.enterStatus false with
    | none => return some .work
    | some e => return some (task.onException e none)
  | .work =>
    recordStart env task
    let db ← read
    match manifestFound db task, outside with
    | true, .ok result =>
      addManifest env task result
      return some (.complete result)
    | true, .error e => return some (task.onException e none)
    | false, _ => return some (task.onException (.runtimeError "Backup manifest not found for tenant") none)
  | .complete result =>
    let customerId := if task.enterStatus = some .provisioning then some result else none
    match ← moveTenant env task customerId task.completeStatus true with
    | none => return some .close
    | some e => return some (task.onException e customerId)
  | .close =>
    markJobSuccess env task
    match outside with
    | .error e => return some (task.onException e none)
    | .ok _ =>
      recordAuditEvent env (task.auditAction "succeeded") "tenants" (some task.tenantId)
      return none
  | .failing error dirtyCustomerId =>
    let _ ← change env fun _ _ db => do return (← loadEntities db task, db)
    -- the log line's commit also writes what the main part had set before it raised
    Session.Proc.modify fun db =>
      db.modifyTenant task.tenantId fun tenant =>
        { tenant with platformCustomerId := dirtyCustomerId.or tenant.platformCustomerId }
    commit env
    return some (.marking error)
  | .marking error =>
    match ← moveTenant env task none (task.failStatus error) (task.treatedAsDone error) with
    | none => return some (.closing error)
    | some e => raise e
  | .closing error =>
    if task.treatedAsDone error then
      markJobSuccess env task
      recordAuditEvent env (task.auditAction "succeeded") "tenants" (some task.tenantId)
    else
      markJobFailed env task error
      recordAuditEvent env (task.auditAction "failed") "tenants" (some task.tenantId)
    return none
  | .refused error =>
    let _ ← change env fun _ _ db => do return (← loadEntities db task, db)
    markJobFailed env task error
    return none

/-! ### The order of the phases -/

/-- Whether a phase may end with a next phase, or with none. -/
def Phase.precedes : Phase → Option Phase → Bool
  | .begin, some .enter => true
  | .enter, some .work => true
  | .work, some (.complete _) => true
  | .complete _, some .close => true
  | .close, none => true
  | .failing .., some (.marking _) => true
  | .marking _, some (.closing _) => true
  | .closing _, none => true
  | .refused _, none => true
  | .enter, some (.failing ..) | .work, some (.failing ..) | .complete _, some (.failing ..) => true
  | .close, some (.failing ..) => true
  | .enter, some (.refused _) | .work, some (.refused _) | .complete _, some (.refused _) => true
  | .close, some (.refused _) => true
  | _, _ => false

/-- The exception handler follows the phases of the main part. -/
theorem precedes_onException (task : Task) (error : PyError) (dirtyCustomerId : Option String) (result : String) :
    Phase.enter.precedes (some (task.onException error dirtyCustomerId)) = true ∧
      Phase.work.precedes (some (task.onException error dirtyCustomerId)) = true ∧
      (Phase.complete result).precedes (some (task.onException error dirtyCustomerId)) = true ∧
      Phase.close.precedes (some (task.onException error dirtyCustomerId)) = true := by
  unfold Task.onException
  split
  · exact ⟨rfl, rfl, rfl, rfl⟩
  · exact ⟨rfl, rfl, rfl, rfl⟩

/-- A phase that ends hands over to a phase that may follow it. -/
theorem taskPhase_precedes {env : Env} {task : Task} {phase : Phase} {next : Option Phase}
    {outside : Except PyError String} {s : DbSession} (h : (taskPhase env task phase outside s).1 = .ok next) :
    phase.precedes next = true := by
  have hexception := precedes_onException task
  -- one case a phase: its last bind names the phase that it hands over to
  unfold taskPhase at h
  cases phase with
  | begin =>
    obtain ⟨_, _, -, h⟩ := of_bind_ok h
    obtain ⟨_, _, -, h⟩ := of_bind_ok h
    cases h; rfl
  | enter =>
    obtain ⟨outcome, _, -, h⟩ := of_bind_ok h
    cases outcome with
    | none => cases h; rfl
    | some e => cases h; exact (hexception _ _ "").1
  | work =>
    obtain ⟨_, s₁, -, h⟩ := of_bind_ok h
    rw [bind_ok (read_apply s₁)] at h
    cases hfound : manifestFound s₁.work task with
    | false =>
      rw [hfound] at h
      cases h; exact (hexception _ _ "").2.1
    | true =>
      rw [hfound] at h
      cases outside with
      | error e => cases h; exact (hexception _ _ "").2.1
      | ok result =>
        obtain ⟨_, _, -, h⟩ := of_bind_ok h
        cases h; rfl
  | complete result =>
    obtain ⟨outcome, _, -, h⟩ := of_bind_ok h
    cases outcome with
    | none => cases h; rfl
    | some e => cases h; exact (hexception _ _ result).2.2.1
  | close =>
    obtain ⟨_, _, -, h⟩ := of_bind_ok h
    cases outside with
    | error e => cases h; exact (hexception _ _ "").2.2.2
    | ok _ =>
      obtain ⟨_, _, -, h⟩ := of_bind_ok h
      cases h; rfl
  | failing error dirty =>
    obtain ⟨_, _, -, h⟩ := of_bind_ok h
    obtain ⟨_, _, -, h⟩ := of_bind_ok h
    obtain ⟨_, _, -, h⟩ := of_bind_ok h
    cases h; rfl
  | marking error =>
    obtain ⟨outcome, _, -, h⟩ := of_bind_ok h
    cases outcome with
    | none => cases h; rfl
    | some e => cases h
  | closing error =>
    dsimp only at h
    split at h
    · obtain ⟨_, _, -, h⟩ := of_bind_ok h
      obtain ⟨_, _, -, h⟩ := of_bind_ok h
      cases h; rfl
    · obtain ⟨_, _, -, h⟩ := of_bind_ok h
      obtain ⟨_, _, -, h⟩ := of_bind_ok h
      cases h; rfl
  | refused error =>
    obtain ⟨_, _, -, h⟩ := of_bind_ok h
    obtain ⟨_, _, -, h⟩ := of_bind_ok h
    cases h; rfl

end ControlPlane
