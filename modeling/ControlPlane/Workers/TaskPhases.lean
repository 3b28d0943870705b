import ControlPlane.Workers.Watched

/-!
# What the phases of a task compute

One equation for each outcome of the two building blocks of a phase: the change of the task's job, and the move of its
tenant.  From them it follows which phases go through, that is hand over to another phase or end the job: those that
find their rows, whose commit succeeds and, in an exception handler, whose move of the tenant is one of the table.
-/

namespace ControlPlane

open Table Session Session.Proc

/-- The job has come to an end, well or badly. -/
def Db.jobEnded (db : Db) (jobId : Nat) : Bool :=
  (db.job? jobId).any fun job => job.status = .succeeded ∨ job.status = .failed

theorem Db.jobEnded_congr {db db' : Db} (h : db'.jobs = db.jobs) (jobId : Nat) :
    db'.jobEnded jobId = db.jobEnded jobId := by
  unfold Db.jobEnded Db.job?
  rw [h]

/-! ### The job -/

/-- A job whose change cannot be committed stays as it was. -/
theorem updateJob_lost {env : Env} (task : Task) (f : Time → Job → Job) {s : DbSession}
    (hcommit : env.commitFails s.tick = true) :
    updateJob env task f s = (.error .operationalError, { s with work := s.saved, tick := s.tick + 1 }) := by
  unfold updateJob
  rw [bind_ok (utcnow_apply env s), bind_ok (modify_apply _ s), commit_apply]
  exact if_pos hcommit

/-- A change of the job that is committed. -/
theorem updateJob_done {env : Env} (task : Task) (f : Time → Job → Job) {s : DbSession}
    (hcommit : env.commitFails s.tick = false) :
    ∃ s', updateJob env task f s = (.ok (), s') ∧ s'.work = s'.saved ∧ s'.tick = s.tick + 1 ∧
      s'.saved.jobs = Table.modify s.work.jobs task.jobId (f (env.clock s.tick)) := by
  unfold updateJob
  rw [bind_ok (utcnow_apply env s), bind_ok (modify_apply _ s), commit_apply]
  dsimp only
  rw [if_neg (by simp [hcommit])]
  exact ⟨_, rfl, rfl, rfl, rfl⟩

/-- A job that is given a status at which it is over has ended, if there is a row of it. -/
theorem jobEnded_modify {db : Db} {jobs : List Job} {jobId : Nat} {f : Job → Job} (hkey : ∀ job, (f job).id = job.id)
    (hstatus : ∀ job, (f job).status = .succeeded ∨ (f job).status = .failed)
    (hjobs : db.jobs = Table.modify jobs jobId f) : db.jobEnded jobId = (get? jobs jobId).isSome := by
  unfold Db.jobEnded Db.job?
  rw [hjobs]
  cases hrow : get? jobs jobId with
  | none =>
    rw [modify_of_get?_none hrow, hrow]
    rfl
  | some job =>
    rw [get?_modify_self (hkey job) hrow]
    exact decide_eq_true (hstatus job)

/-- An audit entry leaves the committed jobs as they are, whether its commit succeeds or not. -/
theorem recordAuditEvent_saved_jobs (env : Env) (action resource : String) (id : Option Nat) {s : DbSession}
    (h : s.work.jobs = s.saved.jobs) : (recordAuditEvent env action resource id s).2.saved.jobs = s.saved.jobs := by
  unfold recordAuditEvent
  rw [bind_ok (utcnow_apply env s), bind_ok (modify_apply _ s), commit_apply]
  split
  · rfl
  · exact h

/-! ### The tenant -/

section Move

variable {env : Env} {task : Task} (customerId : Option String) {new : TenantStatus} (stamp : Bool) {s : DbSession}

/-- A tenant whose row is gone. -/
theorem moveTenant_missing (hrow : s.work.tenant? task.tenantId = none) :
    moveTenant env task customerId (some new) stamp s = (.error .objectDeletedError, s) := by
  unfold moveTenant
  rw [change_bind, hrow]

/-- A move that the table refuses. -/
theorem moveTenant_refused {tenant : Tenant} (hrow : s.work.tenant? task.tenantId = some tenant)
    (hrefused : ¬Allowed tenant.status new) :
    moveTenant env task customerId (some new) stamp s =
      (.ok (some (.invalidTenantStatusTransition tenant.status.text new.text)), s) := by
  unfold moveTenant
  rw [change_bind, hrow]
  dsimp only
  rw [transitionTenantStatus_of_refused hrefused]
  rfl

/-- A move of the table whose commit fails. -/
theorem moveTenant_lost {tenant : Tenant} (hrow : s.work.tenant? task.tenantId = some tenant)
    (hallowed : Allowed tenant.status new) (hcommit : env.commitFails s.tick = true) :
    moveTenant env task customerId (some new) stamp s =
      (.error .operationalError, { s with work := s.saved, tick := s.tick + 1 }) := by
  unfold moveTenant
  rw [change_bind, hrow]
  dsimp only
  rw [transitionTenantStatus_of_allowed hallowed]
  exact commit_bind_lost _ hcommit

/-- A move of the table that is committed. -/
theorem moveTenant_moved {tenant : Tenant} (hrow : s.work.tenant? task.tenantId = some tenant)
    (hallowed : Allowed tenant.status new) (hcommit : env.commitFails s.tick = false) :
    ∃ s', moveTenant env task customerId (some new) stamp s = (.ok none, s') ∧
      s'.saved.tenantStatus task.tenantId = some new ∧ s'.saved.jobs = s.work.jobs := by
  unfold moveTenant
  rw [change_bind, hrow]
  dsimp only
  rw [transitionTenantStatus_of_allowed hallowed]
  dsimp only
  rw [commit_bind_done _ (by exact hcommit)]
  refine ⟨_, rfl, ?_, rfl⟩
  dsimp only
  rw [Db.tenantStatus_flush, Db.tenantStatus_putTenant, if_pos (Db.tenant?_id hrow).symm]
  show Option.map _ (s.work.tenantStatus task.tenantId) = _
  rw [Db.tenantStatus_of_tenant? hrow]
  rfl

end Move

/-- What a task's request for a status comes to, as its session finds the tenant. -/
theorem moveTenant_status (env : Env) (task : Task) (customerId : Option String) (new : TenantStatus) (stamp : Bool)
    {db : Db} (queue : List Task) {st : TenantStatus} (hst : db.tenantStatus task.tenantId = some st) :
    (moveTenant env task customerId (some new) stamp (opened db queue)).2.saved.tenantStatus task.tenantId =
      some (if Allowed st new ∧ env.commitFails 0 = false then new else st) := by
  obtain ⟨tenant, htenant, rfl⟩ := Option.map_eq_some_iff.1 hst
  have hrow : (opened db queue : DbSession).work.tenant? task.tenantId = some tenant := htenant
  by_cases hallowed : Allowed tenant.status new
  · cases hcommit : env.commitFails 0 with
    | true =>
      rw [moveTenant_lost _ _ hrow hallowed hcommit, if_neg (by simp)]
      exact hst
    | false =>
      obtain ⟨s', hs', hstatus, -⟩ := moveTenant_moved customerId stamp hrow hallowed hcommit
      rw [hs', if_pos ⟨hallowed, rfl⟩]
      exact hstatus
  · rw [moveTenant_refused _ _ hrow hallowed, if_neg fun h => hallowed h.1]
    exact hst

/-- What follows a move in the same phase writes nothing. -/
theorem saved_after_move {p : Proc (Option PyError)} (next : Option PyError → Except PyError (Option Phase))
    {rest : Option PyError → Proc (Option Phase)} (hrest : ∀ outcome s, rest outcome s = (next outcome, s))
    (s : DbSession) : ((p >>= rest) s).2.saved = (p s).2.saved := by
  rw [bind_apply]
  rcases p s with ⟨_ | outcome, s'⟩
  · rfl
  · exact congrArg (fun r => r.2.saved) (hrest outcome s')

/-- A phase that asks for a status writes what its move writes. -/
theorem taskPhase_saved {env : Env} {task : Task} {phase : Phase} {new : TenantStatus} (outside : Except PyError String)
    (s : DbSession) (hasks : phase.movesTo task = some new) : ∃ customerId stamp,
    (taskPhase env task phase outside s).2.saved = (moveTenant env task customerId (some new) stamp s).2.saved := by
  cases phase with
  | enter =>
    have hstatus : task.enterStatus = some new := hasks
    unfold taskPhase
    dsimp only
    rw [hstatus]
    refine ⟨none, false, saved_after_move (fun outcome => ?_) (fun outcome s => ?_) s⟩
    · exact .ok (outcome.elim (some .work) fun e => some (task.onException e none))
    · cases outcome <;> rfl
  | complete result =>
    have hstatus : task.completeStatus = some new := hasks
    unfold taskPhase
    dsimp only
    rw [hstatus]
    refine ⟨_, true, saved_after_move (fun outcome => ?_) (fun outcome s => ?_) s⟩
    · exact .ok (outcome.elim (some .close) fun e =>
        some (task.onException e (if task.enterStatus = some .provisioning then some result else none)))
    · cases outcome <;> rfl
  | marking error =>
    have hstatus : task.failStatus error = some new := hasks
    unfold taskPhase
    dsimp only
    rw [hstatus]
    refine ⟨none, task.treatedAsDone error, saved_after_move (fun outcome => ?_) (fun outcome s => ?_) s⟩
    · exact outcome.elim (.ok (some (.closing error))) .error
    · cases outcome <;> rfl
  | _ => cases hasks

/-- A phase that asks for no status leaves the one there is. -/
theorem taskPhase_status {env : Env} {task : Task} {phase : Phase} {outside : Except PyError String} {db : Db}
    {queue : List Task} (hphase : phase.movesTo task = none) (t : Nat) :
    (taskPhase env task phase outside (opened db queue)).2.saved.tenantStatus t = db.tenantStatus t := by
  have h : (Watch.ofStatus t fun st => st = db.tenantStatus t).Holds
      (taskPhase env task phase outside (opened db queue)).2 := by
    refine Watch.holds_taskPhase ⟨rfl, rfl, trivial⟩ fun _ new hnew => ?_
    rw [hphase] at hnew
    cases hnew
  exact h.2.1

/-- A phase that asks for a status moves its tenant there, if the table and the commit let it. -/
theorem taskPhase_moved {env : Env} {task : Task} {phase : Phase} {new st : TenantStatus}
    (outside : Except PyError String) {db : Db} (queue : List Task) (hasks : phase.movesTo task = some new)
    (hst : db.tenantStatus task.tenantId = some st) :
    (taskPhase env task phase outside (opened db queue)).2.saved.tenantStatus task.tenantId =
      some (if Allowed st new ∧ env.commitFails 0 = false then new else st) := by
  obtain ⟨customerId, stamp, hsaved⟩ := taskPhase_saved outside (opened db queue) hasks
  rw [hsaved]
  exact moveTenant_status env task customerId new stamp queue hst

/-- The table refuses the status a task asks for. -/
def Db.refuses (db : Db) (task : Task) (status : Option TenantStatus) : Bool :=
  status.any fun new => (db.tenantStatus task.tenantId).any fun st => !decide (Allowed st new)

/-- A task's move ends with its outcome, refused or not, if there is a row to move and the commit succeeds; the jobs
stay as they are. -/
theorem moveTenant_returns {env : Env} (task : Task) (status : Option TenantStatus) {db : Db}
    (customerId : Option String) (stamp : Bool) (queue : List Task)
    (hrow : ((db.tenant? task.tenantId).isSome || status.isNone) = true)
    (hcommit : db.refuses task status = false → env.commitFails 0 = false) :
    ∃ outcome s', moveTenant env task customerId status stamp (opened db queue) = (.ok outcome, s') ∧
      outcome.isSome = db.refuses task status ∧ s'.saved.jobs = db.jobs := by
  cases status with
  | none =>
    unfold moveTenant
    rw [change_bind]
    dsimp only
    rw [commit_bind_done _ (by exact hcommit rfl)]
    exact ⟨_, _, rfl, rfl, rfl⟩
  | some new =>
    rw [Option.isNone_some, Bool.or_false] at hrow
    obtain ⟨tenant, htenant⟩ := Option.isSome_iff_exists.1 hrow
    have hrefuses : db.refuses task (some new) = !decide (Allowed tenant.status new) := by
      unfold Db.refuses
      rw [Db.tenantStatus_of_tenant? htenant]
      rfl
    by_cases hallowed : Allowed tenant.status new
    · rw [decide_eq_true hallowed] at hrefuses
      obtain ⟨s', hs', -, hjobs⟩ := moveTenant_moved customerId stamp
        (s := opened db queue) htenant hallowed (hcommit hrefuses)
      exact ⟨none, s', hs', hrefuses.symm, hjobs⟩
    · rw [decide_eq_false hallowed] at hrefuses
      exact ⟨_, _, moveTenant_refused _ _ htenant hallowed, hrefuses.symm, rfl⟩

/-- Otherwise it raises, and nothing has changed. -/
theorem moveTenant_raises {env : Env} {task : Task} {status : Option TenantStatus} {db : Db}
    (customerId : Option String) (stamp : Bool) (queue : List Task)
    (h : ¬(((db.tenant? task.tenantId).isSome || status.isNone) = true ∧
      (db.refuses task status = false → env.commitFails 0 = false))) :
    ∃ e s', moveTenant env task customerId status stamp (opened db queue) = (.error e, s') ∧ s'.saved = db := by
  cases status with
  | none =>
    have hcommit : env.commitFails 0 = true := by
      by_contra hno
      exact h ⟨Bool.or_true _, fun _ => Bool.eq_false_of_not_eq_true hno⟩
    unfold moveTenant
    rw [change_bind]
    dsimp only
    rw [commit_bind_lost _ (by exact hcommit)]
    exact ⟨_, _, rfl, rfl⟩
  | some new =>
    rw [Option.isNone_some, Bool.or_false] at h
    cases htenant : db.tenant? task.tenantId with
    | none => exact ⟨_, _, moveTenant_missing _ _ htenant, rfl⟩
    | some tenant =>
      rw [htenant] at h
      have hno := Classical.not_imp.1 fun hcommit => h ⟨rfl, hcommit⟩
      have hallowed : Allowed tenant.status new := by
        have hrefuses := hno.1
        unfold Db.refuses at hrefuses
        rw [Db.tenantStatus_of_tenant? htenant] at hrefuses
        simpa using hrefuses
      exact ⟨_, _, moveTenant_lost _ _ htenant hallowed (Bool.eq_true_of_not_eq_false hno.2), rfl⟩

/-! ### Which phases go through -/

/-- The rows a phase needs are there. -/
def Phase.findsRows (phase : Phase) (task : Task) (outside : Except PyError String) (db : Db) : Bool :=
  match phase with
  | .begin | .failing .. | .refused _ => (db.job? task.jobId).isSome && (db.tenant? task.tenantId).isSome
  | .enter | .complete _ | .marking _ => (db.tenant? task.tenantId).isSome || (phase.movesTo task).isNone
  | .work => true
  -- when the last outside call fails, it is the handler that looks for the rows again
  | .close => (db.job? task.jobId).isSome || !outside.isOk
  | .closing _ => (db.job? task.jobId).isSome

/-- Whether a task writes something during its outside work. -/
def Task.recordsWork (task : Task) (outside : Except PyError String) : Bool :=
  match task with
  | provisionTenant .. | restoreTenant .. => true
  | backupTenant .. => outside.isOk
  | deleteTenant .. => false

/-- Whether a phase comes to a commit on which the next one depends. -/
def Phase.commits (phase : Phase) (task : Task) (outside : Except PyError String) (db : Db) : Bool :=
  match phase with
  | .enter | .complete _ | .marking _ => !db.refuses task (phase.movesTo task)
  | .work => task.recordsWork outside
  | _ => true

/-- A phase goes through if its rows are there, its commit succeeds and, in an exception handler, the table lets the
tenant into the status the handler asks for. -/
structure Phase.GoesThrough (phase : Phase) (env : Env) (task : Task) (outside : Except PyError String) (db : Db) :
    Prop where
  rows : phase.findsRows task outside db = true
  commit : phase.commits task outside db = true → env.commitFails 0 = false
  handled : ∀ error, phase = .marking error → db.refuses task (task.failStatus error) = false

/-- The phase that comes after a phase with this result, if any. -/
def nextPhase : Except PyError (Option Phase) → Option Phase
  | .ok next => next
  | .error _ => none

theorem loadEntities_found {db : Db} {task : Task}
    (h : ((db.job? task.jobId).isSome && (db.tenant? task.tenantId).isSome) = true) :
    ∃ entities, loadEntities db task = .ok entities := by
  obtain ⟨hjob, htenant⟩ := Bool.and_eq_true_iff.1 h
  obtain ⟨job, hjob⟩ := Option.isSome_iff_exists.1 hjob
  obtain ⟨tenant, htenant⟩ := Option.isSome_iff_exists.1 htenant
  unfold loadEntities
  rw [hjob, htenant]
  exact ⟨_, rfl⟩

theorem loadEntities_missing {db : Db} {task : Task}
    (h : ((db.job? task.jobId).isSome && (db.tenant? task.tenantId).isSome) = false) :
    ∃ e, loadEntities db task = .error e := by
  unfold loadEntities
  cases hjob : db.job? task.jobId with
  | none => exact ⟨_, rfl⟩
  | some job =>
    cases htenant : db.tenant? task.tenantId with
    | none => exact ⟨_, rfl⟩
    | some tenant =>
      rw [hjob, htenant] at h
      cases h

section Phases

variable {env : Env} {task : Task} {phase : Phase} {outside : Except PyError String} {db : Db}

theorem loadTask_ok {entities : Job × Tenant} (queue : List Task) (h : loadEntities db task = .ok entities) :
    change env (fun _ _ db => do return (← loadEntities db task, db)) (opened db queue) =
      (.ok entities, opened db queue) := by
  refine change_ok ?_
  show (do return (← loadEntities db task, db)) = _
  rw [h]
  rfl

theorem loadTask_error {e : PyError} (queue : List Task) (h : loadEntities db task = .error e) :
    change env (fun _ _ db => do return (← loadEntities db task, db)) (opened db queue) =
      (.error e, opened db queue) := by
  refine change_error ?_
  show (do return (← loadEntities db task, db)) = _
  rw [h]
  rfl

theorem recordAuditEvent_done (env : Env) (action resource : String) (id : Option Nat) {s : DbSession}
    (hcommit : env.commitFails s.tick = false) :
    ∃ s', recordAuditEvent env action resource id s = (.ok (), s') := by
  unfold recordAuditEvent
  rw [bind_ok (utcnow_apply env s), bind_ok (modify_apply _ s), commit_apply]
  dsimp only
  rw [if_neg (by simp [hcommit])]
  exact ⟨_, rfl⟩

theorem recordAuditEvent_lost (env : Env) (action resource : String) (id : Option Nat) {s : DbSession}
    (hcommit : env.commitFails s.tick = true) :
    ∃ e s', recordAuditEvent env action resource id s = (.error e, s') ∧ s'.saved = s.saved := by
  unfold recordAuditEvent
  rw [bind_ok (utcnow_apply env s), bind_ok (modify_apply _ s), commit_apply]
  dsimp only
  rw [if_pos hcommit]
  exact ⟨_, _, rfl, rfl⟩

/-- What a task writes around its outside work is written if the commit succeeds. -/
theorem recordWork_done (task : Task) (db : Db) (queue : List Task)
    (hcommit : task.recordsWork outside = true → env.commitFails 0 = false) :
    ∃ s₁, recordStart env task (opened db queue) = (.ok (), s₁) ∧
      ∀ result, outside = .ok result → ∃ s₂, addManifest env task result s₁ = (.ok (), s₂) := by
  cases task with
  | backupTenant jobId tenantId =>
    refine ⟨_, rfl, ?_⟩
    rintro result rfl
    unfold addManifest
    dsimp only
    rw [bind_ok (utcnow_apply env _), bind_ok (modify_apply _ _), commit_apply]
    dsimp only
    rw [if_neg (by simp [opened, hcommit rfl])]
    exact ⟨_, rfl⟩
  | deleteTenant jobId tenantId => exact ⟨_, rfl, fun _ _ => ⟨_, rfl⟩⟩
  | provisionTenant jobId tenantId ownerEmail =>
    obtain ⟨s₁, hs₁⟩ := recordAuditEvent_done env (s := opened db queue) "tenant.provision_started" "tenants"
      (some tenantId) (hcommit rfl)
    exact ⟨s₁, hs₁, fun _ _ => ⟨_, rfl⟩⟩
  | restoreTenant jobId tenantId backupId =>
    obtain ⟨s₁, hs₁⟩ := recordAuditEvent_done env (s := opened db queue) "tenant.restore_started" "tenants"
      (some tenantId) (hcommit rfl)
    exact ⟨s₁, hs₁, fun _ _ => ⟨_, rfl⟩⟩

/-- A job that is marked as over has ended, if it is there. -/
theorem markJob_ended {f : Time → Job → Job} (task : Task) (db : Db) (queue : List Task)
    (hkey : ∀ time job, (f time job).id = job.id)
    (hstatus : ∀ time job, (f time job).status = .succeeded ∨ (f time job).status = .failed)
    (hcommit : env.commitFails 0 = false) :
    ∃ s', updateJob env task f (opened db queue) = (.ok (), s') ∧ s'.work = s'.saved ∧
      s'.saved.jobEnded task.jobId = (db.job? task.jobId).isSome := by
  obtain ⟨s', hs', hwork, -, hjobs⟩ := updateJob_done task f (s := opened db queue) hcommit
  exact ⟨s', hs', hwork, jobEnded_modify (hkey _) (hstatus _) hjobs⟩

theorem markJobSuccess_ended (task : Task) (db : Db) (queue : List Task) (hcommit : env.commitFails 0 = false) :
    ∃ s', markJobSuccess env task (opened db queue) = (.ok (), s') ∧ s'.work = s'.saved ∧
      s'.saved.jobEnded task.jobId = (db.job? task.jobId).isSome :=
  markJob_ended task db queue (fun _ _ => rfl) (fun _ _ => Or.inl rfl) hcommit

theorem markJobFailed_ended (task : Task) (db : Db) (error : PyError) (queue : List Task)
    (hcommit : env.commitFails 0 = false) :
    ∃ s', markJobFailed env task error (opened db queue) = (.ok (), s') ∧ s'.work = s'.saved ∧
      s'.saved.jobEnded task.jobId = (db.job? task.jobId).isSome :=
  markJob_ended task db queue (fun _ _ => rfl) (fun _ _ => Or.inr rfl) hcommit

/-- The audit entry with which a task closes: whatever becomes of it, the task is over and the jobs are as they were. -/
theorem closingEntry (stage : String) {s : DbSession} (h : s.work = s.saved) :
    let p := (recordAuditEvent env (task.auditAction stage) "tenants" (some task.tenantId) >>= fun _ =>
      (pure none : Proc (Option Phase))) s
    nextPhase p.1 = none ∧ ∀ jobId, p.2.saved.jobEnded jobId = s.saved.jobEnded jobId := by
  have hjobs := recordAuditEvent_saved_jobs env (task.auditAction stage) "tenants" (some task.tenantId)
    (congrArg Db.jobs h)
  rw [bind_apply]
  revert hjobs
  rcases recordAuditEvent env (task.auditAction stage) "tenants" (some task.tenantId) s with ⟨_ | u, s'⟩
  · exact fun hjobs => ⟨rfl, Db.jobEnded_congr hjobs⟩
  · exact fun hjobs => ⟨rfl, Db.jobEnded_congr hjobs⟩

/-- What a phase leaves when it goes through: another phase, or the job ended. -/
def HandsOver (task : Task) (p : Except PyError (Option Phase) × DbSession) : Prop :=
  (nextPhase p.1).isSome = true ∨ p.2.saved.jobEnded task.jobId = true

/-- A phase that goes through hands over to another phase, or leaves the job ended. -/
theorem taskPhase_goes (queue : List Task) (h : phase.GoesThrough env task outside db) :
    HandsOver task (taskPhase env task phase outside (opened db queue)) := by
  obtain ⟨hrows, hcommit, hhandled⟩ := h
  -- all phases hand over but `closing`, `refused` and a `close` without an error, which end the job
  cases phase with
  | begin =>
    obtain ⟨entities, hload⟩ := loadEntities_found hrows
    obtain ⟨s', hs', -⟩ := updateJob_done task (fun time job => { job with status := .running, startedAt := some time })
      (s := opened db queue) (hcommit rfl)
    unfold taskPhase
    dsimp only
    rw [bind_ok (loadTask_ok queue hload), bind_ok (p := markJobRunning env task) hs']
    exact Or.inl rfl
  | enter =>
    have hallowed : db.refuses task task.enterStatus = false → env.commitFails 0 = false := fun hno =>
      hcommit (by simpa [Phase.commits, Phase.movesTo] using hno)
    obtain ⟨outcome, s', hs', -⟩ := moveTenant_returns task task.enterStatus none false queue hrows hallowed
    unfold taskPhase
    dsimp only
    rw [bind_ok hs']
    cases outcome <;> exact Or.inl rfl
  | work =>
    obtain ⟨s₁, hs₁, hmanifest⟩ := recordWork_done task db queue hcommit
    unfold taskPhase
    dsimp only
    rw [bind_ok hs₁, bind_ok (read_apply s₁)]
    cases manifestFound s₁.work task with
    | false => exact Or.inl rfl
    | true =>
      cases outside with
      | error e => exact Or.inl rfl
      | ok result =>
        obtain ⟨s₂, hs₂⟩ := hmanifest result rfl
        dsimp only
        rw [bind_ok hs₂]
        exact Or.inl rfl
  | complete result =>
    have hallowed : db.refuses task task.completeStatus = false → env.commitFails 0 = false := fun hno =>
      hcommit (by simpa [Phase.commits, Phase.movesTo] using hno)
    obtain ⟨outcome, s', hs', -⟩ := moveTenant_returns task task.completeStatus
      (if task.enterStatus = some .provisioning then some result else none) true queue hrows hallowed
    unfold taskPhase
    dsimp only
    rw [bind_ok hs']
    cases outcome <;> exact Or.inl rfl
  | close =>
    obtain ⟨s', hs', hwork, hended⟩ := markJobSuccess_ended task db queue (hcommit rfl)
    unfold taskPhase
    dsimp only
    rw [bind_ok hs']
    cases outside with
    | error e => exact Or.inl rfl
    | ok value =>
      have hjob : (db.job? task.jobId).isSome = true := by
        simpa [Phase.findsRows, Except.isOk, Except.toBool] using hrows
      exact Or.inr (((closingEntry "succeeded" hwork).2 task.jobId).trans (hended.trans hjob))
  | failing error dirtyCustomerId =>
    obtain ⟨entities, hload⟩ := loadEntities_found hrows
    unfold taskPhase
    dsimp only
    rw [bind_ok (loadTask_ok queue hload), bind_ok (modify_apply _ _), commit_bind_done _ (by exact hcommit rfl)]
    exact Or.inl rfl
  | marking error =>
    have hallowed : db.refuses task (task.failStatus error) = false → env.commitFails 0 = false := fun hno =>
      hcommit (by simpa [Phase.commits, Phase.movesTo] using hno)
    obtain ⟨outcome, s', hs', houtcome, -⟩ := moveTenant_returns task (task.failStatus error) none
      (task.treatedAsDone error) queue hrows hallowed
    have hnone : outcome.isSome = false := houtcome.trans (hhandled error rfl)
    unfold taskPhase
    dsimp only
    rw [bind_ok hs']
    cases outcome with
    | none => exact Or.inl rfl
    | some e => cases hnone
  | closing error =>
    unfold taskPhase
    dsimp only
    split
    · obtain ⟨s', hs', hwork, hended⟩ := markJobSuccess_ended task db queue (hcommit rfl)
      rw [bind_ok hs']
      exact Or.inr (((closingEntry "succeeded" hwork).2 task.jobId).trans (hended.trans hrows))
    · obtain ⟨s', hs', hwork, hended⟩ := markJobFailed_ended task db error queue (hcommit rfl)
      rw [bind_ok hs']
      exact Or.inr (((closingEntry "failed" hwork).2 task.jobId).trans (hended.trans hrows))
  | refused error =>
    obtain ⟨entities, hload⟩ := loadEntities_found hrows
    obtain ⟨s', hs', -, hended⟩ := markJobFailed_ended task db error queue (hcommit rfl)
    unfold taskPhase
    dsimp only
    rw [bind_ok (loadTask_ok queue hload), bind_ok hs']
    exact Or.inr (hended.trans (Bool.and_eq_true_iff.1 hrows).1)

/-- What a phase leaves when it does not go through: the task is over, and its job as the phase found it. -/
def Stops (task : Task) (db : Db) (p : Except PyError (Option Phase) × DbSession) : Prop :=
  nextPhase p.1 = none ∧ p.2.saved.jobEnded task.jobId = db.jobEnded task.jobId

theorem not_goesThrough (h : ¬phase.GoesThrough env task outside db) : phase.findsRows task outside db = false ∨
    (phase.commits task outside db = true ∧ env.commitFails 0 = true) ∨
    ∃ error, phase = .marking error ∧ db.refuses task (task.failStatus error) = true := by
  by_contra hno
  obtain ⟨hrows, hno⟩ := not_or.1 hno
  obtain ⟨hcommit, hhandled⟩ := not_or.1 hno
  refine h ⟨Bool.eq_true_of_not_eq_false hrows, fun hcommits => ?_, fun error herror => ?_⟩
  · exact Bool.eq_false_of_not_eq_true fun hfails => hcommit ⟨hcommits, hfails⟩
  · exact Bool.eq_false_of_not_eq_true fun hrefuses => hhandled ⟨error, herror, hrefuses⟩

theorem jobEnded_of_missing {jobId : Nat} (h : (db.job? jobId).isSome = false) : db.jobEnded jobId = false := by
  unfold Db.jobEnded
  cases hjob : db.job? jobId with
  | none => rfl
  | some job =>
    rw [hjob] at h
    cases h

/-- A phase that begins with the rows of its task, of which it finds none or after which it stops. -/
theorem loading_stops {rest : Job × Tenant → Proc (Option Phase)} (queue : List Task)
    (h : ((db.job? task.jobId).isSome && (db.tenant? task.tenantId).isSome) = false ∨
      ∀ entities, Stops task db (rest entities (opened db queue))) :
    Stops task db ((change env (fun _ _ db => do return (← loadEntities db task, db)) >>= rest) (opened db queue)) := by
  cases hload : loadEntities db task with
  | error e =>
    rw [bind_error (loadTask_error queue hload)]
    exact ⟨rfl, rfl⟩
  | ok entities =>
    rw [bind_ok (loadTask_ok queue hload)]
    rcases h with hmissing | hrest
    · obtain ⟨e, he⟩ := loadEntities_missing hmissing
      rw [hload] at he
      cases he
    · exact hrest entities

/-- A phase that moves its tenant and raises there. -/
theorem moving_stops (status : Option TenantStatus) {customerId : Option String} {stamp : Bool}
    {rest : Option PyError → Proc (Option Phase)} (queue : List Task)
    (h : ((db.tenant? task.tenantId).isSome || status.isNone) = false ∨
      (db.refuses task status = false ∧ env.commitFails 0 = true)) :
    Stops task db ((moveTenant env task customerId status stamp >>= rest) (opened db queue)) := by
  have hraises : ¬(((db.tenant? task.tenantId).isSome || status.isNone) = true ∧
      (db.refuses task status = false → env.commitFails 0 = false)) := by
    rintro ⟨hrow, hcommit⟩
    rcases h with hmissing | ⟨hallowed, hfails⟩
    · rw [hrow] at hmissing
      cases hmissing
    · rw [hcommit hallowed] at hfails
      cases hfails
  obtain ⟨e, s', hs', hsaved⟩ := moveTenant_raises customerId stamp queue hraises
  rw [bind_error hs']
  exact ⟨rfl, by rw [hsaved]⟩

/-- The outside work, when nothing can be written around it. -/
theorem work_stops (queue : List Task) (hrecords : task.recordsWork outside = true)
    (hcommit : env.commitFails 0 = true) :
    Stops task db (taskPhase env task .work outside (opened db queue)) := by
  unfold taskPhase
  dsimp only
  cases task with
  | backupTenant jobId tenantId =>
    obtain ⟨result, rfl⟩ : ∃ result, outside = .ok result := by
      cases outside with
      | ok result => exact ⟨result, rfl⟩
      | error e => cases hrecords
    rw [bind_ok (p := recordStart env _) (a := ()) rfl, bind_ok (read_apply _)]
    show Stops _ db ((addManifest env (.backupTenant jobId tenantId) result >>= _) (opened db queue))
    have hlost : ∃ e s', addManifest env (.backupTenant jobId tenantId) result (opened db queue) = (.error e, s') ∧
        s'.saved = db := by
      unfold addManifest
      dsimp only
      rw [bind_ok (utcnow_apply env _), bind_ok (modify_apply _ _), commit_apply]
      exact ⟨_, _, if_pos hcommit, rfl⟩
    obtain ⟨e, s', hs', hsaved⟩ := hlost
    rw [bind_error hs']
    exact ⟨rfl, by rw [hsaved]⟩
  | deleteTenant jobId tenantId => cases hrecords
  | provisionTenant jobId tenantId ownerEmail =>
    obtain ⟨e, s', hs', hsaved⟩ := recordAuditEvent_lost env (s := opened db queue) "tenant.provision_started"
      "tenants" (some tenantId) hcommit
    rw [bind_error (p := recordStart env (.provisionTenant jobId tenantId ownerEmail)) hs']
    exact ⟨rfl, by rw [hsaved]; rfl⟩
  | restoreTenant jobId tenantId backupId =>
    obtain ⟨e, s', hs', hsaved⟩ := recordAuditEvent_lost env (s := opened db queue) "tenant.restore_started"
      "tenants" (some tenantId) hcommit
    rw [bind_error (p := recordStart env (.restoreTenant jobId tenantId backupId)) hs']
    exact ⟨rfl, by rw [hsaved]; rfl⟩

/-- A phase that marks the job and is over. -/
theorem marking_stops {f : Time → Job → Job} {rest : Unit → Proc (Option Phase)} (queue : List Task)
    (hkey : ∀ time job, (f time job).id = job.id)
    (hstatus : ∀ time job, (f time job).status = .succeeded ∨ (f time job).status = .failed)
    (hrest : ∀ s' : DbSession, s'.work = s'.saved → nextPhase (rest () s').1 = none ∧
      ∀ jobId, (rest () s').2.saved.jobEnded jobId = s'.saved.jobEnded jobId)
    (h : (db.job? task.jobId).isSome = false ∨ env.commitFails 0 = true) :
    Stops task db ((updateJob env task f >>= rest) (opened db queue)) := by
  cases hcommit : env.commitFails 0 with
  | true =>
    rw [bind_error (updateJob_lost task f hcommit)]
    exact ⟨rfl, rfl⟩
  | false =>
    obtain ⟨s', hs', hwork, hended⟩ := markJob_ended task db queue hkey hstatus hcommit
    have hmissing : (db.job? task.jobId).isSome = false := h.resolve_right (by simp [hcommit])
    obtain ⟨hover, hkept⟩ := hrest s' hwork
    rw [bind_ok hs']
    exact ⟨hover, by rw [hkept, hended, hmissing, jobEnded_of_missing hmissing]⟩

/-- A phase that does not go through ends the task and leaves its job as it was. -/
theorem taskPhase_stops (queue : List Task) (h : ¬phase.GoesThrough env task outside db) :
    Stops task db (taskPhase env task phase outside (opened db queue)) := by
  have hfailure := not_goesThrough h
  cases phase with
  | begin =>
    refine loading_stops queue ?_
    rcases hfailure with hrows | ⟨-, hcommit⟩ | ⟨error, hmarking, -⟩
    · exact Or.inl hrows
    · right
      intro entities
      rw [bind_error (p := markJobRunning env task) (updateJob_lost task _ hcommit)]
      exact ⟨rfl, rfl⟩
    · cases hmarking
  | enter =>
    refine moving_stops task.enterStatus queue ?_
    rcases hfailure with hrows | ⟨hallowed, hcommit⟩ | ⟨error, hmarking, -⟩
    · exact Or.inl hrows
    · exact Or.inr ⟨by simpa [Phase.commits, Phase.movesTo] using hallowed, hcommit⟩
    · cases hmarking
  | work =>
    rcases hfailure with hrows | ⟨hrecords, hcommit⟩ | ⟨error, hmarking, -⟩
    · cases hrows
    · exact work_stops queue hrecords hcommit
    · cases hmarking
  | complete result =>
    refine moving_stops task.completeStatus queue ?_
    rcases hfailure with hrows | ⟨hallowed, hcommit⟩ | ⟨error, hmarking, -⟩
    · exact Or.inl hrows
    · exact Or.inr ⟨by simpa [Phase.commits, Phase.movesTo] using hallowed, hcommit⟩
    · cases hmarking
  | close =>
    cases outside with
    | ok value =>
      refine marking_stops queue (fun _ _ => rfl) (fun _ _ => Or.inl rfl)
        (fun s' hwork => closingEntry "succeeded" hwork) ?_
      rcases hfailure with hrows | ⟨-, hcommit⟩ | ⟨error, hmarking, -⟩
      · exact Or.inl (Bool.or_eq_false_iff.1 hrows).1
      · exact Or.inr hcommit
      · cases hmarking
    | error e =>
      have hcommit : env.commitFails 0 = true := by
        rcases hfailure with hrows | ⟨-, hcommit⟩ | ⟨error, hmarking, -⟩
        · cases (Bool.or_eq_false_iff.1 hrows).2
        · exact hcommit
        · cases hmarking
      unfold taskPhase
      dsimp only
      rw [bind_error (p := markJobSuccess env task) (updateJob_lost task _ hcommit)]
      exact ⟨rfl, rfl⟩
  | failing error dirtyCustomerId =>
    refine loading_stops queue ?_
    rcases hfailure with hrows | ⟨-, hcommit⟩ | ⟨error, hmarking, -⟩
    · exact Or.inl hrows
    · right
      intro entities
      rw [bind_ok (modify_apply _ _), commit_bind_lost _ (by exact hcommit)]
      exact ⟨rfl, rfl⟩
    · cases hmarking
  | marking error =>
    by_cases hraises : ((db.tenant? task.tenantId).isSome || (task.failStatus error).isNone) = false ∨
        (db.refuses task (task.failStatus error) = false ∧ env.commitFails 0 = true)
    · exact moving_stops _ queue hraises
    · obtain ⟨hrow, hcommit⟩ := not_or.1 hraises
      have hrefuses : db.refuses task (task.failStatus error) = true := by
        rcases hfailure with hrows | ⟨hallowed, hfails⟩ | ⟨error', hmarking, hrefuses⟩
        · exact absurd hrows hrow
        · exact absurd ⟨by simpa [Phase.commits, Phase.movesTo] using hallowed, hfails⟩ hcommit
        · cases hmarking; exact hrefuses
      -- the handler's own transition is refused, and what it raises nobody handles
      have hallowed : db.refuses task (task.failStatus error) = false → env.commitFails 0 = false := fun hno => by
        rw [hrefuses] at hno
        cases hno
      obtain ⟨outcome, s', hs', houtcome, hjobs⟩ := moveTenant_returns task _ none (task.treatedAsDone error) queue
        (Bool.eq_true_of_not_eq_false hrow) hallowed
      obtain ⟨e, rfl⟩ := Option.isSome_iff_exists.1 (houtcome.trans hrefuses)
      unfold taskPhase
      dsimp only
      rw [bind_ok hs']
      exact ⟨rfl, Db.jobEnded_congr hjobs _⟩
  | closing error =>
    have hlost : (db.job? task.jobId).isSome = false ∨ env.commitFails 0 = true := by
      rcases hfailure with hrows | ⟨-, hcommit⟩ | ⟨error, hmarking, -⟩
      · exact Or.inl hrows
      · exact Or.inr hcommit
      · cases hmarking
    unfold taskPhase
    dsimp only
    split
    · exact marking_stops queue (fun _ _ => rfl) (fun _ _ => Or.inl rfl)
        (fun s' hwork => closingEntry "succeeded" hwork) hlost
    · exact marking_stops queue (fun _ _ => rfl) (fun _ _ => Or.inr rfl)
        (fun s' hwork => closingEntry "failed" hwork) hlost
  | refused error =>
    refine loading_stops queue ?_
    rcases hfailure with hrows | ⟨-, hcommit⟩ | ⟨error, hmarking, -⟩
    · exact Or.inl hrows
    · right
      intro entities
      rw [bind_error (p := markJobFailed env task error) (updateJob_lost task _ hcommit)]
      exact ⟨rfl, rfl⟩
    · cases hmarking

end Phases

end ControlPlane
