import ControlPlane.Bookkeeping
import ControlPlane.Tenant.Router
import ControlPlane.System

/-!
# Backup requests at the same time

`backup_tenant` counts the day's audit entries, and only after it has inserted a job, put it on the queue and written the
queue's id back does it write an audit entry of its own.  Here these are separate steps of any number of requests for one
tenant, with a clock that runs on between them.  A job that the audit log does not know of yet, or never will because the
queue was down, is a job that the limit does not see.
-/

namespace ControlPlane

open Table Session Session.Proc Runs

/-- Where a backup request is. -/
inductive BackupPhase where
  | checking
  | inserting
  | queueing (job : Job)
  | writingBack (jobId rqJobId : Nat)
  | auditing
  | done
  deriving DecidableEq, Repr

section Phases

variable (env : Env) (tenantId : Nat)

/-- The checks of a backup request. -/
def checkBackup : Proc Unit :=
  checkTenant env tenantId fun db tenant now => do
    enforceBackupPolicy db tenant now
    enforceBackupPlanLimit db tenantId now

/-- The write-back of the queue's id, the only column of the job that the session has changed. -/
def writeQueueId (jobId rqJobId : Nat) : Proc Unit := do
  modify fun db => { db with jobs := Table.modify db.jobs jobId fun job => { job with rqJobId := some rqJobId } }
  commit env

/-- A step of a backup request, up to its next commit or to the call of the queue. -/
def backupPhase : BackupPhase → Proc BackupPhase
  | .checking => do
    checkBackup env tenantId
    return .inserting
  | .inserting => do
    let job ← addJob env tenantId .backup
    return .queueing job
  | .queueing job => do
    let rqJobId ← enqueue env (.backupTenant job.id tenantId)
    return .writingBack job.id rqJobId
  | .writingBack jobId rqJobId => do
    writeQueueId env jobId rqJobId
    return .auditing
  | .auditing => do
    recordAuditEvent env "tenant.backup_started" "tenants" (some tenantId)
    return .done
  | .done => return .done

end Phases

/-- A request in flight, with the tick it has come to. -/
structure BackupCall where
  env : Env
  phase : BackupPhase
  tick : Nat

/-- The state of the race: the committed rows, the queue, the time and the requests for the tenant. -/
structure BackupRace where
  db : Db
  queue : List Task
  now : Time
  calls : List BackupCall

/-- What happens in the race: a request comes in, a request takes a step (one that takes no more has been cut off), a
worker commits a new status of a job, or time passes. -/
inductive BackupMove where
  | begins (env : Env)
  | advances (index : Nat)
  | marks (jobId : Nat) (status : JobStatus)
  | passes (time : Nat)

/-- A backup job of the tenant, queued on a day of the UTC calendar. -/
def Job.backupOn (job : Job) (tenantId day : Nat) : Bool :=
  job.tenantId = tenantId ∧ job.type = .backup ∧ job.createdAt / days 1 = day

namespace BackupRace

/-- A request takes its next step on the committed rows; an exception ends it. -/
def advance (tenantId : Nat) (s : BackupRace) (index : Nat) (call : BackupCall) : BackupRace :=
  match backupPhase { call.env with clock := fun _ => s.now } tenantId call.phase ⟨s.db, s.db, s.queue, call.tick⟩ with
  | (.ok phase, s') => ⟨s'.saved, s'.outside, s.now, s.calls.set index { call with phase := phase, tick := s'.tick }⟩
  | (.error _, s') => ⟨s'.saved, s'.outside, s.now, s.calls.set index { call with phase := .done, tick := s'.tick }⟩

def step (tenantId : Nat) (s : BackupRace) : BackupMove → BackupRace
  | .begins env => { s with calls := s.calls ++ [⟨env, .checking, 0⟩] }
  | .advances index =>
    match s.calls[index]? with
    | none => s
    | some call => s.advance tenantId index call
  | .marks jobId status =>
    { s with db := { s.db with jobs := Table.modify s.db.jobs jobId fun job => { job with status := status } } }
  | .passes time => { s with now := s.now + time }

/-- How many backup jobs of the tenant were queued on a day. -/
def jobsOn (tenantId day : Nat) (s : BackupRace) : Nat := s.db.jobs.countP fun job => job.backupOn tenantId day

/-- At most so many backup jobs of the tenant on any day. -/
def Within (tenantId limit : Nat) (s : BackupRace) : Prop := ∀ day, s.jobsOn tenantId day ≤ limit

/-- The requests that have passed the checks and are about to insert a job. -/
def insertions (s : BackupRace) : Nat := s.calls.countP fun call => call.phase = .inserting

/-- The audit entries that the limit counts. -/
def audits (tenantId : Nat) (s : BackupRace) : Nat :=
  (s.db.auditLogs.filter fun a =>
    a.action = "tenant.backup_started" ∧ a.resourceId = some tenantId ∧ s.now - s.now % days 1 ≤ a.createdAt).length

/-- But for the limit, the tenant may have a backup. -/
def allowsBackup (tenantId : Nat) (s : BackupRace) : Bool :=
  (s.db.tenant? tenantId).any fun tenant => (enforceBackupPolicy s.db tenant s.now).isOk

/-- The moves that lead past the limit: a request finds fewer audit entries than the limit, but the jobs of the day and
the requests about to insert one have reached it. -/
def overruns (tenantId limit : Nat) (s : BackupRace) : BackupMove → Bool
  | .advances index =>
    (s.calls[index]?).any fun call =>
      call.phase = .checking ∧ s.allowsBackup tenantId = true ∧ s.audits tenantId < limit ∧
        limit ≤ s.jobsOn tenantId (s.now / days 1) + s.insertions
  | _ => false

/-! ### What a step of a request can do -/

/-- What a step of a request comes to: the place where it is then and the committed rows. -/
inductive Advanced (tenantId : Nat) (s : BackupRace) (call : BackupCall) : BackupPhase → Db → Prop
  | passed : call.phase = .checking → s.allowsBackup tenantId = true →
      enforceBackupPlanLimit s.db tenantId s.now = .ok () → Advanced tenantId s call .inserting s.db
  | inserted : call.phase = .inserting →
      Advanced tenantId s call (.queueing (newJob s.db tenantId .backup s.now))
        { s.db with jobs := insert s.db.jobs (newJob s.db tenantId .backup s.now) }
  | queued (job : Job) (rqJobId : Nat) : call.phase = .queueing job →
      Advanced tenantId s call (.writingBack job.id rqJobId) s.db
  | wroteBack (jobId rqJobId : Nat) : call.phase = .writingBack jobId rqJobId →
      Advanced tenantId s call .auditing
        { s.db with jobs := Table.modify s.db.jobs jobId fun job => { job with rqJobId := some rqJobId } }
  | audited (entry : AuditLog) : call.phase = .auditing →
      Advanced tenantId s call .done { s.db with auditLogs := insert s.db.auditLogs entry }
  | ended : Advanced tenantId s call .done s.db

/-- A commit of changed jobs and audit entries writes them and nothing else. -/
private theorem flush_backup (now : Time) (db : Db) (jobs : List Job) (auditLogs : List AuditLog) :
    Db.flush now db { db with jobs := jobs, auditLogs := auditLogs } =
      { db with jobs := jobs, auditLogs := auditLogs } := Db.flush_of_eq rfl rfl

/-- The checks change nothing, and what they let through has passed each of them. -/
theorem checkBackup_cases (env : Env) (tenantId : Nat) (s : DbSession) :
    (∃ e, checkBackup env tenantId s = (.error e, s)) ∨
      checkBackup env tenantId s = (.ok (), s) ∧
        (∃ tenant, s.work.tenant? tenantId = some tenant ∧
          (enforceBackupPolicy s.work tenant (env.clock s.tick)).isOk = true) ∧
        enforceBackupPlanLimit s.work tenantId (env.clock s.tick) = .ok () := by
  unfold checkBackup checkTenant
  rw [change_apply]
  unfold requireTenant
  cases hrow : s.work.tenant? tenantId with
  | none => exact .inl ⟨_, rfl⟩
  | some tenant =>
    cases hpolicy : enforceBackupPolicy s.work tenant (env.clock s.tick) with
    | error e => exact .inl ⟨e, by simp only [bind, Except.bind, hpolicy]⟩
    | ok u =>
      cases hlimit : enforceBackupPlanLimit s.work tenantId (env.clock s.tick) with
      | error e => exact .inl ⟨e, by simp only [bind, Except.bind, hpolicy, hlimit]⟩
      | ok u =>
        refine .inr ⟨?_, ⟨tenant, rfl, by rw [hpolicy]; rfl⟩, rfl⟩
        simp only [bind, Except.bind, hpolicy, hlimit]
        rfl

/-- What a step returns or raises, and the session it leaves. -/
inductive Stepped (env : Env) (tenantId : Nat) (db : Db) (queue : List Task) (tick : Nat) :
    BackupPhase → Except PyError BackupPhase × DbSession → Prop
  | raised (phase : BackupPhase) (e : PyError) (tick' : Nat) :
      Stepped env tenantId db queue tick phase (.error e, ⟨db, db, queue, tick'⟩)
  | passed (tenant : Tenant) : db.tenant? tenantId = some tenant →
      (enforceBackupPolicy db tenant (env.clock tick)).isOk = true →
      enforceBackupPlanLimit db tenantId (env.clock tick) = .ok () →
      Stepped env tenantId db queue tick .checking (.ok .inserting, ⟨db, db, queue, tick⟩)
  | inserted (job : Job) (rows : Db) : job = newJob db tenantId .backup (env.clock tick) →
      rows = { db with jobs := insert db.jobs job } →
      Stepped env tenantId db queue tick .inserting (.ok (.queueing job), ⟨rows, rows, queue, tick + 1⟩)
  | queued (job : Job) : Stepped env tenantId db queue tick (.queueing job)
      (.ok (.writingBack job.id queue.length), ⟨db, db, queue ++ [.backupTenant job.id tenantId], tick + 1⟩)
  | wroteBack (jobId rqJobId : Nat) (rows : Db) :
      rows = { db with jobs := Table.modify db.jobs jobId fun job => { job with rqJobId := some rqJobId } } →
      Stepped env tenantId db queue tick (.writingBack jobId rqJobId) (.ok .auditing, ⟨rows, rows, queue, tick + 1⟩)
  | audited (entry : AuditLog) (rows : Db) : rows = { db with auditLogs := insert db.auditLogs entry } →
      Stepped env tenantId db queue tick .auditing (.ok .done, ⟨rows, rows, queue, tick + 1⟩)
  | rested : Stepped env tenantId db queue tick .done (.ok .done, ⟨db, db, queue, tick⟩)

theorem backupPhase_stepped (env : Env) (tenantId : Nat) (db : Db) (queue : List Task) (tick : Nat)
    (phase : BackupPhase) :
    Stepped env tenantId db queue tick phase (backupPhase env tenantId phase ⟨db, db, queue, tick⟩) := by
  -- every phase but the first and the last ends with one commit or one call of the queue, which may fail
  cases phase with
  | checking =>
    unfold backupPhase
    dsimp only
    rw [bind_apply]
    rcases checkBackup_cases env tenantId ⟨db, db, queue, tick⟩ with
      ⟨e, hrefused⟩ | ⟨hpassed, ⟨tenant, hrow, hallowed⟩, hlimit⟩
    · rw [hrefused]
      exact .raised _ e _
    · rw [hpassed]
      exact .passed tenant hrow hallowed hlimit
  | inserting =>
    unfold backupPhase
    dsimp only
    rw [bind_apply, addJob_apply]
    dsimp only
    rw [flush_backup]
    by_cases hfails : env.commitFails tick = true
    · rw [if_pos hfails]
      exact .raised _ _ _
    · rw [if_neg hfails]
      exact .inserted _ _ rfl rfl
  | queueing job =>
    unfold backupPhase
    dsimp only
    rw [bind_apply, enqueue_apply]
    dsimp only
    by_cases hfails : env.queueFails tick = true
    · rw [if_pos hfails]
      exact .raised _ _ _
    · rw [if_neg hfails]
      exact .queued job
  | writingBack jobId rqJobId =>
    unfold backupPhase writeQueueId
    dsimp only
    rw [Proc.bind_assoc, bind_ok (modify_apply _ _), commit_bind]
    dsimp only
    rw [flush_backup]
    by_cases hfails : env.commitFails tick = true
    · rw [if_pos hfails]
      exact .raised _ _ _
    · rw [if_neg hfails]
      exact .wroteBack jobId rqJobId _ rfl
  | auditing =>
    unfold backupPhase recordAuditEvent
    dsimp only
    rw [bind_apply, bind_ok (utcnow_apply _ _), bind_ok (modify_apply _ _), commit_apply]
    dsimp only
    rw [flush_backup]
    by_cases hfails : env.commitFails tick = true
    · rw [if_pos hfails]
      exact .raised _ _ _
    · rw [if_neg hfails]
      exact .audited _ _ rfl
  | done => exact .rested

theorem advanced (tenantId : Nat) (s : BackupRace) (index : Nat) (call : BackupCall) :
    ∃ phase tick db queue, s.advance tenantId index call =
        ⟨db, queue, s.now, s.calls.set index { call with phase := phase, tick := tick }⟩ ∧
      Advanced tenantId s call phase db := by
  have hstepped :=
    backupPhase_stepped { call.env with clock := fun _ => s.now } tenantId s.db s.queue call.tick call.phase
  unfold advance
  generalize hphase : call.phase = before at hstepped
  generalize backupPhase _ tenantId before _ = result at hstepped ⊢
  cases hstepped with
  | raised phase e tick' => exact ⟨_, _, _, _, rfl, .ended⟩
  | passed tenant hrow hallowed hlimit =>
    refine ⟨_, _, _, _, rfl, .passed hphase ?_ hlimit⟩
    unfold allowsBackup
    rw [hrow]
    exact hallowed
  | inserted job rows hjob hrows =>
    subst hjob hrows
    exact ⟨_, _, _, _, rfl, .inserted hphase⟩
  | queued job => exact ⟨_, _, _, _, rfl, .queued job _ hphase⟩
  | wroteBack jobId rqJobId rows hrows =>
    subst hrows
    exact ⟨_, _, _, _, rfl, .wroteBack jobId rqJobId hphase⟩
  | audited entry rows hrows =>
    subst hrows
    exact ⟨_, _, _, _, rfl, .audited entry hphase⟩
  | rested => exact ⟨_, _, _, _, rfl, .ended⟩

/-- The limit is checked against the audit entries. -/
theorem audits_lt_of_passed {tenantId limit : Nat} {s : BackupRace} (hplan : backupDailyLimit s.db tenantId = some limit)
    (h : enforceBackupPlanLimit s.db tenantId s.now = .ok ()) : s.audits tenantId < limit := by
  unfold enforceBackupPlanLimit at h
  rw [hplan] at h
  dsimp only at h
  split at h
  · cases h
  · rename_i hfewer
    exact Nat.lt_of_not_le hfewer

/-! ### The invariant -/

/-- On no day are there more jobs than the limit, today there is room for the requests about to insert one, and no job
is from a day to come. -/
structure Guarded (tenantId limit : Nat) (s : BackupRace) : Prop where
  plan : backupDailyLimit s.db tenantId = some limit
  ids : (s.db.jobs.map key).Nodup
  within : s.Within tenantId limit
  room : s.jobsOn tenantId (s.now / days 1) + s.insertions ≤ limit
  coming : ∀ day, s.now / days 1 < day → s.jobsOn tenantId day = 0

section
variable {tenantId limit : Nat} {s s' : BackupRace}

/-- A change after which there are as many jobs on each day, and there is room for the requests about to insert one. -/
theorem Guarded.of_room (hs : s.Guarded tenantId limit) (hplan : backupDailyLimit s'.db tenantId = some limit)
    (hids : (s'.db.jobs.map key).Nodup) (hnow : s'.now = s.now)
    (hjobs : ∀ day, s'.jobsOn tenantId day = s.jobsOn tenantId day)
    (hroom : s.jobsOn tenantId (s.now / days 1) + s'.insertions ≤ limit) : s'.Guarded tenantId limit where
  plan := hplan
  ids := hids
  within day := by
    rw [hjobs]
    exact hs.within day
  room := by
    rw [hnow, hjobs]
    exact hroom
  coming day hday := by
    rw [hjobs]
    exact hs.coming day (hnow ▸ hday)

/-- A change after which there are as many jobs on each day, and no more requests about to insert one. -/
theorem Guarded.of_same (hs : s.Guarded tenantId limit) (hplan : backupDailyLimit s'.db tenantId = some limit)
    (hids : (s'.db.jobs.map key).Nodup) (hnow : s'.now = s.now)
    (hjobs : ∀ day, s'.jobsOn tenantId day = s.jobsOn tenantId day) (hinsertions : s'.insertions ≤ s.insertions) :
    s'.Guarded tenantId limit := by
  refine hs.of_room hplan hids hnow hjobs ?_
  have hroom := hs.room
  omega

/-- A request that was about to insert a job has inserted it: there is one more job today. -/
theorem Guarded.of_inserted (hs : s.Guarded tenantId limit) (hplan : backupDailyLimit s'.db tenantId = some limit)
    (hids : (s'.db.jobs.map key).Nodup) (hnow : s'.now = s.now)
    (hjobs : ∀ day, s'.jobsOn tenantId day = s.jobsOn tenantId day + (decide (s.now / days 1 = day)).toNat)
    (hinsertions : s'.insertions + 1 = s.insertions) : s'.Guarded tenantId limit := by
  have hbefore := hs.room
  have htoday : s'.jobsOn tenantId (s.now / days 1) = s.jobsOn tenantId (s.now / days 1) + 1 := by
    rw [hjobs, decide_eq_true rfl]
    rfl
  have hother : ∀ day, s.now / days 1 ≠ day → s'.jobsOn tenantId day = s.jobsOn tenantId day := by
    intro day hday
    rw [hjobs, decide_eq_false hday]
    rfl
  refine ⟨hplan, hids, fun day => ?_, ?_, fun day hday => ?_⟩
  · by_cases hday : s.now / days 1 = day
    · subst hday
      omega
    · rw [hother day hday]
      exact hs.within day
  · rw [hnow]
    omega
  · rw [hnow] at hday
    rw [hother day (Nat.ne_of_lt hday)]
    exact hs.coming day hday

end

section
variable {tenantId limit : Nat} {s : BackupRace} {index : Nat} {call : BackupCall}

theorem insertions_set (hcall : s.calls[index]? = some call) (db : Db) (queue : List Task) (phase : BackupPhase)
    (tick : Nat) :
    (⟨db, queue, s.now, s.calls.set index { call with phase := phase, tick := tick }⟩ : BackupRace).insertions +
      (decide (call.phase = .inserting)).toNat = s.insertions + (decide (phase = .inserting)).toNat :=
  countP_set_add (fun call : BackupCall => decide (call.phase = .inserting)) hcall

/-- A step of a request that does not overrun the limit keeps the guard. -/
theorem guarded_advances (hs : s.Guarded tenantId limit) (hcall : s.calls[index]? = some call)
    (hc : overruns tenantId limit s (.advances index) = false) :
    (s.advance tenantId index call).Guarded tenantId limit := by
  obtain ⟨phase, tick, db, queue, heq, hadvanced⟩ := advanced tenantId s index call
  have hinsertions := insertions_set hcall db queue phase tick
  unfold overruns at hc
  dsimp only at hc
  rw [hcall, Option.any_some] at hc
  rw [heq]
  generalize hafter : (⟨db, queue, s.now, s.calls.set index { call with phase := phase, tick := tick }⟩ : BackupRace) = s'
    at *
  have hdb : s'.db = db := by rw [← hafter]
  have hnow : s'.now = s.now := by rw [← hafter]
  have hjobs : ∀ day, s'.jobsOn tenantId day = db.jobs.countP fun job => job.backupOn tenantId day := by
    intro day
    rw [← hafter]
    rfl
  clear heq hafter
  cases hadvanced with
  | passed hphase hallowed hlimit =>
    have haudits := audits_lt_of_passed hs.plan hlimit
    -- the request finds room in the audit log, so there is room among the jobs
    have hroom : s.jobsOn tenantId (s.now / days 1) + s.insertions < limit := by
      by_contra hfull
      rw [decide_eq_false_iff_not] at hc
      exact hc ⟨hphase, hallowed, haudits, Nat.le_of_not_lt hfull⟩
    have hone : s'.insertions = s.insertions + 1 := by simpa [hphase] using hinsertions
    refine hs.of_room (by rw [hdb]; exact hs.plan) (by rw [hdb]; exact hs.ids) hnow hjobs ?_
    rw [hone]
    exact hroom
  | inserted hphase =>
    refine hs.of_inserted (by rw [hdb]; exact hs.plan) (by rw [hdb]; exact nodup_insert_fresh hs.ids rfl) hnow
      (fun day => ?_) (by simpa [hphase] using hinsertions)
    rw [hjobs]
    unfold Table.insert jobsOn
    rw [List.countP_append, List.countP_singleton]
    by_cases hday : s.now / days 1 = day <;> simp [Job.backupOn, newJob, hday]
  | queued job rqJobId hphase =>
    refine hs.of_same (by rw [hdb]; exact hs.plan) (by rw [hdb]; exact hs.ids) hnow hjobs ?_
    have hsame : s'.insertions = s.insertions := by simpa [hphase] using hinsertions
    exact hsame.le
  | wroteBack jobId rqJobId hphase =>
    refine hs.of_same (by rw [hdb]; exact hs.plan) ?_ hnow (fun day => ?_) ?_
    · rw [hdb, map_key_modify]
      exact hs.ids
    · exact (hjobs day).trans (countP_modify_of_same hs.ids fun job => ⟨rfl, rfl⟩)
    · have hsame : s'.insertions = s.insertions := by simpa [hphase] using hinsertions
      exact hsame.le
  | audited entry hphase =>
    refine hs.of_same (by rw [hdb]; exact hs.plan) (by rw [hdb]; exact hs.ids) hnow hjobs ?_
    have hsame : s'.insertions = s.insertions := by simpa [hphase] using hinsertions
    exact hsame.le
  | ended =>
    refine hs.of_same (by rw [hdb]; exact hs.plan) (by rw [hdb]; exact hs.ids) hnow hjobs ?_
    have hcount : s'.insertions + (decide (call.phase = .inserting)).toNat = s.insertions := by
      simpa using hinsertions
    omega

theorem guarded_step {m : BackupMove} (hs : s.Guarded tenantId limit) (hc : overruns tenantId limit s m = false) :
    (s.step tenantId m).Guarded tenantId limit := by
  cases m with
  | begins env =>
    refine hs.of_same hs.plan hs.ids rfl (fun _ => rfl) ?_
    simp [step, insertions]
  | advances index =>
    unfold step
    dsimp only
    cases hcall : s.calls[index]? with
    | none => exact hs
    | some call => exact guarded_advances hs hcall hc
  | marks jobId status =>
    refine hs.of_same hs.plan ?_ rfl (fun day => countP_modify_of_same hs.ids fun job => ⟨rfl, rfl⟩) le_rfl
    show ((Table.modify s.db.jobs jobId _).map key).Nodup
    rw [map_key_modify]
    exact hs.ids
  | passes time =>
    have hlater : s.now / days 1 ≤ (s.now + time) / days 1 := Nat.div_le_div_right (Nat.le_add_right ..)
    have hroom := hs.room
    refine ⟨hs.plan, hs.ids, hs.within, ?_, fun day hday => hs.coming day (hlater.trans_lt hday)⟩
    show s.jobsOn tenantId ((s.now + time) / days 1) + s.insertions ≤ limit
    rcases hlater.eq_or_lt with hsame | hnext
    · rw [← hsame]
      exact hroom
    · rw [hs.coming _ hnext]
      omega

end

/-- In every interleaving of backup requests for a tenant in which no request finds room in the audit log that the jobs
have taken up, no day has more backup jobs than the limit. -/
theorem daily_limit_holds {tenantId limit : Nat} {s : BackupRace} {moves : List BackupMove}
    (hplan : backupDailyLimit s.db tenantId = some limit) (hids : (s.db.jobs.map key).Nodup) (hcalls : s.calls = [])
    (hwithin : s.Within tenantId limit) (hcoming : ∀ day, s.now / days 1 < day → s.jobsOn tenantId day = 0)
    (hc : Steps (step tenantId) (fun s m => overruns tenantId limit s m = false) s moves) :
    Always (step tenantId) (Within tenantId limit) s moves := by
  have hnone : s.insertions = 0 := by
    unfold insertions
    rw [hcalls]
    rfl
  have hstart : s.Guarded tenantId limit := by
    refine ⟨hplan, hids, hwithin, ?_, hcoming⟩
    rw [hnone]
    exact hwithin _
  exact (Always.of_steps (fun _ _ => guarded_step) hstart hc).mono fun _ h => h.within

/-! ### One request by itself -/

/-- What is left of a request from some place on. -/
def rest (env : Env) (tenantId : Nat) : BackupPhase → Proc Unit
  | .checking => backupTenant env tenantId
  | .inserting => do
    let _ ← enqueueBackup env tenantId
    return ()
  | .queueing job => do
    let _ ← enqueueJob env job (.backupTenant job.id tenantId)
    recordAuditEvent env "tenant.backup_started" "tenants" (some tenantId)
  | .writingBack jobId rqJobId => do
    writeQueueId env jobId rqJobId
    recordAuditEvent env "tenant.backup_started" "tenants" (some tenantId)
  | .auditing => recordAuditEvent env "tenant.backup_started" "tenants" (some tenantId)
  | .done => return ()

/-- The steps a request has still to take. -/
def stepsLeft : BackupPhase → Nat
  | .checking => 5
  | .inserting => 4
  | .queueing _ => 3
  | .writingBack _ _ => 2
  | .auditing => 1
  | .done => 0

/-- The job that a request is about to put on the queue is as it inserted it. -/
def Knows (db : Db) : BackupPhase → Prop
  | .queueing job => get? db.jobs job.id = some job
  | _ => True

/-- A request is its next step and the rest. -/
theorem rest_eq {env : Env} {tenantId tick : Nat} {db : Db} {queue : List Task} {phase : BackupPhase}
    (hdone : phase ≠ .done) (hknows : Knows db phase) :
    rest env tenantId phase ⟨db, db, queue, tick⟩ =
      (backupPhase env tenantId phase >>= rest env tenantId) ⟨db, db, queue, tick⟩ := by
  cases phase with
  | checking =>
    unfold backupPhase
    rw [Proc.bind_assoc]
    rfl
  | inserting =>
    have hphase : backupPhase env tenantId .inserting =
      (addJob env tenantId .backup >>= fun job => pure (.queueing job)) := rfl
    have hrest : rest env tenantId .inserting = (enqueueBackup env tenantId >>= fun _ => pure ()) := rfl
    rw [hphase, hrest, enqueueBackup, Proc.bind_assoc, Proc.bind_assoc]
    refine congrFun (congrArg (addJob env tenantId .backup >>= ·) (funext fun job => ?_)) _
    rw [Proc.pure_bind, Proc.bind_assoc]
    refine congrArg (enqueueJob env job (.backupTenant job.id tenantId) >>= ·) (funext fun _ => ?_)
    rw [Proc.bind_assoc]
    exact bind_done _
  | queueing job =>
    have hphase : backupPhase env tenantId (.queueing job) =
      (enqueue env (.backupTenant job.id tenantId) >>= fun rqJobId => pure (.writingBack job.id rqJobId)) := rfl
    have hrest : rest env tenantId (.queueing job) = (enqueueJob env job (.backupTenant job.id tenantId) >>= fun _ =>
      recordAuditEvent env "tenant.backup_started" "tenants" (some tenantId)) := rfl
    -- the request writes the id into the job it holds, the phase into the row; the row is that job
    have hput : db.putJob { job with rqJobId := some queue.length } =
        { db with jobs := Table.modify db.jobs job.id fun job => { job with rqJobId := some queue.length } } := by
      unfold Db.putJob
      rw [modify_of_get? hknows]
    rw [hphase, hrest, Proc.bind_assoc, bind_apply, bind_apply, enqueue_apply, enqueueJob_apply]
    dsimp only
    rw [hput]
    by_cases hfails : env.queueFails tick = true
    · rw [if_pos hfails, if_pos hfails]
    · rw [if_neg hfails, if_neg hfails]
      dsimp only
      have hback : rest env tenantId (.writingBack job.id queue.length) = (writeQueueId env job.id queue.length >>=
        fun _ => recordAuditEvent env "tenant.backup_started" "tenants" (some tenantId)) := rfl
      rw [Proc.pure_bind, hback, writeQueueId, Proc.bind_assoc, bind_ok (modify_apply _ _), commit_bind]
      dsimp only
      by_cases hcommit : env.commitFails (tick + 1) = true
      · rw [if_pos hcommit, if_pos hcommit]
      · rw [if_neg hcommit, if_neg hcommit]
  | writingBack jobId rqJobId =>
    have hphase : backupPhase env tenantId (.writingBack jobId rqJobId) =
      (writeQueueId env jobId rqJobId >>= fun _ => pure .auditing) := rfl
    rw [hphase, Proc.bind_assoc]
    rfl
  | auditing =>
    unfold backupPhase
    rw [Proc.bind_assoc]
    exact congrFun (bind_done _).symm _
  | done => exact absurd rfl hdone

/-- A step that returns has committed what it did and is one step further. -/
theorem backupPhase_ok {env : Env} {tenantId tick : Nat} {db : Db} {queue : List Task} {phase phase' : BackupPhase}
    {s : DbSession} (hdone : phase ≠ .done)
    (h : backupPhase env tenantId phase ⟨db, db, queue, tick⟩ = (.ok phase', s)) :
    s.work = s.saved ∧ stepsLeft phase' + 1 = stepsLeft phase ∧ Knows s.saved phase' := by
  have hstepped := backupPhase_stepped env tenantId db queue tick phase
  rw [h] at hstepped
  cases hstepped with
  | passed tenant hrow hallowed hlimit => exact ⟨rfl, rfl, trivial⟩
  | inserted job rows hjob hrows =>
    subst hjob hrows
    exact ⟨rfl, rfl, get?_insert_self (get?_fresh db.jobs)⟩
  | queued job => exact ⟨rfl, rfl, trivial⟩
  | wroteBack jobId rqJobId rows hrows => exact ⟨rfl, rfl, trivial⟩
  | audited entry rows hrows => exact ⟨rfl, rfl, trivial⟩
  | rested => exact absurd rfl hdone

/-- From any place on, a request that nothing disturbs does what is left of it. -/
theorem run_alone (env : Env) (tenantId : Nat) (now : Time) (n : Nat) (phase : BackupPhase) (db : Db)
    (queue : List Task) (tick : Nat) (hleft : stepsLeft phase ≤ n) (hknows : Knows db phase) :
    let s := (rest { env with clock := fun _ => now } tenantId phase ⟨db, db, queue, tick⟩).2
    let r := run (step tenantId) ⟨db, queue, now, [⟨env, phase, tick⟩]⟩ (List.replicate n (.advances 0))
    r.db = s.saved ∧ r.queue = s.outside := by
  induction n generalizing phase db queue tick with
  | zero =>
    cases phase with
    | done => exact ⟨rfl, rfl⟩
    | _ => simp [stepsLeft] at hleft
  | succ n ih =>
    intro s r
    have hr : r = run (step tenantId) (advance tenantId ⟨db, queue, now, [⟨env, phase, tick⟩]⟩ 0 ⟨env, phase, tick⟩)
      (List.replicate n (.advances 0)) := rfl
    by_cases hdone : phase = .done
    · subst hdone
      have hidle : advance tenantId ⟨db, queue, now, [⟨env, .done, tick⟩]⟩ 0 ⟨env, .done, tick⟩ =
        ⟨db, queue, now, [⟨env, .done, tick⟩]⟩ := rfl
      rw [hr, hidle]
      exact ih .done db queue tick (Nat.zero_le n) trivial
    · have hs : s = (rest { env with clock := fun _ => now } tenantId phase ⟨db, db, queue, tick⟩).2 := rfl
      rw [rest_eq hdone hknows, bind_apply] at hs
      unfold advance at hr
      dsimp only at hr
      cases hphase : backupPhase { env with clock := fun _ => now } tenantId phase ⟨db, db, queue, tick⟩ with
      | mk result s' =>
        rw [hphase] at hr hs
        cases result with
        | error e =>
          rw [hr, hs]
          exact ih .done s'.saved s'.outside s'.tick (Nat.zero_le n) trivial
        | ok phase' =>
          obtain ⟨hclean, hnext, hknows'⟩ := backupPhase_ok hdone hphase
          obtain ⟨work, saved, outside, tick'⟩ := s'
          obtain rfl : work = saved := hclean
          rw [hr, hs]
          exact ih phase' work outside tick' (by omega) hknows'

/-- A request that nothing disturbs does what `backup_tenant` does. -/
theorem request_undisturbed (env : Env) (tenantId : Nat) (now : Time) (db : Db) (queue : List Task) :
    let s := (backupTenant { env with clock := fun _ => now } tenantId (opened db queue)).2
    let r := run (step tenantId) ⟨db, queue, now, []⟩ (.begins env :: List.replicate 5 (.advances 0))
    r.db = s.saved ∧ r.queue = s.outside := by
  intro s r
  have halone := run_alone env tenantId now 5 .checking db queue 0 le_rfl trivial
  dsimp only at halone
  exact halone

end BackupRace

/-! ### Two requests -/

namespace Small

/-- A plan with one backup a day. -/
def weeklyPlan : Plan := ⟨1, "starter", true, "pooled", "weekly", []⟩

/-- A paying tenant on it, that has had no backup. -/
def backedUp : BackupRace where
  db :=
    { Db.empty with
      users := [⟨1, "owner@acme.example.com", false, true⟩]
      tenants := [⟨1, 1, none, "acme", "acme.example.com", "acme.example.com", "Acme", .active, "stripe", none, none,
        none, 500⟩]
      plans := [weeklyPlan]
      subscriptions := [⟨1, 1, 1, .active, none, none, none, none, none, none, none⟩] }
  queue := []
  now := 1000
  calls := []

/-- Two requests both look at the audit log before either has inserted its job. -/
def backupTogether : List BackupMove :=
  [.begins env, .begins env, .advances 0, .advances 1, .advances 0, .advances 1]

/-- A request that runs to its end, a second one on the same day, and a third on the next. -/
def backupInTurn : List BackupMove :=
  .begins env :: (List.replicate 5 (.advances 0) ++
    .begins env :: .advances 1 :: .passes (days 1) :: .begins env :: List.replicate 5 (.advances 2))

end Small

namespace BackupRace

set_option maxRecDepth 100000 in
/-- With one backup a day, each of them queues a job. -/
theorem two_requests_two_jobs : ¬∀ (tenantId limit : Nat) (s : BackupRace) (moves : List BackupMove),
    backupDailyLimit s.db tenantId = some limit → (s.db.jobs.map key).Nodup → s.calls = [] →
    s.Within tenantId limit → (∀ day, s.now / days 1 < day → s.jobsOn tenantId day = 0) →
      Always (step tenantId) (Within tenantId limit) s moves := by
  intro h
  have hjobs := (h 1 1 Small.backedUp Small.backupTogether (by decide +kernel) (by decide +kernel) rfl
    (fun _ => Nat.zero_le 1) fun _ _ => rfl).last (1000 / days 1)
  revert hjobs
  decide +kernel

set_option maxRecDepth 100000 in
/-- In turn, the second request is refused until the next day. -/
theorem requests_in_turn : Always (step 1) (Within 1 1) Small.backedUp Small.backupInTurn :=
  daily_limit_holds (by decide +kernel) (by decide +kernel) rfl (fun _ => Nat.zero_le 1) (fun _ _ => rfl)
    (by decide +kernel)

end BackupRace

end ControlPlane
