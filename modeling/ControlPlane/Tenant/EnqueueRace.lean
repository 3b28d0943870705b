import ControlPlane.Bookkeeping
import ControlPlane.System

/-!
# Calls of the enqueueing at the same time

`enqueue_provisioning_for_paid_tenant` looks for a live create job, inserts one, puts it on the queue and writes the
queue's id back, each in a transaction of its own, and nothing in the database keeps a tenant from having two create
jobs.  Here these are separate steps of any number of calls for one tenant, so that the others' commits, and those of the
workers, fall between them.
-/

namespace ControlPlane

open Table Session Session.Proc Runs

/-- Where a call is. -/
inductive EnqueuePhase where
  | looking
  | inserting
  | queueing (job : Job)
  | writingBack (jobId rqJobId : Nat)
  | done
  deriving DecidableEq, Repr

/-- The call is about to put the job on the queue. -/
def EnqueuePhase.queues (phase : EnqueuePhase) (jobId : Nat) : Bool :=
  match phase with
  | .queueing job => job.id = jobId
  | _ => false

section Phases

variable (env : Env) (tenantId : Nat) (ownerEmail : String)

/-- The search for a live create job. -/
def lookForJob : Proc EnqueuePhase := do
  let db ← read
  match liveCreateJob db tenantId with
  | some existing => return if existing.status = .queued ∧ existing.rqJobId = none then .queueing existing else .done
  | none => return .inserting

/-- The insertion of a job. -/
def insertJob : Proc EnqueuePhase := do
  let job ← addJob env tenantId .create
  return .queueing job

/-- The call of the queue. -/
def queueJob (job : Job) : Proc EnqueuePhase := do
  let rqJobId ← enqueue env (.provisionTenant job.id tenantId ownerEmail)
  return .writingBack job.id rqJobId

/-- The write-back of the queue's id, the only column of the job that the session has changed. -/
def writeBack (jobId rqJobId : Nat) : Proc EnqueuePhase := do
  modify fun db => { db with jobs := Table.modify db.jobs jobId fun job => { job with rqJobId := some rqJobId } }
  commit env
  return .done

/-- A step of a call, up to its next commit or to the call of the queue. -/
def enqueuePhase : EnqueuePhase → Proc EnqueuePhase
  | .looking => lookForJob tenantId
  | .inserting => insertJob env tenantId
  | .queueing job => queueJob env tenantId ownerEmail job
  | .writingBack jobId rqJobId => writeBack env jobId rqJobId
  | .done => return .done

end Phases

/-- A call in flight, with the tick it has come to. -/
structure EnqueueCall where
  env : Env
  ownerEmail : String
  phase : EnqueuePhase
  tick : Nat

/-- The state of the race: the committed rows, the queue and the calls for the tenant. -/
structure EnqueueRace where
  db : Db
  queue : List Task
  calls : List EnqueueCall

/-- What happens in the race: a call begins, a call takes a step (one that takes no more has been cut off), or a worker
commits a new status of a job. -/
inductive EnqueueMove where
  | begins (env : Env) (ownerEmail : String)
  | advances (index : Nat)
  | marks (jobId : Nat) (status : JobStatus)

/-- A create job of the tenant that is queued, running or succeeded. -/
def Job.live (job : Job) (tenantId : Nat) : Bool :=
  job.tenantId = tenantId ∧ job.type = .create ∧ job.status ∈ [JobStatus.queued, .running, .succeeded]

/-- A task that provisions on behalf of the job. -/
def Task.isFor (task : Task) (jobId : Nat) : Bool :=
  match task with
  | .provisionTenant id _ _ => id = jobId
  | _ => false

namespace EnqueueRace

/-- A call takes its next step on the committed rows; an exception ends it. -/
def advance (tenantId : Nat) (s : EnqueueRace) (index : Nat) (call : EnqueueCall) : EnqueueRace :=
  match enqueuePhase call.env tenantId call.ownerEmail call.phase ⟨s.db, s.db, s.queue, call.tick⟩ with
  | (.ok phase, s') =>
    ⟨s'.saved, s'.outside, s.calls.set index { call with phase := phase, tick := s'.tick }⟩
  | (.error _, s') =>
    ⟨s'.saved, s'.outside, s.calls.set index { call with phase := .done, tick := s'.tick }⟩

def step (tenantId : Nat) (s : EnqueueRace) : EnqueueMove → EnqueueRace
  | .begins env ownerEmail => { s with calls := s.calls ++ [⟨env, ownerEmail, .looking, 0⟩] }
  | .advances index =>
    match s.calls[index]? with
    | none => s
    | some call => s.advance tenantId index call
  | .marks jobId status =>
    { s with db := { s.db with jobs := Table.modify s.db.jobs jobId fun job => { job with status := status } } }

/-- The tenant's live create jobs. -/
def liveJobs (tenantId : Nat) (s : EnqueueRace) : Nat := s.db.jobs.countP fun job => job.live tenantId

/-- How often the job is on the queue. -/
def queued (s : EnqueueRace) (jobId : Nat) : Nat := s.queue.countP fun task => task.isFor jobId

/-- The tenant has one live create job at most, and each job was put on the queue once at most. -/
def OneJob (tenantId : Nat) (s : EnqueueRace) : Prop :=
  s.liveJobs tenantId ≤ 1 ∧ ∀ jobId, s.queued jobId ≤ 1

/-- A call is about to insert a job. -/
def inserts (s : EnqueueRace) : Bool := s.calls.any fun call => call.phase = .inserting

/-- A call is about to put the job on the queue. -/
def queues (s : EnqueueRace) (jobId : Nat) : Bool := s.calls.any fun call => call.phase.queues jobId

/-- The moves that make a second job: a call finds no live job while another is about to insert one; it finds a job
without an id of the queue that is on the queue all the same, or that another call is about to put there; or a worker
takes up again a job that had failed, while the tenant has another or a call is about to insert one. -/
def doubles (tenantId : Nat) (s : EnqueueRace) : EnqueueMove → Bool
  | .begins _ _ => false
  | .advances index =>
    (s.calls[index]?).any fun call =>
      call.phase = .looking &&
        match liveCreateJob s.db tenantId with
        | none => s.inserts
        | some job =>
          decide (job.status = .queued ∧ job.rqJobId = none) && (s.queues job.id || decide (s.queued job.id ≠ 0))
  | .marks jobId status =>
    (get? s.db.jobs jobId).any fun job =>
      !job.live tenantId && { job with status := status : Job }.live tenantId &&
        (s.inserts || decide (s.liveJobs tenantId ≠ 0))

/-! ### What a step of a call can do -/

/-- What a step of a call comes to: the place where the call is then, the committed rows and the queue. -/
inductive Advanced (tenantId : Nat) (s : EnqueueRace) (call : EnqueueCall) : EnqueuePhase → Db → List Task → Prop
  | free : call.phase = .looking → liveCreateJob s.db tenantId = none → Advanced tenantId s call .inserting s.db s.queue
  | found (job : Job) : call.phase = .looking → liveCreateJob s.db tenantId = some job →
      job.status = .queued ∧ job.rqJobId = none → Advanced tenantId s call (.queueing job) s.db s.queue
  | inserted (now : Time) : call.phase = .inserting →
      Advanced tenantId s call (.queueing (newJob s.db tenantId .create now))
        { s.db with jobs := insert s.db.jobs (newJob s.db tenantId .create now) } s.queue
  | queued (job : Job) : call.phase = .queueing job →
      Advanced tenantId s call (.writingBack job.id s.queue.length) s.db
        (s.queue ++ [.provisionTenant job.id tenantId call.ownerEmail])
  | wroteBack (jobId rqJobId : Nat) : call.phase = .writingBack jobId rqJobId →
      Advanced tenantId s call .done
        { s.db with jobs := Table.modify s.db.jobs jobId fun job => { job with rqJobId := some rqJobId } } s.queue
  | ended : Advanced tenantId s call .done s.db s.queue

/-- A commit of changed jobs writes them and nothing else. -/
private theorem flush_jobs (now : Time) (db : Db) (jobs : List Job) :
    Db.flush now db { db with jobs := jobs } = { db with jobs := jobs } := Db.flush_of_eq rfl rfl

theorem advanced (tenantId : Nat) (s : EnqueueRace) (index : Nat) (call : EnqueueCall) :
    ∃ phase tick db queue, s.advance tenantId index call =
        ⟨db, queue, s.calls.set index { call with phase := phase, tick := tick }⟩ ∧
      Advanced tenantId s call phase db queue := by
  unfold advance
  cases hphase : call.phase with
  | looking =>
    unfold enqueuePhase lookForJob
    dsimp only
    rw [bind_ok (read_apply _)]
    dsimp only
    cases hlive : liveCreateJob s.db tenantId with
    | none => exact ⟨_, _, _, _, rfl, .free hphase hlive⟩
    | some job =>
      dsimp only
      by_cases hmissing : job.status = .queued ∧ job.rqJobId = none
      · rw [if_pos hmissing]
        exact ⟨_, _, _, _, rfl, .found job hphase hlive hmissing⟩
      · rw [if_neg hmissing]
        exact ⟨_, _, _, _, rfl, .ended⟩
  | inserting =>
    unfold enqueuePhase insertJob
    dsimp only
    rw [bind_apply, addJob_apply]
    dsimp only
    rw [flush_jobs]
    by_cases hfails : call.env.commitFails call.tick = true
    · rw [if_pos hfails]
      exact ⟨_, _, _, _, rfl, .ended⟩
    · rw [if_neg hfails]
      exact ⟨_, _, _, _, rfl, .inserted _ hphase⟩
  | queueing job =>
    unfold enqueuePhase queueJob
    dsimp only
    rw [bind_apply, enqueue_apply]
    dsimp only
    by_cases hfails : call.env.queueFails call.tick = true
    · rw [if_pos hfails]
      exact ⟨_, _, _, _, rfl, .ended⟩
    · rw [if_neg hfails]
      exact ⟨_, _, _, _, rfl, .queued job hphase⟩
  | writingBack jobId rqJobId =>
    unfold enqueuePhase writeBack
    dsimp only
    rw [bind_ok (modify_apply _ _), commit_bind]
    dsimp only
    rw [flush_jobs]
    by_cases hfails : call.env.commitFails call.tick = true
    · rw [if_pos hfails]
      exact ⟨_, _, _, _, rfl, .ended⟩
    · rw [if_neg hfails]
      exact ⟨_, _, _, _, rfl, .wroteBack jobId rqJobId hphase⟩
  | done => exact ⟨_, _, _, _, rfl, .ended⟩

/-! ### The invariant -/

/-- The calls that are about to insert a job. -/
def insertions (s : EnqueueRace) : Nat := s.calls.countP fun call => call.phase = .inserting

/-- The calls that are about to put the job on the queue. -/
def queueings (s : EnqueueRace) (jobId : Nat) : Nat := s.calls.countP fun call => call.phase.queues jobId

/-- A live job and a call that is about to insert one exclude each other, and so do a job's entry on the queue and a call
that is about to put it there; both only concern jobs that exist. -/
structure Guarded (tenantId : Nat) (s : EnqueueRace) : Prop where
  ids : (s.db.jobs.map key).Nodup
  jobs : s.liveJobs tenantId + s.insertions ≤ 1
  queue : ∀ jobId, s.queued jobId + s.queueings jobId ≤ 1
  known : ∀ jobId, get? s.db.jobs jobId = none → s.queued jobId = 0 ∧ s.queueings jobId = 0

theorem Guarded.oneJob {tenantId : Nat} {s : EnqueueRace} (h : s.Guarded tenantId) : s.OneJob tenantId :=
  ⟨by have := h.jobs; omega, fun jobId => by have := h.queue jobId; omega⟩

/-- A tenant for whom the search finds no job has no live one. -/
theorem liveJobs_of_none {tenantId : Nat} {s : EnqueueRace} (h : liveCreateJob s.db tenantId = none) :
    s.liveJobs tenantId = 0 := by
  have hempty := latestBy_eq_none.1 h
  refine List.countP_eq_zero.2 fun job hjob hlive => ?_
  have hfound : decide (job.tenantId = tenantId ∧ job.type = .create ∧
      job.status ∈ [JobStatus.queued, .running, .succeeded]) = true := hlive
  have hmem : job ∈ ([] : List Job) := by
    rw [← hempty]
    exact List.mem_filter.2 ⟨hjob, hfound⟩
  cases hmem

theorem insertions_of_not {s : EnqueueRace} (h : s.inserts = false) : s.insertions = 0 :=
  List.countP_eq_zero.2 fun call hcall => by simpa using List.any_eq_false.1 h call hcall

theorem queueings_of_not {s : EnqueueRace} {jobId : Nat} (h : s.queues jobId = false) : s.queueings jobId = 0 :=
  List.countP_eq_zero.2 fun call hcall => List.any_eq_false.1 h call hcall

/-- A change makes no row disappear. -/
private theorem get?_of_modify_none {jobs : List Job} {jobId id : Nat} {f : Job → Job}
    (h : get? (Table.modify jobs jobId f) id = none) (hf : ∀ job, (f job).id = job.id) : get? jobs id = none := by
  by_cases hid : id = jobId
  · subst hid
    cases hrow : get? jobs id with
    | none => rfl
    | some job =>
      rw [get?_modify_self (hf job) hrow] at h
      cases h
  · rw [get?_modify_of_ne _ hf hid] at h
    exact h

section
variable {tenantId : Nat} {s s' : EnqueueRace} {index : Nat} {call : EnqueueCall}

theorem insertions_set (hcall : s.calls[index]? = some call) (db : Db) (queue : List Task)
    (phase : EnqueuePhase) (tick : Nat) :
    (⟨db, queue, s.calls.set index { call with phase := phase, tick := tick }⟩ : EnqueueRace).insertions +
      (decide (call.phase = .inserting)).toNat = s.insertions + (decide (phase = .inserting)).toNat :=
  countP_set_add (fun call : EnqueueCall => decide (call.phase = .inserting)) hcall

theorem queueings_set (hcall : s.calls[index]? = some call) (db : Db) (queue : List Task)
    (phase : EnqueuePhase) (tick jobId : Nat) :
    (⟨db, queue, s.calls.set index { call with phase := phase, tick := tick }⟩ : EnqueueRace).queueings jobId +
      (call.phase.queues jobId).toNat = s.queueings jobId + (phase.queues jobId).toNat :=
  countP_set_add (fun call : EnqueueCall => call.phase.queues jobId) hcall

/-- A change after which no job is more often on the queue or about to go there. -/
theorem Guarded.of_le (hs : s.Guarded tenantId) (hids : (s'.db.jobs.map key).Nodup)
    (hjobs : s'.liveJobs tenantId + s'.insertions ≤ 1)
    (hqueue : ∀ jobId, s'.queued jobId + s'.queueings jobId ≤ s.queued jobId + s.queueings jobId)
    (hknown : ∀ jobId, get? s'.db.jobs jobId = none → get? s.db.jobs jobId = none) : s'.Guarded tenantId where
  ids := hids
  jobs := hjobs
  queue jobId := (hqueue jobId).trans (hs.queue jobId)
  known jobId hid := by
    have hbefore := hs.known jobId (hknown jobId hid)
    have hafter := hqueue jobId
    omega

/-- A change after which one job more is about to go to the queue, which exists and was neither there nor about to go. -/
theorem Guarded.of_one {jobId : Nat} (hs : s.Guarded tenantId) (hids : (s'.db.jobs.map key).Nodup)
    (hjobs : s'.liveJobs tenantId + s'.insertions ≤ 1) (hfree : s.queued jobId = 0 ∧ s.queueings jobId = 0)
    (hqueue : ∀ id, s'.queued id = s.queued id)
    (hqueueings : ∀ id, s'.queueings id = s.queueings id + (decide (jobId = id)).toNat)
    (hknown : ∀ id, get? s'.db.jobs id = none → get? s.db.jobs id = none ∧ jobId ≠ id) : s'.Guarded tenantId where
  ids := hids
  jobs := hjobs
  queue id := by
    rw [hqueue, hqueueings]
    by_cases hid : jobId = id
    · subst hid
      rw [hfree.1, hfree.2, decide_eq_true rfl]
      decide
    · rw [decide_eq_false hid]
      exact hs.queue id
  known id hid := by
    obtain ⟨hid, hne⟩ := hknown id hid
    rw [hqueue, hqueueings, decide_eq_false hne]
    exact hs.known id hid

/-- A search that finds no job while no other call is about to insert one. -/
theorem Guarded.free (hs : s.Guarded tenantId) (hlive : liveCreateJob s.db tenantId = none) (hnot : s.inserts = false)
    (hdb : s'.db = s.db) (hqueue : s'.queue = s.queue) (hinsertions : s'.insertions = s.insertions + 1)
    (hqueueings : ∀ jobId, s'.queueings jobId = s.queueings jobId) : s'.Guarded tenantId := by
  have hnone := insertions_of_not hnot
  have hzero : s'.liveJobs tenantId = 0 := by
    unfold liveJobs
    rw [hdb]
    exact liveJobs_of_none hlive
  refine hs.of_le (by rw [hdb]; exact hs.ids) (by omega) (fun jobId => ?_) fun jobId hid => by rwa [← hdb]
  unfold queued
  rw [hqueue, hqueueings]

/-- A search that finds a job which is neither on the queue nor about to go there. -/
theorem Guarded.found {job : Job} (hs : s.Guarded tenantId) (hlive : liveCreateJob s.db tenantId = some job)
    (hnot : s.queues job.id = false ∧ s.queued job.id = 0) (hdb : s'.db = s.db) (hqueue : s'.queue = s.queue)
    (hinsertions : s'.insertions = s.insertions)
    (hqueueings : ∀ id, s'.queueings id = s.queueings id + (decide (job.id = id)).toNat) : s'.Guarded tenantId := by
  have hmem : job ∈ s.db.jobs := (List.mem_filter.1 (mem_of_latestBy hlive)).1
  refine hs.of_one (by rw [hdb]; exact hs.ids) ?_ ⟨hnot.2, queueings_of_not hnot.1⟩ (fun id => ?_) hqueueings
    fun id hid => ?_
  · unfold liveJobs
    rw [hdb, hinsertions]
    exact hs.jobs
  · unfold queued
    rw [hqueue]
  · rw [hdb] at hid
    refine ⟨hid, ?_⟩
    rintro rfl
    have hsome := get?_of_mem hs.ids hmem
    rw [show key job = job.id from rfl, hid] at hsome
    cases hsome

/-- An insertion: the new job has an id of its own, so nothing is on the queue or about to go there for it. -/
theorem Guarded.inserted {now : Time} (hs : s.Guarded tenantId)
    (hjobs : s'.db.jobs = insert s.db.jobs (newJob s.db tenantId .create now)) (hqueue : s'.queue = s.queue)
    (hinsertions : s'.insertions + 1 = s.insertions)
    (hqueueings : ∀ id, s'.queueings id = s.queueings id + (decide (fresh s.db.jobs = id)).toNat) :
    s'.Guarded tenantId := by
  have hbefore := hs.jobs
  refine hs.of_one (by rw [hjobs]; exact nodup_insert_fresh hs.ids rfl) ?_ (hs.known _ (get?_fresh s.db.jobs))
    (fun id => ?_) hqueueings fun id hid => ?_
  · have hcount : s'.liveJobs tenantId = s.liveJobs tenantId + 1 := by
      unfold liveJobs
      rw [hjobs]
      simp [Table.insert, Job.live, newJob]
    omega
  · unfold queued
    rw [hqueue]
  · rw [hjobs, get?_insert] at hid
    obtain ⟨hid, hne⟩ := Option.or_eq_none_iff.1 hid
    refine ⟨hid, fun heq => ?_⟩
    rw [if_pos (show key (newJob s.db tenantId .create now) = id from heq)] at hne
    cases hne

/-- The call of the queue: the job is there, and the call is no longer about to put it there. -/
theorem Guarded.queued {job : Job} {ownerEmail : String} (hs : s.Guarded tenantId) (hdb : s'.db = s.db)
    (hqueue : s'.queue = s.queue ++ [.provisionTenant job.id tenantId ownerEmail])
    (hinsertions : s'.insertions = s.insertions)
    (hqueueings : ∀ id, s'.queueings id + (decide (job.id = id)).toNat = s.queueings id) : s'.Guarded tenantId := by
  refine hs.of_le (by rw [hdb]; exact hs.ids) ?_ (fun id => ?_) fun id hid => by rwa [← hdb]
  · unfold liveJobs
    rw [hdb, hinsertions]
    exact hs.jobs
  · have hnext : s'.queued id = s.queued id + (decide (job.id = id)).toNat := by
      unfold EnqueueRace.queued
      rw [hqueue, List.countP_append, List.countP_singleton]
      unfold Task.isFor
      by_cases hid : job.id = id <;> simp [hid]
    have hcount := hqueueings id
    omega

/-- A change of one job that leaves alone what makes it live. -/
theorem Guarded.wrote {jobId : Nat} {f : Job → Job} (hs : s.Guarded tenantId)
    (hjobs : s'.db.jobs = Table.modify s.db.jobs jobId f)
    (hf : ∀ job, (f job).id = job.id ∧ (f job).live tenantId = job.live tenantId) (hqueue : s'.queue = s.queue)
    (hinsertions : s'.insertions = s.insertions) (hqueueings : ∀ id, s'.queueings id = s.queueings id) :
    s'.Guarded tenantId := by
  refine hs.of_le ?_ ?_ (fun id => ?_) fun id hid => ?_
  · rw [hjobs, map_key_modify]
    exact hs.ids
  · unfold liveJobs
    rw [hjobs, countP_modify_of_same hs.ids hf, hinsertions]
    exact hs.jobs
  · unfold EnqueueRace.queued
    rw [hqueue, hqueueings]
  · rw [hjobs] at hid
    exact get?_of_modify_none hid fun job => (hf job).1

/-- A change that leaves the rows and the queue alone, and no more calls about to change them. -/
theorem Guarded.idle (hs : s.Guarded tenantId) (hdb : s'.db = s.db) (hqueue : s'.queue = s.queue)
    (hinsertions : s'.insertions ≤ s.insertions) (hqueueings : ∀ jobId, s'.queueings jobId ≤ s.queueings jobId) :
    s'.Guarded tenantId := by
  refine hs.of_le (by rw [hdb]; exact hs.ids) ?_ (fun jobId => ?_) fun jobId hid => by rwa [← hdb]
  · have hbefore := hs.jobs
    unfold liveJobs at hbefore ⊢
    rw [hdb]
    omega
  · unfold EnqueueRace.queued
    rw [hqueue]
    exact Nat.add_le_add_left (hqueueings jobId) _

/-- A step of a call that doubles nothing keeps the guard. -/
theorem guarded_advances (hs : s.Guarded tenantId) (hcall : s.calls[index]? = some call)
    (hc : doubles tenantId s (.advances index) = false) : (s.advance tenantId index call).Guarded tenantId := by
  obtain ⟨phase, tick, db, queue, heq, hadvanced⟩ := advanced tenantId s index call
  have hinsertions := insertions_set hcall db queue phase tick
  have hqueueings := queueings_set hcall db queue phase tick
  unfold doubles at hc
  dsimp only at hc
  rw [hcall, Option.any_some] at hc
  rw [heq]
  -- one case for each thing that a step can come to
  cases hadvanced with
  | free hphase hlive =>
    rw [hphase, hlive] at hc
    refine hs.free hlive (by simpa using hc) rfl rfl ?_ ?_
    · simpa [hphase] using hinsertions
    · simpa [hphase, EnqueuePhase.queues] using hqueueings
  | found job hphase hlive hmissing =>
    rw [hphase, hlive] at hc
    refine hs.found hlive (by simpa [hmissing] using hc) rfl rfl ?_ ?_
    · simpa [hphase] using hinsertions
    · simpa [hphase, EnqueuePhase.queues] using hqueueings
  | inserted now hphase =>
    refine hs.inserted rfl rfl (by simpa [hphase] using hinsertions) fun jobId => ?_
    have hcount := hqueueings jobId
    rw [hphase] at hcount
    exact hcount
  | queued job hphase =>
    refine hs.queued rfl rfl ?_ ?_
    · simpa [hphase] using hinsertions
    · simpa [hphase, EnqueuePhase.queues] using hqueueings
  | wroteBack jobId rqJobId hphase =>
    refine hs.wrote rfl (fun job => ⟨rfl, rfl⟩) rfl ?_ ?_
    · simpa [hphase] using hinsertions
    · simpa [hphase, EnqueuePhase.queues] using hqueueings
  | ended =>
    refine hs.idle rfl rfl ?_ fun jobId => ?_
    · exact Nat.le.intro (by simpa using hinsertions)
    · exact Nat.le.intro (by simpa [EnqueuePhase.queues] using hqueueings jobId)

/-- A worker that takes up no second job leaves the tenant one at most, with the calls that are about to insert one. -/
theorem jobs_marks {jobId : Nat} {status : JobStatus} (hs : s.Guarded tenantId)
    (hc : doubles tenantId s (.marks jobId status) = false) :
    (s.step tenantId (.marks jobId status)).liveJobs tenantId + s.insertions ≤ 1 := by
  have hbefore := hs.jobs
  cases hrow : get? s.db.jobs jobId with
  | none =>
    have hsame : (s.step tenantId (.marks jobId status)).liveJobs tenantId = s.liveJobs tenantId := by
      unfold step liveJobs
      dsimp only
      rw [modify_of_get?_none hrow]
    omega
  | some job =>
    have hcount : (s.step tenantId (.marks jobId status)).liveJobs tenantId + (job.live tenantId).toNat =
        s.liveJobs tenantId + (({ job with status := status } : Job).live tenantId).toNat :=
      countP_modify (f := fun job : Job => { job with status := status }) (fun job => job.live tenantId) hs.ids rfl hrow
    unfold doubles at hc
    dsimp only at hc
    rw [hrow, Option.any_some] at hc
    cases hwas : job.live tenantId with
    | true =>
      -- a live job that stays live or stops being so
      have hle := Bool.toNat_le (({ job with status := status } : Job).live tenantId)
      rw [hwas, Bool.toNat_true] at hcount
      omega
    | false =>
      rw [hwas, Bool.toNat_false] at hcount
      rw [hwas] at hc
      cases hnow : ({ job with status := status } : Job).live tenantId with
      | false =>
        rw [hnow, Bool.toNat_false] at hcount
        omega
      | true =>
        rw [hnow, Bool.toNat_true] at hcount
        rw [hnow] at hc
        have hnot : s.inserts = false ∧ s.liveJobs tenantId = 0 := by simpa using hc
        have hnone := insertions_of_not hnot.1
        omega

/-- A worker that takes up no second job keeps the guard. -/
theorem guarded_marks {jobId : Nat} {status : JobStatus} (hs : s.Guarded tenantId)
    (hc : doubles tenantId s (.marks jobId status) = false) :
    (s.step tenantId (.marks jobId status)).Guarded tenantId := by
  have hjobs : (s.step tenantId (.marks jobId status)).db.jobs =
    Table.modify s.db.jobs jobId fun job => { job with status := status } := rfl
  refine hs.of_le ?_ (jobs_marks hs hc) (fun id => le_rfl) fun id hid => ?_
  · rw [hjobs, map_key_modify]
    exact hs.ids
  · rw [hjobs] at hid
    exact get?_of_modify_none hid fun _ => rfl

theorem guarded_step {m : EnqueueMove} (hs : s.Guarded tenantId) (hc : doubles tenantId s m = false) :
    (s.step tenantId m).Guarded tenantId := by
  cases m with
  | begins env ownerEmail =>
    have hinsertions : (s.step tenantId (.begins env ownerEmail)).insertions = s.insertions := by
      simp [step, insertions]
    have hqueueings : ∀ jobId, (s.step tenantId (.begins env ownerEmail)).queueings jobId = s.queueings jobId := by
      simp [step, queueings, EnqueuePhase.queues]
    exact hs.idle rfl rfl hinsertions.le fun jobId => (hqueueings jobId).le
  | advances index =>
    unfold step
    dsimp only
    cases hcall : s.calls[index]? with
    | none => exact hs
    | some call => exact guarded_advances hs hcall hc
  | marks jobId status => exact guarded_marks hs hc

end

/-- In every interleaving of calls for a tenant, and of the workers' commits, in which no move makes a second job, the
tenant has one live create job at most and each job is put on the queue once at most. -/
theorem one_job {tenantId : Nat} {s : EnqueueRace} {moves : List EnqueueMove} (hids : (s.db.jobs.map key).Nodup)
    (hcalls : s.calls = []) (hone : s.OneJob tenantId)
    (hknown : ∀ jobId, get? s.db.jobs jobId = none → s.queued jobId = 0)
    (hc : Steps (step tenantId) (fun s m => doubles tenantId s m = false) s moves) :
    Always (step tenantId) (OneJob tenantId) s moves := by
  have hnone : s.insertions = 0 ∧ ∀ jobId, s.queueings jobId = 0 := by
    unfold insertions queueings
    rw [hcalls]
    exact ⟨rfl, fun _ => rfl⟩
  have hstart : s.Guarded tenantId := by
    refine ⟨hids, ?_, fun jobId => ?_, fun jobId hid => ⟨hknown jobId hid, hnone.2 jobId⟩⟩
    · have := hone.1
      omega
    · have := hone.2 jobId
      have := hnone.2 jobId
      omega
  exact (Always.of_steps (fun _ _ => guarded_step) hstart hc).mono fun _ h => h.oneJob

/-! ### One call by itself -/

theorem step_error {tenantId tick : Nat} {db : Db} {queue : List Task} {env : Env} {email : String}
    {phase : EnqueuePhase} {e : PyError} {s : DbSession}
    (h : enqueuePhase env tenantId email phase ⟨db, db, queue, tick⟩ = (.error e, s)) :
    step tenantId ⟨db, queue, [⟨env, email, phase, tick⟩]⟩ (.advances 0) =
      ⟨s.saved, s.outside, [⟨env, email, .done, s.tick⟩]⟩ := by
  show advance tenantId _ 0 ⟨env, email, phase, tick⟩ = _
  unfold advance
  rw [h]
  rfl

theorem step_ok {tenantId tick : Nat} {db : Db} {queue : List Task} {env : Env} {email : String}
    {phase phase' : EnqueuePhase} {s : DbSession}
    (h : enqueuePhase env tenantId email phase ⟨db, db, queue, tick⟩ = (.ok phase', s)) :
    step tenantId ⟨db, queue, [⟨env, email, phase, tick⟩]⟩ (.advances 0) =
      ⟨s.saved, s.outside, [⟨env, email, phase', s.tick⟩]⟩ := by
  show advance tenantId _ 0 ⟨env, email, phase, tick⟩ = _
  unfold advance
  rw [h]
  rfl

/-- A call that is over takes idle steps. -/
theorem run_done {tenantId : Nat} {db : Db} {queue : List Task} {call : EnqueueCall} (h : call.phase = .done) (n : Nat) :
    run (step tenantId) ⟨db, queue, [call]⟩ (List.replicate n (.advances 0)) = ⟨db, queue, [call]⟩ := by
  induction n with
  | zero => rfl
  | succ n ih =>
    have hidle : step tenantId ⟨db, queue, [call]⟩ (.advances 0) = ⟨db, queue, [call]⟩ := by
      obtain ⟨env, ownerEmail, phase, tick⟩ := call
      obtain rfl : phase = .done := h
      rfl
    rw [List.replicate_succ, run_cons, hidle]
    exact ih

/-- A call about to put a job on the queue does, undisturbed, what `enqueueJob` does. -/
theorem queueing_undisturbed {d : Db} {job : Job} (env : Env) (tenantId : Nat) (email : String) (queue : List Task)
    (tick n : Nat) (hrow : get? d.jobs job.id = some job) :
    let s := (enqueueJob env job (.provisionTenant job.id tenantId email) ⟨d, d, queue, tick⟩).2
    let r := run (step tenantId) ⟨d, queue, [⟨env, email, .queueing job, tick⟩]⟩ (List.replicate (n + 2) (.advances 0))
    r.db = s.saved ∧ r.queue = s.outside := by
  intro s r
  have hs : s = (enqueueJob env job (.provisionTenant job.id tenantId email) ⟨d, d, queue, tick⟩).2 := rfl
  have hr : r = run (step tenantId) (step tenantId ⟨d, queue, [⟨env, email, .queueing job, tick⟩]⟩ (.advances 0))
    (List.replicate (n + 1) (.advances 0)) := rfl
  rw [enqueueJob_apply] at hs
  dsimp only at hs
  have hphase : enqueuePhase env tenantId email (.queueing job) ⟨d, d, queue, tick⟩ =
      queueJob env tenantId email job ⟨d, d, queue, tick⟩ := rfl
  unfold queueJob at hphase
  rw [bind_apply, enqueue_apply] at hphase
  by_cases hqueue : env.queueFails tick = true
  · rw [if_pos hqueue] at hs hphase
    rw [step_error hphase, run_done rfl] at hr
    rw [hr, hs]
    exact ⟨rfl, rfl⟩
  · rw [if_neg hqueue] at hs hphase
    rw [step_ok hphase, List.replicate_succ, run_cons] at hr
    have hback : enqueuePhase env tenantId email (.writingBack job.id queue.length)
        ⟨d, d, queue ++ [.provisionTenant job.id tenantId email], tick + 1⟩ =
        writeBack env job.id queue.length ⟨d, d, queue ++ [.provisionTenant job.id tenantId email], tick + 1⟩ := rfl
    unfold writeBack at hback
    rw [bind_ok (modify_apply _ _), commit_bind] at hback
    dsimp only at hback hr
    rw [flush_jobs] at hback
    have hput : d.putJob { job with rqJobId := some queue.length } =
        { d with jobs := Table.modify d.jobs job.id fun job => { job with rqJobId := some queue.length } } := by
      unfold Db.putJob
      rw [modify_of_get? hrow]
    rw [hput, flush_jobs] at hs
    by_cases hcommit : env.commitFails (tick + 1) = true
    · rw [if_pos hcommit] at hs hback
      rw [step_error hback, run_done rfl] at hr
      rw [hr, hs]
      exact ⟨rfl, rfl⟩
    · rw [if_neg hcommit] at hs hback
      rw [step_ok hback, run_done rfl] at hr
      rw [hr, hs]
      exact ⟨rfl, rfl⟩

/-- A call that nothing disturbs does what `enqueue_provisioning_for_paid_tenant` does. -/
theorem call_undisturbed {db : Db} (hids : (db.jobs.map key).Nodup) (env : Env) (tenantId : Nat) (email : String)
    (queue : List Task) :
    let s := (enqueueProvisioningForPaidTenant env tenantId email (opened db queue)).2
    let r := run (step tenantId) ⟨db, queue, []⟩ (.begins env email :: List.replicate 4 (.advances 0))
    r.db = s.saved ∧ r.queue = s.outside := by
  intro s r
  have hs : s = (enqueueProvisioningForPaidTenant env tenantId email ⟨db, db, queue, 0⟩).2 := rfl
  have hr : r = run (step tenantId) (step tenantId ⟨db, queue, [⟨env, email, .looking, 0⟩]⟩ (.advances 0))
    (List.replicate 3 (.advances 0)) := rfl
  have hphase : enqueuePhase env tenantId email .looking ⟨db, db, queue, 0⟩ = lookForJob tenantId ⟨db, db, queue, 0⟩ := rfl
  unfold lookForJob at hphase
  unfold enqueueProvisioningForPaidTenant at hs
  rw [bind_ok (read_apply _)] at hphase hs
  dsimp only at hphase hs
  -- where no job is live the call inserts one; otherwise it queues what is missing or returns the job
  cases hlive : liveCreateJob db tenantId with
  | none =>
    rw [hlive] at hphase hs
    rw [step_ok hphase, List.replicate_succ, run_cons] at hr
    have hinsert : enqueuePhase env tenantId email .inserting ⟨db, db, queue, 0⟩ =
      insertJob env tenantId ⟨db, db, queue, 0⟩ := rfl
    unfold insertJob at hinsert
    rw [bind_apply, addJob_apply] at hinsert
    dsimp only at hinsert hs
    rw [bind_apply, addJob_apply] at hs
    dsimp only at hs
    rw [flush_jobs] at hinsert hs
    by_cases hcommit : env.commitFails 0 = true
    · rw [if_pos hcommit] at hs hinsert
      rw [step_error hinsert, run_done rfl] at hr
      rw [hr, hs]
      exact ⟨rfl, rfl⟩
    · rw [if_neg hcommit] at hs hinsert
      rw [step_ok hinsert] at hr
      have hfree : get? db.jobs (newJob db tenantId .create (env.clock 0)).id = none := get?_fresh _
      have hrow := get?_insert_self (r := newJob db tenantId .create (env.clock 0)) hfree
      have hqueue := queueing_undisturbed
        (d := { db with jobs := insert db.jobs (newJob db tenantId .create (env.clock 0)) }) env tenantId email queue 1 0 hrow
      dsimp only at hs
      rw [bind_pure_snd] at hs
      rw [hr, hs]
      exact hqueue
  | some job =>
    rw [hlive] at hphase hs
    dsimp only at hphase hs
    by_cases hmissing : job.status = .queued ∧ job.rqJobId = none
    · rw [if_pos hmissing] at hphase hs
      rw [step_ok hphase] at hr
      have hrow : get? db.jobs job.id = some job := get?_of_mem hids (List.mem_filter.1 (mem_of_latestBy hlive)).1
      have hqueue := queueing_undisturbed env tenantId email queue 0 1 hrow
      rw [bind_pure_snd] at hs
      rw [hr, hs]
      exact hqueue
    · rw [if_neg hmissing] at hphase hs
      rw [step_ok hphase, run_done rfl] at hr
      rw [hr, hs]
      exact ⟨rfl, rfl⟩

/-! ### Two calls -/

/-- A tenant that has paid, with no job and an empty queue. -/
def paidTenant : EnqueueRace := ⟨(Small.after [Small.createTenant]).db, [], []⟩

def callOf (email : String) : EnqueueMove := .begins Small.env email

/-- A webhook and a reconciliation both look for a job before either inserts one. -/
def lookTogether : List EnqueueMove :=
  [callOf "webhook", callOf "reconciliation", .advances 0, .advances 1, .advances 0, .advances 1, .advances 0, .advances 1]

set_option maxRecDepth 100000 in
/-- Each inserts a job of its own and puts it on the queue. -/
theorem two_calls_two_jobs : ¬Always (step 1) (OneJob 1) paidTenant lookTogether := by
  intro h
  have hjobs := h.last.1
  revert hjobs
  decide +kernel

/-- A second call comes when the first has written the id back, and then the worker takes the job. -/
def lookInTurn : List EnqueueMove :=
  [callOf "webhook"] ++ List.replicate 4 (.advances 0) ++ [callOf "retry", .advances 1, .marks 1 .running]

set_option maxRecDepth 100000 in
/-- Calls that take turns make one job. -/
theorem calls_in_turn : Always (step 1) (OneJob 1) paidTenant lookInTurn := by
  have hempty : paidTenant.queue = [] := rfl
  refine one_job (by decide +kernel) rfl ⟨by decide +kernel, fun jobId => ?_⟩ (fun jobId _ => ?_) (by decide +kernel)
  · unfold queued
    rw [hempty]
    exact Nat.zero_le 1
  · unfold queued
    rw [hempty]
    rfl

end EnqueueRace

end ControlPlane
