import ControlPlane.Basic
import Mathlib.Data.List.Basic

/-!
# Dead letters

When a job fails, the dead-letter queue gets a job of its own, which calls `handle_failed_job` with the data of the failed
one.  A requeue by an administrator puts this wrapper back on the queue it came from and does not take it apart, so nothing
ever comes back to the queue that the worker serves.
-/

namespace ControlPlane

variable {V : Type}

/-- What a job calls. -/
structure JobCall (V : Type) where
  funcName : String
  args : List V
  kwargs : List (String × V)
  deriving DecidableEq

/-- A job with the queue it was enqueued on. -/
structure RqJob (V : Type) where
  id : String
  origin : String
  call : JobCall V
  deriving DecidableEq

/-- The Python values that a call is wrapped in. -/
structure PyValues (V : Type) where
  text : String → V
  tuple : List V → V
  dict : List (String × V) → V

/-- RQ, as far as this program uses it: the jobs that wait on a queue, `queue.enqueue`, `queue.fetch_job` and
`job.requeue`. -/
structure Rq (V : Type) where
  State : Type
  waiting : State → String → List (RqJob V)
  enqueue : State → String → JobCall V → RqJob V × State
  fetchJob : State → String → String → Option (RqJob V)
  requeue : State → RqJob V → Except PyError State

/-- What RQ documents of them: a queue gets what is enqueued on it and only finds its own jobs, and a job that is requeued
goes to the queue it was enqueued on. -/
structure Rq.Documented (rq : Rq V) : Prop where
  enqueued : ∀ s queue call, (rq.enqueue s queue call).1.origin = queue ∧ (rq.enqueue s queue call).1.call = call
  enqueue_own : ∀ s queue call,
    rq.waiting (rq.enqueue s queue call).2 queue = rq.waiting s queue ++ [(rq.enqueue s queue call).1]
  enqueue_other : ∀ s queue call other, other ≠ queue →
    rq.waiting (rq.enqueue s queue call).2 other = rq.waiting s other
  fetched : ∀ s queue id job, rq.fetchJob s queue id = some job → job.id = id ∧ job.origin = queue
  requeue_own : ∀ s job s', rq.requeue s job = .ok s' → rq.waiting s' job.origin = rq.waiting s job.origin ++ [job]
  requeue_other : ∀ s job s' other, rq.requeue s job = .ok s' → other ≠ job.origin →
    rq.waiting s' other = rq.waiting s other

/-- The only queue in `Worker(["provisioning"])`. -/
def workerQueue : String := "provisioning"

def deadLetterQueue : String := "dead-letter"

/-- What `handle_failed_job` returns, which is all that it does. -/
structure FailureRecord (V : Type) where
  originalJobId : String
  call : JobCall V
  error : String
  deriving DecidableEq

def handleFailedJob (originalJobId funcName : String) (args : List V) (kwargs : List (String × V))
    (error : Option String) : FailureRecord V :=
  ⟨originalJobId, ⟨funcName, args, kwargs⟩, error.getD ""⟩

/-- The call that the dead-letter queue gets. -/
def wrappedCall (values : PyValues V) (job : RqJob V) (excValue : Option String) : JobCall V where
  funcName := "app.workers.dlq.handle_failed_job"
  args :=
    [values.text job.id, values.text job.call.funcName, values.tuple job.call.args, values.dict job.call.kwargs,
      values.text (excValue.getD "")]
  kwargs := []

/-- An audit event of a job. -/
structure JobAudit where
  action : String
  resource : String
  resourceId : String
  reason : Option String
  deriving DecidableEq, Repr

namespace Rq

variable (rq : Rq V)

/-- `on_job_failure`: whether RQ's own handler is skipped, the entry, and the queues. -/
def onJobFailure (values : PyValues V) (job : RqJob V) (excValue : Option String) (s : rq.State) :
    Bool × RqJob V × rq.State :=
  let entry := rq.enqueue s deadLetterQueue (wrappedCall values job excValue)
  (false, entry)

/-- `requeue_dead_letter_job`. -/
def requeueDeadLetterJob (jobId : String) (reason : Option String) (s : rq.State) :
    Except PyError (String × JobAudit × rq.State) :=
  match rq.fetchJob s deadLetterQueue jobId with
  | none => .error (.httpException 404 "Dead-letter job not found")
  | some job => do
    let s ← rq.requeue s job
    return ("Dead-letter job requeued", ⟨"admin.requeue_dead_letter", "jobs", jobId, reason⟩, s)

/-- The job failed before, its entry is requeued later, and of the two exactly one puts the call back on the worker's
queue, and puts nothing else there. -/
def Reruns (values : PyValues V) (job : RqJob V) (excValue reason : Option String) (before later : rq.State) : Prop :=
  let failed := rq.onJobFailure values job excValue before
  ∃ answer audit after added requeued again,
    rq.requeueDeadLetterJob failed.2.1.id reason later = .ok (answer, audit, after) ∧
      (rq.waiting failed.2.2 workerQueue).Perm (rq.waiting before workerQueue ++ added) ∧
      (rq.waiting after workerQueue).Perm (rq.waiting later workerQueue ++ requeued) ∧
      added ++ requeued = [again] ∧ again.call = job.call

end Rq

section
variable {rq : Rq V} (h : rq.Documented)
include h

/-- Failing adds the wrapper to the dead-letter queue and nothing to the worker's queue. -/
theorem Rq.Documented.onJobFailure_waiting (values : PyValues V) (job : RqJob V) (excValue : Option String)
    (s : rq.State) :
    rq.waiting (rq.onJobFailure values job excValue s).2.2 workerQueue = rq.waiting s workerQueue ∧
      ∃ entry, entry.call = wrappedCall values job excValue ∧
        rq.waiting (rq.onJobFailure values job excValue s).2.2 deadLetterQueue = rq.waiting s deadLetterQueue ++ [entry] :=
  ⟨h.enqueue_other s deadLetterQueue _ workerQueue (by decide), _, (h.enqueued ..).2, h.enqueue_own ..⟩

/-- A requeue, whenever it comes, puts a job back on the dead-letter queue and adds nothing to the worker's queue. -/
theorem Rq.Documented.requeueDeadLetterJob_waiting {jobId answer : String} {reason : Option String} {audit : JobAudit}
    {s s' : rq.State} (hr : rq.requeueDeadLetterJob jobId reason s = .ok (answer, audit, s')) :
    rq.waiting s' workerQueue = rq.waiting s workerQueue ∧
      ∃ entry, entry.id = jobId ∧ rq.waiting s' deadLetterQueue = rq.waiting s deadLetterQueue ++ [entry] := by
  unfold Rq.requeueDeadLetterJob at hr
  cases hfetch : rq.fetchJob s deadLetterQueue jobId with
  | none =>
    rw [hfetch] at hr
    cases hr
  | some entry =>
    rw [hfetch] at hr
    obtain ⟨after, hrequeue, heq⟩ := bind_eq_ok.1 hr
    cases heq
    obtain ⟨hid, horigin⟩ := h.fetched _ _ _ _ hfetch
    have hown := h.requeue_own _ _ _ hrequeue
    rw [horigin] at hown
    refine ⟨h.requeue_other _ _ _ workerQueue hrequeue ?_, entry, hid, hown⟩
    rw [horigin]
    decide

end

/-- No dead letter is ever rerun. -/
theorem dead_letter_never_reruns (rq : Rq V) (h : rq.Documented) (values : PyValues V) (job : RqJob V)
    (excValue reason : Option String) (before later : rq.State) :
    ¬rq.Reruns values job excValue reason before later := by
  rintro ⟨answer, audit, after, added, requeued, again, hrequeue, hadded, hrequeued, hone, -⟩
  have hnone : added = [] := by
    have hlength := hadded.length_eq
    rw [(h.onJobFailure_waiting values job excValue before).1, List.length_append] at hlength
    exact List.eq_nil_of_length_eq_zero (by omega)
  have hnone' : requeued = [] := by
    have hlength := hrequeued.length_eq
    rw [(h.requeueDeadLetterJob_waiting hrequeue).1, List.length_append] at hlength
    exact List.eq_nil_of_length_eq_zero (by omega)
  rw [hnone, hnone'] at hone
  cases hone

namespace Small

/-- The waiting jobs of all queues, the jobs that failed, and how many were enqueued. -/
structure Queues where
  waiting : List (RqJob String)
  failed : List (RqJob String)
  enqueued : Nat
  deriving DecidableEq

/-- A small RQ: only a job that failed can be requeued. -/
def rq : Rq String where
  State := Queues
  waiting s queue := s.waiting.filter fun job => job.origin = queue
  enqueue s queue call :=
    let job : RqJob String := ⟨String.ofList (List.replicate s.enqueued 'j'), queue, call⟩
    (job, { s with waiting := s.waiting ++ [job], enqueued := s.enqueued + 1 })
  fetchJob s queue id := (s.waiting ++ s.failed).find? fun job => job.id = id ∧ job.origin = queue
  requeue s job :=
    if job ∈ s.failed then .ok { s with waiting := s.waiting ++ [job], failed := s.failed.erase job }
    else .error (.queueError "InvalidJobOperation")

theorem rq_documented : rq.Documented where
  enqueued _ _ _ := ⟨rfl, rfl⟩
  enqueue_own s queue call := by
    show (s.waiting ++ [_]).filter _ = _
    simp [rq]
  enqueue_other s queue call other hne := by
    show (s.waiting ++ [_]).filter _ = _
    simp [rq, Ne.symm hne]
  fetched s queue id job h := by
    have hfound := List.find?_some h
    simpa using hfound
  requeue_own s job s' h := by
    dsimp only [rq] at h
    split at h
    · cases h
      simp [rq]
    · cases h
  requeue_other s job s' other h hne := by
    dsimp only [rq] at h
    split at h
    · cases h
      simp [rq, Ne.symm hne]
    · cases h

/-- How texts, tuples and dictionaries are written. -/
def values : PyValues String where
  text := id
  tuple args := ", ".intercalate args
  dict kwargs := ", ".intercalate (kwargs.map fun p => p.1 ++ "=" ++ p.2)

/-- A provisioning job that failed. -/
def provisionJob : RqJob String := ⟨"first", "provisioning", ⟨"app.workers.tasks.provision_tenant", ["job-1"], []⟩⟩

/-- Nothing waits. -/
def idle : Queues := ⟨[], [], 0⟩

/-- Its wrapper was run and failed too. -/
def wrapperFailed : Queues := ⟨[], [(rq.onJobFailure values provisionJob (some "bench failed") idle).2.1], 1⟩

end Small

theorem provisioning_never_reruns :
    ¬Small.rq.Reruns Small.values Small.provisionJob (some "bench failed") none Small.idle Small.wrapperFailed :=
  dead_letter_never_reruns Small.rq Small.rq_documented Small.values Small.provisionJob (some "bench failed") none Small.idle
    Small.wrapperFailed

/-- A requeue right after the failure is refused, because the wrapper has not failed. -/
theorem requeue_does_not_rerun :
    ¬∀ (rq : Rq String), rq.Documented → ∀ (values : PyValues String) (job : RqJob String)
        (excValue reason : Option String) (before : rq.State),
      rq.Reruns values job excValue reason before (rq.onJobFailure values job excValue before).2.2 := by
  intro h
  obtain ⟨answer, audit, after, added, requeued, again, hrequeue, -⟩ :=
    h Small.rq Small.rq_documented Small.values Small.provisionJob (some "bench failed") none Small.idle
  have hrefused : Small.rq.requeueDeadLetterJob "" none
      (Small.rq.onJobFailure Small.values Small.provisionJob (some "bench failed") Small.idle).2.2 =
        .error (.queueError "InvalidJobOperation") := rfl
  cases hrefused.symm.trans hrequeue

/-- A wrapper that has failed is put back on the dead-letter queue. -/
example :
    ((Small.rq.requeueDeadLetterJob "" none Small.wrapperFailed).toOption.map fun r =>
      (Small.rq.waiting r.2.2 workerQueue, (Small.rq.waiting r.2.2 deadLetterQueue).map fun job => job.call.funcName)) =
      some ([], ["app.workers.dlq.handle_failed_job"]) := by
  decide

end ControlPlane
