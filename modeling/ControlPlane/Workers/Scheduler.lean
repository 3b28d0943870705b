import ControlPlane.Base.ExpiringKey
import ControlPlane.Base.Runs
import ControlPlane.Basic
import Mathlib.Logic.Function.Basic
import Mathlib.Data.Nat.Basic

/-!
# The schedulers of the workers

Every worker runs one thread for each of the three cycles.  A thread polls: it takes the cycle's lock or renews it, and
while it has the lock it puts the cycle on the queue when the interval since the last time is over.  The three are one
program with settings and keys of their own, so the threads of one cycle are a system by themselves.  Each command to
Redis, each look at the clock and the call of the queue is a step; between any two of them the other threads move and
time passes.
-/

namespace ControlPlane

/-- The settings the schedulers read. -/
structure WorkerSettings where
  billingDunningAutoEnabled : Bool
  billingDunningAutoIntervalMinutes : Int
  billingDunningAutoLockSeconds : Int
  trialLifecycleEnabled : Bool
  trialSchedulerAutoEnabled : Bool
  trialSchedulerAutoIntervalMinutes : Int
  trialSchedulerAutoLockSeconds : Int
  billingReconciliationAutoEnabled : Bool
  billingReconciliationAutoIntervalMinutes : Int
  billingReconciliationAutoLockSeconds : Int

/-- What one of the schedulers takes from the settings. -/
structure SchedulerSettings where
  enabled : Bool
  intervalMinutes : Int
  autoLockSeconds : Int

def dunningScheduler (settings : WorkerSettings) : SchedulerSettings :=
  ⟨settings.billingDunningAutoEnabled, settings.billingDunningAutoIntervalMinutes,
    settings.billingDunningAutoLockSeconds⟩

def trialScheduler (settings : WorkerSettings) : SchedulerSettings :=
  ⟨settings.trialLifecycleEnabled && settings.trialSchedulerAutoEnabled, settings.trialSchedulerAutoIntervalMinutes,
    settings.trialSchedulerAutoLockSeconds⟩

def reconciliationScheduler (settings : WorkerSettings) : SchedulerSettings :=
  ⟨settings.billingReconciliationAutoEnabled, settings.billingReconciliationAutoIntervalMinutes,
    settings.billingReconciliationAutoLockSeconds⟩

namespace SchedulerSettings

/-- `interval_seconds`. -/
def interval (settings : SchedulerSettings) : Nat := (max settings.intervalMinutes 1).toNat * 60

/-- `_lock_seconds_for_key`. -/
def lockSeconds (settings : SchedulerSettings) : Nat := (max settings.autoLockSeconds 30).toNat

/-- How long the time of the last enqueue is kept. -/
def stampSeconds (settings : SchedulerSettings) : Nat := max (settings.interval * 8) (60 * 60)

end SchedulerSettings

/-- Where a thread is in its loop. -/
inductive SchedulerPhase where
  /-- before `set(lock_key, owner_id, nx=True)` -/
  | polling
  /-- the key was there: before `get(lock_key)` -/
  | contending
  /-- the value was its own: before `expire(lock_key)` -/
  | renewing
  /-- it has the lock: before `time.time()` -/
  | leading
  /-- before `get` of the last enqueue -/
  | timed (now : Time)
  /-- the interval is over: before `enqueue` -/
  | due (now : Time)
  /-- before `set` of the last enqueue -/
  | stamping (now : Time)
  deriving DecidableEq, Repr

/-- The two keys of a cycle, the threads, and what they did: the enqueues with their times, and whose lock each renewal
extended. -/
structure SchedulerState where
  now : Time
  lock : ExpiringKey.Entry Time Nat
  lastEnqueue : ExpiringKey.Entry Time Time
  phase : Nat → SchedulerPhase
  enqueued : List Time
  renewed : List (Nat × Nat)

inductive SchedulerEvent where
  /-- time passes -/
  | tick (seconds : Nat)
  /-- a thread makes its next step -/
  | poll (thread : Nat)
  /-- the thread's next step raises, and its loop catches that -/
  | fail (thread : Nat)
  deriving DecidableEq, Repr

namespace SchedulerState

def setPhase (s : SchedulerState) (thread : Nat) (phase : SchedulerPhase) : SchedulerState :=
  { s with phase := Function.update s.phase thread phase }

end SchedulerState

/-- The next step of a thread: `_acquire_or_renew_lock`, and with the lock the enqueue if it is due. -/
def pollStep (settings : SchedulerSettings) (s : SchedulerState) (thread : Nat) : SchedulerState :=
  match s.phase thread with
  | .polling =>
    match ExpiringKey.get s.now s.lock with
    | none => { s with lock := ExpiringKey.set thread (s.now + settings.lockSeconds) }.setPhase thread .leading
    | some _ => s.setPhase thread .contending
  | .contending =>
    s.setPhase thread (if ExpiringKey.get s.now s.lock = some thread then .renewing else .polling)
  | .renewing =>
    { s with
      lock := ExpiringKey.expire s.now (s.now + settings.lockSeconds) s.lock
      renewed := ((ExpiringKey.get s.now s.lock).map fun owner => (thread, owner)).toList ++ s.renewed
    }.setPhase thread .leading
  | .leading => s.setPhase thread (.timed s.now)
  | .timed now =>
    let last := (ExpiringKey.get s.now s.lastEnqueue).getD 0
    s.setPhase thread (if now < last + settings.interval then .polling else .due now)
  | .due now => { s with enqueued := s.now :: s.enqueued }.setPhase thread (.stamping now)
  | .stamping now =>
    { s with lastEnqueue := ExpiringKey.set now (s.now + settings.stampSeconds) }.setPhase thread .polling

/-- A step of a cycle's scheduler threads; without the setting no thread is started. -/
def schedulerStep (settings : SchedulerSettings) (s : SchedulerState) : SchedulerEvent → SchedulerState
  | .tick seconds => { s with now := s.now + seconds }
  | .poll thread => if settings.enabled then pollStep settings s thread else s
  | .fail thread => s.setPhase thread .polling

end ControlPlane
