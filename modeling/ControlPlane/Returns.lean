import ControlPlane.Bookkeeping

/-!
# Programs that return

When no commit fails and the queue is up, the programs that keep the books never raise.
-/

namespace ControlPlane

open Table Session Session.Proc

/-- No commit fails and the queue takes every task. -/
structure Env.Reliable (env : Env) : Prop where
  commits : ∀ tick, env.commitFails tick = false
  queue : ∀ tick, env.queueFails tick = false

namespace Env.Reliable

variable {env : Env} (h : env.Reliable)
include h

theorem commit : Returns (commit env) := Returns.commit _ fun t => by simp [h.commits t]

theorem enqueue (task : Task) : Returns (enqueue env task) :=
  Returns.call fun t q => ⟨q.length, q ++ [task], by simp [h.queue t]⟩

omit h in
theorem utcnow (env : Env) : Returns (utcnow env) := Returns.bind .now fun _ => .pure _

theorem recordAuditEvent (action resource : String) (id : Option Nat) :
    Returns (recordAuditEvent env action resource id) :=
  .bind (utcnow env) fun _ => .bind (.modify _) fun _ => h.commit

theorem addJob (tenantId : Nat) (type : JobType) : Returns (addJob env tenantId type) :=
  .bind (.bind .now fun _ => .body fun _ => ⟨_, _, rfl⟩) fun _ => .bind h.commit fun _ => .pure _

theorem enqueueJob (job : Job) (task : Task) : Returns (enqueueJob env job task) :=
  .bind (h.enqueue task) fun _ => .bind (.modify _) fun _ => .bind h.commit fun _ => .pure _

theorem enqueueProvisioningForPaidTenant (tenantId : Nat) (ownerEmail : String) :
    Returns (enqueueProvisioningForPaidTenant env tenantId ownerEmail) := by
  refine .bind .read fun db => ?_
  cases liveCreateJob db tenantId with
  | none => exact .bind (h.addJob tenantId .create) fun job => .bind (h.enqueueJob job _) fun _ => .pure _
  | some existing =>
    dsimp only
    split
    · exact .bind (h.enqueueJob existing _) fun _ => .pure _
    · exact .pure _

end Env.Reliable

end ControlPlane
