import ControlPlane.Basic

/-!
# Tenant statuses and their checked transitions

`allowedTransitions` is the table `ALLOWED_TRANSITIONS`, and `transitionStatus` the check every writer of a tenant's
status is meant to go through.  `activation_blocked` is a status the billing lifecycle computes and no row holds: no
entry of the table leads to it.
-/

namespace ControlPlane

inductive TenantStatus where
  | pendingPayment | pending | provisioning | active | suspended | suspendedAdmin | suspendedBilling
  | upgrading | restoring | pendingDeletion | deleting | failed | deleted | activationBlocked
  deriving DecidableEq, Repr

namespace TenantStatus

def text : TenantStatus → String
  | pendingPayment => "pending_payment"
  | pending => "pending"
  | provisioning => "provisioning"
  | active => "active"
  | suspended => "suspended"
  | suspendedAdmin => "suspended_admin"
  | suspendedBilling => "suspended_billing"
  | upgrading => "upgrading"
  | restoring => "restoring"
  | pendingDeletion => "pending_deletion"
  | deleting => "deleting"
  | failed => "failed"
  | deleted => "deleted"
  | activationBlocked => "activation_blocked"

def all : List TenantStatus :=
  [pendingPayment, pending, provisioning, active, suspended, suspendedAdmin, suspendedBilling, upgrading, restoring,
    pendingDeletion, deleting, failed, deleted, activationBlocked]

theorem mem_all (status : TenantStatus) : status ∈ all := by cases status <;> decide

instance (p : TenantStatus → Prop) [DecidablePred p] : Decidable (∀ status, p status) :=
  decidable_of_iff (∀ status ∈ all, p status) ⟨fun h status => h status (mem_all status), fun h status _ => h status⟩

end TenantStatus

open TenantStatus in
/-- The table `ALLOWED_TRANSITIONS`. -/
def allowedTransitions : TenantStatus → List TenantStatus
  | pendingPayment =>
    [pending, suspended, suspendedAdmin, suspendedBilling, pendingDeletion, deleting, failed, deleted]
  | pending =>
    [pendingPayment, provisioning, suspended, suspendedAdmin, suspendedBilling, pendingDeletion, deleting, failed,
      deleted]
  | provisioning => [active, failed, suspended, suspendedAdmin, suspendedBilling, pendingDeletion]
  | active =>
    [suspended, suspendedAdmin, suspendedBilling, upgrading, restoring, pendingDeletion, deleting, failed]
  | suspended => [active, pendingDeletion, deleting, failed]
  | suspendedAdmin => [active, pendingDeletion, deleting, failed]
  | suspendedBilling => [active, pendingDeletion, deleting, failed]
  | upgrading => [active, failed, pendingDeletion]
  | restoring => [active, failed, pendingDeletion]
  | pendingDeletion => [deleting, deleted, failed]
  | deleting => [deleted, failed]
  | failed => [pending, pendingDeletion, deleted]
  | deleted => []
  | activationBlocked => []

/-- `transition_tenant_status` on the status: staying is always allowed, moving only along the table. -/
def transitionStatus (current new : TenantStatus) : Except PyError TenantStatus :=
  if current = new then
    .ok current
  else if new ∈ allowedTransitions current then
    .ok new
  else
    .error (.invalidTenantStatusTransition current.text new.text)

/-- The status after a transition whose refusal is caught and ignored. -/
def transitionOrKeep (current new : TenantStatus) : TenantStatus :=
  match transitionStatus current new with
  | .ok status => status
  | .error _ => current

/-- The status after a transition whose refusal is caught and overridden by an assignment. -/
def transitionOrForce (current new : TenantStatus) : TenantStatus :=
  match transitionStatus current new with
  | .ok status => status
  | .error _ => new

theorem transitionStatus_eq_ok {current new status : TenantStatus} :
    transitionStatus current new = .ok status ↔
      status = new ∧ (current = new ∨ new ∈ allowedTransitions current) := by
  unfold transitionStatus
  split
  · rename_i h
    constructor
    · intro hs; cases hs; exact ⟨h, Or.inl h⟩
    · rintro ⟨rfl, -⟩; rw [h]
  · rename_i h
    split
    · rename_i hm
      constructor
      · intro hs; cases hs; exact ⟨rfl, Or.inr hm⟩
      · rintro ⟨rfl, -⟩; rfl
    · rename_i hm
      constructor
      · intro hs; cases hs
      · rintro ⟨-, h' | h'⟩
        · exact absurd h' h
        · exact absurd h' hm

/-- A transition is refused with one error only, which names both statuses. -/
theorem transitionStatus_eq_error {current new : TenantStatus} {e : PyError}
    (h : transitionStatus current new = .error e) :
    e = .invalidTenantStatusTransition current.text new.text ∧ current ≠ new ∧ new ∉ allowedTransitions current := by
  unfold transitionStatus at h
  split at h
  · cases h
  · split at h
    · cases h
    · rename_i hne hm
      cases h
      exact ⟨rfl, hne, hm⟩

/-- No transition leaves `deleted`. -/
theorem transitionStatus_deleted {new status : TenantStatus} (h : transitionStatus .deleted new = .ok status) :
    status = .deleted := by
  obtain ⟨rfl, h | h⟩ := transitionStatus_eq_ok.1 h
  · exact h.symm
  · cases h

theorem transitionOrKeep_eq (current new : TenantStatus) :
    transitionOrKeep current new = if current = new ∨ new ∈ allowedTransitions current then new else current := by
  unfold transitionOrKeep
  split
  · rename_i status h
    obtain ⟨rfl, hs⟩ := transitionStatus_eq_ok.1 h
    rw [if_pos hs]
  · rename_i e h
    obtain ⟨-, hne, hm⟩ := transitionStatus_eq_error h
    rw [if_neg (not_or.2 ⟨hne, hm⟩)]

/-- Forcing a refused transition makes the check vacuous. -/
@[simp] theorem transitionOrForce_eq (current new : TenantStatus) : transitionOrForce current new = new := by
  unfold transitionOrForce
  split
  · rename_i status h
    exact (transitionStatus_eq_ok.1 h).1
  · rfl

end ControlPlane
