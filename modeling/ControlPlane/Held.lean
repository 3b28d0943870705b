import ControlPlane.Permits

/-!
# Holding a tenant back

Some statuses (a deletion under way, an administrative suspension) are meant to hold a tenant back for good.  Here are
the steps that can bring a tenant out of such statuses, and the closure that makes a list of statuses a hold.
-/

namespace ControlPlane

open Table Session Session.Proc

/-- The statuses of a tenant that is coming up or in service. -/
def underway : List TenantStatus := [.pending, .provisioning, .active]

/-- The steps that bring a tenant back that was failed or suspended: a confirmed payment that lifts a billing suspension,
a retry of a failed tenant, a repair by a reconciliation of a failed or suspended one, and the activation of a suspended
one, by an admin or by a task. -/
def reactivates (w : World) (e : Event) (t : Nat) : Prop :=
  (handledEvent w e t = some .paymentConfirmed ∧ w.status t = some .suspendedBilling) ∨
    (e.op.retries t = true ∧ w.status t = some .failed) ∨
    (∃ repair ∈ repairs w e t, repair.1.status = .failed ∨ repair.1.status = .suspendedBilling) ∨
    (askedStatus w e = some (t, .active) ∧
      (w.status t = some .suspendedBilling ∨ w.status t = some .suspendedAdmin))

instance (w : World) (e : Event) (t : Nat) : Decidable (reactivates w e t) := inferInstanceAs (Decidable (_ ∨ _))

/-- A list of statuses no step leaves but by reactivating the tenant. -/
structure Hold (held : List TenantStatus) : Prop where
  out : ∀ st ∈ held, st ∉ underway
  unpaid : TenantStatus.pendingPayment ∉ held
  suspended : TenantStatus.suspendedBilling ∈ held
  allowed : ∀ st ∈ held, ∀ new, Allowed st new → new ∈ held ∨ (st = .failed ∧ new = .pending) ∨
    (new = .active ∧ (st = .suspendedBilling ∨ st = .suspendedAdmin))
  event : ∀ st ∈ held, (st ≠ .suspendedBilling → paidStatus st ∈ held) ∧ paymentFailedStatus st ∈ held
  repair : ∀ st ∈ held, st ≠ .failed → st ≠ .suspendedBilling → ∀ runtimeExists, repairStatus st runtimeExists = st
  trial : ∀ st ∈ held, trialExpiredStatus st ∈ held

/-- A watch on a hold permits every step that does not reactivate the tenant, if it lets a payment ask for the
provisioning of the tenant or no payment does. -/
theorem permits_of_hold {t : Nat} {W : Watch t} {held : List TenantStatus} {w : World} {e : Event} (hheld : Hold held)
    (hW : ∀ st, W.status st ↔ ∃ s ∈ held, st = some s) (hs : W.status (w.status t)) (hc : ¬reactivates w e t)
    (hpayment : handledEvent w e t = some .paymentConfirmed → provisioningMissing w.db t = true → W.provisioning) :
    W.Permits w e := by
  obtain ⟨st, hst, hs⟩ := (hW _).1 hs
  have hmem : ∀ new, W.status (some new) ↔ new ∈ held := by
    intro new
    rw [hW]
    constructor
    · rintro ⟨s, hs', heq⟩
      cases heq
      exact hs'
    · exact fun h => ⟨new, h, rfl⟩
  have hother : ∀ new, new ∉ held → w.status t ≠ some new := by
    intro new hne h
    rw [hs] at h
    cases h
    exact hne hst
  constructor
  -- a tenant that is held exists, so no creation makes it
  case created => exact fun _ ht => absurd ht (Watch.ne_fresh hs)
  case renewed =>
    rintro - (h | h)
    · exact absurd h (hother _ fun hpending => hheld.out _ hpending (by decide))
    · exact absurd h (hother _ hheld.unpaid)
  case handled =>
    intro eventType htype st' hst'
    rw [hs] at hst'
    cases hst'
    rw [hmem]
    cases eventType with
    | paymentConfirmed =>
      refine ⟨(hheld.event st hst).1 ?_, fun _ => hpayment htype⟩
      rintro rfl
      exact hc (Or.inl ⟨htype, hs⟩)
    | paymentFailed => exact ⟨(hheld.event st hst).2, fun h => by cases h⟩
    | subscriptionCancelled => exact ⟨hheld.suspended, fun h => by cases h⟩
    | other name => exact ⟨hst, fun h => by cases h⟩
  case repaired =>
    intro v hv ht tenant subscription runtimeExists hrepair hbefore
    have hrepairs := mem_repairs hv ht hrepair
    have hfailed : tenant.status ≠ .failed := fun h => hc (Or.inr (Or.inr (Or.inl ⟨_, hrepairs, Or.inl h⟩)))
    have hsuspended : tenant.status ≠ .suspendedBilling :=
      fun h => hc (Or.inr (Or.inr (Or.inl ⟨_, hrepairs, Or.inr h⟩)))
    rw [hheld.repair _ ((hmem _).1 hbefore) hfailed hsuspended runtimeExists]
    refine ⟨hbefore, fun hpending => ?_⟩
    rw [hpending] at hbefore
    exact absurd (by decide) (hheld.out _ ((hmem _).1 hbefore))
  case expired =>
    intro _ _ st' hst'
    rw [hmem] at hst' ⊢
    exact hheld.trial st' hst'
  case escalated => exact fun _ _ _ _ => (hmem _).2 hheld.suspended
  case retried => exact fun hop hfailed => absurd (Or.inr (Or.inl ⟨hop, hfailed⟩)) hc
  case asked =>
    intro status hasked st' hst' hallowed
    rw [hs] at hst'
    cases hst'
    rw [hmem]
    rcases hheld.allowed st hst status hallowed with h | ⟨rfl, rfl⟩ | ⟨rfl, hsuspended⟩
    · exact h
    · exact absurd rfl (askedStatus_ne_pending hasked)
    · refine absurd (Or.inr (Or.inr (Or.inr ⟨hasked, ?_⟩))) hc
      rw [hs]
      exact hsuspended.imp (congrArg some) (congrArg some)

end ControlPlane
