import ControlPlane.Held

/-!
# Administrative suspension

The table lets a tenant go from `suspended_admin` to `active` whoever asks, and dunning and cancellations put
`suspended_billing` in its place, which a payment then lifts.  Between a suspension and the next unsuspension the tenant
stays out of service as long as no step reactivates it.
-/

namespace ControlPlane

open Table Session Session.Proc Runs

/-- Where a tenant can be after its administrative suspension, until it is reactivated. -/
def suspendedByAdmin : List TenantStatus :=
  [.suspendedAdmin, .suspendedBilling, .pendingDeletion, .deleting, .deleted, .failed]

theorem hold_suspendedByAdmin : Hold suspendedByAdmin := by constructor <;> decide

/-- The tenant is held back. -/
def suspendedWatch (t : Nat) : Watch t := .ofStatus t fun st => ∃ s ∈ suspendedByAdmin, st = some s

/-- An administrator's suspension is not lifted in a run that has no reactivating step. -/
theorem admin_suspension_kept {w : World} {t : Nat} {es : List Event} (hs : w.status t = some .suspendedAdmin)
    (hc : Steps step (fun w e => ¬reactivates w e t) w es) :
    Always step (fun w => w.status t ≠ some .active) w es := by
  have hstep : ∀ w' e, (suspendedWatch t).On w' → ¬reactivates w' e t → (suspendedWatch t).On (step w' e) :=
    fun w' e h hnot => Watch.step h
      (permits_of_hold hold_suspendedByAdmin (fun _ => Iff.rfl) h.1 hnot fun _ _ => trivial)
  have hstart : (suspendedWatch t).On w := ⟨⟨_, by decide, hs⟩, trivial⟩
  refine (Always.of_steps hstep hstart hc).mono fun w' h hactive => ?_
  obtain ⟨st, hst, hst'⟩ := h.1
  rw [hactive] at hst'
  cases hst'
  exact absurd (by decide) (hold_suspendedByAdmin.out _ hst)

/-- A paid tenant whose provisioning is at work when an administrator suspends it. -/
def Small.suspendedAtWork : World :=
  Small.after ([Small.createTenant, Small.webhook .paymentConfirmed "evt_1"] ++ Small.runTask 0 2 ++ [.suspendTenant 1])

set_option maxRecDepth 100000 in
theorem task_lifts_admin_suspension :
    Small.suspendedAtWork.status 1 = some .suspendedAdmin ∧
      ¬Always step (fun w => w.status 1 ≠ some .active) Small.suspendedAtWork
        (Small.events [.taskPhase 0 (.ok "CUST-1"), .taskPhase 0 (.ok "")]) :=
  ⟨by decide +kernel, by decide +kernel⟩

set_option maxRecDepth 100000 in
theorem admin_suspension_kept_small :
    Always step (fun w => w.status 1 ≠ some .active) Small.suspendedAtWork
      (Small.events [Small.webhook .paymentFailed "evt_2", Small.webhook .paymentConfirmed "evt_3",
        .taskPhase 0 (.error (.runtimeError "bench is down"))]) :=
  admin_suspension_kept (by decide +kernel) (by decide +kernel)

end ControlPlane
