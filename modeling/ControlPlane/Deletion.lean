import ControlPlane.Held

/-!
# Deletion

The table lets nothing leave `deleted`, and every writer of a status goes through the table or excludes deleted tenants,
but one: the cancellation of a subscription overrides the table's refusal.
-/

namespace ControlPlane

open Table Session Session.Proc Runs

/-- What a cancellation does to the status of the tenant it is for. -/
theorem step_cancellation {w : World} {e : Event} {t : Nat} (h : handledEvent w e t = some .subscriptionCancelled) :
    (step w e).status t = some .suspendedBilling := by
  obtain ⟨env, op⟩ := e
  unfold handledEvent at h
  split at h
  · rename_i delivery hop
    obtain rfl : op = .webhook delivery := hop
    split at h
    · cases h
    · rename_i event tick hdelivered
      split at h
      · rename_i hguard
        obtain ⟨htenant, -, havailable, hcommit⟩ := hguard
        have htype : event.eventType = .subscriptionCancelled := Option.some.inj h
        obtain ⟨tenant, hresolved, hid⟩ := Option.map_eq_some_iff.1 htenant
        obtain ⟨outbox, hrows⟩ := handleGatewayWebhook_rows w.queue hdelivered
        subst hid
        rw [eventTenant, htype] at hresolved
        have hsame : subscriptionAvailable { w.db with outbox := outbox } tenant.id =
            subscriptionAvailable w.db tenant.id := subscriptionAvailable_congr (by rfl) (by rfl) tenant.id
        have hstatus : (step w ⟨env, .webhook delivery⟩).status tenant.id = _ :=
          Db.tenantStatus_congr (Db.tenants_of_core hrows) tenant.id
        rw [hstatus]
        exact appliedRows_cancelled htype hresolved (hsame.trans havailable) (Bool.eq_false_iff.2 hcommit)
      · cases h
  · cases h

/-- The tenant is deleted. -/
def deletedWatch (t : Nat) : Watch t := .ofStatus t fun st => st = some .deleted

theorem permits_deleted {w : World} {e : Event} {t : Nat} (hs : w.status t = some .deleted)
    (hc : handledEvent w e t ≠ some .subscriptionCancelled) : (deletedWatch t).Permits w e := by
  have hdeleted : ∀ st, (deletedWatch t).status (some st) → st = .deleted := fun st h => Option.some.inj h
  have hother : ∀ st, st ≠ .deleted → w.status t ≠ some st := by
    intro st hne h
    rw [hs] at h
    cases h
    exact hne rfl
  -- only a cancellation moves a deleted tenant; every other write leaves the status as it is
  constructor
  case created => exact fun _ ht => absurd ht (Watch.ne_fresh hs)
  case renewed =>
    rintro - (h | h)
    · exact absurd h (hother _ (by decide))
    · exact absurd h (hother _ (by decide))
  case handled =>
    intro eventType htype st hst
    rw [hs] at hst
    cases hst
    refine ⟨congrArg some ?_, fun _ _ => trivial⟩
    cases eventType with
    | paymentConfirmed => rfl
    | paymentFailed => rfl
    | subscriptionCancelled => exact absurd htype hc
    | other name => rfl
  case repaired =>
    intro v _ _ tenant subscription runtimeExists _ hst
    rw [hdeleted _ hst]
    exact ⟨by cases runtimeExists <;> rfl, fun _ _ _ => trivial⟩
  case expired =>
    intro _ _ st hst
    rw [hdeleted st hst]
    rfl
  case escalated =>
    intro _ st hst hnot
    rw [hdeleted st hst] at hnot
    exact absurd (by decide) hnot
  case retried => exact fun _ h => absurd h (hother _ (by decide))
  case asked =>
    intro status _ st hst hallowed
    rw [hs] at hst
    cases hst
    rcases hallowed with h | h
    · rw [← h]; rfl
    · cases h

theorem step_deleted_iff {w : World} {e : Event} {t : Nat} (hs : w.status t = some .deleted) :
    handledEvent w e t ≠ some .subscriptionCancelled ↔ (step w e).status t = some .deleted := by
  constructor
  · intro hc
    exact (Watch.step (W := deletedWatch t) ⟨hs, trivial⟩ (permits_deleted hs hc)).1
  · intro hdeleted hc
    rw [step_cancellation hc] at hdeleted
    cases hdeleted

/-- A deleted tenant stays deleted throughout a run if and only if no step of it is a cancellation of its subscription. -/
theorem deleted_is_final_iff {w : World} {t : Nat} (hs : w.status t = some .deleted) (es : List Event) :
    Steps step (fun w e => handledEvent w e t ≠ some .subscriptionCancelled) w es ↔
      Always step (fun w => w.status t = some .deleted) w es :=
  steps_iff_always (I := fun w : World => w.status t = some .deleted) (fun _ _ h => step_deleted_iff h) hs

/-- A tenant is deleted, and then the provider reports the end of its subscription. -/
def Small.deletion : List Op := [Small.createTenant, .deleteTenant 1] ++ Small.runTask 0 5

set_option maxRecDepth 100000 in
theorem cancellation_reopens_deleted :
    (Small.after Small.deletion).status 1 = some .deleted ∧
      ¬Always step (fun w => w.status 1 = some .deleted) (Small.after Small.deletion)
        (Small.events [Small.webhook .subscriptionCancelled "evt_1"]) :=
  ⟨by decide +kernel, by decide +kernel⟩

set_option maxRecDepth 100000 in
theorem deleted_is_final_iff_small :
    (Small.after Small.deletion).status 1 = some .deleted ∧
      (Steps step (fun w e => handledEvent w e 1 ≠ some .subscriptionCancelled) (Small.after Small.deletion)
          (Small.events [.dunningCycle false]) ↔
        Always step (fun w => w.status 1 = some .deleted) (Small.after Small.deletion)
          (Small.events [.dunningCycle false])) :=
  ⟨by decide +kernel, deleted_is_final_iff (by decide +kernel) _⟩

/-! ### A deletion that was asked for -/

/-- Where a tenant can be after its deletion was asked for. -/
def doomed : List TenantStatus := [.pendingDeletion, .deleting, .deleted, .failed, .suspendedBilling]

theorem hold_doomed : Hold doomed := by constructor <;> decide

/-- The tasks of a queue that provision a tenant. -/
def provisionings (queue : List Task) (t : Nat) : List Task := queue.filter fun task => task.provisions t

/-- The steps that take up a tenant again whose deletion was asked for: those that reactivate it, and a confirmed payment
that asks for the missing provisioning. -/
def takesUp (w : World) (e : Event) (t : Nat) : Prop :=
  reactivates w e t ∨ (handledEvent w e t = some .paymentConfirmed ∧ provisioningMissing w.db t = true)

instance (w : World) (e : Event) (t : Nat) : Decidable (takesUp w e t) := inferInstanceAs (Decidable (_ ∨ _))

/-- The tenant is doomed, and no further provisioning of it has been put on the queue. -/
def doomedWatch (t : Nat) (tasks : List Task) : Watch t where
  status st := ∃ s ∈ doomed, st = some s
  queue q := provisionings q t = tasks
  provisioning := False
  queue_append q task h hq := by
    have hnot : task.provisions t = false := by simpa using h
    simpa [provisionings, hnot] using hq

theorem permits_doomed {w : World} {e : Event} {t : Nat} {tasks : List Task}
    (hs : (doomedWatch t tasks).status (w.status t)) (hc : ¬takesUp w e t) : (doomedWatch t tasks).Permits w e := by
  obtain ⟨hreactivates, hpayment⟩ := not_or.1 hc
  exact permits_of_hold hold_doomed (fun _ => Iff.rfl) hs hreactivates fun htype hmissing => hpayment ⟨htype, hmissing⟩

/-- The tenant is on its way out, and `tasks` are all the provisionings of it that were ever put on the queue. -/
def StaysDeleted (t : Nat) (tasks : List Task) (w : World) : Prop :=
  (∀ st ∈ w.status t, st ∉ underway) ∧ provisionings w.queue t = tasks

instance (t : Nat) (tasks : List Task) : DecidablePred (StaysDeleted t tasks) := fun _ =>
  inferInstanceAs (Decidable (_ ∧ _))

theorem staysDeleted_of_doomed {w : World} {t : Nat} {tasks : List Task} (h : (doomedWatch t tasks).On w) :
    StaysDeleted t tasks w := by
  obtain ⟨⟨st, hst, hs⟩, hqueue⟩ := h
  refine ⟨fun st' hst' => ?_, hqueue⟩
  rw [hs] at hst'
  cases hst'
  exact hold_doomed.out st hst

/-- After a deletion was asked for, no run brings the tenant back or asks for its provisioning unless one of its steps
takes the tenant up again. -/
theorem deletion_not_undone {w : World} {t : Nat} {es : List Event} (hs : w.status t = some .pendingDeletion)
    (hc : Steps step (fun w e => ¬takesUp w e t) w es) :
    Always step (StaysDeleted t (provisionings w.queue t)) w es := by
  have hstep : ∀ w' e, (doomedWatch t (provisionings w.queue t)).On w' → ¬takesUp w' e t →
      (doomedWatch t (provisionings w.queue t)).On (step w' e) :=
    fun w' e h hnot => Watch.step h (permits_doomed h.1 hnot)
  have hstart : (doomedWatch t (provisionings w.queue t)).On w := ⟨⟨_, by decide, hs⟩, rfl⟩
  exact (Always.of_steps hstep hstart hc).mono fun _ => staysDeleted_of_doomed

/-- A tenant has paid, and its deletion is asked for. -/
def Small.deletionAsked : World :=
  Small.after [Small.createTenant, Small.webhook .paymentConfirmed "evt_1", .deleteTenant 1]

/-- The deletion task fails, and the owner asks for the provisioning to be retried. -/
def Small.retryAfterDeletion : List Event :=
  Small.events [.startTask 1, .taskPhase 0 (.ok ""), .taskPhase 0 (.ok ""),
    .taskPhase 0 (.error (.runtimeError "bench is down")), .taskPhase 0 (.ok ""), .taskPhase 0 (.ok ""),
    .taskPhase 0 (.ok ""), .retryProvisioning 1 "owner@example.com"]

set_option maxRecDepth 100000 in
theorem retry_undoes_deletion :
    Small.deletionAsked.status 1 = some .pendingDeletion ∧
      ¬Always step (StaysDeleted 1 (provisionings Small.deletionAsked.queue 1)) Small.deletionAsked
        Small.retryAfterDeletion ∧
      (run step Small.deletionAsked Small.retryAfterDeletion).status 1 = some .pending :=
  ⟨by decide +kernel, by decide +kernel, by decide +kernel⟩

set_option maxRecDepth 100000 in
theorem deletion_not_undone_small :
    Always step (StaysDeleted 1 (provisionings Small.deletionAsked.queue 1)) Small.deletionAsked
      (Small.events [Small.webhook .paymentFailed "evt_2", .reconciliationCycle]) :=
  deletion_not_undone (by decide +kernel) (by decide +kernel)

end ControlPlane
