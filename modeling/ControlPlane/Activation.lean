import ControlPlane.Permits

/-!
# Active means provisioned

A tenant can be suspended before it was ever provisioned, and the two ways out of a suspension, an unsuspension and a
payment, go straight to `active`.  Apart from these two, a tenant that was never provisioned cannot come into service:
the invariant is on its status and on the tasks of it that are running.
-/

namespace ControlPlane

open Table Session Session.Proc Runs

/-! ### Where a task can go next -/

/-- A task that moved its tenant found it in a status from which the table allows the move. -/
theorem moveTenant_none {env : Env} {task : Task} {customerId : Option String} {status : Option TenantStatus}
    {stamp : Bool} {s : DbSession} (h : (moveTenant env task customerId status stamp s).1 = .ok none) :
    ∀ new ∈ status, ∃ st, s.work.tenantStatus task.tenantId = some st ∧ Allowed st new := by
  intro new hnew
  obtain rfl : status = some new := hnew
  unfold moveTenant at h
  rw [change_bind] at h
  cases htenant : s.work.tenant? task.tenantId with
  | none =>
    rw [htenant] at h
    cases h
  | some tenant =>
    rw [htenant] at h
    refine ⟨tenant.status, Db.tenantStatus_of_tenant? htenant, ?_⟩
    cases hmoved : transitionTenantStatus tenant new with
    | ok moved => exact (transitionTenantStatus_ok hmoved).1
    | error e =>
      dsimp only at h
      rw [hmoved] at h
      cases h

/-! ### The invariant -/

/-- The statuses of a tenant in service. -/
def inService : List TenantStatus := [.active, .upgrading, .restoring]

/-- Whether a running task is past its outside work, or a restore past its first check, and so may make its tenant
active. -/
def RunningTask.activates (running : RunningTask) : Bool :=
  match running.task, running.phase with
  | .provisionTenant .., .complete _ => true
  | .restoreTenant .., .work => true
  | .restoreTenant .., .complete _ => true
  | _, _ => false

/-- The tenant is not in service, and no running task of it is about to put it there. -/
structure OutOfService (t : Nat) (w : World) : Prop where
  status : ∀ st ∈ w.status t, st ∉ inService
  running : ∀ running ∈ w.running, running.task.tenantId = t → running.activates = false

/-- The steps that make a tenant active that was never provisioned: an unsuspension that the table allows, and a
confirmed payment that lifts a billing suspension. -/
def activatesUnprovisioned (w : World) (e : Event) (t : Nat) : Prop :=
  t ∉ w.provisioned ∧
    ((e.op.unsuspends t = true ∧ (w.status t).any (fun st => Allowed st .active) = true) ∨
      (handledEvent w e t = some .paymentConfirmed ∧ w.status t = some .suspendedBilling))

instance (w : World) (e : Event) (t : Nat) : Decidable (activatesUnprovisioned w e t) :=
  inferInstanceAs (Decidable (_ ∧ _))

/-- The reconciliations of a step see a runtime of the tenant only if it was provisioned. -/
def runtimesProvisioned (w : World) (e : Event) (t : Nat) : Prop :=
  ∀ repair ∈ repairs w e t, repair.2.2 = true → t ∈ w.provisioned

instance (w : World) (e : Event) (t : Nat) : Decidable (runtimesProvisioned w e t) :=
  inferInstanceAs (Decidable (∀ repair ∈ repairs w e t, _))

private theorem out_paid : ∀ st, st ∉ inService → st ≠ .suspendedBilling → paidStatus st ∉ inService := by decide

private theorem out_unpaid : ∀ st, st ∉ inService → paymentFailedStatus st ∉ inService := by decide

private theorem out_repair : ∀ st, st ∉ inService → repairStatus st false ∉ inService := by decide

private theorem out_expired : ∀ st, st ∉ inService → trialExpiredStatus st ∉ inService := by decide

private theorem out_restoring : ∀ st, st ∉ inService → ¬Allowed st .restoring := by decide

/-- A task that asks for a status in service is one that may activate its tenant, or a restore at its first check. -/
theorem movesTo_inService {running : RunningTask} {status : TenantStatus}
    (h : running.phase.movesTo running.task = some status) (hs : status ∈ inService) :
    status = .restoring ∨ running.activates = true := by
  obtain ⟨task, phase⟩ := running
  cases phase with
  | enter =>
    cases task with
    | provisionTenant => cases h; exact absurd hs (by decide)
    | backupTenant => cases h
    | restoreTenant => cases h; exact Or.inl rfl
    | deleteTenant => cases h; exact absurd hs (by decide)
  | complete =>
    cases task with
    | provisionTenant => exact Or.inr rfl
    | backupTenant => cases h
    | restoreTenant => exact Or.inr rfl
    | deleteTenant => cases h; exact absurd hs (by decide)
  | marking error =>
    rcases failStatus_eq_or h with rfl | rfl
    · exact absurd hs (by decide)
    · exact absurd hs (by decide)
  | _ => cases h

/-- The tenant is not in service. -/
def outOfServiceWatch (t : Nat) : Watch t := .ofStatus t fun status => ∀ st ∈ status, st ∉ inService

private theorem asked_out {w : World} {e : Event} {t : Nat} (hw : OutOfService t w) (ht : t ∉ w.provisioned)
    (hc : ¬activatesUnprovisioned w e t) {status st : TenantStatus} (h : askedStatus w e = some (t, status))
    (hst : st ∈ w.status t) (hallowed : Allowed st status) : status ∉ inService := by
  obtain ⟨env, op⟩ := e
  cases op with
  | deleteTenant => cases h; decide
  | suspendTenant => cases h; decide
  | unsuspendTenant tenantId =>
    cases h
    refine absurd ⟨ht, Or.inl ⟨decide_eq_true rfl, ?_⟩⟩ hc
    rw [Option.any_eq_true]
    exact ⟨st, hst, decide_eq_true hallowed⟩
  | taskPhase index outside =>
    obtain ⟨running, hrow, h⟩ := Option.bind_eq_some_iff.1 h
    obtain ⟨new, hmoves, heq⟩ := Option.map_eq_some_iff.1 h
    cases heq
    intro hs
    rcases movesTo_inService hmoves hs with rfl | hactivates
    · exact out_restoring st (hw.status st hst) hallowed
    · rw [hw.running running (List.mem_of_getElem? hrow) rfl] at hactivates
      cases hactivates
  | _ => cases h

theorem permits_outOfService {w : World} {e : Event} {t : Nat} (hw : OutOfService t w) (ht : t ∉ w.provisioned)
    (hc : ¬activatesUnprovisioned w e t) (hr : runtimesProvisioned w e t) : (outOfServiceWatch t).Permits w e := by
  have hsome : ∀ {st}, st ∉ inService → (outOfServiceWatch t).status (some st) := by
    intro st hst st' hst'
    cases hst'
    exact hst
  have hnot : ∀ {st}, (outOfServiceWatch t).status (some st) → st ∉ inService := fun h => h _ rfl
  constructor
  case created => exact fun _ _ => ⟨hsome (by decide), fun _ _ _ => hsome (by decide)⟩
  case renewed => exact fun _ _ => hsome (by decide)
  case handled =>
    intro eventType htype st hst
    have hout := hw.status st hst
    refine ⟨hsome ?_, fun _ _ => trivial⟩
    cases eventType with
    | paymentConfirmed =>
      refine out_paid st hout ?_
      rintro rfl
      exact hc ⟨ht, Or.inr ⟨htype, hst⟩⟩
    | paymentFailed => exact out_unpaid st hout
    | subscriptionCancelled => exact of_decide_eq_false rfl
    | other name => exact hout
  case repaired =>
    intro v hv hid tenant subscription runtimeExists hrepair hbefore
    have hruntime : runtimeExists = false := by
      cases runtimeExists with
      | false => rfl
      | true => exact absurd (hr _ (mem_repairs hv hid hrepair) rfl) ht
    rw [hruntime]
    exact ⟨hsome (out_repair _ (hnot hbefore)), fun _ _ _ => trivial⟩
  case expired => exact fun _ _ st hst => hsome (out_expired st (hnot hst))
  case escalated => exact fun _ _ _ _ => hsome (by decide)
  case retried => exact fun _ _ => ⟨hsome (by decide), fun _ => trivial⟩
  case asked => exact fun status h st hst hallowed => hsome (asked_out hw ht hc h hst hallowed)

/-! ### Steps and runs -/

/-- A task that takes a phase of its own to one in which it may activate its tenant has completed the provisioning, or
found the tenant in service. -/
theorem activates_next {env : Env} {running : RunningTask} {next : Phase} {outside : Except PyError String}
    {s : DbSession} (hout : ∀ st ∈ s.work.tenantStatus running.task.tenantId, st ∉ inService)
    (hnot : running.activates = false)
    (h : (taskPhase env running.task running.phase outside s).1 = .ok (some next))
    (hnext : RunningTask.activates { running with phase := next } = true) :
    completesProvisioning running (.ok (some next)) = true := by
  have hprecedes := taskPhase_precedes h
  obtain ⟨task, phase⟩ := running
  cases task with
  | provisionTenant =>
    cases next with
    | complete result =>
      cases phase with
      | work => rfl
      | _ => cases hprecedes
    | _ => cases hnext
  | restoreTenant =>
    cases next with
    | work =>
      cases phase with
      | enter =>
        obtain ⟨outcome, s', hmove, hok⟩ := of_bind_ok h
        cases outcome with
        | none =>
          obtain ⟨st, hst, hrestoring⟩ := moveTenant_none (congrArg Prod.fst hmove) .restoring rfl
          exact absurd hrestoring (out_restoring st (hout st hst))
        | some e => cases hok
      | _ => cases hprecedes
    | complete result =>
      cases phase with
      | work => cases hnot
      | _ => cases hprecedes
    | _ => cases hnext
  | _ => cases hnext

private theorem running_advance {w : World} {env : Env} {index : Nat} {outside : Except PyError String} {t : Nat}
    (hw : OutOfService t w) :
    t ∈ (advanceTask w env index outside).provisioned ∨
      ∀ running ∈ (advanceTask w env index outside).running, running.task.tenantId = t → running.activates = false := by
  unfold advanceTask
  cases hrow : w.running[index]? with
  | none => exact Or.inr hw.running
  | some running =>
    have hmem := List.mem_of_getElem? hrow
    dsimp only
    cases hresult : (taskPhase env running.task running.phase outside (opened w.db w.queue)).1 with
    | error e => exact Or.inr fun r hr => hw.running r (List.mem_of_mem_eraseIdx hr)
    | ok next? =>
      cases next? with
      | none => exact Or.inr fun r hr => hw.running r (List.mem_of_mem_eraseIdx hr)
      | some next =>
        by_cases ht : running.task.tenantId = t
        · cases hactivates : RunningTask.activates { running with phase := next } with
          | true =>
            subst ht
            rw [activates_next (s := opened w.db w.queue) hw.status (hw.running running hmem rfl) hresult hactivates]
            exact Or.inl (List.mem_cons_self ..)
          | false =>
            refine Or.inr fun r hr hid => ?_
            rcases List.mem_or_eq_of_mem_set hr with hr | rfl
            · exact hw.running r hr hid
            · exact hactivates
        · refine Or.inr fun r hr hid => ?_
          rcases List.mem_or_eq_of_mem_set hr with hr | rfl
          · exact hw.running r hr hid
          · exact absurd hid ht

theorem step_outOfService {w : World} {e : Event} {t : Nat} (hw : OutOfService t w) (ht : t ∉ w.provisioned)
    (hc : ¬activatesUnprovisioned w e t) (hr : runtimesProvisioned w e t) :
    t ∈ (step w e).provisioned ∨ OutOfService t (step w e) := by
  have hstatus : (outOfServiceWatch t).On (step w e) :=
    Watch.step ⟨hw.status, trivial⟩ (permits_outOfService hw ht hc hr)
  have hrunning : t ∈ (step w e).provisioned ∨
      ∀ running ∈ (step w e).running, running.task.tenantId = t → running.activates = false := by
    obtain ⟨env, op⟩ := e
    cases op with
    | startTask entry =>
      refine Or.inr ?_
      unfold step
      dsimp only
      cases w.queue[entry]? with
      | none => exact hw.running
      | some task =>
        intro r hr hid
        rcases List.mem_append.1 hr with hr | hr
        · exact hw.running r hr hid
        · obtain rfl := List.mem_singleton.1 hr
          cases task <;> rfl
    | taskPhase index outside => exact running_advance hw
    | _ => exact Or.inr hw.running
  exact hrunning.imp_right fun h => ⟨hstatus.1, h⟩

theorem provisioned_mono {w : World} {e : Event} {t : Nat} (ht : t ∈ w.provisioned) : t ∈ (step w e).provisioned := by
  obtain ⟨env, op⟩ := e
  cases op with
  | startTask entry =>
    unfold step
    dsimp only
    split
    · exact ht
    · exact ht
  | taskPhase index outside =>
    unfold step advanceTask
    dsimp only
    split
    · exact ht
    · dsimp only
      split
      · exact List.mem_cons_of_mem _ ht
      · exact ht
  | _ => exact ht

/-- In a run that starts before the tenant is created, the tenant is active only after its provisioning has completed,
unless a step activates it unprovisioned. -/
theorem active_is_provisioned {w : World} {t : Nat} {es : List Event} (hnew : w.status t = none)
    (hidle : ∀ running ∈ w.running, running.task.tenantId ≠ t)
    (hr : Steps step (fun w e => runtimesProvisioned w e t) w es)
    (hc : Steps step (fun w e => ¬activatesUnprovisioned w e t) w es) :
    Always step (fun w => w.status t = some .active → t ∈ w.provisioned) w es := by
  have hstep : ∀ w' e, t ∈ w'.provisioned ∨ OutOfService t w' →
      runtimesProvisioned w' e t ∧ ¬activatesUnprovisioned w' e t →
      t ∈ (step w' e).provisioned ∨ OutOfService t (step w' e) := by
    rintro w' e hI ⟨hruntimes, hnot⟩
    by_cases ht : t ∈ w'.provisioned
    · exact Or.inl (provisioned_mono ht)
    · exact step_outOfService (hI.resolve_left ht) ht hnot hruntimes
  have hstart : t ∈ w.provisioned ∨ OutOfService t w := by
    refine Or.inr ⟨fun st hst => ?_, fun r hr' hid => absurd hid (hidle r hr')⟩
    rw [hnew] at hst
    cases hst
  refine (Always.of_steps hstep hstart (hr.and hc)).mono fun w' h hactive => ?_
  rcases h with h | h
  · exact h
  · exact absurd (by decide) (h.status _ hactive)

/-- A new tenant is suspended and unsuspended by an administrator. -/
def Small.unsuspension : List Event := Small.events [Small.createTenant, .suspendTenant 1, .unsuspendTenant 1]

set_option maxRecDepth 100000 in
theorem unsuspension_activates_unprovisioned :
    Small.world.status 1 = none ∧ Small.world.running = [] ∧
      Steps step (fun w e => runtimesProvisioned w e 1) Small.world Small.unsuspension ∧
      ¬Always step (fun w => w.status 1 = some .active → 1 ∈ w.provisioned) Small.world Small.unsuspension :=
  ⟨by decide +kernel, rfl, by decide +kernel, by decide +kernel⟩

set_option maxRecDepth 100000 in
theorem active_is_provisioned_small :
    Always step (fun w => w.status 1 = some .active → 1 ∈ w.provisioned) Small.world
        (Small.events ([Small.createTenant, Small.webhook .paymentConfirmed "evt_1"] ++ Small.runTask 0 5)) ∧
      (Small.after ([Small.createTenant, Small.webhook .paymentConfirmed "evt_1"] ++ Small.runTask 0 5)).status 1 =
        some .active :=
  ⟨active_is_provisioned (by decide +kernel) (by decide) (by decide +kernel) (by decide +kernel), by decide +kernel⟩

end ControlPlane
