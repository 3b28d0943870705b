import ControlPlane.Watch

/-!
# Cycles and tasks under a watch

What the scheduled cycles and the phases of a worker task need to leave a watch intact.  A cycle is judged visit by
visit, each from the session it finds.
-/

namespace ControlPlane

open Table Session Session.Proc

/-! ### Dunning, one visit -/

/-- Whether a visit of the dunning cycle suspends the tenant it comes to. -/
def escalationDue (env : Env) (now : Time) (tenantId : Nat) (s : DbSession) : Bool :=
  match s.work.tenant? tenantId with
  | none => false
  | some tenant =>
    let context := resolveDunningContext (env.erp s.tick) tenant (s.work.subscriptionOf tenantId)
    -- a reminder is committed first, so the runtime is looked up one tick later
    let tick := if context.nextRetryAt ≤ now then s.tick + 1 else s.tick
    dunningEscalates context tenant (s.work.subscriptionOf tenantId) (tenantRuntimeExists (env.erp tick) tenant) now

/-- The statuses from which the dunning cycle suspends no tenant. -/
def dunningExempt : List TenantStatus := [.suspendedBilling, .deleted, .deleting, .pendingDeletion]

theorem escalationDue_status {env : Env} {now : Time} {tenantId : Nat} {s : DbSession}
    (h : escalationDue env now tenantId s = true) :
    ∃ st, s.work.tenantStatus tenantId = some st ∧ st ∉ dunningExempt := by
  unfold escalationDue at h
  cases htenant : s.work.tenant? tenantId with
  | none =>
    rw [htenant] at h
    cases h
  | some tenant =>
    rw [htenant] at h
    unfold dunningEscalates at h
    exact ⟨tenant.status, Db.tenantStatus_of_tenant? htenant, (of_decide_eq_true h).2.1⟩

theorem recordAuditEvent_ok {env : Env} {action resource : String} {id : Option Nat} {s s' : DbSession}
    (h : recordAuditEvent env action resource id s = (.ok (), s')) (t : Nat) :
    s'.tick = s.tick + 1 ∧ s'.work.subscriptions = s.work.subscriptions ∧
      ∃ stamp : Tenant → Time, s'.work.tenant? t = (s.work.tenant? t).map fun r => { r with updatedAt := stamp r } := by
  unfold recordAuditEvent at h
  rw [bind_ok (utcnow_apply env s), bind_ok (modify_apply _ s), commit_apply] at h
  split at h
  · cases h
  · cases h
    exact ⟨rfl, rfl, Db.tenant?_flush _ _ _ t⟩

/-- A reminder changes nothing of its tenant but the time stamp. -/
theorem remindTenant_ok {env : Env} {due : Bool} {now : Time} {tenantId : Nat} {tenant : Tenant} {s s' : DbSession}
    (h : remindTenant env due now tenantId s = (.ok (), s')) (htenant : s.work.tenant? tenantId = some tenant) :
    s'.tick = (if due then s.tick + 1 else s.tick) ∧ s'.work.subscriptions = s.work.subscriptions ∧
      ∃ u, s'.work.tenant? tenantId = some { tenant with updatedAt := u } := by
  unfold remindTenant at h
  cases due with
  | false =>
    cases h
    exact ⟨rfl, rfl, tenant.updatedAt, htenant⟩
  | true =>
    rw [if_pos rfl, bind_ok (modify_apply _ s)] at h
    obtain ⟨htick, hsubs, stamp, hrow⟩ := recordAuditEvent_ok h tenantId
    refine ⟨htick, hsubs, stamp { tenant with updatedAt := now }, ?_⟩
    have htouched : (touchTenant tenantId now s.work).tenant? tenantId = some { tenant with updatedAt := now } :=
      get?_modify_self rfl htenant
    rw [hrow, htouched]
    rfl

namespace Watch

variable {t : Nat} {W : Watch t}

theorem holds_rollbackOnError {p : Proc Unit} {s : DbSession} (hp : W.Holds (p s).2) :
    W.Holds (rollbackOnError p s).2 :=
  Keeps.holds_attempt hp fun _ => Keeps.bind Keeps.rollback fun _ => Keeps.raise _

theorem kept_remindTenant (env : Env) (due : Bool) (now : Time) (tenantId : Nat) :
    W.Kept (remindTenant env due now tenantId) := by
  unfold remindTenant
  split
  · refine Keeps.bind (Keeps.modify fun db hdb => ?_) fun _ => W.kept_audit env _ _ _
    rw [touchTenant_tenantStatus]
    exact hdb
  · exact Keeps.pure ()

theorem holds_suspendIfEscalated {env : Env} {dryRun : Bool} {context : DunningContext} {now : Time} {tenantId : Nat}
    {s : DbSession} (hs : W.Holds s)
    (h : tenantId = t → dryRun = false → ∀ tenant, s.work.tenant? tenantId = some tenant →
      dunningEscalates context tenant (s.work.subscriptionOf tenantId) (tenantRuntimeExists (env.erp s.tick) tenant)
        now = true → W.status (some .suspendedBilling)) :
    W.Holds (suspendIfEscalated env dryRun context now tenantId s).2 := by
  unfold suspendIfEscalated
  rw [bind_ok (read_apply s), bind_ok (now_apply s)]
  cases hrow : s.work.tenant? tenantId with
  | none => exact hs
  | some tenant =>
    dsimp only
    split
    · rename_i hdue
      refine holds_bind (p := Session.Proc.modify _) ⟨?_, hs.2⟩ fun _ _ hs' => (W.kept_audit env _ _ _).holds hs'
      show W.status ((escalateTenant tenantId now s.work).tenantStatus t)
      rw [escalateTenant_tenantStatus]
      split
      · rename_i ht
        have hstatus : s.work.tenantStatus t = some tenant.status := by
          rw [ht]; exact Db.tenantStatus_of_tenant? hrow
        rw [hstatus]
        exact h ht.symm (by simpa using hdue.2) tenant hrow hdue.1
      · exact hs.1
    · exact hs

/-- A visit of the dunning cycle leaves the watch intact if the watch allows the suspension it comes to. -/
theorem holds_dunTenant {env : Env} {dryRun : Bool} {now : Time} {tenantId : Nat} {s : DbSession} (hs : W.Holds s)
    (h : tenantId = t → dryRun = false → escalationDue env now tenantId s = true →
      W.status (some .suspendedBilling)) :
    W.Holds (dunTenant env dryRun now tenantId s).2 := by
  unfold dunTenant
  rw [bind_ok (read_apply s), bind_ok (now_apply s)]
  cases htenant : s.work.tenant? tenantId with
  | none => exact hs
  | some tenant =>
    dsimp only
    generalize hcontext : resolveDunningContext (env.erp s.tick) tenant (s.work.subscriptionOf tenantId) = context
    have hremind := (W.kept_remindTenant env (decide (context.nextRetryAt ≤ now ∧ ¬dryRun)) now tenantId).holds hs
    rw [bind_apply]
    cases hr : remindTenant env (decide (context.nextRetryAt ≤ now ∧ ¬dryRun)) now tenantId s with
    | mk r s' =>
      rw [hr] at hremind
      cases r with
      | error e => exact hremind
      | ok u =>
        obtain ⟨htick, hsubs, stamp, hrow⟩ := remindTenant_ok hr htenant
        have hsub : s'.work.subscriptionOf tenantId = s.work.subscriptionOf tenantId := by
          unfold Db.subscriptionOf
          rw [hsubs]
        -- the reminder changed none of what the escalation looks at
        refine holds_suspendIfEscalated hremind fun ht hdry row hrow' hdue => h ht hdry ?_
        rw [hrow] at hrow'
        cases hrow'
        unfold escalationDue
        rw [htenant]
        dsimp only
        rw [hcontext]
        rw [htick, hsub, hdry] at hdue
        simp only [Bool.false_eq_true, not_false_eq_true, and_true, decide_eq_true_eq] at hdue
        exact hdue

/-! ### The cycles -/

theorem holds_runBillingDunningCycle {env : Env} {dryRun : Bool} {s : DbSession} (hs : W.Holds s)
    (h : dryRun = false →
      ∀ v ∈ visits (dunTenant env dryRun (env.clock s.tick)) (dunningCandidates (env.erp s.tick) s.work) s,
        v.1 = t → W.Holds v.2 → escalationDue env (env.clock s.tick) t v.2 = true →
          W.status (some .suspendedBilling)) :
    W.Holds (runBillingDunningCycle env dryRun s).2 := by
  unfold runBillingDunningCycle
  rw [bind_ok (utcnow_apply env s), bind_ok (now_apply s)]
  refine holds_rollbackOnError ?_
  rw [bind_ok (read_apply s)]
  refine holds_bind (forEach_keeps hs fun v hv hI => holds_dunTenant hI fun ht hdry hdue => ?_) fun _ s₁ hs₁ =>
    holds_bind ((W.kept_audit env _ _ _).holds hs₁) fun _ s₂ hs₂ => ?_
  · rw [ht] at hdue
    exact h hdry v hv ht hI hdue
  · split
    · exact hs₂
    · exact (W.kept_commit env).holds hs₂

theorem holds_runTrialLifecycleCycle {env : Env} {dryRun : Bool} {s : DbSession} (hs : W.Holds s)
    (h : ∀ st, W.status (some st) → W.status (some (trialExpiredStatus st))) :
    W.Holds (runTrialLifecycleCycle env dryRun s).2 := by
  have hcandidate : ∀ now id s, W.Holds s → W.Holds (trialCandidate env now id s).2 := by
    intro now id s hs
    refine holds_change hs fun expired db hf => ?_
    rcases expireTrial_ok hf with ⟨rfl, rfl⟩ | ⟨tenant, rfl, htenant, hmoved⟩
    · exact ⟨hs.1, fun hs' => hs'⟩
    · refine ⟨status_of_moved hs.1 htenant hmoved fun _ hst => h _ ?_, fun hs' => (W.kept_audit env _ _ _).holds hs'⟩
      rw [← hst]
      exact hs.1
  unfold runTrialLifecycleCycle
  rw [bind_ok (utcnow_apply env s)]
  split
  · exact hs
  · refine holds_rollbackOnError ?_
    rw [bind_ok (read_apply s)]
    exact holds_bind (forEach_keeps hs fun v _ hI => hcandidate _ v.1 v.2 hI) fun _ s₁ hs₁ =>
      (W.kept_commit env).holds hs₁

end Watch

/-! ### Reconciliation -/

/-- The invoices a tenant's reconciliation comes to, each with the session it finds. -/
def reconciliationVisits (env : Env) (tenantId : Nat) (invoiceId : Option Nat) (s : DbSession) :
    List (Nat × DbSession) :=
  match change env (syncForTenant tenantId 50) s with
  | (.ok _, s') =>
    visits (reconcileInvoiceSettlement env tenantId) (invoicesToReconcile s'.work tenantId invoiceId) s'
  | (.error _, _) => []

/-- The repair a visit of a reconciliation makes. -/
def visitRepair (env : Env) (tenantId : Nat) (v : Nat × DbSession) : Option (Tenant × Subscription × Bool) :=
  paidRepair tenantId v.1 (env.clock v.2.tick) (env.erp v.2.tick) v.2.work

/-- The tenants a reconciliation cycle comes to, each with the invoices and sessions of its reconciliation. -/
def cycleVisits (env : Env) (s : DbSession) : List (Nat × Nat × DbSession) :=
  (visits (reconcileCandidate env) (reconciliationCandidates s.work) s).flatMap fun v =>
    (reconciliationVisits env v.1 none v.2).map fun u => (v.1, u)

namespace Watch

variable {t : Nat} {W : Watch t}

/-- What the watch has to allow of a repair of the tenant, given that it holds before. -/
def AllowsRepair (W : Watch t) (s : DbSession) (repair : Option (Tenant × Subscription × Bool)) : Prop :=
  ∀ tenant subscription runtimeExists, repair = some (tenant, subscription, runtimeExists) →
    W.status (some tenant.status) →
    W.status (some (repairStatus tenant.status runtimeExists)) ∧
      (repairStatus tenant.status runtimeExists = .pending → runtimeExists = false →
        provisioningMissing s.work t = true → W.provisioning)

theorem holds_reconcileInvoiceSettlement {env : Env} {tenantId invoiceId : Nat} {s : DbSession} (hs : W.Holds s)
    (h : tenantId = t → W.AllowsRepair s (visitRepair env tenantId (invoiceId, s))) :
    W.Holds (reconcileInvoiceSettlement env tenantId invoiceId s).2 := by
  unfold reconcileInvoiceSettlement
  refine holds_change hs fun r db hf => ?_
  obtain ⟨result, email⟩ := r
  have heffect := reconcileInvoice_ok hf
  have hjobs : db.jobs = s.work.jobs ∧ W.status (db.tenantStatus t) ∧
      (tenantId = t → email ≠ none → provisioningMissing s.work t = true → W.provisioning) := by
    cases hrepair : paidRepair tenantId invoiceId (env.clock s.tick) (env.erp s.tick) s.work with
    | none =>
      rw [hrepair] at heffect
      obtain ⟨hemail, htenants, -, hjobs⟩ := heffect
      rw [Db.tenantStatus_congr htenants]
      exact ⟨hjobs, hs.1, fun _ hne => absurd hemail hne⟩
    | some repair =>
      obtain ⟨tenant, subscription, runtimeExists⟩ := repair
      rw [hrepair] at heffect
      obtain ⟨hmoved, -, hneeds⟩ := heffect
      have hbefore : tenantId = t → W.status (some tenant.status) := by
        rintro rfl
        rw [← Db.tenantStatus_of_tenant? (paidRepair_tenant hrepair)]
        exact hs.1
      refine ⟨hmoved.jobs, status_of_moved hs.1 (paidRepair_tenant hrepair) hmoved fun ht _ =>
        (h ht _ _ _ hrepair (hbefore ht)).1, fun ht hemail => ?_⟩
      exact (h ht _ _ _ hrepair (hbefore ht)).2 (hneeds hemail).1 (hneeds hemail).2
  refine ⟨hjobs.2.1, fun hs' => ?_⟩
  cases email with
  | none => exact holds_commit hs' fun s' hs'' _ => hs''
  | some address =>
    refine holds_bind (holds_enqueueProvisioning hs' fun ht hmissing => ?_) fun _ _ h => h
    refine hjobs.2.2 ht (by simp) ?_
    rw [← hmissing]
    exact (provisioningMissing_congr hjobs.1 t).symm

theorem holds_reconcileInvoices {env : Env} {tenantId : Nat} {ids : List Nat} {s : DbSession} (hs : W.Holds s)
    (h : tenantId = t → ∀ v ∈ visits (reconcileInvoiceSettlement env tenantId) ids s,
      W.AllowsRepair v.2 (visitRepair env tenantId v)) (summary : TenantBillingReconciliationResult) :
    W.Holds (reconcileInvoices env tenantId ids summary s).2 := by
  induction ids generalizing s summary with
  | nil => exact hs
  | cons id ids ih =>
    have hhead := holds_reconcileInvoiceSettlement hs fun ht => h ht (id, s) (List.mem_cons_self ..)
    unfold reconcileInvoices
    rw [bind_apply]
    cases hr : reconcileInvoiceSettlement env tenantId id s with
    | mk r s' =>
      rw [hr] at hhead
      cases r with
      | error e => exact hhead
      | ok outcome =>
        refine ih hhead (fun ht v hv => h ht v ?_) _
        rw [visits, hr]
        exact List.mem_cons_of_mem _ hv

/-- A tenant's reconciliation leaves the watch intact if the watch allows the repair of every visit. -/
theorem holds_reconcileTenantBilling {env : Env} {tenantId : Nat} {invoiceId : Option Nat} {s : DbSession}
    (hs : W.Holds s)
    (h : tenantId = t → ∀ v ∈ reconciliationVisits env tenantId invoiceId s,
      W.AllowsRepair v.2 (visitRepair env tenantId v)) :
    W.Holds (reconcileTenantBilling env tenantId invoiceId s).2 := by
  have hsync : W.Holds (change env (syncForTenant tenantId 50) s).2 := by
    refine (kept_change fun now client db u db' hf => ?_).holds hs
    obtain ⟨accounts, invoices, rfl⟩ := syncForTenant_frame hf
    rfl
  unfold reconciliationVisits at h
  unfold reconcileTenantBilling
  rw [bind_apply]
  cases hr : change env (syncForTenant tenantId 50) s with
  | mk r s' =>
    rw [hr] at h hsync
    cases r with
    | error e => exact hsync
    | ok u =>
      dsimp only
      rw [bind_ok (read_apply s')]
      exact holds_reconcileInvoices hsync h _

theorem holds_runBillingReconciliationCycle {env : Env} {s : DbSession} (hs : W.Holds s)
    (h : ∀ v ∈ cycleVisits env s, v.1 = t → W.AllowsRepair v.2.2 (visitRepair env t v.2)) :
    W.Holds (runBillingReconciliationCycle env s).2 := by
  refine holds_rollbackOnError ?_
  rw [bind_ok (read_apply s)]
  refine holds_bind (forEach_keeps hs fun v hv hI => ?_) fun _ s₁ hs₁ =>
    holds_bind ((W.kept_audit env _ _ _).holds hs₁) fun _ s₂ hs₂ => (W.kept_commit env).holds hs₂
  refine Keeps.holds_attempt (holds_bind (holds_reconcileTenantBilling hI fun ht u hu => ?_) fun _ _ h => h) fun _ =>
    Keeps.rollback
  have hvisit := h (v.1, u) (List.mem_flatMap.2 ⟨v, hv, List.mem_map_of_mem hu⟩) ht
  rw [ht]
  exact hvisit

end Watch

/-! ### Tasks -/

/-- The status a phase of a task asks for its tenant. -/
def Phase.movesTo (phase : Phase) (task : Task) : Option TenantStatus :=
  match phase with
  | .enter => task.enterStatus
  | .complete _ => task.completeStatus
  | .marking error => task.failStatus error
  | _ => none

theorem failStatus_eq_or {task : Task} {error : PyError} {status : TenantStatus}
    (h : task.failStatus error = some status) : status = .failed ∨ status = .deleted := by
  unfold Task.failStatus at h
  split at h
  · cases h
  · split at h
    · cases h; exact Or.inr rfl
    · cases h; exact Or.inl rfl
  · cases h; exact Or.inl rfl

namespace Watch

variable {t : Nat} {W : Watch t}

theorem holds_moveTenant {env : Env} {task : Task} {customerId : Option String} {status : Option TenantStatus}
    {stamp : Bool} {s : DbSession} (hs : W.Holds s)
    (h : task.tenantId = t → ∀ new ∈ status, ∀ st, s.work.tenantStatus t = some st → Allowed st new →
      W.status (some new)) :
    W.Holds (moveTenant env task customerId status stamp s).2 := by
  unfold moveTenant
  refine holds_change hs fun outcome db hf => ⟨?_, fun hs' => ?_⟩
  · split at hf
    · cases hf; exact hs.1
    · cases hf
    · rename_i new tenant htenant
      split at hf
      · rename_i moved hmoved
        obtain ⟨hallowed, rfl⟩ := transitionTenantStatus_ok hmoved
        cases hf
        refine status_of_moved hs.1 htenant ⟨_, rfl, rfl, rfl, rfl⟩ fun ht hst => h ht new rfl _ hst hallowed
      · cases hf; exact hs.1
  · cases outcome with
    | none => exact holds_commit hs' fun s' hs'' _ => hs''
    | some e => exact hs'

theorem kept_loadEntities (env : Env) (task : Task) :
    W.Kept (change env fun _ _ db => do return (← loadEntities db task, db)) := by
  refine kept_change fun now client db r db' h => ?_
  obtain ⟨entities, -, h⟩ := bind_eq_ok.1 h
  cases h
  rfl

/-- A phase of a task leaves the watch intact if the watch allows the status it asks for. -/
theorem holds_taskPhase {env : Env} {task : Task} {phase : Phase} {outside : Except PyError String} {s : DbSession}
    (hs : W.Holds s)
    (h : task.tenantId = t → ∀ new ∈ phase.movesTo task, ∀ st, s.work.tenantStatus t = some st → Allowed st new →
      W.status (some new)) :
    W.Holds (taskPhase env task phase outside s).2 := by
  -- the job and the audit entry are none of what is watched, so only the moves of the tenant count
  have hjob : ∀ f s, W.Holds s → W.Holds (updateJob env task f s).2 := fun f s hs =>
    (kept_of_bookkeeping (.updateJob env task f)).holds hs
  have haudit : ∀ stage s, W.Holds s →
      W.Holds (recordAuditEvent env (task.auditAction stage) "tenants" (some task.tenantId) s).2 := fun stage s hs =>
    (W.kept_audit env _ _ _).holds hs
  unfold taskPhase
  cases phase with
  | begin =>
    exact holds_bind ((kept_loadEntities env task).holds hs) fun _ s₁ hs₁ => holds_bind (hjob _ s₁ hs₁) fun _ _ h => h
  | enter =>
    refine holds_bind (holds_moveTenant hs h) fun outcome s₁ hs₁ => ?_
    cases outcome with
    | none => exact hs₁
    | some e => exact hs₁
  | work =>
    refine holds_bind ((kept_of_bookkeeping (.recordStart env task)).holds hs) fun _ s₁ hs₁ => ?_
    rw [bind_ok (read_apply s₁)]
    cases manifestFound s₁.work task with
    | false => exact hs₁
    | true =>
      cases outside with
      | error e => exact hs₁
      | ok result => exact holds_bind ((kept_of_bookkeeping (.addManifest env task result)).holds hs₁) fun _ _ hs₂ => hs₂
  | complete result =>
    refine holds_bind (holds_moveTenant hs h) fun outcome s₁ hs₁ => ?_
    cases outcome with
    | none => exact hs₁
    | some e => exact hs₁
  | close =>
    refine holds_bind (hjob _ s hs) fun _ s₁ hs₁ => ?_
    split
    · exact hs₁
    · exact holds_bind (haudit _ s₁ hs₁) fun _ _ h => h
  | failing error dirtyCustomerId =>
    refine holds_bind ((kept_loadEntities env task).holds hs) fun _ s₁ hs₁ =>
      holds_bind (p := Session.Proc.modify _) ⟨?_, hs₁.2⟩ fun _ s₂ hs₂ => holds_commit hs₂ fun s' hs' _ => hs'
    show W.status ((s₁.work.modifyTenant task.tenantId _).tenantStatus t)
    rw [Db.tenantStatus_modifyTenant]
    · split
      · exact hs₁.1
      · exact hs₁.1
    · exact fun _ => rfl
  | marking error =>
    refine holds_bind (holds_moveTenant hs h) fun outcome s₁ hs₁ => ?_
    cases outcome with
    | none => exact hs₁
    | some e => exact hs₁
  | closing error =>
    dsimp only
    split
    · exact holds_bind (p := markJobSuccess env task) (hjob _ s hs) fun _ s₁ hs₁ =>
        holds_bind (haudit _ s₁ hs₁) fun _ _ hs₂ => hs₂
    · exact holds_bind (p := markJobFailed env task error) (hjob _ s hs) fun _ s₁ hs₁ =>
        holds_bind (haudit _ s₁ hs₁) fun _ _ hs₂ => hs₂
  | refused error =>
    exact holds_bind ((kept_loadEntities env task).holds hs) fun _ s₁ hs₁ =>
      holds_bind (p := markJobFailed env task error) (hjob _ s₁ hs₁) fun _ _ hs₂ => hs₂

end Watch

end ControlPlane
