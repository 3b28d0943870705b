import ControlPlane.Permits

/-!
# The calls that provision a paid tenant

`enqueue_provisioning_for_paid_tenant` is called by the handler of a confirmed payment, by the repair of a
reconciliation and by the retry of a failed provisioning.  The repair asks first whether the tenant is `pending` and
the retry moves it there; the handler of the payment calls it whatever the tenant's status is.
-/

namespace ControlPlane

open Table Session Session.Proc Runs

/-- A call of `enqueue_provisioning_for_paid_tenant`: the tenant, and the session as it is then. -/
structure ProvisioningCall where
  tenantId : Nat
  session : DbSession

/-- The tenant's status at the call. -/
def ProvisioningCall.status (call : ProvisioningCall) : Option TenantStatus :=
  call.session.work.tenantStatus call.tenantId

/-- Whether `enqueue_provisioning_for_paid_tenant` creates a job or puts one on the queue: there is no live create job
and the commit of the new one goes through, or the live one never got onto the queue and the queue takes it. -/
def provisioningDue (env : Env) (db : Db) (tenantId tick : Nat) : Bool :=
  match liveCreateJob db tenantId with
  | none => !env.commitFails tick
  | some job => job.status = .queued ∧ job.rqJobId = none ∧ ¬env.queueFails tick

/-- The call creates a job or puts one on the queue. -/
def ProvisioningCall.provisions (env : Env) (call : ProvisioningCall) : Bool :=
  provisioningDue env call.session.work call.tenantId call.session.tick

/-! ### The three callers -/

/-- The call of `handle_payment_confirmed`, which comes after its commit. -/
def confirmationCall (env : Env) (provider : String) (event : WebhookEvent) (s : DbSession) :
    Option ProvisioningCall :=
  match change env (confirmPayment provider event) s with
  | (.ok (.changed tenantId _), s') =>
    match commit env s' with
    | (.ok _, s'') => some ⟨tenantId, s''⟩
    | _ => none
  | _ => none

/-- The call of `retry_tenant_provisioning`, which comes after its commit. -/
def retryCall (env : Env) (tenantId : Nat) (s : DbSession) : Option ProvisioningCall :=
  match change env (prepareRetry tenantId) s with
  | (.ok _, s') =>
    match commit env s' with
    | (.ok _, s'') => some ⟨tenantId, s''⟩
    | _ => none
  | _ => none

/-- The call of `reconcile_invoice_settlement`, before which nothing is committed. -/
def repairCall (env : Env) (tenantId invoiceId : Nat) (s : DbSession) : Option ProvisioningCall :=
  match change env (reconcileInvoice tenantId invoiceId) s with
  | (.ok (_, some _), s') => some ⟨tenantId, s'⟩
  | _ => none

/-- The session in which a delivered event is handled. -/
def handlerSession (w : World) (env : Env) (delivery : WebhookDelivery) (event : WebhookEvent) (tick : Nat) :
    DbSession :=
  quiet w.db (markedOutbox env.settings (delivery.provider env) event w.db) w.queue tick

/-- The calls a step comes to. -/
def provisioningCalls (w : World) (e : Event) : List ProvisioningCall :=
  match e.op with
  | .webhook delivery =>
    match deliveredEvent e.env w.db delivery with
    | some (event, tick) =>
      if event.eventType = .paymentConfirmed then
        (confirmationCall e.env (delivery.provider e.env) event (handlerSession w e.env delivery event tick)).toList
      else
        []
    | none => []
  | .retryProvisioning tenantId _ => (retryCall e.env tenantId (opened w.db w.queue)).toList
  | _ => (reconciliations w e).filterMap fun v => repairCall e.env v.1 v.2.1 v.2.2

/-! ### What a call does -/

/-- A call that is not due commits nothing and puts nothing on the queue. -/
theorem enqueueProvisioning_of_not_due {env : Env} {tenantId : Nat} {s : DbSession} (ownerEmail : String)
    (h : provisioningDue env s.work tenantId s.tick = false) :
    (enqueueProvisioningForPaidTenant env tenantId ownerEmail s).2.saved = s.saved ∧
      (enqueueProvisioningForPaidTenant env tenantId ownerEmail s).2.outside = s.outside ∧
      ((enqueueProvisioningForPaidTenant env tenantId ownerEmail s).2.work = s.work ∨
        (enqueueProvisioningForPaidTenant env tenantId ownerEmail s).2.work = s.saved) := by
  unfold provisioningDue at h
  unfold enqueueProvisioningForPaidTenant
  rw [bind_ok (read_apply s)]
  cases hlive : liveCreateJob s.work tenantId with
  | none =>
    rw [hlive] at h
    have hcommit : env.commitFails s.tick = true := by simpa using h
    dsimp only
    rw [bind_apply, addJob_apply]
    dsimp only
    rw [if_pos hcommit]
    exact ⟨rfl, rfl, Or.inr rfl⟩
  | some job =>
    rw [hlive] at h
    dsimp only at h ⊢
    split
    · rename_i hqueued
      -- the job waits for the queue, so it is the queue that refuses it
      have hrefused : env.queueFails s.tick = true := by simpa [hqueued] using h
      rw [bind_apply, enqueueJob_apply]
      dsimp only
      rw [if_pos hrefused]
      exact ⟨rfl, rfl, Or.inl rfl⟩
    · exact ⟨rfl, rfl, Or.inl rfl⟩

/-! ### What the callers make sure of -/

/-- The handler of a confirmed payment that comes to its call goes on with it. -/
theorem handlePaymentConfirmed_of_call {env : Env} {provider : String} {event : WebhookEvent} {s : DbSession}
    {call : ProvisioningCall} (h : confirmationCall env provider event s = some call) :
    ∃ email, handlePaymentConfirmed env provider event s = (do
      let _ ← enqueueProvisioningForPaidTenant env call.tenantId email
      recordAuditEvent env "billing.payment_succeeded" "tenants" (some call.tenantId)
      return "processed:payment.confirmed" : Proc String) call.session := by
  unfold confirmationCall at h
  split at h
  · rename_i tenantId email s' hchange
    split at h
    · rename_i u s'' hcommit
      cases h
      refine ⟨email.getD "", ?_⟩
      unfold handlePaymentConfirmed
      rw [bind_ok hchange]
      dsimp only
      rw [bind_ok hcommit]
    · cases h
  · cases h

/-- The payment of a tenant is confirmed whatever its status is: at the call it has the status of a paid tenant. -/
theorem confirmationCall_some {env : Env} {provider : String} {event : WebhookEvent} {s : DbSession}
    {call : ProvisioningCall} (htype : event.eventType = .paymentConfirmed)
    (h : confirmationCall env provider event s = some call) :
    env.commitFails s.tick = false ∧
      (∃ email db, confirmPayment provider event (env.clock s.tick) (env.erp s.tick) s.work =
        .ok (.changed call.tenantId email, db)) ∧
      ∃ tenant, s.work.tenant? call.tenantId = some tenant ∧ call.status = some (paidStatus tenant.status) ∧
        call.session.work.jobs = s.work.jobs ∧ call.session.tick = s.tick + 1 := by
  unfold confirmationCall at h
  rw [change_apply] at h
  cases hconfirm : confirmPayment provider event (env.clock s.tick) (env.erp s.tick) s.work with
  | error e =>
    rw [hconfirm] at h
    cases h
  | ok r =>
    obtain ⟨handled, db⟩ := r
    rw [hconfirm] at h
    cases handled with
    | ignored message => cases h
    | changed tenantId email =>
      dsimp only at h
      rw [commit_apply] at h
      cases hcommit : env.commitFails s.tick with
      | true =>
        dsimp only at h
        rw [if_pos hcommit] at h
        cases h
      | false =>
        dsimp only at h
        rw [if_neg (by simp [hcommit])] at h
        cases h
        -- the call comes after the commit, so its session starts from what was committed
        have hbody : eventBody provider event (env.clock s.tick) (env.erp s.tick) s.work =
            .ok (.changed tenantId email, db) := by
          unfold eventBody
          rw [htype]
          exact hconfirm
        obtain ⟨tenant, htenant, rfl, -, -, hmoved⟩ := eventBody_changed hbody
        rw [htype] at hmoved
        have hrow := eventTenant_row htenant
        refine ⟨rfl, ⟨email, db, rfl⟩, tenant, hrow, ?_, hmoved.jobs, rfl⟩
        unfold ProvisioningCall.status
        dsimp only
        rw [Db.tenantStatus_flush, hmoved.tenantStatus, if_pos rfl, Db.tenantStatus_of_tenant? hrow]
        rfl

/-- A retry that comes to its call goes on with it, for a tenant it has moved to `pending`. -/
theorem retryCall_some {env : Env} {tenantId : Nat} {s : DbSession} {call : ProvisioningCall}
    (h : retryCall env tenantId s = some call) :
    (∀ email, retryTenantProvisioning env tenantId email s = (do
      let _ ← enqueueProvisioningForPaidTenant env tenantId email
      recordAuditEvent env "tenant.retry_provisioning" "tenants" (some tenantId) : Proc Unit) call.session) ∧
      call.tenantId = tenantId ∧ call.status = some .pending ∧ call.session.work.jobs = s.work.jobs := by
  unfold retryCall at h
  split at h
  · rename_i u s' hchange
    split at h
    · rename_i u' s'' hcommit
      cases h
      refine ⟨fun email => ?_, rfl, ?_⟩
      · unfold retryTenantProvisioning
        rw [bind_ok hchange]
        rw [bind_ok hcommit]
      · rw [change_apply] at hchange
        split at hchange
        · rename_i u₁ db hprepare
          cases hchange
          obtain ⟨tenant, htenant, -, hmoved⟩ := prepareRetry_ok hprepare
          have hid := Db.tenant?_id htenant
          rw [commit_apply] at hcommit
          split at hcommit
          · cases hcommit
          · cases hcommit
            refine ⟨?_, hmoved.jobs⟩
            unfold ProvisioningCall.status
            dsimp only
            rw [Db.tenantStatus_flush, hmoved.tenantStatus, if_pos hid.symm, Db.tenantStatus_of_tenant? htenant]
            rfl
        · cases hchange
    · cases h
  · cases h

/-- A repair that comes to its call goes on with it, for a tenant that it has left `pending`. -/
theorem repairCall_some {env : Env} {tenantId invoiceId : Nat} {s : DbSession} {call : ProvisioningCall}
    (h : repairCall env tenantId invoiceId s = some call) :
    (∃ (result : InvoiceReconciliationResult) (email : String), reconcileInvoiceSettlement env tenantId invoiceId s =
      (enqueueProvisioningForPaidTenant env tenantId email >>= fun r =>
        pure { result with provisioningRequeued := r.2 }) call.session) ∧
      call.tenantId = tenantId ∧ call.status = some .pending ∧ call.session.work.jobs = s.work.jobs := by
  unfold repairCall at h
  split at h
  · rename_i result email s' hchange
    cases h
    refine ⟨⟨result, email, ?_⟩, rfl, ?_⟩
    · unfold reconcileInvoiceSettlement
      rw [bind_ok hchange]
    · rw [change_apply] at hchange
      split at hchange
      · rename_i r db hreconcile
        cases hchange
        have heffect := reconcileInvoice_ok hreconcile
        cases hrepair : paidRepair tenantId invoiceId (env.clock s.tick) (env.erp s.tick) s.work with
        | none =>
          rw [hrepair] at heffect
          cases heffect.1
        | some repair =>
          obtain ⟨tenant, subscription, runtimeExists⟩ := repair
          rw [hrepair] at heffect
          obtain ⟨hmoved, -, hneeds⟩ := heffect
          have hrow := paidRepair_tenant hrepair
          have hid := Db.tenant?_id hrow
          refine ⟨?_, hmoved.jobs⟩
          unfold ProvisioningCall.status
          dsimp only
          rw [hmoved.tenantStatus, if_pos hid.symm, Db.tenantStatus_of_tenant? hrow, (hneeds (by simp)).1]
          rfl
      · cases hchange
  · cases h

/-- A call of a step is made for a `pending` tenant, or it is the call of a confirmed payment. -/
theorem mem_provisioningCalls {w : World} {e : Event} {call : ProvisioningCall} (h : call ∈ provisioningCalls w e) :
    call.status = some .pending ∨
      ∃ delivery event tick, e.op = .webhook delivery ∧ deliveredEvent e.env w.db delivery = some (event, tick) ∧
        event.eventType = .paymentConfirmed ∧
        confirmationCall e.env (delivery.provider e.env) event (handlerSession w e.env delivery event tick) =
          some call := by
  unfold provisioningCalls at h
  split at h
  · rename_i delivery hop
    split at h
    · rename_i event tick hdelivered
      split at h
      · rename_i htype
        exact Or.inr ⟨delivery, event, tick, hop, hdelivered, htype, by simpa using h⟩
      · cases h
    · cases h
  · exact Or.inl (retryCall_some (by simpa using h)).2.2.1
  · obtain ⟨v, -, hv⟩ := List.mem_filterMap.1 h
    exact Or.inl (repairCall_some hv).2.2.1

/-! ### The payments that are confirmed -/

/-- The tenant whose payment a step confirms, as it is before the step, and the tick after the commit. -/
def confirmedTenant (w : World) (e : Event) : Option (Tenant × Nat) :=
  match e.op with
  | .webhook delivery =>
    match deliveredEvent e.env w.db delivery with
    | some (event, tick) =>
      if event.eventType = .paymentConfirmed ∧ ¬e.env.commitFails tick then
        match confirmPayment (delivery.provider e.env) event (e.env.clock tick) (e.env.erp tick)
            (handlerSession w e.env delivery event tick).work with
        | .ok (.changed tenantId _, _) => (w.db.tenant? tenantId).map fun tenant => (tenant, tick + 1)
        | _ => none
      else
        none
    | none => none
  | _ => none

/-- A payment is confirmed only for a tenant that waits for it or is about to be provisioned, unless the tenant's
provisioning is under way or done. -/
def confirmsProvisionable (w : World) (e : Event) : Bool :=
  (confirmedTenant w e).all fun (tenant, tick) =>
    !provisioningDue e.env w.db tenant.id tick || tenant.status ∈ [TenantStatus.pendingPayment, .pending]

theorem paidStatus_eq_pending (status : TenantStatus) :
    paidStatus status = .pending ↔ status ∈ [TenantStatus.pendingPayment, .pending] := by
  cases status <;> decide

theorem provisioningDue_congr {db db' : Db} (h : db'.jobs = db.jobs) (env : Env) (tenantId tick : Nat) :
    provisioningDue env db' tenantId tick = provisioningDue env db tenantId tick := by
  unfold provisioningDue liveCreateJob
  rw [h]

/-- The call of a confirmed payment, in terms of the tenant it confirms. -/
theorem confirmationCall_iff {w : World} {env : Env} {delivery : WebhookDelivery} {event : WebhookEvent} {tick : Nat}
    (hdelivered : deliveredEvent env w.db delivery = some (event, tick)) (htype : event.eventType = .paymentConfirmed) :
    (∀ call ∈ confirmationCall env (delivery.provider env) event (handlerSession w env delivery event tick),
      call.provisions env = true → call.status = some .pending) ↔
      confirmsProvisionable w ⟨env, .webhook delivery⟩ = true := by
  have htick : (handlerSession w env delivery event tick).tick = tick := rfl
  unfold confirmsProvisionable confirmedTenant
  dsimp only
  rw [hdelivered]
  dsimp only
  cases hcall : confirmationCall env (delivery.provider env) event (handlerSession w env delivery event tick) with
  | some call =>
    obtain ⟨hcommit, ⟨email, db, hconfirm⟩, tenant, hrow, hstatus, hjobs, hnext⟩ := confirmationCall_some htype hcall
    rw [htick] at hcommit hconfirm hnext
    replace hrow : w.db.tenant? call.tenantId = some tenant := hrow
    have hdue : call.provisions env = provisioningDue env w.db tenant.id (tick + 1) := by
      unfold ProvisioningCall.provisions
      rw [hnext, Db.tenant?_id hrow]
      exact provisioningDue_congr hjobs env _ _
    rw [if_pos ⟨htype, by simp [hcommit]⟩, hconfirm]
    dsimp only
    rw [hrow]
    simp only [Option.mem_some_iff, forall_eq', Option.map_some, Option.all_some, Bool.or_eq_true, Bool.not_eq_true',
      decide_eq_true_eq]
    rw [hdue, hstatus, Option.some.injEq, paidStatus_eq_pending]
    cases provisioningDue env w.db tenant.id (tick + 1) <;> simp
  | none =>
    refine iff_of_true (fun call h => by cases h) ?_
    split
    · rename_i hguard
      split
      · rename_i tenantId email db hconfirm
        -- the payment is confirmed and its commit goes through, so there is a call
        exfalso
        unfold confirmationCall at hcall
        rw [change_apply, htick, hconfirm] at hcall
        dsimp only at hcall
        rw [commit_apply] at hcall
        dsimp only at hcall
        rw [if_neg hguard.2] at hcall
        cases hcall
      · rfl
    · rfl

/-- The calls of a step that create a job or put one on the queue are for `pending` tenants, exactly when the payment it
confirms, if it confirms one, is one of a tenant that is provisionable or whose provisioning is under way or done. -/
theorem calls_pending_iff (w : World) (e : Event) :
    (∀ call ∈ provisioningCalls w e, call.provisions e.env = true → call.status = some .pending) ↔
      confirmsProvisionable w e = true := by
  have hcalls : ∀ call ∈ provisioningCalls w e, call.status = some .pending ∨ _ := fun call h => mem_provisioningCalls h
  constructor
  · intro h
    by_cases hwebhook : ∃ delivery event tick, e.op = .webhook delivery ∧
        deliveredEvent e.env w.db delivery = some (event, tick) ∧ event.eventType = .paymentConfirmed
    · obtain ⟨delivery, event, tick, hop, hdelivered, htype⟩ := hwebhook
      obtain ⟨env, op⟩ := e
      subst hop
      refine (confirmationCall_iff hdelivered htype).1 fun call hcall => h call ?_
      unfold provisioningCalls
      dsimp only
      rw [hdelivered]
      dsimp only
      rw [if_pos htype, Option.mem_toList]
      exact hcall
    · unfold confirmsProvisionable confirmedTenant
      split
      · rename_i delivery hop
        split
        · rename_i event tick hdelivered
          rw [if_neg fun hguard => hwebhook ⟨delivery, event, tick, hop, hdelivered, hguard.1⟩]
          rfl
        · rfl
      · rfl
  · intro h call hcall hdue
    rcases hcalls call hcall with hpending | ⟨delivery, event, tick, hop, hdelivered, htype, hconfirmation⟩
    · exact hpending
    · obtain ⟨env, op⟩ := e
      subst hop
      exact (confirmationCall_iff hdelivered htype).2 h call hconfirmation hdue

end ControlPlane
