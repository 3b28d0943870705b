import ControlPlane.Workers.Watched

/-!
# What a step may do to a watched tenant

`Watch.Permits` says what a step needs for a watch to hold after it, read off the world before the step.  One theorem,
`Watch.step`, goes over all the operations; every property of a tenant's runs is an instance of it.
-/

namespace ControlPlane

open Table Session Session.Proc

/-- Whether an operation creates a tenant. -/
def Op.creates : Op → Bool
  | .createTenant .. => true
  | _ => false

/-- Whether an operation is the retry of the provisioning of the tenant `t`. -/
def Op.retries (op : Op) (t : Nat) : Bool :=
  match op with
  | .retryProvisioning tenantId _ => tenantId = t
  | _ => false

/-- Whether an operation is an administrator's unsuspension of the tenant `t`. -/
def Op.unsuspends (op : Op) (t : Nat) : Bool :=
  match op with
  | .unsuspendTenant tenantId => tenantId = t
  | _ => false

/-- The type of the event a step delivers for the tenant `t`: it reaches its handler, the tenant has a subscription or
can be given one, the subscription's state machine does not refuse the event, and the handler's commit goes through. -/
def handledEvent (w : World) (e : Event) (t : Nat) : Option WebhookEventType :=
  match e.op with
  | .webhook delivery =>
    match deliveredEvent e.env w.db delivery with
    | none => none
    | some (event, tick) =>
      if (eventTenant (delivery.provider e.env) event w.db).map Tenant.id = some t ∧
          (w.db.subscriptionOf t).all (fun s => !eventRefused event.eventType s.status) ∧
          subscriptionAvailable w.db t ∧ ¬e.env.commitFails tick then
        some event.eventType
      else
        none
  | _ => none

/-- The tenant for which a step asks the table for a new status, and that status. -/
def askedStatus (w : World) (e : Event) : Option (Nat × TenantStatus) :=
  match e.op with
  | .deleteTenant tenantId => some (tenantId, .pendingDeletion)
  | .suspendTenant tenantId => some (tenantId, .suspendedAdmin)
  | .unsuspendTenant tenantId => some (tenantId, .active)
  | .taskPhase index _ =>
    w.running[index]?.bind fun running =>
      (running.phase.movesTo running.task).map fun status => (running.task.tenantId, status)
  | _ => none

/-- No step asks the table for `pending`: a tenant comes there by a checkout, a payment, a repair or a retry. -/
theorem askedStatus_ne_pending {w : World} {e : Event} {t : Nat} {status : TenantStatus}
    (h : askedStatus w e = some (t, status)) : status ≠ .pending := by
  have hphase : ∀ (phase : Phase) (task : Task), phase.movesTo task ≠ some .pending := by
    intro phase task h
    cases phase with
    | enter => cases task <;> cases h
    | complete => cases task <;> cases h
    | marking error => rcases failStatus_eq_or h with h | h <;> cases h
    | _ => cases h
  unfold askedStatus at h
  split at h
  · cases h; decide
  · cases h; decide
  · cases h; decide
  · obtain ⟨running, -, h⟩ := Option.bind_eq_some_iff.1 h
    obtain ⟨new, hnew, heq⟩ := Option.map_eq_some_iff.1 h
    cases heq
    rintro rfl
    exact hphase _ _ hnew
  · cases h

/-- The reconciliations of a step: the tenant, the invoice and the session each visit finds. -/
def reconciliations (w : World) (e : Event) : List (Nat × Nat × DbSession) :=
  match e.op with
  | .reconcileBillingInvoice invoiceId =>
    match w.db.invoice? invoiceId with
    | none => []
    | some invoice =>
      (reconciliationVisits e.env invoice.tenantId (some invoiceId) (opened w.db w.queue)).map fun v =>
        (invoice.tenantId, v)
  | .resyncTenantSettlement tenantId =>
    (reconciliationVisits e.env tenantId none (opened w.db w.queue)).map fun v => (tenantId, v)
  | .reconciliationCycle => cycleVisits e.env (opened w.db w.queue)
  | _ => []

/-- The repair a visit of a step's reconciliations makes. -/
def repairOf (e : Event) (v : Nat × Nat × DbSession) : Option (Tenant × Subscription × Bool) :=
  visitRepair e.env v.1 v.2

/-- The repairs a step's reconciliations make of the tenant `t`. -/
def repairs (w : World) (e : Event) (t : Nat) : List (Tenant × Subscription × Bool) :=
  (reconciliations w e).filterMap fun v => if v.1 = t then repairOf e v else none

theorem mem_repairs {w : World} {e : Event} {t : Nat} {v : Nat × Nat × DbSession}
    {repair : Tenant × Subscription × Bool} (hv : v ∈ reconciliations w e) (ht : v.1 = t)
    (h : repairOf e v = some repair) : repair ∈ repairs w e t :=
  List.mem_filterMap.2 ⟨v, hv, by rw [if_pos ht]; exact h⟩

/-- The tenants a step's dunning suspends. -/
def escalations (w : World) (e : Event) : List Nat :=
  match e.op with
  | .dunningCycle false =>
    let now := e.env.clock 0
    ((visits (dunTenant e.env false now) (dunningCandidates (e.env.erp 0) w.db) (opened w.db w.queue)).filter fun v =>
      escalationDue e.env now v.1 v.2).map Prod.fst
  | _ => []

namespace Watch

variable {t : Nat}

/-- The watch holds of the committed rows and the queue. -/
def On (W : Watch t) (w : World) : Prop := W.status (w.status t) ∧ W.queue w.queue

/-- What the watch has to allow of a step. -/
structure Permits (W : Watch t) (w : World) (e : Event) : Prop where
  created : e.op.creates = true → t = fresh w.db.tenants → W.status (some .pendingPayment) ∧
    ∀ st, W.status (some st) → Allowed st .pending → W.status (some .pending)
  renewed : e.op = .renewCheckout t → w.status t = some .pending ∨ w.status t = some .pendingPayment →
    W.status (some .pendingPayment)
  handled : ∀ eventType ∈ handledEvent w e t, ∀ st ∈ w.status t,
    W.status (some (eventStatus eventType st)) ∧
      (eventType = .paymentConfirmed → provisioningMissing w.db t = true → W.provisioning)
  repaired : ∀ v ∈ reconciliations w e, v.1 = t → W.AllowsRepair v.2.2 (repairOf e v)
  expired : ∀ dryRun, e.op = .trialCycle dryRun → ∀ st, W.status (some st) → W.status (some (trialExpiredStatus st))
  escalated : t ∈ escalations w e → ∀ st, W.status (some st) → st ∉ dunningExempt → W.status (some .suspendedBilling)
  retried : e.op.retries t = true → w.status t = some .failed →
    W.status (some .pending) ∧ (provisioningMissing w.db t = true → W.provisioning)
  asked : ∀ status, askedStatus w e = some (t, status) → ∀ st ∈ w.status t, Allowed st status →
    W.status (some status)

variable {W : Watch t} {w : World} {e : Event}

theorem On.opened (h : W.On w) : W.Holds (opened w.db w.queue) := ⟨h.1, h.1, h.2⟩

theorem on_perform {α : Type} {p : Proc α} (h : W.Holds (p (Session.Proc.opened w.db w.queue)).2) :
    W.On (perform w p) := h.2

private theorem on_of_core {w' : World} {db : Db} (hcore : w'.db.core = db.core) (hdb : W.status (db.tenantStatus t))
    (hqueue : W.queue w'.queue) : W.On w' := by
  refine ⟨?_, hqueue⟩
  unfold World.status
  rw [Db.tenantStatus_congr (Db.tenants_of_core hcore)]
  exact hdb

private theorem on_webhook {env : Env} {delivery : WebhookDelivery} (h : W.On w)
    (hp : W.Permits w ⟨env, .webhook delivery⟩) : W.On (perform w (handleGatewayWebhook env delivery)) := by
  have hcore := handleGatewayWebhook_core env w.db delivery w.queue
  have hevent := hp.handled
  unfold handledEvent at hevent
  dsimp only at hevent
  cases hdelivered : deliveredEvent env w.db delivery with
  | none =>
    rw [hdelivered] at hcore
    obtain ⟨hsaved, houtside⟩ := hcore
    refine on_of_core hsaved h.1 ?_
    show W.queue (handleGatewayWebhook env delivery (Session.Proc.opened w.db w.queue)).2.outside
    rw [houtside]
    exact h.2
  | some delivered =>
    obtain ⟨event, tick⟩ := delivered
    rw [hdelivered] at hcore hevent
    obtain ⟨outbox, hsaved, houtside⟩ := hcore
    have hquiet : W.Holds (quiet w.db outbox w.queue tick) := ⟨h.1, h.1, h.2⟩
    have hprocess : W.Holds (processEvent env (delivery.provider env) event (quiet w.db outbox w.queue tick)).2 := by
      refine holds_processEvent hquiet fun tenant htenant hid hnot havailable hcommit => ?_
      have hresolved : eventTenant (delivery.provider env) event w.db = some tenant := htenant
      have hst : w.status t = some tenant.status := by
        rw [← hid]
        exact Db.tenantStatus_of_tenant? (eventTenant_row hresolved)
      have hguard : (w.db.subscriptionOf t).all (fun s => !eventRefused event.eventType s.status) = true := by
        rw [Option.all_eq_true]
        intro s hs
        rw [hnot s hs]
        rfl
      have hsame : subscriptionAvailable (quiet w.db outbox w.queue tick).work t = subscriptionAvailable w.db t :=
        subscriptionAvailable_congr (by rfl) (by rfl) t
      rw [hsame] at havailable
      refine hevent event.eventType ?_ tenant.status hst
      dsimp only
      rw [hresolved, if_pos ⟨congrArg some hid, hguard, havailable, Bool.eq_false_iff.1 hcommit⟩]
      rfl
    refine on_of_core hsaved hprocess.2.1 ?_
    show W.queue (handleGatewayWebhook env delivery (Session.Proc.opened w.db w.queue)).2.outside
    rw [houtside]
    exact hprocess.2.2

/-- What follows a program that leaves the watch intact. -/
private theorem holds_then {α β : Type} {p : Proc α} {q : Proc β} {s : DbSession} (hp : W.Holds (p s).2)
    (hq : W.Kept q) : W.Holds ((p >>= fun _ => q) s).2 := holds_bind hp fun _ _ hs => hq.holds hs

private theorem on_createTenant {env : Env} {ownerId : Nat} {subdomain companyName plan : String}
    {chosenApp : Option String} (h : W.On w)
    (hp : W.Permits w ⟨env, .createTenant ownerId subdomain companyName plan chosenApp⟩) :
    W.On (perform w (createTenant env ownerId subdomain companyName plan chosenApp)) := by
  refine on_perform ?_
  unfold createTenant
  rw [bind_ok (read_apply _)]
  cases hrow : w.db.user? ownerId with
  | none =>
    have hnone : (Session.Proc.opened w.db w.queue).work.user? ownerId = none := hrow
    rw [hnone]
    exact h.opened
  | some owner =>
    have hsome : (Session.Proc.opened w.db w.queue).work.user? ownerId = some owner := hrow
    rw [hsome]
    exact holds_bind (holds_createTenantAndStartCheckout h.opened (fun ht => (hp.created rfl ht).1)
      fun ht => (hp.created rfl ht).2) fun _ _ hs => hs

private theorem on_reconcileBillingInvoice {env : Env} {invoiceId : Nat} (h : W.On w)
    (hp : W.Permits w ⟨env, .reconcileBillingInvoice invoiceId⟩) :
    W.On (perform w (reconcileBillingInvoice env invoiceId)) := by
  refine on_perform ?_
  have hvisits := hp.repaired
  unfold reconciliations at hvisits
  dsimp only at hvisits
  unfold reconcileBillingInvoice
  rw [bind_ok (read_apply _)]
  show W.Holds ((match w.db.invoice? invoiceId with
    | none => raise (.httpException 404 "Invoice not found")
    | some invoice => _ : Proc Unit) (Session.Proc.opened w.db w.queue)).2
  cases hrow : w.db.invoice? invoiceId with
  | none => exact h.opened
  | some invoice =>
    rw [hrow] at hvisits
    refine holds_then (holds_reconcileTenantBilling h.opened fun ht v hv => ?_) (W.kept_audit env _ _ _)
    exact hvisits (invoice.tenantId, v) (List.mem_map_of_mem hv) ht

private theorem on_taskPhase {env : Env} {index : Nat} {outside : Except PyError String} (h : W.On w)
    (hp : W.Permits w ⟨env, .taskPhase index outside⟩) : W.On (advanceTask w env index outside) := by
  have hasked := hp.asked
  unfold askedStatus at hasked
  dsimp only at hasked
  unfold advanceTask
  cases hrow : w.running[index]? with
  | none => exact h
  | some running =>
    rw [hrow] at hasked
    refine on_perform (w := w) (holds_taskPhase h.opened fun ht new hnew st hst => ?_)
    refine hasked new ?_ st hst
    rw [← ht]
    simp only [Option.bind_some, Option.map_eq_some_iff]
    exact ⟨new, hnew, rfl⟩

/-- A step that the watch permits leaves it intact. -/
theorem step (h : W.On w) (hp : W.Permits w e) : W.On (ControlPlane.step w e) := by
  obtain ⟨env, op⟩ := e
  -- by the operation: those that move no tenant keep every watch, the others ask for their own permit
  cases op with
  | createTenant => exact on_createTenant h hp
  | renewCheckout tenantId => exact on_perform (holds_renewCheckout h.opened fun ht => hp.renewed (by rw [← ht]))
  | webhook => exact on_webhook h hp
  | resyncTenantInvoices => exact on_perform ((kept_resyncTenantInvoices env _ _).holds h.opened)
  | createPaymentAttempt => exact on_perform (kept_createInvoicePaymentAttempt env _ _ h.opened)
  | reconcileBillingInvoice => exact on_reconcileBillingInvoice h hp
  | resyncTenantSettlement tenantId =>
    refine on_perform (holds_then (holds_reconcileTenantBilling h.opened fun ht v hv => ?_) (W.kept_audit env _ _ _))
    exact hp.repaired (tenantId, v) (List.mem_map_of_mem hv) ht
  | reconciliationCycle =>
    refine on_perform (holds_runBillingReconciliationCycle h.opened fun v hv ht => ?_)
    have hrepair := hp.repaired v hv ht
    unfold repairOf at hrepair
    rw [ht] at hrepair
    exact hrepair
  | trialCycle dryRun => exact on_perform (holds_runTrialLifecycleCycle h.opened (hp.expired dryRun rfl))
  | dunningCycle dryRun =>
    refine on_perform (holds_runBillingDunningCycle h.opened fun hdry v hv ht hI hdue => ?_)
    obtain ⟨st, hst, hnot⟩ := escalationDue_status hdue
    subst hdry
    refine hp.escalated (List.mem_map.2 ⟨v, List.mem_filter.2 ⟨hv, by rw [ht]; exact hdue⟩, ht⟩) st ?_ hnot
    rw [← hst]
    exact hI.1
  | backupTenant => exact on_perform ((kept_backupTenant env _).holds h.opened)
  | restoreTenant => exact on_perform ((kept_restoreTenant env _ _).holds h.opened)
  | deleteTenant => exact on_perform (holds_deleteTenant h.opened fun ht => hp.asked _ (by rw [← ht]; rfl))
  | retryProvisioning tenantId userEmail =>
    exact on_perform (holds_retryTenantProvisioning h.opened fun ht => hp.retried (decide_eq_true ht))
  | suspendTenant =>
    exact on_perform (holds_moveTenantStatus h.opened (fun ht => hp.asked _ (by rw [← ht]; rfl))
      (W.kept_audit env _ _ _))
  | unsuspendTenant =>
    exact on_perform (holds_moveTenantStatus h.opened (fun ht => hp.asked _ (by rw [← ht]; rfl))
      (W.kept_audit env _ _ _))
  | startTask entry =>
    unfold ControlPlane.step
    dsimp only
    split
    · exact h
    · exact h
  | taskPhase => exact on_taskPhase h hp

/-- A tenant that is there is not the one a step creates. -/
theorem ne_fresh {st : TenantStatus} (hs : w.status t = some st) : t ≠ fresh w.db.tenants := by
  rintro rfl
  rw [World.status, Db.tenantStatus, Db.tenant?, get?_fresh] at hs
  cases hs

end Watch

end ControlPlane
