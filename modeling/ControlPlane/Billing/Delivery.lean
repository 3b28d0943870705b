import ControlPlane.Billing.WebhookEffects
import ControlPlane.Bookkeeping

/-!
# What a webhook delivery comes to

`deliveredEvent` says which deliveries reach a handler, and `appliedRows` what the handler's one commit writes.
Everything else a delivery does is bookkeeping: after it, the core of the committed rows is `appliedRows`'s
(`handleGatewayWebhook_core`).
-/

namespace ControlPlane

open Table Session Session.Proc

/-- The event of a delivery that reaches its handler, and the tick at which it does: the route is the gateway's, the
body can be decoded and parsed, no row of the outbox says the event was processed, and the outbox commits before it go
through (of which the first also fails for a row that does not fit its columns). -/
def deliveredEvent (env : Env) (db : Db) (delivery : WebhookDelivery) : Option (WebhookEvent × Nat) :=
  if delivery.decodeError.isSome ∨ delivery.mismatched env then none
  else
    match delivery.parsed with
    | .error _ => none
    | .ok event =>
      match outboxRow? env.settings (delivery.provider env) event db with
      | some row => if row.status = .processed ∨ env.commitFails 0 then none else some (event, 1)
      | none =>
        if env.settings.columnsEnforced ∧ ¬(newOutboxEvent env.settings (delivery.provider env) event db).fits env.settings
        then none
        else if env.commitFails 0 ∨ env.commitFails 1 then none
        else some (event, 2)

/-- The first part of an event's handler. -/
def eventBody (provider : String) (event : WebhookEvent) (now : Time) (client : PlatformErpClient) (db : Db) :
    Except PyError (Handled × Db) :=
  match event.eventType with
  | .paymentConfirmed => confirmPayment provider event now client db
  | .paymentFailed => failPayment provider event now client db
  | .subscriptionCancelled => cancelSubscription event now client db
  | .other _ => .ok (.ignored "ignored", db)

/-- What an event's handler does after its commit. -/
def eventFollowUp (env : Env) (eventType : WebhookEventType) (tenantId : Nat) (ownerEmail : Option String) :
    Proc String :=
  match eventType with
  | .paymentConfirmed => do
    let _ ← enqueueProvisioningForPaidTenant env tenantId (ownerEmail.getD "")
    recordAuditEvent env "billing.payment_succeeded" "tenants" (some tenantId)
    return "processed:payment.confirmed"
  | .paymentFailed => do
    recordAuditEvent env "billing.payment_failed" "tenants" (some tenantId)
    return "processed:payment.failed"
  | .subscriptionCancelled => do
    recordAuditEvent env "billing.subscription_cancelled" "tenants" (some tenantId)
    return "processed:subscription.cancelled"
  | .other _ => return "ignored"

/-- The answer to an event that was processed. -/
def processedMessage (eventType : WebhookEventType) : String := "processed:" ++ eventType.text

/-- The rows an event's handler commits. -/
def appliedRows (env : Env) (provider : String) (event : WebhookEvent) (tick : Nat) (db : Db) : Db :=
  match eventBody provider event (env.clock tick) (env.erp tick) db with
  | .ok (.changed _ _, db') => if env.commitFails tick then db else Db.flush (env.clock tick) db db'
  | _ => db

/-- The tenant an event is for. -/
def eventTenant (provider : String) (event : WebhookEvent) (db : Db) : Option Tenant :=
  match event.eventType with
  | .paymentConfirmed | .paymentFailed =>
    (resolveInvoiceBackedContext db provider event.tenantId event.subscriptionId event.raw).tenant
  | .subscriptionCancelled => cancellationTenant db event
  | .other _ => none

/-- The tenant status an event leaves. -/
def eventStatus (eventType : WebhookEventType) (current : TenantStatus) : TenantStatus :=
  match eventType with
  | .paymentConfirmed => paidStatus current
  | .paymentFailed => paymentFailedStatus current
  | .subscriptionCancelled => .suspendedBilling
  | .other _ => current

/-- Whether the subscription's state machine refuses what an event asks of it. -/
def eventRefused (eventType : WebhookEventType) (status : SubscriptionStatus) : Bool :=
  match eventType with
  | .paymentConfirmed => status = .cancelled
  | .paymentFailed => status ∈ [SubscriptionStatus.paused, .cancelled]
  | _ => false

theorem resolved_row {db : Db} {provider : String} {event : WebhookEvent} {tenant : Tenant}
    (h : (resolveInvoiceBackedContext db provider event.tenantId event.subscriptionId event.raw).tenant = some tenant) :
    db.tenant? tenant.id = some tenant := by
  unfold resolveInvoiceBackedContext at h
  rcases Option.or_eq_some_iff.1 h with h | ⟨-, h⟩
  · obtain ⟨id, -, hrow⟩ := Option.bind_eq_some_iff.1 h
    rw [Db.tenant?_id hrow]; exact hrow
  · obtain ⟨attempt, -, hrow⟩ := Option.bind_eq_some_iff.1 h
    rw [Db.tenant?_id hrow]; exact hrow

private theorem cancellation_row {db : Db} {event : WebhookEvent} {tenant : Tenant}
    (h : cancellationTenant db event = some tenant) : db.tenant? tenant.id = some tenant := by
  unfold cancellationTenant at h
  rcases Option.or_eq_some_iff.1 h with h | ⟨-, h⟩
  · obtain ⟨id, -, hrow⟩ := Option.bind_eq_some_iff.1 h
    rw [Db.tenant?_id hrow]; exact hrow
  · obtain ⟨id, -, hrow⟩ := Option.bind_eq_some_iff.1 h
    obtain ⟨subscription, -, hrow⟩ := Option.bind_eq_some_iff.1 hrow
    rw [Db.tenant?_id hrow]; exact hrow

theorem eventTenant_row {provider : String} {event : WebhookEvent} {db : Db} {tenant : Tenant}
    (h : eventTenant provider event db = some tenant) : db.tenant? tenant.id = some tenant := by
  unfold eventTenant at h
  split at h
  · exact resolved_row h
  · exact resolved_row h
  · exact cancellation_row h
  · cases h

theorem parsed_of_delivered {env : Env} {db : Db} {delivery : WebhookDelivery} {event : WebhookEvent} {tick : Nat}
    (h : deliveredEvent env db delivery = some (event, tick)) : delivery.parsed = .ok event := by
  unfold deliveredEvent at h
  split at h
  · cases h
  split at h
  · cases h
  rename_i parsed hparsed
  rw [hparsed]
  split at h
  · split at h
    · cases h
    · cases h
      rfl
  · split at h
    · cases h
    split at h
    · cases h
    · cases h
      rfl

/-- An event for a tenant is a billing event. -/
theorem billing_of_eventTenant {provider : String} {event : WebhookEvent} {db : Db} {tenant : Tenant}
    (h : eventTenant provider event db = some tenant) (name : String) : event.eventType ≠ .other name := by
  intro htype
  unfold eventTenant at h
  rw [htype] at h
  cases h

/-- An event that changes anything moves the tenant it is for, which has a subscription or can be given one, and which
subscription did not refuse it. -/
theorem eventBody_changed {provider : String} {event : WebhookEvent} {now : Time} {client : PlatformErpClient}
    {db db' : Db} {tenantId : Nat} {email : Option String}
    (h : eventBody provider event now client db = .ok (.changed tenantId email, db')) :
    ∃ tenant, eventTenant provider event db = some tenant ∧ tenantId = tenant.id ∧
      (∀ s ∈ db.subscriptionOf tenant.id, eventRefused event.eventType s.status = false) ∧
      subscriptionAvailable db tenant.id = true ∧
      Moved db db' tenant.id (eventStatus event.eventType tenant.status) := by
  unfold eventBody at h
  unfold eventTenant eventRefused eventStatus
  split at h
  · rename_i htype
    rcases confirmPayment_ok h with ⟨m, hhandled, -⟩ | ⟨_, tenant, _, _, s, _, _, _, hhandled, hc⟩
    · cases hhandled
    · cases hhandled
      rw [htype]
      refine ⟨tenant, hc.resolved, rfl, ?_, subscriptionAvailable_of hc.subscription_eq, hc.moved⟩
      intro s' hs'
      rcases hc.subscription_eq with heq | ⟨hnone, -⟩
      · rw [heq] at hs'
        cases hs'
        simpa using hc.notCancelled
      · rw [hnone] at hs'
        cases hs'
  · rename_i htype
    rcases failPayment_ok h with ⟨m, hhandled, -⟩ | ⟨_, tenant, _, _, s, _, _, hhandled, hf⟩
    · cases hhandled
    · cases hhandled
      rw [htype]
      refine ⟨tenant, hf.resolved, rfl, ?_, subscriptionAvailable_of hf.subscription_eq, hf.moved⟩
      intro s' hs'
      rcases hf.subscription_eq with heq | ⟨hnone, -⟩
      · rw [heq] at hs'
        cases hs'
        simpa using hf.notRefused
      · rw [hnone] at hs'
        cases hs'
  · rename_i htype
    rcases cancelSubscription_ok h with ⟨m, hhandled, -⟩ | ⟨_, tenant, hhandled, htenant, havailable, hmoved⟩
    · cases hhandled
    · cases hhandled
      rw [htype]
      exact ⟨tenant, htenant, rfl, fun _ _ => rfl, havailable, hmoved⟩
  · cases h

theorem processEvent_eq (env : Env) (provider : String) (event : WebhookEvent) :
    processEvent env provider event = (do
      match ← change env (eventBody provider event) with
      | .ignored message => return message
      | .changed tenantId ownerEmail =>
        commit env
        eventFollowUp env event.eventType tenantId ownerEmail) := by
  cases h : event.eventType with
  | paymentConfirmed =>
    have hbody : eventBody provider event = confirmPayment provider event := by
      funext now client db
      rw [eventBody, h]
    rw [processEvent, h, hbody]; rfl
  | paymentFailed =>
    have hbody : eventBody provider event = failPayment provider event := by
      funext now client db
      rw [eventBody, h]
    rw [processEvent, h, hbody]; rfl
  | subscriptionCancelled =>
    have hbody : eventBody provider event = cancelSubscription event := by
      funext now client db
      rw [eventBody, h]
    rw [processEvent, h, hbody]; rfl
  | other name =>
    have hbody : eventBody provider event = fun _ _ db => .ok (.ignored "ignored", db) := by
      funext now client db
      rw [eventBody, h]
    rw [processEvent, h, hbody]
    funext s
    rw [change_bind]

/-- A committed cancellation leaves its tenant suspended for billing, whatever the status was. -/
theorem appliedRows_cancelled {env : Env} {provider : String} {event : WebhookEvent} {tick : Nat} {db : Db}
    {tenant : Tenant} (htype : event.eventType = .subscriptionCancelled)
    (htenant : cancellationTenant db event = some tenant) (havailable : subscriptionAvailable db tenant.id = true)
    (hcommit : env.commitFails tick = false) :
    (appliedRows env provider event tick db).tenantStatus tenant.id = some .suspendedBilling := by
  obtain ⟨subscription, ensured, hsub⟩ := ensureSubscription_of_available havailable
  obtain ⟨email, db', hcancelled⟩ : ∃ email db', cancelSubscription event (env.clock tick) (env.erp tick) db =
      .ok (.changed tenant.id email, db') := cancelSubscription_succeeds htenant hsub
  have hbody : eventBody provider event (env.clock tick) (env.erp tick) db = .ok (.changed tenant.id email, db') := by
    rw [eventBody, htype]
    exact hcancelled
  unfold appliedRows
  rw [hbody]
  dsimp only
  rw [if_neg (Bool.eq_false_iff.1 hcommit), Db.tenantStatus_flush]
  rcases cancelSubscription_ok hcancelled with ⟨m, hhandled, -⟩ | ⟨_, tenant', -, htenant', -, hmoved⟩
  · cases hhandled
  · rw [htenant] at htenant'
    cases htenant'
    rw [hmoved.tenantStatus, if_pos rfl, Db.tenantStatus_of_tenant? (cancellation_row htenant)]
    rfl

/-- A handler commits nothing, or the changes of its first part. -/
theorem appliedRows_cases (env : Env) (provider : String) (event : WebhookEvent) (tick : Nat) (db : Db) :
    appliedRows env provider event tick db = db ∨ ∃ tenantId email db',
      eventBody provider event (env.clock tick) (env.erp tick) db = .ok (.changed tenantId email, db') ∧
        env.commitFails tick = false ∧ appliedRows env provider event tick db = Db.flush (env.clock tick) db db' := by
  unfold appliedRows
  cases eventBody provider event (env.clock tick) (env.erp tick) db with
  | error e => exact Or.inl rfl
  | ok r =>
    obtain ⟨handled, db'⟩ := r
    cases handled with
    | ignored message => exact Or.inl rfl
    | changed tenantId email =>
      dsimp only
      cases hcommit : env.commitFails tick with
      | true => exact Or.inl rfl
      | false => exact Or.inr ⟨tenantId, email, db', rfl, rfl, rfl⟩

theorem eventFollowUp_bookkeeping {Q : Task → Prop} (env : Env) (eventType : WebhookEventType) (tenantId : Nat)
    (ownerEmail : Option String)
    (hQ : eventType = .paymentConfirmed → ∀ jobId email, Q (.provisionTenant jobId tenantId email)) :
    Bookkeeping Q (eventFollowUp env eventType tenantId ownerEmail) := by
  cases eventType with
  | paymentConfirmed =>
    exact .bind (.enqueueProvisioningForPaidTenant env tenantId _ fun jobId => hQ rfl jobId _) fun _ =>
      .bind (.recordAuditEvent env _ _ _) fun _ => .pure _
  | paymentFailed => exact .bind (.recordAuditEvent env _ _ _) fun _ => .pure _
  | subscriptionCancelled => exact .bind (.recordAuditEvent env _ _ _) fun _ => .pure _
  | other name => exact .pure _

/-- An event that is answered without a commit has changed nothing. -/
theorem eventBody_ignored {provider : String} {event : WebhookEvent} {now : Time} {client : PlatformErpClient}
    {db db' : Db} {message : String} (h : eventBody provider event now client db = .ok (.ignored message, db')) :
    db' = db := by
  unfold eventBody at h
  split at h
  · rcases confirmPayment_ok h with ⟨m, -, hdb, -⟩ | ⟨_, _, _, _, _, _, _, _, hhandled, -⟩
    · exact hdb
    · cases hhandled
  · rcases failPayment_ok h with ⟨m, -, hdb, -⟩ | ⟨_, _, _, _, _, _, _, hhandled, -⟩
    · exact hdb
    · cases hhandled
  · rcases cancelSubscription_ok h with ⟨m, -, hdb, -⟩ | ⟨_, _, hhandled, -⟩
    · exact hdb
    · cases hhandled
  · cases h; rfl

/-- A handler commits `appliedRows` and nothing else but books, and when it returns nothing but books is left
uncommitted. -/
theorem processEvent_core (env : Env) (provider : String) (event : WebhookEvent) {s : DbSession}
    (hs : s.work = s.saved) :
    (processEvent env provider event s).2.saved.core = (appliedRows env provider event s.tick s.saved).core ∧
      (∀ response, (processEvent env provider event s).1 = .ok response →
        (processEvent env provider event s).2.work.core = (appliedRows env provider event s.tick s.saved).core) := by
  rw [processEvent_eq]
  unfold appliedRows
  rw [← hs]
  rw [change_bind]
  cases hbody : eventBody provider event (env.clock s.tick) (env.erp s.tick) s.work with
  | error e => exact ⟨by rw [hs], fun response h => by cases h⟩
  | ok r =>
    obtain ⟨handled, db'⟩ := r
    cases handled with
    | ignored message =>
      have hdb := eventBody_ignored hbody
      exact ⟨by rw [hs]; rfl, fun _ _ => congrArg Db.core hdb⟩
    | changed tenantId ownerEmail =>
      dsimp only
      rw [commit_bind]
      split
      · exact ⟨by rw [hs], fun response h => by cases h⟩
      · have hbooks : Bookkeeping (fun _ => True) (eventFollowUp env event.eventType tenantId ownerEmail) :=
          eventFollowUp_bookkeeping env event.eventType tenantId ownerEmail fun _ _ _ => trivial
        rw [hs]
        exact ⟨(hbooks.core rfl rfl).2, fun _ _ => (hbooks.core rfl rfl).1⟩

/-! ### The outbox around a handler -/

/-- A session with nothing uncommitted, on rows with some outbox. -/
def quiet (db : Db) (outbox : List PaymentEventOutbox) (queue : List Task) (tick : Nat) : DbSession :=
  ⟨{ db with outbox := outbox }, { db with outbox := outbox }, queue, tick⟩

/-- A commit of a changed outbox writes that outbox and nothing else. -/
theorem commit_outbox (env : Env) (db : Db) (outbox : List PaymentEventOutbox) (queue : List Task) (tick : Nat) :
    commit env (⟨{ db with outbox := outbox }, db, queue, tick⟩ : DbSession) =
      if env.commitFails tick then (.error .operationalError, ⟨db, db, queue, tick + 1⟩)
      else (.ok (), quiet db outbox queue (tick + 1)) := by
  have hflush : Db.flush (env.clock tick) db { db with outbox := outbox } = { db with outbox := outbox } :=
    Db.flush_of_eq rfl rfl
  rw [commit_apply]
  dsimp only
  rw [hflush]
  rfl

theorem markOutbox_apply (env : Env) (id : Nat) (f : Time → PaymentEventOutbox → PaymentEventOutbox) (db : Db)
    (queue : List Task) (tick : Nat) :
    markOutbox env id f (⟨db, db, queue, tick⟩ : DbSession) =
      if env.commitFails tick then (.error .operationalError, ⟨db, db, queue, tick + 1⟩)
      else (.ok (), quiet db (Table.modify db.outbox id (f (env.clock tick))) queue (tick + 1)) := by
  unfold markOutbox
  rw [bind_ok (utcnow_apply env _), bind_ok (modify_apply _ _)]
  exact commit_outbox env db _ queue tick

theorem ensureOutboxEvent_of_some {env : Env} {provider : String} {event : WebhookEvent} {row : PaymentEventOutbox}
    {s : DbSession} (h : outboxRow? env.settings provider event s.work = some row) :
    ensureOutboxEvent env provider event s = (.ok row, s) := by
  unfold ensureOutboxEvent
  rw [bind_ok (read_apply s), h]
  rfl

theorem ensureOutboxEvent_of_none {env : Env} {provider : String} {event : WebhookEvent} {db : Db}
    (queue : List Task) (tick : Nat) (h : outboxRow? env.settings provider event db = none) :
    ensureOutboxEvent env provider event (⟨db, db, queue, tick⟩ : DbSession) =
      if env.settings.columnsEnforced ∧ ¬(newOutboxEvent env.settings provider event db).fits env.settings then
        (.error .dataError, ⟨db, db, queue, tick⟩)
      else if env.commitFails tick then (.error .operationalError, ⟨db, db, queue, tick + 1⟩)
      else (.ok (newOutboxEvent env.settings provider event db),
        quiet db (insert db.outbox (newOutboxEvent env.settings provider event db)) queue (tick + 1)) := by
  unfold ensureOutboxEvent
  rw [bind_ok (read_apply _), h]
  dsimp only
  rw [bind_ok (modify_apply _ _), bind_apply]
  unfold commitRow
  by_cases hfits : env.settings.columnsEnforced ∧ ¬(newOutboxEvent env.settings provider event db).fits env.settings
  · rw [if_pos hfits, if_pos hfits]
    rfl
  · rw [if_neg hfits, if_neg hfits, commit_outbox]
    cases env.commitFails tick with
    | true => rfl
    | false => rfl

/-- After a handler only books are kept, whether it returned or raised. -/
theorem runHandler_core (env : Env) (provider : String) (event : WebhookEvent) (outboxId : Nat) {s : DbSession}
    (hs : s.work = s.saved) :
    (runHandler env provider event outboxId s).2.saved.core = (processEvent env provider event s).2.saved.core ∧
      (runHandler env provider event outboxId s).2.outside = (processEvent env provider event s).2.outside := by
  obtain ⟨hsaved, hwork⟩ := processEvent_core env provider event hs
  unfold runHandler
  rw [bind_apply]
  unfold attempt
  cases hp : processEvent env provider event s with
  | mk r s' =>
    rw [hp] at hsaved hwork
    cases r with
    | ok response =>
      have hsame : s'.work.core = s'.saved.core := (hwork response rfl).trans hsaved.symm
      have hbooks : Bookkeeping (fun _ => False) (do
          markOutbox env outboxId fun time o =>
            { o with status := .processed, lastError := none, processedAt := some time }
          recordPaymentEvent env provider event.eventType.text (resolveProcessingStatus response) 200 response
            (some event) event.raw
          return response) :=
        .bind (.markOutbox env outboxId _) fun _ => .bind (.recordPaymentEvent env _ _ _ _ _ _ _) fun _ => .pure _
      exact hbooks.idle hsame rfl
    | error e =>
      have hbooks : Bookkeeping (fun _ => False) (do
          let response ← recordProcessingFailure env provider event outboxId e
          markOutbox env outboxId fun time o =>
            { o with status := .processed, lastError := none, processedAt := some time }
          recordPaymentEvent env provider event.eventType.text (resolveProcessingStatus response) 200 response
            (some event) event.raw
          return response) :=
        .bind (.recordProcessingFailure env provider event outboxId e) fun _ =>
          .bind (.markOutbox env outboxId _) fun _ => .bind (.recordPaymentEvent env _ _ _ _ _ _ _) fun _ => .pure _
      -- the failure is recorded after a rollback, so what the handler left uncommitted does not count
      have hroll : recordProcessingFailure env provider event outboxId e s' =
          recordProcessingFailure env provider event outboxId e { s' with work := s'.saved } := rfl
      dsimp only
      rw [hroll]
      exact hbooks.idle (s := { s' with work := s'.saved }) rfl rfl

/-- The outbox row of an event is marked, and then its handler runs, unless the mark cannot be committed. -/
theorem processOutboxEvent_core (env : Env) (provider : String) (event : WebhookEvent) (outboxId : Nat) (db : Db)
    (queue : List Task) (tick : Nat) :
    let s := (processOutboxEvent env provider event outboxId (⟨db, db, queue, tick⟩ : DbSession)).2
    if env.commitFails tick then s.saved.core = db.core ∧ s.outside = queue
    else ∃ outbox,
      s.saved.core = (processEvent env provider event (quiet db outbox queue (tick + 1))).2.saved.core ∧
        s.outside = (processEvent env provider event (quiet db outbox queue (tick + 1))).2.outside := by
  unfold processOutboxEvent
  rw [bind_apply, markOutbox_apply]
  cases env.commitFails tick with
  | true => exact ⟨rfl, rfl⟩
  | false => exact ⟨_, runHandler_core env provider event outboxId rfl⟩

theorem rejectDelivery_idle (env : Env) (provider eventType processingStatus message : String) (payload : Json) :
    Bookkeeping (fun _ => False) (rejectDelivery env provider eventType processingStatus message payload) :=
  .bind (.recordPaymentEvent env _ _ _ _ _ _ _) fun _ => .raise _

theorem refuseUnparsed_idle (env : Env) (provider : String) (payload : Json) (error : PyError) :
    Bookkeeping (fun _ => False) (refuseUnparsed env provider payload error) := by
  unfold refuseUnparsed
  split
  · exact rejectDelivery_idle env _ _ _ _ _
  · exact .raise _

theorem answerDuplicate_idle (env : Env) (provider : String) (event : WebhookEvent) :
    Bookkeeping (fun _ => False) (answerDuplicate env provider event) :=
  .bind (.recordPaymentEvent env _ _ _ _ _ _ _) fun _ => .pure _

/-- After a delivery the core of the committed rows and the queue are as they were, if it reaches no handler, and else
as the handler leaves them. -/
theorem handleGatewayWebhook_core (env : Env) (db : Db) (delivery : WebhookDelivery) (queue : List Task) :
    let s := (handleGatewayWebhook env delivery (opened db queue)).2
    match deliveredEvent env db delivery with
    | none => s.saved.core = db.core ∧ s.outside = queue
    | some (event, tick) => ∃ outbox,
      s.saved.core = (processEvent env (delivery.provider env) event (quiet db outbox queue tick)).2.saved.core ∧
        s.outside = (processEvent env (delivery.provider env) event (quiet db outbox queue tick)).2.outside := by
  unfold deliveredEvent handleGatewayWebhook WebhookDelivery.decodeError
  cases hd : delivery.decoded with
  | error error =>
    rw [if_pos (Or.inl (Option.isSome_some))]
    exact ⟨rfl, rfl⟩
  | ok payload =>
  dsimp only
  by_cases hm : delivery.mismatched env
  · rw [if_pos hm, if_pos (Or.inr hm)]
    exact (rejectDelivery_idle env _ _ _ _ _).idle rfl rfl
  · rw [if_neg hm, if_neg (by simp [hm])]
    cases delivery.parsed with
    | error error => exact (refuseUnparsed_idle env _ _ _).idle rfl rfl
    | ok event =>
      dsimp only
      unfold handleEvent
      rw [bind_apply]
      cases hrow : outboxRow? env.settings (delivery.provider env) event db with
      | some row =>
        rw [ensureOutboxEvent_of_some hrow]
        dsimp only
        by_cases hp : row.status = .processed
        · rw [if_pos hp, if_pos (Or.inl hp)]
          exact (answerDuplicate_idle env _ _).idle rfl rfl
        · have h := processOutboxEvent_core env (delivery.provider env) event row.id db queue 0
          rw [if_neg hp]
          cases hc : env.commitFails 0 with
          | true =>
            rw [hc] at h
            rw [if_pos (Or.inr rfl)]
            exact h
          | false =>
            rw [hc] at h
            rw [if_neg (by simp [hp])]
            exact h
      | none =>
        have hensure : ensureOutboxEvent env (delivery.provider env) event (opened db queue) = _ :=
          ensureOutboxEvent_of_none queue 0 hrow
        rw [hensure]
        by_cases hfits : env.settings.columnsEnforced ∧
            ¬(newOutboxEvent env.settings (delivery.provider env) event db).fits env.settings
        · rw [if_pos hfits, if_pos hfits]
          exact ⟨rfl, rfl⟩
        rw [if_neg hfits, if_neg hfits]
        cases h0 : env.commitFails 0 with
        | true =>
          rw [if_pos (Or.inl rfl)]
          exact ⟨rfl, rfl⟩
        | false =>
          -- the new row is pending, so the event goes to its handler
          have h := processOutboxEvent_core env (delivery.provider env) event
            (newOutboxEvent env.settings (delivery.provider env) event db).id
            { db with outbox := insert db.outbox (newOutboxEvent env.settings (delivery.provider env) event db) } queue 1
          cases h1 : env.commitFails 1 with
          | true =>
            rw [h1] at h
            rw [if_pos (Or.inr rfl)]
            exact h
          | false =>
            rw [h1] at h
            rw [if_neg (by simp)]
            exact h

/-- The mark an outbox row is given before its event is handled. -/
def markProcessing (row : PaymentEventOutbox) : PaymentEventOutbox :=
  { row with status := .processing, attempts := row.attempts + 1, lastError := none }

/-- The outbox in which an event is handled: its row is filed and marked. -/
def markedOutbox (settings : Settings) (provider : String) (event : WebhookEvent) (db : Db) : List PaymentEventOutbox :=
  match outboxRow? settings provider event db with
  | some row => Table.modify db.outbox row.id markProcessing
  | none =>
    let row := newOutboxEvent settings provider event db
    Table.modify (insert db.outbox row) row.id markProcessing

/-- Once the mark of its outbox row is committed, an event goes to its handler. -/
theorem processOutboxEvent_marked {env : Env} {tick : Nat} (provider : String) (event : WebhookEvent) (outboxId : Nat)
    (db : Db) (queue : List Task) (h : ¬env.commitFails tick) :
    processOutboxEvent env provider event outboxId (⟨db, db, queue, tick⟩ : DbSession) =
      runHandler env provider event outboxId
        (quiet db (Table.modify db.outbox outboxId markProcessing) queue (tick + 1)) := by
  unfold processOutboxEvent
  rw [bind_apply, markOutbox_apply, if_neg h]
  rfl

theorem processOutboxEvent_unmarked {env : Env} {tick : Nat} (provider : String) (event : WebhookEvent) (outboxId : Nat)
    (db : Db) (queue : List Task) (h : env.commitFails tick) :
    processOutboxEvent env provider event outboxId (⟨db, db, queue, tick⟩ : DbSession) =
      (.error .operationalError, ⟨db, db, queue, tick + 1⟩) := by
  unfold processOutboxEvent
  rw [bind_apply, markOutbox_apply, if_pos h]

/-- A delivery that reaches its handler runs it, with its outbox row marked. -/
theorem handleGatewayWebhook_delivered {env : Env} {db : Db} {delivery : WebhookDelivery} {event : WebhookEvent}
    {tick : Nat} (queue : List Task) (h : deliveredEvent env db delivery = some (event, tick)) :
    handleGatewayWebhook env delivery (opened db queue) =
      runHandler env (delivery.provider env) event
        ((outboxRow? env.settings (delivery.provider env) event db).getD
          (newOutboxEvent env.settings (delivery.provider env) event db)).id
        (quiet db (markedOutbox env.settings (delivery.provider env) event db) queue tick) := by
  unfold deliveredEvent at h
  unfold handleGatewayWebhook
  by_cases hm : delivery.decodeError.isSome ∨ delivery.mismatched env
  · rw [if_pos hm] at h
    cases h
  · have hdecode : delivery.decodeError = none := by
      cases hd : delivery.decodeError with
      | none => rfl
      | some error => exact absurd (Or.inl (by rw [hd]; rfl)) hm
    rw [if_neg hm] at h
    obtain ⟨payload, hdecoded⟩ := WebhookDelivery.decoded_of hdecode
    rw [hdecoded]
    dsimp only
    rw [if_neg fun hroute => hm (Or.inr hroute)]
    cases hparsed : delivery.parsed with
    | error e =>
      rw [hparsed] at h
      cases h
    | ok parsed =>
      rw [hparsed] at h
      dsimp only at h ⊢
      unfold handleEvent
      cases hrow : outboxRow? env.settings (delivery.provider env) parsed db with
      | some row =>
        rw [hrow] at h
        dsimp only at h
        split at h
        · cases h
        · rename_i hnot
          cases h
          -- the row of an earlier delivery is used again: the only commit before the handler marks it
          have hp : row.status ≠ .processed := fun hp => hnot (Or.inl hp)
          have h0 : ¬env.commitFails 0 := fun h0 => hnot (Or.inr h0)
          have hmark := processOutboxEvent_marked (delivery.provider env) event row.id db queue h0
          unfold markedOutbox
          rw [bind_ok (ensureOutboxEvent_of_some hrow), if_neg hp, hrow]
          exact hmark
      | none =>
        rw [hrow] at h
        dsimp only at h
        split at h
        · cases h
        · rename_i hfits
          split at h
          · cases h
          · rename_i hnot
            cases h
            have h0 : ¬env.commitFails 0 := fun h0 => hnot (Or.inl h0)
            have h1 : ¬env.commitFails 1 := fun h1 => hnot (Or.inr h1)
            -- a new row has a commit of its own, so the mark is the second one
            have hensure := ensureOutboxEvent_of_none queue 0 hrow
            rw [if_neg hfits, if_neg h0] at hensure
            have hpending : (newOutboxEvent env.settings (delivery.provider env) event db).status ≠ .processed :=
              show OutboxStatus.pending ≠ .processed by decide
            have hmark := processOutboxEvent_marked (delivery.provider env) event
              (newOutboxEvent env.settings (delivery.provider env) event db).id
              { db with outbox := insert db.outbox (newOutboxEvent env.settings (delivery.provider env) event db) } queue h1
            unfold markedOutbox
            rw [show (opened db queue : DbSession) = ⟨db, db, queue, 0⟩ from rfl, bind_ok hensure, if_neg hpending, hrow]
            exact hmark

/-- A delivery that reaches its handler leaves the rows the handler commits. -/
theorem handleGatewayWebhook_rows {env : Env} {db : Db} {delivery : WebhookDelivery} {event : WebhookEvent} {tick : Nat}
    (queue : List Task) (h : deliveredEvent env db delivery = some (event, tick)) :
    ∃ outbox, (handleGatewayWebhook env delivery (opened db queue)).2.saved.core =
      (appliedRows env (delivery.provider env) event tick { db with outbox := outbox }).core := by
  have hcore := handleGatewayWebhook_core env db delivery queue
  rw [h] at hcore
  obtain ⟨outbox, hsaved, -⟩ := hcore
  exact ⟨outbox, hsaved.trans (processEvent_core env _ event rfl).1⟩

/-- A delivery that reaches no handler leaves the rows but for the books. -/
theorem handleGatewayWebhook_idle {env : Env} {db : Db} {delivery : WebhookDelivery} (queue : List Task)
    (h : deliveredEvent env db delivery = none) :
    (handleGatewayWebhook env delivery (opened db queue)).2.saved.core = db.core := by
  have hcore := handleGatewayWebhook_core env db delivery queue
  rw [h] at hcore
  exact hcore.1

end ControlPlane
