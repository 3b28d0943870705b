import ControlPlane.Billing.Delivery

/-!
# The payment events a delivery records

The handlers write neither the outbox nor `payment_events`; only `record_payment_event` writes the latter.  A delivery
that returns or raises comes to it once, at the end, except where an exception of the decoder, the parser or the outbox
is not caught.
-/

namespace ControlPlane

open Table Session Session.Proc

/-- What the service around the handlers writes: the outbox and the payment events. -/
def Db.webhookLog (db : Db) : List PaymentEventOutbox × List PaymentEvent := (db.outbox, db.paymentEvents)

/-- `p` leaves the outbox and the payment events as they are. -/
def LeavesWebhookLog {α : Type} (p : Proc α) : Prop :=
  ∀ log, Keeps (Rows (fun db : Db => db.webhookLog = log) fun _ => True) p

namespace LeavesWebhookLog

variable {α β : Type}

theorem bind {p : Proc α} {f : α → Proc β} (hp : LeavesWebhookLog p) (hf : ∀ a, LeavesWebhookLog (f a)) :
    LeavesWebhookLog (p >>= f) := fun log => Keeps.bind (hp log) fun a => hf a log

theorem pure (a : α) : LeavesWebhookLog (pure a : Proc α) := fun _ => Keeps.pure a

theorem read : LeavesWebhookLog (read : Proc Db) := fun _ => Keeps.read

theorem modify {f : Db → Db} (hf : ∀ db, (f db).webhookLog = db.webhookLog) :
    LeavesWebhookLog (modify f : Proc Unit) := fun _ => Keeps.modify fun db h => (hf db).trans h

theorem commit (env : Env) : LeavesWebhookLog (commit env) := fun _ => Keeps.commit fun _ _ _ _ h => h

theorem change {env : Env} {f : Time → PlatformErpClient → Db → Except PyError (α × Db)}
    (hf : ∀ now client db a db', f now client db = .ok (a, db') → db'.webhookLog = db.webhookLog) :
    LeavesWebhookLog (change env f) := fun _ =>
  Keeps.bind Keeps.now fun _ => Keeps.body fun db a db' h hok => (hf _ _ db a db' hok).trans h

theorem recordAuditEvent (env : Env) (action resource : String) (id : Option Nat) :
    LeavesWebhookLog (recordAuditEvent env action resource id) :=
  .bind (.bind (fun _ => Keeps.now) fun _ => .pure _) fun _ => .bind (.modify fun _ => rfl) fun _ => .commit env

theorem enqueueJob (env : Env) (job : Job) (task : Task) : LeavesWebhookLog (enqueueJob env job task) :=
  .bind (fun _ => Keeps.call fun _ _ _ _ _ _ => trivial) fun _ => .bind (.modify fun _ => rfl) fun _ =>
    .bind (.commit env) fun _ => .pure _

theorem enqueueProvisioningForPaidTenant (env : Env) (tenantId : Nat) (ownerEmail : String) :
    LeavesWebhookLog (enqueueProvisioningForPaidTenant env tenantId ownerEmail) := by
  refine .bind .read fun db => ?_
  cases liveCreateJob db tenantId with
  | none =>
    refine .bind (.bind (.change fun now client db a db' h => ?_) fun _ => .bind (.commit env) fun _ => .pure _)
      fun job => .bind (.enqueueJob env job _) fun _ => .pure _
    cases h
    rfl
  | some existing =>
    dsimp only
    split
    · exact .bind (.enqueueJob env existing _) fun _ => .pure _
    · exact .pure _

theorem eventFollowUp (env : Env) (eventType : WebhookEventType) (tenantId : Nat) (email : Option String) :
    LeavesWebhookLog (eventFollowUp env eventType tenantId email) := by
  cases eventType with
  | paymentConfirmed =>
    exact .bind (.enqueueProvisioningForPaidTenant env _ _) fun _ => .bind (.recordAuditEvent env _ _ _) fun _ => .pure _
  | paymentFailed => exact .bind (.recordAuditEvent env _ _ _) fun _ => .pure _
  | subscriptionCancelled => exact .bind (.recordAuditEvent env _ _ _) fun _ => .pure _
  | other name => exact .pure _

end LeavesWebhookLog

/-- The tables an event writes. -/
theorem eventBody_frame {provider : String} {event : WebhookEvent} {now : Time} {client : PlatformErpClient}
    {db db' : Db} {handled : Handled} (h : eventBody provider event now client db = .ok (handled, db')) :
    ∃ tenants plans subscriptions accounts invoices attempts events,
      db' = { db with tenants := tenants, plans := plans, subscriptions := subscriptions, accounts := accounts
                      invoices := invoices, attempts := attempts, events := events } := by
  unfold eventBody at h
  split at h
  · rcases confirmPayment_ok h with ⟨m, -, rfl, -⟩ | ⟨_, tenant, paying, paid, s, activated, ensured, settled, -, hc⟩
    · exact ⟨_, _, _, _, _, _, _, rfl⟩
    · obtain ⟨plans, subscriptions, hensured⟩ := hc.ensured_eq
      obtain ⟨accounts, invoices, attempts, events, hframe⟩ :=
        settleInvoiceBackedPaymentConfirmation_frame hc.settled_eq
      rw [hc.rows, hframe, hensured]
      exact ⟨_, _, _, _, _, _, _, rfl⟩
  · rcases failPayment_ok h with ⟨m, -, rfl, -⟩ | ⟨_, tenant, paying, failed, s, pastDue, ensured, -, hf⟩
    · exact ⟨_, _, _, _, _, _, _, rfl⟩
    · obtain ⟨plans, subscriptions, hensured⟩ := hf.ensured_eq
      obtain ⟨attempts, events, hframe⟩ := applyInvoiceBackedPaymentFailure_frame ensured paying s
        (resolveInvoiceBackedContext db provider event.tenantId event.subscriptionId event.raw).paymentAttempt provider
        event.raw now
      rw [hf.rows, hframe, hensured]
      exact ⟨_, _, _, _, _, _, _, rfl⟩
  · rcases cancelSubscription_parts h with ⟨m, -, rfl, -⟩ | ⟨_, _, _, _, _, _, -, -, hsub, -, -, rfl⟩
    · exact ⟨_, _, _, _, _, _, _, rfl⟩
    · obtain ⟨-, plans, subscriptions, rfl⟩ := ensureSubscription_ok hsub
      exact ⟨_, _, _, _, _, _, _, rfl⟩
  · cases h
    exact ⟨_, _, _, _, _, _, _, rfl⟩

theorem eventBody_webhookLog {provider : String} {event : WebhookEvent} {now : Time} {client : PlatformErpClient}
    {db db' : Db} {handled : Handled} (h : eventBody provider event now client db = .ok (handled, db')) :
    db'.webhookLog = db.webhookLog := by
  obtain ⟨tenants, plans, subscriptions, accounts, invoices, attempts, events, rfl⟩ := eventBody_frame h
  rfl

theorem processEvent_leavesWebhookLog (env : Env) (provider : String) (event : WebhookEvent) :
    LeavesWebhookLog (processEvent env provider event) := by
  rw [processEvent_eq]
  refine .bind (.change fun _ _ _ _ _ h => eventBody_webhookLog h) fun handled => ?_
  cases handled with
  | ignored message => exact .pure _
  | changed tenantId email => exact .bind (.commit env) fun _ => .eventFollowUp env _ _ _

theorem processEvent_webhookLog (env : Env) (provider : String) (event : WebhookEvent) {s : DbSession}
    (hs : s.work = s.saved) :
    (processEvent env provider event s).2.work.webhookLog = s.saved.webhookLog ∧
      (processEvent env provider event s).2.saved.webhookLog = s.saved.webhookLog := by
  have h := (processEvent_leavesWebhookLog env provider event s.saved.webhookLog).apply
    (show Rows _ _ s from ⟨by rw [hs], rfl, trivial⟩)
  exact ⟨h.1, h.2.1⟩

/-! ### The answers of a handler -/

/-- The answer to an event that finds no tenant, or is none of the billing events. -/
def ignoredMessage (event : WebhookEvent) : String :=
  match event.eventType with
  | .paymentConfirmed | .paymentFailed => tenantMissingMessage event.tenantId
  | .subscriptionCancelled => "ignored:tenant-not-found"
  | .other _ => "ignored"

theorem eventBody_ignored_message {provider : String} {event : WebhookEvent} {now : Time} {client : PlatformErpClient}
    {db db' : Db} {message : String} (h : eventBody provider event now client db = .ok (.ignored message, db')) :
    eventTenant provider event db = none ∧ message = ignoredMessage event := by
  unfold eventBody at h
  unfold eventTenant ignoredMessage
  -- each handler ignores an event in one place, where it finds no tenant
  cases htype : event.eventType with
  | paymentConfirmed =>
    simp only [htype] at h ⊢
    unfold confirmPayment at h
    dsimp only at h
    split at h
    · rename_i hnone
      cases h
      exact ⟨hnone, rfl⟩
    · split at h
      · cases h
      · obtain ⟨r₁, -, h⟩ := bind_eq_ok.1 h
        obtain ⟨r₂, -, h⟩ := bind_eq_ok.1 h
        obtain ⟨r₃, -, h⟩ := bind_eq_ok.1 h
        cases h
  | paymentFailed =>
    simp only [htype] at h ⊢
    unfold failPayment at h
    dsimp only at h
    split at h
    · rename_i hnone
      cases h
      exact ⟨hnone, rfl⟩
    · obtain ⟨r₁, -, h⟩ := bind_eq_ok.1 h
      obtain ⟨r₂, -, h⟩ := bind_eq_ok.1 h
      cases h
  | subscriptionCancelled =>
    simp only [htype] at h ⊢
    rcases cancelSubscription_ok h with ⟨m, hhandled, -, hnone⟩ | ⟨_, _, hhandled, -⟩
    · refine ⟨hnone, ?_⟩
      unfold cancelSubscription at h
      rw [hnone] at h
      cases h
      rfl
    · cases hhandled
  | other name =>
    simp only [htype] at h
    cases h
    simp

theorem eventFollowUp_answer {env : Env} {eventType : WebhookEventType} {tenantId : Nat} {email : Option String}
    {s : DbSession} {answer : String} (hbilling : ∀ name, eventType ≠ .other name)
    (h : (eventFollowUp env eventType tenantId email s).1 = .ok answer) : answer = processedMessage eventType := by
  cases eventType with
  | paymentConfirmed =>
    obtain ⟨_, _, -, h⟩ := of_bind_ok h
    obtain ⟨_, _, -, h⟩ := of_bind_ok h
    cases h; rfl
  | paymentFailed =>
    obtain ⟨_, _, -, h⟩ := of_bind_ok h
    cases h; rfl
  | subscriptionCancelled =>
    obtain ⟨_, _, -, h⟩ := of_bind_ok h
    cases h; rfl
  | other name => exact absurd rfl (hbilling name)

/-- A handler that returns answers that the event was processed if it found the event's tenant, and that it was ignored
if not. -/
theorem processEvent_answer {env : Env} {provider : String} {event : WebhookEvent} {s : DbSession} {answer : String}
    (h : (processEvent env provider event s).1 = .ok answer) :
    answer = if (eventTenant provider event s.work).isSome then processedMessage event.eventType
      else ignoredMessage event := by
  rw [processEvent_eq, change_bind] at h
  cases hbody : eventBody provider event (env.clock s.tick) (env.erp s.tick) s.work with
  | error e =>
    rw [hbody] at h
    cases h
  | ok r =>
    obtain ⟨handled, db'⟩ := r
    rw [hbody] at h
    cases handled with
    | ignored message =>
      obtain ⟨hnone, rfl⟩ := eventBody_ignored_message hbody
      cases h
      rw [hnone]
      rfl
    | changed tenantId email =>
      obtain ⟨tenant, htenant, -⟩ := eventBody_changed hbody
      obtain ⟨_, _, -, h⟩ := of_bind_ok h
      rw [htenant]
      exact eventFollowUp_answer (billing_of_eventTenant htenant) h

/-! ### Recording -/

/-- A payment event is recorded, unless it does not fit its columns or the commit fails. -/
theorem recordPaymentEvent_apply (env : Env) (provider eventType processingStatus : String) (httpStatus : Nat)
    (message : String) (event : Option WebhookEvent) (payload : Json) (db : Db) (queue : List Task) (tick : Nat) :
    let row := newPaymentEvent provider eventType processingStatus httpStatus message event db
    recordPaymentEvent env provider eventType processingStatus httpStatus message event payload
        (⟨db, db, queue, tick⟩ : DbSession) =
      if env.settings.columnsEnforced ∧ ¬row.fits env.settings payload then (.ok (), ⟨db, db, queue, tick⟩)
      else if env.commitFails tick then (.ok (), ⟨db, db, queue, tick + 1⟩)
      else (.ok (), ⟨{ db with paymentEvents := insert db.paymentEvents row },
        { db with paymentEvents := insert db.paymentEvents row }, queue, tick + 1⟩) := by
  intro row
  have hflush : Db.flush (env.clock tick) db { db with paymentEvents := insert db.paymentEvents row } =
      { db with paymentEvents := insert db.paymentEvents row } := Db.flush_of_eq rfl rfl
  unfold recordPaymentEvent attempt commitRow
  rw [bind_ok (read_apply _)]
  dsimp only
  rw [bind_ok (modify_apply _ _)]
  by_cases hfits : env.settings.columnsEnforced ∧ ¬row.fits env.settings payload
  · rw [if_pos hfits, if_pos hfits]
    rfl
  · rw [if_neg hfits, if_neg hfits, commit_apply]
    dsimp only
    rw [hflush]
    cases env.commitFails tick with
    | true => rfl
    | false => rfl

/-- Recording always returns, and leaves at most the new payment event. -/
theorem recordPaymentEvent_returns (env : Env) (provider eventType processingStatus : String) (httpStatus : Nat)
    (message : String) (event : Option WebhookEvent) (payload : Json) (db : Db) (queue : List Task) (tick : Nat) :
    ∃ s', recordPaymentEvent env provider eventType processingStatus httpStatus message event payload
        (⟨db, db, queue, tick⟩ : DbSession) = (.ok (), s') ∧
      (s'.saved.paymentEvents = db.paymentEvents ∨ s'.saved.paymentEvents = db.paymentEvents ++
        [newPaymentEvent provider eventType processingStatus httpStatus message event db]) := by
  rw [recordPaymentEvent_apply]
  split
  · exact ⟨_, rfl, Or.inl rfl⟩
  · split
    · exact ⟨_, rfl, Or.inl rfl⟩
    · exact ⟨_, rfl, Or.inr rfl⟩

/-- A mark on the outbox that is committed leaves nothing uncommitted. -/
theorem markOutbox_ok {env : Env} {id : Nat} {f : Time → PaymentEventOutbox → PaymentEventOutbox} {s s' : DbSession}
    {u : Unit} (h : markOutbox env id f s = (.ok u, s')) :
    ∃ db, s' = ⟨db, db, s.outside, s.tick + 1⟩ ∧ db.paymentEvents = s.work.paymentEvents := by
  unfold markOutbox at h
  rw [bind_ok (utcnow_apply env _), bind_ok (modify_apply _ _), commit_apply] at h
  dsimp only at h
  split at h
  · cases h
  · cases h
    exact ⟨_, rfl, rfl⟩

theorem recordProcessingFailure_raises (env : Env) (provider : String) (event : WebhookEvent) (outboxId : Nat)
    (e : PyError) (s : DbSession) (answer : String) :
    (recordProcessingFailure env provider event outboxId e s).1 ≠ .ok answer := by
  intro h
  obtain ⟨_, _, -, h⟩ := of_bind_ok h
  obtain ⟨_, _, -, h⟩ := of_bind_ok h
  obtain ⟨_, _, -, h⟩ := of_bind_ok h
  cases h

/-- What a handler that returns leaves recorded. -/
theorem runHandler_ok {env : Env} {provider : String} {event : WebhookEvent} {outboxId : Nat} {s : DbSession}
    {answer : String} (h : (runHandler env provider event outboxId s).1 = .ok answer) :
    (processEvent env provider event s).1 = .ok answer ∧ ∃ db queue tick,
      db.paymentEvents = (processEvent env provider event s).2.work.paymentEvents ∧
      (runHandler env provider event outboxId s).2 = (recordPaymentEvent env provider event.eventType.text
        (resolveProcessingStatus answer) 200 answer (some event) event.raw (⟨db, db, queue, tick⟩ : DbSession)).2 := by
  obtain ⟨response, s₁, hattempt, hrest⟩ := of_bind_ok h
  rcases of_attempt_ok hattempt with hp | ⟨e, s₂, -, hfail⟩
  · obtain ⟨u, s₂, hmark, hrest⟩ := of_bind_ok hrest
    obtain ⟨db, rfl, hevents⟩ := markOutbox_ok hmark
    obtain ⟨s₃, hrecord, -⟩ := recordPaymentEvent_returns env provider event.eventType.text
      (resolveProcessingStatus response) 200 response (some event) event.raw db s₁.outside (s₁.tick + 1)
    rw [bind_ok hrecord] at hrest
    cases hrest
    refine ⟨by rw [hp], db, s₁.outside, s₁.tick + 1, by rw [hp]; exact hevents, ?_⟩
    unfold runHandler
    rw [bind_ok hattempt, bind_ok hmark, bind_ok hrecord, hrecord]
    rfl
  · exact absurd (congrArg Prod.fst hfail) (recordProcessingFailure_raises env provider event outboxId e s₂ response)

/-- A delivery that returns leaves at most one new payment event, with the classification of its answer. -/
theorem handleGatewayWebhook_recorded {env : Env} {db : Db} {delivery : WebhookDelivery} {event : WebhookEvent}
    {tick : Nat} {queue : List Task} {answer : String} (h : deliveredEvent env db delivery = some (event, tick))
    (hanswer : (handleGatewayWebhook env delivery (opened db queue)).1 = .ok answer) :
    (answer = if (eventTenant (delivery.provider env) event db).isSome then processedMessage event.eventType
      else ignoredMessage event) ∧
    ∀ row, (handleGatewayWebhook env delivery (opened db queue)).2.saved.paymentEvents = db.paymentEvents ++ [row] →
      row.processingStatus = resolveProcessingStatus answer := by
  have hrun := handleGatewayWebhook_delivered queue h
  generalize markedOutbox env.settings (delivery.provider env) event db = outbox at hrun
  generalize PaymentEventOutbox.id _ = outboxId at hrun
  rw [hrun] at hanswer ⊢
  obtain ⟨hprocess, rows, queue', tick', hevents, hrecord⟩ := runHandler_ok hanswer
  refine ⟨processEvent_answer hprocess, fun row hrow => ?_⟩
  have hkept : rows.paymentEvents = db.paymentEvents := by
    rw [hevents]
    exact congrArg Prod.snd
      (processEvent_webhookLog env (delivery.provider env) event (show (quiet db outbox queue tick).work = _ from rfl)).1
  obtain ⟨s', hs', hor⟩ := recordPaymentEvent_returns env (delivery.provider env) event.eventType.text
    (resolveProcessingStatus answer) 200 answer (some event) event.raw rows queue' tick'
  rw [hrecord, hs'] at hrow
  rcases hor with hsame | hnew
  · rw [hsame, hkept] at hrow
    simp at hrow
  · rw [hnew, hkept] at hrow
    have hlast := List.append_cancel_left hrow
    cases hlast
    rfl

/-! ### Duplicates -/

/-- The answer to an event that was processed before. -/
def duplicateMessage (eventType : WebhookEventType) : String :=
  if eventType = .other "ignored" then "ignored:duplicate" else processedMessage eventType

/-- A delivery of an event whose outbox row is processed is answered by the event's type. -/
theorem handleGatewayWebhook_duplicate {env : Env} {db : Db} {delivery : WebhookDelivery} {event : WebhookEvent}
    {outboxRow : PaymentEventOutbox} (queue : List Task) (hdecoded : delivery.decodeError = none)
    (hroute : delivery.mismatched env = false)
    (hparsed : delivery.parsed = .ok event)
    (hrow : outboxRow? env.settings (delivery.provider env) event db = some outboxRow)
    (hprocessed : outboxRow.status = .processed) :
    (handleGatewayWebhook env delivery (opened db queue)).1 = .ok (duplicateMessage event.eventType) ∧
    (handleGatewayWebhook env delivery (opened db queue)).2 =
      (recordPaymentEvent env (delivery.provider env) event.eventType.text
        (resolveProcessingStatus (duplicateMessage event.eventType)) 200 (duplicateMessage event.eventType) (some event)
        event.raw (opened db queue)).2 := by
  obtain ⟨s', hs', -⟩ := recordPaymentEvent_returns env (delivery.provider env) event.eventType.text
    (resolveProcessingStatus (duplicateMessage event.eventType)) 200 (duplicateMessage event.eventType) (some event)
    event.raw db queue 0
  have heq : handleGatewayWebhook env delivery (opened db queue) =
      answerDuplicate env (delivery.provider env) event (opened db queue) := by
    obtain ⟨payload, hpayload⟩ := WebhookDelivery.decoded_of hdecoded
    unfold handleGatewayWebhook
    rw [hpayload]
    dsimp only
    rw [if_neg (Bool.eq_false_iff.1 hroute), hparsed]
    dsimp only
    unfold handleEvent
    rw [bind_ok (ensureOutboxEvent_of_some hrow), if_pos hprocessed]
  have hanswer : answerDuplicate env (delivery.provider env) event (opened db queue) =
      (.ok (duplicateMessage event.eventType), s') := bind_ok hs'
  rw [heq, hanswer]
  exact ⟨rfl, (congrArg Prod.snd hs').symm⟩

end ControlPlane
