import ControlPlane.Billing.Recording
import ControlPlane.Billing.WebhookRequests
import ControlPlane.System

/-!
# Which webhook requests are accounted for

Every exit of `handle_gateway_webhook` that records a payment event records it last, with the HTTP status it answers.
The exits differ in what they record: some record nothing, and what an unbilled event records is none of the outcomes.
-/

namespace ControlPlane

open Table Session Session.Proc

/-- The outcomes a payment event stands for. -/
def outcomes : List String := ["processed", "ignored", "error", "rejected"]

/-- The HTTP status a caller receives; an exception that is not an HTTP error is answered 500. -/
def answeredStatus : Except PyError String → Nat
  | .ok _ => 200
  | .error error => error.httpStatus

/-- A delivery leaves exactly one new payment event, with an outcome and the HTTP status its caller receives. -/
def Accounted (env : Env) (delivery : WebhookDelivery) (db : Db) (queue : List Task) : Prop :=
  ∃ row, (handleGatewayWebhook env delivery (opened db queue)).2.saved.paymentEvents = db.paymentEvents ++ [row] ∧
    row.processingStatus ∈ outcomes ∧
    row.httpStatus = answeredStatus (handleGatewayWebhook env delivery (opened db queue)).1

/-- The texts that are taken from a delivery fit their columns and can be stored. -/
def fileable (settings : Settings) (provider eventType : String) (event : Option WebhookEvent) : Bool :=
  settings.storage.takes 30 (some provider) && fitsColumn 50 (some eventType) &&
    settings.storage.takes 36 ((event.bind WebhookEvent.tenantId).map settings.idText) &&
    settings.storage.takes 120 (event.bind WebhookEvent.subscriptionId) &&
    settings.storage.takes 120 (event.bind WebhookEvent.customerRef)

/-- A payment event for a delivery can be stored. -/
def recordable (settings : Settings) (provider eventType : String) (event : Option WebhookEvent) (payload : Json) : Bool :=
  fileable settings provider eventType event && settings.storage.takesJson payload

/-- When an event is accounted for that is parsed: it can be recorded; and, unless it was processed before, it is a billing
event, and its key fits where it is new. -/
def AccountableEvent (settings : Settings) (provider : String) (event : WebhookEvent) (db : Db) : Prop :=
  recordable settings provider event.eventType.text (some event) event.raw = true ∧
    match outboxRow? settings provider event db with
    | some row => row.status = .processed ∨ ∀ name, event.eventType ≠ .other name
    | none =>
      fitsColumn 128 (some (buildOutboxDedupKey settings provider event)) = true ∧ ∀ name, event.eventType ≠ .other name

/-- When a delivery is accounted for: its body can be decoded; a delivery that is refused has a provider and a payload that
can be stored; the parser raises nothing but a `ValueError`; and its event is accountable. -/
def WebhookDelivery.Accountable (env : Env) (db : Db) (delivery : WebhookDelivery) : Prop :=
  ∃ payload, delivery.decoded = .ok payload ∧
    if delivery.mismatched env then
      env.settings.storage.takes 30 (delivery.routeProvider.map normalize) = true ∧
        env.settings.storage.takesJson payload = true
    else
      match delivery.parsed with
      | .error (.valueError _) => env.settings.storage.takes 30 (some (delivery.provider env)) = true ∧
          env.settings.storage.takesJson payload = true
      | .error _ => False
      | .ok event => AccountableEvent env.settings (delivery.provider env) event db

/-- Every commit of a delivery that is not its handler's goes through. -/
def WorkingDatabase (env : Env) (db : Db) (delivery : WebhookDelivery) (queue : List Task) : Prop :=
  ∀ tick, env.commitFails tick = true → ∃ event start, deliveredEvent env db delivery = some (event, start) ∧
    ∀ outbox, start ≤ tick ∧
      tick < (processEvent env (delivery.provider env) event (quiet db outbox queue start)).2.tick

/-! ### Recording where commits go through -/

theorem newPaymentEvent_fits {settings : Settings} {provider eventType processingStatus message : String}
    {httpStatus : Nat} {event : Option WebhookEvent} {payload : Json} {db : Db} (hstatus : processingStatus.length ≤ 20) :
    (newPaymentEvent provider eventType processingStatus httpStatus message event db).fits settings payload =
      recordable settings provider eventType event payload := by
  have h : fitsColumn 20 (some processingStatus) = true := by
    simpa [fitsColumn] using hstatus
  unfold PaymentEvent.fits recordable fileable newPaymentEvent
  dsimp only
  rw [h, Bool.and_true]

/-- The outcome ends with the recording of a payment event, by a commit that does not fail. -/
def EndsRecording (env : Env) (events : List PaymentEvent) (s : DbSession)
    (provider eventType processingStatus : String) (httpStatus : Nat) (message : String)
    (event : Option WebhookEvent) (payload : Json) : Prop :=
  ∃ db queue tick, db.paymentEvents = events ∧ env.commitFails tick = false ∧
    s = (recordPaymentEvent env provider eventType processingStatus httpStatus message event payload
      (⟨db, db, queue, tick⟩ : DbSession)).2

theorem EndsRecording.saved {env : Env} {events : List PaymentEvent} {s : DbSession}
    {provider eventType processingStatus message : String} {httpStatus : Nat} {event : Option WebhookEvent} {payload : Json}
    (henforced : env.settings.columnsEnforced = true) (hstatus : processingStatus.length ≤ 20)
    (h : EndsRecording env events s provider eventType processingStatus httpStatus message event payload) :
    (recordable env.settings provider eventType event payload = true ∧ ∃ row, s.saved.paymentEvents = events ++ [row] ∧
        row.processingStatus = processingStatus ∧ row.httpStatus = httpStatus) ∨
      recordable env.settings provider eventType event payload = false ∧ s.saved.paymentEvents = events := by
  obtain ⟨db, queue, tick, rfl, hcommit, rfl⟩ := h
  rw [recordPaymentEvent_apply, henforced, newPaymentEvent_fits hstatus, hcommit]
  cases hrecordable : recordable env.settings provider eventType event payload with
  | true => exact Or.inl ⟨rfl, _, rfl, rfl, rfl⟩
  | false => exact Or.inr ⟨rfl, rfl⟩

/-- A delivery that ends with recording an outcome and answers its status is accounted for if the event fits. -/
theorem EndsRecording.accounted {env : Env} {db : Db} {delivery : WebhookDelivery} {queue : List Task}
    {provider eventType processingStatus message : String} {httpStatus : Nat} {event : Option WebhookEvent} {payload : Json}
    (henforced : env.settings.columnsEnforced = true) (hstatus : processingStatus.length ≤ 20)
    (h : EndsRecording env db.paymentEvents (handleGatewayWebhook env delivery (opened db queue)).2 provider eventType
      processingStatus httpStatus message event payload)
    (hanswer : answeredStatus (handleGatewayWebhook env delivery (opened db queue)).1 = httpStatus) :
    Accounted env delivery db queue ↔
      recordable env.settings provider eventType event payload = true ∧ processingStatus ∈ outcomes := by
  unfold Accounted
  rcases h.saved henforced hstatus with ⟨hfits, row, hrow, hrowStatus, hrowHttp⟩ | ⟨hfits, hsame⟩
  · constructor
    · rintro ⟨row', hrow', houtcome, -⟩
      rw [hrow] at hrow'
      cases List.append_cancel_left hrow'
      exact ⟨hfits, hrowStatus ▸ houtcome⟩
    · rintro ⟨-, houtcome⟩
      exact ⟨row, hrow, hrowStatus ▸ houtcome, by rw [hrowHttp, hanswer]⟩
  · constructor
    · rintro ⟨row', hrow', -⟩
      rw [hsame] at hrow'
      simp at hrow'
    · rintro ⟨hfits', -⟩
      rw [hfits] at hfits'
      cases hfits'

/-- A delivery that leaves no payment event is not accounted for. -/
theorem not_accounted {env : Env} {db : Db} {delivery : WebhookDelivery} {queue : List Task}
    (h : (handleGatewayWebhook env delivery (opened db queue)).2.saved.paymentEvents = db.paymentEvents) :
    ¬Accounted env delivery db queue := by
  rintro ⟨row, hrow, -⟩
  rw [h] at hrow
  simp at hrow

/-! ### The exits -/

/-- A mark on the outbox whose commit goes through leaves nothing uncommitted. -/
theorem markOutbox_commits {env : Env} (id : Nat) (f : Time → PaymentEventOutbox → PaymentEventOutbox) {s : DbSession}
    (hcommit : env.commitFails s.tick = false) :
    ∃ db, markOutbox env id f s = (.ok (), ⟨db, db, s.outside, s.tick + 1⟩) ∧
      db.paymentEvents = s.work.paymentEvents := by
  unfold markOutbox
  rw [bind_ok (utcnow_apply env _), bind_ok (modify_apply _ _), commit_apply]
  dsimp only
  rw [hcommit]
  exact ⟨_, rfl, rfl⟩

/-- A handler's end records what it answered, or the exception it raised. -/
theorem runHandler_records {env : Env} {provider : String} {event : WebhookEvent} {s : DbSession} (outboxId : Nat)
    (hs : s.work = s.saved)
    (hmark : env.commitFails (processEvent env provider event s).2.tick = false)
    (hrecord : env.commitFails ((processEvent env provider event s).2.tick + 1) = false) :
    match (processEvent env provider event s).1 with
    | .ok answer => (runHandler env provider event outboxId s).1 = .ok answer ∧
        EndsRecording env s.saved.paymentEvents (runHandler env provider event outboxId s).2 provider event.eventType.text
          (resolveProcessingStatus answer) 200 answer (some event) event.raw
    | .error e =>
        (runHandler env provider event outboxId s).1 = .error (.httpException e.httpStatus e.message) ∧
        EndsRecording env s.saved.paymentEvents (runHandler env provider event outboxId s).2 provider
          event.eventType.text "error" e.httpStatus e.message (some event) event.raw := by
  have hkept := processEvent_webhookLog env provider event hs
  -- either way the row is marked with one commit and the request recorded with the next
  cases hp : processEvent env provider event s with
  | mk r s₁ =>
    rw [hp] at hmark hrecord hkept
    cases r with
    | ok answer =>
      obtain ⟨rows, hmarked, hevents⟩ := markOutbox_commits outboxId
        (fun time o => { o with status := .processed, lastError := none, processedAt := some time }) hmark
      obtain ⟨s₂, hs₂, -⟩ := recordPaymentEvent_returns env provider event.eventType.text
        (resolveProcessingStatus answer) 200 answer (some event) event.raw rows s₁.outside (s₁.tick + 1)
      have hrun : runHandler env provider event outboxId s = (.ok answer, s₂) := by
        unfold runHandler
        rw [bind_ok (attempt_ok _ hp), bind_ok hmarked, bind_ok hs₂]
        rfl
      rw [hrun]
      exact ⟨rfl, rows, s₁.outside, s₁.tick + 1, hevents.trans (congrArg Prod.snd hkept.1), hrecord, by rw [hs₂]⟩
    | error e =>
      obtain ⟨rows, hmarked, hevents⟩ := markOutbox_commits outboxId
        (fun _ o => { o with status := .failed, lastError := some e.message })
        (s := ({ s₁ with work := s₁.saved } : DbSession)) hmark
      obtain ⟨s₂, hs₂, -⟩ := recordPaymentEvent_returns env provider event.eventType.text "error" e.httpStatus
        e.message (some event) event.raw rows s₁.outside (s₁.tick + 1)
      have hfail : recordProcessingFailure env provider event outboxId e s₁ =
          (.error (.httpException e.httpStatus e.message), s₂) := by
        unfold recordProcessingFailure
        rw [bind_ok (rollback_apply s₁), bind_ok hmarked, bind_ok hs₂]
        rfl
      have hrun : runHandler env provider event outboxId s =
          (.error (.httpException e.httpStatus e.message), s₂) := by
        unfold runHandler
        rw [bind_apply, attempt_error _ hp, hfail]
      rw [hrun]
      exact ⟨rfl, rows, s₁.outside, s₁.tick + 1, hevents.trans (congrArg Prod.snd hkept.2), hrecord, by rw [hs₂]⟩

/-- A refused delivery ends with recording the refusal. -/
theorem rejectDelivery_records {env : Env} {db : Db} {queue : List Task} {tick : Nat}
    (provider eventType processingStatus message : String) (payload : Json) (hcommit : env.commitFails tick = false) :
    (rejectDelivery env provider eventType processingStatus message payload (⟨db, db, queue, tick⟩ : DbSession)).1 =
        .error (.httpException 400 message) ∧
      EndsRecording env db.paymentEvents
        (rejectDelivery env provider eventType processingStatus message payload (⟨db, db, queue, tick⟩ : DbSession)).2
        provider eventType processingStatus 400 message none payload := by
  obtain ⟨s₂, hs₂, -⟩ := recordPaymentEvent_returns env provider eventType processingStatus 400 message none payload db queue
    tick
  have hrun : rejectDelivery env provider eventType processingStatus message payload (⟨db, db, queue, tick⟩ : DbSession) =
      (.error (.httpException 400 message), s₂) := by
    unfold rejectDelivery
    rw [bind_ok hs₂]
    rfl
  rw [hrun]
  exact ⟨rfl, db, queue, tick, rfl, hcommit, by rw [hs₂]⟩

/-! ### What the answers record -/

theorem resolveProcessingStatus_processed (eventType : WebhookEventType) :
    resolveProcessingStatus (processedMessage eventType) = "processed" := by
  unfold resolveProcessingStatus processedMessage
  rw [if_pos]
  rw [String.toList_append]
  exact List.isPrefixOf_iff_prefix.2 (List.prefix_append ..)

theorem duplicateMessage_outcome (eventType : WebhookEventType) :
    resolveProcessingStatus (duplicateMessage eventType) ∈ outcomes := by
  unfold duplicateMessage
  split
  · decide
  · rw [resolveProcessingStatus_processed]
    decide

/-- Of what a handler answers to an event without a tenant, only the answer to an unbilled event is no outcome. -/
theorem ignoredMessage_outcome (event : WebhookEvent) :
    resolveProcessingStatus (ignoredMessage event) ∈ outcomes ↔ ∀ name, event.eventType ≠ .other name := by
  have hmissing : resolveProcessingStatus (tenantMissingMessage event.tenantId) ∈ outcomes := by
    unfold tenantMissingMessage
    split
    · decide
    · decide
  unfold ignoredMessage
  cases htype : event.eventType with
  | paymentConfirmed => simpa using hmissing
  | paymentFailed => simpa using hmissing
  | subscriptionCancelled =>
    exact iff_of_true (show resolveProcessingStatus "ignored:tenant-not-found" ∈ outcomes by decide) (by simp)
  | other name =>
    exact iff_of_false (show resolveProcessingStatus "ignored" ∉ outcomes by decide) fun h => h name rfl

theorem resolveProcessingStatus_length (message : String) : (resolveProcessingStatus message).length ≤ 20 := by
  unfold resolveProcessingStatus
  split
  · decide
  · split
    · decide
    · decide

/-- A handler that returns answers with an outcome if the event is a billing event, and never raises if it is not. -/
theorem processEvent_outcome (env : Env) (provider : String) (event : WebhookEvent) (s : DbSession) :
    match (processEvent env provider event s).1 with
    | .ok answer => resolveProcessingStatus answer ∈ outcomes ↔ ∀ name, event.eventType ≠ .other name
    | .error _ => ∀ name, event.eventType ≠ .other name := by
  cases hp : (processEvent env provider event s).1 with
  | ok answer =>
    dsimp only
    rw [processEvent_answer hp]
    cases htenant : eventTenant provider event s.work with
    | none => exact ignoredMessage_outcome event
    | some tenant =>
      refine iff_of_true ?_ (billing_of_eventTenant htenant)
      rw [if_pos Option.isSome_some, resolveProcessingStatus_processed]
      decide
  | error e =>
    intro name htype
    unfold processEvent at hp
    rw [htype] at hp
    cases hp

/-! ### The theorem -/

/-- A delivery that reaches its handler is accounted for if its event fits and is a billing event. -/
theorem delivered_accounted_iff {env : Env} {db : Db} {delivery : WebhookDelivery} {queue : List Task}
    {event : WebhookEvent} {start : Nat} (henforced : env.settings.columnsEnforced = true)
    (hworking : WorkingDatabase env db delivery queue) (h : deliveredEvent env db delivery = some (event, start)) :
    Accounted env delivery db queue ↔
      recordable env.settings (delivery.provider env) event.eventType.text (some event) event.raw = true ∧
        ∀ name, event.eventType ≠ .other name := by
  have hrun := handleGatewayWebhook_delivered queue h
  generalize markedOutbox env.settings (delivery.provider env) event db = outbox at hrun
  generalize PaymentEventOutbox.id _ = outboxId at hrun
  have hcommit : ∀ tick, (processEvent env (delivery.provider env) event (quiet db outbox queue start)).2.tick ≤ tick →
      env.commitFails tick = false := by
    intro tick htick
    rw [← Bool.not_eq_true]
    intro hfails
    obtain ⟨event', start', h', hinside⟩ := hworking tick hfails
    rw [h] at h'
    cases h'
    have := (hinside outbox).2
    omega
  have hrecords := @runHandler_records env (delivery.provider env) event (quiet db outbox queue start) outboxId rfl
    (hcommit _ (Nat.le_refl _)) (hcommit _ (Nat.le_succ _))
  have houtcome := processEvent_outcome env (delivery.provider env) event (quiet db outbox queue start)
  rw [← hrun] at hrecords
  cases hp : (processEvent env (delivery.provider env) event (quiet db outbox queue start)).1 with
  | ok answer =>
    rw [hp] at hrecords houtcome
    have hanswer : answeredStatus (handleGatewayWebhook env delivery (opened db queue)).1 = 200 := by
      rw [hrecords.1]
      rfl
    rw [hrecords.2.accounted henforced (resolveProcessingStatus_length answer) hanswer]
    exact and_congr_right fun _ => houtcome
  | error e =>
    rw [hp] at hrecords houtcome
    have hanswer : answeredStatus (handleGatewayWebhook env delivery (opened db queue)).1 = e.httpStatus := by
      rw [hrecords.1]
      rfl
    rw [hrecords.2.accounted henforced (by decide) hanswer]
    exact and_congr_right fun _ => iff_of_true (by decide) houtcome

/-- A new row fits its columns if its event does and its key does. -/
theorem newOutboxEvent_fits (settings : Settings) (provider : String) (event : WebhookEvent) (db : Db) :
    (newOutboxEvent settings provider event db).fits settings =
      (fileable settings provider event.eventType.text (some event) &&
        fitsColumn 128 (some (buildOutboxDedupKey settings provider event))) := rfl

/-- A delivery that reaches no handler makes no commit that may fail. -/
theorem commits_of_idle {env : Env} {db : Db} {delivery : WebhookDelivery} {queue : List Task}
    (hworking : WorkingDatabase env db delivery queue) (h : deliveredEvent env db delivery = none) (tick : Nat) :
    env.commitFails tick = false := by
  rw [← Bool.not_eq_true]
  intro hfails
  obtain ⟨event, start, hsome, -⟩ := hworking tick hfails
  rw [h] at hsome
  cases hsome

section

variable {env : Env} {db : Db} {delivery : WebhookDelivery} {queue : List Task} {event : WebhookEvent}

/-- An event whose outbox row is there already: a processed one is answered as a duplicate, any other is delivered. -/
theorem found_accounted_iff {row : PaymentEventOutbox} (henforced : env.settings.columnsEnforced = true)
    (hworking : WorkingDatabase env db delivery queue) (hdecoded : delivery.decodeError = none)
    (hroute : delivery.mismatched env = false) (hparsed : delivery.parsed = .ok event)
    (hrow : outboxRow? env.settings (delivery.provider env) event db = some row) :
    Accounted env delivery db queue ↔
      recordable env.settings (delivery.provider env) event.eventType.text (some event) event.raw = true ∧
        (row.status = .processed ∨ ∀ name, event.eventType ≠ .other name) := by
  have hdelivered : deliveredEvent env db delivery =
      if row.status = .processed ∨ env.commitFails 0 then none else some (event, 1) := by
    unfold deliveredEvent
    rw [hdecoded, hroute, hparsed]
    dsimp only
    rw [hrow]
    rfl
  by_cases hprocessed : row.status = .processed
  · rw [if_pos (Or.inl hprocessed)] at hdelivered
    obtain ⟨hanswer, hrecord⟩ := handleGatewayWebhook_duplicate queue hdecoded hroute hparsed hrow hprocessed
    have hends : EndsRecording env db.paymentEvents (handleGatewayWebhook env delivery (opened db queue)).2
        (delivery.provider env) event.eventType.text (resolveProcessingStatus (duplicateMessage event.eventType)) 200
        (duplicateMessage event.eventType) (some event) event.raw :=
      ⟨db, queue, 0, rfl, commits_of_idle hworking hdelivered 0, hrecord⟩
    rw [hends.accounted henforced (resolveProcessingStatus_length _) (by rw [hanswer]; rfl)]
    exact and_congr_right fun _ => iff_of_true (duplicateMessage_outcome _) (Or.inl hprocessed)
  · have hcommit : env.commitFails 0 = false := by
      rw [← Bool.not_eq_true]
      intro hfails
      rw [if_pos (Or.inr hfails)] at hdelivered
      exact Bool.eq_false_iff.1 (commits_of_idle hworking hdelivered 0) hfails
    rw [if_neg (by simp [hprocessed, hcommit])] at hdelivered
    rw [delivered_accounted_iff henforced hworking hdelivered]
    exact and_congr_right fun _ => (or_iff_right hprocessed).symm

/-- A new event is delivered where its outbox row fits; where it does not, the request fails. -/
theorem new_accounted_iff (henforced : env.settings.columnsEnforced = true)
    (hworking : WorkingDatabase env db delivery queue) (hdecoded : delivery.decodeError = none)
    (hroute : delivery.mismatched env = false) (hparsed : delivery.parsed = .ok event)
    (hrow : outboxRow? env.settings (delivery.provider env) event db = none) :
    Accounted env delivery db queue ↔
      recordable env.settings (delivery.provider env) event.eventType.text (some event) event.raw = true ∧
        fitsColumn 128 (some (buildOutboxDedupKey env.settings (delivery.provider env) event)) = true ∧
          ∀ name, event.eventType ≠ .other name := by
  have hdelivered : deliveredEvent env db delivery =
      if env.settings.columnsEnforced ∧
          ¬(newOutboxEvent env.settings (delivery.provider env) event db).fits env.settings then none
      else if env.commitFails 0 ∨ env.commitFails 1 then none else some (event, 2) := by
    unfold deliveredEvent
    rw [hdecoded, hroute, hparsed]
    dsimp only
    rw [hrow]
    rfl
  rw [henforced, newOutboxEvent_fits] at hdelivered
  by_cases hfits : fileable env.settings (delivery.provider env) event.eventType.text (some event) = true ∧
      fitsColumn 128 (some (buildOutboxDedupKey env.settings (delivery.provider env) event)) = true
  · have hcommit : ¬(env.commitFails 0 = true ∨ env.commitFails 1 = true) := by
      intro hfails
      rw [if_neg (by simp [hfits]), if_pos hfails] at hdelivered
      -- a working database commits, so only a row that does not fit stops the delivery
      have hnever := commits_of_idle hworking hdelivered
      rcases hfails with h0 | h1
      · exact Bool.eq_false_iff.1 (hnever 0) h0
      · exact Bool.eq_false_iff.1 (hnever 1) h1
    rw [if_neg (by simp [hfits]), if_neg hcommit] at hdelivered
    rw [delivered_accounted_iff henforced hworking hdelivered]
    exact and_congr_right fun _ => (and_iff_right hfits.2).symm
  · refine iff_of_false ?_ fun h => hfits ⟨(Bool.and_eq_true_iff.1 h.1).1, h.2.1⟩
    have hrefused : ¬(newOutboxEvent env.settings (delivery.provider env) event db).fits env.settings = true := by
      rw [newOutboxEvent_fits, Bool.and_eq_true]
      exact hfits
    have hensure := ensureOutboxEvent_of_none queue 0 hrow
    rw [if_pos ⟨henforced, hrefused⟩] at hensure
    obtain ⟨payload, hpayload⟩ := WebhookDelivery.decoded_of hdecoded
    refine not_accounted ?_
    unfold handleGatewayWebhook
    rw [hpayload]
    dsimp only
    rw [if_neg (Bool.eq_false_iff.1 hroute), hparsed]
    dsimp only
    unfold handleEvent
    rw [show (opened db queue : DbSession) = ⟨db, db, queue, 0⟩ from rfl, bind_error hensure]

/-- The exits before the handler's. -/
theorem event_accounted_iff (henforced : env.settings.columnsEnforced = true)
    (hworking : WorkingDatabase env db delivery queue) (hdecoded : delivery.decodeError = none)
    (hroute : delivery.mismatched env = false) (hparsed : delivery.parsed = .ok event) :
    Accounted env delivery db queue ↔ AccountableEvent env.settings (delivery.provider env) event db := by
  unfold AccountableEvent
  cases hrow : outboxRow? env.settings (delivery.provider env) event db with
  | some row => exact found_accounted_iff henforced hworking hdecoded hroute hparsed hrow
  | none => exact new_accounted_iff henforced hworking hdecoded hroute hparsed hrow

end

/-- A refused delivery is accounted for if its provider fits and its payload can be stored. -/
theorem rejected_accounted_iff {env : Env} {db : Db} {delivery : WebhookDelivery} {queue : List Task}
    {provider eventType processingStatus message : String} {payload : Json}
    (henforced : env.settings.columnsEnforced = true) (hworking : WorkingDatabase env db delivery queue)
    (hidle : deliveredEvent env db delivery = none) (hstatus : processingStatus.length ≤ 20)
    (houtcome : processingStatus ∈ outcomes) (htype : fitsColumn 50 (some eventType) = true)
    (h : handleGatewayWebhook env delivery = rejectDelivery env provider eventType processingStatus message payload) :
    Accounted env delivery db queue ↔
      env.settings.storage.takes 30 (some provider) = true ∧ env.settings.storage.takesJson payload = true := by
  obtain ⟨hanswer, hends⟩ := @rejectDelivery_records env db queue 0 provider eventType processingStatus message payload
    (commits_of_idle hworking hidle 0)
  have hrecordable : recordable env.settings provider eventType none payload =
      (env.settings.storage.takes 30 (some provider) && env.settings.storage.takesJson payload) := by
    unfold recordable fileable
    rw [htype]
    simp [Storage.takes, fitsColumn]
  have hstart : (⟨db, db, queue, 0⟩ : DbSession) = opened db queue := rfl
  rw [hstart, ← h] at hanswer hends
  rw [hends.accounted henforced hstatus (by rw [hanswer]; rfl), hrecordable, Bool.and_eq_true]
  exact and_iff_left houtcome

/-- A delivery to a working database that enforces its columns is accounted for if and only if it is `Accountable`. -/
theorem delivery_accounted_iff {env : Env} {db : Db} {delivery : WebhookDelivery} {queue : List Task}
    (henforced : env.settings.columnsEnforced = true) (hworking : WorkingDatabase env db delivery queue) :
    Accounted env delivery db queue ↔ delivery.Accountable env db := by
  unfold WebhookDelivery.Accountable
  -- the gates in their order: the payload, the route, the parsing
  cases hpayload : delivery.decoded with
  | error error =>
    refine iff_of_false (not_accounted ?_) fun ⟨payload, h, _⟩ => by cases h
    unfold handleGatewayWebhook
    rw [hpayload]
    rfl
  | ok payload =>
    simp only [Except.ok.injEq, exists_eq_left']
    have hdecoded : delivery.decodeError = none := by
      unfold WebhookDelivery.decodeError
      rw [hpayload]
    cases hroute : delivery.mismatched env with
    | true =>
      have hidle : deliveredEvent env db delivery = none := by
        unfold deliveredEvent
        rw [if_pos (Or.inr hroute)]
      obtain ⟨route, hnamed⟩ : ∃ route, delivery.routeProvider.map normalize = some route := by
        unfold WebhookDelivery.mismatched at hroute
        exact Option.isSome_iff_exists.1 (of_decide_eq_true hroute).1
      have hrejected : handleGatewayWebhook env delivery = rejectDelivery env route "provider_mismatch" "rejected"
          ("This instance is configured for provider '" ++ env.gateway.providerName ++ "'") payload := by
        unfold handleGatewayWebhook
        rw [hpayload]
        dsimp only
        rw [if_pos hroute, hnamed]
        rfl
      rw [if_pos rfl, hnamed]
      exact rejected_accounted_iff henforced hworking hidle (by decide) (by decide) (by decide) hrejected
    | false =>
      rw [if_neg Bool.false_ne_true]
      cases hparsed : delivery.parsed with
      | ok event => exact event_accounted_iff henforced hworking hdecoded hroute hparsed
      | error error =>
        have hidle : deliveredEvent env db delivery = none := by
          unfold deliveredEvent
          rw [hparsed]
          split
          · rfl
          · rfl
        have hrefused : handleGatewayWebhook env delivery = refuseUnparsed env (delivery.provider env) payload error := by
          unfold handleGatewayWebhook
          rw [hpayload, hparsed]
          dsimp only
          rw [if_neg (Bool.eq_false_iff.1 hroute)]
        cases error with
        | valueError message =>
          exact rejected_accounted_iff henforced hworking hidle (by decide) (by decide) (by decide) hrefused
        | _ =>
          refine iff_of_false (not_accounted ?_) id
          rw [hrefused]
          rfl

/-! ### Calls -/

/-- When a call is accounted for: `decode_payload` returns a payload; the provider that is filed and that payload can be stored
where the call is refused, for its route or for a `ValueError` of the parser; no other exception leaves the parser; and the
driver writes the ids of the event, which is accountable. -/
def WebhookCall.Accountable (reading : WebhookReading) (env : Env) (db : Db) (call : WebhookCall) : Prop :=
  let provider := (call.delivery reading env.settings).provider (call.env env)
  ∃ payload, call.decode reading = .ok payload ∧
    if (call.delivery reading env.settings).mismatched (call.env env) then
      env.settings.storage.takes 30 (call.routeProvider.map normalize) = true ∧
        env.settings.storage.takesJson payload = true
    else
      parserEscapes reading.providers reading.settings call.gateway (reading.readers.request call.payload call.headers) =
          false ∧
        match call.parse reading with
        | .error _ => env.settings.storage.takes 30 (some provider) = true ∧ env.settings.storage.takesJson payload = true
        | .ok parsed => ∃ event, parsed.event? env.settings reading.readers = some event ∧
            AccountableEvent env.settings provider event db

theorem WebhookCall.accountable_iff (reading : WebhookReading) (env : Env) (db : Db) (call : WebhookCall) :
    (call.delivery reading env.settings).Accountable (call.env env) db ↔ call.Accountable reading env db := by
  unfold WebhookDelivery.Accountable WebhookCall.Accountable
  rw [delivery_decoded, delivery_routeProvider, env_settings, ← parseWebhook_escapes]
  refine exists_congr fun payload => and_congr_right fun _ => ?_
  cases (call.delivery reading env.settings).mismatched (call.env env) with
  | true => exact Iff.rfl
  | false =>
    rw [if_neg Bool.false_ne_true, if_neg Bool.false_ne_true]
    change _ ↔ escapes (call.parse reading) = false ∧ _
    cases hparse : call.parse reading with
    | error error =>
      rw [call.delivery_parsed_error reading hparse]
      cases error with
      | valueError message => exact (and_iff_right rfl).symm
      | _ => exact iff_of_false id fun h => Bool.noConfusion h.1
    | ok parsed =>
      have hok : escapes (Except.ok parsed : Except PyError ParsedWebhook) = false := rfl
      rw [and_iff_right hok]
      cases hevent : parsed.event? env.settings reading.readers with
      | none =>
        rw [call.delivery_parsed_unwritten reading hparse hevent]
        refine iff_of_false id fun ⟨event, h, _⟩ => ?_
        rw [hevent] at h
        cases h
      | some event =>
        rw [call.delivery_parsed_event reading hparse hevent]
        refine ⟨fun h => ⟨event, hevent, h⟩, fun ⟨found, hfound, h⟩ => ?_⟩
        rw [hevent] at hfound
        cases hfound
        exact h

/-- A call to a working database that enforces its columns is accounted for if and only if it is `Accountable`. -/
theorem accounted_iff {reading : WebhookReading} {env : Env} {db : Db} {call : WebhookCall} {queue : List Task}
    (henforced : env.settings.columnsEnforced = true)
    (hworking : WorkingDatabase (call.env env) db (call.delivery reading env.settings) queue) :
    Accounted (call.env env) (call.delivery reading env.settings) db queue ↔ call.Accountable reading env db := by
  have hsettings : (call.env env).settings.columnsEnforced = true := henforced
  rw [delivery_accounted_iff hsettings hworking, WebhookCall.accountable_iff]

namespace Small

/-- The environment over a database that enforces the lengths of its columns. -/
def strictEnv : Env := { Small.env with settings := { Small.env.settings with columnsEnforced := true } }

/-- A text as the bytes of a body, and what `json.loads` makes of the two bodies below. -/
def body (text : String) : List UInt8 := text.toList.map fun c => c.toNat.toUInt8

def loads (text : String) : Except JsonError Json :=
  if text = "\x7b\"status\":\"pending\"\x7d" then
    .ok (.object "\x7b'status': 'pending'\x7d" [("status", .string "pending")])
  else if text = "\x7b\"status\":\"success\",\"externalId\":\"1\"\x7d" then
    .ok (.object "\x7b'status': 'success', 'externalId': '1'\x7d"
      [("status", .string "success"), ("externalId", .string "1")])
  else .error (.decodeError "Expecting value: line 1 column 1 (char 0)")

/-- What is read of a body of ASCII characters. -/
def reading : WebhookReading where
  readers :=
    { decode := fun payload => .ok (String.ofList (payload.map fun byte => Char.ofNat byte.toNat))
      decodeReplacing := fun payload => String.ofList (payload.map fun byte => Char.ofNat byte.toNat)
      jsonLoads := loads
      parseQs := fun _ => []
      dictText := fun fields => "\x7b" ++ String.ofList (List.intercalate ", ".toList
        (fields.map fun f => ("'" ++ f.1 ++ "': '" ++ f.2.str ++ "'").toList)) ++ "\x7d" }
  providers := providers
  settings := gatewaySettings

/-- A callback of AzamPay. -/
def azampayCall (text : String) : WebhookCall := ⟨none, body text, [("content-type", "application/json")], .azampay⟩

/-- A callback about a payment that is not decided yet. -/
def unbilled : WebhookCall := azampayCall "\x7b\"status\":\"pending\"\x7d"

/-- A callback about a payment of the first tenant. -/
def paidFor : WebhookCall := azampayCall "\x7b\"status\":\"success\",\"externalId\":\"1\"\x7d"

end Small

set_option maxRecDepth 100000 in
theorem unbilled_recorded :
    (handleGatewayWebhook (Small.unbilled.env Small.strictEnv) (Small.unbilled.delivery Small.reading Small.strictEnv.settings)
        (opened Small.world.db [])).1 = .ok "ignored" ∧
      (handleGatewayWebhook (Small.unbilled.env Small.strictEnv)
        (Small.unbilled.delivery Small.reading Small.strictEnv.settings)
        (opened Small.world.db [])).2.saved.paymentEvents.map PaymentEvent.processingStatus = ["unknown"] := by
  decide +kernel

/-- A call without a billing event is recorded as `unknown`. -/
theorem unbilled_not_accounted :
    ¬Accounted (Small.unbilled.env Small.strictEnv) (Small.unbilled.delivery Small.reading Small.strictEnv.settings)
      Small.world.db [] := by
  rintro ⟨row, hrow, houtcome, -⟩
  have hstatus := unbilled_recorded.2
  have hempty : Small.world.db.paymentEvents = [] := rfl
  rw [hrow, hempty] at hstatus
  have hunknown : row.processingStatus = "unknown" := by simpa using hstatus
  rw [hunknown] at houtcome
  exact absurd houtcome (by decide)

theorem accounted_iff_small :
    Accounted (Small.paidFor.env Small.strictEnv) (Small.paidFor.delivery Small.reading Small.strictEnv.settings)
      (Small.after [Small.createTenant]).db [] := by
  have hdecoded : (Small.paidFor.decode Small.reading).isOk = true := by decide +kernel
  have hparsed : (match Small.paidFor.parse Small.reading with
    | .ok parsed => (parsed.event? Small.strictEnv.settings Small.reading.readers).any fun event =>
        event.eventType = .paymentConfirmed &&
          recordable Small.strictEnv.settings "azampay" event.eventType.text (some event) event.raw &&
          (outboxRow? Small.strictEnv.settings "azampay" event (Small.after [Small.createTenant]).db).isNone &&
          fitsColumn 128 (some (buildOutboxDedupKey Small.strictEnv.settings "azampay" event))
    | .error _ => false) = true := by decide +kernel
  refine (accounted_iff rfl (fun _ h => by cases h)).2 ?_
  unfold WebhookCall.Accountable
  cases hpayload : Small.paidFor.decode Small.reading with
  | error error =>
    rw [hpayload] at hdecoded
    cases hdecoded
  | ok payload =>
    refine ⟨payload, rfl, ?_⟩
    rw [if_neg (by decide +kernel)]
    refine ⟨by decide +kernel, ?_⟩
    cases hparse : Small.paidFor.parse Small.reading with
    | error error =>
      rw [hparse] at hparsed
      cases hparsed
    | ok parsed =>
      rw [hparse] at hparsed
      obtain ⟨event, hevent, hfits⟩ := (Option.any_eq_true _ _).1 hparsed
      simp only [Bool.and_eq_true, decide_eq_true_eq, Option.isNone_iff_eq_none] at hfits
      obtain ⟨⟨⟨htype, hrecordable⟩, hnew⟩, hkey⟩ := hfits
      refine ⟨event, hevent, hrecordable, ?_⟩
      rw [show (Small.paidFor.delivery Small.reading Small.strictEnv.settings).provider (Small.paidFor.env Small.strictEnv) =
        "azampay" by decide +kernel, hnew]
      refine ⟨hkey, fun name h => ?_⟩
      rw [htype] at h
      cases h

end ControlPlane
