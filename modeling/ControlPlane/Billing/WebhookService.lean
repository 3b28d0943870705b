import ControlPlane.Billing.WebhookApplicationService

/-!
# Webhook service

The outbox around the event handlers: an event is filed under its dedup key, processed unless its row is already
`processed`, and its row is marked `processed` or `failed` afterwards.  A handler that commits and then fails leaves
its changes behind a `failed` row, and the next delivery runs it again.
-/

namespace ControlPlane

open Table Session.Proc

/-- A webhook request: the provider of the route, if it names one, and what `decode_payload` and the gateway's
`parse_webhook` make of the body.  A body is read in `WebhookCall.delivery`. -/
structure WebhookDelivery where
  routeProvider : Option String
  decoded : Except PyError Json
  parsed : Except PyError WebhookEvent

/-- The exception that `decode_payload` raises on the body, if it does. -/
def WebhookDelivery.decodeError (delivery : WebhookDelivery) : Option PyError :=
  match delivery.decoded with
  | .ok _ => none
  | .error error => some error

theorem WebhookDelivery.decoded_of {delivery : WebhookDelivery} (h : delivery.decodeError = none) :
    ∃ payload, delivery.decoded = .ok payload := by
  unfold WebhookDelivery.decodeError at h
  cases hdecoded : delivery.decoded with
  | ok payload => exact ⟨payload, rfl⟩
  | error error =>
    rw [hdecoded] at h
    cases h

/-- `build_outbox_dedup_key`, for a payload's digest. -/
def outboxDedupKey (provider eventType : String) (tenantId subscriptionId : Option String) (digest : String) : String :=
  provider ++ ":" ++ eventType ++ ":" ++ (orText tenantId none).getD "-" ++ ":" ++
    (orText subscriptionId none).getD "-" ++ ":" ++ digest

/-- `build_outbox_dedup_key` of an event. -/
def buildOutboxDedupKey (settings : Settings) (provider : String) (event : WebhookEvent) : String :=
  outboxDedupKey provider event.eventType.text (event.tenantId.map settings.idText) event.subscriptionId
    (settings.payloadDigest event.raw)

/-- `resolve_processing_status`. -/
def resolveProcessingStatus (message : String) : String :=
  if "processed:".toList.isPrefixOf message.toList then "processed"
  else if "ignored:".toList.isPrefixOf message.toList then "ignored"
  else "unknown"

/-- The outbox row of an event's dedup key. -/
def outboxRow? (settings : Settings) (provider : String) (event : WebhookEvent) (db : Db) :
    Option PaymentEventOutbox :=
  db.outbox.find? fun o => o.dedupKey = buildOutboxDedupKey settings provider event

/-- A new outbox row for an event. -/
def newOutboxEvent (settings : Settings) (provider : String) (event : WebhookEvent) (db : Db) : PaymentEventOutbox :=
  { id := fresh db.outbox, provider := provider, eventType := event.eventType.text, tenantId := event.tenantId
    subscriptionId := event.subscriptionId, customerRef := event.customerRef
    dedupKey := buildOutboxDedupKey settings provider event, status := .pending, attempts := 0, lastError := none
    processedAt := none }

/-- A text fits a column of some length. -/
def fitsColumn (length : Nat) (text : Option String) : Bool := text.all fun text => text.length ≤ length

/-- The database takes a text for a column of some length. -/
def Storage.takes (storage : Storage) (length : Nat) (text : Option String) : Bool :=
  fitsColumn length text && text.all storage.takesText

/-- The texts of an outbox row fit their columns, and those that come from the request can be stored. -/
def PaymentEventOutbox.fits (settings : Settings) (row : PaymentEventOutbox) : Bool :=
  settings.storage.takes 30 (some row.provider) && fitsColumn 50 (some row.eventType) &&
    settings.storage.takes 36 (row.tenantId.map settings.idText) && settings.storage.takes 120 row.subscriptionId &&
    settings.storage.takes 120 row.customerRef && fitsColumn 128 (some row.dedupKey)

/-- The texts of a payment event fit their columns, and those that come from the request can be stored, its payload too, of
which no more than that is kept here. -/
def PaymentEvent.fits (settings : Settings) (payload : Json) (row : PaymentEvent) : Bool :=
  settings.storage.takes 30 (some row.provider) && fitsColumn 50 (some row.eventType) &&
    fitsColumn 20 (some row.processingStatus) && settings.storage.takes 36 (row.tenantId.map settings.idText) &&
    settings.storage.takes 120 row.subscriptionId && settings.storage.takes 120 row.customerRef &&
    settings.storage.takesJson payload

/-- Commit a new row: a database that enforces its columns refuses one that does not fit. -/
def commitRow (env : Env) (fits : Bool) : Proc Unit :=
  if env.settings.columnsEnforced ∧ ¬fits then do
    rollback
    raise .dataError
  else
    commit env

/-- `ensure_outbox_event`. -/
def ensureOutboxEvent (env : Env) (provider : String) (event : WebhookEvent) : Proc PaymentEventOutbox := do
  let db ← read
  match outboxRow? env.settings provider event db with
  | some existing => return existing
  | none =>
    let row := newOutboxEvent env.settings provider event db
    modify fun db => { db with outbox := insert db.outbox row }
    commitRow env (row.fits env.settings)
    return row

/-- Change the outbox row and commit it. -/
def markOutbox (env : Env) (id : Nat) (f : Time → PaymentEventOutbox → PaymentEventOutbox) : Proc Unit := do
  let time ← utcnow env
  Session.Proc.modify fun db => { db with outbox := Table.modify db.outbox id (f time) }
  commit env

/-- A new payment event. -/
def newPaymentEvent (provider eventType processingStatus : String) (httpStatus : Nat) (message : String)
    (event : Option WebhookEvent) (db : Db) : PaymentEvent :=
  { id := fresh db.paymentEvents, provider := provider, eventType := eventType, processingStatus := processingStatus
    httpStatus := httpStatus, message := message, tenantId := event.bind WebhookEvent.tenantId
    subscriptionId := event.bind WebhookEvent.subscriptionId, customerRef := event.bind WebhookEvent.customerRef }

/-- `record_payment_event`, which swallows its own failure. -/
def recordPaymentEvent (env : Env) (provider eventType processingStatus : String) (httpStatus : Nat)
    (message : String) (event : Option WebhookEvent) (payload : Json) : Proc Unit :=
  attempt
    (do
      let db ← read
      let row := newPaymentEvent provider eventType processingStatus httpStatus message event db
      Session.Proc.modify fun db => { db with paymentEvents := insert db.paymentEvents row }
      commitRow env (row.fits env.settings payload))
    (fun _ => rollback)

/-- The HTTP status an exception of the processing is answered with. -/
def PyError.httpStatus : PyError → Nat
  | .httpException status _ => status
  | _ => 500

/-- What is done with an exception of the processing: roll back, mark the row `failed`, record it and raise it as an
HTTP error. -/
def recordProcessingFailure (env : Env) (provider : String) (event : WebhookEvent) (outboxId : Nat) (e : PyError) :
    Proc String := do
  rollback
  markOutbox env outboxId fun _ o => { o with status := .failed, lastError := some e.message }
  recordPaymentEvent env provider event.eventType.text "error" e.httpStatus e.message (some event) event.raw
  raise (.httpException e.httpStatus e.message)

/-- Run an event's handler and mark its outbox row with the outcome. -/
def runHandler (env : Env) (provider : String) (event : WebhookEvent) (outboxId : Nat) : Proc String := do
  let response ← attempt (processEvent env provider event) (recordProcessingFailure env provider event outboxId)
  markOutbox env outboxId fun time o =>
    { o with status := .processed, lastError := none, processedAt := some time }
  recordPaymentEvent env provider event.eventType.text (resolveProcessingStatus response) 200 response (some event)
    event.raw
  return response

/-- Process an event whose outbox row is not yet `processed`. -/
def processOutboxEvent (env : Env) (provider : String) (event : WebhookEvent) (outboxId : Nat) : Proc String := do
  markOutbox env outboxId fun _ o =>
    { o with status := .processing, attempts := o.attempts + 1, lastError := none }
  runHandler env provider event outboxId

/-- The provider a delivery is handled for. -/
def WebhookDelivery.provider (env : Env) (delivery : WebhookDelivery) : String :=
  (orText (delivery.routeProvider.map normalize) none).getD env.gateway.providerName

/-- A delivery to the route of another provider than the gateway's. -/
def WebhookDelivery.mismatched (env : Env) (delivery : WebhookDelivery) : Bool :=
  (delivery.routeProvider.map normalize).isSome ∧
    delivery.routeProvider.map normalize ≠ some env.gateway.providerName

/-- Record that a delivery is not processed at all, and answer 400. -/
def rejectDelivery (env : Env) (provider eventType processingStatus message : String) (payload : Json) :
    Proc String := do
  recordPaymentEvent env provider eventType processingStatus 400 message none payload
  raise (.httpException 400 message)

/-- What is done with an exception of `parse_webhook`: a `ValueError` is recorded and answered 400, and any other is not
caught. -/
def refuseUnparsed (env : Env) (provider : String) (payload : Json) : PyError → Proc String
  | .valueError message => rejectDelivery env provider "parse_error" "error" message payload
  | error => raise error

/-- Answer a delivery of an event that was processed before. -/
def answerDuplicate (env : Env) (provider : String) (event : WebhookEvent) : Proc String := do
  let message := if event.eventType = .other "ignored" then "ignored:duplicate"
    else "processed:" ++ event.eventType.text
  recordPaymentEvent env provider event.eventType.text (resolveProcessingStatus message) 200 message (some event)
    event.raw
  return message

/-- What `handle_gateway_webhook` does with a parsed event. -/
def handleEvent (env : Env) (provider : String) (event : WebhookEvent) : Proc String := do
  let row ← ensureOutboxEvent env provider event
  if row.status = .processed then answerDuplicate env provider event
  else processOutboxEvent env provider event row.id

/-- `handle_gateway_webhook`. -/
def handleGatewayWebhook (env : Env) (delivery : WebhookDelivery) : Proc String :=
  match delivery.decoded with
  | .error error => raise error
  | .ok payload =>
    if delivery.mismatched env then
      rejectDelivery env ((delivery.routeProvider.map normalize).getD "") "provider_mismatch" "rejected"
        ("This instance is configured for provider '" ++ env.gateway.providerName ++ "'") payload
    else
      match delivery.parsed with
      | .error error => refuseUnparsed env (delivery.provider env) payload error
      | .ok event => handleEvent env (delivery.provider env) event

end ControlPlane
