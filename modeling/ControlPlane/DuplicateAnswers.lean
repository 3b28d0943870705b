import ControlPlane.Billing.Recording
import ControlPlane.System

/-!
# The answers to duplicate deliveries

The answer to an event's first delivery says whether its tenant was found; the answer to a later one is made from the
event's type alone.
-/

namespace ControlPlane

open Table Session Session.Proc

/-- The class of an answer: the word before its colon. -/
def answerClass (answer : String) : List Char := answer.toList.takeWhile fun c => c ≠ ':'

private theorem processed_toList (text : String) : ("processed:" ++ text).toList = "processed:".toList ++ text.toList := by
  simp

theorem answerClass_processed (eventType : WebhookEventType) :
    answerClass (processedMessage eventType) = "processed".toList := by
  unfold answerClass processedMessage
  rw [processed_toList]
  rfl

theorem answerClass_ignored (event : WebhookEvent) : answerClass (ignoredMessage event) = "ignored".toList := by
  unfold ignoredMessage
  split
  · unfold tenantMissingMessage
    split
    · decide
    · decide
  · unfold tenantMissingMessage
    split
    · decide
    · decide
  · decide
  · decide

/-- A duplicate of an event whose first delivery came to nothing is answered otherwise, or recorded otherwise. -/
theorem duplicate_differs (event : WebhookEvent) :
    ¬(answerClass (duplicateMessage event.eventType) = answerClass (ignoredMessage event) ∧
      resolveProcessingStatus (duplicateMessage event.eventType) = resolveProcessingStatus (ignoredMessage event)) := by
  rintro ⟨hclass, hstatus⟩
  unfold duplicateMessage at hclass hstatus
  split at hclass
  · rename_i htype
    rw [if_pos htype] at hstatus
    unfold ignoredMessage at hstatus
    rw [htype] at hstatus
    exact absurd hstatus (show ¬resolveProcessingStatus "ignored:duplicate" = resolveProcessingStatus "ignored" by decide)
  · rw [answerClass_processed, answerClass_ignored] at hclass
    revert hclass
    decide

/-- After the delivery that processed an event, and any run after it, a duplicate delivery is answered and recorded with
the classification of the first if and only if the first found the event's tenant. -/
theorem duplicate_alike_iff {w : World} {env env' : Env} {first second : WebhookDelivery} {event event' : WebhookEvent}
    {tick : Nat} {es : List Event} {outboxRow : PaymentEventOutbox} {answer answer' : String} {row row' : PaymentEvent}
    (hfirst : deliveredEvent env w.db first = some (event, tick))
    (hanswer : (handleGatewayWebhook env first (opened w.db w.queue)).1 = .ok answer)
    (hrow : (step w ⟨env, .webhook first⟩).db.paymentEvents = w.db.paymentEvents ++ [row])
    (hdecoded : second.decodeError = none) (hroute : second.mismatched env' = false)
    (hparsed : second.parsed = .ok event') (htype : event'.eventType = event.eventType)
    (hfound : outboxRow? env'.settings (second.provider env') event'
      (Runs.run step (step w ⟨env, .webhook first⟩) es).db = some outboxRow)
    (hprocessed : outboxRow.status = .processed)
    (hanswer' : (handleGatewayWebhook env' second (opened (Runs.run step (step w ⟨env, .webhook first⟩) es).db
      (Runs.run step (step w ⟨env, .webhook first⟩) es).queue)).1 = .ok answer')
    (hrow' : (step (Runs.run step (step w ⟨env, .webhook first⟩) es) ⟨env', .webhook second⟩).db.paymentEvents =
      (Runs.run step (step w ⟨env, .webhook first⟩) es).db.paymentEvents ++ [row']) :
    (answerClass answer' = answerClass answer ∧ row'.processingStatus = row.processingStatus) ↔
      (eventTenant (first.provider env) event w.db).isSome = true := by
  generalize hafter : Runs.run step (step w ⟨env, .webhook first⟩) es = w' at hfound hanswer' hrow'
  obtain ⟨hmessage, hstatus⟩ := handleGatewayWebhook_recorded hfirst hanswer
  have hrecorded := hstatus row hrow
  obtain ⟨hdup, hdupRow⟩ := handleGatewayWebhook_duplicate w'.queue hdecoded hroute hparsed hfound hprocessed
  rw [htype] at hdup hdupRow
  have hmessage' : answer' = duplicateMessage event.eventType := by
    rw [hdup] at hanswer'
    cases hanswer'
    rfl
  have hrecorded' : row'.processingStatus = resolveProcessingStatus (duplicateMessage event.eventType) := by
    obtain ⟨s', hs', hor⟩ := recordPaymentEvent_returns env' (second.provider env') event.eventType.text
      (resolveProcessingStatus (duplicateMessage event.eventType)) 200 (duplicateMessage event.eventType) (some event')
      event'.raw w'.db w'.queue 0
    have hsaved : (handleGatewayWebhook env' second (opened w'.db w'.queue)).2.saved.paymentEvents =
        w'.db.paymentEvents ++ [row'] := hrow'
    rw [hdupRow, show (opened w'.db w'.queue : DbSession) = ⟨w'.db, w'.db, w'.queue, 0⟩ from rfl, hs'] at hsaved
    rcases hor with hsame | hnew
    · rw [hsame] at hsaved
      simp at hsaved
    · rw [hnew] at hsaved
      have hlast := List.append_cancel_left hsaved
      cases hlast
      rfl
  rw [hmessage', hrecorded', hrecorded]
  -- a duplicate is answered as processed, so it differs from a first delivery that ignored the event
  cases htenant : eventTenant (first.provider env) event w.db with
  | some tenant =>
    rw [htenant] at hmessage
    have hnot : event.eventType ≠ .other "ignored" := billing_of_eventTenant htenant _
    obtain rfl : answer = processedMessage event.eventType := hmessage
    unfold duplicateMessage
    rw [if_neg hnot]
    simp
  | none =>
    rw [htenant] at hmessage
    obtain rfl : answer = ignoredMessage event := hmessage
    simpa using duplicate_differs event

/-- A confirmed payment for a tenant. -/
def Small.paymentFor (tenantId : Nat) : WebhookDelivery :=
  ⟨none, .ok .null, .ok ⟨.paymentConfirmed, some tenantId, none, none, .object "evt" []⟩⟩

set_option maxRecDepth 100000 in
theorem duplicate_says_processed :
    (handleGatewayWebhook Small.env (Small.paymentFor 7) (opened Small.world.db [])).1 = .ok "ignored:tenant-not-found" ∧
      (step Small.world ⟨Small.env, .webhook (Small.paymentFor 7)⟩).db.paymentEvents.map PaymentEvent.processingStatus =
        ["ignored"] ∧
      (handleGatewayWebhook Small.env (Small.paymentFor 7)
          (opened (step Small.world ⟨Small.env, .webhook (Small.paymentFor 7)⟩).db [])).1 =
        .ok "processed:payment.confirmed" ∧
      (step (step Small.world ⟨Small.env, .webhook (Small.paymentFor 7)⟩)
          ⟨Small.env, .webhook (Small.paymentFor 7)⟩).db.paymentEvents.map PaymentEvent.processingStatus =
        ["ignored", "processed"] := by
  decide +kernel

/-- What the first delivery of the tenant's payment records, with id 1, and a later one, with id 2. -/
def Small.recorded (id : Nat) : PaymentEvent :=
  ⟨id, "stripe", "payment.confirmed", "processed", 200, "processed:payment.confirmed", some 1, none, none⟩

/-- The outbox row of the tenant's payment. -/
def Small.outboxRow : PaymentEventOutbox :=
  ⟨1, "stripe", "payment.confirmed", some 1, none, none, "stripe:payment.confirmed:1:-:evt", .processed, 1, none,
    some 1007⟩

set_option maxRecDepth 100000 in
theorem duplicate_alike_iff_small :
    answerClass "processed:payment.confirmed" = answerClass "processed:payment.confirmed" ∧
      (Small.recorded 2).processingStatus = (Small.recorded 1).processingStatus :=
  (@duplicate_alike_iff (Small.after [Small.createTenant]) Small.env Small.env (Small.paymentFor 1) (Small.paymentFor 1)
    ⟨.paymentConfirmed, some 1, none, none, .object "evt" []⟩ ⟨.paymentConfirmed, some 1, none, none, .object "evt" []⟩
    2 [] Small.outboxRow "processed:payment.confirmed" "processed:payment.confirmed" (Small.recorded 1)
    (Small.recorded 2) (by rfl) (by decide +kernel) (by decide +kernel) (by decide +kernel) rfl rfl rfl
    (by decide +kernel) rfl (by decide +kernel) (by decide +kernel)).2 (by decide +kernel)

end ControlPlane
