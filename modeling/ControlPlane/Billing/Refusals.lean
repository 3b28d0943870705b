import ControlPlane.Billing.Delivery
import ControlPlane.Billing.Filing
import ControlPlane.Returns

/-!
# Which events are refused

The tenant's state machine refuses no billing event: its refusals are caught.  The subscription's refusals are not.  A
confirmed payment asks a cancelled subscription to become active and a failed one asks a paused or cancelled one to
become past due, and the event then fails as a whole, with nothing recorded.
-/

namespace ControlPlane

open Table Session Session.Proc

/-! ### The settlement -/

theorem settleInvoice_succeeds {client : PlatformErpClient} {db : Db} (tenant : Tenant) (invoice : BillingInvoice)
    (amount : Int) (now : Time) (hanswers : client.Answers) (hF : db.InvoicesFiled) :
    ∃ settled db', settleInvoice client db tenant invoice amount now = .ok (settled, db') := by
  unfold settleInvoice
  split
  · obtain ⟨updated, db', h⟩ := resyncOneInvoice_succeeds tenant invoice now hanswers hF
    rw [h]
    exact ⟨_, _, rfl⟩
  · exact ⟨_, _, rfl⟩

/-- A settlement succeeds when the ERP answers and the invoices are filed. -/
theorem settleInvoiceBackedPaymentConfirmation_succeeds {client : PlatformErpClient} {db : Db} (tenant : Tenant)
    (subscription : Subscription) (attempt : Option PaymentAttempt) (provider : String) (now : Time)
    (hanswers : client.Answers) (hF : db.InvoicesFiled) :
    ∃ settled, settleInvoiceBackedPaymentConfirmation client db tenant subscription attempt provider now =
      .ok settled := by
  unfold settleInvoiceBackedPaymentConfirmation
  split
  · exact ⟨_, rfl⟩
  · rename_i attempt
    have hsettle : ∃ db', settleInvoiceOf client db tenant attempt now = .ok db' := by
      unfold settleInvoiceOf
      split
      · exact ⟨_, rfl⟩
      · rename_i invoice _
        obtain ⟨settled, db', h⟩ := settleInvoice_succeeds tenant invoice attempt.amount now hanswers hF
        rw [h]
        exact ⟨_, rfl⟩
    obtain ⟨db', h⟩ := hsettle
    rw [h]
    exact ⟨_, rfl⟩

/-! ### The handlers -/

/-- Whether the subscription a tenant has, if it has one, refuses an event. -/
def refusedFor (eventType : WebhookEventType) (subscription : Option Subscription) : Bool :=
  subscription.any fun s => eventRefused eventType s.status

/-- The first part of a billing event's handler succeeds for a tenant with an owner and a subscription that does not
refuse the event. -/
theorem eventBody_succeeds {provider : String} {event : WebhookEvent} (now : Time) {client : PlatformErpClient}
    {db : Db} {tenant : Tenant} {owner : User} (hanswers : client.Answers) (hF : db.InvoicesFiled)
    (htenant : eventTenant provider event db = some tenant) (howner : db.user? tenant.ownerId = some owner)
    (havailable : subscriptionAvailable db tenant.id = true)
    (hnot : refusedFor event.eventType (db.subscriptionOf tenant.id) = false) :
    ∃ email db', eventBody provider event now client db = .ok (.changed tenant.id email, db') := by
  have hstatus : ∀ s ∈ db.subscriptionOf tenant.id, eventRefused event.eventType s.status = false :=
    (Option.any_eq_false _ _).1 hnot
  unfold eventTenant at htenant
  unfold eventRefused at hstatus
  unfold eventBody
  cases htype : event.eventType with
  | paymentConfirmed =>
    rw [htype] at htenant hstatus
    obtain ⟨db', h⟩ := confirmPayment_succeeds htenant howner havailable (fun s hs => by simpa using hstatus s hs)
      fun ensured paying subscription hinvoices _ =>
        settleInvoiceBackedPaymentConfirmation_succeeds paying subscription _ provider now hanswers (hF.congr hinvoices)
    exact ⟨_, db', h⟩
  | paymentFailed =>
    rw [htype] at htenant hstatus
    exact failPayment_succeeds htenant havailable fun s hs => by simpa using hstatus s hs
  | subscriptionCancelled =>
    rw [htype] at htenant
    obtain ⟨subscription, ensured, hsub⟩ := ensureSubscription_of_available havailable
    exact cancelSubscription_succeeds htenant hsub
  | other name =>
    rw [htype] at htenant
    cases htenant

/-- It raises when the subscription refuses the event. -/
theorem eventBody_refused {provider : String} {event : WebhookEvent} (now : Time) (client : PlatformErpClient)
    {db : Db} {tenant : Tenant} (htenant : eventTenant provider event db = some tenant)
    (hrefused : refusedFor event.eventType (db.subscriptionOf tenant.id) = true) :
    ∃ e, eventBody provider event now client db = .error e := by
  obtain ⟨subscription, hsub, hstatus⟩ := (Option.any_eq_true _ _).1 hrefused
  unfold eventTenant at htenant
  unfold eventRefused at hstatus
  unfold eventBody
  cases htype : event.eventType with
  | paymentConfirmed =>
    rw [htype] at htenant hstatus
    exact confirmPayment_cancelled htenant hsub (by simpa using hstatus)
  | paymentFailed =>
    rw [htype] at htenant hstatus
    exact failPayment_refused htenant hsub (by simpa using hstatus)
  | subscriptionCancelled =>
    rw [htype] at hstatus
    cases hstatus
  | other name =>
    rw [htype] at htenant
    cases htenant

/-- What follows a handler's commit returns, with the answer that the event was processed. -/
theorem eventFollowUp_returns {env : Env} (h : env.Reliable) {eventType : WebhookEventType} (tenantId : Nat)
    (email : Option String) (hbilling : ∀ name, eventType ≠ .other name) (s : DbSession) :
    ∃ s', eventFollowUp env eventType tenantId email s = (.ok (processedMessage eventType), s') := by
  cases eventType with
  | paymentConfirmed =>
    obtain ⟨job, s₁, h₁⟩ := h.enqueueProvisioningForPaidTenant tenantId (email.getD "") s
    obtain ⟨u, s₂, h₂⟩ := h.recordAuditEvent "billing.payment_succeeded" "tenants" (some tenantId) s₁
    exact ⟨s₂, (bind_ok h₁).trans (bind_ok h₂)⟩
  | paymentFailed =>
    obtain ⟨u, s₁, h₁⟩ := h.recordAuditEvent "billing.payment_failed" "tenants" (some tenantId) s
    exact ⟨s₁, bind_ok h₁⟩
  | subscriptionCancelled =>
    obtain ⟨u, s₁, h₁⟩ := h.recordAuditEvent "billing.subscription_cancelled" "tenants" (some tenantId) s
    exact ⟨s₁, bind_ok h₁⟩
  | other name => exact absurd rfl (hbilling name)

/-- An event for a tenant with an owner, handled while the ERP answers, the queue is up and no commit fails, is answered
as processed if and only if the tenant's subscription does not refuse it; the tenant's own status refuses nothing. -/
theorem processed_iff_not_refused {env : Env} {provider : String} {event : WebhookEvent} {s : DbSession}
    {tenant : Tenant} {owner : User} (henv : env.Reliable) (hanswers : (env.erp s.tick).Answers)
    (hF : s.work.InvoicesFiled) (htenant : eventTenant provider event s.work = some tenant)
    (howner : s.work.user? tenant.ownerId = some owner) (havailable : subscriptionAvailable s.work tenant.id = true) :
    (processEvent env provider event s).1 = .ok (processedMessage event.eventType) ↔
      refusedFor event.eventType (s.work.subscriptionOf tenant.id) = false := by
  rw [processEvent_eq, change_bind]
  constructor
  · intro h
    cases hrefused : refusedFor event.eventType (s.work.subscriptionOf tenant.id) with
    | false => rfl
    | true =>
      obtain ⟨e, herror⟩ := eventBody_refused (env.clock s.tick) (env.erp s.tick) htenant hrefused
      rw [herror] at h
      cases h
  · intro hnot
    obtain ⟨email, db', hbody⟩ := eventBody_succeeds (env.clock s.tick) hanswers hF htenant howner havailable hnot
    rw [hbody]
    dsimp only
    rw [commit_bind, if_neg (Bool.eq_false_iff.1 (henv.commits _))]
    obtain ⟨s', hs'⟩ := eventFollowUp_returns henv tenant.id email (billing_of_eventTenant htenant) _
    rw [hs']

end ControlPlane
