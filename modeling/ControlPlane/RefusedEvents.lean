import ControlPlane.Billing.Refusals
import ControlPlane.LedgerInvariant

/-!
# Payment events that are refused

In every reachable state, whatever the tenant's own status is, an event for a tenant with an owner and a subscription is
processed unless the subscription's state machine refuses it.
-/

namespace ControlPlane

open Table Session Session.Proc

/-- The rows of a world with some subscriptions and some outbox in place of its own. -/
def World.rowsWith (w : World) (subscriptions : List Subscription) (outbox : List PaymentEventOutbox) : Db :=
  { w.db with subscriptions := subscriptions, outbox := outbox }

/-- After any run, with subscriptions in whatever statuses, a billing event for a tenant with an owner is answered as
processed if and only if it is not a confirmed payment for a cancelled subscription or a failed payment for a paused or
cancelled one, when the queue, the commits and the ERP do not fail. -/
theorem event_processed_iff {w : World} (es : List Event) (subscriptions : List Subscription)
    (outbox : List PaymentEventOutbox) (queue : List Task) (tick : Nat) {env : Env} {provider : String}
    {event : WebhookEvent} {tenant : Tenant} {owner : User} {subscription : Subscription} (hfiled : w.db.InvoicesFiled)
    (henv : env.Reliable) (hanswers : (env.erp tick).Answers)
    (htenant : eventTenant provider event ((Runs.run step w es).rowsWith subscriptions outbox) = some tenant)
    (howner : (Runs.run step w es).db.user? tenant.ownerId = some owner)
    (hsub : ((Runs.run step w es).rowsWith subscriptions outbox).subscriptionOf tenant.id = some subscription) :
    (processEvent env provider event
        (quiet ((Runs.run step w es).rowsWith subscriptions outbox) outbox queue tick)).1 =
          .ok (processedMessage event.eventType) ↔
      ¬(event.eventType = .paymentConfirmed ∧ subscription.status = .cancelled ∨
        event.eventType = .paymentFailed ∧ subscription.status ∈ [SubscriptionStatus.paused, .cancelled]) := by
  have hfiled' : ((Runs.run step w es).rowsWith subscriptions outbox).InvoicesFiled :=
    (run_invoicesFiled es hfiled).congr rfl
  have havailable : subscriptionAvailable ((Runs.run step w es).rowsWith subscriptions outbox) tenant.id = true :=
    subscriptionAvailable_of (Or.inl hsub)
  have hiff : (processEvent env provider event
      (quiet ((Runs.run step w es).rowsWith subscriptions outbox) outbox queue tick)).1 =
        .ok (processedMessage event.eventType) ↔
      refusedFor event.eventType (((Runs.run step w es).rowsWith subscriptions outbox).subscriptionOf tenant.id) =
        false :=
    processed_iff_not_refused henv hanswers hfiled' htenant howner havailable
  rw [hiff, hsub]
  show eventRefused event.eventType subscription.status = false ↔ _
  cases hevent : event.eventType with
  | paymentConfirmed => simp [eventRefused]
  | paymentFailed => simp [eventRefused]
  | subscriptionCancelled => simp [eventRefused]
  | other name => exact absurd hevent (billing_of_eventTenant htenant name)

/-- An ERP that has no invoices. -/
def Small.emptyErp : PlatformErpClient := { Small.erp with getInvoice := fun _ => .error (.erpError "not found") }

theorem Small.emptyErp_answers : Small.emptyErp.Answers := fun _ _ => ⟨none, rfl, fun _ h => by cases h⟩

def Small.emptyEnv : Env := { Small.env with erp := fun _ => Small.emptyErp }

theorem Small.emptyEnv_reliable : Small.emptyEnv.Reliable := ⟨fun _ => rfl, fun _ => rfl⟩

theorem Small.world_filed : Small.world.db.InvoicesFiled := by
  refine ⟨List.nodup_nil, fun i hi => ?_, List.nodup_nil⟩
  cases hi

/-- An event for the first tenant. -/
def Small.event (eventType : WebhookEventType) : WebhookEvent := ⟨eventType, some 1, none, none, .object "evt" []⟩

/-- A tenant that has paid and cancelled. -/
def Small.cancelled : List Op :=
  [Small.createTenant, Small.webhook .paymentConfirmed "evt_1", Small.webhook .subscriptionCancelled "evt_2"]

set_option maxRecDepth 100000 in
theorem cancelled_refuses_payment :
    Small.emptyEnv.Reliable ∧ (∀ tick, (Small.emptyEnv.erp tick).Answers) ∧
      ((eventTenant "stripe" (Small.event .paymentConfirmed) (Small.after Small.cancelled).db).any fun tenant =>
        ((Small.after Small.cancelled).db.user? tenant.ownerId).isSome) = true ∧
      (processEvent Small.emptyEnv "stripe" (Small.event .paymentConfirmed)
          (opened (Small.after Small.cancelled).db (Small.after Small.cancelled).queue)).1 ≠
        .ok (processedMessage .paymentConfirmed) :=
  ⟨Small.emptyEnv_reliable, fun _ => Small.emptyErp_answers, by decide +kernel, by decide +kernel⟩

/-- The tenant of the run, paused. -/
def Small.paused : List Subscription :=
  (Small.after [Small.createTenant]).db.subscriptions.map fun s => { s with status := .paused }

set_option maxRecDepth 100000 in
theorem event_processed_iff_small :
    (processEvent Small.emptyEnv "stripe" (Small.event .paymentConfirmed)
        (quiet ((Small.after [Small.createTenant]).rowsWith Small.paused []) [] [] 0)).1 =
      .ok (processedMessage .paymentConfirmed) := by
  have hrows : ((eventTenant "stripe" (Small.event .paymentConfirmed)
      ((Small.after [Small.createTenant]).rowsWith Small.paused [])).any fun tenant =>
        ((Small.after [Small.createTenant]).db.user? tenant.ownerId).any fun _ =>
          (((Small.after [Small.createTenant]).rowsWith Small.paused []).subscriptionOf tenant.id).any fun s =>
            s.status = .paused) = true := by decide +kernel
  obtain ⟨tenant, htenant, hrows⟩ := (Option.any_eq_true _ _).1 hrows
  obtain ⟨owner, howner, hrows⟩ := (Option.any_eq_true _ _).1 hrows
  obtain ⟨subscription, hsub, hstatus⟩ := (Option.any_eq_true _ _).1 hrows
  have hpaused : subscription.status = .paused := of_decide_eq_true hstatus
  have hevent : (Small.event .paymentConfirmed).eventType = .paymentConfirmed := rfl
  refine (event_processed_iff (Small.events [Small.createTenant]) Small.paused [] [] 0 Small.world_filed
    Small.emptyEnv_reliable Small.emptyErp_answers htenant howner hsub).2 ?_
  rw [hpaused, hevent]
  decide

end ControlPlane
