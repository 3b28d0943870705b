import ControlPlane.BillingGates
import ControlPlane.Changes
import ControlPlane.PayingTenants

/-!
# What moves a subscription

A step leaves the status of a tenant's subscription, or one of three things happened to the tenant in it: an event was
handled, a reconciliation repaired it, or a trial that was over was ended.  Which statuses these lead to is read off the
world before the step (`subscriptionMoves`); `step_subscriptionStatus` finds no other.
-/

namespace ControlPlane

open Table Session Session.Proc

/-- The operation is a trial cycle that writes. -/
def Op.endsTrials : Op → Bool
  | .trialCycle dryRun => !dryRun
  | _ => false

/-- The tenant's trial is over at a time. -/
def Db.trialOver (db : Db) (t : Nat) (now : Time) : Bool := (db.subscriptionOf t).any fun s => s.trialOver now

/-- The statuses to which a step may move a tenant's subscription. -/
def subscriptionMoves (w : World) (e : Event) (t : Nat) : List SubscriptionStatus :=
  (handledEvent w e t).toList.map eventSubscriptionStatus ++ (repairs w e t).map (fun _ => .active) ++
    if e.op.endsTrials && w.db.trialOver t (e.env.clock 0) then [.pastDue] else []

theorem paymentFailedStatus_ne_active : ∀ st, paymentFailedStatus st ≠ .active := by decide

theorem trialExpiredStatus_ne_active : ∀ st, trialExpiredStatus st ≠ .active := by decide

theorem tenantSubscriptionStatus_of_trialOver {db : Db} {t : Nat} {now : Time} (h : db.trialOver t now = true) :
    tenantSubscriptionStatus db t = .trialing := by
  obtain ⟨s, hs, hover⟩ := (Option.any_eq_true _ _).1 h
  unfold tenantSubscriptionStatus
  rw [Option.mem_def.1 hs]
  exact (of_decide_eq_true hover).1

/-- A trial cycle moves subscriptions to `past_due` only. -/
theorem eq_pastDue_of_endsTrials {w : World} {e : Event} {t : Nat} {status : SubscriptionStatus}
    (he : e.op.endsTrials = true) (h : status ∈ subscriptionMoves w e t) : status = .pastDue := by
  obtain ⟨env, op⟩ := e
  cases op with
  | trialCycle dryRun =>
    unfold subscriptionMoves at h
    rw [show handledEvent w ⟨env, .trialCycle dryRun⟩ t = none from rfl,
      show repairs w ⟨env, .trialCycle dryRun⟩ t = [] from rfl] at h
    dsimp only at h
    split at h
    · exact List.mem_singleton.1 h
    · cases h
  | _ => cases he

/-! ### A change -/

theorem SubscriptionWritten.tenantSubscriptionStatus {db db' : Db} {tenantId : Nat} {row : Subscription}
    (h : SubscriptionWritten db db' tenantId row) : tenantSubscriptionStatus db' tenantId = row.status := by
  unfold ControlPlane.tenantSubscriptionStatus
  rw [h.self]
  rfl

/-- A tenant's subscription is what its rows say of it. -/
theorem tenantSubscriptionStatus_congr {db db' : Db} {t : Nat} (h : db'.subscriptionOf t = db.subscriptionOf t) :
    tenantSubscriptionStatus db' t = tenantSubscriptionStatus db t := by
  unfold tenantSubscriptionStatus
  rw [h]

theorem eventTenant_of_core {provider : String} {event : WebhookEvent} {db db' : Db} (h : db'.core = db.core) :
    eventTenant provider event db' = eventTenant provider event db := by
  have hcore : ∀ d : Db, eventTenant provider event d.core = eventTenant provider event d := fun _ => rfl
  rw [← hcore db', h, hcore]

/-- An event that changes rows, and whose commit goes through, is handled for the tenant it changes. -/
theorem handledEvent_of_changed {w : World} {e : Event} {delivery : WebhookDelivery} {event : WebhookEvent} {tick : Nat}
    {tenantId : Nat} {email : Option String} {now : Time} {client : PlatformErpClient} {db db' : Db}
    (he : e.op = .webhook delivery) (hdelivered : deliveredEvent e.env w.db delivery = some (event, tick))
    (hcommit : e.env.commitFails tick = false) (hcore : db.core = w.db.core)
    (h : eventBody (delivery.provider e.env) event now client db = .ok (.changed tenantId email, db')) :
    handledEvent w e tenantId = some event.eventType ∧ ∃ tenant, w.db.tenant? tenantId = some tenant ∧
      db'.tenantStatus tenantId = some (eventStatus event.eventType tenant.status) := by
  obtain ⟨tenant, htenant, rfl, hnot, havailable, hmoved⟩ := eventBody_changed h
  have hsubscriptions := Db.subscriptions_of_core hcore
  have hplans : db.plans = w.db.plans := show db.core.plans = w.db.core.plans by rw [hcore]
  have hrow := eventTenant_row htenant
  rw [eventTenant_of_core hcore] at htenant
  have hguard : (w.db.subscriptionOf tenant.id).all (fun s => !eventRefused event.eventType s.status) = true := by
    rw [Option.all_eq_true]
    intro s hs
    rw [← subscriptionOf_congr hsubscriptions] at hs
    rw [hnot s hs]
    rfl
  rw [subscriptionAvailable_congr hplans hsubscriptions] at havailable
  refine ⟨?_, tenant, eventTenant_row htenant, ?_⟩
  · unfold handledEvent
    rw [he]
    dsimp only
    rw [hdelivered]
    dsimp only
    rw [htenant, if_pos ⟨rfl, hguard, havailable, Bool.eq_false_iff.1 hcommit⟩]
  · rw [hmoved.tenantStatus, if_pos rfl, Db.tenantStatus_of_tenant? hrow]
    rfl

/-- Every change keeps the rows on which a tenant's subscription is found. -/
theorem Change.payingRows {w : World} {e : Event} {db db' : Db} (hchange : Change w e db db') (h : db.PayingRows) :
    db'.PayingRows := by
  cases hchange with
  | created _ hr =>
    obtain ⟨row, hwritten, -⟩ := prepareTenant_subscription hr
    exact h.written hwritten (prepareTenant_ledger hr).invoices
  | joined => exact h.congr rfl rfl
  | checkedOut _ hr =>
    obtain ⟨row, hwritten⟩ := recordCheckout_subscription hr
    exact h.written hwritten (recordCheckout_ledger hr).invoices
  | renewed _ hr =>
    obtain ⟨row, hwritten, -⟩ := prepareRenewedCheckout_subscription hr
    exact h.written hwritten (prepareRenewedCheckout_ledger hr).1.invoices
  | handled _ _ _ _ hr => exact eventBody_payingRows (w := w) h hr
  | synced _ hr =>
    obtain ⟨accounts, invoices, hframe⟩ := syncForTenant_frame hr
    refine ⟨(invoicesFiled_ledger w e).synced _ _ _ _ _ _ h.filed hr, h.unique.congr ?_, h.linked.sync hr⟩
    rw [hframe]
  | attempted he hinvoice hr => exact (payingRows_preserved w e h).attempted _ _ _ _ _ he hinvoice _ _ hr
  | @reconciled tenantId invoiceId s r _ _ _ hbelongs hr =>
    have hfiled := (invoicesFiled_ledger w e).reconciled h.filed hbelongs hr
    obtain ⟨result, email⟩ := r
    obtain ⟨tenant, invoice, updated, db₁, -, -, hresync, hmarks⟩ := reconcileInvoice_ledger hr
    have hinvoices : db'.invoices = db₁.invoices := by
      rcases hmarks with hsame | ⟨attempt, marked, -, -, hsame⟩
      · exact hsame.invoices
      · exact hsame.invoices
    obtain ⟨accounts, invoices, hframe⟩ := resyncOneInvoice_frame hresync
    have h₁ := h.resync hresync
    rcases reconcileInvoice_subscription h hbelongs hr with ⟨hsame, -⟩ | ⟨tenant', row, runtimeExists, -, hwritten, -⟩
    · exact h₁.congr hinvoices (by rw [hsame, hframe])
    · exact h₁.written (hwritten.congr (by rw [hframe]) rfl) hinvoices
  | expired _ hr =>
    rcases expireTrial_subscription h.unique hr with rfl | ⟨tenant, s, row, -, -, -, hwritten, -⟩
    · exact h
    · exact h.written hwritten (expireTrial_ledger hr).1.invoices
  | moved _ hr =>
    obtain ⟨tenant, -, hr⟩ := bind_eq_ok.1 hr
    obtain ⟨moved, -, hr⟩ := bind_eq_ok.1 hr
    cases hr
    exact h.congr rfl rfl
  | retried _ hr =>
    obtain ⟨tenant, -, hr⟩ := bind_eq_ok.1 hr
    obtain ⟨u, -, hr⟩ := bind_eq_ok.1 hr
    obtain ⟨moved, -, hr⟩ := bind_eq_ok.1 hr
    cases hr
    exact h.congr rfl rfl
  | reminded => exact h.congr rfl rfl
  | escalated => exact h.congr rfl rfl
  | worked => exact h.congr rfl rfl
  | failing => exact h.congr rfl rfl

/-- What a change does to the status of the subscription of a tenant that is not created in the step: nothing, or it is an
event that is handled for the tenant, a repair, or the end of a trial. -/
theorem Change.subscriptionStatus {w : World} {e : Event} {db db' : Db} {t : Nat} (hchange : Change w e db db')
    (hrows : db.PayingRows) (ht : t ≠ fresh w.db.tenants) :
    (tenantSubscriptionStatus db' t = tenantSubscriptionStatus db t ∧ (e.op.endsTrials = true →
        db'.trialOver t (e.env.clock 0) = true → db.trialOver t (e.env.clock 0) = true)) ∨
      (∃ eventType ∈ handledEvent w e t, tenantSubscriptionStatus db' t = eventSubscriptionStatus eventType ∧
        ∃ tenant, w.db.tenant? t = some tenant ∧ db'.tenantStatus t = some (eventStatus eventType tenant.status)) ∨
      (repairs w e t ≠ [] ∧ tenantSubscriptionStatus db' t = .active) ∨
      e.op.endsTrials = true ∧ db.trialOver t (e.env.clock 0) = true ∧ tenantSubscriptionStatus db' t = .pastDue ∧
        db'.tenantStatus t ≠ some .active := by
  have hids := hrows.unique.ids
  have hsame : db'.subscriptionOf t = db.subscriptionOf t →
      tenantSubscriptionStatus db' t = tenantSubscriptionStatus db t ∧ (e.op.endsTrials = true →
        db'.trialOver t (e.env.clock 0) = true → db.trialOver t (e.env.clock 0) = true) := by
    intro heq
    refine ⟨tenantSubscriptionStatus_congr heq, fun _ hover => ?_⟩
    unfold Db.trialOver at hover ⊢
    rw [← heq]
    exact hover
  have hstatus : e.op.endsTrials = false → tenantSubscriptionStatus db' t = tenantSubscriptionStatus db t →
      tenantSubscriptionStatus db' t = tenantSubscriptionStatus db t ∧ (e.op.endsTrials = true →
        db'.trialOver t (e.env.clock 0) = true → db.trialOver t (e.env.clock 0) = true) := by
    intro hop heq
    refine ⟨heq, fun hends => ?_⟩
    rw [hop] at hends
    cases hends
  have hother : ∀ {tenantId : Nat} {row : Subscription}, SubscriptionWritten db db' tenantId row → t ≠ tenantId →
      db'.subscriptionOf t = db.subscriptionOf t := fun hwritten hne => hwritten.other hids hne
  cases hchange with
  | created he hr =>
    obtain ⟨row, hwritten, -⟩ := prepareTenant_subscription hr
    rw [(prepareTenant_ok hr).1] at hwritten
    exact Or.inl (hsame (hother hwritten ht))
  | joined => exact Or.inl (hsame rfl)
  | checkedOut he hr =>
    obtain ⟨row, hwritten⟩ := recordCheckout_subscription hr
    exact Or.inl (hsame (hother hwritten ht))
  | @renewed tenantId u _ he hr =>
    obtain ⟨row, hwritten, hrow⟩ := prepareRenewedCheckout_subscription hr
    by_cases htenant : t = tenantId
    · subst htenant
      refine Or.inl (hstatus (by rw [he]; rfl) ?_)
      rw [hwritten.tenantSubscriptionStatus, hrow, subscriptionStatusForTenant_eq]
    · exact Or.inl (hsame (hother hwritten htenant))
  | @handled delivery event tick tenantId email _ _ he hdelivered hcommit hcore hr =>
    obtain ⟨row, hwritten, hrow⟩ := eventBody_subscription hr
    by_cases htenant : t = tenantId
    · subst htenant
      obtain ⟨hevent, hmoved⟩ := handledEvent_of_changed he hdelivered hcommit hcore hr
      exact Or.inr (Or.inl ⟨event.eventType, hevent, hwritten.tenantSubscriptionStatus.trans hrow, hmoved⟩)
    · exact Or.inl (hsame (hother hwritten htenant))
  | synced he hr =>
    obtain ⟨accounts, invoices, rfl⟩ := syncForTenant_frame hr
    exact Or.inl (hsame rfl)
  | @attempted invoiceId attemptId provider invoice tenant user _ he hinvoice hr =>
    obtain ⟨updated, db₁, checkout, hresync, -, -, -, rfl⟩ := preparePaymentAttempt_ledger hr
    obtain ⟨accounts, invoices, hframe⟩ := resyncOneInvoice_frame hresync
    have hbefore : db₁.subscriptions = w.db.subscriptions := by rw [hframe]
    rcases addPaymentAttempt_subscription db₁ tenant updated checkout (e.env.clock 0) with heq | ⟨s, row, hs, hrow, hwritten⟩
    · exact Or.inl (hsame (subscriptionOf_congr (heq.trans hbefore) t))
    · replace hwritten := hwritten.congr hbefore.symm rfl
      rw [subscriptionOf_congr hbefore] at hs
      by_cases htenant : t = tenant.id
      · subst htenant
        refine Or.inl (hstatus (by rw [he]; rfl) ?_)
        rw [hwritten.tenantSubscriptionStatus, hrow]
        unfold tenantSubscriptionStatus
        rw [hs]
        rfl
      · exact Or.inl (hsame (hother hwritten htenant))
  | @reconciled tenantId invoiceId s r _ he hvisit hbelongs hr =>
    obtain ⟨result, email⟩ := r
    rcases reconcileInvoice_subscription hrows hbelongs hr with ⟨heq, -⟩ | ⟨tenant, row, runtimeExists, -, hwritten, hrow, -⟩
    · exact Or.inl (hsame (subscriptionOf_congr heq t))
    by_cases htenant : t = tenantId
    · subst htenant
      have heffect := reconcileInvoice_ok hr
      cases hrepair : paidRepair t invoiceId (e.env.clock s.tick) (e.env.erp s.tick) s.work with
      | none =>
        rw [hrepair] at heffect
        exact Or.inl (hsame (subscriptionOf_congr heffect.2.2.1 t))
      | some repair =>
        refine Or.inr (Or.inr (Or.inl ⟨fun hnone => ?_, hwritten.tenantSubscriptionStatus.trans hrow⟩))
        have hmem : repair ∈ repairs w e t := mem_repairs hvisit rfl hrepair
        rw [hnone] at hmem
        cases hmem
    · exact Or.inl (hsame (hother hwritten htenant))
  | expired he hr =>
    rcases expireTrial_subscription hrows.unique hr with rfl | ⟨tenant, s, row, htenant, hs, hover, hwritten, hrow, hmoved⟩
    · exact Or.inl (hsame rfl)
    by_cases ht' : t = tenant.id
    · subst ht'
      rcases hover with hover | hpastDue
      · refine Or.inr (Or.inr (Or.inr ⟨by rw [he]; rfl, ?_, hwritten.tenantSubscriptionStatus.trans hrow, ?_⟩))
        · unfold Db.trialOver
          rw [hs]
          exact hover
        · rw [hmoved.tenantStatus, if_pos rfl, Db.tenantStatus_of_tenant? htenant]
          exact fun h => trialExpiredStatus_ne_active tenant.status (Option.some.inj h)
      · refine Or.inl ⟨?_, fun _ hover => ?_⟩
        · rw [hwritten.tenantSubscriptionStatus, hrow]
          unfold tenantSubscriptionStatus
          rw [hs]
          exact hpastDue.symm
        · unfold Db.trialOver at hover
          rw [hwritten.self] at hover
          have htrialing := (of_decide_eq_true hover).1
          rw [hrow] at htrialing
          cases htrialing
    · exact Or.inl (hsame (hother hwritten ht'))
  | moved he hr =>
    obtain ⟨tenant, -, hr⟩ := bind_eq_ok.1 hr
    obtain ⟨moved, -, hr⟩ := bind_eq_ok.1 hr
    cases hr
    exact Or.inl (hsame rfl)
  | retried he hr =>
    obtain ⟨tenant, -, hr⟩ := bind_eq_ok.1 hr
    obtain ⟨u, -, hr⟩ := bind_eq_ok.1 hr
    obtain ⟨moved, -, hr⟩ := bind_eq_ok.1 hr
    cases hr
    exact Or.inl (hsame rfl)
  | reminded => exact Or.inl (hsame rfl)
  | escalated => exact Or.inl (hsame rfl)
  | worked => exact Or.inl (hsame rfl)
  | failing => exact Or.inl (hsame rfl)

/-! ### A step -/

/-- The rows of the bills are as a run leaves them, and the tenant's subscription is in the status it had before the step or
in one the step may move it to. -/
structure SubscriptionWithin (w : World) (e : Event) (t : Nat) (db : Db) : Prop where
  rows : db.PayingRows
  status : tenantSubscriptionStatus db t ∈ subscriptionMoves w e t ∨
    tenantSubscriptionStatus db t = tenantSubscriptionStatus w.db t ∧ (e.op.endsTrials = true →
      db.trialOver t (e.env.clock 0) = true → w.db.trialOver t (e.env.clock 0) = true)

theorem SubscriptionWithin.change {w : World} {e : Event} {t : Nat} {db db' : Db} (h : SubscriptionWithin w e t db)
    (ht : t ≠ fresh w.db.tenants) (hchange : Change w e db db') : SubscriptionWithin w e t db' := by
  refine ⟨hchange.payingRows h.rows, ?_⟩
  unfold subscriptionMoves
  rw [List.mem_append, List.mem_append]
  rcases hchange.subscriptionStatus h.rows ht with ⟨heq, hover⟩ | ⟨eventType, hevent, hstatus, -⟩ | ⟨hrepaired, hstatus⟩ |
    ⟨hop, hover, hstatus, -⟩
  · -- the status of before
    rcases h.status with hmoved | ⟨hsame, hover'⟩
    · rw [heq]
      unfold subscriptionMoves at hmoved
      rw [List.mem_append, List.mem_append] at hmoved
      exact Or.inl hmoved
    · exact Or.inr ⟨heq.trans hsame, fun hop h => hover' hop (hover hop h)⟩
  · rw [hstatus]
    exact Or.inl (Or.inl (Or.inl (List.mem_map_of_mem (Option.mem_toList.2 hevent))))
  · obtain ⟨repair, hrepair⟩ := List.exists_mem_of_ne_nil _ hrepaired
    rw [hstatus]
    exact Or.inl (Or.inl (Or.inr (List.mem_map.2 ⟨repair, hrepair, rfl⟩)))
  · -- a trial that is over was so before the step, or has been moved by it
    rcases h.status with hmoved | ⟨-, hover'⟩
    · have hpastDue := eq_pastDue_of_endsTrials hop hmoved
      rw [tenantSubscriptionStatus_of_trialOver hover] at hpastDue
      cases hpastDue
    · rw [hstatus, hop, hover' hop hover]
      exact Or.inl (Or.inr (List.mem_singleton_self _))

theorem follows_subscription {w : World} {e : Event} {t : Nat} (ht : t ≠ fresh w.db.tenants) :
    Follows (SubscriptionWithin w e t) w e where
  core db db' hcore h := by
    have hrows := Db.subscriptions_of_core hcore
    have hsame := subscriptionOf_congr hrows t
    refine ⟨h.rows.congr (Db.invoices_of_core hcore) hrows, ?_⟩
    unfold Db.trialOver
    rw [tenantSubscriptionStatus_congr hsame, hsame]
    exact h.status
  flush now saved work hsaved hwork := ⟨hwork.rows.congr rfl rfl, hwork.status⟩
  invoiceIds db h := h.rows.filed.ids
  single db db' hchange h := h.change ht hchange

/-- A step leaves the status of a subscription, or moves it to one that is read off the world before it. -/
theorem step_subscriptionStatus {w : World} {e : Event} {t : Nat} (hrows : w.db.PayingRows)
    (ht : t ≠ fresh w.db.tenants) :
    tenantSubscriptionStatus (step w e).db t ∈ tenantSubscriptionStatus w.db t :: subscriptionMoves w e t := by
  have hafter : SubscriptionWithin w e t (step w e).db :=
    step_follows (follows_subscription ht) ⟨hrows, Or.inr ⟨rfl, fun _ h => h⟩⟩
  rcases hafter.status with hmoved | ⟨hsame, -⟩
  · exact List.mem_cons_of_mem _ hmoved
  · rw [hsame]
    exact List.mem_cons_self ..

/-! ### A tenant that stays active -/

/-- An event handled for a tenant is no other than a billing event, and no such event but a confirmed payment leaves a tenant
active. -/
theorem eventStatus_ne_active {w : World} {e : Event} {t : Nat} {eventType : WebhookEventType}
    (h : handledEvent w e t = some eventType) (hconfirmed : eventType ≠ .paymentConfirmed) (st : TenantStatus) :
    (∃ delivery, e.op = .webhook delivery) ∧ eventStatus eventType st ≠ .active := by
  unfold handledEvent at h
  split at h
  · rename_i delivery hop
    split at h
    · cases h
    · split at h
      · rename_i hguard
        cases h
        refine ⟨⟨delivery, hop⟩, ?_⟩
        obtain ⟨tenant, htenant, -⟩ := Option.map_eq_some_iff.1 hguard.1
        have hbilling := billing_of_eventTenant htenant
        revert hconfirmed hbilling
        generalize WebhookEvent.eventType _ = eventType
        intro hconfirmed hbilling
        cases eventType with
        | paymentConfirmed => exact absurd rfl hconfirmed
        | paymentFailed => exact paymentFailedStatus_ne_active st
        | subscriptionCancelled => exact fun h => by cases h
        | other name => exact absurd rfl (hbilling name)
      · cases h
  · cases h

/-- The changes of a delivery are made on the rows the step found. -/
theorem Change.of_webhook {w : World} {e : Event} {db db' : Db} {delivery : WebhookDelivery}
    (hchange : Change w e db db') (hop : e.op = .webhook delivery) : db.core = w.db.core := by
  cases hchange with
  | handled _ _ _ hcore => exact hcore
  | _ => simp_all [Op.creation, Op.reconciles, Op.asks, Op.runs]

/-- Those of a trial cycle end trials. -/
theorem Change.of_endsTrials {w : World} {e : Event} {db db' : Db} (hchange : Change w e db db')
    (hop : e.op.endsTrials = true) : ∃ id r, expireTrial id (e.env.clock 0) db = .ok (r, db') := by
  have hcycle : e.op = .trialCycle false := by
    revert hop
    cases e.op with
    | trialCycle dryRun =>
      intro hop
      rw [show dryRun = false by simpa [Op.endsTrials] using hop]
    | _ => exact fun hop => by cases hop
  cases hchange with
  | expired he hr => exact ⟨_, _, hr⟩
  | _ => simp_all [Op.creation, Op.reconciles, Op.asks, Op.runs]

/-- The tenant's subscription is in the status it had before the step, or a failed or cancelled payment or the end of its
trial has taken the tenant out of service. -/
structure ActiveWithin (w : World) (e : Event) (t : Nat) (db : Db) : Prop where
  rows : db.PayingRows
  status : tenantSubscriptionStatus db t = tenantSubscriptionStatus w.db t ∨
    db.tenantStatus t ≠ some .active ∧ ((∃ delivery, e.op = .webhook delivery) ∨ e.op.endsTrials = true)

theorem ActiveWithin.change {w : World} {e : Event} {t : Nat} {db db' : Db} (h : ActiveWithin w e t db)
    (ht : t ≠ fresh w.db.tenants) (hconfirmed : handledEvent w e t ≠ some .paymentConfirmed) (hrepairs : repairs w e t = [])
    (hchange : Change w e db db') : ActiveWithin w e t db' := by
  refine ⟨hchange.payingRows h.rows, ?_⟩
  have hfirst : tenantSubscriptionStatus db t = tenantSubscriptionStatus w.db t →
      tenantSubscriptionStatus db' t = tenantSubscriptionStatus w.db t ∨
        db'.tenantStatus t ≠ some .active ∧ ((∃ delivery, e.op = .webhook delivery) ∨ e.op.endsTrials = true) := by
    intro hsame
    rcases hchange.subscriptionStatus h.rows ht with ⟨heq, -⟩ | ⟨eventType, hevent, -, tenant, -, hstatus⟩ | ⟨hrepaired, -⟩ |
      ⟨hop, -, -, hinactive⟩
    · exact Or.inl (heq.trans hsame)
    · obtain ⟨hop, hne⟩ := eventStatus_ne_active hevent (fun htype => hconfirmed (htype ▸ hevent)) tenant.status
      refine Or.inr ⟨?_, Or.inl hop⟩
      rw [hstatus]
      exact fun hactive => hne (Option.some.inj hactive)
    · exact absurd hrepairs hrepaired
    · exact Or.inr ⟨hinactive, Or.inr hop⟩
  rcases h.status with hsame | ⟨hinactive, ⟨delivery, hop⟩ | hop⟩
  · exact hfirst hsame
  · have hcore := hchange.of_webhook hop
    exact hfirst (tenantSubscriptionStatus_congr (subscriptionOf_congr (Db.subscriptions_of_core hcore) t))
  · obtain ⟨id, r, hr⟩ := hchange.of_endsTrials hop
    refine Or.inr ⟨?_, Or.inr hop⟩
    rcases expireTrial_subscription h.rows.unique hr with rfl | ⟨tenant, s, row, htenant, -, -, -, -, hmoved⟩
    · exact hinactive
    rw [hmoved.tenantStatus]
    split
    · rename_i heq
      rw [heq, Db.tenantStatus_of_tenant? htenant]
      exact fun hactive => trialExpiredStatus_ne_active tenant.status (Option.some.inj hactive)
    · exact hinactive

/-- Without a confirmed payment and a repair, a tenant that is active after a step has its subscription in the status of
before. -/
theorem step_active_subscription {w : World} {e : Event} {t : Nat} (hrows : w.db.PayingRows)
    (ht : t ≠ fresh w.db.tenants) (hconfirmed : handledEvent w e t ≠ some .paymentConfirmed) (hrepairs : repairs w e t = [])
    (hactive : (step w e).status t = some .active) :
    tenantSubscriptionStatus (step w e).db t = tenantSubscriptionStatus w.db t := by
  have hfollows : Follows (ActiveWithin w e t) w e := by
    refine ⟨fun db db' hcore h => ?_, fun now saved work hsaved hwork => ?_, fun db h => h.rows.filed.ids,
      fun db db' hchange h => h.change ht hconfirmed hrepairs hchange⟩
    · have hsubscriptions := Db.subscriptions_of_core hcore
      refine ⟨h.rows.congr (Db.invoices_of_core hcore) hsubscriptions, ?_⟩
      rw [tenantSubscriptionStatus_congr (subscriptionOf_congr hsubscriptions t),
        Db.tenantStatus_congr (Db.tenants_of_core hcore)]
      exact h.status
    · refine ⟨hwork.rows.congr rfl rfl, ?_⟩
      rw [Db.tenantStatus_flush]
      exact hwork.status
  have hafter : ActiveWithin w e t (step w e).db := step_follows hfollows ⟨hrows, Or.inl rfl⟩
  exact hafter.status.resolve_right fun hinactive => hinactive.1 hactive

end ControlPlane
