import ControlPlane.Billing.Delivery

/-!
# What the programs write to a tenant's subscription

Every program that touches `subscriptions` writes one row, a tenant's own or a new one for it.
-/

namespace ControlPlane

open Table Session Session.Proc

/-- The tenant's subscription is written, over the row it has or as a new row. -/
structure SubscriptionWritten (db db' : Db) (tenantId : Nat) (row : Subscription) : Prop where
  tenant : row.tenantId = tenantId
  rows : (∃ old, db.subscriptionOf tenantId = some old ∧ row.id = old.id ∧ db'.subscriptions = put db.subscriptions row) ∨
    db.subscriptionOf tenantId = none ∧ row.id = fresh db.subscriptions ∧ db'.subscriptions = insert db.subscriptions row

/-- No id and no tenant is used twice in `subscriptions`. -/
structure Db.SubscriptionsUnique (db : Db) : Prop where
  ids : (db.subscriptions.map Subscription.id).Nodup
  tenants : (db.subscriptions.map Subscription.tenantId).Nodup

theorem Db.SubscriptionsUnique.congr {db db' : Db} (h : db.SubscriptionsUnique)
    (heq : db'.subscriptions = db.subscriptions) : db'.SubscriptionsUnique := ⟨heq ▸ h.ids, heq ▸ h.tenants⟩

theorem subscriptionOf_congr {db db' : Db} (h : db'.subscriptions = db.subscriptions) (t : Nat) :
    db'.subscriptionOf t = db.subscriptionOf t := by
  unfold Db.subscriptionOf
  rw [h]

theorem tenantId_of_subscriptionOf {db : Db} {t : Nat} {s : Subscription} (h : db.subscriptionOf t = some s) :
    s.tenantId = t := by
  unfold Db.subscriptionOf at h
  simpa using List.find?_some h

theorem mem_of_subscriptionOf {db : Db} {t : Nat} {s : Subscription} (h : db.subscriptionOf t = some s) :
    s ∈ db.subscriptions := List.mem_of_find?_eq_some h

/-- A subscription is the one of its tenant. -/
theorem Db.SubscriptionsUnique.subscriptionOf {db : Db} (h : db.SubscriptionsUnique) {s : Subscription}
    (hs : s ∈ db.subscriptions) : db.subscriptionOf s.tenantId = some s := by
  cases hfind : db.subscriptionOf s.tenantId with
  | none =>
    have hnot := List.find?_eq_none.1 hfind s hs
    simp at hnot
  | some other =>
    have heq := tenantId_of_subscriptionOf hfind
    have hmem := mem_of_subscriptionOf hfind
    rw [List.inj_on_of_nodup_map h.tenants hmem hs heq]

namespace SubscriptionWritten

variable {db db' : Db} {tenantId : Nat} {row : Subscription}

/-- The row is the tenant's subscription afterwards. -/
theorem self (h : SubscriptionWritten db db' tenantId row) : db'.subscriptionOf tenantId = some row := by
  unfold Db.subscriptionOf
  rcases h.rows with ⟨old, hold, hid, hrows⟩ | ⟨hnone, -, hrows⟩
  · rw [hrows]
    exact find?_put_self hold hid (by simp [h.tenant])
  · unfold Db.subscriptionOf at hnone
    rw [hrows, Table.insert, List.find?_append, hnone, Option.none_or, List.find?_cons_of_pos (by simp [h.tenant])]

/-- The other tenants have the subscriptions they had. -/
theorem other (h : SubscriptionWritten db db' tenantId row) (hids : (db.subscriptions.map Subscription.id).Nodup)
    {t : Nat} (ht : t ≠ tenantId) : db'.subscriptionOf t = db.subscriptionOf t := by
  have hrow : decide (row.tenantId = t) = false := by
    rw [h.tenant]
    simpa using Ne.symm ht
  unfold Db.subscriptionOf
  rcases h.rows with ⟨old, hold, hid, hrows⟩ | ⟨-, -, hrows⟩
  · rw [hrows]
    refine find?_put_of_not hrow fun a ha hkey => ?_
    have hsame : a = old := List.inj_on_of_nodup_map hids ha (mem_of_subscriptionOf hold) (hkey.trans hid)
    rw [hsame, tenantId_of_subscriptionOf hold]
    simpa using Ne.symm ht
  · rw [hrows, Table.insert, List.find?_append, List.find?_cons_of_neg (by simp [hrow]), List.find?_nil,
      Option.or_none]

theorem unique (h : SubscriptionWritten db db' tenantId row) (hU : db.SubscriptionsUnique) : db'.SubscriptionsUnique := by
  rcases h.rows with ⟨old, hold, hid, hrows⟩ | ⟨hnone, hid, hrows⟩
  · refine ⟨?_, ?_⟩
    · rw [hrows]
      exact (map_key_put db.subscriptions row).symm ▸ hU.ids
    · have hcolumn : db'.subscriptions.map Subscription.tenantId = db.subscriptions.map Subscription.tenantId := by
        rw [hrows]
        unfold put
        rw [List.map_map]
        refine List.map_congr_left fun a ha => ?_
        show Subscription.tenantId (if key a = key row then row else a) = a.tenantId
        split
        · rename_i hkey
          have hsame : a = old :=
            List.inj_on_of_nodup_map hU.ids ha (mem_of_subscriptionOf hold) (Eq.trans hkey hid)
          rw [hsame, h.tenant, tenantId_of_subscriptionOf hold]
        · rfl
      rw [hcolumn]
      exact hU.tenants
  · refine ⟨?_, ?_⟩
    · rw [hrows]
      exact nodup_insert_fresh hU.ids hid
    · rw [hrows, Table.insert, List.map_append, List.nodup_append]
      refine ⟨hU.tenants, List.nodup_singleton _, ?_⟩
      intro t ht t' ht'
      obtain ⟨a, ha, rfl⟩ := List.mem_map.1 ht
      rw [List.mem_singleton.1 ht', h.tenant]
      have hnot := List.find?_eq_none.1 hnone a ha
      simpa using hnot

end SubscriptionWritten

/-! ### The writers -/

theorem upsertSubscriptionForTenant_written {db db' : Db} {tenantId : Nat} {plan : Plan} {selectedApp : Option String}
    {status : SubscriptionStatus} {provider subscriptionId customerId sessionId : Option String}
    {trialEndsAt : Option (Option Time)} {subscription : Subscription}
    (h : upsertSubscriptionForTenant db tenantId plan selectedApp status provider subscriptionId customerId sessionId
      trialEndsAt = .ok (subscription, db')) : SubscriptionWritten db db' tenantId subscription := by
  obtain ⟨-, htenant, -⟩ := upsertSubscriptionForTenant_ok h
  refine ⟨htenant, ?_⟩
  unfold upsertSubscriptionForTenant at h
  obtain ⟨u, -, h⟩ := bind_eq_ok.1 h
  split at h
  · rename_i existing hexisting
    obtain ⟨v, -, h⟩ := bind_eq_ok.1 h
    cases h
    exact Or.inl ⟨existing, hexisting, rfl, rfl⟩
  · rename_i hnone
    cases h
    exact Or.inr ⟨hnone, rfl, rfl⟩

/-- A row written over the subscription a handler works on. -/
theorem ensureSubscription_written {db ensured db' : Db} {tenant : Tenant} {subscription row : Subscription}
    (h : ensureSubscription db tenant = .ok (subscription, ensured)) (hid : row.id = subscription.id)
    (htenant : row.tenantId = subscription.tenantId) (hrows : db'.subscriptions = put ensured.subscriptions row) :
    SubscriptionWritten db db' tenant.id row := by
  unfold ensureSubscription at h
  split at h
  · rename_i existing hexisting
    cases h
    exact ⟨htenant.trans (tenantId_of_subscriptionOf hexisting), Or.inl ⟨_, hexisting, hid, hrows⟩⟩
  · rename_i hnone
    obtain ⟨plans, hplans⟩ := getPlanBySlug_frame db "starter"
    split at h
    · rename_i plan db₁ hplan
      rw [hplan] at hplans
      obtain rfl : db₁ = _ := hplans
      have hwritten := upsertSubscriptionForTenant_written h
      refine ⟨htenant.trans hwritten.tenant, Or.inr ⟨hnone, ?_⟩⟩
      rcases hwritten.rows with ⟨old, hold, -⟩ | ⟨-, hfresh, hinsert⟩
      · have hold' : db.subscriptionOf tenant.id = some old := hold
        rw [hnone] at hold'
        cases hold'
      · refine ⟨hid.trans hfresh, ?_⟩
        rw [hrows, hinsert]
        exact put_insert_fresh hfresh hid
    · cases h

/-- The subscription a handler works on is the tenant's own, which is as it was or newly written. -/
theorem ensureSubscription_self {db ensured : Db} {tenant : Tenant} {subscription : Subscription}
    (h : ensureSubscription db tenant = .ok (subscription, ensured)) :
    ensured.subscriptionOf tenant.id = some subscription ∧ ensured.invoices = db.invoices ∧
      (ensured.subscriptions = db.subscriptions ∨ SubscriptionWritten db ensured tenant.id subscription) := by
  obtain ⟨-, plans', subscriptions', hframe⟩ := ensureSubscription_ok h
  have hinvoices : ensured.invoices = db.invoices := by rw [hframe]
  clear hframe
  unfold ensureSubscription at h
  split at h
  · rename_i existing hexisting
    cases h
    exact ⟨hexisting, rfl, Or.inl rfl⟩
  · obtain ⟨plans, hplans⟩ := getPlanBySlug_frame db "starter"
    split at h
    · rename_i plan db₁ hplan
      rw [hplan] at hplans
      obtain rfl : db₁ = _ := hplans
      have hwritten := upsertSubscriptionForTenant_written h
      exact ⟨hwritten.self, hinvoices, Or.inr ⟨hwritten.tenant, hwritten.rows⟩⟩
    · cases h

/-- The status an event gives the tenant's subscription. -/
def eventSubscriptionStatus : WebhookEventType → SubscriptionStatus
  | .paymentConfirmed => .active
  | .paymentFailed => .pastDue
  | .subscriptionCancelled => .cancelled
  | .other _ => .pending

/-- The parts of a confirmed payment that changes anything. -/
theorem confirmPayment_changed {provider : String} {event : WebhookEvent} {now : Time} {client : PlatformErpClient}
    {db db' : Db} {tenantId : Nat} {email : Option String}
    (h : confirmPayment provider event now client db = .ok (.changed tenantId email, db')) :
    ∃ (paying paid : Tenant) (subscription activated : Subscription) (ensured settled : Db), paying.id = tenantId ∧
      ensureSubscription db paying = .ok (subscription, ensured) ∧
      settleInvoiceBackedPaymentConfirmation client ensured paying subscription
        (resolveInvoiceBackedContext db provider event.tenantId event.subscriptionId event.raw).paymentAttempt provider
        now = .ok settled ∧
      activated.id = subscription.id ∧ activated.tenantId = subscription.tenantId ∧ activated.status = .active ∧
      db' = (settled.putSubscription activated).putTenant paid := by
  rcases confirmPayment_parts h with ⟨message, hhandled, -⟩ | ⟨owner, tenant, paying, paid, subscription, activated,
    ensured, settled, hhandled, -, -, hpaying, hsub, hsettled, -, hactivated, -, hrows⟩
  · cases hhandled
  · cases hhandled
    exact ⟨paying, paid, subscription, activated, ensured, settled, hpaying.1, hsub, hsettled, hactivated.1, hactivated.2.1,
      hactivated.2.2, hrows⟩

private theorem confirmPayment_subscription {provider : String} {event : WebhookEvent} {now : Time}
    {client : PlatformErpClient} {db db' : Db} {tenantId : Nat} {email : Option String}
    (h : confirmPayment provider event now client db = .ok (.changed tenantId email, db')) :
    ∃ row, SubscriptionWritten db db' tenantId row ∧ row.status = .active := by
  obtain ⟨paying, paid, subscription, activated, ensured, settled, rfl, hsub, hsettled, hid, htenant, hstatus, rfl⟩ :=
    confirmPayment_changed h
  obtain ⟨accounts, invoices, attempts, events, rfl⟩ := settleInvoiceBackedPaymentConfirmation_frame hsettled
  exact ⟨activated, ensureSubscription_written hsub hid htenant rfl, hstatus⟩

private theorem failPayment_subscription {provider : String} {event : WebhookEvent} {now : Time}
    {client : PlatformErpClient} {db db' : Db} {tenantId : Nat} {email : Option String}
    (h : failPayment provider event now client db = .ok (.changed tenantId email, db')) :
    ∃ row, SubscriptionWritten db db' tenantId row ∧ row.status = .pastDue := by
  rcases failPayment_parts h with ⟨message, hhandled, -⟩ | ⟨tenant, payer, failed, subscription, pastDue, ensured,
    hhandled, -, hid, hsub, -, ⟨hpastDueId, htenant, hstatus⟩, -, rfl⟩
  · cases hhandled
  · cases hhandled
    obtain ⟨attempts, events, hframe⟩ := applyInvoiceBackedPaymentFailure_frame ensured payer subscription
      (resolveInvoiceBackedContext db provider event.tenantId event.subscriptionId event.raw).paymentAttempt provider
      event.raw now
    rw [← hid]
    exact ⟨pastDue, ensureSubscription_written hsub hpastDueId htenant (by rw [hframe]; rfl), hstatus⟩

private theorem cancelSubscription_subscription {event : WebhookEvent} {now : Time} {client : PlatformErpClient}
    {db db' : Db} {tenantId : Nat} {email : Option String}
    (h : cancelSubscription event now client db = .ok (.changed tenantId email, db')) :
    ∃ row, SubscriptionWritten db db' tenantId row ∧ row.status = .cancelled := by
  rcases cancelSubscription_parts h with ⟨message, hhandled, -⟩ | ⟨ownerEmail, tenant, cancelled, subscription, ended,
    ensured, hhandled, -, hsub, ⟨hid, htenant, hstatus⟩, -, rfl⟩
  · cases hhandled
  · cases hhandled
    exact ⟨ended, ensureSubscription_written hsub hid htenant rfl, hstatus⟩

/-- An event that changes anything writes its tenant's subscription, with the status of the event. -/
theorem eventBody_subscription {provider : String} {event : WebhookEvent} {now : Time} {client : PlatformErpClient}
    {db db' : Db} {tenantId : Nat} {email : Option String}
    (h : eventBody provider event now client db = .ok (.changed tenantId email, db')) :
    ∃ row, SubscriptionWritten db db' tenantId row ∧ row.status = eventSubscriptionStatus event.eventType := by
  unfold eventBody at h
  cases htype : event.eventType with
  | paymentConfirmed =>
    rw [htype] at h
    exact confirmPayment_subscription h
  | paymentFailed =>
    rw [htype] at h
    exact failPayment_subscription h
  | subscriptionCancelled =>
    rw [htype] at h
    exact cancelSubscription_subscription h
  | other name =>
    rw [htype] at h
    cases h

end ControlPlane
