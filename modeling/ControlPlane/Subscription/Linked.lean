import ControlPlane.LedgerInvariant
import ControlPlane.Subscription.Writes

/-!
# Which subscription an invoice names

`billing_invoices.subscription_id` is written with the subscription of the invoice's tenant, and no writer of either table
takes them apart.
-/

namespace ControlPlane

open Table Session Session.Proc

/-- The subscription with an id is there, and it is a tenant's. -/
def Db.HasSubscription (db : Db) (id tenantId : Nat) : Prop := ∃ s ∈ db.subscriptions, s.id = id ∧ s.tenantId = tenantId

/-- Every invoice that names a subscription names one of its own tenant. -/
def Db.SubscriptionsLinked (db : Db) : Prop :=
  ∀ invoice ∈ db.invoices, ∀ id, invoice.subscriptionId = some id → db.HasSubscription id invoice.tenantId

theorem hasSubscription_of_subscriptionOf {db : Db} {id tenantId : Nat}
    (h : (db.subscriptionOf tenantId).map Subscription.id = some id) : db.HasSubscription id tenantId := by
  obtain ⟨s, hs, hid⟩ := Option.map_eq_some_iff.1 h
  exact ⟨s, mem_of_subscriptionOf hs, hid, tenantId_of_subscriptionOf hs⟩

/-- A row written over one with its id and its tenant. -/
theorem hasSubscription_put {db db' : Db} {old row : Subscription} (hids : (db.subscriptions.map Subscription.id).Nodup)
    (hold : old ∈ db.subscriptions) (hid : row.id = old.id) (htenant : row.tenantId = old.tenantId)
    (hrows : db'.subscriptions = put db.subscriptions row) {id t : Nat} (hhas : db.HasSubscription id t) :
    db'.HasSubscription id t := by
  obtain ⟨s, hs, rfl, rfl⟩ := hhas
  by_cases hsame : s.id = row.id
  · have heq : s = old := List.inj_on_of_nodup_map hids hs hold (hsame.trans hid)
    refine ⟨row, ?_, hsame.symm, ?_⟩
    · rw [hrows]
      exact List.mem_map.2 ⟨s, hs, if_pos hsame⟩
    · rw [htenant, heq]
  · refine ⟨s, ?_, rfl, rfl⟩
    rw [hrows]
    exact List.mem_map.2 ⟨s, hs, if_neg hsame⟩

/-- A written subscription keeps its id and its tenant, and no other row changes. -/
theorem SubscriptionWritten.has {db db' : Db} {tenantId : Nat} {row : Subscription}
    (h : SubscriptionWritten db db' tenantId row) (hids : (db.subscriptions.map Subscription.id).Nodup) {id t : Nat}
    (hhas : db.HasSubscription id t) : db'.HasSubscription id t := by
  rcases h.rows with ⟨old, hold, hid, hrows⟩ | ⟨-, -, hrows⟩
  · have htenant : row.tenantId = old.tenantId := by rw [h.tenant, tenantId_of_subscriptionOf hold]
    exact hasSubscription_put hids (mem_of_subscriptionOf hold) hid htenant hrows hhas
  · obtain ⟨s, hs, rfl, rfl⟩ := hhas
    refine ⟨s, ?_, rfl, rfl⟩
    rw [hrows]
    exact mem_insert.2 (Or.inl hs)

namespace Db.SubscriptionsLinked

theorem congr {db db' : Db} (h : db.SubscriptionsLinked) (hinvoices : db'.invoices = db.invoices)
    (hsubscriptions : db'.subscriptions = db.subscriptions) : db'.SubscriptionsLinked := by
  intro invoice hmem id hid
  rw [hinvoices] at hmem
  unfold Db.HasSubscription
  rw [hsubscriptions]
  exact h invoice hmem id hid

/-- Writing a tenant's subscription. -/
theorem written {db db' : Db} {tenantId : Nat} {row : Subscription} (h : db.SubscriptionsLinked)
    (hids : (db.subscriptions.map Subscription.id).Nodup) (hwritten : SubscriptionWritten db db' tenantId row)
    (hinvoices : db'.invoices = db.invoices) : db'.SubscriptionsLinked := by
  intro invoice hmem id hid
  rw [hinvoices] at hmem
  exact hwritten.has hids (h invoice hmem id hid)

/-- Writing an invoice that names a subscription of its own tenant. -/
theorem put {db : Db} {invoice : BillingInvoice} (h : db.SubscriptionsLinked)
    (hinvoice : ∀ id, invoice.subscriptionId = some id → db.HasSubscription id invoice.tenantId) :
    (db.putInvoice invoice).SubscriptionsLinked := by
  intro i hi id hid
  rcases mem_put hi with rfl | hi
  · exact hinvoice id hid
  · exact h i hi id hid

theorem upsert {flushed : List BillingInvoice} {db db' : Db} {tenant : Tenant} {account : BillingAccount} {item : ErpItem}
    {now : Time} {invoice : BillingInvoice} (h : db.SubscriptionsLinked)
    (hupsert : upsertBillingInvoiceFromErpItem flushed db tenant account item now = .ok (invoice, db')) :
    db'.SubscriptionsLinked := by
  obtain ⟨-, db₁, found, due, paid, hfound, hinvoice, rfl⟩ := upsertBillingInvoiceFromErpItem_ok hupsert
  have h₁ : db₁.SubscriptionsLinked := by
    unfold findOrAddInvoice at hfound
    split at hfound
    · cases hfound
      exact h
    · cases hfound
      intro i hi id hid
      rcases mem_insert.1 hi with hi | rfl
      · exact h i hi id hid
      · exact hasSubscription_of_subscriptionOf hid
  refine h₁.put fun id hid => ?_
  rw [hinvoice] at hid ⊢
  exact hasSubscription_of_subscriptionOf hid

theorem resync {client : PlatformErpClient} {db db' : Db} {tenant : Tenant} {invoice updated : BillingInvoice}
    {now : Time} (h : db.SubscriptionsLinked)
    (hresync : resyncOneInvoice client db tenant invoice now = .ok (updated, db')) : db'.SubscriptionsLinked := by
  have h' : (ensureBillingAccount db tenant).1.SubscriptionsLinked := by
    cases haccount : ensureBillingAccount db tenant with
    | mk db₁ account =>
      obtain ⟨accounts, rfl⟩ := ensureBillingAccount_frame haccount
      exact h.congr rfl rfl
  rcases resyncOneInvoice_ok hresync with ⟨-, rfl | rfl⟩ | ⟨customerId, item, -, -, -, hrow, -⟩
  · exact h
  · exact h'
  · exact h'.upsert hrow

theorem upsertItems {flushed : List BillingInvoice} {tenant : Tenant} {account : BillingAccount} {now : Time}
    {items : List ErpItem} {db db' : Db} {rows : List BillingInvoice} (h : db.SubscriptionsLinked)
    (hitems : upsertItems flushed tenant account now items db = .ok (rows, db')) : db'.SubscriptionsLinked := by
  induction items generalizing db rows with
  | nil =>
    cases hitems
    exact h
  | cons item items ih =>
    obtain ⟨⟨invoice, db₁⟩, h₁, hitems⟩ := bind_eq_ok.1 hitems
    obtain ⟨⟨rest, db₂⟩, h₂, hitems⟩ := bind_eq_ok.1 hitems
    cases hitems
    exact ih (h.upsert h₁) h₂

theorem sync {tenantId limit : Nat} {now : Time} {client : PlatformErpClient} {db db' : Db} {u : Unit}
    (h : db.SubscriptionsLinked) (hsync : syncForTenant tenantId limit now client db = .ok (u, db')) :
    db'.SubscriptionsLinked := by
  obtain ⟨tenant, -, hsync⟩ := bind_eq_ok.1 hsync
  obtain ⟨⟨rows, db₁⟩, hinvoices, hsync⟩ := bind_eq_ok.1 hsync
  cases hsync
  unfold syncPlatformInvoicesForTenant at hinvoices
  split at hinvoices
  · split at hinvoices
    rename_i db₂ account haccount
    obtain ⟨accounts, rfl⟩ := ensureBillingAccount_frame haccount
    obtain ⟨items, -, hinvoices⟩ := bind_eq_ok.1 hinvoices
    obtain ⟨⟨written, db₃⟩, hitems, hinvoices⟩ := bind_eq_ok.1 hinvoices
    obtain ⟨db₄, hflush, hinvoices⟩ := bind_eq_ok.1 hinvoices
    cases hinvoices
    obtain rfl := flushInvoices_eq hflush
    have h' : Db.SubscriptionsLinked { db with accounts := accounts } := h.congr rfl rfl
    exact h'.upsertItems hitems
  · cases hinvoices
    exact h

/-- A settled invoice names the subscription it named. -/
theorem settle {client : PlatformErpClient} {db db' : Db} {tenant : Tenant} {attempt : PaymentAttempt} {now : Time}
    (h : db.SubscriptionsLinked) (hsettle : SettledInvoice client tenant now attempt db db') : db'.SubscriptionsLinked := by
  rcases hsettle with ⟨-, rfl⟩ | ⟨invoice, updated, settled, db₁, hinvoice, hupdated, hset, rfl⟩
  · exact h
  · have hrow : db.invoice? invoice.id = some invoice := by
      rw [show invoice.id = attempt.billingInvoiceId from key_of_get? hinvoice]
      exact hinvoice
    have h₁ : db₁.SubscriptionsLinked ∧ db₁.invoice? updated.id = some updated := by
      rcases hupdated with ⟨rfl, rfl⟩ | hresync
      · exact ⟨h, hrow⟩
      · exact ⟨h.resync hresync, resyncOneInvoice_row hrow hresync⟩
    refine h₁.1.put fun id hid => ?_
    rw [hset.subscription] at hid
    rw [hset.tenant]
    exact h₁.1 updated (mem_of_get? h₁.2) id hid

/-- A confirmed payment leaves the invoices linked: its invoice is settled on the rows with the subscription ensured. -/
theorem confirmed {provider : String} {event : WebhookEvent} {now : Time} {client : PlatformErpClient} {db db' : Db}
    {tenantId : Nat} {email : Option String} (h : db.SubscriptionsLinked) (hU : db.SubscriptionsUnique)
    (hr : confirmPayment provider event now client db = .ok (.changed tenantId email, db')) : db'.SubscriptionsLinked := by
  obtain ⟨paying, paid, subscription, activated, ensured, settled, rfl, hsub, hsettled, hid, htenant, -, rfl⟩ :=
    confirmPayment_changed hr
  obtain ⟨hself, hinvoices, hcases⟩ := ensureSubscription_self hsub
  have hensured : ensured.SubscriptionsLinked ∧ ensured.SubscriptionsUnique := by
    rcases hcases with hsame | hwritten
    · exact ⟨h.congr hinvoices hsame, hU.congr hsame⟩
    · exact ⟨h.written hU.ids hwritten hinvoices, hwritten.unique hU⟩
  have hlinked : settled.SubscriptionsLinked ∧ settled.subscriptions = ensured.subscriptions := by
    cases hattempt : (resolveInvoiceBackedContext db provider event.tenantId event.subscriptionId
        event.raw).paymentAttempt with
    | none =>
      rw [hattempt] at hsettled
      cases hsettled
      exact ⟨hensured.1, rfl⟩
    | some attempt =>
      rw [hattempt] at hsettled
      obtain ⟨settledDb, hsettle, hrows, -⟩ := settleInvoiceBackedPaymentConfirmation_some hsettled
      obtain ⟨accounts, invoices, attempts, events, rfl⟩ := settleInvoiceBackedPaymentConfirmation_frame hsettled
      have hsettledDb := hensured.1.settle (settleInvoiceOf_ok hsettle)
      obtain ⟨accounts', invoices', rfl⟩ := settleInvoiceOf_frame hsettle
      exact ⟨hsettledDb.congr hrows rfl, rfl⟩
  intro invoice hmem id hinvoice
  have hhas := hlinked.1 invoice hmem id hinvoice
  have hold : subscription ∈ settled.subscriptions := by
    rw [hlinked.2]
    exact mem_of_subscriptionOf hself
  exact hasSubscription_put (hlinked.2 ▸ hensured.2.ids) hold hid htenant rfl hhas

/-- An event leaves the invoices linked. -/
theorem handled {provider : String} {event : WebhookEvent} {now : Time} {client : PlatformErpClient} {db db' : Db}
    {r : Handled} (h : db.SubscriptionsLinked) (hU : db.SubscriptionsUnique)
    (hr : eventBody provider event now client db = .ok (r, db')) : db'.SubscriptionsLinked := by
  cases r with
  | ignored message =>
    rw [eventBody_ignored hr]
    exact h
  | changed tenantId email =>
    obtain ⟨row, hwritten, -⟩ := eventBody_subscription hr
    unfold eventBody at hr
    cases htype : event.eventType with
    | paymentConfirmed =>
      rw [htype] at hr
      exact h.confirmed hU hr
    | paymentFailed =>
      rw [htype] at hr
      refine h.written hU.ids hwritten ?_
      rcases failPayment_ok hr with ⟨m, hhandled, -⟩ | ⟨_, _, paying, failed, s, pastDue, ensured, -, hf⟩
      · cases hhandled
      · obtain ⟨plans, subscriptions, hensured⟩ := hf.ensured_eq
        obtain ⟨attempts, events, hframe⟩ := applyInvoiceBackedPaymentFailure_frame ensured paying s
          (resolveInvoiceBackedContext db provider event.tenantId event.subscriptionId event.raw).paymentAttempt
          provider event.raw now
        rw [hf.rows, hframe, hensured]
        rfl
    | subscriptionCancelled =>
      rw [htype] at hr
      refine h.written hU.ids hwritten ?_
      replace hr : cancelSubscription event now client db = .ok (.changed tenantId email, db') := hr
      rcases cancelSubscription_parts hr with ⟨m, hhandled, -⟩ | ⟨_, _, _, _, _, _, -, -, hsub, -, -, rfl⟩
      · cases hhandled
      · obtain ⟨-, hinvoices, -⟩ := ensureSubscription_self hsub
        exact hinvoices
    | other name =>
      rw [htype] at hr
      cases hr

end Db.SubscriptionsLinked

/-! ### The other writers -/

theorem SubscriptionWritten.congr {db₁ db₂ db₁' db₂' : Db} {tenantId : Nat} {row : Subscription}
    (h : SubscriptionWritten db₁ db₂ tenantId row) (h₁ : db₁'.subscriptions = db₁.subscriptions)
    (h₂ : db₂'.subscriptions = db₂.subscriptions) : SubscriptionWritten db₁' db₂' tenantId row := by
  refine ⟨h.tenant, ?_⟩
  rw [subscriptionOf_congr h₁, h₁, h₂]
  exact h.rows

/-- A new tenant's subscription is not paid yet. -/
theorem prepareTenant_subscription {settings : Settings} {owner : User} {subdomain companyName plan : String}
    {chosenApp : Option String} {now : Time} {db db' : Db} {r : Nat × Plan × Option String}
    (h : prepareTenant settings owner subdomain companyName plan chosenApp now db = .ok (r, db')) :
    ∃ row, SubscriptionWritten db db' r.1 row ∧ row.status = (trialStart settings now).1 := by
  obtain ⟨_, _, _, _, _, row, -, -, hsub⟩ := prepareTenant_parts h
  exact ⟨row, (upsertSubscriptionForTenant_written hsub).congr rfl rfl, (upsertSubscriptionForTenant_ok hsub).1⟩

theorem recordCheckout_subscription {env : Env} {owner : User} {tenantId : Nat} {plan : Plan}
    {selectedApp : Option String} {trialStatus : SubscriptionStatus} {trialEndsAt : Option Time} {db db' : Db} {u : Unit}
    (h : recordCheckout env owner tenantId plan selectedApp trialStatus trialEndsAt db = .ok (u, db')) :
    ∃ row, SubscriptionWritten db db' tenantId row := by
  obtain ⟨tenant, -, h⟩ := bind_eq_ok.1 h
  obtain ⟨checkout, -, h⟩ := bind_eq_ok.1 h
  obtain ⟨moved, -, h⟩ := bind_eq_ok.1 h
  obtain ⟨⟨subscription, db₁⟩, hsub, h⟩ := bind_eq_ok.1 h
  have hwritten := upsertSubscriptionForTenant_written hsub
  cases h
  exact ⟨subscription, hwritten.congr rfl rfl⟩

/-- A renewed checkout leaves the subscription in its status. -/
theorem prepareRenewedCheckout_subscription {env : Env} {tenantId : Nat} {now : Time} {client : PlatformErpClient}
    {db db' : Db} {u : Unit} (h : prepareRenewedCheckout env tenantId now client db = .ok (u, db')) :
    ∃ row, SubscriptionWritten db db' tenantId row ∧
      row.status = subscriptionStatusForTenant (db.subscriptionOf tenantId) := by
  obtain ⟨_, _, _, _, _, _, _, _, _, row, -, -, -, hsub⟩ := prepareRenewedCheckout_parts h
  exact ⟨row, (upsertSubscriptionForTenant_written hsub).congr rfl rfl, (upsertSubscriptionForTenant_ok hsub).1⟩

/-- A new attempt leaves every subscription in its status. -/
theorem addPaymentAttempt_subscription (db : Db) (tenant : Tenant) (invoice : BillingInvoice) (checkout : CheckoutResult)
    (now : Time) : (addPaymentAttempt db tenant invoice checkout now).subscriptions = db.subscriptions ∨
      ∃ s row, db.subscriptionOf tenant.id = some s ∧ row.status = s.status ∧
        SubscriptionWritten db (addPaymentAttempt db tenant invoice checkout now) tenant.id row := by
  unfold addPaymentAttempt
  dsimp only
  split
  · rename_i s hs
    have hsub : db.subscriptionOf tenant.id = some s := hs
    have htenant : s.tenantId = tenant.id := tenantId_of_subscriptionOf hsub
    right
    refine ⟨s, { s with
      paymentProvider := some checkout.provider, providerCheckoutSessionId := some checkout.sessionId }, hsub, rfl,
      htenant, Or.inl ⟨s, hsub, rfl, rfl⟩⟩
  · exact Or.inl rfl

/-! ### The end of a trial -/

/-- A trial that is over: the subscription is still trialing. -/
def Subscription.trialOver (s : Subscription) (now : Time) : Bool :=
  s.status = .trialing ∧ ∃ ends ∈ s.trialEndsAt, ends ≤ now

/-- A trial that is over becomes past due; every other subscription keeps its status. -/
theorem resolve_trialExpired_iff {s : Subscription} {now : Time} :
    resolveTrialSubscriptionStatus s.status .trialExpired s.trialEndsAt now = .pastDue ↔
      s.trialOver now = true ∨ s.status = .pastDue := by
  unfold resolveTrialSubscriptionStatus isTrialExpired Subscription.trialOver
  rw [decide_eq_true_iff]
  cases s.trialEndsAt with
  | none => simp
  | some ends =>
    by_cases hover : s.status = .trialing ∧ ends ≤ now
    · simp [hover.1, hover.2]
    · rw [if_neg (by simpa using hover)]
      simp only [Option.mem_def, Option.some.injEq, exists_eq_left', hover, false_or]

/-- A visit of the cycle finds no trial that is over and has a tenant, or ends the trial. -/
theorem expireTrial_cases {id : Nat} {now : Time} {db db' : Db} {expired : Option Nat}
    (h : expireTrial id now db = .ok (expired, db')) :
    (db' = db ∧ ∀ s, get? db.subscriptions id = some s → s.trialOver now = false ∨ db.tenant? s.tenantId = none) ∨
      ∃ s tenant, get? db.subscriptions id = some s ∧ db.tenant? s.tenantId = some tenant ∧
        (s.trialOver now = true ∨ s.status = .pastDue) ∧
        db' = (db.putSubscription { s with status := .pastDue }).putTenant
          { tenant with status := trialExpiredStatus tenant.status, updatedAt := now } := by
  unfold expireTrial at h
  split at h
  · rename_i hnone
    cases h
    refine Or.inl ⟨rfl, fun s hs => ?_⟩
    rw [hnone] at hs
    cases hs
  · rename_i subscription hsub
    split at h
    · rename_i htenant
      cases h
      refine Or.inl ⟨rfl, fun s hs => ?_⟩
      rw [hsub] at hs
      cases hs
      exact Or.inr htenant
    · rename_i tenant htenant
      dsimp only at h
      split at h
      · rename_i hdue
        cases h
        refine Or.inl ⟨rfl, fun s hs => Or.inl ?_⟩
        rw [hsub] at hs
        cases hs
        rw [Bool.eq_false_iff]
        exact fun hover => hdue (resolve_trialExpired_iff.2 (Or.inl hover))
      · rename_i hdue
        obtain ⟨pastDue, hset, h⟩ := bind_eq_ok.1 h
        obtain ⟨-, rfl⟩ := setSubscriptionStatus_eq_ok.1 hset
        cases h
        have hresolved := not_not.1 hdue
        rw [hresolved]
        exact Or.inr ⟨subscription, tenant, hsub, htenant, resolve_trialExpired_iff.1 hresolved, rfl⟩

/-- An expired trial leaves its tenant's subscription past due. -/
theorem expireTrial_subscription {subscriptionId : Nat} {now : Time} {db db' : Db} {expired : Option Nat}
    (hU : db.SubscriptionsUnique) (h : expireTrial subscriptionId now db = .ok (expired, db')) :
    db' = db ∨ ∃ (tenant : Tenant) (s row : Subscription), db.tenant? tenant.id = some tenant ∧
      db.subscriptionOf tenant.id = some s ∧ (s.trialOver now = true ∨ s.status = .pastDue) ∧
      SubscriptionWritten db db' tenant.id row ∧ row.status = .pastDue ∧
      Moved db db' tenant.id (trialExpiredStatus tenant.status) := by
  rcases expireTrial_cases h with ⟨rfl, -⟩ | ⟨s, tenant, hsub, htenant, hover, rfl⟩
  · exact Or.inl rfl
  · have hid := Db.tenant?_id htenant
    have hown := hU.subscriptionOf (mem_of_get? hsub)
    rw [← hid] at htenant hown
    exact Or.inr ⟨tenant, s, { s with status := .pastDue }, htenant, hown, hover,
      ⟨hid.symm, Or.inl ⟨s, hown, rfl, rfl⟩⟩, rfl, _, rfl, rfl, rfl, rfl⟩

/-- A paid repair keeps the subscription's tenant. -/
theorem applyPaidRepair_tenantId {tenant repaired : Tenant} {subscription activated : Subscription}
    {runtimeExists : Bool} {now : Time} {outcome : PaidRepairOutcome}
    (h : applyPaidRepair tenant subscription runtimeExists now = .ok (repaired, activated, outcome)) :
    activated.tenantId = subscription.tenantId := by
  by_cases hc : subscription.status = .cancelled
  · obtain ⟨e, he⟩ := applyPaidRepair_error tenant runtimeExists now hc
    rw [he] at h
    cases h
  · unfold applyPaidRepair at h
    obtain ⟨⟨paid, row, snapshot⟩, hpaid, h⟩ := bind_eq_ok.1 h
    obtain ⟨activated', snapshot', heq, -, htenant, -⟩ := applyPaymentConfirmedTransition_ok
      (if tenant.status = .failed then { tenant with status := transitionOrForce tenant.status .pending } else tenant) now
      hc
    rw [heq] at hpaid
    cases hpaid
    cases h
    exact htenant

end ControlPlane
