import ControlPlane.OneCheckout
import ControlPlane.Subscription.Writes

/-!
# Failures reported after a confirmed payment

A `payment.failed` event marks the attempt it resolves to as failed, whatever became of the attempt before, and takes
back what a confirmed payment gave the tenant.
-/

namespace ControlPlane

open Table Session Session.Proc Runs

/-- The attempt is paid and its invoice is settled. -/
def Db.paymentSettled (db : Db) (attemptId : Nat) : Bool :=
  (db.attempt? attemptId).any fun attempt =>
    attempt.status = .paid && (db.invoice? attempt.billingInvoiceId).any invoiceIsSettled

/-- The tenant has an active subscription and is not held for a payment. -/
def Db.entitled (db : Db) (tenantId : Nat) : Bool :=
  (db.subscriptionOf tenantId).any (fun s => s.status = .active) &&
    (db.tenantStatus tenantId).any fun status => status ∉ [TenantStatus.suspendedBilling, .pendingPayment]

/-- The confirmed payment of an attempt stands. -/
def Db.paymentStands (db : Db) (attemptId : Nat) : Bool :=
  db.paymentSettled attemptId && (db.attempt? attemptId).any fun attempt => db.entitled attempt.tenantId

/-- The attempt an event resolves to. -/
def eventAttempt (provider : String) (event : WebhookEvent) (db : Db) : Option PaymentAttempt :=
  (resolveInvoiceBackedContext db provider event.tenantId event.subscriptionId event.raw).paymentAttempt

/-- A webhook of the attempt: it reaches no handler, or that of a confirmed or failed payment that resolves to it. -/
def isWebhookOf (attemptId : Nat) (w : World) (e : Event) : Bool :=
  match e.op with
  | .webhook delivery => (deliveredEvent e.env w.db delivery).all fun delivered =>
    delivered.1.eventType ∈ [.paymentConfirmed, .paymentFailed] &&
      (eventAttempt (delivery.provider e.env) delivered.1 w.db).map PaymentAttempt.id = some attemptId
  | _ => false

/-- A webhook reports a failed payment to its handler, which commits. -/
def reportsFailure (w : World) (e : Event) : Bool :=
  match e.op with
  | .webhook delivery => (deliveredEvent e.env w.db delivery).any fun delivered =>
    delivered.1.eventType = .paymentFailed && !e.env.commitFails delivered.2
  | _ => false

/-- A `payment.confirmed` event sets the attempt, which was not paid, to paid, and its invoice is settled. -/
def confirmsPayment (attemptId : Nat) (w : World) (e : Event) : Bool :=
  match e.op with
  | .webhook delivery => (deliveredEvent e.env w.db delivery).any fun delivered =>
    delivered.1.eventType = .paymentConfirmed && !(w.db.attempt? attemptId).any (fun attempt => attempt.status = .paid) &&
      (step w e).db.paymentSettled attemptId
  | _ => false

/-! ### What standing depends on -/

theorem paymentSettled_of_core {db db' : Db} (h : db'.core = db.core) (attemptId : Nat) :
    db'.paymentSettled attemptId = db.paymentSettled attemptId := by
  unfold Db.paymentSettled Db.attempt? Db.invoice?
  rw [Db.attempts_of_core h, Db.invoices_of_core h]

theorem entitled_of_core {db db' : Db} (h : db'.core = db.core) (tenantId : Nat) :
    db'.entitled tenantId = db.entitled tenantId := by
  unfold Db.entitled
  rw [subscriptionOf_congr (Db.subscriptions_of_core h), Db.tenantStatus_congr (Db.tenants_of_core h)]

theorem paymentStands_of_core {db db' : Db} (h : db'.core = db.core) (attemptId : Nat) :
    db'.paymentStands attemptId = db.paymentStands attemptId := by
  have hattempt : db'.attempt? attemptId = db.attempt? attemptId := by
    unfold Db.attempt?
    rw [Db.attempts_of_core h]
  unfold Db.paymentStands
  rw [paymentSettled_of_core h, hattempt]
  simp only [entitled_of_core h]

theorem entitled_flush (now : Time) (saved work : Db) (tenantId : Nat) :
    (Db.flush now saved work).entitled tenantId = work.entitled tenantId := by
  unfold Db.entitled
  rw [Db.tenantStatus_flush]
  rfl

theorem paymentSettled_flush (now : Time) (saved work : Db) (attemptId : Nat) :
    (Db.flush now saved work).paymentSettled attemptId = work.paymentSettled attemptId := by
  obtain ⟨stamp, hattempt⟩ := Db.attempt?_flush now saved work attemptId
  unfold Db.paymentSettled
  rw [hattempt, Option.any_map]
  rfl

theorem paymentStands_flush (now : Time) (saved work : Db) (attemptId : Nat) :
    (Db.flush now saved work).paymentStands attemptId = work.paymentStands attemptId := by
  obtain ⟨stamp, hattempt⟩ := Db.attempt?_flush now saved work attemptId
  unfold Db.paymentStands
  rw [paymentSettled_flush, hattempt, Option.any_map]
  simp only [entitled_flush]

/-- Whose payment stands. -/
theorem paymentStands_iff {db : Db} {attempt : PaymentAttempt} {attemptId : Nat}
    (hrow : db.attempt? attemptId = some attempt) :
    db.paymentStands attemptId = true ↔ attempt.status = .paid ∧
      (db.invoice? attempt.billingInvoiceId).any invoiceIsSettled = true ∧ db.entitled attempt.tenantId = true := by
  unfold Db.paymentStands Db.paymentSettled
  rw [hrow]
  simp [and_assoc]

/-! ### A confirmed payment -/

/-- A resync writes no row but the one it gives back. -/
theorem resyncOneInvoice_invoice? {client : PlatformErpClient} {db db' : Db} {tenant : Tenant}
    {invoice updated : BillingInvoice} {now : Time}
    (h : resyncOneInvoice client db tenant invoice now = .ok (updated, db')) {id : Nat} (hid : id ≠ updated.id) :
    db'.invoice? id = db.invoice? id := by
  rcases resyncOneInvoice_ok h with ⟨-, rfl | rfl⟩ | ⟨customerId, item, -, -, -, hupsert, -⟩
  · rfl
  · unfold Db.invoice?
    rw [ensureBillingAccount_invoices]
  · obtain ⟨-, db₁, found, due, paid, hfound, hinvoice, rfl⟩ := upsertBillingInvoiceFromErpItem_ok hupsert
    have hkey : updated.id = found.id := by rw [hinvoice]; rfl
    unfold Db.invoice? Db.putInvoice
    dsimp only
    rw [get?_put_of_ne _ hid, ← ensureBillingAccount_invoices db tenant]
    unfold findOrAddInvoice at hfound
    split at hfound
    · cases hfound
      rfl
    · cases hfound
      show get? (Table.insert (ensureBillingAccount db tenant).1.invoices _) id = _
      rw [get?_insert, if_neg fun heq => hid (heq.symm.trans hkey.symm), Option.or_none]

/-- A settlement gives back a row of the database, and writes no other. -/
theorem settleInvoice_rows {client : PlatformErpClient} {db db' : Db} {tenant : Tenant} {invoice settled : BillingInvoice}
    {amount : Int} {now : Time} (h : settleInvoice client db tenant invoice amount now = .ok (settled, db'))
    (hrow : db.invoice? invoice.id = some invoice) :
    (db'.invoice? settled.id).isSome = true ∧ ∀ id, id ≠ settled.id → db'.invoice? id = db.invoice? id := by
  unfold settleInvoice at h
  split at h
  · obtain ⟨⟨updated, db₁⟩, hresync, h⟩ := bind_eq_ok.1 h
    cases h
    have hid : (if invoiceIsSettled updated = true then updated else settleInvoiceLocally updated amount now).id =
        updated.id := by
      split
      · rfl
      · rfl
    rw [hid, resyncOneInvoice_row hrow hresync]
    exact ⟨rfl, fun id hne => resyncOneInvoice_invoice? hresync hne⟩
  · cases h
    refine ⟨?_, fun id _ => rfl⟩
    rw [show (settleInvoiceLocally invoice amount now).id = invoice.id from rfl, hrow]
    rfl

/-- A settlement leaves no settled invoice unsettled. -/
theorem settleInvoiceOf_keeps {client : PlatformErpClient} {db db' : Db} {tenant : Tenant} {attempt : PaymentAttempt}
    {now : Time} (h : settleInvoiceOf client db tenant attempt now = .ok db') {id : Nat}
    (hsettled : (db.invoice? id).any invoiceIsSettled = true) : (db'.invoice? id).any invoiceIsSettled = true := by
  unfold settleInvoiceOf at h
  split at h
  · cases h
    exact hsettled
  · rename_i invoice hinvoice
    obtain ⟨⟨settled, db₁⟩, hsettle, h⟩ := bind_eq_ok.1 h
    cases h
    have hrow : db.invoice? invoice.id = some invoice := by
      rw [show invoice.id = attempt.billingInvoiceId from key_of_get? hinvoice]
      exact hinvoice
    obtain ⟨hthere, hothers⟩ := settleInvoice_rows hsettle hrow
    unfold Db.invoice? Db.putInvoice
    dsimp only
    rw [get?_put]
    show ((if id = settled.id then _ else _ : Option BillingInvoice).any invoiceIsSettled) = true
    by_cases hid : id = settled.id
    · obtain ⟨row, hget⟩ := Option.isSome_iff_exists.1 hthere
      have hget' : get? db₁.invoices id = some row := by rw [hid]; exact hget
      have hdone : invoiceIsSettled settled = true := settleInvoice_settled hsettle
      rw [if_pos hid, hget']
      exact hdone
    · rw [if_neg hid]
      show (db₁.invoice? id).any invoiceIsSettled = true
      rw [hothers id hid]
      exact hsettled

/-- A settled tenant, whatever its status was, is not held for a payment. -/
theorem paidStatus_not_held (status : TenantStatus) :
    paidStatus status ∉ [TenantStatus.suspendedBilling, .pendingPayment] := by
  cases status <;> decide

/-- A confirmed payment leaves its attempt paid and its tenant entitled, and no settled invoice unsettled. -/
theorem eventBody_confirmed {provider : String} {event : WebhookEvent} {now : Time} {client : PlatformErpClient}
    {db db' : Db} {tenantId : Nat} {email : Option String} {attempt : PaymentAttempt}
    (htype : event.eventType = .paymentConfirmed)
    (h : eventBody provider event now client db = .ok (.changed tenantId email, db'))
    (hattempt : eventAttempt provider event db = some attempt) :
    db'.attempts = put db.attempts (paidAttempt attempt provider now) ∧ db'.entitled attempt.tenantId = true ∧
      ∀ id, (db.invoice? id).any invoiceIsSettled = true → (db'.invoice? id).any invoiceIsSettled = true := by
  obtain ⟨tenant, htenant, rfl, -, -, hmoved⟩ := eventBody_changed h
  obtain ⟨row, hwritten, hstatus⟩ := eventBody_subscription h
  have hrow := eventTenant_row htenant
  rw [htype] at hmoved hstatus
  unfold eventTenant at htenant
  rw [htype] at htenant
  have hbelongs : attempt.tenantId = tenant.id := resolved_attempt_tenant hattempt htenant
  unfold eventBody at h
  rw [htype] at h
  rcases confirmPayment_ok h with ⟨m, hhandled, -⟩ | ⟨_, _, paying, paid, s, activated, ensured, settled, -, hc⟩
  · cases hhandled
  · obtain ⟨plans, subscriptions, hensured⟩ := hc.ensured_eq
    have hsettled := hc.settled_eq
    unfold eventAttempt at hattempt
    rw [hattempt] at hsettled
    obtain ⟨settledDb, hsettle, hinvoices, hattempts⟩ := settleInvoiceBackedPaymentConfirmation_some hsettled
    refine ⟨?_, ?_, fun id hid => ?_⟩
    · rw [hc.rows, show ((settled.putSubscription activated).putTenant paid).attempts = settled.attempts from rfl,
        hattempts, hensured]
    · unfold Db.entitled
      rw [hbelongs, hwritten.self, hmoved.tenantStatus, if_pos rfl, Db.tenantStatus_of_tenant? hrow]
      have hheld := paidStatus_not_held tenant.status
      simp [hstatus, eventSubscriptionStatus, eventStatus] at hheld ⊢
      exact hheld
    · have hkept := @settleInvoiceOf_keeps _ _ _ _ _ _ hsettle id (by rw [hensured]; exact hid)
      unfold Db.invoice? at hkept ⊢
      rw [hc.rows, show ((settled.putSubscription activated).putTenant paid).invoices = settled.invoices from rfl,
        hinvoices]
      exact hkept

/-- A confirmed payment of no attempt leaves the attempts. -/
theorem eventBody_confirmed_none {provider : String} {event : WebhookEvent} {now : Time} {client : PlatformErpClient}
    {db db' : Db} {handled : Handled} (htype : event.eventType = .paymentConfirmed)
    (h : eventBody provider event now client db = .ok (handled, db'))
    (hattempt : eventAttempt provider event db = none) : db'.attempts = db.attempts := by
  unfold eventBody at h
  rw [htype] at h
  rcases confirmPayment_ok h with ⟨m, -, rfl, -⟩ | ⟨_, _, paying, paid, s, activated, ensured, settled, -, hc⟩
  · rfl
  · obtain ⟨plans, subscriptions, hensured⟩ := hc.ensured_eq
    have hsettled := hc.settled_eq
    unfold eventAttempt at hattempt
    rw [hattempt] at hsettled
    cases hsettled
    rw [hc.rows, hensured]
    rfl

/-- A failed payment marks its attempt. -/
theorem eventBody_failed {provider : String} {event : WebhookEvent} {now : Time} {client : PlatformErpClient}
    {db db' : Db} {tenantId : Nat} {email : Option String} {attempt : PaymentAttempt}
    (htype : event.eventType = .paymentFailed)
    (h : eventBody provider event now client db = .ok (.changed tenantId email, db'))
    (hattempt : eventAttempt provider event db = some attempt) :
    db'.attempts = put db.attempts (failedAttempt attempt provider event.raw now) := by
  unfold eventBody at h
  rw [htype] at h
  rcases failPayment_ok h with ⟨m, hhandled, -⟩ | ⟨_, _, paying, failed, s, pastDue, ensured, -, hf⟩
  · cases hhandled
  · obtain ⟨plans, subscriptions, hensured⟩ := hf.ensured_eq
    unfold eventAttempt at hattempt
    rw [hf.rows, hattempt, hensured]
    rfl

/-- A failed payment of an attempt whose payment stands is taken. -/
theorem eventBody_failed_taken {provider : String} {event : WebhookEvent} {db : Db} {attempt : PaymentAttempt}
    (now : Time) (client : PlatformErpClient) (htype : event.eventType = .paymentFailed)
    (hattempt : eventAttempt provider event db = some attempt) (hentitled : db.entitled attempt.tenantId = true) :
    ∃ tenantId email db', eventBody provider event now client db = .ok (.changed tenantId email, db') := by
  obtain ⟨hsubscription, hstatus⟩ := Bool.and_eq_true_iff.1 hentitled
  obtain ⟨subscription, hsub, hactive⟩ := (Option.any_eq_true _ _).1 hsubscription
  obtain ⟨status, htenant, -⟩ := (Option.any_eq_true _ _).1 hstatus
  obtain ⟨tenant, hrow, -⟩ := Option.map_eq_some_iff.1 htenant
  have hid := Db.tenant?_id hrow
  have hresolved : (resolveInvoiceBackedContext db provider event.tenantId event.subscriptionId event.raw).tenant =
      some tenant := by
    have hmem := (mem_attempts_of_resolved hattempt).2
    show (event.tenantId.bind db.tenant?).or ((eventAttempt provider event db).bind fun a => db.tenant? a.tenantId) = _
    rw [hattempt]
    cases ht : event.tenantId with
    | none => exact hrow
    | some t =>
      rw [← hmem t ht]
      show (db.tenant? attempt.tenantId).or _ = _
      rw [hrow]
      rfl
  rw [← hid] at hsub
  have htaken : ∃ email db', failPayment provider event now client db = .ok (.changed tenant.id email, db') := by
    refine failPayment_succeeds hresolved (subscriptionAvailable_of (Or.inl hsub)) fun s hs => ?_
    rw [hsub] at hs
    cases hs
    rw [of_decide_eq_true hactive]
    decide
  obtain ⟨email, db', hfailed⟩ := htaken
  refine ⟨tenant.id, email, db', ?_⟩
  unfold eventBody
  rw [htype]
  exact hfailed

/-! ### The steps -/

/-- What a webhook that reaches its handler leaves: the rows as they were, but for the books, or the handler's changes. -/
theorem step_delivered {w : World} {e : Event} {delivery : WebhookDelivery} {event : WebhookEvent} {tick : Nat}
    (he : e.op = .webhook delivery) (hdelivered : deliveredEvent e.env w.db delivery = some (event, tick)) :
    ∃ db outbox, db = { w.db with outbox := outbox } ∧
      (step w e).db.core = (appliedRows e.env (delivery.provider e.env) event tick db).core := by
  obtain ⟨outbox, hrows⟩ := handleGatewayWebhook_rows w.queue hdelivered
  refine ⟨_, outbox, rfl, ?_⟩
  rw [← hrows]
  unfold step
  rw [he]
  rfl

theorem step_not_delivered {w : World} {e : Event} {delivery : WebhookDelivery} (he : e.op = .webhook delivery)
    (hdelivered : deliveredEvent e.env w.db delivery = none) : (step w e).db.core = w.db.core := by
  rw [← handleGatewayWebhook_idle w.queue hdelivered]
  unfold step
  rw [he]
  rfl

/-- A confirmed payment of an attempt, once its invoice is settled, leaves the payment standing. -/
theorem stands_of_confirmed {db db' : Db} {provider : String} {event : WebhookEvent} {now : Time}
    {client : PlatformErpClient} {tenantId : Nat} {email : Option String} {attempt : PaymentAttempt}
    (hids : (db.attempts.map PaymentAttempt.id).Nodup) (htype : event.eventType = .paymentConfirmed)
    (h : eventBody provider event now client db = .ok (.changed tenantId email, db'))
    (hattempt : eventAttempt provider event db = some attempt) :
    db'.attempt? attempt.id = some (paidAttempt attempt provider now) ∧
      (db'.paymentStands attempt.id = true ↔ (db'.invoice? attempt.billingInvoiceId).any invoiceIsSettled = true) := by
  obtain ⟨hattempts, hentitled, -⟩ := eventBody_confirmed htype h hattempt
  have hget : get? db.attempts (key (paidAttempt attempt provider now)) = some attempt :=
    get?_of_mem hids (mem_attempts_of_resolved hattempt).1
  have hrow : db'.attempt? attempt.id = some (paidAttempt attempt provider now) := by
    unfold Db.attempt?
    rw [hattempts]
    exact get?_put_self hget
  refine ⟨hrow, ?_⟩
  rw [paymentStands_iff hrow]
  exact ⟨fun hstands => hstands.2.1, fun hinvoice => ⟨rfl, hinvoice, hentitled⟩⟩

/-- A standing payment is not undone by another confirmation of the attempt. -/
theorem appliedRows_confirmed_stands {env : Env} {provider : String} {event : WebhookEvent} {tick : Nat} {db : Db}
    {attempt : PaymentAttempt} (hids : (db.attempts.map PaymentAttempt.id).Nodup)
    (htype : event.eventType = .paymentConfirmed) (hattempt : eventAttempt provider event db = some attempt)
    (hstands : db.paymentStands attempt.id = true) :
    (appliedRows env provider event tick db).paymentStands attempt.id = true := by
  rcases appliedRows_cases env provider event tick db with heq | ⟨tenantId, email, db', hbody, -, heq⟩
  · rw [heq]
    exact hstands
  · have hget : db.attempt? attempt.id = some attempt := get?_of_mem hids (mem_attempts_of_resolved hattempt).1
    obtain ⟨-, hinvoice, -⟩ := (paymentStands_iff hget).1 hstands
    obtain ⟨-, -, hkept⟩ := eventBody_confirmed htype hbody hattempt
    rw [heq, paymentStands_flush]
    exact (stands_of_confirmed hids htype hbody hattempt).2.2 (hkept _ hinvoice)

/-- A failure reported for an attempt whose payment stands undoes it, if it can be committed. -/
theorem appliedRows_failed_stands {env : Env} {provider : String} {event : WebhookEvent} {tick : Nat} {db : Db}
    {attempt : PaymentAttempt} (hids : (db.attempts.map PaymentAttempt.id).Nodup)
    (htype : event.eventType = .paymentFailed) (hattempt : eventAttempt provider event db = some attempt)
    (hstands : db.paymentStands attempt.id = true) :
    (appliedRows env provider event tick db).paymentStands attempt.id = true ↔ env.commitFails tick = true := by
  have hget : get? db.attempts attempt.id = some attempt := get?_of_mem hids (mem_attempts_of_resolved hattempt).1
  obtain ⟨-, -, hentitled⟩ := (paymentStands_iff hget).1 hstands
  obtain ⟨tenantId, email, db', hbody⟩ :=
    eventBody_failed_taken (env.clock tick) (env.erp tick) htype hattempt hentitled
  unfold appliedRows
  rw [hbody]
  dsimp only
  cases hcommit : env.commitFails tick with
  | true => exact iff_of_true hstands rfl
  | false =>
    have hattempts := eventBody_failed htype hbody hattempt
    have hrow : db'.attempt? attempt.id = some (failedAttempt attempt provider event.raw (env.clock tick)) := by
      unfold Db.attempt?
      rw [hattempts]
      exact get?_put_self (r := failedAttempt attempt provider event.raw (env.clock tick)) hget
    refine iff_of_false ?_ (by decide)
    rw [if_neg (by decide), paymentStands_flush, paymentStands_iff hrow]
    rintro ⟨hpaid, -⟩
    cases hpaid

/-- A webhook of an attempt whose payment stands leaves it standing exactly if it reports no failure. -/
theorem step_paymentStands_iff {w : World} {e : Event} {attemptId : Nat} (h : AttemptRows w.db)
    (hstands : w.db.paymentStands attemptId = true) (hof : isWebhookOf attemptId w e = true) :
    reportsFailure w e = false ↔ (step w e).db.paymentStands attemptId = true := by
  unfold isWebhookOf at hof
  unfold reportsFailure
  cases hop : e.op with
  | webhook delivery =>
    rw [hop] at hof
    dsimp only at hof ⊢
    cases hdelivered : deliveredEvent e.env w.db delivery with
    | none =>
      refine iff_of_true rfl ?_
      rw [paymentStands_of_core (step_not_delivered hop hdelivered)]
      exact hstands
    | some delivered =>
      obtain ⟨event, tick⟩ := delivered
      obtain ⟨db, outbox, hdb, hcore⟩ := step_delivered hop hdelivered
      rw [hdelivered] at hof
      simp only [Option.all_some, Bool.and_eq_true, decide_eq_true_eq, Option.map_eq_some_iff] at hof
      obtain ⟨htype, attempt, hattempt, rfl⟩ := hof
      have hids : (db.attempts.map PaymentAttempt.id).Nodup := by rw [hdb]; exact h.ids
      have hattempt' : eventAttempt (delivery.provider e.env) event db = some attempt := by rw [hdb]; exact hattempt
      have hstands' : db.paymentStands attempt.id = true := by rw [hdb]; exact hstands
      rw [paymentStands_of_core hcore]
      simp only [Option.any_some]
      rcases List.mem_pair.1 htype with htype | htype
      · refine iff_of_true (by simp [htype]) ?_
        exact appliedRows_confirmed_stands hids htype hattempt' hstands'
      · rw [appliedRows_failed_stands hids htype hattempt' hstands']
        simp [htype]
  | _ =>
    rw [hop] at hof
    cases hof

/-- The payment that a `payment.confirmed` event settles stands. -/
theorem step_confirmed_stands {w : World} {e : Event} {attemptId : Nat} (h : AttemptRows w.db)
    (hconfirms : confirmsPayment attemptId w e = true) : (step w e).db.paymentStands attemptId = true := by
  unfold confirmsPayment at hconfirms
  cases hop : e.op with
  | webhook delivery =>
    rw [hop] at hconfirms
    dsimp only at hconfirms
    obtain ⟨⟨event, tick⟩, hdelivered, hconfirms⟩ := (Option.any_eq_true _ _).1 hconfirms
    simp only [Bool.and_eq_true, decide_eq_true_eq, Bool.not_eq_true'] at hconfirms
    obtain ⟨⟨htype, hunpaid⟩, hsettled⟩ := hconfirms
    obtain ⟨db, outbox, hdb, hcore⟩ := step_delivered hop hdelivered
    have hids : (db.attempts.map PaymentAttempt.id).Nodup := by rw [hdb]; exact h.ids
    have hunpaid' : (db.attempt? attemptId).any (fun attempt => attempt.status = .paid) = false := by
      rw [hdb]; exact hunpaid
    rw [paymentSettled_of_core hcore] at hsettled
    rw [paymentStands_of_core hcore]
    -- the attempt was not paid, so it was this event that changed it
    have hchanged : ∀ db' : Db, db'.attempt? attemptId = db.attempt? attemptId → db'.paymentSettled attemptId = false := by
      intro db' hsame
      unfold Db.paymentSettled
      rw [hsame]
      cases hrow : db.attempt? attemptId with
      | none => rfl
      | some attempt =>
        rw [hrow] at hunpaid'
        simp only [Option.any_some] at hunpaid' ⊢
        rw [hunpaid', Bool.false_and]
    rcases appliedRows_cases e.env (delivery.provider e.env) event tick db with
      heq | ⟨tenantId, email, db', hbody, -, heq⟩
    · rw [heq, hchanged _ rfl] at hsettled
      cases hsettled
    · rw [heq, paymentSettled_flush] at hsettled
      rw [heq, paymentStands_flush]
      cases hattempt : eventAttempt (delivery.provider e.env) event db with
      | none =>
        have hattempts := eventBody_confirmed_none htype hbody hattempt
        rw [hchanged db' (by unfold Db.attempt?; rw [hattempts])] at hsettled
        cases hsettled
      | some attempt =>
        obtain ⟨hrow, hiff⟩ := stands_of_confirmed hids htype hbody hattempt
        obtain ⟨hattempts, -, -⟩ := eventBody_confirmed htype hbody hattempt
        by_cases hid : attemptId = attempt.id
        · rw [hid] at hsettled ⊢
          rw [hiff]
          unfold Db.paymentSettled at hsettled
          rw [hrow, Option.any_some] at hsettled
          exact (Bool.and_eq_true_iff.1 hsettled).2
        · rw [hchanged db' ?_] at hsettled
          · cases hsettled
          · unfold Db.attempt?
            rw [hattempts]
            exact get?_put_of_ne _ hid
  | _ =>
    rw [hop] at hconfirms
    cases hconfirms

/-- Once a confirmed payment has set an attempt to paid and settled its invoice, over every order of the attempt's
webhooks its payment stands throughout if and only if no failure is reported. -/
theorem confirmed_payment_wins {w : World} {e : Event} {es : List Event} {attemptId : Nat} (h : AttemptRows w.db)
    (hconfirms : confirmsPayment attemptId w e = true)
    (hof : Steps step (fun w e => isWebhookOf attemptId w e = true) (step w e) es) :
    Steps step (fun w e => reportsFailure w e = false) (step w e) es ↔
      Always step (fun w => w.db.paymentStands attemptId = true) (step w e) es := by
  have hrows := step_attemptRows e h
  have hkept : Always step (fun w => AttemptRows w.db) (step w e) es :=
    .of_invariant (I := fun w : World => AttemptRows w.db) (fun _ e h => step_attemptRows e h) hrows es
  rw [steps_iff_always_of (I := fun w => AttemptRows w.db ∧ w.db.paymentStands attemptId = true) (fun w e hI hD => ?_)
    ⟨hrows, step_confirmed_stands h hconfirms⟩ hof]
  · exact ⟨fun hall => hall.mono fun _ hI => hI.2, fun hall => hkept.and hall⟩
  · rw [step_paymentStands_iff hI.1 hI.2 hD]
    exact (and_iff_right (step_attemptRows e hI.1)).symm

/-- A tenant whose invoice has a checkout. -/
def Small.checkedOut : World := step Small.billed ⟨Small.envAt 1, .createPaymentAttempt 1 none⟩

/-- The checkout's payment is confirmed. -/
def Small.confirmation : Event := ⟨Small.envAt 2, Small.checkoutWebhook .paymentConfirmed 1 "a"⟩

set_option maxRecDepth 100000 in
example : confirmsPayment 1 Small.checkedOut Small.confirmation = true := by decide +kernel

theorem checkedOut_rows : AttemptRows Small.checkedOut.db := step_attemptRows _ Small.billed_attemptRows

set_option maxRecDepth 100000 in
/-- A stale failure of the checkout arrives after its confirmation: the payment stands no more. -/
theorem stale_failure_undoes :
    ¬(confirmsPayment 1 Small.checkedOut Small.confirmation = true →
      Steps step (fun w e => isWebhookOf 1 w e = true) (step Small.checkedOut Small.confirmation)
        [⟨Small.envAt 3, Small.checkoutWebhook .paymentFailed 1 "b"⟩] →
      Always step (fun w => w.db.paymentStands 1 = true) (step Small.checkedOut Small.confirmation)
        [⟨Small.envAt 3, Small.checkoutWebhook .paymentFailed 1 "b"⟩]) := by
  decide +kernel

set_option maxRecDepth 100000 in
/-- Another report of the confirmation leaves the payment standing. -/
theorem confirmed_payment_wins_again :
    Always step (fun w => w.db.paymentStands 1 = true) (step Small.checkedOut Small.confirmation)
      [⟨Small.envAt 3, Small.checkoutWebhook .paymentConfirmed 1 "b"⟩] :=
  (confirmed_payment_wins checkedOut_rows (by decide +kernel) (by decide +kernel)).1 (by decide +kernel)

end ControlPlane
