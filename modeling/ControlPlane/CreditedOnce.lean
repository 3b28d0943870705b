import ControlPlane.LateFailures
import ControlPlane.Billing.Refusals

/-!
# What confirmed payments credit to an invoice

`_settle_invoice_locally` credits the larger of the attempt's amount and of what is due, whenever a confirmation is
handled.  The amount due is then zero, but the attempt's amount is credited again by the next confirmation: by another
payload for the same checkout, or by the same event after a failure behind the handler's commit.
-/

namespace ControlPlane

open Table Session Session.Proc Runs

/-- What is paid of an invoice. -/
def Db.amountPaid (db : Db) (invoiceId : Nat) : Int := (db.invoice? invoiceId).elim 0 BillingInvoice.amountPaid

def Db.attemptPaid (db : Db) (attemptId : Nat) : Bool :=
  (db.attempt? attemptId).any fun attempt => attempt.status = .paid

/-- An attempt of the invoice that is paid and was not before. -/
def confirmedSince (before : Db) (invoiceId : Nat) (attempt : PaymentAttempt) : Bool :=
  attempt.billingInvoiceId = invoiceId && attempt.status = .paid && !before.attemptPaid attempt.id

/-- The sum of the invoice's attempts that were confirmed since, each counted once. -/
def Db.confirmedAmount (db before : Db) (invoiceId : Nat) : Int :=
  ((db.attempts.filter (confirmedSince before invoiceId)).map PaymentAttempt.amount).sum

/-- Whether the settlement of an invoice for a tenant asks the ERP. -/
def asksErp (client : PlatformErpClient) (tenant : Tenant) (invoice : BillingInvoice) : Bool :=
  client.isConfigured && tenant.customerId?.isSome && (orText invoice.erpInvoiceId none).isSome

/-- A webhook reaches no handler, or reports a confirmed payment for an attempt of the invoice, which is settled without
the ERP. -/
def confirmsLocally (invoiceId : Nat) (w : World) (e : Event) : Bool :=
  match e.op with
  | .webhook delivery => (deliveredEvent e.env w.db delivery).all fun delivered =>
    delivered.1.eventType = .paymentConfirmed &&
      (eventAttempt (delivery.provider e.env) delivered.1 w.db).any (fun attempt =>
        attempt.billingInvoiceId = invoiceId) &&
      (eventTenant (delivery.provider e.env) delivered.1 w.db).all fun tenant =>
        (w.db.invoice? invoiceId).all fun invoice => !asksErp (e.env.erp delivered.2) tenant invoice
  | _ => false

/-- A confirmation is taken: there is a tenant with an owner and with a subscription that is not cancelled, and the
handler's commit succeeds. -/
def takesConfirmation (env : Env) (provider : String) (event : WebhookEvent) (tick : Nat) (db : Db) : Bool :=
  (eventTenant provider event db).any fun tenant =>
    (db.user? tenant.ownerId).isSome && subscriptionAvailable db tenant.id &&
      !refusedFor event.eventType (db.subscriptionOf tenant.id) && !env.commitFails tick

/-- A confirmation of the attempt credits what it should to the invoice: the attempt's amount if the attempt is not paid
yet, and nothing otherwise. -/
def creditsAmount (attempt : PaymentAttempt) (invoice : BillingInvoice) : Bool :=
  if attempt.status = .paid then attempt.amount ≤ 0 && invoice.amountDue ≤ 0
  else 0 ≤ attempt.amount && invoice.amountDue ≤ attempt.amount

/-- A webhook whose confirmation, if it is taken, credits what it should. -/
def creditsExactly (invoiceId : Nat) (w : World) (e : Event) : Bool :=
  match e.op with
  | .webhook delivery => (deliveredEvent e.env w.db delivery).all fun delivered =>
    !takesConfirmation e.env (delivery.provider e.env) delivered.1 delivered.2 w.db ||
      (eventAttempt (delivery.provider e.env) delivered.1 w.db).all fun attempt =>
        (w.db.invoice? invoiceId).all fun invoice => creditsAmount attempt invoice
  | _ => true

/-! ### Sums over the attempts -/

/-- What an attempt adds to the sum. -/
def confirmedShare (before : Db) (invoiceId : Nat) (attempt : PaymentAttempt) : Int :=
  if confirmedSince before invoiceId attempt = true then attempt.amount else 0

theorem confirmedAmount_eq (db before : Db) (invoiceId : Nat) :
    db.confirmedAmount before invoiceId = (db.attempts.map (confirmedShare before invoiceId)).sum := by
  unfold Db.confirmedAmount
  induction db.attempts with
  | nil => rfl
  | cons attempt attempts ih =>
    rw [List.map_cons, List.sum_cons, ← ih]
    unfold confirmedShare
    by_cases h : confirmedSince before invoiceId attempt = true
    · rw [List.filter_cons_of_pos h, List.map_cons, List.sum_cons, if_pos h]
    · rw [List.filter_cons_of_neg h, if_neg h, Int.zero_add]

theorem confirmedAmount_of_core {db db' : Db} (h : db'.core = db.core) (before : Db) (invoiceId : Nat) :
    db'.confirmedAmount before invoiceId = db.confirmedAmount before invoiceId := by
  unfold Db.confirmedAmount
  rw [Db.attempts_of_core h]

theorem amountPaid_of_core {db db' : Db} (h : db'.core = db.core) (invoiceId : Nat) :
    db'.amountPaid invoiceId = db.amountPaid invoiceId := by
  unfold Db.amountPaid Db.invoice?
  rw [Db.invoices_of_core h]

/-- A flush stamps the attempts and leaves the sum. -/
theorem confirmedAmount_flush (now : Time) (saved work before : Db) (invoiceId : Nat) :
    (Db.flush now saved work).confirmedAmount before invoiceId = work.confirmedAmount before invoiceId := by
  rw [confirmedAmount_eq, confirmedAmount_eq]
  exact congrArg List.sum (Db.map_attempts_flush now saved work fun _ _ => rfl)

theorem amountPaid_flush (now : Time) (saved work : Db) (invoiceId : Nat) :
    (Db.flush now saved work).amountPaid invoiceId = work.amountPaid invoiceId := rfl

/-- Nothing has been confirmed since the beginning. -/
theorem confirmedAmount_self {db : Db} (hids : (db.attempts.map PaymentAttempt.id).Nodup) (invoiceId : Nat) :
    db.confirmedAmount db invoiceId = 0 := by
  unfold Db.confirmedAmount
  rw [List.filter_eq_nil_iff.2, List.map_nil, List.sum_nil]
  intro attempt hmem hconfirmed
  have hget : get? db.attempts attempt.id = some attempt := get?_of_mem hids hmem
  unfold confirmedSince Db.attemptPaid Db.attempt? at hconfirmed
  rw [hget] at hconfirmed
  simp only [Option.any_some, Bool.and_eq_true, Bool.not_eq_true'] at hconfirmed
  rw [hconfirmed.1.2] at hconfirmed
  cases hconfirmed.2

/-! ### What a confirmation writes -/

theorem settleInvoiceOf_locally {client : PlatformErpClient} {db : Db} {tenant : Tenant} {attempt : PaymentAttempt}
    {invoice : BillingInvoice} (now : Time) (hrow : db.invoice? attempt.billingInvoiceId = some invoice)
    (hlocal : asksErp client tenant invoice = false) :
    settleInvoiceOf client db tenant attempt now = .ok (db.putInvoice
      { settleInvoiceLocally invoice attempt.amount now with collectionStage := some "settled" }) := by
  have hno : ¬(client.isConfigured = true ∧ tenant.customerId?.isSome = true ∧
      (orText invoice.erpInvoiceId none).isSome = true) := by
    rintro ⟨hclient, hcustomer, href⟩
    unfold asksErp at hlocal
    rw [hclient, hcustomer, href] at hlocal
    cases hlocal
  unfold settleInvoiceOf
  rw [hrow]
  dsimp only
  unfold settleInvoice
  rw [if_neg hno]
  rfl

section Event

variable {provider : String} {event : WebhookEvent} {client : PlatformErpClient} {db : Db} {attempt : PaymentAttempt}
  {invoice : BillingInvoice}

/-- What a confirmation does to the attempt it is about and to the attempt's invoice, if the ERP is not asked. -/
theorem eventBody_credits {now : Time} {db' : Db} {tenantId : Nat} {email : Option String}
    (htype : event.eventType = .paymentConfirmed)
    (h : eventBody provider event now client db = .ok (.changed tenantId email, db'))
    (hattempt : eventAttempt provider event db = some attempt)
    (hrow : db.invoice? attempt.billingInvoiceId = some invoice)
    (hlocal : ∀ tenant ∈ eventTenant provider event db, asksErp client tenant invoice = false) :
    db'.attempts = put db.attempts (paidAttempt attempt provider now) ∧
      db'.invoice? attempt.billingInvoiceId = some
        { settleInvoiceLocally invoice attempt.amount now with collectionStage := some "settled" } := by
  refine ⟨(eventBody_confirmed htype h hattempt).1, ?_⟩
  unfold eventTenant at hlocal
  rw [htype] at hlocal
  unfold eventBody at h
  rw [htype] at h
  rcases confirmPayment_ok h with ⟨m, hhandled, -⟩ | ⟨_, tenant, paying, paid, s, activated, ensured, settled, -, hc⟩
  · cases hhandled
  · obtain ⟨plans, subscriptions, hensured⟩ := hc.ensured_eq
    have hsettled := hc.settled_eq
    unfold eventAttempt at hattempt
    rw [hattempt] at hsettled
    obtain ⟨settledDb, hsettle, hinvoices, -⟩ := settleInvoiceBackedPaymentConfirmation_some hsettled
    have hpaying : asksErp client paying invoice = false := by
      have hcustomer : paying.customerId? = tenant.customerId? := by
        unfold Tenant.customerId?
        rw [hc.paying_eq.2]
      have hasks := hlocal tenant hc.resolved
      unfold asksErp at hasks ⊢
      rw [hcustomer]
      exact hasks
    have hrow' : ensured.invoice? attempt.billingInvoiceId = some invoice := by rw [hensured]; exact hrow
    rw [settleInvoiceOf_locally now hrow' hpaying] at hsettle
    cases hsettle
    have hid : attempt.billingInvoiceId = invoice.id := (key_of_get? hrow).symm
    unfold Db.invoice?
    rw [hc.rows, show ((settled.putSubscription activated).putTenant paid).invoices = settled.invoices from rfl,
      hinvoices]
    unfold Db.invoice? at hrow'
    rw [hid] at hrow' ⊢
    exact get?_put_self
      (r := { settleInvoiceLocally invoice attempt.amount now with collectionStage := some "settled" }) hrow'

/-- A confirmed payment that changes anything is for a tenant with an owner. -/
theorem confirmPayment_owner {now : Time} {db' : Db} {tenantId : Nat} {email : Option String} {tenant : Tenant}
    (h : confirmPayment provider event now client db = .ok (.changed tenantId email, db'))
    (htenant : (resolveInvoiceBackedContext db provider event.tenantId event.subscriptionId event.raw).tenant =
      some tenant) : (db.user? tenant.ownerId).isSome = true := by
  rcases confirmPayment_parts h with ⟨message, hhandled, -⟩ | ⟨owner, found, _, _, _, _, _, _, -, hfound, howner, -⟩
  · cases hhandled
  · obtain rfl := Option.some.inj (htenant.symm.trans hfound)
    rw [howner]
    rfl

/-- The handler commits its changes exactly when the confirmation is taken. -/
theorem appliedRows_confirmed (db : Db) (env : Env) (tick : Nat) (htype : event.eventType = .paymentConfirmed)
    (hattempt : eventAttempt provider event db = some attempt)
    (hrow : db.invoice? attempt.billingInvoiceId = some invoice)
    (hlocal : ∀ tenant ∈ eventTenant provider event db, asksErp (env.erp tick) tenant invoice = false) :
    if takesConfirmation env provider event tick db = true then
      ∃ tenantId email db', eventBody provider event (env.clock tick) (env.erp tick) db =
        .ok (.changed tenantId email, db') ∧
        appliedRows env provider event tick db = Db.flush (env.clock tick) db db'
    else appliedRows env provider event tick db = db := by
  have hconfirm : eventBody provider event = confirmPayment provider event := by
    funext now client db
    rw [eventBody, htype]
  have hresolves : eventTenant provider event db =
      (resolveInvoiceBackedContext db provider event.tenantId event.subscriptionId event.raw).tenant := by
    unfold eventTenant
    rw [htype]
  split
  · rename_i htakes
    obtain ⟨tenant, htenant, htakes⟩ := (Option.any_eq_true _ _).1 htakes
    simp only [Bool.and_eq_true, Bool.not_eq_true'] at htakes
    obtain ⟨⟨⟨howner, havailable⟩, hnot⟩, hcommit⟩ := htakes
    obtain ⟨owner, howner⟩ := Option.isSome_iff_exists.1 howner
    have hstatus : ∀ s ∈ db.subscriptionOf tenant.id, s.status ≠ .cancelled := by
      intro s hs
      have hrefused := (Option.any_eq_false _ _).1 hnot s hs
      unfold eventRefused at hrefused
      rw [htype] at hrefused
      simpa using hrefused
    rw [hresolves] at htenant
    -- no answer of the ERP can raise: the invoice is settled locally
    obtain ⟨db', hbody⟩ := confirmPayment_succeeds htenant howner
      havailable hstatus fun ensured paying subscription hinvoices hcustomer => by
        have hasks : asksErp (env.erp tick) paying invoice = false := by
          have hasks := hlocal tenant (hresolves.trans htenant)
          unfold asksErp Tenant.customerId? at hasks ⊢
          rw [hcustomer]
          exact hasks
        have hrow' : ensured.invoice? attempt.billingInvoiceId = some invoice := by
          unfold Db.invoice? at hrow ⊢
          rw [hinvoices]
          exact hrow
        unfold eventAttempt at hattempt
        rw [hattempt]
        unfold settleInvoiceBackedPaymentConfirmation
        dsimp only
        rw [settleInvoiceOf_locally (env.clock tick) hrow' hasks]
        exact ⟨_, rfl⟩
    refine ⟨_, _, db', by rw [hconfirm]; exact hbody, ?_⟩
    unfold appliedRows
    rw [hconfirm, hbody]
    dsimp only
    rw [if_neg (by simp [hcommit])]
  · rename_i hnot
    -- a handler that has committed something has taken the confirmation
    rcases appliedRows_cases env provider event tick db with heq | ⟨tenantId, email, db', hbody, hcommit, -⟩
    · exact heq
    · obtain ⟨tenant, htenant, -, hstatus, havailable, -⟩ := eventBody_changed hbody
      rw [hconfirm] at hbody
      have howner := confirmPayment_owner hbody (hresolves.symm.trans htenant)
      refine absurd ((Option.any_eq_true _ _).2 ⟨tenant, htenant, ?_⟩) hnot
      have hrefused : refusedFor event.eventType (db.subscriptionOf tenant.id) = false :=
        (Option.any_eq_false _ _).2 fun s hs => by rw [hstatus s hs]
      rw [howner, havailable, hrefused, hcommit]
      rfl

end Event

/-! ### The steps -/

/-- What a run of confirmations keeps: the invoice is there, and no attempt that was paid before is unpaid. -/
structure CreditRows (before : Db) (invoiceId : Nat) (db : Db) : Prop where
  rows : AttemptRows db
  invoice : (db.invoice? invoiceId).isSome = true
  unpaid : ∀ attempt ∈ db.attempts, attempt.status ≠ .paid → before.attemptPaid attempt.id = false

/-- What a step does to what is paid of the invoice, and to the sum of its confirmed attempts. -/
structure Credits (before : Db) (invoiceId : Nat) (db db' : Db) (credit share : Int) : Prop where
  paid : db'.amountPaid invoiceId = db.amountPaid invoiceId + credit
  confirmed : db'.confirmedAmount before invoiceId = db.confirmedAmount before invoiceId + share
  invoice : (db'.invoice? invoiceId).isSome = true
  unpaid : ∀ attempt ∈ db'.attempts, attempt.status ≠ .paid → before.attemptPaid attempt.id = false

theorem Credits.of_core {before db db' db'' : Db} {invoiceId : Nat} {credit share : Int}
    (h : Credits before invoiceId db db' credit share) (hcore : db''.core = db'.core) :
    Credits before invoiceId db db'' credit share := by
  refine ⟨(amountPaid_of_core hcore _).trans h.paid, (confirmedAmount_of_core hcore _ _).trans h.confirmed, ?_, ?_⟩
  · unfold Db.invoice?
    rw [Db.invoices_of_core hcore]
    exact h.invoice
  · rw [Db.attempts_of_core hcore]
    exact h.unpaid

theorem Credits.flush {before db db' : Db} {invoiceId : Nat} {credit share : Int} (now : Time) (saved : Db)
    (h : Credits before invoiceId db db' credit share) :
    Credits before invoiceId db (Db.flush now saved db') credit share := by
  refine ⟨(amountPaid_flush now saved db' _).trans h.paid, (confirmedAmount_flush now saved db' _ _).trans h.confirmed,
    h.invoice, ?_⟩
  intro row hrow hunpaid
  obtain ⟨old, hold, stamp, rfl⟩ := Db.mem_attempts_flush hrow
  exact h.unpaid old hold hunpaid

theorem CreditRows.same {before db : Db} {invoiceId : Nat} (h : CreditRows before invoiceId db) :
    Credits before invoiceId db db 0 0 :=
  ⟨(Int.add_zero _).symm, (Int.add_zero _).symm, h.invoice, h.unpaid⟩

/-- The credit of a confirmation, and what the attempt adds to the sum. -/
def creditOf (attempt : PaymentAttempt) (invoice : BillingInvoice) : Int := max 0 (max attempt.amount invoice.amountDue)

def shareOf (attempt : PaymentAttempt) : Int := if attempt.status = .paid then 0 else attempt.amount

theorem shareOf_le_creditOf (attempt : PaymentAttempt) (invoice : BillingInvoice) :
    shareOf attempt ≤ creditOf attempt invoice := by
  unfold shareOf creditOf
  split <;> omega

theorem creditsAmount_iff (attempt : PaymentAttempt) (invoice : BillingInvoice) :
    creditsAmount attempt invoice = true ↔ creditOf attempt invoice = shareOf attempt := by
  unfold creditsAmount creditOf shareOf
  split
  · rw [Bool.and_eq_true, decide_eq_true_eq, decide_eq_true_eq]
    omega
  · rw [Bool.and_eq_true, decide_eq_true_eq, decide_eq_true_eq]
    omega

/-- A confirmation that is committed credits the attempt's invoice. -/
theorem credits_of_confirmed {before db db' : Db} {provider : String} {now : Time} {attempt : PaymentAttempt}
    {invoice : BillingInvoice} (h : CreditRows before attempt.billingInvoiceId db) (hmem : attempt ∈ db.attempts)
    (hrow : db.invoice? attempt.billingInvoiceId = some invoice)
    (hattempts : db'.attempts = put db.attempts (paidAttempt attempt provider now))
    (hinvoice : db'.invoice? attempt.billingInvoiceId = some
      { settleInvoiceLocally invoice attempt.amount now with collectionStage := some "settled" }) :
    Credits before attempt.billingInvoiceId db db' (creditOf attempt invoice) (shareOf attempt) := by
  have hget : get? db.attempts (key (paidAttempt attempt provider now)) = some attempt :=
    get?_of_mem h.rows.ids hmem
  refine ⟨?_, ?_, by rw [hinvoice]; rfl, ?_⟩
  · unfold Db.amountPaid
    rw [hrow, hinvoice]
    show max invoice.amountPaid (invoice.amountPaid + max attempt.amount invoice.amountDue) = _
    unfold creditOf
    dsimp only [Option.elim]
    omega
  · rw [confirmedAmount_eq, confirmedAmount_eq, hattempts, sum_put _ h.rows.ids hget]
    have hnew : confirmedShare before attempt.billingInvoiceId (paidAttempt attempt provider now) =
        if before.attemptPaid attempt.id = true then 0 else attempt.amount := by
      unfold confirmedShare confirmedSince
      show (if (decide (attempt.billingInvoiceId = attempt.billingInvoiceId) && decide (AttemptStatus.paid = .paid) &&
        !before.attemptPaid attempt.id) = true then attempt.amount else 0) = _
      cases before.attemptPaid attempt.id <;> simp
    rw [hnew]
    unfold shareOf confirmedShare confirmedSince
    by_cases hpaid : attempt.status = .paid
    · rw [if_pos hpaid, hpaid]
      cases before.attemptPaid attempt.id <;> simp
    · rw [if_neg hpaid, h.unpaid attempt hmem hpaid]
      simp [hpaid]
  · rw [hattempts]
    intro row hrow hunpaid
    rcases mem_put hrow with rfl | hold
    · exact absurd rfl hunpaid
    · exact h.unpaid row hold hunpaid

/-- A webhook of the invoice credits at least what its attempt adds to the sum, and exactly that under the condition. -/
theorem step_credits {before : Db} {invoiceId : Nat} {w : World} {e : Event} (h : CreditRows before invoiceId w.db)
    (hof : confirmsLocally invoiceId w e = true) :
    ∃ credit share, Credits before invoiceId w.db (step w e).db credit share ∧ share ≤ credit ∧
      (creditsExactly invoiceId w e = true ↔ credit = share) := by
  unfold confirmsLocally at hof
  unfold creditsExactly
  cases hop : e.op with
  | webhook delivery =>
    rw [hop] at hof
    dsimp only at hof ⊢
    cases hdelivered : deliveredEvent e.env w.db delivery with
    | none => exact ⟨0, 0, h.same.of_core (step_not_delivered hop hdelivered), Int.le_refl _, iff_of_true rfl rfl⟩
    | some delivered =>
      obtain ⟨event, tick⟩ := delivered
      obtain ⟨db, outbox, hdb, hcore⟩ := step_delivered hop hdelivered
      rw [hdelivered] at hof
      simp only [Option.all_some, Bool.and_eq_true, decide_eq_true_eq] at hof ⊢
      obtain ⟨⟨htype, habout⟩, hlocal⟩ := hof
      obtain ⟨attempt, hattempt, hid⟩ := (Option.any_eq_true _ _).1 habout
      obtain ⟨invoice, hrow⟩ := Option.isSome_iff_exists.1 h.invoice
      obtain rfl := of_decide_eq_true hid
      have hasks : ∀ tenant ∈ eventTenant (delivery.provider e.env) event w.db,
          asksErp (e.env.erp tick) tenant invoice = false := by
        intro tenant htenant
        rw [htenant, hrow] at hlocal
        simpa using hlocal
      rw [hattempt, hrow]
      simp only [Option.all_some]
      -- the rows the handler finds are those of the world but for the outbox
      have happlied := appliedRows_confirmed db e.env tick htype (by rw [hdb]; exact hattempt)
        (by rw [hdb]; exact hrow) (by rw [hdb]; exact hasks)
      have htakes : takesConfirmation e.env (delivery.provider e.env) event tick db =
          takesConfirmation e.env (delivery.provider e.env) event tick w.db := by
        have havailable : ∀ t, subscriptionAvailable db t = subscriptionAvailable w.db t :=
          subscriptionAvailable_congr (by rw [hdb]) (by rw [hdb])
        unfold takesConfirmation
        simp only [havailable]
        rw [hdb]
        rfl
      rw [htakes] at happlied
      cases htaken : takesConfirmation e.env (delivery.provider e.env) event tick w.db with
      | false =>
        rw [htaken, if_neg (by decide)] at happlied
        have hsame : (step w e).db.core = w.db.core := by rw [hcore, happlied, hdb]; rfl
        exact ⟨0, 0, h.same.of_core hsame, Int.le_refl _, iff_of_true rfl rfl⟩
      | true =>
        rw [htaken, if_pos rfl] at happlied
        obtain ⟨tenantId, email, db', hbody, hflushed⟩ := happlied
        obtain ⟨hattempts, hinvoice⟩ := eventBody_credits htype hbody (by rw [hdb]; exact hattempt)
          (by rw [hdb]; exact hrow) (by rw [hdb]; exact hasks)
        have hrows : CreditRows before attempt.billingInvoiceId db := by
          rw [hdb]
          exact ⟨⟨h.rows.filed.congr rfl, h.rows.ids⟩, h.invoice, h.unpaid⟩
        have hcredits := credits_of_confirmed hrows (by rw [hdb]; exact (mem_attempts_of_resolved hattempt).1)
          (by rw [hdb]; exact hrow) hattempts hinvoice
        rw [hdb] at hcredits
        have hstep : Credits before attempt.billingInvoiceId w.db db' (creditOf attempt invoice) (shareOf attempt) :=
          ⟨hcredits.paid, hcredits.confirmed, hcredits.invoice, hcredits.unpaid⟩
        rw [hflushed] at hcore
        exact ⟨_, _, (hstep.flush _ _).of_core hcore, shareOf_le_creditOf attempt invoice,
          by rw [Bool.not_true, Bool.false_or, creditsAmount_iff]⟩
  | _ =>
    rw [hop] at hof
    cases hof

/-- Over any run of confirmations of an invoice that is settled without the ERP, the invoice is credited the sum of its
attempts that were confirmed, each counted once, if and only if each confirmation that is taken credits its attempt's
amount the first time and nothing after that: no more is due than the attempt's amount, which is not negative; and when
the attempt is paid already, neither its amount nor what is due is positive. -/
theorem credited_once_iff {w : World} {es : List Event} {invoiceId : Nat} (h : AttemptRows w.db)
    (hinvoice : (w.db.invoice? invoiceId).isSome = true)
    (hof : Steps step (fun w e => confirmsLocally invoiceId w e = true) w es) :
    Steps step (fun w e => creditsExactly invoiceId w e = true) w es ↔
      (run step w es).db.amountPaid invoiceId - w.db.amountPaid invoiceId =
        (run step w es).db.confirmedAmount w.db invoiceId := by
  -- the excess of what is credited over the sum never falls
  let excess : World → Int := fun v =>
    v.db.amountPaid invoiceId - w.db.amountPaid invoiceId - v.db.confirmedAmount w.db invoiceId
  have hstart : excess w = 0 := by
    show w.db.amountPaid invoiceId - w.db.amountPaid invoiceId - w.db.confirmedAmount w.db invoiceId = 0
    rw [confirmedAmount_self h.ids]
    omega
  have hrows : CreditRows w.db invoiceId w.db := by
    refine ⟨h, hinvoice, fun attempt hmem hunpaid => ?_⟩
    have hget : w.db.attempt? attempt.id = some attempt := get?_of_mem h.ids hmem
    unfold Db.attemptPaid
    rw [hget]
    exact decide_eq_false hunpaid
  have hstep : ∀ v e, CreditRows w.db invoiceId v.db → confirmsLocally invoiceId v e = true →
      CreditRows w.db invoiceId (step v e).db ∧ excess v ≤ excess (step v e) ∧
        (creditsExactly invoiceId v e = true ↔ excess (step v e) = excess v) := by
    intro v e hv hof
    obtain ⟨credit, share, hcredits, hle, hiff⟩ := step_credits hv hof
    have hexcess : excess (step v e) = excess v + (credit - share) := by
      have hpaid := hcredits.paid
      have hconfirmed := hcredits.confirmed
      show (step v e).db.amountPaid invoiceId - _ - (step v e).db.confirmedAmount w.db invoiceId =
        v.db.amountPaid invoiceId - w.db.amountPaid invoiceId - v.db.confirmedAmount w.db invoiceId + _
      omega
    refine ⟨⟨step_attemptRows e hv.rows, hcredits.invoice, hcredits.unpaid⟩, by omega, ?_⟩
    rw [hiff]
    omega
  rw [steps_iff_last_of (I := fun v => excess v = 0) (J := fun v => CreditRows w.db invoiceId v.db ∧ 0 ≤ excess v)
    ?_ ?_ ?_ ⟨hrows, by omega⟩ hstart hof]
  · show (run step w es).db.amountPaid invoiceId - w.db.amountPaid invoiceId -
      (run step w es).db.confirmedAmount w.db invoiceId = 0 ↔ _
    omega
  · intro v e hv hof
    obtain ⟨hnext, hle, -⟩ := hstep v e hv.1 hof
    exact ⟨hnext, by omega⟩
  · intro v e hv hof hzero
    obtain ⟨-, -, hexact⟩ := hstep v e hv.1 hof
    rw [hexact, hzero]
  · intro v e hv hof hpositive
    obtain ⟨-, hle, -⟩ := hstep v e hv.1 hof
    have hnonneg := hv.2
    show ¬excess (step v e) = 0
    omega

/-- The confirmation of the checkout again, in another payload. -/
def Small.confirmedAgain : List Event :=
  [Small.confirmation, ⟨Small.envAt 3, Small.checkoutWebhook .paymentConfirmed 1 "b"⟩]

set_option maxRecDepth 100000 in
/-- The payment is credited again. -/
theorem credited_twice :
    ¬(Steps step (fun w e => confirmsLocally 1 w e = true) Small.checkedOut Small.confirmedAgain →
      (run step Small.checkedOut Small.confirmedAgain).db.amountPaid 1 - Small.checkedOut.db.amountPaid 1 =
        (run step Small.checkedOut Small.confirmedAgain).db.confirmedAmount Small.checkedOut.db 1) := by
  decide +kernel

set_option maxRecDepth 100000 in
/-- The first confirmation credits what it should. -/
theorem credited_once_first :
    (run step Small.checkedOut [Small.confirmation]).db.amountPaid 1 - Small.checkedOut.db.amountPaid 1 =
      (run step Small.checkedOut [Small.confirmation]).db.confirmedAmount Small.checkedOut.db 1 :=
  (credited_once_iff checkedOut_rows (by decide +kernel) (by decide +kernel)).1 (by decide +kernel)

end ControlPlane
