import ControlPlane.Billing.LastItems
import ControlPlane.OneCheckout

/-!
# Invoices that are charged again

A new attempt is made for an invoice that is payable as the ERP has it now.  That an attempt of the invoice was
confirmed by the provider is not asked: until the ERP has the payment too, its item opens the invoice again.
-/

namespace ControlPlane

open Table Session Session.Proc Runs

/-- The provider confirmed the attempt's payment. -/
def PaymentAttempt.isConfirmed (attempt : PaymentAttempt) : Bool :=
  attempt.status ∈ [AttemptStatus.paid, .reconciliationRequired]

/-- The invoice has an attempt whose payment was confirmed. -/
def Db.isConfirmed (db : Db) (invoiceId : Nat) : Bool := (db.attemptsOf invoiceId).any PaymentAttempt.isConfirmed

/-- The step adds an attempt for an invoice that has a confirmed one. -/
def ChargedAgain (w : World) (e : Event) : Prop :=
  ∃ attempt ∈ (step w e).db.attempts, attempt.id ∉ w.db.attempts.map PaymentAttempt.id ∧
    w.db.isConfirmed attempt.billingInvoiceId = true

/-! ### What the ERP has of an invoice -/

/-- The item of the ERP for an invoice: none if the ERP is not asked, because it is not configured, the tenant is no customer
or the invoice has no reference, or if it lists none. -/
def erpItem (client : PlatformErpClient) (tenant : Tenant) (invoice : BillingInvoice) : Except PyError (Option ErpItem) :=
  let reference := strip ((orText invoice.erpInvoiceId (orText invoice.invoiceNumber none)).getD "")
  match client.isConfigured, tenant.customerId? with
  | true, some customerId => if reference = "" then .ok none else fetchInvoiceItem client customerId reference
  | _, _ => .ok none

/-- What the ERP calls an invoice for which nothing is to be paid any more. -/
def endedItemStatuses : List String :=
  ["cancelled", "canceled", "void", "voided", "credit note issued"] ++ ["paid", "settled", "closed"]

/-- The ERP has the invoice as open: something is due, and the item is called neither cancelled nor paid. -/
def ErpItem.isOpen (item : ErpItem) (amountDue : Int) : Bool :=
  0 < amountDue ∧ normalize ((orText item.status none).getD "") ∉ endedItemStatuses

/-- The invoice row that an item is about, with the columns as the item has them. -/
def billedRow (db : Db) (tenant : Tenant) (item : ErpItem) (amounts : Int × Int) (now : Time) : BillingInvoice :=
  let (db, account) := ensureBillingAccount db tenant
  fillInvoice (findOrAddInvoice db.invoices db tenant account item.reference now).2 tenant (db.subscriptionOf tenant.id)
    account item amounts.1 amounts.2 now

/-- The invoice that is open when a payment for one is asked for: the one the ERP's item is about, if the ERP has that as
open, and where the ERP has no item the one asked for, if its own columns are those of an open one. -/
def openInvoice (client : PlatformErpClient) (db : Db) (tenant : Tenant) (invoice : BillingInvoice) (now : Time) :
    Option BillingInvoice :=
  match erpItem client tenant invoice with
  | .error _ => none
  | .ok none => if invoiceIsPayable invoice then some invoice else none
  | .ok (some item) =>
    match item.amounts with
    | .error _ => none
    | .ok amounts =>
      if item.reference ≠ "" ∧ item.isOpen amounts.1 then some (billedRow db tenant item amounts now) else none

/-- An invoice of which something is due is payable with the status of an item just when the ERP has it as open. -/
theorem normalizeInvoiceStatus_terminal (item : ErpItem) {amountDue : Int} (amountPaid : Int) (hdue : 0 < amountDue) :
    normalizeInvoiceStatus item amountDue amountPaid ∈ terminalInvoiceStates ↔
      normalize ((orText item.status none).getD "") ∈ endedItemStatuses := by
  unfold normalizeInvoiceStatus endedItemStatuses
  dsimp only
  rw [if_neg (fun h : amountDue ≤ 0 ∧ 0 < amountPaid => absurd hdue (by omega)), List.mem_append]
  generalize normalize ((orText item.status none).getD "") = raw
  split
  · rename_i hcancelled
    exact iff_of_true (by decide) (Or.inl hcancelled)
  · rename_i hcancelled
    split
    · rename_i hpaid
      exact iff_of_true (by decide) (Or.inr hpaid)
    · rename_i hpaid
      refine iff_of_false ?_ (not_or.2 ⟨hcancelled, hpaid⟩)
      split
      · decide
      · split <;> decide

theorem invoiceIsPayable_fill (invoice : BillingInvoice) (tenant : Tenant) (subscription : Option Subscription)
    (account : BillingAccount) (item : ErpItem) (amountDue amountPaid : Int) (now : Time) :
    invoiceIsPayable (fillInvoice invoice tenant subscription account item amountDue amountPaid now) =
      item.isOpen amountDue := by
  unfold invoiceIsPayable ErpItem.isOpen fillInvoice
  dsimp only
  rw [decide_eq_decide, and_comm]
  exact and_congr_right fun hdue => not_congr (normalizeInvoiceStatus_terminal item amountPaid hdue)

/-- A resync goes through and leaves a payable invoice just when there is an open one, and it is that one. -/
theorem resyncOneInvoice_payable_iff {client : PlatformErpClient} {db : Db} {tenant : Tenant}
    {invoice updated : BillingInvoice} {now : Time} (hF : db.InvoicesFiled) :
    (∃ db', resyncOneInvoice client db tenant invoice now = .ok (updated, db') ∧ invoiceIsPayable updated = true) ↔
      openInvoice client db tenant invoice now = some updated := by
  have hunasked : ∀ db₁, (∃ db', (Except.ok (invoice, db₁) : Except PyError (BillingInvoice × Db)) = .ok (updated, db') ∧
      invoiceIsPayable updated = true) ↔ (if invoiceIsPayable invoice then some invoice else none) = some updated := by
    intro db₁
    constructor
    · rintro ⟨db', h, hpayable⟩
      cases h
      exact if_pos hpayable
    · intro h
      split at h
      · cases h
        exact ⟨db₁, rfl, ‹_›⟩
      · cases h
  unfold openInvoice erpItem resyncOneInvoice
  cases hconfigured : client.isConfigured with
  | false => exact hunasked db
  | true =>
    cases hcustomer : tenant.customerId? with
    | none => exact hunasked db
    | some customerId =>
      dsimp only
      split
      · exact hunasked db
      · cases hfound : fetchInvoiceItem client customerId
            (strip ((orText invoice.erpInvoiceId (orText invoice.invoiceNumber none)).getD "")) with
        | error error => exact iff_of_false (fun ⟨_, h, _⟩ => by cases h) (by simp)
        | ok found =>
          cases found with
          | none => exact hunasked (ensureBillingAccount db tenant).1
          | some item =>
            dsimp only
            constructor
            · rintro ⟨db', h, hpayable⟩
              obtain ⟨found, hasked, h⟩ := bind_eq_ok.1 h
              cases hasked
              obtain ⟨⟨row, db₁⟩, hrow, h⟩ := bind_eq_ok.1 h
              obtain ⟨db₂, -, h⟩ := bind_eq_ok.1 h
              cases h
              obtain ⟨hreference, amounts, hamounts, rfl⟩ := upsertBillingInvoiceFromErpItem_iff.1 ⟨db₁, hrow⟩
              rw [hamounts]
              rw [invoiceIsPayable_fill] at hpayable
              exact if_pos ⟨hreference, hpayable⟩
            · intro h
              split at h
              · cases h
              · rename_i amounts hamounts
                split at h
                · rename_i hopen
                  cases h
                  obtain ⟨db₁, hrow⟩ := upsertBillingInvoiceFromErpItem_iff.2 ⟨hopen.1, amounts, hamounts, rfl⟩
                  have hfiled := (hF.congr (ensureBillingAccount_invoices db tenant)).upsert hrow
                  refine ⟨db₁, bind_eq_ok.2 ⟨some item, rfl, ?_⟩, ?_⟩
                  · exact bind_eq_ok.2 ⟨_, hrow, bind_eq_ok.2 ⟨db₁, hfiled.flushInvoices, rfl⟩⟩
                  · rw [← hopen.2]
                    exact invoiceIsPayable_fill _ _ _ _ _ _ _ _
                · cases h

theorem checkPayable_isOk (db : Db) (invoice : BillingInvoice) :
    (checkPayable db invoice).isOk = (invoiceIsPayable invoice &&
      (latestPaymentAttempt (db.attemptsOf invoice.id)).all fun attempt => !attempt.isActive) := by
  unfold checkPayable
  by_cases hpayable : invoiceIsPayable invoice = true
  · rw [if_neg (by simp [hpayable]), hpayable, Bool.true_and]
    cases hlatest : latestPaymentAttempt (db.attemptsOf invoice.id) with
    | none => rfl
    | some attempt =>
      by_cases hactive : attempt.status ∈ activePaymentAttemptStates
      · rw [if_pos ⟨attempt, rfl, hactive⟩]
        simp [PaymentAttempt.isActive, hactive, Except.isOk, Except.toBool]
      · rw [if_neg (by simpa using hactive)]
        simp [PaymentAttempt.isActive, hactive, Except.isOk, Except.toBool]
  · rw [if_pos hpayable, Bool.eq_false_iff.2 hpayable]
    rfl

/-! ### The call -/

/-- A call for a new attempt meets an open invoice with a confirmed attempt: the ERP has it as open, or it has no item for it
and the columns are those of an open one.  The latest attempt is not active, and the provider asked for, the gateway and the
commit do not stop the call. -/
def reopensPaid (w : World) (e : Event) : Bool :=
  match e.op with
  | .createPaymentAttempt invoiceId provider =>
    match requireInvoice w.db invoiceId with
    | .error _ => false
    | .ok (invoice, tenant, owner) =>
      (openInvoice (e.env.erp 0) w.db tenant invoice (e.env.clock 0)).any fun found =>
        w.db.isConfirmed found.id && (latestPaymentAttempt (w.db.attemptsOf found.id)).all (fun attempt => !attempt.isActive) &&
          (checkProvider e.env.gateway tenant provider).isOk &&
          (e.env.gateway.createInvoiceCheckout found tenant owner).isOk && !e.env.commitFails 0
  | _ => false

/-- A call makes an attempt for a paid invoice exactly if it meets one that is open. -/
theorem reopensPaid_eq {w : World} (e : Event) (hF : w.db.InvoicesFiled) :
    reopensPaid w e = (addedAttempt w e).any fun added => w.db.isConfirmed added.1.billingInvoiceId := by
  unfold reopensPaid addedAttempt
  cases hop : e.op with
  | createPaymentAttempt invoiceId provider =>
    dsimp only
    cases hreq : requireInvoice w.db invoiceId with
    | error error => rfl
    | ok r =>
      obtain ⟨invoice, tenant, owner⟩ := r
      dsimp only
      cases hresync : resyncOneInvoice (e.env.erp 0) w.db tenant invoice (e.env.clock 0) with
      | error error =>
        -- a resync that raises leaves no invoice open
        have hnone : openInvoice (e.env.erp 0) w.db tenant invoice (e.env.clock 0) = none := by
          refine Option.eq_none_iff_forall_ne_some.2 fun found hfound => ?_
          obtain ⟨db, hok, -⟩ := (resyncOneInvoice_payable_iff hF).2 hfound
          rw [hresync] at hok
          cases hok
        rw [hnone]
        rfl
      | ok r =>
        obtain ⟨updated, db⟩ := r
        obtain ⟨accounts, invoices, hframe⟩ := resyncOneInvoice_frame hresync
        have hrows : w.db.attemptsOf updated.id = db.attemptsOf updated.id := by rw [hframe]; rfl
        have hfound : openInvoice (e.env.erp 0) w.db tenant invoice (e.env.clock 0) =
            if invoiceIsPayable updated then some updated else none := by
          refine Option.ext fun found => ?_
          rw [← resyncOneInvoice_payable_iff hF, hresync]
          constructor
          · rintro ⟨db', h, hpayable⟩
            cases h
            exact if_pos hpayable
          · intro h
            split at h
            · cases h
              exact ⟨db, rfl, ‹_›⟩
            · cases h
        have hcheck := checkPayable_isOk db updated
        rw [hfound]
        dsimp only
        cases hpayable : invoiceIsPayable updated with
        | false =>
          rw [hpayable, Bool.false_and] at hcheck
          cases hchecked : checkPayable db updated with
          | error error => rfl
          | ok u =>
            rw [hchecked] at hcheck
            cases hcheck
        | true =>
          rw [if_pos rfl, Option.any_some, hrows]
          rw [hpayable, Bool.true_and] at hcheck
          rw [← hcheck]
          cases hchecked : checkPayable db updated with
          | error error => simp [Except.isOk, Except.toBool]
          | ok u =>
            cases hprovider : checkProvider e.env.gateway tenant provider with
            | error error => simp [Except.isOk, Except.toBool]
            | ok u =>
              cases hcheckout : e.env.gateway.createInvoiceCheckout updated tenant owner with
              | error error => simp [Except.isOk, Except.toBool]
              | ok checkout =>
                cases hcommit : e.env.commitFails 0 with
                | true => simp
                | false => simp [Except.isOk, Except.toBool, newPaymentAttempt]
  | _ => rfl

theorem chargedAgain_iff {w : World} {e : Event} (h : AttemptRows w.db) : ChargedAgain w e ↔ reopensPaid w e = true := by
  rw [reopensPaid_eq e h.filed]
  unfold ChargedAgain
  cases hadded : addedAttempt w e with
  | none =>
    refine iff_of_false ?_ (by simp)
    rintro ⟨attempt, hmem, hnew, -⟩
    rw [← (step_advanced h.filed h.ids hadded).ids] at hnew
    exact hnew (List.mem_map_of_mem hmem)
  | some r =>
    have ha := addedAttempt_added hadded
    have hrows := ha.rows
    unfold Db.standings at hrows
    rw [Option.any_some]
    constructor
    · rintro ⟨attempt, hmem, hnew, hconfirmed⟩
      have hstanding : attempt.standing ∈ w.db.attempts.map PaymentAttempt.standing ++ [r.1.standing] := by
        rw [← hrows]
        exact List.mem_map_of_mem hmem
      rcases List.mem_append.1 hstanding with hold | hlast
      · obtain ⟨old, hold, heq⟩ := List.mem_map.1 hold
        have hid : old.id = attempt.id := congrArg Prod.fst heq
        exact absurd (List.mem_map.2 ⟨old, hold, hid⟩) hnew
      · have heq := List.mem_singleton.1 hlast
        have hinvoice : attempt.billingInvoiceId = r.1.billingInvoiceId := congrArg (fun s => s.2.1) heq
        rwa [hinvoice] at hconfirmed
    · intro hconfirmed
      have hstanding : r.1.standing ∈ (step w e).db.attempts.map PaymentAttempt.standing := by
        rw [hrows]
        exact List.mem_append_right _ (List.mem_singleton_self _)
      obtain ⟨attempt, hmem, heq⟩ := List.mem_map.1 hstanding
      have hid : attempt.id = r.1.id := congrArg Prod.fst heq
      have hinvoice : attempt.billingInvoiceId = r.1.billingInvoiceId := congrArg (fun s => s.2.1) heq
      refine ⟨attempt, hmem, ?_, by rwa [hinvoice]⟩
      rw [hid, ha.fresh]
      intro hold
      obtain ⟨row, hrow, hkey⟩ := List.mem_map.1 hold
      have hlt : key row < fresh w.db.attempts := key_lt_fresh hrow
      exact Nat.ne_of_lt hlt hkey

/-- Over every run, no attempt is ever made for an invoice with a confirmed one if and only if no call meets such an invoice
open. -/
theorem charged_once_iff {w : World} {es : List Event} (h : AttemptRows w.db) :
    Steps step (fun w e => reopensPaid w e = false) w es ↔ Steps step (fun w e => ¬ChargedAgain w e) w es := by
  refine steps_congr (I := fun w : World => AttemptRows w.db) (fun _ e hI => step_attemptRows e hI) (fun w e hI => ?_) h
  rw [chargedAgain_iff hI, Bool.not_eq_true]

set_option maxRecDepth 100000 in
example : reopensPaid Small.linked ⟨Small.openErpAt 1, .createPaymentAttempt 1 none⟩ = false := by decide +kernel

/-- The payment of an invoice is confirmed, and the ERP has the invoice as open when a new attempt is asked for. -/
def Small.paidTwice : List Event :=
  [⟨Small.openErpAt 1, .createPaymentAttempt 1 none⟩, ⟨Small.openErpAt 2, Small.checkoutWebhook .paymentConfirmed 1 "a"⟩,
    ⟨Small.openErpAt 3, .createPaymentAttempt 1 none⟩]

set_option maxRecDepth 100000 in
/-- The invoice is charged again. -/
theorem paid_twice_charged : ¬Steps step (fun w e => ¬ChargedAgain w e) Small.linked Small.paidTwice := by
  intro h
  have hrows := step_attemptRows ⟨Small.openErpAt 1, .createPaymentAttempt 1 none⟩ Small.linked_attemptRows
  have hrows :=
    step_attemptRows ⟨Small.openErpAt 2, Small.checkoutWebhook .paymentConfirmed 1 "a"⟩ hrows
  apply h.2.2.1
  rw [chargedAgain_iff hrows]
  decide +kernel

set_option maxRecDepth 100000 in
/-- While the checkout is open and when it is paid, nothing is charged again. -/
theorem charged_once_paid : Steps step (fun w e => ¬ChargedAgain w e) Small.linked (Small.paidTwice.take 2) :=
  (charged_once_iff Small.linked_attemptRows).1 (by decide +kernel)

end ControlPlane
