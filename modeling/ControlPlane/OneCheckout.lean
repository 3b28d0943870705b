import ControlPlane.Billing.NewAttempts

/-!
# At most one open checkout for an invoice

The guard of `create_payment_attempt_for_invoice` looks at the invoice's latest attempt only.  An older attempt that is
still active is hidden behind a later one that an event or a reconciliation has ended.
-/

namespace ControlPlane

open Table Session Session.Proc Runs

/-- The attempt is an open checkout. -/
def PaymentAttempt.isActive (attempt : PaymentAttempt) : Bool := attempt.status ∈ activePaymentAttemptStates

/-- The number of an invoice's open checkouts. -/
def Db.openCheckouts (db : Db) (invoiceId : Nat) : Nat := (db.attemptsOf invoiceId).countP PaymentAttempt.isActive

/-- No invoice has two open checkouts. -/
def Db.OneCheckout (db : Db) : Prop := ∀ invoiceId, db.openCheckouts invoiceId ≤ 1

/-- An attempt of the invoice is active and is not the latest one. -/
def Db.hiddenActive (db : Db) (invoiceId : Nat) : Bool :=
  (db.attemptsOf invoiceId).any fun attempt =>
    attempt.isActive && latestPaymentAttempt (db.attemptsOf invoiceId) ≠ some attempt

/-- The step makes an attempt for an invoice that has an active attempt behind its latest one. -/
def opensSecond (w : World) (e : Event) : Bool :=
  (addedAttempt w e).any fun added => w.db.hiddenActive added.1.billingInvoiceId

/-- What a run keeps besides. -/
structure AttemptRows (db : Db) : Prop where
  filed : db.InvoicesFiled
  ids : (db.attempts.map PaymentAttempt.id).Nodup

theorem openCheckouts_eq (db : Db) (invoiceId : Nat) : db.openCheckouts invoiceId =
    db.standings.countP fun s => decide (s.2.2 ∈ activePaymentAttemptStates) && decide (s.2.1 = invoiceId) := by
  unfold Db.openCheckouts Db.attemptsOf Db.standings
  rw [List.countP_filter, List.countP_map]
  rfl

/-- Attempts that advance open no checkout. -/
theorem Db.Advanced.openCheckouts_le {db db' : Db} (h : db.Advanced db') (invoiceId : Nat) :
    db'.openCheckouts invoiceId ≤ db.openCheckouts invoiceId := by
  unfold Db.openCheckouts Db.attemptsOf
  rw [List.countP_filter, List.countP_filter]
  unfold Db.Advanced at h
  generalize db.attempts = old at h ⊢
  generalize db'.attempts = new at h ⊢
  induction h with
  | nil => exact Nat.le_refl _
  | @cons a b _ _ hab _ ih =>
    rw [List.countP_cons, List.countP_cons]
    refine Nat.add_le_add ih ?_
    have hactive : b.isActive = true → a.isActive = true := by
      intro hb
      rcases hab.status with heq | hmem
      · unfold PaymentAttempt.isActive at hb ⊢
        rwa [heq] at hb
      · have hended : ∀ st ∈ [AttemptStatus.paid, .failed, .reconciliationRequired],
            st ∉ activePaymentAttemptStates := by decide
        exact absurd (of_decide_eq_true hb) (hended b.status hmem)
    rw [hab.invoice]
    split
    · rename_i hb
      rw [if_pos]
      simp only [Bool.and_eq_true] at hb ⊢
      exact ⟨hactive hb.1, hb.2⟩
    · exact Nat.zero_le _

/-- A new attempt is one more open checkout of its invoice. -/
theorem Added.openCheckouts {w : World} {e : Event} {attempt : PaymentAttempt} {db : Db} (h : Added w e attempt db)
    (invoiceId : Nat) : (step w e).db.openCheckouts invoiceId =
      w.db.openCheckouts invoiceId + if attempt.billingInvoiceId = invoiceId then 1 else 0 := by
  rw [openCheckouts_eq, openCheckouts_eq, h.rows, List.countP_append]
  have hactive := h.active
  by_cases hi : attempt.billingInvoiceId = invoiceId
  · simp [PaymentAttempt.standing, hi, hactive]
  · simp [PaymentAttempt.standing, hi]

/-- A new attempt is made where the latest one is not active, so an active one is hidden. -/
theorem Added.hiddenActive_iff {w : World} {e : Event} {attempt : PaymentAttempt} {db : Db} (h : Added w e attempt db) :
    w.db.hiddenActive attempt.billingInvoiceId = true ↔ 0 < w.db.openCheckouts attempt.billingInvoiceId := by
  obtain ⟨updated, hinvoice, -, hpayable⟩ := h.payable
  have hrows : db.attemptsOf updated.id = w.db.attemptsOf attempt.billingInvoiceId := by
    unfold Db.attemptsOf
    rw [h.attempts, hinvoice]
  have hlatest : ∀ a, latestPaymentAttempt (w.db.attemptsOf attempt.billingInvoiceId) = some a → a.isActive = false := by
    intro a ha
    unfold checkPayable at hpayable
    split at hpayable
    · cases hpayable
    · split at hpayable
      · cases hpayable
      · rename_i hnot
        rw [hrows] at hnot
        unfold PaymentAttempt.isActive
        exact decide_eq_false fun hactive => hnot ⟨a, ha, hactive⟩
  unfold Db.hiddenActive Db.openCheckouts
  rw [List.any_eq_true, List.countP_pos_iff]
  constructor
  · rintro ⟨a, ha, hhidden⟩
    exact ⟨a, ha, (Bool.and_eq_true_iff.1 hhidden).1⟩
  · rintro ⟨a, ha, hactive⟩
    refine ⟨a, ha, Bool.and_eq_true_iff.2 ⟨hactive, decide_eq_true fun hl => ?_⟩⟩
    rw [hlatest a hl] at hactive
    cases hactive

theorem step_attemptRows {w : World} (e : Event) (h : AttemptRows w.db) : AttemptRows (step w e).db := by
  refine ⟨step_invoicesFiled e h.filed, ?_⟩
  cases hadded : addedAttempt w e with
  | none =>
    rw [(step_advanced h.filed h.ids hadded).ids]
    exact h.ids
  | some r =>
    have ha := addedAttempt_added hadded
    have hids : (step w e).db.attempts.map PaymentAttempt.id =
        (w.db.attempts.map PaymentAttempt.id) ++ [r.1.id] := by
      have hrows := congrArg (List.map Prod.fst) ha.rows
      unfold Db.standings at hrows
      rw [List.map_append, List.map_map, List.map_map] at hrows
      exact hrows
    rw [hids, List.nodup_append]
    refine ⟨h.ids, List.nodup_singleton _, ?_⟩
    intro i hi j hj
    obtain ⟨row, hrow, rfl⟩ := List.mem_map.1 hi
    rw [List.mem_singleton.1 hj, ha.fresh]
    have hlt : key row < fresh w.db.attempts := key_lt_fresh hrow
    exact Nat.ne_of_lt hlt

/-- A step keeps the invoices to one open checkout each exactly if it opens no second one. -/
theorem step_oneCheckout_iff {w : World} (e : Event) (h : AttemptRows w.db) (hone : w.db.OneCheckout) :
    opensSecond w e = false ↔ (step w e).db.OneCheckout := by
  unfold opensSecond
  cases hadded : addedAttempt w e with
  | none =>
    refine iff_of_true rfl fun invoiceId => ?_
    exact Nat.le_trans ((step_advanced h.filed h.ids hadded).openCheckouts_le invoiceId) (hone invoiceId)
  | some r =>
    have ha := addedAttempt_added hadded
    rw [Option.any_some, ← Bool.not_eq_true, ha.hiddenActive_iff]
    constructor
    · intro hnone invoiceId
      rw [ha.openCheckouts]
      split
      · rename_i hi
        rw [← hi]
        omega
      · exact hone invoiceId
    · intro hafter hpos
      have hle := hafter r.1.billingInvoiceId
      rw [ha.openCheckouts, if_pos rfl] at hle
      omega

/-- Over every run, no invoice ever has two open checkouts if and only if no step makes an attempt for an invoice that
has an active attempt behind its latest one. -/
theorem one_checkout_iff {w : World} {es : List Event} (h : AttemptRows w.db) (hone : w.db.OneCheckout) :
    Steps step (fun w e => opensSecond w e = false) w es ↔ Always step (fun w => w.db.OneCheckout) w es := by
  have hrows : Always step (fun w => AttemptRows w.db) w es :=
    .of_invariant (I := fun w : World => AttemptRows w.db) (fun _ e h => step_attemptRows e h) h es
  rw [steps_iff_always (I := fun w => AttemptRows w.db ∧ w.db.OneCheckout) (fun w e hI => ?_) ⟨h, hone⟩]
  · exact ⟨fun hall => hall.mono fun _ hI => hI.2, fun hall => hrows.and hall⟩
  · rw [step_oneCheckout_iff e hI.1 hI.2]
    exact (and_iff_right (step_attemptRows e hI.1)).symm

theorem Small.billed_noAttempts : Small.billed.db.attempts = [] := by decide +kernel

theorem Small.billed_attemptRows : AttemptRows Small.billed.db := by
  refine ⟨⟨List.nodup_singleton _, fun invoice hmem => ?_, List.nodup_singleton _⟩, ?_⟩
  · obtain rfl : invoice = Small.invoice := List.mem_singleton.1 hmem
    rfl
  · rw [Small.billed_noAttempts]
    exact List.nodup_nil

theorem Small.linked_attemptRows : AttemptRows Small.linked.db :=
  ⟨Small.billed_attemptRows.filed.congr rfl, Small.billed_attemptRows.ids⟩

/-- A checkout fails and a second one is made; another report of the first one's failure makes the first the latest
again, and a third one is made. -/
def Small.thirdCheckout : List Event :=
  [⟨Small.envAt 1, .createPaymentAttempt 1 none⟩, ⟨Small.envAt 2, Small.checkoutWebhook .paymentFailed 1 "a"⟩,
    ⟨Small.envAt 3, .createPaymentAttempt 1 none⟩, ⟨Small.envAt 4, Small.checkoutWebhook .paymentFailed 1 "b"⟩,
    ⟨Small.envAt 5, .createPaymentAttempt 1 none⟩]

set_option maxRecDepth 100000 in
theorem third_checkout_run :
    (run step Small.billed Small.thirdCheckout).db.attempts.map PaymentAttempt.status =
        [.failed, .checkoutStarted, .checkoutStarted] ∧
      (run step Small.billed Small.thirdCheckout).db.openCheckouts 1 = 2 := by
  decide +kernel

/-- The invoice has two open checkouts. -/
theorem third_checkout_opens_second :
    ¬Always step (fun w => w.db.OneCheckout) Small.billed Small.thirdCheckout := by
  intro h
  have hone := h.last 1
  rw [third_checkout_run.2] at hone
  omega

set_option maxRecDepth 100000 in
/-- Up to the second checkout all is well. -/
theorem one_checkout_iff_second :
    Always step (fun w => w.db.OneCheckout) Small.billed (Small.thirdCheckout.take 3) :=
  (one_checkout_iff Small.billed_attemptRows fun invoiceId => by
    unfold Db.openCheckouts Db.attemptsOf
    rw [Small.billed_noAttempts]
    exact Nat.zero_le 1).1 (by decide +kernel)

end ControlPlane
