import ControlPlane.LedgerInvariant

/-!
# When an attempt is made

`addedAttempt` says what a step adds to the payment attempts.  Only `create_payment_attempt_for_invoice` adds one, and
only if every check passes, the gateway answers and the commit goes through.
-/

namespace ControlPlane

open Table Session Session.Proc

/-- The attempt that a step adds, and the rows, with the invoice resynced, to which it adds it. -/
def addedAttempt (w : World) (e : Event) : Option (PaymentAttempt × Db) :=
  match e.op with
  | .createPaymentAttempt invoiceId provider =>
    match requireInvoice w.db invoiceId with
    | .error _ => none
    | .ok (invoice, tenant, owner) =>
      match resyncOneInvoice (e.env.erp 0) w.db tenant invoice (e.env.clock 0) with
      | .error _ => none
      | .ok (updated, db) =>
        match checkPayable db updated, checkProvider e.env.gateway tenant provider,
          e.env.gateway.createInvoiceCheckout updated tenant owner with
        | .ok _, .ok _, .ok checkout =>
          if e.env.commitFails 0 then none
          else some (newPaymentAttempt db tenant updated checkout (e.env.clock 0), db)
        | _, _, _ => none
  | _ => none

/-- What identifies an attempt, and where it is in its life. -/
def PaymentAttempt.standing (attempt : PaymentAttempt) : Nat × Nat × AttemptStatus :=
  (attempt.id, attempt.billingInvoiceId, attempt.status)

/-- The standings of a database's attempts. -/
def Db.standings (db : Db) : List (Nat × Nat × AttemptStatus) := db.attempts.map PaymentAttempt.standing

theorem standings_flush (now : Time) (saved work : Db) : (Db.flush now saved work).standings = work.standings := by
  exact Db.map_attempts_flush now saved work fun _ _ => rfl

theorem standings_of_attempts {db db' : Db} (h : db'.attempts = db.attempts) : db'.standings = db.standings := by
  unfold Db.standings
  rw [h]

/-- The facts about an attempt that is made. -/
structure Added (w : World) (e : Event) (attempt : PaymentAttempt) (db : Db) : Prop where
  attempts : db.attempts = w.db.attempts
  fresh : attempt.id = Table.fresh w.db.attempts
  active : attempt.status ∈ activePaymentAttemptStates
  payable : ∃ updated, attempt.billingInvoiceId = updated.id ∧ attempt.amount = updated.amountDue ∧
    checkPayable db updated = .ok ()
  rows : (step w e).db.standings = w.db.standings ++ [attempt.standing]

theorem newPaymentAttempt_active (db : Db) (tenant : Tenant) (invoice : BillingInvoice) (checkout : CheckoutResult)
    (now : Time) : (newPaymentAttempt db tenant invoice checkout now).status ∈ activePaymentAttemptStates := by
  unfold newPaymentAttempt
  dsimp only
  split
  · decide
  · decide

/-- What is done with an attempt that can be made. -/
theorem createPaymentAttemptForInvoice_core {env : Env} {tenant : Tenant} {owner : User} {invoice updated : BillingInvoice}
    {provider : Option String} {db db₁ : Db} {checkout : CheckoutResult} (queue : List Task)
    (hresync : resyncOneInvoice (env.erp 0) db tenant invoice (env.clock 0) = .ok (updated, db₁))
    (hpayable : checkPayable db₁ updated = .ok ()) (hprovider : checkProvider env.gateway tenant provider = .ok ())
    (hcheckout : env.gateway.createInvoiceCheckout updated tenant owner = .ok checkout)
    (hcommit : env.commitFails 0 = false) :
    (createPaymentAttemptForInvoice env tenant owner invoice provider (opened db queue)).2.saved.core =
      (Db.flush (env.clock 0) db (addPaymentAttempt db₁ tenant updated checkout (env.clock 0))).core := by
  have hprepare : preparePaymentAttempt env.gateway tenant owner invoice provider
      (env.clock (opened db queue : DbSession).tick) (env.erp (opened db queue : DbSession).tick)
      (opened db queue : DbSession).work =
      .ok (fresh db₁.attempts, addPaymentAttempt db₁ tenant updated checkout (env.clock 0)) := by
    refine bind_eq_ok.2 ⟨(updated, db₁), hresync, ?_⟩
    refine bind_eq_ok.2 ⟨(), hpayable, bind_eq_ok.2 ⟨(), hprovider, bind_eq_ok.2 ⟨checkout, hcheckout, rfl⟩⟩⟩
  have hbooks : Bookkeeping (fun _ => False) (do
      recordAuditEvent env "billing.payment_attempt_created" "payment_attempts" (some (fresh db₁.attempts))
      return fresh db₁.attempts) := .bind (.recordAuditEvent env _ _ _) fun _ => .pure _
  unfold createPaymentAttemptForInvoice
  rw [change_bind, hprepare]
  dsimp only
  rw [commit_bind]
  dsimp only
  rw [show (opened db queue : DbSession).tick = 0 from rfl, hcommit, if_neg Bool.false_ne_true]
  exact (hbooks.idle rfl rfl).1

theorem addedAttempt_added {w : World} {e : Event} {attempt : PaymentAttempt} {db : Db}
    (h : addedAttempt w e = some (attempt, db)) : Added w e attempt db := by
  unfold addedAttempt at h
  split at h
  · rename_i invoiceId provider he
    split at h
    · cases h
    · rename_i invoice tenant owner hreq
      split at h
      · cases h
      · rename_i updated db₁ hresync
        split at h
        · rename_i checkout hpayable hprovider hcheckout
          split at h
          · cases h
          · rename_i hcommit
            cases h
            obtain ⟨accounts, invoices, hframe⟩ := resyncOneInvoice_frame hresync
            have hattempts : db.attempts = w.db.attempts := by rw [hframe]
            refine ⟨hattempts, by rw [← hattempts]; rfl, newPaymentAttempt_active _ _ _ _ _,
              ⟨updated, rfl, rfl, hpayable⟩, ?_⟩
            have hcore := createPaymentAttemptForInvoice_core w.queue hresync hpayable hprovider hcheckout
              (Bool.eq_false_iff.2 hcommit)
            have hstep : (step w e).db = (createInvoicePaymentAttempt e.env invoiceId provider
                (opened w.db w.queue)).2.saved := by
              unfold step
              rw [he]
              rfl
            have hcreate : createInvoicePaymentAttempt e.env invoiceId provider (opened w.db w.queue) =
                createPaymentAttemptForInvoice e.env tenant owner invoice provider (opened w.db w.queue) := by
              unfold createInvoicePaymentAttempt
              rw [bind_ok (read_apply _), show (opened w.db w.queue : DbSession).work = w.db from rfl, hreq]
            rw [hstep, hcreate, standings_of_attempts (Db.attempts_of_core hcore), standings_flush,
              standings_of_attempts (addPaymentAttempt_ledger db tenant updated checkout (e.env.clock 0)).attempts]
            unfold Db.standings Table.insert
            dsimp only
            rw [List.map_append, hattempts]
            rfl
        · cases h
  · cases h

/-- A call that adds no attempt commits nothing. -/
theorem step_of_not_added {w : World} {e : Event} {invoiceId : Nat} {provider : Option String}
    (he : e.op = .createPaymentAttempt invoiceId provider) (h : addedAttempt w e = none) : (step w e).db = w.db := by
  have hstep : (step w e).db = (createInvoicePaymentAttempt e.env invoiceId provider
      (opened w.db w.queue)).2.saved := by
    unfold step
    rw [he]
    rfl
  rw [hstep]
  unfold addedAttempt at h
  rw [he] at h
  dsimp only at h
  unfold createInvoicePaymentAttempt
  rw [bind_ok (read_apply _), show (opened w.db w.queue : DbSession).work = w.db from rfl]
  cases hreq : requireInvoice w.db invoiceId with
  | error error => rfl
  | ok r =>
    obtain ⟨invoice, tenant, owner⟩ := r
    rw [hreq] at h
    dsimp only at h ⊢
    unfold createPaymentAttemptForInvoice
    rw [change_bind]
    cases hprepare : preparePaymentAttempt e.env.gateway tenant owner invoice provider
        (e.env.clock (opened w.db w.queue : DbSession).tick) (e.env.erp (opened w.db w.queue : DbSession).tick)
        (opened w.db w.queue : DbSession).work with
    | error error => rfl
    | ok r =>
      obtain ⟨attemptId, db'⟩ := r
      obtain ⟨updated, db₁, checkout, hresync, hpayable, hprovider, hcheckout, rfl⟩ :=
        preparePaymentAttempt_ledger hprepare
      rw [show resyncOneInvoice (e.env.erp 0) w.db tenant invoice (e.env.clock 0) = .ok (updated, db₁) from hresync]
        at h
      dsimp only at h
      rw [hpayable, hprovider, hcheckout] at h
      dsimp only at h
      split at h
      · rename_i hcommit
        dsimp only
        rw [commit_bind]
        dsimp only
        rw [show (opened w.db w.queue : DbSession).tick = 0 from rfl, if_pos hcommit]
        rfl
      · cases h

/-! ### Steps that add no attempt -/

/-- An attempt later in its life: it is for the same invoice, and it has not become active. -/
structure Advanced (old new : PaymentAttempt) : Prop where
  id : new.id = old.id
  tenant : new.tenantId = old.tenantId
  invoice : new.billingInvoiceId = old.billingInvoiceId
  amount : new.amount = old.amount
  status : new.status = old.status ∨ new.status ∈ [AttemptStatus.paid, .failed, .reconciliationRequired]

theorem Advanced.refl (attempt : PaymentAttempt) : Advanced attempt attempt := ⟨rfl, rfl, rfl, rfl, Or.inl rfl⟩

theorem Advanced.trans {a b c : PaymentAttempt} (h : Advanced a b) (h' : Advanced b c) : Advanced a c where
  id := h'.id.trans h.id
  tenant := h'.tenant.trans h.tenant
  invoice := h'.invoice.trans h.invoice
  amount := h'.amount.trans h.amount
  status := by
    rcases h'.status with heq | hmem
    · rw [heq]
      exact h.status
    · exact Or.inr hmem

/-- The attempts of one database later in their lives. -/
def Db.Advanced (db db' : Db) : Prop := List.Forall₂ ControlPlane.Advanced db.attempts db'.attempts

namespace Db.Advanced

theorem refl (db : Db) : db.Advanced db := List.forall₂_same.2 fun attempt _ => .refl attempt

theorem congr {db db' db'' : Db} (h : db.Advanced db') (heq : db''.attempts = db'.attempts) : db.Advanced db'' := by
  unfold Db.Advanced
  rw [heq]
  exact h

theorem ids {db db' : Db} (h : db.Advanced db') :
    db'.attempts.map PaymentAttempt.id = db.attempts.map PaymentAttempt.id := by
  unfold Db.Advanced at h
  generalize db.attempts = old at h ⊢
  generalize db'.attempts = new at h ⊢
  induction h with
  | nil => rfl
  | cons hab _ ih => rw [List.map_cons, List.map_cons, hab.id, ih]

/-- Changing the attempts one by one, each to a later one. -/
theorem map {db db' db'' : Db} {f : PaymentAttempt → PaymentAttempt} (h : db.Advanced db')
    (heq : db''.attempts = db'.attempts.map f) (hf : ∀ a ∈ db'.attempts, ControlPlane.Advanced a (f a)) :
    db.Advanced db'' := by
  unfold Db.Advanced at h ⊢
  rw [heq, List.forall₂_map_right_iff]
  obtain ⟨hlength, hall⟩ := List.forall₂_iff_zip.1 h
  exact List.forall₂_iff_zip.2 ⟨hlength, fun hmem => (hall hmem).trans (hf _ (List.of_mem_zip hmem).2)⟩

theorem flush {db work : Db} (now : Time) (saved : Db) (h : db.Advanced work) : db.Advanced (Db.flush now saved work) := by
  refine h.map rfl fun a _ => ?_
  obtain ⟨stamp, heq⟩ := Db.onUpdate_attempt now saved.attempts a
  rw [heq]
  exact ⟨rfl, rfl, rfl, rfl, Or.inl rfl⟩

theorem mark {db db' : Db} {attempt marked : PaymentAttempt} (h : db.Advanced db')
    (hids : (db.attempts.map PaymentAttempt.id).Nodup) (hmem : attempt ∈ db'.attempts) (hm : Marked attempt marked) :
    db.Advanced (db'.putAttempt marked) := by
  refine h.map rfl fun a ha => ?_
  split
  · rename_i hkey
    have hid : a.id = attempt.id := by
      rw [← hm.id]
      exact hkey
    have hnd : (db'.attempts.map PaymentAttempt.id).Nodup := by
      rw [h.ids]
      exact hids
    obtain rfl : a = attempt := List.inj_on_of_nodup_map hnd ha hmem hid
    exact ⟨hm.id, hm.tenant, hm.invoice, hm.amount, Or.inr hm.status⟩
  · exact .refl a

end Db.Advanced

/-- A step that is no call for a new attempt only advances the attempts there are. -/
theorem advanced_ledger {w : World} {e : Event} (hids : (w.db.attempts.map PaymentAttempt.id).Nodup)
    (he : ∀ invoiceId provider, e.op ≠ .createPaymentAttempt invoiceId provider) :
    LedgerInvariant (fun db => db.InvoicesFiled ∧ w.db.Advanced db) w e where
  ids _ hJ := hJ.1.ids
  same _ _ hsame _ hJ := ⟨hJ.1.congr hsame.invoices, hJ.2.congr hsame.attempts⟩
  customer _ _ _ hsame hJ := ⟨hJ.1.congr hsame.invoices, hJ.2.congr hsame.attempts⟩
  flush now saved _ _ hJ := ⟨hJ.1.congr rfl, hJ.2.flush now saved⟩
  resynced _ _ _ _ _ _ hJ _ _ _ hresync := by
    refine ⟨hJ.1.resync hresync, ?_⟩
    obtain ⟨accounts, invoices, rfl⟩ := resyncOneInvoice_frame hresync
    exact hJ.2.congr rfl
  settled _ _ _ hJ hrow hsettled := ⟨hJ.1.put hrow hsettled.id hsettled.reference hsettled.number, hJ.2.congr rfl⟩
  marked _ _ _ hJ hmem hmarked := ⟨hJ.1.congr rfl, hJ.2.mark hids hmem hmarked⟩
  synced tick tenantId limit db u db' hJ hr := by
    refine ⟨(invoicesFiled_ledger w e).synced tick tenantId limit db u db' hJ.1 hr, ?_⟩
    obtain ⟨accounts, invoices, rfl⟩ := syncForTenant_frame hr
    exact hJ.2.congr rfl
  attempted _ invoiceId provider _ _ _ hop := absurd hop (he invoiceId provider)

/-- A step that adds no attempt only advances the attempts there are. -/
theorem step_advanced {w : World} {e : Event} (hF : w.db.InvoicesFiled)
    (hids : (w.db.attempts.map PaymentAttempt.id).Nodup) (h : addedAttempt w e = none) : w.db.Advanced (step w e).db := by
  by_cases he : ∃ invoiceId provider, e.op = .createPaymentAttempt invoiceId provider
  · obtain ⟨invoiceId, provider, he⟩ := he
    rw [step_of_not_added he h]
    exact .refl _
  · have he' : ∀ invoiceId provider, e.op ≠ .createPaymentAttempt invoiceId provider :=
      fun invoiceId provider hop => he ⟨invoiceId, provider, hop⟩
    exact (step_preserves ((advanced_ledger hids he').preserved ⟨hF, .refl _⟩) ⟨hF, .refl _⟩).2

end ControlPlane
