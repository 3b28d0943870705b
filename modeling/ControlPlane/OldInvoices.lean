import ControlPlane.Preserved

/-!
# What a reconciliation restores

`reconcile_tenant_billing` goes over all of a tenant's invoices and repairs subscription and tenant for every settled one,
whether or not it is the latest.  The billing policy asks the latest invoice only.
-/

namespace ControlPlane

open Table Session Session.Proc

/-- No subscription that was neither active nor trialing has become active, and the tenant is still suspended for billing
or waiting for its payment if it was. -/
structure Db.NothingRestored (before after : Db) (tenantId : Nat) : Prop where
  subscriptions : ∀ id s s', get? before.subscriptions id = some s → s.status ∉ paidSubscriptionStatuses →
    get? after.subscriptions id = some s' → s'.status ≠ .active
  tenant : ∀ status ∈ [TenantStatus.pendingPayment, .suspendedBilling], before.tenantStatus tenantId = some status →
    after.tenantStatus tenantId = some status

/-- The sync with which a reconciliation begins leaves the tenant with a latest invoice that is not settled. -/
def latestUnsettled (env : Env) (tenantId : Nat) (db : Db) : Bool :=
  match syncForTenant tenantId 50 (env.clock 0) (env.erp 0) db with
  | .ok (_, db) => (latestBillingInvoice (db.invoicesOf tenantId)).any fun invoice => !reconciledInvoiceIsSettled invoice
  | .error _ => false

/-- A visit of the reconciliation repairs a subscription that is neither active nor trialing, or a tenant that is suspended
for billing or waits for its payment. -/
def restoresEntitlement (env : Env) (tenantId : Nat) (v : Nat × DbSession) : Bool :=
  (visitRepair env tenantId v).any fun (tenant, subscription, _) =>
    subscription.status ∉ paidSubscriptionStatuses ∨ tenant.status ∈ [TenantStatus.pendingPayment, .suspendedBilling]

/-- A reconciliation of a tenant, if its latest invoice is not settled after the sync, leaves nothing restored, neither in
its session nor in the committed rows. -/
def RestoresNothing (env : Env) (tenantId : Nat) (invoiceId : Option Nat) (db : Db) (queue : List Task) : Prop :=
  latestUnsettled env tenantId db = true →
    let s := (reconcileTenantBilling env tenantId invoiceId (opened db queue)).2
    db.NothingRestored s.work tenantId ∧ db.NothingRestored s.saved tenantId

/-- No visit of such a reconciliation restores entitlement. -/
def OnlyInGoodStanding (env : Env) (tenantId : Nat) (invoiceId : Option Nat) (db : Db) (queue : List Task) : Prop :=
  latestUnsettled env tenantId db = true →
    ∀ v ∈ reconciliationVisits env tenantId invoiceId (opened db queue), restoresEntitlement env tenantId v = false

/-! ### Before and after the first repair -/

/-- The status of a subscription that is neither active nor trialing. -/
def Db.unentitled (db : Db) (id : Nat) : Option SubscriptionStatus :=
  ((get? db.subscriptions id).map Subscription.status).filter fun status => status ∉ paidSubscriptionStatuses

/-- The status of a tenant that is suspended for billing or waits for its payment. -/
def Db.waiting (db : Db) (tenantId : Nat) : Option TenantStatus :=
  (db.tenantStatus tenantId).filter fun status => status ∈ [TenantStatus.pendingPayment, .suspendedBilling]

/-- Subscriptions and tenant are as they were, as far as a reconciliation could restore them. -/
structure Db.Unrestored (before : Db) (tenantId : Nat) (db : Db) : Prop where
  ids : (db.subscriptions.map Subscription.id).Nodup
  subscriptions : ∀ id, db.unentitled id = before.unentitled id
  tenant : db.waiting tenantId = before.waiting tenantId

/-- A subscription has become active, or the tenant has left the two statuses. -/
def Db.Restored (before : Db) (tenantId : Nat) (db : Db) : Prop :=
  (∃ id s, before.unentitled id ≠ none ∧ get? db.subscriptions id = some s ∧ s.status = .active) ∨
    (before.waiting tenantId ≠ none ∧ db.waiting tenantId = none)

variable {before : Db} {tenantId : Nat}

theorem unentitled_of_row {db : Db} {id : Nat} {s : Subscription} (hs : get? db.subscriptions id = some s) :
    db.unentitled id = if s.status ∈ paidSubscriptionStatuses then none else some s.status := by
  unfold Db.unentitled
  rw [hs, Option.map_some, Option.filter_some]
  by_cases h : s.status ∈ paidSubscriptionStatuses
  · simp [h]
  · simp [h]

theorem waiting_of_status {db : Db} {status : TenantStatus} (hs : db.tenantStatus tenantId = some status) :
    db.waiting tenantId = if status ∈ [TenantStatus.pendingPayment, .suspendedBilling] then some status else none := by
  unfold Db.waiting
  rw [hs, Option.filter_some]
  by_cases h : status ∈ [TenantStatus.pendingPayment, .suspendedBilling]
  · rw [decide_eq_true h, if_pos h]
    rfl
  · rw [decide_eq_false h, if_neg h]
    rfl

theorem Db.Unrestored.nothingRestored {db : Db} (h : before.Unrestored tenantId db) :
    before.NothingRestored db tenantId where
  subscriptions id s s' hs hnot hs' hactive := by
    have hsame := h.subscriptions id
    rw [unentitled_of_row hs, if_neg hnot, unentitled_of_row hs', hactive] at hsame
    cases hsame
  tenant status hmem hbefore := by
    have hsame := h.tenant
    rw [waiting_of_status hbefore, if_pos hmem] at hsame
    unfold Db.waiting at hsame
    exact (Option.filter_eq_some_iff.1 hsame).1

theorem Db.Restored.not_nothingRestored {db : Db} (h : before.Restored tenantId db) :
    ¬before.NothingRestored db tenantId := by
  intro hn
  rcases h with ⟨id, s', hwas, hs', hactive⟩ | ⟨hwas, hnow⟩
  · cases hs : get? before.subscriptions id with
    | none =>
      unfold Db.unentitled at hwas
      rw [hs] at hwas
      exact hwas rfl
    | some s =>
      rw [unentitled_of_row hs] at hwas
      refine hn.subscriptions id s s' hs (fun hmem => hwas ?_) hs' hactive
      rw [if_pos hmem]
  · obtain ⟨status, hstatus⟩ := Option.ne_none_iff_exists'.1 hwas
    obtain ⟨hbefore, hmem⟩ := Option.filter_eq_some_iff.1 hstatus
    have hmem := of_decide_eq_true hmem
    rw [waiting_of_status (hn.tenant status hmem hbefore), if_pos hmem] at hnow
    cases hnow

theorem unentitled_congr {db db' : Db} (h : db'.subscriptions = db.subscriptions) (id : Nat) :
    db'.unentitled id = db.unentitled id := by
  unfold Db.unentitled
  rw [h]

theorem waiting_congr {db db' : Db} {t : Nat} (h : db'.tenantStatus t = db.tenantStatus t) :
    db'.waiting t = db.waiting t := by
  unfold Db.waiting
  rw [h]

theorem Db.Unrestored.congr {db db' : Db} (h : before.Unrestored tenantId db)
    (hsubscriptions : db'.subscriptions = db.subscriptions)
    (hstatus : db'.tenantStatus tenantId = db.tenantStatus tenantId) : before.Unrestored tenantId db' := by
  refine ⟨?_, fun id => ?_, ?_⟩
  · rw [hsubscriptions]
    exact h.ids
  · rw [unentitled_congr hsubscriptions]
    exact h.subscriptions id
  · rw [waiting_congr hstatus]
    exact h.tenant

theorem Db.Restored.congr {db db' : Db} (h : before.Restored tenantId db)
    (hsubscriptions : db'.subscriptions = db.subscriptions)
    (hstatus : db'.tenantStatus tenantId = db.tenantStatus tenantId) : before.Restored tenantId db' := by
  unfold Db.Restored
  rw [hsubscriptions, waiting_congr hstatus]
  exact h

theorem steady_unrestored (before : Db) (tenantId : Nat) : Steady (before.Unrestored tenantId) where
  core _ _ hcore h := h.congr (Db.subscriptions_of_core hcore) (Db.tenantStatus_congr (Db.tenants_of_core hcore) _)
  flush now saved work h := h.congr rfl (Db.tenantStatus_flush now saved work _)

theorem steady_restored (before : Db) (tenantId : Nat) : Steady (before.Restored tenantId) where
  core _ _ hcore h := h.congr (Db.subscriptions_of_core hcore) (Db.tenantStatus_congr (Db.tenants_of_core hcore) _)
  flush now saved work h := h.congr rfl (Db.tenantStatus_flush now saved work _)

/-! ### One invoice -/

/-- The subscription a repair is made of is a row. -/
theorem paidRepair_subscription {tenantId invoiceId : Nat} {now : Time} {client : PlatformErpClient} {db : Db}
    {tenant : Tenant} {s : Subscription} {runtimeExists : Bool} (hids : (db.subscriptions.map Subscription.id).Nodup)
    (h : paidRepair tenantId invoiceId now client db = some (tenant, s, runtimeExists)) :
    get? db.subscriptions s.id = some s := by
  unfold paidRepair at h
  split at h
  · split at h
    · rename_i updated db₁ hresync
      obtain ⟨accounts, invoices, rfl⟩ := resyncOneInvoice_frame hresync
      split at h
      · split at h
        · rename_i s' hs'
          split at h
          · cases h
          · cases h
            unfold subscriptionOfInvoice at hs'
            rcases Option.or_eq_some_iff.1 hs' with hnamed | ⟨-, hnamed⟩
            · obtain ⟨id, -, hget⟩ := Option.bind_eq_some_iff.1 hnamed
              replace hget : get? db.subscriptions id = some s := hget
              rw [show s.id = id from key_of_get? hget]
              exact hget
            · exact get?_of_mem hids (List.mem_of_find?_eq_some hnamed)
        · cases h
      · cases h
    · cases h
  · cases h

section

variable {invoiceId : Nat} {now : Time} {client : PlatformErpClient} {db db' : Db}
  {r : InvoiceReconciliationResult × Option String}

/-- A reconciliation that makes no repair, or one of a subscription and a tenant in good standing, restores nothing. -/
theorem Db.Unrestored.reconcile (h : before.Unrestored tenantId db)
    (hr : reconcileInvoice tenantId invoiceId now client db = .ok (r, db'))
    (hnot : ∀ tenant s runtimeExists, paidRepair tenantId invoiceId now client db = some (tenant, s, runtimeExists) →
      s.status ∈ paidSubscriptionStatuses ∧ tenant.status ∉ [TenantStatus.pendingPayment, .suspendedBilling]) :
    before.Unrestored tenantId db' := by
  obtain ⟨result, email⟩ := r
  have heffect := reconcileInvoice_ok hr
  cases hrepair : paidRepair tenantId invoiceId now client db with
  | none =>
    rw [hrepair] at heffect
    obtain ⟨-, htenants, hsubscriptions, -⟩ := heffect
    exact h.congr hsubscriptions (Db.tenantStatus_congr htenants _)
  | some repair =>
    obtain ⟨tenant, s, runtimeExists⟩ := repair
    rw [hrepair] at heffect
    obtain ⟨hmoved, ⟨activated, hsubscriptions, hid, hactive⟩, -⟩ := heffect
    obtain ⟨hpaid, hfree⟩ := hnot tenant s runtimeExists hrepair
    have hrow := paidRepair_subscription h.ids hrepair
    have htenant := paidRepair_tenant hrepair
    rw [Db.tenant?_id htenant] at hmoved
    refine ⟨?_, fun id => ?_, ?_⟩
    · rw [hsubscriptions]
      exact (map_key_put db.subscriptions activated).symm ▸ h.ids
    · rw [← h.subscriptions id]
      by_cases hkey : id = activated.id
      · have hnew : get? db'.subscriptions id = some activated := by
          rw [hsubscriptions, hkey]
          exact get?_put_self (show get? db.subscriptions activated.id = some s by rw [hid, hrow])
        rw [← hid, ← hkey] at hrow
        rw [unentitled_of_row hnew, unentitled_of_row hrow, if_pos hpaid, hactive]
        rfl
      · unfold Db.unentitled
        rw [hsubscriptions, get?_put_of_ne _ hkey]
    · have hnew : db'.tenantStatus tenantId = some (repairStatus tenant.status runtimeExists) := by
        rw [hmoved.tenantStatus, if_pos rfl, Db.tenantStatus_of_tenant? htenant]
        rfl
      rw [← h.tenant, waiting_of_status hnew, waiting_of_status (Db.tenantStatus_of_tenant? htenant), if_neg hfree,
        if_neg (repairStatus_not_held _ _)]

/-- Any other repair restores something. -/
theorem Db.Unrestored.restore (h : before.Unrestored tenantId db)
    (hr : reconcileInvoice tenantId invoiceId now client db = .ok (r, db')) {tenant : Tenant} {s : Subscription}
    {runtimeExists : Bool} (hrepair : paidRepair tenantId invoiceId now client db = some (tenant, s, runtimeExists))
    (hnot : s.status ∉ paidSubscriptionStatuses ∨ tenant.status ∈ [TenantStatus.pendingPayment, .suspendedBilling]) :
    before.Restored tenantId db' := by
  obtain ⟨result, email⟩ := r
  have heffect := reconcileInvoice_ok hr
  rw [hrepair] at heffect
  obtain ⟨hmoved, ⟨activated, hsubscriptions, hid, hactive⟩, -⟩ := heffect
  have hrow := paidRepair_subscription h.ids hrepair
  have htenant := paidRepair_tenant hrepair
  rw [Db.tenant?_id htenant] at hmoved
  rcases hnot with hsub | hwaits
  · refine Or.inl ⟨s.id, activated, ?_, ?_, hactive⟩
    · rw [← h.subscriptions, unentitled_of_row hrow, if_neg hsub]
      exact Option.some_ne_none _
    · rw [hsubscriptions, ← hid]
      exact get?_put_self (show get? db.subscriptions activated.id = some s by rw [hid, hrow])
  · refine Or.inr ⟨?_, ?_⟩
    · rw [← h.tenant, waiting_of_status (Db.tenantStatus_of_tenant? htenant), if_pos hwaits]
      exact Option.some_ne_none _
    · have hnew : db'.tenantStatus tenantId = some (repairStatus tenant.status runtimeExists) := by
        rw [hmoved.tenantStatus, if_pos rfl, Db.tenantStatus_of_tenant? htenant]
        rfl
      rw [waiting_of_status hnew, if_neg (repairStatus_not_held _ _)]

/-- What is restored stays restored. -/
theorem Db.Restored.reconcile (h : before.Restored tenantId db)
    (hr : reconcileInvoice tenantId invoiceId now client db = .ok (r, db')) : before.Restored tenantId db' := by
  obtain ⟨result, email⟩ := r
  have heffect := reconcileInvoice_ok hr
  cases hrepair : paidRepair tenantId invoiceId now client db with
  | none =>
    rw [hrepair] at heffect
    obtain ⟨-, htenants, hsubscriptions, -⟩ := heffect
    exact h.congr hsubscriptions (Db.tenantStatus_congr htenants _)
  | some repair =>
    obtain ⟨tenant, s, runtimeExists⟩ := repair
    rw [hrepair] at heffect
    obtain ⟨hmoved, ⟨activated, hsubscriptions, hid, hactive⟩, -⟩ := heffect
    have htenant := paidRepair_tenant hrepair
    rw [Db.tenant?_id htenant] at hmoved
    rcases h with ⟨id, s', hwas, hs', hactive'⟩ | ⟨hwas, hnow⟩
    · by_cases hkey : id = activated.id
      · refine Or.inl ⟨id, activated, hwas, ?_, hactive⟩
        rw [hsubscriptions, hkey]
        exact get?_put_self (show get? db.subscriptions activated.id = some s' by rw [← hkey, hs'])
      · refine Or.inl ⟨id, s', hwas, ?_, hactive'⟩
        rw [hsubscriptions, get?_put_of_ne _ hkey, hs']
    · have hnew : db'.tenantStatus tenantId = some (repairStatus tenant.status runtimeExists) := by
        rw [hmoved.tenantStatus, if_pos rfl, Db.tenantStatus_of_tenant? htenant]
        rfl
      exact Or.inr ⟨hwas, by rw [waiting_of_status hnew, if_neg (repairStatus_not_held _ _)]⟩

end

/-! ### The loop -/

section

variable {env : Env}

/-- A visit keeps what its reconciliation of the invoice keeps. -/
theorem onRows_reconcileInvoiceSettlement {K : Db → Prop} (hK : Steady K) {tenantId invoiceId : Nat} {s : DbSession}
    (hs : OnRows K s) (h : ∀ r db, reconcileInvoice tenantId invoiceId (env.clock s.tick) (env.erp s.tick) s.work =
      .ok (r, db) → K db) : OnRows K (reconcileInvoiceSettlement env tenantId invoiceId s).2 := by
  have hbooks : Frame (fun _ => True) K fun _ => True :=
    ⟨hK.core, fun now saved work _ hw => hK.flush now saved work hw, fun _ _ _ _ => trivial⟩
  unfold reconcileInvoiceSettlement
  rw [change_bind]
  cases hr : reconcileInvoice tenantId invoiceId (env.clock s.tick) (env.erp s.tick) s.work with
  | error e => exact hs
  | ok r =>
    obtain ⟨⟨result, email⟩, db⟩ := r
    have hs' : OnRows K { s with work := db } := ⟨h _ _ hr, hs.2⟩
    cases email with
    | none => exact (Keeps.bind (Bookkeeping.commit env _ _ hbooks) fun _ => Keeps.pure _).apply hs'
    | some address =>
      exact (Keeps.bind (Bookkeeping.enqueueProvisioningForPaidTenant env tenantId address (fun _ => trivial) _ _ hbooks)
        fun _ => Keeps.pure _).apply hs'

/-- A visit that returned has reconciled its invoice, and the session is left with what came of it. -/
theorem reconcileInvoiceSettlement_ok {tenantId invoiceId : Nat} {s s' : DbSession} {outcome : InvoiceReconciliationResult}
    (h : reconcileInvoiceSettlement env tenantId invoiceId s = (.ok outcome, s')) :
    ∃ r db, reconcileInvoice tenantId invoiceId (env.clock s.tick) (env.erp s.tick) s.work = .ok (r, db) ∧
      ∀ K, Steady K → K db → K s'.work := by
  unfold reconcileInvoiceSettlement at h
  rw [change_bind] at h
  cases hr : reconcileInvoice tenantId invoiceId (env.clock s.tick) (env.erp s.tick) s.work with
  | error e =>
    rw [hr] at h
    cases h
  | ok r =>
    obtain ⟨⟨result, email⟩, db⟩ := r
    rw [hr] at h
    refine ⟨_, db, rfl, fun K hK hdb => ?_⟩
    cases email with
    | none => exact (KeepsWork.bind (hK.commit env) fun _ => KeepsWork.pure _).of_ok hdb h
    | some address =>
      exact (KeepsWork.bind (hK.enqueueProvisioning env tenantId address) fun _ => KeepsWork.pure _).of_ok hdb h

theorem restoresEntitlement_false {v : Nat × DbSession} (h : restoresEntitlement env tenantId v = false)
    (tenant : Tenant) (s : Subscription) (runtimeExists : Bool)
    (hrepair : visitRepair env tenantId v = some (tenant, s, runtimeExists)) :
    s.status ∈ paidSubscriptionStatuses ∧ tenant.status ∉ [TenantStatus.pendingPayment, .suspendedBilling] := by
  unfold restoresEntitlement at h
  rw [hrepair, Option.any_some] at h
  have hnot := of_decide_eq_false h
  exact ⟨not_not.1 fun hs => hnot (Or.inl hs), fun hs => hnot (Or.inr hs)⟩

theorem unrestored_reconcileInvoices {ids : List Nat} {s : DbSession} (hs : OnRows (before.Unrestored tenantId) s)
    (h : ∀ v ∈ visits (reconcileInvoiceSettlement env tenantId) ids s, restoresEntitlement env tenantId v = false)
    (summary : TenantBillingReconciliationResult) :
    OnRows (before.Unrestored tenantId) (reconcileInvoices env tenantId ids summary s).2 := by
  induction ids generalizing s summary with
  | nil => exact hs
  | cons id ids ih =>
    have hnot := restoresEntitlement_false (h (id, s) (List.mem_cons_self ..))
    have hhead : OnRows (before.Unrestored tenantId) (reconcileInvoiceSettlement env tenantId id s).2 :=
      onRows_reconcileInvoiceSettlement (steady_unrestored before tenantId) hs fun r db hr => hs.1.reconcile hr hnot
    unfold reconcileInvoices
    rw [bind_apply]
    cases hr : reconcileInvoiceSettlement env tenantId id s with
    | mk r s' =>
      rw [hr] at hhead
      cases r with
      | error e => exact hhead
      | ok outcome =>
        refine ih hhead (fun v hv => h v ?_) _
        rw [visits, hr]
        exact List.mem_cons_of_mem _ hv

theorem restored_reconcileInvoices {ids : List Nat} {s s' : DbSession} {summary summary' : TenantBillingReconciliationResult}
    (h : reconcileInvoices env tenantId ids summary s = (.ok summary', s')) (hs : before.Restored tenantId s.work) :
    before.Restored tenantId s'.work := by
  induction ids generalizing s summary with
  | nil =>
    cases h
    exact hs
  | cons id ids ih =>
    unfold reconcileInvoices at h
    obtain ⟨outcome, s₁, hvisit, hrest⟩ := of_bind_ok (b := summary') (by rw [h])
    rw [bind_ok hvisit] at h
    obtain ⟨r, db, hr, hkeep⟩ := reconcileInvoiceSettlement_ok hvisit
    exact ih h (hkeep _ (steady_restored before tenantId) (hs.reconcile hr))

/-- A loop that returned and came to a visit that restores entitlement has restored something. -/
theorem restores_reconcileInvoices {ids : List Nat} {s s' : DbSession} {summary summary' : TenantBillingReconciliationResult}
    (h : reconcileInvoices env tenantId ids summary s = (.ok summary', s')) (hs : before.Unrestored tenantId s.work)
    (hvisit : ∃ v ∈ visits (reconcileInvoiceSettlement env tenantId) ids s, restoresEntitlement env tenantId v = true) :
    before.Restored tenantId s'.work := by
  induction ids generalizing s summary with
  | nil =>
    obtain ⟨v, hv, -⟩ := hvisit
    cases hv
  | cons id ids ih =>
    unfold reconcileInvoices at h
    obtain ⟨outcome, s₁, hhead, -⟩ := of_bind_ok (b := summary') (by rw [h])
    rw [bind_ok hhead] at h
    obtain ⟨r, db, hr, hkeep⟩ := reconcileInvoiceSettlement_ok hhead
    cases hfirst : restoresEntitlement env tenantId (id, s) with
    | true =>
      unfold restoresEntitlement at hfirst
      obtain ⟨⟨tenant, subscription, runtimeExists⟩, hrepair, hnot⟩ := (Option.any_eq_true _ _).1 hfirst
      exact restored_reconcileInvoices h
        (hkeep _ (steady_restored before tenantId) (hs.restore hr hrepair (of_decide_eq_true hnot)))
    | false =>
      have hnext : before.Unrestored tenantId s₁.work :=
        hkeep _ (steady_unrestored before tenantId) (hs.reconcile hr (restoresEntitlement_false hfirst))
      refine ih h hnext ?_
      obtain ⟨v, hv, hrestores⟩ := hvisit
      rw [visits, hhead] at hv
      rcases List.mem_cons.1 hv with rfl | hv
      · rw [hfirst] at hrestores
        cases hrestores
      · exact ⟨v, hv, hrestores⟩

end

/-! ### The reconciliation of a tenant -/

/-- After the sync nothing is restored yet, and the loop starts. -/
theorem reconcileTenantBilling_cases (env : Env) (tenantId : Nat) (invoiceId : Option Nat) (db : Db) (queue : List Task)
    (hids : (db.subscriptions.map Subscription.id).Nodup) :
    (∃ e s, reconcileTenantBilling env tenantId invoiceId (opened db queue) = (.error e, s) ∧
        OnRows (db.Unrestored tenantId) s ∧ reconciliationVisits env tenantId invoiceId (opened db queue) = []) ∨
      ∃ ids summary s, OnRows (db.Unrestored tenantId) s ∧
        reconcileTenantBilling env tenantId invoiceId (opened db queue) = reconcileInvoices env tenantId ids summary s ∧
        reconciliationVisits env tenantId invoiceId (opened db queue) =
          visits (reconcileInvoiceSettlement env tenantId) ids s := by
  have hbefore : db.Unrestored tenantId db := ⟨hids, fun _ => rfl, rfl⟩
  unfold reconcileTenantBilling reconciliationVisits
  rw [change_bind, change_apply]
  cases hr : syncForTenant tenantId 50 (env.clock 0) (env.erp 0) db with
  | error e =>
    replace hr : syncForTenant tenantId 50 (env.clock (opened db queue).tick) (env.erp (opened db queue).tick)
      (opened db queue).work = .error e := hr
    rw [hr]
    exact Or.inl ⟨e, _, rfl, ⟨hbefore, hbefore, trivial⟩, rfl⟩
  | ok r =>
    obtain ⟨⟨⟩, db'⟩ := r
    obtain ⟨accounts, invoices, rfl⟩ := syncForTenant_frame hr
    replace hr : syncForTenant tenantId 50 (env.clock (opened db queue).tick) (env.erp (opened db queue).tick)
      (opened db queue).work = .ok ((), { db with accounts := accounts, invoices := invoices }) := hr
    rw [hr]
    exact Or.inr ⟨_, _, _, ⟨hbefore.congr rfl rfl, hbefore, trivial⟩, rfl, rfl⟩

/-- A reconciliation restores nothing when its latest invoice is not settled and each repair it makes is of a subscription
and a tenant in good standing; when it returns, only then. -/
theorem restores_nothing_iff {env : Env} {tenantId : Nat} {invoiceId : Option Nat} {db : Db} {queue : List Task}
    (hids : (db.subscriptions.map Subscription.id).Nodup) :
    (OnlyInGoodStanding env tenantId invoiceId db queue → RestoresNothing env tenantId invoiceId db queue) ∧
      ∀ summary, (reconcileTenantBilling env tenantId invoiceId (opened db queue)).1 = .ok summary →
        RestoresNothing env tenantId invoiceId db queue → OnlyInGoodStanding env tenantId invoiceId db queue := by
  unfold OnlyInGoodStanding RestoresNothing
  dsimp only
  rcases reconcileTenantBilling_cases env tenantId invoiceId db queue hids with
    ⟨e, s, heq, hs, hvisits⟩ | ⟨ids, summary, s, hs, heq, hvisits⟩
  · rw [heq, hvisits]
    exact ⟨fun _ _ => ⟨hs.1.nothingRestored, hs.2.1.nothingRestored⟩, fun _ h => by cases h⟩
  · rw [heq, hvisits]
    constructor
    · intro hstanding hlatest
      have h := unrestored_reconcileInvoices hs (hstanding hlatest) summary
      exact ⟨h.1.nothingRestored, h.2.1.nothingRestored⟩
    · intro summary' hreturned hnothing hlatest v hv
      cases hloop : reconcileInvoices env tenantId ids summary s with
      | mk r s' =>
        rw [hloop] at hreturned hnothing
        replace hreturned : r = .ok summary' := hreturned
        rw [hreturned] at hloop
        cases hrestores : restoresEntitlement env tenantId v with
        | false => rfl
        | true =>
          exact absurd (hnothing hlatest).1 (restores_reconcileInvoices hloop hs.1 ⟨v, hv, hrestores⟩).not_nothingRestored

/-! ### Two invoices -/

/-- An item of the ERP that is paid and was due at an instant. -/
def Small.paidItem (reference : String) (due : Time) : ErpItem :=
  { ErpItem.empty with
    name := some reference, status := some "Paid", grandTotal := .number false 50 0, dueDate := .at due }

/-- An environment whose ERP has an old invoice as paid and a new one as open. -/
def Small.twoInvoices : Env :=
  let old := paidItem "INV-1" 10
  let new := { openItem with name := some "INV-2", dueDate := .at 20 }
  { env with erp := fun _ => { erp with
      isConfigured := true
      listInvoices := fun _ _ => .ok [old, new]
      getInvoice := fun reference => .ok (if reference = "INV-1" then old else new) } }

/-- A tenant whose last payment has failed: its subscription is past due, and it waits for a payment. -/
def Small.pastDue : World :=
  Runs.run step Small.linked (Small.events [Small.webhook .paymentFailed "failed"])

set_option maxRecDepth 100000 in
/-- The old paid invoice makes the subscription active and takes the tenant out of `pending_payment`, though the latest
invoice is open. -/
theorem old_invoice_restores : ¬RestoresNothing Small.twoInvoices 1 none Small.pastDue.db [] := by
  intro h
  have hafter := (h (by decide +kernel)).1.tenant .pendingPayment (by decide) (by decide +kernel)
  revert hafter
  decide +kernel

/-- A tenant that has paid. -/
def Small.paying : World :=
  Runs.run step Small.linked (Small.events [Small.webhook .paymentConfirmed "paid"])

set_option maxRecDepth 100000 in
/-- A tenant in good standing gains nothing from the old invoice. -/
theorem old_invoice_of_paying : RestoresNothing Small.twoInvoices 1 none Small.paying.db [] :=
  (restores_nothing_iff (by decide +kernel)).1 (by unfold OnlyInGoodStanding; decide +kernel)

end ControlPlane
