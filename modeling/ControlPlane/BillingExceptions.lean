import ControlPlane.Base.UniqueRows
import ControlPlane.Billing.Recording
import ControlPlane.Entitlement
import ControlPlane.LedgerInvariant
import ControlPlane.Permits

/-!
# Billing exceptions

An exception's scope is its tenant, its invoice and attempt, and its type.  Only a reconciliation writes exceptions: it
opens one where the scope has none open, and resolves those a settled invoice puts an end to.  So no two of one scope are
ever open, none is lost and none is reopened, whatever happens between the reconciliations.
-/

namespace ControlPlane

open Table Session Session.Proc

/-- What an exception is about. -/
def BillingException.scope (e : BillingException) : Nat × Option Nat × Option Nat × String :=
  (e.tenantId, e.billingInvoiceId, e.paymentAttemptId, e.exceptionType)

/-- No two open exceptions have one scope. -/
abbrev ExceptionsUnique (rows : List BillingException) : Prop :=
  UniqueLive BillingException.isOpen BillingException.scope rows

/-- No exception is lost, and none that is resolved changes. -/
abbrev ExceptionsKept (rows rows' : List BillingException) : Prop :=
  KeepsHistory BillingException.isOpen BillingException.scope rows rows'

/-- What may have become of the exceptions `rows`. -/
structure ExceptionsSince (rows rows' : List BillingException) : Prop where
  unique : ExceptionsUnique rows'
  kept : ExceptionsKept rows rows'

/-- No exception is open that the settlement of the invoice resolves. -/
def NoneToResolve (tenantId invoiceId : Nat) (rows : List BillingException) : Prop :=
  ∀ e ∈ rows, resolvesWith tenantId invoiceId e = false

theorem ExceptionsSince.trans {rows rows' rows'' : List BillingException} (h : ExceptionsSince rows rows')
    (h' : ExceptionsSince rows' rows'') : ExceptionsSince rows rows'' := ⟨h'.unique, h.kept.trans h'.kept⟩

/-! ### Opening and resolving -/

section

variable {db db' : Db} {tenant : Tenant} {subscription : Option Subscription} {invoice : BillingInvoice}
  {attempt : Option PaymentAttempt} {exceptionType reason : String} {now : Time} {count : Nat}

/-- Opening an exception writes over the one of its scope that is open, or inserts one into a scope that has none. -/
theorem openBillingException_exceptions
    (h : openBillingException db tenant subscription invoice attempt exceptionType reason now = (count, db'))
    (hunique : ExceptionsUnique db.exceptions) : ExceptionsSince db.exceptions db'.exceptions := by
  unfold openBillingException at h
  dsimp only at h
  split at h
  · rename_i existing hexisting
    obtain ⟨hmem, hopen⟩ := List.mem_filter.1 (mem_of_latestBy hexisting)
    cases h
    exact ⟨hunique.put hmem rfl rfl rfl, .put hunique.keys hmem rfl (of_decide_eq_true hopen).2.2.2.2 rfl⟩
  · rename_i hnone
    cases h
    refine ⟨hunique.insert rfl fun e hmem hopen hscope => ?_, .insert _ _⟩
    have hscope := Prod.mk.inj hscope
    have hinvoice := Prod.mk.inj hscope.2
    have hattempt := Prod.mk.inj hinvoice.2
    have hfound : e ∈ db.exceptions.filter fun e => e.tenantId = tenant.id ∧ e.billingInvoiceId = some invoice.id ∧
        e.paymentAttemptId = attempt.map PaymentAttempt.id ∧ e.exceptionType = exceptionType ∧ e.isOpen :=
      List.mem_filter.2 ⟨hmem, decide_eq_true ⟨hscope.1, hinvoice.1, hattempt.1, hattempt.2, hopen⟩⟩
    rw [latestBy_eq_none.1 hnone] at hfound
    cases hfound

theorem openBillingException_rows
    (h : openBillingException db tenant subscription invoice attempt exceptionType reason now = (count, db')) :
    ∀ e ∈ db'.exceptions, e ∈ db.exceptions ∨ e.exceptionType = exceptionType := by
  unfold openBillingException at h
  dsimp only at h
  split at h
  · rename_i existing hexisting
    have hopen := of_decide_eq_true (List.mem_filter.1 (mem_of_latestBy hexisting)).2
    cases h
    intro e he
    rcases mem_put he with rfl | he
    · exact Or.inr hopen.2.2.2.1
    · exact Or.inl he
  · cases h
    intro e he
    rcases mem_insert.1 he with he | rfl
    · exact Or.inl he
    · exact Or.inr rfl

theorem resolveBillingExceptions_exceptions {tenantId invoiceId : Nat}
    (h : resolveBillingExceptions db tenantId invoiceId now = (count, db')) (hunique : ExceptionsUnique db.exceptions) :
    ExceptionsSince db.exceptions db'.exceptions := by
  unfold resolveBillingExceptions at h
  cases h
  refine ⟨hunique.map (fun e _ => ?_) (fun e _ => ?_), .map (fun e _ => ?_) (fun e _ => ?_) (fun e _ hended => ?_)⟩
  · split <;> rfl
  · split
    · exact fun hopen => by cases hopen
    · exact fun hopen => ⟨hopen, rfl⟩
  · split <;> rfl
  · split <;> rfl
  · refine if_neg fun hresolves => ?_
    rw [(of_decide_eq_true hresolves).2.2.2] at hended
    cases hended

/-- Resolving leaves no exception open that it is to resolve. -/
theorem resolveBillingExceptions_none {tenantId invoiceId : Nat}
    (h : resolveBillingExceptions db tenantId invoiceId now = (count, db')) :
    NoneToResolve tenantId invoiceId db'.exceptions := by
  unfold resolveBillingExceptions at h
  cases h
  intro e he
  obtain ⟨row, -, rfl⟩ := List.mem_map.1 he
  split
  · exact decide_eq_false fun hopen => by cases hopen.2.2.2
  · rename_i hnot
    exact eq_false_of_ne_true hnot

end

/-! ### A reconciliation -/

theorem reconcileSettledInvoice_exceptions {client : PlatformErpClient} {db db' : Db} {tenant : Tenant}
    {subscription : Option Subscription} {invoice : BillingInvoice} {attempt : Option PaymentAttempt}
    {result result' : InvoiceReconciliationResult} {now : Time} {email : Option String}
    (h : reconcileSettledInvoice client db tenant subscription invoice attempt result now =
      .ok ((result', email), db')) :
    (ExceptionsUnique db.exceptions → ExceptionsSince db.exceptions db'.exceptions) ∧
      NoneToResolve tenant.id invoice.id db'.exceptions ∧ result'.invoiceId = result.invoiceId := by
  obtain ⟨paid, updated, resolved, db₁, db₂, hpay, hresolve, hinvoiceId, hcases⟩ := reconcileSettledInvoice_parts rfl h
  obtain ⟨attempts, rfl⟩ := payAttemptFromErp_frame hpay
  have hsince := resolveBillingExceptions_exceptions hresolve
  have hnone := resolveBillingExceptions_none hresolve
  rcases hcases with ⟨-, -, opened, db₃, hopen, rfl⟩ | ⟨s, activated, outcome, -, -, -, -, -, rfl⟩
  · have hopened := openBillingException_exceptions hopen
    refine ⟨fun hunique => (hsince hunique).trans (hopened (hsince hunique).unique), fun e he => ?_, hinvoiceId⟩
    -- the review asked for is of none of the types that a settlement resolves
    rcases openBillingException_rows hopen e he with he | htype
    · exact hnone e he
    · refine decide_eq_false fun hresolves => ?_
      have hmem := hresolves.2.2.1
      rw [htype] at hmem
      revert hmem
      decide
  · exact ⟨hsince, hnone, hinvoiceId⟩

theorem reconcileUnsettledInvoice_exceptions {db db' : Db} {tenant : Tenant} {subscription : Option Subscription}
    {invoice : BillingInvoice} {attempt : Option PaymentAttempt} {result result' : InvoiceReconciliationResult}
    {now : Time} {email : Option String}
    (h : reconcileUnsettledInvoice db tenant subscription invoice attempt result now = ((result', email), db')) :
    (ExceptionsUnique db.exceptions → ExceptionsSince db.exceptions db'.exceptions) ∧
      result'.settled = result.settled := by
  unfold reconcileUnsettledInvoice at h
  split at h
  · split at h
    · dsimp only at h
      generalize hopen : openBillingException _ tenant subscription invoice _ "erp_mismatch" _ now = p at h
      obtain ⟨opened, db₁⟩ := p
      have hopened := openBillingException_exceptions hopen
      cases h
      exact ⟨hopened, rfl⟩
    · cases h
      exact ⟨fun hunique => ⟨hunique, .refl _⟩, rfl⟩
  · cases h
    exact ⟨fun hunique => ⟨hunique, .refl _⟩, rfl⟩

/-- A reconciliation keeps the exceptions unique and their history.  If it finds the invoice settled, it leaves none open
that it is to resolve. -/
theorem reconcileInvoice_exceptions {tenantId invoiceId : Nat} {now : Time} {client : PlatformErpClient} {db db' : Db}
    {r : InvoiceReconciliationResult × Option String}
    (h : reconcileInvoice tenantId invoiceId now client db = .ok (r, db')) :
    (ExceptionsUnique db.exceptions → ExceptionsSince db.exceptions db'.exceptions) ∧
      (r.1.settled = true → NoneToResolve tenantId r.1.invoiceId db'.exceptions) := by
  obtain ⟨result, email⟩ := r
  obtain ⟨tenant, htenant, h⟩ := bind_eq_ok.1 h
  obtain ⟨invoice, hinvoice, h⟩ := bind_eq_ok.1 h
  obtain ⟨⟨updated, db₁⟩, hresync, h⟩ := bind_eq_ok.1 h
  obtain ⟨accounts, invoices, rfl⟩ := resyncOneInvoice_frame hresync
  have hid : tenant.id = tenantId := Db.tenant?_id (requireTenant_ok htenant)
  dsimp only at h
  split at h
  · obtain ⟨hsince, hnone, hinvoiceId⟩ := reconcileSettledInvoice_exceptions h
    refine ⟨hsince, fun _ => ?_⟩
    rw [← hid, hinvoiceId]
    exact hnone
  · rename_i hunsettled
    obtain ⟨hsince, hsettled⟩ := reconcileUnsettledInvoice_exceptions (Except.ok.inj h)
    exact ⟨hsince, fun htrue => absurd (hsettled.symm.trans htrue) hunsettled⟩

/-! ### A visit -/

theorem commit_returned {env : Env} {s s' : DbSession} (h : commit env s = (.ok (), s')) : s'.saved = s'.work := by
  rw [commit_apply] at h
  split at h
  · cases h
  · cases h
    rfl

theorem enqueueJob_returned {env : Env} {job job' : Job} {task : Task} {s s' : DbSession}
    (h : enqueueJob env job task s = (.ok job', s')) : s'.saved = s'.work := by
  obtain ⟨rqJobId, s₁, -, h⟩ := of_bind_returned h
  obtain ⟨u, s₂, -, h⟩ := of_bind_returned h
  obtain ⟨u, s₃, hcommit, h⟩ := of_bind_returned h
  cases h
  exact commit_returned hcommit

/-- Putting on the queue a provisioning that is not under way commits. -/
theorem enqueueProvisioning_returned {env : Env} {tenantId : Nat} {ownerEmail : String} {s s' : DbSession}
    {r : Job × Bool} (h : enqueueProvisioningForPaidTenant env tenantId ownerEmail s = (.ok r, s'))
    (hmissing : provisioningMissing s.work tenantId = true) : s'.saved = s'.work := by
  unfold enqueueProvisioningForPaidTenant at h
  rw [bind_ok (read_apply s)] at h
  unfold provisioningMissing at hmissing
  cases hlive : liveCreateJob s.work tenantId with
  | none =>
    rw [hlive] at h
    obtain ⟨job, s₁, -, h⟩ := of_bind_returned h
    obtain ⟨job, s₂, hjob, h⟩ := of_bind_returned h
    cases h
    exact enqueueJob_returned hjob
  | some existing =>
    rw [hlive] at h hmissing
    dsimp only at h
    rw [if_pos (of_decide_eq_true hmissing)] at h
    obtain ⟨job, s₁, hjob, h⟩ := of_bind_returned h
    cases h
    exact enqueueJob_returned hjob

/-- The row in which the ERP's invoice is filed when a visit resyncs its invoice. -/
def resyncedInvoice (env : Env) (tenantId invoiceId : Nat) (s : DbSession) : Option BillingInvoice :=
  match s.work.tenant? tenantId, s.work.invoice? invoiceId with
  | some tenant, some invoice =>
    match resyncOneInvoice (env.erp s.tick) s.work tenant invoice (env.clock s.tick) with
    | .ok (updated, _) => some updated
    | .error _ => none
  | _, _ => none

/-- A visit's repair leaves its commit to an enqueueing that does not commit: the tenant is to be provisioned, it has an
owner, no runtime is found, and a create job of it is on the queue, running or done. -/
def leavesUncommitted (env : Env) (tenantId invoiceId : Nat) (s : DbSession) : Bool :=
  (visitRepair env tenantId (invoiceId, s)).any fun (tenant, _, runtimeExists) =>
    tenant.status ∈ [TenantStatus.pendingPayment, .pending, .failed, .suspendedBilling] ∧ ¬runtimeExists ∧
      (s.work.user? tenant.ownerId).isSome ∧ ¬provisioningMissing s.work tenantId

/-- The committed rows have an exception open that the visit is to resolve, and the visit leaves it so. -/
def LeftOpen (env : Env) (tenantId invoiceId : Nat) (s : DbSession) : Prop :=
  leavesUncommitted env tenantId invoiceId s = true ∧
    ∃ invoice ∈ resyncedInvoice env tenantId invoiceId s, ¬NoneToResolve tenantId invoice.id s.saved.exceptions

/-- If the visit finds its invoice settled and returns, no exception is open in the committed rows that it is to
resolve. -/
def SettledResolved (env : Env) (tenantId invoiceId : Nat) (s : DbSession) : Prop :=
  ∀ result s', reconcileInvoiceSettlement env tenantId invoiceId s = (.ok result, s') → result.settled = true →
    NoneToResolve tenantId result.invoiceId s'.saved.exceptions

instance (tenantId invoiceId : Nat) (rows : List BillingException) : Decidable (NoneToResolve tenantId invoiceId rows) :=
  inferInstanceAs (Decidable (∀ e ∈ rows, _))

instance (env : Env) (tenantId invoiceId : Nat) (s : DbSession) : Decidable (LeftOpen env tenantId invoiceId s) :=
  inferInstanceAs (Decidable (_ ∧ _))

/-- The invoice a visit finds settled is the row the ERP's invoice is filed in. -/
theorem reconcileInvoice_resynced {env : Env} {tenantId invoiceId : Nat} {s : DbSession}
    {r : InvoiceReconciliationResult × Option String} {db' : Db}
    (h : reconcileInvoice tenantId invoiceId (env.clock s.tick) (env.erp s.tick) s.work = .ok (r, db'))
    (hsettled : r.1.settled = true) :
    ∃ invoice, resyncedInvoice env tenantId invoiceId s = some invoice ∧ invoice.id = r.1.invoiceId := by
  obtain ⟨result, email⟩ := r
  obtain ⟨tenant, htenant, h⟩ := bind_eq_ok.1 h
  obtain ⟨invoice, hinvoice, h⟩ := bind_eq_ok.1 h
  obtain ⟨⟨updated, db₁⟩, hresync, h⟩ := bind_eq_ok.1 h
  refine ⟨updated, ?_, ?_⟩
  · unfold resyncedInvoice
    rw [requireTenant_ok htenant, requireInvoiceRow_ok hinvoice]
    dsimp only
    rw [hresync]
  · dsimp only at h
    split at h
    · exact (reconcileSettledInvoice_exceptions h).2.2.symm
    · rename_i hunsettled
      exact absurd ((reconcileUnsettledInvoice_exceptions (Except.ok.inj h)).2.symm.trans hsettled) hunsettled

/-- A visit that returns has reconciled its invoice.  What that changed is committed, unless a provisioning is asked for
that is under way: then the visit ends with it uncommitted. -/
theorem reconcileInvoiceSettlement_returned {env : Env} {tenantId invoiceId : Nat} {s s' : DbSession}
    {result : InvoiceReconciliationResult}
    (h : reconcileInvoiceSettlement env tenantId invoiceId s = (.ok result, s')) :
    ∃ visited email db,
      reconcileInvoice tenantId invoiceId (env.clock s.tick) (env.erp s.tick) s.work = .ok ((visited, email), db) ∧
        result.settled = visited.settled ∧ result.invoiceId = visited.invoiceId ∧
        if email ≠ none ∧ provisioningMissing s.work tenantId = false then s' = { s with work := db }
        else s'.saved.exceptions = db.exceptions := by
  unfold reconcileInvoiceSettlement at h
  obtain ⟨⟨visited, email⟩, s₁, hchange, h⟩ := of_bind_returned h
  rw [change_apply] at hchange
  cases hr : reconcileInvoice tenantId invoiceId (env.clock s.tick) (env.erp s.tick) s.work with
  | error error =>
    rw [hr] at hchange
    cases hchange
  | ok r =>
    obtain ⟨r, db⟩ := r
    rw [hr] at hchange
    cases hchange
    have hsteady : Steady fun rows => rows.exceptions = db.exceptions :=
      ⟨fun rows rows' hcore hrows => (Db.exceptions_of_core hcore).trans hrows, fun _ _ _ hrows => hrows⟩
    have hmissing : provisioningMissing db tenantId = provisioningMissing s.work tenantId :=
      provisioningMissing_congr (RepairEffect.jobs (reconcileInvoice_ok hr)) tenantId
    cases email with
    | none =>
      obtain ⟨u, s₂, hcommit, h⟩ := of_bind_returned h
      cases h
      have hend := hsteady.commit env { s with work := db } rfl
      rw [hcommit] at hend
      refine ⟨result, none, db, rfl, rfl, rfl, ?_⟩
      rw [if_neg fun hasked => hasked.1 rfl, commit_returned hcommit]
      exact hend
    | some address =>
      obtain ⟨⟨job, enqueued⟩, s₂, henqueue, h⟩ := of_bind_returned h
      cases h
      refine ⟨visited, some address, db, rfl, rfl, rfl, ?_⟩
      cases hunder : provisioningMissing s.work tenantId with
      | true =>
        have hend := hsteady.enqueueProvisioning env tenantId address { s with work := db } rfl
        rw [henqueue] at hend
        rw [if_neg fun hasked => Bool.noConfusion hasked.2, enqueueProvisioning_returned henqueue (hmissing.trans hunder)]
        exact hend
      | false =>
        obtain ⟨existing, heq⟩ := enqueueProvisioningForPaidTenant_of_not_missing env address
          (s := { s with work := db }) (hmissing.trans hunder)
        rw [heq] at henqueue
        cases henqueue
        rw [if_pos ⟨by simp, rfl⟩]

/-- Where a visit has a repair to make, it asks for a provisioning that is under way exactly when it leaves its changes
uncommitted. -/
theorem leavesUncommitted_iff {env : Env} {tenantId invoiceId : Nat} {s : DbSession}
    {r : InvoiceReconciliationResult × Option String} {db' : Db}
    (h : reconcileInvoice tenantId invoiceId (env.clock s.tick) (env.erp s.tick) s.work = .ok (r, db')) :
    leavesUncommitted env tenantId invoiceId s = true ↔ r.2 ≠ none ∧ provisioningMissing s.work tenantId = false := by
  obtain ⟨result, email⟩ := r
  unfold leavesUncommitted visitRepair
  cases hrepair : paidRepair tenantId invoiceId (env.clock s.tick) (env.erp s.tick) s.work with
  | none =>
    have heffect := reconcileInvoice_ok h
    rw [hrepair] at heffect
    simp [heffect.1]
  | some repair =>
    obtain ⟨tenant, subscription, runtimeExists⟩ := repair
    obtain ⟨result', email', db, heq, -, hemail⟩ := reconcileInvoice_repaired hrepair
    rw [heq] at h
    cases h
    rw [hemail, repairStatus_eq_pending]
    cases runtimeExists <;> simp [and_assoc]

/-- A visit that finds its invoice settled leaves none of its exceptions open in the committed rows, unless it leaves its
changes uncommitted and there was one. -/
theorem settledResolved_iff (env : Env) (tenantId invoiceId : Nat) (s : DbSession) :
    SettledResolved env tenantId invoiceId s ↔ ¬LeftOpen env tenantId invoiceId s := by
  constructor
  · rintro hresolved ⟨huncommitted, invoice, hinvoice, hopen⟩
    obtain ⟨repair, hrepair, -⟩ := (Option.any_eq_true _ _).1 huncommitted
    obtain ⟨tenant, subscription, runtimeExists⟩ := repair
    obtain ⟨result, email, db, hr, hsettled, -⟩ := reconcileInvoice_repaired hrepair
    obtain ⟨hasked, hunder⟩ := (leavesUncommitted_iff hr).1 huncommitted
    obtain ⟨address, rfl⟩ := Option.ne_none_iff_exists'.1 hasked
    obtain ⟨row, hrow, hid⟩ := reconcileInvoice_resynced hr hsettled
    rw [hrow] at hinvoice
    cases hinvoice
    have hmissing : provisioningMissing db tenantId = provisioningMissing s.work tenantId :=
      provisioningMissing_congr (RepairEffect.jobs (reconcileInvoice_ok hr)) tenantId
    obtain ⟨existing, henqueue⟩ := enqueueProvisioningForPaidTenant_of_not_missing env address
      (s := { s with work := db }) (hmissing.trans hunder)
    have hreturned : reconcileInvoiceSettlement env tenantId invoiceId s =
        (.ok { result with provisioningRequeued := false }, { s with work := db }) := by
      unfold reconcileInvoiceSettlement
      rw [change_bind, hr]
      dsimp only
      rw [bind_ok henqueue]
      rfl
    rw [hid] at hopen
    exact hopen (hresolved { result with provisioningRequeued := false } { s with work := db } hreturned hsettled)
  · intro hleft result s' h hsettled
    obtain ⟨visited, email, db, hr, hvisited, hid, hrows⟩ := reconcileInvoiceSettlement_returned h
    obtain ⟨-, hnone⟩ := reconcileInvoice_exceptions hr
    rw [hid]
    rw [hvisited] at hsettled
    split at hrows
    · rename_i hasked
      obtain ⟨row, hrow, hrowId⟩ := reconcileInvoice_resynced hr hsettled
      subst hrows
      by_contra hopen
      exact hleft ⟨(leavesUncommitted_iff hr).2 hasked, row, hrow, hrowId ▸ hopen⟩
    · rw [hrows]
      exact hnone hsettled

/-! ### Runs -/

theorem invoiceIds_ledger (w : World) (e : Event) :
    LedgerInvariant (fun db => (db.invoices.map BillingInvoice.id).Nodup) w e where
  ids _ hids := hids
  same _ _ hsame _ hids := hsame.invoices ▸ hids
  customer _ _ _ hsame hids := hsame.invoices ▸ hids
  flush _ _ _ _ hids := hids
  resynced _ _ _ _ _ _ hids _ _ _ hresync := resyncOneInvoice_ids hresync hids
  settled db _ settled hids _ _ := (map_key_put db.invoices settled).symm ▸ hids
  marked _ _ _ hids _ _ := hids
  synced tick tenantId limit db u db' hids hr := by
    obtain ⟨tenant, -, hr⟩ := bind_eq_ok.1 hr
    obtain ⟨⟨rows, db₁⟩, hsync, hr⟩ := bind_eq_ok.1 hr
    cases hr
    exact syncPlatformInvoicesForTenant_ids hsync hids
  attempted hids invoiceId provider invoice tenant owner _ _ attemptId db' hr := by
    obtain ⟨updated, db₁, checkout, hresync, -, -, -, rfl⟩ := preparePaymentAttempt_ledger hr
    have hids₁ := resyncOneInvoice_ids hresync hids
    rw [(addPaymentAttempt_ledger db₁ tenant updated checkout _).invoices]
    exact hids₁

theorem preparePaymentAttempt_exceptions {gateway : PaymentGateway} {tenant : Tenant} {owner : User}
    {invoice : BillingInvoice} {provider : Option String} {now : Time} {client : PlatformErpClient} {db db' : Db}
    {attemptId : Nat}
    (h : preparePaymentAttempt gateway tenant owner invoice provider now client db = .ok (attemptId, db')) :
    db'.exceptions = db.exceptions := by
  obtain ⟨updated, db₁, checkout, hresync, -, -, -, rfl⟩ := preparePaymentAttempt_ledger h
  obtain ⟨accounts, invoices, rfl⟩ := resyncOneInvoice_frame hresync
  unfold addPaymentAttempt
  dsimp only
  split
  · rfl
  · rfl

/-- What a reconciliation keeps of the exceptions, every step keeps. -/
theorem Preserved.withExceptions {J : Db → Prop} {w : World} {e : Event} (h : Preserved J w e)
    {P : List BillingException → Prop} (hP : P w.db.exceptions)
    (hreconciled : ∀ tenantId invoiceId now client db r db',
      reconcileInvoice tenantId invoiceId now client db = .ok (r, db') → P db.exceptions → P db'.exceptions) :
    Preserved (fun db => J db ∧ P db.exceptions) w e where
  core db db' hcore hdb := ⟨h.core db db' hcore hdb.1, Db.exceptions_of_core hcore ▸ hdb.2⟩
  flush now saved work hsaved hwork := ⟨h.flush now saved work hsaved.1 hwork.1, hwork.2⟩
  escalated context tenant runtimeExists now db hdb hrow hdue :=
    ⟨h.escalated context tenant runtimeExists now db hdb.1 hrow hdue, hdb.2⟩
  moved db tenant moved hdb hrow hid hcustomer hstatus := ⟨h.moved db tenant moved hdb.1 hrow hid hcustomer hstatus, hdb.2⟩
  registered he db tenant moved hdb hrow hid hstatus := ⟨h.registered he db tenant moved hdb.1 hrow hid hstatus, hdb.2⟩
  created he owner subdomain companyName plan app now db r db' hdb hr := by
    refine ⟨h.created he owner subdomain companyName plan app now db r db' hdb.1 hr, ?_⟩
    obtain ⟨organizations, tenants, plans, subscriptions, rfl⟩ := prepareTenant_frame hr
    exact hdb.2
  joined db memberships hdb := ⟨h.joined db memberships hdb.1, hdb.2⟩
  checkedOut he owner tenantId plan app status ends db u db' hdb hr := by
    refine ⟨h.checkedOut he owner tenantId plan app status ends db u db' hdb.1 hr, ?_⟩
    obtain ⟨tenants, subscriptions, rfl⟩ := recordCheckout_frame hr
    exact hdb.2
  invoiceIds db hdb := h.invoiceIds db hdb.1
  renewed tenantId he u db' hr := by
    refine ⟨h.renewed tenantId he u db' hr, ?_⟩
    obtain ⟨tenants, plans, subscriptions, rfl⟩ := prepareRenewedCheckout_frame hr
    exact hP
  handled delivery event he hparsed tick db r db' hdb hr := by
    refine ⟨h.handled delivery event he hparsed tick db r db' hdb.1 hr, ?_⟩
    obtain ⟨tenants, plans, subscriptions, accounts, invoices, attempts, events, rfl⟩ := eventBody_frame hr
    exact hdb.2
  synced tick tenantId limit db u db' hdb hr := by
    refine ⟨h.synced tick tenantId limit db u db' hdb.1 hr, ?_⟩
    obtain ⟨accounts, invoices, rfl⟩ := syncForTenant_frame hr
    exact hdb.2
  attempted invoiceId provider invoice tenant owner he hrow attemptId db' hr :=
    ⟨h.attempted invoiceId provider invoice tenant owner he hrow attemptId db' hr,
      preparePaymentAttempt_exceptions hr ▸ hP⟩
  reconciled tick tenantId invoiceId db r db' hdb hbelong hr :=
    ⟨h.reconciled tick tenantId invoiceId db r db' hdb.1 hbelong hr,
      hreconciled tenantId invoiceId _ _ db r db' hr hdb.2⟩
  expired subscriptionId now db r db' hdb hr := by
    refine ⟨h.expired subscriptionId now db r db' hdb.1 hr, ?_⟩
    obtain ⟨tenants, subscriptions, rfl⟩ := expireTrial_frame hr
    exact hdb.2

theorem step_exceptions {w : World} (e : Event) (hids : (w.db.invoices.map BillingInvoice.id).Nodup)
    (hunique : ExceptionsUnique w.db.exceptions) :
    ((step w e).db.invoices.map BillingInvoice.id).Nodup ∧ ExceptionsSince w.db.exceptions (step w e).db.exceptions := by
  have hstart : ExceptionsSince w.db.exceptions w.db.exceptions := ⟨hunique, .refl _⟩
  refine step_preserves (((invoiceIds_ledger w e).preserved hids).withExceptions hstart ?_) ⟨hids, hstart⟩
  intro tenantId invoiceId now client db r db' hr hdb
  exact hdb.trans ((reconcileInvoice_exceptions hr).1 hdb.unique)

theorem run_exceptions {w : World} (es : List Event) (hids : (w.db.invoices.map BillingInvoice.id).Nodup)
    (hunique : ExceptionsUnique w.db.exceptions) :
    ExceptionsSince w.db.exceptions (Runs.run step w es).db.exceptions := by
  induction es generalizing w with
  | nil => exact ⟨hunique, .refl _⟩
  | cons e es ih =>
    obtain ⟨hids', hstep⟩ := step_exceptions e hids hunique
    exact hstep.trans (ih hids' hstep.unique)

/-- Every visit of a step that finds its invoice settled has left none of its exceptions open in the committed rows. -/
def VisitsResolve (w : World) (e : Event) : Prop :=
  ∀ v ∈ reconciliations w e, SettledResolved e.env v.1 v.2.1 v.2.2

/-- No visit of a step leaves an exception open that it is to resolve. -/
def NoneLeftOpen (w : World) (e : Event) : Prop :=
  ∀ v ∈ reconciliations w e, ¬LeftOpen e.env v.1 v.2.1 v.2.2

instance (w : World) (e : Event) : Decidable (NoneLeftOpen w e) :=
  inferInstanceAs (Decidable (∀ v ∈ reconciliations w e, _))

theorem visitsResolve_iff (w : World) (e : Event) : VisitsResolve w e ↔ NoneLeftOpen w e :=
  forall₂_congr fun v _ => settledResolved_iff e.env v.1 v.2.1 v.2.2

/-- In every run no two exceptions of one scope are open, none is lost and none that was resolved changes.  The visits that
find their invoice settled leave none open in the committed rows, exactly when none of them comes, for an exception that
is open there, to a tenant whose provisioning is under way. -/
theorem exceptions_unique_and_kept {w : World} (es : List Event) (hids : (w.db.invoices.map BillingInvoice.id).Nodup)
    (hunique : ExceptionsUnique w.db.exceptions) :
    ExceptionsSince w.db.exceptions (Runs.run step w es).db.exceptions ∧
      (Runs.Steps step VisitsResolve w es ↔ Runs.Steps step NoneLeftOpen w es) :=
  ⟨run_exceptions es hids hunique,
    Runs.steps_congr (I := fun (_ : World) => True) (fun _ _ _ => trivial) (fun w e _ => visitsResolve_iff w e) trivial⟩

/-- A tenant whose invoice is paid by now, with an exception of it open and its provisioning on the queue, and a second
tenant, both of them customers of the ERP. -/
def Small.stalled : World :=
  ⟨{ Small.ledger .active [{ Small.invoice with invoiceStatus := .paid, amountDue := 0, amountPaid := 5000 }]
        [Small.tried .paid] with
      users := [⟨1, "owner@example.com", false, true⟩]
      tenants := [Small.tenantIn .pending,
        { Small.tenantIn .pendingPayment with id := 2, platformCustomerId := some "CUST-2", updatedAt := 2000 }]
      jobs := [⟨1, 1, .create, .queued, some 1, none, 1000, none, none⟩]
      exceptions := [⟨1, 1, some 1, none, some 1, some 1, "erp_mismatch", true, "", none, 1000⟩] },
    [.provisionTenant 1 1 "owner@example.com"], [], []⟩

/-- The ERP's item for the first invoice, of which all is paid. -/
def Small.settledItem : ErpItem :=
  { ErpItem.empty with
    name := some "INV-1", status := some "Paid", outstandingAmount := .number false 0 0
    grandTotal := .number false 50 0, paidAmount := .number false 50 0 }

/-- An ERP that has the first customer's invoice as paid, has no runtimes yet, and fails for the second customer. -/
def Small.halfErp : PlatformErpClient :=
  { Small.erp with
    isConfigured := true
    listInvoices := fun customerId _ =>
      if customerId = "CUST-1" then .ok [Small.settledItem] else .error (.erpError "502 Bad Gateway")
    getInvoice := fun _ => .ok Small.settledItem
    runtimeExists := fun _ => false }

/-- A reconciliation cycle: the first tenant's visit resolves the exception, without a commit, and the second tenant's
failure is rolled back. -/
def Small.stalls : List Event := [⟨{ Small.envAt 3 with erp := fun _ => Small.halfErp }, .reconciliationCycle⟩]

set_option maxRecDepth 100000 in
/-- The invoice was found settled, and its exception is open still when the cycle is over. -/
theorem exception_left_open :
    ¬Runs.Steps step VisitsResolve Small.stalled Small.stalls ∧
      ¬NoneToResolve 1 1 (Runs.run step Small.stalled Small.stalls).db.exceptions := by
  constructor
  · intro h
    have hsteps := Runs.Steps.mono (fun w e => (visitsResolve_iff w e).1) h
    revert hsteps
    decide +kernel
  · decide +kernel

/-- A tenant with a paid attempt for an invoice that is open. -/
def Small.mismatched : World :=
  ⟨{ Small.ledger .active [Small.invoice] [Small.tried .paid] with users := [⟨1, "owner@example.com", false, true⟩] },
    [], [], []⟩

/-- The mismatch is found, its payment is confirmed, and the invoice is found settled. -/
def Small.mismatches : List Event :=
  [⟨Small.envAt 1, .reconciliationCycle⟩, ⟨Small.envAt 2, Small.checkoutWebhook .paymentConfirmed 1 "a"⟩,
    ⟨Small.envAt 3, .reconciliationCycle⟩]

set_option maxRecDepth 100000 in
example : (Runs.run step Small.mismatched Small.mismatches).db.exceptions.map BillingException.isOpen = [false] := by
  decide +kernel

/-- The exception of a mismatch is kept, resolved, and the visit that resolved it committed that. -/
theorem mismatches_unique_and_kept :
    ExceptionsSince Small.mismatched.db.exceptions (Runs.run step Small.mismatched Small.mismatches).db.exceptions ∧
      (Runs.Steps step VisitsResolve Small.mismatched Small.mismatches ↔
        Runs.Steps step NoneLeftOpen Small.mismatched Small.mismatches) :=
  exceptions_unique_and_kept _ (by decide) .nil

end ControlPlane
