import ControlPlane.Billing.Delivery
import ControlPlane.Tenant.Writers

/-!
# Watching one tenant

A `Watch` is a property of one tenant's status together with a property of the queue.  The lemmas here say what each
program of the control plane needs so that a watch that holds of a session, of its own rows and of the committed ones,
still holds after it.
-/

namespace ControlPlane

open Table Session Session.Proc

/-- Whether a task provisions the tenant `t`. -/
def Task.provisions (task : Task) (t : Nat) : Bool :=
  match task with
  | .provisionTenant _ tenantId _ => tenantId = t
  | _ => false

/-- A property of the status of the tenant `t` and one of the queue, which survives every task put on the queue but a
provisioning of the tenant, and that too if it is `provisioning`. -/
structure Watch (t : Nat) where
  status : Option TenantStatus → Prop
  queue : List Task → Prop
  provisioning : Prop
  queue_append : ∀ q task, provisioning ∨ ¬task.provisions t → queue q → queue (q ++ [task])

namespace Watch

variable {t : Nat} (W : Watch t)

/-- A watch on the status alone. -/
def ofStatus (t : Nat) (status : Option TenantStatus → Prop) : Watch t :=
  ⟨status, fun _ => True, True, fun _ _ _ _ => trivial⟩

/-- The watch holds of a session. -/
def Holds (s : DbSession) : Prop := Rows (fun db => W.status (db.tenantStatus t)) W.queue s

/-- `p` cannot break the watch. -/
def Kept {α : Type} (p : Proc α) : Prop := Keeps W.Holds p

variable {W}

theorem frame : Frame (fun task => W.provisioning ∨ ¬task.provisions t) (fun db => W.status (db.tenantStatus t))
    W.queue where
  core db db' h hdb := by rw [Db.tenantStatus_congr (Db.tenants_of_core h)]; exact hdb
  flush now saved work _ hw := by rw [Db.tenantStatus_flush]; exact hw
  queue := W.queue_append

theorem kept_of_bookkeeping {α : Type} {p : Proc α}
    (hp : Bookkeeping (fun task => W.provisioning ∨ ¬task.provisions t) p) : W.Kept p := hp _ _ W.frame

theorem Kept.holds {α : Type} {p : Proc α} (hp : W.Kept p) {s : DbSession} (hs : W.Holds s) : W.Holds (p s).2 :=
  Keeps.apply hp hs

theorem kept_commit (env : Env) : W.Kept (commit env) := kept_of_bookkeeping (.commit env)

theorem kept_audit (env : Env) (action resource : String) (id : Option Nat) :
    W.Kept (recordAuditEvent env action resource id) := kept_of_bookkeeping (.recordAuditEvent env _ _ _)

/-- A change of the rows under which the tenant's status is as it was. -/
theorem kept_change {α : Type} {env : Env} {f : Time → PlatformErpClient → Db → Except PyError (α × Db)}
    (hf : ∀ now client db a db', f now client db = .ok (a, db') → db'.tenantStatus t = db.tenantStatus t) :
    W.Kept (change env f) :=
  Keeps.bind Keeps.now fun _ => Keeps.body fun db a db' hdb h => by rw [hf _ _ db a db' h]; exact hdb

/-- A change of the rows and what follows it. -/
theorem holds_change {α β : Type} {env : Env} {f : Time → PlatformErpClient → Db → Except PyError (α × Db)}
    {g : α → Proc β} {s : DbSession} (hs : W.Holds s)
    (h : ∀ a db, f (env.clock s.tick) (env.erp s.tick) s.work = .ok (a, db) → W.status (db.tenantStatus t) ∧
      (W.Holds { s with work := db } → W.Holds (g a { s with work := db }).2)) :
    W.Holds ((change env f >>= g) s).2 := by
  rw [change_bind]
  cases hf : f (env.clock s.tick) (env.erp s.tick) s.work with
  | error e => exact hs
  | ok r =>
    obtain ⟨a, db⟩ := r
    obtain ⟨hstatus, hg⟩ := h a db hf
    exact hg ⟨hstatus, hs.2⟩

/-- A commit and what follows it. -/
theorem holds_commit {β : Type} {env : Env} {g : Unit → Proc β} {s : DbSession} (hs : W.Holds s)
    (h : ∀ s', W.Holds s' → s'.work.jobs = s.work.jobs → W.Holds (g () s').2) :
    W.Holds ((commit env >>= g) s).2 := by
  have hkept := (W.kept_commit env).holds hs
  rw [commit_apply] at hkept
  rw [commit_bind]
  split
  · rename_i hc
    rw [if_pos hc] at hkept
    exact hkept
  · rename_i hc
    rw [if_neg hc] at hkept
    exact h _ hkept rfl

/-- A program that leaves the watch intact, and what follows it. -/
theorem holds_bind {α β : Type} {p : Proc α} {g : α → Proc β} {s : DbSession} (hp : W.Holds (p s).2)
    (hg : ∀ a s', W.Holds s' → W.Holds (g a s').2) : W.Holds ((p >>= g) s).2 :=
  Keeps.holds_bind hp fun a s' _ hs' => hg a s' hs'

/-- A tenant that is moved leaves the watch intact if it is another one, or if the watch allows its new status. -/
theorem status_of_moved {db db' : Db} {id : Nat} {tenant : Tenant} {status : TenantStatus}
    (hdb : W.status (db.tenantStatus t)) (htenant : db.tenant? id = some tenant)
    (hmoved : Moved db db' tenant.id status)
    (h : id = t → db.tenantStatus t = some tenant.status → W.status (some status)) :
    W.status (db'.tenantStatus t) := by
  have hid := Db.tenant?_id htenant
  rw [← hid] at htenant
  rcases hmoved.cases htenant t with hsame | ⟨ht, hst, hnew⟩
  · rw [hsame]; exact hdb
  · rw [hnew]
    exact h (hid.symm.trans ht.symm) hst

/-- Putting the tenant's provisioning on the queue is allowed, or does nothing. -/
theorem holds_enqueueProvisioning {env : Env} {tenantId : Nat} {email : String} {s : DbSession} (hs : W.Holds s)
    (h : tenantId = t → provisioningMissing s.work t = true → W.provisioning) :
    W.Holds (enqueueProvisioningForPaidTenant env tenantId email s).2 := by
  by_cases ht : tenantId = t
  · subst ht
    cases hmissing : provisioningMissing s.work tenantId with
    | true =>
      exact (kept_of_bookkeeping (.enqueueProvisioningForPaidTenant env tenantId email fun _ =>
        Or.inl (h rfl hmissing))).holds hs
    | false =>
      obtain ⟨job, heq⟩ := enqueueProvisioningForPaidTenant_of_not_missing env email hmissing
      rw [heq]
      exact hs
  · refine (kept_of_bookkeeping (.enqueueProvisioningForPaidTenant env tenantId email fun jobId => Or.inr ?_)).holds hs
    simp [Task.provisions, ht]

/-! ### Requests -/

theorem holds_moveTenantStatus {env : Env} {tenantId : Nat} {status : TenantStatus} {rest : Proc Unit} {s : DbSession}
    (hs : W.Holds s)
    (h : tenantId = t → ∀ st, s.work.tenantStatus t = some st → Allowed st status → W.status (some status))
    (hrest : W.Kept rest) :
    W.Holds ((change env (moveTenantStatus tenantId status) >>= fun _ => commit env >>= fun _ => rest) s).2 := by
  refine holds_change hs fun u db hf => ⟨?_, fun hs' => holds_commit hs' fun s' hs'' _ => hrest.holds hs''⟩
  obtain ⟨tenant, htenant, hallowed, hmoved⟩ := moveTenantStatus_ok hf
  exact status_of_moved hs.1 htenant hmoved fun ht hst => h ht tenant.status hst hallowed

theorem holds_retryTenantProvisioning {env : Env} {tenantId : Nat} {userEmail : String} {s : DbSession}
    (hs : W.Holds s)
    (h : tenantId = t → s.work.tenantStatus t = some .failed → W.status (some .pending) ∧
      (provisioningMissing s.work t = true → W.provisioning)) :
    W.Holds (retryTenantProvisioning env tenantId userEmail s).2 := by
  refine holds_change hs fun u db hf => ?_
  obtain ⟨tenant, htenant, hfailed, hmoved⟩ := prepareRetry_ok hf
  have hst : tenantId = t → s.work.tenantStatus t = some .failed := by
    rintro rfl
    rw [Db.tenantStatus_of_tenant? htenant, hfailed]
  refine ⟨status_of_moved hs.1 htenant hmoved fun ht _ => (h ht (hst ht)).1, fun hs' =>
    holds_commit hs' fun s' hs'' hjobs => ?_⟩
  refine holds_bind (holds_enqueueProvisioning hs'' fun ht hmissing => (h ht (hst ht)).2 ?_) fun _ _ hq =>
    (W.kept_audit env _ _ _).holds hq
  rw [← hmissing]
  exact (provisioningMissing_congr (hjobs.trans hmoved.jobs) t).symm

theorem holds_renewCheckout {env : Env} {tenantId : Nat} {s : DbSession} (hs : W.Holds s)
    (h : tenantId = t → s.work.tenantStatus t = some .pending ∨ s.work.tenantStatus t = some .pendingPayment →
      W.status (some .pendingPayment)) :
    W.Holds (renewCheckout env tenantId s).2 := by
  refine holds_change hs fun u db hf => ⟨?_, fun hs' =>
    holds_commit hs' fun s' hs'' _ => (W.kept_audit env _ _ _).holds hs''⟩
  obtain ⟨tenant, htenant, hstatus, hmoved⟩ := prepareRenewedCheckout_ok hf
  refine status_of_moved hs.1 htenant hmoved fun ht hst => h ht ?_
  rcases hstatus with hp | hp
  · exact Or.inl (by rw [hst, hp])
  · exact Or.inr (by rw [hst, hp])

/-- A request that creates a tenant concerns the watched one only if it is to be the new one. -/
theorem holds_createTenantAndStartCheckout {env : Env} {owner : User} {subdomain companyName plan : String}
    {chosenApp : Option String} {s : DbSession} (hs : W.Holds s)
    (hnew : t = fresh s.work.tenants → W.status (some .pendingPayment))
    (hcheckout : t = fresh s.work.tenants → ∀ st, W.status (some st) → Allowed st .pending →
      W.status (some .pending)) :
    W.Holds (createTenantAndStartCheckout env owner subdomain companyName plan chosenApp s).2 := by
  unfold createTenantAndStartCheckout
  rw [bind_ok (utcnow_apply env s)]
  refine holds_change hs fun r db hf => ?_
  obtain ⟨tenantId, selectedPlan, selectedApp⟩ := r
  obtain ⟨hfresh, tenant, htenants, hid, hstatus⟩ := prepareTenant_ok hf
  refine ⟨?_, fun hs' => holds_commit hs' fun s' hs'' _ => ?_⟩
  · have hfree : s.work.tenant? tenant.id = none := by
      rw [hid, hfresh]
      exact get?_fresh s.work.tenants
    rw [Db.tenantStatus_insert htenants hfree]
    split
    · rename_i ht
      rw [hstatus]
      exact hnew (by rw [ht, hid, hfresh])
    · exact hs.1
  · refine holds_bind (p := Session.Proc.modify _) ?_ fun _ s₁ hs₁ => holds_commit hs₁ fun s₂ hs₂ _ => ?_
    · exact ⟨hs''.1, hs''.2⟩
    · refine holds_change hs₂ fun u db' hrecord => ⟨?_, fun hs₃ => holds_commit hs₃ fun s₄ hs₄ _ =>
        holds_bind ((W.kept_audit env _ _ _).holds hs₄) fun _ _ h => h⟩
      obtain ⟨row, hrow, hallowed, hmoved⟩ := recordCheckout_ok hrecord
      refine status_of_moved hs₂.1 hrow hmoved fun ht hst => hcheckout (by rw [← ht, hfresh]) row.status ?_ hallowed
      rw [← hst]
      exact hs₂.1

theorem kept_resyncTenantInvoices (env : Env) (tenantId limit : Nat) :
    W.Kept (resyncTenantInvoices env tenantId limit) := by
  refine Keeps.bind (kept_change fun now client db u db' h => ?_) fun _ =>
    Keeps.bind (W.kept_commit env) fun _ => W.kept_audit env _ _ _
  obtain ⟨accounts, invoices, rfl⟩ := syncForTenant_frame h
  rfl

theorem kept_checkTenant (env : Env) (tenantId : Nat) (check : Db → Tenant → Time → Except PyError Unit) :
    W.Kept (checkTenant env tenantId check) := by
  refine kept_change fun now client db u db' h => ?_
  obtain ⟨tenant, -, h⟩ := bind_eq_ok.1 h
  obtain ⟨u, -, h⟩ := bind_eq_ok.1 h
  cases h
  rfl

theorem kept_backupTenant (env : Env) (tenantId : Nat) : W.Kept (backupTenant env tenantId) := by
  refine Keeps.bind (kept_checkTenant env tenantId _) fun _ => Keeps.bind (kept_of_bookkeeping ?_) fun _ => Keeps.pure _
  exact .enqueueBackup env tenantId fun jobId => Or.inr Bool.false_ne_true

theorem kept_restoreTenant (env : Env) (tenantId backupId : Nat) : W.Kept (restoreTenant env tenantId backupId) := by
  refine Keeps.bind (kept_checkTenant env tenantId _) fun _ => kept_of_bookkeeping ?_
  exact .bind (.addJob env tenantId .restore) fun job => .bind (.recordAuditEvent env _ _ _) fun _ =>
    .bind (.enqueue env (Or.inr Bool.false_ne_true)) fun _ => .pure _

theorem holds_deleteTenant {env : Env} {tenantId : Nat} {s : DbSession} (hs : W.Holds s)
    (h : tenantId = t → ∀ st, s.work.tenantStatus t = some st → Allowed st .pendingDeletion →
      W.status (some .pendingDeletion)) :
    W.Holds (deleteTenant env tenantId s).2 := by
  unfold deleteTenant checkTenant
  refine holds_change hs fun u db hf => ?_
  obtain ⟨tenant, -, hf⟩ := bind_eq_ok.1 hf
  obtain ⟨u', -, hf⟩ := bind_eq_ok.1 hf
  cases hf
  refine ⟨hs.1, fun hs' => ?_⟩
  unfold enqueueDelete
  refine holds_bind ?_ fun _ _ h => h
  refine holds_change hs' fun u db hf => ⟨?_, fun hs'' => holds_commit hs'' fun s₁ hs₁ _ => ?_⟩
  · obtain ⟨tenant, htenant, hallowed, hmoved⟩ := moveTenantStatus_ok hf
    exact status_of_moved hs.1 htenant hmoved fun ht hst => h ht tenant.status hst hallowed
  · refine (kept_of_bookkeeping ?_).holds hs₁
    exact .bind (.addJob env tenantId .delete) fun job =>
      .bind (.enqueueJob env job (Or.inr Bool.false_ne_true)) fun _ =>
        .bind (.recordAuditEvent env _ _ _) fun _ => .pure _

theorem kept_createInvoicePaymentAttempt (env : Env) (invoiceId : Nat) (provider : Option String) {s : DbSession}
    (hs : W.Holds s) : W.Holds (createInvoicePaymentAttempt env invoiceId provider s).2 := by
  unfold createInvoicePaymentAttempt
  rw [bind_ok (read_apply s)]
  cases hrow : requireInvoice s.work invoiceId with
  | error e => exact hs
  | ok r =>
    obtain ⟨invoice, tenant, owner⟩ := r
    refine holds_change hs fun attemptId db hf => ⟨?_, fun hs' => holds_commit hs' fun s' hs'' _ =>
      holds_bind ((W.kept_audit env _ _ _).holds hs'') fun _ _ h => h⟩
    exact status_of_moved hs.1 (requireInvoice_ok hrow).2 (preparePaymentAttempt_ok hf) fun _ hst => by rw [← hst]; exact hs.1

/-! ### Webhooks -/

private theorem holds_eventFollowUp {env : Env} {eventType : WebhookEventType} {tenantId : Nat} {email : Option String}
    {s : DbSession} (hs : W.Holds s)
    (h : eventType = .paymentConfirmed → tenantId = t → provisioningMissing s.work t = true → W.provisioning) :
    W.Holds (eventFollowUp env eventType tenantId email s).2 := by
  cases eventType with
  | paymentConfirmed =>
    exact holds_bind (holds_enqueueProvisioning hs (h rfl)) fun _ _ hq =>
      holds_bind ((W.kept_audit env _ _ _).holds hq) fun _ _ h => h
  | paymentFailed => exact holds_bind ((W.kept_audit env _ _ _).holds hs) fun _ _ h => h
  | subscriptionCancelled => exact holds_bind ((W.kept_audit env _ _ _).holds hs) fun _ _ h => h
  | other name => exact hs

/-- An event leaves the watch intact if its commit fails, or if the watch allows the status it moves the tenant to and,
when the payment is confirmed, the provisioning it asks for. -/
theorem holds_processEvent {env : Env} {provider : String} {event : WebhookEvent} {s : DbSession} (hs : W.Holds s)
    (h : ∀ tenant, eventTenant provider event s.work = some tenant → tenant.id = t →
      (∀ sub ∈ s.work.subscriptionOf t, eventRefused event.eventType sub.status = false) →
      subscriptionAvailable s.work t = true → env.commitFails s.tick = false →
      W.status (some (eventStatus event.eventType tenant.status)) ∧
        (event.eventType = .paymentConfirmed → provisioningMissing s.work t = true → W.provisioning)) :
    W.Holds (processEvent env provider event s).2 := by
  rw [processEvent_eq, change_bind]
  cases hf : eventBody provider event (env.clock s.tick) (env.erp s.tick) s.work with
  | error e => exact hs
  | ok r =>
    obtain ⟨handled, db⟩ := r
    cases handled with
    | ignored message =>
      obtain rfl := eventBody_ignored hf
      exact hs
    | changed tenantId email =>
      cases hc : env.commitFails s.tick with
      | true =>
        dsimp only
        rw [commit_bind, if_pos hc]
        exact ⟨hs.2.1, hs.2⟩
      | false =>
        obtain ⟨tenant, htenant, hid, hnot, havailable, hmoved⟩ := eventBody_changed hf
        have hallowed : tenant.id = t → _ := fun ht => h tenant htenant ht (ht ▸ hnot) (ht ▸ havailable) hc
        have hdb : W.status (db.tenantStatus t) :=
          status_of_moved hs.1 (eventTenant_row htenant) hmoved fun ht _ => (hallowed ht).1
        refine holds_commit (s := { s with work := db }) ⟨hdb, hs.2⟩ fun s' hs' hjobs => ?_
        refine holds_eventFollowUp hs' fun htype ht hm => ?_
        rw [hid] at ht
        rw [provisioningMissing_congr (hjobs.trans hmoved.jobs) t] at hm
        exact (hallowed ht).2 htype hm

end Watch

end ControlPlane
