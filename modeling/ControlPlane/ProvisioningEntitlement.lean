import ControlPlane.Entitlement
import ControlPlane.LatestBill

/-!
# Provisioning and entitlement

`provision_tenant` asks the table whether its tenant may go to `provisioning`, and never the billing policy.  The policy was
asked, if at all, when the job was put on the queue, and its answer can change until the strategy is called: an event or
the end of a trial moves the subscription, and the latest invoice is another one, falls due or gets an attempt.
-/

namespace ControlPlane

open Table Session Session.Proc Runs

/-- `evaluate_tenant_billing_policy(tenant).provisioning_allowed`. -/
def Db.provisioningAllowed (db : Db) (tenantId : Nat) (now : Time) : Bool :=
  (db.tenant? tenantId).any fun tenant => (resolveBillingLifecycle db tenant now).provisioningAllowed

/-- A call of `strategy.provision`: the tenant, the rows as the session has them then, and the time. -/
structure StrategyCall where
  tenantId : Nat
  rows : Db
  time : Time

/-- The call of the strategy a step comes to, if it runs the outside work of a `provision_tenant`. -/
def strategyCall (w : World) (e : Event) : Option StrategyCall :=
  match e.op with
  | .taskPhase index _ =>
    match w.running[index]? with
    | some ⟨.provisionTenant jobId tenantId email, .work⟩ =>
      match recordStart e.env (.provisionTenant jobId tenantId email) (opened w.db w.queue) with
      | (.ok _, s) => some ⟨tenantId, s.work, e.env.clock s.tick⟩
      | (.error _, _) => none
    | _ => none
  | _ => none

/-- The tenant whose `provision_tenant` is about to make its transition to `provisioning`. -/
def entersProvisioning (w : World) (e : Event) : Option Nat :=
  match e.op with
  | .taskPhase index _ =>
    match w.running[index]? with
    | some ⟨.provisionTenant _ tenantId _, .enter⟩ => some tenantId
    | _ => none
  | _ => none

/-- A `provision_tenant` for the tenant that is about to do its outside work. -/
def RunningTask.works (running : RunningTask) (t : Nat) : Bool :=
  match running.task, running.phase with
  | .provisionTenant _ tenantId _, .work => tenantId = t
  | _, _ => false

/-- A `provision_tenant` for the tenant has made its transition and has not called the strategy yet. -/
def World.awaitsStrategy (w : World) (t : Nat) : Bool := w.running.any fun running => running.works t

/-- Whether a subscription carries a provisioning, by the standing of the tenant's latest invoice and the status of its
latest attempt: a paid invoice unless it is cancelled, an open one while it is active or trialing, and one with an unpaid
attempt only on trial, while no payment is processing. -/
def SubscriptionStatus.carries (status : SubscriptionStatus) : InvoiceStanding × Option AttemptStatus → Bool
  | (.paid, _) => status ≠ .cancelled
  | (.voided, _) | (.lapsed, _) => false
  | (.outstanding, none) => status ∈ paidSubscriptionStatuses
  | (.outstanding, some tried) => status = .trialing ∧ tried ∉ paymentProcessingAttemptStates

/-- The step may withdraw a tenant's entitlement as of a time: an event, a repair or the end of its trial moves the
subscription to a status that does not carry the latest invoice, or a bill that the step may bring the tenant is not carried,
cancelled, past its grace period, with an unpaid attempt, or open. -/
def withdraws (t : Nat) (time : Time) (w : World) (e : Event) : Prop :=
  (∃ status ∈ subscriptionMoves w e t, status.carries (w.db.latestStanding t time) = false) ∨
    ¬e.Fits (fun latest => ∀ status ∈ tenantSubscriptionStatus w.db t :: subscriptionMoves w e t,
      status.carries latest = true) t time w

/-- What keeps a tenant entitled as of a time: a `provision_tenant` of it makes its transition only when the policy allows
it, and until it calls the strategy no step may withdraw that. -/
def keepsEntitled (t : Nat) (time : Time) (w : World) (e : Event) : Prop :=
  (entersProvisioning w e = some t → w.db.provisioningAllowed t time = true) ∧
    (w.awaitsStrategy t = true → ¬withdraws t time w e)

/-- The call of the strategy at a place in a run. -/
def callAt (w : World) (es : List Event) (k : Nat) : Option StrategyCall :=
  es[k]?.bind (strategyCall (run step w (es.take k)))

/-! ### What the policy looks at -/

theorem standingEntitlement_allowed (status : TenantStatus) (subscription : SubscriptionStatus)
    {latest : InvoiceStanding × Option AttemptStatus} (hlatest : latest.2 = some .paid → latest.1 = .paid) :
    decide (standingEntitlement status subscription latest ∈ [EntitlementState.active, .trialing]) =
      subscription.carries latest := by
  obtain ⟨standing, attempt⟩ := latest
  by_cases hcancelled : subscription = .cancelled
  · subst hcancelled
    rw [standingEntitlement_cancelled]
    cases standing <;> cases attempt <;> rfl
  cases standing with
  | paid =>
    rw [standingEntitlement_paid status attempt hcancelled]
    exact (decide_eq_true hcancelled).symm
  | voided =>
    rw [standingEntitlement_voided]
    rfl
  | lapsed =>
    rw [standingEntitlement_lapsed status attempt hcancelled]
    rfl
  | outstanding =>
    cases attempt with
    | none =>
      rw [standingEntitlement_idle]
      cases subscription with
      | active | trialing => rfl
      | cancelled => exact absurd rfl hcancelled
      | pending =>
        dsimp only
        split <;> rfl
      | pastDue | paused =>
        dsimp only
        split
        · rfl
        · split <;> rfl
    | some tried =>
      have htried : tried ≠ .paid := by
        rintro rfl
        cases hlatest rfl
      rw [standingEntitlement_tried status hcancelled htried]
      unfold SubscriptionStatus.carries
      by_cases htrial : subscription = .trialing ∧ tried ∉ paymentProcessingAttemptStates
      · simp [htrial]
      · simp [htrial]

/-- Whether provisioning is allowed is a matter of the subscription and the latest invoice; the tenant's own status plays no
part. -/
theorem provisioningAllowed_eq (db : Db) (t : Nat) (now : Time) :
    db.provisioningAllowed t now =
      ((db.tenant? t).isSome && (tenantSubscriptionStatus db t).carries (db.latestStanding t now)) := by
  unfold Db.provisioningAllowed
  cases hrow : db.tenant? t with
  | none => rfl
  | some tenant =>
    have hallowed : (resolveBillingLifecycle db tenant now).provisioningAllowed =
        decide ((resolveBillingLifecycle db tenant now).entitlementState ∈ [EntitlementState.active, .trialing]) := by
      unfold resolveBillingLifecycle
      dsimp only
      cases latestBillingInvoice (db.invoicesOf tenant.id) <;> rfl
    rw [Option.any_some, Option.isSome_some, Bool.true_and, hallowed, (resolveBillingLifecycle_state db tenant now _).2,
      standingEntitlement_allowed _ _ (db.latestStanding_paid _ _ _), Db.tenant?_id hrow]

/-- The rows the policy looks at are as `base` has them, and so is whether the tenant is there. -/
structure Db.SameBilling (base : Db) (t : Nat) (db : Db) : Prop where
  subscriptions : db.subscriptions = base.subscriptions
  invoices : db.invoices = base.invoices
  attempts : db.attempts = base.attempts
  tenant : (db.tenant? t).isSome = (base.tenant? t).isSome

theorem Db.SameBilling.provisioningAllowed {base db : Db} {t : Nat} (h : base.SameBilling t db) (now : Time) :
    db.provisioningAllowed t now = base.provisioningAllowed t now := by
  rw [provisioningAllowed_eq, provisioningAllowed_eq, h.tenant, latestStanding_congr h.invoices h.attempts,
    tenantSubscriptionStatus_congr (subscriptionOf_congr h.subscriptions t)]

theorem isSome_putTenant (db : Db) (tenant : Tenant) (t : Nat) :
    ((db.putTenant tenant).tenant? t).isSome = (db.tenant? t).isSome := by
  unfold Db.tenant? Db.putTenant
  dsimp only
  rw [get?_put]
  split
  · exact Option.isSome_map
  · rfl

theorem Db.SameBilling.putTenant {base db : Db} {t : Nat} (h : base.SameBilling t db) (tenant : Tenant) :
    base.SameBilling t (db.putTenant tenant) :=
  ⟨h.subscriptions, h.invoices, h.attempts, (isSome_putTenant db tenant t).trans h.tenant⟩

/-- A step that moves tenants only changes none of these rows. -/
theorem sameBilling_preserved (base : Db) (t : Nat) (w : World) (e : Event) :
    TenantsPreserved (base.SameBilling t) w e where
  core db db' hcore h := by
    refine ⟨?_, ?_, ?_, ?_⟩
    · rw [Db.subscriptions_of_core hcore, h.subscriptions]
    · rw [Db.invoices_of_core hcore, h.invoices]
    · rw [Db.attempts_of_core hcore, h.attempts]
    · unfold Db.tenant?
      rw [Db.tenants_of_core hcore]
      exact h.tenant
  flush now saved work hs hw := by
    refine ⟨hw.subscriptions, hw.invoices, ?_, ?_⟩
    · rw [Db.attempts_flush_of_eq (hw.attempts.trans hs.attempts.symm), hw.attempts]
    · obtain ⟨stamp, hrow⟩ := Db.tenant?_flush now saved work t
      rw [hrow, Option.isSome_map, hw.tenant]
  escalated context tenant runtimeExists now db h hrow hdue := by
    unfold escalateTenant
    rw [Db.modifyTenant_of_tenant? hrow]
    exact h.putTenant _
  moved db tenant moved h _ _ _ _ := h.putTenant moved
  registered _ db tenant moved h _ _ _ := h.putTenant moved

/-- Such a step withdraws nothing. -/
theorem step_provisioningAllowed {w : World} {e : Event} (he : e.op.movesTenantsOnly = true) (t : Nat) (now : Time) :
    (step w e).db.provisioningAllowed t now = w.db.provisioningAllowed t now :=
  (step_preservesTenants (sameBilling_preserved w.db t w e) he ⟨rfl, rfl, rfl, rfl⟩).provisioningAllowed now

/-- No step takes a tenant away. -/
theorem step_tenant {w : World} (e : Event) {t : Nat} (h : (w.db.tenant? t).isSome = true) :
    ((step w e).db.tenant? t).isSome = true := by
  have hpermits : (Watch.ofStatus t fun status => status.isSome = true).Permits w e := by
    constructor
    case created => exact fun _ _ => ⟨rfl, fun _ _ _ => rfl⟩
    case renewed => exact fun _ _ => rfl
    case handled => exact fun _ _ _ _ => ⟨rfl, fun _ _ => trivial⟩
    case repaired => exact fun _ _ _ _ _ _ _ _ => ⟨rfl, fun _ _ _ => trivial⟩
    case expired => exact fun _ _ _ _ => rfl
    case escalated => exact fun _ _ _ _ => rfl
    case retried => exact fun _ _ => ⟨rfl, fun _ => trivial⟩
    case asked => exact fun _ _ _ _ _ => rfl
  have hbefore : (w.status t).isSome = true := by
    rw [World.status, Db.tenantStatus, Option.isSome_map]
    exact h
  have hafter : ((step w e).status t).isSome = true := (Watch.step ⟨hbefore, trivial⟩ hpermits).1
  rwa [World.status, Db.tenantStatus, Option.isSome_map] at hafter

/-- A step that asks the ERP nothing and moves no subscription withdraws nothing. -/
theorem not_withdraws_of_quiet {t : Nat} {time : Time} {w : World} {e : Event} (hasks : e.op.asksErp = false)
    (hmoves : subscriptionMoves w e t = []) : ¬withdraws t time w e := by
  refine not_or.2 ⟨?_, not_not.2 fun hasks' => ?_⟩
  · rw [hmoves]
    rintro ⟨status, hmem, -⟩
    cases hmem
  · rw [hasks] at hasks'
    cases hasks'

/-- A step that does not withdraw the entitlement leaves it. -/
theorem step_entitled {w : World} {e : Event} {t : Nat} {time : Time} (hrows : w.db.Orderly)
    (h : w.db.provisioningAllowed t time = true) (hkept : ¬withdraws t time w e) :
    (step w e).db.provisioningAllowed t time = true := by
  rw [provisioningAllowed_eq, Bool.and_eq_true] at h
  have ht : t ≠ fresh w.db.tenants := by
    rintro rfl
    rw [Db.tenant?, get?_fresh] at h
    cases h.1
  obtain ⟨hmoves, hfits⟩ := not_or.1 hkept
  -- the subscription stays or is moved, and either way it carries the latest invoice there was and the one there is
  have hstatus := step_subscriptionStatus (e := e) hrows.rows ht
  have hbefore : ∀ status ∈ tenantSubscriptionStatus w.db t :: subscriptionMoves w e t,
      status.carries (w.db.latestStanding t time) = true := by
    intro status hmem
    rcases List.mem_cons.1 hmem with rfl | hmem
    · exact h.2
    · by_contra hnot
      exact hmoves ⟨status, hmem, Bool.eq_false_iff.2 hnot⟩
  have hcarries := step_latestStanding hrows (not_not.1 hfits) hbefore _ hstatus
  rw [provisioningAllowed_eq, step_tenant e h.1, hcarries, Bool.and_self]

/-! ### Steps and runs -/

theorem awaitsStrategy_of_mem {w : World} {running : RunningTask} {t : Nat} (h : running ∈ w.running)
    (hworks : running.works t = true) : w.awaitsStrategy t = true :=
  List.any_eq_true.2 ⟨running, h, hworks⟩

/-- Only the transition to `provisioning` brings a task to its outside work. -/
theorem works_next {env : Env} {running : RunningTask} {next : Phase} {outside : Except PyError String} {s : DbSession}
    {t : Nat} (h : (taskPhase env running.task running.phase outside s).1 = .ok (some next))
    (hworks : RunningTask.works { running with phase := next } t = true) :
    ∃ jobId email, running = ⟨.provisionTenant jobId t email, .enter⟩ := by
  have hprecedes := taskPhase_precedes h
  obtain ⟨task, phase⟩ := running
  cases task with
  | provisionTenant jobId tenantId email =>
    cases next with
    | work =>
      obtain rfl : tenantId = t := of_decide_eq_true hworks
      cases phase with
      | enter => exact ⟨jobId, email, rfl⟩
      | _ => cases hprecedes
    | _ => cases hworks
  | _ => cases hworks

theorem step_awaitsStrategy {w : World} {e : Event} {t : Nat} (h : (step w e).awaitsStrategy t = true) :
    w.awaitsStrategy t = true ∨ entersProvisioning w e = some t := by
  obtain ⟨running, hmem, hworks⟩ := List.any_eq_true.1 h
  obtain ⟨env, op⟩ := e
  cases op with
  | startTask entry =>
    unfold step at hmem
    dsimp only at hmem
    cases hentry : w.queue[entry]? with
    | none =>
      rw [hentry] at hmem
      exact Or.inl (awaitsStrategy_of_mem hmem hworks)
    | some task =>
      rw [hentry] at hmem
      rcases List.mem_append.1 hmem with hmem | hmem
      · exact Or.inl (awaitsStrategy_of_mem hmem hworks)
      · obtain rfl := List.mem_singleton.1 hmem
        cases task <;> cases hworks
  | taskPhase index outside =>
    unfold step at hmem
    dsimp only at hmem
    unfold advanceTask at hmem
    cases hrow : w.running[index]? with
    | none =>
      rw [hrow] at hmem
      exact Or.inl (awaitsStrategy_of_mem hmem hworks)
    | some before =>
      rw [hrow] at hmem
      dsimp only at hmem
      cases hresult : (taskPhase env before.task before.phase outside (opened w.db w.queue)).1 with
      | error error =>
        rw [hresult] at hmem
        exact Or.inl (awaitsStrategy_of_mem (List.mem_of_mem_eraseIdx hmem) hworks)
      | ok next? =>
        rw [hresult] at hmem
        cases next? with
        | none => exact Or.inl (awaitsStrategy_of_mem (List.mem_of_mem_eraseIdx hmem) hworks)
        | some next =>
          rcases List.mem_or_eq_of_mem_set hmem with hmem | rfl
          · exact Or.inl (awaitsStrategy_of_mem hmem hworks)
          · -- the task comes to the strategy by the phase that enters provisioning
            obtain ⟨jobId, email, rfl⟩ := works_next hresult hworks
            refine Or.inr ?_
            unfold entersProvisioning
            dsimp only
            rw [hrow]
  | _ => exact Or.inl (awaitsStrategy_of_mem hmem hworks)

/-- While a `provision_tenant` is between its transition and the strategy, the policy allows its tenant's provisioning. -/
def EntitledWork (t : Nat) (time : Time) (w : World) : Prop :=
  w.awaitsStrategy t = true → w.db.provisioningAllowed t time = true

theorem step_entitledWork {t : Nat} {time : Time} {w : World} {e : Event} (hrows : w.db.Orderly)
    (h : EntitledWork t time w) (hkeeps : keepsEntitled t time w e) : EntitledWork t time (step w e) := by
  intro hawaits
  obtain ⟨henters, hwithdraws⟩ := hkeeps
  rcases step_awaitsStrategy hawaits with hbefore | hentered
  · exact step_entitled hrows (h hbefore) (hwithdraws hbefore)
  · -- the worker's own transition changes no bills
    have hop : e.op.movesTenantsOnly = true := by
      unfold entersProvisioning at hentered
      split at hentered
      · rename_i index outside he
        rw [he]
        rfl
      · cases hentered
    rw [step_provisioningAllowed hop]
    exact henters hentered

/-- The rows at a call of the strategy are those of the world, as far as the policy looks. -/
theorem strategyCall_some {w : World} {e : Event} {call : StrategyCall} (h : strategyCall w e = some call) :
    w.awaitsStrategy call.tenantId = true ∧
      call.rows.provisioningAllowed call.tenantId call.time = w.db.provisioningAllowed call.tenantId call.time := by
  unfold strategyCall at h
  split at h
  · split at h
    · rename_i index outside hop jobId tenantId email hrow
      split at h
      · rename_i u s hstart
        cases h
        refine ⟨awaitsStrategy_of_mem (List.mem_of_getElem? hrow) (decide_eq_true rfl), ?_⟩
        have hrows := (sameBilling_preserved w.db tenantId w e).books (.recordStart e.env
          (.provisionTenant jobId tenantId email)) (opened w.db w.queue) ⟨⟨rfl, rfl, rfl, rfl⟩, ⟨rfl, rfl, rfl, rfl⟩, trivial⟩
        rw [hstart] at hrows
        exact hrows.1.provisioningAllowed _
      · cases h
    · cases h
  · cases h

/-- A runtime is provisioned with entitlement: when the policy, as of the call of the strategy, allows the provisioning at
the transition to `provisioning`, and no step between the two may withdraw it. -/
theorem provisioned_with_entitlement {w : World} {es : List Event} (hrows : w.db.Orderly)
    (hw : ∀ t, w.awaitsStrategy t = false)
    (h : ∀ k, ∀ call ∈ callAt w es k, Steps step (keepsEntitled call.tenantId call.time) w (es.take k)) :
    ∀ k, ∀ call ∈ callAt w es k, call.rows.provisioningAllowed call.tenantId call.time = true := by
  intro k call hcall
  have hstart : EntitledWork call.tenantId call.time w := by
    intro hawaits
    rw [hw] at hawaits
    cases hawaits
  have hentitled : EntitledWork call.tenantId call.time (run step w (es.take k)) :=
    (Always.of_steps (I := fun w => w.db.Orderly ∧ EntitledWork call.tenantId call.time w)
      (fun _ e hw hkeeps => ⟨step_orderly e hw.1, step_entitledWork hw.1 hw.2 hkeeps⟩) ⟨hrows, hstart⟩
      (h k call hcall)).last.2
  obtain ⟨e, -, he⟩ := Option.bind_eq_some_iff.1 hcall
  obtain ⟨hawaits, hrows⟩ := strategyCall_some he
  rw [hrows]
  exact hentitled hawaits

/-! ### A tenant that pays and opens another checkout -/

/-- The provisioning of a tenant that has paid runs as far as the strategy; before that is called the tenant's open invoice is
synced, and a dunning cycle runs. -/
def Small.paidAndProvisioned : List Event :=
  [⟨Small.envAt 1, Small.webhook .paymentConfirmed "paid"⟩, ⟨Small.envAt 2, .startTask 0⟩,
    ⟨Small.envAt 3, .taskPhase 0 (.ok "done")⟩, ⟨Small.envAt 4, .taskPhase 0 (.ok "done")⟩,
    ⟨Small.openErpAt 5, .resyncTenantInvoices 1 20⟩, ⟨Small.envAt 6, .dunningCycle false⟩,
    ⟨Small.envAt 7, .taskPhase 0 (.ok "done")⟩]

/-- A new checkout is opened for the open invoice before the worker takes the job. -/
def Small.checkoutBeforeProvisioning : List Event :=
  Small.events (Small.webhook .paymentConfirmed "paid" :: .createPaymentAttempt 1 none :: Small.runTask 0 3)

set_option maxRecDepth 100000 in
/-- The strategy is called for a tenant whose latest invoice is open and has an unpaid checkout. -/
theorem provisioned_without_entitlement :
    ¬∀ k, ∀ call ∈ callAt Small.billed Small.checkoutBeforeProvisioning k,
      call.rows.provisioningAllowed call.tenantId call.time = true := by
  intro h
  have hcall : (callAt Small.billed Small.checkoutBeforeProvisioning 5).any (fun call =>
      !call.rows.provisioningAllowed call.tenantId call.time) = true := by decide +kernel
  obtain ⟨call, hcall, hnot⟩ := (Option.any_eq_true _ _).1 hcall
  rw [h 5 call hcall] at hnot
  cases hnot

theorem Small.linked_running : Small.linked.running = [] := by decide +kernel

theorem Small.linked_orderly : Small.linked.db.Orderly := by
  have hrows : Small.linked.db.PayingRows := ⟨⟨by decide +kernel, by decide +kernel, by decide +kernel⟩,
    ⟨by decide +kernel, by decide +kernel⟩, by unfold Db.SubscriptionsLinked Db.HasSubscription; decide +kernel⟩
  exact hrows.orderly (by decide +kernel) (by unfold Db.InvoicesInOrder; decide +kernel) (by decide +kernel)

set_option maxRecDepth 100000 in
/-- The sync finds the subscription active and brings the open invoice again, which that carries. -/
private theorem sync_not_withdraws : ¬withdraws 1 8001 (run step Small.linked (Small.paidAndProvisioned.take 4))
    ⟨Small.openErpAt 5, .resyncTenantInvoices 1 20⟩ := by
  have hmoves : subscriptionMoves (run step Small.linked (Small.paidAndProvisioned.take 4))
      ⟨Small.openErpAt 5, .resyncTenantInvoices 1 20⟩ 1 = [] := by decide +kernel
  have hinvoices : (run step Small.linked (Small.paidAndProvisioned.take 4)).db.invoices = [Small.invoice] := by
    decide +kernel
  have hkept : (run step Small.linked (Small.paidAndProvisioned.take 4)).db.WellKept :=
    Small.wellKept_of_open hinvoices (by decide +kernel)
      (by decide +kernel) (by decide +kernel)
  refine not_or.2 ⟨?_, not_not.2 ?_⟩
  · rw [hmoves]
    rintro ⟨status, hmem, -⟩
    cases hmem
  · rw [hmoves]
    exact Small.openSync_fits hkept hinvoices (by decide +kernel) (by decide +kernel) (by decide +kernel)

set_option maxRecDepth 100000 in
private theorem paidAndProvisioned_keeps :
    Steps step (keepsEntitled 1 8001) Small.linked (Small.paidAndProvisioned.take 6) := by
  have hbefore : Steps step (fun w e => (entersProvisioning w e = some 1 → w.db.provisioningAllowed 1 8001 = true) ∧
      w.awaitsStrategy 1 = false) Small.linked (Small.paidAndProvisioned.take 4) := by decide +kernel
  obtain ⟨h₁, h₂, h₃, h₄, -⟩ := hbefore.mono fun w e h =>
    (⟨h.1, fun hawaits => absurd (h.2.symm.trans hawaits) (by decide)⟩ : keepsEntitled 1 8001 w e)
  exact ⟨h₁, h₂, h₃, h₄, ⟨fun henters => (by cases henters), fun _ => sync_not_withdraws⟩,
    ⟨fun henters => (by cases henters), fun _ => not_withdraws_of_quiet rfl rfl⟩, trivial⟩

set_option maxRecDepth 100000 in
/-- The strategy is called for a tenant that has paid and has opened nothing since. -/
theorem provisioned_after_payment : ((callAt Small.linked Small.paidAndProvisioned 6).any fun call =>
    call.rows.provisioningAllowed call.tenantId call.time) = true := by
  have hat : ∀ k < 7, ∀ call, callAt Small.linked Small.paidAndProvisioned k = some call →
      k = 6 ∧ call.tenantId = 1 ∧ call.time = 8001 := by
    have hcalls : ∀ k < 7, (callAt Small.linked Small.paidAndProvisioned k).all (fun call =>
        decide (k = 6 ∧ call.tenantId = 1 ∧ call.time = 8001)) = true := by decide +kernel
    intro k hk call hcall
    have hall := hcalls k hk
    rw [hcall, Option.all_some] at hall
    exact of_decide_eq_true hall
  have hsome : (callAt Small.linked Small.paidAndProvisioned 6).isSome = true := by decide +kernel
  obtain ⟨call, hcall⟩ := Option.isSome_iff_exists.1 hsome
  rw [hcall, Option.any_some]
  refine provisioned_with_entitlement Small.linked_orderly (fun t => ?_) (fun k call hcall => ?_) 6 call hcall
  · unfold World.awaitsStrategy
    rw [Small.linked_running]
    rfl
  · by_cases hk : k < 7
    · obtain ⟨rfl, htenant, htime⟩ := hat k hk call hcall
      rw [htenant, htime]
      exact paidAndProvisioned_keeps
    · unfold callAt at hcall
      rw [List.getElem?_eq_none (by exact Nat.le_of_not_lt hk)] at hcall
      cases hcall

end ControlPlane
