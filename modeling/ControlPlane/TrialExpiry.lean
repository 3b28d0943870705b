import ControlPlane.Permits
import ControlPlane.ProvisioningEntitlement
import ControlPlane.Subscription.Linked
import ControlPlane.Workers.TaskPhases

/-!
# What an expired trial leads to

`run_trial_lifecycle_cycle` takes a tenant out of service when its trial is over, if the table allows that, and passes over
a refusal.  A tenant that is being restored is left as it is, and its subscription is no longer trialing, so that no later
cycle comes back to it.
-/

namespace ControlPlane

open Table Session Session.Proc Runs

/-- The entitlements under which a tenant is served. -/
def servedEntitlements : List EntitlementState := [.active, .trialing, .grace]

/-- The tenant is active and the billing policy, asked at a time, entitles it. -/
def Db.servesEntitled (db : Db) (t : Nat) (time : Time) : Bool :=
  (db.tenant? t).any fun tenant =>
    tenant.status = .active && (evaluateTenantBillingPolicy db tenant time).entitlementState ∈ servedEntitlements

/-- What the policy would say of the tenant if it were active. -/
def Db.entitlesActive (db : Db) (t : Nat) (time : Time) : Bool :=
  (db.tenant? t).any fun tenant =>
    (evaluateTenantBillingPolicy db { tenant with status := .active } time).entitlementState ∈ servedEntitlements

/-- A payment for the tenant: a confirmed one is handled, or a reconciliation finds an invoice of it paid. -/
def paysFor (t : Nat) (w : World) (e : Event) : Prop :=
  handledEvent w e t = some .paymentConfirmed ∨ repairs w e t ≠ []

instance (t : Nat) (w : World) (e : Event) : Decidable (paysFor t w e) := inferInstanceAs (Decidable (_ ∨ _))

/-- A running task that is done with its outside work, or an administrator, makes the tenant active, and the policy would
entitle it then. -/
def wakes (t : Nat) (time : Time) (w : World) (e : Event) : Bool :=
  askedStatus w e = some (t, .active) && (w.status t).any (fun st => Allowed st .active) && !e.env.commitFails 0 &&
    w.db.entitlesActive t time

/-- Whether a subscription serves an active tenant, by the standing of its latest invoice and the status of its latest
attempt: where it carries a provisioning, and for a delinquent one while the invoice is open, in time and untried. -/
def SubscriptionStatus.serves (status : SubscriptionStatus) (latest : InvoiceStanding × Option AttemptStatus) : Bool :=
  status.carries latest || (status ∈ [SubscriptionStatus.pastDue, .paused] && latest = (.outstanding, none))

/-- A billing operation finds the tenant active and may bring it a latest invoice for which its subscription serves it:
another one, or the same with other dates, amounts or attempts. -/
def billsAnew (t : Nat) (time : Time) (w : World) (e : Event) : Prop :=
  e.op.asksErp = true ∧ w.status t = some .active ∧
    ¬e.Fits (fun latest => (tenantSubscriptionStatus w.db t).serves latest = false) t time w

/-! ### What the policy looks at -/

theorem Db.servesEntitled_eq (db : Db) (t : Nat) (time : Time) :
    db.servesEntitled t time = (db.tenantStatus t = some .active && db.entitlesActive t time) := by
  unfold Db.servesEntitled Db.entitlesActive Db.tenantStatus
  cases db.tenant? t with
  | none => rfl
  | some tenant =>
    rw [Option.any_some, Option.any_some, Option.map_some]
    by_cases hstatus : tenant.status = .active
    · have hsame : { tenant with status := .active } = tenant := by rw [← hstatus]
      rw [hsame, hstatus]
      simp
    · simp [hstatus]

theorem standingEntitlement_served (subscription : SubscriptionStatus) {latest : InvoiceStanding × Option AttemptStatus}
    (hlatest : latest.2 = some .paid → latest.1 = .paid) :
    decide (standingEntitlement .active subscription latest ∈ servedEntitlements) = subscription.serves latest := by
  have hallowed := standingEntitlement_allowed .active subscription hlatest
  unfold SubscriptionStatus.serves
  rw [← hallowed]
  by_cases hidle : subscription ∈ [SubscriptionStatus.pastDue, .paused] ∧ latest = (.outstanding, none)
  · obtain ⟨hdelinquent, rfl⟩ := hidle
    rw [standingEntitlement_idle]
    rcases List.mem_pair.1 hdelinquent with rfl | rfl <;> rfl
  · have hgrace : standingEntitlement .active subscription latest ≠ .grace := by
      intro hgrace
      obtain ⟨standing, attempt⟩ := latest
      by_cases hcancelled : subscription = .cancelled
      · rw [hcancelled, standingEntitlement_cancelled] at hgrace
        cases hgrace
      cases standing with
      | paid =>
        rw [standingEntitlement_paid _ _ hcancelled] at hgrace
        cases hgrace
      | voided =>
        rw [standingEntitlement_voided] at hgrace
        cases hgrace
      | lapsed =>
        rw [standingEntitlement_lapsed _ _ hcancelled] at hgrace
        cases hgrace
      | outstanding =>
        cases attempt with
        | none =>
          rw [standingEntitlement_idle] at hgrace
          revert hgrace hidle
          cases subscription <;> simp
        | some tried =>
          rw [standingEntitlement_tried _ hcancelled fun h => (by cases hlatest (congrArg some h))] at hgrace
          split at hgrace <;> cases hgrace
    have hnot : (decide (subscription ∈ [SubscriptionStatus.pastDue, .paused]) && decide (latest = (.outstanding, none))) =
        false := by
      rw [Bool.and_eq_false_iff]
      rcases not_and_or.1 hidle with h | h
      · exact Or.inl (decide_eq_false h)
      · exact Or.inr (decide_eq_false h)
    rw [hnot, Bool.or_false, decide_eq_decide]
    unfold servedEntitlements
    simp [hgrace]

/-- Whether the policy would entitle an active tenant is a matter of its subscription and its latest invoice. -/
theorem entitlesActive_eq (db : Db) (t : Nat) (time : Time) :
    db.entitlesActive t time =
      ((db.tenant? t).isSome && (tenantSubscriptionStatus db t).serves (db.latestStanding t time)) := by
  unfold Db.entitlesActive
  cases hrow : db.tenant? t with
  | none => rfl
  | some tenant =>
    unfold evaluateTenantBillingPolicy
    rw [Option.any_some, Option.isSome_some, Bool.true_and, (resolveBillingLifecycle_state db _ time _).2]
    show decide (standingEntitlement .active (tenantSubscriptionStatus db tenant.id) (db.latestStanding tenant.id time) ∈ _) =
      _
    rw [standingEntitlement_served _ (db.latestStanding_paid _ _ _), Db.tenant?_id hrow]

theorem Db.SameBilling.entitlesActive {base db : Db} {t : Nat} (h : base.SameBilling t db) (time : Time) :
    db.entitlesActive t time = base.entitlesActive t time := by
  rw [entitlesActive_eq, entitlesActive_eq, h.tenant, latestStanding_congr h.invoices h.attempts,
    tenantSubscriptionStatus_congr (subscriptionOf_congr h.subscriptions t)]

/-! ### Becoming active -/

/-- A commit, and what follows it without another word on the tenant's status. -/
theorem commit_status {β : Type} (env : Env) {g : Unit → Proc β} {t : Nat}
    (hg : ∀ s, s.work.tenantStatus t = s.saved.tenantStatus t →
      (g () s).2.saved.tenantStatus t = s.saved.tenantStatus t) (s : DbSession) :
    ((commit env >>= g) s).2.saved.tenantStatus t =
      if env.commitFails s.tick then s.saved.tenantStatus t else s.work.tenantStatus t := by
  rw [commit_bind]
  split
  · rfl
  · rw [hg _ rfl]
    exact Db.tenantStatus_flush ..

theorem unsuspendTenant_status (env : Env) {db : Db} (queue : List Task) {t : Nat} {st : TenantStatus}
    (hst : db.tenantStatus t = some st) :
    (unsuspendTenant env t (opened db queue)).2.saved.tenantStatus t =
      some (if Allowed st .active ∧ env.commitFails 0 = false then .active else st) := by
  unfold unsuspendTenant
  rw [change_bind]
  cases hmoved : moveTenantStatus t .active (env.clock (opened db queue : DbSession).tick)
      (env.erp (opened db queue : DbSession).tick) (opened db queue : DbSession).work with
  | error e =>
    have hno : ¬Allowed st .active := by
      intro hallowed
      obtain ⟨tenant, htenant, rfl⟩ := Option.map_eq_some_iff.1 hst
      unfold moveTenantStatus requireTenant at hmoved
      rw [show (opened db queue : DbSession).work.tenant? t = some tenant from htenant] at hmoved
      replace hmoved : (asConflict (transitionTenantStatus tenant .active) >>= fun tenant =>
        (pure ((), db.putTenant { tenant with updatedAt := env.clock 0 }) : Except PyError (Unit × Db))) = .error e := hmoved
      rw [transitionTenantStatus_of_allowed hallowed] at hmoved
      cases hmoved
    rw [if_neg fun h => hno h.1]
    exact hst
  | ok r =>
    obtain ⟨u, db'⟩ := r
    obtain ⟨tenant, htenant, hallowed, hmoves⟩ := moveTenantStatus_ok hmoved
    have hid := Db.tenant?_id htenant
    have hsame : st = tenant.status := Option.some.inj (hst.symm.trans (Db.tenantStatus_of_tenant? htenant))
    have hactive : db'.tenantStatus t = some .active := by
      rw [hmoves.tenantStatus t, if_pos hid.symm]
      show Option.map _ (db.tenantStatus t) = _
      rw [hst]
      rfl
    dsimp only
    rw [commit_status env fun s hs => ?_]
    · show (if env.commitFails 0 then db.tenantStatus t else db'.tenantStatus t) = _
      rw [hst, hactive]
      subst hsame
      cases env.commitFails 0 with
      | true => simp
      | false => simp [hallowed]
    · exact ((Watch.ofStatus t fun st => st = s.saved.tenantStatus t).kept_audit env _ _ _ |>.holds ⟨hs, rfl, trivial⟩).2.1

theorem step_askedActive {w : World} {e : Event} {t : Nat} {st : TenantStatus} (h : askedStatus w e = some (t, .active))
    (hst : w.status t = some st) :
    (step w e).status t = some (if Allowed st .active ∧ e.env.commitFails 0 = false then .active else st) := by
  obtain ⟨env, op⟩ := e
  cases op with
  | deleteTenant => cases h
  | suspendTenant => cases h
  | unsuspendTenant tenantId =>
    cases h
    exact unsuspendTenant_status env w.queue hst
  | taskPhase index outside =>
    obtain ⟨running, hrow, h⟩ := Option.bind_eq_some_iff.1 h
    obtain ⟨new, hmoves, heq⟩ := Option.map_eq_some_iff.1 h
    cases heq
    unfold step advanceTask
    dsimp only
    rw [hrow]
    exact taskPhase_moved outside w.queue hmoves hst
  | _ => cases h

/-- Nothing but a payment and such a request makes a tenant active. -/
theorem step_not_active {w : World} {e : Event} {t : Nat} (hconfirmed : handledEvent w e t ≠ some .paymentConfirmed)
    (hrepairs : repairs w e t = []) (hw : w.status t ≠ some .active)
    (hasked : ¬(askedStatus w e = some (t, .active) ∧ (w.status t).any (fun st => Allowed st .active) = true)) :
    (step w e).status t ≠ some .active := by
  have hsome : ∀ {st : TenantStatus}, st ≠ .active → some st ≠ some TenantStatus.active :=
    fun hst h => hst (Option.some.inj h)
  have hnot : ∀ {st : TenantStatus}, some st ≠ some TenantStatus.active → st ≠ .active := by
    rintro st hst rfl
    exact hst rfl
  have hpermits : (Watch.ofStatus t fun status => status ≠ some .active).Permits w e := by
    constructor
    case created => exact fun _ _ => ⟨hsome (by decide), fun _ _ _ => hsome (by decide)⟩
    case renewed => exact fun _ _ => hsome (by decide)
    case handled =>
      intro eventType htype st hst
      refine ⟨hsome ?_, fun _ _ => trivial⟩
      rw [hst] at hw
      have hinactive := hnot hw
      cases eventType with
      | paymentConfirmed => exact absurd htype hconfirmed
      | paymentFailed => exact paymentFailedStatus_ne_active st
      | subscriptionCancelled => exact fun h => by cases h
      | other name => exact hinactive
    case repaired =>
      intro v hv ht tenant subscription runtimeExists hrepair
      have hmem := mem_repairs hv ht hrepair
      rw [hrepairs] at hmem
      cases hmem
    case expired => exact fun _ _ st _ => hsome (trialExpiredStatus_ne_active st)
    case escalated => exact fun _ _ _ _ => hsome (by decide)
    case retried => exact fun _ _ => ⟨hsome (by decide), fun _ => trivial⟩
    case asked =>
      intro status hstatus st hst hallowed
      refine hsome fun hactive => hasked ?_
      subst hactive
      refine ⟨hstatus, ?_⟩
      rw [Option.any_eq_true]
      exact ⟨st, hst, decide_eq_true hallowed⟩
  exact (Watch.step ⟨hw, trivial⟩ hpermits).1

/-- A step that moves tenants only, and is no payment, serves the tenant, who was not served before, just when it wakes
it. -/
theorem wakes_iff {w : World} {e : Event} {t : Nat} {time : Time} (hop : e.op.movesTenantsOnly = true)
    (hw : w.db.servesEntitled t time = false) (hpays : ¬paysFor t w e) :
    wakes t time w e = false ↔ (step w e).db.servesEntitled t time = false := by
  obtain ⟨hconfirmed, hrepairs⟩ := not_or.1 hpays
  have hentitles := (step_preservesTenants (sameBilling_preserved w.db t w e) hop ⟨rfl, rfl, rfl, rfl⟩).entitlesActive time
  rw [Db.servesEntitled_eq, hentitles]
  by_cases hasked : askedStatus w e = some (t, .active) ∧ (w.status t).any (fun st => Allowed st .active) = true
  · -- a worker or an administrator asks for the active status: the billing rows stay, so they decide
    obtain ⟨hasks, hany⟩ := hasked
    obtain ⟨st, hst, hallowed⟩ := (Option.any_eq_true _ _).1 hany
    have hafter : (step w e).db.tenantStatus t = _ := step_askedActive hasks hst
    unfold wakes
    rw [decide_eq_true hasks, hany, Bool.true_and, Bool.true_and, hafter]
    cases hcommit : e.env.commitFails 0 with
    | false =>
      rw [if_pos ⟨of_decide_eq_true hallowed, rfl⟩]
      simp
    | true =>
      rw [if_neg (fun h => absurd h.2 (by decide))]
      rw [Db.servesEntitled_eq, show w.db.tenantStatus t = some st from hst] at hw
      simpa using hw
  · have hwakes : wakes t time w e = false := by
      unfold wakes
      rw [Bool.and_eq_false_iff, Bool.and_eq_false_iff, Bool.and_eq_false_iff]
      by_cases hasks : askedStatus w e = some (t, .active)
      · exact Or.inl (Or.inl (Or.inr (Bool.eq_false_iff.2 fun hany => hasked ⟨hasks, hany⟩)))
      · exact Or.inl (Or.inl (Or.inl (decide_eq_false hasks)))
    refine iff_of_true hwakes ?_
    by_cases hactive : w.status t = some .active
    · rw [Db.servesEntitled_eq, show w.db.tenantStatus t = some .active from hactive, decide_eq_true rfl,
        Bool.true_and] at hw
      rw [hw, Bool.and_false]
    · have hinactive : (step w e).db.tenantStatus t ≠ some .active :=
        step_not_active hconfirmed (not_not.1 hrepairs) hactive hasked
      rw [decide_eq_false hinactive, Bool.false_and]

/-- A billing operation that is no payment and bills the tenant nothing anew leaves it unserved. -/
theorem step_unserved {w : World} {e : Event} {t : Nat} {time : Time} (hop : e.op.movesTenantsOnly = false)
    (hrows : w.db.Orderly) (hw : w.db.servesEntitled t time = false) (hpays : ¬paysFor t w e)
    (hbills : ¬billsAnew t time w e) : (step w e).db.servesEntitled t time = false := by
  obtain ⟨hconfirmed, hrepairs⟩ := not_or.1 hpays
  have hasked : ¬(askedStatus w e = some (t, .active) ∧ (w.status t).any (fun st => Allowed st .active) = true) := by
    rintro ⟨hasks, -⟩
    obtain ⟨env, op⟩ := e
    cases op <;> first | exact absurd hop Bool.noConfusion | cases hasks
  by_cases hafter : (step w e).status t = some .active
  · -- only a tenant that was active is active, and its subscription is as it was
    have hactive : w.status t = some .active := by
      by_contra hinactive
      exact step_not_active hconfirmed (not_not.1 hrepairs) hinactive hasked hafter
    have hsubscription :=
      step_active_subscription hrows.rows (Watch.ne_fresh hactive) hconfirmed (not_not.1 hrepairs) hafter
    have htenant : (w.db.tenant? t).isSome = true := by
      obtain ⟨tenant, htenant, -⟩ := Option.map_eq_some_iff.1 hactive
      rw [htenant]
      rfl
    have hfits : e.Fits (fun latest => (tenantSubscriptionStatus w.db t).serves latest = false) t time w := by
      by_contra hnot
      cases hasks : e.op.asksErp with
      | true => exact hbills ⟨hasks, hactive, hnot⟩
      | false =>
        refine hnot fun hasks' => ?_
        rw [hasks] at hasks'
        cases hasks'
    rw [Db.servesEntitled_eq, entitlesActive_eq, show w.db.tenantStatus t = some .active from hactive, htenant,
      decide_eq_true rfl, Bool.true_and, Bool.true_and] at hw
    rw [Db.servesEntitled_eq, entitlesActive_eq, hsubscription, step_latestStanding hrows hfits hw, Bool.and_false,
      Bool.and_false]
  · rw [Db.servesEntitled_eq, decide_eq_false (show (step w e).db.tenantStatus t ≠ some .active from hafter),
      Bool.false_and]

/-- A step that is no payment and bills the tenant nothing anew serves it, who was not served before, just when it wakes
it. -/
theorem step_servesEntitled {w : World} {e : Event} {t : Nat} {time : Time} (hrows : w.db.Orderly)
    (hw : w.db.servesEntitled t time = false) (hpays : ¬paysFor t w e) (hbills : ¬billsAnew t time w e) :
    wakes t time w e = false ↔ (step w e).db.servesEntitled t time = false := by
  cases hop : e.op.movesTenantsOnly with
  | true => exact wakes_iff hop hw hpays
  | false =>
    refine iff_of_true ?_ (step_unserved hop hrows hw hpays hbills)
    obtain ⟨env, op⟩ := e
    cases op <;> first | rfl | cases hop

/-! ### The cycle -/

/-- The trial of the subscription `id` is over, and it has a tenant. -/
def TrialPending (id t : Nat) (now : Time) (db : Db) : Prop :=
  (∃ s, get? db.subscriptions id = some s ∧ s.tenantId = t ∧ s.trialOver now = true) ∧ (db.tenant? t).isSome = true

/-- The subscription is not trialing any more, and the tenant is not active. -/
def TrialEnded (id t : Nat) (now : Time) (db : Db) : Prop :=
  (∃ s, get? db.subscriptions id = some s ∧ s.tenantId = t ∧ s.trialOver now = false) ∧
    (db.tenant? t).isSome = true ∧ db.tenantStatus t ≠ some .active

/-- No trial of the subscription `id` is over. -/
def NoTrialOver (id : Nat) (now : Time) (db : Db) : Prop :=
  ∀ s, get? db.subscriptions id = some s → s.trialOver now = false

theorem get?_pastDue {db : Db} {s : Subscription} {id : Nat} (hs : get? db.subscriptions id = some s) (i : Nat) :
    get? (db.putSubscription { s with status := .pastDue }).subscriptions i =
      if i = id then some { s with status := .pastDue } else get? db.subscriptions i := by
  have hput := get?_put db.subscriptions { s with status := SubscriptionStatus.pastDue } i
  have hkey : key ({ s with status := SubscriptionStatus.pastDue } : Subscription) = id := by
    rw [← key_of_get? hs]
    rfl
  rw [hkey] at hput
  refine hput.trans ?_
  split
  · rename_i hi
    rw [hi, hs]
    rfl
  · rfl

/-- What a visit of the cycle leaves of a subscription and of a tenant. -/
theorem expireTrial_rows {id : Nat} {now : Time} {db db' : Db} {expired : Option Nat}
    (h : expireTrial id now db = .ok (expired, db')) (i t : Nat) :
    (get? db'.subscriptions i = get? db.subscriptions i ∨ i = id ∧ ∃ s, get? db.subscriptions i = some s ∧
      get? db'.subscriptions i = some { s with status := .pastDue }) ∧
    (db'.tenant? t).isSome = (db.tenant? t).isSome ∧
    (db'.tenantStatus t = db.tenantStatus t ∨ db'.tenantStatus t ≠ some .active) := by
  rcases expireTrial_cases h with ⟨rfl, -⟩ | ⟨s, tenant, hs, htenant, -, rfl⟩
  · exact ⟨Or.inl rfl, rfl, Or.inl rfl⟩
  · refine ⟨?_, isSome_putTenant _ _ t, ?_⟩
    · have hrow := get?_pastDue hs i
      by_cases hi : i = id
      · subst hi
        rw [if_pos rfl] at hrow
        exact Or.inr ⟨rfl, s, hs, hrow⟩
      · rw [if_neg hi] at hrow
        exact Or.inl hrow
    · rw [Db.tenantStatus_putTenant]
      split
      · refine Or.inr fun hactive => ?_
        obtain ⟨st, -, hst⟩ := Option.map_eq_some_iff.1 hactive
        exact trialExpiredStatus_ne_active _ hst
      · exact Or.inl rfl

section

variable {id t : Nat} {now : Time}

theorem TrialPending.steady : Steady (TrialPending id t now) where
  core db db' hcore h := by
    unfold TrialPending Db.tenant?
    rw [Db.subscriptions_of_core hcore, Db.tenants_of_core hcore]
    exact h
  flush time saved work h := by
    refine ⟨h.1, ?_⟩
    obtain ⟨stamp, hrow⟩ := Db.tenant?_flush time saved work t
    rw [hrow, Option.isSome_map]
    exact h.2

theorem TrialEnded.steady : Steady (TrialEnded id t now) where
  core db db' hcore h := by
    unfold TrialEnded Db.tenantStatus Db.tenant?
    rw [Db.subscriptions_of_core hcore, Db.tenants_of_core hcore]
    exact h
  flush time saved work h := by
    refine ⟨h.1, ?_, ?_⟩
    · obtain ⟨stamp, hrow⟩ := Db.tenant?_flush time saved work t
      rw [hrow, Option.isSome_map]
      exact h.2.1
    · rw [Db.tenantStatus_flush]
      exact h.2.2

theorem NoTrialOver.steady : Steady (NoTrialOver id now) where
  core db db' hcore h := by
    unfold NoTrialOver
    rw [Db.subscriptions_of_core hcore]
    exact h
  flush _ _ _ h := h

private theorem pastDue_not_over (s : Subscription) : Subscription.trialOver { s with status := .pastDue } now = false :=
  decide_eq_false fun h => SubscriptionStatus.noConfusion h.1

theorem NoTrialOver.expire {i : Nat} {db db' : Db} {expired : Option Nat} (h : NoTrialOver id now db)
    (hr : expireTrial i now db = .ok (expired, db')) : NoTrialOver id now db' := by
  intro s hs
  rcases (expireTrial_rows hr id 0).1 with hsame | ⟨-, old, -, hrow⟩
  · exact h s (hsame ▸ hs)
  · rw [hrow] at hs
    cases hs
    exact pastDue_not_over old

theorem TrialEnded.expire {i : Nat} {db db' : Db} {expired : Option Nat} (h : TrialEnded id t now db)
    (hr : expireTrial i now db = .ok (expired, db')) : TrialEnded id t now db' := by
  obtain ⟨⟨s, hs, htenant, hover⟩, hsome, hactive⟩ := h
  obtain ⟨hrow, hthere, hstatus⟩ := expireTrial_rows hr id t
  refine ⟨?_, hthere.trans hsome, ?_⟩
  · rcases hrow with hsame | ⟨-, old, hold, hrow⟩
    · exact ⟨s, hsame.trans hs, htenant, hover⟩
    · rw [hs] at hold
      cases hold
      exact ⟨_, hrow, htenant, pastDue_not_over s⟩
  · rcases hstatus with hsame | hnot
    · rw [hsame]
      exact hactive
    · exact hnot

/-- The visit of a trial that is over ends it, and the others leave it as it is or end it too. -/
theorem TrialPending.expire {i : Nat} {db db' : Db} {expired : Option Nat} (h : TrialPending id t now db)
    (hr : expireTrial i now db = .ok (expired, db')) :
    TrialEnded id t now db' ∨ (i ≠ id ∧ TrialPending id t now db') := by
  obtain ⟨⟨s, hs, htenant, hover⟩, hsome⟩ := h
  obtain ⟨hrow, hthere, hstatus⟩ := expireTrial_rows hr id t
  by_cases hi : i = id
  · subst hi
    rcases expireTrial_cases hr with ⟨rfl, hnone⟩ | ⟨s', tenant, hs', hold, -, rfl⟩
    · rcases hnone s hs with hno | hno
      · rw [hover] at hno
        cases hno
      · rw [htenant] at hno
        rw [hno] at hsome
        cases hsome
    · rw [hs] at hs'
      cases hs'
      refine Or.inl ⟨?_, hthere.trans hsome, ?_⟩
      · have hrow := get?_pastDue hs i
        rw [if_pos rfl] at hrow
        exact ⟨_, hrow, htenant, pastDue_not_over s⟩
      · rw [Db.tenantStatus_putTenant, if_pos (htenant.symm.trans (Db.tenant?_id hold).symm)]
        intro hactive
        obtain ⟨st, -, hst⟩ := Option.map_eq_some_iff.1 hactive
        exact trialExpiredStatus_ne_active _ hst
  · refine Or.inr ⟨hi, ⟨s, ?_, htenant, hover⟩, hthere.trans hsome⟩
    rcases hrow with hsame | ⟨heq, -⟩
    · exact hsame.trans hs
    · exact absurd heq.symm hi

/-- What the rows of a visit become stays so until the next visit. -/
theorem triple_trialCandidate {P R : Db → Prop} {i : Nat} (env : Env) (hR : Steady R)
    (h : ∀ db r db', P db → expireTrial i now db = .ok (r, db') → R db') :
    Triple (fun s => P s.work) (trialCandidate env now i) (fun _ s => R s.work) fun _ => True := by
  refine Triple.bind (R := fun _ s => R s.work) (fun s hs => ?_) fun expired => ?_
  · rw [change_apply]
    cases hr : expireTrial i now s.work with
    | error e => trivial
    | ok r => exact h _ _ _ hs hr
  · cases expired with
    | none => exact fun _ hs => hs
    | some tenantId => exact hR.recordAuditEvent env _ _ _

theorem keepsWork_trialCandidate {K : Db → Prop} (env : Env) (hK : Steady K)
    (h : ∀ i db r db', K db → expireTrial i now db = .ok (r, db') → K db') (i : Nat) :
    KeepsWork K (trialCandidate env now i) := triple_trialCandidate env hK (h i)

/-- A cycle that returned has made its visits and committed. -/
theorem runTrialLifecycleCycle_returned {env : Env} {db : Db} {queue : List Task} {s' : DbSession}
    (h : runTrialLifecycleCycle env false (opened db queue) = (.ok (), s')) :
    ∃ s₁ : DbSession, s'.saved = s'.work ∧ commit env s₁ = (.ok (), s') ∧
      Proc.forEach (trialCandidate env (env.clock 0)) (expiredTrials db (env.clock 0)) (opened db queue) = (.ok (), s₁) := by
  unfold runTrialLifecycleCycle at h
  rw [bind_ok (utcnow_apply env _), if_neg (by decide)] at h
  rcases of_attempt_ok h with hcycle | ⟨e, s₁, -, hraised⟩
  · rw [bind_ok (read_apply _)] at hcycle
    obtain ⟨_, s₁, hvisits, hcommit⟩ := of_bind_returned hcycle
    refine ⟨s₁, ?_, hcommit, hvisits⟩
    rw [commit_apply] at hcommit
    split at hcommit
    · cases hcommit
    · cases hcommit
      rfl
  · cases hraised

/-- What holds of the rows at the end of the visits is committed. -/
theorem saved_of_commit {env : Env} {s s' : DbSession} {R : Db → Prop} (hR : Steady R)
    (hsaved : s'.saved = s'.work) (hcommit : commit env s = (.ok (), s')) (h : R s.work) : R s'.saved := by
  rw [hsaved]
  exact (hR.commit env).of_ok h hcommit

end

/-- After the cycle the subscription of every trial that was over is not trialing, and its tenant is not active. -/
theorem trialCycle_ended {env : Env} {db : Db} {queue : List Task} {s' : DbSession} {subscription : Subscription}
    (hids : (db.subscriptions.map Subscription.id).Nodup)
    (h : runTrialLifecycleCycle env false (opened db queue) = (.ok (), s')) (hmem : subscription ∈ db.subscriptions)
    (hover : subscription.trialOver (env.clock 0) = true) (htenant : (db.tenant? subscription.tenantId).isSome = true) :
    TrialEnded subscription.id subscription.tenantId (env.clock 0) s'.saved := by
  obtain ⟨s₁, hsaved, hcommit, hvisits⟩ := runTrialLifecycleCycle_returned h
  have hpending : TrialPending subscription.id subscription.tenantId (env.clock 0) db :=
    ⟨⟨subscription, get?_of_mem hids hmem, rfl, hover⟩, htenant⟩
  have hcandidate : subscription.id ∈ expiredTrials db (env.clock 0) := by
    refine List.mem_map.2 ⟨subscription, (List.mem_insertionSort _).2 (List.mem_filter.2 ⟨hmem, ?_⟩), rfl⟩
    exact hover
  let K : Db → Prop := fun rows => TrialPending subscription.id subscription.tenantId (env.clock 0) rows ∨
    TrialEnded subscription.id subscription.tenantId (env.clock 0) rows
  -- until its visit the trial is pending, and after it ended
  have hsteady : Steady K := by
    constructor
    · exact fun db db' hcore => Or.imp (TrialPending.steady.core db db' hcore) (TrialEnded.steady.core db db' hcore)
    · exact fun now saved work =>
        Or.imp (TrialPending.steady.flush now saved work) (TrialEnded.steady.flush now saved work)
  have hround : Triple (fun s : DbSession => K s.work) (trialCandidate env (env.clock 0) subscription.id)
      (fun _ s => TrialEnded subscription.id subscription.tenantId (env.clock 0) s.work) fun _ => True := by
    refine triple_trialCandidate (P := K) env TrialEnded.steady fun rows r rows' hrows hr => ?_
    rcases hrows with hrows | hrows
    · exact (hrows.expire hr).resolve_right fun hother => hother.1 rfl
    · exact hrows.expire hr
  refine saved_of_commit TrialEnded.steady hsaved hcommit (forEach_reaches
    (keepsWork_trialCandidate env hsteady fun i rows r rows' hrows hr => ?_)
    (keepsWork_trialCandidate env TrialEnded.steady fun _ _ _ _ hrows => hrows.expire) hround hcandidate
    (Or.inl hpending) hvisits)
  rcases hrows with hrows | hrows
  · exact (hrows.expire hr).symm.imp And.right id
  · exact Or.inr (hrows.expire hr)

/-- What the cycle does not touch: which subscriptions and tenants there are, and which tenant a subscription is of. -/
structure SameHolders (base db : Db) : Prop where
  ids : db.subscriptions.map Subscription.id = base.subscriptions.map Subscription.id
  holders : ∀ id, (get? db.subscriptions id).map Subscription.tenantId =
    (get? base.subscriptions id).map Subscription.tenantId
  tenants : ∀ t, (db.tenant? t).isSome = (base.tenant? t).isSome

theorem SameHolders.steady (base : Db) : Steady (SameHolders base) where
  core db db' hcore h := by
    refine ⟨?_, fun id => ?_, fun t => ?_⟩
    · rw [Db.subscriptions_of_core hcore]
      exact h.ids
    · rw [Db.subscriptions_of_core hcore]
      exact h.holders id
    · rw [show db'.tenant? t = db.tenant? t from congrArg (get? · t) (Db.tenants_of_core hcore)]
      exact h.tenants t
  flush now saved work h := by
    refine ⟨h.ids, h.holders, fun t => ?_⟩
    obtain ⟨stamp, hrow⟩ := Db.tenant?_flush now saved work t
    rw [hrow, Option.isSome_map]
    exact h.tenants t

theorem SameHolders.expire {base db db' : Db} {i : Nat} {now : Time} {expired : Option Nat} (h : SameHolders base db)
    (hr : expireTrial i now db = .ok (expired, db')) : SameHolders base db' := by
  refine ⟨?_, fun id => ?_, fun t => (expireTrial_rows hr i t).2.1.trans (h.tenants t)⟩
  · rcases expireTrial_cases hr with ⟨rfl, -⟩ | ⟨s, tenant, -, -, -, rfl⟩
    · exact h.ids
    · exact (map_key_put db.subscriptions { s with status := SubscriptionStatus.pastDue }).trans h.ids
  · rw [← h.holders id]
    rcases (expireTrial_rows hr id 0).1 with hsame | ⟨-, s, hs, hrow⟩
    · rw [hsame]
    · rw [hrow, hs]
      rfl

/-- After the cycle no subscription that has a tenant is trialing beyond its end. -/
theorem trialCycle_none_over {env : Env} {db : Db} {queue : List Task} {s' : DbSession}
    (hids : (db.subscriptions.map Subscription.id).Nodup)
    (h : runTrialLifecycleCycle env false (opened db queue) = (.ok (), s')) {subscription : Subscription}
    (hmem : subscription ∈ s'.saved.subscriptions) (htenant : (s'.saved.tenant? subscription.tenantId).isSome = true) :
    subscription.trialOver (env.clock 0) = false := by
  obtain ⟨s₁, hsaved, hcommit, hvisits⟩ := runTrialLifecycleCycle_returned h
  have hkept : ∀ {K : Db → Prop}, Steady K →
      (∀ i rows r rows', K rows → expireTrial i (env.clock 0) rows = .ok (r, rows') → K rows') → K db → K s'.saved := by
    intro K hsteady hexpire hK
    exact saved_of_commit hsteady hsaved hcommit
      ((KeepsWork.forEach (keepsWork_trialCandidate env hsteady hexpire) _).of_ok hK hvisits)
  have hholders : SameHolders db s'.saved :=
    hkept (SameHolders.steady db) (fun _ _ _ _ hrows => hrows.expire) ⟨rfl, fun _ => rfl, fun _ => rfl⟩
  have hrow : get? s'.saved.subscriptions subscription.id = some subscription :=
    get?_of_mem (by rw [show s'.saved.subscriptions.map key = db.subscriptions.map Subscription.id from hholders.ids];
                    exact hids) hmem
  have hholder := hholders.holders subscription.id
  rw [hrow] at hholder
  obtain ⟨before, hbefore, hsame⟩ := Option.map_eq_some_iff.1 hholder.symm
  have hid : before.id = subscription.id := key_of_get? hbefore
  cases hover : before.trialOver (env.clock 0) with
  | false =>
    have hnone : NoTrialOver subscription.id (env.clock 0) db := by
      intro s hs
      rw [hbefore] at hs
      cases hs
      exact hover
    exact hkept NoTrialOver.steady (fun _ _ _ _ hrows => hrows.expire) hnone _ hrow
  | true =>
    rw [← hsame, hholders.tenants] at htenant
    obtain ⟨⟨s, hs, -, hended⟩, -⟩ := trialCycle_ended hids h (mem_of_get? hbefore) hover htenant
    rw [hid, hrow] at hs
    cases hs
    exact hended

/-- After a trial cycle no trial with a tenant is over, and a tenant whose trial it ended is served again, in a run that has
no payment for it and bills it nothing anew, just when a step wakes it. -/
theorem trial_expiry_lasts_iff {w : World} {env : Env} (hids : (w.db.subscriptions.map Subscription.id).Nodup)
    (hreturns : (runTrialLifecycleCycle env false (opened w.db w.queue)).1 = .ok ()) :
    (∀ s ∈ (step w ⟨env, .trialCycle false⟩).db.subscriptions,
      ((step w ⟨env, .trialCycle false⟩).db.tenant? s.tenantId).isSome = true → s.trialOver (env.clock 0) = false) ∧
    (w.db.Orderly → ∀ s ∈ w.db.subscriptions, s.trialOver (env.clock 0) = true →
      (w.db.tenant? s.tenantId).isSome = true → ∀ time es,
        Steps step (fun w e => ¬paysFor s.tenantId w e ∧ ¬billsAnew s.tenantId time w e)
            (step w ⟨env, .trialCycle false⟩) es →
          (Steps step (fun w e => wakes s.tenantId time w e = false) (step w ⟨env, .trialCycle false⟩) es ↔
            Always step (fun w => w.db.servesEntitled s.tenantId time = false) (step w ⟨env, .trialCycle false⟩) es)) := by
  obtain ⟨s', hcycle⟩ : ∃ s', runTrialLifecycleCycle env false (opened w.db w.queue) = (.ok (), s') :=
    ⟨_, Prod.ext hreturns rfl⟩
  have hrows : (step w ⟨env, .trialCycle false⟩).db = s'.saved :=
    show (runTrialLifecycleCycle env false (opened w.db w.queue)).2.saved = s'.saved by rw [hcycle]
  constructor
  · intro s hs htenant
    rw [hrows] at hs htenant
    exact trialCycle_none_over hids hcycle hs htenant
  · intro horderly s hs hover htenant time es hquiet
    obtain ⟨-, -, hinactive⟩ := trialCycle_ended hids hcycle hs hover htenant
    have hended : (step w ⟨env, .trialCycle false⟩).db.servesEntitled s.tenantId time = false := by
      rw [hrows, Db.servesEntitled_eq, decide_eq_false hinactive, Bool.false_and]
    rw [steps_iff_always_of (I := fun w : World => w.db.Orderly ∧ w.db.servesEntitled s.tenantId time = false)
      (fun w' e hw hquiet => (step_servesEntitled hw.1 hw.2 hquiet.1 hquiet.2).trans
        ⟨fun h => ⟨step_orderly e hw.1, h⟩, And.right⟩) ⟨step_orderly _ horderly, hended⟩ hquiet]
    -- the rows are kept in any case
    constructor
    · exact fun h => h.mono fun _ => And.right
    · exact fun h => (Always.of_invariant (I := fun w : World => w.db.Orderly) (fun _ e hw => step_orderly e hw)
        (step_orderly _ horderly) es).and h

/-! ### A restore that outlasts the trial -/

/-- An active tenant with a trial that ends at 5000. -/
def Small.onTrial : World :=
  let w := Small.after ([Small.createTenant, Small.webhook .paymentConfirmed "evt_1"] ++ Small.runTask 0 5)
  let subscriptions := w.db.subscriptions.map fun s => { s with status := .trialing, trialEndsAt := some 5000 }
  { w with db := { w.db with subscriptions := subscriptions } }

/-- The tenant restores a backup, and the bench has done its part. -/
def Small.restoring : World :=
  Runs.run step Small.onTrial
    (Small.events ([.backupTenant 1] ++ Small.runTask 1 5 ++ [.restoreTenant 1 1] ++ Small.runTask 2 3))

set_option maxRecDepth 100000 in
/-- The cycle finds the tenant `restoring` and leaves it so; when the restore is done, the tenant is active and in
grace. -/
theorem restored_after_trial :
    (Small.restoring.db.subscriptions.map Subscription.id).Nodup ∧
      (runTrialLifecycleCycle (Small.envAt 10) false (opened Small.restoring.db Small.restoring.queue)).1 = .ok () ∧
      (∃ s ∈ Small.restoring.db.subscriptions, s.tenantId = 1 ∧ s.trialOver ((Small.envAt 10).clock 0) = true) ∧
      (Small.restoring.db.tenant? 1).isSome = true ∧
      Steps step (fun w e => ¬paysFor 1 w e) (step Small.restoring ⟨Small.envAt 10, .trialCycle false⟩)
        [⟨Small.envAt 11, .taskPhase 0 (.ok "")⟩] ∧
      ¬Always step (fun w => w.db.servesEntitled 1 12000 = false)
        (step Small.restoring ⟨Small.envAt 10, .trialCycle false⟩) [⟨Small.envAt 11, .taskPhase 0 (.ok "")⟩] := by
  decide +kernel

/-- A customer of the ERP, on a trial that ends at 5000, restores a backup with a checkout open for its invoice, and the bench
has done its part. -/
def Small.owing : World :=
  let w := Runs.run step Small.linked (Small.events ([Small.webhook .paymentConfirmed "evt_1"] ++ Small.runTask 0 5 ++
    [.backupTenant 1] ++ Small.runTask 1 5 ++ [.restoreTenant 1 1] ++ Small.runTask 2 3 ++ [.createPaymentAttempt 1 none]))
  let subscriptions := w.db.subscriptions.map fun s => { s with status := .trialing, trialEndsAt := some 5000 }
  { w with db := { w.db with subscriptions := subscriptions } }

/-- The restore is done, the tenant's invoices are synced, and the trial cycle runs again. -/
def Small.afterTrial : List Event :=
  [⟨Small.envAt 11, .taskPhase 0 (.ok "")⟩, ⟨Small.openErpAt 12, .resyncTenantInvoices 1 20⟩,
    ⟨Small.envAt 13, .trialCycle false⟩]

set_option maxRecDepth 100000 in
private theorem owing_over : ∃ s ∈ Small.owing.db.subscriptions,
    s.trialOver ((Small.envAt 10).clock 0) = true ∧ (Small.owing.db.tenant? s.tenantId).isSome = true ∧
      s.tenantId = 1 := by
  decide +kernel

set_option maxRecDepth 100000 in
private theorem owing_orderly : Small.owing.db.Orderly := by
  have hrows : Small.owing.db.PayingRows := ⟨⟨by decide +kernel, by decide +kernel, by decide +kernel⟩,
    ⟨by decide +kernel, by decide +kernel⟩, by unfold Db.SubscriptionsLinked Db.HasSubscription; decide +kernel⟩
  exact hrows.orderly (by decide +kernel) (by unfold Db.InvoicesInOrder; decide +kernel) (by decide +kernel)

set_option maxRecDepth 100000 in
/-- The sync finds the tenant active and past due, and brings the open invoice again, with its checkout. -/
private theorem sync_bills_nothing : ¬billsAnew 1 13000
    (Runs.run step (step Small.owing ⟨Small.envAt 10, .trialCycle false⟩) (Small.afterTrial.take 1))
    ⟨Small.openErpAt 12, .resyncTenantInvoices 1 20⟩ := by
  have hinvoices : (Runs.run step (step Small.owing ⟨Small.envAt 10, .trialCycle false⟩)
      (Small.afterTrial.take 1)).db.invoices = [Small.invoice] := by decide +kernel
  rintro ⟨-, -, hnot⟩
  refine hnot (Small.openSync_fits ?_ hinvoices (by decide +kernel) (by decide +kernel) (by decide +kernel))
  exact Small.wellKept_of_open hinvoices (by decide +kernel)
    (by decide +kernel) (by decide +kernel)

set_option maxRecDepth 100000 in
theorem not_served_after_trial :
    Always step (fun w => w.db.servesEntitled 1 13000 = false) (step Small.owing ⟨Small.envAt 10, .trialCycle false⟩)
      Small.afterTrial := by
  obtain ⟨s, hs, hover, htenant, hid⟩ := owing_over
  have h := (trial_expiry_lasts_iff (w := Small.owing) (by decide +kernel) (by decide +kernel)).2
    owing_orderly s hs hover htenant 13000 Small.afterTrial
  rw [hid] at h
  have hunpaid : Steps step (fun w e => ¬paysFor 1 w e) (step Small.owing ⟨Small.envAt 10, .trialCycle false⟩)
      Small.afterTrial := by decide +kernel
  obtain ⟨h₁, h₂, h₃, -⟩ := hunpaid
  -- the phase and the cycle ask the ERP nothing
  have hasks : ∀ {w : World} {e : Event}, e.op.asksErp = false → ¬billsAnew 1 13000 w e := by
    rintro w e hnot ⟨hasks, -⟩
    rw [hnot] at hasks
    cases hasks
  exact (h ⟨⟨h₁, hasks rfl⟩, ⟨h₂, sync_bills_nothing⟩, ⟨h₃, hasks rfl⟩, trivial⟩).1 (by decide +kernel)

end ControlPlane
