import ControlPlane.DunningSchedule
import ControlPlane.TrialExpiry

/-!
# Dry runs

The trial and dunning cycles count what they come across and notify the owners.  Here they are with their summaries and
their messages; less these they are the cycles of before.  A visit counts what its own rows say, and the visits before it
have left those alone: a dry run, which writes none of them, counts what the real one counts.
-/

namespace ControlPlane

open Table Session Session.Proc

structure NotificationMessage where
  toEmail : String
  subject : String
  text : String
  deriving DecidableEq, Repr

/-- The notification channels, which take a message or do not, and the texts that messages quote. -/
structure NotificationService where
  send : NotificationMessage → Bool
  mailSupportEmail : String
  isoformat : Time → String
  invoiceUrl : String → String

namespace NotificationService

/-- `send_trial_expiring_soon`. -/
def trialExpiringSoon (service : NotificationService) (toEmail domain : String) (trialEndsAt : Time)
    (daysRemaining : Nat) : NotificationMessage :=
  { toEmail := toEmail
    subject := "Trial ending soon"
    text := "Your trial for " ++ domain ++ " ends in " ++ toString daysRemaining ++
      " days. Upgrade to keep access.\n\nTrial end: " ++ service.isoformat trialEndsAt }

/-- `send_tenant_suspended`. -/
def tenantSuspended (service : NotificationService) (email domain reason : String) : NotificationMessage :=
  { toEmail := email
    subject := "Tenant suspended"
    text := "Your tenant " ++ domain ++ " has been suspended.\n\nReason: " ++ reason ++ "\nSupport: " ++
      service.mailSupportEmail }

/-- The reminder of a payment, with the ERP's latest invoice if it named one. -/
def paymentReminder (service : NotificationService) (toEmail domain : String) (lastInvoiceId : Option String) :
    NotificationMessage :=
  let invoiceHint := lastInvoiceId.getD "latest outstanding invoice"
  let invoiceUrl := ((lastInvoiceId.map service.invoiceUrl).bind nonEmpty).getD
    "https://erp.blenkotechnologies.co.tz/billing"
  { toEmail := toEmail
    subject := "Payment reminder for " ++ domain
    text := "Your workspace " ++ domain ++ " requires payment follow-up.\n\nInvoice: " ++ invoiceHint ++
      "\nOpen billing: " ++ invoiceUrl ++ "\n\nPlease complete payment to avoid service suspension." }

end NotificationService

/-! ### Trials -/

/-- The summary of a trial cycle, the messages it handed over, and the keys of the warnings sent so far. -/
structure TrialSummary where
  checked : Nat
  expired : Nat
  pastDue : Nat
  tenantPendingPayment : Nat
  tenantSuspended : Nat
  trialWarningsSent : Nat
  notified : List NotificationMessage
  warned : List (Nat × Nat)
  deriving DecidableEq, Repr

/-- The trialing subscriptions whose trial is over within seven days. -/
def warningCandidates (db : Db) (now : Time) : List Subscription :=
  db.subscriptions.filter fun s => s.status = .trialing ∧ ∃ ends ∈ s.trialEndsAt, now < ends ∧ ends ≤ now + days 7

/-- Warn one owner, once for each of the two warnings: a warning that was not sent may be tried again. -/
def warnOfTrialEnd (service : NotificationService) (db : Db) (now : Time) (summary : TrialSummary)
    (subscription : Subscription) : TrialSummary :=
  match subscription.trialEndsAt, (db.tenant? subscription.tenantId).map fun t => (t, db.user? t.ownerId) with
  | some trialEnds, some (tenant, some owner) =>
    let daysRemaining := trialEnds / days 1 - now / days 1
    let warningDays := if 4 ≤ daysRemaining then 7 else 3
    if (subscription.id, warningDays) ∈ summary.warned then summary
    else
      let message := service.trialExpiringSoon owner.email tenant.domain trialEnds warningDays
      let summary := { summary with notified := summary.notified ++ [message] }
      if service.send message then
        { summary with
          trialWarningsSent := summary.trialWarningsSent + 1
          warned := (subscription.id, warningDays) :: summary.warned }
      else summary
  | _, _ => summary

/-- `_send_trial_expiration_warnings`. -/
def sendTrialExpirationWarnings (service : NotificationService) (warned : List (Nat × Nat)) (now : Time) (dryRun : Bool)
    (db : Db) : TrialSummary :=
  let summary : TrialSummary := ⟨0, 0, 0, 0, 0, 0, [], warned⟩
  if dryRun then summary else (warningCandidates db now).foldl (warnOfTrialEnd service db now) summary

/-- What is counted of a tenant whose trial expires, by the status it had, and the message to its owner if it ends up
suspended for billing. -/
def countTrialExpired (service : NotificationService) (owner : Option User) (tenant : Tenant) (summary : TrialSummary) :
    TrialSummary :=
  let summary :=
    if tenant.status ∈ [TenantStatus.pending, .pendingPayment, .failed] then
      match transitionStatus tenant.status .pendingPayment with
      | .ok _ => { summary with tenantPendingPayment := summary.tenantPendingPayment + 1 }
      | .error _ => summary
    else if tenant.status ∉ [TenantStatus.suspendedBilling, .deleted, .deleting, .pendingDeletion] then
      match transitionStatus tenant.status .suspendedBilling with
      | .ok _ => { summary with tenantSuspended := summary.tenantSuspended + 1 }
      | .error _ => summary
    else summary
  match owner with
  | some owner =>
    if trialExpiredStatus tenant.status = .suspendedBilling then
      let message := service.tenantSuspended owner.email tenant.domain "Trial expired without payment"
      { summary with notified := summary.notified ++ [message] }
    else summary
  | none => summary

/-- The trial cycle's work on one candidate, with what it counts. -/
def trialCandidateCounted (env : Env) (service : NotificationService) (dryRun : Bool) (now : Time)
    (summary : TrialSummary) (subscriptionId : Nat) : Proc TrialSummary := do
  let db ← read
  match get? db.subscriptions subscriptionId with
  | none => return summary
  | some subscription =>
    match db.tenant? subscription.tenantId with
    | none => return summary
    | some tenant =>
      let summary := { summary with expired := summary.expired + 1 }
      if resolveTrialSubscriptionStatus subscription.status .trialExpired subscription.trialEndsAt now ≠ .pastDue then
        return summary
      else
        let summary := { summary with pastDue := summary.pastDue + 1 }
        if dryRun then
          return summary
        else do
          trialCandidate env now subscriptionId
          return countTrialExpired service (db.user? tenant.ownerId) tenant summary

/-- A program whose failure drops what it had not committed: the rollback does, or the end of the session. -/
def droppingOnError {α : Type} (p : Proc α) : Proc α :=
  attempt p fun e => do
    rollback
    raise e

/-- `run_trial_lifecycle_cycle`, with its summary. -/
def trialLifecycleSummary (env : Env) (service : NotificationService) (warned : List (Nat × Nat)) (dryRun : Bool) :
    Proc TrialSummary := do
  let now ← utcnow env
  droppingOnError do
    let db ← read
    let warnings := sendTrialExpirationWarnings service warned now dryRun db
    let candidates := expiredTrials db now
    let summary ← gather (trialCandidateCounted env service dryRun now)
      { warnings with checked := candidates.length } candidates
    if dryRun then
      return summary
    else do
      commit env
      return summary

/-! ### Dunning -/

/-- The summary of a dunning cycle, and the messages it handed over. -/
structure DunningSummary where
  flagged : Nat
  skippedMissingRuntime : Nat
  dueForRetry : Nat
  dueForEscalation : Nat
  remindersSent : Nat
  escalated : Nat
  notified : List NotificationMessage
  deriving DecidableEq, Repr

/-- The tenants the dunning query selects that are candidates, with or without a runtime. -/
def flaggedForDunning (db : Db) : List Tenant :=
  let flagged := db.tenants.filter fun (t : Tenant) =>
    t.status ∈ dunningTenantStatuses ∨
      ∃ s ∈ db.subscriptionOf t.id, s.status ∈ [SubscriptionStatus.pastDue, .cancelled, .paused, .pending]
  (flagged.insertionSort fun a b => a.updatedAt ≤ b.updatedAt).filter fun t =>
    isBillingDunningCandidate t (db.subscriptionOf t.id)

/-- `_tenant_runtime_visible_for_dunning`. -/
def tenantRuntimeVisibleForDunning (client : PlatformErpClient) (tenant : Tenant) : Bool :=
  tenant.status ∉ runtimeExpectedStatuses || tenantRuntimeExists client tenant

/-- What is counted of a tenant whose reminder is due, and the reminder. -/
def countReminder (service : NotificationService) (dryRun : Bool) (owner : Option User) (tenant : Tenant)
    (context : DunningContext) (summary : DunningSummary) : DunningSummary :=
  let summary := { summary with dueForRetry := summary.dueForRetry + 1 }
  match dryRun, owner with
  | false, some owner =>
    let message := service.paymentReminder owner.email tenant.domain context.lastInvoiceId
    { summary with
      remindersSent := if service.send message then summary.remindersSent + 1 else summary.remindersSent
      notified := summary.notified ++ [message] }
  | _, _ => summary

/-- What is counted of a tenant that is due for suspension, and the message to its owner. -/
def countEscalation (service : NotificationService) (dryRun : Bool) (owner : Option User) (tenant : Tenant)
    (summary : DunningSummary) : DunningSummary :=
  let summary := { summary with dueForEscalation := summary.dueForEscalation + 1 }
  match dryRun, owner with
  | true, _ => summary
  | false, none => { summary with escalated := summary.escalated + 1 }
  | false, some owner =>
    let message := service.tenantSuspended owner.email tenant.domain "Payment grace period ended"
    { summary with escalated := summary.escalated + 1, notified := summary.notified ++ [message] }

/-- Suspend a tenant's runtime if its dunning has come to that, and count it. -/
def suspendCounted (env : Env) (service : NotificationService) (dryRun : Bool) (owner : Option User)
    (context : DunningContext) (now : Time) (summary : DunningSummary) (tenantId : Nat) : Proc DunningSummary := do
  let db ← read
  let tick ← Session.Proc.now
  suspendIfEscalated env dryRun context now tenantId
  match db.tenant? tenantId with
  | none => return summary
  | some tenant =>
    if dunningEscalates context tenant (db.subscriptionOf tenantId) (tenantRuntimeExists (env.erp tick) tenant) now then
      return countEscalation service dryRun owner tenant summary
    else
      return summary

/-- The dunning cycle's work on one tenant, with what it counts. -/
def dunTenantCounted (env : Env) (service : NotificationService) (dryRun : Bool) (now : Time) (summary : DunningSummary)
    (tenantId : Nat) : Proc DunningSummary := do
  let db ← read
  let tick ← Session.Proc.now
  match db.tenant? tenantId with
  | none => return summary
  | some tenant =>
    let owner := db.user? tenant.ownerId
    let context := resolveDunningContext (env.erp tick) tenant (db.subscriptionOf tenantId)
    let summary :=
      if context.nextRetryAt ≤ now then countReminder service dryRun owner tenant context summary else summary
    remindTenant env (context.nextRetryAt ≤ now ∧ ¬dryRun) now tenantId
    suspendCounted env service dryRun owner context now summary tenantId

/-- `run_billing_dunning_cycle`, with its summary. -/
def billingDunningSummary (env : Env) (service : NotificationService) (dryRun : Bool) : Proc DunningSummary := do
  let now ← utcnow env
  let tick ← Session.Proc.now
  droppingOnError do
    let db ← read
    let flagged := flaggedForDunning db
    let visible := flagged.filter (tenantRuntimeVisibleForDunning (env.erp tick))
    let summary ← gather (dunTenantCounted env service dryRun now)
      ⟨visible.length, flagged.length - visible.length, 0, 0, 0, 0, []⟩ (visible.map Tenant.id)
    recordAuditEvent env "billing.dunning_cycle_completed" "billing" none
    if dryRun then
      return summary
    else do
      commit env
      return summary

/-! ### Without the summary -/

theorem droppingOnError_ignored {α : Type} (p : Proc α) :
    (droppingOnError p >>= fun _ => pure ()) = rollbackOnError (p >>= fun _ => pure ()) := by
  funext s
  have hignored : ∀ (r : Except PyError α) (s' : DbSession), p s = (r, s') →
      (p >>= fun _ => pure () : Proc Unit) s = (r.map fun _ => (), s') := by
    rintro (e | a) s' hp
    · exact bind_error hp
    · exact bind_ok hp
  unfold droppingOnError rollbackOnError
  cases hp : p s with
  | mk r s' =>
    cases r with
    | ok a =>
      rw [bind_ok (attempt_ok _ hp)]
      exact (attempt_ok _ (hignored _ s' hp)).symm
    | error e =>
      rw [bind_error ((attempt_error _ hp).trans rfl), attempt_error _ (hignored _ s' hp)]
      rfl

section Ignored
variable (env : Env) (service : NotificationService) (dryRun : Bool) (now : Time)

theorem suspendCounted_ignored (owner : Option User) (context : DunningContext) (summary : DunningSummary)
    (tenantId : Nat) :
    (suspendCounted env service dryRun owner context now summary tenantId >>= fun _ => pure ()) =
      suspendIfEscalated env dryRun context now tenantId := by
  funext s
  unfold suspendCounted
  rw [bind_assoc, bind_ok (read_apply s), bind_assoc, bind_ok (now_apply s), bind_assoc, bind_apply]
  cases suspendIfEscalated env dryRun context now tenantId s with
  | mk r s' =>
    cases r with
    | error e => rfl
    | ok u =>
      dsimp only
      cases s.work.tenant? tenantId with
      | none => rfl
      | some tenant =>
        dsimp only
        split <;> rfl

theorem dunTenantCounted_ignored (summary : DunningSummary) (tenantId : Nat) :
    (dunTenantCounted env service dryRun now summary tenantId >>= fun _ => pure ()) =
      dunTenant env dryRun now tenantId := by
  funext s
  unfold dunTenantCounted dunTenant
  rw [bind_assoc, bind_ok (read_apply s), bind_ok (read_apply s), bind_assoc, bind_ok (now_apply s),
    bind_ok (now_apply s)]
  cases s.work.tenant? tenantId with
  | none => rfl
  | some tenant =>
    dsimp only
    rw [bind_assoc]
    simp only [suspendCounted_ignored]

theorem map_visible (client : PlatformErpClient) (db : Db) :
    ((flaggedForDunning db).filter (tenantRuntimeVisibleForDunning client)).map Tenant.id =
      dunningCandidates client db := by
  unfold flaggedForDunning dunningCandidates tenantRuntimeVisibleForDunning
  dsimp only
  rw [List.filter_filter]
  simp only [Bool.and_comm]

/-- Less its summary, the cycle is the one of before. -/
theorem billingDunningSummary_ignored :
    (billingDunningSummary env service dryRun >>= fun _ => pure ()) = runBillingDunningCycle env dryRun := by
  have hloop : ∀ now summary candidates,
      (gather (dunTenantCounted env service dryRun now) summary candidates >>= fun _ => pure ()) =
        forEach (dunTenant env dryRun now) candidates := fun now summary candidates =>
    gather_ignored (dunTenantCounted_ignored env service dryRun now) summary candidates
  funext s
  unfold billingDunningSummary runBillingDunningCycle
  rw [Proc.bind_assoc, bind_ok (utcnow_apply env s), bind_ok (utcnow_apply env s), Proc.bind_assoc,
    bind_ok (now_apply s), bind_ok (now_apply s), droppingOnError_ignored]
  refine congrFun (congrArg rollbackOnError (funext fun s₁ => ?_)) s
  rw [Proc.bind_assoc, bind_ok (read_apply s₁), bind_ok (read_apply s₁)]
  dsimp only
  rw [map_visible, ← hloop, Proc.bind_assoc, Proc.bind_assoc]
  refine congrFun (congrArg _ (funext fun summary => ?_)) s₁
  rw [Proc.bind_assoc, Proc.pure_bind]
  refine congrArg _ (funext fun _ => ?_)
  cases dryRun with
  | true => rfl
  | false =>
    rw [if_neg Bool.false_ne_true, if_neg Bool.false_ne_true, Proc.bind_assoc]
    exact bind_done (commit env)

/-- A visit of a candidate that is not expired does nothing. -/
theorem trialCandidate_of_unchanged {s : DbSession} {id : Nat}
    (h : expireTrial id now s.work = .ok (none, s.work)) : trialCandidate env now id s = (.ok (), s) := by
  unfold trialCandidate
  rw [change_bind, h]
  rfl

theorem trialCandidateCounted_ignored (summary : TrialSummary) (id : Nat) :
    (trialCandidateCounted env service false now summary id >>= fun _ => pure ()) = trialCandidate env now id := by
  funext s
  unfold trialCandidateCounted
  rw [Proc.bind_assoc, bind_ok (read_apply s)]
  cases hrow : get? s.work.subscriptions id with
  | none =>
    refine (trialCandidate_of_unchanged env now ?_).symm
    unfold expireTrial
    rw [hrow]
  | some subscription =>
    dsimp only
    cases htenant : s.work.tenant? subscription.tenantId with
    | none =>
      refine (trialCandidate_of_unchanged env now ?_).symm
      unfold expireTrial
      rw [hrow]
      dsimp only
      rw [htenant]
    | some tenant =>
      dsimp only
      split
      · rename_i hstatus
        refine (trialCandidate_of_unchanged env now ?_).symm
        unfold expireTrial
        rw [hrow]
        dsimp only
        rw [htenant]
        exact if_pos hstatus
      · rw [if_neg Bool.false_ne_true, Proc.bind_assoc]
        exact congrFun (bind_done _) s

/-- A dry visit of a trial's end leaves the session as it was. -/
theorem trialCandidateCounted_dry (summary : TrialSummary) (id : Nat) (s : DbSession) :
    ∃ summary', trialCandidateCounted env service true now summary id s = (.ok summary', s) := by
  unfold trialCandidateCounted
  rw [bind_ok (read_apply s)]
  cases get? s.work.subscriptions id with
  | none => exact ⟨_, rfl⟩
  | some subscription =>
    dsimp only
    cases s.work.tenant? subscription.tenantId with
    | none => exact ⟨_, rfl⟩
    | some tenant =>
      dsimp only
      split
      · exact ⟨_, rfl⟩
      · exact ⟨_, rfl⟩

theorem gather_trials_dry (summary : TrialSummary) (ids : List Nat) (s : DbSession) :
    ∃ summary', gather (trialCandidateCounted env service true now) summary ids s = (.ok summary', s) := by
  induction ids generalizing summary with
  | nil => exact ⟨summary, rfl⟩
  | cons id ids ih =>
    obtain ⟨summary₁, hvisit⟩ := trialCandidateCounted_dry env service now summary id s
    obtain ⟨summary₂, hrest⟩ := ih summary₁
    exact ⟨summary₂, (bind_ok hvisit).trans hrest⟩

/-- Less its summary, the cycle is the one of before. -/
theorem trialLifecycleSummary_ignored (warned : List (Nat × Nat)) :
    (trialLifecycleSummary env service warned dryRun >>= fun _ => pure ()) = runTrialLifecycleCycle env dryRun := by
  funext s
  unfold trialLifecycleSummary runTrialLifecycleCycle
  rw [Proc.bind_assoc, bind_ok (utcnow_apply env s), bind_ok (utcnow_apply env s), droppingOnError_ignored]
  cases dryRun with
  | true =>
    rw [if_pos rfl]
    refine attempt_ok _ ?_
    rw [Proc.bind_assoc, bind_ok (read_apply s), Proc.bind_assoc]
    obtain ⟨summary, hloop⟩ := gather_trials_dry env service (env.clock s.tick)
      { sendTrialExpirationWarnings service warned (env.clock s.tick) true s.work with
        checked := (expiredTrials s.work (env.clock s.tick)).length } (expiredTrials s.work (env.clock s.tick)) s
    rw [bind_ok hloop]
    rfl
  | false =>
    rw [if_neg Bool.false_ne_true]
    refine congrFun (congrArg rollbackOnError (funext fun s₁ => ?_)) s
    rw [Proc.bind_assoc, bind_ok (read_apply s₁), bind_ok (read_apply s₁), Proc.bind_assoc,
      ← gather_ignored (trialCandidateCounted_ignored env service (env.clock s.tick))
      { sendTrialExpirationWarnings service warned (env.clock s.tick) false s₁.work with
        checked := (expiredTrials s₁.work (env.clock s.tick)).length }, Proc.bind_assoc]
    refine congrFun (congrArg _ (funext fun summary => ?_)) s₁
    rw [if_neg Bool.false_ne_true, Proc.bind_assoc, Proc.pure_bind]
    exact bind_done (commit env)

end Ignored

/-! ### What a visit counts -/

/-- The tenant's reminder is due. -/
def Db.retryDue (db : Db) (client : PlatformErpClient) (now : Time) (t : Nat) : Bool :=
  (db.tenant? t).any fun tenant => (resolveDunningContext client tenant (db.subscriptionOf t)).nextRetryAt ≤ now

/-- The tenant is due for suspension. -/
def Db.escalationDue (db : Db) (client : PlatformErpClient) (now : Time) (t : Nat) : Bool :=
  (db.tenant? t).any fun tenant =>
    dunningEscalates (resolveDunningContext client tenant (db.subscriptionOf t)) tenant (db.subscriptionOf t)
      (tenantRuntimeExists client tenant) now

/-- The tenant of a subscription is there. -/
def Db.trialExpires (db : Db) (id : Nat) : Bool :=
  (get? db.subscriptions id).any fun s => (db.tenant? s.tenantId).isSome

/-- The tenant is there and the policy moves the subscription to `past_due`. -/
def Db.trialPastDue (db : Db) (now : Time) (id : Nat) : Bool :=
  (get? db.subscriptions id).any fun s => (db.tenant? s.tenantId).isSome &&
    resolveTrialSubscriptionStatus s.status .trialExpired s.trialEndsAt now = .pastDue

/-- A session has the tenant's rows as they are in the database, and nothing of them to write. -/
def RowsOf (db : Db) (t : Nat) (s : DbSession) : Prop :=
  ∃ row, db.tenant? t = some row ∧ Rests row (db.subscriptionOf t) (some row.updatedAt) s

/-- A session has the subscription as it is in the database, and its tenant if that has. -/
def TrialRowsOf (db : Db) (id : Nat) (s : DbSession) : Prop :=
  ∃ row, get? db.subscriptions id = some row ∧ get? s.work.subscriptions id = some row ∧
    (s.work.tenant? row.tenantId).isSome = (db.tenant? row.tenantId).isSome

theorem countReminder_counts (service : NotificationService) (dryRun : Bool) (owner : Option User) (tenant : Tenant)
    (context : DunningContext) (summary : DunningSummary) :
    (countReminder service dryRun owner tenant context summary).flagged = summary.flagged ∧
      (countReminder service dryRun owner tenant context summary).dueForRetry = summary.dueForRetry + 1 ∧
      (countReminder service dryRun owner tenant context summary).dueForEscalation = summary.dueForEscalation ∧
      (dryRun = true → (countReminder service dryRun owner tenant context summary).notified = summary.notified) := by
  unfold countReminder
  cases dryRun with
  | true => exact ⟨rfl, rfl, rfl, fun _ => rfl⟩
  | false => cases owner <;> exact ⟨rfl, rfl, rfl, fun h => by cases h⟩

theorem countEscalation_counts (service : NotificationService) (dryRun : Bool) (owner : Option User) (tenant : Tenant)
    (summary : DunningSummary) :
    (countEscalation service dryRun owner tenant summary).flagged = summary.flagged ∧
      (countEscalation service dryRun owner tenant summary).dueForRetry = summary.dueForRetry ∧
      (countEscalation service dryRun owner tenant summary).dueForEscalation = summary.dueForEscalation + 1 ∧
      (dryRun = true → (countEscalation service dryRun owner tenant summary).notified = summary.notified) := by
  unfold countEscalation
  cases dryRun with
  | true => exact ⟨rfl, rfl, rfl, fun _ => rfl⟩
  | false => cases owner <;> exact ⟨rfl, rfl, rfl, fun h => by cases h⟩

theorem dunningEscalates_stamped (context : DunningContext) (tenant : Tenant) (subscription : Option Subscription)
    (runtimeExists : Bool) (now u : Time) :
    dunningEscalates context { tenant with updatedAt := u } subscription runtimeExists now =
      dunningEscalates context tenant subscription runtimeExists now := rfl

/-- A reminder stamps the tenant, and that is all. -/
theorem remindTenant_row {env : Env} {due : Bool} {now : Time} {t : Nat} {row : Tenant} {s s' : DbSession}
    (hrow : s.work.tenant? t = some row) (h : remindTenant env due now t s = (.ok (), s')) :
    s'.work.subscriptionOf t = s.work.subscriptionOf t ∧
      ∃ u, s'.work.tenant? t = some { row with updatedAt := u } := by
  unfold remindTenant at h
  split at h
  · obtain ⟨-, hsub, u, hwritten, -⟩ := written_self h rfl hrow
    exact ⟨hsub, u, hwritten⟩
  · cases h
    exact ⟨rfl, row.updatedAt, hrow⟩

section Counted
variable {env : Env} {client : PlatformErpClient} {service : NotificationService} {dryRun : Bool} {now : Time} {db : Db}
  {s s' : DbSession}

theorem suspendCounted_counts {owner : Option User} {context : DunningContext} {row : Tenant} {t : Nat}
    {summary summary' : DunningSummary} (herp : ∀ tick, env.erp tick = client) (hrow : s.work.tenant? t = some row)
    (h : suspendCounted env service dryRun owner context now summary t s = (.ok summary', s')) :
    summary'.flagged = summary.flagged ∧ summary'.dueForRetry = summary.dueForRetry ∧
      summary'.dueForEscalation = summary.dueForEscalation + (dunningEscalates context row (s.work.subscriptionOf t)
        (tenantRuntimeExists client row) now).toNat ∧
      (dryRun = true → summary'.notified = summary.notified) := by
  unfold suspendCounted at h
  rw [bind_ok (read_apply s), bind_ok (now_apply s)] at h
  obtain ⟨_, s₁, -, h⟩ := of_bind_returned h
  rw [hrow, herp] at h
  dsimp only at h
  split at h
  · rename_i hescalates
    cases h
    rw [hescalates]
    exact countEscalation_counts ..
  · rename_i hescalates
    cases h
    rw [Bool.not_eq_true] at hescalates
    rw [hescalates]
    exact ⟨rfl, rfl, rfl, fun _ => rfl⟩

/-- What a visit counts is in the tenant's own rows. -/
theorem dunTenantCounted_counts {t : Nat} {summary summary' : DunningSummary} (herp : ∀ tick, env.erp tick = client)
    (hrows : RowsOf db t s) (h : dunTenantCounted env service dryRun now summary t s = (.ok summary', s')) :
    summary'.flagged = summary.flagged ∧
      summary'.dueForRetry = summary.dueForRetry + (db.retryDue client now t).toNat ∧
      summary'.dueForEscalation = summary.dueForEscalation + (db.escalationDue client now t).toNat ∧
      (dryRun = true → summary'.notified = summary.notified) := by
  obtain ⟨row, hdb, ⟨hsub, hrow⟩, -⟩ := hrows
  have hid : row.id = t := Db.tenant?_id hdb
  subst hid
  replace hrow : s.work.tenant? row.id = some row := hrow
  unfold Db.retryDue Db.escalationDue
  rw [hdb, Option.any_some, Option.any_some]
  unfold dunTenantCounted at h
  rw [bind_ok (read_apply s), bind_ok (now_apply s), hrow, hsub, herp] at h
  dsimp only at h
  generalize resolveDunningContext client row (db.subscriptionOf row.id) = context at h ⊢
  obtain ⟨_, s₁, hremind, h⟩ := of_bind_returned h
  obtain ⟨hsub₁, u, hrow₁⟩ := remindTenant_row hrow hremind
  obtain ⟨hflagged, hretry, hescalation, hnotified⟩ := suspendCounted_counts herp hrow₁ h
  rw [dunningEscalates_stamped, tenantRuntimeExists_stamped, hsub₁, hsub] at hescalation
  by_cases hdue : context.nextRetryAt ≤ now
  · obtain ⟨hflagged', hretry', hescalation', hnotified'⟩ :=
      countReminder_counts service dryRun (s.work.user? row.ownerId) row context summary
    rw [if_pos hdue] at hflagged hretry hescalation hnotified
    rw [decide_eq_true hdue]
    exact ⟨hflagged.trans hflagged', hretry.trans hretry', hescalation.trans (by rw [hescalation']),
      fun hdry => (hnotified hdry).trans (hnotified' hdry)⟩
  · rw [if_neg hdue] at hflagged hretry hescalation hnotified
    rw [decide_eq_false hdue]
    exact ⟨hflagged, hretry, hescalation, hnotified⟩

/-- A visit leaves the rows of the other tenants alone. -/
theorem RowsOf.visit_other {t t' : Nat} {summary summary' : DunningSummary} (hne : t' ≠ t) (hrows : RowsOf db t' s)
    (h : dunTenantCounted env service dryRun now summary t s = (.ok summary', s')) : RowsOf db t' s' := by
  obtain ⟨row, hdb, hrests⟩ := hrows
  have hvisit : dunTenant env dryRun now t s = (.ok (), s') := by
    rw [← dunTenantCounted_ignored env service dryRun now summary t]
    exact bind_ok h
  have hother : row.id ≠ t := by
    rw [Db.tenant?_id hdb]
    exact hne
  exact ⟨row, hdb, hrests.visit_other hother hvisit⟩

theorem countTrialExpired_counts (service : NotificationService) (owner : Option User) (tenant : Tenant)
    (summary : TrialSummary) :
    (countTrialExpired service owner tenant summary).checked = summary.checked ∧
      (countTrialExpired service owner tenant summary).expired = summary.expired ∧
      (countTrialExpired service owner tenant summary).pastDue = summary.pastDue := by
  unfold countTrialExpired
  dsimp only
  constructor
  · repeat' split
    all_goals rfl
  · constructor
    all_goals repeat' split
    all_goals rfl

/-- What a visit counts is in the subscription and in whether its tenant is there. -/
theorem trialCandidateCounted_counts {id : Nat} {summary summary' : TrialSummary} (hrows : TrialRowsOf db id s)
    (h : trialCandidateCounted env service dryRun now summary id s = (.ok summary', s')) :
    summary'.checked = summary.checked ∧ summary'.expired = summary.expired + (db.trialExpires id).toNat ∧
      summary'.pastDue = summary.pastDue + (db.trialPastDue now id).toNat ∧
      (dryRun = true → summary'.notified = summary.notified) := by
  obtain ⟨row, hdb, hrow, htenant⟩ := hrows
  unfold Db.trialExpires Db.trialPastDue
  rw [hdb, Option.any_some, Option.any_some, ← htenant]
  unfold trialCandidateCounted at h
  rw [bind_ok (read_apply s), hrow] at h
  dsimp only at h
  cases hfound : s.work.tenant? row.tenantId with
  | none =>
    rw [hfound] at h
    cases h
    exact ⟨rfl, rfl, rfl, fun _ => rfl⟩
  | some tenant =>
    rw [hfound] at h
    dsimp only at h
    rw [Option.isSome_some, Bool.true_and]
    by_cases hpast : resolveTrialSubscriptionStatus row.status .trialExpired row.trialEndsAt now = .pastDue
    · rw [if_neg (fun hne => hne hpast)] at h
      rw [decide_eq_true hpast]
      cases dryRun with
      | true =>
        cases h
        exact ⟨rfl, rfl, rfl, fun _ => rfl⟩
      | false =>
        rw [if_neg Bool.false_ne_true] at h
        obtain ⟨_, s₁, -, h⟩ := of_bind_returned h
        cases h
        obtain ⟨hchecked, hexpired, hpastDue⟩ := countTrialExpired_counts service (s.work.user? tenant.ownerId) tenant
          { summary with expired := summary.expired + 1, pastDue := summary.pastDue + 1 }
        exact ⟨hchecked, hexpired, hpastDue, fun hdry => by cases hdry⟩
    · rw [if_pos hpast] at h
      cases h
      rw [decide_eq_false hpast]
      exact ⟨rfl, rfl, rfl, fun _ => rfl⟩

/-- A real visit writes its own subscription and takes no tenant away. -/
theorem trialCandidate_rows {id i : Nat} (hne : i ≠ id) (h : trialCandidate env now id s = (.ok (), s')) (t : Nat) :
    get? s'.work.subscriptions i = get? s.work.subscriptions i ∧
      (s'.work.tenant? t).isSome = (s.work.tenant? t).isSome := by
  unfold trialCandidate at h
  rw [change_bind] at h
  cases hexpire : expireTrial id now s.work with
  | error e =>
    rw [hexpire] at h
    cases h
  | ok result =>
    obtain ⟨expired, db'⟩ := result
    obtain ⟨hsubscription, htenant, -⟩ := expireTrial_rows hexpire i t
    have hsame : get? db'.subscriptions i = get? s.work.subscriptions i :=
      hsubscription.resolve_right fun hself => hne hself.1
    rw [hexpire] at h
    cases expired with
    | none =>
      cases h
      exact ⟨hsame, htenant⟩
    | some tenantId =>
      obtain ⟨-, hsubs, time, hflush⟩ :=
        written (f := fun db => db) (s := { s with work := db' }) (by rw [bind_ok (modify_apply _ _)]; exact h)
      obtain ⟨stamp, hstamp⟩ := Db.tenant?_flush time s.saved db' t
      refine ⟨(congrArg (get? · i) hsubs).trans hsame, ?_⟩
      rw [hflush, hstamp, Option.isSome_map, htenant]

theorem TrialRowsOf.visit_other {id i : Nat} {summary summary' : TrialSummary} (hne : i ≠ id)
    (hrows : TrialRowsOf db i s) (h : trialCandidateCounted env service dryRun now summary id s = (.ok summary', s')) :
    TrialRowsOf db i s' := by
  cases dryRun with
  | true =>
    obtain ⟨_, hsame⟩ := trialCandidateCounted_dry env service now summary id s
    rw [hsame] at h
    cases h
    exact hrows
  | false =>
    have hvisit : trialCandidate env now id s = (.ok (), s') := by
      rw [← trialCandidateCounted_ignored env service now summary id]
      exact bind_ok h
    obtain ⟨row, hdb, hrow, htenant⟩ := hrows
    obtain ⟨hsubscription, hsome⟩ := trialCandidate_rows hne hvisit row.tenantId
    exact ⟨row, hdb, hsubscription.trans hrow, hsome.trans htenant⟩

/-! ### What a cycle counts -/

theorem gather_tenants {tenantIds : List Nat} {summary summary' : DunningSummary} (herp : ∀ tick, env.erp tick = client)
    (hids : tenantIds.Nodup) (hrows : ∀ t ∈ tenantIds, RowsOf db t s)
    (h : gather (dunTenantCounted env service dryRun now) summary tenantIds s = (.ok summary', s')) :
    summary'.flagged = summary.flagged ∧
      summary'.dueForRetry = summary.dueForRetry + (tenantIds.map fun t => (db.retryDue client now t).toNat).sum ∧
      summary'.dueForEscalation =
        summary.dueForEscalation + (tenantIds.map fun t => (db.escalationDue client now t).toNat).sum ∧
      (dryRun = true → summary'.notified.length = summary.notified.length) := by
  have hother : ∀ (c : DunningSummary) t (s : DbSession) c' s' t', t' ≠ t → RowsOf db t' s →
      dunTenantCounted env service dryRun now c t s = (.ok c', s') → RowsOf db t' s' :=
    fun _ _ _ _ _ _ hne hrows h => hrows.visit_other hne h
  have hcounts := fun (c : DunningSummary) t (s : DbSession) c' s' (hrows : RowsOf db t s)
    (h : dunTenantCounted env service dryRun now c t s = (.ok c', s')) => dunTenantCounted_counts herp hrows h
  refine ⟨?_, ?_, ?_, fun hdry => ?_⟩
  · have hsum : summary'.flagged = summary.flagged + (tenantIds.map fun _ => 0).sum :=
      gather_counts (fun c t s c' s' hrows h => (hcounts c t s c' s' hrows h).1) hother hids hrows h
    rw [hsum]
    simp
  · exact gather_counts (fun c t s c' s' hrows h => (hcounts c t s c' s' hrows h).2.1) hother hids hrows h
  · exact gather_counts (fun c t s c' s' hrows h => (hcounts c t s c' s' hrows h).2.2.1) hother hids hrows h
  · have hsum : summary'.notified.length = summary.notified.length + (tenantIds.map fun _ => 0).sum :=
      @gather_counts _ _ _ _ _ _ (fun c => c.notified.length) _ _
        (fun c t s c' s' hrows h => congrArg List.length ((hcounts c t s c' s' hrows h).2.2.2 hdry)) hother _ hids _ _ _
        _ hrows h
    rw [hsum]
    simp

theorem gather_trials {ids : List Nat} {summary summary' : TrialSummary} (hids : ids.Nodup)
    (hrows : ∀ id ∈ ids, TrialRowsOf db id s)
    (h : gather (trialCandidateCounted env service dryRun now) summary ids s = (.ok summary', s')) :
    summary'.checked = summary.checked ∧
      summary'.expired = summary.expired + (ids.map fun id => (db.trialExpires id).toNat).sum ∧
      summary'.pastDue = summary.pastDue + (ids.map fun id => (db.trialPastDue now id).toNat).sum ∧
      (dryRun = true → summary'.notified.length = summary.notified.length) := by
  have hother : ∀ (c : TrialSummary) id (s : DbSession) c' s' i, i ≠ id → TrialRowsOf db i s →
      trialCandidateCounted env service dryRun now c id s = (.ok c', s') → TrialRowsOf db i s' :=
    fun _ _ _ _ _ _ hne hrows h => hrows.visit_other hne h
  have hcounts := fun (c : TrialSummary) id (s : DbSession) c' s' (hrows : TrialRowsOf db id s)
    (h : trialCandidateCounted env service dryRun now c id s = (.ok c', s')) => trialCandidateCounted_counts hrows h
  refine ⟨?_, ?_, ?_, fun hdry => ?_⟩
  · have hsum : summary'.checked = summary.checked + (ids.map fun _ => 0).sum :=
      gather_counts (fun c id s c' s' hrows h => (hcounts c id s c' s' hrows h).1) hother hids hrows h
    rw [hsum]
    simp
  · exact gather_counts (fun c id s c' s' hrows h => (hcounts c id s c' s' hrows h).2.1) hother hids hrows h
  · exact gather_counts (fun c id s c' s' hrows h => (hcounts c id s c' s' hrows h).2.2.1) hother hids hrows h
  · have hsum : summary'.notified.length = summary.notified.length + (ids.map fun _ => 0).sum :=
      @gather_counts _ _ _ _ _ _ (fun c => c.notified.length) _ _
        (fun c id s c' s' hrows h => congrArg List.length ((hcounts c id s c' s' hrows h).2.2.2 hdry)) hother _ hids _ _ _
        _ hrows h
    rw [hsum]
    simp

/-- A dropping program that returned did so by itself. -/
theorem of_droppingOnError {α : Type} {p : Proc α} {a : α} (h : droppingOnError p s = (.ok a, s')) :
    p s = (.ok a, s') := by
  rcases of_attempt_ok h with hp | ⟨e, s₁, -, hraised⟩
  · exact hp
  · rw [bind_ok (rollback_apply s₁)] at hraised
    cases hraised

end Counted

theorem dunningCandidates_nodup {db : Db} (client : PlatformErpClient) (hids : (db.tenants.map Tenant.id).Nodup) :
    (dunningCandidates client db).Nodup := by
  unfold dunningCandidates
  dsimp only
  have hsorted : ∀ l : List Tenant, (l.map Tenant.id).Nodup →
      ((l.insertionSort fun a b => a.updatedAt ≤ b.updatedAt).map Tenant.id).Nodup := fun l hl =>
    ((List.perm_insertionSort _ l).map Tenant.id).nodup_iff.2 hl
  exact (hsorted _ (hids.sublist (List.filter_sublist.map _))).sublist (List.filter_sublist.map _)

theorem rowsOf_candidate {db : Db} {client : PlatformErpClient} {queue : List Task}
    (hids : (db.tenants.map Tenant.id).Nodup) {t : Nat} (ht : t ∈ dunningCandidates client db) :
    RowsOf db t (opened db queue) := by
  obtain ⟨row, hmem, rfl⟩ := List.mem_map.1 ht
  have hrow : row ∈ db.tenants :=
    (List.mem_filter.1 ((List.mem_insertionSort _).1 (List.mem_filter.1 hmem).1)).1
  have hget : db.tenant? row.id = some row := get?_of_mem hids hrow
  exact ⟨row, hget, ⟨rfl, hget⟩, rfl⟩

theorem expiredTrials_nodup {db : Db} (now : Time) (hids : (db.subscriptions.map Subscription.id).Nodup) :
    (expiredTrials db now).Nodup := by
  unfold expiredTrials
  exact ((List.perm_insertionSort _ _).map Subscription.id).nodup_iff.2 (hids.sublist (List.filter_sublist.map _))

theorem trialRowsOf_candidate {db : Db} {now : Time} {queue : List Task}
    (hids : (db.subscriptions.map Subscription.id).Nodup) {id : Nat} (hid : id ∈ expiredTrials db now) :
    TrialRowsOf db id (opened db queue) := by
  obtain ⟨row, hmem, rfl⟩ := List.mem_map.1 hid
  have hrow : row ∈ db.subscriptions := (List.mem_filter.1 ((List.mem_insertionSort _).1 hmem)).1
  have hget : get? db.subscriptions row.id = some row := get?_of_mem hids hrow
  exact ⟨row, hget, hget, rfl⟩

theorem warnOfTrialEnd_counts (service : NotificationService) (db : Db) (now : Time) (summary : TrialSummary)
    (subscription : Subscription) :
    (warnOfTrialEnd service db now summary subscription).expired = summary.expired ∧
      (warnOfTrialEnd service db now summary subscription).pastDue = summary.pastDue := by
  unfold warnOfTrialEnd
  dsimp only
  constructor
  all_goals repeat' split
  all_goals rfl

theorem sendTrialExpirationWarnings_counts (service : NotificationService) (warned : List (Nat × Nat)) (now : Time)
    (dryRun : Bool) (db : Db) :
    (sendTrialExpirationWarnings service warned now dryRun db).expired = 0 ∧
      (sendTrialExpirationWarnings service warned now dryRun db).pastDue = 0 ∧
      (dryRun = true → (sendTrialExpirationWarnings service warned now dryRun db).notified = []) := by
  unfold sendTrialExpirationWarnings
  dsimp only
  cases dryRun with
  | true => exact ⟨rfl, rfl, fun _ => rfl⟩
  | false =>
    rw [if_neg Bool.false_ne_true]
    have hkept : ∀ (l : List Subscription) (summary : TrialSummary),
        (l.foldl (warnOfTrialEnd service db now) summary).expired = summary.expired ∧
          (l.foldl (warnOfTrialEnd service db now) summary).pastDue = summary.pastDue := by
      intro l
      induction l with
      | nil => exact fun _ => ⟨rfl, rfl⟩
      | cons subscription l ih =>
        intro summary
        obtain ⟨hexpired, hpastDue⟩ := warnOfTrialEnd_counts service db now summary subscription
        exact ⟨(ih _).1.trans hexpired, (ih _).2.trans hpastDue⟩
    exact ⟨(hkept _ _).1, (hkept _ _).2, fun h => by cases h⟩

section Cycles
variable {env : Env} {client : PlatformErpClient} {service : NotificationService} {dryRun : Bool} {db : Db}
  {queue : List Task} {s s' : DbSession}

theorem billingDunningSummary_counts {summary : DunningSummary} (hids : (db.tenants.map Tenant.id).Nodup)
    (herp : ∀ tick, env.erp tick = client)
    (h : billingDunningSummary env service dryRun (opened db queue) = (.ok summary, s')) :
    summary.flagged = (dunningCandidates client db).length ∧
      summary.dueForRetry =
        ((dunningCandidates client db).map fun t => (db.retryDue client (env.clock 0) t).toNat).sum ∧
      summary.dueForEscalation =
        ((dunningCandidates client db).map fun t => (db.escalationDue client (env.clock 0) t).toNat).sum ∧
      (dryRun = true → summary.notified = []) := by
  unfold billingDunningSummary at h
  rw [bind_ok (utcnow_apply env _), bind_ok (now_apply _)] at h
  replace h := of_droppingOnError h
  rw [bind_ok (read_apply _), herp, map_visible] at h
  obtain ⟨summary₁, s₁, hloop, h⟩ := of_bind_returned h
  obtain ⟨_, s₂, -, h⟩ := of_bind_returned h
  have hsummary : summary = summary₁ := by
    split at h
    · cases h
      rfl
    · obtain ⟨_, s₃, -, h⟩ := of_bind_returned h
      cases h
      rfl
  subst hsummary
  obtain ⟨hflagged, hretry, hescalation, hnotified⟩ :=
    gather_tenants herp (dunningCandidates_nodup client hids) (fun t ht => rowsOf_candidate hids ht) hloop
  refine ⟨?_, ?_, ?_, fun hdry => List.length_eq_zero_iff.1 (hnotified hdry)⟩
  · rw [hflagged, ← map_visible, List.length_map]
    rfl
  · rw [hretry, Nat.zero_add]
    rfl
  · rw [hescalation, Nat.zero_add]
    rfl

/-- An audit entry changes nothing else when no tenant is to be written. -/
theorem recordAuditEvent_keeps {action resource : String} {id : Option Nat} (hclean : s.work.tenants = s.saved.tenants)
    (h : recordAuditEvent env action resource id s = (.ok (), s')) :
    s'.saved.tenants = s.saved.tenants ∧ s'.saved.subscriptions = s.work.subscriptions := by
  unfold recordAuditEvent at h
  rw [bind_ok (utcnow_apply env _), bind_ok (modify_apply _ _), commit_apply] at h
  split at h
  · cases h
  · cases h
    exact ⟨(Db.tenants_flush_of_eq hclean).trans hclean, rfl⟩

/-- A dry run of the dunning cycle writes an audit entry. -/
theorem billingDunningSummary_dry {summary : DunningSummary}
    (h : billingDunningSummary env service true (opened db queue) = (.ok summary, s')) :
    s'.saved.tenants = db.tenants ∧ s'.saved.subscriptions = db.subscriptions := by
  have hcycle : runBillingDunningCycle env true (opened db queue) = (.ok (), s') := by
    rw [← billingDunningSummary_ignored env service]
    exact bind_ok h
  unfold runBillingDunningCycle at hcycle
  rw [bind_ok (utcnow_apply env _), bind_ok (now_apply _)] at hcycle
  rcases of_attempt_ok hcycle with hcycle | ⟨e, s₁, -, hraised⟩
  · rw [bind_ok (read_apply _)] at hcycle
    obtain ⟨_, s₁, hvisits, hcycle⟩ := of_bind_returned hcycle
    obtain ⟨_, s₂, haudit, hend⟩ := of_bind_returned hcycle
    rw [forEach_dry hvisits] at haudit
    cases hend
    exact recordAuditEvent_keeps rfl haudit
  · rw [bind_ok (rollback_apply s₁)] at hraised
    cases hraised

theorem trialLifecycleSummary_counts {warned : List (Nat × Nat)} {summary : TrialSummary}
    (hids : (db.subscriptions.map Subscription.id).Nodup)
    (h : trialLifecycleSummary env service warned dryRun (opened db queue) = (.ok summary, s')) :
    summary.checked = (expiredTrials db (env.clock 0)).length ∧
      summary.expired = ((expiredTrials db (env.clock 0)).map fun id => (db.trialExpires id).toNat).sum ∧
      summary.pastDue =
        ((expiredTrials db (env.clock 0)).map fun id => (db.trialPastDue (env.clock 0) id).toNat).sum ∧
      (dryRun = true → summary.notified = []) := by
  unfold trialLifecycleSummary at h
  rw [bind_ok (utcnow_apply env _)] at h
  replace h := of_droppingOnError h
  rw [bind_ok (read_apply _)] at h
  obtain ⟨summary₁, s₁, hloop, h⟩ := of_bind_returned h
  have hsummary : summary = summary₁ := by
    split at h
    · cases h
      rfl
    · obtain ⟨_, s₃, -, h⟩ := of_bind_returned h
      cases h
      rfl
  subst hsummary
  obtain ⟨hchecked, hexpired, hpastDue, hnotified⟩ :=
    gather_trials (expiredTrials_nodup _ hids) (fun id hid => trialRowsOf_candidate hids hid) hloop
  obtain ⟨hexpired₀, hpastDue₀, hnotified₀⟩ := sendTrialExpirationWarnings_counts service warned (env.clock 0) dryRun db
  refine ⟨hchecked, ?_, ?_, fun hdry => ?_⟩
  · rw [hexpired]
    exact (congrArg (· + _) hexpired₀).trans (Nat.zero_add _)
  · rw [hpastDue]
    exact (congrArg (· + _) hpastDue₀).trans (Nat.zero_add _)
  · exact List.length_eq_zero_iff.1 ((hnotified hdry).trans (congrArg List.length (hnotified₀ hdry)))

/-- A dry run of the trial cycle leaves the session as it was. -/
theorem trialLifecycleSummary_dry {warned : List (Nat × Nat)} {summary : TrialSummary}
    (h : trialLifecycleSummary env service warned true (opened db queue) = (.ok summary, s')) :
    s' = opened db queue := by
  have hcycle : runTrialLifecycleCycle env true (opened db queue) = (.ok (), s') := by
    rw [← trialLifecycleSummary_ignored env service true warned]
    exact bind_ok h
  cases hcycle
  rfl

end Cycles

/-- A dry run changes no tenant and no subscription, notifies nobody, and counts what the cycle would count. -/
theorem dry_run_previews (env : Env) (client : PlatformErpClient) (service : NotificationService)
    (warned : List (Nat × Nat)) {db : Db} (queue : List Task) (htenants : (db.tenants.map Tenant.id).Nodup)
    (hsubscriptions : (db.subscriptions.map Subscription.id).Nodup) (herp : ∀ tick, env.erp tick = client) :
    (∀ dry s, billingDunningSummary env service true (opened db queue) = (.ok dry, s) →
      s.saved.tenants = db.tenants ∧ s.saved.subscriptions = db.subscriptions ∧ dry.notified = [] ∧
      ∀ real s', billingDunningSummary env service false (opened db queue) = (.ok real, s') →
        dry.flagged = real.flagged ∧ dry.dueForRetry = real.dueForRetry ∧
          dry.dueForEscalation = real.dueForEscalation) ∧
    ∀ dry s, trialLifecycleSummary env service warned true (opened db queue) = (.ok dry, s) →
      s.saved.tenants = db.tenants ∧ s.saved.subscriptions = db.subscriptions ∧ dry.notified = [] ∧
      ∀ real s', trialLifecycleSummary env service warned false (opened db queue) = (.ok real, s') →
        dry.checked = real.checked ∧ dry.expired = real.expired ∧ dry.pastDue = real.pastDue := by
  constructor
  · intro dry s hdry
    obtain ⟨hflagged, hretry, hescalation, hnotified⟩ := billingDunningSummary_counts htenants herp hdry
    obtain ⟨hsameTenants, hsameSubscriptions⟩ := billingDunningSummary_dry hdry
    refine ⟨hsameTenants, hsameSubscriptions, hnotified rfl, fun real s' hreal => ?_⟩
    obtain ⟨hflagged', hretry', hescalation', -⟩ := billingDunningSummary_counts htenants herp hreal
    exact ⟨hflagged.trans hflagged'.symm, hretry.trans hretry'.symm, hescalation.trans hescalation'.symm⟩
  · intro dry s hdry
    obtain ⟨hchecked, hexpired, hpastDue, hnotified⟩ := trialLifecycleSummary_counts hsubscriptions hdry
    have hsame := trialLifecycleSummary_dry hdry
    subst hsame
    refine ⟨rfl, rfl, hnotified rfl, fun real s' hreal => ?_⟩
    obtain ⟨hchecked', hexpired', hpastDue', -⟩ := trialLifecycleSummary_counts hsubscriptions hreal
    exact ⟨hchecked.trans hchecked'.symm, hexpired.trans hexpired'.symm, hpastDue.trans hpastDue'.symm⟩

namespace Small

/-- Every message is taken. -/
def notifier : NotificationService := ⟨fun _ => true, "support@example.com", toString, fun name => name⟩

/-- A tenant that has not paid, and one whose trial is over. -/
def overdueRows : Db :=
  { Db.empty with
    users := [⟨1, "owner@acme.example.com", false, true⟩]
    tenants := [delinquentTenant, { delinquentTenant with id := 2, status := .active }]
    subscriptions := [⟨1, 2, 1, .trialing, some 1500, none, none, none, none, none, none⟩] }

end Small

set_option maxRecDepth 100000 in
/-- The cycles return, and find the one tenant that the dry runs found. -/
theorem overdue_previewed :
    (billingDunningSummary (Small.envHours 48) Small.notifier false (opened Small.overdueRows [])).1.isOk = true ∧
    (∀ real s', billingDunningSummary (Small.envHours 48) Small.notifier false (opened Small.overdueRows []) =
      (.ok real, s') → 1 = real.flagged ∧ 1 = real.dueForRetry ∧ 1 = real.dueForEscalation) ∧
    (trialLifecycleSummary (Small.envHours 48) Small.notifier [] false (opened Small.overdueRows [])).1.isOk = true ∧
    ∀ real s', trialLifecycleSummary (Small.envHours 48) Small.notifier [] false (opened Small.overdueRows []) =
      (.ok real, s') → 1 = real.checked ∧ 1 = real.expired ∧ 1 = real.pastDue := by
  have hpreview := @dry_run_previews (Small.envHours 48) Small.erp Small.notifier [] Small.overdueRows [] (by decide)
    (by decide) fun _ => rfl
  have hdunning := hpreview.1 ⟨1, 0, 1, 1, 0, 0, []⟩ _ (Prod.ext (by decide +kernel) rfl)
  have htrial := hpreview.2 ⟨1, 1, 1, 0, 0, 0, [], []⟩ _ (Prod.ext (by decide +kernel) rfl)
  exact ⟨by decide +kernel, hdunning.2.2.2, by decide +kernel, htrial.2.2.2⟩

end ControlPlane
