import ControlPlane.Base.Watchdog
import ControlPlane.Workers.Watched

/-!
# How far dunning gets

A reminder stamps `tenant.updated_at`, and the grace of the next cycle counts from that stamp: to the dunning cycles a
delinquent tenant is a timer that they restart themselves.  It is suspended when a cycle comes after a pause as long as
the grace, not when the grace it had at first is over.
-/

namespace ControlPlane

open Table Session Session.Proc Runs Watchdog

/-! ### The timer of a tenant -/

/-- How long after `updated_at` the next reminder is due. -/
def retryAfter (tenant : Tenant) (subscription : Option Subscription) : Nat :=
  (computeDunningWindows { tenant with updatedAt := 0 } subscription).1

/-- How long after `updated_at` the grace is over. -/
def graceAfter (tenant : Tenant) (subscription : Option Subscription) : Nat :=
  (computeDunningWindows { tenant with updatedAt := 0 } subscription).2

/-- Until when the due date of the ERP's latest invoice extends the grace, zero when it does not. -/
def dueGrace (client : PlatformErpClient) (tenant : Tenant) : Time :=
  let invoices := match client.isConfigured, tenant.customerId? with
    | true, some customerId => (client.listInvoices customerId 1).toOption.getD []
    | _, _ => []
  ((invoices.head?.bind fun latest => latest.dueDate.parse).map (· + days 3)).getD 0

theorem computeDunningWindows_eq (tenant : Tenant) (subscription : Option Subscription) (anchor : Time) :
    computeDunningWindows { tenant with updatedAt := anchor } subscription =
      (anchor + retryAfter tenant subscription, anchor + graceAfter tenant subscription) := by
  unfold retryAfter graceAfter computeDunningWindows
  dsimp only
  split
  · simp
  · split
    · simp
    · split <;> simp

theorem retryAfter_pos (tenant : Tenant) (subscription : Option Subscription) : 0 < retryAfter tenant subscription := by
  unfold retryAfter computeDunningWindows
  dsimp only
  split
  · decide
  · split
    · decide
    · split <;> decide

private theorem resolveDunningContext_of_windows (client : PlatformErpClient) {tenant : Tenant}
    {subscription : Option Subscription} {retry grace : Time}
    (h : computeDunningWindows tenant subscription = (retry, grace)) :
    (resolveDunningContext client tenant subscription).nextRetryAt = retry ∧
      (resolveDunningContext client tenant subscription).graceEndsAt = max grace (dueGrace client tenant) := by
  unfold resolveDunningContext dueGrace
  rw [h]
  dsimp only
  cases client.isConfigured with
  | false => simp
  | true =>
    cases tenant.customerId? with
    | none => simp
    | some customerId =>
      dsimp only
      generalize (client.listInvoices customerId 1).toOption.getD [] = invoices
      cases invoices with
      | nil => simp
      | cons latest rest =>
        refine ⟨rfl, ?_⟩
        dsimp only
        rw [List.head?_cons, Option.bind_some]
        cases latest.dueDate.parse with
        | none => simp
        | some due => simp

theorem resolveDunningContext_windows (client : PlatformErpClient) (tenant : Tenant)
    (subscription : Option Subscription) (anchor : Time) :
    (resolveDunningContext client { tenant with updatedAt := anchor } subscription).nextRetryAt =
        anchor + retryAfter tenant subscription ∧
      (resolveDunningContext client { tenant with updatedAt := anchor } subscription).graceEndsAt =
        max (anchor + graceAfter tenant subscription) (dueGrace client tenant) :=
  resolveDunningContext_of_windows client (computeDunningWindows_eq tenant subscription anchor)

/-- A tenant whose timer stands at the anchor, or who has been suspended. -/
def Stands (tenant : Tenant) (subscription : Option Subscription) (timer : Option Time) (db : Db) : Prop :=
  db.subscriptionOf tenant.id = subscription ∧
    match timer with
    | some anchor => db.tenant? tenant.id = some { tenant with updatedAt := anchor }
    | none => ∃ u, db.tenant? tenant.id = some { tenant with status := .suspendedBilling, updatedAt := u }

/-- The same in a session that has nothing of the tenant to write. -/
def Rests (tenant : Tenant) (subscription : Option Subscription) (timer : Option Time) (s : DbSession) : Prop :=
  Stands tenant subscription timer s.work ∧ s.saved.tenant? tenant.id = s.work.tenant? tenant.id

/-! ### One visit -/

/-- During a cycle the ERP finds the tenant's runtime, and its due date stays the same. -/
def Calm (tenant : Tenant) (due : Time) (env : Env) : Prop :=
  ∀ tick, tenantRuntimeExists (env.erp tick) tenant = true ∧ dueGrace (env.erp tick) tenant = due

theorem tenantRuntimeExists_stamped (client : PlatformErpClient) (tenant : Tenant) (u : Time) :
    tenantRuntimeExists client { tenant with updatedAt := u } = tenantRuntimeExists client tenant := by
  simp only [tenantRuntimeExists]

/-- A change of the session's rows and the audit entry that commits it. -/
theorem written {env : Env} {f : Db → Db} {action resource : String} {id : Option Nat} {s s' : DbSession}
    (h : (do
      modify f
      recordAuditEvent env action resource id : Proc Unit) s = (.ok (), s')) :
    s'.saved = s'.work ∧ s'.work.subscriptions = (f s.work).subscriptions ∧
      ∃ now, ∀ t, s'.work.tenant? t = (Db.flush now s.saved (f s.work)).tenant? t := by
  rw [bind_ok (modify_apply f s)] at h
  unfold recordAuditEvent at h
  rw [bind_ok (utcnow_apply env _), bind_ok (modify_apply _ _), commit_apply] at h
  split at h
  · cases h
  · cases h
    exact ⟨rfl, rfl, env.clock s.tick, fun _ => rfl⟩

section Visits
variable {tenant : Tenant} {subscription : Option Subscription} {timer : Option Time} {s s' : DbSession}

theorem Stands.congr {db db' : Db} (h : Stands tenant subscription timer db)
    (htenant : db'.tenant? tenant.id = db.tenant? tenant.id)
    (hsubscription : db'.subscriptionOf tenant.id = db.subscriptionOf tenant.id) :
    Stands tenant subscription timer db' := by
  refine ⟨hsubscription.trans h.1, ?_⟩
  rw [htenant]
  exact h.2

/-- What is written of other tenants leaves the tenant at rest. -/
theorem Rests.written_other {env : Env} {f : Db → Db} {action resource : String} {id : Option Nat}
    (hs : Rests tenant subscription timer s)
    (h : (do
      modify f
      recordAuditEvent env action resource id : Proc Unit) s = (.ok (), s'))
    (htenant : (f s.work).tenant? tenant.id = s.work.tenant? tenant.id)
    (hsubscriptions : (f s.work).subscriptions = s.work.subscriptions) : Rests tenant subscription timer s' := by
  obtain ⟨hsaved, hsubs, now, hrow⟩ := written h
  have hkept : s'.work.tenant? tenant.id = s.work.tenant? tenant.id := by
    rw [hrow, Db.tenant?_flush_of_same (hs.2.trans htenant.symm), htenant]
  refine ⟨hs.1.congr hkept ?_, by rw [hsaved]⟩
  unfold Db.subscriptionOf
  rw [hsubs, hsubscriptions]

theorem Rests.audit {env : Env} {action resource : String} {id : Option Nat}
    (hs : Rests tenant subscription timer s) (h : recordAuditEvent env action resource id s = (.ok (), s')) :
    Rests tenant subscription timer s' :=
  hs.written_other (f := fun db => db) (by rw [bind_ok (modify_apply _ s)]; exact h) rfl rfl

theorem Rests.visit_other {env : Env} {dryRun : Bool} {now : Time} {tenantId : Nat} (hne : tenant.id ≠ tenantId)
    (hs : Rests tenant subscription timer s) (h : dunTenant env dryRun now tenantId s = (.ok (), s')) :
    Rests tenant subscription timer s' := by
  have hother : ∀ (db : Db) (f : Tenant → Tenant), (∀ r, (f r).id = r.id) →
      (db.modifyTenant tenantId f).tenant? tenant.id = db.tenant? tenant.id := fun db f hf =>
    get?_modify_of_ne db.tenants hf hne
  unfold dunTenant at h
  rw [bind_ok (read_apply s), bind_ok (now_apply s)] at h
  cases hrow : s.work.tenant? tenantId with
  | none =>
    rw [hrow] at h
    cases h
    exact hs
  | some row =>
    rw [hrow] at h
    obtain ⟨_, s₁, hremind, h⟩ := of_bind_returned h
    have hs₁ : Rests tenant subscription timer s₁ := by
      unfold remindTenant at hremind
      split at hremind
      · exact hs.written_other hremind (hother _ _ fun _ => rfl) rfl
      · cases hremind
        exact hs
    unfold suspendIfEscalated at h
    rw [bind_ok (read_apply s₁), bind_ok (now_apply s₁)] at h
    cases hrow₁ : s₁.work.tenant? tenantId with
    | none =>
      rw [hrow₁] at h
      cases h
      exact hs₁
    | some row₁ =>
      rw [hrow₁] at h
      dsimp only at h
      split at h
      · exact hs₁.written_other h (hother _ _ fun _ => rfl) rfl
      · cases h
        exact hs₁

/-- What is written of the tenant itself, with the time stamp the flush may give it. -/
theorem written_self {env : Env} {f : Tenant → Tenant} {action resource : String} {id : Option Nat} {t : Nat}
    {row : Tenant}
    (h : (do
      modify fun db => db.modifyTenant t f
      recordAuditEvent env action resource id : Proc Unit) s = (.ok (), s'))
    (hf : (f row).id = row.id) (hrow : s.work.tenant? t = some row) :
    s'.saved = s'.work ∧ s'.work.subscriptionOf t = s.work.subscriptionOf t ∧
      ∃ u, s'.work.tenant? t = some { f row with updatedAt := u } ∧
        (s.saved.tenant? t = some row → (f row).updatedAt ≠ row.updatedAt → u = (f row).updatedAt) := by
  obtain ⟨hsaved, hsubs, now, hflush⟩ := written h
  have hwork : (s.work.modifyTenant t f).tenant? t = some (f row) :=
    get?_modify_self hf hrow
  refine ⟨hsaved, ?_, ?_⟩
  · unfold Db.subscriptionOf
    rw [hsubs]
    rfl
  · obtain ⟨stamp, hstamp⟩ := Db.tenant?_flush now s.saved (s.work.modifyTenant t f) t
    rw [hwork] at hstamp
    by_cases hstamped : s.saved.tenant? t = some row ∧ (f row).updatedAt ≠ row.updatedAt
    · refine ⟨(f row).updatedAt, ?_, fun _ _ => rfl⟩
      rw [hflush, Db.tenant?_flush_of_stamped hstamped.1 hwork hstamped.2]
    · refine ⟨stamp (f row), (hflush t).trans hstamp, fun h h' => absurd ⟨h, h'⟩ hstamped⟩

/-- A visit of a tenant that has been suspended. -/
theorem Rests.visit_suspended {env : Env} {dryRun : Bool} {now : Time} (hs : Rests tenant subscription none s)
    (h : dunTenant env dryRun now tenant.id s = (.ok (), s')) : Rests tenant subscription none s' := by
  obtain ⟨u, hrow⟩ := hs.1.2
  unfold dunTenant at h
  rw [bind_ok (read_apply s), bind_ok (now_apply s), hrow] at h
  obtain ⟨_, s₁, hremind, h⟩ := of_bind_returned h
  have hs₁ : Rests tenant subscription none s₁ := by
    unfold remindTenant at hremind
    split at hremind
    · obtain ⟨hsaved, hsub, v, hwritten, -⟩ := written_self hremind rfl hrow
      exact ⟨⟨hsub.trans hs.1.1, v, hwritten⟩, by rw [hsaved]⟩
    · cases hremind
      exact hs
  obtain ⟨u₁, hrow₁⟩ := hs₁.1.2
  unfold suspendIfEscalated at h
  rw [bind_ok (read_apply s₁), bind_ok (now_apply s₁), hrow₁] at h
  dsimp only at h
  rw [if_neg (fun hdue => absurd hdue.1 (by simp [dunningEscalates]))] at h
  cases h
  exact hs₁

/-- A visit of a delinquent tenant polls its timer. -/
theorem Rests.visit_self {env : Env} {now anchor due : Time} (hcalm : Calm tenant due env)
    (hexempt : tenant.status ∉ dunningExempt)
    (hunpaid : subscriptionStatusForTenant subscription ∉ paidSubscriptionStatuses)
    (hs : Rests tenant subscription (some anchor) s) (h : dunTenant env false now tenant.id s = (.ok (), s')) :
    Rests tenant subscription
      (poll (retryAfter tenant subscription) (graceAfter tenant subscription) due (some anchor) now) s' := by
  obtain ⟨hsub, hrow⟩ := hs.1
  obtain ⟨hretry, hgrace⟩ := resolveDunningContext_windows (env.erp s.tick) tenant subscription anchor
  rw [(hcalm s.tick).2] at hgrace
  have hpos := retryAfter_pos tenant subscription
  generalize retryAfter tenant subscription = retry at *
  generalize graceAfter tenant subscription = grace at *
  unfold dunTenant at h
  rw [bind_ok (read_apply s), bind_ok (now_apply s), hrow, hsub] at h
  dsimp only at h
  generalize resolveDunningContext (env.erp s.tick) { tenant with updatedAt := anchor } subscription = context
    at h hretry hgrace
  obtain ⟨_, s₁, hremind, h⟩ := of_bind_returned h
  have hs₁ : Rests tenant subscription (some (restart retry anchor now)) s₁ := by
    unfold remindTenant at hremind
    unfold restart
    by_cases hdue : context.nextRetryAt ≤ now
    · rw [if_pos (by simpa using hdue)] at hremind
      rw [if_pos (hretry ▸ hdue)]
      obtain ⟨hsaved, hsub₁, v, hwritten, hstamp⟩ := written_self hremind rfl hrow
      -- a reminder moves the stamp, for it is due only some hours after the last one
      have hne : now ≠ anchor := by
        rintro rfl
        rw [hretry] at hdue
        exact absurd hdue (Nat.not_le.2 (Nat.lt_add_of_pos_right hpos))
      have hv : v = now := hstamp (hs.2.trans hrow) hne
      subst hv
      exact ⟨⟨hsub₁.trans hsub, hwritten⟩, by rw [hsaved]⟩
    · rw [if_neg (by simpa using hdue)] at hremind
      rw [if_neg (hretry ▸ hdue)]
      cases hremind
      exact hs
  obtain ⟨hsub₁, hrow₁⟩ := hs₁.1
  unfold suspendIfEscalated at h
  rw [bind_ok (read_apply s₁), bind_ok (now_apply s₁), hrow₁, hsub₁] at h
  dsimp only at h
  have hescalates : dunningEscalates context
      { tenant with updatedAt := restart retry anchor now } subscription
      (tenantRuntimeExists (env.erp s₁.tick)
        { tenant with updatedAt := restart retry anchor now }) now =
        decide (max (anchor + grace) due ≤ now) := by
    rw [tenantRuntimeExists_stamped]
    have hruntime := (hcalm s₁.tick).1
    unfold dunningEscalates
    rw [hgrace]
    refine decide_eq_decide.2 ⟨fun h => h.1, fun h => ⟨h, hexempt, hunpaid, hruntime⟩⟩
  rw [hescalates] at h
  unfold poll
  dsimp only
  by_cases hover : max (anchor + grace) due ≤ now
  · rw [if_pos ⟨by simpa using hover, by decide⟩] at h
    rw [if_pos hover]
    obtain ⟨hsaved, hsub₂, v, hwritten, -⟩ := written_self h rfl hrow₁
    refine ⟨⟨hsub₂.trans hsub₁, v, ?_⟩, by rw [hsaved]⟩
    rw [hwritten, transitionOrForce_eq]
  · rw [if_neg (fun hdue => hover (by simpa using hdue.1))] at h
    rw [if_neg hover]
    cases h
    exact hs₁

/-- A dry run writes nothing. -/
theorem dunTenant_dry {env : Env} {now : Time} {tenantId : Nat} (h : dunTenant env true now tenantId s = (.ok (), s')) :
    s' = s := by
  unfold dunTenant at h
  rw [bind_ok (read_apply s), bind_ok (now_apply s)] at h
  cases hrow : s.work.tenant? tenantId with
  | none =>
    rw [hrow] at h
    cases h
    rfl
  | some row =>
    rw [hrow] at h
    dsimp only at h
    rw [show decide ((resolveDunningContext (env.erp s.tick) row (s.work.subscriptionOf tenantId)).nextRetryAt ≤ now ∧
      ¬true = true) = false from by simp] at h
    unfold remindTenant at h
    rw [if_neg Bool.false_ne_true, bind_ok (pure_apply () s)] at h
    unfold suspendIfEscalated at h
    rw [bind_ok (read_apply s), bind_ok (now_apply s), hrow] at h
    dsimp only at h
    rw [if_neg (fun hdue => hdue.2 rfl)] at h
    cases h
    rfl

/-! ### A cycle -/

private theorem rests_forEach {env : Env} {now due : Time} (hcalm : Calm tenant due env)
    (hexempt : timer ≠ none → tenant.status ∉ dunningExempt)
    (hunpaid : subscriptionStatusForTenant subscription ∉ paidSubscriptionStatuses) {candidates : List Nat}
    (hs : Rests tenant subscription timer s)
    (h : Proc.forEach (dunTenant env false now) candidates s = (.ok (), s')) :
    Rests tenant subscription
      (if tenant.id ∈ candidates then
        poll (retryAfter tenant subscription) (graceAfter tenant subscription) due timer now else timer) s' := by
  induction candidates generalizing timer s with
  | nil =>
    cases h
    exact hs
  | cons tenantId candidates ih =>
    obtain ⟨_, s₁, hvisit, hrest⟩ := of_bind_returned h
    by_cases hself : tenant.id = tenantId
    · subst hself
      have hs₁ : Rests tenant subscription
          (poll (retryAfter tenant subscription) (graceAfter tenant subscription) due timer now) s₁ := by
        cases timer with
        | none => exact hs.visit_suspended hvisit
        | some anchor => exact hs.visit_self hcalm (hexempt (by simp)) hunpaid hvisit
      have hlater := ih (fun hsome => hexempt fun hnone => hsome (by rw [hnone]; rfl)) hs₁ hrest
      rw [poll_poll (retryAfter_pos tenant subscription), ite_self] at hlater
      rw [if_pos List.mem_cons_self]
      exact hlater
    · have hlater := ih hexempt (hs.visit_other hself hvisit) hrest
      have hiff : tenant.id ∈ tenantId :: candidates ↔ tenant.id ∈ candidates := by simp [hself]
      simp only [hiff]
      exact hlater

theorem forEach_dry {env : Env} {now : Time} {candidates : List Nat}
    (h : Proc.forEach (dunTenant env true now) candidates s = (.ok (), s')) : s' = s := by
  induction candidates generalizing s with
  | nil =>
    cases h
    rfl
  | cons tenantId candidates ih =>
    obtain ⟨_, s₁, hvisit, hrest⟩ := of_bind_returned h
    rw [ih hrest, dunTenant_dry hvisit]

/-- A delinquent tenant whose runtime the ERP finds is on the list of the cycle. -/
theorem mem_dunningCandidates {client : PlatformErpClient} {db : Db} {anchor : Time}
    (hcandidate : isBillingDunningCandidate tenant subscription = true)
    (hruntime : tenantRuntimeExists client tenant = true) (h : Stands tenant subscription (some anchor) db) :
    tenant.id ∈ dunningCandidates client db := by
  obtain ⟨hsub, hrow⟩ := h
  refine List.mem_map.2 ⟨{ tenant with updatedAt := anchor }, List.mem_filter.2 ⟨?_, ?_⟩, rfl⟩
  · refine (List.mem_insertionSort _).2 (List.mem_filter.2 ⟨mem_of_get? hrow, ?_⟩)
    have hflagged : tenant.status ∈ dunningTenantStatuses ∨ ∃ row ∈ subscription,
        row.status ∈ [SubscriptionStatus.pastDue, .cancelled, .paused, .pending] := by
      by_cases hstatus : tenant.status ∈ dunningTenantStatuses
      · exact .inl hstatus
      · right
        unfold isBillingDunningCandidate at hcandidate
        rw [if_neg hstatus] at hcandidate
        cases hsubscription : subscription with
        | none =>
          rw [hsubscription] at hcandidate
          split at hcandidate
          · cases hcandidate
          · cases hcandidate
        | some row =>
          refine ⟨row, rfl, ?_⟩
          rw [hsubscription] at hcandidate
          split at hcandidate
          · cases hcandidate
          · cases hrowStatus : row.status <;>
              simp [subscriptionStatusForTenant, subscriptionStatusForValues, toLegacyBillingStatus, hrowStatus,
                dunningSubscriptionStatuses] at hcandidate ⊢
    rw [show db.subscriptionOf ({ tenant with updatedAt := anchor } : Tenant).id = subscription from hsub]
    exact decide_eq_true hflagged
  · rw [show db.subscriptionOf ({ tenant with updatedAt := anchor } : Tenant).id = subscription from hsub,
      tenantRuntimeExists_stamped, hruntime, Bool.or_true, Bool.and_true]
    exact hcandidate

theorem stands_cycle {env : Env} {dryRun : Bool} {due : Time} {db : Db} {queue : List Task}
    (hcalm : Calm tenant due env) (hcandidate : isBillingDunningCandidate tenant subscription = true)
    (hexempt : timer ≠ none → tenant.status ∉ dunningExempt)
    (hunpaid : subscriptionStatusForTenant subscription ∉ paidSubscriptionStatuses)
    (hs : Stands tenant subscription timer db)
    (h : runBillingDunningCycle env dryRun (opened db queue) = (.ok (), s')) :
    Stands tenant subscription (if dryRun then timer else
      poll (retryAfter tenant subscription) (graceAfter tenant subscription) due timer (env.clock 0)) s'.saved := by
  have hopened : Rests tenant subscription timer (opened db queue) := ⟨hs, rfl⟩
  unfold runBillingDunningCycle at h
  rw [bind_ok (utcnow_apply env _), bind_ok (now_apply _)] at h
  rcases of_attempt_ok h with hcycle | ⟨e, s₁, -, hraised⟩
  · rw [bind_ok (read_apply _)] at hcycle
    obtain ⟨_, s₁, hvisits, hcycle⟩ := of_bind_returned hcycle
    obtain ⟨_, s₂, haudit, hend⟩ := of_bind_returned hcycle
    have hs₁ : Rests tenant subscription (if dryRun then timer else
        poll (retryAfter tenant subscription) (graceAfter tenant subscription) due timer (env.clock 0)) s₁ := by
      cases dryRun with
      | true =>
        rw [forEach_dry hvisits, if_pos rfl]
        exact hopened
      | false =>
        have hvisited := rests_forEach hcalm hexempt hunpaid hopened hvisits
        rw [if_neg Bool.false_ne_true]
        rw [show (opened db queue).tick = 0 from rfl] at hvisited
        cases timer with
        | none =>
          simp only [poll_none, ite_self] at hvisited ⊢
          exact hvisited
        | some anchor =>
          have hmem : tenant.id ∈ dunningCandidates (env.erp 0) (opened db queue).work :=
            mem_dunningCandidates hcandidate (hcalm _).1 hs
          rw [if_pos hmem] at hvisited
          exact hvisited
    have hs₂ := hs₁.audit haudit
    have hsaved : s₂.saved = s₂.work :=
      (written (f := fun db => db) (by rw [bind_ok (modify_apply _ s₁)]; exact haudit)).1
    split at hend
    · cases hend
      rw [hsaved]
      exact hs₂.1
    · rw [commit_apply] at hend
      split at hend
      · cases hend
      · cases hend
        -- the audit entry has committed everything
        dsimp only
        rw [Db.flush_of_eq (by rw [hsaved]) (by rw [hsaved])]
        exact hs₂.1
  · rw [bind_ok (rollback_apply s₁)] at hraised
    cases hraised

end Visits

/-! ### Any number of cycles -/

/-- The moments of the dunning cycles that are not dry runs. -/
def dunningTimes (es : List Event) : List Time :=
  es.filterMap fun e => match e.op with
    | .dunningCycle false => some (e.env.clock 0)
    | _ => none

/-- The tenant is left alone: the event is a dunning cycle that comes to its end, finds the tenant's runtime and the
same due date as ever, or it changes neither the tenant nor its subscription. -/
def LeftAlone (tenant : Tenant) (due : Time) (w : World) (e : Event) : Prop :=
  match e.op with
  | .dunningCycle dryRun =>
    (runBillingDunningCycle e.env dryRun (opened w.db w.queue)).1 = .ok () ∧ Calm tenant due e.env
  | _ =>
    (step w e).db.tenant? tenant.id = w.db.tenant? tenant.id ∧
      (step w e).db.subscriptionOf tenant.id = w.db.subscriptionOf tenant.id

section Cycles
variable {tenant : Tenant} {subscription : Option Subscription} {due : Time}

theorem stands_step {timer : Option Time} {w : World} {e : Event}
    (hcandidate : isBillingDunningCandidate tenant subscription = true)
    (hexempt : timer ≠ none → tenant.status ∉ dunningExempt)
    (hunpaid : subscriptionStatusForTenant subscription ∉ paidSubscriptionStatuses)
    (hs : Stands tenant subscription timer w.db) (he : LeftAlone tenant due w e) :
    Stands tenant subscription ((dunningTimes [e]).foldl
      (poll (retryAfter tenant subscription) (graceAfter tenant subscription) due) timer) (step w e).db := by
  obtain ⟨env, op⟩ := e
  by_cases hop : ∃ dryRun, op = .dunningCycle dryRun
  · obtain ⟨dryRun, rfl⟩ := hop
    obtain ⟨hok, hcalm⟩ := he
    cases hresult : runBillingDunningCycle env dryRun (opened w.db w.queue) with
    | mk result s' =>
      rw [hresult] at hok
      dsimp only at hok
      subst hok
      have hcycle := stands_cycle hcalm hcandidate hexempt hunpaid hs hresult
      have hdb : (step w ⟨env, .dunningCycle dryRun⟩).db = s'.saved := by
        show (perform w (runBillingDunningCycle env dryRun)).db = _
        unfold perform after
        rw [hresult]
      rw [hdb]
      cases dryRun with
      | true => exact hcycle
      | false => exact hcycle
  · have hnone : dunningTimes [⟨env, op⟩] = [] := by
      cases op <;> first | rfl | exact absurd ⟨_, rfl⟩ hop
    have hsame : (step w ⟨env, op⟩).db.tenant? tenant.id = w.db.tenant? tenant.id ∧
        (step w ⟨env, op⟩).db.subscriptionOf tenant.id = w.db.subscriptionOf tenant.id := by
      cases op <;> first | exact he | exact absurd ⟨_, rfl⟩ hop
    rw [hnone]
    exact hs.congr hsame.1 hsame.2

theorem stands_run {timer : Option Time} {w : World} {es : List Event}
    (hcandidate : isBillingDunningCandidate tenant subscription = true)
    (hexempt : timer ≠ none → tenant.status ∉ dunningExempt)
    (hunpaid : subscriptionStatusForTenant subscription ∉ paidSubscriptionStatuses)
    (hs : Stands tenant subscription timer w.db) (hes : Steps step (LeftAlone tenant due) w es) :
    Stands tenant subscription ((dunningTimes es).foldl
      (poll (retryAfter tenant subscription) (graceAfter tenant subscription) due) timer) (run step w es).db := by
  induction es generalizing w timer with
  | nil => exact hs
  | cons e es ih =>
    have hnext := stands_step hcandidate hexempt hunpaid hs hes.1
    have hsplit : dunningTimes (e :: es) = dunningTimes [e] ++ dunningTimes es := by
      rw [← List.singleton_append]
      exact List.filterMap_append
    rw [hsplit, List.foldl_append]
    refine ih (fun hsome => hexempt fun hnone => hsome ?_) hnext hes.2
    rw [hnone, foldl_poll_none]

/-- At the end of a run in which it is left alone, a delinquent tenant is suspended exactly when its timer ran out. -/
theorem suspended_iff {t : Nat} {w : World} {es : List Event} (htenant : w.db.tenant? t = some tenant)
    (hcandidate : isBillingDunningCandidate tenant (w.db.subscriptionOf t) = true)
    (hunpaid : subscriptionStatusForTenant (w.db.subscriptionOf t) ∉ paidSubscriptionStatuses)
    (halone : Steps step (LeftAlone tenant due) w es) :
    (run step w es).status t = some .suspendedBilling ↔ tenant.status = .suspendedBilling ∨
      RunsOut (retryAfter tenant (w.db.subscriptionOf t)) (graceAfter tenant (w.db.subscriptionOf t)) due
        tenant.updatedAt (dunningTimes es) := by
  have hid : tenant.id = t := Db.tenant?_id htenant
  subst hid
  by_cases hsuspended : tenant.status = .suspendedBilling
  · have hs : Stands tenant (w.db.subscriptionOf tenant.id) none w.db := by
      refine ⟨rfl, tenant.updatedAt, htenant.trans ?_⟩
      rw [← hsuspended]
    have hend := stands_run hcandidate (fun h => absurd rfl h) hunpaid hs halone
    rw [foldl_poll_none] at hend
    obtain ⟨-, u, hrow⟩ := hend
    exact iff_of_true (Db.tenantStatus_of_tenant? hrow) (.inl hsuspended)
  · have hs : Stands tenant (w.db.subscriptionOf tenant.id) (some tenant.updatedAt) w.db := ⟨rfl, htenant⟩
    have hexempt : tenant.status ∉ dunningExempt := by
      intro hmem
      unfold isBillingDunningCandidate at hcandidate
      cases hstatus : tenant.status <;>
        simp [hstatus, dunningExempt, dunningExcludedTenantStatuses] at hmem hsuspended hcandidate
    have hend := stands_run hcandidate (fun _ => hexempt) hunpaid hs halone
    rw [← foldl_poll_eq_none]
    cases htimer : (dunningTimes es).foldl (poll (retryAfter tenant (w.db.subscriptionOf tenant.id))
        (graceAfter tenant (w.db.subscriptionOf tenant.id)) due) (some tenant.updatedAt) with
    | none =>
      rw [htimer] at hend
      obtain ⟨-, u, hrow⟩ := hend
      exact iff_of_true (Db.tenantStatus_of_tenant? hrow) (.inr rfl)
    | some anchor =>
      rw [htimer] at hend
      have hrow : (run step w es).db.tenant? tenant.id = some { tenant with updatedAt := anchor } := hend.2
      have hstatus : (run step w es).status tenant.id = some ({ tenant with updatedAt := anchor } : Tenant).status :=
        Db.tenantStatus_of_tenant? hrow
      rw [hstatus]
      refine iff_of_false (fun h => hsuspended (Option.some.inj h)) ?_
      rintro (h | h)
      · exact hsuspended h
      · cases h

end Cycles

/-- A cycle that comes when the grace of the state at first is over leaves the delinquent tenant suspended exactly when
it was suspended at first, or some cycle up to this one came when the grace since the last reminder was over. -/
theorem dunning_suspends_iff {t : Nat} {tenant : Tenant} {w : World} {es : List Event} (env : Env)
    (client : PlatformErpClient) (htenant : w.db.tenant? t = some tenant)
    (hcandidate : isBillingDunningCandidate tenant (w.db.subscriptionOf t) = true)
    (hunpaid : subscriptionStatusForTenant (w.db.subscriptionOf t) ∉ paidSubscriptionStatuses)
    (halone : Steps step (LeftAlone tenant (dueGrace client tenant)) w (es ++ [⟨env, .dunningCycle false⟩])) :
    ((resolveDunningContext client tenant (w.db.subscriptionOf t)).graceEndsAt ≤ env.clock 0 →
        (run step w (es ++ [⟨env, .dunningCycle false⟩])).status t = some .suspendedBilling) ↔
      ((resolveDunningContext client tenant (w.db.subscriptionOf t)).graceEndsAt ≤ env.clock 0 →
        tenant.status = .suspendedBilling ∨
          RunsOut (retryAfter tenant (w.db.subscriptionOf t)) (graceAfter tenant (w.db.subscriptionOf t))
            (dueGrace client tenant) tenant.updatedAt (dunningTimes (es ++ [⟨env, .dunningCycle false⟩]))) :=
  imp_congr_right fun _ => suspended_iff htenant hcandidate hunpaid halone

namespace Small

/-- An environment some hours after the tenant was created. -/
def envHours (n : Nat) : Env := { env with clock := fun t => 2000 + hours n + t }

/-- A tenant whose payment failed. -/
def delinquent : World := after [createTenant, webhook .paymentFailed "failed"]

def delinquentTenant : Tenant :=
  { id := 1, ownerId := 1, organizationId := some 1, subdomain := "acme", domain := "acme.example.com"
    siteName := "acme.example.com", companyName := "Acme", status := .pendingPayment, paymentProvider := "stripe"
    paymentChannel := some "card", dpoTransactionToken := none, platformCustomerId := none, updatedAt := 1002 }

/-- Dunning cycles some hours after the tenant was created. -/
def dunnedAt (times : List Nat) : List Event := times.map fun n => ⟨envHours n, .dunningCycle false⟩

end Small

set_option maxRecDepth 100000 in
/-- The tenant has grace for 48 hours, but a cycle after 24 hours reminds it. -/
theorem reminder_puts_off_suspension : Small.delinquent.db.tenant? 1 = some Small.delinquentTenant ∧
    isBillingDunningCandidate Small.delinquentTenant (Small.delinquent.db.subscriptionOf 1) = true ∧
    subscriptionStatusForTenant (Small.delinquent.db.subscriptionOf 1) ∉ paidSubscriptionStatuses ∧
    Steps step (LeftAlone Small.delinquentTenant (dueGrace Small.erp Small.delinquentTenant)) Small.delinquent
      (Small.dunnedAt [24, 48]) ∧
    (resolveDunningContext Small.erp Small.delinquentTenant (Small.delinquent.db.subscriptionOf 1)).graceEndsAt ≤
      (Small.envHours 48).clock 0 ∧
    (run step Small.delinquent (Small.dunnedAt [24, 48])).status 1 = some .pendingPayment :=
  ⟨by decide +kernel, by decide +kernel, by decide +kernel,
    ⟨⟨by decide +kernel, fun _ => ⟨rfl, rfl⟩⟩, ⟨by decide +kernel, fun _ => ⟨rfl, rfl⟩⟩, trivial⟩,
    by decide +kernel, by decide +kernel⟩

set_option maxRecDepth 100000 in
/-- With no cycle in between it is suspended. -/
theorem suspended_without_reminder : (run step Small.delinquent (Small.dunnedAt [48])).status 1 =
    some .suspendedBilling :=
  (@dunning_suspends_iff 1 Small.delinquentTenant Small.delinquent [] (Small.envHours 48) Small.erp
    (by decide +kernel) (by decide +kernel) (by decide +kernel)
    ⟨⟨by decide +kernel, fun _ => ⟨rfl, rfl⟩⟩, trivial⟩).2
    (fun _ => .inr ⟨[], _, [], rfl, by decide +kernel, by decide +kernel⟩) (by decide +kernel)

end ControlPlane
