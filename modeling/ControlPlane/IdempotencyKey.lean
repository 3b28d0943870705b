import ControlPlane.Preserved
import ControlPlane.Tenant.CreationRace

/-!
# The idempotency key

The response is stored under the key after the whole creation, and it does not say which payload it answers.  Requests
that ask for one subdomain are kept apart by the tenants' domains, whatever the store holds; a request for another one is
not, unless it comes when nothing has been done for the key.
-/

namespace ControlPlane

open Table Session Session.Proc Runs

/-! ### The name of a tenant -/

/-- The subdomain and the domain of a tenant's row. -/
def Db.nameOf (db : Db) (tenantId : Nat) : Option (String × String) :=
  (db.tenant? tenantId).map fun tenant => (tenant.subdomain, tenant.domain)

/-- There are `n` tenants, and one of them has this name. -/
def Named (n tenantId : Nat) (name : String × String) (db : Db) : Prop :=
  db.tenants.length = n ∧ db.nameOf tenantId = some name

section
variable {n tenantId : Nat} {name : String × String}

theorem Named.congr {db db' : Db} (h : Named n tenantId name db) (htenants : db'.tenants = db.tenants) :
    Named n tenantId name db' := by
  unfold Named Db.nameOf Db.tenant?
  rw [htenants]
  exact h

theorem Db.nameOf_flush (now : Time) (saved work : Db) (t : Nat) : (Db.flush now saved work).nameOf t = work.nameOf t := by
  obtain ⟨stamp, hstamp⟩ := Db.tenant?_flush now saved work t
  unfold Db.nameOf
  rw [hstamp, Option.map_map]
  rfl

theorem Named.flush {saved work : Db} (h : Named n tenantId name work) (now : Time) :
    Named n tenantId name (Db.flush now saved work) := by
  refine ⟨?_, ?_⟩
  · rw [← h.1]
    exact List.length_map _
  · rw [Db.nameOf_flush]
    exact h.2

theorem named_frame : Frame (fun _ => True) (Named n tenantId name) fun _ => True where
  core _ _ hcore h := h.congr (Db.tenants_of_core hcore)
  flush now _ _ _ h := h.flush now
  queue _ _ _ _ := trivial

/-- What is recorded of a checkout renames no tenant. -/
theorem Named.recordCheckout {env : Env} {owner : User} {t : Nat} {plan : Plan} {selectedApp : Option String}
    {trialStatus : SubscriptionStatus} {trialEndsAt : Option Time} {db db' : Db} {u : Unit}
    (h : Named n tenantId name db)
    (hr : recordCheckout env owner t plan selectedApp trialStatus trialEndsAt db = .ok (u, db')) :
    Named n tenantId name db' := by
  obtain ⟨tenant, htenant, hr⟩ := bind_eq_ok.1 hr
  obtain ⟨checkout, -, hr⟩ := bind_eq_ok.1 hr
  obtain ⟨moved, hmoved, hr⟩ := bind_eq_ok.1 hr
  obtain ⟨⟨subscription, db₁⟩, hsub, hr⟩ := bind_eq_ok.1 hr
  obtain ⟨-, rfl⟩ := transitionTenantStatus_ok hmoved
  obtain ⟨-, -, subscriptions, rfl⟩ := upsertSubscriptionForTenant_ok hsub
  cases hr
  have hread := requireTenant_ok htenant
  have hid := Db.tenant?_id hread
  refine ⟨?_, ?_⟩
  · rw [← h.1]
    exact List.length_map _
  · rw [← h.2]
    unfold Db.nameOf Db.tenant? Db.putTenant
    dsimp only
    rw [get?_put]
    show Option.map _ (if tenantId = tenant.id then _ else _) = _
    split
    · rename_i heq
      rw [heq, hid]
      unfold Db.tenant? at hread
      rw [hread]
      rfl
    · rfl

theorem named_joinStep (env : Env) (owner : User) (creation : NewCreation) :
    Keeps (OnRows (Named n tenantId name)) (joinStep env owner creation) :=
  .bind (.modify fun _ h => h) fun _ => Bookkeeping.commit env _ _ named_frame

theorem named_checkOutStep (env : Env) (owner : User) (creation : NewCreation) :
    Keeps (OnRows (Named n tenantId name)) (checkOutStep env owner creation) :=
  .bind (keeps_change fun _ _ _ _ h hr => h.recordCheckout hr) fun _ => Bookkeeping.commit env _ _ named_frame

theorem named_auditStep (env : Env) (t : Nat) : Keeps (OnRows (Named n tenantId name)) (auditStep env t) :=
  Bookkeeping.recordAuditEvent env _ _ _ _ _ named_frame

end

theorem Db.nameOf_insert {db db' : Db} {tenant : Tenant} (h : db'.tenants = insert db.tenants tenant)
    (hid : tenant.id = fresh db.tenants) : db'.nameOf tenant.id = some (tenant.subdomain, tenant.domain) := by
  have hfree : get? db.tenants (key tenant) = none := by
    show get? db.tenants tenant.id = none
    rw [hid]
    exact get?_fresh db.tenants
  have hrow : get? (insert db.tenants tenant) tenant.id = some tenant := get?_insert_self hfree
  unfold Db.nameOf Db.tenant?
  rw [h, hrow]
  rfl

/-- A new tenant is named by the subdomain that was asked for, and its domain was free. -/
theorem prepareTenant_name {settings : Settings} {owner : User} {subdomain companyName plan : String}
    {chosenApp : Option String} {now : Time} {db db' : Db} {tenantId : Nat} {selectedPlan : Plan}
    {selectedApp : Option String}
    (h : prepareTenant settings owner subdomain companyName plan chosenApp now db =
      .ok ((tenantId, selectedPlan, selectedApp), db')) :
    ∃ clean, validateSubdomain subdomain = .ok clean ∧
      (∀ t ∈ db.tenants, t.domain ≠ clean ++ "." ++ settings.tenantDomainSuffix) ∧
      Named (db.tenants.length + 1) tenantId (clean, clean ++ "." ++ settings.tenantDomainSuffix) db' := by
  obtain ⟨u, -, h⟩ := bind_eq_ok.1 h
  obtain ⟨clean, hclean, h⟩ := bind_eq_ok.1 h
  obtain ⟨⟨plan', db₁⟩, hplan, h⟩ := bind_eq_ok.1 h
  obtain ⟨app, -, h⟩ := bind_eq_ok.1 h
  obtain ⟨u', hfree, h⟩ := bind_eq_ok.1 h
  obtain ⟨⟨subscription, db₂⟩, hsub, h⟩ := bind_eq_ok.1 h
  obtain ⟨plans, rfl⟩ := requirePlanBySlug_frame hplan
  obtain ⟨-, -, subscriptions, rfl⟩ := upsertSubscriptionForTenant_ok hsub
  have hnone := raiseIf_eq_ok.1 hfree
  cases h
  refine ⟨clean, asUnprocessable_ok hclean, fun t ht hdomain => hnone ⟨t, ht, hdomain⟩, ?_, ?_⟩
  · show (insert db.tenants _).length = _
    exact List.length_append
  · exact Db.nameOf_insert rfl rfl

/-- The first commit of a request takes a free domain for a new tenant, or leaves the rows. -/
theorem prepareStep_cases (env : Env) (owner : User) (payload : TenantCreateRequest) (db : Db) (queue : List Task)
    (tick : Nat) :
    (∃ e s, prepareStep env owner payload ⟨db, db, queue, tick⟩ = (.error e, s) ∧ s.saved = db) ∨
    ∃ creation s clean, prepareStep env owner payload ⟨db, db, queue, tick⟩ = (.ok creation, s) ∧
      validateSubdomain payload.subdomain = .ok clean ∧
      (∀ t ∈ db.tenants, t.domain ≠ clean ++ "." ++ env.settings.tenantDomainSuffix) ∧
      db.tenant? creation.tenantId = none ∧
      Named (db.tenants.length + 1) creation.tenantId (clean, clean ++ "." ++ env.settings.tenantDomainSuffix) s.saved := by
  unfold prepareStep
  rw [bind_ok (utcnow_apply env _)]
  cases hprepared : prepareTenant env.settings owner payload.subdomain payload.companyName payload.plan payload.chosenApp
      (env.clock tick) db with
  | error e =>
    rw [bind_error (change_error (by exact hprepared))]
    exact Or.inl ⟨e, _, rfl, rfl⟩
  | ok prepared =>
    obtain ⟨⟨tenantId, selectedPlan, selectedApp⟩, db'⟩ := prepared
    rw [bind_ok (change_ok (by exact hprepared))]
    dsimp only
    cases hcommit : env.commitFails tick with
    | true =>
      rw [commit_bind_lost _ (by exact hcommit)]
      exact Or.inl ⟨_, _, rfl, rfl⟩
    | false =>
      rw [commit_bind_done _ (by exact hcommit)]
      obtain ⟨clean, hclean, hfree, hname⟩ := prepareTenant_name hprepared
      have hfresh := (prepareTenant_ok hprepared).1
      refine Or.inr ⟨_, _, clean, rfl, hclean, hfree, ?_, ?_⟩
      · rw [hfresh]
        exact get?_fresh db.tenants
      · exact hname.flush _

namespace CreationRace

/-! ### Steps of a request -/

section
variable {r : KeyedRequests} {s : CreationRace}

/-- A part of a program that renames no tenant goes on to the next phase or fails. -/
theorem runs_named {α : Type} {n t i : Nat} {name : String × String} {program : Proc α} (next : α → CreationPhase)
    (hprogram : Keeps (OnRows (Named n t name)) program) (h : Named n t name s.db) :
    ∃ db phase tick, s.runs i program next = ⟨db, s.store, s.now, Function.update s.phase i phase, tick⟩ ∧
      Named n t name db ∧ (phase = .failed (s.phase i).tenant ∨ ∃ a, phase = next a) := by
  have hkept := hprogram.apply (s := ⟨s.db, s.db, [], s.tick i⟩) ⟨h, h, trivial⟩
  unfold runs
  cases hrun : program ⟨s.db, s.db, [], s.tick i⟩ with
  | mk result s' =>
    rw [hrun] at hkept
    cases result with
    | ok a => exact ⟨_, _, _, rfl, hkept.2.1, Or.inr ⟨a, rfl⟩⟩
    | error e => exact ⟨_, _, _, rfl, hkept.2.1, Or.inl rfl⟩

theorem found_of_get {name : String} (hkey : r.cacheKey = some name) :
    s.store.get s.now name = (s.found r, s.store.purgeExpired s.now name) := by
  rw [InMemoryTokenStore.get_eq, found, hkey, Option.bind_some]

theorem found_none (hkey : r.cacheKey = none) : s.found r = none := by
  rw [found, hkey]
  rfl

theorem found_purged {name : String} (hkey : r.cacheKey = some name) :
    ({ s with store := s.store.purgeExpired s.now name } : CreationRace).found r = s.found r := by
  unfold found
  rw [hkey, Option.bind_some, Option.bind_some, InMemoryTokenStore.lookup_purgeExpired _ _ (Nat.le_refl _)]

/-- What is found later is there now. -/
theorem found_of_later {time t : Nat} (h : ({ s with now := s.now + time } : CreationRace).found r = some t) :
    s.found r = some t := by
  unfold found at h ⊢
  cases hkey : r.cacheKey with
  | none => rw [hkey] at h; cases h
  | some name =>
    rw [hkey, Option.bind_some] at h
    rw [Option.bind_some]
    unfold InMemoryTokenStore.lookup at h ⊢
    cases hitem : s.store.items name with
    | none => rw [hitem] at h; cases h
    | some item =>
      rw [hitem, Option.bind_some] at h
      rw [Option.bind_some]
      by_cases hlater : s.now + time < item.expiresAt
      · rw [if_pos hlater] at h
        rw [if_pos (Nat.lt_of_le_of_lt (Nat.le_add_right ..) hlater)]
        exact h
      · rw [if_neg hlater] at h
        cases h

/-- What is stored under the key is found. -/
theorem found_stored {name : String} (hkey : r.cacheKey = some name) {ttl t t' : Nat}
    (h : ({ s with store := s.store.setex s.now name ttl t } : CreationRace).found r = some t') : t' = t := by
  unfold found at h
  rw [hkey, Option.bind_some, InMemoryTokenStore.lookup_setex_self] at h
  split at h
  · exact (Option.some.inj h).symm
  · cases h

end

/-! ### The invariant -/

/-- Nobody has committed a tenant: the requests that may are agreed on the subdomain. -/
structure Untouched (r : KeyedRequests) (base : Db) (s : CreationRace) : Prop where
  db : s.db = base
  phase : ∀ i, s.phase i = .looking ∨ s.phase i = .preparing ∨ s.phase i = .failed none
  agreed : ∀ i j, s.phase i = .preparing → s.phase j = .preparing → r.subdomain i = r.subdomain j
  found : s.found r = none

/-- One tenant was committed, under the name that all engaged requests have asked for. -/
structure Made (r : KeyedRequests) (base : Db) (t : Nat) (clean : String) (s : CreationRace) : Prop where
  row : Named (base.tenants.length + 1) t (clean, clean ++ "." ++ r.settings.tenantDomainSuffix) s.db
  new : base.tenant? t = none
  maker : ∃ i, (s.phase i).tenant = some t
  engaged : ∀ i, (s.phase i).engaged → r.subdomain i = .ok clean
  only : ∀ i t', (s.phase i).tenant = some t' → t' = t
  answers : ∀ i t', (s.phase i).answer = some t' → t' = t ∧ r.subdomain i = .ok clean
  found : ∀ t', s.found r = some t' → t' = t

/-- What a run keeps. -/
def OneName (r : KeyedRequests) (base : Db) (s : CreationRace) : Prop :=
  s.Untouched r base ∨ ∃ t clean, s.Made r base t clean

section
variable {r : KeyedRequests} {base : Db} {s : CreationRace}

theorem Untouched.works (h : s.Untouched r base) : s.KeyWorks r base := by
  have hnone : ∀ i, (s.phase i).answer = none := by
    intro i
    rcases h.phase i with hi | hi | hi
    · rw [hi]; rfl
    · rw [hi]; rfl
    · rw [hi]; rfl
  refine ⟨?_, fun i j t t' hi => ?_, fun i t hi => ?_⟩
  · rw [h.db]
    exact Nat.le_succ _
  · rw [hnone i] at hi
    cases hi
  · rw [hnone i] at hi
    cases hi

theorem Made.works {t : Nat} {clean : String} (h : s.Made r base t clean) : s.KeyWorks r base := by
  obtain ⟨hlength, hname⟩ := h.row
  refine ⟨Nat.le_of_eq hlength, fun i j t₁ t₂ hi hj => ?_, fun i t' hi => ?_⟩
  · rw [(h.answers i t₁ hi).1, (h.answers j t₂ hj).1]
  · obtain ⟨rfl, hsubdomain⟩ := h.answers i t' hi
    obtain ⟨tenant, htenant, heq⟩ := Option.map_eq_some_iff.1 hname
    refine ⟨h.new, tenant, htenant, ?_⟩
    rw [hsubdomain]
    exact congrArg Except.ok (congrArg Prod.fst heq).symm

theorem OneName.works (h : s.OneName r base) : s.KeyWorks r base := by
  rcases h with h | ⟨t, clean, h⟩
  · exact h.works
  · exact h.works

/-- After the commit a request keeps its tenant when it moves on, and answers with the tenant only if it has asked for its
subdomain. -/
theorem Made.move {t i : Nat} {clean : String} {s' : CreationRace} {phase : CreationPhase} (h : s.Made r base t clean)
    (hphase : s'.phase = Function.update s.phase i phase)
    (hrow : Named (base.tenants.length + 1) t (clean, clean ++ "." ++ r.settings.tenantDomainSuffix) s'.db)
    (hfound : ∀ t', s'.found r = some t' → t' = t) (htenant : phase.tenant = (s.phase i).tenant)
    (hprepares : phase = .preparing → r.subdomain i = .ok clean)
    (hanswer : ∀ t', phase.answer = some t' → t' = t ∧ r.subdomain i = .ok clean) : s'.Made r base t clean := by
  have hself : s'.phase i = phase := by rw [hphase, Function.update_self]
  have hother : ∀ j, j ≠ i → s'.phase j = s.phase j := fun j hj => by rw [hphase, Function.update_of_ne hj]
  have htenants : ∀ j, (s'.phase j).tenant = (s.phase j).tenant := by
    intro j
    by_cases hj : j = i
    · rw [hj, hself, htenant]
    · rw [hother j hj]
  refine ⟨hrow, h.new, ?_, fun j hj => ?_, fun j t' hj => ?_, fun j t' hj => ?_, hfound⟩
  · obtain ⟨j, hj⟩ := h.maker
    exact ⟨j, (htenants j).trans hj⟩
  · rcases hj with hj | hj
    · by_cases hij : j = i
      · rw [hij]
        rw [hij, hself] at hj
        exact hprepares hj
      · rw [hother j hij] at hj
        exact h.engaged j (Or.inl hj)
    · rw [htenants j] at hj
      exact h.engaged j (Or.inr hj)
  · rw [htenants j] at hj
    exact h.only j t' hj
  · by_cases hij : j = i
    · rw [hij]
      rw [hij, hself] at hj
      exact hanswer t' hj
    · rw [hother j hij] at hj
      exact h.answers j t' hj

/-! ### Steps after the commit -/

/-- A part of the program after the commit. -/
theorem Made.runs {α : Type} {t i : Nat} {clean : String} {program : Proc α} {next : α → CreationPhase}
    (h : s.Made r base t clean)
    (hprogram : Keeps (OnRows (Named (base.tenants.length + 1) t
      (clean, clean ++ "." ++ r.settings.tenantDomainSuffix))) program)
    (hnext : ∀ a, (next a).tenant = (s.phase i).tenant ∧ (next a).answer = none ∧ next a ≠ .preparing) :
    (s.runs i program next).Made r base t clean := by
  obtain ⟨db, phase, tick, heq, hrow, hphase⟩ := runs_named next hprogram h.row
  rw [heq]
  rcases hphase with rfl | ⟨a, rfl⟩
  · exact h.move rfl hrow h.found rfl (fun hp => by cases hp) fun t' hp => by cases hp
  · obtain ⟨htenant, hanswer, hprepares⟩ := hnext a
    refine h.move rfl hrow h.found htenant (fun hp => absurd hp hprepares) fun t' hp => ?_
    rw [hanswer] at hp
    cases hp

/-- A request whose domain is taken commits nothing. -/
theorem Made.prepares {t i : Nat} {clean : String} (h : s.Made r base t clean) (hphase : s.phase i = .preparing) :
    (s.runs i (prepareStep (r.env i) r.owner (r.payload i)) .joining).Made r base t clean := by
  have hsubdomain := h.engaged i (Or.inl hphase)
  unfold CreationRace.runs
  rcases prepareStep_cases (r.env i) r.owner (r.payload i) s.db [] (s.tick i) with
    ⟨e, s', hrun, hsaved⟩ | ⟨creation, s', clean', hrun, hclean', hfree, -⟩
  · rw [hrun]
    dsimp only
    rw [hsaved]
    exact h.move rfl h.row h.found rfl (fun hp => by cases hp) fun t' hp => by rw [hphase] at hp; cases hp
  · -- its domain is the one of the tenant that is there
    have hsame : clean' = clean := by
      have heq := hclean'.symm.trans hsubdomain
      cases heq
      rfl
    obtain ⟨tenant, htenant, hname⟩ := Option.map_eq_some_iff.1 h.row.2
    exact absurd ((congrArg Prod.snd hname).trans (by rw [hsame]; rfl)) (hfree tenant (mem_of_get? htenant))

theorem Made.looks {t i : Nat} {clean : String} (h : s.Made r base t clean) (hphase : s.phase i = .looking)
    (hsame : s.sameSubdomain r (.advances i)) : (s.advance r i).Made r base t clean := by
  have hcondition := hsame hphase
  obtain ⟨maker, hmaker⟩ := h.maker
  have hengaged : (s.phase maker).engaged := Or.inr (by rw [hmaker]; exact Option.some_ne_none t)
  -- a request that finds nothing asks for the same as the maker
  have hprepare : s.found r = none → r.subdomain i = .ok clean := by
    intro hnone
    rw [hnone] at hcondition
    rw [← hcondition maker hengaged]
    exact h.engaged maker hengaged
  unfold advance
  rw [hphase]
  dsimp only
  cases hkey : r.cacheKey with
  | none =>
    have hnone : s.found r = none := found_none hkey
    exact h.move rfl h.row h.found (by rw [hphase]; rfl) (fun _ => hprepare hnone) fun t' hp => by cases hp
  | some name =>
    dsimp only
    rw [found_of_get hkey]
    have hpurged : ∀ t', ({ s with store := s.store.purgeExpired s.now name } : CreationRace).found r = some t' →
        t' = t := fun t' ht' => h.found t' (by rw [← found_purged hkey]; exact ht')
    cases hfound : s.found r with
    | none => exact h.move rfl h.row hpurged (by rw [hphase]; rfl) (fun _ => hprepare hfound) fun t' hp => by cases hp
    | some t' =>
      obtain rfl := h.found t' hfound
      rw [hfound] at hcondition
      obtain ⟨tenant, htenant, hname⟩ := Option.map_eq_some_iff.1 h.row.2
      refine h.move rfl h.row hpurged (by rw [hphase]; rfl) (fun hp => by cases hp) fun t₁ hp => ?_
      cases hp
      refine ⟨rfl, (hcondition tenant htenant).trans ?_⟩
      exact congrArg Except.ok (congrArg Prod.fst hname)

/-- The response is stored under the key. -/
theorem Made.stores {t i t' : Nat} {clean : String} (h : s.Made r base t clean) (hphase : s.phase i = .storing t') :
    (s.advance r i).Made r base t clean := by
  have htenant : (s.phase i).tenant = some t' := by rw [hphase]; rfl
  obtain rfl := h.only i t' htenant
  have hsubdomain := h.engaged i (Or.inr (by rw [htenant]; exact Option.some_ne_none t'))
  unfold advance
  rw [hphase]
  dsimp only
  cases hkey : r.cacheKey with
  | none =>
    refine h.move rfl h.row h.found htenant.symm (fun hp => by cases hp) fun t₁ hp => ?_
    cases hp
    exact ⟨rfl, hsubdomain⟩
  | some name =>
    refine h.move rfl h.row (fun t₁ ht₁ => found_stored hkey ht₁) htenant.symm (fun hp => by cases hp) fun t₁ hp => ?_
    cases hp
    exact ⟨rfl, hsubdomain⟩

theorem Made.step {t : Nat} {clean : String} {move : CreationMove} (h : s.Made r base t clean)
    (hsame : s.sameSubdomain r move) : (s.step r move).Made r base t clean := by
  cases move with
  | passes time => exact { h with found := fun t' ht' => h.found t' (found_of_later ht') }
  | cutOff i =>
    have hcut : (s.setPhase i (.failed (s.phase i).tenant)).Made r base t clean :=
      h.move rfl h.row h.found rfl (fun hp => by cases hp) fun t' hp => by cases hp
    unfold CreationRace.step
    dsimp only
    split
    · exact h
    · exact h
    · exact h
    · exact hcut
  | advances i =>
    show (s.advance r i).Made r base t clean
    cases hphase : s.phase i with
    | looking => exact h.looks hphase hsame
    | preparing =>
      have hprepared := h.prepares hphase
      unfold advance
      rw [hphase]
      exact hprepared
    | joining creation =>
      unfold advance
      rw [hphase]
      exact h.runs (named_joinStep _ _ _) fun _ => ⟨by rw [hphase]; rfl, rfl, CreationPhase.noConfusion⟩
    | checkingOut creation =>
      unfold advance
      rw [hphase]
      exact h.runs (named_checkOutStep _ _ _) fun _ => ⟨by rw [hphase]; rfl, rfl, CreationPhase.noConfusion⟩
    | auditing tenantId =>
      unfold advance
      rw [hphase]
      exact h.runs (named_auditStep _ _) fun _ => ⟨by rw [hphase]; rfl, rfl, CreationPhase.noConfusion⟩
    | storing tenantId => exact h.stores hphase
    | created tenantId => unfold advance; rw [hphase]; exact h
    | replayed tenantId => unfold advance; rw [hphase]; exact h
    | failed tenantId => unfold advance; rw [hphase]; exact h

/-! ### Steps before the commit -/

/-- A request that has committed nothing moves on, and is agreed with the others if it may commit. -/
theorem Untouched.move {i : Nat} {s' : CreationRace} {phase : CreationPhase} (h : s.Untouched r base)
    (hphase : s'.phase = Function.update s.phase i phase) (hdb : s'.db = s.db) (hfound : s'.found r = none)
    (hnext : phase = .preparing ∧ (∀ j, s.phase j = .preparing → r.subdomain j = r.subdomain i) ∨
      phase = .failed none) : s'.Untouched r base := by
  have hself : s'.phase i = phase := by rw [hphase, Function.update_self]
  have hother : ∀ j, j ≠ i → s'.phase j = s.phase j := fun j hj => by rw [hphase, Function.update_of_ne hj]
  have hagrees : ∀ j, s'.phase j = .preparing → s'.phase i = .preparing → r.subdomain j = r.subdomain i := by
    intro j hj hi
    rcases hnext with ⟨-, hall⟩ | hfailed
    · by_cases hij : j = i
      · rw [hij]
      · exact hall j (by rw [← hother j hij]; exact hj)
    · rw [hself, hfailed] at hi
      cases hi
  refine ⟨hdb.trans h.db, fun j => ?_, fun j k hj hk => ?_, hfound⟩
  · by_cases hij : j = i
    · rw [hij, hself]
      rcases hnext with ⟨hp, -⟩ | hp
      · exact Or.inr (Or.inl hp)
      · exact Or.inr (Or.inr hp)
    · rw [hother j hij]
      exact h.phase j
  · by_cases hij : j = i
    · subst hij
      exact (hagrees k hk hj).symm
    · by_cases hik : k = i
      · subst hik
        exact hagrees j hj hk
      · rw [hother j hij] at hj
        rw [hother k hik] at hk
        exact h.agreed j k hj hk

/-- Before the commit a request finds nothing under the key. -/
theorem Untouched.looks {i : Nat} (h : s.Untouched r base) (hphase : s.phase i = .looking)
    (hsame : s.sameSubdomain r (.advances i)) : (s.advance r i).Untouched r base := by
  have hcondition := hsame hphase
  rw [h.found] at hcondition
  have hagrees : ∀ j, s.phase j = .preparing → r.subdomain j = r.subdomain i := fun j hj => hcondition j (Or.inl hj)
  unfold advance
  rw [hphase]
  dsimp only
  cases hkey : r.cacheKey with
  | none => exact h.move rfl rfl h.found (Or.inl ⟨rfl, hagrees⟩)
  | some name =>
    dsimp only
    rw [found_of_get hkey, h.found]
    exact h.move rfl rfl ((found_purged hkey).trans h.found) (Or.inl ⟨rfl, hagrees⟩)

/-- The first commit, or none. -/
theorem Untouched.prepares {i : Nat} (h : s.Untouched r base) (hphase : s.phase i = .preparing) :
    (s.runs i (prepareStep (r.env i) r.owner (r.payload i)) .joining).OneName r base := by
  unfold CreationRace.runs
  rcases prepareStep_cases (r.env i) r.owner (r.payload i) s.db [] (s.tick i) with
    ⟨e, s', hrun, hsaved⟩ | ⟨creation, s', clean, hrun, hclean, -, hnew, hrow⟩
  · rw [hrun, hphase]
    exact Or.inl (h.move rfl hsaved h.found (Or.inr rfl))
  · rw [hrun]
    dsimp only
    rw [h.db] at hnew hrow
    have hnone : ∀ j, j ≠ i → (s.phase j).tenant = none ∧ (s.phase j).answer = none := by
      intro j _
      rcases h.phase j with hj | hj | hj
      · rw [hj]; exact ⟨rfl, rfl⟩
      · rw [hj]; exact ⟨rfl, rfl⟩
      · rw [hj]; exact ⟨rfl, rfl⟩
    have hother : ∀ j, j ≠ i → Function.update s.phase i (.joining creation) j = s.phase j :=
      fun j hj => Function.update_of_ne hj ..
    have hself : Function.update s.phase i (.joining creation) i = .joining creation := Function.update_self ..
    refine Or.inr ⟨creation.tenantId, clean, hrow, hnew, ⟨i, congrArg CreationPhase.tenant hself⟩, fun j hj => ?_,
      fun j t' hj => ?_, fun j t' hj => ?_, fun t' ht' => ?_⟩
    · by_cases hij : j = i
      · rw [hij]
        exact hclean
      · rcases hj with hj | hj
        · -- it was agreed with the request that made the tenant
          exact (h.agreed j i ((hother j hij).symm.trans hj) hphase).trans hclean
        · exact absurd ((congrArg CreationPhase.tenant (hother j hij)).trans (hnone j hij).1) hj
    · by_cases hij : j = i
      · subst hij
        exact (Option.some.inj ((congrArg CreationPhase.tenant hself).symm.trans hj)).symm
      · have hnot := (congrArg CreationPhase.tenant (hother j hij)).trans (hnone j hij).1
        cases hnot.symm.trans hj
    · by_cases hij : j = i
      · subst hij
        cases (congrArg CreationPhase.answer hself).symm.trans hj
      · have hnot := (congrArg CreationPhase.answer (hother j hij)).trans (hnone j hij).2
        cases hnot.symm.trans hj
    · have hnothing := h.found
      cases hnothing.symm.trans ht'

theorem Untouched.step {move : CreationMove} (h : s.Untouched r base) (hsame : s.sameSubdomain r move) :
    (s.step r move).OneName r base := by
  cases move with
  | passes time =>
    refine Or.inl ⟨h.db, h.phase, h.agreed, ?_⟩
    cases hlater : ({ s with now := s.now + time } : CreationRace).found r with
    | none => exact hlater
    | some t =>
      have hnothing := h.found
      cases hnothing.symm.trans (found_of_later hlater)
  | cutOff i =>
    have hcut : (s.setPhase i (.failed none)).Untouched r base := h.move rfl rfl h.found (Or.inr rfl)
    show (CreationRace.step r s (.cutOff i)).OneName r base
    unfold CreationRace.step
    dsimp only
    rcases h.phase i with hi | hi | hi
    · rw [hi]; exact Or.inl hcut
    · rw [hi]; exact Or.inl hcut
    · rw [hi]; exact Or.inl h
  | advances i =>
    show (s.advance r i).OneName r base
    rcases h.phase i with hi | hi | hi
    · exact Or.inl (h.looks hi hsame)
    · have hprepared := h.prepares hi
      unfold advance
      rw [hi]
      exact hprepared
    · unfold advance
      rw [hi]
      exact Or.inl h

/-- A step of a run that asks for one subdomain. -/
theorem OneName.step (h : s.OneName r base) (move : CreationMove) (hsame : s.sameSubdomain r move) :
    (s.step r move).OneName r base := by
  rcases h with h | ⟨t, clean, h⟩
  · exact h.step hsame
  · exact Or.inr ⟨t, clean, h.step hsame⟩

end

theorem KeyUnused.oneName {r : KeyedRequests} {s : CreationRace} (h : s.KeyUnused r) : s.OneName r s.db := by
  refine Or.inl ⟨rfl, fun i => Or.inl (h.phase i), fun i j hi => ?_, h.found⟩
  rw [h.phase i] at hi
  cases hi

/-- In every run of the requests in which one that finds a response asks for the subdomain of its tenant, and one that finds
none for that of every engaged request, the key works. -/
theorem idempotency_key_works (r : KeyedRequests) (s : CreationRace) (moves : List CreationMove) (hstart : s.KeyUnused r)
    (hsame : Steps (CreationRace.step r) (fun s' => s'.sameSubdomain r) s moves) :
    Always (CreationRace.step r) (fun s' => s'.KeyWorks r s.db) s moves := by
  have hname : Always (CreationRace.step r) (fun s' => s'.OneName r s.db) s moves :=
    Always.of_steps (fun s' move h hC => h.step move hC) hstart.oneName hsame
  exact hname.mono fun s' h => h.works

/-- When all requests ask for one subdomain the key works in every run. -/
theorem OneName.sameSubdomain {r : KeyedRequests} {base : Db} {s : CreationRace} (h : s.OneName r base)
    (hall : ∀ i j, r.subdomain i = r.subdomain j) (move : CreationMove) : s.sameSubdomain r move := by
  cases move with
  | passes time => trivial
  | cutOff i => trivial
  | advances i =>
    intro _
    cases hfound : s.found r with
    | none => exact fun j _ => hall j i
    | some t' =>
      intro tenant htenant
      rcases h with h | ⟨t, clean, h⟩
      · have hnothing := h.found
        cases hnothing.symm.trans hfound
      · obtain rfl := h.found t' hfound
        obtain ⟨maker, hmaker⟩ := h.maker
        obtain ⟨tenant', htenant', hname⟩ := Option.map_eq_some_iff.1 h.row.2
        rw [htenant] at htenant'
        cases htenant'
        have hclean := h.engaged maker (Or.inr (by rw [hmaker]; exact Option.some_ne_none t'))
        rw [hall i maker, hclean]
        exact congrArg Except.ok (congrArg Prod.fst hname).symm

/-- When all requests ask for one subdomain, every step is one of `sameSubdomain`. -/
theorem steps_of_one_subdomain {r : KeyedRequests} {s : CreationRace} (hstart : s.KeyUnused r)
    (hall : ∀ i j, r.subdomain i = r.subdomain j) (moves : List CreationMove) :
    Steps (CreationRace.step r) (fun s' => s'.sameSubdomain r) s moves :=
  Steps.of_invariant (fun _ move h hC => h.step move hC) (fun _ move h => h.sameSubdomain hall move)
    hstart.oneName moves

end CreationRace

namespace Small

/-- Requests of the small world's owner with one key. -/
def keyed (subdomain : Nat → String) : KeyedRequests where
  owner := ⟨1, "owner@example.com", false, true⟩
  idempotencyKey := "k-1"
  settings := env.settings
  payload i := ⟨subdomain i, "Acme", "starter", none⟩
  envs _ := env

def keyUnused : CreationRace := ⟨world.db, .empty, 1000, fun _ => .looking, fun _ => 0⟩

/-- Two requests at the same time, and a third that finds the response. -/
def overlapping : List CreationMove :=
  [.advances 0, .advances 1] ++ List.replicate 6 (.advances 0) ++ List.replicate 6 (.advances 1) ++ [.advances 2]

/-- One request after the other. -/
def oneByOne : List CreationMove := List.replicate 7 (.advances 0) ++ [.advances 1]

end Small

theorem overlapping_works :
    Always (CreationRace.step (Small.keyed fun _ => "acme"))
      (fun s' => s'.KeyWorks (Small.keyed fun _ => "acme") Small.keyUnused.db) Small.keyUnused Small.overlapping := by
  have hstart : Small.keyUnused.KeyUnused (Small.keyed fun _ => "acme") := ⟨fun _ => rfl, rfl⟩
  exact CreationRace.idempotency_key_works _ _ _ hstart
    (CreationRace.steps_of_one_subdomain hstart (fun _ _ => rfl) Small.overlapping)

set_option maxRecDepth 100000 in
/-- A request for another subdomain is answered with the first one's tenant when it comes later, and makes a second tenant
when it comes at the same time. -/
theorem other_subdomain_with_same_key :
    let r := Small.keyed fun i => if i = 0 then "acme" else "beta"
    ((run (CreationRace.step r) Small.keyUnused Small.oneByOne).phase 1 = .replayed 1 ∧
      ¬(run (CreationRace.step r) Small.keyUnused Small.oneByOne).KeyWorks r Small.keyUnused.db) ∧
    ((run (CreationRace.step r) Small.keyUnused Small.overlapping).db.tenants.map Tenant.subdomain = ["acme", "beta"] ∧
      ¬(run (CreationRace.step r) Small.keyUnused Small.overlapping).KeyWorks r Small.keyUnused.db) := by
  refine ⟨⟨by decide +kernel, fun h => ?_⟩, ⟨by decide +kernel, fun h => ?_⟩⟩
  · obtain ⟨-, tenant, htenant, hsubdomain⟩ := h.own 1 1 (by decide +kernel)
    have hacme : ((run (CreationRace.step (Small.keyed fun i => if i = 0 then "acme" else "beta")) Small.keyUnused
        Small.oneByOne).db.tenant? 1).map Tenant.subdomain = some "acme" := by decide +kernel
    rw [htenant] at hacme
    have hbeta : validateSubdomain "beta" = .ok "acme" := hsubdomain.trans (congrArg Except.ok (Option.some.inj hacme))
    revert hbeta
    decide +kernel
  · have hone := h.one
    revert hone
    decide +kernel

end ControlPlane
