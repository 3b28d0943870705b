import ControlPlane.Billing.WebhookEffects
import ControlPlane.TrialExpiry

/-!
# A payment during a trial cycle

`run_trial_lifecycle_cycle` reads its candidates with one query and goes over them one by one: it reads the tenant, decides,
and commits.  The rows it holds expire with each of its commits, so that the first candidate it changes is judged by what the
query read, and every later one by what is committed when its turn comes.  A `payment.confirmed` webhook reads the tenant
and the subscription in a session of its own, and commits.  A commit writes the columns that its session has changed.
-/

namespace ControlPlane

open Table Runs

/-- A column after the commit of a session that read `read` and assigned `new`. -/
def writeColumn {α : Type} [DecidableEq α] (committed read new : α) : α := if new = read then committed else new

/-- Where the cycle is.  `between` holds the candidates it has not come to yet, as the session has them in memory, and
whether these have expired; `answering` the rows it has decided on and not committed. -/
inductive CyclePlace where
  | starting
  | between (ahead : List Subscription) (expired : Bool)
  | reading (subscription : Subscription) (ahead : List Subscription) (expired : Bool)
  | answering (subscription : Subscription) (tenant : Tenant) (ahead : List Subscription)
  | finished
  deriving DecidableEq

/-- The candidates the cycle has in memory. -/
def CyclePlace.memory : CyclePlace → List Subscription
  | .between ahead _ => ahead
  | .reading subscription ahead _ => subscription :: ahead
  | .answering subscription _ ahead => subscription :: ahead
  | _ => []

/-- Where the webhook is, with the rows it has read. -/
inductive PaymentPlace where
  | starting
  | tenantRead (tenant : Tenant)
  | answering (tenant : Tenant) (subscription : Subscription)
  | finished (paid : Bool)
  deriving DecidableEq

/-- The committed rows, and where the two parties are. -/
structure TrialRace where
  db : Db
  cycle : CyclePlace
  payment : PaymentPlace

/-- A party takes its next step, which goes well or not: a read or a commit may fail, and that ends the party. -/
inductive TrialMove where
  | cycle (goesWell : Bool)
  | payment (goesWell : Bool)
  deriving DecidableEq

/-- The rows the query reads. -/
def expiredTrialRows (db : Db) (now : Time) : List Subscription :=
  (expiredTrials db now).filterMap fun id => get? db.subscriptions id

/-- The cycle's update of a subscription row, of which it has read `read`. -/
def pastDueRow (read row : Subscription) : Subscription :=
  { row with status := writeColumn row.status read.status .pastDue }

/-- The cycle's update of a tenant row. -/
def expiredTenant (read : Tenant) (now : Time) (row : Tenant) : Tenant :=
  { row with
    status := writeColumn row.status read.status (trialExpiredStatus read.status)
    updatedAt := now }

/-- What the cycle commits for a candidate. -/
def commitTrial (subscription : Subscription) (tenant : Tenant) (now : Time) (db : Db) : Db :=
  { db with
    subscriptions := modify db.subscriptions subscription.id (pastDueRow subscription)
    tenants := modify db.tenants tenant.id (expiredTenant tenant now) }

/-- The webhook's update of a subscription row. -/
def paidRow (read row : Subscription) : Subscription :=
  { row with
    status := writeColumn row.status read.status .active
    trialEndsAt := if read.status = .trialing then writeColumn row.trialEndsAt read.trialEndsAt none
      else row.trialEndsAt }

/-- The webhook's update of a tenant row. -/
def paidTenant (read : Tenant) (now : Time) (row : Tenant) : Tenant :=
  { row with
    status := writeColumn row.status read.status (paidStatus read.status)
    updatedAt := now }

/-- What the webhook commits for its tenant. -/
def commitPayment (tenant : Tenant) (subscription : Subscription) (now : Time) (db : Db) : Db :=
  { db with
    subscriptions := modify db.subscriptions subscription.id (paidRow subscription)
    tenants := modify db.tenants tenant.id (paidTenant tenant now) }

namespace TrialRace

section

variable (now paidAt : Time) (t : Nat)

/-- A step of the cycle. -/
def cycleStep (s : TrialRace) : TrialRace :=
  match s.cycle with
  | .starting => { s with cycle := .between (expiredTrialRows s.db now) false }
  | .between [] _ => { s with cycle := .finished }
  | .between (subscription :: ahead) false => { s with cycle := .reading subscription ahead false }
  | .between (subscription :: ahead) true =>
    match get? s.db.subscriptions subscription.id with
    | none => { s with cycle := .finished }
    | some row => { s with cycle := .reading row ahead true }
  | .reading subscription ahead expired =>
    match s.db.tenant? subscription.tenantId with
    | none => { s with cycle := .between ahead expired }
    | some tenant =>
      if resolveTrialSubscriptionStatus subscription.status .trialExpired subscription.trialEndsAt now ≠ .pastDue then
        { s with cycle := .between ahead expired }
      else
        { s with cycle := .answering subscription tenant ahead }
  | .answering subscription tenant ahead =>
    { s with db := commitTrial subscription tenant now s.db, cycle := .between ahead true }
  | .finished => s

/-- A step of the webhook for the tenant `t`; it is not processed when the tenant or its subscription is missing, or when
the subscription refuses to become active. -/
def paymentStep (s : TrialRace) : TrialRace :=
  match s.payment with
  | .starting =>
    match s.db.tenant? t with
    | none => { s with payment := .finished false }
    | some tenant => { s with payment := .tenantRead tenant }
  | .tenantRead tenant =>
    match s.db.subscriptionOf t with
    | none => { s with payment := .finished false }
    | some subscription =>
      match setSubscriptionStatus subscription .active with
      | .error _ => { s with payment := .finished false }
      | .ok _ => { s with payment := .answering tenant subscription }
  | .answering tenant subscription =>
    { s with db := commitPayment tenant subscription paidAt s.db, payment := .finished true }
  | .finished _ => s

def step (s : TrialRace) : TrialMove → TrialRace
  | .cycle true => s.cycleStep now
  | .cycle false => { s with cycle := .finished }
  | .payment true => s.paymentStep paidAt t
  | .payment false =>
    match s.payment with
    | .finished _ => s
    | _ => { s with payment := .finished false }

/-- The statuses in which a tenant waits for a payment. -/
def waitingStatuses : List TenantStatus := [.suspendedBilling, .pendingPayment]

/-- The tenant's subscription is active, and the tenant does not wait for a payment. -/
def PaymentKept (s : TrialRace) : Prop :=
  (s.db.subscriptionOf t).map Subscription.status = some .active ∧ ∀ st ∈ s.db.tenantStatus t, st ∉ waitingStatuses

instance (s : TrialRace) : Decidable (PaymentKept t s) := inferInstanceAs (Decidable (_ ∧ _))

/-- The moves that lose a payment: the cycle commits what it decided for the tenant when the payment is committed already,
or the payment commits without a word on the tenant's status, because it has read one that a payment leaves as it is, when
the cycle has committed one in which the tenant waits. -/
def loses (s : TrialRace) : TrialMove → Bool
  | .cycle true =>
    match s.cycle with
    | .answering subscription _ _ => subscription.tenantId = t && s.payment = .finished true
    | _ => false
  | .payment true =>
    match s.payment with
    | .answering tenant _ =>
      paidStatus tenant.status = tenant.status && (s.db.tenantStatus t).any (· ∈ waitingStatuses)
    | _ => false
  | _ => false

end

end TrialRace

/-! ### Writing columns -/

/-- Rows of which only other columns are changed. -/
theorem subscriptionsUnique_map {db db' : Db} {g : Subscription → Subscription} (hU : db.SubscriptionsUnique)
    (hid : ∀ s, (g s).id = s.id) (htenant : ∀ s, (g s).tenantId = s.tenantId)
    (hrows : db'.subscriptions = db.subscriptions.map g) : db'.SubscriptionsUnique := by
  have hids : db'.subscriptions.map Subscription.id = db.subscriptions.map Subscription.id := by
    rw [hrows, List.map_map]
    exact List.map_congr_left fun s _ => hid s
  have htenants : db'.subscriptions.map Subscription.tenantId = db.subscriptions.map Subscription.tenantId := by
    rw [hrows, List.map_map]
    exact List.map_congr_left fun s _ => htenant s
  exact ⟨hids ▸ hU.ids, htenants ▸ hU.tenants⟩

theorem hasSubscription_map {db db' : Db} {g : Subscription → Subscription} {id tenantId : Nat}
    (h : db.HasSubscription id tenantId) (hid : ∀ s, (g s).id = s.id) (htenant : ∀ s, (g s).tenantId = s.tenantId)
    (hrows : db'.subscriptions = db.subscriptions.map g) : db'.HasSubscription id tenantId := by
  obtain ⟨s, hs, rfl, rfl⟩ := h
  exact ⟨g s, hrows ▸ List.mem_map_of_mem hs, hid s, htenant s⟩

theorem subscriptionOf_map {db db' : Db} {g : Subscription → Subscription} (htenant : ∀ s, (g s).tenantId = s.tenantId)
    (hrows : db'.subscriptions = db.subscriptions.map g) (u : Nat) : db'.subscriptionOf u = (db.subscriptionOf u).map g := by
  unfold Db.subscriptionOf
  rw [hrows, List.find?_map]
  congr 2
  funext s
  show decide ((g s).tenantId = u) = decide (s.tenantId = u)
  rw [htenant]

/-- A change of the row with an id. -/
def atId (id : Nat) (f : Subscription → Subscription) (row : Subscription) : Subscription :=
  if row.id = id then f row else row

theorem atId_id {f : Subscription → Subscription} (hf : ∀ s, (f s).id = s.id) (id : Nat) (row : Subscription) :
    (atId id f row).id = row.id := by
  unfold atId
  split
  · exact hf row
  · rfl

theorem atId_tenantId {f : Subscription → Subscription} (hf : ∀ s, (f s).tenantId = s.tenantId) (id : Nat)
    (row : Subscription) : (atId id f row).tenantId = row.tenantId := by
  unfold atId
  split
  · exact hf row
  · rfl

theorem commitTrial_subscriptions {db : Db} (hU : db.SubscriptionsUnique) (read : Subscription) (tenant : Tenant)
    (now : Time) :
    (commitTrial read tenant now db).subscriptions = db.subscriptions.map (atId read.id (pastDueRow read)) :=
  modify_eq_map hU.ids read.id fun _ => rfl

theorem commitPayment_subscriptions {db : Db} (hU : db.SubscriptionsUnique) (read : Subscription) (tenant : Tenant)
    (now : Time) :
    (commitPayment tenant read now db).subscriptions = db.subscriptions.map (atId read.id (paidRow read)) :=
  modify_eq_map hU.ids read.id fun _ => rfl

/-- The status of a tenant of which a row is changed, as a function of the status alone. -/
theorem tenantStatus_modified {db db' : Db} {id : Nat} {f : Tenant → Tenant} {g : TenantStatus → TenantStatus}
    (hrows : db'.tenants = modify db.tenants id f) (hf : ∀ r, (f r).id = r.id) (hg : ∀ r, (f r).status = g r.status)
    (u : Nat) : db'.tenantStatus u = if u = id then (db.tenantStatus u).map g else db.tenantStatus u := by
  have hmodified : db'.tenantStatus u = (db.modifyTenant id f).tenantStatus u := Db.tenantStatus_congr hrows u
  rw [hmodified, Db.tenantStatus_modifyTenant db id hf]
  split
  · unfold Db.tenantStatus
    rw [Option.map_map]
    exact congrArg (Option.map · (db.tenant? u)) (funext hg)
  · rfl

theorem commitTrial_tenantStatus (read : Subscription) (tenant : Tenant) (now : Time) (db : Db) (u : Nat) :
    (commitTrial read tenant now db).tenantStatus u = if u = tenant.id then
      (db.tenantStatus u).map fun st => writeColumn st tenant.status (trialExpiredStatus tenant.status)
    else db.tenantStatus u :=
  tenantStatus_modified (f := expiredTenant tenant now) rfl (fun _ => rfl) (fun _ => rfl) u

theorem commitPayment_tenantStatus (read : Subscription) (tenant : Tenant) (now : Time) (db : Db) (u : Nat) :
    (commitPayment tenant read now db).tenantStatus u = if u = tenant.id then
      (db.tenantStatus u).map fun st => writeColumn st tenant.status (paidStatus tenant.status)
    else db.tenantStatus u :=
  tenantStatus_modified (f := paidTenant tenant now) rfl (fun _ => rfl) (fun _ => rfl) u

/-! ### The invariant -/

namespace TrialRace

variable {now paidAt : Time} {t : Nat} {s : TrialRace}

/-- What the parties know of the rows.  As long as the tenant is among the candidates to come, its subscription is not past
due, neither in the session's memory nor in the table; and it is not active until the payment is. -/
structure Sound (t : Nat) (s : TrialRace) : Prop where
  unique : s.db.SubscriptionsUnique
  there : (s.db.subscriptionOf t).isSome = true
  known : ∀ r ∈ s.cycle.memory, s.db.HasSubscription r.id r.tenantId
  distinct : (s.cycle.memory.map Subscription.id).Nodup
  live : ∀ r ∈ s.cycle.memory, r.tenantId = t →
    r.status ≠ .pastDue ∧ ∀ row ∈ s.db.subscriptionOf t, row.status ≠ .pastDue
  judged : ∀ r tenant ahead, s.cycle = .answering r tenant ahead → tenant.id = r.tenantId
  unpaid : s.payment ≠ .finished true → ∀ row ∈ s.db.subscriptionOf t, row.status ≠ .active
  read : ∀ tenant, s.payment = .tenantRead tenant → tenant.id = t
  resolved : ∀ tenant r, s.payment = .answering tenant r →
    tenant.id = t ∧ r.status ≠ .active ∧ (s.db.subscriptionOf t).map Subscription.id = some r.id

/-- A tenant's subscription has the id of a known row just when that is the tenant's. -/
theorem row_id_iff {db : Db} (hU : db.SubscriptionsUnique) {r row : Subscription}
    (hknown : db.HasSubscription r.id r.tenantId) (hrow : db.subscriptionOf t = some row) :
    row.id = r.id ↔ r.tenantId = t := by
  obtain ⟨found, hfound, hid, htenant⟩ := hknown
  have hmem := mem_of_subscriptionOf hrow
  constructor
  · intro heq
    have hsame : found = row := List.inj_on_of_nodup_map hU.ids hfound hmem (hid.trans heq.symm)
    rw [← htenant, hsame]
    exact tenantId_of_subscriptionOf hrow
  · intro heq
    have hown := hU.subscriptionOf hfound
    rw [htenant, heq, hrow] at hown
    cases hown
    exact hid

/-- The cycle goes on without a commit. -/
theorem Sound.withCycle (h : Sound t s) {c : CyclePlace} (hknown : ∀ r ∈ c.memory, s.db.HasSubscription r.id r.tenantId)
    (hdistinct : (c.memory.map Subscription.id).Nodup)
    (hlive : ∀ r ∈ c.memory, r.tenantId = t →
      r.status ≠ .pastDue ∧ ∀ row ∈ s.db.subscriptionOf t, row.status ≠ .pastDue)
    (hjudged : ∀ r tenant ahead, c = .answering r tenant ahead → tenant.id = r.tenantId) :
    Sound t { s with cycle := c } :=
  ⟨h.unique, h.there, hknown, hdistinct, hlive, hjudged, h.unpaid, h.read, h.resolved⟩

/-- The cycle goes on with some of the rows it had in memory. -/
theorem Sound.forget (h : Sound t s) {c : CyclePlace} (hsub : List.Sublist c.memory s.cycle.memory)
    (hjudged : ∀ r tenant ahead, c = .answering r tenant ahead → tenant.id = r.tenantId) :
    Sound t { s with cycle := c } :=
  h.withCycle (fun r hr => h.known r (hsub.subset hr)) ((hsub.map _).nodup h.distinct)
    (fun r hr => h.live r (hsub.subset hr)) hjudged

theorem mem_expiredTrialRows {db : Db} (hU : db.SubscriptionsUnique) {r : Subscription}
    (h : r ∈ expiredTrialRows db now) : r ∈ db.subscriptions ∧ r.status = .trialing := by
  obtain ⟨id, hid, hrow⟩ := List.mem_filterMap.1 h
  obtain ⟨found, hfound, rfl⟩ := List.mem_map.1 hid
  obtain ⟨hmem, hover⟩ := List.mem_filter.1 ((List.mem_insertionSort _).1 hfound)
  have hsame : get? db.subscriptions found.id = some found := get?_of_mem hU.ids hmem
  rw [hsame] at hrow
  cases hrow
  exact ⟨hmem, (of_decide_eq_true hover).1⟩

theorem nodup_expiredTrialRows {db : Db} (hU : db.SubscriptionsUnique) :
    ((expiredTrialRows db now).map Subscription.id).Nodup := by
  have hids : (expiredTrials db now).Nodup := by
    refine ((List.perm_insertionSort _ _).map _).nodup_iff.2 ?_
    exact (List.filter_sublist.map _).nodup hU.ids
  unfold expiredTrialRows
  rw [List.map_filterMap]
  refine hids.filterMap fun id id' k hk hk' => ?_
  have hkey : ∀ i, k ∈ (get? db.subscriptions i).map Subscription.id → i = k := by
    intro i hi
    obtain ⟨row, hrow, rfl⟩ := Option.map_eq_some_iff.1 hi
    exact (key_of_get? hrow).symm
  exact (hkey id hk).trans (hkey id' hk').symm

/-- The cycle's commit for a candidate. -/
theorem Sound.commitTrial (h : Sound t s) {r : Subscription} {tenant : Tenant} {ahead : List Subscription}
    (hcycle : s.cycle = .answering r tenant ahead) :
    Sound t { s with db := commitTrial r tenant now s.db, cycle := .between ahead true } := by
  obtain ⟨db, cycle, payment⟩ := s
  subst hcycle
  have hid := atId_id (f := pastDueRow r) (fun _ => rfl) r.id
  have htenant := atId_tenantId (f := pastDueRow r) (fun _ => rfl) r.id
  have hrows := commitTrial_subscriptions h.unique r tenant now
  have hsub : ∀ u, (ControlPlane.commitTrial r tenant now db).subscriptionOf u = _ := subscriptionOf_map htenant hrows
  obtain ⟨row, hrow⟩ := Option.isSome_iff_exists.1 h.there
  have hmine := row_id_iff h.unique (h.known r (List.mem_cons_self ..)) hrow
  have hnodup := List.nodup_cons.1 h.distinct
  refine ⟨subscriptionsUnique_map h.unique hid htenant hrows, ?_, fun r' hr' => ?_, hnodup.2, fun r' hr' ht => ?_,
    fun _ _ _ hno => (by cases hno), fun hunpaid row' hrow' => ?_, h.read, fun tenant' r' hpayment => ?_⟩
  · rw [hsub, hrow]
    rfl
  · exact hasSubscription_map (h.known r' (List.mem_cons_of_mem _ hr')) hid htenant hrows
  · -- the tenant has one subscription, which is not among the candidates twice
    have hother : r.tenantId ≠ t := by
      intro heq
      have hsame := (row_id_iff h.unique (h.known r' (List.mem_cons_of_mem _ hr')) hrow).2 ht
      exact hnodup.1 (List.mem_map.2 ⟨r', hr', hsame.symm.trans (hmine.2 heq)⟩)
    obtain ⟨hread, hlive⟩ := h.live r' (List.mem_cons_of_mem _ hr') ht
    refine ⟨hread, fun row' hrow' => ?_⟩
    rw [hsub, hrow] at hrow'
    cases hrow'
    unfold atId
    rw [if_neg fun heq => hother (hmine.1 heq)]
    exact hlive row hrow
  · rw [hsub, hrow] at hrow'
    cases hrow'
    unfold atId
    split
    · rename_i heq
      have hread := (h.live r (List.mem_cons_self ..) (hmine.1 heq)).1
      -- a candidate was read before it was past due, so its status is written
      show writeColumn row.status r.status .pastDue ≠ .active
      unfold writeColumn
      rw [if_neg (Ne.symm hread)]
      decide
    · exact h.unpaid hunpaid row hrow
  · obtain ⟨hself, hactive, hmap⟩ := h.resolved tenant' r' hpayment
    refine ⟨hself, hactive, ?_⟩
    rw [hsub, Option.map_map]
    rw [← hmap]
    exact congrArg (Option.map · (db.subscriptionOf t)) (funext hid)

theorem Sound.cycleStep (h : Sound t s) : Sound t (s.cycleStep now) := by
  unfold TrialRace.cycleStep
  -- by the place of the cycle: only `answering` writes, the others read into memory
  obtain ⟨db, cycle, payment⟩ := s
  cases cycle with
  | starting =>
    refine h.withCycle (fun r hr => ⟨r, (mem_expiredTrialRows h.unique hr).1, rfl, rfl⟩) (nodup_expiredTrialRows h.unique)
      (fun r hr ht => ?_) fun _ _ _ hno => by cases hno
    obtain ⟨hmem, htrialing⟩ := mem_expiredTrialRows h.unique hr
    have hdue : r.status ≠ .pastDue := by
      rw [htrialing]
      decide
    refine ⟨hdue, fun row hrow => ?_⟩
    have hown := h.unique.subscriptionOf hmem
    rw [ht] at hown
    have hsame : some row = some r := hrow.symm.trans hown
    cases hsame
    exact hdue
  | between ahead expired =>
    cases ahead with
    | nil => exact h.forget (List.nil_sublist _) fun _ _ _ hno => by cases hno
    | cons subscription ahead =>
      cases expired with
      | false => exact h.forget (List.Sublist.refl _) fun _ _ _ hno => by cases hno
      | true =>
        dsimp only
        split
        · exact h.forget (List.nil_sublist _) fun _ _ _ hno => by cases hno
        · -- the row in memory gives way to the one in the table, of the same id and tenant
          rename_i row hrow
          have hmem := mem_of_get? hrow
          have hid : row.id = subscription.id := key_of_get? hrow
          obtain ⟨found, hfound, hfoundId, hfoundTenant⟩ := h.known subscription (List.mem_cons_self ..)
          have hsame : found = row := List.inj_on_of_nodup_map h.unique.ids hfound hmem (hfoundId.trans hid.symm)
          have htenant : row.tenantId = subscription.tenantId := by rw [← hsame, hfoundTenant]
          refine h.withCycle (fun r hr => ?_) ?_ (fun r hr ht => ?_) fun _ _ _ hno => by cases hno
          · rcases List.mem_cons.1 hr with rfl | hr
            · exact ⟨r, hmem, rfl, rfl⟩
            · exact h.known r (List.mem_cons_of_mem _ hr)
          · have hdistinct := h.distinct
            unfold CyclePlace.memory at hdistinct ⊢
            rw [List.map_cons] at hdistinct ⊢
            rw [hid]
            exact hdistinct
          · rcases List.mem_cons.1 hr with rfl | hr
            · obtain ⟨-, hlive⟩ := h.live subscription (List.mem_cons_self ..) (htenant.symm.trans ht)
              refine ⟨hlive r ?_, hlive⟩
              have hown := h.unique.subscriptionOf hmem
              rw [ht] at hown
              exact hown
            · exact h.live r (List.mem_cons_of_mem _ hr) ht
  | reading subscription ahead expired =>
    dsimp only
    split
    · exact h.forget (List.sublist_cons_self _ _) fun _ _ _ hno => by cases hno
    · rename_i tenant htenant
      split
      · exact h.forget (List.sublist_cons_self _ _) fun _ _ _ hno => by cases hno
      · refine h.forget (List.Sublist.refl _) fun r tenant' ahead' heq => ?_
        cases heq
        exact Db.tenant?_id htenant
  | answering subscription tenant ahead => exact h.commitTrial rfl
  | finished => exact h

/-- The webhook goes on without a commit. -/
theorem Sound.withPayment (h : Sound t s) (hunpaid : s.payment ≠ .finished true) {p : PaymentPlace}
    (hread : ∀ tenant, p = .tenantRead tenant → tenant.id = t)
    (hresolved : ∀ tenant r, p = .answering tenant r →
      tenant.id = t ∧ r.status ≠ .active ∧ (s.db.subscriptionOf t).map Subscription.id = some r.id) :
    Sound t { s with payment := p } :=
  ⟨h.unique, h.there, h.known, h.distinct, h.live, h.judged, fun _ => h.unpaid hunpaid, hread, hresolved⟩

/-- The webhook's commit. -/
theorem Sound.commitPayment (h : Sound t s) {tenant : Tenant} {r : Subscription}
    (hpayment : s.payment = .answering tenant r) :
    Sound t { s with db := commitPayment tenant r paidAt s.db, payment := .finished true } := by
  obtain ⟨db, cycle, payment⟩ := s
  subst hpayment
  have hid := atId_id (f := paidRow r) (fun _ => rfl) r.id
  have htenant := atId_tenantId (f := paidRow r) (fun _ => rfl) r.id
  have hrows := commitPayment_subscriptions h.unique r tenant paidAt
  have hsub : ∀ u, (ControlPlane.commitPayment tenant r paidAt db).subscriptionOf u = _ :=
    subscriptionOf_map htenant hrows
  obtain ⟨row, hrow⟩ := Option.isSome_iff_exists.1 h.there
  refine ⟨subscriptionsUnique_map h.unique hid htenant hrows, ?_,
    fun r' hr' => hasSubscription_map (h.known r' hr') hid htenant hrows, h.distinct, fun r' hr' ht => ?_, h.judged,
    fun hno => absurd rfl hno, fun _ hno => (by cases hno), fun _ _ hno => (by cases hno)⟩
  · rw [hsub, hrow]
    rfl
  · obtain ⟨hread, hlive⟩ := h.live r' hr' ht
    refine ⟨hread, fun row' hrow' => ?_⟩
    rw [hsub, hrow] at hrow'
    cases hrow'
    unfold atId
    split
    · obtain ⟨-, hactive, -⟩ := h.resolved tenant r rfl
      show writeColumn row.status r.status .active ≠ .pastDue
      unfold writeColumn
      rw [if_neg (Ne.symm hactive)]
      decide
    · exact hlive row hrow

theorem Sound.paymentStep (h : Sound t s) : Sound t (s.paymentStep paidAt t) := by
  unfold TrialRace.paymentStep
  obtain ⟨db, cycle, payment⟩ := s
  cases payment with
  | starting =>
    have hunread : PaymentPlace.starting ≠ .finished true := fun hno => by cases hno
    dsimp only
    split
    · exact h.withPayment hunread (fun _ hno => by cases hno) fun _ _ hno => by cases hno
    · rename_i tenant htenant
      refine h.withPayment hunread (fun tenant' heq => ?_) fun _ _ hno => by cases hno
      cases heq
      exact Db.tenant?_id htenant
  | tenantRead tenant =>
    have hunread : PaymentPlace.tenantRead tenant ≠ .finished true := fun hno => by cases hno
    dsimp only
    split
    · exact h.withPayment hunread (fun _ hno => by cases hno) fun _ _ hno => by cases hno
    · rename_i subscription hsubscription
      split
      · exact h.withPayment hunread (fun _ hno => by cases hno) fun _ _ hno => by cases hno
      · refine h.withPayment hunread (fun _ hno => by cases hno) fun tenant' r heq => ?_
        cases heq
        refine ⟨h.read tenant rfl, h.unpaid hunread subscription hsubscription, ?_⟩
        rw [show (db.subscriptionOf t) = some subscription from hsubscription]
        rfl
  | answering tenant subscription => exact h.commitPayment rfl
  | finished paid => exact h

theorem Sound.step (h : Sound t s) (m : TrialMove) : Sound t (step now paidAt t s m) := by
  cases m with
  | cycle goesWell =>
    cases goesWell with
    | true => exact h.cycleStep
    | false => exact h.forget (List.nil_sublist _) fun _ _ _ hno => by cases hno
  | payment goesWell =>
    cases goesWell with
    | true => exact h.paymentStep
    | false =>
      unfold TrialRace.step
      dsimp only
      split
      · exact h
      · rename_i hunfinished
        exact h.withPayment (hunfinished true) (fun _ hno => by cases hno) fun _ _ hno => by cases hno

/-! ### What is lost, and when -/

/-- The payment, once committed, is kept. -/
def KeptIfPaid (t : Nat) (s : TrialRace) : Prop := s.payment = .finished true → PaymentKept t s

theorem paymentKept_congr {s' : TrialRace} (hsubscription : s'.db.subscriptionOf t = s.db.subscriptionOf t)
    (hstatus : s'.db.tenantStatus t = s.db.tenantStatus t) : PaymentKept t s' ↔ PaymentKept t s := by
  unfold PaymentKept
  rw [hsubscription, hstatus]

/-- The commit of a candidate leaves the other tenants as they are, and its own without an active subscription. -/
theorem kept_commitTrial (h : Sound t s) {r : Subscription} {tenant : Tenant} {ahead : List Subscription}
    (hcycle : s.cycle = .answering r tenant ahead) :
    let s' : TrialRace := { s with db := commitTrial r tenant now s.db, cycle := .between ahead true }
    if r.tenantId = t then ¬PaymentKept t s' else (PaymentKept t s' ↔ PaymentKept t s) := by
  intro s'
  have htenant := atId_tenantId (f := pastDueRow r) (fun _ => rfl) r.id
  have hsub : s'.db.subscriptionOf t = (s.db.subscriptionOf t).map (atId r.id (pastDueRow r)) :=
    subscriptionOf_map htenant (commitTrial_subscriptions h.unique r tenant now) t
  have hmem : r ∈ s.cycle.memory := by
    rw [hcycle]
    exact List.mem_cons_self ..
  obtain ⟨row, hrow⟩ := Option.isSome_iff_exists.1 h.there
  have hmine := row_id_iff h.unique (h.known r hmem) hrow
  rw [hrow, Option.map_some] at hsub
  by_cases ht : r.tenantId = t
  · rw [if_pos ht]
    rintro ⟨hactive, -⟩
    have hread := (h.live r hmem ht).1
    unfold atId at hsub
    rw [if_pos (hmine.2 ht)] at hsub
    rw [hsub, Option.map_some] at hactive
    have hstatus : writeColumn row.status r.status .pastDue = .active := Option.some.inj hactive
    unfold writeColumn at hstatus
    rw [if_neg (Ne.symm hread)] at hstatus
    cases hstatus
  · rw [if_neg ht]
    refine paymentKept_congr ?_ ?_
    · unfold atId at hsub
      rw [if_neg fun heq => ht (hmine.1 heq)] at hsub
      rw [hsub, hrow]
    · show (commitTrial r tenant now s.db).tenantStatus t = _
      rw [commitTrial_tenantStatus, if_neg fun heq => ht ((h.judged r tenant ahead hcycle).symm.trans heq.symm)]

/-- The payment's commit is a loss just when it leaves a status in which the tenant waits. -/
theorem kept_commitPayment (h : Sound t s) {tenant : Tenant} {r : Subscription}
    (hpayment : s.payment = .answering tenant r) :
    PaymentKept t { s with db := commitPayment tenant r paidAt s.db, payment := .finished true } ↔
      (paidStatus tenant.status = tenant.status && (s.db.tenantStatus t).any (· ∈ waitingStatuses)) = false := by
  obtain ⟨hself, hactive, hid⟩ := h.resolved tenant r hpayment
  obtain ⟨row, hrow, hrowId⟩ := Option.map_eq_some_iff.1 hid
  have htenant := atId_tenantId (f := paidRow r) (fun _ => rfl) r.id
  have hsub : (commitPayment tenant r paidAt s.db).subscriptionOf t = (s.db.subscriptionOf t).map (atId r.id (paidRow r)) :=
    subscriptionOf_map htenant (commitPayment_subscriptions h.unique r tenant paidAt) t
  have hstatus : ((commitPayment tenant r paidAt s.db).subscriptionOf t).map Subscription.status = some .active := by
    rw [hsub, hrow, Option.map_some, Option.map_some]
    unfold atId
    rw [if_pos hrowId]
    show some (writeColumn row.status r.status .active) = _
    unfold writeColumn
    rw [if_neg (Ne.symm hactive)]
  have hmoved := commitPayment_tenantStatus r tenant paidAt s.db t
  rw [if_pos hself.symm] at hmoved
  -- a status that the payment writes is none in which the tenant waits, so only one it does not write can be
  have hpaid : paidStatus tenant.status ∉ waitingStatuses := by
    generalize tenant.status = st
    revert st
    decide
  constructor
  · rintro ⟨-, hfree⟩
    rw [Bool.and_eq_false_iff]
    by_cases hsame : paidStatus tenant.status = tenant.status
    · right
      rw [Option.any_eq_false]
      intro st hst
      refine decide_eq_false (hfree st ?_)
      show (commitPayment tenant r paidAt s.db).tenantStatus t = some st
      rw [hmoved, show s.db.tenantStatus t = some st from hst, Option.map_some]
      unfold writeColumn
      rw [if_pos hsame]
    · exact Or.inl (decide_eq_false hsame)
  · intro hnot
    refine ⟨hstatus, fun st hst => ?_⟩
    replace hst : (commitPayment tenant r paidAt s.db).tenantStatus t = some st := hst
    rw [hmoved] at hst
    obtain ⟨committed, hcommitted, rfl⟩ := Option.map_eq_some_iff.1 hst
    unfold writeColumn
    split
    · rename_i hsame
      rw [decide_eq_true hsame, Bool.true_and, hcommitted] at hnot
      exact of_decide_eq_false hnot
    · exact hpaid

/-- The other steps of the cycle only read. -/
theorem cycleStep_reads (h : ∀ r tenant ahead, s.cycle ≠ .answering r tenant ahead) :
    (s.cycleStep now).db = s.db ∧ (s.cycleStep now).payment = s.payment := by
  obtain ⟨db, cycle, payment⟩ := s
  unfold cycleStep
  cases cycle with
  | starting => exact ⟨rfl, rfl⟩
  | between ahead expired =>
    cases ahead with
    | nil => exact ⟨rfl, rfl⟩
    | cons r ahead =>
      cases expired with
      | false => exact ⟨rfl, rfl⟩
      | true =>
        dsimp only
        split <;> exact ⟨rfl, rfl⟩
  | reading r ahead expired =>
    dsimp only
    split
    · exact ⟨rfl, rfl⟩
    · split <;> exact ⟨rfl, rfl⟩
  | answering r tenant ahead => exact absurd rfl (h r tenant ahead)
  | finished => exact ⟨rfl, rfl⟩

/-- The other steps of the webhook only read, and do not end with a payment. -/
theorem paymentStep_reads (h : ∀ tenant r, s.payment ≠ .answering tenant r) :
    (s.paymentStep paidAt t).db = s.db ∧
      ((s.paymentStep paidAt t).payment = .finished true → s.payment = .finished true) := by
  obtain ⟨db, cycle, payment⟩ := s
  unfold paymentStep
  cases payment with
  | starting =>
    dsimp only
    split <;> exact ⟨rfl, fun hno => by cases hno⟩
  | tenantRead tenant =>
    dsimp only
    split
    · exact ⟨rfl, fun hno => by cases hno⟩
    · split <;> exact ⟨rfl, fun hno => by cases hno⟩
  | answering tenant r => exact absurd rfl (h tenant r)
  | finished paid => exact ⟨rfl, id⟩

theorem keptIfPaid_of_reads {s' : TrialRace} (hkept : KeptIfPaid t s) (hdb : s'.db = s.db)
    (hpaid : s'.payment = .finished true → s.payment = .finished true) : KeptIfPaid t s' := by
  intro h
  have hs := hkept (hpaid h)
  unfold PaymentKept at hs ⊢
  rw [hdb]
  exact hs

/-- The cycle loses a payment where it commits its decision for the tenant that has paid. -/
theorem cycleStep_keptIfPaid (h : Sound t s) (hkept : KeptIfPaid t s) :
    loses t s (.cycle true) = false ↔ KeptIfPaid t (s.cycleStep now) := by
  by_cases hcycle : ∃ r tenant ahead, s.cycle = .answering r tenant ahead
  · obtain ⟨r, tenant, ahead, hcycle⟩ := hcycle
    have hcommit := @kept_commitTrial now t s h r tenant ahead hcycle
    have hstep : s.cycleStep now = { s with db := commitTrial r tenant now s.db, cycle := .between ahead true } := by
      unfold cycleStep
      rw [hcycle]
    have hloses : loses t s (.cycle true) = (r.tenantId = t && s.payment = .finished true) := by
      unfold loses
      rw [hcycle]
    rw [hstep, hloses]
    unfold KeptIfPaid
    dsimp only at hcommit ⊢
    by_cases hpaid : s.payment = .finished true
    · rw [decide_eq_true hpaid, Bool.and_true, decide_eq_false_iff_not]
      by_cases ht : r.tenantId = t
      · rw [if_pos ht] at hcommit
        exact iff_of_false (fun hno => hno ht) fun hall => hcommit (hall hpaid)
      · rw [if_neg ht] at hcommit
        exact iff_of_true ht fun _ => hcommit.2 (hkept hpaid)
    · rw [decide_eq_false hpaid, Bool.and_false]
      exact iff_of_true rfl fun hno => absurd hno hpaid
  · have hquiet : ∀ r tenant ahead, s.cycle ≠ .answering r tenant ahead :=
      fun r tenant ahead heq => hcycle ⟨r, tenant, ahead, heq⟩
    obtain ⟨hdb, hpayment⟩ := @cycleStep_reads now s hquiet
    refine iff_of_true ?_ (keptIfPaid_of_reads hkept hdb fun hpaid => hpayment ▸ hpaid)
    unfold loses
    dsimp only
    split
    · rename_i heq
      exact absurd heq (hquiet _ _ _)
    · rfl

/-- The webhook loses its payment where it says nothing of the status of a tenant that waits. -/
theorem paymentStep_keptIfPaid (h : Sound t s) (hkept : KeptIfPaid t s) :
    loses t s (.payment true) = false ↔ KeptIfPaid t (s.paymentStep paidAt t) := by
  by_cases hpayment : ∃ tenant r, s.payment = .answering tenant r
  · obtain ⟨tenant, r, hpayment⟩ := hpayment
    have hcommit := @kept_commitPayment paidAt t s h tenant r hpayment
    have hstep : s.paymentStep paidAt t =
        { s with db := commitPayment tenant r paidAt s.db, payment := .finished true } := by
      unfold paymentStep
      rw [hpayment]
    have hloses : loses t s (.payment true) =
        (paidStatus tenant.status = tenant.status && (s.db.tenantStatus t).any (· ∈ waitingStatuses)) := by
      unfold loses
      rw [hpayment]
    rw [hstep, hloses, ← hcommit]
    exact ⟨fun hall _ => hall, fun hall => hall rfl⟩
  · have hquiet : ∀ tenant r, s.payment ≠ .answering tenant r := fun tenant r heq => hpayment ⟨tenant, r, heq⟩
    obtain ⟨hdb, hpaid⟩ := @paymentStep_reads paidAt t s hquiet
    refine iff_of_true ?_ (keptIfPaid_of_reads hkept hdb hpaid)
    unfold loses
    dsimp only
    split
    · rename_i heq
      exact absurd heq (hquiet _ _)
    · rfl

theorem step_keptIfPaid (h : Sound t s) (hkept : KeptIfPaid t s) (m : TrialMove) :
    loses t s m = false ↔ KeptIfPaid t (step now paidAt t s m) := by
  cases m with
  | cycle goesWell =>
    cases goesWell with
    | false => exact iff_of_true rfl hkept
    | true => exact cycleStep_keptIfPaid h hkept
  | payment goesWell =>
    cases goesWell with
    | true => exact paymentStep_keptIfPaid h hkept
    | false =>
      refine iff_of_true rfl ?_
      unfold step
      dsimp only
      split
      · exact hkept
      · exact fun hno => by cases hno

/-- What is lost stays lost. -/
theorem step_lost (h : Sound t s) (hlost : ¬KeptIfPaid t s) (m : TrialMove) : ¬KeptIfPaid t (step now paidAt t s m) := by
  obtain ⟨hpaid, hno⟩ := Classical.not_imp.1 hlost
  have hsame : ∀ {s' : TrialRace}, s'.db = s.db → s'.payment = s.payment → ¬KeptIfPaid t s' := by
    intro s' hdb hpayment hall
    have hkept := hall (hpayment.trans hpaid)
    unfold PaymentKept at hkept
    rw [hdb] at hkept
    exact hno hkept
  cases m with
  | cycle goesWell =>
    cases goesWell with
    | false => exact hsame rfl rfl
    | true =>
      show ¬KeptIfPaid t (s.cycleStep now)
      by_cases hcycle : ∃ r tenant ahead, s.cycle = .answering r tenant ahead
      · obtain ⟨r, tenant, ahead, hcycle⟩ := hcycle
        have hcommit := @kept_commitTrial now t s h r tenant ahead hcycle
        have hstep : s.cycleStep now = { s with db := commitTrial r tenant now s.db, cycle := .between ahead true } := by
          unfold cycleStep
          rw [hcycle]
        rw [hstep]
        intro hall
        have hkept := hall hpaid
        dsimp only at hcommit
        split at hcommit
        · exact hcommit hkept
        · exact hno (hcommit.1 hkept)
      · have hquiet : ∀ r tenant ahead, s.cycle ≠ .answering r tenant ahead :=
          fun r tenant ahead heq => hcycle ⟨r, tenant, ahead, heq⟩
        obtain ⟨hdb, hpayment⟩ := @cycleStep_reads now s hquiet
        exact hsame hdb hpayment
  | payment goesWell =>
    have hstep : step now paidAt t s (.payment goesWell) = s := by
      obtain ⟨db, cycle, payment⟩ := s
      obtain rfl : payment = .finished true := hpaid
      cases goesWell <;> rfl
    rw [hstep]
    exact hlost

/-- The race begins before the cycle's query and before the webhook's first read. -/
def start (db : Db) : TrialRace := ⟨db, .starting, .starting⟩

theorem sound_start {db : Db} (hU : db.SubscriptionsUnique)
    (htrial : ∃ r, db.subscriptionOf t = some r ∧ r.trialOver now = true) : Sound t (start db) := by
  obtain ⟨r, hr, hover⟩ := htrial
  refine ⟨hU, Option.isSome_iff_exists.2 ⟨r, hr⟩, fun _ hno => (by cases hno), List.nodup_nil, fun _ hno => (by cases hno),
    fun _ _ _ hno => (by cases hno), fun _ row hrow => ?_, fun _ hno => (by cases hno), fun _ _ hno => (by cases hno)⟩
  have hrow' : db.subscriptionOf t = some row := hrow
  rw [hr] at hrow'
  cases hrow'
  rw [(of_decide_eq_true hover).1]
  decide

/-- Once the webhook has committed the payment, and so when both have finished, the payment is kept just when no move has
lost it. -/
theorem payment_kept_iff {db : Db} {ms : List TrialMove} (hU : db.SubscriptionsUnique)
    (htrial : ∃ r, db.subscriptionOf t = some r ∧ r.trialOver now = true)
    (hpayment : (run (step now paidAt t) (start db) ms).payment = .finished true) :
    Steps (step now paidAt t) (fun s m => loses t s m = false) (start db) ms ↔
      PaymentKept t (run (step now paidAt t) (start db) ms) := by
  have hlast : Steps (step now paidAt t) (fun s m => loses t s m = false) (start db) ms ↔
      KeptIfPaid t (run (step now paidAt t) (start db) ms) :=
    @steps_iff_last _ _ (step now paidAt t) (KeptIfPaid t) (Sound t) _ (fun _ m h => h.step m)
      (fun _ m h hkept => step_keptIfPaid h hkept m) (fun _ m h hlost => step_lost h hlost m) _ ms (sound_start hU htrial)
      fun hno => by cases hno
  refine hlast.trans ?_
  unfold KeptIfPaid
  exact ⟨fun hall => hall hpayment, fun hkept _ => hkept⟩

/-! ### Undisturbed parties -/

@[simp] theorem writeColumn_self {α : Type} [DecidableEq α] (read new : α) : writeColumn read read new = new := by
  unfold writeColumn
  split
  · rename_i h
    exact h.symm
  · rfl

/-- Two databases with the same subscriptions and the same tenants' statuses. -/
structure SameStatuses (base db : Db) : Prop where
  subscriptions : db.subscriptions = base.subscriptions
  tenants : ∀ u, db.tenantStatus u = base.tenantStatus u

theorem SameStatuses.steady (base : Db) : Steady (SameStatuses base) where
  core db db' hcore h := by
    refine ⟨(Db.subscriptions_of_core hcore).trans h.subscriptions, fun u => ?_⟩
    rw [Db.tenantStatus_congr (Db.tenants_of_core hcore)]
    exact h.tenants u
  flush now saved work h := by
    refine ⟨h.subscriptions, fun u => ?_⟩
    rw [Db.tenantStatus_flush]
    exact h.tenants u

theorem SameStatuses.tenant?_isSome {base db : Db} (h : SameStatuses base db) (u : Nat) :
    (db.tenant? u).isSome = (base.tenant? u).isSome := by
  have hstatus := congrArg Option.isSome (h.tenants u)
  unfold Db.tenantStatus at hstatus
  rw [Option.isSome_map, Option.isSome_map] at hstatus
  exact hstatus

/-- A candidate is passed over that has no tenant or is not due, and the trial of any other ends. -/
theorem expireTrial_found {db db' : Db} {r : Subscription} {expiredTenant : Option Nat}
    (hrow : get? db.subscriptions r.id = some r) (hr : expireTrial r.id now db = .ok (expiredTenant, db')) :
    ((db.tenant? r.tenantId = none ∨
        resolveTrialSubscriptionStatus r.status .trialExpired r.trialEndsAt now ≠ .pastDue) ∧ db' = db) ∨
      ∃ tenant, db.tenant? r.tenantId = some tenant ∧
        resolveTrialSubscriptionStatus r.status .trialExpired r.trialEndsAt now = .pastDue ∧
        db' = (db.putSubscription { r with status := .pastDue }).putTenant
          { tenant with status := trialExpiredStatus tenant.status, updatedAt := now } := by
  unfold expireTrial at hr
  rw [hrow] at hr
  dsimp only at hr
  cases htenant : db.tenant? r.tenantId with
  | none =>
    rw [htenant] at hr
    cases hr
    exact Or.inl ⟨Or.inl rfl, rfl⟩
  | some tenant =>
    rw [htenant] at hr
    dsimp only at hr
    by_cases hdue : resolveTrialSubscriptionStatus r.status .trialExpired r.trialEndsAt now = .pastDue
    · rw [if_neg (not_not.2 hdue), hdue] at hr
      obtain ⟨pastDue, hset, hr⟩ := bind_eq_ok.1 hr
      obtain ⟨-, rfl⟩ := setSubscriptionStatus_eq_ok.1 hset
      cases hr
      exact Or.inr ⟨tenant, rfl, hdue, rfl⟩
    · rw [if_pos hdue] at hr
      cases hr
      exact Or.inl ⟨Or.inr hdue, rfl⟩

section

variable {db : Db} {r : Subscription} {ahead : List Subscription} {expired : Bool} {p : PaymentPlace}

/-- The cycle comes to its next candidate, whose row is as it was. -/
theorem step_between (hrow : get? db.subscriptions r.id = some r) :
    step now paidAt t ⟨db, .between (r :: ahead) expired, p⟩ (.cycle true) = ⟨db, .reading r ahead expired, p⟩ := by
  cases expired with
  | false => rfl
  | true =>
    unfold step cycleStep
    dsimp only
    rw [hrow]

theorem step_passedOver (h : db.tenant? r.tenantId = none ∨
    resolveTrialSubscriptionStatus r.status .trialExpired r.trialEndsAt now ≠ .pastDue) :
    step now paidAt t ⟨db, .reading r ahead expired, p⟩ (.cycle true) = ⟨db, .between ahead expired, p⟩ := by
  unfold step cycleStep
  dsimp only
  cases htenant : db.tenant? r.tenantId with
  | none => rfl
  | some tenant =>
    rw [htenant] at h
    dsimp only
    exact if_pos (h.resolve_left (Option.some_ne_none tenant))

theorem step_answering {tenant : Tenant} (htenant : db.tenant? r.tenantId = some tenant)
    (hdue : resolveTrialSubscriptionStatus r.status .trialExpired r.trialEndsAt now = .pastDue) :
    step now paidAt t ⟨db, .reading r ahead expired, p⟩ (.cycle true) = ⟨db, .answering r tenant ahead, p⟩ := by
  unfold step cycleStep
  dsimp only
  rw [htenant]
  dsimp only
  rw [if_neg (not_not.2 hdue)]

/-- On the row it has read the cycle commits the status it has decided on. -/
theorem commitTrial_put (tenant : Tenant) (hrow : get? db.subscriptions r.id = some r) :
    (commitTrial r tenant now db).subscriptions = put db.subscriptions { r with status := .pastDue } := by
  show Table.modify db.subscriptions r.id (pastDueRow r) = _
  rw [modify_of_get? hrow]
  show put db.subscriptions { r with status := writeColumn r.status r.status .pastDue } = _
  rw [writeColumn_self]

/-- The commit leaves the statuses that the visit leaves. -/
theorem SameStatuses.commitTrial {rows : Db} {tenant found : Tenant} (hsame : SameStatuses db rows)
    (hrow : get? db.subscriptions r.id = some r) (htenant : db.tenant? r.tenantId = some tenant)
    (hfound : rows.tenant? r.tenantId = some found) :
    SameStatuses (ControlPlane.commitTrial r tenant now db) ((rows.putSubscription { r with status := .pastDue }).putTenant
      { found with status := trialExpiredStatus found.status, updatedAt := now }) := by
  have hid : found.id = tenant.id := (Db.tenant?_id hfound).trans (Db.tenant?_id htenant).symm
  have hstatus : found.status = tenant.status := by
    have hboth := hsame.tenants r.tenantId
    rw [Db.tenantStatus_of_tenant? hfound, Db.tenantStatus_of_tenant? htenant] at hboth
    exact Option.some.inj hboth
  refine ⟨?_, fun u => ?_⟩
  · rw [commitTrial_put tenant hrow, ← hsame.subscriptions]
    rfl
  · rw [commitTrial_tenantStatus, Db.tenantStatus_putTenant]
    show (if u = found.id then (rows.tenantStatus u).map _ else rows.tenantStatus u) = _
    rw [hid, hsame.tenants u]
    by_cases hu : u = tenant.id
    · have hown : db.tenantStatus u = some tenant.status := by
        rw [hu, Db.tenant?_id htenant]
        exact Db.tenantStatus_of_tenant? htenant
      rw [if_pos hu, if_pos hu, hown, Option.map_some, Option.map_some, writeColumn_self]
      show some (trialExpiredStatus found.status) = _
      rw [hstatus]
    · rw [if_neg hu, if_neg hu]

end

/-- A visit of a candidate, with nothing in between, commits what `expireTrial` changes. -/
theorem visit_undisturbed {db rows rows' : Db} {r : Subscription} {expiredTenant : Option Nat}
    (hsame : SameStatuses db rows) (hrow : get? db.subscriptions r.id = some r)
    (hr : expireTrial r.id now rows = .ok (expiredTenant, rows')) (ahead : List Subscription) (expired : Bool)
    (p : PaymentPlace) :
    ∃ n db' expired', run (step now paidAt t) ⟨db, .between (r :: ahead) expired, p⟩ (List.replicate n (.cycle true)) =
        ⟨db', .between ahead expired', p⟩ ∧ SameStatuses db' rows' ∧
      ∀ id, id ≠ r.id → get? db'.subscriptions id = get? db.subscriptions id := by
  have hrows : get? rows.subscriptions r.id = some r := by rw [hsame.subscriptions, hrow]
  have hpresent := hsame.tenant?_isSome r.tenantId
  rcases expireTrial_found hrows hr with ⟨hpassed, rfl⟩ | ⟨found, hfound, hdue, rfl⟩
  · refine ⟨2, db, expired, ?_, hsame, fun _ _ => rfl⟩
    have hpassed : db.tenant? r.tenantId = none ∨
        resolveTrialSubscriptionStatus r.status .trialExpired r.trialEndsAt now ≠ .pastDue := by
      refine hpassed.imp_left fun hnone => ?_
      rw [hnone] at hpresent
      exact Option.isNone_iff_eq_none.1 (Option.isSome_eq_false_iff.1 hpresent.symm)
    show step now paidAt t (step now paidAt t _ _) (.cycle true) = _
    rw [step_between hrow, step_passedOver hpassed]
  · rw [hfound] at hpresent
    obtain ⟨tenant, htenant⟩ := Option.isSome_iff_exists.1 hpresent.symm
    refine ⟨3, commitTrial r tenant now db, true, ?_, hsame.commitTrial hrow htenant hfound, fun id hid => ?_⟩
    · show step now paidAt t (step now paidAt t (step now paidAt t _ _) _) (.cycle true) = _
      rw [step_between hrow, step_answering htenant hdue]
      rfl
    · rw [commitTrial_put tenant hrow]
      exact get?_put_of_ne _ hid

theorem visits_undisturbed {env : Env} {ahead : List Subscription} {db : Db} {s s' : DbSession}
    (hsame : SameStatuses db s.work) (hcurrent : ∀ r ∈ ahead, get? db.subscriptions r.id = some r)
    (hdistinct : (ahead.map Subscription.id).Nodup)
    (h : Session.Proc.forEach (trialCandidate env now) (ahead.map Subscription.id) s = (.ok (), s')) (expired : Bool)
    (p : PaymentPlace) :
    ∃ n db' expired', run (step now paidAt t) ⟨db, .between ahead expired, p⟩ (List.replicate n (.cycle true)) =
        ⟨db', .between [] expired', p⟩ ∧ SameStatuses db' s'.work := by
  induction ahead generalizing db s expired with
  | nil =>
    cases h
    exact ⟨0, db, expired, rfl, hsame⟩
  | cons r ahead ih =>
    rw [List.map_cons] at h hdistinct
    obtain ⟨hfresh, hdistinct⟩ := List.nodup_cons.1 hdistinct
    unfold Session.Proc.forEach at h
    obtain ⟨_, s₁, hvisit, hrest⟩ := Session.Proc.of_bind_returned h
    unfold trialCandidate at hvisit
    rw [change_bind] at hvisit
    cases hr : expireTrial r.id now s.work with
    | error e =>
      rw [hr] at hvisit
      cases hvisit
    | ok changed =>
      obtain ⟨expiredTenant, rows'⟩ := changed
      rw [hr] at hvisit
      obtain ⟨n, db', expired', hrun, hrows, hothers⟩ :=
        @visit_undisturbed now paidAt t db s.work rows' r expiredTenant hsame (hcurrent r (List.mem_cons_self ..)) hr ahead
          expired p
      have hs₁ : SameStatuses db' s₁.work := by
        cases expiredTenant with
        | none =>
          cases hvisit
          exact hrows
        | some tenantId =>
          exact ((SameStatuses.steady db').recordAuditEvent env _ _ _).of_ok (s := { s with work := rows' }) hrows hvisit
      -- the candidates ahead are as they were read, as each has an id of its own
      have hlater : ∀ r' ∈ ahead, get? db'.subscriptions r'.id = some r' := by
        intro r' hr'
        have hne : r'.id ≠ r.id := fun heq => hfresh (heq ▸ List.mem_map_of_mem hr')
        rw [hothers r'.id hne]
        exact hcurrent r' (List.mem_cons_of_mem _ hr')
      obtain ⟨m, db'', expired'', hrun', hrows'⟩ := ih hs₁ hlater hdistinct hrest expired'
      refine ⟨n + m, db'', expired'', ?_, hrows'⟩
      rw [List.replicate_add, run_append, hrun, hrun']

/-- The cycle alone does what `run_trial_lifecycle_cycle` does. -/
theorem cycle_undisturbed {env : Env} {db : Db} {queue : List Task} {s' : DbSession} (hU : db.SubscriptionsUnique)
    (h : runTrialLifecycleCycle env false (Session.Proc.opened db queue) = (.ok (), s')) (p : PaymentPlace) :
    ∃ n db', run (step (env.clock 0) paidAt t) ⟨db, .starting, p⟩ (List.replicate n (.cycle true)) =
        ⟨db', .finished, p⟩ ∧ SameStatuses db' s'.saved := by
  obtain ⟨s₁, hsaved, hcommit, hvisits⟩ := runTrialLifecycleCycle_returned h
  have hids : (expiredTrialRows db (env.clock 0)).map Subscription.id = expiredTrials db (env.clock 0) := by
    unfold expiredTrialRows
    rw [List.map_filterMap]
    have hrows : ∀ id ∈ expiredTrials db (env.clock 0), (get? db.subscriptions id).map Subscription.id = some id := by
      intro id hid
      obtain ⟨r, hr, rfl⟩ := List.mem_map.1 hid
      have hmem := (List.mem_filter.1 ((List.mem_insertionSort _).1 hr)).1
      have hget : get? db.subscriptions r.id = some r := get?_of_mem hU.ids hmem
      rw [hget]
      rfl
    exact (List.filterMap_congr hrows).trans (List.filterMap_some)
  rw [← hids] at hvisits
  obtain ⟨n, db', expired', hrun, hrows⟩ := @visits_undisturbed (env.clock 0) paidAt t env _ db _ s₁
    ⟨rfl, fun _ => rfl⟩ (fun r hr => get?_of_mem hU.ids (mem_expiredTrialRows hU hr).1) (nodup_expiredTrialRows hU) hvisits
    false p
  refine ⟨1 + n + 1, db', ?_, ?_⟩
  · rw [List.replicate_add, List.replicate_add, run_append, run_append]
    show run (step (env.clock 0) paidAt t) (run (step (env.clock 0) paidAt t)
      ⟨db, .between (expiredTrialRows db (env.clock 0)) false, p⟩ (List.replicate n (.cycle true))) [.cycle true] = _
    rw [hrun]
    rfl
  · exact saved_of_commit (SameStatuses.steady db') hsaved hcommit hrows

/-- A subscription that is not cancelled may become active. -/
theorem setSubscriptionStatus_active {r : Subscription} (h : r.status ≠ .cancelled) :
    setSubscriptionStatus r .active = .ok { r with status := .active } := by
  refine setSubscriptionStatus_eq_ok.2 ⟨?_, rfl⟩
  cases hstatus : r.status with
  | cancelled => exact absurd hstatus h
  | _ => decide

/-- The webhook's three steps on rows that nothing changes. -/
theorem run_payment {db : Db} {tenant : Tenant} {r : Subscription} (htenant : db.tenant? tenant.id = some tenant)
    (hr : db.subscriptionOf tenant.id = some r) (hcancelled : r.status ≠ .cancelled) (c : CyclePlace) :
    run (step now paidAt tenant.id) ⟨db, c, .starting⟩ (List.replicate 3 (.payment true)) =
      ⟨commitPayment tenant r paidAt db, c, .finished true⟩ := by
  have hread : step now paidAt tenant.id ⟨db, c, .starting⟩ (.payment true) = ⟨db, c, .tenantRead tenant⟩ := by
    unfold step paymentStep
    dsimp only
    rw [htenant]
  have hresolved : step now paidAt tenant.id ⟨db, c, .tenantRead tenant⟩ (.payment true) =
      ⟨db, c, .answering tenant r⟩ := by
    unfold step paymentStep
    dsimp only
    rw [hr]
    dsimp only
    rw [setSubscriptionStatus_active hcancelled]
  show step now paidAt tenant.id (step now paidAt tenant.id (step now paidAt tenant.id _ _) _) (.payment true) = _
  rw [hread, hresolved]
  rfl

/-- On the row it has read the webhook commits that the subscription is active, and no other tenant's is changed. -/
theorem commitPayment_subscriptionOf {db : Db} {tenant : Tenant} {r : Subscription}
    (hids : (db.subscriptions.map Subscription.id).Nodup) (hr : db.subscriptionOf tenant.id = some r) (u : Nat) :
    ((commitPayment tenant r paidAt db).subscriptionOf u).map Subscription.status =
      if u = tenant.id then some .active else (db.subscriptionOf u).map Subscription.status := by
  have hrows : (commitPayment tenant r paidAt db).subscriptions = db.subscriptions.map (atId r.id (paidRow r)) :=
    modify_eq_map hids r.id fun _ => rfl
  rw [subscriptionOf_map (atId_tenantId (f := paidRow r) (fun _ => rfl) r.id) hrows]
  by_cases hu : u = tenant.id
  · rw [if_pos hu, hu, hr, Option.map_some, Option.map_some]
    unfold atId
    rw [if_pos rfl]
    show some (writeColumn r.status r.status .active) = _
    rw [writeColumn_self]
  · rw [if_neg hu]
    cases hrow : db.subscriptionOf u with
    | none => rfl
    | some other =>
      have hne : other.id ≠ r.id := by
        intro heq
        have hsame : other = r :=
          List.inj_on_of_nodup_map hids (mem_of_subscriptionOf hrow) (mem_of_subscriptionOf hr) heq
        exact hu ((tenantId_of_subscriptionOf hrow).symm.trans (hsame ▸ tenantId_of_subscriptionOf hr))
      rw [Option.map_some, Option.map_some, Option.map_some]
      unfold atId
      rw [if_neg hne]

/-- The webhook alone does what `handle_payment_confirmed` commits. -/
theorem payment_undisturbed {provider : String} {event : WebhookEvent} {client : PlatformErpClient} {db db₁ : Db}
    {email : Option String} (htype : event.eventType = .paymentConfirmed) (hids : (db.subscriptions.map Subscription.id).Nodup)
    (hthere : (db.subscriptionOf t).isSome = true)
    (h : eventBody provider event paidAt client db = .ok (.changed t email, db₁)) (c : CyclePlace) :
    ∃ db', run (step now paidAt t) ⟨db, c, .starting⟩ (List.replicate 3 (.payment true)) = ⟨db', c, .finished true⟩ ∧
      (∀ u, db₁.tenantStatus u = db'.tenantStatus u) ∧
      ∀ u, (db₁.subscriptionOf u).map Subscription.status = (db'.subscriptionOf u).map Subscription.status := by
  obtain ⟨row, hwritten, hactive⟩ := eventBody_subscription h
  rw [htype] at hactive
  replace hactive : row.status = .active := hactive
  unfold eventBody at h
  rw [htype] at h
  obtain ⟨r, hr⟩ := Option.isSome_iff_exists.1 hthere
  rcases confirmPayment_ok h with ⟨message, hignored, -⟩ | ⟨_, tenant, paying, paid, subscription, activated, ensured,
    settled, hchanged, hconfirmed⟩
  · cases hignored
  cases hchanged
  have htenant := resolved_row hconfirmed.resolved
  have hcancelled : r.status ≠ .cancelled := by
    rcases hconfirmed.subscription_eq with heq | ⟨hnone, -⟩
    · rw [hr] at heq
      cases heq
      exact hconfirmed.notCancelled
    · rw [hr] at hnone
      cases hnone
  refine ⟨commitPayment tenant r paidAt db, run_payment htenant hr hcancelled c, fun u => ?_, fun u => ?_⟩
  · rw [commitPayment_tenantStatus, hconfirmed.moved.tenantStatus u]
    by_cases hu : u = tenant.id
    · have hown : db.tenantStatus u = some tenant.status := by
        rw [hu]
        exact Db.tenantStatus_of_tenant? htenant
      rw [if_pos hu, if_pos hu, hown, Option.map_some, Option.map_some, writeColumn_self]
    · rw [if_neg hu, if_neg hu]
  · rw [commitPayment_subscriptionOf hids hr]
    by_cases hu : u = tenant.id
    · rw [if_pos hu, hu, hwritten.self, Option.map_some, hactive]
    · rw [if_neg hu, hwritten.other hids hu]

/-! ### A payment between the query and the visit -/

/-- The cycle's query, the whole of the payment, and the rest of the cycle. -/
def Small.paidAfterQuery : List TrialMove :=
  [.cycle true] ++ List.replicate 3 (.payment true) ++ List.replicate 4 (.cycle true)

/-- The visit of the tenant, and then the payment. -/
def Small.paidAfterVisit : List TrialMove :=
  List.replicate 5 (.cycle true) ++ List.replicate 3 (.payment true)

/-- What comes of some moves for a tenant with a trial that is over. -/
def Small.raced (ms : List TrialMove) : TrialRace := run (step 11000 11000 1) (start ControlPlane.Small.onTrial.db) ms

set_option maxRecDepth 100000 in
/-- The first candidate is judged by what the query read: its paid subscription becomes past due, and the tenant is
suspended. -/
theorem payment_lost_to_cycle :
    (∃ r ∈ ControlPlane.Small.onTrial.db.subscriptions, r.tenantId = 1 ∧ r.trialOver 11000 = true) ∧
      (Small.raced Small.paidAfterQuery).cycle = .finished ∧
      (Small.raced Small.paidAfterQuery).payment = .finished true ∧
      ¬PaymentKept 1 (Small.raced Small.paidAfterQuery) ∧
      ((Small.raced Small.paidAfterQuery).db.subscriptionOf 1).map Subscription.status = some .pastDue ∧
      (Small.raced Small.paidAfterQuery).db.tenantStatus 1 = some .suspendedBilling := by
  decide +kernel

set_option maxRecDepth 100000 in
theorem payment_kept_after_visit : PaymentKept 1 (Small.raced Small.paidAfterVisit) :=
  (payment_kept_iff ⟨by decide +kernel, by decide +kernel⟩ ⟨_, rfl, by decide +kernel⟩ (by decide +kernel)).1
    (by decide +kernel)

end TrialRace

end ControlPlane
