import ControlPlane.Workers.Scheduler

/-!
# The scheduler lock

The lock is a lease: it expires by the clock, whether its holder is done or not, and the holder neither gives it back nor
looks at it again.  The threads exclude each other exactly as long as no thread takes an expired lock from one that is in
its pass, and no renewal comes too late.  A lease that lasts is enough for that, a slow thread alone needs none.

The stamp has the time at which a pass looked at the clock, and the enqueue comes later.  The enqueues of a cycle are the
interval apart if besides every enqueue is stamped and no pass looks at the clock when the interval since the last stamp is
over and the one since the last enqueue is not.
-/

namespace ControlPlane

open ExpiringKey Runs

/-- The thread is between a successful `_acquire_or_renew_lock` and the end of its enqueue step. -/
def SchedulerPhase.inPass : SchedulerPhase → Bool
  | .polling | .contending | .renewing => false
  | _ => true

/-- No thread has extended a lock of another, and at most one is in its pass. -/
structure SchedulerExclusive (s : SchedulerState) : Prop where
  own : ∀ p ∈ s.renewed, p.1 = p.2
  exclusive : ∀ i j, (s.phase i).inPass = true → (s.phase j).inPass = true → i = j

/-- What the lock is for. -/
structure SchedulerSafe (settings : SchedulerSettings) (s : SchedulerState) : Prop extends SchedulerExclusive s where
  spaced : s.enqueued.Pairwise fun later earlier => earlier + settings.interval ≤ later

/-- No thread but `i` is in its pass. -/
def SchedulerState.noneElse (s : SchedulerState) (i : Nat) : Prop := ∀ j, j ≠ i → (s.phase j).inPass = false

/-- A thread takes the lock when no other is in its pass; and it renews the lock when that is its own or nobody's, and no
other is in its pass. -/
def lockKept (settings : SchedulerSettings) (s : SchedulerState) : SchedulerEvent → Prop
  | .poll i => settings.enabled = true →
    (s.phase i = .polling → get s.now s.lock = none → s.noneElse i) ∧
      (s.phase i = .renewing → (∀ owner ∈ get s.now s.lock, i = owner) ∧ s.noneElse i)
  | _ => True

/-- The interval since the last stamp is not over, or the one since the last enqueue is. -/
def SchedulerState.clockClear (settings : SchedulerSettings) (s : SchedulerState) : Prop :=
  ∀ e ∈ s.enqueued.head?, ∀ stamp ∈ s.lastEnqueue, s.now < stamp.1 + settings.interval ∨ e + settings.interval ≤ s.now

/-- Besides, no enqueue stays without its stamp, and no pass looks at the clock between the end of the interval since the
last stamp and the end of the one since the last enqueue. -/
def spacingKept (settings : SchedulerSettings) (s : SchedulerState) (e : SchedulerEvent) : Prop :=
  lockKept settings s e ∧
    match e with
    | .poll i => s.phase i = .leading → s.clockClear settings
    | .fail i => ∀ now, s.phase i ≠ .stamping now
    | .tick _ => True

/-- The threads before any of them has polled. -/
structure SchedulerStart (s : SchedulerState) : Prop where
  polling : ∀ i, s.phase i = .polling
  enqueued : s.enqueued = []
  renewed : s.renewed = []

section
variable {settings : SchedulerSettings} {s : SchedulerState}

@[simp] theorem setPhase_self (s : SchedulerState) (i : Nat) (p : SchedulerPhase) : (s.setPhase i p).phase i = p :=
  Function.update_self ..

theorem setPhase_of_ne (s : SchedulerState) {i j : Nat} (p : SchedulerPhase) (h : j ≠ i) :
    (s.setPhase i p).phase j = s.phase j :=
  Function.update_of_ne h ..

/-! ### Exclusion -/

theorem SchedulerStart.exclusive (h : SchedulerStart s) : SchedulerExclusive s where
  own p hp := by rw [h.renewed] at hp; cases hp
  exclusive i j hi := by rw [h.polling i] at hi; cases hi

/-- A thread that stays in its pass or is out of it afterwards changes nothing. -/
theorem SchedulerExclusive.setPhase (h : SchedulerExclusive s) {i : Nat} {p : SchedulerPhase}
    (hp : p.inPass = true → (s.phase i).inPass = true) : SchedulerExclusive (s.setPhase i p) := by
  have hbefore : ∀ j, ((s.setPhase i p).phase j).inPass = true → (s.phase j).inPass = true := by
    intro j hj
    by_cases heq : j = i
    · rw [heq] at hj ⊢
      rw [setPhase_self] at hj
      exact hp hj
    · rw [setPhase_of_ne s p heq] at hj
      exact hj
  exact ⟨h.own, fun j k hj hk => h.exclusive j k (hbefore j hj) (hbefore k hk)⟩

/-- A thread can begin its pass just when no other is in its own. -/
theorem exclusive_setPhase_iff {t : SchedulerState} {i : Nat} {p : SchedulerPhase} (hp : p.inPass = true)
    (hown : ∀ q ∈ t.renewed, q.1 = q.2) : SchedulerExclusive (t.setPhase i p) ↔ t.noneElse i := by
  have hself : ((t.setPhase i p).phase i).inPass = true := by rw [setPhase_self]; exact hp
  constructor
  · intro h j hj
    by_contra hpass
    refine hj (h.exclusive j i ?_ hself)
    rw [setPhase_of_ne t p hj]
    exact Bool.not_eq_false _ ▸ hpass
  · intro h
    have honly : ∀ j, ((t.setPhase i p).phase j).inPass = true → j = i := by
      intro j hj
      by_contra hne
      rw [setPhase_of_ne t p hne, h j hne] at hj
      cases hj
    exact ⟨hown, fun j k hj hk => (honly j hj).trans (honly k hk).symm⟩

/-- The next step of a thread keeps the exclusion just when it takes or renews no lock that it should not. -/
theorem pollStep_exclusive_iff (settings : SchedulerSettings) (h : SchedulerExclusive s) (i : Nat) :
    ((s.phase i = .polling → get s.now s.lock = none → s.noneElse i) ∧
      (s.phase i = .renewing → (∀ owner ∈ get s.now s.lock, i = owner) ∧ s.noneElse i)) ↔
      SchedulerExclusive (pollStep settings s i) := by
  unfold pollStep
  cases hphase : s.phase i with
  | polling =>
    dsimp only
    cases hlock : get s.now s.lock with
    | none =>
      have hiff := exclusive_setPhase_iff (t := { s with lock := set i (s.now + settings.lockSeconds) }) (i := i)
        (p := .leading) rfl h.own
      refine Iff.trans ?_ hiff.symm
      constructor
      · exact fun hkept => hkept.1 rfl rfl
      · exact fun hnone => ⟨fun _ _ => hnone, nofun⟩
    | some owner =>
      refine iff_of_true ⟨fun _ => nofun, nofun⟩ ?_
      exact h.setPhase fun hpass => by cases hpass
  | contending =>
    refine iff_of_true ⟨nofun, nofun⟩ ?_
    dsimp only
    split
    · exact h.setPhase fun hpass => by cases hpass
    · exact h.setPhase fun hpass => by cases hpass
  | renewing =>
    have hiff := fun hown => exclusive_setPhase_iff (t := { s with
      lock := expire s.now (s.now + settings.lockSeconds) s.lock
      renewed := ((get s.now s.lock).map fun owner => (i, owner)).toList ++ s.renewed }) (i := i) (p := .leading) rfl hown
    dsimp only at hiff ⊢
    constructor
    · intro hkept
      obtain ⟨howner, hnone⟩ := hkept.2 rfl
      refine (hiff fun q hq => ?_).2 hnone
      rcases List.mem_append.1 hq with hq | hq
      · obtain ⟨owner, hlock, rfl⟩ := Option.map_eq_some_iff.1 (Option.mem_toList.1 hq)
        exact howner owner hlock
      · exact h.own q hq
    · intro hafter
      refine ⟨nofun, fun _ => ⟨fun owner howner => ?_, ?_⟩⟩
      · refine hafter.own (i, owner) (List.mem_append_left _ ?_)
        rw [Option.mem_toList, Option.mem_def.1 howner]
        rfl
      · exact (hiff hafter.own).1 hafter
  | leading =>
    refine iff_of_true ⟨nofun, nofun⟩ ?_
    exact h.setPhase fun _ => by rw [hphase]; rfl
  | timed now =>
    refine iff_of_true ⟨nofun, nofun⟩ ?_
    exact h.setPhase fun _ => by rw [hphase]; rfl
  | due now =>
    refine iff_of_true ⟨nofun, nofun⟩ ?_
    have hsame : SchedulerExclusive { s with enqueued := s.now :: s.enqueued } := ⟨h.own, h.exclusive⟩
    exact hsame.setPhase fun _ => by rw [show _ = SchedulerPhase.due now from hphase]; rfl
  | stamping now =>
    refine iff_of_true ⟨nofun, nofun⟩ ?_
    have hsame : SchedulerExclusive { s with lastEnqueue := set now (s.now + settings.stampSeconds) } :=
      ⟨h.own, h.exclusive⟩
    exact hsame.setPhase fun hpass => by cases hpass

theorem schedulerStep_exclusive_iff (s : SchedulerState) (e : SchedulerEvent) (h : SchedulerExclusive s) :
    lockKept settings s e ↔ SchedulerExclusive (schedulerStep settings s e) := by
  cases e with
  | tick seconds => exact iff_of_true trivial ⟨h.own, h.exclusive⟩
  | fail i => exact iff_of_true trivial (h.setPhase fun hpass => by cases hpass)
  | poll i =>
    unfold lockKept schedulerStep
    dsimp only
    split
    · rename_i henabled
      rw [← pollStep_exclusive_iff settings h i]
      exact ⟨fun hkept => hkept henabled, fun hkept _ => hkept⟩
    · rename_i hdisabled
      exact iff_of_true (fun henabled => absurd henabled hdisabled) h

/-! ### Leases -/

/-- The thread has found the lock its own and is not done with it. -/
def SchedulerPhase.holdsLease : SchedulerPhase → Bool
  | .polling | .contending => false
  | _ => true

/-- Time passes only as far as the lease of a thread that holds it goes. -/
def leaseLasts (s : SchedulerState) : SchedulerEvent → Prop
  | .tick seconds => ∀ i, (s.phase i).holdsLease = true → (get (s.now + seconds) s.lock).isSome = true
  | _ => True

/-- A thread that holds the lease is the lock's owner. -/
def SchedulerState.Leads (s : SchedulerState) : Prop := ∀ i, (s.phase i).holdsLease = true → get s.now s.lock = some i

theorem SchedulerPhase.holdsLease_of_inPass {phase : SchedulerPhase} (h : phase.inPass = true) :
    phase.holdsLease = true := by
  cases phase <;> first | rfl | cases h

theorem SchedulerSettings.lockSeconds_pos (settings : SchedulerSettings) : 0 < settings.lockSeconds := by
  unfold SchedulerSettings.lockSeconds
  omega

theorem SchedulerState.Leads.setPhase (h : s.Leads) {i : Nat} {p : SchedulerPhase}
    (hp : p.holdsLease = true → get s.now s.lock = some i) : (s.setPhase i p).Leads := by
  intro j hj
  by_cases heq : j = i
  · rw [heq] at hj ⊢
    rw [setPhase_self] at hj
    exact hp hj
  · rw [setPhase_of_ne s p heq] at hj
    exact h j hj

/-- The owner's thread is the only one that holds the lease. -/
theorem SchedulerState.Leads.noneElse (h : s.Leads) {i : Nat} (hi : ∀ owner ∈ get s.now s.lock, i = owner) :
    s.noneElse i := by
  intro j hj
  by_contra hpass
  have hlock := h j (SchedulerPhase.holdsLease_of_inPass (Bool.not_eq_false _ ▸ hpass))
  exact hj (hi j hlock).symm

theorem SchedulerState.Leads.lockKept (h : s.Leads) (e : SchedulerEvent) : lockKept settings s e := by
  cases e with
  | tick seconds => trivial
  | fail i => trivial
  | poll i =>
    refine fun _ => ⟨fun _ hnone => h.noneElse fun owner howner => ?_, fun hrenewing => ?_⟩
    · rw [hnone] at howner
      cases howner
    · have hlock := h i (by rw [hrenewing]; rfl)
      have howner : ∀ owner ∈ get s.now s.lock, i = owner := by
        intro owner howner
        exact Option.some.inj (hlock.symm.trans howner)
      exact ⟨howner, h.noneElse howner⟩

theorem schedulerStep_leads (settings : SchedulerSettings) (s : SchedulerState) (e : SchedulerEvent) (h : s.Leads)
    (hlasts : leaseLasts s e) : (schedulerStep settings s e).Leads := by
  have hpos := settings.lockSeconds_pos
  cases e with
  | tick seconds => exact fun i hi => get_later (h i hi) (hlasts i hi)
  | fail i => exact h.setPhase fun hp => by cases hp
  | poll i =>
    unfold schedulerStep
    dsimp only
    split
    swap
    · exact h
    unfold pollStep
    cases hphase : s.phase i with
    | polling =>
      dsimp only
      cases hlock : get s.now s.lock with
      | none =>
        intro j hj
        by_cases heq : j = i
        · rw [heq]
          exact get_set (Nat.lt_add_of_pos_right hpos)
        · -- nobody else holds a lease of the free lock
          rw [setPhase_of_ne _ _ heq] at hj
          have hlead := h j hj
          rw [hlock] at hlead
          cases hlead
      | some owner => exact h.setPhase fun hp => by cases hp
    | contending =>
      dsimp only
      split
      · rename_i howner
        exact h.setPhase fun _ => howner
      · exact h.setPhase fun hp => by cases hp
    | renewing =>
      have hlock := h i (by rw [hphase]; rfl)
      have hkept : get s.now (expire s.now (s.now + settings.lockSeconds) s.lock) = some i :=
        get_expire hlock (Nat.lt_add_of_pos_right hpos)
      intro j hj
      by_cases heq : j = i
      · rw [heq]
        exact hkept
      · rw [setPhase_of_ne _ _ heq] at hj
        have hlead := hlock.symm.trans (h j hj)
        exact absurd (Option.some.inj hlead).symm heq
    | leading => exact h.setPhase fun _ => h i (by rw [hphase]; rfl)
    | timed now => exact h.setPhase fun _ => h i (by rw [hphase]; rfl)
    | due now =>
      have hsame : SchedulerState.Leads { s with enqueued := s.now :: s.enqueued } := h
      exact hsame.setPhase fun _ => h i (by rw [hphase]; rfl)
    | stamping now =>
      have hsame : SchedulerState.Leads { s with lastEnqueue := set now (s.now + settings.stampSeconds) } := h
      exact hsame.setPhase fun hp => by cases hp

/-- While no lease runs out under its holder, nobody takes the lock from it. -/
theorem lockKept_of_leases {events : List SchedulerEvent} (hstart : SchedulerStart s)
    (hlasts : Steps (schedulerStep settings) leaseLasts s events) :
    Steps (schedulerStep settings) (lockKept settings) s events := by
  have hleads : s.Leads := by
    intro i hi
    rw [hstart.polling i] at hi
    cases hi
  exact Steps.mono_of (schedulerStep_leads settings) (fun s e h _ => h.lockKept e) hleads hlasts

/-! ### Spacing -/

/-- What the steps keep: the clock that a deciding thread has read was clear, a due thread may enqueue, a stamping one has
made the last enqueue, and outside of a stamping the last enqueue is on record until the interval after it is over. -/
structure SchedulerInv (settings : SchedulerSettings) (s : SchedulerState) : Prop extends SchedulerExclusive s where
  timed : ∀ i now, s.phase i = .timed now → now ≤ s.now ∧ { s with now := now }.clockClear settings
  due : ∀ i now, s.phase i = .due now → now ≤ s.now ∧ ∀ e ∈ s.enqueued, e + settings.interval ≤ s.now
  stamping : ∀ i now, s.phase i = .stamping now → ∃ e, s.enqueued.head? = some e ∧ now ≤ e
  stamped : (∀ i now, s.phase i ≠ .stamping now) → ∀ e ∈ s.enqueued.head?,
    ∃ stamp expiry, s.lastEnqueue = some (stamp, expiry) ∧ e + settings.interval ≤ expiry
  past : ∀ e ∈ s.enqueued, e ≤ s.now
  spaced : s.enqueued.Pairwise fun later earlier => earlier + settings.interval ≤ later

theorem SchedulerInv.safe (h : SchedulerInv settings s) : SchedulerSafe settings s := ⟨h.toSchedulerExclusive, h.spaced⟩

theorem SchedulerStart.inv (h : SchedulerStart s) : SchedulerInv settings s where
  toSchedulerExclusive := h.exclusive
  timed i now hi := by rw [h.polling i] at hi; cases hi
  due i now hi := by rw [h.polling i] at hi; cases hi
  stamping i now hi := by rw [h.polling i] at hi; cases hi
  stamped _ e he := by rw [h.enqueued] at he; cases he
  past e he := by rw [h.enqueued] at he; cases he
  spaced := by rw [h.enqueued]; exact List.Pairwise.nil

theorem SchedulerSettings.interval_le_stampSeconds (settings : SchedulerSettings) :
    settings.interval ≤ settings.stampSeconds := by
  unfold SchedulerSettings.stampSeconds
  omega

/-- A thread moves on without touching the stamp, to a phase whose facts hold, and neither from nor to a stamping. -/
theorem SchedulerInv.setPhase (h : SchedulerInv settings s) {i : Nat} {p : SchedulerPhase}
    (hafter : SchedulerExclusive (s.setPhase i p)) (hfrom : ∀ now, s.phase i ≠ .stamping now)
    (hto : ∀ now, p ≠ .stamping now)
    (htimed : ∀ now, p = .timed now → now ≤ s.now ∧ { s with now := now }.clockClear settings)
    (hdue : ∀ now, p = .due now → now ≤ s.now ∧ ∀ e ∈ s.enqueued, e + settings.interval ≤ s.now) :
    SchedulerInv settings (s.setPhase i p) := by
  have hphase : ∀ j, (s.setPhase i p).phase j = if j = i then p else s.phase j := by
    intro j
    by_cases hj : j = i
    · rw [hj, if_pos rfl, setPhase_self]
    · rw [if_neg hj, setPhase_of_ne s p hj]
  refine ⟨hafter, fun j now hj => ?_, fun j now hj => ?_, fun j now hj => ?_, fun hnone => ?_, h.past, h.spaced⟩
  · rw [hphase] at hj
    split at hj
    · exact htimed now hj
    · exact h.timed j now hj
  · rw [hphase] at hj
    split at hj
    · exact hdue now hj
    · exact h.due j now hj
  · rw [hphase] at hj
    split at hj
    · exact absurd hj (hto now)
    · exact h.stamping j now hj
  · refine h.stamped fun j now hj => ?_
    by_cases heq : j = i
    · exact hfrom now (heq ▸ hj)
    · exact hnone j now (by rw [setPhase_of_ne s p heq]; exact hj)

/-- While a thread is in its pass no other is anywhere in its own. -/
theorem SchedulerInv.alone (h : SchedulerInv settings s) {i j : Nat} {p q : SchedulerPhase} (hi : s.phase i = p)
    (hj : s.phase j = q) (hp : p.inPass = true) (hq : q.inPass = true) : j = i :=
  h.exclusive j i (by rw [hj]; exact hq) (by rw [hi]; exact hp)

/-- Reading the last enqueue: a thread goes on only if the interval since it is over. -/
theorem SchedulerInv.decide (h : SchedulerInv settings s) {i : Nat} {now : Time} (hphase : s.phase i = .timed now)
    (hafter : SchedulerExclusive (s.setPhase i
      (if now < (get s.now s.lastEnqueue).getD 0 + settings.interval then .polling else .due now))) :
    SchedulerInv settings (s.setPhase i
      (if now < (get s.now s.lastEnqueue).getD 0 + settings.interval then .polling else .due now)) := by
  obtain ⟨hnow, hclear⟩ := h.timed i now hphase
  have hnone : ∀ j t, s.phase j ≠ .stamping t := by
    intro j t hj
    have hji := h.alone hphase hj rfl rfl
    rw [hji, hphase] at hj
    cases hj
  by_cases hearly : now < (get s.now s.lastEnqueue).getD 0 + settings.interval
  · rw [if_pos hearly] at hafter ⊢
    exact h.setPhase hafter (hnone i) (fun t hp => by cases hp) (fun t hp => by cases hp) (fun t hp => by cases hp)
  · rw [if_neg hearly] at hafter ⊢
    have hover : ∀ e ∈ s.enqueued, e + settings.interval ≤ s.now := by
      cases hlog : s.enqueued with
      | nil => intro e he; cases he
      | cons last earlier =>
        obtain ⟨stamp, expiry, hstamp, hexpiry⟩ := h.stamped hnone last (by rw [hlog]; rfl)
        -- the stamp is there and its interval is over, or it has expired, which takes longer than the interval
        have hlast : last + settings.interval ≤ s.now := by
          rw [hstamp] at hearly
          rcases get_or_expired stamp expiry s.now with hread | ⟨-, hgone⟩
          · rw [hread] at hearly
            rcases hclear last (by rw [hlog]; rfl) _ hstamp with hsoon | hlate
            · exact absurd hsoon hearly
            · exact hlate.trans hnow
          · exact hexpiry.trans hgone
        have hspaced := h.spaced
        rw [hlog, List.pairwise_cons] at hspaced
        intro e he
        rcases List.mem_cons.1 he with rfl | he
        · exact hlast
        · have hbefore := hspaced.1 e he
          exact hbefore.trans ((Nat.le_add_right ..).trans hlast)
    refine h.setPhase hafter (hnone i) (fun t hp => by cases hp) (fun t hp => by cases hp) (fun t hp => ?_)
    cases hp
    exact ⟨hnow, hover⟩

/-- The enqueue comes the interval after all earlier ones, and the thread goes on to stamp it. -/
theorem SchedulerInv.enqueue (h : SchedulerInv settings s) {i : Nat} {now : Time} (hphase : s.phase i = .due now)
    (hafter : SchedulerExclusive ({ s with enqueued := s.now :: s.enqueued }.setPhase i (.stamping now))) :
    SchedulerInv settings ({ s with enqueued := s.now :: s.enqueued }.setPhase i (.stamping now)) := by
  obtain ⟨hnow, hover⟩ := h.due i now hphase
  have hself : ({ s with enqueued := s.now :: s.enqueued }.setPhase i (.stamping now)).phase i = .stamping now :=
    setPhase_self ..
  have honly : ∀ j q, ({ s with enqueued := s.now :: s.enqueued }.setPhase i (.stamping now)).phase j = q →
      q.inPass = true → q = .stamping now := by
    intro j q hj hq
    rw [hafter.exclusive j i (by rw [hj]; exact hq) (by rw [hself]; rfl), hself] at hj
    exact hj.symm
  refine ⟨hafter, fun j t hj => ?_, fun j t hj => ?_, fun j t hj => ?_, fun hnone => ?_, fun e he => ?_, ?_⟩
  · cases honly j _ hj rfl
  · cases honly j _ hj rfl
  · cases honly j _ hj rfl
    exact ⟨s.now, rfl, hnow⟩
  · exact absurd hself (hnone i now)
  · rcases List.mem_cons.1 he with rfl | he
    · exact Nat.le_refl _
    · exact h.past e he
  · exact List.pairwise_cons.2 ⟨hover, h.spaced⟩

/-- The stamp records the last enqueue for at least the interval. -/
theorem SchedulerInv.stamp (h : SchedulerInv settings s) {i : Nat} {now : Time} (hphase : s.phase i = .stamping now)
    (hafter : SchedulerExclusive
      ({ s with lastEnqueue := set now (s.now + settings.stampSeconds) }.setPhase i .polling)) :
    SchedulerInv settings
      ({ s with lastEnqueue := set now (s.now + settings.stampSeconds) }.setPhase i .polling) := by
  obtain ⟨last, hlast, -⟩ := h.stamping i now hphase
  have hself : ({ s with lastEnqueue := set now (s.now + settings.stampSeconds) }.setPhase i .polling).phase i = .polling :=
    setPhase_self ..
  -- nobody else is in a pass, and this thread's pass is over
  have hnobody : ∀ j q, ({ s with lastEnqueue := set now (s.now + settings.stampSeconds) }.setPhase i .polling).phase j =
      q → q.inPass = false := by
    intro j q hj
    by_contra hq
    by_cases hne : j = i
    · rw [hne, hself] at hj
      rw [← hj] at hq
      exact hq rfl
    · rw [setPhase_of_ne _ _ hne] at hj
      exact hne (h.alone hphase hj rfl (Bool.not_eq_false _ ▸ hq))
  refine ⟨hafter, fun j t hj => ?_, fun j t hj => ?_, fun j t hj => ?_, fun _ e he => ?_, h.past, h.spaced⟩
  · cases hnobody j _ hj
  · cases hnobody j _ hj
  · cases hnobody j _ hj
  · have heq : e = last := Option.some.inj ((show s.enqueued.head? = some e from he).symm.trans hlast)
    have hpast := h.past last (List.mem_of_head? hlast)
    rw [heq]
    exact ⟨_, _, rfl, Nat.add_le_add hpast settings.interval_le_stampSeconds⟩

/-- The next step of a thread, phase by phase. -/
theorem SchedulerInv.poll (h : SchedulerInv settings s) {i : Nat} (hafter : SchedulerExclusive (pollStep settings s i))
    (hclear : s.phase i = .leading → s.clockClear settings) : SchedulerInv settings (pollStep settings s i) := by
  unfold pollStep at hafter ⊢
  cases hphase : s.phase i with
  | polling =>
    have hfrom : ∀ t, s.phase i ≠ .stamping t := fun t hi => by rw [hphase] at hi; cases hi
    rw [hphase] at hafter
    dsimp only at hafter ⊢
    cases hlock : get s.now s.lock with
    | none =>
      rw [hlock] at hafter
      have htaken : SchedulerInv settings { s with lock := set i (s.now + settings.lockSeconds) } :=
        ⟨⟨h.own, h.exclusive⟩, h.timed, h.due, h.stamping, h.stamped, h.past, h.spaced⟩
      exact htaken.setPhase hafter hfrom (fun t hp => by cases hp) (fun t hp => by cases hp) (fun t hp => by cases hp)
    | some owner =>
      rw [hlock] at hafter
      exact h.setPhase hafter hfrom (fun t hp => by cases hp) (fun t hp => by cases hp) (fun t hp => by cases hp)
  | contending =>
    have hfrom : ∀ t, s.phase i ≠ .stamping t := fun t hi => by rw [hphase] at hi; cases hi
    rw [hphase] at hafter
    refine h.setPhase hafter hfrom (fun t hp => ?_) (fun t hp => ?_) (fun t hp => ?_)
    · split at hp <;> cases hp
    · split at hp <;> cases hp
    · split at hp <;> cases hp
  | renewing =>
    rw [hphase] at hafter
    have hown := hafter.own
    have hrenewed : SchedulerInv settings
        { s with
          lock := expire s.now (s.now + settings.lockSeconds) s.lock
          renewed := ((get s.now s.lock).map fun owner => (i, owner)).toList ++ s.renewed } :=
      ⟨⟨hown, h.exclusive⟩, h.timed, h.due, h.stamping, h.stamped, h.past, h.spaced⟩
    refine hrenewed.setPhase hafter (fun t hi => ?_) (fun t hp => by cases hp) (fun t hp => by cases hp)
      (fun t hp => by cases hp)
    rw [show s.phase i = .stamping t from hi] at hphase
    cases hphase
  | leading =>
    rw [hphase] at hafter
    refine h.setPhase hafter (fun t hi => by rw [hphase] at hi; cases hi) (fun t hp => by cases hp) (fun t hp => ?_)
      (fun t hp => by cases hp)
    cases hp
    exact ⟨Nat.le_refl _, hclear hphase⟩
  | timed now =>
    rw [hphase] at hafter
    exact h.decide hphase hafter
  | due now =>
    rw [hphase] at hafter
    exact h.enqueue hphase hafter
  | stamping now =>
    rw [hphase] at hafter
    exact h.stamp hphase hafter

/-- One step that keeps the lock and the spacing keeps the invariant. -/
theorem schedulerStep_inv (s : SchedulerState) (e : SchedulerEvent) (h : SchedulerInv settings s)
    (hkept : spacingKept settings s e) : SchedulerInv settings (schedulerStep settings s e) := by
  obtain ⟨hlock, hspacing⟩ := hkept
  have hafter := (schedulerStep_exclusive_iff s e h.toSchedulerExclusive).1 hlock
  cases e with
  | tick seconds =>
    have hlater : ∀ {t : Time}, t ≤ s.now → t ≤ s.now + seconds := fun ht => ht.trans (Nat.le_add_right ..)
    refine ⟨hafter, fun i t hi => ?_, fun i t hi => ?_, h.stamping, h.stamped, fun e he => hlater (h.past e he), h.spaced⟩
    · obtain ⟨hnow, hclear⟩ := h.timed i t hi
      exact ⟨hlater hnow, hclear⟩
    · obtain ⟨hnow, hover⟩ := h.due i t hi
      exact ⟨hlater hnow, fun e he => hlater (hover e he)⟩
  | poll i =>
    unfold schedulerStep at hafter ⊢
    dsimp only at hafter ⊢
    split
    · rename_i henabled
      rw [if_pos henabled] at hafter
      exact h.poll hafter hspacing
    · exact h
  | fail i =>
    exact h.setPhase hafter hspacing (fun t hp => by cases hp) (fun t hp => by cases hp) (fun t hp => by cases hp)

end

/-- The threads of a cycle exclude each other in a run exactly when in every step of it the lock is kept: no thread takes it,
expired, from one in its pass, and no renewal comes too late.  If besides every enqueue is stamped, and no pass looks at the
clock after the interval since the last stamp and before the one since the last enqueue, the lock does what it is for. -/
theorem scheduler_lock_holds (settings : SchedulerSettings) (s : SchedulerState) (events : List SchedulerEvent)
    (hstart : SchedulerStart s) :
    (Steps (schedulerStep settings) (lockKept settings) s events ↔
        Always (schedulerStep settings) SchedulerExclusive s events) ∧
      (Steps (schedulerStep settings) (spacingKept settings) s events →
        Always (schedulerStep settings) (SchedulerSafe settings) s events) := by
  refine ⟨steps_iff_always schedulerStep_exclusive_iff hstart.exclusive, fun hkept => ?_⟩
  have hinv : Always (schedulerStep settings) (SchedulerInv settings) s events :=
    Always.of_steps schedulerStep_inv hstart.inv hkept
  exact hinv.mono fun s h => h.safe

namespace Small

def scheduler : SchedulerSettings := ⟨true, 1, 30⟩

def schedulers : SchedulerState := ⟨1000, none, none, fun _ => .polling, [], []⟩

/-- A thread enqueues five seconds after it looked at the clock, and its stamp comes when its lease is over.  The second
thread takes the lock, looks at the clock a minute later and enqueues again. -/
def slowlyScheduled : List SchedulerEvent :=
  [.poll 0, .poll 0, .poll 0, .tick 5, .poll 0, .tick 40, .poll 0, .poll 1, .tick 60, .poll 1, .poll 1, .poll 1]

/-- The first thread decides to enqueue and pauses until its lease is over; the second takes the lock and enqueues. -/
def leaseOver : List SchedulerEvent :=
  [.poll 0, .poll 0, .poll 0, .tick 31, .poll 1, .poll 1, .poll 1, .poll 1, .poll 0]

end Small

theorem slowlyScheduled_safe :
    Always (schedulerStep Small.scheduler) (SchedulerSafe Small.scheduler) Small.schedulers Small.slowlyScheduled := by
  have hidle : ∀ (s : SchedulerState) (i : Nat), s.phase i ≠ .polling → s.phase i ≠ .renewing →
      lockKept Small.scheduler s (.poll i) := fun s i hpolling hrenewing _ =>
    ⟨fun h => absurd h hpolling, fun h => absurd h hrenewing⟩
  have htakes : ∀ (s : SchedulerState) (i : Nat), s.phase i ≠ .renewing → (∀ j, s.phase j = .polling) →
      lockKept Small.scheduler s (.poll i) := by
    refine fun s i hrenewing hpolling _ => ⟨fun _ _ j _ => ?_, fun h => absurd h hrenewing⟩
    rw [hpolling j]
    rfl
  have hkept : Steps (schedulerStep Small.scheduler) (spacingKept Small.scheduler) Small.schedulers
      Small.slowlyScheduled := by
    refine ⟨⟨htakes _ _ (by decide) fun _ => rfl, nofun⟩, ⟨hidle _ _ (by decide) (by decide), fun _ e he => ?_⟩,
      ⟨hidle _ _ (by decide) (by decide), nofun⟩, ⟨trivial, trivial⟩, ⟨hidle _ _ (by decide) (by decide), nofun⟩,
      ⟨trivial, trivial⟩, ⟨hidle _ _ (by decide) (by decide), nofun⟩, ⟨htakes _ _ (by decide) fun j => ?_, nofun⟩,
      ⟨trivial, trivial⟩, ⟨hidle _ _ (by decide) (by decide), fun _ e he stamp hstamp => ?_⟩,
      ⟨hidle _ _ (by decide) (by decide), nofun⟩, ⟨hidle _ _ (by decide) (by decide), nofun⟩, trivial⟩
    · cases he
    · rcases j with _ | j <;> rfl
    · -- the last stamp is of 1000 and the last enqueue of 1005
      cases he
      cases hstamp
      decide
  exact (scheduler_lock_holds Small.scheduler Small.schedulers Small.slowlyScheduled ⟨fun _ => rfl, rfl, rfl⟩).2 hkept

/-- When the lease is over two threads are in their pass at once, and they enqueue at the same time. -/
theorem leaseOver_unsafe :
    let s := run (schedulerStep Small.scheduler) Small.schedulers Small.leaseOver
    (s.phase 0).inPass = true ∧ (s.phase 1).inPass = true ∧ s.enqueued = [1031, 1031] ∧
      ¬SchedulerSafe Small.scheduler s := by
  refine ⟨by decide, by decide, by decide, fun h => ?_⟩
  exact absurd (h.exclusive 0 1 (by decide) (by decide)) (by decide)

end ControlPlane
