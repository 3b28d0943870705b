import ControlPlane.Environment

/-!
# What writes leave alone

Reading a tenant's status through the row operations, and the part of the database that the bookkeeping of a request
or a task (jobs, backups, outbox, audit entries) does not touch: its `core`.
-/

namespace ControlPlane

open Table Session Session.Proc

/-! ### Statuses -/

theorem Db.tenantStatus_congr {db db' : Db} (h : db'.tenants = db.tenants) (t : Nat) :
    db'.tenantStatus t = db.tenantStatus t := by
  rw [Db.tenantStatus, Db.tenant?, h]; rfl

theorem Db.tenant?_id {db : Db} {t : Nat} {tenant : Tenant} (h : db.tenant? t = some tenant) : tenant.id = t :=
  key_of_get? h

theorem Db.tenantStatus_of_tenant? {db : Db} {t : Nat} {tenant : Tenant} (h : db.tenant? t = some tenant) :
    db.tenantStatus t = some tenant.status := by
  rw [Db.tenantStatus, h]; rfl

theorem Db.tenantStatus_putTenant (db : Db) (tenant : Tenant) (t : Nat) :
    (db.putTenant tenant).tenantStatus t =
      if t = tenant.id then (db.tenantStatus t).map fun _ => tenant.status else db.tenantStatus t := by
  unfold Db.tenantStatus Db.tenant? Db.putTenant
  rw [get?_put]
  show Option.map _ (if t = tenant.id then _ else _) = _
  split
  · cases get? db.tenants t <;> rfl
  · rfl

theorem Db.modifyTenant_of_tenant? {db : Db} {id : Nat} {tenant : Tenant} (h : db.tenant? id = some tenant)
    (f : Tenant → Tenant) : db.modifyTenant id f = db.putTenant (f tenant) := by
  unfold Db.modifyTenant Db.putTenant
  rw [modify_of_get? h]

theorem Db.modifyTenant_of_none {db : Db} {id : Nat} (h : db.tenant? id = none) (f : Tenant → Tenant) :
    db.modifyTenant id f = db := by
  unfold Db.modifyTenant
  rw [modify_of_get?_none h]

theorem Db.tenantStatus_modifyTenant (db : Db) (id : Nat) {f : Tenant → Tenant} (hf : ∀ r, (f r).id = r.id) (t : Nat) :
    (db.modifyTenant id f).tenantStatus t =
      if t = id then (db.tenant? t).map fun r => (f r).status else db.tenantStatus t := by
  unfold Db.modifyTenant Db.tenantStatus Db.tenant?
  dsimp only
  split
  · rename_i ht
    subst ht
    cases h : get? db.tenants t with
    | none => rw [Table.modify, h, h]; rfl
    | some r => rw [get?_modify_self (hf r) h]; rfl
  · rename_i hne
    rw [get?_modify_of_ne db.tenants hf hne]

/-- A new row is read under its key, if that was free, and hides nothing. -/
theorem Db.tenantStatus_insert {db db' : Db} {tenant : Tenant} (h : db'.tenants = insert db.tenants tenant)
    (hfree : db.tenant? tenant.id = none) (t : Nat) :
    db'.tenantStatus t = if t = tenant.id then some tenant.status else db.tenantStatus t := by
  unfold Db.tenantStatus Db.tenant? at *
  rw [h, get?_insert]
  show Option.map _ ((get? db.tenants t).or (if tenant.id = t then some tenant else none)) = _
  by_cases ht : t = tenant.id
  · subst ht
    rw [if_pos rfl, if_pos rfl, hfree]
    rfl
  · rw [if_neg fun h => ht h.symm, if_neg ht, Option.or_none]

/-- `db'` has a tenant's row in a status, and the other tenants and all jobs as `db` has them. -/
def Moved (db db' : Db) (id : Nat) (status : TenantStatus) : Prop :=
  ∃ row : Tenant, db'.tenants = put db.tenants row ∧ row.id = id ∧ row.status = status ∧ db'.jobs = db.jobs

theorem Moved.tenantStatus {db db' : Db} {id : Nat} {status : TenantStatus} (h : Moved db db' id status) (t : Nat) :
    db'.tenantStatus t = if t = id then (db.tenantStatus t).map fun _ => status else db.tenantStatus t := by
  obtain ⟨row, htenants, rfl, rfl, -⟩ := h
  have hput : db'.tenants = (db.putTenant row).tenants := htenants
  rw [Db.tenantStatus_congr hput, Db.tenantStatus_putTenant]

theorem Moved.jobs {db db' : Db} {id : Nat} {status : TenantStatus} (h : Moved db db' id status) :
    db'.jobs = db.jobs := by
  obtain ⟨row, -, -, -, hjobs⟩ := h
  exact hjobs

/-- Every tenant is in the status it was in, but for the one that was moved. -/
theorem Moved.cases {db db' : Db} {tenant : Tenant} {status : TenantStatus} (h : Moved db db' tenant.id status)
    (htenant : db.tenant? tenant.id = some tenant) (t : Nat) :
    db'.tenantStatus t = db.tenantStatus t ∨
      t = tenant.id ∧ db.tenantStatus t = some tenant.status ∧ db'.tenantStatus t = some status := by
  rw [h.tenantStatus]
  split
  · rename_i ht
    have hs : db.tenantStatus t = some tenant.status := by rw [ht]; exact Db.tenantStatus_of_tenant? htenant
    exact Or.inr ⟨ht, hs, by rw [hs]; rfl⟩
  · exact Or.inl rfl

/-! ### Flushing -/

theorem Db.onUpdate_of_mem {α : Type} [Keyed α] [DecidableEq α] {stamp : α → Time} {setStamp : Time → α → α}
    {now : Time} {saved : List α} {row : α} (h : row ∈ saved) : Db.onUpdate stamp setStamp now saved row = row := by
  rw [Db.onUpdate, if_pos h]

/-- A flush writes a row as it is, or with a new timestamp. -/
theorem Db.onUpdate_eq_or {α : Type} [Keyed α] [DecidableEq α] (stamp : α → Time) (setStamp : Time → α → α)
    (now : Time) (saved : List α) (row : α) :
    Db.onUpdate stamp setStamp now saved row = row ∨ Db.onUpdate stamp setStamp now saved row = setStamp now row := by
  unfold Db.onUpdate
  split
  · exact Or.inl rfl
  · split
    · exact Or.inl rfl
    · split
      · exact Or.inr rfl
      · exact Or.inl rfl

private theorem map_onUpdate_self {α : Type} [Keyed α] [DecidableEq α] (stamp : α → Time)
    (setStamp : Time → α → α) (now : Time) (rows : List α) :
    rows.map (Db.onUpdate stamp setStamp now rows) = rows := by
  have h : ∀ r ∈ rows, Db.onUpdate stamp setStamp now rows r = id r := fun r hr => Db.onUpdate_of_mem hr
  rw [List.map_congr_left h, List.map_id]

/-- Nothing is stamped when tenants and attempts are as they were committed. -/
theorem Db.flush_of_eq {now : Time} {saved work : Db} (ht : work.tenants = saved.tenants)
    (ha : work.attempts = saved.attempts) : Db.flush now saved work = work := by
  unfold Db.flush
  rw [ht, ha, map_onUpdate_self, map_onUpdate_self, ← ht, ← ha]

/-- Tenants that are as they were committed are not stamped. -/
theorem Db.tenants_flush_of_eq {now : Time} {saved work : Db} (h : work.tenants = saved.tenants) :
    (Db.flush now saved work).tenants = work.tenants := by
  unfold Db.flush
  dsimp only
  rw [h, map_onUpdate_self]

/-- Attempts that are as they were committed are not stamped. -/
theorem Db.attempts_flush_of_eq {now : Time} {saved work : Db} (h : work.attempts = saved.attempts) :
    (Db.flush now saved work).attempts = work.attempts := by
  unfold Db.flush
  dsimp only
  rw [h, map_onUpdate_self]

/-- A flush writes each tenant's row by itself. -/
theorem Db.tenant?_flush_map (now : Time) (saved work : Db) (t : Nat) :
    (Db.flush now saved work).tenant? t = (work.tenant? t).map
      (Db.onUpdate Tenant.updatedAt (fun u r => { r with updatedAt := u }) now saved.tenants) := by
  unfold Db.flush Db.tenant?
  refine get?_map (fun r => ?_) _ _
  rcases Db.onUpdate_eq_or Tenant.updatedAt (fun u (r : Tenant) => { r with updatedAt := u }) now saved.tenants r with
    h | h
  · rw [h]
  · rw [h]
    rfl

/-- The tenant row a flush writes: the session's row, but for the timestamp. -/
theorem Db.tenant?_flush (now : Time) (saved work : Db) (t : Nat) :
    ∃ stamp : Tenant → Time, (Db.flush now saved work).tenant? t =
      (work.tenant? t).map fun r => { r with updatedAt := stamp r } := by
  refine ⟨fun r => (Db.onUpdate Tenant.updatedAt (fun u r => { r with updatedAt := u }) now saved.tenants r).updatedAt,
    ?_⟩
  rw [Db.tenant?_flush_map]
  congr 1
  funext r
  dsimp only
  rcases Db.onUpdate_eq_or Tenant.updatedAt (fun u (r : Tenant) => { r with updatedAt := u }) now saved.tenants r with
    h | h
  · rw [h]
  · rw [h]

/-- A tenant's row that is as it was committed is not stamped. -/
theorem Db.tenant?_flush_of_same {now : Time} {saved work : Db} {t : Nat} (h : saved.tenant? t = work.tenant? t) :
    (Db.flush now saved work).tenant? t = work.tenant? t := by
  rw [Db.tenant?_flush_map]
  cases hrow : work.tenant? t with
  | none => rfl
  | some row =>
    have hmem : row ∈ saved.tenants := mem_of_get? (h.trans hrow)
    rw [Option.map_some, Db.onUpdate_of_mem hmem]

/-- A tenant's row with a timestamp of its own is written as it is. -/
theorem Db.tenant?_flush_of_stamped {now : Time} {saved work : Db} {t : Nat} {row row' : Tenant}
    (hsaved : saved.tenant? t = some row) (hwork : work.tenant? t = some row')
    (hstamp : row'.updatedAt ≠ row.updatedAt) : (Db.flush now saved work).tenant? t = some row' := by
  rw [Db.tenant?_flush_map, hwork, Option.map_some]
  congr 1
  have hold : get? saved.tenants (key row') = some row := by
    rw [key_of_get? hwork]
    exact hsaved
  unfold Db.onUpdate
  split
  · rfl
  · rw [hold]
    exact if_neg hstamp

@[simp] theorem Db.tenantStatus_flush (now : Time) (saved work : Db) (t : Nat) :
    (Db.flush now saved work).tenantStatus t = work.tenantStatus t := by
  obtain ⟨stamp, h⟩ := Db.tenant?_flush now saved work t
  rw [Db.tenantStatus, h, Db.tenantStatus, Option.map_map]; rfl

/-- A flush writes an attempt as it is, but for the timestamp. -/
theorem Db.onUpdate_attempt (now : Time) (saved : List PaymentAttempt) (row : PaymentAttempt) : ∃ stamp,
    Db.onUpdate PaymentAttempt.updatedAt (fun u r => { r with updatedAt := u }) now saved row =
      { row with updatedAt := stamp } := by
  rcases Db.onUpdate_eq_or PaymentAttempt.updatedAt (fun u r => { r with updatedAt := u }) now saved row with h | h
  · exact ⟨row.updatedAt, h⟩
  · exact ⟨now, h⟩

theorem Db.mem_attempts_flush {now : Time} {saved work : Db} {attempt : PaymentAttempt}
    (h : attempt ∈ (Db.flush now saved work).attempts) :
    ∃ row ∈ work.attempts, ∃ stamp, attempt = { row with updatedAt := stamp } := by
  obtain ⟨row, hrow, rfl⟩ := List.mem_map.1 h
  exact ⟨row, hrow, Db.onUpdate_attempt now saved.attempts row⟩

/-- What does not look at the timestamps of attempts finds them as before the flush. -/
theorem Db.map_attempts_flush {β : Type} (now : Time) (saved work : Db) {f : PaymentAttempt → β}
    (hf : ∀ row stamp, f { row with updatedAt := stamp } = f row) :
    (Db.flush now saved work).attempts.map f = work.attempts.map f := by
  unfold Db.flush
  dsimp only
  rw [List.map_map]
  refine List.map_congr_left fun row _ => ?_
  obtain ⟨stamp, heq⟩ := Db.onUpdate_attempt now saved.attempts row
  rw [Function.comp_apply, heq, hf]

/-- The attempt a flush writes: the session's row, but for the timestamp. -/
theorem Db.attempt?_flush (now : Time) (saved work : Db) (id : Nat) :
    ∃ stamp : PaymentAttempt → Time, (Db.flush now saved work).attempt? id =
      (work.attempt? id).map fun r => { r with updatedAt := stamp r } := by
  refine ⟨fun r => (Db.onUpdate PaymentAttempt.updatedAt (fun u r => { r with updatedAt := u }) now saved.attempts
    r).updatedAt, ?_⟩
  have hrow : ∀ r : PaymentAttempt,
      Db.onUpdate PaymentAttempt.updatedAt (fun u r => { r with updatedAt := u }) now saved.attempts r =
        { r with updatedAt := (Db.onUpdate PaymentAttempt.updatedAt (fun u r => { r with updatedAt := u }) now
          saved.attempts r).updatedAt } := by
    intro r
    obtain ⟨stamp, h⟩ := Db.onUpdate_attempt now saved.attempts r
    rw [h]
  unfold Db.flush Db.attempt?
  rw [get?_map]
  · congr 1
    funext r
    exact hrow r
  · intro r
    rw [hrow r]; rfl

/-! ### The core of the rows -/

/-- The rows without the bookkeeping of requests and tasks: jobs, backups, outbox, payment events and audit entries. -/
def Db.core (db : Db) : Db := { db with jobs := [], backups := [], outbox := [], paymentEvents := [], auditLogs := [] }

theorem Db.tenants_of_core {db db' : Db} (h : db'.core = db.core) : db'.tenants = db.tenants :=
  show db'.core.tenants = db.core.tenants from congrArg Db.tenants h

theorem Db.attempts_of_core {db db' : Db} (h : db'.core = db.core) : db'.attempts = db.attempts :=
  show db'.core.attempts = db.core.attempts from congrArg Db.attempts h

theorem Db.invoices_of_core {db db' : Db} (h : db'.core = db.core) : db'.invoices = db.invoices :=
  show db'.core.invoices = db.core.invoices from congrArg Db.invoices h

theorem Db.accounts_of_core {db db' : Db} (h : db'.core = db.core) : db'.accounts = db.accounts :=
  show db'.core.accounts = db.core.accounts from congrArg Db.accounts h

theorem Db.subscriptions_of_core {db db' : Db} (h : db'.core = db.core) : db'.subscriptions = db.subscriptions :=
  show db'.core.subscriptions = db.core.subscriptions from congrArg Db.subscriptions h

theorem Db.exceptions_of_core {db db' : Db} (h : db'.core = db.core) : db'.exceptions = db.exceptions :=
  show db'.core.exceptions = db.core.exceptions from congrArg Db.exceptions h

theorem Db.core_flush {now : Time} {saved work c : Db} (hs : saved.core = c) (hw : work.core = c) :
    (Db.flush now saved work).core = c := by
  have h : work.core = saved.core := hw.trans hs.symm
  rw [Db.flush_of_eq (Db.tenants_of_core h) (Db.attempts_of_core h)]
  exact hw

/-- What a program that keeps the books cannot break: a property of the core of the rows that survives a flush, and a
property of the queue that survives the tasks in `Q`. -/
structure Frame (Q : Task → Prop) (J : Db → Prop) (R : List Task → Prop) : Prop where
  core : ∀ db db', db'.core = db.core → J db → J db'
  flush : ∀ now saved work, J saved → J work → J (Db.flush now saved work)
  queue : ∀ q task, Q task → R q → R (q ++ [task])

theorem Frame.ofCore (c : Db) : Frame (fun _ => True) (fun db => db.core = c) fun _ => True where
  core _ _ h hc := h.trans hc
  flush _ _ _ hs hw := Db.core_flush hs hw
  queue _ _ _ _ := trivial

theorem Frame.ofQueue (q : List Task) : Frame (fun _ => False) (fun _ => True) fun q' => q' = q where
  core _ _ _ _ := trivial
  flush _ _ _ _ _ := trivial
  queue _ _ h _ := h.elim

/-- A program that touches the core of the rows in nothing and puts only tasks in `Q` on the queue. -/
def Bookkeeping {α : Type} (Q : Task → Prop) (p : Proc α) : Prop := ∀ J R, Frame Q J R → Keeps (Rows J R) p

namespace Bookkeeping

variable {α β : Type} {Q : Task → Prop}

theorem bind {p : Proc α} {f : α → Proc β} (hp : Bookkeeping Q p) (hf : ∀ a, Bookkeeping Q (f a)) :
    Bookkeeping Q (p >>= f) := fun J R hF => Keeps.bind (hp J R hF) fun a => hf a J R hF

theorem pure (a : α) : Bookkeeping Q (pure a : Proc α) := fun _ _ _ => Keeps.pure a

theorem raise (e : PyError) : Bookkeeping Q (raise e : Proc α) := fun _ _ _ => Keeps.raise e

theorem attempt {p : Proc α} {handler : PyError → Proc α} (hp : Bookkeeping Q p)
    (hh : ∀ e, Bookkeeping Q (handler e)) : Bookkeeping Q (attempt p handler) :=
  fun J R hF => Keeps.attempt (hp J R hF) fun e => hh e J R hF

theorem read : Bookkeeping Q (read : Proc Db) := fun _ _ _ => Keeps.read

theorem now : Bookkeeping Q (now : Proc Nat) := fun _ _ _ => Keeps.now

theorem utcnow (env : Env) : Bookkeeping Q (utcnow env) := bind now fun _ => pure _

theorem modify {f : Db → Db} (hf : ∀ db, (f db).core = db.core) : Bookkeeping Q (modify f : Proc Unit) :=
  fun _ _ hF => Keeps.modify fun db => hF.core db (f db) (hf db)

theorem commit (env : Env) : Bookkeeping Q (commit env) :=
  fun _ _ hF => Keeps.commit fun _ _ _ hx hy => hF.flush _ _ _ hx hy

theorem rollback : Bookkeeping Q (rollback : Proc Unit) := fun _ _ _ => Keeps.rollback

theorem enqueue (env : Env) {task : Task} (hQ : Q task) : Bookkeeping Q (enqueue env task) := by
  refine fun J R hF => Keeps.call fun t o a o' ho h => ?_
  split at h
  · cases h
  · cases h
    exact hF.queue o task hQ ho

theorem change {env : Env} {f : Time → PlatformErpClient → Db → Except PyError (α × Db)}
    (hf : ∀ now client db a db', f now client db = .ok (a, db') → db'.core = db.core) :
    Bookkeeping Q (change env f) :=
  bind now fun _ _ _ hF => Keeps.body fun db a db' h hok => hF.core db db' (hf _ _ db a db' hok) h

theorem recordAuditEvent (env : Env) (action resource : String) (id : Option Nat) :
    Bookkeeping Q (recordAuditEvent env action resource id) :=
  bind (utcnow env) fun _ => bind (modify fun _ => rfl) fun _ => commit env

/-- Bookkeeping keeps the core of a session that had nothing uncommitted but books. -/
theorem core {p : Proc α} (hp : Bookkeeping (fun _ => True) p) {s : DbSession} {c : Db} (hw : s.work.core = c)
    (hs : s.saved.core = c) : (p s).2.work.core = c ∧ (p s).2.saved.core = c := by
  have h := Keeps.apply (hp _ _ (Frame.ofCore c)) ⟨hw, hs, trivial⟩
  exact ⟨h.1, h.2.1⟩

theorem mono {Q' : Task → Prop} {p : Proc α} (hp : Bookkeeping Q p) (h : ∀ task, Q task → Q' task) :
    Bookkeeping Q' p := fun J R hF => hp J R ⟨hF.core, hF.flush, fun q task hQ => hF.queue q task (h task hQ)⟩

/-- Bookkeeping that puts no task on the queue leaves the queue, and the core. -/
theorem idle {p : Proc α} (hp : Bookkeeping (fun _ => False) p) {s : DbSession} {c : Db} (hw : s.work.core = c)
    (hs : s.saved.core = c) : (p s).2.saved.core = c ∧ (p s).2.outside = s.outside := by
  have houtside := Keeps.apply (hp _ _ (Frame.ofQueue s.outside)) ⟨trivial, trivial, rfl⟩
  exact ⟨((hp.mono fun _ h => h.elim).core hw hs).2, houtside.2.2⟩

end Bookkeeping

/-! ### A change, a commit and what follows -/

@[simp] theorem utcnow_apply (env : Env) (s : DbSession) : utcnow env s = (.ok (env.clock s.tick), s) := rfl

theorem change_apply {α : Type} (env : Env) (f : Time → PlatformErpClient → Db → Except PyError (α × Db))
    (s : DbSession) : change env f s = match f (env.clock s.tick) (env.erp s.tick) s.work with
      | .ok (a, db) => (.ok a, { s with work := db })
      | .error e => (.error e, s) := by
  unfold change
  rw [bind_ok (now_apply s)]
  unfold body
  split <;> simp_all

theorem change_ok {α : Type} {env : Env} {f : Time → PlatformErpClient → Db → Except PyError (α × Db)} {s : DbSession}
    {a : α} {db : Db} (h : f (env.clock s.tick) (env.erp s.tick) s.work = .ok (a, db)) :
    change env f s = (.ok a, { s with work := db }) := by
  rw [change_apply, h]

theorem change_error {α : Type} {env : Env} {f : Time → PlatformErpClient → Db → Except PyError (α × Db)}
    {s : DbSession} {e : PyError} (h : f (env.clock s.tick) (env.erp s.tick) s.work = .error e) :
    change env f s = (.error e, s) := by
  rw [change_apply, h]

theorem change_bind {α β : Type} (env : Env) (f : Time → PlatformErpClient → Db → Except PyError (α × Db))
    (g : α → Proc β) (s : DbSession) :
    (change env f >>= g) s = match f (env.clock s.tick) (env.erp s.tick) s.work with
      | .ok (a, db) => g a { s with work := db }
      | .error e => (.error e, s) := by
  rw [bind_apply, change_apply]
  cases f (env.clock s.tick) (env.erp s.tick) s.work with
  | ok r => rfl
  | error e => rfl

theorem commit_apply (env : Env) (s : DbSession) :
    commit env s = if env.commitFails s.tick then
        (.error .operationalError, { s with work := s.saved, tick := s.tick + 1 })
      else
        (.ok (), { s with
          work := Db.flush (env.clock s.tick) s.saved s.work, saved := Db.flush (env.clock s.tick) s.saved s.work
          tick := s.tick + 1 }) := by
  unfold commit
  split
  · rename_i h
    exact Session.Proc.commit_error (by simp [h])
  · rename_i h
    exact Session.Proc.commit_ok (by simp [h])

theorem commit_bind {β : Type} (env : Env) (g : Unit → Proc β) (s : DbSession) :
    (commit env >>= g) s = if env.commitFails s.tick then
        (.error .operationalError, { s with work := s.saved, tick := s.tick + 1 })
      else
        g () { s with
          work := Db.flush (env.clock s.tick) s.saved s.work, saved := Db.flush (env.clock s.tick) s.saved s.work
          tick := s.tick + 1 } := by
  rw [bind_apply, commit_apply]
  split
  · rename_i h
    split at h <;> simp_all
  · rename_i h
    split at h <;> simp_all

theorem commit_bind_lost {β : Type} {env : Env} (g : Unit → Proc β) {s : DbSession}
    (h : env.commitFails s.tick = true) :
    (commit env >>= g) s = (.error .operationalError, { s with work := s.saved, tick := s.tick + 1 }) := by
  rw [commit_bind, if_pos h]

theorem commit_bind_done {β : Type} {env : Env} (g : Unit → Proc β) {s : DbSession}
    (h : env.commitFails s.tick = false) :
    (commit env >>= g) s = g () { s with
      work := Db.flush (env.clock s.tick) s.saved s.work, saved := Db.flush (env.clock s.tick) s.saved s.work
      tick := s.tick + 1 } := by
  rw [commit_bind, if_neg (by simp [h])]

theorem enqueue_apply (env : Env) (task : Task) (s : DbSession) :
    enqueue env task s = if env.queueFails s.tick then
        (.error (.queueError "redis unavailable"), { s with tick := s.tick + 1 })
      else (.ok s.outside.length, { s with outside := s.outside ++ [task], tick := s.tick + 1 }) := by
  cases h : env.queueFails s.tick <;> simp [enqueue, Proc.call, h]

end ControlPlane
