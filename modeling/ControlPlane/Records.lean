import ControlPlane.Base.Growth
import ControlPlane.Base.Runs
import ControlPlane.Books

/-!
# Queue, jobs and records over whole runs

Two invariants of the books.  `Books.Consistent` ties the queue to the jobs: what is on the queue is there for a job of its
tenant, and a job that names a queue entry is the one the entry is for.  `Books.Grown` compares two moments of a run: the
records are only added to, a job keeps what it was created for, and an outbox row that was processed is never touched again.
The backups are not among what is kept: `cleanup_expired_backups` deletes them.
-/

namespace ControlPlane

open Table Session Runs

/-- The job of a task is there. -/
def Books.Supports (b : Books) (task : Task) : Prop := ∃ job, get? b.jobs task.jobId = some job ∧ task.For job

/-- The books and the queue belong together. -/
structure Books.Consistent (b : Books) (q : List Task) : Prop where
  jobIds : (b.jobs.map Job.id).Nodup
  outboxIds : (b.outbox.map PaymentEventOutbox.id).Nodup
  dedupKeys : (b.outbox.map PaymentEventOutbox.dedupKey).Nodup
  queued : ∀ task ∈ q, b.Supports task
  linked : ∀ job ∈ b.jobs, ∀ entry, job.rqJobId = some entry → ∃ task, q[entry]? = some task ∧ task.jobId = job.id
  manifests : ∀ backup ∈ b.backups, ∃ job, get? b.jobs backup.jobId = some job ∧ job.tenantId = backup.tenantId ∧
    job.type = .backup

/-- What a job keeps: its tenant, its type, the time it was created, its queue entry once it has one, and that it is no
longer waiting once a worker has taken it up. -/
structure Job.Kept (job job' : Job) : Prop where
  id : job'.id = job.id
  tenantId : job'.tenantId = job.tenantId
  type : job'.type = job.type
  createdAt : job'.createdAt = job.createdAt
  rqJobId : ∀ entry, job.rqJobId = some entry → job'.rqJobId = some entry
  status : job.status ≠ .queued → job'.status ≠ .queued

theorem Job.Kept.refl (job : Job) : job.Kept job := ⟨rfl, rfl, rfl, rfl, fun _ h => h, fun h => h⟩

theorem Job.Kept.trans (a b c : Job) (h : a.Kept b) (h' : b.Kept c) : a.Kept c where
  id := h'.id.trans h.id
  tenantId := h'.tenantId.trans h.tenantId
  type := h'.type.trans h.type
  createdAt := h'.createdAt.trans h.createdAt
  rqJobId entry he := h'.rqJobId entry (h.rqJobId entry he)
  status hs := h'.status (h.status hs)

/-- What an outbox row keeps: the event it was filed for, the attempts made so far, and everything once it is processed. -/
structure PaymentEventOutbox.Kept (row row' : PaymentEventOutbox) : Prop where
  event : row' = { row with
    status := row'.status, attempts := row'.attempts, lastError := row'.lastError, processedAt := row'.processedAt }
  attempts : row.attempts ≤ row'.attempts
  processed : row.status = .processed → row' = row

theorem PaymentEventOutbox.Kept.refl (row : PaymentEventOutbox) : row.Kept row := ⟨rfl, Nat.le_refl _, fun _ => rfl⟩

theorem PaymentEventOutbox.Kept.trans (a b c : PaymentEventOutbox) (h : a.Kept b) (h' : b.Kept c) : a.Kept c where
  event := by
    have hb := h.event
    rw [h'.event, hb]
  attempts := Nat.le_trans h.attempts h'.attempts
  processed ha := by
    have hb := h.processed ha
    rw [hb] at h'
    exact h'.processed ha

theorem PaymentEventOutbox.Marked.kept {row row' : PaymentEventOutbox} (h : row.Marked row') : row.Kept row' :=
  ⟨h.rest, h.attempts, fun hrow => absurd hrow h.pending⟩

/-- The jobs, the records and the queue have only been added to. -/
structure Books.Grown (b₀ : Books) (q₀ : List Task) (b : Books) (q : List Task) : Prop where
  queue : q₀ <+: q
  jobs : Grows Job.Kept b₀.jobs b.jobs
  outbox : Grows PaymentEventOutbox.Kept b₀.outbox b.outbox
  paymentEvents : b₀.paymentEvents <+: b.paymentEvents
  auditLogs : b₀.auditLogs <+: b.auditLogs

theorem Books.Grown.refl (b : Books) (q : List Task) : b.Grown q b q :=
  ⟨List.prefix_rfl, .refl Job.Kept.refl _, .refl PaymentEventOutbox.Kept.refl _, List.prefix_rfl, List.prefix_rfl⟩

/-! ### The single writes -/

namespace Books.Consistent

variable {b : Books} {q : List Task}

/-- Jobs that keep what they were created for support the same tasks. -/
theorem supports_of_grows {jobs : List Job} (hgrows : Grows Job.Kept b.jobs jobs)
    (hids : (jobs.map Job.id).Nodup) {task : Task} (htask : b.Supports task) : Supports { b with jobs := jobs } task := by
  obtain ⟨job, hjob, hfor⟩ := htask
  obtain ⟨job', hjob', hkept⟩ := hgrows.get? (fun _ _ hk => hk.id) hids hjob
  exact ⟨job', hjob', hfor.jobId.trans hkept.id.symm, hfor.tenantId.trans hkept.tenantId.symm,
    hfor.type.trans hkept.type.symm⟩

/-- New jobs and old ones that keep what they were created for, on a longer queue. -/
theorem of_grows (h : Consistent b q) {jobs : List Job} {q' : List Task} (hgrows : Grows Job.Kept b.jobs jobs)
    (hids : (jobs.map Job.id).Nodup) (hqueued : ∀ task ∈ q', task ∈ q ∨ Supports { b with jobs := jobs } task)
    (hlinked : ∀ job ∈ jobs, ∀ entry, job.rqJobId = some entry → ∃ task, q'[entry]? = some task ∧ task.jobId = job.id) :
    Consistent { b with jobs := jobs } q' where
  jobIds := hids
  outboxIds := h.outboxIds
  dedupKeys := h.dedupKeys
  queued task htask := by
    rcases hqueued task htask with hold | hnew
    · exact supports_of_grows hgrows hids (h.queued task hold)
    · exact hnew
  linked := hlinked
  manifests backup hbackup := by
    obtain ⟨job, hjob, htenant, htype⟩ := h.manifests backup hbackup
    obtain ⟨job', hjob', hkept⟩ := hgrows.get? (fun _ _ hk => hk.id) hids hjob
    exact ⟨job', hjob', hkept.tenantId.trans htenant, hkept.type.trans htype⟩

theorem linked_append (h : Consistent b q) (task : Task) {job : Job} (hjob : job ∈ b.jobs) {entry : Nat}
    (hentry : job.rqJobId = some entry) : ∃ t, (q ++ [task])[entry]? = some t ∧ t.jobId = job.id := by
  obtain ⟨t, ht, hid⟩ := h.linked job hjob entry hentry
  obtain ⟨hlt, -⟩ := List.getElem?_eq_some_iff.1 ht
  rw [List.getElem?_append_left hlt]
  exact ⟨t, ht, hid⟩

/-- A job written over its old self. -/
theorem put (h : Consistent b q) {job job' : Job} (hrow : get? b.jobs job.id = some job) (hkept : job.Kept job') :
    Grows Job.Kept b.jobs (Table.put b.jobs job') ∧ ((Table.put b.jobs job').map Job.id).Nodup := by
  refine ⟨(Grows.refl Job.Kept.refl b.jobs).put Job.Kept.trans Job.Kept.refl h.jobIds ?_ hkept, ?_⟩
  · show get? b.jobs job'.id = some job
    rw [hkept.id]
    exact hrow
  · exact (map_key_put b.jobs job').symm ▸ h.jobIds

end Books.Consistent

/-- Every write of the books and of the queue keeps them together. -/
theorem Books.consistent_kept (C : Nat → Prop) : Books.Kept C Books.Consistent where
  ids b q hb := hb.jobIds
  outboxIds b q hb := hb.outboxIds
  audited b q row hb hid := ⟨hb.jobIds, hb.outboxIds, hb.dedupKeys, hb.queued, hb.linked, hb.manifests⟩
  recorded b q row hb hid := ⟨hb.jobIds, hb.outboxIds, hb.dedupKeys, hb.queued, hb.linked, hb.manifests⟩
  jobAdded b q job hb hid hnone hqueued hjob := by
    have hgrows := (Grows.refl Job.Kept.refl b.jobs).insert job
    refine hb.of_grows hgrows (nodup_insert_fresh hb.jobIds hid) (fun task htask => Or.inl htask) ?_
    intro other hother entry hentry
    rcases mem_insert.1 hother with hold | rfl
    · exact hb.linked other hold entry hentry
    · rw [hnone] at hentry
      cases hentry
  enqueued b q job task hb hrow hfor hjob := by
    refine hb.of_grows (.refl Job.Kept.refl b.jobs) hb.jobIds (fun t ht => ?_) fun other hother entry hentry => ?_
    · rcases List.mem_append.1 ht with hold | hnew
      · exact Or.inl hold
      · rw [List.mem_singleton.1 hnew]
        refine Or.inr ⟨job, ?_, hfor⟩
        rw [hfor.jobId]
        exact hrow
    · exact hb.linked_append task hother hentry
  linked b q job task hb hrow hfor hnone hjob := by
    have hkept : job.Kept { job with rqJobId := some q.length } := by
      refine ⟨rfl, rfl, rfl, rfl, fun entry he => ?_, fun hs => hs⟩
      rw [hnone] at he
      cases he
    obtain ⟨hgrows, hids⟩ := hb.put hrow hkept
    refine hb.of_grows hgrows hids (fun t ht => ?_) fun other hother entry hentry => ?_
    · rcases List.mem_append.1 ht with hold | hnew
      · exact Or.inl hold
      · rw [List.mem_singleton.1 hnew]
        refine Or.inr ⟨{ job with rqJobId := some q.length }, ?_, hfor.jobId, hfor.tenantId, hfor.type⟩
        rw [hfor.jobId]
        exact get?_put_self (r := { job with rqJobId := some q.length }) hrow
    · rcases mem_put hother with rfl | hold
      · cases hentry
        exact ⟨task, by simp, hfor.jobId⟩
      · exact hb.linked_append task hold hentry
  worked b q task job job' hb htask hrow hjob := by
    have hid : job.id = task.jobId := key_of_get? hrow
    rw [← hid] at hrow
    have hkept : job.Kept job' := by
      refine ⟨hjob.id, hjob.tenantId, hjob.type, hjob.createdAt, fun entry he => ?_, fun _ => hjob.status⟩
      rw [hjob.rqJobId]
      exact he
    obtain ⟨hgrows, hids⟩ := hb.put hrow hkept
    refine hb.of_grows hgrows hids (fun t ht => Or.inl ht) fun other hother entry hentry => ?_
    rcases mem_put hother with rfl | hold
    · rw [hjob.rqJobId] at hentry
      rw [hjob.id]
      exact hb.linked job (mem_of_get? hrow) entry hentry
    · exact hb.linked other hold entry hentry
  manifest b q jobId tenantId row hb htask hid hjob htenant := by
    refine ⟨hb.jobIds, hb.outboxIds, hb.dedupKeys, hb.queued, hb.linked, fun backup hbackup => ?_⟩
    rcases mem_insert.1 hbackup with hold | rfl
    · exact hb.manifests backup hold
    · obtain ⟨job, hrow, hfor⟩ := hb.queued _ htask
      rw [hjob, htenant]
      exact ⟨job, hrow, hfor.tenantId.symm, hfor.type.symm⟩
  filed b q row hb hid hnew hpending := by
    refine ⟨hb.jobIds, nodup_insert_fresh hb.outboxIds hid, ?_, hb.queued, hb.linked, hb.manifests⟩
    show ((insert b.outbox row).map PaymentEventOutbox.dedupKey).Nodup
    rw [Table.insert, List.map_append, List.nodup_append]
    refine ⟨hb.dedupKeys, List.nodup_singleton _, ?_⟩
    intro k hk k' hk'
    obtain ⟨o, ho, rfl⟩ := List.mem_map.1 hk
    rw [List.mem_singleton.1 hk']
    exact hnew o ho
  marked b q row row' hb hrow hmarked := by
    refine ⟨hb.jobIds, (map_key_put b.outbox row').symm ▸ hb.outboxIds, ?_, hb.queued, hb.linked, hb.manifests⟩
    have hcolumn : (put b.outbox row').map PaymentEventOutbox.dedupKey = b.outbox.map PaymentEventOutbox.dedupKey := by
      unfold put
      rw [List.map_map]
      refine List.map_congr_left fun o ho => ?_
      show PaymentEventOutbox.dedupKey (if key o = key row' then row' else o) = o.dedupKey
      split
      · rename_i hsame
        have hfound := get?_of_mem hb.outboxIds ho
        have hkeys : o.id = row.id := Eq.trans hsame hmarked.id
        rw [show key o = row.id from hkeys, hrow] at hfound
        cases hfound
        exact hmarked.dedupKey
      · rfl
    show ((put b.outbox row').map PaymentEventOutbox.dedupKey).Nodup
    rw [hcolumn]
    exact hb.dedupKeys

/-- Every write of consistent books only adds to them. -/
theorem Books.grown_kept (C : Nat → Prop) (b₀ : Books) (q₀ : List Task) :
    Books.Kept C fun b q => b.Consistent q ∧ b₀.Grown q₀ b q where
  ids b q hb := hb.1.jobIds
  outboxIds b q hb := hb.1.outboxIds
  audited b q row hb hid := by
    obtain ⟨hC, hG⟩ := hb
    refine ⟨(Books.consistent_kept C).audited b q row hC hid, ?_⟩
    exact ⟨hG.queue, hG.jobs, hG.outbox, hG.paymentEvents, hG.auditLogs.trans (List.prefix_append _ _)⟩
  recorded b q row hb hid := by
    obtain ⟨hC, hG⟩ := hb
    refine ⟨(Books.consistent_kept C).recorded b q row hC hid, ?_⟩
    exact ⟨hG.queue, hG.jobs, hG.outbox, hG.paymentEvents.trans (List.prefix_append _ _), hG.auditLogs⟩
  jobAdded b q job hb hid hnone hqueued hjob := by
    obtain ⟨hC, hG⟩ := hb
    refine ⟨(Books.consistent_kept C).jobAdded b q job hC hid hnone hqueued hjob, ?_⟩
    exact ⟨hG.queue, hG.jobs.insert job, hG.outbox, hG.paymentEvents, hG.auditLogs⟩
  enqueued b q job task hb hrow hfor hjob := by
    obtain ⟨hC, hG⟩ := hb
    refine ⟨(Books.consistent_kept C).enqueued b q job task hC hrow hfor hjob, ?_⟩
    exact ⟨hG.queue.trans (List.prefix_append _ _), hG.jobs, hG.outbox, hG.paymentEvents, hG.auditLogs⟩
  linked b q job task hb hrow hfor hnone hjob := by
    obtain ⟨hC, hG⟩ := hb
    refine ⟨(Books.consistent_kept C).linked b q job task hC hrow hfor hnone hjob, ?_⟩
    have hkept : job.Kept { job with rqJobId := some q.length } := by
      refine ⟨rfl, rfl, rfl, rfl, fun entry he => ?_, fun hs => hs⟩
      rw [hnone] at he
      cases he
    have hjobs : Grows Job.Kept b₀.jobs (put b.jobs { job with rqJobId := some q.length }) :=
      hG.jobs.put Job.Kept.trans Job.Kept.refl hC.jobIds hrow hkept
    exact ⟨hG.queue.trans (List.prefix_append _ _), hjobs, hG.outbox, hG.paymentEvents, hG.auditLogs⟩
  worked b q task job job' hb htask hrow hjob := by
    obtain ⟨hC, hG⟩ := hb
    refine ⟨(Books.consistent_kept C).worked b q task job job' hC htask hrow hjob, ?_⟩
    have hkept : job.Kept job' := by
      refine ⟨hjob.id, hjob.tenantId, hjob.type, hjob.createdAt, fun entry he => ?_, fun _ => hjob.status⟩
      rw [hjob.rqJobId]
      exact he
    have hrow' : get? b.jobs (key job') = some job := by
      rw [show key job' = task.jobId from hjob.id.trans (key_of_get? hrow)]
      exact hrow
    have hjobs := hG.jobs.put Job.Kept.trans Job.Kept.refl hC.jobIds hrow' hkept
    exact ⟨hG.queue, hjobs, hG.outbox, hG.paymentEvents, hG.auditLogs⟩
  manifest b q jobId tenantId row hb htask hid hjob htenant := by
    obtain ⟨hC, hG⟩ := hb
    refine ⟨(Books.consistent_kept C).manifest b q jobId tenantId row hC htask hid hjob htenant, ?_⟩
    exact ⟨hG.queue, hG.jobs, hG.outbox, hG.paymentEvents, hG.auditLogs⟩
  filed b q row hb hid hnew hpending := by
    obtain ⟨hC, hG⟩ := hb
    refine ⟨(Books.consistent_kept C).filed b q row hC hid hnew hpending, ?_⟩
    exact ⟨hG.queue, hG.jobs, hG.outbox.insert row, hG.paymentEvents, hG.auditLogs⟩
  marked b q row row' hb hrow hmarked := by
    obtain ⟨hC, hG⟩ := hb
    refine ⟨(Books.consistent_kept C).marked b q row row' hC hrow hmarked, ?_⟩
    have hrow' : get? b.outbox (key row') = some row := by
      rw [show key row' = row.id from hmarked.id]
      exact hrow
    have houtbox := hG.outbox.put PaymentEventOutbox.Kept.trans PaymentEventOutbox.Kept.refl hC.outboxIds hrow'
      hmarked.kept
    exact ⟨hG.queue, hG.jobs, houtbox, hG.paymentEvents, hG.auditLogs⟩

/-! ### Runs -/

/-- The queue, the running tasks and the books belong together. -/
structure World.Consistent (w : World) : Prop where
  books : w.db.books.Consistent w.queue
  running : ∀ running ∈ w.running, running.task ∈ w.queue

/-- What has happened between two worlds of a run was only added to the books and to the queue. -/
def World.Grown (w w' : World) : Prop := w.db.books.Grown w.queue w'.db.books w'.queue

/-- A running task is one that was running before, or one that was taken from the queue. -/
theorem running_step {w : World} {e : Event} {running : RunningTask} (h : running ∈ (step w e).running) :
    (∃ old ∈ w.running, running.task = old.task) ∨ running.task ∈ w.queue := by
  unfold step at h
  cases hop : e.op with
  | startTask entry =>
    rw [hop] at h
    dsimp only at h
    split at h
    · exact Or.inl ⟨running, h, rfl⟩
    · rename_i task htask
      rcases List.mem_append.1 h with hold | hnew
      · exact Or.inl ⟨running, hold, rfl⟩
      · rw [List.mem_singleton.1 hnew]
        exact Or.inr (List.mem_of_getElem? htask)
  | taskPhase index outside =>
    rw [hop] at h
    dsimp only at h
    unfold advanceTask at h
    cases hrow : w.running[index]? with
    | none =>
      rw [hrow] at h
      exact Or.inl ⟨running, h, rfl⟩
    | some old =>
      rw [hrow] at h
      dsimp only at h
      split at h
      · rcases List.mem_or_eq_of_mem_set h with hrest | rfl
        · exact Or.inl ⟨running, hrest, rfl⟩
        · exact Or.inl ⟨old, List.mem_of_getElem? hrow, rfl⟩
      · exact Or.inl ⟨running, List.mem_of_mem_eraseIdx h, rfl⟩
  | _ =>
    rw [hop] at h
    exact Or.inl ⟨running, h, rfl⟩

/-- A step keeps the books consistent and only adds to them. -/
theorem step_grown {w₀ w : World} (e : Event) (hw : w.Consistent) (hG : w₀.Grown w) :
    (step w e).Consistent ∧ w₀.Grown (step w e) := by
  have hcalls : ∀ call ∈ provisioningCalls w e, call.provisions e.env = true → True := fun _ _ _ => trivial
  obtain ⟨hbooks, hgrown⟩ := step_books (Books.grown_kept (fun _ => True) w₀.db.books w₀.queue) hw.running hcalls
    ⟨hw.books, hG⟩
  obtain ⟨-, hstep⟩ := step_books (Books.grown_kept (fun _ => True) w.db.books w.queue) hw.running hcalls
    ⟨hw.books, .refl _ _⟩
  refine ⟨⟨hbooks, fun running hrunning => ?_⟩, hgrown⟩
  rcases running_step hrunning with ⟨old, hold, htask⟩ | hqueue
  · rw [htask]
    exact hstep.queue.subset (hw.running old hold)
  · exact hstep.queue.subset hqueue

theorem always_grown {w : World} (es : List Event) (hw : w.Consistent) :
    Always step (fun w' => w'.Consistent ∧ w.Grown w') w es :=
  Always.of_invariant (fun _ e h => step_grown e h.1 h.2) ⟨hw, .refl _ _⟩ es

/-- At every moment of every run the queue, the jobs and the running tasks belong together: a queued or running task has
its job, of its tenant and type, a job's queue entry is a task of that job, and no event is filed twice. -/
theorem run_consistent {w : World} (es : List Event) (hw : w.Consistent) : Always step World.Consistent w es :=
  (always_grown es hw).mono fun _ h => h.1

/-- Between any two moments of a run the jobs, the records and the queue are only added to: audit entries and payment events
stay, in their order, a job keeps its tenant, its type and its queue entry, and a processed event stays as it is. -/
theorem records_kept {w : World} (es es' : List Event) (hw : w.Consistent) :
    (run step w es).Grown (run step w (es ++ es')) := by
  have hmiddle : (run step w es).Consistent := (always_grown es hw).last.1
  rw [run_append]
  exact (always_grown es' hmiddle).last.2

namespace Small

theorem world_consistent : world.Consistent := by
  refine ⟨⟨List.nodup_nil, List.nodup_nil, List.nodup_nil, ?_, ?_, ?_⟩, ?_⟩
  · exact fun task htask => by cases htask
  · exact fun job hjob => by cases hjob
  · exact fun backup hbackup => by cases hbackup
  · exact fun running hrunning => by cases hrunning

/-- A tenant is created, pays and is provisioned. -/
def provisioned : List Event := events ([createTenant, webhook .paymentConfirmed "paid"] ++ runTask 0 5)

theorem provisioned_consistent : Always step World.Consistent world provisioned :=
  run_consistent provisioned world_consistent

theorem provisioned_records_kept :
    (run step world provisioned).Grown (run step world (provisioned ++ events [.backupTenant 1])) :=
  records_kept provisioned (events [.backupTenant 1]) world_consistent

/-- The provisioning has its job, which has its queue entry, and has ended. -/
example : (run step world provisioned).db.jobs.map (fun job => (job.type, job.status, job.rqJobId)) =
    [(.create, .succeeded, some 0)] := by decide +kernel

end Small

end ControlPlane
