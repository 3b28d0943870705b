import ControlPlane.Workers.TaskPhases

/-!
# How worker tasks end

A task that is taken from the queue runs phase after phase until a phase hands over to none or raises.  Between two
phases others may do anything to the rows, so a run of a task is a list of turns, each of which brings the rows as its
phase finds them.  The task ends cleanly if its job has then succeeded or failed, and if the tenant's status is left
alone once the task's first transition was refused.

The exception handlers are phases like the others: their commits can fail, and the status they ask for can be refused.
Nobody handles what they raise, so the job stays `running`.
-/

namespace ControlPlane

open Table Session Session.Proc Runs

/-- What one phase of a task meets: the environment, what its outside work gives, and the rows and the queue it
finds. -/
structure Turn where
  env : Env
  outside : Except PyError String
  db : Db
  queue : List Task

/-- A task at work: the phase that comes next, if the task is not over, and the rows as the last phase left them.
`entryRefused` is history: the first transition of the task was refused. -/
structure TaskRun where
  next : Option Phase
  db : Db
  entryRefused : Bool

/-- Whether a phase is the first transition of a task, and refused. -/
def entryRefusal (phase : Phase) (result : Except PyError (Option Phase)) : Bool :=
  match phase, result with
  | .enter, .ok (some .work) => false
  | .enter, .ok _ => true
  | _, _ => false

/-- The phases a task can still come to. -/
def Phase.left : Phase → Nat
  | .begin => 8
  | .enter => 7
  | .work => 6
  | .complete _ => 5
  | .close => 4
  | .failing .. => 3
  | .marking _ => 2
  | .closing _ => 1
  | .refused _ => 1

/-- Whether a phase changes the status of its tenant: it asks for another one, which the table and the commit grant. -/
def Phase.moves (phase : Phase) (env : Env) (task : Task) (db : Db) : Prop :=
  ∃ new ∈ phase.movesTo task, ∃ st ∈ db.tenantStatus task.tenantId,
    st ≠ new ∧ Allowed st new ∧ env.commitFails 0 = false

namespace TaskRun

/-- A task that is taken from the queue. -/
def started (db : Db) : TaskRun := ⟨some .begin, db, false⟩

/-- The next phase of a task, on the rows of its turn. -/
def turn (task : Task) (r : TaskRun) (t : Turn) : TaskRun :=
  match r.next with
  | none => r
  | some phase =>
    let p := taskPhase t.env task phase t.outside (opened t.db t.queue)
    ⟨nextPhase p.1, p.2.saved, r.entryRefused || entryRefusal phase p.1⟩

/-- A task that is over has left its job succeeded or failed. -/
def Ended (task : Task) (r : TaskRun) : Prop := r.next = none → r.db.jobEnded task.jobId = true

/-- A turn leaves the tenant's status as it finds it if the task's first transition was refused, be it in this turn. -/
def Kept (task : Task) (r : TaskRun) (t : Turn) : Prop :=
  r.next.isSome = true → (r.turn task t).entryRefused = true →
    (r.turn task t).db.tenantStatus task.tenantId = t.db.tenantStatus task.tenantId

instance (task : Task) (r : TaskRun) : Decidable (r.Ended task) :=
  inferInstanceAs (Decidable (r.next = none → r.db.jobEnded task.jobId = true))

instance (task : Task) (r : TaskRun) (t : Turn) : Decidable (Kept task r t) :=
  inferInstanceAs (Decidable (r.next.isSome = true → (r.turn task t).entryRefused = true →
    (r.turn task t).db.tenantStatus task.tenantId = t.db.tenantStatus task.tenantId))

/-- A run of a task that ends cleanly. -/
structure EndsCleanly (task : Task) (db : Db) (turns : List Turn) : Prop where
  ended : (run (turn task) (started db) turns).Ended task
  kept : Steps (turn task) (Kept task) (started db) turns

/-- What a turn needs: its phase goes through, unless the job is over already; and it moves no tenant once the task's
first transition was refused. -/
structure Sound (task : Task) (r : TaskRun) (t : Turn) : Prop where
  goes : ∀ phase ∈ r.next, phase.GoesThrough t.env task t.outside t.db ∨ t.db.jobEnded task.jobId = true
  stays : r.entryRefused = true → ∀ phase ∈ r.next, ¬phase.moves t.env task t.db

/-! ### A task is over after eight phases at most -/

/-- The phases left when a phase comes next, or none. -/
def leftOf (next : Option Phase) : Nat := next.elim 0 Phase.left

theorem leftOf_lt {phase : Phase} {next : Option Phase} (h : phase.precedes next = true) :
    leftOf next < phase.left := by
  cases phase <;> rcases next with _ | (_ | _ | _ | _ | _ | _ | _ | _ | _) <;>
    simp [Phase.precedes, leftOf, Phase.left] at h ⊢

theorem left_turn (task : Task) (r : TaskRun) (t : Turn) : leftOf (r.turn task t).next ≤ leftOf r.next - 1 := by
  unfold turn
  cases hnext : r.next with
  | none =>
    dsimp only
    rw [hnext]
    exact Nat.zero_le _
  | some phase =>
    dsimp only
    have hleft : leftOf (some phase) = phase.left := rfl
    cases hresult : (taskPhase t.env task phase t.outside (opened t.db t.queue)).1 with
    | error e => exact Nat.zero_le _
    | ok next =>
      have hlt := leftOf_lt (taskPhase_precedes hresult)
      show leftOf next ≤ _
      omega

theorem left_run (task : Task) (r : TaskRun) (turns : List Turn) :
    leftOf (run (turn task) r turns).next ≤ leftOf r.next - turns.length := by
  induction turns generalizing r with
  | nil => exact Nat.le_refl _
  | cons t turns ih =>
    have hturn := left_turn task r t
    have hrest := ih (r.turn task t)
    rw [run_cons, List.length_cons]
    omega

theorem over_of_length {task : Task} {db : Db} {turns : List Turn} (h : 8 ≤ turns.length) :
    (run (turn task) (started db) turns).next = none := by
  have hleft := left_run task (started db) turns
  have hstart : leftOf (started db).next = 8 := rfl
  cases hnext : (run (turn task) (started db) turns).next with
  | none => rfl
  | some phase =>
    rw [hnext] at hleft
    have hpositive : 0 < phase.left := by cases phase <;> exact Nat.succ_pos _
    have hsame : leftOf (some phase) = phase.left := rfl
    omega

/-! ### The job and the tenant, turn by turn -/

theorem turn_of_over (task : Task) {r : TaskRun} (t : Turn) (h : r.next = none) : r.turn task t = r := by
  unfold turn
  rw [h]

theorem turn_of_next (task : Task) {r : TaskRun} (t : Turn) {phase : Phase} (h : r.next = some phase) :
    r.turn task t =
      ⟨nextPhase (taskPhase t.env task phase t.outside (opened t.db t.queue)).1,
        (taskPhase t.env task phase t.outside (opened t.db t.queue)).2.saved,
        r.entryRefused || entryRefusal phase (taskPhase t.env task phase t.outside (opened t.db t.queue)).1⟩ := by
  unfold turn
  rw [h]

/-- A step of a running task in the system is a turn on the committed rows. -/
theorem advanceTask_turn {w : World} {env : Env} {index : Nat} {outside : Except PyError String}
    {running : RunningTask} {r : TaskRun} (hrow : w.running[index]? = some running)
    (hnext : r.next = some running.phase) :
    let r' := r.turn running.task ⟨env, outside, w.db, w.queue⟩
    (advanceTask w env index outside).db = r'.db ∧
      (advanceTask w env index outside).running = match r'.next with
        | some phase => w.running.set index { running with phase := phase }
        | none => w.running.eraseIdx index := by
  intro r'
  have hr' : r' = r.turn running.task ⟨env, outside, w.db, w.queue⟩ := rfl
  rw [turn_of_next _ _ hnext] at hr'
  unfold advanceTask
  rw [hrow, hr']
  refine ⟨rfl, ?_⟩
  dsimp only
  cases (taskPhase env running.task running.phase outside (opened w.db w.queue)).1 with
  | error e => rfl
  | ok next => cases next <;> rfl

/-- A turn that ends the task leaves its job ended exactly when its phase goes through or finds the job over. -/
theorem ended_turn_iff {task : Task} {r : TaskRun} (t : Turn) (h : r.Ended task) :
    (∀ phase ∈ r.next, phase.GoesThrough t.env task t.outside t.db ∨ t.db.jobEnded task.jobId = true) ↔
      (r.turn task t).Ended task := by
  cases hnext : r.next with
  | none =>
    rw [turn_of_over task t hnext]
    exact iff_of_true (fun _ h => by cases h) h
  | some phase =>
    rw [turn_of_next task t hnext]
    unfold Ended
    dsimp only
    by_cases hgoes : phase.GoesThrough t.env task t.outside t.db
    · refine iff_of_true (fun _ h => by cases h; exact Or.inl hgoes) fun hover => ?_
      rcases taskPhase_goes t.queue hgoes with hsome | hended
      · rw [hover] at hsome
        cases hsome
      · exact hended
    · obtain ⟨hover, hsame⟩ := taskPhase_stops t.queue hgoes
      rw [hsame]
      constructor
      · exact fun h _ => (h phase rfl).resolve_left hgoes
      · exact fun h _ hphase => by cases hphase; exact Or.inr (h hover)

/-- A phase leaves the status it finds unless it moves the tenant. -/
theorem status_kept_iff {env : Env} {task : Task} {phase : Phase} {outside : Except PyError String} {db : Db}
    (queue : List Task) :
    (taskPhase env task phase outside (opened db queue)).2.saved.tenantStatus task.tenantId =
      db.tenantStatus task.tenantId ↔ ¬phase.moves env task db := by
  unfold Phase.moves
  cases hasks : phase.movesTo task with
  | none =>
    rw [taskPhase_status hasks]
    exact iff_of_true rfl (by simp)
  | some new =>
    cases hst : db.tenantStatus task.tenantId with
    | none =>
      obtain ⟨customerId, stamp, hsaved⟩ := taskPhase_saved outside (opened db queue) hasks
      rw [hsaved, moveTenant_missing customerId stamp (s := opened db queue) (Option.map_eq_none_iff.1 hst)]
      exact iff_of_true hst (by simp)
    | some st =>
      rw [taskPhase_moved outside queue hasks hst]
      by_cases hmoved : Allowed st new ∧ env.commitFails 0 = false
      · rw [if_pos hmoved]
        simp [hmoved.1, hmoved.2, eq_comm]
      · rw [if_neg hmoved]
        refine iff_of_true rfl ?_
        rintro ⟨new', hnew, st', hst', -, hallowed⟩
        cases hnew
        cases hst'
        exact hmoved hallowed

/-- A first transition that is refused moves no tenant. -/
theorem not_moves_of_entryRefusal {env : Env} {task : Task} {phase : Phase} {outside : Except PyError String} {db : Db}
    {queue : List Task} (h : entryRefusal phase (taskPhase env task phase outside (opened db queue)).1 = true) :
    ¬phase.moves env task db := by
  rintro ⟨new, hasks, st, hst, -, hallowed, hcommit⟩
  cases phase with
  | enter =>
    have hstatus : task.enterStatus = some new := hasks
    obtain ⟨tenant, htenant, rfl⟩ := Option.map_eq_some_iff.1 hst
    obtain ⟨s', hs', -⟩ := moveTenant_moved none false (s := opened db queue) htenant hallowed hcommit
    have hwork : (taskPhase env task .enter outside (opened db queue)).1 = .ok (some .work) := by
      unfold taskPhase
      dsimp only
      rw [hstatus, bind_ok hs']
      rfl
    rw [hwork] at h
    cases h
  | _ => cases h

/-- A turn leaves the tenant of a refused task alone exactly when its phase does not move it. -/
theorem kept_turn_iff (task : Task) (r : TaskRun) (t : Turn) :
    Kept task r t ↔ (r.entryRefused = true → ∀ phase ∈ r.next, ¬phase.moves t.env task t.db) := by
  unfold Kept
  cases hnext : r.next with
  | none => exact iff_of_true (fun h => by cases h) fun _ _ h => by cases h
  | some phase =>
    rw [turn_of_next task t hnext]
    dsimp only
    rw [status_kept_iff]
    cases hrefused : r.entryRefused with
    | false =>
      rw [Bool.false_or]
      exact iff_of_true (fun _ h => not_moves_of_entryRefusal h) fun h => by cases h
    | true =>
      constructor
      · exact fun h _ _ hphase => by cases hphase; exact h rfl rfl
      · exact fun h _ _ => h rfl phase rfl

/-- The job of a task has ended when the task is over exactly when each of its phases goes through or finds the job
over. -/
theorem ended_run_iff (task : Task) (db : Db) (turns : List Turn) :
    Steps (turn task) (fun r t => ∀ phase ∈ r.next,
      phase.GoesThrough t.env task t.outside t.db ∨ t.db.jobEnded task.jobId = true) (started db) turns ↔
      (run (turn task) (started db) turns).Ended task := by
  refine steps_iff_last (J := fun _ => True) (fun _ _ h => h) (fun r t _ h => ended_turn_iff t h) ?_ trivial ?_
  · intro r t _ hno
    obtain ⟨hover, hleft⟩ := Classical.not_imp.1 hno
    rw [turn_of_over task t hover]
    exact hno
  · exact fun h => by cases h

end TaskRun

open TaskRun in
/-- A task is over after eight phases at most; and it ends cleanly exactly when every phase it comes to finds its rows,
can commit and, in an exception handler, is granted the status it asks for, unless the job is over already, and when no
phase moves the tenant once the task's first transition was refused. -/
theorem ends_cleanly_iff (task : Task) (db : Db) (turns : List Turn) :
    (8 ≤ turns.length → (run (turn task) (started db) turns).next = none) ∧
      (EndsCleanly task db turns ↔ Steps (turn task) (Sound task) (started db) turns) := by
  refine ⟨over_of_length, ?_⟩
  constructor
  · rintro ⟨hended, hkept⟩
    have hgoes := (ended_run_iff task db turns).2 hended
    exact (hgoes.and hkept).mono fun r t h => ⟨h.1, (kept_turn_iff task r t).1 h.2⟩
  · intro h
    refine ⟨(ended_run_iff task db turns).1 (h.mono fun r t hsound => hsound.goes), ?_⟩
    exact h.mono fun r t hsound => (kept_turn_iff task r t).2 hsound.stays

/-! ### Two provisionings that are refused -/

/-- The rows after a payment, with the tenant in some status. -/
def Small.paidAs (status : TenantStatus) : Db :=
  let db := (after [createTenant, webhook .paymentConfirmed "paid"]).db
  { db with tenants := db.tenants.map fun tenant => { tenant with status := status } }

/-- The provisioning that the payment has put on the queue. -/
def Small.provisioning : Task := .provisionTenant 1 1 "owner@example.com"

/-- Turns of the provisioning that nothing disturbs. -/
def Small.undisturbed : Nat → TaskRun → List Turn
  | 0, _ => []
  | n + 1, r =>
    let t : Turn := ⟨env, .ok "done", r.db, []⟩
    t :: undisturbed n (r.turn provisioning t)

open TaskRun in
set_option maxRecDepth 100000 in
/-- The provisioning of a deleted tenant leaves its job running, and that of an active one makes the tenant `failed`. -/
theorem refused_provisionings :
    ¬EndsCleanly Small.provisioning (Small.paidAs .deleted)
        (Small.undisturbed 8 (started (Small.paidAs .deleted))) ∧
      ¬EndsCleanly Small.provisioning (Small.paidAs .active)
        (Small.undisturbed 8 (started (Small.paidAs .active))) := by
  have hrunning : ¬(run (turn Small.provisioning) (started (Small.paidAs .deleted))
      (Small.undisturbed 8 (started (Small.paidAs .deleted)))).Ended Small.provisioning := by decide +kernel
  have hmoved : ¬Steps (turn Small.provisioning) (Kept Small.provisioning) (started (Small.paidAs .active))
      (Small.undisturbed 8 (started (Small.paidAs .active))) := by decide +kernel
  exact ⟨fun h => hrunning h.ended, fun h => hmoved h.kept⟩

end ControlPlane
