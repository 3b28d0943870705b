import ControlPlane.Permits
import ControlPlane.Workers.TaskPhases

/-!
# A suspension during provisioning

`provision_tenant` reads its tenant's status and commits an answer to it three times over its run, and a suspension
(a failed payment's webhook or an administrator's) reads and commits in a session of its own.  Here the reads and the
commits are separate steps, so that the others' commits fall between them; the state is the tenant's committed status
and what each party has read.  A commit writes the status only if it differs from what the session read.
-/

namespace ControlPlane

open Runs

/-- Where the provisioning run is; `entering`, `activating` and `failing` hold the status it has read and has not yet
answered with a commit. -/
inductive Worker where
  | started
  | entering (read : TenantStatus)
  | working
  | activating (read : TenantStatus)
  | closing
  | handling
  | failing (read : TenantStatus)
  | finished
  deriving DecidableEq, Repr

/-- The run has read a status from which it may go to `active`, and has not committed that yet. -/
def Worker.activates : Worker → Bool
  | .activating _ => true
  | _ => false

inductive SuspensionKind where
  | paymentFailed
  | suspendTenant
  deriving DecidableEq, Repr

/-- A suspension in flight, with the status it has read. -/
structure Suspension where
  kind : SuspensionKind
  read : TenantStatus
  deriving DecidableEq, Repr

/-- The state of the race.  `entered` and `landed` are history: the run has committed `provisioning`, and a suspension
was committed after that. -/
structure Race where
  status : TenantStatus
  worker : Worker
  suspensions : List Suspension
  entered : Bool
  landed : Bool
  deriving DecidableEq, Repr

/-- What happens in the race.  A step of the run goes well or not: its commit or its outside work fails.  A suspension
that is dropped is one whose commit fails or whose subscription refuses it. -/
inductive RaceMove where
  | worker (goesWell : Bool)
  | reads (kind : SuspensionKind)
  | commits (index : Nat)
  | drops (index : Nat)
  deriving DecidableEq, Repr

/-- The status a suspension commits, if the table lets it commit any. -/
def Suspension.target (suspension : Suspension) : Option TenantStatus :=
  match suspension.kind with
  | .paymentFailed => some (paymentFailedStatus suspension.read)
  | .suspendTenant => (transitionStatus suspension.read .suspendedAdmin).toOption

/-- The committed status after a session that read `read` commits `new`. -/
def writeStatus (committed read new : TenantStatus) : TenantStatus := if new = read then committed else new

namespace Race

def suspendedStatuses : List TenantStatus := [.suspendedBilling, .suspendedAdmin]

/-- The run reads the status and asks the table for a new one; a refusal is an exception like any other, except in the
exception handler, where it ends the run. -/
def ask (s : Race) (new : TenantStatus) (granted : TenantStatus → Worker) (refused : Worker) : Race :=
  match transitionStatus s.status new with
  | .ok _ => { s with worker := granted s.status }
  | .error _ => { s with worker := refused }

/-- A step of the run. -/
def work (s : Race) (goesWell : Bool) : Race :=
  match s.worker, goesWell with
  | .started, true => s.ask .provisioning .entering .handling
  | .entering read, true =>
    { s with status := writeStatus s.status read .provisioning, worker := .working, entered := true, landed := false }
  | .working, true => s.ask .active .activating .handling
  | .activating read, true => { s with status := writeStatus s.status read .active, worker := .closing }
  | .closing, true => { s with worker := .finished }
  | .handling, true => s.ask .failed .failing .finished
  | .failing read, true => { s with status := writeStatus s.status read .failed, worker := .finished }
  | .working, false => { s with worker := .handling }
  | .closing, false => { s with worker := .handling }
  | _, _ => { s with worker := .finished }

/-- A suspension commits. -/
def land (s : Race) (index : Nat) (suspension : Suspension) : Race :=
  match suspension.target with
  | none => { s with suspensions := s.suspensions.eraseIdx index }
  | some target =>
    { s with
      status := writeStatus s.status suspension.read target
      suspensions := s.suspensions.eraseIdx index
      landed := s.landed || (s.entered && target ∈ suspendedStatuses) }

def step (s : Race) : RaceMove → Race
  | .worker goesWell => s.work goesWell
  | .reads kind => { s with suspensions := s.suspensions ++ [⟨kind, s.status⟩] }
  | .commits index =>
    match s.suspensions[index]? with
    | none => s
    | some suspension => s.land index suspension
  | .drops index => { s with suspensions := s.suspensions.eraseIdx index }

/-- A suspension that was committed after the run had set `provisioning` has not been lost when the run is over. -/
def SuspensionKept (s : Race) : Prop := s.worker = .finished → s.landed = true → s.status ≠ .active

instance : DecidablePred SuspensionKept := fun _ => inferInstanceAs (Decidable (_ → _))

/-- The moves that lose a suspension: the run commits `active` after a suspension has landed, or a suspension that found
the tenant suspended already, and so writes nothing, commits when the run has made the tenant active. -/
def overwrites (s : Race) : RaceMove → Bool
  | .worker true => s.worker.activates && s.landed
  | .commits index =>
    (s.suspensions[index]?).any fun suspension =>
      suspension.target = some suspension.read ∧ suspension.read ∈ suspendedStatuses ∧ s.entered ∧ s.status = .active
  | _ => false

/-! ### The invariant -/

/-- A suspension that has landed is still in force. -/
def InForce (s : Race) : Prop := s.landed = true → s.status ≠ .active

theorem writeStatus_eq_active {committed read new : TenantStatus} (h : writeStatus committed read new = .active) :
    (new = read ∧ committed = .active) ∨ new = .active := by
  unfold writeStatus at h
  split at h
  · rename_i heq
    exact Or.inl ⟨heq, h⟩
  · exact Or.inr h

/-- A suspension never commits `active` itself. -/
theorem target_ne_active {suspension : Suspension} {new : TenantStatus} (h : suspension.target = some new) :
    new ≠ .active := by
  obtain ⟨kind, read⟩ := suspension
  cases kind with
  | paymentFailed =>
    obtain rfl : paymentFailedStatus read = new := Option.some.inj h
    revert read
    decide
  | suspendTenant =>
    have hunsuspended : ∀ read : TenantStatus, (transitionStatus read .suspendedAdmin).toOption ≠ some .active := by
      decide
    rintro rfl
    exact hunsuspended read h

theorem ask_fields (s : Race) (new : TenantStatus) (granted : TenantStatus → Worker) (refused : Worker) :
    (s.ask new granted refused).status = s.status ∧ (s.ask new granted refused).landed = s.landed := by
  unfold ask
  split
  · exact ⟨rfl, rfl⟩
  · exact ⟨rfl, rfl⟩

theorem inForce_work {s : Race} {goesWell : Bool} (hs : InForce s) (hc : overwrites s (.worker goesWell) = false) :
    InForce (s.work goesWell) := by
  have hask : ∀ new granted refused, InForce (s.ask new granted refused) := by
    intro new granted refused
    obtain ⟨hstatus, hlanded⟩ := ask_fields s new granted refused
    unfold InForce
    rw [hstatus, hlanded]
    exact hs
  unfold work
  split
  · exact hask _ _ _
  · intro h; cases h
  · exact hask _ _ _
  · rename_i hworker
    intro hlanded
    have hno : s.landed = false := by simpa [overwrites, hworker, Worker.activates] using hc
    rw [hno] at hlanded
    cases hlanded
  · exact hs
  · exact hask _ _ _
  · intro hlanded hactive
    rcases writeStatus_eq_active hactive with ⟨-, h⟩ | h
    · exact hs hlanded h
    · cases h
  · exact hs
  · exact hs
  · exact hs

theorem inForce_land {s : Race} {index : Nat} {suspension : Suspension} (hs : InForce s)
    (hrow : s.suspensions[index]? = some suspension) (hc : overwrites s (.commits index) = false) :
    InForce (s.land index suspension) := by
  unfold land
  cases htarget : suspension.target with
  | none => exact hs
  | some target =>
    intro hlanded hactive
    rcases writeStatus_eq_active hactive with ⟨hsame, hstatus⟩ | h
    · have hnot : ¬(suspension.read ∈ suspendedStatuses ∧ s.entered = true) := by
        rintro ⟨hread, hentered⟩
        simp [overwrites, hrow, htarget, hsame, hread, hentered, hstatus] at hc
      simp only [Bool.or_eq_true, Bool.and_eq_true, decide_eq_true_eq] at hlanded
      rcases hlanded with hlanded | ⟨hentered, hmem⟩
      · exact hs hlanded hstatus
      · rw [hsame] at hmem
        exact hnot ⟨hmem, hentered⟩
    · exact target_ne_active htarget h

theorem inForce_step {s : Race} {m : RaceMove} (hs : InForce s) (hc : overwrites s m = false) : InForce (s.step m) := by
  cases m with
  | worker goesWell => exact inForce_work hs hc
  | reads kind => exact hs
  | drops index => exact hs
  | commits index =>
    unfold step
    dsimp only
    cases hrow : s.suspensions[index]? with
    | none => exact hs
    | some suspension => exact inForce_land hs hrow hc

/-- In every interleaving in which no move loses a suspension, every suspension that lands after the run has set
`provisioning` is in force when the run is over. -/
theorem suspension_kept {s : Race} {moves : List RaceMove} (hs : s.landed = false)
    (hc : Steps step (fun s m => overwrites s m = false) s moves) : Always step SuspensionKept s moves := by
  have hstart : InForce s := by
    intro h
    rw [hs] at h
    cases h
  exact (Always.of_steps (fun _ _ => inForce_step) hstart hc).mono (Q := SuspensionKept) fun _ h _ => h

/-- A payment fails while the provisioning is at work, and the run completes after that. -/
def failureAtWork : List RaceMove :=
  [.worker true, .worker true, .reads .paymentFailed, .commits 0, .worker true, .worker true, .worker true]

theorem failure_at_work_is_lost :
    ¬Always step SuspensionKept ⟨.pending, .started, [], false, false⟩ failureAtWork ∧
      run step ⟨.pending, .started, [], false, false⟩ failureAtWork = ⟨.active, .finished, [], true, true⟩ := by decide

theorem suspension_kept_late :
    let moves : List RaceMove := [.worker true, .worker true, .reads .suspendTenant, .worker true, .worker true,
      .commits 0, .worker true]
    Always step SuspensionKept ⟨.pending, .started, [], false, false⟩ moves ∧
      (run step ⟨.pending, .started, [], false, false⟩ moves).status = .suspendedAdmin :=
  ⟨suspension_kept rfl (by decide), by decide⟩

/-- Once a suspension has landed, a completing commit followed by an undisturbed end loses it. -/
theorem completing_loses_suspension {s : Race} {read : TenantStatus} (hworker : s.worker = .activating read)
    (hread : read ≠ .active) (hlanded : s.landed = true) :
    ¬SuspensionKept (run step s [.worker true, .worker true]) := by
  obtain ⟨status, worker, suspensions, entered, landed⟩ := s
  obtain rfl : worker = .activating read := hworker
  intro h
  have hwrite : writeStatus status read .active = .active := if_neg fun heq => hread heq.symm
  exact h rfl hlanded hwrite

/-! ### The phases of the task as runs of the race

A phase of the task that nothing disturbs is a few steps of the run in the race, and a request that nothing disturbs a
read and a commit: the interleavings of the system's steps are among those of the race. -/

open Table Session Session.Proc

/-- Where the run is when the task is about to run a phase. -/
def workerAt : Phase → Worker
  | .begin => .started
  | .enter => .started
  | .work => .working
  | .complete _ => .working
  | .close => .closing
  | .failing .. => .handling
  | .marking _ => .handling
  | .closing _ => .finished
  | .refused _ => .finished

/-- Where the run is after a phase. -/
def workerAfter : Except PyError (Option Phase) → Worker
  | .ok (some phase) => workerAt phase
  | .ok none => .finished
  | .error _ => .finished

/-- What comes of a task's transition: the table refuses it, or the commit fails, or the status is written. -/
theorem moveTenant_cases (env : Env) (task : Task) (customerId : Option String) (new : TenantStatus) (stamp : Bool)
    {db : Db} (queue : List Task) {st : TenantStatus} (hst : db.tenantStatus task.tenantId = some st) :
    let p := moveTenant env task customerId (some new) stamp (opened db queue)
    (¬Allowed st new ∧ ∃ e s', p = (.ok (some e), s') ∧ s'.saved.tenantStatus task.tenantId = some st) ∨
      (Allowed st new ∧ ∃ e s', p = (.error e, s') ∧ s'.saved.tenantStatus task.tenantId = some st) ∨
      (Allowed st new ∧ ∃ s', p = (.ok none, s') ∧ s'.saved.tenantStatus task.tenantId = some new) := by
  intro p
  obtain ⟨tenant, htenant, rfl⟩ := Option.map_eq_some_iff.1 hst
  have hrow : (opened db queue : DbSession).work.tenant? task.tenantId = some tenant := htenant
  have hp : p = moveTenant env task customerId (some new) stamp (opened db queue) := rfl
  by_cases hallowed : Allowed tenant.status new
  · right
    cases hcommit : env.commitFails 0 with
    | true => exact Or.inl ⟨hallowed, _, _, hp.trans (moveTenant_lost _ _ hrow hallowed hcommit), hst⟩
    | false =>
      obtain ⟨s', hs', hstatus, -⟩ := moveTenant_moved customerId stamp hrow hallowed hcommit
      exact Or.inr ⟨hallowed, s', hp.trans hs', hstatus⟩
  · exact Or.inl ⟨hallowed, _, _, hp.trans (moveTenant_refused _ _ hrow hallowed), hst⟩

theorem ask_of_allowed {s : Race} {new : TenantStatus} (granted : TenantStatus → Worker) (refused : Worker)
    (h : Allowed s.status new) : s.ask new granted refused = { s with worker := granted s.status } := by
  unfold ask
  rw [transitionStatus_eq_ok.2 ⟨rfl, h⟩]

theorem ask_of_not_allowed {s : Race} {new : TenantStatus} (granted : TenantStatus → Worker) (refused : Worker)
    (h : ¬Allowed s.status new) : s.ask new granted refused = { s with worker := refused } := by
  unfold ask
  cases hs : transitionStatus s.status new with
  | ok st => exact absurd (transitionStatus_eq_ok.1 hs).2 h
  | error e => rfl

@[simp] theorem writeStatus_self (status new : TenantStatus) : writeStatus status status new = new := by
  unfold writeStatus
  split
  · rename_i h; exact h.symm
  · rfl

/-- Some worker steps end in the status and at the place where the phase ends. -/
def SimulatedBy (s : Race) (t : Nat) (p : Except PyError (Option Phase) × DbSession) : Prop :=
  ∃ outcomes : List Bool, ∃ s', run step s (outcomes.map .worker) = s' ∧
    p.2.saved.tenantStatus t = some s'.status ∧ s'.worker = workerAfter p.1 ∧ s'.suspensions = s.suspensions

/-- A phase that moves its tenant: the run asks the table, and then commits the answer or fails to. -/
theorem moving_simulated {env : Env} (task : Task) (granted : TenantStatus → Worker) {refused : Worker}
    {customerId : Option String} {new : TenantStatus} {stamp : Bool} {rest : Option PyError → Proc (Option Phase)}
    {db : Db} {queue : List Task} {s : Race} (hst : db.tenantStatus task.tenantId = some s.status)
    (hasks : s.work true = s.ask new granted refused)
    (hfails : ({ s with worker := granted s.status } : Race).work false = { s with worker := .finished })
    (hgoes : (({ s with worker := granted s.status } : Race).work true).status = new)
    (hkeeps : (({ s with worker := granted s.status } : Race).work true).suspensions = s.suspensions)
    (hrefused : ∀ e s', (rest (some e) s').2.saved = s'.saved ∧ refused = workerAfter (rest (some e) s').1)
    (hdone : ∀ s', (rest none s').2.saved = s'.saved ∧
      (({ s with worker := granted s.status } : Race).work true).worker = workerAfter (rest none s').1) :
    SimulatedBy s task.tenantId ((moveTenant env task customerId (some new) stamp >>= rest) (opened db queue)) := by
  rcases moveTenant_cases env task customerId new stamp queue hst with
    ⟨hnot, e, s', hmove, hs'⟩ | ⟨hallowed, e, s', hmove, hs'⟩ | ⟨hallowed, s', hmove, hs'⟩
  · obtain ⟨hsaved, hworker⟩ := hrefused e s'
    rw [bind_ok hmove]
    refine ⟨[true], { s with worker := refused }, hasks.trans (ask_of_not_allowed granted refused hnot), ?_, hworker, rfl⟩
    rw [hsaved]
    exact hs'
  · have hask := hasks.trans (ask_of_allowed granted refused hallowed)
    rw [bind_error hmove]
    have hwork := (congrArg (fun r => work r false) hask).trans hfails
    exact ⟨[true, false], { s with worker := .finished }, hwork, hs', rfl, rfl⟩
  · have hask := hasks.trans (ask_of_allowed granted refused hallowed)
    obtain ⟨hsaved, hworker⟩ := hdone s'
    rw [bind_ok hmove]
    refine ⟨[true, true], _, congrArg (fun r => work r true) hask, ?_, hworker, hkeeps⟩
    rw [hsaved, hs', hgoes]

/-- A phase of the task, taken with no suspension in between, is a run of worker steps that ends in the same status and
at the same place. -/
theorem phase_simulated {env : Env} {jobId t : Nat} {email : String} {phase : Phase} {outside : Except PyError String}
    {db : Db} {queue : List Task} {s : Race} (hst : db.tenantStatus t = some s.status)
    (hworker : s.worker = workerAt phase) :
    let p := taskPhase env (.provisionTenant jobId t email) phase outside (opened db queue)
    ∃ outcomes : List Bool, ∃ s', run step s (outcomes.map .worker) = s' ∧
      p.2.saved.tenantStatus t = some s'.status ∧ s'.worker = workerAfter p.1 ∧ s'.suspensions = s.suspensions := by
  intro p
  obtain ⟨status, worker, suspensions, entered, landed⟩ := s
  obtain rfl : worker = workerAt phase := hworker
  -- a phase that moves the tenant nowhere keeps its status, so only the place where it ends matters
  have hkept : phase.movesTo (.provisionTenant jobId t email) = none → p.2.saved.tenantStatus t = some status :=
    fun h => (taskPhase_status h t).trans hst
  have hnext : ∀ next, p.1 = .ok next → phase.precedes next = true := fun next h => taskPhase_precedes h
  have hwrite : ∀ new, writeStatus status status new = new := writeStatus_self status
  cases phase with
  | enter =>
    exact moving_simulated (.provisionTenant jobId t email) .entering hst rfl rfl (hwrite _) rfl
      (fun _ _ => ⟨rfl, rfl⟩) fun _ => ⟨rfl, rfl⟩
  | complete result =>
    exact moving_simulated (.provisionTenant jobId t email) .activating hst rfl rfl (hwrite _) rfl
      (fun _ _ => ⟨rfl, rfl⟩) fun _ => ⟨rfl, rfl⟩
  | marking error =>
    exact moving_simulated (.provisionTenant jobId t email) .failing hst rfl rfl (hwrite _) rfl
      (fun _ _ => ⟨rfl, rfl⟩) fun _ => ⟨rfl, rfl⟩
  | begin =>
    cases hresult : p.1 with
    | error e => exact ⟨[false], _, rfl, hkept rfl, rfl, rfl⟩
    | ok next =>
      have h := hnext next hresult
      rcases next with _ | ⟨_ | _⟩ <;> cases h
      exact ⟨[], _, rfl, hkept rfl, rfl, rfl⟩
  | work =>
    cases hresult : p.1 with
    | error e => exact ⟨[false, false], _, rfl, hkept rfl, rfl, rfl⟩
    | ok next =>
      have h := hnext next hresult
      rcases next with _ | ⟨_ | _⟩ <;> try cases h
      · exact ⟨[], _, rfl, hkept rfl, rfl, rfl⟩
      · exact ⟨[false], _, rfl, hkept rfl, rfl, rfl⟩
      · exact ⟨[false, false], _, rfl, hkept rfl, rfl, rfl⟩
  | close =>
    cases hresult : p.1 with
    | error e => exact ⟨[true], _, rfl, hkept rfl, rfl, rfl⟩
    | ok next =>
      have h := hnext next hresult
      rcases next with _ | ⟨_ | _⟩ <;> try cases h
      · exact ⟨[true], _, rfl, hkept rfl, rfl, rfl⟩
      · exact ⟨[false], _, rfl, hkept rfl, rfl, rfl⟩
      · exact ⟨[true], _, rfl, hkept rfl, rfl, rfl⟩
  | failing error dirty =>
    cases hresult : p.1 with
    | error e => exact ⟨[false], _, rfl, hkept rfl, rfl, rfl⟩
    | ok next =>
      have h := hnext next hresult
      rcases next with _ | ⟨_ | _⟩ <;> cases h
      exact ⟨[], _, rfl, hkept rfl, rfl, rfl⟩
  | closing error | refused error =>
    cases hresult : p.1 with
    | error e => exact ⟨[], _, rfl, hkept rfl, rfl, rfl⟩
    | ok next =>
      have h := hnext next hresult
      rcases next with _ | ⟨_ | _⟩ <;> cases h
      exact ⟨[], _, rfl, hkept rfl, rfl, rfl⟩

/-- What an undisturbed suspension of a kind may leave in the race: the status, or the one it commits. -/
theorem suspension_undisturbed {s : Race} (kind : SuspensionKind) {new : TenantStatus} (hnone : s.suspensions = [])
    (htarget : Suspension.target ⟨kind, s.status⟩ = some new) :
    (run step s [.reads kind, .commits 0]).status = new ∧ (run step s [.reads kind, .drops 0]).status = s.status := by
  obtain ⟨status, worker, suspensions, entered, landed⟩ := s
  obtain rfl : suspensions = [] := hnone
  refine ⟨?_, rfl⟩
  show (land _ 0 ⟨kind, status⟩).status = new
  unfold land
  rw [htarget]
  exact writeStatus_self status new

/-- An undisturbed admin suspension is a read and a commit, or a read that comes to nothing. -/
theorem suspendTenant_simulated {env : Env} {t : Nat} {w : World} {s : Race} (hst : w.status t = some s.status)
    (hnone : s.suspensions = []) :
    ∃ move, (move = .commits 0 ∨ move = .drops 0) ∧
      (perform w (suspendTenant env t)).status t = some (run step s [.reads .suspendTenant, move]).status := by
  have hdrop : some s.status = some (run step s [.reads .suspendTenant, .drops 0]).status := by
    rw [run_cons, run_cons]
    rfl
  have hp : (perform w (suspendTenant env t)).status t =
      (suspendTenant env t (opened w.db w.queue)).2.saved.tenantStatus t := rfl
  unfold suspendTenant at hp
  rw [change_bind] at hp
  cases hf : moveTenantStatus t .suspendedAdmin (env.clock (opened w.db w.queue : DbSession).tick)
      (env.erp (opened w.db w.queue : DbSession).tick) (opened w.db w.queue : DbSession).work with
  | error e =>
    rw [hf] at hp
    exact ⟨_, Or.inr rfl, hp.trans (hst.trans hdrop)⟩
  | ok r =>
    obtain ⟨u, db⟩ := r
    obtain ⟨tenant, htenant, hallowed, hmoved⟩ := moveTenantStatus_ok hf
    rw [hf] at hp
    dsimp only at hp
    rw [commit_bind] at hp
    dsimp only at hp
    by_cases hcommit : env.commitFails (opened w.db w.queue : DbSession).tick = true
    · rw [if_pos hcommit] at hp
      exact ⟨_, Or.inr rfl, hp.trans (hst.trans hdrop)⟩
    · rw [if_neg hcommit] at hp
      have hid := Db.tenant?_id htenant
      have hbefore : w.db.tenantStatus t = some tenant.status := Db.tenantStatus_of_tenant? htenant
      have hstatus : s.status = tenant.status := Option.some.inj (hst.symm.trans hbefore)
      -- the read suspension moves the tenant that it has read
      have htarget : Suspension.target ⟨.suspendTenant, s.status⟩ = some .suspendedAdmin := by
        unfold Suspension.target
        dsimp only
        rw [hstatus, transitionStatus_eq_ok.2 ⟨rfl, hallowed⟩]
        rfl
      refine ⟨_, Or.inl rfl, ?_⟩
      rw [(suspension_undisturbed .suspendTenant hnone htarget).1]
      refine hp.trans ?_
      have haudit : Bookkeeping (fun _ => False)
          (recordAuditEvent env "admin.suspend_tenant" "tenants" (some t)) := .recordAuditEvent env _ _ _
      rw [Db.tenantStatus_congr (Db.tenants_of_core (haudit.idle rfl rfl).1), Db.tenantStatus_flush,
        hmoved.tenantStatus, if_pos hid.symm]
      show Option.map _ (w.db.tenantStatus t) = _
      rw [hbefore]
      rfl

/-- An undisturbed delivery of a failed payment is a read and a commit, or a read that comes to nothing. -/
theorem paymentFailed_simulated {env : Env} {t : Nat} {w : World} {s : Race} {delivery : WebhookDelivery}
    {event : WebhookEvent} {tick : Nat} (hst : w.status t = some s.status) (hnone : s.suspensions = [])
    (hdelivered : deliveredEvent env w.db delivery = some (event, tick)) (htype : event.eventType = .paymentFailed) :
    ∃ move, (move = .commits 0 ∨ move = .drops 0) ∧
      (perform w (handleGatewayWebhook env delivery)).status t =
        some (run step s [.reads .paymentFailed, move]).status := by
  have hundisturbed := suspension_undisturbed .paymentFailed hnone rfl
  obtain ⟨outbox, hrows⟩ := handleGatewayWebhook_rows w.queue hdelivered
  have hp : (perform w (handleGatewayWebhook env delivery)).status t = _ :=
    Db.tenantStatus_congr (Db.tenants_of_core hrows) t
  have hkept : (perform w (handleGatewayWebhook env delivery)).status t = w.status t →
      ∃ move, (move = RaceMove.commits 0 ∨ move = .drops 0) ∧
        (perform w (handleGatewayWebhook env delivery)).status t =
          some (run step s [.reads .paymentFailed, move]).status := by
    intro h
    exact ⟨_, Or.inr rfl, h.trans (hst.trans (congrArg some hundisturbed.2.symm))⟩
  unfold appliedRows at hp
  split at hp
  · rename_i tenantId email db' hbody
    split at hp
    · exact hkept hp
    · obtain ⟨tenant, htenant, -, -, -, hmoved⟩ := eventBody_changed hbody
      rw [Db.tenantStatus_flush] at hp
      rcases hmoved.cases (eventTenant_row htenant) t with h | ⟨ht, hbefore, hafter⟩
      · exact hkept (hp.trans h)
      · have hstatus : s.status = tenant.status := Option.some.inj (hst.symm.trans hbefore)
        refine ⟨_, Or.inl rfl, hp.trans (hafter.trans ?_)⟩
        rw [hundisturbed.1, htype, hstatus]
        rfl
  · exact hkept hp

end Race

end ControlPlane
