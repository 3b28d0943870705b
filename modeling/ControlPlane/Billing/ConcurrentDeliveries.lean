import ControlPlane.Billing.Recording
import ControlPlane.Returns
import ControlPlane.System

/-!
# Two deliveries of one event at the same time

A call of `handle_gateway_webhook` reads the event's outbox row, inserts it, marks it `processing`, runs the handler and
marks the row again, each in a transaction of its own.  Here these are separate steps, so that the other call's commits
fall between them; the key is unique in the database, so a second insert is refused.
-/

namespace ControlPlane

open Table Session Session.Proc Runs

/-- Where a call is.  `marking` holds the row as the call has read it, the later places its id. -/
inductive CallPhase where
  | looking
  | inserting
  | refreshing (id : Nat)
  | marking (row : PaymentEventOutbox)
  | handling (id : Nat)
  | finishing (id : Nat) (answer : String)
  | failing (id : Nat) (error : PyError)
  | repeating
  | answered (result : Except PyError String)

/-- The call has marked the row `processing` and not yet marked it again. -/
def CallPhase.taken : CallPhase → Bool
  | .handling _ => true
  | .finishing _ _ => true
  | .failing _ _ => true
  | _ => false

/-- The call is at a handler whose effects are not committed: it has not run it yet, or it has failed. -/
def CallPhase.unsettled : CallPhase → Bool
  | .handling _ => true
  | .failing _ _ => true
  | _ => false

/-- The handler has returned. -/
def CallPhase.finishes : CallPhase → Bool
  | .finishing _ _ => true
  | _ => false

/-- The id of the row the call works on. -/
def CallPhase.rowId? : CallPhase → Option Nat
  | .refreshing id => some id
  | .marking row => some row.id
  | .handling id => some id
  | .finishing id _ => some id
  | .failing id _ => some id
  | _ => none

/-- What a call does with the row it has read. -/
def CallPhase.ofRow (row : PaymentEventOutbox) : CallPhase := if row.status = .processed then .repeating else .marking row

section Phases

variable (env : Env) (provider : String) (event : WebhookEvent)

/-- The search for the row. -/
def lookUp : Proc CallPhase := do
  let db ← read
  match outboxRow? env.settings provider event db with
  | some row => return CallPhase.ofRow row
  | none => return .inserting

/-- The insertion of the row, which its unique key may refuse. -/
def insertRow : Proc CallPhase := do
  let db ← read
  if (outboxRow? env.settings provider event db).isSome then
    raise (.integrityError "uq_payment_event_outbox_dedup_key")
  else
    let row := newOutboxEvent env.settings provider event db
    modify fun db => { db with outbox := insert db.outbox row }
    commitRow env (row.fits env.settings)
    return .refreshing row.id

/-- The refresh of the inserted row. -/
def refreshRow (id : Nat) : Proc CallPhase := do
  let db ← read
  match get? db.outbox id with
  | some row => return CallPhase.ofRow row
  | none => raise .objectDeletedError

/-- The row marked `processing` by a call that has read `row`; the update leaves out what does not differ from it. -/
def takenUp (row : PaymentEventOutbox) (_ : Time) (o : PaymentEventOutbox) : PaymentEventOutbox :=
  { o with
    status := if row.status = .processing then o.status else .processing
    attempts := row.attempts + 1
    lastError := if row.lastError = none then o.lastError else none }

/-- The mark `processing`. -/
def takeUp (row : PaymentEventOutbox) : Proc CallPhase := do
  markOutbox env row.id (takenUp row)
  return .handling row.id

/-- The handler. -/
def handle (id : Nat) : Proc CallPhase :=
  attempt
    (do
      let answer ← processEvent env provider event
      return .finishing id answer)
    (fun error => do
      rollback
      return .failing id error)

/-- The mark `processed`, and the answer. -/
def finish (id : Nat) (answer : String) : Proc CallPhase := do
  markOutbox env id fun time o => { o with status := .processed, lastError := none, processedAt := some time }
  recordPaymentEvent env provider event.eventType.text (resolveProcessingStatus answer) 200 answer (some event)
    event.raw
  return .answered (.ok answer)

/-- The mark `failed`, and the answer. -/
def giveUp (id : Nat) (error : PyError) : Proc CallPhase := do
  markOutbox env id fun _ o => { o with status := .failed, lastError := some error.message }
  recordPaymentEvent env provider event.eventType.text "error" error.httpStatus error.message (some event) event.raw
  return .answered (.error (.httpException error.httpStatus error.message))

/-- A step of a call, up to its next commit. -/
def callPhase : CallPhase → Proc CallPhase
  | .looking => lookUp env provider event
  | .inserting => insertRow env provider event
  | .refreshing id => refreshRow id
  | .marking row => takeUp env row
  | .handling id => handle env provider event id
  | .finishing id answer => finish env provider event id answer
  | .failing id error => giveUp env provider event id error
  | .repeating => do
    let answer ← answerDuplicate env provider event
    return .answered (.ok answer)
  | .answered result => return .answered result

end Phases

/-- Two calls whose events have the same key. -/
structure Calls where
  env : Bool → Env
  provider : Bool → String
  event : Bool → WebhookEvent
  key : String
  keyed : ∀ who, buildOutboxDedupKey (env who).settings (provider who) (event who) = key

/-- The state of the race: the committed rows, the queue, and for each call where it is (or the exception that ended it
outside any handler of the code) and the tick it has come to.  `effects` counts the handlers' commits. -/
structure DeliveryRace where
  db : Db
  queue : List Task
  phase : Bool → Except PyError CallPhase
  tick : Bool → Nat
  effects : Nat

namespace DeliveryRace

/-- A handler commits what it does for the event. -/
def takesEffect (env : Env) (provider : String) (event : WebhookEvent) (tick : Nat) (db : Db) : Bool :=
  match eventBody provider event (env.clock tick) (env.erp tick) db with
  | .ok (.changed _ _, _) => !env.commitFails tick
  | _ => false

/-- The session a call opens for its next step. -/
def session (s : DeliveryRace) (who : Bool) : DbSession := ⟨s.db, s.db, s.queue, s.tick who⟩

/-- What the step of a call at a phase adds to the effects. -/
def effectsOf (c : Calls) (s : DeliveryRace) (who : Bool) : CallPhase → Nat
  | .handling _ => if takesEffect (c.env who) (c.provider who) (c.event who) (s.tick who) s.db then 1 else 0
  | _ => 0

/-- A call takes a step. -/
def step (c : Calls) (s : DeliveryRace) (who : Bool) : DeliveryRace :=
  match s.phase who with
  | .error _ => s
  | .ok phase =>
    let r := callPhase (c.env who) (c.provider who) (c.event who) phase (s.session who)
    { db := r.2.saved, queue := r.2.outside
      phase := fun w => if w = who then r.1 else s.phase w
      tick := fun w => if w = who then r.2.tick else s.tick w
      effects := s.effects + effectsOf c s who phase }

/-- The two calls at their start. -/
def start (db : Db) (queue : List Task) : DeliveryRace := ⟨db, queue, fun _ => .ok .looking, fun _ => 0, 0⟩

/-- The event has taken effect at most once, and no call has ended with an exception that nothing handles. -/
def Once (s : DeliveryRace) : Prop := s.effects ≤ 1 ∧ ∀ who, (s.phase who).isOk = true

instance : DecidablePred Once := fun _ => inferInstanceAs (Decidable (_ ∧ _))

/-- The row of a key. -/
def rowOf (key : String) (db : Db) : Option PaymentEventOutbox := db.outbox.find? fun o => o.dedupKey = key

/-- What a call has read of the outbox still holds when it writes: it inserts the row while there is none, and takes the
row up while it is not processed and the other call has not taken it up. -/
def readsHold (c : Calls) (s : DeliveryRace) (who : Bool) : Bool :=
  match s.phase who with
  | .ok .inserting => (rowOf c.key s.db).isNone
  | .ok (.marking _) =>
    (rowOf c.key s.db).all (fun row => row.status ≠ .processed) &&
      match s.phase (!who) with
      | .ok other => !other.taken
      | .error _ => true
  | _ => true

/-- Where a call is, or that it is over. -/
def place (s : DeliveryRace) (who : Bool) : CallPhase :=
  match s.phase who with
  | .ok phase => phase
  | .error error => .answered (.error error)

/-- The calls are in order: at most one has taken the row up, and once the event has taken effect, the row says so or the
call whose handler it was is about to mark it. -/
structure Orderly (c : Calls) (s : DeliveryRace) : Prop where
  ids : (s.db.outbox.map key).Nodup
  running : ∀ who, (s.phase who).isOk = true
  row : ∀ who id, (s.place who).rowId? = some id → ∃ row, rowOf c.key s.db = some row ∧ row.id = id
  exclusive : ∀ who, (s.place who).taken = true → (s.place (!who)).taken = false
  untouched : ∀ who, (s.place who).unsettled = true → s.effects = 0
  bound : s.effects ≤ 1
  settled : s.effects = 1 → (∃ row, rowOf c.key s.db = some row ∧ row.status = .processed) ∨
    ∃ who, (s.place who).finishes = true

theorem Orderly.once {c : Calls} {s : DeliveryRace} (h : Orderly c s) : Once s := ⟨h.bound, h.running⟩

theorem orderly_start (c : Calls) {db : Db} (queue : List Task) (hids : (db.outbox.map key).Nodup) :
    Orderly c (start db queue) where
  ids := hids
  running _ := rfl
  row _ _ h := by cases h
  exclusive _ h := by cases h
  untouched _ h := by cases h
  bound := Nat.zero_le 1
  settled h := by cases h

theorem unsettled_taken {phase : CallPhase} (h : phase.unsettled = true) : phase.taken = true := by
  cases phase <;> first | rfl | cases h

theorem taken_rowId {phase : CallPhase} (h : phase.taken = true) : phase.rowId? ≠ none := by
  unfold CallPhase.taken at h
  split at h
  · exact Option.some_ne_none _
  · exact Option.some_ne_none _
  · exact Option.some_ne_none _
  · cases h

theorem finishes_taken {phase : CallPhase} (h : phase.finishes = true) : phase.taken = true := by
  cases phase <;> first | rfl | cases h

/-- The state after a step of one call. -/
def moved (s : DeliveryRace) (who : Bool) (phase : CallPhase) (db : Db) (queue : List Task) (tick : Nat)
    (effects : Nat) : DeliveryRace :=
  { db := db, queue := queue
    phase := fun w => if w = who then .ok phase else s.phase w
    tick := fun w => if w = who then tick else s.tick w
    effects := effects }

theorem place_moved (s : DeliveryRace) (who : Bool) (phase : CallPhase) (db : Db) (queue : List Task) (tick : Nat)
    (effects : Nat) (w : Bool) :
    (s.moved who phase db queue tick effects).place w = if w = who then phase else s.place w := by
  unfold place moved
  dsimp only
  by_cases hw : w = who
  · rw [if_pos hw, if_pos hw]
  · rw [if_neg hw, if_neg hw]

/-- What a step has to see to for the calls to stay in order. -/
theorem Orderly.moved {c : Calls} {s : DeliveryRace} (h : Orderly c s) {who : Bool} {phase : CallPhase} {db : Db}
    {queue : List Task} {tick effects : Nat} (hids : (db.outbox.map key).Nodup)
    (hkept : ∀ row, rowOf c.key s.db = some row → ∃ row', rowOf c.key db = some row' ∧ row'.id = row.id)
    (hrow : ∀ id, phase.rowId? = some id → ∃ row, rowOf c.key db = some row ∧ row.id = id)
    (hexclusive : phase.taken = true → (s.place (!who)).taken = false)
    (huntouched : phase.unsettled = true → effects = 0)
    (hother : (s.place (!who)).unsettled = true → effects = 0) (hbound : effects ≤ 1)
    (hsettled : effects = 1 → (∃ row, rowOf c.key db = some row ∧ row.status = .processed) ∨
      phase.finishes = true ∨ (s.place (!who)).finishes = true) :
    Orderly c (s.moved who phase db queue tick effects) := by
  have hself : (s.moved who phase db queue tick effects).place who = phase := by rw [place_moved, if_pos rfl]
  have hthat : (s.moved who phase db queue tick effects).place (!who) = s.place (!who) := by
    rw [place_moved, if_neg (by simp)]
  -- every fact about a call is about the one that moved or about the other
  have hcases : ∀ w : Bool, w = who ∨ w = !who := by
    intro w
    cases w <;> cases who <;> simp
  refine ⟨hids, ?_, ?_, ?_, ?_, hbound, ?_⟩
  · intro w
    show Except.isOk (if w = who then .ok phase else s.phase w) = true
    split
    · rfl
    · exact h.running w
  · intro w id hid
    rcases hcases w with rfl | rfl
    · rw [hself] at hid
      exact hrow id hid
    · rw [hthat] at hid
      obtain ⟨row, hfound, rfl⟩ := h.row _ id hid
      exact hkept row hfound
  · intro w hw
    rcases hcases w with rfl | rfl
    · rw [hself] at hw
      rw [hthat]
      exact hexclusive hw
    · rw [hthat] at hw
      rw [Bool.not_not, hself]
      rw [← Bool.not_eq_true]
      intro hphase
      rw [hexclusive hphase] at hw
      cases hw
  · intro w hw
    rcases hcases w with rfl | rfl
    · rw [hself] at hw
      exact huntouched hw
    · rw [hthat] at hw
      exact hother hw
  · intro hone
    rcases hsettled hone with hrow' | hphase | hthere
    · exact Or.inl hrow'
    · exact Or.inr ⟨who, by rw [hself]; exact hphase⟩
    · exact Or.inr ⟨!who, by rw [hthat]; exact hthere⟩

/-! ### The steps -/

section Phases

variable {env : Env} {provider : String} {event : WebhookEvent} {db : Db} (queue : List Task) (tick : Nat)

theorem lookUp_apply : lookUp env provider event (⟨db, db, queue, tick⟩ : DbSession) =
    (.ok (match outboxRow? env.settings provider event db with
      | some row => CallPhase.ofRow row
      | none => .inserting), ⟨db, db, queue, tick⟩) := by
  unfold lookUp
  rw [bind_ok (read_apply _)]
  cases outboxRow? env.settings provider event db with
  | none => rfl
  | some row => rfl

/-- Where there is no row, the insertion is `ensure_outbox_event`'s. -/
theorem insertRow_of_none {s : DbSession} (hnone : outboxRow? env.settings provider event s.work = none) :
    insertRow env provider event s = (do
      let row ← ensureOutboxEvent env provider event
      return CallPhase.refreshing row.id) s := by
  let row := newOutboxEvent env.settings provider event s.work
  let added : DbSession := { s with work := { s.work with outbox := Table.insert s.work.outbox row } }
  have hensure : ensureOutboxEvent env provider event s =
      (do commitRow env (row.fits env.settings); return row) added := by
    unfold ensureOutboxEvent
    rw [bind_ok (read_apply s), hnone]
    exact bind_ok (modify_apply _ s)
  have hinsert : insertRow env provider event s =
      (do commitRow env (row.fits env.settings); return CallPhase.refreshing row.id) added := by
    unfold insertRow
    rw [bind_ok (read_apply s), if_neg (by simp [hnone])]
    exact bind_ok (modify_apply _ s)
  cases hcommit : commitRow env (row.fits env.settings) added with
  | mk r s' =>
    cases r with
    | ok u =>
      rw [bind_ok hcommit] at hensure hinsert
      rw [hinsert, bind_ok hensure]
    | error e =>
      rw [bind_error hcommit] at hensure hinsert
      rw [hinsert, bind_error hensure]

theorem insertRow_apply (henv : env.Reliable) (hnone : outboxRow? env.settings provider event db = none)
    (hfits : (newOutboxEvent env.settings provider event db).fits env.settings = true) :
    insertRow env provider event (⟨db, db, queue, tick⟩ : DbSession) =
      (.ok (.refreshing (newOutboxEvent env.settings provider event db).id),
        quiet db (insert db.outbox (newOutboxEvent env.settings provider event db)) queue (tick + 1)) := by
  have hensure := ensureOutboxEvent_of_none queue tick hnone
  rw [if_neg (by simp [hfits]), henv.commits, if_neg Bool.false_ne_true] at hensure
  rw [insertRow_of_none hnone, bind_ok hensure]
  rfl

theorem refreshRow_apply {id : Nat} {row : PaymentEventOutbox} (hrow : get? db.outbox id = some row) :
    refreshRow id (⟨db, db, queue, tick⟩ : DbSession) = (.ok (CallPhase.ofRow row), ⟨db, db, queue, tick⟩) := by
  unfold refreshRow
  rw [bind_ok (read_apply _)]
  dsimp only
  rw [hrow]
  rfl

theorem takeUp_apply (henv : env.Reliable) (row : PaymentEventOutbox) :
    takeUp env row (⟨db, db, queue, tick⟩ : DbSession) =
      (.ok (.handling row.id),
        quiet db (modify db.outbox row.id (takenUp row (env.clock tick))) queue (tick + 1)) := by
  have hmark := markOutbox_apply env row.id (takenUp row) db queue tick
  rw [henv.commits, if_neg Bool.false_ne_true] at hmark
  unfold takeUp
  rw [bind_ok hmark]
  rfl

theorem eventFollowUp_returns (henv : env.Reliable) (eventType : WebhookEventType) (tenantId : Nat)
    (email : Option String) : Returns (eventFollowUp env eventType tenantId email) := by
  cases eventType with
  | paymentConfirmed =>
    exact .bind (henv.enqueueProvisioningForPaidTenant _ _) fun _ => .bind (henv.recordAuditEvent _ _ _) fun _ => .pure _
  | paymentFailed => exact .bind (henv.recordAuditEvent _ _ _) fun _ => .pure _
  | subscriptionCancelled => exact .bind (henv.recordAuditEvent _ _ _) fun _ => .pure _
  | other name => exact .pure _

/-- What follows a handler's commit does not raise, so a handler that fails has committed nothing. -/
theorem handle_cases (henv : env.Reliable) (id : Nat) :
    ∃ phase s', handle env provider event id (⟨db, db, queue, tick⟩ : DbSession) = (.ok phase, s') ∧
      s'.saved.outbox = db.outbox ∧ phase.rowId? = some id ∧ phase.taken = true ∧
      (phase.finishes = true ∨ takesEffect env provider event tick db = false) := by
  have hlog := (processEvent_webhookLog env provider event
    (show (⟨db, db, queue, tick⟩ : DbSession).work = _ from rfl)).2
  have houtbox := congrArg Prod.fst hlog
  unfold handle attempt
  cases hp : processEvent env provider event (⟨db, db, queue, tick⟩ : DbSession) with
  | mk r s' =>
    rw [hp] at houtbox
    cases r with
    | ok answer =>
      rw [bind_ok hp]
      exact ⟨.finishing id answer, s', rfl, houtbox, rfl, rfl, Or.inl rfl⟩
    | error e =>
      rw [bind_error hp]
      refine ⟨.failing id e, { s' with work := s'.saved }, rfl, houtbox, rfl, rfl, Or.inr ?_⟩
      unfold takesEffect
      rw [processEvent_eq, change_bind] at hp
      dsimp only at hp
      split
      · rename_i hbody
        rw [hbody] at hp
        dsimp only at hp
        obtain ⟨u, s₁, hcommit⟩ := henv.commit ⟨_, db, queue, tick⟩
        rw [bind_ok hcommit] at hp
        obtain ⟨answer, s₂, hreturn⟩ := eventFollowUp_returns henv _ _ _ s₁
        rw [hreturn] at hp
        cases hp
      · rfl

theorem recordPaymentEvent_outbox (provider eventType processingStatus : String) (httpStatus : Nat) (message : String)
    (event : Option WebhookEvent) (payload : Json) :
    ∃ s', recordPaymentEvent env provider eventType processingStatus httpStatus message event payload
        (⟨db, db, queue, tick⟩ : DbSession) = (.ok (), s') ∧ s'.saved.outbox = db.outbox := by
  rw [recordPaymentEvent_apply]
  split
  · exact ⟨_, rfl, rfl⟩
  · split
    · exact ⟨_, rfl, rfl⟩
    · exact ⟨_, rfl, rfl⟩

theorem finish_apply (henv : env.Reliable) (id : Nat) (answer : String) :
    ∃ s', finish env provider event id answer (⟨db, db, queue, tick⟩ : DbSession) =
        (.ok (.answered (.ok answer)), s') ∧
      s'.saved.outbox = modify db.outbox id fun o =>
        { o with status := .processed, lastError := none, processedAt := some (env.clock tick) } := by
  have hmark := markOutbox_apply env id
    (fun time o => { o with status := .processed, lastError := none, processedAt := some time }) db queue tick
  rw [henv.commits, if_neg Bool.false_ne_true] at hmark
  unfold finish
  rw [bind_ok hmark]
  unfold quiet
  obtain ⟨s', hrecord, houtbox⟩ := @recordPaymentEvent_outbox env _ queue (tick + 1) provider
    event.eventType.text (resolveProcessingStatus answer) 200 answer (some event) event.raw
  rw [bind_ok hrecord]
  exact ⟨s', rfl, houtbox⟩

theorem giveUp_apply (henv : env.Reliable) (id : Nat) (error : PyError) :
    ∃ result s', giveUp env provider event id error (⟨db, db, queue, tick⟩ : DbSession) =
        (.ok (.answered result), s') ∧
      s'.saved.outbox = modify db.outbox id fun o => { o with status := .failed, lastError := some error.message } := by
  have hmark := markOutbox_apply env id
    (fun _ o => { o with status := .failed, lastError := some error.message }) db queue tick
  rw [henv.commits, if_neg Bool.false_ne_true] at hmark
  unfold giveUp
  rw [bind_ok hmark]
  unfold quiet
  obtain ⟨s', hrecord, houtbox⟩ := @recordPaymentEvent_outbox env _ queue (tick + 1) provider
    event.eventType.text "error" error.httpStatus error.message (some event) event.raw
  rw [bind_ok hrecord]
  exact ⟨_, s', rfl, houtbox⟩

end Phases

/-! ### The order of the calls -/

theorem rowOf_eq (c : Calls) (who : Bool) (db : Db) :
    outboxRow? (c.env who).settings (c.provider who) (c.event who) db = rowOf c.key db := by
  unfold outboxRow? rowOf
  rw [c.keyed who]

theorem rowOf_congr {key : String} {db db' : Db} (h : db'.outbox = db.outbox) : rowOf key db' = rowOf key db := by
  unfold rowOf
  rw [h]

theorem step_of_place {c : Calls} {s : DeliveryRace} {who : Bool} {phase : CallPhase} {s' : DbSession}
    (hrun : (s.phase who).isOk = true)
    (hr : callPhase (c.env who) (c.provider who) (c.event who) (s.place who) (s.session who) = (.ok phase, s')) :
    s.step c who = s.moved who phase s'.saved s'.outside s'.tick (s.effects + s.effectsOf c who (s.place who)) := by
  have hplace : s.phase who = .ok (s.place who) := by
    unfold place
    cases hp : s.phase who with
    | ok p => rfl
    | error e =>
      rw [hp] at hrun
      cases hrun
  unfold step
  rw [hplace]
  dsimp only
  rw [hr]
  rfl

/-- A row that is marked is still found, as it is marked. -/
theorem rowOf_modify {key : String} {db db' : Db} {row : PaymentEventOutbox}
    {f : PaymentEventOutbox → PaymentEventOutbox} (hids : (db.outbox.map Keyed.key).Nodup)
    (hrow : rowOf key db = some row) (hid : (f row).id = row.id) (hkey : (f row).dedupKey = row.dedupKey)
    (h : db'.outbox = modify db.outbox row.id f) : rowOf key db' = some (f row) := by
  have hfound : row.dedupKey = key := by simpa using List.find?_some hrow
  unfold rowOf
  rw [h]
  exact find?_modify hids hrow hid (by simp [hkey, hfound])

section Steps

variable {c : Calls} {s : DeliveryRace} {who : Bool} (h : Orderly c s)
include h

/-- What a call that finishes nothing leaves to be settled by the other. -/
theorem settled_elsewhere (hfinishes : (s.place who).finishes = false) (hone : s.effects = 1) :
    (∃ row, rowOf c.key s.db = some row ∧ row.status = .processed) ∨ (s.place (!who)).finishes = true := by
  rcases h.settled hone with hprocessed | ⟨w, hw⟩
  · exact Or.inl hprocessed
  · right
    by_cases hwho : w = who
    · rw [hwho, hfinishes] at hw
      cases hw
    · rwa [show (!who) = w by cases w <;> cases who <;> simp_all]

/-- A step that writes nothing to the outbox and takes no row up. -/
theorem orderly_read {phase : CallPhase} {db : Db} {queue : List Task} {tick : Nat} (houtbox : db.outbox = s.db.outbox)
    (hrow : ∀ id, phase.rowId? = some id → ∃ row, rowOf c.key s.db = some row ∧ row.id = id)
    (htaken : phase.taken = false) (hfinishes : (s.place who).finishes = false) :
    Orderly c (s.moved who phase db queue tick s.effects) := by
  have hsame : rowOf c.key db = rowOf c.key s.db := rowOf_congr houtbox
  have hno : phase.taken ≠ true := Bool.eq_false_iff.1 htaken
  refine h.moved (by rw [houtbox]; exact h.ids) (fun row hrow => ⟨row, hsame.trans hrow, rfl⟩) ?_
    (fun ht => absurd ht hno) (fun hu => absurd (unsettled_taken hu) hno) (h.untouched _) h.bound fun hone => ?_
  · rw [hsame]
    exact hrow
  · rw [hsame]
    exact (settled_elsewhere h hfinishes hone).imp_right Or.inr

omit h in
theorem ofRow_read {row : PaymentEventOutbox} (hrow : rowOf c.key s.db = some row) :
    (∀ id, (CallPhase.ofRow row).rowId? = some id → ∃ row', rowOf c.key s.db = some row' ∧ row'.id = id) ∧
      (CallPhase.ofRow row).taken = false := by
  unfold CallPhase.ofRow
  split
  · exact ⟨fun id hid => (nomatch hid), rfl⟩
  · exact ⟨fun id hid => ⟨row, hrow, Option.some.inj hid⟩, rfl⟩

theorem orderly_looking (hplace : s.place who = .looking) : Orderly c (s.step c who) := by
  have hr := @lookUp_apply (c.env who) (c.provider who) (c.event who) s.db s.queue (s.tick who)
  rw [rowOf_eq] at hr
  rw [step_of_place (h.running who) (by rw [hplace]; exact hr), hplace]
  have hfinishes : (s.place who).finishes = false := by
    rw [hplace]
    rfl
  cases hrow : rowOf c.key s.db with
  | none => exact orderly_read h rfl (fun id hid => (nomatch hid)) rfl hfinishes
  | some row => exact orderly_read h rfl (ofRow_read hrow).1 (ofRow_read hrow).2 hfinishes

/-- With its key unique and the row still absent, the insertion goes through, and nothing has taken effect before. -/
theorem orderly_inserting (henv : (c.env who).Reliable) (hplace : s.place who = .inserting)
    (hfits : (newOutboxEvent (c.env who).settings (c.provider who) (c.event who) s.db).fits (c.env who).settings = true)
    (hnone : rowOf c.key s.db = none) : Orderly c (s.step c who) := by
  have hr := insertRow_apply s.queue (s.tick who) henv ((rowOf_eq c who s.db).trans hnone) hfits
  rw [step_of_place (h.running who) (by rw [hplace]; exact hr), hplace]
  have hkey : (newOutboxEvent (c.env who).settings (c.provider who) (c.event who) s.db).dedupKey = c.key := c.keyed who
  have hid : (newOutboxEvent (c.env who).settings (c.provider who) (c.event who) s.db).id = fresh s.db.outbox := rfl
  generalize newOutboxEvent (c.env who).settings (c.provider who) (c.event who) s.db = new at hkey hid ⊢
  have hfound : rowOf c.key { s.db with outbox := Table.insert s.db.outbox new } = some new := by
    unfold rowOf at hnone ⊢
    unfold Table.insert
    rw [List.find?_append, hnone]
    simp [hkey]
  have hfinishes : (s.place who).finishes = false := by
    rw [hplace]
    rfl
  refine h.moved (nodup_insert_fresh h.ids hid) (fun row hrow => ?_) (fun id hid => ⟨_, hfound, Option.some.inj hid⟩)
    (fun ht => (nomatch ht)) (fun hu => (nomatch hu)) (h.untouched _) h.bound fun hone => ?_
  · rw [hnone] at hrow
    cases hrow
  · rcases settled_elsewhere h hfinishes hone with ⟨row, hrow, -⟩ | hother
    · rw [hnone] at hrow
      cases hrow
    · exact Or.inr (Or.inr hother)

theorem orderly_refreshing {id : Nat} (hplace : s.place who = .refreshing id) : Orderly c (s.step c who) := by
  obtain ⟨row, hrow, rfl⟩ := h.row who id (by rw [hplace]; rfl)
  have hget : get? s.db.outbox row.id = some row := get?_of_mem h.ids (List.mem_of_find?_eq_some hrow)
  have hr := refreshRow_apply s.queue (s.tick who) hget
  rw [step_of_place (h.running who) (by rw [hplace]; exact hr), hplace]
  exact orderly_read h rfl (ofRow_read hrow).1 (ofRow_read hrow).2 (by rw [hplace]; rfl)

/-- A call takes the row up while it is not processed and not taken, so nothing has taken effect before. -/
theorem orderly_marking (henv : (c.env who).Reliable) {read : PaymentEventOutbox} (hplace : s.place who = .marking read)
    (hfresh : ∀ row, rowOf c.key s.db = some row → row.status ≠ .processed)
    (hfree : (s.place (!who)).taken = false) : Orderly c (s.step c who) := by
  obtain ⟨row, hrow, hid⟩ := h.row who read.id (by rw [hplace]; rfl)
  have hr := @takeUp_apply (c.env who) s.db s.queue (s.tick who) henv read
  rw [step_of_place (h.running who) (by rw [hplace]; exact hr), hplace]
  have hnone : s.effects = 0 := by
    by_contra hne
    have hone : s.effects = 1 := by
      have := h.bound
      omega
    rcases settled_elsewhere h (by rw [hplace]; rfl) hone with ⟨row', hrow', hprocessed⟩ | hother
    · exact hfresh row' hrow' hprocessed
    · rw [finishes_taken hother] at hfree
      cases hfree
  have houtbox : (quiet s.db (modify s.db.outbox read.id (takenUp read ((c.env who).clock (s.tick who)))) s.queue
      (s.tick who + 1)).saved.outbox = modify s.db.outbox row.id (takenUp read ((c.env who).clock (s.tick who))) := by
    rw [hid]
    rfl
  have hfound := rowOf_modify h.ids hrow (f := takenUp read ((c.env who).clock (s.tick who))) rfl rfl houtbox
  refine h.moved ?_ (fun row' hrow' => ⟨_, hfound, ?_⟩) (fun id hid' => ⟨_, hfound, ?_⟩) (fun _ => hfree)
    (fun _ => hnone) (h.untouched _) h.bound fun hone => ?_
  · show ((modify s.db.outbox _ _).map key).Nodup
    rw [map_key_modify]
    exact h.ids
  · rw [hrow] at hrow'
    cases hrow'
    rfl
  · rw [← Option.some.inj hid']
    exact hid
  · have hone' : s.effects = 1 := hone
    omega

/-- A handler runs while nothing has taken effect. -/
theorem orderly_handling (henv : (c.env who).Reliable) {id : Nat} (hplace : s.place who = .handling id) :
    Orderly c (s.step c who) := by
  obtain ⟨phase, s', hr, houtbox, hid, htaken, hfinishes⟩ :=
    @handle_cases (c.env who) (c.provider who) (c.event who) s.db s.queue (s.tick who) henv id
  rw [step_of_place (h.running who) (by rw [hplace]; exact hr), hplace]
  have hnone : s.effects = 0 := h.untouched who (by rw [hplace]; rfl)
  have hfree : (s.place (!who)).taken = false := h.exclusive who (by rw [hplace]; rfl)
  have hsame : rowOf c.key s'.saved = rowOf c.key s.db := rowOf_congr houtbox
  have heffects : phase.finishes = true ∨ s.effects + effectsOf c s who (.handling id) = 0 := by
    rcases hfinishes with hfinishes | hno
    · exact Or.inl hfinishes
    · right
      unfold effectsOf
      rw [hno, hnone]
      rfl
  have hbound : s.effects + effectsOf c s who (.handling id) ≤ 1 := by
    unfold effectsOf
    dsimp only
    split
    · omega
    · omega
  refine h.moved (by rw [houtbox]; exact h.ids) (fun row hrow => ⟨row, hsame.trans hrow, rfl⟩) ?_ (fun _ => hfree) ?_
    ?_ hbound fun hone => ?_
  · intro id' hid'
    rw [hid] at hid'
    cases hid'
    rw [hsame]
    exact h.row who id (by rw [hplace]; rfl)
  · intro hunsettled
    rcases heffects with hfinishes | hzero
    · cases phase <;> cases hunsettled <;> cases hfinishes
    · exact hzero
  · intro hunsettled
    rw [unsettled_taken hunsettled] at hfree
    cases hfree
  · rcases heffects with hfinishes | hzero
    · exact Or.inr (Or.inl hfinishes)
    · omega

/-- A call that marks the row for the last time. -/
theorem orderly_marked {id : Nat} {phase : CallPhase} {s' : DbSession} {f : PaymentEventOutbox → PaymentEventOutbox}
    (hplace : (s.place who).rowId? = some id)
    (hr : callPhase (c.env who) (c.provider who) (c.event who) (s.place who) (s.session who) = (.ok phase, s'))
    (houtbox : s'.saved.outbox = modify s.db.outbox id f) (hphase : phase.rowId? = none)
    (heffects : effectsOf c s who (s.place who) = 0) (hid : ∀ row, (f row).id = row.id)
    (hkey : ∀ row, (f row).dedupKey = row.dedupKey)
    (hsettled : s.effects = 0 ∨ ∀ row, (f row).status = .processed) : Orderly c (s.step c who) := by
  obtain ⟨row, hrow, rfl⟩ := h.row who id hplace
  have hfound := rowOf_modify h.ids hrow (hid row) (hkey row) houtbox
  have htaken : phase.taken ≠ true := fun ht => taken_rowId ht hphase
  rw [step_of_place (h.running who) hr, heffects]
  refine h.moved ?_ (fun row' hrow' => ⟨_, hfound, ?_⟩) (fun id hid' => ?_) (fun ht => absurd ht htaken)
    (fun hu => absurd (unsettled_taken hu) htaken) (h.untouched _) h.bound fun hone => ?_
  · rw [houtbox, map_key_modify]
    exact h.ids
  · rw [hrow] at hrow'
    cases hrow'
    exact hid row
  · rw [hphase] at hid'
    cases hid'
  · rcases hsettled with hzero | hprocessed
    · rw [hzero] at hone
      cases hone
    · exact Or.inl ⟨_, hfound, hprocessed row⟩

theorem orderly_finishing (henv : (c.env who).Reliable) {id : Nat} {answer : String}
    (hplace : s.place who = .finishing id answer) : Orderly c (s.step c who) := by
  obtain ⟨s', hr, houtbox⟩ :=
    @finish_apply (c.env who) (c.provider who) (c.event who) s.db s.queue (s.tick who) henv id answer
  refine orderly_marked h (show (s.place who).rowId? = some id from ?_) (by rw [hplace]; exact hr) houtbox rfl ?_
    (fun _ => rfl) (fun _ => rfl)
    (Or.inr fun _ => rfl)
  · rw [hplace]; rfl
  · rw [hplace]; rfl

theorem orderly_failing (henv : (c.env who).Reliable) {id : Nat} {error : PyError}
    (hplace : s.place who = .failing id error) : Orderly c (s.step c who) := by
  obtain ⟨result, s', hr, houtbox⟩ :=
    @giveUp_apply (c.env who) (c.provider who) (c.event who) s.db s.queue (s.tick who) henv id error
  refine orderly_marked h (show (s.place who).rowId? = some id from ?_) (by rw [hplace]; exact hr) houtbox rfl ?_
    (fun _ => rfl) (fun _ => rfl)
    (Or.inl (h.untouched who ?_))
  · rw [hplace]; rfl
  · rw [hplace]; rfl
  · rw [hplace]; rfl

theorem orderly_repeating (hplace : s.place who = .repeating) : Orderly c (s.step c who) := by
  obtain ⟨s', hrecord, houtbox⟩ := @recordPaymentEvent_outbox (c.env who) s.db s.queue (s.tick who) (c.provider who)
    (c.event who).eventType.text (resolveProcessingStatus (duplicateMessage (c.event who).eventType)) 200
    (duplicateMessage (c.event who).eventType) (some (c.event who)) (c.event who).raw
  have hr : callPhase (c.env who) (c.provider who) (c.event who) .repeating (s.session who) =
      (.ok (.answered (.ok (duplicateMessage (c.event who).eventType))), s') := by
    have hanswer : answerDuplicate (c.env who) (c.provider who) (c.event who) (s.session who) =
        (.ok (duplicateMessage (c.event who).eventType), s') := bind_ok hrecord
    exact bind_ok hanswer
  rw [step_of_place (h.running who) (by rw [hplace]; exact hr), hplace]
  exact orderly_read h houtbox (fun id hid => (nomatch hid)) rfl (by rw [hplace]; rfl)

theorem orderly_answered {result : Except PyError String} (hplace : s.place who = .answered result) :
    Orderly c (s.step c who) := by
  have hr : callPhase (c.env who) (c.provider who) (c.event who) (s.place who) (s.session who) =
      (.ok (.answered result), s.session who) := by
    rw [hplace]
    rfl
  rw [step_of_place (h.running who) hr, hplace]
  exact orderly_read h rfl (fun id hid => (nomatch hid)) rfl (by rw [hplace]; rfl)

/-- A step keeps the calls in order if what its call has read still holds. -/
theorem orderly_step (henv : (c.env who).Reliable)
    (hfits : ∀ db, (newOutboxEvent (c.env who).settings (c.provider who) (c.event who) db).fits
      (c.env who).settings = true) (hreads : readsHold c s who = true) : Orderly c (s.step c who) := by
  have hphase : ∀ w, s.phase w = .ok (s.place w) := by
    intro w
    unfold place
    cases hp : s.phase w with
    | ok p => rfl
    | error e =>
      have hrun := h.running w
      rw [hp] at hrun
      cases hrun
  unfold readsHold at hreads
  rw [hphase who, hphase (!who)] at hreads
  cases hplace : s.place who with
  | looking => exact orderly_looking h hplace
  | inserting =>
    rw [hplace] at hreads
    exact orderly_inserting h henv hplace (hfits s.db) (Option.isNone_iff_eq_none.1 hreads)
  | refreshing id => exact orderly_refreshing h hplace
  | marking row =>
    rw [hplace] at hreads
    obtain ⟨hfresh, hfree⟩ := Bool.and_eq_true_iff.1 hreads
    refine orderly_marking h henv hplace (fun row' hrow' => ?_) ?_
    · rw [hrow'] at hfresh
      simpa using hfresh
    · simpa using hfree
  | handling id => exact orderly_handling h henv hplace
  | finishing id answer => exact orderly_finishing h henv hplace
  | failing id error => exact orderly_failing h henv hplace
  | repeating => exact orderly_repeating h hplace
  | answered result => exact orderly_answered h hplace

end Steps

/-! ### The phases of a call as the call

A call that nothing disturbs does what `handleEvent` does: each of its phases leaves nothing uncommitted for the next. -/

theorem recordAuditEvent_committed {env : Env} {action resource : String} {id : Option Nat} {s s' : DbSession} {u : Unit}
    (h : recordAuditEvent env action resource id s = (.ok u, s')) : s'.work = s'.saved := by
  unfold recordAuditEvent at h
  rw [bind_ok (utcnow_apply env _), bind_ok (modify_apply _ _), commit_apply] at h
  dsimp only at h
  split at h
  · cases h
  · cases h
    rfl

theorem eventFollowUp_committed {env : Env} {eventType : WebhookEventType} {tenantId : Nat} {email : Option String}
    {s s' : DbSession} {answer : String} (hs : s.work = s.saved)
    (h : eventFollowUp env eventType tenantId email s = (.ok answer, s')) : s'.work = s'.saved := by
  have haudit : ∀ {action : String} {s₀ : DbSession} {answer' : String},
      (do recordAuditEvent env action "tenants" (some tenantId); return answer') s₀ = (.ok answer, s') →
        s'.work = s'.saved := by
    intro action s₀ answer' h
    rw [bind_apply] at h
    cases hp : recordAuditEvent env action "tenants" (some tenantId) s₀ with
    | mk r s₁ =>
      rw [hp] at h
      cases r with
      | ok u =>
        cases h
        exact recordAuditEvent_committed hp
      | error e => cases h
  cases eventType with
  | paymentConfirmed =>
    unfold eventFollowUp at h
    dsimp only at h
    rw [bind_apply] at h
    cases hp : enqueueProvisioningForPaidTenant env tenantId (email.getD "") s with
    | mk r s₁ =>
      rw [hp] at h
      cases r with
      | ok job => exact haudit h
      | error e => cases h
  | paymentFailed => exact haudit h
  | subscriptionCancelled => exact haudit h
  | other name =>
    cases h
    exact hs

/-- A handler that returns has committed all that it has done. -/
theorem processEvent_committed {env : Env} {provider : String} {event : WebhookEvent} {s s' : DbSession} {answer : String}
    (hs : s.work = s.saved) (h : processEvent env provider event s = (.ok answer, s')) : s'.work = s'.saved := by
  rw [processEvent_eq, change_bind] at h
  split at h
  · rename_i handled db hbody
    cases handled with
    | ignored message =>
      cases h
      exact (eventBody_ignored hbody).trans hs
    | changed tenantId email =>
      dsimp only at h
      rw [commit_bind] at h
      split at h
      · cases h
      · exact eventFollowUp_committed rfl h
  · cases h

theorem recordPaymentEvent_always (env : Env) (provider eventType processingStatus : String) (httpStatus : Nat)
    (message : String) (event : Option WebhookEvent) (payload : Json) :
    Returns (recordPaymentEvent env provider eventType processingStatus httpStatus message event payload) :=
  .attempt fun _ s => ⟨(), _, rollback_apply s⟩

/-- A call that has come to its end has ended as the program does. -/
def EndsAs (s : DeliveryRace) (who : Bool) (r : Except PyError String × DbSession) : Prop :=
  s.db = r.2.saved ∧ s.queue = r.2.outside ∧
    (s.phase who = .ok (.answered r.1) ∨ ∃ error, s.phase who = .error error ∧ r.1 = .error error)

section Alone

variable {c : Calls} {s : DeliveryRace} {who : Bool} {phase : CallPhase} {r : Except PyError CallPhase} {s' : DbSession}
  (hphase : s.phase who = .ok phase)
  (hr : callPhase (c.env who) (c.provider who) (c.event who) phase (s.session who) = (r, s'))
include hphase hr

theorem step_fields : (s.step c who).db = s'.saved ∧ (s.step c who).queue = s'.outside ∧ (s.step c who).phase who = r ∧
    (s.step c who).tick who = s'.tick := by
  unfold step
  rw [hphase]
  dsimp only
  rw [hr, if_pos rfl, if_pos rfl]
  exact ⟨rfl, rfl, rfl, rfl⟩

/-- A phase that leaves nothing uncommitted is followed by the next one in the same session. -/
theorem step_session (hs' : s'.work = s'.saved) : (s.step c who).session who = s' := by
  obtain ⟨hdb, hqueue, -, htick⟩ := step_fields hphase hr
  unfold session
  rw [hdb, hqueue, htick]
  obtain ⟨work, saved, outside, tick⟩ := s'
  obtain rfl : work = saved := hs'
  rfl

end Alone

/-- The end of a call: the row is marked, and what came of it recorded and answered. -/
theorem endsAs_marked (c : Calls) {s : DeliveryRace} {who : Bool} {phase : CallPhase} {id : Nat}
    {f : Time → PaymentEventOutbox → PaymentEventOutbox} {record : Proc Unit} {result : Except PyError String}
    (rest : Proc String) (hphase : s.phase who = .ok phase)
    (hp : callPhase (c.env who) (c.provider who) (c.event who) phase = do
      markOutbox (c.env who) id f
      record
      return .answered result)
    (hrecord : Returns record) (hrest : ∀ s₁, rest s₁ = (result, s₁)) :
    EndsAs (s.step c who) who ((do
      markOutbox (c.env who) id f
      record
      rest) (s.session who)) := by
  cases hmark : markOutbox (c.env who) id f (s.session who) with
  | mk r s₁ =>
    cases r with
    | error e =>
      have hr : callPhase (c.env who) (c.provider who) (c.event who) phase (s.session who) = (.error e, s₁) := by
        rw [hp, bind_error hmark]
      obtain ⟨hdb, hqueue, hend, -⟩ := step_fields hphase hr
      rw [bind_error hmark]
      exact ⟨hdb, hqueue, Or.inr ⟨e, hend, rfl⟩⟩
    | ok u =>
      obtain ⟨u', s₂, hrecorded⟩ := hrecord s₁
      have hr : callPhase (c.env who) (c.provider who) (c.event who) phase (s.session who) =
          (.ok (.answered result), s₂) := by
        rw [hp, bind_ok hmark, bind_ok hrecorded]
        rfl
      obtain ⟨hdb, hqueue, hend, -⟩ := step_fields hphase hr
      rw [bind_ok hmark, bind_ok hrecorded, hrest]
      exact ⟨hdb, hqueue, Or.inl hend⟩

theorem runHandler_simulated {c : Calls} {s : DeliveryRace} {who : Bool} {id : Nat}
    (hphase : s.phase who = .ok (.handling id)) :
    EndsAs (run (step c) s [who, who]) who
      (runHandler (c.env who) (c.provider who) (c.event who) id (s.session who)) := by
  cases hp : processEvent (c.env who) (c.provider who) (c.event who) (s.session who) with
  | mk r s₁ =>
    cases r with
    | ok answer =>
      have hr : callPhase (c.env who) (c.provider who) (c.event who) (.handling id) (s.session who) =
          (.ok (.finishing id answer), s₁) := attempt_ok _ (bind_ok hp)
      have hsession := step_session hphase hr (processEvent_committed rfl hp)
      have hfinishing := (step_fields hphase hr).2.2.1
      unfold runHandler
      rw [bind_ok (attempt_ok _ hp), ← hsession]
      exact endsAs_marked c (return answer) hfinishing rfl (recordPaymentEvent_always _ _ _ _ _ _ _ _) fun _ => rfl
    | error e =>
      have hr : callPhase (c.env who) (c.provider who) (c.event who) (.handling id) (s.session who) =
          (.ok (.failing id e), { s₁ with work := s₁.saved }) := attempt_error _ (bind_error hp)
      have hsession := step_session hphase hr rfl
      have hfailing := (step_fields hphase hr).2.2.1
      have hends := endsAs_marked c (raise (.httpException e.httpStatus e.message)) hfailing rfl
        (recordPaymentEvent_always _ _ _ _ _ _ _ _) fun _ => rfl
      have hfailure : recordProcessingFailure (c.env who) (c.provider who) (c.event who) id e s₁ = _ :=
        bind_ok (rollback_apply s₁)
      rw [hsession, ← hfailure] at hends
      have hrun : runHandler (c.env who) (c.provider who) (c.event who) id (s.session who) =
          recordProcessingFailure (c.env who) (c.provider who) (c.event who) id e s₁ := by
        unfold runHandler
        rw [bind_apply, attempt_error _ hp]
        cases hq : recordProcessingFailure (c.env who) (c.provider who) (c.event who) id e s₁ with
        | mk r s₂ =>
          cases r with
          | ok answer => exact absurd (congrArg Prod.fst hq) (recordProcessingFailure_raises _ _ _ _ _ _ _)
          | error e' => rfl
      rw [hrun]
      exact hends

/-- A call that has read the row as it is and is not disturbed from there on processes the event. -/
theorem processOutboxEvent_simulated {c : Calls} {s : DeliveryRace} {who : Bool} {row : PaymentEventOutbox}
    (hphase : s.phase who = .ok (.marking row)) (hrow : get? s.db.outbox row.id = some row) :
    ∃ n, EndsAs (run (step c) s (List.replicate n who)) who
      (processOutboxEvent (c.env who) (c.provider who) (c.event who) row.id (s.session who)) := by
  have hsame : Table.modify s.db.outbox row.id (takenUp row ((c.env who).clock (s.tick who))) =
      Table.modify s.db.outbox row.id fun o =>
        { o with status := .processing, attempts := o.attempts + 1, lastError := none } := by
    rw [modify_of_get? hrow, modify_of_get? hrow]
    unfold takenUp
    congr 1
    split <;> split <;> simp_all
  have hmark := markOutbox_apply (c.env who) row.id (takenUp row) s.db s.queue (s.tick who)
  have hmark' := markOutbox_apply (c.env who) row.id
    (fun _ o => { o with status := .processing, attempts := o.attempts + 1, lastError := none }) s.db s.queue
    (s.tick who)
  rw [← hsame] at hmark'
  unfold processOutboxEvent
  by_cases hfails : (c.env who).commitFails (s.tick who) = true
  · rw [if_pos hfails] at hmark hmark'
    have hr : callPhase (c.env who) (c.provider who) (c.event who) (.marking row) (s.session who) =
        (.error .operationalError, ⟨s.db, s.db, s.queue, s.tick who + 1⟩) := bind_error hmark
    obtain ⟨hdb, hqueue, hend, -⟩ := step_fields hphase hr
    refine ⟨1, ?_⟩
    rw [session, bind_error hmark']
    exact ⟨hdb, hqueue, Or.inr ⟨_, hend, rfl⟩⟩
  · rw [if_neg hfails] at hmark hmark'
    have hr : callPhase (c.env who) (c.provider who) (c.event who) (.marking row) (s.session who) =
        (.ok (.handling row.id),
          quiet s.db (Table.modify s.db.outbox row.id (takenUp row ((c.env who).clock (s.tick who)))) s.queue
          (s.tick who + 1)) := bind_ok hmark
    have hsession := step_session hphase hr rfl
    have hphase₁ := (step_fields hphase hr).2.2.1
    refine ⟨3, ?_⟩
    rw [session, bind_ok hmark', ← hsession]
    exact runHandler_simulated hphase₁

/-- What a call does that has read a row which is that of its id. -/
theorem ofRow_simulated {c : Calls} {s : DeliveryRace} {who : Bool} {row : PaymentEventOutbox}
    (hphase : s.phase who = .ok (.ofRow row)) (hrow : get? s.db.outbox row.id = some row) :
    ∃ n, EndsAs (run (step c) s (List.replicate n who)) who
      ((if row.status = .processed then answerDuplicate (c.env who) (c.provider who) (c.event who)
        else processOutboxEvent (c.env who) (c.provider who) (c.event who) row.id) (s.session who)) := by
  unfold CallPhase.ofRow at hphase
  by_cases hprocessed : row.status = .processed
  · rw [if_pos hprocessed] at hphase ⊢
    obtain ⟨u, s₁, hrecord⟩ := recordPaymentEvent_always (c.env who) (c.provider who) (c.event who).eventType.text
      (resolveProcessingStatus (duplicateMessage (c.event who).eventType)) 200
      (duplicateMessage (c.event who).eventType) (some (c.event who)) (c.event who).raw (s.session who)
    have hanswer : answerDuplicate (c.env who) (c.provider who) (c.event who) (s.session who) =
        (.ok (duplicateMessage (c.event who).eventType), s₁) := bind_ok hrecord
    obtain ⟨hdb, hqueue, hend, -⟩ := step_fields hphase (bind_ok hanswer)
    refine ⟨1, ?_⟩
    rw [hanswer]
    exact ⟨hdb, hqueue, Or.inl hend⟩
  · rw [if_neg hprocessed] at hphase ⊢
    exact processOutboxEvent_simulated hphase hrow

/-- A call that nothing disturbs ends as `handleEvent` does. -/
theorem handleEvent_simulated (c : Calls) {db : Db} {queue : List Task} (who : Bool) (hids : (db.outbox.map key).Nodup) :
    ∃ n, EndsAs (run (step c) (start db queue) (List.replicate n who)) who
      (handleEvent (c.env who) (c.provider who) (c.event who) (opened db queue)) := by
  have hlook := @lookUp_apply (c.env who) (c.provider who) (c.event who) db queue 0
  have hlooked := @step_fields c (start db queue) who _ _ _ rfl hlook
  have hsession : (step c (start db queue) who).session who = opened db queue := step_session rfl hlook rfl
  unfold handleEvent
  -- a row that is there is taken after one step, a new one is inserted and read again first
  cases hrow : outboxRow? (c.env who).settings (c.provider who) (c.event who) db with
  | some row =>
    rw [hrow] at hlooked
    have hget : get? db.outbox row.id = some row := get?_of_mem hids (List.mem_of_find?_eq_some hrow)
    obtain ⟨n, hends⟩ := ofRow_simulated (c := c) hlooked.2.2.1 (by rw [hlooked.1]; exact hget)
    refine ⟨n + 1, ?_⟩
    rw [bind_ok (ensureOutboxEvent_of_some hrow)]
    rw [hsession] at hends
    exact hends
  | none =>
    rw [hrow] at hlooked
    have hinsert := insertRow_of_none (s := opened db queue) hrow
    rw [← hsession] at hinsert
    cases hens : ensureOutboxEvent (c.env who) (c.provider who) (c.event who) (opened db queue) with
    | mk r s₂ =>
      cases r with
      | error e =>
        rw [bind_error hens]
        rw [bind_error (hsession ▸ hens)] at hinsert
        obtain ⟨hdb, hqueue, hend, -⟩ := step_fields hlooked.2.2.1 hinsert
        exact ⟨2, hdb, hqueue, Or.inr ⟨e, hend, rfl⟩⟩
      | ok row =>
        rw [bind_ok hens]
        rw [bind_ok (hsession ▸ hens)] at hinsert
        obtain ⟨hid, hquiet⟩ : row.id = fresh db.outbox ∧ s₂ = quiet db (Table.insert db.outbox row) queue 1 := by
          have hens' := (ensureOutboxEvent_of_none queue 0 hrow).symm.trans hens
          split at hens'
          · cases hens'
          · split at hens'
            · cases hens'
            · cases hens'
              exact ⟨rfl, rfl⟩
        have hget : get? (Table.insert db.outbox row) row.id = some row :=
          get?_insert_self (by rw [show key row = fresh db.outbox from hid]; exact get?_fresh _)
        have hphase := (step_fields hlooked.2.2.1 hinsert).2.2.1
        have hsession₂ := step_session hlooked.2.2.1 hinsert (by rw [hquiet]; rfl)
        have hrefresh : callPhase (c.env who) (c.provider who) (c.event who) (.refreshing row.id)
            (((start db queue).step c who).step c who |>.session who) = (.ok (.ofRow row), s₂) := by
          rw [hsession₂, hquiet]
          exact refreshRow_apply queue 1 hget
        have hrefreshed := step_fields hphase hrefresh
        have hsession₃ := step_session hphase hrefresh (by rw [hquiet]; rfl)
        obtain ⟨n, hends⟩ := ofRow_simulated (c := c) hrefreshed.2.2.1 (by rw [hrefreshed.1, hquiet]; exact hget)
        refine ⟨n + 3, ?_⟩
        rw [hsession₃] at hends
        exact hends

/-! ### The theorem -/

/-- In every interleaving of the two calls in which each writes the row only while what it has read of it still holds,
the event takes effect at most once and no call ends with an exception that nothing handles. -/
theorem delivery_once {c : Calls} {db : Db} {queue : List Task} {moves : List Bool} (henv : ∀ who, (c.env who).Reliable)
    (hfits : ∀ who db, (newOutboxEvent (c.env who).settings (c.provider who) (c.event who) db).fits
      (c.env who).settings = true)
    (hids : (db.outbox.map key).Nodup)
    (hreads : Steps (step c) (fun s who => readsHold c s who = true) (start db queue) moves) :
    Always (step c) Once (start db queue) moves :=
  (Always.of_steps (fun _ who h hr => orderly_step h (henv who) (hfits who) hr) (orderly_start c queue hids) hreads).mono
    fun _ h => h.once

/-- Two deliveries of one event that the tenant's payment is confirmed. -/
def twice : Calls where
  env _ := Small.env
  provider _ := "stripe"
  event _ := ⟨.paymentConfirmed, some 1, none, none, .object "evt" []⟩
  key := "stripe:payment.confirmed:1:-:evt"
  keyed _ := by decide +kernel

/-- The second call reads the row before the first has marked it, and marks it after that. -/
def secondTakesUp : List Bool := [true, true, true, false, true, false, true, false]

/-- Both calls look for the row before either inserts it. -/
def bothInsert : List Bool := [true, false, true, false]

set_option maxRecDepth 100000 in
theorem twice_in_effect :
    ¬Always (step twice) Once (start (Small.after [Small.createTenant]).db []) secondTakesUp ∧
      (run (step twice) (start (Small.after [Small.createTenant]).db []) secondTakesUp).effects = 2 ∧
      ¬Always (step twice) Once (start (Small.after [Small.createTenant]).db []) bothInsert ∧
      ((run (step twice) (start (Small.after [Small.createTenant]).db []) bothInsert).phase false).isOk = false := by
  decide +kernel

set_option maxRecDepth 100000 in
/-- The second call comes when the first is done. -/
theorem delivery_once_late :
    Always (step twice) Once (start (Small.after [Small.createTenant]).db [])
      [true, true, true, true, true, true, false, false] :=
  have hfits : ∀ db, (newOutboxEvent Small.env.settings "stripe" (twice.event true) db).fits Small.env.settings =
      (newOutboxEvent Small.env.settings "stripe" (twice.event true) Db.empty).fits Small.env.settings := fun _ => rfl
  delivery_once (fun _ => ⟨fun _ => rfl, fun _ => rfl⟩) (fun _ db => (hfits db).trans (by decide +kernel))
    (by decide +kernel) (by decide +kernel)

end DeliveryRace

end ControlPlane
