import ControlPlane.Base.Session
import ControlPlane.Models

/-!
# Support notes

The notes that administrators keep about tenants, each with a date by which it is due.  How a note stands to its date is
stored with it, when the note is written and when the notes are listed; the metrics count what is stored.
-/

namespace ControlPlane

open Table Session Session.Proc

inductive SlaState where
  | resolved
  | unscheduled
  | breached
  | dueSoon
  | onTrack
  deriving DecidableEq, Repr

inductive SupportError where
  | httpException (statusCode : Nat) (detail : String)
  | typeError (message : String)
  | operationalError
  deriving DecidableEq, Repr

/-- A date of a request, with or without an offset; `instant` is what the database takes it for. -/
structure RequestDate where
  instant : Time
  aware : Bool
  deriving DecidableEq, Repr

structure SupportNote where
  id : Nat
  tenantId : Nat
  authorId : Nat
  authorRole : String
  category : String
  ownerName : Option String
  ownerContact : Option String
  slaDueAt : Option Time
  status : String
  resolvedAt : Option Time
  slaState : SlaState
  slaLastEvaluatedAt : Time
  note : String
  createdAt : Time
  updatedAt : Time
  deriving DecidableEq, Repr

instance : Keyed SupportNote := ⟨SupportNote.id⟩

structure SupportNoteCreateRequest where
  tenantId : Nat
  category : String
  ownerName : Option String
  ownerContact : Option String
  slaDueAt : Option RequestDate
  status : Option String
  note : String

structure SupportNoteUpdateRequest where
  category : Option String
  ownerName : Option String
  ownerContact : Option String
  slaDueAt : Option RequestDate
  status : Option String
  note : Option String

/-- `compute_sla_state`; a date without an offset cannot be compared with the clock. -/
def computeSlaState (status : String) (slaDueAt : Option RequestDate) (now : Time) : Except SupportError SlaState :=
  if status = "resolved" then .ok .resolved
  else
    match slaDueAt with
    | none => .ok .unscheduled
    | some due =>
      if due.aware = false then .error (.typeError "can't compare offset-naive and offset-aware datetimes")
      else if due.instant < now then .ok .breached
      else if due.instant ≤ now + hours 24 then .ok .dueSoon
      else .ok .onTrack

/-- A date as the database returns it. -/
def RequestDate.ofRow (instant : Time) : RequestDate := ⟨instant, true⟩

/-- An administrator or a member of the support. -/
structure StaffUser where
  id : Nat
  email : String
  role : String
  deriving DecidableEq, Repr

/-- What a request runs with: the other rows, a first and a later reading of the clock, and which of its commits
fail. -/
structure SupportEnv where
  db : Db
  now : Time
  later : Time
  commitFails : Nat → Bool

abbrev SupportProc (α : Type) : Type := Session.Proc SupportError (List SupportNote) Unit α

inductive SupportAnswer where
  | notes (entries : List (SupportNote × Option String))
  | note (note : SupportNote) (authorEmail : String)
  | metrics (supportOpenNotes supportBreachedNotes supportDueSoonNotes : Nat)
  deriving DecidableEq, Repr

namespace SupportEnv

variable (env : SupportEnv)

/-- The rows that a commit writes over get `updated_at` by `onupdate`. -/
def flush (saved work : List SupportNote) : List SupportNote :=
  work.map fun note =>
    match get? saved note.id with
    | some old => if old = note then note else { note with updatedAt := env.later }
    | none => note

def commit : SupportProc Unit :=
  Session.Proc.commit (fun t => if env.commitFails t then some .operationalError else none) fun _ => env.flush

end SupportEnv

section

variable (env : SupportEnv)

/-- What `list_support_notes` makes of a note. -/
def SupportNote.reevaluate (now : Time) (note : SupportNote) : Except SupportError SupportNote := do
  let computedState ← computeSlaState note.status (note.slaDueAt.map RequestDate.ofRow) now
  return if note.slaState ≠ computedState then
    { note with
      slaState := computedState
      slaLastEvaluatedAt := now }
  else note

/-- Whether a note is of the tenant that was asked for. -/
def SupportNote.isListed (tenantId : Option Nat) (note : SupportNote) : Bool :=
  match tenantId with
  | some tenantId => note.tenantId = tenantId
  | none => true

def SupportNote.listed (tenantId : Option Nat) (now : Time) (note : SupportNote) : Except SupportError SupportNote :=
  if note.isListed tenantId then note.reevaluate now else .ok note

def listSupportNotes (tenantId : Option Nat) : SupportProc SupportAnswer := do
  let entries ← body fun notes => do
    let notes ← notes.mapM (SupportNote.listed tenantId env.now)
    return (notes.filter fun note => note.isListed tenantId, notes)
  env.commit
  -- the second commit is the audit event's
  env.commit
  let entries := entries.mergeSort fun a b => b.createdAt ≤ a.createdAt
  return .notes (entries.map fun note => (note, (env.db.user? note.authorId).map User.email))

/-- The row of a new note. -/
def newSupportNote (payload : SupportNoteCreateRequest) (tenantId : Nat) (currentAdmin : StaffUser)
    (notes : List SupportNote) : Except SupportError SupportNote := do
  let status := normalize ((orText payload.status (some "open")).getD "open")
  let slaState ← computeSlaState status payload.slaDueAt env.later
  return {
    id := fresh notes
    tenantId := tenantId
    authorId := currentAdmin.id
    authorRole := currentAdmin.role
    category := (nonEmpty (strip payload.category)).getD "note"
    ownerName := (payload.ownerName.bind nonEmpty).map strip
    ownerContact := (payload.ownerContact.bind nonEmpty).map strip
    slaDueAt := payload.slaDueAt.map RequestDate.instant
    status := status
    resolvedAt := if status = "resolved" then some env.now else none
    slaState := slaState
    slaLastEvaluatedAt := env.later
    note := strip payload.note
    createdAt := env.later
    updatedAt := env.later }

/-- The note that `create_support_note` adds. -/
def createdNote (payload : SupportNoteCreateRequest) (currentAdmin : StaffUser) (notes : List SupportNote) :
    Except SupportError (SupportNote × List SupportNote) :=
  match env.db.tenant? payload.tenantId with
  | none => .error (.httpException 404 "Tenant not found")
  | some tenant =>
    if strip payload.note = "" then .error (.httpException 422 "Note cannot be empty")
    else do
      let note ← newSupportNote env payload tenant.id currentAdmin notes
      return (note, insert notes note)

/-- Write a note; the second commit is the audit event's.  The answer is the row as the database has it by then. -/
def storeNote (write : List SupportNote → Except SupportError (SupportNote × List SupportNote))
    (currentAdmin : StaffUser) : SupportProc SupportAnswer := do
  let note ← body write
  env.commit
  env.commit
  return .note { note with updatedAt := env.later } currentAdmin.email

def createSupportNote (payload : SupportNoteCreateRequest) (currentAdmin : StaffUser) : SupportProc SupportAnswer :=
  storeNote env (createdNote env payload currentAdmin) currentAdmin

/-- What `update_support_note` sets before it looks at the date: the columns, and the date with its offset. -/
def SupportNote.updated (now : Time) (payload : SupportNoteUpdateRequest) (note : SupportNote) :
    SupportNote × Option RequestDate :=
  let status := (payload.status.map normalize).getD note.status
  let slaDueAt := payload.slaDueAt.or (note.slaDueAt.map RequestDate.ofRow)
  ({ note with
    category := ((payload.category.map strip).bind nonEmpty).getD note.category
    ownerName := if payload.ownerName.isSome then (payload.ownerName.map strip).bind nonEmpty else note.ownerName
    ownerContact :=
      if payload.ownerContact.isSome then (payload.ownerContact.map strip).bind nonEmpty else note.ownerContact
    slaDueAt := slaDueAt.map RequestDate.instant
    note := (payload.note.map strip).getD note.note
    status := status
    resolvedAt :=
      if payload.status.isNone then note.resolvedAt
      else if status = "resolved" then note.resolvedAt.or (some now)
      else none },
    slaDueAt)

/-- The note as `update_support_note` leaves it. -/
def updatedSupportNote (payload : SupportNoteUpdateRequest) (note : SupportNote) : Except SupportError SupportNote := do
  let (note, slaDueAt) := note.updated env.now payload
  let slaState ← computeSlaState note.status slaDueAt env.later
  return { note with
    slaState := slaState
    slaLastEvaluatedAt := env.later }

/-- The note that `update_support_note` writes. -/
def updatedNote (noteId : Nat) (payload : SupportNoteUpdateRequest) (notes : List SupportNote) :
    Except SupportError (SupportNote × List SupportNote) :=
  match get? notes noteId with
  | none => .error (.httpException 404 "Support note not found")
  | some note => do
    let note ← updatedSupportNote env payload note
    return (note, put notes note)

def updateSupportNote (noteId : Nat) (payload : SupportNoteUpdateRequest) (currentAdmin : StaffUser) :
    SupportProc SupportAnswer := storeNote env (updatedNote env noteId payload) currentAdmin

/-- The counts of notes in `get_admin_metrics`. -/
def supportMetrics (notes : List SupportNote) : SupportAnswer :=
  .metrics (notes.countP fun note => note.status ≠ "resolved") (notes.countP fun note => note.slaState = .breached)
    (notes.countP fun note => note.slaState = .dueSoon)

def getAdminMetrics : SupportProc SupportAnswer := do
  let notes ← read
  env.commit
  return supportMetrics notes

end

/-! ### Runs -/

inductive SupportRequest where
  | list (tenantId : Option Nat)
  | create (payload : SupportNoteCreateRequest) (currentAdmin : StaffUser)
  | update (noteId : Nat) (payload : SupportNoteUpdateRequest) (currentAdmin : StaffUser)
  | metrics

def SupportRequest.program (env : SupportEnv) : SupportRequest → SupportProc SupportAnswer
  | list tenantId => listSupportNotes env tenantId
  | create payload currentAdmin => createSupportNote env payload currentAdmin
  | update noteId payload currentAdmin => updateSupportNote env noteId payload currentAdmin
  | metrics => getAdminMetrics env

/-- A request that comes after a time and takes a time. -/
structure SupportArrival where
  elapsed : Nat
  taken : Nat
  db : Db
  commitFails : Nat → Bool
  request : SupportRequest

/-- The notes, and the time at which the last request ended. -/
structure SupportDesk where
  now : Time
  notes : List SupportNote

namespace SupportDesk

def env (desk : SupportDesk) (arrival : SupportArrival) : SupportEnv :=
  ⟨arrival.db, desk.now + arrival.elapsed, desk.now + arrival.elapsed + arrival.taken, arrival.commitFails⟩

/-- A request's answer, and the session it leaves. -/
def answer (desk : SupportDesk) (arrival : SupportArrival) :
    Except SupportError SupportAnswer × Session.State (List SupportNote) Unit :=
  arrival.request.program (desk.env arrival) (opened desk.notes ())

def step (desk : SupportDesk) (arrival : SupportArrival) : SupportDesk :=
  ⟨(desk.env arrival).later, (desk.answer arrival).2.saved⟩

end SupportDesk

end ControlPlane
