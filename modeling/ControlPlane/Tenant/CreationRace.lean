import ControlPlane.Identity.TokenStore
import ControlPlane.TenantCreation
import Mathlib.Logic.Function.Basic

/-!
# Requests to create a tenant at the same time

`create_tenant` looks its idempotency key up in the token store, creates the tenant with four commits and a call of the
gateway, and stores the response under the key when all of that is done.  Here these are separate steps of any number of
requests that one user sends with one key.  A response is told by its tenant.
-/

namespace ControlPlane

open Table Session Session.Proc

/-- The payload of a request. -/
structure TenantCreateRequest where
  subdomain : String
  companyName : String
  plan : String
  chosenApp : Option String
  deriving DecidableEq, Repr

/-- The tenant a request has committed, with what it keeps of it for the rest of its work. -/
structure NewCreation where
  tenantId : Nat
  plan : Plan
  selectedApp : Option String
  trialStatus : SubscriptionStatus
  trialEndsAt : Option Time
  deriving DecidableEq, Repr

/-- Where a request is; `failed` knows the tenant the request leaves, if it had committed one. -/
inductive CreationPhase where
  | looking
  | preparing
  | joining (creation : NewCreation)
  | checkingOut (creation : NewCreation)
  | auditing (tenantId : Nat)
  | storing (tenantId : Nat)
  | created (tenantId : Nat)
  | replayed (tenantId : Nat)
  | failed (tenantId : Option Nat)
  deriving DecidableEq, Repr

/-- The tenant the request has committed. -/
def CreationPhase.tenant : CreationPhase → Option Nat
  | .joining creation | .checkingOut creation => some creation.tenantId
  | .auditing tenantId | .storing tenantId | .created tenantId => some tenantId
  | .failed tenantId => tenantId
  | .looking | .preparing | .replayed _ => none

/-- The tenant the request has answered with. -/
def CreationPhase.answer : CreationPhase → Option Nat
  | .created tenantId | .replayed tenantId => some tenantId
  | _ => none

/-- The request has not found a response, and it has not been refused: it may commit a tenant or has done so. -/
def CreationPhase.engaged (phase : CreationPhase) : Prop := phase = .preparing ∨ phase.tenant ≠ none

section

variable (env : Env) (owner : User)

/-- The checks and the first commit. -/
def prepareStep (payload : TenantCreateRequest) : Proc NewCreation := do
  let time ← utcnow env
  let (tenantId, selectedPlan, selectedApp) ← change env fun now _ db =>
    prepareTenant env.settings owner payload.subdomain payload.companyName payload.plan payload.chosenApp now db
  commit env
  return ⟨tenantId, selectedPlan, selectedApp, (trialStart env.settings time).1, (trialStart env.settings time).2⟩

/-- The owner's membership. -/
def joinStep (creation : NewCreation) : Proc Unit := do
  modify fun db =>
    { db with memberships := insert db.memberships ⟨fresh db.memberships, creation.tenantId, owner.id, "owner"⟩ }
  commit env

/-- The checkout, and what is recorded of it. -/
def checkOutStep (creation : NewCreation) : Proc Unit := do
  change env fun _ _ db => recordCheckout env owner creation.tenantId creation.plan creation.selectedApp
    creation.trialStatus creation.trialEndsAt db
  commit env

def auditStep (tenantId : Nat) : Proc Unit := recordAuditEvent env "tenant.create" "tenants" (some tenantId)

/-- The steps one after another are the function. -/
theorem createTenantAndStartCheckout_steps (payload : TenantCreateRequest) :
    createTenantAndStartCheckout env owner payload.subdomain payload.companyName payload.plan payload.chosenApp = do
      let creation ← prepareStep env owner payload
      joinStep env owner creation
      checkOutStep env owner creation
      auditStep env creation.tenantId
      return creation.tenantId := by
  unfold createTenantAndStartCheckout prepareStep joinStep checkOutStep auditStep
  simp only [Session.Proc.bind_assoc, Session.Proc.pure_bind]

end

/-- The user, the key, and for each request its payload and what it meets; the settings are the process's. -/
structure KeyedRequests where
  owner : User
  idempotencyKey : String
  settings : Settings
  payload : Nat → TenantCreateRequest
  envs : Nat → Env

namespace KeyedRequests

/-- `cache_key`. -/
def cacheKey (r : KeyedRequests) : Option String :=
  if r.idempotencyKey = "" then none
  else some ("idempotency:" ++ r.settings.idText r.owner.id ++ ":" ++ r.idempotencyKey)

def env (r : KeyedRequests) (i : Nat) : Env := { r.envs i with settings := r.settings }

/-- The subdomain that a request asks for, as its check leaves it. -/
def subdomain (r : KeyedRequests) (i : Nat) : Except PyError String := validateSubdomain (r.payload i).subdomain

end KeyedRequests

/-- The committed rows, the token store and its clock, and where each request is. -/
structure CreationRace where
  db : Db
  store : InMemoryTokenStore String Nat
  now : Time
  phase : Nat → CreationPhase
  tick : Nat → Nat

/-- Time passes, a request takes its next step, or a request ends where it is. -/
inductive CreationMove where
  | passes (time : Nat)
  | advances (i : Nat)
  | cutOff (i : Nat)
  deriving DecidableEq, Repr

namespace CreationRace

def setPhase (s : CreationRace) (i : Nat) (phase : CreationPhase) : CreationRace :=
  { s with phase := Function.update s.phase i phase }

/-- A request runs a part of its program on the committed rows; an exception ends it. -/
def runs {α : Type} (s : CreationRace) (i : Nat) (program : Proc α) (next : α → CreationPhase) : CreationRace :=
  match program ⟨s.db, s.db, [], s.tick i⟩ with
  | (.ok a, s') =>
    { s with db := s'.saved, phase := Function.update s.phase i (next a), tick := Function.update s.tick i s'.tick }
  | (.error _, s') =>
    { s with db := s'.saved, phase := Function.update s.phase i (.failed (s.phase i).tenant)
             tick := Function.update s.tick i s'.tick }

variable (r : KeyedRequests) (s : CreationRace)

/-- What a request finds under the key now. -/
def found : Option Nat := r.cacheKey.bind fun name => s.store.lookup s.now name

/-- The next step of a request. -/
def advance (i : Nat) : CreationRace :=
  match s.phase i with
  | .looking =>
    match r.cacheKey with
    | none => s.setPhase i .preparing
    | some name =>
      match s.store.get s.now name with
      | (some tenantId, store) => { s with store := store }.setPhase i (.replayed tenantId)
      | (none, store) => { s with store := store }.setPhase i .preparing
  | .preparing => s.runs i (prepareStep (r.env i) r.owner (r.payload i)) .joining
  | .joining creation => s.runs i (joinStep (r.env i) r.owner creation) fun _ => .checkingOut creation
  | .checkingOut creation => s.runs i (checkOutStep (r.env i) r.owner creation) fun _ => .auditing creation.tenantId
  | .auditing tenantId => s.runs i (auditStep (r.env i) tenantId) fun _ => .storing tenantId
  | .storing tenantId =>
    match r.cacheKey with
    | none => s.setPhase i (.created tenantId)
    | some name => { s with store := s.store.setex s.now name (24 * 60 * 60) tenantId }.setPhase i (.created tenantId)
  | .created _ | .replayed _ | .failed _ => s

def step : CreationMove → CreationRace
  | .passes time => { s with now := s.now + time }
  | .advances i => s.advance r i
  | .cutOff i =>
    match s.phase i with
    | .created _ | .replayed _ | .failed _ => s
    | phase => s.setPhase i (.failed phase.tenant)

/-- What the key is for: over the rows `base` there is one tenant more at most, and every request that succeeds answers
with it and has asked for its subdomain. -/
structure KeyWorks (base : Db) : Prop where
  one : s.db.tenants.length ≤ base.tenants.length + 1
  same : ∀ i j t t', (s.phase i).answer = some t → (s.phase j).answer = some t' → t = t'
  own : ∀ i t, (s.phase i).answer = some t → base.tenant? t = none ∧
    ∃ tenant, s.db.tenant? t = some tenant ∧ r.subdomain i = .ok tenant.subdomain

/-- A request that finds a response asks for the subdomain of its tenant; one that finds none asks for the same as every
request that is engaged. -/
def sameSubdomain : CreationMove → Prop
  | .advances i => s.phase i = .looking →
    match s.found r with
    | some t => ∀ tenant, s.db.tenant? t = some tenant → r.subdomain i = .ok tenant.subdomain
    | none => ∀ j, (s.phase j).engaged → r.subdomain j = r.subdomain i
  | _ => True

/-- No request has begun, and nothing is stored under the key. -/
structure KeyUnused : Prop where
  phase : ∀ i, s.phase i = .looking
  found : s.found r = none

end CreationRace

end ControlPlane
