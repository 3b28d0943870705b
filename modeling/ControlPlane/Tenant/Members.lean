import ControlPlane.Frames
import ControlPlane.Tenant.Service

/-!
# Team endpoints

Inviting a member, changing a member's role and removing a member.  Each request checks the role of the member who makes
it, and what it may do to the membership it is about.  The reset link an invited user gets is left out.
-/

namespace ControlPlane

open Table Session Session.Proc

inductive TenantRole where
  | owner | admin | billing | technical
  deriving DecidableEq, Repr

def TenantRole.text : TenantRole → String
  | owner => "owner"
  | admin => "admin"
  | billing => "billing"
  | technical => "technical"

/-- `TENANT_ROLES`. -/
def tenantRoles : List TenantRole := [.owner, .admin, .billing, .technical]

/-- `TENANT_ROLE_CAN_MANAGE_TEAM`. -/
def tenantRoleCanManageTeam : List TenantRole := [.owner, .admin]

/-- `TENANT_ROLE_CAN_MANAGE_BILLING`. -/
def tenantRoleCanManageBilling : List TenantRole := [.owner, .admin, .billing]

/-- `get_membership`. -/
def getMembership (db : Db) (tenantId userId : Nat) : Option TenantMembership :=
  db.memberships.find? fun m => m.tenantId = tenantId ∧ m.userId = userId

/-- `ensure_membership`: none for a platform admin; a tenant's owner gets a missing membership, which is committed. -/
def ensureTenantMembership (env : Env) (tenant : Tenant) (user : User) : Proc (Option TenantMembership) := do
  if user.isAdmin then
    return none
  else
    let db ← read
    match getMembership db tenant.id user.id with
    | some membership => return some membership
    | none =>
      if tenant.ownerId = user.id then
        let membership : TenantMembership := ⟨fresh db.memberships, tenant.id, user.id, TenantRole.owner.text⟩
        modify fun db => { db with memberships := insert db.memberships membership }
        commit env
        return some membership
      else
        raise (.httpException 403 "Forbidden")

/-- `require_role`. -/
def requireRole (env : Env) (tenant : Tenant) (user : User) (allowedRoles : List TenantRole) : Proc Unit := do
  match ← ensureTenantMembership env tenant user with
  | none => return ()
  | some membership =>
    if membership.role ∈ allowedRoles.map TenantRole.text then return () else raise (.httpException 403 "Forbidden")

/-- `get_current_user`, after the token. -/
def requireUser (db : Db) (userId : Nat) : Except PyError User :=
  match db.user? userId with
  | some user => .ok user
  | none => .error (.httpException 401 "User not found")

/-- `_get_accessible_tenant`. -/
def getAccessibleTenant (env : Env) (tenantId : Nat) (user : User) : Proc Tenant := do
  let tenant ← change env fun _ _ db => do
    let tenant ← requireTenant db tenantId
    return (tenant, db)
  let _ ← ensureTenantMembership env tenant user
  return tenant

/-- What the three team endpoints begin with: the user and the tenant, once the user's role and the tenant's billing
allow the operation. -/
def openTeam (env : Env) (userId tenantId : Nat) (operation : String) : Proc (User × Tenant) := do
  let user ← change env fun _ _ db => do
    let user ← requireUser db userId
    return (user, db)
  let tenant ← getAccessibleTenant env tenantId user
  requireRole env tenant user tenantRoleCanManageTeam
  change env fun now _ db => do
    enforceBillingOperationPolicy db tenant operation now
    return ((), db)
  return (user, tenant)

/-- The user an invitation is for, created and committed if nobody has the address. -/
def invitedUser (env : Env) (email : String) : Proc Nat := do
  let db ← read
  match db.users.find? fun u => u.email = email with
  | some user => return user.id
  | none =>
    let id := fresh db.users
    modify fun db => { db with users := insert db.users ⟨id, email, false, false⟩ }
    commit env
    return id

/-- The new membership of an invited user. -/
def addMembership (tenantId userId : Nat) (role : TenantRole) (db : Db) : Except PyError (Nat × Db) :=
  match getMembership db tenantId userId with
  | some _ => .error (.httpException 409 "User is already a member of this tenant")
  | none =>
    let membership : TenantMembership := ⟨fresh db.memberships, tenantId, userId, role.text⟩
    .ok (membership.id, { db with memberships := insert db.memberships membership })

def inviteTenantMember (env : Env) (userId tenantId : Nat) (email : String) (role : TenantRole) : Proc Nat := do
  let (_, tenant) ← openTeam env userId tenantId "Member invites"
  if role ∉ tenantRoles then raise (.httpException 422 "Invalid member role")
  else
    let invited ← invitedUser env (lower email)
    let id ← change env fun _ _ db => addMembership tenant.id invited role db
    commit env
    recordAuditEvent env "tenant.member_invited" "memberships" (some id)
    return id

/-- The tenant's membership with an id. -/
def requireMembership (db : Db) (tenantId memberId : Nat) : Except PyError TenantMembership :=
  match get? db.memberships memberId with
  | some membership =>
    if membership.tenantId = tenantId then .ok membership else .error (.httpException 404 "Member not found")
  | none => .error (.httpException 404 "Member not found")

/-- The role written to a membership: nobody but a platform admin takes an owner's role away. -/
def assignRole (user : User) (tenantId memberId : Nat) (role : TenantRole) (db : Db) : Except PyError (Unit × Db) := do
  let membership ← requireMembership db tenantId memberId
  raiseIf (role ∉ tenantRoles) (.httpException 422 "Invalid member role")
  raiseIf (membership.role = TenantRole.owner.text ∧ role ≠ .owner ∧ ¬user.isAdmin)
    (.httpException 409 "Owner role cannot be changed")
  return ((), { db with memberships := put db.memberships { membership with role := role.text } })

def updateTenantMemberRole (env : Env) (userId tenantId memberId : Nat) (role : TenantRole) : Proc Unit := do
  let (user, tenant) ← openTeam env userId tenantId "Member role updates"
  change env fun _ _ db => assignRole user tenant.id memberId role db
  commit env
  recordAuditEvent env "tenant.member_role_updated" "memberships" (some memberId)

/-- The membership deleted. -/
def deleteMembership (tenantId memberId : Nat) (db : Db) : Except PyError (Unit × Db) := do
  let membership ← requireMembership db tenantId memberId
  raiseIf (membership.role = TenantRole.owner.text) (.httpException 409 "Owner membership cannot be removed")
  return ((), { db with memberships := db.memberships.filter fun m => m.id ≠ memberId })

def removeTenantMember (env : Env) (userId tenantId memberId : Nat) : Proc Unit := do
  let (_, tenant) ← openTeam env userId tenantId "Member removal"
  change env fun _ _ db => deleteMembership tenant.id memberId db
  commit env
  recordAuditEvent env "tenant.member_removed" "memberships" (some memberId)

/-! ### Requests one after another -/

inductive TeamOp where
  | invite (email : String) (role : TenantRole)
  | updateRole (memberId : Nat) (role : TenantRole)
  | remove (memberId : Nat)
  deriving DecidableEq, Repr

/-- A request of a user, and what the control plane meets while it answers it. -/
structure TeamEvent where
  env : Env
  userId : Nat
  op : TeamOp

def teamProgram (tenantId : Nat) (e : TeamEvent) : Proc Unit :=
  match e.op with
  | .invite email role => do
    let _ ← inviteTenantMember e.env e.userId tenantId email role
  | .updateRole memberId role => updateTenantMemberRole e.env e.userId tenantId memberId role
  | .remove memberId => removeTenantMember e.env e.userId tenantId memberId

/-- The committed rows after a request for one tenant. -/
def teamStep (tenantId : Nat) (db : Db) (e : TeamEvent) : Db := (teamProgram tenantId e (opened db [])).2.saved

end ControlPlane
