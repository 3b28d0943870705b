import ControlPlane.Base.Session
import ControlPlane.Base.Table
import ControlPlane.Billing.ReadModels
import ControlPlane.Identity.TokenStore

/-!
# Accounts and the tokens that are mailed

The endpoints that make accounts and change them: signing up, the two tokens that are mailed, which verify an address and
reset a password, and the links with which an administrator takes on an account.  A token is kept under its digest, and a
request that presents it takes it out.  The state notes which tokens were issued and which keys were taken, for the
theorems.
-/

namespace ControlPlane

open Table Session Session.Proc

inductive AccountRole where
  | user | support | admin
  deriving DecidableEq, Repr

def AccountRole.text : AccountRole → String
  | user => "user"
  | support => "support"
  | admin => "admin"

/-- A row of `users`. -/
structure Account where
  id : Nat
  email : String
  phone : Option String
  passwordHash : String
  role : AccountRole
  emailVerified : Bool
  emailVerifiedAt : Option Time
  createdAt : Time
  deriving DecidableEq, Repr

instance : Keyed Account := ⟨Account.id⟩

/-- What `record_audit_event` writes, but for the address the request came from. -/
structure AccountAudit where
  actorId : Option Nat
  actorRole : String
  action : String
  resource : String
  resourceId : Option Nat
  metadata : List (String × String)
  deriving DecidableEq, Repr

structure AccountRows where
  users : List Account
  auditLogs : List AccountAudit

/-- The configuration, and what the endpoints use of the libraries: `lower` is `str.lower`, `sha256` the hexadecimal digest
of a text, and what is random is a stream of draws. -/
structure AccountSettings where
  emailVerificationTokenExpireHours : Nat
  emailVerificationUrlBase : String
  passwordResetTokenExpireMinutes : Nat
  passwordResetUrlBase : String
  supportImpersonationTokenExpireMinutes : Nat
  supportImpersonationUrlBase : String
  lower : String → String
  sha256 : String → String
  tokenUrlsafe : Nat → String
  uuid4 : Nat → Nat
  hashPassword : Nat → String → String
  verifyPassword : String → String → Bool

/-- What an impersonation token stands for. -/
structure ImpersonationPayload where
  targetUserId : Nat
  targetEmail : String
  adminUserId : Nat
  reason : String
  issuedAt : Time
  deriving DecidableEq, Repr

/-- What the store keeps for a token: the id of a user, or the text of a payload. -/
inductive TokenValue where
  | userId (id : Nat)
  | impersonation (payload : ImpersonationPayload)
  deriving DecidableEq, Repr

def TokenValue.userId? : TokenValue → Option Nat
  | userId id => some id
  | impersonation _ => none

/-- The account that a token concerns. -/
def TokenValue.account : TokenValue → Nat
  | userId id => id
  | impersonation payload => payload.targetUserId

inductive TokenPurpose where
  | passwordReset | emailVerification | impersonation
  deriving DecidableEq, Repr

def TokenPurpose.label : TokenPurpose → String
  | passwordReset => "password-reset"
  | emailVerification => "email-verify"
  | impersonation => "impersonation"

/-- The key of a token's entry. -/
def tokenKey (settings : AccountSettings) (purpose : TokenPurpose) (rawToken : String) : String :=
  purpose.label ++ ":" ++ settings.sha256 rawToken

/-- `_password_reset_token_key`. -/
def passwordResetTokenKey (settings : AccountSettings) : String → String := tokenKey settings .passwordReset

/-- `_email_verification_token_key`. -/
def emailVerificationTokenKey (settings : AccountSettings) : String → String := tokenKey settings .emailVerification

/-- `_impersonation_token_key`. -/
def impersonationTokenKey (settings : AccountSettings) : String → String := tokenKey settings .impersonation

/-- A mail, as a background task. -/
structure TokenMail where
  purpose : TokenPurpose
  toEmail : String
  token : String
  url : String
  toPhone : Option String
  deriving DecidableEq, Repr

/-- A token that was issued, and when its entry runs out. -/
structure IssuedSecret where
  purpose : TokenPurpose
  token : String
  value : TokenValue
  expiresAt : Time
  deriving DecidableEq, Repr

/-- What lies outside the database: the token store, the draws of random values, and the background tasks of the request.
`issued` and `taken` are records of what was done, which no code reads. -/
structure Office where
  store : InMemoryTokenStore String TokenValue
  tokens : Nat
  uuids : Nat
  salts : Nat
  background : List TokenMail
  issued : List IssuedSecret
  taken : List String

/-- `getdel`. -/
def InMemoryTokenStore.getdel {K V : Type} [DecidableEq K] (store : InMemoryTokenStore K V) (now : Time) (name : K) :
    Option V × InMemoryTokenStore K V :=
  let store := store.purgeExpired now name
  ((store.items name).map StoreItem.value, ⟨Function.update store.items name none⟩)

abbrev AccountProc (α : Type) : Type := Session.Proc PyError AccountRows Office α

abbrev AccountSession := Session.State AccountRows Office

/-- What a request runs with: the configuration, the instant, and which of its commits fail. -/
structure AccountEnv where
  settings : AccountSettings
  now : Time
  commitFails : Nat → Bool

/-- `background_tasks.add_task`. -/
def addTask (mail : TokenMail) : AccountProc Unit :=
  call fun _ office => .ok ((), { office with background := office.background ++ [mail] })

namespace AccountEnv

variable (env : AccountEnv)

def commit : AccountProc Unit :=
  Session.Proc.commit (fun t => if env.commitFails t then some .operationalError else none) fun _ _ rows => rows

/-- `secrets.token_urlsafe(32)`. -/
def tokenUrlsafe : AccountProc String :=
  call fun _ office => .ok (env.settings.tokenUrlsafe office.tokens, { office with tokens := office.tokens + 1 })

/-- `uuid.uuid4()`. -/
def uuid4 : AccountProc Nat :=
  call fun _ office => .ok (env.settings.uuid4 office.uuids, { office with uuids := office.uuids + 1 })

/-- `hash_password`, with a salt of its own. -/
def hashPassword (password : String) : AccountProc String :=
  call fun _ office => .ok (env.settings.hashPassword office.salts password, { office with salts := office.salts + 1 })

/-- `token_store.setex` of a token. -/
def storeToken (purpose : TokenPurpose) (token : String) (ttlSeconds : Nat) (value : TokenValue) : AccountProc Unit :=
  call fun _ office => .ok ((), { office with
    store := office.store.setex env.now (tokenKey env.settings purpose token) ttlSeconds value
    issued := office.issued ++ [⟨purpose, token, value, env.now + seconds (max ttlSeconds 1)⟩] })

/-- `_consume_single_use_token`. -/
def consumeSingleUseToken (purpose : TokenPurpose) (token : String) : AccountProc (Option TokenValue) :=
  call fun _ office =>
    let (value, store) := office.store.getdel env.now (tokenKey env.settings purpose token)
    .ok (value, { office with
      store := store, taken := office.taken ++ if value.isSome then [tokenKey env.settings purpose token] else [] })

/-- `record_audit_event`, by a user or by somebody of a role. -/
def recordAuditEvent (actor : Option Account) (actorRole action resource : String) (resourceId : Option Nat)
    (metadata : List (String × String)) : AccountProc Unit := do
  let entry : AccountAudit :=
    ⟨actor.map Account.id, (actor.map fun user => user.role.text).getD actorRole, action, resource, resourceId, metadata⟩
  modify fun rows => { rows with auditLogs := rows.auditLogs ++ [entry] }
  env.commit

/-- `_queue_email_verification`. -/
def queueEmailVerification (user : Account) : AccountProc Unit := do
  let token ← env.tokenUrlsafe
  env.storeToken .emailVerification token (env.settings.emailVerificationTokenExpireHours * 60 * 60) (.userId user.id)
  addTask ⟨.emailVerification, user.email, token,
    env.settings.emailVerificationUrlBase ++ "?token=" ++ token, user.phone⟩

/-- The reset token that is mailed to an account, as asked for or with an invitation. -/
def storePasswordReset (userId : Nat) : AccountProc String := do
  let token ← env.tokenUrlsafe
  env.storeToken .passwordReset token (env.settings.passwordResetTokenExpireMinutes * 60) (.userId userId)
  return token

end AccountEnv

/-! ### Answers -/

structure UserOut where
  id : Nat
  email : String
  phone : Option String
  role : String
  emailVerified : Bool
  emailVerifiedAt : Option Time
  createdAt : Time
  deriving DecidableEq, Repr

/-- `UserOut.model_validate`. -/
def Account.out (user : Account) : UserOut :=
  ⟨user.id, user.email, user.phone, user.role.text, user.emailVerified, user.emailVerifiedAt, user.createdAt⟩

/-- `_generic_signup_response`, with the random id it makes up. -/
def genericSignupResponse (id : Nat) (email : String) (phone : Option String) (now : Time) : UserOut :=
  ⟨id, email, phone, "user", false, none, now⟩

inductive AccountAnswer where
  | user (out : UserOut)
  | signedIn (userId : Nat)
  | impersonating (userId impersonatedBy : Nat)
  | message (text : String)
  | link (token url : String) (expiresAt : Time) (targetUserId : Nat) (targetEmail : String)
  | invited (userId : Nat)
  deriving DecidableEq, Repr

/-- `db.query(User).filter(User.email == email).first()`. -/
def AccountRows.byEmail (rows : AccountRows) (email : String) : Option Account :=
  rows.users.find? fun user => user.email = email

/-- The row is inserted with the next commit, which its primary key may refuse. -/
def insertUser (user : Account) (rows : AccountRows) : Except PyError (Unit × AccountRows) := do
  raiseIf ((get? rows.users user.id).isSome) (.integrityError "users.id")
  return ((), { rows with users := insert rows.users user })

/-! ### Endpoints -/

section

variable (env : AccountEnv)

def signup (email password : String) (phone : Option String) : AccountProc AccountAnswer := do
  let normalizedEmail := env.settings.lower email
  let rows ← read
  if (rows.byEmail normalizedEmail).isSome then
    env.recordAuditEvent none "anonymous" "auth.signup_duplicate" "users" none [("email", normalizedEmail)]
    let id ← env.uuid4
    return .user (genericSignupResponse id normalizedEmail phone env.now)
  else
    let passwordHash ← env.hashPassword password
    let id ← env.uuid4
    let user : Account := ⟨id, normalizedEmail, phone, passwordHash, .user, false, none, env.now⟩
    body (insertUser user)
    env.commit
    env.recordAuditEvent (some user) "system" "auth.signup" "users" (some user.id)
      [("email", user.email), ("email_verified", toString user.emailVerified)]
    env.queueEmailVerification user
    return .user user.out

/-- `login`, up to the tokens it hands out. -/
def loginAccount (email password : String) : AccountProc AccountAnswer := do
  let rows ← read
  match rows.byEmail (env.settings.lower email) with
  | none =>
    env.recordAuditEvent none "anonymous" "auth.login_failed" "users" none [("email", env.settings.lower email)]
    raise (.httpException 401 "Invalid credentials")
  | some user =>
    if env.settings.verifyPassword password user.passwordHash then
      env.recordAuditEvent (some user) "system" "auth.login" "users" (some user.id) []
      return .signedIn user.id
    else
      env.recordAuditEvent (some user) "system" "auth.login_failed" "users" (some user.id)
        [("email", env.settings.lower email)]
      raise (.httpException 401 "Invalid credentials")

/-- `get_current_user`, after the token. -/
def requireAccount (userId : Nat) : AccountProc Account := do
  let rows ← read
  match get? rows.users userId with
  | some user => return user
  | none => raise (.httpException 401 "User not found")

def updateMe (userId : Nat) (phone : Option String) : AccountProc AccountAnswer := do
  let user ← requireAccount userId
  let user := { user with phone := (phone.map strip).bind nonEmpty }
  modify fun rows => { rows with users := put rows.users user }
  env.commit
  env.recordAuditEvent (some user) "system" "auth.profile_updated" "users" (some user.id) [("updated_fields", "phone")]
  return .user user.out

/-- The account of a redeemed token, or the answer to a token that stands for none. -/
def redeemedAccount (value : Option TokenValue) (detail : String) : AccountProc Account := do
  let rows ← read
  match (value.bind TokenValue.userId?).bind (get? rows.users) with
  | some user => return user
  | none => raise (.httpException 400 detail)

def verifyEmail (token : String) : AccountProc AccountAnswer := do
  let value ← env.consumeSingleUseToken .emailVerification token
  let user ← redeemedAccount value "Verification token is invalid or expired"
  if user.emailVerified then
    env.recordAuditEvent (some user) "system" "auth.email_verified" "users" (some user.id) []
  else
    let user := { user with emailVerified := true, emailVerifiedAt := some env.now }
    modify fun rows => { rows with users := put rows.users user }
    env.commit
    env.recordAuditEvent (some user) "system" "auth.email_verified" "users" (some user.id) []
  return .message "Email verified successfully. You can now create a workspace."

def resendVerification (userId : Nat) : AccountProc AccountAnswer := do
  let user ← requireAccount userId
  if user.emailVerified then
    return .message "Email is already verified."
  else
    env.queueEmailVerification user
    env.recordAuditEvent (some user) "system" "auth.email_verification_resent" "users" (some user.id) []
    return .message "Verification email sent. Please check your inbox."

def forgotPassword (email : String) : AccountProc AccountAnswer := do
  let normalizedEmail := env.settings.lower email
  let rows ← read
  match rows.byEmail normalizedEmail with
  | some user =>
    let token ← env.storePasswordReset user.id
    env.recordAuditEvent (some user) "system" "auth.forgot_password_requested" "users" (some user.id) []
    addTask ⟨.passwordReset, normalizedEmail, token, env.settings.passwordResetUrlBase ++ "?token=" ++ token,
      user.phone⟩
  | none =>
    env.recordAuditEvent none "anonymous" "auth.forgot_password_requested" "users" none
      [("email", normalizedEmail), ("user_found", "False")]
  return .message "If the account exists, password reset instructions have been sent."

def resetPassword (token newPassword : String) : AccountProc AccountAnswer := do
  let value ← env.consumeSingleUseToken .passwordReset token
  let user ← redeemedAccount value "Reset token is invalid or expired"
  let passwordHash ← env.hashPassword newPassword
  let user := { user with passwordHash := passwordHash }
  modify fun rows => { rows with users := put rows.users user }
  env.commit
  env.recordAuditEvent (some user) "system" "auth.password_reset" "users" (some user.id) []
  return .message "Password reset successful. You can now sign in."

/-- `require_admin`. -/
def requireAdmin (userId : Nat) : AccountProc Account := do
  let user ← requireAccount userId
  if user.role = .admin then return user else raise (.httpException 403 "Admin access required")

def createImpersonationLink (adminId : Nat) (targetEmail reason : String) : AccountProc AccountAnswer := do
  let currentAdmin ← requireAdmin adminId
  let rows ← read
  match rows.byEmail (env.settings.lower targetEmail) with
  | none => raise (.httpException 404 "Target user not found")
  | some target =>
    if target.id = currentAdmin.id then raise (.httpException 400 "Cannot impersonate your own account")
    else
      let token ← env.tokenUrlsafe
      let ttlSeconds := max env.settings.supportImpersonationTokenExpireMinutes 1 * 60
      let expiresAt := env.now + seconds ttlSeconds
      env.storeToken .impersonation token ttlSeconds
        (.impersonation ⟨target.id, target.email, currentAdmin.id, strip reason, env.now⟩)
      env.recordAuditEvent (some currentAdmin) "system" "admin.impersonation_link_issued" "users" (some target.id)
        [("target_user_id", toString target.id), ("target_email", target.email),
          ("token_hash_prefix", String.ofList ((env.settings.sha256 token).toList.take 12)), ("reason", strip reason),
          ("expires_at", toString expiresAt)]
      return .link token (rstripSlash env.settings.supportImpersonationUrlBase ++ "?token=" ++ token) expiresAt target.id
        target.email

def exchangeImpersonationToken (token : String) : AccountProc AccountAnswer := do
  match ← env.consumeSingleUseToken .impersonation token with
  | none => raise (.httpException 400 "Impersonation token is invalid or expired")
  -- the id of a user is no JSON
  | some (.userId _) => raise (.httpException 400 "Impersonation token is invalid")
  | some (.impersonation payload) =>
    let rows ← read
    match get? rows.users payload.targetUserId, get? rows.users payload.adminUserId with
    | some target, some admin =>
      let reason := strip payload.reason
      env.recordAuditEvent (some target) "system" "auth.impersonation_consumed" "users" (some target.id)
        [("impersonated_by", toString admin.id), ("reason", reason)]
      env.recordAuditEvent (some admin) "system" "admin.impersonation_session_issued" "users" (some target.id)
        [("target_user_id", toString target.id), ("reason", reason)]
      return .impersonating target.id admin.id
    | _, _ => raise (.httpException 400 "Impersonation token is invalid")

/-- The account that `invite_tenant_member` invites, which it makes where there is none. -/
def invitedAccount (email : String) : AccountProc Nat := do
  let rows ← read
  match rows.byEmail email with
  | some user => return user.id
  | none =>
    let tempPassword ← env.tokenUrlsafe
    let passwordHash ← env.hashPassword tempPassword
    let id ← env.uuid4
    body (insertUser ⟨id, email, none, passwordHash, .user, false, none, env.now⟩)
    env.commit
    let token ← env.storePasswordReset id
    addTask ⟨.passwordReset, email, token, env.settings.passwordResetUrlBase ++ "?token=" ++ token, none⟩
    return id

/-- `invite_tenant_member`, which goes on with the membership. -/
def inviteAccount (email : String) (membership : Except PyError Unit) : AccountProc AccountAnswer := do
  let userId ← invitedAccount env (env.settings.lower email)
  match membership with
  | .ok _ => return .invited userId
  | .error error => raise error

end

/-! ### Runs -/

inductive AccountRequest where
  | signup (email password : String) (phone : Option String)
  | login (email password : String)
  | updateMe (userId : Nat) (phone : Option String)
  | verifyEmail (token : String)
  | resendVerification (userId : Nat)
  | forgotPassword (email : String)
  | resetPassword (token newPassword : String)
  | createImpersonationLink (adminId : Nat) (targetEmail reason : String)
  | exchangeImpersonationToken (token : String)
  | invite (email : String) (membership : Except PyError Unit)

/-- A request, the time since the one before, and which of its commits fail. -/
structure AccountArrival where
  elapsed : Nat
  commitFails : Nat → Bool
  request : AccountRequest

/-- What the requests share, and the mails that were sent. -/
structure Accounts where
  rows : AccountRows
  office : Office
  now : Time
  mails : List TokenMail

def AccountRequest.program (env : AccountEnv) : AccountRequest → AccountProc AccountAnswer
  | signup email password phone => ControlPlane.signup env email password phone
  | login email password => loginAccount env email password
  | updateMe userId phone => ControlPlane.updateMe env userId phone
  | verifyEmail token => ControlPlane.verifyEmail env token
  | resendVerification userId => ControlPlane.resendVerification env userId
  | forgotPassword email => ControlPlane.forgotPassword env email
  | resetPassword token newPassword => ControlPlane.resetPassword env token newPassword
  | createImpersonationLink adminId targetEmail reason => ControlPlane.createImpersonationLink env adminId targetEmail reason
  | exchangeImpersonationToken token => ControlPlane.exchangeImpersonationToken env token
  | invite email membership => inviteAccount env email membership

namespace Accounts

variable (settings : AccountSettings)

/-- The accounts `users`, with an empty store. -/
def started (users : List Account) (now : Time) : Accounts :=
  ⟨⟨users, []⟩, ⟨.empty, 0, 0, 0, [], [], []⟩, now, []⟩

/-- What a request runs with. -/
def envOf (s : Accounts) (arrival : AccountArrival) : AccountEnv :=
  ⟨settings, s.now + arrival.elapsed, arrival.commitFails⟩

/-- A request's answer, and the session it leaves. -/
def answer (s : Accounts) (arrival : AccountArrival) : Except PyError AccountAnswer × AccountSession :=
  arrival.request.program (s.envOf settings arrival) (opened s.rows { s.office with background := [] })

/-- The background tasks of a request are run after its response, and not if it raised. -/
def step (s : Accounts) (arrival : AccountArrival) : Accounts :=
  let (result, session) := s.answer settings arrival
  { rows := session.saved
    office := session.outside
    now := s.now + arrival.elapsed
    mails := s.mails ++ match result with
      | .ok _ => session.outside.background
      | .error _ => [] }

end Accounts

end ControlPlane
