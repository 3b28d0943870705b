import ControlPlane.Identity.Security

/-!
# The entry points that accept a token

`get_current_user`, on which every authenticated endpoint depends, the endpoints under `/auth` that give out and revoke
tokens, and the WebSocket stream of a job's log.  Beside the store and the signed tokens the state notes which `jti` were
revoked and which users logged out of all their sessions, for the theorems.
-/

namespace ControlPlane

/-- The keys of the token store: `revoked:{jti}` and `revoked_before:{user_id}`. -/
inductive StoreKey where
  | revoked (jti : Nat)
  | revokedBefore (userId : Nat)
  deriving DecidableEq, Repr

def LOGOUT_ALL_SESSIONS_TTL_SECONDS : Nat := 30 * 24 * 60 * 60

/-- What the requests share; `revocations` and `logoutAlls` are records of what was done, which no code reads. -/
structure Identity where
  db : Db
  store : InMemoryTokenStore StoreKey Time
  issued : List IssuedToken
  now : Time
  revocations : List Nat
  logoutAlls : List (Nat × Time)

def unauthorized (detail : String) : PyError := .httpException 401 detail

/-- How the WebSocket endpoint ends: it closes the socket with a code, or streams the job's log. -/
inductive StreamOutcome where
  | closed (code : Nat)
  | streaming (jobId : Nat)
  deriving DecidableEq, Repr

/-- `ensure_membership`; the owner of a tenant gets a missing membership. -/
def ensureMembership (db : Db) (tenant : Tenant) (user : User) : Except PyError Unit × Db :=
  if user.isAdmin then (.ok (), db)
  else if db.memberships.any fun m => m.tenantId = tenant.id ∧ m.userId = user.id then (.ok (), db)
  else if tenant.ownerId = user.id then
    let membership := ⟨Table.fresh db.memberships, tenant.id, user.id, "owner"⟩
    (.ok (), { db with memberships := Table.insert db.memberships membership })
  else (.error (.httpException 403 "Forbidden"), db)

namespace Identity

variable (settings : TokenSettings) (s : Identity)

/-- `token_store.exists(f"revoked:{jti}")`. -/
def revokedExists (jti : Nat) : Bool × Identity :=
  let (found, store) := s.store.existsKey s.now (.revoked jti)
  (found, { s with store := store })

/-- `token_store.get(f"revoked_before:{user_id}")`. -/
def revokedBefore (userId : Nat) : Option Time × Identity :=
  let (value, store) := s.store.get s.now (.revokedBefore userId)
  (value, { s with store := store })

/-- `token_store.setex(f"revoked:{jti}", get_token_ttl_seconds(payload) + 60, "1")`. -/
def revoke (payload : TokenPayload) : Identity :=
  { s with
    store := s.store.setex s.now (.revoked payload.jti) (getTokenTtlSeconds s.now payload + 60) 1
    revocations := payload.jti :: s.revocations }

/-- `create_access_token` and `create_refresh_token`. -/
def issue (subject : Nat) (tokenType : TokenType) (refreshedFrom : Option TokenPayload) : TokenPayload × Identity :=
  let token := createToken settings s.issued s.now subject tokenType refreshedFrom
  (token.payload, { s with issued := token :: s.issued })

def getCurrentUser (credentials : Option TokenPayload) : Except PyError (User × TokenPayload) × Identity :=
  match credentials with
  | none => (.error (unauthorized "Missing credentials"), s)
  | some token =>
    match decodeToken s.issued s.now token .access with
    | none => (.error (unauthorized "Invalid token"), s)
    | some payload =>
      let (revoked, s) := s.revokedExists payload.jti
      if revoked then (.error (unauthorized "Token revoked"), s)
      else
        let (revokedBefore, s) := s.revokedBefore payload.sub
        if revokedBefore.any fun t => tokenIssuedAt settings payload < (t : Nat) then
          (.error (unauthorized "Session revoked"), s)
        else
          match s.db.user? payload.sub with
          | none => (.error (unauthorized "User not found"), s)
          | some user => (.ok (user, payload), s)

/-- The access token of the answer and the refresh token of the cookie. -/
def login (email password : String) : Except PyError (TokenPayload × TokenPayload) × Identity :=
  match s.db.users.find? fun user => user.email = lower email with
  | none => (.error (unauthorized "Invalid credentials"), s)
  | some user =>
    if settings.verifyPassword user password then
      let (accessToken, s) := s.issue settings user.id .access none
      let (refreshToken, s) := s.issue settings user.id .refresh none
      (.ok (accessToken, refreshToken), s)
    else (.error (unauthorized "Invalid credentials"), s)

def refreshToken (cookie : Option TokenPayload) : Except PyError (TokenPayload × TokenPayload) × Identity :=
  match cookie with
  | none => (.error (unauthorized "Missing refresh token"), s)
  | some token =>
    match decodeToken s.issued s.now token .refresh with
    | none => (.error (unauthorized "Invalid refresh token"), s)
    | some payload =>
      let (revoked, s) := s.revokedExists payload.jti
      if revoked then (.error (unauthorized "Refresh token revoked"), s)
      else
        match s.db.user? payload.sub with
        | none => (.error (unauthorized "User not found"), s)
        | some user =>
          let s := s.revoke payload
          let (newRefreshToken, s) := s.issue settings user.id .refresh (some payload)
          let (accessToken, s) := s.issue settings user.id .access (some payload)
          (.ok (accessToken, newRefreshToken), s)

def logout (credentials cookie : Option TokenPayload) : Except PyError Unit × Identity :=
  match s.getCurrentUser settings credentials with
  | (.error e, s) => (.error e, s)
  | (.ok (_, payload), s) =>
    let s := s.revoke payload
    match cookie.bind fun token => decodeToken s.issued s.now token .refresh with
    | none => (.ok (), s)
    | some refreshPayload => (.ok (), s.revoke refreshPayload)

def logoutAllSessions (credentials : Option TokenPayload) : Except PyError Unit × Identity :=
  match s.getCurrentUser settings credentials with
  | (.error e, s) => (.error e, s)
  | (.ok (user, _), s) =>
    (.ok (), { s with
      store := s.store.setex s.now (.revokedBefore user.id) LOGOUT_ALL_SESSIONS_TTL_SECONDS s.now
      logoutAlls := (user.id, s.now) :: s.logoutAlls })

/-- `job_stream`, with the token of the subprotocol header and the one of the query. -/
def jobStream (jobId : Nat) (subprotocolToken token : Option TokenPayload) : StreamOutcome × Identity :=
  if settings.isProduction ∧ token.isSome ∧ subprotocolToken = none then (.closed 4401, s)
  else
    match subprotocolToken.or token with
    | none => (.closed 4401, s)
    | some accessToken =>
      match decodeToken s.issued s.now accessToken .access with
      | none => (.closed 4401, s)
      | some payload =>
        match s.db.user? payload.sub with
        | none => (.closed 4401, s)
        | some user =>
          match s.db.job? jobId with
          | none => (.closed 4404, s)
          | some job =>
            match s.db.tenant? job.tenantId with
            | none => (.closed 4404, s)
            | some tenant =>
              match ensureMembership s.db tenant user with
              | (.error _, db) => (.closed 4403, { s with db := db })
              | (.ok _, db) => (.streaming jobId, { s with db := db })

end Identity

/-- A request to an entry point, with the tokens it carries. -/
inductive AuthRequest where
  | login (email password : String)
  | refresh (cookie : Option TokenPayload)
  | logout (credentials cookie : Option TokenPayload)
  | logoutAll (credentials : Option TokenPayload)
  | endpoint (credentials : Option TokenPayload)
  | jobStream (jobId : Nat) (subprotocolToken token : Option TokenPayload)

/-- A request and the time that passes before it comes. -/
structure Arrival where
  elapsed : Nat
  request : AuthRequest

namespace Identity

variable (settings : TokenSettings)

/-- A process that has signed nothing yet. -/
def started (db : Db) (now : Time) : Identity := ⟨db, .empty, [], now, [], []⟩

def handle (s : Identity) : AuthRequest → Identity
  | .login email password => (s.login settings email password).2
  | .refresh cookie => (s.refreshToken settings cookie).2
  | .logout credentials cookie => (s.logout settings credentials cookie).2
  | .logoutAll credentials => (s.logoutAllSessions settings credentials).2
  | .endpoint credentials => (s.getCurrentUser settings credentials).2
  | .jobStream jobId subprotocolToken token => (s.jobStream settings jobId subprotocolToken token).2

def wait (s : Identity) (elapsed : Nat) : Identity := { s with now := s.now + elapsed }

def step (s : Identity) (arrival : Arrival) : Identity := (s.wait arrival.elapsed).handle settings arrival.request

/-- The token that the request gets accepted: the endpoint does not refuse it. -/
def accepted (s : Identity) : AuthRequest → Option TokenPayload
  | .login _ _ => none
  | .refresh cookie => if (s.refreshToken settings cookie).1.isOk then cookie else none
  | .logout credentials cookie => if (s.logout settings credentials cookie).1.isOk then credentials else none
  | .logoutAll credentials => if (s.logoutAllSessions settings credentials).1.isOk then credentials else none
  | .endpoint credentials => if (s.getCurrentUser settings credentials).1.isOk then credentials else none
  | .jobStream jobId subprotocolToken token =>
    if (s.jobStream settings jobId subprotocolToken token).1 = .closed 4401 then none else subprotocolToken.or token

end Identity

end ControlPlane
