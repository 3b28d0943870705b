import ControlPlane.Base.Runs
import ControlPlane.Identity.TokenActs

/-!
# The session in the browser

The pages keep an access token, which every call carries, and the browser keeps the refresh token in a cookie that no
page can read.  A call whose token is near its end fetches a new one first, and a call answered with 401 fetches one and
is made again; a manager and the shell of the pages do so as well.  The download of the audit log goes past all that.
The calls of all pages are under way together: a fetch is sent, served and answered, and the page goes on with the
answer, and the steps of other calls, of the time and of other clients of the server fall between.  The server takes the
steps of `refresh_token` one by one, so that it may be at several refreshes with one cookie.
-/

namespace ControlPlane.SaasUi

/-! ### Paths -/

/-- A browser sends a cookie with the requests below the cookie's path: the path itself, or the path and a slash. -/
def pathMatches (requestPath cookiePath : String) : Bool :=
  let rest := requestPath.toList.drop cookiePath.toList.length
  cookiePath.toList.isPrefixOf requestPath.toList &&
    (rest.isEmpty || cookiePath.toList.getLast? == some '/' || rest.head? == some '/')

/-- `settings.api_prefix.strip('/')`. -/
def stripSlashes (text : String) : String :=
  String.ofList (((text.toList.dropWhile (· == '/')).reverse.dropWhile (· == '/')).reverse)

/-- `API_PREFIX`, under which the routers are included. -/
def API_PREFIX (apiPrefix : String) : String :=
  if stripSlashes apiPrefix = "" then "" else "/" ++ stripSlashes apiPrefix

/-- The `path` of `_set_refresh_cookie`. -/
def refreshCookiePath : String := "/auth"

def REFRESH_EXEMPT_PATHS : List String :=
  ["/auth/login", "/auth/signup", "/auth/refresh", "/auth/forgot-password", "/auth/reset-password",
    "/auth/verify-email", "/auth/impersonate"]

def canAttemptRefresh (path : String) : Bool := !REFRESH_EXEMPT_PATHS.contains path

/-! ### The clock of the page -/

/-- The settings of both sides; `dateNow` is what the browser's clock shows, in milliseconds. -/
structure ClientSettings extends TokenSettings where
  apiPrefix : String
  dateNow : Time → Nat

section
variable (settings : ClientSettings) (now : Time)

/-- `isTokenNearExpiry`; an `exp` of zero counts as missing. -/
def isTokenNearExpiry (token : TokenPayload) : Bool :=
  token.exp ≠ 0 && token.exp ≤ settings.dateNow now / 1000 + 60

/-- The token that `maybeRefresh` of the `SessionManager` goes on with. -/
def endsSoon (token : TokenPayload) : Bool :=
  token.exp ≠ 0 && token.exp * 1000 ≤ settings.dateNow now + 10 * 60 * 1000

/-- `hasValidToken` of the `AppShell`. -/
def hasValidToken (token : TokenPayload) : Bool := settings.dateNow now < token.exp * 1000

end

/-! ### Calls under way -/

/-- What the pages call `request` for, and the download, which fetches on its own.  An impersonation link is one for the
user; `maybeRefresh` and `ensureSession` ask for `/auth/refresh`; an endpoint is behind `get_current_user`, unless it is
public. -/
inductive Call where
  | login (email password : String)
  | impersonate (userId : Nat)
  | maybeRefresh
  | ensureSession
  | downloadAuditLogCsv
  | endpoint (path : String)
  | publicEndpoint (path : String)
  deriving DecidableEq, Repr

def Call.path : Call → String
  | .login _ _ => "/auth/login"
  | .impersonate _ => "/auth/impersonate"
  | .maybeRefresh | .ensureSession => "/auth/refresh"
  | .downloadAuditLogCsv => "/admin/audit-log/export"
  | .endpoint path | .publicEndpoint path => path

/-- The call may fetch a new token for itself; `downloadAuditLogCsv` never does. -/
def Call.attemptsRefresh : Call → Bool
  | .downloadAuditLogCsv => false
  | call => canAttemptRefresh call.path

/-- The call starts another session in the page. -/
def Call.signsIn : Call → Bool
  | .login _ _ | .impersonate _ => true
  | _ => false

/-- The call wants a new token for the page and nothing else. -/
def Call.refreshesSession : Call → Bool
  | .maybeRefresh | .ensureSession => true
  | _ => false

/-- What `request` awaits: `refreshAccessToken`, before its first fetch or after a 401, or its first or second fetch. -/
inductive Stage where
  | refreshing (after401 : Bool)
  | fetching (again : Bool)
  deriving DecidableEq, Repr

/-- An answer: its status, the access token of its body, and the refresh token of its `Set-Cookie`. -/
structure Answer where
  status : Nat
  accessToken : Option TokenPayload
  setCookie : Option TokenPayload
  deriving DecidableEq, Repr

/-- The access token of an answer that is `ok`. -/
def Answer.token (answer : Answer) : Option TokenPayload :=
  if 200 ≤ answer.status ∧ answer.status < 300 then answer.accessToken else none

/-- Where a fetch is: on its way with its cookie, at the server, which has taken some steps of `refresh_token`, on its
way back, or back in the browser. -/
inductive Flight where
  | sent (cookie : Option TokenPayload)
  | serving (cookie : TokenPayload) (phase : RefreshPhase)
  | answered (answer : Answer)
  | arrived (answer : Answer)
  deriving DecidableEq, Repr

/-- The answer of a fetch that is lost: the fetch has failed, or its answer has come without a body. -/
def Flight.lost : Flight → Option Answer
  | .arrived answer => some { answer with accessToken := none }
  | _ => none

/-- A call under way; `authorization` is the token in its `headers`, and `active` says that its page was not left. -/
structure Pending where
  call : Call
  stage : Stage
  authorization : Option TokenPayload
  active : Bool
  flight : Flight
  deriving DecidableEq, Repr

/-- The fetch asks for `/auth/refresh`. -/
def Pending.refreshes (p : Pending) : Bool :=
  match p.stage with
  | .refreshing _ => true
  | .fetching _ => p.call.refreshesSession

/-- The path of the fetch. -/
def Pending.path (p : Pending) : String :=
  match p.stage with
  | .refreshing _ => "/auth/refresh"
  | .fetching _ => p.call.path

/-- The page has no use for a new token that the call brings: it was left, and `ensureSession` looks at that. -/
def Pending.leftBehind (p : Pending) : Bool := p.call = .ensureSession && !p.active

/-- The server is at the phase of a refresh with the cookie. -/
inductive Pending.At (cookie : TokenPayload) (p : Pending) : RefreshPhase → Prop where
  | sent (hflight : p.flight = .sent (some cookie)) (hrefreshes : p.refreshes = true) : p.At cookie .decoding
  | serving {phase : RefreshPhase} (hflight : p.flight = .serving cookie phase) : p.At cookie phase

/-- The server, and what one browser has; a call that is over is `none`.  `elsewhere` are the refreshes that the server
is at for other clients, or for fetches that the page has given up.  `expirations` counts the events
`erp-saas:session-expired`. -/
structure SessionClient where
  server : Identity
  elsewhere : List (TokenPayload × RefreshPhase)
  token : Option TokenPayload
  cookie : Option TokenPayload
  calls : List (Option Pending)
  expirations : Nat

/-! ### The server -/

/-- The answer to a request that is refused. -/
def Answer.ofError : PyError → Answer
  | .httpException status _ => ⟨status, none, none⟩
  | _ => ⟨500, none, none⟩

/-- The next step of `refresh_token` for a fetch. -/
def serveRefresh (settings : TokenSettings) (server : Identity) (cookie : TokenPayload) (phase : RefreshPhase) :
    Flight × Identity :=
  match refreshPhase settings cookie server phase with
  | (.issued accessToken refreshToken, server) => (.answered ⟨200, some accessToken, some refreshToken⟩, server)
  | (.refused, server) => (.answered ⟨401, none, none⟩, server)
  | (phase, server) => (.serving cookie phase, server)

/-- The server's answer to a fetch that is no refresh; `status` is what the endpoint itself answers, and 200 for a link
that is still good. -/
def respond (settings : TokenSettings) (server : Identity) (p : Pending) (status : Nat) : Answer × Identity :=
  match p.call with
  | .login email password =>
    match server.login settings email password with
    | (.ok (accessToken, refreshToken), server) => (⟨200, some accessToken, some refreshToken⟩, server)
    | (.error e, server) => (.ofError e, server)
  | .impersonate userId =>
    if status = 200 then
      let (accessToken, server) := server.issue settings userId .access none
      (⟨200, some accessToken, none⟩, server)
    else (⟨status, none, none⟩, server)
  | .downloadAuditLogCsv | .endpoint _ =>
    match server.getCurrentUser settings p.authorization with
    | (.ok _, server) => (⟨status, none, none⟩, server)
    | (.error e, server) => (.ofError e, server)
  | _ => (⟨status, none, none⟩, server)

/-- Before an endpoint answers, the server looks at the access token. -/
theorem respond_checked (settings : TokenSettings) (server : Identity) {p : Pending} (status : Nat)
    (hcall : p.call = .downloadAuditLogCsv ∨ ∃ path, p.call = .endpoint path) :
    (∃ found, (server.getCurrentUser settings p.authorization).1 = .ok found ∧
        (respond settings server p status).1 = ⟨status, none, none⟩) ∨
      ∃ e, (server.getCurrentUser settings p.authorization).1 = .error e ∧
        (respond settings server p status).1 = .ofError e := by
  unfold respond
  generalize server.getCurrentUser settings p.authorization = r
  obtain ⟨result, server⟩ := r
  rcases hcall with hcall | ⟨path, hcall⟩
  · rw [hcall]
    cases result with
    | ok found => exact .inl ⟨found, rfl, rfl⟩
    | error e => exact .inr ⟨e, rfl, rfl⟩
  · rw [hcall]
    cases result with
    | ok found => exact .inl ⟨found, rfl, rfl⟩
    | error e => exact .inr ⟨e, rfl, rfl⟩

/-- What the server does next with a fetch, and where the fetch is then. -/
def serve (settings : TokenSettings) (server : Identity) (p : Pending) (status : Nat) : Flight × Identity :=
  match p.flight with
  | .sent cookie =>
    if p.refreshes then
      match cookie with
      | none => (.answered (.ofError (unauthorized "Missing refresh token")), server)
      | some cookie => serveRefresh settings server cookie .decoding
    else
      let (answer, server) := respond settings server p status
      (.answered answer, server)
  | .serving cookie phase => serveRefresh settings server cookie phase
  | flight => (flight, server)

/-! ### The page -/

namespace SessionClient

variable (settings : ClientSettings) (s : SessionClient)

def saveToken (token : TokenPayload) : SessionClient := { s with token := some token }

def clearToken : SessionClient := { s with token := none }

def notifySessionExpired : SessionClient := { s.clearToken with expirations := s.expirations + 1 }

/-- The cookie that goes with a request for a path of the API. -/
def cookieFor (path : String) : Option TokenPayload :=
  if pathMatches (API_PREFIX settings.apiPrefix ++ path) refreshCookiePath then s.cookie else none

/-- The fetch of the call is sent, with the cookie that the browser has now. -/
def sending (p : Pending) : Pending := { p with flight := .sent (s.cookieFor settings p.path) }

/-- The call goes on with its next fetch. -/
def send (index : Nat) (p : Pending) : SessionClient :=
  { s with calls := s.calls.set index (some (s.sending settings p)) }

/-- `request` is over; a 401 ends the session. -/
def settle (index : Nat) (answer : Option Answer) : SessionClient :=
  let s := { s with calls := s.calls.set index none }
  if answer.map Answer.status = some 401 then s.notifySessionExpired else s

/-- `request` has an answer, or has failed, and the page goes on. -/
def finish (index : Nat) (p : Pending) (answer : Option Answer) : SessionClient :=
  let s := s.settle index answer
  match p.call with
  | .login _ _ | .impersonate _ =>
    match answer.bind Answer.token with
    | some token => s.saveToken token
    | none => s
  | .maybeRefresh | .ensureSession =>
    if p.leftBehind then s
    else
      match answer.bind Answer.token with
      | some token => s.saveToken token
      | none => s.clearToken
  | _ => s

/-- `request`, to its first fetch. -/
def request (call : Call) : SessionClient :=
  let early := (s.token.any fun token => isTokenNearExpiry settings s.server.now token) && call.attemptsRefresh
  let p : Pending := ⟨call, if early then .refreshing false else .fetching false, s.token, true, .sent none⟩
  { s with calls := s.calls ++ [some (s.sending settings p)] }

/-- A page comes to a call.  `refreshingRef` keeps one manager from two refreshes at a time; each page has its own. -/
def begin (call : Call) : SessionClient :=
  match call with
  | .maybeRefresh => if s.token.any (endsSoon settings s.server.now) then s.request settings call else s
  | .ensureSession => if s.token.any (hasValidToken settings s.server.now) then s else s.request settings call
  | _ => s.request settings call

/-- `request` and `refreshAccessToken` go on with the answer to their fetch; `none` is a fetch that has failed. -/
def resume (index : Nat) (p : Pending) (answer : Option Answer) : SessionClient :=
  match p.stage with
  | .refreshing false =>
    match answer.bind Answer.token with
    | some token =>
      (s.saveToken token).send settings index { p with stage := .fetching false, authorization := some token }
    | none => s.send settings index { p with stage := .fetching false }
  | .refreshing true =>
    match answer.bind Answer.token with
    | some token =>
      (s.saveToken token).send settings index { p with stage := .fetching true, authorization := some token }
    -- the answer that `request` has is still the one with 401
    | none => s.finish index p (some ⟨401, none, none⟩)
  | .fetching again =>
    if again = false ∧ answer.map Answer.status = some 401 ∧ p.call.attemptsRefresh then
      s.send settings index { p with stage := .refreshing true }
    else s.finish index p answer

end SessionClient

/-- What happens: time passes, a page comes to a call or is left, the server takes a step with a fetch or turns it away
before the endpoint sees it, an answer comes to the browser and the page goes on with it, a fetch or the body of its
answer is lost, another client's request is served, a refresh elsewhere comes to the server or goes on, or the user takes
the link `/login?logout=1` or `/login?sessionExpired=1`. -/
inductive SessionMove where
  | waits (elapsed : Nat)
  | begins (call : Call)
  | leaves (index : Nat)
  | serves (index status : Nat)
  | turnsAway (index status : Nat)
  | arrives (index : Nat)
  | resumes (index : Nat)
  | loses (index : Nat)
  | other (request : AuthRequest)
  | othersRefresh (cookie : TokenPayload)
  | othersGoOn (index : Nat)
  | logsOut

namespace SessionClient

variable (settings : ClientSettings)

/-- The call of an index, while it is under way. -/
def call? (s : SessionClient) (index : Nat) : Option Pending := s.calls[index]?.bind id

/-- The fetch of the call is somewhere else now. -/
def move (s : SessionClient) (index : Nat) (p : Pending) (flight : Flight) : SessionClient :=
  { s with calls := s.calls.set index (some { p with flight := flight }) }

/-- The page has given up a fetch; the server goes on with its refresh. -/
def abandon (s : SessionClient) : Flight → SessionClient
  | .serving cookie phase => { s with elsewhere := s.elsewhere ++ [(cookie, phase)] }
  | _ => s

def step (s : SessionClient) : SessionMove → SessionClient
  | .waits elapsed => { s with server := s.server.wait elapsed }
  | .begins call => s.begin settings call
  | .leaves index =>
    match s.call? index with
    | some p => { s with calls := s.calls.set index (some { p with active := false }) }
    | none => s
  | .serves index status =>
    match s.call? index with
    | some p =>
      let (flight, server) := serve settings.toTokenSettings s.server p status
      { s with server := server }.move index p flight
    | none => s
  | .turnsAway index status =>
    match s.call? index with
    | some ⟨call, stage, authorization, active, .sent cookie⟩ =>
      s.move index ⟨call, stage, authorization, active, .sent cookie⟩ (.answered ⟨status, none, none⟩)
    | _ => s
  | .arrives index =>
    match s.call? index with
    | some ⟨call, stage, authorization, active, .answered answer⟩ =>
      { s with cookie := answer.setCookie.or s.cookie }.move index
        ⟨call, stage, authorization, active, .answered answer⟩ (.arrived answer)
    | _ => s
  | .resumes index =>
    match s.call? index with
    | some ⟨call, stage, authorization, active, .arrived answer⟩ =>
      s.resume settings index ⟨call, stage, authorization, active, .arrived answer⟩ (some answer)
    | _ => s
  | .loses index =>
    match s.call? index with
    | some p => (s.abandon p.flight).resume settings index p p.flight.lost
    | none => s
  | .other request => { s with server := s.server.handle settings.toTokenSettings request }
  | .othersRefresh cookie => { s with elsewhere := s.elsewhere ++ [(cookie, .decoding)] }
  | .othersGoOn index =>
    match s.elsewhere[index]? with
    | some (cookie, phase) =>
      let (phase, server) := refreshPhase settings.toTokenSettings cookie s.server phase
      { s with server := server, elsewhere := s.elsewhere.set index (cookie, phase) }
    | none => s
  | .logsOut => s.clearToken

/-- A browser that has nothing, and a server that has had other clients. -/
def opened (server : Identity) : SessionClient := ⟨server, [], none, none, [], 0⟩

/-- A user signs in with a browser that has nothing. -/
def signsIn (email password : String) : List SessionMove :=
  [.begins (.login email password), .serves 0 200, .arrives 0, .resumes 0]

/-! ### What a move does -/

theorem getElem?_of_call? {s : SessionClient} {index : Nat} {p : Pending} (h : s.call? index = some p) :
    s.calls[index]? = some (some p) := by
  obtain ⟨call, hcall, hp⟩ := Option.bind_eq_some_iff.1 h
  rw [hcall]
  exact congrArg some hp

theorem move_self {s : SessionClient} {index : Nat} {p : Pending} (h : s.call? index = some p) :
    s.move index p p.flight = s := by
  obtain ⟨hlt, hget⟩ := List.getElem?_eq_some_iff.1 (getElem?_of_call? h)
  have hset : s.calls.set index (some p) = s.calls := by rw [← hget, List.set_getElem_self]
  unfold move
  rw [hset]

/-- A move of the client: it sends what a page asks for, it takes a fetch on from where it is, or it does nothing. -/
inductive Took (s : SessionClient) : SessionMove → SessionClient → Prop where
  | stays (move : SessionMove) : Took s move s
  | waits (elapsed : Nat) : Took s (.waits elapsed) { s with server := s.server.wait elapsed }
  | begins (call : Call) : Took s (.begins call) (s.request settings call)
  | leaves {index : Nat} {p : Pending} (hcall : s.call? index = some p) :
      Took s (.leaves index) { s with calls := s.calls.set index (some { p with active := false }) }
  | refuses {index : Nat} {p : Pending} (status : Nat) (hcall : s.call? index = some p) (hflight : p.flight = .sent none)
      (hrefreshes : p.refreshes = true) : Took s (.serves index status) (s.move index p (.answered ⟨401, none, none⟩))
  | refreshes {index : Nat} {p : Pending} {cookie : TokenPayload} {phase : RefreshPhase} (status : Nat)
      (hcall : s.call? index = some p) (hat : p.At cookie phase) :
      Took s (.serves index status)
        ({ s with server := (serveRefresh settings.toTokenSettings s.server cookie phase).2 }.move index p
          (serveRefresh settings.toTokenSettings s.server cookie phase).1)
  | responds {index : Nat} {p : Pending} {cookie : Option TokenPayload} (status : Nat) (hcall : s.call? index = some p)
      (hflight : p.flight = .sent cookie) (hplain : p.refreshes = false) :
      Took s (.serves index status)
        ({ s with server := (respond settings.toTokenSettings s.server p status).2 }.move index p
          (.answered (respond settings.toTokenSettings s.server p status).1))
  | turnsAway {index : Nat} {p : Pending} {cookie : Option TokenPayload} (status : Nat)
      (hcall : s.call? index = some p) (hflight : p.flight = .sent cookie) :
      Took s (.turnsAway index status) (s.move index p (.answered ⟨status, none, none⟩))
  | arrives {index : Nat} {p : Pending} {answer : Answer} (hcall : s.call? index = some p)
      (hflight : p.flight = .answered answer) :
      Took s (.arrives index) ({ s with cookie := answer.setCookie.or s.cookie }.move index p (.arrived answer))
  | resumes {index : Nat} {p : Pending} {answer : Answer} (hcall : s.call? index = some p)
      (hflight : p.flight = .arrived answer) : Took s (.resumes index) (s.resume settings index p (some answer))
  | loses {index : Nat} {p : Pending} (hcall : s.call? index = some p) :
      Took s (.loses index) ((s.abandon p.flight).resume settings index p p.flight.lost)
  | other (request : AuthRequest) :
      Took s (.other request) { s with server := s.server.handle settings.toTokenSettings request }
  | othersRefresh (cookie : TokenPayload) :
      Took s (.othersRefresh cookie) { s with elsewhere := s.elsewhere ++ [(cookie, .decoding)] }
  | othersGoOn {index : Nat} {cookie : TokenPayload} {phase : RefreshPhase}
      (hother : s.elsewhere[index]? = some (cookie, phase)) :
      Took s (.othersGoOn index)
        { s with
          server := (refreshPhase settings.toTokenSettings cookie s.server phase).2
          elsewhere := s.elsewhere.set index (cookie, (refreshPhase settings.toTokenSettings cookie s.server phase).1) }
  | logsOut : Took s .logsOut s.clearToken

theorem took_begin (s : SessionClient) (call : Call) : Took settings s (.begins call) (s.begin settings call) := by
  unfold begin
  cases call with
  | maybeRefresh =>
    dsimp only
    split
    · exact .begins .maybeRefresh
    · exact .stays _
  | ensureSession =>
    dsimp only
    split
    · exact .stays _
    · exact .begins .ensureSession
  | login email password => exact .begins (.login email password)
  | impersonate userId => exact .begins (.impersonate userId)
  | downloadAuditLogCsv => exact .begins .downloadAuditLogCsv
  | endpoint path => exact .begins (.endpoint path)
  | publicEndpoint path => exact .begins (.publicEndpoint path)

/-- The server takes a step with a fetch that waits for one, and none with another. -/
theorem took_serve (s : SessionClient) {index : Nat} {p : Pending} (status : Nat) (hcall : s.call? index = some p) :
    Took settings s (.serves index status)
      ({ s with server := (serve settings.toTokenSettings s.server p status).2 }.move index p
        (serve settings.toTokenSettings s.server p status).1) := by
  unfold serve
  cases hflight : p.flight with
  | sent cookie =>
    dsimp only
    by_cases hrefreshes : p.refreshes = true
    · rw [if_pos hrefreshes]
      cases cookie with
      | none => exact .refuses status hcall hflight hrefreshes
      | some cookie => exact .refreshes status hcall (.sent hflight hrefreshes)
    · rw [if_neg hrefreshes]
      exact .responds status hcall hflight (by simpa using hrefreshes)
  | serving cookie phase => exact .refreshes status hcall (.serving hflight)
  | answered answer =>
    dsimp only
    rw [← hflight]
    have hself : ({ s with server := s.server } : SessionClient).move index p p.flight = s := move_self hcall
    rw [hself]
    exact .stays _
  | arrived answer =>
    dsimp only
    rw [← hflight]
    have hself : ({ s with server := s.server } : SessionClient).move index p p.flight = s := move_self hcall
    rw [hself]
    exact .stays _

/-- All that a step can do. -/
theorem took_step (s : SessionClient) (move : SessionMove) : Took settings s move (s.step settings move) := by
  unfold step
  cases move with
  | waits elapsed => exact .waits elapsed
  | begins call => exact took_begin settings s call
  | leaves index =>
    dsimp only
    split
    · rename_i p hcall
      exact .leaves hcall
    · exact .stays _
  | serves index status =>
    dsimp only
    split
    · rename_i p hcall
      exact took_serve settings s status hcall
    · exact .stays _
  | turnsAway index status =>
    dsimp only
    split
    · rename_i call stage authorization active cookie hcall
      exact .turnsAway status hcall rfl
    · exact .stays _
  | arrives index =>
    dsimp only
    split
    · rename_i call stage authorization active answer hcall
      exact .arrives hcall rfl
    · exact .stays _
  | resumes index =>
    dsimp only
    split
    · rename_i call stage authorization active answer hcall
      exact .resumes hcall rfl
    · exact .stays _
  | loses index =>
    dsimp only
    split
    · rename_i p hcall
      exact .loses hcall
    · exact .stays _
  | other request => exact .other request
  | othersRefresh cookie => exact .othersRefresh cookie
  | othersGoOn index =>
    dsimp only
    split
    · rename_i cookie phase hother
      exact .othersGoOn hother
    · exact .stays _
  | logsOut => exact .logsOut

/-! ### Lemmas -/

/-- Every call under way is so. -/
def Each (s : SessionClient) (P : Pending → Prop) : Prop := ∀ p, some p ∈ s.calls → P p

section
variable {s : SessionClient} {P : Pending → Prop} {index : Nat} {p : Pending}

theorem mem_of_call? (h : s.call? index = some p) : some p ∈ s.calls := List.mem_of_getElem? (getElem?_of_call? h)

theorem mem_of_mem_set {next : Option Pending} {q : Pending} (h : some q ∈ s.calls.set index next) :
    next = some q ∨ some q ∈ s.calls :=
  (List.mem_or_eq_of_mem_set h).symm.imp_left Eq.symm

variable (settings : ClientSettings)

@[simp] theorem send_server : (s.send settings index p).server = s.server := rfl
@[simp] theorem send_elsewhere : (s.send settings index p).elsewhere = s.elsewhere := rfl
@[simp] theorem send_token : (s.send settings index p).token = s.token := rfl
@[simp] theorem send_cookie : (s.send settings index p).cookie = s.cookie := rfl
@[simp] theorem send_expirations : (s.send settings index p).expirations = s.expirations := rfl

@[simp] theorem send_calls :
    (s.send settings index p).calls = s.calls.set index (some (s.sending settings p)) := rfl

@[simp] theorem abandon_server (flight : Flight) : (s.abandon flight).server = s.server := by cases flight <;> rfl
@[simp] theorem abandon_token (flight : Flight) : (s.abandon flight).token = s.token := by cases flight <;> rfl
@[simp] theorem abandon_cookie (flight : Flight) : (s.abandon flight).cookie = s.cookie := by cases flight <;> rfl
@[simp] theorem abandon_calls (flight : Flight) : (s.abandon flight).calls = s.calls := by cases flight <;> rfl

@[simp] theorem abandon_expirations (flight : Flight) : (s.abandon flight).expirations = s.expirations := by
  cases flight <;> rfl

variable {answer : Option Answer}

theorem settle_eq : s.settle index answer =
    { s with
      token := if answer.map Answer.status = some 401 then none else s.token
      calls := s.calls.set index none
      expirations := s.expirations + if answer.map Answer.status = some 401 then 1 else 0 } := by
  unfold settle
  dsimp only
  split <;> rfl

/-- A call that is over leaves the page the token it had, that of the answer, or none. -/
theorem finish_eq (s : SessionClient) (index : Nat) (p : Pending) (answer : Option Answer) :
    s.finish index p answer = s.settle index answer ∨
    (∃ token, answer.bind Answer.token = some token ∧
      s.finish index p answer = (s.settle index answer).saveToken token) ∨
    s.finish index p answer = (s.settle index answer).clearToken := by
  unfold finish
  cases answer.bind Answer.token with
  | none =>
    dsimp only
    split
    · exact .inl rfl
    · exact .inl rfl
    · split
      · exact .inl rfl
      · exact .inr (.inr rfl)
    · split
      · exact .inl rfl
      · exact .inr (.inr rfl)
    · exact .inl rfl
  | some token =>
    dsimp only
    split
    · exact .inr (.inl ⟨token, rfl, rfl⟩)
    · exact .inr (.inl ⟨token, rfl, rfl⟩)
    · split
      · exact .inl rfl
      · exact .inr (.inl ⟨token, rfl, rfl⟩)
    · split
      · exact .inl rfl
      · exact .inr (.inl ⟨token, rfl, rfl⟩)
    · exact .inl rfl

/-- What a call that is over leaves as it was. -/
theorem finish_keeps : (s.finish index p answer).server = s.server ∧ (s.finish index p answer).elsewhere = s.elsewhere ∧
    (s.finish index p answer).cookie = s.cookie ∧ (s.finish index p answer).calls = s.calls.set index none ∧
    (s.finish index p answer).expirations =
      s.expirations + if answer.map Answer.status = some 401 then 1 else 0 := by
  rcases finish_eq s index p answer with h | ⟨token, -, h⟩ | h <;>
    rw [h, settle_eq] <;> exact ⟨rfl, rfl, rfl, rfl, rfl⟩

@[simp] theorem finish_server : (s.finish index p answer).server = s.server := finish_keeps.1
@[simp] theorem finish_elsewhere : (s.finish index p answer).elsewhere = s.elsewhere := finish_keeps.2.1
@[simp] theorem finish_cookie : (s.finish index p answer).cookie = s.cookie := finish_keeps.2.2.1
@[simp] theorem finish_calls : (s.finish index p answer).calls = s.calls.set index none := finish_keeps.2.2.2.1

theorem finish_expirations : (s.finish index p answer).expirations =
    s.expirations + if answer.map Answer.status = some 401 then 1 else 0 := finish_keeps.2.2.2.2

/-- The token of a page after a call is the one it had or that of the answer. -/
theorem finish_token {token : TokenPayload} (h : (s.finish index p answer).token = some token) :
    s.token = some token ∨ answer.bind Answer.token = some token := by
  have hsettled : (s.settle index answer).token = some token → s.token = some token := fun h => by
    rw [settle_eq] at h
    dsimp only at h
    split at h
    · cases h
    · exact h
  rcases finish_eq s index p answer with heq | ⟨found, hfound, heq⟩ | heq
  · rw [heq] at h
    exact .inl (hsettled h)
  · rw [heq] at h
    exact .inr (hfound.trans h)
  · rw [heq] at h
    cases h

theorem lost_token (flight : Flight) : flight.lost.bind Answer.token = none := by
  cases flight with
  | arrived answer =>
    unfold Flight.lost Option.bind Answer.token
    exact ite_self _
  | _ => rfl

theorem path_of_refreshes (h : p.refreshes = true) : p.path = "/auth/refresh" := by
  obtain ⟨call, stage, authorization, flight⟩ := p
  cases stage with
  | refreshing after401 => rfl
  | fetching again => cases call <;> first | rfl | cases h

theorem refreshes_of_refreshing {after401 : Bool} (h : p.stage = .refreshing after401) : p.refreshes = true := by
  unfold Pending.refreshes
  rw [h]

theorem refreshes_of_fetching {again : Bool} (h : p.stage = .fetching again) :
    p.refreshes = p.call.refreshesSession := by
  unfold Pending.refreshes
  rw [h]

theorem attemptsRefresh_of_refreshesSession {call : Call} (h : call.refreshesSession = true) :
    call.attemptsRefresh = false := by
  cases call <;> first | rfl | cases h

theorem accessToken_of_token {answer : Answer} {token : TokenPayload} (h : answer.token = some token) :
    answer.accessToken = some token := by
  unfold Answer.token at h
  split at h
  · exact h
  · cases h

theorem token_none_of {answer : Answer} (h : answer.accessToken = none) : answer.token = none := by
  unfold Answer.token
  rw [h, ite_self]

theorem ofError_accessToken (e : PyError) : (Answer.ofError e).accessToken = none := by
  cases e <;> rfl

theorem serveRefresh_server (settings : TokenSettings) (server : Identity) (cookie : TokenPayload)
    (phase : RefreshPhase) :
    (serveRefresh settings server cookie phase).2 = (refreshPhase settings cookie server phase).2 := by
  unfold serveRefresh
  split <;> rename_i heq <;> rw [heq]

/-- Where a refresh is after a step: answered, with tokens or with 401, or at the server. -/
theorem serveRefresh_cases (settings : TokenSettings) (server : Identity) (cookie : TokenPayload)
    (phase : RefreshPhase) :
    (∃ accessToken refreshToken, (refreshPhase settings cookie server phase).1 = .issued accessToken refreshToken ∧
      (serveRefresh settings server cookie phase).1 = .answered ⟨200, some accessToken, some refreshToken⟩) ∨
    ((refreshPhase settings cookie server phase).1 = .refused ∧
      (serveRefresh settings server cookie phase).1 = .answered ⟨401, none, none⟩) ∨
    (serveRefresh settings server cookie phase).1 =
      .serving cookie (refreshPhase settings cookie server phase).1 := by
  unfold serveRefresh
  split <;> rename_i heq <;> rw [heq]
  · exact .inl ⟨_, _, rfl, rfl⟩
  · exact .inr (.inl ⟨rfl, rfl⟩)
  · exact .inr (.inr rfl)

/-- To answer a fetch that is no refresh, the server revokes nothing. -/
theorem respond_acts (settings : TokenSettings) (server : Identity) (p : Pending) (status : Nat) :
    server.Acts settings (fun _ => False) (fun _ => False) (respond settings server p status).2 := by
  have hendpoint : server.Acts settings (fun _ => False) (fun _ => False)
      (server.getCurrentUser settings p.authorization).2 :=
    Identity.getCurrentUser_acts settings server _ _ p.authorization
  unfold respond
  cases p.call with
  | login email password =>
    have hacts := Identity.login_acts settings server (fun _ => False) (fun _ => False) email password
    dsimp only
    split <;> rename_i heq <;> rw [heq] at hacts <;> exact hacts
  | impersonate userId =>
    dsimp only
    split
    · exact .issues _ _ _ (.done server)
    · exact .done server
  | downloadAuditLogCsv =>
    dsimp only
    split <;> rename_i heq <;> rw [heq] at hendpoint <;> exact hendpoint
  | endpoint path =>
    dsimp only
    split <;> rename_i heq <;> rw [heq] at hendpoint <;> exact hendpoint
  | _ => exact .done server

end

end SessionClient

namespace Small

/-- The clocks of both sides agree. -/
def sessionSettings (apiPrefix : String) : ClientSettings := { ControlPlane.Small.tokenSettings with
  apiPrefix := apiPrefix
  dateNow := fun now => now / 1000 }

end Small

end ControlPlane.SaasUi
