import ControlPlane.SaasUi.SessionClient

/-!
# How the browser's session is lost

The refresh cookie has the path `/auth`, and the routers stand under `API_PREFIX`: with the prefix of the default
settings no browser ever sends the cookie, so no session outlives its first access token.
-/

namespace ControlPlane.SaasUi

open Runs Identity

/-! ### The path of the cookie -/

/-- The browser sends the refresh cookie where it is read. -/
def RefreshCookieSent (settings : ClientSettings) : Prop :=
  pathMatches (API_PREFIX settings.apiPrefix ++ "/auth/refresh") refreshCookiePath = true

instance (settings : ClientSettings) : Decidable (RefreshCookieSent settings) := by
  unfold RefreshCookieSent
  infer_instance

theorem pathMatches_auth {text : String} (h : text ≠ "") :
    pathMatches ("/" ++ text ++ "/auth/refresh") refreshCookiePath = true ↔
      text = "auth" ∨ "auth/".toList <+: text.toList := by
  obtain ⟨chars, rfl⟩ : ∃ chars, text = String.ofList chars := ⟨text.toList, by simp⟩
  unfold pathMatches refreshCookiePath
  have hauth : "auth" = String.ofList ['a', 'u', 't', 'h'] := rfl
  rw [hauth, String.ofList_inj]
  simp only [String.toList_append, String.toList_ofList, List.isPrefixOf_iff_prefix, Bool.and_eq_true]
  -- the cookie's path ends within the first five characters
  match chars with
  | [] => simp at h
  | [a] => simp
  | [a, b] => simp
  | [a, b, c] => simp
  | [a, b, c, d] => simp [eq_comm]
  | a :: b :: c :: d :: e :: rest => simp [and_assoc, @eq_comm _ e '/']

/-- The prefixes under which the refresh cookie is sent. -/
theorem refreshCookieSent_iff {settings : ClientSettings} : RefreshCookieSent settings ↔
    stripSlashes settings.apiPrefix = "" ∨ stripSlashes settings.apiPrefix = "auth" ∨
      "auth/".toList <+: (stripSlashes settings.apiPrefix).toList := by
  unfold RefreshCookieSent API_PREFIX
  by_cases h : stripSlashes settings.apiPrefix = ""
  · rw [if_pos h]
    exact iff_of_true (by decide +kernel) (.inl h)
  · rw [if_neg h, pathMatches_auth h, or_iff_right h]

/-- The token was given to somebody who signed in or came with an impersonation link, for one lifetime of access
tokens. -/
def FromLogin (settings : ClientSettings) (server : Identity) (token : TokenPayload) : Prop :=
  ∃ t ∈ server.issued, t.payload = token ∧ t.refreshedFrom = none ∧
    token.exp = inSeconds t.issuedAt + settings.jwtAccessTokenExpireMinutes * 60

/-- A fetch without the refresh cookie, or its answer. -/
def Pending.Uncookied (settings : ClientSettings) (server : Identity) (p : Pending) : Prop :=
  match p.flight with
  | .sent cookie => p.refreshes = true → cookie = none
  | .serving _ _ => False
  | .answered answer | .arrived answer =>
    (p.refreshes = true → answer.accessToken = none) ∧ ∀ token, answer.accessToken = some token →
      FromLogin settings server token

namespace SessionClient

/-- No refresh has given the browser a token. -/
structure Unrefreshed (settings : ClientSettings) (s : SessionClient) : Prop where
  token : ∀ token, s.token = some token → FromLogin settings s.server token
  calls : s.Each (Pending.Uncookied settings s.server)

/-- A page that goes on without a token from a refresh has none any more, unless the refresh came before a call's first
fetch, or is that of a page that was left and was answered something other than 401. -/
def SignsOut (settings : ClientSettings) (s : SessionClient) (move : SessionMove) : Prop :=
  ∀ index p, s.call? index = some p → p.refreshes = true → p.stage ≠ .refreshing false →
    (move = .resumes index ∧ (∃ answer, p.flight = .arrived answer ∧ (p.leftBehind = true → answer.status = 401)) ∨
      move = .loses index ∧ (p.leftBehind = true → p.flight.lost.map Answer.status = some 401)) →
        (s.step settings move).token = none

section
variable {settings : ClientSettings} {s : SessionClient} {index : Nat} {p : Pending}

theorem cookieFor_refresh (hpath : RefreshCookieSent settings) :
    s.cookieFor settings "/auth/refresh" = s.cookie := by
  unfold cookieFor
  rw [if_pos]
  exact hpath

theorem fromLogin_of_issued {server server' : Identity} {token : TokenPayload} (h : FromLogin settings server token)
    (hissued : ∀ t ∈ server.issued, t ∈ server'.issued) : FromLogin settings server' token := by
  obtain ⟨t, ht, hpayload, hparent⟩ := h
  exact ⟨t, hissued t ht, hpayload, hparent⟩

theorem uncookied_of_issued {server server' : Identity} (h : p.Uncookied settings server)
    (hissued : ∀ t ∈ server.issued, t ∈ server'.issued) : p.Uncookied settings server' := by
  obtain ⟨call, stage, authorization, active, flight⟩ := p
  cases flight with
  | sent cookie => exact h
  | serving cookie phase => exact h
  | answered answer => exact ⟨h.1, fun token htoken => fromLogin_of_issued (h.2 token htoken) hissued⟩
  | arrived answer => exact ⟨h.1, fun token htoken => fromLogin_of_issued (h.2 token htoken) hissued⟩

/-- A server that has issued more tokens, and other refreshes elsewhere. -/
theorem Unrefreshed.serves (h : s.Unrefreshed settings) {server : Identity}
    {elsewhere : List (TokenPayload × RefreshPhase)} (hissued : ∀ t ∈ s.server.issued, t ∈ server.issued) :
    Unrefreshed settings { s with server := server, elsewhere := elsewhere } where
  token := fun token htoken => fromLogin_of_issued (h.token token htoken) hissued
  calls := fun p hp => uncookied_of_issued (h.calls p hp) hissued

/-- A call that has not sent its fetch without the cookie. -/
theorem Unrefreshed.set (h : s.Unrefreshed settings) {next : Option Pending}
    (hnext : ∀ p, next = some p → p.Uncookied settings s.server) :
    Unrefreshed settings { s with calls := s.calls.set index next } where
  token := h.token
  calls := fun p hp => by
    rcases mem_of_mem_set hp with heq | hp
    · exact hnext p heq
    · exact h.calls p hp

theorem uncookied_sending (hpath : ¬ RefreshCookieSent settings) (server : Identity) :
    (s.sending settings p).Uncookied settings server := by
  intro hrefreshes
  have hrefreshes : p.refreshes = true := hrefreshes
  unfold cookieFor
  rw [path_of_refreshes hrefreshes]
  exact if_neg hpath

theorem Unrefreshed.send (h : s.Unrefreshed settings) (hpath : ¬ RefreshCookieSent settings) :
    (s.send settings index p).Unrefreshed settings :=
  h.set fun q hq => by
    cases hq
    exact uncookied_sending hpath s.server

theorem Unrefreshed.saveToken (h : s.Unrefreshed settings) {token : TokenPayload}
    (htoken : FromLogin settings s.server token) : (s.saveToken token).Unrefreshed settings where
  token := fun token' heq => by
    cases heq
    exact htoken
  calls := h.calls

theorem Unrefreshed.finish (h : s.Unrefreshed settings) {answer : Option Answer}
    (hanswer : ∀ token, answer.bind Answer.token = some token → FromLogin settings s.server token) :
    (s.finish index p answer).Unrefreshed settings where
  token := fun token htoken => by
    rw [finish_server]
    rcases finish_token htoken with htoken | htoken
    · exact h.token token htoken
    · exact hanswer token htoken
  calls := fun q hq => by
    rw [finish_calls] at hq
    rw [finish_server]
    rcases mem_of_mem_set hq with heq | hq
    · cases heq
    · exact h.calls q hq

/-- What a call goes on with, when a refresh has given it nothing. -/
theorem Unrefreshed.resume (h : s.Unrefreshed settings) (hpath : ¬ RefreshCookieSent settings) {answer : Option Answer}
    (hnone : p.refreshes = true → answer.bind Answer.token = none)
    (hlogin : ∀ token, answer.bind Answer.token = some token → FromLogin settings s.server token) :
    (s.resume settings index p answer).Unrefreshed settings := by
  unfold SessionClient.resume
  cases hstage : p.stage with
  | refreshing after401 =>
    rw [hnone (refreshes_of_refreshing hstage)]
    cases after401 with
    | false => exact h.send hpath
    | true => exact h.finish fun token htoken => by cases htoken
  | fetching again =>
    dsimp only
    split
    · exact h.send hpath
    · exact h.finish hlogin

theorem settle_unauthorized {answer : Option Answer} (h : answer.map Answer.status = some 401) :
    (s.settle index answer).token = none := by
  rw [settle_eq]
  exact if_pos h

/-- A page that goes on without a token from a refresh. -/
theorem signsOut_resume {answer : Option Answer} (hrefreshes : p.refreshes = true)
    (hstage : p.stage ≠ .refreshing false) (hleft : p.leftBehind = true → answer.map Answer.status = some 401)
    (hnone : answer.bind Answer.token = none) : (s.resume settings index p answer).token = none := by
  have hended : ∀ answer : Option Answer, answer.bind Answer.token = none → answer.map Answer.status = some 401 →
      (s.finish index p answer).token = none := fun answer hnone h401 => by
    have hsettled : (s.settle index answer).token = none := settle_unauthorized h401
    rcases finish_eq s index p answer with heq | ⟨token, htoken, heq⟩ | heq
    · rw [heq, hsettled]
    · rw [hnone] at htoken
      cases htoken
    · rw [heq]
      rfl
  unfold resume
  cases hp : p.stage with
  | refreshing after401 =>
    cases after401 with
    | false => exact absurd hp hstage
    | true =>
      rw [hnone]
      exact hended _ rfl rfl
  | fetching again =>
    have hcall : p.call.refreshesSession = true := by
      rw [← refreshes_of_fetching hp]
      exact hrefreshes
    dsimp only
    rw [if_neg (by simp [attemptsRefresh_of_refreshesSession hcall])]
    cases hbehind : p.leftBehind with
    | true => exact hended answer hnone (hleft hbehind)
    | false =>
      unfold SessionClient.finish
      rw [hnone, hbehind]
      cases hcall' : p.call <;> rw [hcall'] at hcall <;> first | rfl | cases hcall

/-- The server gives the tokens of a fetch that is no refresh to those who sign in. -/
theorem respond_fromLogin (settings : ClientSettings) (server : Identity) (p : Pending) (status : Nat)
    {token : TokenPayload} (htoken : (respond settings.toTokenSettings server p status).1.accessToken = some token) :
    FromLogin settings (respond settings.toTokenSettings server p status).2 token := by
  -- an endpoint gives no token
  have hendpoint : ¬(p.call = .downloadAuditLogCsv ∨ ∃ path, p.call = .endpoint path) := by
    intro hcall
    rcases respond_checked settings.toTokenSettings server status hcall with
      ⟨_, -, heq⟩ | ⟨e, -, heq⟩
    · rw [heq] at htoken
      cases htoken
    · rw [heq, ofError_accessToken] at htoken
      cases htoken
  unfold respond at htoken ⊢
  cases hcall : p.call with
  | login email password =>
    rw [hcall] at htoken
    revert htoken
    dsimp only
    unfold login
    cases server.db.users.find? fun user => user.email = lower email with
    | none =>
      intro htoken
      cases htoken
    | some user =>
      dsimp only
      split <;> rename_i heq <;> split at heq
      · cases heq
        intro htoken
        cases htoken
        exact ⟨_, List.mem_cons_of_mem _ List.mem_cons_self, rfl, rfl, inSeconds_add_seconds _ _⟩
      · cases heq
      · cases heq
      · cases heq
        intro htoken
        cases htoken
  | impersonate userId =>
    rw [hcall] at htoken
    revert htoken
    dsimp only
    split
    · intro htoken
      cases htoken
      exact ⟨_, List.mem_cons_self, rfl, rfl, inSeconds_add_seconds _ _⟩
    · intro htoken
      cases htoken
  | downloadAuditLogCsv => exact absurd (.inl hcall) hendpoint
  | endpoint path => exact absurd (.inr ⟨path, hcall⟩) hendpoint
  | _ =>
    rw [hcall] at htoken
    cases htoken

theorem Unrefreshed.request (h : s.Unrefreshed settings) (hpath : ¬ RefreshCookieSent settings) (call : Call) :
    (s.request settings call).Unrefreshed settings where
  token := h.token
  calls := fun p hp => by
    rcases List.mem_append.1 hp with hp | hp
    · exact h.calls p hp
    · cases List.mem_singleton.1 hp
      exact uncookied_sending hpath s.server

theorem Unrefreshed.step (h : s.Unrefreshed settings) (hpath : ¬ RefreshCookieSent settings) (move : SessionMove) :
    (s.step settings move).Unrefreshed settings := by
  have htook := took_step settings s move
  generalize s.step settings move = s' at htook ⊢
  cases htook with
  | stays move => exact h
  | waits elapsed => exact h.serves fun t ht => ht
  | begins call => exact h.request hpath call
  | leaves hcall =>
    have hp := h.calls _ (mem_of_call? hcall)
    exact h.set fun q hq => by
      cases hq
      exact hp
  | refuses status hcall hflight hrefreshes =>
    exact h.set fun p hp => by
      cases hp
      exact ⟨fun _ => rfl, fun token htoken => by cases htoken⟩
  | refreshes status hcall hat =>
    -- no refresh with a cookie comes to the server
    have hcookie := h.calls _ (mem_of_call? hcall)
    unfold Pending.Uncookied at hcookie
    cases hat with
    | sent hflight hrefreshes =>
      rw [hflight] at hcookie
      cases hcookie hrefreshes
    | serving hflight =>
      rw [hflight] at hcookie
      exact hcookie.elim
  | responds status hcall hflight hplain =>
    rename_i index p cookie
    refine (h.serves fun t ht => (respond_acts settings.toTokenSettings s.server p status).issued ht).set fun q hq => ?_
    cases hq
    refine ⟨fun hrefreshes => ?_, fun token htoken => respond_fromLogin settings s.server p status htoken⟩
    have hrefreshes : p.refreshes = true := hrefreshes
    rw [hplain] at hrefreshes
    cases hrefreshes
  | turnsAway status hcall hflight =>
    exact h.set fun p hp => by
      cases hp
      exact ⟨fun _ => rfl, fun token htoken => by cases htoken⟩
  | arrives hcall hflight =>
    rename_i index p answer
    have hanswer := h.calls _ (mem_of_call? hcall)
    unfold Pending.Uncookied at hanswer
    rw [hflight] at hanswer
    exact Unrefreshed.set (s := { s with cookie := answer.setCookie.or s.cookie }) ⟨h.token, h.calls⟩ fun p hp => by
      cases hp
      exact hanswer
  | resumes hcall hflight =>
    have hanswer := h.calls _ (mem_of_call? hcall)
    unfold Pending.Uncookied at hanswer
    rw [hflight] at hanswer
    refine h.resume hpath (fun hrefreshes => ?_) fun token htoken => hanswer.2 token (accessToken_of_token htoken)
    exact token_none_of (hanswer.1 hrefreshes)
  | loses hcall =>
    rename_i index p
    have habandoned : (s.abandon p.flight).Unrefreshed settings := by
      unfold abandon
      split
      · exact h.serves fun t ht => ht
      · exact h
    exact habandoned.resume hpath (fun _ => lost_token p.flight) fun token htoken => by
      rw [lost_token] at htoken
      cases htoken
  | other request => exact h.serves fun t ht => (handle_acts settings.toTokenSettings s.server request).issued ht
  | othersRefresh cookie => exact h.serves fun t ht => ht
  | othersGoOn hother => exact h.serves fun t ht => mem_issued_refreshPhase settings.toTokenSettings ht
  | logsOut => exact ⟨fun token htoken => (by cases htoken), h.calls⟩

theorem Unrefreshed.signsOut (h : s.Unrefreshed settings) (move : SessionMove) : s.SignsOut settings move := by
  intro index p hcall hrefreshes hstage hmove
  rcases hmove with ⟨rfl, answer, hflight, hleft⟩ | ⟨rfl, hleft⟩
  · obtain ⟨call, stage, authorization, active, flight⟩ := p
    cases hflight
    have hanswer := h.calls _ (mem_of_call? hcall)
    unfold SessionClient.step
    dsimp only
    rw [hcall]
    exact signsOut_resume hrefreshes hstage (fun hbehind => congrArg some (hleft hbehind))
      (token_none_of (hanswer.1 hrefreshes))
  · unfold SessionClient.step
    dsimp only
    rw [hcall]
    exact signsOut_resume hrefreshes hstage hleft (lost_token p.flight)

end

/-- Where the refresh cookie is not sent, no page ever has a token from a refresh, and every refresh that a page waits
for, other than one before a call's first fetch, ends with the page signed out. -/
theorem never_refreshed (settings : ClientSettings) (hpath : ¬ RefreshCookieSent settings) (server : Identity)
    (moves : List SessionMove) :
    Always (step settings) (Unrefreshed settings) (opened server) moves ∧
      Steps (step settings) (SignsOut settings) (opened server) moves := by
  have hopened : (opened server).Unrefreshed settings := ⟨fun token h => (by cases h), fun p hp => by cases hp⟩
  have hstep : ∀ s move, Unrefreshed settings s →
      Unrefreshed settings (s.step settings move) := fun s move h => h.step hpath move
  exact ⟨.of_invariant hstep hopened moves,
    .of_invariant (I := Unrefreshed settings) (fun s move h _ => hstep s move h) (fun s move h => h.signsOut move)
      hopened moves⟩

end SessionClient

open SessionClient

namespace Small

/-- A user signs in, and the manager refreshes some minutes before the token runs out. -/
def signsInForOnce : List SessionMove :=
  signsIn "owner@x.io" "secret" ++ [.waits 400000000, .begins .maybeRefresh, .serves 1 200, .arrives 1, .resumes 1]

end Small

theorem Small.never_refreshed_under_api :
    Always (step (sessionSettings "/api")) (Unrefreshed (sessionSettings "/api"))
        (opened (Identity.started ControlPlane.Small.signInDb 0)) signsInForOnce ∧
      Steps (step (sessionSettings "/api")) (SignsOut (sessionSettings "/api"))
        (opened (Identity.started ControlPlane.Small.signInDb 0)) signsInForOnce :=
  never_refreshed (sessionSettings "/api") (by decide +kernel) (Identity.started ControlPlane.Small.signInDb 0)
    signsInForOnce

end ControlPlane.SaasUi
