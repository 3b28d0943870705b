import ControlPlane.SaasUi.LostSessions
import ControlPlane.SaasUi.OverlappingRefreshes

/-!
# How the browser's session is kept

Where the refresh cookie is sent, a session lives on from one refresh to the next, however the calls of the pages and
the requests of other clients fall between, as long as one refresh is under way at a time and none of them is lost,
turned away or late, and nobody else uses or ends the session's tokens.
-/

namespace ControlPlane.SaasUi

open Runs Identity

/-! ### The tokens of a session -/

def Answer.tokens (answer : Answer) : List TokenPayload := answer.accessToken.toList ++ answer.setCookie.toList

def Pending.tokens (p : Pending) : List TokenPayload :=
  p.authorization.toList ++
    match p.flight with
    | .sent cookie => cookie.toList
    | .serving cookie _ => [cookie]
    | .answered answer | .arrived answer => answer.tokens

/-- The call refreshes, and its cookie is revoked while the next has not come to the browser. -/
def Pending.brings (p : Pending) : Bool :=
  p.refreshes &&
    match p.flight with
    | .serving _ (.issuing _) | .answered _ => true
    | _ => false

namespace SessionClient

/-- The tokens that the browser has. -/
def tokens (s : SessionClient) : List TokenPayload :=
  s.token.toList ++ s.cookie.toList ++ s.calls.flatMap fun call => call.toList.flatMap Pending.tokens

/-- One refresh is under way at most. -/
def OneRefresh (s : SessionClient) : Prop := s.calls.countP (fun call => call.any Pending.refreshes) ≤ 1

/-- What a session needs of a move: no sign-in or logout, no endpoint that answers 401 on its own, no refresh that is
lost, turned away, or served after the cookie has run out, no token that has run out with a second fetch or a download,
no client elsewhere that ends the session, and one refresh at a time. -/
def Calm (settings : ClientSettings) (s : SessionClient) (move : SessionMove) : Prop :=
  (s.step settings move).OneRefresh ∧
    match move with
    | .waits _ | .leaves _ | .arrives _ | .resumes _ | .othersRefresh _ => True
    | .begins call => call.signsIn = false
    | .serves index status => status ≠ 401 ∧ (s.call? index).all fun p =>
        match p.flight with
        | .sent cookie =>
          if p.refreshes then cookie.all fun token => !token.expired s.server.now
          else p.stage ≠ .fetching true && p.call.attemptsRefresh ||
            p.authorization.all fun token => !token.expired s.server.now
        | _ => true
    | .turnsAway index status => status ≠ 401 ∧ (s.call? index).all fun p => !p.refreshes
    | .loses index => (s.call? index).all fun p => !p.refreshes
    | .other request => ∀ token ∈ s.tokens, token ∉ request.revokes ∧ request.cutsOff ≠ some token.sub
    | .othersGoOn index => (s.elsewhere[index]?).all fun other => other.1 ∉ s.tokens
    | .logsOut => False

instance (settings : ClientSettings) (s : SessionClient) (move : SessionMove) : Decidable (s.Calm settings move) := by
  unfold Calm OneRefresh
  cases move <;> infer_instance

end SessionClient

/-! ### The invariant -/

/-- The phase of a refresh of the session: its cookie is the browser's until it is revoked. -/
def Redeems (userId : Nat) (cookie : Option TokenPayload) (served : TokenPayload) : RefreshPhase → Prop
  | .decoding | .checking | .loading => cookie = some served
  | .revoking id => id = userId ∧ cookie = some served
  | .issuing id => id = userId
  | _ => False

/-- A call of a session: its token is good, its refresh carries the browser's cookie and brings good tokens, and it is
refused before it has refreshed only. -/
structure Pending.Kept (settings : ClientSettings) (userId : Nat) (server : Identity) (cookie : Option TokenPayload)
    (p : Pending) : Prop where
  call : p.call.signsIn = false
  authorization : ∃ token, p.authorization = some token ∧
    server.Good settings.toTokenSettings userId .access token
  sent : ∀ sent, p.flight = .sent sent → p.refreshes = true → sent = cookie
  serving : ∀ served phase, p.flight = .serving served phase → p.refreshes = true ∧ phase ≠ .decoding ∧
    Redeems userId cookie served phase
  brought : ∀ answer, p.flight = .answered answer ∨ p.flight = .arrived answer → p.refreshes = true →
    ∃ accessToken refreshToken, answer = ⟨200, some accessToken, some refreshToken⟩ ∧
      server.Good settings.toTokenSettings userId .access accessToken ∧
      server.Good settings.toTokenSettings userId .refresh refreshToken
  plain : ∀ answer, p.flight = .answered answer ∨ p.flight = .arrived answer → p.refreshes = false →
    answer.setCookie = none ∧ (answer.status = 401 → p.stage = .fetching false ∧ p.call.attemptsRefresh = true)

namespace SessionClient

/-- The session is kept: the page has a good token, and the browser a good cookie unless a refresh brings the next. -/
structure Kept (settings : ClientSettings) (userId : Nat) (s : SessionClient) : Prop where
  sound : s.server.Sound
  standing : s.server.Standing userId
  token : ∃ token, s.token = some token ∧ s.server.Good settings.toTokenSettings userId .access token
  cookie : (∀ index p, s.call? index = some p → p.brings = false) →
    ∃ token, s.cookie = some token ∧ s.server.Good settings.toTokenSettings userId .refresh token
  calls : ∀ index p, s.call? index = some p → p.Kept settings userId s.server s.cookie
  one : s.OneRefresh
  expirations : s.expirations = 0

section
variable {settings : ClientSettings} {userId : Nat} {s : SessionClient} {index : Nat} {p : Pending}

theorem index_eq_of_countP_le_one {α : Type} {P : α → Bool} {l : List α} (h : l.countP P ≤ 1) {i j : Nat} {a b : α}
    (hi : l[i]? = some a) (hj : l[j]? = some b) (ha : P a = true) (hb : P b = true) : i = j := by
  induction l generalizing i j with
  | nil => cases hi
  | cons c l ih =>
    have hrest : ∀ {k d}, P c = true → l[k]? = some d → P d = true → False := fun hc hk hd => by
      have hpos := List.countP_pos_iff.2 ⟨_, List.mem_of_getElem? hk, hd⟩
      rw [List.countP_cons_of_pos hc] at h
      omega
    cases i with
    | zero =>
      cases j with
      | zero => rfl
      | succ j =>
        cases hi
        exact (hrest ha hj hb).elim
    | succ i =>
      cases j with
      | zero =>
        cases hj
        exact (hrest hb hi ha).elim
      | succ j =>
        refine congrArg Nat.succ (ih (Nat.le_trans ?_ h) hi hj)
        exact (List.sublist_cons_self c l).countP_le

/-- The refresh under way is one. -/
theorem OneRefresh.eq (h : s.OneRefresh) {other : Nat} {q : Pending} (hp : s.call? index = some p)
    (hq : s.call? other = some q) (hp' : p.refreshes = true) (hq' : q.refreshes = true) : index = other :=
  index_eq_of_countP_le_one h (getElem?_of_call? hp) (getElem?_of_call? hq) hp' hq'

theorem refreshes_of_brings (h : p.brings = true) : p.refreshes = true := (Bool.and_eq_true_iff.1 h).1

theorem brings_false_of_plain (h : p.refreshes = false) : p.brings = false := by
  unfold Pending.brings
  rw [h, Bool.false_and]

theorem call?_set_eq {next : Option Pending} {other : Nat} {q : Pending}
    (h : ({ s with calls := s.calls.set index next } : SessionClient).call? other = some q) :
    (other = index ∧ next = some q) ∨ (other ≠ index ∧ s.call? other = some q) := by
  by_cases hother : other = index
  · subst hother
    refine .inl ⟨rfl, ?_⟩
    have hget := getElem?_of_call? h
    rw [List.getElem?_set, if_pos rfl] at hget
    split at hget
    · exact Option.some.inj hget
    · cases hget
  · refine .inr ⟨hother, ?_⟩
    rw [← h]
    exact (call?_of_calls (fun heq => hother heq.symm) rfl).symm

/-! ### The server goes on -/

theorem mem_tokens_of_token {token : TokenPayload} (h : s.token = some token) : token ∈ s.tokens :=
  List.mem_append_left _ (List.mem_append_left _ (Option.mem_toList.2 h))

theorem mem_tokens_of_cookie {token : TokenPayload} (h : s.cookie = some token) : token ∈ s.tokens :=
  List.mem_append_left _ (List.mem_append_right _ (Option.mem_toList.2 h))

theorem mem_tokens_of_call {token : TokenPayload} (hcall : s.call? index = some p) (h : token ∈ p.tokens) :
    token ∈ s.tokens :=
  List.mem_append_right _ (List.mem_flatMap.2
    ⟨_, mem_of_call? hcall, List.mem_flatMap.2 ⟨p, List.mem_singleton_self p, h⟩⟩)

/-- What the server does to other tokens leaves the session as it was. -/
theorem Kept.acts {R : TokenPayload → Prop} {C : Nat → Prop} {server : Identity} (h : s.Kept settings userId)
    (hacts : s.server.Acts settings.toTokenSettings R C server) (hR : ∀ token ∈ s.tokens, ¬ R token)
    (hC : ¬ C userId) : Kept settings userId { s with server := server } where
  sound := hacts.sound h.sound
  standing := hacts.standing hC h.standing
  token := by
    obtain ⟨token, htoken, hgood⟩ := h.token
    exact ⟨token, htoken, hacts.good h.sound (hR token (mem_tokens_of_token htoken)) hC hgood⟩
  cookie := fun hbrings => by
    obtain ⟨token, htoken, hgood⟩ := h.cookie hbrings
    exact ⟨token, htoken, hacts.good h.sound (hR token (mem_tokens_of_cookie htoken)) hC hgood⟩
  calls := fun index p hcall => by
    have hp := h.calls index p hcall
    have hmem : ∀ token ∈ p.tokens, ¬ R token := fun token htoken => hR token (mem_tokens_of_call hcall htoken)
    obtain ⟨token, htoken, hgood⟩ := hp.authorization
    have hauthorization : token ∈ p.tokens := List.mem_append_left _ (Option.mem_toList.2 htoken)
    refine ⟨hp.call, ⟨token, htoken, hacts.good h.sound (hmem token hauthorization) hC hgood⟩, hp.sent, hp.serving,
      fun answer hflight hrefreshes => ?_, hp.plain⟩
    obtain ⟨accessToken, refreshToken, rfl, haccess, hrefresh⟩ := hp.brought answer hflight hrefreshes
    have hbrought : ∀ token ∈ [accessToken, refreshToken], token ∈ p.tokens := fun token htoken => by
      refine List.mem_append_right _ ?_
      rcases hflight with hflight | hflight <;> rw [hflight] <;> exact htoken
    exact ⟨accessToken, refreshToken, rfl,
      hacts.good h.sound (hmem _ (hbrought _ List.mem_cons_self)) hC haccess,
      hacts.good h.sound (hmem _ (hbrought _ (List.mem_cons_of_mem _ List.mem_cons_self))) hC hrefresh⟩
  one := h.one
  expirations := h.expirations

/-- What the server is at elsewhere is not the session's. -/
theorem Kept.elsewhere {elsewhere : List (TokenPayload × RefreshPhase)} (h : s.Kept settings userId) :
    Kept settings userId { s with elsewhere := elsewhere } :=
  ⟨h.sound, h.standing, h.token, h.cookie, h.calls, h.one, h.expirations⟩

/-! ### A call goes on -/

/-- A call goes on, and brings a cookie still if it did. -/
theorem Kept.replace (h : s.Kept settings userId) (hcall : s.call? index = some p) {next : Option Pending}
    (hbrings : p.brings = true → ∃ q, next = some q ∧ q.brings = true)
    (hnext : ∀ q, next = some q → q.Kept settings userId s.server s.cookie)
    (hone : OneRefresh { s with calls := s.calls.set index next }) :
    Kept settings userId { s with calls := s.calls.set index next } where
  sound := h.sound
  standing := h.standing
  token := h.token
  cookie := fun hnone => h.cookie fun other q hq => by
    by_cases hother : other = index
    · subst hother
      cases hcall.symm.trans hq
      cases hq' : p.brings with
      | false => rfl
      | true =>
        obtain ⟨q, rfl, hq⟩ := hbrings hq'
        have hsome : (s.call? other).isSome := by rw [hcall]; rfl
        cases hq.symm.trans (hnone other q (call?_set hsome _))
    · exact hnone other q ((call?_of_calls (fun heq => hother heq.symm) rfl).trans hq)
  calls := fun other q hq => by
    rcases call?_set_eq hq with ⟨-, heq⟩ | ⟨-, hq⟩
    · exact hnext q heq
    · exact h.calls other q hq
  one := hone
  expirations := h.expirations

/-- A call that brought no cookie goes on, or is over. -/
theorem Kept.set (h : s.Kept settings userId) (hcall : s.call? index = some p) (hbrings : p.brings = false)
    {next : Option Pending} (hnext : ∀ q, next = some q → q.Kept settings userId s.server s.cookie)
    (hone : OneRefresh { s with calls := s.calls.set index next }) :
    Kept settings userId { s with calls := s.calls.set index next } :=
  h.replace hcall (fun hbrings' => by rw [hbrings] at hbrings'; cases hbrings') hnext hone

/-- The page of a call is left. -/
theorem Kept.leave (h : s.Kept settings userId) (hcall : s.call? index = some p)
    (hone : OneRefresh { s with calls := s.calls.set index (some { p with active := false }) }) :
    Kept settings userId { s with calls := s.calls.set index (some { p with active := false }) } := by
  have hp := h.calls index p hcall
  refine h.replace hcall (fun hbrings => ⟨_, rfl, hbrings⟩) (fun q hq => ?_) hone
  cases hq
  exact ⟨hp.call, hp.authorization, hp.sent, hp.serving, hp.brought, hp.plain⟩

theorem Kept.saveToken (h : s.Kept settings userId) {token : TokenPayload}
    (hgood : s.server.Good settings.toTokenSettings userId .access token) :
    (s.saveToken token).Kept settings userId where
  sound := h.sound
  standing := h.standing
  token := ⟨token, rfl, hgood⟩
  cookie := h.cookie
  calls := h.calls
  one := h.one
  expirations := h.expirations

/-- A fetch that a call of the session sends. -/
theorem kept_sending (hpath : RefreshCookieSent settings) (hcall : p.call.signsIn = false)
    (hauthorization : ∃ token, p.authorization = some token ∧
      s.server.Good settings.toTokenSettings userId .access token) :
    (s.sending settings p).Kept settings userId s.server s.cookie where
  call := hcall
  authorization := hauthorization
  sent := fun sent hsent hrefreshes => by
    have hrefreshes : p.refreshes = true := hrefreshes
    have heq : sent = s.cookieFor settings p.path := (Flight.sent.inj hsent).symm
    rw [heq, path_of_refreshes hrefreshes]
    exact cookieFor_refresh hpath
  serving := fun served phase hserving => by cases hserving
  brought := fun answer hflight => by rcases hflight with h | h <;> cases h
  plain := fun answer hflight => by rcases hflight with h | h <;> cases h

theorem call?_request_eq {call : Call} {other : Nat} {q : Pending}
    (h : (s.request settings call).call? other = some q) :
    s.call? other = some q ∨ ∃ stage, q = s.sending settings ⟨call, stage, s.token, true, .sent none⟩ := by
  have hget := getElem?_of_call? h
  unfold request at hget
  dsimp only at hget
  rw [List.getElem?_append] at hget
  split at hget
  · refine .inl ?_
    unfold call?
    rw [hget]
    rfl
  · have hmem := List.mem_of_getElem? hget
    cases List.mem_singleton.1 hmem
    exact .inr ⟨_, rfl⟩

/-- A page comes to a call. -/
theorem Kept.request (h : s.Kept settings userId) (hpath : RefreshCookieSent settings) (call : Call)
    (hcall : call.signsIn = false) (hone : (s.request settings call).OneRefresh) :
    (s.request settings call).Kept settings userId where
  sound := h.sound
  standing := h.standing
  token := h.token
  cookie := fun hnone => h.cookie fun other q hq => hnone other q (call?_request call hq)
  calls := fun other q hq => by
    rcases call?_request_eq hq with hq | ⟨stage, rfl⟩
    · exact h.calls other q hq
    · exact kept_sending hpath hcall h.token
  one := hone
  expirations := h.expirations

/-- A call of the session whose answer brings no token goes on: with a refresh, after a 401, or it is over. -/
theorem Kept.resume_plain (h : s.Kept settings userId) (hpath : RefreshCookieSent settings)
    (hcall : s.call? index = some p) (hplain : p.refreshes = false) {answer : Option Answer}
    (hanswer : answer.map Answer.status = some 401 →
      p.stage = .fetching false ∧ p.call.attemptsRefresh = true)
    (hone : (s.resume settings index p answer).OneRefresh) :
    (s.resume settings index p answer).Kept settings userId := by
  have hp := h.calls index p hcall
  have hbrings := brings_false_of_plain hplain
  have hsession : p.call.refreshesSession = false ∧ ∃ again, p.stage = .fetching again := by
    cases hstage : p.stage with
    | refreshing after401 =>
      rw [refreshes_of_refreshing hstage] at hplain
      cases hplain
    | fetching again =>
      rw [refreshes_of_fetching hstage] at hplain
      exact ⟨hplain, again, rfl⟩
  obtain ⟨again, hstage⟩ := hsession.2
  unfold SessionClient.resume at hone ⊢
  rw [hstage] at hone hanswer ⊢
  dsimp only at hone ⊢
  by_cases hagain : again = false ∧ answer.map Answer.status = some 401 ∧ p.call.attemptsRefresh = true
  · rw [if_pos hagain] at hone ⊢
    refine h.set hcall hbrings (fun q hq => ?_) hone
    cases hq
    exact kept_sending hpath hp.call hp.authorization
  · rw [if_neg hagain] at hone ⊢
    have hstatus : answer.map Answer.status ≠ some 401 := fun hstatus => by
      obtain ⟨hfetching, hattempt⟩ := hanswer hstatus
      exact hagain ⟨Stage.fetching.inj hfetching, hstatus, hattempt⟩
    -- the page takes no token from such a call
    have hfinish : s.finish index p answer = { s with calls := s.calls.set index none } := by
      have hsettle : s.settle index answer = { s with calls := s.calls.set index none } := by
        unfold settle
        exact if_neg hstatus
      unfold SessionClient.finish
      rw [hsettle]
      have hnot := hp.call
      cases hp' : p.call with
      | login email password => rw [hp'] at hnot; cases hnot
      | impersonate userId => rw [hp'] at hnot; cases hnot
      | maybeRefresh => rw [hp'] at hsession; cases hsession.1
      | ensureSession => rw [hp'] at hsession; cases hsession.1
      | _ => rfl
    rw [hfinish] at hone ⊢
    exact h.set hcall hbrings (fun q hq => by cases hq) hone

/-- A refresh that brought tokens: the page has the new one, and the call goes on with it or is over. -/
theorem Kept.resume_refresh (h : s.Kept settings userId) (hpath : RefreshCookieSent settings)
    (hcall : s.call? index = some p) {answer : Answer} (hflight : p.flight = .arrived answer)
    (hrefreshes : p.refreshes = true) (hone : (s.resume settings index p (some answer)).OneRefresh) :
    (s.resume settings index p (some answer)).Kept settings userId := by
  have hp := h.calls index p hcall
  obtain ⟨accessToken, refreshToken, rfl, haccess, -⟩ := hp.brought answer (.inr hflight) hrefreshes
  have hbrings : p.brings = false := by
    unfold Pending.brings
    rw [hflight]
    exact Bool.and_false _
  have hsaved := h.saveToken haccess
  have hbind : (some (⟨200, some accessToken, some refreshToken⟩ : Answer)).bind Answer.token = some accessToken := rfl
  unfold SessionClient.resume at hone ⊢
  rw [hbind] at hone ⊢
  cases hstage : p.stage with
  | refreshing after401 =>
    rw [hstage] at hone
    cases after401 <;>
      exact hsaved.set hcall hbrings (fun q hq => by
        cases hq
        exact kept_sending hpath hp.call ⟨accessToken, rfl, haccess⟩) hone
  | fetching again =>
    rw [hstage] at hone
    have hsession : p.call.refreshesSession = true := by
      rw [← refreshes_of_fetching hstage]
      exact hrefreshes
    dsimp only at hone ⊢
    rw [if_neg (by simp)] at hone ⊢
    have hfinish : s.finish index p (some ⟨200, some accessToken, some refreshToken⟩) =
        if p.leftBehind then { s with calls := s.calls.set index none }
        else { s.saveToken accessToken with calls := s.calls.set index none } := by
      unfold SessionClient.finish
      rw [hbind]
      cases hp' : p.call <;> rw [hp'] at hsession <;> first | rfl | cases hsession
    rw [hfinish] at hone ⊢
    -- a page that was left keeps the token it had
    split
    · rename_i hleft
      rw [if_pos hleft] at hone
      exact h.set hcall hbrings (fun q hq => by cases hq) hone
    · rename_i hleft
      rw [if_neg hleft] at hone
      exact hsaved.set hcall hbrings (fun q hq => by cases hq) hone

/-- The browser has a good cookie while no refresh brings another. -/
theorem Kept.cookie_of_sent (h : s.Kept settings userId) (hcall : s.call? index = some p)
    (hrefreshes : p.refreshes = true) (hbrings : p.brings = false) :
    ∃ token, s.cookie = some token ∧ s.server.Good settings.toTokenSettings userId .refresh token := by
  refine h.cookie fun other q hq => ?_
  cases hq' : q.brings with
  | false => rfl
  | true =>
    obtain rfl := h.one.eq hcall hq hrefreshes (refreshes_of_brings hq')
    rw [hcall] at hq
    cases hq
    rw [hbrings] at hq'
    cases hq'

/-- The server takes a step with the refresh of the session. -/
theorem Kept.serves (h : s.Kept settings userId) (hcall : s.call? index = some p) (hrefreshes : p.refreshes = true)
    {R : TokenPayload → Prop} {server : Identity} {flight : Flight}
    (hacts : s.server.Acts settings.toTokenSettings R (fun _ => False) server)
    (hR : ∀ token, R token → token.tokenType = .refresh)
    (hcookie : Pending.brings { p with flight := flight } = true ∨ p.brings = false ∧ ∀ token, ¬ R token)
    (hserving : (∃ served phase, flight = .serving served phase ∧ phase ≠ .decoding ∧
        Redeems userId s.cookie served phase) ∨
      ∃ accessToken refreshToken, flight = .answered ⟨200, some accessToken, some refreshToken⟩ ∧
        server.Good settings.toTokenSettings userId .access accessToken ∧
        server.Good settings.toTokenSettings userId .refresh refreshToken)
    (hone : ({ s with server := server }.move index p flight).OneRefresh) :
    ({ s with server := server }.move index p flight).Kept settings userId := by
  have hsome : (s.call? index).isSome := by rw [hcall]; rfl
  -- the access tokens of the session are none of those that are revoked
  have hkeeps : ∀ {token}, s.server.Good settings.toTokenSettings userId .access token →
      server.Good settings.toTokenSettings userId .access token := fun {token} hgood =>
    hacts.good h.sound (fun hrevoked => by
      have htype := hR token hrevoked
      rw [hgood.ofType] at htype
      cases htype) id hgood
  have hauthorized : ∀ {q : Pending}, (∃ token, q.authorization = some token ∧
      s.server.Good settings.toTokenSettings userId .access token) →
      ∃ token, q.authorization = some token ∧ server.Good settings.toTokenSettings userId .access token :=
    fun ⟨token, htoken, hgood⟩ => ⟨token, htoken, hkeeps hgood⟩
  refine ⟨hacts.sound h.sound, hacts.standing id h.standing, ?_, fun hnone => ?_, fun other q hq => ?_, hone,
    h.expirations⟩
  · obtain ⟨token, htoken, hgood⟩ := h.token
    exact ⟨token, htoken, hkeeps hgood⟩
  · rcases hcookie with hbrings | ⟨hbrings, hnot⟩
    · have hnone' : Pending.brings { p with flight := flight } = false := hnone index _ (call?_set hsome _)
      cases hbrings.symm.trans hnone'
    · obtain ⟨token, htoken, hgood⟩ := h.cookie_of_sent hcall hrefreshes hbrings
      exact ⟨token, htoken, hacts.good h.sound (hnot token) id hgood⟩
  · have hp := h.calls index p hcall
    rcases call?_set_eq (s := s) hq with ⟨-, heq⟩ | ⟨hne, hq⟩
    · cases heq
      refine ⟨hp.call, hauthorized hp.authorization, fun sent hsent => ?_, fun served phase hflight => ?_,
        fun answer hflight _ => ?_, fun answer _ hplain => ?_⟩
      · rcases hserving with ⟨_, _, heq, -⟩ | ⟨_, _, heq, -⟩ <;> cases heq.symm.trans hsent
      · rcases hserving with ⟨_, _, heq, hnot, hphase⟩ | ⟨_, _, heq, -⟩
        · cases heq.symm.trans hflight
          exact ⟨hrefreshes, hnot, hphase⟩
        · cases heq.symm.trans hflight
      · rcases hserving with ⟨_, _, heq, -⟩ | ⟨accessToken, refreshToken, heq, haccess, hrefresh⟩
        · rcases hflight with hflight | hflight <;> cases heq.symm.trans hflight
        · rcases hflight with hflight | hflight <;> cases heq.symm.trans hflight
          exact ⟨accessToken, refreshToken, rfl, haccess, hrefresh⟩
      · have hplain : p.refreshes = false := hplain
        rw [hrefreshes] at hplain
        cases hplain
    · have hother := h.calls other q hq
      have hplain : q.refreshes = false := by
        cases hq' : q.refreshes with
        | false => rfl
        | true => exact absurd (h.one.eq hcall hq hrefreshes hq').symm hne
      refine ⟨hother.call, hauthorized hother.authorization, hother.sent, hother.serving,
        fun answer _ hrefreshes' => ?_, hother.plain⟩
      rw [hplain] at hrefreshes'
      cases hrefreshes'

theorem serveRefresh_serving {settings : TokenSettings} {server : Identity} {cookie : TokenPayload}
    {phase next : RefreshPhase} (h : (refreshPhase settings cookie server phase).1 = next) (hrefused : next ≠ .refused)
    (hissued : ∀ accessToken refreshToken, next ≠ .issued accessToken refreshToken) :
    (serveRefresh settings server cookie phase).1 = .serving cookie next := by
  unfold serveRefresh
  split <;> rename_i heq <;> rw [heq] at h
  · exact absurd h.symm (hissued _ _)
  · exact absurd h.symm hrefused
  · exact congrArg (Flight.serving cookie) h

theorem serveRefresh_issued {settings : TokenSettings} {server : Identity} {cookie accessToken refreshToken : TokenPayload}
    {phase : RefreshPhase} (h : (refreshPhase settings cookie server phase).1 = .issued accessToken refreshToken) :
    (serveRefresh settings server cookie phase).1 = .answered ⟨200, some accessToken, some refreshToken⟩ := by
  have heq : refreshPhase settings cookie server phase =
      (.issued accessToken refreshToken, (refreshPhase settings cookie server phase).2) := Prod.ext h rfl
  unfold serveRefresh
  rw [heq]

/-- The refresh of the session has the cookie of the browser until it is revoked. -/
theorem Kept.redeems (h : s.Kept settings userId) {cookie : TokenPayload} {phase : RefreshPhase}
    (hcall : s.call? index = some p) (hat : p.At cookie phase) :
    p.refreshes = true ∧ Redeems userId s.cookie cookie phase := by
  cases hat with
  | sent hflight hrefreshes => exact ⟨hrefreshes, ((h.calls index p hcall).sent _ hflight hrefreshes).symm⟩
  | serving hflight =>
    obtain ⟨hrefreshes, -, hphase⟩ := (h.calls index p hcall).serving _ _ hflight
    exact ⟨hrefreshes, hphase⟩

/-- The refresh of the session goes on, and ends with good tokens. -/
theorem Kept.refreshes (h : s.Kept settings userId) (hknown : s.Known) {cookie : TokenPayload} {phase : RefreshPhase}
    (hcall : s.call? index = some p) (hat : p.At cookie phase)
    (hexpired : phase = .decoding → cookie.expired s.server.now = false)
    (hone : ({ s with server := (serveRefresh settings.toTokenSettings s.server cookie phase).2 }.move index p
      (serveRefresh settings.toTokenSettings s.server cookie phase).1).OneRefresh) :
    ({ s with server := (serveRefresh settings.toTokenSettings s.server cookie phase).2 }.move index p
      (serveRefresh settings.toTokenSettings s.server cookie phase).1).Kept settings userId := by
  obtain ⟨hrefreshes, hphase⟩ := h.redeems hcall hat
  -- before it is revoked, the cookie is the browser's
  have hgood : s.cookie = some cookie → (∀ id, phase ≠ .issuing id) → p.brings = false ∧
      s.server.Good settings.toTokenSettings userId .refresh cookie := fun hcookie hissuing => by
    have hbrings : p.brings = false := by
      unfold Pending.brings
      cases hat with
      | sent hflight hrefreshes => rw [hflight, Bool.and_false]
      | serving hflight =>
        rw [hflight]
        cases phase with
        | issuing id => exact absurd rfl (hissuing id)
        | _ => exact Bool.and_false _
    obtain ⟨token, htoken, hgood⟩ := h.cookie_of_sent hcall hrefreshes hbrings
    cases hcookie.symm.trans htoken
    exact ⟨hbrings, hgood⟩
  have hacts := refreshPhase_acts settings.toTokenSettings (fun _ => False) (issued_of_at hknown hcall hat)
  rw [← serveRefresh_server] at hacts
  refine h.serves hcall hrefreshes hacts ?_ ?_ ?_ hone
  · rintro token ⟨rfl, id, rfl⟩
    exact (hgood hphase.2 nofun).2.ofType
  · cases phase with
    | decoding => exact .inr ⟨(hgood hphase nofun).1, fun token hR => by cases hR.2.choose_spec⟩
    | checking => exact .inr ⟨(hgood hphase nofun).1, fun token hR => by cases hR.2.choose_spec⟩
    | loading => exact .inr ⟨(hgood hphase nofun).1, fun token hR => by cases hR.2.choose_spec⟩
    | revoking id => exact .inl (Bool.and_eq_true_iff.2 ⟨hrefreshes, rfl⟩)
    | issuing id => exact .inl (Bool.and_eq_true_iff.2 ⟨hrefreshes, rfl⟩)
    | _ => exact hphase.elim
  · cases phase with
    | decoding =>
      have heq := decoding_good settings.toTokenSettings (hgood hphase nofun).2 (hexpired rfl)
      exact .inl ⟨cookie, .checking, serveRefresh_serving (congrArg Prod.fst heq) nofun nofun, nofun, hphase⟩
    | checking =>
      have heq := checking_good settings.toTokenSettings (hgood hphase nofun).2
      exact .inl ⟨cookie, .loading, serveRefresh_serving heq nofun nofun, nofun, hphase⟩
    | loading =>
      have heq := loading_good settings.toTokenSettings h.standing (hgood hphase nofun).2
      exact .inl ⟨cookie, .revoking userId, serveRefresh_serving (congrArg Prod.fst heq) nofun nofun, nofun, rfl, hphase⟩
    | revoking id => exact .inl ⟨cookie, .issuing id, rfl, nofun, hphase.1⟩
    | issuing id =>
      obtain rfl := hphase
      obtain ⟨accessToken, refreshToken, heq, hgoods⟩ :=
        issuing_good settings.toTokenSettings cookie h.sound h.standing
      rw [← serveRefresh_server] at hgoods
      exact .inr ⟨accessToken, refreshToken, serveRefresh_issued heq, hgoods⟩
    | _ => exact hphase.elim

/-- What a call of the session is answered that is no refresh. -/
theorem Kept.responds (h : s.Kept settings userId) (status : Nat) (hcall : s.call? index = some p)
    (hplain : p.refreshes = false) (hstatus : status ≠ 401)
    (hlive : (p.stage = .fetching true ∨ p.call.attemptsRefresh = false) →
      (p.authorization.all fun token => !token.expired s.server.now) = true) :
    (respond settings.toTokenSettings s.server p status).1.setCookie = none ∧
      ((respond settings.toTokenSettings s.server p status).1.status = 401 →
        p.stage = .fetching false ∧ p.call.attemptsRefresh = true) := by
  have hp := h.calls index p hcall
  have hendpoint : p.call = .downloadAuditLogCsv ∨ (∃ path, p.call = .endpoint path) →
      (respond settings.toTokenSettings s.server p status).1.setCookie = none ∧
        ((respond settings.toTokenSettings s.server p status).1.status = 401 →
          p.stage = .fetching false ∧ p.call.attemptsRefresh = true) := by
    intro hcall
    rcases respond_checked settings.toTokenSettings s.server status hcall with
      ⟨_, -, heq⟩ | ⟨e, hresult, heq⟩
    · rw [heq]
      exact ⟨rfl, fun h401 => absurd h401 hstatus⟩
    · rw [heq]
      refine ⟨by cases e <;> rfl, fun _ => Classical.byContradiction fun hnot => ?_⟩
      -- a call that cannot refresh any more carries a token that is accepted
      obtain ⟨token, htoken, hgood⟩ := hp.authorization
      have hunexpired := hlive (by
        cases hstage : p.stage with
        | refreshing after401 =>
          rw [refreshes_of_refreshing hstage] at hplain
          cases hplain
        | fetching again =>
          cases again with
          | true => exact .inl rfl
          | false =>
            rw [hstage] at hnot
            exact .inr (by simpa using hnot))
      rw [htoken] at hunexpired
      have hok := getCurrentUser_good h.standing hgood (by simpa using hunexpired)
      rw [← htoken, hresult] at hok
      cases hok
  have hnot := hp.call
  cases hcall' : p.call with
  | login email password => rw [hcall'] at hnot; cases hnot
  | impersonate userId => rw [hcall'] at hnot; cases hnot
  | downloadAuditLogCsv =>
    rw [hcall'] at hendpoint
    exact hendpoint (.inl rfl)
  | endpoint path =>
    rw [hcall'] at hendpoint
    exact hendpoint (.inr ⟨path, rfl⟩)
  | _ =>
    unfold respond
    rw [hcall']
    exact ⟨rfl, fun h401 => absurd h401 hstatus⟩

/-- A call of the session that is no refresh gets its answer. -/
theorem Kept.answered (h : s.Kept settings userId) (hcall : s.call? index = some p) (hplain : p.refreshes = false)
    {answer : Answer} (hanswer : answer.setCookie = none ∧
      (answer.status = 401 → p.stage = .fetching false ∧ p.call.attemptsRefresh = true))
    (hone : (s.move index p (.answered answer)).OneRefresh) :
    (s.move index p (.answered answer)).Kept settings userId := by
  have hp := h.calls index p hcall
  refine h.set hcall (brings_false_of_plain hplain) (fun q hq => ?_) hone
  cases hq
  refine ⟨hp.call, hp.authorization, fun sent hsent => (by cases hsent), fun served phase hserving => (by cases hserving),
    fun other _ hrefreshes => ?_, fun other hother _ => ?_⟩
  · have hrefreshes : p.refreshes = true := hrefreshes
    rw [hplain] at hrefreshes
    cases hrefreshes
  · rcases hother with hother | hother <;> cases hother
    exact hanswer

/-- An answer comes to the browser, which stores the cookie that it sets. -/
theorem Kept.arrived (h : s.Kept settings userId) (hcall : s.call? index = some p) {answer : Answer}
    (hflight : p.flight = .answered answer)
    (hone : ({ s with cookie := answer.setCookie.or s.cookie }.move index p (.arrived answer)).OneRefresh) :
    ({ s with cookie := answer.setCookie.or s.cookie }.move index p (.arrived answer)).Kept settings userId := by
  have hp := h.calls index p hcall
  have hnext : Pending.Kept settings userId s.server (answer.setCookie.or s.cookie)
      { p with flight := .arrived answer } := by
    refine ⟨hp.call, hp.authorization, fun sent hsent => (by cases hsent),
      fun served phase hserving => (by cases hserving), fun other hother => ?_, fun other hother => ?_⟩
    · rcases hother with hother | hother <;> cases hother
      exact hp.brought answer (.inl hflight)
    · rcases hother with hother | hother <;> cases hother
      exact hp.plain answer (.inl hflight)
  cases hrefreshes : p.refreshes with
  | false =>
    have hcookie : answer.setCookie.or s.cookie = s.cookie := by
      rw [(hp.plain answer (.inl hflight) hrefreshes).1]
      rfl
    rw [hcookie] at hone hnext ⊢
    exact h.set hcall (brings_false_of_plain hrefreshes) (fun q hq => by cases hq; exact hnext) hone
  | true =>
    obtain ⟨accessToken, refreshToken, rfl, -, hrefresh⟩ := hp.brought answer (.inl hflight) hrefreshes
    refine ⟨h.sound, h.standing, h.token, fun _ => ⟨refreshToken, rfl, hrefresh⟩, fun other q hq => ?_, hone,
      h.expirations⟩
    rcases call?_set_eq (s := { s with cookie := some refreshToken }) hq with ⟨-, heq⟩ | ⟨hne, hq⟩
    · cases heq
      exact hnext
    · -- no other call is a refresh, so none carries the old cookie for one
      have hother := h.calls other q hq
      have hplain : q.refreshes ≠ true := fun hrefreshes' =>
        absurd (h.one.eq hcall hq hrefreshes hrefreshes').symm hne
      exact ⟨hother.call, hother.authorization, fun sent _ hrefreshes' => absurd hrefreshes' hplain,
        fun served phase hserving => absurd (hother.serving served phase hserving).1 hplain, hother.brought,
        hother.plain⟩

theorem Kept.step (h : s.Kept settings userId) (hknown : s.Known) (hpath : RefreshCookieSent settings)
    {move : SessionMove} (hcalm : s.Calm settings move) : (s.step settings move).Kept settings userId := by
  obtain ⟨hone, hcalm⟩ := hcalm
  have htook := took_step settings s move
  generalize s.step settings move = s' at htook hone ⊢
  cases htook with
  | stays move => exact h
  | waits elapsed => exact h.acts (acts_wait settings.toTokenSettings s.server elapsed) (fun _ _ => id) id
  | begins call => exact h.request hpath call hcalm hone
  | leaves hcall => exact h.leave hcall hone
  | refuses status hcall hflight hrefreshes =>
    -- the refresh of the session has a cookie
    rename_i index p
    have hnone := (h.calls index p hcall).sent none hflight hrefreshes
    have hbrings : p.brings = false := by
      unfold Pending.brings
      rw [hflight, Bool.and_false]
    obtain ⟨token, htoken, -⟩ := h.cookie_of_sent hcall hrefreshes hbrings
    cases hnone.trans htoken
  | refreshes status hcall hat =>
    rename_i index p cookie phase
    dsimp only at hcalm
    rw [hcall] at hcalm
    obtain ⟨-, hlive⟩ := hcalm
    dsimp only [Option.all_some] at hlive
    refine h.refreshes hknown hcall hat (fun hphase => ?_) hone
    cases hat with
    | sent hflight hrefreshes =>
      rw [hflight] at hlive
      dsimp only at hlive
      rw [if_pos hrefreshes] at hlive
      simpa using hlive
    | serving hflight => exact absurd hphase ((h.calls index p hcall).serving cookie phase hflight).2.1
  | responds status hcall hflight hplain =>
    rename_i index p cookie
    dsimp only at hcalm
    rw [hcall] at hcalm
    obtain ⟨hstatus, hlive⟩ := hcalm
    dsimp only [Option.all_some] at hlive
    rw [hflight] at hlive
    dsimp only at hlive
    rw [if_neg (by rw [hplain]; exact Bool.false_ne_true)] at hlive
    have hanswer := h.responds status hcall hplain hstatus fun hcannot => by
      rcases Bool.or_eq_true_iff.1 hlive with hcan | hlive
      · have hcan : p.stage ≠ .fetching true ∧ p.call.attemptsRefresh = true := by simpa using hcan
        rcases hcannot with hstage | hattempts
        · exact absurd hstage hcan.1
        · cases hattempts.symm.trans hcan.2
      · exact hlive
    have hserved := h.acts (respond_acts settings.toTokenSettings s.server p status) (fun _ _ => id) id
    exact hserved.answered hcall hplain hanswer hone
  | turnsAway status hcall hflight =>
    dsimp only at hcalm
    rw [hcall] at hcalm
    exact h.answered hcall (by simpa using hcalm.2) ⟨rfl, fun h401 => absurd h401 hcalm.1⟩ hone
  | arrives hcall hflight => exact h.arrived hcall hflight hone
  | resumes hcall hflight =>
    rename_i index p answer
    cases hrefreshes : p.refreshes with
    | true => exact h.resume_refresh hpath hcall hflight hrefreshes hone
    | false =>
      refine h.resume_plain hpath hcall hrefreshes (fun hstatus => ?_) hone
      exact ((h.calls index _ hcall).plain answer (.inr hflight) hrefreshes).2 (Option.some.inj hstatus)
  | loses hcall =>
    rename_i index p
    dsimp only at hcalm
    rw [hcall] at hcalm
    have hplain : p.refreshes = false := by simpa using hcalm
    have hsame : s.abandon p.flight = s := by
      cases hflight : p.flight with
      | serving served phase =>
        have hrefreshes := ((h.calls index p hcall).serving served phase hflight).1
        cases hplain.symm.trans hrefreshes
      | _ => rfl
    rw [hsame] at hone ⊢
    refine h.resume_plain hpath hcall hplain (fun hstatus => ?_) hone
    cases hflight : p.flight with
    | arrived answer =>
      rw [hflight] at hstatus
      exact ((h.calls index p hcall).plain answer (.inr hflight) hplain).2 (Option.some.inj hstatus)
    | _ =>
      rw [hflight] at hstatus
      cases hstatus
  | other request =>
    obtain ⟨token, htoken, hgood⟩ := h.token
    refine h.acts (handle_acts settings.toTokenSettings s.server request)
      (fun token htoken => (hcalm token htoken).1) ?_
    have hcutsOff := (hcalm token (mem_tokens_of_token htoken)).2
    rw [hgood.sub] at hcutsOff
    exact hcutsOff
  | othersRefresh cookie => exact h.elsewhere
  | othersGoOn hother =>
    rename_i index cookie phase
    dsimp only at hcalm
    rw [hother] at hcalm
    have hmem : cookie ∉ s.tokens := by simpa using hcalm
    have hissued := hknown.elsewhere cookie phase (List.mem_of_getElem? hother)
    have hacts := refreshPhase_acts settings.toTokenSettings (fun _ => False) hissued
    exact (h.acts hacts (fun token htoken hR => hmem (hR.1 ▸ htoken)) id).elsewhere
  | logsOut => exact hcalm.elim

/-! ### Signing in -/

end

/-- The browser of a user who has signed in. -/
def signedIn (settings : ClientSettings) (server : Identity) (email password : String) : SessionClient :=
  reached settings server (signsIn email password)

theorem signedIn_eq (settings : ClientSettings) {server : Identity} {email password : String}
    {accessToken refreshToken : TokenPayload}
    (hlogin : (server.login settings.toTokenSettings email password).1 = .ok (accessToken, refreshToken)) :
    signedIn settings server email password =
      ⟨(server.login settings.toTokenSettings email password).2, [], some accessToken, some refreshToken, [none],
        0⟩ := by
  cases hresult : server.login settings.toTokenSettings email password with
  | mk result server' =>
    rw [hresult] at hlogin
    dsimp only at hlogin
    subst hlogin
    unfold signedIn reached signsIn
    simp [step, begin, request, opened, call?, serve, respond, hresult, Pending.refreshes, Call.refreshesSession, move,
      sending, resume, finish, settle, saveToken, Answer.token]

/-- From a second after whatever came before, a user who signs in stays signed in through every calm run. -/
theorem session_kept (settings : ClientSettings) (hpath : RefreshCookieSent settings) (db : Db) (now : Time)
    (history : List Arrival) {elapsed : Nat} (helapsed : 1000000 ≤ elapsed) (email password : String)
    (hlogin :
      (((served settings db now history).wait elapsed).login settings.toTokenSettings email password).1.isOk = true)
    (moves : List SessionMove)
    (hcalm : Steps (step settings) (Calm settings)
      (signedIn settings ((served settings db now history).wait elapsed) email password) moves) :
    Always (step settings) (fun s => s.token.isSome = true ∧ s.expirations = 0)
      (signedIn settings ((served settings db now history).wait elapsed) email password) moves := by
  have hserved := sound_served settings db now history
  have hsound : ((served settings db now history).wait elapsed).Sound :=
    (acts_wait settings.toTokenSettings _ elapsed).sound hserved
  cases hok : (((served settings db now history).wait elapsed).login settings.toTokenSettings email password).1 with
  | error e =>
    rw [hok] at hlogin
    cases hlogin
  | ok found =>
    obtain ⟨accessToken, refreshToken⟩ := found
    rw [signedIn_eq settings hok] at hcalm ⊢
    obtain ⟨userId, hstanding, haccess, hrefresh⟩ := login_good hsound (fun user huser _ => by
      refine hserved.standing helapsed ?_
      exact List.find?_isSome.2 ⟨user, huser, decide_eq_true rfl⟩) hok
    have hkept : Kept settings userId
        ⟨(((served settings db now history).wait elapsed).login settings.toTokenSettings email password).2, [],
          some accessToken, some refreshToken, [none], 0⟩ :=
      { sound := (login_acts settings.toTokenSettings _ (fun _ => False) (fun _ => False) email password).sound hsound
        standing := hstanding
        token := ⟨accessToken, rfl, haccess⟩
        cookie := fun _ => ⟨refreshToken, rfl, hrefresh⟩
        calls := fun index p hcall => by
          have hmem := mem_of_call? hcall
          cases List.mem_singleton.1 hmem
        one := Nat.zero_le 1
        expirations := rfl }
    have hknown : (signedIn settings ((served settings db now history).wait elapsed) email password).Known :=
      known_reached settings hsound _
    rw [signedIn_eq settings hok] at hknown
    refine (Always.of_steps (I := fun s => Kept settings userId s ∧ s.Known)
      (fun s move h hcalm => ⟨h.1.step h.2 hpath hcalm, h.2.step settings move⟩) ⟨hkept, hknown⟩ hcalm).mono
        fun s h => ?_
    obtain ⟨token, htoken, -⟩ := h.1.token
    exact ⟨by rw [htoken]; rfl, h.1.expirations⟩

end SessionClient

open SessionClient

namespace Small

/-- The server serves the fetch, a refresh in five steps, and the page goes on with the answer. -/
def answers (index : Nat) : List SessionMove :=
  List.replicate 5 (.serves index 200) ++ [.arrives index, .resumes index]

/-- A call refreshes a minute before its token runs out, a second one comes back with 401 and refreshes then, and the
manager refreshes once more.  The audit log is downloaded; when the token has run out, the shell refreshes for a page that
is left, and the next call refreshes again. -/
def refreshesInTurn : List SessionMove :=
  [.waits 850000000, .begins (.endpoint "/tenants")] ++ answers 1 ++ answers 1 ++
    [.begins (.endpoint "/auth/me"), .waits 901000000] ++ answers 2 ++ answers 2 ++ answers 2 ++
    [.waits 400000000, .begins .maybeRefresh] ++ answers 3 ++ [.begins .downloadAuditLogCsv] ++ answers 4 ++
    [.waits 901000000, .begins .ensureSession, .leaves 5] ++ answers 5 ++ [.begins (.endpoint "/tenants")] ++
    answers 6 ++ answers 6

end Small

set_option maxRecDepth 100000 in
theorem Small.session_kept_in_turn :
    Always (step (sessionSettings "")) (fun s => s.token.isSome = true ∧ s.expirations = 0)
      (signedIn (sessionSettings "") ((served (sessionSettings "") ControlPlane.Small.signInDb 0 []).wait 1000000)
        "owner@x.io" "secret") refreshesInTurn :=
  session_kept (sessionSettings "") (by decide +kernel) ControlPlane.Small.signInDb 0 [] (Nat.le_refl _) "owner@x.io"
    "secret" (by decide +kernel) refreshesInTurn (by decide +kernel)

end ControlPlane.SaasUi
