import ControlPlane.SaasUi.SessionClient

/-!
# Refreshes that overlap

Each call that is answered with 401 refreshes on its own, with the cookie that the browser has then.  Unless the server
checks the cookie of one such call between the check and the revocation of another, it redeems the cookie once, so one
call at least gets no token, and its page gives the session up: it clears the token that the other may just have saved.
-/

namespace ControlPlane.SaasUi

open Runs Identity

/-- The call that the move is about. -/
def SessionMove.index? : SessionMove → Option Nat
  | .leaves index | .serves index _ | .turnsAway index _ | .arrives index | .resumes index | .loses index => some index
  | _ => none

/-- The call refreshes after a 401 with the cookie, which has not passed its check, and has got nothing for it. -/
def Pending.Unrewarded (cookie : TokenPayload) (p : Pending) : Prop :=
  p.stage = .refreshing true ∧
    match p.flight with
    | .sent sent => sent = some cookie
    | .serving served phase => served = cookie ∧ phase = .checking
    | .answered answer | .arrived answer => answer.accessToken = none

/-- The cookie of the call has passed its check, and is not revoked yet. -/
def Pending.betweenCheckAndWrite (p : Pending) : Bool :=
  match p.flight with
  | .serving _ phase => phase.betweenCheckAndWrite
  | _ => false

namespace SessionClient

/-- The call of the index is one that has got nothing for the cookie. -/
def Waits (cookie : TokenPayload) (s : SessionClient) (index : Nat) : Prop :=
  ∃ p, s.call? index = some p ∧ p.Unrewarded cookie

/-- The call of the index is one that will revoke the cookie. -/
def Passes (cookie : TokenPayload) (s : SessionClient) (index : Nat) : Prop :=
  ∃ p phase, s.call? index = some p ∧ p.stage = .refreshing true ∧ p.flight = .serving cookie phase ∧
    phase.betweenCheckAndWrite = true

/-- The token was issued, and is spent. -/
def Redeemed (cookie : TokenPayload) (s : SessionClient) : Prop :=
  (∃ t ∈ s.server.issued, t.payload = cookie) ∧ s.server.Spent cookie

/-- The next that the server does with the call is to check the cookie. -/
def checks (cookie : TokenPayload) (s : SessionClient) (index : Nat) : Bool :=
  (s.call? index).any fun p => p.flight = .serving cookie .checking

/-- The server checks the cookie of one of the calls while it is between the check and the write of the other, or after
the cookie has run out. -/
def checksToo (cookie : TokenPayload) (i j : Nat) (s : SessionClient) : SessionMove → Bool
  | .serves index _ =>
    (index = i || index = j) && s.checks cookie index &&
      (cookie.expired s.server.now || [i, j].any fun other => (s.call? other).any Pending.betweenCheckAndWrite)
  | _ => false

/-- The tokens of the refreshes that the server is at were issued. -/
structure Known (s : SessionClient) : Prop where
  sound : s.server.Sound
  calls : ∀ p cookie phase, some p ∈ s.calls → p.flight = .serving cookie phase → phase.hasDecoded = true →
    ∃ t ∈ s.server.issued, t.payload = cookie
  elsewhere : ∀ cookie phase, (cookie, phase) ∈ s.elsewhere → phase.hasDecoded = true →
    ∃ t ∈ s.server.issued, t.payload = cookie

section
variable {settings : ClientSettings} {s : SessionClient} {index : Nat} {cookie : TokenPayload}

/-! ### The server and the events -/

theorem resume_server (p : Pending) (answer : Option Answer) :
    (s.resume settings index p answer).server = s.server := by
  unfold SessionClient.resume
  cases p.stage with
  | refreshing after401 => cases after401 <;> cases answer.bind Answer.token <;> simp [saveToken]
  | fetching again =>
    dsimp only
    split <;> simp

theorem resume_elsewhere (p : Pending) (answer : Option Answer) :
    (s.resume settings index p answer).elsewhere = s.elsewhere := by
  unfold SessionClient.resume
  cases p.stage with
  | refreshing after401 => cases after401 <;> cases answer.bind Answer.token <;> simp [saveToken]
  | fetching again =>
    dsimp only
    split <;> simp

theorem issued_of_at {p : Pending} {phase : RefreshPhase} (h : s.Known) (hcall : s.call? index = some p)
    (hat : p.At cookie phase) (hdecoded : phase.hasDecoded = true) : ∃ t ∈ s.server.issued, t.payload = cookie := by
  cases hat with
  | sent => cases hdecoded
  | serving hflight => exact h.calls p cookie phase (mem_of_call? hcall) hflight hdecoded

theorem step_acts (settings : ClientSettings) (h : s.Known) (move : SessionMove) :
    ∃ R C, s.server.Acts settings.toTokenSettings R C (s.step settings move).server := by
  have hsame : ∃ R C, s.server.Acts settings.toTokenSettings R C s.server :=
    ⟨fun _ => False, fun _ => False, .done s.server⟩
  have htook := took_step settings s move
  generalize s.step settings move = s' at htook ⊢
  cases htook with
  | waits elapsed => exact ⟨fun _ => False, fun _ => False, acts_wait settings.toTokenSettings s.server elapsed⟩
  | refreshes status hcall hat =>
    rename_i index p cookie phase
    have hacts := refreshPhase_acts settings.toTokenSettings (fun _ => False) (issued_of_at h hcall hat)
    rw [← serveRefresh_server] at hacts
    exact ⟨_, _, hacts⟩
  | responds status hcall hflight hplain => exact ⟨_, _, respond_acts settings.toTokenSettings s.server _ status⟩
  | resumes hcall hflight =>
    rw [resume_server]
    exact hsame
  | loses hcall =>
    rw [resume_server, abandon_server]
    exact hsame
  | other request => exact ⟨_, _, handle_acts settings.toTokenSettings s.server request⟩
  | othersGoOn hother =>
    exact ⟨_, fun _ => False, refreshPhase_acts settings.toTokenSettings _
      (h.elsewhere _ _ (List.mem_of_getElem? hother))⟩
  | _ => exact hsame

theorem expirations_le_resume (p : Pending) (answer : Option Answer) :
    s.expirations ≤ (s.resume settings index p answer).expirations := by
  have hfinish : ∀ answer, s.expirations ≤ (s.finish index p answer).expirations := fun answer => by
    rw [finish_expirations]
    exact Nat.le_add_right _ _
  unfold SessionClient.resume
  cases p.stage with
  | refreshing after401 =>
    cases after401 with
    | false => cases answer.bind Answer.token <;> exact Nat.le_refl _
    | true =>
      cases answer.bind Answer.token with
      | none => exact hfinish _
      | some token => exact Nat.le_refl _
  | fetching again =>
    dsimp only
    split
    · exact Nat.le_refl _
    · exact hfinish answer

theorem expirations_le_step (settings : ClientSettings) (s : SessionClient) (move : SessionMove) :
    s.expirations ≤ (s.step settings move).expirations := by
  have htook := took_step settings s move
  generalize s.step settings move = s' at htook ⊢
  cases htook with
  | resumes hcall hflight => exact expirations_le_resume _ _
  | loses hcall =>
    rw [← abandon_expirations (s := s)]
    exact expirations_le_resume _ _
  | _ => exact Nat.le_refl _

/-! ### The other calls -/

theorem call?_of_calls {s' : SessionClient} {next : Option Pending} {other : Nat} (hne : other ≠ index)
    (hcalls : s'.calls = s.calls.set other next) : s'.call? index = s.call? index := by
  unfold call?
  rw [hcalls, List.getElem?_set_ne hne]

theorem call?_request (call : Call) {p : Pending} (h : s.call? index = some p) :
    (s.request settings call).call? index = some p := by
  have hget := getElem?_of_call? h
  obtain ⟨hlt, -⟩ := List.getElem?_eq_some_iff.1 hget
  unfold call? request
  dsimp only
  rw [List.getElem?_append_left hlt, hget]
  rfl

/-- A call that goes on has sent a fetch, and one that does not is over. -/
theorem resume_calls (settings : ClientSettings) (s : SessionClient) (index : Nat) (p : Pending)
    (answer : Option Answer) : ∃ next, (s.resume settings index p answer).calls = s.calls.set index next ∧
      ∀ q, next = some q → ∃ cookie, q.flight = .sent cookie := by
  have hsends : ∀ (s' : SessionClient) (p : Pending), s'.calls = s.calls →
      ∃ next, (s'.send settings index p).calls = s.calls.set index next ∧
        ∀ q, next = some q → ∃ cookie, q.flight = .sent cookie := fun s' p hcalls => by
    refine ⟨_, by rw [send_calls, hcalls], fun q hq => ?_⟩
    cases hq
    exact ⟨_, rfl⟩
  have hfinishes : ∀ answer, ∃ next, (s.finish index p answer).calls = s.calls.set index next ∧
      ∀ q, next = some q → ∃ cookie, q.flight = .sent cookie := fun answer =>
    ⟨none, finish_calls, fun q hq => by cases hq⟩
  unfold SessionClient.resume
  cases p.stage with
  | refreshing after401 =>
    cases after401 with
    | false =>
      cases answer.bind Answer.token with
      | none => exact hsends s _ rfl
      | some token => exact hsends (s.saveToken token) _ rfl
    | true =>
      cases answer.bind Answer.token with
      | none => exact hfinishes _
      | some token => exact hsends (s.saveToken token) _ rfl
  | fetching again =>
    dsimp only
    split
    · exact hsends s _ rfl
    · exact hfinishes answer

theorem call?_step {move : SessionMove} (hmove : move.index? ≠ some index) {p : Pending}
    (h : s.call? index = some p) : (s.step settings move).call? index = some p := by
  have hother : ∀ {other : Nat} {s' : SessionClient} {next : Option Pending}, some other ≠ some index →
      s'.calls = s.calls.set other next → s'.call? index = some p := fun hne hcalls => by
    rw [call?_of_calls (fun heq => hne (congrArg some heq)) hcalls, h]
  have htook := took_step settings s move
  generalize s.step settings move = s' at htook ⊢
  cases htook with
  | begins call => exact call?_request call h
  | leaves hcall => exact hother hmove rfl
  | refuses status hcall hflight hrefreshes => exact hother hmove rfl
  | refreshes status hcall hat => exact hother hmove rfl
  | responds status hcall hflight hplain => exact hother hmove rfl
  | turnsAway status hcall hflight => exact hother hmove rfl
  | arrives hcall hflight => exact hother hmove rfl
  | resumes hcall hflight =>
    rename_i other q answer
    obtain ⟨next, hcalls, -⟩ := resume_calls settings s other q (some answer)
    exact hother hmove hcalls
  | loses hcall =>
    rename_i other q
    obtain ⟨next, hcalls, -⟩ := resume_calls settings (s.abandon q.flight) other q q.flight.lost
    rw [abandon_calls] at hcalls
    exact hother hmove hcalls
  | _ => exact h

theorem call?_set (h : (s.call? index).isSome) (next : Option Pending) :
    ({ s with calls := s.calls.set index next } : SessionClient).call? index = next := by
  obtain ⟨p, hp⟩ := Option.isSome_iff_exists.1 h
  obtain ⟨hlt, -⟩ := List.getElem?_eq_some_iff.1 (getElem?_of_call? hp)
  unfold call?
  rw [List.getElem?_set_self hlt]
  rfl

/-- A call that goes on without a token after its 401 ends the session. -/
theorem expirations_lt_resume {p : Pending} {answer : Option Answer} (hstage : p.stage = .refreshing true)
    (hnone : answer.bind Answer.token = none) : s.expirations < (s.resume settings index p answer).expirations := by
  unfold SessionClient.resume
  rw [hstage, hnone]
  dsimp only
  rw [finish_expirations]
  exact Nat.lt_succ_self _

theorem expirations_lt_loses {p : Pending} (hstage : p.stage = .refreshing true) :
    s.expirations < ((s.abandon p.flight).resume settings index p p.flight.lost).expirations := by
  rw [← abandon_expirations (s := s) p.flight]
  exact expirations_lt_resume hstage (lost_token p.flight)

/-! ### What the server is at -/

/-- The server is at no refresh of the call with a token that was not issued. -/
theorem Known.set (h : s.Known) {next : Option Pending}
    (hnext : ∀ p cookie phase, next = some p → p.flight = .serving cookie phase → phase.hasDecoded = true →
      ∃ t ∈ s.server.issued, t.payload = cookie) : Known { s with calls := s.calls.set index next } where
  sound := h.sound
  calls := fun p cookie phase hp => by
    rcases mem_of_mem_set hp with heq | hp
    · exact hnext p cookie phase heq
    · exact h.calls p cookie phase hp
  elsewhere := h.elsewhere

theorem Known.acts {R : TokenPayload → Prop} {C : Nat → Prop} {server : Identity} (h : s.Known)
    (hacts : s.server.Acts settings.toTokenSettings R C server) : Known { s with server := server } where
  sound := hacts.sound h.sound
  calls := fun p cookie phase hp hflight hdecoded => by
    obtain ⟨t, ht, heq⟩ := h.calls p cookie phase hp hflight hdecoded
    exact ⟨t, hacts.issued ht, heq⟩
  elsewhere := fun cookie phase hmem hdecoded => by
    obtain ⟨t, ht, heq⟩ := h.elsewhere cookie phase hmem hdecoded
    exact ⟨t, hacts.issued ht, heq⟩

/-- The server is at other refreshes elsewhere. -/
theorem Known.others (h : s.Known) {elsewhere : List (TokenPayload × RefreshPhase)}
    (helsewhere : ∀ cookie phase, (cookie, phase) ∈ elsewhere → phase.hasDecoded = true →
      ∃ t ∈ s.server.issued, t.payload = cookie) : Known { s with elsewhere := elsewhere } where
  sound := h.sound
  calls := h.calls
  elsewhere := helsewhere

theorem Known.resume (settings : ClientSettings) (h : s.Known) (index : Nat) (p : Pending) (answer : Option Answer) :
    (s.resume settings index p answer).Known where
  sound := by
    rw [resume_server]
    exact h.sound
  calls := fun q cookie phase hq hflight => by
    obtain ⟨next, hcalls, hsent⟩ := resume_calls settings s index p answer
    rw [hcalls] at hq
    rw [resume_server]
    rcases mem_of_mem_set hq with heq | hq
    · obtain ⟨sent, hsent⟩ := hsent q heq
      rw [hsent] at hflight
      cases hflight
    · exact h.calls q cookie phase hq hflight
  elsewhere := by
    rw [resume_server, resume_elsewhere]
    exact h.elsewhere

theorem Known.abandon (h : s.Known) {p : Pending} (hcall : s.call? index = some p) : (s.abandon p.flight).Known := by
  unfold SessionClient.abandon
  split
  · rename_i cookie phase hflight
    refine h.others fun cookie' phase' hmem hdecoded => ?_
    rcases List.mem_append.1 hmem with hmem | hmem
    · exact h.elsewhere cookie' phase' hmem hdecoded
    · cases List.mem_singleton.1 hmem
      exact h.calls p cookie phase (mem_of_call? hcall) hflight hdecoded
  · exact h

theorem Known.step (settings : ClientSettings) (h : s.Known) (move : SessionMove) : (s.step settings move).Known := by
  have hacts := step_acts settings h move
  have htook := took_step settings s move
  generalize s.step settings move = s' at htook hacts ⊢
  cases htook with
  | stays move => exact h
  | waits elapsed => exact h.acts (acts_wait settings.toTokenSettings s.server elapsed)
  | begins call =>
    refine ⟨h.sound, fun p cookie phase hp hflight => ?_, h.elsewhere⟩
    rcases List.mem_append.1 hp with hp | hp
    · exact h.calls p cookie phase hp hflight
    · cases List.mem_singleton.1 hp
      cases hflight
  | leaves hcall =>
    refine h.set fun p cookie phase hp => ?_
    cases hp
    have hmem := mem_of_call? hcall
    exact fun hflight => h.calls _ cookie phase hmem hflight
  | refuses status hcall hflight hrefreshes =>
    refine h.set fun p cookie phase hp hserving => ?_
    cases hp
    cases hserving
  | refreshes status hcall hat =>
    rename_i index p cookie phase
    obtain ⟨R, C, hacts⟩ := hacts
    have hknown : Known { s with server := (serveRefresh settings.toTokenSettings s.server cookie phase).2 } :=
      h.acts hacts
    refine hknown.set fun q cookie' phase' hq hserving hdecoded => ?_
    cases hq
    have hserving : (serveRefresh settings.toTokenSettings s.server cookie phase).1 = .serving cookie' phase' := hserving
    change ∃ t ∈ (serveRefresh settings.toTokenSettings s.server cookie phase).2.issued, t.payload = cookie'
    rw [serveRefresh_server]
    rcases serveRefresh_cases settings.toTokenSettings s.server cookie phase with ⟨_, _, -, heq⟩ | ⟨-, heq⟩ | heq
    · cases heq.symm.trans hserving
    · cases heq.symm.trans hserving
    · cases heq.symm.trans hserving
      exact issued_of_refreshPhase settings.toTokenSettings (issued_of_at h hcall hat) hdecoded
  | responds status hcall hflight hplain =>
    rename_i index p cookie
    refine (h.acts (respond_acts settings.toTokenSettings s.server p status)).set fun q cookie phase hq hserving => ?_
    cases hq
    cases hserving
  | turnsAway status hcall hflight =>
    refine h.set fun p cookie phase hp hserving => ?_
    cases hp
    cases hserving
  | arrives hcall hflight =>
    rename_i index p answer
    refine Known.set (s := { s with cookie := answer.setCookie.or s.cookie }) ⟨h.sound, h.calls, h.elsewhere⟩
      fun p cookie phase hp hserving => ?_
    cases hp
    cases hserving
  | resumes hcall hflight => exact h.resume settings _ _ _
  | loses hcall => exact (h.abandon hcall).resume settings _ _ _
  | other request => exact h.acts (handle_acts settings.toTokenSettings s.server request)
  | othersRefresh cookie =>
    refine h.others fun cookie' phase hmem hdecoded => ?_
    rcases List.mem_append.1 hmem with hmem | hmem
    · exact h.elsewhere cookie' phase hmem hdecoded
    · cases List.mem_singleton.1 hmem
      cases hdecoded
  | othersGoOn hother =>
    rename_i index cookie phase
    have hissued := h.elsewhere cookie phase (List.mem_of_getElem? hother)
    have hknown : Known { s with server := (refreshPhase settings.toTokenSettings cookie s.server phase).2 } :=
      h.acts (refreshPhase_acts settings.toTokenSettings (fun _ => False) hissued)
    refine hknown.others fun cookie' phase' hmem hdecoded => ?_
    rcases List.mem_or_eq_of_mem_set hmem with hmem | heq
    · exact hknown.elsewhere cookie' phase' hmem hdecoded
    · cases heq
      exact issued_of_refreshPhase settings.toTokenSettings hissued hdecoded
  | logsOut => exact ⟨h.sound, h.calls, h.elsewhere⟩

/-! ### One call with a cookie -/

/-- What the server does with a cookie that it has not checked. -/
theorem serveRefresh_unchecked (settings : TokenSettings) (server : Identity) (cookie : TokenPayload) :
    ((serveRefresh settings server cookie .decoding).1 = .answered ⟨401, none, none⟩ ∨
      (serveRefresh settings server cookie .decoding).1 = .serving cookie .checking) ∧
    ((serveRefresh settings server cookie .checking).1 = .answered ⟨401, none, none⟩ ∨
      (serveRefresh settings server cookie .checking).1 = .serving cookie .loading ∧
        (cookie.expired server.now = false → ¬ server.Spent cookie)) := by
  constructor
  · unfold serveRefresh refreshPhase
    dsimp only
    cases decodeToken server.issued server.now cookie .refresh with
    | none => exact .inl rfl
    | some payload => exact .inr rfl
  · have hunspent : cookie.expired server.now = false →
        (refreshPhase settings cookie server .checking).1 ≠ .refused → ¬ server.Spent cookie :=
      not_spent_of_passes settings
    unfold serveRefresh
    rw [RefreshRace.refreshPhase_checking] at hunspent ⊢
    cases hrevoked : (server.store.lookup server.now (.revoked cookie.jti)).isSome with
    | true => exact .inl rfl
    | false => exact .inr ⟨rfl, fun hexpired => hunspent hexpired (by simp [hrevoked])⟩

/-- What the server does with a cookie that has passed its check: it revokes it in the end, unless the user is gone. -/
theorem serveRefresh_checked (settings : TokenSettings) (server : Identity) (cookie : TokenPayload)
    {phase : RefreshPhase} (hphase : phase.betweenCheckAndWrite = true) :
    (serveRefresh settings server cookie phase).1 = .answered ⟨401, none, none⟩ ∨
    (∃ next, next.betweenCheckAndWrite = true ∧ (serveRefresh settings server cookie phase).1 = .serving cookie next) ∨
    (serveRefresh settings server cookie phase).2.Spent cookie := by
  cases phase with
  | loading =>
    unfold serveRefresh refreshPhase
    dsimp only
    cases server.db.user? cookie.sub with
    | none => exact .inl rfl
    | some user => exact .inr (.inl ⟨.revoking user.id, rfl, rfl⟩)
  | revoking userId => exact .inr (.inr (spent_revoke server cookie))
  | _ => cases hphase

/-- A call that has got nothing waits on, or ends the session, or its cookie passes the check. -/
theorem Waits.step (settings : ClientSettings) (h : s.Waits cookie index) (move : SessionMove) :
    (s.step settings move).Waits cookie index ∨ s.expirations < (s.step settings move).expirations ∨
      (∃ status, move = .serves index status) ∧ s.checks cookie index = true ∧
        (s.step settings move).Passes cookie index ∧
        (cookie.expired s.server.now = false → ¬ s.server.Spent cookie) := by
  have hwaits := h
  obtain ⟨p, hcall, hstage, hflight⟩ := h
  by_cases hmove : move.index? = some index
  case neg => exact .inl ⟨p, call?_step hmove hcall, hstage, hflight⟩
  have hsome : (s.call? index).isSome := by rw [hcall]; rfl
  -- a move of the index finds the call that waits
  have hthis : ∀ {other : Nat} {q : Pending}, some other = some index → s.call? other = some q →
      other = index ∧ q = p := fun heq hq => by
    cases heq
    exact ⟨rfl, Option.some.inj (hq.symm.trans hcall)⟩
  have htook := took_step settings s move
  generalize s.step settings move = s' at htook ⊢
  cases htook with
  | stays move => exact .inl hwaits
  | leaves hcall' =>
    obtain ⟨rfl, rfl⟩ := hthis hmove hcall'
    exact .inl ⟨_, call?_set hsome _, hstage, hflight⟩
  | refuses status hcall' hsent hrefreshes =>
    obtain ⟨rfl, rfl⟩ := hthis hmove hcall'
    exact .inl ⟨_, call?_set hsome _, hstage, rfl⟩
  | refreshes status hcall' hat =>
    obtain ⟨rfl, rfl⟩ := hthis hmove hcall'
    rename_i index p served phase
    have hunchecked := serveRefresh_unchecked settings.toTokenSettings s.server cookie
    have hanswered : ∀ {flight : Flight}, flight = .answered ⟨401, none, none⟩ ∨ flight = .serving cookie .checking →
        Pending.Unrewarded cookie { p with flight := flight } := fun hflight => by
      rcases hflight with rfl | rfl
      · exact ⟨hstage, rfl⟩
      · exact ⟨hstage, rfl, rfl⟩
    cases hat with
    | sent hsent hrefreshes =>
      rw [hsent] at hflight
      cases hflight
      exact .inl ⟨_, call?_set hsome _, hanswered hunchecked.1⟩
    | serving hserving =>
      rw [hserving] at hflight
      obtain ⟨rfl, rfl⟩ := hflight
      rcases hunchecked.2 with heq | ⟨heq, hunspent⟩
      · exact .inl ⟨_, call?_set hsome _, hanswered (.inl heq)⟩
      · refine .inr (.inr ⟨⟨status, rfl⟩, ?_, ⟨_, .loading, call?_set hsome _, hstage, heq, rfl⟩, hunspent⟩)
        unfold checks
        rw [hcall]
        simpa using hserving
  | responds status hcall' hsent hplain =>
    obtain ⟨rfl, rfl⟩ := hthis hmove hcall'
    rw [refreshes_of_refreshing hstage] at hplain
    cases hplain
  | turnsAway status hcall' hsent =>
    obtain ⟨rfl, rfl⟩ := hthis hmove hcall'
    exact .inl ⟨_, call?_set hsome _, hstage, rfl⟩
  | arrives hcall' hanswered =>
    obtain ⟨rfl, rfl⟩ := hthis hmove hcall'
    rw [hanswered] at hflight
    exact .inl ⟨_, call?_set hsome _, hstage, hflight⟩
  | resumes hcall' harrived =>
    obtain ⟨rfl, rfl⟩ := hthis hmove hcall'
    rw [harrived] at hflight
    exact .inr (.inl (expirations_lt_resume hstage (token_none_of hflight)))
  | loses hcall' =>
    obtain ⟨rfl, rfl⟩ := hthis hmove hcall'
    exact .inr (.inl (expirations_lt_loses hstage))
  | _ => cases hmove

/-- A call whose cookie has passed the check goes on to revoke it, or gets nothing after all, or ends the session. -/
theorem Passes.step (settings : ClientSettings) (hknown : s.Known) (h : s.Passes cookie index) (move : SessionMove) :
    (s.step settings move).Passes cookie index ∨ (s.step settings move).Waits cookie index ∨
      s.expirations < (s.step settings move).expirations ∨ (s.step settings move).Redeemed cookie := by
  have hpasses := h
  obtain ⟨p, phase, hcall, hstage, hflight, hphase⟩ := h
  have hissued : ∃ t ∈ (s.step settings move).server.issued, t.payload = cookie := by
    obtain ⟨R, C, hacts⟩ := step_acts settings hknown move
    have hdecoded : phase.hasDecoded = true := by cases phase <;> first | rfl | cases hphase
    obtain ⟨t, ht, heq⟩ := hknown.calls p cookie phase (mem_of_call? hcall) hflight hdecoded
    exact ⟨t, hacts.issued ht, heq⟩
  by_cases hmove : move.index? = some index
  case neg => exact .inl ⟨p, phase, call?_step hmove hcall, hstage, hflight, hphase⟩
  have hsome : (s.call? index).isSome := by rw [hcall]; rfl
  have hthis : ∀ {other : Nat} {q : Pending}, some other = some index → s.call? other = some q →
      other = index ∧ q = p := fun heq hq => by
    cases heq
    exact ⟨rfl, Option.some.inj (hq.symm.trans hcall)⟩
  have htook := took_step settings s move
  generalize s.step settings move = s' at htook hissued ⊢
  cases htook with
  | stays move => exact .inl hpasses
  | leaves hcall' =>
    obtain ⟨rfl, rfl⟩ := hthis hmove hcall'
    exact .inl ⟨_, phase, call?_set hsome _, hstage, hflight, hphase⟩
  | refuses status hcall' hsent hrefreshes =>
    obtain ⟨rfl, rfl⟩ := hthis hmove hcall'
    cases hsent.symm.trans hflight
  | refreshes status hcall' hat =>
    obtain ⟨rfl, rfl⟩ := hthis hmove hcall'
    cases hat with
    | sent hsent hrefreshes => cases hsent.symm.trans hflight
    | serving hserving =>
      cases hserving.symm.trans hflight
      have hchecked := serveRefresh_checked settings.toTokenSettings s.server cookie hphase
      rcases hchecked with heq | ⟨next, hnext, heq⟩ | hspent
      · refine .inr (.inl ⟨_, call?_set hsome _, hstage, ?_⟩)
        rw [heq]
      · exact .inl ⟨_, next, call?_set hsome _, hstage, heq, hnext⟩
      · exact .inr (.inr (.inr ⟨hissued, hspent⟩))
  | responds status hcall' hsent hplain =>
    obtain ⟨rfl, rfl⟩ := hthis hmove hcall'
    cases hsent.symm.trans hflight
  | turnsAway status hcall' hsent =>
    obtain ⟨rfl, rfl⟩ := hthis hmove hcall'
    cases hsent.symm.trans hflight
  | arrives hcall' hanswered =>
    obtain ⟨rfl, rfl⟩ := hthis hmove hcall'
    cases hanswered.symm.trans hflight
  | resumes hcall' harrived =>
    obtain ⟨rfl, rfl⟩ := hthis hmove hcall'
    cases harrived.symm.trans hflight
  | loses hcall' =>
    obtain ⟨rfl, rfl⟩ := hthis hmove hcall'
    exact .inr (.inr (.inl (expirations_lt_loses hstage)))
  | _ => cases hmove

/-! ### Two calls with one cookie -/

/-- One call of the two has got nothing, and the other has not redeemed the cookie unless it is spent. -/
def Lags (cookie : TokenPayload) (i j : Nat) (s : SessionClient) : Prop :=
  s.Waits cookie j ∧ (s.Waits cookie i ∨ s.Passes cookie i ∨ s.Redeemed cookie)

/-- The session has been given up since, or a call is left that will give it up. -/
structure Doomed (expirations : Nat) (i j : Nat) (cookie : TokenPayload) (s : SessionClient) : Prop where
  known : s.Known
  since : expirations ≤ s.expirations
  ends : expirations < s.expirations ∨ s.Lags cookie i j ∨ s.Lags cookie j i

theorem Redeemed.step (settings : ClientSettings) (hknown : s.Known) (h : s.Redeemed cookie) (move : SessionMove) :
    (s.step settings move).Redeemed cookie := by
  obtain ⟨R, C, hacts⟩ := step_acts settings hknown move
  obtain ⟨⟨t, ht, rfl⟩, hspent⟩ := h
  exact ⟨⟨t, hacts.issued ht, rfl⟩, hacts.spent hknown.sound ht hspent⟩

theorem checksToo_comm {i j : Nat} (move : SessionMove) :
    s.checksToo cookie j i move = s.checksToo cookie i j move := by
  unfold checksToo
  cases move with
  | serves index status => simp [Bool.or_comm]
  | _ => rfl

/-- The server checks the cookie of a call that comes alone and in time. -/
theorem checked_alone {i j : Nat} {move : SessionMove} (hindex : index = i ∨ index = j)
    (hcheck : s.checksToo cookie i j move = false) (hserves : ∃ status, move = .serves index status)
    (hchecks : s.checks cookie index = true) :
    cookie.expired s.server.now = false ∧ ¬ s.Passes cookie i ∧ ¬ s.Passes cookie j := by
  obtain ⟨status, rfl⟩ := hserves
  unfold checksToo at hcheck
  dsimp only at hcheck
  have hthis : (decide (index = i) || decide (index = j)) = true := by simpa using hindex
  rw [hthis, hchecks] at hcheck
  simp only [Bool.and_self, Bool.true_and, Bool.or_eq_false_iff, List.any_cons, List.any_nil, Bool.or_false] at hcheck
  have hpasses : ∀ {other}, (s.call? other).any Pending.betweenCheckAndWrite = false → ¬ s.Passes cookie other := by
    rintro other hnone ⟨p, phase, hcall, -, hflight, hphase⟩
    rw [hcall, Option.any_some] at hnone
    unfold Pending.betweenCheckAndWrite at hnone
    rw [hflight] at hnone
    cases hphase.symm.trans hnone
  exact ⟨hcheck.1, hpasses hcheck.2.1, hpasses hcheck.2.2⟩

/-- A move is about one of the two calls at most. -/
theorem Waits.step_of_other (settings : ClientSettings) {other : Nat} (hne : index ≠ other)
    (h : s.Waits cookie other) {move : SessionMove} (hmove : ∃ status, move = .serves index status) :
    (s.step settings move).Waits cookie other := by
  obtain ⟨p, hcall, hp⟩ := h
  obtain ⟨status, rfl⟩ := hmove
  have hmove : (SessionMove.serves index status).index? ≠ some other := fun heq => hne (Option.some.inj heq)
  exact ⟨p, call?_step hmove hcall, hp⟩

theorem Lags.step (settings : ClientSettings) (hknown : s.Known) {i j : Nat} (hne : i ≠ j)
    (h : s.Lags cookie i j) {move : SessionMove} (hcheck : s.checksToo cookie i j move = false) :
    s.expirations < (s.step settings move).expirations ∨ (s.step settings move).Lags cookie i j ∨
      (s.step settings move).Lags cookie j i := by
  obtain ⟨hwaits, hother⟩ := h
  rcases hwaits.step settings move with hj | hends | ⟨hserves, hchecks, hpasses, hunspent⟩
  · -- the call waits on, and the other goes its way
    rcases hother with hi | hi | hi
    · rcases hi.step settings move with hi | hends | ⟨-, -, hi, -⟩
      · exact .inr (.inl ⟨hj, .inl hi⟩)
      · exact .inl hends
      · exact .inr (.inl ⟨hj, .inr (.inl hi)⟩)
    · rcases hi.step settings hknown move with hi | hi | hends | hredeemed
      · exact .inr (.inl ⟨hj, .inr (.inl hi)⟩)
      · exact .inr (.inl ⟨hj, .inl hi⟩)
      · exact .inl hends
      · exact .inr (.inl ⟨hj, .inr (.inr hredeemed)⟩)
    · exact .inr (.inl ⟨hj, .inr (.inr (hi.step settings hknown move))⟩)
  · exact .inl hends
  · -- its cookie passes the check, so that of the other did not
    obtain ⟨hexpired, hnot, -⟩ := checked_alone (.inr rfl) hcheck hserves hchecks
    rcases hother with hi | hi | hi
    · exact .inr (.inr ⟨hi.step_of_other settings hne.symm hserves, .inr (.inl hpasses)⟩)
    · exact absurd hi hnot
    · exact absurd hi.2 (hunspent hexpired)

theorem Doomed.step (settings : ClientSettings) {expirations i j : Nat} (hne : i ≠ j)
    (h : s.Doomed expirations i j cookie) {move : SessionMove} (hcheck : s.checksToo cookie i j move = false) :
    (s.step settings move).Doomed expirations i j cookie := by
  have hle := expirations_le_step settings s move
  have hcheck' : s.checksToo cookie j i move = false := (checksToo_comm move).trans hcheck
  refine ⟨h.known.step settings move, Nat.le_trans h.since hle, ?_⟩
  rcases h.ends with hends | hlags | hlags
  · exact .inl (Nat.lt_of_lt_of_le hends hle)
  · rcases hlags.step settings h.known hne hcheck with hends | hlags | hlags
    · exact .inl (Nat.lt_of_le_of_lt h.since hends)
    · exact .inr (.inl hlags)
    · exact .inr (.inr hlags)
  · rcases hlags.step settings h.known hne.symm hcheck' with hends | hlags | hlags
    · exact .inl (Nat.lt_of_le_of_lt h.since hends)
    · exact .inr (.inr hlags)
    · exact .inr (.inl hlags)

/-- Once neither call refreshes any more, the session has been given up. -/
theorem Doomed.ended {expirations i j : Nat} (h : s.Doomed expirations i j cookie) (hi : ¬ s.Waits cookie i)
    (hj : ¬ s.Waits cookie j) : expirations < s.expirations := by
  rcases h.ends with hends | hlags | hlags
  · exact hends
  · exact absurd hlags.1 hj
  · exact absurd hlags.1 hi

theorem Doomed.run (settings : ClientSettings) {expirations i j : Nat} (hne : i ≠ j)
    (h : s.Doomed expirations i j cookie) {moves : List SessionMove}
    (hcheck : Steps (SessionClient.step settings) (fun s move => s.checksToo cookie i j move = false) s moves) :
    (run (SessionClient.step settings) s moves).Doomed expirations i j cookie :=
  (Always.of_steps (fun _ _ h hcheck => h.step settings hne hcheck) h hcheck).last

end

/-- A server that has had other clients only. -/
def served (settings : ClientSettings) (db : Db) (now : Time) (history : List Arrival) : Identity :=
  run (Identity.step settings.toTokenSettings) (started db now) history

theorem sound_served (settings : ClientSettings) (db : Db) (now : Time) (history : List Arrival) :
    (served settings db now history).Sound := by
  refine (Always.of_invariant (I := Sound) (fun s arrival h => ?_) (sound_started db now) history).last
  have hwait : (s.wait arrival.elapsed).Sound := (acts_wait settings.toTokenSettings s arrival.elapsed).sound h
  exact (handle_acts settings.toTokenSettings _ arrival.request).sound hwait

/-- The state of a browser after its moves. -/
def reached (settings : ClientSettings) (server : Identity) (moves : List SessionMove) : SessionClient :=
  run (step settings) (opened server) moves

theorem known_opened {server : Identity} (h : server.Sound) : (opened server).Known where
  sound := h
  calls := fun p cookie phase hp => by cases hp
  elsewhere := fun cookie phase hmem => by cases hmem

theorem known_reached (settings : ClientSettings) {server : Identity} (h : server.Sound) (moves : List SessionMove) :
    (reached settings server moves).Known :=
  (Always.of_invariant (I := Known) (fun _ move h => h.step settings move) (known_opened h) moves).last

/-- Two calls that refresh after a 401 with one cookie, neither of which is checked while the other is between its check
and its revocation: by the time both have gone on, the session has been given up, whatever has happened besides. -/
theorem overlap_ends_session (settings : ClientSettings) (db : Db) (now : Time) (history : List Arrival)
    (moves moves' : List SessionMove) {i j : Nat} (hne : i ≠ j) {cookie : TokenPayload}
    (hsent : ∀ index, index = i ∨ index = j → ∃ call authorization active,
      (reached settings (served settings db now history) moves).call? index =
        some ⟨call, .refreshing true, authorization, active, .sent (some cookie)⟩)
    (hcheck : Steps (step settings) (fun s move => s.checksToo cookie i j move = false)
      (reached settings (served settings db now history) moves) moves')
    (hover : ∀ index, index = i ∨ index = j → ∀ p,
      (reached settings (served settings db now history) (moves ++ moves')).call? index = some p →
        p.stage ≠ .refreshing true) :
    (reached settings (served settings db now history) moves).expirations <
      (reached settings (served settings db now history) (moves ++ moves')).expirations := by
  have hknown := known_reached settings (sound_served settings db now history) moves
  have hwaits : ∀ index, index = i ∨ index = j →
      (reached settings (served settings db now history) moves).Waits cookie index := fun index hindex => by
    obtain ⟨call, authorization, active, hcall⟩ := hsent index hindex
    exact ⟨_, hcall, rfl, rfl⟩
  have hgone : ∀ index, index = i ∨ index = j →
      ¬ (reached settings (served settings db now history) (moves ++ moves')).Waits cookie index :=
    fun index hindex ⟨p, hcall, hstage, _⟩ => hover index hindex p hcall hstage
  have hlags : (reached settings (served settings db now history) moves).Lags cookie i j :=
    ⟨hwaits j (.inr rfl), .inl (hwaits i (.inl rfl))⟩
  have hdoomed := Doomed.run settings hne ⟨hknown, Nat.le_refl _, .inr (.inl hlags)⟩ hcheck
  have hlast : run (step settings) (reached settings (served settings db now history) moves) moves' =
      reached settings (served settings db now history) (moves ++ moves') := (run_append _ _ _ _).symm
  rw [hlast] at hdoomed
  exact hdoomed.ended (hgone i (.inl rfl)) (hgone j (.inr rfl))

end SessionClient

namespace Small

open SessionClient

/-- The token has run out when a page makes three calls; each refreshes first, one is given a token, and the others come
back with 401. -/
def threeCalls : List SessionMove :=
  signsIn "owner@x.io" "secret" ++ [.waits 901000000, .begins (.endpoint "/tenants"), .begins (.endpoint "/auth/me"),
    .begins (.endpoint "/billing/invoices")] ++
  [1, 2, 3].flatMap (fun index => List.replicate 5 (.serves index 200)) ++ [1, 2, 3].map .arrives ++
  [1, 2, 3].map .resumes ++ [2, 3].map (fun index => .serves index 200) ++ [2, 3].map .arrives ++
  [2, 3].map .resumes

/-- The others refresh at the same time, and the server takes its steps with them in this order. -/
def bothRefresh (order : List Nat) : List SessionMove :=
  order.map (fun index => .serves index 200) ++ [2, 3].map .arrives ++ [2, 3].map .resumes

end Small

open SessionClient

set_option maxRecDepth 100000 in
theorem Small.three_calls_end_session :
    (reached (sessionSettings "") (served (sessionSettings "") ControlPlane.Small.signInDb 0 [])
        threeCalls).expirations <
      (reached (sessionSettings "") (served (sessionSettings "") ControlPlane.Small.signInDb 0 [])
        (threeCalls ++ bothRefresh [2, 3, 2, 2, 2, 3, 2])).expirations := by
  refine @overlap_ends_session (sessionSettings "") ControlPlane.Small.signInDb 0 [] threeCalls
    (bothRefresh [2, 3, 2, 2, 2, 3, 2]) 2 3 (by decide) ⟨1, 604800 + 901, 2, .refresh⟩ ?_ (by decide +kernel) ?_
  · rintro index (rfl | rfl)
    · exact ⟨.endpoint "/auth/me", some ControlPlane.Small.firstAccess, true, by decide +kernel⟩
    · exact ⟨.endpoint "/billing/invoices", some ControlPlane.Small.firstAccess, true, by decide +kernel⟩
  · rintro index (rfl | rfl) p hp
    · have hcall : ((reached (sessionSettings "") (served (sessionSettings "") ControlPlane.Small.signInDb 0 [])
          (threeCalls ++ bothRefresh [2, 3, 2, 2, 2, 3, 2])).call? 2).map Pending.stage = some (.fetching true) := by
        decide +kernel
      rw [hp] at hcall
      rw [show p.stage = .fetching true from Option.some.inj hcall]
      decide
    · have hcall : (reached (sessionSettings "") (served (sessionSettings "") ControlPlane.Small.signInDb 0 [])
          (threeCalls ++ bothRefresh [2, 3, 2, 2, 2, 3, 2])).call? 3 = none := by decide +kernel
      rw [hp] at hcall
      cases hcall

-- Both are given tokens when both are checked before either revokes the cookie.
set_option maxRecDepth 100000 in
example :
    (reached (Small.sessionSettings "") (served (Small.sessionSettings "") ControlPlane.Small.signInDb 0 [])
      (Small.threeCalls ++ Small.bothRefresh [2, 3, 2, 3, 2, 3, 2, 3, 2, 3])).expirations =
    (reached (Small.sessionSettings "") (served (Small.sessionSettings "") ControlPlane.Small.signInDb 0 [])
      Small.threeCalls).expirations := by
  decide +kernel

end ControlPlane.SaasUi
