import ControlPlane.Identity.MailedTokens

/-!
# What the answers tell about the accounts

Anybody may sign up an address and ask for a new password.  The answers to any number of such requests do not depend on
which accounts there are: `answers_unrevealing` compares two runs of the same requests, from any two tables of accounts.
-/

namespace ControlPlane

open Table Session Session.Proc Runs

/-! ### Sessions whose commits are not refused -/

section

variable {env : AccountEnv}

theorem AccountEnv.commit_done (hcommits : ∀ tick, env.commitFails tick = false) (s : AccountSession) :
    env.commit s = (.ok (), { s with saved := s.work, tick := s.tick + 1 }) :=
  commit_ok (by simp [hcommits])

theorem AccountEnv.recordAuditEvent_done (hcommits : ∀ tick, env.commitFails tick = false) (actor : Option Account)
    (actorRole action resource : String) (resourceId : Option Nat) (metadata : List (String × String))
    (s : AccountSession) :
    ∃ logs, env.recordAuditEvent actor actorRole action resource resourceId metadata s =
      (.ok (), { s with
        work := { s.work with auditLogs := logs }
        saved := { s.work with auditLogs := logs }
        tick := s.tick + 1 }) :=
  ⟨_, env.commit_done hcommits _⟩

/-- What signing up answers, and what it leaves of the accounts and of the draws. -/
theorem signup_answer (hcommits : ∀ tick, env.commitFails tick = false) (email password : String) (phone : Option String)
    {s : AccountSession} (hsame : s.work = s.saved)
    (hfresh : get? s.work.users (env.settings.uuid4 s.outside.uuids) = none) :
    ∃ s', signup env email password phone s =
        (.ok (.user (genericSignupResponse (env.settings.uuid4 s.outside.uuids) (env.settings.lower email) phone env.now)),
          s') ∧
      s'.outside.uuids = s.outside.uuids + 1 ∧
      ∀ id, id ≠ env.settings.uuid4 s.outside.uuids → get? s'.saved.users id = get? s.saved.users id := by
  unfold signup
  rw [bind_ok (read_apply s)]
  split
  · obtain ⟨logs, haudit⟩ := env.recordAuditEvent_done hcommits none "anonymous" "auth.signup_duplicate" "users" none
      [("email", env.settings.lower email)] s
    rw [bind_ok haudit]
    refine ⟨_, rfl, rfl, fun id _ => ?_⟩
    rw [← hsame]
  · obtain ⟨passwordHash, s₁, hhash, hwork₁, hsaved₁, huuids₁⟩ : ∃ passwordHash s₁,
        env.hashPassword password s = (.ok passwordHash, s₁) ∧ s₁.work = s.work ∧ s₁.saved = s.saved ∧
          s₁.outside.uuids = s.outside.uuids := ⟨_, _, rfl, rfl, rfl, rfl⟩
    obtain ⟨s₂, hdraw, hwork₂, hsaved₂, huuids₂⟩ : ∃ s₂, env.uuid4 s₁ = (.ok (env.settings.uuid4 s.outside.uuids), s₂) ∧
        s₂.work = s.work ∧ s₂.saved = s.saved ∧ s₂.outside.uuids = s.outside.uuids + 1 := by
      rw [← huuids₁, ← hwork₁, ← hsaved₁]
      exact ⟨_, rfl, rfl, rfl, rfl⟩
    rw [bind_ok hhash, bind_ok hdraw]
    let user : Account := ⟨env.settings.uuid4 s.outside.uuids, env.settings.lower email, phone, passwordHash, .user, false,
      none, env.now⟩
    have hinsert : insertUser user s₂.work = .ok ((), { s.work with users := Table.insert s.work.users user }) := by
      rw [hwork₂]
      unfold insertUser
      rw [show get? s.work.users user.id = none from hfresh]
      rfl
    obtain ⟨logs, haudit⟩ := env.recordAuditEvent_done hcommits (some user) "system" "auth.signup" "users" (some user.id)
      [("email", user.email), ("email_verified", toString user.emailVerified)]
      { s₂ with
        work := { s.work with users := Table.insert s.work.users user }
        saved := { s.work with users := Table.insert s.work.users user }
        tick := s₂.tick + 1 }
    rw [bind_ok (body_ok hinsert), bind_ok (env.commit_done hcommits _), bind_ok haudit]
    refine ⟨_, rfl, huuids₂, fun id hid => ?_⟩
    show get? (Table.insert s.work.users user) id = get? s.saved.users id
    rw [get?_insert, if_neg (fun heq : key user = id => hid heq.symm), Option.or_none, hsame]

/-- What asking for a new password answers. -/
theorem forgotPassword_answer (hcommits : ∀ tick, env.commitFails tick = false) (email : String) {s : AccountSession}
    (hsame : s.work = s.saved) :
    ∃ s', forgotPassword env email s =
        (.ok (.message "If the account exists, password reset instructions have been sent."), s') ∧
      s'.outside.uuids = s.outside.uuids ∧ s'.saved.users = s.saved.users := by
  unfold forgotPassword
  rw [bind_ok (read_apply s)]
  cases s.work.byEmail (env.settings.lower email) with
  | some user =>
    dsimp only
    obtain ⟨token, s₁, htoken, hwork, hsaved, huuids⟩ : ∃ token s₁, env.storePasswordReset user.id s = (.ok token, s₁) ∧
        s₁.work = s.work ∧ s₁.saved = s.saved ∧ s₁.outside.uuids = s.outside.uuids := ⟨_, _, rfl, rfl, rfl, rfl⟩
    obtain ⟨logs, haudit⟩ := env.recordAuditEvent_done hcommits (some user) "system" "auth.forgot_password_requested"
      "users" (some user.id) [] s₁
    rw [bind_ok htoken, bind_ok haudit]
    refine ⟨_, rfl, huuids, ?_⟩
    show s₁.work.users = s.saved.users
    rw [hwork, hsame]
  | none =>
    dsimp only
    obtain ⟨logs, haudit⟩ := env.recordAuditEvent_done hcommits none "anonymous" "auth.forgot_password_requested" "users"
      none [("email", env.settings.lower email), ("user_found", "False")] s
    rw [bind_ok haudit]
    refine ⟨_, rfl, rfl, ?_⟩
    rw [← hsame]

end

/-! ### Runs -/

namespace Accounts

variable (settings : AccountSettings)

/-- The answers to a run of requests. -/
def answers : Accounts → List AccountArrival → List (Except PyError AccountAnswer)
  | _, [] => []
  | s, arrival :: arrivals => (s.answer settings arrival).1 :: answers (s.step settings arrival) arrivals

/-- No id that is still to be drawn belongs to an account. -/
def DrawsFresh (s : Accounts) : Prop := ∀ n, s.office.uuids ≤ n → get? s.rows.users (settings.uuid4 n) = none

end Accounts

/-- A request that anybody may make, and that no failure of the database stops. -/
def AccountArrival.Open (arrival : AccountArrival) : Prop :=
  (∀ tick, arrival.commitFails tick = false) ∧
    match arrival.request with
    | .signup _ _ _ | .forgotPassword _ => True
    | _ => False

namespace Accounts

variable {settings : AccountSettings}

/-- The answer to an open request, told from the time and the draws alone. -/
def openAnswer (settings : AccountSettings) (now : Time) (uuids : Nat) : AccountRequest → AccountAnswer
  | .signup email _ phone => .user (genericSignupResponse (settings.uuid4 uuids) (settings.lower email) phone now)
  | _ => .message "If the account exists, password reset instructions have been sent."

/-- The ids that an open request draws. -/
def openDraws : AccountRequest → Nat
  | .signup _ _ _ => 1
  | _ => 0

theorem answer_of_open (hinjective : Function.Injective settings.uuid4) {arrival : AccountArrival} (hopen : arrival.Open)
    {s : Accounts} (hfresh : s.DrawsFresh settings) :
    (s.answer settings arrival).1 = .ok (openAnswer settings (s.now + arrival.elapsed) s.office.uuids arrival.request) ∧
      (s.step settings arrival).office.uuids = s.office.uuids + openDraws arrival.request ∧
      (s.step settings arrival).DrawsFresh settings := by
  obtain ⟨elapsed, commitFails, request⟩ := arrival
  obtain ⟨hcommits, hrequest⟩ := hopen
  let env : AccountEnv := s.envOf settings ⟨elapsed, commitFails, request⟩
  let session : AccountSession := opened s.rows { s.office with background := [] }
  have hcommits : ∀ tick, env.commitFails tick = false := hcommits
  -- it is enough to know the session that the request leaves
  have hdone : ∀ {s' : AccountSession} {a : AccountAnswer} {draws : Nat},
      s.answer settings ⟨elapsed, commitFails, request⟩ = (.ok a, s') → s'.outside.uuids = s.office.uuids + draws →
      (∀ n, s.office.uuids + draws ≤ n → get? s'.saved.users (settings.uuid4 n) = get? s.rows.users (settings.uuid4 n)) →
      (s.answer settings ⟨elapsed, commitFails, request⟩).1 = .ok a ∧
        (s.step settings ⟨elapsed, commitFails, request⟩).office.uuids = s.office.uuids + draws ∧
        (s.step settings ⟨elapsed, commitFails, request⟩).DrawsFresh settings := by
    intro s' a draws hanswer huuids hothers
    have hstep : (s.step settings ⟨elapsed, commitFails, request⟩).office = s'.outside ∧
        (s.step settings ⟨elapsed, commitFails, request⟩).rows = s'.saved := by
      unfold step
      rw [hanswer]
      exact ⟨rfl, rfl⟩
    unfold DrawsFresh
    rw [hanswer, hstep.1, hstep.2, huuids]
    refine ⟨rfl, rfl, fun n hn => ?_⟩
    rw [hothers n hn]
    exact hfresh n (by omega)
  cases request with
  | signup email password phone =>
    obtain ⟨s', hsignup, huuids, hothers⟩ := signup_answer (s := session) hcommits email password phone rfl
      (hfresh s.office.uuids (Nat.le_refl _))
    refine hdone hsignup huuids fun n hn => hothers _ fun hid => ?_
    have hsame : n = s.office.uuids := hinjective hid
    have hlater : s.office.uuids + 1 ≤ n := hn
    omega
  | forgotPassword email =>
    obtain ⟨s', hforgot, huuids, husers⟩ := forgotPassword_answer (s := session) hcommits email rfl
    refine hdone hforgot huuids fun n _ => ?_
    rw [husers]
    rfl
  | login email password => exact hrequest.elim
  | updateMe userId phone => exact hrequest.elim
  | verifyEmail token => exact hrequest.elim
  | resendVerification userId => exact hrequest.elim
  | resetPassword token newPassword => exact hrequest.elim
  | createImpersonationLink adminId targetEmail reason => exact hrequest.elim
  | exchangeImpersonationToken token => exact hrequest.elim
  | invite email membership => exact hrequest.elim

/-- Nobody can tell from the answers to such requests which accounts there are. -/
theorem answers_unrevealing (hinjective : Function.Injective settings.uuid4) {s s' : Accounts} (hnow : s'.now = s.now)
    (huuids : s'.office.uuids = s.office.uuids) (hfresh : s.DrawsFresh settings) (hfresh' : s'.DrawsFresh settings)
    {arrivals : List AccountArrival} (hopen : ∀ arrival ∈ arrivals, arrival.Open) :
    answers settings s' arrivals = answers settings s arrivals := by
  induction arrivals generalizing s s' with
  | nil => rfl
  | cons arrival arrivals ih =>
    have hfirst := hopen arrival List.mem_cons_self
    obtain ⟨hanswer, hdrawn, hlater⟩ := answer_of_open hinjective hfirst hfresh
    obtain ⟨hanswer', hdrawn', hlater'⟩ := answer_of_open hinjective hfirst hfresh'
    have hclock : (s'.step settings arrival).now = (s.step settings arrival).now := by
      show s'.now + arrival.elapsed = s.now + arrival.elapsed
      rw [hnow]
    have hrest : answers settings (s'.step settings arrival) arrivals = answers settings (s.step settings arrival) arrivals :=
      ih hclock (by rw [hdrawn', hdrawn, huuids]) hlater hlater' fun later hmem => hopen later (List.mem_cons_of_mem _ hmem)
    unfold answers
    rw [hanswer, hanswer', hrest, hnow, huuids]

namespace Small

/-- A stranger signs up and asks for a new password, twice with the owner's address. -/
def strangerAsks : List AccountArrival :=
  accountRequests [.signup "owner@example.com" "guessed" none, .forgotPassword "owner@example.com",
    .signup "stranger@example.com" "mine" none, .forgotPassword "nobody@example.com"]

theorem accounts_unrevealed :
    answers accountSettings (started [] 0) strangerAsks = answers accountSettings (started accounts 0) strangerAsks := by
  have hinjective : Function.Injective accountSettings.uuid4 := by
    intro m n h
    have hsum : 100 + m = 100 + n := h
    omega
  have hfresh : (started accounts 0).DrawsFresh accountSettings := by
    intro n _
    have hone : ¬1 = 100 + n := by omega
    have htwo : ¬2 = 100 + n := by omega
    simp [started, accounts, accountSettings, get?, key, hone, htwo]
  have hnow : (started [] 0).now = (started accounts 0).now := rfl
  refine answers_unrevealing hinjective hnow rfl hfresh (fun n _ => rfl) ?_
  intro arrival hmem
  unfold strangerAsks accountRequests at hmem
  simp only [List.map_cons, List.map_nil, List.mem_cons, List.not_mem_nil, or_false] at hmem
  rcases hmem with rfl | rfl | rfl | rfl <;> exact ⟨fun _ => rfl, trivial⟩

end Small

end Accounts

end ControlPlane
