import ControlPlane.Base.Histories
import ControlPlane.Identity.AccountRequests
import ControlPlane.Text

/-!
# Where mailed tokens come from, and what they do

Runs of the account endpoints from accounts as found, with an empty store.  Every token in the store was asked for earlier
(`issued_asked`); so an address is verified, a password replaced or an account taken on only by a request that brings a token
asked for before, for that account (`Redeems`).
-/

namespace ControlPlane

open Table Session Session.Proc Runs

namespace Accounts

variable (settings : AccountSettings)

/-- An earlier request asked for the token. -/
def Asked (s : Accounts) (arrivals : List AccountArrival) (secret : IssuedSecret) : Prop :=
  Earlier (fun before arrival => arrival.request.AsksFor settings ((run (step settings) s before).now + arrival.elapsed)
    (run (step settings) s arrivals).rows.users secret) arrivals

/-- The request that comes after `arrivals` brings a token that was asked for, and has not run out. -/
def Redeems (s : Accounts) (purpose : TokenPurpose) (value : TokenValue) (arrivals : List AccountArrival)
    (arrival : AccountArrival) : Prop :=
  ∃ token secret, arrival.request.presented = some (purpose, token) ∧ s.Asked settings arrivals secret ∧
    secret.purpose = purpose ∧ settings.sha256 secret.token = settings.sha256 token ∧ secret.value = value ∧
    (run (step settings) s arrivals).now + arrival.elapsed < secret.expiresAt

/-- The keys with which the requests of a run succeeded. -/
def successes : Accounts → List AccountArrival → List String
  | _, [] => []
  | s, arrival :: arrivals => s.redeemed settings arrival ++ successes (s.step settings arrival) arrivals

variable {settings} {s : Accounts}

theorem started_sound {users : List Account} (hdistinct : AccountRows.Distinct ⟨users, []⟩) (now : Time) :
    (started users now).Sound settings := by
  refine ⟨hdistinct, ⟨?_, ?_⟩, ?_⟩
  · intro name item hitem
    cases hitem
  · intro name
    exact Nat.zero_le _
  · intro mail hmem
    cases hmem

theorem Sound.run (h : s.Sound settings) (arrivals : List AccountArrival) :
    (Runs.run (Accounts.step settings) s arrivals).Sound settings :=
  (Always.of_invariant (I := fun s : Accounts => s.Sound settings) (fun _ arrival h => h.step arrival) h arrivals).last

theorem Sound.onward (h : s.Sound settings) (arrivals : List AccountArrival) :
    s.rows.Onward (Runs.run (Accounts.step settings) s arrivals).rows :=
  run_grows (I := fun s : Accounts => s.Sound settings) (R := fun s s' : Accounts => s.rows.Onward s'.rows)
    (fun s => .refl s.rows) (fun _ _ _ => .trans) (fun _ arrival h => h.step arrival)
    (fun _ arrival h => (h.step_becomes arrival).onward) h arrivals

/-- Every token that was issued was asked for. -/
theorem Sound.issued_asked (h : s.Sound settings) (hnone : s.office.issued = []) {arrivals : List AccountArrival}
    {secret : IssuedSecret} (hmem : secret ∈ (Runs.run (Accounts.step settings) s arrivals).office.issued) :
    s.Asked settings arrivals secret := by
  have hearlier := earlier_of
    (P := fun before => secret ∈ (Runs.run (Accounts.step settings) s before).office.issued)
    (C := fun before arrival => arrival.request.AsksFor settings
      ((Runs.run (Accounts.step settings) s before).now + arrival.elapsed)
      (Runs.run (Accounts.step settings) s (before ++ [arrival])).rows.users secret)
    (by rw [run_nil, hnone]; exact List.not_mem_nil) ?_ hmem
  · refine hearlier.mono fun before arrival after harrivals hasks => hasks.later ?_
    have hsplit : Runs.run (Accounts.step settings) s arrivals =
        Runs.run (Accounts.step settings) (Runs.run (Accounts.step settings) s (before ++ [arrival])) after := by
      rw [harrivals, ← run_append, List.append_assoc, List.singleton_append]
    rw [hsplit]
    exact (h.run (before ++ [arrival])).onward after
  · intro before arrival hafter
    rw [run_concat] at hafter ⊢
    exact ((h.run before).answer_kept arrival).issued secret hafter

/-- A token that is found was asked for. -/
theorem Sound.redeems_of_found (h : s.Sound settings) (hnone : s.office.issued = []) {arrivals : List AccountArrival}
    {arrival : AccountArrival} {purpose : TokenPurpose} {value : TokenValue}
    (hfound : (Runs.run (Accounts.step settings) s arrivals).found settings arrival purpose = some value) :
    s.Redeems settings purpose value arrivals arrival := by
  unfold found at hfound
  split at hfound
  · rename_i presented token hpresented
    split at hfound
    · rename_i hpurpose
      subst hpurpose
      obtain ⟨item, hitem, hvalue, hcurrent⟩ := InMemoryTokenStore.items_of_lookup hfound
      obtain ⟨secret, hmem, hkey, hsecret, hexpires⟩ := (h.run arrivals).accounted.stored _ item hitem
      obtain ⟨hpurpose, hdigest⟩ := tokenKey_eq_iff.1 hkey
      refine ⟨token, secret, hpresented, h.issued_asked hnone hmem, hpurpose, hdigest, hsecret.trans hvalue, ?_⟩
      rw [hexpires]
      exact hcurrent
    · cases hfound
  · cases hfound

/-- What an account had at first and has no more, a request took from it: one that had the account verified or its password
replaced, or the one that made it. -/
theorem Sound.earlier_of_not (h : s.Sound settings) {id : Nat} {K : Account → Prop} {C : Accounts → AccountArrival → Prop}
    (hfirst : ∀ user, get? s.rows.users id = some user → K user)
    (hold : ∀ (s : Accounts) arrival (user user' : Account), user.id = id → K user →
      user.Becomes (s.bound settings arrival).verified (s.bound settings arrival).reset user' → K user' ∨ C s arrival)
    (hnew : get? s.rows.users id = none → ∀ (s : Accounts) arrival (user : Account), user.role = .user →
      (user.emailVerified = false ∨ (s.bound settings arrival).verified = some id) → K user ∨ C s arrival)
    {later : List AccountArrival} {user' : Account}
    (hrow' : get? (Runs.run (Accounts.step settings) s later).rows.users id = some user') (hnot : ¬K user') :
    Earlier (fun before arrival => C (Runs.run (Accounts.step settings) s before) arrival) later := by
  refine earlier_of (P := fun before =>
    ∃ user', get? (Runs.run (Accounts.step settings) s before).rows.users id = some user' ∧ ¬K user') ?_ ?_
    ⟨user', hrow', hnot⟩
  · rintro ⟨user, hrow, hnot⟩
    exact hnot (hfirst user hrow)
  · rintro before arrival ⟨user'', hrow'', hnot⟩
    rw [run_concat] at hrow''
    have hkept := (h.run before).step_becomes arrival
    cases hmiddle : get? (Runs.run (Accounts.step settings) s before).rows.users id with
    | some user' =>
      by_cases hK : K user'
      · obtain ⟨found, hfound, hbecomes⟩ := hkept.old id user' hmiddle
        rw [hrow''] at hfound
        obtain rfl := Option.some.inj hfound
        exact Or.inr ((hold _ arrival user' _ (key_of_get? hmiddle) hK hbecomes).resolve_left hnot)
      · exact Or.inl ⟨user', rfl, hK⟩
    | none =>
      have habsent : get? s.rows.users id = none := by
        cases hs : get? s.rows.users id with
        | none => rfl
        | some user =>
          obtain ⟨user', hrow', -⟩ := h.onward before id user hs
          rw [hmiddle] at hrow'
          cases hrow'
      obtain ⟨hrole, hverified⟩ := hkept.new id user'' hrow'' hmiddle
      exact Or.inr ((hnew habsent _ arrival user'' hrole hverified).resolve_left hnot)

/-- The accounts at two moments of a run: none is lost, and what is verified or gets a password, a token was found for. -/
structure Guarded (settings : AccountSettings) (s : Accounts) (later : List AccountArrival)
    (C : TokenPurpose → Nat → Prop) : Prop where
  old : ∀ id user, get? s.rows.users id = some user →
    ∃ user', get? (Runs.run (Accounts.step settings) s later).rows.users id = some user' ∧ user.Same user' ∧
      (user.emailVerified = true → user'.emailVerified = true) ∧
      (user'.emailVerified = user.emailVerified ∨ C .emailVerification id) ∧
      (user'.passwordHash = user.passwordHash ∨ C .passwordReset id)
  new : ∀ id user', get? (Runs.run (Accounts.step settings) s later).rows.users id = some user' →
    get? s.rows.users id = none → user'.role = .user ∧ (user'.emailVerified = false ∨ C .emailVerification id)

theorem Sound.guarded (h : s.Sound settings) (later : List AccountArrival) :
    Guarded settings s later fun purpose id => Earlier (fun before arrival =>
      ((Runs.run (Accounts.step settings) s before).found settings arrival purpose).bind TokenValue.userId? = some id)
      later := by
  refine ⟨fun id user hrow => ?_, fun id user' hrow' hnone => ⟨?_, ?_⟩⟩
  · obtain ⟨user', hrow', hsame⟩ := h.onward later id user hrow
    have hthere : ∀ found, get? s.rows.users id = some found → found = user := by
      intro found hfound
      rw [hrow] at hfound
      exact (Option.some.inj hfound).symm
    have hnotNew : ∀ {q : Prop}, get? s.rows.users id = none → q := by
      intro q hnone
      rw [hrow] at hnone
      cases hnone
    refine ⟨user', hrow', hsame, ?_, ?_, ?_⟩
    · intro htrue
      by_contra hfalse
      have hstays : ∀ (s : Accounts) arrival (user user' : Account), user.id = id → user.emailVerified = true →
          user.Becomes (s.bound settings arrival).verified (s.bound settings arrival).reset user' →
            user'.emailVerified = true ∨ False := by
        intro s arrival user user' hid hK hbecomes
        rcases hbecomes.emailVerified with hkept | ⟨-, hnow⟩
        · exact Or.inl (hkept.trans hK)
        · exact Or.inl hnow
      obtain ⟨before, arrival, after, -, himpossible⟩ := h.earlier_of_not (K := fun user => user.emailVerified = true)
        (C := fun _ _ => False) (fun found hfound => (hthere found hfound).symm ▸ htrue) hstays hnotNew hrow' hfalse
      exact himpossible
    · by_contra hnot
      rw [not_or] at hnot
      refine hnot.2 (h.earlier_of_not (K := fun found => found.emailVerified = user.emailVerified)
        (C := fun s arrival => (s.found settings arrival .emailVerification).bind TokenValue.userId? = some id)
        (fun found hfound => by rw [hthere found hfound]) ?_ hnotNew hrow' hnot.1)
      intro s arrival user user' hid hK hbecomes
      rcases hbecomes.emailVerified with hkept | ⟨hverified, -⟩
      · exact Or.inl (hkept.trans hK)
      · exact Or.inr (hid ▸ hverified)
    · by_contra hnot
      rw [not_or] at hnot
      refine hnot.2 (h.earlier_of_not (K := fun found => found.passwordHash = user.passwordHash)
        (C := fun s arrival => (s.found settings arrival .passwordReset).bind TokenValue.userId? = some id)
        (fun found hfound => by rw [hthere found hfound]) ?_ hnotNew hrow' hnot.1)
      intro s arrival user user' hid hK hbecomes
      rcases hbecomes.passwordHash with hkept | hreset
      · exact Or.inl (hkept.trans hK)
      · exact Or.inr (hid ▸ hreset)
  · have habsent : ∀ {q : Account → Prop} user, get? s.rows.users id = some user → q user := by
      intro q user hrow
      rw [hrow] at hnone
      cases hnone
    by_contra hnot
    obtain ⟨before, arrival, after, -, himpossible⟩ := h.earlier_of_not (K := fun user => user.role = .user)
      (C := fun _ _ => False) habsent (fun s arrival user user' hid hK hbecomes => Or.inl (hbecomes.role.trans hK))
      (fun _ s arrival user hrole _ => Or.inl hrole) hrow' hnot
    exact himpossible
  · by_contra hnot
    rw [not_or, Bool.not_eq_false] at hnot
    refine hnot.2 (h.earlier_of_not (K := fun user => user.emailVerified = false)
      (C := fun s arrival => (s.found settings arrival .emailVerification).bind TokenValue.userId? = some id) ?_ ?_ ?_ hrow' ?_)
    · intro user hrow
      rw [hrow] at hnone
      cases hnone
    · intro s arrival user user' hid hK hbecomes
      rcases hbecomes.emailVerified with hkept | ⟨hverified, -⟩
      · exact Or.inl (hkept.trans hK)
      · exact Or.inr (hid ▸ hverified)
    · intro _ s arrival user _ hverified
      exact hverified
    · rw [hnot.1]
      exact Bool.noConfusion

/-- No account is verified, and no password is replaced, but by a request that brings a token asked for before and meant for
that account; addresses and roles stay, and no two accounts have one address. -/
theorem accounts_guarded {users : List Account} (hdistinct : AccountRows.Distinct ⟨users, []⟩) (now : Time)
    (arrivals later : List AccountArrival) :
    (Runs.run (step settings) (started users now) arrivals).rows.Distinct ∧
      Guarded settings (Runs.run (step settings) (started users now) arrivals) later fun purpose id =>
        Earlier (fun before => (started users now).Redeems settings purpose (.userId id) (arrivals ++ before)) later := by
  have hsound : (started users now).Sound settings := started_sound hdistinct now
  have hguarded := (hsound.run arrivals).guarded later
  have hredeems : ∀ {purpose : TokenPurpose} {id : Nat}, Earlier (fun before arrival =>
      ((Runs.run (step settings) (Runs.run (step settings) (started users now) arrivals) before).found settings arrival
        purpose).bind TokenValue.userId? = some id) later →
      Earlier (fun before => (started users now).Redeems settings purpose (.userId id) (arrivals ++ before)) later := by
    intro purpose id hearlier
    refine hearlier.mono fun before arrival after _ hfound => ?_
    rw [← run_append] at hfound
    obtain ⟨value, hvalue, hid⟩ := Option.bind_eq_some_iff.1 hfound
    cases value with
    | userId found =>
      obtain rfl := Option.some.inj hid
      exact hsound.redeems_of_found rfl hvalue
    | impersonation payload => cases hid
  refine ⟨(hsound.run arrivals).distinct, ⟨fun id user hrow => ?_, fun id user' hrow' hnone => ?_⟩⟩
  · obtain ⟨user', hrow', hsame, hstays, hverified, hreset⟩ := hguarded.old id user hrow
    exact ⟨user', hrow', hsame, hstays, hverified.imp_right hredeems, hreset.imp_right hredeems⟩
  · obtain ⟨hrole, hverified⟩ := hguarded.new id user' hrow' hnone
    exact ⟨hrole, hverified.imp_right hredeems⟩

namespace Small

def accountSettings : AccountSettings where
  emailVerificationTokenExpireHours := 24
  emailVerificationUrlBase := "https://app.example.com/verify-email"
  passwordResetTokenExpireMinutes := 30
  passwordResetUrlBase := "https://app.example.com/reset-password"
  supportImpersonationTokenExpireMinutes := 15
  supportImpersonationUrlBase := "https://app.example.com/impersonate"
  lower := lower
  sha256 token := "sha256-" ++ token
  tokenUrlsafe n := "token-" ++ toString n
  uuid4 n := 100 + n
  hashPassword salt password := toString salt ++ "-" ++ password
  verifyPassword password hash := password.toList.isSuffixOf hash.toList

def accounts : List Account :=
  [⟨1, "admin@example.com", none, "0-first", .admin, true, some 0, 0⟩,
    ⟨2, "owner@example.com", none, "0-second", .user, false, none, 0⟩]

def accountRequests (requests : List AccountRequest) : List AccountArrival :=
  requests.map fun request => ⟨seconds 60, fun _ => false, request⟩

/-- The owner asks for a new password, and the token is used twice. -/
def ownerResets : List AccountArrival :=
  accountRequests
    [.forgotPassword "Owner@example.com", .resetPassword "token-0" "third", .resetPassword "token-0" "fourth"]

theorem accounts_distinct : AccountRows.Distinct ⟨accounts, []⟩ := ⟨by decide, by decide⟩

theorem owner_guarded :
    (Runs.run (step accountSettings) (started accounts 0) []).rows.Distinct ∧
      Guarded accountSettings (Runs.run (step accountSettings) (started accounts 0) []) ownerResets fun purpose id =>
        Earlier (fun before => (started accounts 0).Redeems accountSettings purpose (.userId id) ([] ++ before)) ownerResets :=
  accounts_guarded accounts_distinct 0 [] ownerResets

/-- The first of the two replaces the password. -/
example : (Runs.run (step accountSettings) (started accounts 0) ownerResets).rows.users.map
    (fun user => (user.id, user.passwordHash)) = [(1, "0-first"), (2, "0-third")] := by decide +kernel

end Small

/-- A key is taken at most as often as a token was issued under it: what succeeded is among what was taken. -/
theorem Sound.successes_le (h : s.Sound settings) (arrivals : List AccountArrival) (name : String) :
    s.office.taken.count name + (successes settings s arrivals).count name ≤
      (Runs.run (Accounts.step settings) s arrivals).office.taken.count name := by
  induction arrivals generalizing s with
  | nil => exact Nat.le_refl _
  | cons arrival arrivals ih =>
    have hlater := ih (h.step arrival)
    have htaken : (s.office.taken ++ s.redeemed settings arrival).count name ≤
        (s.step settings arrival).office.taken.count name := (h.answer_kept arrival).taken.sublist.count_le name
    rw [List.count_append] at htaken
    unfold successes
    rw [List.count_append, run_cons]
    omega

/-- Requests succeed with tokens of one key at most as often as such a token was issued. -/
theorem successes_bounded {users : List Account} (hdistinct : AccountRows.Distinct ⟨users, []⟩) (now : Time)
    (arrivals : List AccountArrival) (name : String) :
    (successes settings (started users now) arrivals).count name ≤
      ((Runs.run (step settings) (started users now) arrivals).office.issued.map
        (IssuedSecret.key settings)).count name := by
  have hsound : (started users now).Sound settings := started_sound hdistinct now
  have htaken := hsound.successes_le arrivals name
  have hcounted := (hsound.run arrivals).accounted.counted name
  omega

theorem Small.owner_resets_once :
    (successes accountSettings (started accounts 0) ownerResets).count "password-reset:sha256-token-0" ≤
      ((Runs.run (step accountSettings) (started accounts 0) ownerResets).office.issued.map
        (IssuedSecret.key accountSettings)).count "password-reset:sha256-token-0" :=
  successes_bounded accounts_distinct 0 ownerResets _

/-- Every mail that is sent brings a token that was asked for, to verify an address or to reset a password, and goes to the
address of the account that the token is for. -/
theorem mails_reach {users : List Account} (hdistinct : AccountRows.Distinct ⟨users, []⟩) (now : Time)
    (arrivals : List AccountArrival) (mail : TokenMail)
    (hmail : mail ∈ (Runs.run (step settings) (started users now) arrivals).mails) :
    mail.purpose ≠ .impersonation ∧ ∃ secret user, (started users now).Asked settings arrivals secret ∧
      secret.purpose = mail.purpose ∧ secret.token = mail.token ∧ secret.value = .userId user.id ∧
      get? (Runs.run (step settings) (started users now) arrivals).rows.users user.id = some user ∧
      user.email = mail.toEmail := by
  have hsound : (started users now).Sound settings := started_sound hdistinct now
  obtain ⟨secret, hmem, hpurpose, htoken, user, hvalue, hrow, hemail⟩ := (hsound.run arrivals).mails mail hmail
  have hasked := hsound.issued_asked rfl hmem
  refine ⟨?_, secret, user, hasked, hpurpose, htoken, hvalue, hrow, hemail⟩
  rw [← hpurpose]
  obtain ⟨before, arrival, after, -, hasks⟩ := hasked
  rcases hasks.mailed_or_link with ⟨hmailed, -⟩ | ⟨adminId, targetEmail, reason, -, -, target, admin, -, -, -, -, -, hlink⟩
  · exact hmailed
  · rw [hvalue] at hlink
    cases hlink

theorem Small.owner_mailed :
    TokenPurpose.passwordReset ≠ .impersonation ∧ ∃ secret user,
      (started accounts 0).Asked accountSettings ownerResets secret ∧ secret.purpose = .passwordReset ∧
      secret.token = "token-0" ∧ secret.value = .userId user.id ∧
      get? (Runs.run (step accountSettings) (started accounts 0) ownerResets).rows.users user.id = some user ∧
      user.email = "owner@example.com" :=
  mails_reach accounts_distinct 0 ownerResets ⟨.passwordReset, "owner@example.com", "token-0",
    "https://app.example.com/reset-password?token=token-0", none⟩ (by decide +kernel)

/-! ### Impersonation -/

/-- The entries that an exchange leaves. -/
def impersonationAudit (target admin : Account) (reason : String) : List AccountAudit :=
  [⟨some target.id, target.role.text, "auth.impersonation_consumed", "users", some target.id,
      [("impersonated_by", toString admin.id), ("reason", reason)]⟩,
    ⟨some admin.id, admin.role.text, "admin.impersonation_session_issued", "users", some target.id,
      [("target_user_id", toString target.id), ("reason", reason)]⟩]

end Accounts

/-- An entry that was recorded is committed. -/
theorem AccountEnv.recordAuditEvent_returned {env : AccountEnv} {actor : Option Account} {actorRole action resource : String}
    {resourceId : Option Nat} {metadata : List (String × String)} {s s' : AccountSession} {u : Unit}
    (h : env.recordAuditEvent actor actorRole action resource resourceId metadata s = (.ok u, s')) :
    s'.work = s'.saved ∧ s'.saved = { s.work with auditLogs := s.work.auditLogs ++ [⟨actor.map Account.id,
      (actor.map fun user => user.role.text).getD actorRole, action, resource, resourceId, metadata⟩] } := by
  unfold AccountEnv.recordAuditEvent at h
  rw [bind_ok (modify_apply _ s)] at h
  unfold AccountEnv.commit at h
  cases hfails : env.commitFails s.tick with
  | true =>
    rw [commit_error (e := .operationalError) (by simp [hfails])] at h
    cases h
  | false =>
    rw [commit_ok (by simp [hfails])] at h
    cases h
    exact ⟨rfl, rfl⟩

/-- An exchange that returned found a link in the store, and both accounts, and wrote its entries. -/
theorem exchangeImpersonationToken_returned {env : AccountEnv} {token : String} {s s' : AccountSession} {a : AccountAnswer}
    (h : exchangeImpersonationToken env token s = (.ok a, s')) :
    ∃ payload target admin, s.outside.store.lookup env.now (impersonationTokenKey env.settings token) =
        some (.impersonation payload) ∧
      get? s.work.users payload.targetUserId = some target ∧ get? s.work.users payload.adminUserId = some admin ∧
      a = .impersonating target.id admin.id ∧
      s'.saved.auditLogs = s.work.auditLogs ++ Accounts.impersonationAudit target admin (strip payload.reason) := by
  unfold exchangeImpersonationToken at h
  obtain ⟨found, s₁, hconsume, h⟩ := of_bind_returned h
  have hfound : found = s.outside.store.lookup env.now (impersonationTokenKey env.settings token) ∧ s₁.work = s.work := by
    unfold AccountEnv.consumeSingleUseToken Proc.call at hconsume
    cases hconsume
    exact ⟨InMemoryTokenStore.getdel_fst .., rfl⟩
  obtain ⟨rfl, hwork⟩ := hfound
  rw [← hwork]
  cases hlookup : s.outside.store.lookup env.now (impersonationTokenKey env.settings token) with
  | none =>
    rw [hlookup] at h
    cases h
  | some value =>
    rw [hlookup] at h
    cases value with
    | userId id => cases h
    | impersonation payload =>
      dsimp only at h
      rw [bind_ok (read_apply s₁)] at h
      cases htarget : get? s₁.work.users payload.targetUserId with
      | none =>
        rw [htarget] at h
        cases h
      | some target =>
        cases hadmin : get? s₁.work.users payload.adminUserId with
        | none =>
          rw [htarget, hadmin] at h
          cases h
        | some admin =>
          rw [htarget, hadmin] at h
          dsimp only at h
          obtain ⟨u, s₂, hfirst, h⟩ := of_bind_returned h
          obtain ⟨u', s₃, hsecond, h⟩ := of_bind_returned h
          cases h
          obtain ⟨hsame, hsaved⟩ := AccountEnv.recordAuditEvent_returned hfirst
          obtain ⟨-, hsaved'⟩ := AccountEnv.recordAuditEvent_returned hsecond
          refine ⟨payload, target, admin, rfl, htarget, hadmin, rfl, ?_⟩
          rw [hsaved', hsame, hsaved]
          unfold Accounts.impersonationAudit
          rw [List.append_assoc]
          rfl

namespace Accounts

variable {settings : AccountSettings}

/-- An administrator takes on an account only by a link that this administrator asked for, for that account and not the
administrator's own, while the link has not run out; and both the account's and the administrator's entry are in the log. -/
theorem impersonation_accounted {users : List Account} (hdistinct : AccountRows.Distinct ⟨users, []⟩) (now : Time)
    (arrivals : List AccountArrival) (elapsed : Nat) (commitFails : Nat → Bool) (token : String) {a : AccountAnswer}
    (h : ((Runs.run (step settings) (started users now) arrivals).answer settings
      ⟨elapsed, commitFails, .exchangeImpersonationToken token⟩).1 = .ok a) :
    ∃ target admin reason, a = .impersonating target.id admin.id ∧
      get? (Runs.run (step settings) (started users now) arrivals).rows.users target.id = some target ∧
      get? (Runs.run (step settings) (started users now) arrivals).rows.users admin.id = some admin ∧
      admin.role = .admin ∧ target.id ≠ admin.id ∧
      Earlier (fun before ask => ∃ targetEmail, ask.request = .createImpersonationLink admin.id targetEmail reason ∧
        target.email = settings.lower targetEmail ∧
        (Runs.run (step settings) (started users now) arrivals).now + elapsed <
          (Runs.run (step settings) (started users now) before).now + ask.elapsed + settings.lifetime .impersonation)
        arrivals ∧
      ((Runs.run (step settings) (started users now) arrivals).step settings
          ⟨elapsed, commitFails, .exchangeImpersonationToken token⟩).rows.auditLogs =
        (Runs.run (step settings) (started users now) arrivals).rows.auditLogs ++
          impersonationAudit target admin (strip reason) := by
  have hsound : (started users now).Sound settings := started_sound hdistinct now
  obtain ⟨payload, target, admin, hlookup, htarget, hadmin, rfl, haudit⟩ :=
    exchangeImpersonationToken_returned (Prod.ext h rfl)
  have hfound : (Runs.run (step settings) (started users now) arrivals).found settings
      ⟨elapsed, commitFails, .exchangeImpersonationToken token⟩ .impersonation = some (.impersonation payload) := hlookup
  obtain ⟨_, secret, -, hasked, hpurpose, -, hvalue, hcurrent⟩ := hsound.redeems_of_found rfl hfound
  obtain ⟨before, ask, after, harrivals, hasks⟩ := hasked
  have hexpires := hasks.1
  rcases hasks.mailed_or_link with ⟨-, id, hmailed⟩ | ⟨adminId, targetEmail, reason, hrequest, -, hlink⟩
  · rw [hvalue] at hmailed
    cases hmailed
  · obtain ⟨target', admin', htarget', hemail, hadmin', hrole, hne, hpayload⟩ := hlink
    rw [hvalue] at hpayload
    obtain rfl := TokenValue.impersonation.inj hpayload
    -- the accounts that the exchange finds are those that the link was asked for
    obtain rfl : target' = target := Option.some.inj (htarget'.symm.trans htarget)
    obtain rfl : admin' = admin := Option.some.inj (hadmin'.symm.trans hadmin)
    obtain rfl : admin'.id = adminId := key_of_get? hadmin
    refine ⟨target', admin', reason, rfl, htarget, hadmin, hrole, hne, ?_, ?_⟩
    · refine ⟨before, ask, after, harrivals, targetEmail, hrequest, hemail, ?_⟩
      rw [hexpires, hpurpose] at hcurrent
      exact hcurrent
    · rw [← strip_strip reason]
      exact haudit

/-- The administrator asks for a link to the owner's account. -/
def Small.adminAsks : List AccountArrival :=
  accountRequests [.createImpersonationLink 1 "owner@example.com" " ticket 7 "]

theorem Small.owner_impersonated :
    ∃ target admin reason, AccountAnswer.impersonating 2 1 = .impersonating target.id admin.id ∧
      get? (Runs.run (step accountSettings) (started accounts 0) adminAsks).rows.users target.id = some target ∧
      get? (Runs.run (step accountSettings) (started accounts 0) adminAsks).rows.users admin.id = some admin ∧
      admin.role = .admin ∧ target.id ≠ admin.id ∧
      Earlier (fun before ask => ∃ targetEmail, ask.request = .createImpersonationLink admin.id targetEmail reason ∧
        target.email = accountSettings.lower targetEmail ∧
        (Runs.run (step accountSettings) (started accounts 0) adminAsks).now + seconds 60 <
          (Runs.run (step accountSettings) (started accounts 0) before).now + ask.elapsed +
            accountSettings.lifetime .impersonation) adminAsks ∧
      ((Runs.run (step accountSettings) (started accounts 0) adminAsks).step accountSettings
          ⟨seconds 60, fun _ => false, .exchangeImpersonationToken "token-0"⟩).rows.auditLogs =
        (Runs.run (step accountSettings) (started accounts 0) adminAsks).rows.auditLogs ++
          impersonationAudit target admin (strip reason) :=
  impersonation_accounted accounts_distinct 0 adminAsks (seconds 60) (fun _ => false) "token-0" (by rfl)

end Accounts

end ControlPlane
