import ControlPlane.Identity.AccountChanges

/-!
# What each request keeps to

`AsksFor` tells which tokens a request may have issued, and `presented` which token it brings.  A request verifies an address
or replaces a password only for a token it found in the store (`Accounts.bound`), and `answer_kept` says so of every request.
-/

namespace ControlPlane

open Table Session Session.Proc

/-! ### What a request asks for, and what it brings -/

/-- The lifetime of a token. -/
def AccountSettings.lifetime (settings : AccountSettings) : TokenPurpose → Nat
  | .passwordReset => seconds (max (settings.passwordResetTokenExpireMinutes * 60) 1)
  | .emailVerification => seconds (max (settings.emailVerificationTokenExpireHours * 60 * 60) 1)
  | .impersonation => seconds (max (max settings.supportImpersonationTokenExpireMinutes 1 * 60) 1)

/-- The token is for the account with the address. -/
def IssuedSecret.ForAddress (secret : IssuedSecret) (purpose : TokenPurpose) (users : List Account) (email : String) : Prop :=
  secret.purpose = purpose ∧
    ∃ user, get? users user.id = some user ∧ user.email = email ∧ secret.value = .userId user.id

/-- The token is a link that the administrator asks for, with which to take on somebody else's account. -/
def IssuedSecret.ForAdmin (secret : IssuedSecret) (now : Time) (users : List Account) (adminId : Nat)
    (targetEmail reason : String) : Prop :=
  secret.purpose = .impersonation ∧ ∃ target admin, get? users target.id = some target ∧ target.email = targetEmail ∧
    get? users adminId = some admin ∧ admin.role = .admin ∧ target.id ≠ adminId ∧
    secret.value = .impersonation ⟨target.id, target.email, adminId, reason, now⟩

/-- The request, at an instant, asks for the token. -/
def AccountRequest.AsksFor (settings : AccountSettings) (now : Time) (users : List Account) (secret : IssuedSecret)
    (request : AccountRequest) : Prop :=
  secret.expiresAt = now + settings.lifetime secret.purpose ∧
    match request with
    | .signup email _ _ => secret.ForAddress .emailVerification users (settings.lower email)
    | .resendVerification userId =>
      secret.purpose = .emailVerification ∧ secret.value = .userId userId ∧ ∃ user, get? users userId = some user
    | .forgotPassword email => secret.ForAddress .passwordReset users (settings.lower email)
    | .invite email _ => secret.ForAddress .passwordReset users (settings.lower email)
    | .createImpersonationLink adminId targetEmail reason =>
      secret.ForAdmin now users adminId (settings.lower targetEmail) (strip reason)
    | _ => False

/-- The token that a request brings, and what for. -/
def AccountRequest.presented : AccountRequest → Option (TokenPurpose × String)
  | verifyEmail token => some (.emailVerification, token)
  | resetPassword token _ => some (.passwordReset, token)
  | exchangeImpersonationToken token => some (.impersonation, token)
  | _ => none

section

variable {rows rows' : AccountRows} {secret : IssuedSecret}

theorem IssuedSecret.ForAddress.later {purpose : TokenPurpose} {email : String}
    (h : secret.ForAddress purpose rows.users email) (hlater : rows.Onward rows') :
    secret.ForAddress purpose rows'.users email := by
  obtain ⟨hpurpose, user, hrow, hemail, hvalue⟩ := h
  obtain ⟨user', hrow', hsame⟩ := hlater _ user hrow
  refine ⟨hpurpose, user', ?_, hsame.email.trans hemail, ?_⟩
  · rw [hsame.id]
    exact hrow'
  · rw [hsame.id]
    exact hvalue

theorem IssuedSecret.ForAdmin.later {now : Time} {adminId : Nat} {targetEmail reason : String}
    (h : secret.ForAdmin now rows.users adminId targetEmail reason) (hlater : rows.Onward rows') :
    secret.ForAdmin now rows'.users adminId targetEmail reason := by
  obtain ⟨hpurpose, target, admin, htarget, hemail, hadmin, hrole, hne, hvalue⟩ := h
  obtain ⟨target', htarget', hsame⟩ := hlater _ target htarget
  obtain ⟨admin', hadmin', hsame'⟩ := hlater _ admin hadmin
  refine ⟨hpurpose, target', admin', ?_, hsame.email.trans hemail, hadmin', hsame'.role.trans hrole, ?_, ?_⟩
  · rw [hsame.id]
    exact htarget'
  · rw [hsame.id]
    exact hne
  · rw [hsame.id, hsame.email]
    exact hvalue

theorem AccountRequest.AsksFor.later {settings : AccountSettings} {now : Time} {request : AccountRequest}
    (h : request.AsksFor settings now rows.users secret) (hlater : rows.Onward rows') :
    request.AsksFor settings now rows'.users secret := by
  obtain ⟨hexpires, h⟩ := h
  refine ⟨hexpires, ?_⟩
  cases request with
  | signup email password phone => exact h.later hlater
  | resendVerification userId =>
    obtain ⟨hpurpose, hvalue, user, hrow⟩ := h
    obtain ⟨user', hrow', -⟩ := hlater _ user hrow
    exact ⟨hpurpose, hvalue, user', hrow'⟩
  | forgotPassword email => exact h.later hlater
  | invite email membership => exact h.later hlater
  | createImpersonationLink adminId targetEmail reason => exact h.later hlater
  | login email password => exact h
  | updateMe userId phone => exact h
  | verifyEmail token => exact h
  | resetPassword token newPassword => exact h
  | exchangeImpersonationToken token => exact h

end

/-- What is asked for is mailed to an account, or is a link for an administrator. -/
theorem AccountRequest.AsksFor.mailed_or_link {settings : AccountSettings} {now : Time} {users : List Account}
    {secret : IssuedSecret} {request : AccountRequest} (h : request.AsksFor settings now users secret) :
    (secret.purpose ≠ .impersonation ∧ ∃ id, secret.value = .userId id) ∨
      ∃ adminId targetEmail reason, request = .createImpersonationLink adminId targetEmail reason ∧
        secret.ForAdmin now users adminId (settings.lower targetEmail) (strip reason) := by
  obtain ⟨-, h⟩ := h
  have haddress : ∀ {purpose : TokenPurpose} {email : String}, purpose ≠ .impersonation →
      secret.ForAddress purpose users email → secret.purpose ≠ .impersonation ∧ ∃ id, secret.value = .userId id := by
    rintro purpose email hne ⟨rfl, user, -, -, hvalue⟩
    exact ⟨hne, user.id, hvalue⟩
  cases request with
  | signup email password phone => exact Or.inl (haddress (by decide) h)
  | resendVerification userId =>
    obtain ⟨hpurpose, hvalue, -⟩ := h
    refine Or.inl ⟨?_, userId, hvalue⟩
    rw [hpurpose]
    decide
  | forgotPassword email => exact Or.inl (haddress (by decide) h)
  | invite email membership => exact Or.inl (haddress (by decide) h)
  | createImpersonationLink adminId targetEmail reason => exact Or.inr ⟨adminId, targetEmail, reason, rfl, h⟩
  | login email password => exact h.elim
  | updateMe userId phone => exact h.elim
  | verifyEmail token => exact h.elim
  | resetPassword token newPassword => exact h.elim
  | exchangeImpersonationToken token => exact h.elim

theorem AccountRows.byEmail_congr {rows rows' : AccountRows} (h : rows'.users = rows.users) (email : String) :
    rows'.byEmail email = rows.byEmail email := by
  unfold AccountRows.byEmail
  rw [h]

/-- An account found by its address is found by its id. -/
theorem AccountRows.Distinct.get?_of_byEmail {rows : AccountRows} (h : rows.Distinct) {email : String} {user : Account}
    (hfound : rows.byEmail email = some user) : get? rows.users user.id = some user ∧ user.email = email := by
  have hemail := List.find?_some hfound
  rw [decide_eq_true_eq] at hemail
  exact ⟨get?_of_mem h.ids (List.mem_of_find?_eq_some hfound), hemail⟩

/-! ### Endpoints -/

section

variable {env : AccountEnv} {bound : AccountsBound} {p : List Account → List IssuedSecret → Prop}

theorem AccountsKept.of_andTaken {names : List String} {s : AccountSession}
    (h : AccountsKept env.settings (bound.andTaken names) s) : AccountsKept env.settings bound s :=
  { h with taken := (List.prefix_append _ _).trans h.taken }

namespace AccountsClean

theorem signup_kept (email password : String) (phone : Option String)
    (hmay : ∀ users secret, (AccountRequest.signup email password phone).AsksFor env.settings env.now users secret →
      bound.may users secret) :
    Triple (AccountsClean env.settings bound p) (signup env email password phone) (fun _ => AccountsKept env.settings bound)
      (AccountsKept env.settings bound) := by
  refine read fun rows hdistinct => ?_
  split
  · exact Triple.bind (recordAuditEvent _ _ _ _ _ _) fun _ => Triple.bind uuid4 fun _ => done _
  · rename_i hnone
    rw [Bool.not_eq_true, Option.isSome_eq_false_iff, Option.isNone_iff_eq_none] at hnone
    refine Triple.bind (hashPassword _) fun passwordHash => Triple.bind uuid4 fun id => ?_
    refine insert rfl rfl ?_ fun _ => ?_
    · intro rows' issued h
      rw [AccountRows.byEmail_congr h.1]
      exact hnone
    · refine Triple.bind (recordAuditEvent _ _ _ _ _ _) fun _ => Triple.bind (queueEmailVerification ?_) fun _ => done _
      intro users issued token hrow
      exact ⟨hrow, hmay users _ ⟨rfl, rfl, _, hrow, rfl, rfl⟩⟩

theorem loginAccount_kept (email password : String) :
    Triple (AccountsClean env.settings bound p) (loginAccount env email password) (fun _ => AccountsKept env.settings bound)
      (AccountsKept env.settings bound) := by
  refine read fun rows hdistinct => ?_
  split
  · exact Triple.bind (recordAuditEvent _ _ _ _ _ _) fun _ => raised _
  · split
    · exact Triple.bind (recordAuditEvent _ _ _ _ _ _) fun _ => done _
    · exact Triple.bind (recordAuditEvent _ _ _ _ _ _) fun _ => raised _

theorem requireAccount_clean (userId : Nat) :
    Triple (AccountsClean env.settings bound p) (requireAccount userId)
      (fun user s => AccountsClean env.settings bound (fun users _ => get? users user.id = some user) s ∧ user.id = userId)
      (AccountsKept env.settings bound) := by
  refine read fun rows hdistinct => ?_
  split
  · rename_i user hrow
    intro s h
    have hid : user.id = userId := key_of_get? hrow
    refine ⟨h.mono fun users issued h => ?_, hid⟩
    rw [h.1, hid]
    exact hrow
  · exact raised _

theorem updateMe_kept (userId : Nat) (phone : Option String) :
    Triple (AccountsClean env.settings bound p) (updateMe env userId phone) (fun _ => AccountsKept env.settings bound)
      (AccountsKept env.settings bound) := by
  refine Triple.bind (requireAccount_clean userId) fun user => Triple.of_fact fun _ => ?_
  refine write user ⟨⟨rfl, rfl, rfl, rfl⟩, Or.inl rfl, Or.inl rfl⟩ (fun users issued h => h) fun _ => ?_
  exact Triple.bind (recordAuditEvent _ _ _ _ _ _) fun _ => done _

theorem redeemedAccount_clean (value : Option TokenValue) (detail : String) :
    Triple (AccountsClean env.settings bound p) (redeemedAccount value detail)
      (fun user s => AccountsClean env.settings bound (fun users _ => get? users user.id = some user) s ∧
        value.bind TokenValue.userId? = some user.id)
      (AccountsKept env.settings bound) := by
  refine read fun rows hdistinct => ?_
  split
  · rename_i user hfound
    obtain ⟨id, hvalue, hrow⟩ := Option.bind_eq_some_iff.1 hfound
    intro s h
    have hid : user.id = id := key_of_get? hrow
    refine ⟨h.mono fun users issued h => ?_, hid ▸ hvalue⟩
    rw [h.1, hid]
    exact hrow
  · exact raised _

/-- A request that redeems a token for an account: when it returns, the token was found, and is taken. -/
theorem redeemed_kept (purpose : TokenPurpose) (token detail : String) (value : Option TokenValue) {α : Type}
    {g : Account → AccountProc α}
    (hg : ∀ names user, value.bind TokenValue.userId? = some user.id →
      Triple (AccountsClean env.settings (bound.andTaken names) fun users _ => get? users user.id = some user) (g user)
        (fun _ => AccountsKept env.settings (bound.andTaken names)) (AccountsKept env.settings (bound.andTaken names))) :
    Triple (fun s => AccountsClean env.settings bound p s ∧ bound.taken = s.outside.taken ∧
        s.outside.store.lookup env.now (tokenKey env.settings purpose token) = value)
      (env.consumeSingleUseToken purpose token >>= fun found => redeemedAccount found detail >>= g)
      (fun _ => AccountsKept env.settings (bound.andTaken [tokenKey env.settings purpose token]))
      (AccountsKept env.settings bound) := by
  refine Triple.bind (consumeSingleUseToken purpose token value) fun found => Triple.of_fact ?_
  rintro rfl
  cases found with
  | none =>
    intro s h
    rw [bind_error (show redeemedAccount none detail s = _ from rfl)]
    exact h.kept.of_andTaken
  | some value =>
    refine Triple.conseq (Triple.bind (redeemedAccount_clean (some value) detail) fun user => ?_) (fun s h => h)
      (fun a s h => h) fun s h => h.of_andTaken
    exact Triple.of_fact fun hvalue => hg _ user hvalue

theorem verifyEmail_kept (token : String) {value : Option TokenValue}
    (hverified : ∀ id, value.bind TokenValue.userId? = some id → bound.verified = some id) :
    Triple (fun s => AccountsClean env.settings bound p s ∧ bound.taken = s.outside.taken ∧
        s.outside.store.lookup env.now (emailVerificationTokenKey env.settings token) = value)
      (verifyEmail env token)
      (fun _ => AccountsKept env.settings (bound.andTaken [emailVerificationTokenKey env.settings token]))
      (AccountsKept env.settings bound) := by
  refine redeemed_kept .emailVerification token _ value fun names user hvalue => ?_
  split
  · exact Triple.bind (recordAuditEvent _ _ _ _ _ _) fun _ => done _
  · refine write user ?_ (fun users issued h => h) fun _ =>
      Triple.bind (recordAuditEvent _ _ _ _ _ _) fun _ => done _
    exact ⟨⟨rfl, rfl, rfl, rfl⟩, Or.inr ⟨hverified _ hvalue, rfl⟩, Or.inl rfl⟩

theorem resetPassword_kept (token newPassword : String) {value : Option TokenValue}
    (hreset : ∀ id, value.bind TokenValue.userId? = some id → bound.reset = some id) :
    Triple (fun s => AccountsClean env.settings bound p s ∧ bound.taken = s.outside.taken ∧
        s.outside.store.lookup env.now (passwordResetTokenKey env.settings token) = value)
      (resetPassword env token newPassword)
      (fun _ => AccountsKept env.settings (bound.andTaken [passwordResetTokenKey env.settings token]))
      (AccountsKept env.settings bound) := by
  refine redeemed_kept .passwordReset token _ value fun names user hvalue => ?_
  refine Triple.bind (hashPassword _) fun passwordHash => ?_
  refine write user ?_ (fun users issued h => h) fun _ =>
    Triple.bind (recordAuditEvent _ _ _ _ _ _) fun _ => done _
  exact ⟨⟨rfl, rfl, rfl, rfl⟩, Or.inl rfl, Or.inr (hreset _ hvalue)⟩

theorem exchangeImpersonationToken_kept (token : String) {value : Option TokenValue} :
    Triple (fun s => AccountsClean env.settings bound p s ∧ bound.taken = s.outside.taken ∧
        s.outside.store.lookup env.now (impersonationTokenKey env.settings token) = value)
      (exchangeImpersonationToken env token)
      (fun _ => AccountsKept env.settings (bound.andTaken [impersonationTokenKey env.settings token]))
      (AccountsKept env.settings bound) := by
  refine Triple.bind (consumeSingleUseToken .impersonation token value) fun found => Triple.of_fact ?_
  rintro rfl
  cases found with
  | none => exact fun s h => h.kept.of_andTaken
  | some value =>
    cases value with
    | userId id => exact fun s h => h.kept.of_andTaken
    | impersonation payload =>
      refine Triple.conseq (P := AccountsClean env.settings (bound.andTaken [impersonationTokenKey env.settings token]) p)
        (read fun rows hdistinct => ?_) (fun s h => h) (fun a s h => h) fun s h => h.of_andTaken
      split
      · exact Triple.bind (recordAuditEvent _ _ _ _ _ _) fun _ =>
          Triple.bind (recordAuditEvent _ _ _ _ _ _) fun _ => done _
      · exact raised _

theorem resendVerification_kept (userId : Nat)
    (hmay : ∀ users secret, (AccountRequest.resendVerification userId).AsksFor env.settings env.now users secret →
      bound.may users secret) :
    Triple (AccountsClean env.settings bound p) (resendVerification env userId) (fun _ => AccountsKept env.settings bound)
      (AccountsKept env.settings bound) := by
  refine Triple.bind (requireAccount_clean userId) fun user => Triple.of_fact fun hid => ?_
  split
  · exact done _
  · refine Triple.bind (queueEmailVerification ?_) fun _ => Triple.bind (recordAuditEvent _ _ _ _ _ _) fun _ => done _
    intro users issued token hrow
    refine ⟨hrow, hmay users _ ⟨rfl, rfl, ?_, user, ?_⟩⟩
    · rw [hid]
    · rw [← hid]
      exact hrow

theorem forgotPassword_kept (email : String)
    (hmay : ∀ users secret, (AccountRequest.forgotPassword email).AsksFor env.settings env.now users secret →
      bound.may users secret) :
    Triple (AccountsClean env.settings bound p) (forgotPassword env email) (fun _ => AccountsKept env.settings bound)
      (AccountsKept env.settings bound) := by
  refine read fun rows hdistinct => ?_
  split
  · rename_i user hfound
    obtain ⟨hrow, hemail⟩ := hdistinct.get?_of_byEmail hfound
    refine Triple.bind (storePasswordReset user ?_) fun token =>
      Triple.bind (recordAuditEvent _ _ _ _ _ _) fun _ => Triple.bind (mailTo hemail) fun _ => done _
    intro users issued token h
    rw [h.1]
    exact ⟨hrow, hmay _ _ ⟨rfl, rfl, user, hrow, hemail, rfl⟩⟩
  · exact Triple.bind (recordAuditEvent _ _ _ _ _ _) fun _ => done _

theorem createImpersonationLink_kept (adminId : Nat) (targetEmail reason : String)
    (hmay : ∀ users secret, (AccountRequest.createImpersonationLink adminId targetEmail reason).AsksFor env.settings env.now
      users secret → bound.may users secret) :
    Triple (AccountsClean env.settings bound p) (createImpersonationLink env adminId targetEmail reason)
      (fun _ => AccountsKept env.settings bound) (AccountsKept env.settings bound) := by
  have hadmin : Triple (AccountsClean env.settings bound p) (requireAdmin adminId)
      (fun user s => AccountsClean env.settings bound (fun users _ => get? users user.id = some user) s ∧
        user.id = adminId ∧ user.role = .admin) (AccountsKept env.settings bound) := by
    refine Triple.bind (requireAccount_clean adminId) fun user => Triple.of_fact fun hid => ?_
    split
    · rename_i hrole
      exact fun s h => ⟨h, hid, hrole⟩
    · exact raised _
  refine Triple.bind hadmin fun admin => Triple.of_fact ?_
  rintro ⟨rfl, hrole⟩
  refine read fun rows hdistinct => ?_
  split
  · exact raised _
  · rename_i target hfound
    obtain ⟨hrow, hemail⟩ := hdistinct.get?_of_byEmail hfound
    split
    · exact raised _
    · rename_i hne
      refine Triple.bind tokenUrlsafe fun token => Triple.bind (storeToken (q := fun _ _ => True) ?_) fun _ =>
        Triple.bind (recordAuditEvent _ _ _ _ _ _) fun _ => done _
      rintro users issued ⟨rfl, hthere⟩
      exact ⟨hmay _ _ ⟨rfl, rfl, target, admin, hrow, hemail, hthere, hrole, hne, rfl⟩, trivial⟩

theorem inviteAccount_kept (email : String) (membership : Except PyError Unit)
    (hmay : ∀ users secret, (AccountRequest.invite email membership).AsksFor env.settings env.now users secret →
      bound.may users secret) :
    Triple (AccountsClean env.settings bound p) (inviteAccount env email membership)
      (fun _ => AccountsKept env.settings bound) (AccountsKept env.settings bound) := by
  have hinvited : Triple (AccountsClean env.settings bound p) (invitedAccount env (env.settings.lower email))
      (fun _ => AccountsClean env.settings bound fun _ _ => True) (AccountsKept env.settings bound) := by
    refine read fun rows hdistinct => ?_
    split
    · exact fun s h => h.mono fun _ _ _ => trivial
    · rename_i hnone
      refine Triple.bind tokenUrlsafe fun tempPassword => Triple.bind (hashPassword _) fun passwordHash =>
        Triple.bind uuid4 fun id => ?_
      refine insert rfl rfl ?_ fun _ => ?_
      · intro rows' issued h
        rw [AccountRows.byEmail_congr h.1]
        exact hnone
      · refine Triple.bind
          (storePasswordReset ⟨id, env.settings.lower email, none, passwordHash, .user, false, none, env.now⟩ ?_)
          fun token => Triple.bind (mailTo rfl) fun _ =>
          fun s h => h.mono fun _ _ _ => trivial
        intro users issued token hrow
        exact ⟨hrow, hmay users _ ⟨rfl, rfl, _, hrow, rfl, rfl⟩⟩
  refine Triple.bind hinvited fun userId => ?_
  cases membership with
  | ok u => exact done _
  | error error => exact raised _

end AccountsClean

end

/-! ### Requests -/

/-- The keys of the tokens that a request brings. -/
def AccountRequest.keys (settings : AccountSettings) (request : AccountRequest) : List String :=
  (request.presented.map fun (purpose, token) => tokenKey settings purpose token).toList

namespace Accounts

section

variable (settings : AccountSettings) (s : Accounts) (arrival : AccountArrival)

/-- What the store holds for the token that a request brings, if it brings it for the purpose. -/
def found (purpose : TokenPurpose) : Option TokenValue :=
  match arrival.request.presented with
  | some (presented, token) =>
    if presented = purpose then s.office.store.lookup (s.now + arrival.elapsed) (tokenKey settings purpose token) else none
  | none => none

/-- The bounds of a request. -/
def bound : AccountsBound where
  rows := s.rows
  verified := (s.found settings arrival .emailVerification).bind TokenValue.userId?
  reset := (s.found settings arrival .passwordReset).bind TokenValue.userId?
  taken := s.office.taken
  issued := s.office.issued
  may users secret := secret ∈ s.office.issued ∨ arrival.request.AsksFor settings (s.now + arrival.elapsed) users secret
  may_later hlater hmay := hmay.imp_right fun hasks => hasks.later hlater

/-- The keys with which a request succeeded. -/
def redeemed : List String :=
  match (s.answer settings arrival).1 with
  | .ok _ => arrival.request.keys settings
  | .error _ => []

/-- An account has its id and its address to itself, the store holds what was issued, and mails go to the account that their
token is for. -/
structure Sound : Prop where
  distinct : s.rows.Distinct
  accounted : s.office.Accounted settings
  mails : ∀ mail ∈ s.mails, mail.Reaches s.rows.users s.office.issued

end

variable {settings : AccountSettings} {s : Accounts}

theorem Sound.opened (h : s.Sound settings) (arrival : AccountArrival) :
    AccountsClean settings (s.bound settings arrival) (fun _ _ => True)
      (Proc.opened s.rows { s.office with background := [] }) := by
  have hsame : s.rows.Becomes (s.bound settings arrival).verified (s.bound settings arrival).reset s.rows := .refl s.rows
  refine ⟨⟨hsame, hsame, h.distinct, ⟨h.accounted.stored, h.accounted.counted⟩, List.prefix_rfl, List.prefix_rfl, ?_, ?_⟩,
    rfl, trivial⟩
  · intro secret hmem
    exact Or.inl hmem
  · intro mail hmem
    cases hmem

/-- Every request keeps to its bounds, and what it brings is taken when it returns. -/
theorem Sound.answer_ends (h : s.Sound settings) (arrival : AccountArrival) :
    Ends (fun _ => AccountsKept settings ((s.bound settings arrival).andTaken (arrival.request.keys settings)))
      (AccountsKept settings (s.bound settings arrival)) (s.answer settings arrival) := by
  have hopened := h.opened arrival
  have hmay : ∀ users secret, arrival.request.AsksFor settings (s.now + arrival.elapsed) users secret →
      (s.bound settings arrival).may users secret := fun users secret => Or.inr
  -- a request that brings no token takes none
  have hplain : ∀ result : Except PyError AccountAnswer × AccountSession, arrival.request.presented = none →
      Ends (fun _ => AccountsKept settings (s.bound settings arrival)) (AccountsKept settings (s.bound settings arrival))
        result → Ends (fun _ => AccountsKept settings ((s.bound settings arrival).andTaken (arrival.request.keys settings)))
          (AccountsKept settings (s.bound settings arrival)) result := by
    rintro ⟨result, session⟩ hnone hends
    cases result with
    | error error => exact hends
    | ok a =>
      refine { hends with taken := ?_ }
      unfold AccountRequest.keys AccountsBound.andTaken
      rw [hnone, Option.map_none, Option.toList_none, List.append_nil]
      exact hends.taken
  obtain ⟨elapsed, commitFails, request⟩ := arrival
  cases request with
  | signup email password phone =>
    exact hplain _ rfl (AccountsClean.signup_kept email password phone hmay _ hopened)
  | login email password => exact hplain _ rfl (AccountsClean.loginAccount_kept email password _ hopened)
  | updateMe userId phone => exact hplain _ rfl (AccountsClean.updateMe_kept userId phone _ hopened)
  | verifyEmail token =>
    exact AccountsClean.verifyEmail_kept token (fun id hid => hid) _ ⟨hopened, rfl, rfl⟩
  | resendVerification userId => exact hplain _ rfl (AccountsClean.resendVerification_kept userId hmay _ hopened)
  | forgotPassword email => exact hplain _ rfl (AccountsClean.forgotPassword_kept email hmay _ hopened)
  | resetPassword token newPassword =>
    exact AccountsClean.resetPassword_kept token newPassword (fun id hid => hid) _ ⟨hopened, rfl, rfl⟩
  | createImpersonationLink adminId targetEmail reason =>
    exact hplain _ rfl (AccountsClean.createImpersonationLink_kept adminId targetEmail reason hmay _ hopened)
  | exchangeImpersonationToken token =>
    exact AccountsClean.exchangeImpersonationToken_kept token _ ⟨hopened, rfl, rfl⟩
  | invite email membership => exact hplain _ rfl (AccountsClean.inviteAccount_kept email membership hmay _ hopened)

/-- A request that returned keeps to what `answer_ends` says of it, and so does one that raised. -/
theorem Sound.answer_kept (h : s.Sound settings) (arrival : AccountArrival) :
    AccountsKept settings ((s.bound settings arrival).andTaken (s.redeemed settings arrival))
      (s.answer settings arrival).2 := by
  have hends := h.answer_ends arrival
  unfold redeemed
  revert hends
  cases s.answer settings arrival with
  | mk result session =>
    cases result with
    | ok a => exact fun hends => hends
    | error error =>
      intro hends
      refine { hends with taken := ?_ }
      show (s.bound settings arrival).taken ++ [] <+: session.outside.taken
      rw [List.append_nil]
      exact hends.taken

/-- What a request does to the accounts. -/
theorem Sound.step_becomes (h : s.Sound settings) (arrival : AccountArrival) :
    s.rows.Becomes (s.bound settings arrival).verified (s.bound settings arrival).reset (s.step settings arrival).rows :=
  (h.answer_kept arrival).saved

/-- A request leaves the accounts, the store and the mails sound. -/
theorem Sound.step (h : s.Sound settings) (arrival : AccountArrival) : (s.step settings arrival).Sound settings := by
  have hkept := h.answer_kept arrival
  refine ⟨hkept.distinct, hkept.accounted, fun mail hmem => ?_⟩
  rcases List.mem_append.1 hmem with hold | hnew
  · exact (h.mails mail hold).later hkept.saved.onward fun _ hsecret => hkept.grown.subset hsecret
  · revert hnew
    dsimp only
    split
    · exact hkept.background mail
    · intro hnew
      cases hnew

end Accounts

end ControlPlane
