import ControlPlane.Identity.Router
import ControlPlane.Base.Runs

/-!
# What a logout-all ends

A logout-all ends the tokens issued before it and those obtained later by refreshing one of them, and revoking a `jti`
ends its token.  `get_current_user` refuses them all.  The refresh endpoint looks at the revoked `jti` only, and the
WebSocket endpoint at nothing.
-/

namespace ControlPlane

open Runs InMemoryTokenStore

/-- A token issued before `T`, or obtained later by refreshing one. -/
inductive Stale (issued : List IssuedToken) (T : Time) : TokenPayload → Prop
  | issuedBefore (t : IssuedToken) : t ∈ issued → t.issuedAt < T → Stale issued T t.payload
  | refreshed (t : IssuedToken) (parent : TokenPayload) : t ∈ issued → T < t.issuedAt →
      t.refreshedFrom = some parent → Stale issued T parent → Stale issued T t.payload

namespace Identity

/-- The token's user has logged out of all sessions, this one included. -/
def LoggedOut (s : Identity) (token : TokenPayload) : Prop :=
  ∃ T, (token.sub, T) ∈ s.logoutAlls ∧ Stale s.issued T token

/-- The token was revoked, or its user has logged out of all sessions, this one included. -/
def Dead (s : Identity) (token : TokenPayload) : Prop := token.jti ∈ s.revocations ∨ s.LoggedOut token

/-- The request gets no dead token accepted. -/
def Complete (settings : TokenSettings) (s : Identity) (arrival : Arrival) : Prop :=
  ∀ token, (s.wait arrival.elapsed).accepted settings arrival.request = some token → ¬ s.Dead token

/-- The token is a good one of the type at the instant, of a user who exists. -/
def Usable (s : Identity) (now : Time) (token : TokenPayload) (tokenType : TokenType) : Prop :=
  decodeToken s.issued now token tokenType = some token ∧ (s.db.user? token.sub).isSome

/-- No usable refresh token that a logout-all has ended comes to the refresh endpoint, unless its `jti` was revoked; and
no usable access token that is dead comes to the WebSocket endpoint. -/
def Spared (settings : TokenSettings) (s : Identity) (arrival : Arrival) : Prop :=
  match arrival.request with
  | .refresh (some token) =>
    s.Usable (s.now + arrival.elapsed) token .refresh → s.LoggedOut token → token.jti ∈ s.revocations
  | .jobStream _ subprotocolToken query =>
    (settings.isProduction ∧ query.isSome ∧ subprotocolToken = none) ∨
      ∀ token, subprotocolToken.or query = some token → s.Usable (s.now + arrival.elapsed) token .access →
        ¬ s.Dead token
  | _ => True

/-! ### What the entry points do -/

/-- Nothing has changed but time: entries that have expired may be gone from the store. -/
structure Quiet (s s' : Identity) : Prop where
  now : s.now ≤ s'.now
  issued : s'.issued = s.issued
  revocations : s'.revocations = s.revocations
  logoutAlls : s'.logoutAlls = s.logoutAlls
  store : ∀ t, s'.now ≤ t → ∀ k, s'.store.lookup t k = s.store.lookup t k

theorem Quiet.refl (s : Identity) : Quiet s s := ⟨Nat.le_refl _, rfl, rfl, rfl, fun _ _ _ => rfl⟩

theorem Quiet.trans {s s₁ s₂ : Identity} (h : Quiet s s₁) (h' : Quiet s₁ s₂) : Quiet s s₂ where
  now := Nat.le_trans h.now h'.now
  issued := h'.issued.trans h.issued
  revocations := h'.revocations.trans h.revocations
  logoutAlls := h'.logoutAlls.trans h.logoutAlls
  store := fun t ht k => (h'.store t ht k).trans (h.store t (Nat.le_trans h'.now ht) k)

section
variable (settings : TokenSettings) (s : Identity)

theorem quiet_wait (elapsed : Nat) : Quiet s (s.wait elapsed) :=
  ⟨Nat.le_add_right _ _, rfl, rfl, rfl, fun _ _ _ => rfl⟩

theorem quiet_db (db : Db) : Quiet s { s with db := db } := ⟨Nat.le_refl _, rfl, rfl, rfl, fun _ _ _ => rfl⟩

private theorem quiet_purge (name : StoreKey) : Quiet s { s with store := s.store.purgeExpired s.now name } :=
  ⟨Nat.le_refl _, rfl, rfl, rfl, fun _ ht k => lookup_purgeExpired _ _ ht k⟩

theorem revokedExists_eq (jti : Nat) : s.revokedExists jti =
    ((s.store.lookup s.now (.revoked jti)).isSome,
      { s with store := s.store.purgeExpired s.now (.revoked jti) }) := by
  unfold revokedExists
  rw [existsKey_eq]

theorem revokedBefore_eq (userId : Nat) : s.revokedBefore userId =
    (s.store.lookup s.now (.revokedBefore userId),
      { s with store := s.store.purgeExpired s.now (.revokedBefore userId) }) := by
  unfold revokedBefore
  rw [get_eq]

/-- What `get_current_user` asks of a token. -/
structure Current (token : TokenPayload) (user : User) : Prop where
  decodes : decodeToken s.issued s.now token .access = some token
  notRevoked : s.store.lookup s.now (.revoked token.jti) = none
  notBefore : ∀ t : Nat, s.store.lookup s.now (.revokedBefore token.sub) = some t →
    (t : Int) ≤ tokenIssuedAt settings token
  user : s.db.user? token.sub = some user

/-- A request that only looks at the store. -/
def Looks (s s' : Identity) : Prop := ∃ store, s' = { s with store := store } ∧ Quiet s s'

theorem getCurrentUser_looks (credentials : Option TokenPayload) :
    Looks s (s.getCurrentUser settings credentials).2 := by
  unfold getCurrentUser
  cases credentials with
  | none => exact ⟨_, rfl, .refl s⟩
  | some token =>
    dsimp only
    cases decodeToken s.issued s.now token .access with
    | none => exact ⟨_, rfl, .refl s⟩
    | some payload =>
      dsimp only
      rw [revokedExists_eq]
      dsimp only
      split
      · exact ⟨_, rfl, quiet_purge s _⟩
      · rw [revokedBefore_eq]
        have hquiet := (quiet_purge s (.revoked payload.jti)).trans
          (quiet_purge _ (.revokedBefore payload.sub))
        dsimp only at hquiet ⊢
        split
        · exact ⟨_, rfl, hquiet⟩
        · split
          · exact ⟨_, rfl, hquiet⟩
          · exact ⟨_, rfl, hquiet⟩

theorem getCurrentUser_ok {credentials : Option TokenPayload} {user : User} {payload : TokenPayload} :
    (s.getCurrentUser settings credentials).1 = .ok (user, payload) ↔
      credentials = some payload ∧ s.Current settings payload user := by
  unfold getCurrentUser
  cases credentials with
  | none => simp
  | some token =>
    dsimp only
    cases hdecodes : decodeToken s.issued s.now token .access with
    | none =>
      refine iff_of_false (by simp) ?_
      rintro ⟨htoken, hcurrent⟩
      cases htoken
      rw [hcurrent.decodes] at hdecodes
      cases hdecodes
    | some payload' =>
      obtain ⟨rfl, -⟩ := decodeToken_eq_some.1 hdecodes
      dsimp only
      -- the three refusals in their order: revoked, issued before the logout of all sessions, no such user
      rw [revokedExists_eq]
      dsimp only
      rw [revokedBefore_eq]
      dsimp only
      rw [lookup_purgeExpired _ _ (Nat.le_refl _)]
      by_cases hrevoked : (s.store.lookup s.now (.revoked payload'.jti)).isSome = true
      · rw [if_pos hrevoked]
        refine iff_of_false (by simp) ?_
        rintro ⟨htoken, hcurrent⟩
        cases htoken
        rw [hcurrent.notRevoked] at hrevoked
        cases hrevoked
      rw [if_neg hrevoked]
      by_cases hbefore : ((s.store.lookup s.now (.revokedBefore payload'.sub)).any fun t =>
          tokenIssuedAt settings payload' < (t : Nat)) = true
      · rw [if_pos hbefore]
        refine iff_of_false (by simp) ?_
        rintro ⟨htoken, hcurrent⟩
        cases htoken
        obtain ⟨t, hlookup, hlt⟩ := (Option.any_eq_true _ _).1 hbefore
        have hle := hcurrent.notBefore t hlookup
        have hlt := of_decide_eq_true hlt
        omega
      rw [if_neg hbefore]
      cases huser : s.db.user? payload'.sub with
      | none =>
        refine iff_of_false (by simp) ?_
        rintro ⟨htoken, hcurrent⟩
        cases htoken
        rw [hcurrent.user] at huser
        cases huser
      | some found =>
        simp only [Except.ok.injEq, Prod.mk.injEq, Option.some.injEq]
        constructor
        · rintro ⟨rfl, rfl⟩
          refine ⟨rfl, hdecodes, by simpa using hrevoked, fun t hlookup => ?_, huser⟩
          rw [hlookup] at hbefore
          simpa using hbefore
        · rintro ⟨rfl, hcurrent⟩
          rw [hcurrent.user] at huser
          exact ⟨(Option.some.inj huser).symm, rfl⟩

/-- A refresh is refused and leaves everything as it was, or the token is usable and not known as revoked, is revoked,
and two tokens are issued for it. -/
theorem refreshToken_cases (cookie : Option TokenPayload) :
    ((s.refreshToken settings cookie).1.isOk = false ∧ Quiet s (s.refreshToken settings cookie).2 ∧
        ∀ payload, cookie = some payload → s.Usable s.now payload .refresh →
          (s.store.lookup s.now (.revoked payload.jti)).isSome) ∨
      ∃ payload user s₁, cookie = some payload ∧ decodeToken s.issued s.now payload .refresh = some payload ∧
        s.store.lookup s.now (.revoked payload.jti) = none ∧ s.db.user? payload.sub = some user ∧
        Quiet s s₁ ∧ s₁.now = s.now ∧ (s.refreshToken settings cookie).1.isOk = true ∧
        (s.refreshToken settings cookie).2 =
          (((s₁.revoke payload).issue settings user.id .refresh (some payload)).2.issue settings user.id .access
            (some payload)).2 := by
  unfold refreshToken
  cases cookie with
  | none => exact .inl ⟨rfl, .refl s, fun payload h => by cases h⟩
  | some token =>
    dsimp only
    cases hdecodes : decodeToken s.issued s.now token .refresh with
    | none =>
      refine .inl ⟨rfl, .refl s, fun payload htoken husable => ?_⟩
      cases htoken
      rw [husable.1] at hdecodes
      cases hdecodes
    | some payload =>
      obtain ⟨rfl, -⟩ := decodeToken_eq_some.1 hdecodes
      dsimp only
      rw [revokedExists_eq]
      dsimp only
      have hpurge := quiet_purge s (.revoked payload.jti)
      by_cases hrevoked : (s.store.lookup s.now (.revoked payload.jti)).isSome = true
      · rw [if_pos hrevoked]
        refine .inl ⟨rfl, hpurge, fun payload' htoken _ => ?_⟩
        cases htoken
        exact hrevoked
      rw [if_neg hrevoked]
      cases huser : s.db.user? payload.sub with
      | none =>
        refine .inl ⟨rfl, hpurge, fun payload' htoken husable => ?_⟩
        cases htoken
        have hsome := husable.2
        rw [huser] at hsome
        cases hsome
      | some user =>
        exact .inr ⟨payload, user, _, rfl, hdecodes, by simpa using hrevoked, huser, hpurge, rfl, rfl, rfl⟩

theorem logout_cases (credentials cookie : Option TokenPayload) :
    (s.logout settings credentials cookie).1.isOk = (s.getCurrentUser settings credentials).1.isOk ∧
      (Quiet s (s.logout settings credentials cookie).2 ∨
        ∃ payload s₁, decodeToken s.issued s.now payload .access = some payload ∧ Looks s s₁ ∧
          ((s.logout settings credentials cookie).2 = s₁.revoke payload ∨
            ∃ refreshPayload, decodeToken s.issued s.now refreshPayload .refresh = some refreshPayload ∧
              (s.logout settings credentials cookie).2 = (s₁.revoke payload).revoke refreshPayload)) := by
  have hlooks := s.getCurrentUser_looks settings credentials
  unfold logout
  cases hresult : s.getCurrentUser settings credentials with
  | mk result s₁ =>
    rw [hresult] at hlooks
    cases result with
    | error e => exact ⟨rfl, .inl hlooks.choose_spec.2⟩
    | ok found =>
      obtain ⟨user, payload⟩ := found
      have hok : (s.getCurrentUser settings credentials).1 = .ok (user, payload) := by rw [hresult]
      obtain ⟨-, hcurrent⟩ := (s.getCurrentUser_ok settings).1 hok
      dsimp only
      have hissued : (s₁.revoke payload).issued = s.issued ∧ (s₁.revoke payload).now = s.now := by
        obtain ⟨store, rfl, -⟩ := hlooks
        exact ⟨rfl, rfl⟩
      cases hrefresh : cookie.bind fun token =>
          decodeToken (s₁.revoke payload).issued (s₁.revoke payload).now token .refresh with
      | none => exact ⟨rfl, .inr ⟨payload, s₁, hcurrent.decodes, hlooks, .inl rfl⟩⟩
      | some refreshPayload =>
        obtain ⟨token, -, hdecodes⟩ := Option.bind_eq_some_iff.1 hrefresh
        rw [hissued.1, hissued.2] at hdecodes
        obtain ⟨rfl, -⟩ := decodeToken_eq_some.1 hdecodes
        exact ⟨rfl, .inr ⟨payload, s₁, hcurrent.decodes, hlooks, .inr ⟨refreshPayload, hdecodes, rfl⟩⟩⟩

/-- The state after a logout-all of the user. -/
def cutOff (s : Identity) (userId : Nat) : Identity :=
  { s with
    store := s.store.setex s.now (.revokedBefore userId) LOGOUT_ALL_SESSIONS_TTL_SECONDS s.now
    logoutAlls := (userId, s.now) :: s.logoutAlls }

theorem logoutAllSessions_cases (credentials : Option TokenPayload) :
    (s.logoutAllSessions settings credentials).1.isOk = (s.getCurrentUser settings credentials).1.isOk ∧
      (Quiet s (s.logoutAllSessions settings credentials).2 ∨
        ∃ userId s₁, Looks s s₁ ∧ (s.logoutAllSessions settings credentials).2 = s₁.cutOff userId) := by
  have hlooks := s.getCurrentUser_looks settings credentials
  unfold logoutAllSessions
  cases hresult : s.getCurrentUser settings credentials with
  | mk result s₁ =>
    rw [hresult] at hlooks
    cases result with
    | error e => exact ⟨rfl, .inl hlooks.choose_spec.2⟩
    | ok found => exact ⟨rfl, .inr ⟨found.1.id, s₁, hlooks, rfl⟩⟩

theorem login_cases (email password : String) :
    (s.login settings email password).2 = s ∨
      ∃ userId, (s.login settings email password).2 =
        ((s.issue settings userId .access none).2.issue settings userId .refresh none).2 := by
  unfold login
  split
  · exact .inl rfl
  · split
    · exact .inr ⟨_, rfl⟩
    · exact .inl rfl

/-- The WebSocket endpoint refuses a token that is not usable, and no other. -/
theorem jobStream_cases (jobId : Nat) (subprotocolToken query : Option TokenPayload) :
    Quiet s (s.jobStream settings jobId subprotocolToken query).2 ∧
      ((s.jobStream settings jobId subprotocolToken query).1 ≠ .closed 4401 ↔
        ¬ (settings.isProduction ∧ query.isSome ∧ subprotocolToken = none) ∧
          ∃ token, subprotocolToken.or query = some token ∧ s.Usable s.now token .access) := by
  unfold jobStream
  by_cases hquery : settings.isProduction ∧ query.isSome ∧ subprotocolToken = none
  · rw [if_pos hquery]
    exact ⟨.refl s, iff_of_false (by simp) fun h => h.1 hquery⟩
  rw [if_neg hquery]
  cases htoken : subprotocolToken.or query with
  | none =>
    refine ⟨.refl s, iff_of_false (by simp) ?_⟩
    rintro ⟨-, token, htoken', -⟩
    cases htoken'
  | some token =>
    dsimp only
    cases hdecodes : decodeToken s.issued s.now token .access with
    | none =>
      refine ⟨.refl s, iff_of_false (by simp) ?_⟩
      rintro ⟨-, token', htoken', husable⟩
      cases htoken'
      rw [husable.1] at hdecodes
      cases hdecodes
    | some payload =>
      obtain ⟨rfl, -⟩ := decodeToken_eq_some.1 hdecodes
      dsimp only
      cases huser : s.db.user? payload.sub with
      | none =>
        refine ⟨.refl s, iff_of_false (by simp) ?_⟩
        rintro ⟨-, token', htoken', husable⟩
        cases htoken'
        have hsome := husable.2
        rw [huser] at hsome
        cases hsome
      | some user =>
        dsimp only
        have husable : s.Usable s.now payload .access := ⟨hdecodes, by rw [huser]; rfl⟩
        -- nothing after the token closes with 4401
        have haccepts : ¬ (settings.isProduction ∧ query.isSome ∧ subprotocolToken = none) ∧
            ∃ token, some payload = some token ∧ s.Usable s.now token .access := ⟨hquery, payload, rfl, husable⟩
        split
        · exact ⟨.refl s, iff_of_true (by simp) haccepts⟩
        · split
          · exact ⟨.refl s, iff_of_true (by simp) haccepts⟩
          · split
            · exact ⟨quiet_db s _, iff_of_true (by simp) haccepts⟩
            · exact ⟨quiet_db s _, iff_of_true (by simp) haccepts⟩

end

/-! ### The invariant -/

/-- The store keeps the record of every revocation for as long as the token decodes, and that of every logout-all until
it runs out; and what a logout-all has ended was issued before it. -/
structure Orderly (settings : TokenSettings) (s : Identity) : Prop where
  issuedBy : ∀ t ∈ s.issued, t.issuedAt ≤ s.now
  exp : ∀ t ∈ s.issued, t.payload.exp = inSeconds t.issuedAt + settings.expiresDelta t.payload.tokenType
  jtis : (s.issued.map fun t => t.payload.jti).Nodup
  jtiLt : ∀ t ∈ s.issued, t.payload.jti < s.issued.length
  lineage : ∀ t ∈ s.issued, ∀ parent, t.refreshedFrom = some parent → parent.sub = t.payload.sub
  revoked : ∀ t ∈ s.issued, t.payload.jti ∈ s.revocations → ∀ later, s.now ≤ later →
    t.payload.expired later = false → (s.store.lookup later (.revoked t.payload.jti)).isSome
  recorded : ∀ jti later, s.now ≤ later → (s.store.lookup later (.revoked jti)).isSome → jti ∈ s.revocations
  known : ∀ jti ∈ s.revocations, jti < s.issued.length
  loggedOut : ∀ userId T, (userId, T) ∈ s.logoutAlls → T ≤ s.now ∧ ∀ later, s.now ≤ later →
    later < T + seconds LOGOUT_ALL_SESSIONS_TTL_SECONDS →
      ∃ T', T ≤ T' ∧ s.store.lookup later (.revokedBefore userId) = some T'
  severed : ∀ userId T, (userId, T) ∈ s.logoutAlls → ∀ token, Stale s.issued T token → token.sub = userId →
    ∃ t ∈ s.issued, t.payload = token ∧ t.issuedAt < T

theorem orderly_started (settings : TokenSettings) (db : Db) (now : Time) : (started db now).Orderly settings where
  issuedBy := fun t h => by cases h
  exp := fun t h => by cases h
  jtis := List.nodup_nil
  jtiLt := fun t h => by cases h
  lineage := fun t h => by cases h
  revoked := fun t h => by cases h
  recorded := fun jti later _ h => by cases h
  known := fun jti h => by cases h
  loggedOut := fun userId T h => by cases h
  severed := fun userId T h => by cases h

section
variable {settings : TokenSettings} {s : Identity}

theorem Orderly.quiet (h : s.Orderly settings) {s' : Identity} (hquiet : Quiet s s') : s'.Orderly settings where
  issuedBy := fun t ht => Nat.le_trans (h.issuedBy t (hquiet.issued ▸ ht)) hquiet.now
  exp := fun t ht => h.exp t (hquiet.issued ▸ ht)
  jtis := hquiet.issued ▸ h.jtis
  jtiLt := fun t ht => by
    rw [hquiet.issued] at ht ⊢
    exact h.jtiLt t ht
  lineage := fun t ht => h.lineage t (hquiet.issued ▸ ht)
  revoked := fun t ht hmem later hlater hexpired => by
    rw [hquiet.issued] at ht
    rw [hquiet.revocations] at hmem
    rw [hquiet.store later hlater]
    exact h.revoked t ht hmem later (Nat.le_trans hquiet.now hlater) hexpired
  recorded := fun jti later hlater hsome => by
    rw [hquiet.store later hlater] at hsome
    rw [hquiet.revocations]
    exact h.recorded jti later (Nat.le_trans hquiet.now hlater) hsome
  known := fun jti hmem => by
    rw [hquiet.revocations] at hmem
    rw [hquiet.issued]
    exact h.known jti hmem
  loggedOut := fun userId T hmem => by
    rw [hquiet.logoutAlls] at hmem
    obtain ⟨hle, hkept⟩ := h.loggedOut userId T hmem
    refine ⟨Nat.le_trans hle hquiet.now, fun later hlater hlt => ?_⟩
    rw [hquiet.store later hlater]
    exact hkept later (Nat.le_trans hquiet.now hlater) hlt
  severed := fun userId T hmem token hstale hsub => by
    rw [hquiet.logoutAlls] at hmem
    rw [hquiet.issued] at hstale ⊢
    exact h.severed userId T hmem token hstale hsub

/-- Tokens of one `jti` are one. -/
theorem Orderly.eq_of_jti (h : s.Orderly settings) {t t' : IssuedToken} (ht : t ∈ s.issued) (ht' : t' ∈ s.issued)
    (hjti : t.payload.jti = t'.payload.jti) : t = t' :=
  List.inj_on_of_nodup_map h.jtis ht ht' hjti

theorem Orderly.revoke (h : s.Orderly settings) {t : IssuedToken} (ht : t ∈ s.issued) :
    (s.revoke t.payload).Orderly settings where
  issuedBy := h.issuedBy
  exp := h.exp
  jtis := h.jtis
  jtiLt := h.jtiLt
  lineage := h.lineage
  revoked := fun t' ht' hmem later hlater hexpired => by
    unfold Identity.revoke at hmem ⊢
    dsimp only at hmem ⊢
    by_cases hjti : t'.payload.jti = t.payload.jti
    · obtain rfl := h.eq_of_jti ht' ht hjti
      rw [lookup_setex_self, if_pos]
      · rfl
      · exact lt_kept s.now hexpired
    · rw [lookup_setex_of_ne _ _ _ (by simpa using hjti)]
      exact h.revoked t' ht' (by simpa [hjti] using hmem) later hlater hexpired
  recorded := fun jti later hlater hsome => by
    unfold Identity.revoke at hsome ⊢
    dsimp only at hsome ⊢
    by_cases hjti : jti = t.payload.jti
    · exact hjti ▸ List.mem_cons_self
    · rw [lookup_setex_of_ne _ _ _ (by simpa using hjti)] at hsome
      exact List.mem_cons_of_mem _ (h.recorded jti later hlater hsome)
  known := fun jti hmem => by
    rcases List.mem_cons.1 hmem with rfl | hmem
    · exact h.jtiLt t ht
    · exact h.known jti hmem
  loggedOut := fun userId T hmem => by
    obtain ⟨hle, hkept⟩ := h.loggedOut userId T hmem
    refine ⟨hle, fun later hlater hlt => ?_⟩
    unfold Identity.revoke
    dsimp only
    rw [lookup_setex_of_ne _ _ _ (by simp)]
    exact hkept later hlater hlt
  severed := h.severed

theorem Orderly.cutOff (h : s.Orderly settings) (userId : Nat) : (s.cutOff userId).Orderly settings where
  issuedBy := h.issuedBy
  exp := h.exp
  jtis := h.jtis
  jtiLt := h.jtiLt
  lineage := h.lineage
  revoked := fun t ht hmem later hlater hexpired => by
    unfold Identity.cutOff
    dsimp only
    rw [lookup_setex_of_ne _ _ _ (by simp)]
    exact h.revoked t ht hmem later hlater hexpired
  recorded := fun jti later hlater hsome => by
    unfold Identity.cutOff at hsome
    dsimp only at hsome
    rw [lookup_setex_of_ne _ _ _ (by simp)] at hsome
    exact h.recorded jti later hlater hsome
  known := h.known
  loggedOut := fun userId' T hmem => by
    have hle : T ≤ s.now := by
      rcases List.mem_cons.1 hmem with heq | hmem
      · cases heq
        exact Nat.le_refl _
      · exact (h.loggedOut userId' T hmem).1
    refine ⟨hle, fun later hlater hlt => ?_⟩
    unfold Identity.cutOff at hmem ⊢
    dsimp only at hmem ⊢
    by_cases huser : userId' = userId
    · -- the new record is a later one, and is kept longer
      subst huser
      refine ⟨s.now, hle, ?_⟩
      rw [lookup_setex_self, if_pos]
      exact Nat.lt_of_lt_of_le hlt (Nat.add_le_add hle (Nat.le_refl _))
    · rw [lookup_setex_of_ne _ _ _ (by simpa using huser)]
      exact (h.loggedOut userId' T (by simpa [huser] using hmem)).2 later hlater hlt
  severed := fun userId' T hmem token hstale hsub => by
    rcases List.mem_cons.1 hmem with heq | hmem
    · cases heq
      -- nothing was issued after this moment
      cases hstale with
      | issuedBefore t ht hlt => exact ⟨t, ht, rfl, hlt⟩
      | refreshed t parent ht hlt => exact absurd (h.issuedBy t ht) (Nat.not_le.2 hlt)
    · exact h.severed userId' T hmem token hstale hsub

/-- One token more ends no token of the user that was not ended before, unless it was given for an ended one. -/
private theorem stale_cons {issued : List IssuedToken} {T : Time} {new : IssuedToken} {userId : Nat}
    (hT : T ≤ new.issuedAt)
    (hlineage : ∀ t ∈ new :: issued, ∀ parent, t.refreshedFrom = some parent → parent.sub = t.payload.sub)
    (hparent : ∀ parent, new.refreshedFrom = some parent → parent.sub = userId → ¬ Stale issued T parent)
    {token : TokenPayload} (h : Stale (new :: issued) T token) : token.sub = userId → Stale issued T token := by
  induction h with
  | issuedBefore t ht hlt =>
    intro _
    rcases List.mem_cons.1 ht with rfl | ht
    · exact absurd hT (Nat.not_le.2 hlt)
    · exact .issuedBefore t ht hlt
  | refreshed t parent ht hlt hfrom _ ih =>
    intro hsub
    have hstale := ih ((hlineage t ht parent hfrom).trans hsub)
    rcases List.mem_cons.1 ht with rfl | ht
    · exact absurd hstale (hparent parent hfrom ((hlineage _ List.mem_cons_self parent hfrom).trans hsub))
    · exact .refreshed t parent ht hlt hfrom hstale

/-- A new token keeps the invariant unless it was given for one that a logout-all has ended. -/
theorem Orderly.issue (h : s.Orderly settings) {subject : Nat} {tokenType : TokenType}
    {refreshedFrom : Option TokenPayload}
    (hparent : ∀ parent, refreshedFrom = some parent → parent.sub = subject ∧ ¬ s.LoggedOut parent) :
    (s.issue settings subject tokenType refreshedFrom).2.Orderly settings where
  issuedBy := fun t ht => by
    rcases List.mem_cons.1 ht with rfl | ht
    · exact Nat.le_refl _
    · exact h.issuedBy t ht
  exp := fun t ht => by
    rcases List.mem_cons.1 ht with rfl | ht
    · exact inSeconds_add_seconds _ _
    · exact h.exp t ht
  jtis := by
    refine List.nodup_cons.2 ⟨fun hmem => ?_, h.jtis⟩
    obtain ⟨t, ht, hjti⟩ := List.mem_map.1 hmem
    have hlt := h.jtiLt t ht
    rw [hjti] at hlt
    exact absurd hlt (Nat.lt_irrefl _)
  jtiLt := fun t ht => by
    rcases List.mem_cons.1 ht with rfl | ht
    · exact Nat.lt_succ_self _
    · exact Nat.lt_succ_of_lt (h.jtiLt t ht)
  lineage := fun t ht parent hfrom => by
    rcases List.mem_cons.1 ht with rfl | ht
    · exact (hparent parent hfrom).1
    · exact h.lineage t ht parent hfrom
  revoked := fun t ht hmem later hlater hexpired => by
    rcases List.mem_cons.1 ht with rfl | ht
    · exact absurd (h.known _ hmem) (Nat.lt_irrefl _)
    · exact h.revoked t ht hmem later hlater hexpired
  recorded := h.recorded
  known := fun jti hmem => Nat.lt_succ_of_lt (h.known jti hmem)
  loggedOut := h.loggedOut
  severed := fun userId T hmem token hstale hsub => by
    have hT := (h.loggedOut userId T hmem).1
    have hold : Stale s.issued T token := by
      refine stale_cons hT (fun t ht parent hfrom => ?_) (fun parent hfrom hparentSub hparentStale => ?_) hstale hsub
      · rcases List.mem_cons.1 ht with rfl | ht
        · exact (hparent parent hfrom).1
        · exact h.lineage t ht parent hfrom
      · exact (hparent parent hfrom).2 ⟨T, hparentSub ▸ hmem, hparentStale⟩
    obtain ⟨t, ht, htoken, hlt⟩ := h.severed userId T hmem token hold hsub
    exact ⟨t, List.mem_cons_of_mem _ ht, htoken, hlt⟩

/-- With the invariant, what a logout-all has ended is what was issued before it. -/
theorem Orderly.loggedOut_iff (h : s.Orderly settings) {token : TokenPayload} : s.LoggedOut token ↔
    ∃ T, (token.sub, T) ∈ s.logoutAlls ∧ ∃ t ∈ s.issued, t.payload = token ∧ t.issuedAt < T := by
  constructor
  · rintro ⟨T, hmem, hstale⟩
    exact ⟨T, hmem, h.severed _ T hmem token hstale rfl⟩
  · rintro ⟨T, hmem, t, ht, rfl, hlt⟩
    exact ⟨T, hmem, .issuedBefore t ht hlt⟩

theorem Orderly.not_loggedOut_issue (h : s.Orderly settings) {subject : Nat} {tokenType : TokenType}
    {parent : TokenPayload} (hsub : parent.sub = subject) (hnot : ¬ s.LoggedOut parent) :
    ¬ (s.issue settings subject tokenType (some parent)).2.LoggedOut parent := by
  intro hout
  have hnext : (s.issue settings subject tokenType (some parent)).2.Orderly settings := by
    refine h.issue fun parent' hfrom => ?_
    cases hfrom
    exact ⟨hsub, hnot⟩
  obtain ⟨T, hmem, t, ht, htoken, hlt⟩ := hnext.loggedOut_iff.1 hout
  rcases List.mem_cons.1 ht with rfl | ht
  · exact absurd (h.loggedOut _ T hmem).1 (Nat.not_le.2 hlt)
  · exact hnot (h.loggedOut_iff.2 ⟨T, hmem, t, ht, htoken, hlt⟩)

private theorem kept_arith' {now issuedAt T lifetime exp : Nat} (hexp : exp = issuedAt / 1000000 + lifetime)
    (hnow : now < (exp + 1) * 1000000) (hT : issuedAt < T) (hlife : lifetime < 2592000) :
    now < T + 2592000 * 1000000 := by omega

private theorem issuedAt_arith {issuedAt T T' lifetime exp : Nat} (hexp : exp = issuedAt / 1000000 + lifetime)
    (hT : issuedAt < T) (hT' : T ≤ T') : ¬ (T' : Int) ≤ ((exp : Int) - lifetime) * 1000000 := by omega

/-- `get_current_user` accepts no dead token, as long as access tokens live shorter than the record of a logout-all. -/
theorem Orderly.current_not_dead (h : s.Orderly settings)
    (hlife : settings.jwtAccessTokenExpireMinutes * 60 < LOGOUT_ALL_SESSIONS_TTL_SECONDS) {token : TokenPayload}
    {user : User} (hcurrent : s.Current settings token user) : ¬ s.Dead token := by
  obtain ⟨-, ⟨t, ht, rfl⟩, hexpired, htype⟩ := decodeToken_eq_some.1 hcurrent.decodes
  rintro (hrevoked | hout)
  · have hsome := h.revoked t ht hrevoked s.now (Nat.le_refl _) hexpired
    rw [hcurrent.notRevoked] at hsome
    cases hsome
  · obtain ⟨T, hmem, t', ht', hpayload, hlt⟩ := h.loggedOut_iff.1 hout
    have hexp := h.exp t' ht'
    rw [hpayload, htype] at hexp
    have hkept : s.now < T + seconds LOGOUT_ALL_SESSIONS_TTL_SECONDS :=
      kept_arith' hexp (lt_of_not_expired hexpired) hlt hlife
    obtain ⟨T', hT', hlookup⟩ := (h.loggedOut _ T hmem).2 s.now (Nat.le_refl _) hkept
    exact issuedAt_arith hexp hlt hT' (hcurrent.notBefore T' hlookup)

theorem Orderly.not_revoked (h : s.Orderly settings) {token : TokenPayload} {tokenType : TokenType}
    (hdecodes : decodeToken s.issued s.now token tokenType = some token)
    (hlookup : s.store.lookup s.now (.revoked token.jti) = none) : token.jti ∉ s.revocations := by
  obtain ⟨-, ⟨t, ht, rfl⟩, hexpired, -⟩ := decodeToken_eq_some.1 hdecodes
  intro hrevoked
  have hsome := h.revoked t ht hrevoked s.now (Nat.le_refl _) hexpired
  rw [hlookup] at hsome
  cases hsome

end

/-! ### One request, and a history -/

section
variable {settings : TokenSettings} {s : Identity}

theorem Orderly.step (h : s.Orderly settings) (arrival : Arrival) (hspared : s.Spared settings arrival) :
    (s.step settings arrival).Orderly settings := by
  obtain ⟨elapsed, request⟩ := arrival
  -- time alone keeps the order; then one case for each request
  have hwait := h.quiet (s.quiet_wait elapsed)
  unfold Identity.step handle
  dsimp only
  cases request with
  | login email password =>
    dsimp only
    rcases login_cases settings (s.wait elapsed) email password with heq | ⟨userId, heq⟩
    · rw [heq]
      exact hwait
    · rw [heq]
      have hfirst : ((s.wait elapsed).issue settings userId .access none).2.Orderly settings :=
        hwait.issue fun parent h => by cases h
      exact hfirst.issue fun parent h => by cases h
  | refresh cookie =>
    dsimp only
    rcases refreshToken_cases settings (s.wait elapsed) cookie with
      ⟨-, hquiet, -⟩ | ⟨payload, user, s₁, rfl, hdecodes, hlookup, huser, hquiet, -, -, heq⟩
    · exact hwait.quiet hquiet
    · rw [heq]
      have hsub : payload.sub = user.id := (Table.key_of_get? huser).symm
      -- a refresh passes on what its token carries, so the token must not be one that was logged out
      have hnot : ¬ s.LoggedOut payload := fun hout =>
        hwait.not_revoked hdecodes hlookup (hspared ⟨hdecodes, by rw [show s.db.user? payload.sub = _ from huser]; rfl⟩ hout)
      obtain ⟨-, ⟨t, ht, rfl⟩, -⟩ := decodeToken_eq_some.1 hdecodes
      have h₁ := hwait.quiet hquiet
      have hrevoked := h₁.revoke (t := t) (by rw [hquiet.issued]; exact ht)
      have hnot₁ : ¬ (s₁.revoke t.payload).LoggedOut t.payload := by
        rintro ⟨T, hmem, hstale⟩
        refine hnot ⟨T, ?_, ?_⟩
        · exact hquiet.logoutAlls ▸ hmem
        · have hissued : (s₁.revoke t.payload).issued = s.issued := hquiet.issued
          exact hissued ▸ hstale
      have hfirst : ((s₁.revoke t.payload).issue settings user.id .refresh (some t.payload)).2.Orderly settings :=
        hrevoked.issue fun parent hfrom => by
          cases hfrom
          exact ⟨hsub, hnot₁⟩
      exact hfirst.issue fun parent hfrom => by
        cases hfrom
        exact ⟨hsub, hrevoked.not_loggedOut_issue hsub hnot₁⟩
  | logout credentials cookie =>
    dsimp only
    rcases (logout_cases settings (s.wait elapsed) credentials cookie).2 with
      hquiet | ⟨payload, s₁, hdecodes, ⟨_, _, hquiet⟩, heq⟩
    · exact hwait.quiet hquiet
    · obtain ⟨-, ⟨t, ht, rfl⟩, -⟩ := decodeToken_eq_some.1 hdecodes
      have hrevoked := (hwait.quiet hquiet).revoke (t := t) (by rw [hquiet.issued]; exact ht)
      rcases heq with heq | ⟨refreshPayload, hrefresh, heq⟩
      · rw [heq]
        exact hrevoked
      · obtain ⟨-, ⟨t', ht', rfl⟩, -⟩ := decodeToken_eq_some.1 hrefresh
        rw [heq]
        exact hrevoked.revoke (t := t') (by rw [show (s₁.revoke t.payload).issued = _ from hquiet.issued]; exact ht')
  | logoutAll credentials =>
    dsimp only
    rcases (logoutAllSessions_cases settings (s.wait elapsed) credentials).2 with
      hquiet | ⟨userId, s₁, ⟨_, _, hquiet⟩, heq⟩
    · exact hwait.quiet hquiet
    · rw [heq]
      exact (hwait.quiet hquiet).cutOff userId
  | endpoint credentials =>
    obtain ⟨_, _, hquiet⟩ := getCurrentUser_looks settings (s.wait elapsed) credentials
    exact hwait.quiet hquiet
  | jobStream jobId subprotocolToken query =>
    exact hwait.quiet (jobStream_cases settings (s.wait elapsed) jobId subprotocolToken query).1

/-- An endpoint that depends on `get_current_user` accepts no dead token. -/
private theorem Orderly.authenticated (h : s.Orderly settings)
    (hlife : settings.jwtAccessTokenExpireMinutes * 60 < LOGOUT_ALL_SESSIONS_TTL_SECONDS)
    {credentials : Option TokenPayload} {accepts : Bool} (haccepts : accepts = (s.getCurrentUser settings credentials).1.isOk)
    {token : TokenPayload} (htoken : (if accepts then credentials else none) = some token) : ¬ s.Dead token := by
  cases hresult : (s.getCurrentUser settings credentials).1 with
  | error e =>
    rw [haccepts, hresult] at htoken
    cases htoken
  | ok found =>
    obtain ⟨user, payload⟩ := found
    obtain ⟨rfl, hcurrent⟩ := (s.getCurrentUser_ok settings).1 hresult
    rw [haccepts, hresult] at htoken
    cases htoken
    exact h.current_not_dead hlife hcurrent

/-- A request gets no dead token accepted exactly when it is spared. -/
theorem Orderly.spared_iff (h : s.Orderly settings)
    (hlife : settings.jwtAccessTokenExpireMinutes * 60 < LOGOUT_ALL_SESSIONS_TTL_SECONDS) (arrival : Arrival) :
    s.Spared settings arrival ↔ s.Complete settings arrival := by
  obtain ⟨elapsed, request⟩ := arrival
  have hwait := h.quiet (s.quiet_wait elapsed)
  unfold Spared Complete accepted
  dsimp only
  cases request with
  | login email password => exact iff_of_true trivial fun token htoken => by cases htoken
  | refresh cookie =>
    dsimp only
    rcases refreshToken_cases settings (s.wait elapsed) cookie with
      ⟨hok, -, hrefused⟩ | ⟨payload, user, s₁, rfl, hdecodes, hlookup, huser, -, -, hok, -⟩
    · rw [hok]
      refine iff_of_true ?_ fun token htoken => by cases htoken
      cases cookie with
      | none => trivial
      | some token =>
        intro husable _
        exact hwait.recorded _ _ (Nat.le_refl _) (hrefused token rfl husable)
    · rw [hok, if_pos rfl]
      have hnot : payload.jti ∉ s.revocations := hwait.not_revoked hdecodes hlookup
      -- a refresh does not read the marker, so an accepted token may be logged out but not revoked
      have husable : s.Usable (s.now + elapsed) payload .refresh :=
        ⟨hdecodes, by rw [show s.db.user? payload.sub = _ from huser]; rfl⟩
      constructor
      · intro hspared token htoken hdead
        cases htoken
        exact hdead.elim hnot fun hout => hnot (hspared husable hout)
      · intro hcomplete _ hout
        exact absurd (.inr hout) (hcomplete payload rfl)
  | logout credentials cookie =>
    exact iff_of_true trivial fun token htoken => hwait.authenticated hlife
      (logout_cases settings (s.wait elapsed) credentials cookie).1 htoken
  | logoutAll credentials =>
    exact iff_of_true trivial fun token htoken => hwait.authenticated hlife
      (logoutAllSessions_cases settings (s.wait elapsed) credentials).1 htoken
  | endpoint credentials => exact iff_of_true trivial fun token htoken => hwait.authenticated hlife rfl htoken
  | jobStream jobId subprotocolToken query =>
    dsimp only
    have haccepts := (jobStream_cases settings (s.wait elapsed) jobId subprotocolToken query).2
    -- the stream accepts whatever it does not close
    by_cases hclosed : ((s.wait elapsed).jobStream settings jobId subprotocolToken query).1 = .closed 4401
    · rw [if_pos hclosed]
      refine iff_of_true ?_ fun token htoken => by cases htoken
      by_cases hquery : settings.isProduction ∧ query.isSome ∧ subprotocolToken = none
      · exact .inl hquery
      · refine .inr fun token htoken husable => ?_
        exact absurd hclosed (haccepts.2 ⟨hquery, token, htoken, husable⟩)
    · rw [if_neg hclosed]
      obtain ⟨hquery, token, htoken, husable⟩ := haccepts.1 hclosed
      constructor
      · intro hspared token' htoken'
        rw [htoken] at htoken'
        cases htoken'
        exact (hspared.resolve_left hquery) token htoken husable
      · exact fun hcomplete => .inr fun token' htoken' _ => hcomplete token' htoken'

end

/-- A history gets no dead token accepted anywhere exactly when all its requests are spared. -/
theorem logout_all_complete_iff (settings : TokenSettings)
    (hlife : settings.jwtAccessTokenExpireMinutes * 60 < LOGOUT_ALL_SESSIONS_TTL_SECONDS) (db : Db) (now : Time)
    (history : List Arrival) :
    Steps (Identity.step settings) (Spared settings) (started db now) history ↔
      Steps (Identity.step settings) (Complete settings) (started db now) history :=
  steps_congr_of (I := fun s : Identity => s.Orderly settings) (fun _ arrival h => h.step arrival)
    (fun _ arrival h => h.spared_iff hlife arrival) (orderly_started settings db now)

end Identity

namespace Small

def tokenSettings : TokenSettings := ⟨15, 7, true, fun _ password => password = "secret"⟩

/-- One user, who can sign in. -/
def signInDb : Db := { Db.empty with users := [⟨1, "owner@x.io", false, true⟩] }

def firstAccess : TokenPayload := ⟨1, 900, 0, .access⟩

def firstRefresh : TokenPayload := ⟨1, 604800, 1, .refresh⟩

/-- The user signs in, logs out of all sessions, and a client comes with a token of the session that is over. -/
def signedOutEverywhere (request : AuthRequest) : List Arrival :=
  [⟨0, .login "owner@x.io" "secret"⟩, ⟨1000000, .logoutAll (some firstAccess)⟩, ⟨1000000, request⟩]

end Small

open Identity

set_option maxRecDepth 100000 in
/-- A logout-all leaves the refresh tokens as good as they were. -/
theorem refreshed_after_logout_all : ¬ Steps (Identity.step Small.tokenSettings) (Complete Small.tokenSettings)
    (started Small.signInDb 0) (Small.signedOutEverywhere (.refresh (some Small.firstRefresh))) := by
  intro h
  let s := run (Identity.step Small.tokenSettings) (started Small.signInDb 0)
    ((Small.signedOutEverywhere (.refresh (some Small.firstRefresh))).take 2)
  have haccepted : (s.wait 1000000).accepted Small.tokenSettings (.refresh (some Small.firstRefresh)) =
      some Small.firstRefresh := by decide +kernel
  have hout : (1, 1000000) ∈ s.logoutAlls := by decide +kernel
  have hissued : (⟨Small.firstRefresh, 0, none⟩ : IssuedToken) ∈ s.issued := by decide +kernel
  exact h.2.2.1 Small.firstRefresh haccepted (.inr ⟨1000000, hout, .issuedBefore _ hissued (by decide)⟩)

/-- The endpoints refuse the access token of that session. -/
theorem refused_after_logout_all : Steps (Identity.step Small.tokenSettings) (Complete Small.tokenSettings)
    (started Small.signInDb 0) (Small.signedOutEverywhere (.endpoint (some Small.firstAccess))) :=
  (logout_all_complete_iff Small.tokenSettings (by decide) Small.signInDb 0 _).1 ⟨trivial, trivial, trivial, trivial⟩

end ControlPlane
