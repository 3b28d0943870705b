import ControlPlane.Identity.RefreshRace

/-!
# What a request does to the tokens

Whatever the entry point, a request looks at the store, revokes tokens it was sent, issues tokens, and cuts off the
sessions of the user who asked for it; `handle_acts` says so once for all of them, and
`refreshPhase_acts` for the single steps of a refresh.  From it follow the invariant that a
`jti` is given once and recorded only after it was given, that a token that was redeemed stays spent, and that a good
token stays good unless a request carries it or cuts its user off.
-/

namespace ControlPlane

open InMemoryTokenStore

/-- The tokens that the request may revoke. -/
def AuthRequest.revokes : AuthRequest → List TokenPayload
  | .refresh cookie => cookie.toList
  | .logout credentials cookie => credentials.toList ++ cookie.toList
  | _ => []

/-- The user whose sessions the request may end. -/
def AuthRequest.cutsOff : AuthRequest → Option Nat
  | .logoutAll credentials => credentials.map TokenPayload.sub
  | _ => none

namespace Identity

/-- What a request does, act by act: it revokes tokens of `R` only, and cuts off users of `C` only. -/
inductive Acts (settings : TokenSettings) (R : TokenPayload → Prop) (C : Nat → Prop) : Identity → Identity → Prop
  | done (s : Identity) : Acts settings R C s s
  | looks {s s₁ s' : Identity} : Acts settings R C s s₁ → Quiet s₁ s' → s'.db.users = s₁.db.users →
      Acts settings R C s s'
  | revokes {s s₁ : Identity} (t : IssuedToken) : Acts settings R C s s₁ → t ∈ s₁.issued → R t.payload →
      Acts settings R C s (s₁.revoke t.payload)
  | issues {s s₁ : Identity} (userId : Nat) (tokenType : TokenType) (parent : Option TokenPayload) :
      Acts settings R C s s₁ → Acts settings R C s (s₁.issue settings userId tokenType parent).2
  | cutsOff {s s₁ : Identity} (userId : Nat) : Acts settings R C s s₁ → C userId →
      Acts settings R C s (s₁.cutOff userId)

section
variable {settings : TokenSettings} {R : TokenPayload → Prop} {C : Nat → Prop} {s : Identity}

/-- The rule for what each act keeps. -/
theorem Acts.keeps {I : Identity → Prop} (hlooks : ∀ s s', I s → Quiet s s' → s'.db.users = s.db.users → I s')
    (hrevokes : ∀ s t, I s → t ∈ s.issued → R t.payload → I (s.revoke t.payload))
    (hissues : ∀ s userId tokenType parent, I s → I (s.issue settings userId tokenType parent).2)
    (hcutsOff : ∀ s userId, I s → C userId → I (s.cutOff userId)) {s' : Identity} (h : Acts settings R C s s')
    (hs : I s) : I s' := by
  induction h with
  | done => exact hs
  | looks _ hquiet husers ih => exact hlooks _ _ ih hquiet husers
  | revokes t _ ht hR ih => exact hrevokes _ t ih ht hR
  | issues userId tokenType parent _ ih => exact hissues _ userId tokenType parent ih
  | cutsOff userId _ hC ih => exact hcutsOff _ userId ih hC

theorem Acts.mono {R' : TokenPayload → Prop} {C' : Nat → Prop} (hR : ∀ token, R token → R' token)
    (hC : ∀ userId, C userId → C' userId) {s' : Identity} (h : Acts settings R C s s') : Acts settings R' C' s s' := by
  induction h with
  | done => exact .done s
  | looks _ hquiet husers ih => exact .looks ih hquiet husers
  | revokes t _ ht hrevokes ih => exact .revokes t ih ht (hR _ hrevokes)
  | issues userId tokenType parent _ ih => exact .issues userId tokenType parent ih
  | cutsOff userId _ hcutsOff ih => exact .cutsOff userId ih (hC _ hcutsOff)

theorem Acts.of_looks {s' : Identity} (h : Looks s s') : Acts settings R C s s' := by
  obtain ⟨store, rfl, hquiet⟩ := h
  exact .looks (.done s) hquiet rfl

theorem acts_wait (settings : TokenSettings) (s : Identity) (elapsed : Nat) :
    Acts settings (fun _ => False) (fun _ => False) s (s.wait elapsed) := .looks (.done s) (s.quiet_wait elapsed) rfl

end

/-! ### One act sequence for each entry point -/

section
variable (settings : TokenSettings) (s : Identity)

theorem getCurrentUser_acts (R : TokenPayload → Prop) (C : Nat → Prop) (credentials : Option TokenPayload) :
    Acts settings R C s (s.getCurrentUser settings credentials).2 :=
  .of_looks (getCurrentUser_looks settings s credentials)

theorem login_acts (R : TokenPayload → Prop) (C : Nat → Prop) (email password : String) :
    Acts settings R C s (s.login settings email password).2 := by
  rcases login_cases settings s email password with heq | ⟨userId, heq⟩
  · rw [heq]
    exact .done s
  · rw [heq]
    exact .issues _ _ _ (.issues _ _ _ (.done s))

theorem refreshToken_acts (C : Nat → Prop) (cookie : Option TokenPayload) :
    Acts settings (fun token => cookie = some token) C s (s.refreshToken settings cookie).2 := by
  unfold refreshToken
  cases cookie with
  | none => exact .done s
  | some token =>
    dsimp only
    cases hdecodes : decodeToken s.issued s.now token .refresh with
    | none => exact .done s
    | some payload =>
      obtain ⟨rfl, ⟨t, ht, rfl⟩, -⟩ := decodeToken_eq_some.1 hdecodes
      dsimp only
      rw [revokedExists_eq]
      dsimp only
      have hlooks : Acts settings (fun token => some t.payload = some token) C s
          { s with store := s.store.purgeExpired s.now (.revoked t.payload.jti) } :=
        .looks (.done s) ⟨Nat.le_refl _, rfl, rfl, rfl, fun _ hlater k => lookup_purgeExpired _ _ hlater k⟩ rfl
      split
      · exact hlooks
      · cases s.db.user? t.payload.sub with
        | none => exact hlooks
        | some user => exact .issues _ _ _ (.issues _ _ _ (.revokes t hlooks ht rfl))

theorem logout_acts (C : Nat → Prop) (credentials cookie : Option TokenPayload) :
    Acts settings (fun token => credentials = some token ∨ cookie = some token) C s
      (s.logout settings credentials cookie).2 := by
  have hlooks := getCurrentUser_looks settings s credentials
  unfold logout
  cases hresult : s.getCurrentUser settings credentials with
  | mk result s₁ =>
    rw [hresult] at hlooks
    have hacts : Acts settings (fun token => credentials = some token ∨ cookie = some token) C s s₁ := .of_looks hlooks
    cases result with
    | error e => exact hacts
    | ok found =>
      obtain ⟨user, payload⟩ := found
      obtain ⟨rfl, hcurrent⟩ := (s.getCurrentUser_ok settings).1 (by rw [hresult] :
        (s.getCurrentUser settings credentials).1 = .ok (user, payload))
      obtain ⟨-, ⟨t, ht, rfl⟩, -⟩ := decodeToken_eq_some.1 hcurrent.decodes
      have hissued : s₁.issued = s.issued := by
        obtain ⟨store, rfl, -⟩ := hlooks
        rfl
      have hrevoked := Acts.revokes t hacts (hissued ▸ ht) (.inl rfl)
      dsimp only
      cases hrefresh : cookie.bind fun token =>
          decodeToken (s₁.revoke t.payload).issued (s₁.revoke t.payload).now token .refresh with
      | none => exact hrevoked
      | some refreshPayload =>
        obtain ⟨token, rfl, hdecodes⟩ := Option.bind_eq_some_iff.1 hrefresh
        obtain ⟨rfl, ⟨t', ht', rfl⟩, -⟩ := decodeToken_eq_some.1 hdecodes
        exact .revokes t' hrevoked ht' (.inr rfl)

theorem logoutAllSessions_acts (R : TokenPayload → Prop) (credentials : Option TokenPayload) :
    Acts settings R (fun userId => ∃ token, credentials = some token ∧ token.sub = userId) s
      (s.logoutAllSessions settings credentials).2 := by
  have hlooks := getCurrentUser_looks settings s credentials
  unfold logoutAllSessions
  cases hresult : s.getCurrentUser settings credentials with
  | mk result s₁ =>
    rw [hresult] at hlooks
    cases result with
    | error e => exact .of_looks hlooks
    | ok found =>
      obtain ⟨user, payload⟩ := found
      obtain ⟨rfl, hcurrent⟩ := (s.getCurrentUser_ok settings).1 (by rw [hresult] :
        (s.getCurrentUser settings credentials).1 = .ok (user, payload))
      exact .cutsOff user.id (.of_looks hlooks) ⟨payload, rfl, (Table.key_of_get? hcurrent.user).symm⟩

theorem ensureMembership_users (db : Db) (tenant : Tenant) (user : User) :
    (ensureMembership db tenant user).2.users = db.users := by
  unfold ensureMembership
  split
  · rfl
  · split
    · rfl
    · split <;> rfl

theorem jobStream_acts (R : TokenPayload → Prop) (C : Nat → Prop) (jobId : Nat)
    (subprotocolToken query : Option TokenPayload) :
    Acts settings R C s (s.jobStream settings jobId subprotocolToken query).2 := by
  refine .looks (.done s) (jobStream_cases settings s jobId subprotocolToken query).1 ?_
  unfold jobStream
  split
  · rfl
  · split
    · rfl
    · split
      · rfl
      · split
        · rfl
        · split
          · rfl
          · split
            · rfl
            · have husers := ensureMembership_users s.db ‹Tenant› ‹User›
              split <;> rename_i heq <;> rw [heq] at husers <;> exact husers

theorem handle_acts (request : AuthRequest) :
    Acts settings (· ∈ request.revokes) (request.cutsOff = some ·) s (s.handle settings request) := by
  cases request with
  | login email password => exact login_acts settings s _ _ email password
  | refresh cookie =>
    refine (refreshToken_acts settings s _ cookie).mono (fun token htoken => ?_) fun _ => id
    rw [htoken]
    exact List.mem_singleton_self token
  | logout credentials cookie =>
    refine (logout_acts settings s _ credentials cookie).mono (fun token htoken => ?_) fun _ => id
    rcases htoken with htoken | htoken
    · exact List.mem_append_left _ (Option.mem_toList.2 htoken)
    · exact List.mem_append_right _ (Option.mem_toList.2 htoken)
  | logoutAll credentials =>
    refine (logoutAllSessions_acts settings s _ credentials).mono (fun _ => id) fun userId hcutsOff => ?_
    obtain ⟨token, rfl, rfl⟩ := hcutsOff
    rfl
  | endpoint credentials => exact getCurrentUser_acts settings s _ _ credentials
  | jobStream jobId subprotocolToken query => exact jobStream_acts settings s _ _ jobId subprotocolToken query

end

/-! ### What requests keep -/

/-- A `jti` is given once, and the store knows none that was not given and no logout-all of the future. -/
structure Sound (s : Identity) : Prop where
  jtis : (s.issued.map fun t => t.payload.jti).Nodup
  jtiLt : ∀ t ∈ s.issued, t.payload.jti < s.issued.length
  known : ∀ jti later, s.now ≤ later → (s.store.lookup later (.revoked jti)).isSome → jti < s.issued.length
  cutOffs : ∀ userId later T, s.now ≤ later → s.store.lookup later (.revokedBefore userId) = some T → T ≤ s.now

/-- Until it runs out, the token is found revoked. -/
def Spent (s : Identity) (token : TokenPayload) : Prop :=
  ∀ later, s.now ≤ later → token.expired later = false → (s.store.lookup later (.revoked token.jti)).isSome

def Unrevoked (s : Identity) (token : TokenPayload) : Prop :=
  ∀ later, s.now ≤ later → s.store.lookup later (.revoked token.jti) = none

/-- The user exists, and has ended no session within the present second. -/
structure Standing (s : Identity) (userId : Nat) : Prop where
  user : (s.db.user? userId).isSome
  cutOff : ∀ later T, s.now ≤ later → s.store.lookup later (.revokedBefore userId) = some T →
    T ≤ inSeconds s.now * 1000000

/-- The token is the user's, and nothing has ended it but time. -/
structure Good (settings : TokenSettings) (s : Identity) (userId : Nat) (tokenType : TokenType) (token : TokenPayload) :
    Prop where
  issued : ∃ t ∈ s.issued, t.payload = token
  ofType : token.tokenType = tokenType
  sub : token.sub = userId
  unrevoked : s.Unrevoked token
  since : tokenType = .access → ∀ later T, s.now ≤ later → s.store.lookup later (.revokedBefore userId) = some T →
    (T : Int) ≤ tokenIssuedAt settings token

theorem sound_started (db : Db) (now : Time) : (started db now).Sound where
  jtis := List.nodup_nil
  jtiLt := fun t h => by cases h
  known := fun jti later _ h => by cases h
  cutOffs := fun userId later T _ h => by cases h

section
variable {settings : TokenSettings} {R : TokenPayload → Prop} {C : Nat → Prop} {s s' : Identity}

theorem Sound.eq_of_jti (h : s.Sound) {t t' : IssuedToken} (ht : t ∈ s.issued) (ht' : t' ∈ s.issued)
    (hjti : t.payload.jti = t'.payload.jti) : t = t' :=
  List.inj_on_of_nodup_map h.jtis ht ht' hjti

theorem Sound.quiet (h : s.Sound) (hquiet : Quiet s s') : s'.Sound where
  jtis := hquiet.issued ▸ h.jtis
  jtiLt := fun t ht => by
    rw [hquiet.issued] at ht ⊢
    exact h.jtiLt t ht
  known := fun jti later hlater hsome => by
    rw [hquiet.store later hlater] at hsome
    rw [hquiet.issued]
    exact h.known jti later (Nat.le_trans hquiet.now hlater) hsome
  cutOffs := fun userId later T hlater hlookup => by
    rw [hquiet.store later hlater] at hlookup
    exact Nat.le_trans (h.cutOffs userId later T (Nat.le_trans hquiet.now hlater) hlookup) hquiet.now

theorem Sound.revoke (h : s.Sound) {t : IssuedToken} (ht : t ∈ s.issued) : (s.revoke t.payload).Sound where
  jtis := h.jtis
  jtiLt := h.jtiLt
  known := fun jti later hlater hsome => by
    unfold Identity.revoke at hsome ⊢
    dsimp only at hsome ⊢
    by_cases hjti : jti = t.payload.jti
    · exact hjti ▸ h.jtiLt t ht
    · rw [lookup_setex_of_ne _ _ _ (by simpa using hjti)] at hsome
      exact h.known jti later hlater hsome
  cutOffs := fun userId later T hlater hlookup => by
    unfold Identity.revoke at hlookup
    dsimp only at hlookup
    rw [lookup_setex_of_ne _ _ _ (by simp)] at hlookup
    exact h.cutOffs userId later T hlater hlookup

theorem Sound.issue (h : s.Sound) (userId : Nat) (tokenType : TokenType) (parent : Option TokenPayload) :
    (s.issue settings userId tokenType parent).2.Sound where
  jtis := by
    refine List.nodup_cons.2 ⟨fun hmem => ?_, h.jtis⟩
    obtain ⟨t, ht, hjti⟩ := List.mem_map.1 hmem
    have hlt := h.jtiLt t ht
    rw [hjti] at hlt
    exact absurd hlt (Nat.lt_irrefl _)
  jtiLt := fun t ht => by
    rcases List.mem_cons.1 ht with rfl | ht
    · exact Nat.lt_succ_self _
    · exact Nat.lt_succ_of_lt (h.jtiLt t ht)
  known := fun jti later hlater hsome => Nat.lt_succ_of_lt (h.known jti later hlater hsome)
  cutOffs := h.cutOffs

theorem Sound.cutOff (h : s.Sound) (userId : Nat) : (s.cutOff userId).Sound where
  jtis := h.jtis
  jtiLt := h.jtiLt
  known := fun jti later hlater hsome => by
    unfold Identity.cutOff at hsome
    dsimp only at hsome
    rw [lookup_setex_of_ne _ _ _ (by simp)] at hsome
    exact h.known jti later hlater hsome
  cutOffs := fun userId' later T hlater hlookup => by
    unfold Identity.cutOff at hlookup
    dsimp only at hlookup
    by_cases huser : userId' = userId
    · subst huser
      rw [lookup_setex_self] at hlookup
      split at hlookup
      · cases hlookup
        exact Nat.le_refl _
      · cases hlookup
    · rw [lookup_setex_of_ne _ _ _ (by simpa using huser)] at hlookup
      exact h.cutOffs userId' later T hlater hlookup

theorem Acts.sound (h : Acts settings R C s s') (hs : s.Sound) : s'.Sound :=
  h.keeps (I := Sound) (fun _ _ hs hquiet _ => hs.quiet hquiet) (fun _ _ hs ht _ => hs.revoke ht)
    (fun _ userId tokenType parent hs => hs.issue userId tokenType parent) (fun _ userId hs _ => hs.cutOff userId) hs

/-- What was issued stays so. -/
theorem Acts.issued (h : Acts settings R C s s') {t : IssuedToken} (ht : t ∈ s.issued) : t ∈ s'.issued :=
  h.keeps (I := fun s => t ∈ s.issued) (fun _ _ ht hquiet _ => hquiet.issued ▸ ht) (fun _ _ ht _ _ => ht)
    (fun _ _ _ _ ht => List.mem_cons_of_mem _ ht) (fun _ _ ht _ => ht) ht

theorem spent_revoke (s : Identity) (token : TokenPayload) : (s.revoke token).Spent token := by
  intro later _ hexpired
  unfold Identity.revoke
  dsimp only
  rw [lookup_setex_self, if_pos (lt_kept s.now hexpired)]
  rfl

/-- A spent token stays spent: a second revocation keeps its record no shorter than it lives. -/
theorem Acts.spent (h : Acts settings R C s s') (hs : s.Sound) {t : IssuedToken} (ht : t ∈ s.issued)
    (hspent : s.Spent t.payload) : s'.Spent t.payload := by
  have hkeeps := h.keeps (I := fun s => (s.Sound ∧ t ∈ s.issued) ∧ s.Spent t.payload) ?_ ?_ ?_ ?_ ⟨⟨hs, ht⟩, hspent⟩
  · exact hkeeps.2
  · rintro s s' ⟨⟨hs, ht⟩, hspent⟩ hquiet -
    refine ⟨⟨hs.quiet hquiet, hquiet.issued ▸ ht⟩, fun later hlater hexpired => ?_⟩
    rw [hquiet.store later hlater]
    exact hspent later (Nat.le_trans hquiet.now hlater) hexpired
  · rintro s t' ⟨⟨hs, ht⟩, hspent⟩ ht' -
    refine ⟨⟨hs.revoke ht', ht⟩, ?_⟩
    by_cases hjti : t.payload.jti = t'.payload.jti
    · obtain rfl := hs.eq_of_jti ht ht' hjti
      exact spent_revoke s t.payload
    · intro later hlater hexpired
      unfold Identity.revoke
      dsimp only
      rw [lookup_setex_of_ne _ _ _ (by simpa using hjti)]
      exact hspent later hlater hexpired
  · rintro s userId tokenType parent ⟨⟨hs, ht⟩, hspent⟩
    exact ⟨⟨hs.issue userId tokenType parent, List.mem_cons_of_mem _ ht⟩, hspent⟩
  · rintro s userId ⟨⟨hs, ht⟩, hspent⟩ -
    refine ⟨⟨hs.cutOff userId, ht⟩, fun later hlater hexpired => ?_⟩
    unfold Identity.cutOff
    dsimp only
    rw [lookup_setex_of_ne _ _ _ (by simp)]
    exact hspent later hlater hexpired

/-! ### Good tokens -/

variable {userId : Nat} {tokenType : TokenType} {token : TokenPayload}

theorem inSeconds_mono {now now' : Time} (h : now ≤ now') : inSeconds now * 1000000 ≤ inSeconds now' * 1000000 :=
  Nat.mul_le_mul_right _ (Nat.div_le_div_right h)

theorem Acts.standing (h : Acts settings R C s s') (hC : ¬ C userId) (hs : s.Standing userId) : s'.Standing userId := by
  refine h.keeps (I := fun s => s.Standing userId) ?_ ?_ ?_ ?_ hs
  · intro s s' hs hquiet husers
    refine ⟨?_, fun later T hlater hlookup => ?_⟩
    · unfold Db.user?
      rw [husers]
      exact hs.user
    · rw [hquiet.store later hlater] at hlookup
      exact Nat.le_trans (hs.cutOff later T (Nat.le_trans hquiet.now hlater) hlookup) (inSeconds_mono hquiet.now)
  · intro s t hs _ _
    refine ⟨hs.user, fun later T hlater hlookup => ?_⟩
    unfold Identity.revoke at hlookup
    dsimp only at hlookup
    rw [lookup_setex_of_ne _ _ _ (by simp)] at hlookup
    exact hs.cutOff later T hlater hlookup
  · exact fun s _ _ _ hs => ⟨hs.user, hs.cutOff⟩
  · intro s other hs hother
    have hne : userId ≠ other := fun heq => hC (heq ▸ hother)
    refine ⟨hs.user, fun later T hlater hlookup => ?_⟩
    unfold Identity.cutOff at hlookup
    dsimp only at hlookup
    rw [lookup_setex_of_ne _ _ _ (by simpa using hne)] at hlookup
    exact hs.cutOff later T hlater hlookup

theorem Good.quiet (hgood : s.Good settings userId tokenType token) (hquiet : Quiet s s') :
    s'.Good settings userId tokenType token where
  issued := hquiet.issued ▸ hgood.issued
  ofType := hgood.ofType
  sub := hgood.sub
  unrevoked := fun later hlater => by
    rw [hquiet.store later hlater]
    exact hgood.unrevoked later (Nat.le_trans hquiet.now hlater)
  since := fun htype later T hlater hlookup => by
    rw [hquiet.store later hlater] at hlookup
    exact hgood.since htype later T (Nat.le_trans hquiet.now hlater) hlookup

theorem Good.revoke (hgood : s.Good settings userId tokenType token) (hs : s.Sound) {t : IssuedToken}
    (ht : t ∈ s.issued) (hne : t.payload ≠ token) : (s.revoke t.payload).Good settings userId tokenType token where
  issued := hgood.issued
  ofType := hgood.ofType
  sub := hgood.sub
  unrevoked := fun later hlater => by
    obtain ⟨t', ht', rfl⟩ := hgood.issued
    have hjti : t'.payload.jti ≠ t.payload.jti := by
      intro hjti
      obtain rfl := hs.eq_of_jti ht' ht hjti
      exact hne rfl
    unfold Identity.revoke
    dsimp only
    rw [lookup_setex_of_ne _ _ _ (by simpa using hjti)]
    exact hgood.unrevoked later hlater
  since := fun htype later T hlater hlookup => by
    unfold Identity.revoke at hlookup
    dsimp only at hlookup
    rw [lookup_setex_of_ne _ _ _ (by simp)] at hlookup
    exact hgood.since htype later T hlater hlookup

theorem Good.issue (hgood : s.Good settings userId tokenType token) (other : Nat) (otherType : TokenType)
    (parent : Option TokenPayload) :
    (s.issue settings other otherType parent).2.Good settings userId tokenType token where
  issued := by
    obtain ⟨t, ht, rfl⟩ := hgood.issued
    exact ⟨t, List.mem_cons_of_mem _ ht, rfl⟩
  ofType := hgood.ofType
  sub := hgood.sub
  unrevoked := hgood.unrevoked
  since := hgood.since

theorem Good.cutOff (hgood : s.Good settings userId tokenType token) {other : Nat} (hne : userId ≠ other) :
    (s.cutOff other).Good settings userId tokenType token where
  issued := hgood.issued
  ofType := hgood.ofType
  sub := hgood.sub
  unrevoked := fun later hlater => by
    unfold Identity.cutOff
    dsimp only
    rw [lookup_setex_of_ne _ _ _ (by simp)]
    exact hgood.unrevoked later hlater
  since := fun htype later T hlater hlookup => by
    unfold Identity.cutOff at hlookup
    dsimp only at hlookup
    rw [lookup_setex_of_ne _ _ _ (by simpa using hne)] at hlookup
    exact hgood.since htype later T hlater hlookup

/-- A good token stays good unless a request carries it or cuts its user off. -/
theorem Acts.good (h : Acts settings R C s s') (hs : s.Sound) (hR : ¬ R token) (hC : ¬ C userId)
    (hgood : s.Good settings userId tokenType token) : s'.Good settings userId tokenType token := by
  have hkeeps := h.keeps (I := fun s => s.Sound ∧ s.Good settings userId tokenType token) ?_ ?_ ?_ ?_ ⟨hs, hgood⟩
  · exact hkeeps.2
  · exact fun s s' hs hquiet _ => ⟨hs.1.quiet hquiet, hs.2.quiet hquiet⟩
  · exact fun s t hs ht hrevokes => ⟨hs.1.revoke ht, hs.2.revoke hs.1 ht fun heq => hR (heq ▸ hrevokes)⟩
  · exact fun s other otherType parent hs => ⟨hs.1.issue other otherType parent, hs.2.issue other otherType parent⟩
  · exact fun s other hs hother => ⟨hs.1.cutOff other, hs.2.cutOff fun heq => hC (heq ▸ hother)⟩

private theorem passed_arith {now elapsed T : Nat} (hT : T ≤ now) (helapsed : 1000000 ≤ elapsed) :
    T ≤ (now + elapsed) / 1000000 * 1000000 := by omega

/-- A second later, nobody has ended a session within the present second. -/
theorem Sound.standing (h : s.Sound) {elapsed : Nat} (helapsed : 1000000 ≤ elapsed)
    (huser : (s.db.user? userId).isSome) : (s.wait elapsed).Standing userId where
  user := huser
  cutOff := fun later T hlater hlookup =>
    passed_arith (h.cutOffs userId later T (Nat.le_trans (Nat.le_add_right _ _) hlater) hlookup) helapsed

private theorem issuedAt_cast (a b : Nat) :
    (((a + b * 60 : Nat) : Int) - b * 60) * 1000000 = ((a * 1000000 : Nat) : Int) := by omega

theorem good_issue (settings : TokenSettings) (tokenType : TokenType) (hs : s.Sound) (hstanding : s.Standing userId)
    (parent : Option TokenPayload) :
    (s.issue settings userId tokenType parent).2.Good settings userId tokenType
      (s.issue settings userId tokenType parent).1 where
  issued := ⟨_, List.mem_cons_self, rfl⟩
  ofType := rfl
  sub := rfl
  unrevoked := fun later hlater => by
    -- its `jti` is one that no record knows
    cases hlookup : s.store.lookup later (.revoked s.issued.length) with
    | none => exact hlookup
    | some value => exact absurd (hs.known s.issued.length later hlater (by rw [hlookup]; rfl)) (Nat.lt_irrefl _)
  since := fun htype later T hlater hlookup => by
    subst htype
    have hT := hstanding.cutOff later T hlater hlookup
    have hexp : inSeconds (s.now + seconds (settings.expiresDelta .access)) =
        inSeconds s.now + settings.jwtAccessTokenExpireMinutes * 60 := inSeconds_add_seconds _ _
    unfold tokenIssuedAt Identity.issue createToken
    dsimp only
    rw [hexp, issuedAt_cast]
    exact Int.ofNat_le.2 hT

theorem login_good {email password : String} {accessToken refreshToken : TokenPayload} (hs : s.Sound)
    (hstanding : ∀ user ∈ s.db.users, user.email = lower email → s.Standing user.id)
    (hok : (s.login settings email password).1 = .ok (accessToken, refreshToken)) :
    ∃ userId, (s.login settings email password).2.Standing userId ∧
      (s.login settings email password).2.Good settings userId .access accessToken ∧
      (s.login settings email password).2.Good settings userId .refresh refreshToken := by
  unfold login at hok ⊢
  cases hfind : s.db.users.find? fun user => user.email = lower email with
  | none =>
    rw [hfind] at hok
    cases hok
  | some user =>
    rw [hfind] at hok
    dsimp only at hok ⊢
    have hemail : user.email = lower email := by simpa using List.find?_some hfind
    have huser := hstanding user (List.mem_of_find?_eq_some hfind) hemail
    split at hok
    · rename_i hpassword
      rw [if_pos hpassword]
      cases hok
      have hacts : Acts settings (fun _ => False) (fun _ => False) s (s.issue settings user.id .access none).2 :=
        .issues _ _ _ (.done s)
      have huser₁ := hacts.standing id huser
      exact ⟨user.id, (Acts.issues user.id .refresh none hacts).standing id huser,
        (good_issue settings .access hs huser none).issue _ _ _,
        good_issue settings .refresh (hacts.sound hs) huser₁ none⟩
    · cases hok

/-- A good access token that has not run out is accepted. -/
theorem getCurrentUser_good (hstanding : s.Standing userId) (hgood : s.Good settings userId .access token)
    (hexpired : token.expired s.now = false) : (s.getCurrentUser settings (some token)).1.isOk = true := by
  obtain ⟨t, ht, rfl⟩ := hgood.issued
  obtain ⟨user, huser⟩ := Option.isSome_iff_exists.1 hstanding.user
  have hcurrent : s.Current settings t.payload user :=
    { decodes := decodeToken_eq_some.2 ⟨rfl, ⟨t, ht, rfl⟩, hexpired, hgood.ofType⟩
      notRevoked := hgood.unrevoked s.now (Nat.le_refl _)
      notBefore := fun T hlookup => by
        rw [hgood.sub] at hlookup
        exact hgood.since rfl s.now T (Nat.le_refl _) hlookup
      user := by rw [hgood.sub]; exact huser }
  rw [(s.getCurrentUser_ok settings).2 ⟨rfl, hcurrent⟩]
  rfl

end

/-! ### The steps of a refresh -/

section
variable (settings : TokenSettings) {s : Identity} {cookie : TokenPayload} {phase : RefreshPhase} {userId : Nat}

/-- A step of a refresh revokes the cookie or nothing. -/
theorem refreshPhase_acts (C : Nat → Prop) (hissued : phase.hasDecoded = true → ∃ t ∈ s.issued, t.payload = cookie) :
    Acts settings (fun token => token = cookie ∧ ∃ userId, phase = .revoking userId) C s
      (refreshPhase settings cookie s phase).2 := by
  cases phase with
  | checking =>
    rw [RefreshRace.refreshPhase_checking]
    exact .looks (.done s) ⟨Nat.le_refl _, rfl, rfl, rfl, fun _ hlater k => lookup_purgeExpired _ _ hlater k⟩ rfl
  | revoking userId =>
    obtain ⟨t, ht, rfl⟩ := hissued rfl
    exact .revokes t (.done s) ht ⟨rfl, userId, rfl⟩
  | issuing userId => exact .issues _ _ _ (.issues _ _ _ (.done s))
  | _ =>
    unfold refreshPhase
    dsimp only
    first
      | exact .done s
      | split <;> exact .done s

theorem mem_issued_refreshPhase {t : IssuedToken} (ht : t ∈ s.issued) :
    t ∈ (refreshPhase settings cookie s phase).2.issued := by
  cases phase with
  | checking =>
    rw [RefreshRace.refreshPhase_checking]
    exact ht
  | issuing userId => exact List.mem_cons_of_mem _ (List.mem_cons_of_mem _ ht)
  | _ =>
    unfold refreshPhase
    dsimp only
    first
      | exact ht
      | split <;> exact ht

/-- A call that goes on has a cookie that was issued. -/
theorem issued_of_refreshPhase (hissued : phase.hasDecoded = true → ∃ t ∈ s.issued, t.payload = cookie)
    (h : (refreshPhase settings cookie s phase).1.hasDecoded = true) :
    ∃ t ∈ (refreshPhase settings cookie s phase).2.issued, t.payload = cookie := by
  have hbefore : ∃ t ∈ s.issued, t.payload = cookie := by
    cases phase with
    | decoding =>
      unfold refreshPhase at h
      dsimp only at h
      split at h
      · cases h
      · rename_i hdecodes
        exact (decodeToken_eq_some.1 hdecodes).2.1
    | refused => cases h
    | _ => exact hissued rfl
  obtain ⟨t, ht, heq⟩ := hbefore
  exact ⟨t, mem_issued_refreshPhase settings ht, heq⟩

/-- A cookie that passes its check before it runs out was not spent. -/
theorem not_spent_of_passes (hexpired : cookie.expired s.now = false)
    (h : (refreshPhase settings cookie s .checking).1 ≠ .refused) : ¬ s.Spent cookie := by
  intro hspent
  rw [RefreshRace.refreshPhase_checking, if_pos (hspent s.now (Nat.le_refl _) hexpired)] at h
  exact h rfl

/-- A good refresh token is decoded until it runs out. -/
theorem decoding_good (hgood : s.Good settings userId .refresh cookie) (hexpired : cookie.expired s.now = false) :
    refreshPhase settings cookie s .decoding = (.checking, s) := by
  have hdecodes : decodeToken s.issued s.now cookie .refresh = some cookie :=
    decodeToken_eq_some.2 ⟨rfl, hgood.issued, hexpired, hgood.ofType⟩
  unfold refreshPhase
  rw [hdecodes]

/-- A good refresh token passes its check. -/
theorem checking_good (hgood : s.Good settings userId .refresh cookie) :
    (refreshPhase settings cookie s .checking).1 = .loading := by
  rw [RefreshRace.refreshPhase_checking, hgood.unrevoked s.now (Nat.le_refl _)]
  rfl

theorem loading_good (hstanding : s.Standing userId) (hgood : s.Good settings userId .refresh cookie) :
    refreshPhase settings cookie s .loading = (.revoking userId, s) := by
  obtain ⟨user, huser⟩ := Option.isSome_iff_exists.1 hstanding.user
  unfold refreshPhase
  rw [hgood.sub, huser]
  dsimp only
  rw [show user.id = userId from Table.key_of_get? huser]

/-- Both tokens that a refresh issues are good. -/
theorem issuing_good (cookie : TokenPayload) (hs : s.Sound) (hstanding : s.Standing userId) :
    ∃ accessToken refreshToken,
      (refreshPhase settings cookie s (.issuing userId)).1 = .issued accessToken refreshToken ∧
      (refreshPhase settings cookie s (.issuing userId)).2.Good settings userId .access accessToken ∧
      (refreshPhase settings cookie s (.issuing userId)).2.Good settings userId .refresh refreshToken := by
  have hfirst : Acts settings (fun _ => False) (fun _ => False) s
      (s.issue settings userId .refresh (some cookie)).2 := .issues _ _ _ (.done s)
  exact ⟨_, _, rfl, good_issue settings .access (hfirst.sound hs) (hfirst.standing id hstanding) (some cookie),
    (good_issue settings .refresh hs hstanding (some cookie)).issue userId .access (some cookie)⟩

end

end Identity

end ControlPlane
