import ControlPlane.Base.Runs
import ControlPlane.Identity.Accounts
import Mathlib.Data.List.Infix

/-!
# What a request does to the accounts

A request leaves every account with its address and its role, and no two accounts with one address: an address is verified,
or a password replaced, only where `verified` and `reset` say so (`AccountRows.Becomes`).  `AccountsKept` joins to that
which tokens are issued, taken and mailed, within the bounds of a request, and each primitive of the endpoints keeps it.
-/

namespace ControlPlane

open Table Session Session.Proc

/-! ### Accounts -/

/-- What an account keeps for good. -/
structure Account.Same (user user' : Account) : Prop where
  id : user'.id = user.id
  email : user'.email = user.email
  role : user'.role = user.role
  createdAt : user'.createdAt = user.createdAt

/-- What may have become of an account within a request. -/
structure Account.Becomes (verified reset : Option Nat) (user user' : Account) : Prop extends user.Same user' where
  emailVerified : user'.emailVerified = user.emailVerified ∨ verified = some user.id ∧ user'.emailVerified = true
  passwordHash : user'.passwordHash = user.passwordHash ∨ reset = some user.id

/-- No account is lost. -/
def AccountRows.Onward (rows rows' : AccountRows) : Prop :=
  ∀ id user, get? rows.users id = some user → ∃ user', get? rows'.users id = some user' ∧ user.Same user'

/-- An account is found by its id, and by its address. -/
structure AccountRows.Distinct (rows : AccountRows) : Prop where
  ids : (rows.users.map Account.id).Nodup
  emails : (rows.users.map Account.email).Nodup

/-- What may have become of the accounts: none is lost, those that are new are of plain users, and none is verified or gets a
password but those of which it is said. -/
structure AccountRows.Becomes (verified reset : Option Nat) (rows rows' : AccountRows) : Prop where
  distinct : rows.Distinct → rows'.Distinct
  old : ∀ id user, get? rows.users id = some user →
    ∃ user', get? rows'.users id = some user' ∧ user.Becomes verified reset user'
  new : ∀ id user', get? rows'.users id = some user' → get? rows.users id = none →
    user'.role = .user ∧ (user'.emailVerified = false ∨ verified = some id)

section

variable {verified reset : Option Nat}

theorem Account.Same.refl (user : Account) : user.Same user := ⟨rfl, rfl, rfl, rfl⟩

theorem Account.Same.trans {a b c : Account} (h : a.Same b) (h' : b.Same c) : a.Same c :=
  ⟨h'.id.trans h.id, h'.email.trans h.email, h'.role.trans h.role, h'.createdAt.trans h.createdAt⟩

theorem Account.Becomes.refl (user : Account) : user.Becomes verified reset user := ⟨.refl user, Or.inl rfl, Or.inl rfl⟩

theorem Account.Becomes.trans {a b c : Account} (h : a.Becomes verified reset b) (h' : b.Becomes verified reset c) :
    a.Becomes verified reset c where
  toSame := h.toSame.trans h'.toSame
  emailVerified := by
    rcases h'.emailVerified with hsame | ⟨hid, htrue⟩
    · rw [hsame]
      exact h.emailVerified
    · rw [h.id] at hid
      exact Or.inr ⟨hid, htrue⟩
  passwordHash := by
    rcases h'.passwordHash with hsame | hid
    · rw [hsame]
      exact h.passwordHash
    · rw [h.id] at hid
      exact Or.inr hid

theorem AccountRows.Onward.refl (rows : AccountRows) : rows.Onward rows := fun _ user hrow => ⟨user, hrow, .refl user⟩

theorem AccountRows.Onward.trans {rows rows' rows'' : AccountRows} (h : rows.Onward rows') (h' : rows'.Onward rows'') :
    rows.Onward rows'' := by
  intro id user hrow
  obtain ⟨user', hrow', hsame⟩ := h id user hrow
  obtain ⟨user'', hrow'', hsame'⟩ := h' id user' hrow'
  exact ⟨user'', hrow'', hsame.trans hsame'⟩

namespace AccountRows.Becomes

theorem refl (rows : AccountRows) : rows.Becomes verified reset rows := by
  refine ⟨fun h => h, fun id user hrow => ⟨user, hrow, .refl user⟩, fun id user hrow hnone => ?_⟩
  rw [hrow] at hnone
  cases hnone

theorem onward {rows rows' : AccountRows} (h : rows.Becomes verified reset rows') : rows.Onward rows' := by
  intro id user hrow
  obtain ⟨user', hrow', hbecomes⟩ := h.old id user hrow
  exact ⟨user', hrow', hbecomes.toSame⟩

theorem trans {rows rows' rows'' : AccountRows} (h : rows.Becomes verified reset rows')
    (h' : rows'.Becomes verified reset rows'') : rows.Becomes verified reset rows'' := by
  refine ⟨fun hids => h'.distinct (h.distinct hids), fun id user hrow => ?_, fun id user'' hrow hnone => ?_⟩
  · obtain ⟨user', hrow', hbecomes⟩ := h.old id user hrow
    obtain ⟨user'', hrow'', hbecomes'⟩ := h'.old id user' hrow'
    exact ⟨user'', hrow'', hbecomes.trans hbecomes'⟩
  · cases hmiddle : get? rows'.users id with
    | none => exact h'.new id user'' hrow hmiddle
    | some user' =>
      obtain ⟨found, hfound, hbecomes⟩ := h'.old id user' hmiddle
      rw [hrow] at hfound
      obtain rfl := Option.some.inj hfound
      obtain ⟨hrole, hverified⟩ := h.new id user' hmiddle hnone
      refine ⟨hbecomes.role.trans hrole, ?_⟩
      rcases hbecomes.emailVerified with hsame | ⟨hid, -⟩
      · rw [hsame]
        exact hverified
      · rw [show user'.id = id from key_of_get? hmiddle] at hid
        exact Or.inr hid

theorem of_users {rows rows' : AccountRows} (h : rows'.users = rows.users) : rows.Becomes verified reset rows' := by
  have hsame : rows.Becomes verified reset rows := refl rows
  refine ⟨fun hdistinct => ⟨?_, ?_⟩, ?_, ?_⟩
  · rw [h]
    exact hdistinct.ids
  · rw [h]
    exact hdistinct.emails
  · rw [h]
    exact hsame.old
  · rw [h]
    exact hsame.new

/-- A row is written over. -/
theorem put {rows : AccountRows} {user user' : Account} (hrow : get? rows.users user.id = some user)
    (h : user.Becomes verified reset user') :
    rows.Becomes verified reset { rows with users := Table.put rows.users user' } := by
  have hself : get? (Table.put rows.users user') user.id = some user' := by
    have hkey : get? rows.users (key user') = some user := by
      rw [show key user' = user.id from h.id]
      exact hrow
    have hput := get?_put_self hkey
    rw [show key user' = user.id from h.id] at hput
    exact hput
  have hother : ∀ id, id ≠ user.id → get? (Table.put rows.users user') id = get? rows.users id := fun id hne =>
    get?_put_of_ne rows.users (by rw [show key user' = user.id from h.id]; exact hne)
  have hemails : (rows.users.map Account.id).Nodup →
      (Table.put rows.users user').map Account.email = rows.users.map Account.email := by
    intro hids
    unfold Table.put
    rw [List.map_map]
    refine List.map_congr_left fun row hmem => ?_
    rw [Function.comp_apply]
    split
    · rename_i hkey
      have hfound : get? rows.users row.id = some row := get?_of_mem hids hmem
      rw [show row.id = user.id from hkey.trans h.id, hrow] at hfound
      rw [← Option.some.inj hfound]
      exact h.email
    · rfl
  refine ⟨fun hdistinct => ⟨?_, ?_⟩, fun id found hfound => ?_, fun id found hfound hnone => ?_⟩
  · exact (map_key_put rows.users user').symm ▸ hdistinct.ids
  · rw [hemails hdistinct.ids]
    exact hdistinct.emails
  · by_cases hid : id = user.id
    · subst hid
      rw [hrow] at hfound
      obtain rfl := Option.some.inj hfound
      exact ⟨user', hself, h⟩
    · exact ⟨found, (hother id hid).trans hfound, .refl found⟩
  · by_cases hid : id = user.id
    · subst hid
      rw [hrow] at hnone
      cases hnone
    · rw [show get? _ id = get? rows.users id from hother id hid, hnone] at hfound
      cases hfound

/-- A new account is inserted. -/
theorem insert {rows : AccountRows} {user : Account} (hnone : get? rows.users user.id = none)
    (hemail : rows.byEmail user.email = none) (hrole : user.role = .user) (hunverified : user.emailVerified = false) :
    rows.Becomes verified reset { rows with users := Table.insert rows.users user } := by
  have hnew : ∀ row ∈ rows.users, row.email ≠ user.email := by
    intro row hmem heq
    have hnot := List.find?_eq_none.1 hemail row hmem
    simp [heq] at hnot
  have hids : (rows.users.map Account.id).Nodup → ((Table.insert rows.users user).map Account.id).Nodup := by
    intro hids
    unfold Table.insert
    rw [List.map_append, List.map_singleton]
    refine List.nodup_append.2 ⟨hids, List.nodup_singleton _, fun a ha b hb heq => ?_⟩
    obtain ⟨row, hrow, rfl⟩ := List.mem_map.1 ha
    rw [← List.mem_singleton.1 hb, ← heq, show get? rows.users row.id = some row from get?_of_mem hids hrow] at hnone
    cases hnone
  have hemails : (rows.users.map Account.email).Nodup → ((Table.insert rows.users user).map Account.email).Nodup := by
    intro hemails
    unfold Table.insert
    rw [List.map_append, List.map_singleton]
    refine List.nodup_append.2 ⟨hemails, List.nodup_singleton _, fun a ha b hb heq => ?_⟩
    obtain ⟨row, hrow, rfl⟩ := List.mem_map.1 ha
    exact hnew row hrow (heq.trans (List.mem_singleton.1 hb))
  refine ⟨fun hdistinct => ⟨hids hdistinct.ids, hemails hdistinct.emails⟩,
    fun id found hfound => ⟨found, get?_insert_of_some hfound, .refl found⟩, fun id found hfound hmissing => ?_⟩
  replace hfound : get? (Table.insert rows.users user) id = some found := hfound
  rw [get?_insert, hmissing, Option.none_or] at hfound
  split at hfound
  · cases hfound
    exact ⟨hrole, Or.inl hunverified⟩
  · cases hfound

end AccountRows.Becomes

end

/-! ### Tokens -/

section

variable {K V : Type} [DecidableEq K] (store : InMemoryTokenStore K V) (now : Time) (name : K)

theorem InMemoryTokenStore.getdel_fst : (store.getdel now name).1 = store.lookup now name :=
  congrArg Prod.fst (store.get_eq now name)

theorem InMemoryTokenStore.items_getdel_self : (store.getdel now name).2.items name = none := by
  simp [InMemoryTokenStore.getdel]

theorem InMemoryTokenStore.items_getdel_of_ne {k : K} (hk : k ≠ name) :
    (store.getdel now name).2.items k = store.items k := by
  rw [← store.items_purgeExpired_of_ne now name hk]
  simp [InMemoryTokenStore.getdel, Function.update_of_ne hk]

end

/-- What is found under a key is stored there, and has not run out. -/
theorem InMemoryTokenStore.items_of_lookup {K V : Type} {store : InMemoryTokenStore K V} {now : Time} {name : K} {value : V}
    (h : store.lookup now name = some value) :
    ∃ item, store.items name = some item ∧ item.value = value ∧ now < item.expiresAt := by
  unfold InMemoryTokenStore.lookup at h
  obtain ⟨item, hitem, h⟩ := Option.bind_eq_some_iff.1 h
  split at h
  · rename_i hcurrent
    cases h
    exact ⟨item, hitem, rfl, hcurrent⟩
  · cases h

/-- The key of a token tells what it is for. -/
theorem tokenKey_eq_iff {settings : AccountSettings} {purpose purpose' : TokenPurpose} {token token' : String} :
    tokenKey settings purpose token = tokenKey settings purpose' token' ↔
      purpose = purpose' ∧ settings.sha256 token = settings.sha256 token' := by
  constructor
  · intro h
    have htext := congrArg String.toList h
    unfold tokenKey at htext
    rw [String.toList_append, String.toList_append, String.toList_append, String.toList_append] at htext
    have hpurpose : purpose = purpose' := by
      have hhead := congrArg List.head? htext
      revert hhead
      cases purpose <;> cases purpose' <;> simp [TokenPurpose.label]
    subst hpurpose
    exact ⟨rfl, String.toList_inj.1 (List.append_cancel_left htext)⟩
  · rintro ⟨rfl, h⟩
    unfold tokenKey
    rw [h]

def IssuedSecret.key (settings : AccountSettings) (secret : IssuedSecret) : String :=
  tokenKey settings secret.purpose secret.token

/-- The store holds tokens that were issued, and each key was taken at most as often as a token was issued under it. -/
structure Office.Accounted (settings : AccountSettings) (office : Office) : Prop where
  stored : ∀ name item, office.store.items name = some item → ∃ secret ∈ office.issued,
    secret.key settings = name ∧ secret.value = item.value ∧ secret.expiresAt = item.expiresAt
  counted : ∀ name, office.taken.count name + (if (office.store.items name).isSome then 1 else 0) ≤
    (office.issued.map (IssuedSecret.key settings)).count name

/-- Issuing a token. -/
theorem Office.Accounted.issue {settings : AccountSettings} {office : Office} (h : office.Accounted settings) (now : Time)
    (purpose : TokenPurpose) (token : String) (ttlSeconds : Nat) (value : TokenValue) (background : List TokenMail)
    (tokens : Nat) :
    Office.Accounted settings { office with
      store := office.store.setex now (tokenKey settings purpose token) ttlSeconds value
      issued := office.issued ++ [⟨purpose, token, value, now + seconds (max ttlSeconds 1)⟩]
      tokens := tokens, background := background } := by
  refine ⟨fun name item hitem => ?_, fun name => ?_⟩
  · by_cases hname : name = tokenKey settings purpose token
    · subst hname
      rw [show (office.store.setex now (tokenKey settings purpose token) ttlSeconds value).items _ = _ from
        Function.update_self _ _ _] at hitem
      cases hitem
      exact ⟨_, List.mem_append_right _ (List.mem_singleton_self _), rfl, rfl, rfl⟩
    · rw [show (office.store.setex now (tokenKey settings purpose token) ttlSeconds value).items name = _ from
        Function.update_of_ne hname _ _] at hitem
      obtain ⟨secret, hmem, hsecret⟩ := h.stored name item hitem
      exact ⟨secret, List.mem_append_left _ hmem, hsecret⟩
  · have hcount := h.counted name
    dsimp only
    rw [List.map_append, List.count_append, List.map_singleton, List.count_singleton]
    by_cases hname : name = tokenKey settings purpose token
    · subst hname
      have hone : (if (IssuedSecret.key settings ⟨purpose, token, value, now + seconds (max ttlSeconds 1)⟩ ==
          tokenKey settings purpose token) = true then 1 else 0) = 1 := if_pos (beq_self_eq_true _)
      rw [hone]
      split <;> omega
    · rw [show (office.store.setex now (tokenKey settings purpose token) ttlSeconds value).items name = _ from
        Function.update_of_ne hname _ _]
      omega

/-- Taking a token out. -/
theorem Office.Accounted.take {settings : AccountSettings} {office : Office} (h : office.Accounted settings) (now : Time)
    (name : String) :
    Office.Accounted settings { office with
      store := (office.store.getdel now name).2
      taken := office.taken ++ if (office.store.getdel now name).1.isSome then [name] else [] } := by
  refine ⟨fun name' item hitem => ?_, fun name' => ?_⟩
  · by_cases hname : name' = name
    · subst hname
      rw [show (office.store.getdel now name').2.items name' = none from office.store.items_getdel_self now name'] at hitem
      cases hitem
    · rw [show (office.store.getdel now name).2.items name' = _ from office.store.items_getdel_of_ne now name hname] at hitem
      exact h.stored name' item hitem
  · have hcount := h.counted name'
    dsimp only
    rw [List.count_append, office.store.getdel_fst now name]
    by_cases hname : name' = name
    · subst hname
      rw [office.store.items_getdel_self now name']
      cases hfound : office.store.lookup now name' with
      | none =>
        simp only [Option.isSome_none, Bool.false_eq_true, if_false, List.count_nil]
        omega
      | some value =>
        obtain ⟨item, hitem, -⟩ := InMemoryTokenStore.items_of_lookup hfound
        rw [hitem] at hcount
        simp only [Option.isSome_some, if_true, Option.isSome_none, Bool.false_eq_true, if_false, List.count_singleton_self]
          at hcount ⊢
        omega
    · rw [office.store.items_getdel_of_ne now name hname]
      have hnone : (if (office.store.lookup now name).isSome = true then [name] else []).count name' = 0 := by
        split
        · exact List.count_eq_zero.2 fun hmem => hname (List.mem_singleton.1 hmem)
        · rfl
      omega

/-! ### Sessions -/

/-- The mail brings a token that was issued for the account with the mail's address. -/
def TokenMail.Reaches (users : List Account) (issued : List IssuedSecret) (mail : TokenMail) : Prop :=
  ∃ secret ∈ issued, secret.purpose = mail.purpose ∧ secret.token = mail.token ∧ ∃ user, secret.value = .userId user.id ∧
    get? users user.id = some user ∧ user.email = mail.toEmail

theorem TokenMail.Reaches.later {rows rows' : AccountRows} {mail : TokenMail}
    {issued issued' : List IssuedSecret} (h : mail.Reaches rows.users issued) (hlater : rows.Onward rows')
    (hissued : ∀ secret ∈ issued, secret ∈ issued') : mail.Reaches rows'.users issued' := by
  obtain ⟨secret, hmem, hpurpose, htoken, user, hvalue, hrow, hemail⟩ := h
  obtain ⟨user', hrow', hsame⟩ := hlater _ user hrow
  refine ⟨secret, hissued secret hmem, hpurpose, htoken, user', ?_, ?_, hsame.email.trans hemail⟩
  · rw [hvalue, hsame.id]
  · rw [hsame.id]
    exact hrow'

/-- The bounds of a request: the accounts it began with, the ones it may verify or give a password, the keys that were taken,
the tokens there were, and those there may be, which accounts that have come further do not take back. -/
structure AccountsBound where
  rows : AccountRows
  verified : Option Nat
  reset : Option Nat
  taken : List String
  issued : List IssuedSecret
  may : List Account → IssuedSecret → Prop
  may_later : ∀ {rows rows' : AccountRows} {secret}, rows.Onward rows' → may rows.users secret → may rows'.users secret

/-- What a session keeps to within the bounds. -/
structure AccountsKept (settings : AccountSettings) (bound : AccountsBound) (s : AccountSession) : Prop where
  saved : bound.rows.Becomes bound.verified bound.reset s.saved
  work : s.saved.Becomes bound.verified bound.reset s.work
  distinct : s.saved.Distinct
  accounted : s.outside.Accounted settings
  taken : bound.taken <+: s.outside.taken
  grown : bound.issued <+: s.outside.issued
  issued : ∀ secret ∈ s.outside.issued, bound.may s.saved.users secret
  background : ∀ mail ∈ s.outside.background, mail.Reaches s.saved.users s.outside.issued

/-- The session has nothing to commit, and its accounts and what was issued have the property `p`. -/
structure AccountsClean (settings : AccountSettings) (bound : AccountsBound)
    (p : List Account → List IssuedSecret → Prop) (s : AccountSession) : Prop where
  kept : AccountsKept settings bound s
  same : s.work = s.saved
  holds : p s.saved.users s.outside.issued

section

variable {env : AccountEnv} {bound : AccountsBound} {p q : List Account → List IssuedSecret → Prop} {s : AccountSession}

/-- The outside state is replaced by one that belongs to the committed accounts. -/
theorem AccountsClean.outside (h : AccountsClean env.settings bound p s) {office : Office} (tick : Nat)
    (haccounted : office.Accounted env.settings) (htaken : s.outside.taken <+: office.taken)
    (hgrown : s.outside.issued <+: office.issued) (hissued : ∀ secret ∈ office.issued, bound.may s.saved.users secret)
    (hbackground : ∀ mail ∈ office.background, mail.Reaches s.saved.users office.issued)
    (hq : q s.saved.users office.issued) :
    AccountsClean env.settings bound q { s with outside := office, tick := tick } :=
  ⟨⟨h.kept.saved, h.kept.work, h.kept.distinct, haccounted, h.kept.taken.trans htaken, h.kept.grown.trans hgrown, hissued,
    hbackground⟩, h.same, hq⟩

/-- Rows written to the session, while nothing else changed. -/
theorem AccountsClean.working (h : AccountsClean env.settings bound p s) {rows : AccountRows}
    (hrows : s.saved.Becomes bound.verified bound.reset rows) :
    AccountsKept env.settings bound { s with work := rows } :=
  { h.kept with work := hrows }

/-- What is written to the session is committed, or the session is back on the rows it had. -/
theorem AccountsKept.commit (h : AccountsKept env.settings bound s) (hp : p s.work.users s.outside.issued) :
    Ends (fun _ => AccountsClean env.settings bound p) (AccountsKept env.settings bound) (env.commit s) := by
  have hback : bound.rows.Becomes bound.verified bound.reset s.work := h.saved.trans h.work
  unfold AccountEnv.commit Proc.commit
  dsimp only
  split
  · exact { h with work := .refl _ }
  · refine ⟨⟨hback, .refl _, h.work.distinct h.distinct, h.accounted, h.taken, h.grown, ?_, ?_⟩, rfl, hp⟩
    · exact fun secret hmem => bound.may_later h.work.onward (h.issued secret hmem)
    · exact fun mail hmem => (h.background mail hmem).later h.work.onward fun _ hsecret => hsecret

theorem AccountsClean.recordAuditEvent (actor : Option Account) (actorRole action resource : String)
    (resourceId : Option Nat) (metadata : List (String × String)) :
    Triple (AccountsClean env.settings bound p)
      (env.recordAuditEvent actor actorRole action resource resourceId metadata)
      (fun _ => AccountsClean env.settings bound p) (AccountsKept env.settings bound) := by
  intro s h
  refine (h.working (.of_users ?_)).commit ?_
  · rw [h.same]
  · show p s.work.users s.outside.issued
    rw [h.same]
    exact h.holds

/-- A draw. -/
theorem AccountsClean.draw {α : Type} {f : Office → α × Office}
    (hf : ∀ office, (f office).2.store = office.store ∧ (f office).2.issued = office.issued ∧
      (f office).2.taken = office.taken ∧ (f office).2.background = office.background) :
    Triple (AccountsClean env.settings bound p) (call fun _ office => .ok (f office) : AccountProc α)
      (fun _ => AccountsClean env.settings bound p) (AccountsKept env.settings bound) := by
  intro s h
  obtain ⟨hstore, hissued, htaken, hbackground⟩ := hf s.outside
  refine h.outside (s.tick + 1) ⟨?_, ?_⟩ ?_ ?_ ?_ ?_ ?_
  · rw [hstore, hissued]
    exact h.kept.accounted.stored
  · rw [hstore, hissued, htaken]
    exact h.kept.accounted.counted
  · rw [htaken]
  · rw [hissued]
  · rw [hissued]
    exact h.kept.issued
  · rw [hissued, hbackground]
    exact h.kept.background
  · rw [hissued]
    exact h.holds

/-- A row is written over, and committed. -/
theorem AccountsClean.write (user : Account) {user' : Account} {β : Type} {g : Unit → AccountProc β}
    {Q : β → AccountSession → Prop}
    (hbecomes : user.Becomes bound.verified bound.reset user')
    (hp : ∀ users issued, p users issued → get? users user.id = some user)
    (hg : ∀ u, Triple (AccountsClean env.settings bound fun _ _ => True) (g u) Q (AccountsKept env.settings bound)) :
    Triple (AccountsClean env.settings bound p)
      (modify (fun rows => { rows with users := put rows.users user' }) >>= fun _ => env.commit >>= g) Q
      (AccountsKept env.settings bound) := by
  intro s h
  rw [bind_ok (modify_apply _ s)]
  have hkept : AccountsKept env.settings bound { s with work := { s.work with users := put s.work.users user' } } := by
    refine h.working ?_
    rw [h.same]
    exact .put (hp _ _ h.holds) hbecomes
  have hends : Triple (fun s' => s' = { s with work := { s.work with users := put s.work.users user' } })
      (env.commit >>= g) Q (AccountsKept env.settings bound) := by
    refine Triple.bind (fun s' hs' => ?_) hg
    subst hs'
    exact hkept.commit trivial
  exact hends _ rfl

/-- An account is inserted, and committed. -/
theorem AccountsClean.insert {user : Account} {β : Type} {g : Unit → AccountProc β} {Q : β → AccountSession → Prop}
    (hrole : user.role = .user) (hunverified : user.emailVerified = false)
    (hp : ∀ (rows : AccountRows) issued, p rows.users issued → rows.byEmail user.email = none)
    (hg : ∀ u, Triple (AccountsClean env.settings bound fun users _ => get? users user.id = some user) (g u) Q
      (AccountsKept env.settings bound)) :
    Triple (AccountsClean env.settings bound p) (body (insertUser user) >>= fun _ => env.commit >>= g) Q
      (AccountsKept env.settings bound) := by
  refine Triple.bind (R := fun _ s => AccountsKept env.settings bound s ∧ get? s.work.users user.id = some user) ?_
    fun _ => ?_
  · refine Triple.body (fun s a rows h hr => ?_) fun s error h _ => h.kept
    obtain ⟨u, hraise, hr⟩ := bind_eq_ok.1 hr
    have hnone : get? s.work.users user.id = none := by
      have hnot := raiseIf_eq_ok.1 hraise
      rw [Bool.not_eq_true, Option.isSome_eq_false_iff, Option.isNone_iff_eq_none] at hnot
      exact hnot
    cases hr
    refine ⟨h.working ?_, get?_insert_self hnone⟩
    rw [h.same] at hnone ⊢
    exact .insert hnone (hp s.saved _ h.holds) hrole hunverified
  · exact Triple.bind (fun s hs => hs.1.commit hs.2) hg

/-- The end of a request. -/
theorem AccountsClean.done {α : Type} (a : α) :
    Triple (AccountsClean env.settings bound p) (pure a : AccountProc α) (fun _ => AccountsKept env.settings bound)
      (AccountsKept env.settings bound) :=
  fun _ h => h.kept

theorem AccountsClean.raised {α : Type} {R : α → AccountSession → Prop} (error : PyError) :
    Triple (AccountsClean env.settings bound p) (raise error : AccountProc α) R (AccountsKept env.settings bound) :=
  fun _ h => h.kept

theorem AccountsClean.mono (h : AccountsClean env.settings bound p s) (hpq : ∀ users issued, p users issued → q users issued) :
    AccountsClean env.settings bound q s :=
  ⟨h.kept, h.same, hpq _ _ h.holds⟩

/-- The accounts are read. -/
theorem AccountsClean.read {β : Type} {g : AccountRows → AccountProc β} {Q : β → AccountSession → Prop}
    (hg : ∀ rows, rows.Distinct →
      Triple (AccountsClean env.settings bound fun users issued => users = rows.users ∧ p users issued) (g rows) Q
        (AccountsKept env.settings bound)) :
    Triple (AccountsClean env.settings bound p) (Proc.read >>= g) Q (AccountsKept env.settings bound) := by
  intro s h
  rw [bind_ok (read_apply s), h.same]
  exact hg s.saved h.kept.distinct s ⟨h.kept, h.same, rfl, h.holds⟩

theorem AccountsClean.tokenUrlsafe :
    Triple (AccountsClean env.settings bound p) env.tokenUrlsafe (fun _ => AccountsClean env.settings bound p)
      (AccountsKept env.settings bound) :=
  AccountsClean.draw fun _ => ⟨rfl, rfl, rfl, rfl⟩

theorem AccountsClean.uuid4 :
    Triple (AccountsClean env.settings bound p) env.uuid4 (fun _ => AccountsClean env.settings bound p)
      (AccountsKept env.settings bound) :=
  AccountsClean.draw fun _ => ⟨rfl, rfl, rfl, rfl⟩

theorem AccountsClean.hashPassword (password : String) :
    Triple (AccountsClean env.settings bound p) (env.hashPassword password) (fun _ => AccountsClean env.settings bound p)
      (AccountsKept env.settings bound) :=
  AccountsClean.draw fun _ => ⟨rfl, rfl, rfl, rfl⟩

/-- A token is issued. -/
theorem AccountsClean.storeToken {purpose : TokenPurpose} {token : String} {value : TokenValue} {ttlSeconds : Nat}
    (hp : ∀ users issued, p users issued →
      bound.may users ⟨purpose, token, value, env.now + seconds (max ttlSeconds 1)⟩ ∧
        q users (issued ++ [⟨purpose, token, value, env.now + seconds (max ttlSeconds 1)⟩])) :
    Triple (AccountsClean env.settings bound p) (env.storeToken purpose token ttlSeconds value)
      (fun _ => AccountsClean env.settings bound q) (AccountsKept env.settings bound) := by
  intro s h
  obtain ⟨hmay, hq⟩ := hp _ _ h.holds
  refine h.outside (s.tick + 1) (h.kept.accounted.issue env.now purpose token ttlSeconds value _ _) List.prefix_rfl
    (List.prefix_append _ _) ?_ ?_ hq
  · intro secret hmem
    rcases List.mem_append.1 hmem with hold | hnew
    · exact h.kept.issued secret hold
    · rw [List.mem_singleton.1 hnew]
      exact hmay
  · intro mail hmem
    exact (h.kept.background mail hmem).later (.refl s.saved) fun _ => List.mem_append_left _

/-- A mail is handed to the background tasks. -/
theorem AccountsClean.addTask {mail : TokenMail} (hp : ∀ users issued, p users issued → mail.Reaches users issued) :
    Triple (AccountsClean env.settings bound p) (addTask mail) (fun _ => AccountsClean env.settings bound p)
      (AccountsKept env.settings bound) := by
  intro s h
  refine h.outside (s.tick + 1) ⟨h.kept.accounted.stored, h.kept.accounted.counted⟩ List.prefix_rfl List.prefix_rfl
    h.kept.issued ?_ h.holds
  intro other hmem
  rcases List.mem_append.1 hmem with hold | hnew
  · exact h.kept.background other hold
  · rw [List.mem_singleton.1 hnew]
    exact hp _ _ h.holds

/-- The bounds after a key was taken. -/
def AccountsBound.andTaken (bound : AccountsBound) (names : List String) : AccountsBound :=
  { bound with taken := bound.taken ++ names }

/-- A token is taken out. -/
theorem AccountsClean.consumeSingleUseToken (purpose : TokenPurpose) (token : String) (value : Option TokenValue) :
    Triple (fun s => AccountsClean env.settings bound p s ∧ bound.taken = s.outside.taken ∧
        s.outside.store.lookup env.now (tokenKey env.settings purpose token) = value)
      (env.consumeSingleUseToken purpose token)
      (fun found s => AccountsClean env.settings
        (bound.andTaken (if value.isSome then [tokenKey env.settings purpose token] else [])) p s ∧ found = value)
      (AccountsKept env.settings bound) := by
  rintro s ⟨h, htaken, hvalue⟩
  have hfound := (InMemoryTokenStore.getdel_fst s.outside.store env.now (tokenKey env.settings purpose token)).trans hvalue
  refine ⟨⟨⟨h.kept.saved, h.kept.work, h.kept.distinct, h.kept.accounted.take env.now _, ?_, h.kept.grown, h.kept.issued,
    h.kept.background⟩, h.same, h.holds⟩, hfound⟩
  unfold AccountsBound.andTaken
  rw [htaken, ← hfound]
  exact List.prefix_rfl

/-- A token was issued for the account, which is as it was read. -/
def IssuedFor (purpose : TokenPurpose) (token : String) (user : Account) (users : List Account)
    (issued : List IssuedSecret) : Prop :=
  get? users user.id = some user ∧ ∃ secret ∈ issued, secret.purpose = purpose ∧ secret.token = token ∧
    secret.value = .userId user.id

/-- A token for an account is stored. -/
theorem AccountsClean.storeFor {purpose : TokenPurpose} {user : Account} {token : String} {ttlSeconds : Nat}
    (hp : ∀ users issued, p users issued → get? users user.id = some user ∧
      bound.may users ⟨purpose, token, .userId user.id, env.now + seconds (max ttlSeconds 1)⟩) :
    Triple (AccountsClean env.settings bound p) (env.storeToken purpose token ttlSeconds (.userId user.id))
      (fun _ => AccountsClean env.settings bound (IssuedFor purpose token user)) (AccountsKept env.settings bound) := by
  refine AccountsClean.storeToken fun users issued h => ?_
  obtain ⟨hrow, hmay⟩ := hp users issued h
  exact ⟨hmay, hrow, _, List.mem_append_right _ (List.mem_singleton_self _), rfl, rfl, rfl⟩

/-- The token is mailed to the account it was issued for. -/
theorem AccountsClean.mailTo {user : Account} {purpose : TokenPurpose} {toEmail token url : String}
    {toPhone : Option String} (hemail : user.email = toEmail) :
    Triple (AccountsClean env.settings bound (IssuedFor purpose token user))
      (ControlPlane.addTask ⟨purpose, toEmail, token, url, toPhone⟩)
      (fun _ => AccountsClean env.settings bound (IssuedFor purpose token user)) (AccountsKept env.settings bound) := by
  refine AccountsClean.addTask ?_
  rintro users issued ⟨hrow, secret, hmem, hpurpose, htoken, hvalue⟩
  exact ⟨secret, hmem, hpurpose, htoken, user, hvalue, hrow, hemail⟩

theorem AccountsClean.storePasswordReset (user : Account)
    (hp : ∀ users issued token, p users issued → get? users user.id = some user ∧ bound.may users
      ⟨.passwordReset, token, .userId user.id,
        env.now + seconds (max (env.settings.passwordResetTokenExpireMinutes * 60) 1)⟩) :
    Triple (AccountsClean env.settings bound p) (env.storePasswordReset user.id)
      (fun token => AccountsClean env.settings bound (IssuedFor .passwordReset token user))
      (AccountsKept env.settings bound) := by
  unfold AccountEnv.storePasswordReset
  refine Triple.bind AccountsClean.tokenUrlsafe fun token =>
    Triple.bind (AccountsClean.storeFor fun users issued h => hp users issued token h) fun _ => ?_
  exact fun s h => h

theorem AccountsClean.queueEmailVerification {user : Account}
    (hp : ∀ users issued token, p users issued → get? users user.id = some user ∧ bound.may users
      ⟨.emailVerification, token, .userId user.id,
        env.now + seconds (max (env.settings.emailVerificationTokenExpireHours * 60 * 60) 1)⟩) :
    Triple (AccountsClean env.settings bound p) (env.queueEmailVerification user)
      (fun _ => AccountsClean env.settings bound fun _ _ => True) (AccountsKept env.settings bound) := by
  unfold AccountEnv.queueEmailVerification
  refine Triple.bind AccountsClean.tokenUrlsafe fun token =>
    Triple.bind (AccountsClean.storeFor fun users issued h => hp users issued token h) fun _ => ?_
  exact (AccountsClean.mailTo rfl).conseq (fun _ h => h) (fun _ _ h => h.mono fun _ _ _ => trivial) fun _ h => h

end

end ControlPlane
