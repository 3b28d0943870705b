import ControlPlane.System
import ControlPlane.Tenant.Members
import Mathlib.Data.Set.Insert

/-!
# Who decides who owns a tenant

The team endpoints keep a member who is not an owner from taking the owner's role away from anybody.  They do not keep a
member who may manage the team from giving it.
-/

namespace ControlPlane

open Table Session Session.Proc Runs

/-- The users who hold the owner role of a tenant. -/
def Db.owners (db : Db) (tenantId : Nat) : Set Nat :=
  { userId | ∃ m ∈ db.memberships, m.tenantId = tenantId ∧ m.userId = userId ∧ m.role = TenantRole.owner.text }

/-- A user who is a member of the tenant, but neither an owner of it nor a platform admin. -/
structure PlainMember (db : Db) (tenantId userId : Nat) : Prop where
  user : ∃ user, db.user? userId = some user ∧ user.isAdmin = false
  member : ∃ m ∈ db.memberships, m.tenantId = tenantId ∧ m.userId = userId
  notOwner : userId ∉ db.owners tenantId

/-- The user may manage the tenant's team now: by role, and by the tenant's billing. -/
def mayManageTeam (db : Db) (tenantId userId : Nat) (now : Time) : Bool :=
  match db.tenant? tenantId, getMembership db tenantId userId with
  | some tenant, some membership =>
    membership.role ∈ tenantRoleCanManageTeam.map TenantRole.text ∧
      (resolveBillingLifecycle db tenant now).billingBlocked = false
  | _, _ => false

/-- The id of the user an address belongs to, or the one a new user gets, and how many commits it takes to have it. -/
def invitedId (db : Db) (email : String) : Nat × Nat :=
  match db.users.find? fun u => u.email = lower email with
  | some user => (user.id, 0)
  | none => (fresh db.users, 1)

/-- An invitation is accepted and committed: the team may be managed and the user invited is no member yet. -/
def invites (tenantId : Nat) (db : Db) (e : TeamEvent) (email : String) : Prop :=
  mayManageTeam db tenantId e.userId (e.env.clock 0) = true ∧ getMembership db tenantId (invitedId db email).1 = none ∧
    ∀ tick ≤ (invitedId db email).2, e.env.commitFails tick = false

/-- The request makes an owner of somebody who is none: it asks for the owner role and goes through, and what it is about
is an invitation, or the membership of a user who is no owner. -/
def grantsOwner (tenantId : Nat) (db : Db) (e : TeamEvent) : Prop :=
  match e.op with
  | .invite email role => role = .owner ∧ invites tenantId db e email
  | .updateRole memberId role => role = .owner ∧ mayManageTeam db tenantId e.userId (e.env.clock 0) = true ∧
      (∃ m, requireMembership db tenantId memberId = .ok m ∧ m.userId ∉ db.owners tenantId) ∧ e.env.commitFails 0 = false
  | .remove _ => False

/-! ### Opening the team -/

theorem getMembership_of_member {db : Db} {tenantId userId : Nat}
    (h : ∃ m ∈ db.memberships, m.tenantId = tenantId ∧ m.userId = userId) :
    ∃ membership, getMembership db tenantId userId = some membership := by
  obtain ⟨m, hm, htenant, huser⟩ := h
  refine Option.isSome_iff_exists.1 ?_
  unfold getMembership
  rw [List.find?_isSome]
  exact ⟨m, hm, by simp [htenant, huser]⟩

/-- A user without a membership holds no role. -/
theorem not_owner_of_none {db : Db} {tenantId userId : Nat} (h : getMembership db tenantId userId = none) :
    userId ∉ db.owners tenantId := by
  rintro ⟨m, hm, htenant, huser, -⟩
  obtain ⟨membership, hmember⟩ := getMembership_of_member ⟨m, hm, htenant, huser⟩
  rw [h] at hmember
  cases hmember

/-- The team is opened for a member, or refused, and nothing is written. -/
theorem openTeam_member (env : Env) {userId tenantId : Nat} {operation : String} (s : DbSession)
    (h : PlainMember s.work tenantId userId) (hoperation : operation ≠ "Admin password reset") :
    (mayManageTeam s.work tenantId userId (env.clock s.tick) = true ∧ ∃ user tenant, user.isAdmin = false ∧
        tenant.id = tenantId ∧ openTeam env userId tenantId operation s = (.ok (user, tenant), s)) ∨
      (mayManageTeam s.work tenantId userId (env.clock s.tick) = false ∧
        ∃ e, openTeam env userId tenantId operation s = (.error e, s)) := by
  obtain ⟨user, huser, hadmin⟩ := h.user
  obtain ⟨membership, hmembership⟩ := getMembership_of_member h.member
  have huserId : user.id = userId := key_of_get? huser
  have hcurrent : requireUser s.work userId = .ok user := by
    unfold requireUser
    rw [huser]
  -- the member is there already, so the membership of the owner is not written
  have hensure : ∀ tenant : Tenant, tenant.id = tenantId →
      ensureTenantMembership env tenant user s = (.ok (some membership), s) := by
    intro tenant hid
    unfold ensureTenantMembership
    rw [if_neg (by simp [hadmin]), bind_ok (read_apply s), hid, huserId, hmembership]
    rfl
  have hfirst : change env (fun _ _ db => do
      let user ← requireUser db userId
      return (user, db)) s = (.ok user, s) := change_ok (by rw [hcurrent]; rfl)
  unfold openTeam
  rw [bind_ok hfirst]
  cases htenant : s.work.tenant? tenantId with
  | none =>
    have haccess : getAccessibleTenant env tenantId user s = (.error (.httpException 404 "Tenant not found"), s) :=
      bind_error (change_error (by rw [requireTenant, htenant]; rfl))
    exact Or.inr ⟨by unfold mayManageTeam; rw [htenant], _, bind_error haccess⟩
  | some tenant =>
    have hid := Db.tenant?_id htenant
    have haccess : getAccessibleTenant env tenantId user s = (.ok tenant, s) := by
      have hrow : change env (fun _ _ db => do
          let tenant ← requireTenant db tenantId
          return (tenant, db)) s = (.ok tenant, s) := change_ok (by rw [requireTenant, htenant]; rfl)
      exact (bind_ok hrow).trans (bind_ok (hensure tenant hid))
    have hmay : mayManageTeam s.work tenantId userId (env.clock s.tick) = decide
        (membership.role ∈ tenantRoleCanManageTeam.map TenantRole.text ∧
          (resolveBillingLifecycle s.work tenant (env.clock s.tick)).billingBlocked = false) := by
      unfold mayManageTeam
      rw [htenant, hmembership]
    -- the role is looked at first, the block by billing after it
    rw [hmay, bind_ok haccess]
    by_cases hrole : membership.role ∈ tenantRoleCanManageTeam.map TenantRole.text
    · have hrequired : requireRole env tenant user tenantRoleCanManageTeam s = (.ok (), s) :=
        (bind_ok (hensure tenant hid)).trans (by dsimp only; rw [if_pos hrole]; rfl)
      rw [bind_ok hrequired]
      cases hblocked : (resolveBillingLifecycle s.work tenant (env.clock s.tick)).billingBlocked with
      | false =>
        refine Or.inl ⟨decide_eq_true ⟨hrole, rfl⟩, user, tenant, hadmin, hid, bind_ok (change_ok (a := ()) ?_)⟩
        rw [enforceBillingOperationPolicy, if_neg (hoperation ·.1), tenantBillingBlocked, evaluateTenantBillingPolicy,
          hblocked]
        rfl
      | true =>
        refine Or.inr ⟨decide_eq_false fun h => Bool.noConfusion h.2, _, bind_error (change_error
          (e := .httpException 403 (operation ++ " is blocked until billing is restored")) ?_)⟩
        rw [enforceBillingOperationPolicy, if_neg (hoperation ·.1), tenantBillingBlocked, evaluateTenantBillingPolicy,
          hblocked]
        rfl
    · have hrequired : requireRole env tenant user tenantRoleCanManageTeam s =
          (.error (.httpException 403 "Forbidden"), s) :=
        (bind_ok (hensure tenant hid)).trans (by dsimp only; rw [if_neg hrole]; rfl)
      exact Or.inr ⟨decide_eq_false fun h => hrole h.1, _, bind_error hrequired⟩

/-! ### What a request writes -/

/-- After a commit only books are written: the memberships are those committed, if the commit went through. -/
theorem committed_memberships {α : Type} {env : Env} {g : Unit → Proc α}
    (hg : ∀ u, Bookkeeping (fun _ => True) (g u)) (s : DbSession) :
    ((commit env >>= g) s).2.saved.memberships =
      if env.commitFails s.tick then s.saved.memberships else s.work.memberships := by
  rw [commit_bind]
  split
  · rfl
  · obtain ⟨-, hcore⟩ := (hg ()).core (s := { s with
      work := Db.flush (env.clock s.tick) s.saved s.work, saved := Db.flush (env.clock s.tick) s.saved s.work
      tick := s.tick + 1 }) rfl rfl
    have hmemberships := congrArg Db.memberships hcore
    exact hmemberships

/-- The user an invitation is for, which is found or committed, as many commits being made as `invitedId` says. -/
theorem invitedUser_saves (env : Env) (email : String) (db : Db) :
    ∃ s', s'.work.memberships = db.memberships ∧ s'.saved.memberships = db.memberships ∧
      ((invitedUser env (lower email) (opened db []) = (.ok (invitedId db email).1, s') ∧
          s'.tick = (invitedId db email).2 ∧ ∀ tick < s'.tick, env.commitFails tick = false) ∨
        ∃ error, invitedUser env (lower email) (opened db []) = (.error error, s') ∧
          ∃ tick < (invitedId db email).2, env.commitFails tick = true) := by
  unfold invitedId
  cases hfind : db.users.find? fun u => u.email = lower email with
  | some invited =>
    refine ⟨opened db [], rfl, rfl, Or.inl ⟨?_, rfl, fun tick h => absurd h (Nat.not_lt_zero tick)⟩⟩
    exact (bind_ok (read_apply _)).trans (by rw [show (opened db ([] : List Task)).work = db from rfl, hfind]; rfl)
  | none =>
    have hread : invitedUser env (lower email) (opened db []) = (modify (fun db : Db =>
        { db with users := Table.insert db.users ⟨fresh db.users, lower email, false, false⟩ }) >>= fun _ =>
          commit env >>= fun _ => (pure (fresh db.users) : Proc Nat)) (opened db []) :=
      (bind_ok (read_apply _)).trans (by rw [show (opened db ([] : List Task)).work = db from rfl, hfind]; rfl)
    rw [hread, bind_ok (modify_apply _ _), commit_bind]
    by_cases hfails : env.commitFails 0 = true
    · exact ⟨_, rfl, rfl, Or.inr ⟨_, if_pos hfails, 0, Nat.one_pos, hfails⟩⟩
    · refine ⟨_, rfl, rfl, Or.inl ⟨if_neg hfails, rfl, fun tick h => ?_⟩⟩
      obtain rfl : tick = 0 := Nat.lt_one_iff.1 h
      exact eq_false_of_ne_true hfails

/-- Once the session knows the invited user, it adds the membership if there is none and the commit goes through. -/
theorem addMembership_saves {tenantId invited : Nat} {role : TenantRole} {env : Env} {db : Db} {s : DbSession}
    (hwork : s.work.memberships = db.memberships) (hsaved : s.saved.memberships = db.memberships) :
    ((change env (fun _ _ db => addMembership tenantId invited role db) >>= fun id => commit env >>= fun _ => do
        recordAuditEvent env "tenant.member_invited" "memberships" (some id)
        return id : Proc Nat) s).2.saved.memberships =
      if getMembership db tenantId invited = none ∧ env.commitFails s.tick = false then
        Table.insert db.memberships (⟨fresh db.memberships, tenantId, invited, role.text⟩ : TenantMembership)
      else db.memberships := by
  have hbooks : ∀ (id : Nat) (u : Unit), Bookkeeping (fun _ => True) (do
      recordAuditEvent env "tenant.member_invited" "memberships" (some id)
      return id : Proc Nat) := fun id _ => .bind (.recordAuditEvent env _ _ _) fun _ => .pure _
  have hsame : getMembership s.work tenantId invited = getMembership db tenantId invited := by
    unfold getMembership
    rw [hwork]
  cases hmember : getMembership db tenantId invited with
  | some membership =>
    rw [bind_error (change_error (by rw [addMembership, hsame, hmember])), if_neg (by simp)]
    exact hsaved
  | none =>
    rw [bind_ok (change_ok (by rw [addMembership, hsame, hmember])), committed_memberships (hbooks _)]
    dsimp only
    rw [hwork, hsaved]
    cases env.commitFails s.tick <;> simp

/-- An invitation adds a membership with the role it asks for, or it leaves the memberships. -/
theorem teamStep_invite {tenantId : Nat} {db : Db} {e : TeamEvent} {email : String} {role : TenantRole}
    (hplain : PlainMember db tenantId e.userId) (hop : e.op = .invite email role) :
    (invites tenantId db e email ∧ (teamStep tenantId db e).memberships = Table.insert db.memberships
        ⟨fresh db.memberships, tenantId, (invitedId db email).1, role.text⟩) ∨
      (¬invites tenantId db e email ∧ (teamStep tenantId db e).memberships = db.memberships) := by
  have hrole : ¬role ∉ tenantRoles := by cases role <;> decide
  unfold teamStep teamProgram invites
  rw [hop]
  dsimp only
  rw [bind_pure_snd]
  unfold inviteTenantMember
  rcases openTeam_member e.env (opened db []) hplain (show "Member invites" ≠ "Admin password reset" by decide) with
    ⟨hmay, user, tenant, -, hid, hopen⟩ | ⟨hmay, err, hopen⟩
  · rw [bind_ok hopen]
    dsimp only
    rw [if_neg hrole, hid]
    obtain ⟨s', hwork, hsaved, ⟨huser, htick, hgone⟩ | ⟨error, huser, tick, hlt, hfails⟩⟩ :=
      invitedUser_saves e.env email db
    · rw [bind_ok huser, addMembership_saves hwork hsaved, ← htick]
      have hcommits : (∀ tick ≤ s'.tick, e.env.commitFails tick = false) ↔ e.env.commitFails s'.tick = false :=
        ⟨fun h => h _ le_rfl, fun h tick hle => (Nat.lt_or_eq_of_le hle).elim (hgone tick) fun heq => heq ▸ h⟩
      by_cases hgoes : getMembership db tenantId (invitedId db email).1 = none ∧ e.env.commitFails s'.tick = false
      · exact Or.inl ⟨⟨hmay, hgoes.1, hcommits.2 hgoes.2⟩, if_pos hgoes⟩
      · exact Or.inr ⟨fun h => hgoes ⟨h.2.1, hcommits.1 h.2.2⟩, if_neg hgoes⟩
    · rw [bind_error huser]
      exact Or.inr ⟨fun h => Bool.noConfusion (hfails.symm.trans (h.2.2 tick hlt.le)), hsaved⟩
  · rw [bind_error hopen]
    exact Or.inr ⟨fun h => Bool.noConfusion (hmay.symm.trans h.1), rfl⟩

/-- A change of a role writes it to the tenant's membership, which was not an owner's unless it stays one, or it leaves the
memberships. -/
theorem teamStep_updateRole {tenantId memberId : Nat} {db : Db} {e : TeamEvent} {role : TenantRole}
    (hplain : PlainMember db tenantId e.userId) (hop : e.op = .updateRole memberId role) :
    (∃ m, requireMembership db tenantId memberId = .ok m ∧ (m.role = TenantRole.owner.text → role = .owner) ∧
        mayManageTeam db tenantId e.userId (e.env.clock 0) = true ∧ e.env.commitFails 0 = false ∧
        (teamStep tenantId db e).memberships = put db.memberships { m with role := role.text }) ∨
      ((mayManageTeam db tenantId e.userId (e.env.clock 0) = true → e.env.commitFails 0 = false → ∀ m,
          requireMembership db tenantId memberId = .ok m → m.role = TenantRole.owner.text ∧ role ≠ .owner) ∧
        (teamStep tenantId db e).memberships = db.memberships) := by
  have hbooks : ∀ _ : Unit, Bookkeeping (fun _ => True)
      (recordAuditEvent e.env "tenant.member_role_updated" "memberships" (some memberId)) :=
    fun _ => .recordAuditEvent e.env _ _ _
  have hrole : ¬role ∉ tenantRoles := by cases role <;> decide
  unfold teamStep teamProgram
  rw [hop]
  dsimp only
  unfold updateTenantMemberRole
  rcases openTeam_member e.env (opened db []) hplain (show "Member role updates" ≠ "Admin password reset" by decide) with
    ⟨hmay, user, tenant, hadmin, hid, hopen⟩ | ⟨hmay, err, hopen⟩
  · rw [bind_ok hopen]
    dsimp only
    rw [hid]
    cases hmember : requireMembership db tenantId memberId with
    | error err =>
      refine Or.inr ⟨fun _ _ m hm => (by cases hm), ?_⟩
      have hassign : assignRole user tenantId memberId role db = .error err := by
        rw [assignRole, hmember]
        rfl
      rw [bind_error (change_error hassign)]
      rfl
    | ok m =>
      -- only an owner who is to get another role is refused; a plain member is no administrator
      by_cases howner : m.role = TenantRole.owner.text ∧ role ≠ .owner
      · refine Or.inr ⟨fun _ _ m' hm' => (by cases hm'; exact howner), ?_⟩
        have hassign : assignRole user tenantId memberId role db =
            .error (.httpException 409 "Owner role cannot be changed") := by
          rw [assignRole, hmember]
          simp only [Bind.bind, Except.bind, raiseIf]
          rw [if_neg hrole, if_pos ⟨howner.1, howner.2, by simp [hadmin]⟩]
        rw [bind_error (change_error hassign)]
        rfl
      · have hassign : assignRole user tenantId memberId role db =
            .ok ((), { db with memberships := put db.memberships { m with role := role.text } }) := by
          rw [assignRole, hmember]
          simp only [Bind.bind, Except.bind, raiseIf]
          rw [if_neg hrole, if_neg fun h => howner ⟨h.1, h.2.1⟩]
          rfl
        rw [bind_ok (change_ok hassign), committed_memberships hbooks]
        cases hfail : e.env.commitFails 0 with
        | true => exact Or.inr ⟨fun _ h => (by cases h), if_pos hfail⟩
        | false =>
          refine Or.inl ⟨m, rfl, fun h => not_not.1 fun hne => howner ⟨h, hne⟩, hmay, rfl, if_neg ?_⟩
          exact fun h => Bool.noConfusion (hfail.symm.trans h)
  · rw [bind_error hopen]
    exact Or.inr ⟨fun h => Bool.noConfusion (hmay.symm.trans h), rfl⟩

/-- A removal deletes a membership that is not an owner's, or it leaves the memberships. -/
theorem teamStep_remove {tenantId memberId : Nat} {db : Db} {e : TeamEvent}
    (hplain : PlainMember db tenantId e.userId) (hop : e.op = .remove memberId) :
    (∃ m, requireMembership db tenantId memberId = .ok m ∧ m.role ≠ TenantRole.owner.text ∧
        (teamStep tenantId db e).memberships = db.memberships.filter fun m => m.id ≠ memberId) ∨
      (teamStep tenantId db e).memberships = db.memberships := by
  have hbooks : ∀ _ : Unit, Bookkeeping (fun _ => True)
      (recordAuditEvent e.env "tenant.member_removed" "memberships" (some memberId)) :=
    fun _ => .recordAuditEvent e.env _ _ _
  unfold teamStep teamProgram
  rw [hop]
  dsimp only
  unfold removeTenantMember
  rcases openTeam_member e.env (opened db []) hplain (show "Member removal" ≠ "Admin password reset" by decide) with
    ⟨hmay, user, tenant, hadmin, hid, hopen⟩ | ⟨hmay, err, hopen⟩
  · rw [bind_ok hopen]
    dsimp only
    rw [hid]
    cases hdelete : deleteMembership tenantId memberId db with
    | error err =>
      rw [bind_error (change_error hdelete)]
      exact Or.inr rfl
    | ok r =>
      obtain ⟨⟨⟩, db'⟩ := r
      obtain ⟨m, hm, hrest⟩ := bind_eq_ok.1 hdelete
      obtain ⟨⟨⟩, howner, hrest⟩ := bind_eq_ok.1 hrest
      cases hrest
      rw [bind_ok (change_ok hdelete), committed_memberships hbooks]
      dsimp only
      split
      · exact Or.inr rfl
      · exact Or.inl ⟨m, hm, raiseIf_eq_ok.1 howner, rfl⟩
  · rw [bind_error hopen]
    exact Or.inr rfl

/-! ### The owners after a request -/

section

variable {db db' : Db} {tenantId : Nat}

theorem text_eq_owner {role : TenantRole} : role.text = TenantRole.owner.text ↔ role = .owner := by
  cases role <;> decide

theorem owners_congr (h : db'.memberships = db.memberships) : db'.owners tenantId = db.owners tenantId := by
  unfold Db.owners
  rw [h]

/-- A new membership makes an owner if its role is the owner's. -/
theorem owners_insert {id userId : Nat} {role : TenantRole}
    (h : db'.memberships = Table.insert db.memberships ⟨id, tenantId, userId, role.text⟩) :
    db'.owners tenantId = if role = .owner then Insert.insert userId (db.owners tenantId) else db.owners tenantId := by
  ext u
  have hmem : u ∈ db'.owners tenantId ↔ u ∈ db.owners tenantId ∨ (u = userId ∧ role = .owner) := by
    unfold Db.owners
    rw [h]
    constructor
    · rintro ⟨m, hm, htenant, huser, hrole⟩
      rcases mem_insert.1 hm with hm | rfl
      · exact Or.inl ⟨m, hm, htenant, huser, hrole⟩
      · exact Or.inr ⟨huser.symm, text_eq_owner.1 hrole⟩
    · rintro (⟨m, hm, htenant, huser, hrole⟩ | ⟨rfl, rfl⟩)
      · exact ⟨m, mem_insert.2 (Or.inl hm), htenant, huser, hrole⟩
      · exact ⟨_, mem_insert.2 (Or.inr rfl), rfl, rfl, rfl⟩
  rw [hmem]
  split
  · rename_i hrole
    simp [hrole, Set.mem_insert_iff, or_comm]
  · rename_i hrole
    simp [hrole]

theorem requireMembership_ok {memberId : Nat} {m : TenantMembership} (h : requireMembership db tenantId memberId = .ok m) :
    get? db.memberships memberId = some m ∧ m.tenantId = tenantId := by
  unfold requireMembership at h
  split at h
  · rename_i m' hm'
    split at h
    · rename_i htenant
      cases h
      exact ⟨hm', htenant⟩
    · cases h
  · cases h

/-- A role written to a membership that was no owner's makes an owner if it is the owner's. -/
theorem owners_put {memberId : Nat} {m : TenantMembership} {role : TenantRole}
    (hids : (db.memberships.map TenantMembership.id).Nodup) (hm : requireMembership db tenantId memberId = .ok m)
    (hkeeps : m.role = TenantRole.owner.text → role = .owner)
    (h : db'.memberships = put db.memberships { m with role := role.text }) :
    db'.owners tenantId = if role = .owner then Insert.insert m.userId (db.owners tenantId) else db.owners tenantId := by
  obtain ⟨hget, htenant⟩ := requireMembership_ok hm
  have hid : m.id = memberId := key_of_get? hget
  -- the only row that changes is that of the membership
  have hrow : ∀ a ∈ db.memberships, a.id = m.id → a = m := by
    intro a ha hkey
    have hfound := get?_of_mem hids ha
    rw [show key a = memberId from hkey.trans hid, hget] at hfound
    exact (Option.some.inj hfound).symm
  have hmem : ∀ u, u ∈ db'.owners tenantId ↔ u ∈ db.owners tenantId ∨ (u = m.userId ∧ role = .owner) := by
    intro u
    unfold Db.owners
    rw [h]
    constructor
    · rintro ⟨a, ha, hat, hau, har⟩
      rcases mem_put ha with rfl | ha
      · exact Or.inr ⟨hau.symm, text_eq_owner.1 har⟩
      · exact Or.inl ⟨a, ha, hat, hau, har⟩
    · rintro (⟨a, ha, hat, hau, har⟩ | ⟨rfl, rfl⟩)
      · by_cases hkey : a.id = m.id
        · obtain rfl := hrow a ha hkey
          refine ⟨{ a with role := role.text }, List.mem_map.2 ⟨a, ha, if_pos rfl⟩, hat, hau, ?_⟩
          exact text_eq_owner.2 (hkeeps har)
        · exact ⟨a, List.mem_map.2 ⟨a, ha, if_neg hkey⟩, hat, hau, har⟩
      · exact ⟨_, List.mem_map.2 ⟨m, mem_of_get? hget, if_pos rfl⟩, htenant, rfl, rfl⟩
  ext u
  rw [hmem u]
  split
  · rename_i hrole
    simp [hrole, Set.mem_insert_iff, or_comm]
  · rename_i hrole
    simp [hrole]

/-- Deleting a membership that is no owner's leaves the owners. -/
theorem owners_filter {memberId : Nat} {m : TenantMembership} (hids : (db.memberships.map TenantMembership.id).Nodup)
    (hm : requireMembership db tenantId memberId = .ok m) (hrole : m.role ≠ TenantRole.owner.text)
    (h : db'.memberships = db.memberships.filter fun m => m.id ≠ memberId) :
    db'.owners tenantId = db.owners tenantId := by
  obtain ⟨hget, -⟩ := requireMembership_ok hm
  ext u
  unfold Db.owners
  rw [h]
  constructor
  · rintro ⟨a, ha, hrest⟩
    exact ⟨a, (List.mem_filter.1 ha).1, hrest⟩
  · rintro ⟨a, ha, hat, hau, har⟩
    refine ⟨a, List.mem_filter.2 ⟨ha, decide_eq_true fun hid => ?_⟩, hat, hau, har⟩
    have hfound := get?_of_mem hids ha
    rw [show key a = memberId from hid, hget] at hfound
    exact hrole (by rw [Option.some.inj hfound]; exact har)

end

/-- A request keeps the ids of memberships unique. -/
theorem teamStep_ids {tenantId : Nat} {db : Db} {e : TeamEvent} (hplain : PlainMember db tenantId e.userId)
    (hids : (db.memberships.map TenantMembership.id).Nodup) :
    ((teamStep tenantId db e).memberships.map TenantMembership.id).Nodup := by
  cases hop : e.op with
  | invite email role =>
    rcases teamStep_invite hplain hop with ⟨-, h⟩ | ⟨-, h⟩
    · rw [h]
      exact nodup_insert_fresh hids rfl
    · rwa [h]
  | updateRole memberId role =>
    rcases teamStep_updateRole hplain hop with ⟨m, -, -, -, -, h⟩ | ⟨-, h⟩
    · rw [h]
      exact (map_key_put db.memberships _).symm ▸ hids
    · rwa [h]
  | remove memberId =>
    rcases teamStep_remove hplain hop with ⟨m, -, -, h⟩ | h
    · rw [h]
      exact hids.sublist (List.filter_sublist.map _)
    · rwa [h]

/-- A request of a plain member changes the owners exactly when it grants the owner role. -/
theorem teamStep_owners {tenantId : Nat} {db : Db} {e : TeamEvent} (hplain : PlainMember db tenantId e.userId)
    (hids : (db.memberships.map TenantMembership.id).Nodup) :
    ¬grantsOwner tenantId db e ↔ (teamStep tenantId db e).owners tenantId = db.owners tenantId := by
  unfold grantsOwner
  cases hop : e.op with
  | invite email role =>
    dsimp only
    rcases teamStep_invite hplain hop with ⟨hinvites, h⟩ | ⟨hnot, h⟩
    · rw [owners_insert h]
      by_cases hrole : role = .owner
      · rw [if_pos hrole]
        have hnew : (invitedId db email).1 ∉ db.owners tenantId := not_owner_of_none hinvites.2.1
        refine iff_of_false (fun hno => hno ⟨hrole, hinvites⟩) fun heq => hnew ?_
        rw [← heq]
        exact Set.mem_insert _ _
      · rw [if_neg hrole]
        exact iff_of_true (fun hc => hrole hc.1) rfl
    · exact iff_of_true (fun hc => hnot hc.2) (owners_congr h)
  | updateRole memberId role =>
    dsimp only
    rcases teamStep_updateRole hplain hop with ⟨m, hm, hkeeps, hmay, hcommit, h⟩ | ⟨hnot, h⟩
    · rw [owners_put hids hm hkeeps h]
      by_cases hrole : role = .owner
      · rw [if_pos hrole]
        by_cases howner : m.userId ∈ db.owners tenantId
        · refine iff_of_true ?_ (Set.insert_eq_of_mem howner)
          rintro ⟨-, -, ⟨m', hm', hno⟩, -⟩
          rw [hm] at hm'
          cases hm'
          exact hno howner
        · refine iff_of_false (fun hno => hno ⟨hrole, hmay, ⟨m, hm, howner⟩, hcommit⟩) fun heq => howner ?_
          rw [← heq]
          exact Set.mem_insert _ _
      · rw [if_neg hrole]
        exact iff_of_true (fun hc => hrole hc.1) rfl
    · refine iff_of_true ?_ (owners_congr h)
      rintro ⟨hrole, hmay, ⟨m, hm, -⟩, hcommit⟩
      exact (hnot hmay hcommit m hm).2 hrole
  | remove memberId =>
    refine iff_of_true (fun hc => hc) ?_
    rcases teamStep_remove hplain hop with ⟨m, hm, hrole, h⟩ | h
    · exact owners_filter hids hm hrole h
    · exact owners_congr h

/-- Over any requests of members who are neither owners nor platform admins, the owners stay the same as long as no request
grants the owner role, and only so long. -/
theorem owners_kept_iff {tenantId : Nat} {db : Db} {es : List TeamEvent}
    (hids : (db.memberships.map TenantMembership.id).Nodup)
    (hplain : Steps (teamStep tenantId) (fun db e => PlainMember db tenantId e.userId) db es) :
    Steps (teamStep tenantId) (fun db e => ¬grantsOwner tenantId db e) db es ↔
      Always (teamStep tenantId) (fun db' => db'.owners tenantId = db.owners tenantId) db es := by
  have hkept : Always (teamStep tenantId) (fun db => (db.memberships.map TenantMembership.id).Nodup) db es :=
    Always.of_steps (I := fun db : Db => (db.memberships.map TenantMembership.id).Nodup)
      (fun _ _ hids hplain => teamStep_ids hplain hids) hids hplain
  refine (steps_iff_always_of (I := fun db' => (db'.memberships.map TenantMembership.id).Nodup ∧
    db'.owners tenantId = db.owners tenantId) (fun db' e h hp => ?_) ⟨hids, rfl⟩ hplain).trans ?_
  · rw [teamStep_owners hp h.1, h.2]
    exact (and_iff_right (teamStep_ids hp h.1)).symm
  · exact ⟨fun h => h.mono fun _ hd => hd.2, fun h => hkept.and h⟩

/-- A paid tenant with an owner, an admin and a technical member. -/
def Small.team : Db :=
  let w := Small.after [Small.createTenant, Small.webhook .paymentConfirmed "paid"]
  { w.db with
    users := w.db.users ++ [⟨2, "admin@example.com", false, true⟩, ⟨3, "tech@example.com", false, true⟩]
    memberships := w.db.memberships ++ [⟨2, 1, 2, "admin"⟩, ⟨3, 1, 3, "technical"⟩] }

set_option maxRecDepth 100000 in
theorem Small.team_memberships :
    Small.team.memberships = [⟨1, 1, 1, "owner"⟩, ⟨2, 1, 2, "admin"⟩, ⟨3, 1, 3, "technical"⟩] := by decide +kernel

set_option maxRecDepth 100000 in
theorem Small.team_users : Small.team.users =
    [⟨1, "owner@example.com", false, true⟩, ⟨2, "admin@example.com", false, true⟩, ⟨3, "tech@example.com", false, true⟩] := by
  decide +kernel

theorem Small.team_admin : PlainMember Small.team 1 2 where
  user := ⟨⟨2, "admin@example.com", false, true⟩, by rw [Db.user?, Small.team_users]; rfl, rfl⟩
  member := ⟨⟨2, 1, 2, "admin"⟩, by rw [Small.team_memberships]; simp, rfl, rfl⟩
  notOwner := by
    unfold Db.owners
    rw [Small.team_memberships]
    simp [TenantRole.text]

set_option maxRecDepth 100000 in
private theorem Small.promoted_memberships : (teamStep 1 Small.team ⟨Small.env, 2, .updateRole 2 .owner⟩).memberships =
    [⟨1, 1, 1, "owner"⟩, ⟨2, 1, 2, "owner"⟩, ⟨3, 1, 3, "technical"⟩] := by decide +kernel

/-- An admin of the tenant makes itself an owner. -/
theorem admin_becomes_owner :
    Steps (teamStep 1) (fun db e => PlainMember db 1 e.userId) Small.team [⟨Small.env, 2, .updateRole 2 .owner⟩] ∧
      ¬Always (teamStep 1) (fun db => db.owners 1 = Small.team.owners 1) Small.team
        [⟨Small.env, 2, .updateRole 2 .owner⟩] := by
  refine ⟨⟨Small.team_admin, trivial⟩, fun h => Small.team_admin.notOwner ?_⟩
  rw [← h.2]
  exact ⟨⟨2, 1, 2, "owner"⟩, by rw [Small.promoted_memberships]; simp, rfl, rfl, rfl⟩

/-- The admin makes the technical member a billing member, and the owners stay. -/
theorem owners_kept_demotion :
    Always (teamStep 1) (fun db => db.owners 1 = Small.team.owners 1) Small.team
      [⟨Small.env, 2, .updateRole 3 .billing⟩] := by
  have hplain : Steps (teamStep 1) (fun db e => PlainMember db 1 e.userId) Small.team
      [⟨Small.env, 2, .updateRole 3 .billing⟩] := ⟨Small.team_admin, trivial⟩
  refine (owners_kept_iff (by rw [Small.team_memberships]; decide) hplain).1 ⟨?_, trivial⟩
  rintro ⟨hrole, -⟩
  cases hrole

end ControlPlane
