import Mathlib.Logic.Function.Iterate
import ControlPlane.Base.Table
import ControlPlane.Identity.LogoutAll

/-!
# Refreshes at the same time

`refresh_token` looks whether the cookie's `jti` is revoked, loads the user, and only then revokes the `jti` and issues
new tokens.  Here these are separate steps of any number of calls that carry one cookie, each store operation atomic, so
that other calls' steps fall between a call's check and its write.
-/

namespace ControlPlane

open Runs InMemoryTokenStore

/-- Where a call is.  `revoking` and `issuing` carry the user's id. -/
inductive RefreshPhase where
  | decoding
  | checking
  | loading
  | revoking (userId : Nat)
  | issuing (userId : Nat)
  | issued (accessToken refreshToken : TokenPayload)
  | refused
  deriving DecidableEq, Repr

/-- The call has found the token not revoked, and has not revoked it yet. -/
def RefreshPhase.betweenCheckAndWrite : RefreshPhase → Bool
  | .loading | .revoking _ => true
  | _ => false

/-- The call has revoked the token. -/
def RefreshPhase.hasWritten : RefreshPhase → Bool
  | .issuing _ | .issued _ _ => true
  | _ => false

def RefreshPhase.hasIssued : RefreshPhase → Bool
  | .issued _ _ => true
  | _ => false

/-- The call has decoded the token, and has not been refused since. -/
def RefreshPhase.hasDecoded : RefreshPhase → Bool
  | .decoding | .refused => false
  | _ => true

/-- A step of a call of `refresh_token` with the cookie. -/
def refreshPhase (settings : TokenSettings) (cookie : TokenPayload) (s : Identity) :
    RefreshPhase → RefreshPhase × Identity
  | .decoding =>
    match decodeToken s.issued s.now cookie .refresh with
    | none => (.refused, s)
    | some _ => (.checking, s)
  | .checking =>
    let (revoked, s) := s.revokedExists cookie.jti
    (if revoked then .refused else .loading, s)
  | .loading =>
    match s.db.user? cookie.sub with
    | none => (.refused, s)
    | some user => (.revoking user.id, s)
  | .revoking userId => (.issuing userId, s.revoke cookie)
  | .issuing userId =>
    let (newRefreshToken, s) := s.issue settings userId .refresh (some cookie)
    let (accessToken, s) := s.issue settings userId .access (some cookie)
    (.issued accessToken newRefreshToken, s)
  | phase => (phase, s)

structure RefreshRace where
  identity : Identity
  calls : List RefreshPhase

/-- What happens after some time: a call comes, or a call takes a step. -/
inductive RefreshMove where
  | begins (elapsed : Nat)
  | advances (elapsed index : Nat)

namespace RefreshRace

variable (settings : TokenSettings) (cookie : TokenPayload)

def step (s : RefreshRace) : RefreshMove → RefreshRace
  | .begins elapsed => ⟨s.identity.wait elapsed, s.calls ++ [.decoding]⟩
  | .advances elapsed index =>
    match s.calls[index]? with
    | none => ⟨s.identity.wait elapsed, s.calls⟩
    | some phase =>
      let (phase, identity) := refreshPhase settings cookie (s.identity.wait elapsed) phase
      ⟨identity, s.calls.set index phase⟩

/-- At most one call has issued tokens. -/
def RedeemedOnce (s : RefreshRace) : Prop := s.calls.countP RefreshPhase.hasIssued ≤ 1

/-- The record of the revocation has run out by then. -/
def recordOver (s : RefreshRace) (now : Time) : Bool :=
  (s.identity.store.items (.revoked cookie.jti)).any fun item => item.expiresAt ≤ now

/-- A call makes its check while another is between its own check and its write, or when another has written a record
and this has run out since. -/
def passesToo (s : RefreshRace) : RefreshMove → Bool
  | .begins _ => false
  | .advances elapsed index =>
    s.calls[index]? = some .checking &&
      (s.calls.any RefreshPhase.betweenCheckAndWrite ||
        (s.calls.any RefreshPhase.hasWritten && s.recordOver cookie (s.identity.now + elapsed)))

/-! ### The invariant -/

/-- The call has found the token not revoked. -/
def passed (phase : RefreshPhase) : Bool := phase.betweenCheckAndWrite || phase.hasWritten

/-- One call has passed its check at most, and what it wrote is in the store. -/
structure Guarded (s : RefreshRace) : Prop where
  passed : s.calls.countP passed ≤ 1
  written : s.calls.any RefreshPhase.hasWritten = true → (s.identity.store.items (.revoked cookie.jti)).isSome

variable {settings cookie}

theorem Guarded.redeemedOnce {s : RefreshRace} (h : s.Guarded cookie) : s.RedeemedOnce := by
  refine Nat.le_trans (List.countP_mono_left fun phase _ hissued => ?_) h.passed
  cases phase <;> first | rfl | cases hissued

/-- A step that takes place other than at a check: a call passes none that it had not passed. -/
private theorem passed_step (settings : TokenSettings) (cookie : TokenPayload) (s : Identity) {phase : RefreshPhase}
    (hphase : phase ≠ .checking)
    (h : passed (refreshPhase settings cookie s phase).1 = true) : passed phase = true := by
  cases phase with
  | checking => exact absurd rfl hphase
  | decoding =>
    unfold refreshPhase at h
    dsimp only at h
    split at h <;> cases h
  | refused => exact h
  | _ => rfl

/-- What a step other than a check leaves in the store. -/
private theorem items_step (settings : TokenSettings) (cookie : TokenPayload) (s : Identity) {phase : RefreshPhase}
    (hphase : phase ≠ .checking) :
    ((s.store.items (.revoked cookie.jti)).isSome →
      ((refreshPhase settings cookie s phase).2.store.items (.revoked cookie.jti)).isSome) ∧
    (phase.hasWritten = false → (refreshPhase settings cookie s phase).1.hasWritten = true →
      ((refreshPhase settings cookie s phase).2.store.items (.revoked cookie.jti)).isSome) := by
  cases phase with
  | checking => exact absurd rfl hphase
  | decoding =>
    unfold refreshPhase
    dsimp only
    split <;> exact ⟨id, fun _ h => by cases h⟩
  | loading =>
    unfold refreshPhase
    dsimp only
    split <;> exact ⟨id, fun _ h => by cases h⟩
  | revoking userId => simp [refreshPhase, Identity.revoke, setex]
  | issuing userId => exact ⟨id, fun h => by cases h⟩
  | issued accessToken refreshToken => exact ⟨id, fun h => by cases h⟩
  | refused => exact ⟨id, fun _ h => by cases h⟩

theorem refreshPhase_checking (s : Identity) : refreshPhase settings cookie s .checking =
    (if (s.store.lookup s.now (.revoked cookie.jti)).isSome then .refused else .loading,
      { s with store := s.store.purgeExpired s.now (.revoked cookie.jti) }) := by
  unfold refreshPhase
  dsimp only
  rw [Identity.revokedExists_eq]

private theorem step_of_call {s : RefreshRace} {elapsed index : Nat} {phase : RefreshPhase}
    (hcall : s.calls[index]? = some phase) : s.step settings cookie (.advances elapsed index) =
      ⟨(refreshPhase settings cookie (s.identity.wait elapsed) phase).2,
        s.calls.set index (refreshPhase settings cookie (s.identity.wait elapsed) phase).1⟩ := by
  unfold step
  dsimp only
  rw [hcall]

theorem guarded_check {s : RefreshRace} {elapsed index : Nat} (h : s.Guarded cookie)
    (hcall : s.calls[index]? = some .checking) (hc : s.passesToo cookie (.advances elapsed index) = false) :
    (s.step settings cookie (.advances elapsed index)).Guarded cookie := by
  unfold passesToo at hc
  dsimp only at hc
  rw [hcall, decide_eq_true rfl, Bool.true_and, Bool.or_eq_false_iff] at hc
  obtain ⟨hbetween, hover⟩ := hc
  rw [step_of_call hcall, refreshPhase_checking]
  have hcount := fun phase => Table.countP_set_add passed (b := phase) hcall
  cases hwritten : s.calls.any RefreshPhase.hasWritten with
  | true =>
    -- the record of the redemption is found
    rw [hwritten, Bool.true_and] at hover
    have hitems := h.written hwritten
    have hfound : ((s.identity.wait elapsed).store.lookup (s.identity.wait elapsed).now
        (.revoked cookie.jti)).isSome := lookup_isSome_of_current _ _ _ hitems hover
    have hkept : (s.identity.wait elapsed).store.purgeExpired (s.identity.wait elapsed).now
        (.revoked cookie.jti) = s.identity.store := purgeExpired_of_current _ _ _ hover
    dsimp only
    rw [hfound, hkept, if_pos rfl]
    refine ⟨?_, fun _ => hitems⟩
    have hsame := hcount .refused
    have hbefore := h.passed
    simp [passed, RefreshPhase.betweenCheckAndWrite, RefreshPhase.hasWritten] at hsame
    dsimp only
    omega
  | false =>
    have hnone : s.calls.countP passed = 0 := List.countP_eq_zero.2 fun phase hphase => by
      have hnot := List.any_eq_false.1 hbetween phase hphase
      have hnot' := List.any_eq_false.1 hwritten phase hphase
      simp [passed, hnot, hnot']
    have hnext : ∀ phase, phase.hasWritten = false → ∀ identity,
        Guarded cookie ⟨identity, s.calls.set index phase⟩ := by
      intro phase hphase identity
      refine ⟨?_, fun hafter => ?_⟩
      · have hone := hcount phase
        rw [hnone] at hone
        have hle := Bool.toNat_le (passed phase)
        dsimp only
        omega
      · obtain ⟨phase', hphase', hw⟩ := List.any_eq_true.1 hafter
        rcases List.mem_or_eq_of_mem_set hphase' with hold | rfl
        · exact absurd hw (by simpa using List.any_eq_false.1 hwritten phase' hold)
        · rw [hphase] at hw
          cases hw
    dsimp only
    split
    · exact hnext .refused rfl _
    · exact hnext .loading rfl _

theorem guarded_step {s : RefreshRace} {m : RefreshMove} (h : s.Guarded cookie) (hc : s.passesToo cookie m = false) :
    (s.step settings cookie m).Guarded cookie := by
  cases m with
  | begins elapsed =>
    refine ⟨?_, fun hafter => h.written ?_⟩
    · simpa [step, passed, RefreshPhase.betweenCheckAndWrite, RefreshPhase.hasWritten] using h.passed
    · simpa [step, RefreshPhase.hasWritten] using hafter
  | advances elapsed index =>
    cases hcall : s.calls[index]? with
    | none =>
      have hstep : s.step settings cookie (.advances elapsed index) = ⟨s.identity.wait elapsed, s.calls⟩ := by
        unfold step
        dsimp only
        rw [hcall]
      rw [hstep]
      exact ⟨h.passed, h.written⟩
    | some phase =>
      by_cases hphase : phase = .checking
      · subst hphase
        exact guarded_check h hcall hc
      rw [step_of_call hcall]
      -- any step but the check: no more calls have passed it than before, and a record stays
      have hpassed := passed_step settings cookie (s.identity.wait elapsed) hphase
      have hitems := items_step settings cookie (s.identity.wait elapsed) hphase
      revert hpassed hitems
      generalize refreshPhase settings cookie (s.identity.wait elapsed) phase = next
      obtain ⟨phase', identity⟩ := next
      intro hpassed hitems
      refine ⟨?_, fun hafter => ?_⟩
      · have hcount := Table.countP_set_add passed (b := phase') hcall
        have hbefore := h.passed
        have hle : (passed phase').toNat ≤ (passed phase).toNat := by
          cases hp : passed phase' with
          | false => exact Nat.zero_le _
          | true => simp [hpassed hp]
        show (s.calls.set _ phase').countP passed ≤ 1
        omega
      · cases hwas : s.calls.any RefreshPhase.hasWritten with
        | true => exact hitems.1 (h.written hwas)
        | false =>
          have hmem : phase ∈ s.calls := List.mem_of_getElem? hcall
          obtain ⟨phase'', hphase'', hw⟩ := List.any_eq_true.1 hafter
          rcases List.mem_or_eq_of_mem_set hphase'' with hold | rfl
          · exact absurd hw (by simpa using List.any_eq_false.1 hwas phase'' hold)
          · exact hitems.2 (by simpa using List.any_eq_false.1 hwas phase hmem) hw

/-- In every interleaving in which no call makes its check while another is about to write, or after the record of a
redemption has run out, the cookie is redeemed once at most. -/
theorem redeemed_once {settings : TokenSettings} {cookie : TokenPayload} (identity : Identity)
    {moves : List RefreshMove} (hc : Steps (step settings cookie) (fun s m => s.passesToo cookie m = false)
      ⟨identity, []⟩ moves) : Always (step settings cookie) RedeemedOnce ⟨identity, []⟩ moves := by
  have hstart : Guarded cookie ⟨identity, []⟩ := ⟨Nat.zero_le _, fun h => by cases h⟩
  exact (Always.of_steps (fun _ _ h hc => guarded_step h hc) hstart hc).mono fun _ h => h.redeemedOnce

/-! ### A call by itself -/

/-- A call whose steps nothing comes between does what `refresh_token` does. -/
theorem call_undisturbed (settings : TokenSettings) (cookie : TokenPayload) (s : Identity) :
    (fun next : RefreshPhase × Identity => refreshPhase settings cookie next.2 next.1)^[5] (.decoding, s) =
      match s.refreshToken settings (some cookie) with
      | (.ok (accessToken, newRefreshToken), s) => (.issued accessToken newRefreshToken, s)
      | (.error _, s) => (.refused, s) := by
  simp only [Function.iterate_succ, Function.iterate_zero, Function.comp, id]
  unfold Identity.refreshToken
  dsimp only
  cases hdecodes : decodeToken s.issued s.now cookie .refresh with
  | none => simp [refreshPhase, hdecodes]
  | some payload =>
    obtain ⟨rfl, -⟩ := decodeToken_eq_some.1 hdecodes
    have hdecoded : refreshPhase settings payload s .decoding = (.checking, s) := by simp [refreshPhase, hdecodes]
    rw [hdecoded]
    dsimp only
    rw [refreshPhase_checking, Identity.revokedExists_eq]
    dsimp only
    cases hrevoked : (s.store.lookup s.now (.revoked payload.jti)).isSome with
    | true => rfl
    | false =>
      rw [if_neg (by decide), if_neg (by decide)]
      cases huser : s.db.user? payload.sub with
      | none => simp [refreshPhase, huser]
      | some user => simp [refreshPhase, huser]

end RefreshRace

namespace Small

/-- The user is signed in. -/
def signedIn : Identity := ((Identity.started signInDb 0).login tokenSettings "owner@x.io" "secret").2

/-- Two calls of which each makes all its steps. -/
def twoRefreshes (indices : List Nat) : List RefreshMove := [.begins 0, .begins 0] ++ indices.map (.advances 1000)

end Small

open RefreshRace

set_option maxRecDepth 100000 in
/-- Both calls look before either has revoked the token. -/
theorem redeemed_twice : ¬ Always (RefreshRace.step Small.tokenSettings Small.firstRefresh) RedeemedOnce
    ⟨Small.signedIn, []⟩ (Small.twoRefreshes [0, 1, 0, 1, 0, 1, 0, 1, 0, 1]) := by
  intro h
  have hlast := h.last
  unfold RedeemedOnce at hlast
  revert hlast
  decide +kernel

set_option maxRecDepth 100000 in
/-- Calls that look at the store one after the other. -/
theorem redeemed_in_turn : Always (RefreshRace.step Small.tokenSettings Small.firstRefresh) RedeemedOnce
    ⟨Small.signedIn, []⟩ (Small.twoRefreshes [0, 1, 0, 0, 0, 0, 1, 1, 1, 1]) :=
  redeemed_once Small.signedIn (by decide +kernel)

end ControlPlane
