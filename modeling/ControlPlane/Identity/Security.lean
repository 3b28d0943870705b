import ControlPlane.Identity.TokenStore
import ControlPlane.Models

/-!
# Tokens

What the process knows of tokens: their payloads, the settings for their lifetimes, and the list of the payloads it has
signed.  A text whose signature verifies is one that `_create_token` has signed, so a token is modelled by its payload
and decoding looks it up among the signed ones.  Times in a payload are whole seconds, as JWT encodes them.
-/

namespace ControlPlane

inductive TokenType where
  | access | refresh
  deriving DecidableEq, Repr

structure TokenPayload where
  sub : Nat
  exp : Nat
  jti : Nat
  tokenType : TokenType
  deriving DecidableEq, Repr

/-- The part of the configuration that concerns tokens; `verifyPassword` compares a password with the user's hash. -/
structure TokenSettings where
  jwtAccessTokenExpireMinutes : Nat
  jwtRefreshTokenExpireDays : Nat
  isProduction : Bool
  verifyPassword : User → String → Bool

/-- `expires_delta`, in seconds. -/
def TokenSettings.expiresDelta (settings : TokenSettings) : TokenType → Nat
  | .access => settings.jwtAccessTokenExpireMinutes * 60
  | .refresh => settings.jwtRefreshTokenExpireDays * 24 * 60 * 60

/-- A signed payload; when it was signed, and the refresh token it was given for, are for the theorems only. -/
structure IssuedToken where
  payload : TokenPayload
  issuedAt : Time
  refreshedFrom : Option TokenPayload
  deriving DecidableEq, Repr

/-- The seconds of an instant, cut off. -/
def inSeconds (t : Time) : Nat := t / 1000000

/-- `_create_token`; `secrets.token_hex` never gives a `jti` twice. -/
def createToken (settings : TokenSettings) (issued : List IssuedToken) (now : Time) (subject : Nat)
    (tokenType : TokenType) (refreshedFrom : Option TokenPayload) : IssuedToken where
  payload :=
    { sub := subject
      exp := inSeconds (now + seconds (settings.expiresDelta tokenType))
      jti := issued.length
      tokenType := tokenType }
  issuedAt := now
  refreshedFrom := refreshedFrom

/-- The payload has run out: `jwt.decode` compares whole seconds. -/
def TokenPayload.expired (payload : TokenPayload) (now : Time) : Bool := payload.exp < inSeconds now

/-- `decode_token`, where a payload that does not decode is `none`. -/
def decodeToken (issued : List IssuedToken) (now : Time) (token : TokenPayload) (expectedType : TokenType) :
    Option TokenPayload :=
  if token ∈ issued.map IssuedToken.payload ∧ token.expired now = false ∧ token.tokenType = expectedType then some token
  else none

/-- `get_token_ttl_seconds`. -/
def getTokenTtlSeconds (now : Time) (payload : TokenPayload) : Nat := (seconds payload.exp - now) / 1000000

/-- `_token_issued_at`, in microseconds. -/
def tokenIssuedAt (settings : TokenSettings) (payload : TokenPayload) : Int :=
  (payload.exp - settings.jwtAccessTokenExpireMinutes * 60) * 1000000

/-! ### Lemmas -/

theorem decodeToken_eq_some {issued : List IssuedToken} {now : Time} {token payload : TokenPayload}
    {expectedType : TokenType} : decodeToken issued now token expectedType = some payload ↔
      payload = token ∧ (∃ t ∈ issued, t.payload = token) ∧ token.expired now = false ∧
        token.tokenType = expectedType := by
  unfold decodeToken
  constructor
  · intro h
    split at h
    case isTrue hdecodes =>
      cases h
      exact ⟨rfl, List.mem_map.1 hdecodes.1, hdecodes.2⟩
    case isFalse => cases h
  · rintro ⟨rfl, hmem, h⟩
    exact if_pos ⟨List.mem_map.2 hmem, h⟩

theorem inSeconds_add_seconds (t : Time) (n : Nat) : inSeconds (t + seconds n) = inSeconds t + n := by
  unfold inSeconds seconds
  exact Nat.add_mul_div_right t n (by decide)

/-- A token that is decoded has not outlived its last second. -/
theorem lt_of_not_expired {payload : TokenPayload} {now : Time} (h : payload.expired now = false) :
    now < seconds (payload.exp + 1) := by
  have hexp : ¬ payload.exp < inSeconds now := by simpa [TokenPayload.expired] using h
  have hlt : inSeconds now < payload.exp + 1 := by omega
  exact (Nat.div_lt_iff_lt_mul (by decide)).1 hlt

private theorem kept_arith {now later exp : Nat} (h : later < (exp + 1) * 1000000) :
    later < now + max ((exp * 1000000 - now) / 1000000 + 60) 1 * 1000000 := by omega

/-- A record of a revocation, kept for the token's time to live and a minute more, outlives the token. -/
theorem lt_kept (now : Time) {payload : TokenPayload} {later : Time} (h : payload.expired later = false) :
    later < now + seconds (max (getTokenTtlSeconds now payload + 60) 1) := kept_arith (lt_of_not_expired h)

end ControlPlane
