import ControlPlane.Base.UrlReference
import ControlPlane.Basic

/-!
# Login redirects

Where the middleware and the login page send a user who has logged in.  Both look at the `next` parameter as it is
written, while the URL made of it drops tabs and newlines and reads a backslash as a slash: a redirect stays on the site
if and only if the parameter does not name, in one of these ways, an authority other than the site's.
-/

namespace ControlPlane.SaasUi

open Url

/-- `DEFAULT_WORKSPACE_REDIRECT`. -/
def defaultWorkspaceRedirect : String := "/app/overview"

/-- `DEFAULT_POST_LOGIN_REDIRECT`. -/
def defaultPostLoginRedirect : String := "/app/overview"

def startsWith (text start : String) : Bool := decide (start.toList <+: text.toList)

/-- `safeRedirectPath`; a missing parameter is `none`. -/
def safeRedirectPath (value : Option String) : String :=
  match value with
  | none => defaultWorkspaceRedirect
  | some value =>
    if value = "" ∨ ¬startsWith value "/" ∨ startsWith value "//" then defaultWorkspaceRedirect else value

/-- `safePostLoginRedirect` with its default fallback. -/
def safePostLoginRedirect (nextParam : Option String) : String :=
  match nextParam with
  | none => defaultPostLoginRedirect
  | some nextParam =>
    if nextParam = "" ∨ ¬startsWith nextParam "/" ∨ startsWith nextParam "//" then defaultPostLoginRedirect
    else nextParam

/-! ### The middleware -/

structure JwtPayload where
  exp : Option Int
  role : Option String

/-- What the middleware reads of a request. -/
structure NextRequest (η : Type) where
  origin : Origin η
  pathname : String
  search : String
  logout : Option String
  next : Option String
  token : Option String
  role : Option String

/-- A response: on with the request, a redirect to a reference with query parameters, or 403. -/
inductive NextResponse where
  | next (clearsCookies : Bool)
  | redirect (reference : String) (query : List (String × String)) (clearsCookies : Bool)
  | forbidden

def isProtected (pathname : String) : Bool := pathname = "/app" ∨ startsWith pathname "/app/"

def isAdminRoute (pathname : String) : Bool := pathname = "/app/admin" ∨ startsWith pathname "/app/admin/"

def isAdminOperatorRole (role : Option String) : Bool := role = some "admin" ∨ role = some "support"

def isPublicAuthRoute (pathname : String) : Bool :=
  pathname ∈ ["/login", "/signup", "/forgot-password", "/reset-password", "/verify-email"]

/-- `payload?.exp && payload.exp * 1000 <= Date.now()`. -/
def tokenExpired (payload : Option JwtPayload) (now : Int) : Bool :=
  (payload.bind JwtPayload.exp).any fun exp => exp ≠ 0 ∧ exp * 1000 ≤ now

section

variable {η : Type}

/-- `buildLoginUrl`. -/
def redirectToLogin (request : NextRequest η) (sessionExpired : Bool) : NextResponse :=
  .redirect "/login"
    (("next", request.pathname ++ request.search) :: if sessionExpired then [("sessionExpired", "1")] else [])
    sessionExpired

/-- `middleware`; `decodePayload` reads the claims of a token, without checking its signature. -/
def middleware (decodePayload : String → Option JwtPayload) (now : Int) (request : NextRequest η) : NextResponse :=
  let token := orText request.token none
  if request.pathname = "/verify-email" then
    .next false
  else if isPublicAuthRoute request.pathname then
    if request.logout = some "1" then
      .next false
    else
      match token with
      | none => .next false
      | some token =>
        if tokenExpired (decodePayload token) now then .next true
        else .redirect (safeRedirectPath request.next) [] false
  else if ¬isProtected request.pathname then
    .next false
  else
    match token with
    | none => redirectToLogin request false
    | some token =>
      let payload := decodePayload token
      if tokenExpired payload now then
        redirectToLogin request true
      else if isAdminRoute request.pathname ∧ ¬isAdminOperatorRole (request.role.or (payload.bind JwtPayload.role)) then
        .forbidden
      else
        .next false

/-- The middleware redirects to the login page or to the `next` parameter. -/
theorem middleware_redirect {decodePayload : String → Option JwtPayload} {now : Int} {request : NextRequest η}
    {reference : String} {query : List (String × String)} {clearsCookies : Bool}
    (h : middleware decodePayload now request = .redirect reference query clearsCookies) :
    reference = "/login" ∨ reference = safeRedirectPath request.next := by
  unfold middleware redirectToLogin at h
  dsimp only at h
  split at h
  · cases h
  · split at h
    · split at h
      · cases h
      · split at h
        · cases h
        · split at h
          · cases h
          · cases h
            exact Or.inr rfl
    · split at h
      · cases h
      · split at h
        · cases h
          exact Or.inl rfl
        · split at h
          · cases h
            exact Or.inl rfl
          · split at h
            · cases h
            · cases h

end

/-! ### Where the redirects lead -/

theorem safePostLoginRedirect_eq (next : Option String) : safePostLoginRedirect next = safeRedirectPath next := rfl

section

variable {η : Type} {parseHost : List Char → Option η} {origin : Origin η}

/-- Whether the `next` parameter is used as it is. -/
def isKept (value : String) : Bool := startsWith value "/" && !startsWith value "//"

theorem safeRedirectPath_some (value : String) :
    safeRedirectPath (some value) = if isKept value then value else defaultWorkspaceRedirect := by
  have hempty : startsWith "" "/" = false := by decide
  unfold safeRedirectPath isKept
  dsimp only
  by_cases h : value = ""
  · subst h
    rw [if_pos (Or.inl rfl), hempty]
    rfl
  · cases h₁ : startsWith value "/" <;> cases h₂ : startsWith value "//" <;> simp [h]

/-- The `next` parameter names no other site: if it is used as it is, then any authority it names is the site's, or none
at all. -/
def NamesNoOtherSite (parseHost : List Char → Option η) (origin : Origin η) (next : Option String) : Prop :=
  ∀ value, next = some value → isKept value = true → ∀ authority, authorityText? value = some authority →
    ∀ named, authorityOrigin parseHost origin.scheme authority = some named → named = origin

theorem safeRedirectPath_stays_iff (next : Option String) :
    StaysOnSite parseHost origin (safeRedirectPath next) ↔ NamesNoOtherSite parseHost origin next := by
  have hdefault : StaysOnSite parseHost origin defaultWorkspaceRedirect := staysOnSite_of_path (by decide)
  cases next with
  | none =>
    refine ⟨fun _ value h => ?_, fun _ => hdefault⟩
    cases h
  | some value =>
    rw [safeRedirectPath_some]
    cases hkept : isKept value with
    | false =>
      refine ⟨fun _ value' h hkept' => ?_, fun _ => hdefault⟩
      cases h
      rw [hkept] at hkept'
      cases hkept'
    | true =>
      rw [if_pos rfl, staysOnSite_iff]
      constructor
      · intro h value' hvalue _
        cases hvalue
        exact h
      · intro h
        exact h value rfl hkept

/-- Every redirect of the middleware, and the login page's, stays on the site if and only if the `next` parameter names no
other site. -/
theorem login_redirects_stay_iff (parseHost : List Char → Option η) (origin : Origin η) (next : Option String) :
    ((∀ (decodePayload : String → Option JwtPayload) (now : Int) (request : NextRequest η) (reference : String)
          (query : List (String × String)) (clearsCookies : Bool), request.origin = origin → request.next = next →
        middleware decodePayload now request = .redirect reference query clearsCookies →
        StaysOnSite parseHost origin reference) ∧
      StaysOnSite parseHost origin (safePostLoginRedirect next)) ↔ NamesNoOtherSite parseHost origin next := by
  rw [safePostLoginRedirect_eq, ← safeRedirectPath_stays_iff]
  refine ⟨fun h => h.2, fun h => ⟨?_, h⟩⟩
  intro decodePayload now request reference query clearsCookies _ hnext hredirect
  rcases middleware_redirect hredirect with rfl | rfl
  · exact staysOnSite_of_path (by decide)
  · rw [hnext]
    exact h

end

/-- A backslash for the second slash: `/\evil.example` is read as `//evil.example`. -/
theorem backslash_leaves_site :
    ¬∀ (parseHost : List Char → Option String) (origin : Origin String) (next : Option String),
      (∀ (decodePayload : String → Option JwtPayload) (now : Int) (request : NextRequest String) (reference : String)
          (query : List (String × String)) (clearsCookies : Bool), request.origin = origin → request.next = next →
        middleware decodePayload now request = .redirect reference query clearsCookies →
        StaysOnSite parseHost origin reference) ∧
      StaysOnSite parseHost origin (safePostLoginRedirect next) := by
  intro h
  have hstays := (h (fun host => some (String.ofList host)) ⟨"https", "app.example", none⟩ (some "/\\evil.example")).2
  have horigin := hstays ⟨"https", "evil.example", none⟩ (by decide +kernel)
  exact absurd horigin (by decide +kernel)

end ControlPlane.SaasUi
