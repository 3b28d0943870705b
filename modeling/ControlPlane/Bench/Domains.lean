import ControlPlane.Bench.Validators
import ControlPlane.Text

/-!
# Domains and the names made of a subdomain

The domain validators, and the three names a tenant's subdomain is turned into: its domain, the database of its site on
the pooled bench, and the compose project of its pod.  The validators clean a text before they look at it; all that matters
of a cleaning is that it leaves names as they are, as Python's does (`Cleaning.unicode`).
-/

namespace ControlPlane

/-- The characters of names: letters and digits in lower case, dots, hyphens and underscores. -/
def isNameChar (c : Char) : Bool := isLowerAlnum c || c == '.' || c == '-' || c == '_'

/-- `text.strip().lower()` over all of Unicode. -/
structure Cleaning where
  clean : String → String
  clean_name : ∀ text, text.toList.all isNameChar = true → clean text = text

/-- The settings that names are made with. -/
structure NameSettings where
  tenantDomainSuffix : String
  podProjectPrefix : String

/-- The defaults of `Settings`. -/
def NameSettings.default : NameSettings := ⟨"erp.blenkotechnologies.co.tz", "erp-pod"⟩

/-- `DOMAIN_PATTERN`: a letter or digit at both ends of 1 to 253 letters, digits, dots and hyphens. -/
def matchesDomainPattern (text : String) : Bool :=
  match text.toList with
  | [] => false
  | c :: rest =>
    isLowerAlnum c && (rest.getLast?.map isLowerAlnum).getD false &&
      rest.all (fun d => isLowerAlnum d || d == '.' || d == '-') && 2 ≤ rest.length && rest.length ≤ 254

/-- `PROJECT_NAME_PATTERN`: a letter or digit and at most 62 letters, digits, underscores and hyphens. -/
def matchesProjectNamePattern (text : String) : Bool :=
  match text.toList with
  | [] => false
  | c :: rest => isLowerAlnum c && rest.all (fun d => isLowerAlnum d || d == '_' || d == '-') && rest.length ≤ 62

namespace Cleaning

variable (cleaning : Cleaning)

/-- `validate_subdomain`. -/
def validateSubdomain (subdomain : String) : Except PyError String :=
  let cleaned := cleaning.clean subdomain
  if cleaned ∈ blocklist then .error (.valueError "This subdomain is reserved")
  else if ¬matchesSubdomainPattern cleaned then .error (.valueError "Invalid subdomain")
  else .ok cleaned

def validateDomain (settings : NameSettings) (domain : String) : Except PyError String :=
  let cleaned := cleaning.clean domain
  if ¬matchesDomainPattern cleaned then .error (.valueError "Invalid domain")
  else
    let expectedSuffix := "." ++ settings.tenantDomainSuffix
    if ¬expectedSuffix.toList <:+ cleaned.toList then .error (.valueError ("Domain must end with " ++ expectedSuffix))
    else .ok cleaned

def validateCustomDomain (settings : NameSettings) (domain : String) : Except PyError String :=
  let cleaned := cleaning.clean domain
  if ¬matchesDomainPattern cleaned then .error (.valueError "Invalid domain")
  else
    let platformSuffix := "." ++ settings.tenantDomainSuffix
    if platformSuffix.toList <:+ cleaned.toList then
      .error (.valueError ("Custom domains cannot end with " ++ platformSuffix))
    else .ok cleaned

def domainFromSubdomain (settings : NameSettings) (subdomain : String) : Except PyError String := do
  let clean ← cleaning.validateSubdomain subdomain
  return clean ++ "." ++ settings.tenantDomainSuffix

/-- `_validated_project_name`. -/
def validatedProjectName (settings : NameSettings) (subdomain : String) : Except PyError String :=
  let projectPrefix := cleaning.clean settings.podProjectPrefix
  if projectPrefix = "" ∨ ¬matchesProjectNamePattern projectPrefix then
    .error (.valueError "Invalid pod project prefix")
  else
    let projectName := projectPrefix ++ "-" ++ subdomain
    if ¬matchesProjectNamePattern projectName then .error (.valueError "Invalid generated pod project name")
    else .ok projectName

end Cleaning

/-- The database of a pooled site: `site_` and the subdomain with underscores for its hyphens. -/
def dbName (subdomain : String) : String :=
  "site_" ++ String.ofList (subdomain.toList.map fun c => if c = '-' then '_' else c)

/-! ### Characters -/

theorem isLowerAlnum_iff {c : Char} :
    isLowerAlnum c = true ↔ ('a' ≤ c ∧ c ≤ 'z') ∨ ('0' ≤ c ∧ c ≤ '9') := by
  simp [isLowerAlnum]

theorem isNameChar_toNat {c : Char} (h : isNameChar c = true) :
    (97 ≤ c.toNat ∧ c.toNat ≤ 122) ∨ (48 ≤ c.toNat ∧ c.toNat ≤ 57) ∨ c = '.' ∨ c = '-' ∨ c = '_' := by
  unfold isNameChar at h
  simp only [Bool.or_eq_true, beq_iff_eq] at h
  rcases h with ((h | h) | h) | h
  · rcases isLowerAlnum_iff.1 h with ⟨hlow, hhigh⟩ | ⟨hlow, hhigh⟩
    · exact Or.inl ⟨UInt32.le_iff_toNat_le.1 hlow, UInt32.le_iff_toNat_le.1 hhigh⟩
    · exact Or.inr (Or.inl ⟨UInt32.le_iff_toNat_le.1 hlow, UInt32.le_iff_toNat_le.1 hhigh⟩)
  · exact Or.inr (Or.inr (Or.inl h))
  · exact Or.inr (Or.inr (Or.inr (Or.inl h)))
  · exact Or.inr (Or.inr (Or.inr (Or.inr h)))

theorem lt_of_isNameChar {c : Char} (h : isNameChar c = true) : c.toNat < 128 := by
  rcases isNameChar_toNat h with ⟨-, hle⟩ | ⟨-, hle⟩ | rfl | rfl | rfl
  · omega
  · omega
  · decide
  · decide
  · decide

/-- A name character is no white space, and in lower case. -/
theorem clean_of_isNameChar {c : Char} (h : isNameChar c = true) :
    UnicodeText.isSpace c = false ∧ UnicodeText.lowerChar c = [c] := by
  have hall : ∀ n < 128, isNameChar (Char.ofNat n) = true →
      UnicodeText.isSpace (Char.ofNat n) = false ∧ UnicodeText.lowerChar (Char.ofNat n) = [Char.ofNat n] := by
    decide +kernel
  have hc := hall c.toNat (lt_of_isNameChar h)
  rw [Char.ofNat_toNat] at hc
  exact hc h

/-- A name is clean already. -/
theorem normalize_of_isNameChar {text : String} (h : ∀ c ∈ text.toList, isNameChar c = true) :
    normalize text = text := by
  unfold normalize
  rw [strip_of_noSpace fun c hc => (clean_of_isNameChar (h c hc)).1,
    lower_eq_self fun c hc => (clean_of_isNameChar (h c hc)).2]

/-- The cleaning of the tables of Unicode. -/
def Cleaning.unicode : Cleaning where
  clean := normalize
  clean_name _ h := normalize_of_isNameChar (List.all_eq_true.1 h)

/-- With these tables `validate_subdomain` is the one that creates tenants. -/
theorem Cleaning.unicode_validateSubdomain (subdomain : String) :
    Cleaning.unicode.validateSubdomain subdomain = ControlPlane.validateSubdomain subdomain := rfl

end ControlPlane
