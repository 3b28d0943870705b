import ControlPlane.Base.Pieces
import ControlPlane.Bench.Domains
import ControlPlane.Subscription.Service
import ControlPlane.Tenant.Policy

/-!
# Custom domains

What `create_tenant_domain` stores.  The domain pattern looks at characters, not at labels, and the suffix check asks for
a dot before the platform's domain: an accepted domain is a well-formed hostname outside the platform if and only if no
dot of it stands next to a dot or a hyphen, no label is longer than 63 characters, and it is not the platform's domain.
-/

namespace ControlPlane

open Pieces

/-- The columns of `domain_mappings` that the endpoint sets. -/
structure DomainMapping where
  tenantId : Nat
  domain : String
  status : String
  verificationToken : String
  deriving DecidableEq, Repr

/-- `create_tenant_domain`, after the tenant was found and the user's role checked: the mapping that is stored. -/
def createTenantDomain (cleaning : Cleaning) (settings : NameSettings) (db : Db) (mappings : List DomainMapping)
    (tenant : Tenant) (requested verificationToken : String) (now : Time) : Except PyError DomainMapping := do
  enforceBillingOperationPolicy db tenant "Custom domain updates" now
  ensureDomainOperationAllowed tenant
  let domain ← asUnprocessable (cleaning.validateCustomDomain settings requested)
  raiseIf (domain = tenant.domain) (.httpException 409 "Domain is already assigned to this tenant")
  raiseIf ((∃ t ∈ db.tenants, t.domain = domain) ∨ ∃ m ∈ mappings, m.domain = domain)
    (.httpException 409 "Domain is already in use")
  return ⟨tenant.id, domain, "pending", verificationToken⟩

/-! ### What is accepted -/

theorem validateCustomDomain_ok {cleaning : Cleaning} {settings : NameSettings} {requested domain : String}
    (h : cleaning.validateCustomDomain settings requested = .ok domain) :
    domain = cleaning.clean requested ∧ matchesDomainPattern domain = true ∧
      ¬("." ++ settings.tenantDomainSuffix).toList <:+ domain.toList := by
  unfold Cleaning.validateCustomDomain at h
  dsimp only at h
  split at h
  · cases h
  · rename_i hmatches
    split at h
    · cases h
    · rename_i hsuffix
      cases h
      exact ⟨rfl, by simpa using hmatches, hsuffix⟩

theorem createTenantDomain_ok {cleaning : Cleaning} {settings : NameSettings} {db : Db} {mappings : List DomainMapping}
    {tenant : Tenant} {requested verificationToken : String} {now : Time} {mapping : DomainMapping}
    (h : createTenantDomain cleaning settings db mappings tenant requested verificationToken now = .ok mapping) :
    cleaning.validateCustomDomain settings requested = .ok mapping.domain := by
  obtain ⟨-, -, h⟩ := bind_eq_ok.1 h
  obtain ⟨-, -, h⟩ := bind_eq_ok.1 h
  obtain ⟨domain, hdomain, h⟩ := bind_eq_ok.1 h
  obtain ⟨-, -, h⟩ := bind_eq_ok.1 h
  obtain ⟨-, -, h⟩ := bind_eq_ok.1 h
  cases h
  unfold asUnprocessable at hdomain
  split at hdomain
  · rename_i heq
    rw [heq]
    exact hdomain
  · cases hdomain

/-- A text of the domain pattern has a letter or digit at both of its ends. -/
theorem matchesDomainPattern_ends {d : String} (h : matchesDomainPattern d = true) :
    d.toList ≠ [] ∧ (∀ c ∈ d.toList.head?, isLowerAlnum c = true) ∧ ∀ c ∈ d.toList.getLast?, isLowerAlnum c = true := by
  unfold matchesDomainPattern at h
  split at h
  · cases h
  · rename_i c rest heq
    simp only [Bool.and_eq_true, decide_eq_true_eq] at h
    obtain ⟨⟨⟨⟨hc, hlast⟩, -⟩, hlow⟩, -⟩ := h
    rw [heq]
    have hrest : rest ≠ [] := by
      rintro rfl
      simp at hlow
    refine ⟨by simp, fun d hd => ?_, fun d hd => ?_⟩
    · cases hd
      exact hc
    · rw [show c :: rest = [c] ++ rest from rfl, List.getLast?_append_of_ne_nil _ hrest] at hd
      rw [Option.mem_def.1 hd] at hlast
      exact hlast

/-! ### Hostnames -/

/-- The labels of a domain. -/
def labels (domain : String) : List (List Char) := domain.toList.splitOn '.'

/-- A well-formed hostname: its labels are not empty, have at most 63 characters and neither start nor end with a
hyphen. -/
def WellFormedHostname (domain : String) : Prop :=
  ∀ label ∈ labels domain, label ≠ [] ∧ label.length ≤ 63 ∧ label.head? ≠ some '-' ∧ label.getLast? ≠ some '-'

/-- Neither the platform's domain nor a name under it. -/
def OutsidePlatform (settings : NameSettings) (domain : String) : Prop :=
  domain ≠ settings.tenantDomainSuffix ∧ ¬("." ++ settings.tenantDomainSuffix).toList <:+ domain.toList

/-- No dot stands next to a dot or a hyphen, and no label has more than 63 characters. -/
structure PlainDots (domain : String) : Prop where
  dotDot : ¬['.', '.'] <:+: domain.toList
  dotHyphen : ¬['.', '-'] <:+: domain.toList
  hyphenDot : ¬['-', '.'] <:+: domain.toList
  short : ∀ label ∈ labels domain, label.length ≤ 63

theorem wellFormedHostname_iff {d : String} (h : matchesDomainPattern d = true) :
    WellFormedHostname d ↔ PlainDots d := by
  obtain ⟨hne, hhead, hlast⟩ := matchesDomainPattern_ends h
  have halnum : ∀ c, isLowerAlnum c = true → c ≠ '.' ∧ c ≠ '-' := by
    refine fun c hc => ⟨?_, ?_⟩
    · rintro rfl
      exact absurd hc (by decide)
    · rintro rfl
      exact absurd hc (by decide)
  have hends := @pieces_bounded_iff Char _ '.' d.toList '-' (by decide) hne (fun c hc => halnum c (hhead c hc))
    fun c hc => halnum c (hlast c hc)
  constructor
  · intro hwell
    obtain ⟨h₁, h₂, h₃⟩ := hends.1 fun label hmem => ⟨(hwell label hmem).1, (hwell label hmem).2.2⟩
    exact ⟨h₁, h₂, h₃, fun label hmem => (hwell label hmem).2.1⟩
  · intro hplain label hmem
    obtain ⟨h₁, h₂⟩ := hends.2 ⟨hplain.dotDot, hplain.dotHyphen, hplain.hyphenDot⟩ label hmem
    exact ⟨h₁, hplain.short label hmem, h₂⟩

/-- A stored custom domain is a well-formed hostname outside the platform if and only if the cleaned text has plain dots
and is not the platform's domain. -/
theorem custom_domain_outside_iff {cleaning : Cleaning} {settings : NameSettings} {db : Db}
    {mappings : List DomainMapping} {tenant : Tenant} {requested verificationToken : String} {now : Time}
    {mapping : DomainMapping}
    (h : createTenantDomain cleaning settings db mappings tenant requested verificationToken now = .ok mapping) :
    (WellFormedHostname mapping.domain ∧ OutsidePlatform settings mapping.domain) ↔
      PlainDots (cleaning.clean requested) ∧ cleaning.clean requested ≠ settings.tenantDomainSuffix := by
  obtain ⟨hdomain, hmatches, hsuffix⟩ := validateCustomDomain_ok (createTenantDomain_ok h)
  rw [← hdomain, wellFormedHostname_iff hmatches]
  exact and_congr_right fun _ => ⟨fun hout => hout.1, fun hne => ⟨hne, hsuffix⟩⟩

namespace Small

/-- A tenant whose subscription is active. -/
def serving : Tenant :=
  { id := 1, ownerId := 1, organizationId := none, subdomain := "acme", domain := "acme.erp.blenkotechnologies.co.tz"
    siteName := "acme", companyName := "Acme", status := .active, paymentProvider := "stripe", paymentChannel := none
    dpoTransactionToken := none, platformCustomerId := none, updatedAt := 0 }

/-- The rows of that tenant. -/
def serves : Db :=
  { Db.empty with
    tenants := [serving]
    subscriptions := [⟨1, 1, 1, .active, none, none, none, none, none, none, none⟩] }

/-- What is stored for a domain. -/
def mapped (domain : String) : DomainMapping := ⟨1, domain, "pending", "token"⟩

end Small

theorem shop_outside :
    (WellFormedHostname "shop.example.com" ∧ OutsidePlatform .default "shop.example.com") ↔
      PlainDots (Cleaning.unicode.clean "Shop.example.com") ∧
        Cleaning.unicode.clean "Shop.example.com" ≠ NameSettings.default.tenantDomainSuffix :=
  @custom_domain_outside_iff .unicode .default Small.serves [] Small.serving "Shop.example.com" "token" 0
    (Small.mapped "shop.example.com") (by decide +kernel)

/-- The platform's own domain is accepted, and so is a domain with an empty label. -/
theorem platform_domain_accepted :
    ¬∀ (cleaning : Cleaning) (settings : NameSettings) (db : Db) (mappings : List DomainMapping) (tenant : Tenant)
        (requested verificationToken : String) (now : Time) (mapping : DomainMapping),
      createTenantDomain cleaning settings db mappings tenant requested verificationToken now = .ok mapping →
      WellFormedHostname mapping.domain ∧ OutsidePlatform settings mapping.domain := by
  intro h
  have haccepted : createTenantDomain .unicode .default Small.serves [] Small.serving "erp.blenkotechnologies.co.tz" "token"
      0 = .ok (Small.mapped "erp.blenkotechnologies.co.tz") := by decide +kernel
  exact (h _ _ _ _ _ _ _ _ _ haccepted).2.1 rfl

example : createTenantDomain .unicode .default Small.serves [] Small.serving "shop..example.com" "token" 0 =
    .ok (Small.mapped "shop..example.com") := by decide +kernel

end ControlPlane
