import ControlPlane.Bench.Domains

/-!
# Accepted subdomains

What can be provisioned under an accepted subdomain.  Its domain always passes the domain check, and the three names
made of it never collide with those of another one.  But a subdomain may have 63 characters, while the database name adds
five to at most 64 and the project name eight to at most 63: the names fit if and only if there are at most 55.
-/

namespace ControlPlane

/-- The characters of a subdomain. -/
def isSubdomainChar (c : Char) : Bool := isLowerAlnum c || c == '-'

theorem isNameChar_of_isSubdomainChar {c : Char} (h : isSubdomainChar c = true) : isNameChar c = true := by
  unfold isSubdomainChar at h
  simp only [Bool.or_eq_true, beq_iff_eq] at h
  rcases h with h | h
  · simp [isNameChar, h]
  · simp [isNameChar, h]

theorem isSubdomainChar_ne {c : Char} (h : isSubdomainChar c = true) : c ≠ '_' := by
  rintro rfl
  exact absurd h (by decide)

/-- A text of the subdomain pattern: its first character, the rest, and their bounds. -/
theorem matchesSubdomainPattern_cons {s : String} (h : matchesSubdomainPattern s = true) :
    ∃ c rest, s.toList = c :: rest ∧ isLowerAlnum c = true ∧ (∀ d ∈ s.toList, isSubdomainChar d = true) ∧
      rest.length ≤ 62 := by
  unfold matchesSubdomainPattern at h
  split at h
  · cases h
  · rename_i c heq
    refine ⟨c, [], heq, h, fun d hd => ?_, by simp⟩
    rw [heq, List.mem_singleton] at hd
    subst hd
    simp [isSubdomainChar, h]
  · rename_i c rest hne heq
    simp only [Bool.and_eq_true, List.all_eq_true, decide_eq_true_eq] at h
    obtain ⟨⟨⟨⟨hc, -⟩, hall⟩, -⟩, hlength⟩ := h
    refine ⟨c, rest, heq, hc, fun d hd => ?_, hlength⟩
    rw [heq] at hd
    rcases List.mem_cons.1 hd with rfl | hd
    · simp [isSubdomainChar, hc]
    · exact hall d hd

/-- What at least three characters need for the pattern. -/
theorem matchesSubdomainPattern_of {s : String} (hchars : ∀ c ∈ s.toList, isSubdomainChar c = true)
    (hhead : s.toList.head? ≠ some '-') (hlast : s.toList.getLast? ≠ some '-') (hlow : 3 ≤ s.length)
    (hhigh : s.length ≤ 63) : matchesSubdomainPattern s = true := by
  have halnum : ∀ c ∈ s.toList, c ≠ '-' → isLowerAlnum c = true := by
    intro c hc hne
    have hsub := hchars c hc
    unfold isSubdomainChar at hsub
    simpa [hne] using hsub
  rw [← String.length_toList] at hlow hhigh
  unfold matchesSubdomainPattern
  generalize s.toList = text at *
  match text with
  | [] => simp at hlow
  | [_] => simp at hlow
  | c :: d :: rest =>
    have hc : isLowerAlnum c = true := halnum c (by simp) fun h => hhead (by rw [h]; rfl)
    have hend : ((d :: rest).getLast?.map isLowerAlnum).getD false = true := by
      rw [List.getLast?_eq_some_getLast (by simp)]
      refine halnum _ (List.mem_cons_of_mem _ (List.getLast_mem _)) fun h => hlast ?_
      rw [List.getLast?_cons_cons, List.getLast?_eq_some_getLast (by simp), h]
    have hinner : (d :: rest).all (fun e => isLowerAlnum e || e == '-') = true :=
      List.all_eq_true.2 fun e he => hchars e (List.mem_cons_of_mem _ he)
    simp only [List.length_cons] at hlow hhigh
    dsimp only
    rw [hc, hend, hinner]
    simp only [List.length_cons, Bool.true_and, Bool.and_eq_true, decide_eq_true_eq]
    omega

theorem validateSubdomain_ok {cleaning : Cleaning} {text s : String} (h : cleaning.validateSubdomain text = .ok s) :
    matchesSubdomainPattern s = true := by
  unfold Cleaning.validateSubdomain at h
  dsimp only at h
  split at h
  · cases h
  · split at h
    · cases h
    · rename_i hmatches
      cases h
      simpa using hmatches

/-! ### The names -/

/-- The domain of an accepted subdomain. -/
def subdomainDomain (settings : NameSettings) (s : String) : String := s ++ "." ++ settings.tenantDomainSuffix

/-- The project name of an accepted subdomain. -/
def subdomainProject (cleaning : Cleaning) (settings : NameSettings) (s : String) : String :=
  cleaning.clean settings.podProjectPrefix ++ "-" ++ s

theorem toList_dbName (s : String) :
    (dbName s).toList = "site_".toList ++ s.toList.map fun c => if c = '-' then '_' else c := by
  rw [dbName, String.toList_append]
  exact congrArg _ String.toList_ofList

theorem length_dbName (s : String) : (dbName s).length = 5 + s.length := by
  rw [← String.length_toList, toList_dbName, List.length_append, List.length_map, String.length_toList]
  rfl

/-- The hyphens of a subdomain can be read off its database name, as it has no underscores of its own. -/
theorem dbName_inj {s t : String} (hs : ∀ c ∈ s.toList, isSubdomainChar c = true)
    (ht : ∀ c ∈ t.toList, isSubdomainChar c = true) (h : dbName s = dbName t) : s = t := by
  have hback : ∀ l : List Char, (∀ c ∈ l, isSubdomainChar c = true) →
      (l.map fun c => if c = '-' then '_' else c).map (fun c => if c = '_' then '-' else c) = l := by
    intro l hl
    rw [List.map_map]
    conv => rhs; rw [← List.map_id l]
    refine List.map_congr_left fun c hc => ?_
    by_cases hhyphen : c = '-'
    · subst hhyphen
      rfl
    · simp [hhyphen, isSubdomainChar_ne (hl c hc)]
  have hlists := congrArg String.toList h
  rw [toList_dbName, toList_dbName, List.append_cancel_left_eq] at hlists
  rw [← String.toList_inj, ← hback _ hs, ← hback _ ht, hlists]

theorem subdomainDomain_inj {settings : NameSettings} {s t : String}
    (h : subdomainDomain settings s = subdomainDomain settings t) : s = t := by
  have hlists := congrArg String.toList h
  simp only [subdomainDomain, String.toList_append, List.append_cancel_right_eq] at hlists
  exact String.toList_inj.1 hlists

theorem subdomainProject_inj {cleaning : Cleaning} {settings : NameSettings} {s t : String}
    (h : subdomainProject cleaning settings s = subdomainProject cleaning settings t) : s = t := by
  have hlists := congrArg String.toList h
  simp only [subdomainProject, String.toList_append, List.append_cancel_left_eq] at hlists
  exact String.toList_inj.1 hlists

/-! ### The checks of the names -/

section

variable {cleaning : Cleaning} {s : String}

/-- The domain of an accepted subdomain passes the domain check, whatever its length. -/
theorem validateDomain_subdomainDomain (h : matchesSubdomainPattern s = true) :
    cleaning.validateDomain .default (subdomainDomain .default s) = .ok (subdomainDomain .default s) := by
  obtain ⟨c, rest, hs, hc, hall, hlength⟩ := matchesSubdomainPattern_cons h
  have hlist : (subdomainDomain .default s).toList = s.toList ++ ".erp.blenkotechnologies.co.tz".toList := by
    rw [subdomainDomain, String.append_assoc, String.toList_append]
    rfl
  have hname : (subdomainDomain .default s).toList.all isNameChar = true := by
    rw [hlist, List.all_append, Bool.and_eq_true]
    exact ⟨List.all_eq_true.2 fun d hd => isNameChar_of_isSubdomainChar (hall d hd), by decide⟩
  have hmatches : matchesDomainPattern (subdomainDomain .default s) = true := by
    have hinner : rest.all (fun d => isLowerAlnum d || d == '.' || d == '-') = true := by
      refine List.all_eq_true.2 fun d hd => ?_
      have hsub := hall d (by rw [hs]; exact List.mem_cons_of_mem _ hd)
      unfold isSubdomainChar at hsub
      simp only [Bool.or_eq_true] at hsub ⊢
      rcases hsub with hsub | hsub
      · exact Or.inl (Or.inl hsub)
      · exact Or.inr hsub
    unfold matchesDomainPattern
    rw [hlist, hs, List.cons_append]
    dsimp only
    rw [hc, List.getLast?_append_of_ne_nil _ (by decide), List.all_append, hinner, List.length_append]
    have hsuffix : ".erp.blenkotechnologies.co.tz".toList.length = 29 := by decide
    rw [hsuffix]
    have hlow : 2 ≤ rest.length + 29 := by omega
    have hhigh : rest.length + 29 ≤ 254 := by omega
    simp only [hlow, hhigh, decide_true, Bool.and_true, Bool.true_and]
    decide
  have hsuffix : ("." ++ NameSettings.default.tenantDomainSuffix).toList <:+ (subdomainDomain .default s).toList :=
    ⟨s.toList, by rw [hlist]; rfl⟩
  unfold Cleaning.validateDomain
  dsimp only
  rw [cleaning.clean_name _ hname, if_neg (not_not.2 hmatches), if_neg (not_not.2 hsuffix)]

/-- The project name of an accepted subdomain is accepted if the subdomain has at most 55 characters. -/
theorem validatedProjectName_eq (h : matchesSubdomainPattern s = true) :
    cleaning.validatedProjectName .default s =
      if s.length ≤ 55 then .ok (subdomainProject cleaning .default s)
      else .error (.valueError "Invalid generated pod project name") := by
  obtain ⟨c, rest, hs, hc, hall, -⟩ := matchesSubdomainPattern_cons h
  have hclean : cleaning.clean NameSettings.default.podProjectPrefix = "erp-pod" := cleaning.clean_name _ (by decide)
  have hlist : (subdomainProject cleaning .default s).toList = 'e' :: ("rp-pod-".toList ++ s.toList) := by
    rw [subdomainProject, hclean, String.toList_append]
    rfl
  have hinner : s.toList.all (fun d => isLowerAlnum d || d == '_' || d == '-') = true := by
    refine List.all_eq_true.2 fun d hd => ?_
    have hsub := hall d hd
    unfold isSubdomainChar at hsub
    simp only [Bool.or_eq_true] at hsub ⊢
    rcases hsub with hsub | hsub
    · exact Or.inl (Or.inl hsub)
    · exact Or.inr hsub
  have hmatches : matchesProjectNamePattern (subdomainProject cleaning .default s) = decide (s.length ≤ 55) := by
    unfold matchesProjectNamePattern
    rw [hlist]
    dsimp only
    rw [List.all_append, hinner, List.length_append]
    have hstart : "rp-pod-".toList.length + s.toList.length = 7 + s.length := by
      rw [← String.length_toList (s := s)]
      rfl
    have he : isLowerAlnum 'e' = true := by decide
    have hfront : "rp-pod-".toList.all (fun d => isLowerAlnum d || d == '_' || d == '-') = true := by decide
    rw [hstart, he, hfront, Bool.and_true, Bool.true_and]
    exact decide_eq_decide.2 (by omega)
  have hpod : matchesProjectNamePattern "erp-pod" = true := by decide
  unfold Cleaning.validatedProjectName
  dsimp only
  rw [hclean, if_neg (by rintro (h | h); exacts [absurd h (by decide), h hpod])]
  have hname : "erp-pod" ++ "-" ++ s = subdomainProject cleaning .default s := by rw [subdomainProject, hclean]
  rw [hname, hmatches]
  by_cases hle : s.length ≤ 55
  · rw [if_pos hle, if_neg (by simp [hle])]
  · rw [if_neg hle, if_pos (by simp [hle])]

end

/-! ### Provisioning -/

/-- An accepted subdomain can be provisioned: its domain passes the check, its database name is short enough and a pod
accepts its project name. -/
structure NamesFit (cleaning : Cleaning) (s : String) : Prop where
  domain : cleaning.validateDomain .default (subdomainDomain .default s) = .ok (subdomainDomain .default s)
  database : (dbName s).length ≤ 64
  project : cleaning.validatedProjectName .default s = .ok (subdomainProject cleaning .default s)

/-- Two subdomains have no name in common. -/
structure NamesApart (cleaning : Cleaning) (s t : String) : Prop where
  domain : subdomainDomain .default s ≠ subdomainDomain .default t
  database : dbName s ≠ dbName t
  project : subdomainProject cleaning .default s ≠ subdomainProject cleaning .default t

theorem namesApart {cleaning : Cleaning} {text text' s t : String} (hs : cleaning.validateSubdomain text = .ok s)
    (ht : cleaning.validateSubdomain text' = .ok t) (hne : s ≠ t) : NamesApart cleaning s t where
  domain h := hne (subdomainDomain_inj h)
  database h := by
    obtain ⟨-, -, -, -, hs, -⟩ := matchesSubdomainPattern_cons (validateSubdomain_ok hs)
    obtain ⟨-, -, -, -, ht, -⟩ := matchesSubdomainPattern_cons (validateSubdomain_ok ht)
    exact hne (dbName_inj hs ht h)
  project h := hne (subdomainProject_inj h)

theorem namesFit_iff {cleaning : Cleaning} {s : String} (h : matchesSubdomainPattern s = true) :
    NamesFit cleaning s ↔ s.length ≤ 55 := by
  constructor
  · intro hfit
    have hproject := hfit.project
    rw [validatedProjectName_eq h] at hproject
    by_contra hlong
    rw [if_neg hlong] at hproject
    cases hproject
  · intro hle
    refine ⟨validateDomain_subdomainDomain h, ?_, ?_⟩
    · rw [length_dbName]
      omega
    · rw [validatedProjectName_eq h, if_pos hle]

/-- An accepted subdomain can be provisioned under names of its own if and only if it has at most 55 characters. -/
theorem accepted_subdomain_fits_iff (cleaning : Cleaning) {text s : String}
    (h : cleaning.validateSubdomain text = .ok s) :
    (cleaning.domainFromSubdomain .default text = .ok (subdomainDomain .default s) ∧ NamesFit cleaning s ∧
      ∀ text' t, cleaning.validateSubdomain text' = .ok t → s ≠ t → NamesApart cleaning s t) ↔ s.length ≤ 55 := by
  have hdomain : cleaning.domainFromSubdomain .default text = .ok (subdomainDomain .default s) := by
    unfold Cleaning.domainFromSubdomain
    rw [h]
    rfl
  have hfit : NamesFit cleaning s ↔ s.length ≤ 55 := namesFit_iff (validateSubdomain_ok h)
  rw [← hfit]
  exact ⟨fun hall => hall.2.1, fun hfit => ⟨hdomain, hfit, fun _ _ ht hne => namesApart h ht hne⟩⟩

theorem acme_fits :
    (Cleaning.unicode.domainFromSubdomain .default " Acme " = .ok (subdomainDomain .default "acme") ∧
      NamesFit .unicode "acme" ∧
      ∀ text' t, Cleaning.unicode.validateSubdomain text' = .ok t → "acme" ≠ t → NamesApart .unicode "acme" t) ↔
      "acme".length ≤ 55 :=
  @accepted_subdomain_fits_iff .unicode " Acme " "acme" (by rfl)

/-- A subdomain of 63 characters is accepted, and its database name is too long. -/
theorem long_subdomain_does_not_fit :
    ¬∀ (cleaning : Cleaning) (text s : String), cleaning.validateSubdomain text = .ok s →
      cleaning.domainFromSubdomain .default text = .ok (subdomainDomain .default s) ∧ NamesFit cleaning s ∧
        ∀ text' t, cleaning.validateSubdomain text' = .ok t → s ≠ t → NamesApart cleaning s t := by
  intro h
  let long := String.ofList (List.replicate 63 'a')
  have hlong : Cleaning.unicode.validateSubdomain long = .ok long := by decide +kernel
  have hfit := (h .unicode long long hlong).2.1.database
  rw [length_dbName] at hfit
  exact absurd hfit (by decide)

end ControlPlane
