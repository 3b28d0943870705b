import ControlPlane.AcceptedSubdomains
import Mathlib.Data.List.DropRight

/-!
# The suggested subdomain

The onboarding page turns what was typed into a subdomain by a chain of rewrites: lower case, letters, digits and hyphens
only, no hyphens at the ends, at most 63 characters.  The cut comes last, so it can leave a hyphen at the end again; the
server accepts the suggestion, and a second rewrite keeps it, if and only if the 63rd character before the cut is none.
-/

namespace ControlPlane.SaasUi

/-- `toLowerCase` over all of Unicode; ASCII characters have the lower case that they have everywhere. -/
structure LowerCasing where
  toLowerCase : String → String
  toLowerCase_ascii : ∀ text, text.toList.all (fun c => decide (c.toNat < 128)) = true → toLowerCase text = lower text

/-- The lower case of the tables of Unicode. -/
def LowerCasing.unicode : LowerCasing := ⟨lower, fun _ _ => rfl⟩

/-- `.replace(/^-+|-+$/g, "")`. -/
def trimHyphens (text : List Char) : List Char := (text.dropWhile (· == '-')).rdropWhile (· == '-')

/-- The rewrites before the cut. -/
def sanitizedLetters (casing : LowerCasing) (input : String) : List Char :=
  trimHyphens ((casing.toLowerCase input).toList.filter isSubdomainChar)

def sanitizeSubdomain (casing : LowerCasing) (input : String) : String :=
  String.ofList ((sanitizedLetters casing input).take 63)

/-! ### Trimming -/

theorem trimHyphens_subset {text : List Char} {c : Char} (h : c ∈ trimHyphens text) : c ∈ text :=
  (List.dropWhile_suffix _).mem ((List.rdropWhile_prefix _ _).mem h)

theorem trimHyphens_head {text : List Char} : (trimHyphens text).head? ≠ some '-' := by
  intro h
  have hstart : trimHyphens text <+: text.dropWhile (· == '-') := List.rdropWhile_prefix _ _
  obtain ⟨rest, hrest⟩ := List.head?_eq_some_iff.1 h
  obtain ⟨tail, htail⟩ := hstart
  have hne : text.dropWhile (· == '-') ≠ [] := by
    rw [← htail, hrest]
    simp
  have hhead := List.head_dropWhile_not (· == '-') hne
  simp only [← htail, hrest, List.cons_append, List.head_cons] at hhead
  exact absurd hhead (by decide)

theorem trimHyphens_last {text : List Char} : (trimHyphens text).getLast? ≠ some '-' := by
  intro h
  obtain ⟨front, hfront⟩ := List.getLast?_eq_some_iff.1 h
  have hne : trimHyphens text ≠ [] := by
    rw [hfront]
    simp
  have hlast := List.rdropWhile_last_not (· == '-') (text.dropWhile (· == '-')) hne
  have hlast' : (trimHyphens text).getLast hne ≠ '-' := by
    intro heq
    refine hlast ?_
    show ((trimHyphens text).getLast hne == '-') = true
    rw [heq]
    rfl
  simp [hfront] at hlast'

/-- A text without hyphens at its ends stays as it is, and one that ends with a hyphen does not. -/
theorem trimHyphens_eq_self_iff {text : List Char} (hhead : text.head? ≠ some '-') :
    trimHyphens text = text ↔ text.getLast? ≠ some '-' := by
  constructor
  · intro h hlast
    rw [← h] at hlast
    exact trimHyphens_last hlast
  · intro hlast
    have hdrop : text.dropWhile (· == '-') = text := by
      cases text with
      | nil => rfl
      | cons c rest =>
        rw [List.dropWhile_cons_of_neg]
        intro hc
        exact hhead (by simpa using hc)
    unfold trimHyphens
    rw [hdrop, List.rdropWhile_eq_self_iff]
    intro hne hc
    refine hlast ?_
    rw [List.getLast?_eq_some_getLast hne]
    simpa using hc

/-! ### What the rewrites leave -/

section

variable {casing : LowerCasing} {input : String}

theorem sanitizedLetters_chars {c : Char} (h : c ∈ sanitizedLetters casing input) : isSubdomainChar c = true :=
  List.of_mem_filter (trimHyphens_subset h)

theorem toList_sanitizeSubdomain :
    (sanitizeSubdomain casing input).toList = (sanitizedLetters casing input).take 63 := String.toList_ofList

/-- A rewrite of a suggestion only trims it. -/
theorem sanitizedLetters_of_chars {s : String} (h : ∀ c ∈ s.toList, isSubdomainChar c = true) :
    sanitizedLetters casing s = trimHyphens s.toList := by
  have hname : ∀ c ∈ s.toList, isNameChar c = true := fun c hc => isNameChar_of_isSubdomainChar (h c hc)
  have hascii : s.toList.all (fun c => decide (c.toNat < 128)) = true :=
    List.all_eq_true.2 fun c hc => decide_eq_true (lt_of_isNameChar (hname c hc))
  have hlower : lower s = s := lower_eq_self fun c hc => (clean_of_isNameChar (hname c hc)).2
  unfold sanitizedLetters
  rw [casing.toLowerCase_ascii s hascii, hlower, List.filter_eq_self.2 h]

theorem sanitizeSubdomain_head : ((sanitizedLetters casing input).take 63).head? ≠ some '-' := by
  rw [List.head?_take, if_neg (by decide)]
  exact trimHyphens_head

/-- A suggestion ends with a hyphen exactly if the cut is after one. -/
theorem sanitizeSubdomain_last :
    ((sanitizedLetters casing input).take 63).getLast? = some '-' ↔ (sanitizedLetters casing input)[62]? = some '-' := by
  by_cases hshort : (sanitizedLetters casing input).length ≤ 63
  · rw [List.take_of_length_le hshort]
    refine ⟨fun h => absurd h trimHyphens_last, fun h => ?_⟩
    have hlength : (sanitizedLetters casing input).length - 1 = 62 := by
      have hlt := (List.getElem?_eq_some_iff.1 h).1
      omega
    rwa [List.getLast?_eq_getElem?, hlength]
  · rw [List.getLast?_eq_getElem?, List.length_take, Nat.min_eq_left (by omega), List.getElem?_take_of_lt (by decide)]

theorem sanitizeSubdomain_twice :
    sanitizeSubdomain casing (sanitizeSubdomain casing input) = sanitizeSubdomain casing input ↔
      (sanitizedLetters casing input)[62]? ≠ some '-' := by
  have hchars : ∀ c ∈ (sanitizeSubdomain casing input).toList, isSubdomainChar c = true := by
    intro c hc
    rw [toList_sanitizeSubdomain] at hc
    exact sanitizedLetters_chars (List.mem_of_mem_take hc)
  have hlength : (trimHyphens ((sanitizedLetters casing input).take 63)).length ≤ 63 := by
    have hle : (trimHyphens ((sanitizedLetters casing input).take 63)).length ≤
        ((sanitizedLetters casing input).take 63).length :=
      (List.rdropWhile_prefix _ _).length_le.trans (List.dropWhile_suffix _).length_le
    rw [List.length_take] at hle
    omega
  rw [← String.toList_inj, toList_sanitizeSubdomain, sanitizedLetters_of_chars hchars, toList_sanitizeSubdomain,
    List.take_of_length_le hlength, trimHyphens_eq_self_iff sanitizeSubdomain_head, ne_eq, sanitizeSubdomain_last]

/-- A suggestion of at least 3 characters is accepted by the server, unless it was cut after a hyphen. -/
theorem sanitizeSubdomain_matches (hcut : (sanitizedLetters casing input)[62]? ≠ some '-')
    (hlength : 3 ≤ (sanitizeSubdomain casing input).length) :
    matchesSubdomainPattern (sanitizeSubdomain casing input) = true := by
  have hlast : (sanitizeSubdomain casing input).toList.getLast? ≠ some '-' := by
    rw [toList_sanitizeSubdomain, ne_eq, sanitizeSubdomain_last]
    exact hcut
  have hhead : (sanitizeSubdomain casing input).toList.head? ≠ some '-' := by
    rw [toList_sanitizeSubdomain]
    exact sanitizeSubdomain_head
  have hchars : ∀ c ∈ (sanitizeSubdomain casing input).toList, isSubdomainChar c = true := by
    intro c hc
    rw [toList_sanitizeSubdomain] at hc
    exact sanitizedLetters_chars (List.mem_of_mem_take hc)
  have hmax : (sanitizeSubdomain casing input).length ≤ 63 := by
    rw [← String.length_toList, toList_sanitizeSubdomain, List.length_take]
    omega
  exact matchesSubdomainPattern_of hchars hhead hlast hlength hmax

end

/-! ### The suggestion -/

/-- A suggestion is kept by a second rewrite, and accepted by the server if it has at least 3 characters. -/
def SuggestionAccepted (casing : LowerCasing) (input : String) : Prop :=
  sanitizeSubdomain casing (sanitizeSubdomain casing input) = sanitizeSubdomain casing input ∧
    (3 ≤ (sanitizeSubdomain casing input).length → matchesSubdomainPattern (sanitizeSubdomain casing input) = true)

/-- A suggestion is kept and accepted if and only if the cut does not come after a hyphen. -/
theorem suggestion_accepted_iff (casing : LowerCasing) (input : String) :
    SuggestionAccepted casing input ↔ (sanitizedLetters casing input)[62]? ≠ some '-' :=
  ⟨fun h => sanitizeSubdomain_twice.1 h.1, fun h => ⟨sanitizeSubdomain_twice.2 h, sanitizeSubdomain_matches h⟩⟩

/-- 62 letters, a hyphen and another letter: the cut leaves the hyphen at the end. -/
theorem suggestion_cut_after_hyphen : ¬∀ (casing : LowerCasing) (input : String), SuggestionAccepted casing input := by
  intro h
  let typed := String.ofList (List.replicate 62 'a' ++ "-b".toList)
  have htwice : sanitizeSubdomain .unicode (sanitizeSubdomain .unicode typed) = sanitizeSubdomain .unicode typed :=
    (h .unicode typed).1
  exact sanitizeSubdomain_twice.1 htwice (by decide +kernel)

end ControlPlane.SaasUi
