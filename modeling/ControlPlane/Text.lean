import ControlPlane.Basic

/-!
# Stripped and lower-case texts

What `strip`, `lower` and `normalize` leave of a text.
-/

namespace ControlPlane

open UnicodeText (isSpace lowerChar)

/-- A text that neither starts nor ends with white space is its own strip. -/
theorem strip_eq_self {text : String} (hhead : ∀ c ∈ text.toList.head?, isSpace c = false)
    (hlast : ∀ c ∈ text.toList.getLast?, isSpace c = false) : strip text = text := by
  unfold strip
  rw [UnicodeText.strip_eq_self hhead hlast, String.ofList_toList]

theorem strip_of_noSpace {text : String} (h : ∀ c ∈ text.toList, isSpace c = false) : strip text = text :=
  strip_eq_self (fun c hc => h c (List.mem_of_head? hc)) fun c hc => h c (List.mem_of_getLast? hc)

/-- A text is checked for white space character by character. -/
theorem noSpace_of_all {text : String} (h : text.toList.all (fun c => !isSpace c) = true) :
    ∀ c ∈ text.toList, isSpace c = false := by
  intro c hc
  have hnot := List.all_eq_true.1 h c hc
  simpa using hnot

/-- Text in front of a text without white space is kept by a strip if it starts with none. -/
theorem strip_append {front text : String} (hfront : ∀ c ∈ front.toList.head?, isSpace c = false)
    (hne : front ≠ "") (htext : text ≠ "") (h : ∀ c ∈ text.toList, isSpace c = false) :
    strip (front ++ text) = front ++ text := by
  have hf : front.toList ≠ [] := by
    intro heq
    exact hne (String.toList_eq_nil_iff.1 heq)
  have ht : text.toList ≠ [] := by
    intro heq
    exact htext (String.toList_eq_nil_iff.1 heq)
  apply strip_eq_self
  · intro c hc
    rw [String.toList_append, List.head?_append_of_ne_nil _ hf] at hc
    exact hfront c hc
  · intro c hc
    rw [String.toList_append, List.getLast?_append_of_ne_nil _ ht] at hc
    exact h c (List.mem_of_getLast? hc)

theorem strip_strip (text : String) : strip (strip text) = strip text := by
  unfold strip
  rw [String.toList_ofList, UnicodeText.strip_strip]

/-- A blank in front of a text is stripped. -/
theorem strip_space (text : String) : strip (" " ++ text) = strip text := by
  unfold strip UnicodeText.strip
  rw [String.toList_append]
  rfl

/-- A stripped text does not start with a blank. -/
theorem strip_head (text : String) : (strip text).toList.head? ≠ some ' ' := by
  intro h
  unfold strip at h
  rw [String.toList_ofList] at h
  exact absurd (UnicodeText.strip_head h) (by decide)

/-! ### Lower case -/

theorem toLower_toLower (c : Char) : c.toLower.toLower = c.toLower := by
  by_cases h : c.val ≥ 'A'.val ∧ c.val ≤ 'Z'.val
  · have hlow := UInt32.le_iff_toNat_le.1 h.1
    have hhigh := UInt32.le_iff_toNat_le.1 h.2
    have hnot : ¬(c.toLower.val ≥ 'A'.val ∧ c.toLower.val ≤ 'Z'.val) := by
      rintro ⟨-, hupper⟩
      have hle := UInt32.le_iff_toNat_le.1 hupper
      unfold Char.toLower at hle
      rw [dif_pos h] at hle
      simp at hlow hhigh hle
      omega
    unfold Char.toLower at hnot ⊢
    rw [dif_neg hnot]
  · unfold Char.toLower
    rw [dif_neg h, dif_neg h]

/-- A text in lower case is its own lower case. -/
theorem lower_eq_self {text : String} (h : ∀ c ∈ text.toList, lowerChar c = [c]) : lower text = text := by
  unfold lower UnicodeText.lower
  rw [UnicodeText.lowerFrom_eq_self h, String.ofList_toList]

theorem lower_head (text : String) (h : (lower text).toList.head? = some ' ') : text.toList.head? = some ' ' := by
  unfold lower UnicodeText.lower at h
  rw [String.toList_ofList] at h
  cases htext : text.toList with
  | nil =>
    rw [htext] at h
    cases h
  | cons c rest =>
    rw [htext] at h
    obtain ⟨piece, heq, hne, hpiece, hself⟩ := UnicodeText.lowerFrom_cons [] c rest
    obtain ⟨d, piece, rfl⟩ := List.exists_cons_of_ne_nil hne
    rw [heq] at h
    cases h
    have hspace : isSpace c = true := by
      rw [← (hpiece ' ' (List.mem_cons_self ..)).2]
      decide
    have hpiece := hself (UnicodeText.lowerChar_of_isSpace hspace)
    rw [List.head?_cons, ← (List.cons.inj hpiece).1]

theorem lower_eq_empty (text : String) : lower text = "" ↔ text = "" := by
  unfold lower UnicodeText.lower
  rw [← String.toList_eq_nil_iff, String.toList_ofList, UnicodeText.lowerFrom_eq_nil, String.toList_eq_nil_iff]

theorem lower_lower (text : String) : lower (lower text) = lower text := by
  unfold lower
  rw [String.toList_ofList, UnicodeText.lower_lower]

/-- White space has no case. -/
theorem strip_lower (text : String) : strip (lower text) = lower (strip text) := by
  unfold strip lower
  rw [String.toList_ofList, String.toList_ofList, UnicodeText.strip_lower]

theorem normalize_normalize (text : String) : normalize (normalize text) = normalize text := by
  unfold normalize
  rw [strip_lower, strip_strip, lower_lower]

end ControlPlane
