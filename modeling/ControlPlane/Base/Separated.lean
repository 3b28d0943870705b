import Mathlib.Data.List.Basic

/-!
# Sequences with a separator

A part that does not hold the separator can be read off in front of it.
-/

/-- A field without the separator can be read off in front of it. -/
theorem separated_inj {A : Type} {sep : A} {a a' b b' : List A} (ha : sep ∉ a) (ha' : sep ∉ a')
    (h : a ++ sep :: b = a' ++ sep :: b') : a = a' ∧ b = b' := by
  induction a generalizing a' with
  | nil =>
    cases a' with
    | nil =>
      simp only [List.nil_append, List.cons.injEq, true_and] at h
      exact ⟨rfl, h⟩
    | cons c l =>
      simp only [List.nil_append, List.cons_append, List.cons.injEq] at h
      exact absurd (h.1 ▸ List.mem_cons_self ..) ha'
  | cons c l ih =>
    cases a' with
    | nil =>
      simp only [List.nil_append, List.cons_append, List.cons.injEq] at h
      exact absurd (h.1 ▸ List.mem_cons_self ..) ha
    | cons c' l' =>
      simp only [List.cons_append, List.cons.injEq] at h
      have hl : sep ∉ l := fun hm => ha (List.mem_cons_of_mem _ hm)
      have hl' : sep ∉ l' := fun hm => ha' (List.mem_cons_of_mem _ hm)
      obtain ⟨hll, hb⟩ := ih hl hl' h.2
      exact ⟨by rw [h.1, hll], hb⟩

namespace Separated

variable {A K : Type}

/-- The parts one after another with the separator between them. -/
def join (sep : A) : List (List A) → List A
  | [] => []
  | [part] => part
  | part :: rest => part ++ sep :: join sep rest

/-- Labelled values that do not hold the separator can be read off, whatever the labels hold. -/
theorem join_inj {sep : A} {label value value' : K → List A} {keys : List K} (hv : ∀ k ∈ keys, sep ∉ value k)
    (hv' : ∀ k ∈ keys, sep ∉ value' k)
    (h : join sep (keys.map fun k => label k ++ value k) = join sep (keys.map fun k => label k ++ value' k)) :
    ∀ k ∈ keys, value k = value' k := by
  induction keys with
  | nil => intro k hk; cases hk
  | cons k rest ih =>
    cases rest with
    | nil =>
      intro k' hk'
      rw [List.mem_singleton.1 hk']
      exact List.append_cancel_left h
    | cons k₂ rest =>
      have hhead : value k ++ sep :: join sep ((k₂ :: rest).map fun k => label k ++ value k) =
          value' k ++ sep :: join sep ((k₂ :: rest).map fun k => label k ++ value' k) := by
        have hall : label k ++ value k ++ sep :: join sep ((k₂ :: rest).map fun k => label k ++ value k) =
            label k ++ value' k ++ sep :: join sep ((k₂ :: rest).map fun k => label k ++ value' k) := h
        rw [List.append_assoc, List.append_assoc] at hall
        exact List.append_cancel_left hall
      obtain ⟨hk, hrest⟩ := separated_inj (hv k (List.mem_cons_self ..)) (hv' k (List.mem_cons_self ..)) hhead
      intro k' hk'
      rcases List.mem_cons.1 hk' with rfl | hk'
      · exact hk
      · exact ih (fun k hk => hv k (List.mem_cons_of_mem _ hk)) (fun k hk => hv' k (List.mem_cons_of_mem _ hk)) hrest
          k' hk'

end Separated
