import Mathlib.Data.List.Basic
import Mathlib.Data.List.Infix

/-!
# Pieces of a split list

A list is split at a separator.  Every piece stands between two separators or at an end of the list, so what the pieces
look like at their ends can be read off the neighbours of the separators (`pieces_bounded_iff`).
-/

namespace Pieces

variable {α : Type}

/-- What `intercalate` puts around one of its lists. -/
private theorem intercalate_middle (sep : α) (piece : List α) (before after : List (List α)) :
    ∃ pre post, [sep].intercalate (before ++ piece :: after) = pre ++ piece ++ post ∧
      (pre = [] ∨ pre.getLast? = some sep) ∧ (post = [] ∨ post.head? = some sep) := by
  induction before with
  | nil =>
    cases after with
    | nil => exact ⟨[], [], by simp, Or.inl rfl, Or.inl rfl⟩
    | cons next after =>
      refine ⟨[], sep :: [sep].intercalate (next :: after), ?_, Or.inl rfl, Or.inr rfl⟩
      rw [List.nil_append, List.intercalate_cons_cons]
      simp
  | cons first before ih =>
    obtain ⟨pre, post, heq, hpre, hpost⟩ := ih
    refine ⟨first ++ sep :: pre, post, ?_, Or.inr ?_, hpost⟩
    · rw [List.cons_append, List.intercalate_cons_of_ne_nil (by simp), heq]
      simp
    · rcases hpre with rfl | hpre
      · simp
      · rw [List.getLast?_append_of_ne_nil _ (by simp), List.getLast?_cons, hpre]
        rfl

variable [DecidableEq α] {sep : α} {l piece : List α}

/-- A piece stands between two separators, or at an end of the list. -/
theorem piece_between (h : piece ∈ l.splitOn sep) :
    ∃ pre post, l = pre ++ piece ++ post ∧ (pre = [] ∨ pre.getLast? = some sep) ∧
      (post = [] ∨ post.head? = some sep) := by
  obtain ⟨before, after, hsplit⟩ := List.append_of_mem h
  obtain ⟨pre, post, heq, hpre, hpost⟩ := intercalate_middle sep piece before after
  rw [← hsplit, List.intercalate_splitOn] at heq
  exact ⟨pre, post, heq, hpre, hpost⟩

theorem exists_piece_head {c : α} (hc : c ≠ sep) (l : List α) :
    ∃ piece ∈ (c :: l).splitOn sep, piece.head? = some c := by
  rw [List.splitOn_cons_eq_if_modifyHead, if_neg (by simpa using hc)]
  obtain ⟨first, rest, hsplit⟩ := List.exists_cons_of_ne_nil (List.splitOn_ne_nil sep l)
  rw [hsplit]
  exact ⟨c :: first, by simp, rfl⟩

theorem exists_piece_last {c : α} (hc : c ≠ sep) (l : List α) :
    ∃ piece ∈ (l ++ [c]).splitOn sep, piece.getLast? = some c := by
  induction l with
  | nil =>
    rw [List.nil_append, List.splitOn_eq_singleton (by simpa using fun h => hc h.symm)]
    exact ⟨[c], by simp, rfl⟩
  | cons x l ih =>
    obtain ⟨piece, hmem, hlast⟩ := ih
    rw [List.cons_append, List.splitOn_cons_eq_if_modifyHead]
    split
    · exact ⟨piece, List.mem_cons_of_mem _ hmem, hlast⟩
    · obtain ⟨first, rest, hsplit⟩ := List.exists_cons_of_ne_nil (List.splitOn_ne_nil sep (l ++ [c]))
      rw [hsplit] at hmem ⊢
      rcases List.mem_cons.1 hmem with rfl | hmem
      · refine ⟨x :: piece, by simp, ?_⟩
        rw [List.getLast?_cons, hlast]
        rfl
      · exact ⟨piece, by simp [hmem], hlast⟩

/-- If the pieces are not empty and have no `dash` at their ends, no separator stands next to a separator or a `dash`. -/
theorem not_infix_of_pieces {dash : α} (hdash : dash ≠ sep)
    (h : ∀ piece ∈ l.splitOn sep, piece ≠ [] ∧ piece.head? ≠ some dash ∧ piece.getLast? ≠ some dash) :
    ¬[sep, sep] <:+: l ∧ ¬[sep, dash] <:+: l ∧ ¬[dash, sep] <:+: l := by
  refine ⟨?_, ?_, ?_⟩
  · rintro ⟨a, b, rfl⟩
    have hsplit : (a ++ [sep, sep] ++ b).splitOn sep = a.splitOn sep ++ [] :: b.splitOn sep := by
      rw [List.append_assoc]
      show (a ++ sep :: ([] ++ sep :: b)).splitOn sep = _
      rw [List.splitOn_append_cons_self, List.splitOn_append_cons_self]
      simp
    exact (h [] (by rw [hsplit]; simp)).1 rfl
  · rintro ⟨a, b, rfl⟩
    obtain ⟨piece, hmem, hpiece⟩ := exists_piece_head hdash b
    have hsplit : (a ++ [sep, dash] ++ b).splitOn sep = a.splitOn sep ++ (dash :: b).splitOn sep := by
      rw [List.append_assoc]
      exact List.splitOn_append_cons_self a (dash :: b)
    exact (h piece (by rw [hsplit]; exact List.mem_append_right _ hmem)).2.1 hpiece
  · rintro ⟨a, b, rfl⟩
    obtain ⟨piece, hmem, hpiece⟩ := exists_piece_last hdash a
    have hsplit : (a ++ [dash, sep] ++ b).splitOn sep = (a ++ [dash]).splitOn sep ++ b.splitOn sep := by
      rw [← List.splitOn_append_cons_self]
      simp
    exact (h piece (by rw [hsplit]; exact List.mem_append_left _ hmem)).2.2 hpiece

/-- If no separator stands next to a separator or a `dash`, nor is there one at an end of the list, then no piece is empty
or has a `dash` at an end. -/
theorem piece_bounded {dash : α} (hne : l ≠ []) (hhead : ∀ c ∈ l.head?, c ≠ sep ∧ c ≠ dash)
    (hlast : ∀ c ∈ l.getLast?, c ≠ sep ∧ c ≠ dash) (hsepsep : ¬[sep, sep] <:+: l) (hsepdash : ¬[sep, dash] <:+: l)
    (hdashsep : ¬[dash, sep] <:+: l) (hpiece : piece ∈ l.splitOn sep) :
    piece ≠ [] ∧ piece.head? ≠ some dash ∧ piece.getLast? ≠ some dash := by
  obtain ⟨pre, post, rfl, hpre, hpost⟩ := piece_between hpiece
  -- what a piece would start with stands after a separator or at the head of the list
  have hstart : ∀ c ∈ (piece ++ post).head?, c ≠ dash ∧ c ≠ sep := by
    intro c hc
    obtain ⟨rest, hrest⟩ : ∃ rest, piece ++ post = c :: rest := List.head?_eq_some_iff.1 hc
    rcases hpre with rfl | hpre
    · have hc' := hhead c (by rw [List.nil_append, hrest]; rfl)
      exact ⟨hc'.2, hc'.1⟩
    · obtain ⟨front, rfl⟩ := List.getLast?_eq_some_iff.1 hpre
      refine ⟨?_, ?_⟩
      · rintro rfl
        exact hsepdash ⟨front, rest, by rw [List.append_assoc, List.append_assoc, hrest]; simp⟩
      · rintro rfl
        exact hsepsep ⟨front, rest, by rw [List.append_assoc, List.append_assoc, hrest]; simp⟩
  have hend : ∀ c ∈ piece.getLast?, c ≠ dash := by
    rintro c hc rfl
    obtain ⟨front, rfl⟩ := List.getLast?_eq_some_iff.1 hc
    rcases hpost with rfl | hpost
    · exact (hlast c (by simp)).2 rfl
    · obtain ⟨rest, rfl⟩ := List.head?_eq_some_iff.1 hpost
      exact hdashsep ⟨pre ++ front, rest, by simp⟩
  have hnonempty : piece ≠ [] := by
    rintro rfl
    rcases hpost with rfl | hpost
    · rcases hpre with rfl | hpre
      · exact hne rfl
      · exact (hlast sep (by simpa using hpre)).1 rfl
    · exact (hstart sep (by simpa using hpost)).2 rfl
  refine ⟨hnonempty, fun hc => ?_, fun hc => hend dash hc rfl⟩
  refine (hstart dash ?_).1 rfl
  rw [List.head?_append_of_ne_nil _ hnonempty]
  exact hc

/-- No piece is empty, and none starts or ends with `dash`, if and only if no separator stands next to a separator or a
`dash`, in a list that has neither of them at its ends. -/
theorem pieces_bounded_iff {dash : α} (hdash : dash ≠ sep) (hne : l ≠ [])
    (hhead : ∀ c ∈ l.head?, c ≠ sep ∧ c ≠ dash) (hlast : ∀ c ∈ l.getLast?, c ≠ sep ∧ c ≠ dash) :
    (∀ piece ∈ l.splitOn sep, piece ≠ [] ∧ piece.head? ≠ some dash ∧ piece.getLast? ≠ some dash) ↔
      ¬[sep, sep] <:+: l ∧ ¬[sep, dash] <:+: l ∧ ¬[dash, sep] <:+: l := by
  constructor
  · intro h
    exact not_infix_of_pieces hdash h
  · rintro ⟨hsepsep, hsepdash, hdashsep⟩ piece hpiece
    exact piece_bounded hne hhead hlast hsepsep hsepdash hdashsep hpiece

end Pieces
