import ControlPlane.Base.Table
import Mathlib.Data.List.Forall2

/-!
# Tables that only grow

`Grows R rows rows'` says that every row of `rows` is still there, in its place, as a row it may become under `R`, and that
what was added stands behind.  With equality for `R` this is the order of prefixes.  When `R` is a preorder so is
`Grows R`, and inserting a row or writing a row over its old self moves up in it.
-/

namespace Table

variable {α : Type}

/-- The rows are still there, each as something it may become, and others may have been added behind. -/
def Grows (R : α → α → Prop) (rows rows' : List α) : Prop := ∃ kept added, rows' = kept ++ added ∧ List.Forall₂ R rows kept

/-- Where each row became one row, each row was one. -/
theorem exists_of_forall₂ {R : α → α → Prop} {rows rows' : List α} (h : List.Forall₂ R rows rows') {b : α}
    (hb : b ∈ rows') : ∃ a ∈ rows, R a b := by
  induction h with
  | nil => cases hb
  | @cons a _ _ _ hab _ ih =>
    rcases List.mem_cons.1 hb with rfl | hrest
    · exact ⟨a, List.mem_cons_self, hab⟩
    · obtain ⟨a', ha', hR⟩ := ih hrest
      exact ⟨a', List.mem_cons_of_mem _ ha', hR⟩

namespace Grows

variable {R : α → α → Prop}

theorem refl (hR : ∀ a, R a a) (rows : List α) : Grows R rows rows :=
  ⟨rows, [], (List.append_nil rows).symm, List.forall₂_same.2 fun a _ => hR a⟩

theorem trans (hR : ∀ a b c, R a b → R b c → R a c) {rows rows' rows'' : List α} (h : Grows R rows rows')
    (h' : Grows R rows' rows'') : Grows R rows rows'' := by
  obtain ⟨kept, added, rfl, hkept⟩ := h
  obtain ⟨kept', added', rfl, hkept'⟩ := h'
  obtain ⟨first, second, rfl, hfirst, hsecond⟩ : ∃ first second, kept' = first ++ second ∧
      List.Forall₂ R kept first ∧ List.Forall₂ R added second := by
    refine ⟨kept'.take kept.length, kept'.drop kept.length, (List.take_append_drop _ _).symm, ?_, ?_⟩
    · exact (List.forall₂_take_append kept' kept added hkept'.flip).flip
    · exact (List.forall₂_drop_append kept' kept added hkept'.flip).flip
  refine ⟨first, second ++ added', List.append_assoc first second added', ?_⟩
  clear hkept' hsecond
  induction hkept generalizing first with
  | nil =>
    cases hfirst
    exact .nil
  | cons hab _ ih =>
    cases hfirst with
    | cons hbc hrest => exact .cons (hR _ _ _ hab hbc) (ih _ hrest)

/-- A row that was there is there, as something it may have become. -/
theorem mem {rows rows' : List α} (h : Grows R rows rows') {a : α} (ha : a ∈ rows) : ∃ b ∈ rows', R a b := by
  obtain ⟨kept, added, rfl, hkept⟩ := h
  induction hkept with
  | nil => cases ha
  | cons hab _ ih =>
    rcases List.mem_cons.1 ha with rfl | hrest
    · exact ⟨_, List.mem_cons_self, hab⟩
    · obtain ⟨b, hb, hR⟩ := ih hrest
      exact ⟨b, List.mem_cons_of_mem _ hb, hR⟩

theorem length_le {rows rows' : List α} (h : Grows R rows rows') : rows.length ≤ rows'.length := by
  obtain ⟨kept, added, rfl, hkept⟩ := h
  rw [List.length_append, hkept.length_eq]
  omega

/-- Where every row stays what it was, the old rows are a prefix. -/
theorem isPrefix {rows rows' : List α} (h : Grows Eq rows rows') : rows <+: rows' := by
  obtain ⟨kept, added, rfl, hkept⟩ := h
  rw [List.forall₂_eq_eq_eq] at hkept
  rw [hkept]
  exact List.prefix_append kept added

theorem append {rows rows' : List α} (h : Grows R rows rows') (more : List α) : Grows R rows (rows' ++ more) := by
  obtain ⟨kept, added, rfl, hkept⟩ := h
  exact ⟨kept, added ++ more, List.append_assoc kept added more, hkept⟩

theorem insert {rows rows' : List α} (h : Grows R rows rows') (row : α) : Grows R rows (Table.insert rows' row) :=
  h.append [row]

/-- A change of the rows one by one. -/
theorem map {f : α → α} {rows rows' : List α} (hR : ∀ a b c, R a b → R b c → R a c) (h : Grows R rows rows')
    (hf : ∀ a ∈ rows', R a (f a)) : Grows R rows (rows'.map f) := by
  refine h.trans hR ⟨rows'.map f, [], (List.append_nil _).symm, ?_⟩
  exact List.forall₂_map_right_iff.2 (List.forall₂_same.2 hf)

/-- A row written over its old self. -/
theorem put [Keyed α] {rows rows' : List α} (hR : ∀ a b c, R a b → R b c → R a c) (hrefl : ∀ a, R a a)
    (h : Grows R rows rows') (hnd : (rows'.map key).Nodup) {old new : α} (hold : get? rows' (key new) = some old)
    (hnew : R old new) : Grows R rows (Table.put rows' new) := by
  refine h.map hR fun a ha => ?_
  split
  · rename_i hkey
    have hfound := get?_of_mem hnd ha
    rw [hkey, hold] at hfound
    cases hfound
    exact hnew
  · exact hrefl a

/-- A row that no other row has the key of is found where it was. -/
theorem get? [Keyed α] {rows rows' : List α} (h : Grows R rows rows') (hkey : ∀ a b, R a b → key b = key a)
    (hnd : (rows'.map key).Nodup) {k : Nat} {a : α} (ha : Table.get? rows k = some a) :
    ∃ b, Table.get? rows' k = some b ∧ R a b := by
  obtain ⟨b, hb, hR⟩ := h.mem (mem_of_get? ha)
  have hk : key b = k := (hkey a b hR).trans (key_of_get? ha)
  have hfound := get?_of_mem hnd hb
  rw [hk] at hfound
  exact ⟨b, hfound, hR⟩

end Grows

end Table
