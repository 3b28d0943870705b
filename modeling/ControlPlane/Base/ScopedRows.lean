import ControlPlane.Base.UniqueRows
import Mathlib.Logic.Function.Basic

/-!
# A table with a unique scope is a map

`ofScope` reads the row of a scope.  Where no two rows share theirs, inserting a row whose scope is free, writing the
row of a scope over and deleting it are the updates of the map from scopes to rows.
-/

namespace Table

variable {α β : Type} [Keyed α] [DecidableEq β] {scope : α → β}

/-- The row of a scope. -/
def ofScope (scope : α → β) (rows : List α) (s : β) : Option α := rows.find? fun r => scope r = s

/-- Every row has a key and a scope of its own. -/
abbrev UniqueScope (scope : α → β) (rows : List α) : Prop := UniqueLive (fun _ => true) scope rows

/-- Delete the rows of a key. -/
def erase (rows : List α) (k : Nat) : List α := rows.filter fun r => key r ≠ k

variable {rows : List α} {r old : α} {s : β}

omit [Keyed α] in
theorem mem_of_ofScope (h : ofScope scope rows s = some r) : r ∈ rows ∧ scope r = s :=
  ⟨List.mem_of_find?_eq_some h, by simpa using List.find?_some h⟩

omit [Keyed α] in
theorem ofScope_isSome (scope : α → β) (rows : List α) (s : β) :
    (ofScope scope rows s).isSome = true ↔ ∃ r ∈ rows, scope r = s := by
  simp [ofScope, List.find?_isSome]

/-- The row of a scope is the one that has it. -/
theorem ofScope_eq_some (h : UniqueScope scope rows) : ofScope scope rows s = some r ↔ r ∈ rows ∧ scope r = s := by
  refine ⟨mem_of_ofScope, ?_⟩
  rintro ⟨hmem, rfl⟩
  obtain ⟨r', hr'⟩ := Option.isSome_iff_exists.1 ((ofScope_isSome scope rows _).2 ⟨r, hmem, rfl⟩)
  obtain ⟨hmem', hscope⟩ := mem_of_ofScope hr'
  have hscopes : (rows.map scope).Nodup := by
    have hall := h.scopes
    rwa [List.filter_eq_self.2 fun _ _ => rfl] at hall
  rw [hr', List.inj_on_of_nodup_map hscopes hmem' hmem hscope]

theorem UniqueLive.row_eq (h : UniqueScope scope rows) {r r' : α} (hr : r ∈ rows) (hr' : r' ∈ rows)
    (hscope : scope r = scope r') : r = r' := by
  have hfirst := (ofScope_eq_some h).2 ⟨hr, hscope⟩
  exact Option.some.inj (hfirst.symm.trans ((ofScope_eq_some h).2 ⟨hr', rfl⟩))

omit [Keyed α] in
theorem ofScope_insert (rows : List α) (hfree : ofScope scope rows (scope r) = none) :
    ofScope scope (insert rows r) = Function.update (ofScope scope rows) (scope r) (some r) := by
  funext s
  unfold ofScope insert at *
  rw [List.find?_append]
  by_cases hs : s = scope r
  · subst hs
    rw [hfree, Function.update_self]
    simp
  · have hne : ¬ scope r = s := fun heq => hs heq.symm
    rw [Function.update_of_ne hs]
    simp [hne]

theorem uniqueScope_insert (h : UniqueScope scope rows) (hkey : key r = fresh rows)
    (hfree : ofScope scope rows (scope r) = none) : UniqueScope scope (insert rows r) := by
  refine UniqueLive.insert h hkey fun a ha _ heq => ?_
  have hsome := (ofScope_isSome scope rows _).2 ⟨a, ha, heq⟩
  rw [hfree] at hsome
  cases hsome

theorem ofScope_put (h : UniqueScope scope rows) (hold : ofScope scope rows (scope r) = some old)
    (hkey : key r = key old) :
    ofScope scope (put rows r) = Function.update (ofScope scope rows) (scope r) (some r) := by
  funext s
  obtain ⟨hmem, hscope⟩ := mem_of_ofScope hold
  by_cases hs : s = scope r
  · subst hs
    rw [Function.update_self]
    exact find?_put_self hold hkey (decide_eq_true rfl)
  · rw [Function.update_of_ne hs]
    refine find?_put_of_not (by simpa using fun heq : scope r = s => hs heq.symm) fun r' hr' hsame => ?_
    -- a row of the key is the one of the scope
    obtain rfl := List.inj_on_of_nodup_map h.keys hr' hmem (hsame.trans hkey)
    simpa using fun heq : scope r' = s => hs (heq.symm.trans hscope)

omit [DecidableEq β] in
theorem uniqueScope_erase (h : UniqueScope scope rows) (k : Nat) : UniqueScope scope (erase rows k) := by
  refine ⟨h.keys.sublist (List.filter_sublist.map key), h.scopes.sublist ?_⟩
  exact (List.filter_sublist.filter _).map scope

theorem ofScope_erase (h : UniqueScope scope rows) (hold : ofScope scope rows s = some old) :
    ofScope scope (erase rows (key old)) = Function.update (ofScope scope rows) s none := by
  funext s'
  obtain ⟨hmem, rfl⟩ := mem_of_ofScope hold
  by_cases hs : s' = scope old
  · subst hs
    rw [Function.update_self]
    refine List.find?_eq_none.2 fun r hr => ?_
    obtain ⟨hr, hkey⟩ := List.mem_filter.1 hr
    intro hscope
    obtain rfl := h.row_eq hr hmem (by simpa using hscope)
    simp at hkey
  · rw [Function.update_of_ne hs]
    ext r
    rw [ofScope_eq_some (uniqueScope_erase h (key old)), ofScope_eq_some h]
    constructor
    · exact fun hr => ⟨(List.mem_filter.1 hr.1).1, hr.2⟩
    · rintro ⟨hr, hscope⟩
      refine ⟨List.mem_filter.2 ⟨hr, decide_eq_true fun hkey => ?_⟩, hscope⟩
      obtain rfl := List.inj_on_of_nodup_map h.keys hr hmem hkey
      exact hs hscope.symm

end Table
