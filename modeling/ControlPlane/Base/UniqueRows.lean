import ControlPlane.Base.Table

/-!
# Live rows, one for each scope

A table in which a row is live or not and has a scope: two live rows never share theirs (`UniqueLive`).  Ending rows,
writing a row over with one as live as it in the same scope, and inserting a row whose scope no live row has, all keep
that, and they keep the history (`KeepsHistory`): no row goes, none changes its scope, and an ended one stays as it was.
-/

namespace Table

variable {α β : Type} [Keyed α] {live : α → Bool} {scope : α → β}

/-- Every row has a key of its own, and among the live ones a scope of its own. -/
structure UniqueLive (live : α → Bool) (scope : α → β) (rows : List α) : Prop where
  keys : (rows.map key).Nodup
  scopes : ((rows.filter live).map scope).Nodup

/-- Every row of `rows` is still in `rows'` under its scope, and as it was if it was not live. -/
def KeepsHistory (live : α → Bool) (scope : α → β) (rows rows' : List α) : Prop :=
  ∀ r ∈ rows, ∃ r' ∈ rows', key r' = key r ∧ scope r' = scope r ∧ (live r = false → r' = r)

/-! ### One live row for each scope -/

namespace UniqueLive

variable {rows : List α}

theorem nil : UniqueLive live scope ([] : List α) := ⟨List.nodup_nil, List.nodup_nil⟩

/-- Changing rows within their scopes, without making one live. -/
theorem map (h : UniqueLive live scope rows) {f : α → α} (hkey : ∀ r ∈ rows, key (f r) = key r)
    (hf : ∀ r ∈ rows, live (f r) = true → live r = true ∧ scope (f r) = scope r) :
    UniqueLive live scope (rows.map f) := by
  constructor
  · have hkeys : (rows.map f).map key = rows.map key := by
      rw [List.map_map]
      exact List.map_congr_left hkey
    rw [hkeys]
    exact h.keys
  · have hsublist : List.Sublist (((rows.map f).filter live).map scope) ((rows.filter live).map scope) := by
      clear h hkey
      induction rows with
      | nil => exact .slnil
      | cons a rows ih =>
        have ih := ih fun r hr => hf r (List.mem_cons_of_mem _ hr)
        rw [List.map_cons, List.filter_cons, List.filter_cons]
        by_cases hlive : live (f a) = true
        · obtain ⟨hbefore, hscope⟩ := hf a (List.mem_cons_self ..) hlive
          rw [if_pos hlive, if_pos hbefore, List.map_cons, List.map_cons, hscope]
          exact ih.cons_cons _
        · rw [if_neg hlive]
          split
          · exact ih.cons _
          · exact ih
    exact h.scopes.sublist hsublist

/-- Writing a row over with one as live as it in the same scope. -/
theorem put (h : UniqueLive live scope rows) {old r : α} (hold : old ∈ rows) (hkey : key r = key old)
    (hlive : live r = live old) (hscope : scope r = scope old) : UniqueLive live scope (put rows r) := by
  refine h.map (fun r' _ => ?_) fun r' hr' => ?_
  · by_cases hsame : key r' = key r
    · rw [if_pos hsame, hsame]
    · rw [if_neg hsame]
  · by_cases hsame : key r' = key r
    · have hrow : r' = old := List.inj_on_of_nodup_map h.keys hr' hold (hsame.trans hkey)
      rw [if_pos hsame, hlive, hscope, hrow]
      exact fun h => ⟨h, rfl⟩
    · rw [if_neg hsame]
      exact fun h => ⟨h, rfl⟩

/-- Inserting a row whose scope no live row has. -/
theorem insert (h : UniqueLive live scope rows) {r : α} (hkey : key r = fresh rows)
    (hfree : ∀ a ∈ rows, live a = true → scope a ≠ scope r) : UniqueLive live scope (insert rows r) := by
  refine ⟨nodup_insert_fresh h.keys hkey, ?_⟩
  show (((rows ++ [r]).filter live).map scope).Nodup
  rw [List.filter_append, List.map_append, List.nodup_append]
  refine ⟨h.scopes, ((List.nodup_singleton r).filter _).map_on ?_, ?_⟩
  · intro a ha b hb _
    rw [List.mem_singleton.1 (List.mem_of_mem_filter ha), List.mem_singleton.1 (List.mem_of_mem_filter hb)]
  · intro s hs s' hs' heq
    obtain ⟨a, ha, rfl⟩ := List.mem_map.1 hs
    obtain ⟨b, hb, rfl⟩ := List.mem_map.1 hs'
    obtain ⟨hmem, hlive⟩ := List.mem_filter.1 ha
    rw [List.mem_singleton.1 (List.mem_of_mem_filter hb)] at heq
    exact hfree a hmem hlive heq

end UniqueLive

/-! ### The history of the rows -/

namespace KeepsHistory

variable {rows rows' rows'' : List α}

theorem refl (rows : List α) : KeepsHistory live scope rows rows := fun r hr => ⟨r, hr, rfl, rfl, fun _ => rfl⟩

theorem trans (h : KeepsHistory live scope rows rows') (h' : KeepsHistory live scope rows' rows'') :
    KeepsHistory live scope rows rows'' := by
  intro r hr
  obtain ⟨r', hr', hkey, hscope, hended⟩ := h r hr
  obtain ⟨r'', hr'', hkey', hscope', hended'⟩ := h' r' hr'
  refine ⟨r'', hr'', hkey'.trans hkey, hscope'.trans hscope, fun hlive => ?_⟩
  have hsame := hended hlive
  rw [hended' (by rw [hsame]; exact hlive), hsame]

/-- Changing live rows within their scopes. -/
theorem map {f : α → α} (hkey : ∀ r ∈ rows, key (f r) = key r) (hscope : ∀ r ∈ rows, scope (f r) = scope r)
    (hended : ∀ r ∈ rows, live r = false → f r = r) : KeepsHistory live scope rows (rows.map f) :=
  fun r hr => ⟨f r, List.mem_map_of_mem hr, hkey r hr, hscope r hr, hended r hr⟩

/-- Writing a live row over in its scope. -/
theorem put (hkeys : (rows.map key).Nodup) {old r : α} (hold : old ∈ rows) (hkey : key r = key old)
    (hlive : live old = true) (hscope : scope r = scope old) : KeepsHistory live scope rows (put rows r) := by
  have hrow : ∀ r' ∈ rows, key r' = key r → r' = old := fun r' hr' hsame =>
    List.inj_on_of_nodup_map hkeys hr' hold (hsame.trans hkey)
  refine map (fun r' _ => ?_) (fun r' hr' => ?_) fun r' hr' hended => ?_
  · by_cases hsame : key r' = key r
    · rw [if_pos hsame, hsame]
    · rw [if_neg hsame]
  · by_cases hsame : key r' = key r
    · rw [if_pos hsame, hscope, hrow r' hr' hsame]
    · rw [if_neg hsame]
  · by_cases hsame : key r' = key r
    · rw [hrow r' hr' hsame, hlive] at hended
      cases hended
    · rw [if_neg hsame]

theorem insert (rows : List α) (r : α) : KeepsHistory live scope rows (insert rows r) :=
  fun r' hr' => ⟨r', mem_insert.2 (Or.inl hr'), rfl, rfl, fun _ => rfl⟩

end KeepsHistory

end Table
