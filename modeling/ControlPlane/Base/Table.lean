import Mathlib.Data.List.Nodup
import Mathlib.Algebra.Ring.Int.Defs
import Mathlib.Algebra.Ring.Nat

/-!
# Keyed tables

A table is a list of rows, each with a key; the order of the list is the order in which the rows were inserted.
`get?` reads the first row of a key, `put` overwrites the rows of a key, `insert` appends, and `fresh` is a key no
row of the table has.  The lemmas say how a read sees each write (`get?_put_self`, `get?_put_of_ne`,
`get?_insert`), which is all a proof about a program over such tables needs.
-/

namespace Table

/-- Rows with a key. -/
class Keyed (α : Type) where
  key : α → Nat

export Keyed (key)

variable {α : Type} [Keyed α]

/-- The first row with the key `k`. -/
def get? (rows : List α) (k : Nat) : Option α := rows.find? fun r => key r = k

/-- Overwrite the rows that have the key of `r` by `r`. -/
def put (rows : List α) (r : α) : List α := rows.map fun r' => if key r' = key r then r else r'

/-- Append a row. -/
def insert (rows : List α) (r : α) : List α := rows ++ [r]

/-- A key above every key of the table. -/
def fresh (rows : List α) : Nat := (rows.map key).foldr max 0 + 1

/-- The row of a key, changed by `f`. -/
def modify (rows : List α) (k : Nat) (f : α → α) : List α :=
  match get? rows k with
  | some r => put rows (f r)
  | none => rows

theorem key_of_get? {rows : List α} {k : Nat} {r : α} (h : get? rows k = some r) : key r = k := by
  simpa using List.find?_some h

theorem mem_of_get? {rows : List α} {k : Nat} {r : α} (h : get? rows k = some r) : r ∈ rows :=
  List.mem_of_find?_eq_some h

theorem get?_put (rows : List α) (r : α) (k : Nat) :
    get? (put rows r) k = if k = key r then (get? rows k).map fun _ => r else get? rows k := by
  induction rows with
  | nil => simp [get?, put]
  | cons a rows ih =>
    simp only [get?, put, List.map_cons, List.find?_cons] at ih ⊢
    by_cases hk : k = key r
    · subst hk
      by_cases ha : key a = key r
      · simp [ha]
      · simp only [ha, ↓reduceIte, decide_false] at ih ⊢
        exact ih
    · by_cases ha : key a = key r
      · have hne : ¬key r = k := fun h => hk h.symm
        simp only [ha, ↓reduceIte, hk, hne, decide_false] at ih ⊢
        exact ih
      · simp only [ha, ↓reduceIte, hk] at ih ⊢
        split
        · rfl
        · exact ih

@[simp] theorem get?_put_self {rows : List α} {r r' : α} (h : get? rows (key r) = some r') :
    get? (put rows r) (key r) = some r := by
  rw [get?_put, if_pos rfl, h]; rfl

theorem get?_put_of_ne (rows : List α) {r : α} {k : Nat} (h : k ≠ key r) :
    get? (put rows r) k = get? rows k := by
  rw [get?_put, if_neg h]

theorem get?_insert (rows : List α) (r : α) (k : Nat) :
    get? (insert rows r) k = (get? rows k).or (if key r = k then some r else none) := by
  simp only [get?, insert, List.find?_append]
  congr 1
  by_cases h : key r = k <;> simp [h]

/-- An insertion hides no row. -/
theorem get?_insert_of_some {rows : List α} {r r' : α} {k : Nat} (h : get? rows k = some r') :
    get? (insert rows r) k = some r' := by
  rw [get?_insert, h]; rfl

/-- A row inserted under a free key is the one its key finds. -/
theorem get?_insert_self {rows : List α} {r : α} (h : get? rows (key r) = none) :
    get? (insert rows r) (key r) = some r := by
  rw [get?_insert, h, if_pos rfl]; rfl

theorem key_lt_fresh {rows : List α} {r : α} (h : r ∈ rows) : key r < fresh rows := by
  induction rows with
  | nil => simp at h
  | cons a rows ih =>
    simp only [fresh, List.map_cons, List.foldr_cons] at ih ⊢
    rcases List.mem_cons.1 h with rfl | h
    · omega
    · have := ih h; omega

theorem get?_fresh (rows : List α) : get? rows (fresh rows) = none := by
  rw [get?, List.find?_eq_none]
  intro r hr
  have := key_lt_fresh hr
  simp; omega

/-- A change of a row that is there writes it back. -/
theorem modify_of_get? {rows : List α} {k : Nat} {r : α} (h : get? rows k = some r) (f : α → α) :
    modify rows k f = put rows (f r) := by
  unfold modify
  rw [h]

theorem modify_of_get?_none {rows : List α} {k : Nat} (h : get? rows k = none) (f : α → α) : modify rows k f = rows := by
  unfold modify
  rw [h]

theorem get?_modify_self {rows : List α} {k : Nat} {f : α → α} {r : α} (hf : key (f r) = key r)
    (h : get? rows k = some r) : get? (modify rows k f) k = some (f r) := by
  have hk : key (f r) = k := by rw [hf, key_of_get? h]
  rw [modify_of_get? h, get?_put, if_pos hk.symm, h]; rfl

theorem get?_modify_of_ne (rows : List α) {k k' : Nat} {f : α → α} (hf : ∀ r, key (f r) = key r) (h : k' ≠ k) :
    get? (modify rows k f) k' = get? rows k' := by
  unfold modify
  split
  · rename_i r hr
    exact get?_put_of_ne _ (by rw [hf, key_of_get? hr]; exact h)
  · rfl

theorem get?_map {f : α → α} (hf : ∀ r, key (f r) = key r) (rows : List α) (k : Nat) :
    get? (rows.map f) k = (get? rows k).map f := by
  induction rows with
  | nil => rfl
  | cons a rows ih =>
    simp only [get?, List.map_cons, List.find?_cons, hf] at ih ⊢
    split
    · rfl
    · exact ih

/-- Every row of an updated table is an old one or the row written. -/
theorem mem_put {rows : List α} {r r' : α} (h : r' ∈ put rows r) : r' = r ∨ r' ∈ rows := by
  simp only [put, List.mem_map] at h
  obtain ⟨a, ha, rfl⟩ := h
  split
  · exact Or.inl rfl
  · exact Or.inr ha

omit [Keyed α] in
theorem mem_insert {rows : List α} {r r' : α} : r' ∈ insert rows r ↔ r' ∈ rows ∨ r' = r := by
  simp [insert]

/-! ### Rows and their keys -/

/-- In a table without repeated keys a row is the one its key finds. -/
theorem get?_of_mem {rows : List α} {r : α} (hnd : (rows.map key).Nodup) (h : r ∈ rows) :
    get? rows (key r) = some r := by
  induction rows with
  | nil => cases h
  | cons a rows ih =>
    obtain ⟨hnot, hnd'⟩ := List.nodup_cons.1 hnd
    rcases List.mem_cons.1 h with rfl | h
    · simp [get?]
    · have hne : key a ≠ key r := by
        intro he
        rw [he] at hnot
        exact hnot (List.mem_map_of_mem h)
      have hget := ih hnd' h
      unfold get? at hget ⊢
      rw [List.find?_cons_of_neg (by simpa using hne)]
      exact hget

theorem map_key_put (rows : List α) (r : α) : (put rows r).map key = rows.map key := by
  unfold put
  rw [List.map_map]
  refine List.map_congr_left fun a _ => ?_
  show key (if key a = key r then r else a) = key a
  split
  · rename_i h; exact h.symm
  · rfl

theorem map_key_insert (rows : List α) (r : α) :
    (insert rows r).map key = rows.map key ++ [key r] := by
  simp [Table.insert]

/-- A fresh row keeps the keys unique. -/
theorem nodup_insert_fresh {rows : List α} {r : α} (hnd : (rows.map key).Nodup)
    (hr : key r = fresh rows) : ((insert rows r).map key).Nodup := by
  rw [map_key_insert, List.nodup_append]
  refine ⟨hnd, List.nodup_singleton _, ?_⟩
  intro a ha b hb
  obtain ⟨row, hrow, rfl⟩ := List.mem_map.1 ha
  rw [List.mem_singleton.1 hb, hr]
  have := key_lt_fresh hrow
  omega

theorem map_key_modify (rows : List α) (k : Nat) (f : α → α) : (modify rows k f).map key = rows.map key := by
  unfold modify
  split
  · exact map_key_put rows _
  · rfl

/-- As no key is used twice, changing the row of a key is a map. -/
theorem modify_eq_map {rows : List α} (hnd : (rows.map key).Nodup) (k : Nat) {f : α → α} (hf : ∀ r, key (f r) = key r) :
    modify rows k f = rows.map fun r => if key r = k then f r else r := by
  unfold modify
  cases hget : get? rows k with
  | none =>
    have hno : ∀ r ∈ rows, key r ≠ k := by
      intro r hr hkey
      have hfound := get?_of_mem hnd hr
      rw [hkey, hget] at hfound
      cases hfound
    refine (List.map_id rows).symm.trans (List.map_congr_left fun r hr => ?_)
    rw [if_neg (hno r hr)]
    rfl
  | some r =>
    have hkey := key_of_get? hget
    refine List.map_congr_left fun r' hr' => ?_
    rw [hf, hkey]
    split
    · rename_i heq
      have hfound := get?_of_mem hnd hr'
      rw [heq, hget] at hfound
      cases hfound
      rfl
    · rfl

/-- A search that finds a row finds it changed, if the change keeps what the search looks at. -/
theorem find?_modify {rows : List α} {p : α → Bool} {r : α} {f : α → α} (hnd : (rows.map key).Nodup)
    (hfind : rows.find? p = some r) (hkey : key (f r) = key r) (hp : p (f r) = true) :
    (modify rows (key r) f).find? p = some (f r) := by
  have hget := get?_of_mem hnd (List.mem_of_find?_eq_some hfind)
  rw [modify_of_get? hget]
  clear hget
  induction rows with
  | nil => cases hfind
  | cons a rows ih =>
    obtain ⟨hnot, hnd'⟩ := List.nodup_cons.1 hnd
    unfold put at ih ⊢
    rw [List.map_cons]
    by_cases ha : p a = true
    · rw [List.find?_cons_of_pos ha] at hfind
      cases hfind
      rw [if_pos hkey.symm, List.find?_cons_of_pos hp]
    · rw [List.find?_cons_of_neg ha] at hfind
      have hne : key a ≠ key (f r) := by
        intro he
        rw [he, hkey] at hnot
        exact hnot (List.mem_map_of_mem (List.mem_of_find?_eq_some hfind))
      rw [if_neg hne, List.find?_cons_of_neg ha]
      exact ih hnd' hfind

/-- A row written over the one a search finds is found in its place, if the search finds it at all. -/
theorem find?_put_self {rows : List α} {p : α → Bool} {r r' : α} (hfind : rows.find? p = some r)
    (hkey : key r' = key r) (hp : p r' = true) : (put rows r').find? p = some r' := by
  unfold put
  induction rows with
  | nil => cases hfind
  | cons a rows ih =>
    rw [List.map_cons]
    by_cases ha : key a = key r'
    · rw [if_pos ha, List.find?_cons_of_pos hp]
    · rw [if_neg ha]
      by_cases hpa : p a = true
      · rw [List.find?_cons_of_pos hpa] at hfind
        cases hfind
        exact absurd hkey.symm ha
      · rw [List.find?_cons_of_neg hpa] at hfind ⊢
        exact ih hfind

/-- A search that finds neither a written row nor any row it was written over. -/
theorem find?_put_of_not {rows : List α} {p : α → Bool} {r : α} (hr : p r = false)
    (hrows : ∀ a ∈ rows, key a = key r → p a = false) : (put rows r).find? p = rows.find? p := by
  unfold put
  induction rows with
  | nil => rfl
  | cons a rows ih =>
    have ih' := ih fun b hb => hrows b (List.mem_cons_of_mem _ hb)
    rw [List.map_cons]
    by_cases ha : key a = key r
    · have hpa := hrows a (List.mem_cons_self ..) ha
      rw [if_pos ha, List.find?_cons_of_neg (by simp [hr]), List.find?_cons_of_neg (by simp [hpa])]
      exact ih'
    · rw [if_neg ha]
      by_cases hpa : p a = true
      · rw [List.find?_cons_of_pos hpa, List.find?_cons_of_pos hpa]
      · rw [List.find?_cons_of_neg hpa, List.find?_cons_of_neg hpa]
        exact ih'

/-- Writing over a row that was just inserted is inserting the other one. -/
theorem put_insert_fresh {rows : List α} {r r' : α} (hr : key r = fresh rows) (hkey : key r' = key r) :
    put (insert rows r) r' = insert rows r' := by
  unfold put Table.insert
  rw [List.map_append, List.map_singleton, if_pos hkey.symm]
  congr 1
  refine (List.map_congr_left fun a ha => ?_).trans (List.map_id rows)
  have hlt := key_lt_fresh ha
  rw [if_neg (by omega)]
  rfl

/-- A column that an update leaves as it was reads as before. -/
theorem filterMap_put {β : Type} {rows : List α} {r : α} {column : α → Option β}
    (h : ∀ a ∈ rows, key a = key r → column a = column r) : (put rows r).filterMap column = rows.filterMap column := by
  unfold put
  rw [List.filterMap_map]
  refine List.filterMap_congr fun a ha => ?_
  show column (if key a = key r then r else a) = column a
  split
  · rename_i hk; exact (h a ha hk).symm
  · rfl

/-- An update of a key no row has changes nothing. -/
theorem put_of_get?_none {rows : List α} {r : α} (h : get? rows (key r) = none) : put rows r = rows := by
  refine (List.map_congr_left fun a ha => ?_).trans (List.map_id rows)
  have hne : key a ≠ key r := by simpa using List.find?_eq_none.1 h a ha
  rw [if_neg hne]
  rfl

/-- A row written as it is changes nothing. -/
theorem put_of_get? {rows : List α} {r : α} (hnd : (rows.map key).Nodup) (h : get? rows (key r) = some r) :
    put rows r = rows := by
  refine (List.map_congr_left fun a ha => ?_).trans (List.map_id rows)
  split
  · rename_i hkey
    have hfound := get?_of_mem hnd ha
    rw [hkey, h] at hfound
    cases hfound
    rfl
  · rfl

/-- An update counts the new row in the place of the old one. -/
theorem countP_put {rows : List α} {r old : α} (p : α → Bool) (hnd : (rows.map key).Nodup)
    (h : get? rows (key r) = some old) : (put rows r).countP p + (p old).toNat = rows.countP p + (p r).toNat := by
  induction rows with
  | nil => cases h
  | cons a rows ih =>
    obtain ⟨hnot, hnd'⟩ := List.nodup_cons.1 hnd
    have hput : put (a :: rows) r = (if key a = key r then r else a) :: put rows r := rfl
    rw [hput, List.countP_cons, List.countP_cons]
    by_cases ha : key a = key r
    · have hfirst : get? (a :: rows) (key r) = some a := by simp [get?, ha]
      obtain rfl : a = old := Option.some.inj (hfirst.symm.trans h)
      have hnone : get? rows (key r) = none := by
        refine List.find?_eq_none.2 fun b hb => ?_
        have hne : key b ≠ key r := fun hb' => hnot (ha.trans hb'.symm ▸ List.mem_map_of_mem hb)
        simpa using hne
      rw [if_pos ha, put_of_get?_none hnone]
      cases p a <;> cases p r <;> simp
    · have hrest : get? rows (key r) = some old := by
        rw [← h]
        simp [get?, ha]
      have := ih hnd' hrest
      rw [if_neg ha]
      omega

/-- An update adds the new row in the place of the old one. -/
theorem sum_put {rows : List α} {r old : α} (f : α → Int) (hnd : (rows.map key).Nodup)
    (h : get? rows (key r) = some old) : ((put rows r).map f).sum = (rows.map f).sum - f old + f r := by
  induction rows with
  | nil => cases h
  | cons a rows ih =>
    obtain ⟨hnot, hnd'⟩ := List.nodup_cons.1 hnd
    have hput : put (a :: rows) r = (if key a = key r then r else a) :: put rows r := rfl
    rw [hput, List.map_cons, List.map_cons, List.sum_cons, List.sum_cons]
    by_cases ha : key a = key r
    · have hfirst : get? (a :: rows) (key r) = some a := by simp [get?, ha]
      obtain rfl : a = old := Option.some.inj (hfirst.symm.trans h)
      have hnone : get? rows (key r) = none := by
        refine List.find?_eq_none.2 fun b hb => ?_
        have hne : key b ≠ key r := fun hb' => hnot (ha.trans hb'.symm ▸ List.mem_map_of_mem hb)
        simpa using hne
      rw [if_pos ha, put_of_get?_none hnone]
      omega
    · have hrest : get? rows (key r) = some old := by
        rw [← h]
        simp [get?, ha]
      have := ih hnd' hrest
      rw [if_neg ha]
      omega

theorem countP_modify {rows : List α} {k : Nat} {f : α → α} {r : α} (p : α → Bool) (hnd : (rows.map key).Nodup)
    (hkey : key (f r) = key r) (h : get? rows k = some r) :
    (modify rows k f).countP p + (p r).toNat = rows.countP p + (p (f r)).toNat := by
  have hk : key (f r) = k := hkey.trans (key_of_get? h)
  rw [modify_of_get? h]
  exact countP_put p hnd (by rw [hk]; exact h)

/-- A change that keeps what is counted. -/
theorem countP_modify_of_same {rows : List α} {k : Nat} {f : α → α} {p : α → Bool} (hnd : (rows.map key).Nodup)
    (hf : ∀ r, key (f r) = key r ∧ p (f r) = p r) : (modify rows k f).countP p = rows.countP p := by
  cases hrow : get? rows k with
  | none => rw [modify_of_get?_none hrow]
  | some r =>
    have hcount := countP_modify p hnd (hf r).1 hrow
    rw [(hf r).2] at hcount
    omega

/-- Counting after a list's entry has been replaced. -/
theorem countP_set_add {β : Type} (p : β → Bool) {l : List β} {i : Nat} {a b : β} (h : l[i]? = some a) :
    (l.set i b).countP p + (p a).toNat = l.countP p + (p b).toNat := by
  obtain ⟨hi, rfl⟩ := List.getElem?_eq_some_iff.1 h
  have hcount := List.countP_set (p := p) (a := b) hi
  have hpos : p l[i] = true → 0 < l.countP p := fun hp => List.countP_pos_iff.2 ⟨_, List.getElem_mem hi, hp⟩
  rw [hcount]
  cases hp : p l[i] with
  | true =>
    have := hpos hp
    cases p b <;> simp <;> omega
  | false => cases p b <;> simp

end Table
