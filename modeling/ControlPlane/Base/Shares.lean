import ControlPlane.Base.Table

/-!
# Shares of a table

The share of a table that a predicate cuts out, in its order (`share p rows`).  An insert of a row outside a share leaves
the share, so does writing a row outside it over another one outside it, and so does a change of all rows that moves no row
over the border and leaves the rows inside.
-/

namespace Table

variable {α : Type} {p : α → Bool}

/-- The rows of a share. -/
def share (p : α → Bool) (rows : List α) : List α := rows.filter p

theorem mem_share {rows : List α} {a : α} : a ∈ share p rows ↔ a ∈ rows ∧ p a = true := List.mem_filter

theorem share_insert {rows : List α} {row : α} (h : p row = false) : share p (insert rows row) = share p rows := by
  unfold share insert
  rw [List.filter_append, List.filter_cons_of_neg (by simp [h]), List.filter_nil, List.append_nil]

/-- A change of the rows one by one. -/
theorem share_map {rows : List α} {f : α → α} (hp : ∀ a ∈ rows, p (f a) = p a) (hf : ∀ a ∈ rows, p a = true → f a = a) :
    share p (rows.map f) = share p rows := by
  unfold share
  induction rows with
  | nil => rfl
  | cons a rows ih =>
    have hrest := ih (fun b hb => hp b (List.mem_cons_of_mem a hb)) fun b hb => hf b (List.mem_cons_of_mem a hb)
    have hhead := hp a List.mem_cons_self
    cases ha : p a with
    | false =>
      rw [ha] at hhead
      rw [List.map_cons, List.filter_cons_of_neg (by simp [hhead]), List.filter_cons_of_neg (by simp [ha]), hrest]
    | true =>
      rw [List.map_cons, hf a List.mem_cons_self ha, List.filter_cons_of_pos ha, List.filter_cons_of_pos ha, hrest]

variable [Keyed α]

/-- A row outside the share, written over rows outside it. -/
theorem share_put {rows : List α} {new : α} (hnew : p new = false)
    (hold : ∀ a ∈ rows, key a = key new → p a = false) : share p (put rows new) = share p rows := by
  refine share_map (fun a ha => ?_) fun a ha hin => ?_
  · split
    · rename_i hkey
      rw [hnew, hold a ha hkey]
    · rfl
  · split
    · rename_i hkey
      rw [hold a ha hkey] at hin
      cases hin
    · rfl

/-- The row it is written over is the one that its key finds. -/
theorem share_put_of_get? {rows : List α} {old new : α} (hnd : (rows.map key).Nodup) (hrow : get? rows (key new) = some old)
    (hold : p old = false) (hnew : p new = false) : share p (put rows new) = share p rows := by
  refine share_put hnew fun a ha hkey => ?_
  have hfound := get?_of_mem hnd ha
  rw [hkey, hrow] at hfound
  cases hfound
  exact hold

end Table
