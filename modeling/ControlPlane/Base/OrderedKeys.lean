import Mathlib.Data.List.Nodup

/-!
# Keys in the order they were first added

The keys of a dictionary that keeps its order: a key that is there stays where it is, a new one goes to the end.
-/

structure OrderedKeys (α : Type) where
  keys : List α
  nodup : keys.Nodup

namespace OrderedKeys

variable {α : Type}

def empty : OrderedKeys α := ⟨[], List.nodup_nil⟩

@[simp] theorem keys_empty : (empty : OrderedKeys α).keys = [] := rfl

/-- Keys that are added under a condition. -/
theorem mem_ite {s t : OrderedKeys α} {c : Prop} [Decidable c] {p : Prop} {a : α}
    (h : a ∈ t.keys ↔ a ∈ s.keys ∨ p) : a ∈ (if c then t else s).keys ↔ a ∈ s.keys ∨ (c ∧ p) := by
  by_cases hc : c
  · rw [if_pos hc, h, and_iff_right hc]
  · rw [if_neg hc]
    exact ⟨Or.inl, fun hor => hor.elim id fun hand => absurd hand.1 hc⟩

variable [DecidableEq α]

def add (s : OrderedKeys α) (key : α) : OrderedKeys α where
  keys := if key ∈ s.keys then s.keys else s.keys ++ [key]
  nodup := by
    split
    · exact s.nodup
    · rename_i hnew
      rw [← List.concat_eq_append]
      exact s.nodup.concat hnew

def addAll (s : OrderedKeys α) (keys : List α) : OrderedKeys α := keys.foldl add s

@[simp] theorem mem_add {s : OrderedKeys α} {key a : α} : a ∈ (s.add key).keys ↔ a ∈ s.keys ∨ a = key := by
  unfold add
  dsimp only
  by_cases hold : key ∈ s.keys
  · rw [if_pos hold]
    constructor
    · exact Or.inl
    · rintro (ha | rfl)
      · exact ha
      · exact hold
  · rw [if_neg hold, List.mem_append, List.mem_singleton]

@[simp] theorem mem_addAll {s : OrderedKeys α} {keys : List α} {a : α} :
    a ∈ (s.addAll keys).keys ↔ a ∈ s.keys ∨ a ∈ keys := by
  unfold addAll
  induction keys generalizing s with
  | nil => simp
  | cons key keys ih =>
    rw [List.foldl_cons, ih, mem_add, List.mem_cons, or_assoc]

end OrderedKeys
