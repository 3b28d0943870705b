import Mathlib.Order.Basic
import Mathlib.Order.Lattice

/-!
# A key that expires

What a store holds under one key: a value with the time at which it is gone, or nothing.  An expired value may still be
stored; reading does not see it and nothing prolongs it.
-/

namespace ExpiringKey

variable {T A : Type} [LinearOrder T]

abbrev Entry (T A : Type) := Option (A × T)

/-- The value under the key at a time. -/
def get (now : T) (entry : Entry T A) : Option A := entry.bind fun p => if now < p.2 then some p.1 else none

def set (value : A) (expiry : T) : Entry T A := some (value, expiry)

/-- Set the expiry of a value that is still there. -/
def expire (now expiry : T) (entry : Entry T A) : Entry T A :=
  match get now entry with
  | some value => some (value, expiry)
  | none => entry

variable {now later expiry : T} {entry : Entry T A} {value : A}

theorem get_eq_some : get now entry = some value ↔ ∃ expiry, entry = some (value, expiry) ∧ now < expiry := by
  unfold get
  cases entry with
  | none => simp
  | some p =>
    obtain ⟨stored, expiry⟩ := p
    by_cases h : now < expiry
    · simp only [Option.bind_some, if_pos h, Option.some.injEq, Prod.mk.injEq]
      constructor
      · intro heq
        exact ⟨expiry, ⟨heq, rfl⟩, h⟩
      · rintro ⟨_, ⟨heq, -⟩, -⟩
        exact heq
    · simp only [Option.bind_some, if_neg h, Option.some.injEq, Prod.mk.injEq]
      constructor
      · intro hnone
        cases hnone
      · rintro ⟨_, ⟨-, rfl⟩, hlt⟩
        exact absurd hlt h

theorem get_set (h : now < expiry) : get now (set value expiry) = some value := get_eq_some.2 ⟨expiry, rfl, h⟩

theorem get_expire (h : get now entry = some value) (hlt : now < expiry) :
    get now (expire now expiry entry) = some value := by
  unfold expire
  rw [h]
  exact get_eq_some.2 ⟨expiry, rfl, hlt⟩

/-- A value that is still there later is the one that is there now. -/
theorem get_later (h : get now entry = some value) (hlater : (get later entry).isSome) :
    get later entry = some value := by
  obtain ⟨expiry, rfl, -⟩ := get_eq_some.1 h
  obtain ⟨value', hvalue⟩ := Option.isSome_iff_exists.1 hlater
  obtain ⟨_, heq, -⟩ := get_eq_some.1 hvalue
  cases heq
  exact hvalue

/-- A stored value is read or it has expired. -/
theorem get_or_expired (value : A) (expiry now : T) :
    get now (some (value, expiry)) = some value ∨ (get now (some (value, expiry)) = none ∧ expiry ≤ now) := by
  by_cases h : now < expiry
  · exact Or.inl (get_eq_some.2 ⟨expiry, rfl, h⟩)
  · exact Or.inr ⟨if_neg h, le_of_not_gt h⟩

end ExpiringKey
