import Mathlib.Data.List.Basic

/-!
# A timer that its polls restart

A timer counts from an anchor and is polled now and then.  A poll that finds the timer at least `rest` old moves the
anchor to the moment of the poll; a poll that finds it at least `patience` old, at or after `floor`, fires it for good.
The state is the anchor, or `none` once the timer has fired.
-/

namespace Watchdog

variable (rest patience floor : Nat)

/-- The anchor after a poll that did not fire. -/
def restart (anchor c : Nat) : Nat := if anchor + rest ≤ c then c else anchor

def poll (timer : Option Nat) (c : Nat) : Option Nat :=
  match timer with
  | none => none
  | some anchor => if max (anchor + patience) floor ≤ c then none else some (restart rest anchor c)

/-- The anchor after polls none of which fired. -/
def anchorAfter (anchor : Nat) (polls : List Nat) : Nat := polls.foldl (restart rest) anchor

/-- Some poll comes when the patience has run out since the anchor that the earlier polls left. -/
def RunsOut (anchor : Nat) (polls : List Nat) : Prop :=
  ∃ earlier c later, polls = earlier ++ c :: later ∧ anchorAfter rest anchor earlier + patience ≤ c ∧ floor ≤ c

variable {rest patience floor}

@[simp] theorem poll_none (c : Nat) : poll rest patience floor none c = none := rfl

theorem foldl_poll_none (polls : List Nat) : polls.foldl (poll rest patience floor) none = none := by
  induction polls with
  | nil => rfl
  | cons c polls ih => exact ih

/-- A second poll at the same moment changes nothing. -/
theorem poll_poll (hrest : 0 < rest) (timer : Option Nat) (c : Nat) :
    poll rest patience floor (poll rest patience floor timer c) c = poll rest patience floor timer c := by
  cases timer with
  | none => rfl
  | some anchor =>
    by_cases hfires : max (anchor + patience) floor ≤ c
    · have hnone : poll rest patience floor (some anchor) c = none := if_pos hfires
      rw [hnone]
      rfl
    · have hsome : poll rest patience floor (some anchor) c = some (restart rest anchor c) := if_neg hfires
      rw [hsome]
      unfold poll restart
      dsimp only
      by_cases hdue : anchor + rest ≤ c
      · rw [if_pos hdue, if_neg (by omega), if_neg (by omega)]
      · rw [if_neg hdue, if_neg hfires, if_neg hdue]

/-- A timer fires exactly when its patience runs out. -/
theorem foldl_poll_eq_none (anchor : Nat) (polls : List Nat) :
    polls.foldl (poll rest patience floor) (some anchor) = none ↔ RunsOut rest patience floor anchor polls := by
  induction polls generalizing anchor with
  | nil =>
    refine iff_of_false (by simp) ?_
    rintro ⟨earlier, c, later, heq, -⟩
    cases earlier <;> cases heq
  | cons c polls ih =>
    rw [List.foldl_cons]
    by_cases hfires : max (anchor + patience) floor ≤ c
    · have hnone : poll rest patience floor (some anchor) c = none := if_pos hfires
      rw [hnone, foldl_poll_none]
      refine iff_of_true rfl ⟨[], c, polls, rfl, ?_, ?_⟩
      · exact Nat.le_trans (Nat.le_max_left ..) hfires
      · exact Nat.le_trans (Nat.le_max_right ..) hfires
    · have hsome : poll rest patience floor (some anchor) c = some (restart rest anchor c) := if_neg hfires
      rw [hsome, ih]
      constructor
      · rintro ⟨earlier, c', later, rfl, hpatience, hfloor⟩
        exact ⟨c :: earlier, c', later, rfl, hpatience, hfloor⟩
      · rintro ⟨earlier, c', later, heq, hpatience, hfloor⟩
        cases earlier with
        | nil =>
          -- the first poll did not fire
          cases heq
          exact absurd (Nat.max_le.2 ⟨hpatience, hfloor⟩) hfires
        | cons _ earlier =>
          cases heq
          exact ⟨earlier, c', later, rfl, hpatience, hfloor⟩

end Watchdog
