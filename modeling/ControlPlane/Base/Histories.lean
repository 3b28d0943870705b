import ControlPlane.Base.Runs
import Mathlib.Data.List.Induction

/-!
# What came before in a run

`Earlier C ls` says that some step of the run, after the labels `before`, meets `C before`.  The history rule gives the cause
of what holds in the end and did not hold at the beginning: some step brought it about.
-/

namespace Runs

variable {S L : Type}

/-- Some step of the run, after the labels `before`, meets `C`. -/
def Earlier (C : List L → L → Prop) (ls : List L) : Prop := ∃ before l after, ls = before ++ l :: after ∧ C before l

namespace Earlier

variable {C D : List L → L → Prop} {ls : List L}

theorem mono (hCD : ∀ before l after, ls = before ++ l :: after → C before l → D before l) (h : Earlier C ls) :
    Earlier D ls := by
  obtain ⟨before, l, after, hls, hC⟩ := h
  exact ⟨before, l, after, hls, hCD before l after hls hC⟩

/-- What came earlier in a run came earlier in a longer one. -/
theorem append (h : Earlier C ls) (ls' : List L) : Earlier C (ls ++ ls') := by
  obtain ⟨before, l, after, rfl, hC⟩ := h
  refine ⟨before, l, after ++ ls', ?_, hC⟩
  rw [List.append_assoc, List.cons_append]

/-- The last step. -/
theorem last {l : L} (h : C ls l) : Earlier C (ls ++ [l]) := ⟨ls, l, [], rfl, h⟩

end Earlier

/-- The history rule: what does not hold at the beginning and holds in the end, some step brought about. -/
theorem earlier_of {P : List L → Prop} {C : List L → L → Prop} (hfirst : ¬P [])
    (hstep : ∀ before l, P (before ++ [l]) → P before ∨ C before l) {ls : List L} (h : P ls) : Earlier C ls := by
  induction ls using List.reverseRecOn with
  | nil => exact absurd h hfirst
  | append_singleton before l ih =>
    rcases hstep before l h with hold | hnew
    · exact (ih hold).append [l]
    · exact Earlier.last hnew

/-- What each step preserves, the later of two states of a run has from the earlier. -/
theorem run_grows {step : S → L → S} {I : S → Prop} {R : S → S → Prop} (hrefl : ∀ s, R s s)
    (htrans : ∀ s s' s'', R s s' → R s' s'' → R s s'') (hI : ∀ s l, I s → I (step s l)) (hR : ∀ s l, I s → R s (step s l))
    {s : S} (hs : I s) (ls : List L) : R s (run step s ls) := by
  induction ls generalizing s with
  | nil => exact hrefl s
  | cons l ls ih => exact htrans _ _ _ (hR s l hs) (ih (hI s l hs))

theorem run_concat (step : S → L → S) (s : S) (ls : List L) (l : L) : run step s (ls ++ [l]) = step (run step s ls) l :=
  run_append step s ls [l]

end Runs
