import Mathlib.Data.List.Basic

/-!
# Runs of a labelled system

A system is a function `step : S → L → S`; a run is a list of labels.  `Always P s ls` says that every state of the
run from `s` satisfies `P`, and `Steps C s ls` that every step of it meets the condition `C`, which may look at the
state before the step.  The induction over the run is made once, in `Always.of_steps` and `steps_iff_always`.
-/

namespace Runs

variable {S L : Type} (step : S → L → S)

/-- The state after a run. -/
def run (s : S) (ls : List L) : S := ls.foldl step s

/-- Every state of the run, the first and the last included, satisfies `P`. -/
def Always (P : S → Prop) : S → List L → Prop
  | s, [] => P s
  | s, l :: ls => P s ∧ Always P (step s l) ls

/-- Every step of the run meets `C`. -/
def Steps (C : S → L → Prop) : S → List L → Prop
  | _, [] => True
  | s, l :: ls => C s l ∧ Steps C (step s l) ls

instance decidableAlways (P : S → Prop) [DecidablePred P] : (s : S) → (ls : List L) → Decidable (Always step P s ls)
  | s, [] => inferInstanceAs (Decidable (P s))
  | s, l :: ls =>
    have := decidableAlways P (step s l) ls
    inferInstanceAs (Decidable (P s ∧ Always step P (step s l) ls))

instance decidableSteps (C : S → L → Prop) [∀ s l, Decidable (C s l)] :
    (s : S) → (ls : List L) → Decidable (Steps step C s ls)
  | _, [] => inferInstanceAs (Decidable True)
  | s, l :: ls =>
    have := decidableSteps C (step s l) ls
    inferInstanceAs (Decidable (C s l ∧ Steps step C (step s l) ls))

@[simp] theorem run_nil (s : S) : run step s [] = s := rfl

@[simp] theorem run_cons (s : S) (l : L) (ls : List L) : run step s (l :: ls) = run step (step s l) ls := rfl

theorem run_append (s : S) (ls ls' : List L) : run step s (ls ++ ls') = run step (run step s ls) ls' := by
  unfold run; exact List.foldl_append

variable {step}

theorem Always.head {P : S → Prop} {s : S} {ls : List L} (h : Always step P s ls) : P s := by
  cases ls with
  | nil => exact h
  | cons l ls => exact h.1

theorem Always.last {P : S → Prop} {s : S} {ls : List L} (h : Always step P s ls) : P (run step s ls) := by
  induction ls generalizing s with
  | nil => exact h
  | cons l ls ih => exact ih h.2

theorem Always.mono {P Q : S → Prop} (hPQ : ∀ s, P s → Q s) {s : S} {ls : List L} (h : Always step P s ls) :
    Always step Q s ls := by
  induction ls generalizing s with
  | nil => exact hPQ _ h
  | cons l ls ih => exact ⟨hPQ _ h.1, ih h.2⟩

theorem Always.and {P Q : S → Prop} {s : S} {ls : List L} (hP : Always step P s ls) (hQ : Always step Q s ls) :
    Always step (fun s => P s ∧ Q s) s ls := by
  induction ls generalizing s with
  | nil => exact ⟨hP, hQ⟩
  | cons l ls ih => exact ⟨⟨hP.1, hQ.1⟩, ih hP.2 hQ.2⟩

/-- The run rule: what each step preserves under `C`, every state of a run whose steps meet `C` has. -/
theorem Always.of_steps {I : S → Prop} {C : S → L → Prop} (hstep : ∀ s l, I s → C s l → I (step s l))
    {s : S} {ls : List L} (hs : I s) (hC : Steps step C s ls) : Always step I s ls := by
  induction ls generalizing s with
  | nil => exact hs
  | cons l ls ih => exact ⟨hs, ih (hstep s l hs hC.1) hC.2⟩

/-- What every step preserves, every state of a run has. -/
theorem Always.of_invariant {I : S → Prop} (hstep : ∀ s l, I s → I (step s l)) {s : S} (hs : I s) (ls : List L) :
    Always step I s ls := by
  induction ls generalizing s with
  | nil => exact hs
  | cons l ls ih => exact ⟨hs, ih (hstep s l hs)⟩

/-- When `C` is exactly what a step needs to keep `I`, a run keeps `I` throughout if and only if all its steps
meet `C`. -/
theorem steps_iff_always {I : S → Prop} {C : S → L → Prop} (hstep : ∀ s l, I s → (C s l ↔ I (step s l)))
    {s : S} {ls : List L} (hs : I s) : Steps step C s ls ↔ Always step I s ls := by
  constructor
  · exact Always.of_steps (fun s l h => (hstep s l h).1) hs
  · intro h
    induction ls generalizing s with
    | nil => trivial
    | cons l ls ih => exact ⟨(hstep s l hs).2 h.2.head, ih h.2.head h.2⟩

/-- The same for runs whose steps all meet a condition `D` besides. -/
theorem steps_iff_always_of {I : S → Prop} {C D : S → L → Prop}
    (hstep : ∀ s l, I s → D s l → (C s l ↔ I (step s l))) {s : S} {ls : List L} (hs : I s) (hD : Steps step D s ls) :
    Steps step C s ls ↔ Always step I s ls := by
  induction ls generalizing s with
  | nil => exact iff_of_true trivial hs
  | cons l ls ih =>
    constructor
    · intro h
      have hnext := (hstep s l hs hD.1).1 h.1
      exact ⟨hs, (ih hnext hD.2).1 h.2⟩
    · intro h
      have hnext : I (step s l) := h.2.head
      exact ⟨(hstep s l hs hD.1).2 hnext, (ih hnext hD.2).2 h.2⟩

/-- When `C` is what a step needs to keep `I`, and `I` does not come back once it is lost, the last state of a run tells
whether all its steps met `C`.  `D` is a condition on every step, and `J` holds throughout. -/
theorem steps_iff_last_of {I J : S → Prop} {C D : S → L → Prop} (hJ : ∀ s l, J s → D s l → J (step s l))
    (hstep : ∀ s l, J s → D s l → I s → (C s l ↔ I (step s l))) (hlost : ∀ s l, J s → D s l → ¬I s → ¬I (step s l))
    {s : S} {ls : List L} (hs : J s) (hI : I s) (hD : Steps step D s ls) : Steps step C s ls ↔ I (run step s ls) := by
  have hnever : ∀ (ls : List L) (s : S), J s → Steps step D s ls → ¬I s → ¬I (run step s ls) := by
    intro ls
    induction ls with
    | nil => exact fun s _ _ hno => hno
    | cons l ls ih => exact fun s hs hD hno => ih _ (hJ s l hs hD.1) hD.2 (hlost s l hs hD.1 hno)
  induction ls generalizing s with
  | nil => exact iff_of_true trivial hI
  | cons l ls ih =>
    have hnext := hstep s l hs hD.1 hI
    by_cases hC : C s l
    · exact (and_iff_right hC).trans (ih (hJ s l hs hD.1) (hnext.1 hC) hD.2)
    · exact iff_of_false (fun h => hC h.1) (hnever ls _ (hJ s l hs hD.1) hD.2 fun hI' => hC (hnext.2 hI'))

/-- The same for runs of any steps. -/
theorem steps_iff_last {I J : S → Prop} {C : S → L → Prop} (hJ : ∀ s l, J s → J (step s l))
    (hstep : ∀ s l, J s → I s → (C s l ↔ I (step s l))) (hlost : ∀ s l, J s → ¬I s → ¬I (step s l)) {s : S} {ls : List L}
    (hs : J s) (hI : I s) : Steps step C s ls ↔ I (run step s ls) := by
  have hany : Steps step (fun _ _ => True) s ls := by
    clear hs hI
    induction ls generalizing s with
    | nil => trivial
    | cons l ls ih => exact ⟨trivial, ih⟩
  exact steps_iff_last_of (fun s l h _ => hJ s l h) (fun s l h _ => hstep s l h) (fun s l h _ => hlost s l h) hs hI hany

theorem Steps.mono {C D : S → L → Prop} (hCD : ∀ s l, C s l → D s l) {s : S} {ls : List L}
    (h : Steps step C s ls) : Steps step D s ls := by
  induction ls generalizing s with
  | nil => trivial
  | cons l ls ih => exact ⟨hCD _ _ h.1, ih h.2⟩

/-- What a step has besides when it meets `C` in a state with the invariant. -/
theorem Steps.mono_of {I : S → Prop} {C D : S → L → Prop} (hstep : ∀ s l, I s → C s l → I (step s l))
    (hCD : ∀ s l, I s → C s l → D s l) {s : S} {ls : List L} (hs : I s) (h : Steps step C s ls) : Steps step D s ls := by
  induction ls generalizing s with
  | nil => trivial
  | cons l ls ih => exact ⟨hCD s l hs h.1, ih (hstep s l hs h.1) h.2⟩

/-- When the invariant gives the condition, every step of a run meets it. -/
theorem Steps.of_invariant {I : S → Prop} {C : S → L → Prop} (hstep : ∀ s l, I s → C s l → I (step s l))
    (hC : ∀ s l, I s → C s l) {s : S} (hs : I s) (ls : List L) : Steps step C s ls := by
  induction ls generalizing s with
  | nil => trivial
  | cons l ls ih => exact ⟨hC s l hs, ih (hstep s l hs (hC s l hs))⟩

/-- Two conditions that agree in every state of a run. -/
theorem steps_congr {I : S → Prop} {C D : S → L → Prop} (hstep : ∀ s l, I s → I (step s l))
    (hCD : ∀ s l, I s → (C s l ↔ D s l)) {s : S} {ls : List L} (hs : I s) : Steps step C s ls ↔ Steps step D s ls := by
  induction ls generalizing s with
  | nil => exact Iff.rfl
  | cons l ls ih => exact and_congr (hCD s l hs) (ih (hstep s l hs))

/-- Two conditions that agree wherever the run has kept an invariant, when steps that meet the first keep it. -/
theorem steps_congr_of {I : S → Prop} {C D : S → L → Prop} (hstep : ∀ s l, I s → C s l → I (step s l))
    (hCD : ∀ s l, I s → (C s l ↔ D s l)) {s : S} {ls : List L} (hs : I s) : Steps step C s ls ↔ Steps step D s ls := by
  induction ls generalizing s with
  | nil => exact Iff.rfl
  | cons l ls ih =>
    constructor
    · intro h
      exact ⟨(hCD s l hs).1 h.1, (ih (hstep s l hs h.1)).1 h.2⟩
    · intro h
      have hC := (hCD s l hs).2 h.1
      exact ⟨hC, (ih (hstep s l hs hC)).2 h.2⟩

theorem Steps.and {C D : S → L → Prop} {s : S} {ls : List L} (hC : Steps step C s ls) (hD : Steps step D s ls) :
    Steps step (fun s l => C s l ∧ D s l) s ls := by
  induction ls generalizing s with
  | nil => trivial
  | cons l ls ih => exact ⟨⟨hC.1, hD.1⟩, ih hC.2 hD.2⟩

variable (step) in
/-- The labels of a run that the states before them keep. -/
def kept (keep : S → L → Bool) : S → List L → List L
  | _, [] => []
  | s, l :: ls => if keep s l then l :: kept keep (step s l) ls else kept keep (step s l) ls

/-- The rule for a projection of runs: a kept step is made on both sides, any other on the left only. -/
theorem run_kept {R : S → S → Prop} {keep : S → L → Bool}
    (hkeep : ∀ s s' l, R s s' → keep s l = true → R (step s l) (step s' l))
    (hskip : ∀ s s' l, R s s' → keep s l = false → R (step s l) s') {s s' : S} (h : R s s') (ls : List L) :
    R (run step s ls) (run step s' (kept step keep s ls)) := by
  induction ls generalizing s s' with
  | nil => exact h
  | cons l ls ih =>
    unfold kept
    cases hl : keep s l with
    | true => exact ih (hkeep s s' l h hl)
    | false => exact ih (hskip s s' l h hl)

end Runs
