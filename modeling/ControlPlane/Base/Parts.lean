import ControlPlane.Base.Session

/-!
# A part of the rows

A session that works on two kinds of rows keeps one of them, seen through `view`, committed at all times: every change of
that part is followed by its commit.  `Agreed view K` says so, and that `K` holds of the part and of what lies outside.
The rules reduce an invariant of the part to its single writes.
-/

namespace Session

variable {ε σ ρ α β : Type}

/-- The session sees the part as it is committed, and `K` holds of it and of what lies outside. -/
structure Agreed (view : σ → β) (K : β → ρ → Prop) (s : State σ ρ) : Prop where
  same : view s.work = view s.saved
  holds : K (view s.saved) s.outside

namespace Agreed

variable {view : σ → β} {K : β → ρ → Prop}

/-- A session that has just been opened has changed nothing. -/
theorem opened {rows : σ} {outside : ρ} (h : K (view rows) outside) : Agreed view K (Proc.opened rows outside) :=
  ⟨rfl, h⟩

theorem mono {K' : β → ρ → Prop} (hK : ∀ b o, K b o → K' b o) {s : State σ ρ} (h : Agreed view K s) :
    Agreed view K' s := ⟨h.same, hK _ _ h.holds⟩

/-- A computation that leaves the part alone. -/
theorem body {f : σ → Except ε (α × σ)} (hf : ∀ x a y, f x = .ok (a, y) → view y = view x) :
    Keeps (Agreed view K) (Proc.body f : Proc ε σ ρ α) := by
  refine Triple.body (fun s a w hs hw => ?_) fun s e hs he => hs
  have hview : view w = view s.work := hf s.work a w hw
  exact ⟨hview.trans hs.same, hs.holds⟩

theorem modify {f : σ → σ} (hf : ∀ x, view (f x) = view x) :
    Keeps (Agreed view K) (Proc.modify f : Proc ε σ ρ Unit) := by
  intro s hs
  exact ⟨(hf s.work).trans hs.same, hs.holds⟩

theorem rollback : Keeps (Agreed view K) (Proc.rollback : Proc ε σ ρ Unit) := fun _ hs => ⟨rfl, hs.holds⟩

theorem commit {fails : Nat → Option ε} {flush : Nat → σ → σ → σ} (hflush : ∀ t x y, view (flush t x y) = view y) :
    Keeps (Agreed view K) (Proc.commit fails flush : Proc ε σ ρ Unit) := by
  refine Triple.commit (fun s hs hok => ?_) fun s hs => ⟨rfl, hs.holds⟩
  have hview : view (flush s.tick s.saved s.work) = view s.saved := (hflush _ _ _).trans hs.same
  refine ⟨rfl, ?_⟩
  rw [hview]
  exact hs.holds

/-- A write of the part and its commit: `K` is asked of what was written. -/
theorem write {fails : Nat → Option ε} {flush : Nat → σ → σ → σ} {f : σ → σ}
    (hflush : ∀ t x y, view (flush t x y) = view y) (hf : ∀ x o, K (view x) o → K (view (f x)) o) :
    Keeps (Agreed view K) (Proc.modify f >>= fun _ => (Proc.commit fails flush : Proc ε σ ρ Unit)) := by
  refine Triple.bind (R := fun _ s => K (view s.work) s.outside ∧ K (view s.saved) s.outside) (fun s hs => ?_) fun _ => ?_
  · refine ⟨hf s.work s.outside ?_, hs.holds⟩
    rw [hs.same]
    exact hs.holds
  · refine Triple.commit (fun s hs _ => ⟨rfl, ?_⟩) fun s hs => ⟨rfl, hs.2⟩
    have hview : view (flush s.tick s.saved s.work) = view s.work := hflush _ _ _
    show K (view (flush s.tick s.saved s.work)) s.outside
    rw [hview]
    exact hs.1

/-- A call of something outside. -/
theorem call {f : Nat → ρ → Except ε (α × ρ)} (hf : ∀ b t o a o', K b o → f t o = .ok (a, o') → K b o') :
    Keeps (Agreed view K) (Proc.call f : Proc ε σ ρ α) := by
  intro s hs
  unfold Proc.call
  split
  · rename_i a o' heq
    exact ⟨hs.same, hf _ _ _ _ _ hs.holds heq⟩
  · exact ⟨hs.same, hs.holds⟩

end Agreed

end Session
