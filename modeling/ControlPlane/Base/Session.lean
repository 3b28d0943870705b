import Mathlib.Algebra.GroupWithZero.Nat
import Mathlib.Data.List.Basic

/-!
# Database sessions

A session works on its own copy `work` of the rows; `saved` holds the rows as committed, `outside` what no rollback
undoes (a queue), and `tick` counts the commits and outside calls made so far, so that a clock or a fault can depend
on the moment.  `Proc ε σ ρ α` is a program over a session that returns a value or raises an error, and leaves the
session in some state either way.

The second half is the proof system: `Triple P p R E` says that from a state with `P` the program `p` ends in a state
with `R a` if it returns `a`, and with `E` if it raises.
-/

namespace Session

/-- A session over rows `σ` and outside state `ρ`. -/
structure State (σ ρ : Type) where
  work : σ
  saved : σ
  outside : ρ
  tick : Nat

/-- A program over a session. -/
def Proc (ε σ ρ α : Type) : Type := State σ ρ → Except ε α × State σ ρ

variable {ε σ ρ α β : Type}

namespace Proc

instance : Monad (Proc ε σ ρ) where
  pure a := fun s => (.ok a, s)
  bind p f := fun s =>
    match p s with
    | (.ok a, s') => f a s'
    | (.error e, s') => (.error e, s')

def raise (e : ε) : Proc ε σ ρ α := fun s => (.error e, s)

/-- The rows as the session sees them. -/
def read : Proc ε σ ρ σ := fun s => (.ok s.work, s)

def now : Proc ε σ ρ Nat := fun s => (.ok s.tick, s)

/-- A computation on the rows of the session; when it fails, what it had changed is dropped. -/
def body (f : σ → Except ε (α × σ)) : Proc ε σ ρ α := fun s =>
  match f s.work with
  | .ok (a, w) => (.ok a, { s with work := w })
  | .error e => (.error e, s)

/-- Change the rows of the session. -/
def modify (f : σ → σ) : Proc ε σ ρ Unit := fun s => (.ok (), { s with work := f s.work })

/-- Write the rows of the session to the database, after `flush` (which sees the committed rows and the new ones).
A commit that fails leaves the committed rows as they were, and the session on them. -/
def commit (fails : Nat → Option ε) (flush : Nat → σ → σ → σ) : Proc ε σ ρ Unit := fun s =>
  match fails s.tick with
  | some e => (.error e, { s with work := s.saved, tick := s.tick + 1 })
  | none =>
    let rows := flush s.tick s.saved s.work
    (.ok (), { s with work := rows, saved := rows, tick := s.tick + 1 })

def rollback : Proc ε σ ρ Unit := fun s => (.ok (), { s with work := s.saved })

/-- A call of something outside the database, which no rollback undoes. -/
def call (f : Nat → ρ → Except ε (α × ρ)) : Proc ε σ ρ α := fun s =>
  match f s.tick s.outside with
  | .ok (a, o) => (.ok a, { s with outside := o, tick := s.tick + 1 })
  | .error e => (.error e, { s with tick := s.tick + 1 })

/-- Run `p`; if it raises, go on with the handler. -/
def attempt (p : Proc ε σ ρ α) (handler : ε → Proc ε σ ρ α) : Proc ε σ ρ α := fun s =>
  match p s with
  | (.ok a, s') => (.ok a, s')
  | (.error e, s') => handler e s'

/-- The state of a new session on committed rows. -/
def opened (rows : σ) (outside : ρ) : State σ ρ := ⟨rows, rows, outside, 0⟩

/-! ### What the primitives compute -/

@[simp] theorem pure_apply (a : α) (s : State σ ρ) : (pure a : Proc ε σ ρ α) s = (.ok a, s) := rfl

theorem bind_apply (p : Proc ε σ ρ α) (f : α → Proc ε σ ρ β) (s : State σ ρ) :
    (p >>= f) s = match p s with
      | (.ok a, s') => f a s'
      | (.error e, s') => (.error e, s') := rfl

theorem bind_ok {p : Proc ε σ ρ α} {f : α → Proc ε σ ρ β} {s s' : State σ ρ} {a : α} (h : p s = (.ok a, s')) :
    (p >>= f) s = f a s' := by
  rw [bind_apply, h]

theorem bind_error {p : Proc ε σ ρ α} {f : α → Proc ε σ ρ β} {s s' : State σ ρ} {e : ε} (h : p s = (.error e, s')) :
    (p >>= f) s = (.error e, s') := by
  rw [bind_apply, h]

/-- What is made of a computation's result does not change the session it leaves. -/
theorem bind_pure_snd (p : Proc ε σ ρ α) (f : α → β) (s : State σ ρ) :
    ((p >>= fun a => (pure (f a) : Proc ε σ ρ β)) s).2 = (p s).2 := by
  rw [bind_apply]
  cases p s with
  | mk r s' => cases r <;> rfl

theorem bind_assoc {γ : Type} (p : Proc ε σ ρ α) (f : α → Proc ε σ ρ β) (g : β → Proc ε σ ρ γ) :
    (p >>= f) >>= g = p >>= fun a => f a >>= g := by
  funext s
  rw [bind_apply, bind_apply, bind_apply]
  rcases p s with ⟨_ | _, s'⟩ <;> rfl

theorem pure_bind (a : α) (f : α → Proc ε σ ρ β) : (pure a >>= f) = f a := rfl

/-- A program with nothing to return may as well return nothing once more. -/
theorem bind_done (p : Proc ε σ ρ Unit) : (p >>= fun _ => pure ()) = p := by
  funext s
  cases hp : p s with
  | mk r s' =>
    cases r with
    | ok u => exact bind_ok hp
    | error e => exact bind_error hp

/-- A program that returned passed through both of its halves. -/
theorem of_bind_ok {p : Proc ε σ ρ α} {f : α → Proc ε σ ρ β} {s : State σ ρ} {b : β} (h : ((p >>= f) s).1 = .ok b) :
    ∃ a s', p s = (.ok a, s') ∧ (f a s').1 = .ok b := by
  rw [bind_apply] at h
  cases hp : p s with
  | mk r s' =>
    rw [hp] at h
    cases r with
    | ok a => exact ⟨a, s', rfl, h⟩
    | error e => cases h

/-- The same with the state it left. -/
theorem of_bind_returned {p : Proc ε σ ρ α} {f : α → Proc ε σ ρ β} {s s' : State σ ρ} {b : β}
    (h : (p >>= f) s = (.ok b, s')) : ∃ a s₁, p s = (.ok a, s₁) ∧ f a s₁ = (.ok b, s') := by
  obtain ⟨a, s₁, hp, -⟩ := of_bind_ok (b := b) (by rw [h])
  rw [bind_ok hp] at h
  exact ⟨a, s₁, hp, h⟩

/-- An attempt that returned did so by itself or through its handler. -/
theorem of_attempt_ok {p : Proc ε σ ρ α} {handler : ε → Proc ε σ ρ α} {s s' : State σ ρ} {a : α}
    (h : attempt p handler s = (.ok a, s')) :
    p s = (.ok a, s') ∨ ∃ e s₁, p s = (.error e, s₁) ∧ handler e s₁ = (.ok a, s') := by
  unfold attempt at h
  cases hp : p s with
  | mk r s₁ =>
    rw [hp] at h
    cases r with
    | ok b => exact Or.inl h
    | error e => exact Or.inr ⟨e, s₁, rfl, h⟩

theorem attempt_ok {p : Proc ε σ ρ α} (handler : ε → Proc ε σ ρ α) {s s' : State σ ρ} {a : α} (h : p s = (.ok a, s')) :
    attempt p handler s = (.ok a, s') := by
  unfold attempt
  rw [h]

theorem attempt_error {p : Proc ε σ ρ α} (handler : ε → Proc ε σ ρ α) {s s' : State σ ρ} {e : ε}
    (h : p s = (.error e, s')) : attempt p handler s = handler e s' := by
  unfold attempt
  rw [h]

@[simp] theorem raise_apply (e : ε) (s : State σ ρ) : (raise e : Proc ε σ ρ α) s = (.error e, s) := rfl

@[simp] theorem read_apply (s : State σ ρ) : (read : Proc ε σ ρ σ) s = (.ok s.work, s) := rfl

@[simp] theorem now_apply (s : State σ ρ) : (now : Proc ε σ ρ Nat) s = (.ok s.tick, s) := rfl

@[simp] theorem modify_apply (f : σ → σ) (s : State σ ρ) :
    (modify f : Proc ε σ ρ Unit) s = (.ok (), { s with work := f s.work }) := rfl

@[simp] theorem rollback_apply (s : State σ ρ) :
    (rollback : Proc ε σ ρ Unit) s = (.ok (), { s with work := s.saved }) := rfl

theorem body_ok {f : σ → Except ε (α × σ)} {s : State σ ρ} {a : α} {w : σ} (h : f s.work = .ok (a, w)) :
    body f s = (.ok a, { s with work := w }) := by
  rw [body, h]

theorem body_error {f : σ → Except ε (α × σ)} {s : State σ ρ} {e : ε} (h : f s.work = .error e) :
    body f s = (.error e, s) := by
  rw [body, h]

theorem commit_ok {fails : Nat → Option ε} {flush : Nat → σ → σ → σ} {s : State σ ρ} (h : fails s.tick = none) :
    commit fails flush s =
      (.ok (), { s with work := flush s.tick s.saved s.work, saved := flush s.tick s.saved s.work,
                        tick := s.tick + 1 }) := by
  rw [commit, h]

theorem commit_error {fails : Nat → Option ε} {flush : Nat → σ → σ → σ} {s : State σ ρ} {e : ε}
    (h : fails s.tick = some e) :
    commit fails flush s = (.error e, { s with work := s.saved, tick := s.tick + 1 }) := by
  rw [commit, h]

end Proc

/-! ### Triples -/

/-- What holds at the end of a program: `R a` when it returned `a`, `E` when it raised. -/
def Ends (R : α → State σ ρ → Prop) (E : State σ ρ → Prop) : Except ε α × State σ ρ → Prop
  | (.ok a, s) => R a s
  | (.error _, s) => E s

def Triple (P : State σ ρ → Prop) (p : Proc ε σ ρ α) (R : α → State σ ρ → Prop) (E : State σ ρ → Prop) : Prop :=
  ∀ s, P s → Ends R E (p s)

/-- `p` keeps the invariant `I`, whether it returns or raises. -/
def Keeps (I : State σ ρ → Prop) (p : Proc ε σ ρ α) : Prop := Triple I p (fun _ => I) I

/-- What holds however a computation ends. -/
theorem Ends.snd {I : State σ ρ → Prop} {r : Except ε α × State σ ρ} (h : Ends (fun _ => I) I r) : I r.2 := by
  obtain ⟨r, s'⟩ := r
  cases r with
  | ok a => exact h
  | error e => exact h

namespace Triple

variable {P P' : State σ ρ → Prop} {R R' : α → State σ ρ → Prop} {E E' : State σ ρ → Prop}

theorem conseq {p : Proc ε σ ρ α} (h : Triple P p R E) (hP : ∀ s, P' s → P s) (hR : ∀ a s, R a s → R' a s)
    (hE : ∀ s, E s → E' s) : Triple P' p R' E' := by
  intro s hs
  have := h s (hP s hs)
  cases hp : p s with
  | mk r s' =>
    rw [hp] at this
    cases r with
    | ok a => exact hR a s' this
    | error e => exact hE s' this

theorem pure (a : α) : Triple (R a) (pure a : Proc ε σ ρ α) R E := fun _ h => h

theorem raise (e : ε) : Triple E (Proc.raise e : Proc ε σ ρ α) R E := fun _ h => h

theorem bind {p : Proc ε σ ρ α} {f : α → Proc ε σ ρ β} {Q : β → State σ ρ → Prop}
    (hp : Triple P p R E) (hf : ∀ a, Triple (R a) (f a) Q E) : Triple P (p >>= f) Q E := by
  intro s hs
  have := hp s hs
  rw [Proc.bind_apply]
  cases h : p s with
  | mk r s' =>
    rw [h] at this
    cases r with
    | ok a => exact hf a s' this
    | error e => exact this

/-- A fact in the precondition that is not about the state. -/
theorem of_fact {p : Proc ε σ ρ α} {q : Prop} (h : q → Triple P p R E) : Triple (fun s => P s ∧ q) p R E :=
  fun s hs => h hs.2 s hs.1

/-- Two triples about one program. -/
theorem and {p : Proc ε σ ρ α} (h : Triple P p R E) (h' : Triple P' p R' E') :
    Triple (fun s => P s ∧ P' s) p (fun a s => R a s ∧ R' a s) fun s => E s ∧ E' s := by
  intro s hs
  have h₁ := h s hs.1
  have h₂ := h' s hs.2
  cases hp : p s with
  | mk r s' =>
    rw [hp] at h₁ h₂
    cases r with
    | ok a => exact ⟨h₁, h₂⟩
    | error e => exact ⟨h₁, h₂⟩

theorem attempt {p : Proc ε σ ρ α} {handler : ε → Proc ε σ ρ α} (hp : Triple P p R E')
    (hh : ∀ e, Triple E' (handler e) R E) : Triple P (Proc.attempt p handler) R E := by
  intro s hs
  have := hp s hs
  unfold Proc.attempt
  cases h : p s with
  | mk r s' =>
    rw [h] at this
    cases r with
    | ok a => exact this
    | error e => exact hh e s' this

theorem read : Triple P (Proc.read : Proc ε σ ρ σ) (fun w s => w = s.work ∧ P s) E := fun _ h => ⟨rfl, h⟩

theorem body {f : σ → Except ε (α × σ)} (hok : ∀ s a w, P s → f s.work = .ok (a, w) → R a { s with work := w })
    (herr : ∀ s e, P s → f s.work = .error e → E s) : Triple P (Proc.body f) R E := by
  intro s hs
  cases h : f s.work with
  | ok aw => rw [Proc.body_ok h]; exact hok s _ _ hs h
  | error e => rw [Proc.body_error h]; exact herr s e hs h

theorem commit {fails : Nat → Option ε} {flush : Nat → σ → σ → σ} {Q : Unit → State σ ρ → Prop}
    (hok : ∀ s, P s → fails s.tick = none →
      Q () { s with work := flush s.tick s.saved s.work, saved := flush s.tick s.saved s.work, tick := s.tick + 1 })
    (herr : ∀ s, P s → E { s with work := s.saved, tick := s.tick + 1 }) :
    Triple P (Proc.commit fails flush) Q E := by
  intro s hs
  cases h : fails s.tick with
  | none => rw [Proc.commit_ok h]; exact hok s hs h
  | some e => rw [Proc.commit_error h]; exact herr s hs

end Triple

namespace Keeps

variable {I : State σ ρ → Prop}

theorem pure (a : α) : Keeps I (pure a : Proc ε σ ρ α) := fun _ h => h

theorem raise (e : ε) : Keeps I (Proc.raise e : Proc ε σ ρ α) := fun _ h => h

theorem bind {p : Proc ε σ ρ α} {f : α → Proc ε σ ρ β} (hp : Keeps I p) (hf : ∀ a, Keeps I (f a)) :
    Keeps I (p >>= f) := Triple.bind hp hf

theorem attempt {p : Proc ε σ ρ α} {handler : ε → Proc ε σ ρ α} (hp : Keeps I p) (hh : ∀ e, Keeps I (handler e)) :
    Keeps I (Proc.attempt p handler) := Triple.attempt hp hh

theorem read : Keeps I (Proc.read : Proc ε σ ρ σ) := fun _ h => h

theorem now : Keeps I (Proc.now : Proc ε σ ρ Nat) := fun _ h => h

theorem apply {p : Proc ε σ ρ α} (hp : Keeps I p) {s : State σ ρ} (hs : I s) : I (p s).2 := (hp s hs).snd

/-- A computation that leaves the invariant in some session, and what follows it. -/
theorem holds_bind {p : Proc ε σ ρ α} {f : α → Proc ε σ ρ β} {s : State σ ρ} (hp : I (p s).2)
    (hf : ∀ a s', p s = (.ok a, s') → I s' → I (f a s').2) : I ((p >>= f) s).2 := by
  rw [Proc.bind_apply]
  cases h : p s with
  | mk r s' =>
    rw [h] at hp
    cases r with
    | error e => exact hp
    | ok a => exact hf a s' h hp

theorem holds_attempt {p : Proc ε σ ρ α} {handler : ε → Proc ε σ ρ α} {s : State σ ρ} (hp : I (p s).2)
    (hh : ∀ e, Keeps I (handler e)) : I (Proc.attempt p handler s).2 := by
  unfold Proc.attempt
  cases h : p s with
  | mk r s' =>
    rw [h] at hp
    cases r with
    | ok a => exact hp
    | error e => exact (hh e).apply hp

end Keeps

/-- The session's rows and the committed rows satisfy `J`, and what lies outside satisfies `R`. -/
def Rows (J : σ → Prop) (R : ρ → Prop) (s : State σ ρ) : Prop := J s.work ∧ J s.saved ∧ R s.outside

namespace Keeps

variable {J : σ → Prop} {R : ρ → Prop}

theorem modify {f : σ → σ} (hf : ∀ x, J x → J (f x)) :
    Keeps (Rows J R) (Proc.modify f : Proc ε σ ρ Unit) := fun s h => ⟨hf s.work h.1, h.2⟩

theorem body {f : σ → Except ε (α × σ)} (hf : ∀ x a y, J x → f x = .ok (a, y) → J y) :
    Keeps (Rows J R) (Proc.body f : Proc ε σ ρ α) :=
  Triple.body (fun s a w h hw => ⟨hf s.work a w h.1 hw, h.2⟩) (fun _ _ h _ => h)

theorem commit {fails : Nat → Option ε} {flush : Nat → σ → σ → σ}
    (hf : ∀ t x y, J x → J y → J (flush t x y)) :
    Keeps (Rows J R) (Proc.commit fails flush : Proc ε σ ρ Unit) :=
  Triple.commit (fun s h _ => ⟨hf s.tick _ _ h.2.1 h.1, hf s.tick _ _ h.2.1 h.1, h.2.2⟩)
    (fun _ h => ⟨h.2.1, h.2⟩)

theorem rollback : Keeps (Rows J R) (Proc.rollback : Proc ε σ ρ Unit) := fun _ h => ⟨h.2.1, h.2⟩

theorem call {f : Nat → ρ → Except ε (α × ρ)} (hf : ∀ t o a o', R o → f t o = .ok (a, o') → R o') :
    Keeps (Rows J R) (Proc.call f : Proc ε σ ρ α) := by
  intro s h
  unfold Proc.call
  split
  · rename_i a o heq
    exact ⟨h.1, h.2.1, hf _ _ _ _ h.2.2 heq⟩
  · exact h

end Keeps

/-- `p` leaves `K` true of the session's own rows, unless it raises. -/
def KeepsWork (K : σ → Prop) (p : Proc ε σ ρ α) : Prop :=
  Triple (fun s => K s.work) p (fun _ s => K s.work) fun _ => True

namespace KeepsWork

variable {K : σ → Prop}

theorem pure (a : α) : KeepsWork K (pure a : Proc ε σ ρ α) := fun _ h => h

theorem bind {p : Proc ε σ ρ α} {f : α → Proc ε σ ρ β} (hp : KeepsWork K p) (hf : ∀ a, KeepsWork K (f a)) :
    KeepsWork K (p >>= f) := Triple.bind hp hf

theorem read : KeepsWork K (Proc.read : Proc ε σ ρ σ) := fun _ h => h

theorem modify {f : σ → σ} (hf : ∀ x, K x → K (f x)) : KeepsWork K (Proc.modify f : Proc ε σ ρ Unit) :=
  fun s h => hf s.work h

theorem commit {fails : Nat → Option ε} {flush : Nat → σ → σ → σ} (hf : ∀ t x y, K y → K (flush t x y)) :
    KeepsWork K (Proc.commit fails flush : Proc ε σ ρ Unit) :=
  Triple.commit (fun s h _ => hf s.tick s.saved s.work h) fun _ _ => trivial

theorem call {f : Nat → ρ → Except ε (α × ρ)} : KeepsWork K (Proc.call f : Proc ε σ ρ α) := by
  intro s h
  unfold Proc.call
  split
  · exact h
  · trivial

/-- What the session is left with by a program that returned. -/
theorem of_ok {p : Proc ε σ ρ α} (hp : KeepsWork K p) {s s' : State σ ρ} {a : α} (hs : K s.work)
    (h : p s = (.ok a, s')) : K s'.work := by
  have h' := hp s hs
  rw [h] at h'
  exact h'

end KeepsWork

/-! ### Programs that return -/

/-- `p` returns from every state. -/
def Returns (p : Proc ε σ ρ α) : Prop := ∀ s, ∃ a s', p s = (.ok a, s')

namespace Returns

theorem pure (a : α) : Returns (pure a : Proc ε σ ρ α) := fun s => ⟨a, s, rfl⟩

theorem bind {p : Proc ε σ ρ α} {f : α → Proc ε σ ρ β} (hp : Returns p) (hf : ∀ a, Returns (f a)) :
    Returns (p >>= f) := by
  intro s
  obtain ⟨a, s', h⟩ := hp s
  rw [Proc.bind_ok h]
  exact hf a s'

theorem read : Returns (Proc.read : Proc ε σ ρ σ) := fun s => ⟨s.work, s, rfl⟩

theorem now : Returns (Proc.now : Proc ε σ ρ Nat) := fun s => ⟨s.tick, s, rfl⟩

theorem modify (f : σ → σ) : Returns (Proc.modify f : Proc ε σ ρ Unit) := fun _ => ⟨(), _, rfl⟩

theorem body {f : σ → Except ε (α × σ)} (hf : ∀ x, ∃ a y, f x = .ok (a, y)) : Returns (Proc.body f : Proc ε σ ρ α) := by
  intro s
  obtain ⟨a, y, h⟩ := hf s.work
  exact ⟨a, _, Proc.body_ok h⟩

theorem commit {fails : Nat → Option ε} (flush : Nat → σ → σ → σ) (h : ∀ t, fails t = none) :
    Returns (Proc.commit fails flush : Proc ε σ ρ Unit) := fun s => ⟨(), _, Proc.commit_ok (h s.tick)⟩

/-- An attempt whose handler returns. -/
theorem attempt {p : Proc ε σ ρ α} {handler : ε → Proc ε σ ρ α} (hh : ∀ e, Returns (handler e)) :
    Returns (Proc.attempt p handler) := by
  intro s
  unfold Proc.attempt
  cases p s with
  | mk r s' =>
    cases r with
    | ok a => exact ⟨a, s', rfl⟩
    | error e => exact hh e s'

theorem call {f : Nat → ρ → Except ε (α × ρ)} (hf : ∀ t o, ∃ a o', f t o = .ok (a, o')) :
    Returns (Proc.call f : Proc ε σ ρ α) := by
  intro s
  obtain ⟨a, o, h⟩ := hf s.tick s.outside
  exact ⟨a, { s with outside := o, tick := s.tick + 1 }, by rw [Proc.call, h]⟩

end Returns

/-! ### Loops -/

/-- Do something for every element of a list, in order. -/
def Proc.forEach (f : β → Proc ε σ ρ Unit) : List β → Proc ε σ ρ Unit
  | [] => pure ()
  | b :: rest => do
    f b
    Proc.forEach f rest

/-- A loop keeps what each of its rounds keeps. -/
theorem Keeps.forEach {I : State σ ρ → Prop} {f : β → Proc ε σ ρ Unit} (hf : ∀ b, Keeps I (f b)) (l : List β) :
    Keeps I (Proc.forEach f l) := by
  induction l with
  | nil => exact Keeps.pure ()
  | cons b rest ih => exact Keeps.bind (hf b) fun _ => ih

/-- What every round leaves true of the session's own rows, the loop does. -/
theorem KeepsWork.forEach {K : σ → Prop} {f : β → Proc ε σ ρ Unit} (hf : ∀ b, KeepsWork K (f b)) (l : List β) :
    KeepsWork K (Proc.forEach f l) := by
  induction l with
  | nil => exact KeepsWork.pure ()
  | cons b rest ih => exact KeepsWork.bind (hf b) fun _ => ih

/-- A loop that returns has been through each of its rounds: what one of them brings about and the others keep, holds in
the end. -/
theorem forEach_reaches {K R : σ → Prop} {f : β → Proc ε σ ρ Unit} {b : β} (hK : ∀ b, KeepsWork K (f b))
    (hR : ∀ b, KeepsWork R (f b))
    (hb : Triple (fun s : State σ ρ => K s.work) (f b) (fun _ s => R s.work) fun _ => True) {l : List β} (hmem : b ∈ l)
    {s s' : State σ ρ} {u : Unit} (hs : K s.work) (h : Proc.forEach f l s = (.ok u, s')) : R s'.work := by
  induction l generalizing s with
  | nil => cases hmem
  | cons c rest ih =>
    unfold Proc.forEach at h
    obtain ⟨u₁, s₁, hround, hrest⟩ := Proc.of_bind_returned h
    rcases List.mem_cons.1 hmem with rfl | hlater
    · have hreached := hb s hs
      rw [hround] at hreached
      exact (KeepsWork.forEach hR rest).of_ok hreached hrest
    · exact ih hlater ((hK c).of_ok hs hround) hrest

/-- The elements a loop over a list comes to, each with the session it finds. -/
def visits (f : β → Proc ε σ ρ α) : List β → State σ ρ → List (β × State σ ρ)
  | [], _ => []
  | b :: rest, s =>
    (b, s) :: match f b s with
      | (.ok _, s') => visits f rest s'
      | (.error _, _) => []

/-- The loop rule: an invariant that every visit keeps from the session it finds holds after the loop. -/
theorem forEach_keeps {I : State σ ρ → Prop} {f : β → Proc ε σ ρ Unit} {l : List β} {s : State σ ρ} (hs : I s)
    (hf : ∀ v ∈ visits f l s, I v.2 → I (f v.1 v.2).2) : I (Proc.forEach f l s).2 := by
  induction l generalizing s with
  | nil => exact hs
  | cons b rest ih =>
    have hb : I (f b s).2 := hf (b, s) (List.mem_cons_self ..) hs
    unfold Proc.forEach
    rw [Proc.bind_apply]
    cases h : f b s with
    | mk r s' =>
      rw [h] at hb
      cases r with
      | error e => exact hb
      | ok u =>
        refine ih hb fun v hv => hf v ?_
        rw [visits, h]
        exact List.mem_cons_of_mem _ hv

/-- Go over a list, in order, gathering a value. -/
def Proc.gather {γ : Type} (f : γ → β → Proc ε σ ρ γ) : γ → List β → Proc ε σ ρ γ
  | c, [] => pure c
  | c, b :: rest => do
    let c ← f c b
    Proc.gather f c rest

/-- When the rounds are those of a loop but for what they gather, so is the whole. -/
theorem gather_ignored {γ : Type} {f : γ → β → Proc ε σ ρ γ} {g : β → Proc ε σ ρ Unit}
    (h : ∀ c b, (f c b >>= fun _ => pure ()) = g b) (c : γ) (l : List β) :
    (Proc.gather f c l >>= fun _ => pure ()) = Proc.forEach g l := by
  induction l generalizing c with
  | nil => rfl
  | cons b rest ih =>
    calc (Proc.gather f c (b :: rest) >>= fun _ => pure ())
        = (f c b >>= fun c => Proc.gather f c rest >>= fun _ => pure ()) := Proc.bind_assoc ..
      _ = (f c b >>= fun _ => Proc.forEach g rest) := by simp only [ih]
      _ = ((f c b >>= fun _ => pure ()) >>= fun _ => Proc.forEach g rest) := by
        rw [Proc.bind_assoc]
        rfl
      _ = Proc.forEach g (b :: rest) := by
        rw [h]
        rfl

/-- The counting rule: where each round counts what its element is worth in the state the loop began in, and no round
disturbs another's element, the loop counts the sum. -/
theorem gather_counts {γ : Type} {f : γ → β → Proc ε σ ρ γ} {measure : γ → Nat} {worth : β → Nat}
    {K : β → State σ ρ → Prop}
    (hself : ∀ c b s c' s', K b s → f c b s = (.ok c', s') → measure c' = measure c + worth b)
    (hother : ∀ c b s c' s' b', b' ≠ b → K b' s → f c b s = (.ok c', s') → K b' s') {l : List β} (hl : l.Nodup)
    {c c' : γ} {s s' : State σ ρ} (hK : ∀ b ∈ l, K b s) (h : Proc.gather f c l s = (.ok c', s')) :
    measure c' = measure c + (l.map worth).sum := by
  induction l generalizing c s with
  | nil =>
    cases h
    rfl
  | cons b rest ih =>
    obtain ⟨hnew, hrest⟩ := List.nodup_cons.1 hl
    obtain ⟨c₁, s₁, hround, hlater⟩ := Proc.of_bind_returned h
    have hK₁ : ∀ b' ∈ rest, K b' s₁ := by
      intro b' hb'
      have hne : b' ≠ b := by
        rintro rfl
        exact hnew hb'
      exact hother c b s c₁ s₁ b' hne (hK b' (List.mem_cons_of_mem b hb')) hround
    rw [ih hrest hK₁ hlater, hself c b s c₁ s₁ (hK b List.mem_cons_self) hround, List.map_cons, List.sum_cons,
      Nat.add_assoc]

end Session
