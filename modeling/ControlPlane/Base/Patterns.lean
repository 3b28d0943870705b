import Mathlib.Data.List.Infix

/-!
# Patterns

Regular expressions as backtracking matchers.  A matcher maps a place in a text to its successes, each with what it
captured and the place where it ends, in the order in which a backtracking engine tries them: the first one counts.
`findAll` finds the matches of a text from left to right, none overlapping another, as long as none is empty.
-/

namespace Patterns

/-- A place in a text: the character before it, if any, and the text after it. -/
structure Place where
  before : Option Char
  after : List Char

/-- A matcher: its successes at a place, the preferred ones first. -/
def Matcher (α : Type) : Type := Place → List (α × Place)

variable {α β : Type}

namespace Matcher

instance : Monad Matcher where
  pure a := fun x => [(a, x)]
  bind m f := fun x => (m x).flatMap fun r => f r.1 r.2

/-- A character of a class. -/
def one (p : Char → Bool) : Matcher Unit
  | ⟨_, []⟩ => []
  | ⟨_, c :: rest⟩ => if p c then [((), ⟨some c, rest⟩)] else []

/-- As many characters of a class as there are, or fewer if need be. -/
def manyFrom (p : Char → Bool) : Option Char → List Char → List (Unit × Place)
  | before, [] => [((), ⟨before, []⟩)]
  | before, c :: rest =>
    if p c then manyFrom p (some c) rest ++ [((), ⟨before, c :: rest⟩)] else [((), ⟨before, c :: rest⟩)]

def many (p : Char → Bool) : Matcher Unit := fun x => manyFrom p x.before x.after

def many1 (p : Char → Bool) : Matcher Unit := do
  one p
  many p

/-- One or the other, the first if possible. -/
def alt (m n : Matcher α) : Matcher α := fun x => m x ++ n x

def optional (m : Matcher Unit) : Matcher Unit := alt m (pure ())

/-- A text, where `same` says which characters stand for a letter. -/
def literal (same : Char → Char → Bool) : List Char → Matcher Unit
  | [] => pure ()
  | c :: rest => do
    one (same c)
    literal same rest

/-- A word ends or begins here. -/
def boundary (isWord : Char → Bool) : Matcher Unit := fun x =>
  if x.before.any isWord = x.after.head?.any isWord then [] else [((), x)]

/-- The text a matcher goes over. -/
def capture (m : Matcher Unit) : Matcher (List Char) := fun x =>
  (m x).map fun r => (x.after.take (x.after.length - r.2.after.length), r.2)

/-- The matches from a place on, after so many more characters of the last one. -/
def findFrom (m : Matcher α) : Nat → Option Char → List Char → List α
  | _, _, [] => []
  | skipped + 1, _, c :: rest => findFrom m skipped (some c) rest
  | 0, before, c :: rest =>
    match m ⟨before, c :: rest⟩ with
    | [] => findFrom m 0 (some c) rest
    | (a, last) :: _ => a :: findFrom m (rest.length - last.after.length) (some c) rest

def findAll (m : Matcher α) (text : List Char) : List α := findFrom m 0 none text

def search (m : Matcher α) (text : List Char) : Option α := (findAll m text).head?

end Matcher

/-! ### `LIKE` -/

/-- SQL's `LIKE`: a percent sign stands for any text, an underscore for any character, and a character after a backslash
for itself. -/
def like : List Char → List Char → Bool
  | [], text => text.isEmpty
  | ['\\'], _ => false
  | '\\' :: c :: pattern, text => text.head? == some c && like pattern text.tail
  | '%' :: pattern, text => text.tails.any (like pattern)
  | '_' :: pattern, text => !text.isEmpty && like pattern text.tail
  | c :: pattern, text => text.head? == some c && like pattern text.tail

/-- A text that a pattern describes, made of the pattern's own characters. -/
def sample : List Char → List Char
  | [] => []
  | ['\\'] => []
  | '\\' :: c :: pattern => c :: sample pattern
  | '%' :: pattern => sample pattern
  | c :: pattern => c :: sample pattern

theorem mem_of_mem_sample {pattern : List Char} {c : Char} (h : c ∈ sample pattern) : c ∈ pattern := by
  induction pattern using sample.induct with
  | case1 => exact h
  | case2 => cases h
  | case3 d pattern ih =>
    rw [sample] at h
    rcases List.mem_cons.1 h with rfl | h
    · simp
    · simp [ih h]
  | case4 pattern ih => exact List.mem_cons_of_mem _ (ih h)
  | case5 d pattern hend hescape hpercent ih =>
    rw [sample] at h
    rcases List.mem_cons.1 h with rfl | h
    · simp
    · simp [ih h]
    all_goals assumption

/-- A pattern that does not end with a backslash describes a text. -/
theorem like_sample {pattern : List Char} (hlast : pattern.getLast? ≠ some '\\') :
    like pattern (sample pattern) = true := by
  induction pattern using sample.induct with
  | case1 => rfl
  | case2 => exact absurd rfl hlast
  | case3 d pattern ih =>
    have hrest : pattern.getLast? ≠ some '\\' := by
      intro h
      exact hlast (by rw [List.getLast?_cons_cons, List.getLast?_cons, h]; rfl)
    simp [sample, like, ih hrest]
  | case4 pattern ih =>
    have hrest : pattern.getLast? ≠ some '\\' := by
      intro h
      exact hlast (by rw [List.getLast?_cons, h]; rfl)
    simp only [sample, like, List.any_eq_true]
    exact ⟨sample pattern, (List.mem_tails _ _).2 (List.suffix_refl _), ih hrest⟩
  | case5 d pattern hend hescape hpercent ih =>
    have hrest : pattern.getLast? ≠ some '\\' := by
      intro h
      exact hlast (by rw [List.getLast?_cons, h]; rfl)
    -- an underscore stands for any character, so for itself too
    by_cases hunderscore : d = '_'
    · subst hunderscore
      simp [sample, like, ih hrest]
    · simp [sample, like, ih hrest]

end Patterns
