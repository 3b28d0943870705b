import ControlPlane.Base.UnicodeText
import Mathlib.Data.List.Basic

/-!
# Words shared by every module

Times, the errors the code raises, and the small text and ordering helpers the modules share.  An instant is the
number of microseconds since `datetime.min`, so that a missing date sorts as the code sorts it.
-/

namespace ControlPlane

/-- An instant in UTC. -/
abbrev Time := Nat

/-- A duration of whole hours, in microseconds. -/
def hours (n : Nat) : Nat := n * 3600000000

/-- A duration of whole days, in microseconds. -/
def days (n : Nat) : Nat := hours (24 * n)

/-- The exceptions of the code, each with what its message is made of. -/
inductive PyError where
  | httpException (statusCode : Nat) (detail : String)
  | invalidTenantStatusTransition (current new : String)
  | invalidSubscriptionStatusTransition (current new : String)
  | invoicePaymentError (detail : String)
  | valueError (message : String)
  | runtimeError (message : String)
  | decimalError
  | benchCommandError (stdout stderr : String)
  | erpError (message : String)
  | queueError (message : String)
  | integrityError (constraint : String)
  | operationalError
  | objectDeletedError
  | dataError
  | attributeError (message : String)
  | typeError (message : String)
  deriving DecidableEq, Repr

/-- The text of an exception, `str(exc)`. -/
def PyError.message : PyError → String
  | .httpException _ detail => detail
  | .invalidTenantStatusTransition current new => "Invalid tenant status transition: " ++ current ++ " -> " ++ new
  | .invalidSubscriptionStatusTransition current new =>
    "Invalid subscription status transition: " ++ current ++ " -> " ++ new
  | .invoicePaymentError detail => detail
  | .valueError message => message
  | .runtimeError message => message
  | .decimalError => "[<class 'decimal.InvalidOperation'>]"
  | .benchCommandError stdout stderr => if stderr = "" then stdout else stderr
  | .erpError message => message
  | .queueError message => message
  | .integrityError constraint => "UNIQUE constraint failed: " ++ constraint
  | .operationalError => "database error"
  | .objectDeletedError => "Instance has been deleted, or its row is otherwise not present."
  | .dataError => "value too long for type character varying"
  | .attributeError message => message
  | .typeError message => message

/-- `if condition: raise error`. -/
def raiseIf (condition : Prop) [Decidable condition] (error : PyError) : Except PyError Unit :=
  if condition then .error error else .ok ()

/-- `text.strip()`. -/
def strip (text : String) : String := String.ofList (UnicodeText.strip text.toList)

/-- `text.lower()`. -/
def lower (text : String) : String := String.ofList (UnicodeText.lower text.toList)

/-- `text.strip().lower()`. -/
def normalize (text : String) : String := lower (strip text)

/-- `a or b` on optional texts: the empty text counts as missing. -/
def orText (a b : Option String) : Option String :=
  match a with
  | some text => if text = "" then b else a
  | none => b

/-- `t` if it is not empty. -/
def nonEmpty (t : String) : Option String := if t = "" then none else some t

/-- The first element with the greatest key in the order `lt`, as Python's `max` and SQL's descending order pick
it. -/
def latestBy {α κ : Type} (lt : κ → κ → Bool) (key : α → κ) : List α → Option α
  | [] => none
  | a :: rest => some (rest.foldl (fun best b => if lt (key best) (key b) then b else best) a)

/-- Lexicographic order on pairs of instants. -/
def ltTimes (a b : Time × Time) : Bool := a.1 < b.1 || (a.1 == b.1 && a.2 < b.2)

/-- Lexicographic order on triples of instants. -/
def ltTimes3 (a b : Time × Time × Time) : Bool := a.1 < b.1 || (a.1 == b.1 && ltTimes a.2 b.2)

private theorem foldl_latest_mem {α κ : Type} (lt : κ → κ → Bool) (key : α → κ) (rest : List α) (a : α) :
    rest.foldl (fun best b => if lt (key best) (key b) then b else best) a ∈ a :: rest := by
  induction rest generalizing a with
  | nil => simp
  | cons b rest ih =>
    simp only [List.foldl_cons]
    split
    · exact List.mem_cons_of_mem _ (ih b)
    · rcases List.mem_cons.1 (ih a) with h | h
      · rw [h]; exact List.mem_cons_self ..
      · exact List.mem_cons_of_mem _ (List.mem_cons_of_mem _ h)

theorem mem_of_latestBy {α κ : Type} {lt : κ → κ → Bool} {key : α → κ} {l : List α} {a : α}
    (h : latestBy lt key l = some a) : a ∈ l := by
  cases l with
  | nil => cases h
  | cons b rest =>
    cases h
    exact foldl_latest_mem lt key rest b

theorem latestBy_eq_none {α κ : Type} {lt : κ → κ → Bool} {key : α → κ} {l : List α} :
    latestBy lt key l = none ↔ l = [] := by
  cases l <;> simp [latestBy]

/-- An element added at the end is the latest only if it beats the latest before it. -/
theorem latestBy_append_singleton {α κ : Type} (lt : κ → κ → Bool) (key : α → κ) (l : List α) (a : α) :
    latestBy lt key (l ++ [a]) =
      some ((latestBy lt key l).elim a fun best => if lt (key best) (key a) then a else best) := by
  cases l with
  | nil => rfl
  | cons b rest =>
    simp only [latestBy, List.cons_append, List.foldl_append, List.foldl_cons, List.foldl_nil, Option.elim_some]

/-- Nothing is later than the latest of a list, and what stands before it is earlier. -/
theorem latestBy_latest {α κ : Type} {lt : κ → κ → Bool} {key : α → κ} {index : α → Nat}
    (hasymm : ∀ a b, lt a b = true → lt b a = false) (hconn : ∀ a b c, lt a c = true → lt a b = true ∨ lt b c = true)
    {l : List α} {a : α} (hsorted : l.Pairwise fun x y => index x < index y) (h : latestBy lt key l = some a) :
    ∀ b ∈ l, lt (key a) (key b) = false ∧ (index b < index a → lt (key b) (key a) = true) := by
  have hirrefl : ∀ a, lt a a = false := fun a => Bool.eq_false_iff.2 fun haa => by
    have hnot := hasymm a a haa
    rw [haa] at hnot
    cases hnot
  -- the fold goes from the left, so the induction is from the right
  induction l using List.reverseRecOn generalizing a with
  | nil => cases h
  | append_singleton l x ih =>
    rw [List.pairwise_append] at hsorted
    obtain ⟨hsortedl, -, hlast⟩ := hsorted
    have hbefore : ∀ b ∈ l, index b < index x := fun b hb => hlast b hb x (List.mem_singleton_self x)
    rw [latestBy_append_singleton] at h
    have h := Option.some.inj h
    cases hbest : latestBy lt key l with
    | none =>
      rw [hbest] at h
      obtain rfl : x = a := h
      obtain rfl := latestBy_eq_none.1 hbest
      intro b hb
      obtain rfl := List.mem_singleton.1 hb
      exact ⟨hirrefl _, fun hlt => absurd hlt (Nat.lt_irrefl _)⟩
    | some best =>
      rw [hbest, Option.elim_some] at h
      have hspec := ih hsortedl hbest
      intro b hb
      split at h
      · rename_i hlater
        subst h
        rcases List.mem_append.1 hb with hb | hb
        · have hearlier : lt (key b) (key x) = true := by
            refine (hconn _ (key b) _ hlater).resolve_left ?_
            rw [(hspec b hb).1]
            exact Bool.false_ne_true
          exact ⟨hasymm _ _ hearlier, fun _ => hearlier⟩
        · obtain rfl := List.mem_singleton.1 hb
          exact ⟨hirrefl _, fun hlt => absurd hlt (Nat.lt_irrefl _)⟩
      · rename_i hlater
        subst h
        rcases List.mem_append.1 hb with hb | hb
        · exact hspec b hb
        · obtain rfl := List.mem_singleton.1 hb
          exact ⟨Bool.eq_false_iff.2 hlater, fun hlt =>
            absurd hlt (Nat.lt_asymm (hbefore best (mem_of_latestBy hbest)))⟩

/-- A change that keeps the keys keeps the latest in its place. -/
theorem latestBy_map {α κ : Type} {lt : κ → κ → Bool} {key : α → κ} {f : α → α} (hkey : ∀ a, key (f a) = key a)
    (l : List α) : latestBy lt key (l.map f) = (latestBy lt key l).map f := by
  cases l with
  | nil => rfl
  | cons a rest =>
    simp only [latestBy, List.map_cons, Option.map_some, Option.some.injEq]
    induction rest generalizing a with
    | nil => rfl
    | cons b rest ih =>
      simp only [List.map_cons, List.foldl_cons]
      rw [hkey, hkey, ← ih]
      split <;> rfl

theorem raiseIf_eq_ok {condition : Prop} [Decidable condition] {error : PyError} {u : Unit} :
    raiseIf condition error = .ok u ↔ ¬condition := by
  unfold raiseIf
  split <;> simp_all

/-- A computation that succeeded passed through both of its halves. -/
theorem bind_eq_ok {ε α β : Type} {x : Except ε α} {f : α → Except ε β} {b : β} :
    (x >>= f) = .ok b ↔ ∃ a, x = .ok a ∧ f a = .ok b := by
  cases x with
  | error e => constructor <;> simp [Bind.bind, Except.bind]
  | ok a => simp [Bind.bind, Except.bind]

/-- A computation succeeds when both of its halves do. -/
theorem bind_succeeds {ε α β : Type} {x : Except ε α} {f : α → Except ε β} {a : α} (hx : x = .ok a)
    (hf : ∃ b, f a = .ok b) : ∃ b, (x >>= f) = .ok b := by
  obtain ⟨b, hb⟩ := hf
  exact ⟨b, bind_eq_ok.2 ⟨a, hx, hb⟩⟩

end ControlPlane
