import ControlPlane.Basic
import Mathlib.Logic.Function.Basic

/-!
# The token store

`InMemoryTokenStore`, generic in its keys and values; Redis answers `SETEX`, `EXISTS` and `GET` in the same way.  Every
reading takes an expired entry out first.  `lookup` is what a reading at an instant finds, and the operations are
described by it alone.
-/

namespace ControlPlane

/-- A duration of whole seconds, in microseconds. -/
def seconds (n : Nat) : Nat := n * 1000000

structure StoreItem (V : Type) where
  value : V
  expiresAt : Time

structure InMemoryTokenStore (K V : Type) where
  items : K → Option (StoreItem V)

namespace InMemoryTokenStore

variable {K V : Type} [DecidableEq K] (store : InMemoryTokenStore K V) (now : Time) (name : K)

omit [DecidableEq K] in
def empty : InMemoryTokenStore K V := ⟨fun _ => none⟩

/-- `_purge_expired` of one key. -/
def purgeExpired : InMemoryTokenStore K V :=
  match store.items name with
  | some item => if item.expiresAt ≤ now then ⟨Function.update store.items name none⟩ else store
  | none => store

def setex (ttlSeconds : Nat) (value : V) : InMemoryTokenStore K V :=
  ⟨Function.update store.items name (some ⟨value, now + seconds (max ttlSeconds 1)⟩)⟩

/-- `exists`. -/
def existsKey : Bool × InMemoryTokenStore K V :=
  let store := store.purgeExpired now name
  ((store.items name).isSome, store)

def get : Option V × InMemoryTokenStore K V :=
  let store := store.purgeExpired now name
  ((store.items name).map StoreItem.value, store)

omit [DecidableEq K] in
/-- What a reading of the key finds at an instant. -/
def lookup : Option V := (store.items name).bind fun item => if now < item.expiresAt then some item.value else none

/-! ### The operations, told by `lookup` -/

theorem lookup_purgeExpired {now t : Time} (ht : now ≤ t) (k : K) :
    (store.purgeExpired now name).lookup t k = store.lookup t k := by
  unfold purgeExpired
  cases hitem : store.items name with
  | none => rfl
  | some item =>
    dsimp only
    by_cases hexpired : item.expiresAt ≤ now
    · rw [if_pos hexpired]
      by_cases hk : k = name
      · -- the entry taken out was not to be read any more
        subst hk
        have hlate : ¬ t < item.expiresAt := Nat.not_lt.2 (Nat.le_trans hexpired ht)
        simp [lookup, hitem, hlate]
      · simp [lookup, Function.update_of_ne hk]
    · rw [if_neg hexpired]

theorem items_purgeExpired_self : (store.purgeExpired now name).items name =
    (store.items name).filter fun item => now < item.expiresAt := by
  unfold purgeExpired
  cases hitem : store.items name with
  | none => simp [hitem]
  | some item =>
    dsimp only
    by_cases hexpired : item.expiresAt ≤ now
    · have hlate : ¬ now < item.expiresAt := Nat.not_lt.2 hexpired
      simp [hexpired, Option.filter]
    · have hearly : now < item.expiresAt := Nat.lt_of_not_le hexpired
      simp [hexpired, hitem, hearly, Option.filter]

theorem items_purgeExpired_of_ne {k : K} (hk : k ≠ name) : (store.purgeExpired now name).items k = store.items k := by
  unfold purgeExpired
  cases store.items name with
  | none => rfl
  | some item =>
    dsimp only
    by_cases hexpired : item.expiresAt ≤ now
    · rw [if_pos hexpired]
      exact Function.update_of_ne hk none store.items
    · rw [if_neg hexpired]

/-- An entry that has not run out stays and is found. -/
theorem purgeExpired_of_current (h : ((store.items name).any fun item => item.expiresAt ≤ now) = false) :
    store.purgeExpired now name = store := by
  unfold purgeExpired
  cases hitem : store.items name with
  | none => rfl
  | some item =>
    rw [hitem] at h
    exact if_neg (by simpa using h)

omit [DecidableEq K] in
theorem lookup_isSome_of_current (hsome : (store.items name).isSome)
    (h : ((store.items name).any fun item => item.expiresAt ≤ now) = false) : (store.lookup now name).isSome := by
  obtain ⟨item, hitem⟩ := Option.isSome_iff_exists.1 hsome
  rw [hitem] at h
  have hlt : now < item.expiresAt := Nat.lt_of_not_le (by simpa using h)
  simp [lookup, hitem, hlt]

theorem existsKey_eq : store.existsKey now name = ((store.lookup now name).isSome, store.purgeExpired now name) := by
  unfold existsKey lookup
  dsimp only
  rw [items_purgeExpired_self]
  cases store.items name with
  | none => rfl
  | some item => by_cases h : now < item.expiresAt <;> simp [Option.filter, h]

theorem get_eq : store.get now name = (store.lookup now name, store.purgeExpired now name) := by
  unfold get lookup
  dsimp only
  rw [items_purgeExpired_self]
  cases store.items name with
  | none => rfl
  | some item => by_cases h : now < item.expiresAt <;> simp [Option.filter, h]

theorem lookup_setex_self (t : Time) (ttlSeconds : Nat) (value : V) :
    (store.setex now name ttlSeconds value).lookup t name =
      if t < now + seconds (max ttlSeconds 1) then some value else none := by
  have hitem : (store.setex now name ttlSeconds value).items name =
      some ⟨value, now + seconds (max ttlSeconds 1)⟩ := Function.update_self name _ store.items
  unfold lookup
  rw [hitem, Option.bind_some]

theorem lookup_setex_of_ne {k : K} (hk : k ≠ name) (t : Time) (ttlSeconds : Nat) (value : V) :
    (store.setex now name ttlSeconds value).lookup t k = store.lookup t k := by
  simp [setex, lookup, Function.update_of_ne hk]

end InMemoryTokenStore

end ControlPlane
