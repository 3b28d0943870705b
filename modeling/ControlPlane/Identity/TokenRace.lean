import ControlPlane.Base.Runs
import ControlPlane.Identity.TokenStore

/-!
# Calls of the token store at the same time

Any number of calls of `InMemoryTokenStore` take their steps in any order, and time passes in between.  A call reads the
clock before it takes the lock: a reading purges its key in one locked section and looks the key up after it, and `setex`
stores a value whose expiry it had worked out before.  So a value that is stored late can be found by a reading that began
after it was over: the reading has purged already.  Apart from that a value is taken at most once and read only before it
is over; and what calls on one key find never depends on the other keys.
-/

namespace ControlPlane

open Runs

/-- The readings of a key. -/
inductive TokenReading where
  | get | existsKey | getdel
  deriving DecidableEq, Repr

/-- The operations of the store. -/
inductive TokenOp (K V : Type) where
  | setex (name : K) (ttlSeconds : Int) (value : V)
  | reads (reading : TokenReading) (name : K)
  | delete (names : List K)
  deriving DecidableEq, Repr

/-- `_consume_single_use_token`; the store has a `getdel`. -/
def consumeSingleUseToken {K V : Type} (tokenKey : K) : TokenOp K V := .reads .getdel tokenKey

/-- The keys that an operation names. -/
def TokenOp.keys {K V : Type} : TokenOp K V → List K
  | .setex name _ _ => [name]
  | .reads _ name => [name]
  | .delete names => names

/-- A value with the call that stored it. -/
structure StoredToken (V : Type) where
  value : V
  storedBy : Nat
  deriving DecidableEq, Repr

/-- Where a call is: it has read the clock, has purged its key, holds the lock to delete the rest of its names; or it is
done, and has stored, found an item or nothing, or deleted the names that were there. -/
inductive TokenPhase (K V : Type) where
  | started
  | timed (clock : Time)
  | purged
  | deleting (rest removed : List K)
  | stored
  | found (item : Option (StoreItem (StoredToken V)))
  | deleted (removed : List K)

structure TokenCall (K V : Type) where
  op : TokenOp K V
  begun : Time
  phase : TokenPhase K V

/-- The next step of the call is made with the lock. -/
def TokenCall.needsLock {K V : Type} (call : TokenCall K V) : Bool :=
  match call.op, call.phase with
  | .setex .., .timed _ => true
  | .reads .., .timed _ => true
  | .reads .getdel _, .purged => true
  | .delete _, .started => true
  | _, _ => false

/-- The store, the call that holds the lock over several steps, and the calls so far. -/
structure TokenSystem (K V : Type) where
  now : Time
  store : InMemoryTokenStore K (StoredToken V)
  lock : Option Nat
  calls : Nat → Option (TokenCall K V)

inductive TokenMove (K V : Type) where
  | passes (time : Nat)
  | begins (id : Nat) (op : TokenOp K V)
  | advances (id : Nat)

section
variable {K V : Type} [DecidableEq K]

/-- `self._items.pop(name, None)`. -/
def InMemoryTokenStore.pop (store : InMemoryTokenStore K V) (name : K) : InMemoryTokenStore K V :=
  ⟨Function.update store.items name none⟩

namespace TokenSystem

/-- A new store. -/
def start (now : Time) : TokenSystem K V := ⟨now, .empty, none, fun _ => none⟩

/-- The next step of a call that gets the lock if it needs it: where the call is then, the store and the lock.  A section
with one effect is one step; a deletion keeps the lock from one name to the next. -/
def act (s : TokenSystem K V) (id : Nat) (call : TokenCall K V) :
    TokenPhase K V × InMemoryTokenStore K (StoredToken V) × Option Nat :=
  match call.op, call.phase with
  | .setex .., .started => (.timed s.now, s.store, s.lock)
  | .setex name ttlSeconds value, .timed clock =>
    (.stored, s.store.setex clock name ttlSeconds.toNat ⟨value, id⟩, s.lock)
  | .reads .., .started => (.timed s.now, s.store, s.lock)
  | .reads _ name, .timed clock => (.purged, s.store.purgeExpired clock name, s.lock)
  | .reads reading name, .purged =>
    (.found (s.store.items name), if reading = .getdel then s.store.pop name else s.store, s.lock)
  | .delete names, .started => (.deleting names [], s.store, some id)
  | .delete _, .deleting (name :: rest) removed =>
    if (s.store.items name).isSome then (.deleting rest (removed ++ [name]), s.store.pop name, s.lock)
    else (.deleting rest removed, s.store, s.lock)
  | .delete _, .deleting [] removed => (.deleted removed, s.store, none)
  | _, phase => (phase, s.store, s.lock)

/-- The state after a step of a call. -/
def become (s : TokenSystem K V) (id : Nat) (call : TokenCall K V) (phase : TokenPhase K V)
    (store : InMemoryTokenStore K (StoredToken V)) (lock : Option Nat) : TokenSystem K V :=
  { s with store := store, lock := lock, calls := Function.update s.calls id (some { call with phase := phase }) }

def step (s : TokenSystem K V) : TokenMove K V → TokenSystem K V
  | .passes time => { s with now := s.now + time }
  | .begins id op =>
    if (s.calls id).isSome then s
    else { s with calls := Function.update s.calls id (some ⟨op, s.now, .started⟩) }
  | .advances id =>
    match s.calls id with
    | none => s
    | some call =>
      if call.needsLock ∧ s.lock ≠ none then s
      else
        let (phase, store, lock) := s.act id call
        s.become id call phase store lock

/-! ### What is asked of the store -/

/-- A `getdel` has returned the item. -/
def took (s : TokenSystem K V) (id : Nat) (item : StoreItem (StoredToken V)) : Prop :=
  ∃ call name, s.calls id = some call ∧ call.op = .reads .getdel name ∧ call.phase = .found (some item)

/-- A stored value is taken at most once, and none is found by a call that began when it was over. -/
structure Safe (s : TokenSystem K V) : Prop where
  once : ∀ i j item item', s.took i item → s.took j item' → item.value.storedBy = item'.value.storedBy → i = j
  unexpired : ∀ i call item, s.calls i = some call → call.phase = .found (some item) → call.begun < item.expiresAt

/-- A value is stored under a key while a reading of the key that began when the value was over has purged it and not
looked it up yet. -/
def storesLate (s : TokenSystem K V) : TokenMove K V → Prop
  | .advances id =>
    ∃ call name ttlSeconds value clock, s.calls id = some call ∧ call.op = .setex name ttlSeconds value ∧
      call.phase = .timed clock ∧ s.lock = none ∧
      ∃ j reader reading, s.calls j = some reader ∧ reader.op = .reads reading name ∧ reader.phase = .purged ∧
        clock + seconds (max ttlSeconds.toNat 1) ≤ reader.begun
  | _ => False

end TokenSystem

/-- What a call tells about a key. -/
inductive TokenAnswer (V : Type) where
  | stored
  | value (value : Option V)
  | present (count : Nat)
  | removed (count : Nat)
  deriving DecidableEq, Repr

def TokenCall.answer (call : TokenCall K V) (k : K) : Option (TokenAnswer V) :=
  match call.op, call.phase with
  | .setex .., .stored => some .stored
  | .reads .existsKey _, .found item => some (.present (if item.isSome then 1 else 0))
  | .reads _ _, .found item => some (.value (item.map fun item => item.value.value))
  | .delete _, .deleted removed => some (.removed (removed.count k))
  | _, _ => none

namespace TokenSystem

/-- What a call of an operation that names the key has told about it. -/
def answer (s : TokenSystem K V) (k : K) (id : Nat) : Option (TokenAnswer V) :=
  (s.calls id).bind fun call => if k ∈ call.op.keys then call.answer k else none

/-- The move belongs to an operation that names the key, and is not one of a call that waits for the lock. -/
def concerns (s : TokenSystem K V) (k : K) : TokenMove K V → Bool
  | .passes _ => true
  | .begins id op => (s.calls id).isNone && decide (k ∈ op.keys)
  | .advances id => (s.calls id).any fun call => decide (k ∈ call.op.keys) && (!call.needsLock || s.lock.isNone)

/-- The moves of a run that concern a key. -/
def movesOn (k : K) (s : TokenSystem K V) (moves : List (TokenMove K V)) : List (TokenMove K V) :=
  kept step (fun s => s.concerns k) s moves

end TokenSystem

/-! ### What a move can do -/

namespace InMemoryTokenStore

variable (store : InMemoryTokenStore K V) (now : Time) (name : K)

theorem items_pop_self : (store.pop name).items name = none := by
  unfold pop
  exact Function.update_self name none store.items

theorem items_pop_of_ne {k : K} (hk : k ≠ name) : (store.pop name).items k = store.items k := by
  unfold pop
  exact Function.update_of_ne hk none store.items

variable {store now name} {k : K} {item : StoreItem V}

theorem items_of_pop (h : (store.pop name).items k = some item) : store.items k = some item := by
  by_cases hk : k = name
  · subst hk
    simp [items_pop_self] at h
  · rwa [items_pop_of_ne store name hk] at h

/-- A purge leaves only items that were there, and of its key only those that are not over. -/
theorem items_of_purgeExpired (h : (store.purgeExpired now name).items k = some item) : store.items k = some item := by
  by_cases hk : k = name
  · subst hk
    rw [items_purgeExpired_self, Option.filter_eq_some_iff] at h
    exact h.1
  · rwa [items_purgeExpired_of_ne store now name hk] at h

theorem lt_of_items_purgeExpired (h : (store.purgeExpired now name).items name = some item) : now < item.expiresAt := by
  rw [items_purgeExpired_self, Option.filter_eq_some_iff] at h
  simpa using h.2

end InMemoryTokenStore

namespace TokenSystem

variable {s s' : TokenSystem K V} {id : Nat} {call : TokenCall K V} {phase : TokenPhase K V}
  {store : InMemoryTokenStore K (StoredToken V)} {lock : Option Nat} {move : TokenMove K V}

/-- What a step of a call does. -/
inductive Acts (s : TokenSystem K V) (id : Nat) (call : TokenCall K V) :
    TokenPhase K V → InMemoryTokenStore K (StoredToken V) → Option Nat → Prop
  | times (hphase : call.phase = .started) : Acts s id call (.timed s.now) s.store s.lock
  | stores (name : K) (ttlSeconds : Int) (value : V) (clock : Time) (hop : call.op = .setex name ttlSeconds value)
      (hphase : call.phase = .timed clock) :
      Acts s id call .stored (s.store.setex clock name ttlSeconds.toNat ⟨value, id⟩) s.lock
  | purges (reading : TokenReading) (name : K) (clock : Time) (hop : call.op = .reads reading name)
      (hphase : call.phase = .timed clock) : Acts s id call .purged (s.store.purgeExpired clock name) s.lock
  | finds (reading : TokenReading) (name : K) (hop : call.op = .reads reading name) (hphase : call.phase = .purged)
      (hreading : reading ≠ .getdel) : Acts s id call (.found (s.store.items name)) s.store s.lock
  | takes (name : K) (hop : call.op = .reads .getdel name) (hphase : call.phase = .purged) :
      Acts s id call (.found (s.store.items name)) (s.store.pop name) s.lock
  | locks (names : List K) (hop : call.op = .delete names) (hphase : call.phase = .started) :
      Acts s id call (.deleting names []) s.store (some id)
  | removes (name : K) (rest removed : List K) (hphase : call.phase = .deleting (name :: rest) removed) :
      Acts s id call (.deleting rest (removed ++ [name])) (s.store.pop name) s.lock
  | skips (name : K) (rest removed : List K) (hphase : call.phase = .deleting (name :: rest) removed) :
      Acts s id call (.deleting rest removed) s.store s.lock
  | unlocks (removed : List K) (hphase : call.phase = .deleting [] removed) :
      Acts s id call (.deleted removed) s.store none
  | rests : Acts s id call call.phase s.store s.lock

theorem acts (s : TokenSystem K V) (id : Nat) (call : TokenCall K V) :
    Acts s id call (s.act id call).1 (s.act id call).2.1 (s.act id call).2.2 := by
  unfold act
  split
  · rename_i hphase
    exact .times hphase
  · rename_i hop hphase
    exact .stores _ _ _ _ hop hphase
  · rename_i hphase
    exact .times hphase
  · rename_i hop hphase
    exact .purges _ _ _ hop hphase
  · rename_i reading name hop hphase
    by_cases hreading : reading = .getdel
    · subst hreading
      exact .takes name hop hphase
    · rw [if_neg hreading]
      exact .finds reading name hop hphase hreading
  · rename_i hop hphase
    exact .locks _ hop hphase
  · rename_i hphase
    split
    · exact .removes _ _ _ hphase
    · exact .skips _ _ _ hphase
  · rename_i hphase
    exact .unlocks _ hphase
  · exact .rests

/-- What a move can do: time passes, a call begins or takes a step, or nothing happens. -/
inductive Moves (s : TokenSystem K V) : TokenMove K V → TokenSystem K V → Prop
  | passes (time : Nat) : Moves s (.passes time) { s with now := s.now + time }
  | begins (id : Nat) (op : TokenOp K V) (hnone : s.calls id = none) :
      Moves s (.begins id op) { s with calls := Function.update s.calls id (some ⟨op, s.now, .started⟩) }
  | advances (id : Nat) (call : TokenCall K V) (phase : TokenPhase K V)
      (store : InMemoryTokenStore K (StoredToken V)) (lock : Option Nat) (hcall : s.calls id = some call)
      (hlock : call.needsLock = true → s.lock = none) (hacts : Acts s id call phase store lock) :
      Moves s (.advances id) (s.become id call phase store lock)
  | stays (move : TokenMove K V) : Moves s move s

theorem moves (s : TokenSystem K V) (move : TokenMove K V) : Moves s move (s.step move) := by
  cases move with
  | passes time => exact .passes time
  | begins id op =>
    cases hcalls : s.calls id with
    | none =>
      simp only [step, hcalls, Option.isSome_none, Bool.false_eq_true, ↓reduceIte]
      exact .begins id op hcalls
    | some call =>
      simp only [step, hcalls, Option.isSome_some, ↓reduceIte]
      exact .stays _
  | advances id =>
    cases hcalls : s.calls id with
    | none =>
      simp only [step, hcalls]
      exact .stays _
    | some call =>
      simp only [step, hcalls]
      split
      · exact .stays _
      · rename_i hwaits
        have hlock : call.needsLock = true → s.lock = none := fun hneeds =>
          Classical.byContradiction fun hheld => hwaits ⟨hneeds, hheld⟩
        exact .advances id call _ _ _ hcalls hlock (s.acts id call)

omit [DecidableEq K] in
theorem calls_become_self : (s.become id call phase store lock).calls id = some { call with phase := phase } :=
  Function.update_self id _ s.calls

omit [DecidableEq K] in
theorem calls_become_of_ne {j : Nat} (hj : j ≠ id) : (s.become id call phase store lock).calls j = s.calls j :=
  Function.update_of_ne hj _ s.calls

private theorem of_update_eq_some {A B : Type} [DecidableEq A] {f : A → Option B} {a a' : A} {b b' : B}
    (h : Function.update f a (some b) a' = some b') : (a' = a ∧ b' = b) ∨ (a' ≠ a ∧ f a' = some b') := by
  by_cases ha : a' = a
  · subst ha
    rw [Function.update_self] at h
    exact .inl ⟨rfl, (Option.some.inj h).symm⟩
  · rw [Function.update_of_ne ha] at h
    exact .inr ⟨ha, h⟩

omit [DecidableEq K] in
theorem of_calls_become {j : Nat} {other : TokenCall K V} (h : (s.become id call phase store lock).calls j = some other) :
    (j = id ∧ other = { call with phase := phase }) ∨ (j ≠ id ∧ s.calls j = some other) :=
  of_update_eq_some h

/-- What is stored after a `setex` is the new item or was stored before. -/
theorem of_items_setex {token : StoredToken V} {clock : Time} {name k : K} {ttlSeconds : Nat}
    {item : StoreItem (StoredToken V)} (h : (s.store.setex clock name ttlSeconds token).items k = some item) :
    (k = name ∧ item = ⟨token, clock + seconds (max ttlSeconds 1)⟩) ∨ s.store.items k = some item := by
  obtain hnew | ⟨-, hbefore⟩ := of_update_eq_some h
  · exact .inl hnew
  · exact .inr hbefore

/-! ### A value is taken once -/

/-- The item was stored under the key by the call that it names. -/
def StoredAt (s : TokenSystem K V) (k : K) (item : StoreItem (StoredToken V)) : Prop :=
  ∃ call ttlSeconds value, s.calls item.value.storedBy = some call ∧ call.op = .setex k ttlSeconds value ∧
    call.phase = .stored

/-- A `getdel` of the key has returned the item. -/
def TookAt (s : TokenSystem K V) (k : K) (id : Nat) (item : StoreItem (StoredToken V)) : Prop :=
  ∃ call, s.calls id = some call ∧ call.op = .reads .getdel k ∧ call.phase = .found (some item)

/-- What is stored or taken was stored under its key by a call, and what is taken is not stored any more. -/
structure Traced (s : TokenSystem K V) : Prop where
  origin : ∀ k item, s.store.items k = some item → s.StoredAt k item
  taken : ∀ k id item, s.TookAt k id item → s.StoredAt k item
  gone : ∀ k id item item', s.TookAt k id item → s.store.items k = some item' →
    item'.value.storedBy ≠ item.value.storedBy
  once : ∀ k k' i j item item', s.TookAt k i item → s.TookAt k' j item' →
    item.value.storedBy = item'.value.storedBy → i = j

omit [DecidableEq K] in
theorem StoredAt.unique {k k' : K} {item item' : StoreItem (StoredToken V)} (h : s.StoredAt k item)
    (h' : s.StoredAt k' item') (heq : item.value.storedBy = item'.value.storedBy) : k = k' := by
  obtain ⟨call, _, _, hcall, hop, -⟩ := h
  obtain ⟨call', _, _, hcall', hop', -⟩ := h'
  rw [heq, hcall'] at hcall
  rw [← Option.some.inj hcall, hop'] at hop
  injection hop with hname
  exact hname.symm

/-- A call that has stored its value makes no further step. -/
theorem Acts.of_stored (h : Acts s id call phase store lock) (hstored : call.phase = .stored) : phase = .stored := by
  cases h with
  | rests => exact hstored
  | _ => simp_all

theorem StoredAt.moves {k : K} {item : StoreItem (StoredToken V)} (h : s.StoredAt k item) (hmoves : Moves s move s') :
    s'.StoredAt k item := by
  obtain ⟨setter, ttlSeconds, value, hsetter, hop, hphase⟩ := h
  cases hmoves with
  | passes time => exact ⟨setter, ttlSeconds, value, hsetter, hop, hphase⟩
  | stays => exact ⟨setter, ttlSeconds, value, hsetter, hop, hphase⟩
  | begins id op hnone =>
    have hne : item.value.storedBy ≠ id := by
      rintro rfl
      simp [hnone] at hsetter
    exact ⟨setter, ttlSeconds, value, (Function.update_of_ne hne _ s.calls).trans hsetter, hop, hphase⟩
  | advances id call phase store lock hcall hlock hacts =>
    by_cases hid : item.value.storedBy = id
    · rw [hid, hcall] at hsetter
      obtain rfl := Option.some.inj hsetter
      have hstays := hacts.of_stored hphase
      refine ⟨{ call with phase := phase }, ttlSeconds, value, ?_, hop, hstays⟩
      rw [hid, calls_become_self]
    · exact ⟨setter, ttlSeconds, value, (calls_become_of_ne hid).trans hsetter, hop, hphase⟩

/-- A move that stores nothing and takes nothing. -/
theorem Traced.of_moves (hs : s.Traced) (hmoves : Moves s move s')
    (hitems : ∀ k item, s'.store.items k = some item → s.store.items k = some item)
    (htook : ∀ k id item, s'.TookAt k id item → s.TookAt k id item) : s'.Traced where
  origin k item hitem := (hs.origin k item (hitems k item hitem)).moves hmoves
  taken k id item h := (hs.taken k id item (htook k id item h)).moves hmoves
  gone k id item item' h hitem := hs.gone k id item item' (htook k id item h) (hitems k item' hitem)
  once k k' i j item item' hi hj := hs.once k k' i j item item' (htook k i item hi) (htook k' j item' hj)

omit [DecidableEq K] in
/-- Who has taken an item after a step: it is the one who makes it, or it had been taken before. -/
theorem TookAt.of_become {k : K} {j : Nat} {item : StoreItem (StoredToken V)}
    (h : (s.become id call phase store lock).TookAt k j item) :
    (j = id ∧ call.op = .reads .getdel k ∧ phase = .found (some item)) ∨ (j ≠ id ∧ s.TookAt k j item) := by
  obtain ⟨taker, htaker, hop, hphase⟩ := h
  obtain ⟨rfl, rfl⟩ | ⟨hj, hbefore⟩ := of_calls_become htaker
  · exact .inl ⟨rfl, hop, hphase⟩
  · exact .inr ⟨hj, taker, hbefore, hop, hphase⟩

omit [DecidableEq K] in
/-- A step that finds nothing anew. -/
theorem TookAt.before {k : K} {j : Nat} {item : StoreItem (StoredToken V)} (hcall : s.calls id = some call)
    (hphase : call.op = .reads .getdel k → phase = .found (some item) → call.phase = .found (some item))
    (h : (s.become id call phase store lock).TookAt k j item) : s.TookAt k j item := by
  obtain ⟨rfl, hop, hfound⟩ | ⟨-, hbefore⟩ := h.of_become
  · exact ⟨call, hcall, hop, hphase hop hfound⟩
  · exact hbefore

/-- A value is stored: the call that stores it had stored nothing. -/
theorem Traced.stores {name : K} {ttlSeconds : Int} {value : V} {clock : Time} (hs : s.Traced)
    (hcall : s.calls id = some call) (hop : call.op = .setex name ttlSeconds value) (hphase : call.phase = .timed clock)
    (hmoves : Moves s move
      (s.become id call .stored (s.store.setex clock name ttlSeconds.toNat ⟨value, id⟩) lock)) :
    (s.become id call .stored (s.store.setex clock name ttlSeconds.toNat ⟨value, id⟩) lock).Traced := by
  have htook : ∀ {k j item}, (s.become id call .stored (s.store.setex clock name ttlSeconds.toNat ⟨value, id⟩)
      lock).TookAt k j item → s.TookAt k j item := fun h => h.before hcall fun _ hfound => by cases hfound
  constructor
  · intro k item hitem
    obtain ⟨rfl, rfl⟩ | hbefore := of_items_setex hitem
    · exact ⟨{ call with phase := .stored }, ttlSeconds, value, calls_become_self, hop, rfl⟩
    · exact (hs.origin k item hbefore).moves hmoves
  · intro k j item h
    exact (hs.taken k j item (htook h)).moves hmoves
  · intro k j item item' h hitem'
    obtain ⟨rfl, rfl⟩ | hbefore := of_items_setex hitem'
    · intro heq
      obtain ⟨setter, _, _, hsetter, -, hstored⟩ := hs.taken k j item (htook h)
      rw [← heq, hcall] at hsetter
      rw [← Option.some.inj hsetter, hphase] at hstored
      cases hstored
    · exact hs.gone k j item item' (htook h) hbefore
  · intro k k' i j item item' hi hj
    exact hs.once k k' i j item item' (htook hi) (htook hj)

omit [DecidableEq K] in
/-- Nobody has taken what is stored. -/
theorem Traced.not_taken (hs : s.Traced) {k name : K} {j : Nat} {item item' : StoreItem (StoredToken V)}
    (hitem : s.store.items name = some item) (htook : s.TookAt k j item') :
    item.value.storedBy ≠ item'.value.storedBy := by
  intro heq
  obtain rfl := (hs.origin name item hitem).unique (hs.taken k j item' htook) heq
  exact hs.gone name j item' item htook hitem heq

omit [DecidableEq K] in
/-- What is taken after a `getdel` was stored before it or had been taken. -/
theorem TookAt.of_takes {k name : K} {j : Nat} {item : StoreItem (StoredToken V)} (hop : call.op = .reads .getdel name)
    (h : (s.become id call (.found (s.store.items name)) store lock).TookAt k j item) :
    (j = id ∧ k = name ∧ s.store.items k = some item) ∨ s.TookAt k j item := by
  obtain ⟨hj, hkey, hfound⟩ | ⟨-, hbefore⟩ := h.of_become
  · rw [hop] at hkey
    injection hkey with _ hname
    subst hname
    injection hfound with hitem
    exact .inl ⟨hj, rfl, hitem⟩
  · exact .inr hbefore

/-- A value is taken: it was stored, so that nobody had taken it. -/
theorem Traced.takes {name : K} (hs : s.Traced) (hop : call.op = .reads .getdel name)
    (hmoves : Moves s move (s.become id call (.found (s.store.items name)) (s.store.pop name) lock)) :
    (s.become id call (.found (s.store.items name)) (s.store.pop name) lock).Traced := by
  constructor
  · intro k item hitem
    exact (hs.origin k item (InMemoryTokenStore.items_of_pop hitem)).moves hmoves
  · intro k j item h
    obtain ⟨-, -, hitem⟩ | hbefore := h.of_takes hop
    · exact (hs.origin k item hitem).moves hmoves
    · exact (hs.taken k j item hbefore).moves hmoves
  · intro k j item item' h hitem'
    obtain ⟨-, rfl, hitem⟩ | hbefore := h.of_takes hop
    · have hnone : (s.store.pop k).items k = none := s.store.items_pop_self k
      exact absurd (hnone.symm.trans hitem') (by simp)
    · exact hs.gone k j item item' hbefore (InMemoryTokenStore.items_of_pop hitem')
  · intro k k' i j item item' hi hj heq
    obtain ⟨hown, rfl, hitem⟩ | hbefore := hi.of_takes hop <;>
      obtain ⟨hown', rfl, hitem'⟩ | hbefore' := hj.of_takes hop
    · exact hown.trans hown'.symm
    · exact absurd heq (hs.not_taken hitem hbefore')
    · exact absurd heq.symm (hs.not_taken hitem' hbefore)
    · exact hs.once k k' i j item item' hbefore hbefore' heq

theorem Traced.moves (hs : s.Traced) (hmoves : Moves s move s') : s'.Traced := by
  cases hmoves with
  | passes time => exact ⟨hs.origin, hs.taken, hs.gone, hs.once⟩
  | stays => exact hs
  | begins id op hnone =>
    refine hs.of_moves (.begins id op hnone) (fun _ _ h => h) ?_
    rintro k j item ⟨taker, htaker, hop, hphase⟩
    obtain ⟨-, rfl⟩ | ⟨-, hbefore⟩ := of_update_eq_some htaker
    · cases hphase
    · exact ⟨taker, hbefore, hop, hphase⟩
  | advances id call phase store lock hcall hlock hacts =>
    have hmoves := Moves.advances id call phase store lock hcall hlock hacts
    cases hacts with
    | stores name ttlSeconds value clock hop hphase => exact hs.stores hcall hop hphase hmoves
    | takes name hop hphase => exact hs.takes hop hmoves
    | purges reading name clock hop hphase =>
      exact hs.of_moves hmoves (fun _ _ => InMemoryTokenStore.items_of_purgeExpired) fun _ _ _ h =>
        h.before hcall fun _ hfound => by cases hfound
    | removes name rest removed hphase =>
      exact hs.of_moves hmoves (fun _ _ => InMemoryTokenStore.items_of_pop) fun _ _ _ h =>
        h.before hcall fun _ hfound => by cases hfound
    | finds reading name hop hphase hreading =>
      refine hs.of_moves hmoves (fun _ _ h => h) fun _ _ _ h => h.before hcall fun hgetdel _ => ?_
      rw [hop] at hgetdel
      injection hgetdel with hread
      exact absurd hread hreading
    | rests => exact hs.of_moves hmoves (fun _ _ h => h) fun _ _ _ h => h.before hcall fun _ hfound => hfound
    | _ =>
      exact hs.of_moves hmoves (fun _ _ h => h) fun _ _ _ h => h.before hcall fun _ hfound => by cases hfound

/-! ### A reading that is not overtaken finds what is not over -/

/-- What a call has read of the clock, has left of its key or has found is not over for it. -/
def InTime (store : InMemoryTokenStore K (StoredToken V)) (call : TokenCall K V) : Prop :=
  match call.phase with
  | .timed clock => call.begun ≤ clock
  | .purged => ∀ reading name item, call.op = .reads reading name → store.items name = some item →
      call.begun < item.expiresAt
  | .found (some item) => call.begun < item.expiresAt
  | _ => True

structure Timely (s : TokenSystem K V) : Prop where
  begun : ∀ i call, s.calls i = some call → call.begun ≤ s.now
  inTime : ∀ i call, s.calls i = some call → InTime s.store call

omit [DecidableEq K] in
/-- Another store: it matters to a reading that waits for its lookup. -/
theorem InTime.of_items {store' : InMemoryTokenStore K (StoredToken V)} (h : InTime store call)
    (hitems : ∀ reading name item, call.op = .reads reading name → call.phase = .purged →
      store'.items name = some item → store.items name = some item ∨ call.begun < item.expiresAt) :
    InTime store' call := by
  unfold InTime at *
  cases hphase : call.phase with
  | purged =>
    rw [hphase] at h
    intro reading name item hop hitem
    obtain hkept | hnew := hitems reading name item hop hphase hitem
    · exact h reading name item hop hkept
    · exact hnew
  | found item =>
    rw [hphase] at h
    cases item with
    | none => trivial
    | some item => exact h
  | _ => rwa [hphase] at h

omit [DecidableEq K] in
theorem InTime.of_narrowed {store' : InMemoryTokenStore K (StoredToken V)} (h : InTime store call)
    (hitems : ∀ k item, store'.items k = some item → store.items k = some item) : InTime store' call :=
  h.of_items fun _ name item _ _ hitem => .inl (hitems name item hitem)

omit [DecidableEq K] in
theorem Timely.become (hs : s.Timely) (hcall : s.calls id = some call) (hself : InTime store { call with phase := phase })
    (hothers : ∀ j other, s.calls j = some other → InTime store other) : (s.become id call phase store lock).Timely := by
  constructor
  · intro i other hother
    obtain ⟨-, rfl⟩ | ⟨-, hbefore⟩ := of_calls_become hother
    · exact hs.begun id call hcall
    · exact hs.begun i other hbefore
  · intro i other hother
    obtain ⟨-, rfl⟩ | ⟨-, hbefore⟩ := of_calls_become hother
    · exact hself
    · exact hothers i other hbefore

omit [DecidableEq K] in
/-- What a reading has left of its key, it finds in time. -/
theorem Timely.found (hs : s.Timely) (hcall : s.calls id = some call) {reading : TokenReading} {name : K}
    (hop : call.op = .reads reading name) (hphase : call.phase = .purged) :
    InTime store { call with phase := .found (s.store.items name) } := by
  have hleft := hs.inTime id call hcall
  simp only [InTime, hphase] at hleft
  cases hitem : s.store.items name with
  | none => trivial
  | some item => exact hleft reading name item hop hitem

/-- A value is stored in time for the readings that wait for their lookup. -/
theorem Timely.stores (hs : s.Timely) {name : K} {ttlSeconds : Int} {value : V} {clock : Time}
    (hcall : s.calls id = some call) (hop : call.op = .setex name ttlSeconds value) (hphase : call.phase = .timed clock)
    (hlock : s.lock = none) (hlate : ¬s.storesLate (.advances id)) {j : Nat} {other : TokenCall K V}
    (hother : s.calls j = some other) :
    InTime (s.store.setex clock name ttlSeconds.toNat ⟨value, id⟩) other := by
  refine (hs.inTime j other hother).of_items fun reading key item hreads hwaits hitem => ?_
  obtain ⟨rfl, rfl⟩ | hkept := of_items_setex hitem
  · refine .inr (Nat.lt_of_not_le fun hover => hlate ?_)
    exact ⟨call, key, ttlSeconds, value, clock, hcall, hop, hphase, hlock, j, other, reading, hother, hreads, hwaits,
      hover⟩
  · exact .inl hkept

theorem Timely.moves (hs : s.Timely) (hlate : ¬s.storesLate move) (hmoves : Moves s move s') : s'.Timely := by
  cases hmoves with
  | passes time =>
    refine ⟨fun i call hcall => ?_, hs.inTime⟩
    exact Nat.le_trans (hs.begun i call hcall) (Nat.le_add_right s.now time)
  | stays => exact hs
  | begins id op hnone =>
    constructor
    · intro i other hother
      obtain ⟨-, rfl⟩ | ⟨-, hbefore⟩ := of_update_eq_some hother
      · exact Nat.le_refl s.now
      · exact hs.begun i other hbefore
    · intro i other hother
      obtain ⟨-, rfl⟩ | ⟨-, hbefore⟩ := of_update_eq_some hother
      · trivial
      · exact hs.inTime i other hbefore
  | advances id call phase store lock hcall hlock hacts =>
    cases hacts with
    | times hphase => exact hs.become hcall (hs.begun id call hcall) hs.inTime
    | stores name ttlSeconds value clock hop hphase =>
      have hfree : s.lock = none := hlock (by simp [TokenCall.needsLock, hop, hphase])
      exact hs.become hcall trivial fun j other => hs.stores hcall hop hphase hfree hlate
    | purges reading name clock hop hphase =>
      have hclock := hs.inTime id call hcall
      simp only [InTime, hphase] at hclock
      refine hs.become hcall ?_ fun j other hother =>
        (hs.inTime j other hother).of_narrowed fun _ _ => InMemoryTokenStore.items_of_purgeExpired
      intro reading' name' item hop' hitem
      obtain ⟨-, rfl⟩ : reading = reading' ∧ name = name' := by simpa using hop.symm.trans hop'
      exact Nat.lt_of_le_of_lt hclock (InMemoryTokenStore.lt_of_items_purgeExpired hitem)
    | finds reading name hop hphase hreading => exact hs.become hcall (hs.found hcall hop hphase) hs.inTime
    | takes name hop hphase =>
      exact hs.become hcall (hs.found hcall hop hphase) fun j other hother =>
        (hs.inTime j other hother).of_narrowed fun _ _ => InMemoryTokenStore.items_of_pop
    | removes name rest removed hphase =>
      exact hs.become hcall trivial fun j other hother =>
        (hs.inTime j other hother).of_narrowed fun _ _ => InMemoryTokenStore.items_of_pop
    | rests => exact hs.become hcall (hs.inTime id call hcall) hs.inTime
    | _ => exact hs.become hcall trivial hs.inTime

/-! ### The lock -/

/-- The call is at work on its names. -/
def Deleting (phase : TokenPhase K V) : Prop := ∃ rest removed, phase = .deleting rest removed

/-- The call that deletes has the lock. -/
def Locked (s : TokenSystem K V) : Prop :=
  ∀ id, s.lock = some id ↔ ∃ call, s.calls id = some call ∧ Deleting call.phase

omit [DecidableEq K] in
/-- The lock stays where it is, and the call is at work as before. -/
theorem Locked.become (hs : s.Locked) (hcall : s.calls id = some call)
    (hphase : Deleting phase ↔ Deleting call.phase) : (s.become id call phase store s.lock).Locked := by
  intro j
  refine (hs j).trans ?_
  constructor
  · rintro ⟨other, hother, hdeleting⟩
    by_cases hj : j = id
    · subst hj
      obtain rfl := Option.some.inj (hcall.symm.trans hother)
      exact ⟨_, calls_become_self, hphase.2 hdeleting⟩
    · exact ⟨other, (calls_become_of_ne hj).trans hother, hdeleting⟩
  · rintro ⟨other, hother, hdeleting⟩
    obtain ⟨rfl, rfl⟩ | ⟨-, hbefore⟩ := of_calls_become hother
    · exact ⟨call, hcall, hphase.1 hdeleting⟩
    · exact ⟨other, hbefore, hdeleting⟩

omit [DecidableEq K] in
theorem Locked.locks (hs : s.Locked) (hfree : s.lock = none) {names : List K} :
    (s.become id call (.deleting names []) store (some id)).Locked := by
  intro j
  constructor
  · intro hj
    obtain rfl : id = j := by simpa [TokenSystem.become] using hj
    exact ⟨_, calls_become_self, names, [], rfl⟩
  · rintro ⟨other, hother, hdeleting⟩
    obtain ⟨rfl, -⟩ | ⟨-, hbefore⟩ := of_calls_become hother
    · rfl
    · have hheld := (hs j).2 ⟨other, hbefore, hdeleting⟩
      simp [hfree] at hheld

omit [DecidableEq K] in
theorem Locked.unlocks (hs : s.Locked) (hcall : s.calls id = some call) {removed : List K}
    (hphase : call.phase = .deleting [] removed) : (s.become id call (.deleted removed) store none).Locked := by
  have hheld : s.lock = some id := (hs id).2 ⟨call, hcall, [], removed, hphase⟩
  intro j
  constructor
  · intro hj
    cases hj
  · rintro ⟨other, hother, hdeleting⟩
    obtain ⟨-, rfl⟩ | ⟨hj, hbefore⟩ := of_calls_become hother
    · obtain ⟨_, _, hdeleting⟩ := hdeleting
      cases hdeleting
    · have hheld' := (hs j).2 ⟨other, hbefore, hdeleting⟩
      exact absurd (Option.some.inj (hheld'.symm.trans hheld)) hj

theorem Locked.moves (hs : s.Locked) (hmoves : Moves s move s') : s'.Locked := by
  cases hmoves with
  | passes time => exact hs
  | stays => exact hs
  | begins id op hnone =>
    intro j
    refine (hs j).trans ?_
    constructor
    · rintro ⟨other, hother, hdeleting⟩
      have hj : j ≠ id := by
        rintro rfl
        simp [hnone] at hother
      exact ⟨other, (Function.update_of_ne hj _ s.calls).trans hother, hdeleting⟩
    · rintro ⟨other, hother, hdeleting⟩
      obtain ⟨-, rfl⟩ | ⟨-, hbefore⟩ := of_update_eq_some hother
      · obtain ⟨_, _, hdeleting⟩ := hdeleting
        cases hdeleting
      · exact ⟨other, hbefore, hdeleting⟩
  | advances id call phase store lock hcall hlock hacts =>
    cases hacts with
    | locks names hop hphase => exact hs.locks (hlock (by simp [TokenCall.needsLock, hop, hphase]))
    | unlocks removed hphase => exact hs.unlocks hcall hphase
    | rests => exact hs.become hcall Iff.rfl
    | _ => exact hs.become hcall (by simp [Deleting, *])

/-- What a call has yet to delete are names of its own. -/
def Named (s : TokenSystem K V) : Prop :=
  ∀ id call rest removed, s.calls id = some call → call.phase = .deleting rest removed → ∀ k ∈ rest, k ∈ call.op.keys

omit [DecidableEq K] in
theorem Named.become (hs : s.Named)
    (hphase : ∀ rest removed, phase = .deleting rest removed → ∀ k ∈ rest, k ∈ call.op.keys) :
    (s.become id call phase store lock).Named := by
  intro j other rest removed hother hdeleting
  obtain ⟨-, rfl⟩ | ⟨-, hbefore⟩ := of_calls_become hother
  · exact hphase rest removed hdeleting
  · exact hs j other rest removed hbefore hdeleting

theorem Named.moves (hs : s.Named) (hmoves : Moves s move s') : s'.Named := by
  cases hmoves with
  | passes time => exact hs
  | stays => exact hs
  | begins id op hnone =>
    intro j other rest removed hother hdeleting
    obtain ⟨-, rfl⟩ | ⟨-, hbefore⟩ := of_update_eq_some hother
    · cases hdeleting
    · exact hs j other rest removed hbefore hdeleting
  | advances id call phase store lock hcall hlock hacts =>
    cases hacts with
    | rests => exact hs.become fun rest removed hdeleting => hs id call rest removed hcall hdeleting
    | locks names hop hphase =>
      refine hs.become fun rest removed hdeleting => ?_
      injection hdeleting with hrest
      subst hrest
      simp [hop, TokenOp.keys]
    | removes name rest removed hphase =>
      refine hs.become fun rest' removed' hdeleting k hk => ?_
      injection hdeleting with hrest
      subst hrest
      exact hs id call _ removed hcall hphase k (List.mem_cons_of_mem name hk)
    | skips name rest removed hphase =>
      refine hs.become fun rest' removed' hdeleting k hk => ?_
      injection hdeleting with hrest
      subst hrest
      exact hs id call _ removed hcall hphase k (List.mem_cons_of_mem name hk)
    | _ => exact hs.become fun rest removed hdeleting => by cases hdeleting

/-! ### What a key shows of the system -/

/-- The phases tell the same about the key. -/
inductive SamePhase (k : K) : TokenPhase K V → TokenPhase K V → Prop
  | same (phase : TokenPhase K V) : SamePhase k phase phase
  | deleting (rest removed removed' : List K) (hcount : removed'.count k = removed.count k) :
      SamePhase k (.deleting rest removed) (.deleting rest removed')
  | deleted (removed removed' : List K) (hcount : removed'.count k = removed.count k) :
      SamePhase k (.deleted removed) (.deleted removed')

/-- A call that does not name the key is left out of the other system. -/
inductive SameCall (k : K) : Option (TokenCall K V) → Option (TokenCall K V) → Prop
  | none : SameCall k none none
  | other (call : TokenCall K V) (hk : k ∉ call.op.keys) : SameCall k (some call) none
  | same (call : TokenCall K V) (phase : TokenPhase K V) (hk : k ∈ call.op.keys) (hphase : SamePhase k call.phase phase) :
      SameCall k (some call) (some { call with phase := phase })

/-- The other system has the key's item and the calls that name the key. -/
structure SameOn (k : K) (s s' : TokenSystem K V) : Prop where
  now : s'.now = s.now
  items : s'.store.items k = s.store.items k
  calls : ∀ id, SameCall k (s.calls id) (s'.calls id)

/-- A step of a call that does not name the key leaves the key's item. -/
theorem Acts.items (h : Acts s id call phase store lock) (hs : s.Named) (hcall : s.calls id = some call) {k : K}
    (hk : k ∉ call.op.keys) : store.items k = s.store.items k := by
  cases h with
  | stores name ttlSeconds value clock hop hphase =>
    exact Function.update_of_ne (by simpa [hop, TokenOp.keys] using hk) _ s.store.items
  | purges reading name clock hop hphase =>
    exact s.store.items_purgeExpired_of_ne clock name (by simpa [hop, TokenOp.keys] using hk)
  | takes name hop hphase => exact s.store.items_pop_of_ne name (by simpa [hop, TokenOp.keys] using hk)
  | removes name rest removed hphase =>
    refine s.store.items_pop_of_ne name ?_
    rintro rfl
    exact hk (hs id call _ removed hcall hphase k (List.mem_cons_self ..))
  | _ => rfl

/-- A step of a call in one system and in the other. -/
def SameAct (k : K) (acted acted' : TokenPhase K V × InMemoryTokenStore K (StoredToken V) × Option Nat) : Prop :=
  SamePhase k acted.1 acted'.1 ∧ acted'.2.1.items k = acted.2.1.items k

theorem SameOn.act_setex {k : K} {ttlSeconds : Int} {value : V} {begun : Time} {before after : TokenPhase K V}
    (h : SameOn k s s') (hphase : SamePhase k before after) :
    SameAct k (s.act id ⟨.setex k ttlSeconds value, begun, before⟩)
      (s'.act id ⟨.setex k ttlSeconds value, begun, after⟩) := by
  cases hphase with
  | deleting rest removed removed' hcount => exact ⟨.deleting rest removed removed' hcount, h.items⟩
  | deleted removed removed' hcount => exact ⟨.deleted removed removed' hcount, h.items⟩
  | same =>
    cases before with
    | started =>
      unfold act
      rw [h.now]
      exact ⟨.same _, h.items⟩
    | timed clock =>
      refine ⟨.same _, ?_⟩
      exact (Function.update_self k _ s'.store.items).trans (Function.update_self k _ s.store.items).symm
    | _ => exact ⟨.same _, h.items⟩

theorem SameOn.act_reads {k : K} {reading : TokenReading} {begun : Time} {before after : TokenPhase K V}
    (h : SameOn k s s') (hphase : SamePhase k before after) :
    SameAct k (s.act id ⟨.reads reading k, begun, before⟩) (s'.act id ⟨.reads reading k, begun, after⟩) := by
  cases hphase with
  | deleting rest removed removed' hcount => exact ⟨.deleting rest removed removed' hcount, h.items⟩
  | deleted removed removed' hcount => exact ⟨.deleted removed removed' hcount, h.items⟩
  | same =>
    cases before with
    | started =>
      unfold act
      rw [h.now]
      exact ⟨.same _, h.items⟩
    | timed clock =>
      refine ⟨.same _, ?_⟩
      show (s'.store.purgeExpired clock k).items k = (s.store.purgeExpired clock k).items k
      rw [InMemoryTokenStore.items_purgeExpired_self, InMemoryTokenStore.items_purgeExpired_self, h.items]
    | purged =>
      refine ⟨?_, ?_⟩
      · show SamePhase k (.found (s.store.items k)) (.found (s'.store.items k))
        rw [h.items]
        exact .same _
      · show (if reading = .getdel then s'.store.pop k else s'.store).items k =
          (if reading = .getdel then s.store.pop k else s.store).items k
        split
        · exact (s'.store.items_pop_self k).trans (s.store.items_pop_self k).symm
        · exact h.items
    | _ => exact ⟨.same _, h.items⟩

/-- The deletion of a name: the key's own item is there in both systems or in neither, and another name does not count. -/
theorem SameOn.act_deleting {k name : K} {names rest removed removed' : List K} {begun : Time} (h : SameOn k s s')
    (hcount : removed'.count k = removed.count k) :
    SameAct k (s.act id ⟨.delete names, begun, .deleting (name :: rest) removed⟩)
      (s'.act id ⟨.delete names, begun, .deleting (name :: rest) removed'⟩) := by
  unfold act
  dsimp only
  by_cases hk : k = name
  · subst hk
    rw [h.items]
    split
    · refine ⟨.deleting rest _ _ ?_, (s'.store.items_pop_self k).trans (s.store.items_pop_self k).symm⟩
      rw [List.count_append, List.count_append, hcount]
    · exact ⟨.deleting rest _ _ hcount, h.items⟩
  · have hother : [name].count k = 0 := by simp [Ne.symm hk]
    have hpop : (s.store.pop name).items k = s.store.items k := s.store.items_pop_of_ne name hk
    have hpop' : (s'.store.pop name).items k = s'.store.items k := s'.store.items_pop_of_ne name hk
    split <;> split <;> refine ⟨.deleting rest _ _ ?_, ?_⟩ <;>
      simp only [List.count_append, hother, hcount, hpop, hpop', h.items, Nat.add_zero]

theorem SameOn.act_delete {k : K} {names : List K} {begun : Time} {before after : TokenPhase K V}
    (h : SameOn k s s') (hphase : SamePhase k before after) :
    SameAct k (s.act id ⟨.delete names, begun, before⟩) (s'.act id ⟨.delete names, begun, after⟩) := by
  cases hphase with
  | deleted removed removed' hcount => exact ⟨.deleted removed removed' hcount, h.items⟩
  | deleting rest removed removed' hcount =>
    cases rest with
    | nil => exact ⟨.deleted removed removed' hcount, h.items⟩
    | cons name rest => exact h.act_deleting hcount
  | same =>
    cases before with
    | deleting rest removed =>
      cases rest with
      | nil => exact ⟨.same _, h.items⟩
      | cons name rest => exact h.act_deleting rfl
    | _ => exact ⟨.same _, h.items⟩

/-- A call that names the key takes the same step in both systems. -/
theorem SameOn.act {k : K} (h : SameOn k s s') (id : Nat) (hk : k ∈ call.op.keys) (hphase : SamePhase k call.phase phase) :
    SameAct k (s.act id call) (s'.act id { call with phase := phase }) := by
  obtain ⟨op, begun, before⟩ := call
  cases op with
  | setex name ttlSeconds value =>
    obtain rfl : k = name := by simpa [TokenOp.keys] using hk
    exact h.act_setex hphase
  | reads reading name =>
    obtain rfl : k = name := by simpa [TokenOp.keys] using hk
    exact h.act_reads hphase
  | delete names => exact h.act_delete hphase

theorem step_begins (op : TokenOp K V) (hnone : s.calls id = none) : s.step (.begins id op) =
    { s with calls := Function.update s.calls id (some ⟨op, s.now, .started⟩) } := by
  simp [step, hnone]

theorem step_advances (hcall : s.calls id = some call) (hlock : call.needsLock = true → s.lock = none) :
    s.step (.advances id) = s.become id call (s.act id call).1 (s.act id call).2.1 (s.act id call).2.2 := by
  have hgoes : ¬(call.needsLock = true ∧ s.lock ≠ none) := fun hwaits => hwaits.2 (hlock hwaits.1)
  simp only [step, hcall, if_neg hgoes]

theorem SamePhase.needsLock {k : K} {op : TokenOp K V} {begun : Time} {before after : TokenPhase K V}
    (h : SamePhase k before after) :
    (⟨op, begun, after⟩ : TokenCall K V).needsLock = (⟨op, begun, before⟩ : TokenCall K V).needsLock := by
  cases h with
  | same => rfl
  | deleting => cases op <;> rfl
  | deleted => cases op <;> rfl

theorem SamePhase.deletes {k : K} {before after : TokenPhase K V} (h : SamePhase k before after)
    (hdeleting : Deleting after) : Deleting before := by
  cases h with
  | same => exact hdeleting
  | deleting rest removed removed' hcount => exact ⟨rest, removed, rfl⟩
  | deleted removed removed' hcount =>
    obtain ⟨_, _, hdeleting⟩ := hdeleting
    cases hdeleting

/-- A lock that is free is free in the other system. -/
theorem SameOn.free {k : K} (h : SameOn k s s') (hs : s.Locked) (hs' : s'.Locked) (hfree : s.lock = none) :
    s'.lock = none := by
  cases hlock : s'.lock with
  | none => rfl
  | some j =>
    obtain ⟨other, hother, hdeleting⟩ := (hs' j).1 hlock
    have hcalls := h.calls j
    rw [hother] at hcalls
    generalize hbefore : s.calls j = before at hcalls
    cases hcalls with
    | same call phase hk hphase =>
      have hheld := (hs j).2 ⟨call, hbefore, hphase.deletes hdeleting⟩
      simp [hfree] at hheld

theorem SameOn.begins {k : K} (h : SameOn k s s') (op : TokenOp K V) (hnone : s.calls id = none)
    (hk : k ∈ op.keys) : SameOn k (s.step (.begins id op)) (s'.step (.begins id op)) := by
  have hnone' : s'.calls id = none := by
    have hcalls := h.calls id
    rw [hnone] at hcalls
    generalize s'.calls id = after at hcalls
    cases hcalls
    rfl
  rw [step_begins op hnone, step_begins op hnone', h.now]
  refine ⟨rfl, h.items, fun j => ?_⟩
  by_cases hj : j = id
  · subst hj
    dsimp only
    rw [Function.update_self, Function.update_self]
    exact .same ⟨op, s.now, .started⟩ .started hk (.same _)
  · dsimp only
    rw [Function.update_of_ne hj, Function.update_of_ne hj]
    exact h.calls j

theorem SameOn.advances {k : K} (h : SameOn k s s') (hs : s.Locked) (hs' : s'.Locked) (hcall : s.calls id = some call)
    (hk : k ∈ call.op.keys) (hlock : call.needsLock = true → s.lock = none) :
    SameOn k (s.step (.advances id)) (s'.step (.advances id)) := by
  have hcalls := h.calls id
  rw [hcall] at hcalls
  generalize hcall' : s'.calls id = after at hcalls
  cases hcalls with
  | other _ hother => exact absurd hk hother
  | same _ phase _ hphase =>
    have hlock' : ({ call with phase := phase } : TokenCall K V).needsLock = true → s'.lock = none := fun hneeds =>
      h.free hs hs' (hlock (hphase.needsLock.symm.trans hneeds))
    rw [step_advances hcall hlock, step_advances hcall' hlock']
    obtain ⟨hnext, hitems⟩ := h.act id hk hphase
    refine ⟨h.now, hitems, fun j => ?_⟩
    by_cases hj : j = id
    · subst hj
      rw [calls_become_self, calls_become_self]
      exact .same { call with phase := (s.act j call).1 } _ hk hnext
    · rw [calls_become_of_ne hj, calls_become_of_ne hj]
      exact h.calls j

/-- A move that does not concern the key changes nothing of what it shows. -/
theorem SameOn.skips {k : K} (h : SameOn k s s') (hs : s.Named) (hconcerns : s.concerns k move = false) :
    SameOn k (s.step move) s' := by
  have hmoves := s.moves move
  generalize s.step move = t at hmoves ⊢
  cases hmoves with
  | passes time => cases hconcerns
  | stays => exact h
  | begins id op hnone =>
    have hk : k ∉ op.keys := by simpa [concerns, hnone] using hconcerns
    refine ⟨h.now, h.items, fun j => ?_⟩
    by_cases hj : j = id
    · subst hj
      have hcalls := h.calls j
      rw [hnone] at hcalls
      dsimp only
      rw [Function.update_self]
      generalize s'.calls j = after at hcalls ⊢
      cases hcalls
      exact .other _ hk
    · dsimp only
      rw [Function.update_of_ne hj]
      exact h.calls j
  | advances id call phase store lock hcall hlock hacts =>
    have hk : k ∉ call.op.keys := by
      intro hk
      simp [concerns, hcall, hk] at hconcerns
      exact absurd (hlock hconcerns.1) (Option.isSome_iff_ne_none.1 hconcerns.2)
    refine ⟨h.now, h.items.trans (hacts.items hs hcall hk).symm, fun j => ?_⟩
    by_cases hj : j = id
    · subst hj
      have hcalls := h.calls j
      rw [hcall] at hcalls
      rw [calls_become_self]
      generalize s'.calls j = after at hcalls ⊢
      cases hcalls with
      | other => exact .other _ hk
      | same _ _ hnamed => exact absurd hnamed hk
    · rw [calls_become_of_ne hj]
      exact h.calls j

theorem SameOn.concerned {k : K} (h : SameOn k s s') (hs : s.Locked) (hs' : s'.Locked)
    (hconcerns : s.concerns k move = true) : SameOn k (s.step move) (s'.step move) := by
  cases move with
  | passes time =>
    refine ⟨?_, h.items, h.calls⟩
    show s'.now + time = s.now + time
    rw [h.now]
  | begins id op =>
    have hconcerns : s.calls id = none ∧ k ∈ op.keys := by simpa [concerns] using hconcerns
    exact h.begins op hconcerns.1 hconcerns.2
  | advances id =>
    cases hcall : s.calls id with
    | none => simp [concerns, hcall] at hconcerns
    | some call =>
      have hconcerns : k ∈ call.op.keys ∧ (call.needsLock = false ∨ s.lock = none) := by
        simpa [concerns, hcall] using hconcerns
      refine h.advances hs hs' hcall hconcerns.1 fun hneeds => ?_
      exact hconcerns.2.resolve_left (by simp [hneeds])

/-- The other system shows the same of the key, in states where the lock is held by the call that deletes. -/
structure Projects (k : K) (s s' : TokenSystem K V) : Prop extends SameOn k s s' where
  locked : s.Locked
  locked' : s'.Locked
  named : s.Named

theorem Projects.start (k : K) (now : Time) : Projects k (start now : TokenSystem K V) (start now) := by
  have hlocked : (TokenSystem.start now : TokenSystem K V).Locked := by
    intro id
    constructor
    · intro h
      cases h
    · rintro ⟨_, hcall, -⟩
      cases hcall
  exact ⟨⟨rfl, rfl, fun _ => .none⟩, hlocked, hlocked, fun _ _ _ _ h => by cases h⟩

/-- What a key shows after a run is what it shows after the moves that concern it. -/
theorem projects_run (k : K) (now : Time) (moves : List (TokenMove K V)) :
    Projects k (run step (start now) moves) (run step (start now) (movesOn k (start now) moves)) := by
  refine run_kept ?_ ?_ (Projects.start k now) moves
  · intro s s' move h hconcerns
    exact ⟨h.toSameOn.concerned h.locked h.locked' hconcerns, h.locked.moves (s.moves move),
      h.locked'.moves (s'.moves move), h.named.moves (s.moves move)⟩
  · intro s s' move h hconcerns
    exact ⟨h.toSameOn.skips h.named hconcerns, h.locked.moves (s.moves move), h.locked', h.named.moves (s.moves move)⟩

theorem SamePhase.answer {k : K} {before after : TokenPhase K V} (h : SamePhase k before after) (op : TokenOp K V)
    (begun : Time) :
    (⟨op, begun, after⟩ : TokenCall K V).answer k = (⟨op, begun, before⟩ : TokenCall K V).answer k := by
  cases h with
  | same => rfl
  | deleting rest removed removed' hcount =>
    cases op with
    | reads reading name => cases reading <;> rfl
    | _ => rfl
  | deleted removed removed' hcount =>
    cases op with
    | setex name ttlSeconds value => rfl
    | reads reading name => cases reading <;> rfl
    | delete names => simp [TokenCall.answer, hcount]

theorem SameOn.answer {k : K} (h : SameOn k s s') (id : Nat) : s.answer k id = s'.answer k id := by
  have hcalls := h.calls id
  unfold TokenSystem.answer
  generalize s.calls id = before at hcalls ⊢
  generalize s'.calls id = after at hcalls ⊢
  cases hcalls with
  | none => rfl
  | other call hk => simp [hk]
  | same call phase hk hphase =>
    have hsame := hphase.answer call.op call.begun
    simpa [hk] using hsame.symm

/-! ### Single use -/

omit [DecidableEq K] in
theorem Traced.start (now : Time) : (start now : TokenSystem K V).Traced := by
  constructor
  · intro k item hitem
    cases hitem
  · rintro k id item ⟨_, hcall, -⟩
    cases hcall
  · rintro k id item item' - hitem
    cases hitem
  · rintro k k' i j item item' ⟨_, hcall, -⟩
    cases hcall

omit [DecidableEq K] in
theorem Timely.start (now : Time) : (start now : TokenSystem K V).Timely := by
  constructor
  · intro i call hcall
    cases hcall
  · intro i call hcall
    cases hcall

omit [DecidableEq K] in
theorem safe_of_traced (hs : s.Traced) (htimely : s.Timely) : s.Safe where
  once i j item item' := by
    rintro ⟨call, k, hcall⟩ ⟨call', k', hcall'⟩
    exact hs.once k k' i j item item' ⟨call, hcall⟩ ⟨call', hcall'⟩
  unexpired i call item hcall hphase := by
    have hfound := htimely.inTime i call hcall
    simpa only [InTime, hphase] using hfound

/-- In a run in which no value is stored late every value is taken at most once and found only by calls that began before
it was over; and in any run what is told about a key is told by the calls that name it alone. -/
theorem tokens_single_use (now : Time) (moves : List (TokenMove K V))
    (hlate : Steps step (fun s move => ¬s.storesLate move) (start now) moves) :
    Always step Safe (start now) moves ∧
      ∀ k id, (run step (start now) moves).answer k id =
        (run step (start now) (movesOn k (start now) moves)).answer k id := by
  constructor
  · have hinvariant : Always step (fun s => s.Traced ∧ s.Timely) (start now) moves := by
      refine Always.of_steps ?_ ⟨.start now, .start now⟩ hlate
      intro s move hs hmove
      exact ⟨hs.1.moves (s.moves move), hs.2.moves hmove (s.moves move)⟩
    exact hinvariant.mono fun s hs => safe_of_traced hs.1 hs.2
  · intro k id
    exact (projects_run k now moves).toSameOn.answer id

omit [DecidableEq K] in
/-- Only a `setex` stores. -/
theorem not_storesLate_of_reads {reading : TokenReading} {name : K} (hcall : s.calls id = some call)
    (hop : call.op = .reads reading name) : ¬s.storesLate (.advances id) := by
  rintro ⟨setter, _, _, _, _, hsetter, hsetex, -⟩
  obtain rfl := Option.some.inj (hcall.symm.trans hsetter)
  rw [hop] at hsetex
  cases hsetex

namespace Small

/-- A token is stored, and two requests use it at once. -/
def usedTwice : List (TokenMove String String) :=
  [.begins 0 (.setex "email-verify:t" 3600 "7"), .advances 0, .advances 0, .passes 1000000,
    .begins 1 (consumeSingleUseToken "email-verify:t"), .begins 2 (consumeSingleUseToken "email-verify:t"),
    .advances 1, .advances 2, .advances 1, .advances 2, .advances 2, .advances 1]

/-- A `setex` waits for longer than its value lasts, and a `getdel` that begins then has purged the key when it stores. -/
def storedLate : List (TokenMove String String) :=
  [.begins 0 (.setex "email-verify:t" 1 "7"), .advances 0, .passes 1000000,
    .begins 1 (consumeSingleUseToken "email-verify:t"), .advances 1, .advances 1, .advances 0, .advances 1]

end Small

theorem tokens_used_twice : Always step Safe (start 0) Small.usedTwice ∧
    ∀ k id, (run step (start 0) Small.usedTwice).answer k id =
      (run step (start 0) (movesOn k (start 0) Small.usedTwice)).answer k id := by
  refine tokens_single_use 0 Small.usedTwice ⟨id, ?_, ?_, id, id, id, not_storesLate_of_reads rfl rfl,
    not_storesLate_of_reads rfl rfl, not_storesLate_of_reads rfl rfl, not_storesLate_of_reads rfl rfl,
    not_storesLate_of_reads rfl rfl, not_storesLate_of_reads rfl rfl, trivial⟩
  · rintro ⟨call, _, _, _, _, hcall, -, hphase, -⟩
    obtain rfl := Option.some.inj hcall
    cases hphase
  · -- the value is stored before anybody reads
    rintro ⟨_, _, _, _, _, _, _, _, _, j, reader, reading, hreader, hop, -⟩
    obtain ⟨-, rfl⟩ | ⟨-, hbefore⟩ := of_update_eq_some hreader
    · cases hop
    · obtain ⟨-, rfl⟩ | ⟨-, hnone⟩ := of_update_eq_some hbefore
      · cases hop
      · cases hnone

example : (run step (start 0) Small.usedTwice).answer "email-verify:t" 1 = some (.value none) ∧
    (run step (start 0) Small.usedTwice).answer "email-verify:t" 2 = some (.value (some "7")) := by decide

theorem token_found_late : ¬∀ (now : Time) (moves : List (TokenMove String String)),
    Always step Safe (start now) moves ∧
      ∀ k id, (run step (start now) moves).answer k id =
        (run step (start now) (movesOn k (start now) moves)).answer k id := by
  intro h
  have hsafe := (h 0 Small.storedLate).1.last
  -- the value lasts to the instant at which the `getdel` that returns it began
  have hlt := hsafe.unexpired 1 ⟨.reads .getdel "email-verify:t", 1000000, .found (some ⟨⟨"7", 0⟩, 1000000⟩)⟩
    ⟨⟨"7", 0⟩, 1000000⟩ rfl rfl
  exact Nat.lt_irrefl 1000000 hlt

end TokenSystem

end

end ControlPlane
