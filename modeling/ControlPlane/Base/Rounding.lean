import Mathlib.Algebra.Order.Field.Power
import Mathlib.Algebra.Order.Field.Rat
import Mathlib.Data.Nat.Cast.Order.Field
import Mathlib.Data.Nat.Log
import Mathlib.Tactic.Linarith
import Mathlib.Tactic.Ring

/-!
# Rounding

A rounding of quotients to natural numbers that is monotone and leaves the natural numbers (`Rounding.Lawful`) rounds a
coefficient `c` with an exponent `e` to its first `p` digits (`toDigits`).  That is monotone in the value `c * b ^ e`,
although two coefficients can be cut at different digits: what is between two grids is bounded by the powers of `b` that
both of them have (`value_toDigits_le`).
-/

namespace Rounding

/-- A rounding of `n / d` that respects the order of the quotients and leaves the natural numbers. -/
structure Lawful (round : Nat → Nat → Nat) : Prop where
  mono : ∀ {n d n' d' : Nat}, 0 < d → 0 < d' → n * d' ≤ n' * d → round n d ≤ round n' d'
  exact_one : ∀ n, round n 1 = n

namespace Lawful

variable {round : Nat → Nat → Nat} {n d k : Nat}

theorem le (h : Lawful round) (hd : 0 < d) (hk : n ≤ k * d) : round n d ≤ k := by
  have hmono := h.mono hd Nat.one_pos (show n * 1 ≤ k * d by omega)
  rwa [h.exact_one] at hmono

theorem ge (h : Lawful round) (hd : 0 < d) (hk : k * d ≤ n) : k ≤ round n d := by
  have hmono := h.mono Nat.one_pos hd (show k * d ≤ n * 1 by omega)
  rwa [h.exact_one] at hmono

end Lawful

/-! ### Two roundings -/

theorem halfUp_lawful : Lawful fun n d => (2 * n + d) / (2 * d) where
  mono {n d n' d'} hd hd' h := by
    rw [Nat.le_div_iff_mul_le (by omega)]
    have hq : (2 * n + d) / (2 * d) * (2 * d) ≤ 2 * n + d := Nat.div_mul_le_self _ _
    generalize (2 * n + d) / (2 * d) = q at hq ⊢
    refine Nat.le_of_mul_le_mul_left ?_ hd
    calc d * (q * (2 * d')) = q * (2 * d) * d' := by ring
      _ ≤ (2 * n + d) * d' := Nat.mul_le_mul_right d' hq
      _ = 2 * (n * d') + d * d' := by ring
      _ ≤ 2 * (n' * d) + d * d' := by omega
      _ = d * (2 * n' + d') := by ring
  exact_one n := by
    show (2 * n + 1) / 2 = n
    omega

/-- Half of an odd number rounds to the even neighbour. -/
def halfEven (n d : Nat) : Nat :=
  if 2 * (n % d) < d then n / d
  else if d < 2 * (n % d) then n / d + 1
  else if n / d % 2 = 0 then n / d else n / d + 1

/-- What is rounded above `m` is beyond the middle of `m` and `m + 1`, or in it with `m` odd. -/
theorem halfEven_above {n d m : Nat} (hd : 0 < d) (h : m < halfEven n d) :
    (2 * m + 1) * d < 2 * n ∨ ((2 * m + 1) * d = 2 * n ∧ m % 2 = 1) := by
  have hn : d * (n / d) + n % d = n := Nat.div_add_mod n d
  have hr : n % d < d := Nat.mod_lt n hd
  unfold halfEven at h
  generalize n / d = q at hn h
  generalize n % d = r at hn hr h
  subst hn
  have hscale : q ≥ m + 1 → (2 * m + 1) * d < 2 * (d * q + r) := by
    intro hq
    have hmul : (m + 1) * d ≤ q * d := Nat.mul_le_mul_right d hq
    nlinarith
  split at h
  · exact Or.inl (hscale h)
  · split at h
    · rcases Nat.lt_or_ge m q with hq | hq
      · exact Or.inl (hscale hq)
      · obtain rfl : m = q := by omega
        left
        nlinarith
    · split at h
      · exact Or.inl (hscale h)
      · rcases Nat.lt_or_ge m q with hq | hq
        · exact Or.inl (hscale hq)
        · obtain rfl : m = q := by omega
          refine Or.inr ⟨?_, by omega⟩
          have hmiddle : d = 2 * r := by omega
          rw [hmiddle]
          ring

/-- What is rounded to at most `m` is below the middle of `m` and `m + 1`, or in it with `m` even. -/
theorem halfEven_below {n d m : Nat} (hd : 0 < d) (h : halfEven n d ≤ m) :
    2 * n < (2 * m + 1) * d ∨ (2 * n = (2 * m + 1) * d ∧ m % 2 = 0) := by
  have hn : d * (n / d) + n % d = n := Nat.div_add_mod n d
  have hr : n % d < d := Nat.mod_lt n hd
  unfold halfEven at h
  generalize n / d = q at hn h
  generalize n % d = r at hn hr h
  subst hn
  have hscale : q + 1 ≤ m → 2 * (d * q + r) < (2 * m + 1) * d := by
    intro hq
    have hmul : (q + 1) * d ≤ m * d := Nat.mul_le_mul_right d hq
    nlinarith
  split at h
  · rcases Nat.lt_or_ge q m with hq | hq
    · exact Or.inl (hscale hq)
    · obtain rfl : m = q := by omega
      left
      nlinarith
  · split at h
    · exact Or.inl (hscale h)
    · split at h
      · rcases Nat.lt_or_ge q m with hq | hq
        · exact Or.inl (hscale hq)
        · obtain rfl : m = q := by omega
          refine Or.inr ⟨?_, by omega⟩
          have hmiddle : d = 2 * r := by omega
          rw [hmiddle]
          ring
      · exact Or.inl (hscale h)

theorem halfEven_lawful : Lawful halfEven where
  mono {n d n' d'} hd hd' h := by
    by_contra hlt
    have habove := halfEven_above hd (Nat.lt_of_not_le hlt)
    have hbelow := halfEven_below hd' (Nat.le_refl (halfEven n' d'))
    generalize halfEven n' d' = m at habove hbelow
    -- the two quotients would be on the two sides of the middle above `m`, or both in it
    have hcross : 2 * n * d' ≤ 2 * n' * d := by nlinarith
    rcases habove with habove | ⟨habove, hodd⟩
    · have h₁ : (2 * m + 1) * d * d' < 2 * n * d' := Nat.mul_lt_mul_of_pos_right habove hd'
      have h₂ : 2 * n' * d ≤ (2 * m + 1) * d' * d := by
        refine Nat.mul_le_mul_right d ?_
        omega
      nlinarith
    · rcases hbelow with hbelow | ⟨-, heven⟩
      · have h₁ : 2 * n' * d < (2 * m + 1) * d' * d := Nat.mul_lt_mul_of_pos_right hbelow hd
        have h₂ : 2 * n * d' = (2 * m + 1) * d * d' := by rw [habove]
        nlinarith
      · omega
  exact_one n := by
    unfold halfEven
    rw [Nat.mod_one, Nat.div_one, if_pos (by omega)]

/-- Rounding half to even rounds up: the part cut off is more than a half, or a half after an odd number. -/
def carries (n d : Nat) : Bool := d < 2 * (n % d) || (2 * (n % d) == d && n / d % 2 == 1)

theorem halfEven_eq (n d : Nat) : halfEven n d = if carries n d then n / d + 1 else n / d := by
  unfold halfEven carries
  rcases lt_trichotomy (2 * (n % d)) d with hlt | heq | hgt
  · have hne : ¬2 * (n % d) = d := by omega
    simp [hlt, Nat.lt_asymm hlt, hne]
  · by_cases heven : n / d % 2 = 0
    · simp [heq, heven]
    · have hodd : n / d % 2 = 1 := by omega
      simp [heq, hodd]
  · simp [hgt, Nat.lt_asymm hgt]

/-- The first rounding of two, half to even in steps of `d` and then half up in steps of `d * t`, moves a half: for
`t = 1` it leaves one after an even number, and otherwise it rounds up to one. -/
def movesHalf (n d t : Nat) : Bool :=
  if t = 1 then 2 * (n % d) == d && n / d % 2 == 0 else carries n d && (n / d + 1) % t == t / 2

/-- A step up crosses a middle between multiples of `2 * m` only by coming to one. -/
private theorem succ_step_iff {m : Nat} (hm : 0 < m) (q : Nat) :
    (q + 1 + m) / (2 * m) = (q + m) / (2 * m) ↔ ¬(q + 1) % (2 * m) = m := by
  have hsucc : (q + m + 1) / (2 * m) = (q + m) / (2 * m) + if 2 * m ∣ q + m + 1 then 1 else 0 := Nat.succ_div
  have hdvd : 2 * m ∣ q + m + 1 ↔ (q + 1) % (2 * m) = m := by
    have hlt : (q + 1) % (2 * m) < 2 * m := Nat.mod_lt (q + 1) (by omega)
    rw [Nat.dvd_iff_mod_eq_zero, show q + m + 1 = q + 1 + m by omega, Nat.add_mod,
      Nat.mod_eq_of_lt (show m < 2 * m by omega)]
    constructor
    · intro h
      by_contra hne
      rcases Nat.lt_or_ge ((q + 1) % (2 * m) + m) (2 * m) with hbelow | habove
      · rw [Nat.mod_eq_of_lt hbelow] at h
        omega
      · rw [Nat.mod_eq_sub_mod habove, Nat.mod_eq_of_lt (by omega)] at h
        omega
    · intro h
      rw [h, show m + m = 2 * m by omega, Nat.mod_self]
  rw [show q + 1 + m = q + m + 1 by omega, hsucc, ← hdvd]
  by_cases h : 2 * m ∣ q + m + 1
  · simp [h]
  · simp [h]

/-- A rounding half up looks at the kept part and at whether half of a step is cut off. -/
theorem halfUp_eq {n d : Nat} (hd : 0 < d) (t : Nat) :
    (2 * n + d * t) / (2 * (d * t)) = (2 * (n / d) + t + if d ≤ 2 * (n % d) then 1 else 0) / (2 * t) := by
  have hn : d * (n / d) + n % d = n := Nat.div_add_mod n d
  have hr : n % d < d := Nat.mod_lt n hd
  have hcut : 2 * (n % d) / d = if d ≤ 2 * (n % d) then 1 else 0 := by
    split
    · rename_i hle
      exact (Nat.div_eq_iff hd).2 ⟨by omega, by omega⟩
    · rename_i hlt
      exact Nat.div_eq_of_lt (by omega)
  rw [← hcut, show 2 * (d * t) = d * (2 * t) by ring, ← Nat.div_div_eq_div_mul]
  congr 1
  rw [show 2 * n + d * t = 2 * (n % d) + d * (2 * (n / d) + t) by nlinarith [hn], Nat.add_mul_div_left _ _ hd]
  omega

/-- To the next integer, twice. -/
theorem halfUp_halfEven_one_iff {n d : Nat} :
    (2 * halfEven n d + 1) / (2 * 1) = (2 * (n / d) + 1 + if d ≤ 2 * (n % d) then 1 else 0) / (2 * 1) ↔
      movesHalf n d 1 = false := by
  rw [halfEven_eq]
  generalize hq : n / d = q
  generalize hs : n % d = s at *
  unfold movesHalf
  rw [hq, hs, if_pos rfl]
  by_cases hmiddle : 2 * s = d
  · by_cases hq2 : q % 2 = 0
    · have hcarry : carries n d = false := by simp [carries, hq, hs, hmiddle, hq2]
      simp [hmiddle, hq2, hcarry]
      omega
    · have hcarry : carries n d = true := by
        have hq1 : q % 2 = 1 := by omega
        simp [carries, hq, hs, hmiddle, hq1]
      simp [hmiddle, hq2, hcarry]
      omega
  · by_cases hlt : d < 2 * s
    · have hcarry : carries n d = true := by simp [carries, hs, hlt]
      have hle : d ≤ 2 * s := by omega
      simp [hmiddle, hcarry, hle]
      omega
    · have hcarry : carries n d = false := by simp [carries, hs, hlt, hmiddle]
      have hle : ¬d ≤ 2 * s := by omega
      simp [hmiddle, hcarry, hle]

/-- To the next multiple of an even step, after an integer. -/
theorem halfUp_halfEven_even_iff {n d m : Nat} (hm : 0 < m) :
    (2 * halfEven n d + 2 * m) / (2 * (2 * m)) =
        (2 * (n / d) + 2 * m + if d ≤ 2 * (n % d) then 1 else 0) / (2 * (2 * m)) ↔
      movesHalf n d (2 * m) = false := by
  rw [halfEven_eq]
  generalize hq : n / d = q
  unfold movesHalf
  rw [hq, if_neg (show 2 * m ≠ 1 by omega)]
  -- nothing is a half of a step apart from the middle itself, for which the step is even
  have hstep : ∀ b ≤ 1, (2 * q + 2 * m + b) / (2 * (2 * m)) = (q + m) / (2 * m) := by
    intro b hb
    rw [← Nat.div_div_eq_div_mul]
    congr 1
    omega
  have hleft : ∀ k, (2 * k + 2 * m) / (2 * (2 * m)) = (k + m) / (2 * m) := by
    intro k
    rw [← Nat.div_div_eq_div_mul]
    congr 1
    omega
  have hhalf : 2 * m / 2 = m := by omega
  rw [hstep _ (by split <;> omega), hhalf]
  cases hcarry : carries n d with
  | false => simp [hleft]
  | true =>
    rw [if_pos rfl, hleft, succ_step_iff hm q]
    simp

/-- Rounding twice is rounding once, unless the first rounding moves a half. -/
theorem halfUp_halfEven_eq_iff {n d t : Nat} (hd : 0 < d) (ht : t = 1 ∨ t % 2 = 0) (hpos : 0 < t) :
    (2 * halfEven n d + t) / (2 * t) = (2 * n + d * t) / (2 * (d * t)) ↔ movesHalf n d t = false := by
  rw [halfUp_eq hd]
  rcases ht with rfl | heven
  · exact halfUp_halfEven_one_iff
  · obtain ⟨m, rfl⟩ : ∃ m, t = 2 * m := ⟨t / 2, by omega⟩
    exact halfUp_halfEven_even_iff (by omega)

/-! ### Digits -/

/-- How many digits of `c` in base `b` are more than `p`. -/
def excess (b p c : Nat) : Nat := Nat.log b c + 1 - p

/-- The coefficient and the exponent, rounded to `p` digits in base `b`. -/
def toDigits (round : Nat → Nat → Nat) (b p c : Nat) (e : Int) : Nat × Int :=
  (round c (b ^ excess b p c), e + excess b p c)

/-- The value of a coefficient with an exponent. -/
def value (b c : Nat) (e : Int) : ℚ := c * (b : ℚ) ^ e

section

variable {round : Nat → Nat → Nat} {b p c c' : Nat} {e e' : Int}

theorem lt_pow_excess (hb : 1 < b) (p c : Nat) : c < b ^ (p + excess b p c) := by
  have hlog : c < b ^ (Nat.log b c + 1) := Nat.lt_pow_succ_log_self hb c
  exact hlog.trans_le (Nat.pow_le_pow_right (by omega) (by unfold excess; omega))

theorem pow_excess_le (hp : 0 < p) (hx : 0 < excess b p c) : b ^ (p - 1 + excess b p c) ≤ c := by
  unfold excess at hx ⊢
  have hlog : p - 1 + (Nat.log b c + 1 - p) = Nat.log b c := by omega
  rw [hlog]
  refine Nat.pow_log_le_self b fun hzero => ?_
  rw [hzero, Nat.log_zero_right] at hx
  omega

/-- The order of two values on a grid that both have. -/
theorem value_le_iff (hb : 1 < b) (k k' : Nat) (g : Int) (he : e = k + g) (he' : e' = k' + g) :
    value b c e ≤ value b c' e' ↔ c * b ^ k ≤ c' * b ^ k' := by
  have hpos : (0 : ℚ) < b := by exact_mod_cast (by omega : 0 < b)
  unfold value
  rw [he, he', zpow_add₀ hpos.ne', zpow_add₀ hpos.ne', zpow_natCast, zpow_natCast, ← mul_assoc, ← mul_assoc,
    mul_le_mul_iff_left₀ (zpow_pos hpos g)]
  exact_mod_cast Iff.rfl

/-- Rounding to digits is monotone in the value. -/
theorem value_toDigits_le (hround : Lawful round) (hb : 1 < b) (hp : 0 < p) (h : value b c e ≤ value b c' e') :
    value b (toDigits round b p c e).1 (toDigits round b p c e).2 ≤
      value b (toDigits round b p c' e').1 (toDigits round b p c' e').2 := by
  have hbelow := lt_pow_excess hb p c
  have hbelow' := lt_pow_excess hb p c'
  have habove : 0 < excess b p c → _ := pow_excess_le (b := b) (c := c) hp
  have habove' : 0 < excess b p c' → _ := pow_excess_le (b := b) (c := c') hp
  unfold toDigits
  dsimp only
  generalize excess b p c = x at *
  generalize excess b p c' = x' at *
  have hx : 0 < b ^ x := Nat.pow_pos (by omega)
  have hx' : 0 < b ^ x' := Nat.pow_pos (by omega)
  have hupper : round c (b ^ x) ≤ b ^ p := hround.le hx (by rw [← Nat.pow_add]; exact hbelow.le)
  -- by the place of the last digit that is kept
  rcases lt_trichotomy (e + x) (e' + x') with hlt | heq | hgt
  · obtain ⟨k, hk⟩ := Int.le.dest hlt.le
    rw [value_le_iff hb 0 k (e + x) (by simp) (by omega), Nat.pow_zero, Nat.mul_one]
    by_cases hzero : x' = 0
    · -- what is not cut is on the finer grid too
      subst hzero
      rw [Nat.pow_zero, hround.exact_one]
      refine hround.le hx ?_
      rw [Nat.mul_assoc, ← Nat.pow_add]
      rwa [value_le_iff hb 0 (k + x) e (by simp) (by omega), Nat.pow_zero, Nat.mul_one] at h
    · -- a power of the base is between them
      have hlower : b ^ (p - 1) ≤ round c' (b ^ x') :=
        hround.ge hx' (by rw [← Nat.pow_add]; exact habove' (by omega))
      calc round c (b ^ x) ≤ b ^ p := hupper
        _ = b ^ (p - 1) * b ^ 1 := by rw [← Nat.pow_add]; congr 1; omega
        _ ≤ round c' (b ^ x') * b ^ k := Nat.mul_le_mul hlower (Nat.pow_le_pow_right (by omega) (by omega))
  · rw [value_le_iff hb 0 0 (e + x) (by simp) (by omega), Nat.pow_zero, Nat.mul_one, Nat.mul_one]
    refine hround.mono hx hx' ?_
    rwa [value_le_iff hb x' x (e - x') (by omega) (by omega)] at h
  · obtain ⟨k, hk⟩ := Int.le.dest hgt.le
    rw [value_le_iff hb k 0 (e' + x') (by omega) (by simp), Nat.pow_zero, Nat.mul_one]
    by_cases hzero : x = 0
    · subst hzero
      rw [Nat.pow_zero, hround.exact_one]
      refine hround.ge hx' ?_
      rw [Nat.mul_assoc, ← Nat.pow_add]
      rwa [value_le_iff hb (k + x') 0 e' (by omega) (by simp), Nat.pow_zero, Nat.mul_one] at h
    · -- the smaller value cannot be cut at the higher digit
      exfalso
      rw [value_le_iff hb (k + x') x (e' - x) (by omega) (by omega)] at h
      have hlower : b ^ (p - 1 + x) * b ^ (k + x') ≤ c * b ^ (k + x') := Nat.mul_le_mul_right _ (habove (by omega))
      have hstrict : c' * b ^ x < b ^ (p + x') * b ^ x := Nat.mul_lt_mul_of_pos_right hbelow' hx
      have hpow : b ^ (p - 1 + x) * b ^ (k + x') < b ^ (p + x') * b ^ x := (hlower.trans h).trans_lt hstrict
      rw [← Nat.pow_add, ← Nat.pow_add, Nat.pow_lt_pow_iff_right hb] at hpow
      omega

end

end Rounding
