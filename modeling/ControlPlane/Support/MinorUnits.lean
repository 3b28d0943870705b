import ControlPlane.Base.Rounding
import ControlPlane.Support.PlatformErpClient

/-!
# Amounts in minor units

`_to_minor_units` rounds twice: the product with a hundred to 28 digits, half to even, and the product to an integer, half
up.  Both roundings are monotone, so amounts that are no less than zero keep their order in minor units.
-/

namespace ControlPlane

open Rounding

/-- What an amount is worth, if it is finite; a value that is no number is read as zero. -/
def ErpAmount.value : ErpAmount → Option ℚ
  | .missing => some 0
  | .junk => some 0
  | .nan => none
  | .infinite => none
  | .number negative coefficient exponent =>
    some (if negative then -Rounding.value 10 coefficient exponent else Rounding.value 10 coefficient exponent)

theorem roundToPrecision_eq (coefficient : Nat) (exponent : Int) :
    roundToPrecision coefficient exponent = toDigits halfEven 10 28 coefficient exponent := by
  unfold roundToPrecision toDigits
  split
  · rename_i hlimit
    have hlog : Nat.log 10 coefficient < 28 := Nat.log_lt_of_lt_pow' (by decide) hlimit
    have hexcess : excess 10 28 coefficient = 0 := by unfold excess; omega
    rw [hexcess, Nat.pow_zero, halfEven_lawful.exact_one]
    simp
  · rfl

/-- The minor units of an amount that is not negative. -/
def minorUnits (coefficient : Nat) (exponent : Int) : Nat :=
  let rounded := toDigits halfEven 10 28 (coefficient * 100) exponent
  divHalfUp (rounded.1 * 10 ^ rounded.2.toNat) (10 ^ (-rounded.2).toNat)

theorem toMinorUnits_number (negative : Bool) (coefficient : Nat) (exponent : Int) :
    toMinorUnits (.number negative coefficient exponent) =
      if minorUnits coefficient exponent < decimalLimit then
        .ok (if negative then -(minorUnits coefficient exponent : Int) else minorUnits coefficient exponent)
      else
        .error .decimalError := by
  have hunits : (if 0 ≤ (roundToPrecision (coefficient * 100) exponent).2 then
        (roundToPrecision (coefficient * 100) exponent).1 * 10 ^ (roundToPrecision (coefficient * 100) exponent).2.toNat
      else
        divHalfUp (roundToPrecision (coefficient * 100) exponent).1
          (10 ^ (-(roundToPrecision (coefficient * 100) exponent).2).toNat)) = minorUnits coefficient exponent := by
    unfold minorUnits
    rw [roundToPrecision_eq]
    generalize toDigits halfEven 10 28 (coefficient * 100) exponent = rounded
    obtain ⟨c, e⟩ := rounded
    dsimp only
    split
    · rename_i he
      have hnat : (-e).toNat = 0 := by omega
      rw [hnat, Nat.pow_zero]
      exact (halfUp_lawful.exact_one _).symm
    · rename_i he
      have hnat : e.toNat = 0 := by omega
      rw [hnat, Nat.pow_zero, Nat.mul_one]
  rw [← hunits]
  rfl

theorem minorUnits_zero (exponent : Int) : minorUnits 0 exponent = 0 := by
  have hrounded : (toDigits halfEven 10 28 (0 * 100) exponent).1 = 0 := by
    show halfEven (0 * 100) (10 ^ excess 10 28 (0 * 100)) = 0
    exact Nat.le_zero.1 (halfEven_lawful.le (Nat.pow_pos (by decide)) (by simp))
  unfold minorUnits
  dsimp only
  rw [hrounded, Nat.zero_mul]
  exact Nat.le_zero.1 (halfUp_lawful.le (Nat.pow_pos (by decide)) (by simp))

theorem minorUnits_le {c c' : Nat} {e e' : Int} (h : Rounding.value 10 c e ≤ Rounding.value 10 c' e') :
    minorUnits c e ≤ minorUnits c' e' := by
  have hcents : Rounding.value 10 (c * 100) e ≤ Rounding.value 10 (c' * 100) e' := by
    unfold Rounding.value at h ⊢
    push_cast
    rw [mul_right_comm, mul_right_comm (c' : ℚ)]
    exact mul_le_mul_of_nonneg_right h (by norm_num)
  have hdigits := value_toDigits_le halfEven_lawful (by decide : 1 < 10) (by decide : 0 < 28) hcents
  unfold minorUnits
  generalize toDigits halfEven 10 28 (c * 100) e = rounded at hdigits ⊢
  generalize toDigits halfEven 10 28 (c' * 100) e' = rounded' at hdigits ⊢
  obtain ⟨n, g⟩ := rounded
  obtain ⟨n', g'⟩ := rounded'
  dsimp only at hdigits ⊢
  refine halfUp_lawful.mono (Nat.pow_pos (by decide)) (Nat.pow_pos (by decide)) ?_
  rw [Nat.mul_assoc, Nat.mul_assoc, ← Nat.pow_add, ← Nat.pow_add]
  exact (value_le_iff (by decide) _ _ (-((-g).toNat + (-g').toNat : Nat)) (by omega) (by omega)).1 hdigits

/-- An amount that is not negative, as a coefficient and an exponent. -/
theorem ErpAmount.of_value_nonneg {amount : ErpAmount} {v : ℚ} (hvalue : amount.value = some v) (hv : 0 ≤ v) :
    ∃ c e, v = Rounding.value 10 c e ∧ ∀ units, toMinorUnits amount = .ok units → units = minorUnits c e := by
  have hzero : ∀ e, (0 : ℚ) = Rounding.value 10 0 e := fun e => by simp [Rounding.value]
  cases amount with
  | missing =>
    cases hvalue
    exact ⟨0, 0, hzero 0, fun units h => by cases h; rw [minorUnits_zero]; rfl⟩
  | junk =>
    cases hvalue
    exact ⟨0, 0, hzero 0, fun units h => by cases h; rw [minorUnits_zero]; rfl⟩
  | nan => cases hvalue
  | infinite => cases hvalue
  | number negative c e =>
    have hunits : ∀ units, toMinorUnits (.number negative c e) = .ok units →
        units = if negative then -(minorUnits c e : Int) else minorUnits c e := by
      intro units h
      rw [toMinorUnits_number] at h
      split at h
      · exact (Except.ok.inj h).symm
      · cases h
    cases negative with
    | false => exact ⟨c, e, (Option.some.inj hvalue).symm, fun units h => hunits units h⟩
    | true =>
      have hneg : -Rounding.value 10 c e = v := Option.some.inj hvalue
      have hpos : (0 : ℚ) < (10 : ℚ) ^ e := zpow_pos (by norm_num) e
      have hcoefficient : c = 0 := by
        by_contra hne
        have hc : (0 : ℚ) < c := by exact_mod_cast Nat.pos_of_ne_zero hne
        have hprod := mul_pos hc hpos
        unfold Rounding.value at hneg
        push_cast at hneg
        linarith
      subst hcoefficient
      refine ⟨0, e, ?_, fun units h => ?_⟩
      · rw [← hneg, ← hzero e, neg_zero]
      · rw [hunits units h, minorUnits_zero]
        rfl

/-- Amounts that are no less than zero keep their order. -/
theorem toMinorUnits_le {a b : ErpAmount} {v w : ℚ} {x y : Int} (ha : a.value = some v) (hb : b.value = some w)
    (hv : 0 ≤ v) (hle : v ≤ w) (hx : toMinorUnits a = .ok x) (hy : toMinorUnits b = .ok y) : 0 ≤ x ∧ x ≤ y := by
  obtain ⟨c, e, hvalue, hunits⟩ := ErpAmount.of_value_nonneg ha hv
  obtain ⟨c', e', hvalue', hunits'⟩ := ErpAmount.of_value_nonneg hb (hv.trans hle)
  rw [hunits x hx, hunits' y hy]
  refine ⟨Int.natCast_nonneg _, ?_⟩
  rw [hvalue, hvalue'] at hle
  exact_mod_cast minorUnits_le hle

end ControlPlane
