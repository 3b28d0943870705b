import ControlPlane.Billing.LastItems
import ControlPlane.Support.MinorUnits
import Mathlib.Data.Rat.Floor

/-!
# Converted amounts

The conversion of the ERP's amounts to minor units raises for what `Decimal` reads as infinite or not a number and for
results of more than 28 digits, and its product rounds before it does, which can move a half.  What is stored has to fit
a 32-bit column.  An amount is converted as meant, and what is written of it fits, exactly under conditions on its digits
and on the sizes of the amounts.
-/

namespace ControlPlane

open Rounding

/-- Rounding half up, as `ROUND_HALF_UP` does: halves go away from zero. -/
def halfUp (q : ℚ) : Int := if 0 ≤ q then ⌊q + 1 / 2⌋ else -⌊-q + 1 / 2⌋

/-- The value of a finite decimal. -/
def ErpAmount.decimal : ErpAmount → Option ℚ
  | .number negative coefficient exponent =>
    some (if negative then -Rounding.value 10 coefficient exponent else Rounding.value 10 coefficient exponent)
  | _ => none

/-- `_to_minor_units` of the tenant router: no amount where invoice sync has a zero. -/
def routerToMinorUnits : ErpAmount → Except PyError (Option Int)
  | .missing => .ok none
  | .junk => .ok none
  | amount => do return some (← toMinorUnits amount)

/-- Both conversions return, and return a hundred times the value, rounded half up, of a finite decimal. -/
structure ErpAmount.ConvertsRight (amount : ErpAmount) : Prop where
  sync : ∃ units, toMinorUnits amount = .ok units ∧ ∀ v, amount.decimal = some v → units = halfUp (100 * v)
  router : ∃ units, routerToMinorUnits amount = .ok units ∧
    ∀ v, amount.decimal = some v → units = some (halfUp (100 * v))

/-- A hundred times a coefficient with an exponent, rounded half up. -/
def exactUnits (c : Nat) (e : Int) : Nat := divHalfUp (c * 100 * 10 ^ e.toNat) (10 ^ (-e).toNat)

/-- The 28 digits kept of the product lose or make a half. -/
def losesHalf (c : Nat) (e : Int) : Bool :=
  movesHalf (c * 100) (10 ^ excess 10 28 (c * 100)) (10 ^ (-(e + excess 10 28 (c * 100))).toNat)

/-- An amount is a finite decimal, or none, whose minor units have at most 28 digits and are not moved by the rounding
before the rounding. -/
def ErpAmount.Convertible : ErpAmount → Prop
  | .missing => True
  | .junk => True
  | .nan => False
  | .infinite => False
  | .number _ c e => exactUnits c e < decimalLimit ∧ losesHalf c e = false

/-- The exact minor units of an amount. -/
def ErpAmount.units : ErpAmount → Int
  | .number negative c e => if negative then -(exactUnits c e : Int) else exactUnits c e
  | _ => 0

/-! ### Exact minor units -/

theorem exactUnits_eq_floor (c : Nat) (e : Int) :
    ⌊100 * Rounding.value 10 c e + 1 / 2⌋ = (exactUnits c e : Int) := by
  have hvalue : 100 * Rounding.value 10 c e + 1 / 2 =
      ((2 * (c * 100 * 10 ^ e.toNat) + 10 ^ (-e).toNat : Nat) : ℚ) / ((2 * 10 ^ (-e).toNat : Nat) : ℚ) := by
    unfold Rounding.value
    rcases Int.le_total 0 e with he | he
    · obtain ⟨k, rfl⟩ := Int.eq_ofNat_of_zero_le he
      have hzero : (-(k : Int)).toNat = 0 := by omega
      rw [hzero, Int.toNat_natCast, zpow_natCast]
      push_cast
      ring
    · obtain ⟨k, hk⟩ := Int.eq_ofNat_of_zero_le (show 0 ≤ -e by omega)
      have hzero : e.toNat = 0 := by omega
      have hneg : (-e).toNat = k := by omega
      have hpos : (0 : ℚ) < 10 ^ k := by positivity
      rw [hzero, hneg, show e = -(k : Int) by omega, zpow_neg, zpow_natCast]
      push_cast
      field_simp
  rw [hvalue, Rat.floor_natCast_div_natCast]
  rfl

theorem halfUp_hundred (negative : Bool) (c : Nat) (e : Int) {v : ℚ}
    (h : (ErpAmount.number negative c e).decimal = some v) :
    halfUp (100 * v) = (ErpAmount.number negative c e).units := by
  have hnonneg : (0 : ℚ) ≤ Rounding.value 10 c e := by
    unfold Rounding.value
    positivity
  obtain rfl := Option.some.inj h
  unfold halfUp ErpAmount.units
  cases negative with
  | false =>
    simp only [Bool.false_eq_true, if_false]
    rw [if_pos (by positivity), exactUnits_eq_floor]
  | true =>
    simp only [if_true]
    by_cases hzero : Rounding.value 10 c e = 0
    · have hunits := exactUnits_eq_floor c e
      rw [hzero] at hunits ⊢
      norm_num at hunits ⊢
      exact_mod_cast hunits.symm
    · have hpos : (0 : ℚ) < Rounding.value 10 c e := lt_of_le_of_ne hnonneg (Ne.symm hzero)
      rw [if_neg (by linarith)]
      rw [show -(100 * -Rounding.value 10 c e) + 1 / 2 = 100 * Rounding.value 10 c e + 1 / 2 by ring,
        exactUnits_eq_floor]

/-! ### Two roundings -/

private theorem ten_pow_even (k : Nat) : 10 ^ k = 1 ∨ 10 ^ k % 2 = 0 := by
  cases k with
  | zero => exact Or.inl rfl
  | succ k =>
    right
    rw [Nat.pow_succ]
    omega

/-- A product that is cut before the decimal point is too large. -/
private theorem exactUnits_large {c : Nat} {e : Int} (hexcess : 0 < excess 10 28 (c * 100))
    (hpoint : 0 < e + excess 10 28 (c * 100)) : decimalLimit ≤ exactUnits c e := by
  have hlow : 10 ^ (27 + excess 10 28 (c * 100)) ≤ c * 100 := pow_excess_le (by decide) hexcess
  have hd : 0 < 10 ^ (-e).toNat := Nat.pow_pos (by decide)
  refine halfUp_lawful.ge hd ?_
  calc decimalLimit * 10 ^ (-e).toNat = 10 ^ (28 + (-e).toNat) := by rw [Nat.pow_add]; rfl
    _ ≤ 10 ^ (27 + excess 10 28 (c * 100)) * 10 ^ e.toNat := by
      rw [← Nat.pow_add]
      exact Nat.pow_le_pow_right (by decide) (by omega)
    _ ≤ c * 100 * 10 ^ e.toNat := Nat.mul_le_mul_right _ hlow

/-- The minor units are the exact ones, and few enough, exactly if the first rounding moves no half. -/
theorem minorUnits_exact_iff (c : Nat) (e : Int) :
    (minorUnits c e = exactUnits c e ∧ minorUnits c e < decimalLimit) ↔
      exactUnits c e < decimalLimit ∧ losesHalf c e = false := by
  have hpow : ∀ k : Nat, 0 < 10 ^ k := fun k => Nat.pow_pos (by decide)
  by_cases hpoint : e + excess 10 28 (c * 100) ≤ 0
  · have hunits : minorUnits c e = exactUnits c e ↔ losesHalf c e = false := by
      have htwice := @halfUp_halfEven_eq_iff (c * 100) (10 ^ excess 10 28 (c * 100))
        (10 ^ (-(e + excess 10 28 (c * 100))).toNat) (hpow _) (ten_pow_even _) (hpow _)
      have hzero : (e + excess 10 28 (c * 100)).toNat = 0 := by omega
      have hezero : e.toNat = 0 := by omega
      have hexponent : 10 ^ excess 10 28 (c * 100) * 10 ^ (-(e + excess 10 28 (c * 100))).toNat = 10 ^ (-e).toNat := by
        rw [← Nat.pow_add]
        congr 1
        omega
      rw [hexponent] at htwice
      unfold minorUnits exactUnits toDigits divHalfUp losesHalf
      dsimp only
      rw [hzero, hezero, Nat.pow_zero, Nat.mul_one, Nat.mul_one]
      exact htwice
    constructor
    · rintro ⟨hsame, hlimit⟩
      exact ⟨hsame ▸ hlimit, hunits.1 hsame⟩
    · rintro ⟨hlimit, hhalf⟩
      have hsame := hunits.2 hhalf
      exact ⟨hsame, hsame ▸ hlimit⟩
  · by_cases hexcess : excess 10 28 (c * 100) = 0
    · have hsame : minorUnits c e = exactUnits c e := by
        unfold minorUnits exactUnits toDigits
        dsimp only
        rw [hexcess, Nat.pow_zero, halfEven_lawful.exact_one]
        simp
      have hhalf : losesHalf c e = false := by
        unfold losesHalf movesHalf
        rw [hexcess, show (-(e + ((0 : Nat) : Int))).toNat = 0 by omega]
        simp [Nat.mod_one]
      rw [hsame, hhalf]
      simp
    · have hlarge := exactUnits_large (c := c) (e := e) (by omega) (by omega)
      constructor
      · rintro ⟨hsame, hlimit⟩
        omega
      · rintro ⟨hlimit, -⟩
        omega

/-- The two conversions do what they are meant to exactly for a convertible amount. -/
theorem convertsRight_iff (amount : ErpAmount) : amount.ConvertsRight ↔ amount.Convertible := by
  cases amount with
  | missing => exact ⟨fun _ => trivial, fun _ => ⟨⟨0, rfl, fun v h => by cases h⟩, ⟨none, rfl, fun v h => by cases h⟩⟩⟩
  | junk => exact ⟨fun _ => trivial, fun _ => ⟨⟨0, rfl, fun v h => by cases h⟩, ⟨none, rfl, fun v h => by cases h⟩⟩⟩
  | nan =>
    refine ⟨fun h => ?_, fun h => h.elim⟩
    obtain ⟨units, hunits, -⟩ := h.sync
    cases hunits
  | infinite =>
    refine ⟨fun h => ?_, fun h => h.elim⟩
    obtain ⟨units, hunits, -⟩ := h.sync
    cases hunits
  | number negative c e =>
    have hhundred : ∀ v, (ErpAmount.number negative c e).decimal = some v →
        halfUp (100 * v) = (ErpAmount.number negative c e).units := fun v => halfUp_hundred negative c e
    show _ ↔ exactUnits c e < decimalLimit ∧ losesHalf c e = false
    rw [← minorUnits_exact_iff]
    constructor
    · intro h
      obtain ⟨units, hunits, hright⟩ := h.sync
      have hexact := (hright _ rfl).trans (hhundred _ rfl)
      rw [toMinorUnits_number] at hunits
      split at hunits
      · rename_i hlimit
        have hsigned : (if negative then -(minorUnits c e : Int) else minorUnits c e) =
            if negative then -(exactUnits c e : Int) else exactUnits c e := (Except.ok.inj hunits).trans hexact
        refine ⟨?_, hlimit⟩
        cases negative with
        | false => exact Int.ofNat_inj.1 hsigned
        | true => exact Int.ofNat_inj.1 (Int.neg_inj.1 hsigned)
      · cases hunits
    · rintro ⟨hsame, hlimit⟩
      have hunits : toMinorUnits (.number negative c e) = .ok (ErpAmount.number negative c e).units := by
        rw [toMinorUnits_number, if_pos hlimit, hsame]
        rfl
      refine ⟨⟨_, hunits, fun v hv => (hhundred v hv).symm⟩, ⟨some (ErpAmount.number negative c e).units, ?_, ?_⟩⟩
      · show (do return some (← toMinorUnits (.number negative c e))) = _
        rw [hunits]
        rfl
      · exact fun v hv => congrArg some (hhundred v hv).symm

theorem toMinorUnits_of_convertible {amount : ErpAmount} (h : amount.Convertible) :
    toMinorUnits amount = .ok amount.units := by
  cases amount with
  | missing => rfl
  | junk => rfl
  | nan => exact h.elim
  | infinite => exact h.elim
  | number negative c e =>
    obtain ⟨hsame, hlimit⟩ := (minorUnits_exact_iff c e).2 h
    rw [toMinorUnits_number, if_pos hlimit, hsame]
    rfl

/-! ### What is written -/

/-- An amount fits a 32-bit column. -/
def FitsColumn (amount : Int) : Prop := -2147483648 ≤ amount ∧ amount ≤ 2147483647

/-- What an item with convertible amounts says was paid. -/
def ErpItem.paidUnits (item : ErpItem) : Int :=
  if item.grandTotal.units ≠ 0 then max (item.grandTotal.units - item.outstandingAmount.units) 0
  else item.paidAmount.units

/-- The amounts of an item are converted as meant, and those that are filed fit their columns. -/
structure ErpItem.AmountsRight (item : ErpItem) : Prop where
  outstanding : item.outstandingAmount.ConvertsRight
  total : item.grandTotal.ConvertsRight
  paid : item.paidAmount.ConvertsRight
  written : ∀ flushed db tenant account now invoice db',
    upsertBillingInvoiceFromErpItem flushed db tenant account item now = .ok (invoice, db') →
    FitsColumn invoice.amountDue ∧ FitsColumn invoice.amountPaid

/-- The later writes of an invoice's amounts fit: into a new attempt, and by its settlement with an attempt's amount. -/
structure LaterWritesFit (row : BillingInvoice) (amount : Int) : Prop where
  attempt : ∀ db tenant checkout now, FitsColumn (newPaymentAttempt db tenant row checkout now).amount
  settled : ∀ now, FitsColumn (settleInvoiceLocally row amount now).amountDue ∧
    FitsColumn (settleInvoiceLocally row amount now).amountPaid

theorem ErpItem.amounts_of_convertible {item : ErpItem} (houtstanding : item.outstandingAmount.Convertible)
    (htotal : item.grandTotal.Convertible) (hpaid : item.paidAmount.Convertible) :
    item.amounts = .ok (item.outstandingAmount.units, item.paidUnits) := by
  have hamountPaid : item.amountPaid item.grandTotal.units item.outstandingAmount.units = .ok item.paidUnits := by
    unfold ErpItem.amountPaid ErpItem.paidUnits
    split
    · rfl
    · exact toMinorUnits_of_convertible hpaid
  unfold ErpItem.amounts
  rw [toMinorUnits_of_convertible houtstanding, toMinorUnits_of_convertible htotal]
  dsimp only [Bind.bind, Except.bind]
  rw [hamountPaid]
  rfl

theorem upsertBillingInvoiceFromErpItem_amounts {flushed : List BillingInvoice} {db db' : Db} {tenant : Tenant}
    {account : BillingAccount} {item : ErpItem} {now : Time} {invoice : BillingInvoice}
    (h : upsertBillingInvoiceFromErpItem flushed db tenant account item now = .ok (invoice, db')) :
    item.amounts = .ok (invoice.amountDue, invoice.amountPaid) := by
  unfold upsertBillingInvoiceFromErpItem at h
  split at h
  · cases h
  generalize findOrAddInvoice flushed db tenant account item.reference now = p at h
  obtain ⟨db₁, found⟩ := p
  obtain ⟨due, hdue, h⟩ := bind_eq_ok.1 h
  obtain ⟨total, htotal, h⟩ := bind_eq_ok.1 h
  obtain ⟨paid, hpaid, h⟩ := bind_eq_ok.1 h
  cases h
  unfold ErpItem.amounts
  rw [hdue, htotal]
  dsimp only [Bind.bind, Except.bind]
  rw [hpaid]
  rfl

theorem ErpItem.amountsRight_iff (item : ErpItem) :
    item.AmountsRight ↔
      (item.outstandingAmount.Convertible ∧ item.grandTotal.Convertible ∧ item.paidAmount.Convertible) ∧
        (item.reference ≠ "" → FitsColumn item.outstandingAmount.units ∧ FitsColumn item.paidUnits) := by
  constructor
  · intro h
    have houtstanding := (convertsRight_iff _).1 h.outstanding
    have htotal := (convertsRight_iff _).1 h.total
    have hpaid := (convertsRight_iff _).1 h.paid
    have hamounts := ErpItem.amounts_of_convertible houtstanding htotal hpaid
    refine ⟨⟨houtstanding, htotal, hpaid⟩, fun hreference => ?_⟩
    -- an item with a reference and amounts is filed, for whichever tenant it is
    let tenant : Tenant := ⟨1, 1, none, "", "", "", "", .active, "", none, none, none, 0⟩
    let account : BillingAccount := ⟨1, 1, none, none, "TZS", "linked"⟩
    obtain ⟨⟨invoice, db'⟩, hupsert⟩ :=
      (@upsertBillingInvoiceFromErpItem_isOk [] Db.empty tenant account 0 item).2 ⟨hreference, _, hamounts⟩
    have hsame := (upsertBillingInvoiceFromErpItem_amounts hupsert).symm.trans hamounts
    obtain ⟨hdue, hpaidUnits⟩ := Prod.mk.inj (Except.ok.inj hsame)
    rw [← hdue, ← hpaidUnits]
    exact h.written _ _ _ _ _ _ _ hupsert
  · rintro ⟨⟨houtstanding, htotal, hpaid⟩, hfits⟩
    refine ⟨(convertsRight_iff _).2 houtstanding, (convertsRight_iff _).2 htotal, (convertsRight_iff _).2 hpaid, ?_⟩
    intro flushed db tenant account now invoice db' hupsert
    have hreference := (upsertBillingInvoiceFromErpItem_isOk.1 ⟨_, hupsert⟩).1
    have hsame := (upsertBillingInvoiceFromErpItem_amounts hupsert).symm.trans
      (ErpItem.amounts_of_convertible houtstanding htotal hpaid)
    obtain ⟨hdue, hpaidUnits⟩ := Prod.mk.inj (Except.ok.inj hsame)
    rw [hdue, hpaidUnits]
    exact hfits hreference

theorem laterWritesFit_iff {row : BillingInvoice} {amount : Int} (hdue : FitsColumn row.amountDue)
    (hpaid : FitsColumn row.amountPaid) :
    LaterWritesFit row amount ↔ row.amountPaid + max amount row.amountDue ≤ 2147483647 := by
  have hsettled : ∀ now, (settleInvoiceLocally row amount now).amountPaid =
      max row.amountPaid (row.amountPaid + max amount row.amountDue) := fun now => rfl
  unfold FitsColumn at hdue hpaid
  constructor
  · intro h
    have hfits := (h.settled 0).2
    rw [hsettled] at hfits
    unfold FitsColumn at hfits
    omega
  · intro h
    refine ⟨fun _ _ _ _ => hdue, fun now => ⟨?_, ?_⟩⟩
    · show FitsColumn 0
      unfold FitsColumn
      omega
    · rw [hsettled]
      unfold FitsColumn
      omega

/-- The amounts of an item are converted as meant and filed in range, and the later writes of a stored invoice's amounts
are in range, exactly if the item's amounts are convertible, those it is filed with fit, and so does what a settlement
adds to what was paid. -/
theorem amounts_right_iff (item : ErpItem) {row : BillingInvoice} (amount : Int)
    (hdue : FitsColumn row.amountDue) (hpaid : FitsColumn row.amountPaid) :
    (item.AmountsRight ∧ LaterWritesFit row amount) ↔
      ((item.outstandingAmount.Convertible ∧ item.grandTotal.Convertible ∧ item.paidAmount.Convertible) ∧
        (item.reference ≠ "" → FitsColumn item.outstandingAmount.units ∧ FitsColumn item.paidUnits)) ∧
        row.amountPaid + max amount row.amountDue ≤ 2147483647 :=
  and_congr item.amountsRight_iff (laterWritesFit_iff hdue hpaid)

namespace Small

/-- An item of the ERP over 25,000,000, of which nothing is paid. -/
def largeItem : ErpItem :=
  { openItem with outstandingAmount := .number false 25000000 0, grandTotal := .number false 25000000 0 }

end Small

theorem open_item_right :
    (Small.openItem.AmountsRight ∧ LaterWritesFit Small.invoice 5000) ↔
      ((Small.openItem.outstandingAmount.Convertible ∧ Small.openItem.grandTotal.Convertible ∧
          Small.openItem.paidAmount.Convertible) ∧
        (Small.openItem.reference ≠ "" →
          FitsColumn Small.openItem.outstandingAmount.units ∧ FitsColumn Small.openItem.paidUnits)) ∧
        Small.invoice.amountPaid + max 5000 Small.invoice.amountDue ≤ 2147483647 :=
  amounts_right_iff Small.openItem 5000 ⟨by decide, by decide⟩ ⟨by decide, by decide⟩

/-- `NaN` is not converted, and 25,000,000 does not fit in minor units. -/
theorem amounts_go_wrong : (¬∀ amount : ErpAmount, amount.ConvertsRight) ∧ ¬∀ item : ErpItem,
    item.outstandingAmount.ConvertsRight → item.grandTotal.ConvertsRight → item.paidAmount.ConvertsRight →
    item.AmountsRight := by
  constructor
  · intro h
    exact (convertsRight_iff .nan).1 (h .nan)
  · intro h
    have hlarge : (ErpAmount.number false 25000000 0).Convertible :=
      ⟨by decide +kernel, by decide +kernel⟩
    have hright := h Small.largeItem ((convertsRight_iff _).2 hlarge) ((convertsRight_iff _).2 hlarge)
      ((convertsRight_iff _).2 trivial)
    have hfits := (Small.largeItem.amountsRight_iff.1 hright).2 (by decide)
    exact absurd hfits.1.2 (by decide)

end ControlPlane
