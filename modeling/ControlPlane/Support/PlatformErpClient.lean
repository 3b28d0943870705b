import ControlPlane.Basic
import Mathlib.Data.Nat.Log
import Mathlib.Algebra.Ring.Nat

/-!
# The platform ERP as the control plane sees it

The ERP is a service outside the repository: `PlatformErpClient` is what its client answers, as data.  The invoice
items it returns are JSON objects; `ErpItem` holds the fields the code reads, amounts and dates as `Decimal` and
`datetime.fromisoformat` read them.
-/

namespace ControlPlane

/-- An amount field of an ERP item, as `Decimal(str(value))` reads it. -/
inductive ErpAmount where
  | missing
  | junk
  | nan
  | infinite
  | number (negative : Bool) (coefficient : Nat) (exponent : Int)
  deriving DecidableEq, Repr

/-- A date field of an ERP item: absent or empty, present but not a date, or an instant. -/
inductive ErpDate where
  | missing
  | unparsable
  | at (time : Time)
  deriving DecidableEq, Repr

/-- The fields of an ERP sales invoice the code reads. -/
structure ErpItem where
  name : Option String
  invoiceNumber : Option String
  invoice : Option String
  status : Option String
  outstandingAmount : ErpAmount
  grandTotal : ErpAmount
  paidAmount : ErpAmount
  currency : Option String
  dueDate : ErpDate
  postingDate : ErpDate
  paidAt : ErpDate
  deriving DecidableEq, Repr

/-- The empty object, which `get_invoice` returns when the ERP's answer has no data. -/
def ErpItem.empty : ErpItem :=
  ⟨none, none, none, none, .missing, .missing, .missing, none, .missing, .missing, .missing⟩

/-- `_parse_datetime`. -/
def ErpDate.parse : ErpDate → Option Time
  | .at time => some time
  | _ => none

/-- A present value, parsable or not, is truthy. -/
def ErpDate.truthy : ErpDate → Bool
  | .missing => false
  | _ => true

/-- The largest coefficient a `Decimal` result may have in the default context has 28 digits. -/
def decimalLimit : Nat := 10 ^ 28

/-- Divide, rounding half up. -/
def divHalfUp (n d : Nat) : Nat := (2 * n + d) / (2 * d)

/-- Divide, rounding half to even. -/
def divHalfEven (n d : Nat) : Nat :=
  let q := n / d
  let r := n % d
  if 2 * r < d then q else if d < 2 * r then q + 1 else if q % 2 = 0 then q else q + 1

/-- A coefficient cut to 28 digits, as a `Decimal` product is. -/
def roundToPrecision (coefficient : Nat) (exponent : Int) : Nat × Int :=
  if coefficient < decimalLimit then
    (coefficient, exponent)
  else
    let excess := Nat.log 10 coefficient + 1 - 28
    (divHalfEven coefficient (10 ^ excess), exponent + excess)

/-- `_to_minor_units`: a hundred times the amount, rounded half up to an integer.  A value that is no number counts as
zero, but a value `Decimal` reads as infinite or not-a-number raises, as does a result of more than 28 digits. -/
def toMinorUnits : ErpAmount → Except PyError Int
  | .missing => .ok 0
  | .junk => .ok 0
  | .nan => .error (.valueError "cannot convert NaN to integer")
  | .infinite => .error .decimalError
  | .number negative coefficient exponent =>
    let (c, e) := roundToPrecision (coefficient * 100) exponent
    let units := if 0 ≤ e then c * 10 ^ e.toNat else divHalfUp c (10 ^ (-e).toNat)
    if units < decimalLimit then .ok (if negative then -units else units) else .error .decimalError

/-- What the client of the platform ERP answers. -/
structure PlatformErpClient where
  isConfigured : Bool
  listInvoices : String → Nat → Except PyError (List ErpItem)
  getInvoice : String → Except PyError ErpItem
  runtimeExists : String → Bool

end ControlPlane
