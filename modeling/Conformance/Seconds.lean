import Conformance.Number.Decimal
import Conformance.Value

/-!
# Seconds

Clock readings and time budgets are given as whole numbers or as double-precision numbers. They
are compared exactly; a sum is exact if both are whole and is otherwise rounded once. A whole
number beyond the double-precision range cannot be mixed with a fraction.
-/

set_option autoImplicit false

namespace Conformance

/-- An amount of time in seconds. -/
inductive Seconds where
  | whole (n : Int)
  | fraction (x : Binary64)
  deriving DecidableEq

namespace Seconds

/-- Where an amount stands on the line; what is not a number stands nowhere. -/
def point? : Seconds → Option LinePoint
  | .whole n => some (.at (n * Int.pow 2 1074))
  | .fraction x => x.point?

/-- Strict comparison; false if one side is not a number. -/
def lt (a b : Seconds) : Bool :=
  match a.point?, b.point? with
  | some p, some q => p.lt q
  | _, _ => false

/-- Whether an amount is at most zero; what is not a number is not. -/
def isAtMostZero (a : Seconds) : Bool :=
  match a.point? with
  | some p => !LinePoint.lt (.at 0) p
  | none => false

/-- The nearest double-precision number, unless the amount is beyond their range. -/
def binary64? : Seconds → Option Binary64
  | .fraction x => some x
  | .whole n =>
    match Binary64.ofInt n with
    | .infinite _ => none
    | x => some x

/-- The sum, if both amounts can be brought to one form. -/
def add? : Seconds → Seconds → Option Seconds
  | .whole m, .whole n => some (.whole (m + n))
  | a, b => do
    let x ← a.binary64?
    let y ← b.binary64?
    return .fraction (x.add y)

/-- The amount as a value. -/
def toValue : Seconds → Value
  | .whole n => .int n
  | .fraction x => .float x

/-- The amount with all its digits. -/
def text (s : Seconds) : String := s.toValue.quoted

/-- The amount to six significant digits. -/
def briefText? (s : Seconds) : Option String := s.binary64?.map Binary64.briefText

/-- The amount that a value gives. -/
def ofValue? : Value → Option Seconds
  | .int n => some (.whole n)
  | .float x => some (.fraction x)
  | _ => none

end Seconds

end Conformance
