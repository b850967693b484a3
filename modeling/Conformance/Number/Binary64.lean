/-!
# Double-precision numbers

A double-precision number is held by its fields and every operation is exact integer arithmetic
followed by one rounding. The unit is `2 ^ (-1074)`, the least positive number of the format: every
finite number is a whole number of units, so sums and comparisons are those of integers.
-/

set_option autoImplicit false

namespace Conformance

/-- A number of the double-precision format. A finite one is `± significand * 2 ^ exponent`. -/
inductive Binary64 where
  | nan
  | infinite (negative : Bool)
  | finite (negative : Bool) (significand : Nat) (exponent : Int)
  deriving DecidableEq

namespace Binary64

/-- Exponent of the unit. -/
def leastExponent : Int := -1074

/-- Largest exponent of a finite number whose significand has 53 binary digits. -/
def greatestExponent : Int := 971

/-- Zero, with a sign. -/
def zero (negative : Bool) : Binary64 := .finite negative 0 leastExponent

/-- `n / d` to the nearest whole number, a half to the even neighbour. -/
def roundDiv (n d : Nat) : Nat :=
  let quotient := n / d
  let rest := n % d
  if 2 * rest < d then quotient
  else if d < 2 * rest then quotient + 1
  else quotient + quotient % 2

/-- The least `e` with `n / d < 2 ^ (e + 1)`, for positive `n` and `d`. -/
def binaryOrder (n d : Nat) : Int :=
  let guess : Int := (Nat.log2 n : Int) - (Nat.log2 d : Int)
  let below :=
    if 0 ≤ guess then n < d * Nat.pow 2 guess.toNat
    else n * Nat.pow 2 (-guess).toNat < d
  if below then guess - 1 else guess

/-- The number nearest to `± n / d`, a tie to the even significand; too large a value becomes an
infinity. -/
def ofRatio (negative : Bool) (n d : Nat) : Binary64 :=
  if n = 0 then zero negative
  else
    let exponent := max (binaryOrder n d - 52) leastExponent
    let significand :=
      if 0 ≤ exponent then roundDiv n (d * Nat.pow 2 exponent.toNat)
      else roundDiv (n * Nat.pow 2 (-exponent).toNat) d
    -- rounding up may carry into a digit more
    let (significand, exponent) :=
      if significand = Nat.pow 2 53 then (Nat.pow 2 52, exponent + 1) else (significand, exponent)
    if greatestExponent < exponent then .infinite negative
    else .finite negative significand exponent

/-- The number nearest to `n`. -/
def ofInt (n : Int) : Binary64 := ofRatio (n < 0) n.natAbs 1

/-- A finite number as a whole number of units. -/
def units (negative : Bool) (significand : Nat) (exponent : Int) : Int :=
  let size : Int := (significand * Nat.pow 2 (exponent - leastExponent).toNat : Nat)
  if negative then -size else size

/-- The number nearest to a whole number of units. -/
def ofUnits (n : Int) : Binary64 := ofRatio (n < 0) n.natAbs (Nat.pow 2 1074)

/-- The sum, rounded to nearest. -/
def add : Binary64 → Binary64 → Binary64
  | .nan, _ => .nan
  | _, .nan => .nan
  | .infinite a, .infinite b => if a = b then .infinite a else .nan
  | .infinite a, _ => .infinite a
  | _, .infinite b => .infinite b
  | .finite a m e, .finite b n f => ofUnits (units a m e + units b n f)

end Binary64

/-- A place on the line of numbers with both infinities, in units of `2 ^ (-1074)`. -/
inductive LinePoint where
  | negativeEnd
  | at (units : Int)
  | positiveEnd
  deriving DecidableEq

namespace LinePoint

/-- Strict order of the line. -/
def lt : LinePoint → LinePoint → Bool
  | .negativeEnd, .negativeEnd => false
  | .negativeEnd, _ => true
  | .at a, .at b => a < b
  | .at _, .positiveEnd => true
  | _, _ => false

end LinePoint

/-- Where a number stands; the one that is not a number stands nowhere. -/
def Binary64.point? : Binary64 → Option LinePoint
  | .nan => none
  | .infinite negative => some (if negative then .negativeEnd else .positiveEnd)
  | .finite negative significand exponent =>
    some (.at (units negative significand exponent))

end Conformance
