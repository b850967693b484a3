import Conformance.Number.Binary64

/-!
# Decimal text of numbers

Two decimals are taken from a double-precision number: the shortest one that reads back as the
number, the nearest of these, and the one rounded to six significant digits. Both are laid out by
the same function, under a style that says where positional notation ends.
-/

set_option autoImplicit false

namespace Conformance

/-- The decimal `digits * 10 ^ exponent`. -/
structure Decimal where
  digits : Nat
  exponent : Int
  deriving DecidableEq

namespace Decimal

/-- Number of decimal digits of a whole number. -/
def digitCount (n : Nat) : Nat := (Nat.toDigits 10 n).length

/-- The `k` with `10 ^ (k - 1) ≤ n / d < 10 ^ k`, for positive `n` and `d`. -/
def decimalOrder (n d : Nat) : Int :=
  let guess : Int := (digitCount n : Int) - (digitCount d : Int)
  let below :=
    if 0 ≤ guess then n < d * Nat.pow 10 guess.toNat
    else n * Nat.pow 10 (-guess).toNat < d
  if below then guess else guess + 1

/-- A positive value `middle / den` with the interval of reals that round to it; the ends belong
to the interval if `closed`. -/
structure RoundingInterval where
  low : Nat
  middle : Nat
  high : Nat
  den : Nat
  closed : Bool

/-- The interval of the finite number `significand * 2 ^ exponent`. The gap below a power of two
is half as wide, except at the least exponent. -/
def RoundingInterval.ofFinite (significand : Nat) (exponent : Int) : RoundingInterval :=
  let gap := if significand = Nat.pow 2 52 ∧ Binary64.leastExponent < exponent then 1 else 2
  let scale := Nat.pow 2 (exponent - 2).toNat
  { low := (4 * significand - gap) * scale
    middle := 4 * significand * scale
    high := (4 * significand + 2) * scale
    den := Nat.pow 2 (2 - exponent).toNat
    closed := significand % 2 == 0 }

/-- The multiple of `10 ^ exponent` that lies in the interval and is nearest to its middle; of two
equally near the even one. -/
def RoundingInterval.onGrid? (i : RoundingInterval) (exponent : Int) : Option Decimal :=
  let up := Nat.pow 10 (-exponent).toNat
  let step := i.den * Nat.pow 10 exponent.toNat
  let inside (c : Nat) : Bool :=
    if i.closed then i.low * up ≤ c * step && c * step ≤ i.high * up
    else i.low * up < c * step && c * step < i.high * up
  -- if any multiple lies in the interval, one of the two around its middle does
  let below := i.middle * up / step
  let above := below + 1
  match inside below, inside above with
  | true, true =>
    some ⟨Binary64.roundDiv (i.middle * up) step, exponent⟩
  | true, false => some ⟨below, exponent⟩
  | false, true => some ⟨above, exponent⟩
  | false, false => none

/-- The grids with 1, 2, … significant digits, tried in turn; 17 digits always suffice. -/
def shortest (significand : Nat) (exponent : Int) : Decimal :=
  let interval := RoundingInterval.ofFinite significand exponent
  let order := decimalOrder interval.middle interval.den
  ((List.range 17).findSome? fun (n : Nat) =>
    interval.onGrid? (order - (n + 1 : Nat))).getD ⟨0, 0⟩

/-- Rounded to `count` significant digits, a tie to the even digit. -/
def rounded (count : Nat) (significand : Nat) (exponent : Int) : Decimal :=
  let n := significand * Nat.pow 2 exponent.toNat
  let d := Nat.pow 2 (-exponent).toNat
  let place := decimalOrder n d - count
  ⟨Binary64.roundDiv (n * Nat.pow 10 (-place).toNat) (d * Nat.pow 10 place.toNat), place⟩

/-- How a decimal is laid out. Positional notation is used if the exponent of the first digit is
at least `-4` and below `positionalBelow`; there a whole number ends in `wholeMark`. -/
structure Style where
  positionalBelow : Int
  wholeMark : String

/-- Digits without the zeros at the end. -/
def withoutTrailingZeros (digits : List Char) : List Char :=
  (digits.reverse.dropWhile (· == '0')).reverse

/-- Exponents have a sign and at least two digits. -/
def exponentText (e : Int) : String :=
  let digits := toString e.natAbs
  (if e < 0 then "e-" else "e+") ++ (if digits.length < 2 then "0" ++ digits else digits)

/-- The text of a positive decimal. -/
def layout (style : Style) (d : Decimal) : String :=
  let all := Nat.toDigits 10 d.digits
  let first : Int := d.exponent + all.length - 1
  let digits := withoutTrailingZeros all
  if -4 ≤ first ∧ first < style.positionalBelow then
    if first < 0 then
      "0." ++ String.ofList (List.replicate (-first - 1).toNat '0' ++ digits)
    else
      let whole := first.toNat + 1
      if digits.length ≤ whole then
        String.ofList (digits ++ List.replicate (whole - digits.length) '0') ++ style.wholeMark
      else
        String.ofList (digits.take whole ++ '.' :: digits.drop whole)
  else
    let fraction := digits.drop 1
    String.ofList (digits.take 1 ++ (if fraction.isEmpty then [] else '.' :: fraction)) ++
      exponentText first

end Decimal

namespace Binary64

/-- Values are written with the fewest digits that read back, positionally below `10 ^ 16`, and
whole numbers keep a zero after the point. -/
def plainStyle : Decimal.Style := ⟨16, ".0"⟩

/-- Durations are written with six significant digits, positionally below `10 ^ 6`, and whole
numbers bare. -/
def briefStyle : Decimal.Style := ⟨6, ""⟩

/-- The text of a number whose finite non-zero size is written as `decimal` says. -/
def textWith (style : Decimal.Style) (decimal : Nat → Int → Decimal) : Binary64 → String
  | .nan => "nan"
  | .infinite negative => if negative then "-inf" else "inf"
  | .finite negative significand exponent =>
    let size :=
      if significand = 0 then "0" ++ style.wholeMark
      else (decimal significand exponent).layout style
    if negative then "-" ++ size else size

/-- The shortest text that reads back as the number. -/
def text (x : Binary64) : String := x.textWith plainStyle Decimal.shortest

/-- The number to six significant digits. -/
def briefText (x : Binary64) : String := x.textWith briefStyle (Decimal.rounded 6)

end Binary64

end Conformance
