import Conformance.Number.Binary64
import Conformance.Text.Basic
import Conformance.Text.Numeral

/-!
# Reading decimal text

The numbers a user may write: an optional sign, then `inf`, `infinity` or `nan` in any case, or
digits with an optional point and an optional exponent. The digits may be of any script, a single
underscore may stand between two of them, and white space around the whole is dropped. The value
is rounded once, to the nearest double-precision number.
-/

set_option autoImplicit false

namespace Conformance.Reading

/-- White space around a number; the information separators do not count here. -/
def isBlank (c : Char) : Bool := Text.isBlank c && !(0x1C ≤ c.toNat && c.toNat ≤ 0x1F)

/-- The digits at the front, with single underscores between two digits dropped, and what is
left after them. -/
def digits : List Char → List Nat × List Char
  | [] => ([], [])
  | [c] => match Text.digitValue? c with
    | some d => ([d], [])
    | none => ([], [c])
  | c :: next :: rest => match Text.digitValue? c with
    | none => ([], c :: next :: rest)
    | some d =>
      if next = '_' then
        match rest with
        | after :: _ =>
          if (Text.digitValue? after).isSome then
            let (ds, left) := digits rest
            (d :: ds, left)
          else ([d], next :: rest)
        | [] => ([d], next :: rest)
      else
        let (ds, left) := digits (next :: rest)
        (d :: ds, left)

/-- Positional value of digits. -/
def valueOf (ds : List Nat) : Nat := ds.foldl (fun n d => 10 * n + d) 0

/-- The number nearest to `± n * 10 ^ exponent`. Sizes out of the format's reach are settled
without computing the power. -/
def scaled (negative : Bool) (n : Nat) (exponent : Int) : Binary64 :=
  let order : Int := exponent + (Nat.toDigits 10 n).length
  if n = 0 ∨ order < -400 then Binary64.zero negative
  else if 400 < order then .infinite negative
  else Binary64.ofRatio negative (n * Nat.pow 10 exponent.toNat) (Nat.pow 10 (-exponent).toNat)

/-- A leading sign, and the rest. -/
def sign : List Char → Bool × List Char
  | '-' :: rest => (true, rest)
  | '+' :: rest => (false, rest)
  | cs => (false, cs)

/-- An exponent that ends the text; no text is the exponent zero. -/
def exponent? : List Char → Option Int
  | [] => some 0
  | c :: rest =>
    if c = 'e' ∨ c = 'E' then
      let (negative, cs) := sign rest
      match digits cs with
      | ([], _) => none
      | (ds, []) => some (if negative then -(valueOf ds : Int) else valueOf ds)
      | _ => none
    else none

/-- Digits, point and exponent. -/
def unsigned? (negative : Bool) (cs : List Char) : Option Binary64 :=
  let (whole, rest) := digits cs
  let (fraction, rest) := match rest with
    | '.' :: after => digits after
    | _ => ([], rest)
  if whole.isEmpty && fraction.isEmpty then none
  else (exponent? rest).map fun e =>
    scaled negative (valueOf (whole ++ fraction)) (e - fraction.length)

end Conformance.Reading

namespace Conformance

/-- The number that a text denotes. -/
def Binary64.ofText? (text : String) : Option Binary64 :=
  let (negative, cs) := Reading.sign (Text.trimWhere Reading.isBlank text.toList)
  let word := String.ofList (cs.map Char.toLower)
  if word = "inf" ∨ word = "infinity" then some (.infinite negative)
  else if word = "nan" then some .nan
  else Reading.unsigned? negative cs

end Conformance
