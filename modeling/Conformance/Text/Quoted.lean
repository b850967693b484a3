import Conformance.Text.Printable

/-!
# Quoted text

Texts that appear inside messages are quoted: between apostrophes, or between double quotes if
the text holds an apostrophe and no double quote. The quote in use and the backslash are escaped
with a backslash, line feed, carriage return and tab have a letter each, and any other character
that does not print is written by its code in lower-case hexadecimal digits.
-/

set_option autoImplicit false

namespace Conformance.Text

/-- The apostrophe, the quote that is tried first. -/
def apostrophe : Char := Char.ofNat 0x27

/-- The double quote. -/
def doubleQuote : Char := Char.ofNat 0x22

/-- The digit of value `n < 16`, in lower case. -/
def hexDigit (n : Nat) : Char :=
  if n < 10 then Char.ofNat (0x30 + n) else Char.ofNat (0x61 + (n - 10))

/-- The last `width` hexadecimal digits of `n`. -/
def hexDigits : (width : Nat) → (n : Nat) → List Char
  | 0, _ => []
  | width + 1, n => hexDigits width (n / 16) ++ [hexDigit (n % 16)]

/-- How one character is written between two `quote`s. -/
def quotedChar (quote c : Char) : List Char :=
  if c = quote ∨ c = '\\' then ['\\', c]
  else if c = '\n' then ['\\', 'n']
  else if c = '\r' then ['\\', 'r']
  else if c = '\t' then ['\\', 't']
  else if isPrintable c then [c]
  else if c.toNat ≤ 0xFF then '\\' :: 'x' :: hexDigits 2 c.toNat
  else if c.toNat ≤ 0xFFFF then '\\' :: 'u' :: hexDigits 4 c.toNat
  else '\\' :: 'U' :: hexDigits 8 c.toNat

/-- The quote that a text gets: the apostrophe, unless only that one would need an escape. -/
def quoteFor (text : String) : Char :=
  if text.toList.contains apostrophe && !text.toList.contains doubleQuote then doubleQuote
  else apostrophe

/-- The text in quotes. -/
def quoted (text : String) : String :=
  let quote := quoteFor text
  String.ofList (quote :: text.toList.flatMap (quotedChar quote) ++ [quote])

end Conformance.Text
