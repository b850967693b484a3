/-!
# Characters and texts

The classes of characters are kept as ranges of code points, and white space is what is dropped
around a word. A text can be cut at separators, and texts are ordered by the code points of their
characters.
-/

set_option autoImplicit false

namespace Conformance.Text

/-! ## Classes of characters -/

/-- Whether `code` lies in one of the ascending ranges, each given by its first and last
code point. -/
def inRanges (code : Nat) : List (Nat × Nat) → Bool
  | [] => false
  | (first, last) :: rest =>
    if code < first then false
    else if code ≤ last then true
    else inRanges code rest

/-- The characters of ASCII that are printed. -/
def IsAscii (c : Char) : Prop := 0x20 ≤ c.toNat ∧ c.toNat ≤ 0x7E

instance (c : Char) : Decidable (IsAscii c) := inferInstanceAs (Decidable (_ ∧ _))

/-- The zero width joiner. -/
def joiner : Char := Char.ofNat 0x200D

/-- The variation selector that asks for the emoji form of a symbol. -/
def emojiSelector : Char := Char.ofNat 0xFE0F

/-! ## White space -/

/-- White space, the information separators included. -/
def isBlank (c : Char) : Bool :=
  let code := c.toNat
  (0x9 ≤ code && code ≤ 0xD) || (0x1C ≤ code && code ≤ 0x20) || code == 0x85 || code == 0xA0 ||
    code == 0x1680 || (0x2000 ≤ code && code ≤ 0x200A) || code == 0x2028 || code == 0x2029 ||
    code == 0x202F || code == 0x205F || code == 0x3000

/-- The characters that end a line where the width of a text is taken. -/
def isLineBreak (c : Char) : Bool :=
  c.toNat == 0xA || (0x1C ≤ c.toNat && c.toNat ≤ 0x1E) || c.toNat == 0x85 || c.toNat == 0x2028 ||
    c.toNat == 0x2029

/-- The characters without those at either end that `drop` picks. -/
def trimWhere (drop : Char → Bool) (cs : List Char) : List Char :=
  ((cs.dropWhile drop).reverse.dropWhile drop).reverse

/-- The characters without the white space at either end. -/
def trimChars (cs : List Char) : List Char := trimWhere isBlank cs

/-- The text without the white space at either end. -/
def trim (text : String) : String := String.ofList (trimChars text.toList)

/-- Lower case of the letters A to Z; every other character stays. -/
def lowerAscii (text : String) : String := String.ofList (text.toList.map Char.toLower)

/-! ## Parts and order -/

/-- The parts of a list between the elements that `isSeparator` picks. -/
def parts {α : Type} (isSeparator : α → Bool) : List α → List (List α)
  | [] => [[]]
  | a :: rest =>
    if isSeparator a then [] :: parts isSeparator rest
    else
      match parts isSeparator rest with
      | [] => [[a]]
      | part :: more => (a :: part) :: more

/-- The texts in ascending order. -/
def sorted (texts : List String) : List String :=
  texts.mergeSort fun a b => (compare a b).isLE

end Conformance.Text
