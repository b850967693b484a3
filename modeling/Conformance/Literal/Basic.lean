import Conformance.Literal.Token
import Conformance.Text.Basic

/-!
# Literals

Which texts are a literal: a number with or without a sign, a complex number as a real and an
imaginary part, a text, a constant, or literals in brackets. Round brackets group one literal or
hold a tuple; curly brackets hold a set, whose elements can be keys, or a dictionary, whose keys
can. Brackets are taken from the inside out, so that what stands between two brackets is always a
flat list of words.
-/

set_option autoImplicit false

namespace Conformance.Literal

/-- The kind of a literal between commas and colons. -/
def partKind? : List Token → Option Kind
  | [.value kind] => some kind
  | [.sign, .value .real] => some (.signed false)
  | [.sign, .value .imaginary] => some (.signed true)
  | [.value .real, .sign, .value .imaginary] => some (.other true)
  | [.value (.signed false), .sign, .value .imaginary] => some (.other true)
  | [.sign, .value .real, .sign, .value .imaginary] => some (.other true)
  -- texts next to one another are one text
  | .text isBytes :: rest => if rest.all (· == .text isBytes) then some (.other true) else none
  | _ => none

/-- The parts between commas; a comma may follow the last of them. -/
def items (words : List Token) : List (List Token) :=
  match (Text.parts (· == .comma) words).reverse with
  | [] :: part :: parts => (part :: parts).reverse
  | parts => parts.reverse

/-- The kind of what stands outside curly brackets: one literal, or a tuple. -/
def groupKind? (words : List Token) : Option Kind :=
  if words.contains .comma then do
    let kinds ← (items words).mapM partKind?
    return .other (kinds.all Kind.isHashable)
  else partKind? words

/-- Whether a part is an entry of a dictionary. -/
def isEntry (part : List Token) : Bool :=
  match Text.parts (· == .colon) part with
  | [key, value] => (partKind? key).any Kind.isHashable && (partKind? value).isSome
  | _ => false

/-- Whether words stand in curly brackets: the elements of a set or the entries of a
dictionary. -/
def isCollection (words : List Token) : Bool :=
  words.isEmpty || (items words).all (fun part => (partKind? part).any Kind.isHashable) ||
    (items words).all isEntry

/-- The word that takes the place of words in brackets. -/
def closed? (isCurly : Bool) (words : List Token) : Option Token :=
  if isCurly then if isCollection words then some (.value (.other false)) else none
  else if words.isEmpty then some (.value (.other true))
  else if words = [.emptySet] then some .emptySet
  else (groupKind? words).map .value

/-- The most brackets inside one another. -/
def depthLimit : Nat := 200

/-- Takes the brackets of a literal from the inside out and gives the words that are left outside.
For each open bracket the stack holds its sort and the words before it; all words read are kept
backwards. -/
def flatten? : List (Bool × List Token) → List Token → List Token → Option (List Token)
  | [], words, [] => some words.reverse
  | _ :: _, _, [] => none
  | stack, words, .opening isCurly :: rest =>
    if stack.length < depthLimit then flatten? ((isCurly, words) :: stack) [] rest else none
  | [], _, .closing _ :: _ => none
  | (isCurly, outer) :: stack, words, .closing closesCurly :: rest =>
    if isCurly ≠ closesCurly then none
    else match outer, words, isCurly with
      | .emptySet :: outer, [], false => flatten? stack (.value (.other false) :: outer) rest
      | _, _, _ =>
        match closed? isCurly words.reverse with
        | some word => flatten? stack (word :: outer) rest
        | none => none
  | [], word :: words, .lineEnd :: rest =>
    -- outside brackets a line ends the literal
    if rest.all (· == .lineEnd) then some (word :: words).reverse else none
  | stack, words, .lineEnd :: rest => flatten? stack words rest
  | stack, words, word :: rest => flatten? stack (word :: words) rest

/-- The kind of a literal, if the characters are one. -/
def kind? (cs : List Char) : Option Kind := do
  if cs.contains (Char.ofNat 0) then none
  groupKind? (← flatten? [] [] (← tokens? cs))

/-- Whether the characters are a literal. -/
def isLiteral (cs : List Char) : Bool := (kind? cs).isSome

end Conformance.Literal
