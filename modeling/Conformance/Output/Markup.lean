/-!
# Console markup

Console texts may hold tags in square brackets that switch a style on and off. A tag starts with a
small letter, `#`, `@` or a slash, and holds no opening bracket; one that starts with a slash is a
closing tag. A backslash before a tag takes it as text, and two backslashes before a tag are one.
What shows is what stands between the tags (`bare`).

This is the form of the texts that a report hands to the library that prints them, and what their
author has to know of it. What the library itself does is said in `Conformance.Output.Printer`.
-/

set_option autoImplicit false

namespace Conformance.Markup

/-! ## Pieces -/

/-- A stretch of marked-up text. -/
inductive Piece where
  | plain (text : List Char)
  | tag (body : List Char)

/-- The characters that a tag can start with. -/
def isTagStart (c : Char) : Bool :=
  ('a' ≤ c && c ≤ 'z') || c == '#' || c == '/' || c == '@'

/-- The characters inside a tag. -/
def isTagChar (c : Char) : Bool := c != '[' && c != ']'

/-- The body of a tag at the front, and what follows the tag. -/
def tag? : List Char → Option (List Char × List Char)
  | '[' :: c :: rest =>
    if isTagStart c then
      match rest.dropWhile isTagChar with
      | ']' :: after => some (c :: rest.takeWhile isTagChar, after)
      | _ => none
    else none
  | _ => none

theorem length_lt_of_tag? {cs body after : List Char} (h : tag? cs = some (body, after)) :
    after.length < cs.length := by
  unfold tag? at h
  split at h
  · rename_i c rest
    split at h
    · split at h
      · rename_i tail heq
        have hle := (List.dropWhile_sublist (l := rest) isTagChar).length_le
        rw [heq] at hle
        simp only [Option.some.injEq, Prod.mk.injEq] at h
        rw [← h.2]
        simp only [List.length_cons] at hle ⊢
        omega
      · simp at h
    · simp at h
  · simp at h

/-- The pieces of a tag after `slashes` backslashes: half of them stay, and an odd one makes the
tag text. -/
def tagPieces (slashes : Nat) (body : List Char) : List Piece :=
  (if slashes / 2 = 0 then [] else [.plain (List.replicate (slashes / 2) '\\')]) ++
    [if slashes % 2 = 1 then .plain ('[' :: body ++ [']']) else .tag body]

/-- The pieces of a text; `plain` are the characters read since the last tag. -/
def pieces (plain : List Char) (cs : List Char) : List Piece :=
  match cs with
  | [] => [.plain plain]
  | c :: rest =>
    -- a run of backslashes belongs to the tag that follows it
    match _found : tag? ((c :: rest).dropWhile (· == '\\')) with
    | some (body, after) =>
      .plain plain :: tagPieces ((c :: rest).takeWhile (· == '\\')).length body ++ pieces [] after
    | none => pieces (plain ++ [c]) rest
termination_by cs.length
decreasing_by
  · have := length_lt_of_tag? _found
    have := (List.dropWhile_sublist (l := c :: rest) (· == '\\')).length_le
    omega
  · simp

/-- A backslash before a bracket is dropped where there is no tag. -/
def unescape : List Char → List Char
  | '\\' :: '[' :: rest => '[' :: unescape rest
  | c :: rest => c :: unescape rest
  | [] => []

/-- Bell, backspace, vertical tab, form feed and carriage return never show. -/
def isDropped (c : Char) : Bool := c.toNat == 7 || c.toNat == 8 || (11 ≤ c.toNat && c.toNat ≤ 13)

/-! ## What shows -/

namespace Piece

/-- The characters of a piece that stay in the text. -/
def text : Piece → List Char
  | .plain text => text
  | .tag _ => []

/-- The characters of a piece that show. -/
def shown (piece : Piece) : List Char := (unescape piece.text).filter (!isDropped ·)

/-- A tag that closes an open one. -/
def isClosing : Piece → Bool
  | .tag ('/' :: _) => true
  | _ => false

/-- A tag that switches a style on. -/
def isOpening : Piece → Bool
  | .tag body => body.head? != some '/'
  | .plain _ => false

end Piece

/-- What shows of a text: everything but the tags. -/
def bare (text : String) : List Char := (pieces [] text.toList).flatMap Piece.shown

/-- A text with more closing tags than there are tags to close. -/
def ClosesUnopened (text : String) : Prop :=
  (pieces [] text.toList).countP Piece.isOpening < (pieces [] text.toList).countP Piece.isClosing

/-! ## Styles -/

/-- The styles that a report switches on. -/
def styles : List String := ["bold", "bold red", "yellow", "dim", "green"]

/-- A text in a style. -/
def styled (style text : String) : String := "[" ++ style ++ "]" ++ text ++ "[/" ++ style ++ "]"

/-- Pieces that switch on nothing but styles of a report, each closed after the text that is in it.
-/
inductive Balanced : List Piece → Prop
  | nil : Balanced []
  | plain (text : List Char) {rest : List Piece} (others : Balanced rest) :
      Balanced (.plain text :: rest)
  | span {style : String} (h : style ∈ styles) (text : List Char) {rest : List Piece}
      (others : Balanced rest) :
      Balanced (.tag style.toList :: .plain text :: .tag ('/' :: style.toList) :: rest)

end Conformance.Markup
