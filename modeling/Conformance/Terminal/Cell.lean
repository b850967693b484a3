import Conformance.Terminal.Reader
import Conformance.Terminal.Width

/-!
# Cells of a table

A cell is as wide as the widest line of its text. It is written into the width of its column: text
that does not fit is broken between words, blanks that stick out at the end of a line are dropped,
a line that is still too wide ends in an ellipsis, and each line is filled up with blanks.
-/

set_option autoImplicit false

namespace Conformance.Cell

open Markup (Shown)

/-- The columns that a cell asks for. -/
def width (cell : Shown) : Nat :=
  (Text.parts Text.isLineBreak cell.chars).foldl (fun w line => max w (Text.width line)) 0

/-! ## Breaking lines -/

/-- The words of a text, each with the white space after it, and the first with that before it as
well. `word` is the one being read, backwards; `isStarted` says whether it has a character that is
no white space, and `isEnded` whether white space followed. -/
def words (word : List Char) (isStarted isEnded : Bool) : List Char → List (List Char)
  | [] => if isStarted then [word.reverse] else []
  | c :: rest =>
    if Text.isBlank c then words (c :: word) isStarted isStarted rest
    else if isEnded then word.reverse :: words [c] true false rest
    else words (c :: word) true false rest

/-- The lengths of the lines of words in a column; `used` are the columns that the line so far takes
and `length` is its length. -/
def lineLengths (width used length : Nat) : List (List Char) → List Nat
  | [] => [length]
  | word :: rest =>
    let body := (word.reverse.dropWhile Text.isBlank).reverse
    if used + Text.width body ≤ width ∨ used = 0 then
      lineLengths width (used + Text.width word) (length + word.length) rest
    else length :: lineLengths width (Text.width word) word.length rest

/-- The first `count` characters of stretches. -/
def take : (count : Nat) → List (List Char) → List (List Char)
  | _, [] => []
  | count, stretch :: rest => stretch.take count :: take (count - stretch.length) rest

/-- The stretches without their first `count` characters. -/
def drop : (count : Nat) → List (List Char) → List (List Char)
  | _, [] => []
  | count, stretch :: rest => stretch.drop count :: drop (count - stretch.length) rest

/-- Taking from stretches is taking from their characters. -/
theorem flatten_take (count : Nat) (stretches : List (List Char)) :
    (take count stretches).flatten = stretches.flatten.take count := by
  induction stretches generalizing count with
  | nil => simp [take]
  | cons stretch rest ih => simp [take, ih, List.take_append]

/-- The lines of stretches, given their lengths; the last line takes all that is left. -/
def cut : (lengths : List Nat) → List (List Char) → List (List (List Char))
  | length :: next :: lengths, stretches =>
    take length stretches :: cut (next :: lengths) (drop length stretches)
  | _, stretches => [stretches]

/-! ## Filling lines -/

/-- A line without the blanks at its end that stick out of the column, by the number of its
characters. -/
def withoutOverhang (width : Nat) (line : List (List Char)) : List (List Char) :=
  let cs := line.flatten
  let blanks := (cs.reverse.takeWhile Text.isBlank).length
  take (cs.length - min blanks (cs.length - width)) line

/-- The first characters that fit into the columns. -/
def takeWidth (room : Nat) : List Char → List Char
  | [] => []
  | c :: rest =>
    if Text.charWidth c ≤ room then c :: takeWidth (room - Text.charWidth c) rest else []

/-- A line that is still too wide ends in an ellipsis. -/
def truncated (width : Nat) (line : List (List Char)) : List (List Char) :=
  if Text.width line.flatten ≤ width then line
  else [takeWidth (width - 1) line.flatten ++ [Char.ofNat 0x2026]]

/-- A line with blanks after its last stretch, up to the columns. -/
def padded (width : Nat) (line : List (List Char)) : List (List Char) :=
  let blanks := List.replicate (width - Text.width line.flatten) ' '
  match line.reverse with
  | [] => [blanks]
  | last :: before => ((last ++ blanks) :: before).reverse

/-- A line that takes exactly the columns; each stretch is measured on its own. -/
def fill (room : Nat) : List (List Char) → List Char
  | [] => List.replicate room ' '
  | stretch :: rest =>
    if Text.width stretch ≤ room then stretch ++ fill (room - Text.width stretch) rest
    else takeWidth room stretch

/-- The lines of a cell in a column, with a blank on either side. -/
def lines (width : Nat) (cell : Shown) : List String :=
  (cut (lineLengths width 0 0 (words [] false false cell.chars)) cell.stretches).map fun line =>
    let line := padded width (truncated width (withoutOverhang width line))
    " " ++ String.ofList (fill width line) ++ " "

/-- A line of a column where it has no text. -/
def emptyLine (width : Nat) : String := String.ofList (List.replicate (width + 2) ' ')

end Conformance.Cell
