import Conformance.Output.Printer
import Conformance.Terminal.Cell

/-!
# A printer for plain screens

A printer of this project's own, so that reports can be printed. It has no colours and no emoji,
does not break the lines outside of tables, and takes tables to fit their screen. Nothing about the
console is proved of this printer but that it has the laws of `Conformance.Output.Printer`.
-/

set_option autoImplicit false

namespace Conformance

namespace Terminal

open Markup (Shown)

/-- The horizontal stroke of a line with a title. -/
def stroke : Char := Char.ofNat 0x2500

/-- A title in the middle of a line of strokes. -/
def titleLine (width : Nat) (title : List Char) : List Char :=
  let left := (width - title.length) / 2 - 1
  let right := width - left - (title.length + 2)
  List.replicate left stroke ++ ' ' :: title ++ ' ' :: List.replicate right stroke

/-- The lines of each cell of a column, and the line where it has none. -/
def columnLines (cells : List Shown) : Array (List String) × String :=
  let width := cells.foldl (fun w cell => max w (Cell.width cell)) 0
  ((cells.map (Cell.lines width)).toArray, Cell.emptyLine width)

/-- The lines of a row, in which each column has lines of its own. A row is as high as its highest
cell. -/
def rowLines (cells : List (List String × String)) : List String :=
  let height := cells.foldl (fun h cell => max h cell.1.length) 0
  (List.range height).map fun i => String.join (cells.map fun cell => (cell.1[i]?).getD cell.2)

/-- The lines of a table with `height` rows. -/
def tableLines (height : Nat) (columns : List (List Shown)) : List String :=
  let written := columns.map columnLines
  (List.range height).flatMap fun i =>
    rowLines (written.map fun column => ((column.1[i]?).getD [], column.2))

/-- The lines of a table. The widths of all columns are taken before anything is shown. -/
def sheetLines (sheet : Sheet) : Except Error (List String) := do
  let cells ← sheet.texts.mapM (·.mapM Markup.read)
  cells.forM (·.forM Shown.check)
  return tableLines ((cells.map List.length).foldl max 0) cells

end Terminal

/-- What can be seen of texts on a plain screen. -/
def Display.plain : Display where
  shown text := do
    let shown ← Markup.read text
    shown.check
    return shown.chars
  columns := Text.charWidth
  isEmoji _ := false

/-- The printer for plain screens. -/
def Printer.plain : Printer where
  rule screen title := do
    return String.ofList (Terminal.titleLine screen.width (← Display.plain.shown title)) ++ "\n"
  print _ text := do return String.ofList (← Display.plain.shown text) ++ "\n"
  printTable _ sheet := do
    return String.join ((← Terminal.sheetLines sheet).map (· ++ "\n"))

end Conformance
