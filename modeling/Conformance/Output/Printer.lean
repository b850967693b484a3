import Conformance.Error
import Conformance.Output.Markup
import Conformance.Text.Basic

/-!
# Printing on a console

A report is printed on a console by a library that is not part of this project. What a report asks
of it are the calls of a `Printer`: a line with a title, a line of marked-up text, and a table. The
calls of one report do not depend on each other.

What is relied on is what the library documents. It is put down as laws (`Display.Documented`,
`Printer.Documented`) in terms of three things that the library lets its users see: what a text
shows, how many columns a character takes, and which names are emoji codes (`Display`). The laws are
about screens without colour. They say for every text whether it is printed, but how it is laid out
only for texts that are even and fit the screen: what is broken over lines or cut off is left open.

Whatever is proved about the console is proved of all printers with these laws. One of them, which
makes reports printable, is `Printer.plain` in `Conformance.Terminal.Printer`.
-/

set_option autoImplicit false

namespace Conformance

/-! ## Calls -/

/-- The screen that is printed on. It is at least 40 columns wide. -/
structure Screen where
  width : Nat := 120
  hasColour : Bool := false
  wide : 40 ≤ width := by decide

/-- A column of a table. Heading and cells are marked up, and the style is that of all cells. -/
structure SheetColumn where
  heading : String
  style : Option String
  cells : List String

/-- A table without borders, with a blank on either side of a cell. -/
structure Sheet where
  /-- The style of the headings, if they are shown. -/
  headingStyle : Option String
  columns : List SheetColumn

/-- The marked-up texts of a table, column by column and from top to bottom. -/
def Sheet.texts (sheet : Sheet) : List (List String) :=
  sheet.columns.map fun column =>
    (if sheet.headingStyle.isSome then [column.heading] else []) ++ column.cells

/-- The library that prints. Each call writes a text or fails. -/
structure Printer where
  /-- A line across the screen, with a marked-up title in it. -/
  rule : Screen → String → Except Error String
  /-- A marked-up text and the end of its line. -/
  print : Screen → String → Except Error String
  /-- A table. -/
  printTable : Screen → Sheet → Except Error String

/-! ## Layout -/

/-- What the library lets its users see of texts. -/
structure Display where
  /-- The characters that a marked-up text shows, or why it is refused. -/
  shown : String → Except Error (List Char)
  /-- The columns that a character takes on its own. -/
  columns : Char → Nat
  /-- The names that stand for an emoji if there is a colon on either side. -/
  isEmoji : String → Bool

namespace Display

variable (d : Display)

/-- There is no emoji code in a text. -/
def NoEmoji (text : String) : Prop :=
  ∀ name, d.isEmoji name = true → ¬ (":" ++ name ++ ":").toList <:+: text.toList

/-- The columns of characters next to each other. -/
def width (cs : List Char) : Nat := cs.foldr (fun c w => d.columns c + w) 0

/-- Characters that stand on one line, each in one column or in none and whatever is next to it. If
some take none, a blank is the only white space. -/
structure IsEven (cs : List Char) : Prop where
  narrow : ∀ c ∈ cs, d.columns c ≤ 1
  unjoined : ∀ c ∈ cs, c ≠ Text.joiner ∧ c ≠ Text.emojiSelector
  unbroken : ∀ c ∈ cs, Text.isLineBreak c = false ∧ c ≠ '\t'
  blanks : (∀ c ∈ cs, d.columns c = 1) ∨ ∀ c ∈ cs, Text.isBlank c = true → c = ' '

/-- The width of a column, which is that of its widest text. -/
def columnWidth (texts : List (List Char)) : Nat :=
  texts.foldl (fun w cs => max w (d.width cs)) 0

/-- The width of a table, with a blank on either side of each column. -/
def tableWidth (columns : List (List (List Char))) : Nat :=
  columns.foldr (fun texts w => d.columnWidth texts + 2 + w) 0

/-- A text filled up with blanks to the width of its column, with a blank on either side. -/
def spaced (columns : Nat) (cs : List Char) : String :=
  " " ++ String.ofList (cs ++ List.replicate (columns - d.width cs) ' ') ++ " "

/-- A row: the texts of the columns side by side, each filled up to the width of its column. -/
def rowText (columns : List (List (List Char))) (i : Nat) : String :=
  String.join (columns.map fun texts => d.spaced (d.columnWidth texts) (texts.getD i []))

/-- A table with one line for each row. -/
def tableText (height : Nat) (columns : List (List (List Char))) : String :=
  String.join ((List.range height).map fun i => d.rowText columns i ++ "\n")

end Display

/-! ## Laws -/

/-- What is documented about texts. -/
structure Display.Documented (d : Display) : Prop where
  /-- Tags are removed and everything else is shown, unless there are emoji codes, which are
  replaced. -/
  shown_eq : ∀ {text cs}, d.NoEmoji text → d.shown text = .ok cs → cs = Markup.bare text
  /-- A text is shown if every style is closed again. -/
  exists_shown : ∀ {text}, Markup.Balanced (Markup.pieces [] text.toList) →
    ∃ cs, d.shown text = .ok cs
  /-- A closing tag with nothing to close is an error. -/
  refuses : ∀ {text}, Markup.ClosesUnopened text → ∃ e, d.shown text = .error e
  /-- Printed characters of ASCII take a column each. -/
  columns_ascii : ∀ c, Text.IsAscii c → d.columns c = 1

/-- What is documented about the calls. -/
structure Printer.Documented (p : Printer) (d : Display) : Prop where
  display : d.Documented
  /-- A title that is shown has a line. -/
  exists_rule : ∀ {screen title cs}, d.shown title = .ok cs → ∃ out, p.rule screen title = .ok out
  /-- A text that is shown is printed, whatever its length. -/
  exists_print : ∀ {screen text cs}, d.shown text = .ok cs → ∃ out, p.print screen text = .ok out
  /-- An even text that fits the screen stands on a line of its own, as it is shown. White space at
  its end is left open. -/
  print_eq : ∀ {screen text cs}, screen.hasColour = false → d.shown text = .ok cs → d.IsEven cs →
    (∀ c ∈ cs.getLast?, Text.isBlank c = false) → d.width cs ≤ screen.width →
    p.print screen text = .ok (String.ofList cs ++ "\n")
  /-- A text that is refused is not printed. -/
  print_refused : ∀ {screen text e}, d.shown text = .error e → ∃ e, p.print screen text = .error e
  /-- A table of even texts that fits the screen has a line for each row, in which the texts stand
  as they are shown, filled up to the widths of their columns. -/
  printTable_eq : ∀ {screen sheet height columns}, screen.hasColour = false → sheet.columns ≠ [] →
    0 < height → sheet.texts.map (·.map d.shown) = columns.map (·.map Except.ok) →
    (∀ texts ∈ columns, texts.length = height ∧ ∀ cs ∈ texts, d.IsEven cs) →
    d.tableWidth columns ≤ screen.width →
    p.printTable screen sheet = .ok (d.tableText height columns)
  /-- A table with a text that is refused is not printed. -/
  printTable_refused : ∀ {screen sheet texts text e}, texts ∈ sheet.texts → text ∈ texts →
    d.shown text = .error e → ∃ e, p.printTable screen sheet = .error e

end Conformance
