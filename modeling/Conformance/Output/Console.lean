import Conformance.Output.Printer
import Conformance.Run.Report

/-!
# Console output

A title, the counts, one table per group of findings, and the verdict. Everything goes through a
`Printer`, and every text from a finding through console markup, in which none of it is escaped.
-/

set_option autoImplicit false

namespace Conformance

/-- How findings are put into tables. -/
inductive Grouping where
  /-- One table per file, with or without the messages. -/
  | byFile (showMessages : Bool)
  /-- One table per rule. -/
  | byRule

/-- How the console output is laid out. -/
structure ConsoleConfig extends Screen where
  grouping : Grouping := .byFile true

/-- A console is at least 40 characters wide. -/
def ConsoleConfig.make (grouping : Grouping) (width : Int) (hasColour : Bool) :
    Except Error ConsoleConfig :=
  if h : width < 40 then .error (.below "width" 40 width)
  else .ok { width := width.toNat, hasColour, wide := by omega, grouping }

/-- The style that a severity is shown in. -/
def Severity.style : Severity → String
  | .error => "bold red"
  | .warning => "yellow"
  | .info => "dim"

/-- Why measured value and threshold cannot be written, if they cannot. -/
def Finding.measureFault? (f : Finding) : Option Error :=
  if (f.detail? "measured").isSome then f.measured.textFault?.or f.threshold.textFault? else none

namespace Console

open Markup (styled)

/-- A column of a table: its heading, what is said about a finding, and how this is marked up. -/
structure Column where
  heading : String
  style : Option String := none
  text : Finding → String
  cell : Finding → String := text

/-- The severity in its style. -/
def severityColumn (heading : String) : Column where
  heading := heading
  text f := f.severity.label
  cell f := styled f.severity.style f.severity.label

/-- The columns of a table. -/
def columns : Grouping → List Column
  | .byFile showMessages =>
    [severityColumn "Severity",
      { heading := "Rule", style := some "cyan", text := (·.ruleId) },
      { heading := "Element", text := (·.elementText) },
      { heading := "Measured", style := some "dim", text := (·.measureText) }] ++
    if showMessages then [{ heading := "Message", text := (·.message) }] else []
  | .byRule =>
    [severityColumn "severity",
      { heading := "location", style := some "cyan", text := (·.location.text) },
      { heading := "measured", style := some "dim", text := (·.measureText) }]

/-- The style of the headings, where a table shows them. -/
def headingStyle : Grouping → Option String
  | .byFile _ => some "bold"
  | .byRule => none

/-- The table of findings. -/
def sheet (grouping : Grouping) (findings : List Finding) : Sheet where
  headingStyle := headingStyle grouping
  columns := (columns grouping).map fun column =>
    ⟨column.heading, column.style, findings.map column.cell⟩

/-- The groups that the tables show. -/
def groups (grouping : Grouping) (findings : List Finding) : Table (List Finding) :=
  match grouping with
  | .byFile _ => groupByFile findings
  | .byRule => groupByRule findings

/-- The key of a group and the number of its findings. -/
def keyText (group : String × List Finding) : String :=
  styled "bold" group.1 ++ " (" ++ toString group.2.length ++ ")"

/-- A number in a text. One of too many digits cannot be written. -/
def number (n : Int) : Except Error String := (Value.int n).write

/-- The number of all findings and of those of each severity. -/
def countsText (r : Report) : Except Error String := do
  let counts ← r.severityCounts.mapM fun e => do
    return styled e.1.style (e.1.label ++ ": " ++ (← number e.2))
  return " ".intercalate ((styled "bold" "Findings:" ++ " " ++ toString r.total) :: counts)

/-- The number of units. -/
def unitsText (r : Report) : Except Error String := do
  return styled "bold" "Units:" ++ " " ++ (← number r.unitsAnalyzed) ++ " analyzed"

/-- The number of units that were skipped. -/
def cancelledText (r : Report) : Except Error String := do
  return styled "yellow" "Cancelled:" ++ " " ++ (← number r.unitsSkipped) ++
    " unit(s) not analyzed"

/-- The verdict. -/
def verdictText (r : Report) : String :=
  "Result: " ++ if r.passed then styled "green" "PASSED" else styled "bold red" "FAILED"

variable (p : Printer) (screen : Screen)

/-- Title and counts, and an empty line. -/
def header (r : Report) : Except Error String := do
  let title ← p.rule screen (styled "bold" "CONFORMANCE REPORT")
  let counts ← p.print screen (← countsText r)
  let units ← p.print screen (← unitsText r)
  let gap ← p.print screen ""
  return title ++ counts ++ units ++ gap

/-- A group: its key with the number of findings, its table, and an empty line. -/
def groupText (grouping : Grouping) (group : String × List Finding) : Except Error String := do
  let key ← p.print screen (keyText group)
  -- the rows are made before the table is printed
  match group.2.findSome? Finding.measureFault? with
  | some fault => throw fault
  | none =>
    let table ← p.printTable screen (sheet grouping group.2)
    let gap ← p.print screen ""
    return key ++ table ++ gap

/-- A note on units that were skipped, if the run was cancelled. -/
def note (r : Report) : Except Error String :=
  if r.cancelled then do p.print screen (← cancelledText r) else .ok ""

/-- The verdict, after the note. -/
def footer (r : Report) : Except Error String := do
  let note ← note p screen r
  let verdict ← p.print screen (verdictText r)
  return note ++ verdict

end Console

/-- The report for a console. -/
def Report.consoleText (p : Printer) (r : Report) (config : ConsoleConfig) :
    Except Error String := do
  let header ← Console.header p config.toScreen r
  let tables ← (Console.groups config.grouping r.findings).entries.mapM
    (Console.groupText p config.toScreen config.grouping)
  let footer ← Console.footer p config.toScreen r
  return header ++ String.join tables ++ footer

end Conformance
