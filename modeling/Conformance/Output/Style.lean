import Conformance.Output.Console
import Conformance.Output.Record

/-!
# Output styles

The forms in which a report is written, and the four styles that a user can name. The plain text
has a line for each finding, with its message under it if asked for, and a line of totals.
-/

set_option autoImplicit false

namespace Conformance

namespace Report

/-- Counts and verdict in one line. -/
def totalsLine (r : Report) : String :=
  toString r.total ++ " finding(s) (" ++
    Value.commaSeparated (r.severityCounts.map fun e => e.1.label ++ "=" ++ toString e.2) ++
    "): " ++ (if r.passed then "PASSED" else "FAILED") ++
    if r.cancelled then " (cancelled, " ++ toString r.unitsSkipped ++ " unit(s) skipped)" else ""

/-- The lines of a finding. -/
def findingLines (showMessages : Bool) (f : Finding) : List String :=
  f.summaryLine :: if showMessages then ["    " ++ f.message] else []

/-- The report as text. -/
def plainText (r : Report) (showMessages : Bool) : String :=
  "\n".intercalate (r.findings.flatMap (findingLines showMessages) ++ [r.totalsLine])

end Report

/-- A form of output. -/
inductive OutputForm where
  | text (showMessages : Bool := false)
  | records (indent : Option Int := some 2)
  | json (indent : Option Int := some 2)
  | console (config : ConsoleConfig := {})

/-- The form that a style name stands for. -/
def OutputForm.ofStyle (name : String) : Except Error OutputForm :=
  if name = "records" then .ok .records
  else if name = "text" then .ok .text
  else if name = "json" then .ok .json
  else if name = "console" then .ok .console
  else .error (.unknownStyle name)

/-- The report in a form of output. -/
def Report.format (p : Printer) (r : Report) : OutputForm → Except Error String
  | .text showMessages => .ok (r.plainText showMessages)
  | .records indent => r.recordsText indent
  | .json indent => r.jsonText indent
  | .console config => r.consoleText p config

/-- The report in a named style. -/
def Report.formatStyle (p : Printer) (r : Report) (style : String) : Except Error String := do
  r.format p (← OutputForm.ofStyle style)

end Conformance
