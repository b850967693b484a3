import Conformance.Output.Json
import Conformance.Run.Report

/-!
# Records

A finding as a table for other programs, and the two JSON outputs made of such records: the bare
list, and the list under a summary of the run.
-/

set_option autoImplicit false

namespace Conformance

mutual

/-- Tuples and sets in a value as lists, down to the first mapping. -/
def Value.sequencesAsLists : Value → Value
  | .list items => .list (Value.allSequencesAsLists items)
  | .tuple items => .list (Value.allSequencesAsLists items)
  | .set _ members => .list (Value.allSequencesAsLists members)
  | v => v

/-- Tuples and sets in values as lists. -/
def Value.allSequencesAsLists : List Value → List Value
  | [] => []
  | v :: rest => v.sequencesAsLists :: Value.allSequencesAsLists rest

end

/-- A number, or nothing. -/
def Value.ofInt? : Option Int → Value
  | some n => .int n
  | none => .null

/-- The record of a location. -/
def Location.record (l : Location) : Value :=
  .table
    [("path", .text l.path.text),
      ("type", Value.ofText? l.typeName),
      ("member", Value.ofText? l.memberName),
      ("statement_position", Value.ofInt? (l.position.map Int.ofNat)),
      ("line", Value.ofInt? l.line)]

/-- The record of a finding. -/
def Finding.record (f : Finding) : Value :=
  .table
    [("rule_id", .text f.ruleId),
      ("severity", .text f.severity.label),
      ("category", .text f.category.constant),
      ("message", .text f.message),
      ("location", f.location.record),
      ("payload", .table (f.payload.map fun e => (e.1, e.2.sequencesAsLists)))]

namespace Report

/-- The records of the findings, in report order. -/
def records (r : Report) : Value := .list (r.findings.map Finding.record)

/-- The counts of a run and its records. -/
def summaryRecord (r : Report) : Value :=
  .table
    [("passed", .bool r.passed),
      ("exit_code", Value.ofNat r.exitCode),
      ("summary", .table
        [("total", Value.ofNat r.total),
          ("by_severity", .table (r.severityCounts.map fun e => (e.1.label, .int e.2))),
          ("by_rule", .table (r.ruleCounts.entries.map fun e => (e.1, .int e.2))),
          ("units_analyzed", Value.ofNat r.unitsAnalyzed),
          ("units_skipped", Value.ofNat r.unitsSkipped),
          ("cancelled", .bool r.cancelled)]),
      ("findings", r.records)]

/-- The records as JSON. -/
def recordsText (r : Report) (indent : Option Int) : Except Error String :=
  Json.dump indent r.records

/-- The summary and the records as JSON. -/
def jsonText (r : Report) (indent : Option Int) : Except Error String :=
  Json.dump indent r.summaryRecord

end Report

end Conformance
