import Conformance.Finding
import Conformance.Table

/-!
# Reports

A report holds the findings of a run with their counts by severity and by rule. A run passes if
none of its findings is an error.
-/

set_option autoImplicit false

namespace Conformance

/-- The result of a run. -/
structure Report where
  findings : List Finding
  severityCounts : List (Severity × Int)
  ruleCounts : Table Int
  unitsAnalyzed : Nat
  unitsSkipped : Nat
  cancelled : Bool

/-- Findings grouped by a key, keys in the order of their first finding. -/
def groupFindings (key : Finding → String) (findings : List Finding) : Table (List Finding) :=
  findings.foldl (fun groups f => groups.insert (key f) ((groups.get? (key f)).getD [] ++ [f]))
    .empty

/-- Groups by path. -/
def groupByFile : List Finding → Table (List Finding) := groupFindings (·.location.path.text)

/-- Groups by rule. -/
def groupByRule : List Finding → Table (List Finding) := groupFindings (·.ruleId)

/-- The sum of counts. -/
def sumCounts : List Int → Int
  | [] => 0
  | n :: rest => n + sumCounts rest

namespace Report

/-- A report whose counts cover every severity and add up to the number of findings. -/
def make (findings : List Finding) (severityCounts : List (Severity × Int))
    (ruleCounts : Table Int) (unitsAnalyzed unitsSkipped : Int) (cancelled : Bool) :
    Except Error Report :=
  -- coverage is checked first, then the two sums, then the numbers of units
  if !Severity.all.all (fun s => (severityCounts.map Prod.fst).contains s) then
    .error .severityCountsIncomplete
  else if sumCounts (severityCounts.map Prod.snd) ≠ findings.length then
    .error (.countsOff "severity_counts")
  else if sumCounts (ruleCounts.entries.map Prod.snd) ≠ findings.length then
    .error (.countsOff "rule_counts")
  else if unitsAnalyzed < 0 ∨ unitsSkipped < 0 then .error .negativeUnits
  else .ok
    { findings, severityCounts, ruleCounts, unitsAnalyzed := unitsAnalyzed.toNat,
      unitsSkipped := unitsSkipped.toNat, cancelled }

/-- The count of each severity. -/
def countSeverities (findings : List Finding) : List (Severity × Int) :=
  Severity.all.map fun s => (s, (findings.countP (·.severity = s) : Int))

/-- The count of each rule, rules in the order of their first finding. -/
def countRules (findings : List Finding) : Table Int :=
  findings.foldl (fun counts f => counts.insert f.ruleId ((counts.get? f.ruleId).getD 0 + 1))
    .empty

/-- The report of findings, in the order given. -/
def summarize (findings : List Finding) (unitsAnalyzed unitsSkipped : Int) (cancelled : Bool) :
    Except Error Report :=
  make findings (countSeverities findings) (countRules findings) unitsAnalyzed unitsSkipped
    cancelled

/-- The report without findings. -/
def empty : Report where
  findings := []
  severityCounts := countSeverities []
  ruleCounts := .empty
  unitsAnalyzed := 0
  unitsSkipped := 0
  cancelled := false

/-- Number of findings. -/
def total (r : Report) : Nat := r.findings.length

/-- Number of findings of a severity. -/
def count (r : Report) (s : Severity) : Int := (r.severityCounts.lookup s).getD 0

/-- Whether the run passes: warnings and notes do not fail it. -/
def passed (r : Report) : Bool := r.count .error = 0

/-- Status for a command line. -/
def exitCode (r : Report) : Nat := if r.passed then 0 else 1

/-- Findings of one rule. -/
def forRule (r : Report) (ruleId : String) : List Finding :=
  r.findings.filter (·.ruleId = ruleId)

end Report

end Conformance
