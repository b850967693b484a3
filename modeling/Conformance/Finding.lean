import Conformance.Location
import Conformance.Model.Kind
import Conformance.Model.Unit

/-!
# Findings

A finding is one remark of a rule about one place, with what it measured. Findings are sorted by
location; the sort is stable, so that findings at one place stay in the order in which they were
made.
-/

set_option autoImplicit false

namespace Conformance

/-- Measurements and other details, by name. -/
abbrev Payload := List (String × Value)

/-- One remark of a rule. -/
structure Finding where
  ruleId : String
  severity : Severity
  location : Location
  message : String
  category : RuleCategory
  payload : Payload

namespace Finding

/-- A finding names its rule and says something. -/
def make (ruleId : String) (severity : Severity) (location : Location) (message : String)
    (category : RuleCategory) (payload : Payload) : Except Error Finding :=
  if ruleId = "" then .error (.empty "rule_id")
  else if message = "" then .error (.empty "message")
  else .ok { ruleId, severity, location, message, category, payload }

/-- A detail by name. -/
def detail? (f : Finding) (name : String) : Option Value := f.payload.lookup name

/-- The measured value, or nothing. -/
def measured (f : Finding) : Value := (f.detail? "measured").getD .null

/-- The threshold it was held against, or nothing. -/
def threshold (f : Finding) : Value := (f.detail? "threshold").getD .null

/-- The key that findings are sorted by. -/
def sortKey (f : Finding) : SortKey := f.location.sortKey

/-- One line: severity, rule, place, and what was measured if anything was. -/
def summaryLine (f : Finding) : String :=
  f.severity.label ++ ": " ++ f.ruleId ++ " at " ++ f.location.text ++
    -- one of the two is enough, and the other then shows as nothing
    if (f.detail? "measured").isSome || (f.detail? "threshold").isSome then
      " — measured=" ++ f.measured.plain ++ " threshold=" ++ f.threshold.plain
    else ""

/-- The summary line with the message under it. -/
def text (f : Finding) : String := f.summaryLine ++ "\n  " ++ f.message

/-- The element in short: the type without its package, and the member. -/
def elementText (f : Finding) : String :=
  let typePart := match simpleName (f.location.typeName.getD "") with
    | "" => "-"
    | name => name
  match f.location.memberName with
  | none => typePart
  | some member => typePart ++ "." ++ member

/-- Measured value and threshold as a comparison; a dash if nothing was measured. -/
def measureText (f : Finding) : String :=
  if (f.detail? "measured").isSome then f.measured.plain ++ " > " ++ f.threshold.plain else "-"

end Finding

/-- Findings by path, type, member and position, otherwise in the order given. -/
def sortFindings (findings : List Finding) : List Finding :=
  findings.mergeSort fun a b => a.sortKey.le b.sortKey

end Conformance
