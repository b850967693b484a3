import Conformance.Error
import Conformance.Table

/-!
# Configuration of a rule

Whether a rule runs, how much its findings weigh, and the thresholds it measures against. Changes
are merged: a threshold that is set anew keeps its place among the others.
-/

set_option autoImplicit false

namespace Conformance

/-- The configuration under which a rule runs. -/
structure RuleConfig where
  enabled : Bool
  severity : Severity
  thresholds : Table Nat
  profile : Option String

namespace RuleConfig

/-- A threshold is a whole number and not negative. -/
def checkThreshold (name : String) : Value → Except Error Nat
  | .int n => if n < 0 then .error (.below ("threshold '" ++ name ++ "'") 0 n) else .ok n.toNat
  | v => .error (.thresholdKind name v.kindName)

/-- The thresholds in order, or the fault of the first bad one. -/
def checkEntries : (entries : List (String × Value)) →
    Except Error { checked : List (String × Nat) // keysOf checked = keysOf entries }
  | [] => .ok ⟨[], rfl⟩
  | (name, value) :: rest => do
    let n ← checkThreshold name value
    let ⟨checked, same⟩ ← checkEntries rest
    return ⟨(name, n) :: checked, by simpa [keysOf] using same⟩

/-- The thresholds of a table of values. -/
def checkThresholds (values : Table Value) : Except Error (Table Nat) := do
  let ⟨checked, same⟩ ← checkEntries values.entries
  return ⟨checked, same ▸ values.nodup⟩

/-- A configuration whose thresholds are all accepted. -/
def make (enabled : Bool) (severity : Severity) (thresholds : Table Value)
    (profile : Option String) : Except Error RuleConfig := do
  return { enabled, severity, thresholds := ← checkThresholds thresholds, profile }

/-- The threshold of a name. -/
def threshold (c : RuleConfig) (name : String) : Except Error Nat :=
  match c.thresholds.get? name with
  | some n => .ok n
  | none => .error (.noThreshold name)

/-- The configuration with changes; what is left out stays as it is. -/
def withChanges (c : RuleConfig) (enabled : Option Bool) (severity : Option Severity)
    (thresholds : Table Value) (profile : Option String) : Except Error RuleConfig :=
  -- the thresholds are merged before they are checked, new ones at the end
  make (enabled.getD c.enabled) (severity.getD c.severity)
    ((c.thresholds.mapValues fun _ n => Value.ofNat n).insertAll thresholds.entries)
    (profile.or c.profile)

end RuleConfig

end Conformance
