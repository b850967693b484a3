import Conformance.Text.Basic

/-!
# Severity

How much a finding weighs. Only an error fails a run.
-/

set_option autoImplicit false

namespace Conformance

/-- Weight of a finding, in the order in which counts are listed. -/
inductive Severity where
  | error
  | warning
  | info
  deriving DecidableEq

namespace Severity

/-- Every severity, in listing order. -/
def all : List Severity := [.error, .warning, .info]

/-- The name shown in reports. -/
def label : Severity → String
  | .error => "Error"
  | .warning => "Warning"
  | .info => "Info"

/-- The name in capitals. -/
def constant : Severity → String
  | .error => "ERROR"
  | .warning => "WARNING"
  | .info => "INFO"

/-- The severity that a word names, in any case and with any white space around it. -/
def ofText? (text : String) : Option Severity :=
  let word := Text.lowerAscii (Text.trim text)
  if word = "error" then some .error
  else if word = "warning" then some .warning
  else if word = "info" then some .info
  else none

end Severity

end Conformance
