import Conformance.Configuration
import Conformance.Output.Style
import Conformance.Run.Basic

/-!
# The conformance checker

Registry, settings and runner put together: from configured rules and source units to a report.
-/

set_option autoImplicit false

namespace Conformance

/-- A configured checker. -/
structure Checker where
  registry : Registry
  settings : Settings := {}
  /-- Notes on options that were ignored. -/
  diagnostics : List Diagnostic := []

namespace Checker

/-- The built-in rules at their defaults. -/
def withDefaults (settings : Settings) : Except Error Checker := do
  let registry ← Registry.ofDefinitions builtinRules
  return { registry, settings }

/-- The built-in rules and further ones, configured by options. -/
def fromOptions (options : Table Value) (settings : Settings) (extra : List RuleDefinition) :
    Except Error Checker := do
  let registry ← Registry.ofDefinitions builtinRules
  let registry ← registry.registerAll extra
  let (registry, diagnostics) ← registry.configureMany options settings.strictOptions
  return { registry, settings, diagnostics }

/-- The built-in rules and further ones, configured by a file. -/
def fromFile (file : ConfigurationFile) (extra : List RuleDefinition) : Except Error Checker := do
  let configuration ← FileConfiguration.load file
  let options := configuration.rules.mapValues fun _ t => Value.table t.entries
  fromOptions options configuration.settings extra

/-- The findings of one unit. -/
def evaluate (c : Checker) (u : SourceUnit) (clock : Clock) : Except Error (List Finding) := do
  let rules ← c.registry.snapshot
  let result ← Evaluator.evaluate ⟨c.settings.budget⟩ u rules clock
  return result.findings

/-- The report on some units. -/
def check (c : Checker) (units : List SourceUnit) (signal : Signal) (clock : Clock)
    (schedule : Schedule) : Except Error Report :=
  Runner.run { registry := c.registry, settings := c.settings } units signal clock schedule

end Checker

end Conformance
