import Conformance.Registry.Basic

/-!
# A registry that is kept

A registry is kept in one place and changed there by calls. A call is a sequence of reads, checks
and writes. It may stop at any point with an error, and what it wrote before it stopped stays
written. Whether a refused call leaves something behind therefore depends on the order of its
steps: here every check comes before the first write.
-/

set_option autoImplicit false

namespace Conformance

/-- A call on a registry that is kept. It leads to a result or to an error, and leaves a registry
behind in both cases. -/
abbrev Kept := EStateM Error Registry

namespace Kept

/-- A computation that touches no registry. -/
def lift {α : Type} : Except Error α → Kept α
  | .ok a => pure a
  | .error e => throw e

/-- Writes one definition. -/
def putDefinition (ruleId : String) (d : RuleDefinition) : Kept Unit :=
  modify fun r => { r with definitions := r.definitions.insert ruleId d }

/-- Writes one configuration. -/
def putConfig (ruleId : String) (c : RuleConfig) : Kept Unit :=
  modify fun r => { r with configs := r.configs.insert ruleId c }

/-- Writes configurations, one after another. -/
def putConfigs : List (String × RuleConfig) → Kept Unit
  | [] => pure ()
  | (ruleId, config) :: rest => do
    putConfig ruleId config
    putConfigs rest

/-- Adds a rule: its definition, and then its defaults as its configuration. -/
def register (ruleId : String) (d : RuleDefinition) : Kept Unit :=
  if ruleId ≠ d.ruleId then throw (.idMismatch ruleId d.ruleId)
  else do
    let r ← get
    if ruleId ∈ r.ruleIds then throw (RuleError.duplicate ruleId).raise
    else do
      putDefinition ruleId d
      putConfig ruleId d.defaults

/-- Resolves groups of options against the registry as it is. The new configurations and the notes
are collected on top of `updates` and `notes`; nothing is written. -/
def resolveGroups (strict : Bool) (updates : Table RuleConfig) (notes : List Diagnostic) :
    List (String × Table Value) → Kept (Table RuleConfig × List Diagnostic)
  | [] => pure (updates, notes)
  | (ruleId, options) :: rest => do
    let r ← get
    let rule ← lift (r.get ruleId)
    let (config, own) ← lift (resolveOptions rule.definition rule.config options strict)
    resolveGroups strict (updates.insert ruleId config) (notes ++ own) rest

/-- Configures several rules at once. -/
def configureMany (options : Table Value) (strict : Bool) : Kept (List Diagnostic) := do
  let grouped ← lift (splitOptions options)
  let (updates, notes) ← resolveGroups strict .empty [] grouped.entries
  -- from here on nothing can be refused
  putConfigs updates.entries
  return notes

/-- Configures one rule. -/
def configure (ruleId : String) (options : Value) (strict : Bool) : Kept (List Diagnostic) :=
  configureMany (Table.ofList [(ruleId, options)]) strict

/-- Puts a rule back to its defaults. -/
def reset (ruleId : String) : Kept Unit := do
  let r ← get
  let definition ← lift (r.definition ruleId)
  putConfig ruleId definition.defaults

end Kept

end Conformance
