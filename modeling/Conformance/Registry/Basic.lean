import Conformance.Registry.Option
import Conformance.Rule.Builtin

/-!
# The registry of rules

A registry holds rules in the order of their registration, and a current configuration of each.
Configuring several rules at once changes all of them or none. An evaluation does not read the
registry but a rule set, the enabled rules with their configurations at one moment.
-/

set_option autoImplicit false

namespace Conformance

/-- A rule with the configuration it runs under. -/
structure ConfiguredRule where
  definition : RuleDefinition
  config : RuleConfig

/-- The identifier of the rule. -/
def ConfiguredRule.ruleId (r : ConfiguredRule) : String := r.definition.ruleId

/-- Enabled rules with distinct identifiers, in order. -/
structure RuleSet where
  rules : List ConfiguredRule
  nodup : (rules.map (·.ruleId)).Nodup
  enabled : ∀ r ∈ rules, r.config.enabled = true

namespace RuleSet

/-- A rule set refuses two rules of one name, and disabled rules. -/
def make (rules : List ConfiguredRule) : Except Error RuleSet :=
  if hn : (rules.map (·.ruleId)).Nodup then
    match he : rules.find? (!·.config.enabled) with
    | some r => .error (.activeDisabled r.ruleId)
    | none => .ok ⟨rules, hn, fun r hr => by simpa using List.find?_eq_none.1 he r hr⟩
  else .error .activeRepeated

/-- Identifiers in order. -/
def ruleIds (s : RuleSet) : List String := s.rules.map (·.ruleId)

end RuleSet

/-- Registered rules: their definitions and their current configurations, both by identifier and in
the order of registration. -/
structure Registry where
  definitions : Table RuleDefinition := .empty
  configs : Table RuleConfig := .empty

namespace Registry

/-- Identifiers in order of registration. -/
def ruleIds (r : Registry) : List String := r.definitions.keys

/-- The registered rules with their configurations, in order of registration. -/
def rules (r : Registry) : List ConfiguredRule :=
  r.definitions.entries.filterMap fun e => (r.configs.get? e.1).map fun config => ⟨e.2, config⟩

/-- The definition of a rule, or a refusal that lists the known ones. -/
def definition (r : Registry) (ruleId : String) : Except Error RuleDefinition :=
  match r.definitions.get? ruleId with
  | some d => .ok d
  | none => .error (RuleError.unknown ruleId r.ruleIds).raise

/-- The configuration that is kept for an identifier. -/
def config (r : Registry) (ruleId : String) : Except Error RuleConfig :=
  match r.configs.get? ruleId with
  | some c => .ok c
  | none => .error (.noConfig ruleId)

/-- The registered rule of an identifier. -/
def get (r : Registry) (ruleId : String) : Except Error ConfiguredRule := do
  let definition ← r.definition ruleId
  let config ← r.config ruleId
  return ⟨definition, config⟩

/-- Adds a rule, at its defaults, under its own identifier. -/
def register (r : Registry) (ruleId : String) (d : RuleDefinition) : Except Error Registry :=
  if ruleId ≠ d.ruleId then .error (.idMismatch ruleId d.ruleId)
  else if ruleId ∈ r.ruleIds then .error (RuleError.duplicate ruleId).raise
  else .ok ⟨r.definitions.insert ruleId d, r.configs.insert ruleId d.defaults⟩

/-- The registry of some rules, registered in order on top of those that are there. -/
def registerAll (r : Registry) : List RuleDefinition → Except Error Registry
  | [] => .ok r
  | d :: rest => do
    let r ← r.register d.ruleId d
    r.registerAll rest

/-- The registry of some rules. -/
def ofDefinitions (definitions : List RuleDefinition) : Except Error Registry :=
  registerAll {} definitions

/-- New configurations for the groups of options, with the notes on ignored options. The
registry is only read. -/
def resolveGroups (r : Registry) (strict : Bool) :
    List (String × Table Value) → Except Error (List (String × RuleConfig) × List Diagnostic)
  | [] => .ok ([], [])
  | (ruleId, options) :: rest => do
    let rule ← r.get ruleId
    let (config, notes) ← resolveOptions rule.definition rule.config options strict
    let (configs, others) ← r.resolveGroups strict rest
    return ((ruleId, config) :: configs, notes ++ others)

/-- Configures several rules at once: all of them, or none if an option is refused. -/
def configureMany (r : Registry) (options : Table Value) (strict : Bool) :
    Except Error (Registry × List Diagnostic) := do
  let grouped ← splitOptions options
  let (configs, notes) ← r.resolveGroups strict grouped.entries
  -- nothing is changed before every group has been resolved
  return ({ r with configs := r.configs.insertAll configs }, notes)

/-- Configures one rule. -/
def configure (r : Registry) (ruleId : String) (options : Value) (strict : Bool) :
    Except Error (Registry × List Diagnostic) :=
  r.configureMany (Table.ofList [(ruleId, options)]) strict

/-- Puts a rule back to its defaults. -/
def reset (r : Registry) (ruleId : String) : Except Error Registry := do
  let definition ← r.definition ruleId
  return { r with configs := r.configs.insert ruleId definition.defaults }

/-- Rules with the configurations kept for them, from first to last. -/
def withConfigs (r : Registry) :
    List (String × RuleDefinition) → Except Error (List ConfiguredRule)
  | [] => .ok []
  | (ruleId, definition) :: rest => do
    let config ← r.config ruleId
    let others ← r.withConfigs rest
    return ⟨definition, config⟩ :: others

/-- The enabled rules with their current configurations. -/
def snapshot (r : Registry) : Except Error RuleSet := do
  let rules ← r.withConfigs r.definitions.entries
  RuleSet.make (rules.filter (·.config.enabled))

/-- Whether a value is the identifier of a registered rule. Lists, tables and sets that are not
frozen can be no key; values of other classes are taken to be hashable. -/
def contains (r : Registry) (v : Value) : Except Error Bool := do
  checkKey v
  match v with
  | .text t => return r.ruleIds.contains t
  | _ => return false
where
  /-- A key holds nothing that can change. -/
  checkKey : Value → Except Error Unit
    | .list items => .error (.unhashable (Value.list items).kindName)
    | .set false members => .error (.unhashable (Value.set false members).kindName)
    | .table entries => .error (.unhashable (Value.table entries).kindName)
    | .mapping entries => .error (.unhashable (Value.mapping entries).kindName)
    | .tuple items => checkKeys items
    | _ => .ok ()
  /-- The items of a tuple, from first to last. -/
  checkKeys : List Value → Except Error Unit
    | [] => .ok ()
    | item :: rest => do
      checkKey item
      checkKeys rest

/-- The built-in rules at their defaults. -/
def builtin : Registry where
  definitions := Table.ofList (builtinRules.map fun d => (d.ruleId, d))
  configs := Table.ofList (builtinRules.map fun d => (d.ruleId, d.defaults))

end Registry

end Conformance
