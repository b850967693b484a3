import Conformance.Rule.Builtin.DomainLayer
import Conformance.Rule.Builtin.Shape

/-!
# The built-in rules

The order is the order of registration and hence the order in which rules run on an element.
-/

set_option autoImplicit false

namespace Conformance

/-- Version of the rule catalogue. -/
def version : String := "0.1.0"

/-- All built-in rules, in order. -/
def builtinRules : List RuleDefinition :=
  [Builtin.maxIndentationDepth, Builtin.noElseBranch, Builtin.wrapPrimitives,
    Builtin.firstClassCollection, Builtin.maxCallChain, Builtin.noAbbreviation,
    Builtin.maxClassSize, Builtin.maxInstanceVariables, Builtin.noAccessorMethods,
    Builtin.layeredDependency, Builtin.maxInterfaceMethods, Builtin.maxMethodSize]

/-- A definition is that of a built-in rule. -/
inductive IsBuiltin : RuleDefinition → Prop
  | maxIndentationDepth : IsBuiltin Builtin.maxIndentationDepth
  | noElseBranch : IsBuiltin Builtin.noElseBranch
  | wrapPrimitives : IsBuiltin Builtin.wrapPrimitives
  | firstClassCollection : IsBuiltin Builtin.firstClassCollection
  | maxCallChain : IsBuiltin Builtin.maxCallChain
  | noAbbreviation : IsBuiltin Builtin.noAbbreviation
  | maxClassSize : IsBuiltin Builtin.maxClassSize
  | maxInstanceVariables : IsBuiltin Builtin.maxInstanceVariables
  | noAccessorMethods : IsBuiltin Builtin.noAccessorMethods
  | layeredDependency : IsBuiltin Builtin.layeredDependency
  | maxInterfaceMethods : IsBuiltin Builtin.maxInterfaceMethods
  | maxMethodSize : IsBuiltin Builtin.maxMethodSize

theorem isBuiltin_of_mem {d : RuleDefinition} (h : d ∈ builtinRules) : IsBuiltin d := by
  unfold builtinRules at h
  simp only [List.mem_cons, List.not_mem_nil, or_false] at h
  rcases h with rfl | rfl | rfl | rfl | rfl | rfl | rfl | rfl | rfl | rfl | rfl | rfl <;>
    constructor

/-- No two built-in rules share an identifier. -/
theorem nodup_builtinRules : (builtinRules.map (·.ruleId)).Nodup := by decide

end Conformance
