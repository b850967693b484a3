import Conformance.Model.Part
import Conformance.Rule.Definition

/-!
# Ceilings

The built-in rules that count something and hold the count against a threshold. A rule makes one
finding per element whose count is above the threshold, with count and threshold as its details.
-/

set_option autoImplicit false

namespace Conformance

/-- A configuration at its start: enabled, a warning, with these thresholds. -/
def RuleConfig.starting (thresholds : List (String × Nat)) (profile : Option String := none) :
    RuleConfig :=
  { enabled := true, severity := .warning, thresholds := Table.ofList thresholds, profile }

/-- What there is to say of a rule without profiles. -/
structure PlainRule where
  ruleId : String
  description : String
  category : RuleCategory
  appliesTo : Predicate
  check : Check
  thresholds : List (String × Nat) := []
  accepted : RuleId.isAccepted ruleId = true := by decide

/-- The rule, at its start. -/
def PlainRule.definition (r : PlainRule) : RuleDefinition where
  ruleId := r.ruleId
  description := r.description
  category := r.category
  appliesTo := r.appliesTo
  check := r.check
  defaults := .starting r.thresholds
  profiles := .empty
  ruleId_accepted := r.accepted
  profiles_known := by simp [Table.empty]
  default_profile := by simp [RuleConfig.starting]

namespace Check

/-- A check called on an element of another kind than its own: it fails on the first part that
the element lacks, and has nothing to say if the element lacks none. -/
def onOther (parts : List Part) (element : Element) : CheckRun :=
  .ofExcept do
    element.checkParts parts
    return []

/-- A check of the elements of a form, which reads `parts` first. -/
def ofForm {α : Type} (form : Element.Form α) (parts : List Part)
    (f : α → Context → Except Error (List Finding)) : Check := fun element ctx =>
  match form.get? element with
  | some a => .ofExcept (f a ctx)
  | none => onOther parts element

section OfForm

variable {α : Type} {form : Element.Form α} {parts : List Part}
  {f : α → Context → Except Error (List Finding)} {element : Element} {ctx : Context}

theorem ofForm_of_some {a : α} (h : form.get? element = some a) :
    ofForm form parts f element ctx = .ofExcept (f a ctx) := by
  unfold ofForm
  rw [h]

theorem ofForm_of_none (h : form.get? element = none) :
    ofForm form parts f element ctx = onOther parts element := by
  unfold ofForm
  rw [h]

end OfForm

/-- A check that has nothing to say outside the domain layer, whatever it is called on. -/
def inDomain (check : Check) : Check := fun element ctx =>
  if ctx.layer = some .domain then check element ctx else { findings := [] }

end Check

namespace Builtin

/-- The finding, if there is one, as a list. -/
def atMostOne (made : Except Error (Option Finding)) : Except Error (List Finding) := do
  return (← made).toList

/-- How deeply a method nests its statements. -/
def maxIndentationDepth : RuleDefinition := PlainRule.definition
  { ruleId := "max-indentation-depth"
    description := "Only one level of indentation per method"
    category := .calisthenics
    appliesTo := Predicate.kindIn [.method]
    check := Check.ofForm .methods [.name, .nestingDepth] fun m ctx => atMostOne <|
      ctx.exceeds (.method m) ("Method '" ++ m.name ++ "' nests statements too deeply")
        m.maxNestingDepth "threshold" []
    thresholds := [("threshold", 1)] }

/-- How many calls a chain has. Chains on a builder are left alone. -/
def checkCallChain (s : Statement) (ctx : Context) : Except Error (List Finding) :=
  if (s.callTarget.map TypeReference.isBuilder).getD false then .ok []
  else match s.callChainLength with
    | none => .error (.noChainLength s.position)
    | some length => atMostOne <|
      ctx.exceeds (.statement s) "Call chain is too long" length "threshold" []

/-- How many calls a chain has. -/
def maxCallChain : RuleDefinition := PlainRule.definition
  { ruleId := "max-call-chain"
    description := "One dot per line (law of Demeter)"
    category := .calisthenics
    appliesTo := Predicate.ofStatementKind .methodCall
    check := Check.ofForm .statements [.callTarget] checkCallChain
    thresholds := [("threshold", 2)] }

/-- Number of methods and number of lines of a type, each with a finding of its own; the lines
are held against their threshold only if they were counted. -/
def checkClassSize (t : TypeDeclaration) (ctx : Context) : Except Error (List Finding) := do
  let methods ← ctx.exceeds (.type t) ("Type '" ++ t.name ++ "' has too many methods")
    t.methods.length "max_methods" [("metric", .text "methods")]
  match t.lineSpan with
  | none => return methods.toList
  | some span =>
    let lines ← ctx.exceeds (.type t) ("Type '" ++ t.name ++ "' spans too many lines")
      span "max_lines" [("metric", .text "lines"), ("profile", Value.ofText? ctx.config.profile)]
    return methods.toList ++ lines.toList

/-- How large a type is. The ceiling on its lines comes in two profiles. -/
def maxClassSize : RuleDefinition where
  ruleId := "max-class-size"
  description := "Keep all entities small"
  category := .size
  appliesTo := Predicate.kindIn [.type]
  check := Check.ofForm .types [.name, .methodCount] checkClassSize
  defaults := .starting [("max_methods", 10), ("max_lines", 50)] (some "strict")
  profiles := .ofList
    [("strict", .ofList [("max_lines", .int 50)]), ("relaxed", .ofList [("max_lines", .int 100)])]
  ruleId_accepted := by decide
  profiles_known := by
    intro p hp name hname
    simp only [Table.ofList, Table.insertAll, List.foldl, Table.insert, Table.empty, putEntry] at hp
    simp only [String.reduceEq, if_false, List.mem_cons, List.not_mem_nil, or_false] at hp
    rcases hp with rfl | rfl <;>
      simp_all [Table.keys, keysOf, Table.ofList, Table.insertAll, Table.insert, Table.empty,
        putEntry, RuleConfig.starting]
  default_profile := by
    simp [RuleConfig.starting, Table.keys, keysOf, Table.ofList, Table.insertAll, Table.insert,
      Table.empty, putEntry]

/-- Number of fields of a type, handles of the infrastructure left out. -/
def maxInstanceVariables : RuleDefinition := PlainRule.definition
  { ruleId := "max-instance-variables"
    description := "No classes with more than two instance variables"
    category := .calisthenics
    appliesTo := Predicate.kindIn [.type]
    check := Check.ofForm .types [.fields] fun t ctx => atMostOne <|
      ctx.exceeds (.type t) ("Type '" ++ t.name ++ "' has too many instance variables")
        (t.fields.filter (!·.isInfrastructureUtility)).length "threshold" []
    thresholds := [("threshold", 2)] }

/-- Number of methods of an interface. -/
def maxInterfaceMethods : RuleDefinition := PlainRule.definition
  { ruleId := "max-interface-methods"
    description := "Prefer narrow, role-specific interfaces"
    category := .solid
    appliesTo := Predicate.ofTypeKind .interface
    check := Check.ofForm .types [.name, .methodCount] fun t ctx => atMostOne <|
      ctx.exceeds (.type t) ("Interface '" ++ t.name ++ "' declares too many methods; split it")
        t.methods.length "threshold" []
    thresholds := [("threshold", 5)] }

/-- Number of statements of a method, at all depths. -/
def maxMethodSize : RuleDefinition := PlainRule.definition
  { ruleId := "max-method-size"
    description := "Keep methods short"
    category := .size
    appliesTo := Predicate.kindIn [.method]
    check := Check.ofForm .methods [.name, .statementCount] fun m ctx => atMostOne <|
      ctx.exceeds (.method m) ("Method '" ++ m.name ++ "' has too many statements")
        m.statementCount "threshold" []
    thresholds := [("threshold", 15)] }

end Builtin

end Conformance
