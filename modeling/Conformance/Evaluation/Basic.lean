import Conformance.Evaluation.Site

/-!
# Evaluation of a unit

Every rule of a rule set is run on every site of a unit. What goes wrong on the way becomes a
finding: a rule that fails, an element that the front end described incompletely, a unit without a
layer. Nothing that a rule does keeps another rule, or the same rule elsewhere, from running, as
long as every failure has a text to put into its finding. Here every error has one; the same
evaluation with failures that may have none is `Evaluator.evaluateTelling`.
-/

set_option autoImplicit false

namespace Conformance

/-- Identifier of findings about data that the front end left out. -/
def incompleteModelData : String := "incomplete-model-data"

/-- Identifier of findings about rules that failed. -/
def ruleFault : String := "rule-fault"

/-- What visiting sites produced. -/
structure Outcome where
  findings : List Finding
  /-- Whether some check asked for the run to be cancelled. -/
  cancels : Bool

namespace Site

/-- A finding of the evaluation itself. -/
def note (path : SourcePath) (site : Site) (ruleId message : String) (payload : Payload) :
    Finding where
  ruleId := ruleId
  severity := .info
  location := site.location path
  message := message
  category := .diagnostic
  payload := payload

/-- The finding about a rule that failed, with the class and the text of its failure. -/
def failureNote (path : SourcePath) (site : Site) (rule : ConfiguredRule)
    (className text : String) : Finding :=
  site.note path ruleFault
    ("Rule '" ++ rule.ruleId ++ "' failed: " ++ className ++ ": " ++ text)
    [("failed_rule", .text rule.ruleId), ("error", .text className)]

/-- The finding about a rule that failed with an error. -/
def faultNote (path : SourcePath) (site : Site) (rule : ConfiguredRule) (e : Error) : Finding :=
  site.failureNote path rule e.className e.message

/-- The finding about an element whose checks were skipped. -/
def incompleteNote (path : SourcePath) (site : Site) (applicable : List ConfiguredRule) :
    Finding :=
  let ids := applicable.map (·.ruleId)
  site.note path incompleteModelData
    ("Checks skipped (" ++ Value.commaSeparated ids ++ "), front-end left out: " ++
      Value.commaSeparated site.element.missing)
    [("missing", Value.texts site.element.missing), ("skipped_rules", Value.texts ids)]

/-- Whether a rule applies; a predicate that fails does not. -/
def applies (site : Site) (rule : ConfiguredRule) : Bool :=
  match rule.definition.appliesTo site.element with
  | .ok b => b
  | .error _ => false

/-- The finding about a predicate that failed. -/
def predicateFault? (path : SourcePath) (site : Site) (rule : ConfiguredRule) : Option Finding :=
  match rule.definition.appliesTo site.element with
  | .ok _ => none
  | .error e => some (site.faultNote path rule e)

/-- One call of a rule's check. -/
def checkRun (u : SourceUnit) (site : Site) (rule : ConfiguredRule) : CheckRun :=
  rule.definition.check site.element (site.context u rule)

/-- What a check contributes: all its findings, or one finding about its failure. -/
def checkFindings (u : SourceUnit) (site : Site) (rule : ConfiguredRule) : List Finding :=
  match (site.checkRun u rule).result with
  | .ok findings => findings
  | .error e => [site.faultNote u.path rule e]

/-- Runs the rules on one site. -/
def visit (u : SourceUnit) (rules : List ConfiguredRule) (site : Site) : Outcome :=
  -- a predicate that failed is noted even where no rule applies
  let faults := rules.filterMap (site.predicateFault? u.path)
  let applicable := rules.filter site.applies
  if applicable.isEmpty then ⟨faults, false⟩
  else if !site.element.missing.isEmpty then
    ⟨faults ++ [site.incompleteNote u.path applicable], false⟩
  else
    ⟨faults ++ applicable.flatMap (site.checkFindings u),
      applicable.any fun rule => (site.checkRun u rule).cancels⟩

end Site

namespace SourceUnit

/-- The finding about a unit without a layer. -/
def missingNote (u : SourceUnit) : Finding :=
  (Site.unit u).note u.path incompleteModelData
    ("Unit skipped, front-end left out: " ++ Value.commaSeparated u.missing)
    [("missing", Value.texts u.missing)]

/-- The findings of all sites, in the order of the visit. -/
def visitFindings (u : SourceUnit) (rules : List ConfiguredRule) : List Finding :=
  u.sites.flatMap fun site => (site.visit u rules).findings

/-- Whether a check at one of the sites asked for the run to be cancelled. -/
def visitCancels (u : SourceUnit) (rules : List ConfiguredRule) (sites : List Site) : Bool :=
  sites.any fun site => (site.visit u rules).cancels

/-- The outcome of a unit without a time budget. -/
def evaluate (u : SourceUnit) (rules : RuleSet) : Outcome :=
  if rules.rules.isEmpty then ⟨[], false⟩
  else if !u.missing.isEmpty then ⟨[u.missingNote], false⟩
  else ⟨sortFindings (u.visitFindings rules.rules), u.visitCancels rules.rules u.sites⟩

end SourceUnit

end Conformance
