import Conformance.Rule.Context
import Conformance.Text.Basic

/-!
# Rules

A rule is data: an identifier in kebab case, a predicate that says which elements it applies to,
a check, and the configuration it starts from. Predicates choose elements by their kind, or by the
kind of a statement or of a type. A check may fail halfway and may ask for the run to be cancelled,
so its result says what it found, how it ended and whether it cancelled.
-/

set_option autoImplicit false

namespace Conformance

/-- Which elements a rule applies to. -/
abbrev Predicate := Element → Except Error Bool

namespace Predicate

/-- Elements of one of the kinds. -/
def kindIn (kinds : List ElementKind) : Predicate := fun e => .ok (kinds.contains e.kind)

/-- Elements of one of the kinds, of which there has to be one. -/
def ofKinds (kinds : List ElementKind) : Except Error Predicate :=
  if kinds.isEmpty then .error .noElementKind else .ok (kindIn kinds)

/-- Statements of a kind. -/
def ofStatementKind (kind : StatementKind) : Predicate
  | .statement s => .ok (s.kind = kind)
  | _ => .ok false

/-- Types of a kind. -/
def ofTypeKind (kind : TypeKind) : Predicate
  | .type t => .ok (t.kind = kind)
  | _ => .ok false

end Predicate

/-- What one call of a check did. -/
structure CheckRun where
  /-- Findings made before the check ended. -/
  findings : List Finding
  /-- Why the check failed, if it did. -/
  failure : Option Error := none
  /-- Whether the check asked for the run to be cancelled. -/
  cancels : Bool := false

/-- A check of one element. -/
abbrev Check := Element → Context → CheckRun

/-- A check that either makes all its findings or fails. -/
def CheckRun.ofExcept : Except Error (List Finding) → CheckRun
  | .ok findings => { findings }
  | .error e => { findings := [], failure := some e }

/-- The findings of a check that ended well, or its failure. -/
def CheckRun.result (run : CheckRun) : Except Error (List Finding) :=
  match run.failure with
  | none => .ok run.findings
  | some e => .error e

namespace RuleId

/-- A small letter of the Latin alphabet. -/
def isSmallLetter (c : Char) : Bool := 'a' ≤ c && c ≤ 'z'

/-- A small letter or a digit. -/
def isWordChar (c : Char) : Bool := isSmallLetter c || ('0' ≤ c && c ≤ '9')

/-- Words joined by single hyphens; `afterHyphen` says that a word has to start here. -/
def isWords (afterHyphen : Bool) : List Char → Bool
  | [] => !afterHyphen
  | c :: rest =>
    if isWordChar c then isWords false rest
    else c == '-' && !afterHyphen && isWords true rest

/-- Words joined by single hyphens, the first of them starting with a letter. -/
def isKebabCase : List Char → Bool
  | [] => false
  | c :: rest => isSmallLetter c && isWords false rest

/-- An accepted identifier: kebab case, which one line feed may follow. -/
def isAccepted (id : String) : Bool :=
  let cs := id.toList
  isKebabCase cs || (cs.getLast? == some '\n' && isKebabCase cs.dropLast)

end RuleId

/-- A rule. -/
structure RuleDefinition where
  ruleId : String
  description : String
  category : RuleCategory
  appliesTo : Predicate
  check : Check
  /-- The configuration before any option is set. -/
  defaults : RuleConfig
  /-- Thresholds under a name, to be set together. -/
  profiles : Table (Table Value)
  ruleId_accepted : RuleId.isAccepted ruleId = true
  profiles_known : ∀ p ∈ profiles.entries, ∀ name ∈ p.2.keys, name ∈ defaults.thresholds.keys
  default_profile : ∀ p ∈ defaults.profile, p ∈ profiles.keys

namespace RuleDefinition

/-- Thresholds that a profile sets and the rule does not have. -/
def unknownThresholds (defaults : RuleConfig) (values : Table Value) : List String :=
  values.keys.filter fun name => !defaults.thresholds.keys.contains name

/-- A rule from its parts, or the first fault. -/
def make (ruleId description : String) (category : RuleCategory) (appliesTo : Option Predicate)
    (check : Option Check) (defaults : RuleConfig) (profiles : Table (Table Value)) :
    Except Error RuleDefinition :=
  if hid : RuleId.isAccepted ruleId = true then
    -- the predicate is asked for before the check
    match appliesTo, check with
    | none, _ => .error (.notCallable "applies_to" ruleId)
    | some _, none => .error (.notCallable "check" ruleId)
    | some appliesTo, some check =>
      match hp : profiles.entries.find? fun p => !(unknownThresholds defaults p.2).isEmpty with
      | some p =>
        .error (.profileThresholds p.1 ruleId (Text.sorted (unknownThresholds defaults p.2)))
      | none =>
        if hd : ∀ p ∈ defaults.profile, p ∈ profiles.keys then
          .ok
            { ruleId, description, category, appliesTo, check, defaults, profiles
              ruleId_accepted := hid
              profiles_known := fun p hmem name hname => by
                have h := List.find?_eq_none.1 hp p hmem
                simp only [unknownThresholds, Bool.not_eq_true', Bool.not_eq_false,
                  List.isEmpty_iff, List.filter_eq_nil_iff] at h
                simpa using h name hname
              default_profile := hd }
        else .error (.undefinedProfile (defaults.profile.getD "") ruleId)
  else .error (.notKebabCase ruleId)

/-- Names of the options that the rule takes, in order. -/
def options (d : RuleDefinition) : List String :=
  Text.sorted (["enabled", "severity"] ++ d.defaults.thresholds.keys ++
    if d.profiles.entries.isEmpty then [] else ["profile"]).eraseDups

end RuleDefinition

end Conformance
