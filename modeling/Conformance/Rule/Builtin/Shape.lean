import Conformance.Rule.Builtin.Ceiling
import Conformance.Text.Letter

/-!
# Branches and names

The built-in rules on how code is shaped and worded in any layer: no else branches, no
abbreviated names.
-/

set_option autoImplicit false

namespace Conformance.Builtin

/-- An if statement with an else branch is found once, with the place of its first branch. -/
def checkNoElse (s : Statement) (ctx : Context) : Except Error (List Finding) :=
  if s.hasElse then
    match s.elseBranches with
    | [] => .error .notFound
    | branch :: _ => do
      let f ← ctx.finding (.statement s)
        "If statement has an else branch; return early or use polymorphism"
        [("else_position", Value.ofNat branch.position)]
      return [f]
  else .ok []

/-- No else branches. -/
def noElseBranch : RuleDefinition := PlainRule.definition
  { ruleId := "no-else-branch"
    description := "Don't use the else keyword"
    category := .calisthenics
    appliesTo := Predicate.ofStatementKind .if_
    check := Check.ofForm .statements [.elseBranch] checkNoElse }

/-- A vowel in either case. The capital I with a dot above counts, since its small form is an `i`
and a combining dot. -/
def isVowel (c : Char) : Bool := "aeiouyAEIOUY".toList.contains c || c.toNat == 0x130

/-- A name with letters, none of which is a vowel; what is no letter is passed over. -/
def isAllConsonant (name : String) : Bool :=
  let letters := name.toList.filter Text.isLetter
  !letters.isEmpty && letters.all (!isVowel ·)

/-- At most one finding about a name: it is too short, or else it has no vowel. -/
def checkName (kind name : String) (element : Element) (ctx : Context) :
    Except Error (List Finding) := do
  let least ← ctx.config.threshold "min_length"
  let length := name.length
  if length < least then
    let f ← ctx.finding element
      (kind ++ " name '" ++ name ++ "' is too short: " ++ toString length ++ " < " ++
        toString least)
      [("measured", Value.ofNat length), ("threshold", Value.ofNat least),
        ("reason", .text "too-short")]
    return [f]
  else if isAllConsonant name then
    let f ← ctx.finding element
      (kind ++ " name '" ++ name ++ "' looks abbreviated (no vowels)")
      [("reason", .text "all-consonant")]
    return [f]
  else return []

/-- The names of types, methods and fields. There is no word for the name of a parameter. -/
def checkNoAbbreviation : Check
  | .type t, ctx => .ofExcept (checkName "Type" t.name (.type t) ctx)
  | .method m, ctx => .ofExcept (checkName "Method" m.name (.method m) ctx)
  | .field f, ctx => .ofExcept (checkName "Field" f.name (.field f) ctx)
  | .parameter _, _ => .ofExcept (.error (.noWord "<ElementKind.PARAMETER: 4>"))
  | element, _ => Check.onOther [.name] element

/-- No abbreviated names. -/
def noAbbreviation : RuleDefinition := PlainRule.definition
  { ruleId := "no-abbreviation"
    description := "Don't abbreviate names"
    category := .naming
    appliesTo := Predicate.kindIn [.type, .method, .field]
    check := checkNoAbbreviation
    thresholds := [("min_length", 3)] }

end Conformance.Builtin
