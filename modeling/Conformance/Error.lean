import Conformance.Seconds
import Conformance.SourcePath
import Conformance.Text.Quoted
import Conformance.Value

/-!
# Errors

Every refusal of the library is one constructor of `Error`, named for its cause. `Error.message`
holds the text and `Error.className` the class under which a failed rule is shown in a report.
-/

set_option autoImplicit false

namespace Conformance

/-- A refusal to register or configure a rule. -/
inductive RuleError where
  /-- A refusal with a wording of its own. -/
  | refused (ruleId text : String)
  /-- The rule is registered already. -/
  | duplicate (ruleId : String)
  /-- No such rule; `known` are the registered ones. -/
  | unknown (ruleId : String) (known : List String)
  /-- The rule has no such option. -/
  | unknownOption (ruleId option : String)
  /-- The option does not take this value. -/
  | invalidOption (ruleId option reason : String)
  deriving DecidableEq

namespace RuleError

/-- The rule that was to be configured. -/
def ruleId : RuleError → String
  | .refused id _ => id
  | .duplicate id => id
  | .unknown id _ => id
  | .unknownOption id _ => id
  | .invalidOption id _ _ => id

/-- The wording. -/
def message : RuleError → String
  | .refused _ text => text
  | .duplicate id => "Rule '" ++ id ++ "' is already registered"
  | .unknown id known =>
    "Unknown rule '" ++ id ++ "'" ++
      if known.isEmpty then "" else " (known: " ++ Value.commaSeparated known ++ ")"
  | .unknownOption id option => "Rule '" ++ id ++ "' has no option '" ++ option ++ "'"
  | .invalidOption id option reason =>
    "Invalid value for '" ++ id ++ "." ++ option ++ "': " ++ reason

/-- The class shown in reports. -/
def className : RuleError → String
  | .refused _ _ => "RuleConfigurationError"
  | .duplicate _ => "DuplicateRuleError"
  | .unknown _ _ => "UnknownRuleError"
  | .unknownOption _ _ => "UnknownRuleOptionError"
  | .invalidOption _ _ _ => "InvalidRuleOptionError"

end RuleError

/-- A unit whose evaluation ran over its time budget. -/
structure Timeout where
  path : SourcePath
  budget : Seconds
  /-- The budget to six significant digits. -/
  budgetText : String

/-- The wording. -/
def Timeout.message (t : Timeout) : String :=
  "Evaluation of '" ++ t.path.text ++ "' exceeded " ++ t.budgetText ++ "s budget"

/-- The most digits of a whole number that are read or written. -/
def digitLimit : Nat := 4300

/-- The number has more digits than are written. Irreducible, so that nothing computes the bound on
the way to something else. -/
@[irreducible] def isTooLong (n : Int) : Bool := Nat.pow 10 digitLimit ≤ n.natAbs

theorem isTooLong_natCast {n : Nat} (h : Nat.pow 10 digitLimit ≤ n) : isTooLong n = true := by
  unfold isTooLong
  rw [Int.natAbs_natCast, decide_eq_true_eq]
  exact h

/-- A number of one digit can be written. -/
theorem isTooLong_eq_false {n : Int} (h : n.natAbs < 10) : isTooLong n = false := by
  -- the bound is compared with ten, never evaluated
  have hten : 10 ^ 1 ≤ 10 ^ digitLimit := Nat.pow_le_pow_right (by decide) (by decide)
  unfold isTooLong
  rw [decide_eq_false_iff_not, Nat.pow_eq]
  omega

/-- A refusal, by its cause. -/
inductive Error where
  /-- A text that has to say something is empty. -/
  | empty (what : String)
  /-- A number is less than the least one allowed. -/
  | below (what : String) (least given : Int)
  /-- A number is not above zero. -/
  | notPositive (what given : String)
  /-- A part that must be there is left out. -/
  | absent (what : String)
  /-- Two items of one owner share what has to tell them apart. -/
  | repeated (what owner : String)
  /-- One part of a location is given without another. -/
  | needs (what required : String)
  /-- A nested statement is annotated with another depth than its nesting. -/
  | childDepth (position depth expected : Nat)
  /-- A statement directly in a method body is annotated with a depth above zero. -/
  | outerDepth (position depth : Nat)
  /-- A predicate by kind of element names no kind. -/
  | noElementKind
  /-- A location inside a method is asked for where no method is known. -/
  | noOwningMethod (ruleId : String)
  /-- A call has no recorded length. -/
  | noChainLength (position : Nat)
  /-- A threshold is not a whole number. -/
  | thresholdKind (name kind : String)
  /-- A rule has no such threshold. -/
  | noThreshold (name : String)
  /-- A rule identifier is not in kebab case. -/
  | notKebabCase (ruleId : String)
  /-- A rule lacks its predicate or its check. -/
  | notCallable (part ruleId : String)
  /-- A profile sets thresholds that the rule does not have. -/
  | profileThresholds (profile ruleId : String) (names : List String)
  /-- The default profile is none of the rule's profiles. -/
  | undefinedProfile (profile ruleId : String)
  /-- No severity has this name. -/
  | unknownSeverity (text : String)
  /-- A rule is registered under another identifier than its own. -/
  | idMismatch (given defined : String)
  /-- A registered rule has no configuration. -/
  | noConfig (ruleId : String)
  /-- A flat option key does not name a rule and an option. -/
  | optionKey (key : String)
  /-- Two active rules share an identifier. -/
  | activeRepeated
  /-- A disabled rule is among the active ones. -/
  | activeDisabled (ruleId : String)
  /-- Some severity has no count. -/
  | severityCountsIncomplete
  /-- Counts do not add up to the number of findings. -/
  | countsOff (what : String)
  /-- A number of units is negative. -/
  | negativeUnits
  /-- A configuration file has the wrong shape. -/
  | configuration (source text : String)
  /-- A rule could not be registered or configured. -/
  | rule (cause : RuleError)
  /-- A time budget was exceeded. -/
  | timeout (cause : Timeout)
  /-- A whole number is beyond the double-precision range. -/
  | overflow
  /-- A value cannot serve as a key. -/
  | unhashable (kind : String)
  /-- A value has no JSON form. -/
  | noJson (kind : String)
  /-- A key of a mapping can be no name in JSON. -/
  | noJsonName (kind : String)
  /-- The indent of a JSON text does not fit into an index. -/
  | indent
  /-- No output style has this name. -/
  | unknownStyle (name : String)
  /-- A file does not exist. -/
  | missingFile (name : String)
  /-- A file is not UTF-8 text. -/
  | notText
  /-- A file is not a TOML document. -/
  | notToml
  /-- A closing tag closes nothing, or the arguments of a tag are no literal. -/
  | markup
  /-- A component of a colour is left out. -/
  | colourComponent
  /-- A whole number has more digits than are read. -/
  | tooManyDigits (count : Nat)
  /-- A whole number has more digits than are written. -/
  | unwritten
  /-- A detail of a finding takes the name of an argument of the call that makes it. -/
  | detailName (call name : String)
  /-- A detail of a finding takes the name of an argument that the call gives by name. -/
  | detailKeyword (call name : String)
  /-- A rule asks an element for a part that elements of its kind do not have. -/
  | noPart (kind part : String)
  /-- A rule has no word for a kind of element. -/
  | noWord (kind : String)
  /-- A rule looks for something that is not there. -/
  | notFound
  /-- A failure of a user's rule, with its class and text. -/
  | raised (className text : String)

namespace Error

/-- The class shown in reports. -/
def className : Error → String
  | .absent _ | .thresholdKind _ _ | .notCallable _ _ | .unhashable _ => "TypeError"
  | .noJson _ | .noJsonName _ | .detailName _ _ | .detailKeyword _ _ => "TypeError"
  | .noThreshold _ | .noConfig _ | .noWord _ => "KeyError"
  | .noPart _ _ => "AttributeError"
  | .notFound => "RuntimeError"
  | .rule cause => cause.className
  | .timeout _ => "EvaluationTimeout"
  | .overflow | .indent => "OverflowError"
  | .missingFile _ => "FileNotFoundError"
  | .notText => "UnicodeDecodeError"
  | .notToml => "TOMLDecodeError"
  | .markup => "MarkupError"
  | .raised className _ => className
  | _ => "ValueError"

/-- The wording of a refusal to write a number. -/
def unwrittenText : String :=
  "Exceeds the limit (" ++ toString digitLimit ++
    " digits) for integer string conversion; use sys.set_int_max_str_digits() to increase the limit"

/-- The numbers that a wording names, of any size. -/
def numbers : Error → List Int
  | .below _ least given => [least, given]
  | .childDepth position depth expected => [position, depth, expected]
  | .outerDepth position depth => [position, depth]
  | .noChainLength position => [position]
  | _ => []

/-- The wording. A key that was not found is shown in quotes. -/
def wording : Error → String
  | .empty what => what ++ " must not be empty"
  | .below what least given =>
    what ++ " must be >= " ++ toString least ++ ", got " ++ toString given
  | .notPositive what given => what ++ " must be > 0, got " ++ given
  | .absent what => what ++ " must not be None"
  | .repeated what owner => what ++ " in '" ++ owner ++ "' must be unique"
  | .needs what required => what ++ " requires " ++ required
  | .childDepth position depth expected =>
    "child at position " ++ toString position ++ " has depth " ++ toString depth ++
      ", expected " ++ toString expected
  | .outerDepth position depth =>
    "top-level statement at position " ++ toString position ++ " must have depth 0, got " ++
      toString depth
  | .noElementKind => "at least one element kind is required"
  | .noOwningMethod ruleId => "rule '" ++ ruleId ++ "' needs an owning method in context"
  | .noChainLength position => "statement " ++ toString position ++ " has no call_chain_length"
  | .thresholdKind name kind => "threshold '" ++ name ++ "' must be int, got " ++ kind
  | .noThreshold name => Text.quoted name
  | .noConfig ruleId => Text.quoted ruleId
  | .notKebabCase ruleId => "rule_id must be kebab-case, got " ++ Text.quoted ruleId
  | .notCallable part ruleId => part ++ " of '" ++ ruleId ++ "' must be callable"
  | .profileThresholds profile ruleId names =>
    "profile '" ++ profile ++ "' of '" ++ ruleId ++ "' sets unknown thresholds: " ++
      (Value.list (names.map .text)).quoted
  | .undefinedProfile profile ruleId =>
    "default profile '" ++ profile ++ "' of '" ++ ruleId ++ "' is not defined"
  | .unknownSeverity text => "unknown severity: " ++ Text.quoted text
  | .idMismatch given defined =>
    "rule_id '" ++ given ++ "' does not match definition id '" ++ defined ++ "'"
  | .optionKey key => "option key must be '<ruleId>.<option>', got " ++ Text.quoted key
  | .activeRepeated => "active rule ids must be unique"
  | .activeDisabled ruleId => "rule '" ++ ruleId ++ "' is disabled"
  | .severityCountsIncomplete => "severity_counts must have an entry for every severity"
  | .countsOff what => what ++ " must sum to the number of findings"
  | .negativeUnits => "unit counts must be >= 0"
  | .configuration source text => source ++ ": " ++ text
  | .rule cause => cause.message
  | .timeout cause => cause.message
  | .overflow => "int too large to convert to float"
  | .unhashable kind => "unhashable type: '" ++ kind ++ "'"
  | .noJson kind => "Object of type " ++ kind ++ " is not JSON serializable"
  | .noJsonName kind => "keys must be str, int, float, bool or None, not " ++ kind
  | .indent => "cannot fit 'int' into an index-sized integer"
  | .unknownStyle name => Text.quoted name ++ " is not a valid OutputStyle"
  | .missingFile name => "no such file: " ++ name
  | .notText => "the file is not UTF-8 text"
  | .notToml => "the file is not a TOML document"
  | .markup => "a tag is not closed in order"
  | .colourComponent => "invalid literal for int() with base 10: " ++ Text.quoted ""
  | .tooManyDigits count =>
    "Exceeds the limit (" ++ toString digitLimit ++
      " digits) for integer string conversion: value has " ++ toString count ++
      " digits; use sys.set_int_max_str_digits() to increase the limit"
  | .unwritten => unwrittenText
  | .detailName call name =>
    "RuleContext." ++ call ++ "() got multiple values for argument '" ++ name ++ "'"
  | .detailKeyword call name =>
    "calicheck.domain.model.rule.RuleContext." ++ call ++
      "() got multiple values for keyword argument '" ++ name ++ "'"
  | .noPart kind part => "'" ++ kind ++ "' object has no attribute '" ++ part ++ "'"
  | .noWord kind => kind
  | .notFound => "generator raised StopIteration"
  | .raised className text => if className = "KeyError" then Text.quoted text else text

/-- The text. An error that would name a number too long to be written is replaced, while it is
made, by the refusal to write the number, which is of the same class. A class of a user may have no
text at all; what becomes of an evaluation then is a matter of `Evaluator.evaluateTelling`. -/
def message (e : Error) : String :=
  if e.numbers.any isTooLong then unwrittenText else e.wording

end Error

namespace Value

mutual

/-- Why the quoted text of a value cannot be formed, if it cannot; the parts of a container are
written from first to last. -/
def textFault? : Value → Option Error
  | .int n => if isTooLong n then some .unwritten else none
  | .list items | .tuple items | .set _ items => itemsFault? items
  | .table entries => entriesFault? entries
  | .mapping entries => pairsFault? entries
  | .object o => o.fault?.map fun fault => .raised fault.1 fault.2
  | _ => none

/-- The first fault of items. -/
def itemsFault? : List Value → Option Error
  | [] => none
  | v :: rest => v.textFault?.or (itemsFault? rest)

/-- The first fault of entries. -/
def entriesFault? : List (String × Value) → Option Error
  | [] => none
  | (_, v) :: rest => v.textFault?.or (entriesFault? rest)

/-- The first fault of the entries of a mapping. -/
def pairsFault? : List (Value × Value) → Option Error
  | [] => none
  | (key, v) :: rest => (key.textFault?.or v.textFault?).or (pairsFault? rest)

end

/-- The quoted text of a value, or why it cannot be formed. -/
def write (v : Value) : Except Error String :=
  match v.textFault? with
  | some fault => .error fault
  | none => .ok v.quoted

end Value

/-- Two steps succeed together if the first succeeds and the second does on its result. -/
theorem bind_ok_iff {α β : Type} {step : Except Error α} {next : α → Except Error β} {b : β} :
    step >>= next = .ok b ↔ ∃ a, step = .ok a ∧ next a = .ok b := by
  constructor
  · intro h
    cases step with
    | error e => exact absurd h (by simp [bind, Except.bind])
    | ok a => exact ⟨a, rfl, h⟩
  · rintro ⟨a, rfl, h⟩
    exact h

/-- The error that a refusal leads to. A refusal without an option, a reason or a rule to speak of
is itself an error. -/
def RuleError.raise (cause : RuleError) : Error :=
  match cause with
  | .unknownOption id option =>
    if option = "" then .empty "option" else if id = "" then .empty "rule_id" else .rule cause
  | .invalidOption id option reason =>
    if option = "" then .empty "option"
    else if reason = "" then .empty "reason"
    else if id = "" then .empty "rule_id" else .rule cause
  | cause => if cause.ruleId = "" then .empty "rule_id" else .rule cause

/-- A timeout needs a budget above zero whose size can be written down. -/
def Timeout.make (path : SourcePath) (budget : Seconds) : Except Error Timeout :=
  if budget.isAtMostZero then .error (.notPositive "budget_s" budget.text)
  else match budget.briefText? with
    | some text => .ok ⟨path, budget, text⟩
    | none => .error .overflow

/-- The severity that a text names. -/
def Severity.parse (text : String) : Except Error Severity :=
  match Severity.ofText? text with
  | some s => .ok s
  | none => .error (.unknownSeverity text)

end Conformance
