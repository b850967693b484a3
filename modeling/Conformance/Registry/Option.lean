import Conformance.Rule.Definition

/-!
# Options of a rule

Options are given as a table of names and values. Each name is the enabled flag, the severity, the
profile or a threshold of the rule; any other name is refused in strict mode and otherwise noted
and ignored. A threshold that is set explicitly wins over one that comes from a profile given in
the same options, and both win over the current configuration.
-/

set_option autoImplicit false

namespace Conformance

/-- A note on an option that was ignored. -/
structure Diagnostic where
  ruleId : String
  option : String
  message : String

namespace Diagnostic

/-- An ignored option is worth a note, no more. -/
def severity (_ : Diagnostic) : Severity := .info

/-- The note in one line. -/
def text (d : Diagnostic) : String :=
  d.severity.label ++ ": " ++ d.ruleId ++ "." ++ d.option ++ ": " ++ d.message

end Diagnostic

/-- What the options of one rule have settled so far. -/
structure Choices where
  enabled : Option Bool := none
  severity : Option Severity := none
  profile : Option String := none
  thresholds : Table Value := .empty
  diagnostics : List Diagnostic := []

namespace Choices

/-- The refusal of an option's value. The reason quotes the value, and where that cannot be done its
failure takes the place of the refusal. -/
def refuse {α : Type} (d : RuleDefinition) (option : String) (reason : Except Error String) :
    Except Error α := do
  .error (RuleError.invalidOption d.ruleId option (← reason)).raise

/-- The enabled flag is a truth value. -/
def readEnabled (d : RuleDefinition) : Value → Except Error Bool
  | .bool b => .ok b
  | v => refuse d "enabled" (do return "expected bool, got " ++ (← v.write))

/-- A severity is given as such or by its name. -/
def readSeverity (d : RuleDefinition) : Value → Except Error Severity
  | .severity s => .ok s
  | .text t =>
    match Severity.parse t with
    | .ok s => .ok s
    | .error e => refuse d "severity" (.ok e.message)
  | v => refuse d "severity" (do return "expected string, got " ++ (← v.write))

/-- A profile is the name of one of the rule's profiles. -/
def readProfile (d : RuleDefinition) (v : Value) : Except Error String :=
  match v with
  | .text t => if d.profiles.contains t then .ok t else unknown
  | _ => unknown
where
  /-- The refusal, with the names that would do. -/
  unknown : Except Error String :=
    refuse d "profile" do
      return "unknown profile " ++ (← v.write) ++ " (known: " ++
        Value.commaSeparated (Text.sorted d.profiles.keys) ++ ")"

/-- A threshold is a whole number and not negative. -/
def readThreshold (d : RuleDefinition) (option : String) : Value → Except Error Nat
  | .int n =>
    if n < 0 then refuse d option (do return "must be >= 0, got " ++ (← (Value.int n).write))
    else .ok n.toNat
  | v => refuse d option (do return "expected integer, got " ++ (← v.write))

/-- The note on an option that the rule does not have. -/
def ignored (d : RuleDefinition) (option : String) : Diagnostic where
  ruleId := d.ruleId
  option := option
  message := "unknown option ignored (known: " ++ Value.commaSeparated d.options ++ ")"

/-- Takes one more option into account. -/
def read (d : RuleDefinition) (strict : Bool) (c : Choices) (entry : String × Value) :
    Except Error Choices :=
  let (option, value) := entry
  if option = "enabled" then do
    return { c with enabled := some (← readEnabled d value) }
  else if option = "severity" then do
    return { c with severity := some (← readSeverity d value) }
  -- a rule without profiles may have a threshold of that name
  else if option = "profile" ∧ d.profiles.entries ≠ [] then do
    return { c with profile := some (← readProfile d value) }
  else if d.defaults.thresholds.contains option then do
    let n ← readThreshold d option value
    return { c with thresholds := c.thresholds.insert option (Value.ofNat n) }
  else if strict then .error (RuleError.unknownOption d.ruleId option).raise
  else .ok { c with diagnostics := c.diagnostics ++ [ignored d option] }

/-- Takes the options into account from first to last. -/
def readAll (d : RuleDefinition) (strict : Bool) :
    Choices → List (String × Value) → Except Error Choices
  | c, [] => .ok c
  | c, entry :: rest => do
    let c ← c.read d strict entry
    readAll d strict c rest

/-- The thresholds to set: those of the chosen profile, under the explicit ones. -/
def settled (d : RuleDefinition) (c : Choices) : Table Value :=
  match c.profile with
  | none => c.thresholds
  | some p => ((d.profiles.get? p).getD .empty).insertAll c.thresholds.entries

end Choices

/-- The configuration after applying options to `current`, with a note for each ignored one. -/
def resolveOptions (d : RuleDefinition) (current : RuleConfig) (options : Table Value)
    (strict : Bool) : Except Error (RuleConfig × List Diagnostic) := do
  let c ← Choices.readAll d strict {} options.entries
  let config ← current.withChanges c.enabled c.severity (c.settled d) c.profile
  return (config, c.diagnostics)

/-- A key cut at its first dot into two parts that are not empty. -/
def cutKey? (key : String) : Option (String × String) :=
  let cs := key.toList
  match cs.takeWhile (· != '.'), cs.dropWhile (· != '.') with
  | r :: rule, '.' :: o :: option =>
    some (String.ofList (r :: rule), String.ofList (o :: option))
  | _, _ => none

/-- Adds one entry to the groups. A key whose value is a table names a rule; any other key is a
rule and an option joined by a dot. -/
def splitEntry (grouped : Table (Table Value)) (entry : String × Value) :
    Except Error (Table (Table Value)) :=
  let (key, value) := entry
  match value with
  -- the key of a table is a rule as it stands, dots and all
  | .table entries =>
    .ok (grouped.insert key (((grouped.get? key).getD .empty).insertAll entries))
  | value =>
    match cutKey? key with
    | some (rule, option) =>
      .ok (grouped.insert rule (((grouped.get? rule).getD .empty).insert option value))
    | none => .error (.optionKey key)

/-- Options grouped by rule. Rules come in the order of their first mention, and of two values for
one option the later counts. -/
def splitOptions (options : Table Value) : Except Error (Table (Table Value)) :=
  go .empty options.entries
where
  /-- Groups the remaining entries. -/
  go : Table (Table Value) → List (String × Value) → Except Error (Table (Table Value))
    | grouped, [] => .ok grouped
    | grouped, entry :: rest => do
      let grouped ← splitEntry grouped entry
      go grouped rest

end Conformance
