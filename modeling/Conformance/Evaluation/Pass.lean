import Conformance.Evaluation.Budget

/-!
# One pass over a unit

An evaluation is a pass over the sites of a unit. The pass collects findings as it goes, reads the
clock before each site if there is a deadline, and can be broken off by an error.

An error comes from one of two sides. A rule may fail: its error is caught where the rule was
called and becomes a finding. Or the deadline is past: this error leaves the pass, and what the
pass has found by then is given up. Both may be timeouts. What becomes of an error is therefore a
matter of where it is raised, and not of what it is.

The finding about a rule that failed holds the text of the failure. A class of a user may run code
of its own to form this text, and the code can fail in turn. It runs where the failure has been
caught already, so its own failure leaves the pass. Which failures have a text is a parameter, a
`Teller`; the library's own errors all have one.
-/

set_option autoImplicit false

namespace Conformance

/-- How the text of a failure is formed, which may fail with another error. -/
abbrev Teller := Error → Except Error String

/-- The texts of the library. -/
def Teller.own : Teller := fun e => .ok e.message

/-- What a pass has done so far. -/
structure Progress where
  findings : List Finding := []
  /-- Whether some check asked for the run to be cancelled. -/
  cancels : Bool := false
  /-- Clock readings taken. -/
  readings : Nat := 0

/-- Part of a pass. It leaves progress behind, also if it is broken off. -/
abbrev Pass := EStateM Error Progress

/-- When a pass has to be over, and the budget that this was worked out from. -/
structure Deadline where
  moment : Seconds
  budget : Seconds

namespace Pass

/-- Adds to what the pass has found. -/
def report (findings : List Finding) : Pass Unit :=
  modify fun p => { p with findings := p.findings ++ findings }

/-- Reads the clock. -/
def now (clock : Clock) : Pass Seconds :=
  modifyGet fun p => (clock p.readings, { p with readings := p.readings + 1 })

/-- Sets the deadline. Without a budget there is none. -/
def deadline? (clock : Clock) : Option Seconds → Pass (Option Deadline)
  | none => pure none
  | some budget => do
    match (← now clock).add? budget with
    | some moment => return some ⟨moment, budget⟩
    | none => throw .overflow

/-- Breaks the pass off if the deadline is past. Without a deadline the clock is not read. -/
def checkDeadline (path : SourcePath) (clock : Clock) : Option Deadline → Pass Unit
  | none => pure ()
  | some deadline => do
    if deadline.moment.lt (← now clock) then
      throw (.timeout (← MonadExcept.ofExcept (Timeout.make path deadline.budget)))

/-- The finding about a failure. It is made outside of what catches failures. -/
def noteFailure (tell : Teller) (u : SourceUnit) (site : Site) (rule : ConfiguredRule)
    (cause : Error) : Pass Finding := do
  return site.failureNote u.path rule cause.className (← MonadExcept.ofExcept (tell cause))

/-- Asks a rule whether it applies. One that cannot tell does not, and is reported. -/
def ask (tell : Teller) (u : SourceUnit) (site : Site) (rule : ConfiguredRule) : Pass Bool :=
  tryCatch (MonadExcept.ofExcept (rule.definition.appliesTo site.element)) fun cause => do
    report [← noteFailure tell u site rule cause]
    return false

/-- Asks all rules, from first to last, and keeps those that apply. -/
def askAll (tell : Teller) (u : SourceUnit) (site : Site) :
    List ConfiguredRule → Pass (List ConfiguredRule)
  | [] => pure []
  | rule :: rest => do
    let applies ← ask tell u site rule
    let others ← askAll tell u site rest
    return if applies then rule :: others else others

/-- Calls a check. What it asked for stands even if it fails. -/
def callCheck (u : SourceUnit) (site : Site) (rule : ConfiguredRule) : Pass (List Finding) := do
  modify fun p => { p with cancels := p.cancels || (site.checkRun u rule).cancels }
  MonadExcept.ofExcept (site.checkRun u rule).result

/-- Checks a rule. If the check fails, nothing is reported but that it failed. -/
def check (tell : Teller) (u : SourceUnit) (site : Site) (rule : ConfiguredRule) : Pass Unit := do
  report (← tryCatch (callCheck u site rule) fun cause =>
    return [← noteFailure tell u site rule cause])

/-- Checks all rules, from first to last. -/
def checkAll (tell : Teller) (u : SourceUnit) (site : Site) : List ConfiguredRule → Pass Unit
  | [] => pure ()
  | rule :: rest => do
    check tell u site rule
    checkAll tell u site rest

/-- Puts the rules to a site. -/
def consult (tell : Teller) (u : SourceUnit) (rules : List ConfiguredRule) (site : Site) :
    Pass Unit := do
  let applicable ← askAll tell u site rules
  if applicable.isEmpty then return
  if !site.element.missing.isEmpty then report [site.incompleteNote u.path applicable]
  else checkAll tell u site applicable

/-- Visits one site. The deadline is checked where nothing catches the errors of rules. -/
def visit (tell : Teller) (u : SourceUnit) (rules : List ConfiguredRule) (clock : Clock)
    (deadline : Option Deadline) (site : Site) : Pass Unit := do
  checkDeadline u.path clock deadline
  consult tell u rules site

/-- Visits sites, from first to last. -/
def visitAll (tell : Teller) (u : SourceUnit) (rules : List ConfiguredRule) (clock : Clock)
    (deadline : Option Deadline) : List Site → Pass Unit
  | [] => pure ()
  | site :: rest => do
    visit tell u rules clock deadline site
    visitAll tell u rules clock deadline rest

/-- The pass over a unit. One without a layer is not visited. -/
def through (tell : Teller) (u : SourceUnit) (rules : List ConfiguredRule) (clock : Clock)
    (deadline : Option Deadline) : Pass Unit :=
  if !u.missing.isEmpty then report [u.missingNote]
  else visitAll tell u rules clock deadline u.sites

/-- Gives up what the pass has found. -/
def abandon (u : SourceUnit) (t : Timeout) : Pass Unit :=
  modify fun p => { p with findings := [u.timeoutNote t] }

/-- What becomes of an error that leaves the pass: a timeout abandons the unit. -/
def settle (u : SourceUnit) : Error → Pass Unit
  | .timeout t => abandon u t
  | cause => throw cause

end Pass

namespace Evaluator

/-- Sets the deadline and passes over the unit. -/
def pass (e : Evaluator) (tell : Teller) (u : SourceUnit) (rules : RuleSet) (clock : Clock) :
    Pass Unit :=
  if rules.rules.isEmpty then pure ()
  else do
    let deadline ← Pass.deadline? clock e.budget
    tryCatch (Pass.through tell u rules.rules clock deadline) (Pass.settle u)

/-- The outcome of a unit, with failures that may have no text. -/
def evaluateTelling (e : Evaluator) (tell : Teller) (u : SourceUnit) (rules : RuleSet)
    (clock : Clock) : Except Error Evaluation :=
  match (e.pass tell u rules clock).run {} with
  | .ok () p =>
    .ok { findings := sortFindings p.findings, cancels := p.cancels, readings := p.readings }
  | .error cause _ => .error cause

/-- The outcome of a unit, found by one pass. -/
def evaluateByPass (e : Evaluator) (u : SourceUnit) (rules : RuleSet) (clock : Clock) :
    Except Error Evaluation :=
  e.evaluateTelling .own u rules clock

end Evaluator

end Conformance
