import Conformance.Rule.Definition

/-!
# Rules for samples

The predicates and checks of rules are functions, and those of users may do anything. Where a
particular one is wanted, a predicate may give one answer to everything or fail, and a check may be
a list of steps that are carried out in order until one of them fails.

Nothing in the checker makes rules of this form: they serve as examples, for the samples that follow
general theorems, and for tests. What is proved of all rules does not refer to them.
-/

set_option autoImplicit false

namespace Conformance

namespace Predicate

/-- The same answer for every element, by the truth of a value. -/
def constant (v : Value) : Predicate := fun _ => .ok v.truth

/-- Fails on every element. -/
def failing (e : Error) : Predicate := fun _ => .error e

end Predicate

/-- One step of a check. -/
inductive CheckStep where
  /-- Makes a finding. -/
  | report (message : String) (payload : Payload)
  /-- Makes a finding if a value is above a threshold of the rule. -/
  | exceeds (message : String) (measured : Int) (option : String) (payload : Payload)
  /-- Fails. -/
  | fail (cause : Error)
  /-- Asks for the run to be cancelled. -/
  | cancel

namespace CheckStep

/-- The findings that a step makes. -/
def findings (element : Element) (ctx : Context) : CheckStep → Except Error (List Finding)
  | .report message payload => do return [← ctx.finding element message payload]
  | .exceeds message measured option payload => do
    return (← ctx.exceeds element message measured option payload).toList
  | .fail cause => .error cause
  | .cancel => .ok []

/-- Carries out the steps in order, up to the first that fails. -/
def run (element : Element) (ctx : Context) : List CheckStep → CheckRun
  | [] => { findings := [] }
  | step :: rest =>
    match step.findings element ctx with
    | .error cause => { findings := [], failure := some cause }
    | .ok made =>
      let after := run element ctx rest
      { findings := made ++ after.findings
        failure := after.failure
        cancels := (step matches .cancel) || after.cancels }

/-- The check of a list of steps. -/
def toCheck (steps : List CheckStep) : Check := fun element ctx => run element ctx steps

end CheckStep

end Conformance
