import Conformance.Evaluation.Basic

/-!
# Evaluation under a time budget

With a budget the clock is read once to set a deadline and once before each site. The first
reading after the deadline abandons the unit: what was found so far is dropped and one finding
says so. A clock is the sequence of its readings.
-/

set_option autoImplicit false

namespace Conformance

/-- The readings of a clock, in the order in which they are taken. -/
abbrev Clock := Nat → Seconds

/-- What evaluating a unit produced, and how many clock readings it took. -/
structure Evaluation extends Outcome where
  readings : Nat

namespace SourceUnit

/-- The first site, counted from zero, before which the clock is past the deadline. -/
def lateSite? (u : SourceUnit) (deadline : Seconds) (clock : Clock) : Option Nat :=
  (List.range u.sites.length).find? fun i => deadline.lt (clock (i + 1))

/-- The finding about a unit that was abandoned. -/
def timeoutNote (u : SourceUnit) (t : Timeout) : Finding :=
  (Site.unit u).note u.path incompleteModelData ("Analysis abandoned: " ++ t.message)
    [("reason", .text "time-budget-exceeded"), ("budget_s", t.budget.toValue)]

/-- The outcome of a unit under a time budget. -/
def evaluateWithin (u : SourceUnit) (rules : RuleSet) (budget : Seconds) (clock : Clock) :
    Except Error Evaluation :=
  -- without rules the clock is not read at all
  if rules.rules.isEmpty then .ok { u.evaluate rules with readings := 0 }
  else match (clock 0).add? budget with
    | none => .error .overflow
    | some deadline =>
      -- the deadline is set before the unit is looked at
      if !u.missing.isEmpty then .ok { u.evaluate rules with readings := 1 }
      else match u.lateSite? deadline clock with
        | none => .ok { u.evaluate rules with readings := 1 + u.sites.length }
        | some i => do
          let t ← Timeout.make u.path budget
          -- the checks at earlier sites have run, and what they asked for stands
          return { findings := [u.timeoutNote t]
                   cancels := u.visitCancels rules.rules (u.sites.take i)
                   readings := i + 2 }

end SourceUnit

/-- Evaluates units, each within the budget if there is one. -/
structure Evaluator where
  budget : Option Seconds

namespace Evaluator

/-- A budget is above zero. -/
def make (budget : Option Seconds) : Except Error Evaluator :=
  match budget with
  | none => .ok ⟨none⟩
  | some b =>
    if b.isAtMostZero then .error (.notPositive "time_budget_s" b.text) else .ok ⟨some b⟩

/-- The outcome of a unit. -/
def evaluate (e : Evaluator) (u : SourceUnit) (rules : RuleSet) (clock : Clock) :
    Except Error Evaluation :=
  match e.budget with
  | none => .ok { u.evaluate rules with readings := 0 }
  | some budget => u.evaluateWithin rules budget clock

end Evaluator

end Conformance
