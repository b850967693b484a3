import Conformance.Evaluation.Budget
import Conformance.Run.Report

/-!
# Runs

A run evaluates many units against one rule set. Units are evaluated one after another or by
workers; a schedule says which worker took up which unit, in which order they did so and finished,
and when requests for cancellation took effect. The findings of the analysed units are put together
in the order of the input and sorted, so the schedule shows only in which units were skipped.
-/

set_option autoImplicit false

namespace Conformance

/-- How a run is carried out. -/
structure Settings where
  /-- Units evaluated at a time; one at a time if left out. -/
  maxWorkers : Option Nat := none
  /-- Time budget of each unit, if there is one. -/
  budget : Option Seconds := none
  /-- Whether unknown options are refused. -/
  strictOptions : Bool := false

namespace Settings

/-- There is at least one worker, and a budget is above zero. -/
def make (maxWorkers : Option Int) (budget : Option Seconds) (strictOptions : Bool) :
    Except Error Settings :=
  match maxWorkers.filter (· < 1) with
  | some n => .error (.below "max_workers" 1 n)
  | none =>
    match budget.filter (·.isAtMostZero) with
    | some b => .error (.notPositive "time_budget_s" b.text)
    | none => .ok ⟨maxWorkers.map Int.toNat, budget, strictOptions⟩

/-- Whether units are evaluated by several workers. -/
def isParallel (s : Settings) : Bool := s.maxWorkers.any fun n => 1 < n

end Settings

/-- The cancel signal of a run: none is watched, or it is set or not. -/
abbrev Signal := Option Bool

/-- The signal after a unit. -/
def Signal.after (signal : Signal) (cancels : Bool) : Signal := signal.map (· || cancels)

/-- What became of each unit, in input order: its findings, or nothing if it was skipped. -/
abbrev UnitResults := List (Option (List Finding))

/-- Evaluates units one after another, until the signal is set. `taken` clock readings have been
taken so far. -/
def runSerial (e : Evaluator) (rules : RuleSet) (clock : Clock) (signal : Signal) (taken : Nat) :
    List SourceUnit → Except Error UnitResults
  | [] => .ok []
  | u :: rest =>
    -- the signal is looked at between two units, never within one
    if signal = some true then .ok (none :: rest.map fun _ => none)
    else do
      let result ← e.evaluate u rules fun n => clock (taken + n)
      let others ← runSerial e rules clock (signal.after result.cancels) (taken + result.readings)
        rest
      return some result.findings :: others

/-- An event in a pool of workers. -/
inductive WorkerEvent where
  /-- A worker takes up a unit: it looks at the signal and evaluates the unit or skips it. -/
  | start (worker index : Nat)
  /-- The request for cancellation of a worker's unit, if it makes one, takes effect. -/
  | signal (worker : Nat)
  /-- A worker hands in what became of its unit. -/
  | finish (worker : Nat)
  deriving DecidableEq

/-- Events in the order in which they happen. -/
abbrev Schedule := List WorkerEvent

namespace Schedule

/-- A worker with the unit it has taken up, and whether that unit had its chance to cancel. -/
structure Slot where
  worker : Nat
  index : Nat
  signalled : Bool

/-- The events that can happen while some units wait and some workers are busy. Free workers take
up waiting units in any order, and busy ones finish in any order; a unit's request takes effect
while its worker is busy. In the end no unit waits and no worker is busy. -/
inductive Proceeds (workers : Nat) : List Nat → List Slot → Schedule → Prop
  | done : Proceeds workers [] [] []
  | start {waiting : List Nat} {busy : List Slot} {rest : Schedule} {worker index : Nat}
      (hired : worker < workers) (free : ∀ slot ∈ busy, slot.worker ≠ worker)
      (due : index ∈ waiting)
      (next : Proceeds workers (waiting.erase index) (⟨worker, index, false⟩ :: busy) rest) :
      Proceeds workers waiting busy (.start worker index :: rest)
  | signal {waiting : List Nat} {busy : List Slot} {rest : Schedule} {slot : Slot}
      (works : slot ∈ busy)
      (next : Proceeds workers waiting
        (busy.map fun s => { s with signalled := s.signalled || s.worker == slot.worker }) rest) :
      Proceeds workers waiting busy (.signal slot.worker :: rest)
  | finish {waiting : List Nat} {busy : List Slot} {rest : Schedule} {slot : Slot}
      (works : slot ∈ busy) (signalled : slot.signalled = true)
      (next : Proceeds workers waiting (busy.filter (·.worker != slot.worker)) rest) :
      Proceeds workers waiting busy (.finish slot.worker :: rest)

/-- The workers take up all of the units, each once, and finish them. -/
def Valid (workers count : Nat) (s : Schedule) : Prop :=
  Proceeds workers (List.range count) [] s

/-- One unit after another, by one worker. -/
def inOrder (count : Nat) : Schedule :=
  (List.range count).flatMap fun i => [.start 0 i, .signal 0, .finish 0]

end Schedule

/-- A busy worker, with what becomes of the unit it has taken up. -/
structure Task where
  worker : Nat
  index : Nat
  result : Option Evaluation

/-- A pool of workers between two events. -/
structure Pool where
  signal : Signal
  /-- Clock readings taken so far. -/
  taken : Nat
  busy : List Task
  /-- What became of the units that are finished. -/
  done : List (Nat × Option Evaluation)

namespace Pool

/-- The task of a busy worker. -/
def task? (pool : Pool) (worker : Nat) : Option Task := pool.busy.find? (·.worker == worker)

/-- What one event does to the pool. -/
def step (e : Evaluator) (rules : RuleSet) (clock : Clock) (units : List SourceUnit)
    (pool : Pool) : WorkerEvent → Except Error Pool
  | .start worker i =>
    match units[i]? with
    | none => .ok pool
    | some u =>
      if pool.signal = some true then .ok { pool with busy := ⟨worker, i, none⟩ :: pool.busy }
      else do
        let result ← e.evaluate u rules fun n => clock (pool.taken + n)
        return { pool with
          taken := pool.taken + result.readings
          busy := ⟨worker, i, some result⟩ :: pool.busy }
  | .signal worker =>
    let cancels := (pool.task? worker).any fun task => task.result.any (·.cancels)
    .ok { pool with signal := pool.signal.after cancels }
  | .finish worker =>
    match pool.task? worker with
    | none => .ok pool
    | some task => .ok
      { pool with
        busy := pool.busy.filter (·.worker != worker)
        done := (task.index, task.result) :: pool.done }

/-- What a sequence of events does to the pool. -/
def steps (e : Evaluator) (rules : RuleSet) (clock : Clock) (units : List SourceUnit) :
    Pool → Schedule → Except Error Pool
  | pool, [] => .ok pool
  | pool, event :: rest => do
    let pool ← pool.step e rules clock units event
    steps e rules clock units pool rest

/-- The results in input order. -/
def results (pool : Pool) (count : Nat) : UnitResults :=
  (List.range count).map fun i => ((pool.done.lookup i).getD none).map (·.findings)

end Pool

/-- Evaluates units by workers, as the schedule says. -/
def runParallel (e : Evaluator) (rules : RuleSet) (clock : Clock) (signal : Signal)
    (schedule : Schedule) (units : List SourceUnit) : Except Error UnitResults := do
  let pool ← Pool.steps e rules clock units ⟨signal, 0, [], []⟩ schedule
  return pool.results units.length

/-- The report of the results: the findings of the analysed units in input order, sorted. -/
def reportOf (results : UnitResults) : Except Error Report :=
  let analyzed := results.filterMap id
  let skipped := results.length - analyzed.length
  Report.summarize (sortFindings analyzed.flatten) analyzed.length skipped (0 < skipped)

/-- What a run is carried out with. -/
structure Runner where
  registry : Registry
  settings : Settings := {}
  /-- Replaces the evaluator that the settings describe. -/
  evaluator : Option Evaluator := none

/-- The evaluator of a run. -/
def Runner.effectiveEvaluator (r : Runner) : Evaluator := r.evaluator.getD ⟨r.settings.budget⟩

/-- Evaluates units into a report. The schedule counts only if there are several workers. -/
def Runner.run (r : Runner) (units : List SourceUnit) (signal : Signal) (clock : Clock)
    (schedule : Schedule) : Except Error Report := do
  let rules ← r.registry.snapshot
  let results ←
    if r.settings.isParallel then
      runParallel r.effectiveEvaluator rules clock signal schedule units
    else runSerial r.effectiveEvaluator rules clock signal 0 units
  reportOf results

end Conformance
