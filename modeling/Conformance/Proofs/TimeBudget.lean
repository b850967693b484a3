import Conformance.Evaluation.Pass
import Conformance.Proofs.Runs

/-!
# A time budget is all or nothing

A unit that is evaluated under a time budget is evaluated as if there were none, or it is
abandoned and nothing that was found in it is kept. Which of the two happens is a matter of the
clock alone. The clock is read once to set the deadline and once before each element that is
visited, and the first reading past the deadline abandons the unit.

That rules have no say in it is not obvious, since a rule may fail with the very error that abandons
a unit. The argument therefore runs along the pass of `Conformance.Evaluation.Pass`, in which errors
are raised and caught, and it has three parts:

* **one site**: whatever a predicate or a check raises is caught at the site, so putting the rules
  to a site always succeeds, with what a visit finds there (`Pass.run_consult`);
* **the clock**: the only step of a pass that can fail is the look at the deadline, so a pass ends
  in time or at the first late reading (`Pass.run_visitAll_inTime`, `Pass.run_visitAll_late`), by
  induction on the sites that are left, with the readings taken so far as a parameter;
* **the whole**: the outcome that is computed without errors is that of the pass
  (`Evaluator.evaluateByPass_eq`).

Elements are counted by recursion on the unit, not by its list of sites; section 1 says that the two
numbers are the same.
-/

set_option autoImplicit false

namespace Conformance

/-! ## 1. The number of elements that are visited -/

mutual

/-- The statement and all statements in it, counted. -/
def Statement.count : Statement → Nat
  | ⟨_, _, _, _, children, _, _⟩ => 1 + countAll children

/-- The statements of a list and all statements in them, counted. -/
def Statement.countAll : List Statement → Nat
  | [] => 0
  | s :: rest => s.count + countAll rest

end

/-- A method, its parameters and all its statements, counted. -/
def Method.elementCount (m : Method) : Nat :=
  1 + m.parameters.length + Statement.countAll m.body

/-- A type, its fields and everything in its methods, counted. -/
def TypeDeclaration.elementCount (t : TypeDeclaration) : Nat :=
  1 + t.fields.length + t.methods.foldr (fun m count => m.elementCount + count) 0

/-- A unit and everything in its types that are not exempt, counted. -/
def SourceUnit.elementCount (u : SourceUnit) : Nat :=
  1 + (u.types.filter (!·.isExempt)).foldr (fun t count => t.elementCount + count) 0

mutual

/-- A walk meets as many statements as the tree has. The clock is read once for each of them, so the
numbers of readings are counted by the tree. -/
theorem Statement.length_walk : (s : Statement) → s.walk.length = s.count
  | ⟨_, _, _, _, children, _, _⟩ => by
    rw [walk, count, List.length_cons, length_walkAll children]
    omega

theorem Statement.length_walkAll : (body : List Statement) →
    (walkAll body).length = countAll body
  | [] => rfl
  | s :: rest => by
    rw [walkAll, countAll, List.length_append, length_walk s, length_walkAll rest]

end

/-- The sites of a method are the elements that it counts. -/
theorem Method.length_sites (t : TypeDeclaration) (m : Method) :
    (m.sites t).length = m.elementCount := by
  have hstatements : m.statements.length = Statement.countAll m.body :=
    Statement.length_walkAll m.body
  unfold Method.sites Method.elementCount
  rw [List.length_append, List.length_cons, List.length_map, List.length_map, hstatements]
  omega

/-- The length of what the items of a list contribute, if their counts are known. -/
theorem length_flatMap_eq_foldr {α β : Type} {f : α → List β} {count : α → Nat}
    (h : ∀ a, (f a).length = count a) (items : List α) :
    (items.flatMap f).length = items.foldr (fun a n => count a + n) 0 := by
  induction items with
  | nil => rfl
  | cons a rest ih => rw [List.flatMap_cons, List.length_append, List.foldr_cons, h, ih]

theorem TypeDeclaration.length_sites (t : TypeDeclaration) : t.sites.length = t.elementCount := by
  unfold TypeDeclaration.sites TypeDeclaration.elementCount
  rw [List.length_append, List.length_cons, List.length_map,
    length_flatMap_eq_foldr (Method.length_sites t)]
  omega

/-- Each element that is counted has one site, hence one reading of the clock. -/
theorem SourceUnit.length_sites (u : SourceUnit) : u.sites.length = u.elementCount := by
  unfold SourceUnit.sites SourceUnit.elementCount
  rw [List.length_cons, length_flatMap_eq_foldr TypeDeclaration.length_sites]
  omega

/-! ## 2. One site -/

/-- The progress after what was found at a site. -/
def Progress.add (p : Progress) (o : Outcome) : Progress :=
  { p with findings := p.findings ++ o.findings, cancels := p.cancels || o.cancels }

namespace Pass

variable {u : SourceUnit} {site : Site} {clock : Clock}

/-- A rule that cannot tell whether it applies is reported, whatever its error is. -/
theorem run_ask (rule : ConfiguredRule) (p : Progress) :
    (ask .own u site rule).run p = .ok (site.applies rule)
      { p with findings := p.findings ++ (site.predicateFault? u.path rule).toList } := by
  unfold ask Site.applies Site.predicateFault?
  cases rule.definition.appliesTo site.element with
  | ok b =>
    show EStateM.Result.ok b p = .ok b { p with findings := p.findings ++ [] }
    rw [List.append_nil]
  | error cause => rfl

/-- Asking the predicates one after the other chooses the rules that apply, and notes the failures
of the others. -/
theorem run_askAll (rules : List ConfiguredRule) (p : Progress) :
    (askAll .own u site rules).run p = .ok (rules.filter site.applies)
      { p with findings := p.findings ++ rules.filterMap (site.predicateFault? u.path) } := by
  induction rules generalizing p with
  | nil =>
    rw [List.filterMap_nil, List.append_nil]
    rfl
  | cons rule rest ih =>
    rw [askAll, EStateM.run_bind, run_ask]
    dsimp only
    rw [EStateM.run_bind, ih]
    dsimp only
    rw [EStateM.run_pure, List.append_assoc, List.filter_cons]
    congr 3
    cases hfault : site.predicateFault? u.path rule with
    | none => rw [List.filterMap_cons_none hfault, Option.toList_none, List.nil_append]
    | some note => rw [List.filterMap_cons_some hfault, Option.toList_some, List.singleton_append]

/-- A check that fails is reported in place of what it found, whatever its error is. -/
theorem run_check (rule : ConfiguredRule) (p : Progress) :
    (check .own u site rule).run p = .ok ()
      { p with
        findings := p.findings ++ site.checkFindings u rule
        cancels := p.cancels || (site.checkRun u rule).cancels } := by
  unfold check callCheck Site.checkFindings
  cases (site.checkRun u rule).result with
  | ok found => rfl
  | error cause => rfl

/-- The checks of the chosen rules add what they contribute, one after the other. -/
theorem run_checkAll (rules : List ConfiguredRule) (p : Progress) :
    (checkAll .own u site rules).run p = .ok ()
      { p with
        findings := p.findings ++ rules.flatMap (site.checkFindings u)
        cancels := p.cancels || rules.any fun rule => (site.checkRun u rule).cancels } := by
  induction rules generalizing p with
  | nil =>
    rw [List.flatMap_nil, List.append_nil, List.any_nil, Bool.or_false]
    rfl
  | cons rule rest ih =>
    rw [checkAll, EStateM.run_bind, run_check]
    dsimp only
    rw [ih, List.flatMap_cons, List.any_cons, List.append_assoc, Bool.or_assoc]

/-- **One site.** The rules find there what a visit finds, and none of their errors gets out. -/
theorem run_consult (rules : List ConfiguredRule) (p : Progress) :
    (consult .own u rules site).run p = .ok () (p.add (site.visit u rules)) := by
  rw [consult, EStateM.run_bind, run_askAll]
  dsimp only
  unfold Progress.add Site.visit
  by_cases hidle : (rules.filter site.applies).isEmpty = true
  · rw [if_pos hidle, if_pos hidle, Bool.or_false]
    rfl
  · rw [if_neg hidle, if_neg hidle]
    by_cases hmissing : (!site.element.missing.isEmpty) = true
    · rw [if_pos hmissing, if_pos hmissing, Bool.or_false, ← List.append_assoc]
      rfl
    · rw [if_neg hmissing, if_neg hmissing]
      show (checkAll .own u site _).run _ = _
      rw [run_checkAll, List.append_assoc]

/-! ## 3. The clock -/

/-- The error that breaks a pass off. -/
def breach (path : SourcePath) (budget : Seconds) : Error :=
  match Timeout.make path budget with
  | .ok t => .timeout t
  | .error cause => cause

/-- The first reading sets the deadline, unless it cannot be added to the budget. -/
theorem run_deadline? (clock : Clock) (budget : Seconds) :
    (deadline? clock (some budget)).run {} =
      match (clock 0).add? budget with
      | some moment => .ok (some ⟨moment, budget⟩) { readings := 1 }
      | none => .error .overflow { readings := 1 } := by
  show (match (clock 0).add? budget with
    | some moment => (pure (some ⟨moment, budget⟩) : Pass (Option Deadline))
    | none => throw Error.overflow).run _ = _
  cases (clock 0).add? budget with
  | some moment => rfl
  | none => rfl

/-- The clock is read once, and nothing else happens, if there is time left. -/
theorem run_checkDeadline_inTime {deadline : Deadline} {p : Progress}
    (h : deadline.moment.lt (clock p.readings) = false) :
    (checkDeadline u.path clock (some deadline)).run p =
      .ok () { p with readings := p.readings + 1 } := by
  show (if deadline.moment.lt (clock p.readings) = true then _ else _ : Pass Unit).run _ = _
  rw [h]
  rfl

/-- If there is none, the pass ends here with what it has. -/
theorem run_checkDeadline_late {deadline : Deadline} {p : Progress}
    (h : deadline.moment.lt (clock p.readings) = true) :
    (checkDeadline u.path clock (some deadline)).run p =
      .error (breach u.path deadline.budget) { p with readings := p.readings + 1 } := by
  show (if deadline.moment.lt (clock p.readings) = true then _ else _ : Pass Unit).run _ = _
  rw [h]
  unfold breach
  cases Timeout.make u.path deadline.budget with
  | ok t => rfl
  | error cause => rfl

/-- The progress after sites, of which the last has been taken up with these readings. -/
def after (u : SourceUnit) (rules : List ConfiguredRule) (sites : List Site) (p : Progress)
    (readings : Nat) : Progress where
  findings := p.findings ++ sites.flatMap fun site => (site.visit u rules).findings
  cancels := p.cancels || u.visitCancels rules sites
  readings := readings

theorem after_nil (rules : List ConfiguredRule) (p : Progress) (readings : Nat) :
    after u rules [] p readings = { p with readings := readings } := by
  unfold after SourceUnit.visitCancels
  rw [List.flatMap_nil, List.append_nil, List.any_nil, Bool.or_false]

theorem after_cons (rules : List ConfiguredRule) (rest : List Site) (p : Progress)
    (readings later : Nat) :
    after u rules rest ({ p with readings := readings }.add (site.visit u rules)) later =
      after u rules (site :: rest) p later := by
  unfold after Progress.add SourceUnit.visitCancels
  rw [List.flatMap_cons, List.any_cons, List.append_assoc, Bool.or_assoc]

/-- **Without a budget** the clock is never read, and all sites are visited. -/
theorem run_visitAll_unbounded (rules : List ConfiguredRule) (sites : List Site) (p : Progress) :
    (visitAll .own u rules clock none sites).run p = .ok () (after u rules sites p p.readings) := by
  induction sites generalizing p with
  | nil =>
    rw [after_nil]
    rfl
  | cons site rest ih =>
    have hfirst :
        (visit .own u rules clock none site).run p = .ok () (p.add (site.visit u rules)) :=
      run_consult rules p
    rw [visitAll, EStateM.run_bind, hfirst]
    dsimp only
    rw [ih]
    exact congrArg _ (after_cons rules rest p p.readings p.readings)

section Deadline

variable {rules : List ConfiguredRule} {sites : List Site} {deadline : Deadline} {p : Progress}

/-- A visit in time is one reading and the visit. -/
theorem run_visit_inTime (h : deadline.moment.lt (clock p.readings) = false) :
    (visit .own u rules clock (some deadline) site).run p =
      .ok () ({ p with readings := p.readings + 1 }.add (site.visit u rules)) := by
  rw [visit, EStateM.run_bind, run_checkDeadline_inTime h]
  exact run_consult rules _

theorem run_visit_late (h : deadline.moment.lt (clock p.readings) = true) :
    (visit .own u rules clock (some deadline) site).run p =
      .error (breach u.path deadline.budget) { p with readings := p.readings + 1 } := by
  rw [visit, EStateM.run_bind, run_checkDeadline_late h]

/-- **In time.** If no reading is past the deadline, all sites are visited, with one reading
each. -/
theorem run_visitAll_inTime
    (h : ∀ i < sites.length, deadline.moment.lt (clock (p.readings + i)) = false) :
    (visitAll .own u rules clock (some deadline) sites).run p =
      .ok () (after u rules sites p (p.readings + sites.length)) := by
  induction sites generalizing p with
  | nil =>
    rw [List.length_nil, Nat.add_zero, after_nil]
    rfl
  | cons site rest ih =>
    have hfirst : deadline.moment.lt (clock p.readings) = false := h 0 (Nat.zero_lt_succ _)
    have hrest : ∀ i < rest.length,
        deadline.moment.lt (clock (p.readings + 1 + i)) = false := by
      intro i hi
      rw [Nat.add_assoc, Nat.add_comm 1 i]
      exact h (i + 1) (Nat.succ_lt_succ hi)
    rw [visitAll, EStateM.run_bind, run_visit_inTime hfirst]
    dsimp only
    rw [ih hrest, after_cons]
    show EStateM.Result.ok () (after u rules _ p (p.readings + 1 + rest.length)) = _
    rw [List.length_cons, Nat.add_assoc, Nat.add_comm 1]

/-- **Too late.** The first reading that is past the deadline breaks the pass off. -/
theorem run_visitAll_late {i : Nat} (hi : i < sites.length)
    (hlate : deadline.moment.lt (clock (p.readings + i)) = true)
    (hbefore : ∀ j < i, deadline.moment.lt (clock (p.readings + j)) = false) :
    (visitAll .own u rules clock (some deadline) sites).run p =
      .error (breach u.path deadline.budget)
        (after u rules (sites.take i) p (p.readings + i + 1)) := by
  induction sites generalizing p i with
  | nil => exact absurd hi (Nat.not_lt_zero i)
  | cons site rest ih =>
    rw [visitAll, EStateM.run_bind]
    cases i with
    | zero =>
      rw [run_visit_late hlate, List.take_zero, after_nil]
    | succ i =>
      have hfirst : deadline.moment.lt (clock p.readings) = false := hbefore 0 (Nat.zero_lt_succ _)
      -- the first visit read the clock once, so the rest is late one reading earlier
      have hshift : ∀ j, p.readings + 1 + j = p.readings + (j + 1) := fun j => by omega
      rw [run_visit_inTime hfirst]
      dsimp only
      rw [ih (Nat.lt_of_succ_lt_succ hi), after_cons, List.take_succ_cons]
      · show EStateM.Result.error _ (after u rules _ p (p.readings + 1 + i + 1)) = _
        rw [hshift]
      · show deadline.moment.lt (clock (p.readings + 1 + i)) = true
        rw [hshift]
        exact hlate
      · intro j hj
        show deadline.moment.lt (clock (p.readings + 1 + j)) = false
        rw [hshift]
        exact hbefore (j + 1) (Nat.succ_lt_succ hj)

end Deadline

end Pass

/-- The first of the readings `1`, ..., `n` that is past the deadline. -/
structure FirstLate (moment : Seconds) (clock : Clock) (n i : Nat) : Prop where
  pos : 1 ≤ i
  le : i ≤ n
  late : moment.lt (clock i) = true
  inTime : ∀ j, 1 ≤ j → j < i → moment.lt (clock j) = false

namespace SourceUnit

variable {u : SourceUnit} {clock : Clock} {moment : Seconds}

/-- The first late site is the one whose reading is the first beyond the moment. Reading zero has
set the moment, so sites are counted from one on. -/
theorem lateSite?_eq_some_iff {i : Nat} :
    u.lateSite? moment clock = some i ↔ FirstLate moment clock u.elementCount (i + 1) := by
  unfold lateSite?
  rw [List.find?_range_eq_some, List.mem_range, u.length_sites]
  constructor
  · rintro ⟨hlate, hi, hbefore⟩
    refine ⟨by omega, by omega, hlate, fun j hj hji => ?_⟩
    obtain ⟨k, rfl⟩ : ∃ k, j = k + 1 := ⟨j - 1, by omega⟩
    simpa using hbefore k (by omega)
  · rintro ⟨-, hle, hlate, hbefore⟩
    refine ⟨hlate, by omega, fun j hj => ?_⟩
    rw [hbefore (j + 1) (by omega) (by omega)]
    rfl

theorem lateSite?_eq_none_iff :
    u.lateSite? moment clock = none ↔
      ∀ i, 1 ≤ i → i ≤ u.elementCount → moment.lt (clock i) = false := by
  unfold lateSite?
  rw [List.find?_range_eq_none, u.length_sites]
  constructor
  · intro h i hpos hle
    obtain ⟨k, rfl⟩ : ∃ k, i = k + 1 := ⟨i - 1, by omega⟩
    simpa using h k (by omega)
  · intro h i hi
    rw [h (i + 1) (by omega) (by omega)]
    rfl

end SourceUnit

/-- **The pass over a unit under a deadline.** It visits all sites, or it is broken off before the
first that the clock came too late for. -/
theorem Pass.run_through {u : SourceUnit} {rules : List ConfiguredRule} {clock : Clock}
    {deadline : Deadline} (hlayer : u.layer ≠ none) :
    (Pass.through .own u rules clock (some deadline)).run { readings := 1 } =
      match u.lateSite? deadline.moment clock with
      | none => .ok () (after u rules u.sites { readings := 1 } (1 + u.sites.length))
      | some i => .error (breach u.path deadline.budget)
          (after u rules (u.sites.take i) { readings := 1 } (i + 2)) := by
  unfold through
  rw [if_neg (by rw [SourceUnit.missing_eq_nil_iff.mpr hlayer]; simp)]
  -- the first reading has set the deadline, so the sites are met from reading one on
  cases hlate : u.lateSite? deadline.moment clock with
  | none =>
    rw [SourceUnit.lateSite?_eq_none_iff, ← u.length_sites] at hlate
    refine run_visitAll_inTime fun i hi => ?_
    exact hlate (1 + i) (by omega) (by omega)
  | some i =>
    rw [SourceUnit.lateSite?_eq_some_iff, ← u.length_sites] at hlate
    have hreadings : i + 2 = 1 + i + 1 := by omega
    have hi : 1 + i = i + 1 := by omega
    dsimp only
    rw [hreadings]
    refine run_visitAll_late (by have := hlate.le; omega) ?_ fun j hj => ?_
    · show deadline.moment.lt (clock (1 + i)) = true
      rw [hi]
      exact hlate.late
    · exact hlate.inTime (1 + j) (by omega) (by omega)

theorem Pass.run_through_unbounded {u : SourceUnit} {rules : List ConfiguredRule} {clock : Clock}
    (hlayer : u.layer ≠ none) :
    (Pass.through .own u rules clock none).run {} = .ok () (after u rules u.sites {} 0) := by
  unfold through
  rw [if_neg (by rw [SourceUnit.missing_eq_nil_iff.mpr hlayer]; simp)]
  exact run_visitAll_unbounded rules u.sites {}

/-- A unit without a layer is passed over with a remark, and the clock is read no more. -/
theorem Pass.run_through_noLayer {tell : Teller} {u : SourceUnit} {rules : List ConfiguredRule}
    {clock : Clock} {deadline : Option Deadline} (hlayer : u.layer = none) (p : Progress) :
    (Pass.through tell u rules clock deadline).run p =
      .ok () { p with findings := p.findings ++ [u.missingNote] } := by
  unfold through
  rw [if_pos (by rw [SourceUnit.missing_of_layer_eq_none hlayer]; rfl)]
  rfl

/-! ## 4. The pass and the evaluation -/

namespace SourceUnit

variable {u : SourceUnit} {rules : RuleSet} {clock : Clock} {budget moment : Seconds}

theorem evaluate_noRules (hrules : rules.rules = []) : u.evaluate rules = ⟨[], false⟩ := by
  unfold evaluate
  rw [if_pos (by rw [hrules]; rfl)]

theorem evaluate_noLayer (hrules : rules.rules ≠ []) (hlayer : u.layer = none) :
    u.evaluate rules = ⟨[u.missingNote], false⟩ := by
  unfold evaluate
  rw [if_neg (by simpa using hrules), if_pos (by rw [missing_of_layer_eq_none hlayer]; rfl)]

/-- Any other unit has its sites visited, and the findings sorted. -/
theorem evaluate_layer (hrules : rules.rules ≠ []) (hlayer : u.layer ≠ none) :
    u.evaluate rules =
      ⟨sortFindings (u.visitFindings rules.rules), u.visitCancels rules.rules u.sites⟩ := by
  unfold evaluate
  rw [if_neg (by simpa using hrules), if_neg (by rw [missing_eq_nil_iff.mpr hlayer]; simp)]

/-- The same cases under a budget. Without rules the clock is not read. -/
theorem evaluateWithin_noRules (hrules : rules.rules = []) :
    u.evaluateWithin rules budget clock = .ok { u.evaluate rules with readings := 0 } := by
  unfold evaluateWithin
  rw [if_pos (by rw [hrules]; rfl)]

/-- A moment out of range is an error, before anything is visited. -/
theorem evaluateWithin_overflow (hrules : rules.rules ≠ [])
    (hmoment : (clock 0).add? budget = none) :
    u.evaluateWithin rules budget clock = .error .overflow := by
  unfold evaluateWithin
  rw [if_neg (by simpa using hrules), hmoment]

/-- A unit without a layer has used one reading, for the moment. -/
theorem evaluateWithin_noLayer (hrules : rules.rules ≠ [])
    (hmoment : (clock 0).add? budget = some moment) (hlayer : u.layer = none) :
    u.evaluateWithin rules budget clock = .ok { u.evaluate rules with readings := 1 } := by
  unfold evaluateWithin
  rw [if_neg (by simpa using hrules), hmoment]
  exact if_pos (by rw [missing_of_layer_eq_none hlayer]; rfl)

/-- And a unit that is visited uses one more for each site, up to the first late one. -/
theorem evaluateWithin_layer (hrules : rules.rules ≠ [])
    (hmoment : (clock 0).add? budget = some moment) (hlayer : u.layer ≠ none) :
    u.evaluateWithin rules budget clock =
      match u.lateSite? moment clock with
      | none => .ok { u.evaluate rules with readings := 1 + u.elementCount }
      | some i => do
        let t ← Timeout.make u.path budget
        return { findings := [u.timeoutNote t]
                 cancels := u.visitCancels rules.rules (u.sites.take i)
                 readings := i + 2 } := by
  unfold evaluateWithin
  rw [if_neg (by simpa using hrules), hmoment, ← u.length_sites]
  exact if_neg (by rw [missing_eq_nil_iff.mpr hlayer]; simp)

end SourceUnit

/-- What becomes of a unit by the end of the pass over it: its findings are sorted if it came to its
end, and they are given up if a timeout broke it off. -/
def Pass.outcome (u : SourceUnit) : EStateM.Result Error Progress Unit → Except Error Evaluation
  | .ok () p =>
    .ok { findings := sortFindings p.findings, cancels := p.cancels, readings := p.readings }
  | .error (.timeout t) p =>
    .ok { findings := [u.timeoutNote t], cancels := p.cancels, readings := p.readings }
  | .error cause _ => .error cause

/-- A handler has nothing to do if no error is raised. -/
theorem Pass.run_tryCatch_ok {x : Pass Unit} {handler : Error → Pass Unit} {p q : Progress}
    (h : x.run p = .ok () q) : (EStateM.tryCatch x handler).run p = .ok () q := by
  have hx : x p = .ok () q := h
  unfold EStateM.tryCatch EStateM.run
  dsimp only
  rw [hx]

/-- A handler goes on from the progress that was made. -/
theorem Pass.run_tryCatch_error {x : Pass Unit} {handler : Error → Pass Unit} {p q : Progress}
    {cause : Error} (h : x.run p = .error cause q) :
    (EStateM.tryCatch x handler).run p = (handler cause).run q := by
  have hx : x p = .error cause q := h
  unfold EStateM.tryCatch EStateM.run
  dsimp only
  rw [hx]
  rfl

/-- A breach of the deadline abandons the unit if there is a timeout to report. -/
theorem Pass.outcome_breach (u : SourceUnit) (budget : Seconds) (p : Progress) :
    Pass.outcome u (.error (breach u.path budget) p) = do
      let t ← Timeout.make u.path budget
      return { findings := [u.timeoutNote t], cancels := p.cancels, readings := p.readings } := by
  unfold breach Timeout.make
  by_cases hzero : budget.isAtMostZero = true
  · rw [if_pos hzero]
    rfl
  · rw [if_neg hzero]
    cases budget.briefText? with
    | some text => rfl
    | none => rfl

namespace Evaluator

variable {u : SourceUnit} {rules : RuleSet} {clock : Clock}

/-- The pass in the same cases, to be compared with the equations above. -/
theorem evaluateByPass_noRules (e : Evaluator) (u : SourceUnit) (clock : Clock)
    (hrules : rules.rules = []) : e.evaluateByPass u rules clock = .ok ⟨⟨[], false⟩, 0⟩ := by
  have hpass : (e.pass .own u rules clock).run {} = .ok () {} := by
    unfold pass
    rw [hrules]
    rfl
  unfold evaluateByPass evaluateTelling
  rw [hpass]
  dsimp only
  rw [sortFindings_nil]

/-- A pass that cannot set its moment fails as it did. -/
theorem evaluateByPass_overflow {e : Evaluator} {p : Progress} (hrules : rules.rules ≠ [])
    (hdeadline : (Pass.deadline? clock e.budget).run {} = .error .overflow p) :
    e.evaluateByPass u rules clock = .error .overflow := by
  have hpass : (e.pass .own u rules clock).run {} = .error .overflow p := by
    unfold pass
    rw [if_neg (by simpa using hrules), EStateM.run_bind, hdeadline]
  unfold evaluateByPass evaluateTelling
  rw [hpass]

/-- Once the deadline is set, the outcome is that of the pass over the unit. -/
theorem evaluateByPass_eq_outcome {e : Evaluator} {deadline : Option Deadline} {p : Progress}
    (hrules : rules.rules ≠ [])
    (hdeadline : (Pass.deadline? clock e.budget).run {} = .ok deadline p) :
    e.evaluateByPass u rules clock =
      Pass.outcome u ((Pass.through .own u rules.rules clock deadline).run p) := by
  have hpass : (e.pass .own u rules clock).run {} =
      (EStateM.tryCatch (Pass.through .own u rules.rules clock deadline)
        (Pass.settle u)).run p := by
    unfold pass
    rw [if_neg (by simpa using hrules), EStateM.run_bind, hdeadline]
    rfl
  unfold evaluateByPass evaluateTelling
  rw [hpass]
  cases hthrough : (Pass.through .own u rules.rules clock deadline).run p with
  | ok _ q =>
    rw [Pass.run_tryCatch_ok hthrough]
    rfl
  | error cause q =>
    rw [Pass.run_tryCatch_error hthrough]
    -- only a timeout is settled
    cases cause with
    | timeout t =>
      show Except.ok (Evaluation.mk ⟨sortFindings [u.timeoutNote t], q.cancels⟩ q.readings) = _
      rw [sortFindings_singleton]
      rfl
    | _ => rfl

theorem evaluateByPass_unbounded (u : SourceUnit) (clock : Clock) (hrules : rules.rules ≠ []) :
    evaluateByPass ⟨none⟩ u rules clock = .ok ⟨u.evaluate rules, 0⟩ := by
  have hdeadline : (Pass.deadline? clock none).run {} = .ok none {} := rfl
  rw [evaluateByPass_eq_outcome hrules hdeadline]
  by_cases hlayer : u.layer = none
  · rw [Pass.run_through_noLayer hlayer, SourceUnit.evaluate_noLayer hrules hlayer]
    show Except.ok (Evaluation.mk ⟨sortFindings [u.missingNote], false⟩ 0) = _
    rw [sortFindings_singleton]
  · rw [Pass.run_through_unbounded hlayer, SourceUnit.evaluate_layer hrules hlayer]
    rfl

/-- **With a budget** it is the evaluation within it. -/
theorem evaluateByPass_within {budget moment : Seconds} (u : SourceUnit) (hrules : rules.rules ≠ [])
    (hmoment : (clock 0).add? budget = some moment) :
    evaluateByPass ⟨some budget⟩ u rules clock = u.evaluateWithin rules budget clock := by
  have hdeadline := Pass.run_deadline? clock budget
  rw [hmoment] at hdeadline
  rw [evaluateByPass_eq_outcome hrules hdeadline]
  by_cases hlayer : u.layer = none
  · rw [Pass.run_through_noLayer hlayer, SourceUnit.evaluateWithin_noLayer hrules hmoment hlayer,
      SourceUnit.evaluate_noLayer hrules hlayer]
    show Except.ok (Evaluation.mk ⟨sortFindings [u.missingNote], false⟩ 1) = _
    rw [sortFindings_singleton]
  · rw [Pass.run_through hlayer, SourceUnit.evaluateWithin_layer hrules hmoment hlayer]
    dsimp only
    cases u.lateSite? moment clock with
    | none =>
      rw [SourceUnit.evaluate_layer hrules hlayer, ← u.length_sites]
      rfl
    | some i => exact Pass.outcome_breach u budget _

/-- **The pass is the evaluation.** Whatever breaks it off, the pass leads to the same outcome, the
same number of readings, or the same failure. -/
theorem evaluateByPass_eq (e : Evaluator) (u : SourceUnit) (rules : RuleSet) (clock : Clock) :
    e.evaluateByPass u rules clock = e.evaluate u rules clock := by
  obtain ⟨budget⟩ := e
  by_cases hrules : rules.rules = []
  · rw [evaluateByPass_noRules _ u clock hrules, ← SourceUnit.evaluate_noRules hrules]
    cases budget with
    | none => rfl
    | some budget => exact (SourceUnit.evaluateWithin_noRules hrules).symm
  · cases budget with
    | none => exact evaluateByPass_unbounded u clock hrules
    | some budget =>
      cases hmoment : (clock 0).add? budget with
      | none =>
        have hdeadline := Pass.run_deadline? clock budget
        rw [hmoment] at hdeadline
        rw [evaluateByPass_overflow hrules hdeadline]
        exact (SourceUnit.evaluateWithin_overflow hrules hmoment).symm
      | some moment => exact evaluateByPass_within u hrules hmoment

end Evaluator

/-! ## 5. All or nothing -/

/-- A rule fails at a site: its predicate does, or it applies to a complete element and its check
does. -/
inductive Site.Fails (u : SourceUnit) (site : Site) (rule : ConfiguredRule) (cause : Error) : Prop
  | predicate (h : rule.definition.appliesTo site.element = .error cause)
  | check (applies : rule.definition.appliesTo site.element = .ok true)
      (complete : site.element.missing = [])
      (h : (rule.definition.check site.element (site.context u rule)).failure = some cause)

/-- A failure of a rule is reported where it happens, whatever its cause is. -/
theorem Site.faultNote_mem_visit {u : SourceUnit} {site : Site} {rules : List ConfiguredRule}
    {rule : ConfiguredRule} {cause : Error} (hrule : rule ∈ rules)
    (hfails : site.Fails u rule cause) :
    site.faultNote u.path rule cause ∈ (site.visit u rules).findings := by
  rw [findings_visit, List.mem_append]
  cases hfails with
  | predicate h =>
    exact .inl (List.mem_filterMap.mpr ⟨rule, hrule, predicateFault?_eq_some h⟩)
  | check applies complete h =>
    have happlies : rule ∈ rules.filter site.applies :=
      List.mem_filter.mpr ⟨hrule, applies_iff.mpr applies⟩
    have hfound : site.faultNote u.path rule cause ∈ site.checkFindings u rule := by
      unfold checkFindings checkRun CheckRun.result
      rw [h]
      exact List.mem_singleton_self _
    right
    rw [if_neg (List.ne_nil_of_mem happlies), if_pos complete]
    exact List.mem_flatMap.mpr ⟨rule, happlies, hfound⟩

namespace SourceUnit

variable {u : SourceUnit} {rules : RuleSet} {clock : Clock} {budget moment : Seconds}

/-- A rule that fails at a site is noted, whatever else happens there. This is how timeouts of
checks themselves come to be told as faults. -/
theorem faultNote_mem_evaluate {site : Site} {rule : ConfiguredRule} {cause : Error}
    (hlayer : u.layer ≠ none) (hsite : site ∈ u.sites) (hrule : rule ∈ rules.rules)
    (hfails : site.Fails u rule cause) :
    site.faultNote u.path rule cause ∈ (u.evaluate rules).findings := by
  rw [evaluate_layer (List.ne_nil_of_mem hrule) hlayer]
  refine (sortFindings_perm _).mem_iff.mpr (List.mem_flatMap.mpr ⟨site, hsite, ?_⟩)
  exact Site.faultNote_mem_visit hrule hfails

/-- The remark about a unit that was not visited because it has no layer. -/
def NotesNoLayer (u : SourceUnit) (note : Finding) : Prop :=
  (Site.unit u).Notes u incompleteModelData "Unit skipped, front-end left out: layer"
    [("missing", Value.texts ["layer"])] note

/-- The remark about a unit that was abandoned, with its budget and the size of it in writing. -/
def NotesAbandoned (u : SourceUnit) (budget : Seconds) (text : String) (note : Finding) : Prop :=
  (Site.unit u).Notes u incompleteModelData
    ("Analysis abandoned: Evaluation of '" ++ u.path.text ++ "' exceeded " ++ text ++ "s budget")
    [("reason", .text "time-budget-exceeded"), ("budget_s", budget.toValue)] note

/-- A timeout leaves the pass over the unit, once the first reading has set the deadline. -/
def Abandoned (u : SourceUnit) (rules : RuleSet) (clock : Clock) (deadline : Deadline) : Prop :=
  ∃ t p, (Pass.through .own u rules.rules clock (some deadline)).run { readings := 1 } =
    .error (.timeout t) p

/-- The remark on a unit without a layer says what it should. -/
theorem notesNoLayer_missingNote (hlayer : u.layer = none) : u.NotesNoLayer u.missingNote :=
  (notesNoLayer_iff hlayer).mpr rfl

/-- And so does the remark on a budget that was exceeded. -/
theorem notesAbandoned_timeoutNote (u : SourceUnit) (budget : Seconds) (text : String) :
    u.NotesAbandoned budget text (u.timeoutNote ⟨u.path, budget, text⟩) := by
  unfold NotesAbandoned
  rw [Site.notes_iff (by decide) (by simp)
    (by simp [Context.NamesFree, keysOf, Context.callNames])]
  unfold timeoutNote Timeout.message
  simp only [String.append_assoc]
  rfl

end SourceUnit

/-- A timeout of a positive budget that can be written is never refused. -/
theorem Timeout.make_eq_ok {path : SourcePath} {budget : Seconds} {text : String}
    (hpos : budget.isAtMostZero = false) (htext : budget.briefText? = some text) :
    Timeout.make path budget = .ok ⟨path, budget, text⟩ := by
  unfold make
  rw [hpos, htext]
  rfl

namespace SourceUnit

variable {u : SourceUnit} {rules : RuleSet} {clock : Clock} {budget moment : Seconds}
  {text : String}

/-- **The trigger.** A unit is abandoned if some reading before one of its elements is past the
deadline, and only then: no error of a rule leaves the pass. -/
theorem abandoned_iff (hlayer : u.layer ≠ none) (hpos : budget.isAtMostZero = false)
    (htext : budget.briefText? = some text) :
    u.Abandoned rules clock ⟨moment, budget⟩ ↔
      ∃ i, 1 ≤ i ∧ i ≤ u.elementCount ∧ moment.lt (clock i) = true := by
  unfold Abandoned
  rw [Pass.run_through hlayer]
  dsimp only
  cases hlate : u.lateSite? moment clock with
  | none =>
    have hin := lateSite?_eq_none_iff.mp hlate
    constructor
    · rintro ⟨t, p, h⟩
      exact absurd h (by simp)
    · rintro ⟨i, hfirst, hlast, hi⟩
      exact absurd (hin i hfirst hlast) (by rw [hi]; decide)
  | some i =>
    have hfirst := lateSite?_eq_some_iff.mp hlate
    -- the message of the breach can be built here, so the error is the timeout and no other
    have hbreach : Pass.breach u.path budget = .timeout ⟨u.path, budget, text⟩ := by
      unfold Pass.breach
      rw [Timeout.make_eq_ok hpos htext]
    constructor
    · intro _
      exact ⟨i + 1, hfirst.pos, hfirst.le, hfirst.late⟩
    · intro _
      exact ⟨_, _, congrArg (EStateM.Result.error · _) hbreach⟩

/-- Nothing is left of an abandoned unit but the remark that it was. -/
theorem evaluateWithin_late {i : Nat} (hrules : rules.rules ≠ [])
    (hmoment : (clock 0).add? budget = some moment) (hlayer : u.layer ≠ none)
    (hpos : budget.isAtMostZero = false) (htext : budget.briefText? = some text)
    (hlate : FirstLate moment clock u.elementCount i) :
    u.evaluateWithin rules budget clock =
      .ok { findings := [u.timeoutNote ⟨u.path, budget, text⟩]
            cancels := u.visitCancels rules.rules (u.sites.take (i - 1))
            readings := 1 + i } := by
  obtain ⟨k, rfl⟩ : ∃ k, i = k + 1 := ⟨i - 1, by have := hlate.pos; omega⟩
  rw [evaluateWithin_layer hrules hmoment hlayer, lateSite?_eq_some_iff.mpr hlate,
    Timeout.make_eq_ok hpos htext]
  show Except.ok (Evaluation.mk _ (k + 2)) = _
  rw [show k + 2 = 1 + (k + 1) by omega]
  rfl

/-- A unit that is not abandoned is evaluated as without a budget. -/
theorem evaluateWithin_inTime (hrules : rules.rules ≠ [])
    (hmoment : (clock 0).add? budget = some moment) (hlayer : u.layer ≠ none)
    (hin : ∀ i, 1 ≤ i → i ≤ u.elementCount → moment.lt (clock i) = false) :
    u.evaluateWithin rules budget clock =
      .ok { u.evaluate rules with readings := 1 + u.elementCount } := by
  rw [evaluateWithin_layer hrules hmoment hlayer, lateSite?_eq_none_iff.mpr hin]

end SourceUnit

namespace Evaluator

/-- A budget that is accepted is above zero, so no timeout is refused for its budget. -/
theorem make_some_eq_ok {budget : Seconds} {e : Evaluator} (h : make (some budget) = .ok e) :
    budget.isAtMostZero = false ∧ e = ⟨some budget⟩ := by
  unfold make at h
  dsimp only at h
  cases hzero : budget.isAtMostZero with
  | true =>
    rw [if_pos hzero] at h
    exact absurd h (by simp)
  | false =>
    rw [if_neg (by rw [hzero]; decide)] at h
    exact ⟨rfl, (Except.ok.inj h).symm⟩

/-- **A time budget is all or nothing.** Without rules the clock is not read; a unit without a layer
takes one reading and gets one remark. Any other unit is abandoned if a reading before one of its
elements is past the deadline, and only then. At the first such reading everything is given up but
one remark; if there is none, the unit is evaluated as without a budget, and a timeout that a rule
raises itself is reported like any other failure of a rule. -/
theorem budget_all_or_nothing {e : Evaluator} {budget : Seconds}
    (hmake : Evaluator.make (some budget) = .ok e) (u : SourceUnit) (rules : RuleSet)
    (clock : Clock) :
    e.evaluate u rules clock = e.evaluateByPass u rules clock ∧
    (rules.rules = [] → e.evaluate u rules clock = .ok ⟨⟨[], false⟩, 0⟩) ∧
    ∀ moment, rules.rules ≠ [] → (clock 0).add? budget = some moment →
      (u.layer = none → ∃ note, u.NotesNoLayer note ∧
        e.evaluate u rules clock = .ok ⟨⟨[note], false⟩, 1⟩) ∧
      ∀ text, u.layer ≠ none → budget.briefText? = some text →
        (u.Abandoned rules clock ⟨moment, budget⟩ ↔
          ∃ i, 1 ≤ i ∧ i ≤ u.elementCount ∧ moment.lt (clock i) = true) ∧
        (∀ i, FirstLate moment clock u.elementCount i →
          ∃ note cancels, u.NotesAbandoned budget text note ∧
            e.evaluate u rules clock = .ok ⟨⟨[note], cancels⟩, 1 + i⟩) ∧
        ((∀ i, 1 ≤ i → i ≤ u.elementCount → moment.lt (clock i) = false) →
          ∃ unbounded, Evaluator.evaluate ⟨none⟩ u rules clock = .ok unbounded ∧
            e.evaluate u rules clock = .ok { unbounded with readings := 1 + u.elementCount } ∧
            ∀ site ∈ u.sites, ∀ rule ∈ rules.rules, ∀ t, site.Fails u rule (.timeout t) →
              ∃ note ∈ unbounded.findings, site.NotesFault u rule (.timeout t) note) := by
  obtain ⟨hpos, rfl⟩ := make_some_eq_ok hmake
  refine ⟨(evaluateByPass_eq _ u rules clock).symm, fun hrules => ?_,
    fun moment hrules hmoment => ⟨fun hlayer => ?_, fun text hlayer htext => ⟨?_, ?_, ?_⟩⟩⟩
  · rw [← SourceUnit.evaluate_noRules hrules]
    exact SourceUnit.evaluateWithin_noRules hrules
  · refine ⟨u.missingNote, SourceUnit.notesNoLayer_missingNote hlayer, ?_⟩
    rw [← SourceUnit.evaluate_noLayer hrules hlayer]
    exact SourceUnit.evaluateWithin_noLayer hrules hmoment hlayer
  · exact SourceUnit.abandoned_iff hlayer hpos htext
  · intro i hlate
    exact ⟨_, _, u.notesAbandoned_timeoutNote budget text,
      SourceUnit.evaluateWithin_late hrules hmoment hlayer hpos htext hlate⟩
  · intro hin
    refine ⟨{ u.evaluate rules with readings := 0 }, rfl,
      SourceUnit.evaluateWithin_inTime hrules hmoment hlayer hin, ?_⟩
    intro site hsite rule hrule t hfails
    exact ⟨_, SourceUnit.faultNote_mem_evaluate hlayer hsite hrule hfails,
      Site.notesFault_iff.mpr rfl⟩

end Evaluator

/-- A timeout of the kind that breaks a pass off. -/
def ownTimeout : Timeout := ⟨firstUnit.path, .whole 1, "1"⟩

/-- A rule whose check fails with that timeout itself. -/
def timingOut : RuleDefinition := PlainRule.definition
  { ruleId := "t"
    description := ""
    category := .size
    appliesTo := Predicate.kindIn [.type]
    check := CheckStep.toCheck [.report "m" [], .fail (.timeout ownTimeout)] }

/-- The rule set of that one rule. -/
def timingOutSet : RuleSet where
  rules := [⟨timingOut, timingOut.defaults⟩]
  nodup := List.nodup_singleton _
  enabled := by
    intro rule hrule
    rw [List.mem_singleton.mp hrule]
    rfl

/-- A clock that goes on by one second abandons the unit at its second element. A clock that stands
still does not, and then the timeout is one of the rule. -/
theorem Evaluator.budget_all_or_nothing_sample :
    Evaluator.make (some (.whole 1)) = .ok ⟨some (.whole 1)⟩ ∧
    (∃ note cancels, firstUnit.NotesAbandoned (.whole 1) "1" note ∧
      Evaluator.evaluate ⟨some (.whole 1)⟩ firstUnit timingOutSet (fun n => .whole n) =
        .ok ⟨⟨[note], cancels⟩, 3⟩) ∧
    ∃ result, Evaluator.evaluate ⟨some (.whole 1)⟩ firstUnit timingOutSet (fun _ => .whole 0) =
        .ok result ∧ result.readings = 3 ∧
      ∃ note ∈ result.findings, (Site.type bareType).NotesFault firstUnit
        ⟨timingOut, timingOut.defaults⟩ (.timeout ownTimeout) note := by
  have hpos : (Seconds.whole 1).isAtMostZero = false := by decide +kernel
  have hmake : Evaluator.make (some (.whole 1)) = .ok ⟨some (.whole 1)⟩ := by
    unfold Evaluator.make
    exact if_neg (by rw [hpos]; decide)
  have htext : (Seconds.whole 1).briefText? = some "1" := by decide +kernel
  have hrules : timingOutSet.rules ≠ [] := List.cons_ne_nil _ _
  have hlayer : firstUnit.layer ≠ none := Option.some_ne_none _
  refine ⟨hmake, ?_, ?_⟩
  · obtain ⟨-, -, hall⟩ :=
      Evaluator.budget_all_or_nothing hmake firstUnit timingOutSet fun n => .whole n
    have hlate : FirstLate (.whole 1) (fun n => .whole n) firstUnit.elementCount 2 := by
      refine ⟨by decide, by decide, by decide +kernel, fun j hfirst hlast => ?_⟩
      obtain rfl : j = 1 := by omega
      decide +kernel
    exact ((hall (.whole 1) hrules rfl).2 "1" hlayer htext).2.1 2 hlate
  · obtain ⟨-, -, hall⟩ :=
      Evaluator.budget_all_or_nothing hmake firstUnit timingOutSet fun _ => .whole 0
    have hin : ∀ i, 1 ≤ i → i ≤ firstUnit.elementCount →
        (Seconds.whole 1).lt (.whole 0) = false := by
      intro i _ _
      decide +kernel
    obtain ⟨unbounded, -, hresult, hfault⟩ :=
      ((hall (.whole 1) hrules rfl).2 "1" hlayer htext).2.2 hin
    have hfails : (Site.type bareType).Fails firstUnit ⟨timingOut, timingOut.defaults⟩
        (.timeout ownTimeout) := .check rfl rfl rfl
    have hsite : Site.type bareType ∈ firstUnit.sites := List.mem_cons_of_mem _ List.mem_cons_self
    exact ⟨_, hresult, rfl, hfault _ hsite _ List.mem_cons_self _ hfails⟩

end Conformance
