import Conformance.Proofs.Exemption
import Conformance.Proofs.Independence
import Conformance.Proofs.TimeBudget

/-!
# Only rules that are errors fail a run

The exit status of a run is decided by the severities of its findings, and these come from two
sources. A check signs its findings with the severity of its rule. Everything that goes wrong on the
way (rules that fail, elements that are incomplete, units without a layer, units that run out of
time) becomes a remark of the evaluation, which is never more than informative. So a run fails only
by a rule whose configured severity is an error.

The argument follows the findings back from the report to where they were made: the report sorts
what was handed in, what was handed in is the outcome of an evaluation, and an evaluation has
findings of checks and remarks. It does not matter what the run looked like. A budget may abandon
units, a signal may skip them, and no schedule is excluded, not even one that workers could not
carry out; all of this changes which evaluations there are, but not what an evaluation can find.

For the same reason the statements about the report need only that there is one. That there is one
is a separate matter, since numbers may overflow when a deadline is worked out (`Evaluator.Ready`).
-/

set_option autoImplicit false

namespace Conformance

/-! ## 1. Where findings come from -/

/-- A remark of the evaluation itself. -/
structure Finding.IsRemark (f : Finding) : Prop where
  severity : f.severity = .info
  category : f.category = .diagnostic
  ruleId : f.ruleId = incompleteModelData ∨ f.ruleId = ruleFault

/-- A check of the rule set made the finding, by a call of the context that it was given at a site
of one of the units. -/
def RuleSet.Makes (rules : RuleSet) (units : List SourceUnit) (f : Finding) : Prop :=
  ∃ u ∈ units, ∃ site ∈ u.sites, ∃ rule ∈ rules.rules, ∃ target,
    (site.context u rule).Makes target f

/-- The finding has the name, the category and the configured severity of the rule. -/
structure ConfiguredRule.Signs (rule : ConfiguredRule) (f : Finding) : Prop where
  ruleId : f.ruleId = rule.ruleId
  category : f.category = rule.definition.category
  severity : f.severity = rule.config.severity

variable {rules : RuleSet} {units : List SourceUnit} {f : Finding}

/-- The severity is carried from the configuration through the context to the finding. -/
theorem RuleSet.Makes.signed (h : rules.Makes units f) : ∃ rule ∈ rules.rules, rule.Signs f := by
  obtain ⟨u, -, site, -, rule, hrule, target, hmakes⟩ := h
  exact ⟨rule, hrule, hmakes.signs.ruleId, hmakes.signs.category, hmakes.signs.severity⟩

/-- **One unit.** Its findings are made by checks, or they are remarks. -/
theorem SourceUnit.made_or_remark {u : SourceUnit} (huses : rules.UsesContext) (hu : u ∈ units)
    (hf : f ∈ (u.evaluate rules).findings) : rules.Makes units f ∨ f.IsRemark := by
  rw [findings_evaluate, (sortFindings_perm _).mem_iff] at hf
  rcases missing_or_visited hf with rfl | ⟨site, hsite, hvisit⟩
  · exact .inr ⟨rfl, rfl, .inl rfl⟩
  · rcases Site.noted_or_checked hvisit with ⟨id, message, payload, hid, rfl⟩ | ⟨rule, hrule, hmade⟩
    · exact .inr ⟨rfl, rfl, hid⟩
    · obtain ⟨target, hmakes⟩ := huses rule hrule site.element (site.context u rule) f hmade
      exact .inl ⟨u, hu, site, hsite, rule, hrule, target, hmakes⟩

/-- An evaluation of one of the units, by some clock, has this outcome. -/
def Evaluator.Yields (e : Evaluator) (rules : RuleSet) (units : List SourceUnit)
    (result : Evaluation) : Prop :=
  ∃ u ∈ units, ∃ clock, e.evaluate u rules clock = .ok result

/-- A unit that is abandoned leaves a remark and nothing else. -/
theorem Evaluator.Yields.made_or_remark {e : Evaluator} {result : Evaluation}
    (h : e.Yields rules units result) (huses : rules.UsesContext) (hf : f ∈ result.findings) :
    rules.Makes units f ∨ f.IsRemark := by
  obtain ⟨u, hu, clock, hresult⟩ := h
  rcases findings_of_evaluate hresult with hfindings | ⟨t, hfindings⟩
  · rw [hfindings] at hf
    exact SourceUnit.made_or_remark huses hu hf
  · rw [hfindings, List.mem_singleton] at hf
    rw [hf]
    exact .inr ⟨rfl, rfl, .inl rfl⟩

theorem Evaluator.Yields.mono {e : Evaluator} {fewer : List SourceUnit} {result : Evaluation}
    (h : e.Yields rules fewer result) (hsub : fewer ⊆ units) : e.Yields rules units result := by
  obtain ⟨u, hu, clock, hresult⟩ := h
  exact ⟨u, hsub hu, clock, hresult⟩

/-! ## 2. What is handed in -/

/-- What was handed in for units are findings of their evaluations. -/
def UnitResults.Genuine (e : Evaluator) (rules : RuleSet) (units : List SourceUnit)
    (results : UnitResults) : Prop :=
  ∀ found, some found ∈ results → ∃ result, e.Yields rules units result ∧ result.findings = found

variable {e : Evaluator} {clock : Clock}

/-- **One worker** hands in what it evaluates, and nothing that comes from anywhere else. -/
theorem genuine_of_runSerial {signal : Signal} {taken : Nat} {results : UnitResults}
    (h : runSerial e rules clock signal taken units = .ok results) :
    UnitResults.Genuine e rules units results := by
  induction units generalizing signal taken results with
  | nil =>
    rw [← Except.ok.inj h]
    exact fun found hfound => absurd hfound List.not_mem_nil
  | cons u rest ih =>
    unfold runSerial at h
    split at h
    · -- nothing is handed in once the signal is set
      intro found hfound
      rw [← Except.ok.inj h] at hfound
      exact absurd hfound (by simp)
    · obtain ⟨result, hresult, h⟩ := bind_ok_iff.mp h
      obtain ⟨others, hothers, h⟩ := bind_ok_iff.mp h
      intro found hfound
      rw [← Except.ok.inj h, List.mem_cons] at hfound
      rcases hfound with hfirst | hlater
      · exact ⟨result, ⟨u, List.mem_cons_self, _, hresult⟩, (Option.some.inj hfirst).symm⟩
      · obtain ⟨later, hyields, hfindings⟩ := ih hothers found hlater
        exact ⟨later, hyields.mono (List.subset_cons_self u rest), hfindings⟩

namespace Pool

/-- What is in the hands of workers and what they have handed in are outcomes of evaluations. -/
structure Genuine (e : Evaluator) (rules : RuleSet) (units : List SourceUnit) (pool : Pool) :
    Prop where
  running : ∀ t ∈ pool.busy, ∀ result ∈ t.result, e.Yields rules units result
  finished : ∀ d ∈ pool.done, ∀ result ∈ d.2, e.Yields rules units result

variable {pool next : Pool} {event : WorkerEvent}

/-- A unit that is taken up brings its result in. -/
theorem Genuine.take (h : pool.Genuine e rules units) {task : Task}
    (hresult : ∀ result ∈ task.result, e.Yields rules units result) (taken : Nat) :
    Genuine e rules units { pool with taken, busy := task :: pool.busy } :=
  ⟨List.forall_mem_cons.mpr ⟨hresult, h.running⟩, h.finished⟩

/-- One that is handed in takes it from the busy to the done. -/
theorem Genuine.handIn (h : pool.Genuine e rules units) {task : Task} (htask : task ∈ pool.busy)
    (kept : Task → Bool) :
    Genuine e rules units { pool with
      busy := pool.busy.filter kept
      done := (task.index, task.result) :: pool.done } :=
  ⟨fun t ht => h.running t (List.mem_filter.mp ht).1,
    List.forall_mem_cons.mpr ⟨h.running task htask, h.finished⟩⟩

/-- **One event.** Only the start of a unit brings in something new, and that is an evaluation. -/
theorem Genuine.step (h : pool.Genuine e rules units)
    (hstep : pool.step e rules clock units event = .ok next) : next.Genuine e rules units := by
  cases event with
  | start worker i =>
    rw [Pool.step] at hstep
    cases hunit : units[i]? with
    | none =>
      rw [hunit] at hstep
      rw [← Except.ok.inj hstep]
      exact h
    | some u =>
      rw [hunit] at hstep
      dsimp only at hstep
      split at hstep
      · -- a unit that is taken up after the signal has no outcome
        rw [← Except.ok.inj hstep]
        exact h.take (by simp) _
      · obtain ⟨outcome, houtcome, hstep⟩ := bind_ok_iff.mp hstep
        rw [← Except.ok.inj hstep]
        refine h.take (fun result hresult => ?_) _
        rw [← Option.some.inj hresult]
        exact ⟨u, List.mem_of_getElem? hunit, _, houtcome⟩
  | signal worker =>
    rw [← Except.ok.inj hstep]
    exact ⟨h.running, h.finished⟩
  | finish worker =>
    rw [Pool.step] at hstep
    cases htask : pool.task? worker with
    | none =>
      rw [htask] at hstep
      rw [← Except.ok.inj hstep]
      exact h
    | some task =>
      rw [htask] at hstep
      rw [← Except.ok.inj hstep]
      exact h.handIn (List.mem_of_find?_eq_some htask) _

/-- **All events**, in any order: every pool that is reached holds results of evaluations only. -/
theorem Genuine.steps {schedule : Schedule} {final : Pool} (h : pool.Genuine e rules units)
    (hsteps : pool.steps e rules clock units schedule = .ok final) :
    final.Genuine e rules units := by
  induction schedule generalizing pool with
  | nil =>
    rw [← Except.ok.inj hsteps]
    exact h
  | cons event rest ih =>
    obtain ⟨next, hstep, hrest⟩ := bind_ok_iff.mp hsteps
    exact ih (h.step hstep) hrest

theorem Genuine.results (h : pool.Genuine e rules units) (count : Nat) :
    UnitResults.Genuine e rules units (pool.results count) := by
  intro found hfound
  obtain ⟨i, -, hi⟩ := List.mem_map.mp hfound
  obtain ⟨result, hresult, hfindings⟩ := Option.map_eq_some_iff.mp hi
  cases hlookup : pool.done.lookup i with
  | none =>
    rw [hlookup] at hresult
    exact absurd hresult (by simp)
  | some handed =>
    rw [hlookup] at hresult
    exact ⟨result, h.finished _ (mem_of_lookup hlookup) result hresult, hfindings⟩

end Pool

/-- **Many workers** hand in what they evaluate, by the invariant of the pool. -/
theorem genuine_of_runParallel {signal : Signal} {schedule : Schedule} {results : UnitResults}
    (h : runParallel e rules clock signal schedule units = .ok results) :
    UnitResults.Genuine e rules units results := by
  obtain ⟨final, hsteps, hfinal⟩ := bind_ok_iff.mp h
  have hinitial : Pool.Genuine e rules units ⟨signal, 0, [], []⟩ :=
    ⟨fun t ht => absurd ht List.not_mem_nil, fun d hd => absurd hd List.not_mem_nil⟩
  rw [← Except.ok.inj hfinal]
  exact (hinitial.steps hsteps).results units.length

/-! ## 3. The report -/

namespace Report

/-- The counts of a report are those of its findings. -/
def Counted (report : Report) : Prop := report.severityCounts = countSeverities report.findings

/-- The count that the verdict looks at is that of the findings that are errors. -/
theorem Counted.count_error {report : Report} (h : report.Counted) :
    report.count .error = report.findings.countP (·.severity = .error) := by
  unfold count
  rw [h]
  rfl

theorem Counted.passed_iff {report : Report} (h : report.Counted) :
    report.passed = true ↔ ∀ f ∈ report.findings, f.severity ≠ .error := by
  unfold passed
  rw [h.count_error, decide_eq_true_iff, Int.natCast_eq_zero, List.countP_eq_zero]
  simp only [decide_eq_true_eq, ne_eq]

/-- **The exit status.** A run fails if one of its findings is an error, and only then. -/
theorem Counted.exitCode_eq_one_iff {report : Report} (h : report.Counted) :
    report.exitCode = 1 ↔ ∃ f ∈ report.findings, f.severity = .error := by
  unfold exitCode
  by_cases hpassed : report.passed = true
  · rw [if_pos hpassed]
    have hnone := h.passed_iff.mp hpassed
    refine iff_of_false (by decide) ?_
    rintro ⟨f, hf, herror⟩
    exact hnone f hf herror
  · rw [if_neg hpassed]
    refine iff_of_true rfl ?_
    rw [h.passed_iff] at hpassed
    simpa using hpassed

theorem Counted.exitCode_eq_zero_iff {report : Report} (h : report.Counted) :
    report.exitCode = 0 ↔ ∀ f ∈ report.findings, f.severity ≠ .error := by
  rw [← h.passed_iff]
  unfold exitCode
  by_cases hpassed : report.passed = true
  · rw [if_pos hpassed]
    exact iff_of_true rfl hpassed
  · rw [if_neg hpassed]
    exact iff_of_false (by decide) hpassed

end Report

/-- A report counts its findings, and they were handed in. -/
theorem genuine_report {results : UnitResults} {report : Report}
    (h : reportOf results = .ok report) :
    report.Counted ∧ ∀ f ∈ report.findings, ∃ found, some found ∈ results ∧ f ∈ found := by
  rw [reportOf_eq_ok (List.map_id _).symm] at h
  rw [← Except.ok.inj h]
  refine ⟨rfl, fun f hf => ?_⟩
  have hmem : f ∈ (results.filterMap id).flatMap id := (sortFindings_perm _).mem_iff.mp hf
  obtain ⟨found, hfound, hf⟩ := List.mem_flatMap.mp hmem
  obtain ⟨result, hresult, heq⟩ := List.mem_filterMap.mp hfound
  exact ⟨found, heq ▸ hresult, hf⟩

/-- **One run.** Its report counts its findings, and these are of the two kinds. -/
theorem Runner.made_or_remark {r : Runner} {signal : Signal} {schedule : Schedule}
    {report : Report} (hrules : r.registry.snapshot = .ok rules) (huses : rules.UsesContext)
    (h : r.run units signal clock schedule = .ok report) :
    report.Counted ∧ ∀ f ∈ report.findings, rules.Makes units f ∨ f.IsRemark := by
  obtain ⟨results, hgenuine, hreport⟩ : ∃ results,
      UnitResults.Genuine r.effectiveEvaluator rules units results ∧
        reportOf results = .ok report := by
    cases hmode : r.settings.isParallel with
    | false =>
      rw [r.run_serial units signal clock schedule hrules hmode] at h
      obtain ⟨results, hresults, hreport⟩ := bind_ok_iff.mp h
      exact ⟨results, genuine_of_runSerial hresults, hreport⟩
    | true =>
      rw [r.run_parallel units signal clock schedule hrules hmode] at h
      obtain ⟨results, hresults, hreport⟩ := bind_ok_iff.mp h
      exact ⟨results, genuine_of_runParallel hresults, hreport⟩
  obtain ⟨hcounted, hhanded⟩ := genuine_report hreport
  refine ⟨hcounted, fun f hf => ?_⟩
  obtain ⟨found, hfound, hf⟩ := hhanded f hf
  obtain ⟨result, hyields, rfl⟩ := hgenuine found hfound
  exact hyields.made_or_remark huses hf

/-! ## 4. There is a report -/

/-- Deadlines can be worked out, and a budget that is exceeded can be written down. -/
structure Evaluator.Ready (e : Evaluator) (clock : Clock) : Prop where
  positive : ∀ b, e.budget = some b → b.isAtMostZero = false
  written : ∀ b, e.budget = some b → ∃ text, b.briefText? = some text
  summed : ∀ b, e.budget = some b → ∀ n, ∃ moment, (clock n).add? b = some moment

/-- An evaluator that is ready evaluates every unit, whatever the rules do. -/
theorem Evaluator.Ready.evaluate (h : e.Ready clock) (u : SourceUnit) (rules : RuleSet)
    (taken : Nat) : ∃ result, e.evaluate u rules (fun n => clock (taken + n)) = .ok result := by
  obtain ⟨budget⟩ := e
  cases budget with
  | none => exact ⟨_, rfl⟩
  | some budget =>
    show ∃ result, u.evaluateWithin rules budget (fun n => clock (taken + n)) = .ok result
    obtain ⟨moment, hmoment⟩ := h.summed budget rfl (taken + 0)
    obtain ⟨text, htext⟩ := h.written budget rfl
    by_cases hrules : rules.rules = []
    · exact ⟨_, SourceUnit.evaluateWithin_noRules hrules⟩
    · by_cases hlayer : u.layer = none
      · exact ⟨_, SourceUnit.evaluateWithin_noLayer hrules hmoment hlayer⟩
      · rw [SourceUnit.evaluateWithin_layer hrules hmoment hlayer,
          Timeout.make_eq_ok (h.positive budget rfl) htext]
        cases u.lateSite? moment fun n => clock (taken + n) with
        | none => exact ⟨_, rfl⟩
        | some i => exact ⟨_, rfl⟩

/-- **Results exist** for one worker: each evaluation that the clock is ready for comes to an end.
-/
theorem Evaluator.Ready.runSerial (h : e.Ready clock) (rules : RuleSet) (units : List SourceUnit)
    (signal : Signal) (taken : Nat) :
    ∃ results, Conformance.runSerial e rules clock signal taken units = .ok results := by
  induction units generalizing signal taken with
  | nil => exact ⟨[], rfl⟩
  | cons u rest ih =>
    rw [Conformance.runSerial]
    by_cases hset : signal = some true
    · rw [if_pos hset]
      exact ⟨_, rfl⟩
    · obtain ⟨result, hresult⟩ := h.evaluate u rules taken
      obtain ⟨others, hothers⟩ := ih (signal.after result.cancels) (taken + result.readings)
      rw [if_neg hset]
      exact ⟨_, bind_ok_iff.mpr ⟨result, hresult, bind_ok_iff.mpr ⟨others, hothers, rfl⟩⟩⟩

/-- One event of a pool never fails, since no evaluation does. -/
theorem Evaluator.Ready.step (h : e.Ready clock) (rules : RuleSet) (units : List SourceUnit)
    (pool : Pool) (event : WorkerEvent) :
    ∃ next, pool.step e rules clock units event = .ok next := by
  cases event with
  | start worker i =>
    rw [Pool.step]
    cases units[i]? with
    | none => exact ⟨_, rfl⟩
    | some u =>
      obtain ⟨result, hresult⟩ := h.evaluate u rules pool.taken
      dsimp only
      -- a unit taken up after the signal is skipped, whatever its evaluation would give
      by_cases hset : pool.signal = some true
      · rw [if_pos hset]
        exact ⟨_, rfl⟩
      · rw [if_neg hset]
        exact ⟨_, bind_ok_iff.mpr ⟨result, hresult, rfl⟩⟩
  | signal worker => exact ⟨_, rfl⟩
  | finish worker =>
    rw [Pool.step]
    cases pool.task? worker with
    | none => exact ⟨_, rfl⟩
    | some task => exact ⟨_, rfl⟩

theorem Evaluator.Ready.steps (h : e.Ready clock) (rules : RuleSet) (units : List SourceUnit)
    (pool : Pool) (schedule : Schedule) :
    ∃ final, pool.steps e rules clock units schedule = .ok final := by
  induction schedule generalizing pool with
  | nil => exact ⟨pool, rfl⟩
  | cons event rest ih =>
    obtain ⟨next, hstep⟩ := h.step rules units pool event
    obtain ⟨final, hsteps⟩ := ih next
    exact ⟨final, bind_ok_iff.mpr ⟨next, hstep, hsteps⟩⟩

/-- A run that is ready leads to a report: no evaluation fails, and the report is made of what they
return. -/
theorem Runner.exists_report {r : Runner} {signal : Signal} {schedule : Schedule}
    (hrules : r.registry.snapshot = .ok rules) (hready : r.effectiveEvaluator.Ready clock) :
    ∃ report, r.run units signal clock schedule = .ok report := by
  have hreport : ∀ results, ∃ report, reportOf results = .ok report :=
    fun results => ⟨_, reportOf_eq_ok (List.map_id _).symm⟩
  cases hmode : r.settings.isParallel with
  | false =>
    obtain ⟨results, hresults⟩ := hready.runSerial rules units signal 0
    obtain ⟨report, hreport⟩ := hreport results
    rw [r.run_serial units signal clock schedule hrules hmode]
    exact ⟨report, bind_ok_iff.mpr ⟨results, hresults, hreport⟩⟩
  | true =>
    obtain ⟨final, hsteps⟩ := hready.steps rules units ⟨signal, 0, [], []⟩ schedule
    obtain ⟨report, hreport⟩ := hreport (final.results units.length)
    rw [r.run_parallel units signal clock schedule hrules hmode]
    exact ⟨report, bind_ok_iff.mpr ⟨_, bind_ok_iff.mpr ⟨final, hsteps, rfl⟩, hreport⟩⟩

/-! ## 5. Only rules that are errors fail a run -/

/-- The names of active rules are distinct, so a finding is signed by one rule of its name. -/
theorem ConfiguredRule.Signs.unique {rule other : ConfiguredRule} (h : rule.Signs f)
    (hrule : rule ∈ rules.rules) (hother : other ∈ rules.rules) (hname : f.ruleId = other.ruleId) :
    other = rule :=
  List.inj_on_of_nodup_map rules.nodup hother hrule (hname.symm.trans h.ruleId)

/-- **Only rules that are errors fail a run.** Take any registry whose active rules make their
findings through their contexts, and any run: on one worker or on several, with a time budget or
without, cancelled or not. Unless numbers overflow there is a report, and of every report:

* a finding that is an error is signed by an active rule that is configured as an error;
* a finding that no check made is a remark, which is informative and a diagnostic;
* a finding that is no diagnostic is signed by the one active rule of its name;
* the exit status is one if some finding is an error, and zero otherwise. -/
theorem Registry.only_error_rules_fail {registry : Registry} (hregistry : registry.Reachable) :
    ∃ rules, registry.snapshot = .ok rules ∧ (rules.UsesContext →
      ∀ (r : Runner) (units : List SourceUnit) (signal : Signal) (clock : Clock)
        (schedule : Schedule), r.registry = registry →
        (r.effectiveEvaluator.Ready clock →
          ∃ report, r.run units signal clock schedule = .ok report) ∧
        ∀ report, r.run units signal clock schedule = .ok report →
          (∀ f ∈ report.findings, f.severity = .error →
            ∃ rule ∈ rules.rules, rule.config.severity = .error ∧ rule.Signs f) ∧
          (∀ f ∈ report.findings, ¬ rules.Makes units f → f.IsRemark) ∧
          (∀ f ∈ report.findings, f.category ≠ .diagnostic →
            ∃ rule ∈ rules.rules, rule.Signs f ∧
              ∀ other ∈ rules.rules, f.ruleId = other.ruleId → other = rule) ∧
          (report.exitCode = 1 ↔ ∃ f ∈ report.findings, f.severity = .error) ∧
          (report.exitCode = 0 ↔ ∀ f ∈ report.findings, f.severity ≠ .error)) := by
  obtain ⟨rules, hrules, -⟩ := hregistry.sound.snapshot
  refine ⟨rules, hrules, fun huses => ?_⟩
  rintro r units signal clock schedule rfl
  refine ⟨fun hready => r.exists_report hrules hready, fun report hrun => ?_⟩
  obtain ⟨hcounted, hkinds⟩ := r.made_or_remark hrules huses hrun
  refine ⟨fun f hf herror => ?_, fun f hf hother => ?_, fun f hf hcategory => ?_,
    hcounted.exitCode_eq_one_iff, hcounted.exitCode_eq_zero_iff⟩
  · rcases hkinds f hf with hmakes | hremark
    · obtain ⟨rule, hrule, hsigns⟩ := hmakes.signed
      exact ⟨rule, hrule, hsigns.severity.symm.trans herror, hsigns⟩
    · rw [hremark.severity] at herror
      exact absurd herror (by decide)
  · exact (hkinds f hf).resolve_left hother
  · rcases hkinds f hf with hmakes | hremark
    · obtain ⟨rule, hrule, hsigns⟩ := hmakes.signed
      exact ⟨rule, hrule, hsigns, fun other => hsigns.unique hrule⟩
    · exact absurd hremark.category hcategory

/-- A rule that fails, a unit without a layer and a budget that is exceeded: only the rule that was
made an error can fail the run. With no budget it makes its finding, and the run fails. -/
theorem Registry.only_error_rules_fail_sample :
    stricterReporters.Reachable ∧
    (∃ report, Runner.run ⟨stricterReporters, { budget := some (.whole 1) }, none⟩
        [unlayeredUnit, firstUnit] (some false) (fun n => .whole n) [] = .ok report ∧
      (∀ f ∈ report.findings, f.severity = .error → f.ruleId = "r" ∧ f.category = .size) ∧
      (report.exitCode = 1 ↔ ∃ f ∈ report.findings, f.severity = .error)) ∧
    ∃ report, Runner.run ⟨stricterReporters, {}, none⟩ [unlayeredUnit, firstUnit] (some false)
        (fun n => .whole n) [] = .ok report ∧
      (∃ f ∈ report.findings, f.severity = .error) ∧ report.exitCode = 1 := by
  have hreachable : stricterReporters.Reachable :=
    ⟨[typeReporter, failingReporter], reporters,
      [.configure "r" (.table [("severity", .severity .error)]) true], rfl, rfl⟩
  obtain ⟨rules, hrules, hruns⟩ := Registry.only_error_rules_fail hreachable
  have hset : rules.rules = [⟨typeReporter, { typeReporter.defaults with severity := .error }⟩,
      ⟨failingReporter, failingReporter.defaults⟩] :=
    congrArg RuleSet.rules (Except.ok.inj (hrules.symm.trans rfl))
  have huses : rules.UsesContext := by
    intro rule hrule element ctx f hf
    rw [hset, List.mem_cons, List.mem_singleton] at hrule
    rcases hrule with rfl | rfl
    · exact ⟨element, CheckStep.makes_of_mem_run hf⟩
    · exact ⟨element, CheckStep.makes_of_mem_run hf⟩
  refine ⟨hreachable, ?_, ?_⟩
  · have hready : Evaluator.Ready ⟨some (.whole 1)⟩ fun n => .whole n := by
      refine ⟨?_, ?_, ?_⟩
      · rintro b ⟨⟩
        decide +kernel
      · rintro b ⟨⟩
        exact ⟨"1", by decide +kernel⟩
      · rintro b ⟨⟩ n
        exact ⟨_, rfl⟩
    obtain ⟨hreport, hall⟩ := hruns huses ⟨stricterReporters, { budget := some (.whole 1) }, none⟩
      [unlayeredUnit, firstUnit] (some false) (fun n => .whole n) [] rfl
    obtain ⟨report, hrun⟩ := hreport hready
    obtain ⟨herrors, -, -, hexit, -⟩ := hall report hrun
    refine ⟨report, hrun, fun f hf herror => ?_, hexit⟩
    obtain ⟨rule, hrule, hseverity, hsigns⟩ := herrors f hf herror
    rw [hset, List.mem_cons, List.mem_singleton] at hrule
    rcases hrule with rfl | rfl
    · exact ⟨hsigns.ruleId, hsigns.category⟩
    · exact absurd hseverity (by decide)
  · have huncancelled : Uncancelled (some false) rules [unlayeredUnit, firstUnit] := by
      refine ⟨by decide, fun _ u hu => ?_⟩
      unfold SourceUnit.evaluate
      rw [hset]
      revert u
      decide
    have hrun : Runner.run ⟨stricterReporters, {}, none⟩ [unlayeredUnit, firstUnit] (some false)
        (fun n => .whole n) [] = .ok (reportOn rules [unlayeredUnit, firstUnit]) :=
      Runner.run_eq_ok _ hrules rfl huncancelled fun workers hworkers => by cases hworkers
    obtain ⟨-, hall⟩ := hruns huses ⟨stricterReporters, {}, none⟩ [unlayeredUnit, firstUnit]
      (some false) (fun n => .whole n) [] rfl
    obtain ⟨-, -, -, hexit, -⟩ := hall _ hrun
    have herror : ∃ f ∈ (reportOn rules [unlayeredUnit, firstUnit]).findings,
        f.severity = .error := by
      -- the finding of the stricter rule is the first of those that the second unit has
      have hfound : ∃ f ∈ firstUnit.unsortedFindings rules, f.severity = .error := by
        unfold SourceUnit.unsortedFindings
        rw [hset]
        exact ⟨_, List.mem_cons_self, rfl⟩
      obtain ⟨f, hf, hseverity⟩ := hfound
      have hmem : f ∈ [unlayeredUnit, firstUnit].flatMap fun u => u.unsortedFindings rules :=
        List.mem_flatMap.mpr ⟨firstUnit, by simp, hf⟩
      exact ⟨f, (sortFindings_perm _).mem_iff.mpr hmem, hseverity⟩
    exact ⟨_, hrun, herror, hexit.mpr herror⟩

end Conformance
