import Conformance.Proofs.RegistryInvariant
import Conformance.Proofs.Summary
import Conformance.Proofs.Walk
import Conformance.Proofs.Workers

/-!
# The report of a run

A run without a time budget that nobody cancels leads to one report, on one worker or on several.
The report holds the findings of all units, put together in the order of the input and sorted.

If no two units share a path, not even the order of the input matters. A check makes its findings
through its context, and hence in its own unit; so the path of a finding tells its unit, findings of
different units never have one key, and at each key the sort sees the findings of a single unit.
-/

set_option autoImplicit false

namespace Conformance

/-! ## 1. The path of a finding -/

/-- Every finding of the check is made by a call of the context that the check was given. -/
def RuleDefinition.UsesContext (d : RuleDefinition) : Prop :=
  ∀ element ctx, ∀ f ∈ (d.check element ctx).findings, ∃ target, Context.Makes ctx target f

/-- Every check of the rule set makes its findings through its context. -/
def RuleSet.UsesContext (rules : RuleSet) : Prop :=
  ∀ rule ∈ rules.rules, rule.definition.UsesContext

/-- The findings of a step are made through the context. -/
theorem CheckStep.makes_of_mem_findings {element : Element} {ctx : Context} {step : CheckStep}
    {made : List Finding} (h : step.findings element ctx = .ok made) {f : Finding}
    (hf : f ∈ made) : ctx.Makes element f := by
  cases step with
  | report message payload =>
    obtain ⟨one, hone, hpure⟩ := bind_ok_iff.mp h
    rw [← Except.ok.inj hpure, List.mem_singleton] at hf
    exact .finding message payload (hf ▸ hone)
  | exceeds message measured option payload =>
    obtain ⟨some?, hsome, hpure⟩ := bind_ok_iff.mp h
    rw [← Except.ok.inj hpure, Option.mem_toList] at hf
    exact .exceeds message option measured payload (hsome.trans (congrArg Except.ok hf))
  | fail cause => exact absurd h (by simp [CheckStep.findings])
  | cancel =>
    rw [← Except.ok.inj h] at hf
    exact absurd hf List.not_mem_nil

/-- A check made of steps makes its findings through its context, also those before a failure. -/
theorem CheckStep.makes_of_mem_run {element : Element} {ctx : Context} {steps : List CheckStep}
    {f : Finding} (hf : f ∈ (CheckStep.run element ctx steps).findings) :
    ctx.Makes element f := by
  induction steps with
  | nil => exact absurd hf List.not_mem_nil
  | cons step rest ih =>
    cases hstep : step.findings element ctx with
    | error cause =>
      simp only [CheckStep.run, hstep] at hf
      exact absurd hf List.not_mem_nil
    | ok made =>
      simp only [CheckStep.run, hstep] at hf
      rcases List.mem_append.mp hf with hmade | hlater
      · exact CheckStep.makes_of_mem_findings hstep hmade
      · exact ih hlater

namespace Site

theorem path_location (path : SourcePath) (site : Site) : (site.location path).path = path := by
  cases site <;> rfl

variable {u : SourceUnit} {rules : List ConfiguredRule} {site : Site} {f : Finding}

theorem path_of_mem_visit (huses : ∀ rule ∈ rules, rule.definition.UsesContext)
    (hf : f ∈ (site.visit u rules).findings) : f.location.path = u.path := by
  rcases noted_or_checked hf with ⟨id, message, payload, -, rfl⟩ | ⟨rule, hrule, hmade⟩
  · exact path_location u.path site
  · obtain ⟨target, hmakes⟩ := huses rule hrule site.element (site.context u rule) f hmade
    exact hmakes.signs.path

end Site

/-- **Findings stay in their unit.** The path of a finding is that of the unit it was made in. -/
theorem SourceUnit.path_of_mem_unsortedFindings {u : SourceUnit} {rules : RuleSet} {f : Finding}
    (huses : rules.UsesContext) (hf : f ∈ u.unsortedFindings rules) :
    f.location.path = u.path := by
  rcases missing_or_visited hf with rfl | ⟨site, -, hvisit⟩
  · exact Site.path_location u.path (.unit u)
  · exact Site.path_of_mem_visit huses hvisit

/-! ## 2. Units with paths of their own -/

section Paths

variable {units others : List SourceUnit} {found : SourceUnit → List Finding}

/-- Selecting the findings of one path selects those of the unit at that path. -/
theorem filter_flatMap_path (hpaths : (units.map (·.path.text)).Nodup)
    (hfound : ∀ u ∈ units, ∀ f ∈ found u, f.location.path = u.path) {u : SourceUnit}
    (hu : u ∈ units) :
    (units.flatMap found).filter (fun f => f.location.path.text = u.path.text) = found u := by
  refine filter_flatMap_of_tag hpaths (fun v hv f hf => ?_) hu
  rw [hfound v hv f hf]

/-- **The order of units does not matter.** Units with distinct paths may come in any order before
their findings are sorted. -/
theorem sortFindings_flatMap_perm (hperm : others.Perm units)
    (hpaths : (units.map (·.path.text)).Nodup)
    (hfound : ∀ u ∈ units, ∀ f ∈ found u, f.location.path = u.path) :
    sortFindings (others.flatMap found) = sortFindings (units.flatMap found) := by
  have htags : ∀ u ∈ units, ∀ f ∈ found u, f.location.path.text = u.path.text := by
    intro u hu f hf
    rw [hfound u hu f hf]
  exact sortFindings_flatMap_of_tag hperm hpaths htags fun _ _ hkey => congrArg SortKey.path hkey

end Paths

/-! ## 3. Runs -/

/-- What a run asks of a schedule: nothing for one worker, and that several can carry it out. -/
def Runner.Allows (r : Runner) (count : Nat) (schedule : Schedule) : Prop :=
  ∀ workers, r.settings.maxWorkers = some workers → 1 < workers → schedule.Valid workers count

/-- The report of all findings of the units. -/
def reportOn (rules : RuleSet) (units : List SourceUnit) : Report :=
  .ofFindings (sortFindings (units.flatMap fun u => u.unsortedFindings rules)) units.length

/-- Sorting the findings of each unit first changes nothing. -/
theorem sortFindings_flatMap_evaluate (rules : RuleSet) (units : List SourceUnit) :
    sortFindings (units.flatMap fun u => (u.evaluate rules).findings) =
      sortFindings (units.flatMap fun u => u.unsortedFindings rules) := by
  simp only [SourceUnit.findings_evaluate]
  exact sortFindings_flatMap_sortFindings units fun u => u.unsortedFindings rules

theorem Settings.several_of_isParallel {s : Settings} (h : s.isParallel = true) :
    ∃ workers, s.maxWorkers = some workers ∧ 1 < workers := by
  unfold isParallel at h
  cases hworkers : s.maxWorkers with
  | none =>
    rw [hworkers] at h
    exact absurd h (by simp)
  | some workers =>
    rw [hworkers, Option.any_some] at h
    exact ⟨workers, rfl, of_decide_eq_true h⟩

section Modes

variable {r : Runner} {rules : RuleSet} (units : List SourceUnit) (signal : Signal) (clock : Clock)
  (schedule : Schedule)

/-- One worker reports what becomes of each unit, in the order of the units. -/
theorem Runner.run_serial (hrules : r.registry.snapshot = .ok rules)
    (hserial : r.settings.isParallel = false) :
    r.run units signal clock schedule =
      runSerial r.effectiveEvaluator rules clock signal 0 units >>= reportOf := by
  unfold Runner.run
  rw [hrules, hserial]
  rfl

/-- Many workers do so in the order of the input. -/
theorem Runner.run_parallel (hrules : r.registry.snapshot = .ok rules)
    (hparallel : r.settings.isParallel = true) :
    r.run units signal clock schedule =
      runParallel r.effectiveEvaluator rules clock signal schedule units >>= reportOf := by
  unfold Runner.run
  rw [hrules, hparallel]
  rfl

end Modes

/-- A run of several workers follows a schedule that they can carry out. -/
theorem Runner.Allows.valid {r : Runner} {count : Nat} {schedule : Schedule}
    (hallows : r.Allows count schedule) (hparallel : r.settings.isParallel = true) :
    ∃ workers, schedule.Valid workers count := by
  obtain ⟨workers, hworkers, hseveral⟩ := Settings.several_of_isParallel hparallel
  exact ⟨workers, hallows workers hworkers hseveral⟩

/-- **One run.** Serial or parallel, it leads to the report of all findings. -/
theorem Runner.run_eq_ok {r : Runner} {rules : RuleSet} {units : List SourceUnit} {signal : Signal}
    {schedule : Schedule} (clock : Clock) (hrules : r.registry.snapshot = .ok rules)
    (hunbounded : r.effectiveEvaluator = ⟨none⟩) (huncancelled : Uncancelled signal rules units)
    (hallows : r.Allows units.length schedule) :
    r.run units signal clock schedule = .ok (reportOn rules units) := by
  have hreport : reportOf (units.map fun u => some (u.evaluate rules).findings) =
      .ok (reportOn rules units) := by
    rw [reportOf_map_some units fun u => (u.evaluate rules).findings,
      sortFindings_flatMap_evaluate]
    rfl
  cases hmode : r.settings.isParallel with
  | false =>
    rw [r.run_serial units signal clock schedule hrules hmode, hunbounded,
      runSerial_eq_ok huncancelled]
    exact hreport
  | true =>
    obtain ⟨workers, hvalid⟩ := hallows.valid hmode
    rw [r.run_parallel units signal clock schedule hrules hmode, hunbounded,
      runParallel_eq_ok huncancelled hvalid]
    exact hreport

/-- Every run of the units under the registry that has no time budget leads to the report, on one
worker or on several and whatever these do. -/
def Registry.Reports (registry : Registry) (units : List SourceUnit) (signal : Signal)
    (report : Report) : Prop :=
  ∀ (r : Runner) (clock : Clock) (schedule : Schedule), r.registry = registry →
    r.effectiveEvaluator = ⟨none⟩ → r.Allows units.length schedule →
      r.run units signal clock schedule = .ok report

/-- An evaluation of the unit without a time budget comes to an end with these findings. -/
def SourceUnit.EvaluatesTo (u : SourceUnit) (rules : RuleSet) (found : List Finding) : Prop :=
  ∀ clock, ∃ result, Evaluator.evaluate ⟨none⟩ u rules clock = .ok result ∧
    result.findings = found

theorem SourceUnit.evaluatesTo_sortFindings (u : SourceUnit) (rules : RuleSet) :
    u.EvaluatesTo rules (sortFindings (u.unsortedFindings rules)) :=
  fun clock => ⟨u.evaluation rules, evaluate_unbounded u rules clock, u.findings_evaluate rules⟩

/-- **Runs agree.** Take any registry, any units, no time budget and nobody who cancels. All runs,
serial or parallel with any number of workers and any schedule, lead to one report:

* its findings are the stable sort of the units' findings, put together in the order of the input
  and in the order in which they were made; they may also be sorted unit by unit before;
* for a single unit they are what an evaluation of it finds;
* if checks make their findings through their contexts and the paths of the units are distinct, any
  other order of the units leads to the same report, and its findings at the path of a unit are what
  an evaluation of that unit finds, in the same order. -/
theorem Registry.runs_agree {registry : Registry} (hregistry : registry.Reachable) :
    ∃ rules, registry.snapshot = .ok rules ∧
      ∀ (units : List SourceUnit) (signal : Signal), Uncancelled signal rules units →
        ∃ report, registry.Reports units signal report ∧
          IsStableSort (units.flatMap fun u => u.unsortedFindings rules) report.findings ∧
          IsStableSort (units.flatMap fun u => (u.evaluate rules).findings) report.findings ∧
          (∀ u, units = [u] → u.EvaluatesTo rules report.findings) ∧
          (rules.UsesContext → (units.map (·.path.text)).Nodup →
            (∀ others, others.Perm units → registry.Reports others signal report) ∧
            ∀ u ∈ units, u.EvaluatesTo rules
              (report.findings.filter fun f => f.location.path.text = u.path.text)) := by
  obtain ⟨rules, hrules, -⟩ := hregistry.sound.snapshot
  refine ⟨rules, hrules, fun units signal huncancelled => ?_⟩
  refine ⟨reportOn rules units, ?_, ?_, ?_, ?_, ?_⟩
  · rintro r clock schedule rfl hunbounded hallows
    exact r.run_eq_ok clock hrules hunbounded huncancelled hallows
  · exact isStableSort_iff.mpr rfl
  · exact isStableSort_iff.mpr (sortFindings_flatMap_evaluate rules units).symm
  · rintro u rfl
    have hsingle : (reportOn rules [u]).findings = sortFindings (u.unsortedFindings rules) := by
      show sortFindings (List.flatMap _ [u]) = _
      rw [List.flatMap_singleton]
    rw [hsingle]
    exact u.evaluatesTo_sortFindings rules
  · -- only here do the findings need to tell their units
    intro huses hpaths
    have hfound : ∀ u ∈ units, ∀ f ∈ u.unsortedFindings rules, f.location.path = u.path :=
      fun u _ f hf => SourceUnit.path_of_mem_unsortedFindings huses hf
    refine ⟨?_, fun u hu => ?_⟩
    · rintro others hperm r clock schedule rfl hunbounded hallows
      have huncancelledOthers : Uncancelled signal rules others := huncancelled.mono hperm.subset
      rw [r.run_eq_ok clock hrules hunbounded huncancelledOthers hallows]
      unfold reportOn
      rw [sortFindings_flatMap_perm hperm hpaths hfound, hperm.length_eq]
    · show u.EvaluatesTo rules ((sortFindings _).filter _)
      rw [filter_sortFindings, filter_flatMap_path hpaths hfound hu]
      exact u.evaluatesTo_sortFindings rules

/-- A unit of the domain layer with one type. -/
def firstUnit : SourceUnit := { unlayeredUnit with layer := some .domain }

/-- Its twin under another path. -/
def secondUnit : SourceUnit := { firstUnit with path := ⟨"b"⟩, path_ne := by decide }

/-- The registry of the rule that reports types. -/
def typeReporterRegistry : Registry where
  definitions := .ofList [(typeReporter.ruleId, typeReporter)]
  configs := .ofList [(typeReporter.ruleId, typeReporter.defaults)]

/-- Two workers at once; the one that starts last finishes first. -/
def overlapping : Schedule :=
  [.start 0 1, .start 1 0, .signal 1, .finish 1, .signal 0, .finish 0]

theorem overlapping_valid : overlapping.Valid 2 2 := by
  refine .start (by decide) (by simp) (by decide) ?_
  refine .start (by decide) (by simp) (by decide) ?_
  refine @Schedule.Proceeds.signal _ _ _ _ ⟨1, 0, false⟩ (by simp) ?_
  refine @Schedule.Proceeds.finish _ _ _ _ ⟨1, 0, true⟩ (by simp) rfl ?_
  refine @Schedule.Proceeds.signal _ _ _ _ ⟨0, 1, false⟩ (by simp) ?_
  refine @Schedule.Proceeds.finish _ _ _ _ ⟨0, 1, true⟩ (by simp) rfl ?_
  exact .done

theorem runs_agree_sample :
    ∃ report,
      Runner.run ⟨typeReporterRegistry, { maxWorkers := some 2 }, none⟩ [secondUnit, firstUnit]
        (some false) (fun _ => .whole 0) overlapping = .ok report ∧
      Runner.run ⟨typeReporterRegistry, {}, none⟩ [firstUnit, secondUnit]
        (some false) (fun _ => .whole 0) [] = .ok report ∧
      (report.findings.filter fun f => f.location.path.text = "a").map (·.ruleId) = ["r"] := by
  have hreachable : typeReporterRegistry.Reachable :=
    ⟨[typeReporter], typeReporterRegistry, [], rfl, rfl⟩
  obtain ⟨rules, hrules, hruns⟩ := Registry.runs_agree hreachable
  have hset : rules = typeReporterSet := Except.ok.inj (hrules.symm.trans rfl)
  subst hset
  have huncancelled : Uncancelled (some false) typeReporterSet [secondUnit, firstUnit] :=
    ⟨by decide, fun _ => by decide⟩
  have huses : typeReporterSet.UsesContext := by
    intro rule hrule element ctx f hf
    rw [List.mem_singleton.mp hrule] at hf
    exact ⟨element, CheckStep.makes_of_mem_run hf⟩
  obtain ⟨report, hreports, -, -, -, hdistinct⟩ := hruns _ _ huncancelled
  obtain ⟨hothers, hpaths⟩ := hdistinct huses (by decide)
  refine ⟨report, ?_, ?_, ?_⟩
  · refine hreports _ _ _ rfl rfl fun workers hworkers _ => ?_
    rw [← Option.some.inj hworkers]
    exact overlapping_valid
  · exact hothers _ (.swap ..) _ _ _ rfl rfl fun workers hworkers => by cases hworkers
  · obtain ⟨result, hresult, hfound⟩ := hpaths firstUnit (by simp) fun _ => .whole 0
    have hfilter : (report.findings.filter fun f => f.location.path.text = "a") =
        (firstUnit.evaluate typeReporterSet).findings := by
      rw [← congrArg (·.findings) (Except.ok.inj hresult)] at hfound
      exact hfound.symm
    have hone : firstUnit.unsortedFindings typeReporterSet =
        [(Site.context firstUnit ⟨typeReporter, typeReporter.defaults⟩ (.type bareType)).signed
          (.type bareType) "m" []] := rfl
    rw [hfilter, SourceUnit.findings_evaluate, hone, sortFindings_singleton]
    decide

end Conformance
