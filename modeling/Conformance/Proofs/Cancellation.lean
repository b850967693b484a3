import Conformance.Proofs.Runs

/-!
# A cancelled run

A run can be cancelled before it starts or by any check during any unit. This file says what the
report of such a run holds, if there is no time budget.

Nothing is half done: a unit is analysed as a whole or skipped, and its findings are those that it
has in any other run. So the report is that of the analysed units alone, with the number of the
others beside it (`reportOnPart`). Which units these are is a matter of the mode. One worker looks
at the signal between two units, and the analysed ones are a prefix of the input (`Cut`). With many
workers each looks at it when it takes up a unit, and the skipped ones are those that were taken up
too late (`SkipsLate`).
-/

set_option autoImplicit false

namespace Conformance

variable {rules : RuleSet} {units analysed : List SourceUnit} {signal : Signal}

/-- The report on the units that were analysed, while so many others were skipped. -/
def reportOnPart (rules : RuleSet) (analysed : List SourceUnit) (skipped : Nat) : Report :=
  { reportOn rules analysed with unitsSkipped := skipped, cancelled := decide (0 < skipped) }

/-- Results lead to the report on the units that have any. -/
theorem reportOf_eq_reportOnPart {results : UnitResults}
    (h : results.filterMap id = analysed.map fun u => (u.evaluate rules).findings) :
    reportOf results = .ok (reportOnPart rules analysed (results.length - analysed.length)) := by
  rw [reportOf_eq_ok h, sortFindings_flatMap_evaluate]
  rfl

/-- The units that were not skipped, in the order of the input. -/
def unskipped (units : List SourceUnit) (skipped : Nat → Bool) : List SourceUnit :=
  (units.zipIdx.filter fun p => !skipped p.2).map Prod.fst

theorem length_unskipped_le (units : List SourceUnit) (skipped : Nat → Bool) :
    (unskipped units skipped).length ≤ units.length := by
  have hfilter := List.length_filter_le (fun p => !skipped p.2) units.zipIdx
  rw [List.length_zipIdx] at hfilter
  rw [unskipped, List.length_map]
  exact hfilter

/-- The units with results are those that were not skipped. -/
theorem filterMap_eq_unskipped (rules : RuleSet) (units : List SourceUnit) (skipped : Nat → Bool) :
    (units.zipIdx.map fun p =>
      if skipped p.2 then none else some (p.1.evaluate rules).findings).filterMap id =
        (unskipped units skipped).map fun u => (u.evaluate rules).findings := by
  have hsome : ((fun u : SourceUnit => (u.evaluate rules).findings) ∘ Prod.fst : _ × Nat → _) =
      fun p => (p.1.evaluate rules).findings := rfl
  rw [List.filterMap_map, unskipped, List.map_map, hsome, ← List.filterMap_eq_map,
    List.filterMap_filter]
  refine List.filterMap_congr fun p _ => ?_
  cases hskipped : skipped p.2 with
  | true => simp [hskipped]
  | false => simp [hskipped]

/-- The units with results are those before the cut, in their order. This is where the findings of a
cancelled run come from. -/
theorem filterMap_eq_analysed (rules : RuleSet) (analysed skipped : List SourceUnit) :
    (analysed.map (fun u => some (u.evaluate rules).findings) ++
      skipped.map (fun _ => none) : UnitResults).filterMap id =
        analysed.map fun u => (u.evaluate rules).findings := by
  rw [List.filterMap_append, List.filterMap_map, List.filterMap_map]
  have hnone : skipped.filterMap (id ∘ fun _ => (none : Option (List Finding))) = [] :=
    List.filterMap_eq_nil_iff.mpr fun _ _ => rfl
  rw [hnone, List.append_nil]
  exact congrFun List.filterMap_eq_map analysed

namespace Runner

variable {r : Runner}

/-- **A cancelled run on one worker** reports on the units before the cut. -/
theorem run_eq_cut (hrules : r.registry.snapshot = .ok rules)
    (hunbounded : r.effectiveEvaluator = ⟨none⟩) (hserial : r.settings.isParallel = false)
    (units : List SourceUnit) (signal : Signal) (clock : Clock) (schedule : Schedule) :
    ∃ analysed skipped, units = analysed ++ skipped ∧ Cut rules signal analysed skipped ∧
      r.run units signal clock schedule =
        .ok (reportOnPart rules analysed (units.length - analysed.length)) := by
  obtain ⟨analysed, skipped, rfl, hcut, hrun⟩ := runSerial_eq_cut rules signal units clock
  refine ⟨analysed, skipped, rfl, hcut, ?_⟩
  rw [r.run_serial _ signal clock schedule hrules hserial, hunbounded, hrun]
  show reportOf _ = _
  rw [reportOf_eq_reportOnPart (filterMap_eq_analysed rules analysed skipped), List.length_append,
    List.length_append, List.length_map, List.length_map]

/-- **A cancelled run on many workers** reports on the units that were not skipped. -/
theorem run_eq_skipping {schedule : Schedule} (hrules : r.registry.snapshot = .ok rules)
    (hunbounded : r.effectiveEvaluator = ⟨none⟩) (hparallel : r.settings.isParallel = true)
    (signal : Signal) (clock : Clock) (hallows : r.Allows units.length schedule) :
    ∃ skipped, SkipsLate signal rules units schedule skipped ∧
      r.run units signal clock schedule = .ok (reportOnPart rules (unskipped units skipped)
        (units.length - (unskipped units skipped).length)) := by
  obtain ⟨workers, hvalid⟩ := hallows.valid hparallel
  obtain ⟨skipped, hskips, hrun⟩ := runParallel_eq_skipping rules signal hvalid clock
  refine ⟨skipped, hskips, ?_⟩
  rw [r.run_parallel _ signal clock schedule hrules hparallel, hunbounded, hrun]
  show reportOf _ = _
  rw [reportOf_eq_reportOnPart (filterMap_eq_unskipped rules units skipped), List.length_map,
    List.length_zipIdx]

/-- On one worker any schedule will do, since none is looked at. -/
theorem allows_of_serial (hserial : r.settings.isParallel = false) (count : Nat)
    (schedule : Schedule) : r.Allows count schedule := by
  intro workers hworkers hseveral
  unfold Settings.isParallel at hserial
  rw [hworkers, Option.any_some] at hserial
  exact absurd hseveral (of_decide_eq_false hserial)

/-- A run whose checks cancel nothing analyses all units, or none if the signal was set before. -/
theorem run_eq_quiet {schedule : Schedule} (hrules : r.registry.snapshot = .ok rules)
    (hunbounded : r.effectiveEvaluator = ⟨none⟩)
    (hquiet : ∀ u ∈ units, (u.evaluate rules).cancels = false) (signal : Signal) (clock : Clock)
    (hallows : r.Allows units.length schedule) :
    ∃ skipped, r.run units signal clock schedule =
      .ok (reportOnPart rules (if signal = some true then [] else units) skipped) := by
  by_cases hset : signal = some true
  · rw [if_pos hset, hset]
    cases hmode : r.settings.isParallel with
    | false =>
      obtain ⟨analysed, skipped, -, hcut, hrun⟩ :=
        r.run_eq_cut hrules hunbounded hmode units (some true) clock schedule
      cases hcut with
      | before => exact ⟨_, hrun⟩
    | true =>
      obtain ⟨skipped, hskips, hrun⟩ :=
        r.run_eq_skipping hrules hunbounded hmode (some true) clock hallows
      -- the event is set before the first start, so every unit is taken up late
      have hnone : unskipped units skipped = [] := by
        unfold unskipped
        rw [List.map_eq_nil_iff, List.filter_eq_nil_iff]
        intro p hp
        obtain ⟨before, worker, after, hschedule⟩ :=
          hskips.takenUp p.2 (List.snd_lt_of_mem_zipIdx hp)
        have hstart : History.IsSet (some true) rules units [] := .before rfl
        have hlate := (hskips.skipped_iff before worker p.2 after (List.snd_lt_of_mem_zipIdx hp)
          hschedule).mpr (hstart.mono (List.nil_suffix))
        simp [hlate]
      rw [hnone] at hrun
      exact ⟨_, hrun⟩
  · rw [if_neg hset]
    exact ⟨0, r.run_eq_ok clock hrules hunbounded ⟨hset, fun _ => hquiet⟩ hallows⟩

end Runner

/-- No unit is lost, and the report says that the run was cancelled if a unit was skipped. -/
structure Report.AccountsFor (report : Report) (count : Nat) : Prop where
  total : report.unitsAnalyzed + report.unitsSkipped = count
  cancelled_iff : report.cancelled = true ↔ 0 < report.unitsSkipped

theorem accountsFor_reportOnPart {count : Nat} (hle : analysed.length ≤ count) :
    (reportOnPart rules analysed (count - analysed.length)).AccountsFor count where
  total := Nat.add_sub_of_le hle
  cancelled_iff := decide_eq_true_iff

/-- **A cancelled run.** Take any registry and any units, no time budget, and a signal that may be
set before the run or by any check. Every run leads to a report that accounts for all units.

* On one worker the units up to the one that set the signal are analysed, and the report holds what
  a run of these units alone finds that ignores the signal.
* With many workers and any schedule, the units that were taken up when the signal was set are
  skipped, and the report holds the findings of the others, in the order of the input and sorted. -/
theorem Registry.cancellation_exact {registry : Registry} (hregistry : registry.Reachable) :
    ∃ rules, registry.snapshot = .ok rules ∧
      ∀ (r : Runner) (units : List SourceUnit) (signal : Signal) (clock : Clock)
        (schedule : Schedule), r.registry = registry → r.effectiveEvaluator = ⟨none⟩ →
        r.Allows units.length schedule →
        ∃ report, r.run units signal clock schedule = .ok report ∧
          report.AccountsFor units.length ∧
          (r.settings.isParallel = false →
            ∃ analysed skipped, units = analysed ++ skipped ∧ Cut rules signal analysed skipped ∧
              report.unitsAnalyzed = analysed.length ∧
              IsStableSort (analysed.flatMap fun u => u.unsortedFindings rules) report.findings ∧
              ∀ clock schedule, ∃ alone, r.run analysed none clock schedule = .ok alone ∧
                alone.unitsAnalyzed = analysed.length ∧ alone.findings = report.findings) ∧
          (r.settings.isParallel = true →
            ∃ skipped, SkipsLate signal rules units schedule skipped ∧
              report.unitsAnalyzed = (unskipped units skipped).length ∧
              IsStableSort ((unskipped units skipped).flatMap fun u => u.unsortedFindings rules)
                report.findings) := by
  obtain ⟨rules, hrules, -⟩ := hregistry.sound.snapshot
  refine ⟨rules, hrules, ?_⟩
  rintro r units signal clock schedule rfl hunbounded hallows
  cases hmode : r.settings.isParallel with
  | false =>
    obtain ⟨analysed, skipped, hunits, hcut, hrun⟩ :=
      r.run_eq_cut hrules hunbounded hmode units signal clock schedule
    have hle : analysed.length ≤ units.length := by
      rw [hunits, List.length_append]
      exact Nat.le_add_right _ _
    refine ⟨_, hrun, accountsFor_reportOnPart hle, fun _ => ?_, fun h => absurd h (by decide)⟩
    refine ⟨analysed, skipped, hunits, hcut, rfl, isStableSort_iff.mpr rfl,
      fun clock schedule => ?_⟩
    have hignored : Uncancelled none rules analysed := ⟨by decide, fun h => absurd rfl h⟩
    exact ⟨_, r.run_eq_ok clock hrules hunbounded hignored (r.allows_of_serial hmode _ schedule),
      rfl, rfl⟩
  | true =>
    obtain ⟨skipped, hskips, hrun⟩ :=
      r.run_eq_skipping hrules hunbounded hmode signal clock hallows
    refine ⟨_, hrun, accountsFor_reportOnPart (length_unskipped_le units skipped),
      fun h => absurd h (by decide), fun _ => ?_⟩
    exact ⟨skipped, hskips, rfl, isStableSort_iff.mpr rfl⟩

/-- A rule that reports every type and cancels the run. -/
def cancellingReporter : RuleDefinition := PlainRule.definition
  { ruleId := "c"
    description := ""
    category := .size
    appliesTo := Predicate.kindIn [.type]
    check := CheckStep.toCheck [.report "m" [], .cancel] }

/-- The registry of that one rule. -/
def cancellingRegistry : Registry where
  definitions := .ofList [(cancellingReporter.ruleId, cancellingReporter)]
  configs := .ofList [(cancellingReporter.ruleId, cancellingReporter.defaults)]

/-- The second worker starts when the first unit has made its request. -/
def lateStart : Schedule :=
  [.start 0 0, .signal 0, .start 1 1, .finish 0, .signal 1, .finish 1]

theorem lateStart_valid : lateStart.Valid 2 2 := by
  refine .start (by decide) (by simp) (by decide) ?_
  refine @Schedule.Proceeds.signal _ _ _ _ ⟨0, 0, false⟩ (by simp) ?_
  refine .start (by decide) (by simp) (by decide) ?_
  refine @Schedule.Proceeds.finish _ _ _ _ ⟨0, 0, true⟩ (by simp) rfl ?_
  refine @Schedule.Proceeds.signal _ _ _ _ ⟨1, 1, false⟩ (by simp) ?_
  refine @Schedule.Proceeds.finish _ _ _ _ ⟨1, 1, true⟩ (by simp) rfl ?_
  exact .done

theorem Registry.cancellation_exact_sample :
    cancellingRegistry.Reachable ∧
    (∃ report, Runner.run ⟨cancellingRegistry, {}, none⟩ [firstUnit, secondUnit] (some false)
        (fun _ => .whole 0) [] = .ok report ∧
      report.unitsAnalyzed = 1 ∧ report.cancelled = true) ∧
    ∃ report, Runner.run ⟨cancellingRegistry, { maxWorkers := some 2 }, none⟩
        [firstUnit, secondUnit] (some false) (fun _ => .whole 0) lateStart = .ok report ∧
      report.unitsAnalyzed = 1 ∧ report.cancelled = true := by
  have hreachable : cancellingRegistry.Reachable :=
    ⟨[cancellingReporter], cancellingRegistry, [], rfl, rfl⟩
  obtain ⟨rules, hrules, hruns⟩ := Registry.cancellation_exact hreachable
  have hset : rules.rules = [⟨cancellingReporter, cancellingReporter.defaults⟩] :=
    congrArg RuleSet.rules (Except.ok.inj (hrules.symm.trans rfl))
  have hcancels : (firstUnit.evaluate rules).cancels = true := by
    unfold SourceUnit.evaluate
    rw [hset]
    decide
  -- one of two units analysed is one skipped
  have hone : ∀ report : Report, report.AccountsFor 2 → report.unitsAnalyzed = 1 →
      report.cancelled = true := by
    intro report haccounts hanalysed
    have htotal := haccounts.total
    exact haccounts.cancelled_iff.mpr (by omega)
  refine ⟨hreachable, ?_, ?_⟩
  · obtain ⟨report, hrun, haccounts, hserial, -⟩ :=
      hruns ⟨cancellingRegistry, {}, none⟩ [firstUnit, secondUnit] (some false)
        (fun _ => .whole 0) [] rfl rfl (fun _ hworkers => by cases hworkers)
    obtain ⟨analysed, skipped, hunits, hcut, hanalysed, -⟩ := hserial rfl
    refine ⟨report, hrun, ?_⟩
    have hlength : analysed.length = 1 := by
      cases hcut with
      | never quiet =>
        rw [List.append_nil] at hunits
        have hquiet := quiet firstUnit (by rw [← hunits]; exact List.mem_cons_self)
        rw [hcancels] at hquiet
        exact absurd hquiet (by decide)
      | @during earlier later u quiet cancels =>
        cases earlier with
        | nil => rfl
        | cons v rest =>
          rw [List.cons_append, List.cons_append] at hunits
          have hquiet := quiet v List.mem_cons_self
          rw [← (List.cons.inj hunits).1, hcancels] at hquiet
          exact absurd hquiet (by decide)
    exact ⟨hanalysed.trans hlength, hone report haccounts (hanalysed.trans hlength)⟩
  · obtain ⟨report, hrun, haccounts, -, hparallel⟩ :=
      hruns ⟨cancellingRegistry, { maxWorkers := some 2 }, none⟩ [firstUnit, secondUnit]
        (some false) (fun _ => .whole 0) lateStart rfl rfl (fun workers hworkers _ => by
          rw [← Option.some.inj hworkers]
          exact lateStart_valid)
    obtain ⟨skipped, hskips, hanalysed, -⟩ := hparallel rfl
    refine ⟨report, hrun, ?_⟩
    have hfirst : skipped 0 = false := by
      rw [← Bool.not_eq_true, hskips.skipped_iff [] 0 0 _ (by decide) rfl]
      intro hset
      cases hset with
      | before h => exact absurd h (by decide)
    have hsecond : skipped 1 = true := by
      rw [hskips.skipped_iff [.start 0 0, .signal 0] 1 1 _ (by decide) rfl]
      exact .request (by decide) rfl rfl hcancels
    have hlength : (unskipped [firstUnit, secondUnit] skipped).length = 1 := by
      simp [unskipped, hfirst, hsecond]
    exact ⟨hanalysed.trans hlength, hone report haccounts (hanalysed.trans hlength)⟩

end Conformance
