import Conformance.Run.Basic

/-!
# Summaries are never refused

A report refuses counts that do not add up to the number of its findings. The counts that a summary
makes do add up, by severity because every finding has one of the severities, and by rule because
each finding adds one to one entry of the table. A summary therefore always leads to a report, and
so do the results of a run.
-/

set_option autoImplicit false

namespace Conformance

/-! ## Counts that add up -/

/-- Binding a key replaces its share of the sum, so counting one more adds one to the sum of all
counts. -/
theorem sum_putEntry (key : String) (value : Int) (entries : List (String × Int)) :
    sumCounts ((putEntry key value entries).map Prod.snd) =
      sumCounts (entries.map Prod.snd) - (entries.lookup key).getD 0 + value := by
  induction entries with
  | nil => simp [putEntry, sumCounts]
  | cons entry rest ih =>
    obtain ⟨k, v⟩ := entry
    by_cases hk : k = key
    · rw [putEntry, if_pos hk, List.lookup_cons, hk, beq_self_eq_true]
      simp only [List.map_cons, sumCounts, Option.getD_some]
      omega
    · rw [putEntry, if_neg hk, List.lookup_cons, beq_false_of_ne (Ne.symm hk)]
      simp only [List.map_cons, sumCounts, ih]
      omega

namespace Report

/-- Every finding adds one to the counts by rule. -/
theorem sum_foldl_countRules (findings : List Finding) (counts : Table Int) :
    sumCounts ((findings.foldl (fun counts f =>
      counts.insert f.ruleId ((counts.get? f.ruleId).getD 0 + 1)) counts).entries.map Prod.snd) =
        sumCounts (counts.entries.map Prod.snd) + findings.length := by
  induction findings generalizing counts with
  | nil => simp
  | cons f rest ih =>
    -- the entry of the rule goes up by one, from zero if it is new
    have hinsert : sumCounts ((counts.insert f.ruleId
        ((counts.get? f.ruleId).getD 0 + 1)).entries.map Prod.snd) =
          sumCounts (counts.entries.map Prod.snd) + 1 := by
      show sumCounts ((putEntry f.ruleId ((counts.get? f.ruleId).getD 0 + 1) counts.entries).map
        Prod.snd) = _
      rw [sum_putEntry]
      unfold Table.get?
      omega
    rw [List.foldl_cons, ih, hinsert, List.length_cons]
    omega

theorem sum_countRules (findings : List Finding) :
    sumCounts ((countRules findings).entries.map Prod.snd) = findings.length := by
  unfold countRules
  rw [sum_foldl_countRules]
  show (0 : Int) + findings.length = findings.length
  omega

/-- Each finding is counted under its severity and under no other. -/
theorem sum_countSeverities (findings : List Finding) :
    sumCounts ((countSeverities findings).map Prod.snd) = findings.length := by
  unfold countSeverities Severity.all
  simp only [List.map_cons, List.map_nil, sumCounts]
  induction findings with
  | nil => simp
  | cons f rest ih =>
    cases hseverity : f.severity <;>
      simp only [List.countP_cons, hseverity, List.length_cons] <;> simp <;> omega

/-! ## The report of a run -/

/-- The report of findings in order, over so many analysed units. -/
def ofFindings (findings : List Finding) (units : Nat) : Report where
  findings := findings
  severityCounts := countSeverities findings
  ruleCounts := countRules findings
  unitsAnalyzed := units
  unitsSkipped := 0
  cancelled := false

/-- **A summary is a report.** None of the checks on the counts refuses it. -/
theorem summarize_eq_ok (findings : List Finding) (analysed skipped : Nat) (cancelled : Bool) :
    summarize findings analysed skipped cancelled =
      .ok { ofFindings findings analysed with
        unitsSkipped := skipped, cancelled := cancelled } := by
  have hcovers : (!Severity.all.all fun s =>
      ((countSeverities findings).map Prod.fst).contains s) = false := by
    simp [countSeverities, Function.comp_def]
  unfold summarize make
  rw [hcovers, sum_countSeverities, sum_countRules]
  simp [ofFindings]

end Report

/-- The report of results holds the findings of the units that were analysed, and counts the
others. -/
theorem reportOf_eq_ok {α : Type} {results : UnitResults} {analysed : List α}
    {found : α → List Finding} (h : results.filterMap id = analysed.map found) :
    reportOf results = .ok
      { Report.ofFindings (sortFindings (analysed.flatMap found)) analysed.length with
        unitsSkipped := results.length - analysed.length
        cancelled := decide (0 < results.length - analysed.length) } := by
  unfold reportOf
  dsimp only
  rw [h, List.length_map, ← List.flatMap_def]
  exact Report.summarize_eq_ok _ _ _ _

/-- If no unit was skipped, the report holds the findings of all of them. -/
theorem reportOf_map_some {α : Type} (units : List α) (found : α → List Finding) :
    reportOf (units.map fun u => some (found u)) =
      .ok (Report.ofFindings (sortFindings (units.flatMap found)) units.length) := by
  have hanalysed : (units.map fun u => some (found u)).filterMap id = units.map found := by
    rw [List.filterMap_map]
    exact congrFun List.filterMap_eq_map units
  rw [reportOf_eq_ok hanalysed, List.length_map, Nat.sub_self]
  rfl

end Conformance
