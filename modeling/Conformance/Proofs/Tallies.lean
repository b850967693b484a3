import Conformance.Proofs.Runs
import Mathlib.Data.List.Induction

/-!
# Counts and groups

The counts by rule, the groups by rule and the groups by file are tables that one pass over the
findings fills. They are the same pass (`tally`) with another key and another thing to add, so one
lemma on the keys and one on the entries serve all of them: the keys are those of the findings in
the order in which they are first seen, and the entry of a key is made of the findings of this key,
in their order. Hence the counts and the groups agree, and no finding is lost or doubled.

Groups are put in the order in which their keys are first seen, so the groups one after the other
are the findings in another order. In the report of a run the findings are sorted by path before
all else: there the groups by file are stretches of the list, and one after the other they are the
list.
-/

set_option autoImplicit false

namespace Conformance

/-! ## 1. One pass over the findings -/

/-- The keys that are left are those seen first, in their order. -/
theorem eraseDups_sublist (keys : List String) : keys.eraseDups.Sublist keys := by
  induction keys using List.reverseRecOn with
  | nil => exact .slnil
  | append_singleton rest key ih =>
    rw [eraseDups_append_singleton]
    split
    · exact ih.trans (List.sublist_append_left rest [key])
    · exact ih.append (.refl [key])

section Tally

variable {α : Type} (key : Finding → String) (start : α) (add : α → Finding → α)

/-- One entry for each key of a finding. Every finding is added to the entry of its key, the first
one to `start`. -/
def tally (findings : List Finding) : Table α :=
  findings.foldl (fun t f => t.insert (key f) (add ((t.get? (key f)).getD start) f)) .empty

/-- One finding more, at the end: it adds to the entry of its key. -/
theorem tally_append_singleton (findings : List Finding) (f : Finding) :
    tally key start add (findings ++ [f]) = (tally key start add findings).insert (key f)
      (add (((tally key start add findings).get? (key f)).getD start) f) := by
  unfold tally
  rw [List.foldl_append, List.foldl_cons, List.foldl_nil]

/-- The keys are in the order in which they are first seen. -/
theorem keys_tally (findings : List Finding) :
    (tally key start add findings).keys = (findings.map key).eraseDups := by
  induction findings using List.reverseRecOn with
  | nil => rfl
  | append_singleton rest f ih =>
    rw [tally_append_singleton, Table.keys_insert, ih, List.map_append, List.map_singleton,
      eraseDups_append_singleton]
    simp only [List.mem_eraseDups]

/-- The entry of a key is made of the findings of this key, in their order. -/
theorem get?_tally (findings : List Finding) (k : String) :
    (tally key start add findings).get? k =
      if k ∈ findings.map key then some ((findings.filter (key · = k)).foldl add start)
      else none := by
  induction findings using List.reverseRecOn with
  | nil => rfl
  | append_singleton rest f ih =>
    rw [tally_append_singleton, Table.get?_insert, List.filter_append, List.map_append,
      List.map_singleton]
    by_cases hkey : k = key f
    · -- if the key is new, then none of the earlier findings has it
      have hbefore : ((tally key start add rest).get? (key f)).getD start =
          (rest.filter (key · = k)).foldl add start := by
        rw [← hkey, ih]
        by_cases hmem : k ∈ rest.map key
        · rw [if_pos hmem, Option.getD_some]
        · have hnone : rest.filter (key · = k) = [] := by
            rw [List.filter_eq_nil_iff]
            intro g hg heq
            exact hmem (List.mem_map.mpr ⟨g, hg, of_decide_eq_true heq⟩)
          rw [if_neg hmem, hnone, Option.getD_none, List.foldl_nil]
      rw [if_pos hkey, if_pos (by simp [hkey]), hbefore, List.foldl_append]
      simp [hkey]
    · have hskip : [f].filter (key · = k) = [] := by simp [Ne.symm hkey]
      rw [if_neg hkey, ih, hskip, List.append_nil]
      simp only [List.mem_append, List.mem_singleton, hkey, or_false]

variable {key start add}

/-- So an entry is nothing but its key and the findings of this key. -/
theorem eq_of_mem_tally {findings : List Finding} {entry : String × α}
    (h : entry ∈ (tally key start add findings).entries) :
    entry.2 = (findings.filter (key · = entry.1)).foldl add start := by
  have hget := Table.get?_of_mem h
  rw [get?_tally] at hget
  split at hget
  · exact (Option.some.inj hget).symm
  · exact absurd hget (by simp)

end Tally

/-! ## 2. Groups -/

theorem groupFindings_eq_tally (key : Finding → String) (findings : List Finding) :
    groupFindings key findings = tally key [] (fun group f => group ++ [f]) findings := rfl

theorem foldl_append_singleton (findings : List Finding) :
    findings.foldl (fun group f => group ++ [f]) [] = findings := by
  induction findings using List.reverseRecOn with
  | nil => rfl
  | append_singleton rest f ih => rw [List.foldl_append, ih, List.foldl_cons, List.foldl_nil]

/-- The findings of every key form a group, and the groups are in the order in which their keys are
first seen. -/
structure IsGrouping (key : Finding → String) (findings : List Finding)
    (groups : Table (List Finding)) : Prop where
  keys : groups.keys = (findings.map key).eraseDups
  /-- A group holds the findings of its key, in their order. -/
  members : ∀ group ∈ groups.entries, group.2 = findings.filter (key · = group.1)
  /-- No finding is lost and none is in two groups. -/
  partition : (groups.entries.flatMap Prod.snd).Perm findings

/-- Distinct keys that every finding has one of cut the findings into as many parts. -/
theorem flatMap_filter_perm {key : Finding → String} {keys : List String} (hnodup : keys.Nodup)
    {findings : List Finding} (hkeys : ∀ f ∈ findings, key f ∈ keys) :
    (keys.flatMap fun k => findings.filter (key · = k)).Perm findings := by
  induction keys generalizing findings with
  | nil =>
    have hnone : findings = [] := List.eq_nil_iff_forall_not_mem.mpr fun f hf =>
      absurd (hkeys f hf) List.not_mem_nil
    rw [hnone]
    exact .refl _
  | cons k rest ih =>
    obtain ⟨hk, hrest⟩ := List.nodup_cons.mp hnodup
    -- the findings of the other keys are found among those that do not have the first
    have hothers : ∀ f ∈ findings.filter (fun f => !decide (key f = k)), key f ∈ rest := by
      intro f hf
      obtain ⟨hmem, hne⟩ := List.mem_filter.mp hf
      exact (List.mem_cons.mp (hkeys f hmem)).resolve_left (by simpa using hne)
    have hsame : (rest.flatMap fun other => findings.filter (key · = other)) =
        rest.flatMap fun other =>
          (findings.filter fun f => !decide (key f = k)).filter (key · = other) := by
      refine List.flatMap_congr fun other hother => ?_
      rw [List.filter_filter]
      refine List.filter_congr fun f _ => ?_
      by_cases heq : key f = other
      · have hne : other ≠ k := fun hother' => hk (hother' ▸ hother)
        simp [heq, hne]
      · simp [heq]
    rw [List.flatMap_cons, hsame]
    exact ((ih hrest hothers).append_left _).trans (List.filter_append_perm _ findings)

theorem flatMap_groups {key : Finding → String} {findings : List Finding}
    {groups : Table (List Finding)}
    (h : ∀ group ∈ groups.entries, group.2 = findings.filter (key · = group.1)) :
    groups.entries.flatMap Prod.snd = groups.keys.flatMap fun k => findings.filter (key · = k) := by
  unfold Table.keys keysOf
  rw [List.flatMap_map]
  exact List.flatMap_congr h

/-- **Grouping.** Keys in order of first mention, members in order, and nothing lost: this is all
that the two ways of grouping have in common. -/
theorem isGrouping_groupFindings (key : Finding → String) (findings : List Finding) :
    IsGrouping key findings (groupFindings key findings) := by
  have hkeys : (groupFindings key findings).keys = (findings.map key).eraseDups := by
    rw [groupFindings_eq_tally, keys_tally]
  have hmembers : ∀ group ∈ (groupFindings key findings).entries,
      group.2 = findings.filter (key · = group.1) := by
    intro group hgroup
    rw [groupFindings_eq_tally] at hgroup
    rw [eq_of_mem_tally hgroup, foldl_append_singleton]
  refine ⟨hkeys, hmembers, ?_⟩
  rw [flatMap_groups hmembers]
  have hnodup : (groupFindings key findings).keys.Nodup := (groupFindings key findings).nodup
  refine flatMap_filter_perm hnodup fun f hf => ?_
  rw [hkeys, List.mem_eraseDups]
  exact List.mem_map.mpr ⟨f, hf, rfl⟩

theorem isGrouping_groupByFile (findings : List Finding) :
    IsGrouping (·.location.path.text) findings (groupByFile findings) :=
  isGrouping_groupFindings _ findings

namespace IsGrouping

variable {key : Finding → String} {findings : List Finding} {groups : Table (List Finding)}
  {group : String × List Finding}

theorem mem_iff (h : IsGrouping key findings groups) (hgroup : group ∈ groups.entries)
    {f : Finding} : f ∈ group.2 ↔ f ∈ findings ∧ key f = group.1 := by
  rw [h.members group hgroup, List.mem_filter, decide_eq_true_eq]

/-- No group is empty: what is asked of all findings is asked of the key of each group too. -/
theorem exists_mem (h : IsGrouping key findings groups) (hgroup : group ∈ groups.entries) :
    ∃ f, f ∈ group.2 := by
  have hkey : group.1 ∈ findings.map key := by
    rw [← List.mem_eraseDups, ← h.keys]
    exact List.mem_map_of_mem hgroup
  obtain ⟨f, hf, hsame⟩ := List.mem_map.mp hkey
  exact ⟨f, (h.mem_iff hgroup).mpr ⟨hf, hsame⟩⟩

theorem exists_group (h : IsGrouping key findings groups) {f : Finding} (hf : f ∈ findings) :
    ∃ group ∈ groups.entries, f ∈ group.2 :=
  List.mem_flatMap.mp (h.partition.mem_iff.mpr hf)

end IsGrouping

/-- Findings in order have their paths in order, so the groups by file come in order as well. -/
theorem ascending_keys_groupByFile {findings : List Finding}
    (hordered : findings.Pairwise fun a b => a.sortKey.Precedes b.sortKey) :
    (groupByFile findings).keys.Pairwise fun p q => p < q := by
  have hgroups := isGrouping_groupByFile findings
  have hweak : (findings.map (·.location.path.text)).Pairwise fun p q => p < q ∨ p = q := by
    rw [List.pairwise_map]
    exact hordered.imp fun hprecedes => hprecedes.imp id And.left
  have hkeys : (groupByFile findings).keys.Pairwise fun p q => p < q ∨ p = q := by
    rw [hgroups.keys]
    exact hweak.sublist (eraseDups_sublist _)
  -- the keys are distinct, so of the two only the first is left
  exact (hkeys.and (groupByFile findings).nodup).imp fun hboth => hboth.1.resolve_right hboth.2

/-- Findings of one key have one path: all of them are found under it, and none under another. -/
theorem atKey_filter_path (key : SortKey) (findings : List Finding) (path : String) :
    atKey key (findings.filter (·.location.path.text = path)) =
      if path = key.path then atKey key findings else [] := by
  have hpath : ∀ f ∈ atKey key findings, f.location.path.text = key.path := fun f hf =>
    congrArg SortKey.path (mem_atKey.mp hf).2
  rw [atKey_filter]
  split
  · rename_i hsame
    rw [List.filter_eq_self]
    exact fun f hf => decide_eq_true ((hpath f hf).trans hsame.symm)
  · rename_i hother
    rw [List.filter_eq_nil_iff]
    exact fun f hf hsame => hother ((of_decide_eq_true hsame).symm.trans (hpath f hf))

/-- **Groups of sorted findings.** Findings in order come file by file, so the groups by file put
one after the other are the findings. -/
theorem flatMap_groupByFile {findings : List Finding}
    (hordered : findings.Pairwise fun a b => a.sortKey.Precedes b.sortKey) :
    (groupByFile findings).entries.flatMap Prod.snd = findings := by
  have hgroups := isGrouping_groupByFile findings
  rw [flatMap_groups hgroups.members]
  have hnodup : (groupByFile findings).keys.Nodup := (groupByFile findings).nodup
  refine eq_of_atKey_eq ?_ hordered fun key => ?_
  · rw [List.pairwise_flatMap]
    refine ⟨fun k _ => hordered.filter _,
      (ascending_keys_groupByFile hordered).imp fun hlt x hx y hy => .inl ?_⟩
    have hx : x.location.path.text = _ := of_decide_eq_true (List.mem_filter.mp hx).2
    have hy : y.location.path.text = _ := of_decide_eq_true (List.mem_filter.mp hy).2
    show x.location.path.text < y.location.path.text
    rw [hx, hy]
    exact hlt
  · -- the findings of one key are found in one group, that of their path
    rw [atKey_flatMap]
    simp only [atKey_filter_path]
    by_cases hmem : key.path ∈ (groupByFile findings).keys
    · rw [flatMap_eq_of_unique hnodup hmem fun k _ hk => if_neg hk, if_pos rfl]
    · have hnone : atKey key findings = [] := by
        rw [List.eq_nil_iff_forall_not_mem]
        intro f hf
        obtain ⟨hf, hkey⟩ := mem_atKey.mp hf
        refine hmem ?_
        rw [hgroups.keys, List.mem_eraseDups, ← hkey]
        exact List.mem_map.mpr ⟨f, hf, rfl⟩
      rw [hnone, List.flatMap_eq_nil_iff]
      exact fun _ _ => ite_self []

/-! ## 3. Counts -/

namespace Report

theorem countRules_eq_tally (findings : List Finding) :
    countRules findings = tally (·.ruleId) 0 (fun count _ => count + 1) findings := rfl

theorem foldl_add_one (findings : List Finding) (start : Int) :
    findings.foldl (fun count _ => count + 1) start = start + findings.length := by
  induction findings generalizing start with
  | nil => simp
  | cons f rest ih =>
    rw [List.foldl_cons, ih, List.length_cons]
    omega

/-- The counts of a report are those of its findings. -/
structure Tallied (report : Report) : Prop where
  severities : report.severityCounts.map Prod.fst = Severity.all
  severity : ∀ entry ∈ report.severityCounts,
    entry.2 = report.findings.countP (·.severity = entry.1)
  rules : report.ruleCounts.keys = (report.findings.map (·.ruleId)).eraseDups
  rule : ∀ entry ∈ report.ruleCounts.entries,
    entry.2 = (report.findings.countP (·.ruleId = entry.1) : Int)
  severitySum : sumCounts (report.severityCounts.map Prod.snd) = report.total
  ruleSum : sumCounts (report.ruleCounts.entries.map Prod.snd) = report.total

/-- The count of a rule is the number of its findings. -/
theorem count_of_mem_countRules {findings : List Finding} {entry : String × Int}
    (h : entry ∈ (countRules findings).entries) :
    entry.2 = (findings.countP (·.ruleId = entry.1) : Int) := by
  rw [countRules_eq_tally] at h
  rw [eq_of_mem_tally h, foldl_add_one, List.countP_eq_length_filter, Int.zero_add]

/-- A report whose counts are made from its findings is tallied. -/
theorem tallied_of_counts {report : Report}
    (hseverities : report.severityCounts = countSeverities report.findings)
    (hrules : report.ruleCounts = countRules report.findings) : report.Tallied where
  severities := by
    rw [hseverities]
    rfl
  severity := by
    intro entry hentry
    rw [hseverities] at hentry
    obtain ⟨s, -, rfl⟩ := List.mem_map.mp hentry
    rfl
  rules := by rw [hrules, countRules_eq_tally, keys_tally]
  rule := by
    intro entry hentry
    rw [hrules] at hentry
    exact count_of_mem_countRules hentry
  severitySum := by
    rw [hseverities]
    exact sum_countSeverities report.findings
  ruleSum := by
    rw [hrules]
    exact sum_countRules report.findings

/-- The groups by rule have the keys of the counts by rule, in the same order, and each of them
holds the findings of its rule and as many as are counted. -/
structure GroupsAsCounted (report : Report) (groups : Table (List Finding)) : Prop where
  keys : groups.keys = report.ruleCounts.keys
  members : ∀ group ∈ groups.entries, group.2 = report.forRule group.1
  length : ∀ group ∈ groups.entries, report.ruleCounts.get? group.1 = some (group.2.length : Int)

/-- **Counts and groups agree**: both are tallies over the same keys. -/
theorem Tallied.groupsAsCounted {report : Report} (h : report.Tallied) :
    report.GroupsAsCounted (groupByRule report.findings) := by
  have hgroups : IsGrouping (·.ruleId) report.findings (groupByRule report.findings) :=
    isGrouping_groupFindings _ report.findings
  have hkeys : (groupByRule report.findings).keys = report.ruleCounts.keys :=
    hgroups.keys.trans h.rules.symm
  refine ⟨hkeys, hgroups.members, fun group hgroup => ?_⟩
  have hkey : group.1 ∈ report.ruleCounts.keys := by
    rw [← hkeys]
    exact List.mem_map.mpr ⟨group, hgroup, rfl⟩
  obtain ⟨count, hcount⟩ := Table.exists_get?_of_mem_keys hkey
  have hnumber : count = (report.findings.countP (·.ruleId = group.1) : Int) :=
    h.rule (group.1, count) (Table.mem_of_get? hcount)
  rw [hcount, hnumber, hgroups.members group hgroup, List.countP_eq_length_filter]

end Report

/-- The findings of a run are in order, whatever the run did to get them. -/
theorem Runner.findings_ordered {r : Runner} {units : List SourceUnit} {signal : Signal}
    {clock : Clock} {schedule : Schedule} {report : Report}
    (h : r.run units signal clock schedule = .ok report) :
    report.findings.Pairwise fun a b => a.sortKey.Precedes b.sortKey := by
  obtain ⟨results, hreport⟩ : ∃ results, reportOf results = .ok report := by
    obtain ⟨rules, -, hrest⟩ := bind_ok_iff.mp h
    dsimp only at hrest
    -- one worker or several, the results are put together in the same way
    split at hrest
    all_goals
      obtain ⟨results, -, hreport⟩ := bind_ok_iff.mp hrest
      exact ⟨results, hreport⟩
  rw [reportOf_eq_ok (List.map_id _).symm] at hreport
  rw [← Except.ok.inj hreport]
  exact sortFindings_ordered _

/-! ## 4. Every report -/

/-- **Counts and groups agree and lose nothing.** Findings in any order and any numbers of units are
summarised in a report, and never refused. It keeps the findings; its counts are those of the
severities, all three of them, and of the rules in the order in which they are first seen, and
either sum is the number of findings. The groups by rule are those that the counts by rule count,
and the groups by file cut the findings by path. In the report of a run, of whatever units and
however it was done, the groups by file one after the other are the findings as they stand. -/
theorem Report.counts_and_groups_agree :
    (∀ (findings : List Finding) (analysed skipped : Nat) (cancelled : Bool), ∃ report,
      Report.summarize findings analysed skipped cancelled = .ok report ∧
        report.findings = findings ∧ report.unitsAnalyzed = analysed ∧
        report.unitsSkipped = skipped ∧ report.cancelled = cancelled ∧ report.Tallied ∧
        IsGrouping (·.ruleId) findings (groupByRule findings) ∧
        report.GroupsAsCounted (groupByRule findings) ∧
        IsGrouping (·.location.path.text) findings (groupByFile findings)) ∧
      ∀ (r : Runner) (units : List SourceUnit) (signal : Signal) (clock : Clock)
        (schedule : Schedule) (report : Report), r.run units signal clock schedule = .ok report →
          (groupByFile report.findings).entries.flatMap Prod.snd = report.findings := by
  constructor
  · intro findings analysed skipped cancelled
    have htallied : Report.Tallied { ofFindings findings analysed with
        unitsSkipped := skipped, cancelled := cancelled } := tallied_of_counts rfl rfl
    exact ⟨_, summarize_eq_ok findings analysed skipped cancelled, rfl, rfl, rfl, rfl, htallied,
      isGrouping_groupFindings _ findings, htallied.groupsAsCounted,
      isGrouping_groupFindings _ findings⟩
  · intro r units signal clock schedule report hrun
    exact flatMap_groupByFile (Runner.findings_ordered hrun)

/-- Two units that come in the wrong order, each with a finding. -/
theorem Report.counts_and_groups_agree_sample :
    ∃ report, Runner.run ⟨typeReporterRegistry, {}, none⟩ [secondUnit, firstUnit] (some false)
        (fun _ => .whole 0) [] = .ok report ∧
      report.total = 2 ∧
      (groupByFile report.findings).entries.flatMap Prod.snd = report.findings := by
  have huncancelled : Uncancelled (some false) typeReporterSet [secondUnit, firstUnit] :=
    ⟨by decide, fun _ => by decide⟩
  have hrun : Runner.run ⟨typeReporterRegistry, {}, none⟩ [secondUnit, firstUnit] (some false)
      (fun _ => .whole 0) [] = .ok (reportOn typeReporterSet [secondUnit, firstUnit]) :=
    Runner.run_eq_ok _ rfl rfl huncancelled fun workers hworkers => by cases hworkers
  refine ⟨_, hrun, ?_, Report.counts_and_groups_agree.2 _ _ _ _ _ _ hrun⟩
  exact (sortFindings_perm _).length_eq

end Conformance
