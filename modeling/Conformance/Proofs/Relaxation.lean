import Conformance.Proofs.Cancellation
import Conformance.Proofs.ExitStatus
import Conformance.Proofs.Loosening
import Mathlib.Data.List.Flatten
import Mathlib.Data.Multiset.Defs

/-!
# Relaxing the configuration adds no violations

Take the built-in rules under two configurations, of which the second asks for less: it disables
rules, or configures them more loosely. This file compares the two runs. Every violation that the
second run finds has its counterpart in the first, of the same rule at the same place.

The argument goes by numbers. At one site all findings of a rule stand at one place, so it is enough
that its check makes no more of them under the looser configuration. The rest is bookkeeping from
the site up: what is found at a site is a sublist of what was found there, and so it is for units
and for runs, before their findings are sorted (`violations`).

Disabling rules changes which remarks there are about incomplete elements, but remarks are not
counted here. Nor do they matter for the exit status, which is why it can only get better.
-/

set_option autoImplicit false

namespace Conformance

/-! ## 1. Violations -/

/-- The findings that are no diagnostics, by their rule and place. -/
def violations (findings : List Finding) : List (String × Location) :=
  (findings.filter (·.category ≠ .diagnostic)).map fun f => (f.ruleId, f.location)

theorem violations_append (first second : List Finding) :
    violations (first ++ second) = violations first ++ violations second := by
  unfold violations
  rw [List.filter_append, List.map_append]

theorem violations_flatMap {α : Type} (items : List α) (found : α → List Finding) :
    violations (items.flatMap found) = items.flatMap fun item => violations (found item) := by
  unfold violations
  rw [List.filter_flatMap, List.map_flatMap]

theorem violations_eq_nil {findings : List Finding}
    (h : ∀ f ∈ findings, f.category = .diagnostic) : violations findings = [] := by
  unfold violations
  rw [List.map_eq_nil_iff, List.filter_eq_nil_iff]
  intro f hf
  simp [h f hf]

/-- Findings of one rule at one place differ only in their number. -/
theorem violations_eq_replicate {findings : List Finding} {ruleId : String} {location : Location}
    (h : ∀ f ∈ findings,
      f.category ≠ .diagnostic ∧ f.ruleId = ruleId ∧ f.location = location) :
    violations findings = List.replicate findings.length (ruleId, location) := by
  unfold violations
  have hall : findings.filter (·.category ≠ .diagnostic) = findings := by
    rw [List.filter_eq_self]
    intro f hf
    simpa using (h f hf).1
  rw [hall, List.eq_replicate_iff, List.length_map]
  refine ⟨rfl, fun pair hpair => ?_⟩
  obtain ⟨f, hf, rfl⟩ := List.mem_map.mp hpair
  rw [(h f hf).2.1, (h f hf).2.2]

/-- A violation is the rule and the place of a finding that is no remark. -/
theorem mem_violations {findings : List Finding} {pair : String × Location} :
    pair ∈ violations findings ↔
      ∃ f ∈ findings, f.category ≠ .diagnostic ∧ (f.ruleId, f.location) = pair := by
  unfold violations
  simp only [List.mem_map, List.mem_filter, decide_eq_true_eq]
  constructor
  · rintro ⟨f, ⟨hf, hcategory⟩, hpair⟩
    exact ⟨f, hf, hcategory, hpair⟩
  · rintro ⟨f, hf, hcategory, hpair⟩
    exact ⟨f, ⟨hf, hcategory⟩, hpair⟩

/-! ## 2. Two configurations of one rule -/

/-- One rule under two configurations, the first of which is looser. It does not fail, its findings
are no diagnostics, and its check finds less under the looser one. -/
structure ConfiguredRule.Eases (relaxed strict : ConfiguredRule) : Prop where
  definition : relaxed.definition = strict.definition
  loosens : relaxed.config.Loosens strict.config
  safeRelaxed : relaxed.Safe
  safeStrict : strict.Safe
  violates : strict.definition.category ≠ .diagnostic
  shrinking : strict.definition.check.Shrinking

namespace Site

variable {u : SourceUnit} {site : Site}

/-- What a rule finds at a site: nothing where it does not apply or the element is incomplete. -/
def violationsBy (u : SourceUnit) (site : Site) (rule : ConfiguredRule) :
    List (String × Location) :=
  if site.applies rule = true ∧ site.element.missing = [] then
    violations (site.checkFindings u rule) else []

/-- **One visit.** Its violations are those of the rules, one after the other. -/
theorem violations_visit (u : SourceUnit) (rules : List ConfiguredRule) (site : Site) :
    violations (site.visit u rules).findings = rules.flatMap (site.violationsBy u) := by
  have hfaults : violations (rules.filterMap (site.predicateFault? u.path)) = [] := by
    refine violations_eq_nil fun f hf => ?_
    obtain ⟨rule, -, e, rfl⟩ := exists_of_mem_predicateFaults hf
    rfl
  rw [findings_visit, violations_append, hfaults, List.nil_append]
  by_cases hcomplete : site.element.missing = []
  · -- the rules that do not apply contribute nothing
    have hrules : rules.flatMap (site.violationsBy u) =
        (rules.filter site.applies).flatMap fun rule => violations (site.checkFindings u rule) := by
      rw [flatMap_filter_eq]
      refine List.flatMap_congr fun rule _ => ?_
      unfold violationsBy
      by_cases happlies : site.applies rule = true
      · rw [if_pos ⟨happlies, hcomplete⟩, if_pos happlies]
      · rw [if_neg fun h => happlies h.1, if_neg happlies]
    rw [hrules, ← violations_flatMap, if_pos hcomplete]
    by_cases hidle : rules.filter site.applies = []
    · rw [if_pos hidle, hidle, List.flatMap_nil]
    · rw [if_neg hidle]
  · have hrules : rules.flatMap (site.violationsBy u) = [] := by
      rw [List.flatMap_eq_nil_iff]
      intro rule _
      unfold violationsBy
      rw [if_neg fun h => hcomplete h.2]
    rw [hrules, if_neg hcomplete]
    split
    · rfl
    · exact violations_eq_nil fun f hf => by rw [List.mem_singleton.mp hf]; rfl

/-- A check that goes through contributes its findings, all of its rule and at the site. -/
theorem violations_checkFindings {rule : ConfiguredRule} (hrule : rule.Safe)
    (hcategory : rule.definition.category ≠ .diagnostic)
    (happlies : rule.definition.appliesTo site.element = .ok true)
    (hcomplete : site.element.missing = []) :
    violations (site.checkFindings u rule) =
      List.replicate (site.checkRun u rule).findings.length
        (rule.ruleId, site.location u.path) := by
  have hclean : (site.checkRun u rule).Clean _ _ := clean_checkRun hrule happlies hcomplete
  have hfound : site.checkFindings u rule = (site.checkRun u rule).findings := by
    unfold checkFindings CheckRun.result
    rw [hclean.failure]
  rw [hfound]
  refine violations_eq_replicate fun f hf => ?_
  have hmakes := hclean.makes f hf
  refine ⟨?_, hmakes.signs.ruleId, hmakes.location rfl rfl⟩
  rw [hmakes.signs.category]
  exact hcategory

/-- **One rule at one site** finds less under the looser configuration. -/
theorem violationsBy_sublist {relaxed strict : ConfiguredRule} (h : relaxed.Eases strict) :
    (site.violationsBy u relaxed).Sublist (site.violationsBy u strict) := by
  have hsame : site.applies relaxed = site.applies strict := by
    unfold applies
    rw [h.definition]
  unfold violationsBy
  rw [hsame]
  by_cases hchecked : site.applies strict = true ∧ site.element.missing = []
  · rw [if_pos hchecked, if_pos hchecked]
    obtain ⟨happlies, hcomplete⟩ := hchecked
    have hstrict := applies_iff.mp happlies
    have hrelaxed := applies_iff.mp (hsame.trans happlies)
    have hrunStrict : (site.checkRun u strict).Clean _ _ :=
      clean_checkRun h.safeStrict hstrict hcomplete
    have hrunRelaxed : (site.checkRun u relaxed).Clean _ _ :=
      clean_checkRun h.safeRelaxed hrelaxed hcomplete
    have hviolates : relaxed.definition.category ≠ .diagnostic := h.definition ▸ h.violates
    have hid : relaxed.ruleId = strict.ruleId := congrArg RuleDefinition.ruleId h.definition
    rw [violations_checkFindings h.safeRelaxed hviolates hrelaxed hcomplete,
      violations_checkFindings h.safeStrict h.violates hstrict hcomplete, hid,
      List.replicate_sublist_replicate]
    -- the two runs are runs of one check in contexts that differ in the configuration
    have hrun : site.checkRun u relaxed = strict.definition.check site.element
        { site.context u strict with config := relaxed.config } := by
      unfold checkRun context ConfiguredRule.ruleId
      rw [h.definition]
    rw [hrun] at hrunRelaxed ⊢
    exact h.shrinking.fewer h.loosens hrunStrict.failure hrunRelaxed.failure
  · rw [if_neg hchecked, if_neg hchecked]

end Site

/-! ## 3. Two rule sets -/

/-- What each item of a looser list contributes is part of what its counterpart does. -/
theorem sublist_flatMap {α β γ : Type} {R : α → β → Prop} {f : α → List γ} {g : β → List γ}
    (h : ∀ a b, R a b → (f a).Sublist (g b)) {relaxed : List α} {strict : List β}
    (hlists : List.SublistForall₂ R relaxed strict) :
    (relaxed.flatMap f).Sublist (strict.flatMap g) := by
  induction hlists with
  | nil => exact List.nil_sublist _
  | cons hr _ ih =>
    rw [List.flatMap_cons, List.flatMap_cons]
    exact (h _ _ hr).append ih
  | cons_right _ ih =>
    rw [List.flatMap_cons]
    exact ih.trans (List.sublist_append_right _ _)

/-- Every item of a looser list has its counterpart in the stricter one. -/
theorem exists_counterpart {α β : Type} {R : α → β → Prop} {relaxed : List α} {strict : List β}
    (hlists : List.SublistForall₂ R relaxed strict) {a : α} (ha : a ∈ relaxed) :
    ∃ b ∈ strict, R a b := by
  induction hlists with
  | nil => exact absurd ha List.not_mem_nil
  | cons hr _ ih =>
    rcases List.mem_cons.mp ha with rfl | hrest
    · exact ⟨_, List.mem_cons_self, hr⟩
    · obtain ⟨b, hb, hrb⟩ := ih hrest
      exact ⟨b, List.mem_cons_of_mem _ hb, hrb⟩
  | cons_right _ ih =>
    obtain ⟨b, hb, hrb⟩ := ih ha
    exact ⟨b, List.mem_cons_of_mem _ hb, hrb⟩

/-- Items that pass a test have counterparts that pass it, if the items correspond one by one. -/
theorem sublistForall₂_filter {α : Type} {R : α → α → Prop} {p : α → Bool} {relaxed strict : List α}
    (h : List.Forall₂ (fun a b => p a = false ∨ p b = true ∧ p a = true ∧ R a b) relaxed strict) :
    List.SublistForall₂ R (relaxed.filter p) (strict.filter p) := by
  induction h with
  | nil => exact .nil
  | @cons a b _ _ hab _ ih =>
    rcases hab with hfails | ⟨hb, ha, hr⟩
    · rw [List.filter_cons_of_neg (Bool.eq_false_iff.mp hfails), List.filter_cons]
      split
      · exact .cons_right ih
      · exact ih
    · rw [List.filter_cons_of_pos ha, List.filter_cons_of_pos hb]
      exact .cons hr ih

/-- The rules of the second set are rules of the first under looser configurations, in order. -/
def RuleSet.Relaxes (relaxed strict : RuleSet) : Prop :=
  List.SublistForall₂ ConfiguredRule.Eases relaxed.rules strict.rules

namespace SourceUnit

variable {relaxed strict : RuleSet}

/-- The violations in a unit are those at its sites. -/
theorem violations_unsortedFindings (u : SourceUnit) (rules : RuleSet) :
    violations (u.unsortedFindings rules) =
      if u.layer = none then []
      else u.sites.flatMap fun site => rules.rules.flatMap (site.violationsBy u) := by
  have hvisit : violations (u.visitFindings rules.rules) =
      u.sites.flatMap fun site => rules.rules.flatMap (site.violationsBy u) := by
    unfold visitFindings
    rw [violations_flatMap]
    exact List.flatMap_congr fun site _ => site.violations_visit u rules.rules
  unfold unsortedFindings
  by_cases hlayer : u.layer = none
  · rw [if_pos hlayer, if_pos hlayer]
    split
    · rfl
    · exact violations_eq_nil fun f hf => by rw [List.mem_singleton.mp hf]; rfl
  · rw [if_neg hlayer, if_neg hlayer, ← hvisit]
    by_cases hrules : rules.rules = []
    · rw [if_pos hrules, hrules, visitFindings_nil]
    · rw [if_neg hrules]

/-- **One unit.** A looser rule set finds part of what the other finds. -/
theorem violations_sublist (h : relaxed.Relaxes strict) (u : SourceUnit) :
    (violations (u.unsortedFindings relaxed)).Sublist
      (violations (u.unsortedFindings strict)) := by
  rw [violations_unsortedFindings, violations_unsortedFindings]
  split
  · exact List.nil_sublist _
  · refine List.Sublist.flatMap_right _ fun site _ => ?_
    exact sublist_flatMap (R := ConfiguredRule.Eases) (fun _ _ => Site.violationsBy_sublist) h

end SourceUnit

/-- The violations of a report, each as often as it is found. -/
def Report.violations (report : Report) : Multiset (String × Location) :=
  Conformance.violations report.findings

/-- **All units.** The order in which a report lists its findings does not matter here. -/
theorem violations_reportOnPart_le {relaxed strict : RuleSet} (h : relaxed.Relaxes strict)
    (analysed : List SourceUnit) (skipped more : Nat) :
    (reportOnPart relaxed analysed skipped).violations ≤
      (reportOnPart strict analysed more).violations := by
  have hperm : ∀ rules : RuleSet, ∀ count, (reportOnPart rules analysed count).violations =
      (analysed.flatMap fun u => violations (u.unsortedFindings rules) : List _) := by
    intro rules count
    rw [← violations_flatMap]
    exact Multiset.coe_eq_coe.mpr (((sortFindings_perm _).filter _).map _)
  rw [hperm, hperm, Multiset.coe_le]
  exact (List.Sublist.flatMap_right _ fun u _ => u.violations_sublist h).subperm

/-! ## 4. Two configurations of the built-in rules -/

namespace Registry

variable {calls strictCalls relaxedCalls : List RegistryCall} {relaxed strict rules : RuleSet}

/-- A rule under the two configurations that the registries keep for it. -/
theorem eases_of_mem_rules (hstrict : ∀ c ∈ strictCalls, c.Configures)
    (hrelaxed : ∀ c ∈ relaxedCalls, c.Configures) {rule other : ConfiguredRule}
    (hrule : rule ∈ (builtin.afterAll relaxedCalls).rules)
    (hother : other ∈ (builtin.afterAll strictCalls).rules)
    (hsame : rule.definition = other.definition) (hloosens : rule.config.Loosens other.config) :
    rule.Eases other where
  definition := hsame
  loosens := hloosens
  safeRelaxed := (safe_of_mem_rules hrelaxed hrule).2
  safeStrict := (safe_of_mem_rules hstrict hother).2
  violates := by
    have hnone : ∀ d ∈ builtinRules, d.category ≠ .diagnostic := by decide
    exact hnone _ (safe_of_mem_rules hstrict hother).1
  shrinking := Builtin.shrinking_of_mem_builtinRules (safe_of_mem_rules hstrict hother).1

/-- **Snapshots.** If one configuration relaxes another, so do their rule sets. -/
theorem relaxes_of_snapshot (hstrict : ∀ c ∈ strictCalls, c.Configures)
    (hrelaxed : ∀ c ∈ relaxedCalls, c.Configures)
    (hrelaxes : (builtin.afterAll relaxedCalls).Relaxes (builtin.afterAll strictCalls))
    (hstrictRules : strict.rules = (builtin.afterAll strictCalls).rules.filter (·.config.enabled))
    (hrelaxedRules :
      relaxed.rules = (builtin.afterAll relaxedCalls).rules.filter (·.config.enabled)) :
    relaxed.Relaxes strict := by
  obtain ⟨hsoundStrict, hentriesStrict⟩ := definitions_builtin hstrict
  obtain ⟨hsoundRelaxed, hentriesRelaxed⟩ := definitions_builtin hrelaxed
  -- rule by rule, the two registries hold the same definitions
  have hdefinitions :
      (builtin.afterAll relaxedCalls).rules.map (fun r => (r.ruleId, r.definition)) =
        (builtin.afterAll strictCalls).rules.map fun r => (r.ruleId, r.definition) := by
    rw [hsoundRelaxed.definitions_eq, hsoundStrict.definitions_eq, hentriesRelaxed, hentriesStrict]
  have hpaired : List.Forall₂ (fun a b : ConfiguredRule => (a.ruleId, a.definition) =
      (b.ruleId, b.definition)) (builtin.afterAll relaxedCalls).rules
        (builtin.afterAll strictCalls).rules := by
    rw [← List.forall₂_eq_eq_eq, List.forall₂_map_left_iff, List.forall₂_map_right_iff]
      at hdefinitions
    exact hdefinitions
  obtain ⟨hlength, hsame⟩ := List.forall₂_iff_zip.mp hpaired
  unfold RuleSet.Relaxes
  rw [hrelaxedRules, hstrictRules]
  refine sublistForall₂_filter (List.forall₂_iff_zip.mpr ⟨hlength, fun {rule other} hzip => ?_⟩)
  obtain ⟨hrule, hother⟩ := List.of_mem_zip hzip
  obtain ⟨hid, hdefinition⟩ := Prod.mk.inj (hsame hzip)
  have hbefore := hsoundStrict.config_of_mem hother
  have hafter := hsoundRelaxed.config_of_mem hrule
  rw [← hid] at hbefore
  rcases hrelaxes _ _ _ hbefore hafter with hdisabled | ⟨henabled, hstill, hloosens⟩
  · exact .inl hdisabled
  · exact .inr ⟨henabled, hstill,
      eases_of_mem_rules hstrict hrelaxed hrule hother hdefinition hloosens⟩

/-- The snapshot of a configuration of the built-in rules. -/
theorem snapshot_builtin (hcalls : ∀ c ∈ calls, c.Configures) :
    ∃ rules, (builtin.afterAll calls).snapshot = .ok rules ∧
      rules.rules = (builtin.afterAll calls).rules.filter (·.config.enabled) ∧
      ∀ rule ∈ rules.rules, rule.definition ∈ builtinRules := by
  obtain ⟨rules, hsnapshot, hrules⟩ := (definitions_builtin hcalls).1.snapshot
  refine ⟨rules, hsnapshot, hrules, fun rule hrule => ?_⟩
  rw [hrules] at hrule
  exact (safe_of_mem_rules hcalls (List.mem_filter.mp hrule).1).1

theorem usesContext_of_builtin (hrules : ∀ rule ∈ rules.rules, rule.definition ∈ builtinRules) :
    rules.UsesContext := by
  intro rule hrule element ctx f hf
  have hlocal := Builtin.local_of_mem_builtinRules (hrules rule hrule)
  exact ⟨element, hlocal.check.reports hf⟩

/-- No built-in rule cancels a run, so both runs analyse all of their units. -/
theorem quiet_of_builtin (hrules : ∀ rule ∈ rules.rules, rule.definition ∈ builtinRules)
    (u : SourceUnit) : (u.evaluate rules).cancels = false := by
  have hsite : ∀ site : Site, (site.visit u rules.rules).cancels = false := by
    intro site
    unfold Site.visit
    dsimp only
    split
    · rfl
    · split
      · rfl
      · refine List.any_eq_false.mpr fun rule hrule => ?_
        have hbuiltin := hrules rule (List.mem_filter.mp hrule).1
        rw [Bool.not_eq_true]
        exact (Builtin.shrinking_of_mem_builtinRules hbuiltin).quiet _ _
  -- an evaluation cancels only where one of its visits does
  unfold SourceUnit.evaluate
  split
  · rfl
  · split
    · rfl
    · refine List.any_eq_false.mpr fun site _ => ?_
      rw [hsite site]
      exact Bool.false_ne_true

end Registry

/-! ## 5. Two runs -/

/-- An error that is found under the looser configuration has its counterpart, and the counterpart
is an error as well, since the severities are the same. -/
theorem exitCode_le_of_violations_le {relaxed strict : RuleSet} (h : relaxed.Relaxes strict)
    {units : List SourceUnit} {before after : Report}
    (hbefore : before.Counted ∧ ∀ f ∈ before.findings, strict.Makes units f ∨ f.IsRemark)
    (hafter : after.Counted ∧ ∀ f ∈ after.findings, relaxed.Makes units f ∨ f.IsRemark)
    (hle : after.violations ≤ before.violations) : after.exitCode ≤ before.exitCode := by
  by_cases hfails : ∃ f ∈ after.findings, f.severity = .error
  · obtain ⟨f, hf, herror⟩ := hfails
    rcases hafter.2 f hf with hmakes | hremark
    · obtain ⟨rule, hrule, hsigns⟩ := hmakes.signed
      obtain ⟨other, hother, heases⟩ := exists_counterpart h hrule
      have hcategory : f.category ≠ .diagnostic := by
        rw [hsigns.category, heases.definition]
        exact heases.violates
      have hfound : (f.ruleId, f.location) ∈ before.violations :=
        Multiset.mem_of_le hle (mem_violations.mpr ⟨f, hf, hcategory, rfl⟩)
      obtain ⟨g, hg, hviolates, hpair⟩ := mem_violations.mp hfound
      rcases hbefore.2 g hg with hmade | hremark
      · obtain ⟨signer, hsigner, hsigned⟩ := hmade.signed
        have hname : g.ruleId = other.ruleId := by
          rw [(Prod.mk.inj hpair).1, hsigns.ruleId]
          exact congrArg RuleDefinition.ruleId heases.definition
        -- the rule that signed the counterpart is the counterpart of the rule
        have hsame : other = signer := hsigned.unique hsigner hother hname
        have hseverity : g.severity = .error := by
          rw [hsigned.severity, ← hsame, ← heases.loosens.severity, ← hsigns.severity, herror]
        rw [hafter.1.exitCode_eq_one_iff.mpr ⟨f, hf, herror⟩,
          hbefore.1.exitCode_eq_one_iff.mpr ⟨g, hg, hseverity⟩]
      · exact absurd hremark.category hviolates
    · rw [hremark.severity] at herror
      exact absurd herror (by decide)
  · have hnone : ∀ f ∈ after.findings, f.severity ≠ .error :=
      fun f hf herror => hfails ⟨f, hf, herror⟩
    rw [hafter.1.exitCode_eq_zero_iff.mpr hnone]
    exact Nat.zero_le _

/-- **Relaxing the configuration adds no violations.** Take the registry of the built-in rules after
any two histories of calls that configure or reset rules, the second of which leaves every rule
disabled or more loosely configured. Without a time budget, whatever the mode and the schedules, the
same units under the same signal are reported on in both cases. The second report has no violation
that the first lacks, counted with multiplicity, and its exit status is no worse. -/
theorem Registry.relaxing_adds_no_violations {start : Registry}
    (hstart : ofDefinitions builtinRules = .ok start) {strictCalls relaxedCalls : List RegistryCall}
    (hstrict : ∀ c ∈ strictCalls, c.Configures) (hrelaxed : ∀ c ∈ relaxedCalls, c.Configures)
    (hrelaxes : (start.afterAll relaxedCalls).Relaxes (start.afterAll strictCalls))
    (first second : Runner) (hfirst : first.registry = start.afterAll strictCalls)
    (hsecond : second.registry = start.afterAll relaxedCalls)
    (hfirstUnbounded : first.effectiveEvaluator = ⟨none⟩)
    (hsecondUnbounded : second.effectiveEvaluator = ⟨none⟩)
    (units : List SourceUnit) (signal : Signal) (firstClock secondClock : Clock)
    {firstSchedule secondSchedule : Schedule}
    (hfirstAllows : first.Allows units.length firstSchedule)
    (hsecondAllows : second.Allows units.length secondSchedule) :
    ∃ before after, first.run units signal firstClock firstSchedule = .ok before ∧
      second.run units signal secondClock secondSchedule = .ok after ∧
      after.violations ≤ before.violations ∧ after.exitCode ≤ before.exitCode := by
  obtain rfl : start = builtin := Except.ok.inj (hstart.symm.trans ofDefinitions_builtinRules)
  obtain ⟨strict, hstrictSnapshot, hstrictRules, hstrictBuiltin⟩ := snapshot_builtin hstrict
  obtain ⟨relaxed, hrelaxedSnapshot, hrelaxedRules, hrelaxedBuiltin⟩ := snapshot_builtin hrelaxed
  have hsets : relaxed.Relaxes strict :=
    relaxes_of_snapshot hstrict hrelaxed hrelaxes hstrictRules hrelaxedRules
  rw [← hfirst] at hstrictSnapshot
  rw [← hsecond] at hrelaxedSnapshot
  obtain ⟨skipped, hfirstRun⟩ := first.run_eq_quiet hstrictSnapshot hfirstUnbounded
    (fun u _ => quiet_of_builtin hstrictBuiltin u) signal firstClock hfirstAllows
  obtain ⟨more, hsecondRun⟩ := second.run_eq_quiet hrelaxedSnapshot hsecondUnbounded
    (fun u _ => quiet_of_builtin hrelaxedBuiltin u) signal secondClock hsecondAllows
  have hle := violations_reportOnPart_le hsets (if signal = some true then [] else units) more
    skipped
  refine ⟨_, _, hfirstRun, hsecondRun, hle, ?_⟩
  exact exitCode_le_of_violations_le hsets
    (first.made_or_remark hstrictSnapshot (usesContext_of_builtin hstrictBuiltin) hfirstRun)
    (second.made_or_remark hrelaxedSnapshot (usesContext_of_builtin hrelaxedBuiltin) hsecondRun) hle

/-- A configuration that makes else branches errors. -/
def strictConfiguration : List RegistryCall :=
  [.configure "no-else-branch" (.table [("severity", .severity .error)]) true]

/-- The same, without the rule about call chains, with longer types and with shorter names. A name
of one consonant is no longer too short, but it is still found for its letters. -/
def relaxedConfiguration : List RegistryCall :=
  strictConfiguration ++
    [.configure "max-call-chain" (.table [("enabled", .bool false)]) true,
      .configure "max-class-size" (.table [("profile", .text "relaxed")]) true,
      .configureMany (Table.ofList [("no-abbreviation.min_length", .int 1)]) true]

theorem Registry.relaxing_adds_no_violations_sample :
    (builtin.afterAll relaxedConfiguration).Relaxes (builtin.afterAll strictConfiguration) ∧
    ∃ before after,
      Runner.run ⟨builtin.afterAll strictConfiguration, {}, none⟩ [tangledUnit] none
        (fun _ => .whole 0) [] = .ok before ∧
      Runner.run ⟨builtin.afterAll relaxedConfiguration, {}, none⟩ [tangledUnit] none
        (fun _ => .whole 0) [] = .ok after ∧
      after.violations ≤ before.violations ∧ after.exitCode ≤ before.exitCode := by
  have hstrict : ∀ c ∈ strictConfiguration, c.Configures := by
    simp [strictConfiguration, RegistryCall.Configures]
  have hrelaxed : ∀ c ∈ relaxedConfiguration, c.Configures := by
    simp [relaxedConfiguration, strictConfiguration, RegistryCall.Configures]
  have hrelaxes : (builtin.afterAll relaxedConfiguration).Relaxes
      (builtin.afterAll strictConfiguration) := by decide +kernel
  refine ⟨hrelaxes, ?_⟩
  exact relaxing_adds_no_violations ofDefinitions_builtinRules hstrict hrelaxed hrelaxes _ _ rfl rfl
    rfl rfl [tangledUnit] none _ _ (Runner.allows_of_serial rfl _ _)
    (Runner.allows_of_serial rfl _ _)

end Conformance
