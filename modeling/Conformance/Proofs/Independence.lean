import Conformance.Proofs.AllOrNothing
import Conformance.Proofs.Runs

/-!
# Rules do not get in each other's way

All rules of a set run on the same sites and write to the same list of findings. This file says in
which sense they are independent all the same. A finding concerns a rule if the rule made it or if
it says that the rule failed.

* **What concerns a rule is up to that rule.** At a site it is what the rule contributes there
  (`Site.contribution`), which mentions no other rule. So a rule gets the same findings from any
  set that it is in, and from the set in which it is alone.
* **What does not concern a rule is up to the others.** Changing the configuration of one rule
  changes neither which rules apply nor what a remark on an incomplete element says, and the
  findings of its check all concern the rule itself.

Both are shown at one site and carried to the whole unit, where sorting does not interfere: a
selection can be made before the sort or after it.
-/

set_option autoImplicit false

namespace Conformance

/-! ## 1. What a finding is about -/

namespace Finding

/-- The rule that the finding says has failed, if it names one. -/
def failedRule? (f : Finding) : Option String :=
  match f.detail? "failed_rule" with
  | some (.text id) => some id
  | _ => none

/-- The finding was made by the rule, or says that the rule failed. -/
def concerns (id : String) (f : Finding) : Bool :=
  f.ruleId = id || (f.ruleId = ruleFault && f.failedRule? = some id)

/-- A finding concerns a rule that it names, or whose failure it tells. -/
theorem concerns_iff {id : String} {f : Finding} :
    f.concerns id = true ↔ f.ruleId = id ∨ f.ruleId = ruleFault ∧ f.failedRule? = some id := by
  unfold concerns
  simp only [Bool.or_eq_true, Bool.and_eq_true, decide_eq_true_eq]

/-- A finding concerns one rule, unless a rule has taken the name of the remarks about failures. -/
theorem concerns_unique {id other : String} {f : Finding} (hid : id ≠ ruleFault)
    (hother : other ≠ ruleFault) (h : f.concerns id = true) (h' : f.concerns other = true) :
    id = other := by
  rw [concerns_iff] at h h'
  rcases h with hmade | ⟨hfault, hfailed⟩
  · rcases h' with hmade' | ⟨hfault', -⟩
    · exact hmade.symm.trans hmade'
    · exact absurd (hmade.symm.trans hfault') hid
  · rcases h' with hmade' | ⟨-, hfailed'⟩
    · exact absurd (hmade'.symm.trans hfault) hother
    · exact Option.some.inj (hfailed.symm.trans hfailed')

end Finding

namespace Site

variable {u : SourceUnit} {site : Site} {rule : ConfiguredRule} {f : Finding}

/-- The remark on a failure concerns the rule that failed. -/
theorem concerns_faultNote (path : SourcePath) (e : Error) :
    (site.faultNote path rule e).concerns rule.ruleId = true := by
  have hdetail : (site.faultNote path rule e).detail? "failed_rule" = some (.text rule.ruleId) :=
    List.lookup_cons_self
  have hfailed : (site.faultNote path rule e).failedRule? = some rule.ruleId := by
    unfold Finding.failedRule?
    rw [hdetail]
  exact Finding.concerns_iff.mpr (.inr ⟨rfl, hfailed⟩)

theorem concerns_of_mem_predicateFault? (hf : f ∈ (site.predicateFault? u.path rule).toList) :
    f.concerns rule.ruleId = true := by
  cases happlies : rule.definition.appliesTo site.element with
  | ok b =>
    rw [predicateFault?_eq_none happlies] at hf
    exact absurd hf List.not_mem_nil
  | error e =>
    rw [predicateFault?_eq_some happlies, Option.toList_some] at hf
    rw [List.mem_singleton.mp hf]
    exact concerns_faultNote u.path e

/-- What a check contributes concerns its rule, whether it ends well or fails. -/
theorem concerns_of_mem_checkFindings (huses : rule.definition.UsesContext)
    (hf : f ∈ site.checkFindings u rule) : f.concerns rule.ruleId = true := by
  rcases found_or_failed hf with hmade | ⟨e, rfl⟩
  · obtain ⟨target, hmakes⟩ := huses site.element (site.context u rule) f hmade
    exact Finding.concerns_iff.mpr (.inl hmakes.signs.ruleId)
  · exact concerns_faultNote u.path e

/-- A remark about data that was left out concerns no rule. -/
theorem not_concerns_note {id : String} (hid : id ≠ incompleteModelData) (path : SourcePath)
    (message : String) (payload : Payload) :
    ¬ (site.note path incompleteModelData message payload).concerns id = true := by
  rw [Finding.concerns_iff]
  rintro (hmade | ⟨hfault, -⟩)
  · exact hid hmade.symm
  · exact absurd hfault (show incompleteModelData ≠ ruleFault by decide)

end Site

/-! ## 2. What concerns a rule -/

/-- Every finding can be put down to a rule: checks make their findings through their contexts, and
no rule has taken the name of the remarks that an evaluation makes itself. -/
structure RuleSet.Attributable (rules : RuleSet) : Prop where
  usesContext : rules.UsesContext
  ruleFault : ∀ rule ∈ rules.rules, rule.ruleId ≠ Conformance.ruleFault
  incomplete : ∀ rule ∈ rules.rules, rule.ruleId ≠ incompleteModelData

/-- What the selected items of a list contribute, item by item. -/
theorem flatMap_filter_eq {α β : Type} (p : α → Bool) (g : α → List β) (items : List α) :
    (items.filter p).flatMap g = items.flatMap fun a => if p a = true then g a else [] := by
  induction items with
  | nil => rfl
  | cons first rest ih =>
    rw [List.flatMap_cons, ← ih]
    by_cases hfirst : p first = true
    · rw [List.filter_cons_of_pos hfirst, List.flatMap_cons, if_pos hfirst]
    · rw [List.filter_cons_of_neg hfirst, if_neg hfirst, List.nil_append]

namespace Site

/-- What a rule contributes at a site: a remark if its predicate fails, and otherwise, if it
applies and nothing was left out of the element, what its check contributes. -/
def contribution (u : SourceUnit) (rule : ConfiguredRule) (site : Site) : List Finding :=
  (site.predicateFault? u.path rule).toList ++
    if site.applies rule ∧ site.element.missing = [] then site.checkFindings u rule else []

variable {u : SourceUnit} {site : Site} {rule : ConfiguredRule} {rules : List ConfiguredRule}

/-- If each rule's part of a list concerns that rule, then selecting what concerns one rule selects
its part. -/
theorem filter_concerns_flatMap {part : ConfiguredRule → List Finding}
    (hnodup : (rules.map (·.ruleId)).Nodup) (hfault : ∀ r ∈ rules, r.ruleId ≠ ruleFault)
    (hrule : rule ∈ rules) (hpart : ∀ r ∈ rules, ∀ f ∈ part r, f.concerns r.ruleId = true) :
    (rules.flatMap part).filter (·.concerns rule.ruleId) = part rule := by
  have hown : (part rule).filter (·.concerns rule.ruleId) = part rule := by
    rw [List.filter_eq_self]
    exact hpart rule hrule
  rw [List.filter_flatMap, flatMap_eq_of_unique (List.Nodup.of_map _ hnodup) hrule, hown]
  intro other hother hne
  rw [List.filter_eq_nil_iff]
  intro f hf hconcerns
  have hid : other.ruleId = rule.ruleId := Finding.concerns_unique (hfault other hother)
    (hfault rule hrule) (hpart other hother f hf) hconcerns
  exact hne (List.inj_on_of_nodup_map hnodup hother hrule hid)

/-- **One site.** What concerns a rule there is what the rule contributes. -/
theorem filter_concerns_visit (hnodup : (rules.map (·.ruleId)).Nodup)
    (huses : ∀ r ∈ rules, r.definition.UsesContext) (hfault : ∀ r ∈ rules, r.ruleId ≠ ruleFault)
    (hincomplete : ∀ r ∈ rules, r.ruleId ≠ incompleteModelData) (hrule : rule ∈ rules) :
    (site.visit u rules).findings.filter (·.concerns rule.ruleId) = site.contribution u rule := by
  have hpredicates : (rules.filterMap (site.predicateFault? u.path)).filter
      (·.concerns rule.ruleId) = (site.predicateFault? u.path rule).toList := by
    rw [List.filterMap_eq_flatMap_toList]
    exact filter_concerns_flatMap hnodup hfault hrule fun _ _ _ hf =>
      concerns_of_mem_predicateFault? hf
  have hchecks : ((rules.filter site.applies).flatMap (site.checkFindings u)).filter
      (·.concerns rule.ruleId) =
        if site.applies rule = true then site.checkFindings u rule else [] := by
    rw [flatMap_filter_eq]
    refine filter_concerns_flatMap hnodup hfault hrule fun r hr f hf => ?_
    split at hf
    · exact concerns_of_mem_checkFindings (huses r hr) hf
    · exact absurd hf List.not_mem_nil
  rw [findings_visit, List.filter_append, hpredicates]
  unfold contribution
  congr 1
  by_cases hidle : rules.filter site.applies = []
  · have hnot : ¬ site.applies rule = true := List.filter_eq_nil_iff.mp hidle rule hrule
    rw [if_pos hidle, if_neg fun h => hnot h.1, List.filter_nil]
  · rw [if_neg hidle]
    by_cases hmissing : site.element.missing = []
    · rw [if_pos hmissing, hchecks]
      simp only [hmissing, and_true]
    · -- the other rules may be named in the remark, but it is not about any of them
      have hskipped : ¬ (site.incompleteNote u.path (rules.filter site.applies)).concerns
          rule.ruleId = true := not_concerns_note (hincomplete rule hrule) u.path _ _
      rw [if_neg hmissing, if_neg fun h => hmissing h.2, List.filter_cons_of_neg hskipped,
        List.filter_nil]

end Site

namespace SourceUnit

/-- All that concerns a rule in a unit: what it contributes at the sites, sorted. -/
def findingsOf (u : SourceUnit) (rule : ConfiguredRule) : List Finding :=
  if u.layer = none then [] else sortFindings (u.sites.flatMap (Site.contribution u rule))

/-- **One unit.** What concerns a rule in an evaluation is a matter of the unit and of that rule. -/
theorem filter_concerns_evaluate {u : SourceUnit} {rules : RuleSet} {rule : ConfiguredRule}
    (hrules : rules.Attributable) (hrule : rule ∈ rules.rules) :
    (u.evaluate rules).findings.filter (·.concerns rule.ruleId) = u.findingsOf rule := by
  have hsome : rules.rules ≠ [] := List.ne_nil_of_mem hrule
  rw [findings_evaluate, filter_sortFindings]
  unfold unsortedFindings findingsOf
  rw [if_neg hsome]
  by_cases hlayer : u.layer = none
  · have hskipped : ¬ u.missingNote.concerns rule.ruleId = true :=
      Site.not_concerns_note (hrules.incomplete rule hrule) u.path _ _
    rw [if_pos hlayer, if_pos hlayer, List.filter_cons_of_neg hskipped, List.filter_nil,
      sortFindings_nil]
  · rw [if_neg hlayer, if_neg hlayer]
    unfold visitFindings
    rw [List.filter_flatMap]
    simp only [Site.filter_concerns_visit rules.nodup hrules.usesContext hrules.ruleFault
      hrules.incomplete hrule]

end SourceUnit

/-- The set of one rule. -/
def RuleSet.single (rule : ConfiguredRule) (h : rule.config.enabled = true) : RuleSet where
  rules := [rule]
  nodup := List.nodup_singleton _
  enabled := fun r hr => by rw [List.mem_singleton.mp hr]; exact h

/-- What is asked of many rules is asked of each alone. -/
theorem RuleSet.Attributable.single {rules : RuleSet} (hrules : rules.Attributable)
    {rule : ConfiguredRule} (hrule : rule ∈ rules.rules) :
    (RuleSet.single rule (rules.enabled rule hrule)).Attributable := by
  have hsub : ∀ r ∈ [rule], r ∈ rules.rules := by
    intro r hr
    rw [List.mem_singleton.mp hr]
    exact hrule
  exact ⟨fun r hr => hrules.usesContext r (hsub r hr), fun r hr => hrules.ruleFault r (hsub r hr),
    fun r hr => hrules.incomplete r (hsub r hr)⟩

/-- **Rules are independent.** Take any unit and any rules whose findings can be put down to them,
and evaluate the unit without a time budget. The findings that a rule made and the remarks that it
failed, in their order, are those that an evaluation by this rule alone leads to. So they are the
same in any other set that the rule is in: no rule that is added, left out, moved, configured
otherwise or broken makes a difference to them. -/
theorem Evaluator.rules_independent (u : SourceUnit) {rules : RuleSet}
    (hrules : rules.Attributable) {rule : ConfiguredRule} (hrule : rule ∈ rules.rules)
    (clock : Clock) :
    ∃ together alone, Evaluator.evaluate ⟨none⟩ u rules clock = .ok together ∧
      Evaluator.evaluate ⟨none⟩ u (.single rule (rules.enabled rule hrule)) clock = .ok alone ∧
      together.findings.filter (·.concerns rule.ruleId) =
        alone.findings.filter (·.concerns rule.ruleId) ∧
      ∀ others : RuleSet, others.Attributable → rule ∈ others.rules → ∀ later : Clock,
        ∃ result, Evaluator.evaluate ⟨none⟩ u others later = .ok result ∧
          result.findings.filter (·.concerns rule.ruleId) =
            together.findings.filter (·.concerns rule.ruleId) := by
  have htogether := @SourceUnit.filter_concerns_evaluate u rules rule hrules hrule
  have halone := @SourceUnit.filter_concerns_evaluate u _ rule (hrules.single hrule)
    (List.mem_singleton.mpr rfl)
  refine ⟨u.evaluation rules, u.evaluation _, evaluate_unbounded u rules clock,
    evaluate_unbounded u _ clock, htogether.trans halone.symm, ?_⟩
  intro others hothers hmem later
  have hother := @SourceUnit.filter_concerns_evaluate u others rule hothers hmem
  exact ⟨u.evaluation others, evaluate_unbounded u others later, hother.trans htogether.symm⟩

/-- A rule that reports every type and then fails. -/
def failingReporter : RuleDefinition := PlainRule.definition
  { ruleId := "s"
    description := ""
    category := .size
    appliesTo := Predicate.kindIn [.type]
    check := CheckStep.toCheck [.report "n" [], .fail (.absent "path")] }

/-- The rule that reports types, beside the one that fails. -/
def reporterSet : RuleSet where
  rules := [⟨typeReporter, typeReporter.defaults⟩, ⟨failingReporter, failingReporter.defaults⟩]
  nodup := by decide
  enabled := by decide

theorem reporterSet_attributable : reporterSet.Attributable where
  usesContext := by
    intro rule hrule element ctx f hf
    rcases List.mem_cons.mp hrule with rfl | hrule
    · exact ⟨element, CheckStep.makes_of_mem_run hf⟩
    · rw [List.mem_singleton.mp hrule] at hf
      exact ⟨element, CheckStep.makes_of_mem_run hf⟩
  ruleFault := by decide
  incomplete := by decide

theorem Evaluator.rules_independent_sample :
    reporterSet.Attributable ∧
      ∃ together, Evaluator.evaluate ⟨none⟩ firstUnit reporterSet (fun _ => .whole 0) =
          .ok together ∧
        (together.findings.filter (·.concerns "s")).map (·.ruleId) = [ruleFault] := by
  have hmem : ⟨failingReporter, failingReporter.defaults⟩ ∈ reporterSet.rules :=
    List.mem_cons_of_mem _ List.mem_cons_self
  obtain ⟨together, alone, htogether, halone, hsame, -⟩ :=
    Evaluator.rules_independent firstUnit reporterSet_attributable hmem fun _ => .whole 0
  have hone : firstUnit.unsortedFindings (.single _ (reporterSet.enabled _ hmem)) =
      [(Site.type bareType).faultNote firstUnit.path
        ⟨failingReporter, failingReporter.defaults⟩ (.absent "path")] := rfl
  refine ⟨reporterSet_attributable, together, htogether, ?_⟩
  have hfound : alone.findings =
      firstUnit.unsortedFindings (.single _ (reporterSet.enabled _ hmem)) := by
    rw [← Except.ok.inj halone]
    show (firstUnit.evaluate _).findings = _
    rw [SourceUnit.findings_evaluate, hone, sortFindings_singleton]
  show (together.findings.filter (·.concerns failingReporter.ruleId)).map (·.ruleId) = _
  rw [show together.findings.filter (·.concerns failingReporter.ruleId) = _ from hsame, hfound,
    hone]
  decide

/-! ## 3. What does not concern a rule -/

/-- The rule under another configuration, if it is the one that is meant. -/
def ConfiguredRule.reconfigured (id : String) (config : RuleConfig) (rule : ConfiguredRule) :
    ConfiguredRule :=
  if rule.ruleId = id then { rule with config := config } else rule

@[simp] theorem ConfiguredRule.definition_reconfigured (id : String) (config : RuleConfig)
    (rule : ConfiguredRule) : (rule.reconfigured id config).definition = rule.definition := by
  unfold reconfigured
  split <;> rfl

@[simp] theorem ConfiguredRule.ruleId_reconfigured (id : String) (config : RuleConfig)
    (rule : ConfiguredRule) : (rule.reconfigured id config).ruleId = rule.ruleId := by
  unfold ruleId
  rw [definition_reconfigured]

namespace Site

variable {u : SourceUnit} {site : Site} {id : String} {config : RuleConfig}
  {rules : List ConfiguredRule}

/-- Predicates do not see the configuration, so the same rules apply. -/
theorem applies_reconfigured (rule : ConfiguredRule) :
    site.applies (rule.reconfigured id config) = site.applies rule := by
  unfold applies
  rw [ConfiguredRule.definition_reconfigured]

theorem predicateFault?_reconfigured (rule : ConfiguredRule) :
    site.predicateFault? u.path (rule.reconfigured id config) =
      site.predicateFault? u.path rule := by
  unfold predicateFault? faultNote failureNote
  rw [ConfiguredRule.definition_reconfigured, ConfiguredRule.ruleId_reconfigured]

/-- Predicates do not see the configuration, so the same rules are chosen for the checks. -/
theorem filter_applies_reconfigured :
    (rules.map (·.reconfigured id config)).filter site.applies =
      (rules.filter site.applies).map (·.reconfigured id config) := by
  rw [List.filter_map]
  congr 2
  funext rule
  exact applies_reconfigured rule

/-- The remark on skipped checks names rules and no configurations. -/
theorem incompleteNote_reconfigured :
    site.incompleteNote u.path (rules.map (·.reconfigured id config)) =
      site.incompleteNote u.path rules := by
  have hids : (rules.map (·.reconfigured id config)).map (·.ruleId) = rules.map (·.ruleId) := by
    rw [List.map_map]
    exact List.map_congr_left fun rule _ => ConfiguredRule.ruleId_reconfigured id config rule
  unfold incompleteNote
  rw [hids]

/-- The check of the rule that is meant leaves nothing once what concerns it is taken away, and the
check of another rule is the same. -/
theorem filter_others_checkFindings {rule : ConfiguredRule}
    (huses : rule.ruleId = id → rule.definition.UsesContext) :
    (site.checkFindings u (rule.reconfigured id config)).filter (!·.concerns id) =
      (site.checkFindings u rule).filter (!·.concerns id) := by
  by_cases hid : rule.ruleId = id
  · have hnone : ∀ r : ConfiguredRule, r.definition = rule.definition →
        (site.checkFindings u r).filter (!·.concerns id) = [] := by
      intro r hr
      rw [List.filter_eq_nil_iff]
      intro f hf
      have hconcerns := concerns_of_mem_checkFindings (hr ▸ huses hid) hf
      have hrid : r.ruleId = id := by
        rw [← hid]
        exact congrArg RuleDefinition.ruleId hr
      rw [hrid] at hconcerns
      simp [hconcerns]
    rw [hnone _ (ConfiguredRule.definition_reconfigured id config rule), hnone rule rfl]
  · unfold ConfiguredRule.reconfigured
    rw [if_neg hid]

/-- **One site.** Another configuration of one rule changes nothing that does not concern it. -/
theorem filter_others_visit
    (huses : ∀ rule ∈ rules, rule.ruleId = id → rule.definition.UsesContext) :
    (site.visit u (rules.map (·.reconfigured id config))).findings.filter (!·.concerns id) =
      (site.visit u rules).findings.filter (!·.concerns id) := by
  have hpredicates : (rules.map (·.reconfigured id config)).filterMap
      (site.predicateFault? u.path) = rules.filterMap (site.predicateFault? u.path) := by
    rw [List.filterMap_map]
    exact List.filterMap_congr fun rule _ => predicateFault?_reconfigured rule
  have hchecks : (((rules.filter site.applies).map (·.reconfigured id config)).flatMap
      (site.checkFindings u)).filter (!·.concerns id) =
        ((rules.filter site.applies).flatMap (site.checkFindings u)).filter (!·.concerns id) := by
    rw [List.flatMap_map, List.filter_flatMap, List.filter_flatMap]
    refine List.flatMap_congr fun rule hrule => ?_
    exact filter_others_checkFindings (huses rule (List.mem_filter.mp hrule).1)
  rw [findings_visit, findings_visit, hpredicates, filter_applies_reconfigured, List.filter_append,
    List.filter_append]
  -- the note about missing data names the rules, which reconfiguring does not change
  congr 1
  by_cases hidle : rules.filter site.applies = []
  · rw [if_pos hidle, hidle, List.map_nil, if_pos rfl]
  · rw [if_neg hidle, if_neg (by simpa using hidle)]
    by_cases hmissing : site.element.missing = []
    · rw [if_pos hmissing, if_pos hmissing, hchecks]
    · rw [if_neg hmissing, if_neg hmissing, incompleteNote_reconfigured]

end Site

section Evaluations

variable {rules changed : RuleSet} {id : String} {config : RuleConfig}

/-- **One unit.** The same for all sites together: sorting does not look at who made a finding. -/
theorem SourceUnit.filter_others_evaluate (u : SourceUnit)
    (hchanged : changed.rules = rules.rules.map (·.reconfigured id config))
    (huses : ∀ rule ∈ rules.rules, rule.ruleId = id → rule.definition.UsesContext) :
    (u.evaluate changed).findings.filter (!·.concerns id) =
      (u.evaluate rules).findings.filter (!·.concerns id) := by
  rw [findings_evaluate, findings_evaluate, filter_sortFindings, filter_sortFindings]
  congr 1
  unfold unsortedFindings
  by_cases hnone : rules.rules = []
  · rw [if_pos hnone, if_pos (by rw [hchanged, hnone, List.map_nil])]
  · rw [if_neg hnone, if_neg (by rw [hchanged]; simpa using hnone)]
    by_cases hlayer : u.layer = none
    · rw [if_pos hlayer, if_pos hlayer]
    · rw [if_neg hlayer, if_neg hlayer]
      unfold visitFindings
      rw [hchanged, List.filter_flatMap, List.filter_flatMap]
      exact List.flatMap_congr fun site _ => Site.filter_others_visit huses

/-- What is left of an evaluation without the findings that concern a rule, and how many readings
of the clock it took. -/
def Evaluation.others (id : String) (result : Evaluation) : List Finding × Nat :=
  (result.findings.filter (!·.concerns id), result.readings)

/-- **One evaluation.** With a time budget, an evaluation stops at the same site, if at all. -/
theorem Evaluator.map_others_evaluate (e : Evaluator) (u : SourceUnit) (clock : Clock)
    (hchanged : changed.rules = rules.rules.map (·.reconfigured id config))
    (huses : ∀ rule ∈ rules.rules, rule.ruleId = id → rule.definition.UsesContext) :
    (e.evaluate u changed clock).map (·.others id) =
      (e.evaluate u rules clock).map (·.others id) := by
  have hothers := u.filter_others_evaluate hchanged huses
  have hempty : changed.rules.isEmpty = rules.rules.isEmpty := by
    rw [hchanged, List.isEmpty_map]
  -- the findings differ in what concerns the rule at most, and the readings do not
  have hsame : ∀ readings : Nat,
      Evaluation.others id { u.evaluate changed with readings := readings } =
        Evaluation.others id { u.evaluate rules with readings := readings } := by
    intro readings
    exact Prod.ext hothers rfl
  unfold Evaluator.evaluate
  cases e.budget with
  | none => exact congrArg Except.ok (hsame 0)
  | some budget =>
    dsimp only
    unfold SourceUnit.evaluateWithin
    rw [hempty]
    by_cases hnone : rules.rules.isEmpty = true
    · rw [if_pos hnone, if_pos hnone]
      exact congrArg Except.ok (hsame 0)
    · rw [if_neg hnone, if_neg hnone]
      cases (clock 0).add? budget with
      | none => rfl
      | some deadline =>
        dsimp only
        by_cases hmissing : (!u.missing.isEmpty) = true
        · rw [if_pos hmissing, if_pos hmissing]
          exact congrArg Except.ok (hsame 1)
        · rw [if_neg hmissing, if_neg hmissing]
          cases u.lateSite? deadline clock with
          | none => exact congrArg Except.ok (hsame _)
          | some i => cases Timeout.make u.path budget <;> rfl

end Evaluations

namespace Registry

/-- Binding one configuration reconfigures one rule and moves none, so the order of the findings at
a site is kept. -/
theorem Sound.rules_insert {r : Registry} (hr : r.Sound) (id : String) (config : RuleConfig) :
    rules { r with configs := r.configs.insert id config } =
      r.rules.map (·.reconfigured id config) := by
  unfold rules
  rw [List.map_filterMap]
  refine List.filterMap_congr fun e he => ?_
  obtain ⟨c, hc⟩ := hr.get?_of_entry he
  have hid : ConfiguredRule.ruleId ⟨e.2, c⟩ = e.1 := (hr.ownIds e he).symm
  dsimp only
  rw [Table.get?_insert, hc, Option.map_some, Option.map_some]
  unfold ConfiguredRule.reconfigured
  rw [hid]
  by_cases heq : e.1 = id
  · rw [if_pos heq, if_pos heq, Option.map_some]
  · rw [if_neg heq, if_neg heq, Option.map_some]

/-- If the rule stays enabled or stays disabled, the enabled rules are the same. -/
theorem Sound.filter_enabled_reconfigured {r : Registry} (hr : r.Sound) {id : String}
    {config : RuleConfig}
    (henabled : some config.enabled = (r.configs.get? id).map (·.enabled)) :
    (r.rules.map (·.reconfigured id config)).filter (·.config.enabled) =
      (r.rules.filter (·.config.enabled)).map (·.reconfigured id config) := by
  rw [List.filter_map]
  congr 1
  refine List.filter_congr fun rule hrule => ?_
  show (rule.reconfigured id config).config.enabled = rule.config.enabled
  unfold ConfiguredRule.reconfigured
  by_cases hid : rule.ruleId = id
  · rw [← hid, hr.config_of_mem hrule, Option.map_some, Option.some.injEq] at henabled
    rw [if_pos hid]
    exact henabled
  · rw [if_neg hid]

/-- **Reconfiguring one rule is isolated.** Take any registry that calls can lead to and configure
one of its rules, one that makes its findings through its context, in any way that leaves it
enabled or leaves it disabled. Then the evaluations of any unit before and after differ only in the
findings that the rule made and in the remarks that it failed. Everything else is the same and in
the same order: the findings of the other rules, the remarks on data that was left out, and the
remarks that other rules failed.

Without a time budget both evaluations come to their ends. With one, and the same readings of the
clock, they take the same number of readings and stop at the same site, if at all. -/
theorem reconfiguration_isolated {before after : Registry} (hbefore : before.Reachable)
    {id : String} {options : List (String × Value)} {strict : Bool} {notes : List Diagnostic}
    (hconfigure : before.configure id (.table options) strict = .ok (after, notes))
    (huses : ∀ d, before.definitions.get? id = some d → d.UsesContext)
    (henabled : (after.configs.get? id).map (·.enabled) =
      (before.configs.get? id).map (·.enabled)) :
    ∃ rules changed, before.snapshot = .ok rules ∧ after.snapshot = .ok changed ∧
      ∀ (u : SourceUnit) (clock : Clock),
        (∃ first second, Evaluator.evaluate ⟨none⟩ u rules clock = .ok first ∧
          Evaluator.evaluate ⟨none⟩ u changed clock = .ok second ∧
          first.findings.filter (!·.concerns id) = second.findings.filter (!·.concerns id)) ∧
        ∀ budget, (Evaluator.evaluate ⟨some budget⟩ u rules clock).map (·.others id) =
          (Evaluator.evaluate ⟨some budget⟩ u changed clock).map (·.others id) := by
  have hsound := hbefore.sound
  have hsoundAfter : after.Sound := (hsound.configureMany hconfigure).1
  rw [configure_table] at hconfigure
  obtain ⟨own, -, hpure⟩ := bind_ok_iff.mp hconfigure
  have hafter : { before with configs := before.configs.insert id own.1 } = after :=
    (Prod.mk.inj (Except.ok.inj hpure)).1
  have hstays : some own.1.enabled = (before.configs.get? id).map (·.enabled) := by
    rw [← henabled, ← hafter]
    show _ = ((before.configs.insert id own.1).get? id).map _
    rw [Table.get?_insert, if_pos rfl, Option.map_some]
  obtain ⟨rules, hrules, hlist⟩ := hsound.snapshot
  obtain ⟨changed, hchanged, hlistChanged⟩ := hsoundAfter.snapshot
  have hreconfigured : changed.rules = rules.rules.map (·.reconfigured id own.1) := by
    rw [hlistChanged, ← hafter, hsound.rules_insert, hsound.filter_enabled_reconfigured hstays,
      hlist]
  have husesRule : ∀ rule ∈ rules.rules, rule.ruleId = id → rule.definition.UsesContext := by
    intro rule hrule hid
    rw [hlist] at hrule
    have hdefinition := hsound.definition_of_mem (List.mem_filter.mp hrule).1
    exact huses rule.definition (hid ▸ hdefinition)
  refine ⟨rules, changed, hrules, hchanged, fun u clock => ⟨?_, fun budget => ?_⟩⟩
  · exact ⟨u.evaluation rules, u.evaluation changed, rfl, rfl,
      (u.filter_others_evaluate hreconfigured husesRule).symm⟩
  · exact (Evaluator.map_others_evaluate ⟨some budget⟩ u clock hreconfigured husesRule).symm

/-- The registry of the two reporters. -/
def reporters : Registry where
  definitions := .ofList [("r", typeReporter), ("s", failingReporter)]
  configs := .ofList [("r", typeReporter.defaults), ("s", failingReporter.defaults)]

/-- The same registry, with the first rule made an error. -/
def stricterReporters : Registry :=
  { reporters with
    configs := .ofList [("r", { typeReporter.defaults with severity := .error }),
      ("s", failingReporter.defaults)] }

theorem reconfiguration_isolated_sample :
    reporters.configure "r" (.table [("severity", .severity .error)]) true =
        .ok (stricterReporters, []) ∧
      ∃ rules changed, reporters.snapshot = .ok rules ∧ stricterReporters.snapshot = .ok changed ∧
        ∀ budget, (Evaluator.evaluate ⟨some budget⟩ firstUnit rules fun _ => .whole 0).map
            (·.others "r") =
          (Evaluator.evaluate ⟨some budget⟩ firstUnit changed fun _ => .whole 0).map
            (·.others "r") := by
  have hreachable : reporters.Reachable :=
    ⟨[typeReporter, failingReporter], reporters, [], rfl, rfl⟩
  have hconfigure : reporters.configure "r" (.table [("severity", .severity .error)]) true =
      .ok (stricterReporters, []) := rfl
  have huses : ∀ d, reporters.definitions.get? "r" = some d → d.UsesContext := by
    intro d hd element ctx f hf
    rw [← Option.some.inj (show some typeReporter = some d from hd)] at hf
    exact ⟨element, CheckStep.makes_of_mem_run hf⟩
  obtain ⟨rules, changed, hrules, hchanged, hsame⟩ :=
    reconfiguration_isolated hreachable hconfigure huses (by decide)
  exact ⟨hconfigure, rules, changed, hrules, hchanged, (hsame firstUnit fun _ => .whole 0).2⟩

end Registry

end Conformance
