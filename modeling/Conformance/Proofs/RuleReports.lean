import Conformance.Proofs.BuiltinSafety
import Conformance.Proofs.Independence
import Conformance.Proofs.Locality

/-!
# What one built-in rule finds

The findings of an evaluation carry the identifiers of the rules that made them. This file says what
is left of them if one built-in rule is selected: what its check found at the sites that it applies
to, sorted, and nothing else. No other rule signs with its identifier, and the remarks of the
evaluation itself have identifiers of their own; nor is anything of the rule lost, since a built-in
rule does not fail.

The registry may have come about in any way from the built-in rules. Other rules may be registered
beside them, as long as these sign their findings with their own identifiers, and configuring and
resetting change no definition. So the question what a built-in rule finds is one about its check
and its current configuration (`Registry.reports_of_builtin`).
-/

set_option autoImplicit false

namespace Conformance

/-! ## 1. One rule among others -/

namespace Site

/-- What the check of a rule finds at a site. It is not called if the rule does not apply or the
element is incomplete. -/
def reports (u : SourceUnit) (rule : ConfiguredRule) (site : Site) : List Finding :=
  if site.applies rule = true ∧ site.element.missing = [] then (site.checkRun u rule).findings
  else []

variable {u : SourceUnit} {site : Site} {rule : ConfiguredRule} {rules : List ConfiguredRule}
  {id : String}

theorem reports_eq_nil (h : rule.definition.appliesTo site.element = .ok false) :
    site.reports u rule = [] := by
  unfold reports applies
  rw [h, if_neg fun hboth => Bool.false_ne_true hboth.1]

/-- A rule reports nothing where something is missing, since its check is not called there. -/
theorem reports_of_incomplete (h : site.element.missing ≠ []) : site.reports u rule = [] := by
  unfold reports
  rw [if_neg fun hboth => h hboth.2]

theorem reports_eq_of_result {found : List Finding}
    (happlies : rule.definition.appliesTo site.element = .ok true)
    (hcomplete : site.element.missing = [])
    (hrun : site.checkRun u rule = .ofExcept (.ok found)) : site.reports u rule = found := by
  unfold reports
  rw [if_pos ⟨applies_iff.mpr happlies, hcomplete⟩, hrun]
  rfl

/-- What a local rule reports stands at the site, so findings at different places come from
different sites. -/
theorem location_of_mem_reports (hrule : rule.definition.Local) {f : Finding}
    (hf : f ∈ site.reports u rule) : f.location = site.location u.path := by
  unfold reports at hf
  split at hf
  · have hmakes : (site.context u rule).Makes site.element f := hrule.check.reports hf
    exact hmakes.location rfl rfl
  · exact absurd hf List.not_mem_nil

/-- Another rule does not sign with this identifier, and a remark that it failed does not either. -/
theorem filter_checkFindings_of_ne (huses : rule.definition.UsesContext) (hne : rule.ruleId ≠ id)
    (hfault : id ≠ ruleFault) : (site.checkFindings u rule).filter (·.ruleId = id) = [] := by
  rw [List.filter_eq_nil_iff]
  intro f hf hid
  have hsame : f.ruleId = id := of_decide_eq_true hid
  rcases found_or_failed hf with hmade | ⟨e, rfl⟩
  · obtain ⟨target, hmakes⟩ := huses site.element (site.context u rule) f hmade
    exact hne (hmakes.signs.ruleId.symm.trans hsame)
  · exact hfault hsame.symm

/-- A rule that does not fail signs all that it contributes. -/
theorem filter_checkFindings_own (hsafe : rule.Safe)
    (happlies : rule.definition.appliesTo site.element = .ok true)
    (hcomplete : site.element.missing = []) :
    (site.checkFindings u rule).filter (·.ruleId = rule.ruleId) =
      (site.checkRun u rule).findings := by
  have hclean : (site.checkRun u rule).Clean _ _ := clean_checkRun hsafe happlies hcomplete
  have hfound : site.checkFindings u rule = (site.checkRun u rule).findings := by
    unfold checkFindings CheckRun.result
    rw [hclean.failure]
  rw [hfound, List.filter_eq_self]
  intro f hf
  exact decide_eq_true (hclean.makes f hf).signs.ruleId

/-- **One site.** What a rule that does not fail has signed there is what its check finds. -/
theorem filter_ruleId_visit (hnodup : (rules.map (·.ruleId)).Nodup)
    (huses : ∀ r ∈ rules, r.definition.UsesContext) (hrule : rule ∈ rules) (hsafe : rule.Safe)
    (hfault : rule.ruleId ≠ ruleFault) (hincomplete : rule.ruleId ≠ incompleteModelData) :
    (site.visit u rules).findings.filter (·.ruleId = rule.ruleId) = site.reports u rule := by
  have hfaults : (rules.filterMap (site.predicateFault? u.path)).filter
      (·.ruleId = rule.ruleId) = [] := by
    rw [List.filter_eq_nil_iff]
    intro f hf hid
    obtain ⟨r, -, e, rfl⟩ := exists_of_mem_predicateFaults hf
    exact hfault (of_decide_eq_true hid).symm
  rw [findings_visit, List.filter_append, hfaults, List.nil_append]
  unfold reports
  by_cases hcomplete : site.element.missing = []
  · -- rules are told apart by their identifiers, so the others leave nothing behind
    have hchecks : ((rules.filter site.applies).flatMap (site.checkFindings u)).filter
        (·.ruleId = rule.ruleId) =
          if site.applies rule = true then (site.checkRun u rule).findings else [] := by
      rw [flatMap_filter_eq, List.filter_flatMap,
        flatMap_eq_of_unique (List.Nodup.of_map _ hnodup) hrule]
      · split
        · rename_i happlies
          exact filter_checkFindings_own hsafe (applies_iff.mp happlies) hcomplete
        · rfl
      · intro other hother hne
        have hid : other.ruleId ≠ rule.ruleId := fun hsame =>
          hne (List.inj_on_of_nodup_map hnodup hother hrule hsame)
        split
        · exact filter_checkFindings_of_ne (huses other hother) hid hfault
        · rfl
    simp only [hcomplete, and_true, if_true]
    rw [← hchecks]
    split
    · rename_i hidle
      rw [hidle, List.flatMap_nil]
    · rfl
  · have hskipped : ¬ (site.incompleteNote u.path (rules.filter site.applies)).ruleId =
        rule.ruleId := fun hsame => hincomplete hsame.symm
    simp only [hcomplete, and_false, if_false]
    split
    · rfl
    · rw [List.filter_cons_of_neg (by simpa using hskipped), List.filter_nil]

end Site

namespace SourceUnit

variable {u : SourceUnit} {rules : RuleSet} {rule : ConfiguredRule}

/-- **One unit.** What a rule has signed in an evaluation is what its check finds at the sites. -/
theorem filter_ruleId_evaluate (huses : rules.UsesContext) (hrule : rule ∈ rules.rules)
    (hsafe : rule.Safe) (hfault : rule.ruleId ≠ ruleFault)
    (hincomplete : rule.ruleId ≠ incompleteModelData) :
    (u.evaluate rules).findings.filter (·.ruleId = rule.ruleId) =
      if u.layer = none then [] else sortFindings (u.sites.flatMap (Site.reports u rule)) := by
  have hsome : rules.rules ≠ [] := List.ne_nil_of_mem hrule
  rw [findings_evaluate, filter_sortFindings]
  unfold unsortedFindings
  rw [if_neg hsome]
  by_cases hlayer : u.layer = none
  · have hskipped : ¬ u.missingNote.ruleId = rule.ruleId := fun hsame => hincomplete hsame.symm
    rw [if_pos hlayer, if_pos hlayer, List.filter_cons_of_neg (by simpa using hskipped),
      List.filter_nil, sortFindings_nil]
  · rw [if_neg hlayer, if_neg hlayer]
    unfold visitFindings
    rw [List.filter_flatMap]
    simp only [Site.filter_ruleId_visit rules.nodup huses hrule hsafe hfault hincomplete]

/-- An identifier that is none of the rules and none of the evaluation's own is on no finding. -/
theorem filter_ruleId_eq_nil {id : String} (huses : rules.UsesContext)
    (habsent : ∀ rule ∈ rules.rules, rule.ruleId ≠ id) (hfault : id ≠ ruleFault)
    (hincomplete : id ≠ incompleteModelData) :
    (u.evaluate rules).findings.filter (·.ruleId = id) = [] := by
  rw [List.filter_eq_nil_iff]
  intro f hf hid
  have hsame : f.ruleId = id := of_decide_eq_true hid
  rw [findings_evaluate, (sortFindings_perm _).mem_iff] at hf
  rcases missing_or_visited hf with rfl | ⟨site, -, hvisit⟩
  · exact hincomplete hsame.symm
  · rcases Site.noted_or_checked hvisit with
      ⟨noted, message, payload, hremark, rfl⟩ | ⟨rule, hrule, hmade⟩
    · rcases hremark with rfl | rfl
      · exact hincomplete hsame.symm
      · exact hfault hsame.symm
    · obtain ⟨target, hmakes⟩ := huses rule hrule site.element (site.context u rule) f hmade
      exact habsent rule hrule (hmakes.signs.ruleId.symm.trans hsame)

end SourceUnit

/-! ## 2. Registries that come from the built-in rules -/

/-- If the call registers a rule, it is one that makes its findings through its context. -/
def RegistryCall.UsesContext : RegistryCall → Prop
  | .register _ d => d.UsesContext
  | _ => True

/-- A call that registers nothing registers no rule that makes its findings by itself. -/
theorem RegistryCall.Configures.usesContext {c : RegistryCall} (h : c.Configures) :
    c.UsesContext := by
  cases c with
  | register ruleId d => exact absurd h id
  | _ => trivial

theorem RuleDefinition.Local.usesContext {d : RuleDefinition} (h : d.Local) : d.UsesContext :=
  fun element _ _ hf => ⟨element, h.check.reports hf⟩

namespace Registry

variable {calls : List RegistryCall}

/-- What is registered in a history was in one of its calls. -/
theorem mem_registrations {r : Registry} {d : RuleDefinition} (h : d ∈ r.registrations calls) :
    ∃ id, .register id d ∈ calls := by
  induction calls generalizing r with
  | nil => exact absurd h List.not_mem_nil
  | cons c rest ih =>
    rcases List.mem_append.mp h with hnow | hlater
    · unfold registered at hnow
      split at hnow
      · rw [List.mem_singleton.mp hnow]
        exact ⟨_, List.mem_cons_self⟩
      · exact absurd hnow List.not_mem_nil
    · obtain ⟨id, hmem⟩ := ih hlater
      exact ⟨id, List.mem_cons_of_mem _ hmem⟩

/-- Whatever calls are made, the built-in rules are there, followed by what was registered. -/
theorem entries_afterAll_builtin (calls : List RegistryCall) :
    (builtin.afterAll calls).Sound ∧ (builtin.afterAll calls).definitions.entries =
      (builtinRules ++ builtin.registrations calls).map fun d => (d.ruleId, d) := by
  obtain ⟨hsoundStart, hentriesStart⟩ := sound_empty.registerAll ofDefinitions_builtinRules
  obtain ⟨hsound, hentries⟩ := hsoundStart.afterAll calls
  refine ⟨hsound, ?_⟩
  rw [hentries, hentriesStart, List.map_append]
  rfl

/-- A rule is a built-in one, or was registered later. -/
theorem builtin_or_registered {ruleId : String} {d : RuleDefinition}
    (hd : (builtin.afterAll calls).definitions.get? ruleId = some d) :
    d.ruleId = ruleId ∧ (d ∈ builtinRules ∨ d ∈ builtin.registrations calls) := by
  have hmem := Table.mem_of_get? hd
  rw [(entries_afterAll_builtin calls).2] at hmem
  obtain ⟨found, hfound, heq⟩ := List.mem_map.mp hmem
  obtain ⟨hruleId, rfl⟩ := Prod.mk.inj heq
  exact ⟨hruleId, List.mem_append.mp hfound⟩

/-- A rule of the registry is built in or was registered. -/
theorem builtin_or_registered_of_mem_rules {rule : ConfiguredRule}
    (hrule : rule ∈ (builtin.afterAll calls).rules) :
    rule.definition ∈ builtinRules ∨ rule.definition ∈ builtin.registrations calls := by
  obtain ⟨entry, hentry, hconfigured⟩ := List.mem_filterMap.mp hrule
  obtain ⟨config, -, rfl⟩ := Option.map_eq_some_iff.mp hconfigured
  exact (builtin_or_registered (Table.get?_of_mem hentry)).2

/-- So all rules use their contexts if those that were registered do. -/
theorem usesContext_of_mem_rules (hcalls : ∀ c ∈ calls, c.UsesContext) {rule : ConfiguredRule}
    (hrule : rule ∈ (builtin.afterAll calls).rules) : rule.definition.UsesContext := by
  rcases builtin_or_registered_of_mem_rules hrule with hbuiltin | hregistered
  · exact (Builtin.local_of_mem_builtinRules hbuiltin).usesContext
  · obtain ⟨id, hcall⟩ := mem_registrations hregistered
    exact hcalls _ hcall

/-- A built-in rule stays in the registry, under its current configuration. -/
theorem builtin_mem_rules (calls : List RegistryCall) {d : RuleDefinition} (hd : d ∈ builtinRules) :
    ∃ config, (builtin.afterAll calls).config d.ruleId = .ok config ∧
      ⟨d, config⟩ ∈ (builtin.afterAll calls).rules := by
  obtain ⟨hsound, hentries⟩ := entries_afterAll_builtin calls
  have hentry : (d.ruleId, d) ∈ (builtin.afterAll calls).definitions.entries := by
    rw [hentries]
    exact List.mem_map.mpr ⟨d, List.mem_append_left _ hd, rfl⟩
  obtain ⟨config, hconfig⟩ := hsound.get?_of_entry hentry
  refine ⟨config, ?_, List.mem_filterMap.mpr ⟨(d.ruleId, d), hentry, ?_⟩⟩
  · unfold Registry.config
    rw [hconfig]
  · rw [hconfig, Option.map_some]

/-- **What a built-in rule finds.** In the findings of an evaluation, select those of a built-in
rule. If the rule is enabled and the unit has a layer, they are what its check finds under its
current configuration, sorted. Otherwise there are none. -/
theorem reports_of_builtin (hcalls : ∀ c ∈ calls, c.UsesContext) :
    ∃ rules, (builtin.afterAll calls).snapshot = .ok rules ∧
      ∀ d ∈ builtinRules, ∃ config, (builtin.afterAll calls).config d.ruleId = .ok config ∧
        config.Fits d ∧ ∀ u : SourceUnit,
          (u.evaluate rules).findings.filter (·.ruleId = d.ruleId) =
            if config.enabled = true ∧ u.layer ≠ none then
              sortFindings (u.sites.flatMap (Site.reports u ⟨d, config⟩)) else [] := by
  have hsound := (entries_afterAll_builtin calls).1
  obtain ⟨rules, hsnapshot, hrules⟩ := hsound.snapshot
  have huses : rules.UsesContext := by
    intro rule hrule
    rw [hrules] at hrule
    exact usesContext_of_mem_rules hcalls (List.mem_filter.mp hrule).1
  have hfault : ∀ d ∈ builtinRules, d.ruleId ≠ ruleFault := by decide
  have hincomplete : ∀ d ∈ builtinRules, d.ruleId ≠ incompleteModelData := by decide
  refine ⟨rules, hsnapshot, fun d hd => ?_⟩
  obtain ⟨config, hconfig, hmem⟩ := builtin_mem_rules calls hd
  have hfits : config.Fits d := hsound.fits_of_mem hmem
  refine ⟨config, hconfig, hfits, fun u => ?_⟩
  by_cases henabled : config.enabled = true
  · have hactive : ⟨d, config⟩ ∈ rules.rules := by
      rw [hrules]
      exact List.mem_filter.mpr ⟨hmem, henabled⟩
    have hselected := @SourceUnit.filter_ruleId_evaluate u rules ⟨d, config⟩ huses hactive
      ⟨Builtin.safe_of_mem_builtinRules hd, hfits⟩ (hfault d hd) (hincomplete d hd)
    by_cases hlayer : u.layer = none
    · rw [if_neg fun h => h.2 hlayer]
      rwa [if_pos hlayer] at hselected
    · rw [if_pos ⟨henabled, hlayer⟩]
      rwa [if_neg hlayer] at hselected
  · -- the only rule of this identifier is disabled, so the snapshot has none
    rw [if_neg fun h => henabled h.1]
    have hids : ((builtin.afterAll calls).rules.map (·.ruleId)).Nodup := by
      rw [hsound.ruleIds_eq]
      exact (builtin.afterAll calls).definitions.nodup
    refine SourceUnit.filter_ruleId_eq_nil huses (fun rule hrule hid => ?_) (hfault d hd)
      (hincomplete d hd)
    rw [hrules] at hrule
    obtain ⟨hrule, henabledRule⟩ := List.mem_filter.mp hrule
    have hsame : rule = ⟨d, config⟩ := List.inj_on_of_nodup_map hids hrule hmem hid
    rw [hsame] at henabledRule
    exact henabled henabledRule

end Registry

end Conformance
