import Conformance.Proofs.RegistryInvariant
import Conformance.Proofs.Walk

/-!
# The built-in rules do not fail

A check can fail in many ways: it reads a part that an element does not have, it looks up a
threshold that its rule does not define, it makes a finding without a message or a location without
a method. None of this happens to a built-in rule in an evaluation, for four reasons that each take
care of some of the failures:

* the predicate of the rule lets only elements through that have the parts the check reads;
* an element that lacks an attribute is noted and not checked;
* the context of a check has the owners of the element (`Context.At`);
* a configuration fits its rule, whatever options were set (`Registry.Sound`).

The first part of this file says what it means that a result goes through, and which calls do. The
second goes through the rules. The last puts them together for every registry that starts from the
built-in rules and is configured in any way.
-/

set_option autoImplicit false

namespace Conformance

/-! ## 1. Results that go through -/

namespace Context

/-- A result that is no failure and whose findings were made through the context, at the element. -/
def Yields (ctx : Context) (element : Element) (made : Except Error (List Finding)) : Prop :=
  ∃ findings, made = .ok findings ∧ ∀ f ∈ findings, ctx.Makes element f

variable {ctx : Context} {site : Site}

theorem yields_nil (ctx : Context) (element : Element) : ctx.Yields element (.ok []) :=
  ⟨[], rfl, fun _ hf => absurd hf List.not_mem_nil⟩

/-- One finding by the plain call. Its message is not empty and its details take no name of the
call, so it is not refused. -/
theorem yields_finding {message : String} {payload : Payload} (hat : ctx.At site)
    (hmessage : message ≠ "") (hfree : NamesFree callNames payload) :
    ctx.Yields site.element (do
      let f ← ctx.finding site.element message payload
      return [f]) := by
  have hmade := finding_eq_ok hat hmessage hfree
  refine ⟨[ctx.signed site message payload], by rw [hmade]; rfl, fun f hf => ?_⟩
  rw [List.mem_singleton.mp hf]
  exact .finding message payload hmade

/-- The measuring call goes through if the threshold is there. -/
theorem exceeds_makes (message : String) (measured : Int) {option : String} {extra : Payload}
    (hat : ctx.At site) (hthreshold : ∃ n, ctx.config.threshold option = .ok n)
    (hfree : NamesFree ("measured" :: "option" :: "threshold" :: callNames) extra) :
    ∃ made, ctx.exceeds site.element message measured option extra = .ok made ∧
      ∀ f ∈ made, ctx.Makes site.element f := by
  obtain ⟨n, hn⟩ := hthreshold
  have hmade := @exceeds_eq_ok ctx site message option measured n extra hat hn hfree
  refine ⟨_, hmade, fun f hf => ?_⟩
  rw [Option.mem_def.mp hf] at hmade
  exact .exceeds message option measured extra hmade

/-- At most one finding by the measuring call, which besides needs the threshold to be there. -/
theorem yields_exceeds {message option : String} {measured : Int} {extra : Payload}
    (hat : ctx.At site) (hthreshold : ∃ n, ctx.config.threshold option = .ok n)
    (hfree : NamesFree ("measured" :: "option" :: "threshold" :: callNames) extra) :
    ctx.Yields site.element
      (Builtin.atMostOne (ctx.exceeds site.element message measured option extra)) := by
  obtain ⟨made, hmade, hmakes⟩ := exceeds_makes message measured hat hthreshold hfree
  refine ⟨made.toList, by rw [hmade]; rfl, fun f hf => hmakes f (Option.mem_toList.mp hf)⟩

end Context

/-- A run of a check that did not fail and made its findings through the context. -/
structure CheckRun.Clean (ctx : Context) (element : Element) (run : CheckRun) : Prop where
  failure : run.failure = none
  makes : ∀ f ∈ run.findings, ctx.Makes element f

/-- A run of a result that is there has no failure, and what it found was made at the element. -/
theorem Context.Yields.clean {ctx : Context} {element : Element}
    {made : Except Error (List Finding)} (h : ctx.Yields element made) :
    (CheckRun.ofExcept made).Clean ctx element := by
  obtain ⟨findings, rfl, hmakes⟩ := h
  exact ⟨rfl, hmakes⟩

/-- A check of the domain layer has nothing to say elsewhere. -/
theorem CheckRun.Clean.inDomain {ctx : Context} {element : Element} {check : Check}
    (h : (check element ctx).Clean ctx element) :
    (Check.inDomain check element ctx).Clean ctx element := by
  unfold Check.inDomain
  by_cases hlayer : ctx.layer = some .domain
  · rw [if_pos hlayer]
    exact h
  · rw [if_neg hlayer]
    exact ⟨rfl, fun _ hf => absurd hf List.not_mem_nil⟩

/-- A threshold of the rule is found in every configuration that fits. -/
theorem RuleConfig.Fits.threshold_eq_ok {c : RuleConfig} {d : RuleDefinition} (h : c.Fits d)
    {name : String} (hname : name ∈ d.defaults.thresholds.keys) :
    ∃ n, c.threshold name = .ok n := by
  rw [← h.thresholds] at hname
  obtain ⟨n, hn⟩ := Table.exists_get?_of_mem_keys hname
  refine ⟨n, ?_⟩
  unfold RuleConfig.threshold
  rw [hn]

/-! ## 2. Rules that do not fail -/

/-- The predicate answers on every element, and says yes only on these kinds. -/
def Predicate.Within (p : Predicate) (kinds : List ElementKind) : Prop :=
  ∀ e, ∃ b, p e = .ok b ∧ (b = true → e.kind ∈ kinds)

/-- A predicate by kinds answers everywhere, and only for its kinds. -/
theorem Predicate.within_kindIn (kinds : List ElementKind) : (kindIn kinds).Within kinds :=
  fun e => ⟨kinds.contains e.kind, rfl, fun h => by simpa using h⟩

theorem Predicate.within_ofStatementKind (kind : StatementKind) :
    (ofStatementKind kind).Within [.statement] := by
  intro e
  cases e with
  | statement s => exact ⟨_, rfl, fun _ => List.mem_singleton.mpr rfl⟩
  | _ => exact ⟨false, rfl, fun h => absurd h (by simp)⟩

theorem Predicate.within_ofTypeKind (kind : TypeKind) : (ofTypeKind kind).Within [.type] := by
  intro e
  cases e with
  | type t => exact ⟨_, rfl, fun _ => List.mem_singleton.mpr rfl⟩
  | _ => exact ⟨false, rfl, fun h => absurd h (by simp)⟩

/-- A check is called on elements of the kinds of its predicate only, so its case for other elements
never comes up in an evaluation. -/
theorem Predicate.Within.kind_mem {p : Predicate} {kinds : List ElementKind} (h : p.Within kinds)
    {e : Element} (he : p e = .ok true) : e.kind ∈ kinds := by
  obtain ⟨b, hb, hkind⟩ := h e
  rw [hb] at he
  exact hkind (Except.ok.inj he)

/-- A rule that does not fail: its predicate always answers, and its check goes through on every
complete element that the rule applies to, in a context for that element and under any
configuration that fits. -/
structure RuleDefinition.Safe (d : RuleDefinition) : Prop where
  answers : ∀ e, ∃ b, d.appliesTo e = .ok b
  clean : ∀ (site : Site) (ctx : Context), ctx.At site → ctx.config.Fits d →
    d.appliesTo site.element = .ok true → site.element.missing = [] →
      (d.check site.element ctx).Clean ctx site.element

namespace RuleDefinition

variable {d : RuleDefinition}

theorem answers_of_within {kinds : List ElementKind} (h : d.appliesTo.Within kinds) (e : Element) :
    ∃ b, d.appliesTo e = .ok b := by
  obtain ⟨b, hb, -⟩ := h e
  exact ⟨b, hb⟩

/-- A rule for types needs to be looked at on types only. -/
theorem safe_of_type (hwithin : d.appliesTo.Within [.type])
    (h : ∀ (t : TypeDeclaration) (ctx : Context), ctx.At (.type t) → ctx.config.Fits d →
      (d.check (.type t) ctx).Clean ctx (.type t)) : d.Safe where
  answers := answers_of_within hwithin
  clean := by
    intro site ctx hat hfits happlies _
    have hkind := hwithin.kind_mem happlies
    cases site with
    | type t => exact h t ctx hat hfits
    | _ => exact absurd hkind (by simp [Site.element, Element.kind])

/-- A rule for methods needs to be looked at on methods only. -/
theorem safe_of_method (hwithin : d.appliesTo.Within [.method])
    (h : ∀ (t : TypeDeclaration) (m : Method) (ctx : Context), ctx.At (.method t m) →
      ctx.config.Fits d → (d.check (.method m) ctx).Clean ctx (.method m)) : d.Safe where
  answers := answers_of_within hwithin
  clean := by
    intro site ctx hat hfits happlies _
    have hkind := hwithin.kind_mem happlies
    cases site with
    | method t m => exact h t m ctx hat hfits
    | _ => exact absurd hkind (by simp [Site.element, Element.kind])

/-- A rule for statements of a kind needs to be looked at on complete statements of it only. -/
theorem safe_of_statement {kind : StatementKind}
    (hpredicate : d.appliesTo = Predicate.ofStatementKind kind)
    (h : ∀ (t : TypeDeclaration) (m : Method) (s : Statement) (ctx : Context),
      ctx.At (.statement t m s) → ctx.config.Fits d → s.kind = kind → s.missing = [] →
        (d.check (.statement s) ctx).Clean ctx (.statement s)) : d.Safe where
  answers := by
    rw [hpredicate]
    intro e
    obtain ⟨b, hb, -⟩ := Predicate.within_ofStatementKind kind e
    exact ⟨b, hb⟩
  clean := by
    intro site ctx hat hfits happlies hcomplete
    rw [hpredicate] at happlies
    have hkind := (Predicate.within_ofStatementKind kind).kind_mem happlies
    cases site with
    | statement t m s =>
      have hsame : s.kind = kind := of_decide_eq_true (Except.ok.inj happlies)
      exact h t m s ctx hat hfits hsame hcomplete
    | _ => exact absurd hkind (by simp [Site.element, Element.kind])

end RuleDefinition

/-! ## 3. The built-in rules, one by one -/

namespace Builtin

open Context RuleDefinition

/-- A rule that measures one thing has a threshold for it, so the measuring call is not refused. The
next three rules are of this form as well. -/
theorem safe_maxIndentationDepth : maxIndentationDepth.Safe :=
  safe_of_method (Predicate.within_kindIn _) fun _ _ _ hat hfits =>
    (yields_exceeds hat (hfits.threshold_eq_ok (by decide)) (by simp [NamesFree, keysOf])).clean

theorem safe_maxMethodSize : maxMethodSize.Safe :=
  safe_of_method (Predicate.within_kindIn _) fun _ _ _ hat hfits =>
    (yields_exceeds hat (hfits.threshold_eq_ok (by decide)) (by simp [NamesFree, keysOf])).clean

theorem safe_maxInstanceVariables : maxInstanceVariables.Safe :=
  safe_of_type (Predicate.within_kindIn _) fun _ _ hat hfits =>
    (yields_exceeds hat (hfits.threshold_eq_ok (by decide)) (by simp [NamesFree, keysOf])).clean

theorem safe_maxInterfaceMethods : maxInterfaceMethods.Safe :=
  safe_of_type (Predicate.within_ofTypeKind _) fun _ _ hat hfits =>
    (yields_exceeds hat (hfits.threshold_eq_ok (by decide)) (by simp [NamesFree, keysOf])).clean

/-- The length of a chain is there: a call without it is incomplete. -/
theorem safe_maxCallChain : maxCallChain.Safe := by
  refine safe_of_statement rfl fun t m s ctx hat hfits hkind hcomplete => ?_
  have hlength : s.callChainLength ≠ none := by
    intro hnone
    unfold Statement.missing at hcomplete
    rw [if_pos ⟨hkind, hnone⟩] at hcomplete
    exact absurd hcomplete (by simp)
  refine Yields.clean ?_
  unfold checkCallChain
  split
  · exact yields_nil _ _
  · cases hlen : s.callChainLength with
    | none => exact absurd hlen hlength
    | some length =>
      have hthreshold := hfits.threshold_eq_ok (show "threshold" ∈ _ by decide)
      -- the site is given, since finding it from its element is slow
      exact @yields_exceeds ctx (.statement t m s) _ _ _ _ hat hthreshold
        (by simp [NamesFree, keysOf])

/-- Of the two measurements the second is made only if the lines were counted. -/
theorem safe_maxClassSize : maxClassSize.Safe := by
  refine safe_of_type (Predicate.within_kindIn _) fun t ctx hat hfits => Yields.clean ?_
  have hmethods := hfits.threshold_eq_ok (show "max_methods" ∈ _ by decide)
  have hlines := hfits.threshold_eq_ok (show "max_lines" ∈ _ by decide)
  unfold checkClassSize
  obtain ⟨first, hfirst, hmakesFirst⟩ :=
    exceeds_makes ("Type '" ++ t.name ++ "' has too many methods") t.methods.length hat hmethods
      (show NamesFree _ [("metric", .text "methods")] by simp [NamesFree, keysOf, callNames])
  cases hspan : t.lineSpan with
  | none =>
    exact ⟨first.toList, bind_ok_iff.mpr ⟨first, hfirst, rfl⟩, fun f hf =>
      hmakesFirst f (Option.mem_toList.mp hf)⟩
  | some span =>
    obtain ⟨second, hsecond, hmakesSecond⟩ :=
      exceeds_makes ("Type '" ++ t.name ++ "' spans too many lines") span hat hlines
        (show NamesFree _ [("metric", .text "lines"), ("profile", Value.ofText? ctx.config.profile)]
          by simp [NamesFree, keysOf, callNames])
    refine ⟨first.toList ++ second.toList,
      bind_ok_iff.mpr ⟨first, hfirst, bind_ok_iff.mpr ⟨second, hsecond, rfl⟩⟩, fun f hf => ?_⟩
    rcases List.mem_append.mp hf with hf | hf
    · exact hmakesFirst f (Option.mem_toList.mp hf)
    · exact hmakesSecond f (Option.mem_toList.mp hf)

/-- There is an else branch to be found where the check looks for one. -/
theorem safe_noElseBranch : noElseBranch.Safe := by
  refine safe_of_statement rfl fun t m s ctx hat _ _ _ => Yields.clean ?_
  unfold checkNoElse
  by_cases helse : s.hasElse = true
  · rw [if_pos helse]
    cases hbranches : s.elseBranches with
    | nil =>
      unfold Statement.hasElse at helse
      exact absurd helse (by simp [hbranches])
    | cons branch rest =>
      exact yields_finding hat (by decide) (by simp [NamesFree, keysOf, callNames])
  · rw [if_neg helse]
    exact yields_nil _ _

theorem safe_noAccessorMethods : noAccessorMethods.Safe := by
  refine safe_of_method (Predicate.within_kindIn _) fun t m ctx hat _ => ?_
  refine CheckRun.Clean.inDomain (Yields.clean ?_)
  unfold checkAccessorMethods
  split
  · exact yields_finding hat (by simp) (by simp [NamesFree, keysOf])
  · exact yields_nil _ _

theorem safe_layeredDependency : layeredDependency.Safe := by
  refine safe_of_type (Predicate.within_kindIn _) fun t ctx hat _ => ?_
  refine CheckRun.Clean.inDomain (Yields.clean ?_)
  unfold checkLayeredDependency
  dsimp only
  split
  · exact yields_nil _ _
  · exact yields_finding hat (by simp) (by simp [NamesFree, keysOf, callNames])

/-- A name can be checked wherever the context is set up for the named element. -/
theorem yields_checkName {site : Site} {ctx : Context} (kind name : String) (hat : ctx.At site)
    (hthreshold : ∃ n, ctx.config.threshold "min_length" = .ok n) :
    ctx.Yields site.element (checkName kind name site.element ctx) := by
  obtain ⟨least, hleast⟩ := hthreshold
  unfold checkName
  rw [hleast]
  show ctx.Yields site.element (if name.length < least then _ else _)
  split
  · exact yields_finding hat (by simp) (by simp [NamesFree, keysOf, callNames])
  · split
    · exact yields_finding hat (by simp) (by simp [NamesFree, keysOf, callNames])
    · exact yields_nil _ _

/-- The predicate leaves out parameters, which is why the check is never without a word for what is
named. -/
theorem safe_noAbbreviation : noAbbreviation.Safe where
  answers := answers_of_within (Predicate.within_kindIn _)
  clean := by
    intro site ctx hat hfits happlies _
    have hkind := (Predicate.within_kindIn _).kind_mem happlies
    have hthreshold := hfits.threshold_eq_ok (show "min_length" ∈ _ by decide)
    -- there is a word for each kind of element that the predicate lets through
    cases site with
    | type t => exact (yields_checkName "Type" t.name hat hthreshold).clean
    | method t m => exact (yields_checkName "Method" m.name hat hthreshold).clean
    | field t f => exact (yields_checkName "Field" f.name hat hthreshold).clean
    | _ => exact absurd hkind (by simp [Site.element, Element.kind])

/-- A field of a collection type makes one finding, and no name of its details is taken. -/
theorem yields_rawCollection {site : Site} {ctx : Context} (name : String)
    (type? : Option TypeReference) (hat : ctx.At site) :
    ctx.Yields site.element (rawCollection site.element name type? ctx) := by
  unfold rawCollection
  split
  · exact yields_nil _ _
  · exact yields_finding hat (by simp) (by simp [NamesFree, keysOf, callNames])

theorem safe_firstClassCollection : firstClassCollection.Safe where
  answers := answers_of_within (Predicate.within_kindIn _)
  clean := by
    intro site ctx hat _ happlies _
    have hkind := (Predicate.within_kindIn _).kind_mem happlies
    refine CheckRun.Clean.inDomain ?_
    cases site with
    | field t f => exact (yields_rawCollection f.name f.type? hat).clean
    | _ => exact absurd hkind (by simp [Site.element, Element.kind])

/-- A field or parameter without a type is incomplete and never gets here, but the check makes
nothing of it in any case. -/
theorem safe_wrapPrimitives : wrapPrimitives.Safe where
  answers := answers_of_within (Predicate.within_kindIn _)
  clean := by
    intro site ctx hat _ happlies _
    have hkind := (Predicate.within_kindIn _).kind_mem happlies
    refine CheckRun.Clean.inDomain ?_
    cases site with
    | field t f =>
      refine Yields.clean ?_
      split
      · exact yields_nil _ _
      · exact yields_finding hat (by simp) (by simp [NamesFree, keysOf, callNames])
    | parameter t m p =>
      refine Yields.clean ?_
      split
      · exact yields_nil _ _
      · exact yields_finding hat (by simp) (by simp [NamesFree, keysOf, callNames])
    | _ => exact absurd hkind (by simp [Site.element, Element.kind])

/-- **All built-in rules are safe**, under every configuration that keeps their thresholds. -/
theorem safe_of_mem_builtinRules {d : RuleDefinition} (h : d ∈ builtinRules) : d.Safe := by
  cases isBuiltin_of_mem h with
  | maxIndentationDepth => exact safe_maxIndentationDepth
  | noElseBranch => exact safe_noElseBranch
  | wrapPrimitives => exact safe_wrapPrimitives
  | firstClassCollection => exact safe_firstClassCollection
  | maxCallChain => exact safe_maxCallChain
  | noAbbreviation => exact safe_noAbbreviation
  | maxClassSize => exact safe_maxClassSize
  | maxInstanceVariables => exact safe_maxInstanceVariables
  | noAccessorMethods => exact safe_noAccessorMethods
  | layeredDependency => exact safe_layeredDependency
  | maxInterfaceMethods => exact safe_maxInterfaceMethods
  | maxMethodSize => exact safe_maxMethodSize

end Builtin

/-! ## 4. Evaluations by rules that do not fail -/

theorem RuleDefinition.ruleId_ne (d : RuleDefinition) : d.ruleId ≠ "" := by
  intro hempty
  have haccepted := d.ruleId_accepted
  rw [hempty] at haccepted
  exact absurd haccepted (by decide)

/-- A rule that does not fail, under a configuration that fits it. -/
structure ConfiguredRule.Safe (rule : ConfiguredRule) : Prop where
  definition : rule.definition.Safe
  config : rule.config.Fits rule.definition

namespace Site

variable {u : SourceUnit} {rules : List ConfiguredRule} {site : Site}

/-- A visit gives every check the owners of its element. -/
theorem context_at (u : SourceUnit) (rule : ConfiguredRule) (site : Site) :
    (site.context u rule).At site :=
  ⟨rfl, rfl, rule.definition.ruleId_ne⟩

/-- **A safe rule runs clean** where it applies and nothing is missing; the evaluation calls it
nowhere else. -/
theorem clean_checkRun {rule : ConfiguredRule} (hrule : rule.Safe)
    (happlies : rule.definition.appliesTo site.element = .ok true)
    (hcomplete : site.element.missing = []) :
    (site.checkRun u rule).Clean (site.context u rule) site.element :=
  hrule.definition.clean site (site.context u rule) (context_at u rule site) hrule.config happlies
    hcomplete

/-- So all it contributes are findings of its own name, and no remark on a failure. -/
theorem ruleId_of_mem_checkFindings {rule : ConfiguredRule} (hrule : rule.Safe)
    (happlies : rule.definition.appliesTo site.element = .ok true)
    (hcomplete : site.element.missing = []) {f : Finding}
    (hf : f ∈ site.checkFindings u rule) : f.ruleId = rule.ruleId := by
  have hclean : (site.checkRun u rule).Clean _ _ := clean_checkRun hrule happlies hcomplete
  unfold checkFindings CheckRun.result at hf
  rw [hclean.failure] at hf
  exact (hclean.makes f hf).signs.ruleId

/-- A visit by rules that do not fail reports only what the rules found and what was left out. -/
theorem ruleId_of_mem_visit (hrules : ∀ rule ∈ rules, rule.Safe) {f : Finding}
    (hf : f ∈ (site.visit u rules).findings) :
    f.ruleId = incompleteModelData ∨ ∃ rule ∈ rules, f.ruleId = rule.ruleId := by
  rw [findings_visit] at hf
  rcases List.mem_append.mp hf with hfault | hrest
  · obtain ⟨rule, hrule, hnoted⟩ := List.mem_filterMap.mp hfault
    obtain ⟨b, hb⟩ := (hrules rule hrule).definition.answers site.element
    rw [predicateFault?_eq_none hb] at hnoted
    exact absurd hnoted (by simp)
  · split at hrest
    · exact absurd hrest List.not_mem_nil
    · split at hrest
      · rename_i hcomplete
        obtain ⟨rule, hmem, hfound⟩ := List.mem_flatMap.mp hrest
        obtain ⟨hrule, happlies⟩ := List.mem_filter.mp hmem
        exact .inr ⟨rule, hrule, ruleId_of_mem_checkFindings (hrules rule hrule)
          (applies_iff.mp happlies) hcomplete hfound⟩
      · left
        rw [List.mem_singleton.mp hrest]
        rfl

end Site

/-- An evaluation by rules that do not fail reports only what the rules found and what was left
out. -/
theorem SourceUnit.ruleId_of_mem_evaluate {u : SourceUnit} {rules : RuleSet}
    (hrules : ∀ rule ∈ rules.rules, rule.Safe) {f : Finding}
    (hf : f ∈ (u.evaluate rules).findings) :
    f.ruleId = incompleteModelData ∨ ∃ rule ∈ rules.rules, f.ruleId = rule.ruleId := by
  rw [findings_evaluate, (sortFindings_perm _).mem_iff] at hf
  rcases missing_or_visited hf with rfl | ⟨site, -, hvisit⟩
  · exact .inl rfl
  · exact Site.ruleId_of_mem_visit hrules hvisit

/-! ## 5. Every configuration of the built-in rules -/

/-- A call that registers nothing. -/
def RegistryCall.Configures : RegistryCall → Prop
  | .register _ _ => False
  | _ => True

namespace Registry

theorem registrations_eq_nil {r : Registry} {calls : List RegistryCall}
    (h : ∀ c ∈ calls, c.Configures) : r.registrations calls = [] := by
  induction calls generalizing r with
  | nil => rfl
  | cons c rest ih =>
    have hc : c.Configures := h c List.mem_cons_self
    have hrest : (r.after c).registrations rest = [] :=
      ih fun other hother => h other (List.mem_cons_of_mem _ hother)
    rw [registrations, hrest, List.append_nil]
    cases c with
    | register ruleId d => exact absurd hc id
    | _ => rfl

/-- However they are configured, the rules of the registry are the built-in ones, in order. -/
theorem definitions_builtin {calls : List RegistryCall} (hcalls : ∀ c ∈ calls, c.Configures) :
    (builtin.afterAll calls).Sound ∧
      (builtin.afterAll calls).definitions.entries = builtinRules.map fun d => (d.ruleId, d) := by
  obtain ⟨hsoundStart, hentriesStart⟩ := sound_empty.registerAll ofDefinitions_builtinRules
  obtain ⟨hsound, hentries⟩ := hsoundStart.afterAll calls
  have hempty : ({} : Registry).definitions.entries = [] := rfl
  refine ⟨hsound, ?_⟩
  rw [hentries, registrations_eq_nil hcalls, List.map_nil, List.append_nil, hentriesStart, hempty,
    List.nil_append]

/-- The active rules of a registry of built-in rules do not fail, under whatever configurations its
history has left. -/
theorem safe_of_mem_rules {calls : List RegistryCall} (hcalls : ∀ c ∈ calls, c.Configures)
    {rule : ConfiguredRule} (hrule : rule ∈ (builtin.afterAll calls).rules) :
    rule.definition ∈ builtinRules ∧ rule.Safe := by
  obtain ⟨hsound, hentries⟩ := definitions_builtin hcalls
  have hmem : (rule.ruleId, rule.definition) ∈ builtinRules.map fun d => (d.ruleId, d) := by
    rw [← hentries, ← hsound.definitions_eq]
    exact List.mem_map.mpr ⟨rule, hrule, rfl⟩
  obtain ⟨d, hd, heq⟩ := List.mem_map.mp hmem
  have hsame : d = rule.definition := congrArg Prod.snd heq
  have hdefinition : rule.definition ∈ builtinRules := hsame ▸ hd
  exact ⟨hdefinition, Builtin.safe_of_mem_builtinRules hdefinition, hsound.fits_of_mem hrule⟩

/-- **The built-in rules never fault.** Take the registry of the built-in rules after any calls that
configure or reset rules, accepted or refused, and any unit. A snapshot and an evaluation without a
time budget succeed, and no finding says that a rule failed. More than that, no rule fails at any
site: every predicate answers, and every check that is made comes to its end, so that none of the
errors that a check or its context can raise is ever raised. -/
theorem builtin_rules_never_fault {start : Registry}
    (hstart : ofDefinitions builtinRules = .ok start) {calls : List RegistryCall}
    (hcalls : ∀ c ∈ calls, c.Configures) (u : SourceUnit) (clock : Clock) :
    ∃ rules result, (start.afterAll calls).snapshot = .ok rules ∧
      Evaluator.evaluate ⟨none⟩ u rules clock = .ok result ∧
      (∀ f ∈ result.findings, f.ruleId ≠ ruleFault) ∧
      ∀ site ∈ u.sites, ∀ rule ∈ rules.rules,
        (∃ b, rule.definition.appliesTo site.element = .ok b) ∧
        (rule.definition.appliesTo site.element = .ok true → site.element.missing = [] →
          (rule.definition.check site.element (site.context u rule)).failure = none) := by
  -- there is only one such start
  obtain rfl : start = builtin := Except.ok.inj (hstart.symm.trans ofDefinitions_builtinRules)
  have hsound : (builtin.afterAll calls).Sound :=
    ((sound_empty.registerAll hstart).1.afterAll calls).1
  obtain ⟨rules, hsnapshot, hrules⟩ := hsound.snapshot
  have hsafe : ∀ rule ∈ rules.rules, rule.definition ∈ builtinRules ∧ rule.Safe := by
    intro rule hrule
    rw [hrules] at hrule
    exact safe_of_mem_rules hcalls (List.mem_filter.mp hrule).1
  refine ⟨rules, { u.evaluate rules with readings := 0 }, hsnapshot, rfl, ?_, ?_⟩
  · intro f hf
    rcases SourceUnit.ruleId_of_mem_evaluate (fun rule hrule => (hsafe rule hrule).2) hf with
      hincomplete | ⟨rule, hrule, hid⟩
    · rw [hincomplete]
      decide
    · -- no built-in rule has taken the identifier of the remarks about failed rules
      have hnone : ∀ d ∈ builtinRules, d.ruleId ≠ ruleFault := by decide
      rw [hid]
      exact hnone rule.definition (hsafe rule hrule).1
  · intro site _ rule hrule
    have hrule := (hsafe rule hrule).2
    refine ⟨hrule.definition.answers site.element, fun happlies hcomplete => ?_⟩
    exact (Site.clean_checkRun hrule happlies hcomplete).failure

/-- An if statement with an else branch in which a call stands whose length was left out. -/
def tangledStatement : Statement :=
  let call : Statement := ⟨.methodCall, 1, 2, none, [], none, none⟩
  let branch : Statement := ⟨.else_, 1, 1, none, [call], none, none⟩
  ⟨.if_, 0, 0, none, [branch], none, none⟩

theorem tangledStatement_wellFormed : tangledStatement.WellFormed := by
  refine .intro _ (by simp [tangledStatement]) (by simp [tangledStatement, Statement.childDepth]) ?_
  intro branch hbranch
  rw [List.mem_singleton.mp hbranch]
  refine .intro _ (by simp) (by simp [Statement.childDepth]) ?_
  intro call hcall
  rw [List.mem_singleton.mp hcall]
  exact .intro _ (by simp) (by simp) (by simp)

/-- A unit that has much to report: a type without a simple name, a field of unknown type and a
method around the statement above. -/
def tangledUnit : SourceUnit :=
  { unlayeredUnit with
    layer := some .domain
    types := [{ bareType with
      qualifiedName := "a."
      qualifiedName_ne := by decide
      fields := [⟨"f", none, .mutable, .public_, false, none, by decide, line_pos_none⟩]
      fields_nodup := by simp
      methods := [⟨"m", [], none, [tangledStatement], .public_, true, none, by decide,
        line_pos_none, by simp [tangledStatement_wellFormed], by simp [tangledStatement],
        by decide, List.nodup_nil⟩] }]
    types_nodup := by simp }

/-- Two calls that are accepted and two that are refused. -/
def sampleConfiguration : List RegistryCall :=
  [.configure "max-call-chain" (.table [("threshold", .int 0)]) true,
    .configure "max-class-size" (.table [("profile", .text "lenient")]) false,
    .configureMany (Table.ofList [("no-abbreviation.min_length", .int 9)]) false,
    .reset "max-calls"]

theorem builtin_rules_never_fault_sample :
    ofDefinitions builtinRules = .ok builtin ∧ (∀ c ∈ sampleConfiguration, c.Configures) ∧
      ∃ rules result, (builtin.afterAll sampleConfiguration).snapshot = .ok rules ∧
        Evaluator.evaluate ⟨none⟩ tangledUnit rules (fun _ => .whole 0) = .ok result ∧
        ∀ f ∈ result.findings, f.ruleId ≠ ruleFault := by
  have hcalls : ∀ c ∈ sampleConfiguration, c.Configures := by
    simp [sampleConfiguration, RegistryCall.Configures]
  obtain ⟨rules, result, hsnapshot, hresult, hfaults, -⟩ :=
    builtin_rules_never_fault ofDefinitions_builtinRules hcalls tangledUnit fun _ => .whole 0
  exact ⟨ofDefinitions_builtinRules, hcalls, rules, result, hsnapshot, hresult, hfaults⟩

end Registry

end Conformance
