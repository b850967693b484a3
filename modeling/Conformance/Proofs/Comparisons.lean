import Conformance.Proofs.RuleReports

/-!
# What a measure says

A finding may carry a measured value and the threshold that it was held against. The console shows
the two in one cell, as a comparison in which the measured value is the greater one
(`Finding.measureText`). Whether that comparison is true is a matter of the rule:

* the rules that count report what is above a ceiling, and so does the rule on layers, whose ceiling
  is zero;
* the rule on names holds the length of a name against a floor, so what it reports is below. Its
  message says so, and the cell beside the message says the opposite;
* no other rule measures, and neither do the remarks of the evaluation.

None of this depends on the configuration or on where a check is called. A result is either a
failure, which has no findings, or made by the two calls of the context, and it is enough to know
what each of them puts into the details.
-/

set_option autoImplicit false

namespace Conformance

/-! ## 1. Comparisons -/

namespace Finding

variable {f : Finding} {measured threshold : Int}

/-- The measured value and the threshold of a finding are these numbers. -/
structure Compares (f : Finding) (measured threshold : Int) : Prop where
  measured : f.detail? "measured" = some (.int measured)
  threshold : f.detail? "threshold" = some (.int threshold)

/-- Nothing was measured. -/
def Unmeasured (f : Finding) : Prop := f.detail? "measured" = none

/-- The measured value is above the threshold. -/
def IsAbove (f : Finding) : Prop :=
  ∃ measured threshold : Int, f.Compares measured threshold ∧ threshold < measured

/-- The measured value is below the threshold, and the message ends by saying so. -/
def IsBelow (f : Finding) : Prop :=
  ∃ measured threshold : Int, f.Compares measured threshold ∧ measured < threshold ∧
    ∃ words, f.message = words ++ toString measured ++ " < " ++ toString threshold

/-- **The cell.** Whichever number is the greater one, the cell names the measured value. -/
theorem Compares.measureText_eq (h : f.Compares measured threshold) :
    f.measureText = toString measured ++ " > " ++ toString threshold := by
  have hmeasured : f.measured = .int measured := by
    unfold Finding.measured
    rw [h.measured, Option.getD_some]
  have hthreshold : f.threshold = .int threshold := by
    unfold Finding.threshold
    rw [h.threshold, Option.getD_some]
  unfold measureText
  rw [h.measured, hmeasured, hthreshold]
  rfl

/-- A finding has one measured value and one threshold, so its kind settles how they compare. -/
theorem Compares.lt_of_isAbove (h : f.Compares measured threshold) (habove : f.IsAbove) :
    threshold < measured := by
  obtain ⟨m, t, hcompares, hlt⟩ := habove
  have hm : m = measured := by simpa using hcompares.measured.symm.trans h.measured
  have ht : t = threshold := by simpa using hcompares.threshold.symm.trans h.threshold
  rwa [hm, ht] at hlt

end Finding

/-! ## 2. Results -/

/-- A result whose findings have measured nothing, or are of this kind. -/
def Returns (kind : Finding → Prop) (made : Except Error (List Finding)) : Prop :=
  ∀ findings, made = .ok findings → ∀ f ∈ findings, f.Unmeasured ∨ kind f

namespace Returns

variable {kind : Finding → Prop} {ctx : Context} {element : Element} {message : String}

theorem nil : Returns kind (.ok []) := by
  intro findings h f hf
  rw [← Except.ok.inj h] at hf
  exact absurd hf List.not_mem_nil

theorem error (e : Error) : Returns kind (.error e) :=
  fun _ h => absurd h (by simp)

/-- The plain call has the details that it is given. -/
theorem finding {payload : Payload}
    (h : ∀ f : Finding, f.payload = payload → f.message = message → f.Unmeasured ∨ kind f) :
    Returns kind (do
      let f ← ctx.finding element message payload
      return [f]) := by
  intro findings hreturned f hf
  obtain ⟨made, hmade, hlist⟩ := bind_ok_iff.mp hreturned
  rw [← Except.ok.inj hlist, List.mem_singleton] at hf
  obtain ⟨location, -, rfl⟩ := Context.eq_of_finding hmade
  rw [hf]
  exact h _ rfl rfl

/-- The plain call with details among which there is no measured value. -/
theorem unmeasured {payload : Payload} (h : payload.lookup "measured" = none) :
    Returns kind (do
      let f ← ctx.finding element message payload
      return [f]) := by
  refine finding fun f hpayload _ => .inl ?_
  unfold Finding.Unmeasured Finding.detail?
  rw [hpayload, h]

/-- A condition may be used where it holds and where it does not. -/
theorem ite {p : Prop} [Decidable p] {first second : Except Error (List Finding)}
    (hfirst : p → Returns kind first) (hsecond : ¬ p → Returns kind second) :
    Returns kind (if p then first else second) := by
  by_cases hp : p
  · rw [if_pos hp]
    exact hfirst hp
  · rw [if_neg hp]
    exact hsecond hp

theorem append {first second : Except Error (List Finding)} (hfirst : Returns kind first)
    (hsecond : Returns kind second) :
    Returns kind (do
      let early ← first
      let late ← second
      return early ++ late) := by
  intro findings h f hf
  obtain ⟨early, hearly, h⟩ := bind_ok_iff.mp h
  obtain ⟨late, hlate, h⟩ := bind_ok_iff.mp h
  rw [← Except.ok.inj h, List.mem_append] at hf
  rcases hf with hf | hf
  · exact hfirst early hearly f hf
  · exact hsecond late hlate f hf

/-- What a check has to say about an element that is not for it. -/
theorem lacking (parts : List Part) : Returns kind (do
    element.checkParts parts
    return []) := by
  cases element.checkParts parts with
  | ok _ => exact nil
  | error e => exact error e

/-- The findings of a run are those of the result that it was made of. -/
theorem mem {made : Except Error (List Finding)} (h : Returns kind made) :
    ∀ f ∈ (CheckRun.ofExcept made).findings, f.Unmeasured ∨ kind f := by
  intro f hf
  cases made with
  | ok findings => exact h findings rfl f hf
  | error e => exact absurd hf List.not_mem_nil

end Returns

/-- **The measuring call.** It makes a finding only if the measured value is above the threshold,
and puts the two in front of the other details. -/
theorem Context.isAbove_of_exceeds {ctx : Context} {element : Element} {message option : String}
    {measured : Int} {extra : Payload} {f : Finding}
    (h : ctx.exceeds element message measured option extra = .ok (some f)) : f.IsAbove := by
  obtain ⟨threshold, habove, text, hmade⟩ := above_of_exceeds h
  obtain ⟨location, -, rfl⟩ := eq_of_finding hmade
  -- that the value is above the threshold is all that the cell relies on
  exact ⟨measured, threshold, ⟨rfl, rfl⟩, habove⟩

theorem Returns.exceeds {ctx : Context} {element : Element} {message option : String}
    {measured : Int} {extra : Payload} :
    Returns Finding.IsAbove
      (Builtin.atMostOne (ctx.exceeds element message measured option extra)) := by
  intro findings h f hf
  obtain ⟨made, hmade, hreturned⟩ := bind_ok_iff.mp h
  rw [← Except.ok.inj hreturned, Option.mem_toList] at hf
  exact .inr (Context.isAbove_of_exceeds (hf ▸ hmade))

/-! ## 3. Checks -/

/-- A check whose findings have measured nothing, or are of this kind. -/
def Check.Finds (kind : Finding → Prop) (check : Check) : Prop :=
  ∀ element ctx, ∀ f ∈ (check element ctx).findings, f.Unmeasured ∨ kind f

namespace Check

variable {kind : Finding → Prop} {parts : List Part}

/-- A check of the elements of a form makes the findings of its results, and none on other elements.
-/
theorem finds_ofForm {α : Type} {form : Element.Form α}
    {g : α → Context → Except Error (List Finding)} (h : ∀ a ctx, Returns kind (g a ctx)) :
    (ofForm form parts g).Finds kind := by
  intro element ctx
  cases hget : form.get? element with
  | none =>
    rw [ofForm_of_none hget]
    exact Returns.mem (.lacking parts)
  | some a =>
    rw [ofForm_of_some hget]
    exact Returns.mem (h a ctx)

theorem Finds.inDomain {check : Check} (h : check.Finds kind) :
    (Check.inDomain check).Finds kind := by
  intro element ctx f hf
  unfold Check.inDomain at hf
  split at hf
  · exact h element ctx f hf
  · exact absurd hf List.not_mem_nil

end Check

/-! ## 4. The built-in rules -/

namespace Builtin

open Finding

/-- The rules that measure with the one call for it come first. -/
theorem finds_maxIndentationDepth : maxIndentationDepth.check.Finds IsAbove :=
  Check.finds_ofForm fun _ _ => .exceeds

theorem finds_maxMethodSize : maxMethodSize.check.Finds IsAbove :=
  Check.finds_ofForm fun _ _ => .exceeds

theorem finds_maxInstanceVariables : maxInstanceVariables.check.Finds IsAbove :=
  Check.finds_ofForm fun _ _ => .exceeds

theorem finds_maxInterfaceMethods : maxInterfaceMethods.check.Finds IsAbove :=
  Check.finds_ofForm fun _ _ => .exceeds

theorem finds_maxCallChain : maxCallChain.check.Finds IsAbove := by
  refine Check.finds_ofForm fun s ctx => .ite (fun _ => .nil) fun _ => ?_
  cases s.callChainLength with
  | none => exact .error _
  | some length => exact .exceeds

/-- Two measurements, of which the second is made only if the lines were counted. -/
theorem finds_maxClassSize : maxClassSize.check.Finds IsAbove := by
  refine Check.finds_ofForm fun t ctx => ?_
  have hmethods := @Returns.exceeds ctx (.type t) ("Type '" ++ t.name ++ "' has too many methods")
    "max_methods" t.methods.length [("metric", .text "methods")]
  unfold checkClassSize
  cases t.lineSpan with
  | none => exact hmethods
  | some span =>
    have hlines := @Returns.exceeds ctx (.type t) ("Type '" ++ t.name ++ "' spans too many lines")
      "max_lines" span [("metric", .text "lines"), ("profile", Value.ofText? ctx.config.profile)]
    have hboth := hmethods.append hlines
    -- the check makes both measurements in one chain of calls
    unfold atMostOne at hboth
    simpa only [bind_assoc, pure_bind] using hboth

theorem finds_noElseBranch (kind : Finding → Prop) : noElseBranch.check.Finds kind := by
  refine Check.finds_ofForm fun s ctx => .ite (fun _ => ?_) fun _ => .nil
  cases s.elseBranches with
  | nil => exact .error _
  | cons branch rest => exact .unmeasured rfl

theorem finds_noAccessorMethods (kind : Finding → Prop) :
    noAccessorMethods.check.Finds kind :=
  Check.Finds.inDomain <| Check.finds_ofForm fun _ _ =>
    .ite (fun _ => .unmeasured rfl) fun _ => .nil

theorem returns_rawCollection (kind : Finding → Prop) (element : Element) (name : String)
    (type? : Option TypeReference) (ctx : Context) :
    Returns kind (rawCollection element name type? ctx) := by
  unfold rawCollection
  cases type?.filter (·.isCollection) with
  | none => exact .nil
  | some r => exact .unmeasured rfl

theorem finds_firstClassCollection (kind : Finding → Prop) :
    firstClassCollection.check.Finds kind := by
  refine Check.Finds.inDomain fun element ctx => ?_
  cases element with
  | field f => exact Returns.mem (returns_rawCollection kind _ _ _ ctx)
  | parameter p => exact Returns.mem (returns_rawCollection kind _ _ _ ctx)
  | _ => exact Returns.mem (.lacking _)

theorem finds_wrapPrimitives (kind : Finding → Prop) : wrapPrimitives.check.Finds kind := by
  refine Check.Finds.inDomain fun element ctx => ?_
  cases element with
  | field f =>
    refine Returns.mem ?_
    cases f.type?.filter (·.isPrimitive) with
    | none => exact .nil
    | some r => exact .unmeasured rfl
  | parameter p =>
    refine Returns.mem ?_
    cases p.type?.filter (·.isPrimitive) with
    | none => exact .nil
    | some r => exact .unmeasured rfl
  | _ => exact Returns.mem (.lacking _)

/-- The references counted are there, so there is at least one of them. -/
theorem finds_layeredDependency : layeredDependency.check.Finds IsAbove := by
  refine Check.Finds.inDomain <| Check.finds_ofForm fun t ctx =>
    .ite (fun _ => .nil) fun hsome => .finding fun f hpayload _ => .inr ?_
  have hlength : 0 < (referencesTo .infrastructure t).length := by
    rwa [List.length_pos_iff, ne_eq, ← List.isEmpty_iff]
  refine ⟨_, _, ⟨?_, ?_⟩, Int.ofNat_lt.mpr hlength⟩
  · unfold detail?
    rw [hpayload]
    rfl
  · unfold detail?
    rw [hpayload]
    rfl

/-- **The rule on names** reports a name as too short if its length is below the threshold. -/
theorem returns_checkName (kind name : String) (element : Element) (ctx : Context) :
    Returns IsBelow (checkName kind name element ctx) := by
  unfold checkName
  cases ctx.config.threshold "min_length" with
  | error e => exact .error e
  | ok least =>
    refine Returns.ite (fun hshort => .finding fun f hpayload hmessage => .inr ?_)
      fun _ => .ite (fun _ => .unmeasured rfl) fun _ => .nil
    refine ⟨name.length, least, ⟨?_, ?_⟩, Int.ofNat_lt.mpr hshort,
      kind ++ " name '" ++ name ++ "' is too short: ", ?_⟩
    · unfold detail?
      rw [hpayload]
      rfl
    · unfold detail?
      rw [hpayload]
      rfl
    · rw [hmessage]
      rfl

theorem finds_noAbbreviation : noAbbreviation.check.Finds IsBelow := by
  intro element ctx
  cases element with
  | type t => exact Returns.mem (returns_checkName _ _ _ ctx)
  | method m => exact Returns.mem (returns_checkName _ _ _ ctx)
  | field f => exact Returns.mem (returns_checkName _ _ _ ctx)
  | parameter p => exact Returns.mem (.error _)
  | _ => exact Returns.mem (.lacking _)

/-- What a built-in rule measured is above its threshold, unless it is the rule on names. -/
theorem finds_of_mem_builtinRules {d : RuleDefinition} (hd : d ∈ builtinRules)
    (hname : d.ruleId ≠ noAbbreviation.ruleId) : d.check.Finds IsAbove := by
  cases isBuiltin_of_mem hd with
  | maxIndentationDepth => exact finds_maxIndentationDepth
  | noElseBranch => exact finds_noElseBranch _
  | wrapPrimitives => exact finds_wrapPrimitives _
  | firstClassCollection => exact finds_firstClassCollection _
  | maxCallChain => exact finds_maxCallChain
  | noAbbreviation => exact absurd rfl hname
  | maxClassSize => exact finds_maxClassSize
  | maxInstanceVariables => exact finds_maxInstanceVariables
  | noAccessorMethods => exact finds_noAccessorMethods _
  | layeredDependency => exact finds_layeredDependency
  | maxInterfaceMethods => exact finds_maxInterfaceMethods
  | maxMethodSize => exact finds_maxMethodSize

end Builtin

/-! ## 5. Evaluations -/

/-- The remarks of an evaluation measure nothing, so what was measured was found by a check. -/
theorem Evaluator.unmeasured_or_found {e : Evaluator} {u : SourceUnit} {rules : RuleSet}
    {clock : Clock} {result : Evaluation} {f : Finding}
    (h : e.evaluate u rules clock = .ok result) (hf : f ∈ result.findings) :
    f.Unmeasured ∨ ∃ site ∈ u.sites, ∃ rule ∈ rules.rules, f ∈ (site.checkRun u rule).findings := by
  rcases findings_of_evaluate h with hfindings | ⟨t, hfindings⟩
  · rw [hfindings, SourceUnit.findings_evaluate, (sortFindings_perm _).mem_iff] at hf
    rcases SourceUnit.missing_or_visited hf with rfl | ⟨site, hsite, hvisit⟩
    · exact .inl rfl
    · rcases Site.failed_skipped_or_checked hvisit with
        ⟨rule, e, rfl⟩ | ⟨applicable, rfl⟩ | ⟨rule, hrule, hmade⟩
      · exact .inl rfl
      · exact .inl rfl
      · exact .inr ⟨site, hsite, rule, hrule, hmade⟩
  · rw [hfindings, List.mem_singleton] at hf
    exact .inl (hf ▸ rfl)

namespace Registry

/-- **A measure is true unless it is about a name.** Take the registry of the built-in rules after
any calls, which may register rules that sign their findings with their own identifiers. Take any
unit, any evaluator, with a time budget or without, and any clock. Whenever the evaluation returns,
a finding that measured something, and is not one of a registered rule, has two whole numbers, and
its cell shows the first as the greater one. For every rule but the one on names it is. For the rule
on names it is the smaller one, as the message next to the cell says. -/
theorem measures_by_rule {start : Registry} (hstart : ofDefinitions builtinRules = .ok start)
    {calls : List RegistryCall} (hcalls : ∀ c ∈ calls, c.UsesContext) :
    ∃ rules, (start.afterAll calls).snapshot = .ok rules ∧
      ∀ (e : Evaluator) (u : SourceUnit) (clock : Clock) (result : Evaluation),
        e.evaluate u rules clock = .ok result → ∀ f ∈ result.findings, ¬ f.Unmeasured →
          f.ruleId ∉ (start.registrations calls).map (·.ruleId) →
          ∃ measured threshold : Int, f.Compares measured threshold ∧
            f.measureText = toString measured ++ " > " ++ toString threshold ∧
            (f.ruleId ≠ Builtin.noAbbreviation.ruleId → threshold < measured) ∧
            (f.ruleId = Builtin.noAbbreviation.ruleId → measured < threshold ∧
              ∃ words, f.message = words ++ toString measured ++ " < " ++ toString threshold) := by
  obtain rfl : start = builtin := Except.ok.inj (hstart.symm.trans ofDefinitions_builtinRules)
  obtain ⟨rules, hsnapshot, hrules⟩ := (entries_afterAll_builtin calls).1.snapshot
  refine ⟨rules, hsnapshot, fun e u clock result hresult f hf hmeasured hregistered => ?_⟩
  obtain ⟨site, -, rule, hactive, hmade⟩ :=
    (Evaluator.unmeasured_or_found hresult hf).resolve_left hmeasured
  have hrule : rule ∈ (builtin.afterAll calls).rules := by
    rw [hrules] at hactive
    exact (List.mem_filter.mp hactive).1
  -- the rule that made the finding is the one whose name it bears, and it is a built-in rule
  have hruleId : f.ruleId = rule.definition.ruleId := by
    obtain ⟨target, hmakes⟩ := usesContext_of_mem_rules hcalls hrule site.element _ f hmade
    exact hmakes.signs.ruleId
  have hdefinition : rule.definition ∈ builtinRules := by
    refine (builtin_or_registered_of_mem_rules hrule).resolve_right fun hmem => hregistered ?_
    exact List.mem_map.mpr ⟨rule.definition, hmem, hruleId.symm⟩
  by_cases hname : f.ruleId = Builtin.noAbbreviation.ruleId
  · have hbelow : f.IsBelow := by
      have hsame : rule.definition = Builtin.noAbbreviation :=
        List.inj_on_of_nodup_map nodup_builtinRules hdefinition (by simp [builtinRules])
          (hruleId.symm.trans hname)
      unfold Site.checkRun at hmade
      rw [hsame] at hmade
      exact (Builtin.finds_noAbbreviation _ _ f hmade).resolve_left hmeasured
    obtain ⟨measured, threshold, hcompares, hlt, hmessage⟩ := hbelow
    exact ⟨measured, threshold, hcompares, hcompares.measureText_eq, fun hne => absurd hname hne,
      fun _ => ⟨hlt, hmessage⟩⟩
  · have habove : f.IsAbove :=
      (Builtin.finds_of_mem_builtinRules hdefinition (fun hsame => hname (hruleId.trans hsame))
        _ _ f hmade).resolve_left hmeasured
    obtain ⟨measured, threshold, hcompares, hlt⟩ := habove
    exact ⟨measured, threshold, hcompares, hcompares.measureText_eq, fun _ => hlt,
      fun heq => absurd heq hname⟩

/-- A unit with a type whose name has two letters, and which has a method. -/
def shortUnit : SourceUnit where
  path := ⟨"shop/order.py"⟩
  layer := some .domain
  types := [{ bareType with
    qualifiedName := "shop.Id"
    qualifiedName_ne := by decide
    methods := [⟨"total", [], none, [], .public_, false, none, by decide, line_pos_none, by simp,
      by simp, by decide, List.nodup_nil⟩] }]
  path_ne := by decide
  types_nodup := by simp

/-- What the rule on names finds in it. -/
def shortName : Finding where
  ruleId := "no-abbreviation"
  severity := .warning
  location :=
    { path := ⟨"shop/order.py"⟩, typeName := some "shop.Id",
      member_needs_type := fun _ => rfl, position_needs_member := Location.position_needs_none }
  message := "Type name 'Id' is too short: 2 < 3"
  category := .naming
  payload := [("measured", .int 2), ("threshold", .int 3), ("reason", .text "too-short")]

/-- What the rule on sizes finds in it if no methods are allowed. -/
def oneMethod : Finding where
  ruleId := "max-class-size"
  severity := .warning
  location :=
    { path := ⟨"shop/order.py"⟩, typeName := some "shop.Id",
      member_needs_type := fun _ => rfl, position_needs_member := Location.position_needs_none }
  message := "Type 'Id' has too many methods: 1 > 0"
  category := .size
  payload := [("measured", .int 1), ("threshold", .int 0), ("metric", .text "methods")]

/-- The cell of the one is false and the cell of the other is true. -/
theorem measures_by_rule_sample :
    let calls := [.configure "max-class-size" (.table [("max_methods", .int 0)]) true]
    ofDefinitions builtinRules = .ok builtin ∧ (∀ c ∈ calls, c.UsesContext) ∧
      ∃ rules result, (builtin.afterAll calls).snapshot = .ok rules ∧
        Evaluator.evaluate ⟨none⟩ shortUnit rules (fun _ => .whole 0) = .ok result ∧
        (shortName ∈ result.findings ∧
          ∃ measured threshold : Int, shortName.Compares measured threshold ∧
            measured < threshold) ∧
        oneMethod ∈ result.findings ∧
          ∃ measured threshold : Int, oneMethod.Compares measured threshold ∧
            threshold < measured := by
  intro calls
  have hcalls : ∀ c ∈ calls, c.Configures := by simp [calls, RegistryCall.Configures]
  have huses : ∀ c ∈ calls, c.UsesContext := by simp [calls, RegistryCall.UsesContext]
  obtain ⟨rules, hsnapshot, hall⟩ := measures_by_rule ofDefinitions_builtinRules huses
  have hfound : (builtin.afterAll calls).snapshot.map shortUnit.unsortedFindings =
      .ok [shortName, oneMethod] := by rfl
  rw [hsnapshot] at hfound
  have hmem : ∀ f, f ∈ (shortUnit.evaluation rules).findings ↔ f ∈ [shortName, oneMethod] := by
    intro f
    rw [← Except.ok.inj hfound]
    show f ∈ (shortUnit.evaluate rules).findings ↔ _
    rw [SourceUnit.findings_evaluate, (sortFindings_perm _).mem_iff]
  have hshort : shortName ∈ (shortUnit.evaluation rules).findings := (hmem _).mpr (by simp)
  have hmethod : oneMethod ∈ (shortUnit.evaluation rules).findings := (hmem _).mpr (by simp)
  have hresult := evaluate_unbounded shortUnit rules fun _ => .whole 0
  have hbuiltin : ∀ f : Finding, f.ruleId ∉ (builtin.registrations calls).map (·.ruleId) := by
    rw [registrations_eq_nil hcalls]
    simp
  obtain ⟨m, t, hcompares, -, -, hname⟩ :=
    hall ⟨none⟩ shortUnit _ _ hresult shortName hshort (by simp [Finding.Unmeasured, shortName,
      Finding.detail?]) (hbuiltin _)
  obtain ⟨k, l, hmethodCompares, -, hother, -⟩ :=
    hall ⟨none⟩ shortUnit _ _ hresult oneMethod hmethod (by simp [Finding.Unmeasured, oneMethod,
      Finding.detail?]) (hbuiltin _)
  exact ⟨ofDefinitions_builtinRules, huses, rules, _, hsnapshot, hresult,
    ⟨hshort, m, t, hcompares, (hname rfl).1⟩, hmethod, k, l, hmethodCompares, hother (by decide)⟩

/-- **A short name is shown as a long one.** With the built-in rules as they are, a name of two
letters is reported by a measure that says that two is above three. -/
theorem short_name_measured_above :
    ∃ rules result, builtin.snapshot = .ok rules ∧
      Evaluator.evaluate ⟨none⟩ shortUnit rules (fun _ => .whole 0) = .ok result ∧
      ∃ f ∈ result.findings, ¬ f.Unmeasured ∧ f.Compares 2 3 ∧ f.measureText = "2 > 3" ∧
        f.message = "Type name 'Id' is too short: 2 < 3" ∧ ¬ f.IsAbove := by
  obtain ⟨rules, hsnapshot, -⟩ := (entries_afterAll_builtin []).1.snapshot
  have hfound : builtin.snapshot.map shortUnit.unsortedFindings = .ok [shortName] := by rfl
  have hcompares : shortName.Compares 2 3 := ⟨rfl, rfl⟩
  refine ⟨rules, shortUnit.evaluation rules, hsnapshot, rfl, shortName, ?_, ?_, hcompares,
    hcompares.measureText_eq, rfl, fun habove => ?_⟩
  · rw [show builtin.snapshot = .ok rules from hsnapshot] at hfound
    show shortName ∈ (shortUnit.evaluate rules).findings
    rw [SourceUnit.findings_evaluate, Except.ok.inj hfound]
    simp [sortFindings_singleton]
  · simp [Finding.Unmeasured, hcompares.measured]
  · have hgt : (3 : Int) < 2 := hcompares.lt_of_isAbove habove
    omega

end Registry

end Conformance
