import Conformance.Proofs.RuleReports
import Conformance.Proofs.TimeBudget

/-!
# Measurements and thresholds

Seven quantities are measured by six built-in rules and held against thresholds. A quantity is
defined here on its own (`Quantity.Measures`), without the functions that the rules compute it by:
the depth of a method is the greatest depth of a statement in it, the length of a chain is that of a
call which is not made on a builder, and so on. Not every element has every quantity.

What a rule has to say about a quantity at a site is its verdict (`Judges`): one finding with the
measured value and the threshold if the value is above the threshold, and nothing if it is not, or
if there is no such quantity. The rule on names measures as well, but in the other direction, and
has a second reason to object (`JudgesName`).

The verdicts at the sites of a unit, put one after the other and sorted, are all that an evaluation
contains of a rule (`SourceUnit.Judged`), and the threshold is the one in the registry when the
snapshot is taken.
-/

set_option autoImplicit false

namespace Conformance

/-! ## 1. What is measured -/

/-- What is measured by the built-in rules. -/
inductive Quantity where
  | nestingDepth
  | statements
  | methods
  | lines
  | instanceVariables
  | interfaceMethods
  | callChain

/-- The threshold that a quantity is held against, by name. -/
def Quantity.option : Quantity → String
  | .methods => "max_methods"
  | .lines => "max_lines"
  | _ => "threshold"

/-- The depth that no statement of a method exceeds and one has. A method without statements has
depth zero. -/
structure Method.GreatestDepth (m : Method) (n : Nat) : Prop where
  bound : ∀ s : Statement, s.Within m.body → s.depth ≤ n
  attained : m.body = [] ∧ n = 0 ∨ ∃ s : Statement, s.Within m.body ∧ s.depth = n

/-- The call is made on a builder. -/
def Statement.OnBuilder (s : Statement) : Prop := ∃ r ∈ s.callTarget, r.isBuilder = true

/-- The quantity at a site, if the site has it. -/
inductive Quantity.Measures : Quantity → Site → Nat → Prop
  | nestingDepth {t : TypeDeclaration} {m : Method} {n : Nat} (h : m.GreatestDepth n) :
      Measures .nestingDepth (.method t m) n
  | statements {t : TypeDeclaration} {m : Method} :
      Measures .statements (.method t m) (Statement.countAll m.body)
  | methods {t : TypeDeclaration} : Measures .methods (.type t) t.methods.length
  | lines {t : TypeDeclaration} {n : Nat} (h : t.lineSpan = some n) : Measures .lines (.type t) n
  | instanceVariables {t : TypeDeclaration} :
      Measures .instanceVariables (.type t)
        (t.fields.filter (!·.isInfrastructureUtility)).length
  | interfaceMethods {t : TypeDeclaration} (h : t.kind = .interface) :
      Measures .interfaceMethods (.type t) t.methods.length
  | callChain {t : TypeDeclaration} {m : Method} {s : Statement} {n : Nat}
      (hkind : s.kind = .methodCall) (hbuilder : ¬ s.OnBuilder) (h : s.callChainLength = some n) :
      Measures .callChain (.statement t m s) n

/-- One pass over the statements finds the greatest depth, or stays at the depth it started from. -/
theorem Statement.foldl_max_depth (statements : List Statement) (start : Nat) :
    start ≤ statements.foldl (fun d s => max d s.depth) start ∧
      (∀ s ∈ statements, s.depth ≤ statements.foldl (fun d s => max d s.depth) start) ∧
      (statements.foldl (fun d s => max d s.depth) start = start ∨
        ∃ s ∈ statements, s.depth = statements.foldl (fun d s => max d s.depth) start) := by
  induction statements generalizing start with
  | nil => exact ⟨Nat.le_refl _, fun s hs => absurd hs List.not_mem_nil, .inl rfl⟩
  | cons first rest ih =>
    obtain ⟨hstart, hbound, hattained⟩ := ih (max start first.depth)
    rw [List.foldl_cons]
    refine ⟨by omega, ?_, ?_⟩
    · intro s hs
      rcases List.mem_cons.mp hs with rfl | hs
      · omega
      · exact hbound s hs
    · rcases hattained with heq | ⟨s, hs, heq⟩
      · -- nothing later is deeper, so it is the start or the first
        rcases Nat.le_total first.depth start with hle | hle
        · exact .inl (by omega)
        · exact .inr ⟨first, List.mem_cons_self, by omega⟩
      · exact .inr ⟨s, List.mem_cons_of_mem _ hs, heq⟩

/-- The number that the rule measures is a maximum: a bound of all depths that some statement
attains. -/
theorem Method.greatestDepth_maxNestingDepth (m : Method) :
    m.GreatestDepth m.maxNestingDepth := by
  obtain ⟨-, hbound, hattained⟩ := Statement.foldl_max_depth m.statements 0
  have hwithin : ∀ s : Statement, s ∈ m.statements ↔ s.Within m.body := fun s =>
    Statement.mem_walkAll_iff
  refine ⟨fun s hs => hbound s ((hwithin s).mpr hs), ?_⟩
  rcases hattained with hzero | ⟨s, hs, hdepth⟩
  · cases hbody : m.body with
    | nil => exact .inl ⟨rfl, hzero⟩
    | cons first rest =>
      -- the body starts at depth zero
      have hmem : first ∈ m.body := by simp [hbody]
      refine .inr ⟨first, .here List.mem_cons_self, ?_⟩
      rw [m.body_depth first hmem]
      exact hzero.symm
  · refine .inr ⟨s, (hwithin s).mp hs, hdepth⟩

/-- A count by walking through a body is the count by recursion on it. -/
theorem Method.statementCount_eq (m : Method) : m.statementCount = Statement.countAll m.body :=
  Statement.length_walkAll m.body

/-- A site has a quantity at most once, so what a finding says was measured can be compared with it.
-/
theorem Quantity.Measures.unique {what : Quantity} {site : Site} {n k : Nat}
    (hn : what.Measures site n) (hk : what.Measures site k) : n = k := by
  cases hn with
  | nestingDepth hn =>
    cases hk with
    | nestingDepth hk =>
      -- each of two greatest depths is attained, hence bounded by the other
      rcases hn.attained with ⟨hempty, rfl⟩ | ⟨s, hs, rfl⟩
      · rcases hk.attained with ⟨-, rfl⟩ | ⟨s, hs, -⟩
        · rfl
        · rw [hempty] at hs
          cases hs <;> exact absurd ‹_ ∈ []› List.not_mem_nil
      · have hle := hk.bound s hs
        rcases hk.attained with ⟨-, rfl⟩ | ⟨other, hother, rfl⟩
        · omega
        · have hge := hn.bound other hother
          omega
  | lines hn =>
    cases hk with
    | lines hk => exact Option.some.inj (hn.symm.trans hk)
  | callChain _ _ hn =>
    cases hk with
    | callChain _ _ hk => exact Option.some.inj (hn.symm.trans hk)
  | _ =>
    cases hk
    rfl

/-! ## 2. Verdicts -/

/-- A finding of a rule at a site: everything but its message and its details. -/
structure Site.Signed (u : SourceUnit) (rule : ConfiguredRule) (site : Site) (f : Finding) :
    Prop where
  ruleId : f.ruleId = rule.ruleId
  severity : f.severity = rule.config.severity
  category : f.category = rule.definition.category
  location : f.location = site.location u.path

/-- What a rule says about a quantity at a site. -/
inductive Judges (u : SourceUnit) (rule : ConfiguredRule) (what : Quantity) (site : Site) :
    List Finding → Prop
  | unmeasured (h : ∀ n, ¬ what.Measures site n) : Judges u rule what site []
  | within (n limit : Nat) (hmeasures : what.Measures site n)
      (hlimit : rule.config.threshold what.option = .ok limit) (h : n ≤ limit) :
      Judges u rule what site []
  | above (n limit : Nat) (hmeasures : what.Measures site n)
      (hlimit : rule.config.threshold what.option = .ok limit) (h : limit < n) (f : Finding)
      (hsigned : site.Signed u rule f) (hmeasured : f.detail? "measured" = some (.int n))
      (hthreshold : f.detail? "threshold" = some (.int limit)) : Judges u rule what site [f]

/-- What a rule says about several quantities, one after the other. -/
def JudgesAll (u : SourceUnit) (rule : ConfiguredRule) (quantities : List Quantity) (site : Site)
    (found : List Finding) : Prop :=
  ∃ parts, List.Forall₂ (fun what part => Judges u rule what site part) quantities parts ∧
    found = parts.flatten

/-- The name of a type, a field or a method. -/
def Site.name? : Site → Option String
  | .type t => some t.name
  | .field _ f => some f.name
  | .method _ m => some m.name
  | _ => none

/-- There are letters in a text, and no vowel among them. -/
def AllConsonant (name : String) : Prop :=
  (∃ c ∈ name.toList, Text.isLetter c = true) ∧
    ∀ c ∈ name.toList, Text.isLetter c = true → Builtin.isVowel c = false

/-- What the rule on names says at a site. An element of which something was left out is not looked
at. -/
inductive JudgesName (u : SourceUnit) (rule : ConfiguredRule) (site : Site) : List Finding → Prop
  | unnamed (h : site.name? = none) : JudgesName u rule site []
  | incomplete (h : site.element.missing ≠ []) : JudgesName u rule site []
  | short (name : String) (limit : Nat) (hcomplete : site.element.missing = [])
      (hname : site.name? = some name) (hlimit : rule.config.threshold "min_length" = .ok limit)
      (h : name.length < limit) (f : Finding) (hsigned : site.Signed u rule f)
      (hmeasured : f.detail? "measured" = some (.int name.length))
      (hthreshold : f.detail? "threshold" = some (.int limit))
      (hreason : f.detail? "reason" = some (.text "too-short")) : JudgesName u rule site [f]
  | consonants (name : String) (limit : Nat) (hcomplete : site.element.missing = [])
      (hname : site.name? = some name) (hlimit : rule.config.threshold "min_length" = .ok limit)
      (h : limit ≤ name.length) (hletters : AllConsonant name) (f : Finding)
      (hsigned : site.Signed u rule f)
      (hreason : f.detail? "reason" = some (.text "all-consonant")) : JudgesName u rule site [f]
  | accepted (name : String) (limit : Nat) (hcomplete : site.element.missing = [])
      (hname : site.name? = some name) (hlimit : rule.config.threshold "min_length" = .ok limit)
      (h : limit ≤ name.length) (hletters : ¬ AllConsonant name) : JudgesName u rule site []

variable {u : SourceUnit} {rule : ConfiguredRule} {site : Site} {what : Quantity}
  {d : RuleDefinition} {config : RuleConfig}

/-- What a context makes at a site carries rule, severity and place of the site. -/
theorem Site.signed_context (u : SourceUnit) (rule : ConfiguredRule) (site : Site)
    (message : String) (payload : Payload) :
    site.Signed u rule ((site.context u rule).signed site message payload) :=
  ⟨rfl, rfl, rfl, rfl⟩

/-- **The measuring call.** What it makes of a measured quantity is the verdict. -/
theorem judges_exceeds {n : Nat} (message : String) {extra : Payload}
    (hmeasures : what.Measures site n)
    (hlimit : ∃ limit, rule.config.threshold what.option = .ok limit)
    (hfree : Context.NamesFree
      ("measured" :: "option" :: "threshold" :: Context.callNames) extra) :
    ∃ made, (site.context u rule).exceeds site.element message n what.option extra = .ok made ∧
      Judges u rule what site made.toList := by
  obtain ⟨limit, hlimit⟩ := hlimit
  have hmade := @Context.exceeds_eq_ok (site.context u rule) site message what.option n limit
    extra (Site.context_at u rule site) hlimit hfree
  refine ⟨_, hmade, ?_⟩
  by_cases hle : n ≤ limit
  · rw [if_pos (by omega)]
    exact .within n limit hmeasures hlimit hle
  · rw [if_neg (by omega)]
    exact .above n limit hmeasures hlimit (by omega) _ (site.signed_context u rule _ _) rfl rfl

/-- So there is exactly one finding if the quantity is above its threshold, and none otherwise. -/
theorem Judges.length_eq {n limit : Nat} {found : List Finding} (h : Judges u rule what site found)
    (hmeasures : what.Measures site n)
    (hlimit : rule.config.threshold what.option = .ok limit) :
    found.length = if limit < n then 1 else 0 := by
  cases h with
  | unmeasured hnone => exact absurd hmeasures (hnone n)
  | within k bound hk hbound hle =>
    obtain rfl := hk.unique hmeasures
    obtain rfl := Except.ok.inj (hbound.symm.trans hlimit)
    rw [if_neg (by omega), List.length_nil]
  | above k bound hk hbound hlt =>
    obtain rfl := hk.unique hmeasures
    obtain rfl := Except.ok.inj (hbound.symm.trans hlimit)
    rw [if_pos hlt, List.length_singleton]

/-- A rule that measures one quantity is judged by it alone. -/
theorem JudgesAll.single {found : List Finding} (h : Judges u rule what site found) :
    JudgesAll u rule [what] site found :=
  ⟨[found], .cons h .nil, by simp⟩

/-! ## 3. The rules that measure -/

/-- Under every configuration that fits the rule, what it reports at a site is what is to be said of
the quantities there. -/
def RuleDefinition.Measuring (d : RuleDefinition) (quantities : List Quantity) : Prop :=
  ∀ (u : SourceUnit) (config : RuleConfig) (site : Site), config.Fits d →
    JudgesAll u ⟨d, config⟩ quantities site (site.reports u ⟨d, config⟩)

/-- How a rule for one quantity treats a site: it says nothing where there is nothing to measure,
and holds what there is against the threshold. -/
inductive RuleDefinition.Treats (d : RuleDefinition) (what : Quantity) (site : Site) : Prop
  | passes (hsilent : ∀ u config, site.reports u ⟨d, config⟩ = [])
      (h : ∀ n, ¬ what.Measures site n)
  | measures (n : Nat) (message : String) (happlies : d.appliesTo site.element = .ok true)
      (hcomplete : site.element.missing = []) (h : what.Measures site n)
      (hcheck : ∀ ctx, d.check site.element ctx =
        .ofExcept (Builtin.atMostOne (ctx.exceeds site.element message n what.option [])))

/-- It is enough to look at what a rule does with each site, since the evaluation adds nothing but
the order. -/
theorem RuleDefinition.measuring_of_treats (hoption : what.option ∈ d.defaults.thresholds.keys)
    (h : ∀ site, d.Treats what site) : d.Measuring [what] := by
  intro u config site hfits
  refine .single ?_
  cases h site with
  | passes hsilent hnone =>
    rw [hsilent]
    exact .unmeasured hnone
  | measures n message happlies hcomplete hmeasures hcheck =>
    obtain ⟨made, hmade, hjudges⟩ := @judges_exceeds u ⟨d, config⟩ site what n message []
      hmeasures (hfits.threshold_eq_ok hoption) (by simp [Context.NamesFree, keysOf])
    have hreports : site.reports u ⟨d, config⟩ = made.toList := by
      refine Site.reports_eq_of_result happlies hcomplete ?_
      unfold Site.checkRun
      rw [hcheck, hmade]
      rfl
    rw [hreports]
    exact hjudges

/-- A rule that does not apply to a site is silent there. -/
theorem RuleDefinition.Treats.idle (happlies : d.appliesTo site.element = .ok false)
    (h : ∀ n, ¬ what.Measures site n) : d.Treats what site :=
  .passes (fun _ _ => Site.reports_eq_nil happlies) h

namespace Builtin

open RuleDefinition

theorem measuring_maxIndentationDepth : maxIndentationDepth.Measuring [.nestingDepth] := by
  refine measuring_of_treats (by decide) fun site => ?_
  cases site with
  | method t m =>
    exact .measures m.maxNestingDepth _ rfl rfl (.nestingDepth m.greatestDepth_maxNestingDepth)
      fun _ => rfl
  | _ => exact .idle rfl (by rintro n ⟨⟩)

theorem measuring_maxMethodSize : maxMethodSize.Measuring [.statements] := by
  refine measuring_of_treats (by decide) fun site => ?_
  cases site with
  | method t m =>
    have hmeasures : Quantity.Measures .statements (.method t m) m.statementCount := by
      rw [m.statementCount_eq]
      exact .statements
    exact .measures m.statementCount _ rfl rfl hmeasures fun _ => rfl
  | _ => exact .idle rfl (by rintro n ⟨⟩)

theorem measuring_maxInstanceVariables :
    maxInstanceVariables.Measuring [.instanceVariables] := by
  refine measuring_of_treats (by decide) fun site => ?_
  cases site with
  | type t => exact .measures _ _ rfl rfl .instanceVariables fun _ => rfl
  | _ => exact .idle rfl (by rintro n ⟨⟩)

theorem measuring_maxInterfaceMethods : maxInterfaceMethods.Measuring [.interfaceMethods] := by
  refine measuring_of_treats (by decide) fun site => ?_
  cases site with
  | type t =>
    by_cases hkind : t.kind = .interface
    · exact .measures t.methods.length _ (congrArg Except.ok (decide_eq_true hkind)) rfl
        (.interfaceMethods hkind) fun _ => rfl
    · refine .idle (congrArg Except.ok (decide_eq_false hkind)) ?_
      intro n hmeasures
      cases hmeasures with
      | interfaceMethods h => exact hkind h
  | _ => exact .idle rfl (by rintro n ⟨⟩)

/-- A chain whose target is unknown is not on a builder. -/
theorem getD_isBuilder_iff {s : Statement} :
    (s.callTarget.map TypeReference.isBuilder).getD false = true ↔ s.OnBuilder := by
  unfold Statement.OnBuilder
  cases s.callTarget <;> simp

/-- The check of a chain, where its length is known. -/
theorem checkCallChain_eq {s : Statement} {length : Nat} (hlength : s.callChainLength = some length)
    (hbuilder : ¬ s.OnBuilder) (ctx : Context) :
    checkCallChain s ctx = atMostOne (ctx.exceeds (.statement s) "Call chain is too long" length
      Quantity.callChain.option []) := by
  unfold checkCallChain
  rw [if_neg (mt getD_isBuilder_iff.mp hbuilder), hlength]
  rfl

/-- A call is passed over if it is made on a builder, and is not checked if its length was left
out. -/
theorem measuring_maxCallChain : maxCallChain.Measuring [.callChain] := by
  refine measuring_of_treats (by decide) fun site => ?_
  cases site with
  | statement t m s =>
    by_cases hkind : s.kind = .methodCall
    · have happlies : maxCallChain.appliesTo (.statement s) = .ok true :=
        congrArg Except.ok (decide_eq_true hkind)
      cases hlength : s.callChainLength with
      | none =>
        have hmissing : s.missing ≠ [] := by simp [Statement.missing, hkind, hlength]
        refine .passes (fun _ _ => Site.reports_of_incomplete hmissing) fun n hmeasures => ?_
        cases hmeasures with
        | callChain _ _ h => simp [hlength] at h
      | some length =>
        have hcomplete : s.missing = [] := by simp [Statement.missing, hlength]
        -- a chain on a builder is not measured, and the check passes it
        by_cases hbuilder : s.OnBuilder
        · refine .passes (fun _ _ => ?_) fun n hmeasures => ?_
          · refine Site.reports_eq_of_result happlies hcomplete ?_
            exact congrArg CheckRun.ofExcept (if_pos (getD_isBuilder_iff.mpr hbuilder))
          · cases hmeasures with
            | callChain _ h _ => exact h hbuilder
        · exact .measures length "Call chain is too long" happlies hcomplete
            (.callChain hkind hbuilder hlength) fun ctx =>
              congrArg CheckRun.ofExcept (checkCallChain_eq hlength hbuilder ctx)
    · refine .idle (congrArg Except.ok (decide_eq_false hkind)) fun n hmeasures => ?_
      cases hmeasures with
      | callChain h _ _ => exact hkind h
  | _ => exact .idle rfl (by rintro n ⟨⟩)

/-- A type is always complete, so what the check returns is what is reported. -/
theorem reports_maxClassSize {t : TypeDeclaration} {found : List Finding}
    (h : checkClassSize t (Site.context u ⟨maxClassSize, config⟩ (.type t)) = .ok found) :
    Site.reports u ⟨maxClassSize, config⟩ (.type t) = found :=
  Site.reports_eq_of_result rfl rfl (congrArg CheckRun.ofExcept h)

/-- The two quantities of a type are judged one after the other. -/
theorem measuring_maxClassSize : maxClassSize.Measuring [.methods, .lines] := by
  intro u config site hfits
  cases site with
  | type t =>
    obtain ⟨first, hfirst, hmethods⟩ := @judges_exceeds u ⟨maxClassSize, config⟩ (.type t) .methods
      _ ("Type '" ++ t.name ++ "' has too many methods") [("metric", .text "methods")] .methods
      (hfits.threshold_eq_ok (by decide)) (by simp [Context.NamesFree, keysOf, Context.callNames])
    -- the lines are measured only where the type has a span
    cases hspan : t.lineSpan with
    | none =>
      have hchecked : checkClassSize t (Site.context u ⟨maxClassSize, config⟩ (.type t)) =
          .ok first.toList := by
        unfold checkClassSize
        rw [hspan]
        exact bind_ok_iff.mpr ⟨first, hfirst, rfl⟩
      have hlines : Judges u ⟨maxClassSize, config⟩ .lines (.type t) [] := by
        refine .unmeasured fun n hmeasures => ?_
        cases hmeasures with
        | lines h => simp [hspan] at h
      rw [reports_maxClassSize hchecked]
      exact ⟨[first.toList, []], .cons hmethods (.cons hlines .nil), by simp⟩
    | some span =>
      obtain ⟨second, hsecond, hlines⟩ := @judges_exceeds u ⟨maxClassSize, config⟩ (.type t) .lines
        span ("Type '" ++ t.name ++ "' spans too many lines")
        [("metric", .text "lines"), ("profile", Value.ofText? config.profile)] (.lines hspan)
        (hfits.threshold_eq_ok (by decide)) (by simp [Context.NamesFree, keysOf, Context.callNames])
      have hchecked : checkClassSize t (Site.context u ⟨maxClassSize, config⟩ (.type t)) =
          .ok (first.toList ++ second.toList) := by
        unfold checkClassSize
        rw [hspan]
        exact bind_ok_iff.mpr ⟨first, hfirst, bind_ok_iff.mpr ⟨second, hsecond, rfl⟩⟩
      rw [reports_maxClassSize hchecked]
      exact ⟨[first.toList, second.toList], .cons hmethods (.cons hlines .nil), by simp⟩
  | _ =>
    refine ⟨[[], []], .cons (.unmeasured (by rintro n ⟨⟩))
      (.cons (.unmeasured (by rintro n ⟨⟩)) .nil), ?_⟩
    exact Site.reports_eq_nil rfl

/-- The rules that measure, each with what it measures. -/
def measuringRules : List (RuleDefinition × List Quantity) :=
  [(maxIndentationDepth, [.nestingDepth]), (maxMethodSize, [.statements]),
    (maxClassSize, [.methods, .lines]), (maxInstanceVariables, [.instanceVariables]),
    (maxInterfaceMethods, [.interfaceMethods]), (maxCallChain, [.callChain])]

/-- **Every measuring rule** is built in, and judged by its quantities. -/
theorem measuring_of_mem {quantities : List Quantity} (h : (d, quantities) ∈ measuringRules) :
    d ∈ builtinRules ∧ d.Measuring quantities := by
  unfold measuringRules at h
  simp only [List.mem_cons, Prod.mk.injEq, List.not_mem_nil, or_false] at h
  rcases h with ⟨rfl, rfl⟩ | ⟨rfl, rfl⟩ | ⟨rfl, rfl⟩ | ⟨rfl, rfl⟩ | ⟨rfl, rfl⟩ | ⟨rfl, rfl⟩
  · exact ⟨by simp [builtinRules], measuring_maxIndentationDepth⟩
  · exact ⟨by simp [builtinRules], measuring_maxMethodSize⟩
  · exact ⟨by simp [builtinRules], measuring_maxClassSize⟩
  · exact ⟨by simp [builtinRules], measuring_maxInstanceVariables⟩
  · exact ⟨by simp [builtinRules], measuring_maxInterfaceMethods⟩
  · exact ⟨by simp [builtinRules], measuring_maxCallChain⟩

/-! ## 4. The rule on names -/

/-- The test on characters says what is meant: there are letters, and none of them is a vowel. -/
theorem isAllConsonant_iff {name : String} : isAllConsonant name = true ↔ AllConsonant name := by
  unfold isAllConsonant AllConsonant
  simp only [Bool.and_eq_true, Bool.not_eq_true', List.isEmpty_eq_false_iff_exists_mem,
    List.mem_filter, List.all_eq_true, and_imp]

/-- **The check of a name.** A name that is too short is reported for this, and not for its letters
as well. -/
theorem judgesName_checkName {name : String} (kind : String) (hname : site.name? = some name)
    (hcomplete : site.element.missing = [])
    (hlimit : ∃ limit, rule.config.threshold "min_length" = .ok limit) :
    ∃ found, checkName kind name site.element (site.context u rule) = .ok found ∧
      JudgesName u rule site found := by
  obtain ⟨limit, hlimit⟩ := hlimit
  have hat := Site.context_at u rule site
  unfold checkName
  rw [show (site.context u rule).config.threshold "min_length" = .ok limit from hlimit]
  show ∃ found, (if name.length < limit then _ else _) = _ ∧ _
  split
  · rename_i hshort
    refine ⟨_, bind_ok_iff.mpr ⟨_, Context.finding_eq_ok hat (by simp)
      (by simp [Context.NamesFree, keysOf, Context.callNames]), rfl⟩, ?_⟩
    exact .short name limit hcomplete hname hlimit hshort _ (site.signed_context u rule _ _) rfl rfl
      rfl
  · rename_i hlong
    split
    · rename_i hletters
      refine ⟨_, bind_ok_iff.mpr ⟨_, Context.finding_eq_ok hat (by simp)
        (by simp [Context.NamesFree, keysOf, Context.callNames]), rfl⟩, ?_⟩
      exact .consonants name limit hcomplete hname hlimit (by omega)
        (isAllConsonant_iff.mp hletters) _ (site.signed_context u rule _ _) rfl
    · rename_i hletters
      exact ⟨[], rfl, .accepted name limit hcomplete hname hlimit (by omega)
        fun h => hletters (isAllConsonant_iff.mpr h)⟩

/-- The rule on names looks at the names of types, fields and methods. -/
theorem judgesName_noAbbreviation (u : SourceUnit) (hfits : config.Fits noAbbreviation)
    (site : Site) : JudgesName u ⟨noAbbreviation, config⟩ site
      (site.reports u ⟨noAbbreviation, config⟩) := by
  have hlimit := hfits.threshold_eq_ok (show "min_length" ∈ _ by decide)
  by_cases hcomplete : site.element.missing = []
  · have hnamed : ∀ kind name, site.name? = some name →
        noAbbreviation.appliesTo site.element = .ok true →
        site.checkRun u ⟨noAbbreviation, config⟩ = .ofExcept
          (checkName kind name site.element (site.context u ⟨noAbbreviation, config⟩)) →
        JudgesName u ⟨noAbbreviation, config⟩ site (site.reports u ⟨noAbbreviation, config⟩) := by
      intro kind name hname happlies hrun
      obtain ⟨found, hfound, hjudges⟩ :=
        @judgesName_checkName u ⟨noAbbreviation, config⟩ site name kind hname hcomplete hlimit
      rw [hfound] at hrun
      rw [Site.reports_eq_of_result happlies hcomplete hrun]
      exact hjudges
    cases site with
    | type t => exact hnamed "Type" t.name rfl rfl rfl
    | field t f => exact hnamed "Field" f.name rfl rfl rfl
    | method t m => exact hnamed "Method" m.name rfl rfl rfl
    | _ =>
      -- parameters, statements and the unit itself are not the names this rule reads
      rw [Site.reports_eq_nil rfl]
      exact .unnamed rfl
  · rw [Site.reports_of_incomplete hcomplete]
    exact .incomplete hcomplete

end Builtin

/-! ## 5. Every registry and every unit -/

/-- What is left in an evaluation of the findings of one rule: nothing if the rule is disabled, and
otherwise its verdicts at the sites of the unit, sorted. -/
structure SourceUnit.Judged (u : SourceUnit) (config : RuleConfig)
    (judges : Site → List Finding → Prop) (found : List Finding) : Prop where
  disabled : config.enabled = false → found = []
  enabled : config.enabled = true → ∃ sites verdicts, u.Visits sites ∧
    List.Forall₂ judges sites verdicts ∧ IsStableSort verdicts.flatten found

/-- From sites to the unit: a rule that is switched off, or a unit without a layer, has no findings
of the rule. -/
theorem SourceUnit.judged_of_reports {judges : Site → List Finding → Prop} (hlayer : u.layer ≠ none)
    (h : ∀ site, judges site (site.reports u rule)) :
    u.Judged config judges (if config.enabled = true ∧ u.layer ≠ none then
      sortFindings (u.sites.flatMap (Site.reports u rule)) else []) where
  disabled hdisabled := if_neg (by simp [hdisabled])
  enabled henabled := by
    rw [if_pos ⟨henabled, hlayer⟩]
    refine ⟨u.sites, u.sites.map (Site.reports u rule), visits_iff.mpr rfl, ?_, ?_⟩
    · rw [List.forall₂_map_right_iff, List.forall₂_same]
      exact fun site _ => h site
    · rw [isStableSort_iff, List.flatMap_def]

namespace Registry

/-- **Measurements are exact, and thresholds are current.** Take the registry of the built-in rules
after any calls, which may register rules that sign their findings with their own identifiers, and
any unit that has a layer. A snapshot and an evaluation without a time budget succeed. For each of
the rules that measure, what is found by it are its verdicts under the configuration that the
registry holds: at each site in turn, and for each of its quantities, one finding if the quantity
is there and above the threshold, and otherwise none. The rule on names makes at most one finding
per name: it is shorter than the threshold, or else it has letters and no vowel among them. -/
theorem measurements_exact {start : Registry} (hstart : ofDefinitions builtinRules = .ok start)
    {calls : List RegistryCall} (hcalls : ∀ c ∈ calls, c.UsesContext) {u : SourceUnit}
    (hlayer : u.layer ≠ none) (clock : Clock) :
    ∃ rules result, (start.afterAll calls).snapshot = .ok rules ∧
      Evaluator.evaluate ⟨none⟩ u rules clock = .ok result ∧
      (∀ d quantities, (d, quantities) ∈ Builtin.measuringRules →
        ∃ config, (start.afterAll calls).config d.ruleId = .ok config ∧
          u.Judged config (JudgesAll u ⟨d, config⟩ quantities)
            (result.findings.filter (·.ruleId = d.ruleId))) ∧
      ∃ config, (start.afterAll calls).config Builtin.noAbbreviation.ruleId = .ok config ∧
        u.Judged config (JudgesName u ⟨Builtin.noAbbreviation, config⟩)
          (result.findings.filter (·.ruleId = Builtin.noAbbreviation.ruleId)) := by
  obtain rfl : start = builtin := Except.ok.inj (hstart.symm.trans ofDefinitions_builtinRules)
  obtain ⟨rules, hsnapshot, hreports⟩ := reports_of_builtin hcalls
  refine ⟨rules, u.evaluation rules, hsnapshot, evaluate_unbounded u rules clock,
    fun d quantities hd => ?_, ?_⟩
  · obtain ⟨hbuiltin, hmeasuring⟩ := Builtin.measuring_of_mem hd
    obtain ⟨config, hconfig, hfits, hselected⟩ := hreports d hbuiltin
    refine ⟨config, hconfig, ?_⟩
    have hjudged : u.Judged config (JudgesAll u ⟨d, config⟩ quantities) _ :=
      SourceUnit.judged_of_reports hlayer fun site => hmeasuring u config site hfits
    rw [← hselected u] at hjudged
    exact hjudged
  · obtain ⟨config, hconfig, hfits, hselected⟩ :=
      hreports Builtin.noAbbreviation (by simp [builtinRules])
    refine ⟨config, hconfig, ?_⟩
    have hjudged : u.Judged config (JudgesName u ⟨Builtin.noAbbreviation, config⟩) _ :=
      SourceUnit.judged_of_reports hlayer (Builtin.judgesName_noAbbreviation u hfits)
    rw [← hselected u] at hjudged
    exact hjudged

theorem measurements_exact_sample :
    ofDefinitions builtinRules = .ok builtin ∧ (∀ c ∈ sampleConfiguration, c.UsesContext) ∧
      tangledUnit.layer ≠ none ∧
      ∃ rules config result, (builtin.afterAll sampleConfiguration).snapshot = .ok rules ∧
        (builtin.afterAll sampleConfiguration).config Builtin.noAbbreviation.ruleId = .ok config ∧
        config.enabled = true ∧ config.threshold "min_length" = .ok 9 ∧
        Evaluator.evaluate ⟨none⟩ tangledUnit rules (fun _ => .whole 0) = .ok result ∧
        ∃ sites verdicts, tangledUnit.Visits sites ∧
          List.Forall₂ (JudgesName tangledUnit ⟨Builtin.noAbbreviation, config⟩) sites verdicts ∧
          IsStableSort verdicts.flatten
            (result.findings.filter (·.ruleId = Builtin.noAbbreviation.ruleId)) := by
  have hcalls : ∀ c ∈ sampleConfiguration, c.UsesContext := by
    simp [sampleConfiguration, RegistryCall.UsesContext]
  have hlayer : tangledUnit.layer ≠ none := by simp [tangledUnit]
  obtain ⟨rules, result, hsnapshot, hresult, -, config, hconfig, hjudged⟩ :=
    measurements_exact ofDefinitions_builtinRules hcalls hlayer fun _ => .whole 0
  have hnow : ((builtin.afterAll sampleConfiguration).config Builtin.noAbbreviation.ruleId).map
      (fun c => (c.enabled, c.threshold "min_length")) = .ok (true, .ok 9) := by rfl
  rw [hconfig] at hnow
  obtain ⟨henabled, hthreshold⟩ := Prod.mk.inj (Except.ok.inj hnow)
  exact ⟨ofDefinitions_builtinRules, hcalls, hlayer, rules, config, result, hsnapshot, hconfig,
    henabled, hthreshold, hresult, hjudged.enabled henabled⟩

end Registry

end Conformance
