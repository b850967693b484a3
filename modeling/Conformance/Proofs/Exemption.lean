import Conformance.Proofs.Runs

/-!
# Exempt types are invisible

A type that is exempt is not visited, and neither is anything in it. That alone does not make it
invisible: a rule could look at all types of the unit from any other element, or report on an
element that it was not called on. A rule that does neither is called **local**, and local rules
cannot tell a unit from the same unit without its exempt types.

* The first part says what it means that units, elements and sites are alike, and that local rules
  do not tell them apart.
* The second shows that the built-in rules are local. They are made of a few calls of their
  context, and each of these is local.
* The third compares the two units: they have the same sites, one by one alike, so that the same
  outcomes are found, the same clock readings are taken and the same deadline is missed.
* The last says where findings of local rules stand: in types that were visited, whose names no
  exempt type can have.
-/

set_option autoImplicit false

namespace Conformance

/-! ## 1. Units that differ in their types -/

/-- Units that differ in their types at most. -/
structure SourceUnit.Alike (u v : SourceUnit) : Prop where
  path : v.path = u.path
  layer : v.layer = u.layer

/-- The same element, or units that differ in their types at most. -/
inductive Element.Alike : Element → Element → Prop
  | unit {u v : SourceUnit} (h : u.Alike v) : Alike (.unit u) (.unit v)
  | same (e : Element) : Alike e e

/-- A check that looks at the types of the unit neither in its context nor in its element, and
makes its findings at its element. -/
structure Check.Local (check : Check) : Prop where
  blind : ∀ {a b : Element} {ctx : Context} {v : SourceUnit}, a.Alike b → ctx.unit.Alike v →
    check b { ctx with unit := v } = check a ctx
  reports : ∀ {element : Element} {ctx : Context} {f : Finding},
    f ∈ (check element ctx).findings → ctx.Makes element f

/-- A predicate that does not look at the types of a unit. -/
def Predicate.Blind (p : Predicate) : Prop := ∀ a b : Element, a.Alike b → p b = p a

/-- A rule whose predicate does not look at the types of a unit and whose check is local. -/
structure RuleDefinition.Local (d : RuleDefinition) : Prop where
  appliesTo : d.appliesTo.Blind
  check : Check.Local d.check

/-- Units that are alike have one layer, so the front end left out the same of both. -/
theorem SourceUnit.Alike.missing {u v : SourceUnit} (h : u.Alike v) : v.missing = u.missing := by
  unfold SourceUnit.missing
  rw [h.layer]

/-- The same for elements, of which only units differ at all. -/
theorem Element.Alike.missing {a b : Element} (h : a.Alike b) : b.missing = a.missing := by
  cases h with
  | unit h => exact h.missing
  | same e => rfl

namespace Site

/-- The same site, or units that differ in their types at most. -/
inductive Alike : Site → Site → Prop
  | unit {u v : SourceUnit} (h : u.Alike v) : Alike (.unit u) (.unit v)
  | same (site : Site) : Alike site site

variable {u v : SourceUnit} {a b : Site} {rule : ConfiguredRule} {rules : List ConfiguredRule}

theorem Alike.element (h : a.Alike b) : a.element.Alike b.element := by
  cases h with
  | unit h => exact .unit h
  | same site => exact .same _

/-- A site of a unit has no line, so units that differ do not differ in where they stand. -/
theorem Alike.location (h : a.Alike b) (path : SourcePath) : b.location path = a.location path := by
  cases h <;> rfl

/-- A check is given the same at both sites, but for the unit. -/
theorem Alike.context (h : a.Alike b) (rule : ConfiguredRule) :
    b.context v rule = { a.context u rule with unit := v } := by
  cases h <;> rfl

/-- Remarks of the evaluation say the same of both sites. -/
theorem Alike.note (hu : u.Alike v) (h : a.Alike b) (id message : String) (payload : Payload) :
    b.note v.path id message payload = a.note u.path id message payload := by
  unfold Site.note
  rw [hu.path, h.location]

theorem Alike.faultNote (hu : u.Alike v) (h : a.Alike b) (e : Error) :
    b.faultNote v.path rule e = a.faultNote u.path rule e :=
  h.note hu ..

/-- A local rule applies to both sites or to none. -/
theorem Alike.applies (h : a.Alike b) (hrule : rule.definition.Local) :
    b.applies rule = a.applies rule := by
  unfold Site.applies
  rw [hrule.appliesTo _ _ h.element]

/-- And its predicate fails on both or on none, with one remark. -/
theorem Alike.predicateFault? (hu : u.Alike v) (h : a.Alike b) (hrule : rule.definition.Local) :
    b.predicateFault? v.path rule = a.predicateFault? u.path rule := by
  unfold Site.predicateFault?
  rw [hrule.appliesTo _ _ h.element]
  simp only [h.faultNote hu]

/-- A check that is local runs in the same way in both units. -/
theorem Alike.checkRun (hu : u.Alike v) (h : a.Alike b) (hrule : rule.definition.Local) :
    b.checkRun v rule = a.checkRun u rule := by
  unfold Site.checkRun
  rw [h.context]
  exact hrule.check.blind h.element hu

theorem Alike.checkFindings (hu : u.Alike v) (h : a.Alike b) (hrule : rule.definition.Local) :
    b.checkFindings v rule = a.checkFindings u rule := by
  unfold Site.checkFindings
  rw [h.checkRun hu hrule]
  simp only [h.faultNote hu]

/-- **One site.** Local rules have the same outcome at sites that are alike. -/
theorem Alike.visit (hu : u.Alike v) (h : a.Alike b)
    (hrules : ∀ rule ∈ rules, rule.definition.Local) : b.visit v rules = a.visit u rules := by
  have hfaults : rules.filterMap (b.predicateFault? v.path) =
      rules.filterMap (a.predicateFault? u.path) :=
    List.filterMap_congr fun rule hrule => h.predicateFault? hu (hrules rule hrule)
  have happlicable : rules.filter b.applies = rules.filter a.applies :=
    List.filter_congr fun rule hrule => h.applies (hrules rule hrule)
  have hlocal : ∀ rule ∈ rules.filter a.applies, rule.definition.Local :=
    fun rule hrule => hrules rule (List.mem_filter.mp hrule).1
  have hchecks : (rules.filter a.applies).flatMap (b.checkFindings v) =
      (rules.filter a.applies).flatMap (a.checkFindings u) :=
    List.flatMap_congr fun rule hrule => h.checkFindings hu (hlocal rule hrule)
  have hcancels : ((rules.filter a.applies).any fun rule => (b.checkRun v rule).cancels) =
      (rules.filter a.applies).any fun rule => (a.checkRun u rule).cancels := by
    rw [Bool.eq_iff_iff, List.any_eq_true, List.any_eq_true]
    refine exists_congr fun rule => and_congr_right fun hrule => ?_
    rw [h.checkRun hu (hlocal rule hrule)]
  -- the four readings above are all that a visit is made of
  unfold Site.visit Site.incompleteNote
  dsimp only
  rw [hfaults, happlicable, hchecks, hcancels, h.element.missing]
  simp only [h.note hu]

end Site

/-! ## 2. The built-in rules are local -/

namespace Context

variable {ctx : Context} {v : SourceUnit}

/-- The calls of a context look at the unit for its path only. -/
theorem locationFor_alike (h : ctx.unit.Alike v) {a b : Element} (helement : a.Alike b) :
    ({ ctx with unit := v } : Context).locationFor b = ctx.locationFor a := by
  unfold locationFor owningMethod
  rw [h.path]
  cases helement <;> rfl

/-- The plain call makes the same finding in units that are alike. -/
theorem finding_alike (h : ctx.unit.Alike v) {a b : Element} (helement : a.Alike b)
    (message : String) (payload : Payload) :
    ({ ctx with unit := v } : Context).finding b message payload =
      ctx.finding a message payload := by
  unfold finding
  rw [locationFor_alike h helement]

/-- So does the measuring call, which looks at the configuration before it makes its finding. -/
theorem exceeds_alike (h : ctx.unit.Alike v) {a b : Element} (helement : a.Alike b)
    (message : String) (measured : Int) (option : String) (extra : Payload) :
    ({ ctx with unit := v } : Context).exceeds b message measured option extra =
      ctx.exceeds a message measured option extra := by
  unfold exceeds
  simp only [finding_alike h helement]

end Context

/-- A result of a context that does not depend on the types of its unit, and whose findings were
made at the element. -/
structure LocalAt (element : Element) (result : Context → Except Error (List Finding)) : Prop where
  blind : ∀ {ctx : Context} {v : SourceUnit}, ctx.unit.Alike v →
    result { ctx with unit := v } = result ctx
  reports : ∀ {ctx : Context} {findings : List Finding}, result ctx = .ok findings →
    ∀ f ∈ findings, ctx.Makes element f

namespace LocalAt

variable {element : Element}

theorem nil : LocalAt element fun _ => .ok [] where
  blind := fun _ => rfl
  reports := by
    intro ctx findings h f hf
    rw [← Except.ok.inj h] at hf
    exact absurd hf List.not_mem_nil

/-- A failure that has nothing to do with the context. -/
theorem error (e : Error) : LocalAt element fun _ => .error e where
  blind := fun _ => rfl
  reports := fun h => absurd h (by simp)

theorem finding (message : String) (payload : Payload) :
    LocalAt element fun ctx => do
      let f ← ctx.finding element message payload
      return [f] where
  blind := fun h => by simp only [Context.finding_alike h (.same element)]
  reports := by
    intro ctx findings h f hf
    obtain ⟨made, hmade, hreturned⟩ := bind_ok_iff.mp h
    rw [← Except.ok.inj hreturned, List.mem_singleton] at hf
    exact .finding message payload (hf ▸ hmade)

theorem exceeds (message : String) (measured : Int) (option : String) (extra : Payload) :
    LocalAt element fun ctx =>
      Builtin.atMostOne (ctx.exceeds element message measured option extra) where
  blind := fun h => by simp only [Context.exceeds_alike h (.same element)]
  reports := by
    intro ctx findings h f hf
    obtain ⟨made, hmade, hreturned⟩ := bind_ok_iff.mp h
    rw [← Except.ok.inj hreturned, Option.mem_toList] at hf
    exact .exceeds message option measured extra (hf ▸ hmade)

theorem ite {p : Prop} [Decidable p] {first second : Context → Except Error (List Finding)}
    (hfirst : LocalAt element first) (hsecond : LocalAt element second) :
    LocalAt element fun ctx => if p then first ctx else second ctx := by
  by_cases hp : p
  · simpa only [if_pos hp] using hfirst
  · simpa only [if_neg hp] using hsecond

/-- One result after the other. The second is not looked at if the first fails, and it fails in the
same way for all units that are alike. -/
theorem append {first second : Context → Except Error (List Finding)}
    (hfirst : LocalAt element first) (hsecond : LocalAt element second) :
    LocalAt element fun ctx => do
      let some_ ← first ctx
      let more ← second ctx
      return some_ ++ more where
  blind := fun h => by simp only [hfirst.blind h, hsecond.blind h]
  reports := by
    intro ctx findings h f hf
    obtain ⟨some_, hsome, h⟩ := bind_ok_iff.mp h
    obtain ⟨more, hmore, h⟩ := bind_ok_iff.mp h
    rw [← Except.ok.inj h, List.mem_append] at hf
    rcases hf with hf | hf
    · exact hfirst.reports hsome f hf
    · exact hsecond.reports hmore f hf

/-- A result may depend on the configuration in any way, since no unit is in it: it is enough that
it is local under each configuration. -/
theorem ofConfig {result : Context → Except Error (List Finding)}
    (h : ∀ config, ∃ fixed, LocalAt element fixed ∧
      ∀ ctx : Context, ctx.config = config → result ctx = fixed ctx) : LocalAt element result where
  blind := by
    intro ctx v hv
    obtain ⟨fixed, hlocal, heq⟩ := h ctx.config
    rw [heq ctx rfl, heq { ctx with unit := v } rfl, hlocal.blind hv]
  reports := by
    intro ctx findings hmade
    obtain ⟨fixed, hlocal, heq⟩ := h ctx.config
    rw [heq ctx rfl] at hmade
    exact hlocal.reports hmade

/-- What a check has to say about an element that is not for it depends on no context. -/
theorem lacking (parts : List Part) :
    LocalAt element fun _ => do
      element.checkParts parts
      return [] := by
  cases element.checkParts parts with
  | ok _ => exact nil
  | error e => exact error e

end LocalAt

namespace Check

/-- **Element by element.** A check is local if it works out a local result for every element, and
the same for all units. -/
theorem Local.of_results {check : Check}
    (hunits : ∀ (u v : SourceUnit) (ctx : Context), check (.unit v) ctx = check (.unit u) ctx)
    (hresults : ∀ element, ∃ result, LocalAt element result ∧
      ∀ ctx, check element ctx = .ofExcept (result ctx)) : check.Local where
  blind := by
    intro a b ctx v halike hv
    obtain ⟨result, hlocal, hrun⟩ := hresults a
    -- alike elements are equal, unless both are units
    have hsame : check b { ctx with unit := v } = check a { ctx with unit := v } := by
      cases halike with
      | unit h => exact hunits _ _ _
      | same e => rfl
    rw [hsame, hrun, hrun, hlocal.blind hv]
  reports := by
    intro element ctx f hf
    obtain ⟨result, hlocal, hrun⟩ := hresults element
    rw [hrun] at hf
    cases hmade : result ctx with
    | ok findings =>
      rw [hmade] at hf
      exact hlocal.reports hmade f hf
    | error e =>
      rw [hmade] at hf
      exact absurd hf List.not_mem_nil

/-- A check of the elements of a form is local if it works out a local result for each of them: on
an element of another form it depends on no context, and all units are of another form. -/
theorem local_ofForm {α : Type} {form : Element.Form α} {parts : List Part}
    {f : α → Context → Except Error (List Finding)} (h : ∀ a, LocalAt (form.make a) (f a)) :
    (ofForm form parts f).Local := by
  refine Local.of_results (fun u v ctx => ?_) fun element => ?_
  · have hunit : ∀ w : SourceUnit, form.get? (.unit w) = none :=
      fun w => form.get?_eq_none_iff.mpr (Ne.symm form.kind_ne_unit)
    rw [ofForm_of_none (hunit u), ofForm_of_none (hunit v)]
    rfl
  · cases hget : form.get? element with
    | none => exact ⟨_, LocalAt.lacking parts, fun _ => ofForm_of_none hget⟩
    | some a =>
      obtain rfl := form.eq_make_of_get? hget
      exact ⟨f a, h a, fun _ => ofForm_of_some hget⟩

/-- The layer is the same in units that are alike. -/
theorem Local.inDomain {check : Check} (h : check.Local) : (Check.inDomain check).Local where
  blind := by
    intro a b ctx v halike hv
    unfold Check.inDomain Context.layer
    dsimp only
    rw [hv.layer, h.blind halike hv]
  reports := by
    intro element ctx f hf
    unfold Check.inDomain at hf
    split at hf
    · exact h.reports hf
    · exact absurd hf List.not_mem_nil

end Check

/-- A check made of steps is local: each step is one call of the context at the element. -/
theorem CheckStep.local_toCheck (steps : List CheckStep) : (toCheck steps).Local where
  blind := by
    intro a b ctx v helement hv
    unfold toCheck
    induction steps with
    | nil => rfl
    | cons step rest ih =>
      have hstep : step.findings b { ctx with unit := v } = step.findings a ctx := by
        cases step with
        | report message payload =>
          simp only [CheckStep.findings, Context.finding_alike hv helement]
        | exceeds message measured option payload =>
          simp only [CheckStep.findings, Context.exceeds_alike hv helement]
        | fail cause => rfl
        | cancel => rfl
      simp only [CheckStep.run, hstep, ih]
  reports := makes_of_mem_run

namespace Predicate

/-- No predicate of the built-in rules tells one unit from another. -/
theorem Blind.of_units {p : Predicate} (h : ∀ u v : SourceUnit, p (.unit v) = p (.unit u)) :
    p.Blind := by
  intro a b halike
  cases halike with
  | unit _ => exact h _ _
  | same e => rfl

/-- The predicates of the built-in rules ask for kinds, and all units are of one kind. -/
theorem blind_kindIn (kinds : List ElementKind) : (kindIn kinds).Blind :=
  Blind.of_units fun _ _ => rfl

theorem blind_ofStatementKind (kind : StatementKind) : (ofStatementKind kind).Blind :=
  Blind.of_units fun _ _ => rfl

theorem blind_ofTypeKind (kind : TypeKind) : (ofTypeKind kind).Blind :=
  Blind.of_units fun _ _ => rfl

end Predicate

namespace Builtin

theorem local_maxIndentationDepth : maxIndentationDepth.Local :=
  ⟨Predicate.blind_kindIn _, Check.local_ofForm fun _ => LocalAt.exceeds _ _ _ _⟩

theorem local_maxMethodSize : maxMethodSize.Local :=
  ⟨Predicate.blind_kindIn _, Check.local_ofForm fun _ => LocalAt.exceeds _ _ _ _⟩

theorem local_maxInstanceVariables : maxInstanceVariables.Local :=
  ⟨Predicate.blind_kindIn _, Check.local_ofForm fun _ => LocalAt.exceeds _ _ _ _⟩

theorem local_maxInterfaceMethods : maxInterfaceMethods.Local :=
  ⟨Predicate.blind_ofTypeKind _, Check.local_ofForm fun _ => LocalAt.exceeds _ _ _ _⟩

theorem local_maxCallChain : maxCallChain.Local := by
  refine ⟨Predicate.blind_ofStatementKind _, Check.local_ofForm fun s => ?_⟩
  refine LocalAt.ite LocalAt.nil ?_
  cases s.callChainLength with
  | none => exact LocalAt.error _
  | some length => exact LocalAt.exceeds _ _ _ _

theorem local_noElseBranch : noElseBranch.Local := by
  refine ⟨Predicate.blind_ofStatementKind _, Check.local_ofForm fun s => ?_⟩
  refine LocalAt.ite ?_ LocalAt.nil
  cases s.elseBranches with
  | nil => exact LocalAt.error _
  | cons branch rest => exact LocalAt.finding _ _

theorem local_noAccessorMethods : noAccessorMethods.Local := by
  refine ⟨Predicate.blind_kindIn _, Check.Local.inDomain (Check.local_ofForm fun m => ?_)⟩
  exact LocalAt.ite (LocalAt.finding _ _) LocalAt.nil

theorem local_layeredDependency : layeredDependency.Local := by
  refine ⟨Predicate.blind_kindIn _, Check.Local.inDomain (Check.local_ofForm fun t => ?_)⟩
  exact LocalAt.ite LocalAt.nil (LocalAt.finding _ _)

theorem local_maxClassSize : maxClassSize.Local := by
  refine ⟨Predicate.blind_kindIn _, Check.local_ofForm fun t => LocalAt.ofConfig fun config => ?_⟩
  have hmethods := @LocalAt.exceeds (.type t) ("Type '" ++ t.name ++ "' has too many methods")
    t.methods.length "max_methods" [("metric", .text "methods")]
  cases hspan : t.lineSpan with
  | none =>
    refine ⟨_, hmethods, fun ctx _ => ?_⟩
    unfold checkClassSize
    rw [hspan]
    rfl
  | some span =>
    -- the profile of the configuration is a detail of the second measurement
    have hlines := @LocalAt.exceeds (.type t) ("Type '" ++ t.name ++ "' spans too many lines")
      span "max_lines" [("metric", .text "lines"), ("profile", Value.ofText? config.profile)]
    refine ⟨_, hmethods.append hlines, fun ctx hconfig => ?_⟩
    unfold checkClassSize atMostOne
    rw [hspan, hconfig]
    simp only [bind_assoc, pure_bind]

/-- A name is judged by the configuration, so the configuration is fixed first. -/
theorem local_checkName (kind name : String) (element : Element) :
    LocalAt element (checkName kind name element) := by
  refine LocalAt.ofConfig fun config => ?_
  cases hleast : config.threshold "min_length" with
  | error e =>
    refine ⟨_, LocalAt.error e, fun ctx hconfig => ?_⟩
    unfold checkName
    rw [hconfig, hleast]
    rfl
  | ok least =>
    refine ⟨_, ?_, fun ctx hconfig => by unfold checkName; rw [hconfig, hleast]⟩
    exact LocalAt.ite (LocalAt.finding _ _) (LocalAt.ite (LocalAt.finding _ _) LocalAt.nil)

theorem local_noAbbreviation : noAbbreviation.Local := by
  refine ⟨Predicate.blind_kindIn _, Check.Local.of_results (fun _ _ _ => rfl) fun element => ?_⟩
  cases element with
  | type t => exact ⟨_, local_checkName "Type" t.name (.type t), fun _ => rfl⟩
  | method m => exact ⟨_, local_checkName "Method" m.name (.method m), fun _ => rfl⟩
  | field f => exact ⟨_, local_checkName "Field" f.name (.field f), fun _ => rfl⟩
  | parameter p => exact ⟨_, LocalAt.error _, fun _ => rfl⟩
  | _ => exact ⟨_, LocalAt.lacking [.name], fun _ => rfl⟩

theorem local_rawCollection (element : Element) (name : String) (type? : Option TypeReference) :
    LocalAt element (rawCollection element name type?) := by
  unfold rawCollection
  cases type?.filter (·.isCollection) with
  | none => exact LocalAt.nil
  | some r => exact LocalAt.finding _ _

theorem local_firstClassCollection : firstClassCollection.Local := by
  refine ⟨Predicate.blind_kindIn _,
    Check.Local.inDomain (Check.Local.of_results (fun _ _ _ => rfl) fun element => ?_)⟩
  cases element with
  | field f => exact ⟨_, local_rawCollection (.field f) f.name f.type?, fun _ => rfl⟩
  | parameter p => exact ⟨_, local_rawCollection (.parameter p) p.name p.type?, fun _ => rfl⟩
  | _ => exact ⟨_, LocalAt.lacking [.typeReference], fun _ => rfl⟩

theorem local_wrapPrimitives : wrapPrimitives.Local := by
  refine ⟨Predicate.blind_kindIn _,
    Check.Local.inDomain (Check.Local.of_results (fun _ _ _ => rfl) fun element => ?_)⟩
  cases element with
  | field f =>
    refine ⟨_, ?_, fun _ => rfl⟩
    cases f.type?.filter (·.isPrimitive) with
    | none => exact LocalAt.nil
    | some r => exact LocalAt.finding _ _
  | parameter p =>
    refine ⟨_, ?_, fun _ => rfl⟩
    cases p.type?.filter (·.isPrimitive) with
    | none => exact LocalAt.nil
    | some r => exact LocalAt.finding _ _
  | _ => exact ⟨_, LocalAt.lacking [.typeReference], fun _ => rfl⟩

/-- **All built-in rules are local**: none of them looks at more of a unit than its path and its
layer. -/
theorem local_of_mem_builtinRules {d : RuleDefinition} (h : d ∈ builtinRules) : d.Local := by
  cases isBuiltin_of_mem h with
  | maxIndentationDepth => exact local_maxIndentationDepth
  | noElseBranch => exact local_noElseBranch
  | wrapPrimitives => exact local_wrapPrimitives
  | firstClassCollection => exact local_firstClassCollection
  | maxCallChain => exact local_maxCallChain
  | noAbbreviation => exact local_noAbbreviation
  | maxClassSize => exact local_maxClassSize
  | maxInstanceVariables => exact local_maxInstanceVariables
  | noAccessorMethods => exact local_noAccessorMethods
  | layeredDependency => exact local_layeredDependency
  | maxInterfaceMethods => exact local_maxInterfaceMethods
  | maxMethodSize => exact local_maxMethodSize

end Builtin

/-! ## 3. The unit without its exempt types -/

namespace SourceUnit

variable {u v : SourceUnit} {rules : RuleSet}

/-- The unit without its exempt types. -/
def withoutExempt (u : SourceUnit) : SourceUnit :=
  { u with
    types := u.types.filter (!·.isExempt)
    types_nodup := u.types_nodup.sublist (List.filter_sublist.map _) }

/-- What is found at each site, in the order of the visit. -/
def outcomes (u : SourceUnit) (rules : List ConfiguredRule) : List Outcome :=
  u.sites.map fun site => site.visit u rules

/-- Findings and requests for cancellation come from the same outcomes; they are compared outcome by
outcome. -/
theorem visitFindings_eq (u : SourceUnit) (rules : List ConfiguredRule) :
    u.visitFindings rules = (u.outcomes rules).flatMap (·.findings) := by
  unfold visitFindings outcomes
  rw [List.flatMap_map]

/-- Up to a site, as a pass that is cut short has it. -/
theorem visitCancels_take (u : SourceUnit) (rules : List ConfiguredRule) (i : Nat) :
    u.visitCancels rules (u.sites.take i) = ((u.outcomes rules).take i).any (·.cancels) := by
  unfold visitCancels outcomes
  rw [← List.map_take, List.any_map]
  rfl

theorem visitCancels_sites (u : SourceUnit) (rules : List ConfiguredRule) :
    u.visitCancels rules u.sites = (u.outcomes rules).any (·.cancels) := by
  unfold visitCancels outcomes
  rw [List.any_map]
  rfl

/-- The remark on a unit without a layer is the same for units that are alike. -/
theorem Alike.missingNote (h : u.Alike v) : v.missingNote = u.missingNote := by
  unfold SourceUnit.missingNote
  rw [h.missing, (Site.Alike.unit h).note h]

/-- The same for the remark on a budget that was exceeded. -/
theorem Alike.timeoutNote (h : u.Alike v) (t : Timeout) : v.timeoutNote t = u.timeoutNote t := by
  unfold SourceUnit.timeoutNote
  rw [(Site.Alike.unit h).note h]

/-- What is found at the sites decides what is found in the unit. -/
theorem evaluate_eq_of_outcomes (halike : u.Alike v)
    (h : v.outcomes rules.rules = u.outcomes rules.rules) :
    v.evaluate rules = u.evaluate rules := by
  unfold evaluate
  rw [halike.missing, halike.missingNote, visitFindings_eq, visitFindings_eq, visitCancels_sites,
    visitCancels_sites, h]

/-- The number of sites is the number of clock readings, so the same deadline is missed before the
same site. -/
theorem evaluateWithin_eq_of_outcomes (halike : u.Alike v)
    (h : v.outcomes rules.rules = u.outcomes rules.rules) (budget : Seconds) (clock : Clock) :
    v.evaluateWithin rules budget clock = u.evaluateWithin rules budget clock := by
  have hlength : v.sites.length = u.sites.length := by
    have hlengths := congrArg List.length h
    unfold outcomes at hlengths
    rwa [List.length_map, List.length_map] at hlengths
  have hlate : ∀ deadline, v.lateSite? deadline clock = u.lateSite? deadline clock := by
    intro deadline
    unfold lateSite?
    rw [hlength]
  unfold evaluateWithin
  simp only [evaluate_eq_of_outcomes halike h, halike.missing, hlate, hlength, halike.path,
    halike.timeoutNote, visitCancels_take, h]

theorem alike_withoutExempt (u : SourceUnit) : u.Alike u.withoutExempt := ⟨rfl, rfl⟩

/-- Exempt types have no sites: all sites but the unit itself are the same. -/
theorem sites_withoutExempt (u : SourceUnit) :
    u.withoutExempt.sites = .unit u.withoutExempt :: u.sites.tail := by
  unfold sites withoutExempt
  dsimp only [List.tail_cons]
  rw [List.filter_filter]
  simp only [Bool.and_self]

/-- **All sites.** Local rules find the same at each site of the two units. -/
theorem outcomes_withoutExempt {rules : List ConfiguredRule}
    (hrules : ∀ rule ∈ rules, rule.definition.Local) :
    u.withoutExempt.outcomes rules = u.outcomes rules := by
  have halike := u.alike_withoutExempt
  have hsites : u.sites = .unit u :: u.sites.tail := rfl
  unfold outcomes
  rw [sites_withoutExempt, hsites, List.map_cons, List.map_cons, List.tail_cons]
  rw [(Site.Alike.unit halike).visit halike hrules]
  exact congrArg _ (List.map_congr_left fun site _ => (Site.Alike.same site).visit halike hrules)

end SourceUnit

/-- **Evaluations.** With and without a budget, local rules do not tell the two units apart. -/
theorem Evaluator.evaluate_withoutExempt {rules : RuleSet}
    (hrules : ∀ rule ∈ rules.rules, rule.definition.Local) (e : Evaluator) (u : SourceUnit)
    (clock : Clock) : e.evaluate u.withoutExempt rules clock = e.evaluate u rules clock := by
  have halike := u.alike_withoutExempt
  have houtcomes := @SourceUnit.outcomes_withoutExempt u rules.rules hrules
  unfold evaluate
  cases e.budget with
  | none =>
    dsimp only
    rw [SourceUnit.evaluate_eq_of_outcomes halike houtcomes]
  | some budget => exact SourceUnit.evaluateWithin_eq_of_outcomes halike houtcomes budget clock

/-! ## 4. Where findings stand -/

/-- A check whose findings stand at the element it is given, whatever else they say. -/
def Check.Places (check : Check) : Prop :=
  ∀ {element : Element} {ctx : Context} {f : Finding},
    f ∈ (check element ctx).findings → ctx.locationFor element = .ok f.location

/-- A finding of a context stands where the context puts the element. -/
theorem Context.Makes.locationFor {ctx : Context} {element : Element} {f : Finding}
    (h : ctx.Makes element f) : ctx.locationFor element = .ok f.location := by
  obtain ⟨message, payload, hmade⟩ := h.exists_finding
  obtain ⟨location, hlocation, rfl⟩ := eq_of_finding hmade
  exact hlocation

theorem Context.Makes.location {ctx : Context} {site : Site} {f : Finding}
    (h : ctx.Makes site.element f) (htype : ctx.type? = site.type?)
    (hmethod : ctx.method? = site.method?) : f.location = site.location ctx.unit.path := by
  have hplaced := h.locationFor
  rw [Site.locationFor_eq htype hmethod] at hplaced
  exact (Except.ok.inj hplaced).symm

/-- A local check makes its findings through its context, so it puts them in their place. -/
theorem Check.Local.places {check : Check} (h : check.Local) : check.Places :=
  fun hf => (h.reports hf).locationFor

namespace Site

variable {u : SourceUnit} {rules : List ConfiguredRule} {site : Site} {t : TypeDeclaration}
  {f : Finding}

/-- So does the evaluation with its remarks, hence everything found at a site stands there. -/
theorem location_of_mem_visit (hrules : ∀ rule ∈ rules, Check.Places rule.definition.check)
    (hf : f ∈ (site.visit u rules).findings) : f.location = site.location u.path := by
  rcases noted_or_checked hf with ⟨id, message, payload, -, rfl⟩ | ⟨rule, hrule, hmade⟩
  · rfl
  · have hplaced : (site.context u rule).locationFor site.element = .ok f.location :=
      hrules rule hrule hmade
    rw [locationFor_eq rfl rfl] at hplaced
    exact (Except.ok.inj hplaced).symm

/-- The place of a site names the type that owns it. -/
theorem typeName_location (path : SourcePath) (site : Site) :
    (site.location path).typeName = site.type?.map (·.qualifiedName) := by
  cases site <;> rfl

/-- The sites of a type are owned by it, which is how a place tells the type. -/
theorem type?_of_mem_sites (h : site ∈ t.sites) : site.type? = some t := by
  rcases mem_type_sites.mp h with rfl | ⟨field, -, rfl⟩ | ⟨m, -, h⟩
  · rfl
  · rfl
  · rcases mem_method_sites.mp h with rfl | ⟨p, -, rfl⟩ | ⟨s, -, rfl⟩ <;> rfl

end Site

namespace SourceUnit

variable {u : SourceUnit} {rules : RuleSet} {f : Finding}

/-- A finding that stands in no type, or in one that is not exempt. -/
def Exposes (u : SourceUnit) (f : Finding) : Prop :=
  ∀ name ∈ f.location.typeName, ∃ t ∈ u.types, t.isExempt = false ∧ t.qualifiedName = name

/-- Exempt types have no sites, so a finding that stands at a site is in no exempt type. -/
theorem exposes_of_mem_sites {site : Site} (hsite : site ∈ u.sites)
    (hf : f.location = site.location u.path) : u.Exposes f := by
  intro name hname
  rw [hf, Site.typeName_location] at hname
  rcases Site.mem_unit_sites.mp hsite with rfl | ⟨t, ht, hvisited, hsite⟩
  · exact absurd hname (by simp [Site.type?])
  · rw [Site.type?_of_mem_sites hsite] at hname
    exact ⟨t, ht, hvisited, Option.some.inj hname⟩

/-- The unit itself is always visited, which takes care of the remarks about the whole unit. -/
theorem unit_mem_sites (u : SourceUnit) : .unit u ∈ u.sites := List.mem_cons_self

/-- A finding of the unit stands at a site that was visited. -/
theorem site_of_mem_evaluate (hrules : ∀ rule ∈ rules.rules, Check.Places rule.definition.check)
    (hf : f ∈ (u.evaluate rules).findings) :
    ∃ site ∈ u.sites, f.location = site.location u.path := by
  rw [findings_evaluate, (sortFindings_perm _).mem_iff] at hf
  rcases missing_or_visited hf with rfl | ⟨site, hsite, hvisit⟩
  · exact ⟨.unit u, u.unit_mem_sites, rfl⟩
  · exact ⟨site, hsite, Site.location_of_mem_visit hrules hvisit⟩

/-- Names tell the types of a unit apart, so no exempt type shares its name with one that is not. -/
theorem Exposes.typeName_ne (h : u.Exposes f) {t : TypeDeclaration} (ht : t ∈ u.types)
    (hexempt : t.isExempt = true) : f.location.typeName ≠ some t.qualifiedName := by
  intro hname
  obtain ⟨other, hother, hvisited, hsame⟩ := h t.qualifiedName hname
  rw [List.inj_on_of_nodup_map u.types_nodup hother ht hsame] at hvisited
  exact absurd (hvisited.symm.trans hexempt) (by decide)

end SourceUnit

namespace Evaluator

variable {e : Evaluator} {u : SourceUnit} {rules : RuleSet} {clock : Clock} {result : Evaluation}

/-- An evaluation that goes through has the findings of the unit, or abandoned it. -/
theorem findings_of_evaluate (h : e.evaluate u rules clock = .ok result) :
    result.findings = (u.evaluate rules).findings ∨ ∃ t, result.findings = [u.timeoutNote t] := by
  unfold evaluate at h
  cases hbudget : e.budget with
  | none =>
    rw [hbudget] at h
    exact .inl (congrArg (·.findings) (Except.ok.inj h).symm)
  | some budget =>
    rw [hbudget] at h
    dsimp only at h
    unfold SourceUnit.evaluateWithin at h
    split at h
    · exact .inl (congrArg (·.findings) (Except.ok.inj h).symm)
    · split at h
      · exact absurd h (by simp)
      · split at h
        · exact .inl (congrArg (·.findings) (Except.ok.inj h).symm)
        · split at h
          · exact .inl (congrArg (·.findings) (Except.ok.inj h).symm)
          -- only the last way out of the evaluation reports a timeout
          · obtain ⟨t, -, hreturned⟩ := bind_ok_iff.mp h
            exact .inr ⟨t, congrArg (·.findings) (Except.ok.inj hreturned).symm⟩

/-- **Where findings stand.** Whether the unit was evaluated or abandoned, a finding stands at one
of its sites. -/
theorem site_of_mem_findings (hrules : ∀ rule ∈ rules.rules, Check.Places rule.definition.check)
    (h : e.evaluate u rules clock = .ok result) {f : Finding} (hf : f ∈ result.findings) :
    ∃ site ∈ u.sites, f.location = site.location u.path := by
  rcases findings_of_evaluate h with hfindings | ⟨t, hfindings⟩
  · rw [hfindings] at hf
    exact SourceUnit.site_of_mem_evaluate hrules hf
  · rw [hfindings, List.mem_singleton] at hf
    rw [hf]
    exact ⟨.unit u, u.unit_mem_sites, rfl⟩

/-- **Every finding** of an evaluation, also of one that was cut short, stands in no type or in one
that is not exempt. -/
theorem exposes_of_mem_findings (hrules : ∀ rule ∈ rules.rules, rule.definition.Local)
    (h : e.evaluate u rules clock = .ok result) {f : Finding} (hf : f ∈ result.findings) :
    u.Exposes f := by
  obtain ⟨site, hsite, hlocation⟩ :=
    site_of_mem_findings (fun rule hrule => (hrules rule hrule).check.places) h hf
  exact SourceUnit.exposes_of_mem_sites hsite hlocation

/-- **Exempt types are invisible.** The built-in rules are local. Take local rules under any
configuration, any unit, any evaluator, with a time budget or without, and any clock. The unit and
the unit without its exempt types have the same evaluation: the same findings in the same order,
the same number of clock readings, or the same failure. And no finding stands in an exempt type. -/
theorem exempt_types_invisible :
    (∀ d ∈ builtinRules, d.Local) ∧
      ∀ (u : SourceUnit) (rules : RuleSet), (∀ rule ∈ rules.rules, rule.definition.Local) →
        ∀ (e : Evaluator) (clock : Clock),
          e.evaluate u.withoutExempt rules clock = e.evaluate u rules clock ∧
          ∀ result, e.evaluate u rules clock = .ok result → ∀ f ∈ result.findings,
            ∀ t ∈ u.types, t.isExempt = true → f.location.typeName ≠ some t.qualifiedName := by
  refine ⟨fun d hd => Builtin.local_of_mem_builtinRules hd, fun u rules hrules e clock => ?_⟩
  refine ⟨evaluate_withoutExempt hrules e u clock, ?_⟩
  intro result hresult f hf t ht hexempt
  exact (exposes_of_mem_findings hrules hresult hf).typeName_ne ht hexempt

end Evaluator

/-- An exempt type with a field that the front end described incompletely. -/
def exemptType : TypeDeclaration :=
  { bareType with
    qualifiedName := "U"
    qualifiedName_ne := by decide
    isExempt := true
    fields := [⟨"cache", none, .mutable, .public_, false, none, by decide, line_pos_none⟩]
    fields_nodup := List.nodup_singleton _ }

/-- A unit with an exempt type before one that is not. -/
def partlyExemptUnit : SourceUnit :=
  { firstUnit with types := [exemptType, bareType], types_nodup := by decide }

theorem Evaluator.exempt_types_invisible_sample :
    (∀ rule ∈ typeReporterSet.rules, rule.definition.Local) ∧
      exemptType ∈ partlyExemptUnit.types ∧ exemptType.isExempt = true ∧
      ∃ result, Evaluator.evaluate ⟨none⟩ partlyExemptUnit typeReporterSet (fun _ => .whole 0) =
          .ok result ∧
        Evaluator.evaluate ⟨none⟩ partlyExemptUnit.withoutExempt typeReporterSet
          (fun _ => .whole 0) = .ok result ∧
        result.findings.map (·.location.typeName) = [some "T"] ∧
        ∀ f ∈ result.findings, f.location.typeName ≠ some "U" := by
  have hrules : ∀ rule ∈ typeReporterSet.rules, rule.definition.Local := by
    intro rule hrule
    rw [List.mem_singleton.mp hrule]
    exact ⟨Predicate.blind_kindIn _, CheckStep.local_toCheck _⟩
  have hmem : exemptType ∈ partlyExemptUnit.types := List.mem_cons_self
  obtain ⟨hsame, hnames⟩ :=
    Evaluator.exempt_types_invisible.2 partlyExemptUnit typeReporterSet hrules ⟨none⟩
      fun _ => .whole 0
  have hone : partlyExemptUnit.unsortedFindings typeReporterSet =
      [(Site.context partlyExemptUnit ⟨typeReporter, typeReporter.defaults⟩
        (.type bareType)).signed (.type bareType) "m" []] := rfl
  refine ⟨hrules, hmem, rfl, partlyExemptUnit.evaluation typeReporterSet, rfl, hsame, ?_, ?_⟩
  · show ((partlyExemptUnit.evaluate typeReporterSet).findings.map _) = _
    rw [SourceUnit.findings_evaluate, hone, sortFindings_singleton]
    rfl
  · exact fun f hf => hnames _ rfl f hf exemptType hmem rfl

end Conformance
