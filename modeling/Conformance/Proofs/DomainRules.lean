import Conformance.Proofs.Objections
import Conformance.Proofs.Readings

/-!
# The layer of a unit

The rules of the domain layer ask for the layer of a unit before anything else, and no other rule
asks for it. So one unit in two layers leads to the same findings, once those of the four rules are
taken away; and if neither layer is the domain layer, the four rules find nothing and there is
nothing to take away.

In the domain layer three of the rules object to elements one at a time: to fields and parameters of
a primitive type, to fields of a collection type, to methods in the shape of an accessor. What they
find is counted by counting these.
-/

set_option autoImplicit false

namespace Conformance

/-! ## 1. One unit in two layers -/

/-- The unit in a layer. -/
def SourceUnit.inLayer (u : SourceUnit) (layer : Layer) : SourceUnit :=
  { u with layer := some layer }

/-- The view that drops the findings of some rules. -/
def View.without (rules : List RuleDefinition) : View :=
  { View.whole with keeps := fun id => id ∉ rules.map (·.ruleId) }

variable {u : SourceUnit} {config : RuleConfig} {d : RuleDefinition} {set : RuleSet} {a b : Layer}
  {site : Site}

/-- The two units have the same types, so their sites are the same but for the unit itself. -/
theorem SourceUnit.matches_inLayer (view : View) (u : SourceUnit) (a b : Layer) :
    (u.inLayer a).Matches view (u.inLayer b) where
  path := rfl
  missing := rfl
  sites := .cons ⟨.unit rfl, rfl⟩ (List.forall₂_same.mpr fun site _ => ⟨.refl site.element, rfl⟩)

/-- Where the findings of the rules of the domain layer are dropped, there is nothing to ask. -/
theorem View.compares_without (u v : SourceUnit) :
    (View.without Builtin.domainRules).Compares u v := by
  intro d hd hkept
  exact absurd (List.mem_map.mpr ⟨d, hd, rfl⟩) (of_decide_eq_true hkept)

theorem SourceUnit.layer_inLayer (u : SourceUnit) (layer : Layer) :
    (u.inLayer layer).layer = some .domain ↔ layer = .domain :=
  Option.some_inj

/-- Two layers that are not the domain layer: the rules of the domain layer say nothing in either,
so their findings need not be dropped. -/
theorem View.compares_elsewhere (view : View) (u : SourceUnit) (ha : a ≠ .domain)
    (hb : b ≠ .domain) : view.Compares (u.inLayer a) (u.inLayer b) :=
  fun _ _ _ => iff_of_false (mt (u.layer_inLayer b).mp hb) (mt (u.layer_inLayer a).mp ha)

/-! ## 2. What the rules of the domain layer find -/

namespace Builtin

/-- Outside the domain layer they find nothing, whatever else the unit holds. -/
theorem reports_elsewhere (hd : d ∈ domainRules) (hlayer : u.layer ≠ some .domain) (site : Site) :
    site.reports u ⟨d, config⟩ = [] := by
  have hrun : site.checkRun u ⟨d, config⟩ = { findings := [] } := by
    simp only [domainRules, List.mem_cons, List.not_mem_nil, or_false] at hd
    rcases hd with rfl | rfl | rfl | rfl <;> exact if_neg hlayer
  unfold Site.reports
  rw [hrun, ite_self]

theorem mem_builtinRules_of_domain (hd : d ∈ domainRules) : d ∈ builtinRules := by
  simp only [domainRules, List.mem_cons, List.not_mem_nil, or_false] at hd
  rcases hd with rfl | rfl | rfl | rfl <;> simp [builtinRules]

end Builtin

namespace Site

/-- A field or parameter of a primitive type. -/
def isPrimitive : Site → Bool
  | .field _ f => f.type?.any (·.isPrimitive)
  | .parameter _ _ p => p.type?.any (·.isPrimitive)
  | _ => false

/-- A field of a collection type. -/
def isCollection : Site → Bool
  | .field _ f => f.type?.any (·.isCollection)
  | _ => false

/-- A method in the shape of an accessor. -/
def isAccessor : Site → Bool
  | .method _ m => m.isAccessor
  | _ => false

end Site

/-- At one site the rule makes one finding, which stands there, or none. -/
def Site.ObjectedTo (u : SourceUnit) (rule : ConfiguredRule) (site : Site) (objects : Bool) :
    Prop :=
  (objects = true → ∃ f, site.reports u rule = [f] ∧ f.location = site.location u.path) ∧
    (objects = false → site.reports u rule = [])

/-- A rule objects to the sites at which it makes one finding. -/
theorem RuleDefinition.Objects.of_objectedTo {p : Site → Bool}
    (h : ∀ config site, Site.ObjectedTo u ⟨d, config⟩ site (p site)) :
    d.Objects u p fun _ site f => f.location = site.location u.path :=
  ⟨fun config site => (h config site).1, fun config site => (h config site).2⟩

/-- Where a rule does not apply it objects to nothing. -/
theorem Site.objectedTo_idle (happlies : d.appliesTo site.element = .ok false) :
    site.ObjectedTo u ⟨d, config⟩ false :=
  ⟨fun h => absurd h Bool.false_ne_true, fun _ => reports_eq_nil happlies⟩

/-- The common part of the checks of types that are mentioned: there is one finding if the type is
known and of the sort that is looked for, and none otherwise. -/
theorem Site.objectedTo_type {type? : Option TypeReference} {sort : TypeReference → Bool}
    {message : TypeReference → String} {payload : TypeReference → Payload}
    (happlies : d.appliesTo site.element = .ok true)
    (hcomplete : site.element.missing = leftOut "type_ref" type?)
    (hmessage : ∀ r, message r ≠ "")
    (hfree : ∀ r, Context.NamesFree Context.callNames (payload r))
    (hrun : site.checkRun u ⟨d, config⟩ = .ofExcept (match type?.filter sort with
      | none => .ok []
      | some r => do
        let made ← (site.context u ⟨d, config⟩).finding site.element (message r) (payload r)
        return [made])) :
    site.ObjectedTo u ⟨d, config⟩ (type?.any sort) := by
  constructor
  · intro hany
    obtain ⟨r, htype, hr⟩ := (Option.any_eq_true _ _).mp hany
    rw [Option.filter_eq_some_iff.mpr ⟨htype, hr⟩] at hrun
    have hnone : site.element.missing = [] := by
      rw [hcomplete, leftOut_eq_nil_iff, htype]
      exact Option.some_ne_none r
    exact ⟨_, reports_eq_finding happlies hnone (hmessage r) (hfree r) hrun, rfl⟩
  · intro hnone
    have hfound : type?.filter sort = none := by
      simpa [Option.filter_eq_none_iff] using (Option.any_eq_false _ _).mp hnone
    rw [hfound] at hrun
    exact reports_of_silent hrun

namespace Builtin

/-- **Site by site**, what each of the rules objects to in the domain layer. Fields and parameters
are handled alike. -/
theorem objectedTo_wrapPrimitives (hlayer : u.layer = some .domain) (config : RuleConfig)
    (site : Site) : site.ObjectedTo u ⟨wrapPrimitives, config⟩ site.isPrimitive := by
  cases site with
  | field t f =>
    refine @Site.objectedTo_type u config wrapPrimitives (.field t f) _ _ _ _ rfl rfl
      ?_ ?_ (if_pos hlayer)
    · simp
    · simp [Context.NamesFree, keysOf, Context.callNames]
  | parameter t m p =>
    refine @Site.objectedTo_type u config wrapPrimitives (.parameter t m p) _ _ _ _ rfl rfl
      ?_ ?_ (if_pos hlayer)
    · simp
    · simp [Context.NamesFree, keysOf, Context.callNames]
  | _ => exact Site.objectedTo_idle rfl

theorem objectedTo_firstClassCollection (hlayer : u.layer = some .domain) (config : RuleConfig)
    (site : Site) : site.ObjectedTo u ⟨firstClassCollection, config⟩ site.isCollection := by
  cases site with
  | field t f =>
    refine @Site.objectedTo_type u config firstClassCollection (.field t f) _ _ _ _ rfl rfl
      ?_ ?_ (if_pos hlayer)
    · simp
    · simp [Context.NamesFree, keysOf, Context.callNames]
  | _ => exact Site.objectedTo_idle rfl

theorem objectedTo_noAccessorMethods (hlayer : u.layer = some .domain) (config : RuleConfig)
    (site : Site) : site.ObjectedTo u ⟨noAccessorMethods, config⟩ site.isAccessor := by
  cases site with
  | method t m =>
    constructor
    · intro haccessor
      have hrun : (Site.method t m).checkRun u ⟨noAccessorMethods, config⟩ = .ofExcept (do
          let made ← (Site.context u ⟨noAccessorMethods, config⟩ (.method t m)).finding (.method m)
            ("Method '" ++ m.name ++ "' is a getter/setter; tell, don't ask") []
          return [made]) :=
        (if_pos hlayer).trans (congrArg CheckRun.ofExcept (if_pos haccessor))
      exact ⟨_, Site.reports_eq_finding rfl rfl (by simp) (by simp [Context.NamesFree, keysOf])
        hrun, rfl⟩
    · intro hplain
      have hsilent : checkAccessorMethods m (Site.context u ⟨noAccessorMethods, config⟩
          (.method t m)) = .ok [] := if_neg (Bool.eq_false_iff.mp hplain)
      exact Site.reports_of_silent ((if_pos hlayer).trans (congrArg CheckRun.ofExcept hsilent))
  | _ => exact Site.objectedTo_idle rfl

end Builtin

/-! ## 3. Counting them -/

namespace SourceUnit

/-- The fields and the parameters of methods that have a primitive type, in types that are not
exempt. -/
def primitives (u : SourceUnit) : Nat :=
  u.total fun t => t.fields.countP (·.type?.any (·.isPrimitive)) +
    t.total fun m => m.parameters.countP (·.type?.any (·.isPrimitive))

/-- The fields of a collection type. -/
def collections (u : SourceUnit) : Nat :=
  u.total fun t => t.fields.countP (·.type?.any (·.isCollection))

/-- The methods in the shape of an accessor, overloads one by one. -/
def accessors (u : SourceUnit) : Nat :=
  u.total fun t => t.methods.countP (·.isAccessor)

/-- The sites of a type that are left out of a count add nothing to it. -/
theorem countP_isPrimitive (u : SourceUnit) : u.sites.countP Site.isPrimitive = u.primitives := by
  rw [countP_sites rfl]
  simp only [TypeDeclaration.countP_sites, Method.countP_sites, Site.isPrimitive, primitives,
    List.countP_false, Function.const_apply, Bool.false_eq_true, if_false, Nat.zero_add,
    Nat.add_zero]

/-- The fields of collection types are counted type by type. -/
theorem countP_isCollection (u : SourceUnit) :
    u.sites.countP Site.isCollection = u.collections := by
  have hmethods : ∀ t : TypeDeclaration, (t.total fun _ => 0) = 0 := by
    intro t
    unfold TypeDeclaration.total
    rw [List.sum_eq_zero_iff_forall_eq_nat]
    rintro n hn
    obtain ⟨m, -, rfl⟩ := List.mem_map.mp hn
    rfl
  rw [countP_sites rfl]
  simp only [TypeDeclaration.countP_sites, Method.countP_sites, Site.isCollection, collections,
    List.countP_false, Function.const_apply, Bool.false_eq_true, if_false, Nat.zero_add,
    Nat.add_zero, hmethods]

theorem countP_isAccessor (u : SourceUnit) : u.sites.countP Site.isAccessor = u.accessors := by
  have hmethods : ∀ t : TypeDeclaration, (t.total fun m => if m.isAccessor = true then 1 else 0) =
      t.methods.countP (·.isAccessor) := by
    intro t
    unfold TypeDeclaration.total
    induction t.methods with
    | nil => rfl
    | cons m rest ih =>
      rw [List.map_cons, List.sum_cons, List.countP_cons, ih, Nat.add_comm]
  rw [countP_sites rfl]
  simp only [TypeDeclaration.countP_sites, Method.countP_sites, Site.isAccessor, accessors,
    List.countP_false, Function.const_apply, Bool.false_eq_true, if_false, Nat.zero_add,
    Nat.add_zero]
  exact congrArg u.total (funext hmethods)

end SourceUnit

/-- The rules of the domain layer that object to elements one at a time, each with the number of
elements in a unit that it objects to. -/
def Builtin.countedRules : List (RuleDefinition × (SourceUnit → Nat)) :=
  [(wrapPrimitives, SourceUnit.primitives), (firstClassCollection, SourceUnit.collections),
    (noAccessorMethods, SourceUnit.accessors)]

/-- The rule is built in, and in the domain layer it objects to as many sites as `count` says, which
does not look at the layer itself. -/
structure RuleDefinition.Counts (d : RuleDefinition) (count : SourceUnit → Nat) : Prop where
  builtin : d ∈ builtinRules
  inLayer : ∀ (u : SourceUnit) (layer : Layer), count (u.inLayer layer) = count u
  objects : ∀ u : SourceUnit, u.layer = some .domain →
    ∃ p tells, d.Objects u p tells ∧ u.sites.countP p = count u

/-- **What three rules of the domain layer count.** The fourth looks at references and lists names,
so it has no count. -/
theorem Builtin.counts_of_mem {count : SourceUnit → Nat} (hd : (d, count) ∈ countedRules) :
    d.Counts count := by
  simp only [countedRules, List.mem_cons, Prod.mk.injEq, List.not_mem_nil, or_false] at hd
  rcases hd with ⟨rfl, rfl⟩ | ⟨rfl, rfl⟩ | ⟨rfl, rfl⟩
  · exact ⟨by simp [builtinRules], fun _ _ => rfl, fun u hlayer =>
      ⟨_, _, .of_objectedTo (objectedTo_wrapPrimitives hlayer), u.countP_isPrimitive⟩⟩
  · exact ⟨by simp [builtinRules], fun _ _ => rfl, fun u hlayer =>
      ⟨_, _, .of_objectedTo (objectedTo_firstClassCollection hlayer), u.countP_isCollection⟩⟩
  · exact ⟨by simp [builtinRules], fun _ _ => rfl, fun u hlayer =>
      ⟨_, _, .of_objectedTo (objectedTo_noAccessorMethods hlayer), u.countP_isAccessor⟩⟩

/-! ## 4. Every registry and every unit -/

namespace Registry

/-- Outside the domain layer no finding carries the identifier of one of the four rules. -/
theorem ruleId_ne_of_elsewhere {calls : List RegistryCall} (hcalls : ∀ c ∈ calls, c.Configures)
    (hsnapshot : (builtin.afterAll calls).snapshot = .ok set) (hlayer : u.layer ≠ some .domain)
    (hd : d ∈ Builtin.domainRules) {f : Finding} (hf : f ∈ (u.evaluate set).findings) :
    f.ruleId ≠ d.ruleId := by
  obtain ⟨rules, hrules, hreports⟩ :=
    reports_of_builtin fun c hc => RegistryCall.Configures.usesContext (hcalls c hc)
  obtain rfl : rules = set := Except.ok.inj (hrules.symm.trans hsnapshot)
  obtain ⟨config, -, -, hselected⟩ := hreports d (Builtin.mem_builtinRules_of_domain hd)
  have hnone : u.sites.flatMap (Site.reports u ⟨d, config⟩) = [] :=
    List.flatMap_eq_nil_iff.mpr fun site _ => Builtin.reports_elsewhere hd hlayer site
  have hempty := hselected u
  rw [hnone, sortFindings_nil, ite_self, List.filter_eq_nil_iff] at hempty
  intro hid
  exact hempty f hf (decide_eq_true hid)

/-- **The layer matters to four rules only.** Take the registry of the built-in rules after any
calls that configure or reset rules, and any unit. A snapshot succeeds, and so does an evaluation
without a time budget of the unit in any layer. In two layers the evaluations are the same once the
findings of the rules of the domain layer are dropped; if neither is the domain layer, they are the
same as they are, and no finding is one of these rules. In the domain layer each of three of these
rules, if it is enabled, finds as much as there is of what it objects to, in types that are not
exempt: fields and parameters of a primitive type, fields of a collection type, methods in the shape
of an accessor. If it is disabled, it finds nothing. -/
theorem layer_matters_to_domain_rules {start : Registry}
    (hstart : ofDefinitions builtinRules = .ok start) {calls : List RegistryCall}
    (hcalls : ∀ c ∈ calls, c.Configures) (u : SourceUnit) (clock : Clock) :
    ∃ rules, (start.afterAll calls).snapshot = .ok rules ∧
      (∀ a b : Layer, ∃ result other,
        Evaluator.evaluate ⟨none⟩ (u.inLayer a) rules clock = .ok result ∧
        Evaluator.evaluate ⟨none⟩ (u.inLayer b) rules clock = .ok other ∧
        (View.without Builtin.domainRules).evaluation other =
          (View.without Builtin.domainRules).evaluation result ∧
        (a ≠ .domain → b ≠ .domain → other = result ∧
          ∀ f ∈ result.findings, ∀ d ∈ Builtin.domainRules, f.ruleId ≠ d.ruleId)) ∧
      ∃ result, Evaluator.evaluate ⟨none⟩ (u.inLayer .domain) rules clock = .ok result ∧
        ∀ d count, (d, count) ∈ Builtin.countedRules →
          ∃ config, (start.afterAll calls).config d.ruleId = .ok config ∧
            (config.enabled = true →
              (result.findings.filter (·.ruleId = d.ruleId)).length = count u) ∧
            (config.enabled = false → result.findings.filter (·.ruleId = d.ruleId) = []) := by
  obtain rfl : start = builtin := Except.ok.inj (hstart.symm.trans ofDefinitions_builtinRules)
  obtain ⟨rules, hsnapshot, hrules⟩ := allBuiltin_of_snapshot hcalls
  refine ⟨rules, hsnapshot, fun a b => ?_, ?_⟩
  · refine ⟨(u.inLayer a).evaluation rules, (u.inLayer b).evaluation rules,
      evaluate_unbounded _ rules clock, evaluate_unbounded _ rules clock, ?_, fun ha hb => ?_⟩
    · exact SourceUnit.evaluation_of_matches hrules (View.compares_without _ _)
        (u.matches_inLayer _ a b)
    · have hwhole := SourceUnit.evaluation_of_matches hrules
        (View.whole.compares_elsewhere u ha hb) (u.matches_inLayer View.whole a b)
      rw [View.evaluation_whole, View.evaluation_whole] at hwhole
      refine ⟨hwhole, fun f hf d hd => ?_⟩
      exact ruleId_ne_of_elsewhere hcalls hsnapshot (mt (u.layer_inLayer a).mp ha) hd hf
  · refine ⟨(u.inLayer .domain).evaluation rules, evaluate_unbounded _ rules clock,
      fun d count hd => ?_⟩
    have hcounts := Builtin.counts_of_mem hd
    obtain ⟨others, hothers, hobjected⟩ :=
      objected_of_builtin fun c hc => RegistryCall.Configures.usesContext (hcalls c hc)
    obtain rfl : others = rules := Except.ok.inj (hothers.symm.trans hsnapshot)
    obtain ⟨config, hconfig, hfound⟩ := hobjected d hcounts.builtin
    obtain ⟨p, tells, hobjects, hcount⟩ := hcounts.objects (u.inLayer .domain) rfl
    have hsites := hfound (u.inLayer .domain) p tells (Option.some_ne_none _) hobjects
    refine ⟨config, hconfig, fun henabled => ?_, hsites.disabled⟩
    rw [← hcounts.inLayer u .domain, ← hcount, List.countP_eq_length_filter]
    exact hsites.length_eq henabled

/-- The built-in text type. -/
def textType : TypeReference := ⟨"String", true, false, none, [], by decide⟩

theorem wellFormed_nil : ∀ s ∈ ([] : List Statement), s.WellFormed :=
  fun _ hs => absurd hs List.not_mem_nil

theorem depth_nil : ∀ s ∈ ([] : List Statement), s.depth = 0 :=
  fun _ hs => absurd hs List.not_mem_nil

/-- A type with a text field and a setter that takes a text. -/
def settableType : TypeDeclaration :=
  { bareType with
    fields := [⟨"name", some textType, .mutable, .private_, false, none, by decide,
      line_pos_none⟩]
    fields_nodup := List.nodup_singleton _
    methods := [⟨"setName", [⟨"name", some textType, by decide⟩], none, [], .public_, true, none,
      by decide, line_pos_none, wellFormed_nil, depth_nil, List.nodup_nil,
      List.nodup_singleton _⟩] }

/-- A unit with this type. -/
def settableUnit : SourceUnit :=
  { firstUnit with types := [settableType], types_nodup := List.nodup_singleton _ }

theorem layer_matters_to_domain_rules_sample :
    ofDefinitions builtinRules = .ok builtin ∧ (∀ c ∈ sampleConfiguration, c.Configures) ∧
      ∃ rules domain application infrastructure,
        (builtin.afterAll sampleConfiguration).snapshot = .ok rules ∧
        Evaluator.evaluate ⟨none⟩ (settableUnit.inLayer .domain) rules (fun _ => .whole 0) =
          .ok domain ∧
        Evaluator.evaluate ⟨none⟩ (settableUnit.inLayer .application) rules (fun _ => .whole 0) =
          .ok application ∧
        Evaluator.evaluate ⟨none⟩ (settableUnit.inLayer .infrastructure) rules
          (fun _ => .whole 0) = .ok infrastructure ∧
        infrastructure = application ∧
        (View.without Builtin.domainRules).evaluation application =
          (View.without Builtin.domainRules).evaluation domain ∧
        (domain.findings.filter (·.ruleId = Builtin.wrapPrimitives.ruleId)).length = 2 := by
  have hcalls : ∀ c ∈ sampleConfiguration, c.Configures := by
    simp [sampleConfiguration, RegistryCall.Configures]
  obtain ⟨rules, hsnapshot, hlayers, domain, hdomain, hcounts⟩ :=
    layer_matters_to_domain_rules ofDefinitions_builtinRules hcalls settableUnit fun _ => .whole 0
  obtain ⟨result, application, hresult, happlication, hdropped, -⟩ := hlayers .domain .application
  obtain rfl : result = domain := Except.ok.inj (hresult.symm.trans hdomain)
  obtain ⟨again, infrastructure, hagain, hinfrastructure, -, hsame⟩ :=
    hlayers .application .infrastructure
  obtain rfl : again = application := Except.ok.inj (hagain.symm.trans happlication)
  obtain ⟨config, hconfig, hcount, -⟩ := hcounts Builtin.wrapPrimitives SourceUnit.primitives
    (by simp [Builtin.countedRules])
  have henabled : config.enabled = true := by
    have hstart : (builtin.afterAll sampleConfiguration).config
        Builtin.wrapPrimitives.ruleId = .ok Builtin.wrapPrimitives.defaults := by rfl
    rw [hstart] at hconfig
    rw [← Except.ok.inj hconfig]
    rfl
  have htwo : settableUnit.primitives = 2 := by decide
  exact ⟨ofDefinitions_builtinRules, hcalls, rules, result, again, infrastructure, hsnapshot,
    hdomain, happlication, hinfrastructure, (hsame (by decide) (by decide)).1, hdropped,
    (hcount henabled).trans htwo⟩

end Registry

end Conformance
