import Conformance.Proofs.FirstMentions
import Conformance.Proofs.RuleReports

/-!
# Dependencies of the domain on the infrastructure

A type of the domain layer must not depend on the infrastructure, and the rule on layers makes one
finding per type that does, with the names it found. A type depends on another by mentioning it, in
one of five places (`TypeDeclaration.Mentions`).

The rule does not look at every mention. It looks at each name once, where the name is mentioned
first, and takes the layer from there. If all mentions of a name agree on its layer then this is no
restriction, and the names in the finding are those that are mentioned as infrastructure. If they do
not, a first mention of unknown layer hides the others.
-/

set_option autoImplicit false

namespace Conformance

/-! ## 1. What a type depends on -/

namespace TypeDeclaration

/-- The name is mentioned as one of this layer. -/
def DependsOn (t : TypeDeclaration) (layer : Layer) (name : String) : Prop :=
  ∃ r, t.Mentions r ∧ r.layer = some layer ∧ r.name = name

/-- The name is first mentioned as one of this layer. -/
def FirstDependsOn (t : TypeDeclaration) (layer : Layer) (name : String) : Prop :=
  ∃ r, t.firstMention? name = some r ∧ r.layer = some layer

/-- Every name that is mentioned as one of this layer is first mentioned as such. -/
def ShowsFirst (t : TypeDeclaration) (layer : Layer) : Prop :=
  ∀ name, t.DependsOn layer name → t.FirstDependsOn layer name

/-- No name is mentioned under two layers, or once with a layer and once without. -/
def LayersAgree (t : TypeDeclaration) : Prop :=
  ∀ r s, t.Mentions r → t.Mentions s → r.name = s.name → r.layer = s.layer

variable {t : TypeDeclaration} {layer : Layer} {name : String}

/-- A dependency that shows at the first mention is one. -/
theorem FirstDependsOn.dependsOn (h : t.FirstDependsOn layer name) : t.DependsOn layer name := by
  obtain ⟨r, hfirst, hlayer⟩ := h
  obtain ⟨hmentions, hname⟩ := mentions_of_firstMention? hfirst
  exact ⟨r, hmentions, hlayer, hname⟩

/-- Where layers agree, every dependency shows at the first mention. -/
theorem LayersAgree.showsFirst (h : t.LayersAgree) (layer : Layer) : t.ShowsFirst layer := by
  rintro name ⟨r, hmentions, hlayer, rfl⟩
  obtain ⟨first, hfirst⟩ := exists_firstMention? hmentions
  obtain ⟨hfirstMentions, hname⟩ := mentions_of_firstMention? hfirst
  have hsame : first.layer = r.layer := h first r hfirstMentions hmentions hname
  exact ⟨first, hfirst, hsame.trans hlayer⟩

end TypeDeclaration

/-! ## 2. What the rule lists -/

/-- The names that a finding carries can be read off it. -/
theorem Value.texts_injective {names others : List String}
    (h : Value.texts names = Value.texts others) : names = others :=
  List.map_injective_iff.mpr (fun _ _ => Value.text.inj) (Value.tuple.inj h)

/-- A list of findings that speaks of names at a place: one finding there, which lists each of the
names once, or none if there is nothing to list. -/
inductive ListsNames (place : Location) (listed : String → Prop) : List Finding → Prop
  | none (h : ∀ name, ¬ listed name) : ListsNames place listed []
  | one (f : Finding) (names : List String) (hplace : f.location = place) (hsome : names ≠ [])
      (hreferences : f.detail? "references" = some (Value.texts names)) (hnodup : names.Nodup)
      (hnames : ∀ name, name ∈ names ↔ listed name) : ListsNames place listed [f]

namespace ListsNames

variable {place : Location} {p q : String → Prop} {found : List Finding}

/-- Lists of names are compared by the names that belong on them. -/
theorem congr (h : ListsNames place p found) (hsame : ∀ name, p name ↔ q name) :
    ListsNames place q found := by
  cases h with
  | none hnone => exact .none fun name hq => hnone name ((hsame name).mpr hq)
  | one f names hplace hsome hreferences hnodup hnames =>
    exact .one f names hplace hsome hreferences hnodup fun name => (hnames name).trans (hsame name)

/-- There is at most one finding, so sorting does nothing. -/
theorem sortFindings_eq (h : ListsNames place p found) : sortFindings found = found := by
  cases h <;> simp

/-- Where no name belongs on the list there is no finding. -/
theorem eq_nil (h : ListsNames place p found) (hnone : ∀ name, ¬ p name) : found = [] := by
  cases h with
  | none => rfl
  | one f names _ hsome _ _ hnames =>
    obtain ⟨name, hname⟩ := List.exists_mem_of_ne_nil names hsome
    exact absurd ((hnames name).mp hname) (hnone name)

/-- A list of findings settles which names it speaks of. -/
theorem unique (hp : ListsNames place p found) (hq : ListsNames place q found) (name : String) :
    p name ↔ q name := by
  cases hp with
  | none hnone =>
    cases hq with
    | none hnone' => exact ⟨fun h => absurd h (hnone name), fun h => absurd h (hnone' name)⟩
  | one f names _ _ hreferences _ hnames =>
    cases hq with
    | one _ others _ _ hreferences' _ hnames' =>
      have hsame : names = others :=
        Value.texts_injective (Option.some.inj (hreferences.symm.trans hreferences'))
      rw [← hnames, ← hnames', hsame]

end ListsNames

namespace Builtin

variable {t : TypeDeclaration} {name : String}

/-- A name is listed for a layer exactly if its first mention is in this layer. -/
theorem mem_names_referencesTo {layer : Layer} :
    name ∈ (referencesTo layer t).map (·.name) ↔ t.FirstDependsOn layer name := by
  unfold referencesTo TypeDeclaration.FirstDependsOn
  simp only [List.mem_map, List.mem_filter, decide_eq_true_eq, TypeDeclaration.mem_allReferences]
  constructor
  · rintro ⟨r, ⟨hfirst, hlayer⟩, rfl⟩
    exact ⟨r, hfirst, hlayer⟩
  · rintro ⟨r, hfirst, hlayer⟩
    obtain ⟨-, rfl⟩ := TypeDeclaration.mentions_of_firstMention? hfirst
    exact ⟨r, ⟨hfirst, hlayer⟩, rfl⟩

theorem nodup_names_referencesTo (layer : Layer) (t : TypeDeclaration) :
    ((referencesTo layer t).map (·.name)).Nodup :=
  t.keepsFirst_allReferences.distinct.sublist (List.filter_sublist.map _)

/-- **The check.** In the domain layer it lists the names that are first mentioned as
infrastructure. -/
theorem checkLayeredDependency_lists {ctx : Context} (hat : ctx.At (.type t)) :
    ∃ found, checkLayeredDependency t ctx = .ok found ∧
      ListsNames ((Site.type t).location ctx.unit.path) (t.FirstDependsOn .infrastructure)
        found := by
  unfold checkLayeredDependency
  dsimp only
  split
  · rename_i hempty
    refine ⟨[], rfl, .none fun name hfirst => ?_⟩
    rw [← mem_names_referencesTo, List.isEmpty_iff.mp hempty] at hfirst
    exact List.not_mem_nil hfirst
  · rename_i hsome
    have hmade := fun names : List String => @Context.finding_eq_ok ctx (.type t)
      (Layer.label .domain ++ " type '" ++ t.name ++ "' depends on " ++
        Layer.label .infrastructure ++ " type(s): " ++ Value.commaSeparated names)
      [("measured", Value.ofNat (referencesTo .infrastructure t).length),
        ("threshold", Value.ofNat 0), ("references", Value.texts names)]
      hat (by simp) (by simp [Context.NamesFree, keysOf, Context.callNames])
    refine ⟨_, bind_ok_iff.mpr ⟨_, hmade _, rfl⟩, .one _ _ rfl ?_ rfl
      (nodup_names_referencesTo _ t) fun name => mem_names_referencesTo⟩
    simpa [List.isEmpty_iff] using hsome

/-- The rule has nothing to say outside the domain layer. -/
theorem reports_layeredDependency_elsewhere {u : SourceUnit} {config : RuleConfig}
    (hlayer : u.layer ≠ some .domain) (site : Site) :
    site.reports u ⟨layeredDependency, config⟩ = [] := by
  have hrun : site.checkRun u ⟨layeredDependency, config⟩ = { findings := [] } := if_neg hlayer
  unfold Site.reports
  rw [hrun, ite_self]

/-- **One type of the domain layer.** What the rule finds at its sites, it finds at the type. -/
theorem reports_layeredDependency {u : SourceUnit} {config : RuleConfig}
    (hlayer : u.layer = some .domain) (t : TypeDeclaration) :
    ListsNames ((Site.type t).location u.path) (t.FirstDependsOn .infrastructure)
      (t.sites.flatMap (Site.reports u ⟨layeredDependency, config⟩)) := by
  obtain ⟨found, hfound, hlists⟩ :=
    checkLayeredDependency_lists (Site.context_at u ⟨layeredDependency, config⟩ (.type t))
  have htype : Site.reports u ⟨layeredDependency, config⟩ (.type t) = found := by
    refine Site.reports_eq_of_result rfl rfl ?_
    rw [← hfound]
    exact if_pos hlayer
  have hinside : ∀ site ∈ t.fields.map (.field t) ++ t.methods.flatMap (Method.sites t),
      Site.reports u ⟨layeredDependency, config⟩ site = [] := by
    intro site hsite
    refine Site.reports_eq_nil ?_
    simp only [List.mem_append, List.mem_map, List.mem_flatMap, Site.mem_method_sites] at hsite
    rcases hsite with ⟨f, -, rfl⟩ | ⟨m, -, rfl | ⟨p, -, rfl⟩ | ⟨s, -, rfl⟩⟩ <;> rfl
  have hsites : t.sites.flatMap (Site.reports u ⟨layeredDependency, config⟩) = found := by
    unfold TypeDeclaration.sites
    rw [List.cons_append, List.flatMap_cons, htype, List.flatMap_eq_nil_iff.mpr hinside,
      List.append_nil]
  rw [hsites]
  exact hlists

end Builtin

/-! ## 3. Every registry and every unit -/

namespace Registry

variable {calls : List RegistryCall}

/-- **One unit.** What the rule finds in each type, or that it finds nothing. -/
theorem lists_of_layering (hcalls : ∀ c ∈ calls, c.UsesContext) :
    ∃ rules config, (builtin.afterAll calls).snapshot = .ok rules ∧
      (builtin.afterAll calls).config Builtin.layeredDependency.ruleId = .ok config ∧
      ∀ u : SourceUnit,
        (¬ (config.enabled = true ∧ u.layer = some .domain) →
          (u.evaluate rules).findings.filter
            (·.ruleId = Builtin.layeredDependency.ruleId) = []) ∧
        (config.enabled = true → u.layer = some .domain → ∀ t ∈ u.types, t.isExempt = false →
          ListsNames ((Site.type t).location u.path) (t.FirstDependsOn .infrastructure)
            (((u.evaluate rules).findings.filter
              (·.ruleId = Builtin.layeredDependency.ruleId)).filter
                (·.location.typeName = some t.qualifiedName))) := by
  have hbuiltin : Builtin.layeredDependency ∈ builtinRules := by simp [builtinRules]
  obtain ⟨rules, hsnapshot, hreports⟩ := reports_of_builtin hcalls
  obtain ⟨config, hconfig, -, hselected⟩ := hreports _ hbuiltin
  refine ⟨rules, config, hsnapshot, hconfig, fun u => ⟨?_, ?_⟩⟩
  · intro hidle
    rw [hselected u]
    split
    · rename_i hactive
      have helsewhere : u.layer ≠ some .domain := fun hlayer => hidle ⟨hactive.1, hlayer⟩
      have hnone : u.sites.flatMap (Site.reports u ⟨Builtin.layeredDependency, config⟩) = [] :=
        List.flatMap_eq_nil_iff.mpr fun site _ =>
          Builtin.reports_layeredDependency_elsewhere helsewhere site
      rw [hnone, sortFindings_nil]
    · rfl
  · intro henabled hlayer t ht hvisited
    have hlists := @Builtin.reports_layeredDependency u config hlayer t
    -- a finding lies where its site does, so a type's name selects what was found about the type
    have hplace : ∀ site, ∀ f ∈ Site.reports u ⟨Builtin.layeredDependency, config⟩ site,
        f.location = site.location u.path := by
      intro site f hf
      exact Site.location_of_mem_reports (Builtin.local_of_mem_builtinRules hbuiltin) hf
    rw [hselected u, if_pos ⟨henabled, by simp [hlayer]⟩, filter_sortFindings,
      SourceUnit.filter_typeName_sites hplace ht hvisited, hlists.sortFindings_eq]
    exact hlists

/-- **Layers are judged by the first mention.** Take the registry of the built-in rules after any
calls, which may register rules that sign their findings with their own identifiers, and any unit. A
snapshot and an evaluation without a time budget succeed. If the rule on layers is disabled or the
unit is not of the domain layer, nothing is found by this rule. Otherwise it makes, for every type
that is not exempt, one finding at the type that lists each name whose first mention is
infrastructure, or none if there is no such name. So it lists the names that are mentioned as
infrastructure, in any place, exactly if none of them is first mentioned as something else. -/
theorem layering_by_first_mention {start : Registry}
    (hstart : ofDefinitions builtinRules = .ok start) {calls : List RegistryCall}
    (hcalls : ∀ c ∈ calls, c.UsesContext) (u : SourceUnit) (clock : Clock) :
    ∃ rules config result, (start.afterAll calls).snapshot = .ok rules ∧
      (start.afterAll calls).config Builtin.layeredDependency.ruleId = .ok config ∧
      Evaluator.evaluate ⟨none⟩ u rules clock = .ok result ∧
      (¬ (config.enabled = true ∧ u.layer = some .domain) →
        result.findings.filter (·.ruleId = Builtin.layeredDependency.ruleId) = []) ∧
      (config.enabled = true → u.layer = some .domain → ∀ t ∈ u.types, t.isExempt = false →
        ∃ found, (result.findings.filter (·.ruleId = Builtin.layeredDependency.ruleId)).filter
            (·.location.typeName = some t.qualifiedName) = found ∧
          ListsNames ((Site.type t).location u.path) (t.FirstDependsOn .infrastructure) found ∧
          (ListsNames ((Site.type t).location u.path) (t.DependsOn .infrastructure) found ↔
            t.ShowsFirst .infrastructure)) := by
  obtain rfl : start = builtin := Except.ok.inj (hstart.symm.trans ofDefinitions_builtinRules)
  obtain ⟨rules, config, hsnapshot, hconfig, hunits⟩ := lists_of_layering hcalls
  obtain ⟨hidle, hlisted⟩ := hunits u
  refine ⟨rules, config, u.evaluation rules, hsnapshot, hconfig, evaluate_unbounded u rules clock,
    hidle, fun henabled hlayer t ht hvisited => ?_⟩
  have hlists := hlisted henabled hlayer t ht hvisited
  refine ⟨_, rfl, hlists, fun hall name hdepends => ?_, fun hshows => ?_⟩
  · exact (hlists.unique hall name).mpr hdepends
  · exact hlists.congr fun name => ⟨TypeDeclaration.FirstDependsOn.dependsOn, hshows name⟩

/-- A mention of a repository, under a layer or none. -/
def repositoryOf (layer : Option Layer) : TypeReference :=
  ⟨"Repository", false, false, layer, [], by decide⟩

/-- A type that mentions the repository twice, as infrastructure. -/
def storedType : TypeDeclaration :=
  { bareType with
    supertypes := [repositoryOf (some .infrastructure)]
    references := [repositoryOf (some .infrastructure)] }

/-- A unit of the domain layer with this type. -/
def storedUnit : SourceUnit :=
  { firstUnit with types := [storedType], types_nodup := List.nodup_singleton _ }

theorem mem_mentions_storedType {r : TypeReference} (h : storedType.Mentions r) :
    r = repositoryOf (some .infrastructure) := by
  have hmem := TypeDeclaration.mem_mentions_iff.mpr h
  simpa [TypeDeclaration.mentions, storedType, bareType] using hmem

theorem layering_by_first_mention_sample :
    ofDefinitions builtinRules = .ok builtin ∧ (∀ c ∈ sampleConfiguration, c.UsesContext) ∧
      storedType.DependsOn .infrastructure "Repository" ∧
      ∃ rules result, (builtin.afterAll sampleConfiguration).snapshot = .ok rules ∧
        Evaluator.evaluate ⟨none⟩ storedUnit rules (fun _ => .whole 0) = .ok result ∧
        ListsNames ((Site.type storedType).location storedUnit.path)
          (storedType.DependsOn .infrastructure)
          ((result.findings.filter (·.ruleId = Builtin.layeredDependency.ruleId)).filter
            (·.location.typeName = some storedType.qualifiedName)) := by
  have hcalls : ∀ c ∈ sampleConfiguration, c.UsesContext := by
    simp [sampleConfiguration, RegistryCall.UsesContext]
  have hagree : storedType.LayersAgree := by
    intro r s hr hs _
    rw [mem_mentions_storedType hr, mem_mentions_storedType hs]
  have hdepends : storedType.DependsOn .infrastructure "Repository" :=
    ⟨repositoryOf (some .infrastructure), .supertype (by simp [storedType]), rfl, rfl⟩
  obtain ⟨rules, config, result, hsnapshot, hconfig, hresult, -, hlisted⟩ :=
    layering_by_first_mention ofDefinitions_builtinRules hcalls storedUnit fun _ => .whole 0
  have henabled : config.enabled = true := by
    have hstart : (builtin.afterAll sampleConfiguration).config
        Builtin.layeredDependency.ruleId = .ok Builtin.layeredDependency.defaults := by rfl
    rw [hstart] at hconfig
    rw [← Except.ok.inj hconfig]
    rfl
  obtain ⟨found, rfl, -, hiff⟩ := hlisted henabled rfl storedType (by simp [storedUnit]) rfl
  exact ⟨ofDefinitions_builtinRules, hcalls, hdepends, rules, result, hsnapshot, hresult,
    hiff.mpr (hagree.showsFirst _)⟩

/-- A type that mentions the repository first under no layer and then as infrastructure. -/
def halfKnownType : TypeDeclaration :=
  { bareType with
    supertypes := [repositoryOf none]
    references := [repositoryOf (some .infrastructure)] }

/-- A unit of the domain layer with this type. -/
def halfKnownUnit : SourceUnit :=
  { firstUnit with types := [halfKnownType], types_nodup := List.nodup_singleton _ }

/-- **A first mention of unknown layer hides a dependency.** The rule is enabled, the unit is of the
domain layer, and its type refers to the infrastructure; but the same name stands among the
supertypes, without a layer, and nothing is found. -/
theorem first_mention_hides_layer :
    halfKnownUnit.layer = some .domain ∧ halfKnownType ∈ halfKnownUnit.types ∧
      halfKnownType.isExempt = false ∧ halfKnownType.DependsOn .infrastructure "Repository" ∧
      ∃ rules config result, builtin.snapshot = .ok rules ∧
        builtin.config Builtin.layeredDependency.ruleId = .ok config ∧ config.enabled = true ∧
        Evaluator.evaluate ⟨none⟩ halfKnownUnit rules (fun _ => .whole 0) = .ok result ∧
        (result.findings.filter (·.ruleId = Builtin.layeredDependency.ruleId)).filter
          (·.location.typeName = some halfKnownType.qualifiedName) = [] := by
  have hmem : halfKnownType ∈ halfKnownUnit.types := by simp [halfKnownUnit]
  obtain ⟨rules, config, hsnapshot, hconfig, hunits⟩ :=
    @lists_of_layering [] fun _ hc => absurd hc List.not_mem_nil
  have henabled : config.enabled = true := by
    rw [← Except.ok.inj hconfig]
    rfl
  refine ⟨rfl, hmem, rfl, ⟨repositoryOf (some .infrastructure),
    .reference (by simp [halfKnownType]), rfl, rfl⟩, rules, config,
    halfKnownUnit.evaluation rules, hsnapshot, hconfig, henabled, rfl, ?_⟩
  -- the only name is first mentioned without a layer
  have hnone : ∀ name, ¬ halfKnownType.FirstDependsOn .infrastructure name := by
    rintro name ⟨r, hfirst, hlayer⟩
    obtain ⟨hmentions, hname⟩ := TypeDeclaration.mentions_of_firstMention? hfirst
    have hr : r = repositoryOf none ∨ r = repositoryOf (some .infrastructure) := by
      have hmentioned := TypeDeclaration.mem_mentions_iff.mpr hmentions
      simpa [TypeDeclaration.mentions, halfKnownType, bareType] using hmentioned
    have hrepository : name = "Repository" := by
      rcases hr with rfl | rfl <;> exact hname.symm
    rw [hrepository] at hfirst
    rw [← Option.some.inj hfirst] at hlayer
    exact absurd hlayer (by simp [repositoryOf])
  have hlists := (hunits halfKnownUnit).2 henabled rfl halfKnownType hmem rfl
  exact hlists.eq_nil hnone

end Registry

end Conformance
