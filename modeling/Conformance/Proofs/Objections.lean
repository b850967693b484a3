import Conformance.Proofs.Measurements
import Mathlib.Algebra.GroupWithZero.Nat

/-!
# Rules that object

Some rules measure nothing. They object to an element or they do not, and make one finding at every
element that they object to: an if statement with an else branch, a field of a primitive type, a
method in the shape of an accessor.

Of such a rule there is one thing to prove, namely which sites it objects to
(`RuleDefinition.Objects`). What an evaluation contains of the rule then follows: the sites of the
unit that it objects to and its findings correspond one to one (`SourceUnit.Objected`), so that
findings are counted by counting elements.
-/

set_option autoImplicit false

namespace Conformance

/-! ## 1. One finding for each objection -/

/-- If an item leads to one result where `p` holds of it and to none where it does not, then the
results correspond one to one to the items of which `p` holds. -/
theorem forall₂_filter_flatMap {α β : Type} {R : α → β → Prop} {p : α → Bool} {g : α → List β}
    (hone : ∀ a, p a = true → ∃ b, g a = [b] ∧ R a b) (hnone : ∀ a, p a = false → g a = [])
    (items : List α) : List.Forall₂ R (items.filter p) (items.flatMap g) := by
  induction items with
  | nil => exact .nil
  | cons a rest ih =>
    rw [List.flatMap_cons]
    cases hp : p a with
    | true =>
      obtain ⟨b, hb, hR⟩ := hone a hp
      rw [List.filter_cons_of_pos hp, hb]
      exact .cons hR ih
    | false =>
      rw [List.filter_cons_of_neg (by simp [hp]), hnone a hp]
      exact ih

/-- In the unit, under any configuration, the rule makes one finding at a site that it objects to,
as `tells` describes it, and none at any other. -/
structure RuleDefinition.Objects (d : RuleDefinition) (u : SourceUnit) (p : Site → Bool)
    (tells : ConfiguredRule → Site → Finding → Prop) : Prop where
  objects : ∀ config site, p site = true →
    ∃ f, site.reports u ⟨d, config⟩ = [f] ∧ tells ⟨d, config⟩ site f
  passes : ∀ config site, p site = false → site.reports u ⟨d, config⟩ = []

/-- What is left in an evaluation of the findings of one rule: nothing if the rule is disabled, and
otherwise one finding for each of the sites, sorted. -/
structure SourceUnit.Objected (config : RuleConfig) (sites : List Site)
    (tells : Site → Finding → Prop) (found : List Finding) : Prop where
  disabled : config.enabled = false → found = []
  enabled : config.enabled = true → ∃ made, List.Forall₂ tells sites made ∧ IsStableSort made found

variable {u : SourceUnit} {config : RuleConfig} {d : RuleDefinition} {p : Site → Bool}
  {calls : List RegistryCall}

/-- So there are as many findings as there are sites. -/
theorem SourceUnit.Objected.length_eq {sites : List Site} {tells : Site → Finding → Prop}
    {found : List Finding} (h : Objected config sites tells found)
    (henabled : config.enabled = true) : found.length = sites.length := by
  obtain ⟨made, hmade, hsorted⟩ := h.enabled henabled
  rw [hsorted.perm.length_eq, hmade.length_eq]

theorem RuleDefinition.Objects.objected {tells : ConfiguredRule → Site → Finding → Prop}
    (h : d.Objects u p tells) (hlayer : u.layer ≠ none) :
    SourceUnit.Objected config (u.sites.filter p) (tells ⟨d, config⟩)
      (if config.enabled = true ∧ u.layer ≠ none then
        sortFindings (u.sites.flatMap (Site.reports u ⟨d, config⟩)) else []) where
  disabled hdisabled := if_neg (by simp [hdisabled])
  enabled henabled := by
    rw [if_pos ⟨henabled, hlayer⟩]
    exact ⟨_, forall₂_filter_flatMap (h.objects config) (h.passes config) u.sites,
      isStableSort_iff.mpr rfl⟩

/-- **What an evaluation contains of a rule that objects.** The rule is looked at site by site, and
the order of sites is all that the evaluation adds. -/
theorem Registry.objected_of_builtin (hcalls : ∀ c ∈ calls, c.UsesContext) :
    ∃ rules, (builtin.afterAll calls).snapshot = .ok rules ∧
      ∀ d ∈ builtinRules, ∃ config, (builtin.afterAll calls).config d.ruleId = .ok config ∧
        ∀ (u : SourceUnit) (p : Site → Bool) (tells : ConfiguredRule → Site → Finding → Prop),
          u.layer ≠ none → d.Objects u p tells →
            SourceUnit.Objected config (u.sites.filter p) (tells ⟨d, config⟩)
              ((u.evaluate rules).findings.filter (·.ruleId = d.ruleId)) := by
  obtain ⟨rules, hsnapshot, hreports⟩ := reports_of_builtin hcalls
  refine ⟨rules, hsnapshot, fun d hd => ?_⟩
  obtain ⟨config, hconfig, -, hselected⟩ := hreports d hd
  refine ⟨config, hconfig, fun u p tells hlayer hobjects => ?_⟩
  rw [hselected u]
  exact hobjects.objected hlayer

/-- A check that makes one finding by the plain call, where its rule applies to a complete
element. -/
theorem Site.reports_eq_finding {site : Site} {message : String} {payload : Payload}
    (happlies : d.appliesTo site.element = .ok true) (hcomplete : site.element.missing = [])
    (hmessage : message ≠ "") (hfree : Context.NamesFree Context.callNames payload)
    (hrun : site.checkRun u ⟨d, config⟩ = .ofExcept (do
      let f ← (site.context u ⟨d, config⟩).finding site.element message payload
      return [f])) :
    site.reports u ⟨d, config⟩ = [(site.context u ⟨d, config⟩).signed site message payload] := by
  refine reports_eq_of_result happlies hcomplete (hrun.trans (congrArg CheckRun.ofExcept ?_))
  have hmade := Context.finding_eq_ok (context_at u ⟨d, config⟩ site) hmessage hfree
  exact bind_ok_iff.mpr ⟨_, hmade, rfl⟩

/-- A check that comes to nothing reports nothing, whether it is called or not. -/
theorem Site.reports_of_silent {site : Site}
    (hrun : site.checkRun u ⟨d, config⟩ = .ofExcept (.ok [])) :
    site.reports u ⟨d, config⟩ = [] := by
  unfold reports
  rw [hrun]
  exact ite_self _

/-! ## 2. Counting in a unit -/

/-- The sum over the types that are not exempt. -/
def SourceUnit.total (u : SourceUnit) (count : TypeDeclaration → Nat) : Nat :=
  ((u.types.filter (!·.isExempt)).map count).sum

/-- The sum over the methods of a type. -/
def TypeDeclaration.total (t : TypeDeclaration) (count : Method → Nat) : Nat :=
  (t.methods.map count).sum

/-- The sites of a method with a property: the method itself, parameters and statements. -/
theorem Method.countP_sites (p : Site → Bool) (t : TypeDeclaration) (m : Method) :
    (m.sites t).countP p = (if p (.method t m) = true then 1 else 0) +
      m.parameters.countP (fun a => p (.parameter t m a)) +
      m.statements.countP (fun s => p (.statement t m s)) := by
  unfold Method.sites
  rw [List.cons_append, List.countP_cons, List.countP_append, List.countP_map, List.countP_map]
  simp only [Function.comp_def]
  omega

/-- The sites of a type with a property: the type itself, fields and what is in the methods. -/
theorem TypeDeclaration.countP_sites (p : Site → Bool) (t : TypeDeclaration) :
    t.sites.countP p = (if p (.type t) = true then 1 else 0) +
      t.fields.countP (fun f => p (.field t f)) +
      t.total fun m => (m.sites t).countP p := by
  unfold TypeDeclaration.sites TypeDeclaration.total
  rw [List.cons_append, List.countP_cons, List.countP_append, List.countP_map, List.countP_flatMap]
  simp only [Function.comp_def]
  omega

/-- The sites of a unit with a property that the unit itself does not have. -/
theorem SourceUnit.countP_sites {p : Site → Bool} (hunit : p (.unit u) = false) :
    u.sites.countP p = u.total fun t => t.sites.countP p := by
  unfold SourceUnit.sites SourceUnit.total
  rw [List.countP_cons_of_neg (by simp [hunit]), List.countP_flatMap]
  rfl

end Conformance
