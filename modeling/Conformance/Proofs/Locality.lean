import Conformance.Proofs.Exemption
import Conformance.Proofs.Independence

/-!
# Types are evaluated on their own

What a local rule says about an element depends on the element and its owners, and of the unit on
its path and layer only. The types of a unit are thus evaluated each on its own, and this file says
so in two ways.

* **Locality.** What is found in a type is found in it also if it is the only type of the unit.
* **Order.** The types may come in any order. Before the findings are sorted, the order of the types
  shows in them; but the name of its type is part of the key of a finding, and no two types share a
  name. So at every key there are findings of one type only, or of the unit itself, whose key has no
  name where a type would have one (the name of a type is never empty).

Both rest on one description of what is found in a unit before sorting: first what is found at the
unit, then what is found in each type (`SourceUnit.visitFindings_eq_append`).
-/

set_option autoImplicit false

namespace Conformance

/-! ## 1. What is found in one type -/

/-- What is found at a type and at everything in it. -/
def TypeDeclaration.findings (u : SourceUnit) (rules : List ConfiguredRule) (t : TypeDeclaration) :
    List Finding :=
  t.sites.flatMap fun site => (site.visit u rules).findings

namespace SourceUnit

variable {u v : SourceUnit} {rules : RuleSet} {t : TypeDeclaration}

theorem visitFindings_eq_append (u : SourceUnit) (rules : List ConfiguredRule) :
    u.visitFindings rules = ((Site.unit u).visit u rules).findings ++
      (u.types.filter (!·.isExempt)).flatMap (TypeDeclaration.findings u rules) := by
  unfold visitFindings sites TypeDeclaration.findings
  rw [List.flatMap_cons, List.flatMap_assoc]

/-- What is found at the sites of a type, and stands where it is found, stands in the type. -/
theorem typeName_of_mem_sites {found : Site → List Finding}
    (hplace : ∀ site, ∀ f ∈ found site, f.location = site.location u.path) {f : Finding}
    (hf : f ∈ t.sites.flatMap found) : f.location.typeName = some t.qualifiedName := by
  obtain ⟨site, hsite, hfound⟩ := List.mem_flatMap.mp hf
  rw [hplace site f hfound, Site.typeName_location, Site.type?_of_mem_sites hsite, Option.map_some]

/-- Selecting what stands in a type selects what was found at the sites of the type, if everything
stands where it is found. -/
theorem filter_typeName_sites {found : Site → List Finding}
    (hplace : ∀ site, ∀ f ∈ found site, f.location = site.location u.path) (ht : t ∈ u.types)
    (hvisited : t.isExempt = false) :
    (u.sites.flatMap found).filter (·.location.typeName = some t.qualifiedName) =
      t.sites.flatMap found := by
  have hunit : (found (.unit u)).filter (·.location.typeName = some t.qualifiedName) = [] := by
    rw [List.filter_eq_nil_iff]
    intro f hf
    simp [hplace _ f hf, Site.location]
  have hnames : ((u.types.filter (!·.isExempt)).map fun t => some t.qualifiedName).Nodup := by
    have hnodup := u.types_nodup.map fun _ _ => Option.some.inj
    rw [List.map_map] at hnodup
    exact hnodup.sublist (List.filter_sublist.map _)
  have hmem : t ∈ u.types.filter (!·.isExempt) := List.mem_filter.mpr ⟨ht, by simp [hvisited]⟩
  unfold sites
  rw [List.flatMap_cons, List.flatMap_assoc, List.filter_append, hunit, List.nil_append]
  exact filter_flatMap_of_tag hnames (fun _ _ _ hf => typeName_of_mem_sites hplace hf) hmem

/-- What local rules find stands at the site where they find it. -/
theorem location_of_local (hrules : ∀ rule ∈ rules.rules, rule.definition.Local) (site : Site) :
    ∀ f ∈ (site.visit u rules.rules).findings, f.location = site.location u.path :=
  fun _ hf => Site.location_of_mem_visit (fun rule hrule => (hrules rule hrule).check.places) hf

/-- **One type.** What is found in a type does not depend on the other types of the unit. -/
theorem Alike.findings (halike : u.Alike v)
    (hrules : ∀ rule ∈ rules.rules, rule.definition.Local) (t : TypeDeclaration) :
    t.findings v rules.rules = t.findings u rules.rules := by
  unfold TypeDeclaration.findings
  refine List.flatMap_congr fun site _ => ?_
  rw [(Site.Alike.same site).visit halike hrules]

/-- A view of the findings that is the same for the visits to two units that are alike is the same
for their evaluations. -/
theorem Alike.view_evaluate {β : Type} (view : List Finding → β) (halike : u.Alike v)
    (h : view (sortFindings (v.visitFindings rules.rules)) =
      view (sortFindings (u.visitFindings rules.rules))) :
    view (v.evaluate rules).findings = view (u.evaluate rules).findings := by
  rw [findings_evaluate, findings_evaluate]
  unfold unsortedFindings
  rw [halike.layer, halike.missingNote]
  split
  · rfl
  · split
    · rfl
    · exact h

/-! ## 2. One type alone -/

/-- The unit with one of its types. -/
def only (u : SourceUnit) (t : TypeDeclaration) : SourceUnit :=
  { u with types := [t], types_nodup := List.nodup_singleton _ }

theorem alike_only (u : SourceUnit) (t : TypeDeclaration) : u.Alike (u.only t) := ⟨rfl, rfl⟩

/-- **Locality.** What an evaluation finds in a type, it finds there if the type is alone. -/
theorem filter_typeName_only (hrules : ∀ rule ∈ rules.rules, rule.definition.Local)
    (ht : t ∈ u.types) (hvisited : t.isExempt = false) :
    ((u.only t).evaluate rules).findings.filter (·.location.typeName = some t.qualifiedName) =
      (u.evaluate rules).findings.filter (·.location.typeName = some t.qualifiedName) := by
  have halike := u.alike_only t
  refine halike.view_evaluate (List.filter (·.location.typeName = some t.qualifiedName)) ?_
  have hwhole : (u.visitFindings rules.rules).filter
      (·.location.typeName = some t.qualifiedName) = t.findings u rules.rules :=
    filter_typeName_sites (location_of_local hrules) ht hvisited
  have halone : ((u.only t).visitFindings rules.rules).filter
      (·.location.typeName = some t.qualifiedName) = t.findings (u.only t) rules.rules :=
    filter_typeName_sites (location_of_local hrules) (List.mem_singleton.mpr rfl) hvisited
  rw [filter_sortFindings, filter_sortFindings, hwhole, halone, halike.findings hrules t]

/-! ## 3. Types in another order -/

/-- **Order.** An evaluation finds the same, in the same order, whatever the order of the types. -/
theorem findings_evaluate_perm (hrules : ∀ rule ∈ rules.rules, rule.definition.Local)
    (halike : u.Alike v) (hperm : v.types.Perm u.types) :
    (v.evaluate rules).findings = (u.evaluate rules).findings := by
  refine halike.view_evaluate id ?_
  have hunit : ((Site.unit v).visit v rules.rules).findings =
      ((Site.unit u).visit u rules.rules).findings := by
    rw [(Site.Alike.unit halike).visit halike hrules]
  have htypes : (v.types.filter (!·.isExempt)).flatMap (TypeDeclaration.findings v rules.rules) =
      (v.types.filter (!·.isExempt)).flatMap (TypeDeclaration.findings u rules.rules) :=
    List.flatMap_congr fun t _ => halike.findings hrules t
  have hnames : ((u.types.filter (!·.isExempt)).map (·.qualifiedName)).Nodup :=
    u.types_nodup.sublist (List.filter_sublist.map _)
  have htags : ∀ t ∈ u.types.filter (!·.isExempt), ∀ f ∈ t.findings u rules.rules,
      f.location.typeName.getD "" = t.qualifiedName := by
    intro t _ f hf
    rw [typeName_of_mem_sites (location_of_local hrules) hf, Option.getD_some]
  show sortFindings _ = sortFindings _
  rw [visitFindings_eq_append, visitFindings_eq_append, hunit, htypes]
  refine sortFindings_append_congr _ ?_
  exact sortFindings_flatMap_of_tag (hperm.filter _) hnames htags fun _ _ hkey =>
    congrArg SortKey.typeName hkey

end SourceUnit

/-- **Types are evaluated on their own.** The built-in rules are local. Take local rules under any
configuration and any unit, and evaluate without a time budget. For every type that is not exempt,
the findings in the type are, in their order, those in the type if it is the only one of the unit.
And any other order of the types leads to the same findings in the same order. -/
theorem Evaluator.types_evaluated_alone :
    (∀ d ∈ builtinRules, d.Local) ∧
      ∀ (u : SourceUnit) (rules : RuleSet), (∀ rule ∈ rules.rules, rule.definition.Local) →
        ∀ clock : Clock, ∃ result, Evaluator.evaluate ⟨none⟩ u rules clock = .ok result ∧
          (∀ t ∈ u.types, t.isExempt = false →
            ∃ alone, Evaluator.evaluate ⟨none⟩ (u.only t) rules clock = .ok alone ∧
              alone.findings.filter (·.location.typeName = some t.qualifiedName) =
                result.findings.filter (·.location.typeName = some t.qualifiedName)) ∧
          ∀ v : SourceUnit, v.path = u.path → v.layer = u.layer → v.types.Perm u.types →
            ∃ permuted, Evaluator.evaluate ⟨none⟩ v rules clock = .ok permuted ∧
              permuted.findings = result.findings := by
  refine ⟨fun d hd => Builtin.local_of_mem_builtinRules hd, fun u rules hrules clock => ?_⟩
  refine ⟨u.evaluation rules, evaluate_unbounded u rules clock, ?_, ?_⟩
  · intro t ht hvisited
    exact ⟨(u.only t).evaluation rules, evaluate_unbounded _ rules clock,
      SourceUnit.filter_typeName_only hrules ht hvisited⟩
  · intro v hpath hlayer hperm
    exact ⟨v.evaluation rules, evaluate_unbounded v rules clock,
      SourceUnit.findings_evaluate_perm hrules ⟨hpath, hlayer⟩ hperm⟩

/-- Another type with nothing in it. -/
def otherType : TypeDeclaration :=
  { bareType with qualifiedName := "S", qualifiedName_ne := by decide }

/-- A unit with two types. -/
def twoTypeUnit : SourceUnit :=
  { firstUnit with types := [bareType, otherType], types_nodup := by decide }

/-- The same types the other way round. -/
def swappedUnit : SourceUnit :=
  { firstUnit with types := [otherType, bareType], types_nodup := by decide }

theorem Evaluator.types_evaluated_alone_sample :
    (∀ rule ∈ reporterSet.rules, rule.definition.Local) ∧
      ∃ result alone, Evaluator.evaluate ⟨none⟩ twoTypeUnit reporterSet (fun _ => .whole 0) =
          .ok result ∧
        Evaluator.evaluate ⟨none⟩ (twoTypeUnit.only otherType) reporterSet (fun _ => .whole 0) =
          .ok alone ∧
        alone.findings.filter (·.location.typeName = some "S") =
          result.findings.filter (·.location.typeName = some "S") ∧
        ∃ swapped, Evaluator.evaluate ⟨none⟩ swappedUnit reporterSet (fun _ => .whole 0) =
            .ok swapped ∧ swapped.findings = result.findings := by
  have hrules : ∀ rule ∈ reporterSet.rules, rule.definition.Local := by
    intro rule hrule
    rcases List.mem_cons.mp hrule with rfl | hrule
    · exact ⟨Predicate.blind_kindIn _, CheckStep.local_toCheck _⟩
    · rw [List.mem_singleton.mp hrule]
      exact ⟨Predicate.blind_kindIn _, CheckStep.local_toCheck _⟩
  obtain ⟨result, hresult, halone, hpermuted⟩ :=
    Evaluator.types_evaluated_alone.2 twoTypeUnit reporterSet hrules fun _ => .whole 0
  obtain ⟨alone, hrun, hsame⟩ := halone otherType (by simp [twoTypeUnit]) rfl
  exact ⟨hrules, result, alone, hresult, hrun, hsame, hpermuted swappedUnit rfl rfl (.swap ..)⟩

end Conformance
