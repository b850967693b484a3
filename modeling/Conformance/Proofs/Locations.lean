import Conformance.Proofs.BuiltinSafety
import Conformance.Proofs.Exemption

/-!
# No dangling locations

A location is made of names and a number, and nothing in it refers to the model: it may name a type
that no unit has, a member of another type, a position at which no statement stands. The locations
of findings are not of this kind. Whatever becomes of a rule at an element, the remark about it is
made at the element, and a rule that reports on the element it was given does so too. So every
finding stands at a site that was visited (`Evaluator.site_of_mem_findings`), and it remains to be
said of each kind of site that everything its location names is there (`SourceUnit.has_location`).
-/

set_option autoImplicit false

namespace Conformance

/-- The member of a type that a name stands for: a field or a method, or several methods of one
name. -/
def TypeDeclaration.HasMember (t : TypeDeclaration) (name : String) : Prop :=
  (∃ f ∈ t.fields, f.name = name) ∨ ∃ m ∈ t.methods, m.name = name

/-- The position of a statement, at any depth, in a method of this name. -/
def TypeDeclaration.HasStatement (t : TypeDeclaration) (name : String) (position : Nat) : Prop :=
  ∃ m ∈ t.methods, m.name = name ∧ ∃ s : Statement, s.Within m.body ∧ s.position = position

/-- A place that there is in a unit, in a part of it that is visited: the path is that of the unit,
the type is one that is not exempt, the type has the member, and a method of that name has the
statement. -/
structure SourceUnit.Has (u : SourceUnit) (l : Location) : Prop where
  path : l.path = u.path
  type : ∀ name ∈ l.typeName, ∃ t ∈ u.types, t.isExempt = false ∧ t.qualifiedName = name
  member : ∀ name ∈ l.memberName, ∃ t ∈ u.types, t.isExempt = false ∧
    l.typeName = some t.qualifiedName ∧ t.HasMember name
  position : ∀ n ∈ l.position, ∃ t ∈ u.types, t.isExempt = false ∧
    l.typeName = some t.qualifiedName ∧ ∃ name, l.memberName = some name ∧ t.HasStatement name n

namespace SourceUnit

variable {u : SourceUnit} {t : TypeDeclaration}

/-- The place of the unit, and the places of all that is in it, one lemma for each form of site. -/
theorem has_unit (u : SourceUnit) : u.Has ((Site.unit u).location u.path) where
  path := rfl
  type := by simp [Site.location]
  member := by simp [Site.location]
  position := by simp [Site.location]

theorem has_type (ht : t ∈ u.types) (hvisited : t.isExempt = false) :
    u.Has ((Site.type t).location u.path) where
  path := rfl
  type := by
    rintro name ⟨⟩
    exact ⟨t, ht, hvisited, rfl⟩
  member := by simp [Site.location]
  position := by simp [Site.location]

/-- A place at a member of a type, not inside it. -/
theorem has_member {l : Location} {name : String} (ht : t ∈ u.types)
    (hvisited : t.isExempt = false) (hmember : t.HasMember name) (hpath : l.path = u.path)
    (htype : l.typeName = some t.qualifiedName) (hname : l.memberName = some name)
    (houtside : l.position = none) : u.Has l where
  path := hpath
  type := by
    rw [htype]
    rintro name ⟨⟩
    exact ⟨t, ht, hvisited, rfl⟩
  member := by
    rw [hname]
    rintro name ⟨⟩
    exact ⟨t, ht, hvisited, htype, hmember⟩
  position := by simp [houtside]

theorem has_statement {m : Method} {s : Statement} (ht : t ∈ u.types)
    (hvisited : t.isExempt = false) (hm : m ∈ t.methods) (hs : s.Within m.body) :
    u.Has ((Site.statement t m s).location u.path) where
  path := rfl
  type := by
    rintro name ⟨⟩
    exact ⟨t, ht, hvisited, rfl⟩
  member := by
    rintro name ⟨⟩
    exact ⟨t, ht, hvisited, rfl, .inr ⟨m, hm, rfl⟩⟩
  position := by
    rintro n ⟨⟩
    exact ⟨t, ht, hvisited, rfl, m.name, rfl, m, hm, rfl, s, hs, rfl⟩

/-- **One site.** Everything that the location of a visited site names is there. A parameter stands
at its method, since a location has no place for it. -/
theorem has_location {site : Site} (hsite : site ∈ u.sites) : u.Has (site.location u.path) := by
  rcases Site.mem_unit_sites.mp hsite with rfl | ⟨t, ht, hvisited, hsite⟩
  · exact u.has_unit
  · rcases Site.mem_type_sites.mp hsite with rfl | ⟨f, hf, rfl⟩ | ⟨m, hm, hsite⟩
    · exact has_type ht hvisited
    · exact has_member ht hvisited (.inl ⟨f, hf, rfl⟩) rfl rfl rfl rfl
    · have hmethod : t.HasMember m.name := .inr ⟨m, hm, rfl⟩
      rcases Site.mem_method_sites.mp hsite with rfl | ⟨p, -, rfl⟩ | ⟨s, hs, rfl⟩
      · exact has_member ht hvisited hmethod rfl rfl rfl rfl
      · exact has_member ht hvisited hmethod rfl rfl rfl rfl
      · exact has_statement ht hvisited hm hs

end SourceUnit

/-- **No dangling locations.** Take any unit and any rules whose findings stand at the elements they
are given, and which fail where they like. Without a time budget an evaluation comes to an end. With
or without one, and whatever the clock says, every finding of an evaluation that comes to an end, be
it a rule's, a remark on a failure or on data that was left out, or the remark that the unit was
abandoned, stands at a place that there is in the unit. -/
theorem Evaluator.locations_exist (u : SourceUnit) {rules : RuleSet}
    (hrules : ∀ rule ∈ rules.rules, Check.Places rule.definition.check) (clock : Clock) :
    (∃ result, Evaluator.evaluate ⟨none⟩ u rules clock = .ok result) ∧
      ∀ (e : Evaluator) (result : Evaluation), e.evaluate u rules clock = .ok result →
        ∀ f ∈ result.findings, u.Has f.location := by
  refine ⟨⟨u.evaluation rules, evaluate_unbounded u rules clock⟩, fun e result hresult f hf => ?_⟩
  obtain ⟨site, hsite, hlocation⟩ := site_of_mem_findings hrules hresult hf
  rw [hlocation]
  exact SourceUnit.has_location hsite

/-- A rule that reports every else branch. -/
def elseReporter : RuleDefinition := PlainRule.definition
  { ruleId := "e"
    description := ""
    category := .size
    appliesTo := Predicate.ofStatementKind .else_
    check := CheckStep.toCheck [.report "m" []] }

/-- The rule set of that one rule. -/
def elseReporterSet : RuleSet where
  rules := [⟨elseReporter, elseReporter.defaults⟩]
  nodup := by decide
  enabled := by decide

theorem Evaluator.locations_exist_sample :
    (∀ rule ∈ elseReporterSet.rules, Check.Places rule.definition.check) ∧
      ∃ result, Evaluator.evaluate ⟨none⟩ Registry.tangledUnit elseReporterSet
          (fun _ => .whole 0) = .ok result ∧
        result.findings.map (·.location.position) = [some 1] ∧
        ∀ f ∈ result.findings, Registry.tangledUnit.Has f.location := by
  have hrules : ∀ rule ∈ elseReporterSet.rules, Check.Places rule.definition.check := by
    intro rule hrule
    rw [List.mem_singleton.mp hrule]
    exact (CheckStep.local_toCheck _).places
  obtain ⟨⟨result, hresult⟩, hhas⟩ :=
    Evaluator.locations_exist Registry.tangledUnit hrules fun _ => .whole 0
  refine ⟨hrules, result, hresult, ?_, hhas ⟨none⟩ result hresult⟩
  -- the branch is the only element that is reported
  have hone : (Registry.tangledUnit.unsortedFindings elseReporterSet).map
      (·.location.position) = [some 1] := by decide
  have hperm := (sortFindings_perm
    (Registry.tangledUnit.unsortedFindings elseReporterSet)).map (·.location.position)
  rw [hone, ← SourceUnit.findings_evaluate] at hperm
  rw [← Except.ok.inj hresult]
  exact List.perm_singleton.mp hperm

end Conformance
