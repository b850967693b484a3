import Conformance.Proofs.Readings

/-!
# Source lines are carried along

Front ends differ in whether they supply source lines, and in how they fill in mutability,
visibility and the tags of types. None of this is read by a built-in rule, and lines take no part in
the order of findings. So units that differ in nothing else (`SourceUnit.Relined`) lead to
evaluations that differ in the lines of locations only.

Statements are compared by erasing the lines of a whole tree. Walking over a tree commutes with the
erasure, so trees that are the same without lines are walked through statement by statement, and
what is measured of the walk is the same. The rest is the comparison of units that resemble each
other site by site.
-/

set_option autoImplicit false

namespace Conformance

/-! ## 1. What is only carried along -/

/-- The place without its line. -/
def Location.withoutLine (l : Location) : Location := { l with line := none }

/-- Places that agree in everything but their lines. -/
theorem Location.withoutLine_eq {l k : Location} (hpath : k.path = l.path)
    (htype : k.typeName = l.typeName) (hmember : k.memberName = l.memberName)
    (hposition : k.position = l.position) : k.withoutLine = l.withoutLine := by
  unfold withoutLine
  simp only [hpath, htype, hmember, hposition]

/-- The finding without the line of its place. -/
def Finding.withoutLine (f : Finding) : Finding := { f with location := f.location.withoutLine }

/-- The evaluation without the lines of places. -/
def Evaluation.withoutLines (e : Evaluation) : Evaluation :=
  { e with findings := e.findings.map Finding.withoutLine }

namespace Statement

mutual

/-- The statement without lines, its own and those of everything nested in it. -/
def withoutLines : Statement → Statement
  | ⟨kind, depth, position, _, children, length, target⟩ =>
    ⟨kind, depth, position, none, withoutLinesAll children, length, target⟩

/-- The same for the statements of a list. -/
def withoutLinesAll : List Statement → List Statement
  | [] => []
  | s :: rest => s.withoutLines :: withoutLinesAll rest

end

end Statement

/-- The same field, but for its line, mutability and visibility. -/
structure Field.Relined (f g : Field) : Prop where
  name : g.name = f.name
  type? : g.type? = f.type?
  isInfrastructureUtility : g.isInfrastructureUtility = f.isInfrastructureUtility

/-- The same method, but for its visibility and for lines, its own and those of its statements. -/
structure Method.Relined (m n : Method) : Prop where
  name : n.name = m.name
  parameters : n.parameters = m.parameters
  returnType : n.returnType = m.returnType
  isAccessor : n.isAccessor = m.isAccessor
  body : Statement.withoutLinesAll n.body = Statement.withoutLinesAll m.body

/-- The same type, but for its tags and its line, and but for what its fields and methods may
differ in. The references that it mentions keep their tags. -/
structure TypeDeclaration.Relined (t s : TypeDeclaration) : Prop where
  qualifiedName : s.qualifiedName = t.qualifiedName
  kind : s.kind = t.kind
  supertypes : s.supertypes = t.supertypes
  references : s.references = t.references
  isExempt : s.isExempt = t.isExempt
  lineSpan : s.lineSpan = t.lineSpan
  fields : List.Forall₂ Field.Relined t.fields s.fields
  methods : List.Forall₂ Method.Relined t.methods s.methods

/-- The same unit, but for what its types may differ in. -/
structure SourceUnit.Relined (u v : SourceUnit) : Prop where
  path : v.path = u.path
  layer : v.layer = u.layer
  types : List.Forall₂ TypeDeclaration.Relined u.types v.types

/-! ## 2. Statements -/

namespace Statement

variable {s r : Statement}

@[simp] theorem kind_withoutLines (s : Statement) : s.withoutLines.kind = s.kind := by
  cases s; rfl

@[simp] theorem depth_withoutLines (s : Statement) : s.withoutLines.depth = s.depth := by
  cases s; rfl

@[simp] theorem position_withoutLines (s : Statement) : s.withoutLines.position = s.position := by
  cases s; rfl

@[simp] theorem callChainLength_withoutLines (s : Statement) :
    s.withoutLines.callChainLength = s.callChainLength := by
  cases s; rfl

@[simp] theorem callTarget_withoutLines (s : Statement) :
    s.withoutLines.callTarget = s.callTarget := by
  cases s; rfl

/-- Leaving out the lines of a body is leaving them out of each statement. -/
theorem withoutLinesAll_eq_map (body : List Statement) :
    withoutLinesAll body = body.map withoutLines := by
  induction body with
  | nil => rfl
  | cons s rest ih => rw [withoutLinesAll, ih, List.map_cons]

/-- The else branches are the same ones: which child is one is told by its kind. -/
theorem elseBranches_withoutLines (s : Statement) :
    s.withoutLines.elseBranches = s.elseBranches.map withoutLines := by
  have hchildren : s.withoutLines.children = s.children.map withoutLines := by
    rw [← withoutLinesAll_eq_map]
    cases s; rfl
  unfold elseBranches
  rw [hchildren, List.filter_map]
  simp only [Function.comp_def, kind_withoutLines]

mutual

/-- Walking over a statement commutes with erasing lines, by induction on the tree. -/
theorem walk_withoutLines : (s : Statement) → s.withoutLines.walk = s.walk.map withoutLines
  | ⟨kind, depth, position, line, children, length, target⟩ => by
    rw [walk_eq_cons ⟨kind, depth, position, line, children, length, target⟩, List.map_cons,
      ← walkAll_withoutLinesAll children]
    rfl

theorem walkAll_withoutLinesAll : (body : List Statement) →
    walkAll (withoutLinesAll body) = (walkAll body).map withoutLines
  | [] => rfl
  | s :: rest => by
    rw [withoutLinesAll, walkAll, walkAll, List.map_append, walk_withoutLines s,
      walkAll_withoutLinesAll rest]

end

/-- Statements that are the same without lines resemble each other. -/
theorem resembles_of_withoutLines (h : r.withoutLines = s.withoutLines) : s.Resembles r where
  kind := by simpa using congrArg Statement.kind h
  position := by simpa using congrArg Statement.position h
  callChainLength := by simpa using congrArg Statement.callChainLength h
  callTarget := by simpa using congrArg Statement.callTarget h
  elsePositions := by
    have hpositions := congrArg (fun s => s.elseBranches.map (·.position)) h
    simpa only [elseBranches_withoutLines, List.map_map, Function.comp_def,
      position_withoutLines] using hpositions

end Statement

/-! ## 3. Methods, types and units -/

/-- A list that is related to another item by item has the same values of whatever the relation
keeps. -/
theorem map_eq_of_forall₂ {α β : Type} {R : α → α → Prop} {f : α → β} {first second : List α}
    (h : List.Forall₂ R first second) (hf : ∀ a b, R a b → f b = f a) :
    second.map f = first.map f := by
  induction h with
  | nil => rfl
  | cons hr _ ih => rw [List.map_cons, List.map_cons, hf _ _ hr, ih]

namespace Method.Relined

variable {m n : Method}

/-- The statements of a relined body are the same up to their lines, in the same order. -/
theorem statements (h : m.Relined n) :
    n.statements.map Statement.withoutLines = m.statements.map Statement.withoutLines := by
  unfold Method.statements
  rw [← Statement.walkAll_withoutLinesAll, ← Statement.walkAll_withoutLinesAll, h.body]

/-- A relined method is read in the same way: nothing that rules read of a method is a line. -/
theorem resembles (h : m.Relined n) : m.Resembles n where
  name := h.name
  isAccessor := h.isAccessor
  maxNestingDepth := by
    have hdepth : ∀ k : Method, k.maxNestingDepth =
        (k.statements.map Statement.withoutLines).foldl (fun d s => max d s.depth) 0 := by
      intro k
      rw [List.foldl_map]
      simp only [Statement.depth_withoutLines]
      rfl
    rw [hdepth, hdepth, h.statements]
  statementCount := by
    have hlength := congrArg List.length h.statements
    rwa [List.length_map, List.length_map] at hlength

end Method.Relined

namespace TypeDeclaration.Relined

variable {t s : TypeDeclaration}

/-- Types are mentioned where they were, and their lines are not read. -/
theorem mentions (h : t.Relined s) : s.mentions = t.mentions := by
  have hfields : s.fields.filterMap (·.type?) = t.fields.filterMap (·.type?) := by
    have htypes : s.fields.map (·.type?) = t.fields.map (·.type?) :=
      map_eq_of_forall₂ h.fields fun _ _ hfield => hfield.type?
    have hknown := congrArg (List.filterMap id) htypes
    rwa [List.filterMap_map, List.filterMap_map] at hknown
  have hmethods : (s.methods.flatMap fun m =>
      m.parameters.filterMap (·.type?) ++ m.returnType.toList) =
        t.methods.flatMap fun m => m.parameters.filterMap (·.type?) ++ m.returnType.toList := by
    rw [List.flatMap_def, List.flatMap_def, map_eq_of_forall₂ h.methods]
    intro m n hmethod
    rw [hmethod.parameters, hmethod.returnType]
  unfold TypeDeclaration.mentions
  rw [h.supertypes, h.references, hfields, hmethods]

/-- The same for a type, of which one number is made of lines; it is left as it is. -/
theorem resembles (h : t.Relined s) : t.Resembles s where
  qualifiedName := h.qualifiedName
  kind := h.kind
  lineSpan := h.lineSpan
  methods := h.methods.length_eq.symm
  instanceVariables := by
    have hflags : s.fields.map (·.isInfrastructureUtility) =
        t.fields.map (·.isInfrastructureUtility) :=
      map_eq_of_forall₂ h.fields fun _ _ hfield => hfield.isInfrastructureUtility
    have hcounts := congrArg (List.countP (!·)) hflags
    rw [List.countP_map, List.countP_map] at hcounts
    rwa [← List.countP_eq_length_filter, ← List.countP_eq_length_filter]
  allReferences := by
    unfold allReferences
    rw [h.mentions]

end TypeDeclaration.Relined

/-- The view that leaves lines out. -/
def View.withoutLines : View where
  keeps _ := true
  location := Location.withoutLine
  sortKey_location _ := rfl

/-- What is seen through the view is the evaluation without lines. -/
theorem View.evaluation_withoutLines (e : Evaluation) :
    View.withoutLines.evaluation e = e.withoutLines := by
  have hall : e.findings.filter (View.withoutLines.keeps ·.ruleId) = e.findings :=
    List.filter_eq_self.mpr fun _ _ => rfl
  unfold View.evaluation View.findings
  rw [hall]
  rfl

namespace SourceUnit.Relined

variable {u v : SourceUnit} {t s : TypeDeclaration} {m n : Method}

/-- The sites of a method. -/
theorem method_sites (hpath : v.path = u.path) (htype : s.qualifiedName = t.qualifiedName)
    (h : m.Relined n) :
    List.Forall₂ (Site.Matches View.withoutLines u v) (m.sites t) (n.sites s) := by
  have htypeName := congrArg some htype
  have hmemberName := congrArg some h.name
  have hparameters : List.Forall₂ (Site.Matches View.withoutLines u v)
      (m.parameters.map (.parameter t m)) (n.parameters.map (.parameter s n)) := by
    rw [h.parameters, List.forall₂_map_left_iff, List.forall₂_map_right_iff, List.forall₂_same]
    exact fun p _ => ⟨.parameter p, Location.withoutLine_eq hpath htypeName hmemberName rfl⟩
  have hstatements : List.Forall₂ (Site.Matches View.withoutLines u v)
      (m.statements.map (.statement t m)) (n.statements.map (.statement s n)) := by
    -- relined bodies have the same statements up to their lines, in the same order
    have hpaired := h.statements.symm
    rw [← List.forall₂_eq_eq_eq, List.forall₂_map_left_iff, List.forall₂_map_right_iff] at hpaired
    rw [List.forall₂_map_left_iff, List.forall₂_map_right_iff]
    refine hpaired.imp fun r q hsame => ?_
    have hresembles := Statement.resembles_of_withoutLines hsame.symm
    exact ⟨.statement hresembles, Location.withoutLine_eq hpath htypeName hmemberName
      (congrArg some hresembles.position)⟩
  have hmethod : Site.Matches View.withoutLines u v (.method t m) (.method s n) :=
    ⟨.method h.resembles, Location.withoutLine_eq hpath htypeName hmemberName rfl⟩
  unfold Method.sites
  exact List.rel_append (.cons hmethod hparameters) hstatements

/-- The sites of a type. -/
theorem type_sites (hpath : v.path = u.path) (h : t.Relined s) :
    List.Forall₂ (Site.Matches View.withoutLines u v) t.sites s.sites := by
  have htypeName := congrArg some h.qualifiedName
  have htype : Site.Matches View.withoutLines u v (.type t) (.type s) :=
    ⟨.type h.resembles, Location.withoutLine_eq hpath htypeName rfl rfl⟩
  have hfields : List.Forall₂ (Site.Matches View.withoutLines u v) (t.fields.map (.field t))
      (s.fields.map (.field s)) := by
    rw [List.forall₂_map_left_iff, List.forall₂_map_right_iff]
    exact h.fields.imp fun f g hfield => ⟨.field ⟨hfield.name, hfield.type?⟩,
      Location.withoutLine_eq hpath htypeName (congrArg some hfield.name) rfl⟩
  have hmethods : List.Forall₂ (Site.Matches View.withoutLines u v)
      (t.methods.flatMap (Method.sites t)) (s.methods.flatMap (Method.sites s)) :=
    List.rel_flatMap h.methods fun _ _ hmethod => method_sites hpath h.qualifiedName hmethod
  unfold TypeDeclaration.sites
  exact List.rel_append (.cons htype hfields) hmethods

end SourceUnit.Relined

/-- **The sites of two units** match one by one, if lines are left out. -/
theorem SourceUnit.matches_of_relined {u v : SourceUnit} (h : u.Relined v) :
    u.Matches View.withoutLines v := by
  have hmissing : v.missing = u.missing := by
    unfold missing
    rw [h.layer]
  have hunit : Site.Matches View.withoutLines u v (.unit u) (.unit v) :=
    ⟨.unit hmissing, Location.withoutLine_eq h.path rfl rfl rfl⟩
  have hvisited : List.Forall₂ TypeDeclaration.Relined (u.types.filter (!·.isExempt))
      (v.types.filter (!·.isExempt)) :=
    List.rel_filter (fun t s hrelined => by simp only [hrelined.isExempt]) h.types
  refine ⟨h.path, hmissing, ?_⟩
  unfold sites
  exact .cons hunit (List.rel_flatMap hvisited fun _ _ htype => Relined.type_sites h.path htype)

/-! ## 4. Every registry -/

namespace Registry

/-- **Source lines are only carried along.** Take the registry of the built-in rules after any calls
that configure or reset rules, and two units that are the same but for the lines of types, fields,
methods and statements, the mutability of fields, the visibility of fields and methods, and the tags
of types. A snapshot and evaluations of both without a time budget succeed, and leaving out the
lines of places, the evaluations are the same: the same findings in the same order. -/
theorem lines_only_carried {start : Registry} (hstart : ofDefinitions builtinRules = .ok start)
    {calls : List RegistryCall} (hcalls : ∀ c ∈ calls, c.Configures) {u v : SourceUnit}
    (hrelined : u.Relined v) (clock : Clock) :
    ∃ rules result other, (start.afterAll calls).snapshot = .ok rules ∧
      Evaluator.evaluate ⟨none⟩ u rules clock = .ok result ∧
      Evaluator.evaluate ⟨none⟩ v rules clock = .ok other ∧
      other.withoutLines = result.withoutLines := by
  obtain rfl : start = builtin := Except.ok.inj (hstart.symm.trans ofDefinitions_builtinRules)
  obtain ⟨rules, hsnapshot, hrules⟩ := allBuiltin_of_snapshot hcalls
  have hcompares : View.withoutLines.Compares u v := fun _ _ _ => by rw [hrelined.layer]
  refine ⟨rules, u.evaluation rules, v.evaluation rules, hsnapshot,
    evaluate_unbounded u rules clock, evaluate_unbounded v rules clock, ?_⟩
  rw [← View.evaluation_withoutLines, ← View.evaluation_withoutLines]
  exact SourceUnit.evaluation_of_matches hrules hcompares
    (SourceUnit.matches_of_relined hrelined)

/-- A statement on a line. -/
def linedStatement (line : Option Nat) : Statement := ⟨.return_, 0, 0, line, [], none, none⟩

theorem wellFormed_linedStatement {line : Option Nat} (line_pos : ∀ n ∈ line, 0 < n) :
    ∀ s ∈ [linedStatement line], s.WellFormed := by
  intro s hs
  rw [List.mem_singleton.mp hs]
  exact .intro _ line_pos (by simp [linedStatement]) (by simp [linedStatement])

theorem line_seven_pos : ∀ n ∈ some 7, 0 < n := by simp

/-- A unit with a field and a method of one statement, all on one line. -/
def linedUnit (line : Option Nat) (line_pos : ∀ n ∈ line, 0 < n) (mutability : Mutability)
    (visibility : Visibility) (tags : List TypeTag) : SourceUnit :=
  { firstUnit with
    types := [{ bareType with
      fields := [⟨"size", none, mutability, visibility, false, line, by decide, line_pos⟩]
      fields_nodup := List.nodup_singleton _
      methods := [⟨"clear", [], none, [linedStatement line], visibility, true, line, by decide,
        line_pos, wellFormed_linedStatement line_pos, by simp [linedStatement],
        List.nodup_singleton _, List.nodup_nil⟩]
      tags, line, line_pos }]
    types_nodup := List.nodup_singleton _ }

theorem lines_only_carried_sample :
    ofDefinitions builtinRules = .ok builtin ∧ (∀ c ∈ sampleConfiguration, c.Configures) ∧
      (linedUnit none line_pos_none .final .private_ []).Relined
        (linedUnit (some 7) line_seven_pos .mutable .public_ [.builder]) ∧
      ∃ rules result other, (builtin.afterAll sampleConfiguration).snapshot = .ok rules ∧
        Evaluator.evaluate ⟨none⟩ (linedUnit none line_pos_none .final .private_ []) rules
          (fun _ => .whole 0) = .ok result ∧
        Evaluator.evaluate ⟨none⟩ (linedUnit (some 7) line_seven_pos .mutable .public_ [.builder])
          rules (fun _ => .whole 0) = .ok other ∧
        other.withoutLines = result.withoutLines := by
  have hcalls : ∀ c ∈ sampleConfiguration, c.Configures := by
    simp [sampleConfiguration, RegistryCall.Configures]
  have hrelined : (linedUnit none line_pos_none .final .private_ []).Relined
      (linedUnit (some 7) line_seven_pos .mutable .public_ [.builder]) :=
    ⟨rfl, rfl, .cons ⟨rfl, rfl, rfl, rfl, rfl, rfl, .cons ⟨rfl, rfl, rfl⟩ .nil,
      .cons ⟨rfl, rfl, rfl, rfl, rfl⟩ .nil⟩ .nil⟩
  exact ⟨ofDefinitions_builtinRules, hcalls, hrelined,
    lines_only_carried ofDefinitions_builtinRules hcalls hrelined fun _ => .whole 0⟩

end Registry

end Conformance
