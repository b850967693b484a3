import Conformance.Proofs.Objections

/-!
# Else branches

The rule against else branches looks at one if statement at a time and at the statements directly
under it. What it finds in a whole unit is said here by a recursion over statement trees
(`Statement.branchings`): the if statements with an else branch directly under them, wherever they
stand. Each is found once, however many else branches it has; an else branch under a loop, or
further down, makes no if statement one of them. An `else if` is an if statement in an else branch,
so that a chain of them is found once for each link that has an else branch of its own.
-/

set_option autoImplicit false

namespace Conformance

/-! ## 1. If statements with an else branch -/

namespace Statement

/-- An if statement with an else branch directly under it. -/
def Branches (s : Statement) : Prop := s.kind = .if_ ∧ ∃ c ∈ s.children, c.kind = .else_

instance (s : Statement) : Decidable s.Branches :=
  inferInstanceAs (Decidable (s.kind = .if_ ∧ ∃ c ∈ s.children, c.kind = .else_))

/-- The else branch that comes first among the statements directly under a statement. -/
def FirstElse (s branch : Statement) : Prop :=
  ∃ before after, s.children = before ++ branch :: after ∧ branch.kind = .else_ ∧
    ∀ c ∈ before, c.kind ≠ .else_

mutual

/-- The if statements with an else branch directly under them, among a statement and everything
nested in it. -/
def branchings : Statement → List Statement
  | s@⟨_, _, _, _, children, _, _⟩ =>
    (if s.Branches then [s] else []) ++ branchingsAll children

/-- The same for the statements of a list. -/
def branchingsAll : List Statement → List Statement
  | [] => []
  | s :: rest => s.branchings ++ branchingsAll rest

end

/-- The flag that the rule reads says whether there is an else branch among the children of an if.
-/
theorem hasElse_iff {s : Statement} : s.hasElse = true ↔ s.Branches := by
  unfold hasElse elseBranches Branches
  simp only [Bool.and_eq_true, decide_eq_true_eq, Bool.not_eq_true',
    List.isEmpty_eq_false_iff_exists_mem, List.mem_filter]

/-- There is a first else branch under every statement that the rule looks for. -/
theorem exists_firstElse {s : Statement} (h : s.hasElse = true) :
    ∃ branch rest, s.elseBranches = branch :: rest ∧ s.FirstElse branch := by
  cases hbranches : s.elseBranches with
  | nil =>
    unfold hasElse at h
    rw [hbranches, List.isEmpty_nil, Bool.not_true, Bool.and_false] at h
    exact absurd h Bool.false_ne_true
  | cons branch rest =>
    obtain ⟨before, after, hsplit, hbefore, hkind, -⟩ := List.filter_eq_cons_iff.mp hbranches
    exact ⟨branch, rest, rfl, before, after, hsplit, of_decide_eq_true hkind,
      fun c hc helse => hbefore c hc (decide_eq_true helse)⟩

mutual

/-- The recursion selects from the walk of a statement, so a branching is found at whatever depth it
is, and once. -/
theorem branchings_eq : (s : Statement) → s.branchings = s.walk.filter hasElse
  | ⟨kind, depth, position, line, children, length, target⟩ => by
    rw [branchings, walk, branchingsAll_eq children]
    by_cases h : Branches ⟨kind, depth, position, line, children, length, target⟩
    · rw [if_pos h, List.filter_cons_of_pos (hasElse_iff.mpr h), List.singleton_append]
    · rw [if_neg h, List.filter_cons_of_neg (mt hasElse_iff.mp h), List.nil_append]

theorem branchingsAll_eq : (body : List Statement) →
    branchingsAll body = (walkAll body).filter hasElse
  | [] => rfl
  | s :: rest => by
    rw [branchingsAll, walkAll, List.filter_append, branchings_eq s, branchingsAll_eq rest]

end

/-- The recursion reaches every depth, and nothing but if statements with an else branch directly
under them. -/
theorem mem_branchingsAll {s : Statement} {body : List Statement} :
    s ∈ branchingsAll body ↔ s.Within body ∧ s.Branches := by
  rw [branchingsAll_eq, List.mem_filter, mem_walkAll_iff, hasElse_iff]

end Statement

/-- Statements of a method are told apart by their positions, so none is listed twice. -/
theorem Method.nodup_branchings (m : Method) : (Statement.branchingsAll m.body).Nodup := by
  rw [Statement.branchingsAll_eq]
  exact (List.Nodup.of_map _ m.positions_nodup).filter _

/-- The if statements of a unit with an else branch directly under them, in types that are not
exempt. -/
def SourceUnit.branchings (u : SourceUnit) : List Site :=
  (u.types.filter (!·.isExempt)).flatMap fun t => t.methods.flatMap fun m =>
    (Statement.branchingsAll m.body).map (.statement t m)

/-! ## 2. What the rule objects to -/

/-- The site of a statement that the rule looks for. -/
def Site.hasElse : Site → Bool
  | .statement _ _ s => s.hasElse
  | _ => false

/-- The finding at an if statement: it stands at the type, the method and the position of the
statement, and tells the position of the first else branch. -/
inductive ReportsElse (u : SourceUnit) (rule : ConfiguredRule) : Site → Finding → Prop
  | intro {t : TypeDeclaration} {m : Method} {s branch : Statement} {f : Finding}
      (hfirst : s.FirstElse branch) (hruleId : f.ruleId = rule.ruleId)
      (hseverity : f.severity = rule.config.severity)
      (hplace : f.location =
        { path := u.path, typeName := some t.qualifiedName, memberName := some m.name,
          position := some s.position, line := s.line.map Int.ofNat })
      (hpayload : f.payload = [("else_position", .int branch.position)]) :
      ReportsElse u rule (.statement t m s) f

namespace Builtin

/-- The rule applies to if statements and objects to those with an else branch. -/
theorem objects_noElseBranch (u : SourceUnit) :
    noElseBranch.Objects u Site.hasElse (ReportsElse u) where
  objects config site helse := by
    cases site with
    | statement t m s =>
      have helse : s.hasElse = true := helse
      obtain ⟨branch, rest, hbranches, hfirst⟩ := Statement.exists_firstElse helse
      have hkind : s.kind = .if_ := (Statement.hasElse_iff.mp helse).1
      have happlies : noElseBranch.appliesTo (.statement s) = .ok true :=
        congrArg Except.ok (decide_eq_true hkind)
      -- an if statement never lacks data, so the check is never skipped for it
      have hcomplete : s.missing = [] := by simp [Statement.missing, hkind]
      have hrun : (Site.statement t m s).checkRun u ⟨noElseBranch, config⟩ = .ofExcept (do
          let f ← (Site.context u ⟨noElseBranch, config⟩ (.statement t m s)).finding (.statement s)
            "If statement has an else branch; return early or use polymorphism"
            [("else_position", Value.ofNat branch.position)]
          return [f]) := by
        refine congrArg CheckRun.ofExcept ?_
        unfold checkNoElse
        rw [if_pos helse, hbranches]
      exact ⟨_, Site.reports_eq_finding happlies hcomplete (by decide)
        (by simp [Context.NamesFree, keysOf, Context.callNames]) hrun,
        .intro hfirst rfl rfl rfl rfl⟩
    | _ => exact absurd helse Bool.false_ne_true
  passes config site hnone := by
    cases site with
    | statement t m s =>
      have hsilent : checkNoElse s (Site.context u ⟨noElseBranch, config⟩ (.statement t m s)) =
          .ok [] := if_neg (by simpa [Site.hasElse] using hnone)
      exact Site.reports_of_silent (congrArg CheckRun.ofExcept hsilent)
    | _ => exact Site.reports_eq_nil rfl

end Builtin

/-- **The sites of a unit that the rule objects to** are found by the recursion. -/
theorem SourceUnit.filter_hasElse (u : SourceUnit) :
    u.sites.filter Site.hasElse = u.branchings := by
  have hmethod : ∀ (t : TypeDeclaration) (m : Method), (m.sites t).filter Site.hasElse =
      (Statement.branchingsAll m.body).map (.statement t m) := by
    intro t m
    have hparameters : (m.parameters.map (Site.parameter t m)).filter Site.hasElse = [] := by
      simp [List.filter_eq_nil_iff, Site.hasElse]
    unfold Method.sites
    rw [List.cons_append, List.filter_cons_of_neg Bool.false_ne_true, List.filter_append,
      hparameters, List.nil_append, Statement.branchingsAll_eq, List.filter_map]
    rfl
  have htype : ∀ t : TypeDeclaration, t.sites.filter Site.hasElse =
      t.methods.flatMap fun m => (Statement.branchingsAll m.body).map (.statement t m) := by
    intro t
    have hfields : (t.fields.map (Site.field t)).filter Site.hasElse = [] := by
      simp [List.filter_eq_nil_iff, Site.hasElse]
    unfold TypeDeclaration.sites
    rw [List.cons_append, List.filter_cons_of_neg Bool.false_ne_true, List.filter_append, hfields,
      List.nil_append, List.filter_flatMap]
    simp only [hmethod]
  unfold sites branchings
  rw [List.filter_cons_of_neg Bool.false_ne_true, List.filter_flatMap]
  simp only [htype]

/-- The branchings of a unit are counted type by type and method by method. -/
theorem SourceUnit.length_branchings (u : SourceUnit) : u.branchings.length =
    u.total fun t => t.total fun m => (Statement.branchingsAll m.body).length := by
  unfold branchings total TypeDeclaration.total
  simp only [List.length_flatMap, List.length_map]

/-! ## 3. Every registry and every unit -/

namespace Registry

/-- **Else branches are found exactly.** Take the registry of the built-in rules after any calls,
which may register rules that sign their findings with their own identifiers, and any unit that has
a layer. A snapshot and an evaluation without a time budget succeed. If the rule is enabled, its
findings are as many as there are if statements with an else branch directly under them, at any
depth in the methods of types that are not exempt; and they correspond to these one to one, each at
the type, the method and the position of its if statement and with the position of the first else
branch. If the rule is disabled, it finds nothing. The statements listed for a method are those in
its body, at any depth, that are such if statements, and each is listed once. -/
theorem else_branches_exact {start : Registry} (hstart : ofDefinitions builtinRules = .ok start)
    {calls : List RegistryCall} (hcalls : ∀ c ∈ calls, c.UsesContext) {u : SourceUnit}
    (hlayer : u.layer ≠ none) (clock : Clock) :
    ∃ rules config result found, (start.afterAll calls).snapshot = .ok rules ∧
      (start.afterAll calls).config Builtin.noElseBranch.ruleId = .ok config ∧
      Evaluator.evaluate ⟨none⟩ u rules clock = .ok result ∧
      found = result.findings.filter (·.ruleId = Builtin.noElseBranch.ruleId) ∧
      (config.enabled = true →
        found.length = (u.total fun t => t.total fun m =>
          (Statement.branchingsAll m.body).length) ∧
        ∃ made, List.Forall₂ (ReportsElse u ⟨Builtin.noElseBranch, config⟩) u.branchings made ∧
          IsStableSort made found) ∧
      (config.enabled = false → found = []) ∧
      ∀ m : Method, (Statement.branchingsAll m.body).Nodup ∧
        ∀ s, s ∈ Statement.branchingsAll m.body ↔ s.Within m.body ∧ s.Branches := by
  obtain rfl : start = builtin := Except.ok.inj (hstart.symm.trans ofDefinitions_builtinRules)
  obtain ⟨rules, hsnapshot, hobjected⟩ := objected_of_builtin hcalls
  obtain ⟨config, hconfig, hfound⟩ := hobjected Builtin.noElseBranch (by simp [builtinRules])
  have hsites := hfound u Site.hasElse _ hlayer (Builtin.objects_noElseBranch u)
  rw [u.filter_hasElse] at hsites
  refine ⟨rules, config, u.evaluation rules, _, hsnapshot, hconfig,
    evaluate_unbounded u rules clock, rfl, fun henabled => ⟨?_, hsites.enabled henabled⟩,
    hsites.disabled, fun m => ⟨m.nodup_branchings, fun s => Statement.mem_branchingsAll⟩⟩
  rw [← u.length_branchings]
  exact hsites.length_eq henabled

/-- A statement of which only its place and what is nested in it are known. -/
def node (kind : StatementKind) (depth position : Nat) (children : List Statement) : Statement :=
  ⟨kind, depth, position, none, children, none, none⟩

/-- An `else if` with an else branch of its own, and a loop with an else branch under it. -/
def branchingBody : List Statement :=
  [node .if_ 0 0 [node .else_ 1 1 [node .if_ 1 2 [node .else_ 2 3 []]]],
    node .loop 0 4 [node .else_ 1 5 []]]

theorem wellFormed_node {kind : StatementKind} {depth position : Nat} {children : List Statement}
    (hdepth : ∀ c ∈ children, c.depth = (node kind depth position children).childDepth)
    (hchildren : ∀ c ∈ children, c.WellFormed) : (node kind depth position children).WellFormed :=
  .intro _ line_pos_none hdepth hchildren

theorem wellFormed_branchingBody : ∀ s ∈ branchingBody, s.WellFormed := by
  have hinnermost : (node .else_ 2 3 []).WellFormed := wellFormed_node (by simp) (by simp)
  have hlink : (node .if_ 1 2 [node .else_ 2 3 []]).WellFormed :=
    wellFormed_node (by simp [node, Statement.childDepth]) (by simpa using hinnermost)
  have hbranch : (node .else_ 1 1 [node .if_ 1 2 [node .else_ 2 3 []]]).WellFormed :=
    wellFormed_node (by simp [node, Statement.childDepth]) (by simpa using hlink)
  have hstray : (node .else_ 1 5 []).WellFormed := wellFormed_node (by simp) (by simp)
  simp only [branchingBody, List.mem_cons, List.not_mem_nil, or_false, forall_eq_or_imp, forall_eq]
  exact ⟨wellFormed_node (by simp [node, Statement.childDepth]) (by simpa using hbranch),
    wellFormed_node (by simp [node, Statement.childDepth]) (by simpa using hstray)⟩

/-- A unit with this body in a method of its only type. -/
def branchingUnit : SourceUnit :=
  { firstUnit with
    types := [{ bareType with
      methods := [⟨"choose", [], none, branchingBody, .public_, false, none, by decide,
        line_pos_none, wellFormed_branchingBody, by simp [branchingBody, node], by decide,
        List.nodup_nil⟩] }]
    types_nodup := List.nodup_singleton _ }

theorem else_branches_exact_sample :
    ofDefinitions builtinRules = .ok builtin ∧ (∀ c ∈ sampleConfiguration, c.UsesContext) ∧
      branchingUnit.layer ≠ none ∧
      ∃ rules result, (builtin.afterAll sampleConfiguration).snapshot = .ok rules ∧
        Evaluator.evaluate ⟨none⟩ branchingUnit rules (fun _ => .whole 0) = .ok result ∧
        (result.findings.filter (·.ruleId = Builtin.noElseBranch.ruleId)).length = 2 := by
  have hcalls : ∀ c ∈ sampleConfiguration, c.UsesContext := by
    simp [sampleConfiguration, RegistryCall.UsesContext]
  have hlayer : branchingUnit.layer ≠ none := by simp [branchingUnit, firstUnit]
  obtain ⟨rules, config, result, found, hsnapshot, hconfig, hresult, rfl, hcount, -, -⟩ :=
    else_branches_exact ofDefinitions_builtinRules hcalls hlayer fun _ => .whole 0
  have henabled : config.enabled = true := by
    have hstart : (builtin.afterAll sampleConfiguration).config
        Builtin.noElseBranch.ruleId = .ok Builtin.noElseBranch.defaults := by rfl
    rw [hstart] at hconfig
    rw [← Except.ok.inj hconfig]
    rfl
  have hlinks : (branchingUnit.total fun t => t.total fun m =>
      (Statement.branchingsAll m.body).length) = 2 := by decide
  exact ⟨ofDefinitions_builtinRules, hcalls, hlayer, rules, result, hsnapshot, hresult,
    (hcount henabled).1.trans hlinks⟩

end Registry

end Conformance
