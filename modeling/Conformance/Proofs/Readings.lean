import Conformance.Proofs.Relaxation
import Conformance.Proofs.RuleReports

/-!
# What the built-in rules read

A built-in rule reads little of an element: of a statement its kind, its position, the length and
the target of its chain and the positions of its else branches; of a method its name, its accessor
flag and two numbers; and so on. Elements that agree in what is read of them **resemble** each
other, and no built-in rule tells one from the other.

This file compares the evaluations of two units whose sites resemble each other one by one. Their
findings are compared through a view, which may leave out parts of places and drop the findings of
some rules (`View`). It must not leave out what findings are sorted by, and it has to drop the
findings of rules that the two units cannot be compared by.

The argument goes along the code. Two calls of a context at matching sites have parallel results
(`parallel_finding`, `parallel_exceeds`); so have two runs of a check that is made of such calls
(`Check.Steady`), two visits, and two evaluations. The rules of the domain layer are steady if both
units belong to the domain layer or none does; the other rules always are.
-/

set_option autoImplicit false

namespace Conformance

/-! ## 1. What is compared -/

/-- What is compared of two evaluations: the findings of the rules that are kept, with locations
from which something may be left out, but nothing that findings are sorted by. -/
structure View where
  keeps : String → Bool
  location : Location → Location
  sortKey_location : ∀ l, (location l).sortKey = l.sortKey

namespace View

/-- A finding through a view. -/
def finding (view : View) (f : Finding) : Finding := { f with location := view.location f.location }

/-- What there is to be seen of findings through a view. -/
def findings (view : View) (found : List Finding) : List Finding :=
  (found.filter (view.keeps ·.ruleId)).map view.finding

/-- An evaluation through a view. -/
def evaluation (view : View) (e : Evaluation) : Evaluation :=
  { e with findings := view.findings e.findings }

/-- The view that leaves nothing out. -/
def whole : View := ⟨fun _ => true, id, fun _ => rfl⟩

theorem findings_whole (found : List Finding) : whole.findings found = found := by
  have hid : whole.finding = id := rfl
  unfold findings
  rw [hid, List.map_id]
  exact List.filter_eq_self.mpr fun _ _ => rfl

theorem evaluation_whole (e : Evaluation) : whole.evaluation e = e := by
  unfold evaluation
  rw [findings_whole]

variable {view : View}

theorem findings_flatMap {α : Type} (items : List α) (found : α → List Finding) :
    view.findings (items.flatMap found) = items.flatMap fun item => view.findings (found item) := by
  unfold findings
  rw [List.filter_flatMap, List.map_flatMap]

/-- The findings of one rule are all kept or all dropped. -/
theorem findings_of_ruleId {id : String} {found : List Finding}
    (hid : ∀ f ∈ found, f.ruleId = id) :
    view.findings found = if view.keeps id = true then found.map view.finding else [] := by
  unfold findings
  by_cases hkept : view.keeps id = true
  · rw [if_pos hkept, List.filter_eq_self.mpr fun f hf => by rw [hid f hf, hkept]]
  · rw [if_neg hkept, List.filter_eq_nil_iff.mpr fun f hf => by rw [hid f hf]; exact hkept,
      List.map_nil]

/-- Findings may be looked at before or after sorting, since a view does not touch what they are
sorted by. -/
theorem findings_sortFindings (found : List Finding) :
    view.findings (sortFindings found) = sortFindings (view.findings found) := by
  have hkey : ∀ f, (view.finding f).sortKey = f.sortKey :=
    fun f => view.sortKey_location f.location
  unfold findings
  rw [filter_sortFindings]
  unfold sortFindings
  rw [List.map_mergeSort]
  intro f _ g _
  rw [hkey, hkey]

end View

/-! ## 2. Elements that resemble each other -/

/-- Statements of which the same is read. -/
structure Statement.Resembles (s r : Statement) : Prop where
  kind : r.kind = s.kind
  position : r.position = s.position
  callChainLength : r.callChainLength = s.callChainLength
  callTarget : r.callTarget = s.callTarget
  elsePositions : r.elseBranches.map (·.position) = s.elseBranches.map (·.position)

/-- Methods of which the same is read. -/
structure Method.Resembles (m n : Method) : Prop where
  name : n.name = m.name
  isAccessor : n.isAccessor = m.isAccessor
  maxNestingDepth : n.maxNestingDepth = m.maxNestingDepth
  statementCount : n.statementCount = m.statementCount

/-- Fields of which the same is read. -/
structure Field.Resembles (f g : Field) : Prop where
  name : g.name = f.name
  type? : g.type? = f.type?

/-- Types of which the same is read. -/
structure TypeDeclaration.Resembles (t s : TypeDeclaration) : Prop where
  qualifiedName : s.qualifiedName = t.qualifiedName
  kind : s.kind = t.kind
  lineSpan : s.lineSpan = t.lineSpan
  methods : s.methods.length = t.methods.length
  instanceVariables : (s.fields.filter (!·.isInfrastructureUtility)).length =
    (t.fields.filter (!·.isInfrastructureUtility)).length
  allReferences : s.allReferences = t.allReferences

/-- The name is the last part of the qualified name. -/
theorem TypeDeclaration.Resembles.name {t s : TypeDeclaration} (h : t.Resembles s) :
    s.name = t.name := by
  unfold TypeDeclaration.name
  rw [h.qualifiedName]

/-- Whether there is an else branch, and the position of the first, is read off the positions. -/
theorem Statement.Resembles.hasElse {s r : Statement} (h : s.Resembles r) :
    r.hasElse = s.hasElse := by
  have hsame : r.elseBranches.isEmpty = s.elseBranches.isEmpty := by
    rw [← List.isEmpty_map (f := (·.position)), h.elsePositions, List.isEmpty_map]
  unfold Statement.hasElse
  rw [h.kind, hsame]

namespace Element

/-- Elements of which the same is read. -/
inductive Resembles : Element → Element → Prop
  | unit {u v : SourceUnit} (h : v.missing = u.missing) : Resembles (.unit u) (.unit v)
  | type {t s : TypeDeclaration} (h : t.Resembles s) : Resembles (.type t) (.type s)
  | field {f g : Field} (h : f.Resembles g) : Resembles (.field f) (.field g)
  | parameter (p : Parameter) : Resembles (.parameter p) (.parameter p)
  | method {m n : Method} (h : m.Resembles n) : Resembles (.method m) (.method n)
  | statement {s r : Statement} (h : s.Resembles r) : Resembles (.statement s) (.statement r)

namespace Resembles

variable {e e' : Element}

/-- An element resembles itself. -/
theorem refl (e : Element) : e.Resembles e := by
  cases e with
  | unit u => exact .unit rfl
  | type t => exact .type ⟨rfl, rfl, rfl, rfl, rfl, rfl⟩
  | field f => exact .field ⟨rfl, rfl⟩
  | parameter p => exact .parameter p
  | method m => exact .method ⟨rfl, rfl, rfl, rfl⟩
  | statement s => exact .statement ⟨rfl, rfl, rfl, rfl, rfl⟩

/-- What resembles an element is of its kind, so the same predicates by kind hold of both. -/
theorem kind (h : e.Resembles e') : e'.kind = e.kind := by
  cases h <;> rfl

/-- The front end left out the same. -/
theorem missing (h : e.Resembles e') : e'.missing = e.missing := by
  cases h with
  | unit h => exact h
  | field h => simp only [Element.missing, Field.missing, h.type?]
  | statement h => simp only [Element.missing, Statement.missing, h.kind, h.callChainLength]
  | _ => rfl

end Resembles

end Element

namespace Site

/-- Sites of two units that stand at what is, through the view, one place. -/
def SamePlace (view : View) (u v : SourceUnit) (a b : Site) : Prop :=
  view.location (b.location v.path) = view.location (a.location u.path)

/-- Sites of two units that resemble each other and stand at one place. -/
structure Matches (view : View) (u v : SourceUnit) (a b : Site) : Prop where
  resembles : a.element.Resembles b.element
  place : SamePlace view u v a b

end Site

/-- Units that can be compared through a view: both have a layer or none has, and their sites match
one by one. -/
structure SourceUnit.Matches (view : View) (u v : SourceUnit) : Prop where
  path : v.path = u.path
  missing : v.missing = u.missing
  sites : List.Forall₂ (Site.Matches view u v) u.sites v.sites

/-! ## 3. Parallel results -/

/-- Two results that are the same failure, or values that are related. -/
inductive Parallel {α β : Type} (R : α → β → Prop) : Except Error α → Except Error β → Prop
  | ok {a : α} {b : β} (h : R a b) : Parallel R (.ok a) (.ok b)
  | error (e : Error) : Parallel R (.error e) (.error e)

namespace Parallel

theorem of_eq {α : Type} (made : Except Error α) : Parallel Eq made made := by
  cases made with
  | ok a => exact .ok rfl
  | error e => exact .error e

/-- Computations that go on in parallel: both end with one failure, or both go on with values that
are related. -/
theorem bind {α β γ δ : Type} {R : α → β → Prop} {S : γ → δ → Prop} {x : Except Error α}
    {y : Except Error β} {f : α → Except Error γ} {g : β → Except Error δ} (h : Parallel R x y)
    (hnext : ∀ a b, R a b → Parallel S (f a) (g b)) : Parallel S (x >>= f) (y >>= g) := by
  cases h with
  | ok h => exact hnext _ _ h
  | error e => exact .error e

/-- Computations that go on in the same way, as far as nothing that differs is looked at. -/
theorem bind_eq {α γ δ : Type} {S : γ → δ → Prop} (x : Except Error α) {f : α → Except Error γ}
    {g : α → Except Error δ} (hnext : ∀ a, Parallel S (f a) (g a)) :
    Parallel S (x >>= f) (x >>= g) :=
  (of_eq x).bind fun a _ h => h ▸ hnext a

end Parallel

/-- Findings that are the same through a view, one by one. -/
def View.Same (view : View) (found others : List Finding) : Prop :=
  others.map view.finding = found.map view.finding

variable {view : View} {u v : SourceUnit} {a b : Site} {e e' : Element} {rule : ConfiguredRule}
  {rules : List ConfiguredRule}

/-- The plain call, at two sites. The findings are the same but for their places, which the view
makes equal. -/
theorem parallel_finding (hplace : Site.SamePlace view u v a b) (ha : a.element = e)
    (hb : b.element = e') (message : String) (payload : Payload) :
    Parallel (fun f g => view.finding g = view.finding f)
      ((a.context u rule).finding e message payload)
      ((b.context v rule).finding e' message payload) := by
  subst ha hb
  unfold Context.finding
  refine .bind_eq _ fun _ => ?_
  rw [Site.locationFor_eq rfl rfl, Site.locationFor_eq rfl rfl]
  show Parallel _ (Finding.make rule.ruleId rule.config.severity (a.location u.path) message
      rule.definition.category payload)
    (Finding.make rule.ruleId rule.config.severity (b.location v.path) message
      rule.definition.category payload)
  unfold Finding.make
  split
  · exact .error _
  · split
    · exact .error _
    · exact .ok (congrArg (fun place => Finding.mk _ _ place _ _ _) hplace)

/-- The measuring call, at two sites. What is measured is given, so it is the same at both. -/
theorem parallel_exceeds (hplace : Site.SamePlace view u v a b) (ha : a.element = e)
    (hb : b.element = e') (message : String) (measured : Int) (option : String) (extra : Payload) :
    Parallel (fun f g => g.map view.finding = f.map view.finding)
      ((a.context u rule).exceeds e message measured option extra)
      ((b.context v rule).exceeds e' message measured option extra) := by
  unfold Context.exceeds
  -- the names of the details and the threshold are looked at without looking at the site
  refine .bind_eq _ fun _ => .bind_eq _ fun _ => ?_
  show Parallel _ (rule.config.threshold option >>= _) (rule.config.threshold option >>= _)
  refine .bind_eq _ fun threshold => ?_
  split
  · exact .ok rfl
  · refine .bind_eq _ fun _ => ?_
    refine (parallel_finding hplace ha hb _ _).bind fun f g hseen => .ok ?_
    exact congrArg some hseen

namespace Parallel

/-- Nothing is found at either site. -/
theorem nil : Parallel view.Same (.ok []) (.ok []) := .ok rfl

/-- One finding by the plain call. -/
theorem single (hplace : Site.SamePlace view u v a b) (ha : a.element = e) (hb : b.element = e')
    (message : String) (payload : Payload) :
    Parallel view.Same
      (do
        let f ← (a.context u rule).finding e message payload
        return [f])
      (do
        let g ← (b.context v rule).finding e' message payload
        return [g]) :=
  (parallel_finding hplace ha hb message payload).bind fun _ _ hseen =>
    .ok (congrArg (fun f => [f]) hseen)

theorem toList {f g : Option Finding}
    (h : g.map view.finding = f.map view.finding) :
    view.Same f.toList g.toList := by
  unfold View.Same
  rw [← Option.toList_map, ← Option.toList_map, h]

/-- At most one finding by the measuring call. -/
theorem atMostOne (hplace : Site.SamePlace view u v a b) (ha : a.element = e)
    (hb : b.element = e') (message : String) (measured : Int) (option : String) (extra : Payload) :
    Parallel view.Same
      (Builtin.atMostOne ((a.context u rule).exceeds e message measured option extra))
      (Builtin.atMostOne ((b.context v rule).exceeds e' message measured option extra)) :=
  (parallel_exceeds hplace ha hb message measured option extra).bind fun _ _ h => .ok (toList h)

end Parallel

/-! ## 4. Checks and rules that do not tell matching sites apart -/

/-- Two runs of a check that end with parallel results. -/
def CheckRun.Parallels (view : View) (run other : CheckRun) : Prop :=
  ∃ first second, run = .ofExcept first ∧ other = .ofExcept second ∧
    Parallel view.Same first second

/-- A check that has parallel runs at sites that match. -/
def Check.Steady (view : View) (u v : SourceUnit) (check : Check) : Prop :=
  ∀ (rule : ConfiguredRule) (a b : Site), Site.Matches view u v a b →
    (check a.element (a.context u rule)).Parallels view (check b.element (b.context v rule))

/-- A predicate that does not tell apart elements of which the same is read. -/
def Predicate.Steady (p : Predicate) : Prop :=
  ∀ e e' : Element, e.Resembles e' → p e' = p e

/-- A rule whose predicate and check do not tell matching sites apart. -/
structure RuleDefinition.Steady (view : View) (u v : SourceUnit)
    (d : RuleDefinition) : Prop where
  appliesTo : d.appliesTo.Steady
  check : Check.Steady view u v d.check

namespace Predicate

/-- The predicates of the built-in rules ask for kinds, which are read. -/
theorem steady_kindIn (kinds : List ElementKind) : (kindIn kinds).Steady := by
  intro e e' h
  cases h <;> rfl

theorem steady_ofStatementKind (kind : StatementKind) : (ofStatementKind kind).Steady := by
  intro e e' h
  cases h with
  | statement h => simp only [ofStatementKind, h.kind]
  | _ => rfl

theorem steady_ofTypeKind (kind : TypeKind) : (ofTypeKind kind).Steady := by
  intro e e' h
  cases h with
  | type h => simp only [ofTypeKind, h.kind]
  | _ => rfl

end Predicate

namespace Check

/-- What a check has to say about elements that are not for it depends on their kind only. -/
theorem parallel_onOther {check : Check} {ctx ctx' : Context} (parts : List Part)
    (hfirst : check e ctx = onOther parts e) (hsecond : check e' ctx' = onOther parts e')
    (hkind : e'.kind = e.kind) : (check e ctx).Parallels view (check e' ctx') := by
  refine ⟨_, _, hfirst, hsecond, ?_⟩
  have hparts : e'.checkParts parts = e.checkParts parts := by
    unfold Element.checkParts
    rw [hkind]
  rw [hparts]
  exact .bind_eq _ fun _ => .nil

/-- A check of the elements of a form is steady if its results at elements of this form are
parallel. Elements that resemble each other are of one kind, so it is never called on one that is
for it and one that is not. -/
theorem steady_ofForm {α : Type} {form : Element.Form α} {parts : List Part}
    {f : α → Context → Except Error (List Finding)}
    (h : ∀ (rule : ConfiguredRule) (a b : Site) (x y : α), a.element = form.make x →
      b.element = form.make y → (form.make x).Resembles (form.make y) →
        Site.SamePlace view u v a b →
          Parallel view.Same (f x (a.context u rule)) (f y (b.context v rule))) :
    (ofForm form parts f).Steady view u v := by
  intro rule a b hmatch
  obtain ⟨hsame, hplace⟩ := hmatch
  have hkind := hsame.kind
  cases hx : form.get? a.element with
  | none =>
    have hy : form.get? b.element = none := by
      rwa [form.get?_eq_none_iff, hkind, ← form.get?_eq_none_iff]
    exact parallel_onOther parts (ofForm_of_none hx) (ofForm_of_none hy) hkind
  | some x =>
    have hy : (form.get? b.element).isSome = true := by
      rw [form.isSome_get?, hkind, ← form.isSome_get?, hx]
      rfl
    obtain ⟨y, hy⟩ := Option.isSome_iff_exists.mp hy
    have ha := form.eq_make_of_get? hx
    have hb := form.eq_make_of_get? hy
    refine ⟨_, _, ofForm_of_some hx, ofForm_of_some hy, h rule a b x y ha hb ?_ hplace⟩
    rwa [← ha, ← hb]

/-- Outside the domain layer nothing is found in either unit, and inside both are checked. -/
theorem Steady.inDomain {check : Check}
    (hlayer : v.layer = some .domain ↔ u.layer = some .domain) (h : check.Steady view u v) :
    (Check.inDomain check).Steady view u v := by
  intro rule a b hmatch
  by_cases hdomain : u.layer = some .domain
  · obtain ⟨first, second, hfirst, hsecond, hparallel⟩ := h rule a b hmatch
    exact ⟨first, second, (if_pos hdomain).trans hfirst,
      (if_pos (hlayer.mpr hdomain)).trans hsecond, hparallel⟩
  · exact ⟨.ok [], .ok [], if_neg hdomain, if_neg (mt hlayer.mp hdomain), .nil⟩

end Check

/-! ## 5. The built-in rules -/

namespace Builtin

/-- The rules that speak about the domain layer only. -/
def domainRules : List RuleDefinition :=
  [wrapPrimitives, firstClassCollection, noAccessorMethods, layeredDependency]

theorem steady_maxIndentationDepth : maxIndentationDepth.Steady view u v :=
  ⟨Predicate.steady_kindIn _, Check.steady_ofForm fun rule a b m n ha hb hsame hplace => by
    cases hsame with
    | method hsame =>
      rw [hsame.name, hsame.maxNestingDepth]
      exact .atMostOne hplace ha hb _ _ _ _⟩

theorem steady_maxMethodSize : maxMethodSize.Steady view u v :=
  ⟨Predicate.steady_kindIn _, Check.steady_ofForm fun rule a b m n ha hb hsame hplace => by
    cases hsame with
    | method hsame =>
      rw [hsame.name, hsame.statementCount]
      exact .atMostOne hplace ha hb _ _ _ _⟩

theorem steady_maxInstanceVariables : maxInstanceVariables.Steady view u v :=
  ⟨Predicate.steady_kindIn _, Check.steady_ofForm fun rule a b t s ha hb hsame hplace => by
    cases hsame with
    | type hsame =>
      rw [hsame.name, hsame.instanceVariables]
      exact .atMostOne hplace ha hb _ _ _ _⟩

theorem steady_maxInterfaceMethods : maxInterfaceMethods.Steady view u v :=
  ⟨Predicate.steady_ofTypeKind _, Check.steady_ofForm fun rule a b t s ha hb hsame hplace => by
    cases hsame with
    | type hsame =>
      rw [hsame.name, hsame.methods]
      exact .atMostOne hplace ha hb _ _ _ _⟩

theorem steady_maxCallChain : maxCallChain.Steady view u v := by
  refine ⟨Predicate.steady_ofStatementKind _, Check.steady_ofForm
    fun rule a b s r ha hb hsame hplace => ?_⟩
  cases hsame with
  | statement hsame =>
    unfold checkCallChain
    rw [hsame.callTarget, hsame.callChainLength, hsame.position]
    split
    · exact .nil
    · cases s.callChainLength with
      | none => exact .error _
      | some length => exact .atMostOne hplace ha hb _ _ _ _

theorem steady_noElseBranch : noElseBranch.Steady view u v := by
  refine ⟨Predicate.steady_ofStatementKind _, Check.steady_ofForm
    fun rule a b s r ha hb hsame hplace => ?_⟩
  cases hsame with
  | statement hsame =>
    have hpositions := hsame.elsePositions
    unfold checkNoElse
    rw [hsame.hasElse]
    -- the branches themselves may differ, and only the position of the first is told
    split
    · cases hfirst : s.elseBranches with
      | nil =>
        rw [hfirst, List.map_nil, List.map_eq_nil_iff] at hpositions
        rw [hpositions]
        exact .error _
      | cons branch rest =>
        rw [hfirst, List.map_cons, List.map_eq_cons_iff] at hpositions
        obtain ⟨other, more, hsecond, hposition, -⟩ := hpositions
        rw [hsecond]
        simp only [hposition]
        exact .single hplace ha hb _ _
    · exact .nil

/-- The two measurements, of which the second is made on both sides or on none. -/
theorem steady_maxClassSize : maxClassSize.Steady view u v := by
  refine ⟨Predicate.steady_kindIn _, Check.steady_ofForm fun rule a b t s ha hb hsame hplace => ?_⟩
  cases hsame with
  | type hsame =>
    have hmeasured := @parallel_exceeds view u v a b (.type t) (.type s) rule hplace ha hb
    unfold checkClassSize
    rw [hsame.name, hsame.methods, hsame.lineSpan]
    refine (hmeasured _ _ _ _).bind fun f g hmethods => ?_
    cases t.lineSpan with
    | none => exact .ok (Parallel.toList hmethods)
    | some span =>
      refine (hmeasured _ _ _ _).bind fun f' g' hlines => .ok ?_
      unfold View.Same
      rw [List.map_append, List.map_append, Parallel.toList hmethods, Parallel.toList hlines]

/-- A name is judged in the same way at sites that match. -/
theorem parallel_checkName (kind name : String) (hplace : Site.SamePlace view u v a b)
    (ha : a.element = e) (hb : b.element = e') :
    Parallel view.Same (checkName kind name e (a.context u rule))
      (checkName kind name e' (b.context v rule)) := by
  unfold checkName
  show Parallel _ (rule.config.threshold "min_length" >>= _)
    (rule.config.threshold "min_length" >>= _)
  refine .bind_eq _ fun least => ?_
  dsimp only
  split
  · exact .single hplace ha hb _ _
  · split
    · exact .single hplace ha hb _ _
    · exact .nil

theorem steady_noAbbreviation : noAbbreviation.Steady view u v := by
  refine ⟨Predicate.steady_kindIn _, fun rule a b hmatch => ?_⟩
  obtain ⟨hsame, hplace⟩ := hmatch
  generalize ha : a.element = e at hsame ⊢
  generalize hb : b.element = e' at hsame ⊢
  cases hsame with
  | type hsame =>
    refine ⟨_, _, rfl, rfl, ?_⟩
    rw [hsame.name]
    exact parallel_checkName "Type" _ hplace ha hb
  | method hsame =>
    refine ⟨_, _, rfl, rfl, ?_⟩
    rw [hsame.name]
    exact parallel_checkName "Method" _ hplace ha hb
  | field hsame =>
    refine ⟨_, _, rfl, rfl, ?_⟩
    rw [hsame.name]
    exact parallel_checkName "Field" _ hplace ha hb
  | parameter p => exact ⟨_, _, rfl, rfl, .error _⟩
  | _ => exact Check.parallel_onOther [.name] rfl rfl rfl

theorem steady_noAccessorMethods (hlayer : v.layer = some .domain ↔ u.layer = some .domain) :
    noAccessorMethods.Steady view u v := by
  refine ⟨Predicate.steady_kindIn _, Check.Steady.inDomain hlayer (Check.steady_ofForm
    fun rule a b m n ha hb hsame hplace => ?_)⟩
  cases hsame with
  | method hsame =>
    unfold checkAccessorMethods
    rw [hsame.isAccessor, hsame.name]
    split
    · exact .single hplace ha hb _ _
    · exact .nil

theorem steady_layeredDependency (hlayer : v.layer = some .domain ↔ u.layer = some .domain) :
    layeredDependency.Steady view u v := by
  refine ⟨Predicate.steady_kindIn _, Check.Steady.inDomain hlayer (Check.steady_ofForm
    fun rule a b t s ha hb hsame hplace => ?_)⟩
  cases hsame with
  | type hsame =>
    unfold checkLayeredDependency referencesTo
    rw [hsame.allReferences, hsame.name]
    dsimp only
    split
    · exact .nil
    · exact .single hplace ha hb _ _

/-- A collection is found at both sites or at none. -/
theorem parallel_rawCollection (name : String) (type? : Option TypeReference)
    (hplace : Site.SamePlace view u v a b) (ha : a.element = e) (hb : b.element = e') :
    Parallel view.Same (rawCollection e name type? (a.context u rule))
      (rawCollection e' name type? (b.context v rule)) := by
  unfold rawCollection
  split
  · exact .nil
  · exact .single hplace ha hb _ _

theorem steady_firstClassCollection (hlayer : v.layer = some .domain ↔ u.layer = some .domain) :
    firstClassCollection.Steady view u v := by
  refine ⟨Predicate.steady_kindIn _, Check.Steady.inDomain hlayer fun rule a b hmatch => ?_⟩
  obtain ⟨hsame, hplace⟩ := hmatch
  generalize ha : a.element = e at hsame ⊢
  generalize hb : b.element = e' at hsame ⊢
  cases hsame with
  | field hsame =>
    refine ⟨_, _, rfl, rfl, ?_⟩
    rw [hsame.name, hsame.type?]
    exact parallel_rawCollection _ _ hplace ha hb
  | parameter p => exact ⟨_, _, rfl, rfl, parallel_rawCollection _ _ hplace ha hb⟩
  | _ => exact Check.parallel_onOther [.typeReference] rfl rfl rfl

theorem steady_wrapPrimitives (hlayer : v.layer = some .domain ↔ u.layer = some .domain) :
    wrapPrimitives.Steady view u v := by
  refine ⟨Predicate.steady_kindIn _, Check.Steady.inDomain hlayer fun rule a b hmatch => ?_⟩
  obtain ⟨hsame, hplace⟩ := hmatch
  generalize ha : a.element = e at hsame ⊢
  generalize hb : b.element = e' at hsame ⊢
  cases hsame with
  | field hsame =>
    refine ⟨_, _, rfl, rfl, ?_⟩
    rw [hsame.name, hsame.type?]
    split
    · exact .nil
    · exact .single hplace ha hb _ _
  | parameter p =>
    refine ⟨_, _, rfl, rfl, ?_⟩
    split
    · exact .nil
    · exact .single hplace ha hb _ _
  | _ => exact Check.parallel_onOther [.typeReference] rfl rfl rfl

/-- **The built-in rules do not tell matching sites apart**, those of the domain layer if both units
belong to it or none does. -/
theorem steady_of_mem_builtinRules {d : RuleDefinition} (h : d ∈ builtinRules)
    (hlayer : d ∈ domainRules → (v.layer = some .domain ↔ u.layer = some .domain)) :
    d.Steady view u v := by
  cases isBuiltin_of_mem h with
  | maxIndentationDepth => exact steady_maxIndentationDepth
  | noElseBranch => exact steady_noElseBranch
  | wrapPrimitives => exact steady_wrapPrimitives (hlayer (by simp [domainRules]))
  | firstClassCollection => exact steady_firstClassCollection (hlayer (by simp [domainRules]))
  | maxCallChain => exact steady_maxCallChain
  | noAbbreviation => exact steady_noAbbreviation
  | maxClassSize => exact steady_maxClassSize
  | maxInstanceVariables => exact steady_maxInstanceVariables
  | noAccessorMethods => exact steady_noAccessorMethods (hlayer (by simp [domainRules]))
  | layeredDependency => exact steady_layeredDependency (hlayer (by simp [domainRules]))
  | maxInterfaceMethods => exact steady_maxInterfaceMethods
  | maxMethodSize => exact steady_maxMethodSize

/-- A unit has the layer that it has, so nothing is asked of the rules of the domain layer. -/
theorem steady_self (view : View) (u : SourceUnit) {d : RuleDefinition} (h : d ∈ builtinRules) :
    d.Steady view u u :=
  steady_of_mem_builtinRules h fun _ => Iff.rfl

end Builtin

/-! ## 6. Visits -/

/-- What the runs find is the same through the view, if anything is found. -/
theorem CheckRun.Parallels.findings {run other : CheckRun} (h : run.Parallels view other) :
    view.Same run.findings other.findings := by
  obtain ⟨first, second, rfl, rfl, hparallel⟩ := h
  cases hparallel with
  | ok hsame => exact hsame
  | error e => rfl

/-- Rules under configurations that fit them, all of them built in. -/
def AllBuiltin (rules : List ConfiguredRule) : Prop :=
  ∀ rule ∈ rules, rule.definition ∈ builtinRules ∧ rule.Safe

/-- The rules of the domain layer can be compared, or their findings are dropped. -/
def View.Compares (view : View) (u v : SourceUnit) : Prop :=
  ∀ d ∈ Builtin.domainRules, view.keeps d.ruleId = true →
    (v.layer = some .domain ↔ u.layer = some .domain)

namespace Site

/-- A rule applies to both of two sites that resemble each other, or to none. -/
theorem applies_eq_of_steady (h : rule.definition.Steady view u v)
    (hsame : a.element.Resembles b.element) :
    b.applies rule = a.applies rule := by
  unfold applies
  rw [h.appliesTo _ _ hsame]

/-- Rules that do not fail leave no remark about a failure. -/
theorem findings_visit_of_safe (hrules : AllBuiltin rules) (u : SourceUnit) (site : Site) :
    (site.visit u rules).findings =
      if rules.filter site.applies = [] then []
      else if site.element.missing = [] then
        (rules.filter site.applies).flatMap fun rule => (site.checkRun u rule).findings
      else [site.incompleteNote u.path (rules.filter site.applies)] := by
  have hfaults : rules.filterMap (site.predicateFault? u.path) = [] := by
    rw [List.filterMap_eq_nil_iff]
    intro rule hrule
    obtain ⟨b, hb⟩ := (hrules rule hrule).2.definition.answers site.element
    exact predicateFault?_eq_none hb
  rw [findings_visit, hfaults, List.nil_append]
  by_cases hcomplete : site.element.missing = []
  · have hchecks : (rules.filter site.applies).flatMap (site.checkFindings u) =
        (rules.filter site.applies).flatMap fun rule => (site.checkRun u rule).findings := by
      refine List.flatMap_congr fun rule hrule => ?_
      obtain ⟨hmem, happlies⟩ := List.mem_filter.mp hrule
      have hclean : (site.checkRun u rule).Clean _ _ :=
        clean_checkRun (hrules rule hmem).2 (applies_iff.mp happlies) hcomplete
      unfold checkFindings CheckRun.result
      rw [hclean.failure]
    rw [if_pos hcomplete, if_pos hcomplete, hchecks]
  · rw [if_neg hcomplete, if_neg hcomplete]

/-- **One rule at matching sites.** Through the view, its check finds the same. -/
theorem findings_checkRun (hrules : AllBuiltin rules) (hcompares : view.Compares u v)
    (hmatch : Matches view u v a b) (hrule : rule ∈ rules) (happlies : a.applies rule = true)
    (hcomplete : a.element.missing = []) :
    view.findings (b.checkRun v rule).findings = view.findings (a.checkRun u rule).findings := by
  obtain ⟨hbuiltin, hsafe⟩ := hrules rule hrule
  -- a rule that does not fail signs all that it finds, so the view keeps all of it or drops all
  have hsigned : ∀ (w : SourceUnit) (site : Site), site.applies rule = true →
      site.element.missing = [] →
        ∀ f ∈ (site.checkRun w rule).findings, f.ruleId = rule.ruleId := by
    intro w site happlies hcomplete f hf
    have hclean : (site.checkRun w rule).Clean _ _ :=
      clean_checkRun hsafe (applies_iff.mp happlies) hcomplete
    exact (hclean.makes f hf).signs.ruleId
  have hfirst := hsigned u a happlies hcomplete
  have hsame : b.applies rule = a.applies rule :=
    applies_eq_of_steady (Builtin.steady_self view u hbuiltin) hmatch.resembles
  have hsecond := hsigned v b (hsame.trans happlies) (hmatch.resembles.missing.trans hcomplete)
  rw [View.findings_of_ruleId hfirst, View.findings_of_ruleId hsecond]
  split
  · rename_i hkept
    have hsteady : rule.definition.Steady view u v :=
      Builtin.steady_of_mem_builtinRules hbuiltin fun hdomain => hcompares _ hdomain hkept
    exact (hsteady.check rule a b hmatch).findings
  · rfl

/-- **One visit.** Through the view, the same is found at matching sites. -/
theorem findings_visit_of_matches (hrules : AllBuiltin rules) (hcompares : view.Compares u v)
    (hmatch : Matches view u v a b) :
    view.findings (b.visit v rules).findings = view.findings (a.visit u rules).findings := by
  have happlicable : rules.filter b.applies = rules.filter a.applies := by
    refine List.filter_congr fun rule hrule => ?_
    exact applies_eq_of_steady (Builtin.steady_self view u (hrules rule hrule).1) hmatch.resembles
  have hmissing := hmatch.resembles.missing
  have hnote : view.findings [b.incompleteNote v.path (rules.filter a.applies)] =
      view.findings [a.incompleteNote u.path (rules.filter a.applies)] := by
    have hseen : view.finding (b.incompleteNote v.path (rules.filter a.applies)) =
        view.finding (a.incompleteNote u.path (rules.filter a.applies)) := by
      unfold View.finding incompleteNote note
      rw [hmissing]
      exact congrArg (fun place => Finding.mk _ _ place _ _ _) hmatch.place
    -- both notes carry one id, so the view keeps both or neither
    have hremark : ∀ (path : SourcePath) (site : Site) (applicable : List ConfiguredRule),
        ∀ f ∈ [site.incompleteNote path applicable], f.ruleId = incompleteModelData :=
      fun _ _ _ f hf => by rw [List.mem_singleton.mp hf]; rfl
    rw [View.findings_of_ruleId (hremark _ _ _), View.findings_of_ruleId (hremark _ _ _),
      List.map_singleton, List.map_singleton, hseen]
  rw [findings_visit_of_safe hrules, findings_visit_of_safe hrules, happlicable, hmissing]
  split
  · rfl
  · split
    · rename_i hcomplete
      rw [View.findings_flatMap, View.findings_flatMap]
      refine List.flatMap_congr fun rule hrule => ?_
      obtain ⟨hmem, happlies⟩ := List.mem_filter.mp hrule
      exact findings_checkRun hrules hcompares hmatch hmem happlies hcomplete
    · exact hnote

end Site

/-! ## 7. Evaluations -/

namespace SourceUnit

variable {set : RuleSet}

/-- The remark on a unit without a layer says the same of both. -/
theorem missingNote_of_matches (h : u.Matches view v) : v.missingNote = u.missingNote := by
  unfold missingNote Site.note Site.location
  rw [h.path, h.missing]

/-- **One evaluation.** Through the view, the same is found in units whose sites match. -/
theorem findings_evaluate_of_matches (hrules : AllBuiltin set.rules)
    (hcompares : view.Compares u v) (h : u.Matches view v) :
    view.findings (v.evaluate set).findings = view.findings (u.evaluate set).findings := by
  have hlayer : v.layer = none ↔ u.layer = none := by
    have hboth : v.layer ≠ none ↔ u.layer ≠ none := by
      rw [← missing_eq_nil_iff, ← missing_eq_nil_iff, h.missing]
    exact not_iff_not.mp hboth
  have hvisits : view.findings (v.visitFindings set.rules) =
      view.findings (u.visitFindings set.rules) := by
    have hsites := h.sites
    unfold visitFindings
    rw [View.findings_flatMap, View.findings_flatMap]
    generalize u.sites = sites at hsites ⊢
    generalize v.sites = others at hsites ⊢
    induction hsites with
    | nil => rfl
    | cons hmatch _ ih =>
      rw [List.flatMap_cons, List.flatMap_cons, ih,
        Site.findings_visit_of_matches hrules hcompares hmatch]
  rw [findings_evaluate, findings_evaluate, View.findings_sortFindings, View.findings_sortFindings]
  congr 1
  unfold unsortedFindings
  split
  · rfl
  · by_cases hnone : u.layer = none
    · rw [if_pos hnone, if_pos (hlayer.mpr hnone), missingNote_of_matches h]
    · rw [if_neg hnone, if_neg (mt hlayer.mp hnone), hvisits]

/-- The same for the whole outcome of an evaluation without a time budget. -/
theorem evaluation_of_matches (hrules : AllBuiltin set.rules) (hcompares : view.Compares u v)
    (h : u.Matches view v) :
    view.evaluation (v.evaluation set) = view.evaluation (u.evaluation set) := by
  have hquiet : ∀ w : SourceUnit, (w.evaluate set).cancels = false :=
    Registry.quiet_of_builtin fun rule hrule => (hrules rule hrule).1
  unfold View.evaluation evaluation
  dsimp only
  rw [findings_evaluate_of_matches hrules hcompares h, hquiet, hquiet]

end SourceUnit

/-- The rules of a snapshot are built in, if nothing was registered. -/
theorem Registry.allBuiltin_of_snapshot {calls : List RegistryCall}
    (hcalls : ∀ c ∈ calls, c.Configures) :
    ∃ rules, (builtin.afterAll calls).snapshot = .ok rules ∧ AllBuiltin rules.rules := by
  obtain ⟨rules, hsnapshot, hrules, -⟩ := snapshot_builtin hcalls
  refine ⟨rules, hsnapshot, fun rule hrule => ?_⟩
  rw [hrules] at hrule
  exact safe_of_mem_rules hcalls (List.mem_filter.mp hrule).1

end Conformance
