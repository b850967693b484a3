import Conformance.Evaluation.Budget
import Conformance.Proofs.Context
import Conformance.Proofs.StableSort
import Conformance.Rule.Script
import Mathlib.Data.List.Forall2

/-!
# The sites of a unit, and what is remarked at them

An evaluation visits the elements of a unit. This file says in which order, as a relation of its own
(`SourceUnit.Visits`), which elements are visited at all (`Site.mem_unit_sites`), and where the
findings of a visit come from: a rule that failed there, the remark that the checks were skipped, or
a check that made it (`Site.failed_skipped_or_checked`).

Remarks of the evaluation itself are specified as calls of a context, like those of a rule
(`Site.Notes`). Such a call can be refused, so that there is something to prove: none of them is.
-/

set_option autoImplicit false

namespace Conformance

/-! ## 1. The visit -/

/-- Statements and all statements in them, each before its children. -/
inductive Statement.PreOrder : List Statement → List Statement → Prop
  | nil : PreOrder [] []
  | cons {s : Statement} {rest inner later : List Statement} (children : PreOrder s.children inner)
      (others : PreOrder rest later) : PreOrder (s :: rest) (s :: (inner ++ later))

/-- A method is visited, then its parameters, then all its statements. -/
def Method.Visits (t : TypeDeclaration) (m : Method) (sites : List Site) : Prop :=
  ∃ statements, Statement.PreOrder m.body statements ∧
    sites = .method t m :: (m.parameters.map (.parameter t m) ++ statements.map (.statement t m))

/-- A type is visited, then its fields, then its methods. -/
def TypeDeclaration.Visits (t : TypeDeclaration) (sites : List Site) : Prop :=
  ∃ parts, List.Forall₂ (Method.Visits t) t.methods parts ∧
    sites = .type t :: (t.fields.map (.field t) ++ parts.flatten)

/-- Types are visited from first to last, and nothing of an exempt type is. -/
inductive TypeDeclaration.VisitsAll : List TypeDeclaration → List Site → Prop
  | nil : VisitsAll [] []
  | exempt {t : TypeDeclaration} {rest : List TypeDeclaration} {later : List Site}
      (h : t.isExempt = true) (others : VisitsAll rest later) : VisitsAll (t :: rest) later
  | visited {t : TypeDeclaration} {rest : List TypeDeclaration} {sites later : List Site}
      (h : t.isExempt = false) (own : t.Visits sites) (others : VisitsAll rest later) :
      VisitsAll (t :: rest) (sites ++ later)

/-- The unit is visited, then its types. -/
def SourceUnit.Visits (u : SourceUnit) (sites : List Site) : Prop :=
  ∃ inner, TypeDeclaration.VisitsAll u.types inner ∧ sites = .unit u :: inner

/-- A relation that determines its second side makes one list of results. -/
theorem forall₂_iff_eq_map {α β : Type} {R : α → β → Prop} {f : α → β}
    (h : ∀ a b, R a b ↔ b = f a) {as : List α} {bs : List β} :
    List.Forall₂ R as bs ↔ bs = as.map f := by
  induction as generalizing bs with
  | nil => rw [List.forall₂_nil_left_iff, List.map_nil]
  | cons a as ih =>
    rw [List.forall₂_cons_left_iff, List.map_cons]
    constructor
    · rintro ⟨b, rest, hb, hrest, rfl⟩
      rw [(h a b).mp hb, ih.mp hrest]
    · intro heq
      exact ⟨f a, as.map f, (h a _).mpr rfl, ih.mpr rfl, heq⟩

theorem Statement.preOrder_walkAll : (body : List Statement) → PreOrder body (walkAll body)
  | [] => .nil
  | s :: rest => by
    rw [walkAll, walk_eq_cons, List.cons_append]
    exact .cons (preOrder_walkAll s.children) (preOrder_walkAll rest)
termination_by body => sizeOf body
decreasing_by
  · cases s
    simp only [List.cons.sizeOf_spec, Statement.mk.sizeOf_spec]
    omega
  · simp only [List.cons.sizeOf_spec]
    omega

/-- The walk of a body lists its statements in pre-order. -/
theorem Statement.preOrder_iff {body statements : List Statement} :
    PreOrder body statements ↔ statements = walkAll body := by
  constructor
  · intro h
    induction h with
    | nil => rfl
    | @cons s rest inner later _ _ hinner hlater =>
      rw [walkAll, walk_eq_cons, hinner, hlater, List.cons_append]
  · rintro rfl
    exact preOrder_walkAll body

/-- The sites of a method are what the relation describes, and nothing else. -/
theorem Method.visits_iff {t : TypeDeclaration} {m : Method} {sites : List Site} :
    m.Visits t sites ↔ sites = m.sites t := by
  unfold Method.Visits Method.sites Method.statements
  constructor
  · rintro ⟨statements, hstatements, rfl⟩
    rw [Statement.preOrder_iff.mp hstatements, List.cons_append]
  · rintro rfl
    exact ⟨Statement.walkAll m.body, Statement.preOrder_walkAll m.body, List.cons_append⟩

theorem TypeDeclaration.visits_iff {t : TypeDeclaration} {sites : List Site} :
    t.Visits sites ↔ sites = t.sites := by
  have hmethods : ∀ m sites, Method.Visits t m sites ↔ sites = m.sites t :=
    fun m sites => Method.visits_iff
  unfold TypeDeclaration.Visits TypeDeclaration.sites
  constructor
  · rintro ⟨parts, hparts, rfl⟩
    rw [(forall₂_iff_eq_map hmethods).mp hparts, List.flatMap_def, List.cons_append]
  · rintro rfl
    exact ⟨t.methods.map (Method.sites t), (forall₂_iff_eq_map hmethods).mpr rfl, by
      rw [List.flatMap_def, List.cons_append]⟩

/-- Types are visited in order, and the exempt ones are passed over. -/
theorem TypeDeclaration.visitsAll_iff {types : List TypeDeclaration} {sites : List Site} :
    VisitsAll types sites ↔ sites = (types.filter (!·.isExempt)).flatMap TypeDeclaration.sites := by
  constructor
  · intro h
    induction h with
    | nil => rfl
    | exempt hexempt _ ih => rw [ih, List.filter_cons_of_neg (by simp [hexempt])]
    | visited hvisited own _ ih =>
      rw [ih, TypeDeclaration.visits_iff.mp own, List.filter_cons_of_pos (by simp [hvisited]),
        List.flatMap_cons]
  · rintro rfl
    induction types with
    | nil => exact .nil
    | cons t rest ih =>
      cases hexempt : t.isExempt with
      | true =>
        -- an exempt type is left out on both sides
        rw [List.filter_cons_of_neg (by simp [hexempt])]
        exact .exempt hexempt ih
      | false =>
        rw [List.filter_cons_of_pos (by simp [hexempt]), List.flatMap_cons]
        exact .visited hexempt (TypeDeclaration.visits_iff.mpr rfl) ih

/-- **The visit.** The sites of a unit are those that the rules visit, in their order. -/
theorem SourceUnit.visits_iff {u : SourceUnit} {sites : List Site} :
    u.Visits sites ↔ sites = u.sites := by
  unfold SourceUnit.Visits SourceUnit.sites
  constructor
  · rintro ⟨inner, hinner, rfl⟩
    rw [TypeDeclaration.visitsAll_iff.mp hinner]
  · rintro rfl
    exact ⟨_, TypeDeclaration.visitsAll_iff.mpr rfl, rfl⟩

/-! ### Which sites there are -/

/-- A statement in a body, at any depth. -/
inductive Statement.Within : Statement → List Statement → Prop
  | here {s : Statement} {body : List Statement} (h : s ∈ body) : Within s body
  | inside {s outer : Statement} {body : List Statement} (h : outer ∈ body)
      (inner : Within s outer.children) : Within s body

/-- A statement within a body is its first one, or in that, or in the rest. -/
theorem Statement.within_cons {s first : Statement} {rest : List Statement} :
    s.Within (first :: rest) ↔ s = first ∨ s.Within first.children ∨ s.Within rest := by
  constructor
  · intro h
    cases h with
    | here h => exact (List.mem_cons.mp h).imp_right fun hrest => .inr (.here hrest)
    | inside h inner =>
      rcases List.mem_cons.mp h with rfl | hrest
      · exact .inr (.inl inner)
      · exact .inr (.inr (.inside hrest inner))
  · rintro (rfl | hinner | hlater)
    · exact .here List.mem_cons_self
    · exact .inside List.mem_cons_self hinner
    · cases hlater with
      | here h => exact .here (List.mem_cons_of_mem _ h)
      | inside h inner => exact .inside (List.mem_cons_of_mem _ h) inner

/-- The walk of a body reaches the statements in it, at every depth, and no others. -/
theorem Statement.mem_walkAll_iff {s : Statement} {body : List Statement} :
    s ∈ walkAll body ↔ s.Within body := by
  have hall : ∀ {body statements : List Statement}, PreOrder body statements →
      (s ∈ statements ↔ s.Within body) := by
    intro body statements h
    induction h with
    | nil =>
      refine iff_of_false List.not_mem_nil fun hnone => ?_
      cases hnone with
      | here h => exact absurd h List.not_mem_nil
      | inside h _ => exact absurd h List.not_mem_nil
    | cons _ _ hinner hlater =>
      rw [List.mem_cons, List.mem_append, hinner, hlater, within_cons]
  exact hall (preOrder_walkAll body)

namespace Site

variable {site : Site} {t : TypeDeclaration}

/-- Which sites a method has, by what is in it. -/
theorem mem_method_sites {m : Method} :
    site ∈ m.sites t ↔ site = .method t m ∨ (∃ p ∈ m.parameters, site = .parameter t m p) ∨
      ∃ s : Statement, s.Within m.body ∧ site = .statement t m s := by
  unfold Method.sites Method.statements
  simp only [List.cons_append, List.mem_cons, List.mem_append, List.mem_map,
    Statement.mem_walkAll_iff, eq_comm]

theorem mem_type_sites :
    site ∈ t.sites ↔ site = .type t ∨ (∃ f ∈ t.fields, site = .field t f) ∨
      ∃ m ∈ t.methods, site ∈ m.sites t := by
  unfold TypeDeclaration.sites
  simp only [List.cons_append, List.mem_cons, List.mem_append, List.mem_map, List.mem_flatMap,
    eq_comm]

/-- **Which sites a unit has.** This is what proofs about a single site use. -/
theorem mem_unit_sites {u : SourceUnit} :
    site ∈ u.sites ↔ site = .unit u ∨ ∃ t ∈ u.types, t.isExempt = false ∧ site ∈ t.sites := by
  unfold SourceUnit.sites
  simp only [List.mem_cons, List.mem_flatMap, List.mem_filter, Bool.not_eq_true', and_assoc]

end Site

/-! ## 2. Remarks at a site -/

namespace Site

/-- The context in which the evaluation speaks for itself: its remarks are informative, they are
diagnostics, and they stand at the site. -/
def noteContext (u : SourceUnit) (site : Site) (id : String) : Context where
  ruleId := id
  category := .diagnostic
  config := { enabled := true, severity := .info, thresholds := .empty, profile := none }
  unit := u
  type? := site.type?
  method? := site.method?

/-- A remark of the evaluation at a site. -/
def Notes (u : SourceUnit) (site : Site) (id message : String) (payload : Payload)
    (note : Finding) : Prop :=
  (site.noteContext u id).finding site.element message payload = .ok note

/-- The remark that a rule failed. -/
def NotesFault (u : SourceUnit) (site : Site) (rule : ConfiguredRule) (e : Error)
    (note : Finding) : Prop :=
  site.Notes u ruleFault
    ("Rule '" ++ rule.ruleId ++ "' failed: " ++ e.className ++ ": " ++ e.message)
    [("failed_rule", .text rule.ruleId), ("error", .text e.className)] note

/-- A remark with something to say is made: the owners of the site are those of the context. -/
theorem notes_iff {u : SourceUnit} {site : Site} {id message : String} {payload : Payload}
    {note : Finding} (hid : id ≠ "") (hmessage : message ≠ "")
    (hfree : Context.NamesFree Context.callNames payload) :
    site.Notes u id message payload note ↔ note = site.note u.path id message payload := by
  have hat : (site.noteContext u id).At site := ⟨rfl, rfl, hid⟩
  unfold Notes
  rw [Context.finding_eq_ok hat hmessage hfree, Except.ok.injEq]
  exact eq_comm

/-- The remark on a failure is one, and always there. -/
theorem notesFault_iff {u : SourceUnit} {site : Site} {rule : ConfiguredRule} {e : Error}
    {note : Finding} : site.NotesFault u rule e note ↔ note = site.faultNote u.path rule e :=
  notes_iff (by decide) (by simp) (by simp [Context.NamesFree, keysOf, Context.callNames])

theorem predicateFault?_eq_none {u : SourceUnit} {site : Site} {rule : ConfiguredRule} {b : Bool}
    (h : rule.definition.appliesTo site.element = .ok b) :
    site.predicateFault? u.path rule = none := by
  unfold predicateFault?
  rw [h]

theorem predicateFault?_eq_some {u : SourceUnit} {site : Site} {rule : ConfiguredRule} {e : Error}
    (h : rule.definition.appliesTo site.element = .error e) :
    site.predicateFault? u.path rule = some (site.faultNote u.path rule e) := by
  unfold predicateFault?
  rw [h]

/-- A remark about a predicate is one about a rule that failed. -/
theorem exists_of_mem_predicateFaults {path : SourcePath} {site : Site}
    {rules : List ConfiguredRule} {f : Finding}
    (hf : f ∈ rules.filterMap (site.predicateFault? path)) :
    ∃ rule ∈ rules, ∃ e, f = site.faultNote path rule e := by
  obtain ⟨rule, hrule, hnoted⟩ := List.mem_filterMap.mp hf
  unfold predicateFault? at hnoted
  split at hnoted
  · exact absurd hnoted (by simp)
  · exact ⟨rule, hrule, _, (Option.some.inj hnoted).symm⟩

/-- A rule applies if its predicate says so; a predicate that fails does not say so. -/
theorem applies_iff {site : Site} {rule : ConfiguredRule} :
    site.applies rule = true ↔ rule.definition.appliesTo site.element = .ok true := by
  unfold applies
  cases rule.definition.appliesTo site.element with
  | ok b => simp
  | error e => simp

/-- No rule applies exactly if no predicate says yes; one that fails does not. -/
theorem filter_applies_eq_nil_iff {site : Site} {rules : List ConfiguredRule} :
    rules.filter site.applies = [] ↔
      ∀ rule ∈ rules, rule.definition.appliesTo site.element ≠ .ok true := by
  rw [List.filter_eq_nil_iff]
  refine forall₂_congr fun rule _ => ?_
  rw [applies_iff]

theorem filter_applies_ne_nil_iff {site : Site} {rules : List ConfiguredRule} :
    rules.filter site.applies ≠ [] ↔
      ∃ rule ∈ rules, rule.definition.appliesTo site.element = .ok true := by
  rw [Ne, filter_applies_eq_nil_iff]
  simp only [not_forall, not_not, exists_prop]

/-- The three branches of a visit: nothing applies, something is missing, or the checks are called.
The failures of predicates come first in each. -/
theorem findings_visit (u : SourceUnit) (rules : List ConfiguredRule) (site : Site) :
    (site.visit u rules).findings =
      rules.filterMap (site.predicateFault? u.path) ++
        if rules.filter site.applies = [] then []
        else if site.element.missing = [] then
          (rules.filter site.applies).flatMap (site.checkFindings u)
        else [site.incompleteNote u.path (rules.filter site.applies)] := by
  unfold visit
  by_cases hidle : rules.filter site.applies = []
  · simp [hidle]
  · by_cases hmissing : site.element.missing = []
    · simp [hidle, hmissing]
    · simp [hidle, hmissing]

/-- Only checks can ask for the run to be cancelled. -/
theorem cancels_visit (u : SourceUnit) (rules : List ConfiguredRule) (site : Site) :
    (site.visit u rules).cancels =
      if rules.filter site.applies = [] then false
      else if site.element.missing = [] then
        (rules.filter site.applies).any fun rule => (site.checkRun u rule).cancels
      else false := by
  unfold visit
  by_cases hidle : rules.filter site.applies = []
  · simp [hidle]
  · by_cases hmissing : site.element.missing = []
    · simp [hidle, hmissing]
    · simp [hidle, hmissing]

/-- A check contributes what it found, or the remark that it failed. -/
theorem found_or_failed {u : SourceUnit} {site : Site} {rule : ConfiguredRule} {f : Finding}
    (hf : f ∈ site.checkFindings u rule) :
    f ∈ (site.checkRun u rule).findings ∨ ∃ e, f = site.faultNote u.path rule e := by
  unfold checkFindings CheckRun.result at hf
  cases hfailure : (site.checkRun u rule).failure with
  | none =>
    rw [hfailure] at hf
    exact .inl hf
  | some e =>
    rw [hfailure] at hf
    exact .inr ⟨e, List.mem_singleton.mp hf⟩

/-- A finding of a visit is the remark that a rule failed, the remark that the checks were skipped,
or a check made it there. -/
theorem failed_skipped_or_checked {u : SourceUnit} {rules : List ConfiguredRule} {site : Site}
    {f : Finding} (hf : f ∈ (site.visit u rules).findings) :
    (∃ rule e, f = site.faultNote u.path rule e) ∨
      (∃ applicable, f = site.incompleteNote u.path applicable) ∨
      ∃ rule ∈ rules, f ∈ (site.checkRun u rule).findings := by
  rw [findings_visit] at hf
  rcases List.mem_append.mp hf with hfault | hrest
  · obtain ⟨rule, -, e, rfl⟩ := exists_of_mem_predicateFaults hfault
    exact .inl ⟨rule, e, rfl⟩
  · split at hrest
    · exact absurd hrest List.not_mem_nil
    · split at hrest
      · obtain ⟨rule, hrule, hfound⟩ := List.mem_flatMap.mp hrest
        rcases found_or_failed hfound with hmade | ⟨e, hfailed⟩
        · exact .inr (.inr ⟨rule, (List.mem_filter.mp hrule).1, hmade⟩)
        · exact .inl ⟨_, _, hfailed⟩
      · exact .inr (.inl ⟨_, List.mem_singleton.mp hrest⟩)

/-- A finding of a visit is a remark of the evaluation at the site, about missing data or a failed
rule, or a check made it there. -/
theorem noted_or_checked {u : SourceUnit} {rules : List ConfiguredRule} {site : Site} {f : Finding}
    (hf : f ∈ (site.visit u rules).findings) :
    (∃ id message payload, (id = incompleteModelData ∨ id = ruleFault) ∧
      f = site.note u.path id message payload) ∨
      ∃ rule ∈ rules, f ∈ (site.checkRun u rule).findings := by
  rcases failed_skipped_or_checked hf with ⟨rule, e, hfailed⟩ | ⟨applicable, hskipped⟩ | hmade
  · exact .inl ⟨_, _, _, .inr rfl, hfailed⟩
  · exact .inl ⟨_, _, _, .inl rfl, hskipped⟩
  · exact .inr hmade

end Site

/-! ## 3. The findings of a unit -/

namespace SourceUnit

/-- A unit lacks its layer or nothing, so this is what the gate before the walk asks. -/
theorem missing_eq_nil_iff {u : SourceUnit} : u.missing = [] ↔ u.layer ≠ none :=
  leftOut_eq_nil_iff

theorem missing_of_layer_eq_none {u : SourceUnit} (h : u.layer = none) : u.missing = ["layer"] := by
  unfold missing
  rw [h]
  rfl

theorem visitFindings_nil (u : SourceUnit) : u.visitFindings [] = [] := by
  unfold visitFindings
  rw [List.flatMap_eq_nil_iff]
  intro site _
  rfl

/-- The findings of a unit in the order in which they are made, before they are sorted. -/
def unsortedFindings (u : SourceUnit) (rules : RuleSet) : List Finding :=
  if rules.rules = [] then [] else if u.layer = none then [u.missingNote]
  else u.visitFindings rules.rules

/-- A finding is the remark that the unit was not visited, or was made at one of its sites. -/
theorem missing_or_visited {u : SourceUnit} {rules : RuleSet} {f : Finding}
    (hf : f ∈ u.unsortedFindings rules) :
    f = u.missingNote ∨ ∃ site ∈ u.sites, f ∈ (site.visit u rules.rules).findings := by
  unfold unsortedFindings at hf
  split at hf
  · exact absurd hf List.not_mem_nil
  · split at hf
    · exact .inl (List.mem_singleton.mp hf)
    · exact .inr (List.mem_flatMap.mp hf)

/-- An evaluation sorts what it found, and does nothing else to it. -/
theorem findings_evaluate (u : SourceUnit) (rules : RuleSet) :
    (u.evaluate rules).findings = sortFindings (u.unsortedFindings rules) := by
  unfold evaluate unsortedFindings
  by_cases hrules : rules.rules = []
  · rw [if_pos (by rw [hrules]; rfl), if_pos hrules, sortFindings_nil]
  · rw [if_neg (by simpa using hrules), if_neg hrules]
    by_cases hlayer : u.layer = none
    · rw [if_pos (by rw [missing_of_layer_eq_none hlayer]; rfl), if_pos hlayer,
        sortFindings_singleton]
    · rw [if_neg (by rw [missing_eq_nil_iff.mpr hlayer]; simp), if_neg hlayer]

/-- The remark about a unit without a layer. -/
theorem notesNoLayer_iff {u : SourceUnit} (hlayer : u.layer = none) {note : Finding} :
    (Site.unit u).Notes u incompleteModelData "Unit skipped, front-end left out: layer"
      [("missing", Value.texts ["layer"])] note ↔ note = u.missingNote := by
  rw [Site.notes_iff (by decide) (by decide)
    (by simp [Context.NamesFree, keysOf, Context.callNames])]
  unfold missingNote
  rw [missing_of_layer_eq_none hlayer]
  rfl

end SourceUnit

/-! ## A unit that is not visited -/

/-- A type with nothing in it. -/
def bareType : TypeDeclaration where
  qualifiedName := "T"
  kind := .class_
  fields := []
  methods := []
  supertypes := []
  references := []
  isExempt := false
  tags := []
  line := none
  lineSpan := none
  qualifiedName_ne := by decide
  line_pos := line_pos_none
  fields_nodup := List.nodup_nil

/-- A unit with one type, whose layer the front end left out. -/
def unlayeredUnit : SourceUnit where
  path := ⟨"a"⟩
  layer := none
  types := [bareType]
  path_ne := by decide
  types_nodup := by simp

/-- A rule that reports every type. -/
def typeReporter : RuleDefinition := PlainRule.definition
  { ruleId := "r"
    description := ""
    category := .size
    appliesTo := Predicate.kindIn [.type]
    check := CheckStep.toCheck [.report "m" []] }

/-- The rule set of that one rule. -/
def typeReporterSet : RuleSet where
  rules := [⟨typeReporter, typeReporter.defaults⟩]
  nodup := by simp
  enabled := by simp [typeReporter, PlainRule.definition, RuleConfig.starting]

end Conformance
