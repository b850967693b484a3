import Conformance.Model.Draft
import Conformance.Proofs.Measurements

/-!
# Depth is nesting

A statement carries a depth that a front end wrote down. This file proves that the depth of an
accepted statement is not a matter of trust: it is the number of its ancestors that open a level,
which are all but else branches, and a body that says otherwise of any statement is refused.

What is checked is local. A statement is compared with its children, and a method with the
statements directly in its body. The argument goes through the ancestors of a node (`Below`):

* **accepted bodies**: by induction on the way down to a statement, its depth is the number of
  levels above it, since each step down checks one more level (`Statement.depth_eq_levels`);
* **the list of statements**: the walk is the list of all nodes with their ancestors, with the
  ancestors left out (`Statement.map_snd_trailAll`). As the positions in a method differ, nothing is
  lost thereby: a statement in the list has one place in the body;
* **refused bodies**: a description that is accepted leads to statements of the same kinds, the same
  depths and the same ancestors (`Draft.Statement.below_of_buildAll`), so a description with a wrong
  depth is not accepted; and every refusal on the way is of one class.
-/

set_option autoImplicit false

namespace Conformance

/-! ## 1. Nodes and their ancestors -/

/-- A node of a forest, with its ancestors from the nearest to the outermost. -/
inductive Below {α : Type} (children : α → List α) (forest : List α) : List α → α → Prop
  | outer {node : α} (h : node ∈ forest) : Below children forest [] node
  | inner {parent node : α} {ancestors : List α} (above : Below children forest ancestors parent)
      (h : node ∈ children parent) : Below children forest (parent :: ancestors) node

/-- The number of levels that ancestors open. An else branch opens none. -/
def levels {α : Type} (kind : α → StatementKind) (ancestors : List α) : Nat :=
  (ancestors.filter fun ancestor => kind ancestor ≠ .else_).length

/-- One ancestor more is one level more, but for an else branch, which stands at the level of its
branches. -/
theorem levels_cons {α : Type} (kind : α → StatementKind) (parent : α) (ancestors : List α) :
    levels kind (parent :: ancestors) =
      if kind parent = .else_ then levels kind ancestors else levels kind ancestors + 1 := by
  unfold levels
  by_cases helse : kind parent = .else_
  · rw [if_pos helse, List.filter_cons_of_neg (by simp [helse])]
  · rw [if_neg helse, List.filter_cons_of_pos (by simp [helse]), List.length_cons]

/-- What stands below the children of an outer node stands below that node. -/
theorem Below.under {α : Type} {children : α → List α} {forest ancestors : List α}
    {outermost node : α} (h : Below children (children outermost) ancestors node)
    (houter : outermost ∈ forest) : Below children forest (ancestors ++ [outermost]) node := by
  induction h with
  | outer hnode => exact .inner (.outer houter) hnode
  | inner _ hnode ih => exact .inner ih hnode

namespace Statement

/-- **Depths add up.** In a body that starts at depth zero and whose depths fit together, the depth
of a statement is the number of levels above it. -/
theorem depth_eq_levels {body ancestors : List Statement} {s : Statement}
    (hwellFormed : ∀ outer ∈ body, outer.WellFormed) (hstart : ∀ outer ∈ body, outer.depth = 0)
    (h : Below children body ancestors s) : s.WellFormed ∧ s.depth = levels kind ancestors := by
  induction h with
  | outer hs => exact ⟨hwellFormed _ hs, hstart _ hs⟩
  | @inner parent s ancestors _ hs ih =>
    obtain ⟨hparent, hdepth⟩ := ih
    cases hparent with
    | intro _ _ hchildDepth hchildren =>
      refine ⟨hchildren s hs, ?_⟩
      rw [hchildDepth s hs, childDepth, levels_cons, hdepth]

/-! ## 2. The walk of a body -/

/-- The walk of a statement is part of the walk of every body that it stands in. -/
theorem walk_sublist {body ancestors : List Statement} {s : Statement}
    (h : Below children body ancestors s) : s.walk.Sublist (walkAll body) := by
  have hall : ∀ {forest : List Statement} {tree : Statement}, tree ∈ forest →
      tree.walk.Sublist (walkAll forest) := by
    intro forest tree htree
    rw [walkAll_eq_flatMap]
    exact (List.infix_flatMap_of_mem htree walk).sublist
  induction h with
  | outer hs => exact hall hs
  | @inner parent s _ _ hs ih =>
    have hparent : (walkAll parent.children).Sublist parent.walk := by
      rw [walk_eq_cons]
      exact List.sublist_cons_self _ _
    exact (hall hs).trans (hparent.trans ih)

/-- A statement below a body is met on the walk through it. -/
theorem mem_walkAll_of_below {body ancestors : List Statement} {s : Statement}
    (h : Below children body ancestors s) : s ∈ walkAll body := by
  have hself : s ∈ s.walk := by
    rw [walk_eq_cons]
    exact List.mem_cons_self
  exact (walk_sublist h).subset hself

/-- A statement comes before its children on the walk, which is what makes the walk a pre-order. -/
theorem pair_sublist_walkAll {body ancestors : List Statement} {parent s : Statement}
    (h : Below children body (parent :: ancestors) s) : [parent, s].Sublist (walkAll body) := by
  cases h with
  | inner above hs =>
    have hchild : s ∈ walkAll parent.children := mem_walkAll_iff.mpr (.here hs)
    have hpair : [parent, s].Sublist parent.walk := by
      rw [walk_eq_cons]
      exact (List.singleton_sublist.mpr hchild).cons_cons parent
    exact hpair.trans (walk_sublist above)

/-- And whatever is met has ancestors, those that lead to it from the body. -/
theorem exists_below_of_within {body : List Statement} {s : Statement} (h : s.Within body) :
    ∃ ancestors, Below children body ancestors s := by
  induction h with
  | here hs => exact ⟨[], .outer hs⟩
  | inside houter _ ih =>
    obtain ⟨ancestors, hbelow⟩ := ih
    exact ⟨_, hbelow.under houter⟩

mutual

/-- The statement and all statements in it in the order of the walk, each with its ancestors, of
which `above` are those of the statement itself. -/
def trail (above : List Statement) : Statement → List (List Statement × Statement)
  | s@⟨_, _, _, _, children, _, _⟩ => (above, s) :: trailAll (s :: above) children

/-- The same for a list of statements that have the same ancestors. -/
def trailAll (above : List Statement) : List Statement → List (List Statement × Statement)
  | [] => []
  | s :: rest => s.trail above ++ trailAll above rest

end

/-- The trail of a statement starts with itself, and goes on in its children with one ancestor more.
-/
theorem trail_eq_cons (above : List Statement) (s : Statement) :
    s.trail above = (above, s) :: trailAll (s :: above) s.children := by
  cases s
  rw [trail]

mutual

/-- Without the ancestors, the trail is the walk. The induction takes the children along. -/
theorem map_snd_trail : (s : Statement) → (above : List Statement) →
    (s.trail above).map Prod.snd = s.walk
  | ⟨_, _, _, _, children, _, _⟩, above => by
    rw [trail, walk, List.map_cons, map_snd_trailAll children]

/-- Without the ancestors, the list is the walk. So facts about trails become facts about walks, and
the ancestors serve the proofs only. -/
theorem map_snd_trailAll : (body : List Statement) → (above : List Statement) →
    (trailAll above body).map Prod.snd = walkAll body
  | [], _ => rfl
  | s :: rest, above => by
    rw [trailAll, walkAll, List.map_append, map_snd_trail s, map_snd_trailAll rest]

end

/-- The statements of a body stand on its trail with the ancestors of the body. -/
theorem mem_trailAll_of_mem {body above : List Statement} {s : Statement} (h : s ∈ body) :
    (above, s) ∈ trailAll above body := by
  induction body with
  | nil => exact absurd h List.not_mem_nil
  | cons first rest ih =>
    rw [trailAll, List.mem_append]
    rcases List.mem_cons.mp h with rfl | hrest
    · rw [trail_eq_cons]
      exact .inl List.mem_cons_self
    · exact .inr (ih hrest)

mutual

/-- From a statement to its child: this is the step that `Below` takes. -/
theorem child_mem_trail {ancestors : List Statement} {parent child : Statement}
    (hchild : child ∈ parent.children) : (s : Statement) → (above : List Statement) →
    (ancestors, parent) ∈ s.trail above → (parent :: ancestors, child) ∈ s.trail above
  | ⟨kind, depth, position, line, children, callChainLength, callTarget⟩, above, h => by
    rw [trail] at h ⊢
    refine List.mem_cons_of_mem _ ?_
    rcases List.mem_cons.mp h with heq | hinner
    · obtain ⟨rfl, rfl⟩ := Prod.mk.inj heq
      exact mem_trailAll_of_mem hchild
    · exact child_mem_trailAll hchild children _ hinner

/-- With a statement, its children are listed. -/
theorem child_mem_trailAll {ancestors : List Statement} {parent child : Statement}
    (hchild : child ∈ parent.children) : (body : List Statement) → (above : List Statement) →
    (ancestors, parent) ∈ trailAll above body → (parent :: ancestors, child) ∈ trailAll above body
  | [], _, h => absurd h List.not_mem_nil
  | s :: rest, above, h => by
    rw [trailAll, List.mem_append] at h ⊢
    exact h.imp (child_mem_trail hchild s above) (child_mem_trailAll hchild rest above)

end

/-- **Below and on the trail** are the same, this being the direction that is not by recursion on
the tree. -/
theorem mem_trailAll_of_below {body ancestors : List Statement} {s : Statement}
    (h : Below children body ancestors s) : (ancestors, s) ∈ trailAll [] body := by
  induction h with
  | outer hs => exact mem_trailAll_of_mem hs
  | inner _ hs ih => exact child_mem_trailAll hs body [] ih

/-- **One place each.** If the walk of a body repeats no statement, a statement has its ancestors
once and for all. -/
theorem ancestors_unique {body ancestors others : List Statement} {s : Statement}
    (hnodup : (walkAll body).Nodup) (h : Below children body ancestors s)
    (hother : Below children body others s) : others = ancestors := by
  rw [← map_snd_trailAll body []] at hnodup
  have hsame := List.inj_on_of_nodup_map hnodup (mem_trailAll_of_below hother)
    (mem_trailAll_of_below h) rfl
  exact (Prod.mk.inj hsame).1

end Statement

/-! ## 3. Descriptions that are accepted -/

/-- An accepted statement has the kind, the numbers and the children that it was made from. -/
theorem Statement.eq_of_make {kind : StatementKind} {depth position : Int} {line : Option Int}
    {trees : List { s : Statement // s.WellFormed }} {callChainLength : Option Int}
    {callTarget : Option TypeReference} {made : { s : Statement // s.WellFormed }}
    (h : make kind depth position line trees callChainLength callTarget = .ok made) :
    made.val.kind = kind ∧ made.val.depth = depth ∧
      made.val.children = trees.map Subtype.val := by
  unfold make at h
  split at h
  · exact absurd h (by simp)
  rename_i hdepth
  split at h
  · exact absurd h (by simp)
  obtain ⟨line, -, h⟩ := bind_ok_iff.mp h
  obtain ⟨callChainLength, -, h⟩ := bind_ok_iff.mp h
  dsimp only at h
  split at h
  · exact absurd h (by simp)
  · rw [← Except.ok.inj h]
    have hnat : ((depth.toNat : Nat) : Int) = depth := by omega
    exact ⟨rfl, hnat, rfl⟩

namespace Draft.Statement

/-- A tree that was built keeps the kind and the depth of its description, and is built of its
children. -/
theorem eq_of_build {d : Statement} {made : { s : Conformance.Statement // s.WellFormed }}
    (h : d.build = .ok made) :
    made.val.kind = d.kind ∧ made.val.depth = d.depth ∧
      ∃ trees, buildAll d.children = .ok trees ∧ made.val.children = trees.map Subtype.val := by
  obtain ⟨kind, depth, position, line, children, callChainLength, callTarget⟩ := d
  rw [build] at h
  obtain ⟨trees, htrees, h⟩ := bind_ok_iff.mp h
  obtain ⟨target, -, h⟩ := bind_ok_iff.mp h
  obtain ⟨hkind, hdepth, hchildren⟩ := Conformance.Statement.eq_of_make h
  exact ⟨hkind, hdepth, trees, htrees, hchildren⟩

/-- Each description in a list has a tree among those that were built. -/
theorem build_of_mem {described : List Statement}
    {trees : List { s : Conformance.Statement // s.WellFormed }}
    (h : buildAll described = .ok trees) {d : Statement} (hd : d ∈ described) :
    ∃ made ∈ trees, d.build = .ok made := by
  induction described generalizing trees with
  | nil => exact absurd hd List.not_mem_nil
  | cons first rest ih =>
    rw [buildAll] at h
    obtain ⟨made, hmade, h⟩ := bind_ok_iff.mp h
    obtain ⟨others, hothers, h⟩ := bind_ok_iff.mp h
    rw [← Except.ok.inj h]
    rcases List.mem_cons.mp hd with rfl | hrest
    · exact ⟨made, List.mem_cons_self, hmade⟩
    · obtain ⟨own, hown, hbuild⟩ := ih hothers hrest
      exact ⟨own, List.mem_cons_of_mem _ hown, hbuild⟩

/-- **The same ancestors.** A described statement becomes a statement of its own depth, under as
many levels as it was described under. -/
theorem below_of_buildAll {described ancestors : List Statement} {d : Statement}
    {trees : List { s : Conformance.Statement // s.WellFormed }}
    (hbuild : buildAll described = .ok trees) (h : Below children described ancestors d) :
    ∃ above made, d.build = .ok made ∧
      Below Conformance.Statement.children (trees.map Subtype.val) above made.val ∧
      levels Conformance.Statement.kind above = levels kind ancestors := by
  induction h with
  | outer hd =>
    obtain ⟨made, hmem, hmade⟩ := build_of_mem hbuild hd
    exact ⟨[], made, hmade, .outer (List.mem_map_of_mem hmem), rfl⟩
  | inner _ hd ih =>
    obtain ⟨above, parent, hparent, hbelow, hlevels⟩ := ih
    obtain ⟨hkind, -, own, hown, hchildren⟩ := eq_of_build hparent
    obtain ⟨made, hmem, hmade⟩ := build_of_mem hown hd
    refine ⟨parent.val :: above, made, hmade, .inner hbelow ?_, ?_⟩
    · rw [hchildren]
      exact List.mem_map_of_mem hmem
    · rw [levels_cons, levels_cons, hkind, hlevels]

end Draft.Statement

/-- A method that was made has the body that it was made of. -/
theorem Method.body_of_make {name : String} {parameters : List Parameter}
    {returnType : Option TypeReference} {trees : List { s : Statement // s.WellFormed }}
    {visibility : Visibility} {isAccessor : Bool} {line : Option Int} {m : Method}
    (h : make name parameters returnType trees visibility isAccessor line = .ok m) :
    m.body = trees.map Subtype.val := by
  unfold make at h
  split at h
  · exact absurd h (by simp)
  obtain ⟨line, -, h⟩ := bind_ok_iff.mp h
  dsimp only at h
  split at h
  · exact absurd h (by simp)
  split at h
  · split at h
    · rw [← Except.ok.inj h]
    · exact absurd h (by simp)
  · exact absurd h (by simp)

/-- In a description that is accepted every depth is right. -/
theorem Draft.Method.depth_eq_levels {d : Draft.Method} {m : Conformance.Method}
    (h : d.build = .ok m) {ancestors : List Draft.Statement} {s : Draft.Statement}
    (hbelow : Below Draft.Statement.children d.body ancestors s) :
    s.depth = levels Draft.Statement.kind ancestors := by
  unfold Draft.Method.build at h
  obtain ⟨parameters, -, h⟩ := bind_ok_iff.mp h
  obtain ⟨returnType, -, h⟩ := bind_ok_iff.mp h
  obtain ⟨trees, htrees, h⟩ := bind_ok_iff.mp h
  have hbody := Conformance.Method.body_of_make h
  obtain ⟨above, made, hmade, habove, hlevels⟩ := Statement.below_of_buildAll htrees hbelow
  rw [← hbody] at habove
  have hdepth := (Conformance.Statement.depth_eq_levels m.body_wellFormed m.body_depth habove).2
  rw [← (Statement.eq_of_build hmade).2.1, hdepth, hlevels]

/-! ## 4. How descriptions are refused -/

/-- A computation that fails, if at all, with an error of one class. -/
def FailsAs {α : Type} (className : String) (x : Except Error α) : Prop :=
  ∀ e, x = .error e → e.className = className

namespace FailsAs

variable {α β : Type} {name : String}

theorem ok (a : α) : FailsAs name (.ok a) := fun _ h => absurd h (by simp)

theorem error {e : Error} (h : e.className = name) : FailsAs name (.error e : Except Error α) :=
  fun _ he => Except.error.inj he ▸ h

/-- Steps one after the other fail as each of them does. -/
theorem bind {x : Except Error α} {next : α → Except Error β} (hx : FailsAs name x)
    (hnext : ∀ a, FailsAs name (next a)) : FailsAs name (x >>= next) := by
  cases x with
  | error e => exact fun _ h => hx _ (Except.error.inj h ▸ rfl)
  | ok a => exact hnext a

theorem mapM {f : α → Except Error β} (h : ∀ a, FailsAs name (f a)) (items : List α) :
    FailsAs name (items.mapM f) := by
  induction items with
  | nil => exact ok []
  | cons first rest ih =>
    rw [List.mapM_cons]
    exact (h first).bind fun _ => ih.bind fun _ => ok _

end FailsAs

/-- A line that does not count from one is refused. -/
theorem failsAs_checkLine (line : Option Int) : FailsAs "ValueError" (checkLine line) := by
  unfold checkLine
  split
  · exact .ok _
  · split
    · exact .error rfl
    · exact .ok _

theorem failsAs_checkCount (what : String) (count : Option Int) :
    FailsAs "ValueError" (checkCount what count) := by
  unfold checkCount
  split
  · exact .ok _
  · split
    · exact .error rfl
    · exact .ok _

/-- **A statement** is refused with one class of error, whatever is wrong with it. -/
theorem Statement.failsAs_make {kind : StatementKind} {depth position : Int} {line : Option Int}
    {trees : List { s : Statement // s.WellFormed }} {callChainLength : Option Int}
    {callTarget : Option TypeReference} :
    FailsAs "ValueError" (make kind depth position line trees callChainLength callTarget) := by
  unfold make
  split
  · exact .error rfl
  split
  · exact .error rfl
  refine (failsAs_checkLine line).bind fun _ => (failsAs_checkCount _ _).bind fun _ => ?_
  dsimp only
  split
  · exact .error rfl
  · exact .ok _

/-- So is a method, with its names, its line and its body. -/
theorem Method.failsAs_make {name : String} {parameters : List Parameter}
    {returnType : Option TypeReference} {trees : List { s : Statement // s.WellFormed }}
    {visibility : Visibility} {isAccessor : Bool} {line : Option Int} :
    FailsAs "ValueError"
      (make name parameters returnType trees visibility isAccessor line) := by
  unfold make
  split
  · exact .error rfl
  refine (failsAs_checkLine line).bind fun _ => ?_
  dsimp only
  split
  · exact .error rfl
  split
  · split
    · exact .ok _
    · exact .error rfl
  · exact .error rfl

namespace Draft

theorem Reference.failsAs_build (d : Reference) : FailsAs "ValueError" d.build := by
  unfold Reference.build TypeReference.make
  split
  · exact .error rfl
  · exact .ok _

theorem failsAs_buildOptional (d : Option Reference) : FailsAs "ValueError" (buildOptional d) := by
  cases d with
  | none => exact .ok _
  | some d => exact d.failsAs_build.bind fun _ => .ok _

/-- A parameter needs a name, and may mention a type. -/
theorem Parameter.failsAs_build (d : Parameter) : FailsAs "ValueError" d.build := by
  refine (failsAs_buildOptional d.type?).bind fun _ => ?_
  unfold Conformance.Parameter.make
  split
  · exact .error rfl
  · exact .ok _

mutual

/-- **A described tree** is refused with the same class of error, at whatever depth the fault is. -/
theorem Statement.failsAs_build : (d : Statement) → FailsAs "ValueError" d.build
  | ⟨_, _, _, _, children, _, callTarget⟩ => by
    rw [Statement.build]
    exact (Statement.failsAs_buildAll children).bind fun _ =>
      (failsAs_buildOptional callTarget).bind fun _ => Conformance.Statement.failsAs_make

/-- The same for the trees of a body, in mutual induction. -/
theorem Statement.failsAs_buildAll : (described : List Statement) →
    FailsAs "ValueError" (Statement.buildAll described)
  | [] => by
    rw [Statement.buildAll]
    exact .ok _
  | d :: rest => by
    rw [Statement.buildAll]
    exact (Statement.failsAs_build d).bind fun _ =>
      (Statement.failsAs_buildAll rest).bind fun _ => .ok _

end

/-- A method is refused in one way only, whatever is wrong with its description. -/
theorem Method.failsAs_build (d : Method) : FailsAs "ValueError" d.build :=
  (FailsAs.mapM Parameter.failsAs_build d.parameters).bind fun _ =>
    (failsAs_buildOptional d.returnType).bind fun _ =>
      (Statement.failsAs_buildAll d.body).bind fun _ => Conformance.Method.failsAs_make

end Draft

/-! ## 5. Depths and nesting -/

/-- The statements of a method are its nodes, and their depths are their nesting. -/
structure Method.NestsByDepth (m : Method) : Prop where
  /-- A node is as deep as there are levels above it. -/
  depth : ∀ ancestors s, Below Statement.children m.body ancestors s →
    s.depth = levels Statement.kind ancestors
  /-- No node has more levels above it than the method is deep. -/
  bound : ∀ ancestors s, Below Statement.children m.body ancestors s →
    levels Statement.kind ancestors ≤ m.maxNestingDepth
  /-- Some node has as many, unless there is none. -/
  attained : m.body = [] ∧ m.maxNestingDepth = 0 ∨ ∃ ancestors s,
    Below Statement.children m.body ancestors s ∧
      levels Statement.kind ancestors = m.maxNestingDepth
  count : m.statementCount = Statement.countAll m.body
  /-- Every node is listed. -/
  listed : ∀ ancestors s, Below Statement.children m.body ancestors s → s ∈ m.statements
  /-- What is listed is a node, in one place. -/
  placed : ∀ s ∈ m.statements, ∃! ancestors, Below Statement.children m.body ancestors s
  /-- Nothing is listed twice. -/
  once : m.statements.Nodup
  /-- A statement is listed before its children. -/
  before : ∀ ancestors parent s, Below Statement.children m.body (parent :: ancestors) s →
    [parent, s].Sublist m.statements
  positions : (m.statements.map (·.position)).Nodup

/-- **Depth is nesting** in every method: what the front end annotated and what the tree says are
one number, for a method cannot be made of a body where they differ. -/
theorem Method.nestsByDepth (m : Method) : m.NestsByDepth := by
  have hdepth : ∀ ancestors s, Below Statement.children m.body ancestors s →
      s.depth = levels Statement.kind ancestors := fun ancestors s h =>
    (Statement.depth_eq_levels m.body_wellFormed m.body_depth h).2
  have hgreatest := m.greatestDepth_maxNestingDepth
  have honce : m.statements.Nodup := m.positions_nodup.of_map _
  refine ⟨hdepth, ?_, ?_, m.statementCount_eq, fun _ _ => Statement.mem_walkAll_of_below, ?_,
    honce, fun _ _ _ => Statement.pair_sublist_walkAll, m.positions_nodup⟩
  · intro ancestors s h
    rw [← hdepth ancestors s h]
    exact hgreatest.bound s (Statement.mem_walkAll_iff.mp (Statement.mem_walkAll_of_below h))
  · refine hgreatest.attained.imp_right fun ⟨s, hs, hattained⟩ => ?_
    obtain ⟨ancestors, h⟩ := Statement.exists_below_of_within hs
    exact ⟨ancestors, s, h, by rw [← hdepth ancestors s h, hattained]⟩
  · intro s hs
    obtain ⟨ancestors, h⟩ := Statement.exists_below_of_within (Statement.mem_walkAll_iff.mp hs)
    exact ⟨ancestors, h, fun others hothers => Statement.ancestors_unique honce h hothers⟩

/-- **Depth means nesting.** In every method, the depth of a statement is the number of its
ancestors that are not else branches. So the depth of a method is the greatest such number, or zero
if there is no statement; the number of its statements is the number of nodes of its body; and they
are listed once each, at distinct positions, and each before its children.

Conversely, take the description of a method with anything in it. If one statement anywhere in its
body is described with another depth, the method is refused, with a value error. -/
theorem depth_is_nesting :
    (∀ m : Method, m.NestsByDepth) ∧
      ∀ d : Draft.Method,
        (∃ ancestors s, Below Draft.Statement.children d.body ancestors s ∧
          s.depth ≠ levels Draft.Statement.kind ancestors) →
        ∃ e, d.build = .error e ∧ e.className = "ValueError" := by
  refine ⟨Method.nestsByDepth, ?_⟩
  rintro d ⟨ancestors, s, hbelow, hwrong⟩
  cases h : d.build with
  | ok m => exact absurd (Draft.Method.depth_eq_levels h hbelow) hwrong
  | error e => exact ⟨e, rfl, d.failsAs_build e h⟩

/-- A call in a loop, in the else branch of an if statement, with a depth for the call. -/
def branching (depth : Int) : Draft.Method :=
  let call : Draft.Statement := { kind := .methodCall, depth, position := 4 }
  let loop : Draft.Statement := { kind := .loop, depth := 1, position := 3, children := [call] }
  let branch : Draft.Statement := { kind := .else_, depth := 1, position := 2, children := [loop] }
  let first : Draft.Statement := { kind := .expression, depth := 1, position := 1 }
  { name := "m",
    body := [{ kind := .if_, depth := 0, position := 0, children := [first, branch] }] }

/-- The call has three ancestors, two of which open a level. -/
theorem depth_is_nesting_sample :
    (∃ m, (branching 2).build = .ok m ∧ m.NestsByDepth ∧ m.maxNestingDepth = 2 ∧
      m.statementCount = 5) ∧
      ∃ e, (branching 3).build = .error e ∧ e.className = "ValueError" := by
  obtain ⟨haccepted, hrefused⟩ := depth_is_nesting
  constructor
  · have hbuilt : (branching 2).build.map (fun m => (m.maxNestingDepth, m.statementCount)) =
        .ok (2, 5) := by rfl
    cases h : (branching 2).build with
    | error e =>
      rw [h] at hbuilt
      exact absurd hbuilt (by simp [Except.map])
    | ok m =>
      rw [h] at hbuilt
      obtain ⟨hdepth, hcount⟩ := Prod.mk.inj (Except.ok.inj hbuilt)
      exact ⟨m, rfl, haccepted m, hdepth, hcount⟩
  · apply hrefused
    refine ⟨_, _, .inner (.inner (.inner (.outer List.mem_cons_self)
      (List.mem_cons_of_mem _ List.mem_cons_self)) List.mem_cons_self) List.mem_cons_self, ?_⟩
    decide

end Conformance
