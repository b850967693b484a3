import Conformance.Error
import Conformance.Model.Kind

/-!
# Type references and statements

A statement is a tree. Each node carries the nesting depth that the front end counted for it, and
a tree is accepted only if these counts fit together: the children of a statement are one level
deeper than it, except that an else branch stands at the level of its own children.
-/

set_option autoImplicit false

namespace Conformance

/-- A named type, as a declaration mentions it. -/
structure TypeReference where
  name : String
  /-- A primitive type, or the built-in text type. -/
  isPrimitive : Bool
  isCollection : Bool
  /-- Layer of the type, if the front end knows it. -/
  layer : Option Layer
  tags : List TypeTag
  name_ne : name ≠ ""

namespace TypeReference

/-- A fluent builder, by its tag. -/
def isBuilder (r : TypeReference) : Bool := r.tags.contains .builder

/-- Labels of the tags, each once and in order. -/
def tagLabels (r : TypeReference) : List String :=
  (TypeTag.all.filter r.tags.contains).map TypeTag.label

/-- A reference needs a name. -/
def make (name : String) (isPrimitive isCollection : Bool) (layer : Option Layer)
    (tags : List TypeTag) : Except Error TypeReference :=
  if h : name = "" then .error (.empty "type reference name")
  else .ok ⟨name, isPrimitive, isCollection, layer, tags, h⟩

end TypeReference

theorem line_pos_none : ∀ n ∈ (none : Option Nat), 0 < n := by simp

theorem line_pos_some {n : Int} (h : ¬ n ≤ 0) : ∀ m ∈ some n.toNat, 0 < m := by
  intro m hm
  rw [← Option.some.inj hm]
  omega

/-- A line number counts from one. -/
def checkLine (line : Option Int) : Except Error { l : Option Nat // ∀ n ∈ l, 0 < n } :=
  match line with
  | none => .ok ⟨none, line_pos_none⟩
  | some n =>
    if h : n ≤ 0 then .error (.notPositive "line" (toString n))
    else .ok ⟨some n.toNat, line_pos_some h⟩

/-- A count that may be left out is not negative. -/
def checkCount (what : String) (count : Option Int) : Except Error (Option Nat) :=
  match count with
  | none => .ok none
  | some n => if n < 0 then .error (.below what 0 n) else .ok (some n.toNat)

/-- A statement with everything nested in it. -/
structure Statement where
  kind : StatementKind
  /-- Nesting depth, counted from the method body. -/
  depth : Nat
  /-- Place of the statement in its method, unique there. -/
  position : Nat
  line : Option Nat
  children : List Statement
  /-- Calls in a chain, for a method call; absent if the front end left it out. -/
  callChainLength : Option Nat
  /-- Type on which a chain of calls starts. -/
  callTarget : Option TypeReference

namespace Statement

/-- Depth of the children: an else branch adds no level of its own. -/
def childDepth (s : Statement) : Nat := if s.kind = .else_ then s.depth else s.depth + 1

/-- The else branches directly under a statement. -/
def elseBranches (s : Statement) : List Statement := s.children.filter (·.kind = .else_)

/-- An if statement with an else branch directly under it. -/
def hasElse (s : Statement) : Bool := s.kind = .if_ && !s.elseBranches.isEmpty

mutual

/-- The statement and all statements in it, each before its children. -/
def walk : Statement → List Statement
  | s@⟨_, _, _, _, children, _, _⟩ => s :: walkAll children

/-- The statements of a list and all statements in them, each before its children. -/
def walkAll : List Statement → List Statement
  | [] => []
  | s :: rest => s.walk ++ walkAll rest

end

theorem walkAll_eq_flatMap (body : List Statement) : walkAll body = body.flatMap walk := by
  induction body with
  | nil => rfl
  | cons s rest ih => simp [walkAll, ih]

theorem walk_eq_cons (s : Statement) : s.walk = s :: walkAll s.children := by
  cases s; rfl

/-- What the front end left out: a call needs the length of its chain. -/
def missing (s : Statement) : List String :=
  if s.kind = .methodCall ∧ s.callChainLength = none then ["call_chain_length"] else []

/-- The depths fit together and line numbers count from one, all the way down. -/
inductive WellFormed : Statement → Prop
  | intro (s : Statement) (line_pos : ∀ n ∈ s.line, 0 < n)
      (child_depth : ∀ c ∈ s.children, c.depth = s.childDepth)
      (children : ∀ c ∈ s.children, WellFormed c) : WellFormed s

/-- A statement over accepted children, or its first fault. -/
def make (kind : StatementKind) (depth position : Int) (line : Option Int)
    (children : List { s : Statement // s.WellFormed }) (callChainLength : Option Int)
    (callTarget : Option TypeReference) : Except Error { s : Statement // s.WellFormed } :=
  if depth < 0 then .error (.below "depth" 0 depth)
  else if position < 0 then .error (.below "position" 0 position)
  else do
    -- the statement's own numbers come before its children
    let ⟨line, line_pos⟩ ← checkLine line
    let callChainLength ← checkCount "call_chain_length" callChainLength
    let s : Statement :=
      { kind, depth := depth.toNat, position := position.toNat, line,
        children := children.map Subtype.val, callChainLength, callTarget }
    match h : children.find? (fun c => c.val.depth != s.childDepth) with
    | some c => .error (.childDepth c.val.position c.val.depth s.childDepth)
    | none => .ok ⟨s, by
        rw [List.find?_eq_none] at h
        refine .intro s line_pos (fun c hc => ?_) (fun c hc => ?_)
        · obtain ⟨child, mem, rfl⟩ := List.mem_map.1 hc
          simpa using h child mem
        · obtain ⟨child, _, rfl⟩ := List.mem_map.1 hc
          exact child.property⟩

end Statement

end Conformance
