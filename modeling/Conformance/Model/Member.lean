import Conformance.Model.Statement

/-!
# Members of a type

Parameters, fields and methods. The constructors check names, line numbers and uniqueness in a
fixed order, so that a member with several faults is always refused for the same one.
-/

set_option autoImplicit false

namespace Conformance

/-- A parameter of a method. -/
structure Parameter where
  name : String
  /-- Its type, if the front end resolved it. -/
  type? : Option TypeReference
  name_ne : name ≠ ""

namespace Parameter

/-- What the front end left out. -/
def missing (p : Parameter) : List String := leftOut "type_ref" p.type?

/-- A parameter needs a name. -/
def make (name : String) (type? : Option TypeReference) : Except Error Parameter :=
  if h : name = "" then .error (.empty "parameter name") else .ok ⟨name, type?, h⟩

end Parameter

/-- An instance field of a type. -/
structure Field where
  name : String
  /-- Its type, if the front end resolved it. -/
  type? : Option TypeReference
  mutability : Mutability
  visibility : Visibility
  /-- A logger or another handle of the infrastructure. -/
  isInfrastructureUtility : Bool
  line : Option Nat
  name_ne : name ≠ ""
  line_pos : ∀ n ∈ line, 0 < n

namespace Field

/-- What the front end left out. -/
def missing (f : Field) : List String := leftOut "type_ref" f.type?

/-- A field needs a name, and its line counts from one. -/
def make (name : String) (type? : Option TypeReference) (mutability : Mutability)
    (visibility : Visibility) (isInfrastructureUtility : Bool) (line : Option Int) :
    Except Error Field :=
  if h : name = "" then .error (.empty "field name")
  else do
    let ⟨line, line_pos⟩ ← checkLine line
    .ok ⟨name, type?, mutability, visibility, isInfrastructureUtility, line, h, line_pos⟩

end Field

/-- A method of a type. -/
structure Method where
  name : String
  parameters : List Parameter
  returnType : Option TypeReference
  body : List Statement
  visibility : Visibility
  /-- Shaped like a getter or setter. -/
  isAccessor : Bool
  line : Option Nat
  name_ne : name ≠ ""
  line_pos : ∀ n ∈ line, 0 < n
  body_wellFormed : ∀ s ∈ body, s.WellFormed
  body_depth : ∀ s ∈ body, s.depth = 0
  positions_nodup : ((Statement.walkAll body).map (·.position)).Nodup
  parameters_nodup : (parameters.map (·.name)).Nodup

namespace Method

/-- All statements of the body, each before its children. -/
def statements (m : Method) : List Statement := Statement.walkAll m.body

/-- Greatest depth of a statement; an empty body has depth zero. -/
def maxNestingDepth (m : Method) : Nat := m.statements.foldl (fun d s => max d s.depth) 0

/-- Number of statements at all depths. -/
def statementCount (m : Method) : Nat := m.statements.length

/-- A method needs a name, a body that starts at depth zero, positions that tell its statements
apart, and names that tell its parameters apart. -/
def make (name : String) (parameters : List Parameter) (returnType : Option TypeReference)
    (body : List { s : Statement // s.WellFormed }) (visibility : Visibility)
    (isAccessor : Bool) (line : Option Int) : Except Error Method :=
  if hn : name = "" then .error (.empty "method name")
  else do
    let ⟨line, line_pos⟩ ← checkLine line
    match hd : body.find? (fun s => s.val.depth != 0) with
    | some s => .error (.outerDepth s.val.position s.val.depth)
    | none =>
      let trees := body.map Subtype.val
      -- positions are told apart across all levels, not only within one
      if hp : ((Statement.walkAll trees).map (·.position)).Nodup then
        if hq : (parameters.map (·.name)).Nodup then
          .ok ⟨name, parameters, returnType, trees, visibility, isAccessor, line, hn, line_pos,
            (fun s hs => by
              obtain ⟨tree, _, rfl⟩ := List.mem_map.1 hs
              exact tree.property),
            (fun s hs => by
              obtain ⟨tree, mem, rfl⟩ := List.mem_map.1 hs
              simpa using List.find?_eq_none.1 hd tree mem),
            hp, hq⟩
        else .error (.repeated "parameter names" name)
      else .error (.repeated "statement positions" name)

end Method

end Conformance
