import Conformance.Registry.Basic

/-!
# Sites

A site is an element together with the type and method that own it. The sites of a unit are the
elements that an evaluation visits, in order: the unit; then for each type that is not exempt the
type, its fields, and each method followed by its parameters and by all its statements, each
before its children.
-/

set_option autoImplicit false

namespace Conformance

/-- An element with its owners. -/
inductive Site where
  | unit (u : SourceUnit)
  | type (t : TypeDeclaration)
  | field (t : TypeDeclaration) (f : Field)
  | method (t : TypeDeclaration) (m : Method)
  | parameter (t : TypeDeclaration) (m : Method) (p : Parameter)
  | statement (t : TypeDeclaration) (m : Method) (s : Statement)

namespace Site

/-- The element at a site. -/
def element : Site → Element
  | .unit u => .unit u
  | .type t => .type t
  | .field _ f => .field f
  | .method _ m => .method m
  | .parameter _ _ p => .parameter p
  | .statement _ _ s => .statement s

/-- The owning type; a type owns itself. -/
def type? : Site → Option TypeDeclaration
  | .unit _ => none
  | .type t => some t
  | .field t _ => some t
  | .method t _ => some t
  | .parameter t _ _ => some t
  | .statement t _ _ => some t

/-- The owning method; a method owns itself. -/
def method? : Site → Option Method
  | .method _ m => some m
  | .parameter _ m _ => some m
  | .statement _ m _ => some m
  | _ => none

/-- Where a site stands in a unit of this path. A parameter stands at its method. -/
def location (path : SourcePath) : Site → Location
  | .unit _ => { path }
  | .type t => { path, typeName := some t.qualifiedName, line := t.line.map Int.ofNat }
  | .field t f =>
    { path, typeName := some t.qualifiedName, memberName := some f.name,
      line := f.line.map Int.ofNat }
  | .method t m =>
    { path, typeName := some t.qualifiedName, memberName := some m.name,
      line := m.line.map Int.ofNat }
  | .parameter t m _ =>
    { path, typeName := some t.qualifiedName, memberName := some m.name,
      line := m.line.map Int.ofNat }
  | .statement t m s =>
    { path, typeName := some t.qualifiedName, memberName := some m.name,
      position := some s.position, line := s.line.map Int.ofNat }

/-- What a rule's check sees at a site. -/
def context (u : SourceUnit) (rule : ConfiguredRule) (site : Site) : Context where
  ruleId := rule.ruleId
  category := rule.definition.category
  config := rule.config
  unit := u
  type? := site.type?
  method? := site.method?

/-- A context with the owners of a site finds the element where the site is. -/
theorem locationFor_eq {ctx : Context} {site : Site} (htype : ctx.type? = site.type?)
    (hmethod : ctx.method? = site.method?) :
    ctx.locationFor site.element = .ok (site.location ctx.unit.path) := by
  -- a position is a natural number, so the check on its sign never refuses it
  have nonneg : ∀ n : Nat, ¬ (n : Int) < 0 := fun n => by omega
  cases site <;> simp [Context.locationFor, element, location, htype, hmethod, type?, method?,
    Location.make, Context.owningMethod, bind, Except.bind, nonneg]

end Site

/-- The sites of a method: the method, its parameters, its statements. -/
def Method.sites (t : TypeDeclaration) (m : Method) : List Site :=
  .method t m :: m.parameters.map (.parameter t m) ++ m.statements.map (.statement t m)

/-- The sites of a type: the type, its fields, and the sites of its methods. -/
def TypeDeclaration.sites (t : TypeDeclaration) : List Site :=
  .type t :: t.fields.map (.field t) ++ t.methods.flatMap (Method.sites t)

/-- The sites of a unit: the unit, and the sites of the types that are not exempt. -/
def SourceUnit.sites (u : SourceUnit) : List Site :=
  .unit u :: (u.types.filter (!·.isExempt)).flatMap TypeDeclaration.sites

end Conformance
