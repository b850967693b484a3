import Conformance.Model.Unit

/-!
# Drafts

A draft is the description of a model part as a front end hands it over, with nothing checked.
Building it checks the parts before the whole and lists from first to last, so the error of a
draft with several faults is that of the first fault in this order.
-/

set_option autoImplicit false

namespace Conformance.Draft

/-- A described type reference. -/
structure Reference where
  name : String
  isPrimitive : Bool := false
  isCollection : Bool := false
  layer : Option Layer := none
  tags : List TypeTag := []

/-- A described parameter. -/
structure Parameter where
  name : String
  type? : Option Reference := none

/-- A described field. -/
structure Field where
  name : String
  type? : Option Reference := none
  mutability : Mutability := .final
  visibility : Visibility := .private_
  isInfrastructureUtility : Bool := false
  line : Option Int := none

/-- A described statement. -/
structure Statement where
  kind : StatementKind
  depth : Int
  position : Int
  line : Option Int := none
  children : List Statement := []
  callChainLength : Option Int := none
  callTarget : Option Reference := none

/-- A described method. -/
structure Method where
  name : String
  parameters : List Parameter := []
  returnType : Option Reference := none
  body : List Statement := []
  visibility : Visibility := .public_
  isAccessor : Bool := false
  line : Option Int := none

/-- A described type. -/
structure TypeDeclaration where
  qualifiedName : String
  kind : TypeKind
  fields : List Field := []
  methods : List Method := []
  supertypes : List Reference := []
  references : List Reference := []
  isExempt : Bool := false
  tags : List TypeTag := []
  line : Option Int := none
  lineSpan : Option Int := none

/-- A described source unit. -/
structure SourceUnit where
  path : Option String
  layer : Option Layer := none
  types : List TypeDeclaration := []

/-- The reference, if it has a name. -/
def Reference.build (d : Reference) : Except Error TypeReference :=
  TypeReference.make d.name d.isPrimitive d.isCollection d.layer d.tags

/-- A reference that may be left out. -/
def buildOptional : Option Reference → Except Error (Option TypeReference)
  | none => .ok none
  | some d => do return some (← d.build)

/-- The parameter, its type first. -/
def Parameter.build (d : Parameter) : Except Error Conformance.Parameter := do
  Conformance.Parameter.make d.name (← buildOptional d.type?)

/-- The field, its type first. -/
def Field.build (d : Field) : Except Error Conformance.Field := do
  Conformance.Field.make d.name (← buildOptional d.type?) d.mutability d.visibility
    d.isInfrastructureUtility d.line

namespace Statement

mutual

/-- The statement: its children, the target of its call, then itself. -/
def build : Statement → Except Error { s : Conformance.Statement // s.WellFormed }
  | ⟨kind, depth, position, line, children, callChainLength, callTarget⟩ => do
    let children ← buildAll children
    let callTarget ← buildOptional callTarget
    Conformance.Statement.make kind depth position line children callChainLength callTarget

/-- The statements, from first to last. -/
def buildAll : List Statement → Except Error (List { s : Conformance.Statement // s.WellFormed })
  | [] => .ok []
  | d :: rest => do
    let s ← d.build
    let built ← buildAll rest
    return s :: built

end

end Statement

/-- The method: parameters, return type, body, then itself. -/
def Method.build (d : Method) : Except Error Conformance.Method := do
  let parameters ← d.parameters.mapM Parameter.build
  let returnType ← buildOptional d.returnType
  let body ← Statement.buildAll d.body
  Conformance.Method.make d.name parameters returnType body d.visibility d.isAccessor d.line

/-- The type: fields, methods, supertypes, references, then itself. -/
def TypeDeclaration.build (d : TypeDeclaration) : Except Error Conformance.TypeDeclaration := do
  let fields ← d.fields.mapM Field.build
  let methods ← d.methods.mapM Method.build
  let supertypes ← d.supertypes.mapM Reference.build
  let references ← d.references.mapM Reference.build
  Conformance.TypeDeclaration.make d.qualifiedName d.kind fields methods supertypes references
    d.isExempt d.tags d.line d.lineSpan

/-- The unit, its types first. -/
def SourceUnit.build (d : SourceUnit) : Except Error Conformance.SourceUnit := do
  let types ← d.types.mapM TypeDeclaration.build
  Conformance.SourceUnit.make (d.path.map SourcePath.ofText) d.layer types

end Conformance.Draft
