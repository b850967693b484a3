import Conformance.Rule.Builtin.Ceiling

/-!
# Rules of the domain layer

The built-in rules that speak only about units of the domain layer: primitive types and raw
collections are wrapped, accessors are avoided, and nothing depends on the infrastructure.
-/

set_option autoImplicit false

namespace Conformance.Builtin

/-- Fields and parameters of a primitive type. -/
def checkWrapPrimitives : Check
  | .field f, ctx => .ofExcept <|
    match f.type?.filter (·.isPrimitive) with
    | none => .ok []
    | some r => do
      let made ← ctx.finding (.field f)
        ("Field '" ++ f.name ++ "' has primitive type '" ++ r.name ++ "'; wrap it in a value type")
        [("type", .text r.name)]
      return [made]
  | .parameter p, ctx => .ofExcept <|
    match p.type?.filter (·.isPrimitive) with
    | none => .ok []
    | some r => do
      let made ← ctx.finding (.parameter p)
        ("Parameter '" ++ p.name ++ "' has primitive type '" ++ r.name ++
          "'; wrap it in a value type")
        [("parameter", .text p.name), ("type", .text r.name)]
      return [made]
  | element, _ => Check.onOther [.typeReference] element

/-- Wrap all primitives and strings. -/
def wrapPrimitives : RuleDefinition := PlainRule.definition
  { ruleId := "wrap-primitives"
    description := "Wrap all primitives and strings"
    category := .calisthenics
    appliesTo := Predicate.kindIn [.field, .parameter]
    check := Check.inDomain checkWrapPrimitives }

/-- A field of a collection type. -/
def rawCollection (element : Element) (name : String) (type? : Option TypeReference)
    (ctx : Context) : Except Error (List Finding) :=
  match type?.filter (·.isCollection) with
  | none => .ok []
  | some r => do
    let made ← ctx.finding element
      ("Field '" ++ name ++ "' is a raw collection '" ++ r.name ++
        "'; wrap it in a first-class collection")
      [("type", .text r.name)]
    return [made]

/-- Fields of a collection type. A parameter has a type as well, and counts as a field where the
check is called on one. -/
def checkFirstClassCollection : Check
  | .field f, ctx => .ofExcept (rawCollection (.field f) f.name f.type? ctx)
  | .parameter p, ctx => .ofExcept (rawCollection (.parameter p) p.name p.type? ctx)
  | element, _ => Check.onOther [.typeReference] element

/-- Use first-class collections. -/
def firstClassCollection : RuleDefinition := PlainRule.definition
  { ruleId := "first-class-collection"
    description := "Use first-class collections"
    category := .calisthenics
    appliesTo := Predicate.kindIn [.field]
    check := Check.inDomain checkFirstClassCollection }

/-- Methods in the shape of a getter or setter. -/
def checkAccessorMethods (m : Method) (ctx : Context) : Except Error (List Finding) :=
  if m.isAccessor then do
    let made ← ctx.finding (.method m)
      ("Method '" ++ m.name ++ "' is a getter/setter; tell, don't ask") []
    return [made]
  else .ok []

/-- No getters and setters. -/
def noAccessorMethods : RuleDefinition := PlainRule.definition
  { ruleId := "no-accessor-methods"
    description := "No getters/setters/properties"
    category := .calisthenics
    appliesTo := Predicate.kindIn [.method]
    check := Check.inDomain (Check.ofForm .methods [.accessorFlag] checkAccessorMethods) }

/-- The types mentioned that belong to a layer; a type of unknown layer does not. -/
def referencesTo (layer : Layer) (t : TypeDeclaration) : List TypeReference :=
  t.allReferences.filter (·.layer = some layer)

/-- One finding per type, which lists every reference to the infrastructure. -/
def checkLayeredDependency (t : TypeDeclaration) (ctx : Context) : Except Error (List Finding) :=
  let offending := referencesTo .infrastructure t
  if offending.isEmpty then .ok []
  else do
    let names := offending.map (·.name)
    let made ← ctx.finding (.type t)
      (Layer.label .domain ++ " type '" ++ t.name ++ "' depends on " ++
        Layer.label .infrastructure ++ " type(s): " ++ Value.commaSeparated names)
      [("measured", Value.ofNat offending.length), ("threshold", Value.ofNat 0),
        ("references", Value.texts names)]
    return [made]

/-- The domain does not depend on the infrastructure. -/
def layeredDependency : RuleDefinition := PlainRule.definition
  { ruleId := "layered-dependency"
    description := "Domain must not depend on infrastructure"
    category := .layering
    appliesTo := Predicate.kindIn [.type]
    check := Check.inDomain (Check.ofForm .types [.references] checkLayeredDependency) }

end Conformance.Builtin
