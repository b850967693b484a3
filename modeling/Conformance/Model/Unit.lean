import Conformance.Model.Member

/-!
# Types and source units

A source unit is one file with the types declared in it.
-/

set_option autoImplicit false

namespace Conformance

/-- The part of a dotted name after its last dot. -/
def simpleName (qualifiedName : String) : String :=
  String.ofList (qualifiedName.toList.reverse.takeWhile (· != '.')).reverse

/-- A class, record, interface or enumeration. -/
structure TypeDeclaration where
  qualifiedName : String
  kind : TypeKind
  fields : List Field
  methods : List Method
  supertypes : List TypeReference
  /-- Types mentioned elsewhere in the declaration. -/
  references : List TypeReference
  /-- Opted out of every rule. -/
  isExempt : Bool
  tags : List TypeTag
  line : Option Nat
  /-- Source lines from the first to the last, if the front end counted them. -/
  lineSpan : Option Nat
  qualifiedName_ne : qualifiedName ≠ ""
  line_pos : ∀ n ∈ line, 0 < n
  fields_nodup : (fields.map (·.name)).Nodup

namespace TypeDeclaration

/-- The name without its package. -/
def name (t : TypeDeclaration) : String := simpleName t.qualifiedName

/-- A fluent builder, by its tag. -/
def isBuilder (t : TypeDeclaration) : Bool := t.tags.contains .builder

/-- Every type the declaration mentions, in the order supertypes, references, field types, then
for each method its parameter types and its return type. -/
def mentions (t : TypeDeclaration) : List TypeReference :=
  t.supertypes ++ t.references ++ t.fields.filterMap (·.type?) ++
    t.methods.flatMap fun m => m.parameters.filterMap (·.type?) ++ m.returnType.toList

/-- The references whose name has not been seen, each kept at its first occurrence. -/
def firstByName (seen : List String) : List TypeReference → List TypeReference
  | [] => []
  | r :: rest =>
    if seen.contains r.name then firstByName seen rest
    else r :: firstByName (r.name :: seen) rest

/-- Every type mentioned, once by name. -/
def allReferences (t : TypeDeclaration) : List TypeReference := firstByName [] t.mentions

/-- A type needs a name, and names that tell its fields apart. -/
def make (qualifiedName : String) (kind : TypeKind) (fields : List Field) (methods : List Method)
    (supertypes references : List TypeReference) (isExempt : Bool) (tags : List TypeTag)
    (line lineSpan : Option Int) : Except Error TypeDeclaration :=
  if hn : qualifiedName = "" then .error (.empty "qualified_name")
  else do
    let ⟨line, line_pos⟩ ← checkLine line
    let lineSpan ← checkCount "line_span" lineSpan
    if hf : (fields.map (·.name)).Nodup then
      .ok ⟨qualifiedName, kind, fields, methods, supertypes, references, isExempt, tags, line,
        lineSpan, hn, line_pos, hf⟩
    else .error (.repeated "field names" qualifiedName)

end TypeDeclaration

/-- One source file as a front end describes it. -/
structure SourceUnit where
  path : SourcePath
  /-- Its layer, if the front end found one. -/
  layer : Option Layer
  types : List TypeDeclaration
  path_ne : path.text ≠ "" ∧ path.text ≠ "."
  types_nodup : (types.map (·.qualifiedName)).Nodup

namespace SourceUnit

/-- What the front end left out. -/
def missing (u : SourceUnit) : List String := leftOut "layer" u.layer

/-- A unit needs a path, and names that tell its types apart. -/
def make (path : Option SourcePath) (layer : Option Layer) (types : List TypeDeclaration) :
    Except Error SourceUnit :=
  match path with
  | none => .error (.absent "path")
  | some path =>
    if hp : path.text ≠ "" ∧ path.text ≠ "." then
      if ht : (types.map (·.qualifiedName)).Nodup then .ok ⟨path, layer, types, hp, ht⟩
      else .error (.repeated "type names" path.text)
    else .error (.empty "path")

end SourceUnit

end Conformance
