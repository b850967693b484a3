import Conformance.Error
import Conformance.Model.Element

/-!
# Parts of elements

A rule reads parts of the element that it is called on, and not every kind of element has every
part. A rule that is called on an element of another kind than its own fails on the first part
that is not there.
-/

set_option autoImplicit false

namespace Conformance

/-- A part that a rule reads. -/
inductive Part where
  | name
  | nestingDepth
  | statementCount
  | methodCount
  | fields
  | callTarget
  | elseBranch
  | accessorFlag
  | references
  | typeReference
  deriving DecidableEq

namespace Part

/-- The name of a part in messages. -/
def label : Part → String
  | .name => "name"
  | .nestingDepth => "max_nesting_depth"
  | .statementCount => "statement_count"
  | .methodCount => "method_count"
  | .fields => "fields"
  | .callTarget => "call_target"
  | .elseBranch => "has_else"
  | .accessorFlag => "is_accessor"
  | .references => "all_references"
  | .typeReference => "type_ref"

/-- The kinds of element that have a part. -/
def owners : Part → List ElementKind
  | .name => [.type, .field, .parameter, .method]
  | .nestingDepth | .statementCount | .accessorFlag => [.method]
  | .methodCount | .fields | .references => [.type]
  | .callTarget | .elseBranch => [.statement]
  | .typeReference => [.field, .parameter]

end Part

/-- The name of a kind of element in messages. -/
def ElementKind.label : ElementKind → String
  | .unit => "CompilationUnit"
  | .type => "TypeDeclaration"
  | .field => "FieldDeclaration"
  | .parameter => "Parameter"
  | .method => "MethodDeclaration"
  | .statement => "Statement"

/-- Asks an element for parts in order; the first that it does not have is the fault. -/
def Element.checkParts (element : Element) (parts : List Part) : Except Error Unit :=
  match parts.find? fun part => !part.owners.contains element.kind with
  | some part => .error (.noPart element.kind.label part.label)
  | none => .ok ()

end Conformance
