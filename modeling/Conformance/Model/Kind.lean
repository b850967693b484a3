/-!
# Kinds of model parts

The closed vocabularies in which a front end classifies what it found in a source file.
-/

set_option autoImplicit false

namespace Conformance

/-- The name of what a front end may leave out, if it did. -/
def leftOut {α : Type} (name : String) (given : Option α) : List String :=
  if given.isNone then [name] else []

theorem leftOut_eq_nil_iff {α : Type} {name : String} {given : Option α} :
    leftOut name given = [] ↔ given ≠ none := by
  unfold leftOut
  cases given <;> simp

/-- Architectural layer of a source file. -/
inductive Layer where
  | domain
  | application
  | infrastructure
  | unclassified
  deriving DecidableEq

/-- The name shown in messages. -/
def Layer.label : Layer → String
  | .domain => "Domain"
  | .application => "Application"
  | .infrastructure => "Infrastructure"
  | .unclassified => "Unclassified"

/-- Kind of a declared type. -/
inductive TypeKind where
  | class_
  | record
  | interface
  | enum
  deriving DecidableEq

/-- Whether a field may change after construction. -/
inductive Mutability where
  | final
  | mutable
  deriving DecidableEq

/-- Who can see a member. -/
inductive Visibility where
  | public_
  | protected_
  | package
  | private_
  deriving DecidableEq

/-- Kind of a statement. -/
inductive StatementKind where
  | block
  | if_
  | else_
  | loop
  | return_
  | expression
  | methodCall
  | assignment
  | try_
  deriving DecidableEq

/-- Kind of a visited element. -/
inductive ElementKind where
  | unit
  | type
  | field
  | parameter
  | method
  | statement
  deriving DecidableEq

/-- A front end's classification of a type. -/
inductive TypeTag where
  | builder
  | dto
  | configuration
  | infrastructureUtility
  deriving DecidableEq

namespace TypeTag

/-- The name of a tag. -/
def label : TypeTag → String
  | .builder => "builder"
  | .dto => "dto"
  | .configuration => "configuration"
  | .infrastructureUtility => "infrastructure-utility"

/-- Every tag, in the order of the labels. -/
def all : List TypeTag := [.builder, .configuration, .dto, .infrastructureUtility]

end TypeTag

/-- Area that a rule belongs to. -/
inductive RuleCategory where
  | calisthenics
  | naming
  | size
  | layering
  | solid
  | diagnostic
  deriving DecidableEq

/-- The name in capitals, as records show it. -/
def RuleCategory.constant : RuleCategory → String
  | .calisthenics => "CALISTHENICS"
  | .naming => "NAMING"
  | .size => "SIZE"
  | .layering => "LAYERING"
  | .solid => "SOLID"
  | .diagnostic => "DIAGNOSTIC"

end Conformance
