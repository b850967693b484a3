import Conformance.Model.Unit

/-!
# Elements

What a rule looks at: a unit, a type, a field, a parameter, a method or a statement.
-/

set_option autoImplicit false

namespace Conformance

/-- An element of the model. -/
inductive Element where
  | unit (u : SourceUnit)
  | type (t : TypeDeclaration)
  | field (f : Field)
  | parameter (p : Parameter)
  | method (m : Method)
  | statement (s : Statement)

namespace Element

/-- The kind of an element. -/
def kind : Element → ElementKind
  | .unit _ => .unit
  | .type _ => .type
  | .field _ => .field
  | .parameter _ => .parameter
  | .method _ => .method
  | .statement _ => .statement

/-- What the front end left out of an element. -/
def missing : Element → List String
  | .unit u => u.missing
  | .type _ => []
  | .field f => f.missing
  | .parameter p => p.missing
  | .method _ => []
  | .statement s => s.missing

/-- A kind of elements below units: how such an element is made, and what an element is made of if
it is one. -/
structure Form (α : Type) where
  kind : ElementKind
  make : α → Element
  get? : Element → Option α
  kind_ne_unit : kind ≠ .unit
  eq_make_of_get? : ∀ {e a}, get? e = some a → e = make a
  isSome_get? : ∀ e, (get? e).isSome = true ↔ e.kind = kind

namespace Form

/-- Types. -/
def types : Form TypeDeclaration where
  kind := .type
  make := .type
  get?
    | .type t => some t
    | _ => none
  kind_ne_unit := by decide
  eq_make_of_get? := by grind
  isSome_get? e := by cases e <;> simp [Element.kind]

/-- Methods. -/
def methods : Form Method where
  kind := .method
  make := .method
  get?
    | .method m => some m
    | _ => none
  kind_ne_unit := by decide
  eq_make_of_get? := by grind
  isSome_get? e := by cases e <;> simp [Element.kind]

/-- Statements. -/
def statements : Form Statement where
  kind := .statement
  make := .statement
  get?
    | .statement s => some s
    | _ => none
  kind_ne_unit := by decide
  eq_make_of_get? := by grind
  isSome_get? e := by cases e <;> simp [Element.kind]

theorem get?_eq_none_iff {α : Type} (form : Form α) {e : Element} :
    form.get? e = none ↔ e.kind ≠ form.kind := by
  rw [← Option.not_isSome_iff_eq_none, form.isSome_get?]

end Form

end Element

end Conformance
