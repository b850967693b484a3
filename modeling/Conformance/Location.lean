import Conformance.Error

/-!
# Locations

Where a finding was made: a unit, a type in it, a member of the type, a statement of the member.
Locations are ordered by path, type, member and position, and what is left out comes first; the
line is carried along and takes no part in the order.
-/

set_option autoImplicit false

namespace Conformance

/-- A place in a unit. A member belongs to a type, and a position to a member. -/
structure Location where
  path : SourcePath
  typeName : Option String := none
  memberName : Option String := none
  position : Option Nat := none
  line : Option Int := none
  member_needs_type : memberName.isSome = true → typeName.isSome = true := by simp
  position_needs_member : position.isSome = true → memberName.isSome = true := by simp

/-- What has no position needs no member. -/
theorem Location.position_needs_none :
    (none : Option Nat).isSome = true → (none : Option String).isSome = true := id

/-- What locations are ordered by. -/
structure SortKey where
  path : String
  typeName : String
  memberName : String
  position : Int
  deriving DecidableEq

namespace SortKey

/-- Order by path, then type, then member, then position. -/
def compare : SortKey → SortKey → Ordering :=
  compareLex (compareOn SortKey.path) <|
    compareLex (compareOn SortKey.typeName) <|
      compareLex (compareOn SortKey.memberName) (compareOn SortKey.position)

/-- Whether one key does not come after another. -/
def le (a b : SortKey) : Bool := (a.compare b).isLE

end SortKey

namespace Location

/-- A place from its parts, or the first fault. -/
def make (path : Option SourcePath) (typeName memberName : Option String)
    (position line : Option Int) : Except Error Location :=
  match path with
  | none => .error (.absent "path")
  | some path =>
    if hm : memberName.isSome = true → typeName.isSome = true then
      match position with
      | none => .ok { path, typeName, memberName, line, member_needs_type := hm }
      | some n =>
        -- what a position needs is asked before its sign
        if hp : memberName.isSome = true then
          if n < 0 then .error (.below "statement_position" 0 n)
          else .ok
            { path, typeName, memberName, position := some n.toNat, line,
              member_needs_type := hm, position_needs_member := fun _ => hp }
        else .error (.needs "statement_position" "member_name")
    else .error (.needs "member_name" "type_name")

/-- The key of a location; a part that is left out sorts before any part that is there. -/
def sortKey (l : Location) : SortKey where
  path := l.path.text
  typeName := l.typeName.getD ""
  memberName := l.memberName.getD ""
  position := match l.position with
    | none => -1
    | some n => n

/-- The text `path:type.member`. -/
def text (l : Location) : String :=
  l.path.text ++
    (match l.typeName with | some t => ":" ++ t | none => "") ++
    (match l.memberName with | some m => "." ++ m | none => "")

end Location

end Conformance
