import Conformance.Literal.Basic
import Conformance.Output.Markup
import Conformance.Terminal.StyleName
import Conformance.Text.Numeral

/-!
# Reading markup

A text is read with the open tags on a stack. On a screen without colour a tag leaves no trace, but
a closing tag has to close something: the last open tag whose style has the same normal form, or
simply the last one if it names no style. The arguments of a tag that names an action have to be a
literal when it is closed, and the styles are looked up when the text is shown.
-/

set_option autoImplicit false

namespace Conformance.Markup

/-- A tag that switches a style on. -/
structure Tag where
  /-- The style in normal form. -/
  name : String
  /-- What follows the equals sign, if there is one. -/
  parameters : Option (List Char)

namespace Tag

/-- The tag with a body that is no closing one. -/
def ofBody (body : List Char) : Except Error Tag := do
  return {
    name := ← StyleName.normal (body.takeWhile (· != '='))
    parameters := match body.dropWhile (· != '=') with
      | [] => none
      | _ :: parameters => some parameters }

/-- Tags that name an action rather than a style. -/
def isAction (tag : Tag) : Bool := tag.name.toList.head? == some '@'

/-- The style that a tag asks for when it is shown. -/
def style (tag : Tag) : List Char :=
  tag.name.toList ++ match tag.parameters with
    | none => []
    | some parameters => ' ' :: parameters

/-- The arguments among the parameters of an action. A dotted name alone has none, and after a
dotted name they stand in round brackets. -/
def arguments (parameters : List Char) : List Char :=
  let parameters := Text.trimChars parameters
  match parameters.dropWhile fun c => Text.isWordChar c || c == '.' with
  | [] => ['(', ')']
  | '(' :: rest =>
    if rest.getLast? = some ')' ∧ ¬ rest.contains '\n' then '(' :: rest else parameters
  | _ => parameters

/-- Closes a tag: the arguments of an action have to be a literal. -/
def close (tag : Tag) : Except Error Unit :=
  match tag.parameters with
  | none | some [] => .ok ()
  | some parameters =>
    if tag.isAction && !Literal.isLiteral (arguments parameters) then .error .markup else .ok ()

/-- A style is looked up when it is shown. One that means nothing has no effect. -/
def check (tag : Tag) : Except Error Unit := do
  if !tag.isAction then
    let _ ← StyleName.request? tag.style

end Tag

/-- A marked-up text as it is shown. -/
structure Shown where
  /-- The characters, in the stretches between tags. -/
  stretches : List (List Char)
  /-- The tags whose style is shown. -/
  tags : List Tag

namespace Shown

/-- The characters that show. -/
def chars (shown : Shown) : List Char := shown.stretches.flatten

/-- The text with characters before it, in the stretch of its first ones. -/
def prepend (cs : List Char) (shown : Shown) : Shown :=
  match shown.stretches with
  | [] => { shown with stretches := [cs] }
  | first :: rest => { shown with stretches := (cs ++ first) :: rest }

/-- The text after a tag. -/
def afterTag (shown : Shown) : Shown := { shown with stretches := [] :: shown.stretches }

/-- Looks up every style that is shown. -/
def check (shown : Shown) : Except Error Unit := shown.tags.forM Tag.check

end Shown

/-- The last open tag of a name, and the tags that stay open without it. -/
def takeTag? (name : String) : List Tag → Option (Tag × List Tag)
  | [] => none
  | tag :: rest =>
    if tag.name = name then some (tag, rest)
    else (takeTag? name rest).map fun found => (found.1, tag :: found.2)

/-- The tag that a closing one closes, and the tags that stay open. -/
def closed? (name : List Char) (stack : List Tag) : Except Error (Option (Tag × List Tag)) :=
  match Text.trimChars name with
  | [] => .ok (stack.head?.map fun tag => (tag, stack.drop 1))
  | name => (takeTag? · stack) <$> StyleName.normal name

/-- What pieces show, with the open tags on a stack. -/
def render : List Tag → List Piece → Except Error Shown
  -- what follows the text is outside the tags that are still open
  | stack, [] => .ok { stretches := if stack.isEmpty then [[]] else [[], []], tags := stack }
  | stack, .plain text :: rest => do
    return (← render stack rest).prepend ((unescape text).filter (!isDropped ·))
  | stack, .tag body :: rest =>
    match body.takeWhile (· != '=') with
    | '/' :: name => do
      match ← closed? name stack with
      | none => .error .markup
      | some (tag, stack) => do
        tag.close
        let shown ← render stack rest
        return { shown.afterTag with tags := tag :: shown.tags }
    | _ => do
      let tag ← Tag.ofBody body
      return (← render (tag :: stack) rest).afterTag

/-- What a marked-up text shows. -/
def read (text : String) : Except Error Shown := render [] (pieces [] text.toList)

end Conformance.Markup
