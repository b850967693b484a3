import Conformance.Terminal.Colour
import Conformance.Text.Basic
import Conformance.Text.Lower

/-!
# Names of styles

A style is named by words in any order: attributes such as `bold` or `not bold`, a colour, a
background after `on`, and a target after `link`. Two names that ask for the same style have the
same normal form: the attributes in a fixed order, then the colour, the background and the target.
A name that asks for no style is its own normal form, but for its case and the white space around
it.
-/

set_option autoImplicit false

namespace Conformance

/-- What a style can switch on and off. -/
inductive StyleAttribute where
  | bold
  | dim
  | italic
  | underline
  | blink
  | blink2
  | reverse
  | conceal
  | strike
  | underline2
  | frame
  | encircle
  | overline
  deriving DecidableEq

namespace StyleAttribute

/-- The attributes in the order of a normal form. -/
def all : List StyleAttribute :=
  [.bold, .dim, .italic, .underline, .blink, .blink2, .reverse, .conceal, .strike, .underline2,
    .frame, .encircle, .overline]

/-- The full name. -/
def label : StyleAttribute → String
  | .bold => "bold"
  | .dim => "dim"
  | .italic => "italic"
  | .underline => "underline"
  | .blink => "blink"
  | .blink2 => "blink2"
  | .reverse => "reverse"
  | .conceal => "conceal"
  | .strike => "strike"
  | .underline2 => "underline2"
  | .frame => "frame"
  | .encircle => "encircle"
  | .overline => "overline"

/-- The attribute that a word names; many have a short name as well. -/
def ofWord? : String → Option StyleAttribute
  | "b" => some .bold
  | "d" => some .dim
  | "i" => some .italic
  | "u" => some .underline
  | "r" => some .reverse
  | "c" => some .conceal
  | "s" => some .strike
  | "uu" => some .underline2
  | "o" => some .overline
  | word => all.find? (·.label = word)

end StyleAttribute

/-- What the words of a style ask for; later words win. -/
structure StyleRequest where
  /-- The attributes set so far, the latest first. -/
  attributes : List (StyleAttribute × Bool) := []
  colour : Option String := none
  background : Option String := none
  link : Option String := none

namespace StyleRequest

/-- The words of the attributes that are set, in order. -/
def attributeWords (r : StyleRequest) : List String :=
  StyleAttribute.all.filterMap fun a =>
    (r.attributes.lookup a).map fun on => if on then a.label else "not " ++ a.label

/-- The normal form. -/
def text (r : StyleRequest) : String :=
  match r.attributeWords ++ r.colour.toList ++ (r.background.map ("on " ++ ·)).toList ++
      (r.link.map ("link " ++ ·)).toList with
  | [] => "none"
  | words => " ".intercalate words

/-- Adds what words ask for; there is no request if a word means nothing. -/
def addWords (r : StyleRequest) : List String → Except Error (Option StyleRequest)
  | [] => .ok (some r)
  | word :: rest =>
    match Text.lower word, rest with
    | "on", colour :: rest => do
      let name := Text.lower colour
      if ← Colour.isColour name then addWords { r with background := some name } rest
      else return none
    | "not", which :: rest =>
      -- after `not` the case of the word counts
      match StyleAttribute.ofWord? which with
      | some a => addWords { r with attributes := (a, false) :: r.attributes } rest
      | none => .ok none
    | "link", target :: rest => addWords { r with link := some target } rest
    | "on", [] | "not", [] | "link", [] => .ok none
    | name, rest =>
      match StyleAttribute.ofWord? name with
      | some a => addWords { r with attributes := (a, true) :: r.attributes } rest
      | none => do
        if ← Colour.isColour name then addWords { r with colour := some name } rest
        else return none

end StyleRequest

namespace StyleName

/-- The words of a name. -/
def words (name : List Char) : List String :=
  ((Text.parts Text.isBlank name).filter (!·.isEmpty)).map String.ofList

/-- The style that a name asks for, if it asks for one; `none` asks for nothing. -/
def request? (name : List Char) : Except Error (Option StyleRequest) :=
  if Text.trimChars name = "none".toList then .ok (some {})
  else StyleRequest.addWords {} (words name)

/-- The normal form of a name. -/
def normal (name : List Char) : Except Error String := do
  match ← request? name with
  | some request => return request.text
  | none => return String.ofList (Text.lowerChars (Text.trimChars name))

end StyleName

end Conformance
