import Conformance.Error
import Conformance.Value

/-!
# JSON text

JSON is written in printable ASCII: any other character is written by the codes of its UTF-16
units. The text is compact, or each item stands on a line of its own, indented by its level.
Fields keep their order.
-/

set_option autoImplicit false

namespace Conformance

/-- A JSON document. -/
inductive Json where
  | null
  | bool (b : Bool)
  | int (n : Int)
  | float (x : Binary64)
  | string (s : String)
  | array (items : List Json)
  | object (fields : List (String × Json))

namespace Json

/-- A number; those that are not finite have names. -/
def floatText : Binary64 → String
  | .nan => "NaN"
  | .infinite negative => if negative then "-Infinity" else "Infinity"
  | x => x.text

/-- The name that a key of a mapping is in an object, if it can be one. -/
def name? : Value → Option String
  | .text s => some s
  | .null => some "null"
  | .bool b => some (if b then "true" else "false")
  | .int n => some (toString n)
  | .float x => some (floatText x)
  | _ => none

mutual

/-- The JSON form of a value: lists and tuples are arrays, and mappings are objects. Severities,
sets and values of other classes have none. -/
def ofValue : Value → Except Error Json
  | .null => .ok .null
  | .bool b => .ok (.bool b)
  | .int n => .ok (.int n)
  | .float x => .ok (.float x)
  | .text s => .ok (.string s)
  | .severity s => .error (.noJson (Value.severity s).kindName)
  | .list items => do return .array (← ofItems items)
  | .tuple items => do return .array (← ofItems items)
  | .set isFrozen members => .error (.noJson (Value.set isFrozen members).kindName)
  | .table entries => do return .object (← ofEntries entries)
  | .mapping entries => do return .object (← ofPairs entries)
  | .object o => .error (.noJson o.className)

/-- JSON forms of items. -/
def ofItems : List Value → Except Error (List Json)
  | [] => .ok []
  | v :: rest => do
    let j ← ofValue v
    let js ← ofItems rest
    return j :: js

/-- JSON forms of entries. -/
def ofEntries : List (String × Value) → Except Error (List (String × Json))
  | [] => .ok []
  | (key, v) :: rest => do
    let j ← ofValue v
    let js ← ofEntries rest
    return (key, j) :: js

/-- JSON forms of the entries of a mapping. -/
def ofPairs : List (Value × Value) → Except Error (List (String × Json))
  | [] => .ok []
  | (key, v) :: rest =>
    match name? key with
    | none => .error (.noJsonName key.kindName)
    | some name => do
      let j ← ofValue v
      let js ← ofPairs rest
      return (name, j) :: js

end

/-- A UTF-16 unit by its code. -/
def unitEscape (unit : Nat) : List Char := '\\' :: 'u' :: Text.hexDigits 4 unit

/-- How a character is written in a string. -/
def escapeChar (c : Char) : List Char :=
  let code := c.toNat
  if code = 0x22 then ['\\', c]
  else if code = 0x5C then ['\\', c]
  else if code = 0x0A then ['\\', 'n']
  else if code = 0x0D then ['\\', 'r']
  else if code = 0x09 then ['\\', 't']
  else if code = 0x08 then ['\\', 'b']
  else if code = 0x0C then ['\\', 'f']
  else if 0x20 ≤ code ∧ code < 0x7F then [c]
  else if code < 0x10000 then unitEscape code
  else
    -- beyond the basic plane a character is a pair of surrogates
    let offset := code - 0x10000
    unitEscape (0xD800 + offset / 0x400) ++ unitEscape (0xDC00 + offset % 0x400)

/-- A string between quotes. -/
def stringChars (s : String) : List Char :=
  Text.doubleQuote :: s.toList.flatMap escapeChar ++ [Text.doubleQuote]

/-- What stands between brackets and items at a level: nothing but separators, or a new line
indented by the level. -/
structure Layout where
  /-- Blanks per level, if items stand on lines of their own; a negative number is none. -/
  indent : Option Int

namespace Layout

/-- A new line at a level, or nothing. -/
def gap (l : Layout) (level : Nat) : List Char :=
  match l.indent with
  | none => []
  | some n => '\n' :: List.replicate (n.toNat * level) ' '

/-- What separates two items at a level. -/
def separator (l : Layout) (level : Nat) : List Char :=
  match l.indent with
  | none => [',', ' ']
  | some _ => ',' :: l.gap level

/-- Items at a level between an opening and a closing bracket. -/
def enclose (l : Layout) (level : Nat) (left right : Char) (items : List (List Char)) :
    List Char :=
  -- an empty container stays on one line at any indent
  if items.isEmpty then [left, right]
  else
    left :: l.gap (level + 1) ++ (l.separator (level + 1)).intercalate items ++
      l.gap level ++ [right]

end Layout

mutual

/-- The text of a document at a level. -/
def chars (l : Layout) (level : Nat) : Json → List Char
  | .null => "null".toList
  | .bool b => (if b then "true" else "false").toList
  | .int n => (toString n).toList
  | .float x => (floatText x).toList
  | .string s => stringChars s
  | .array items => l.enclose level '[' ']' (itemChars l (level + 1) items)
  | .object fields =>
    l.enclose level (Char.ofNat 0x7B) (Char.ofNat 0x7D) (fieldChars l (level + 1) fields)

/-- The texts of items. -/
def itemChars (l : Layout) (level : Nat) : List Json → List (List Char)
  | [] => []
  | j :: rest => j.chars l level :: itemChars l level rest

/-- The texts of fields. -/
def fieldChars (l : Layout) (level : Nat) : List (String × Json) → List (List Char)
  | [] => []
  | (key, j) :: rest =>
    (stringChars key ++ ':' :: ' ' :: j.chars l level) :: fieldChars l level rest

end

/-- The text of a document. -/
def render (indent : Option Int) (j : Json) : String := String.ofList (j.chars ⟨indent⟩ 0)

/-- Indices are below this number in either direction, which is the 63rd power of two. -/
def indexBound : Int := 9223372036854775808

/-- An indent that fits into an index, or none. -/
def FitsIndex (indent : Option Int) : Prop := ∀ n ∈ indent, -indexBound ≤ n ∧ n < indexBound

instance (indent : Option Int) : Decidable (FitsIndex indent) :=
  match indent with
  | none => .isTrue nofun
  | some n => decidable_of_iff (-indexBound ≤ n ∧ n < indexBound) (by simp [FitsIndex])

/-- The text of a value. The indent is looked at before the value. -/
def dump (indent : Option Int) (v : Value) : Except Error String :=
  if FitsIndex indent then do return (← ofValue v).render indent else .error .indent

end Json

end Conformance
