import Conformance.Number.Decimal
import Conformance.Severity
import Conformance.Table
import Conformance.Text.Quoted

/-!
# Values

Options, measurements and decoded configuration files hold values of any kind. A value has two
texts: the quoted one, in which texts stand between quotes, and the plain one, in which a value
that is itself a text stands bare.

A value is a finite tree: containers that hold themselves are left out, and there is no limit on the
depth of one. Texts are made of characters, so that a lone half of a surrogate pair is left out too.
The options of a rule are named by texts; a mapping with other keys may be the value of an option or
stand in a payload, but it is not taken for the options of a rule.

Both texts are total here. A program can fail to form one, if a whole number in it has more digits
than are written or a class of its own refuses. Where the quoted text of an option's value goes into
a refusal this is part of the library (`Value.textFault?`); the measured values of findings, and the
numbers in their messages, are taken to have a text.
-/

set_option autoImplicit false

namespace Conformance

/-- A value of a class that is none of the kinds of `Value`, nor derived from one: a member of
another enumeration, a path, a record of a user. Nothing looks inside it. -/
structure Foreign where
  /-- The name of its class. -/
  className : String
  /-- Its text inside other texts. -/
  quoted : String
  /-- Its text on its own. -/
  plain : String
  /-- Whether it counts as true. -/
  isTrue : Bool := true
  /-- Class and text of the failure in place of the quoted text, if it cannot be formed. -/
  fault? : Option (String × String) := none

/-- A value of an option, of a finding's payload or of a configuration file. -/
inductive Value where
  | null
  | bool (b : Bool)
  | int (n : Int)
  | float (x : Binary64)
  | text (s : String)
  | severity (s : Severity)
  | list (items : List Value)
  | tuple (items : List Value)
  /-- A set, frozen or not, with its members in the order in which they are gone through. -/
  | set (isFrozen : Bool) (members : List Value)
  | table (entries : List (String × Value))
  /-- A mapping with a key that is no text. -/
  | mapping (entries : List (Value × Value))
  | object (o : Foreign)

namespace Value

instance : Inhabited Value := ⟨.null⟩

/-- Parts separated by a comma and a space. -/
def commaSeparated (parts : List String) : String := ", ".intercalate parts

/-- The word for a truth value. -/
def boolText (b : Bool) : String := if b then "True" else "False"

mutual

/-- The text with quotes around every text in it. -/
def quoted : Value → String
  | .null => "None"
  | .bool b => boolText b
  | .int n => toString n
  | .float x => x.text
  | .text s => Text.quoted s
  | .severity s => "<Severity." ++ s.constant ++ ": " ++ Text.quoted s.label ++ ">"
  | .list items => "[" ++ commaSeparated (quotedItems items) ++ "]"
  | .tuple items =>
    match quotedItems items with
    -- an item alone keeps its comma
    | [single] => "(" ++ single ++ ",)"
    | parts => "(" ++ commaSeparated parts ++ ")"
  | .set isFrozen members =>
    match isFrozen, quotedItems members with
    | false, [] => "set()"
    | true, [] => "frozenset()"
    | false, parts => "\x7b" ++ commaSeparated parts ++ "\x7d"
    | true, parts => "frozenset(\x7b" ++ commaSeparated parts ++ "\x7d)"
  | .table entries => "\x7b" ++ commaSeparated (quotedEntries entries) ++ "\x7d"
  | .mapping entries => "\x7b" ++ commaSeparated (quotedPairs entries) ++ "\x7d"
  | .object o => o.quoted

/-- Quoted texts of list items. -/
def quotedItems : List Value → List String
  | [] => []
  | v :: rest => v.quoted :: quotedItems rest

/-- Quoted texts of table entries. -/
def quotedEntries : List (String × Value) → List String
  | [] => []
  | (key, v) :: rest => (Text.quoted key ++ ": " ++ v.quoted) :: quotedEntries rest

/-- Quoted texts of the entries of a mapping. -/
def quotedPairs : List (Value × Value) → List String
  | [] => []
  | (key, v) :: rest => (key.quoted ++ ": " ++ v.quoted) :: quotedPairs rest

end

/-- The text in which a text value stands bare. -/
def plain : Value → String
  | .text s => s
  | .severity s => "Severity." ++ s.constant
  | .object o => o.plain
  | v => v.quoted

/-- The word for the kind of a value in messages. -/
def kindName : Value → String
  | .null => "NoneType"
  | .bool _ => "bool"
  | .int _ => "int"
  | .float _ => "float"
  | .text _ => "str"
  | .severity _ => "Severity"
  | .list _ => "list"
  | .tuple _ => "tuple"
  | .set isFrozen _ => if isFrozen then "frozenset" else "set"
  | .table _ | .mapping _ => "dict"
  | .object o => o.className

/-- Whether a value counts as true: nothing, zero and what is empty do not. -/
def truth : Value → Bool
  | .null => false
  | .bool b => b
  | .int n => n != 0
  | .float (.finite _ significand _) => significand != 0
  | .float _ => true
  | .text s => s != ""
  | .severity _ => true
  | .list items => !items.isEmpty
  | .tuple items => !items.isEmpty
  | .set _ members => !members.isEmpty
  | .table entries => !entries.isEmpty
  | .mapping entries => !entries.isEmpty
  | .object o => o.isTrue

/-- The table that a value is, if it is one. -/
def table? : Value → Option (Table Value)
  | .table entries => some (Table.ofList entries)
  | _ => none

/-- Whole number as a value. -/
def ofNat (n : Nat) : Value := .int n

/-- A text, or nothing. -/
def ofText? : Option String → Value
  | some s => .text s
  | none => .null

/-- A sequence of texts. -/
def texts (names : List String) : Value := .tuple (names.map .text)

end Value

end Conformance
