import Conformance.Output.Json
import Conformance.Toml.Token
import Mathlib.Data.Prod.Basic

/-!
# Reading JSON

A reader for JSON in two stages. The text is cut into marks, strings and words; a stack then holds
the arrays and objects that are still open while their items and fields come in.

The reader knows nothing of how documents are laid out: white space may stand between any two
tokens, strings may use any escape of the format, and fields stay in the order in which they are
met. It is strict where the format is: no comma before a closing bracket, no needless zero in front
of a number, no control character in a string, no half of a surrogate pair alone, nothing after the
document.
-/

set_option autoImplicit false

namespace Conformance.Json

namespace Reader

/-! ## 1. Strings -/

/-- The code that four hexadecimal digits give. -/
def hexCode? (a b c d : Char) : Option Nat := do
  let a ← Toml.hexValue? a
  let b ← Toml.hexValue? b
  let c ← Toml.hexValue? c
  let d ← Toml.hexValue? d
  return ((a * 16 + b) * 16 + c) * 16 + d

/-- The character that an escape letter stands for. -/
def escapeLetter? (c : Char) : Option Char := if c = '/' then some c else Toml.escaped? c

/-- The codes in a string up to its closing quote, and what follows the quote. -/
def codes? : List Char → Option (List Nat × List Char)
  | [] => none
  | c :: rest =>
    if c = Text.doubleQuote then some ([], rest)
    else if c = '\\' then
      match rest with
      | [] => none
      | 'u' :: a :: b :: c :: d :: rest => do
        let code ← hexCode? a b c d
        (codes? rest).map (Prod.map (code :: ·) id)
      | letter :: rest => do
        let c ← escapeLetter? letter
        (codes? rest).map (Prod.map (c.toNat :: ·) id)
    else if c.toNat < 0x20 then none
    else (codes? rest).map (Prod.map (c.toNat :: ·) id)

/-- The characters with these codes, where a surrogate pair is one character. -/
def ofCodes? : List Nat → Option (List Char)
  | [] => some []
  | code :: rest =>
    if code.isValidChar then (ofCodes? rest).map (Char.ofNat code :: ·)
    else match rest with
      | [] => none
      | low :: rest =>
        if (0xD800 ≤ code ∧ code < 0xDC00) ∧ 0xDC00 ≤ low ∧ low < 0xE000 then
          (ofCodes? rest).map
            (Char.ofNat (0x10000 + (code - 0xD800) * 0x400 + (low - 0xDC00)) :: ·)
        else none

/-- A string after its opening quote, and what follows it. -/
def string? (cs : List Char) : Option (String × List Char) := do
  let (codes, after) ← codes? cs
  (ofCodes? codes).map fun cs => (String.ofList cs, after)

/-! ## 2. Words -/

/-- Digits without a needless zero in front. -/
def isWhole (digits : List Char) : Bool :=
  !digits.isEmpty && (digits.head? != some '0' || digits.length == 1)

/-- A letter, an optional sign and digits, or nothing. -/
def isExponent : List Char → Bool
  | [] => true
  | c :: rest =>
    let digits := match rest with
      | '+' :: digits => digits
      | '-' :: digits => digits
      | _ => rest
    (c == 'e' || c == 'E') && !digits.isEmpty && digits.all Char.isDigit

/-- What may follow the whole part of a number. -/
def isFraction : List Char → Bool
  | '.' :: rest =>
    !(rest.takeWhile Char.isDigit).isEmpty && isExponent (rest.dropWhile Char.isDigit)
  | rest => isExponent rest

/-- The number that a word denotes, after its sign. -/
def unsigned? (negative : Bool) (cs : List Char) : Option Json :=
  let whole := cs.takeWhile Char.isDigit
  let rest := cs.dropWhile Char.isDigit
  if !isWhole whole then none
  else if rest.isEmpty then
    let n : Int := Nat.ofDigitChars 10 whole 0
    some (.int (if negative then -n else n))
  else if isFraction rest then (Reading.unsigned? negative cs).map .float
  else none

/-- The number that a word denotes. -/
def number? (cs : List Char) : Option Json :=
  if cs.head? = some '-' then unsigned? true cs.tail else unsigned? false cs

/-- The document that has a name. -/
def named? (cs : List Char) : Option Json :=
  if cs = "null".toList then some .null
  else if cs = "true".toList then some (.bool true)
  else if cs = "false".toList then some (.bool false)
  else none

/-- What a word stands for. -/
def word? (cs : List Char) : Option Json := (number? cs).or (named? cs)

/-! ## 3. Tokens -/

/-- The smallest parts of a text. -/
inductive Token where
  | openArray
  | closeArray
  | openObject
  | closeObject
  | comma
  | colon
  | string (s : String)
  | scalar (j : Json)

/-- The white space of the format. -/
def isWhite (c : Char) : Bool := c == ' ' || c == '\t' || c == '\n' || c == '\r'

/-- The characters of words and numbers. -/
def isWordChar (c : Char) : Bool := c.isAlphanum || c == '+' || c == '-' || c == '.'

/-- A character that is a token by itself. -/
def mark? (c : Char) : Option Token :=
  if c = '[' then some .openArray
  else if c = ']' then some .closeArray
  else if c = Char.ofNat 0x7B then some .openObject
  else if c = Char.ofNat 0x7D then some .closeObject
  else if c = ',' then some .comma
  else if c = ':' then some .colon
  else none

/-- What is added to the codes of a text leaves the rest behind it as it is. -/
theorem length_of_map_codes {rest : List Char} {add : List Nat → List Nat}
    {read : List Nat × List Char}
    (ih : ∀ {read : List Nat × List Char}, codes? rest = some read → read.2.length < rest.length)
    (h : (codes? rest).map (Prod.map add id) = some read) : read.2.length < rest.length := by
  obtain ⟨inner, hinner, rfl⟩ := Option.map_eq_some_iff.mp h
  have hlt := ih hinner
  exact hlt

theorem codes?_length {cs : List Char} {read : List Nat × List Char} (h : codes? cs = some read) :
    read.2.length < cs.length := by
  -- every character read shortens the rest, an escape by two or six
  fun_induction codes? cs generalizing read with
  | case1 => cases h
  | case2 rest =>
    cases h
    simp
  | case3 => cases h
  | case4 a b c d rest hquote ih =>
    obtain ⟨code, -, h⟩ := Option.bind_eq_some_iff.mp h
    have hlt := length_of_map_codes ih h
    simp only [List.length_cons]
    omega
  | case5 letter rest hshape hquote ih =>
    obtain ⟨c, -, h⟩ := Option.bind_eq_some_iff.mp h
    have hlt := length_of_map_codes ih h
    simp only [List.length_cons]
    omega
  | case6 => cases h
  | case7 c rest hquote hbackslash hcode ih =>
    have hlt := length_of_map_codes ih h
    simp only [List.length_cons]
    omega

theorem string?_length {cs : List Char} {read : String × List Char} (h : string? cs = some read) :
    read.2.length < cs.length := by
  obtain ⟨inner, hinner, h⟩ := Option.bind_eq_some_iff.mp h
  obtain ⟨s, -, h⟩ := Option.map_eq_some_iff.mp h
  rw [← h]
  exact codes?_length hinner

/-- The tokens of a text. -/
def tokens? : List Char → Option (List Token)
  | [] => some []
  | c :: rest =>
    if isWhite c then tokens? rest
    else match mark? c with
      | some mark => (tokens? rest).map (mark :: ·)
      | none =>
        if c = Text.doubleQuote then
          match _h : string? rest with
          | some (s, after) => (tokens? after).map (.string s :: ·)
          | none => none
        else if isWordChar c then do
          let j ← word? (c :: rest.takeWhile isWordChar)
          (tokens? (rest.dropWhile isWordChar)).map (.scalar j :: ·)
        else none
termination_by cs => cs.length
decreasing_by
  · simp
  · simp
  · have hlt : after.length < rest.length := string?_length _h
    simp only [List.length_cons]
    omega
  · have hle : (rest.dropWhile isWordChar).length ≤ rest.length :=
      (List.dropWhile_suffix isWordChar).length_le
    simp only [List.length_cons]
    omega

/-! ## 4. Documents -/

/-- An array or an object that is still open. -/
inductive Frame where
  | items (done : List Json)
  | fields (done : List (String × Json)) (name : String)

/-- What may come next. -/
inductive Place where
  | value
  | firstItem
  | firstName
  | name (done : List (String × Json))
  | colon
  | after (j : Json)

/-- What is open, innermost first, and what may come next. -/
abbrev State := List Frame × Place

/-- A token where a document begins. -/
def opening (stack : List Frame) : Token → Option State
  | .openArray => some (.items [] :: stack, .firstItem)
  | .openObject => some (stack, .firstName)
  | .string s => some (stack, .after (.string s))
  | .scalar j => some (stack, .after j)
  | _ => none

/-- One token. -/
def step : State → Token → Option State
  | (stack, .value), token => opening stack token
  -- only an array without items may close here: a comma promises another item
  | (.items done :: stack, .firstItem), .closeArray => some (stack, .after (.array done))
  | (stack, .firstItem), token => opening stack token
  | (stack, .firstName), .closeObject => some (stack, .after (.object []))
  | (stack, .firstName), .string name => some (.fields [] name :: stack, .colon)
  | (stack, .name done), .string name => some (.fields done name :: stack, .colon)
  | (stack, .colon), .colon => some (stack, .value)
  | (.items done :: stack, .after j), .comma => some (.items (done ++ [j]) :: stack, .value)
  | (.items done :: stack, .after j), .closeArray => some (stack, .after (.array (done ++ [j])))
  | (.fields done name :: stack, .after j), .comma => some (stack, .name (done ++ [(name, j)]))
  | (.fields done name :: stack, .after j), .closeObject =>
    some (stack, .after (.object (done ++ [(name, j)])))
  | _, _ => none

/-- The state after a text. -/
def readFrom (state : State) (cs : List Char) : Option State := do
  (← tokens? cs).foldlM step state

end Reader

/-- The document that a text stands for. -/
def ofText? (text : String) : Option Json :=
  match Reader.readFrom ([], .value) text.toList with
  | some ([], .after j) => some j
  | _ => none

end Conformance.Json
