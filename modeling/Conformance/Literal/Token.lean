import Conformance.Error
import Conformance.Text.Quoted

/-!
# Words of a literal

A literal is a value written out: a number, a text, a constant, or such values in round or curly
brackets. This module reads its words. Numbers may have underscores between digits, a base of
sixteen, eight or two, a point, an exponent, and the mark `j` of an imaginary number; texts may be
raw, made of bytes, or run over several lines.
-/

set_option autoImplicit false

namespace Conformance.Literal

/-- What a literal is, as far as it decides where the literal may stand. -/
inductive Kind where
  /-- A number without a sign. -/
  | real
  /-- An imaginary number without a sign. -/
  | imaginary
  /-- A number with a sign. -/
  | signed (isImaginary : Bool)
  /-- Anything else; `hashable` says whether it can be a key. -/
  | other (hashable : Bool)
  deriving DecidableEq

/-- Whether a literal can be a key. -/
def Kind.isHashable : Kind → Bool
  | .other hashable => hashable
  | _ => true

/-- A word of a literal. -/
inductive Token where
  | value (kind : Kind)
  /-- A text, made of bytes or of characters. -/
  | text (isBytes : Bool)
  /-- The name that makes an empty set of empty brackets. -/
  | emptySet
  | sign
  | comma
  | colon
  | opening (isCurly : Bool)
  | closing (isCurly : Bool)
  | lineEnd
  deriving DecidableEq

/-! ## Numbers -/

/-- A digit zero to nine. -/
def isDigit (c : Char) : Bool := '0' ≤ c && c ≤ '9'

/-- A hexadecimal digit in either case. -/
def isHexDigit (c : Char) : Bool := isDigit c || ('a' ≤ c && c ≤ 'f') || ('A' ≤ c && c ≤ 'F')

/-- The digits at the front without the single underscores between them, and what is left. -/
def digits (isDigit : Char → Bool) : List Char → List Char × List Char
  | '_' :: c :: rest => ([], '_' :: c :: rest)
  | c :: '_' :: next :: rest =>
    if !isDigit c then ([], c :: '_' :: next :: rest)
    else if isDigit next then
      let (more, left) := digits isDigit (next :: rest)
      (c :: more, left)
    else ([c], '_' :: next :: rest)
  | c :: rest =>
    if isDigit c then
      let (more, left) := digits isDigit rest
      (c :: more, left)
    else ([], c :: rest)
  | [] => ([], [])

/-- A whole number in another base, after the letter of the base. -/
def isBased (isDigit : Char → Bool) (cs : List Char) : Bool :=
  let cs := match cs with
    | '_' :: rest => rest
    | cs => cs
  match digits isDigit cs with
  | (_ :: _, []) => true
  | _ => false

/-- What follows the digits of an exponent, if there are any. -/
def afterExponent (cs : List Char) : Option (List Char) :=
  let cs := match cs with
    | '+' :: rest | '-' :: rest => rest
    | cs => cs
  match digits isDigit cs with
  | ([], _) => none
  | (_, rest) => some rest

/-- A whole number in decimal digits starts with a zero only if it is zero, and its digits can be
counted out. -/
def isWhole (ds : List Char) : Bool :=
  (ds.head? != some '0' || ds.all (· == '0')) && ds.length ≤ digitLimit

/-- The kind of a number in decimal digits. -/
def decimal? (cs : List Char) : Option Kind := do
  let (whole, rest) := digits isDigit cs
  let (hasPoint, fraction, rest) := match rest with
    | '.' :: after =>
      let (fraction, rest) := digits isDigit after
      (true, fraction, rest)
    | rest => (false, [], rest)
  if whole.isEmpty && fraction.isEmpty then none
  let (hasExponent, rest) ← match rest with
    | 'e' :: after | 'E' :: after => (afterExponent after).map fun rest => (true, rest)
    | rest => some (false, rest)
  match rest with
  | ['j'] | ['J'] => some .imaginary
  | [] => if hasPoint || hasExponent || isWhole whole then some .real else none
  | _ => none

/-- The kind of a number. -/
def number? : List Char → Option Kind
  | '0' :: base :: rest =>
    let based (isDigit : Char → Bool) : Option Kind :=
      if isBased isDigit rest then some .real else none
    match base with
    | 'x' | 'X' => based isHexDigit
    | 'o' | 'O' => based fun c => '0' ≤ c && c ≤ '7'
    | 'b' | 'B' => based fun c => c == '0' || c == '1'
    | _ => decimal? ('0' :: base :: rest)
  | cs => decimal? cs

/-- A character of a name or a number. -/
def isWordChar (c : Char) : Bool := c.isAlphanum || c == '_' || 0x80 ≤ c.toNat

/-- The characters that a number can reach to, and what is left. A sign belongs to a decimal number
only right after its exponent mark. -/
def numberRun (cs : List Char) : List Char × List Char :=
  let inRun (c : Char) : Bool := isWordChar c || c == '.'
  let run := cs.takeWhile inRun
  let isBasedRun : Bool := match run with
    | '0' :: base :: _ => "xXoObB".toList.contains base
    | _ => false
  match cs.dropWhile inRun with
  | sign :: rest =>
    if (sign = '+' ∨ sign = '-') ∧ !isBasedRun ∧
        (run.getLast? = some 'e' ∨ run.getLast? = some 'E') then
      (run ++ sign :: rest.takeWhile inRun, rest.dropWhile inRun)
    else (run, sign :: rest)
  | [] => (run, [])

/-! ## Texts -/

/-- The end of a line. -/
def isLineEnd (c : Char) : Bool := c == '\n' || c == '\r'

/-- Whether the first `count` characters are hexadecimal digits. -/
def hasHexDigits (count : Nat) (cs : List Char) : Bool :=
  (cs.take count).length = count && (cs.take count).all isHexDigit

/-- Whether the characters name a character in curly brackets. -/
def hasCharName : List Char → Bool
  | '\x7b' :: rest =>
    let isNameChar (c : Char) : Bool := c.isAlphanum || c == ' ' || c == '-'
    !(rest.takeWhile isNameChar).isEmpty && (rest.dropWhile isNameChar).head? == some '\x7d'
  | _ => false

/-- Whether an escape is complete, given its letter and what follows. A letter without a meaning
stands for itself. -/
def isEscape (isBytes : Bool) (letter : Char) (rest : List Char) : Bool :=
  match letter with
  | 'x' => hasHexDigits 2 rest
  | 'u' => isBytes || hasHexDigits 4 rest
  | 'U' => isBytes ||
    -- the greatest code is 10FFFF
    (hasHexDigits 8 rest && (rest.take 2).all (· == '0') &&
      ((rest.drop 2).head? == some '0' || (rest.drop 2).take 2 == ['1', '0']))
  | 'N' => isBytes || hasCharName rest
  | _ => true

/-- How a text is written. -/
structure TextStyle where
  quote : Char
  /-- Whether three quotes delimit it, so that it may run over several lines. -/
  isTripled : Bool
  /-- Whether a backslash stands for itself. -/
  isRaw : Bool
  isBytes : Bool

/-- Whether a character can be part of a text; bytes are written in ASCII. -/
def TextStyle.admits (style : TextStyle) (c : Char) : Bool := !style.isBytes || c.toNat < 0x80

/-- What follows a text, after its opening quote. -/
def afterText (style : TextStyle) : List Char → Option (List Char)
  | [] => none
  | '\\' :: c :: rest =>
    if style.admits c && (style.isRaw || isEscape style.isBytes c rest) then afterText style rest
    else none
  | c :: rest =>
    if c = style.quote then
      if !style.isTripled then some rest
      else match rest with
        | second :: third :: after =>
          if second = style.quote ∧ third = style.quote then some after
          else afterText style (second :: third :: after)
        | _ => none
    else if style.admits c && (style.isTripled || !isLineEnd c) then afterText style rest
    else none

/-- A quote of either sort. -/
def isQuote (c : Char) : Bool := c == Text.apostrophe || c == Text.doubleQuote

/-- The text that starts with a quote: its word and what follows. -/
def text? (isRaw isBytes : Bool) : List Char → Option (Token × List Char)
  | [] => none
  | quote :: rest => do
    let (isTripled, rest) := match rest with
      | second :: third :: after =>
        if second = quote ∧ third = quote then (true, after) else (false, second :: third :: after)
      | rest => (false, rest)
    let rest ← afterText { quote, isTripled, isRaw, isBytes } rest
    return (.text isBytes, rest)

/-- The flags `isRaw` and `isBytes` that letters right before a quote stand for. -/
def textFlags? (letters : String) : Option (Bool × Bool) :=
  match letters.toList.map Char.toLower with
  | ['u'] => some (false, false)
  | ['r'] => some (true, false)
  | ['b'] => some (false, true)
  | ['b', 'r'] | ['r', 'b'] => some (true, true)
  | _ => none

/-! ## Words -/

/-- The words at the front, of which there are at most one, and what follows. -/
def next? : List Char → Option (List Token × List Char)
  | [] => none
  | '.' :: '.' :: '.' :: rest => some ([.value (.other true)], rest)
  | c :: rest =>
    match c with
    | ' ' | '\t' | '\x0c' => some ([], rest)
    | '\n' | '\r' => some ([.lineEnd], rest)
    | '#' => some ([], rest.dropWhile (!isLineEnd ·))
    | '\\' => if rest.head?.any isLineEnd then some ([], rest.drop 1) else none
    | ',' => some ([.comma], rest)
    | ':' => some ([.colon], rest)
    | '+' | '-' => some ([.sign], rest)
    | '(' => some ([.opening false], rest)
    | ')' => some ([.closing false], rest)
    | '\x7b' => some ([.opening true], rest)
    | '\x7d' => some ([.closing true], rest)
    | c =>
      if isQuote c then (text? false false (c :: rest)).map fun t => ([t.1], t.2)
      else if isDigit c || c == '.' then
        let (run, rest) := numberRun (c :: rest)
        (number? run).map fun kind => ([.value kind], rest)
      else if isWordChar c then
        let word := String.ofList ((c :: rest).takeWhile isWordChar)
        let after := (c :: rest).dropWhile isWordChar
        if after.head?.any isQuote then do
          let (isRaw, isBytes) ← textFlags? word
          let (text, after) ← text? isRaw isBytes after
          return ([text], after)
        else if ["True", "False", "None"].contains word then some ([.value (.other true)], after)
        else if word = "set" then some ([.emptySet], after)
        else none
      else none

/-- The words of a literal; there are none if some part of it is no word. -/
def tokens? (cs : List Char) : Option (List Token) :=
  match cs with
  | [] => some []
  | c :: rest =>
    match next? (c :: rest) with
    | none => none
    | some (words, after) =>
      -- every word takes a character at least
      if _shorter : after.length < (c :: rest).length then (tokens? after).map (words ++ ·)
      else none
termination_by cs.length
decreasing_by exact _shorter

end Conformance.Literal
