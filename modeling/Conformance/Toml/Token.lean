import Conformance.Error
import Conformance.Number.Reading

/-!
# Words of a TOML document

Blanks, comments, strings, keys and numbers. A reader takes what it reads off the front of the
characters and returns the rest, or nothing if the document is malformed there.
-/

set_option autoImplicit false

namespace Conformance.Toml

/-- A blank inside a line. -/
def isBlank (c : Char) : Bool := c == ' ' || c == '\t'

/-- A blank or the end of a line. -/
def isSpace (c : Char) : Bool := isBlank c || c == '\n'

/-- The rest after the blanks at the front. -/
def skipBlanks (cs : List Char) : List Char := cs.dropWhile isBlank

/-- A control character, which a comment or a string may not hold; the tab is allowed. -/
def isIllegal (c : Char) : Bool := (c.toNat < 0x20 && c != '\t') || c.toNat == 0x7F

/-- The same where the text may run over several lines. -/
def isIllegalInLines (c : Char) : Bool := isIllegal c && c != '\n'

/-- The rest after a comment, if there is one; it ends before the end of its line. -/
def skipComment : List Char → Option (List Char)
  | '#' :: rest =>
    if (rest.takeWhile (· != '\n')).any isIllegal then none else some (rest.dropWhile (· != '\n'))
  | cs => some cs

/-- Whether the characters start with a word. -/
def startsWith (word : String) (cs : List Char) : Bool := word.toList.isPrefixOf cs

/-! ## Strings -/

/-- Value of a hexadecimal digit in either case. -/
def hexValue? (c : Char) : Option Nat :=
  if '0' ≤ c ∧ c ≤ '9' then some (c.toNat - 0x30)
  else if 'a' ≤ c ∧ c ≤ 'f' then some (c.toNat - 0x61 + 10)
  else if 'A' ≤ c ∧ c ≤ 'F' then some (c.toNat - 0x41 + 10)
  else none

/-- The character with the code that the first `count` digits give. -/
def codeChar (count : Nat) (cs : List Char) : Option (Char × List Char) := do
  let digits ← (cs.take count).mapM hexValue?
  if digits.length < count then none
  else
    let code := digits.foldl (fun n d => 16 * n + d) 0
    if h : code.isValidChar then some (Char.ofNatAux code h, cs.drop count) else none

/-- The character that an escape letter stands for. -/
def escaped? : Char → Option Char
  | 'b' => some (Char.ofNat 0x08)
  | 't' => some '\t'
  | 'n' => some '\n'
  | 'f' => some (Char.ofNat 0x0C)
  | 'r' => some '\r'
  | '\\' => some '\\'
  | c => if c = Text.doubleQuote then some c else none

/-- An escape, after its backslash. In a string of several lines a backslash at the end of a line
drops the white space that follows. -/
def escape (lines : Bool) : List Char → Option (List Char × List Char)
  | [] => none
  | 'u' :: rest => do
    let (c, rest) ← codeChar 4 rest
    return ([c], rest)
  | 'U' :: rest => do
    let (c, rest) ← codeChar 8 rest
    return ([c], rest)
  | c :: rest =>
    if lines && isSpace c then
      if c = '\n' then some ([], rest.dropWhile isSpace)
      else match skipBlanks rest with
        | [] => some ([], [])
        | '\n' :: after => some ([], after.dropWhile isSpace)
        | _ => none
    else do return ([← escaped? c], rest)

/-- The characters of a string up to its closing quote, or up to three of them if it runs over
several lines. `fuel` bounds the number of steps; the length of the text is enough. -/
def basic (lines : Bool) : (fuel : Nat) → List Char → Option (List Char × List Char)
  | 0, _ => none
  | _ + 1, [] => none
  | fuel + 1, c :: rest =>
    if c = Text.doubleQuote then
      if !lines then some ([], rest)
      else match rest with
        | d :: e :: after =>
          if d = Text.doubleQuote ∧ e = Text.doubleQuote then some ([], after)
          else keep fuel c rest
        | _ => keep fuel c rest
    else if c = '\\' then do
      let (cs, rest) ← escape lines rest
      let (more, rest) ← basic lines fuel rest
      return (cs ++ more, rest)
    else if (if lines then isIllegalInLines c else isIllegal c) then none
    else keep fuel c rest
where
  /-- The character stands for itself. -/
  keep (fuel : Nat) (c : Char) (rest : List Char) : Option (List Char × List Char) := do
    let (more, rest) ← basic lines fuel rest
    return (c :: more, rest)

/-- A string between apostrophes, after the first: nothing is escaped. -/
def literal (cs : List Char) : Option (List Char × List Char) :=
  let body := cs.takeWhile (· != Text.apostrophe)
  match cs.dropWhile (· != Text.apostrophe) with
  | [] => none
  | _ :: rest => if body.any isIllegal then none else some (body, rest)

/-- The characters up to three apostrophes. -/
def literalLines : List Char → Option (List Char × List Char)
  | [] => none
  | c :: rest =>
    if c = Text.apostrophe ∧ rest.take 2 = [Text.apostrophe, Text.apostrophe] then
      some ([], rest.drop 2)
    else if isIllegalInLines c then none
    else do
      let (more, left) ← literalLines rest
      return (c :: more, left)

/-- Up to two more quotes belong to a string that ends in three of them. -/
def closing (quote : Char) (text : List Char) : List Char → List Char × List Char
  | c :: d :: rest =>
    if c ≠ quote then (text, c :: d :: rest)
    else if d ≠ quote then (text ++ [quote], d :: rest)
    else (text ++ [quote, quote], rest)
  | [c] => if c = quote then (text ++ [quote], []) else (text, [c])
  | [] => (text, [])

/-- A line feed right after three opening quotes is dropped. -/
def dropFirstLine : List Char → List Char
  | '\n' :: rest => rest
  | cs => cs

/-- A string of any of the four kinds, from its opening quote. -/
def string? (cs : List Char) : Option (List Char × List Char) :=
  match cs with
  | [] => none
  | c :: rest =>
    if c = Text.doubleQuote then
      if rest.take 2 = [Text.doubleQuote, Text.doubleQuote] then do
        let (text, rest) ← basic true cs.length (dropFirstLine (rest.drop 2))
        return closing Text.doubleQuote text rest
      else basic false cs.length rest
    else if c = Text.apostrophe then
      if rest.take 2 = [Text.apostrophe, Text.apostrophe] then do
        let (text, rest) ← literalLines (dropFirstLine (rest.drop 2))
        return closing Text.apostrophe text rest
      else literal rest
    else none

/-! ## Keys -/

/-- A character of a key without quotes. -/
def isBareKey (c : Char) : Bool := (c.isAlphanum && c.toNat < 0x80) || c == '-' || c == '_'

/-- One part of a key: bare, or a string on one line. -/
def keyPart (cs : List Char) : Option (String × List Char) :=
  match cs with
  | [] => none
  | c :: rest =>
    if isBareKey c then some (String.ofList (cs.takeWhile isBareKey), cs.dropWhile isBareKey)
    else if c = Text.apostrophe then do
      let (text, rest) ← literal rest
      return (String.ofList text, rest)
    else if c = Text.doubleQuote then do
      let (text, rest) ← basic false cs.length rest
      return (String.ofList text, rest)
    else none

/-- A key as the list of its parts, with the blanks after it skipped. `fuel` bounds the number of
parts; the length of the text is enough. -/
def key : (fuel : Nat) → List Char → Option (List String × List Char)
  | 0, _ => none
  | fuel + 1, cs => do
    let (part, rest) ← keyPart cs
    match skipBlanks rest with
    | '.' :: rest => do
      let (parts, rest) ← key fuel (skipBlanks rest)
      return (part :: parts, rest)
    | rest => return ([part], rest)

/-! ## Numbers -/

/-- Digits at the front, each of them accepted, single underscores between two of them dropped. -/
def digitRun (accepts : Char → Bool) : List Char → List Char × List Char
  | [] => ([], [])
  | [c] => if accepts c then ([c], []) else ([], [c])
  | c :: next :: rest =>
    if !accepts c then ([], c :: next :: rest)
    else if next = '_' then
      match rest with
      | after :: _ =>
        if accepts after then
          let (ds, left) := digitRun accepts rest
          (c :: ds, left)
        else ([c], next :: rest)
      | [] => ([c], next :: rest)
    else
      let (ds, left) := digitRun accepts (next :: rest)
      (c :: ds, left)

/-- The number that digits of a base give. -/
def inBase (base : Nat) (digits : List Char) : Nat :=
  digits.foldl (fun n c => base * n + (hexValue? c).getD 0) 0

/-- A digit of a base up to sixteen. -/
def isDigitOf (base : Nat) (c : Char) : Bool := (hexValue? c).any fun d => d < base

/-- A whole number in another base, after the zero and the base letter. -/
def based (base : Nat) (cs : List Char) : Option (Value × List Char) :=
  match digitRun (isDigitOf base) cs with
  | ([], _) => none
  | (digits, rest) => some (.int (inBase base digits), rest)

/-- The whole part of a decimal: zero, or digits that do not start with zero. -/
def wholePart : List Char → Option (List Char × List Char)
  | '0' :: rest => some (['0'], rest)
  | cs =>
    match digitRun (isDigitOf 10) cs with
    | ([], _) => none
    | run => some run

/-- The fraction after a point, if digits follow the point. -/
def fractionPart : List Char → Option (List Char × List Char)
  | '.' :: rest =>
    match digitRun (isDigitOf 10) rest with
    | ([], _) => none
    | run => some run
  | _ => none

/-- The exponent, if digits follow its letter. -/
def exponentPart : List Char → Option (Int × List Char)
  | c :: rest =>
    if c = 'e' ∨ c = 'E' then
      let (negative, cs) := Reading.sign rest
      match digitRun (isDigitOf 10) cs with
      | ([], _) => none
      | (digits, left) =>
        let n : Int := inBase 10 digits
        some (if negative then -n else n, left)
    else none
  | [] => none

/-- A number in decimal digits as it is written. -/
structure Decimal where
  negative : Bool
  whole : List Char
  fraction : Option (List Char)
  exponent : Option Int

/-- A decimal at the front. -/
def decimal (cs : List Char) : Option (Decimal × List Char) := do
  let (negative, cs) := Reading.sign cs
  let (whole, rest) ← wholePart cs
  let fraction := fractionPart rest
  let rest := (fraction.map Prod.snd).getD rest
  let exponent := exponentPart rest
  let rest := (exponent.map Prod.snd).getD rest
  return ({ negative, whole, fraction := fraction.map Prod.fst
            exponent := exponent.map Prod.fst }, rest)

/-- The number that a decimal denotes: a whole number, whose digits are limited, unless it has a
fraction or an exponent. -/
def Decimal.value (d : Decimal) : Except Error Value :=
  if d.fraction.isNone && d.exponent.isNone then
    if digitLimit < d.whole.length then .error (.tooManyDigits d.whole.length)
    else
      let n : Int := inBase 10 d.whole
      .ok (.int (if d.negative then -n else n))
  else
    let digits := d.fraction.getD []
    let place := d.exponent.getD 0 - digits.length
    .ok (.float (Reading.scaled d.negative (inBase 10 (d.whole ++ digits)) place))

/-- A number that is written by its name, with an optional sign. -/
def named (cs : List Char) : Option (Value × List Char) :=
  let (negative, rest) := Reading.sign cs
  if startsWith "inf" rest then some (.float (.infinite negative), rest.drop 3)
  else if startsWith "nan" rest then some (.float .nan, rest.drop 3)
  else none

/-- A number of any form. -/
def number (cs : List Char) : Except Error (Value × List Char) :=
  let other := match cs with
    | '0' :: 'x' :: rest => based 16 rest
    | '0' :: 'b' :: rest => based 2 rest
    | '0' :: 'o' :: rest => based 8 rest
    | _ => none
  -- a zero before a letter that starts no digits is a number of its own
  match other, decimal cs, named cs with
  | some read, _, _ => .ok read
  | none, some (d, rest), _ => do return (← d.value, rest)
  | none, none, some read => .ok read
  | none, none, none => .error .notToml

end Conformance.Toml
