import Conformance.Toml.Token

/-!
# TOML documents

A document is a sequence of table headers and of keys with values. Reading it builds one table and
keeps track of what may no longer be changed: a value written in brackets is sealed with all that
is in it, and a table that was declared, by a header or by a dotted key under an earlier header,
cannot be declared again.
-/

set_option autoImplicit false

namespace Conformance.Toml

/-- Entries of a table in order. -/
abbrev Entries := List (String × Value)

/-- Changes the table at a path, making the tables on the way that do not exist yet. A list of
tables stands for its last table, if `throughLists`; any other value is in the way. -/
def modifyAt (throughLists : Bool) (f : Entries → Option Entries) :
    List String → Entries → Option Entries
  | [], entries => f entries
  | k :: path, entries =>
    match entries.lookup k with
    | none => do
      let inner ← modifyAt throughLists f path []
      return putEntry k (.table inner) entries
    | some (.table inner) => do
      let inner ← modifyAt throughLists f path inner
      return putEntry k (.table inner) entries
    | some (.list items) =>
      match throughLists, items.getLast? with
      | true, some (.table inner) => do
        let inner ← modifyAt throughLists f path inner
        return putEntry k (.list (items.dropLast ++ [.table inner])) entries
      | _, _ => none
    | some _ => none

/-- Adds an entry whose key is new. -/
def addNew (k : String) (v : Value) (entries : Entries) : Option Entries :=
  if (entries.lookup k).isSome then none else some (entries ++ [(k, v)])

/-- Whether a path lies at or under one of the paths. -/
def covers (paths : List (List String)) (path : List String) : Bool :=
  paths.any (·.isPrefixOf path)

/-- Values in brackets are sealed. -/
def isBracketed : Value → Bool
  | .table _ | .list _ => true
  | _ => false

/-- The rest after white space, line ends and comments. `fuel` bounds the number of comments; the
length of the text is enough. -/
def skipLines : (fuel : Nat) → List Char → Option (List Char)
  | 0, _ => none
  | fuel + 1, cs =>
    match cs.dropWhile isSpace with
    | '#' :: rest => do skipLines fuel (← skipComment ('#' :: rest))
    | rest => some rest

/-- What was read, or the refusal of a malformed document. -/
def wellFormed {α : Type} : Option α → Except Error α
  | some a => .ok a
  | none => .error .notToml

mutual

/-- A value at the front. `fuel` bounds the number of steps; the length of the text is enough. -/
def value : (fuel : Nat) → List Char → Except Error (Value × List Char)
  | 0, _ => .error .notToml
  | fuel + 1, cs =>
    match cs with
    | [] => .error .notToml
    | c :: rest =>
      if c = Text.doubleQuote ∨ c = Text.apostrophe then do
        let (text, rest) ← wellFormed (string? cs)
        return (.text (String.ofList text), rest)
      else if startsWith "true" cs then .ok (.bool true, cs.drop 4)
      else if startsWith "false" cs then .ok (.bool false, cs.drop 5)
      else if c = '[' then do
        let rest ← wellFormed (skipLines cs.length rest)
        let (items, rest) ← arrayItems fuel rest
        return (.list items, rest)
      else if c = Char.ofNat 0x7B then
        match skipBlanks rest with
        | d :: after =>
          if d = Char.ofNat 0x7D then .ok (.table [], after)
          else do
            let (entries, left) ← inlineEntries fuel [] [] (d :: after)
            return (.table entries, left)
        | [] => .error .notToml
      else number cs

/-- The items of an array up to its closing bracket; a comma may stand after the last. -/
def arrayItems : (fuel : Nat) → List Char → Except Error (List Value × List Char)
  | 0, _ => .error .notToml
  | fuel + 1, cs =>
    match cs with
    | ']' :: rest => .ok ([], rest)
    | cs => do
      let (v, rest) ← value fuel cs
      match ← wellFormed (skipLines cs.length rest) with
      | ']' :: rest => return ([v], rest)
      | ',' :: rest =>
        let (items, rest) ← arrayItems fuel (← wellFormed (skipLines cs.length rest))
        return (v :: items, rest)
      | _ => .error .notToml

/-- The entries of an inline table up to its closing brace; `sealed` are the values in brackets so
far. No comma may stand after the last entry. -/
def inlineEntries : (fuel : Nat) → (entries : Entries) → (sealed : List (List String)) →
    List Char → Except Error (Entries × List Char)
  | 0, _, _, _ => .error .notToml
  | fuel + 1, entries, sealed, cs => do
    let (path, rest) ← wellFormed (key cs.length cs)
    match rest with
    | '=' :: rest => do
      let (v, rest) ← value fuel (skipBlanks rest)
      -- an earlier entry in brackets is complete and takes nothing more
      if covers sealed path then throw .notToml
      let entries ← wellFormed
        (modifyAt false (addNew (path.getLastD "") v) path.dropLast entries)
      match skipBlanks rest with
      | ',' :: rest =>
        inlineEntries fuel entries (if isBracketed v then path :: sealed else sealed)
          (skipBlanks rest)
      | c :: rest => if c = Char.ofNat 0x7D then return (entries, rest) else throw .notToml
      | [] => throw .notToml
    | _ => throw .notToml

end

/-- A document that has been read in part. -/
structure Partial where
  entries : Entries := []
  /-- Path of the table that keys go to. -/
  header : List String := []
  /-- Values in brackets: nothing at or under them may change. -/
  sealed : List (List String) := []
  /-- Tables that cannot be declared again. -/
  declared : List (List String) := []
  /-- Tables opened by dotted keys since the last header; the next header closes them. -/
  opened : List (List String) := []

namespace Partial

/-- A header closes the tables that dotted keys have opened. -/
def close (d : Partial) : Partial := { d with declared := d.opened ++ d.declared, opened := [] }

/-- A table header. -/
def declareTable (d : Partial) (path : List String) : Option Partial := do
  let d := d.close
  if d.declared.contains path || covers d.sealed path then none
  let entries ← modifyAt true some path d.entries
  return { d with entries, header := path, declared := path :: d.declared }

/-- Appends an empty table to the list of tables under a key. -/
def appendTable (k : String) (entries : Entries) : Option Entries :=
  match entries.lookup k with
  | none => some (entries ++ [(k, .list [.table []])])
  | some (.list items) => some (putEntry k (.list (items ++ [.table []])) entries)
  | some _ => none

/-- A header of a list of tables: a new table starts, in which everything may be declared anew. -/
def declareListItem (d : Partial) (path : List String) : Option Partial := do
  let d := d.close
  if covers d.sealed path then none
  let entries ← modifyAt true (appendTable (path.getLastD "")) path.dropLast d.entries
  let outside (p : List String) : Bool := !path.isPrefixOf p
  return { d with
    entries
    header := path
    sealed := d.sealed.filter outside
    declared := path :: d.declared.filter outside }

/-- A key with its value. -/
def assign (d : Partial) (path : List String) (v : Value) : Option Partial := do
  -- every table on the way of a dotted key is opened by it
  let parents := (List.range (path.length - 1)).map fun i => d.header ++ path.take (i + 1)
  if parents.any d.declared.contains then none
  let parent := d.header ++ path.dropLast
  if covers d.sealed parent then none
  let entries ← modifyAt true (addNew (path.getLastD "") v) parent d.entries
  return { d with
    entries
    opened := parents ++ d.opened
    sealed := if isBracketed v then (d.header ++ path) :: d.sealed else d.sealed }

/-- A statement at the front: a header, or a key with its value. -/
def statement (d : Partial) (cs : List Char) : Except Error (Partial × List Char) :=
  match cs with
  | '[' :: '[' :: rest => do
    let (path, rest) ← wellFormed (key cs.length (skipBlanks rest))
    let d ← wellFormed (d.declareListItem path)
    match rest with
    | ']' :: ']' :: rest => return (d, rest)
    | _ => throw .notToml
  | '[' :: rest => do
    let (path, rest) ← wellFormed (key cs.length (skipBlanks rest))
    let d ← wellFormed (d.declareTable path)
    match rest with
    | ']' :: rest => return (d, rest)
    | _ => throw .notToml
  | cs => do
    let (path, rest) ← wellFormed (key cs.length cs)
    match rest with
    | '=' :: rest => do
      let (v, rest) ← value (2 * cs.length) (skipBlanks rest)
      return (← wellFormed (d.assign path v), rest)
    | _ => throw .notToml

/-- The rest of a document, line by line. `fuel` bounds the number of lines; the length of the text
is enough. -/
def lines : (fuel : Nat) → Partial → List Char → Except Error Partial
  | 0, _, _ => .error .notToml
  | fuel + 1, d, cs => do
    let cs := skipBlanks cs
    -- a line may be empty, or hold a comment alone
    let (d, rest) ← match cs with
      | [] | '\n' :: _ | '#' :: _ => .ok (d, cs)
      | cs => d.statement cs
    match ← wellFormed (skipComment (skipBlanks rest)) with
    | [] => return d
    | '\n' :: rest => lines fuel d rest
    | _ => throw .notToml

end Partial

/-- Line ends of two characters become line feeds. -/
def normalizeLines : List Char → List Char
  | '\r' :: '\n' :: rest => '\n' :: normalizeLines rest
  | c :: rest => c :: normalizeLines rest
  | [] => []

/-- The table that a text denotes. -/
def read (text : String) : Except Error Entries :=
  let cs := normalizeLines text.toList
  (Partial.lines (cs.length + 1) {} cs).map (·.entries)

end Conformance.Toml
