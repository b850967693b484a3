import Conformance.Proofs.JsonReader
import Mathlib.Data.List.Forall2
import Mathlib.Data.List.TakeWhile

/-!
# JSON texts are read as the documents they are written for

A document without fractional numbers is what its text is read as, at any indent
(`Json.ofText?_render`): every character of a string comes back, beyond the basic plane through a
surrogate pair, whole numbers of any size do, and so does every array and object in it.

The proof never looks at a whole text. `Reader.Reads` says of a part of a text that reading it is
having read the document it stands for, whatever is open around it and whatever follows. Words and
strings have this property because of what their characters are. For arrays and objects there is
one argument: both are items between brackets, separated by commas and white space, and
`Reader.Collector` says what the reader does with either.
-/

set_option autoImplicit false

namespace Conformance.Json

namespace Reader

/-! ## 1. Strings -/

/-- A digit that the writer puts down is read as its value, in the one case of letters that is
written. -/
theorem hexValue?_hexDigit : ∀ {n : Nat}, n < 16 → Toml.hexValue? (Text.hexDigit n) = some n := by
  decide

/-- A code unit is written with four digits, so what is read back is the whole unit and nothing of
what follows. -/
theorem codes?_unitEscape {unit : Nat} (h : unit < 0x10000) (rest : List Char) :
    codes? (unitEscape unit ++ rest) = (codes? rest).map (Prod.map (unit :: ·) id) := by
  have hmod (n : Nat) : n % 16 < 16 := Nat.mod_lt n (by decide)
  have hcode : hexCode? (Text.hexDigit (unit / 16 / 16 / 16 % 16))
      (Text.hexDigit (unit / 16 / 16 % 16)) (Text.hexDigit (unit / 16 % 16))
      (Text.hexDigit (unit % 16)) = some unit := by
    unfold hexCode?
    rw [hexValue?_hexDigit (hmod _), hexValue?_hexDigit (hmod _), hexValue?_hexDigit (hmod _),
      hexValue?_hexDigit (hmod _)]
    refine congrArg some ?_
    omega
  calc codes? (unitEscape unit ++ rest)
      = (hexCode? _ _ _ _).bind fun code => (codes? rest).map (Prod.map (code :: ·) id) := rfl
    _ = (codes? rest).map (Prod.map (unit :: ·) id) := by rw [hcode, Option.bind_some]

/-- The bound below which surrogate pairs can hold every character. -/
theorem toNat_lt (c : Char) : c.toNat < 0x110000 := by
  have hvalid : c.toNat.isValidChar := c.valid
  unfold Nat.isValidChar at hvalid
  omega

/-- The codes by which a character is written: its own, or those of a surrogate pair. -/
def units (c : Char) : List Nat :=
  if c.toNat < 0x10000 then [c.toNat]
  else [0xD800 + (c.toNat - 0x10000) / 0x400, 0xDC00 + (c.toNat - 0x10000) % 0x400]

/-- The quote that ends a string ends the reading, whatever stands behind it. -/
theorem codes?_quote (rest : List Char) : codes? (Text.doubleQuote :: rest) = some ([], rest) := by
  rw [codes?.eq_def]
  exact if_pos rfl

theorem codes?_letter {letter c : Char} (h : escapeLetter? letter = some c) (rest : List Char) :
    codes? ('\\' :: letter :: rest) = (codes? rest).map (Prod.map (c.toNat :: ·) id) := by
  have hletter : letter ≠ 'u' := by
    rintro rfl
    cases (show escapeLetter? 'u' = none by decide).symm.trans h
  rw [codes?, if_neg (by decide), if_pos rfl, h, Option.bind_eq_bind, Option.bind_some]
  intro _ _ _ _ _ hu
  exact absurd hu hletter

/-- A character that needs no escape is written as it is, and stands for itself. -/
theorem codes?_plain {c : Char} (hquote : c ≠ Text.doubleQuote) (hbackslash : c ≠ '\\')
    (hcode : 0x20 ≤ c.toNat) (rest : List Char) :
    codes? (c :: rest) = (codes? rest).map (Prod.map (c.toNat :: ·) id) := by
  rw [codes?.eq_def]
  dsimp only
  rw [if_neg hquote, if_neg hbackslash, if_neg (Nat.not_lt.mpr hcode)]

/-- **One character**, in any of the four ways in which it may be written: as it is, by a short
escape, or as one or two code units. -/
theorem codes?_escapeChar (c : Char) (rest : List Char) :
    codes? (escapeChar c ++ rest) = (codes? rest).map (Prod.map (units c ++ ·) id) := by
  have hunits (h : c.toNat < 0x10000) : units c = [c.toNat] := if_pos h
  unfold escapeChar
  dsimp only
  -- the characters that have an escape letter, in the order in which they are told apart
  by_cases hquote : c.toNat = 0x22
  · obtain rfl : c = Text.doubleQuote := Char.toNat_inj.mp hquote
    exact codes?_letter (by decide) rest
  rw [if_neg hquote]
  by_cases hbackslash : c.toNat = 0x5C
  · obtain rfl : c = '\\' := Char.toNat_inj.mp hbackslash
    exact codes?_letter (by decide) rest
  rw [if_neg hbackslash]
  by_cases hn : c.toNat = 0x0A
  · obtain rfl : c = '\n' := Char.toNat_inj.mp hn
    exact codes?_letter (by decide) rest
  rw [if_neg hn]
  by_cases hr : c.toNat = 0x0D
  · obtain rfl : c = '\r' := Char.toNat_inj.mp hr
    exact codes?_letter (by decide) rest
  rw [if_neg hr]
  by_cases ht : c.toNat = 0x09
  · obtain rfl : c = '\t' := Char.toNat_inj.mp ht
    exact codes?_letter (by decide) rest
  rw [if_neg ht]
  by_cases hb : c.toNat = 0x08
  · obtain rfl : c = Char.ofNat 0x08 := Char.toNat_inj.mp hb
    exact codes?_letter (by decide) rest
  rw [if_neg hb]
  by_cases hf : c.toNat = 0x0C
  · obtain rfl : c = Char.ofNat 0x0C := Char.toNat_inj.mp hf
    exact codes?_letter (by decide) rest
  rw [if_neg hf]
  -- the others stand for themselves or are written by their codes
  by_cases hplain : 0x20 ≤ c.toNat ∧ c.toNat < 0x7F
  · rw [if_pos hplain, hunits (by omega)]
    refine codes?_plain ?_ ?_ hplain.1 rest
    · rintro rfl
      exact hquote rfl
    · rintro rfl
      exact hbackslash rfl
  rw [if_neg hplain]
  by_cases hbasic : c.toNat < 0x10000
  · rw [if_pos hbasic, hunits hbasic]
    exact codes?_unitEscape hbasic rest
  · have hpair : units c =
        [0xD800 + (c.toNat - 0x10000) / 0x400, 0xDC00 + (c.toNat - 0x10000) % 0x400] :=
      if_neg hbasic
    have hmax := toNat_lt c
    rw [if_neg hbasic, hpair, List.append_assoc, codes?_unitEscape (by omega),
      codes?_unitEscape (by omega), Option.map_map]
    rfl

/-- Code units are put together again: a pair of surrogates is one character, and a unit of any
other kind is one as well, whatever unit comes next. -/
theorem ofCodes?_units (c : Char) (codes : List Nat) :
    ofCodes? (units c ++ codes) = (ofCodes? codes).map (c :: ·) := by
  unfold units
  split_ifs with h
  · rw [List.singleton_append, ofCodes?.eq_def]
    dsimp only
    rw [if_pos (show c.toNat.isValidChar from c.valid), Char.ofNat_toNat]
  · have hmax := toNat_lt c
    -- the first half of a pair is no character by itself
    have hhigh : ¬ (0xD800 + (c.toNat - 0x10000) / 0x400).isValidChar := by
      unfold Nat.isValidChar
      omega
    rw [List.cons_append, List.singleton_append, ofCodes?, if_neg hhigh]
    rw [if_pos (by omega)]
    have hcode : 0x10000 + (0xD800 + (c.toNat - 0x10000) / 0x400 - 0xD800) * 0x400 +
        (0xDC00 + (c.toNat - 0x10000) % 0x400 - 0xDC00) = c.toNat := by omega
    rw [hcode, Char.ofNat_toNat]

/-- From one character to a string, by induction: the last lemma says what is left after each. -/
theorem codes?_flatMap_escapeChar (cs rest : List Char) :
    codes? (cs.flatMap escapeChar ++ Text.doubleQuote :: rest) = some (cs.flatMap units, rest) := by
  induction cs with
  | nil => exact codes?_quote rest
  | cons c cs ih =>
    rw [List.flatMap_cons, List.append_assoc, codes?_escapeChar, ih, List.flatMap_cons]
    rfl

/-- The units of a string are those of its characters, and no pair forms across two of them. -/
theorem ofCodes?_flatMap_units (cs : List Char) : ofCodes? (cs.flatMap units) = some cs := by
  induction cs with
  | nil => rfl
  | cons c cs ih => rw [List.flatMap_cons, ofCodes?_units, ih, Option.map_some]

/-- **Strings.** Code units first, then characters: both ways back are needed, since the reader
takes all units of a string before it looks for pairs. -/
theorem string?_escaped (s : String) (rest : List Char) :
    string? (s.toList.flatMap escapeChar ++ Text.doubleQuote :: rest) = some (s, rest) := by
  unfold string?
  rw [codes?_flatMap_escapeChar, Option.bind_eq_bind, Option.bind_some]
  dsimp only
  rw [ofCodes?_flatMap_units, Option.map_some, String.ofList_toList]

/-! ## 2. Words -/

/-- A number that is not zero has no zero in front, which a reader of numbers would refuse. -/
theorem head?_toDigits_ne_zero {n : Nat} (h : 0 < n) : (Nat.toDigits 10 n).head? ≠ some '0' := by
  have hdigit : ∀ d < 10, 0 < d → Nat.digitChar d ≠ '0' := by decide
  induction n using Nat.strongRecOn with
  | ind n ih =>
    rcases Nat.lt_or_ge n 10 with hlt | hge
    · rw [Nat.toDigits_of_lt_base hlt, List.head?_cons]
      exact fun heq => hdigit n hlt h (Option.some.inj heq)
    · rw [Nat.toDigits_of_base_le (by decide) hge,
        List.head?_append_of_ne_nil _ Nat.toDigits_ne_nil]
      exact ih (n / 10) (by omega) (by omega)

/-- What is written for a natural number is a whole number to the reader. -/
theorem isWhole_toDigits (n : Nat) : isWhole (Nat.toDigits 10 n) = true := by
  rcases Nat.eq_zero_or_pos n with rfl | hpos
  · rfl
  · simp [isWhole, head?_toDigits_ne_zero hpos, Nat.toDigits_ne_nil]

/-- The fact about digits of the library, in base ten. -/
theorem isDigit_of_mem_toDigits {n : Nat} : ∀ c ∈ Nat.toDigits 10 n, c.isDigit = true :=
  fun _ hc => Nat.isDigit_of_mem_toDigits (by decide) (by decide) hc

/-- Digits are read back as the number, and the sign that stood before them is put in. -/
theorem unsigned?_toDigits (negative : Bool) (n : Nat) :
    unsigned? negative (Nat.toDigits 10 n) = some (.int (if negative then -(n : Int) else n)) := by
  have htake : (Nat.toDigits 10 n).takeWhile Char.isDigit = Nat.toDigits 10 n :=
    List.takeWhile_eq_self_iff.mpr isDigit_of_mem_toDigits
  have hdrop : (Nat.toDigits 10 n).dropWhile Char.isDigit = [] :=
    List.dropWhile_eq_nil_iff.mpr isDigit_of_mem_toDigits
  unfold unsigned?
  dsimp only
  rw [htake, hdrop, isWhole_toDigits, Nat.ofDigitChars_ten_toDigits]
  rfl

/-- The digits of an integer, with its sign in front if it is negative. -/
theorem intText_toList (n : Int) :
    (toString n).toList =
      if 0 ≤ n then Nat.toDigits 10 n.toNat else '-' :: Nat.toDigits 10 (-n).toNat := by
  rw [Int.toString_eq_repr, Int.repr_eq_if]
  split_ifs with h
  · exact Nat.toList_repr
  · rw [String.toList_append, Nat.toList_repr]
    rfl

/-- **Integers** are read back, of any size and either sign. -/
theorem number?_int (n : Int) : number? (toString n).toList = some (.int n) := by
  rw [intText_toList]
  unfold number?
  split_ifs with hn hsign hsign
  · exact absurd (isDigit_of_mem_toDigits '-' (List.mem_of_head? hsign)) (by decide)
  · rw [unsigned?_toDigits, if_neg Bool.false_ne_true, Int.toNat_of_nonneg hn]
  · rw [List.tail_cons, unsigned?_toDigits, if_pos rfl, Int.toNat_of_nonneg (by omega), Int.neg_neg]
  · exact absurd rfl hsign

/-- Digits are among the characters that the reader gathers into words. -/
theorem isWordChar_of_isDigit {c : Char} (h : c.isDigit = true) : isWordChar c = true := by
  simp [isWordChar, Char.isAlphanum, h]

/-- A number is one word, so the reader never stops inside it. -/
theorem isWordChar_int (n : Int) : ∀ c ∈ (toString n).toList, isWordChar c = true := by
  rw [intText_toList]
  intro c hc
  split_ifs at hc with hn
  · exact isWordChar_of_isDigit (isDigit_of_mem_toDigits c hc)
  · rcases List.mem_cons.mp hc with rfl | hc
    · decide
    · exact isWordChar_of_isDigit (isDigit_of_mem_toDigits c hc)

/-- No number is written as nothing, which the reader would not take for a word. -/
theorem intText_ne_nil (n : Int) : (toString n).toList ≠ [] := by
  rw [intText_toList]
  split_ifs
  · exact Nat.toDigits_ne_nil
  · exact List.cons_ne_nil _ _

/-! ## 3. Tokens -/

theorem isWordChar_of_isWhite {c : Char} (h : isWhite c = true) : isWordChar c = false := by
  simp only [isWhite, Bool.or_eq_true, beq_iff_eq] at h
  rcases h with ((rfl | rfl) | rfl) | rfl <;> decide

/-- A mark is neither white space nor part of a word, so the reader gets to see it as a mark. -/
theorem mark?_special {c : Char} {mark : Token} (h : mark? c = some mark) :
    isWhite c = false ∧ isWordChar c = false := by
  unfold mark? at h
  split_ifs at h <;> subst c <;> decide

/-- A text before which a word ends. -/
def Stops (rest : List Char) : Prop := ∀ c ∈ rest.head?, isWordChar c = false

theorem Stops.takeWhile {rest : List Char} (h : Stops rest) : rest.takeWhile isWordChar = [] := by
  cases rest with
  | nil => rfl
  | cons c rest => exact List.takeWhile_cons_of_neg (Bool.eq_false_iff.mp (h c rfl))

theorem Stops.dropWhile {rest : List Char} (h : Stops rest) : rest.dropWhile isWordChar = rest := by
  cases rest with
  | nil => rfl
  | cons c rest => exact List.dropWhile_cons_of_neg (Bool.eq_false_iff.mp (h c rfl))

/-- White space is passed over, however much of it a layout puts in. -/
theorem tokens?_white {white : List Char} (h : ∀ c ∈ white, isWhite c = true) (rest : List Char) :
    tokens? (white ++ rest) = tokens? rest := by
  induction white with
  | nil => rfl
  | cons c white ih =>
    obtain ⟨hc, hwhite⟩ := List.forall_mem_cons.mp h
    rw [List.cons_append, tokens?, if_pos hc, ih hwhite]

theorem tokens?_mark {c : Char} {mark : Token} (h : mark? c = some mark) (rest : List Char) :
    tokens? (c :: rest) = (tokens? rest).map (mark :: ·) := by
  rw [tokens?, if_neg (Bool.eq_false_iff.mp (mark?_special h).1), h]

/-- A string is one token: the reader looks for its end by itself, so marks inside of it are no
marks. -/
theorem tokens?_string (s : String) (rest : List Char) :
    tokens? (stringChars s ++ rest) = (tokens? rest).map (.string s :: ·) := by
  have hchars : stringChars s ++ rest =
      Text.doubleQuote :: (s.toList.flatMap escapeChar ++ Text.doubleQuote :: rest) := by
    unfold stringChars
    rw [List.append_assoc, List.cons_append, List.singleton_append]
  rw [hchars, tokens?, if_neg (by decide), show mark? Text.doubleQuote = none from rfl]
  dsimp only
  rw [if_pos rfl]
  split
  case h_1 t after h =>
    rw [string?_escaped] at h
    cases h
    rfl
  case h_2 h =>
    rw [string?_escaped] at h
    cases h

/-- A word is one token if it cannot go on. -/
theorem tokens?_word {cs rest : List Char} {j : Json} (hword : word? cs = some j)
    (hcs : ∀ c ∈ cs, isWordChar c = true) (hne : cs ≠ []) (hrest : Stops rest) :
    tokens? (cs ++ rest) = (tokens? rest).map (.scalar j :: ·) := by
  obtain ⟨c, cs, rfl⟩ := List.exists_cons_of_ne_nil hne
  obtain ⟨hc, hcs⟩ := List.forall_mem_cons.mp hcs
  -- a character of a word is no white space, no mark and no quote
  have hwhite : ¬ isWhite c = true := fun h => by simp [isWordChar_of_isWhite h] at hc
  have hmark : mark? c = none := by
    by_contra hmark
    obtain ⟨mark, hmark⟩ := Option.ne_none_iff_exists'.mp hmark
    simp [mark?_special hmark] at hc
  have hquote : c ≠ Text.doubleQuote := by
    rintro rfl
    exact absurd hc (by decide)
  have htake : (cs ++ rest).takeWhile isWordChar = cs := by
    rw [List.takeWhile_append_of_pos hcs, hrest.takeWhile, List.append_nil]
  have hdrop : (cs ++ rest).dropWhile isWordChar = rest := by
    rw [List.dropWhile_append_of_pos hcs, hrest.dropWhile]
  rw [List.cons_append, tokens?, if_neg hwhite, hmark]
  dsimp only
  rw [if_neg hquote, if_pos hc, htake, hdrop, hword]
  rfl

/-! ## 4. Parts of a text -/

/-- What is known of tokens carries over to the machine that reads them: it takes one step for each.
-/
theorem readFrom_of_tokens? {cs rest : List Char} {token : Token}
    (h : tokens? cs = (tokens? rest).map (token :: ·)) (state : State) :
    readFrom state cs = (step state token).bind (readFrom · rest) := by
  unfold readFrom
  rw [h]
  cases tokens? rest with
  | none => cases step state token <;> rfl
  | some tokens => rfl

/-- At the end of the text the state is the one reached. -/
theorem readFrom_nil (state : State) : readFrom state [] = some state := by
  unfold readFrom
  rw [tokens?]
  rfl

theorem readFrom_white {white : List Char} (h : ∀ c ∈ white, isWhite c = true) (state : State)
    (rest : List Char) : readFrom state (white ++ rest) = readFrom state rest := by
  unfold readFrom
  rw [tokens?_white h]

theorem readFrom_mark {c : Char} {mark : Token} (h : mark? c = some mark) (state : State)
    (rest : List Char) : readFrom state (c :: rest) = (step state mark).bind (readFrom · rest) :=
  readFrom_of_tokens? (tokens?_mark h rest) state

theorem readFrom_string (s : String) (state : State) (rest : List Char) :
    readFrom state (stringChars s ++ rest) = (step state (.string s)).bind (readFrom · rest) :=
  readFrom_of_tokens? (tokens?_string s rest) state

/-- The places where a document may stand. -/
inductive Place.TakesValue : Place → Prop
  | value : TakesValue .value
  | firstItem : TakesValue .firstItem

/-- Where a value is expected, each token is looked at in the same way: it opens a value or is
refused. -/
theorem step_of_takesValue {stack : List Frame} {place : Place} {token : Token}
    {state : State} (hplace : place.TakesValue) (h : opening stack token = some state) :
    step (stack, place) token = some state := by
  cases hplace with
  | value => exact h
  | firstItem =>
    cases token with
    | closeArray => cases h
    | _ => rcases stack with _ | ⟨_ | _, _⟩ <;> exact h

/-- **What a part of a text stands for.** Wherever a document may stand, reading this part is having
read the document, whatever follows. -/
def Reads (cs : List Char) (j : Json) : Prop :=
  ∀ ⦃stack : List Frame⦄ ⦃place : Place⦄, place.TakesValue → ∀ ⦃rest : List Char⦄, Stops rest →
    readFrom (stack, place) (cs ++ rest) = readFrom (stack, .after j) rest

/-- Values that are written as one word: numbers, truth values, and null. -/
theorem reads_word {cs : List Char} {j : Json} (hword : word? cs = some j)
    (hcs : ∀ c ∈ cs, isWordChar c = true) (hne : cs ≠ []) : Reads cs j := by
  intro stack place hplace rest hrest
  rw [readFrom_of_tokens? (tokens?_word hword hcs hne hrest), step_of_takesValue hplace rfl,
    Option.bind_some]

theorem reads_string (s : String) : Reads (stringChars s) (.string s) := by
  intro stack place hplace rest hrest
  rw [readFrom_string, step_of_takesValue hplace rfl, Option.bind_some]

theorem stops_cons {c : Char} (h : isWordChar c = false) (rest : List Char) :
    Stops (c :: rest) := by
  rintro d ⟨⟩
  exact h

theorem isWhite_gap (l : Layout) (level : Nat) : ∀ c ∈ l.gap level, isWhite c = true := by
  unfold Layout.gap
  cases l.indent with
  | none => simp
  | some n =>
    intro c hc
    rcases List.mem_cons.mp hc with rfl | hc
    · decide
    · rw [List.eq_of_mem_replicate hc]
      decide

/-- A gap ends a word, and an empty gap leaves it to what comes next. -/
theorem stops_gap (l : Layout) (level : Nat) {rest : List Char} (h : Stops rest) :
    Stops (l.gap level ++ rest) := by
  cases hgap : l.gap level with
  | nil => exact h
  | cons c gap =>
    have hwhite : isWhite c = true := isWhite_gap l level c (hgap ▸ List.mem_cons_self)
    exact stops_cons (isWordChar_of_isWhite hwhite) _

/-- Between two items there is a comma, and white space after it at most. -/
theorem separator_eq (l : Layout) (level : Nat) :
    ∃ white, (∀ c ∈ white, isWhite c = true) ∧ l.separator level = ',' :: white := by
  unfold Layout.separator
  cases l.indent with
  | none => exact ⟨[' '], List.forall_mem_singleton.mpr rfl, rfl⟩
  | some n => exact ⟨l.gap level, isWhite_gap l level, rfl⟩

/-! ## 5. Items between brackets -/

/-- How items of one kind are collected between two brackets. -/
structure Collector (α : Type) where
  left : Char
  right : Char
  opens : Token
  closes : Token
  /-- The document with these items. -/
  build : List α → Json
  /-- The states in which another item may come. -/
  Ready : List Frame → List α → State → Prop
  /-- The state with one more item. -/
  taken : List Frame → List α → α → State
  mark_left : mark? left = some opens
  mark_right : mark? right = some closes
  start : ∀ stack, ∃ state, opening stack opens = some state ∧ Ready stack [] state ∧
    step state closes = some (stack, .after (build []))
  comma : ∀ stack done a, ∃ state,
    step (taken stack done a) .comma = some state ∧ Ready stack (done ++ [a]) state
  close : ∀ stack done a,
    step (taken stack done a) closes = some (stack, .after (build (done ++ [a])))

namespace Collector

variable {α : Type} (k : Collector α)

/-- A part of a text is taken as an item. -/
def Takes (cs : List Char) (a : α) : Prop :=
  ∀ ⦃stack : List Frame⦄ ⦃done : List α⦄ ⦃state : State⦄, k.Ready stack done state →
    ∀ ⦃rest : List Char⦄, Stops rest →
      readFrom state (cs ++ rest) = readFrom (k.taken stack done a) rest

/-- The run over the items that are left, up to the closing bracket. -/
theorem readFrom_items (l : Layout) (level inner : Nat) {cs : List Char} {css : List (List Char)}
    {a : α} {as : List α} (ha : k.Takes cs a) (has : List.Forall₂ k.Takes css as)
    {stack : List Frame} {done : List α} {state : State} (hready : k.Ready stack done state)
    (rest : List Char) :
    readFrom state
        ((l.separator inner).intercalate (cs :: css) ++ (l.gap level ++ k.right :: rest)) =
      readFrom (stack, .after (k.build (done ++ a :: as))) rest := by
  have hright : isWordChar k.right = false := (mark?_special k.mark_right).2
  -- induction on the items after the first; each of them changes the state and what is done
  induction has generalizing cs a done state with
  | nil =>
    rw [List.intercalate_singleton, ha hready (stops_gap l level (stops_cons hright rest)),
      readFrom_white (isWhite_gap l level), readFrom_mark k.mark_right, k.close, Option.bind_some]
  | @cons next b css bs hb hbs ih =>
    obtain ⟨white, hwhite, hseparator⟩ := separator_eq l inner
    obtain ⟨after, hcomma, hafter⟩ := k.comma stack done a
    rw [List.intercalate_cons_cons, List.append_assoc, List.append_assoc]
    nth_rewrite 1 [hseparator]
    rw [List.cons_append, ha hready (stops_cons (by decide) _),
      readFrom_mark (show mark? ',' = some .comma from rfl), hcomma, Option.bind_some,
      readFrom_white hwhite, ih hb hafter, List.append_assoc, List.singleton_append]

/-- **A bracketed list is read as the document with its items.** -/
theorem reads_enclose (l : Layout) (level : Nat) {css : List (List Char)} {as : List α}
    (h : List.Forall₂ k.Takes css as) :
    Reads (l.enclose level k.left k.right css) (k.build as) := by
  intro stack place hplace rest hrest
  obtain ⟨state, hopen, hready, hempty⟩ := k.start stack
  have hstart (cs : List Char) : readFrom (stack, place) (k.left :: cs) = readFrom state cs := by
    rw [readFrom_mark k.mark_left, step_of_takesValue hplace hopen, Option.bind_some]
  cases h with
  | nil =>
    have hchars : l.enclose level k.left k.right [] ++ rest = k.left :: k.right :: rest := rfl
    rw [hchars, hstart, readFrom_mark k.mark_right, hempty, Option.bind_some]
  | @cons cs a css as ha has =>
    have hchars : l.enclose level k.left k.right (cs :: css) ++ rest =
        k.left :: (l.gap (level + 1) ++ ((l.separator (level + 1)).intercalate (cs :: css) ++
          (l.gap level ++ k.right :: rest))) := by
      simp [Layout.enclose]
    rw [hchars, hstart, readFrom_white (isWhite_gap l (level + 1)),
      k.readFrom_items l level (level + 1) ha has hready, List.nil_append]

end Collector

/-- Items of arrays. -/
def arrays : Collector Json where
  left := '['
  right := ']'
  opens := .openArray
  closes := .closeArray
  build := .array
  Ready stack done state := ∃ place, Place.TakesValue place ∧ state = (.items done :: stack, place)
  taken stack done j := (.items done :: stack, .after j)
  mark_left := rfl
  mark_right := rfl
  start _ := ⟨_, rfl, ⟨.firstItem, .firstItem, rfl⟩, rfl⟩
  comma _ _ _ := ⟨_, rfl, .value, .value, rfl⟩
  close _ _ _ := rfl

/-- Fields of objects. -/
def objects : Collector (String × Json) where
  left := Char.ofNat 0x7B
  right := Char.ofNat 0x7D
  opens := .openObject
  closes := .closeObject
  build := .object
  Ready stack done state :=
    state = (stack, .name done) ∨ state = (stack, .firstName) ∧ done = []
  taken stack done field := (.fields done field.1 :: stack, .after field.2)
  mark_left := rfl
  mark_right := rfl
  start _ := ⟨_, rfl, .inr ⟨rfl, rfl⟩, rfl⟩
  comma _ _ _ := ⟨_, rfl, .inl rfl⟩
  close _ _ _ := rfl

theorem Reads.item {cs : List Char} {j : Json} (h : Reads cs j) : arrays.Takes cs j := by
  rintro stack done state ⟨place, hplace, rfl⟩ rest hrest
  exact h hplace hrest

/-- An entry of an object is a name, a colon and a value. -/
theorem Reads.field {cs : List Char} {j : Json} (h : Reads cs j) (name : String) :
    objects.Takes (stringChars name ++ ':' :: ' ' :: cs) (name, j) := by
  intro stack done state hready rest hrest
  have hname : step state (.string name) = some (.fields done name :: stack, .colon) := by
    rcases hready with rfl | ⟨rfl, rfl⟩
    · rfl
    · rfl
  have hblank : ∀ c ∈ [' '], isWhite c = true := List.forall_mem_singleton.mpr rfl
  rw [List.append_assoc, readFrom_string, hname, Option.bind_some]
  calc readFrom (.fields done name :: stack, .colon) (':' :: ([' '] ++ (cs ++ rest)))
      = readFrom (.fields done name :: stack, .value) ([' '] ++ (cs ++ rest)) :=
        readFrom_mark (show mark? ':' = some .colon from rfl) _ _
    _ = readFrom (.fields done name :: stack, .value) (cs ++ rest) := readFrom_white hblank _ _
    _ = readFrom (.fields done name :: stack, .after j) rest := h .value hrest

end Reader

/-! ## 6. Documents -/

/-- A fractional number stands somewhere in a document. -/
inductive HoldsFloat : Json → Prop
  | here (x : Binary64) : HoldsFloat (.float x)
  | item {items : List Json} {j : Json} (hmem : j ∈ items) (h : HoldsFloat j) :
      HoldsFloat (.array items)
  | field {fields : List (String × Json)} {name : String} {j : Json} (hmem : (name, j) ∈ fields)
      (h : HoldsFloat j) : HoldsFloat (.object fields)

@[simp] theorem not_holdsFloat_null : ¬ HoldsFloat .null := nofun

@[simp] theorem not_holdsFloat_bool (b : Bool) : ¬ HoldsFloat (.bool b) := nofun

@[simp] theorem not_holdsFloat_int (n : Int) : ¬ HoldsFloat (.int n) := nofun

@[simp] theorem not_holdsFloat_string (s : String) : ¬ HoldsFloat (.string s) := nofun

/-- A float in a list is a float in one of its items. -/
@[simp] theorem holdsFloat_array {items : List Json} :
    HoldsFloat (.array items) ↔ ∃ j ∈ items, j.HoldsFloat := by
  constructor
  · rintro (_ | ⟨hmem, h⟩)
    exact ⟨_, hmem, h⟩
  · rintro ⟨j, hmem, h⟩
    exact .item hmem h

/-- And one in an object is a float in one of its values, since names are strings. -/
@[simp] theorem holdsFloat_object {fields : List (String × Json)} :
    HoldsFloat (.object fields) ↔ ∃ e ∈ fields, e.2.HoldsFloat := by
  constructor
  · rintro (_ | _ | ⟨hmem, h⟩)
    exact ⟨_, hmem, h⟩
  · rintro ⟨e, hmem, h⟩
    exact .field hmem h

namespace Reader

mutual

/-- **Values are read back**, in any layout and at any depth. The induction is on the value, and
takes its items and entries along in the two theorems that follow. -/
theorem reads_chars (l : Layout) (level : Nat) :
    (j : Json) → ¬ j.HoldsFloat → Reads (j.chars l level) j
  | .null, _ => by
    rw [chars]
    exact reads_word rfl (List.all_eq_true.mp rfl) (by decide)
  | .bool true, _ => by
    rw [chars]
    exact reads_word rfl (List.all_eq_true.mp rfl) (by decide)
  | .bool false, _ => by
    rw [chars]
    exact reads_word rfl (List.all_eq_true.mp rfl) (by decide)
  | .int n, _ => by
    have hword : word? (toString n).toList = some (.int n) := by
      rw [word?, number?_int, Option.some_or]
    rw [chars]
    exact reads_word hword (isWordChar_int n) (intText_ne_nil n)
  | .float x, h => absurd (.here x) h
  | .string s, _ => by
    rw [chars]
    exact reads_string s
  | .array items, h => by
    rw [chars]
    exact arrays.reads_enclose l level
      (takes_itemChars l (level + 1) items fun j hmem hj => h (.item hmem hj))
  | .object fields, h => by
    rw [chars]
    exact objects.reads_enclose l level
      (takes_fieldChars l (level + 1) fields fun name j hmem hj => h (.field hmem hj))

/-- The items of an array are read one by one. -/
theorem takes_itemChars (l : Layout) (level : Nat) :
    (items : List Json) → (∀ j ∈ items, ¬ j.HoldsFloat) →
      List.Forall₂ arrays.Takes (itemChars l level items) items
  | [], _ => .nil
  | j :: rest, h => by
    rw [itemChars]
    exact .cons (reads_chars l level j (h j List.mem_cons_self)).item
      (takes_itemChars l level rest fun i hmem => h i (List.mem_cons_of_mem j hmem))

/-- The entries of an object are read one by one. -/
theorem takes_fieldChars (l : Layout) (level : Nat) :
    (fields : List (String × Json)) → (∀ name j, (name, j) ∈ fields → ¬ j.HoldsFloat) →
      List.Forall₂ objects.Takes (fieldChars l level fields) fields
  | [], _ => .nil
  | (name, j) :: rest, h => by
    rw [fieldChars]
    exact .cons ((reads_chars l level j (h name j List.mem_cons_self)).field name)
      (takes_fieldChars l level rest fun name i hmem => h name i (List.mem_cons_of_mem _ hmem))

end

end Reader

/-- **A document without fractional numbers is what its text stands for**, at any indent. -/
theorem ofText?_render {j : Json} (h : ¬ j.HoldsFloat) (indent : Option Int) :
    ofText? (j.render indent) = some j := by
  have hend : Reader.Stops [] := fun c hc => nomatch hc
  have hread : Reader.readFrom ([], .value) (j.chars ⟨indent⟩ 0 ++ []) = some ([], .after j) := by
    rw [Reader.reads_chars ⟨indent⟩ 0 j h .value hend, Reader.readFrom_nil]
  unfold ofText? render
  rw [String.toList_ofList, ← List.append_nil (j.chars ⟨indent⟩ 0), hread]

end Conformance.Json
