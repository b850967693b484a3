import Conformance.Terminal.Printer
import Mathlib.Algebra.GroupWithZero.Nat
import Mathlib.Data.List.Basic
import Mathlib.Data.List.TakeWhile

/-!
# Tables of even texts on a plain screen

The printer for plain screens breaks the cells of a table into lines, trims them, cuts them off and
fills them up, all by the width that their text takes. Nothing of this shows if the texts are even
(`Display.IsEven`): no character is wider than one column, none changes the width of another, and
none ends a line. A column is as wide as its widest text, so no text is broken and none is cut off.
Each cell is its text with blanks up to the width of its column, and a row is one line.

White space at the end of a text is a case of its own. What sticks out of the column is dropped
there, counted in characters and not in columns, so that a text with characters of no width can lose
white space that has a width. Afterwards the line is filled up with blanks. That restores what was
dropped if it was blanks, and for this reason even texts with characters of no width have no other
white space.
-/

set_option autoImplicit false

namespace Conformance

/-! ## 1. Widths -/

namespace Text

/-- A character that takes at most one column and does not change the width of those around it. -/
structure IsNarrow (c : Char) : Prop where
  width : charWidth c ≤ 1
  joiner : c ≠ joiner
  selector : c ≠ emojiSelector

instance (c : Char) : Decidable (IsNarrow c) :=
  decidable_of_iff (charWidth c ≤ 1 ∧ c ≠ joiner ∧ c ≠ emojiSelector)
    ⟨fun h => ⟨h.1, h.2.1, h.2.2⟩, fun h => ⟨h.width, h.joiner, h.selector⟩⟩

variable {cs ds : List Char}

/-- Among narrow characters no character depends on the one before it. -/
theorem widthAfter_eq_sum (last : Option Char) (h : ∀ c ∈ cs, IsNarrow c) :
    widthAfter last cs = (cs.map charWidth).sum := by
  induction cs generalizing last with
  | nil => rfl
  | cons c rest ih =>
    obtain ⟨hc, hrest⟩ := List.forall_mem_cons.mp h
    rw [List.map_cons, List.sum_cons]
    cases rest with
    | nil =>
      rw [widthAfter, if_neg hc.joiner, if_neg hc.selector]
      simp
    | cons next rest =>
      rw [widthAfter, if_neg hc.joiner, if_neg hc.selector, ih _ hrest]

/-- The width of narrow characters is the sum of their widths. -/
theorem width_eq_sum (h : ∀ c ∈ cs, IsNarrow c) : width cs = (cs.map charWidth).sum :=
  widthAfter_eq_sum none h

theorem width_append (hcs : ∀ c ∈ cs, IsNarrow c) (hds : ∀ c ∈ ds, IsNarrow c) :
    width (cs ++ ds) = width cs + width ds := by
  rw [width_eq_sum hcs, width_eq_sum hds, width_eq_sum (List.forall_mem_append.mpr ⟨hcs, hds⟩),
    List.map_append, List.sum_append]

theorem width_flatten {parts : List (List Char)} (h : ∀ part ∈ parts, ∀ c ∈ part, IsNarrow c) :
    width parts.flatten = (parts.map width).sum := by
  induction parts with
  | nil => rfl
  | cons part rest ih =>
    obtain ⟨hpart, hrest⟩ := List.forall_mem_cons.mp h
    have hflatten : ∀ c ∈ rest.flatten, IsNarrow c := by
      intro c hc
      obtain ⟨other, hother, hc⟩ := List.mem_flatten.mp hc
      exact hrest other hother c hc
    rw [List.flatten_cons, width_append hpart hflatten, ih hrest, List.map_cons, List.sum_cons]

theorem width_le_of_sublist (hds : ∀ c ∈ ds, IsNarrow c) (h : cs.Sublist ds) :
    width cs ≤ width ds := by
  rw [width_eq_sum hds, width_eq_sum fun c hc => hds c (h.subset hc)]
  induction h with
  | slnil => exact Nat.le_refl _
  | cons c _ ih =>
    have hle := ih (List.forall_mem_cons.mp hds).2
    rw [List.map_cons, List.sum_cons]
    omega
  | cons_cons c _ ih =>
    have hle := ih (List.forall_mem_cons.mp hds).2
    rw [List.map_cons, List.sum_cons, List.map_cons, List.sum_cons]
    omega

theorem isNarrow_blanks (n : Nat) : ∀ c ∈ List.replicate n ' ', IsNarrow c := by
  intro c hc
  rw [List.eq_of_mem_replicate hc]
  decide +kernel

theorem width_blanks (n : Nat) : width (List.replicate n ' ') = n := by
  have hone : charWidth ' ' = 1 := by decide +kernel
  rw [width_eq_sum (isNarrow_blanks n), List.map_replicate, hone, List.sum_replicate_nat,
    Nat.mul_one]

end Text

theorem Display.width_eq_sum (d : Display) (cs : List Char) :
    d.width cs = (cs.map d.columns).sum := by
  unfold Display.width
  rw [List.sum_eq_foldr, List.foldr_map]

namespace Cell

open Markup (Shown)

variable {cs ds : List Char} {columns : Nat}

theorem isNarrow_of_isEven (h : Display.plain.IsEven cs) : ∀ c ∈ cs, Text.IsNarrow c :=
  fun c hc => ⟨h.narrow c hc, (h.unjoined c hc).1, (h.unjoined c hc).2⟩

/-- An even text takes the sum of the columns of its characters. -/
theorem width_of_isEven (h : Display.plain.IsEven cs) : Text.width cs = Display.plain.width cs := by
  rw [Text.width_eq_sum (isNarrow_of_isEven h), Display.width_eq_sum]
  rfl

/-! ## 2. Breaking lines -/

theorem parts_of_unbroken (h : ∀ c ∈ cs, Text.isLineBreak c = false) :
    Text.parts Text.isLineBreak cs = [cs] := by
  induction cs with
  | nil => rfl
  | cons c rest ih =>
    obtain ⟨hc, hrest⟩ := List.forall_mem_cons.mp h
    rw [Text.parts, if_neg (by simp [hc]), ih hrest]

/-- A text that ends no line asks for its own width. -/
theorem width_of_unbroken {cell : Shown} (h : ∀ c ∈ cell.chars, Text.isLineBreak c = false) :
    width cell = Text.width cell.chars := by
  unfold width
  rw [parts_of_unbroken h, List.foldl_cons, List.foldl_nil, Nat.zero_max]

/-- The words are made of the text, in order, so cutting a text into words changes no width. -/
theorem flatten_words_sublist (word : List Char) (isStarted isEnded : Bool) (cs : List Char) :
    (words word isStarted isEnded cs).flatten.Sublist (word.reverse ++ cs) := by
  fun_induction words word isStarted isEnded cs with
  | case1 => simp
  | case2 => simp
  | case3 word isStarted isEnded c rest hblank ih => simpa using ih
  | case4 word isStarted c rest hblank ih => simpa using ih.append_left word.reverse
  | case5 word isStarted isEnded c rest hblank hended ih => simpa using ih

/-- Words that fit into the columns together are on one line. -/
theorem lineLengths_of_fit {used length : Nat} {words : List (List Char)}
    (hnarrow : ∀ word ∈ words, ∀ c ∈ word, Text.IsNarrow c)
    (hfit : used + (words.map Text.width).sum ≤ columns) :
    ∃ n, lineLengths columns used length words = [n] := by
  induction words generalizing used length with
  | nil => exact ⟨length, rfl⟩
  | cons word rest ih =>
    obtain ⟨hword, hrest⟩ := List.forall_mem_cons.mp hnarrow
    rw [List.map_cons, List.sum_cons] at hfit
    have hbody : Text.width (word.reverse.dropWhile Text.isBlank).reverse ≤ Text.width word := by
      refine Text.width_le_of_sublist hword ?_
      have hsub := List.reverse_sublist.mpr
        (List.dropWhile_sublist Text.isBlank (l := word.reverse))
      rwa [List.reverse_reverse] at hsub
    rw [lineLengths, if_pos (by omega)]
    exact ih hrest (by omega)

/-- **One line.** A text that fits into the columns is not broken. -/
theorem cut_of_fit {stretches : List (List Char)} {cs : List Char}
    (hnarrow : ∀ c ∈ cs, Text.IsNarrow c) (hfit : Text.width cs ≤ columns) :
    cut (lineLengths columns 0 0 (words [] false false cs)) stretches = [stretches] := by
  have hsub := flatten_words_sublist [] false false cs
  rw [List.reverse_nil, List.nil_append] at hsub
  have hwords : ∀ word ∈ words [] false false cs, ∀ c ∈ word, Text.IsNarrow c :=
    fun word hword c hc => hnarrow c (hsub.subset (List.mem_flatten.mpr ⟨word, hword, hc⟩))
  have hsum := Text.width_flatten hwords
  have hle := Text.width_le_of_sublist hnarrow hsub
  obtain ⟨n, hn⟩ := @lineLengths_of_fit columns 0 0 _ hwords (by omega)
  rw [hn, cut]
  simp

/-! ## 3. Filling lines -/

/-- The last characters, if there are as many of them that are white space. -/
theorem isBlank_of_mem_drop {cs : List Char} {n : Nat}
    (hn : n ≤ (cs.reverse.takeWhile Text.isBlank).length) :
    ∀ c ∈ cs.drop (cs.length - n), Text.isBlank c = true := by
  intro c hc
  have htake : cs.reverse.take n = (cs.reverse.takeWhile Text.isBlank).take n := by
    conv_lhs => rw [← List.takeWhile_append_dropWhile (p := Text.isBlank) (l := cs.reverse)]
    exact List.take_append_of_le_length hn
  have hmem : c ∈ cs.reverse.take n := by
    rw [List.take_reverse]
    exact List.mem_reverse.mpr hc
  rw [htake] at hmem
  exact List.mem_takeWhile_imp (List.mem_of_mem_take hmem)

/-- What an even text loses at its end are blanks. -/
theorem eq_append_blanks {line : List (List Char)} (heven : Display.plain.IsEven line.flatten)
    (hfit : Text.width line.flatten ≤ columns) :
    ∃ n, line.flatten = (withoutOverhang columns line).flatten ++ List.replicate n ' ' := by
  unfold withoutOverhang
  rw [flatten_take]
  generalize line.flatten = cs at heven hfit
  rcases heven.blanks with hone | hblank
  · -- every character takes a column, so that nothing sticks out
    have hwidth : Text.width cs = cs.length := by
      rw [width_of_isEven heven, Display.width_eq_sum, List.map_congr_left hone, List.map_const',
        List.sum_replicate_nat, Nat.mul_one]
    refine ⟨0, ?_⟩
    rw [show cs.length - columns = 0 by omega, Nat.min_zero, Nat.sub_zero, List.take_length]
    simp
  · generalize hn : min (cs.reverse.takeWhile Text.isBlank).length (cs.length - columns) = n
    have hle : n ≤ (cs.reverse.takeWhile Text.isBlank).length := by omega
    have hlength : (cs.drop (cs.length - n)).length = n := by
      rw [List.length_drop]
      omega
    have hdrop : cs.drop (cs.length - n) = List.replicate n ' ' := by
      refine List.eq_replicate_iff.mpr ⟨hlength, fun c hc => ?_⟩
      exact hblank c (List.mem_of_mem_drop hc) (isBlank_of_mem_drop hle c hc)
    refine ⟨n, ?_⟩
    rw [← hdrop, List.take_append_drop]

theorem flatten_padded (columns : Nat) (line : List (List Char)) :
    (padded columns line).flatten =
      line.flatten ++ List.replicate (columns - Text.width line.flatten) ' ' := by
  unfold padded
  cases hreverse : line.reverse with
  | nil =>
    rw [List.reverse_eq_nil_iff.mp hreverse]
    simp
  | cons last before =>
    have hline : line = before.reverse ++ [last] := by
      rw [← List.reverse_reverse line, hreverse, List.reverse_cons]
    rw [hline]
    simp

/-- A line that fits is filled up and not cut. -/
theorem fill_of_fit {room : Nat} {line : List (List Char)}
    (hnarrow : ∀ c ∈ line.flatten, Text.IsNarrow c) (hfit : Text.width line.flatten ≤ room) :
    fill room line = line.flatten ++ List.replicate (room - Text.width line.flatten) ' ' := by
  induction line generalizing room with
  | nil => simp [fill, Text.width, Text.widthAfter]
  | cons stretch rest ih =>
    rw [List.flatten_cons, List.forall_mem_append] at hnarrow
    rw [List.flatten_cons, Text.width_append hnarrow.1 hnarrow.2] at hfit ⊢
    rw [fill, if_pos (by omega), ih hnarrow.2 (by omega), List.append_assoc, Nat.sub_sub]

/-- A line that fits is filled up to the columns. -/
theorem fill_padded {line : List (List Char)} (hnarrow : ∀ c ∈ line.flatten, Text.IsNarrow c)
    (hfit : Text.width line.flatten ≤ columns) : fill columns (padded columns line) =
      line.flatten ++ List.replicate (columns - Text.width line.flatten) ' ' := by
  have hflatten := flatten_padded columns line
  have hpadded : ∀ c ∈ (padded columns line).flatten, Text.IsNarrow c := by
    rw [hflatten]
    exact List.forall_mem_append.mpr ⟨hnarrow, Text.isNarrow_blanks _⟩
  have hwidth : Text.width (padded columns line).flatten = columns := by
    rw [hflatten, Text.width_append hnarrow (Text.isNarrow_blanks _), Text.width_blanks]
    omega
  rw [fill_of_fit hpadded (by omega), hwidth, Nat.sub_self, List.replicate_zero, List.append_nil,
    hflatten]

/-- **A cell.** An even text that fits into its column is the only line of its cell. -/
theorem lines_of_even {cell : Shown} (heven : Display.plain.IsEven cell.chars)
    (hfit : Text.width cell.chars ≤ columns) :
    lines columns cell = [Display.plain.spaced columns cell.chars] := by
  obtain ⟨n, hn⟩ := eq_append_blanks heven hfit
  have hchars : cell.chars = (withoutOverhang columns cell.stretches).flatten ++
      List.replicate n ' ' := hn
  unfold lines
  rw [cut_of_fit (isNarrow_of_isEven heven) hfit, List.map_singleton]
  generalize withoutOverhang columns cell.stretches = kept at hchars
  have hkept : ∀ c ∈ kept.flatten, Text.IsNarrow c :=
    fun c hc => isNarrow_of_isEven heven c (hchars ▸ List.mem_append_left _ hc)
  have hwidth : Text.width cell.chars = Text.width kept.flatten + n := by
    rw [hchars, Text.width_append hkept (Text.isNarrow_blanks n), Text.width_blanks]
  -- the blanks that were dropped are filled up again
  have hfilled : fill columns (padded columns kept) =
      cell.chars ++ List.replicate (columns - Text.width cell.chars) ' ' := by
    rw [fill_padded hkept (by omega), hwidth, hchars, List.append_assoc,
      List.replicate_append_replicate]
    congr 2
    omega
  unfold truncated Display.spaced
  rw [if_pos (by omega), ← width_of_isEven heven]
  dsimp only
  rw [hfilled]

end Cell

/-! ## 4. Tables -/

namespace Terminal

open Markup (Shown)

/-- A column with only even texts, one for each row. -/
structure IsEvenColumn (height : Nat) (cells : List Shown) : Prop where
  even : ∀ cell ∈ cells, Display.plain.IsEven cell.chars
  length : cells.length = height

/-- A maximum by a pass over items is above the start and all items. -/
theorem le_foldl_max {α : Type} (size : α → Nat) (items : List α) (start : Nat) :
    start ≤ items.foldl (fun n item => max n (size item)) start ∧
      ∀ item ∈ items, size item ≤ items.foldl (fun n item => max n (size item)) start := by
  induction items generalizing start with
  | nil => exact ⟨Nat.le_refl _, fun _ h => absurd h List.not_mem_nil⟩
  | cons first rest ih =>
    obtain ⟨hstart, hrest⟩ := ih (max start (size first))
    rw [List.foldl_cons, List.forall_mem_cons]
    exact ⟨by omega, by omega, hrest⟩

/-- The maximum over items of one size. -/
theorem foldl_max_of_forall {α : Type} {size : α → Nat} {k : Nat} {items : List α}
    (hsome : items ≠ []) (h : ∀ item ∈ items, size item = k) :
    items.foldl (fun n item => max n (size item)) 0 = k := by
  obtain ⟨first, rest, rfl⟩ := List.exists_cons_of_ne_nil hsome
  obtain ⟨hfirst, hrest⟩ := List.forall_mem_cons.mp h
  rw [List.foldl_cons, hfirst, Nat.zero_max]
  clear hsome h
  induction rest with
  | nil => rfl
  | cons next rest ih =>
    obtain ⟨hnext, hrest⟩ := List.forall_mem_cons.mp hrest
    rw [List.foldl_cons, hnext, Nat.max_self, ih hrest]

theorem width_le_columnWidth {texts : List (List Char)} {cs : List Char} (h : cs ∈ texts) :
    Display.plain.width cs ≤ Display.plain.columnWidth texts :=
  (le_foldl_max Display.plain.width texts 0).2 cs h

/-- **A column** of even texts: one line for each cell, all of one width. -/
theorem columnLines_of_even {height : Nat} {cells : List Shown} (h : IsEvenColumn height cells) :
    columnLines cells = ((cells.map fun cell =>
        [Display.plain.spaced (Display.plain.columnWidth (cells.map Shown.chars))
          cell.chars]).toArray,
      Cell.emptyLine (Display.plain.columnWidth (cells.map Shown.chars))) := by
  have hwidth : cells.foldl (fun w cell => max w (Cell.width cell)) 0 =
      Display.plain.columnWidth (cells.map Shown.chars) := by
    unfold Display.columnWidth
    rw [List.foldl_map]
    exact List.foldl_ext _ _ 0 fun w cell hcell => by
      rw [Cell.width_of_unbroken fun c hc => ((h.even cell hcell).unbroken c hc).1,
        Cell.width_of_isEven (h.even cell hcell)]
  unfold columnLines
  dsimp only
  rw [hwidth]
  refine Prod.ext (congrArg List.toArray (List.map_congr_left fun cell hcell => ?_)) rfl
  refine Cell.lines_of_even (h.even cell hcell) ?_
  rw [Cell.width_of_isEven (h.even cell hcell)]
  exact width_le_columnWidth (List.mem_map_of_mem hcell)

/-- Cells of one line make a row of one line. -/
theorem rowLines_single {α : Type} {columns : List α} (hsome : columns ≠ [])
    (line empty : α → String) :
    rowLines (columns.map fun column => ([line column], empty column)) =
      [String.join (columns.map line)] := by
  unfold rowLines
  rw [List.foldl_map]
  dsimp only [List.length_singleton]
  rw [foldl_max_of_forall (k := 1) hsome fun _ _ => rfl]
  simp [List.map_map, Function.comp_def]

/-- **A table** of even texts has one line for each row. -/
theorem tableLines_of_even {height : Nat} {columns : List (List Shown)} (hsome : columns ≠ [])
    (heven : ∀ cells ∈ columns, IsEvenColumn height cells) :
    tableLines height columns =
      (List.range height).map (Display.plain.rowText (columns.map (·.map Shown.chars))) := by
  have hrow : ∀ i ∈ List.range height,
      rowLines ((columns.map columnLines).map fun column => ((column.1[i]?).getD [], column.2)) =
        [Display.plain.rowText (columns.map (·.map Shown.chars)) i] := by
    intro i hi
    -- every cell of an even column fits on one line, so a row is one line too
    have hcolumn : ∀ cells ∈ columns, (((columnLines cells).1[i]?).getD [], (columnLines cells).2) =
        ([Display.plain.spaced (Display.plain.columnWidth (cells.map Shown.chars))
            ((cells.map Shown.chars).getD i [])],
          Cell.emptyLine (Display.plain.columnWidth (cells.map Shown.chars))) := by
      intro cells hcells
      have hlt : i < cells.length := by
        rw [(heven cells hcells).length]
        exact List.mem_range.mp hi
      rw [columnLines_of_even (heven cells hcells)]
      simp [hlt]
    rw [List.map_map]
    unfold Display.rowText
    rw [List.map_map, ← rowLines_single hsome]
    exact congrArg rowLines (List.map_congr_left hcolumn)
  unfold tableLines
  dsimp only
  rw [List.flatMap_def, List.map_congr_left hrow, ← List.flatMap_def]
  exact List.map_eq_flatMap.symm

end Terminal

end Conformance
