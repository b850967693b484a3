import Conformance.Output.Console
import Conformance.Proofs.Terminal
import Mathlib.Algebra.Order.BigOperators.Group.List
import Mathlib.Algebra.Order.Ring.Nat

/-!
# How a group of findings is printed

A console report has a group for each path or rule: a line with the key in bold and the number of
findings, and a table. All of it goes through markup. There are two ways to lay out a group
(`Console.Rendering`), with every text as it is and with what markup shows of it. For every printer
that has the laws of `Conformance.Output.Printer`, what is printed is the second one, if anything is
(`groupText_of_shown`). For plain texts the two are the same (`groupText_of_isPlainGroup`).

For the converse the two layouts are compared. Both have the same lines and cells, but columns may
differ in their widths, and characters that one text loses might turn up in another. So layouts are
weighed (`Markup.weigh`). Blanks weigh nothing, so the weight of a group is that of its texts and of
what is the same in both. What a text shows is at most as heavy as the text, and lighter if it is
not plain. Layouts of the same weight therefore have plain texts only (`weigh_groupText_le`).
-/

set_option autoImplicit false

namespace Conformance

open Markup (IsPlain IsPlainKey Shows bare styled weigh)

/-! ## 1. Texts on a screen -/

namespace Display

variable {d : Display} {text : String} {cs ds : List Char}

instance (d : Display) (cs : List Char) : Decidable (d.IsEven cs) :=
  decidable_of_iff
    ((∀ c ∈ cs, d.columns c ≤ 1) ∧ (∀ c ∈ cs, c ≠ Text.joiner ∧ c ≠ Text.emojiSelector) ∧
      (∀ c ∈ cs, Text.isLineBreak c = false ∧ c ≠ '\t') ∧
      ((∀ c ∈ cs, d.columns c = 1) ∨ ∀ c ∈ cs, Text.isBlank c = true → c = ' '))
    ⟨fun h => ⟨h.1, h.2.1, h.2.2.1, h.2.2.2⟩,
      fun h => ⟨h.narrow, h.unjoined, h.unbroken, h.blanks⟩⟩

theorem IsEven.sublist (h : d.IsEven ds) (hsub : cs.Sublist ds) : d.IsEven cs where
  narrow := fun c hc => h.narrow c (hsub.subset hc)
  unjoined := fun c hc => h.unjoined c (hsub.subset hc)
  unbroken := fun c hc => h.unbroken c (hsub.subset hc)
  blanks := h.blanks.imp (fun hone c hc => hone c (hsub.subset hc))
    fun hblank c hc => hblank c (hsub.subset hc)

/-- Characters of ASCII are as even as can be: no joiner, no selector and no line break is among
them. -/
theorem isEven_ascii_facts : ∀ c, Text.IsAscii c → (c ≠ Text.joiner ∧ c ≠ Text.emojiSelector) ∧
    (Text.isLineBreak c = false ∧ c ≠ '\t') ∧ (Text.isBlank c = true → c = ' ') :=
  Text.forall_isAscii (by decide +kernel)

/-- An even text stays even with characters of ASCII between those that are left of it. -/
theorem IsEven.of_ascii (hd : d.Documented) (hds : d.IsEven ds)
    (h : ∀ c ∈ cs, c ∈ ds ∨ Text.IsAscii c) : d.IsEven cs where
  narrow := fun c hc => (h c hc).elim (hds.narrow c) fun hc => (hd.columns_ascii c hc).le
  unjoined := fun c hc => (h c hc).elim (hds.unjoined c) fun hc => (isEven_ascii_facts c hc).1
  unbroken := fun c hc => (h c hc).elim (hds.unbroken c) fun hc => (isEven_ascii_facts c hc).2.1
  blanks := hds.blanks.imp
    (fun hone c hc => (h c hc).elim (hone c) (hd.columns_ascii c))
    fun hblank c hc => (h c hc).elim (hblank c) fun hc => (isEven_ascii_facts c hc).2.2

theorem isEven_nil : d.IsEven [] := by
  constructor <;> simp

/-- Where no colon is there is no emoji code. -/
theorem noEmoji_of_notMem (h : ':' ∉ text.toList) : d.NoEmoji text := by
  intro name _ hbefore
  exact h (hbefore.subset (by simp))

/-- What begins with a character stands behind a text without it. -/
theorem infix_of_notMem {c : Char} {code front : List Char} (hfront : c ∉ front)
    (h : c :: code <:+: front ++ cs) : c :: code <:+: cs := by
  induction front with
  | nil => exact h
  | cons first rest ih =>
    rcases List.infix_cons_iff.mp h with hstart | hbefore
    · exact absurd (List.cons_prefix_cons.mp hstart).1 (fun heq => hfront (by simp [heq]))
    · exact ih (fun hc => hfront (List.mem_cons_of_mem _ hc)) hbefore

/-- An emoji code stands within a text if there are no colons around the text. -/
theorem NoEmoji.append (h : d.NoEmoji text) (front back : String) {whole : String}
    (hfront : ':' ∉ front.toList) (hback : ':' ∉ back.toList)
    (hwhole : whole.toList = front.toList ++ text.toList ++ back.toList) : d.NoEmoji whole := by
  intro name hname hbefore
  refine h name hname ?_
  rw [hwhole, List.append_assoc] at hbefore
  have hcode : (":" ++ name ++ ":").toList = ':' :: (name.toList ++ [':']) := by
    simp [String.toList_append]
  rw [hcode] at hbefore ⊢
  have hbehind := infix_of_notMem hfront hbefore
  -- the same from the other end
  rw [← List.reverse_infix] at hbehind ⊢
  rw [List.reverse_append] at hbehind
  simp only [List.reverse_cons, List.reverse_append, List.reverse_nil, List.nil_append,
    List.cons_append] at hbehind ⊢
  exact infix_of_notMem (by simpa using hback) hbehind

end Display

/-- **What is shown** of a text in which every style is closed again. -/
theorem Display.Documented.shown_of_shows {d : Display} (hd : d.Documented) {text : String}
    (hemoji : d.NoEmoji text) (h : Shows text.toList) : d.shown text = .ok (bare text) := by
  obtain ⟨cs, hcs⟩ := hd.exists_shown (h [])
  rw [hcs, hd.shown_eq hemoji hcs]

/-! ## 2. Layouts -/

namespace Console

/-- What stands after the key of a group: the number of its findings. -/
def countText (n : Nat) : String := " (" ++ toString n ++ ")"

/-- How the texts of a report are put into its output: the key of a group together with the number
of its findings, and a cell, given by what it says and how this is marked up. -/
structure Rendering where
  key : String → Nat → List Char
  cell : String × String → List Char

namespace Rendering

/-- Every text as it is. -/
def verbatim : Rendering where
  key key n := key.toList ++ (countText n).toList
  cell cell := cell.1.toList

/-- Every text as markup shows it. -/
def marked : Rendering where
  key key n := bare (styled "bold" key ++ countText n)
  cell cell := bare cell.2

end Rendering

/-- The cells of a table, column by column and from top to bottom. -/
def cells (grouping : Grouping) (findings : List Finding) : List (List (String × String)) :=
  (columns grouping).map fun column =>
    (if (headingStyle grouping).isSome then [(column.heading, column.heading)] else []) ++
      findings.map fun f => (column.text f, column.cell f)

/-- The number of rows of a table. -/
def tableHeight (grouping : Grouping) (findings : List Finding) : Nat :=
  findings.length + if (headingStyle grouping).isSome then 1 else 0

/-- The texts of a table, column by column. -/
def Rendering.table (rendering : Rendering) (grouping : Grouping) (findings : List Finding) :
    List (List (List Char)) :=
  (cells grouping findings).map (·.map rendering.cell)

/-- A group: its key on a line, its table, and an empty line. -/
def Rendering.groupText (rendering : Rendering) (d : Display) (grouping : Grouping)
    (group : String × List Finding) : String :=
  String.ofList (rendering.key group.1 group.2.length) ++ "\n" ++
    d.tableText (tableHeight grouping group.2) (rendering.table grouping group.2) ++ "\n"

variable {p : Printer} {d : Display} {screen : Screen} {grouping : Grouping}
  {group : String × List Finding} {findings : List Finding} {cell : String × String}

/-! ### Numbers and severities -/

/-- Digits are ASCII and have no meaning in markup. -/
theorem facts_of_isDigit {c : Char} (h : c.isDigit = true) :
    Markup.IsInert c ∧ Text.IsAscii c ∧ c ≠ ':' := by
  have hcode : 48 ≤ c.toNat ∧ c.toNat ≤ 57 := by
    unfold Char.isDigit at h
    rw [Bool.and_eq_true, decide_eq_true_eq, decide_eq_true_eq] at h
    exact ⟨h.1, h.2⟩
  unfold Text.IsAscii
  refine ⟨⟨?_, ?_, ?_⟩, ⟨by omega, by omega⟩, ?_⟩
  · rintro rfl
    exact absurd h (by decide)
  · rintro rfl
    exact absurd h (by decide)
  · unfold Markup.isDropped
    simp
    omega
  · rintro rfl
    exact absurd h (by decide)

theorem isDigit_of_mem_toString {n : Nat} {c : Char} (h : c ∈ (toString n).toList) :
    c.isDigit = true := by
  have hdigits : (toString n).toList = Nat.toDigits 10 n := Nat.toList_repr
  rw [hdigits] at h
  exact Nat.isDigit_of_mem_toDigits (by decide) (by decide) h

theorem isInert_label (severity : Severity) : ∀ c ∈ severity.label.toList, Markup.IsInert c := by
  cases severity <;> decide

/-- A severity is shown in a style that is switched on elsewhere too, so one lemma on styles does
for all. -/
theorem style_mem (severity : Severity) : severity.style ∈ Markup.styles := by
  cases severity <;> decide

/-! ### Cells -/

/-- What stands in the tables of a report: texts as they are, and severities in their styles. -/
inductive IsCell : String × String → Prop
  | text (text : String) : IsCell (text, text)
  | severity (severity : Severity) : IsCell (severity.label, styled severity.style severity.label)

/-- Whatever a column says of a finding, it marks up in one of two ways. -/
theorem isCell_column {column : Column} (h : column ∈ columns grouping) (f : Finding) :
    IsCell (column.text f, column.cell f) := by
  have hall : ∀ column ∈ columns grouping, IsCell (column.text f, column.cell f) := by
    -- only the first column marks up what it says
    rcases grouping with (_ | _) | _ <;>
    · simp only [columns, severityColumn, if_true, if_false, Bool.false_eq_true, List.cons_append,
        List.nil_append, List.append_nil, List.forall_mem_cons]
      exact ⟨.severity _, by simp [IsCell.text]⟩
  exact hall column h

theorem isCell_of_mem {column : List (String × String)} (hcolumn : column ∈ cells grouping findings)
    (hcell : cell ∈ column) : IsCell cell := by
  obtain ⟨column, hmem, rfl⟩ := List.mem_map.mp hcolumn
  rcases List.mem_append.mp hcell with hcell | hcell
  · split at hcell
    · rw [List.mem_singleton.mp hcell]
      exact .text _
    · exact absurd hcell List.not_mem_nil
  · obtain ⟨f, -, rfl⟩ := List.mem_map.mp hcell
    exact isCell_column hmem f

theorem isPlainKey_label (severity : Severity) : IsPlainKey severity.label.toList :=
  Markup.isPlainKey_of_inert (isInert_label severity)

theorem bare_severity (severity : Severity) :
    bare (styled severity.style severity.label) = severity.label.toList := by
  have happend : bare (styled severity.style severity.label ++ "") = _ :=
    Markup.bare_styled_append (style_mem severity) (isPlainKey_label severity)
  have hempty : bare "" = [] :=
    Markup.bare_eq_toList_iff.mpr (Markup.isPlain_of_forall (by simp))
  rwa [String.append_empty, hempty, List.append_nil] at happend

theorem colon_notMem_severity (severity : Severity) :
    ':' ∉ (styled severity.style severity.label).toList := by
  cases severity <;> decide

namespace IsCell

/-- A cell shows no more than it says, so a table that has room for what is said has room for what
is shown. -/
theorem bare_sublist (h : IsCell cell) : (bare cell.2).Sublist cell.1.toList := by
  cases h with
  | text text => exact Markup.bare_sublist text
  | severity severity =>
    rw [bare_severity]

/-- A cell shows what it says exactly if it says it in plain text. -/
theorem isPlain_of_weigh (h : IsCell cell) (hweigh : weigh (bare cell.2) = weigh cell.1.toList) :
    IsPlain cell.1.toList := by
  cases h with
  | text text => exact Markup.isPlain_of_weigh hweigh
  | severity severity => exact (isPlainKey_label severity).plain

/-- A plain text is shown as it is, in a cell as elsewhere. -/
theorem bare_eq (h : IsCell cell) (hplain : IsPlain cell.1.toList) :
    bare cell.2 = cell.1.toList := by
  cases h with
  | text text => exact Markup.bare_eq_toList_iff.mpr hplain
  | severity severity => exact bare_severity severity

theorem noEmoji (h : IsCell cell) (hemoji : d.NoEmoji cell.1) : d.NoEmoji cell.2 := by
  cases h with
  | text text => exact hemoji
  | severity severity => exact Display.noEmoji_of_notMem (colon_notMem_severity severity)

/-- A cell with a plain text opens nothing that stays open. -/
theorem shows (h : IsCell cell) (hplain : IsPlain cell.1.toList) : Shows cell.2.toList := by
  cases h with
  | text text => exact Markup.shows_of_isPlain hplain
  | severity severity =>
    exact (Markup.IsClosed.of_styled (style_mem severity) (isPlainKey_label severity)).shows

end IsCell

/-! ### Keys -/

/-- The line of a key is the key in bold, and the count after it. -/
theorem keyText_eq (group : String × List Finding) :
    keyText group = styled "bold" group.1 ++ countText group.2.length := by
  unfold keyText countText
  simp only [String.append_assoc]

/-- The count is printed characters of ASCII without a meaning in markup. -/
theorem mem_countText {n : Nat} {c : Char} (h : c ∈ (countText n).toList) :
    Markup.IsInert c ∧ Text.IsAscii c ∧ c ≠ ':' := by
  unfold countText at h
  rw [String.toList_append, String.toList_append, List.mem_append, List.mem_append] at h
  rcases h with (h | h) | h
  · have hall : ∀ c ∈ " (".toList, Markup.IsInert c ∧ Text.IsAscii c ∧ c ≠ ':' := by decide
    exact hall c h
  · exact facts_of_isDigit (isDigit_of_mem_toString h)
  · have hall : ∀ c ∈ ")".toList, Markup.IsInert c ∧ Text.IsAscii c ∧ c ≠ ':' := by decide
    exact hall c h

theorem isPlain_countText (n : Nat) : IsPlain (countText n).toList :=
  (Markup.isPlainKey_of_inert fun _ hc => (mem_countText hc).1).plain

theorem bare_countText (n : Nat) : bare (countText n) = (countText n).toList :=
  Markup.bare_eq_toList_iff.mpr (isPlain_countText n)

/-- What stands around the key has no colons, so an emoji code in the line would be one in the key.
-/
theorem noEmoji_keyText (h : d.NoEmoji group.1) : d.NoEmoji (keyText group) := by
  refine h.append "[bold]" ("[/bold]" ++ countText group.2.length) (by decide) ?_ ?_
  · rw [String.toList_append, List.mem_append, not_or]
    exact ⟨by decide, fun hcolon => (mem_countText hcolon).2.2 rfl⟩
  · rw [keyText_eq]
    unfold styled
    simp [String.toList_append]

/-- What a key line shows are characters of the key and of ASCII, and it ends with the count. -/
theorem isEven_bare_key (hd : d.Documented) (h : d.IsEven group.1.toList) :
    d.IsEven (bare (keyText group)) := by
  refine h.of_ascii hd fun c hc => ?_
  have hmem := (Markup.bare_sublist (keyText group)).subset hc
  have hbold : (styled "bold" group.1).toList =
      "[bold]".toList ++ group.1.toList ++ "[/bold]".toList := by
    unfold styled
    simp [String.toList_append]
  have hopening : ∀ c ∈ "[bold]".toList, Text.IsAscii c := by decide
  have hclosing : ∀ c ∈ "[/bold]".toList, Text.IsAscii c := by decide
  rw [keyText_eq, String.toList_append, hbold, List.mem_append, List.mem_append,
    List.mem_append] at hmem
  rcases hmem with ((hmem | hmem) | hmem) | hmem
  · exact .inr (hopening c hmem)
  · exact .inl hmem
  · exact .inr (hclosing c hmem)
  · exact .inr (mem_countText hmem).2.1

/-- The line ends with the bracket after the count, whatever the key does. So it has no white space
at its end. -/
theorem getLast?_bare_key (group : String × List Finding) :
    (bare (keyText group)).getLast? = some ')' := by
  obtain ⟨before, slashes, hkey, hlast⟩ := Markup.exists_append_slashes group.1.toList
  have hend : (countText group.2.length).toList.getLast? = some ')' := by
    unfold countText
    rw [String.toList_append, List.getLast?_append]
    rfl
  have hcount := bare_countText group.2.length
  unfold bare at hcount ⊢
  rw [keyText_eq, String.toList_append, Markup.pieces_styled (by decide) slashes hkey hlast]
  simp only [List.flatMap_cons, List.flatMap_append, hcount]
  simp [List.getLast?_append, hend]

/-! ## 3. A group is laid out with what is shown -/

/-- The texts of a group are even, hold no emoji codes, and fit the screen: the line of the key,
both as the key is and as it is shown, and the table. -/
structure GroupFits (d : Display) (screen : Screen) (grouping : Grouping)
    (group : String × List Finding) : Prop where
  some : group.2 ≠ []
  noEmoji : d.NoEmoji group.1
  even : d.IsEven group.1.toList
  line : ∀ cs, cs = Rendering.verbatim.key group.1 group.2.length ∨
    d.shown (keyText group) = .ok cs → d.width cs ≤ screen.width
  cells : ∀ column ∈ cells grouping group.2, ∀ cell ∈ column,
    d.NoEmoji cell.1 ∧ d.IsEven cell.1.toList
  measures : ∀ f ∈ group.2, f.measureFault? = none
  table : d.tableWidth (Rendering.verbatim.table grouping group.2) ≤ screen.width

/-- The texts that are handed over are those of the cells as they are marked up. -/
theorem texts_sheet (grouping : Grouping) (findings : List Finding) :
    (sheet grouping findings).texts = (cells grouping findings).map (·.map Prod.snd) := by
  unfold Sheet.texts sheet cells
  rw [List.map_map, List.map_map]
  refine List.map_congr_left fun column _ => ?_
  rw [Function.comp_apply, Function.comp_apply, List.map_append, List.map_map]
  congr 1
  split <;> rfl

theorem columns_ne_nil (grouping : Grouping) : columns grouping ≠ [] := by
  cases grouping <;> simp [columns]

theorem length_of_mem_cells {column : List (String × String)}
    (h : column ∈ cells grouping findings) : column.length = tableHeight grouping findings := by
  obtain ⟨column, -, rfl⟩ := List.mem_map.mp h
  unfold tableHeight
  split <;> simp

/-- A bound of all texts of a column is one of the column. -/
theorem columnWidth_le {texts : List (List Char)} {bound : Nat}
    (h : ∀ cs ∈ texts, d.width cs ≤ bound) : d.columnWidth texts ≤ bound := by
  unfold Display.columnWidth
  refine List.foldlRecOn (motive := (· ≤ bound)) texts _ (Nat.zero_le bound) fun w hw cs hcs => ?_
  exact Nat.max_le.mpr ⟨hw, h cs hcs⟩

theorem width_le_of_sublist {cs ds : List Char} (h : cs.Sublist ds) : d.width cs ≤ d.width ds := by
  rw [d.width_eq_sum, d.width_eq_sum]
  exact (h.map d.columns).sum_le_sum fun _ _ => Nat.zero_le _

theorem tableWidth_eq_sum (d : Display) (columns : List (List (List Char))) :
    d.tableWidth columns = (columns.map fun texts => d.columnWidth texts + 2).sum := by
  unfold Display.tableWidth
  rw [List.sum_eq_foldr, List.foldr_map]

/-- What is shown is no wider than what is said, so a table fits as it is shown. -/
theorem tableWidth_marked_le (d : Display) (grouping : Grouping) (findings : List Finding) :
    d.tableWidth (Rendering.marked.table grouping findings) ≤
      d.tableWidth (Rendering.verbatim.table grouping findings) := by
  unfold Rendering.table
  rw [tableWidth_eq_sum, tableWidth_eq_sum, List.map_map, List.map_map]
  refine List.sum_le_sum fun column hcolumn => Nat.add_le_add_right (columnWidth_le ?_) 2
  intro cs hcs
  obtain ⟨cell, hcell, rfl⟩ := List.mem_map.mp hcs
  have hle := width_le_of_sublist (d := d) (isCell_of_mem hcolumn hcell).bare_sublist
  exact hle.trans ((Terminal.le_foldl_max d.width _ 0).2 _ (List.mem_map_of_mem hcell))

/-- **A group** whose texts can all be shown is laid out with what they show. -/
theorem groupText_of_shown (hp : p.Documented d) (hcolour : screen.hasColour = false)
    (hfits : GroupFits d screen grouping group) (hkey : ∃ cs, d.shown (keyText group) = .ok cs)
    (hcells : ∀ column ∈ cells grouping group.2, ∀ cell ∈ column,
      ∃ cs, d.shown cell.2 = .ok cs) :
    groupText p screen grouping group = .ok (Rendering.marked.groupText d grouping group) := by
  obtain ⟨cs, hcs⟩ := hkey
  have hbare : cs = bare (keyText group) :=
    hp.display.shown_eq (noEmoji_keyText hfits.noEmoji) hcs
  have hline : p.print screen (keyText group) = .ok (String.ofList cs ++ "\n") := by
    refine hp.print_eq hcolour hcs ?_ ?_ (hfits.line cs (.inr hcs))
    · rw [hbare]
      exact isEven_bare_key hp.display hfits.even
    · intro c hc
      rw [hbare, getLast?_bare_key] at hc
      rw [← Option.some.inj hc]
      decide
  have hmeasures : group.2.findSome? Finding.measureFault? = none :=
    List.findSome?_eq_none_iff.mpr hfits.measures
  have htable : p.printTable screen (sheet grouping group.2) =
      .ok (d.tableText (tableHeight grouping group.2)
        (Rendering.marked.table grouping group.2)) := by
    refine hp.printTable_eq hcolour ?_ ?_ ?_ ?_
      ((tableWidth_marked_le d grouping group.2).trans hfits.table)
    · unfold sheet
      simpa using columns_ne_nil grouping
    · have hpos := List.length_pos_iff.mpr hfits.some
      unfold tableHeight
      omega
    · rw [texts_sheet]
      unfold Rendering.table
      rw [List.map_map, List.map_map]
      refine List.map_congr_left fun column hcolumn => ?_
      rw [Function.comp_apply, Function.comp_apply, List.map_map, List.map_map]
      refine List.map_congr_left fun cell hcell => ?_
      obtain ⟨cs, hcs⟩ := hcells column hcolumn cell hcell
      have hemoji := (isCell_of_mem hcolumn hcell).noEmoji (hfits.cells column hcolumn cell hcell).1
      rw [Function.comp_apply, Function.comp_apply, hcs, hp.display.shown_eq hemoji hcs]
      rfl
    · intro texts htexts
      obtain ⟨column, hcolumn, rfl⟩ := List.mem_map.mp htexts
      rw [List.length_map]
      refine ⟨length_of_mem_cells hcolumn, fun cs hcs => ?_⟩
      obtain ⟨cell, hcell, rfl⟩ := List.mem_map.mp hcs
      exact (hfits.cells column hcolumn cell hcell).2.sublist
        (isCell_of_mem hcolumn hcell).bare_sublist
  have hgap : p.print screen "" = .ok "\n" := by
    have hplain : IsPlain "".toList := Markup.isPlain_of_forall (by simp)
    have hshown := hp.display.shown_of_shows (Display.noEmoji_of_notMem (by simp))
      (Markup.shows_of_isPlain hplain)
    rw [Markup.bare_eq_toList_iff.mpr hplain] at hshown
    rw [hp.print_eq hcolour hshown Display.isEven_nil (by simp) (Nat.zero_le _)]
    rfl
  refine bind_ok_iff.mpr ⟨_, hline, ?_⟩
  rw [hmeasures]
  refine bind_ok_iff.mpr ⟨_, htable, bind_ok_iff.mpr ⟨_, hgap, ?_⟩⟩
  rw [hbare, keyText_eq]
  rfl

/-- A group that is printed has no text that is refused. -/
theorem shown_of_groupText (hp : p.Documented d) {text : String}
    (h : groupText p screen grouping group = .ok text) :
    (∃ cs, d.shown (keyText group) = .ok cs) ∧
      ∀ column ∈ cells grouping group.2, ∀ cell ∈ column, ∃ cs, d.shown cell.2 = .ok cs := by
  obtain ⟨key, hkey, h⟩ := bind_ok_iff.mp h
  constructor
  · cases hshown : d.shown (keyText group) with
    | ok cs => exact ⟨cs, rfl⟩
    | error e =>
      have hrefused : ∃ e, p.print screen (keyText group) = .error e := hp.print_refused hshown
      obtain ⟨fault, hfault⟩ := hrefused
      rw [hkey] at hfault
      exact absurd hfault (by simp)
  · intro column hcolumn cell hcell
    cases hshown : d.shown cell.2 with
    | ok cs => exact ⟨cs, rfl⟩
    | error e =>
      have htexts : column.map Prod.snd ∈ (sheet grouping group.2).texts := by
        rw [texts_sheet]
        exact List.mem_map_of_mem hcolumn
      have hrefused : ∃ e, p.printTable screen (sheet grouping group.2) = .error e :=
        hp.printTable_refused htexts (List.mem_map_of_mem hcell) hshown
      obtain ⟨fault, hfault⟩ := hrefused
      split at h
      · exact absurd h (by simp [throw, throwThe, MonadExceptOf.throw])
      · obtain ⟨table, htable, -⟩ := bind_ok_iff.mp h
        rw [htable] at hfault
        exact absurd hfault (by simp)

/-- Every text of a group is plain, its key as one that stands in bold. -/
structure IsPlainGroup (grouping : Grouping) (group : String × List Finding) : Prop where
  key : IsPlainKey group.1.toList
  cells : ∀ column ∈ cells grouping group.2, ∀ cell ∈ column, IsPlain cell.1.toList

/-- Plain texts are laid out as they are. -/
theorem marked_groupText (h : IsPlainGroup grouping group) :
    Rendering.marked.groupText d grouping group =
      Rendering.verbatim.groupText d grouping group := by
  have hkey : Rendering.marked.key group.1 group.2.length =
      Rendering.verbatim.key group.1 group.2.length := by
    show bare (styled "bold" group.1 ++ countText group.2.length) = _
    rw [Markup.bare_styled_append (by decide) h.key, bare_countText]
    rfl
  have htable : Rendering.marked.table grouping group.2 =
      Rendering.verbatim.table grouping group.2 :=
    List.map_congr_left fun column hcolumn => List.map_congr_left fun cell hcell =>
      (isCell_of_mem hcolumn hcell).bare_eq (h.cells column hcolumn cell hcell)
  unfold Rendering.groupText
  rw [hkey, htable]

/-- **A group of plain texts** stands in the output as it is. -/
theorem groupText_of_isPlainGroup (hp : p.Documented d) (hcolour : screen.hasColour = false)
    (hfits : GroupFits d screen grouping group) (hplain : IsPlainGroup grouping group) :
    groupText p screen grouping group = .ok (Rendering.verbatim.groupText d grouping group) := by
  have hkey : Markup.IsClosed (keyText group).toList := by
    rw [keyText_eq, String.toList_append]
    exact (Markup.IsClosed.of_styled (by decide) hplain.key).append
      (.of_inert fun _ hc => (mem_countText hc).1)
  rw [← marked_groupText hplain]
  refine groupText_of_shown hp hcolour hfits (hp.display.exists_shown (hkey.shows [])) ?_
  intro column hcolumn cell hcell
  exact hp.display.exists_shown
    ((isCell_of_mem hcolumn hcell).shows (hplain.cells column hcolumn cell hcell) [])

/-! ## 4. Weights -/

/-- The weight of texts joined is the sum of their weights. -/
theorem weigh_join (parts : List String) :
    weigh (String.join parts).toList = (parts.map fun part => weigh part.toList).sum := by
  induction parts with
  | nil => rfl
  | cons part rest ih =>
    rw [String.join_cons, String.toList_append, Markup.weigh_append, ih, List.map_cons,
      List.sum_cons]

/-- The blanks around a text weigh nothing, so the widths of columns, which change with the texts,
do not disturb the comparison. -/
theorem weigh_spaced (width : Nat) (cs : List Char) :
    weigh (d.spaced width cs).toList = weigh cs := by
  have hblank : Markup.weight ' ' = 0 := by decide
  unfold Display.spaced
  simp [hblank]

/-- So a row weighs what its texts do, whatever the widths of the columns are. -/
theorem weigh_rowText (columns : List (List (List Char))) (i : Nat) :
    weigh (d.rowText columns i).toList =
      (columns.map fun texts => weigh (texts.getD i [])).sum := by
  unfold Display.rowText
  rw [weigh_join, List.map_map]
  exact congrArg List.sum (List.map_congr_left fun texts _ => weigh_spaced _ _)

/-- Sums that are equal and whose terms are in order have the same terms. -/
theorem eq_of_sum_eq {α : Type} {items : List α} {f g : α → Nat}
    (hle : ∀ item ∈ items, f item ≤ g item) (hsum : (items.map f).sum = (items.map g).sum) :
    ∀ item ∈ items, f item = g item := by
  intro item hitem
  by_contra hne
  have hlt := List.sum_lt_sum f g hle ⟨item, hitem, lt_of_le_of_ne (hle item hitem) hne⟩
  omega

/-- What a text weighs at a place of a column, and nothing where there is none. -/
theorem getD_map_cell (rendering : Rendering) (column : List (String × String)) (i : Nat) :
    (column.map rendering.cell).getD i [] = (column[i]?.map rendering.cell).getD [] := by
  rw [List.getD_eq_getElem?_getD, List.getElem?_map]

/-- **A row** as it is shown is lighter than as it is, or all of its texts weigh the same. -/
theorem weigh_row_le (grouping : Grouping) (findings : List Finding) (i : Nat) :
    weigh (d.rowText (Rendering.marked.table grouping findings) i).toList ≤
        weigh (d.rowText (Rendering.verbatim.table grouping findings) i).toList ∧
      (weigh (d.rowText (Rendering.marked.table grouping findings) i).toList =
          weigh (d.rowText (Rendering.verbatim.table grouping findings) i).toList →
        ∀ column ∈ cells grouping findings, ∀ cell, column[i]? = some cell →
          weigh (bare cell.2) = weigh cell.1.toList) := by
  have hcolumns : ∀ column ∈ cells grouping findings,
      weigh ((column.map Rendering.marked.cell).getD i []) ≤
        weigh ((column.map Rendering.verbatim.cell).getD i []) := by
    intro column hcolumn
    rw [getD_map_cell, getD_map_cell]
    cases hcell : column[i]? with
    | none => exact Nat.le_refl _
    | some cell =>
      exact Markup.weigh_le_of_sublist
        (isCell_of_mem hcolumn (List.mem_of_getElem? hcell)).bare_sublist
  unfold Rendering.table
  rw [weigh_rowText, weigh_rowText, List.map_map, List.map_map]
  refine ⟨List.sum_le_sum hcolumns, fun heq column hcolumn cell hcell => ?_⟩
  have hterm := eq_of_sum_eq hcolumns heq column hcolumn
  rwa [getD_map_cell, getD_map_cell, hcell] at hterm

/-- What a group weighs under a rendering: its key and its rows, and the ends of the lines. -/
theorem weigh_groupText (rendering : Rendering) :
    weigh (rendering.groupText d grouping group).toList =
      weigh (rendering.key group.1 group.2.length) +
        ((List.range (tableHeight grouping group.2)).map fun i =>
          weigh (d.rowText (rendering.table grouping group.2) i).toList + 1).sum + 2 := by
  have hend : weigh "\n".toList = 1 := by decide
  have hrows : (List.range (tableHeight grouping group.2)).map (fun i =>
      weigh (d.rowText (rendering.table grouping group.2) i ++ "\n").toList) =
        (List.range (tableHeight grouping group.2)).map fun i =>
          weigh (d.rowText (rendering.table grouping group.2) i).toList + 1 :=
    List.map_congr_left fun i _ => by rw [String.toList_append, Markup.weigh_append, hend]
  unfold Rendering.groupText Display.tableText
  rw [String.toList_append, String.toList_append, String.toList_append, Markup.weigh_append,
    Markup.weigh_append, Markup.weigh_append, weigh_join, List.map_map, hend, String.toList_ofList]
  simp only [Function.comp_def, hrows]
  omega

/-- **A group** as it is shown is lighter than as it is, or all of its texts are plain. -/
theorem weigh_groupText_le (d : Display) (grouping : Grouping) (group : String × List Finding) :
    weigh (Rendering.marked.groupText d grouping group).toList ≤
        weigh (Rendering.verbatim.groupText d grouping group).toList ∧
      (weigh (Rendering.marked.groupText d grouping group).toList =
          weigh (Rendering.verbatim.groupText d grouping group).toList →
        IsPlainGroup grouping group) := by
  obtain ⟨hkey, hplainKey⟩ := Markup.weigh_bare_key group.1 (countText group.2.length)
  rw [bare_countText, ← Markup.weigh_append] at hkey hplainKey
  have hrows : ∀ i ∈ List.range (tableHeight grouping group.2),
      weigh (d.rowText (Rendering.marked.table grouping group.2) i).toList + 1 ≤
        weigh (d.rowText (Rendering.verbatim.table grouping group.2) i).toList + 1 :=
    fun i _ => Nat.add_le_add_right (weigh_row_le grouping group.2 i).1 1
  have hsum := List.sum_le_sum hrows
  have hmarked : Rendering.marked.key group.1 group.2.length =
    bare (styled "bold" group.1 ++ countText group.2.length) := rfl
  have hverbatim : Rendering.verbatim.key group.1 group.2.length =
    group.1.toList ++ (countText group.2.length).toList := rfl
  -- neither the key nor the rows can be heavier, so equal sums have equal parts
  rw [weigh_groupText, weigh_groupText, hmarked, hverbatim]
  refine ⟨by omega, fun heq => ⟨hplainKey (by omega), fun column hcolumn cell hcell => ?_⟩⟩
  obtain ⟨i, hi⟩ := List.mem_iff_getElem?.mp hcell
  have hrow : i ∈ List.range (tableHeight grouping group.2) := by
    rw [← length_of_mem_cells hcolumn, List.mem_range]
    exact (List.getElem?_eq_some_iff.mp hi).1
  have hsame := eq_of_sum_eq hrows (by omega) i hrow
  exact (isCell_of_mem hcolumn hcell).isPlain_of_weigh
    ((weigh_row_le (d := d) grouping group.2 i).2 (by omega) column hcolumn cell hi)

/-! ## 5. Texts in a group -/

/-- A part is found in what the parts are joined to. -/
theorem infix_join {parts : List String} {part : String} (h : part ∈ parts) :
    part.toList <:+: (String.join parts).toList := by
  rw [String.toList_join, List.flatMap_def]
  exact List.infix_of_mem_flatten (List.mem_map_of_mem h)

theorem infix_spaced (width : Nat) (cs : List Char) : cs <:+: (d.spaced width cs).toList := by
  unfold Display.spaced
  exact ⟨[' '], List.replicate (width - d.width cs) ' ' ++ [' '], by simp⟩

/-- The texts of a row are found in it. -/
theorem infix_rowText {columns : List (List (List Char))} {texts : List (List Char)}
    {cs : List Char} {i : Nat} (htexts : texts ∈ columns) (hcs : texts[i]? = some cs) :
    cs <:+: (d.rowText columns i).toList := by
  have hcell := infix_spaced (d := d) (d.columnWidth texts) cs
  have hget : texts.getD i [] = cs := by rw [List.getD_eq_getElem?_getD, hcs, Option.getD_some]
  rw [← hget] at hcell ⊢
  exact hcell.trans (infix_join (List.mem_map_of_mem htexts))

/-- **Key and texts** are found in a group that has every text as it is. -/
theorem infix_groupText (d : Display) (grouping : Grouping) (group : String × List Finding) :
    group.1.toList <:+: (Rendering.verbatim.groupText d grouping group).toList ∧
      ∀ column ∈ cells grouping group.2, ∀ cell ∈ column,
        cell.1.toList <:+: (Rendering.verbatim.groupText d grouping group).toList := by
  unfold Rendering.groupText
  rw [String.toList_append, String.toList_append, String.toList_append, String.toList_ofList]
  constructor
  · exact ⟨[], _, by
      rw [List.nil_append, List.append_assoc, List.append_assoc]
      exact (List.append_assoc _ _ _).symm⟩
  · -- a text stands in the row of its place in the column
    intro column hcolumn cell hcell
    obtain ⟨i, hi⟩ := List.mem_iff_getElem?.mp hcell
    have hrow : i ∈ List.range (tableHeight grouping group.2) := by
      rw [← length_of_mem_cells hcolumn, List.mem_range]
      exact (List.getElem?_eq_some_iff.mp hi).1
    have htexts : column.map Rendering.verbatim.cell ∈
        Rendering.verbatim.table grouping group.2 := List.mem_map_of_mem hcolumn
    have hinRow : cell.1.toList <:+:
        (d.rowText (Rendering.verbatim.table grouping group.2) i).toList :=
      infix_rowText htexts (by rw [List.getElem?_map, hi]; rfl)
    have hline := infix_join (List.mem_map_of_mem (f := fun i =>
      d.rowText (Rendering.verbatim.table grouping group.2) i ++ "\n") hrow)
    rw [String.toList_append] at hline
    have hinTable : cell.1.toList <:+: (d.tableText (tableHeight grouping group.2)
        (Rendering.verbatim.table grouping group.2)).toList :=
      (hinRow.trans ⟨[], _, rfl⟩).trans hline
    exact hinTable.trans ⟨_, _, rfl⟩

end Console

end Conformance
