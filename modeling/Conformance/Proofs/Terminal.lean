import Conformance.Proofs.PlainMarkup
import Conformance.Proofs.Table
import Conformance.Proofs.TableLayout

/-!
# The printer for plain screens has the laws of a printer

Two of the laws are about single texts and take an argument. A text is read with a stack of open
tags, and each tag puts one on the stack or takes one off (`Markup.render_tag_ok`). So what shows is
what stands between the tags, whatever they are; and a text that is read has no more closing tags
than there are tags to close, which is how one with more of them comes to be refused. That styles of
a report are closed again is found by reading, tag by tag.

The law about tables is that of `Conformance.Proofs.TableLayout`. What is left is to follow the
calls.
-/

set_option autoImplicit false

namespace Conformance

namespace Markup

/-! ## 1. Reading -/

namespace Shown

@[simp] theorem chars_prepend (cs : List Char) (shown : Shown) :
    (shown.prepend cs).chars = cs ++ shown.chars := by
  unfold prepend chars
  cases shown.stretches with
  | nil => simp
  | cons first rest => simp

end Shown

variable {stack : List Tag} {pieces : List Piece} {shown : Shown}

/-- Closing a style takes one from those that are open. -/
theorem length_takeTag? {name : String} {found : Tag × List Tag}
    (h : takeTag? name stack = some found) : found.2.length + 1 = stack.length := by
  induction stack generalizing found with
  | nil => exact absurd h (by simp [takeTag?])
  | cons tag rest ih =>
    rw [takeTag?] at h
    split at h
    · rw [← Option.some.inj h]
      rfl
    · obtain ⟨inner, hinner, rfl⟩ := Option.map_eq_some_iff.mp h
      rw [List.length_cons, List.length_cons, ih hinner]

/-- What a closing tag closes is taken off the stack. -/
theorem length_closed? {name : List Char} {found : Tag × List Tag}
    (h : closed? name stack = .ok (some found)) : found.2.length + 1 = stack.length := by
  unfold closed? at h
  split at h
  · obtain ⟨tag, htag, rfl⟩ := Option.map_eq_some_iff.mp (Except.ok.inj h)
    obtain ⟨rest, rfl⟩ := List.head?_eq_some_iff.mp htag
    rfl
  · obtain ⟨normal, -, h⟩ := bind_ok_iff.mp h
    exact length_takeTag? (Except.ok.inj h)

/-- **A tag.** What follows a tag is read with one more open tag, or with one less if the tag
closes. The tag itself shows nothing. -/
theorem render_tag_ok {body : List Char} {rest : List Piece}
    (h : render stack (.tag body :: rest) = .ok shown) :
    ∃ after inner, render after rest = .ok inner ∧ shown.chars = inner.chars ∧
      after.length + (if (Piece.tag body).isClosing then 1 else 0) =
        stack.length + (if (Piece.tag body).isOpening then 1 else 0) := by
  rw [render] at h
  by_cases hclosing : ∃ name, body = '/' :: name
  · obtain ⟨name, rfl⟩ := hclosing
    rw [List.takeWhile_cons_of_pos (by decide)] at h
    obtain ⟨found, hfound, h⟩ := bind_ok_iff.mp h
    cases found with
    | none => exact absurd h (by simp)
    | some found =>
      obtain ⟨-, -, h⟩ := bind_ok_iff.mp h
      obtain ⟨inner, hinner, h⟩ := bind_ok_iff.mp h
      refine ⟨found.2, inner, hinner, ?_, length_closed? hfound⟩
      rw [← Except.ok.inj h]
      rfl
  · have hnot : (Piece.tag body).isClosing = false ∧ (Piece.tag body).isOpening = true := by
      cases body with
      | nil => exact ⟨rfl, rfl⟩
      | cons c name =>
        have hc : c ≠ '/' := fun hc => hclosing ⟨name, by rw [hc]⟩
        simp [Piece.isClosing, Piece.isOpening, hc]
    split at h
    · rename_i name hname
      refine absurd ?_ hclosing
      cases body with
      | nil => exact absurd hname (by simp)
      | cons c rest =>
        rw [List.takeWhile_cons] at hname
        split at hname
        · exact ⟨rest, by rw [(List.cons.inj hname).1]⟩
        · exact absurd hname (by simp)
    · obtain ⟨tag, -, h⟩ := bind_ok_iff.mp h
      obtain ⟨inner, hinner, h⟩ := bind_ok_iff.mp h
      refine ⟨tag :: stack, inner, hinner, ?_, by rw [hnot.1, hnot.2]; rfl⟩
      rw [← Except.ok.inj h]
      rfl

/-- Whatever styles are switched on and off, the characters are those of the pieces. -/
theorem chars_of_render (h : render stack pieces = .ok shown) :
    shown.chars = pieces.flatMap Piece.shown := by
  induction pieces generalizing stack shown with
  | nil =>
    rw [render] at h
    rw [← Except.ok.inj h]
    unfold Shown.chars
    split <;> rfl
  | cons piece rest ih =>
    rw [List.flatMap_cons]
    cases piece with
    | plain text =>
      rw [render] at h
      obtain ⟨inner, hinner, h⟩ := bind_ok_iff.mp h
      rw [← Except.ok.inj h, Shown.chars_prepend, ih hinner]
      rfl
    | tag body =>
      obtain ⟨after, inner, hinner, hchars, -⟩ := render_tag_ok h
      rw [hchars, ih hinner]
      rfl

/-- What is read closes no more tags than there are. -/
theorem countP_isClosing_le (h : render stack pieces = .ok shown) :
    pieces.countP Piece.isClosing ≤ stack.length + pieces.countP Piece.isOpening := by
  induction pieces generalizing stack shown with
  | nil => simp
  | cons piece rest ih =>
    rw [List.countP_cons, List.countP_cons]
    cases piece with
    | plain text =>
      rw [render] at h
      obtain ⟨inner, hinner, -⟩ := bind_ok_iff.mp h
      have hrest := ih hinner
      simpa [Piece.isClosing, Piece.isOpening] using hrest
    | tag body =>
      obtain ⟨after, inner, hinner, -, hlength⟩ := render_tag_ok h
      have hrest := ih hinner
      omega

/-- What a tag of a style of a report is taken for. -/
structure IsStyle (style : String) : Prop where
  head : style.toList.head? ≠ some '/'
  noEquals : style.toList.takeWhile (· != '=') = style.toList
  trimmed : Text.trimChars style.toList = style.toList
  ofBody : Tag.ofBody style.toList = .ok ⟨style, none⟩
  normal : StyleName.normal style.toList = .ok style
  check : Tag.check ⟨style, none⟩ = .ok ()

/-- The styles of a report are known to the reader. -/
theorem isStyle_of_mem {style : String} (h : style ∈ styles) : IsStyle style := by
  have hall : ∀ style ∈ styles, IsStyle style := by
    simp only [styles, List.forall_mem_cons]
    refine ⟨?_, ?_, ?_, ?_, ?_, by simp⟩ <;>
      exact ⟨by decide, by decide, by decide, by rfl, by rfl, by rfl⟩
  exact hall style h

/-- A style that is switched on is open while the rest is read. -/
theorem render_opening {style : String} (h : IsStyle style) (rest : List Piece) :
    render stack (.tag style.toList :: rest) =
      (do return (← render (⟨style, none⟩ :: stack) rest).afterTag) := by
  rw [render, h.noEquals, h.ofBody]
  split
  · rename_i name hname
    exact absurd (by rw [hname]; rfl) h.head
  · rfl

theorem render_closing {style : String} (h : IsStyle style) (rest : List Piece) :
    render (⟨style, none⟩ :: stack) (.tag ('/' :: style.toList) :: rest) = (do
      let shown ← render stack rest
      return { shown.afterTag with tags := ⟨style, none⟩ :: shown.tags }) := by
  have hclosed : closed? style.toList (⟨style, none⟩ :: stack) =
      .ok (some (⟨style, none⟩, stack)) := by
    unfold closed?
    rw [h.trimmed]
    split
    · rw [List.head?_cons, List.drop_one, List.tail_cons, Option.map_some]
    · rw [h.normal]
      simp [takeTag?, Functor.map, Except.map]
  rw [render, List.takeWhile_cons_of_pos (by decide), h.noEquals]
  change (closed? style.toList (⟨style, none⟩ :: stack) >>= _) = _
  rw [hclosed]
  rfl

/-- **Styles of a report** are closed as soon as the text in them ends. -/
theorem exists_render_of_balanced (h : Balanced pieces) :
    ∃ shown, render [] pieces = .ok shown ∧ shown.check = .ok () := by
  induction h with
  | nil => exact ⟨_, rfl, rfl⟩
  | plain text _ ih =>
    obtain ⟨shown, hshown, hcheck⟩ := ih
    refine ⟨_, by rw [render, hshown]; rfl, ?_⟩
    unfold Shown.prepend
    split <;> exact hcheck
  | span hstyle text _ ih =>
    obtain ⟨shown, hshown, hcheck⟩ := ih
    have hfacts := isStyle_of_mem hstyle
    refine ⟨_, by rw [render_opening hfacts, render, render_closing hfacts, hshown]; rfl, ?_⟩
    -- the style is the only one that has to be looked up besides those that follow
    unfold Shown.check at hcheck ⊢
    unfold Shown.afterTag Shown.prepend
    split <;>
    · show (List.forM (_ :: shown.tags) Tag.check) = _
      rw [List.forM, hfacts.check]
      exact hcheck

end Markup

open Markup (Shown)

/-! ## 2. Texts -/

/-- What holds of the printed characters of ASCII one by one. -/
theorem Text.forall_isAscii {P : Char → Prop} (h : ∀ n : Fin 95, P (Char.ofNat (0x20 + n))) :
    ∀ c, IsAscii c → P c := by
  rintro c ⟨hfirst, hlast⟩
  have hc : Char.ofNat (0x20 + (c.toNat - 0x20)) = c := by
    rw [Nat.add_sub_cancel' hfirst, Char.ofNat_toNat]
  rw [← hc]
  exact h ⟨c.toNat - 0x20, by omega⟩

/-- A text shows what was read if all of its styles can be looked up. -/
theorem Display.shown_plain_eq_ok {text : String} {cs : List Char}
    (h : Display.plain.shown text = .ok cs) :
    ∃ shown, Markup.read text = .ok shown ∧ shown.check = .ok () ∧ shown.chars = cs := by
  obtain ⟨shown, hread, h⟩ := bind_ok_iff.mp h
  obtain ⟨⟨⟩, hcheck, h⟩ := bind_ok_iff.mp h
  exact ⟨shown, hread, hcheck, Except.ok.inj h⟩

/-- A text is shown if it can be read and its styles are known. -/
theorem Display.shown_plain_of_read {text : String} {shown : Shown}
    (hread : Markup.read text = .ok shown) (hcheck : shown.check = .ok ()) :
    Display.plain.shown text = .ok shown.chars :=
  bind_ok_iff.mpr ⟨shown, hread, bind_ok_iff.mpr ⟨(), hcheck, rfl⟩⟩

/-- What does not succeed fails. -/
theorem exists_error {α : Type} {x : Except Error α} (h : ∀ a, x ≠ .ok a) : ∃ e, x = .error e := by
  cases x with
  | error e => exact ⟨e, rfl⟩
  | ok a => exact absurd rfl (h a)

/-- **Texts** on a plain screen are shown as the laws say, with no emoji codes at all. -/
theorem Display.plain_documented : Display.plain.Documented where
  shown_eq := by
    intro text cs _ h
    obtain ⟨shown, hread, -, rfl⟩ := Display.shown_plain_eq_ok h
    exact Markup.chars_of_render hread
  exists_shown := by
    intro text h
    obtain ⟨shown, hread, hcheck⟩ := Markup.exists_render_of_balanced h
    exact ⟨_, Display.shown_plain_of_read hread hcheck⟩
  refuses := by
    intro text hcloses
    refine exists_error fun cs h => ?_
    obtain ⟨shown, hread, -, -⟩ := Display.shown_plain_eq_ok h
    have hle := Markup.countP_isClosing_le hread
    unfold Markup.ClosesUnopened at hcloses
    rw [List.length_nil] at hle
    omega
  columns_ascii := Text.forall_isAscii (by decide +kernel)

/-! ## 3. Calls -/

namespace Terminal

variable {sheet : Sheet} {columns : List (List (List Char))}

/-- The cell that a text is read as. -/
def cell (text : String) : Shown := (Markup.read text).toOption.getD ⟨[], []⟩

theorem read_of_shown {text : String} {cs : List Char} (h : Display.plain.shown text = .ok cs) :
    Markup.read text = .ok (cell text) ∧ (cell text).check = .ok () ∧ (cell text).chars = cs := by
  obtain ⟨shown, hread, hcheck, hchars⟩ := Display.shown_plain_eq_ok h
  have hcell : cell text = shown := by
    unfold cell
    rw [hread]
    rfl
  rw [hcell]
  exact ⟨hread, hcheck, hchars⟩

/-- What goes well for every item goes well for all. -/
theorem forM_eq_ok_iff {α : Type} {items : List α} {check : α → Except Error Unit} :
    items.forM check = .ok () ↔ ∀ item ∈ items, check item = .ok () := by
  induction items with
  | nil => simp [pure, Except.pure]
  | cons first rest ih =>
    rw [List.forM, List.forall_mem_cons, ← ih]
    constructor
    · intro h
      obtain ⟨⟨⟩, hfirst, hrest⟩ := bind_ok_iff.mp h
      exact ⟨hfirst, hrest⟩
    · rintro ⟨hfirst, hrest⟩
      exact bind_ok_iff.mpr ⟨(), hfirst, hrest⟩

/-- Items that a step succeeds on, one by one, with a known result. -/
theorem mapM_of_forall {α β : Type} {items : List α} {step : α → Except Error β} {f : α → β}
    (h : ∀ item ∈ items, step item = .ok (f item)) : items.mapM step = .ok (items.map f) := by
  rw [mapM_eq_ok_iff, List.forall₂_map_right_iff, List.forall₂_same]
  exact h

/-- A table whose texts can all be shown is laid out with what they show. -/
theorem sheetLines_of_shown
    (h : ∀ texts ∈ sheet.texts, ∀ text ∈ texts, ∃ cs, Display.plain.shown text = .ok cs) :
    sheetLines sheet = .ok (tableLines ((sheet.texts.map List.length).foldl max 0)
      (sheet.texts.map (·.map cell))) := by
  have hcells : sheet.texts.mapM (·.mapM Markup.read) = .ok (sheet.texts.map (·.map cell)) := by
    refine mapM_of_forall fun texts htexts => mapM_of_forall fun text htext => ?_
    obtain ⟨cs, hcs⟩ := h texts htexts text htext
    exact (read_of_shown hcs).1
  have hchecks : (sheet.texts.map (·.map cell)).forM (·.forM Shown.check) = .ok () := by
    refine forM_eq_ok_iff.mpr fun cells hcells => forM_eq_ok_iff.mpr fun shown hshown => ?_
    obtain ⟨texts, htexts, rfl⟩ := List.mem_map.mp hcells
    obtain ⟨text, htext, rfl⟩ := List.mem_map.mp hshown
    obtain ⟨cs, hcs⟩ := h texts htexts text htext
    exact (read_of_shown hcs).2.1
  unfold sheetLines
  rw [hcells]
  refine bind_ok_iff.mpr ⟨_, rfl, bind_ok_iff.mpr ⟨(), hchecks, ?_⟩⟩
  simp [List.map_map, Function.comp_def, pure, Except.pure]

/-- A table is refused with any of its texts, since all of them are read before it is laid out. -/
theorem shown_of_sheetLines {lines : List String} (h : sheetLines sheet = .ok lines) :
    ∀ texts ∈ sheet.texts, ∀ text ∈ texts, ∃ cs, Display.plain.shown text = .ok cs := by
  intro texts htexts text htext
  obtain ⟨cells, hcells, h⟩ := bind_ok_iff.mp h
  obtain ⟨⟨⟩, hchecks, -⟩ := bind_ok_iff.mp h
  obtain ⟨column, hcolumn, hread⟩ :=
    exists_of_forall₂_of_mem_left (mapM_eq_ok_iff.mp hcells) htexts
  obtain ⟨shown, hshown, hread⟩ := exists_of_forall₂_of_mem_left (mapM_eq_ok_iff.mp hread) htext
  have hcheck := forM_eq_ok_iff.mp (forM_eq_ok_iff.mp hchecks column hcolumn) shown hshown
  exact ⟨_, Display.shown_plain_of_read hread hcheck⟩

/-- **Tables** on a plain screen have the lines that the laws give them, if their texts are even and
fit. -/
theorem printTable_plain {screen : Screen} {height : Nat} (hsome : sheet.columns ≠ [])
    (hshown : sheet.texts.map (·.map Display.plain.shown) = columns.map (·.map Except.ok))
    (heven : ∀ texts ∈ columns, texts.length = height ∧ ∀ cs ∈ texts, Display.plain.IsEven cs) :
    Printer.plain.printTable screen sheet = .ok (Display.plain.tableText height columns) := by
  have heach : ∀ texts ∈ sheet.texts, ∀ text ∈ texts, ∃ cs, Display.plain.shown text = .ok cs := by
    intro texts htexts text htext
    have hmem := List.mem_map_of_mem (f := (·.map Display.plain.shown)) htexts
    rw [hshown] at hmem
    obtain ⟨column, -, hcolumn⟩ := List.mem_map.mp hmem
    have hmem := List.mem_map_of_mem (f := Display.plain.shown) htext
    rw [← hcolumn] at hmem
    obtain ⟨cs, -, hcs⟩ := List.mem_map.mp hmem
    exact ⟨cs, hcs.symm⟩
  -- what the texts show is what the cells do
  have hchars : (sheet.texts.map (·.map cell)).map (·.map Shown.chars) = columns := by
    have hok : Function.Injective fun column : List (List Char) =>
        column.map (Except.ok : List Char → Except Error (List Char)) :=
      List.map_injective_iff.mpr fun _ _ => Except.ok.inj
    refine List.map_injective_iff.mpr hok ?_
    rw [← hshown, List.map_map, List.map_map]
    refine List.map_congr_left fun texts htexts => ?_
    rw [Function.comp_apply, Function.comp_apply, List.map_map, List.map_map]
    refine List.map_congr_left fun text htext => ?_
    obtain ⟨cs, hcs⟩ := heach texts htexts text htext
    rw [Function.comp_apply, Function.comp_apply, (read_of_shown hcs).2.2, hcs]
  have hcolumns : ∀ cells ∈ sheet.texts.map (·.map cell), IsEvenColumn height cells := by
    intro cells hcells
    obtain ⟨hlength, hall⟩ := heven (cells.map Shown.chars) (by
      rw [← hchars]
      exact List.mem_map_of_mem hcells)
    refine ⟨fun shown hshown => hall _ (List.mem_map_of_mem hshown), ?_⟩
    rwa [List.length_map] at hlength
  have htexts : sheet.texts.map (·.map cell) ≠ [] := by
    unfold Sheet.texts
    simpa using hsome
  have hheight : (sheet.texts.map List.length).foldl max 0 = height := by
    have hlengths := foldl_max_of_forall htexts fun cells hcells => (hcolumns cells hcells).length
    rw [List.foldl_map] at hlengths ⊢
    simpa using hlengths
  refine bind_ok_iff.mpr ⟨_, sheetLines_of_shown heach, ?_⟩
  rw [hheight, tableLines_of_even htexts hcolumns, hchars]
  unfold Display.tableText
  rw [List.map_map]
  rfl

end Terminal

/-- **The printer for plain screens** has the laws of a printer. -/
theorem Printer.plain_documented : Printer.plain.Documented Display.plain where
  display := Display.plain_documented
  exists_rule h := ⟨_, bind_ok_iff.mpr ⟨_, h, rfl⟩⟩
  exists_print h := ⟨_, bind_ok_iff.mpr ⟨_, h, rfl⟩⟩
  print_eq _ h _ _ _ := bind_ok_iff.mpr ⟨_, h, rfl⟩
  print_refused := by
    intro screen text e h
    refine exists_error fun out hout => ?_
    obtain ⟨cs, hcs, -⟩ := bind_ok_iff.mp hout
    exact absurd (h.symm.trans hcs) (by simp)
  printTable_eq _ hsome _ hshown heven _ := Terminal.printTable_plain hsome hshown heven
  printTable_refused := by
    intro screen sheet texts text e htexts htext h
    refine exists_error fun out hout => ?_
    obtain ⟨lines, hlines, -⟩ := bind_ok_iff.mp hout
    obtain ⟨cs, hcs⟩ := Terminal.shown_of_sheetLines hlines texts htexts text htext
    exact absurd (h.symm.trans hcs) (by simp)

end Conformance
