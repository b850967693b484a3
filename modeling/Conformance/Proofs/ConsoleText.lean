import Conformance.Proofs.ConsoleGroups
import Conformance.Proofs.Tallies

/-!
# Which findings the console shows as they are

The console puts every text of a finding through markup, and no text is escaped before. So a path
with a pair of brackets in it, a generic type or the message of a failed rule may lose characters,
or be refused and take the whole report with it. This file says exactly when nothing of this
happens, for every printer that has the laws of `Conformance.Output.Printer`: the output is the one
in which all texts stand as they are (`Report.verbatimText`) if and only if all of them are plain.
The texts are even, hold no emoji codes and fit the screen.

Title, counts and verdict come from no finding and are printed in any case, so a report is as good
as its groups. One more weighing leads from an output to them: of two sums with terms in order that
are equal, all terms are.
-/

set_option autoImplicit false

namespace Conformance

open Markup (IsPlain IsPlainKey bare styled weigh)

/-! ## 1. What a report says of itself -/

/-- Every number of a report can be written. -/
structure Report.HasNumbers (r : Report) : Prop where
  counts : ∀ e ∈ r.severityCounts, isTooLong e.2 = false
  analyzed : isTooLong r.unitsAnalyzed = false
  skipped : isTooLong r.unitsSkipped = false

namespace Console

variable {p : Printer} {d : Display} {screen : Screen} {r : Report}

/-- A number that is not too long is written with its digits. -/
theorem number_eq {n : Int} (h : isTooLong n = false) : number n = .ok (toString n) := by
  unfold number Value.write Value.textFault?
  rw [h]
  rfl

theorem isInert_nat (n : Nat) : ∀ c ∈ (toString n).toList, Markup.IsInert c :=
  fun _ hc => (facts_of_isDigit (isDigit_of_mem_toString hc)).1

theorem isInert_int (n : Int) : ∀ c ∈ (toString n).toList, Markup.IsInert c := by
  cases n with
  | ofNat n => exact isInert_nat n
  | negSucc n =>
    have hminus : (toString (Int.negSucc n)).toList = '-' :: (toString (n + 1)).toList := by
      show ("-" ++ toString (n + 1)).toList = _
      rw [String.toList_append]
      rfl
    rw [hminus, List.forall_mem_cons]
    exact ⟨by decide, isInert_nat (n + 1)⟩

/-- A text with closed styles is printed, however long it is. All that a report says of itself is
printed for this reason. -/
theorem exists_print_of_isClosed (hp : p.Documented d) (screen : Screen) {text : String}
    (h : Markup.IsClosed text.toList) : ∃ out, p.print screen text = .ok out := by
  obtain ⟨cs, hcs⟩ := hp.display.exists_shown (h.shows [])
  exact hp.exists_print hcs

/-- A number with a label before it and what is counted behind it. -/
theorem isClosed_number (style label unit : String) (n : Int) (hstyle : style ∈ Markup.styles)
    (hlabel : ∀ c ∈ label.toList, Markup.IsInert c)
    (hunit : ∀ c ∈ unit.toList, Markup.IsInert c) :
    Markup.IsClosed (styled style label ++ " " ++ toString n ++ unit).toList := by
  rw [String.toList_append, String.toList_append, String.toList_append]
  exact (((Markup.IsClosed.of_styled hstyle (Markup.isPlainKey_of_inert hlabel)).append
    (.of_inert (by decide))).append (.of_inert (isInert_int n))).append (.of_inert hunit)

/-- The line of counts: a heading in bold, and each count in the style of its severity. -/
theorem isClosed_counts (r : Report) : Markup.IsClosed (" ".intercalate
    ((styled "bold" "Findings:" ++ " " ++ toString r.total) ::
      r.severityCounts.map fun e =>
        styled e.1.style (e.1.label ++ ": " ++ toString e.2))).toList := by
  refine .intercalate (List.forall_mem_cons.mpr ⟨?_, fun text htext => ?_⟩)
  · rw [String.toList_append, String.toList_append]
    exact ((Markup.IsClosed.of_styled (by decide) (Markup.isPlainKey_of_inert (by decide))).append
      (.of_inert (by decide))).append (.of_inert (isInert_nat r.total))
  · obtain ⟨e, -, rfl⟩ := List.mem_map.mp htext
    refine .of_styled (style_mem e.1) (Markup.isPlainKey_of_inert ?_)
    rw [String.toList_append, String.toList_append, List.forall_mem_append, List.forall_mem_append]
    exact ⟨⟨isInert_label e.1, by decide⟩, isInert_int e.2⟩

/-- **Title and counts** are printed. Nothing in them comes from a finding, so there is nothing that
markup could take for a tag. -/
theorem exists_header (hp : p.Documented d) (screen : Screen) (hnumbers : r.HasNumbers) :
    ∃ text, header p screen r = .ok text := by
  have htitle : ∃ out, p.rule screen (styled "bold" "CONFORMANCE REPORT") = .ok out := by
    have hclosed : Markup.IsClosed (styled "bold" "CONFORMANCE REPORT").toList :=
      .of_styled (by decide) (Markup.isPlainKey_of_inert (by decide))
    obtain ⟨cs, hcs⟩ := hp.display.exists_shown (hclosed.shows [])
    exact hp.exists_rule hcs
  have hcounts : countsText r = .ok (" ".intercalate
      ((styled "bold" "Findings:" ++ " " ++ toString r.total) ::
        r.severityCounts.map fun e => styled e.1.style (e.1.label ++ ": " ++ toString e.2))) := by
    refine bind_ok_iff.mpr ⟨_, Terminal.mapM_of_forall fun e he => ?_, rfl⟩
    rw [number_eq (hnumbers.counts e he)]
    rfl
  have hunits : unitsText r =
      .ok (styled "bold" "Units:" ++ " " ++ toString (r.unitsAnalyzed : Int) ++ " analyzed") := by
    unfold unitsText
    rw [number_eq hnumbers.analyzed]
    rfl
  obtain ⟨title, htitle⟩ := htitle
  obtain ⟨counts, hcountsPrinted⟩ := exists_print_of_isClosed hp screen (isClosed_counts r)
  obtain ⟨units, hunitsPrinted⟩ := exists_print_of_isClosed hp screen
    (isClosed_number "bold" "Units:" " analyzed" r.unitsAnalyzed (by decide) (by decide)
      (by decide))
  have hgap : ∃ gap, p.print screen "" = .ok gap :=
    exists_print_of_isClosed hp screen (.of_inert (by simp))
  obtain ⟨gap, hgap⟩ := hgap
  exact ⟨_, bind_ok_iff.mpr ⟨title, htitle, bind_ok_iff.mpr ⟨_, hcounts, bind_ok_iff.mpr
    ⟨counts, hcountsPrinted, bind_ok_iff.mpr ⟨_, hunits, bind_ok_iff.mpr
      ⟨units, hunitsPrinted, bind_ok_iff.mpr ⟨gap, hgap, rfl⟩⟩⟩⟩⟩⟩⟩

/-- **The verdict** is printed, with the note before it if there is one. Again nothing in it comes
from a finding. -/
theorem exists_footer (hp : p.Documented d) (screen : Screen) (hnumbers : r.HasNumbers) :
    ∃ text, footer p screen r = .ok text := by
  have hnote : ∃ text, note p screen r = .ok text := by
    unfold note
    split
    · have htext : cancelledText r = .ok (styled "yellow" "Cancelled:" ++ " " ++
          toString (r.unitsSkipped : Int) ++ " unit(s) not analyzed") := by
        unfold cancelledText
        rw [number_eq hnumbers.skipped]
        rfl
      obtain ⟨out, hprinted⟩ := exists_print_of_isClosed hp screen
        (isClosed_number "yellow" "Cancelled:" " unit(s) not analyzed" r.unitsSkipped (by decide)
          (by decide) (by decide))
      exact ⟨out, bind_ok_iff.mpr ⟨_, htext, hprinted⟩⟩
    · exact ⟨"", rfl⟩
  have hverdict : ∃ verdict, p.print screen (verdictText r) = .ok verdict := by
    refine exists_print_of_isClosed hp screen ?_
    unfold verdictText
    rw [String.toList_append]
    refine .append (.of_inert (by decide)) ?_
    split <;> exact .of_styled (by decide) (Markup.isPlainKey_of_inert (by decide))
  obtain ⟨text, hnote⟩ := hnote
  obtain ⟨verdict, hverdict⟩ := hverdict
  exact ⟨_, bind_ok_iff.mpr ⟨text, hnote, bind_ok_iff.mpr ⟨verdict, hverdict, rfl⟩⟩⟩

end Console

/-! ## 2. Reports -/

open Console

/-- The output of a report under a rendering of its texts. What a report says of itself is as it is
printed. -/
def Report.layout (p : Printer) (d : Display) (r : Report) (rendering : Rendering)
    (config : ConsoleConfig) : Except Error String := do
  let header ← header p config.toScreen r
  let footer ← footer p config.toScreen r
  return header ++ String.join ((groups config.grouping r.findings).entries.map
    (rendering.groupText d config.grouping)) ++ footer

/-- The report for a console with every text as it is. -/
def Report.verbatimText (p : Printer) (d : Display) (r : Report) (config : ConsoleConfig) :
    Except Error String :=
  r.layout p d .verbatim config

namespace Report

variable {p : Printer} {d : Display} {r : Report} {config : ConsoleConfig}

/-- The texts of all groups fit the screen, and all numbers can be written. -/
structure GroupsFit (d : Display) (config : ConsoleConfig) (r : Report) : Prop where
  colour : config.hasColour = false
  numbers : r.HasNumbers
  groups : ∀ group ∈ (groups config.grouping r.findings).entries,
    GroupFits d config.toScreen config.grouping group

/-- **A layout** is there under every rendering, since title and verdict are printed whatever the
texts of the findings are. -/
theorem exists_layout (hp : p.Documented d) (config : ConsoleConfig) (hnumbers : r.HasNumbers) :
    ∃ header footer, Console.header p config.toScreen r = .ok header ∧
      Console.footer p config.toScreen r = .ok footer ∧
        ∀ rendering, r.layout p d rendering config =
          .ok (header ++ String.join ((groups config.grouping r.findings).entries.map
            (rendering.groupText d config.grouping)) ++ footer) := by
  obtain ⟨header, hheader⟩ := exists_header hp config.toScreen hnumbers
  obtain ⟨footer, hfooter⟩ := exists_footer hp config.toScreen hnumbers
  refine ⟨header, footer, hheader, hfooter, fun rendering => ?_⟩
  exact bind_ok_iff.mpr ⟨_, hheader, bind_ok_iff.mpr ⟨_, hfooter, rfl⟩⟩

/-- A report that has an output has one for each group, and its output is laid out with what the
texts show. -/
theorem layout_of_consoleText (hp : p.Documented d) (hfits : r.GroupsFit d config) {text : String}
    (h : r.consoleText p config = .ok text) : r.layout p d .marked config = .ok text := by
  obtain ⟨header, hheader, h⟩ := bind_ok_iff.mp h
  obtain ⟨tables, htables, h⟩ := bind_ok_iff.mp h
  obtain ⟨footer, hfooter, h⟩ := bind_ok_iff.mp h
  have hgroups : tables = (groups config.grouping r.findings).entries.map
      (Rendering.marked.groupText d config.grouping) := by
    have heach := (mapM_eq_ok_iff.mp htables)
    rw [← List.forall₂_eq_eq_eq, List.forall₂_map_right_iff]
    refine (((List.forall₂_and_left _ _).mpr ⟨hfits.groups, heach⟩).imp ?_).flip
    rintro group text ⟨hgroup, htext⟩
    obtain ⟨hkey, hcells⟩ := shown_of_groupText hp htext
    rw [groupText_of_shown hp hfits.colour hgroup hkey hcells] at htext
    exact (Except.ok.inj htext).symm
  rw [← Except.ok.inj h, hgroups]
  exact bind_ok_iff.mpr ⟨_, hheader, bind_ok_iff.mpr ⟨_, hfooter, rfl⟩⟩

/-- **The output** is the one with every text as it is exactly if all texts are plain. -/
theorem consoleText_eq_verbatimText_iff (hp : p.Documented d) (hfits : r.GroupsFit d config) :
    r.consoleText p config = r.verbatimText p d config ↔
      ∀ group ∈ (groups config.grouping r.findings).entries,
        IsPlainGroup config.grouping group := by
  obtain ⟨header, footer, hheader, hfooter, hlayout⟩ := exists_layout hp config hfits.numbers
  constructor
  · intro h
    unfold verbatimText at h
    rw [hlayout] at h
    have hmarked := layout_of_consoleText hp hfits h
    rw [hlayout] at hmarked
    -- equal texts weigh the same, and a group that is not plain has lost weight on the way
    have hweigh := congrArg (fun text => weigh text.toList) (Except.ok.inj hmarked)
    simp only [String.toList_append, Markup.weigh_append, weigh_join, List.map_map,
      Function.comp_def] at hweigh
    intro group hgroup
    refine (weigh_groupText_le d config.grouping group).2 ?_
    exact eq_of_sum_eq (fun group _ => (weigh_groupText_le d config.grouping group).1)
      (by omega) group hgroup
  · intro h
    have htables : (groups config.grouping r.findings).entries.mapM
        (Console.groupText p config.toScreen config.grouping) =
          .ok ((groups config.grouping r.findings).entries.map
            (Rendering.verbatim.groupText d config.grouping)) :=
      Terminal.mapM_of_forall fun group hgroup =>
        groupText_of_isPlainGroup hp hfits.colour (hfits.groups group hgroup) (h group hgroup)
    unfold verbatimText
    rw [hlayout]
    exact bind_ok_iff.mpr ⟨_, hheader, bind_ok_iff.mpr ⟨_, htables, bind_ok_iff.mpr
      ⟨_, hfooter, rfl⟩⟩⟩

/-- A report that has an output has no text that is refused. -/
theorem shown_of_consoleText (hp : p.Documented d) {text : String}
    (h : r.consoleText p config = .ok text) :
    ∀ group ∈ (groups config.grouping r.findings).entries,
      (∃ cs, d.shown (keyText group) = .ok cs) ∧
        ∀ column ∈ cells config.grouping group.2, ∀ cell ∈ column,
          ∃ cs, d.shown cell.2 = .ok cs := by
  intro group hgroup
  obtain ⟨header, -, h⟩ := bind_ok_iff.mp h
  obtain ⟨tables, htables, -⟩ := bind_ok_iff.mp h
  obtain ⟨text, -, htext⟩ := exists_of_forall₂_of_mem_left (mapM_eq_ok_iff.mp htables) hgroup
  exact shown_of_groupText hp htext

/-- **Key and texts of a group** are found in the output that has every text as it is. -/
theorem infix_verbatimText {text : String} {group : String × List Finding}
    (h : r.verbatimText p d config = .ok text)
    (hgroup : group ∈ (groups config.grouping r.findings).entries) :
    group.1.toList <:+: text.toList ∧
      ∀ column ∈ cells config.grouping group.2, ∀ cell ∈ column,
        cell.1.toList <:+: text.toList := by
  obtain ⟨header, -, h⟩ := bind_ok_iff.mp h
  obtain ⟨footer, -, h⟩ := bind_ok_iff.mp h
  have hwhole : (Rendering.verbatim.groupText d config.grouping group).toList <:+: text.toList := by
    have hjoin := infix_join (List.mem_map_of_mem
      (f := Rendering.verbatim.groupText d config.grouping) hgroup)
    rw [← Except.ok.inj h, String.toList_append, String.toList_append]
    exact hjoin.trans ⟨header.toList, footer.toList, rfl⟩
  obtain ⟨hkey, hcells⟩ := infix_groupText d config.grouping group
  exact ⟨hkey.trans hwhole, fun column hcolumn cell hcell =>
    (hcells column hcolumn cell hcell).trans hwhole⟩

end Report

/-! ## 3. Tables by file -/

/-- The texts of a finding that a table by file shows, and the path above it, are even and hold no
emoji codes. What was measured can be written. -/
structure Finding.IsEven (d : Display) (f : Finding) : Prop where
  path : d.NoEmoji f.location.path.text ∧ d.IsEven f.location.path.text.toList
  ruleId : d.NoEmoji f.ruleId ∧ d.IsEven f.ruleId.toList
  element : d.NoEmoji f.elementText ∧ d.IsEven f.elementText.toList
  measure : d.NoEmoji f.measureText ∧ d.IsEven f.measureText.toList
  message : d.NoEmoji f.message ∧ d.IsEven f.message.toList
  written : f.measureFault? = none

/-- Every text of a finding that a table by file shows is plain, and so is the path above it. -/
structure Finding.IsPlain (f : Finding) : Prop where
  path : IsPlainKey f.location.path.text.toList
  ruleId : Markup.IsPlain f.ruleId.toList
  element : Markup.IsPlain f.elementText.toList
  measure : Markup.IsPlain f.measureText.toList
  message : Markup.IsPlain f.message.toList

/-- Some text of a finding closes what is not open. A path that ends in a backslash is left out: it
makes text of the tag that closes the style it stands in. -/
def Finding.ClosesUnopened (f : Finding) : Prop :=
  Markup.ClosesUnopened f.ruleId ∨ Markup.ClosesUnopened f.elementText ∨
    Markup.ClosesUnopened f.measureText ∨ Markup.ClosesUnopened f.message ∨
      Markup.ClosesUnopened f.location.path.text ∧
        f.location.path.text.toList.getLast? ≠ some '\\'

namespace Console

/-- The texts of a table by file are its headings, the severities, and what the findings say. -/
theorem forall_cells_byFile {P : String → Prop} {findings : List Finding}
    (hheadings : ∀ heading ∈ ["Severity", "Rule", "Element", "Measured", "Message"], P heading)
    (hseverities : ∀ severity : Severity, P severity.label) :
    (∀ column ∈ cells (.byFile true) findings, ∀ cell ∈ column, P cell.1) ↔
      ∀ f ∈ findings, P f.ruleId ∧ P f.elementText ∧ P f.measureText ∧ P f.message := by
  have hcolumn : ∀ column : Column,
      (∀ cell ∈ [(column.heading, column.heading)] ++
        findings.map (fun f => (column.text f, column.cell f)), P cell.1) ↔
        P column.heading ∧ ∀ f ∈ findings, P (column.text f) := fun column => by
    rw [List.forall_mem_append, List.forall_mem_singleton, List.forall_mem_map]
  simp only [List.forall_mem_cons] at hheadings
  simp only [cells, headingStyle, Option.isSome_some, if_true, List.forall_mem_map, hcolumn]
  simp [columns, severityColumn, hheadings, hseverities, forall_and]

/-- The groups by file have plain texts only if and only if the findings do. -/
theorem isPlainGroup_byFile_iff {findings : List Finding} :
    (∀ group ∈ (groupByFile findings).entries, IsPlainGroup (.byFile true) group) ↔
      ∀ f ∈ findings, f.IsPlain := by
  have hgroups := isGrouping_groupByFile findings
  have hcells (group : String × List Finding) :=
    @forall_cells_byFile (fun text => Markup.IsPlain text.toList) group.2 (by decide +kernel)
      fun severity => (isPlainKey_label severity).plain
  constructor
  · intro h f hf
    obtain ⟨group, hgroup, hmem⟩ := hgroups.exists_group hf
    obtain ⟨hrule, helement, hmeasure, hmessage⟩ := (hcells group).mp (h group hgroup).cells f hmem
    have hkey : f.location.path.text = group.1 := ((hgroups.mem_iff hgroup).mp hmem).2
    exact ⟨hkey ▸ (h group hgroup).key, hrule, helement, hmeasure, hmessage⟩
  · intro h group hgroup
    obtain ⟨first, hfirst⟩ := hgroups.exists_mem hgroup
    obtain ⟨hfirst, hpath⟩ := (hgroups.mem_iff hgroup).mp hfirst
    refine ⟨hpath ▸ (h first hfirst).path, (hcells group).mpr fun f hmem => ?_⟩
    have hf := h f ((hgroups.mem_iff hgroup).mp hmem).1
    exact ⟨hf.ruleId, hf.element, hf.measure, hf.message⟩

end Console

namespace Report

variable {p : Printer} {d : Display} {r : Report} {screen : Screen}

/-- The findings of a report have even texts without emoji codes, and the tables by file fit the
screen with the lines of the paths above them, both as the texts are and as they are shown. -/
structure FitsScreen (d : Display) (screen : Screen) (r : Report) : Prop where
  numbers : r.HasNumbers
  findings : ∀ f ∈ r.findings, f.IsEven d
  paths : ∀ group ∈ (groupByFile r.findings).entries, ∀ cs,
    cs = Rendering.verbatim.key group.1 group.2.length ∨ d.shown (keyText group) = .ok cs →
      d.width cs ≤ screen.width
  tables : ∀ group ∈ (groupByFile r.findings).entries,
    d.tableWidth (Rendering.verbatim.table (.byFile true) group.2) ≤ screen.width

/-- What is asked of the findings gives what is asked of each group: a group has the findings of its
path. -/
theorem FitsScreen.groupsFit (hd : d.Documented) (h : r.FitsScreen d screen)
    (hcolour : screen.hasColour = false) : r.GroupsFit d ⟨screen, .byFile true⟩ where
  colour := hcolour
  numbers := h.numbers
  groups := by
    intro group hgroup
    have hgroups := isGrouping_groupByFile r.findings
    have heven : ∀ f ∈ group.2, f.IsEven d :=
      fun f hf => h.findings f ((hgroups.mem_iff hgroup).mp hf).1
    obtain ⟨first, hmem⟩ := hgroups.exists_mem hgroup
    obtain ⟨hfirst, hpath⟩ := (hgroups.mem_iff hgroup).mp hmem
    -- headings and severities are even on every screen
    have hascii : ∀ text : String, (∀ c ∈ text.toList, Text.IsAscii c ∧ c ≠ ':') →
        d.NoEmoji text ∧ d.IsEven text.toList := fun text htext =>
      ⟨Display.noEmoji_of_notMem fun hcolon => (htext _ hcolon).2 rfl,
        Display.isEven_nil.of_ascii hd fun c hc => .inr (htext c hc).1⟩
    have hcells := (forall_cells_byFile (P := fun text => d.NoEmoji text ∧ d.IsEven text.toList)
      (fun heading hheading => hascii heading (by revert heading; decide))
      (fun severity => hascii _ (by cases severity <;> decide))).mpr fun f hf =>
        ⟨(heven f hf).ruleId, (heven f hf).element, (heven f hf).measure, (heven f hf).message⟩
    exact
      { some := List.ne_nil_of_mem hmem
        noEmoji := hpath ▸ (h.findings first hfirst).path.1
        even := hpath ▸ (h.findings first hfirst).path.2
        line := h.paths group hgroup
        cells := hcells
        measures := fun f hf => (heven f hf).written
        table := h.tables group hgroup }

/-- A report with a text that closes what is not open has no output. -/
theorem consoleText_refused (hp : p.Documented d) (hcloses : ∃ f ∈ r.findings, f.ClosesUnopened) :
    ∃ e, r.consoleText p ⟨screen, .byFile true⟩ = .error e := by
  refine exists_error fun text htext => ?_
  obtain ⟨f, hf, hcloses⟩ := hcloses
  have hgroups := isGrouping_groupByFile r.findings
  obtain ⟨group, hgroup, hmem⟩ := hgroups.exists_group hf
  have hkey : f.location.path.text = group.1 := ((hgroups.mem_iff hgroup).mp hmem).2
  obtain ⟨⟨cs, hcs⟩, hcells⟩ := shown_of_consoleText hp htext group hgroup
  have hshown : ∀ text, Markup.ClosesUnopened text → ∀ cs, d.shown text ≠ .ok cs := by
    intro text htext cs hcs
    obtain ⟨e, he⟩ := hp.display.refuses htext
    exact absurd (he.symm.trans hcs) (by simp)
  have hcolumn : ∀ column ∈ columns (.byFile true), ∃ cs, d.shown (column.cell f) = .ok cs :=
    fun column hcolumn => hcells _ (List.mem_map_of_mem hcolumn) (column.text f, column.cell f)
      (List.mem_append_right _ (List.mem_map_of_mem hmem))
  simp only [columns, if_pos, List.cons_append, List.nil_append, List.forall_mem_cons] at hcolumn
  obtain ⟨-, ⟨rule, hrule⟩, ⟨element, helement⟩, ⟨measure, hmeasure⟩, ⟨message, hmessage⟩, -⟩ :=
    hcolumn
  rcases hcloses with h | h | h | h | ⟨h, hlast⟩
  · exact hshown _ h _ hrule
  · exact hshown _ h _ helement
  · exact hshown _ h _ hmeasure
  · exact hshown _ h _ hmessage
  · rw [hkey] at h hlast
    rw [keyText_eq] at hcs
    exact hshown _ (h.key hlast _ (isPlain_countText _).noTag) _ hcs

/-- The path of each group is found in a text, and so are rule, element and message of each of its
findings. -/
def ShowsFindings (r : Report) (text : String) : Prop :=
  ∀ group ∈ (groupByFile r.findings).entries, group.1.toList <:+: text.toList ∧
    ∀ f ∈ group.2, f.ruleId.toList <:+: text.toList ∧ f.elementText.toList <:+: text.toList ∧
      f.message.toList <:+: text.toList

/-- A finding with brackets that are no tags. -/
def indexed : Finding where
  ruleId := "no-else-branch"
  severity := .warning
  location :=
    { path := ⟨"src/[0]/page.ts"⟩, typeName := some "shop.Page",
      member_needs_type := fun _ => rfl, position_needs_member := Location.position_needs_none }
  message := "expected rows[0], not Order[A] or [ ]"
  category := .calisthenics
  payload := []

/-- A report of one finding fits a plain screen if the texts of the finding do. -/
theorem fitsScreen_single {f : Finding} (heven : f.IsEven Display.plain)
    (hpath : Display.plain.width (Rendering.verbatim.key f.location.path.text 1) ≤ 120 ∧
      Display.plain.width (bare (keyText (f.location.path.text, [f]))) ≤ 120)
    (htable : Display.plain.tableWidth (Rendering.verbatim.table (.byFile true) [f]) ≤ 120) :
    (ofFindings [f] 1).FitsScreen Display.plain {} where
  numbers := by
    have hcounts : ∀ e ∈ (ofFindings [f] 1).severityCounts, e.2.natAbs < 10 := by
      intro e he
      obtain ⟨severity, -, rfl⟩ := List.mem_map.mp he
      have hle := List.countP_le_length (p := fun f : Finding => f.severity = severity) (l := [f])
      simp only [List.length_singleton] at hle
      show (List.countP (fun f : Finding => f.severity = severity) [f] : Int).natAbs < 10
      omega
    exact ⟨fun e he => isTooLong_eq_false (hcounts e he),
      isTooLong_eq_false (by simp [ofFindings]), isTooLong_eq_false (by simp [ofFindings])⟩
  findings := List.forall_mem_singleton.mpr heven
  paths := by
    intro group hgroup cs hcs
    obtain rfl : group = (f.location.path.text, [f]) := List.mem_singleton.mp hgroup
    rcases hcs with rfl | hcs
    · exact hpath.1
    · rw [Display.plain_documented.shown_eq (noEmoji_keyText heven.path.1) hcs]
      exact hpath.2
  tables := by
    intro group hgroup
    obtain rfl : group = (f.location.path.text, [f]) := List.mem_singleton.mp hgroup
    exact htable

/-- A finding whose message closes a style that nothing switched on. -/
def unopened : Finding := { indexed with
  location :=
    { path := ⟨"src/page.ts"⟩, typeName := some "shop.Page",
      member_needs_type := fun _ => rfl, position_needs_member := Location.position_needs_none }
  message := "index [/] lost" }

end Report

end Conformance
