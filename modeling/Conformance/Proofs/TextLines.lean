import Conformance.Output.Style
import Conformance.Proofs.JsonRoundTrip
import Conformance.Proofs.Summary
import Mathlib.Algebra.GroupWithZero.Nat
import Mathlib.Data.List.Basic

/-!
# Lines of the text output

A reader that works line by line cuts the text output at its newlines and expects one line for each
finding, or two with the messages, and one line of totals. What it gets is said here for every
report (`Report.plainText_lines`).

The texts of a finding are written as they are, and any of them may hold a newline: a finding that
does takes as many lines more as it has newlines. So the lines are those that are expected exactly
if no text that is shown holds one, and otherwise there are too many, by the number of the newlines.
The line of totals has none, being made of numbers and fixed words.
-/

set_option autoImplicit false

namespace Conformance

/-! ## 1. Lines -/

namespace Text

/-- The lines of a text: its parts between newlines. -/
def lines (text : String) : List String := (text.toList.splitOn '\n').map String.ofList

/-- A text without a newline. -/
def Unbroken (text : String) : Prop := '\n' ∉ text.toList

instance (text : String) : Decidable (Unbroken text) := inferInstanceAs (Decidable (_ ∉ _))

/-- A newline in two texts joined is one in either. -/
theorem unbroken_append_iff {a b : String} : Unbroken (a ++ b) ↔ Unbroken a ∧ Unbroken b := by
  unfold Unbroken
  rw [String.toList_append, List.mem_append, not_or]

theorem Unbroken.append {a b : String} (ha : Unbroken a) (hb : Unbroken b) : Unbroken (a ++ b) :=
  unbroken_append_iff.mpr ⟨ha, hb⟩

/-- A newline ends a line, so what comes before it and what comes after are cut separately. -/
theorem lines_append_newline (a b : String) : lines (a ++ "\n" ++ b) = lines a ++ lines b := by
  have hchars : (a ++ "\n" ++ b).toList = a.toList ++ '\n' :: b.toList := by
    rw [String.toList_append, String.toList_append, List.append_assoc]
    rfl
  have hsplit := @List.splitOnP_append_cons _ (· == '\n') a.toList b.toList '\n'
    (beq_self_eq_true '\n')
  unfold lines List.splitOn
  rw [hchars, hsplit, List.map_append]

/-- Texts that are put together with newlines between them are cut where they were joined, and each
of them at its own newlines. -/
theorem lines_intercalate (first : String) (rest : List String) :
    lines ("\n".intercalate (first :: rest)) = (first :: rest).flatMap lines := by
  induction rest generalizing first with
  | nil => simp
  | cons second rest ih =>
    rw [String.intercalate_cons_cons, lines_append_newline, ih, ← List.flatMap_cons]

/-- There is one line more than there are newlines, so counting newlines is counting lines. -/
theorem length_lines (text : String) : (lines text).length = text.toList.count '\n' + 1 := by
  have hsplit (cs : List Char) : (cs.splitOnP (· == '\n')).length = cs.count '\n' + 1 := by
    induction cs with
    | nil => rfl
    | cons c rest ih =>
      rw [List.splitOnP_cons_eq_if_modifyHead, List.count_cons]
      by_cases hc : c = '\n'
      · simp [hc, ih]
      · simp [hc, ih]
  unfold lines List.splitOn
  rw [List.length_map, hsplit]

theorem lines_of_unbroken {text : String} (h : Unbroken text) : lines text = [text] := by
  unfold lines List.splitOn
  rw [List.splitOnP_eq_singleton, List.map_singleton, String.ofList_toList]
  intro c hc
  exact beq_false_of_ne fun heq => h (heq ▸ hc)

/-- The newlines of texts, counted together. -/
def newlines (texts : List String) : Nat := (texts.map fun text => text.toList.count '\n').sum

/-- Each newline adds one line to those that there are anyway. -/
theorem length_flatMap_lines (texts : List String) :
    (texts.flatMap lines).length = texts.length + newlines texts := by
  unfold newlines
  induction texts with
  | nil => rfl
  | cons text rest ih =>
    rw [List.flatMap_cons, List.length_append, ih, length_lines, List.length_cons, List.map_cons,
      List.sum_cons]
    omega

/-- No line is added exactly if there is no newline in any text. -/
theorem newlines_eq_zero_iff (texts : List String) :
    newlines texts = 0 ↔ ∀ text ∈ texts, Unbroken text := by
  unfold newlines Unbroken
  rw [List.sum_eq_zero_iff_forall_eq_nat]
  simp only [List.mem_map, forall_exists_index, and_imp, forall_apply_eq_imp_iff₂,
    List.count_eq_zero]

/-- Texts are their own lines exactly if none of them holds a newline: otherwise there are more
lines than texts. -/
theorem flatMap_lines_eq_self_iff (texts : List String) :
    texts.flatMap lines = texts ↔ ∀ text ∈ texts, Unbroken text := by
  constructor
  · intro h
    have hlength := length_flatMap_lines texts
    rw [h] at hlength
    rw [← newlines_eq_zero_iff]
    omega
  · intro h
    have hown : texts.flatMap lines = texts.flatMap fun text => [text] :=
      List.flatMap_congr fun text htext => lines_of_unbroken (h text htext)
    rw [hown, List.flatMap_singleton']

theorem unbroken_int (n : Int) : Unbroken (toString n) := by
  intro hmem
  exact absurd (Json.Reader.isWordChar_int n '\n' hmem) (by decide)

theorem unbroken_nat (n : Nat) : Unbroken (toString n) := unbroken_int n

theorem unbroken_commaSeparated {parts : List String} (h : ∀ part ∈ parts, Unbroken part) :
    Unbroken (Value.commaSeparated parts) := by
  unfold Value.commaSeparated
  induction parts with
  | nil => exact List.not_mem_nil
  | cons first rest ih =>
    have hfirst := h first List.mem_cons_self
    have hrest := ih fun part hpart => h part (List.mem_cons_of_mem _ hpart)
    cases rest with
    | nil =>
      rw [String.intercalate_singleton]
      exact hfirst
    | cons second rest =>
      rw [String.intercalate_cons_cons]
      exact (hfirst.append (by decide)).append hrest

end Text

open Text (Unbroken)

/-! ## 2. What is written on one line -/

theorem Severity.unbroken_label (s : Severity) : Unbroken s.label := by
  cases s <;> decide

/-- No text that the summary line is made of holds a newline. -/
structure Finding.OneLine (f : Finding) : Prop where
  ruleId : Unbroken f.ruleId
  path : Unbroken f.location.path.text
  typeName : ∀ name ∈ f.location.typeName, Unbroken name
  memberName : ∀ name ∈ f.location.memberName, Unbroken name
  measured : ∀ value ∈ f.detail? "measured", Unbroken value.plain
  threshold : ∀ value ∈ f.detail? "threshold", Unbroken value.plain

/-- A place holds a newline exactly if one of the names in it does. -/
theorem Location.unbroken_text_iff (l : Location) : Unbroken l.text ↔ Unbroken l.path.text ∧
    (∀ name ∈ l.typeName, Unbroken name) ∧ ∀ name ∈ l.memberName, Unbroken name := by
  have hnothing : Unbroken "" := by decide
  have hcolon : Unbroken ":" := by decide
  have hdot : Unbroken "." := by decide
  unfold Location.text
  rw [Text.unbroken_append_iff, Text.unbroken_append_iff, and_assoc]
  cases l.typeName <;> cases l.memberName <;>
    simp [Text.unbroken_append_iff, hnothing, hcolon, hdot]

/-- **The line of a finding** is one line exactly if all that it is made of from the finding is. -/
theorem Finding.unbroken_summaryLine_iff (f : Finding) : Unbroken f.summaryLine ↔ f.OneLine := by
  have hhead : Unbroken (f.severity.label ++ ": " ++ f.ruleId ++ " at " ++ f.location.text) ↔
      Unbroken f.ruleId ∧ Unbroken f.location.text := by
    have hcolon : Unbroken ": " := by decide
    have hat : Unbroken " at " := by decide
    simp only [Text.unbroken_append_iff, f.severity.unbroken_label, hcolon, hat, true_and,
      and_true]
  have htail : Unbroken (if (f.detail? "measured").isSome || (f.detail? "threshold").isSome then
      " — measured=" ++ f.measured.plain ++ " threshold=" ++ f.threshold.plain else "") ↔
      (∀ value ∈ f.detail? "measured", Unbroken value.plain) ∧
        ∀ value ∈ f.detail? "threshold", Unbroken value.plain := by
    have hmeasured : Unbroken " — measured=" := by decide
    have hthreshold : Unbroken " threshold=" := by decide
    have hnothing : Unbroken "" := by decide
    -- one of the two alone stands beside the word for nothing
    have hnull : Unbroken Value.null.plain := by decide
    unfold Finding.measured Finding.threshold
    cases f.detail? "measured" <;> cases f.detail? "threshold" <;>
      simp [Text.unbroken_append_iff, hmeasured, hthreshold, hnothing, hnull]
  unfold Finding.summaryLine
  rw [Text.unbroken_append_iff, hhead, htail, Location.unbroken_text_iff]
  constructor
  · rintro ⟨⟨hrule, hpath, htype, hmember⟩, hmeasured, hthreshold⟩
    exact ⟨hrule, hpath, htype, hmember, hmeasured, hthreshold⟩
  · rintro ⟨hrule, hpath, htype, hmember, hmeasured, hthreshold⟩
    exact ⟨⟨hrule, hpath, htype, hmember⟩, hmeasured, hthreshold⟩

/-! ## 3. Every report -/

namespace Report

/-- The last line is made of numbers and fixed words, so it is always one line. -/
theorem unbroken_totalsLine (r : Report) : Unbroken r.totalsLine := by
  have hcounts : Unbroken (Value.commaSeparated (r.severityCounts.map fun e =>
      e.1.label ++ "=" ++ toString e.2)) := by
    refine Text.unbroken_commaSeparated fun part hpart => ?_
    obtain ⟨e, -, rfl⟩ := List.mem_map.mp hpart
    exact (e.1.unbroken_label.append (by decide)).append (Text.unbroken_int e.2)
  have hverdict : Unbroken (if r.passed then "PASSED" else "FAILED") := by
    cases r.passed <;> decide
  have hnote : Unbroken (if r.cancelled then
      " (cancelled, " ++ toString r.unitsSkipped ++ " unit(s) skipped)" else "") := by
    cases r.cancelled with
    | false => exact List.not_mem_nil
    | true =>
      have hopening : Unbroken " (cancelled, " := by decide
      exact (hopening.append (Text.unbroken_nat r.unitsSkipped)).append (by decide)
  have htotal := (Text.unbroken_nat r.total).append (show Unbroken " finding(s) (" by decide)
  exact (((htotal.append hcounts).append (by decide)).append hverdict).append hnote

/-- The lines that are expected: the summary line of each finding, with the message under it if
messages are shown, and the totals. -/
def lineByLine (r : Report) : (showMessages : Bool) → List String
  | false => r.findings.map (·.summaryLine) ++ [r.totalsLine]
  | true => r.findings.flatMap (fun f => [f.summaryLine, "    " ++ f.message]) ++ [r.totalsLine]

/-- How many lines there should be: one or two for each finding, and the totals. -/
theorem length_lineByLine (r : Report) (showMessages : Bool) :
    (r.lineByLine showMessages).length =
      if showMessages then 2 * r.total + 1 else r.total + 1 := by
  unfold total
  cases showMessages with
  | false => simp [lineByLine]
  | true =>
    simp [lineByLine, List.length_flatMap]
    omega

theorem lineByLine_eq (r : Report) (showMessages : Bool) :
    r.lineByLine showMessages =
      r.findings.flatMap (findingLines showMessages) ++ [r.totalsLine] := by
  cases showMessages with
  | false =>
    unfold lineByLine
    rw [List.map_eq_flatMap]
    rfl
  | true => rfl

/-- The text is these lines, put together with newlines between them. -/
theorem plainText_eq (r : Report) (showMessages : Bool) :
    r.plainText showMessages = "\n".intercalate (r.lineByLine showMessages) := by
  rw [lineByLine_eq]
  rfl

/-- **The lines of the output** are those that there should be, each cut at its newlines. -/
theorem lines_plainText (r : Report) (showMessages : Bool) :
    Text.lines (r.plainText showMessages) = (r.lineByLine showMessages).flatMap Text.lines := by
  rw [plainText_eq]
  have hlength := r.length_lineByLine showMessages
  cases hlines : r.lineByLine showMessages with
  | nil =>
    rw [hlines] at hlength
    cases showMessages <;> simp at hlength
  | cons first rest => exact Text.lines_intercalate first rest

/-- The lines of one finding are unbroken if its summary is, and its message where that is shown. -/
theorem unbroken_findingLines_iff (f : Finding) (showMessages : Bool) :
    (∀ line ∈ findingLines showMessages f, Unbroken line) ↔
      f.OneLine ∧ (showMessages = true → Unbroken f.message) := by
  have hindent : Unbroken "    " := by decide
  unfold findingLines
  rw [List.forall_mem_cons, f.unbroken_summaryLine_iff]
  cases showMessages with
  | false => simp
  | true => simp [Text.unbroken_append_iff, hindent]

/-- The lines that are expected hold no newline exactly if the texts that they show do not. -/
theorem unbroken_lineByLine_iff (r : Report) (showMessages : Bool) :
    (∀ line ∈ r.lineByLine showMessages, Unbroken line) ↔
      ∀ f ∈ r.findings, f.OneLine ∧ (showMessages = true → Unbroken f.message) := by
  rw [lineByLine_eq, List.forall_mem_append]
  constructor
  · rintro ⟨hfindings, -⟩ f hf
    rw [← unbroken_findingLines_iff]
    exact fun line hline => hfindings line (List.mem_flatMap.mpr ⟨f, hf, hline⟩)
  · intro h
    refine ⟨fun line hline => ?_, fun line hline => ?_⟩
    · obtain ⟨f, hf, hmem⟩ := List.mem_flatMap.mp hline
      exact (unbroken_findingLines_iff f showMessages).mpr (h f hf) line hmem
    · rw [List.mem_singleton.mp hline]
      exact r.unbroken_totalsLine

/-- **One line per finding.** Cut at its newlines, the text of a report is the summary lines of its
findings, each with its message under it if messages are shown, and the totals, each of these cut at
its own newlines. There are as many lines too many as these have newlines; there are none too many,
and the lines are those that are expected, exactly if no finding has a newline in its rule, its
place, its measurements or, where it is shown, its message. -/
theorem plainText_lines (r : Report) (showMessages : Bool) :
    Text.lines (r.plainText showMessages) = (r.lineByLine showMessages).flatMap Text.lines ∧
      (Text.lines (r.plainText showMessages)).length =
        (if showMessages then 2 * r.total + 1 else r.total + 1) +
          Text.newlines (r.lineByLine showMessages) ∧
      (Text.lines (r.plainText showMessages) = r.lineByLine showMessages ↔
        ∀ f ∈ r.findings, f.OneLine ∧ (showMessages = true → Unbroken f.message)) := by
  have hlines := r.lines_plainText showMessages
  refine ⟨hlines, ?_, ?_⟩
  · rw [hlines, Text.length_flatMap_lines, length_lineByLine]
  · rw [hlines, Text.flatMap_lines_eq_self_iff, unbroken_lineByLine_iff]

/-- The finding about a rule whose check failed on a type with a newline in its name. The text of
the failure takes two lines. -/
def twoLineFault : Finding where
  ruleId := "rule-fault"
  severity := .info
  location :=
    { path := ⟨"shop/order.py"⟩, typeName := some "shop.Or\nder",
      member_needs_type := fun _ => rfl, position_needs_member := Location.position_needs_none }
  message := "Rule 'r' failed: ValueError: bad order\nno lines"
  category := .diagnostic
  payload := [("failed_rule", .text "r"), ("error", .text "ValueError")]

/-- With the messages or without them, the lines are not always those that are expected: this one
finding takes two lines, and four with its message. -/
theorem newline_adds_line :
    (¬ ∀ r : Report, Text.lines (r.plainText false) = r.lineByLine false) ∧
      ¬ ∀ r : Report, Text.lines (r.plainText true) = r.lineByLine true := by
  constructor
  · intro h
    have hlines : (Text.lines ((ofFindings [twoLineFault] 1).plainText false)).length = 3 := by
      decide +kernel
    rw [h, length_lineByLine] at hlines
    exact absurd hlines (by decide)
  · intro h
    have hlines : (Text.lines ((ofFindings [twoLineFault] 1).plainText true)).length = 5 := by
      decide +kernel
    rw [h, length_lineByLine] at hlines
    exact absurd hlines (by decide)

end Report

end Conformance
