import Conformance.Proofs.TimeBudget

/-!
# What an evaluation finds

This file says what the evaluation of a unit is, by rules, and proves that the evaluation computes
it. The rules come in two layers above the visit of `Conformance.Proofs.Walk`:

* **the outcome**: what is found at one site by rules that may fail at any point (`Site.Finds`);
* **the whole**: the outcomes put together and sorted (`SourceUnit.Walked`), with the two cases in
  which there is no visit at all (`SourceUnit.Evaluated`).

A failure is reported with its text, and a class of a user may be unable to form one. The relations
therefore speak of a `Teller`, and they have no rule for a failure without a text: where there is
one they determine nothing, and nothing is said here about the evaluation. That is why the argument
has two halves:

* **the pass**: if the relations determine findings, a pass comes to its end with these findings,
  layer by layer (`Pass.run_consult_of_finds`, `Pass.run_visitAll_of_finds`), so that there is one
  list of findings at most;
* **existence**: if all failures have texts, the relations determine findings
  (`SourceUnit.exists_evaluated`).
-/

set_option autoImplicit false

namespace Conformance

/-! ## 1. The rules -/

namespace Site

/-- The remark that a rule failed, with the text of the failure. -/
def NotesFailure (tell : Teller) (u : SourceUnit) (site : Site) (rule : ConfiguredRule) (e : Error)
    (note : Finding) : Prop :=
  ∃ text, tell e = .ok text ∧
    site.Notes u ruleFault
      ("Rule '" ++ rule.ruleId ++ "' failed: " ++ e.className ++ ": " ++ text)
      [("failed_rule", .text rule.ruleId), ("error", .text e.className)] note

/-- The remark that the checks of an element were skipped, with what the element lacks and which
rules would have applied. -/
def NotesSkipped (u : SourceUnit) (site : Site) (applicable : List ConfiguredRule)
    (note : Finding) : Prop :=
  site.Notes u incompleteModelData
    ("Checks skipped (" ++ Value.commaSeparated (applicable.map (·.ruleId)) ++
      "), front-end left out: " ++ Value.commaSeparated site.element.missing)
    [("missing", Value.texts site.element.missing),
      ("skipped_rules", Value.texts (applicable.map (·.ruleId)))] note

/-- One remark per rule whose predicate fails, in the order of the rules. -/
inductive PredicatesFail (tell : Teller) (u : SourceUnit) (site : Site) :
    List ConfiguredRule → List Finding → Prop
  | nil : PredicatesFail tell u site [] []
  | answers {rule : ConfiguredRule} {rest : List ConfiguredRule} {notes : List Finding} {b : Bool}
      (h : rule.definition.appliesTo site.element = .ok b)
      (others : PredicatesFail tell u site rest notes) :
      PredicatesFail tell u site (rule :: rest) notes
  | fails {rule : ConfiguredRule} {rest : List ConfiguredRule} {note : Finding}
      {notes : List Finding} {e : Error}
      (h : rule.definition.appliesTo site.element = .error e)
      (noted : site.NotesFailure tell u rule e note)
      (others : PredicatesFail tell u site rest notes) :
      PredicatesFail tell u site (rule :: rest) (note :: notes)

/-- A check contributes everything it found, or one remark if it failed at any point: what it
found before it failed is lost. -/
inductive CheckFinds (tell : Teller) (u : SourceUnit) (site : Site) (rule : ConfiguredRule) :
    List Finding → Prop
  | ends {run : CheckRun}
      (h : rule.definition.check site.element (site.context u rule) = run)
      (fine : run.failure = none) : CheckFinds tell u site rule run.findings
  | fails {run : CheckRun} {e : Error} {note : Finding}
      (h : rule.definition.check site.element (site.context u rule) = run)
      (failed : run.failure = some e) (noted : site.NotesFailure tell u rule e note) :
      CheckFinds tell u site rule [note]

/-- What is found at a site: first the predicates that fail; then nothing if no rule applies, one
remark if the element is incomplete, and otherwise what the checks of the applicable rules
contribute, in the order of the rules. -/
inductive Finds (tell : Teller) (u : SourceUnit) (rules : List ConfiguredRule) (site : Site) :
    List Finding → Prop
  | idle {faults : List Finding} (failed : PredicatesFail tell u site rules faults)
      (none : ∀ rule ∈ rules, rule.definition.appliesTo site.element ≠ .ok true) :
      Finds tell u rules site faults
  | skipped {faults : List Finding} {note : Finding}
      (failed : PredicatesFail tell u site rules faults)
      (some : ∃ rule ∈ rules, rule.definition.appliesTo site.element = .ok true)
      (incomplete : site.element.missing ≠ [])
      (noted : site.NotesSkipped u (rules.filter site.applies) note) :
      Finds tell u rules site (faults ++ [note])
  | checked {faults : List Finding} {found : List (List Finding)}
      (failed : PredicatesFail tell u site rules faults)
      (some : ∃ rule ∈ rules, rule.definition.appliesTo site.element = .ok true)
      (complete : site.element.missing = [])
      (checks : List.Forall₂ (CheckFinds tell u site) (rules.filter site.applies) found) :
      Finds tell u rules site (faults ++ found.flatten)

end Site

namespace SourceUnit

/-- All sites are visited, and what is found at them is put together and sorted. -/
def Walked (tell : Teller) (u : SourceUnit) (rules : List ConfiguredRule) (found : List Finding) :
    Prop :=
  ∃ sites outcomes, u.Visits sites ∧ List.Forall₂ (Site.Finds tell u rules) sites outcomes ∧
    IsStableSort outcomes.flatten found

/-- What an evaluation finds. Without rules there is nothing to find, and a unit without a layer is
not visited: it gets one remark that says so. -/
inductive Evaluated (tell : Teller) (u : SourceUnit) (rules : List ConfiguredRule) :
    List Finding → Prop
  | noRules (h : rules = []) : Evaluated tell u rules []
  | noLayer {note : Finding} (h : rules ≠ []) (absent : u.layer = none)
      (noted : u.NotesNoLayer note) : Evaluated tell u rules [note]
  | walked {found : List Finding} (h : rules ≠ []) (layered : u.layer ≠ none)
      (walk : Walked tell u rules found) : Evaluated tell u rules found

/-- Whatever fails at a site that is visited has a text. -/
def FailuresTold (tell : Teller) (u : SourceUnit) (rules : List ConfiguredRule) : Prop :=
  ∀ sites, u.Visits sites → ∀ site ∈ sites, ∀ rule ∈ rules, ∀ e, site.Fails u rule e →
    ∃ text, tell e = .ok text

end SourceUnit

/-! ## 2. The pass -/

namespace Pass

variable {tell : Teller} {u : SourceUnit} {site : Site} {rule : ConfiguredRule}
  {rules : List ConfiguredRule} {e : Error} {note : Finding} {notes found : List Finding}
  {clock : Clock}

/-- The remark on a failure, in terms of what it has to say: it exists if the failure can be told.
-/
theorem notesFailure_iff :
    site.NotesFailure tell u rule e note ↔
      ∃ text, tell e = .ok text ∧ note = site.failureNote u.path rule e.className text := by
  refine exists_congr fun text => and_congr_right fun _ => ?_
  exact Site.notes_iff (by decide) (by simp)
    (by simp [Context.NamesFree, keysOf, Context.callNames])

theorem notesSkipped_iff {applicable : List ConfiguredRule} :
    site.NotesSkipped u applicable note ↔ note = site.incompleteNote u.path applicable :=
  Site.notes_iff (by decide) (by simp) (by simp [Context.NamesFree, keysOf, Context.callNames])

/-- A failure with a text does not leave the pass. -/
theorem run_noteFailure (h : site.NotesFailure tell u rule e note) (p : Progress) :
    (noteFailure tell u site rule e).run p = .ok note p := by
  obtain ⟨text, htext, rfl⟩ := notesFailure_iff.mp h
  unfold noteFailure
  rw [htext]
  rfl

theorem run_ask_of_answers {b : Bool} (h : rule.definition.appliesTo site.element = .ok b)
    (p : Progress) : (ask tell u site rule).run p = .ok (site.applies rule) p := by
  unfold ask Site.applies
  rw [h]
  rfl

/-- A predicate that fails adds the remark on its failure, if the failure can be told. -/
theorem run_ask_of_fails (h : rule.definition.appliesTo site.element = .error e)
    (hnoted : site.NotesFailure tell u rule e note) (p : Progress) :
    (ask tell u site rule).run p =
      .ok (site.applies rule) { p with findings := p.findings ++ [note] } := by
  have hcatch : (ask tell u site rule).run p = (do
      report [← noteFailure tell u site rule e]
      return false : Pass Bool).run p := by
    unfold ask
    rw [h]
    rfl
  rw [hcatch, EStateM.run_bind, run_noteFailure hnoted]
  unfold Site.applies
  rw [h]
  rfl

/-- The rules that are kept are those that apply, and the failures are reported in their order. -/
theorem run_askAll_of_predicatesFail (h : site.PredicatesFail tell u rules notes) (p : Progress) :
    (askAll tell u site rules).run p =
      .ok (rules.filter site.applies) { p with findings := p.findings ++ notes } := by
  induction h generalizing p with
  | nil =>
    rw [List.append_nil]
    rfl
  | answers h _ ih =>
    rw [askAll, EStateM.run_bind, run_ask_of_answers h]
    dsimp only
    rw [EStateM.run_bind, ih]
    dsimp only
    rw [EStateM.run_pure, List.filter_cons]
  | fails h hnoted _ ih =>
    rw [askAll, EStateM.run_bind, run_ask_of_fails h hnoted]
    dsimp only
    rw [EStateM.run_bind, ih]
    dsimp only
    rw [EStateM.run_pure, List.filter_cons, List.append_assoc, List.singleton_append]

/-- A check that ends reports its findings. -/
theorem run_check_of_ok (h : (site.checkRun u rule).result = .ok found) (p : Progress) :
    (check tell u site rule).run p = .ok ()
      { p with
        findings := p.findings ++ found
        cancels := p.cancels || (site.checkRun u rule).cancels } := by
  unfold check callCheck
  rw [h]
  rfl

/-- A check that fails reports the remark on its failure, if the failure can be told. What it has
found until then is not reported. -/
theorem run_check_of_error (h : (site.checkRun u rule).result = .error e)
    (hnoted : site.NotesFailure tell u rule e note) (p : Progress) :
    (check tell u site rule).run p = .ok ()
      { p with
        findings := p.findings ++ [note]
        cancels := p.cancels || (site.checkRun u rule).cancels } := by
  have hcatch : (check tell u site rule).run p =
      ((do return [← noteFailure tell u site rule e] : Pass (List Finding)) >>= report).run
        { p with cancels := p.cancels || (site.checkRun u rule).cancels } := by
    unfold check callCheck
    rw [h]
    rfl
  rw [hcatch, EStateM.run_bind, EStateM.run_bind, run_noteFailure hnoted]
  rfl

/-- One check adds what it finds, all of it or a remark and nothing else. -/
theorem run_check_of_checkFinds (h : site.CheckFinds tell u rule found) (p : Progress) :
    (check tell u site rule).run p = .ok ()
      { p with
        findings := p.findings ++ found
        cancels := p.cancels || (site.checkRun u rule).cancels } := by
  cases h with
  | @ends run h fine =>
    have hrun : site.checkRun u rule = run := h
    refine run_check_of_ok ?_ p
    rw [hrun, CheckRun.result, fine]
  | @fails run cause note h failed noted =>
    have hrun : site.checkRun u rule = run := h
    refine run_check_of_error ?_ noted p
    rw [hrun, CheckRun.result, failed]

theorem run_checkAll_of_checkFinds {founds : List (List Finding)}
    (h : List.Forall₂ (Site.CheckFinds tell u site) rules founds) (p : Progress) :
    (checkAll tell u site rules).run p = .ok ()
      { p with
        findings := p.findings ++ founds.flatten
        cancels := p.cancels || rules.any fun rule => (site.checkRun u rule).cancels } := by
  induction h generalizing p with
  | nil =>
    rw [List.flatten_nil, List.append_nil, List.any_nil, Bool.or_false]
    rfl
  | cons hfirst _ ih =>
    rw [checkAll, EStateM.run_bind, run_check_of_checkFinds hfirst]
    dsimp only
    rw [ih, List.flatten_cons, List.any_cons, List.append_assoc, Bool.or_assoc]

/-- **One site.** A pass finds there what the rules say, and goes on. -/
theorem run_consult_of_finds (h : site.Finds tell u rules found) (p : Progress) :
    (consult tell u rules site).run p =
      .ok () (p.add ⟨found, (site.visit u rules).cancels⟩) := by
  unfold consult Progress.add
  rw [Site.cancels_visit]
  cases h with
  | idle failed none =>
    have hidle := Site.filter_applies_eq_nil_iff.mpr none
    rw [EStateM.run_bind, run_askAll_of_predicatesFail failed, if_pos hidle, Bool.or_false]
    dsimp only
    rw [if_pos (List.isEmpty_iff.mpr hidle)]
    rfl
  | skipped failed some incomplete noted =>
    have hsome := Site.filter_applies_ne_nil_iff.mpr some
    rw [EStateM.run_bind, run_askAll_of_predicatesFail failed, if_neg hsome, if_neg incomplete,
      Bool.or_false, notesSkipped_iff.mp noted, ← List.append_assoc]
    dsimp only
    rw [if_neg (mt List.isEmpty_iff.mp hsome), if_pos (by simpa using incomplete)]
    rfl
  | checked failed some complete checks =>
    have hsome := Site.filter_applies_ne_nil_iff.mpr some
    rw [EStateM.run_bind, run_askAll_of_predicatesFail failed, if_neg hsome, if_pos complete]
    dsimp only
    rw [if_neg (mt List.isEmpty_iff.mp hsome), if_neg (by simp [complete])]
    show (checkAll tell u site _).run _ = _
    rw [run_checkAll_of_checkFinds checks, List.append_assoc]

/-- **All sites.** A pass without a deadline finds what is found at each, in order. -/
theorem run_visitAll_of_finds {sites : List Site} {outcomes : List (List Finding)}
    (h : List.Forall₂ (Site.Finds tell u rules) sites outcomes) (p : Progress) :
    (visitAll tell u rules clock none sites).run p = .ok ()
      { p with
        findings := p.findings ++ outcomes.flatten
        cancels := p.cancels || u.visitCancels rules sites } := by
  unfold SourceUnit.visitCancels
  induction h generalizing p with
  | nil =>
    rw [List.flatten_nil, List.append_nil, List.any_nil, Bool.or_false]
    rfl
  | @cons site found rest outcomes hfirst _ ih =>
    have hvisit : (visit tell u rules clock none site).run p = _ := run_consult_of_finds hfirst p
    rw [visitAll, EStateM.run_bind, hvisit]
    dsimp only
    rw [ih]
    unfold Progress.add
    rw [List.flatten_cons, List.any_cons, List.append_assoc, Bool.or_assoc]

end Pass

/-- **The pass.** An evaluation comes to its end with what the rules determine. -/
theorem Evaluator.evaluateTelling_of_evaluated {tell : Teller} {u : SourceUnit} {rules : RuleSet}
    {found : List Finding} (h : u.Evaluated tell rules.rules found) (clock : Clock) :
    ∃ cancels, Evaluator.evaluateTelling ⟨none⟩ tell u rules clock = .ok ⟨⟨found, cancels⟩, 0⟩ := by
  -- without a budget there is no deadline, and what the pass leaves is sorted
  have hpass {p : Progress} (hrules : rules.rules ≠ [])
      (hthrough : (Pass.through tell u rules.rules clock none).run {} = .ok () p) :
      Evaluator.evaluateTelling ⟨none⟩ tell u rules clock =
        .ok ⟨⟨sortFindings p.findings, p.cancels⟩, p.readings⟩ := by
    have hrun : (pass ⟨none⟩ tell u rules clock).run {} = .ok () p := by
      unfold pass
      rw [if_neg (by simpa using hrules)]
      exact Pass.run_tryCatch_ok hthrough
    unfold evaluateTelling
    rw [hrun]
  cases h with
  | noRules h =>
    refine ⟨false, ?_⟩
    have hrun : (pass ⟨none⟩ tell u rules clock).run {} = .ok () {} := by
      unfold pass
      rw [h]
      rfl
    unfold evaluateTelling
    rw [hrun]
    dsimp only
    rw [sortFindings_nil]
  | noLayer h absent noted =>
    refine ⟨false, ?_⟩
    rw [(SourceUnit.notesNoLayer_iff absent).mp noted]
    have hthrough := hpass h (Pass.run_through_noLayer absent {})
    rwa [List.nil_append, sortFindings_singleton] at hthrough
  | walked h layered walk =>
    obtain ⟨sites, outcomes, hsites, houtcomes, hsorted⟩ := walk
    obtain rfl := SourceUnit.visits_iff.mp hsites
    have hthrough : (Pass.through tell u rules.rules clock none).run {} =
        .ok () ⟨outcomes.flatten, u.visitCancels rules.rules u.sites, 0⟩ := by
      unfold Pass.through
      rw [if_neg (by rw [SourceUnit.missing_eq_nil_iff.mpr layered]; simp)]
      exact Pass.run_visitAll_of_finds houtcomes {}
    rw [isStableSort_iff.mp hsorted]
    exact ⟨_, hpass h hthrough⟩

/-- With the texts of the library there is one list of findings at most, and the sites visited one
after the other give it. -/
theorem SourceUnit.Walked.eq_sort_visitFindings {u : SourceUnit} {rules : List ConfiguredRule}
    {found : List Finding} (h : u.Walked .own rules found) :
    found = sortFindings (u.visitFindings rules) := by
  obtain ⟨sites, outcomes, hsites, houtcomes, hsorted⟩ := h
  obtain rfl := SourceUnit.visits_iff.mp hsites
  -- both descriptions of the pass speak of the same run
  have hrun : (Pass.visitAll .own u rules (fun _ => .whole 0) none u.sites).run {} = _ :=
    Pass.run_visitAll_of_finds houtcomes {}
  rw [Pass.run_visitAll_unbounded] at hrun
  injection hrun with _ hprogress
  have hfindings : u.visitFindings rules = outcomes.flatten :=
    congrArg Progress.findings hprogress
  rw [hfindings]
  exact isStableSort_iff.mp hsorted

/-! ## 3. Existence -/

namespace Site

variable {tell : Teller} {u : SourceUnit} {site : Site} {rules : List ConfiguredRule}

theorem exists_notesFailure {rule : ConfiguredRule} {e : Error} (h : ∃ text, tell e = .ok text) :
    ∃ note, site.NotesFailure tell u rule e note := by
  obtain ⟨text, htext⟩ := h
  exact ⟨_, Pass.notesFailure_iff.mpr ⟨text, htext, rfl⟩⟩

/-- The failures of all predicates at a site have their remarks if each can be told. -/
theorem exists_predicatesFail
    (htold : ∀ rule ∈ rules, ∀ e, site.Fails u rule e → ∃ text, tell e = .ok text) :
    ∃ notes, site.PredicatesFail tell u rules notes := by
  induction rules with
  | nil => exact ⟨[], .nil⟩
  | cons rule rest ih =>
    obtain ⟨notes, hrest⟩ := ih fun rule hrule => htold rule (List.mem_cons_of_mem _ hrule)
    cases h : rule.definition.appliesTo site.element with
    | ok b => exact ⟨notes, .answers h hrest⟩
    | error e =>
      obtain ⟨note, hnoted⟩ := exists_notesFailure (htold rule List.mem_cons_self e (.predicate h))
      exact ⟨note :: notes, .fails h hnoted hrest⟩

/-- A check has findings or a failure, and a failure can be told. -/
theorem exists_checkFinds {rule : ConfiguredRule}
    (happlies : rule.definition.appliesTo site.element = .ok true)
    (hcomplete : site.element.missing = [])
    (htold : ∀ e, site.Fails u rule e → ∃ text, tell e = .ok text) :
    ∃ found, site.CheckFinds tell u rule found := by
  cases h : (rule.definition.check site.element (site.context u rule)).failure with
  | none => exact ⟨_, .ends rfl h⟩
  | some e =>
    obtain ⟨note, hnoted⟩ := exists_notesFailure (htold e (.check happlies hcomplete h))
    exact ⟨[note], .fails rfl h hnoted⟩

/-- A relation that holds for each member with some result makes a list of results. -/
theorem exists_forall₂ {α β : Type} {R : α → β → Prop} {as : List α}
    (h : ∀ a ∈ as, ∃ b, R a b) : ∃ bs, List.Forall₂ R as bs := by
  induction as with
  | nil => exact ⟨[], .nil⟩
  | cons a rest ih =>
    obtain ⟨b, hb⟩ := h a List.mem_cons_self
    obtain ⟨bs, hbs⟩ := ih fun a ha => h a (List.mem_cons_of_mem _ ha)
    exact ⟨b :: bs, .cons hb hbs⟩

/-- **Outcomes exist** at every site, so a pass can always go on. -/
theorem exists_finds
    (htold : ∀ rule ∈ rules, ∀ e, site.Fails u rule e → ∃ text, tell e = .ok text) :
    ∃ found, site.Finds tell u rules found := by
  obtain ⟨faults, hfaults⟩ := exists_predicatesFail htold
  by_cases hidle : rules.filter site.applies = []
  · exact ⟨faults, .idle hfaults (filter_applies_eq_nil_iff.mp hidle)⟩
  have hsome := filter_applies_ne_nil_iff.mp hidle
  by_cases hcomplete : site.element.missing = []
  · have hcheck : ∀ rule ∈ rules.filter site.applies,
        ∃ found, site.CheckFinds tell u rule found := by
      intro rule hrule
      obtain ⟨hrule, happlies⟩ := List.mem_filter.mp hrule
      exact exists_checkFinds (applies_iff.mp happlies) hcomplete (htold rule hrule)
    obtain ⟨found, hfound⟩ := exists_forall₂ hcheck
    exact ⟨_, .checked hfaults hsome hcomplete hfound⟩
  · exact ⟨_, .skipped hfaults hsome hcomplete (Pass.notesSkipped_iff.mpr rfl)⟩

end Site

/-- **Existence.** If all failures have texts, there is something that the evaluation finds. -/
theorem SourceUnit.exists_evaluated {tell : Teller} {u : SourceUnit} {rules : List ConfiguredRule}
    (htold : u.FailuresTold tell rules) : ∃ found, u.Evaluated tell rules found := by
  by_cases hrules : rules = []
  · exact ⟨[], .noRules hrules⟩
  by_cases hlayer : u.layer = none
  · exact ⟨_, .noLayer hrules hlayer (notesNoLayer_missingNote hlayer)⟩
  have hfinds : ∀ site ∈ u.sites, ∃ found, site.Finds tell u rules found := fun site hsite =>
    Site.exists_finds (htold u.sites (visits_iff.mpr rfl) site hsite)
  obtain ⟨outcomes, houtcomes⟩ := Site.exists_forall₂ hfinds
  exact ⟨_, .walked hrules hlayer
    ⟨u.sites, outcomes, visits_iff.mpr rfl, houtcomes, isStableSort_iff.mpr rfl⟩⟩

/-! ## 4. The result -/

/-- **What an evaluation finds.** If everything that predicates and checks fail with has a text, an
evaluation without a time budget comes to an end with findings, and its findings are those that the
rules of this file determine. With the texts of the library it is `Evaluator.evaluate`. -/
theorem Evaluator.evaluate_follows_rules {tell : Teller} {u : SourceUnit} {rules : RuleSet}
    (htold : u.FailuresTold tell rules.rules) (clock : Clock) :
    ∃ evaluator result, Evaluator.make none = .ok evaluator ∧
      evaluator.evaluateTelling tell u rules clock = .ok result ∧
      (∀ found, u.Evaluated tell rules.rules found ↔ found = result.findings) ∧
      (tell = .own → evaluator.evaluate u rules clock = .ok result) := by
  obtain ⟨found, hfound⟩ := SourceUnit.exists_evaluated htold
  obtain ⟨cancels, hresult⟩ := evaluateTelling_of_evaluated hfound clock
  refine ⟨⟨none⟩, _, rfl, hresult, fun other => ⟨fun hother => ?_, ?_⟩, ?_⟩
  · -- two lists that are determined are both what the one pass finds
    obtain ⟨others, hsame⟩ := evaluateTelling_of_evaluated hother clock
    rw [hresult] at hsame
    exact congrArg (fun result => result.findings) (Except.ok.inj hsame).symm
  · rintro rfl
    exact hfound
  · rintro rfl
    rw [← evaluateByPass_eq]
    exact hresult

/-- A teller that knows the texts of timeouts only. -/
def timeoutTeller : Teller
  | .timeout t => .ok t.message
  | _ => .error .notFound

/-- The check that fails with a timeout has made a finding by then. What is left of it is the remark
that it failed. -/
theorem Evaluator.evaluate_follows_rules_sample :
    firstUnit.FailuresTold timeoutTeller timingOutSet.rules ∧
    ∃ evaluator result, Evaluator.make none = .ok evaluator ∧
      evaluator.evaluateTelling timeoutTeller firstUnit timingOutSet (fun _ => .whole 0) =
        .ok result ∧
      firstUnit.Evaluated timeoutTeller timingOutSet.rules result.findings ∧
      result.findings.map (·.message) =
        ["Rule 't' failed: EvaluationTimeout: Evaluation of 'a' exceeded 1s budget"] := by
  have htold : firstUnit.FailuresTold timeoutTeller timingOutSet.rules := by
    intro sites hsites site hsite rule hrule e hfails
    obtain rfl := List.mem_singleton.mp hrule
    rw [SourceUnit.visits_iff.mp hsites] at hsite
    cases hfails with
    | predicate h => exact absurd h (by simp [timingOut, PlainRule.definition, Predicate.kindIn])
    | check happlies _ h =>
      rcases List.mem_cons.mp hsite with rfl | hsite
      · cases happlies
      · -- at the type the first step succeeds, so it is the second that fails
        obtain rfl := List.mem_singleton.mp hsite
        obtain rfl : Error.timeout ownTimeout = e := Option.some.inj h
        exact ⟨_, rfl⟩
  obtain ⟨evaluator, result, hmake, hresult, hexact, -⟩ :=
    Evaluator.evaluate_follows_rules htold fun _ => .whole 0
  refine ⟨htold, evaluator, result, hmake, hresult, (hexact _).mpr rfl, ?_⟩
  obtain rfl : (⟨none⟩ : Evaluator) = evaluator := Except.ok.inj hmake
  obtain rfl := Except.ok.inj hresult
  show (sortFindings [(Site.type bareType).failureNote firstUnit.path
    ⟨timingOut, timingOut.defaults⟩ "EvaluationTimeout" ownTimeout.message]).map (·.message) = _
  rw [sortFindings_singleton]
  rfl

/-- A unit without a layer is not visited: what is found in it is not what is found at its sites.
And a failure without a text is not reported at all: its own failure is what the evaluation ends
with. -/
theorem unlayered_unit_not_walked :
    (¬ ∀ (u : SourceUnit) (rules : RuleSet),
      u.Walked .own rules.rules (u.evaluate rules).findings) ∧
    ¬ ∀ (tell : Teller) (u : SourceUnit) (rules : RuleSet) (clock : Clock), u.layer ≠ none →
      ∃ result, Evaluator.evaluateTelling ⟨none⟩ tell u rules clock = .ok result := by
  constructor
  · intro h
    have heq := (h unlayeredUnit typeReporterSet).eq_sort_visitFindings
    have hvisit : (unlayeredUnit.visitFindings typeReporterSet.rules).map (·.ruleId) = ["r"] := by
      decide
    have hevaluate : (unlayeredUnit.evaluate typeReporterSet).findings.map (·.ruleId) =
        [incompleteModelData] := by
      decide
    -- sorting changes no identifier, so the two lists of identifiers would be permutations
    have hperm := (sortFindings_perm (unlayeredUnit.visitFindings typeReporterSet.rules)).map
      (·.ruleId)
    rw [← heq, hevaluate, hvisit] at hperm
    exact absurd hperm (by decide)
  · intro h
    obtain ⟨result, hresult⟩ := h (fun _ => .error .notFound) firstUnit timingOutSet
      (fun _ => .whole 0) (Option.some_ne_none _)
    cases hresult

end Conformance
