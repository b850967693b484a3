import Conformance.Rule.Builtin
import Conformance.Rule.Script

/-!
# Identifiers of rules

The identifier of a rule is in kebab case: words of small letters and digits with single hyphens
between them, the first of which starts with a letter. What that means is said here as a way to
write an identifier down, as a first letter, the rest of the first word and then groups of a hyphen
and a word (`KebabCase`); a rule checks an identifier by one pass that remembers whether it has just
passed a hyphen.

The two agree (`RuleId.isKebabCase_iff`), and yet a rule accepts more than identifiers in kebab
case. It also accepts each of them with a line feed after it, and nothing else. An identifier with a
line feed breaks every text that gives a finding one line.
-/

set_option autoImplicit false

namespace Conformance

/-! ## 1. Kebab case -/

/-- A small letter of the Latin alphabet. -/
def SmallLetter (c : Char) : Prop := 'a' ≤ c ∧ c ≤ 'z'

/-- A decimal digit of the Latin alphabet. -/
def LatinDigit (c : Char) : Prop := '0' ≤ c ∧ c ≤ '9'

/-- Small letters and digits only, possibly none. -/
def WordChars (word : List Char) : Prop := ∀ c ∈ word, SmallLetter c ∨ LatinDigit c

/-- Words that each follow a hyphen, none of them empty. -/
def WordGroups (groups : List (List Char)) : Prop := ∀ word ∈ groups, word ≠ [] ∧ WordChars word

/-- The groups as they are written: a hyphen in front of each. -/
def hyphenated (groups : List (List Char)) : List Char := groups.flatMap ('-' :: ·)

/-- A small letter, then small letters and digits, then any number of groups of one hyphen and at
least one small letter or digit, and nothing before or after. -/
def KebabCase (id : String) : Prop :=
  ∃ (first : Char) (word : List Char) (groups : List (List Char)), SmallLetter first ∧
    WordChars word ∧ WordGroups groups ∧ id.toList = first :: (word ++ hyphenated groups)

namespace RuleId

/-- The test on characters is the class that is meant. -/
theorem isSmallLetter_iff {c : Char} : isSmallLetter c = true ↔ SmallLetter c := by
  unfold isSmallLetter SmallLetter
  rw [Bool.and_eq_true, decide_eq_true_eq, decide_eq_true_eq]

theorem isWordChar_iff {c : Char} : isWordChar c = true ↔ SmallLetter c ∨ LatinDigit c := by
  unfold isWordChar LatinDigit
  rw [Bool.or_eq_true, Bool.and_eq_true, isSmallLetter_iff, decide_eq_true_eq, decide_eq_true_eq]

/-- The rest of an identifier: what is left of a word, then groups. After a hyphen the word must
not be empty. -/
def Rest (afterHyphen : Bool) (cs : List Char) : Prop :=
  ∃ word groups, (afterHyphen = true → word ≠ []) ∧ WordChars word ∧ WordGroups groups ∧
    cs = word ++ hyphenated groups

theorem rest_nil_iff {afterHyphen : Bool} : Rest afterHyphen [] ↔ afterHyphen = false := by
  constructor
  · rintro ⟨word, groups, hword, -, -, heq⟩
    have hempty : word = [] := (List.append_eq_nil_iff.mp heq.symm).1
    exact Bool.eq_false_iff.mpr fun hafter => hword hafter hempty
  · intro hafter
    refine ⟨[], [], fun htrue => ?_, ?_, ?_, rfl⟩
    · rw [hafter] at htrue
      exact absurd htrue Bool.false_ne_true
    · exact fun c hc => absurd hc List.not_mem_nil
    · exact fun word hword => absurd hword List.not_mem_nil

/-- A letter or digit goes on with the word, whatever was in front of it. -/
theorem rest_cons_word {afterHyphen : Bool} {c : Char} {cs : List Char}
    (hc : isWordChar c = true) : Rest afterHyphen (c :: cs) ↔ Rest false cs := by
  constructor
  · rintro ⟨word, groups, -, hword, hgroups, heq⟩
    cases word with
    | nil =>
      -- then `c` would be the hyphen of a group
      cases groups with
      | nil => exact absurd heq (by simp [hyphenated])
      | cons group others =>
        have hhyphen : c = '-' := (List.cons.inj heq).1
        rw [hhyphen] at hc
        exact absurd hc (by decide)
    | cons w word =>
      exact ⟨word, groups, fun h => absurd h Bool.false_ne_true,
        fun x hx => hword x (List.mem_cons_of_mem _ hx), hgroups, (List.cons.inj heq).2⟩
  · rintro ⟨word, groups, -, hword, hgroups, rfl⟩
    refine ⟨c :: word, groups, fun _ => List.cons_ne_nil _ _, ?_, hgroups, rfl⟩
    intro x hx
    rcases List.mem_cons.mp hx with rfl | hx
    · exact isWordChar_iff.mp hc
    · exact hword x hx

/-- Any other character has to be a hyphen, and there is none in front of it. -/
theorem rest_cons_other {afterHyphen : Bool} {c : Char} {cs : List Char}
    (hc : isWordChar c = false) :
    Rest afterHyphen (c :: cs) ↔ c = '-' ∧ afterHyphen = false ∧ Rest true cs := by
  constructor
  · rintro ⟨word, groups, hafter, hword, hgroups, heq⟩
    -- no word can begin here, so the character is the hyphen before the next one
    cases word with
    | cons w word =>
      have hsame : c = w := (List.cons.inj heq).1
      have hchar := isWordChar_iff.mpr (hword w List.mem_cons_self)
      rw [← hsame, hc] at hchar
      exact absurd hchar Bool.false_ne_true
    | nil =>
      cases groups with
      | nil => exact absurd heq (by simp [hyphenated])
      | cons group others =>
        obtain ⟨hhyphen, hrest⟩ := List.cons.inj heq
        obtain ⟨hsome, hchars⟩ := hgroups group List.mem_cons_self
        refine ⟨hhyphen, Bool.eq_false_iff.mpr fun h => hafter h rfl, group, others, fun _ => hsome,
          hchars, fun word hmem => hgroups word (List.mem_cons_of_mem _ hmem), hrest⟩
  · rintro ⟨rfl, hafter, group, others, hsome, hchars, hothers, rfl⟩
    refine ⟨[], group :: others, fun h => absurd (hafter ▸ h) Bool.false_ne_true,
      fun x hx => absurd hx List.not_mem_nil, ?_, by simp [hyphenated]⟩
    intro word hword
    rcases List.mem_cons.mp hword with rfl | hword
    · exact ⟨hsome rfl, hchars⟩
    · exact hothers word hword

/-- **The pass.** It goes to the end exactly if what it reads is the rest of an identifier. -/
theorem isWords_iff (afterHyphen : Bool) (cs : List Char) :
    isWords afterHyphen cs = true ↔ Rest afterHyphen cs := by
  induction cs generalizing afterHyphen with
  | nil => rw [isWords, rest_nil_iff, Bool.not_eq_true']
  | cons c rest ih =>
    unfold isWords
    cases hc : isWordChar c with
    | true => rw [if_pos rfl, ih, rest_cons_word hc]
    | false =>
      rw [if_neg Bool.false_ne_true, rest_cons_other hc, Bool.and_eq_true, Bool.and_eq_true, ih,
        beq_iff_eq, Bool.not_eq_true', and_assoc]

/-- **Kebab case**: the reader accepts the words joined by single hyphens, and nothing else. -/
theorem isKebabCase_iff {id : String} : isKebabCase id.toList = true ↔ KebabCase id := by
  unfold KebabCase
  cases id.toList with
  | nil => simp [isKebabCase]
  | cons c rest =>
    rw [isKebabCase, Bool.and_eq_true, isSmallLetter_iff, isWords_iff]
    constructor
    · rintro ⟨hc, word, groups, -, hword, hgroups, rfl⟩
      exact ⟨c, word, groups, hc, hword, hgroups, rfl⟩
    · rintro ⟨first, word, groups, hfirst, hword, hgroups, heq⟩
      obtain ⟨rfl, rfl⟩ := List.cons.inj heq
      exact ⟨hfirst, word, groups, fun h => absurd h Bool.false_ne_true, hword, hgroups, rfl⟩

/-! ## 2. What is accepted -/

/-- A text that ends in a line feed is what is in front of it with a line feed after it. -/
theorem eq_append_lineFeed_iff {id name : String} :
    id = name ++ "\n" ↔ id.toList.getLast? = some '\n' ∧ id.toList.dropLast = name.toList := by
  have hlists : id = name ++ "\n" ↔ id.toList = name.toList ++ ['\n'] := by
    rw [← String.toList_inj, String.toList_append]
    rfl
  rw [hlists]
  constructor
  · intro h
    rw [h, List.getLast?_concat, List.dropLast_concat]
    exact ⟨rfl, rfl⟩
  · rintro ⟨hlast, hfront⟩
    obtain ⟨front, hsplit⟩ := List.getLast?_eq_some_iff.mp hlast
    rw [hsplit, List.dropLast_concat] at hfront
    rw [hsplit, hfront]

/-- An identifier in kebab case is accepted, and so is one with a line feed after it. -/
theorem isAccepted_iff {id : String} :
    isAccepted id = true ↔ KebabCase id ∨ ∃ name, KebabCase name ∧ id = name ++ "\n" := by
  unfold isAccepted
  rw [Bool.or_eq_true, isKebabCase_iff, Bool.and_eq_true, beq_iff_eq]
  refine or_congr_right ?_
  constructor
  · rintro ⟨hlast, hfront⟩
    have hname : (String.ofList id.toList.dropLast).toList = id.toList.dropLast :=
      String.toList_ofList
    rw [← hname] at hfront
    exact ⟨_, isKebabCase_iff.mp hfront, eq_append_lineFeed_iff.mpr ⟨hlast, hname.symm⟩⟩
  · rintro ⟨name, hname, heq⟩
    obtain ⟨hlast, hfront⟩ := eq_append_lineFeed_iff.mp heq
    exact ⟨hlast, hfront ▸ isKebabCase_iff.mpr hname⟩

end RuleId

namespace RuleDefinition

variable {defaults : RuleConfig} {profiles : Table (Table Value)}

/-- Profiles that set thresholds of the defaults only, the default profile being one of them. -/
structure ProfilesFit (defaults : RuleConfig) (profiles : Table (Table Value)) : Prop where
  known : ∀ p ∈ profiles.entries, ∀ name ∈ p.2.keys, name ∈ defaults.thresholds.keys
  chosen : ∀ p ∈ defaults.profile, p ∈ profiles.keys

/-- What is asked of profiles is kept with every definition. -/
theorem profilesFit (d : RuleDefinition) : ProfilesFit d.defaults d.profiles :=
  ⟨d.profiles_known, d.default_profile⟩

/-- Where only the identifier can be at fault, a rule with an accepted one is made. -/
theorem make_eq_ok (h : ProfilesFit defaults profiles) {id : String}
    (hid : RuleId.isAccepted id = true) (description : String) (category : RuleCategory)
    (appliesTo : Predicate) (check : Check) :
    make id description category (some appliesTo) (some check) defaults profiles = .ok
      { ruleId := id, description, category, appliesTo, check, defaults, profiles
        ruleId_accepted := hid, profiles_known := h.known, default_profile := h.chosen } := by
  have hunknown : profiles.entries.find?
      (fun p => !(unknownThresholds defaults p.2).isEmpty) = none := by
    rw [List.find?_eq_none]
    intro p hp
    have hnone : unknownThresholds defaults p.2 = [] := by
      refine List.filter_eq_nil_iff.mpr fun name hname => ?_
      simpa using h.known p hp name hname
    simp [hnone]
  unfold make
  rw [dif_pos hid]
  dsimp only
  split
  · rename_i p hp
    rw [hunknown] at hp
    exact absurd hp (by simp)
  · rw [dif_pos h.chosen]

/-- An identifier that is not accepted is refused before anything else is looked at. -/
theorem make_eq_error {id : String} (hid : RuleId.isAccepted id = false) (description : String)
    (category : RuleCategory) (appliesTo : Option Predicate) (check : Option Check)
    (defaults : RuleConfig) (profiles : Table (Table Value)) :
    make id description category appliesTo check defaults profiles =
      .error (.notKebabCase id) := by
  unfold make
  rw [dif_neg (by simp [hid])]

/-- **Which identifiers a rule may have.** Let everything else that a rule is made of be in order.
Then the rule is made, under its identifier, exactly if the identifier is in kebab case or is in
kebab case with one line feed after it; and otherwise it is refused with an error of values that
shows the identifier. For an identifier that does not end in a line feed it is therefore kebab case
alone that decides. A refusal does not depend on anything else being in order. -/
theorem accepted_identifiers (h : ProfilesFit defaults profiles) (id description : String)
    (category : RuleCategory) (appliesTo : Predicate) (check : Check) :
    ((∃ d, make id description category (some appliesTo) (some check) defaults profiles = .ok d ∧
        d.ruleId = id) ↔
      KebabCase id ∨ ∃ name, KebabCase name ∧ id = name ++ "\n") ∧
    (id.toList.getLast? ≠ some '\n' →
      ((∃ d, make id description category (some appliesTo) (some check) defaults profiles =
        .ok d) ↔ KebabCase id)) ∧
    (¬ (KebabCase id ∨ ∃ name, KebabCase name ∧ id = name ++ "\n") →
      ∀ (predicate? : Option Predicate) (check? : Option Check) (config : RuleConfig)
        (presets : Table (Table Value)), ∃ e,
          make id description category predicate? check? config presets = .error e ∧
          e.className = "ValueError" ∧
          e.message = "rule_id must be kebab-case, got " ++ Text.quoted id) := by
  have hrefused : ¬ RuleId.isAccepted id = true → ∀ d,
      make id description category (some appliesTo) (some check) defaults profiles ≠ .ok d := by
    intro hid d hmade
    rw [make_eq_error (Bool.not_eq_true _ ▸ hid)] at hmade
    exact absurd hmade (by simp)
  refine ⟨?_, fun hlast => ?_, fun hid predicate? check? config presets => ?_⟩
  · rw [← RuleId.isAccepted_iff]
    constructor
    · rintro ⟨d, hmade, -⟩
      exact Decidable.byContradiction fun hid => hrefused hid d hmade
    · exact fun hid => ⟨_, make_eq_ok h hid description category appliesTo check, rfl⟩
  · -- what ends in a line feed is set aside
    have honly : RuleId.isAccepted id = true ↔ KebabCase id := by
      rw [RuleId.isAccepted_iff, or_iff_left]
      rintro ⟨name, -, heq⟩
      exact hlast (RuleId.eq_append_lineFeed_iff.mp heq).1
    rw [← honly]
    constructor
    · rintro ⟨d, hmade⟩
      exact Decidable.byContradiction fun hid => hrefused hid d hmade
    · exact fun hid => ⟨_, make_eq_ok h hid description category appliesTo check⟩
  · rw [← RuleId.isAccepted_iff, Bool.not_eq_true] at hid
    exact ⟨_, make_eq_error hid description category predicate? check? config presets, rfl, rfl⟩

theorem accepted_identifiers_sample :
    ProfilesFit Builtin.maxClassSize.defaults Builtin.maxClassSize.profiles ∧
      (∃ d, make "max-depth-2" "" .size (some (Predicate.kindIn [.type]))
          (some (CheckStep.toCheck [])) Builtin.maxClassSize.defaults
          Builtin.maxClassSize.profiles = .ok d ∧ d.ruleId = "max-depth-2") ∧
      ∃ e, make "max--depth" "" .size none none Builtin.maxClassSize.defaults
          Builtin.maxClassSize.profiles = .error e ∧
        e.message = "rule_id must be kebab-case, got 'max--depth'" := by
  have hfit := Builtin.maxClassSize.profilesFit
  have hkebab : KebabCase "max-depth-2" := RuleId.isKebabCase_iff.mp (by decide)
  have hnot : ¬ (KebabCase "max--depth" ∨
      ∃ name, KebabCase name ∧ "max--depth" = name ++ "\n") := by
    rw [← RuleId.isAccepted_iff]
    decide
  obtain ⟨hmade, -, -⟩ := accepted_identifiers hfit "max-depth-2" "" .size
    (Predicate.kindIn [.type]) (CheckStep.toCheck [])
  obtain ⟨-, -, hrefused⟩ := accepted_identifiers hfit "max--depth" "" .size
    (Predicate.kindIn [.type]) (CheckStep.toCheck [])
  obtain ⟨e, herror, -, hmessage⟩ := hrefused hnot none none Builtin.maxClassSize.defaults
    Builtin.maxClassSize.profiles
  exact ⟨hfit, hmade.mpr (.inl hkebab), e, herror, hmessage⟩

/-- **Not every accepted identifier is in kebab case.** An identifier with a line feed at its end is
not, and a rule of that name is made all the same. -/
theorem line_feed_accepted :
    ¬ KebabCase "page-size\n" ∧
      ∃ d, make "page-size\n" "" .size (some (Predicate.kindIn [.type]))
        (some (CheckStep.toCheck [])) (.starting []) .empty = .ok d ∧ d.ruleId = "page-size\n" := by
  have hfit : ProfilesFit (.starting []) .empty :=
    ⟨by simp [Table.empty], by simp [RuleConfig.starting]⟩
  refine ⟨?_, _, make_eq_ok hfit (by decide) "" .size (Predicate.kindIn [.type])
    (CheckStep.toCheck []), rfl⟩
  rw [← RuleId.isKebabCase_iff]
  decide

end RuleDefinition

end Conformance
